/-
Bootmux.AttachShield.Session — a session of the pre-attach shield: arming,
recovery and the close (`bootmux-attach-shield.py`).

`Shield` is what a session changes: the host and its journal. The steps of
a recovery are kept as the source keeps them, by key, since Q8 goes by
whether one of them is incomplete. The waits between two commands, the
session log and the printed texts are left out; `sessionId` is the random
part of the names of a session.

The functions stand in the order of the source: the network location, the
quarantine, the anchor and the pinned routes, the detection of a device, the
steps Q1 to Q8 of a recovery, the state of a session with the arming, and
the steps C1 to C10 of a close. A step that the source skips under a
condition is skipped under the same condition, and a command is given with
the words that the source gives it.
-/
import Mathlib.Algebra.Order.Ring.Unbundled.Rat
import Bootmux.AttachShield.Journal

namespace Bootmux.AttachShield

open Bootmux.NetworkGuardian (contains)

def splitRoutesV4 : List String := ["0.0.0.0/1", "128.0.0.0/1"]
def splitRoutesV6 : List String := ["::/1", "8000::/1"]
def bootmuxProductHints : List String := ["bootmux", "ncm", "ecm", "rndis"]
/-- `BOOTMUX_SUBNET` without its mask. -/
def bootmuxSubnet : String := "10.77.0.0"
def minTtl : ℚ := 60
def maxTtl : ℚ := 7200

/-- What the commands of a session change. -/
structure Shield (σ : Type) where
  host : σ
  journal : List Entry

section Session

variable {σ : Type} (host : Host σ)

/-- A command and its entry in the journal. -/
def mutate (sh : Shield σ) (command : Command) (category : Category) (target : String)
    (pre : PreValue) : Shield σ × Int :=
  let (s, exitCode) := host.run sh.host command
  (⟨s, sh.journal ++ [⟨category, target, some pre, exitCode⟩]⟩, exitCode)

/-- Commands without an entry. -/
def Shield.run (sh : Shield σ) (commands : List Command) : Shield σ :=
  { sh with host := runAll host sh.host commands }

def Shield.saveState (sh : Shield σ) : Shield σ := { sh with host := host.saveState sh.host }

/-! ## Network location -/

/-- `create_shield_location`. -/
def createShieldLocation (sessionId : String) (sh : Shield σ) : Shield σ × Option String :=
  let name := shieldLocationPrefix ++ sessionId
  let preLocation := host.currentLocation sh.host
  let existed := host.hasLocation sh.host name
  let (s, created) := host.run sh.host (.createLocation name)
  if created ≠ 0 then (⟨s, sh.journal⟩, none)
  else
    let journal := sh.journal ++
      [⟨.locationCreate, name, some { existed := some existed }, created⟩]
    let (s, switched) := host.run s (.switchToLocation name)
    if switched ≠ 0 then (Shield.run host ⟨s, journal⟩ [.deleteLocation name], none)
    else
      (⟨s, journal ++ [⟨.locationSwitch, "network_location",
        some { location := some preLocation }, switched⟩]⟩, some name)

/-- `restore_location`. -/
def restoreLocation (original shieldLocation : String) (sh : Shield σ) : Shield σ :=
  let (s, switched) := host.run sh.host (.switchToLocation original)
  if switched ≠ 0 then ⟨s, sh.journal⟩
  else
    Shield.run host ⟨s, sh.journal ++ [⟨.locationSwitch, "network_location",
      some { location := some shieldLocation }, switched⟩]⟩ [.deleteLocation shieldLocation]

/-! ## Quarantine -/

/-- One name is part of the other, whatever the case. -/
def resembles (port service : String) : Bool :=
  contains (host.lower port) (host.lower service) ||
    contains (host.lower service) (host.lower port)

/-- `identify_bootmux_services`. -/
def identifyBootmuxServices (s : σ) (baseline : Baseline) : List String :=
  let candidates := baseline.serviceOrder.filter fun service =>
    bootmuxProductHints.any (named · service)
  let iface := host.subnetInterface s
  let port := (baseline.interfaces.lookup iface).getD ""
  if host.subnetInNwi s && iface != "" && port != "" then
    baseline.serviceOrder.foldl (fun candidates service =>
      if resembles host port service && !candidates.contains service then candidates ++ [service]
      else candidates) candidates
  else candidates

/-- The routes that the quarantine deletes: destination and gateway. -/
def bootmuxRoutes (lines : List (List String)) : List (String × String) :=
  lines.filterMap fun line =>
    match line with
    | dest :: gateway :: _ => if inLine bootmuxSubnet line then some (dest, gateway) else none
    | _ => none

/-- Disables a service, with the state the baseline has for it. -/
def disableService (baseline : Baseline) (sh : Shield σ) (service : String) : Shield σ × Int :=
  mutate host sh (.setServiceEnabled service false) .serviceDisable service
    { enabled := some ((baseline.serviceEnabled.lookup service).getD true) }

/-- Deletes a BOOTMUX route; the entry comes first. -/
def deleteBootmuxRoute (sh : Shield σ) (route : String × String) : Shield σ :=
  Shield.run host
    { sh with journal := sh.journal ++ [⟨.routeDelete, route.1,
      some { existed := some true, gateway := some route.2, family := some .inet }, 0⟩] }
    [.routeDelete none route.1 (some route.2)]

/-- `quarantine_bootmux`, with the services it disabled. -/
def quarantineBootmux (baseline : Baseline) (sh : Shield σ) : Shield σ × List String :=
  let found := identifyBootmuxServices host sh.host baseline
  let (sh, disabled) := found.foldl (fun (acc : Shield σ × List String) service =>
    let (sh, exitCode) := disableService host baseline acc.1 service
    (sh, if exitCode = 0 then acc.2 ++ [service] else acc.2)) (sh, [])
  let sh := (bootmuxRoutes (host.netstat sh.host)).foldl (deleteBootmuxRoute host) sh
  if baseline.wifiService ≠ "" ∧ baseline.serviceOrder ≠ [] then
    let newOrder := baseline.wifiService ::
      baseline.serviceOrder.filter (· != baseline.wifiService)
    ((mutate host sh (.orderServices newOrder) .orderSet "network_services"
      { order := some baseline.serviceOrder }).1, disabled)
  else (sh, disabled)

/-! ## PF and routes -/

/-- `pf_install_anchor`, and whether the rules were loaded. -/
def pfInstallAnchor (iface : String) (pfWasEnabled : Bool) (sh : Shield σ) : Shield σ × Bool :=
  let (sh, exitCode) :=
      mutate host sh (.pfLoadAnchor iface) .pfAnchorLoad pfAnchor { rules := some "" }
  let sh := if pfWasEnabled then sh
    else (mutate host sh .pfEnable .pfEnable "pf" { enabled := some false }).1
  (sh, exitCode = 0)

/-- Pins a route, with its text if it was added. -/
def pinRoute (family : Family) (gateway : String) (sh : Shield σ) (dest : String) :
    Shield σ × Option String :=
  let entry := routeEntry family dest gateway
  let (sh, exitCode) :=
    mutate host sh (.routeAdd family dest gateway) .routeAdd entry { existed := some false }
  (sh, if exitCode = 0 then some entry else none)

/-- Pins the IPv4 routes one after another; at the first that fails those
before it are deleted again. -/
def pinV4 (gateway : String) :
    Shield σ → List String → List String → Shield σ × Option (List String)
  | sh, pinned, [] => (sh, some pinned)
  | sh, pinned, dest :: rest =>
      match pinRoute host .inet gateway sh dest with
      | (sh, some entry) => pinV4 gateway sh (pinned ++ [entry]) rest
      | (sh, none) =>
          (Shield.run host sh (pinned.filterMap fun entry =>
            (words entry)[1]?.map fun dest => .routeDelete (some .inet) dest (some gateway)), none)

/-- `pin_split_routes`: the routes that were pinned, and whether it is
`GREEN`. -/
def pinSplitRoutes (gateway interface : String) (sh : Shield σ) :
    Shield σ × List String × Bool :=
  if gateway = "" ∨ interface = "" then (sh, [], false)
  else
    match pinV4 host gateway sh [] splitRoutesV4 with
    | (sh, none) => (sh, [], false)
    | (sh, some pinned) =>
        let (sh, pinned) := splitRoutesV6.foldl (fun (acc : Shield σ × List String) dest =>
          let (sh, entry) := pinRoute host .inet6 gateway acc.1 dest
          (sh, acc.2 ++ entry.toList)) (sh, pinned)
        (sh, pinned, true)

/-! ## Detection -/

/-- `_is_virtual_service`. -/
def isVirtualService (name : String) : Bool :=
  ["tailscale", "vpn", "utun", "loopback", "awdl", "bridge", "thunderbolt"].any (named · name)

/-- `detect_new_external_ethernet`. -/
def detectNewExternalEthernet (s : σ) (baseline : Baseline) : List String :=
  ((host.hardwarePorts s).filter fun port =>
    !((baseline.interfaces.map Prod.fst).contains port.1 || ["lo0", "awdl0"].contains port.1) &&
      !isVirtualService port.2 &&
      ["ethernet", "ncm", "ecm", "rndis", "thunderbolt"].any (named · port.2)).map Prod.fst

/-! ## Recovery -/

/-- The keys of a recovery's steps. -/
inductive StepKey where
  | q1 (iface : String)
  | q2 (service : String)
  | q3 (dest : String)
  | q4
  | q5
  | q6
  | q7
  | q8
  | q9
  deriving DecidableEq, Repr

inductive Outcome where
  | ok
  | skip
  | incomplete
  deriving DecidableEq, Repr

abbrev Steps := List (StepKey × Outcome)

def Steps.set (steps : Steps) (key : StepKey) (outcome : Outcome) : Steps :=
  steps.filter (·.1 ≠ key) ++ [(key, outcome)]

def okIf (ok : Bool) : Outcome := if ok then .ok else .incomplete

/-- Q1: blocks the untrusted interfaces. -/
def recoverBlock (baseline : Baseline) (untrusted : List String) (acc : Shield σ × Steps) :
    Shield σ × Steps :=
  untrusted.foldl (fun acc iface =>
    let (sh, ok) := pfInstallAnchor host iface baseline.pfEnabled acc.1
    (sh, acc.2.set (.q1 iface) (okIf ok))) acc

/-- The services of the baseline that resemble the port of an interface. -/
def resembling (ports : List (String × String)) (baseline : Baseline) (iface : String) :
    List String :=
  let port := (ports.lookup iface).getD ((baseline.interfaces.lookup iface).getD "")
  if port = "" then [] else baseline.serviceOrder.filter (resembles host port)

/-- Q2: disables their services. -/
def recoverServices (baseline : Baseline) (untrusted : List String) (acc : Shield σ × Steps) :
    Shield σ × Steps :=
  let ports := host.hardwarePorts acc.1.host
  (untrusted.flatMap (resembling host ports baseline)).foldl (fun acc service =>
    let (sh, exitCode) := disableService host baseline acc.1 service
    (sh, acc.2.set (.q2 service) (okIf (exitCode = 0)))) acc

/-- The destinations of the default routes over untrusted interfaces, once for
every interface that the line names. -/
def untrustedDefaults (untrusted : List String) (lines : List (List String)) : List String :=
  lines.flatMap fun line =>
    match line with
    | [] => []
    | dest :: _ =>
        (untrusted.filter fun iface =>
          inLine iface line && (inLine "default" line || inLine "::/0" line)).map fun _ => dest

/-- Q3: deletes them. -/
def recoverRoutes (untrusted : List String) (acc : Shield σ × Steps) : Shield σ × Steps :=
  (untrustedDefaults untrusted (host.netstat acc.1.host)).foldl (fun acc dest =>
    (Shield.run host acc.1 [.routeDelete none dest none], acc.2.set (.q3 dest) .ok)) acc

/-- Q4. -/
def ipv4Commands (baseline : Baseline) : List Command :=
  if baseline.wifiService ≠ "" ∧ baseline.ipv4Mode = "DHCP" then
    [.setDhcp baseline.wifiService] else []

/-- Q5. -/
def dnsCommands (baseline : Baseline) : List Command :=
  if baseline.wifiService = "" then []
  else if baseline.dns.automatic then [.setDnsServers baseline.wifiService []]
  else if baseline.dns.names = [] then []
  else [.setDnsServers baseline.wifiService baseline.dns.names]

/-- Q6. -/
def orderCommands (baseline : Baseline) : List Command :=
  if baseline.serviceOrder = [] then [] else [.orderServices baseline.serviceOrder]

/-- Q4 to Q6: what the baseline has is set again. -/
def recoverBaseline (baseline : Baseline) (acc : Shield σ × Steps) : Shield σ × Steps :=
  let okOrSkip (present : Bool) : Outcome := if present then .ok else .skip
  (Shield.run host acc.1 (ipv4Commands baseline ++ dnsCommands baseline ++ orderCommands baseline),
    ((acc.2.set .q4 (okOrSkip (baseline.wifiService ≠ ""))).set .q5
      (okOrSkip (baseline.wifiService ≠ ""))).set .q6 (okOrSkip (baseline.serviceOrder ≠ [])))

def powerCycle (device : String) : List Command :=
  [.setAirportPower device false, .setAirportPower device true]

/-- Q7: cycles the power of a Wi-Fi that is not associated. -/
def recoverWifi (baseline : Baseline) (acc : Shield σ × Steps) : Shield σ × Steps :=
  if baseline.wifiDevice = "" ∨ host.associated acc.1.host baseline.wifiDevice then
    (acc.1, acc.2.set .q7 .skip)
  else (Shield.run host acc.1 (powerCycle baseline.wifiDevice), acc.2.set .q7 .ok)

/-- Q8: cycles it once more if a step is incomplete. -/
def recoverIncomplete (baseline : Baseline) (acc : Shield σ × Steps) : Shield σ × Steps :=
  if acc.2.any (·.2 = .incomplete) ∧ baseline.wifiDevice ≠ "" then
    (Shield.run host acc.1 (powerCycle baseline.wifiDevice), acc.2.set .q8 .ok)
  else (acc.1, acc.2.set .q8 .skip)

/-- `run_recovery`, with a journal. -/
def runRecovery (baseline : Baseline) (untrusted : List String) (sh : Shield σ) :
    Shield σ × Steps :=
  let acc := recoverBlock host baseline untrusted (sh, [])
  let acc := recoverServices host baseline untrusted acc
  let acc := recoverRoutes host untrusted acc
  let acc := recoverBaseline host baseline acc
  let acc := recoverWifi host baseline acc
  let (sh, steps) := recoverIncomplete host baseline acc
  (sh, steps.set .q9 (okIf ((host.defaultRoute sh.host).2 = baseline.wifiDevice)))

/-! ## Session state -/

structure ShieldState where
  armed : Bool
  sessionId : String
  baseline : Baseline
  pinnedRoutes : List String
  quarantinedServices : List String
  untrustedInterfaces : List String
  pfWasEnabled : Bool
  armedAt : ℚ
  expiresAt : ℚ
  routePinGreen : Bool
  shieldLocation : String
  originalLocation : String
  locationMode : Bool
  sessionClosed : Bool
  fingerprint : Fingerprint

/-- The Network Location of the session, if the host supports them. -/
def isolate (sessionId : String) (sh : Shield σ) : Shield σ × Option String :=
  if host.locationSupported sh.host then createShieldLocation host sessionId sh else (sh, none)

/-- `cmd_arm` on a host without an armed session; `none` without a Wi-Fi
device. -/
def cmdArm (sessionId : String) (now ttl : ℚ) (s : σ) : Option (Shield σ × ShieldState) :=
  let baseline := captureBaseline host s
  if baseline.wifiDevice = "" then none
  else
    let (sh, shieldLocation) := isolate host sessionId ⟨s, []⟩
    let (sh, disabled) := quarantineBootmux host baseline sh
    let (sh, pinned, green) := pinSplitRoutes host baseline.gateway baseline.wifiDevice sh
    some (Shield.saveState host sh, {
      armed := true
      sessionId := sessionId
      baseline := baseline
      pinnedRoutes := pinned
      quarantinedServices := disabled
      untrustedInterfaces := []
      pfWasEnabled := baseline.pfEnabled
      armedAt := now
      expiresAt := now + max minTtl (min ttl maxTtl)
      routePinGreen := green
      shieldLocation := shieldLocation.getD ""
      originalLocation := baseline.networkLocation
      locationMode := shieldLocation.isSome
      sessionClosed := false
      fingerprint := captureFingerprint host s })

/-- The part of the daemon that meets untrusted interfaces: it records them,
saves the state and recovers. -/
def recoverUntrusted (untrusted : List String) (sh : Shield σ) (st : ShieldState) :
    Shield σ × ShieldState :=
  ((runRecovery host st.baseline untrusted (Shield.saveState host sh)).1,
    { st with untrustedInterfaces := st.untrustedInterfaces ∪ untrusted })

/-! ## Close -/

/-- An interface recorded as untrusted is still there. -/
def stillPresent (s : σ) (st : ShieldState) : List String :=
  st.untrustedInterfaces.filter fun iface =>
    ((host.hardwarePorts s).map Prod.fst).contains iface

inductive CloseResult where
  | refusedDevicePresent
  | greenCloseComplete
  | yellowClosePartial
  | incompleteRollback
  deriving DecidableEq, Repr

/-- C1 to C10. -/
def closeHost (sh : Shield σ) (st : ShieldState) : Shield σ :=
  let sh := Shield.run host sh ([.unloadDaemon, .pfFlushAnchor pfAnchor] ++
    (if st.pfWasEnabled then [] else [.pfDisable]) ++ st.pinnedRoutes.filterMap deleteEntry)
  let sh := { sh with host := rollback host sh.host sh.journal }
  if st.locationMode ∧ st.originalLocation ≠ "" ∧ st.shieldLocation ≠ "" then
    restoreLocation host st.originalLocation st.shieldLocation sh
  else sh

/-- `close_session`. -/
def closeSession (force : Bool) (sh : Shield σ) (st : ShieldState) :
    Shield σ × ShieldState × CloseResult :=
  if !force ∧ stillPresent host sh.host st ≠ [] then (sh, st, .refusedDevicePresent)
  else
    let closed := closeHost host sh st
    let equal := st.fingerprint = captureFingerprint host closed.host
    let result :=
      if rollbackIssues sh.journal ≠ [] then .incompleteRollback
      else if equal then .greenCloseComplete
      else .yellowClosePartial
    (Shield.saveState host closed, { st with
      armed := false
      sessionClosed := true
      pinnedRoutes := []
      quarantinedServices := [] }, result)

end Session

end Bootmux.AttachShield
