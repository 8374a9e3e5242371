/-
Bootmux.NetworkGuardian.Daemon — `Guardian.tick` and the baseline it captures
(`bootmux-network-guardian.py`).

A run of the daemon is a list of what its ticks find: a state of the host
and of the state store. Between two ticks both may change in any way; in
one tick the host changes by the commands of the guardian only.

A tick that raises leaves the fields as they were set up to that point.
Left out: the time of capture and the metadata of a baseline, and the
loop `run_daemon` that sleeps between ticks.

`tickAttached` and `tickIdle` are the two branches of the source for a
proven identity and for none. What a tick reports carries the commands that
were run, so that a statement about a run of ticks can be read off the
reports.
-/
import Bootmux.Lib.Machine
import Bootmux.NetworkGuardian.Repair

namespace Bootmux.NetworkGuardian

open Bootmux.Lib

def baselineStabilitySeconds : ℚ := 15
def heartbeatFailSeconds : ℚ := 5

/-! ## Capture -/

section Capture

variable {σ : Type} (host : Host σ)

def captureBaseline (s : σ) : Baseline :=
  let device := (host.wifiDevice s).filter (· ≠ "")
  let services := host.services s
  let service := device.bind (serviceForInterface services)
  let ipv4 := device.map (host.wifiIpv4 s)
  let dns := (service.filter (· ≠ "")).map (host.dns s)
  { wifi :=
      { hardwareDevice := host.wifiDevice s
        serviceName := service
        power := device.bind (host.wifiPower s)
        associatedSsid := device.bind (host.wifiSsid s)
        ipv4Mode := ipv4.bind (·.mode)
        ipv4Address := ipv4.bind (·.address)
        subnetMask := ipv4.bind (·.subnetMask)
        router := ipv4.bind (·.router)
        dnsServers := (dns.map (·.servers)).getD []
        searchDomains := (dns.map (·.search)).getD [] }
    network :=
      { networkServiceOrder := currentOrder services none
        serviceEnabledStates := (services.map (·.name)).eraseDups.map fun name =>
          (name, (currentEnabled services name).getD true) } }

end Capture

/-! ## Writing the store -/

section Write

variable {β : Type}

/-- `atomic_write` of one of the files, in a store written as user `uid`:
the store's directory and the file afterwards. -/
def atomicWrite (uid : Nat) (file : Option (StateFile β)) (content : StateContent β) :
    StateRoot β → Except StoreError (StateRoot β × StateFile β)
  | .symlink => .error .stateStoreError
  | .notDirectory => .error .raised
  | root =>
      if file.any (·.symlink) then .error .stateStoreError
      else
        let written : StateFile β := ⟨false, 0o600, uid, content⟩
        match root with
        | .directory _ owner baseline previous =>
            .ok (.directory 0o700 owner baseline previous, written)
        | _ => .ok (.directory 0o700 uid none none, written)

/-- Where `write_baseline` puts a written file. -/
def StateRoot.setBaseline (file : StateFile β) : StateRoot β → StateRoot β
  | .directory mode uid _ previous => .directory mode uid (some file) previous
  | root => root

def StateRoot.setPrevious (file : StateFile β) : StateRoot β → StateRoot β
  | .directory mode uid baseline _ => .directory mode uid baseline (some file)
  | root => root

def previousFile : StateRoot β → Option (StateFile β)
  | .directory _ _ _ previous => previous
  | _ => none

/-- `write_baseline`: the store it leaves, and whether it raised. -/
def writeBaseline (enforceOwner : Bool) (uid : Nat) (baseline : β) (root : StateRoot β) :
    StateRoot β × Option StoreError :=
  let content := StateContent.object (some schemaVersion) [] baseline
  let write (root : StateRoot β) : StateRoot β × Option StoreError :=
    match atomicWrite uid (baselineFile root) content root with
    | .error e => (root, some e)
    | .ok (root, file) => (root.setBaseline file, none)
  match loadFile enforceOwner (baselineFile root) with
  | .error e => (root, some e)
  | .ok none => write root
  | .ok (some existing) =>
      match atomicWrite uid (previousFile root) existing root with
      | .error e => (root, some e)
      | .ok (root, file) => write (root.setPrevious file)

end Write

/-! ## The daemon -/

inductive GuardianState where
  | start
  | failClosed
  | attached
  | auditOnly
  | noBootmux
  deriving DecidableEq, Repr

structure Guardian where
  state : GuardianState
  stableSince : Option ℚ
  heartbeatFailSince : Option ℚ
  wasAttached : Bool
  lastWifiToggleAt : Option ℚ
  deriving DecidableEq, Repr

def newGuardian : Guardian where
  state := .start
  stableSince := none
  heartbeatFailSince := none
  wasAttached := false
  lastWifiToggleAt := none

inductive RepairReason where
  | heartbeatLoss
  | staleRoute
  | usbDetached
  deriving DecidableEq, Repr

/-- What the daemon calls, on a store with blocks `β`: a repair that answers
with a report `ρ`, and the capture of a baseline. -/
structure Recovery (σ β ρ : Type) where
  repairOnce : StateRoot β → σ → ℚ → Option ℚ → σ × ρ
  raised : ρ → Bool
  toggled : ρ → Bool
  captureBaseline : σ → β

/-- The calls on a store with typed baselines. -/
def recovery {σ : Type} (host : Host σ) (enforceOwner : Bool) : Recovery σ Stored RepairReport where
  repairOnce root s now last := NetworkGuardian.repairOnce host enforceOwner root s now last
  raised report := report.classification = .raised
  toggled report := report.toggled
  captureBaseline s := some (NetworkGuardian.captureBaseline host s)

/-- The action a tick reports. -/
inductive TickReport (ρ : Type) where
  | failClosed
  | monitorAttached
  | heartbeatFailing
  | repair (reason : RepairReason) (report : ρ)
  | auditOnly
  | baselineCaptured
  | stableButNotClean
  | monitoringIdle
  | raised
  deriving DecidableEq, Repr

def TickReport.isRaised {ρ : Type} : TickReport ρ → Bool
  | .raised => true
  | _ => false

theorem TickReport.isRaised_iff {ρ : Type} {report : TickReport ρ} :
    report.isRaised = true ↔ report = .raised := by
  cases report <;> simp [isRaised]

instance {ρ : Type} (report : TickReport ρ) : Decidable (report = .raised) :=
  decidable_of_iff _ TickReport.isRaised_iff

/-- The commands a tick ran. -/
def TickReport.ran : TickReport RepairReport → List Command
  | .repair _ report => report.ran ++ report.toggleRan
  | _ => []

/-- The tick power-cycled the Wi-Fi. -/
def TickReport.toggled : TickReport RepairReport → Bool
  | .repair _ report => report.toggled
  | _ => false

structure Tick (σ β ρ : Type) where
  guardian : Guardian
  host : σ
  root : StateRoot β
  report : TickReport ρ
  deriving DecidableEq, Repr

section Daemon

variable {σ β ρ : Type} (host : Host σ) (recovery : Recovery σ β ρ) (enforceOwner : Bool)
  (uid : Nat)

/-- `_do_repair`. A repair that raises leaves the guardian as it is. -/
def doRepair (g : Guardian) (s : σ) (root : StateRoot β) (now : ℚ) (reason : RepairReason) :
    Tick σ β ρ :=
  let (s', report) := recovery.repairOnce root s now g.lastWifiToggleAt
  if recovery.raised report then ⟨g, s', root, .raised⟩
  else
    ⟨{ g with
        lastWifiToggleAt := if recovery.toggled report then some now else g.lastWifiToggleAt
        state := .noBootmux
        stableSince := none }, s', root, .repair reason report⟩

/-- A route via the BOOTMUX peer. -/
def staleRoute (s : σ) : Bool := (host.routes s).any fun r => r.gateway == some bootmuxPeer

/-- The tick of a guardian whose identity is proven. -/
def tickAttached (g : Guardian) (s : σ) (root : StateRoot β) (now : ℚ) : Tick σ β ρ :=
  let g := { g with state := .attached, wasAttached := true, stableSince := none }
  if host.heartbeat s bootmuxPeer then
    ⟨{ g with heartbeatFailSince := none }, s, root, .monitorAttached⟩
  else
    let since := g.heartbeatFailSince.getD now
    let g := { g with heartbeatFailSince := some since }
    if heartbeatFailSeconds ≤ now - since then
      let tick := doRepair recovery g s root now .heartbeatLoss
      if tick.report = .raised then tick
      else { tick with guardian := { tick.guardian with heartbeatFailSince := none } }
    else ⟨g, s, root, .heartbeatFailing⟩

/-- The tick that finds nothing of BOOTMUX. -/
def tickIdle (g : Guardian) (s : σ) (root : StateRoot β) (now : ℚ) : Tick σ β ρ :=
  let since := g.stableSince.getD now
  let g := { g with state := .noBootmux, wasAttached := false, stableSince := some since }
  match readBaseline enforceOwner root with
  | .error .raised => ⟨g, s, root, .raised⟩
  | .ok (some _) => ⟨g, s, root, .monitoringIdle⟩
  | _ =>
      if baselineStabilitySeconds ≤ now - since then
        if hostIsClean host s (proveIdentity host s) then
          match writeBaseline enforceOwner uid (recovery.captureBaseline s) root with
          | (root, none) => ⟨g, s, root, .baselineCaptured⟩
          | (root, some _) => ⟨g, s, root, .raised⟩
        else ⟨g, s, root, .stableButNotClean⟩
      else ⟨g, s, root, .monitoringIdle⟩

/-- `_store_valid` finds an error. -/
def storeInvalid (root : StateRoot β) : Bool := root.exists && !validateDir enforceOwner root

def tick (g : Guardian) (s : σ) (root : StateRoot β) : Tick σ β ρ :=
  let now := host.now s
  if storeInvalid enforceOwner root then
    ⟨{ g with state := .failClosed }, s, root, .failClosed⟩
  else
    let identity := proveIdentity host s
    if identity.proven then tickAttached host recovery g s root now
    else
      let g := { g with heartbeatFailSince := none }
      if identity.ambiguous then ⟨{ g with state := .auditOnly }, s, root, .auditOnly⟩
      else
        let detached := g.wasAttached && !usbPresent host s
        if staleRoute host s || detached then
          let reason := if staleRoute host s then .staleRoute else .usbDetached
          let tick := doRepair recovery g s root now reason
          if tick.report = .raised then tick
          else { tick with guardian := { tick.guardian with wasAttached := false } }
        else tickIdle host recovery enforceOwner uid g s root now

end Daemon

/-- What a tick finds. -/
structure Observation (σ : Type) where
  host : σ
  root : StateRoot Stored
  deriving DecidableEq, Repr

/-- The tick of `g` that finds `o`. -/
abbrev tickAt {σ : Type} (host : Host σ) (enforceOwner : Bool) (uid : Nat) (g : Guardian)
    (o : Observation σ) : Tick σ Stored RepairReport :=
  tick host (recovery host enforceOwner) enforceOwner uid g o.host o.root

/-- A guardian from its start on, with the default thresholds. -/
def guardianMachine {σ : Type} (host : Host σ) (enforceOwner : Bool) (uid : Nat) :
    Machine Guardian (Observation σ) (TickReport RepairReport) where
  init := newGuardian
  step g o :=
    let tick := tickAt host enforceOwner uid g o
    (tick.guardian, [tick.report])

end Bootmux.NetworkGuardian
