/-
Bootmux.NetworkGuardian.FakeHost — the simulated host that plans are tried on
(`bootmux-network-guardian.py`).

A command is found by the words it contains, so `simulate` reads any
list of words; an index past its end raises, which is `none`. A service
that `_dns` does not list has empty lists. Left out: `commands`, the
record of what was run.

Nothing here is checked against macOS: where the simulator takes the last
dotted quad of a command for the gateway, or compares only the beginning of
a destination, the model does the same.
-/
import Bootmux.Lib.PyText
import Bootmux.NetworkGuardian.Repair

namespace Bootmux.NetworkGuardian

open Bootmux.Lib.PyText

structure FakeHost where
  usb : List UsbDevice
  interfaces : List Interface
  routes : List Route
  services : List Service
  wifiDevice : Option String
  wifiPower : Option Bool
  wifiSsid : Option String
  wifiIpv4 : Ipv4
  dns : String → Dns
  heartbeat : Bool
  clock : ℚ
  /-- The return codes of the commands that have no effect. -/
  runResults : List String → Option Int

/-! ## Deleting a route -/

/-- `argv[argv.index(word) + 1]`. -/
def wordAfter (word : String) (argv : List String) : Option String := argv[argv.idxOf word + 1]?

/-- The last word that is a dotted quad. -/
def gatewayArg (argv : List String) : Option String :=
  argv.reverse.find? fun token => isDottedQuad token.toList

/-- `dest_arg`. -/
def destArg (argv : List String) : Option (Option String) :=
  if "default" ∈ argv then some (some "default")
  else if "-net" ∈ argv then (wordAfter "-net" argv).map some
  else if "-host" ∈ argv then (wordAfter "-host" argv).map some
  else some none

def routeMatchesDelete (route : Route) (argv : List String) : Option Bool :=
  match gatewayArg argv with
  | some gateway => some (route.gateway == some gateway)
  | none =>
      match destArg argv with
      | none => none
      | some none => some false
      | some (some dest) =>
          if route.destination ≠ some dest then some false
          else if "-ifscope" ∈ argv then
            (wordAfter "-ifscope" argv).map fun iface => route.interface == some iface
          else some true

/-- The routes that a command does not match. -/
def deleteRoutes (argv : List String) : List Route → Option (List Route)
  | [] => some []
  | route :: routes => do
      let gone ← routeMatchesDelete route argv
      let rest ← deleteRoutes argv routes
      return if gone then rest else route :: rest

/-! ## Other commands -/

def setEnabled (name : String) (state : Bool) (services : List Service) : List Service :=
  services.map fun svc => if svc.name = name then { svc with enabled := state } else svc

/-- Each named service gets its place in the list as its order. -/
def orderServices (names : List String) (services : List Service) : List Service :=
  names.zipIdx.foldl (fun services entry => services.map fun svc =>
    if svc.name = entry.1 then { svc with order := entry.2 + 1 } else svc) services

/-- The list a command sets, given as words. -/
def listValue (values : List String) : List String := if values = ["Empty"] then [] else values

/-- What `ipconfig set ... DHCP` gives. -/
def dhcpLease : Ipv4 :=
  ⟨some "dhcp", some "192.168.1.50", some "255.255.255.0", some "192.168.1.1"⟩

namespace FakeHost

variable (fake : FakeHost)

/-- The part of `_simulate` for `networksetup`. -/
def networksetup (argv : List String) : Option FakeHost :=
  if "-setnetworkserviceenabled" ∈ argv then do
    let name ← wordAfter "-setnetworkserviceenabled" argv
    let state ← argv[argv.idxOf "-setnetworkserviceenabled" + 2]?
    return { fake with services := setEnabled name (state == "on") fake.services }
  else if "-setairportpower" ∈ argv then
    some { fake with wifiPower := some (argv.getLast? == some "on") }
  else if "-setairportnetwork" ∈ argv then some { fake with wifiSsid := argv.getLast? }
  else if "-setmanual" ∈ argv then
    match argv.reverse with
    | router :: mask :: address :: _ =>
        some { fake with wifiIpv4 := ⟨some "manual", some address, some mask, some router⟩ }
    | _ => none
  else if "-setdnsservers" ∈ argv then do
    let name ← wordAfter "-setdnsservers" argv
    let values := argv.drop (argv.idxOf "-setdnsservers" + 2)
    return { fake with
      dns := Function.update fake.dns name { fake.dns name with servers := listValue values } }
  else if "-setsearchdomains" ∈ argv then do
    let name ← wordAfter "-setsearchdomains" argv
    let values := argv.drop (argv.idxOf "-setsearchdomains" + 2)
    return { fake with
      dns := Function.update fake.dns name { fake.dns name with search := listValue values } }
  else if "-ordernetworkservices" ∈ argv then
    let names := argv.drop (argv.idxOf "-ordernetworkservices" + 1)
    some { fake with services := orderServices names fake.services }
  else some fake

/-- `_simulate`. -/
def simulate (argv : List String) : Option FakeHost :=
  if argv.head? = some "route" ∧ "delete" ∈ argv then
    (deleteRoutes argv fake.routes).map fun routes => { fake with routes := routes }
  else if argv.head? = some "networksetup" then fake.networksetup argv
  else if argv.head? = some "ipconfig" ∧ "set" ∈ argv ∧ "DHCP" ∈ argv then
    some { fake with wifiIpv4 := dhcpLease }
  else some fake

/-- `run`: the host and the return code. -/
def run (argv : List String) : Option (FakeHost × Int) :=
  match fake.runResults argv with
  | some returncode => some (fake, returncode)
  | none => (fake.simulate argv).map fun fake => (fake, 0)

/-- The plan with every command simulated. -/
def execute : FakeHost → List Command → Option FakeHost
  | fake, [] => some fake
  | fake, command :: plan => do
      let fake ← fake.simulate command.argv
      fake.execute plan

end FakeHost

/-- A `FakeHost` as a host. A call of `run` that raises ends a plan, so what
it leaves is never seen. -/
def fakeHost : Host FakeHost where
  usbDevices fake := fake.usb
  interfaces fake := fake.interfaces
  routes fake := fake.routes
  services fake := fake.services
  wifiDevice fake := fake.wifiDevice
  wifiPower fake _ := fake.wifiPower
  wifiSsid fake _ := fake.wifiSsid
  wifiIpv4 fake _ := fake.wifiIpv4
  dns fake service := fake.dns service
  heartbeat fake _ := fake.heartbeat
  now fake := fake.clock
  run fake argv := (fake.run argv).getD (fake, 1)

namespace FakeHost

theorem runResults_networksetup {fake fake' : FakeHost} {argv : List String}
    (h : fake.networksetup argv = some fake') : fake'.runResults = fake.runResults := by
  unfold networksetup at h
  simp only [Option.bind_eq_bind, Option.pure_def] at h
  split_ifs at h
  · obtain ⟨name, -, h⟩ := Option.bind_eq_some_iff.mp h
    obtain ⟨state, -, h⟩ := Option.bind_eq_some_iff.mp h
    obtain rfl := Option.some.inj h
    rfl
  · obtain rfl := Option.some.inj h
    rfl
  · obtain rfl := Option.some.inj h
    rfl
  · split at h
    · obtain rfl := Option.some.inj h
      rfl
    · cases h
  · obtain ⟨name, -, h⟩ := Option.bind_eq_some_iff.mp h
    obtain rfl := Option.some.inj h
    rfl
  · obtain ⟨name, -, h⟩ := Option.bind_eq_some_iff.mp h
    obtain rfl := Option.some.inj h
    rfl
  · obtain rfl := Option.some.inj h
    rfl
  · obtain rfl := Option.some.inj h
    rfl

/-- A simulated command leaves the given results as they are. -/
theorem runResults_simulate {fake fake' : FakeHost} {argv : List String}
    (h : fake.simulate argv = some fake') : fake'.runResults = fake.runResults := by
  unfold simulate at h
  split at h
  · obtain ⟨routes, -, rfl⟩ := Option.map_eq_some_iff.mp h
    rfl
  · split at h
    · exact runResults_networksetup h
    · split at h
      · obtain rfl := Option.some.inj h
        rfl
      · obtain rfl := Option.some.inj h
        rfl

theorem execute_cons (fake : FakeHost) (command : Command) (plan : List Command) :
    fake.execute (command :: plan) = (fake.simulate command.argv).bind (·.execute plan) := rfl

/-- Where no command is given a result of its own and none raises, executing
a plan is `execute`. -/
theorem executePlan_of_execute {fake fake' : FakeHost} {plan : List Command}
    (hresults : fake.runResults = fun _ => none) (h : fake.execute plan = some fake') :
    executePlan fakeHost fake plan = (fake', ⟨plan, [], true⟩) := by
  induction plan generalizing fake with
  | nil =>
      obtain rfl := Option.some.inj h
      rfl
  | cons command plan ih =>
      rw [execute_cons, Option.bind_eq_some_iff] at h
      obtain ⟨next, hnext, hrest⟩ := h
      have hrun : fakeHost.run fake command.argv = (next, 0) := by
        simp [fakeHost, run, hresults, hnext]
      have htail := ih ((runResults_simulate hnext).trans hresults) hrest
      simp [executePlan, hrun, htail]

end FakeHost

end Bootmux.NetworkGuardian
