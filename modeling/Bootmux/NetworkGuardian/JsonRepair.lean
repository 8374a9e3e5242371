/-
Bootmux.NetworkGuardian.JsonRepair — one bounded repair with whatever JSON
the state file holds (`bootmux-network-guardian.py`).

`Plan` and `Repair` are about baselines as `capture_baseline` writes them.
The code takes any values: it compares them as Python does, goes through
the characters of a text where a list should be, and raises only where an
operation has no answer, and only if it comes to that operation. The
functions here carry the names of the typed ones; `none` raises, which in
a plan comes before the first command.

The values also reach the host, as the device or service that is asked for
and as the words of a command. The methods of `Host` are for texts, and
`SystemHost` raises on anything else; the `FakeHost` of the tests takes
other values too. So a `JsonHost` says itself which values it takes.

`ran` and `toggleRan` are the commands given to `host.run`, the one on
which it raised included. Left out: the purpose and the targets of a
command, which only go to reports.
-/
import Bootmux.NetworkGuardian.StateJson

namespace Bootmux.NetworkGuardian

open Bootmux.Lib

/-! ## The host -/

/-- A host with the calls of a repair on any value. Where it does not take
the value or the words, the call raises. -/
structure JsonHost (σ : Type) extends Host σ where
  takesDevice : PyJson → Bool
  takesService : PyJson → Bool
  takesArgv : List PyJson → Bool
  wifiPowerOf : σ → PyJson → Option Bool
  wifiSsidOf : σ → PyJson → Option String
  wifiIpv4Of : σ → PyJson → Ipv4
  dnsOf : σ → PyJson → Dns
  runOf : σ → List PyJson → σ × Int

/-- A host that takes texts only, as `SystemHost` does. -/
def Host.json {σ : Type} (host : Host σ) : JsonHost σ :=
  { host with
    takesDevice := fun device => device.asText.isSome
    takesService := fun service => service.asText.isSome
    takesArgv := fun argv => argv.all fun word => (PyJson.asText word).isSome
    wifiPowerOf := fun s device => host.wifiPower s (device.asText.getD "")
    wifiSsidOf := fun s device => host.wifiSsid s (device.asText.getD "")
    wifiIpv4Of := fun s device => host.wifiIpv4 s (device.asText.getD "")
    dnsOf := fun s service => host.dns s (service.asText.getD "")
    runOf := fun s argv => host.run s (argv.filterMap PyJson.asText) }

structure JsonCommand where
  argv : List PyJson
  step : Step

/-- A command of texts. -/
def Command.json (command : Command) : JsonCommand := ⟨command.argv.map .str, command.step⟩

namespace Json

/-! ## What the plans read -/

/-- The order of the baseline, less the BOOTMUX service. -/
def wantOrder (baseline : JsonBaseline) (bootmuxService : Option String) : Option (List PyJson) :=
  ((PyJson.valueOf baseline.network "network_service_order" (.list [])).elementsOf).map
    (·.filter fun name => !name.equalsText bootmuxService)

/-- `set(want) == set(current)`. -/
def sameSet (want : List PyJson) (current : List String) : Option Bool :=
  if want.all PyJson.hashable then
    some ((want.mapM PyJson.asText).any fun names => NetworkGuardian.sameSet names current)
  else none

/-- The entries of the baseline whose service is there in another state. -/
def changedStates (services : List Service) (baseline : JsonBaseline)
    (bootmuxService : Option String) : Option Members :=
  ((PyJson.valueOf baseline.network "service_enabled_states" (.dict [])).toDict).map
    (·.filter fun entry =>
      some entry.1 != bootmuxService &&
        match currentEnabled services entry.1 with
        | none => false
        | some state => !entry.2.isFlag state)

/-- `dns_servers` or `search_domains`, as a list. -/
def listOf (baseline : JsonBaseline) (key : String) : Option (List PyJson) :=
  (PyJson.valueOf baseline.wifi key (.list [])).elementsOf

section Plans

variable {σ : Type} (host : JsonHost σ) (s : σ)

/-! ## R3 to R5 -/

def planR3Ipv4 (baseline : Option JsonBaseline) : Option (List JsonCommand) :=
  match baseline with
  | none => some []
  | some baseline =>
      let device := getValue baseline.wifi "hardware_device"
      let service := getValue baseline.wifi "service_name"
      let mode := getValue baseline.wifi "ipv4_mode"
      let address := getValue baseline.wifi "ipv4_address"
      let mask := getValue baseline.wifi "subnet_mask"
      let router := getValue baseline.wifi "router"
      let current := host.wifiIpv4Of s device
      if !device.truthy then some []
      else if !host.takesDevice device then none
      else if mode.isText "dhcp" then
        some (if current.mode ≠ some "dhcp" then
          [⟨[.str "ipconfig", .str "set", device, .str "DHCP"], .R3⟩] else [])
      else if mode.isText "manual" then
        some (
          if !(service.truthy && address.truthy && mask.truthy && router.truthy) then []
          else if current.mode = some "manual" ∧ address.equalsText current.address ∧
              mask.equalsText current.subnetMask ∧ router.equalsText current.router then []
          else
            [⟨[.str "networksetup", .str "-setmanual", service, address, mask, router], .R3⟩])
      else some []

/-- The words that set a list of a service. -/
def setList (option : String) (service : PyJson) (values : List PyJson) : List PyJson :=
  [.str "networksetup", .str option, service] ++ (if values.isEmpty then [.str "Empty"] else values)

def planR4Dns (baseline : Option JsonBaseline) : Option (List JsonCommand) :=
  match baseline with
  | none => some []
  | some baseline =>
      let service := getValue baseline.wifi "service_name"
      let current := host.dnsOf s service
      if !service.truthy then some []
      else
        match listOf baseline "dns_servers", listOf baseline "search_domains" with
        | some servers, some search =>
            if !host.takesService service then none
            else
              some (
                (if PyJson.equalTexts servers current.servers then []
                  else [⟨setList "-setdnsservers" service servers, .R4⟩]) ++
                (if PyJson.equalTexts search current.search then []
                  else [⟨setList "-setsearchdomains" service search, .R4⟩]))
        | _, _ => none

def planR5Order (identity : IdentityResult) (baseline : Option JsonBaseline) :
    Option (List JsonCommand) :=
  match baseline with
  | none => some []
  | some baseline =>
      let services := host.services s
      let current := currentOrder services identity.service
      match wantOrder baseline identity.service,
          changedStates services baseline identity.service with
      | some want, some changed =>
          (sameSet want current).map fun same =>
            (if !want.isEmpty && same && !PyJson.equalTexts want current then
              [⟨[.str "networksetup", .str "-ordernetworkservices"] ++ want, .R5⟩] else []) ++
              changed.map fun entry =>
                ⟨[.str "networksetup", .str "-setnetworkserviceenabled", .str entry.1,
                  .str (if entry.2.truthy then "on" else "off")], .R5⟩
      | _, _ => none

/-- The plans in one; R1 and R2 do not read the baseline. -/
def buildRepairPlan (identity : IdentityResult) (baseline : Option JsonBaseline) :
    Option (List JsonCommand) := do
  let ipv4 ← planR3Ipv4 host s baseline
  let dns ← planR4Dns host s baseline
  let order ← planR5Order host s identity baseline
  some ((planR1Routes host.toHost s identity).map (·.json) ++
    (planR2Service host.toHost s identity).map (·.json) ++ ipv4 ++ dns ++ order)

end Plans

/-! ## R6 -/

/-- `value is True`. -/
def isTrue : PyJson → Bool
  | .bool b => b
  | _ => false

def buildWifiTogglePlan (baseline : Option JsonBaseline) (now : ℚ) (lastToggleAt : Option ℚ) :
    List JsonCommand :=
  match baseline with
  | none => []
  | some baseline =>
      let device := getValue baseline.wifi "hardware_device"
      let ssid := getValue baseline.wifi "associated_ssid"
      let setPower (state : String) : JsonCommand :=
        ⟨[.str "networksetup", .str "-setairportpower", device, .str state], .R6⟩
      if !device.truthy || !isTrue (getValue baseline.wifi "power") ||
          coolingDown now lastToggleAt then []
      else
        [setPower "off", setPower "on"] ++
          (if ssid.truthy then
            [⟨[.str "networksetup", .str "-setairportnetwork", device, ssid], .R6⟩] else [])

/-! ## Execution -/

/-- What came of a plan: the commands given to `host.run`, whether all of
them succeeded and whether the last one raised. -/
structure Execution where
  given : List JsonCommand
  ok : Bool
  raised : Bool

section Repair

variable {σ : Type} (host : JsonHost σ)

def executePlan : σ → List JsonCommand → σ × Execution
  | s, [] => (s, ⟨[], true, false⟩)
  | s, command :: plan =>
      if !host.takesArgv command.argv then (s, ⟨[command], true, true⟩)
      else
        let (s, returncode) := host.runOf s command.argv
        let (s, execution) := executePlan s plan
        (s, { given := command :: execution.given, ok := returncode == 0 && execution.ok
              raised := execution.raised })

/-! ## Verification -/

/-- The answers of `verify`, once the order, the states and whether the
order names the same services are read. The keys that do not read the
baseline are the typed ones. -/
def answers (s : σ) (identity : IdentityResult) (baseline : JsonBaseline) (want : List PyJson)
    (changed : Members) (same : Bool) : VerifyKey → Bool :=
  let device := getValue baseline.wifi "hardware_device"
  let service := getValue baseline.wifi "service_name"
  let ssid := getValue baseline.wifi "associated_ssid"
  fun
    | .wifiPowerMatchesBaseline =>
        !device.truthy || (getValue baseline.wifi "power").equalsFlag (host.wifiPowerOf s device)
    | .wifiSsidMatchesBaselineOrRedactedEquivalent =>
        !device.truthy || ssid.isNull || ssid.isText "<redacted>" ||
          ssid.equalsText (host.wifiSsidOf s device)
    | .wifiIpv4ModeMatchesBaseline =>
        !device.truthy ||
          (getValue baseline.wifi "ipv4_mode").equalsText (host.wifiIpv4Of s device).mode
    | .wifiDnsMatchesBaseline =>
        !device.truthy || !service.truthy ||
          (listOf baseline "dns_servers").any fun servers =>
            PyJson.equalTexts servers (host.dnsOf s service).servers
    | .serviceOrderMatchesBaseline =>
        !(!want.isEmpty && same) ||
          PyJson.equalTexts want (currentOrder (host.services s) identity.service)
    | .unrelatedServicesUnchanged => changed.isEmpty
    | key => NetworkGuardian.verify host.toHost s identity none key

/-- `verify`. -/
def verify (s : σ) (identity : IdentityResult) (baseline : Option JsonBaseline) :
    Option (VerifyKey → Bool) :=
  match baseline with
  | none => some (NetworkGuardian.verify host.toHost s identity none)
  | some baseline =>
      let device := getValue baseline.wifi "hardware_device"
      let service := getValue baseline.wifi "service_name"
      if device.truthy && !host.takesDevice device then none
      else if device.truthy && service.truthy &&
          !(host.takesService service && (listOf baseline "dns_servers").isSome) then none
      else
        match wantOrder baseline identity.service,
            changedStates (host.services s) baseline identity.service with
        | some want, some changed =>
            (sameSet want (currentOrder (host.services s) identity.service)).map
              (answers host s identity baseline want changed)
        | _, _ => none

/-! ## Orchestration -/

structure Report where
  identity : IdentityResult
  classification : Classification
  toggled : Bool
  ran : List JsonCommand
  toggleRan : List JsonCommand

/-- The part of `repair_once` behind the checks. -/
def repairWith (s : σ) (identity : IdentityResult) (baseline : Option JsonBaseline) (now : ℚ)
    (lastToggleAt : Option ℚ) : σ × Report :=
  let raised (ran toggleRan : List JsonCommand) : Report :=
    { identity := identity, classification := .raised, toggled := false, ran := ran
      toggleRan := toggleRan }
  match buildRepairPlan host s identity baseline with
  | none => (s, raised [] [])
  | some plan =>
      let (s, execution) := executePlan host s plan
      if execution.raised then (s, raised execution.given [])
      else
        match verify host s identity baseline with
        | none => (s, raised execution.given [])
        | some verification =>
            let toggle := buildWifiTogglePlan baseline now lastToggleAt
            if classify verification ≠ [] ∧ execution.ok ∧ !toggle.isEmpty then
              let (s, cycle) := executePlan host s toggle
              if cycle.raised then (s, raised execution.given cycle.given)
              else
                match verify host s identity baseline with
                | none => (s, raised execution.given cycle.given)
                | some verification =>
                    (s, { identity := identity
                          classification := .verified (classify verification)
                          toggled := true, ran := execution.given, toggleRan := cycle.given })
            else
              (s, { identity := identity, classification := .verified (classify verification)
                    toggled := false, ran := execution.given, toggleRan := [] })

def repairOnce (enforceOwner : Bool) (root : StateRoot Members) (s : σ) (now : ℚ)
    (lastToggleAt : Option ℚ) : σ × Report :=
  let identity := proveIdentity host.toHost s
  let stopped (classification : Classification) : σ × Report :=
    (s, { identity := identity, classification := classification, toggled := false, ran := []
          toggleRan := [] })
  if identity.ambiguous then stopped .ambiguous
  else
    match storeBaseline enforceOwner root with
    | .error .stateStoreError => stopped .stateInvalid
    | .error .raised => stopped .raised
    | .ok none => repairWith host s identity none now lastToggleAt
    | .ok (some members) =>
        match jsonBaseline members with
        | none => stopped .raised
        | some baseline => repairWith host s identity (some baseline) now lastToggleAt

/-- The calls of the daemon on a store with JSON in it. -/
def recovery (enforceOwner : Bool) : Recovery σ Members Report where
  repairOnce root s now last := repairOnce host enforceOwner root s now last
  raised report := report.classification = .raised
  toggled report := report.toggled
  captureBaseline s := captureJson host.toHost s

end Repair

end Json

end Bootmux.NetworkGuardian
