/-
Bootmux.NetworkGuardian.Plan — the repair plans R1 to R6
(`bootmux-network-guardian.py`).

A plan is the list of its commands: the notes of a `RepairPlan` only go
into reports, and `needs_change` says that the list is not empty. The
baseline is the one `capture_baseline` writes; a key that is missing
from a file has the default it is read with.

`sorted` is a stable sort. `current_enabled` is a dictionary, so of two
services with one name the last counts.

R1 deletes the routes of the bridge, R2 disables its service, R3 to R5 put
back what the baseline has of the Wi-Fi and of the order of the services,
and R6 cycles the power of the Wi-Fi where that was not enough. R1 to R5 are
planned on the state of the host before the first command, so a later step
does not see what an earlier one has done.
-/
import Mathlib.Data.List.Sort
import Bootmux.NetworkGuardian.Host

namespace Bootmux.NetworkGuardian

/-- The stage a command belongs to. -/
inductive Step where
  | R1 | R2 | R3 | R4 | R5 | R6
  deriving DecidableEq, Repr

structure Command where
  argv : List String
  step : Step
  purpose : String
  targetInterface : Option String := none
  targetService : Option String := none
  deriving DecidableEq, Repr

/-! ## The baseline -/

/-- The `wifi` block. -/
structure WifiBlock where
  hardwareDevice : Option String
  serviceName : Option String
  power : Option Bool
  associatedSsid : Option String
  ipv4Mode : Option String
  ipv4Address : Option String
  subnetMask : Option String
  router : Option String
  dnsServers : List String
  searchDomains : List String
  deriving DecidableEq, Repr

/-- The `network` block, less the default route and the `bootmux_routes`,
which nothing reads. -/
structure NetworkBlock where
  networkServiceOrder : List String
  serviceEnabledStates : List (String × Bool)
  deriving DecidableEq, Repr

structure Baseline where
  wifi : WifiBlock
  network : NetworkBlock
  deriving DecidableEq, Repr

section Plans

variable {σ : Type} (host : Host σ) (s : σ)

/-! ## R1 and R2: what belongs to BOOTMUX -/

def isLinkGateway (gateway : Option String) : Bool :=
  truthy gateway && "link#".toList.isPrefixOf (lower (gateway.getD ""))

/-- The command that deletes an owned route. -/
def deleteRoute (route : Route) : Command :=
  let target :=
    if route.destination = some "default" then
      ["default"] ++
        (if contains ['I'] route.flags.toList && truthy route.interface then
          ["-ifscope", route.interface.getD ""] else [])
    else if truthy route.destination && contains ['/'] (route.destination.getD "").toList then
      ["-net", route.destination.getD ""]
    else ["-host", if truthy route.destination then route.destination.getD "" else "default"]
  let gateway :=
    if truthy route.gateway && !isLinkGateway route.gateway then [route.gateway.getD ""] else []
  { argv := ["route", "-n", "delete"] ++ target ++ gateway
    step := .R1
    purpose := "remove BOOTMUX route " ++ pyStr route.destination ++ " via " ++
      pyStr route.gateway ++ " (" ++ pyStr route.interface ++ ")"
    targetInterface := route.interface }

def planR1Routes (identity : IdentityResult) : List Command :=
  ((host.routes s).filter (ownedRoute identity.interface)).map deleteRoute

/-- Whether a service is enabled, by its first entry; one that is not
listed counts as enabled. -/
def serviceEnabled (services : List Service) (name : String) : Bool :=
  ((services.find? fun svc => svc.name == name).map (·.enabled)).getD true

def planR2Service (identity : IdentityResult) : List Command :=
  match identity.service with
  | none => []
  | some service =>
      if service = "" ∨ serviceEnabled (host.services s) service = false then []
      else
        [{ argv := ["networksetup", "-setnetworkserviceenabled", service, "off"]
           step := .R2
           purpose := "disable BOOTMUX service " ++ service
           targetService := some service }]

/-! ## R3 to R5: what the baseline says -/

def planR3Ipv4 (baseline : Option Baseline) : List Command :=
  match baseline with
  | none => []
  | some baseline =>
      let wifi := baseline.wifi
      let device := wifi.hardwareDevice.getD ""
      let current := host.wifiIpv4 s device
      if !truthy wifi.hardwareDevice then []
      else if wifi.ipv4Mode = some "dhcp" then
        if current.mode ≠ some "dhcp" then
          [{ argv := ["ipconfig", "set", device, "DHCP"]
             step := .R3
             purpose := "renew DHCP on " ++ device
             targetInterface := some device }]
        else []
      else if wifi.ipv4Mode = some "manual" then
        let service := wifi.serviceName.getD ""
        if !(truthy wifi.serviceName && truthy wifi.ipv4Address && truthy wifi.subnetMask &&
            truthy wifi.router) then []
        else if current.mode = some "manual" ∧ current.address = wifi.ipv4Address ∧
            current.subnetMask = wifi.subnetMask ∧ current.router = wifi.router then []
        else
          [{ argv := ["networksetup", "-setmanual", service, wifi.ipv4Address.getD "",
                wifi.subnetMask.getD "", wifi.router.getD ""]
             step := .R3
             purpose := "restore manual IPv4 on " ++ service
             targetService := some service }]
      else []

/-- The arguments that set a list of a service; the empty list is set with
the word `Empty`. -/
def setList (option service : String) (values : List String) : List String :=
  ["networksetup", option, service] ++ (if values = [] then ["Empty"] else values)

def planR4Dns (baseline : Option Baseline) : List Command :=
  match baseline with
  | none => []
  | some baseline =>
      let wifi := baseline.wifi
      let service := wifi.serviceName.getD ""
      let current := host.dns s service
      if !truthy wifi.serviceName then []
      else
        (if current.servers ≠ wifi.dnsServers then
          [{ argv := setList "-setdnsservers" service wifi.dnsServers
             step := .R4
             purpose := "restore DNS on " ++ service
             targetService := some service }] else []) ++
          (if current.search ≠ wifi.searchDomains then
            [{ argv := setList "-setsearchdomains" service wifi.searchDomains
               step := .R4
               purpose := "restore search domains on " ++ service
               targetService := some service }] else [])

/-- The names of the services by their order, less the BOOTMUX service. -/
def currentOrder (services : List Service) (bootmuxService : Option String) : List String :=
  ((services.insertionSort fun a b => a.order ≤ b.order).map (·.name)).filter
    (some · != bootmuxService)

/-- The order of the baseline, less the BOOTMUX service. -/
def wantOrder (baseline : Baseline) (bootmuxService : Option String) : List String :=
  baseline.network.networkServiceOrder.filter (some · != bootmuxService)

def sameSet (a b : List String) : Bool := a.all (b.contains ·) && b.all (a.contains ·)

/-- `current_enabled[name]`, if the name is there. -/
def currentEnabled (services : List Service) (name : String) : Option Bool :=
  (services.reverse.find? fun svc => svc.name == name).map (·.enabled)

/-- The entries of the baseline whose service is there in another state. -/
def changedStates (services : List Service) (baseline : Baseline)
    (bootmuxService : Option String) : List (String × Bool) :=
  baseline.network.serviceEnabledStates.filter fun entry =>
    some entry.1 != bootmuxService &&
      match currentEnabled services entry.1 with
      | none => false
      | some state => state != entry.2

def planR5Order (identity : IdentityResult) (baseline : Option Baseline) : List Command :=
  match baseline with
  | none => []
  | some baseline =>
      let services := host.services s
      let want := wantOrder baseline identity.service
      let current := currentOrder services identity.service
      (if want ≠ [] ∧ sameSet want current ∧ current ≠ want then
        [{ argv := ["networksetup", "-ordernetworkservices"] ++ want
           step := .R5
           purpose := "restore network service order" }] else []) ++
        (changedStates services baseline identity.service).map fun entry =>
          { argv := ["networksetup", "-setnetworkserviceenabled", entry.1,
              if entry.2 then "on" else "off"]
            step := .R5
            purpose := "restore enabled state of " ++ entry.1
            targetService := some entry.1 }

def buildRepairPlan (identity : IdentityResult) (baseline : Option Baseline) : List Command :=
  planR1Routes host s identity ++ planR2Service host s identity ++ planR3Ipv4 host s baseline ++
    planR4Dns host s baseline ++ planR5Order host s identity baseline

end Plans

/-! ## R6: the Wi-Fi power cycle -/

def wifiToggleCooldownSeconds : ℚ := 120

/-- A power cycle that came too short a time ago. -/
def coolingDown (now : ℚ) (lastToggleAt : Option ℚ) : Bool :=
  match lastToggleAt with
  | none => false
  | some last => now - last < wifiToggleCooldownSeconds

def buildWifiTogglePlan (baseline : Option Baseline) (now : ℚ) (lastToggleAt : Option ℚ) :
    List Command :=
  match baseline with
  | none => []
  | some baseline =>
      let wifi := baseline.wifi
      let device := wifi.hardwareDevice.getD ""
      let setPower (state : String) : Command :=
        { argv := ["networksetup", "-setairportpower", device, state]
          step := .R6
          purpose := "power " ++ state ++ " " ++ device
          targetInterface := some device }
      if !truthy wifi.hardwareDevice || wifi.power != some true ||
          coolingDown now lastToggleAt then []
      else
        [setPower "off", setPower "on"] ++
          (if truthy wifi.associatedSsid then
            [{ argv := ["networksetup", "-setairportnetwork", device,
                wifi.associatedSsid.getD ""]
               step := .R6
               purpose := "rejoin captured SSID using saved credentials"
               targetInterface := some device }] else [])

end Bootmux.NetworkGuardian
