/-
Bootmux.AttachShield.Mac — a Mac on which every command of the shield
succeeds.

A network location holds the services with their order, flags and
configurations; the commands for services change the current one. Wi-Fi
power, PF and the routing table are there once. `route add` takes the
interface that the kernel reaches the gateway through, `route delete`
without a gateway takes the first route to the destination, and loading
the anchor replaces its rules.

Between two commands of the shield a device can come and go with its
routes, and the Wi-Fi can lose and find its network.

The events of a session are what happens to the Mac between two calls of the
shield, and the calls themselves. `movedDevices` are the devices of the
events: their routes and services are not the owner's, and are left out of
what a close has to restore.
-/
import Bootmux.Lib.Machine
import Bootmux.AttachShield.Session

namespace Bootmux.AttachShield

open Bootmux.Lib

/-! ## State -/

inductive Ipv4Config where
  | dhcp
  | manual (ip subnet router : String)
  /-- A configuration that the shield does not know, such as BOOTP. -/
  | other (text : String)
  deriving DecidableEq, Repr

/-- The services of a network location. -/
structure NetworkSet where
  order : List String
  enabled : String → Bool
  ipv4 : String → Ipv4Config
  ipv6 : String → String
  dns : String → List String
  search : String → List String

structure Route where
  dest : String
  gateway : String
  interface : String
  deriving DecidableEq, Repr

structure Mac where
  current : String
  locations : String → Option NetworkSet
  locationSupported : Bool
  /-- What a new location is populated with. -/
  populated : NetworkSet
  ports : List (String × String)
  wifiPower : Bool
  associated : Bool
  pfEnabled : Bool
  /-- The interfaces that the rules of the shield's anchor block. -/
  anchor : List String
  routes : List Route
  /-- The interface that a gateway is reached through. -/
  reached : String → String
  subnetInNwi : Bool
  subnetInterface : String
  daemonLoaded : Bool
  /-- The files of the shield: `LAUNCHD_PLIST`, `INSTALLED_SHIELD` and `STATE_FILE`. -/
  launchdPlist : Bool
  installedShield : Bool
  stateFile : Bool

/-! ## Reading -/

def emptySet : NetworkSet where
  order := []
  enabled _ := true
  ipv4 _ := .dhcp
  ipv6 _ := "Automatic"
  dns _ := []
  search _ := []

namespace Mac

/-- The services of the current location. -/
def services (mac : Mac) : NetworkSet := (mac.locations mac.current).getD emptySet

/-- The text of `-getinfo` as the shield parses it: what is not manual is
DHCP to it. -/
def info (mac : Mac) (service : String) : Info :=
  match mac.services.ipv4 service with
  | .dhcp => ⟨"DHCP", none, mac.services.ipv6 service⟩
  | .manual ip subnet router =>
      ⟨"Manual", some ⟨some ip, some subnet, some router⟩, mac.services.ipv6 service⟩
  | .other _ => ⟨"DHCP", none, mac.services.ipv6 service⟩

def nameList (names : List String) : NameList := ⟨names, names == []⟩

/-- A line of `netstat -rn`. -/
def netstatLine (route : Route) : List String :=
  [route.dest, route.gateway, "UGSc", route.interface]

/-- The first default route. -/
def defaultRoute (mac : Mac) : String × String :=
  ((mac.routes.find? (·.dest == "default")).map fun r => (r.gateway, r.interface)).getD ("", "")

/-- The files of the shield, sorted. -/
def shieldFiles (mac : Mac) : List String :=
  (if mac.launchdPlist then ["/Library/LaunchDaemons/com.bootmux.attach-shield.plist"] else []) ++
  (if mac.installedShield then
    ["/usr/local/bootmux/scripts/macos/bootmux-attach-shield.py"] else []) ++
  (if mac.stateFile then ["/var/db/bootmux-shield/shield-state.json"] else [])

/-! ## Commands -/

/-- Changes the current location. -/
def withServices (mac : Mac) (f : NetworkSet → NetworkSet) : Mac :=
  { mac with
    locations := Function.update mac.locations mac.current ((mac.locations mac.current).map f) }

/-- Without the first route to a destination. -/
def dropRoute (dest : String) (routes : List Route) : List Route :=
  routes.eraseP (·.dest == dest)

/-- What a command does. -/
def apply (mac : Mac) : Command → Mac
  | .setServiceEnabled service on =>
      mac.withServices fun set => { set with enabled := Function.update set.enabled service on }
  | .orderServices names => mac.withServices fun set => { set with order := names }
  | .setDhcp service =>
      mac.withServices fun set => { set with ipv4 := Function.update set.ipv4 service .dhcp }
  | .setManual service ip subnet router =>
      mac.withServices fun set =>
        { set with ipv4 := Function.update set.ipv4 service (.manual ip subnet router) }
  | .setV6Automatic service =>
      mac.withServices fun set => { set with ipv6 := Function.update set.ipv6 service "Automatic" }
  | .setDnsServers service servers =>
      mac.withServices fun set => { set with dns := Function.update set.dns service servers }
  | .setSearchDomains service domains =>
      mac.withServices fun set => { set with search := Function.update set.search service domains }
  | .setAirportPower _ on => { mac with wifiPower := on }
  | .createLocation name =>
      { mac with
        locations := Function.update mac.locations name
          (some ((mac.locations name).getD mac.populated)) }
  | .switchToLocation name => { mac with current := name }
  | .deleteLocation name => { mac with locations := Function.update mac.locations name none }
  | .routeAdd _ dest gateway =>
      { mac with routes := mac.routes ++ [⟨dest, gateway, mac.reached gateway⟩] }
  | .routeDelete _ dest (some gateway) =>
      { mac with routes := mac.routes.filter fun r => ¬(r.dest = dest ∧ r.gateway = gateway) }
  | .routeDelete _ dest none => { mac with routes := dropRoute dest mac.routes }
  | .pfLoadAnchor iface => { mac with anchor := [iface] }
  | .pfFlushAnchor anchor => if anchor = pfAnchor then { mac with anchor := [] } else mac
  | .pfEnable => { mac with pfEnabled := true }
  | .pfDisable => { mac with pfEnabled := false }
  | .unloadDaemon => { mac with daemonLoaded := false }

end Mac

def macHost : Host Mac where
  lower := NetworkGuardian.lower
  currentLocation := (·.current)
  hasLocation mac name := (mac.locations name).isSome
  locationSupported := (·.locationSupported)
  hardwarePorts := (·.ports)
  serviceOrder mac := mac.services.order.map fun name => (name, mac.services.enabled name)
  airportPower mac _ := mac.wifiPower
  associated mac _ := mac.wifiPower && mac.associated
  info := Mac.info
  defaultRoute := Mac.defaultRoute
  dnsServers mac service := Mac.nameList (mac.services.dns service)
  searchDomains mac service := Mac.nameList (mac.services.search service)
  pfEnabled := (·.pfEnabled)
  pfAnchors mac := if mac.anchor = [] then [] else [pfAnchor]
  subnetInNwi := (·.subnetInNwi)
  subnetInterface := (·.subnetInterface)
  netstat mac := mac.routes.map Mac.netstatLine
  daemonLoaded := (·.daemonLoaded)
  shieldFiles := Mac.shieldFiles
  run mac command := (mac.apply command, 0)
  saveState mac := { mac with stateFile := true }

/-! ## Sessions -/

/-- What happens between the arming and the close. -/
inductive Event where
  /-- A device appears, with its routes before and after those that are there. -/
  | attach (device port : String) (front back : List (String × String))
  /-- A device disappears with its routes. -/
  | detach (device : String)
  /-- The Wi-Fi finds a network or loses it. -/
  | associate (associated : Bool)
  /-- The shield recovers from untrusted interfaces. -/
  | recover (untrusted : List String)
  deriving DecidableEq, Repr

def Mac.attach (device port : String) (front back : List (String × String)) (mac : Mac) : Mac :=
  let own := List.map fun r : String × String => (⟨r.1, r.2, device⟩ : Route)
  { mac with
    ports := mac.ports ++ [(device, port)]
    routes := own front ++ mac.routes ++ own back }

def Mac.detach (device : String) (mac : Mac) : Mac :=
  { mac with
    ports := mac.ports.filter (·.1 ≠ device)
    routes := mac.routes.filter (·.interface ≠ device) }

/-- An armed session, step by step. -/
def sessionMachine (armed : Shield Mac × ShieldState) :
    Machine (Shield Mac × ShieldState) Event Unit where
  init := armed
  step state event :=
    let (sh, st) := state
    match event with
    | .attach device port front back =>
        (({ sh with host := sh.host.attach device port front back }, st), [])
    | .detach device => (({ sh with host := sh.host.detach device }, st), [])
    | .associate associated =>
        (({ sh with host := { sh.host with associated := associated } }, st), [])
    | .recover untrusted => (recoverUntrusted macHost untrusted sh st, [])

/-- The devices that came or went. -/
def movedDevices (events : List Event) : List String :=
  events.filterMap fun event =>
    match event with
    | .attach device _ _ _ => some device
    | .detach device => some device
    | _ => none

end Bootmux.AttachShield
