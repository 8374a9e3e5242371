/-
Bootmux.AttachShield.Host — the host of the pre-attach shield, its baseline
and its fingerprint (`bootmux-attach-shield.py`).

`Host` gives what the shield reads as its parsers return it, and runs the
commands that change the network. A line of `netstat -rn` is the list of
its columns: nothing the shield looks for in a line has a space in it. A
dictionary is the list of its entries, a name that was not found is `""`.
A word of ASCII letters is looked for in a name in lower case with
`NetworkGuardian.lower`; where two names are compared with each other,
`str.lower` is that of the host.

Left out: the SSID, the virtual services and the time of capture in the
baseline, the log of a session and what the modes print.

A host is a parameter everywhere, so a Mac on which every command succeeds,
one on which some fail and one that logs its commands are instances of it.
-/
import Mathlib.Data.Char
import Mathlib.Data.List.Lex
import Mathlib.Data.List.Sort
import Bootmux.Lib.PyText
import Bootmux.NetworkGuardian.Host

namespace Bootmux.AttachShield

open Bootmux.NetworkGuardian (contains lower)

def pfAnchor : String := "com.bootmux.attach-shield"
def shieldLocationPrefix : String := "BOOTMUX-SHIELD-"

/-! ## Commands -/

/-- An address family of `route`. -/
inductive Family where
  | inet
  | inet6
  deriving DecidableEq, Repr

/-- The commands that change something. An empty list is set with the word
`Empty`. -/
inductive Command where
  /-- `networksetup -setnetworkserviceenabled` -/
  | setServiceEnabled (service : String) (on : Bool)
  /-- `networksetup -ordernetworkservices` -/
  | orderServices (names : List String)
  /-- `networksetup -setdhcp` -/
  | setDhcp (service : String)
  /-- `networksetup -setmanual` -/
  | setManual (service ip subnet router : String)
  /-- `networksetup -setv6automatic` -/
  | setV6Automatic (service : String)
  /-- `networksetup -setdnsservers` -/
  | setDnsServers (service : String) (servers : List String)
  /-- `networksetup -setsearchdomains` -/
  | setSearchDomains (service : String) (domains : List String)
  /-- `networksetup -setairportpower` -/
  | setAirportPower (device : String) (on : Bool)
  /-- `networksetup -createlocation NAME populate` -/
  | createLocation (name : String)
  /-- `networksetup -switchtolocation` -/
  | switchToLocation (name : String)
  /-- `networksetup -deletelocation` -/
  | deleteLocation (name : String)
  /-- `route -n add -net` or `-inet6` -/
  | routeAdd (family : Family) (dest gateway : String)
  /-- `route -n delete`, with or without a family and a gateway -/
  | routeDelete (family : Option Family) (dest : String) (gateway : Option String)
  /-- `pfctl -a com.bootmux.attach-shield -f`, with the rules that block an interface -/
  | pfLoadAnchor (iface : String)
  /-- `pfctl -a ANCHOR -F all` -/
  | pfFlushAnchor (anchor : String)
  /-- `pfctl -E` -/
  | pfEnable
  /-- `pfctl -d` -/
  | pfDisable
  /-- `launchctl unload` -/
  | unloadDaemon
  deriving DecidableEq, Repr

/-! ## Observations -/

/-- A manual IPv4 configuration; a line that is missing is `none`. -/
structure Manual where
  ip : Option String
  subnet : Option String
  router : Option String
  deriving DecidableEq, Repr

/-- `_parse_ipv4_info` and `_parse_ipv6_mode`. -/
structure Info where
  ipv4Mode : String
  ipv4Manual : Option Manual
  ipv6Mode : String
  deriving DecidableEq, Repr

/-- `_parse_dns_servers` and `_parse_search_domains`. -/
structure NameList where
  names : List String
  automatic : Bool
  deriving DecidableEq, Repr

/-- `Host` over states `σ`. `run` answers with the exit code. -/
structure Host (σ : Type) where
  /-- `str.lower`, for names of any letters. -/
  lower : String → List Char
  currentLocation : σ → String
  /-- `-listlocations` has a line with the name. -/
  hasLocation : σ → String → Bool
  locationSupported : σ → Bool
  hardwarePorts : σ → List (String × String)
  serviceOrder : σ → List (String × Bool)
  airportPower : σ → String → Bool
  /-- `-getairportnetwork` names a network. -/
  associated : σ → String → Bool
  info : σ → String → Info
  /-- The gateway and the interface of the default route. -/
  defaultRoute : σ → String × String
  dnsServers : σ → String → NameList
  searchDomains : σ → String → NameList
  pfEnabled : σ → Bool
  pfAnchors : σ → List String
  /-- `10.77.0.0` is in the output of `scutil --nwi`. -/
  subnetInNwi : σ → Bool
  /-- The interface of the first line of `ifconfig` with `10.77.` in it. -/
  subnetInterface : σ → String
  netstat : σ → List (List String)
  daemonLoaded : σ → Bool
  /-- The files of the shield that exist. -/
  shieldFiles : σ → List String
  run : σ → Command → σ × Int
  /-- `save_state`: the state file is there. -/
  saveState : σ → σ

/-- `needle in line`. -/
def inLine (needle : String) (line : List String) : Bool :=
  line.any fun column => contains needle.toList column.toList

/-- `hint in name.lower()`. -/
def named (hint name : String) : Bool := contains hint.toList (lower name)

/-! ## The baseline -/

structure Baseline where
  networkLocation : String
  wifiDevice : String
  wifiService : String
  wifiPower : Bool
  ipv4Mode : String
  ipv4Manual : Option Manual
  gateway : String
  gatewayInterface : String
  dns : NameList
  search : NameList
  serviceOrder : List String
  serviceEnabled : List (String × Bool)
  interfaces : List (String × String)
  pfEnabled : Bool
  deriving DecidableEq, Repr

section Capture

variable {σ : Type} (host : Host σ)

def captureBaseline (s : σ) : Baseline :=
  let interfaces := host.hardwarePorts s
  let wifiDevice := ((interfaces.find? fun port => named "wi-fi" port.2).map Prod.fst).getD ""
  let services := host.serviceOrder s
  let order := services.map Prod.fst
  let wifiService := (order.find? (named "wi-fi")).getD ""
  let info := host.info s wifiService
  let present := wifiService ≠ ""
  { networkLocation := host.currentLocation s
    wifiDevice := wifiDevice
    wifiService := wifiService
    wifiPower := wifiDevice ≠ "" && host.airportPower s wifiDevice
    ipv4Mode := if present then info.ipv4Mode else ""
    ipv4Manual := if present then info.ipv4Manual else none
    gateway := (host.defaultRoute s).1
    gatewayInterface := (host.defaultRoute s).2
    dns := if present then host.dnsServers s wifiService else ⟨[], true⟩
    search := if present then host.searchDomains s wifiService else ⟨[], true⟩
    serviceOrder := order
    serviceEnabled := services
    interfaces := interfaces
    pfEnabled := host.pfEnabled s }

/-! ## The fingerprint -/

structure Fingerprint where
  networkLocation : String
  serviceOrder : List String
  serviceEnabled : List (String × Bool)
  routes : List (List Char)
  dns : NameList
  search : NameList
  wifiIpv4Mode : String
  wifiIpv6Mode : String
  pfEnabled : Bool
  pfAnchors : List String
  launchdLoaded : Bool
  shieldFiles : List String
  deriving DecidableEq, Repr

/-- The destinations that a fingerprint passes over. -/
def transientPrefixes : List String :=
  ["fe80", "ff0", "127.", "::1", "224.", "0.0.0.0/1", "128.0.0.0/1"]

/-- What a fingerprint keeps of a line. -/
def fingerprintRoute (line : List String) : Option (List Char) :=
  match line with
  | dest :: gateway :: _ :: netif :: _ =>
      if transientPrefixes.any fun start => start.toList.isPrefixOf dest.toList then none
      else if inLine "link#" line && !inLine "UGS" line then none
      else some (dest.toList ++ " via ".toList ++ gateway.toList ++ " on ".toList ++ netif.toList)
  | _ => none

def captureFingerprint (s : σ) : Fingerprint :=
  let services := host.serviceOrder s
  let wifiService := ((services.map Prod.fst).find? (named "wi-fi")).getD ""
  let info := host.info s wifiService
  let present := wifiService ≠ ""
  { networkLocation := host.currentLocation s
    serviceOrder := services.map Prod.fst
    serviceEnabled := services
    routes := ((host.netstat s).filterMap fingerprintRoute).insertionSort (· ≤ ·)
    dns := if present then host.dnsServers s wifiService else ⟨[], true⟩
    search := if present then host.searchDomains s wifiService else ⟨[], true⟩
    wifiIpv4Mode := if present then info.ipv4Mode else ""
    wifiIpv6Mode := if present then info.ipv6Mode else ""
    pfEnabled := host.pfEnabled s
    pfAnchors := host.pfAnchors s
    launchdLoaded := host.daemonLoaded s
    shieldFiles := host.shieldFiles s }

end Capture

end Bootmux.AttachShield
