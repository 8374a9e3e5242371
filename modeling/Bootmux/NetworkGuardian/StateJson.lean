/-
Bootmux.NetworkGuardian.StateJson — what the guardian makes of the JSON in a
state file (`bootmux-network-guardian.py`).

`json.load` gives a Python value or raises, on bytes that are not UTF-8 as
on text that is not JSON. `stateContent` is what `load` and `read_baseline`
see of the value. The version is compared as Python compares numbers, so
that `true` and `1.0` are version 1. A block that is missing counts as
`{}`, a block that is not an object has no `get` and raises at the first
one, which comes before any command. The values in a block are read where
a plan needs them.

`captureJson` is the object that `capture_baseline` builds. `Reads` says
that the values in two blocks are those of a typed baseline, as they are in
a captured one (`captureJson_reads`).
-/
import Bootmux.Lib.PyJson
import Bootmux.NetworkGuardian.Daemon

namespace Bootmux.NetworkGuardian

open Bootmux.Lib
open Bootmux.Lib.PyJson (optStr optFlag strList)

/-- `BASELINE_KEYS`. -/
def baselineKeys : List String :=
  ["schema_version", "captured_at", "wifi", "network", "metadata"]

/-- `members.get(key)`. -/
def getValue (members : Members) (key : String) : PyJson := PyJson.valueOf members key .null

/-- What `load` makes of a file. -/
def stateContent : Option PyJson → StateContent Members
  | none => .notJson
  | some (.dict members) =>
      .object (getValue members "schema_version").asInt
        ((members.map Prod.fst).filter fun key => !baselineKeys.contains key) members
  | some _ => .notObject

/-- A baseline as `write_baseline` leaves it: version 1, only the known keys
and both blocks objects. -/
def wellFormed : Option PyJson → Bool
  | some (.dict members) =>
      (getValue members "schema_version").asInt == some schemaVersion &&
        (members.map Prod.fst).all (baselineKeys.contains ·) &&
        (members.lookup "wifi").any (·.isDict) && (members.lookup "network").any (·.isDict)
  | _ => false

/-! ## Blocks -/

/-- The two blocks of a baseline. -/
structure JsonBaseline where
  wifi : Members
  network : Members

/-- The blocks that the plans read with `get`; `none` raises. -/
def jsonBaseline (members : Members) : Option JsonBaseline := do
  some {
    wifi := ← (PyJson.valueOf members "wifi" (.dict [])).asDict
    network := ← (PyJson.valueOf members "network" (.dict [])).asDict }

/-! ## Capture -/

/-- The blocks of a typed baseline. -/
def Baseline.json (baseline : Baseline) : JsonBaseline where
  wifi :=
    [("hardware_device", optStr baseline.wifi.hardwareDevice),
      ("service_name", optStr baseline.wifi.serviceName),
      ("power", optFlag baseline.wifi.power),
      ("associated_ssid", optStr baseline.wifi.associatedSsid),
      ("ipv4_mode", optStr baseline.wifi.ipv4Mode),
      ("ipv4_address", optStr baseline.wifi.ipv4Address),
      ("subnet_mask", optStr baseline.wifi.subnetMask),
      ("router", optStr baseline.wifi.router),
      ("dns_servers", strList baseline.wifi.dnsServers),
      ("search_domains", strList baseline.wifi.searchDomains)]
  network :=
    [("network_service_order", strList baseline.network.networkServiceOrder),
      ("service_enabled_states",
        .dict (baseline.network.serviceEnabledStates.map fun entry => (entry.1, .bool entry.2)))]

/-- `capture_baseline`. -/
def captureJson {σ : Type} (host : Host σ) (s : σ) : Members :=
  let blocks := (captureBaseline host s).json
  let defaultRoute := (host.routes s).find? fun route => route.destination == some "default"
  [("schema_version", .int schemaVersion),
    ("captured_at", .int ((host.now s).num.tdiv (host.now s).den)),
    ("wifi", .dict blocks.wifi),
    ("network", .dict ([("default_gateway", optStr (defaultRoute.bind (·.gateway))),
      ("default_interface", optStr (defaultRoute.bind (·.interface)))] ++ blocks.network ++
      [("bootmux_routes", .list [])])),
    ("metadata", .dict [("schema_version", .int schemaVersion),
      ("redacted_fields", strList ["wifi.associated_ssid"])])]

/-- The blocks hold the values of a typed baseline, `None` for a text or a
flag that is missing and nothing for a list. -/
structure Reads (json : JsonBaseline) (baseline : Baseline) : Prop where
  hardwareDevice :
    getValue json.wifi "hardware_device" = optStr baseline.wifi.hardwareDevice
  serviceName : getValue json.wifi "service_name" = optStr baseline.wifi.serviceName
  power : getValue json.wifi "power" = optFlag baseline.wifi.power
  associatedSsid :
    getValue json.wifi "associated_ssid" = optStr baseline.wifi.associatedSsid
  ipv4Mode : getValue json.wifi "ipv4_mode" = optStr baseline.wifi.ipv4Mode
  ipv4Address : getValue json.wifi "ipv4_address" = optStr baseline.wifi.ipv4Address
  subnetMask : getValue json.wifi "subnet_mask" = optStr baseline.wifi.subnetMask
  router : getValue json.wifi "router" = optStr baseline.wifi.router
  dnsServers :
    PyJson.valueOf json.wifi "dns_servers" (.list []) = strList baseline.wifi.dnsServers
  searchDomains :
    PyJson.valueOf json.wifi "search_domains" (.list []) = strList baseline.wifi.searchDomains
  order : PyJson.valueOf json.network "network_service_order" (.list []) =
    strList baseline.network.networkServiceOrder
  states : PyJson.valueOf json.network "service_enabled_states" (.dict []) =
    .dict (baseline.network.serviceEnabledStates.map fun entry => (entry.1, .bool entry.2))

/-- A captured baseline is read back. -/
theorem captureJson_reads {σ : Type} (host : Host σ) (s : σ) :
    wellFormed (some (.dict (captureJson host s))) = true ∧
      ∃ json, jsonBaseline (captureJson host s) = some json ∧
        Reads json (captureBaseline host s) := by
  refine ⟨by rfl, _, rfl, ?_⟩
  constructor <;> rfl

end Bootmux.NetworkGuardian
