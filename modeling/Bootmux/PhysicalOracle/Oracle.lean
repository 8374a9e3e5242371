/-
Bootmux.PhysicalOracle.Oracle — the read-only physical-acceptance oracle
(`bootmux-physical-oracle.py`) and what it says about BOOTMUX routes.

`sanitize_snapshot` takes the guardian's baseline capture, reduces every
private field to a token or a class and passes the rest on;
`compare_invariants` compares two such snapshots. The guardian writes
`bootmux_routes` as the empty list whatever its route parser returned,
and the oracle trusts the field, so the gate on BOOTMUX routes never
closes (`bootmux_routes_never_reported`).

A host is the guardian's, together with what its commands print, which
is where the oracle reads the default route. `hashlib.sha256` is the
parameter `hexdigest`. A digit that is not decimal, on which `int`
raises, is in no address. Left out: the report lines, which repeat the
violations for a reader, and the schema, tool and redaction fields of a
snapshot.
-/
import Bootmux.NetworkGuardian.Daemon
import Bootmux.NetworkGuardian.NetstatTheorems
import Bootmux.Lib.PyJson

namespace Bootmux.PhysicalOracle

open Bootmux.Lib
open Bootmux.Lib.PyJson (optStr optFlag strList)
open Bootmux.Lib.PyText
open Bootmux.NetworkGuardian

/-! ## What the guardian captures -/

/-- A host, and the return code and output of a command that asks. -/
structure OracleHost (σ : Type) extends Host σ where
  stdout : σ → List String → Int × String

/-- `SystemHost`. -/
def systemOracleHost {σ : Type} (sys : System σ) : OracleHost σ :=
  { systemHost sys with stdout := fun s argv => ((sys.cmd s argv).2.1, (sys.cmd s argv).2.2) }

/-- A baseline as `capture_baseline` returns it. -/
structure Capture where
  capturedAt : Int
  wifi : WifiBlock
  network : NetworkBlock
  defaultGateway : Option String
  defaultInterface : Option String
  bootmuxRoutes : List PyJson

section Capture

variable {σ : Type} (host : OracleHost σ) (s : σ)

/-- `capture_baseline`, with the fields that only this tool reads. -/
def capture : Capture :=
  let base := captureBaseline host.toHost s
  let defaultRoute := (host.routes s).find? fun route => route.destination == some "default"
  { capturedAt := (host.now s).num.tdiv (host.now s).den
    wifi := base.wifi
    network := base.network
    defaultGateway := defaultRoute.bind (·.gateway)
    defaultInterface := defaultRoute.bind (·.interface)
    bootmuxRoutes := [] }

/-! ## Sanitization -/

def scanDefaultRoute (found : Option String × Option String) (line : List Char) :
    Option String × Option String :=
  let line := strip line
  if "interface:".toList.isPrefixOf line then (some (String.ofList (afterColon line)), found.2)
  else if "gateway:".toList.isPrefixOf line then (found.1, some (String.ofList (afterColon line)))
  else found

end Capture

/-- `_ip_class`. -/
def ipClass (value : Option String) : String :=
  if !truthy value then "<none>"
  else
    match (value.getD "").toList.splitOn '.' with
    | [a, b, _, _] =>
        if a = "169".toList then "169.254.x.x(link-local)"
        else if a = "10".toList then "10.x.x.x(private)"
        else if a = "192".toList ∧ b = "168".toList then "192.168.x.x(private)"
        else if a = "172".toList ∧ b ≠ [] ∧ b.all isDecimal ∧ 16 ≤ intOfDecimal b ∧
            intOfDecimal b ≤ 31 then "172.16-31.x.x(private)"
        else "<ip>"
    | _ => "<ip>"

/-- `_read_default_route`. -/
def readDefaultRoute {σ : Type} (host : OracleHost σ) (s : σ) : Option String × String :=
  let reply := host.stdout s ["route", "-n", "get", "default"]
  let found :=
    if reply.1 = 0 then (splitlines reply.2.toList).foldl scanDefaultRoute (none, none)
    else (none, none)
  (found.1, ipClass found.2)

section Snapshot

variable (hexdigest : String → String)

/-- `_token`. -/
def token : Option String → String
  | none => "<none>"
  | some value => "tok:" ++ String.ofList ((hexdigest value).toList.take 12)

variable {σ : Type} (host : OracleHost σ) (s : σ)

def sanWifi (wifi : WifiBlock) : PyJson :=
  .dict
    [("hardware_device", optStr wifi.hardwareDevice),
      ("service_name", optStr wifi.serviceName),
      ("power", optFlag wifi.power),
      ("ssid_token", .str (token hexdigest wifi.associatedSsid)),
      ("associated", .bool wifi.associatedSsid.isSome),
      ("ipv4_mode", optStr wifi.ipv4Mode),
      ("ipv4_class", .str (ipClass wifi.ipv4Address)),
      ("router_class", .str (ipClass wifi.router)),
      ("dns_server_count", .int wifi.dnsServers.length),
      ("dns_server_tokens",
        strList (wifi.dnsServers.map fun server => token hexdigest (some server))),
      ("search_domain_count", .int wifi.searchDomains.length)]

def sanNet (base : Capture) : PyJson :=
  let default := readDefaultRoute host s
  .dict
    [("default_gateway_class", .str default.2),
      ("default_interface", optStr default.1),
      ("network_service_order", strList base.network.networkServiceOrder),
      ("service_enabled_states",
        .dict (base.network.serviceEnabledStates.map fun state => (state.1, .bool state.2))),
      ("bootmux_routes", .list base.bootmuxRoutes)]

/-- `sanitize_snapshot`. -/
def sanitizeSnapshot : PyJson :=
  let base := capture host s
  .dict
    [("captured_at", .int base.capturedAt),
      ("wifi", sanWifi hexdigest base.wifi),
      ("network", sanNet host s base),
      ("bootmux_services",
        strList (base.network.networkServiceOrder.filter fun name =>
          contains "bootmux".toList (lower name)))]

end Snapshot

/-! ## Comparison -/

mutual

/-- `==` on the values of a snapshot and of a file. A float that is not
finite equals nothing a snapshot holds. -/
def pyEq : PyJson → PyJson → Bool
  | .null, .null => true
  | .str a, .str b => a == b
  | .list as, .list bs => pyEqList as bs
  | .dict as, .dict bs => as.length == bs.length && pyEqDict as bs
  | a, b =>
      match a, b with
      | .float (some p), .float (some q) => p == q
      | a, b => a.asInt.isSome && a.asInt == b.asInt

def pyEqList : List PyJson → List PyJson → Bool
  | [], [] => true
  | a :: as, b :: bs => pyEq a b && pyEqList as bs
  | _, _ => false

/-- Each member of the first has an equal one of its name in the second. -/
def pyEqDict : List (String × PyJson) → List (String × PyJson) → Bool
  | [], _ => true
  | (key, a) :: as, bs =>
      (match bs.lookup key with
        | none => false
        | some b => pyEq a b) && pyEqDict as bs

end

/-- A value that counts as true in a condition. -/
def pyTrue : PyJson → Bool
  | .null => false
  | .bool b => b
  | .int n => n != 0
  | .float value => value != some 0
  | .str text => text != ""
  | .list elements => !elements.isEmpty
  | .dict members => !members.isEmpty

/-- `d[key]`; none where it raises. -/
def item (key : String) : PyJson → Option PyJson
  | .dict members => members.lookup key
  | _ => none

/-- `d.get(key, [])`; none where it raises. -/
def getList (key : String) : PyJson → Option PyJson
  | .dict members => some ((members.lookup key).getD (.list []))
  | _ => none

/-- `INVARIANT_FIELDS`: the block and the key of each. -/
def invariantFields : List (String × String) :=
  [("wifi", "power"), ("wifi", "ssid_token"), ("wifi", "ipv4_mode"), ("wifi", "dns_server_count"),
    ("wifi", "dns_server_tokens"), ("network", "default_interface"),
    ("network", "default_gateway_class"), ("network", "network_service_order"),
    ("network", "service_enabled_states")]

def fieldName (field : String × String) : String := field.1 ++ "." ++ field.2

def getter (field : String × String) (snapshot : PyJson) : Option PyJson :=
  (item field.1 snapshot).bind (item field.2)

/-- Whether a field is a violation: unreadable in one of the two, or
different. -/
def fieldViolated (baseline current : PyJson) (field : String × String) : Bool :=
  match getter field baseline, getter field current with
  | some b, some c => !pyEq b c
  | _, _ => true

/-- `compare_invariants`: the violations; none where it raises. -/
def compareInvariants (baseline current : PyJson) (requireClean : Bool) :
    Option (List String) := do
  let violated := (invariantFields.filter (fieldViolated baseline current)).map fieldName
  let network ← item "network" current
  let bmRoutes ← getList "bootmux_routes" network
  let bmServices ← getList "bootmux_services" current
  some (violated ++
    (if pyTrue bmRoutes then ["bootmux_routes_absent"] else []) ++
    (if requireClean && pyTrue bmServices then ["bootmux_services_absent"] else []))

/-! ## The gate on BOOTMUX routes -/

section Gate

variable (hexdigest : String → String) {σ : Type} (host : OracleHost σ) (s : σ)

/-- The violations that are found in any snapshot of a host. -/
theorem compareInvariants_snapshot (baseline : PyJson) (requireClean : Bool) :
    ∃ bmServices,
      compareInvariants baseline (sanitizeSnapshot hexdigest host s) requireClean =
        some ((invariantFields.filter (fieldViolated baseline
            (sanitizeSnapshot hexdigest host s))).map fieldName ++ [] ++
          if requireClean && pyTrue bmServices then ["bootmux_services_absent"] else []) :=
  ⟨_, rfl⟩

theorem fieldName_ne {field : String × String} (h : field ∈ invariantFields) :
    fieldName field ≠ "bootmux_routes_absent" := by
  have hall : ∀ field ∈ invariantFields, fieldName field ≠ "bootmux_routes_absent" := by
    decide
  exact hall field h

/-- No comparison with a snapshot of a host reports the violation, whatever
the host and the baseline are. -/
theorem bootmux_routes_never_reported (baseline : PyJson) (requireClean : Bool)
    (violations : List String)
    (h : compareInvariants baseline (sanitizeSnapshot hexdigest host s) requireClean =
      some violations) : "bootmux_routes_absent" ∉ violations := by
  obtain ⟨bmServices, hcompare⟩ :=
    compareInvariants_snapshot hexdigest host s baseline requireClean
  rw [hcompare] at h
  cases h
  intro hmem
  simp only [List.append_nil, List.mem_append, List.mem_map, List.mem_filter] at hmem
  rcases hmem with ⟨field, ⟨hfield, -⟩, hname⟩ | hmem
  · exact fieldName_ne hfield hname
  · split at hmem
    · have hne : "bootmux_routes_absent" ≠ "bootmux_services_absent" := by decide
      exact hne (List.mem_singleton.mp hmem)
    · cases hmem

/-- A route in the host's table goes through the BOOTMUX peer. -/
def HasBootmuxRoute (table : List Route) : Prop :=
  ∃ route ∈ table, route.gateway = some bootmuxPeer

/-- A host whose routing table is `table` is reported when it has a BOOTMUX
route, by the comparison with `baseline`. -/
def RouteNoticed (table : List Route) (baseline : PyJson) (requireClean : Bool) : Prop :=
  HasBootmuxRoute table →
    ∃ violations, compareInvariants baseline (sanitizeSnapshot hexdigest host s) requireClean =
      some violations ∧ "bootmux_routes_absent" ∈ violations

/-- **BOOTMUX routes are noticed only where there are none.** `table` is the
routing table of the host, however much of it `routes` reads. -/
theorem route_noticed_iff (table : List Route) (baseline : PyJson) (requireClean : Bool) :
    RouteNoticed hexdigest host s table baseline requireClean ↔ ¬HasBootmuxRoute table := by
  constructor
  · intro hnoticed hroute
    obtain ⟨violations, hcompare, hmem⟩ := hnoticed hroute
    exact bootmux_routes_never_reported hexdigest host s baseline requireClean violations
      hcompare hmem
  · intro hnone hroute
    exact absurd hroute hnone

end Gate

/-! ## A Mac with such a route -/

def word (text : String) (ne_nil : text.toList ≠ [])
    (chars : ∀ c ∈ text.toList, isSpace c = false) : Word :=
  ⟨text.toList, ne_nil, chars⟩

/-- `10.77.0/24  10.77.0.1  UGSc  en5`. -/
def bridgeRow : NetstatRow where
  destination := .address "10.77.0/24".toList subnet_ne_nil subnet_chars
  gateway := word bootmuxPeer (by decide) (by decide)
  flags := word "UGSc" (by decide) (by decide)
  netif := word "en5" (by decide) (by decide)
  expire := none
  pad := fun _ => 8

/-- A Mac without Wi-Fi whose `netstat` lists that route. -/
def bridgedMac : System Unit where
  cmd _ argv :=
    if argv = ["netstat", "-rn", "-f", "inet"] then
      ((), 0, String.ofList (netstatOutput [bridgeRow]))
    else ((), 1, "")
  time _ := 0

/-- The guardian reads the route, and the oracle finds the Mac unchanged and
clean. -/
theorem bridged_mac_unnoticed :
    ¬RouteNoticed id (systemOracleHost bridgedMac) ()
      ((systemOracleHost bridgedMac).routes ())
      (sanitizeSnapshot id (systemOracleHost bridgedMac) ()) false := by
  intro hnoticed
  have hroutes : (systemOracleHost bridgedMac).routes () = [bridgeRow.route] :=
    routes_systemHost bridgedMac () [bridgeRow] (by simp [output, bridgedMac])
  have hclean : compareInvariants (sanitizeSnapshot id (systemOracleHost bridgedMac) ())
      (sanitizeSnapshot id (systemOracleHost bridgedMac) ()) false = some [] := by
    rfl
  have hroute : HasBootmuxRoute ((systemOracleHost bridgedMac).routes ()) := by
    rw [hroutes]
    exact ⟨bridgeRow.route, List.mem_singleton_self _, by decide⟩
  obtain ⟨violations, hcompare, habsent⟩ := hnoticed hroute
  rw [hclean] at hcompare
  cases hcompare
  cases habsent

end Bootmux.PhysicalOracle
