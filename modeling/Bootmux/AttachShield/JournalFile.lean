/-
Bootmux.AttachShield.JournalFile — the journal as a close reads it
(`bootmux-attach-shield.py`).

A line of the file is what `json.loads` makes of it, so it can be any value
and not only an entry of this program. `rollback` passes over what it does
not know and turns an error of one entry into an issue; an error outside of
that ends the close (`none`). A text is taken to be one that a command can
have as an argument.

The functions that read a value are those of `Lib.PyJson`, which raise where
Python does. `entry.get` on something that is no dictionary, a sum of a text
and a list, and a comparison of numbers with `None` are the cases in which
this matters.
-/
import Bootmux.Lib.PyJson
import Bootmux.AttachShield.Session

namespace Bootmux.AttachShield

open Bootmux.Lib (PyJson Members)
open Bootmux.Lib.PyJson (truthy isNumber valueOf asDict asText asTexts)

/-- A line of the file; `none` is not JSON. -/
abbrev Line := Option PyJson

/-! ## Entries -/

def categoryText : Category → String
  | .serviceDisable => "service_disable"
  | .serviceEnable => "service_enable"
  | .routeAdd => "route_add"
  | .routeDelete => "route_delete"
  | .dnsSet => "dns_set"
  | .searchSet => "search_set"
  | .orderSet => "order_set"
  | .ipv4Set => "ipv4_set"
  | .ipv6Set => "ipv6_set"
  | .pfEnable => "pf_enable"
  | .pfAnchorLoad => "pf_anchor_load"
  | .locationSwitch => "location_switch"
  | .locationCreate => "location_create"
  | .wifiPowerSet => "wifi_power_set"

def categories : List Category :=
  [.serviceDisable, .serviceEnable, .routeAdd, .routeDelete, .dnsSet, .searchSet, .orderSet,
    .ipv4Set, .ipv6Set, .pfEnable, .pfAnchorLoad, .locationSwitch, .locationCreate, .wifiPowerSet]

/-- The branch of `_rollback_one` that a category takes. -/
def categoryOf : PyJson → Option Category
  | .str name => categories.find? fun category => categoryText category == name
  | _ => none

/-- `entry.get("exit_code", 1) == 0`. -/
def succeeded (entry : Members) : Bool := (valueOf entry "exit_code" (.int 1)).asInt == some 0

/-- The command of `_rollback_one`, if there is one; `none` where it raises. -/
def undoOne (category : Category) (target pre : PyJson) : Option (List Command) :=
  let get (key : String) (default : PyJson) : Option PyJson :=
    (asDict pre).map fun members => valueOf members key default
  match category with
  | .serviceDisable => do
      if truthy (← get "enabled" (.bool false)) then
        some [.setServiceEnabled (← asText target) true]
      else some []
  | .serviceEnable => do
      if truthy (← get "enabled" (.bool true)) then some []
      else some [.setServiceEnabled (← asText target) false]
  | .routeAdd => (asText target).map fun target => (deleteEntry target).toList
  | .routeDelete => do
      if truthy (← get "existed" .null) then
        let family ← get "family" (.str "inet")
        some [.routeAdd (if asText family = some "inet6" then .inet6 else .inet)
          (← asText target) (← asText (← get "gateway" (.str "")))]
      else some []
  | .dnsSet => do
      if truthy (← get "automatic" (.bool true)) then some [.setDnsServers (← asText target) []]
      else
        let servers ← get "servers" (.list [])
        if truthy servers then some [.setDnsServers (← asText target) (← asTexts servers)]
        else some []
  | .searchSet => do
      if truthy (← get "automatic" (.bool true)) then
        some [.setSearchDomains (← asText target) []]
      else
        let domains ← get "domains" (.list [])
        if truthy domains then some [.setSearchDomains (← asText target) (← asTexts domains)]
        else some []
  | .orderSet => do
      let order ← get "order" (.list [])
      if truthy order then some [.orderServices (← asTexts order)] else some []
  | .ipv4Set => do
      let mode := asText (← get "mode" (.str "DHCP"))
      if mode = some "DHCP" then some [.setDhcp (← asText target)]
      else if mode = some "Manual" then
        let manual ← get "manual" (.dict [])
        if truthy manual then
          let manual ← asDict manual
          some [.setManual (← asText target) (← asText (valueOf manual "ip" (.str "")))
            (← asText (valueOf manual "subnet" (.str "")))
            (← asText (valueOf manual "router" (.str "")))]
        else some []
      else some []
  | .ipv6Set => do
      if asText (← get "mode" (.str "Automatic")) = some "Automatic" then
        some [.setV6Automatic (← asText target)]
      else some []
  | .pfEnable => do
      if truthy (← get "enabled" (.bool true)) then some [] else some [.pfDisable]
  | .pfAnchorLoad => (asText target).map fun target => [.pfFlushAnchor target]
  | .locationSwitch => do
      let location ← get "location" (.str "")
      if truthy location then some [.switchToLocation (← asText location)] else some []
  | .locationCreate => do
      if truthy (← get "existed" (.bool true)) then some []
      else some [.deleteLocation (← asText target)]
  | .wifiPowerSet => do
      let power ← get "power" (.bool true)
      some [.setAirportPower (← asText target) (truthy power)]

/-! ## Rollback -/

/-- What the rollback makes of a line. -/
inductive Replayed where
  /-- An error that ends the close. -/
  | raises
  | issue (category target : PyJson)
  /-- It is taken back, or nothing is done and nothing reported. -/
  | undone (commands : List Command)

def replay : PyJson → Replayed
  | .dict entry =>
      let category := valueOf entry "category" (.str "")
      let target := valueOf entry "target" (.str "")
      if !succeeded entry then .undone []
      else
        match valueOf entry "pre_value" .null with
        | .null => .issue category target
        | pre =>
            match categoryOf category with
            | none => .undone []
            | some known =>
                match undoOne known target pre with
                | none => .issue category target
                | some commands => .undone commands
  | _ => .raises

/-- `MutationJournal.__init__` can compare the numbers of the entries. -/
def numbersCompare (lines : List Line) : Bool :=
  lines.all fun line =>
    match line with
    | some (.dict entry) => isNumber (valueOf entry "seq" (.int 0))
    | _ => true

/-- `entries`. -/
def entriesOf (lines : List Line) : List PyJson := lines.reduceOption

/-! ## Writing -/

/-- A dictionary with the keys that have a value. -/
def present (fields : List (String × Option PyJson)) : Members :=
  fields.filterMap fun field => field.2.map (field.1, ·)

def textList (texts : List String) : PyJson := .list (texts.map .str)

def manualMembers (manual : Manual) : Members :=
  present [("ip", manual.ip.map .str), ("subnet", manual.subnet.map .str),
    ("router", manual.router.map .str)]

def preFields (pre : PreValue) : List (String × Option PyJson) :=
  [("enabled", pre.enabled.map .bool), ("existed", pre.existed.map .bool),
    ("gateway", pre.gateway.map .str), ("family", pre.family.map fun f => .str (familyText f)),
    ("automatic", pre.automatic.map .bool), ("servers", pre.servers.map textList),
    ("domains", pre.domains.map textList), ("order", pre.order.map textList),
    ("mode", pre.mode.map .str), ("manual", pre.manual.map fun m => .dict (manualMembers m)),
    ("rules", pre.rules.map .str), ("location", pre.location.map .str),
    ("power", pre.power.map .bool)]

/-- The line of an entry with its number. -/
def encodeEntry (number : Nat) (entry : Entry) : PyJson :=
  .dict [("seq", .int number), ("category", .str (categoryText entry.category)),
    ("target", .str entry.target),
    ("pre_value", (entry.pre.map fun pre => .dict (present (preFields pre))).getD .null),
    ("exit_code", .int entry.exitCode)]

/-- The file of a journal. -/
def encodeJournal (journal : List Entry) : List Line :=
  (journal.mapIdx fun i entry => encodeEntry (i + 1) entry).map some

section Rollback

variable {σ : Type} (host : Host σ)

/-- `rollback`, from the last entry to the first, with its issues. -/
def rollbackEntries (s : σ) : List PyJson → Option (σ × List (PyJson × PyJson))
  | [] => some (s, [])
  | entry :: rest => do
      let (s, issues) ← rollbackEntries s rest
      match replay entry with
      | .raises => none
      | .issue category target => some (s, issues ++ [(category, target)])
      | .undone commands => some (runAll host s commands, issues)

/-! ## Close -/

/-- C1 to C4. -/
def releaseCommands (st : ShieldState) : List Command :=
  [.unloadDaemon, .pfFlushAnchor pfAnchor] ++ (if st.pfWasEnabled then [] else [.pfDisable]) ++
    st.pinnedRoutes.filterMap deleteEntry

/-- C9. -/
def leaveLocation (sh : Shield σ) (st : ShieldState) : Shield σ :=
  if st.locationMode ∧ st.originalLocation ≠ "" ∧ st.shieldLocation ≠ "" then
    restoreLocation host st.originalLocation st.shieldLocation sh
  else sh

/-- `close_session` with the lines of the journal; `none` where it raises. -/
def closeLines (force : Bool) (s : σ) (lines : List Line) (st : ShieldState) :
    Option (σ × CloseResult) :=
  if !numbersCompare lines then none
  else if !force ∧ stillPresent host s st ≠ [] then some (s, .refusedDevicePresent)
  else do
    let (s, issues) ← rollbackEntries host (runAll host s (releaseCommands st)) (entriesOf lines)
    let s := (leaveLocation host ⟨s, []⟩ st).host
    let equal := st.fingerprint = captureFingerprint host s
    some (host.saveState s,
      if issues ≠ [] then .incompleteRollback
      else if equal then .greenCloseComplete
      else .yellowClosePartial)

end Rollback

end Bootmux.AttachShield
