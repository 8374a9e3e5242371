/-
Bootmux.AttachShield.Journal — the mutation journal of a session and its
rollback (`bootmux-attach-shield.py`).

An entry keeps the value that a mutation replaced as the dictionary the
shield wrote; `PreValue` has a field for every key that is written there or
that the rollback asks for. The journal is the list of its entries; their
numbers, times and commands, which the rollback does not read, are left
out.

`rollback` goes through the entries from the last one on, and runs for each
the commands that `_rollback_one` runs for its category. The exit codes of
these commands are not looked at, so `runAll` throws them away.
-/
import Bootmux.AttachShield.Host

namespace Bootmux.AttachShield

open Bootmux.Lib.PyText

/-- The categories that the rollback knows. -/
inductive Category where
  | serviceDisable
  | serviceEnable
  | routeAdd
  | routeDelete
  | dnsSet
  | searchSet
  | orderSet
  | ipv4Set
  | ipv6Set
  | pfEnable
  | pfAnchorLoad
  | locationSwitch
  | locationCreate
  | wifiPowerSet
  deriving DecidableEq, Repr

/-- A pre-value; a key that is missing is `none`. -/
structure PreValue where
  enabled : Option Bool := none
  existed : Option Bool := none
  gateway : Option String := none
  family : Option Family := none
  automatic : Option Bool := none
  servers : Option (List String) := none
  domains : Option (List String) := none
  order : Option (List String) := none
  mode : Option String := none
  manual : Option Manual := none
  rules : Option String := none
  location : Option String := none
  power : Option Bool := none
  deriving DecidableEq, Repr

structure Entry where
  category : Category
  target : String
  pre : Option PreValue
  exitCode : Int
  deriving DecidableEq, Repr

/-! ## Texts of routes -/

/-- The words of a text. -/
def words (text : String) : List String := (split text.toList).map String.ofList

def familyText : Family → String
  | .inet => "inet"
  | .inet6 => "inet6"

/-- `f"inet {dest} via {gateway}"`. -/
def routeEntry (family : Family) (dest gateway : String) : String :=
  String.ofList ((familyText family).toList ++ ' ' :: (dest.toList ++ ' ' ::
    ("via".toList ++ ' ' :: gateway.toList)))

/-- The command that deletes the route of such a text. -/
def deleteEntry (entry : String) : Option Command :=
  match words entry with
  | family :: dest :: _ :: gateway :: _ =>
      some (.routeDelete (some (if family = "inet6" then .inet6 else .inet)) dest (some gateway))
  | _ => none

/-! ## Rollback -/

/-- The commands of `_rollback_one`. -/
def rollbackOne (category : Category) (target : String) (pre : PreValue) : List Command :=
  match category with
  | .serviceDisable => if pre.enabled.getD false then [.setServiceEnabled target true] else []
  | .serviceEnable => if pre.enabled.getD true then [] else [.setServiceEnabled target false]
  | .routeAdd => (deleteEntry target).toList
  | .routeDelete =>
      if pre.existed.getD false then
        [.routeAdd (pre.family.getD .inet) target (pre.gateway.getD "")] else []
  | .dnsSet =>
      if pre.automatic.getD true then [.setDnsServers target []]
      else if pre.servers.getD [] = [] then []
      else [.setDnsServers target (pre.servers.getD [])]
  | .searchSet =>
      if pre.automatic.getD true then [.setSearchDomains target []]
      else if pre.domains.getD [] = [] then []
      else [.setSearchDomains target (pre.domains.getD [])]
  | .orderSet =>
      if pre.order.getD [] = [] then [] else [.orderServices (pre.order.getD [])]
  | .ipv4Set =>
      let mode := pre.mode.getD "DHCP"
      if mode = "DHCP" then [.setDhcp target]
      else if mode = "Manual" then
        match pre.manual with
        | some ⟨none, none, none⟩ | none => []
        | some manual =>
            [.setManual target (manual.ip.getD "") (manual.subnet.getD "") (manual.router.getD "")]
      else []
  | .ipv6Set => if pre.mode.getD "Automatic" = "Automatic" then [.setV6Automatic target] else []
  | .pfEnable => if pre.enabled.getD true then [] else [.pfDisable]
  | .pfAnchorLoad => [.pfFlushAnchor target]
  | .locationSwitch =>
      if pre.location.getD "" = "" then [] else [.switchToLocation (pre.location.getD "")]
  | .locationCreate => if pre.existed.getD true then [] else [.deleteLocation target]
  | .wifiPowerSet => [.setAirportPower target (pre.power.getD true)]

section Rollback

variable {σ : Type} (host : Host σ)

/-- Commands whose exit codes nobody looks at. -/
def runAll (s : σ) (commands : List Command) : σ :=
  commands.foldl (fun s command => (host.run s command).1) s

theorem runAll_append (s : σ) (commands rest : List Command) :
    runAll host s (commands ++ rest) = runAll host (runAll host s commands) rest :=
  List.foldl_append

/-- The rollback of one entry. -/
def rollbackEntry (s : σ) (entry : Entry) : σ :=
  if entry.exitCode ≠ 0 then s
  else
    match entry.pre with
    | none => s
    | some pre => runAll host s (rollbackOne entry.category entry.target pre)

/-- The entries that cannot be rolled back: `INCOMPLETE_ROLLBACK_UNKNOWN_PRESTATE`. -/
def rollbackIssues (journal : List Entry) : List (Category × String) :=
  (journal.reverse.filter fun entry => entry.exitCode = 0 && entry.pre.isNone).map
    fun entry => (entry.category, entry.target)

/-- `rollback`, from the last entry to the first. -/
def rollback (s : σ) (journal : List Entry) : σ := journal.reverse.foldl (rollbackEntry host) s

end Rollback

end Bootmux.AttachShield
