/-
Bootmux.AttachShield.VerdictTheorems — when a close may call itself complete.

The result is complete if the rollback of the journal gets through and
reports nothing, and if the fingerprint is that of the arming
(`closeLines_green_iff`). What the Mac then is, the commands decide that have
succeeded (`mac_closedHost`): the last one about a route, any that flushes
the anchor, and the last one about a service in the location that is left
current. From this comes the exact condition of an honest close
(`green_honest_iff`).

The condition is needed: the exit codes of the rollback are thrown away and
the fingerprint passes over the split routes.

The condition has three ways to hold. The rollback raises or reports, and
the close is not complete. The commands leave services that cannot be listed
as the arming listed them (`Listable`), and it is not complete either. Or
the close is right: every line was read, every pre-value is whole
(`Restorable`) and every command of the rollback succeeds, the anchor is
flushed, a pinned route was deleted last, and each service that a recovery
disabled was last set as its entry recorded (`Replayable`). The other fields
of the fingerprint are those of any arming, so the converse holds as well.

The journal is any list of JSON values, so this is also about a file that
was cut or edited. For the journals of this program the rollback is that of
the session modules, by way of the file's own theorems.
-/
import Mathlib.Data.Fintype.EquivFin
import Bootmux.AttachShield.CommandTheorems
import Bootmux.AttachShield.FaultyMac
import Bootmux.AttachShield.JournalFileTheorems

namespace Bootmux.AttachShield

open Bootmux.Lib (PyJson Members)
open Bootmux.Lib.PyJson (truthy isNumber valueOf asDict asText asTexts)

/-! ## What the rollback knows -/

/-- The commands that take back an entry, none where it raises or reports. -/
def undoCommands (entry : PyJson) : List Command :=
  match replay entry with
  | .undone commands => commands
  | _ => []

/-- The commands of a rollback, as it runs them. -/
def replayCommands : List PyJson → List Command
  | [] => []
  | entry :: rest => replayCommands rest ++ undoCommands entry

def Undoes (commands : Option (List Command)) : Prop :=
  ∀ list, commands = some list → ∀ c ∈ list, c.undoes = true

theorem Undoes.nil : Undoes (some []) := by
  rintro list ⟨⟩ c hc
  cases hc

theorem Undoes.single {command : Command} (h : command.undoes = true) :
    Undoes (some [command]) := by
  rintro list ⟨⟩ c hc
  exact List.mem_singleton.mp hc ▸ h

/-- A value that is missing raises before any command. -/
theorem Undoes.bind {α : Type} {value : Option α} {f : α → Option (List Command)}
    (h : ∀ a, Undoes (f a)) : Undoes (value >>= f) := by
  intro list hlist
  obtain ⟨a, -, ha⟩ := Option.bind_eq_some_iff.mp hlist
  exact h a list ha

theorem Undoes.ite {p : Prop} [Decidable p] {a b : Option (List Command)} (ha : Undoes a)
    (hb : Undoes b) : Undoes (if p then a else b) := by
  split
  · exact ha
  · exact hb

/-- A text of a route gives one command at most. -/
theorem undoes_deleteEntry (text : String) : Undoes (some (deleteEntry text).toList) := by
  rintro list ⟨⟩ c hc
  simp only [Option.mem_toList, deleteEntry] at hc
  split at hc
  · rw [← Option.some.inj hc]
    rfl
  · cases hc

/-- Every category is taken back by commands of a rollback. -/
theorem undoes_undoOne (category : Category) (target pre : PyJson) :
    Undoes (undoOne category target pre) := by
  cases category with
  | routeAdd =>
      intro list hlist
      obtain ⟨text, -, htext⟩ := Option.map_eq_some_iff.mp hlist
      exact undoes_deleteEntry text list (congrArg some htext)
  | pfAnchorLoad =>
      intro list hlist
      obtain ⟨text, -, rfl⟩ := Option.map_eq_some_iff.mp hlist
      simp [Command.undoes]
  | _ =>
      simp only [undoOne]
      repeat' first
        | exact Undoes.nil
        | exact Undoes.single rfl
        | refine Undoes.ite ?_ ?_
        | refine Undoes.bind fun _ => ?_

/-- What is taken back is an entry that succeeded, of a known category. -/
theorem replay_eq_undone {entry : PyJson} {commands : List Command}
    (h : replay entry = .undone commands) :
    commands = [] ∨ ∃ category target pre, undoOne category target pre = some commands := by
  cases entry with
  | dict entry =>
      simp only [replay] at h
      split_ifs at h with hfailed
      · exact .inl (by simpa using h.symm)
      · split at h
        · cases h
        · split at h
          · exact .inl (by simpa using h.symm)
          · split at h
            · cases h
            · rename_i hundo
              exact .inr ⟨_, _, _, hundo.trans (by simpa using h)⟩
  | _ => cases h

theorem undoes_undoCommands (entry : PyJson) : ∀ c ∈ undoCommands entry, c.undoes = true := by
  intro c hc
  cases hreplay : replay entry with
  | undone commands =>
      rw [undoCommands, hreplay] at hc
      rcases replay_eq_undone hreplay with rfl | ⟨category, target, pre, hundo⟩
      · cases hc
      · exact undoes_undoOne category target pre commands hundo c hc
  | _ =>
      rw [undoCommands, hreplay] at hc
      cases hc

/-- A replay runs commands of a rollback only. -/
theorem undoes_replayCommands (entries : List PyJson) :
    ∀ c ∈ replayCommands entries, c.undoes = true := by
  intro c hc
  induction entries with
  | nil => cases hc
  | cons entry rest ih =>
      rcases List.mem_append.mp hc with hc | hc
      · exact ih hc
      · exact undoes_undoCommands entry c hc

/-- The rollback gets through the journal and reports nothing. -/
def Replays (lines : List Line) : Prop :=
  numbersCompare lines = true ∧
    ∀ entry ∈ entriesOf lines, ∃ commands, replay entry = .undone commands

def asBool : PyJson → Option Bool
  | .bool b => some b
  | _ => none

/-- The pre-value has all that the rollback of the category sets, in values of
the right type, and the rollback sets it. -/
def restorable (category : Category) (target : PyJson) (pre : Members) : Bool :=
  let flag (key : String) : Option Bool := (pre.lookup key).bind asBool
  let text (key : String) : Option String := (pre.lookup key).bind asText
  let texts (key : String) : List String := ((pre.lookup key).bind asTexts).getD []
  match category with
  | .serviceDisable | .serviceEnable | .pfEnable => (flag "enabled").isSome
  | .routeAdd => flag "existed" == some false && ((asText target).bind deleteEntry).isSome
  | .routeDelete =>
      flag "existed" == some false ||
        (flag "existed" == some true && (text "gateway").isSome && (text "family").isSome)
  | .dnsSet =>
      flag "automatic" == some true || (flag "automatic" == some false && texts "servers" != [])
  | .searchSet =>
      flag "automatic" == some true || (flag "automatic" == some false && texts "domains" != [])
  | .orderSet => texts "order" != []
  | .ipv4Set =>
      text "mode" == some "DHCP" ||
        (text "mode" == some "Manual" && ((pre.lookup "manual").bind asDict).any fun manual =>
          ["ip", "subnet", "router"].all fun key => ((manual.lookup key).bind asText).isSome)
  | .ipv6Set => text "mode" == some "Automatic"
  | .pfAnchorLoad => text "rules" == some ""
  | .locationSwitch => (text "location").any (· != "")
  | .locationCreate => (flag "existed").isSome
  | .wifiPowerSet => (flag "power").isSome

/-- An entry of a known category with such a pre-value. -/
def Restorable (entry : Members) : Prop :=
  ∃ category pre, categoryOf (valueOf entry "category" (.str "")) = some category ∧
    valueOf entry "pre_value" .null = .dict pre ∧
    restorable category (valueOf entry "target" (.str "")) pre = true

/-- A text of a route, such as `record` and `pinned_routes` have. -/
def IsRouteText (text dest gateway : String) : Prop :=
  ∃ family, deleteEntry text = some (.routeDelete (some family) dest (some gateway))

/-- A route that the session has pinned: the journal or the state has it. -/
def Pinned (lines : List Line) (st : ShieldState) (dest gateway : String) : Prop :=
  (∃ entry target, .dict entry ∈ entriesOf lines ∧ succeeded entry = true ∧
    valueOf entry "category" (.str "") = .str "route_add" ∧
    valueOf entry "target" (.str "") = .str target ∧ IsRouteText target dest gateway) ∨
  ∃ text ∈ st.pinnedRoutes, IsRouteText text dest gateway

/-- A service that the session has disabled, with the state on record. -/
def Disabled (lines : List Line) (service : String) (enabled : Bool) : Prop :=
  ∃ entry pre, .dict entry ∈ entriesOf lines ∧ succeeded entry = true ∧
    valueOf entry "category" (.str "") = .str "service_disable" ∧
    valueOf entry "target" (.str "") = .str service ∧
    valueOf entry "pre_value" .null = .dict pre ∧ pre.lookup "enabled" = some (.bool enabled)

/-- What a complete close says of the Mac, of a journal and of the exit codes
of its rollback. -/
structure Honest (lines : List Line) (st : ShieldState) (codes : Nat → Int) (mac : Mac) :
    Prop where
  unpinned : ∀ dest gateway, Pinned lines st dest gateway →
    ∀ r ∈ mac.routes, ¬(r.dest = dest ∧ r.gateway = gateway)
  unblocked : mac.anchor = []
  services : ∀ service enabled, Disabled lines service enabled →
    mac.services.enabled service = enabled
  read : none ∉ lines
  restored : ∀ entry, .dict entry ∈ entriesOf lines → succeeded entry = true → Restorable entry
  exits : ∀ i < (replayCommands (entriesOf lines)).length,
    codes ((releaseCommands st).length + i) = 0

/-! ## A complete close -/

section Close

variable {σ : Type} (host : Host σ)

/-- Without an issue a rollback is the commands of its entries. -/
theorem rollbackEntries_of_replays (s : σ) {entries : List PyJson}
    (h : ∀ entry ∈ entries, ∃ commands, replay entry = .undone commands) :
    rollbackEntries host s entries = some (runAll host s (replayCommands entries), []) := by
  induction entries with
  | nil => rfl
  | cons entry rest ih =>
      obtain ⟨commands, hreplay⟩ := h entry List.mem_cons_self
      have hrest := ih fun e he => h e (List.mem_cons_of_mem _ he)
      have hundo : undoCommands entry = commands := by rw [undoCommands, hreplay]
      rw [rollbackEntries, hrest, replayCommands, hundo, runAll_append]
      simp [hreplay]

/-- A rollback without an issue has replayed every entry. -/
theorem replays_of_rollbackEntries (s : σ) {entries : List PyJson} {after : σ}
    (h : rollbackEntries host s entries = some (after, [])) :
    ∀ entry ∈ entries, ∃ commands, replay entry = .undone commands := by
  induction entries generalizing after with
  | nil => simp
  | cons entry rest ih =>
      obtain ⟨⟨middle, issues⟩, hrest, hentry⟩ := Option.bind_eq_some_iff.mp h
      cases hreplay : replay entry with
      | raises => simp [hreplay] at hentry
      | issue category target => simp [hreplay] at hentry
      | undone commands =>
          simp only [hreplay, Option.some.injEq, Prod.mk.injEq] at hentry
          obtain ⟨-, rfl⟩ := hentry
          intro e he
          rcases List.mem_cons.mp he with rfl | he
          · exact ⟨commands, hreplay⟩
          · exact ih hrest e he

/-- The host before C12. -/
def closedHost (s : σ) (lines : List Line) (st : ShieldState) : σ :=
  (leaveLocation host ⟨runAll host (runAll host s (releaseCommands st))
    (replayCommands (entriesOf lines)), []⟩ st).host

/-- A close is complete if the journal replays and the fingerprint is that of
the arming. -/
theorem closeLines_green_iff (force : Bool) (s after : σ) (lines : List Line) (st : ShieldState) :
    closeLines host force s lines st = some (after, .greenCloseComplete) ↔
      Replays lines ∧ (force = true ∨ stillPresent host s st = []) ∧
      st.fingerprint = captureFingerprint host (closedHost host s lines st) ∧
      after = host.saveState (closedHost host s lines st) := by
  rw [closeLines]
  by_cases hnumbers : numbersCompare lines = true
  swap
  · simp [Replays, hnumbers]
  rw [hnumbers, Bool.not_true, if_neg Bool.false_ne_true]
  by_cases hrefused : (!force) = true ∧ stillPresent host s st ≠ []
  · rw [if_pos hrefused]
    have hforce : force = false := by simpa using hrefused.1
    simp [hforce, hrefused.2]
  rw [if_neg hrefused]
  have hopen : force = true ∨ stillPresent host s st = [] := by
    by_cases hforce : force = true
    · exact .inl hforce
    · exact .inr (not_not.mp fun hne => hrefused ⟨by simpa using hforce, hne⟩)
  by_cases hreplays : ∀ entry ∈ entriesOf lines, ∃ commands, replay entry = .undone commands
  · rw [rollbackEntries_of_replays host _ hreplays]
    simp only [Option.bind_eq_bind, Option.bind_some, Replays, hnumbers, hopen, true_and,
      ne_eq, not_true_eq_false, if_false, closedHost, Option.some.injEq, Prod.mk.injEq]
    constructor
    · rintro ⟨rfl, hresult⟩
      split at hresult
      · exact ⟨hreplays, ‹_›, rfl⟩
      · cases hresult
    · rintro ⟨-, hequal, rfl⟩
      rw [if_pos hequal]
      exact ⟨rfl, rfl⟩
  · constructor
    · intro h
      obtain ⟨⟨middle, issues⟩, hrollback, hresult⟩ := Option.bind_eq_some_iff.mp h
      refine absurd ?_ hreplays
      have hissues : issues = [] := by
        by_contra hne
        simp [hne] at hresult
      rw [hissues] at hrollback
      exact replays_of_rollbackEntries host _ hrollback
    · rintro ⟨⟨-, hall⟩, -⟩
      exact absurd hall hreplays

end Close

/-! ## Commands that fail -/

/-- The commands that succeed, as the exit codes come. -/
def successes (codes : Nat → Int) : List Command → List Command
  | [] => []
  | command :: commands =>
      let rest := successes (fun n => codes (n + 1)) commands
      if codes 0 = 0 then command :: rest else rest

theorem successes_subset (codes : Nat → Int) (commands : List Command) :
    successes codes commands ⊆ commands := by
  induction commands generalizing codes with
  | nil => exact List.Subset.refl _
  | cons command commands ih =>
      rw [successes]
      split
      · exact List.cons_subset_cons command (ih _)
      · exact List.subset_cons_of_subset command (ih _)

/-- The commands of C9 that succeed. -/
def leaveCommands (st : ShieldState) (codes : Nat → Int) : List Command :=
  if st.locationMode ∧ st.originalLocation ≠ "" ∧ st.shieldLocation ≠ "" ∧ codes 0 = 0 then
    successes codes [.switchToLocation st.originalLocation, .deleteLocation st.shieldLocation]
  else []

/-- The commands of a close that succeed, from C1 to C9. -/
def closeCommands (lines : List Line) (st : ShieldState) (codes : Nat → Int) : List Command :=
  let commands := releaseCommands st ++ replayCommands (entriesOf lines)
  successes codes commands ++ leaveCommands st fun n => codes (commands.length + n)

section Faulty

/-- Each command takes one exit code. -/
theorem codes_runAll (f : Faulty) (commands : List Command) :
    (runAll faultyHost f commands).codes = fun n => f.codes (commands.length + n) := by
  induction commands generalizing f with
  | nil => simp [runAll]
  | cons command commands ih =>
      refine (ih (f.run command).1).trans (funext fun n => ?_)
      rw [List.length_cons, Nat.add_right_comm]
      rfl

theorem failing_runAll (f : Faulty) (commands : List Command) :
    (runAll faultyHost f commands).failing = f.failing := by
  induction commands generalizing f with
  | nil => rfl
  | cons command commands ih => exact ih (f.run command).1

/-- The Mac is what the commands make it that succeed. -/
theorem mac_runAll (f : Faulty) (commands : List Command) :
    (runAll faultyHost f commands).mac = runAll macHost f.mac (successes f.codes commands) := by
  induction commands generalizing f with
  | nil => rfl
  | cons command commands ih =>
      refine (ih (f.run command).1).trans ?_
      simp only [successes, Faulty.run]
      split <;> rfl

/-- Leaving the location deletes it only if the switch has succeeded. -/
theorem leaveLocation_faulty (f : Faulty) (st : ShieldState) :
    (leaveLocation faultyHost ⟨f, []⟩ st).host.mac =
        runAll macHost f.mac (leaveCommands st f.codes) ∧
      (leaveLocation faultyHost ⟨f, []⟩ st).host.failing = f.failing := by
  rw [leaveLocation, leaveCommands]
  by_cases hmode : st.locationMode ∧ st.originalLocation ≠ "" ∧ st.shieldLocation ≠ ""
  swap
  · rw [if_neg hmode, if_neg fun h => hmode ⟨h.1, h.2.1, h.2.2.1⟩]
    exact ⟨rfl, rfl⟩
  rw [if_pos hmode]
  by_cases hswitched : f.codes 0 = 0
  · rw [if_pos ⟨hmode.1, hmode.2.1, hmode.2.2, hswitched⟩]
    have hrun : (restoreLocation faultyHost st.originalLocation st.shieldLocation ⟨f, []⟩).host =
        runAll faultyHost f
          [.switchToLocation st.originalLocation, .deleteLocation st.shieldLocation] := by
      simp [restoreLocation, faultyHost, Faulty.run, hswitched, Shield.run, runAll]
    rw [hrun]
    exact ⟨mac_runAll f _, failing_runAll f _⟩
  · rw [if_neg fun h => hswitched h.2.2.2]
    simp [restoreLocation, faultyHost, Faulty.run, hswitched, runAll]

variable (f : Faulty) (lines : List Line) (st : ShieldState)

/-- The host after a close is the one before it after the commands that have
succeeded. -/
theorem mac_closedHost : (closedHost faultyHost f lines st).mac =
    runAll macHost f.mac (closeCommands lines st f.codes) := by
  rw [closedHost, (leaveLocation_faulty _ st).1, ← runAll_append, mac_runAll, codes_runAll,
    ← runAll_append, closeCommands]

theorem failing_closedHost : (closedHost faultyHost f lines st).failing = f.failing := by
  rw [closedHost, (leaveLocation_faulty _ st).2, failing_runAll, failing_runAll]

end Faulty

theorem undoes_releaseCommands (st : ShieldState) :
    ∀ c ∈ releaseCommands st, c.undoes = true := by
  intro c hc
  rcases List.mem_append.mp hc with hc | hc
  · rcases List.mem_append.mp hc with hc | hc
    · rcases List.mem_cons.mp hc with rfl | hc
      · rfl
      · rw [List.mem_singleton.mp hc]
        rfl
    · split at hc
      · cases hc
      · rw [List.mem_singleton.mp hc]
        rfl
  · obtain ⟨text, -, htext⟩ := List.mem_filterMap.mp hc
    exact undoes_deleteEntry text _ rfl c (by simp [htext])

/-- A close runs commands of a rollback only. -/
theorem undoes_closeCommands (lines : List Line) (st : ShieldState) (codes : Nat → Int) :
    ∀ c ∈ closeCommands lines st codes, c.undoes = true := by
  intro c hc
  rcases List.mem_append.mp hc with hc | hc
  · rcases List.mem_append.mp (successes_subset _ _ hc) with hc | hc
    · exact undoes_releaseCommands st c hc
    · exact undoes_replayCommands _ c hc
  · rw [leaveCommands] at hc
    split at hc
    · rcases List.mem_cons.mp (successes_subset _ _ hc) with rfl | hc
      · rfl
      · rw [List.mem_singleton.mp hc]
        rfl
    · cases hc

/-! ## Honest closes -/

/-- A Mac has a current location. -/
def Mac.Stands (mac : Mac) : Prop := ∃ set, mac.locations mac.current = some set

/-- A complete close of the session is honest, on every Mac and after every
arming that found the services in the states that the fingerprint has. -/
def GreenHonest (lines : List Line) (st : ShieldState) (codes : Nat → Int)
    (failing : Query → Bool) : Prop :=
  ∀ (force : Bool) (mac : Mac) (fingerprint : Fingerprint) (after : Faulty),
    fingerprint.serviceEnabled = st.fingerprint.serviceEnabled →
    closeLines faultyHost force ⟨mac, codes, failing⟩ lines
      { st with fingerprint := fingerprint } = some (after, .greenCloseComplete) →
    after.mac.Stands → Honest lines st codes after.mac

/-- The services can be left as a listing has them: the location that the
commands end in is not deleted, the order and the states that they set there
are those of the listing, and it has no service twice with two states. If
`-listnetworkserviceorder` fails the listing is empty. -/
structure Listable (commands : List Command) (failing : Bool) (listing : List (String × Bool)) :
    Prop where
  stands : ¬(Itinerary.through commands).Gone
  unlisted : failing = true → listing = []
  ordered : failing = false → ∀ names,
    lastWord orderWord (Itinerary.through commands).here = some names →
      names = listing.map Prod.fst
  states : failing = false → ∀ pair ∈ listing, ∀ on,
    lastWord (stateWord pair.1) (Itinerary.through commands).here = some on → on = pair.2
  single : failing = false → ∀ pair ∈ listing, ∀ other ∈ listing, other.1 = pair.1 →
    other.2 = pair.2

/-- The close can take back every entry of the journal: all its lines are
read, each entry that succeeded has what is needed, the rollback's commands
succeed, the anchor is flushed by C2 or by the rollback, the last successful
command about a pinned route deletes it, and a disabled service has its state
on record in the fingerprint, or the last command about it in the location
that is left current sets that state. -/
structure Replayable (lines : List Line) (st : ShieldState) (codes : Nat → Int) : Prop where
  read : none ∉ lines
  restored : ∀ entry, .dict entry ∈ entriesOf lines → succeeded entry = true → Restorable entry
  exits : ∀ i < (replayCommands (entriesOf lines)).length,
    codes ((releaseCommands st).length + i) = 0
  flushed : .pfFlushAnchor pfAnchor ∈ closeCommands lines st codes
  unpinned : ∀ dest gateway, Pinned lines st dest gateway →
    lastUse dest gateway (closeCommands lines st codes) = some .deleted
  services : ∀ service enabled, Disabled lines service enabled →
    (service, enabled) ∈ st.fingerprint.serviceEnabled ∨
      lastWord (stateWord service)
        (Itinerary.through (closeCommands lines st codes)).here = some enabled

section Honest

variable {lines : List Line} {st : ShieldState} {codes : Nat → Int} {failing : Query → Bool}

/-- C12 saves the state, and nothing else of the Mac changes. -/
theorem honest_saveState {f : Faulty} :
    Honest lines st codes (faultyHost.saveState f).mac ↔ Honest lines st codes f.mac :=
  ⟨fun h => ⟨h.unpinned, h.unblocked, h.services, h.read, h.restored, h.exits⟩,
    fun h => ⟨h.unpinned, h.unblocked, h.services, h.read, h.restored, h.exits⟩⟩

/-- What the close leaves of the services. -/
theorem services_closedHost {first : Mac} {set : NetworkSet}
    (hset : (closedHost faultyHost ⟨first, codes, failing⟩ lines st).mac.locations
      (closedHost faultyHost ⟨first, codes, failing⟩ lines st).mac.current = some set) :
    let t := Itinerary.through (closeCommands lines st codes)
    ¬t.Gone ∧ ∃ commands, (t.current ≠ some first.current → commands = []) ∧
      ∃ before, first.locations
        (closedHost faultyHost ⟨first, codes, failing⟩ lines st).mac.current = some before ∧
        set = runServices (commands ++ t.here) before := by
  rw [mac_closedHost] at hset ⊢
  exact (Itinerary.leads_through (undoes_closeCommands lines st codes) first).services hset

/-- The listing that a fingerprint has. -/
theorem serviceEnabled_captureFingerprint (f : Faulty) {set : NetworkSet}
    (hset : f.mac.locations f.mac.current = some set) :
    (captureFingerprint faultyHost f).serviceEnabled =
      if f.failing .listNetworkServiceOrder then []
      else set.order.map fun name => (name, set.enabled name) := by
  have hservices : f.mac.services = set := by rw [Mac.services, hset, Option.getD_some]
  rw [← hservices]
  rfl

/-- A listing that a complete close agrees with is one that it can leave. -/
theorem listable_of_green {first : Mac}
    (hstands : (closedHost faultyHost ⟨first, codes, failing⟩ lines st).mac.Stands)
    (hgreen : st.fingerprint.serviceEnabled = (captureFingerprint faultyHost
      (closedHost faultyHost ⟨first, codes, failing⟩ lines st)).serviceEnabled) :
    Listable (closeCommands lines st codes) (failing .listNetworkServiceOrder)
      st.fingerprint.serviceEnabled := by
  obtain ⟨set, hset⟩ := hstands
  obtain ⟨hgone, commands, -, before, -, rfl⟩ := services_closedHost hset
  rw [serviceEnabled_captureFingerprint _ hset, failing_closedHost] at hgreen
  rw [hgreen]
  refine ⟨hgone, fun hfails => if_pos hfails, ?_, ?_, ?_⟩
  · intro hlists names hnames
    simp [hlists, order_runServices, lastWord_append, hnames, Function.comp_def]
  · intro hlists pair hpair on hon
    simp only [hlists, Bool.false_eq_true, if_false] at hpair
    obtain ⟨name, -, rfl⟩ := List.mem_map.mp hpair
    simp [enabled_runServices, lastWord_append, hon]
  · intro hlists pair hpair other hother heq
    simp only [hlists, Bool.false_eq_true, if_false] at hpair hother
    obtain ⟨name, -, rfl⟩ := List.mem_map.mp hpair
    obtain ⟨name', -, rfl⟩ := List.mem_map.mp hother
    rw [show name' = name from heq]

/-- A Mac whose locations have the services of a listing. -/
def listingMac (start : String) (listing : List (String × Bool)) (other : Bool)
    (routes : List Route) (anchor : List String) : Mac :=
  { homeMac with
    current := start
    locations := fun _ => some
      { homeSet with
        order := listing.map Prod.fst
        enabled := fun service => (listing.lookup service).getD other }
    routes := routes
    anchor := anchor }

/-- A name that is listed once is looked up as listed. -/
theorem lookup_of_single {listing : List (String × Bool)} {pair : String × Bool}
    (hpair : pair ∈ listing)
    (hsingle : ∀ other ∈ listing, other.1 = pair.1 → other.2 = pair.2) :
    listing.lookup pair.1 = some pair.2 := by
  induction listing with
  | nil => cases hpair
  | cons first rest ih =>
      by_cases hname : first.1 = pair.1
      · rw [List.lookup_cons, hname, beq_self_eq_true, ← hsingle first List.mem_cons_self hname]
      · have hrest : pair ∈ rest :=
          (List.mem_cons.mp hpair).resolve_left fun heq => hname (heq ▸ rfl)
        have hne : (pair.1 == first.1) = false := by simpa using Ne.symm hname
        rw [List.lookup_cons, hne]
        exact ih hrest fun other hother => hsingle other (List.mem_cons_of_mem _ hother)

/-- Where the listing can be left, the close is complete on some Mac that has
it, whatever its routes and its anchor are. -/
theorem exists_green (hlistable : Listable (closeCommands lines st codes)
      (failing .listNetworkServiceOrder) st.fingerprint.serviceEnabled) (other : Bool)
    (routes : List Route) (anchor : List String) :
    ∃ first : Mac, first.routes = routes ∧ first.anchor = anchor ∧
      ∃ set, (closedHost faultyHost ⟨first, codes, failing⟩ lines st).mac.locations
          (closedHost faultyHost ⟨first, codes, failing⟩ lines st).mac.current = some set ∧
        (captureFingerprint faultyHost
          (closedHost faultyHost ⟨first, codes, failing⟩ lines st)).serviceEnabled =
            st.fingerprint.serviceEnabled ∧
        ∀ service, set.enabled service =
          (lastWord (stateWord service)
            (Itinerary.through (closeCommands lines st codes)).here).getD
              ((st.fingerprint.serviceEnabled.lookup service).getD other) := by
  -- A location that the commands neither lead to nor delete.
  let t := Itinerary.through (closeCommands lines st codes)
  obtain ⟨start, hstart⟩ := Infinite.exists_notMem_finset (t.deleted ++ t.current.toList).toFinset
  simp only [List.mem_toFinset, List.mem_append, Option.mem_toList, not_or] at hstart
  let first := listingMac start st.fingerprint.serviceEnabled other routes anchor
  have hleads := Itinerary.leads_through (undoes_closeCommands lines st codes) first
  have hmac := mac_closedHost ⟨first, codes, failing⟩ lines st
  have hkept : (t.current.getD start) ∉ t.deleted := by
    cases hcurrent : t.current with
    | none => exact hstart.1
    | some name => exact fun hname => hlistable.stands ⟨name, hname, hcurrent⟩
  have hset : ∃ set, (closedHost faultyHost ⟨first, codes, failing⟩ lines st).mac.locations
      (closedHost faultyHost ⟨first, codes, failing⟩ lines st).mac.current = some set := by
    rw [hmac]
    change ∃ set, (runAll macHost first (closeCommands lines st codes)).locations
      (runAll macHost first (closeCommands lines st codes)).current = some set
    rw [hleads.current]
    exact ⟨_, hleads.kept _ hkept⟩
  obtain ⟨set, hset⟩ := hset
  obtain ⟨-, commands, hcommands, before, hbefore, rfl⟩ := services_closedHost hset
  rw [hcommands hstart.2, List.nil_append] at hset
  rw [← Option.some.inj hbefore] at hset
  refine ⟨first, rfl, rfl, _, hset, ?_, fun service => enabled_runServices _ _ _⟩
  rw [serviceEnabled_captureFingerprint _ hset, failing_closedHost]
  split
  · rename_i hfails
    exact (hlistable.unlisted hfails).symm
  rename_i hlists
  replace hlists : failing .listNetworkServiceOrder = false := by simpa using hlists
  rw [order_runServices]
  have horder : (lastWord orderWord t.here).getD (st.fingerprint.serviceEnabled.map Prod.fst) =
      st.fingerprint.serviceEnabled.map Prod.fst := by
    cases hnames : lastWord orderWord t.here with
    | none => rfl
    | some names => exact hlistable.ordered hlists names hnames
  refine (congrArg (List.map _) horder).trans ?_
  rw [List.map_map]
  refine (List.map_congr_left fun pair hpair => ?_).trans (List.map_id _)
  refine Prod.ext rfl ?_
  simp only [Function.comp_apply, enabled_runServices]
  cases hon : lastWord (stateWord pair.1) t.here with
  | some on => exact hlistable.states hlists pair hpair on hon
  | none =>
      have hlookup := lookup_of_single hpair (hlistable.single hlists pair hpair)
      simp only [Option.getD_none, hlookup, Option.getD_some, id_eq]

/-- A close that can take back every entry is honest. -/
theorem Replayable.honest {first : Mac} (h : Replayable lines st codes)
    (hstands : (closedHost faultyHost ⟨first, codes, failing⟩ lines st).mac.Stands)
    (hgreen : st.fingerprint.serviceEnabled = (captureFingerprint faultyHost
      (closedHost faultyHost ⟨first, codes, failing⟩ lines st)).serviceEnabled) :
    Honest lines st codes (closedHost faultyHost ⟨first, codes, failing⟩ lines st).mac := by
  have hundoes := undoes_closeCommands lines st codes
  refine ⟨?_, ?_, ?_, h.read, h.restored, h.exits⟩
  · intro dest gateway hpinned r hr hmatch
    rw [mac_closedHost] at hr
    have hroute := (hasRoute_runAll hundoes first dest gateway).mp ⟨r, hr, hmatch⟩
    rw [h.unpinned dest gateway hpinned] at hroute
    exact hroute
  · rw [mac_closedHost, anchor_runAll hundoes, if_pos h.flushed]
  · intro service enabled hdisabled
    obtain ⟨set, hset⟩ := hstands
    have hservices :
        (closedHost faultyHost ⟨first, codes, failing⟩ lines st).mac.services = set := by
      rw [Mac.services, hset, Option.getD_some]
    rw [hservices]
    obtain hlisted | hword := h.services service enabled hdisabled
    · rw [hgreen, serviceEnabled_captureFingerprint _ hset] at hlisted
      split at hlisted
      · cases hlisted
      · obtain ⟨name, -, hname⟩ := List.mem_map.mp hlisted
        cases hname
        rfl
    · obtain ⟨-, commands, -, before, -, rfl⟩ := services_closedHost hset
      rw [enabled_runServices, lastWord_append, hword]
      rfl

/-- A close that is honest on every Mac can take back every entry. -/
theorem replayable_of_honest
    (hlistable : Listable (closeCommands lines st codes) (failing .listNetworkServiceOrder)
      st.fingerprint.serviceEnabled)
    (hhonest : ∀ first : Mac,
      (closedHost faultyHost ⟨first, codes, failing⟩ lines st).mac.Stands →
      (captureFingerprint faultyHost
        (closedHost faultyHost ⟨first, codes, failing⟩ lines st)).serviceEnabled =
          st.fingerprint.serviceEnabled →
      Honest lines st codes (closedHost faultyHost ⟨first, codes, failing⟩ lines st).mac) :
    Replayable lines st codes := by
  have hundoes := undoes_closeCommands lines st codes
  obtain ⟨first, -, hanchor, set, hset, hlisting, -⟩ :=
    exists_green hlistable true [] ["en7"]
  have hblocked := hhonest first ⟨set, hset⟩ hlisting
  refine ⟨hblocked.read, hblocked.restored, hblocked.exits, ?_, ?_, ?_⟩
  · by_contra hkept
    have hempty := hblocked.unblocked
    rw [mac_closedHost, anchor_runAll hundoes, if_neg hkept, hanchor] at hempty
    cases hempty
  · intro dest gateway hpinned
    obtain ⟨first, hroutes, -, set, hset, hlisting, -⟩ :=
      exists_green hlistable true [⟨dest, gateway, "en0"⟩] []
    have habsent := (hhonest first ⟨set, hset⟩ hlisting).unpinned dest gateway hpinned
    have hlast := hasRoute_runAll hundoes first dest gateway
    rw [← mac_closedHost ⟨first, codes, failing⟩] at hlast
    cases huse : lastUse dest gateway (closeCommands lines st codes) with
    | none =>
        rw [huse] at hlast
        obtain ⟨r, hr, hmatch⟩ := hlast.mpr ⟨⟨dest, gateway, "en0"⟩, by simp [hroutes], rfl, rfl⟩
        exact absurd hmatch (habsent r hr)
    | some use =>
        cases use with
        | deleted => rfl
        | added =>
            rw [huse] at hlast
            obtain ⟨r, hr, hmatch⟩ := hlast.mpr trivial
            exact absurd hmatch (habsent r hr)
  · intro service enabled hdisabled
    obtain ⟨first, -, -, set, hset, hlisting, henabled⟩ :=
      exists_green hlistable (!enabled) [] []
    have hstate := (hhonest first ⟨set, hset⟩ hlisting).services service enabled hdisabled
    rw [Mac.services, hset, Option.getD_some, henabled] at hstate
    cases hword : lastWord (stateWord service)
        (Itinerary.through (closeCommands lines st codes)).here with
    | some on =>
        rw [hword] at hstate
        exact .inr (congrArg some hstate)
    | none =>
        rw [hword, Option.getD_none] at hstate
        cases hlookup : st.fingerprint.serviceEnabled.lookup service with
        | some on =>
            rw [hlookup] at hstate
            refine .inl (?_ : (service, enabled) ∈ _)
            rw [← hstate]
            obtain ⟨front, back, hlisted, -⟩ := List.lookup_eq_some_iff.mp hlookup
            rw [hlisted]
            exact List.mem_append_right _ List.mem_cons_self
        | none =>
            rw [hlookup] at hstate
            exact absurd hstate (by cases enabled <;> simp)

end Honest

/-- A complete close is honest, on every Mac, exactly where the rollback of
the journal ends early or reports something, where the services cannot be
left as the fingerprint has them, and where it can take back every entry. -/
theorem green_honest_iff (lines : List Line) (st : ShieldState) (codes : Nat → Int)
    (failing : Query → Bool) :
    GreenHonest lines st codes failing ↔
      ¬Replays lines ∨
        ¬Listable (closeCommands lines st codes) (failing .listNetworkServiceOrder)
          st.fingerprint.serviceEnabled ∨
        Replayable lines st codes := by
  constructor
  · intro hhonest
    by_cases hreplays : Replays lines
    swap
    · exact .inl hreplays
    refine .inr ?_
    by_cases hlistable : Listable (closeCommands lines st codes)
      (failing .listNetworkServiceOrder) st.fingerprint.serviceEnabled
    swap
    · exact .inl hlistable
    -- The fingerprint of the arming can be what the close finds.
    refine .inr (replayable_of_honest hlistable fun first hstands hlisting => ?_)
    exact honest_saveState.mp <| hhonest true first (captureFingerprint faultyHost
        (closedHost faultyHost ⟨first, codes, failing⟩ lines st)) _ hlisting
      ((closeLines_green_iff faultyHost true _ _ lines _).mpr ⟨hreplays, .inl rfl, rfl, rfl⟩)
      hstands
  · intro hcondition force mac fingerprint after hfingerprint hgreen hstands
    obtain ⟨hreplays, -, hequal, rfl⟩ :=
      (closeLines_green_iff faultyHost force _ after lines _).mp hgreen
    have hlisting : st.fingerprint.serviceEnabled = (captureFingerprint faultyHost
        (closedHost faultyHost ⟨mac, codes, failing⟩ lines st)).serviceEnabled :=
      hfingerprint.symm.trans (congrArg Fingerprint.serviceEnabled hequal)
    have hleft : (closedHost faultyHost ⟨mac, codes, failing⟩ lines st).mac.Stands := hstands
    rcases hcondition with hnot | hnot | h
    · exact absurd hreplays hnot
    · exact absurd (listable_of_green hleft hlisting) hnot
    · exact honest_saveState.mpr (h.honest hleft hlisting)

/-! ## A complete close that is not honest -/

/-- A Mac with the state file of an earlier session, its daemon not loaded. -/
def quietMac : Mac := { homeMac with daemonLoaded := false, stateFile := true }

def pinnedText : String := "inet 0.0.0.0/1 via 192.168.1.1"

/-- A session that has pinned one route. -/
def pinnedState : ShieldState where
  armed := true
  sessionId := "5f0c1b2a"
  baseline := captureBaseline macHost quietMac
  pinnedRoutes := [pinnedText]
  quarantinedServices := []
  untrustedInterfaces := []
  pfWasEnabled := false
  armedAt := 0
  expiresAt := 600
  routePinGreen := false
  shieldLocation := ""
  originalLocation := "Automatic"
  locationMode := false
  sessionClosed := false
  fingerprint := captureFingerprint macHost quietMac

def pinnedMembers : Members :=
  [("seq", .int 1), ("category", .str "route_add"), ("target", .str pinnedText),
    ("pre_value", .dict [("existed", .bool false)]), ("exit_code", .int 0)]

/-- C1 to C3 succeed, the two commands that delete the route do not. -/
def unpinFails (n : Nat) : Int := if n < 3 then 0 else 1

def pinnedFaulty : Faulty where
  mac := { quietMac with routes := quietMac.routes ++ [⟨"0.0.0.0/1", "192.168.1.1", "en0"⟩] }
  codes := unpinFails
  failing _ := false

/-- The pinned route is still there, and the fingerprint passes over it. -/
theorem green_with_pinned_route :
    ¬GreenHonest [some (.dict pinnedMembers)] pinnedState unpinFails fun _ => false := by
  intro hhonest
  have hreplays : Replays [some (.dict pinnedMembers)] := by
    refine ⟨rfl, fun entry hentry => ?_⟩
    rw [List.mem_singleton.mp hentry]
    exact ⟨_, rfl⟩
  have hequal : captureFingerprint macHost quietMac = captureFingerprint faultyHost
      (closedHost faultyHost pinnedFaulty [some (.dict pinnedMembers)] pinnedState) := by
    decide +kernel
  have hgreen := (closeLines_green_iff faultyHost false pinnedFaulty _ _ pinnedState).mpr
    ⟨hreplays, .inr rfl, hequal, rfl⟩
  have hroute : ⟨"0.0.0.0/1", "192.168.1.1", "en0"⟩ ∈ (closedHost faultyHost pinnedFaulty
      [some (.dict pinnedMembers)] pinnedState).mac.routes := by
    decide +kernel
  have hpinned : Pinned [some (.dict pinnedMembers)] pinnedState "0.0.0.0/1" "192.168.1.1" :=
    .inr ⟨pinnedText, List.mem_singleton_self _, .inet, by decide +kernel⟩
  have hstands : (closedHost faultyHost pinnedFaulty
      [some (.dict pinnedMembers)] pinnedState).mac.Stands := ⟨homeSet, rfl⟩
  exact (hhonest false _ _ _ rfl hgreen hstands).unpinned _ _ hpinned _ hroute ⟨rfl, rfl⟩

end Bootmux.AttachShield
