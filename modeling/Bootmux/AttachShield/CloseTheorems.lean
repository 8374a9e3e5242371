/-
Bootmux.AttachShield.CloseTheorems — the close of a session.

C1 to C4 leave nothing on the Mac but what the journal has an entry for
(`Rolling`), the rollback takes the entries back from the last to the
first, and the original location is switched to. So a session on a Mac
that can be armed, whose steps are all `Harmless`, ends with the network
it began with (`session_restores`).

The condition is needed. A recovery cycles the power of a Wi-Fi that is
not associated, and writes no entry for it: a Wi-Fi that was off is on
after the close.

The rollback is followed entry by entry. `Undoable` lists the entries that a
session can have written; for each of them one lemma says that the commands
of its rollback take the Mac from what is `Rolling` with the entry to what
is `Rolling` without it. With no entry left the routes, the anchor and PF
are the first ones, and the services of the owner's location have their
first flags and order.

What remains is the location: C5 to C10 switch back and delete the temporary
one (`Restored`). The run is carried by `InSession` of the session module:
the arming establishes it, every harmless step keeps it, and a close from it
restores the Mac (`InSession.restored_closeHost`).
-/
import Bootmux.AttachShield.SessionTheorems

namespace Bootmux.AttachShield

open Bootmux.Lib

/-! ## Texts of routes -/

/-- A text that is one word. -/
def IsWord (text : String) : Prop :=
  text ≠ "" ∧ ∀ c ∈ text.toList, PyText.isSpace c = false

instance (text : String) : Decidable (IsWord text) :=
  inferInstanceAs (Decidable (_ ∧ _))

/-- The word of a text. -/
def IsWord.word {text : String} (h : IsWord text) : PyText.Word where
  text := text.toList
  ne_nil := by simpa using h.1
  noSpace := h.2

theorem isWord_familyText (family : Family) : IsWord (familyText family) := by
  cases family with
  | inet => decide
  | inet6 => decide

/-- The text of a pinned route splits into its four words again. -/
theorem words_routeEntry (family : Family) {dest gateway : String} (hdest : IsWord dest)
    (hgateway : IsWord gateway) :
    words (routeEntry family dest gateway) = [familyText family, dest, "via", gateway] := by
  have hvia : IsWord "via" := by decide
  have htext : (routeEntry family dest gateway).toList =
      PyText.column (isWord_familyText family).word 0 ++ (PyText.column hdest.word 0 ++
        (PyText.column hvia.word 0 ++ hgateway.word.text)) := by
    simp [routeEntry, PyText.column, IsWord.word]
  rw [words, htext, PyText.split_column, PyText.split_column, PyText.split_column,
    PyText.split_word]
  simp [IsWord.word]

/-- The text of a pinned route names the route. -/
theorem deleteEntry_routeEntry (family : Family) {dest gateway : String} (hdest : IsWord dest)
    (hgateway : IsWord gateway) :
    deleteEntry (routeEntry family dest gateway) =
      some (.routeDelete (some family) dest (some gateway)) := by
  rw [deleteEntry, words_routeEntry family hdest hgateway]
  cases family with
  | inet => rfl
  | inet6 => rfl

theorem isWord_of_mem_splitRoutes {dest : String} (h : dest ∈ splitRoutes) : IsWord dest := by
  revert dest
  decide

/-! ## Taking back the journal -/

section Rollback

variable {first mac : Mac} {work gateway : String} {devices : List String}
  {journal : List Entry}

/-- An entry that says nothing about a deleted route. -/
theorem mem_of_ne_deleted {entry : Entry} (hentry : entry.category ≠ .routeDelete)
    {dest via : String} (h : deletedEntry dest via ∈ journal ++ [entry]) :
    deletedEntry dest via ∈ journal := by
  rcases List.mem_append.mp h with h | h
  · exact h
  · exact absurd (congrArg Entry.category (List.mem_singleton.mp h)).symm hentry

/-- The end of a journal that the Mac does not need. -/
theorem Rolling.shorten {entry : Entry}
    (h : Rolling first work devices (journal ++ [entry]) mac)
    (hentry : entry.category ≠ .routeDelete)
    (hset : ∀ set, Disturbed first.services (journal ++ [entry]) set →
      Disturbed first.services journal set) :
    Rolling first work devices journal mac where
  current := h.current
  others := h.others
  set hwork := by
    obtain ⟨set, hsome, hdisturbed⟩ := h.set hwork
    exact ⟨set, hsome, hset set hdisturbed⟩
  power := h.power
  reached := h.reached
  complete r hr hdevice :=
    (h.complete r hr hdevice).imp_right fun hmem => mem_of_ne_deleted hentry hmem
  pf := h.pf
  anchor := h.anchor
  sound := h.sound

/-- A command for the services takes back the last entry. -/
theorem Rolling.withServices {entry : Entry} {f : NetworkSet → NetworkSet}
    (h : Rolling first work devices (journal ++ [entry]) mac)
    (hentry : entry.category ≠ .routeDelete)
    (hf : ∀ set, Disturbed first.services (journal ++ [entry]) set →
      Disturbed first.services journal (f set)) :
    Rolling first work devices journal (mac.withServices f) :=
  ⟨h.toKept.withServices (fun _ _ hmem => mem_of_ne_deleted hentry hmem) hf, h.pf, h.anchor,
    h.sound⟩

/-- The entry of a disabled service is taken back last in, first out. -/
theorem Rolling.undoDisabled {service : String}
    (h : Rolling first work devices (journal ++ [disabledEntry first.services service]) mac) :
    Rolling first work devices journal
      (rollbackEntry macHost mac (disabledEntry first.services service)) := by
  have hcategory : (disabledEntry first.services service).category ≠ .routeDelete := by
    simp [disabledEntry]
  by_cases hon : first.services.enabled service = true
  · have hundo : rollbackEntry macHost mac (disabledEntry first.services service) =
        mac.apply (.setServiceEnabled service true) := by
      simp [rollbackEntry, disabledEntry, rollbackOne, hon, runAll, macHost]
    rw [hundo]
    refine h.withServices hcategory fun set hset => ?_
    have henable := hset.enable
    rwa [if_pos hon] at henable
  · have hundo : rollbackEntry macHost mac (disabledEntry first.services service) = mac := by
      simp [rollbackEntry, disabledEntry, rollbackOne, hon, runAll]
    rw [hundo]
    refine h.shorten hcategory fun set hset => ?_
    have henable := hset.enable
    rwa [if_neg hon] at henable

/-- The entry of an order puts the first order back. -/
theorem Rolling.undoOrdered (hne : first.services.order ≠ [])
    (h : Rolling first work devices (journal ++ [orderEntry first.services]) mac) :
    Rolling first work devices journal
      (rollbackEntry macHost mac (orderEntry first.services)) := by
  have hundo : rollbackEntry macHost mac (orderEntry first.services) =
      mac.apply (.orderServices first.services.order) := by
    simp [rollbackEntry, orderEntry, rollbackOne, hne, runAll, macHost]
  rw [hundo]
  exact h.withServices (by simp [orderEntry]) fun _ hset => hset.restoreOrder

/-- A deleted route comes back through the interface it had. -/
theorem Rolling.undoDeleted {dest via : String}
    (hroute : ⟨dest, via, first.reached via⟩ ∈ first.routes)
    (hreached : ∀ r ∈ first.routes, r.dest = dest → r.gateway = via →
      r.interface = first.reached via)
    (h : Rolling first work devices (journal ++ [deletedEntry dest via]) mac) :
    Rolling first work devices journal (rollbackEntry macHost mac (deletedEntry dest via)) := by
  have hundo : rollbackEntry macHost mac (deletedEntry dest via) =
      { mac with routes := mac.routes ++ [⟨dest, via, first.reached via⟩] } := by
    rw [← h.reached]
    rfl
  have hset : ∀ set, Disturbed first.services (journal ++ [deletedEntry dest via]) set →
      Disturbed first.services journal set :=
    fun _ hset => hset.drop (by simp [deletedEntry]) (by simp [deletedEntry])
  rw [hundo]
  refine ⟨⟨h.current, h.others, ?_, h.power, h.reached, ?_⟩, h.pf, h.anchor, ?_⟩
  · intro hwork
    obtain ⟨set, hsome, hdisturbed⟩ := h.set hwork
    exact ⟨set, hsome, hset set hdisturbed⟩
  · intro r hr hdevice
    rcases h.complete r hr hdevice with hmem | hmem
    · exact .inl (List.mem_append_left _ hmem)
    · rcases List.mem_append.mp hmem with hmem | hmem
      · exact .inr hmem
      · -- the route of this entry is added again
        simp only [deletedEntry, List.mem_singleton, Entry.mk.injEq, Option.some.injEq,
          PreValue.mk.injEq, true_and, and_true] at hmem
        have hinterface := hreached r hr hmem.1 hmem.2
        refine .inl (List.mem_append_right _ (List.mem_singleton.mpr ?_))
        cases r
        simp_all
  · intro r hr hdevice
    rcases List.mem_append.mp hr with hr | hr
    · exact h.sound r hr hdevice
    · exact List.mem_singleton.mp hr ▸ hroute

/-- Deleting a route that was not there at first. -/
theorem Rolling.deleteRoute (h : Rolling first work devices journal mac) (family : Option Family)
    {dest via : String} (hnew : ∀ r ∈ first.routes, ¬(r.dest = dest ∧ r.gateway = via)) :
    Rolling first work devices journal (mac.apply (.routeDelete family dest (some via))) := by
  refine ⟨h.toKept.withRoutes fun r hr hdevice => ?_, h.pf, h.anchor, fun r hr hdevice => ?_⟩
  · refine (h.complete r hr hdevice).imp_left fun hmem => ?_
    exact List.mem_filter.mpr ⟨hmem, decide_eq_true (hnew r hr)⟩
  · exact h.sound r (List.mem_of_mem_filter hr) hdevice

/-- A pinned route is deleted, and none of the first ones with it. -/
theorem Rolling.undoPinned {family : Family} {dest : String} (hdest : dest ∈ splitRoutes)
    (hgateway : IsWord gateway) (hunpinned : ∀ r ∈ first.routes, ¬isPinned gateway r)
    (h : Rolling first work devices (journal ++ [pinnedEntry family dest gateway]) mac) :
    Rolling first work devices journal
      (rollbackEntry macHost mac (pinnedEntry family dest gateway)) := by
  have hundo : rollbackEntry macHost mac (pinnedEntry family dest gateway) =
      mac.apply (.routeDelete (some family) dest (some gateway)) := by
    simp [rollbackEntry, pinnedEntry, rollbackOne, runAll, macHost,
      deleteEntry_routeEntry family (isWord_of_mem_splitRoutes hdest) hgateway]
  have hshort := h.shorten (by simp [pinnedEntry])
    fun _ hset => hset.drop (by simp [pinnedEntry]) (by simp [pinnedEntry])
  rw [hundo]
  refine hshort.deleteRoute (some family) fun r hr hsame => hunpinned r hr ?_
  exact ⟨hsame.1 ▸ hdest, hsame.2, hgateway.1⟩

/-- The anchor is flushed once more. -/
theorem Rolling.undoAnchor (h : Rolling first work devices (journal ++ [anchorEntry]) mac) :
    Rolling first work devices journal (rollbackEntry macHost mac anchorEntry) := by
  have hshort := h.shorten (by simp [anchorEntry])
    fun _ hset => hset.drop (by simp [anchorEntry]) (by simp [anchorEntry])
  exact ⟨⟨hshort.current, hshort.others, hshort.set, hshort.power, hshort.reached,
    hshort.complete⟩, hshort.pf, rfl, hshort.sound⟩

/-- The firewall was off, and is switched off. -/
theorem Rolling.undoPf (hpf : first.pfEnabled = false)
    (h : Rolling first work devices (journal ++ [pfEntry]) mac) :
    Rolling first work devices journal (rollbackEntry macHost mac pfEntry) := by
  have hshort := h.shorten (by simp [pfEntry])
    fun _ hset => hset.drop (by simp [pfEntry]) (by simp [pfEntry])
  exact ⟨⟨hshort.current, hshort.others, hshort.set, hshort.power, hshort.reached,
    hshort.complete⟩, hpf.symm, hshort.anchor, hshort.sound⟩

/-- Taking back the last entry. -/
theorem Rolling.undo {entry : Entry} (hentry : Undoable first gateway entry)
    (hspace : ∀ c ∈ gateway.toList, PyText.isSpace c = false)
    (hunpinned : ∀ r ∈ first.routes, ¬isPinned gateway r)
    (h : Rolling first work devices (journal ++ [entry]) mac) :
    Rolling first work devices journal (rollbackEntry macHost mac entry) := by
  cases hentry with
  | disabled service => exact h.undoDisabled
  | ordered hne => exact h.undoOrdered hne
  | deleted dest via hroute hreached => exact h.undoDeleted hroute hreached
  | pinned family dest hdest hgateway => exact h.undoPinned hdest ⟨hgateway, hspace⟩ hunpinned
  | anchored => exact h.undoAnchor
  | pfEnabled hpf => exact h.undoPf hpf

/-- Taking back the journal. -/
theorem Rolling.rollback (hentries : ∀ e ∈ journal, Undoable first gateway e)
    (hspace : ∀ c ∈ gateway.toList, PyText.isSpace c = false)
    (hunpinned : ∀ r ∈ first.routes, ¬isPinned gateway r)
    (h : Rolling first work devices journal mac) :
    Rolling first work devices [] (rollback macHost mac journal) := by
  induction journal using List.reverseRecOn generalizing mac with
  | nil => exact h
  | append_singleton journal entry ih =>
      have hundo := h.undo (hentries entry (by simp)) hspace hunpinned
      have hrest := ih (fun e he => hentries e (List.mem_append_left _ he)) hundo
      rwa [AttachShield.rollback, List.reverse_append, List.reverse_singleton,
        List.singleton_append, List.foldl_cons]

end Rollback

/-! ## C1 to C4 -/

/-- The routes that a session pins. -/
def pinnedPairs : List (Family × String) :=
  splitRoutesV4.map (Family.inet, ·) ++ splitRoutesV6.map (Family.inet6, ·)

/-- The texts of the state name the pinned routes. -/
theorem filterMap_pinnedTexts {gateway : String} (hgateway : IsWord gateway) :
    (pinnedTexts gateway).filterMap deleteEntry =
      pinnedPairs.map fun pair => .routeDelete (some pair.1) pair.2 (some gateway) := by
  have htexts : pinnedTexts gateway =
      pinnedPairs.map fun pair => routeEntry pair.1 pair.2 gateway := rfl
  have hwords : ∀ pair ∈ pinnedPairs, IsWord pair.2 := by decide
  rw [htexts, List.filterMap_map, ← List.filterMap_eq_map]
  refine List.filterMap_congr fun pair hpair => ?_
  rw [Function.comp_apply, deleteEntry_routeEntry pair.1 (hwords pair hpair) hgateway]
  rfl

/-- Deleting routes one after another. -/
theorem runAll_routeDelete (mac : Mac) (pairs : List (Family × String)) (gateway : String) :
    runAll macHost mac
      (pairs.map fun pair => .routeDelete (some pair.1) pair.2 (some gateway)) =
    { mac with
      routes := mac.routes.filter fun r =>
        ¬(r.dest ∈ pairs.map Prod.snd ∧ r.gateway = gateway) } := by
  induction pairs generalizing mac with
  | nil => simp [runAll]
  | cons pair pairs ih =>
      rw [List.map_cons, ← List.singleton_append, runAll_append, ih]
      simp only [runAll, List.foldl_cons, List.foldl_nil, macHost, Mac.apply, List.filter_filter]
      congr 2
      funext r
      rw [Bool.eq_iff_iff]
      simp only [Bool.and_eq_true, decide_eq_true_eq, List.map_cons, List.mem_cons]
      tauto

section Close

variable {first mac : Mac} {work gateway sessionId : String} {devices : List String}
  {journal : List Entry}

/-- C1 to C3. -/
theorem Held.release (h : Held first work devices gateway journal mac) :
    let after := runAll macHost mac ([.unloadDaemon, .pfFlushAnchor pfAnchor] ++
      (if first.pfEnabled then [] else [.pfDisable]))
    Held first work devices gateway journal after ∧ after.pfEnabled = first.pfEnabled ∧
      after.anchor = [] := by
  cases hpf : first.pfEnabled with
  | true =>
      exact ⟨⟨⟨h.current, h.others, h.set, h.power, h.reached, h.complete⟩, h.pf, h.sound⟩,
        h.pf hpf, rfl⟩
  | false =>
      refine ⟨⟨⟨h.current, h.others, h.set, h.power, h.reached, h.complete⟩, ?_, h.sound⟩,
        rfl, rfl⟩
      intro htrue
      rw [hpf] at htrue
      cases htrue

/-- C4. -/
theorem Held.unpin (h : Held first work devices gateway journal mac)
    (hpf : mac.pfEnabled = first.pfEnabled) (hanchor : mac.anchor = [])
    (hspace : ∀ c ∈ gateway.toList, PyText.isSpace c = false)
    (hunpinned : ∀ r ∈ first.routes, ¬isPinned gateway r) :
    Rolling first work devices journal (runAll macHost mac
      ((if gateway = "" then [] else pinnedTexts gateway).filterMap deleteEntry)) := by
  by_cases hgateway : gateway = ""
  · rw [if_pos hgateway]
    refine ⟨h.toKept, hpf, hanchor, fun r hr hdevice => ?_⟩
    exact (h.sound r hr hdevice).resolve_right fun hpinned => hpinned.2.2 hgateway
  · rw [if_neg hgateway, filterMap_pinnedTexts ⟨hgateway, hspace⟩, runAll_routeDelete]
    have hdests : pinnedPairs.map Prod.snd = splitRoutes := rfl
    rw [hdests]
    refine ⟨h.toKept.withRoutes fun r hr hdevice => ?_, hpf, hanchor, fun r hr hdevice => ?_⟩
    · refine (h.complete r hr hdevice).imp_left fun hmem => List.mem_filter.mpr ⟨hmem, ?_⟩
      exact decide_eq_true fun hpinned => hunpinned r hr ⟨hpinned.1, hpinned.2, hgateway⟩
    · obtain ⟨hmem, hkept⟩ := List.mem_filter.mp hr
      refine (h.sound r hmem hdevice).resolve_right fun hpinned => ?_
      exact of_decide_eq_true hkept ⟨hpinned.1, hpinned.2.1⟩

/-! ## C5 to C10 -/

/-- The network of a Mac, the routes of `devices` aside. The routing table is
a set of routes. -/
structure Restored (first : Mac) (devices : List String) (mac : Mac) : Prop where
  current : mac.current = first.current
  locations : mac.locations = first.locations
  wifiPower : mac.wifiPower = first.wifiPower
  pfEnabled : mac.pfEnabled = first.pfEnabled
  anchor : mac.anchor = []
  routes : ∀ r, r.interface ∉ devices → (r ∈ mac.routes ↔ r ∈ first.routes)

/-- With nothing left to take back, the routes of the other devices are the
first ones. -/
theorem Rolling.mem_routes (h : Rolling first work devices [] mac) (r : Route)
    (hdevice : r.interface ∉ devices) : r ∈ mac.routes ↔ r ∈ first.routes := by
  constructor
  · intro hr
    exact h.sound r hr hdevice
  · intro hr
    rcases h.complete r hr hdevice with hmem | hmem
    · exact hmem
    · cases hmem

/-- In the location of the owner nothing is left to do. -/
theorem Rolling.restored (hwell : first.WellFormed)
    (h : Rolling first first.current devices [] mac) : Restored first devices mac where
  current := h.current
  locations := by
    funext name
    by_cases hname : name = first.current
    · subst hname
      obtain ⟨set, hset, hdisturbed⟩ := h.set rfl
      obtain ⟨original, horiginal⟩ := Option.isSome_iff_exists.mp hwell.location
      rw [hset, hdisturbed.eq, Mac.services, horiginal]
      rfl
    · exact h.others name hname
  wifiPower := h.power
  pfEnabled := h.pf
  anchor := h.anchor
  routes := h.mem_routes

/-- A temporary location is left and deleted. -/
theorem Rolling.restored_leave (hfresh : first.locations work = none)
    (h : Rolling first work devices [] mac) :
    Restored first devices
      { mac with
        current := first.current
        locations := Function.update mac.locations work none } where
  current := rfl
  locations := by
    funext name
    by_cases hname : name = work
    · subst hname
      rw [hfresh]
      exact Function.update_self ..
    · exact (Function.update_of_ne hname _ _).trans (h.others name hname)
  wifiPower := h.power
  pfEnabled := h.pf
  anchor := h.anchor
  routes := h.mem_routes

/-- A journal is rolled back from its end. -/
theorem rollback_append (mac : Mac) (header inner : List Entry) :
    rollback macHost mac (header ++ inner) =
      rollback macHost (rollback macHost mac inner) header := by
  rw [rollback, rollback, rollback, List.reverse_append, List.foldl_append]

/-- C1 to C8, less the entries of the location. -/
theorem InSession.rolled {state : Shield Mac × ShieldState}
    (h : InSession first sessionId devices state) (hwell : first.WellFormed)
    (harmable : first.Armable sessionId) :
    ∃ rolled, Rolling first (state.2.location.getD first.current) devices [] rolled ∧
      rollback macHost
        (runAll macHost state.1.host ([.unloadDaemon, .pfFlushAnchor pfAnchor] ++
          (if state.2.pfWasEnabled then [] else [.pfDisable]) ++
          state.2.pinnedRoutes.filterMap deleteEntry)) state.1.journal =
      rollback macHost rolled (locationEntries state.2.location first.current) := by
  obtain ⟨hremembers, inner, hjournal, hentries, hheld⟩ := h
  obtain ⟨hreleased, hpf, hanchor⟩ := hheld.release
  have hunpinned := hreleased.unpin hpf hanchor hwell.gateway harmable.unpinned
  have hrolled := hunpinned.rollback hentries hwell.gateway harmable.unpinned
  refine ⟨_, hrolled, ?_⟩
  rw [hjournal, rollback_append, hremembers.pfWasEnabled, hremembers.pinnedRoutes, runAll_append]

/-- C9, after the rollback has done the same. -/
theorem host_restoreLocation (mac : Mac) {original name : String} (horiginal : original ≠ "")
    (journal : List Entry) :
    (restoreLocation macHost original name
      ⟨rollback macHost mac (locationEntries (some name) original), journal⟩).host =
    { mac with
      current := original
      locations := Function.update mac.locations name none } := by
  have hrollback : rollback macHost mac (locationEntries (some name) original) =
      { mac with
        current := original
        locations := Function.update mac.locations name none } := by
    simp [rollback, locationEntries, rollbackEntry, rollbackOne, horiginal, runAll, macHost,
      Mac.apply]
  rw [hrollback]
  simp [restoreLocation, Shield.run, runAll, macHost, Mac.apply]

/-- Saving the state after the close changes no configuration. -/
theorem Restored.saveState {sh : Shield Mac} (h : Restored first devices sh.host) :
    Restored first devices (sh.saveState macHost).host :=
  ⟨h.current, h.locations, h.wifiPower, h.pfEnabled, h.anchor, h.routes⟩

theorem shieldLocation_ne_empty (sessionId : String) : shieldLocationPrefix ++ sessionId ≠ "" := by
  intro hempty
  have hlength := congrArg String.length hempty
  simp [shieldLocationPrefix] at hlength

/-- Whatever the session has done, its close restores the host. -/
theorem InSession.restored_closeHost {state : Shield Mac × ShieldState}
    (h : InSession first sessionId devices state) (hwell : first.WellFormed)
    (harmable : first.Armable sessionId) :
    Restored first devices (closeHost macHost state.1 state.2).host := by
  obtain ⟨rolled, hrolling, hrollback⟩ := h.rolled hwell harmable
  have hremembers := h.remembers
  simp only [closeHost, Shield.run, hrollback]
  by_cases hmode : state.2.locationMode = true
  · have hlocation : state.2.location = some state.2.shieldLocation := by
      rw [ShieldState.location, if_pos hmode]
    have hname := hremembers.location _ hlocation
    have hne : state.2.shieldLocation ≠ "" := by
      rw [hname]
      exact shieldLocation_ne_empty sessionId
    rw [hlocation] at hrolling ⊢
    rw [hremembers.originalLocation, if_pos ⟨hmode, hwell.current, hne⟩,
      host_restoreLocation rolled hwell.current]
    exact hrolling.restored_leave (hname ▸ harmable.fresh)
  · have hlocation : state.2.location = none := by
      rw [ShieldState.location, if_neg hmode]
    rw [hlocation] at hrolling ⊢
    rw [if_neg fun hcond => hmode hcond.1]
    exact hrolling.restored hwell

end Close

/-! ## Sessions -/

/-- A close that is not refused. -/
theorem closeSession_host {force : Bool} {sh : Shield Mac} {st : ShieldState}
    (hclose : force = true ∨ stillPresent macHost sh.host st = []) :
    (closeSession macHost force sh st).1 = (closeHost macHost sh st).saveState macHost := by
  have hcond : ¬((!force) = true ∧ stillPresent macHost sh.host st ≠ []) := by
    rintro ⟨hforce, hpresent⟩
    rcases hclose with rfl | hnone
    · cases hforce
    · exact hpresent hnone
  rw [closeSession, if_neg hcond]

/-- A Mac that can be armed gets its network back from every session whose
steps are harmless. -/
theorem session_restores (sessionId : String) (now ttl : ℚ) {first : Mac}
    (hwell : first.WellFormed) (harmable : first.Armable sessionId)
    (hwifi : (captureBaseline macHost first).wifiDevice ≠ "") :
    ∃ armed, cmdArm macHost sessionId now ttl first = some armed ∧
      ∀ (events : List Event) (force : Bool),
        (sessionMachine armed).AllSteps (Harmless (movedDevices events)) armed events →
        let state := (sessionMachine armed).run events
        (force = true ∨ stillPresent macHost state.1.host state.2 = []) →
        let closed := (closeSession macHost force state.1 state.2).1.host
        Restored first (movedDevices events) closed ∧
          closed.locations (shieldLocationPrefix ++ sessionId) = none := by
  obtain ⟨armed, harm, -⟩ := inSession_arm hwell harmable hwifi now ttl []
  refine ⟨armed, harm, ?_⟩
  intro events force hsteps state hclose
  obtain ⟨armed', harm', hsession⟩ :=
    inSession_arm hwell harmable hwifi now ttl (movedDevices events)
  obtain rfl : armed = armed' := Option.some.inj (harm.symm.trans harm')
  have hrestored :=
    ((hsession.run hwell harmable hsteps).restored_closeHost hwell harmable).saveState
  rw [closeSession_host hclose]
  exact ⟨hrestored, by rw [hrestored.locations, harmable.fresh]⟩

/-! ## A Mac at home -/

/-- The services of a Mac at home. -/
def homeSet : NetworkSet := { emptySet with order := ["Thunderbolt Bridge", "Wi-Fi"] }

def homeMac : Mac where
  current := "Automatic"
  locations name := if name = "Automatic" then some homeSet else none
  locationSupported := true
  populated := homeSet
  ports := [("en0", "Wi-Fi")]
  wifiPower := true
  associated := true
  pfEnabled := false
  anchor := []
  routes := [⟨"default", "192.168.1.1", "en0"⟩]
  reached _ := "en0"
  subnetInNwi := false
  subnetInterface := ""
  daemonLoaded := true
  launchdPlist := true
  installedShield := true
  stateFile := false

/-- A device comes with a default route, is recovered from and goes. -/
def visit : List Event :=
  [.attach "en7" "USB 10/100 LAN" [("default", "10.9.0.1")] [], .recover ["en7"], .detach "en7"]

instance (gateway : String) (r : Route) : Decidable (isPinned gateway r) :=
  inferInstanceAs (Decidable (_ ∧ _))

instance (devices : List String) (state : Shield Mac × ShieldState) (event : Event) :
    Decidable (Harmless devices state event) :=
  match event with
  | .recover _ => inferInstanceAs (Decidable (_ ∧ (∀ dest ∈ _, ∀ r ∈ _, _) ∧ _))
  | .attach .. | .detach _ | .associate _ => inferInstanceAs (Decidable True)

theorem homeMac_wellFormed : homeMac.WellFormed :=
  ⟨by decide, by decide, by decide⟩

theorem homeMac_armable : homeMac.Armable "5f0c1b2a" :=
  ⟨rfl, by decide +kernel, by decide +kernel⟩

/-- `session_restores` for a visit. -/
theorem session_restores_home :
    homeMac.WellFormed ∧ homeMac.Armable "5f0c1b2a" ∧
      (captureBaseline macHost homeMac).wifiDevice ≠ "" ∧
      ∃ armed, cmdArm macHost "5f0c1b2a" 0 600 homeMac = some armed ∧
        Restored homeMac (movedDevices visit) (closeSession macHost false
          ((sessionMachine armed).run visit).1 ((sessionMachine armed).run visit).2).1.host := by
  have hwifi : (captureBaseline macHost homeMac).wifiDevice ≠ "" := by decide +kernel
  have hall : (cmdArm macHost "5f0c1b2a" 0 600 homeMac).all (fun armed =>
      (sessionMachine armed).AllSteps (Harmless (movedDevices visit)) armed visit ∧
        stillPresent macHost ((sessionMachine armed).run visit).1.host
          ((sessionMachine armed).run visit).2 = []) = true := by
    decide +kernel
  obtain ⟨armed, harm, hclosed⟩ :=
    session_restores "5f0c1b2a" 0 600 homeMac_wellFormed homeMac_armable hwifi
  rw [harm, Option.all_some, decide_eq_true_eq] at hall
  exact ⟨homeMac_wellFormed, homeMac_armable, hwifi, armed, harm,
    (hclosed visit false hall.1 (.inr hall.2)).1⟩

/-! ## What a session does not put back -/

/-- A Mac whose Wi-Fi is off. -/
def offMac : Mac := { homeMac with wifiPower := false, associated := false, routes := [] }

/-- A recovery turns the Wi-Fi on, and no entry says so. -/
theorem session_leaves_wifi_on :
    (captureBaseline macHost offMac).wifiDevice ≠ "" ∧
      ∃ armed, cmdArm macHost "5f0c1b2a" 0 600 offMac = some armed ∧
        ¬Restored offMac (movedDevices visit) (closeSession macHost false
          ((sessionMachine armed).run visit).1 ((sessionMachine armed).run visit).2).1.host := by
  have hpower : (cmdArm macHost "5f0c1b2a" 0 600 offMac).map (fun armed =>
      (closeSession macHost false ((sessionMachine armed).run visit).1
        ((sessionMachine armed).run visit).2).1.host.wifiPower) = some true := by
    decide +kernel
  obtain ⟨armed, harm, hon⟩ := Option.map_eq_some_iff.mp hpower
  refine ⟨by decide +kernel, armed, harm, fun hrestored => ?_⟩
  have hoff := hrestored.wifiPower
  rw [hon] at hoff
  cases hoff

/-- A route that the shield pins is deleted, whoever has added it. -/
example :
    (cmdArm macHost "5f0c1b2a" 0 600
      { homeMac with routes := ⟨"0.0.0.0/1", "192.168.1.1", "en0"⟩ :: homeMac.routes }).map
      (fun armed => (closeSession macHost false armed.1 armed.2).1.host.routes) =
    some homeMac.routes := by
  decide +kernel

/-- A recovery deletes the first default route, that of the Wi-Fi. -/
example :
    (cmdArm macHost "5f0c1b2a" 0 600 homeMac).map (fun armed =>
      let state := (sessionMachine armed).run
        [.attach "en7" "USB 10/100 LAN" [] [("default", "10.9.0.1")], .recover ["en7"],
          .detach "en7"]
      (closeSession macHost false state.1 state.2).1.host.routes) = some [] := by
  decide +kernel

/-- Without locations a recovery sets BOOTP to DHCP. -/
example :
    (cmdArm macHost "5f0c1b2a" 0 600
      { homeMac with
        locationSupported := false
        locations := fun _ => some { homeSet with ipv4 := fun _ => .other "BOOTP" } }).map
      (fun armed =>
        let state := (sessionMachine armed).run visit
        (closeSession macHost false state.1 state.2).1.host.services.ipv4 "Wi-Fi") =
    some .dhcp := by
  decide +kernel

end Bootmux.AttachShield
