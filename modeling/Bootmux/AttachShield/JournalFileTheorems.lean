/-
Bootmux.AttachShield.JournalFileTheorems — the close reads what the session
has written.

A journal that `record` has written is read back entry by entry
(`replay_encodeEntry`), so the rollback of the file is the rollback of the
entries (`rollbackEntries_encode`), and a close that reads the file is the
close of the session (`closeLines_encodeJournal`).

The lemmas go from a field of a pre-value, which is found under its key and
read as it was recorded, over one entry to the list of them. So a result
about closes of the file holds of the sessions of the other modules, and a
result about sessions holds of the file that they leave.
-/
import Bootmux.AttachShield.CloseTheorems
import Bootmux.AttachShield.JournalFile

namespace Bootmux.AttachShield

open Bootmux.Lib (PyJson Members)
open Bootmux.Lib.PyJson (truthy isNumber valueOf asDict asText asTexts)

/-! ## Reading a journal back -/

/-- A field that is there is found, one that is not gives the default. -/
theorem lookup_present {fields : List (String × Option PyJson)}
    (hkeys : (fields.map Prod.fst).Nodup) (key : String) :
    (present fields).lookup key = (fields.lookup key).join := by
  induction fields with
  | nil => rfl
  | cons field fields ih =>
      obtain ⟨name, value⟩ := field
      obtain ⟨hname, hrest⟩ := List.nodup_cons.mp hkeys
      have hnone : key = name → (present fields).lookup key = none := by
        rintro rfl
        rw [ih hrest]
        have hlookup : fields.lookup key = none := by
          rw [List.lookup_eq_none_iff]
          intro pair hpair
          have hne : pair.1 ≠ key := fun heq => hname (heq ▸ List.mem_map.mpr ⟨pair, hpair, rfl⟩)
          simpa using Ne.symm hne
        rw [hlookup]
        rfl
      by_cases heq : key = name
      · subst heq
        cases value with
        | none => simpa [present] using hnone rfl
        | some value => simp [present]
      · have hbeq : (key == name) = false := by simpa using heq
        cases value with
        | none => simpa [present, List.lookup_cons, hbeq] using ih hrest
        | some value => simpa [present, List.lookup_cons, hbeq] using ih hrest

@[simp] theorem truthy_null : truthy .null = false := rfl

@[simp] theorem truthy_bool (b : Bool) : truthy (.bool b) = b := rfl

@[simp] theorem truthy_str (s : String) : truthy (.str s) = (s != "") := rfl

@[simp] theorem truthy_nil : truthy (.list []) = false := rfl

theorem asDict_dict (members : Members) : asDict (.dict members) = some members := rfl

@[simp] theorem asText_str (s : String) : asText (.str s) = some s := rfl

/-- A field of the pre-value is read as it was recorded. -/
theorem valueOf_preFields (pre : PreValue) (key : String) (default : PyJson) :
    valueOf (present (preFields pre)) key default =
      (((preFields pre).lookup key).join).getD default := by
  have hkeys : (preFields pre).map Prod.fst = ["enabled", "existed", "gateway", "family",
    "automatic", "servers", "domains", "order", "mode", "manual", "rules", "location",
    "power"] := rfl
  rw [valueOf, lookup_present (by rw [hkeys]; decide)]

@[simp] theorem asTexts_textList (texts : List String) : asTexts (textList texts) = some texts := by
  simp only [asTexts, textList]
  induction texts with
  | nil => rfl
  | cons text texts ih => simp_all [asText]

@[simp] theorem truthy_textList (texts : List String) :
    truthy (textList texts) = !texts.isEmpty := by
  cases texts with
  | nil => rfl
  | cons text texts => rfl

@[simp] theorem family_familyText (family : Family) :
    (if familyText family = "inet6" then Family.inet6 else .inet) = family := by
  cases family <;> rfl

/-- A manual configuration is set with the values it has. -/
theorem undo_manual (target : String) (manual : Option Manual) :
    let value := (manual.map fun m => PyJson.dict (manualMembers m)).getD (.dict [])
    (if truthy value then
      (asDict value).bind fun manual =>
        (asText (valueOf manual "ip" (.str ""))).bind fun ip =>
          (asText (valueOf manual "subnet" (.str ""))).bind fun subnet =>
            (asText (valueOf manual "router" (.str ""))).bind fun router =>
              some [Command.setManual target ip subnet router]
    else some []) =
    some (match manual with
      | some ⟨none, none, none⟩ | none => []
      | some manual =>
          [.setManual target (manual.ip.getD "") (manual.subnet.getD "")
            (manual.router.getD "")]) := by
  match manual with
  | none => rfl
  | some ⟨ip, subnet, router⟩ =>
      cases ip <;> cases subnet <;> cases router <;> rfl

/-- The text of a category is that of no other. -/
theorem categoryOf_categoryText (category : Category) :
    categoryOf (.str (categoryText category)) = some category := by
  cases category <;> rfl

/-- A recorded entry is taken back as it was recorded. -/
theorem undoOne_preFields (category : Category) (target : String) (pre : PreValue) :
    undoOne category (.str target) (.dict (present (preFields pre))) =
      some (rollbackOne category target pre) := by
  cases category <;>
    simp only [undoOne, rollbackOne, asDict_dict, Option.map_some, valueOf_preFields,
      Option.bind_eq_bind, Option.bind_some]
  case serviceDisable =>
    cases h : pre.enabled <;> simp [preFields, h, apply_ite some]
  case serviceEnable =>
    cases h : pre.enabled <;> simp [preFields, h, apply_ite some]
  case routeAdd => rfl
  case routeDelete =>
    cases h : pre.existed <;> cases hf : pre.family <;> cases hg : pre.gateway <;>
      simp [preFields, List.lookup_cons, h, hf, hg, apply_ite some]
  case dnsSet =>
    cases h : pre.automatic <;> cases hs : pre.servers <;>
      simp [preFields, List.lookup_cons, h, hs, apply_ite some]
  case searchSet =>
    cases h : pre.automatic <;> cases hs : pre.domains <;>
      simp [preFields, List.lookup_cons, h, hs, apply_ite some]
  case orderSet =>
    cases h : pre.order <;> simp [preFields, List.lookup_cons, h, apply_ite some]
  case ipv4Set =>
    have hmanual := undo_manual target pre.manual
    cases h : pre.mode with
    | none => simp [preFields, List.lookup_cons, h]
    | some mode =>
        by_cases hdhcp : mode = "DHCP"
        · simp [preFields, List.lookup_cons, h, hdhcp]
        · by_cases hmode : mode = "Manual"
          · subst hmode
            exact Eq.trans (by simp [preFields, List.lookup_cons, h])
              (hmanual.trans rfl)
          · simp [preFields, List.lookup_cons, h, hdhcp, hmode]
  case ipv6Set =>
    cases h : pre.mode <;> simp [preFields, List.lookup_cons, h, apply_ite some]
  case pfEnable =>
    cases h : pre.enabled <;> simp [preFields, h, apply_ite some]
  case pfAnchorLoad => rfl
  case locationSwitch =>
    cases h : pre.location <;> simp [preFields, List.lookup_cons, h, apply_ite some]
  case locationCreate =>
    cases h : pre.existed <;> simp [preFields, List.lookup_cons, h, apply_ite some]
  case wifiPowerSet =>
    cases h : pre.power <;> simp [preFields, List.lookup_cons, h]

/-- A recorded entry replays as the entry it encodes. -/
theorem replay_encodeEntry (number : Nat) (entry : Entry) :
    replay (encodeEntry number entry) =
      if entry.exitCode ≠ 0 then .undone []
      else
        match entry.pre with
        | none => .issue (.str (categoryText entry.category)) (.str entry.target)
        | some pre => .undone (rollbackOne entry.category entry.target pre) := by
  obtain ⟨category, target, pre, exitCode⟩ := entry
  have hexit : (!succeeded [("seq", .int number), ("category", .str (categoryText category)),
      ("target", .str target),
      ("pre_value", (pre.map fun pre => .dict (present (preFields pre))).getD .null),
      ("exit_code", .int exitCode)]) = decide (exitCode ≠ 0) := by
    simp only [succeeded, valueOf, List.lookup_cons]
    simp [PyJson.asInt, beq_eq_decide]
  simp only [encodeEntry, replay, hexit, decide_eq_true_eq]
  refine if_congr Iff.rfl rfl ?_
  cases pre with
  | none => simp [valueOf, List.lookup_cons]
  | some pre =>
      simp [valueOf, List.lookup_cons, categoryOf_categoryText, undoOne_preFields]

section Encode

variable {σ : Type} (host : Host σ)

/-- A recorded journal is rolled back as it was recorded. -/
theorem rollbackEntries_encode (s : σ) (journal : List Entry) (number : Nat → Nat) :
    rollbackEntries host s (journal.mapIdx fun i entry => encodeEntry (number i) entry) =
      some (rollback host s journal, (rollbackIssues journal).map fun issue =>
        (.str (categoryText issue.1), .str issue.2)) := by
  induction journal generalizing number with
  | nil => rfl
  | cons entry journal ih =>
      have hrest := ih fun i => number (i + 1)
      simp only [List.mapIdx_cons, rollbackEntries, Option.bind_eq_bind, hrest, Option.bind_some,
        replay_encodeEntry]
      have hrollback : rollback host s (entry :: journal) =
          rollbackEntry host (rollback host s journal) entry := by
        simp [rollback, List.foldl_append]
      by_cases hexit : entry.exitCode = 0
      · cases hpre : entry.pre with
        | none => simp [hrollback, rollbackEntry, rollbackIssues, hexit, hpre]
        | some pre => simp [hrollback, rollbackEntry, rollbackIssues, hexit, hpre]
      · simp [hrollback, rollbackEntry, rollbackIssues, hexit, runAll]

theorem host_leaveLocation (s : σ) (journal : List Entry) (st : ShieldState) :
    (leaveLocation host ⟨s, journal⟩ st).host = (leaveLocation host ⟨s, []⟩ st).host := by
  simp only [leaveLocation, restoreLocation]
  split_ifs <;> rfl

/-- The close of the typed journal, as a fold of commands over the host. -/
theorem host_closeHost (sh : Shield σ) (st : ShieldState) :
    (closeHost host sh st).host =
      (leaveLocation host
        ⟨rollback host (runAll host sh.host (releaseCommands st)) sh.journal, []⟩ st).host := by
  rw [← host_leaveLocation host _ sh.journal]
  rfl

/-- The close reads the journal that the session has written. -/
theorem closeLines_encodeJournal (force : Bool) (sh : Shield σ) (st : ShieldState) :
    closeLines host force sh.host (encodeJournal sh.journal) st =
      let closed := closeSession host force sh st
      some (closed.1.host, closed.2.2) := by
  have hnumbers : numbersCompare (encodeJournal sh.journal) = true := by
    rw [numbersCompare, List.all_eq_true]
    intro line hline
    obtain ⟨entry, hentry, rfl⟩ := List.mem_map.mp hline
    obtain ⟨i, hi, rfl⟩ := List.mem_mapIdx.mp hentry
    rfl
  have hentries : entriesOf (encodeJournal sh.journal) =
      sh.journal.mapIdx fun i entry => encodeEntry (i + 1) entry := by
    exact (List.filterMap_map.trans (List.filterMap_congr fun _ _ => rfl)).trans
      List.filterMap_some
  have hissues : (rollbackIssues sh.journal).map (fun issue : Category × String =>
      (PyJson.str (categoryText issue.1), PyJson.str issue.2)) ≠ [] ↔
        rollbackIssues sh.journal ≠ [] := not_congr List.map_eq_nil_iff
  rw [closeLines, hnumbers, hentries, closeSession, Bool.not_true, if_neg Bool.false_ne_true]
  by_cases hrefused : (!force) = true ∧ stillPresent host sh.host st ≠ []
  · rw [if_pos hrefused, if_pos hrefused]
  · rw [if_neg hrefused, if_neg hrefused, rollbackEntries_encode host _ _ (· + 1),
      Option.bind_eq_bind, Option.bind_some]
    simp only [Shield.saveState, host_closeHost, hissues]

end Encode

end Bootmux.AttachShield
