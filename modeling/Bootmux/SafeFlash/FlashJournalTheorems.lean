/-
Bootmux.SafeFlash.FlashJournalTheorems — what a load of the flash journal
returns.

The file is one line for each entry that was appended (`Kept`), as long as no
write is cut short inside of its line and no entry gets a number that is not
above those on the disk (`Sound`). A new object starts to count at zero, so
that it may not append to a journal with entries; and the part of a line that
a crash leaves makes every later load raise.

An operation is an append, a new object, a load, or a crash, which may cut
the write anywhere. The condition (`Sound`) is on the object and the file
before each append, and on where a crash cuts; with it every load returns
what was appended, in order and with increasing numbers, and a resume that
gets as far as its checks sees all of it.

The text of an entry is printable ASCII, whatever was in it, so an entry is
one line and a line that was read is one entry.
-/
import Bootmux.SafeFlash.FlashJournal
import Bootmux.SafeFlash.RunnerTheorems

namespace Bootmux.SafeFlash

open Bootmux.Lib
open Bootmux.Lib.Json (Value dumps wellFormed wellFormedMembers isNumberText natText)
open Bootmux.Lib.PyText (splitlines strip unlines)

/-! ## One line -/

/-- The values of an entry can be printed. -/
def JournalEntry.WellFormed (entry : JournalEntry) : Prop :=
  wellFormed entry.seq = true ∧ wellFormed entry.ts = true ∧ wellFormed entry.event = true ∧
    wellFormed entry.data = true ∧ wellFormed entry.status = true

/-- The entry of a note can be printed, whatever its texts are. -/
theorem Note.wellFormed_entry (note : Note) (number : Nat) : (note.entry number).WellFormed := by
  refine ⟨?_, ?_, ?_, ?_, ?_⟩
  · simp only [entry, wellFormed, Json.isNumberText_natText]
  · simp only [entry, wellFormed, note.ts.isNumber]
  · simp only [entry, wellFormed, note.event.valid]
  · cases hdata : note.data with
    | none => simp [entry, hdata, wellFormed, wellFormedMembers]
    | some data => simp [entry, hdata, wellFormed, data.wellFormed]
  · simp only [entry, wellFormed, note.status.valid]

theorem JournalEntry.WellFormed.asDict {entry : JournalEntry} (h : entry.WellFormed) :
    wellFormed entry.asDict = true := by
  obtain ⟨hseq, hts, hevent, hdata, hstatus⟩ := h
  have hkeys : ∀ key ∈ fieldNames, Utf8.valid key = true := by decide
  simp only [JournalEntry.asDict, wellFormed, wellFormedMembers, Json.wellFormedMember, hseq, hts,
    hevent, hdata, hstatus, hkeys _ (by decide : utf8 "seq" ∈ fieldNames),
    hkeys _ (by decide : utf8 "ts" ∈ fieldNames), hkeys _ (by decide : utf8 "event" ∈ fieldNames),
    hkeys _ (by decide : utf8 "data" ∈ fieldNames),
    hkeys _ (by decide : utf8 "status" ∈ fieldNames), Bool.and_self]

/-- An entry is read back from its own dictionary. -/
theorem ofDict_asDict (entry : JournalEntry) : JournalEntry.ofDict entry.asDict = some entry := by
  rfl

/-- A printable byte as a character: it is encoded as itself, ends no line
and is no space but the one. -/
theorem printable_char {b : UInt8} (h : Json.isPrintable b = true) :
    Json.encodeRune (Char.ofNat b.toNat).toNat = [b] ∧
      PyText.isLineBreak (Char.ofNat b.toNat) = false ∧
      (b ≠ 0x20 → PyText.isSpace (Char.ofNat b.toNat) = false) := by
  have hall : ∀ n < 0x7F, 0x20 ≤ n → Json.encodeRune (Char.ofNat n).toNat = [.ofNat n] ∧
      PyText.isLineBreak (Char.ofNat n) = false ∧
      (n ≠ 0x20 → PyText.isSpace (Char.ofNat n) = false) := by
    decide
  simp only [Json.isPrintable, Bool.and_eq_true, decide_eq_true_eq, UInt8.le_iff_toNat_le,
    UInt8.reduceToNat] at h
  obtain ⟨hencode, hbreak, hspace⟩ := hall b.toNat (by omega) h.1
  rw [UInt8.ofNat_toNat] at hencode
  exact ⟨hencode, hbreak, fun hne => hspace fun h => hne (UInt8.toNat_inj.mp h)⟩

/-- A printable line is parsed as its bytes. -/
theorem loads_asciiText {bytes : List UInt8} (h : bytes.all Json.isPrintable = true) :
    loads (asciiText bytes) = Json.parse bytes := by
  have hencode : (asciiText bytes).flatMap (fun c => Json.encodeRune c.toNat) = bytes := by
    induction bytes with
    | nil => rfl
    | cons b bytes ih =>
        rw [List.all_cons, Bool.and_eq_true] at h
        rw [asciiText, List.map_cons, List.flatMap_cons, (printable_char h.1).1, ← asciiText,
          ih h.2]
        rfl
  rw [loads, hencode]

theorem lineOf_printable {entry : JournalEntry} (h : entry.WellFormed) :
    (dumps entry.asDict).all Json.isPrintable = true := Json.dumps_printable h.asDict

/-- A line of the journal reads back as its entry. -/
theorem loads_lineOf {entry : JournalEntry} (h : entry.WellFormed) :
    loads (lineOf entry) = some entry.asDict := by
  rw [lineOf, loads_asciiText (lineOf_printable h), Json.parse_dumps h.asDict]

/-- The texts of an entry cannot end its line: `json.dumps` escapes what
would. -/
theorem lineOf_noBreak {entry : JournalEntry} (h : entry.WellFormed) :
    ∀ c ∈ lineOf entry, PyText.isLineBreak c = false := by
  intro c hc
  obtain ⟨b, hb, rfl⟩ := List.mem_map.mp hc
  exact (printable_char (List.all_eq_true.mp (lineOf_printable h) b hb)).2.1

/-- A line starts and ends with a brace. -/
theorem strip_lineOf (entry : JournalEntry) : strip (lineOf entry) = lineOf entry := by
  refine PyText.strip_eq_self ?_ ?_
  · rintro c ⟨⟩
    decide
  · have hlast : (lineOf entry).getLast? = some '}' := by
      rw [lineOf, asciiText, List.getLast?_map, JournalEntry.asDict, dumps, List.getLast?_cons,
        List.getLast?_concat]
      rfl
    rw [hlast]
    rintro c ⟨⟩
    decide

theorem lineOf_ne_nil (entry : JournalEntry) : lineOf entry ≠ [] := by
  rw [lineOf, asciiText, JournalEntry.asDict, dumps]
  exact List.cons_ne_nil _ _

/-! ## The file -/

/-- Whole lines load as the entries that were written. -/
theorem loadLines_lines {entries : List JournalEntry} (h : ∀ entry ∈ entries, entry.WellFormed) :
    loadLines (entries.map lineOf) = some entries := by
  induction entries with
  | nil => rfl
  | cons entry entries ih =>
      rw [List.forall_mem_cons] at h
      rw [List.map_cons, loadLines, strip_lineOf, if_neg (lineOf_ne_nil entry), loads_lineOf h.1,
        ih h.2]
      simp only [Option.bind_eq_bind, Option.bind_some, ofDict_asDict, Option.map_some]

/-- **A load of the lines of entries returns them.** -/
theorem loadFile_lines {entries : List JournalEntry} (h : ∀ entry ∈ entries, entry.WellFormed) :
    loadFile (some (unlines (entries.map lineOf))) = some entries := by
  rw [loadFile, PyText.splitlines_unlines, loadLines_lines h]
  rw [List.forall_mem_map]
  exact fun entry hentry => lineOf_noBreak (h entry hentry)

theorem unlines_concat (lines : List (List Char)) (line : List Char) :
    unlines (lines ++ [line]) = unlines lines ++ (line ++ ['\n']) := by
  rw [unlines, unlines, List.flatMap_append, List.flatMap_singleton]

/-! ## Runs -/

/-- The entries whose append has returned. -/
def appendedOf (seen : List Answer) : List JournalEntry :=
  seen.filterMap fun
    | .appended entry => some entry
    | _ => none

/-- The numbers get larger. -/
def Increasing (entries : List JournalEntry) : Prop :=
  entries.Pairwise fun a b => ∃ m n, a.seq.nat? = some m ∧ b.seq.nat? = some n ∧ m < n

/-- In `s`, a bench reads the events of the journal that is loaded so. -/
def LoadsAs {σ : Type} (bench : Bench σ) (s : σ) : Option (List JournalEntry) → Prop
  | none => (bench.loadJournal s).2 = none
  | some entries => ∃ events, (bench.loadJournal s).2 = some events ∧
      entries.map JournalEntry.event = events.map fun event => .string (utf8 event)

/-- A resume comes to ask the shield for its status, if there is an entry and
the run was not over. -/
def ResumeChecks (loaded : Option (List JournalEntry)) : Prop :=
  loaded = some [] ∨
    (∃ entries, loaded = some entries ∧
      ∃ entry ∈ entries, entry.event = .string (utf8 "RUNNER_DONE")) ∨
    ∀ (σ : Type) (bench : Bench σ) (runner : Runner) (s : σ), LoadsAs bench s loaded →
      ∃ before after answer, .shield ["--status"] true before after answer ∈
        (resume bench runner).labels s

/-- A load returns the entries that were appended, with larger and larger
numbers, and a resume can go on. -/
def Survives (seen : List Answer) : Answer → Prop
  | .loaded entries => entries = some (appendedOf seen) ∧ Increasing (appendedOf seen) ∧
      ResumeChecks entries
  | _ => True

/-- A crash leaves nothing of its line, and an append counts on from the
numbers in the file. -/
def Sound (journal : FlashJournal) : Operation → Prop
  | .append _ => ∀ entry ∈ (loadFile journal.file).getD [],
      entry.seq.nat?.any (· ≤ journal.seq) = true
  | .crash _ written => written.getD 0 = 0
  | _ => True

instance (journal : FlashJournal) : (operation : Operation) → Decidable (Sound journal operation)
  | .append _ => inferInstanceAs (Decidable (∀ entry ∈ (loadFile journal.file).getD [], _))
  | .crash _ written => inferInstanceAs (Decidable (written.getD 0 = 0))
  | .new => inferInstanceAs (Decidable True)
  | .init => inferInstanceAs (Decidable True)
  | .load => inferInstanceAs (Decidable True)

/-- The file is the lines of the entries that were appended. -/
structure Kept (seen : List Answer) (journal : FlashJournal) : Prop where
  wellFormed : ∀ entry ∈ appendedOf seen, entry.WellFormed
  increasing : Increasing (appendedOf seen)
  file : journal.file.getD [] = unlines ((appendedOf seen).map lineOf)

/-- A missing file loads as an empty one. -/
theorem loadFile_getD (file : Option (List Char)) :
    loadFile file = loadFile (some (file.getD [])) := by
  cases file <;> rfl

/-- What has been kept is what a load finds. -/
theorem Kept.load {seen : List Answer} {journal : FlashJournal} (h : Kept seen journal) :
    loadFile journal.file = some (appendedOf seen) := by
  rw [loadFile_getD, h.file, loadFile_lines h.wellFormed]

theorem appendedOf_append (seen more : List Answer) :
    appendedOf (seen ++ more) = appendedOf seen ++ appendedOf more := by
  rw [appendedOf, List.filterMap_append]
  rfl

/-- An operation that appends nothing and leaves the file as it is. -/
theorem Kept.same {seen more : List Answer} {journal after : FlashJournal}
    (h : Kept seen journal) (hmore : appendedOf more = [])
    (hfile : after.file.getD [] = journal.file.getD []) : Kept (seen ++ more) after := by
  have heq : appendedOf (seen ++ more) = appendedOf seen := by
    rw [appendedOf_append, hmore, List.append_nil]
  exact ⟨heq ▸ h.wellFormed, heq ▸ h.increasing, by rw [hfile, heq, h.file]⟩

/-- An append with its directory writes one line and counts it. -/
theorem append_there {journal : FlashJournal} (note : Note) (hdir : journal.sessionDir = true) :
    journal.append note =
      (⟨true, some (journal.file.getD [] ++ (lineOf (note.entry (journal.seq + 1)) ++ ['\n'])),
        journal.seq + 1⟩, [.appended (note.entry (journal.seq + 1))]) := by
  simp [FlashJournal.append, FlashJournal.write, hdir]

/-- Without the directory nothing is written, but the number goes on. -/
theorem append_missing {journal : FlashJournal} (note : Note) (hdir : ¬journal.sessionDir = true) :
    journal.append note = ({ journal with seq := journal.seq + 1 }, [.appendRaised]) := by
  simp [FlashJournal.append, hdir]

/-- One sound append adds one entry to what is kept. -/
theorem Kept.append {seen : List Answer} {journal : FlashJournal} {note : Note}
    (h : Kept seen journal) (hsound : Sound journal (.append note)) :
    Kept (seen ++ (journal.append note).2) (journal.append note).1 := by
  by_cases hdir : journal.sessionDir = true
  · have heq : appendedOf (seen ++ [.appended (note.entry (journal.seq + 1))]) =
        appendedOf seen ++ [note.entry (journal.seq + 1)] := appendedOf_append _ _
    rw [append_there note hdir]
    refine ⟨?_, ?_, ?_⟩
    · rw [heq, List.forall_mem_append, List.forall_mem_singleton]
      exact ⟨h.wellFormed, note.wellFormed_entry _⟩
    · rw [heq, Increasing, List.pairwise_append]
      refine ⟨h.increasing, List.pairwise_singleton _ _, fun entry hentry last hlast => ?_⟩
      rw [List.mem_singleton] at hlast
      subst hlast
      have hbelow := hsound entry (by rwa [h.load])
      rw [Option.any_eq_true] at hbelow
      obtain ⟨n, hn, hle⟩ := hbelow
      exact ⟨n, journal.seq + 1, hn, Json.nat?_natText _,
        Nat.lt_succ_of_le (of_decide_eq_true hle)⟩
    · rw [heq, List.map_append, List.map_singleton, unlines_concat, ← h.file]
      rfl
  · rw [append_missing note hdir]
    exact h.same rfl rfl

/-- A crash that comes before the first byte leaves the file as it is. -/
theorem crash_file {journal : FlashJournal} {note : Note} {written : Option Nat}
    (h : written.getD 0 = 0) :
    (journal.crash note written).file.getD [] = journal.file.getD [] := by
  cases written with
  | none => rfl
  | some n =>
      obtain rfl : n = 0 := h
      by_cases hdir : journal.sessionDir = true <;>
        simp [FlashJournal.crash, FlashJournal.write, hdir]

/-- What one operation keeps. -/
theorem Kept.step {seen : List Answer} {journal : FlashJournal} {operation : Operation}
    (h : Kept seen journal) (hsound : Sound journal operation) :
    Kept (seen ++ (journalMachine.step journal operation).2)
      (journalMachine.step journal operation).1 := by
  cases operation with
  | new => exact h.same rfl rfl
  | init => exact h.same rfl rfl
  | load => exact h.same rfl rfl
  | append note => exact h.append hsound
  | crash note written => exact h.same rfl (crash_file hsound)

/-- The induction over a run: after sound operations the file holds the
entries that were appended, in their order. -/
theorem kept_run (operations : List Operation)
    (hsound : journalMachine.AllSteps Sound journalMachine.init operations) :
    Kept (journalMachine.trace operations) (journalMachine.run operations) := by
  refine journalMachine.history_invariant (I := Kept) ?_ (fun _ _ _ h hs => h.step hs) operations
    hsound
  exact ⟨by simp [appendedOf], List.Pairwise.nil, rfl⟩

/-- With entries, and no end of the run among them, a resume asks the shield
for its status. -/
theorem resumeChecks_some (entries : List JournalEntry) : ResumeChecks (some entries) := by
  by_cases hempty : entries = []
  · exact .inl (by rw [hempty])
  by_cases hdone : ∃ entry ∈ entries, entry.event = .string (utf8 "RUNNER_DONE")
  · exact .inr (.inl ⟨entries, rfl, hdone⟩)
  refine .inr (.inr fun σ bench runner s ⟨events, hevents, hmap⟩ => ?_)
  have hnot : "RUNNER_DONE" ∉ events := by
    intro hmem
    have hvalue : Value.string (utf8 "RUNNER_DONE") ∈ entries.map JournalEntry.event := by
      rw [hmap]
      exact List.mem_map.mpr ⟨_, hmem, rfl⟩
    obtain ⟨entry, hentry, heq⟩ := List.mem_map.mp hvalue
    exact hdone ⟨entry, hentry, heq⟩
  obtain ⟨last, hlast⟩ : ∃ last, events.getLast? = some last := by
    cases hl : events.getLast? with
    | some last => exact ⟨last, rfl⟩
    | none =>
        rw [List.getLast?_eq_none_iff] at hl
        rw [hl, List.map_nil, List.map_eq_nil_iff] at hmap
        exact absurd hmap hempty
  simp only [resume, closeIfArmed, shieldIsArmed, runShield, perform, Attempt.labels_bind,
    Attempt.labels_action, Attempt.result_action, hevents, Option.elim_some, hlast, if_neg hnot,
    List.mem_append, List.mem_singleton]
  exact ⟨_, _, _, .inr (.inl (.inl (.inl rfl)))⟩

/-- **The journal survives crashes**, as long as they leave nothing of a line
and appends count on: a load returns exactly the entries that were appended. -/
theorem journal_survives (operations : List Operation)
    (hsound : journalMachine.AllSteps Sound journalMachine.init operations) :
    Machine.Always Survives [] (journalMachine.trace operations) := by
  induction operations using List.reverseRecOn with
  | nil => trivial
  | append_singleton operations operation ih =>
      have hbefore := journalMachine.allSteps_left hsound
      rw [Machine.trace_concat, Machine.always_append]
      refine ⟨ih hbefore, ?_⟩
      have hkept := kept_run operations hbefore
      cases operation with
      | load =>
          refine ⟨⟨hkept.load, hkept.increasing, ?_⟩, trivial⟩
          rw [hkept.load]
          exact resumeChecks_some _
      | new => trivial
      | init => trivial
      | crash note written => trivial
      | append note =>
          show Machine.Always _ _ ((journalMachine.run operations).append note).2
          by_cases hdir : (journalMachine.run operations).sessionDir = true
          · rw [append_there note hdir]
            exact ⟨trivial, trivial⟩
          · rw [append_missing note hdir]
            exact ⟨trivial, trivial⟩

/-! ## A flash that the power ends -/

def powerNote (event : String) (h : Utf8.valid (utf8 event) = true) : Note where
  ts := ⟨utf8 "17.5", by decide⟩
  event := ⟨utf8 event, h⟩
  data := none
  status := ⟨utf8 "OK", by decide⟩

/-- The power fails before the last entry is written. -/
def flashOperations : List Operation :=
  [.init, .append (powerNote "SHIELD_ARM" (by decide)),
    .append (powerNote "FLASH_START" (by decide)), .crash (powerNote "FLASH" (by decide)) none,
    .load]

/-- The hypothesis of the run theorem is not empty: a flash with an append, a
crash and a resume is sound, and its entries survive. -/
theorem flash_survives :
    journalMachine.AllSteps Sound journalMachine.init flashOperations ∧
      Machine.Always Survives [] (journalMachine.trace flashOperations) := by
  have hsound : journalMachine.AllSteps Sound journalMachine.init flashOperations := by
    decide +kernel
  exact ⟨hsound, journal_survives _ hsound⟩

/-- The power fails inside of a line. -/
def tornOperations : List Operation :=
  [.init, .append (powerNote "SHIELD_ARM" (by decide)),
    .crash (powerNote "FLASH_START" (by decide)) (some 20), .load]

/-- A process that has started again goes on with the journal. -/
def recountedOperations : List Operation :=
  [.init, .append (powerNote "SHIELD_ARM" (by decide)), .new,
    .append (powerNote "SHIELD_CLOSE" (by decide)), .load]

/-- Both ways to fail: a line torn by a crash, and a process started again,
which counts from one. -/
theorem torn_and_recounted :
    ¬Machine.Always Survives [] (journalMachine.trace tornOperations) ∧
      ¬Machine.Always Survives [] (journalMachine.trace recountedOperations) := by
  constructor
  · rintro ⟨-, ⟨hloaded, -⟩, -⟩
    have hraises : (loadFile (journalMachine.run tornOperations).file).isNone = true := by
      decide +kernel
    have hfile : loadFile (journalMachine.run tornOperations).file = some _ := hloaded
    rw [hfile] at hraises
    cases hraises
  · rintro ⟨-, -, ⟨-, hincreasing, -⟩, -⟩
    obtain ⟨m, n, hm, hn, hlt⟩ :=
      (List.pairwise_cons.mp hincreasing).1 _ (List.mem_singleton_self _)
    have hone : (Value.number (natText 1)).nat? = some 1 := Json.nat?_natText 1
    obtain rfl : m = 1 := Option.some.inj (hm.symm.trans hone)
    obtain rfl : n = 1 := Option.some.inj (hn.symm.trans hone)
    exact absurd hlt (by decide)

end Bootmux.SafeFlash
