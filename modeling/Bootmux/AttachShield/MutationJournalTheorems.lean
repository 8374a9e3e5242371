/-
Bootmux.AttachShield.MutationJournalTheorems — what the mutation journal
holds after any run of records and new objects, and what a rollback does
with it.

The file is one line for each record, in JSON text of printable ASCII, so
that no text of an entry ends a line (`Kept`); the number of the object is the
number of lines, and a new object finds it again. A rollback is described by
`Replay`, which goes through the records from the last to the first.

For the first part, a line is printed with `json.dumps` and read with
`json.loads`: what is printed is read back as the same value
(`loads_lineText`), it holds no character at which `splitlines` would break
it (`lineText_noBreak`), and the number in it is the one that `recoverLine`
looks for. `Kept.record` and `Kept.new` are the two steps of the invariant,
and a run of them keeps it.

For the second, an entry either runs commands, or raises and is reported, or
is reported without a command; in each case the rollback goes on to the one
before it.
-/
import Bootmux.AttachShield.MutationJournal

namespace Bootmux.AttachShield

open Bootmux.Lib
open Bootmux.Lib.Json (Value dumps wellFormed wellFormedElements wellFormedMembers natText intText
  utf8Text)
open Bootmux.Lib.PyText (splitlines unlines)
open Bootmux.SafeFlash (asciiText loads lastOf utf8 printable_char loads_asciiText unlines_concat)

/-! ## One line -/

def lineText (value : Value) : List Char := asciiText (dumps value)

/-- A printed value is read back. -/
theorem loads_lineText {value : Value} (h : wellFormed value = true) :
    loads (lineText value) = some value := by
  rw [lineText, loads_asciiText (Json.dumps_printable h), Json.parse_dumps h]

/-- Texts in an entry cannot end its line. -/
theorem lineText_noBreak {value : Value} (h : wellFormed value = true) :
    ∀ c ∈ lineText value, PyText.isLineBreak c = false := by
  intro c hc
  obtain ⟨b, hb, rfl⟩ := List.mem_map.mp hc
  exact (printable_char (List.all_eq_true.mp (Json.dumps_printable h) b hb)).2.1

theorem wellFormed_optionalData (data : Option SafeFlash.Data) :
    wellFormed (optionalData data) = true := by
  cases data with
  | none => rfl
  | some data => exact data.wellFormed

theorem wellFormedElements_map {α : Type} {f : α → Value} (h : ∀ x, wellFormed (f x) = true)
    (xs : List α) : wellFormedElements (xs.map f) = true := by
  induction xs with
  | nil => rfl
  | cons x xs ih => rw [List.map_cons, wellFormedElements, h, ih, Bool.and_self]

section Words

variable {words : WordClass}

/-- Whatever the texts are, the entry can be printed. -/
theorem Mutation.wellFormed_entry (mutation : Mutation) (number : Nat) :
    wellFormed (mutation.entry words number) = true := by
  have hkeys : ∀ key ∈ ["seq", "ts", "category", "target", "pre_value", "cmd",
      "exit_code"].map utf8, Utf8.valid key = true := by
    decide
  have hcmd := wellFormedElements_map (f := fun c : SafeFlash.Text =>
    .string (utf8Text (redact words (textOf c.bytes)))) (fun c => Json.valid_utf8Text _)
    mutation.cmd
  simp only [List.map_cons, List.map_nil, List.forall_mem_cons] at hkeys
  simp only [Mutation.entry, Mutation.members, wellFormed, wellFormedMembers,
    Json.wellFormedMember, hkeys, hcmd, Json.isNumberText_natText, Json.isNumberText_intText,
    mutation.ts.isNumber, mutation.category.valid, mutation.target.valid, wellFormed_optionalData,
    Bool.and_self]

/-! ## The file -/

/-- The entries of mutations, numbered from one. -/
def entriesFor (words : WordClass) (mutations : List Mutation) : List Value :=
  mutations.mapIdx fun i mutation => mutation.entry words (i + 1)

/-- One more mutation is one more entry, with the next number. -/
theorem entriesFor_concat (mutations : List Mutation) (mutation : Mutation) :
    entriesFor words (mutations ++ [mutation]) =
      entriesFor words mutations ++ [mutation.entry words (mutations.length + 1)] :=
  List.mapIdx_concat

theorem wellFormed_entriesFor {mutations : List Mutation} {entry : Value}
    (h : entry ∈ entriesFor words mutations) : wellFormed entry = true := by
  obtain ⟨i, hi, rfl⟩ := List.mem_mapIdx.mp h
  exact Mutation.wellFormed_entry _ _

/-- The file is the lines of the mutations, and the number is how many. -/
structure MutationJournal.Kept (words : WordClass) (journal : MutationJournal)
    (mutations : List Mutation) : Prop where
  file : journal.file.getD [] = unlines ((entriesFor words mutations).map lineText)
  seq : journal.seq = mutations.length

/-- The lines of the file are those of the entries. -/
theorem splitlines_entriesFor (mutations : List Mutation) :
    splitlines (unlines ((entriesFor words mutations).map lineText)) =
      (entriesFor words mutations).map lineText := by
  refine PyText.splitlines_unlines ?_
  rw [List.forall_mem_map]
  exact fun entry hentry => lineText_noBreak (wellFormed_entriesFor hentry)

/-- The entries of a kept journal are its mutations. -/
theorem MutationJournal.Kept.entries {journal : MutationJournal} {mutations : List Mutation}
    (h : journal.Kept words mutations) : journal.entries = entriesFor words mutations := by
  rw [MutationJournal.entries, h.file, splitlines_entriesFor, List.filterMap_map]
  have hloads : ∀ entry ∈ entriesFor words mutations, (loads ∘ lineText) entry = some entry :=
    fun entry hentry => loads_lineText (wellFormed_entriesFor hentry)
  rw [List.filterMap_congr hloads, List.filterMap_some]

theorem integer?_natText (n : Nat) : (Value.number (natText n)).integer? = some (n : Int) :=
  Json.integer?_intText n

/-- A line raises the number to its own, if that is larger. -/
theorem recoverLine_entry (mutation : Mutation) (seq number : Nat) :
    recoverLine seq (lineText (mutation.entry words number)) = some (max seq number) := by
  have hseq : lastOf (mutation.members words number) "seq" = some (.number (natText number)) := rfl
  rw [recoverLine, loads_lineText (mutation.wellFormed_entry number)]
  simp only [Mutation.entry, hseq, Option.getD_some, integer?_natText, Option.map_some,
    Int.toNat_natCast]

/-- A new object counts the lines. -/
theorem recover_entriesFor (mutations : List Mutation) :
    ((entriesFor words mutations).map lineText).foldlM recoverLine 0 = some mutations.length := by
  induction mutations using List.reverseRecOn with
  | nil => rfl
  | append_singleton mutations mutation ih =>
      rw [entriesFor_concat, List.map_append, List.foldlM_append, ih]
      simp only [Option.bind_eq_bind, Option.bind_some, List.map_singleton, List.foldlM_cons,
        List.foldlM_nil, recoverLine_entry, List.length_append, List.length_singleton,
        Nat.max_eq_right (Nat.le_succ _)]
      rfl

/-! ## Runs -/

def recorded : JournalOperation → Option Mutation
  | .new => none
  | .record mutation => some mutation

/-- A new object takes the file over without an error. -/
theorem MutationJournal.Kept.new {journal : MutationJournal} {mutations : List Mutation}
    (h : journal.Kept words mutations) : MutationJournal.new journal.file = some journal := by
  obtain ⟨hfile, hseq⟩ := h
  obtain ⟨file, seq⟩ := journal
  obtain rfl : seq = mutations.length := hseq
  rw [MutationJournal.new, hfile, splitlines_entriesFor, recover_entriesFor]
  rfl

/-- A record adds one line. -/
theorem MutationJournal.Kept.record {journal : MutationJournal} {mutations : List Mutation}
    (h : journal.Kept words mutations) (mutation : Mutation) :
    (journal.record words mutation).Kept words (mutations ++ [mutation]) where
  file := by
    rw [entriesFor_concat, List.map_append, List.map_singleton, unlines_concat, ← h.file, ← h.seq,
      ← List.append_assoc]
    rfl
  seq := by
    rw [List.length_append, List.length_singleton, ← h.seq]
    rfl

/-- **The journal is append-only**: after any run it holds what was recorded. -/
theorem kept_mutations (operations : List JournalOperation) :
    ((mutationMachine words).run operations).Kept words (operations.filterMap recorded) := by
  induction operations using List.reverseRecOn with
  | nil => exact ⟨rfl, rfl⟩
  | append_singleton operations operation ih =>
      rw [Machine.run_concat, List.filterMap_append]
      cases operation with
      | new =>
          have hsame : ((mutationMachine words).step ((mutationMachine words).run operations)
              .new).1 = (mutationMachine words).run operations := by
            show (MutationJournal.new _).getD _ = _
            rw [ih.new, Option.getD_some]
          rw [hsame, List.filterMap_cons_none rfl, List.filterMap_nil, List.append_nil]
          exact ih
      | record mutation => exact ih.record mutation

/-- **No new object raises** on the file of a run, so the machine leaves no case out. -/
theorem new_never_raises (operations : List JournalOperation) :
    MutationJournal.new ((mutationMachine words).run operations).file =
      some ((mutationMachine words).run operations) :=
  (kept_mutations operations).new

/-! ## Rollback -/

/-- A number that starts with another digit than zero is not zero. -/
theorem isZero_digit {b : UInt8} {rest : List UInt8} (hdigit : Json.isDigit b = true)
    (hne : b ≠ 0x30) : isZero (.number (b :: rest)) = false := by
  have hexponent : (b != 0x65 && b != 0x45) = true := by
    rw [Bool.and_eq_true, bne_iff_ne, bne_iff_ne]
    constructor <;>
      · rintro rfl
        exact absurd hdigit (by decide)
  have hfirst : (!Json.isDigit b || b == 0x30) = false := by
    rw [hdigit, beq_eq_false_iff_ne.mpr hne]
    rfl
  simp only [isZero, List.takeWhile_cons, hexponent, if_true, List.all_cons, hfirst,
    Bool.false_and]

/-- The printed exit code is zero exactly if the exit code is. -/
theorem isZero_exitCode (n : Int) : isZero (.number (intText n)) = decide (n = 0) := by
  cases n with
  | ofNat n =>
      cases n with
      | zero => rfl
      | succ n =>
          obtain ⟨hall, -, b, rest, hcons, hlead⟩ := Json.natText_facts (n + 1)
          rw [hcons] at hall
          rw [intText, hcons, isZero_digit (Bool.and_eq_true_iff.mp hall).1 (hlead n.succ_pos)]
          rfl
  | negSucc n =>
      obtain ⟨hall, -, b, rest, hcons, hlead⟩ := Json.natText_facts (n + 1)
      rw [hcons] at hall
      have hsigned : isZero (.number (0x2D :: b :: rest)) = isZero (.number (b :: rest)) := rfl
      rw [intText, hcons, hsigned,
        isZero_digit (Bool.and_eq_true_iff.mp hall).1 (hlead n.succ_pos)]
      rfl

section Rollback

-- `run` is `host.run`, with the text of what it raises.
variable {σ : Type} (run : σ → List Value → σ × Option (List Char)) (other : Value → List Char)

def Mutation.categoryValue (mutation : Mutation) : Value := .string mutation.category.bytes

def Mutation.targetValue (mutation : Mutation) : Value := .string mutation.target.bytes

/-- A rollback of mutations in their order, from one state to another, with
its issues. -/
inductive Replay : List Mutation → σ → σ → List (List Char) → Prop where
  | done (s : σ) : Replay [] s s []
  /-- The mutation has failed, and there is nothing to take back. -/
  | failed {mutation rest s s' issues} (hexit : mutation.exitCode ≠ 0)
      (hrest : Replay rest s s' issues) : Replay (mutation :: rest) s s' issues
  /-- No command is run. -/
  | unknown {mutation rest s s' issues} (hexit : mutation.exitCode = 0)
      (hpre : mutation.preValue = none) (hrest : Replay rest s s' issues) :
      Replay (mutation :: rest) s s'
        (unknownPrestate other mutation.categoryValue mutation.targetValue :: issues)
  | undone {mutation rest pre s s₁ s' issues} (hexit : mutation.exitCode = 0)
      (hpre : mutation.preValue = some pre)
      (htry : tryRollback run s mutation.categoryValue mutation.targetValue
        (.object pre.members) = (s₁, none))
      (hrest : Replay rest s₁ s' issues) : Replay (mutation :: rest) s s' issues
  /-- An entry that raises is an issue, and the rollback goes on. -/
  | raised {mutation rest pre exc s s₁ s' issues} (hexit : mutation.exitCode = 0)
      (hpre : mutation.preValue = some pre)
      (htry : tryRollback run s mutation.categoryValue mutation.targetValue
        (.object pre.members) = (s₁, some exc))
      (hrest : Replay rest s₁ s' issues) :
      Replay (mutation :: rest) s s'
        (rollbackError other mutation.categoryValue mutation.targetValue exc :: issues)

/-- What the loop does with an entry of the journal. -/
theorem rollbackEntry_entry (mutation : Mutation) (number : Nat) (s : σ)
    (issues : List (List Char)) :
    MutationJournal.rollbackEntry run other (s, issues) (mutation.entry words number) =
      if mutation.exitCode ≠ 0 then some (s, issues)
      else
        match mutation.preValue with
        | none =>
            some (s, issues ++ [unknownPrestate other mutation.categoryValue mutation.targetValue])
        | some pre =>
            match tryRollback run s mutation.categoryValue mutation.targetValue
              (.object pre.members) with
            | (s, none) => some (s, issues)
            | (s, some exc) => some (s, issues ++
                [rollbackError other mutation.categoryValue mutation.targetValue exc]) := by
  have hexit : lastOf (mutation.members words number) "exit_code" =
      some (.number (intText mutation.exitCode)) := rfl
  have hcategory : lastOf (mutation.members words number) "category" =
      some mutation.categoryValue := rfl
  have htarget : lastOf (mutation.members words number) "target" = some mutation.targetValue := rfl
  have hpre : lastOf (mutation.members words number) "pre_value" =
      some (optionalData mutation.preValue) := rfl
  simp only [MutationJournal.rollbackEntry, Mutation.entry, hexit, hcategory, htarget, hpre,
    Option.getD_some, isZero_exitCode]
  by_cases hzero : mutation.exitCode = 0
  · cases hdata : mutation.preValue with
    | none => simp [hzero, optionalData]
    | some pre =>
        rcases htry : tryRollback run s mutation.categoryValue mutation.targetValue
          (.object pre.members) with ⟨s', exc | exc⟩ <;> simp [hzero, optionalData, htry]
  · simp [hzero]

/-- The loop goes through the entries and replays their mutations. -/
theorem replay_entries {mutations : List Mutation} {entries : List Value}
    (h : List.Forall₂ (fun mutation entry => ∃ number, entry = Mutation.entry words mutation number)
      mutations entries) (s : σ) (issues : List (List Char)) :
    ∃ s' more, entries.foldlM (MutationJournal.rollbackEntry run other) (s, issues) =
      some (s', issues ++ more) ∧ Replay run other mutations s s' more := by
  induction h generalizing s issues with
  | nil => exact ⟨s, [], by rw [List.append_nil]; rfl, .done s⟩
  | @cons mutation entry mutations entries hentry _ ih =>
      obtain ⟨number, rfl⟩ := hentry
      rw [List.foldlM_cons, rollbackEntry_entry]
      by_cases hzero : mutation.exitCode = 0
      · rw [if_neg (not_not.mpr hzero)]
        cases hdata : mutation.preValue with
        | none =>
            obtain ⟨s', more, hfold, hreplay⟩ := ih s (issues ++
              [unknownPrestate other mutation.categoryValue mutation.targetValue])
            refine ⟨s', _ :: more, ?_, .unknown hzero hdata hreplay⟩
            rw [List.append_assoc] at hfold
            exact hfold
        | some pre =>
            dsimp only
            split
            · next s₁ htry =>
                obtain ⟨s', more, hfold, hreplay⟩ := ih s₁ issues
                exact ⟨s', more, hfold, .undone hzero hdata htry hreplay⟩
            · next s₁ exc htry =>
                obtain ⟨s', more, hfold, hreplay⟩ := ih s₁ (issues ++
                  [rollbackError other mutation.categoryValue mutation.targetValue exc])
                refine ⟨s', _ :: more, ?_, .raised hzero hdata htry hreplay⟩
                rw [List.append_assoc] at hfold
                exact hfold
      · rw [if_pos hzero]
        obtain ⟨s', more, hfold, hreplay⟩ := ih s issues
        exact ⟨s', more, hfold, .failed hzero hreplay⟩

theorem forall₂_mapIdx {α β : Type} {R : α → β → Prop} {f : Nat → α → β} (h : ∀ i x, R x (f i x))
    (xs : List α) : List.Forall₂ R xs (xs.mapIdx f) := by
  induction xs generalizing f with
  | nil => exact .nil
  | cons x xs ih =>
      rw [List.mapIdx_cons]
      exact .cons (h 0 x) (ih fun i => h (i + 1))

/-- **The journal is append-only and replayed in reverse.** -/
theorem journal_replays_in_reverse (words : WordClass) (operations : List JournalOperation)
    (s : σ) :
    ((mutationMachine words).run operations).entries =
        (operations.filterMap recorded).mapIdx
          (fun i mutation => mutation.entry words (i + 1)) ∧
      ∃ s' issues, ((mutationMachine words).run operations).rollback run other s =
          some (s', issues.isEmpty, issues) ∧
        Replay run other (operations.filterMap recorded).reverse s s' issues := by
  have hkept := @kept_mutations words operations
  refine ⟨hkept.entries, ?_⟩
  have hentries : List.Forall₂
      (fun mutation entry => ∃ number, entry = Mutation.entry words mutation number)
      (operations.filterMap recorded) (entriesFor words (operations.filterMap recorded)) :=
    forall₂_mapIdx (fun i mutation => ⟨i + 1, rfl⟩) _
  obtain ⟨s', issues, hfold, hreplay⟩ :=
    replay_entries run other (List.forall₂_reverse_iff.mpr hentries) s []
  refine ⟨s', issues, ?_, hreplay⟩
  rw [MutationJournal.rollback, hkept.entries, hfold]
  rfl

end Rollback

end Words

end Bootmux.AttachShield
