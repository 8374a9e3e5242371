/-
Bootmux.Lib.Search — finding an element or a sublist in a list.

`find` is the place of the first occurrence of a list in another,
`firstIndex` and `lastIndex` that of an element: `strstr`, `memchr` and
`memrchr` on what those functions look at. `EndsFirst pat p` says that
`p` ends in its first occurrence of `pat`; `find_eq_some_iff` puts
`find` in those words, and the two facts about an element say how it
cuts the list. `infix_splitOnP` is the same question asked of the runs
between separators: what holds no separator lies in one of them. `upTo`
lists what a bounded repetition can leave of a list.
-/
import Mathlib.Data.List.Basic
import Mathlib.Data.List.Infix

namespace Bootmux.Lib.Search

variable {α : Type}

/-! ## Where a list ends first in another -/

/-- `p` ends in its first occurrence of `pat`. -/
def EndsFirst (pat p : List α) : Prop := pat <:+ p ∧ ¬ pat <:+: p.dropLast

/-- Adding one element can only make an occurrence that ends with it. -/
theorem infix_concat {pat xs : List α} {x : α} :
    pat <:+: xs ++ [x] ↔ pat <:+: xs ∨ pat <:+ xs ++ [x] := by
  rw [List.infix_concat_iff, or_comm]

/-- What does not have an element lies before it or after it. -/
theorem infix_append_cons {pat a b : List α} {x : α} (hx : x ∉ pat) :
    pat <:+: a ++ x :: b ↔ pat <:+: a ∨ pat <:+: b := by
  constructor
  · rintro ⟨u, v, heq⟩
    rcases List.append_eq_append_iff.mp heq with ⟨c, hc, -⟩ | ⟨c, hc, hrest⟩
    · exact .inl ⟨u, c, hc.symm⟩
    cases c with
    | nil => exact .inl ⟨u, [], by simpa using hc⟩
    | cons y c =>
        obtain ⟨rfl, hb⟩ := List.cons.inj hrest
        rcases List.append_eq_append_iff.mp hc with ⟨d, -, hd⟩ | ⟨d, -, hd⟩
        · exact absurd (hd ▸ by simp) hx
        · cases d with
          | nil => exact absurd (by rw [← show _ = pat from hd]; exact List.mem_cons_self) hx
          | cons z d =>
              exact .inr ⟨d, v, by rw [hb, (List.cons.inj hd).2]; rfl⟩
  · rintro (h | h)
    · exact h.trans (List.prefix_append _ _).isInfix
    · exact (h.trans (List.suffix_cons x b).isInfix).trans (List.suffix_append _ _).isInfix

theorem EndsFirst.ne_nil {pat p : List α} (hpat : pat ≠ []) (h : EndsFirst pat p) : p ≠ [] := by
  rintro rfl
  exact hpat (List.suffix_nil.mp h.1)

/-- Two parts of one list that end first in `pat` are the same part. -/
theorem EndsFirst.unique {pat p q xs : List α} (hpat : pat ≠ []) (hp : EndsFirst pat p)
    (hq : EndsFirst pat q) (hpx : p <+: xs) (hqx : q <+: xs) : p = q := by
  have hshort : ∀ {p q : List α}, EndsFirst pat p → EndsFirst pat q → p <+: q → p = q := by
    intro p q hp hq hpq
    by_contra hne
    have hqne := hq.ne_nil hpat
    rw [← List.dropLast_concat_getLast hqne, List.prefix_concat_iff,
      List.dropLast_concat_getLast hqne] at hpq
    exact hq.2 (hp.1.isInfix.trans (hpq.resolve_left hne).isInfix)
  rcases List.prefix_or_prefix_of_prefix hpx hqx with h | h
  · exact hshort hp hq h
  · exact (hshort hq hp h).symm

variable [DecidableEq α]

/-! ## An element -/

/-- The place of the first `c`. -/
def firstIndex (c : α) (xs : List α) : Option Nat := xs.findIdx? fun x => x == c

/-- The place of the last `c`. -/
def lastIndex (c : α) (xs : List α) : Option Nat :=
  (firstIndex c xs.reverse).map fun i => xs.length - 1 - i

/-- A character has no index exactly if it does not occur. -/
theorem firstIndex_eq_none {c : α} {xs : List α} : firstIndex c xs = none ↔ c ∉ xs := by
  rw [firstIndex, List.findIdx?_eq_none_iff]
  constructor
  · intro h hc
    have := h c hc
    simp at this
  · intro h x hx
    rw [beq_eq_false_iff_ne]
    rintro rfl
    exact h hx

/-- The first index is that of the first occurrence. -/
theorem firstIndex_append {c : α} {a : List α} (h : c ∉ a) (b : List α) :
    firstIndex c (a ++ c :: b) = some a.length := by
  induction a with
  | nil =>
      have hc : (c == c) = true := beq_self_eq_true c
      rw [firstIndex, List.nil_append, List.findIdx?_cons, hc]
      rfl
  | cons x a ih =>
      rw [List.mem_cons, not_or] at h
      have hx : (x == c) = false := beq_eq_false_iff_ne.mpr (Ne.symm h.1)
      have := ih h.2
      rw [firstIndex] at this ⊢
      rw [List.cons_append, List.findIdx?_cons, hx, this]
      rfl

/-- The first `c` cuts the list where nothing before is `c`. -/
theorem firstIndex_eq_some {c : α} {xs : List α} {i : Nat} (h : firstIndex c xs = some i) :
    ∃ a b, xs = a ++ c :: b ∧ c ∉ a ∧ a.length = i := by
  by_cases hc : c ∈ xs
  · obtain ⟨a, b, rfl, ha⟩ := List.eq_append_cons_of_mem hc
    rw [firstIndex_append ha, Option.some.injEq] at h
    exact ⟨a, b, rfl, ha, h⟩
  · rw [firstIndex_eq_none.mpr hc] at h
    cases h

/-- A character has no last index exactly if it does not occur. -/
theorem lastIndex_eq_none {c : α} {xs : List α} : lastIndex c xs = none ↔ c ∉ xs := by
  rw [lastIndex, Option.map_eq_none_iff, firstIndex_eq_none, List.mem_reverse]

/-- The last index is that of the last occurrence. -/
theorem lastIndex_append {c : α} {b : List α} (a : List α) (h : c ∉ b) :
    lastIndex c (a ++ c :: b) = some a.length := by
  have hreverse : (a ++ c :: b).reverse = b.reverse ++ c :: a.reverse := by simp
  rw [lastIndex, hreverse, firstIndex_append (by simpa using h)]
  simp

/-- The text behind the last index does not hold the character. -/
theorem lastIndex_eq_some {c : α} {xs : List α} {i : Nat} (h : lastIndex c xs = some i) :
    ∃ a b, xs = a ++ c :: b ∧ c ∉ b ∧ a.length = i := by
  by_cases hc : c ∈ xs
  · obtain ⟨b, a, hreverse, hb⟩ := List.eq_append_cons_of_mem (List.mem_reverse.mpr hc)
    obtain rfl : xs = a.reverse ++ c :: b.reverse := by
      have := congrArg List.reverse hreverse
      simpa using this
    rw [lastIndex_append _ (by simpa using hb), Option.some.injEq] at h
    exact ⟨a.reverse, b.reverse, rfl, by simpa using hb, h⟩
  · rw [lastIndex_eq_none.mpr hc] at h
    cases h

/-! ## A sublist -/

/-- The place of the first `pat`. -/
def find (pat : List α) : List α → Option Nat
  | [] => if pat.isEmpty then some 0 else none
  | x :: xs => if pat.isPrefixOf (x :: xs) then some 0 else (find pat xs).map (· + 1)

/-- A pattern is found exactly if it is a part of the text. -/
theorem find_isSome (pat xs : List α) : (find pat xs).isSome ↔ pat <:+: xs := by
  induction xs with
  | nil => cases pat <;> simp [find]
  | cons x xs ih =>
      rw [find, List.infix_cons_iff]
      split
      · next h => simp [List.isPrefixOf_iff_prefix.mp h]
      · next h =>
          rw [List.isPrefixOf_iff_prefix] at h
          simp [h, ih]

/-- `find` finds the first occurrence. -/
theorem find_endsFirst {pat xs : List α} (hpat : pat ≠ []) {i : Nat}
    (h : find pat xs = some i) :
    ∃ p, p <+: xs ∧ EndsFirst pat p ∧ p.length = i + pat.length := by
  induction xs generalizing i with
  | nil =>
      rw [find, if_neg (by simpa using hpat)] at h
      cases h
  | cons x xs ih =>
      rw [find] at h
      split at h
      · next hprefix =>
          obtain rfl := Option.some.inj h
          refine ⟨pat, List.isPrefixOf_iff_prefix.mp hprefix, ⟨List.suffix_rfl, fun hin => ?_⟩,
            (Nat.zero_add _).symm⟩
          have := hin.length_le
          rw [List.length_dropLast] at this
          have := List.length_pos_iff.mpr hpat
          omega
      · next hprefix =>
          obtain ⟨j, hj, rfl⟩ := Option.map_eq_some_iff.mp h
          obtain ⟨p, hp, hends, hlen⟩ := ih hj
          have hne := hends.ne_nil hpat
          rw [List.isPrefixOf_iff_prefix] at hprefix
          refine ⟨x :: p, (List.cons_prefix_cons).mpr ⟨rfl, hp⟩,
            ⟨hends.1.trans (List.suffix_cons x p), ?_⟩, by rw [List.length_cons, hlen]; omega⟩
          rw [List.dropLast_cons_of_ne_nil hne, List.infix_cons_iff]
          rintro (hin | hin)
          · exact hprefix (hin.trans ((List.cons_prefix_cons).mpr
              ⟨rfl, (List.dropLast_prefix p).trans hp⟩))
          · exact hends.2 hin

/-- **`find` in words.** -/
theorem find_eq_some_iff {pat xs : List α} (hpat : pat ≠ []) {i : Nat} :
    find pat xs = some i ↔ ∃ p, p <+: xs ∧ EndsFirst pat p ∧ p.length = i + pat.length := by
  constructor
  · exact find_endsFirst hpat
  · rintro ⟨p, hp, hends, hlen⟩
    have hsome := (find_isSome pat xs).mpr (hends.1.isInfix.trans hp.isInfix)
    obtain ⟨j, hj⟩ := Option.isSome_iff_exists.mp hsome
    obtain ⟨q, hq, hqends, hqlen⟩ := find_endsFirst hpat hj
    obtain rfl := hends.unique hpat hqends hp hq
    rw [hj, Option.some.injEq]
    omega

/-! ## Runs between separators -/

section Runs

variable {β : Type} {p : β → Bool}

theorem splitOnP_cons_run {x : β} {xs run : List β} {runs : List (List β)} (hx : p x = false)
    (h : xs.splitOnP p = run :: runs) : (x :: xs).splitOnP p = (x :: run) :: runs := by
  rw [List.splitOnP_cons_eq_if_modifyHead, hx, h]
  rfl

/-- A run that starts with the list starts with what the list starts with. -/
theorem prefix_splitOnP {xs run needle : List β} {runs : List (List β)}
    (hrun : xs.splitOnP p = run :: runs) (hneedle : ∀ a ∈ needle, p a = false) :
    needle <+: xs ↔ needle <+: run := by
  induction xs generalizing run runs needle with
  | nil =>
      rw [List.splitOnP_nil] at hrun
      rw [(List.cons.inj hrun).1]
  | cons x xs ih =>
      cases needle with
      | nil => simp
      | cons a needle =>
          rw [List.forall_mem_cons] at hneedle
          cases hx : p x with
          | true =>
              rw [List.splitOnP_cons_eq_if_modifyHead, hx, if_pos rfl] at hrun
              rw [← (List.cons.inj hrun).1, List.cons_prefix_cons, List.prefix_nil]
              constructor
              · rintro ⟨rfl, -⟩
                rw [hneedle.1] at hx
                cases hx
              · intro h
                cases h
          | false =>
              obtain ⟨run', runs', hrun'⟩ := List.exists_cons_of_ne_nil
                (List.splitOnP_ne_nil p xs)
              rw [splitOnP_cons_run hx hrun'] at hrun
              rw [← (List.cons.inj hrun).1, List.cons_prefix_cons, List.cons_prefix_cons,
                ih hrun' hneedle.2]

/-- **What holds no separator lies in a list just when it lies in a run.** -/
theorem infix_splitOnP {needle : List β} (hneedle : ∀ a ∈ needle, p a = false) (xs : List β) :
    needle <:+: xs ↔ ∃ run ∈ xs.splitOnP p, needle <:+: run := by
  induction xs with
  | nil => simp
  | cons x xs ih =>
      obtain ⟨run, runs, hrun⟩ := List.exists_cons_of_ne_nil (List.splitOnP_ne_nil p xs)
      rw [List.infix_cons_iff, ih, hrun]
      cases hx : p x with
      | true =>
          have hsplit : (x :: xs).splitOnP p = [] :: run :: runs := by
            rw [List.splitOnP_cons_eq_if_modifyHead, hx, if_pos rfl, hrun]
          rw [prefix_splitOnP hsplit hneedle, hsplit, List.exists_mem_cons_iff _ [],
            List.prefix_nil, List.infix_nil]
      | false =>
          have hsplit := splitOnP_cons_run hx hrun
          rw [prefix_splitOnP hsplit hneedle, hsplit, List.exists_mem_cons_iff,
            List.exists_mem_cons_iff, ← or_assoc, ← List.infix_cons_iff]

end Runs

/-! ## What a pattern leaves -/

section Leaves

variable {γ : Type} {p : γ → Bool}

/-- What is left after `p{0,n}`, after the longest match first. -/
def upTo (p : γ → Bool) : Nat → List γ → List (List γ)
  | n + 1, c :: cs => (if p c then upTo p n cs else []) ++ [c :: cs]
  | _, cs => [cs]

/-- What may be left is the text less a run of at most so many characters. -/
theorem mem_upTo (n : Nat) {cs rest : List γ} :
    rest ∈ upTo p n cs ↔ ∃ t, t.length ≤ n ∧ (∀ c ∈ t, p c = true) ∧ cs = t ++ rest := by
  induction n generalizing cs with
  | zero =>
      have hzero : upTo p 0 cs = [cs] := by cases cs <;> rfl
      rw [hzero, List.mem_singleton]
      constructor
      · rintro rfl
        exact ⟨[], by simp, by simp, rfl⟩
      · rintro ⟨t, hlen, -, rfl⟩
        rw [List.eq_nil_of_length_eq_zero (by omega : t.length = 0), List.nil_append]
  | succ n ih =>
      cases cs with
      | nil =>
          rw [upTo, List.mem_singleton]
          constructor
          · rintro rfl
            exact ⟨[], by simp, by simp, rfl⟩
          · rintro ⟨t, -, -, h⟩
            exact (List.append_eq_nil_iff.mp h.symm).2
          · simp
      | cons c cs =>
          rw [upTo, List.mem_append, List.mem_singleton]
          constructor
          · rintro (h | rfl)
            · split at h
              · next hc =>
                  obtain ⟨t, hlen, hall, rfl⟩ := ih.mp h
                  exact ⟨c :: t, by simpa using hlen, List.forall_mem_cons.mpr ⟨hc, hall⟩, rfl⟩
              · cases h
            · exact ⟨[], by simp, by simp, rfl⟩
          · rintro ⟨t, hlen, hall, h⟩
            cases t with
            | nil => exact .inr h.symm
            | cons x t =>
                obtain ⟨rfl, rfl⟩ := List.cons.inj h
                rw [List.forall_mem_cons] at hall
                rw [if_pos hall.1]
                exact .inl (ih.mpr ⟨t, by simpa using hlen, hall.2, rfl⟩)

end Leaves

end Bootmux.Lib.Search
