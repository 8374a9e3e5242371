/-
Bootmux.Lib.PySub — `re.sub` with a replacement that is always the same.

A pattern is given by its matcher: the length of the match at a place,
from the character before it and the text after it. `sub` goes through
the text once, from left to right, and skips what a match covers.

A text that has nothing in common with the replacement (`Apart`) can only
be in the result where the input has it and no match began.
`sub_occurrence` says so, and says it together with whatever is known of
a place that the scan reaches: an invariant of the number of characters
still to be skipped, the text before the place and the result so far,
both reversed, and the text after it.
-/
import Mathlib.Data.List.Infix
import Mathlib.Data.List.TakeWhile

namespace Bootmux.Lib.PySub

/-- The length of the match, if there is one. -/
abbrev Matcher := Option Char → List Char → Option Nat

def sub (m : Matcher) (repl : List Char) : Nat → Option Char → List Char → List Char
  | _, _, [] => []
  | skip + 1, _, c :: cs => sub m repl skip (some c) cs
  | 0, prev, c :: cs =>
      match m prev (c :: cs) with
      | some n => repl ++ sub m repl (n - 1) (some c) cs
      | none => c :: sub m repl 0 (some c) cs

/-- `pattern.sub(repl, text)`. -/
def subAll (m : Matcher) (repl text : List Char) : List Char := sub m repl 0 none text

section Equations

variable (m : Matcher) (repl : List Char)

theorem sub_nil (skip : Nat) (prev : Option Char) : sub m repl skip prev [] = [] := by
  cases skip <;> rfl

theorem sub_skip (skip : Nat) (prev : Option Char) (c : Char) (cs : List Char) :
    sub m repl (skip + 1) prev (c :: cs) = sub m repl skip (some c) cs := rfl

variable {m}

/-- Where the pattern matches, the replacement takes the place of the match.
-/
theorem sub_match {prev : Option Char} {c : Char} {cs : List Char} {n : Nat}
    (h : m prev (c :: cs) = some n) :
    sub m repl 0 prev (c :: cs) = repl ++ sub m repl (n - 1) (some c) cs := by
  rw [sub, h]

/-- Where it does not, one character is copied. -/
theorem sub_keep {prev : Option Char} {c : Char} {cs : List Char} (h : m prev (c :: cs) = none) :
    sub m repl 0 prev (c :: cs) = c :: sub m repl 0 (some c) cs := by
  rw [sub, h]

end Equations

/-! ## What is in the result -/

/-- A text that a replacement neither contains nor overlaps. -/
structure Apart (repl a : List Char) : Prop where
  ne_nil : a ≠ []
  repl_ne : repl ≠ []
  head : ∀ c ∈ repl.head?, c ∉ a
  last : ∀ c ∈ repl.getLast?, c ∉ a
  not_in : ¬a <:+: repl

/-- Behind a replacement, it is behind all of it. -/
theorem Apart.behind {repl a u v rest : List Char} (h : Apart repl a)
    (heq : repl ++ rest = u ++ (a ++ v)) : ∃ w, u = repl ++ w ∧ rest = w ++ (a ++ v) := by
  rcases List.append_eq_append_iff.mp heq with ⟨w, hu, hrest⟩ | ⟨w, hrepl, hav⟩
  · exact ⟨w, hu, hrest⟩
  · rcases List.eq_nil_or_concat w with rfl | ⟨w, c, rfl⟩
    · rw [List.append_nil] at hrepl
      rw [List.nil_append] at hav
      exact ⟨[], by rw [hrepl, List.append_nil], by rw [List.nil_append, hav]⟩
    · exfalso
      rcases List.append_eq_append_iff.mp hav with ⟨x, hw, -⟩ | ⟨x, ha, -⟩
      · exact h.not_in ⟨u, x, by rw [hrepl, hw, List.append_assoc]⟩
      · refine h.last c ?_ ?_
        · rw [hrepl]
          simp
        · rw [ha]
          simp

/-- A text that stands at the front of the result stands at the front of the
input, and none of it was matched. -/
theorem sub_front {m : Matcher} {repl a v : List Char} (hrepl : repl ≠ [])
    (hhead : ∀ c ∈ repl.head?, c ∉ a) {prev : Option Char} {cs : List Char}
    (h : sub m repl 0 prev cs = a ++ v) :
    ∃ w prev', cs = a ++ w ∧ v = sub m repl 0 prev' w := by
  induction a generalizing prev cs with
  | nil => exact ⟨cs, prev, rfl, h.symm⟩
  | cons x a ih =>
      cases cs with
      | nil =>
          rw [sub_nil] at h
          cases h
      | cons c cs =>
          cases hm : m prev (c :: cs) with
          | some n =>
              rw [sub_match repl hm] at h
              obtain ⟨r, repl', rfl⟩ := List.exists_cons_of_ne_nil hrepl
              rw [List.cons_append, List.cons_append] at h
              obtain rfl := (List.cons.inj h).1
              exact absurd List.mem_cons_self (hhead r rfl)
          | none =>
              rw [sub_keep repl hm, List.cons_append] at h
              obtain ⟨rfl, hrest⟩ := List.cons.inj h
              obtain ⟨w, prev', rfl, hv⟩ :=
                ih (fun d hd hmem => hhead d hd (List.mem_cons_of_mem _ hmem)) hrest
              exact ⟨w, prev', rfl, hv⟩

/-- An invariant of the scan: it holds of the number of characters to skip,
the text before, the result so far and the text after. -/
structure Scan (m : Matcher) (repl : List Char)
    (I : Nat → List Char → List Char → List Char → Prop) : Prop where
  skip : ∀ {k before out c cs}, I (k + 1) before out (c :: cs) → I k (c :: before) out cs
  replace : ∀ {before out c cs n}, I 0 before out (c :: cs) →
    m before.head? (c :: cs) = some n → I (n - 1) (c :: before) (repl.reverse ++ out) cs
  keep : ∀ {before out c cs}, I 0 before out (c :: cs) → m before.head? (c :: cs) = none →
    I 0 (c :: before) (c :: out) cs

/-- **Where a text of the result comes from.** The input has it at a place
that the scan reaches with nothing to skip, and where there is no match. -/
theorem sub_occurrence {m : Matcher} {repl a : List Char} (hapart : Apart repl a)
    {I : Nat → List Char → List Char → List Char → Prop} (hscan : Scan m repl I) {k : Nat}
    (before out : List Char) {cs u₁ v₁ : List Char} (hI : I k before out cs)
    (h : sub m repl k before.head? cs = u₁ ++ (a ++ v₁)) :
    ∃ u v prev', cs = u ++ (a ++ v) ∧
      I 0 (u.reverse ++ before) (u₁.reverse ++ out) (a ++ v) ∧
      m (u.reverse ++ before).head? (a ++ v) = none ∧ v₁ = sub m repl 0 prev' v := by
  induction cs generalizing k before out u₁ with
  | nil =>
      rw [sub_nil] at h
      have hnil := (List.append_eq_nil_iff.mp (List.append_eq_nil_iff.mp h.symm).2).1
      exact absurd hnil hapart.ne_nil
  | cons c cs ih =>
      cases k with
      | succ k =>
          rw [sub_skip] at h
          obtain ⟨u, v, prev', rfl, hinv, hnone, hv⟩ := ih _ _ (hscan.skip hI) h
          exact ⟨c :: u, v, prev', rfl, by simpa using hinv, by simpa using hnone, hv⟩
      | zero =>
          cases hm : m before.head? (c :: cs) with
          | some n =>
              rw [sub_match repl hm] at h
              obtain ⟨w, rfl, hrest⟩ := hapart.behind h
              obtain ⟨u, v, prev', rfl, hinv, hnone, hv⟩ := ih _ _ (hscan.replace hI hm) hrest
              exact ⟨c :: u, v, prev', rfl, by simpa using hinv, by simpa using hnone, hv⟩
          | none =>
              cases u₁ with
              | nil =>
                  rw [List.nil_append] at h
                  obtain ⟨w, prev', hcs, hv⟩ := sub_front hapart.repl_ne hapart.head h
                  refine ⟨[], w, prev', hcs, ?_, ?_, hv⟩
                  · rw [← hcs]
                    exact hI
                  · rw [← hcs]
                    exact hm
              | cons x u₁ =>
                  rw [sub_keep repl hm, List.cons_append] at h
                  obtain ⟨rfl, hrest⟩ := List.cons.inj h
                  obtain ⟨u, v, prev', rfl, hinv, hnone, hv⟩ := ih _ _ (hscan.keep hI hm) hrest
                  exact ⟨c :: u, v, prev', rfl, by simpa using hinv, by simpa using hnone, hv⟩

/-- A text of the result is a text of the input. -/
theorem infix_of_sub {m : Matcher} {repl a text : List Char} (hapart : Apart repl a)
    (h : a <:+: subAll m repl text) : a <:+: text := by
  obtain ⟨u₁, v₁, heq⟩ := h
  have hscan : Scan m repl fun _ _ _ _ => True := ⟨fun _ => trivial, fun _ _ => trivial,
    fun _ _ => trivial⟩
  rw [List.append_assoc] at heq
  obtain ⟨u, v, -, rfl, -⟩ := sub_occurrence hapart hscan [] [] trivial heq.symm
  exact ⟨u, v, List.append_assoc _ _ _⟩

/-- The result starts with no longer run of a class than the input does. -/
theorem takeWhile_sub {m : Matcher} {repl : List Char} {p : Char → Bool} (hrepl : repl ≠ [])
    (hhead : ∀ c ∈ repl.head?, p c = false) (prev : Option Char) (cs : List Char) :
    (sub m repl 0 prev cs).takeWhile p <+: cs.takeWhile p := by
  induction cs generalizing prev with
  | nil => rw [sub_nil]
  | cons c cs ih =>
      cases hm : m prev (c :: cs) with
      | some n =>
          obtain ⟨r, repl', rfl⟩ := List.exists_cons_of_ne_nil hrepl
          rw [sub_match _ hm, List.cons_append,
            List.takeWhile_cons_of_neg (by simp [hhead r rfl])]
          exact List.nil_prefix
      | none =>
          rw [sub_keep _ hm]
          cases hc : p c with
          | false =>
              rw [List.takeWhile_cons_of_neg (by simp [hc])]
              exact List.nil_prefix
          | true =>
              rw [List.takeWhile_cons_of_pos hc, List.takeWhile_cons_of_pos hc]
              exact (List.cons_prefix_cons).mpr ⟨rfl, ih _⟩

/-- Before a place of the result stands no longer run of a class than before
its place in the input. -/
def ShorterRun (p : Char → Bool) (k : Nat) (before out _rest : List Char) : Prop :=
  out.takeWhile p <+: before.takeWhile p ∧ (k ≠ 0 → out.takeWhile p = [])

theorem scan_shorterRun {m : Matcher} {repl : List Char} {p : Char → Bool} (hrepl : repl ≠ [])
    (hlast : ∀ c ∈ repl.getLast?, p c = false) : Scan m repl (ShorterRun p) where
  skip h := by
    have hnil := h.2 (Nat.succ_ne_zero _)
    refine ⟨?_, fun _ => hnil⟩
    rw [hnil]
    exact List.nil_prefix
  replace {before out c cs n} _ _ := by
    obtain ⟨r, repl', hrev⟩ := List.exists_cons_of_ne_nil
      (fun h => hrepl (List.reverse_eq_nil_iff.mp h) : repl.reverse ≠ [])
    have hr : p r = false := by
      refine hlast r ?_
      rw [← List.head?_reverse, hrev]
      rfl
    have hnil : (repl.reverse ++ out).takeWhile p = [] := by
      rw [hrev, List.cons_append, List.takeWhile_cons_of_neg (by simp [hr])]
    exact ⟨by rw [hnil]; exact List.nil_prefix, fun _ => hnil⟩
  keep {before out c cs} h _ := by
    refine ⟨?_, fun hk => absurd rfl hk⟩
    cases hc : p c with
    | false =>
        rw [List.takeWhile_cons_of_neg (by simp [hc])]
        exact List.nil_prefix
    | true =>
        rw [List.takeWhile_cons_of_pos hc, List.takeWhile_cons_of_pos hc]
        exact (List.cons_prefix_cons).mpr ⟨rfl, h.1⟩

end Bootmux.Lib.PySub
