/-
Bootmux.Lib.Tagged — lists of values tagged with the number of who sent
them.

`part i l` are the values tagged `i`, in order. A list whose tags never
go down is its parts one after the other (`map_snd_eq_flatMap_part`).
-/
import Mathlib.Data.List.Induction
import Mathlib.Data.UInt

namespace Bootmux.Lib

variable {α : Type}

/-- The values tagged `i`. -/
def part (i : Nat) (l : List (Nat × α)) : List α := (l.filter fun x => x.1 = i).map Prod.snd

@[simp] theorem part_nil (i : Nat) : part i ([] : List (Nat × α)) = [] := rfl

/-- The part of a tag is taken piece by piece. -/
theorem part_append (i : Nat) (l m : List (Nat × α)) : part i (l ++ m) = part i l ++ part i m := by
  simp [part]

@[simp] theorem part_singleton_self (i : Nat) (a : α) : part i [(i, a)] = [a] := by
  simp [part]

theorem part_singleton_other {i j : Nat} (h : j ≠ i) (a : α) : part j [(i, a)] = [] := by
  simp [part, Ne.symm h]

/-- A tag that does not occur has an empty part. -/
theorem part_eq_nil {i : Nat} {l : List (Nat × α)} (h : ∀ x ∈ l, x.1 ≠ i) : part i l = [] := by
  simpa [part] using fun a b hab => h (a, b) hab

/-- An element of a part is an element with that tag. -/
theorem mem_part {i : Nat} {a : α} {l : List (Nat × α)} : a ∈ part i l ↔ (i, a) ∈ l := by
  simp only [part, List.mem_map, List.mem_filter, decide_eq_true_eq]
  constructor
  · rintro ⟨⟨j, b⟩, ⟨hmem, rfl⟩, rfl⟩
    exact hmem
  · exact fun h => ⟨(i, a), ⟨h, rfl⟩, rfl⟩

/-- Up to a tag and at the tag. -/
theorem filter_lt_succ {l : List (Nat × α)} (h : l.Pairwise fun x y => x.1 ≤ y.1) (n : Nat) :
    l.filter (fun x => x.1 < n + 1) =
      l.filter (fun x => x.1 < n) ++ l.filter (fun x => x.1 = n) := by
  induction l with
  | nil => rfl
  | cons x l ih =>
      rw [List.pairwise_cons] at h
      have ih := ih h.2
      rcases Nat.lt_trichotomy x.1 n with hlt | heq | hgt
      · simp only [List.filter_cons, hlt, Nat.lt_succ_of_lt hlt, Nat.ne_of_lt hlt, decide_true,
          decide_false, if_true, List.cons_append]
        rw [ih]
        simp
      · have hnone : l.filter (fun x => x.1 < n) = [] := by
          refine List.filter_eq_nil_iff.mpr fun y hy => ?_
          have := h.1 y hy
          simp only [decide_eq_true_eq]
          omega
        rw [hnone, List.nil_append] at ih
        obtain rfl := heq
        simp only [List.filter_cons, Nat.lt_succ_self, Nat.lt_irrefl, decide_true, decide_false,
          if_true, Bool.false_eq_true, if_false, hnone, List.nil_append, ih]
      · have hnone : ∀ m ≤ n, l.filter (fun x => x.1 < m + 1) = [] := by
          intro m hm
          refine List.filter_eq_nil_iff.mpr fun y hy => ?_
          have := h.1 y hy
          simp only [decide_eq_true_eq]
          omega
        rw [hnone n (Nat.le_refl _)] at ih
        have hx : ¬ x.1 < n + 1 ∧ ¬ x.1 < n ∧ ¬ x.1 = n := by omega
        simp only [List.filter_cons, hx.1, hx.2.1, hx.2.2, decide_false, Bool.false_eq_true,
          if_false, hnone n (Nat.le_refl _)]
        exact ih

/-- A list sorted by its tags is its parts, one after the other. -/
theorem map_snd_eq_flatMap_part {l : List (Nat × α)} (h : l.Pairwise fun x y => x.1 ≤ y.1) {n : Nat}
    (hlt : ∀ x ∈ l, x.1 < n) : l.map Prod.snd = (List.range n).flatMap fun i => part i l := by
  have key : ∀ n, (l.filter fun x => x.1 < n).map Prod.snd =
      (List.range n).flatMap fun i => part i l := by
    intro n
    induction n with
    | zero => simp
    | succ n ih =>
        rw [filter_lt_succ h, List.map_append, ih, List.range_succ, List.flatMap_append]
        simp [part]
  rw [← key n, List.filter_eq_self.mpr]
  exact fun x hx => by simpa using hlt x hx

end Bootmux.Lib
