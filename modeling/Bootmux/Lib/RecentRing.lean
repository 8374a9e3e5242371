/-
Bootmux.Lib.RecentRing — a ring of the last `n` remembered keys.

The ring is an array of `n` slots, filled with `0` at the start, and a
counter that only grows; remembering a key writes it at the counter
modulo `n`. What the ring holds is stated over the list of keys
remembered since it was cleared, oldest first:

* `seen_ofHistory` — a key is in the ring exactly when it is among the
  last `n` remembered, or the ring is not full yet and the key is `0`.
* `Spaced` — the histories a client produces that remembers only keys it
  does not find in the ring: no key recurs within the `n` keys before
  it, hence `n + 1` successive keys are pairwise distinct
  (`Spaced.nodup`).
* `Spaced.window_of_recurrence` — between two occurrences of a key, `n`
  pairwise distinct other keys were remembered.
-/
import Mathlib.Data.List.Induction
import Mathlib.Data.UInt

namespace Bootmux.Lib

structure RecentRing (n : Nat) (κ : Type) where
  slots : Fin n → κ
  index : Nat

namespace RecentRing

variable {n : Nat} {κ : Type} [NeZero n] [Zero κ] [DecidableEq κ]

def empty : RecentRing n κ where
  slots := fun _ => 0
  index := 0

/-- Linear search through the slots. -/
def seen (r : RecentRing n κ) (k : κ) : Bool := decide (∃ i, r.slots i = k)

def remember (r : RecentRing n κ) (k : κ) : RecentRing n κ where
  slots := Function.update r.slots (Fin.ofNat n r.index) k
  index := r.index + 1

omit [Zero κ] in
/-- What was just remembered is seen. -/
theorem seen_remember (r : RecentRing n κ) (k : κ) : (r.remember k).seen k = true := by
  rw [seen, decide_eq_true_eq]
  exact ⟨Fin.ofNat n r.index, by simp [remember]⟩

omit [NeZero n] in
/-- An empty ring sees its filler only. -/
theorem zero_of_seen_empty {k : κ} (h : (empty : RecentRing n κ).seen k = true) : k = 0 := by
  rw [seen, decide_eq_true_eq] at h
  obtain ⟨_, hslot⟩ := h
  exact hslot.symm

omit [Zero κ] in
/-- Remembering makes one key seen and no other. -/
theorem seen_of_remember {r : RecentRing n κ} {k l : κ} (h : (r.remember k).seen l = true) :
    l = k ∨ r.seen l = true := by
  rw [seen, decide_eq_true_eq] at h ⊢
  obtain ⟨i, hi⟩ := h
  simp only [remember] at hi
  by_cases hslot : i = Fin.ofNat n r.index
  · subst hslot
    exact .inl (hi.symm.trans (Function.update_self _ _ _))
  · rw [Function.update_of_ne hslot] at hi
    exact .inr ⟨i, hi⟩

/-- The ring after remembering the keys of `hist`, oldest first. -/
def ofHistory (hist : List κ) : RecentRing n κ := hist.foldl remember empty

omit [DecidableEq κ] in
/-- The ring of a longer history remembers one key more. -/
theorem ofHistory_concat (hist : List κ) (k : κ) :
    (ofHistory (hist ++ [k]) : RecentRing n κ) = (ofHistory hist).remember k := by
  simp [ofHistory]

omit [DecidableEq κ] in
/-- The index counts the keys. -/
theorem index_ofHistory (hist : List κ) :
    (ofHistory hist : RecentRing n κ).index = hist.length := by
  induction hist using List.reverseRecOn with
  | nil => rfl
  | append_singleton hist k ih => rw [ofHistory_concat]; simp [remember, ih]

omit [DecidableEq κ] in
/-- The last `n` keys stand at their position modulo `n`. -/
theorem slot_recent (hist : List κ) (j : Nat) (hj : j < hist.length)
    (hrecent : hist.length ≤ j + n) :
    (ofHistory hist : RecentRing n κ).slots (Fin.ofNat n j) = hist[j] := by
  induction hist using List.reverseRecOn with
  | nil => simp at hj
  | append_singleton hist k ih =>
      rw [ofHistory_concat]
      simp only [remember, index_ofHistory]
      simp only [List.length_append, List.length_singleton] at hj hrecent
      by_cases hlast : j = hist.length
      · subst hlast; simp
      · have hne : Fin.ofNat n j ≠ Fin.ofNat n hist.length := by
          intro heq
          have hmod : j % n = hist.length % n := congrArg Fin.val heq
          have hdvd : n ∣ hist.length - j :=
            Nat.dvd_of_mod_eq_zero (Nat.sub_mod_eq_zero_of_mod_eq hmod.symm)
          have := Nat.le_of_dvd (by omega) hdvd
          omega
        rw [Function.update_of_ne hne, ih (by omega) (by omega),
          List.getElem_append_left (by omega)]

omit [DecidableEq κ] in
/-- Slots that were never written hold `0`. -/
theorem slot_unwritten (hist : List κ) (i : Fin n) (hi : hist.length ≤ i) :
    (ofHistory hist : RecentRing n κ).slots i = 0 := by
  induction hist using List.reverseRecOn with
  | nil => rfl
  | append_singleton hist k ih =>
      rw [ofHistory_concat]
      simp only [remember, index_ofHistory]
      simp only [List.length_append, List.length_singleton] at hi
      have hne : i ≠ Fin.ofNat n hist.length := by
        intro heq
        have hval : i.val = hist.length % n := congrArg Fin.val heq
        rw [Nat.mod_eq_of_lt (by omega)] at hval
        omega
      rw [Function.update_of_ne hne, ih (by omega)]

/-- **What the ring holds.** -/
theorem seen_ofHistory (hist : List κ) (k : κ) :
    (ofHistory hist : RecentRing n κ).seen k = true ↔
      k ∈ hist.drop (hist.length - n) ∨ hist.length < n ∧ k = 0 := by
  have hn : 0 < n := Nat.pos_of_ne_zero (NeZero.ne n)
  simp only [seen, decide_eq_true_eq]
  constructor
  · rintro ⟨i, rfl⟩
    by_cases hi : hist.length ≤ i
    · exact Or.inr ⟨by omega, slot_unwritten hist i hi⟩
    · -- the youngest position congruent to `i`
      left
      have hlt : (hist.length - 1 - i) % n < n := Nat.mod_lt _ hn
      have hle : (hist.length - 1 - i) % n ≤ hist.length - 1 - i := Nat.mod_le _ _
      obtain ⟨j, hj⟩ : ∃ j, j = hist.length - 1 - (hist.length - 1 - i) % n := ⟨_, rfl⟩
      have hmod : j % n = i := by
        have hsplit := Nat.div_add_mod (hist.length - 1 - i) n
        have : j = i + n * ((hist.length - 1 - i) / n) := by omega
        rw [this, Nat.add_mul_mod_self_left, Nat.mod_eq_of_lt i.isLt]
      have hfin : Fin.ofNat n j = i := Fin.ext hmod
      rw [← hfin, slot_recent hist j (by omega) (by omega), List.mem_iff_getElem]
      exact ⟨j - (hist.length - n), by simp; omega, by simp; congr 1; omega⟩
  · rintro (hmem | ⟨hlen, rfl⟩)
    · obtain ⟨j, hj, rfl⟩ := List.mem_iff_getElem.mp hmem
      simp only [List.length_drop] at hj
      refine ⟨Fin.ofNat n (hist.length - n + j), ?_⟩
      rw [slot_recent hist _ (by omega) (by omega), List.getElem_drop]
    · exact ⟨⟨hist.length, hlen⟩, slot_unwritten hist _ (Nat.le_refl _)⟩

/-! ## Histories of a client that remembers only unseen keys -/

/-- No key recurs within the `n` keys before it. -/
def Spaced (n : Nat) (hist : List κ) : Prop :=
  ∀ older k newer, hist = older ++ k :: newer → k ∉ older.drop (older.length - n)

omit [NeZero n] [Zero κ] [DecidableEq κ] in
theorem spaced_nil : Spaced n ([] : List κ) := by
  intro older k newer h; simp at h

/-- A key that is not seen is far enough from its last occurrence. -/
theorem Spaced.concat {hist : List κ} (h : Spaced n hist) {k : κ}
    (hk : (ofHistory hist : RecentRing n κ).seen k = false) : Spaced n (hist ++ [k]) := by
  intro older l newer heq
  rcases List.eq_nil_or_concat newer with rfl | ⟨newer', z, rfl⟩
  · obtain ⟨rfl, hl⟩ := List.append_inj' heq rfl
    obtain rfl : k = l := by simpa using hl
    intro hmem
    have := (seen_ofHistory (n := n) hist k).mpr (Or.inl hmem)
    rw [hk] at this
    exact Bool.noConfusion this
  · rw [List.concat_eq_append, ← List.cons_append, ← List.append_assoc] at heq
    exact h older l newer' (List.append_inj' heq rfl).1

omit [Zero κ] [DecidableEq κ] [NeZero n] in
/-- Any `n + 1` successive keys are pairwise distinct. -/
theorem Spaced.nodup {hist : List κ} (h : Spaced n hist) :
    ∀ (older block newer : List κ), hist = older ++ block ++ newer →
      block.length ≤ n + 1 → block.Nodup := by
  intro older block
  induction block using List.reverseRecOn with
  | nil => intro _ _ _; exact List.nodup_nil
  | append_singleton block k ih =>
      intro newer heq hlen
      simp only [List.length_append, List.length_singleton] at hlen
      have hblock := ih (k :: newer) (by rw [heq]; simp) (by omega)
      have hk := h (older ++ block) k newer (by rw [heq]; simp)
      have hsub : k ∉ block := by
        intro hmem
        apply hk
        rw [List.drop_append_of_le_length (by simp; omega)]
        exact List.mem_append_right _ hmem
      simpa [List.nodup_append, hblock] using fun a ha => ne_of_mem_of_not_mem ha hsub

/-- **Between two occurrences of a key lie `n` distinct others.** If `k`
was remembered, `between` was remembered after it and `k` is not found
now, then the first `n` keys of `between` are pairwise distinct and
differ from `k`. -/
theorem Spaced.window_of_recurrence {older between : List κ} {k : κ}
    (h : Spaced n (older ++ k :: between))
    (hk : (ofHistory (older ++ k :: between) : RecentRing n κ).seen k = false) :
    n ≤ between.length ∧ (between.take n).Nodup ∧ k ∉ between.take n := by
  have hlen : n ≤ between.length := by
    by_contra hlt
    have hmem : k ∈ (older ++ k :: between).drop ((older ++ k :: between).length - n) := by
      rw [List.drop_append_of_le_length (by simp; omega)]
      simp
    have := (seen_ofHistory (n := n) _ k).mpr (Or.inl hmem)
    rw [hk] at this
    exact Bool.noConfusion this
  have hwindow : (k :: between.take n).length ≤ n + 1 := by
    rw [List.length_cons, List.length_take]
    omega
  have hnd := h.nodup older (k :: between.take n) (between.drop n) (by simp) hwindow
  rw [List.nodup_cons] at hnd
  exact ⟨hlen, hnd.2, hnd.1⟩

end RecentRing

end Bootmux.Lib
