/-
Bootmux.Lib.RingQueue — a bounded queue kept in an array of `n` slots
with a head, a tail and a count.

The relation between the three counters is a field of the structure, so
every queue that can be built is well formed. `contents` reads the queue
as a list, oldest first; `contents_push` and `contents_pop` say that the
ring is a first-in first-out queue.

The index of the next element and the count are kept as the sources keep
them; `contents` is the list that they stand for, and pushing and popping
are the operations of a list on it.
-/
import Mathlib.Data.UInt

namespace Bootmux.Lib

structure RingQueue (n : Nat) (α : Type) where
  slots : Nat → α
  head : Nat
  tail : Nat
  count : Nat
  head_lt : head < n
  count_le : count ≤ n
  tail_eq : tail = (head + count) % n

namespace RingQueue

variable {n : Nat} {α : Type}

/-- The queue that clearing leaves. -/
def empty [NeZero n] [Inhabited α] : RingQueue n α where
  slots := fun _ => default
  head := 0
  tail := 0
  count := 0
  head_lt := Nat.pos_of_ne_zero (NeZero.ne n)
  count_le := Nat.zero_le n
  tail_eq := by simp

def push (q : RingQueue n α) (x : α) (h : q.count < n) : RingQueue n α where
  slots := Function.update q.slots q.tail x
  head := q.head
  tail := (q.tail + 1) % n
  count := q.count + 1
  head_lt := q.head_lt
  count_le := h
  tail_eq := by rw [q.tail_eq, Nat.mod_add_mod, Nat.add_assoc]

/-- Take the oldest element and reset its slot. -/
def pop [Inhabited α] (q : RingQueue n α) (h : 0 < q.count) : α × RingQueue n α :=
  (q.slots q.head,
    { slots := Function.update q.slots q.head default
      head := (q.head + 1) % n
      tail := q.tail
      count := q.count - 1
      head_lt := Nat.mod_lt _ (Nat.lt_of_le_of_lt (Nat.zero_le _) q.head_lt)
      count_le := Nat.le_trans (Nat.sub_le _ _) q.count_le
      tail_eq := by
        rw [q.tail_eq, Nat.mod_add_mod]
        congr 1
        omega })

/-- The queue as a list, oldest first. -/
def contents (q : RingQueue n α) : List α :=
  (List.range q.count).map fun i => q.slots ((q.head + i) % n)

@[simp] theorem contents_empty [NeZero n] [Inhabited α] :
    (empty : RingQueue n α).contents = [] := rfl

@[simp] theorem length_contents (q : RingQueue n α) : q.contents.length = q.count := by
  simp [contents]

/-- Two places of the queue are two slots of the ring. -/
theorem slot_ne {head i j n : Nat} (hij : i < j) (hj : j < i + n) :
    (head + i) % n ≠ (head + j) % n := by
  intro heq
  have hdvd : n ∣ (head + j) - (head + i) :=
    Nat.dvd_of_mod_eq_zero (Nat.sub_mod_eq_zero_of_mod_eq heq.symm)
  have := Nat.le_of_dvd (by omega) hdvd
  omega

/-- A pushed element is the last one. -/
theorem contents_push (q : RingQueue n α) (x : α) (h : q.count < n) :
    (q.push x h).contents = q.contents ++ [x] := by
  simp only [contents, push, List.range_succ, List.map_append, List.map_singleton]
  congr 1
  · apply List.map_congr_left
    intro i hi
    have hlt := List.mem_range.mp hi
    rw [q.tail_eq, Function.update_of_ne (slot_ne hlt (by omega))]
  · rw [q.tail_eq, Function.update_self]

/-- The popped element is the first one. -/
theorem contents_pop [Inhabited α] (q : RingQueue n α) (h : 0 < q.count) :
    q.contents = (q.pop h).1 :: (q.pop h).2.contents := by
  obtain ⟨k, hk⟩ : ∃ k, q.count = k + 1 := ⟨q.count - 1, by omega⟩
  simp only [contents, pop, hk, List.range_succ_eq_map, List.map_cons, List.map_map,
    Nat.add_zero, Nat.mod_eq_of_lt q.head_lt, Nat.add_sub_cancel]
  congr 1
  apply List.map_congr_left
  intro i hi
  have hlt := List.mem_range.mp hi
  have hle := q.count_le
  have hne : (q.head + (i + 1)) % n ≠ q.head := by
    have h0 : (q.head + 0) % n ≠ (q.head + (i + 1)) % n :=
      slot_ne (Nat.succ_pos i) (by omega)
    rw [Nat.add_zero, Nat.mod_eq_of_lt q.head_lt] at h0
    exact h0.symm
  simp only [Function.comp, Nat.succ_eq_add_one]
  rw [Nat.mod_add_mod, show q.head + 1 + i = q.head + (i + 1) by omega,
    Function.update_of_ne hne]

end RingQueue

end Bootmux.Lib
