/-
Bootmux.Lib.PyDict — dictionaries that keep the order of insertion, as
the list of their entries.

`set` is `d[key] = value`: a key that is there keeps its place and takes
the new value, a new one comes last. A list of entries that grows by
`set` alone has each key once (`set_nodup`), so that two entries of one
key are one entry (`eq_of_key`).

Keys are compared with `=`. The order of the entries is that of the first
assignment to each key, which is what `json.dumps` prints and a loop goes
by.
-/
import Mathlib.Data.List.Nodup

namespace Bootmux.Lib.PyDict

variable {α β : Type} [DecidableEq α]

def set (d : List (α × β)) (key : α) (value : β) : List (α × β) :=
  if d.any (·.1 == key) then d.map fun entry => if entry.1 = key then (key, value) else entry
  else d ++ [(key, value)]

/-- A new key goes to the end. -/
theorem set_new {d : List (α × β)} {key : α} (h : key ∉ d.map Prod.fst) (value : β) :
    set d key value = d ++ [(key, value)] := by
  rw [set, if_neg]
  simp only [List.any_eq_true, beq_iff_eq, not_exists, not_and]
  intro entry hentry hkey
  exact h (List.mem_map.mpr ⟨entry, hentry, hkey⟩)

/-- A key that is there keeps its place. -/
theorem set_old {d : List (α × β)} {key : α} (h : key ∈ d.map Prod.fst) (value : β) :
    set d key value = d.map fun entry => if entry.1 = key then (key, value) else entry := by
  obtain ⟨entry, hentry, hkey⟩ := List.mem_map.mp h
  rw [set, if_pos (List.any_eq_true.mpr ⟨entry, hentry, by rw [beq_iff_eq, hkey]⟩)]

/-- The keys stay as they are, or one more comes last. -/
theorem keys_set (d : List (α × β)) (key : α) (value : β) :
    (set d key value).map Prod.fst =
      if d.any (·.1 == key) then d.map Prod.fst else d.map Prod.fst ++ [key] := by
  rw [set]
  split
  · rw [List.map_map]
    refine List.map_congr_left fun entry _ => ?_
    simp only [Function.comp_apply]
    split
    · next hkey => exact hkey.symm
    · rfl
  · rw [List.map_append, List.map_singleton]

/-- A key is in a dictionary once. -/
theorem set_nodup {d : List (α × β)} (h : (d.map Prod.fst).Nodup) (key : α) (value : β) :
    ((set d key value).map Prod.fst).Nodup := by
  rw [keys_set]
  split
  · exact h
  · next hnew =>
      refine List.nodup_append.mpr ⟨h, List.nodup_singleton key, ?_⟩
      intro key' hmem key'' hkey hsame
      rw [List.mem_singleton.mp hkey] at hsame
      obtain ⟨entry, hentry, hfst⟩ := List.mem_map.mp hmem
      refine hnew (List.any_eq_true.mpr ⟨entry, hentry, ?_⟩)
      rw [beq_iff_eq, hfst, hsame]

omit [DecidableEq α] in
/-- With no key twice, an entry is known by its key. -/
theorem eq_of_key {d : List (α × β)} (h : (d.map Prod.fst).Nodup) {a b : α × β} (ha : a ∈ d)
    (hb : b ∈ d) (hkey : a.1 = b.1) : a = b :=
  List.inj_on_of_nodup_map h ha hb hkey

section Lookup

variable [BEq α] [LawfulBEq α]

theorem lookup_cons (entry : α × β) (d : List (α × β)) (k : α) :
    (entry :: d).lookup k = if k = entry.1 then some entry.2 else d.lookup k := by
  obtain ⟨key, value⟩ := entry
  rw [List.lookup_cons]
  by_cases hk : k = key
  · simp [hk]
  · have hbeq : (k == key) = false := by simpa using hk
    simp [hk, hbeq]

theorem lookup_map_set (d : List (α × β)) (key : α) (value : β) (k : α) :
    (d.map fun entry => if entry.1 = key then (key, value) else entry).lookup k =
      if k = key ∧ key ∈ d.map Prod.fst then some value else d.lookup k := by
  induction d with
  | nil => simp
  | cons entry d ih =>
      rw [List.map_cons, lookup_cons, lookup_cons, ih]
      by_cases hkey : entry.1 = key
      · by_cases hk : k = key
        · simp [hkey, hk]
        · simp [hkey, hk]
      · by_cases hk : k = entry.1
        · have hne : k ≠ key := hk ▸ hkey
          simp [hk, hkey]
        · have hmem : key ∈ (entry :: d).map Prod.fst ↔ key ∈ d.map Prod.fst := by
            simp [Ne.symm hkey]
          simp only [hkey, hk, if_false, hmem]

/-- A value is found under the key it was set for, and no other key changes.
-/
theorem lookup_set (d : List (α × β)) (key : α) (value : β) (k : α) :
    (set d key value).lookup k = if k = key then some value else d.lookup k := by
  by_cases hmem : key ∈ d.map Prod.fst
  · rw [set_old hmem, lookup_map_set]
    simp only [hmem, and_true]
  · have hnone : d.lookup key = none := by
      rw [List.lookup_eq_none_iff]
      intro entry hentry
      rw [bne_iff_ne]
      exact fun hsame => hmem (List.mem_map.mpr ⟨entry, hentry, hsame.symm⟩)
    rw [set_new hmem, List.lookup_append, lookup_cons]
    by_cases hk : k = key
    · simp [hk, hnone]
    · simp [hk]

/-- Of the values that a key is set to the last one counts. -/
theorem lookup_foldl_set (entries d : List (α × β)) (k : α) :
    (entries.foldl (fun d entry => set d entry.1 entry.2) d).lookup k =
      (entries.reverse.lookup k).or (d.lookup k) := by
  induction entries generalizing d with
  | nil => rfl
  | cons entry entries ih =>
      rw [List.foldl_cons, ih, lookup_set, List.reverse_cons, List.lookup_append, Option.or_assoc,
        lookup_cons]
      by_cases hk : k = entry.1 <;> simp [hk]

end Lookup

end Bootmux.Lib.PyDict
