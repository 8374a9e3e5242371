/-
Bootmux.Lib.Utf8Suffix — the longest end of a text that fits into a
number of bytes and starts at a character.

`cutLast` is the usual way to find it: the last `n` bytes, without the
tail bytes they start with. `cutLast_longest` says that this is the
longest such end, `LongestSuffix.unique` that there is one, and
`LongestSuffix.append` that an end may be taken of the end that was kept
instead of the whole.

The longest suffix is unique, and the longest suffix of a longest suffix
with more behind it is that of the whole, so that a history may be cut after
every piece that comes.
-/
import Bootmux.Lib.Utf8

namespace Bootmux.Lib.Utf8

/-- The end `t` of `w` starts at a character. -/
def BoundarySuffix (w t : List UInt8) : Prop := ∃ pre, w = pre ++ t ∧ valid pre = true

/-- The longest end of at most `n` bytes that starts at a character. -/
structure LongestSuffix (n : Nat) (w t : List UInt8) : Prop where
  suffix : BoundarySuffix w t
  fits : t.length ≤ n
  longest : ∀ u, BoundarySuffix w u → u.length ≤ n → u.length ≤ t.length

/-- A suffix of valid text that starts at a character is valid. -/
theorem BoundarySuffix.valid {w t : List UInt8} (h : BoundarySuffix w t)
    (hw : Utf8.valid w = true) : Utf8.valid t = true := by
  obtain ⟨pre, rfl, hpre⟩ := h
  rwa [valid_append hpre] at hw

/-- A suffix at a boundary is a suffix. -/
theorem BoundarySuffix.isSuffix {w t : List UInt8} (h : BoundarySuffix w t) : t <:+ w := by
  obtain ⟨pre, rfl, -⟩ := h
  exact List.suffix_append pre t

/-- There is one longest suffix. -/
theorem LongestSuffix.unique {n : Nat} {w t u : List UInt8} (ht : LongestSuffix n w t)
    (hu : LongestSuffix n w u) : t = u := by
  have hlen : t.length = u.length :=
    Nat.le_antisymm (hu.longest t ht.suffix ht.fits) (ht.longest u hu.suffix hu.fits)
  exact List.IsSuffix.eq_of_length
    (List.suffix_of_suffix_length_le ht.suffix.isSuffix hu.suffix.isSuffix hlen.le) hlen

/-- The end of what was kept and what comes after it is the end of the
whole. -/
theorem LongestSuffix.append {n : Nat} {w t s u : List UInt8} (hw : Utf8.valid w = true)
    (ht : LongestSuffix n w t) (hu : LongestSuffix n (t ++ s) u) : LongestSuffix n (w ++ s) u := by
  obtain ⟨⟨pre, rfl, hpre⟩, hfits, hlongest⟩ := ht
  obtain ⟨⟨mid, hmid, hmidv⟩, hufits, hulongest⟩ := hu
  refine ⟨⟨pre ++ mid, ?_, ?_⟩, hufits, ?_⟩
  · rw [List.append_assoc, hmid, List.append_assoc]
  · rwa [valid_append hpre]
  · rintro v ⟨front, hfront, hfrontv⟩ hv
    rw [List.append_assoc] at hfront
    rcases List.append_eq_append_iff.mp hfront with ⟨more, rfl, hmore⟩ | ⟨more, rfl, rfl⟩
    · -- an end of what was kept
      rw [valid_append hpre] at hfrontv
      exact hulongest v ⟨more, hmore, hfrontv⟩ hv
    · -- a longer one would have been kept in its place
      rw [List.append_assoc, valid_append hfrontv] at hw
      have hboundary : BoundarySuffix (front ++ more ++ t) (more ++ t) :=
        ⟨front, List.append_assoc .., hfrontv⟩
      rw [List.length_append, List.length_append] at hv
      have hle := hlongest (more ++ t) hboundary (by rw [List.length_append]; omega)
      rw [List.length_append] at hle
      obtain rfl := List.length_eq_zero_iff.mp (show more.length = 0 by omega)
      exact hulongest (t ++ s) ⟨[], rfl, rfl⟩ (by rw [List.length_append]; omega)

/-! ## Finding it -/

/-- The last `n` bytes, without the tail of a character that was cut. -/
def cutLast (n : Nat) (w : List UInt8) : List UInt8 :=
  if w.length ≤ n then w else (w.drop (w.length - n)).dropWhile isTail

/-- A text starts with a byte that is no tail. -/
theorem valid_head {b : UInt8} {rest : List UInt8} (h : valid (b :: rest) = true) :
    isTail b = false := by
  cases hs : runeSize (b :: rest) with
  | none => simp [valid_bad hs] at h
  | some k =>
      obtain ⟨c, more, heq, hc, -⟩ := runeSize_eq_some hs
      cases c with
      | nil => exact absurd rfl hc.ne_nil
      | cons d c =>
          obtain ⟨rfl, -⟩ := List.cons.inj heq
          exact hc.tails.1

/-- Dropping continuation bytes ends at the first character. -/
theorem dropWhile_tails {q w : List UInt8} (hq : ∀ b ∈ q, isTail b = true)
    (hw : valid w = true) : (q ++ w).dropWhile isTail = w := by
  rw [List.dropWhile_append_of_pos hq]
  cases w with
  | nil => rfl
  | cons b w => rw [List.dropWhile_cons, valid_head hw, if_neg Bool.false_ne_true]

/-- **The last bytes without a cut character are the longest end.** -/
theorem cutLast_longest (n : Nat) {w : List UInt8} (hw : valid w = true) :
    LongestSuffix n w (cutLast n w) := by
  rw [cutLast]
  split
  · next h =>
      exact ⟨⟨[], rfl, rfl⟩, h, fun u hu _ => hu.isSuffix.length_le⟩
  · next h =>
      have hsplit := List.take_append_drop (w.length - n) w
      have hlen : (w.drop (w.length - n)).length = n := by
        rw [List.length_drop]
        omega
      generalize w.take (w.length - n) = r at hsplit
      generalize w.drop (w.length - n) = s at hsplit hlen ⊢
      subst hsplit
      obtain ⟨v, p, q, t, rfl, rfl, hv, ht, hcut⟩ := valid_split hw
      have htails : ∀ b ∈ q, isTail b = true := by
        rcases hcut with ⟨-, rfl⟩ | ⟨hp, -, hrune⟩
        · exact fun b hb => (List.not_mem_nil hb).elim
        · obtain ⟨c, p, rfl⟩ := List.exists_cons_of_ne_nil hp
          exact fun b hb => hrune.tails.2 b (List.mem_append_right p hb)
      have hfront : valid (v ++ (p ++ q)) = true := by
        rw [valid_append hv]
        rcases hcut with ⟨rfl, rfl⟩ | ⟨-, -, hrune⟩
        · rfl
        · exact hrune.valid
      rw [dropWhile_tails htails ht]
      rw [List.length_append] at hlen
      refine ⟨⟨v ++ (p ++ q), by simp, hfront⟩, by omega, fun u hu hfits => ?_⟩
      by_contra hlonger
      -- a longer end would start with a tail byte
      have huv := hu.valid hw
      have hsuffix : u <:+ q ++ t :=
        List.suffix_of_suffix_length_le hu.isSuffix (List.suffix_append (v ++ p) (q ++ t))
          (by rw [List.length_append]; omega)
      obtain ⟨x, hx⟩ := hsuffix
      rcases List.append_eq_append_iff.mp hx with ⟨y, rfl, rfl⟩ | ⟨y, -, rfl⟩
      · cases y with
        | nil => exact hlonger (by simp)
        | cons b y =>
            have hb := valid_head huv
            rw [htails b (by simp)] at hb
            cases hb
      · exact hlonger (by simp)

end Bootmux.Lib.Utf8
