/-
Bootmux.Bmx1.FramingTheorems — the framing law of BMX1.

Three ways to escape a field meet two splitters. `framing_law` puts them
together: the splitters agree on every frame the queues can hold, they
accept by the grammar alone (`unescapedPipes`, `unpaired`), and whatever
mixture of the escapings made the fields, the split gives them back.

Acceptance goes by two counts over the frame: pipes that no backslash
escapes, of which seven fields have six, and whether the last backslash has
a byte after it. A field that was escaped has neither (`Encodes`), so the
grammar and the round trip are proved apart and meet in the law. The bound
of the router on a field is never reached within 520 bytes.
-/
import Bootmux.Iphone.ProtocolTheorems

namespace Bootmux.Bmx1

/-- The bridge's `escapeField`: a backslash before the raw byte. -/
def escapeField (value : Bytes) : Bytes :=
  value.flatMap fun c =>
    if c = pipe ∨ c = backslash ∨ c = newline ∨ c = carriageReturn then [backslash, c] else [c]

/-- What the router reads from the rows of its `split_frame`. -/
def routerFields (frame : Bytes) : Option (List Bytes) :=
  (routerSplitFrame frame).map (List.map cString)

/-! ## The grammar -/

/-- The pipes that no backslash escapes. -/
def unescapedPipes (escaped : Bool) : Bytes → Nat
  | [] => 0
  | c :: rest =>
      if escaped then unescapedPipes false rest
      else if c = backslash then unescapedPipes true rest
      else if c = pipe then unescapedPipes false rest + 1
      else unescapedPipes false rest

/-- The last byte is a backslash that escapes nothing. -/
def unpaired (escaped : Bool) : Bytes → Bool
  | [] => escaped
  | c :: rest => unpaired (!escaped && c == backslash) rest

/-! ## Acceptance -/

/-- A split succeeds unless the fields run out or a backslash is left over. -/
theorem splitLoop_isSome_iff (frame : Bytes) (fields : List Bytes) (field : Bytes)
    (escaped : Bool) (hfields : fields.length < maxFields) :
    (splitLoop fields field escaped frame).isSome = true ↔
      fields.length + unescapedPipes escaped frame < maxFields ∧
        unpaired escaped frame = false := by
  induction frame generalizing fields field escaped with
  | nil =>
      have hroom : ¬fields.length ≥ maxFields := Nat.not_le.mpr hfields
      cases escaped <;> simp [splitLoop, unescapedPipes, unpaired, hroom, hfields]
  | cons c rest ih =>
      cases escaped with
      | true =>
          simp only [splitLoop, unescapedPipes, unpaired, if_true, Bool.not_true, Bool.false_and]
          exact ih _ _ _ hfields
      | false =>
          simp only [splitLoop, unescapedPipes, unpaired, Bool.false_eq_true, if_false,
            Bool.not_false, Bool.true_and]
          by_cases hbackslash : c = backslash
          · rw [if_pos hbackslash, if_pos hbackslash, beq_iff_eq.mpr hbackslash]
            exact ih _ _ _ hfields
          · rw [if_neg hbackslash, if_neg hbackslash, beq_eq_false_iff_ne.mpr hbackslash]
            by_cases hpipe : c = pipe
            · rw [if_pos hpipe, if_pos hpipe, if_neg (Nat.not_le.mpr hfields)]
              by_cases hroom : (fields ++ [field]).length < maxFields
              · rw [ih _ _ _ hroom, List.length_append, List.length_singleton,
                  Nat.add_assoc, Nat.add_comm 1]
              · -- the seventh pipe: the bridge rejects at the end of the frame
                rw [splitLoop_too_many rest _ _ _ (Nat.le_of_not_lt hroom)]
                rw [List.length_append, List.length_singleton] at hroom
                refine iff_of_false (by simp) fun h => hroom ?_
                omega
            · rw [if_neg hpipe, if_neg hpipe]
              exact ih _ _ _ hfields

/-- A frame is split exactly if it has seven fields at most and no backslash
alone. -/
theorem splitFrame_isSome_iff (frame : Bytes) :
    (splitFrame frame).isSome = true ↔
      unescapedPipes false frame ≤ 6 ∧ unpaired false frame = false := by
  rw [splitFrame, splitLoop_isSome_iff _ _ _ _ (by decide), List.length_nil, Nat.zero_add,
    maxFields, Nat.lt_succ_iff]

/-- On the frames of the queues the two splitters are one. -/
theorem routerFields_eq {frame : Bytes} (hnul : (0 : UInt8) ∉ frame)
    (hlen : frame.length < fieldMax) : routerFields frame = splitFrame frame := by
  rw [routerFields, routerSplitFrame_eq frame hlen]
  cases hsplit : splitFrame frame with
  | none => rfl
  | some fields =>
      have hrows : fields.map cString = fields := by
        rw [List.map_congr_left fun f hf =>
          cString_of_nulFree (splitFrame_fields hsplit hnul f hf).1, List.map_id']
      rw [Option.map_some, hrows]

/-! ## The escapings -/

/-- An escaped value encodes the value. -/
theorem escapeField_encodes (value : Bytes) : Encodes value (escapeField value) := by
  induction value with
  | nil => exact .nil
  | cons c value ih =>
      have hcons : escapeField (c :: value) =
          (if c = pipe ∨ c = backslash ∨ c = newline ∨ c = carriageReturn then [backslash, c]
            else [c]) ++ escapeField value := List.flatMap_cons
      rw [hcons]
      split
      · next hspecial =>
          have hself : unescape c = c := by
            rcases hspecial with rfl | rfl | rfl | rfl <;> decide
          have hpair := Encodes.pair (c := c) ih
          rwa [hself] at hpair
      · next hplain =>
          rw [not_or, not_or] at hplain
          exact .plain hplain.1 hplain.2.1 ih

/-- Escaping brings in no NUL. -/
theorem Encodes.nulFree {raw enc : Bytes} (h : Encodes raw enc) (hraw : (0 : UInt8) ∉ raw) :
    (0 : UInt8) ∉ enc := by
  induction h with
  | nil => exact hraw
  | plain _ _ _ ih =>
      rw [List.mem_cons, not_or] at hraw ⊢
      exact ⟨hraw.1, ih hraw.2⟩
  | @pair c _ _ _ ih =>
      rw [List.mem_cons, not_or] at hraw
      have hc : (0 : UInt8) ≠ c := by
        rintro rfl
        exact hraw.1 (by decide)
      simp only [List.mem_cons, not_or]
      exact ⟨by decide, hc, ih hraw.2⟩

/-- Nor does joining the fields. -/
theorem joinFields_nulFree {fields : List Bytes} (h : ∀ f ∈ fields, (0 : UInt8) ∉ f) :
    (0 : UInt8) ∉ joinFields fields := by
  induction fields with
  | nil => simp [joinFields]
  | cons f fields ih =>
      cases fields with
      | nil => exact h f (List.mem_singleton_self f)
      | cons g rest =>
          rw [joinFields, List.mem_append, List.mem_cons, not_or, not_or]
          exact ⟨h f List.mem_cons_self, by decide, ih fun f' hf' => h f' (.tail _ hf')⟩

/-- One field, by either sender. -/
def Escaped (raw enc : Bytes) : Prop := enc = Iphone.escape raw ∨ enc = escapeField raw

/-- Any mixture of escapes encodes the value. -/
theorem Escaped.encodes {raw enc : Bytes} (h : Escaped raw enc) : Encodes raw enc := by
  rcases h with rfl | rfl
  · exact Iphone.escape_encodes raw
  · exact escapeField_encodes raw

theorem escaped_nulFree {raws encs : List Bytes} (h : List.Forall₂ Escaped raws encs)
    (hraws : ∀ raw ∈ raws, (0 : UInt8) ∉ raw) : ∀ enc ∈ encs, (0 : UInt8) ∉ enc := by
  induction h with
  | nil => simp
  | cons henc _ ih =>
      rw [List.forall_mem_cons] at hraws ⊢
      exact ⟨henc.encodes.nulFree hraws.1, ih hraws.2⟩

/-! ## The law -/

theorem framing_law :
    (∀ frame : Bytes, (0 : UInt8) ∉ frame → frame.length < 520 →
      routerFields frame = splitFrame frame ∧
        ((splitFrame frame).isSome = true ↔
          unescapedPipes false frame ≤ 6 ∧ unpaired false frame = false)) ∧
    (∀ raws encs : List Bytes, 1 ≤ raws.length → raws.length ≤ 7 →
      (∀ raw ∈ raws, (0 : UInt8) ∉ raw) → List.Forall₂ Escaped raws encs →
      (joinFields encs).length < 520 →
        splitFrame (joinFields encs) = some raws ∧ routerFields (joinFields encs) = some raws) := by
  constructor
  · intro frame hnul hlen
    exact ⟨routerFields_eq hnul hlen, splitFrame_isSome_iff frame⟩
  · intro raws encs hone hseven hraws hescaped hlen
    have hcount : encs.length = raws.length := hescaped.length_eq.symm
    have hne : encs ≠ [] := by
      rintro rfl
      rw [← hcount] at hone
      exact absurd hone (by decide)
    have hsplit : splitFrame (joinFields encs) = some raws :=
      splitFrame_joinFields (hescaped.imp fun _ _ h => h.encodes) hne (hcount ▸ hseven)
    have hnul := joinFields_nulFree (escaped_nulFree hescaped hraws)
    exact ⟨hsplit, (routerFields_eq hnul hlen).trans hsplit⟩

/-- An empty field, a line break in each of the two conventions, and a pipe. -/
theorem framing_law_mixed :
    splitFrame (joinFields [ascii "a", [], Iphone.escape [newline, pipe],
      escapeField [newline, backslash]]) =
        some [ascii "a", [], [newline, pipe], [newline, backslash]] ∧
    splitFrame (ascii "a|b\\") = none := by
  have haccepts := (framing_law.1 (ascii "a|b\\") (by decide) (by decide)).2
  refine ⟨(framing_law.2 [ascii "a", [], [newline, pipe], [newline, backslash]] _ (by decide)
    (by decide) (by decide) (.cons (.inl (by decide)) (.cons (.inr rfl) (.cons (.inl rfl)
      (.cons (.inr rfl) .nil)))) (by decide)).1, ?_⟩
  exact Option.not_isSome_iff_eq_none.mp fun h => absurd (haccepts.mp h).2 (by decide)

end Bootmux.Bmx1
