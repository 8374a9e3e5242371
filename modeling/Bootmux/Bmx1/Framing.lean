/-
Bootmux.Bmx1.Framing — the field framing of BMX1: pipe-separated fields
with backslash escapes.

`splitFrame` is the bridge's field splitter and `routerSplitFrame` the
router's `split_frame`. They differ in where they count — the bridge
checks the number of fields when one ends, the router when one begins,
and the router also bounds each field by its 520-byte row — and agree
on every frame the queues admit (`routerSplitFrame_eq`).

`Encodes raw enc` is any byte-level escaping of a field: a byte other
than pipe and backslash stands for itself, and a backslash pair stands
for its unescaped byte. `splitFrame_joinFields` is the round trip for
every such escaping.
-/
import Mathlib.Data.List.Forall2
import Bootmux.Bmx1.Wire

namespace Bootmux.Bmx1

/-- The byte an escape pair stands for. -/
def unescape (c : UInt8) : UInt8 :=
  if c = 0x6E then newline else if c = 0x72 then carriageReturn else c

/-- The number of fields of a frame, `std::array<String, 7>`. -/
def maxFields : Nat := 7

/-- The row size of the router's `fields`, `BMX_FIELD_MAX`. -/
def fieldMax : Nat := 520

/-- The loop of the bridge's `splitFrame`: finished fields, the current
field, and whether the last byte was an unpaired backslash. -/
def splitLoop (fields : List Bytes) (field : Bytes) (escaped : Bool) :
    Bytes → Option (List Bytes)
  | [] => if escaped || fields.length ≥ maxFields then none else some (fields ++ [field])
  | c :: rest =>
      if escaped then splitLoop fields (field ++ [unescape c]) false rest
      else if c = backslash then splitLoop fields field true rest
      else if c = pipe then
        if fields.length ≥ maxFields then none else splitLoop (fields ++ [field]) [] false rest
      else splitLoop fields (field ++ [c]) false rest

def splitFrame (frame : Bytes) : Option (List Bytes) := splitLoop [] [] false frame

/-- The loop of the router's `split_frame`; `fields.length` is its
`field` index and `field.length` its `position`. -/
def routerSplitLoop (fields : List Bytes) (field : Bytes) (escaped : Bool) :
    Bytes → Option (List Bytes)
  | [] => if escaped then none else some (fields ++ [field])
  | c :: rest =>
      if escaped then
        if field.length + 1 ≥ fieldMax then none
        else routerSplitLoop fields (field ++ [unescape c]) false rest
      else if c = backslash then routerSplitLoop fields field true rest
      else if c = pipe then
        if fields.length + 1 ≥ maxFields then none
        else routerSplitLoop (fields ++ [field]) [] false rest
      else if field.length + 1 ≥ fieldMax then none
      else routerSplitLoop fields (field ++ [c]) false rest

/-- The rows the router splits a frame into, before they are read as C
strings. -/
def routerSplitFrame (frame : Bytes) : Option (List Bytes) := routerSplitLoop [] [] false frame

/-- Field `i` of a split frame; the arrays of both sources are empty
strings beyond the last field. -/
def fieldAt (fields : List Bytes) (i : Nat) : Bytes := fields.getD i []

/-! ## The two splitters agree -/

/-- With seven finished fields the bridge can only reject. -/
theorem splitLoop_too_many (frame : Bytes) (fields : List Bytes) (field : Bytes)
    (escaped : Bool) (h : maxFields ≤ fields.length) :
    splitLoop fields field escaped frame = none := by
  induction frame generalizing field escaped with
  | nil => simp [splitLoop, h]
  | cons c rest ih =>
      rw [splitLoop, if_pos h]
      split
      · exact ih _ _
      · split
        · exact ih _ _
        · split
          · rfl
          · exact ih _ _

theorem routerSplitLoop_eq (frame : Bytes) (fields : List Bytes) (field : Bytes)
    (escaped : Bool) (hfields : fields.length < maxFields)
    (hlen : field.length + frame.length < fieldMax) :
    routerSplitLoop fields field escaped frame = splitLoop fields field escaped frame := by
  induction frame generalizing fields field escaped with
  | nil =>
      have : ¬ fields.length ≥ maxFields := by omega
      simp [routerSplitLoop, splitLoop, this]
  | cons c rest ih =>
      simp only [List.length_cons] at hlen
      have hpos : ¬ field.length + 1 ≥ fieldMax := by omega
      unfold routerSplitLoop splitLoop
      simp only [if_neg hpos]
      split
      · exact ih _ _ _ hfields (by simp; omega)
      · split
        · exact ih _ _ _ hfields (by omega)
        · split
          · -- the seventh pipe: the router rejects at once, the bridge at the end
            rw [if_neg (by omega : ¬ fields.length ≥ maxFields)]
            split
            · rw [splitLoop_too_many rest (fields ++ [field]) [] false (by simpa using ‹_›)]
            · exact ih _ _ _ (by simp; omega) (by simp; omega)
          · exact ih _ _ _ hfields (by simp; omega)

theorem routerSplitFrame_eq (frame : Bytes) (h : frame.length < fieldMax) :
    routerSplitFrame frame = splitFrame frame :=
  routerSplitLoop_eq frame [] [] false (by decide) (by simpa using h)

/-! ## The fields of a frame -/

theorem unescape_ne_zero {c : UInt8} (h : c ≠ 0) : unescape c ≠ 0 := by
  unfold unescape
  split
  · decide
  · split
    · decide
    · exact h

theorem splitLoop_fields {n : Nat} (frame : Bytes) (fields out : List Bytes) (field : Bytes)
    (escaped : Bool) (h : splitLoop fields field escaped frame = some out)
    (hframe : (0 : UInt8) ∉ frame) (hfields : ∀ f ∈ fields, (0 : UInt8) ∉ f ∧ f.length ≤ n)
    (hfield : (0 : UInt8) ∉ field) (hlen : field.length + frame.length ≤ n) :
    ∀ f ∈ out, (0 : UInt8) ∉ f ∧ f.length ≤ n := by
  induction frame generalizing fields field escaped with
  | nil =>
      rw [splitLoop] at h
      split at h
      · cases h
      · obtain rfl := Option.some.inj h
        intro f hf
        rcases List.mem_append.mp hf with hf | hf
        · exact hfields f hf
        · obtain rfl := List.mem_singleton.mp hf
          exact ⟨hfield, by simpa using hlen⟩
  | cons c rest ih =>
      rw [List.mem_cons, not_or] at hframe
      rw [List.length_cons] at hlen
      have hgrow : ∀ d : UInt8, d ≠ 0 → (0 : UInt8) ∉ field ++ [d] := by
        intro d hd hmem
        rcases List.mem_append.mp hmem with hmem | hmem
        · exact hfield hmem
        · exact hd (List.mem_singleton.mp hmem).symm
      rw [splitLoop] at h
      split at h
      · exact ih _ _ _ h hframe.2 hfields (hgrow _ (unescape_ne_zero (Ne.symm hframe.1)))
          (by simp; omega)
      · split at h
        · exact ih _ _ _ h hframe.2 hfields hfield (by omega)
        · split at h
          · split at h
            · cases h
            · refine ih _ _ _ h hframe.2 ?_ (by simp) (by simp; omega)
              intro f hf
              rcases List.mem_append.mp hf with hf | hf
              · exact hfields f hf
              · obtain rfl := List.mem_singleton.mp hf
                exact ⟨hfield, by omega⟩
          · exact ih _ _ _ h hframe.2 hfields (hgrow c (Ne.symm hframe.1)) (by simp; omega)

/-- A frame without NUL bytes has fields without NUL bytes, none longer
than the frame. -/
theorem splitFrame_fields {frame : Bytes} {fields : List Bytes}
    (h : splitFrame frame = some fields) (hnul : (0 : UInt8) ∉ frame) :
    ∀ f ∈ fields, (0 : UInt8) ∉ f ∧ f.length ≤ frame.length :=
  splitLoop_fields frame [] fields [] false h hnul (by simp) (by simp) (by simp)

/-! ## Round trip -/

/-- `enc` is an escaping of `raw`. -/
inductive Encodes : Bytes → Bytes → Prop where
  | nil : Encodes [] []
  | plain {c : UInt8} {raw enc : Bytes} (hp : c ≠ pipe) (hb : c ≠ backslash) :
      Encodes raw enc → Encodes (c :: raw) (c :: enc)
  | pair {c : UInt8} {raw enc : Bytes} :
      Encodes raw enc → Encodes (unescape c :: raw) (backslash :: c :: enc)

/-- A field without pipe and backslash escapes to itself. -/
theorem encodes_self {raw : Bytes} (hp : pipe ∉ raw) (hb : backslash ∉ raw) :
    Encodes raw raw := by
  induction raw with
  | nil => exact .nil
  | cons c raw ih =>
      simp only [List.mem_cons, not_or] at hp hb
      exact .plain (Ne.symm hp.1) (Ne.symm hb.1) (ih hp.2 hb.2)

/-- The splitter reads an escaped field into the current field. -/
theorem splitLoop_encodes {raw enc : Bytes} (h : Encodes raw enc) (fields : List Bytes)
    (field rest : Bytes) :
    splitLoop fields field false (enc ++ rest) = splitLoop fields (field ++ raw) false rest := by
  induction h generalizing field with
  | nil => simp
  | plain hp hb _ ih =>
      rw [List.cons_append, splitLoop]
      simp only [Bool.false_eq_true, if_false, hp, hb]
      rw [ih]; simp
  | pair _ ih =>
      rw [List.cons_append, List.cons_append, splitLoop, if_neg (by simp), if_pos rfl,
        splitLoop, if_pos rfl, ih]
      simp

/-- Fields joined with pipes. -/
def joinFields : List Bytes → Bytes
  | [] => []
  | [f] => f
  | f :: g :: rest => f ++ pipe :: joinFields (g :: rest)

theorem splitLoop_joinFields {raws encs : List Bytes} (h : List.Forall₂ Encodes raws encs)
    (fields : List Bytes) (hne : encs ≠ []) (hlen : fields.length + encs.length ≤ maxFields) :
    splitLoop fields [] false (joinFields encs) = some (fields ++ raws) := by
  induction h generalizing fields with
  | nil => exact absurd rfl hne
  | @cons raw enc raws encs henc hrest ih =>
      simp only [List.length_cons] at hlen
      cases hrest with
      | nil =>
          have hlt : ¬ fields.length ≥ maxFields := by simp at hlen; omega
          have := splitLoop_encodes henc fields [] []
          rw [List.append_nil] at this
          simp [joinFields, this, splitLoop, hlt]
      | cons henc' hrest' =>
          rw [joinFields, splitLoop_encodes henc, splitLoop]
          have hlt : ¬ fields.length ≥ maxFields := by omega
          have hpb : pipe ≠ backslash := by decide
          simp only [Bool.false_eq_true, if_false, if_true, hpb, hlt, List.nil_append]
          rw [ih (fields ++ [raw]) (by simp) (by simp at hlen ⊢; omega)]
          simp

/-- **Framing round trip.** -/
theorem splitFrame_joinFields {raws encs : List Bytes} (h : List.Forall₂ Encodes raws encs)
    (hne : encs ≠ []) (hlen : encs.length ≤ maxFields) :
    splitFrame (joinFields encs) = some raws := by
  rw [splitFrame, splitLoop_joinFields h [] hne (by simpa using hlen), List.nil_append]

end Bootmux.Bmx1
