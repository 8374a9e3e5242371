/-
Bootmux.UsbIdentity.OracleTheorems — which texts of `system_profiler` the USB
identity oracle judges soundly.

The verdict reads the first segment that is recognised as BOOTMUX
(`find?_isBootmux`), and of a repeated key the last value. What stands
elsewhere in a BOOTMUX block is lost (`Segment.lost`, `kept_or_lost`), so the
oracle is sound exactly where nothing with a marker is lost, and no block that
mentions BOOTMUX by its product alone is missed (`oracle_sound_iff`).

The condition is on the rows of the text. It names the five shapes that the
parser loses: a block below the block of the device, a second block of a
BOOTMUX device, a value that a later line of its key overwrites, a line that
ends in a colon, and a device that is BOOTMUX by its product alone. Each of
them is looked for a marker (`HasMarker`), and if none has one the verdict
is that of all that the text says about such devices.
-/
import Bootmux.Lib.Search
import Bootmux.UsbIdentity.ProfilerTheorems

namespace Bootmux.UsbIdentity

open Bootmux.Lib
open Bootmux.Lib.PyText (isLineBreak isSpace strip toLower toLower_append)
open Bootmux.NetworkGuardian (contains)

/-! ## The verdict -/

/-- The device is the safe product, shows HID and no network class. -/
def Approved (dev : Device) : Prop :=
  productIsSafe dev = true ∧ hidPresent dev = true ∧ networkMarkersFound dev = []

/-- The texts of a device that the verdict reads. -/
def Device.texts (dev : Device) : List (List Char) :=
  dev.name :: dev.fields.flatMap fun entry => [entry.1, entry.2]

/-- The verdict is about the first BOOTMUX device, if there is one. -/
theorem classify_verdict (devices : List Device) :
    (classifyBootmux devices).verdict = .noBootmuxDevice ∧ devices.find? isBootmux = none ∨
      ∃ dev, devices.find? isBootmux = some dev ∧
        (classifyBootmux devices).verdict ≠ .noBootmuxDevice ∧
          ((classifyBootmux devices).verdict = .safeHidOnly ↔ Approved dev) := by
  rw [← List.head?_filter]
  unfold classifyBootmux
  cases hfilter : devices.filter isBootmux with
  | nil => exact .inl ⟨rfl, rfl⟩
  | cons dev rest =>
      refine .inr ⟨dev, rfl, ?_, ?_⟩
      · dsimp only
        split
        · decide
        · split
          · decide
          · split <;> decide
      · dsimp only [Approved]
        cases hproduct : productIsSafe dev <;> cases hhid : hidPresent dev <;>
          cases hmarkers : networkMarkersFound dev <;> simp

/-- A part of a text is a part of it in lower case too. -/
theorem toLower_isInfix {a b : List Char} (h : a <:+: b) : toLower a <:+: toLower b := by
  obtain ⟨u, v, rfl⟩ := h
  exact ⟨toLower u, toLower v, by rw [toLower_append, toLower_append]⟩

theorem infix_intercalate {sep part : List Char} :
    ∀ {parts : List (List Char)}, part ∈ parts → part <:+: sep.intercalate parts
  | [_], h => by
      rw [List.mem_singleton.mp h, List.intercalate_singleton]
  | first :: next :: parts, h => by
      rw [List.intercalate_cons_cons]
      rcases List.mem_cons.mp h with rfl | h
      · exact ⟨[], sep ++ sep.intercalate (next :: parts), by simp⟩
      · exact (infix_intercalate h).trans (List.suffix_append _ _).isInfix

/-- What the verdict reads of a device is in the text that it searches. -/
theorem infix_blob {dev : Device} {text : List Char} (h : text ∈ dev.texts) :
    toLower text <:+: blob dev := by
  rw [Device.texts, List.mem_cons, List.mem_flatMap] at h
  rcases h with rfl | ⟨entry, hentry, htext⟩
  · rw [blob, List.append_cons]
    exact (List.suffix_append _ _).isInfix
  · have hpair : text <:+: entry.1 ++ ' ' :: entry.2 := by
      rw [List.mem_cons, List.mem_singleton] at htext
      rcases htext with rfl | rfl
      · exact (List.prefix_append _ _).isInfix
      · exact ((List.suffix_cons _ _).trans (List.suffix_append _ _)).isInfix
    have hmem : entry.1 ++ ' ' :: entry.2 ∈ dev.fields.map fun field => field.1 ++ ' ' :: field.2 :=
      List.mem_map.mpr ⟨entry, hentry, rfl⟩
    exact (toLower_isInfix (hpair.trans (infix_intercalate hmem))).trans
      (List.prefix_append _ _).isInfix

/-- An approved device has no marker in any of its texts. -/
theorem unmarked_of_approved {dev : Device} (h : Approved dev) {text : List Char}
    (htext : text ∈ dev.texts) : ¬HasMarker text := by
  rintro ⟨m, hm, hin⟩
  have hnot := List.filter_eq_nil_iff.mp h.2.2 m hm
  exact hnot (decide_eq_true (hin.trans (infix_blob htext)))

theorem mem_sections_cons {row : Row} {rows : List Row} {dev : Device}
    (h : dev ∈ sections (shapes rows)) : dev ∈ sections (shapes (row :: rows)) := by
  rw [shapes_cons]
  cases row.content.shape with
  | none => exact h
  | some shape =>
      cases shape with
      | opens name => exact List.mem_cons_of_mem _ h
      | field key value => exact h

/-- The header of a block opens a device. -/
theorem section_of_block {rows : List Row} {block : Block} (h : block ∈ blocks rows) :
    ∃ dev ∈ sections (shapes rows), dev.name = block.name.text := by
  induction rows with
  | nil => cases h
  | cons row rows ih =>
      rw [blocks] at h
      cases hcontent : row.content with
      | header name =>
          simp only [hcontent, List.mem_cons] at h
          rcases h with rfl | h
          · refine ⟨⟨name.text, asDict (leadingFields (shapes rows))⟩, ?_, rfl⟩
            rw [shapes_cons, hcontent]
            exact List.mem_cons_self
          · obtain ⟨dev, hdev, hname⟩ := ih h
            exact ⟨dev, mem_sections_cons hdev, hname⟩
      | blank =>
          simp only [hcontent] at h
          obtain ⟨dev, hdev, hname⟩ := ih h
          exact ⟨dev, mem_sections_cons hdev, hname⟩
      | field key value =>
          simp only [hcontent] at h
          obtain ⟨dev, hdev, hname⟩ := ih h
          exact ⟨dev, mem_sections_cons hdev, hname⟩

/-! ## What the verdict reads of a segment -/

/-- A key has the last value that was read. -/
theorem get_device (s : Segment) (key : String) : s.device.get key = s.lastValue key := by
  exact (PyDict.lookup_foldl_set s.fields [] key.toList).trans Option.or_none

/-- A device is recognised by what was kept. -/
theorem isBootmux_device (s : Segment) : isBootmux s.device = true ↔ s.Recognised := by
  have hname : toLower safeProduct.toList <:+: toLower s.name → MentionsBootmux s.name :=
    fun h => List.IsInfix.trans (by decide) h
  rw [isBootmux, get_device, get_device, Segment.Recognised]
  simp only [Bool.or_eq_true, MentionsBootmux]
  cases s.lastValue "Product ID" <;> cases s.lastValue "Product" <;>
    simp only [Option.getD_none, Option.getD_some, contains, decide_eq_true_eq, Option.mem_def,
      reduceCtorEq, false_and, exists_false, Option.some.injEq, exists_eq_left', false_or,
      or_false] <;>
    tauto

/-- The markers without a space in them; each of the others has one of these in
it. -/
def plainMarkers : List String := ["ncm", "ecm", "rndis", "ethernet", "network", "eem"]

/-- Every marker contains one of the plain ones. -/
theorem exists_plainMarker {m : String} (hm : m ∈ networkClassMarkers) :
    ∃ plain ∈ plainMarkers, plain.toList <:+: m.toList := by
  revert m
  decide

/-- The plain markers are single words. -/
theorem plainMarkers_facts : ∀ plain ∈ plainMarkers,
    plain ∈ networkClassMarkers ∧ ' ' ∉ plain.toList ∧ plain.toList ≠ [] := by
  decide

theorem toLower_cons_space (text : List Char) : toLower (' ' :: text) = ' ' :: toLower text := rfl

/-- A word of the text that the verdict searches is in one of the texts. -/
theorem exists_text_of_blob {dev : Device} {w : List Char} (hspace : ' ' ∉ w) (hne : w ≠ [])
    (h : w <:+: blob dev) : ∃ text ∈ dev.texts, w <:+: toLower text := by
  rw [blob, Search.infix_append_cons hspace] at h
  rcases h with h | h
  swap
  · exact ⟨dev.name, List.mem_cons_self, h⟩
  suffices hfields : ∀ fields : List (List Char × List Char),
      w <:+: toLower ([' '].intercalate (fields.map fun entry => entry.1 ++ ' ' :: entry.2)) →
        ∃ entry ∈ fields, w <:+: toLower entry.1 ∨ w <:+: toLower entry.2 by
    obtain ⟨entry, hentry, hin⟩ := hfields dev.fields h
    rcases hin with hin | hin
    · exact ⟨entry.1, List.mem_cons_of_mem _ (List.mem_flatMap.mpr ⟨entry, hentry, by simp⟩), hin⟩
    · exact ⟨entry.2, List.mem_cons_of_mem _ (List.mem_flatMap.mpr ⟨entry, hentry, by simp⟩), hin⟩
  intro fields hin
  have hpair : ∀ entry : List Char × List Char, w <:+: toLower (entry.1 ++ ' ' :: entry.2) →
      w <:+: toLower entry.1 ∨ w <:+: toLower entry.2 := by
    intro entry hentry
    rwa [toLower_append, toLower_cons_space, Search.infix_append_cons hspace] at hentry
  induction fields with
  | nil => exact absurd (List.infix_nil.mp hin) hne
  | cons entry fields ih =>
      cases fields with
      | nil =>
          rw [List.map_singleton, List.intercalate_singleton] at hin
          exact ⟨entry, List.mem_singleton_self _, hpair entry hin⟩
      | cons next fields =>
          rw [List.map_cons, List.map_cons, List.intercalate_cons_cons, List.append_assoc,
            List.singleton_append, toLower_append, toLower_cons_space,
            Search.infix_append_cons hspace] at hin
          rcases hin with hin | hin
          · exact ⟨entry, List.mem_cons_self, hpair entry hin⟩
          · obtain ⟨other, hother, hsome⟩ := ih hin
            exact ⟨other, List.mem_cons_of_mem _ hother, hsome⟩

/-- The safe product names a keyboard, so only its markers can be against it. -/
theorem approved_iff (s : Segment) : Approved s.device ↔ s.LooksSafe := by
  have hproduct : productIsSafe s.device = true ↔
      strip ((s.lastValue "Product").getD s.name) = safeProduct.toList := by
    rw [productIsSafe, get_device, beq_iff_eq]
    rfl
  constructor
  · intro h
    exact ⟨hproduct.mp h.1, fun text htext => unmarked_of_approved h htext⟩
  · rintro ⟨hsafe, hclean⟩
    refine ⟨hproduct.mpr hsafe, ?_, ?_⟩
    · have hmem : (s.lastValue "Product").getD s.name ∈ s.device.texts := by
        cases hvalue : s.lastValue "Product" with
        | none => exact List.mem_cons_self
        | some value =>
            rw [← get_device, Device.get] at hvalue
            obtain ⟨front, back, hfields, -⟩ := List.lookup_eq_some_iff.mp hvalue
            refine List.mem_cons_of_mem _ (List.mem_flatMap.mpr ⟨("Product".toList, value), ?_, ?_⟩)
            · rw [hfields]
              exact List.mem_append_right _ List.mem_cons_self
            · simp
      have hkeyboard : "keyboard".toList <:+: toLower safeProduct.toList := by decide
      have hinfix := PyText.strip_isInfix ((s.lastValue "Product").getD s.name)
      rw [hsafe] at hinfix
      exact List.any_eq_true.mpr ⟨"keyboard", by decide, decide_eq_true
        (hkeyboard.trans ((toLower_isInfix hinfix).trans (infix_blob hmem)))⟩
    · rw [networkMarkersFound, List.filter_eq_nil_iff]
      intro m hm hcontains
      obtain ⟨plain, hplain, hin⟩ := exists_plainMarker hm
      obtain ⟨hmarker, hspace, hne⟩ := plainMarkers_facts plain hplain
      obtain ⟨text, htext, hword⟩ :=
        exists_text_of_blob hspace hne (hin.trans (of_decide_eq_true hcontains))
      exact hclean text htext ⟨plain, hmarker, hword⟩

/-- A segment whose name mentions BOOTMUX is recognised. -/
theorem recognised_of_name {rows : List Row} {block : Block} (hblock : block ∈ blocks rows)
    (h : MentionsBootmux block.name.text) : ∃ s ∈ segments rows, s.Recognised := by
  obtain ⟨dev, hdev, hname⟩ := section_of_block hblock
  rw [sections_eq []] at hdev
  obtain ⟨s, hs, rfl⟩ := List.mem_map.mp hdev
  rw [← hname] at h
  exact ⟨s, hs, .inl h⟩

/-! ## What is kept and what is lost -/

/-- A value is kept or overwritten by a later one of its key. -/
theorem value_kept_or_overwritten {fields : List (List Char × List Char)}
    {key value : List Char} (h : (key, value) ∈ fields) :
    fields.reverse.lookup key = some value ∨ value ∈ overwritten fields := by
  induction fields with
  | nil => cases h
  | cons entry fields ih =>
      obtain ⟨first, second⟩ := entry
      rw [List.reverse_cons, List.lookup_append]
      rcases List.mem_cons.mp h with heq | h
      · cases heq
        by_cases hagain : key ∈ fields.map Prod.fst
        · refine .inr ?_
          rw [overwritten_cons_of_mem hagain]
          exact List.mem_cons_self
        · have hnone : fields.reverse.lookup key = none := by
            rw [List.lookup_eq_none_iff]
            intro other hother
            rw [bne_iff_ne]
            rintro rfl
            exact hagain (List.mem_map_of_mem (List.mem_reverse.mp hother))
          exact .inl (by simp [hnone])
      · rcases ih h with hkept | hlost
        · exact .inl (by rw [hkept, Option.some_or])
        · exact .inr (mem_overwritten_cons hlost)

/-- A field is kept, or overwritten by a later one of its key. -/
theorem field_kept_or_overwritten {s : Segment} {key value : List Char}
    (h : (key, value) ∈ s.fields) :
    key ∈ s.kept ∧ (value ∈ s.kept ∨ value ∈ overwritten s.fields) := by
  have hentry : ∀ v, s.fields.reverse.lookup key = some v → (key, v) ∈ asDict s.fields := by
    intro v hv
    have hdict : (asDict s.fields).lookup key = some v := by
      exact (PyDict.lookup_foldl_set s.fields [] key).trans (by rw [hv, Option.some_or])
    obtain ⟨front, back, hfields, -⟩ := List.lookup_eq_some_iff.mp hdict
    rw [hfields]
    exact List.mem_append_right _ List.mem_cons_self
  have hkept : ∀ v, s.fields.reverse.lookup key = some v → key ∈ s.kept ∧ v ∈ s.kept := by
    intro v hv
    exact ⟨List.mem_cons_of_mem _ (List.mem_flatMap.mpr ⟨_, hentry v hv, by simp⟩),
      List.mem_cons_of_mem _ (List.mem_flatMap.mpr ⟨_, hentry v hv, by simp⟩)⟩
  refine ⟨?_, (value_kept_or_overwritten h).imp_left fun hv => (hkept value hv).2⟩
  have hsome : (s.fields.reverse.lookup key).isSome = true := by
    rw [List.lookup_isSome_iff]
    exact ⟨(key, value), List.mem_reverse.mpr h, by simp⟩
  obtain ⟨v, hv⟩ := Option.isSome_iff_exists.mp hsome
  exact (hkept v hv).1

theorem mem_fields_of_stays {own : List Row} {row : Row} {key value : List Char}
    (hstays : ∀ row ∈ own, row.stays = true) (hrow : row ∈ own)
    (hshape : row.content.shape = some (.field key value)) :
    (key, value) ∈ leadingFields (shapes own) := by
  induction own with
  | nil => cases hrow
  | cons first own ih =>
      rw [List.forall_mem_cons] at hstays
      rw [shapes_cons]
      rcases List.mem_cons.mp hrow with rfl | hrow
      · rw [hshape]
        exact List.mem_cons_self
      · have hrest := ih hstays.2 hrow
        cases hfirst : first.content.shape with
        | none => exact hrest
        | some shape =>
            cases shape with
            | opens name => simp [Row.stays, hfirst] at hstays
            | field k v => exact List.mem_cons_of_mem _ hrest

/-- A text of the rows is kept by a segment or lost. -/
theorem kept_or_lost {rows : List Row} {s : Segment} (hs : s ∈ segments rows) {row : Row}
    (hrow : row ∈ rows) {text : List Char} (htext : text ∈ row.content.texts) :
    text ∈ s.kept ∨ text ∈ s.lost := by
  obtain ⟨hrows, hhead, hstays⟩ := mem_segmentsFrom hs
  rw [List.nil_append] at hrows
  rw [hrows, List.mem_append, List.mem_cons, List.mem_append] at hrow
  have houter : row ∈ s.front ++ s.back → text ∈ s.lost := fun hmem =>
    List.mem_append_left _ (List.mem_append_left _ (List.mem_flatMap.mpr ⟨row, hmem, htext⟩))
  rcases hrow with hrow | rfl | hrow | hrow
  · exact .inr (houter (List.mem_append_left _ hrow))
  · cases hcontent : s.head.content with
    | blank =>
        rw [hcontent] at hhead
        cases hhead
    | header name =>
        rw [hcontent] at hhead htext
        rw [List.mem_singleton.mp htext, Segment.kept,
          show s.name = name.text from (Shape.opens.inj (Option.some.inj hhead)).symm]
        exact .inl List.mem_cons_self
    | field key value =>
        rw [hcontent] at htext
        refine .inr (List.mem_append_left _ (List.mem_append_right _ ?_))
        rw [hcontent]
        exact htext
  · cases hcontent : row.content with
    | blank =>
        rw [hcontent] at htext
        cases htext
    | header name =>
        have := hstays row hrow
        simp [Row.stays, hcontent, Content.shape] at this
    | field key value =>
        have hshape : row.content.shape = some (.field key.text value.text) := by
          have hstay := hstays row hrow
          rw [hcontent, Content.shape]
          rw [Row.stays, hcontent, Content.shape] at hstay
          by_cases hempty : value.text = []
          · simp [hempty] at hstay
          · by_cases hcolon : value.text.getLast? = some ':'
            · simp [hempty, hcolon] at hstay
            · rw [if_neg hempty, if_neg hcolon]
        obtain ⟨hkey, hvalue⟩ := field_kept_or_overwritten
          (mem_fields_of_stays hstays hrow hshape : (_, _) ∈ s.fields)
        rw [hcontent, Content.texts, List.mem_cons, List.mem_singleton] at htext
        rcases htext with rfl | rfl
        · exact .inl hkey
        · exact hvalue.imp_right fun hlost => List.mem_append_right _ hlost
  · exact .inr (houter (List.mem_append_right _ hrow))

/-- The texts of a block are texts of the rows. -/
theorem row_of_block {rows : List Row} {block : Block} (h : block ∈ blocks rows)
    {text : List Char} (htext : text ∈ block.texts) : ∃ row ∈ rows, text ∈ row.content.texts := by
  induction rows with
  | nil => cases h
  | cons row rows ih =>
      have hrest : block ∈ blocks rows → ∃ row' ∈ row :: rows, text ∈ row'.content.texts := by
        intro hblock
        obtain ⟨row', hrow', htext'⟩ := ih hblock
        exact ⟨row', List.mem_cons_of_mem _ hrow', htext'⟩
      rw [blocks] at h
      cases hcontent : row.content with
      | blank => exact hrest (by simpa [hcontent] using h)
      | field key value => exact hrest (by simpa [hcontent] using h)
      | header name =>
          simp only [hcontent, List.mem_cons] at h
          rcases h with rfl | h
          swap
          · exact hrest h
          rcases List.mem_cons.mp htext with rfl | htext
          · exact ⟨row, List.mem_cons_self, by simp [hcontent, Content.texts]⟩
          · obtain ⟨inner, hinner, htext⟩ := List.mem_flatMap.mp htext
            exact ⟨inner, List.mem_cons_of_mem _ ((List.takeWhile_sublist _).subset hinner), htext⟩

/-! ## Soundness -/

/-- The verdict for a text is right about its blocks. -/
def Sound (rows : List Row) : Prop :=
  let verdict := (classifyBootmux (parseUsbDevices (profilerText rows))).verdict
  (verdict = .safeHidOnly → ∀ block ∈ blocks rows, block.IsBootmux →
      ∀ text ∈ block.texts, ¬HasMarker text) ∧
    (verdict = .noBootmuxDevice → ∀ block ∈ blocks rows, ¬block.IsBootmux)

/-- The device that is judged is the first one that is recognised. -/
theorem find?_isBootmux (rows : List Row) :
    (parseUsbDevices (profilerText rows)).find? isBootmux = (judged rows).map Segment.device := by
  have hsame : isBootmux ∘ Segment.device = fun s => decide s.Recognised := by
    funext s
    rw [Bool.eq_iff_iff, decide_eq_true_iff]
    exact isBootmux_device s
  rw [parse_profilerText, sections_eq [], List.find?_map, hsame]
  rfl

/-- **When the oracle is sound.** A block that mentions BOOTMUX by its product
alone needs a segment that is recognised; and if the first of these looks
safe, nothing with a marker may be lost of the BOOTMUX blocks. -/
theorem oracle_sound_iff (rows : List Row) :
    Sound rows ↔
      (∀ block ∈ blocks rows, block.IsBootmux → ¬MentionsBootmux block.name.text →
        ∃ s ∈ segments rows, s.Recognised) ∧
      ∀ s ∈ judged rows, s.LooksSafe → ∀ block ∈ blocks rows, block.IsBootmux →
        ∀ text ∈ block.texts, text ∈ s.lost → ¬HasMarker text := by
  have hverdict := classify_verdict (parseUsbDevices (profilerText rows))
  rw [find?_isBootmux] at hverdict
  unfold Sound
  dsimp only
  rcases hverdict with ⟨hno, hnone⟩ | ⟨dev, hsome, hne, hsafe⟩
  · have hjudged : judged rows = none := Option.map_eq_none_iff.mp hnone
    have hunknown : ¬∃ s ∈ segments rows, s.Recognised := by
      rintro ⟨s, hs, hrecognised⟩
      exact List.find?_eq_none.mp hjudged s hs (decide_eq_true hrecognised)
    rw [hno, hjudged]
    constructor
    · rintro ⟨-, hall⟩
      exact ⟨fun block hblock hmux => absurd hmux (hall rfl block hblock),
        fun s hs => absurd hs (Option.not_mem_none s)⟩
    · rintro ⟨hproduct, -⟩
      refine ⟨fun h => absurd h (by decide), fun _ block hblock hmux => hunknown ?_⟩
      by_cases hname : MentionsBootmux block.name.text
      · exact recognised_of_name hblock hname
      · exact hproduct block hblock hmux hname
  · obtain ⟨s, hjudged, rfl⟩ := Option.map_eq_some_iff.mp hsome
    have hs : s ∈ segments rows := List.mem_of_find?_eq_some hjudged
    have hrecognised : s.Recognised := by simpa using List.find?_some hjudged
    rw [hjudged, hsafe, approved_iff]
    constructor
    · rintro ⟨hclean, -⟩
      refine ⟨fun _ _ _ _ => ⟨s, hs, hrecognised⟩, ?_⟩
      rintro _ ⟨⟩ hlooks block hblock hmux text htext -
      exact hclean hlooks block hblock hmux text htext
    · rintro ⟨-, hlost⟩
      refine ⟨fun hlooks block hblock hmux text htext => ?_, fun h => absurd h hne⟩
      obtain ⟨row, hrow, htext'⟩ := row_of_block hblock htext
      rcases kept_or_lost hs hrow htext' with hkept | hunread
      · exact hlooks.2 text hkept
      · exact hlost s rfl hlooks block hblock hmux text htext hunread

/-! ## A keyboard with a network in it -/

def trimmed (text : String) (head : ∀ c ∈ text.toList.head?, isSpace c = false)
    (last : ∀ c ∈ text.toList.getLast?, isSpace c = false)
    (noBreak : ∀ c ∈ text.toList, isLineBreak c = false) : Trimmed :=
  ⟨text.toList, head, last, noBreak⟩

theorem noColon_of_notMem {text : List Char} (h : ':' ∉ text) (u v : List Char)
    (huv : text = u ++ ':' :: v) : v.head?.any isSpace = false := by
  rw [huv] at h
  exact absurd (by simp) h

def keyboardName : Name where
  toTrimmed := trimmed "BOOTMUX Keyboard Safe" (by decide) (by decide) (by decide)
  ne_nil := by decide

def interfaceKey : Key where
  toTrimmed := trimmed "Interface" (by decide) (by decide) (by decide)
  ne_nil := by decide
  noColon := noColon_of_notMem (by decide)

def networkName : Name where
  toTrimmed := trimmed "NCM Network" (by decide) (by decide) (by decide)
  ne_nil := by decide

def networkKeyboard : List Row :=
  [⟨4, .header keyboardName⟩, ⟨0, .blank⟩,
    ⟨6, .field interfaceKey (trimmed "HID" (by decide) (by decide) (by decide))⟩,
    ⟨6, .header networkName⟩]

/-- A device with its network in a block of its own is overlooked. -/
theorem nested_network_overlooked : ¬∀ rows, Sound rows := by
  intro hall
  have hsafe : (classifyBootmux (parseUsbDevices (profilerText networkKeyboard))).verdict =
      .safeHidOnly := by
    decide +kernel
  have hmux : MentionsBootmux keyboardName.text := by
    unfold MentionsBootmux
    decide +kernel
  have hmarker : "network".toList <:+: toLower networkName.text := by decide +kernel
  refine (hall networkKeyboard).1 hsafe ⟨keyboardName, networkKeyboard.drop 1⟩ ?_ (.inl hmux)
    networkName.text ?_ ⟨"network", by decide, hmarker⟩
  · exact List.mem_cons_self
  · exact List.mem_cons_of_mem _ (List.mem_flatMap.mpr
      ⟨⟨6, .header networkName⟩, by simp [networkKeyboard], List.mem_singleton_self _⟩)

end Bootmux.UsbIdentity
