/-
Bootmux.UsbIdentity.ProfilerTheorems — what the parser of the USB identity
oracle makes of a text of `system_profiler`.

A text is a list of rows, each with its indentation; the block of a header is
made of the rows below it that are indented further. The parser sees
something else: a device for every line that ends in a colon, with the fields
up to the next such line (`parse_profilerText`). These are the segments of the
text (`sections_eq`).

The two patterns are characterised first: which line is a header and which
one a field, from the first colon with a blank after it. The scan of a line
is then a step on one device and a list of those before it, and the whole
text a fold of it. Rows hold no line breaks and their texts have no blanks
at the ends; any such list of rows is a text of the profiler here, in
whatever order.
-/
import Bootmux.UsbIdentity.Oracle

namespace Bootmux.UsbIdentity

open Bootmux.Lib
open Bootmux.Lib.PyText (isLineBreak isSpace splitlines strip strip_eq_self toLower unlines)

/-! ## Texts of the profiler -/

/-- A text on one line, without white space at its ends. -/
structure Trimmed where
  text : List Char
  head : ∀ c ∈ text.head?, isSpace c = false
  last : ∀ c ∈ text.getLast?, isSpace c = false
  noBreak : ∀ c ∈ text, isLineBreak c = false

structure Name extends Trimmed where
  ne_nil : text ≠ []

/-- The text before the first colon that a space follows. -/
structure Key extends Name where
  noColon : ∀ u v, text = u ++ ':' :: v → v.head?.any isSpace = false

inductive Content where
  | blank
  | header (name : Name)
  | field (key : Key) (value : Trimmed)

structure Row where
  indent : Nat
  content : Content

def Content.text : Content → List Char
  | .blank => []
  | .header name => name.text ++ [':']
  | .field key value => key.text ++ ':' :: ' ' :: value.text

def Row.text (row : Row) : List Char := List.replicate row.indent ' ' ++ row.content.text

def profilerText (rows : List Row) : List Char := unlines (rows.map Row.text)

/-! ## Blocks -/

/-- A header with the rows that are nested in it. -/
structure Block where
  name : Name
  rows : List Row

/-- Whether a row is in the block of a header before it. -/
def Row.within (indent : Nat) (row : Row) : Bool :=
  match row.content with
  | .blank => true
  | _ => indent < row.indent

def blocks : List Row → List Block
  | [] => []
  | row :: rows =>
      match row.content with
      | .header name => ⟨name, rows.takeWhile (Row.within row.indent)⟩ :: blocks rows
      | _ => blocks rows

/-- The fields that are in no sub-block; `sub` is the indentation of the
sub-block that the rows before are in. -/
def ownFields (sub : Option Nat) : List Row → List (Key × Trimmed)
  | [] => []
  | row :: rows =>
      let sub := sub.filter fun indent => row.within indent
      match row.content with
      | .blank => ownFields sub rows
      | .header _ => ownFields (sub.or (some row.indent)) rows
      | .field key value =>
          if sub.isSome then ownFields sub rows else (key, value) :: ownFields sub rows

def Content.texts : Content → List (List Char)
  | .blank => []
  | .header name => [name.text]
  | .field key value => [key.text, value.text]

/-- The texts of a block and of its sub-blocks. -/
def Block.texts (block : Block) : List (List Char) :=
  block.name.text :: block.rows.flatMap fun row => row.content.texts

def MentionsBootmux (text : List Char) : Prop := "bootmux".toList <:+: toLower text

def HasMarker (text : List Char) : Prop := ∃ m ∈ networkClassMarkers, m.toList <:+: toLower text

/-- Its name or its product mentions BOOTMUX. -/
def Block.IsBootmux (block : Block) : Prop :=
  MentionsBootmux block.name.text ∨
    ∃ entry ∈ ownFields none block.rows,
      (entry.1.text = "Product".toList ∨ entry.1.text = "Product ID".toList) ∧
        MentionsBootmux entry.2.text

/-! ## What the parser sees -/

inductive Shape where
  | opens (name : List Char)
  | field (key value : List Char)
  deriving DecidableEq, Repr

/-- What a line is taken for: a field whose value is empty, or ends in a
colon, opens a device. -/
def Content.shape : Content → Option Shape
  | .blank => none
  | .header name => some (.opens name.text)
  | .field key value =>
      if value.text = [] then some (.opens key.text)
      else if value.text.getLast? = some ':' then
        some (.opens (strip (key.text ++ ':' :: ' ' :: value.text.dropLast)))
      else some (.field key.text value.text)

def shapes (rows : List Row) : List Shape := rows.filterMap fun row => row.content.shape

/-- The fields before the next device. -/
def leadingFields : List Shape → List (List Char × List Char)
  | .field key value :: rest => (key, value) :: leadingFields rest
  | _ => []

/-- A dictionary of fields: the last value of a key counts. -/
def asDict (fields : List (List Char × List Char)) : List (List Char × List Char) :=
  fields.foldl (fun d entry => PyDict.set d entry.1 entry.2) []

def sections : List Shape → List Device
  | [] => []
  | .opens name :: rest => ⟨name, asDict (leadingFields rest)⟩ :: sections rest
  | .field _ _ :: rest => sections rest

/-! ### Patterns -/

/-- A line that ends in its only colon is a header. -/
theorem headerFrom_concat (before name : List Char) (hne : before ++ name ≠ []) :
    headerFrom before (name ++ [':']) = some (before.reverse ++ name) := by
  induction name generalizing before with
  | nil =>
      rw [List.append_nil] at hne ⊢
      rw [List.nil_append, headerFrom, if_pos ⟨hne, rfl, rfl⟩]
  | cons c name ih =>
      have hcolon : (name ++ [':']).all isSpace = false := by
        rw [List.all_append, Bool.and_eq_false_iff]
        exact .inr (by decide)
      rw [List.cons_append, headerFrom, if_neg (by simp [hcolon]), ih _ (by simp)]
      simp

/-- A line that ends otherwise is none. -/
theorem headerFrom_none {text : List Char} {last : Char} (hlast : text.getLast? = some last)
    (hcolon : last ≠ ':') (hspace : isSpace last = false) (before : List Char) :
    headerFrom before text = none := by
  induction text generalizing before with
  | nil => cases hlast
  | cons c text ih =>
      cases text with
      | nil =>
          obtain rfl : c = last := by simpa using hlast
          rw [headerFrom, if_neg (by simp [hcolon])]
          rfl
      | cons d text =>
          rw [List.getLast?_cons_cons] at hlast
          have hall : (d :: text).all isSpace = false := by
            rw [List.all_eq_false]
            exact ⟨last, List.mem_of_getLast? hlast, by simp [hspace]⟩
          rw [headerFrom, if_neg (by simp [hall]), ih hlast]

/-- A line is cut behind the first colon with a blank or its end after it. -/
theorem fieldFrom_key (before key value : List Char) (hne : before ++ key ≠ [])
    (hkey : ∀ u v, key = u ++ ':' :: v → v.head?.any isSpace = false)
    (hvalue : ∀ c ∈ value.head?, isSpace c = false) :
    fieldFrom before (key ++ ':' :: ' ' :: value) = some (before.reverse ++ key, value) := by
  induction key generalizing before with
  | nil =>
      rw [List.append_nil] at hne ⊢
      have hdrop : (' ' :: value).dropWhile isSpace = value := by
        rw [List.dropWhile_cons_of_pos (by decide), PyText.dropWhile_isSpace hvalue]
      rw [List.nil_append, fieldFrom, if_pos ⟨hne, rfl, rfl⟩, hdrop]
  | cons c key ih =>
      have hnot : ¬(before ≠ [] ∧ c = ':' ∧
          (key ++ ':' :: ' ' :: value).head?.any isSpace = true) := by
        rintro ⟨-, rfl, hspace⟩
        have hhead := hkey [] key rfl
        cases key with
        | nil => exact absurd (show isSpace ':' = true from hspace) (by decide)
        | cons d key =>
            rw [List.cons_append, List.head?_cons] at hspace
            rw [List.head?_cons, hspace] at hhead
            cases hhead
      rw [List.cons_append, fieldFrom, if_neg hnot,
        ih _ (by simp) fun u v huv => hkey (c :: u) v (by rw [huv]; rfl)]
      simp

/-! ### Lines -/

/-- A trimmed text has nothing to strip. -/
theorem Trimmed.strip (trimmed : Trimmed) : strip trimmed.text = trimmed.text :=
  strip_eq_self trimmed.head trimmed.last

/-- The indentation is stripped. -/
theorem strip_spaces (n : Nat) (text : List Char) :
    strip (List.replicate n ' ' ++ text) = strip text := by
  induction n with
  | zero => rfl
  | succ n ih =>
      rw [← ih, List.replicate_succ, List.cons_append, PyText.strip, PyText.strip, PyText.stripOf,
        PyText.stripOf, List.dropWhile_cons_of_pos (by decide)]

/-- The space at the end of a field without a value. -/
theorem strip_space_end (text : List Char) (hne : text ≠ [])
    (hhead : ∀ c ∈ text.head?, isSpace c = false) (hlast : ∀ c ∈ text.getLast?, isSpace c = false) :
    strip (text ++ [' ']) = text := by
  have hfront : (text ++ [' ']).dropWhile isSpace = text ++ [' '] :=
    PyText.dropWhile_isSpace (by rwa [List.head?_append_of_ne_nil _ hne])
  have hback : text.reverse.dropWhile isSpace = text.reverse :=
    PyText.dropWhile_isSpace (by rwa [List.head?_reverse])
  rw [PyText.strip, PyText.stripOf, hfront, List.reverse_append, List.reverse_singleton,
    List.singleton_append, List.dropWhile_cons_of_pos (by decide), hback, List.reverse_reverse]

/-- What a line does to the devices so far. -/
def Scan.read (scan : Scan) : Option Shape → Scan
  | none => scan
  | some (.opens name) => ⟨scan.devices ++ scan.current.toList, some ⟨name, []⟩⟩
  | some (.field key value) =>
      { scan with current := scan.current.map fun dev =>
          { dev with fields := PyDict.set dev.fields key value } }

/-- A header opens a device. -/
theorem scanLine_opens (scan : Scan) {raw name : List Char} (hraw : strip raw = name ++ [':'])
    (hne : name ≠ []) : scanLine scan raw = scan.read (some (.opens (strip name))) := by
  have hheader : headerFrom [] (name ++ [':']) = some name :=
    headerFrom_concat [] name (by simpa using hne)
  rw [scanLine, hraw, hheader]
  simp [Scan.read]

/-- A field belongs to the device that is open. -/
theorem scanLine_field (scan : Scan) {raw : List Char} (key : Key) (value : Trimmed)
    (hraw : strip raw = key.text ++ ':' :: ' ' :: value.text) {last : Char}
    (hlast : value.text.getLast? = some last) (hcolon : last ≠ ':') :
    scanLine scan raw = scan.read (some (.field key.text value.text)) := by
  have hvalue : value.text ≠ [] := by
    rintro h
    rw [h] at hlast
    cases hlast
  have hend : (key.text ++ ':' :: ' ' :: value.text).getLast? = some last := by
    rw [List.append_cons, List.append_cons, List.getLast?_append_of_ne_nil _ hvalue, hlast]
  have hheader := headerFrom_none hend hcolon (value.last last hlast) []
  have hfield := fieldFrom_key [] key.text value.text (by simpa using key.ne_nil) key.noColon
    value.head
  rw [scanLine, hraw, hheader, hfield]
  cases scan with
  | mk devices current =>
      cases current with
      | none => simp [Scan.read]
      | some dev => simp [Scan.read, Trimmed.strip]

theorem Key.strip_field (key : Key) (value : Trimmed) (hvalue : value.text ≠ []) :
    strip (key.text ++ ':' :: ' ' :: value.text) = key.text ++ ':' :: ' ' :: value.text := by
  refine strip_eq_self ?_ ?_
  · rw [List.head?_append_of_ne_nil _ key.ne_nil]
    exact key.head
  · rw [List.append_cons, List.append_cons, List.getLast?_append_of_ne_nil _ hvalue]
    exact value.last

/-- **How a row is read.** -/
theorem scanLine_row (scan : Scan) (row : Row) :
    scanLine scan row.text = scan.read row.content.shape := by
  have hraw : strip row.text = strip row.content.text := strip_spaces row.indent row.content.text
  cases hcontent : row.content with
  | blank =>
      rw [hcontent] at hraw
      have hnil : strip row.text = [] := hraw
      rw [scanLine, hnil]
      rfl
  | header name =>
      rw [hcontent, Content.text] at hraw
      have hline : strip (name.text ++ [':']) = name.text ++ [':'] := by
        refine strip_eq_self ?_ ?_
        · rw [List.head?_append_of_ne_nil _ name.ne_nil]
          exact name.head
        · rw [List.getLast?_concat]
          rintro _ ⟨⟩
          decide
      rw [scanLine_opens scan (hraw.trans hline) name.ne_nil, name.strip]
      rfl
  | field key value =>
      rw [hcontent, Content.text] at hraw
      rw [Content.shape]
      split
      · next hempty =>
          have hline : strip (key.text ++ ':' :: ' ' :: value.text) = key.text ++ [':'] := by
            rw [hempty, List.append_cons]
            refine strip_space_end _ (by simp) ?_ ?_
            · rw [List.head?_append_of_ne_nil _ key.ne_nil]
              exact key.head
            · rw [List.getLast?_concat]
              rintro _ ⟨⟩
              decide
          rw [scanLine_opens scan (hraw.trans hline) key.ne_nil, key.strip]
      · next hvalue =>
          rw [key.strip_field value hvalue] at hraw
          split
          · next hcolon =>
              have hline : key.text ++ ':' :: ' ' :: value.text =
                  (key.text ++ ':' :: ' ' :: value.text.dropLast) ++ [':'] := by
                obtain ⟨init, last, hinit⟩ := (List.eq_nil_or_concat value.text).resolve_left hvalue
                rw [hinit, List.concat_eq_append, List.getLast?_concat] at hcolon
                rw [hinit, List.concat_eq_append, Option.some.inj hcolon, List.dropLast_concat]
                simp
              rw [scanLine_opens scan (hraw.trans hline) (by simp)]
          · next hcolon =>
              obtain ⟨last, hlast⟩ : ∃ last, value.text.getLast? = some last :=
                Option.ne_none_iff_exists'.mp (by simpa using hvalue)
              refine scanLine_field scan key value hraw hlast ?_
              rintro rfl
              exact hcolon hlast

/-- A row is one line. -/
theorem Row.noBreak (row : Row) : ∀ c ∈ row.text, isLineBreak c = false := by
  have hspace : isLineBreak ' ' = false ∧ isLineBreak ':' = false := by decide
  intro c hc
  rcases List.mem_append.mp hc with hc | hc
  · rw [List.eq_of_mem_replicate hc, hspace.1]
  · cases hcontent : row.content with
    | blank =>
        rw [hcontent] at hc
        cases hc
    | header name =>
        rw [hcontent, Content.text, List.mem_append, List.mem_singleton] at hc
        rcases hc with hc | rfl
        · exact name.noBreak c hc
        · exact hspace.2
    | field key value =>
        rw [hcontent, Content.text, List.mem_append, List.mem_cons, List.mem_cons] at hc
        rcases hc with hc | rfl | rfl | hc
        · exact key.noBreak c hc
        · exact hspace.2
        · exact hspace.1
        · exact value.noBreak c hc

/-! ### Devices -/

/-- The devices of the rest of the text, where one may be open. -/
def devicesFrom (current : Option Device) (rest : List Shape) : List Device :=
  (current.map fun dev => { dev with
    fields := (leadingFields rest).foldl (fun d entry => PyDict.set d entry.1 entry.2) dev.fields
    }).toList ++ sections rest

/-- One more shape. -/
theorem devicesFrom_read (scan : Scan) (shape : Option Shape) (rest : List Shape) :
    (scan.read shape).devices ++ devicesFrom (scan.read shape).current rest =
      scan.devices ++ devicesFrom scan.current (shape.toList ++ rest) := by
  obtain ⟨devices, current⟩ := scan
  cases shape with
  | none => rfl
  | some shape =>
      cases shape with
      | opens name =>
          cases current <;> simp [Scan.read, devicesFrom, leadingFields, sections, asDict]
      | field key value => cases current <;> simp [Scan.read, devicesFrom, leadingFields, sections]

theorem shapes_cons (row : Row) (rows : List Row) :
    shapes (row :: rows) = row.content.shape.toList ++ shapes rows := by
  rw [shapes, List.filterMap_cons]
  cases row.content.shape <;> rfl

/-- The scan of the lines, as the shapes they have. -/
theorem foldl_scanLine (rows : List Row) (scan : Scan) :
    ((rows.map Row.text).foldl scanLine scan).devices ++
        ((rows.map Row.text).foldl scanLine scan).current.toList =
      scan.devices ++ devicesFrom scan.current (shapes rows) := by
  induction rows generalizing scan with
  | nil =>
      cases hcurrent : scan.current <;>
        simp [shapes, devicesFrom, leadingFields, sections, hcurrent]
  | cons row rows ih =>
      rw [List.map_cons, List.foldl_cons, scanLine_row, ih, devicesFrom_read, shapes_cons]

/-- **What the parser makes of a text.** -/
theorem parse_profilerText (rows : List Row) :
    parseUsbDevices (profilerText rows) = sections (shapes rows) := by
  have hlines : splitlines (profilerText rows) = rows.map Row.text := by
    refine PyText.splitlines_unlines ?_
    rw [List.forall_mem_map]
    exact fun row _ => row.noBreak
  rw [parseUsbDevices, hlines, foldl_scanLine]
  rfl

/-! ## Segments -/

/-- A row whose line does not end in a colon. -/
def Row.stays (row : Row) : Bool :=
  match row.content.shape with
  | some (.opens _) => false
  | _ => true

/-- A line that ends in a colon, with the rows before it, the rows up to the
next such line, and the rows from there on. -/
structure Segment where
  front : List Row
  head : Row
  name : List Char
  own : List Row
  back : List Row

/-- The segments of a text whose first rows are `front`. -/
def segmentsFrom (front : List Row) : List Row → List Segment
  | [] => []
  | row :: rows =>
      let rest := segmentsFrom (front ++ [row]) rows
      match row.content.shape with
      | some (.opens name) =>
          ⟨front, row, name, rows.takeWhile Row.stays, rows.dropWhile Row.stays⟩ :: rest
      | _ => rest

def segments (rows : List Row) : List Segment := segmentsFrom [] rows

namespace Segment

variable (s : Segment)

def fields : List (List Char × List Char) := leadingFields (shapes s.own)

/-- The device that the parser makes of it. -/
def device : Device := ⟨s.name, asDict s.fields⟩

/-- The last value of a key. -/
def lastValue (key : String) : Option (List Char) := s.fields.reverse.lookup key.toList

/-- The name, the keys and the last value of each. -/
def kept : List (List Char) := s.name :: (asDict s.fields).flatMap fun entry => [entry.1, entry.2]

/-- BOOTMUX is in the name or in the last `Product ID`, or the last `Product`
is the safe one. -/
def Recognised : Prop :=
  MentionsBootmux s.name ∨ (∃ id ∈ s.lastValue "Product ID", MentionsBootmux id) ∨
    ∃ product ∈ s.lastValue "Product", toLower safeProduct.toList <:+: toLower product

/-- The product is the safe one, and nothing that is kept has a marker. -/
def LooksSafe : Prop :=
  strip ((s.lastValue "Product").getD s.name) = safeProduct.toList ∧
    ∀ text ∈ s.kept, ¬HasMarker text

end Segment

/-- The values of keys that come again. -/
def overwritten : List (List Char × List Char) → List (List Char)
  | [] => []
  | (key, value) :: fields =>
      if key ∈ fields.map Prod.fst then value :: overwritten fields else overwritten fields

theorem overwritten_cons_of_mem {key value : List Char} {fields : List (List Char × List Char)}
    (h : key ∈ fields.map Prod.fst) :
    overwritten ((key, value) :: fields) = value :: overwritten fields :=
  if_pos h

theorem overwritten_cons_of_not_mem {key value : List Char}
    {fields : List (List Char × List Char)} (h : key ∉ fields.map Prod.fst) :
    overwritten ((key, value) :: fields) = overwritten fields :=
  if_neg h

/-- What is overwritten stays so, whatever comes before it. -/
theorem mem_overwritten_cons {key value text : List Char}
    {fields : List (List Char × List Char)} (h : text ∈ overwritten fields) :
    text ∈ overwritten ((key, value) :: fields) := by
  by_cases hagain : key ∈ fields.map Prod.fst
  · rw [overwritten_cons_of_mem hagain]
    exact List.mem_cons_of_mem _ h
  · rw [overwritten_cons_of_not_mem hagain]
    exact h

/-- The key and the value of a field whose line ends in a colon. -/
def Content.fieldTexts : Content → List (List Char)
  | .field key value => [key.text, value.text]
  | _ => []

/-- What is lost of a text of which only this segment is kept: what stands
before it and after it (other blocks, its own sub-blocks, and all that
follows a value that ends in a colon), the field that it was opened by, and
the values that were overwritten. -/
def Segment.lost (s : Segment) : List (List Char) :=
  (s.front ++ s.back).flatMap (·.content.texts) ++ s.head.content.fieldTexts ++
    overwritten s.fields

instance (text : List Char) : Decidable (MentionsBootmux text) :=
  inferInstanceAs (Decidable (_ <:+: _))

instance (s : Segment) : Decidable s.Recognised := inferInstanceAs (Decidable (_ ∨ _ ∨ _))

/-- The segment that the verdict is about. -/
def judged (rows : List Row) : Option Segment :=
  (segments rows).find? fun s => decide s.Recognised

theorem leadingFields_takeWhile (rows : List Row) :
    leadingFields (shapes (rows.takeWhile Row.stays)) = leadingFields (shapes rows) := by
  induction rows with
  | nil => rfl
  | cons row rows ih =>
      rw [List.takeWhile_cons]
      cases hshape : row.content.shape with
      | none =>
          rw [show row.stays = true by simp [Row.stays, hshape], if_pos rfl, shapes_cons,
            shapes_cons, hshape]
          exact ih
      | some shape =>
          cases shape with
          | opens name =>
              rw [show row.stays = false by simp [Row.stays, hshape], if_neg Bool.false_ne_true,
                shapes_cons, hshape]
              rfl
          | field key value =>
              rw [show row.stays = true by simp [Row.stays, hshape], if_pos rfl, shapes_cons,
                shapes_cons, hshape]
              exact congrArg ((key, value) :: ·) ih

/-- The devices are the segments. -/
theorem sections_eq (front rows : List Row) :
    sections (shapes rows) = (segmentsFrom front rows).map Segment.device := by
  induction rows generalizing front with
  | nil => rfl
  | cons row rows ih =>
      rw [shapes_cons, segmentsFrom]
      cases hshape : row.content.shape with
      | none => exact ih _
      | some shape =>
          cases shape with
          | opens name =>
              simp only [Option.toList_some, List.singleton_append, sections, List.map_cons,
                Segment.device, Segment.fields, leadingFields_takeWhile, ih (front ++ [row])]
          | field key value => exact ih _

/-- A segment is a part of the text. -/
theorem mem_segmentsFrom {front rows : List Row} {s : Segment} (h : s ∈ segmentsFrom front rows) :
    front ++ rows = s.front ++ s.head :: (s.own ++ s.back) ∧
      s.head.content.shape = some (.opens s.name) ∧ ∀ row ∈ s.own, row.stays = true := by
  induction rows generalizing front with
  | nil => cases h
  | cons row rows ih =>
      rw [segmentsFrom] at h
      have hrest : s ∈ segmentsFrom (front ++ [row]) rows →
          front ++ row :: rows = s.front ++ s.head :: (s.own ++ s.back) ∧
            s.head.content.shape = some (.opens s.name) ∧ ∀ row ∈ s.own, row.stays = true := by
        intro hmem
        rw [List.append_cons]
        exact ih hmem
      cases hshape : row.content.shape with
      | none => exact hrest (by simpa [hshape] using h)
      | some shape =>
          cases shape with
          | field key value => exact hrest (by simpa [hshape] using h)
          | opens name =>
              simp only [hshape, List.mem_cons] at h
              rcases h with rfl | h
              · exact ⟨by rw [List.takeWhile_append_dropWhile], hshape,
                  List.all_eq_true.mp List.all_takeWhile⟩
              · exact hrest h

end Bootmux.UsbIdentity
