/-
Bootmux.Lib.JsonValue — JSON texts read as values, and flat objects
printed and read back.

`parse` is a recursive descent over the grammar of JSON; the fuel bounds
the nesting and the number of members, and the length of a text is always
enough. Numbers keep their text. A string is read by `unescape` after its
closing quote is found.

`parse_objectText` is the one rule a printer of flat objects needs: its
members come back if each literal `Reads` as its value. `reads_string`
and `reads_number` give that for the literals of both printers here, the
one that escapes as Go does (`escape`) and the one that escapes as
Foundation does (`escapeSlash`).

`Reads` says of a text and a value that every parser call with enough fuel
reads the one as the other and leaves what follows. It is proved of strings,
numbers and objects, each from its parts, and the objects that are printed
here have single values as members.
-/
import Bootmux.Lib.Json

namespace Bootmux.Lib.Json

open Bootmux.Lib.Utf8

inductive Value where
  | null
  | bool (b : Bool)
  | number (text : List UInt8)
  | string (s : List UInt8)
  | array (elements : List Value)
  | object (members : List (List UInt8 × Value))

/-! ## Reading -/

def isSpace (b : UInt8) : Bool := b == 0x20 || b == 0x09 || b == 0x0A || b == 0x0D

def skipSpace (input : List UInt8) : List UInt8 := input.dropWhile isSpace

/-- The input after the byte `b`, space before it skipped. -/
def expect (b : UInt8) (input : List UInt8) : Option (List UInt8) :=
  match skipSpace input with
  | [] => none
  | c :: rest => if c = b then some rest else none

def stripWord (word input : List UInt8) : Option (List UInt8) :=
  if word.isPrefixOf input then some (input.drop word.length) else none

/-- The body of a literal up to its closing quote, and what follows. -/
def splitLiteral : List UInt8 → Option (List UInt8 × List UInt8)
  | [] => none
  | b :: rest =>
      if b = 0x22 then some ([], rest)
      else if b = 0x5C then
        match rest with
        | [] => none
        | e :: rest => (splitLiteral rest).map fun p => (b :: e :: p.1, p.2)
      else (splitLiteral rest).map fun p => (b :: p.1, p.2)

/-- The string of a literal whose opening quote was read. -/
def readString (input : List UInt8) : Option (List UInt8 × List UInt8) :=
  (splitLiteral input).bind fun p => (unescape p.1).map fun s => (s, p.2)

def isDigit (b : UInt8) : Bool := 0x30 ≤ b && b ≤ 0x39

def isNumberByte (b : UInt8) : Bool :=
  isDigit b || b == 0x2D || b == 0x2B || b == 0x2E || b == 0x65 || b == 0x45

/-- At least one digit. -/
def skipDigits (input : List UInt8) : Option (List UInt8) :=
  if input.takeWhile isDigit = [] then none else some (input.dropWhile isDigit)

def skipSign (signs input : List UInt8) : List UInt8 :=
  match input with
  | [] => []
  | b :: rest => if signs.contains b then rest else input

/-- Digits after an optional introducing byte. -/
def skipPart (intro : List UInt8) (signs input : List UInt8) : Option (List UInt8) :=
  match input with
  | [] => some []
  | b :: rest => if intro.contains b then skipDigits (skipSign signs rest) else some input

/-- The grammar of numbers: no leading zero, digits after a point and in an
exponent. -/
def isNumber (text : List UInt8) : Bool :=
  let whole := skipSign [0x2D] text
  let digits := whole.takeWhile isDigit
  (digits.length ≤ 1 || digits.head? != some 0x30) &&
    (((skipDigits whole).bind (skipPart [0x2E] [])).bind (skipPart [0x65, 0x45] [0x2B, 0x2D]))
      == some []

def readNumber (input : List UInt8) : Option (Value × List UInt8) :=
  if isNumber (input.takeWhile isNumberByte) then
    some (.number (input.takeWhile isNumberByte), input.dropWhile isNumberByte)
  else none

/-- A value without parts that starts with `b`. -/
def readPlain (b : UInt8) (rest : List UInt8) : Option (Value × List UInt8) :=
  if b = 0x22 then (readString rest).map fun p => (.string p.1, p.2)
  else if b = 0x74 then (stripWord [0x72, 0x75, 0x65] rest).map (.bool true, ·)
  else if b = 0x66 then (stripWord [0x61, 0x6C, 0x73, 0x65] rest).map (.bool false, ·)
  else if b = 0x6E then (stripWord [0x75, 0x6C, 0x6C] rest).map (.null, ·)
  else readNumber (b :: rest)

mutual

def parseValue : Nat → List UInt8 → Option (Value × List UInt8)
  | 0, _ => none
  | fuel + 1, input =>
      match skipSpace input with
      | [] => none
      | b :: rest =>
          if b = 0x7B then
            match expect 0x7D rest with
            | some rest => some (.object [], rest)
            | none => (parseMembers fuel rest).map fun p => (.object p.1, p.2)
          else if b = 0x5B then
            match expect 0x5D rest with
            | some rest => some (.array [], rest)
            | none => (parseElements fuel rest).map fun p => (.array p.1, p.2)
          else readPlain b rest

def parseMembers : Nat → List UInt8 → Option (List (List UInt8 × Value) × List UInt8)
  | 0, _ => none
  | fuel + 1, input =>
      ((expect 0x22 input).bind readString).bind fun key =>
        ((expect 0x3A key.2).bind (parseValue fuel)).bind fun value =>
          match expect 0x2C value.2 with
          | some rest => (parseMembers fuel rest).map fun p => ((key.1, value.1) :: p.1, p.2)
          | none => (expect 0x7D value.2).map ([(key.1, value.1)], ·)

def parseElements : Nat → List UInt8 → Option (List Value × List UInt8)
  | 0, _ => none
  | fuel + 1, input =>
      (parseValue fuel input).bind fun value =>
        match expect 0x2C value.2 with
        | some rest => (parseElements fuel rest).map fun p => (value.1 :: p.1, p.2)
        | none => (expect 0x5D value.2).map ([value.1], ·)

end

/-- A text that is one value, with space around it. -/
def parse (input : List UInt8) : Option Value :=
  match parseValue (input.length + 1) input with
  | some (value, rest) => if skipSpace rest = [] then some value else none
  | none => none

/-! ## Printing flat objects -/

def memberText (key literal : List UInt8) : List UInt8 := 0x22 :: key ++ 0x22 :: 0x3A :: literal

def membersText : List (List UInt8 × List UInt8) → List UInt8
  | [] => []
  | [m] => memberText m.1 m.2
  | m :: ms => memberText m.1 m.2 ++ 0x2C :: membersText ms

def objectText (members : List (List UInt8 × List UInt8)) : List UInt8 :=
  0x7B :: membersText members ++ [0x7D]

/-- A member with the comma before it. -/
def commaMember (m : List UInt8 × List UInt8) : List UInt8 := 0x2C :: memberText m.1 m.2

theorem membersText_cons (m : List UInt8 × List UInt8) (ms : List (List UInt8 × List UInt8)) :
    membersText (m :: ms) = memberText m.1 m.2 ++ ms.flatMap commaMember := by
  induction ms generalizing m with
  | nil => simp [membersText]
  | cons m' ms ih =>
      show memberText m.1 m.2 ++ 0x2C :: membersText (m' :: ms) = _
      rw [ih m', List.flatMap_cons]
      rfl

/-! ## Literals -/

/-- Bytes of a literal with no unescaped quote among them. -/
def Closed (body : List UInt8) : Prop :=
  ∀ rest, splitLiteral (body ++ rest) =
    (splitLiteral rest).map fun p => (body ++ p.1, p.2)

theorem closed_nil : Closed [] := by
  intro rest
  simp

/-- Two bodies that end no literal end none together. -/
theorem Closed.append {a b : List UInt8} (ha : Closed a) (hb : Closed b) : Closed (a ++ b) := by
  intro rest
  rw [List.append_assoc, ha, hb]
  cases splitLiteral rest <;> simp

/-- Nor do any number of them. -/
theorem closed_flatMap {α : Type} {f : α → List UInt8} {xs : List α}
    (h : ∀ x ∈ xs, Closed (f x)) : Closed (xs.flatMap f) := by
  induction xs with
  | nil => exact closed_nil
  | cons x xs ih =>
      rw [List.flatMap_cons]
      exact (h x (by simp)).append (ih fun y hy => h y (by simp [hy]))

theorem closed_byte {b : UInt8} (hquote : b ≠ 0x22) (hslash : b ≠ 0x5C) : Closed [b] := by
  intro rest
  rw [List.singleton_append, splitLiteral.eq_def]
  simp only [if_neg hquote, if_neg hslash, List.singleton_append]

theorem closed_escaped (e : UInt8) : Closed [0x5C, e] := by
  intro rest
  rw [List.cons_append, splitLiteral.eq_def]
  simp

/-- Without quotes and backslashes there is nothing to end a literal. -/
theorem closed_plain {body : List UInt8} (h : ∀ b ∈ body, b ≠ 0x22 ∧ b ≠ 0x5C) : Closed body := by
  have hall : Closed (body.flatMap fun b => [b]) :=
    closed_flatMap fun b hb => closed_byte (h b hb).1 (h b hb).2
  rwa [List.flatMap_singleton'] at hall

theorem hexDigit_ne {n : UInt8} (h : n < 16) : hexDigit n ≠ 0x22 ∧ hexDigit n ≠ 0x5C := by
  have hall : ∀ k < 16, hexDigit (UInt8.ofNat k) ≠ 0x22 ∧ hexDigit (UInt8.ofNat k) ≠ 0x5C := by
    decide
  have := hall n.toNat (by simpa [UInt8.lt_iff_toNat_lt] using h)
  rwa [UInt8.ofNat_toNat] at this

theorem closed_escapeHex (b : UInt8) : Closed (escapeHex b) := by
  have hdigits : Closed [0x30, 0x30, hexDigit (b >>> 4), hexDigit (b &&& 0xF)] := by
    refine closed_plain fun x hx => ?_
    simp only [List.mem_cons, List.not_mem_nil, or_false] at hx
    rcases hx with rfl | rfl | rfl | rfl
    · decide
    · decide
    · exact hexDigit_ne (high_nibble_lt b)
    · exact hexDigit_ne (low_nibble_lt b)
  exact (closed_escaped 0x75).append hdigits

/-- The escape of a byte ends no literal. -/
theorem closed_escapeAscii (b : UInt8) : Closed (escapeAscii b) := by
  unfold escapeAscii
  split_ifs with hquote
  · exact closed_escaped b
  · exact closed_escaped 0x62
  · exact closed_escaped 0x66
  · exact closed_escaped 0x6E
  · exact closed_escaped 0x72
  · exact closed_escaped 0x74
  · exact closed_escapeHex b
  · exact closed_byte (fun h => hquote (.inr h)) (fun h => hquote (.inl h))

theorem closed_high {c : List UInt8} (hc : ∀ b ∈ c, 0x80 ≤ b) : Closed c := by
  refine closed_plain fun b hb => ?_
  have hb : 0x80 ≤ b := hc b hb
  constructor <;> rintro rfl <;> exact absurd hb (by decide)

/-- Nor does the escape of a character. -/
theorem closed_escapePiece {u : Piece} (hu : ∀ c, u = .char c → IsRune c) :
    Closed (escapePiece u) := by
  have hcode : ∀ a b c d : UInt8, (∀ x ∈ [a, b, c, d], x ≠ 0x22 ∧ x ≠ 0x5C) →
      Closed [0x5C, 0x75, a, b, c, d] := fun _ _ _ _ h =>
    (closed_escaped 0x75).append (closed_plain h)
  cases u with
  | bad b => exact hcode _ _ _ _ (by decide)
  | char c =>
      rcases (hu c rfl).bytes with ⟨b, rfl, hb⟩ | ⟨hlen, hhigh⟩
      · exact closed_escapeAscii b
      · by_cases h₁ : c = [0xE2, 0x80, 0xA8]
        · subst h₁; exact hcode _ _ _ _ (by decide)
        · by_cases h₂ : c = [0xE2, 0x80, 0xA9]
          · subst h₂; exact hcode _ _ _ _ (by decide)
          · rw [escapePiece_high hlen h₁ h₂]
            exact closed_high hhigh

/-- Escaped text ends no literal. -/
theorem closed_escape (data : List UInt8) : Closed (escape data) :=
  closed_flatMap fun _ hu => closed_escapePiece fun _ hc => pieces_isRune (hc ▸ hu)

/-! ## Escapes of Foundation -/

/-- The slash is escaped as well; bytes from 0x20 on are not. -/
def escapeSlashByte (b : UInt8) : List UInt8 :=
  if b = 0x22 ∨ b = 0x5C ∨ b = 0x2F then [0x5C, b]
  else if b = 0x08 then [0x5C, 0x62]
  else if b = 0x0C then [0x5C, 0x66]
  else if b = 0x0A then [0x5C, 0x6E]
  else if b = 0x0D then [0x5C, 0x72]
  else if b = 0x09 then [0x5C, 0x74]
  else if b < 0x20 then escapeHex b
  else [b]

def escapeSlash (data : List UInt8) : List UInt8 := data.flatMap escapeSlashByte

def quoteSlash (data : List UInt8) : List UInt8 := 0x22 :: (escapeSlash data ++ [0x22])

/-- Nor does text escaped with its slashes. -/
theorem closed_escapeSlash (data : List UInt8) : Closed (escapeSlash data) := by
  refine closed_flatMap fun b _ => ?_
  unfold escapeSlashByte
  split_ifs with hquote
  · exact closed_escaped b
  · exact closed_escaped 0x62
  · exact closed_escaped 0x66
  · exact closed_escaped 0x6E
  · exact closed_escaped 0x72
  · exact closed_escaped 0x74
  · exact closed_escapeHex b
  · exact closed_byte (fun h => hquote (.inl h)) (fun h => hquote (.inr (.inl h)))

theorem unescape_escapeSlashByte (b : UInt8) (rest : List UInt8) :
    unescape (escapeSlashByte b ++ rest) = (unescape rest).map (b :: ·) := by
  unfold escapeSlashByte
  split_ifs with h₁ h₂ h₃ h₄ h₅ h₆ h₇
  · rcases h₁ with rfl | rfl | rfl <;> exact unescape_simple (by decide) (by decide) rest
  · subst h₂; exact unescape_simple (by decide) (by decide) rest
  · subst h₃; exact unescape_simple (by decide) (by decide) rest
  · subst h₄; exact unescape_simple (by decide) (by decide) rest
  · subst h₅; exact unescape_simple (by decide) (by decide) rest
  · subst h₆; exact unescape_simple (by decide) (by decide) rest
  · refine unescape_escapeHex ?_ rest
    rw [UInt8.lt_iff_toNat_lt] at h₇ ⊢
    exact Nat.lt_trans h₇ (by decide)
  · simp only [not_or] at h₁
    exact unescape_plain h₁.2.1 h₁.1 h₇ rest

/-- Text escaped with its slashes is read back. -/
theorem unescape_escapeSlash (data : List UInt8) : unescape (escapeSlash data) = some data := by
  induction data with
  | nil => simp [escapeSlash, unescape]
  | cons b data ih =>
      rw [escapeSlash, List.flatMap_cons, unescape_escapeSlashByte]
      rw [escapeSlash] at ih
      rw [ih]
      rfl

/-! ## Reading back -/

/-- A number cannot go on here. -/
def Stops (rest : List UInt8) : Prop := ∀ b, rest.head? = some b → isNumberByte b = false

/-- The literal is read as the value, whatever follows it in an object. -/
def Reads (literal : List UInt8) (value : Value) : Prop :=
  ∀ fuel rest, Stops rest → parseValue (fuel + 1) (literal ++ rest) = some (value, rest)

/-- Where no blank stands nothing is skipped. -/
theorem skipSpace_cons {b : UInt8} (hb : isSpace b = false) (rest : List UInt8) :
    skipSpace (b :: rest) = b :: rest := by
  simp [skipSpace, hb]

/-- The byte that is expected is consumed. -/
theorem expect_self {b : UInt8} (hb : isSpace b = false) (rest : List UInt8) :
    expect b (b :: rest) = some rest := by
  simp [expect, skipSpace_cons hb]

/-- Any other byte is refused. -/
theorem expect_other {b c : UInt8} (hc : isSpace c = false) (hne : c ≠ b) (rest : List UInt8) :
    expect b (c :: rest) = none := by
  simp [expect, skipSpace_cons hc, hne]

/-- A literal ends at the quote behind its body. -/
theorem readString_closed {body s : List UInt8} (hclosed : Closed body)
    (hs : unescape body = some s) (rest : List UInt8) :
    readString (body ++ 0x22 :: rest) = some (s, rest) := by
  have hend : splitLiteral (0x22 :: rest) = some ([], rest) := by
    rw [splitLiteral.eq_def]
    simp
  rw [readString, hclosed, hend]
  simp [hs]

/-- A literal is read as what its escapes stand for. -/
theorem reads_string {body s : List UInt8} (hclosed : Closed body) (hs : unescape body = some s) :
    Reads (0x22 :: (body ++ [0x22])) (.string s) := by
  intro fuel rest _
  have hread := readString_closed hclosed hs rest
  rw [List.cons_append, List.append_assoc, List.singleton_append, parseValue,
    skipSpace_cons (by decide)]
  simp only [readPlain, if_true, hread, Option.map_some]
  rfl

/-- A quoted text is read as the string it quotes. -/
theorem reads_quote {data : List UInt8} (hdata : Utf8.valid data = true) :
    Reads (quote data) (.string data) :=
  reads_string (closed_escape data) (by rw [unescape_escape, sanitize_of_valid hdata])

/-- So is one quoted with escaped slashes. -/
theorem reads_quoteSlash (data : List UInt8) : Reads (quoteSlash data) (.string data) :=
  reads_string (closed_escapeSlash data) (unescape_escapeSlash data)

/-- A number with a digit or a sign in front. -/
theorem reads_number {b : UInt8} {text : List UInt8}
    (hbytes : ∀ x ∈ b :: text, isNumberByte x = true)
    (hfirst : isDigit b = true ∨ b = 0x2D) (hnumber : isNumber (b :: text) = true) :
    Reads (b :: text) (.number (b :: text)) := by
  intro fuel rest hrest
  have hspan : ∀ text : List UInt8, (∀ x ∈ text, isNumberByte x = true) →
      (text ++ rest).takeWhile isNumberByte = text ∧
        (text ++ rest).dropWhile isNumberByte = rest := by
    intro text htext
    have hstop : rest.takeWhile isNumberByte = [] ∧ rest.dropWhile isNumberByte = rest := by
      cases rest with
      | nil => exact ⟨rfl, rfl⟩
      | cons c rest => simp [hrest c rfl]
    rw [List.takeWhile_append_of_pos htext, List.dropWhile_append_of_pos htext, hstop.1, hstop.2,
      List.append_nil]
    exact ⟨rfl, rfl⟩
  obtain ⟨htake, hdrop⟩ := hspan (b :: text) hbytes
  have hother : ∀ c : UInt8, isDigit c = false → c ≠ 0x2D → b ≠ c := by
    rintro c hc hsign rfl
    rcases hfirst with h | h
    · rw [h] at hc; cases hc
    · exact hsign h
  have hspace : isSpace b = false := by
    simp only [isSpace, Bool.or_eq_false_iff, beq_eq_false_iff_ne]
    exact ⟨⟨⟨hother _ (by decide) (by decide), hother _ (by decide) (by decide)⟩,
      hother _ (by decide) (by decide)⟩, hother _ (by decide) (by decide)⟩
  rw [List.cons_append] at htake hdrop ⊢
  rw [parseValue, skipSpace_cons hspace]
  simp only [if_neg (hother 0x7B (by decide) (by decide)),
    if_neg (hother 0x5B (by decide) (by decide)), readPlain,
    if_neg (hother 0x22 (by decide) (by decide)), if_neg (hother 0x74 (by decide) (by decide)),
    if_neg (hother 0x66 (by decide) (by decide)), if_neg (hother 0x6E (by decide) (by decide)),
    readNumber, htake, hdrop, hnumber, if_true]

/-! ## Objects -/

/-- A key without escapes. -/
def PlainKey (key : List UInt8) : Prop := ∀ b ∈ key, b ≠ 0x22 ∧ b ≠ 0x5C ∧ ¬ b < 0x20

instance (key : List UInt8) : Decidable (PlainKey key) :=
  inferInstanceAs (Decidable (∀ b ∈ key, b ≠ 0x22 ∧ b ≠ 0x5C ∧ ¬ b < 0x20))

/-- A key without escapes is read as it stands. -/
theorem PlainKey.readString {key : List UInt8} (hkey : PlainKey key) (rest : List UInt8) :
    readString (key ++ 0x22 :: rest) = some (key, rest) := by
  refine readString_closed (closed_plain fun b hb => ⟨(hkey b hb).1, (hkey b hb).2.1⟩) ?_ rest
  clear rest
  induction key with
  | nil => simp [unescape]
  | cons b key ih =>
      obtain ⟨hquote, hslash, hlow⟩ := hkey b (by simp)
      rw [unescape_plain hslash hquote hlow, ih fun x hx => hkey x (by simp [hx])]
      rfl

/-- A member of an object: its key, the literal and the value it is read
as. -/
structure Member where
  key : List UInt8
  literal : List UInt8
  value : Value

def Member.Good (m : Member) : Prop := PlainKey m.key ∧ Reads m.literal m.value

def printed (ms : List Member) : List UInt8 := membersText (ms.map fun m => (m.key, m.literal))

def values (ms : List Member) : List (List UInt8 × Value) := ms.map fun m => (m.key, m.value)

/-- One member and what follows it. -/
theorem parseMembers_member {m : Member} (hm : m.Good) (fuel : Nat) {rest : List UInt8}
    (hrest : Stops rest) :
    parseMembers (fuel + 2) (memberText m.key m.literal ++ rest) =
      match expect 0x2C rest with
      | some rest => (parseMembers (fuel + 1) rest).map fun p => ((m.key, m.value) :: p.1, p.2)
      | none => (expect 0x7D rest).map ([(m.key, m.value)], ·) := by
  have htext : memberText m.key m.literal ++ rest =
      0x22 :: (m.key ++ 0x22 :: (0x3A :: (m.literal ++ rest))) := by
    simp [memberText]
  rw [htext, parseMembers, expect_self (by decide), Option.bind_some, hm.1.readString,
    Option.bind_some, expect_self (by decide), Option.bind_some, hm.2 fuel rest hrest,
    Option.bind_some]

/-- Printed members are read back, whatever follows the brace. -/
theorem parseMembers_printed {ms : List Member} (hne : ms ≠ []) (hms : ∀ m ∈ ms, m.Good)
    (fuel : Nat) (hfuel : ms.length + 1 ≤ fuel) (rest : List UInt8) :
    parseMembers fuel (printed ms ++ 0x7D :: rest) = some (values ms, rest) := by
  induction ms generalizing fuel with
  | nil => exact absurd rfl hne
  | cons m ms ih =>
      obtain ⟨k, rfl⟩ : ∃ k, fuel = k + 2 := ⟨fuel - 2, by simp at hfuel; omega⟩
      have hm := hms m (by simp)
      cases ms with
      | nil =>
          have hstop : Stops (0x7D :: rest) := fun b hb => by cases hb; decide
          show parseMembers (k + 2) (memberText m.key m.literal ++ 0x7D :: rest) = _
          rw [parseMembers_member hm k hstop, expect_other (by decide) (by decide),
            expect_self (by decide)]
          rfl
      | cons m' ms =>
          have hstop : Stops (0x2C :: (printed (m' :: ms) ++ 0x7D :: rest)) :=
            fun b hb => by cases hb; decide
          have htext : printed (m :: m' :: ms) ++ 0x7D :: rest =
              memberText m.key m.literal ++ 0x2C :: (printed (m' :: ms) ++ 0x7D :: rest) := by
            simp [printed, membersText]
          rw [htext, parseMembers_member hm k hstop, expect_self (by decide)]
          simp only [List.length_cons] at hfuel ih
          simp only [ih (by simp) (fun x hx => hms x (by simp [hx])) (k + 1) (by omega),
            Option.map_some]
          rfl

/-- Every member takes a byte at least, so the input is fuel enough. -/
theorem length_printed (ms : List Member) : ms.length ≤ (printed ms).length := by
  induction ms with
  | nil => exact Nat.zero_le _
  | cons m ms ih =>
      cases ms with
      | nil => simp [printed, membersText, memberText]
      | cons m' ms =>
          simp only [printed, List.map_cons, membersText, List.length_append, List.length_cons,
            memberText] at ih ⊢
          omega

/-- **A flat object is read back member by member.** -/
theorem parse_objectText {ms : List Member} (hne : ms ≠ []) (hms : ∀ m ∈ ms, m.Good)
    {space : List UInt8} (hspace : skipSpace space = []) :
    parse (objectText (ms.map fun m => (m.key, m.literal)) ++ space) =
      some (.object (values ms)) := by
  have htext : objectText (ms.map fun m => (m.key, m.literal)) ++ space =
      0x7B :: (printed ms ++ 0x7D :: space) := by
    simp [objectText, printed]
  have hquote : ∃ rest, printed ms ++ 0x7D :: space = 0x22 :: rest := by
    cases ms with
    | nil => exact absurd rfl hne
    | cons m ms => cases ms <;> exact ⟨_, rfl⟩
  have hopen : expect 0x7D (printed ms ++ 0x7D :: space) = none := by
    obtain ⟨rest, hrest⟩ := hquote
    rw [hrest]
    exact expect_other (by decide) (by decide) rest
  have hlen := length_printed ms
  rw [parse, htext, parseValue, skipSpace_cons (by decide)]
  simp only [if_true, hopen]
  rw [parseMembers_printed hne hms _ (by simp; omega)]
  simp [hspace]

/-- The value of a key; the last one counts. -/
def Value.get? (key : List UInt8) : Value → Option Value
  | .object members => (members.reverse.find? (·.1 == key)).map (·.2)
  | _ => none

def Value.string? : Value → Option (List UInt8)
  | .string s => some s
  | _ => none

def decimalValue (digits : List UInt8) : Nat :=
  digits.foldl (fun n b => 10 * n + (b.toNat - 0x30)) 0

/-- A number written as an integer of 64 bits. -/
def Value.int? : Value → Option Int
  | .number text =>
      let digits := skipSign [0x2D] text
      let value : Int :=
        if digits.length < text.length then -decimalValue digits else decimalValue digits
      if digits.all isDigit && decide (-2 ^ 63 ≤ value) && decide (value < 2 ^ 63) then some value
      else none
  | _ => none

end Bootmux.Lib.Json
