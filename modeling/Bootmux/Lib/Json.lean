/-
Bootmux.Lib.Json — JSON string literals over byte strings.

`escape` writes the body of a literal the way Go's `encoding/json` does:
quotes, backslashes and control characters escaped, `<`, `>`, `&`,
U+2028 and U+2029 too, and `\ufffd` for each byte that is not part of a
character. `unescape` reads the body of a literal back by the rules of
JSON. What comes back is the string with its stray bytes replaced
(`unescape_escape`), and no byte costs more than six
(`length_escape_le`).

A decoder of UTF-8 replaces bytes that belong to no character, and the
printers of this development do so before they escape. What is read back of
a quoted text is therefore the sanitized text, which is the text itself
where it was valid.
-/
import Bootmux.Lib.Utf8

namespace Bootmux.Lib.Json

open Bootmux.Lib.Utf8

def hexDigit (n : UInt8) : UInt8 := if n < 10 then 0x30 + n else 0x57 + n

/-- `\u00` and two hexadecimal digits. -/
def escapeHex (b : UInt8) : List UInt8 :=
  [0x5C, 0x75, 0x30, 0x30, hexDigit (b >>> 4), hexDigit (b &&& 0xF)]

def escapeAscii (b : UInt8) : List UInt8 :=
  if b = 0x5C ∨ b = 0x22 then [0x5C, b]
  else if b = 0x08 then [0x5C, 0x62]
  else if b = 0x0C then [0x5C, 0x66]
  else if b = 0x0A then [0x5C, 0x6E]
  else if b = 0x0D then [0x5C, 0x72]
  else if b = 0x09 then [0x5C, 0x74]
  else if b < 0x20 ∨ b = 0x3C ∨ b = 0x3E ∨ b = 0x26 then escapeHex b
  else [b]

def escapePiece : Piece → List UInt8
  | .bad _ => [0x5C, 0x75, 0x66, 0x66, 0x66, 0x64]
  | .char [b] => escapeAscii b
  | .char c =>
      if c = [0xE2, 0x80, 0xA8] then [0x5C, 0x75, 0x32, 0x30, 0x32, 0x38]
      else if c = [0xE2, 0x80, 0xA9] then [0x5C, 0x75, 0x32, 0x30, 0x32, 0x39]
      else c

def escape (data : List UInt8) : List UInt8 := (pieces data).flatMap escapePiece

def quote (data : List UInt8) : List UInt8 := 0x22 :: (escape data ++ [0x22])

/-! ## Reading a literal -/

def hexValue (b : UInt8) : Option Nat :=
  if 0x30 ≤ b ∧ b ≤ 0x39 then some (b.toNat - 0x30)
  else if 0x61 ≤ b ∧ b ≤ 0x66 then some (b.toNat - 0x57)
  else if 0x41 ≤ b ∧ b ≤ 0x46 then some (b.toNat - 0x37)
  else none

def hexQuad (a b c d : UInt8) : Option Nat :=
  match hexValue a, hexValue b, hexValue c, hexValue d with
  | some a, some b, some c, some d => some (((a * 16 + b) * 16 + c) * 16 + d)
  | _, _, _, _ => none

def encodeRune (r : Nat) : List UInt8 :=
  if r < 0x80 then [.ofNat r]
  else if r < 0x800 then [.ofNat (0xC0 + r / 0x40), .ofNat (0x80 + r % 0x40)]
  else if r < 0x10000 then
    [.ofNat (0xE0 + r / 0x1000), .ofNat (0x80 + r / 0x40 % 0x40), .ofNat (0x80 + r % 0x40)]
  else
    [.ofNat (0xF0 + r / 0x40000), .ofNat (0x80 + r / 0x1000 % 0x40),
      .ofNat (0x80 + r / 0x40 % 0x40), .ofNat (0x80 + r % 0x40)]

def unescapeAscii (e : UInt8) : Option UInt8 :=
  if e = 0x22 ∨ e = 0x5C ∨ e = 0x2F then some e
  else if e = 0x62 then some 0x08
  else if e = 0x66 then some 0x0C
  else if e = 0x6E then some 0x0A
  else if e = 0x72 then some 0x0D
  else if e = 0x74 then some 0x09
  else none

/-- A surrogate pair in two `\u` escapes. -/
def surrogates (hi lo : Nat) : Option Nat :=
  if 0xD800 ≤ hi ∧ hi < 0xDC00 ∧ 0xDC00 ≤ lo ∧ lo < 0xE000 then
    some (0x10000 + (hi - 0xD800) * 0x400 + (lo - 0xDC00))
  else none

def unescape : List UInt8 → Option (List UInt8)
  | [] => some []
  | b :: rest =>
      if b = 0x5C then
        match rest with
        | [] => none
        | e :: rest =>
            if e = 0x75 then
              match rest with
              | h₁ :: h₂ :: h₃ :: h₄ :: rest =>
                  match hexQuad h₁ h₂ h₃ h₄ with
                  | none => none
                  | some r =>
                      if r < 0xD800 ∨ 0xE000 ≤ r then (unescape rest).map (encodeRune r ++ ·)
                      else
                        match rest with
                        | 0x5C :: 0x75 :: l₁ :: l₂ :: l₃ :: l₄ :: rest =>
                            match (hexQuad l₁ l₂ l₃ l₄).bind (surrogates r) with
                            | none => none
                            | some r => (unescape rest).map (encodeRune r ++ ·)
                        | _ => none
              | _ => none
            else
              match unescapeAscii e with
              | none => none
              | some c => (unescape rest).map (c :: ·)
      else if b = 0x22 ∨ b < 0x20 then none
      else (unescape rest).map (b :: ·)

/-- The literal read back, quotes and all. -/
def unquote : List UInt8 → Option (List UInt8)
  | [] => none
  | b :: rest =>
      if b = 0x22 ∧ rest.getLast? = some 0x22 then unescape rest.dropLast else none

/-! ## The round trip -/

/-- A byte that is no quote, backslash or control character stands for itself.
-/
theorem unescape_plain {b : UInt8} (hb : b ≠ 0x5C) (hq : b ≠ 0x22) (hc : ¬ b < 0x20)
    (rest : List UInt8) : unescape (b :: rest) = (unescape rest).map (b :: ·) := by
  rw [unescape.eq_def]
  simp only [if_neg hb, hq, hc, or_self, if_false]

/-- A two-character escape stands for its one byte. -/
theorem unescape_simple {e c : UInt8} (he : e ≠ 0x75) (hc : unescapeAscii e = some c)
    (rest : List UInt8) : unescape (0x5C :: e :: rest) = (unescape rest).map (c :: ·) := by
  rw [unescape.eq_def]
  simp only [if_true, if_neg he, hc]

/-- A `\u` escape that is no surrogate stands for the encoding of its code. -/
theorem unescape_hex {h₁ h₂ h₃ h₄ : UInt8} {r : Nat} (hr : hexQuad h₁ h₂ h₃ h₄ = some r)
    (hs : r < 0xD800 ∨ 0xE000 ≤ r) (rest : List UInt8) :
    unescape (0x5C :: 0x75 :: h₁ :: h₂ :: h₃ :: h₄ :: rest) =
      (unescape rest).map (encodeRune r ++ ·) := by
  rw [unescape.eq_def]
  simp only [if_true, hr, if_pos hs]

/-- Four hexadecimal digits of an ASCII byte give the byte back. -/
theorem hexQuad_hexDigit (b : UInt8) (hb : b < 0x80) :
    hexQuad 0x30 0x30 (hexDigit (b >>> 4)) (hexDigit (b &&& 0xF)) = some b.toNat := by
  have hall : ∀ n < 0x80, hexQuad 0x30 0x30 (hexDigit (UInt8.ofNat n >>> 4))
      (hexDigit (UInt8.ofNat n &&& 0xF)) = some (UInt8.ofNat n).toNat := by decide +kernel
  have := hall b.toNat (by simpa [UInt8.lt_iff_toNat_lt] using hb)
  rwa [UInt8.ofNat_toNat] at this

theorem unescape_escapeHex {b : UInt8} (hb : b < 0x80) (rest : List UInt8) :
    unescape (escapeHex b ++ rest) = (unescape rest).map (b :: ·) := by
  have hlt : b.toNat < 0x80 := by simpa [UInt8.lt_iff_toNat_lt] using hb
  refine (unescape_hex (hexQuad_hexDigit b hb) (.inl (by omega)) rest).trans ?_
  rw [encodeRune, if_pos hlt, UInt8.ofNat_toNat]
  rfl

/-- However an ASCII byte is escaped, it is read back. -/
theorem unescape_escapeAscii {b : UInt8} (hb : b < 0x80) (rest : List UInt8) :
    unescape (escapeAscii b ++ rest) = (unescape rest).map (b :: ·) := by
  unfold escapeAscii
  split_ifs with h₁ h₂ h₃ h₄ h₅ h₆ h₇
  · rcases h₁ with rfl | rfl <;> exact unescape_simple (by decide) (by decide) rest
  · subst h₂; exact unescape_simple (by decide) (by decide) rest
  · subst h₃; exact unescape_simple (by decide) (by decide) rest
  · subst h₄; exact unescape_simple (by decide) (by decide) rest
  · subst h₅; exact unescape_simple (by decide) (by decide) rest
  · subst h₆; exact unescape_simple (by decide) (by decide) rest
  · exact unescape_escapeHex hb rest
  · simp only [not_or] at h₁ h₇
    exact unescape_plain h₁.1 h₁.2 h₇.1 rest

/-- Bytes from 0x80 on stand for themselves. -/
theorem unescape_high {c : List UInt8} (hc : ∀ b ∈ c, 0x80 ≤ b) (rest : List UInt8) :
    unescape (c ++ rest) = (unescape rest).map (c ++ ·) := by
  induction c with
  | nil => simp
  | cons b c ih =>
      have hb : 0x80 ≤ b := hc b (by simp)
      have hb' : 0x80 ≤ b.toNat := by simpa [UInt8.le_iff_toNat_le] using hb
      have hne : ∀ x : UInt8, x.toNat < 0x80 → b ≠ x := by
        rintro x hx rfl
        omega
      rw [List.cons_append, unescape_plain (hne _ (by decide)) (hne _ (by decide))
        (by simp only [UInt8.lt_iff_toNat_lt, UInt8.reduceToNat]; omega),
        ih fun x hx => hc x (by simp [hx])]
      cases unescape rest <;> rfl

theorem escapePiece_high {c : List UInt8} (hlen : 1 < c.length)
    (h₁ : c ≠ [0xE2, 0x80, 0xA8]) (h₂ : c ≠ [0xE2, 0x80, 0xA9]) : escapePiece (.char c) = c := by
  unfold escapePiece
  split
  · rename_i h; cases h
  · rename_i b h; cases h; simp at hlen
  · rename_i h
    cases h
    rw [if_neg h₁, if_neg h₂]

/-- A character is read back, and a bad byte as the replacement character. -/
theorem unescape_escapePiece {u : Piece} (hu : ∀ c, u = .char c → IsRune c) (rest : List UInt8) :
    unescape (escapePiece u ++ rest) = (unescape rest).map (u.sanitized ++ ·) := by
  cases u with
  | bad b => exact unescape_hex (r := 0xFFFD) (by decide) (by decide) rest
  | char c =>
      rcases (hu c rfl).bytes with ⟨b, rfl, hb⟩ | ⟨hlen, hhigh⟩
      · exact unescape_escapeAscii hb rest
      · by_cases h₁ : c = [0xE2, 0x80, 0xA8]
        · subst h₁; exact unescape_hex (r := 0x2028) (by decide) (by decide) rest
        · by_cases h₂ : c = [0xE2, 0x80, 0xA9]
          · subst h₂; exact unescape_hex (r := 0x2029) (by decide) (by decide) rest
          · rw [escapePiece_high hlen h₁ h₂]
            exact unescape_high hhigh rest

/-- **Writing a string and reading it back replaces its stray bytes.** -/
theorem unescape_escape (data : List UInt8) : unescape (escape data) = some (sanitize data) := by
  have key : ∀ us : List Piece, (∀ c, .char c ∈ us → IsRune c) →
      unescape (us.flatMap escapePiece) = some (us.flatMap Piece.sanitized) := by
    intro us hus
    induction us with
    | nil => simp [unescape]
    | cons u us ih =>
        rw [List.flatMap_cons, List.flatMap_cons,
          unescape_escapePiece (fun c hc => hus c (by simp [hc])),
          ih fun c hc => hus c (by simp [hc])]
        rfl
  exact key _ fun c hc => pieces_isRune hc

/-- A quoted text is read back with its bad bytes replaced. -/
theorem unquote_quote (data : List UInt8) : unquote (quote data) = some (sanitize data) := by
  simp only [quote, unquote, List.getLast?_append_cons, List.getLast?_singleton, true_and, if_true,
    List.dropLast_concat, unescape_escape]

/-! ## Sizes -/

/-- Six bytes are the longest escape of an ASCII byte. -/
theorem length_escapeAscii_le (b : UInt8) : (escapeAscii b).length ≤ 6 := by
  unfold escapeAscii
  split_ifs <;> simp [escapeHex]

/-- Escaping multiplies the bytes of a piece by six at most. -/
theorem length_escapePiece_le {u : Piece} (hu : u.bytes ≠ []) :
    (escapePiece u).length ≤ 6 * u.bytes.length := by
  unfold escapePiece
  split
  · simp [Piece.bytes]
  · simpa [Piece.bytes] using length_escapeAscii_le _
  · split
    · rename_i hc; simp [Piece.bytes, hc]
    · split
      · rename_i hc; simp [Piece.bytes, hc]
      · simp only [Piece.bytes]; omega

/-- Escaping multiplies the length by six at most. -/
theorem length_escape_le (data : List UInt8) : (escape data).length ≤ 6 * data.length := by
  induction data using pieces_induction with
  | nil => exact Nat.le_refl _
  | char c rest hc ih =>
      have := length_escapePiece_le (u := .char c) hc.ne_nil
      rw [escape, pieces_char hc, List.flatMap_cons, List.length_append, List.length_append]
      rw [escape] at ih
      simp only [Piece.bytes] at this
      omega
  | bad b rest hb ih =>
      have := length_escapePiece_le (u := .bad b) (by simp [Piece.bytes])
      rw [escape, pieces_bad hb, List.flatMap_cons, List.length_append, List.length_cons]
      rw [escape] at ih
      simp only [Piece.bytes, List.length_singleton] at this
      omega

/-- The two quotes are all that quoting adds. -/
theorem length_quote (data : List UInt8) : (quote data).length = (escape data).length + 2 := by
  simp [quote]

/-- Escaping takes a text character by character. -/
theorem escape_char {c : List UInt8} (hc : IsRune c) (rest : List UInt8) :
    escape (c ++ rest) = escapePiece (.char c) ++ escape rest := by
  rw [escape, pieces_char hc, List.flatMap_cons]
  rfl

/-- Replacing a run of stray bytes first costs no more either. -/
theorem length_escape_toValid_le (data : List UInt8) :
    (escape (toValid data)).length ≤ 6 * data.length := by
  have key : ∀ (us : List Piece) (inRun : Bool), (∀ c, .char c ∈ us → IsRune c) →
      (escape (render inRun us)).length ≤ 6 * (us.flatMap Piece.bytes).length := by
    intro us inRun hus
    induction us generalizing inRun with
    | nil => exact Nat.zero_le _
    | cons u us ih =>
        have ih' := fun inRun => ih inRun fun c hc => hus c (by simp [hc])
        rw [List.flatMap_cons, List.length_append]
        cases u with
        | char c =>
            have hc := hus c (by simp)
            have hle := length_escapePiece_le (u := .char c) hc.ne_nil
            have := ih' false
            simp only [render, escape_char hc, List.length_append, Piece.bytes] at hle ⊢
            omega
        | bad b =>
            have := ih' true
            cases inRun with
            | true => simp only [render, Piece.bytes, List.length_singleton]; omega
            | false =>
                have hrep : (escapePiece (.char replacement)).length = 3 := by decide
                simp only [render, escape_char replacement_isRune, List.length_append, hrep,
                  Piece.bytes, List.length_singleton]
                omega
  have := key (pieces data) false fun c hc => pieces_isRune hc
  rwa [pieces_bytes] at this

/-- Bytes that need no escape. -/
theorem escape_plain {data : List UInt8} (h : ∀ b ∈ data, b < 0x80 ∧ escapeAscii b = [b]) :
    escape data = data := by
  induction data with
  | nil => rfl
  | cons b rest ih =>
      obtain ⟨hlt, hplain⟩ := h b (by simp)
      have hsplit : b :: rest = [b] ++ rest := rfl
      rw [hsplit, escape_char (isRune_ascii hlt), ih fun x hx => h x (by simp [hx])]
      show escapeAscii b ++ rest = _
      rw [hplain]

theorem high_nibble_lt (b : UInt8) : b >>> 4 < 16 := by
  have h : (b >>> 4).toNat = b.toNat / 16 := by
    rw [UInt8.toNat_shiftRight, Nat.shiftRight_eq_div_pow]
    rfl
  have := b.toNat_lt
  rw [UInt8.lt_iff_toNat_lt, h]
  show b.toNat / 16 < 16
  omega

theorem low_nibble_lt (b : UInt8) : b &&& 0xF < 16 := by
  rw [UInt8.lt_iff_toNat_lt, UInt8.toNat_and]
  exact Nat.and_lt_two_pow (n := 4) b.toNat (by decide)

/-- Hexadecimal digits need no escape. -/
theorem hexDigit_plain {n : UInt8} (h : n < 16) :
    hexDigit n < 0x80 ∧ escapeAscii (hexDigit n) = [hexDigit n] := by
  have hall : ∀ k < 16, hexDigit (UInt8.ofNat k) < 0x80 ∧
      escapeAscii (hexDigit (UInt8.ofNat k)) = [hexDigit (UInt8.ofNat k)] := by decide
  have := hall n.toNat (by simpa [UInt8.lt_iff_toNat_lt] using h)
  rwa [UInt8.ofNat_toNat] at this

end Bootmux.Lib.Json
