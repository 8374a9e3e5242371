/-
Bootmux.Lib.JsonAscii — JSON values printed in ASCII, with a space after each
comma and colon, and read back.

Strings are printed as Python's `json.dumps` does: what is not a printable
ASCII character is a `\u` escape, with a surrogate pair above U+FFFF.
`parse_dumps` is the round trip, for any nesting; a text of one value in this
form has no line break in it (`printable_dumps`).

The scalar values are printed as one or two escapes of four digits, and read
back as such. The rest of the module goes through the grammar of values from
the smallest ones on: numbers, strings, elements, members. Each reader is
shown to stop where the printed value ends, whatever follows it, and with
fuel for the length of the input; the round trip of a value is then one
induction.
-/
import Mathlib.Data.List.TakeWhile
import Bootmux.Lib.JsonValue

namespace Bootmux.Lib.Json

open Bootmux.Lib.Utf8

/-! ## Code points -/

/-- The code point of a character. -/
def decodeRune : List UInt8 → Nat
  | [a] => a.toNat
  | [a, b] => (a.toNat - 0xC0) * 0x40 + (b.toNat - 0x80)
  | [a, b, c] => ((a.toNat - 0xE0) * 0x40 + (b.toNat - 0x80)) * 0x40 + (c.toNat - 0x80)
  | [a, b, c, d] =>
      (((a.toNat - 0xF0) * 0x40 + (b.toNat - 0x80)) * 0x40 + (c.toNat - 0x80)) * 0x40 +
        (d.toNat - 0x80)
  | _ => 0xFFFD

/-- A code point that is no surrogate. -/
def IsScalar (r : Nat) : Prop := (r < 0xD800 ∨ 0xE000 ≤ r) ∧ r < 0x110000

theorem decodeRune_two (a b : UInt8) :
    decodeRune [a, b] = (a.toNat - 192) * 64 + (b.toNat - 128) := rfl

theorem decodeRune_three (a b c : UInt8) :
    decodeRune [a, b, c] = ((a.toNat - 224) * 64 + (b.toNat - 128)) * 64 + (c.toNat - 128) := rfl

theorem decodeRune_four (a b c d : UInt8) :
    decodeRune [a, b, c, d] =
      (((a.toNat - 240) * 64 + (b.toNat - 128)) * 64 + (c.toNat - 128)) * 64 +
        (d.toNat - 128) := rfl

/-- A character of two bytes is decoded and encoded to itself. -/
theorem encode_decode_two {a b : UInt8} (ha : 0xC2 ≤ a ∧ a < 0xE0) (hb : 0x80 ≤ b ∧ b ≤ 0xBF) :
    encodeRune (decodeRune [a, b]) = [a, b] ∧ IsScalar (decodeRune [a, b]) := by
  simp only [UInt8.le_iff_toNat_le, UInt8.lt_iff_toNat_lt, UInt8.reduceToNat] at ha hb
  have hrange : 0x80 ≤ decodeRune [a, b] ∧ decodeRune [a, b] < 0x800 := by
    rw [decodeRune_two]
    omega
  refine ⟨?_, by unfold IsScalar; omega⟩
  rw [encodeRune, if_neg (by omega), if_pos hrange.2]
  have h₁ : 0xC0 + decodeRune [a, b] / 0x40 = a.toNat := by
    rw [decodeRune_two]
    omega
  have h₂ : 0x80 + decodeRune [a, b] % 0x40 = b.toNat := by
    rw [decodeRune_two]
    omega
  rw [h₁, h₂, UInt8.ofNat_toNat, UInt8.ofNat_toNat]

/-- A character of three bytes likewise, if it is no surrogate. -/
theorem encode_decode_three {a b c : UInt8} (ha : 0xE0 ≤ a ∧ a < 0xF0)
    (hb : 0x80 ≤ b ∧ b ≤ 0xBF) (hc : 0x80 ≤ c ∧ c ≤ 0xBF) (hlow : a = 0xE0 → 0xA0 ≤ b)
    (hsurrogate : a = 0xED → b ≤ 0x9F) :
    encodeRune (decodeRune [a, b, c]) = [a, b, c] ∧ IsScalar (decodeRune [a, b, c]) := by
  simp only [UInt8.le_iff_toNat_le, UInt8.lt_iff_toNat_lt, UInt8.reduceToNat,
    ← UInt8.toNat_inj] at ha hb hc hlow hsurrogate
  have hrange : 0x800 ≤ decodeRune [a, b, c] ∧ decodeRune [a, b, c] < 0x10000 ∧
      (decodeRune [a, b, c] < 0xD800 ∨ 0xE000 ≤ decodeRune [a, b, c]) := by
    rw [decodeRune_three]
    omega
  refine ⟨?_, by unfold IsScalar; omega⟩
  rw [encodeRune, if_neg (by omega), if_neg (by omega), if_pos hrange.2.1]
  have h₁ : 0xE0 + decodeRune [a, b, c] / 0x1000 = a.toNat := by
    rw [decodeRune_three]
    omega
  have h₂ : 0x80 + decodeRune [a, b, c] / 0x40 % 0x40 = b.toNat := by
    rw [decodeRune_three]
    omega
  have h₃ : 0x80 + decodeRune [a, b, c] % 0x40 = c.toNat := by
    rw [decodeRune_three]
    omega
  rw [h₁, h₂, h₃, UInt8.ofNat_toNat, UInt8.ofNat_toNat, UInt8.ofNat_toNat]

/-- A character of four bytes likewise, within the range of Unicode. -/
theorem encode_decode_four {a b c d : UInt8} (ha : 0xF0 ≤ a ∧ a ≤ 0xF4)
    (hb : 0x80 ≤ b ∧ b ≤ 0xBF) (hc : 0x80 ≤ c ∧ c ≤ 0xBF) (hd : 0x80 ≤ d ∧ d ≤ 0xBF)
    (hlow : a = 0xF0 → 0x90 ≤ b) (hhigh : a = 0xF4 → b ≤ 0x8F) :
    encodeRune (decodeRune [a, b, c, d]) = [a, b, c, d] ∧ IsScalar (decodeRune [a, b, c, d]) := by
  simp only [UInt8.le_iff_toNat_le, UInt8.reduceToNat, ← UInt8.toNat_inj]
    at ha hb hc hd hlow hhigh
  have hrange : 0x10000 ≤ decodeRune [a, b, c, d] ∧ decodeRune [a, b, c, d] < 0x110000 := by
    rw [decodeRune_four]
    omega
  refine ⟨?_, by unfold IsScalar; omega⟩
  rw [encodeRune, if_neg (by omega), if_neg (by omega), if_neg (by omega)]
  have h₁ : 0xF0 + decodeRune [a, b, c, d] / 0x40000 = a.toNat := by
    rw [decodeRune_four]
    omega
  have h₂ : 0x80 + decodeRune [a, b, c, d] / 0x1000 % 0x40 = b.toNat := by
    rw [decodeRune_four]
    omega
  have h₃ : 0x80 + decodeRune [a, b, c, d] / 0x40 % 0x40 = c.toNat := by
    rw [decodeRune_four]
    omega
  have h₄ : 0x80 + decodeRune [a, b, c, d] % 0x40 = d.toNat := by
    rw [decodeRune_four]
    omega
  rw [h₁, h₂, h₃, h₄, UInt8.ofNat_toNat, UInt8.ofNat_toNat, UInt8.ofNat_toNat, UInt8.ofNat_toNat]

/-- What a first byte announces, with its own range. -/
theorem lead_multi_range {b lo hi : UInt8} {n : Nat} (h : lead b = .multi n lo hi) :
    (n = 1 ∧ (0xC2 ≤ b ∧ b < 0xE0) ∧ 0x80 ≤ lo ∧ hi ≤ 0xBF) ∨
      (n = 2 ∧ (0xE0 ≤ b ∧ b < 0xF0) ∧ 0x80 ≤ lo ∧ hi ≤ 0xBF ∧ (b = 0xE0 → 0xA0 ≤ lo) ∧
        (b = 0xED → hi ≤ 0x9F)) ∨
      (n = 3 ∧ (0xF0 ≤ b ∧ b ≤ 0xF4) ∧ 0x80 ≤ lo ∧ hi ≤ 0xBF ∧ (b = 0xF0 → 0x90 ≤ lo) ∧
        (b = 0xF4 → hi ≤ 0x8F)) := by
  unfold lead at h
  repeat' split at h
  all_goals
    first
    | obtain ⟨rfl, rfl, rfl⟩ := Lead.multi.inj h
      simp only [UInt8.lt_iff_toNat_lt, UInt8.le_iff_toNat_le, UInt8.reduceToNat,
        ← UInt8.toNat_inj, true_and] at *
      omega
    | exact absurd h (by simp)

/-- The next byte of a character that goes on lies within its bounds. -/
theorem tail_between {size n k : Nat} {lo hi b : UInt8} {rest : List UInt8}
    (h : tail size (n + 1) lo hi (b :: rest) = .rune k) :
    (lo ≤ b ∧ b ≤ hi) ∧ tail (size + 1) n 0x80 0xBF rest = .rune k := by
  rw [tail] at h
  split at h
  · next hb => exact ⟨hb, h⟩
  · exact absurd h (by simp)

theorem lead_ascii {b : UInt8} (h : lead b = .ascii) : b < 0x80 := by
  unfold lead at h
  split at h
  · next hb => exact hb
  · repeat' split at h
    all_goals exact absurd h (by simp)

/-- **A character is the encoding of its code point.** -/
theorem encode_decodeRune {c : List UInt8} (hc : IsRune c) :
    encodeRune (decodeRune c) = c ∧ IsScalar (decodeRune c) := by
  obtain ⟨b, rest, rfl⟩ := List.exists_cons_of_ne_nil hc.ne_nil
  have hhead : head (b :: rest) = .rune (rest.length + 1) := hc
  simp only [head] at hhead
  split at hhead
  · next hlead =>
      have hb := lead_ascii hlead
      simp only [UInt8.lt_iff_toNat_lt, UInt8.reduceToNat] at hb
      rw [Head.rune.injEq] at hhead
      obtain rfl := List.length_eq_zero_iff.mp (by omega : rest.length = 0)
      show encodeRune b.toNat = [b] ∧ IsScalar b.toNat
      refine ⟨?_, by unfold IsScalar; omega⟩
      rw [encodeRune, if_pos hb, UInt8.ofNat_toNat]
  · exact absurd hhead (by simp)
  · next n lo hi hlead =>
      obtain ⟨hlength, -, -⟩ := tail_rune hhead
      rcases lead_multi_range hlead with ⟨rfl, hb, hlo, hhi⟩ |
        ⟨rfl, hb, hlo, hhi, hlow, hsurrogate⟩ | ⟨rfl, hb, hlo, hhi, hlow, hhigh⟩
      · obtain ⟨c, rfl⟩ := List.length_eq_one_iff.mp (by omega : rest.length = 1)
        obtain ⟨hc, -⟩ := tail_between hhead
        exact encode_decode_two hb ⟨UInt8.le_trans hlo hc.1, UInt8.le_trans hc.2 hhi⟩
      · obtain ⟨c, d, rfl⟩ := List.length_eq_two.mp (by omega : rest.length = 2)
        obtain ⟨hc, htail⟩ := tail_between hhead
        obtain ⟨hd, -⟩ := tail_between htail
        exact encode_decode_three hb ⟨UInt8.le_trans hlo hc.1, UInt8.le_trans hc.2 hhi⟩ hd
          (fun h => UInt8.le_trans (hlow h) hc.1) (fun h => UInt8.le_trans hc.2 (hsurrogate h))
      · obtain ⟨c, d, e, rfl⟩ := List.length_eq_three.mp (by omega : rest.length = 3)
        obtain ⟨hc, htail⟩ := tail_between hhead
        obtain ⟨hd, htail⟩ := tail_between htail
        obtain ⟨he, -⟩ := tail_between htail
        exact encode_decode_four hb ⟨UInt8.le_trans hlo hc.1, UInt8.le_trans hc.2 hhi⟩ hd he
          (fun h => UInt8.le_trans (hlow h) hc.1) (fun h => UInt8.le_trans hc.2 (hhigh h))

/-- The code point of an encoding is the one encoded. -/
theorem decode_encodeRune {r : Nat} (h : IsScalar r) : decodeRune (encodeRune r) = r := by
  have hlast := h.2
  unfold encodeRune
  split
  · show (UInt8.ofNat r).toNat = r
    rw [UInt8.toNat_ofNat']
    omega
  split
  · simp only [decodeRune_two, UInt8.toNat_ofNat']
    omega
  split
  · simp only [decodeRune_three, UInt8.toNat_ofNat']
    omega
  · simp only [decodeRune_four, UInt8.toNat_ofNat']
    omega

/-! ## Escapes -/

/-- `\u` and the four hexadecimal digits of a number below 0x10000. -/
def escapeCode (n : Nat) : List UInt8 :=
  [0x5C, 0x75, hexDigit (.ofNat (n / 0x1000)), hexDigit (.ofNat (n / 0x100 % 0x10)),
    hexDigit (.ofNat (n / 0x10 % 0x10)), hexDigit (.ofNat (n % 0x10))]

def escapeRune (r : Nat) : List UInt8 :=
  if r = 0x22 ∨ r = 0x5C then [0x5C, .ofNat r]
  else if r = 0x0A then [0x5C, 0x6E]
  else if r = 0x0D then [0x5C, 0x72]
  else if r = 0x09 then [0x5C, 0x74]
  else if r = 0x0C then [0x5C, 0x66]
  else if r = 0x08 then [0x5C, 0x62]
  else if 0x20 ≤ r ∧ r ≤ 0x7E then [.ofNat r]
  else if r < 0x10000 then escapeCode r
  else escapeCode (0xD800 + (r - 0x10000) / 0x400) ++ escapeCode (0xDC00 + (r - 0x10000) % 0x400)

/-- Each character escaped, and each stray byte as U+FFFD. -/
def asciiEscape (data : List UInt8) : List UInt8 :=
  (pieces data).flatMap fun u => escapeRune (decodeRune u.sanitized)

def quoteAscii (data : List UInt8) : List UInt8 := 0x22 :: (asciiEscape data ++ [0x22])

theorem hexDigit_facts {d : Nat} (hd : d < 16) :
    hexValue (hexDigit (.ofNat d)) = some d ∧ hexDigit (.ofNat d) ≠ 0x22 ∧
      hexDigit (.ofNat d) ≠ 0x5C ∧ 0x20 ≤ hexDigit (.ofNat d) ∧ hexDigit (.ofNat d) ≤ 0x7E := by
  have hall : ∀ d < 16, hexValue (hexDigit (.ofNat d)) = some d ∧ hexDigit (.ofNat d) ≠ 0x22 ∧
      hexDigit (.ofNat d) ≠ 0x5C ∧ 0x20 ≤ hexDigit (.ofNat d) ∧ hexDigit (.ofNat d) ≤ 0x7E := by
    decide
  exact hall d hd

/-- Four hexadecimal digits hold any code below 2^16. -/
theorem hexQuad_escapeCode {n : Nat} (hn : n < 0x10000) :
    hexQuad (hexDigit (.ofNat (n / 0x1000))) (hexDigit (.ofNat (n / 0x100 % 0x10)))
      (hexDigit (.ofNat (n / 0x10 % 0x10))) (hexDigit (.ofNat (n % 0x10))) = some n := by
  rw [hexQuad, (hexDigit_facts (by omega)).1, (hexDigit_facts (by omega)).1,
    (hexDigit_facts (by omega)).1, (hexDigit_facts (by omega)).1, Option.some.injEq]
  omega

/-- A pair of surrogates stands for one character. -/
theorem unescape_pair {hi lo : Nat} {r : Nat} (hhi : hi < 0x10000) (hlo : lo < 0x10000)
    (hr : surrogates hi lo = some r) (rest : List UInt8) :
    unescape (escapeCode hi ++ escapeCode lo ++ rest) = (unescape rest).map
      (encodeRune r ++ ·) := by
  have hsurrogate : ¬(hi < 0xD800 ∨ 0xE000 ≤ hi) := by
    rw [surrogates] at hr
    split at hr
    · omega
    · cases hr
  simp only [escapeCode, List.cons_append, List.nil_append]
  rw [unescape.eq_def]
  simp only [if_true, hexQuad_escapeCode hhi, hexQuad_escapeCode hlo, if_neg hsurrogate,
    Option.bind_some, hr]

/-- An escaped character is read back. -/
theorem unescape_escapeRune {r : Nat} (hr : IsScalar r) (rest : List UInt8) :
    unescape (escapeRune r ++ rest) = (unescape rest).map (encodeRune r ++ ·) := by
  obtain ⟨hscalar, hbound⟩ := hr
  unfold escapeRune
  split_ifs with h₁ h₂ h₃ h₄ h₅ h₆ h₇ h₈
  · rcases h₁ with rfl | rfl <;> exact unescape_simple (by decide) (by decide) rest
  · subst h₂; exact unescape_simple (by decide) (by decide) rest
  · subst h₃; exact unescape_simple (by decide) (by decide) rest
  · subst h₄; exact unescape_simple (by decide) (by decide) rest
  · subst h₅; exact unescape_simple (by decide) (by decide) rest
  · subst h₆; exact unescape_simple (by decide) (by decide) rest
  · have hplain : ∀ x : UInt8, r ≠ x.toNat → UInt8.ofNat r ≠ x := by
      rintro x hx rfl
      exact hx (by rw [UInt8.toNat_ofNat']; omega)
    rw [encodeRune, if_pos (by omega), List.singleton_append]
    refine (unescape_plain (hplain _ fun h => h₁ (.inr h)) (hplain _ fun h => h₁ (.inl h)) ?_
      rest).trans rfl
    simp only [UInt8.lt_iff_toNat_lt, UInt8.toNat_ofNat', UInt8.reduceToNat]
    omega
  · exact unescape_hex (hexQuad_escapeCode h₈) hscalar rest
  · refine unescape_pair (by omega) (by omega) ?_ rest
    rw [surrogates, if_pos (by omega), Option.some.injEq]
    omega

/-- What the sanitizer leaves of a piece is one scalar value. -/
theorem isScalar_sanitized {u : Piece} (hu : ∀ c, u = .char c → IsRune c) :
    encodeRune (decodeRune u.sanitized) = u.sanitized ∧ IsScalar (decodeRune u.sanitized) := by
  cases u with
  | char c => exact encode_decodeRune (hu c rfl)
  | bad b => exact encode_decodeRune (c := replacement) (by decide)

/-- An escaped text is read back with its bad bytes replaced. -/
theorem unescape_asciiEscape (data : List UInt8) :
    unescape (asciiEscape data) = some (sanitize data) := by
  have key : ∀ us : List Piece, (∀ c, .char c ∈ us → IsRune c) →
      unescape (us.flatMap fun u => escapeRune (decodeRune u.sanitized)) =
        some (us.flatMap Piece.sanitized) := by
    intro us hus
    induction us with
    | nil => simp [unescape]
    | cons u us ih =>
        obtain ⟨hencode, hscalar⟩ :=
          isScalar_sanitized fun c (hc : u = .char c) => hus c (by simp [hc])
        rw [List.flatMap_cons, List.flatMap_cons, unescape_escapeRune hscalar, hencode,
          ih fun c hc => hus c (by simp [hc])]
        rfl
  exact key _ fun c hc => pieces_isRune hc

/-! ## What a literal is made of -/

/-- The characters from the space to the tilde. -/
def isPrintable (b : UInt8) : Bool := 0x20 ≤ b && b ≤ 0x7E

theorem escapeCode_facts {n : Nat} (hn : n < 0x10000) :
    Closed (escapeCode n) ∧ (escapeCode n).all isPrintable = true := by
  have h₁ := hexDigit_facts (by omega : n / 0x1000 < 16)
  have h₂ := hexDigit_facts (by omega : n / 0x100 % 0x10 < 16)
  have h₃ := hexDigit_facts (by omega : n / 0x10 % 0x10 < 16)
  have h₄ := hexDigit_facts (by omega : n % 0x10 < 16)
  refine ⟨(closed_escaped 0x75).append (closed_plain fun b hb => ?_), ?_⟩
  · simp only [List.mem_cons, List.not_mem_nil, or_false] at hb
    rcases hb with rfl | rfl | rfl | rfl
    · exact ⟨h₁.2.1, h₁.2.2.1⟩
    · exact ⟨h₂.2.1, h₂.2.2.1⟩
    · exact ⟨h₃.2.1, h₃.2.2.1⟩
    · exact ⟨h₄.2.1, h₄.2.2.1⟩
  · simp only [escapeCode, isPrintable, List.all_cons, List.all_nil, h₁.2.2.2, h₂.2.2.2,
      h₃.2.2.2, h₄.2.2.2, decide_true, Bool.and_self, Bool.and_true]
    decide

theorem escapeRune_facts {r : Nat} (hr : r < 0x110000) :
    Closed (escapeRune r) ∧ (escapeRune r).all isPrintable = true := by
  unfold escapeRune
  split_ifs with h₁ h₂ h₃ h₄ h₅ h₆ h₇ h₈
  · exact ⟨closed_escaped _, by rcases h₁ with rfl | rfl <;> decide⟩
  · exact ⟨closed_escaped _, by decide⟩
  · exact ⟨closed_escaped _, by decide⟩
  · exact ⟨closed_escaped _, by decide⟩
  · exact ⟨closed_escaped _, by decide⟩
  · exact ⟨closed_escaped _, by decide⟩
  · have hnat : (UInt8.ofNat r).toNat = r := by rw [UInt8.toNat_ofNat']; omega
    have hne : ∀ x : UInt8, r ≠ x.toNat → UInt8.ofNat r ≠ x := by
      rintro x hx rfl
      exact hx hnat.symm
    refine ⟨closed_byte (hne _ fun h => h₁ (.inl h)) (hne _ fun h => h₁ (.inr h)), ?_⟩
    simpa [isPrintable, UInt8.le_iff_toNat_le, hnat] using h₇
  · exact escapeCode_facts h₈
  · obtain ⟨hhi, hhi'⟩ := escapeCode_facts (by omega : 0xD800 + (r - 0x10000) / 0x400 < 0x10000)
    obtain ⟨hlo, hlo'⟩ := escapeCode_facts (by omega : 0xDC00 + (r - 0x10000) % 0x400 < 0x10000)
    exact ⟨hhi.append hlo, by rw [List.all_append, hhi', hlo']; rfl⟩

theorem asciiEscape_facts (data : List UInt8) :
    Closed (asciiEscape data) ∧ (asciiEscape data).all isPrintable = true := by
  have hfacts : ∀ u ∈ pieces data, Closed (escapeRune (decodeRune u.sanitized)) ∧
      (escapeRune (decodeRune u.sanitized)).all isPrintable = true := fun u hu =>
    escapeRune_facts (isScalar_sanitized fun c hc => pieces_isRune (hc ▸ hu)).2.2
  refine ⟨closed_flatMap fun u hu => (hfacts u hu).1, ?_⟩
  rw [asciiEscape, List.all_flatMap, List.all_eq_true]
  exact fun u hu => (hfacts u hu).2

/-- A quoted text is printable ASCII. -/
theorem quoteAscii_printable (data : List UInt8) : (quoteAscii data).all isPrintable = true := by
  simp only [quoteAscii, List.all_cons, List.all_append, (asciiEscape_facts data).2, List.all_nil]
  decide

/-! ## Values -/

mutual

def dumps : Value → List UInt8
  | .null => [0x6E, 0x75, 0x6C, 0x6C]
  | .bool true => [0x74, 0x72, 0x75, 0x65]
  | .bool false => [0x66, 0x61, 0x6C, 0x73, 0x65]
  | .number text => text
  | .string s => quoteAscii s
  | .array elements => 0x5B :: ((commaElements elements).drop 2 ++ [0x5D])
  | .object members => 0x7B :: ((commaMembers members).drop 2 ++ [0x7D])

/-- Each element with a comma and a space before it. -/
def commaElements : List Value → List UInt8
  | [] => []
  | v :: vs => 0x2C :: 0x20 :: (dumps v ++ commaElements vs)

def commaMembers : List (List UInt8 × Value) → List UInt8
  | [] => []
  | m :: ms => 0x2C :: 0x20 :: (dumpsMember m ++ commaMembers ms)

def dumpsMember : List UInt8 × Value → List UInt8
  | (key, v) => quoteAscii key ++ 0x3A :: 0x20 :: dumps v

end

/-- A number as it is printed. -/
def isNumberText (text : List UInt8) : Bool :=
  isNumber text && text.all isNumberByte &&
    text.head?.any fun b => isDigit b || b == 0x2D

mutual

/-- The texts are of characters, and the numbers are numbers. -/
def wellFormed : Value → Bool
  | .null => true
  | .bool _ => true
  | .number text => isNumberText text
  | .string s => Utf8.valid s
  | .array elements => wellFormedElements elements
  | .object members => wellFormedMembers members

def wellFormedElements : List Value → Bool
  | [] => true
  | v :: vs => wellFormed v && wellFormedElements vs

def wellFormedMembers : List (List UInt8 × Value) → Bool
  | [] => true
  | m :: ms => wellFormedMember m && wellFormedMembers ms

def wellFormedMember : List UInt8 × Value → Bool
  | (key, v) => Utf8.valid key && wellFormed v

end

/-- A quoted text is read as the string it quotes. -/
theorem reads_quoteAscii {s : List UInt8} (hs : Utf8.valid s = true) :
    Reads (quoteAscii s) (.string s) :=
  reads_string (asciiEscape_facts s).1 (by rw [unescape_asciiEscape, sanitize_of_valid hs])

/-- The text of a number is read as that number. -/
theorem reads_isNumberText {text : List UInt8} (h : isNumberText text = true) :
    Reads text (.number text) := by
  simp only [isNumberText, Bool.and_eq_true] at h
  cases text with
  | nil => exact absurd h.2 (by simp)
  | cons b text =>
      refine reads_number (List.all_eq_true.mp h.1.2) ?_ h.1.1
      simpa using h.2

/-- What a printed value starts with. -/
theorem dumps_cons {v : Value} (hv : wellFormed v = true) :
    ∃ b rest, dumps v = b :: rest ∧ isSpace b = false ∧ b ≠ 0x5D := by
  cases v with
  | null => exact ⟨_, _, by rw [dumps], by decide, by decide⟩
  | bool b => cases b <;> exact ⟨_, _, by rw [dumps], by decide, by decide⟩
  | string s => exact ⟨_, _, by rw [dumps, quoteAscii], by decide, by decide⟩
  | array elements => exact ⟨_, _, by rw [dumps], by decide, by decide⟩
  | object members => exact ⟨_, _, by rw [dumps], by decide, by decide⟩
  | number text =>
      rw [wellFormed, isNumberText, Bool.and_eq_true] at hv
      cases text with
      | nil => exact absurd hv.2 (by simp)
      | cons b text =>
          refine ⟨b, text, by rw [dumps], ?_⟩
          have hb : isDigit b = true ∨ b = 0x2D := by simpa using hv.2
          rcases hb with hb | rfl
          · have hne : ∀ x : UInt8, isDigit x = false → b ≠ x := by
              rintro x hx rfl
              rw [hb] at hx
              cases hx
            have hspace := fun x hx => beq_eq_false_iff_ne.mpr (hne x hx)
            refine ⟨?_, hne _ (by decide)⟩
            rw [isSpace, hspace _ (by decide), hspace _ (by decide), hspace _ (by decide),
              hspace _ (by decide)]
            rfl
          · decide

theorem skipSpace_space (input : List UInt8) : skipSpace (0x20 :: input) = skipSpace input := rfl

theorem expect_space (b : UInt8) (input : List UInt8) :
    expect b (0x20 :: input) = expect b input := rfl

theorem parseValue_space (fuel : Nat) (input : List UInt8) :
    parseValue fuel (0x20 :: input) = parseValue fuel input := by
  cases fuel with
  | zero => simp only [parseValue]
  | succ fuel => rw [parseValue, parseValue, skipSpace_space]

theorem parseElements_space (fuel : Nat) (input : List UInt8) :
    parseElements fuel (0x20 :: input) = parseElements fuel input := by
  cases fuel with
  | zero => simp only [parseElements]
  | succ fuel => rw [parseElements, parseElements, parseValue_space]

theorem parseMembers_space (fuel : Nat) (input : List UInt8) :
    parseMembers fuel (0x20 :: input) = parseMembers fuel input := by
  cases fuel with
  | zero => simp only [parseMembers]
  | succ fuel => rw [parseMembers, parseMembers, expect_space]

/-- A byte that belongs to no number ends one. -/
theorem stops_cons {b : UInt8} (hb : isNumberByte b = false) (rest : List UInt8) :
    Stops (b :: rest) := by
  rintro c ⟨⟩
  exact hb

theorem stops_commaElements (vs : List Value) (rest : List UInt8) :
    Stops (commaElements vs ++ 0x5D :: rest) := by
  cases vs with
  | nil => rw [commaElements]; exact stops_cons (by decide) _
  | cons v vs => rw [commaElements]; exact stops_cons (by decide) _

theorem stops_commaMembers (ms : List (List UInt8 × Value)) (rest : List UInt8) :
    Stops (commaMembers ms ++ 0x7D :: rest) := by
  cases ms with
  | nil => rw [commaMembers]; exact stops_cons (by decide) _
  | cons m ms => rw [commaMembers]; exact stops_cons (by decide) _

/-- A comma or the end after an element. -/
theorem expect_comma (rest : List UInt8) : expect 0x2C (0x2C :: rest) = some rest := rfl

/-- A closing bracket is no comma, and is found where it is expected. -/
theorem expect_end {close : UInt8} (hspace : isSpace close = false) (hne : close ≠ 0x2C)
    (rest : List UInt8) :
    expect 0x2C (close :: rest) = none ∧ expect close (close :: rest) = some rest :=
  ⟨expect_other hspace hne rest, expect_self hspace rest⟩

theorem dumpsMember_append (m : List UInt8 × Value) (rest : List UInt8) :
    dumpsMember m ++ rest =
      0x22 :: (asciiEscape m.1 ++ 0x22 :: (0x3A :: 0x20 :: (dumps m.2 ++ rest))) := by
  obtain ⟨key, v⟩ := m
  simp [dumpsMember, quoteAscii]

/-- The key of a member, and its value if that is read as itself. -/
theorem parseMembers_dumpsMember {m : List UInt8 × Value} {fuel : Nat} {rest : List UInt8}
    (hkey : Utf8.valid m.1 = true)
    (hvalue : parseValue fuel (dumps m.2 ++ rest) = some (m.2, rest)) :
    parseMembers (fuel + 1) (dumpsMember m ++ rest) =
      match expect 0x2C rest with
      | some rest => (parseMembers fuel rest).map fun p => (m :: p.1, p.2)
      | none => (expect 0x7D rest).map ([m], ·) := by
  have hread := readString_closed (asciiEscape_facts m.1).1
    (by rw [unescape_asciiEscape, sanitize_of_valid hkey]) (0x3A :: 0x20 :: (dumps m.2 ++ rest))
  rw [dumpsMember_append, parseMembers, expect_self (by decide), Option.bind_some, hread,
    Option.bind_some, expect_self (by decide), Option.bind_some, parseValue_space, hvalue]
  rfl

/-- Where one value is read the elements are read, whatever follows. -/
theorem parseElements_dumps {v : Value} {fuel : Nat} {rest : List UInt8}
    (hvalue : parseValue fuel (dumps v ++ rest) = some (v, rest)) :
    parseElements (fuel + 1) (dumps v ++ rest) =
      match expect 0x2C rest with
      | some rest => (parseElements fuel rest).map fun p => (v :: p.1, p.2)
      | none => (expect 0x5D rest).map ([v], ·) := by
  rw [parseElements, hvalue]
  rfl

/-- An array that is not empty is read element by element. -/
theorem parseValue_array {input : List UInt8} (h : expect 0x5D input = none) (fuel : Nat) :
    parseValue (fuel + 1) (0x5B :: input) =
      (parseElements fuel input).map fun p => (.array p.1, p.2) := by
  rw [parseValue, skipSpace_cons (by decide)]
  simp only [h, if_true]
  rfl

/-- An object that is not empty is read member by member. -/
theorem parseValue_object {input : List UInt8} (h : expect 0x7D input = none) (fuel : Nat) :
    parseValue (fuel + 1) (0x7B :: input) =
      (parseMembers fuel input).map fun p => (.object p.1, p.2) := by
  rw [parseValue, skipSpace_cons (by decide)]
  simp only [h, if_true]

mutual

/-- A printed value is read as itself, whatever may follow it. -/
theorem parseValue_dumps : ∀ (v : Value) {fuel : Nat} {rest : List UInt8},
    wellFormed v = true → (dumps v).length ≤ fuel → Stops rest →
      parseValue fuel (dumps v ++ rest) = some (v, rest)
  | v, 0, rest, hv, hfuel, _ => by
      obtain ⟨b, tail, hcons, -⟩ := dumps_cons hv
      simp [hcons] at hfuel
  | .null, fuel + 1, rest, _, _, _ => by rw [dumps]; rfl
  | .bool true, fuel + 1, rest, _, _, _ => by rw [dumps]; rfl
  | .bool false, fuel + 1, rest, _, _, _ => by rw [dumps]; rfl
  | .number text, fuel + 1, rest, hv, _, hrest => by
      rw [dumps]
      exact reads_isNumberText (by rwa [wellFormed] at hv) fuel rest hrest
  | .string s, fuel + 1, rest, hv, _, hrest => by
      rw [dumps]
      exact reads_quoteAscii (by rwa [wellFormed] at hv) fuel rest hrest
  | .array [], fuel + 1, rest, _, _, _ => by rw [dumps, commaElements]; rfl
  | .array (v :: vs), fuel + 1, rest, hv, hfuel, _ => by
      rw [wellFormed, wellFormedElements, Bool.and_eq_true] at hv
      rw [dumps, commaElements] at hfuel ⊢
      simp only [List.drop_succ_cons, List.drop_zero, List.length_cons, List.length_append,
        List.length_nil] at hfuel
      obtain ⟨k, rfl⟩ : ∃ k, fuel = k + 1 := ⟨fuel - 1, by omega⟩
      have hvalue := @parseValue_dumps v k _ hv.1 (by omega) (stops_commaElements vs rest)
      have hmore := @parseElements_commaElements vs v k rest hv.2
        (by omega)
      obtain ⟨b, tail, hcons, hspace, hne⟩ := dumps_cons hv.1
      have hnonempty : expect 0x5D (dumps v ++ (commaElements vs ++ 0x5D :: rest)) = none := by
        rw [hcons]
        exact expect_other hspace hne _
      have htext : (0x5B :: (List.drop 2 (0x2C :: 0x20 :: (dumps v ++ commaElements vs)) ++
          [0x5D])) ++ rest = 0x5B :: (dumps v ++ (commaElements vs ++ 0x5D :: rest)) := by
        simp
      rw [htext, parseValue_array hnonempty, parseElements_dumps hvalue, hmore]
      rfl
  | .object [], fuel + 1, rest, _, _, _ => by rw [dumps, commaMembers]; rfl
  | .object ((key, w) :: ms), fuel + 1, rest, hv, hfuel, _ => by
      rw [wellFormed, wellFormedMembers, wellFormedMember, Bool.and_eq_true,
        Bool.and_eq_true] at hv
      rw [dumps, commaMembers] at hfuel ⊢
      simp only [List.drop_succ_cons, List.drop_zero, List.length_cons, List.length_append,
        List.length_nil, dumpsMember] at hfuel
      obtain ⟨k, rfl⟩ : ∃ k, fuel = k + 1 := ⟨fuel - 1, by omega⟩
      have hvalue := @parseValue_dumps w k _ hv.1.2 (by omega) (stops_commaMembers ms rest)
      have hmore := @parseMembers_commaMembers ms (key, w) k rest hv.2
        (by omega)
      have hnonempty : expect 0x7D (dumpsMember (key, w) ++ (commaMembers ms ++ 0x7D :: rest)) =
          none := by
        rw [dumpsMember_append]
        exact expect_other (by decide) (by decide) _
      have htext : (0x7B :: (List.drop 2 (0x2C :: 0x20 :: (dumpsMember (key, w) ++
          commaMembers ms)) ++ [0x7D])) ++ rest =
            0x7B :: (dumpsMember (key, w) ++ (commaMembers ms ++ 0x7D :: rest)) := by
        simp
      rw [htext, parseValue_object hnonempty, parseMembers_dumpsMember hv.1.1 hvalue, hmore]
      rfl

/-- What follows an element: the others and the closing bracket. -/
theorem parseElements_commaElements : ∀ (vs : List Value) {v : Value} {fuel : Nat}
    {rest : List UInt8}, wellFormedElements vs = true → (commaElements vs).length ≤ fuel →
      (match expect 0x2C (commaElements vs ++ 0x5D :: rest) with
        | some rest => (parseElements fuel rest).map fun p => (v :: p.1, p.2)
        | none => (expect 0x5D (commaElements vs ++ 0x5D :: rest)).map ([v], ·)) =
        some (v :: vs, rest)
  | [], v, fuel, rest, _, _ => by
      obtain ⟨hcomma, hend⟩ := @expect_end 0x5D (by decide) (by decide) rest
      rw [commaElements, List.nil_append, hcomma, hend]
      rfl
  | w :: ws, v, fuel, rest, hws, hfuel => by
      rw [wellFormedElements, Bool.and_eq_true] at hws
      rw [commaElements] at hfuel ⊢
      simp only [List.length_cons, List.length_append] at hfuel
      obtain ⟨k, rfl⟩ : ∃ k, fuel = k + 1 := ⟨fuel - 1, by omega⟩
      have hvalue := @parseValue_dumps w k _ hws.1 (by omega) (stops_commaElements ws rest)
      have hmore := @parseElements_commaElements ws w k rest hws.2
        (by omega)
      rw [List.cons_append, List.cons_append, List.append_assoc, expect_comma]
      simp only [parseElements_space]
      rw [parseElements_dumps hvalue, hmore]
      rfl

/-- What follows a member: the others and the closing brace. -/
theorem parseMembers_commaMembers : ∀ (ms : List (List UInt8 × Value)) {m : List UInt8 × Value}
    {fuel : Nat} {rest : List UInt8}, wellFormedMembers ms = true →
      (commaMembers ms).length ≤ fuel →
      (match expect 0x2C (commaMembers ms ++ 0x7D :: rest) with
        | some rest => (parseMembers fuel rest).map fun p => (m :: p.1, p.2)
        | none => (expect 0x7D (commaMembers ms ++ 0x7D :: rest)).map ([m], ·)) =
        some (m :: ms, rest)
  | [], m, fuel, rest, _, _ => by
      obtain ⟨hcomma, hend⟩ := @expect_end 0x7D (by decide) (by decide) rest
      rw [commaMembers, List.nil_append, hcomma, hend]
      rfl
  | (key, w) :: ms, m, fuel, rest, hms, hfuel => by
      rw [wellFormedMembers, wellFormedMember, Bool.and_eq_true, Bool.and_eq_true] at hms
      rw [commaMembers] at hfuel ⊢
      simp only [List.length_cons, List.length_append, dumpsMember] at hfuel
      obtain ⟨k, rfl⟩ : ∃ k, fuel = k + 1 := ⟨fuel - 1, by omega⟩
      have hvalue := @parseValue_dumps w k _ hms.1.2 (by omega)
        (stops_commaMembers ms rest)
      have hmore := @parseMembers_commaMembers ms (key, w) k rest hms.2
        (by omega)
      rw [List.cons_append, List.cons_append, List.append_assoc, expect_comma]
      simp only [parseMembers_space]
      rw [parseMembers_dumpsMember hms.1.1 hvalue, hmore]
      rfl

end

/-- **What is printed is read back.** -/
theorem parse_dumps {v : Value} (hv : wellFormed v = true) : parse (dumps v) = some v := by
  have hparse := @parseValue_dumps v ((dumps v).length + 1) [] hv (by omega)
    (fun b hb => by cases hb)
  rw [List.append_nil] at hparse
  rw [parse, hparse]
  rfl

/-! ## Natural numbers -/

def natText (n : Nat) : List UInt8 := (Nat.toDigits 10 n).map fun c => UInt8.ofNat c.toNat

/-- A number without sign, point and exponent. -/
def Value.nat? : Value → Option Nat
  | .number text => if text.all isDigit then some (decimalValue text) else none
  | _ => none

theorem digitByte_facts {d : Nat} (hd : d < 10) :
    UInt8.ofNat (Nat.digitChar d).toNat = UInt8.ofNat (0x30 + d) ∧
      isDigit (.ofNat (0x30 + d)) = true ∧ (UInt8.ofNat (0x30 + d)).toNat = 0x30 + d := by
  have hall : ∀ d < 10, UInt8.ofNat (Nat.digitChar d).toNat = UInt8.ofNat (0x30 + d) ∧
      isDigit (.ofNat (0x30 + d)) = true ∧ (UInt8.ofNat (0x30 + d)).toNat = 0x30 + d := by
    decide
  exact hall d hd

/-- A number below ten is one digit. -/
theorem natText_lt {n : Nat} (h : n < 10) : natText n = [UInt8.ofNat (0x30 + n)] := by
  rw [natText, Nat.toDigits_of_lt_base h, List.map_singleton, (digitByte_facts h).1]

/-- A larger number is the digits of its tenth and one digit more. -/
theorem natText_ge {n : Nat} (h : 10 ≤ n) :
    natText n = natText (n / 10) ++ [UInt8.ofNat (0x30 + n % 10)] := by
  rw [natText, Nat.toDigits_of_base_le (by omega) h, List.map_append, List.map_singleton,
    (digitByte_facts (by omega)).1, natText]

/-- One more digit multiplies the value by ten. -/
theorem decimalValue_concat (text : List UInt8) (b : UInt8) :
    decimalValue (text ++ [b]) = 10 * decimalValue text + (b.toNat - 0x30) := by
  rw [decimalValue, List.foldl_append]
  rfl

/-- The digits of a number: they are its value, without a leading zero. -/
theorem natText_facts (n : Nat) :
    (natText n).all isDigit = true ∧ decimalValue (natText n) = n ∧
      ∃ b rest, natText n = b :: rest ∧ (0 < n → b ≠ 0x30) := by
  induction n using Nat.strongRecOn with
  | ind n ih =>
      by_cases h : n < 10
      · obtain ⟨-, hdigit, hnat⟩ := digitByte_facts h
        rw [natText_lt h]
        refine ⟨by rw [List.all_cons, hdigit]; rfl, ?_, _, _, rfl, fun hpos => ?_⟩
        · rw [← List.nil_append [_], decimalValue_concat, hnat]
          show 10 * 0 + _ = n
          omega
        · simp only [ne_eq, ← UInt8.toNat_inj, hnat, UInt8.reduceToNat]
          omega
      · obtain ⟨hall, hvalue, b, rest, hcons, hlead⟩ := ih (n / 10) (by omega)
        obtain ⟨-, hdigit, hnat⟩ := digitByte_facts (by omega : n % 10 < 10)
        rw [natText_ge (by omega), decimalValue_concat, hvalue, hnat]
        refine ⟨by rw [List.all_append, hall, List.all_cons, hdigit]; rfl, by omega, b,
          rest ++ [_], by rw [hcons]; rfl,
          fun _ => hlead (by omega)⟩

/-- A printed number is read back. -/
theorem nat?_natText (n : Nat) : (Value.number (natText n)).nat? = some n := by
  obtain ⟨hall, hvalue, -⟩ := natText_facts n
  rw [Value.nat?, if_pos hall, hvalue]

/-- What is printed for a number is a number of JSON. -/
theorem isNumberText_natText (n : Nat) : isNumberText (natText n) = true := by
  cases n with
  | zero => decide
  | succ n =>
      obtain ⟨hall, -, b, rest, hcons, hlead⟩ := natText_facts (n + 1)
      rw [hcons] at hall ⊢
      have hdigit : isDigit b = true := (Bool.and_eq_true_iff.mp hall).1
      have hbytes : (b :: rest).all isNumberByte = true := by
        rw [List.all_eq_true] at hall ⊢
        intro x hx
        rw [isNumberByte, hall x hx]
        rfl
      have hsign : skipSign [0x2D] (b :: rest) = b :: rest := by
        rw [skipSign, if_neg]
        intro h
        obtain rfl : b = 0x2D := by simpa using h
        exact absurd hdigit (by decide)
      have htake : (b :: rest).takeWhile isDigit = b :: rest := by
        rw [List.takeWhile_eq_self_iff]
        exact List.all_eq_true.mp hall
      have hdrop : (b :: rest).dropWhile isDigit = [] := by
        rw [List.dropWhile_eq_nil_iff]
        exact List.all_eq_true.mp hall
      rw [isNumberText, hbytes, isNumber, hsign, htake]
      simp [skipDigits, htake, hdrop, skipPart, hdigit, hlead n.succ_pos]

/-! ## Integers -/

def intText : Int → List UInt8
  | .ofNat n => natText n
  | .negSucc n => 0x2D :: natText (n + 1)

/-- A number without point and exponent. -/
def Value.integer? : Value → Option Int
  | .number (0x2D :: digits) =>
      if digits.all isDigit then some (-(decimalValue digits : Int)) else none
  | v => v.nat?.map Int.ofNat

/-- The digits of a number do not start with a sign. -/
theorem natText_cons (n : Nat) : ∃ b rest, natText n = b :: rest ∧ isDigit b = true ∧ b ≠ 0x2D := by
  obtain ⟨hall, -, b, rest, hcons, -⟩ := natText_facts n
  rw [hcons] at hall
  have hdigit : isDigit b = true := (Bool.and_eq_true_iff.mp hall).1
  refine ⟨b, rest, hcons, hdigit, ?_⟩
  rintro rfl
  exact absurd hdigit (by decide)

/-- A printed integer is read back, sign included. -/
theorem integer?_intText (n : Int) : (Value.number (intText n)).integer? = some n := by
  cases n with
  | ofNat n =>
      obtain ⟨b, rest, hcons, -, hne⟩ := natText_cons n
      have hnat : (Value.number (natText n)).integer? =
          (Value.number (natText n)).nat?.map Int.ofNat := by
        unfold Value.integer?
        split
        · next digits heq =>
            rw [hcons] at heq
            injection heq with heq
            exact absurd (List.cons.inj heq).1 hne
        · rfl
      rw [intText, hnat, nat?_natText]
      rfl
  | negSucc n =>
      obtain ⟨hall, hvalue, -⟩ := natText_facts (n + 1)
      rw [intText, Value.integer?, if_pos hall, hvalue]
      rfl

/-- What is printed for an integer is a number of JSON. -/
theorem isNumberText_intText (n : Int) : isNumberText (intText n) = true := by
  cases n with
  | ofNat n => exact isNumberText_natText n
  | negSucc n =>
      obtain ⟨b, rest, hcons, -, hne⟩ := natText_cons (n + 1)
      have hplain : skipSign [0x2D] (natText (n + 1)) = natText (n + 1) := by
        rw [hcons, skipSign, if_neg (by simpa using hne)]
      have hsigned : skipSign [0x2D] (0x2D :: natText (n + 1)) = natText (n + 1) := rfl
      have hnumber : isNumber (0x2D :: natText (n + 1)) = isNumber (natText (n + 1)) := by
        rw [isNumber, isNumber, hplain, hsigned]
      have htext := isNumberText_natText (n + 1)
      simp only [isNumberText, Bool.and_eq_true] at htext
      rw [intText, isNumberText, hnumber, htext.1.1, List.all_cons, htext.1.2]
      rfl

/-! ## Texts of code points -/

theorem lead_two {q : Nat} (hlow : 2 ≤ q) (hq : q < 32) :
    lead (UInt8.ofNat (0xC0 + q)) = .multi 1 0x80 0xBF := by
  have hall : ∀ q < 32, 2 ≤ q → lead (UInt8.ofNat (0xC0 + q)) = .multi 1 0x80 0xBF := by decide
  exact hall q hq hlow

theorem lead_three {q : Nat} (hq : q < 16) :
    lead (UInt8.ofNat (0xE0 + q)) =
      .multi 2 (if q = 0 then 0xA0 else 0x80) (if q = 13 then 0x9F else 0xBF) := by
  have hall : ∀ q < 16, lead (UInt8.ofNat (0xE0 + q)) =
      .multi 2 (if q = 0 then 0xA0 else 0x80) (if q = 13 then 0x9F else 0xBF) := by decide
  exact hall q hq

theorem lead_four {q : Nat} (hq : q < 5) :
    lead (UInt8.ofNat (0xF0 + q)) =
      .multi 3 (if q = 0 then 0x90 else 0x80) (if q = 4 then 0x8F else 0xBF) := by
  have hall : ∀ q < 5, lead (UInt8.ofNat (0xF0 + q)) =
      .multi 3 (if q = 0 then 0x90 else 0x80) (if q = 4 then 0x8F else 0xBF) := by decide
  exact hall q hq

theorem tail_ofNat {size n x : Nat} {lo hi : UInt8} {rest : List UInt8} (hx : x < 64)
    (hlo : lo.toNat ≤ 0x80 + x) (hhi : 0x80 + x ≤ hi.toNat) :
    tail size (n + 1) lo hi (.ofNat (0x80 + x) :: rest) = tail (size + 1) n 0x80 0xBF rest := by
  have hbyte : (UInt8.ofNat (0x80 + x)).toNat = 0x80 + x :=
    UInt8.toNat_ofNat_of_lt' (show 0x80 + x < 256 by omega)
  rw [tail, if_pos]
  rw [UInt8.le_iff_toNat_le, UInt8.le_iff_toNat_le, hbyte]
  exact ⟨hlo, hhi⟩

/-- **A code point is encoded as one character.** -/
theorem isRune_encodeRune {r : Nat} (hr : IsScalar r) : IsRune (encodeRune r) := by
  unfold IsScalar at hr
  unfold encodeRune
  split
  · next hsmall =>
      refine isRune_ascii ?_
      rw [UInt8.lt_iff_toNat_lt, UInt8.toNat_ofNat_of_lt' (show r < 256 by omega)]
      exact hsmall
  · split
    · rw [IsRune, head, lead_two (by omega) (by omega)]
      dsimp only
      rw [tail_ofNat (by omega) (by simp) (by simp; omega)]
      rfl
    · split
      · rw [IsRune, head, lead_three (by omega)]
        dsimp only
        rw [tail_ofNat (by omega) (by split <;> simp; omega) (by split <;> simp <;> omega),
          tail_ofNat (by omega) (by simp) (by simp; omega)]
        rfl
      · rw [IsRune, head, lead_four (by omega)]
        dsimp only
        rw [tail_ofNat (by omega) (by split <;> simp; omega) (by split <;> simp <;> omega),
          tail_ofNat (by omega) (by simp) (by simp; omega),
          tail_ofNat (by omega) (by simp) (by simp; omega)]
        rfl

/-- A text in UTF-8. -/
def utf8Text (text : List Char) : List UInt8 := text.flatMap fun c => encodeRune c.toNat

/-- Every character is a Unicode scalar value. -/
theorem isScalar_toNat (c : Char) : IsScalar c.toNat := by
  have hvalid : c.toNat.isValidChar := c.valid
  unfold Nat.isValidChar at hvalid
  unfold IsScalar
  omega

/-- It is the encoding of Lean's strings. -/
theorem encodeRune_toNat (c : Char) : encodeRune c.toNat = String.utf8EncodeChar c := by
  have hscalar := (isScalar_toNat c).2
  have hval : c.val.toNat = c.toNat := rfl
  simp only [encodeRune, String.utf8EncodeChar, hval]
  generalize c.toNat = r at hscalar
  have htails : ∀ n, 128 + n % 64 = n % 64 + 128 := fun n => Nat.add_comm _ _
  rcases Nat.lt_or_ge r 0x80 with hone | hone
  · have hone' : r ≤ 0x7F := by omega
    simp only [hone, hone', if_true]
  have hone₁ : ¬r < 0x80 := by omega
  have hone₂ : ¬r ≤ 0x7F := by omega
  rcases Nat.lt_or_ge r 0x800 with htwo | htwo
  · have htwo' : r ≤ 0x7FF := by omega
    have hlead : 0xC0 + r / 64 = r / 64 % 32 + 192 := by omega
    simp only [hone₁, hone₂, htwo, htwo', hlead, htails, if_true, if_false]
  have htwo₁ : ¬r < 0x800 := by omega
  have htwo₂ : ¬r ≤ 0x7FF := by omega
  rcases Nat.lt_or_ge r 0x10000 with hthree | hthree
  · have hthree' : r ≤ 0xFFFF := by omega
    have hlead : 0xE0 + r / 4096 = r / 4096 % 16 + 224 := by omega
    simp only [hone₁, hone₂, htwo₁, htwo₂, hthree, hthree', hlead, htails, if_true, if_false]
  · have hthree₁ : ¬r < 0x10000 := by omega
    have hthree₂ : ¬r ≤ 0xFFFF := by omega
    have hlead : 0xF0 + r / 262144 = r / 262144 % 8 + 240 := by omega
    simp only [hone₁, hone₂, htwo₁, htwo₂, hthree₁, hthree₂, hlead, htails, if_false]

/-- The encoding of a text is valid UTF-8. -/
theorem valid_utf8Text (text : List Char) : Utf8.valid (utf8Text text) = true := by
  induction text with
  | nil => rfl
  | cons c text ih =>
      rw [utf8Text, List.flatMap_cons, valid_char (isRune_encodeRune (isScalar_toNat c))]
      exact ih

/-! ## One line -/

theorem isNumberByte_printable {b : UInt8} (hb : isNumberByte b = true) : isPrintable b = true := by
  simp only [isNumberByte, isDigit, isPrintable, Bool.or_eq_true, Bool.and_eq_true,
    decide_eq_true_eq, beq_iff_eq] at hb ⊢
  simp only [UInt8.le_iff_toNat_le, ← UInt8.toNat_inj, UInt8.reduceToNat] at hb ⊢
  omega

/-- Printable text between printable delimiters is printable. -/
theorem all_enclosed {first last : UInt8} {text : List UInt8} (h : text.all isPrintable = true)
    (hfirst : isPrintable first = true) (hlast : isPrintable last = true) :
    (first :: (text.drop 2 ++ [last])).all isPrintable = true := by
  have hdrop : (text.drop 2).all isPrintable = true := by
    rw [List.all_eq_true] at h ⊢
    exact fun b hb => h b (List.mem_of_mem_drop hb)
  rw [List.all_cons, List.all_append, hfirst, hdrop, List.all_cons, hlast]
  rfl

mutual

theorem dumps_printable : ∀ {v : Value}, wellFormed v = true → (dumps v).all isPrintable = true
  | .null, _ => by decide
  | .bool true, _ => by decide
  | .bool false, _ => by decide
  | .number text, h => by
      rw [wellFormed, isNumberText, Bool.and_eq_true, Bool.and_eq_true] at h
      rw [dumps, List.all_eq_true]
      exact fun b hb => isNumberByte_printable (List.all_eq_true.mp h.1.2 b hb)
  | .string s, _ => by
      rw [dumps]
      exact quoteAscii_printable s
  | .array elements, h => by
      rw [wellFormed] at h
      rw [dumps]
      exact all_enclosed (commaElements_printable h) (by decide) (by decide)
  | .object members, h => by
      rw [wellFormed] at h
      rw [dumps]
      exact all_enclosed (commaMembers_printable h) (by decide) (by decide)

theorem commaElements_printable : ∀ {vs : List Value}, wellFormedElements vs = true →
    (commaElements vs).all isPrintable = true
  | [], _ => by decide
  | v :: vs, h => by
      rw [wellFormedElements, Bool.and_eq_true] at h
      simp only [commaElements, List.all_cons, List.all_append, dumps_printable h.1,
        commaElements_printable h.2]
      decide

theorem commaMembers_printable : ∀ {ms : List (List UInt8 × Value)},
    wellFormedMembers ms = true → (commaMembers ms).all isPrintable = true
  | [], _ => by decide
  | (key, v) :: ms, h => by
      rw [wellFormedMembers, wellFormedMember, Bool.and_eq_true, Bool.and_eq_true] at h
      simp only [commaMembers, dumpsMember, List.all_cons, List.all_append, dumps_printable h.1.2,
        quoteAscii_printable, commaMembers_printable h.2]
      decide

end

end Bootmux.Lib.Json
