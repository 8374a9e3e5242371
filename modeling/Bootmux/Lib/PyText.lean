/-
Bootmux.Lib.PyText — the text functions of Python that the host tools read
command output with, over lists of characters.

The character classes are those of the Unicode database: `\d` is any
decimal digit, `\s` what `str.isspace` holds of, and `str.splitlines`
breaks at more than the newline. A digit block starts at its zero and
has ten characters, so the zeros are enough.

The white space and the line breaks are those of Python, U+0085 and the
separators included. A `Word` carries the proof that it has neither, so that
columns of words can be printed and split again.
-/
import Mathlib.Data.List.Induction

namespace Bootmux.Lib.PyText

-- A statement about the characters of a text is decided along the text, not
-- over all characters.
attribute [instance (1100)] List.decidableBAll
attribute [instance (1100)] Option.decidableForallMem

/-! ## Character classes -/

/-- The zeros of the decimal digits. -/
def decimalZeros : List Nat :=
  [0x30, 0x660, 0x6f0, 0x7c0, 0x966, 0x9e6, 0xa66, 0xae6, 0xb66, 0xbe6, 0xc66, 0xce6, 0xd66,
    0xde6, 0xe50, 0xed0, 0xf20, 0x1040, 0x1090, 0x17e0, 0x1810, 0x1946, 0x19d0, 0x1a80, 0x1a90,
    0x1b50, 0x1bb0, 0x1c40, 0x1c50, 0xa620, 0xa8d0, 0xa900, 0xa9d0, 0xa9f0, 0xaa50, 0xabf0,
    0xff10, 0x104a0, 0x10d30, 0x11066, 0x110f0, 0x11136, 0x111d0, 0x112f0, 0x11450, 0x114d0,
    0x11650, 0x116c0, 0x11730, 0x118e0, 0x11950, 0x11c50, 0x11d50, 0x11da0, 0x16a60, 0x16ac0,
    0x16b50, 0x1d7ce, 0x1d7d8, 0x1d7e2, 0x1d7ec, 0x1d7f6, 0x1e140, 0x1e2f0, 0x1e950, 0x1fbf0]

/-- `\d`. -/
def isDecimal (c : Char) : Bool := decimalZeros.any fun z => z ≤ c.toNat && c.toNat < z + 10

/-- `\s`. -/
def isSpace (c : Char) : Bool :=
  let n := c.toNat
  (9 ≤ n && n ≤ 13) || (0x1c ≤ n && n ≤ 0x20) || n == 0x85 || n == 0xa0 || n == 0x1680 ||
    (0x2000 ≤ n && n ≤ 0x200a) || n == 0x2028 || n == 0x2029 || n == 0x202f || n == 0x205f ||
    n == 0x3000

def isHexDigit (c : Char) : Bool :=
  ('0' ≤ c && c ≤ '9') || ('a' ≤ c && c ≤ 'f') || ('A' ≤ c && c ≤ 'F')

/-- Where `str.splitlines` ends a line. -/
def isLineBreak (c : Char) : Bool :=
  let n := c.toNat
  (10 ≤ n && n ≤ 13) || (0x1c ≤ n && n ≤ 0x1e) || n == 0x85 || n == 0x2028 || n == 0x2029

/-- Lower case makes nothing but lower case letters. -/
theorem eq_of_toLower {c d : Char} (hd : ¬ (97 ≤ d.toNat ∧ d.toNat ≤ 122))
    (h : c.toLower = d) : c = d := by
  unfold Char.toLower at h
  split at h
  · rename_i hupper
    have hval : (c.val + ('a'.val - 'A'.val)).toNat = d.toNat := congrArg (fun c => c.val.toNat) h
    have hle : 65 ≤ c.val.toNat := UInt32.le_iff_toNat_le.mp hupper.1
    have hge : c.val.toNat ≤ 90 := UInt32.le_iff_toNat_le.mp hupper.2
    rw [UInt32.toNat_add, show ('a'.val - 'A'.val).toNat = 32 from rfl] at hval
    omega
  · exact h

/-- `str.lower`, as far as it gives ASCII letters: beside the capitals the
Kelvin sign and the I with a dot give one. -/
def toLower (text : List Char) : List Char :=
  text.flatMap fun c =>
    if c = '\u212a' then ['k'] else if c = '\u0130' then ['i', '\u0307'] else [c.toLower]

theorem toLower_append (a b : List Char) : toLower (a ++ b) = toLower a ++ toLower b :=
  List.flatMap_append

/-- A character that is no letter stays as it is, and comes from itself alone. -/
theorem mem_of_mem_toLower {c : Char} {text : List Char} (h : c ∈ toLower text)
    (hc : c.toNat < 97) : c ∈ text := by
  obtain ⟨d, hd, hmem⟩ := List.mem_flatMap.mp h
  split at hmem
  · rw [List.mem_singleton.mp hmem] at hc
    exact absurd hc (by decide)
  · split at hmem
    · simp only [List.mem_cons, List.not_mem_nil, or_false] at hmem
      rcases hmem with rfl | rfl
      · exact absurd hc (by decide)
      · exact absurd hc (by decide)
    · rwa [eq_of_toLower (by omega) (List.mem_singleton.mp hmem).symm] at hd

/-! ## Lines and words -/

/-- `str.splitlines`. -/
def splitlines : List Char → List (List Char)
  | [] => []
  | '\r' :: '\n' :: cs => [] :: splitlines cs
  | c :: cs =>
      if isLineBreak c then [] :: splitlines cs
      else
        match splitlines cs with
        | [] => [[c]]
        | line :: lines => (c :: line) :: lines

/-- `str.split()`: the runs between spaces. -/
def split (text : List Char) : List (List Char) := (text.splitOnP isSpace).filter (· ≠ [])

/-- A text without the characters of a class at its ends. -/
def stripOf (p : Char → Bool) (text : List Char) : List Char :=
  ((text.dropWhile p).reverse.dropWhile p).reverse

/-- `str.strip()`. -/
def strip (text : List Char) : List Char := stripOf isSpace text

/-- Stripping takes a part out of the text. -/
theorem strip_isInfix (text : List Char) : strip text <:+: text := by
  have hright : strip text <+: text.dropWhile isSpace := by
    rw [← List.reverse_suffix, strip, stripOf, List.reverse_reverse]
    exact List.dropWhile_suffix isSpace
  exact hright.isInfix.trans (List.dropWhile_suffix isSpace).isInfix

theorem strip_sublist (text : List Char) : (strip text).Sublist text := (strip_isInfix text).sublist

/-- Nothing stripped ends with a blank. -/
theorem getLast?_strip (text : List Char) : ∀ c ∈ (strip text).getLast?, isSpace c = false := by
  intro c hc
  have hnot := List.head?_dropWhile_not isSpace (text.dropWhile isSpace).reverse
  rw [strip, stripOf, List.getLast?_reverse] at hc
  rwa [show ((text.dropWhile isSpace).reverse.dropWhile isSpace).head? = some c from hc] at hnot

/-- Stripping never lengthens. -/
theorem length_strip_le (text : List Char) : (strip text).length ≤ text.length :=
  (strip_sublist text).length_le

theorem dropWhile_isSpace {text : List Char} (h : ∀ c ∈ text.head?, isSpace c = false) :
    text.dropWhile isSpace = text := by
  cases text with
  | nil => rfl
  | cons c text => exact List.dropWhile_cons_of_neg (by simp [h c rfl])

/-- Text without blanks at its ends is left alone. -/
theorem strip_eq_self {text : List Char} (hhead : ∀ c ∈ text.head?, isSpace c = false)
    (hlast : ∀ c ∈ text.getLast?, isSpace c = false) : strip text = text := by
  rw [strip, stripOf, dropWhile_isSpace hhead, dropWhile_isSpace (by rwa [List.head?_reverse]),
    List.reverse_reverse]

/-- `line.split(":", 1)[1].strip()`. -/
def afterColon (line : List Char) : List Char := strip ((line.dropWhile (· != ':')).drop 1)

/-- A value behind its key and colon is read back. -/
theorem afterColon_word {key value : List Char} (hkey : ∀ c ∈ key, c ≠ ':')
    (hvalue : strip value = value) : afterColon (key ++ ':' :: ' ' :: value) = value := by
  have hdrop : (key ++ ':' :: ' ' :: value).dropWhile (· != ':') = ':' :: ' ' :: value := by
    induction key with
    | nil => rfl
    | cons c key ih =>
        rw [List.forall_mem_cons] at hkey
        rw [List.cons_append, List.dropWhile_cons_of_pos (by simpa using hkey.1), ih hkey.2]
  rw [afterColon, hdrop]
  exact hvalue

/-- The value of decimal digits, as `int` reads them. -/
def intOfDecimal (digits : List Char) : Nat :=
  digits.foldl (fun n c =>
    let zero := decimalZeros.find? fun z => z ≤ c.toNat && c.toNat < z + 10
    10 * n + (zero.map (c.toNat - ·)).getD 0) 0

/-- Lines with their newlines. -/
def unlines (lines : List (List Char)) : List Char := lines.flatMap (· ++ ['\n'])

/-- A line is a part of the text, and the first one begins it. -/
theorem splitlines_parts (text : List Char) :
    (∀ line ∈ splitlines text, line <:+: text) ∧
      ∀ line ∈ (splitlines text).head?, line <+: text := by
  fun_induction splitlines text with
  | case1 => simp
  | case2 rest ih =>
      refine ⟨?_, by simp⟩
      rw [List.forall_mem_cons]
      exact ⟨List.nil_infix, fun line hline =>
        (ih.1 line hline).trans ((List.suffix_append ['\r', '\n'] rest).isInfix)⟩
  | case3 c rest hnot hbreak ih =>
      refine ⟨?_, by simp⟩
      rw [List.forall_mem_cons]
      exact ⟨List.nil_infix, fun line hline =>
        (ih.1 line hline).trans (List.suffix_cons c rest).isInfix⟩
  | case4 c rest =>
      have hfirst : [c] <+: c :: rest := ⟨rest, rfl⟩
      simpa using hfirst.isInfix
  | case5 c rest hnot hbreak line lines hlines ih =>
      rw [hlines, List.forall_mem_cons] at ih
      have hfirst : c :: line <+: c :: rest := by simpa using ih.2 line rfl
      refine ⟨?_, by simpa using hfirst⟩
      rw [List.forall_mem_cons]
      exact ⟨hfirst.isInfix, fun other hother =>
        (ih.1.2 other hother).trans (List.suffix_cons c rest).isInfix⟩

/-- A line without breaks is split off whole. -/
theorem splitlines_line {line : List Char} (h : ∀ c ∈ line, isLineBreak c = false)
    (rest : List Char) : splitlines (line ++ '\n' :: rest) = line :: splitlines rest := by
  induction line with
  | nil => rfl
  | cons c line ih =>
      rw [List.forall_mem_cons] at h
      have hc : c ≠ '\r' := by
        rintro rfl
        exact absurd h.1 (by decide)
      rw [List.cons_append, splitlines]
      · simp [h.1, ih h.2]
      · rintro rest' rfl
        exact absurd rfl hc

/-- Lines joined with newlines are split again. -/
theorem splitlines_unlines {lines : List (List Char)}
    (h : ∀ line ∈ lines, ∀ c ∈ line, isLineBreak c = false) :
    splitlines (unlines lines) = lines := by
  induction lines with
  | nil => rfl
  | cons line lines ih =>
      rw [List.forall_mem_cons] at h
      rw [unlines, List.flatMap_cons, List.append_assoc, List.singleton_append,
        splitlines_line h.1, ← unlines, ih h.2]

/-- A line break is a blank. -/
theorem isSpace_of_isLineBreak {c : Char} (h : isLineBreak c = true) : isSpace c = true := by
  simp only [isLineBreak, isSpace, Bool.or_eq_true, Bool.and_eq_true, decide_eq_true_eq,
    beq_iff_eq] at h ⊢
  omega

/-! ## Words -/

/-- A text that `split` keeps whole. -/
structure Word where
  text : List Char
  ne_nil : text ≠ []
  noSpace : ∀ c ∈ text, isSpace c = false
  deriving DecidableEq

/-- A word and the spaces up to the next column. -/
def column (word : Word) (pad : Nat) : List Char := word.text ++ List.replicate (pad + 1) ' '

theorem split_spaces (n : Nat) (rest : List Char) :
    split (List.replicate n ' ' ++ rest) = split rest := by
  induction n with
  | zero => rfl
  | succ n ih =>
      rw [← ih, List.replicate_succ, List.cons_append, ← List.nil_append (' ' :: _), split,
        List.splitOnP_append_cons_of_forall_mem (by simp) ' ' (by decide)]
      simp [split]

/-- A padded column is read as its word. -/
theorem split_column (word : Word) (pad : Nat) (rest : List Char) :
    split (column word pad ++ rest) = word.text :: split rest := by
  rw [column, List.append_assoc, List.replicate_succ, List.cons_append, split,
    List.splitOnP_append_cons_of_forall_mem word.noSpace ' ' (by decide),
    List.filter_cons_of_pos (by simp [word.ne_nil]), ← split, split_spaces]

/-- A word is one column. -/
theorem split_word (word : Word) : split word.text = [word.text] := by
  simp [split, List.splitOnP_eq_singleton word.noSpace, word.ne_nil]

/-- A word has no blanks to strip. -/
theorem strip_word (word : Word) : strip word.text = word.text :=
  strip_eq_self (fun c hc => word.noSpace c (List.mem_of_mem_head? hc))
    fun c hc => word.noSpace c (List.mem_of_mem_getLast? hc)

theorem Word.noBreak (word : Word) : ∀ c ∈ word.text, isLineBreak c = false := by
  intro c hc
  by_contra h
  rw [Bool.not_eq_false] at h
  exact absurd (isSpace_of_isLineBreak h) (by simp [word.noSpace c hc])

theorem noBreak_column (word : Word) (pad : Nat) :
    ∀ c ∈ column word pad, isLineBreak c = false := by
  intro c hc
  rcases List.mem_append.mp hc with hc | hc
  · exact word.noBreak c hc
  · rw [List.eq_of_mem_replicate hc]
    decide

/-! ## Anchored patterns -/

/-- What `$` leaves of a text: it also stands before a last newline. -/
def beforeEnd (text : List Char) : List Char :=
  if text.getLast? = some '\n' then text.dropLast else text

/-- `^\d+\.\d+\.\d+\.\d+$`. -/
def isDottedQuad (text : List Char) : Bool :=
  let parts := (beforeEnd text).splitOn '.'
  parts.length == 4 && parts.all fun part => part != [] && part.all isDecimal

theorem mem_beforeEnd {c : Char} {text : List Char} (h : c ∈ text) (hc : c ≠ '\n') :
    c ∈ beforeEnd text := by
  unfold beforeEnd
  split
  · rename_i hlast
    rcases List.eq_nil_or_concat text with rfl | ⟨init, last, rfl⟩
    · simp at h
    · simp only [List.concat_eq_append, List.getLast?_concat, Option.some.injEq] at hlast h
      subst hlast
      simpa [hc] using h
  · exact h

/-- The elements of a joined list are those of its parts and the separator. -/
theorem mem_intercalate {α : Type} {sep a : α} :
    ∀ {parts : List (List α)}, a ∈ [sep].intercalate parts → a = sep ∨ ∃ part ∈ parts, a ∈ part
  | [], h => by simp at h
  | [part], h => .inr ⟨part, by simp, by simpa using h⟩
  | part :: next :: parts, h => by
      rw [List.intercalate, List.intersperse_cons_cons, List.flatten_cons, List.flatten_cons,
        ← List.intercalate] at h
      simp only [List.mem_append, List.mem_singleton] at h
      rcases h with h | h | h
      · exact .inr ⟨part, by simp, h⟩
      · exact .inl h
      · rcases mem_intercalate h with h | ⟨other, hother, h⟩
        · exact .inl h
        · exact .inr ⟨other, List.mem_cons_of_mem _ hother, h⟩

/-- The characters of a dotted quad. -/
theorem mem_of_isDottedQuad {text : List Char} (h : isDottedQuad text = true) {c : Char}
    (hc : c ∈ text) : c = '\n' ∨ c = '.' ∨ isDecimal c = true := by
  by_cases hnewline : c = '\n'
  · exact .inl hnewline
  · have hbody := mem_beforeEnd hc hnewline
    have hparts : ['.'].intercalate ((beforeEnd text).splitOn '.') = beforeEnd text :=
      List.intercalate_splitOn '.'
    rw [← hparts] at hbody
    rcases mem_intercalate hbody with hdot | ⟨part, hpart, hmem⟩
    · exact .inr (.inl hdot)
    · simp only [isDottedQuad, Bool.and_eq_true, List.all_eq_true] at h
      exact .inr (.inr ((h.2 part hpart).2 c hmem))

end Bootmux.Lib.PyText
