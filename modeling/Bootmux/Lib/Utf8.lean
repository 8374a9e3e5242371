/-
Bootmux.Lib.Utf8 — UTF-8 over byte lists: the head of a byte string, its
decomposition into characters and stray bytes, and the two ways of
replacing the stray bytes.

`head` looks at the first character of a byte string. It answers
`rune n` for a character of `n` bytes, `invalid` when no continuation of
the bytes starts with a character, and `short` when the bytes run out
inside one. A decoder that reports an error with width one is
`runeSize`, and the test whether more bytes could help is `fullRune`.

`pieces` cuts a byte string at its heads. Everything else is a reading
of the pieces: `valid` (no stray byte), `toValid` (each run of stray
bytes becomes one replacement character) and `sanitize` (each stray byte
becomes one). Proofs go by `pieces_induction`, along the cuts.
-/
import Mathlib.Data.List.Induction
import Mathlib.Data.UInt

namespace Bootmux.Lib.Utf8

-- A statement about the bytes of a string is decided along the string, not
-- over all bytes.
attribute [instance (1100)] List.decidableBAll

/-- What a first byte announces: the bytes still to come, and the range
of the first of them. -/
inductive Lead where
  | ascii
  | invalid
  | multi (n : Nat) (lo hi : UInt8)
  deriving DecidableEq, Repr

def lead (b : UInt8) : Lead :=
  if b < 0x80 then .ascii
  else if b < 0xC2 then .invalid
  else if b < 0xE0 then .multi 1 0x80 0xBF
  else if b = 0xE0 then .multi 2 0xA0 0xBF
  else if b = 0xED then .multi 2 0x80 0x9F
  else if b < 0xF0 then .multi 2 0x80 0xBF
  else if b = 0xF0 then .multi 3 0x90 0xBF
  else if b < 0xF4 then .multi 3 0x80 0xBF
  else if b = 0xF4 then .multi 3 0x80 0x8F
  else .invalid

/-- A byte that only stands inside a character. -/
def isTail (b : UInt8) : Bool := 0x80 ≤ b && b ≤ 0xBF

inductive Head where
  | rune (n : Nat)
  | invalid
  | short
  deriving DecidableEq, Repr

/-- The `n` bytes after a first byte, the next one between `lo` and `hi`;
`size` bytes are behind. -/
def tail (size : Nat) : Nat → UInt8 → UInt8 → List UInt8 → Head
  | 0, _, _, _ => .rune size
  | _ + 1, _, _, [] => .short
  | n + 1, lo, hi, b :: rest =>
      if lo ≤ b ∧ b ≤ hi then tail (size + 1) n 0x80 0xBF rest else .invalid

def head : List UInt8 → Head
  | [] => .short
  | b :: rest =>
      match lead b with
      | .ascii => .rune 1
      | .invalid => .invalid
      | .multi n lo hi => tail 1 n lo hi rest

/-- The width of the first character, where there is one. -/
def runeSize (data : List UInt8) : Option Nat :=
  match head data with
  | .rune n => some n
  | _ => none

/-- More bytes would not change what the first character is. -/
def fullRune (data : List UInt8) : Bool := head data != .short

/-- One character and nothing else. -/
def IsRune (c : List UInt8) : Prop := head c = .rune c.length

instance (c : List UInt8) : Decidable (IsRune c) := inferInstanceAs (Decidable (_ = _))

inductive Piece where
  | char (bytes : List UInt8)
  | bad (byte : UInt8)
  deriving DecidableEq, Repr

/-- The pieces of a byte string whose first `skip` bytes are behind. -/
def piecesFrom : Nat → List UInt8 → List Piece
  | _, [] => []
  | skip + 1, _ :: rest => piecesFrom skip rest
  | 0, b :: rest =>
      match runeSize (b :: rest) with
      | some n => .char ((b :: rest).take n) :: piecesFrom (n - 1) rest
      | none => .bad b :: piecesFrom 0 rest

def pieces (data : List UInt8) : List Piece := piecesFrom 0 data

def Piece.bytes : Piece → List UInt8
  | .char c => c
  | .bad b => [b]

def Piece.isChar : Piece → Bool
  | .char _ => true
  | .bad _ => false

/-- The encoding of U+FFFD. -/
def replacement : List UInt8 := [0xEF, 0xBF, 0xBD]

/-- The pieces written out, a run of stray bytes as one replacement;
`inRun` when the byte before was a stray one. -/
def render : Bool → List Piece → List UInt8
  | _, [] => []
  | _, .char c :: rest => c ++ render false rest
  | true, .bad _ :: rest => render true rest
  | false, .bad _ :: rest => replacement ++ render true rest

def toValid (data : List UInt8) : List UInt8 := render false (pieces data)

def Piece.sanitized : Piece → List UInt8
  | .char c => c
  | .bad _ => replacement

def sanitize (data : List UInt8) : List UInt8 := (pieces data).flatMap Piece.sanitized

def valid (data : List UInt8) : Bool := (pieces data).all Piece.isChar

/-! ## The head of a byte string -/

/-- More input changes nothing but a character that was cut short. -/
theorem tail_append {size n : Nat} {lo hi : UInt8} {data : List UInt8}
    (h : tail size n lo hi data ≠ .short) (more : List UInt8) :
    tail size n lo hi (data ++ more) = tail size n lo hi data := by
  induction n generalizing size lo hi data with
  | zero => rfl
  | succ n ih =>
      cases data with
      | nil => exact absurd rfl h
      | cons b rest =>
          simp only [tail, List.cons_append] at h ⊢
          split
          · rename_i hb
            rw [if_pos hb] at h
            exact ih h
          · rfl

theorem head_append {data : List UInt8} (h : head data ≠ .short) (more : List UInt8) :
    head (data ++ more) = head data := by
  cases data with
  | nil => exact absurd rfl h
  | cons b rest =>
      simp only [head, List.cons_append] at h ⊢
      split
      · rfl
      · rfl
      · rename_i n lo hi hl
        rw [hl] at h
        exact tail_append h more

/-- A whole character is whole with anything behind it. -/
theorem tail_rune {size n k : Nat} {lo hi : UInt8} {data : List UInt8}
    (h : tail size n lo hi data = .rune k) :
    k = size + n ∧ n ≤ data.length ∧
      ∀ more, tail size n lo hi (data.take n ++ more) = .rune k := by
  induction n generalizing size lo hi data with
  | zero =>
      simp only [tail, Head.rune.injEq] at h
      refine ⟨h.symm, Nat.zero_le _, fun more => ?_⟩
      rw [← h]; rfl
  | succ n ih =>
      cases data with
      | nil => simp [tail] at h
      | cons b rest =>
          simp only [tail] at h
          split at h
          · rename_i hb
            obtain ⟨hk, hn, hmore⟩ := ih h
            refine ⟨by omega, by simpa using hn, fun more => ?_⟩
            simp only [List.take_succ_cons, List.cons_append, tail]
            rw [if_pos hb]
            exact hmore more
          · exact absurd h (by simp)

/-- A character is decided by its own bytes. -/
theorem head_rune {data : List UInt8} {k : Nat} (h : head data = .rune k) :
    0 < k ∧ k ≤ data.length ∧ IsRune (data.take k) := by
  cases data with
  | nil => simp [head] at h
  | cons b rest =>
      simp only [head] at h
      split at h
      · rename_i hl
        obtain rfl : 1 = k := by simpa using h
        refine ⟨Nat.one_pos, by simp, ?_⟩
        simp [IsRune, head, hl]
      · exact absurd h (by simp)
      · rename_i n lo hi hl
        obtain ⟨rfl, hn, hmore⟩ := tail_rune h
        refine ⟨by omega, by simp; omega, ?_⟩
        have htake : (b :: rest).take (1 + n) = b :: rest.take n := by
          rw [Nat.add_comm]; rfl
        rw [htake]
        show head (b :: rest.take n) = .rune (b :: rest.take n).length
        simp only [head, hl, List.length_cons, List.length_take, Nat.min_eq_left hn]
        rw [Nat.add_comm n 1]
        simpa using hmore []

theorem IsRune.ne_nil {c : List UInt8} (h : IsRune c) : c ≠ [] := by
  rintro rfl
  exact absurd h (by decide)

theorem IsRune.length_pos {c : List UInt8} (h : IsRune c) : 0 < c.length :=
  List.length_pos_iff.mpr h.ne_nil

theorem IsRune.head_append {c : List UInt8} (h : IsRune c) (rest : List UInt8) :
    head (c ++ rest) = .rune c.length := by
  rw [Utf8.head_append (by rw [h]; simp), h]

/-- A character is decoded whole, whatever follows. -/
theorem IsRune.runeSize {c : List UInt8} (h : IsRune c) (rest : List UInt8) :
    runeSize (c ++ rest) = some c.length := by
  simp [Utf8.runeSize, h.head_append rest]

/-- What is decoded is a character at the front. -/
theorem runeSize_eq_some {data : List UInt8} {k : Nat} (h : runeSize data = some k) :
    ∃ c rest, data = c ++ rest ∧ IsRune c ∧ c.length = k := by
  have hh : head data = .rune k := by
    simp only [runeSize] at h
    split at h
    · simp_all
    · exact absurd h (by simp)
  obtain ⟨-, hle, hrune⟩ := head_rune hh
  exact ⟨data.take k, data.drop k, (List.take_append_drop k data).symm, hrune, by simpa using hle⟩

/-- The bytes that stand first in a character, or alone. -/
def leads (data : List UInt8) : Nat := data.countP fun b => !isTail b

/-- The ranges a first byte announces. -/
theorem lead_multi {b lo hi : UInt8} {n : Nat} (h : lead b = .multi n lo hi) :
    0 < n ∧ n ≤ 3 ∧ 0x80 ≤ lo ∧ hi ≤ 0xBF ∧ 0xBF < b := by
  unfold lead at h
  repeat' split at h
  all_goals
    first
    | obtain ⟨rfl, rfl, rfl⟩ := Lead.multi.inj h
      refine ⟨by decide, by decide, by decide, by decide, ?_⟩
      simp only [UInt8.lt_iff_toNat_lt, UInt8.reduceToNat, ← UInt8.toNat_inj] at *
      omega
    | exact absurd h (by simp)

/-- A character that is cut short holds continuation bytes only. -/
theorem tail_short {size n : Nat} {lo hi : UInt8} {data : List UInt8}
    (hlo : 0x80 ≤ lo) (hhi : hi ≤ 0xBF) (h : tail size n lo hi data ≠ .invalid) :
    ∀ b ∈ data.take n, isTail b = true := by
  induction n generalizing size lo hi data with
  | zero => simp
  | succ n ih =>
      cases data with
      | nil => simp
      | cons b rest =>
          simp only [tail] at h
          split at h
          · rename_i hb
            intro x hx
            rw [List.take_succ_cons, List.mem_cons] at hx
            rcases hx with rfl | hx
            · simp only [isTail, Bool.and_eq_true, decide_eq_true_eq]
              exact ⟨UInt8.le_trans hlo hb.1, UInt8.le_trans hb.2 hhi⟩
            · exact ih (by decide) (by decide) h x hx
          · exact absurd rfl h

/-- A character is cut short only where the input ends. -/
theorem tail_short_length {size n : Nat} {lo hi : UInt8} {data : List UInt8}
    (h : tail size n lo hi data = .short) : data.length < n := by
  induction n generalizing size lo hi data with
  | zero => simp [tail] at h
  | succ n ih =>
      cases data with
      | nil => simp
      | cons b rest =>
          simp only [tail] at h
          split at h
          · have := ih h
            simp only [List.length_cons]
            omega
          · exact absurd h (by simp)

/-- Bytes that run out inside a character: a first byte that announces
more, and inner bytes only. -/
theorem head_short {b : UInt8} {rest : List UInt8} (h : head (b :: rest) = .short) :
    head [b] = .short ∧ isTail b = false ∧ ∀ x ∈ rest, isTail x = true := by
  simp only [head] at h ⊢
  split at h
  · exact absurd h (by simp)
  · exact absurd h (by simp)
  · rename_i n lo hi hl
    obtain ⟨hpos, -, hlo, hhi, hb⟩ := lead_multi hl
    have hlen := tail_short_length h
    have htails := tail_short hlo hhi (by rw [h]; simp)
    rw [List.take_of_length_le (by omega)] at htails
    refine ⟨?_, ?_, htails⟩
    · obtain ⟨m, rfl⟩ : ∃ m, n = m + 1 := ⟨n - 1, by omega⟩
      rfl
    · simp only [isTail, Bool.and_eq_false_iff, decide_eq_false_iff_not]
      exact .inr (by simpa [UInt8.not_le] using hb)

/-- A character is one byte below 0x80, or a first byte that announces
more and its inner bytes. -/
theorem IsRune.shape {b : UInt8} {rest : List UInt8} (h : IsRune (b :: rest)) :
    (rest = [] ∧ b < 0x80) ∨ (rest ≠ [] ∧ 0xBF < b ∧ ∀ x ∈ rest, isTail x = true) := by
  have hh : head (b :: rest) = .rune (rest.length + 1) := h
  simp only [head] at hh
  split at hh
  · rename_i hl
    refine .inl ⟨?_, ?_⟩
    · rw [Head.rune.injEq] at hh
      exact List.length_eq_zero_iff.mp (by omega)
    · by_contra hb
      rw [lead, if_neg hb] at hl
      repeat' split at hl
      all_goals exact absurd hl (by simp)
  · exact absurd hh (by simp)
  · rename_i n lo hi hl
    obtain ⟨hpos, -, hlo, hhi, hb⟩ := lead_multi hl
    obtain ⟨hk, hn, -⟩ := tail_rune hh
    have htails := tail_short hlo hhi (by rw [hh]; simp)
    rw [List.take_of_length_le (by omega)] at htails
    refine .inr ⟨?_, hb, htails⟩
    rintro rfl
    simp at hn
    omega

/-- All but the first byte of a character are inner bytes. -/
theorem IsRune.tails {b : UInt8} {rest : List UInt8} (h : IsRune (b :: rest)) :
    isTail b = false ∧ ∀ x ∈ rest, isTail x = true := by
  simp only [isTail, Bool.and_eq_false_iff, decide_eq_false_iff_not, UInt8.not_le]
  rcases h.shape with ⟨rfl, hb⟩ | ⟨-, hb, htails⟩
  · exact ⟨.inl hb, by simp⟩
  · exact ⟨.inr hb, htails⟩

/-- The bytes of a character: one below 0x80, or several from there on. -/
theorem IsRune.bytes {c : List UInt8} (hc : IsRune c) :
    (∃ b, c = [b] ∧ b < 0x80) ∨ (1 < c.length ∧ ∀ b ∈ c, 0x80 ≤ b) := by
  obtain ⟨b, rest, rfl⟩ := List.exists_cons_of_ne_nil hc.ne_nil
  rcases hc.shape with ⟨rfl, hb⟩ | ⟨hne, hb, htails⟩
  · exact .inl ⟨b, rfl, hb⟩
  · refine .inr ⟨by simpa [List.length_pos_iff] using hne, fun x hx => ?_⟩
    rcases List.mem_cons.mp hx with rfl | hx
    · exact UInt8.le_of_lt (UInt8.lt_trans (by decide) hb)
    · have := htails x hx
      simp only [isTail, Bool.and_eq_true, decide_eq_true_eq] at this
      exact this.1

/-- No character starts at an inner byte, whatever follows. -/
theorem head_tail {b : UInt8} (h : isTail b = true) (rest : List UInt8) :
    head (b :: rest) = .invalid := by
  cases hh : head (b :: rest) with
  | invalid => rfl
  | short => rw [(head_short hh).2.1] at h; exact absurd h (by simp)
  | rune k =>
      obtain ⟨hpos, -, hr⟩ := head_rune hh
      obtain ⟨k, rfl⟩ : ∃ m, k = m + 1 := ⟨k - 1, by omega⟩
      rw [List.take_succ_cons] at hr
      rw [hr.tails.1] at h
      exact absurd h (by simp)

/-- A proper part of a character is no character yet. -/
theorem IsRune.head_part {p q : List UInt8} (h : IsRune (p ++ q)) (hq : q ≠ []) :
    head p = .short := by
  by_contra hs
  have hh := Utf8.head_append hs q
  rw [h, List.length_append] at hh
  have hle := (head_rune hh.symm).2.1
  have := List.length_pos_iff.mpr hq
  omega

theorem runeSize_none_of_append {data more : List UInt8} (h : runeSize (data ++ more) = none) :
    runeSize data = none := by
  cases hs : runeSize data with
  | none => rfl
  | some k =>
      obtain ⟨c, rest, rfl, hc, -⟩ := runeSize_eq_some hs
      rw [List.append_assoc, hc.runeSize] at h
      exact absurd h (by simp)

theorem runeSize_none_of_head {data : List UInt8} (h : head data = .invalid ∨ head data = .short) :
    runeSize data = none := by
  rcases h with h | h <;> simp [runeSize, h]

theorem fullRune_append {data : List UInt8} (h : fullRune data = true) (more : List UInt8) :
    fullRune (data ++ more) = true := by
  simp only [fullRune, bne_iff_ne] at h ⊢
  rwa [head_append h]

/-- No full character is one that was cut short. -/
theorem fullRune_eq_false {data : List UInt8} : fullRune data = false ↔ head data = .short := by
  simp [fullRune]

/-- A character that is cut short has at most three bytes. -/
theorem length_of_short {data : List UInt8} (h : head data = .short) : data.length ≤ 3 := by
  cases data with
  | nil => exact Nat.zero_le _
  | cons b rest =>
      simp only [head] at h
      split at h
      · cases h
      · cases h
      · rename_i n lo hi hl
        have hn := (lead_multi hl).2.1
        have := tail_short_length h
        rw [List.length_cons]
        omega

/-! ## Cutting a byte string -/

@[simp] theorem pieces_nil : pieces [] = [] := rfl

theorem piecesFrom_eq (skip : Nat) (data : List UInt8) :
    piecesFrom skip data = pieces (data.drop skip) := by
  induction skip generalizing data with
  | zero => rfl
  | succ skip ih =>
      cases data with
      | nil => rfl
      | cons b rest => exact ih rest

/-- A character at the front is the first piece. -/
theorem pieces_char {c : List UInt8} (hc : IsRune c) (rest : List UInt8) :
    pieces (c ++ rest) = .char c :: pieces rest := by
  obtain ⟨b, c', rfl⟩ := List.exists_cons_of_ne_nil hc.ne_nil
  have hsize := hc.runeSize rest
  show piecesFrom 0 (b :: (c' ++ rest)) = _
  rw [List.cons_append] at hsize
  simp only [piecesFrom, hsize]
  rw [piecesFrom_eq]
  congr 2
  · rw [← List.cons_append, List.take_left]
  · rw [List.length_cons, Nat.add_sub_cancel, List.drop_left]

/-- A bad byte at the front is a piece of its own. -/
theorem pieces_bad {b : UInt8} {rest : List UInt8} (h : runeSize (b :: rest) = none) :
    pieces (b :: rest) = .bad b :: pieces rest := by
  show piecesFrom 0 (b :: rest) = _
  simp only [piecesFrom, h]
  rfl

/-- Induction along the cuts of a byte string. -/
theorem pieces_induction {P : List UInt8 → Prop} (nil : P [])
    (char : ∀ c rest, IsRune c → P rest → P (c ++ rest))
    (bad : ∀ b rest, runeSize (b :: rest) = none → P rest → P (b :: rest)) :
    ∀ data, P data := by
  intro data
  induction hn : data.length using Nat.strong_induction_on generalizing data with
  | _ n ih =>
    cases data with
    | nil => exact nil
    | cons b rest =>
        cases hs : runeSize (b :: rest) with
        | none => exact bad b rest hs (ih rest.length (by simp [← hn]) rest rfl)
        | some k =>
            obtain ⟨c, tl, hdata, hc, -⟩ := runeSize_eq_some hs
            rw [hdata]
            refine char c tl hc (ih tl.length ?_ tl rfl)
            have hlen := congrArg List.length hdata
            have hpos := hc.length_pos
            simp only [List.length_cons, List.length_append] at hlen hn
            omega

/-- The pieces are the whole input, in order. -/
theorem pieces_bytes (data : List UInt8) : (pieces data).flatMap Piece.bytes = data := by
  induction data using pieces_induction with
  | nil => rfl
  | char c rest hc ih => rw [pieces_char hc, List.flatMap_cons, ih]; rfl
  | bad b rest hb ih => rw [pieces_bad hb, List.flatMap_cons, ih]; rfl

/-- Every piece that is a character is one. -/
theorem pieces_isRune {data c : List UInt8} (h : .char c ∈ pieces data) : IsRune c := by
  induction data using pieces_induction with
  | nil => simp at h
  | char d rest hd ih =>
      rw [pieces_char hd, List.mem_cons, Piece.char.injEq] at h
      rcases h with rfl | h
      · exact hd
      · exact ih h
  | bad b rest hb ih =>
      rw [pieces_bad hb] at h
      exact ih (by simpa using h)

/-- Only the empty input has no pieces. -/
theorem pieces_eq_nil {data : List UInt8} : pieces data = [] ↔ data = [] := by
  constructor
  · intro h
    have := pieces_bytes data
    rw [h] at this
    exact this.symm
  · rintro rfl
    rfl

/-! ## Valid byte strings -/

@[simp] theorem valid_nil : valid [] = true := rfl

theorem valid_char {c : List UInt8} (hc : IsRune c) (rest : List UInt8) :
    valid (c ++ rest) = valid rest := by
  simp [valid, pieces_char hc, Piece.isChar]

/-- A bad byte at the front makes the input invalid. -/
theorem valid_bad {b : UInt8} {rest : List UInt8} (h : runeSize (b :: rest) = none) :
    valid (b :: rest) = false := by
  simp [valid, pieces_bad h, Piece.isChar]

/-- An ASCII byte is a character. -/
theorem isRune_ascii {b : UInt8} (h : b < 0x80) : IsRune [b] := by
  simp [IsRune, head, lead, h]

/-- ASCII is valid. -/
theorem valid_ascii {data : List UInt8} (h : ∀ b ∈ data, b < 0x80) : valid data = true := by
  induction data with
  | nil => rfl
  | cons b rest ih =>
      have hb := valid_char (isRune_ascii (h b (by simp))) rest
      rw [List.singleton_append] at hb
      rw [hb]
      exact ih fun x hx => h x (by simp [hx])

/-- A character is valid. -/
theorem IsRune.valid {c : List UInt8} (hc : IsRune c) : Utf8.valid c = true := by
  simpa using valid_char hc []

/-- Induction over the characters of a valid byte string. -/
theorem valid_induction {P : List UInt8 → Prop} (nil : P [])
    (char : ∀ c rest, IsRune c → Utf8.valid rest = true → P rest → P (c ++ rest)) :
    ∀ data, Utf8.valid data = true → P data := by
  intro data hv
  induction data using pieces_induction with
  | nil => exact nil
  | char c rest hc ih =>
      rw [valid_char hc] at hv
      exact char c rest hc hv (ih hv)
  | bad b rest hb ih => simp [valid_bad hb] at hv

theorem pieces_append_valid {v : List UInt8} (hv : Utf8.valid v = true) (rest : List UInt8) :
    pieces (v ++ rest) = pieces v ++ pieces rest := by
  refine valid_induction (P := fun v => pieces (v ++ rest) = pieces v ++ pieces rest)
    rfl ?_ v hv
  intro c v hc hv ih
  rw [List.append_assoc, pieces_char hc, pieces_char hc, ih]
  rfl

theorem valid_append {v : List UInt8} (hv : Utf8.valid v = true) (rest : List UInt8) :
    Utf8.valid (v ++ rest) = Utf8.valid rest := by
  rw [Utf8.valid, pieces_append_valid hv, List.all_append]
  rw [Utf8.valid] at hv
  rw [hv, Bool.true_and]
  rfl

/-- Valid parts are valid together. -/
theorem valid_flatten {parts : List (List UInt8)} (h : ∀ p ∈ parts, Utf8.valid p = true) :
    Utf8.valid parts.flatten = true := by
  induction parts with
  | nil => rfl
  | cons p parts ih =>
      rw [List.flatten_cons, valid_append (h p (by simp))]
      exact ih fun q hq => h q (by simp [hq])

/-- The replacement character is a character. -/
theorem replacement_isRune : IsRune replacement := by decide

/-! ## Replacing the stray bytes -/

theorem render_append_char (inRun : Bool) (us vs : List Piece) (c : List UInt8) :
    render inRun (us ++ .char c :: vs) = render inRun us ++ render false (.char c :: vs) := by
  induction us generalizing inRun with
  | nil => cases inRun <;> rfl
  | cons u us ih =>
      cases u with
      | char d => simp [render, ih, List.append_assoc]
      | bad b => cases inRun <;> simp [render, ih, List.append_assoc]

/-- Characters are rendered as they are. -/
theorem render_of_chars {us : List Piece} (h : us.all Piece.isChar = true) (inRun : Bool) :
    render inRun us = us.flatMap Piece.bytes := by
  induction us generalizing inRun with
  | nil => rfl
  | cons u us ih =>
      simp only [List.all_cons, Bool.and_eq_true] at h
      cases u with
      | char c => simp [render, Piece.bytes, ih h.2]
      | bad b => exact absurd h.1 (by simp [Piece.isChar])

theorem toValid_of_valid {data : List UInt8} (h : Utf8.valid data = true) :
    toValid data = data := by
  rw [toValid, render_of_chars h, pieces_bytes]

theorem render_valid {us : List Piece} (h : ∀ c, .char c ∈ us → IsRune c) (inRun : Bool) :
    Utf8.valid (render inRun us) = true := by
  induction us generalizing inRun with
  | nil => rfl
  | cons u us ih =>
      have ih' := fun r => ih (fun c hc => h c (by simp [hc])) r
      cases u with
      | char c =>
          show Utf8.valid (c ++ render false us) = true
          rw [valid_char (h c (by simp)), ih']
      | bad b =>
          cases inRun with
          | true => exact ih' true
          | false =>
              show Utf8.valid (replacement ++ render true us) = true
              rw [valid_char replacement_isRune, ih']

theorem toValid_valid (data : List UInt8) : Utf8.valid (toValid data) = true :=
  render_valid (fun _ hc => pieces_isRune hc) false

/-- Something is left of any input that is not empty. -/
theorem toValid_ne_nil {data : List UInt8} (h : data ≠ []) : toValid data ≠ [] := by
  have hp : pieces data ≠ [] := fun hn => h (pieces_eq_nil.mp hn)
  obtain ⟨u, us, hu⟩ := List.exists_cons_of_ne_nil hp
  rw [toValid, hu]
  cases u with
  | char c =>
      have hmem : .char c ∈ pieces data := by simp [hu]
      have hc : IsRune c := pieces_isRune hmem
      simp [render, hc.ne_nil]
  | bad b => simp [render, replacement]

theorem sanitize_of_valid {data : List UInt8} (h : Utf8.valid data = true) :
    sanitize data = data := by
  have heq : ∀ u ∈ pieces data, u.sanitized = u.bytes := by
    intro u hu
    have := List.all_eq_true.mp h u hu
    cases u with
    | char c => rfl
    | bad b => exact absurd this (by simp [Piece.isChar])
  rw [sanitize, List.flatMap_congr heq, pieces_bytes]

theorem sanitize_char {c : List UInt8} (hc : IsRune c) (rest : List UInt8) :
    sanitize (c ++ rest) = c ++ sanitize rest := by
  simp [sanitize, pieces_char hc, Piece.sanitized]

/-- A bad byte becomes the replacement character. -/
theorem sanitize_bad {b : UInt8} {rest : List UInt8} (h : runeSize (b :: rest) = none) :
    sanitize (b :: rest) = replacement ++ sanitize rest := by
  simp [sanitize, pieces_bad h, Piece.sanitized]

theorem sanitize_valid (data : List UInt8) : Utf8.valid (sanitize data) = true := by
  induction data using pieces_induction with
  | nil => rfl
  | char c rest hc ih => rw [sanitize_char hc, valid_char hc]; exact ih
  | bad b rest hb ih => rw [sanitize_bad hb, valid_char replacement_isRune]; exact ih

/-- Sanitizing never shortens. -/
theorem length_le_sanitize (data : List UInt8) : data.length ≤ (sanitize data).length := by
  induction data using pieces_induction with
  | nil => simp
  | char c rest hc ih => rw [sanitize_char hc]; simp [ih]
  | bad b rest hb ih =>
      rw [sanitize_bad hb, List.length_append, List.length_cons]
      have : replacement.length = 3 := rfl
      omega

/-- Replacing byte by byte keeps the length only where there is nothing to
replace. -/
theorem length_sanitize_eq {data : List UInt8} :
    (sanitize data).length = data.length ↔ Utf8.valid data = true := by
  refine ⟨fun h => ?_, fun h => by rw [sanitize_of_valid h]⟩
  induction data using pieces_induction with
  | nil => rfl
  | char c rest hc ih =>
      rw [sanitize_char hc, List.length_append, List.length_append] at h
      rw [valid_char hc]
      exact ih (by omega)
  | bad b rest hb ih =>
      have hle := length_le_sanitize rest
      have hrep : replacement.length = 3 := rfl
      rw [sanitize_bad hb, List.length_append, List.length_cons] at h
      omega

/-! ## Cutting a valid byte string in two -/

/-- A cut of a valid byte string falls between two characters or inside
one. -/
theorem valid_split {r s : List UInt8} (h : Utf8.valid (r ++ s) = true) :
    ∃ v p q w, r = v ++ p ∧ s = q ++ w ∧ Utf8.valid v = true ∧ Utf8.valid w = true ∧
      ((p = [] ∧ q = []) ∨ (p ≠ [] ∧ q ≠ [] ∧ IsRune (p ++ q))) := by
  induction hn : r.length using Nat.strong_induction_on generalizing r with
  | _ n ih =>
    by_cases hr : r = []
    · exact ⟨[], [], [], s, hr, rfl, rfl, by simpa [hr] using h, .inl ⟨rfl, rfl⟩⟩
    obtain ⟨c, rest, hdata, hc⟩ : ∃ c rest, r ++ s = c ++ rest ∧ IsRune c := by
      obtain ⟨b, r', rfl⟩ := List.exists_cons_of_ne_nil hr
      cases hs : runeSize (b :: (r' ++ s)) with
      | none => simp [valid_bad hs] at h
      | some k =>
          obtain ⟨c, rest, heq, hc, -⟩ := runeSize_eq_some hs
          exact ⟨c, rest, heq, hc⟩
    rw [hdata, valid_char hc] at h
    rcases List.append_eq_append_iff.mp hdata with ⟨q, rfl, rfl⟩ | ⟨r', rfl, rfl⟩
    · by_cases hq : q = []
      · subst hq
        rw [List.append_nil] at hc
        exact ⟨r, [], [], rest, by simp, by simp, hc.valid, h, .inl ⟨rfl, rfl⟩⟩
      · exact ⟨[], r, q, rest, rfl, rfl, rfl, h, .inr ⟨hr, hq, hc⟩⟩
    · have hlt : r'.length < n := by
        have := hc.length_pos
        rw [← hn, List.length_append]
        omega
      obtain ⟨v, p, q, w, rfl, rfl, hv, hw, hpq⟩ := ih r'.length hlt h rfl
      exact ⟨c ++ v, p, q, w, by simp, rfl, by rw [valid_char hc, hv], hw, hpq⟩

/-! ## Counting characters -/

@[simp] theorem leads_nil : leads [] = 0 := rfl

@[simp] theorem leads_append (a b : List UInt8) : leads (a ++ b) = leads a + leads b :=
  List.countP_append

/-- Continuation bytes start no character. -/
theorem leads_of_tails {q : List UInt8} (h : ∀ b ∈ q, isTail b = true) : leads q = 0 := by
  rw [leads, List.countP_eq_zero]
  intro b hb
  simp [h b hb]

/-- A character starts once. -/
theorem IsRune.leads {c : List UInt8} (hc : IsRune c) : Utf8.leads c = 1 := by
  obtain ⟨b, rest, rfl⟩ := List.exists_cons_of_ne_nil hc.ne_nil
  obtain ⟨hb, hrest⟩ := hc.tails
  rw [← List.singleton_append, leads_append, leads_of_tails hrest]
  simp [Utf8.leads, hb]

theorem render_chars_append {us : List Piece} (h : us.all Piece.isChar = true) (inRun : Bool)
    (vs : List Piece) :
    render inRun (us ++ vs) = us.flatMap Piece.bytes ++ render (inRun && us.isEmpty) vs := by
  induction us generalizing inRun with
  | nil => simp
  | cons u us ih =>
      simp only [List.all_cons, Bool.and_eq_true] at h
      cases u with
      | bad b => exact absurd h.1 (by simp [Piece.isChar])
      | char c => simp [render, Piece.bytes, ih h.2 false]

/-- Continuation bytes without their character are bad one by one. -/
theorem pieces_tails {q : List UInt8} (hq : ∀ b ∈ q, isTail b = true) (rest : List UInt8) :
    pieces (q ++ rest) = q.map .bad ++ pieces rest := by
  induction q with
  | nil => rfl
  | cons b q ih =>
      have hb := head_tail (hq b (by simp)) (q ++ rest)
      rw [List.cons_append, pieces_bad (runeSize_none_of_head (.inl hb)),
        ih fun x hx => hq x (by simp [hx])]
      rfl

/-- In a run of bad bytes more of them are rendered as nothing. -/
theorem render_bads (q : List UInt8) (vs : List Piece) :
    render true (q.map .bad ++ vs) = render true vs := by
  induction q with
  | nil => rfl
  | cons b q ih => exact ih

/-- Characters and a part of one: the part becomes one replacement. -/
theorem leads_toValid_part {v p q : List UInt8} (hv : Utf8.valid v = true) (hp : p ≠ [])
    (hq : q ≠ []) (hc : IsRune (p ++ q)) :
    leads (toValid (v ++ p)) = leads v + 1 := by
  obtain ⟨b, p', rfl⟩ := List.exists_cons_of_ne_nil hp
  have htails : ∀ x ∈ p', isTail x = true := fun x hx => hc.tails.2 x (by simp [hx])
  have hpieces : pieces (b :: p') = .bad b :: p'.map .bad := by
    rw [pieces_bad (runeSize_none_of_head (.inr (hc.head_part hq)))]
    have := pieces_tails htails []
    rw [List.append_nil, pieces_nil, List.append_nil] at this
    rw [this]
  have hbads := render_bads p' []
  rw [List.append_nil] at hbads
  rw [toValid, pieces_append_valid hv, hpieces, render_chars_append hv, pieces_bytes, leads_append,
    Bool.false_and, render, hbads, render, List.append_nil, replacement_isRune.leads]

/-- The rest of a cut character becomes a replacement before the
characters that follow. -/
theorem leads_toValid_tails {q v x : List UInt8} (hq : q ≠ []) (htails : ∀ b ∈ q, isTail b = true)
    (hv : Utf8.valid v = true) : leads v + 1 ≤ leads (toValid (q ++ (v ++ x))) := by
  obtain ⟨b, q', rfl⟩ := List.exists_cons_of_ne_nil hq
  rw [toValid, pieces_tails htails, List.map_cons, List.cons_append]
  show _ ≤ leads (replacement ++ render true _)
  rw [render_bads, pieces_append_valid hv, render_chars_append hv, pieces_bytes, leads_append,
    leads_append, replacement_isRune.leads]
  omega

end Bootmux.Lib.Utf8
