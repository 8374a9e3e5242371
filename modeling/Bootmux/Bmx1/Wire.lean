/-
Bootmux.Bmx1.Wire — what the two firmwares and the iPhone client share
of the BMX1 wire format: byte strings, decimal fields, and the messages
a receiver sends back.

A frame is a byte string. The bridge handles Arduino `String`s, which
are built from a C string and so end at the first NUL; the router copies
raw bytes and reads each field as a C string later. `cString` is that
cut, applied where each source applies it.

`parseUInt` is the bridge's function of that name and the router's
`parse_uint`: both walk the digits with a 64-bit accumulator and give up
as soon as it exceeds `UINT32_MAX`. `parseUInt_decimal` says that it
reads back what `String(sequence)` and `%lu` print.
-/
import Mathlib.Data.List.TakeWhile
import Mathlib.Data.UInt

namespace Bootmux.Bmx1

abbrev Bytes := List UInt8

/-- The bytes of a string literal of the sources. -/
def ascii (s : String) : Bytes := s.toUTF8.data.toList

/-- A byte buffer read as a C string: up to the first NUL. -/
def cString (b : Bytes) : Bytes := b.takeWhile (fun c => c != 0)

def pipe : UInt8 := 0x7C
def backslash : UInt8 := 0x5C
def newline : UInt8 := 0x0A
def carriageReturn : UInt8 := 0x0D

/-- Bytes without NUL are their own C string. -/
theorem cString_of_nulFree {b : Bytes} (h : (0 : UInt8) ∉ b) : cString b = b := by
  rw [cString, List.takeWhile_eq_self_iff]
  intro c hc
  simp only [bne_iff_ne, ne_eq]
  rintro rfl
  exact h hc

/-- A C string holds no NUL. -/
theorem nulFree_cString (b : Bytes) : (0 : UInt8) ∉ cString b := by
  intro h
  have := List.mem_takeWhile_imp h
  simp at this

/-! ## Decimal fields -/

def isDigit (c : UInt8) : Bool := 0x30 ≤ c && c ≤ 0x39

/-- The decimal text of a number, as `String(n)` and `%lu` print it. -/
def decimal (n : Nat) : Bytes := (Nat.toDigits 10 n).map fun c => UInt8.ofNat c.toNat

def uint32Max : Nat := 4294967295

/-- The loop of `parseUInt`: the accumulator is a `uint64_t`. -/
def parseDigits (parsed : Nat) : Bytes → Option Nat
  | [] => some parsed
  | c :: rest =>
      if !isDigit c then none
      else
        let parsed := (parsed * 10 + (c.toNat - 0x30)) % 2 ^ 64
        if parsed > uint32Max then none else parseDigits parsed rest

def parseUInt (value : Bytes) : Option UInt32 :=
  if value.isEmpty then none else (parseDigits 0 value).map UInt32.ofNat

/-- Digits are read one part after the other. -/
theorem parseDigits_append (xs ys : Bytes) (p : Nat) :
    parseDigits p (xs ++ ys) = (parseDigits p xs).bind fun q => parseDigits q ys := by
  induction xs generalizing p with
  | nil => rfl
  | cons x xs ih =>
      simp only [List.cons_append, parseDigits]
      split
      · rfl
      · split
        · rfl
        · exact ih _

/-- The byte of one decimal digit. -/
def digit (d : Nat) : UInt8 := UInt8.ofNat (0x30 + d)

theorem digit_facts : ∀ d ∈ List.range 10,
    UInt8.ofNat (Nat.digitChar d).toNat = digit d ∧ isDigit (digit d) = true ∧
      (digit d).toNat - 0x30 = d := by
  decide

theorem isDigit_digit {d : Nat} (h : d < 10) : isDigit (digit d) = true :=
  (digit_facts d (List.mem_range.mpr h)).2.1

/-- A number below ten is one digit. -/
theorem decimal_of_lt {n : Nat} (h : n < 10) : decimal n = [digit n] := by
  rw [decimal, Nat.toDigits_of_lt_base h, List.map_singleton,
    (digit_facts n (List.mem_range.mpr h)).1]

/-- The last digit comes off the end. -/
theorem decimal_of_ge {n : Nat} (h : 10 ≤ n) :
    decimal n = decimal (n / 10) ++ [digit (n % 10)] := by
  have hd : n % 10 < 10 := Nat.mod_lt _ (by omega)
  rw [decimal, Nat.toDigits_of_base_le (by omega) h, List.map_append, List.map_singleton,
    (digit_facts (n % 10) (List.mem_range.mpr hd)).1, decimal]

/-- One more digit, as long as the value stays within 32 bits. -/
theorem parseDigits_digit {p d : Nat} (hd : d < 10) (h : p * 10 + d ≤ uint32Max) :
    parseDigits p [digit d] = some (p * 10 + d) := by
  obtain ⟨_, hdig, hval⟩ := digit_facts d (List.mem_range.mpr hd)
  have hmod : (p * 10 + d) % 2 ^ 64 = p * 10 + d :=
    Nat.mod_eq_of_lt (by simp only [uint32Max] at h; omega)
  simp only [parseDigits, hdig, hval, hmod]
  simp [Nat.not_lt.mpr h]

/-- A number of 32 bits is read back from its digits. -/
theorem parseDigits_decimal (n : Nat) (h : n ≤ uint32Max) :
    parseDigits 0 (decimal n) = some n := by
  induction n using Nat.strongRecOn with
  | _ n ih =>
      by_cases hlt : n < 10
      · rw [decimal_of_lt hlt, parseDigits_digit hlt (by omega)]
        simp
      · have hsplit : n / 10 * 10 + n % 10 = n := by omega
        rw [decimal_of_ge (by omega), parseDigits_append, ih (n / 10) (by omega) (by omega),
          Option.bind_some, parseDigits_digit (Nat.mod_lt _ (by omega)) (by omega), hsplit]

theorem decimal_ne_nil (n : Nat) : decimal n ≠ [] := by
  by_cases hlt : n < 10
  · rw [decimal_of_lt hlt]; simp
  · rw [decimal_of_ge (by omega)]; simp

/-- Ten digits hold any sequence number. -/
theorem length_decimal_le (sequence : UInt32) : (decimal sequence.toNat).length ≤ 10 := by
  have hlt := sequence.toNat_lt
  rw [decimal, List.length_map, Nat.length_toDigits_le_iff (by decide) (by decide)]
  omega

/-- **The decimal fields read back.** -/
theorem parseUInt_decimal (n : Nat) (h : n ≤ uint32Max) :
    parseUInt (decimal n) = some (UInt32.ofNat n) := by
  have hne : (decimal n).isEmpty = false := by
    simpa using decimal_ne_nil n
  simp [parseUInt, hne, parseDigits_decimal n h]

/-- A number is printed in digits only. -/
theorem isDigit_of_mem_decimal (n : Nat) : ∀ c ∈ decimal n, isDigit c = true := by
  induction n using Nat.strongRecOn with
  | _ n ih =>
      intro c hc
      by_cases hlt : n < 10
      · rw [decimal_of_lt hlt, List.mem_singleton] at hc
        exact hc ▸ isDigit_digit hlt
      · rw [decimal_of_ge (by omega), List.mem_append, List.mem_singleton] at hc
        rcases hc with hc | hc
        · exact ih (n / 10) (by omega) c hc
        · exact hc ▸ isDigit_digit (Nat.mod_lt _ (by omega))

theorem decimal_plain {c : UInt8} (hc : isDigit c = false) (n : Nat) : c ∉ decimal n := by
  intro h
  rw [isDigit_of_mem_decimal n c h] at hc
  cases hc

theorem toNat_ofNat_of_le {n : Nat} (h : n ≤ uint32Max) : (UInt32.ofNat n).toNat = n :=
  UInt32.toNat_ofNat_of_lt' (by simp only [uint32Max] at h; simp only [UInt32.size]; omega)

/-- A sequence number is read back. -/
theorem parseUInt_sequence (sequence : UInt32) :
    parseUInt (decimal sequence.toNat) = some sequence := by
  have hlt := sequence.toNat_lt
  rw [parseUInt_decimal _ (by simp only [uint32Max]; omega), UInt32.ofNat_toNat]

/-! ## Messages of a receiver -/

/-- The result field of an `ACK`. -/
inductive AckResult where
  | opened
  | applied
  | duplicate
  | stopped
  | resumed
  deriving DecidableEq, Repr

def AckResult.text : AckResult → String
  | .opened => "OPENED"
  | .applied => "APPLIED"
  | .duplicate => "DUPLICATE"
  | .stopped => "STOPPED"
  | .resumed => "RESUMED"

/-- `BMX1|ACK|<session>|<sequence>|<result>`; the session is not escaped. -/
def ackBytes (session : Bytes) (sequence : UInt32) (result : AckResult) : Bytes :=
  ascii "BMX1|ACK|" ++ session ++ [pipe] ++ decimal sequence.toNat ++ [pipe] ++
    ascii result.text

/-- `BMX1|ERR|<session>|<sequence>|<code>`. -/
def errBytes (session : Bytes) (sequence : UInt32) (code : String) : Bytes :=
  ascii "BMX1|ERR|" ++ session ++ [pipe] ++ decimal sequence.toNat ++ [pipe] ++ ascii code

end Bootmux.Bmx1
