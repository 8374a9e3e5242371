/-
Bootmux.Lib.Base64 — base64 with padding, as bytes.

Three bytes are a number below 2^24 and four digits to the base 64 (and
one or two bytes, padded with zeros, two or three digits), so that
reading back (`decode_encode`) is division with remainder.

The round trip goes three bytes at a time. The length of an encoded text is
known (`length_encode`), and none of its characters needs an escape in JSON
or in the fields of the wire (`Plain`).
-/
import Mathlib.Data.UInt
import Mathlib.Data.List.Basic

namespace Bootmux.Lib.Base64

/-- The digit `d` of the standard alphabet. -/
def digit (d : Nat) : UInt8 :=
  if d < 26 then UInt8.ofNat (0x41 + d)
  else if d < 52 then UInt8.ofNat (0x61 + (d - 26))
  else if d < 62 then UInt8.ofNat (0x30 + (d - 52))
  else if d = 62 then 0x2B
  else 0x2F

def padding : UInt8 := 0x3D

def digitValue (b : UInt8) : Option Nat :=
  if 0x41 ≤ b ∧ b ≤ 0x5A then some (b.toNat - 0x41)
  else if 0x61 ≤ b ∧ b ≤ 0x7A then some (b.toNat - 0x61 + 26)
  else if 0x30 ≤ b ∧ b ≤ 0x39 then some (b.toNat - 0x30 + 52)
  else if b = 0x2B then some 62
  else if b = 0x2F then some 63
  else none

def encode : List UInt8 → List UInt8
  | [] => []
  | [a] =>
      let n := a.toNat * 16
      [digit (n / 64), digit (n % 64), padding, padding]
  | [a, b] =>
      let n := (a.toNat * 256 + b.toNat) * 4
      [digit (n / 4096), digit (n / 64 % 64), digit (n % 64), padding]
  | a :: b :: c :: rest =>
      let n := (a.toNat * 256 + b.toNat) * 256 + c.toNat
      digit (n / 262144) :: digit (n / 4096 % 64) :: digit (n / 64 % 64) :: digit (n % 64) ::
        encode rest

/-- Padding ends the text. -/
def decode : List UInt8 → Option (List UInt8)
  | [] => some []
  | w :: x :: y :: z :: rest =>
      if y = padding ∧ z = padding ∧ rest = [] then
        (digitValue w).bind fun w => (digitValue x).map fun x =>
          [UInt8.ofNat ((w * 64 + x) / 16)]
      else if z = padding ∧ rest = [] then
        (digitValue w).bind fun w => (digitValue x).bind fun x => (digitValue y).map fun y =>
          let n := ((w * 64 + x) * 64 + y) / 4
          [UInt8.ofNat (n / 256), UInt8.ofNat (n % 256)]
      else
        (digitValue w).bind fun w => (digitValue x).bind fun x => (digitValue y).bind fun y =>
          (digitValue z).bind fun z =>
            let n := ((w * 64 + x) * 64 + y) * 64 + z
            (decode rest).map fun rest =>
              UInt8.ofNat (n / 65536) :: UInt8.ofNat (n / 256 % 256) :: UInt8.ofNat (n % 256) ::
                rest
  | _ => none

theorem digit_facts : ∀ d < 64, digitValue (digit d) = some d ∧ digit d ≠ padding ∧
    0x20 ≤ digit d ∧ digit d ≤ 0x7E ∧ digit d ≠ 0x7C ∧ digit d ≠ 0x5C := by
  decide

/-- A digit of the alphabet has the value it stands for. -/
theorem digitValue_digit {d : Nat} (h : d < 64) : digitValue (digit d) = some d :=
  (digit_facts d h).1

/-- No digit is the padding character. -/
theorem digit_ne_padding {d : Nat} (h : d < 64) : digit d ≠ padding := (digit_facts d h).2.1

/-- **The text gives back the bytes.** -/
theorem decode_encode : ∀ data : List UInt8, decode (encode data) = some data
  | [] => rfl
  | [a] => by
      have ha := a.toNat_lt
      have hhigh : a.toNat * 16 / 64 < 64 := by omega
      have hlow : a.toNat * 16 % 64 < 64 := by omega
      have hvalue : (a.toNat * 16 / 64 * 64 + a.toNat * 16 % 64) / 16 = a.toNat := by omega
      simp only [encode, decode, and_self, if_true, digitValue_digit hhigh, digitValue_digit hlow,
        Option.bind_some, Option.map_some, hvalue, UInt8.ofNat_toNat]
  | [a, b] => by
      have ha := a.toNat_lt
      have hb := b.toNat_lt
      have h₁ : (a.toNat * 256 + b.toNat) * 4 / 4096 < 64 := by omega
      have h₂ : (a.toNat * 256 + b.toNat) * 4 / 64 % 64 < 64 := by omega
      have h₃ : (a.toNat * 256 + b.toNat) * 4 % 64 < 64 := by omega
      have hvalue : (((a.toNat * 256 + b.toNat) * 4 / 4096 * 64 +
          (a.toNat * 256 + b.toNat) * 4 / 64 % 64) * 64 +
          (a.toNat * 256 + b.toNat) * 4 % 64) / 4 = a.toNat * 256 + b.toNat := by omega
      have hfirst : (a.toNat * 256 + b.toNat) / 256 = a.toNat := by omega
      have hsecond : (a.toNat * 256 + b.toNat) % 256 = b.toNat := by omega
      simp only [encode, decode, digit_ne_padding h₃, false_and, if_false, and_self, if_true,
        digitValue_digit h₁, digitValue_digit h₂, digitValue_digit h₃, Option.bind_some,
        Option.map_some, hvalue, hfirst, hsecond, UInt8.ofNat_toNat]
  | a :: b :: c :: rest => by
      have ha := a.toNat_lt
      have hb := b.toNat_lt
      have hc := c.toNat_lt
      have ih := decode_encode rest
      obtain ⟨n, hn⟩ : ∃ n, n = (a.toNat * 256 + b.toNat) * 256 + c.toNat := ⟨_, rfl⟩
      have h₁ : n / 262144 < 64 := by omega
      have h₂ : n / 4096 % 64 < 64 := by omega
      have h₃ : n / 64 % 64 < 64 := by omega
      have h₄ : n % 64 < 64 := by omega
      have hvalue : ((n / 262144 * 64 + n / 4096 % 64) * 64 + n / 64 % 64) * 64 + n % 64 = n := by
        omega
      have hfirst : n / 65536 = a.toNat := by omega
      have hsecond : n / 256 % 256 = b.toNat := by omega
      have hthird : n % 256 = c.toNat := by omega
      simp only [encode, ← hn, decode, digit_ne_padding h₄, false_and, and_false, if_false,
        digitValue_digit h₁, digitValue_digit h₂, digitValue_digit h₃, digitValue_digit h₄,
        Option.bind_some, hvalue, ih, Option.map_some, hfirst, hsecond, hthird, UInt8.ofNat_toNat]

/-- Every three bytes, begun or whole, become four characters. -/
theorem length_encode : ∀ data : List UInt8, (encode data).length = 4 * ((data.length + 2) / 3)
  | [] => rfl
  | [_] => by simp [encode]
  | [_, _] => by simp [encode]
  | a :: b :: c :: rest => by
      have ih := length_encode rest
      simp only [encode, List.length_cons, ih]
      omega

/-- Printable, and neither a pipe nor a backslash. -/
def Plain (x : UInt8) : Prop := 0x20 ≤ x ∧ x ≤ 0x7E ∧ x ≠ 0x7C ∧ x ≠ 0x5C

instance (x : UInt8) : Decidable (Plain x) :=
  inferInstanceAs (Decidable (0x20 ≤ x ∧ x ≤ 0x7E ∧ x ≠ 0x7C ∧ x ≠ 0x5C))

theorem plain_digit {d : Nat} (h : d < 64) : Plain (digit d) := (digit_facts d h).2.2

theorem plain_padding : Plain padding := by decide

/-- Encoded text needs no escape in a JSON string. -/
theorem encode_plain : ∀ data : List UInt8, ∀ x ∈ encode data, Plain x
  | [] => by simp [encode]
  | [a] => by
      have ha := a.toNat_lt
      intro x hx
      simp only [encode, List.mem_cons, List.not_mem_nil, or_false] at hx
      rcases hx with rfl | rfl | rfl | rfl
      · exact plain_digit (by omega)
      · exact plain_digit (by omega)
      · exact plain_padding
      · exact plain_padding
  | [a, b] => by
      have ha := a.toNat_lt
      have hb := b.toNat_lt
      intro x hx
      simp only [encode, List.mem_cons, List.not_mem_nil, or_false] at hx
      rcases hx with rfl | rfl | rfl | rfl
      · exact plain_digit (by omega)
      · exact plain_digit (by omega)
      · exact plain_digit (by omega)
      · exact plain_padding
  | a :: b :: c :: rest => by
      have ha := a.toNat_lt
      have hb := b.toNat_lt
      have hc := c.toNat_lt
      intro x hx
      simp only [encode, List.mem_cons] at hx
      rcases hx with rfl | rfl | rfl | rfl | hx
      · exact plain_digit (by omega)
      · exact plain_digit (by omega)
      · exact plain_digit (by omega)
      · exact plain_digit (by omega)
      · exact encode_plain rest x hx

end Bootmux.Lib.Base64
