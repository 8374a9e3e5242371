/-
Bootmux.Bmx1.Decimal — the two functions that read a decimal field, with
their 64-bit accumulators and their output parameters.

The bridge's `parseUInt` indexes an Arduino `String`; the router's
`parse_uint` walks a C string to its NUL. Every sequence, part and total
on the wire goes through one of them. The receivers of this development
read fields with `Bmx1.parseUInt`, which is both at once; here each is
written as its own source has it, and `parseUInt_wire` and
`parse_uint_wire` bring each back to that one.

Both bodies test the range after the multiply-and-add, so the
accumulator that enters a pass is at most `UINT32_MAX`: it has room for
one more digit, however long the text is. That is the whole invariant
(`parseUIntEntered_fits`, `parse_uintEntered_fits`).
-/
import Bootmux.Bmx1.Wire

namespace Bootmux.Decimal

open Bmx1

/-- Text without a NUL, which an Arduino `String` and a C string both
hold as it is. -/
structure NulFree where
  bytes : Bytes
  nulFree : (0 : UInt8) ∉ bytes

def uint64Of (c : UInt8) : UInt64 := c.toUInt64

/-- `UINT32_MAX` as the accumulator is compared with it. -/
def UINT32_MAX : UInt64 := 4294967295

/-! ## The bridge -/

/-- One pass of the loop of `parseUInt`: the next accumulator, or
`return false`. -/
def parseUIntPass (c : UInt8) (parsed : UInt64) : Option UInt64 :=
  if !isDigit c then none
  else
    let parsed := parsed * 10 + uint64Of (c - 0x30)
    if parsed > UINT32_MAX then none else some parsed

/-- The loop of `parseUInt` from index `i`. -/
def parseUIntLoop (value : Bytes) (i : Nat) (parsed : UInt64) : Option UInt64 :=
  if h : i < value.length then
    match parseUIntPass value[i] parsed with
    | none => none
    | some parsed => parseUIntLoop value (i + 1) parsed
  else some parsed
  termination_by value.length - i

/-- The character and the accumulator at the start of each pass the loop
makes from index `i` on. -/
def parseUIntEntered (value : Bytes) (i : Nat) (parsed : UInt64) : List (UInt8 × UInt64) :=
  if h : i < value.length then
    (value[i], parsed) ::
      match parseUIntPass value[i] parsed with
      | none => []
      | some parsed => parseUIntEntered value (i + 1) parsed
  else []
  termination_by value.length - i

/-- The verdict, and what `result` holds afterwards. -/
def parseUInt (value : Bytes) (result : UInt32) : Bool × UInt32 :=
  if value.isEmpty then (false, result)
  else
    match parseUIntLoop value 0 0 with
    | none => (false, result)
    | some parsed => (true, parsed.toUInt32)

/-! ## The router -/

/-- One pass of the loop of `parse_uint`. -/
def parse_uintPass (c : UInt8) (parsed : UInt64) : Option UInt64 :=
  if c < 0x30 || c > 0x39 then none
  else
    let parsed := parsed * 10 + uint64Of (c - 0x30)
    if parsed > UINT32_MAX then none else some parsed

/-- The loop of `parse_uint`, with the memory from `cursor` on. It ends
at the NUL; a terminated string never lets it run off the object. -/
def parse_uintLoop : Bytes → UInt64 → Option UInt64
  | [], parsed => some parsed
  | c :: rest, parsed =>
      if c = 0 then some parsed
      else
        match parse_uintPass c parsed with
        | none => none
        | some parsed => parse_uintLoop rest parsed

/-- The character and the accumulator at the start of each pass. -/
def parse_uintEntered : Bytes → UInt64 → List (UInt8 × UInt64)
  | [], _ => []
  | c :: rest, parsed =>
      if c = 0 then []
      else
        (c, parsed) ::
          match parse_uintPass c parsed with
          | none => []
          | some parsed => parse_uintEntered rest parsed

/-- `value` is a null pointer or the memory it points at, `result` a null
pointer or what it points at. The verdict, and what `result` points at
afterwards. -/
def parse_uint (value : Option Bytes) (result : Option UInt32) : Bool × Option UInt32 :=
  match value, result with
  | some memory, some held =>
      if memory.headD 0 = 0 then (false, some held)
      else
        match parse_uintLoop memory 0 with
        | none => (false, some held)
        | some parsed => (true, some parsed.toUInt32)
  | _, _ => (false, result)

/-! ## What a decimal numeral is worth -/

/-- A non-empty sequence of ASCII digits. -/
def Numeral (value : Bytes) : Prop := value ≠ [] ∧ ∀ c ∈ value, isDigit c = true

instance (value : Bytes) : Decidable (Numeral value) :=
  inferInstanceAs (Decidable (_ ∧ _))

/-- The value of a digit. -/
def digitValue (c : UInt8) : Nat := c.toNat - 0x30

/-- The number that `p` becomes when the digits `value` are written
after it. -/
def worthFrom (p : Nat) (value : Bytes) : Nat :=
  value.foldl (fun p c => p * 10 + digitValue c) p

/-- One digit more multiplies by ten and adds its value. -/
theorem worthFrom_cons (p : Nat) (c : UInt8) (rest : Bytes) :
    worthFrom p (c :: rest) = worthFrom (p * 10 + digitValue c) rest := by
  rfl

/-- The value of a numeral. -/
def worth (value : Bytes) : Nat := worthFrom 0 value

/-- More digits never make the number less. -/
theorem le_worthFrom (value : Bytes) (p : Nat) : p ≤ worthFrom p value := by
  induction value generalizing p with
  | nil => exact le_rfl
  | cons c rest ih =>
      have hstep : p ≤ p * 10 + digitValue c := by omega
      exact hstep.trans (ih _)

/-- Leading zeros are worth nothing. -/
theorem worthFrom_zeros (n : Nat) (value : Bytes) :
    worthFrom 0 (List.replicate n 0x30 ++ value) = worthFrom 0 value := by
  induction n with
  | zero => rfl
  | succ n ih =>
      have hzero : 0 * 10 + digitValue 0x30 = 0 := by decide
      rw [List.replicate_succ, List.cons_append, worthFrom_cons, hzero, ih]

/-- Leading zeros are worth nothing, however many they are. -/
theorem worth_zeros (n : Nat) (value : Bytes) :
    worth (List.replicate n 0x30 ++ value) = worth value :=
  worthFrom_zeros n value

/-- A digit is worth less than ten. -/
theorem digitValue_lt {c : UInt8} (h : isDigit c = true) : digitValue c < 10 := by
  simp only [isDigit, Bool.and_eq_true, decide_eq_true_eq, UInt8.le_iff_toNat_le] at h
  have h9 : c.toNat ≤ 57 := h.2
  simp only [digitValue]
  omega

/-! ## One pass -/

/-- The accumulator leaves room for one more digit. -/
theorem digit_fits {c : UInt8} {p : UInt64} (h : isDigit c = true) (hp : p.toNat ≤ uint32Max) :
    p.toNat * 10 + digitValue c < 2 ^ 64 := by
  have hc := digitValue_lt h
  simp only [uint32Max] at hp
  omega

/-- What both bodies compute, without the wrap-around. -/
theorem accumulate_toNat {c : UInt8} {p : UInt64} (h : isDigit c = true)
    (hp : p.toNat ≤ uint32Max) :
    (p * 10 + uint64Of (c - 0x30)).toNat = p.toNat * 10 + digitValue c := by
  have hfits := digit_fits h hp
  have hle : (0x30 : UInt8) ≤ c := by
    simp only [isDigit, Bool.and_eq_true, decide_eq_true_eq] at h
    exact h.1
  have hdigit : (uint64Of (c - 0x30)).toNat = digitValue c := by
    rw [uint64Of, UInt8.toNat_toUInt64, UInt8.toNat_sub_of_le _ _ hle]
    rfl
  have hten : (10 : UInt64).toNat = 10 := rfl
  rw [UInt64.toNat_add, UInt64.toNat_mul, hdigit, hten]
  omega

/-- A pass of the loop takes a digit, and refuses what would pass 2^32 - 1. -/
theorem parseUIntPass_eq {c : UInt8} {p : UInt64} (hp : p.toNat ≤ uint32Max) :
    (parseUIntPass c p).map UInt64.toNat =
      if isDigit c = true ∧ p.toNat * 10 + digitValue c ≤ uint32Max then
        some (p.toNat * 10 + digitValue c)
      else none := by
  cases hc : isDigit c with
  | false => simp [parseUIntPass, hc]
  | true =>
      have hnext := accumulate_toNat hc hp
      have hmax : UINT32_MAX.toNat = uint32Max := rfl
      simp only [parseUIntPass, hc, Bool.not_true, Bool.false_eq_true, if_false, true_and,
        gt_iff_lt, UInt64.lt_iff_toNat_lt, hnext, hmax]
      by_cases hle : p.toNat * 10 + digitValue c ≤ uint32Max
      · rw [if_neg (Nat.not_lt.mpr hle), if_pos hle, Option.map_some, hnext]
      · rw [if_pos (Nat.not_le.mp hle), if_neg hle, Option.map_none]

/-- The two bodies are one. -/
theorem parse_uintPass_eq (c : UInt8) (p : UInt64) : parse_uintPass c p = parseUIntPass c p := by
  have hdigit : (c < 0x30 || c > 0x39) = !isDigit c := by
    simp only [isDigit, Bool.not_and, gt_iff_lt, ← UInt8.not_le, decide_not]
  simp only [parse_uintPass, parseUIntPass, hdigit]

/-- A pass that goes on hands over an accumulator within 32 bits. -/
theorem parseUIntPass_le {c : UInt8} {p q : UInt64} (h : parseUIntPass c p = some q) :
    q.toNat ≤ uint32Max := by
  simp only [parseUIntPass] at h
  split at h
  · cases h
  · split at h
    · cases h
    · next hle =>
        cases h
        have hmax : UINT32_MAX.toNat = uint32Max := rfl
        simpa only [gt_iff_lt, UInt64.lt_iff_toNat_lt, Nat.not_lt, hmax] using hle

/-! ## The loops -/

/-- What is left of a numeral, after an accumulator within 32 bits. -/
def Fits (p : Nat) (value : Bytes) : Prop :=
  (∀ c ∈ value, isDigit c = true) ∧ worthFrom p value ≤ uint32Max

instance (p : Nat) (value : Bytes) : Decidable (Fits p value) :=
  inferInstanceAs (Decidable (_ ∧ _))

theorem fits_nil {p : Nat} (hp : p ≤ uint32Max) : Fits p [] := ⟨by simp, hp⟩

/-- A number fits if it does after its first digit and with the rest of them.
-/
theorem fits_cons {p : Nat} {c : UInt8} {rest : Bytes} :
    Fits p (c :: rest) ↔
      (isDigit c = true ∧ p * 10 + digitValue c ≤ uint32Max) ∧
        Fits (p * 10 + digitValue c) rest := by
  simp only [Fits, worthFrom_cons, List.forall_mem_cons]
  constructor
  · rintro ⟨⟨hc, hrest⟩, hle⟩
    exact ⟨⟨hc, (le_worthFrom rest _).trans hle⟩, hrest, hle⟩
  · rintro ⟨⟨hc, _⟩, hrest, hle⟩
    exact ⟨⟨hc, hrest⟩, hle⟩

/-- The answer of either loop, as a number. -/
def answer (p : Nat) (value : Bytes) : Option Nat :=
  if Fits p value then some (worthFrom p value) else none

theorem answer_nil {p : Nat} (hp : p ≤ uint32Max) : answer p [] = some p := by
  rw [answer, if_pos (fits_nil hp)]
  rfl

/-- One pass and the loop after it. -/
theorem answer_cons {c : UInt8} {p : UInt64} (hp : p.toNat ≤ uint32Max) (rest : Bytes) :
    answer p.toNat (c :: rest) =
      (parseUIntPass c p).bind fun q => answer q.toNat rest := by
  have hpass := parseUIntPass_eq (c := c) hp
  cases hq : parseUIntPass c p with
  | none =>
      rw [hq, Option.map_none] at hpass
      have hno : ¬(isDigit c = true ∧ p.toNat * 10 + digitValue c ≤ uint32Max) := by
        intro hyes
        rw [if_pos hyes] at hpass
        cases hpass
      rw [answer, if_neg fun h => hno (fits_cons.mp h).1, Option.bind_none]
  | some q =>
      rw [hq, Option.map_some] at hpass
      split at hpass
      · next hyes =>
          have hnext : q.toNat = p.toNat * 10 + digitValue c := Option.some.inj hpass
          simp only [answer, fits_cons, hyes, true_and, and_self, Option.bind_some, hnext,
            worthFrom_cons]
      · cases hpass

theorem not_mem_cons {c : UInt8} {rest : Bytes} (h : (0 : UInt8) ∉ c :: rest) :
    (0 : UInt8) ≠ c ∧ (0 : UInt8) ∉ rest :=
  ⟨List.ne_of_not_mem_cons h, List.not_mem_of_not_mem_cons h⟩

theorem parseUIntLoop_eq (value : Bytes) (i : Nat) (p : UInt64) (hp : p.toNat ≤ uint32Max) :
    (parseUIntLoop value i p).map UInt64.toNat = answer p.toNat (value.drop i) := by
  induction i, p using parseUIntLoop.induct value with
  | case1 i p h hpass =>
      rw [parseUIntLoop, dif_pos h, List.drop_eq_getElem_cons h, answer_cons hp, hpass]
      rfl
  | case2 i p h q hpass ih =>
      rw [parseUIntLoop, dif_pos h, List.drop_eq_getElem_cons h, answer_cons hp, hpass]
      exact ih (parseUIntPass_le hpass)
  | case3 i p h =>
      rw [parseUIntLoop, dif_neg h, List.drop_eq_nil_of_le (Nat.not_lt.mp h), answer_nil hp]
      rfl

theorem parse_uintLoop_eq (value : Bytes) (more : Bytes) (p : UInt64)
    (hnul : (0 : UInt8) ∉ value) (hp : p.toNat ≤ uint32Max) :
    (parse_uintLoop (value ++ 0 :: more) p).map UInt64.toNat = answer p.toNat value := by
  induction value generalizing p with
  | nil => rw [List.nil_append, parse_uintLoop, if_pos rfl, answer_nil hp, Option.map_some]
  | cons c rest ih =>
      obtain ⟨hc, hrest⟩ := not_mem_cons hnul
      rw [List.cons_append, parse_uintLoop, if_neg (Ne.symm hc), answer_cons hp,
        parse_uintPass_eq]
      cases hpass : parseUIntPass c p with
      | none => rfl
      | some q => exact ih q hrest (parseUIntPass_le hpass)

/-! ## No wrap-around -/

/-- A pass that a loop makes: either it sees no digit, and computes
nothing, or its sum stays below `2^64`. -/
def NoWrap (pass : UInt8 × UInt64) : Prop :=
  isDigit pass.1 = true → pass.2.toNat * 10 + digitValue pass.1 < 2 ^ 64

/-- A product that starts at 2^32 - 1 at most does not wrap in 64 bits. -/
theorem noWrap_of_le {c : UInt8} {p : UInt64} (hp : p.toNat ≤ uint32Max) : NoWrap (c, p) :=
  fun hc => digit_fits hc hp

/-- No pass of the bridge's loop wraps. -/
theorem parseUIntEntered_fits (value : Bytes) (i : Nat) (p : UInt64)
    (hp : p.toNat ≤ uint32Max) : ∀ pass ∈ parseUIntEntered value i p, NoWrap pass := by
  induction i, p using parseUIntEntered.induct value with
  | case1 i p h ih =>
      rw [parseUIntEntered, dif_pos h]
      refine List.forall_mem_cons.mpr ⟨noWrap_of_le hp, ?_⟩
      cases hpass : parseUIntPass value[i] p with
      | none => simp
      | some q => exact ih q (parseUIntPass_le hpass)
  | case2 i p h =>
      rw [parseUIntEntered, dif_neg h]
      simp

/-- No pass of the router's loop wraps. -/
theorem parse_uintEntered_fits (memory : Bytes) (p : UInt64) (hp : p.toNat ≤ uint32Max) :
    ∀ pass ∈ parse_uintEntered memory p, NoWrap pass := by
  induction memory generalizing p with
  | nil => simp [parse_uintEntered]
  | cons c rest ih =>
      rw [parse_uintEntered]
      by_cases hc : c = 0
      · simp [hc]
      · rw [if_neg hc, parse_uintPass_eq]
        refine List.forall_mem_cons.mpr ⟨noWrap_of_le hp, ?_⟩
        cases hpass : parseUIntPass c p with
        | none => simp
        | some q => exact ih q (parseUIntPass_le hpass)

/-! ## The two functions -/

/-- What either function has to answer, with `result` the output before
the call. -/
def exact (value : Bytes) (result : UInt32) : Bool × UInt32 :=
  if Numeral value ∧ worth value ≤ uint32Max then (true, UInt32.ofNat (worth value))
  else (false, result)

/-- The verdict that goes with the answer of a loop. -/
theorem exact_of_answer {value : Bytes} (hne : value ≠ []) (result : UInt32)
    (loop : Option UInt64) :
    loop.map UInt64.toNat = answer 0 value →
      (match loop with
        | none => (false, result)
        | some parsed => (true, parsed.toUInt32)) = exact value result := by
  intro h
  have hiff : Fits 0 value ↔ Numeral value ∧ worth value ≤ uint32Max := by
    simp only [Fits, Numeral, worth, hne, ne_eq, not_false_eq_true, true_and]
  simp only [answer, hiff] at h
  cases loop with
  | none =>
      rw [exact, if_neg]
      intro hyes
      rw [if_pos hyes] at h
      cases h
  | some parsed =>
      split at h
      · next hyes =>
          have hworth : parsed.toNat = worth value := Option.some.inj h
          rw [exact, if_pos hyes, ← hworth]
          rfl
      · cases h

theorem parseUInt_eq (value : Bytes) (result : UInt32) :
    parseUInt value result = exact value result := by
  cases value with
  | nil => rfl
  | cons c rest =>
      have hloop := parseUIntLoop_eq (c :: rest) 0 0 (by decide)
      rw [List.drop_zero] at hloop
      exact exact_of_answer (List.cons_ne_nil c rest) result _ hloop

theorem parse_uint_eq {value : Bytes} (hnul : (0 : UInt8) ∉ value) (more : Bytes)
    (result : UInt32) :
    parse_uint (some (value ++ 0 :: more)) (some result) =
      ((exact value result).1, some (exact value result).2) := by
  cases value with
  | nil => rfl
  | cons c rest =>
      have hhead : (c :: rest ++ 0 :: more).headD 0 ≠ 0 := Ne.symm (not_mem_cons hnul).1
      have hloop := parse_uintLoop_eq (c :: rest) more 0 hnul (by decide)
      have hexact := exact_of_answer (List.cons_ne_nil c rest) result _ hloop
      simp only [parse_uint]
      rw [if_neg hhead, ← hexact]
      cases parse_uintLoop (c :: rest ++ 0 :: more) 0 with
      | none => rfl
      | some parsed => rfl

/-- The field reader of the receivers, over the loop of either source. -/
theorem parseDigits_eq (value : Bytes) (p : UInt64) (hp : p.toNat ≤ uint32Max) :
    parseDigits p.toNat value = answer p.toNat value := by
  induction value generalizing p with
  | nil => rw [answer_nil hp, parseDigits]
  | cons c rest ih =>
      rw [answer_cons hp, parseDigits]
      have hpass := parseUIntPass_eq (c := c) hp
      cases hc : isDigit c with
      | false => simp [parseUIntPass, hc]
      | true =>
          have hmod : (p.toNat * 10 + (c.toNat - 0x30)) % 2 ^ 64 =
              p.toNat * 10 + digitValue c :=
            Nat.mod_eq_of_lt (digit_fits hc hp)
          simp only [Bool.not_true, Bool.false_eq_true, if_false, hmod]
          simp only [hc, true_and] at hpass
          cases hq : parseUIntPass c p with
          | none =>
              rw [hq, Option.map_none] at hpass
              split at hpass
              · cases hpass
              · next hno => rw [if_pos (Nat.not_le.mp hno), Option.bind_none]
          | some q =>
              rw [hq, Option.map_some] at hpass
              split at hpass
              · next hyes =>
                  have hnext : q.toNat = p.toNat * 10 + digitValue c := Option.some.inj hpass
                  rw [if_neg (Nat.not_lt.mpr hyes), Option.bind_some, ← hnext]
                  exact ih q (parseUIntPass_le hq)
              · cases hpass

/-- The receivers' field reader gives the answer that both sources give. -/
theorem parseUInt_wire (value : Bytes) (result : UInt32) :
    Bmx1.parseUInt value =
      if (parseUInt value result).1 then some (parseUInt value result).2 else none := by
  have hdigits := parseDigits_eq value 0 (by decide)
  rw [parseUInt_eq, Bmx1.parseUInt]
  cases value with
  | nil => rfl
  | cons c rest =>
      have hiff : Fits 0 (c :: rest) ↔ Numeral (c :: rest) ∧ worth (c :: rest) ≤ uint32Max := by
        simp [Fits, Numeral, worth]
      simp only [UInt64.toNat_zero] at hdigits
      rw [hdigits, answer, exact]
      simp only [List.isEmpty_cons, Bool.false_eq_true, if_false, hiff, worth]
      by_cases hyes : Numeral (c :: rest) ∧ worthFrom 0 (c :: rest) ≤ uint32Max
      · simp [hyes]
      · simp [hyes]

/-! ## The decimal fields are read exactly -/

/-- **Both readers accept exactly the numerals up to `UINT32_MAX`.** Each
gives the numeral's value, leaves the output as it was when it refuses,
and never makes a multiply-and-add that wraps around. `more` is what
follows the text in the router's memory. -/
theorem decimal_fields_exact (value : NulFree) (more : Bytes) (result : UInt32) :
    parseUInt value.bytes result = exact value.bytes result ∧
      parse_uint (some (value.bytes ++ 0 :: more)) (some result) =
        ((parseUInt value.bytes result).1, some (parseUInt value.bytes result).2) ∧
      (∀ pass ∈ parseUIntEntered value.bytes 0 0, NoWrap pass) ∧
      (∀ pass ∈ parse_uintEntered (value.bytes ++ 0 :: more) 0, NoWrap pass) ∧
      ∀ n : Nat, worth (List.replicate n 0x30 ++ value.bytes) = worth value.bytes := by
  have hbridge := parseUInt_eq value.bytes result
  have hrouter := parse_uint_eq value.nulFree more result
  refine ⟨hbridge, ?_, ?_, ?_, fun n => worth_zeros n value.bytes⟩
  · rw [hrouter, hbridge]
  · exact parseUIntEntered_fits value.bytes 0 0 (by decide)
  · exact parse_uintEntered_fits (value.bytes ++ 0 :: more) 0 (by decide)

example : exact (ascii "0004294967295") 7 = (true, 4294967295) := by decide +kernel

example : exact (ascii "4294967296") 7 = (false, 7) := by decide +kernel

end Bootmux.Decimal
