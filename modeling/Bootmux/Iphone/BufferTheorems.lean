/-
Bootmux.Iphone.BufferTheorems — the terminal history is the end of what
was appended since the last clear.

`String(decoding:)` is a parameter here: all that is used of it is that
it gives back bytes that are UTF-8. `append` cuts what was kept before
together with what comes new, and `LongestSuffix.append` says that this
is the cut of everything; the rest is one induction over the calls.

The calls are `append` and `clear` in any order, with any bytes that are
UTF-8. Each bound of the buffer is a suffix that starts at a character, so
no call can leave the beginning of a character behind, and no replacement
character ever comes into the history.
-/
import Bootmux.Lib.Utf8Suffix
import Bootmux.Iphone.TerminalBuffer

namespace Bootmux.Iphone

open Bootmux.Bmx1 (Bytes ascii)
open Bootmux.Lib

/-- A Swift `String`, as its UTF-8 bytes. -/
def SwiftString := { bytes : Bytes // Utf8.valid bytes = true }

inductive BufferCall where
  | append (observedOutput : SwiftString)
  | clear

/-- What was appended since the last clear. -/
def observed (calls : List BufferCall) : Bytes :=
  calls.foldl (fun shown call => match call with
    | .append s => shown ++ s.1
    | .clear => []) []

namespace TerminalBuffer

theorem isTail_mask : ∀ n : Fin 256,
    ((UInt8.ofNat n) &&& 0xC0 = 0x80) ↔ Utf8.isTail (UInt8.ofNat n) = true := by decide +kernel

/-- The mask of the source finds the bytes inside of a character. -/
theorem isTail_iff (x : UInt8) : (x &&& 0xC0 = 0x80) ↔ Utf8.isTail x = true := by
  have h := isTail_mask ⟨x.toNat, x.toNat_lt⟩
  rwa [UInt8.ofNat_toNat] at h

/-- What is kept after an append is the longest end that fits. -/
theorem append_text (b : TerminalBuffer) (s : Bytes) :
    (b.append s).text = Utf8.cutLast b.maxBytes (b.text ++ s) := by
  have hmask : (fun x : UInt8 => decide (x &&& 0xC0 = 0x80)) = Utf8.isTail := by
    funext x
    rw [Bool.eq_iff_iff, decide_eq_true_eq]
    exact isTail_iff x
  unfold append Utf8.cutLast
  dsimp only
  split
  · rfl
  · rw [hmask]

@[simp] theorem append_maxBytes (b : TerminalBuffer) (s : Bytes) :
    (b.append s).maxBytes = b.maxBytes := by
  unfold append
  dsimp only
  split <;> rfl

section

variable (decode : Bytes → Bytes)

/-- One call; the bytes `append` is left with go through
`String(decoding:as:)`. -/
def call (b : TerminalBuffer) : BufferCall → TerminalBuffer
  | .append s => { b.append s.1 with text := decode (b.append s.1).text }
  | .clear => b.clear

def run (maxBytes : Nat) (pos : 0 < maxBytes) (calls : List BufferCall) : TerminalBuffer :=
  calls.foldl (call decode) (new maxBytes pos)

theorem run_concat (maxBytes : Nat) (pos : 0 < maxBytes) (calls : List BufferCall)
    (c : BufferCall) :
    run decode maxBytes pos (calls ++ [c]) = call decode (run decode maxBytes pos calls) c := by
  rw [run, List.foldl_append]
  rfl

@[simp] theorem run_maxBytes (maxBytes : Nat) (pos : 0 < maxBytes) (calls : List BufferCall) :
    (run decode maxBytes pos calls).maxBytes = maxBytes := by
  induction calls using List.reverseRecOn with
  | nil => rfl
  | append_singleton calls c ih =>
      rw [run_concat]
      cases c with
      | append s =>
          show ((run decode maxBytes pos calls).append s.1).maxBytes = maxBytes
          rw [append_maxBytes, ih]
      | clear => exact ih

end

end TerminalBuffer

/-- An append adds to what was seen. -/
theorem observed_append (calls : List BufferCall) (s : SwiftString) :
    observed (calls ++ [.append s]) = observed calls ++ s.1 := by
  rw [observed, List.foldl_append]
  rfl

/-- A clear forgets it. -/
theorem observed_clear (calls : List BufferCall) : observed (calls ++ [.clear]) = [] := by
  rw [observed, List.foldl_append]
  rfl

/-- Texts after one another are a text. -/
theorem observed_valid (calls : List BufferCall) : Utf8.valid (observed calls) = true := by
  induction calls using List.reverseRecOn with
  | nil => rfl
  | append_singleton calls c ih =>
      cases c with
      | append s =>
          rw [observed_append, Utf8.valid_append ih]
          exact s.2
      | clear =>
          rw [observed_clear]
          rfl

/-- One append cuts everything, if what was kept is the cut of
everything before. -/
theorem call_append_longest {decode : Bytes → Bytes}
    (hdecode : ∀ bytes, Utf8.valid bytes = true → decode bytes = bytes) {b : TerminalBuffer}
    {shown : Bytes} (hshown : Utf8.valid shown = true)
    (h : Utf8.LongestSuffix b.maxBytes shown b.text) (s : SwiftString) :
    Utf8.LongestSuffix b.maxBytes (shown ++ s.1) (b.call decode (.append s)).text := by
  have htext : Utf8.valid (b.text ++ s.1) = true := by
    rw [Utf8.valid_append (h.suffix.valid hshown)]
    exact s.2
  have hcut := Utf8.cutLast_longest b.maxBytes htext
  rw [← b.append_text] at hcut
  have hdecoded : (b.call decode (.append s)).text = (b.append s.1).text :=
    hdecode _ (hcut.suffix.valid htext)
  rw [hdecoded]
  exact h.append hshown hcut

/-- The induction over the calls. -/
theorem run_longest {decode : Bytes → Bytes}
    (hdecode : ∀ bytes, Utf8.valid bytes = true → decode bytes = bytes) {maxBytes : Nat}
    (pos : 0 < maxBytes) (calls : List BufferCall) :
    Utf8.LongestSuffix maxBytes (observed calls)
      (TerminalBuffer.run decode maxBytes pos calls).text := by
  have hempty : Utf8.LongestSuffix maxBytes [] [] :=
    ⟨⟨[], rfl, rfl⟩, Nat.zero_le _, fun u hu _ => hu.isSuffix.length_le⟩
  induction calls using List.reverseRecOn with
  | nil => exact hempty
  | append_singleton calls c ih =>
      rw [TerminalBuffer.run_concat]
      cases c with
      | append s =>
          rw [observed_append]
          have h := call_append_longest hdecode
            (b := TerminalBuffer.run decode maxBytes pos calls) (observed_valid calls)
            (by rw [TerminalBuffer.run_maxBytes]; exact ih) s
          rwa [TerminalBuffer.run_maxBytes] at h
      | clear =>
          rw [observed_clear]
          exact hempty

/-- **The history is a chunk-independent suffix**: the longest end of
what was appended since the last clear that fits and starts at a scalar;
the same however the output was split; with no replacement character of
its own. -/
theorem history_suffix {decode : Bytes → Bytes}
    (hdecode : ∀ bytes, Utf8.valid bytes = true → decode bytes = bytes) {maxBytes : Nat}
    (pos : 0 < maxBytes) (calls : List BufferCall) :
    Utf8.LongestSuffix maxBytes (observed calls)
        (TerminalBuffer.run decode maxBytes pos calls).text ∧
      (∀ others, observed others = observed calls →
        (TerminalBuffer.run decode maxBytes pos others).text =
          (TerminalBuffer.run decode maxBytes pos calls).text) ∧
      (Utf8.replacement <:+: (TerminalBuffer.run decode maxBytes pos calls).text →
        Utf8.replacement <:+: observed calls) := by
  have h := run_longest hdecode pos calls
  refine ⟨h, fun others hsame => ?_, fun hin => hin.trans h.suffix.isSuffix.isInfix⟩
  have hothers := run_longest hdecode pos others
  rw [hsame] at hothers
  exact hothers.unique h

/-- Two bytes of history and the two appends `é` and `a`. -/
theorem history_suffix_two_bytes :
    Utf8.LongestSuffix 2 [0xC3, 0xA9, 0x61]
      (TerminalBuffer.run Utf8.sanitize 2 (by decide)
        [.append ⟨[0xC3, 0xA9], by decide⟩, .append ⟨[0x61], by decide⟩]).text :=
  (history_suffix (fun _ => Utf8.sanitize_of_valid) (by decide)
    [.append ⟨[0xC3, 0xA9], by decide⟩, .append ⟨[0x61], by decide⟩]).1

end Bootmux.Iphone
