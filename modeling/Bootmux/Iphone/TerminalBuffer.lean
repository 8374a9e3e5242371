/-
Bootmux.Iphone.TerminalBuffer — the text a terminal shows
(`TerminalBuffer.swift`, `ANSISanitizer.swift`).

A string is its UTF-8 bytes and a Unicode scalar the bytes of one
character, so that a scalar below 0x80 is a list of one byte. The bytes
`append` decodes are whole characters, because both strings are text and
the cut is moved to the next lead byte; `String(decoding:)` gives them
back as they are.

The history is kept as the bytes of its text. Cutting it begins at a
character, so what `String(decoding:)` makes of the cut is the cut itself.
-/
import Bootmux.Lib.Utf8
import Bootmux.Iphone.TerminalProtocol

namespace Bootmux.Iphone

open Bootmux.Bmx1 (Bytes ascii)
open Bootmux.Lib

/-! ## The history -/

structure TerminalBuffer where
  maxBytes : Nat
  text : Bytes
  pos : 0 < maxBytes
  deriving DecidableEq, Repr

namespace TerminalBuffer

def new (maxBytes : Nat) (pos : 0 < maxBytes) : TerminalBuffer := ⟨maxBytes, [], pos⟩

/-- The newest `maxBytes` bytes, without the tail of a character that was
cut. -/
def append (b : TerminalBuffer) (observedOutput : Bytes) : TerminalBuffer :=
  let bytes := b.text ++ observedOutput
  if bytes.length ≤ b.maxBytes then { b with text := bytes }
  else
    { b with
      text := (bytes.drop (bytes.length - b.maxBytes)).dropWhile fun x => x &&& 0xC0 = 0x80 }

def clear (b : TerminalBuffer) : TerminalBuffer := { b with text := [] }

end TerminalBuffer

/-! ## Control sequences -/

inductive SanitizerState where
  | normal
  | escape
  | csi
  | osc
  | oscEscape
  deriving DecidableEq, Repr

structure ANSISanitizer where
  state : SanitizerState := .normal
  pendingCR : Bool := false
  deriving DecidableEq, Repr

namespace ANSISanitizer

/-- The value of a scalar is that of one byte which satisfies `p`. -/
def among (p : UInt8 → Bool) : Bytes → Bool
  | [b] => p b
  | _ => false

/-- The `switch` over the state. -/
def consumeState (s : ANSISanitizer) (scalar : Bytes) : ANSISanitizer × Bytes :=
  match s.state with
  | .normal =>
      if scalar = [0x1B] then ({ s with state := .escape }, [])
      else if among (fun b => b < 0x20 && b != 0x09 && b != 0x0A && b != 0x0D) scalar then (s, [])
      else if scalar = [0x0D] then ({ s with pendingCR := true }, [])
      else (s, scalar)
  | .escape =>
      if scalar = [0x5B] then ({ s with state := .csi }, [])
      else if scalar = [0x5D] then ({ s with state := .osc }, [])
      else ({ s with state := .normal }, [])
  | .csi =>
      if among (fun b => 0x40 ≤ b && b ≤ 0x7E) scalar then ({ s with state := .normal }, [])
      else (s, [])
  | .osc =>
      if scalar = [0x07] then ({ s with state := .normal }, [])
      else if scalar = [0x1B] then ({ s with state := .oscEscape }, [])
      else (s, [])
  | .oscEscape => ({ s with state := if scalar = [0x5C] then .normal else .osc }, [])

/-- One scalar; a pending carriage return becomes a newline, alone or with
the newline that follows it. -/
def consumeScalar (s : ANSISanitizer) (scalar : Bytes) : ANSISanitizer × Bytes :=
  if s.state = .normal ∧ s.pendingCR then
    if scalar = [0x0A] then ({ s with pendingCR := false }, [0x0A])
    else
      let r := consumeState { s with pendingCR := false } scalar
      (r.1, 0x0A :: r.2)
  else consumeState s scalar

def consumeScalars (s : ANSISanitizer) : List Bytes → ANSISanitizer × Bytes
  | [] => (s, [])
  | scalar :: rest =>
      let r := s.consumeScalar scalar
      let t := consumeScalars r.1 rest
      (t.1, r.2 ++ t.2)

/-- `consume` with `final` false. -/
def consume (s : ANSISanitizer) (input : Bytes) : ANSISanitizer × Bytes :=
  s.consumeScalars ((Utf8.pieces input).map Utf8.Piece.bytes)

/-- `consume` of the empty string with `final` true. -/
def finish (s : ANSISanitizer) : ANSISanitizer × Bytes :=
  ({}, if s.pendingCR then [0x0A] else [])

end ANSISanitizer

end Bootmux.Iphone
