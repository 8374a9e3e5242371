/-
Bootmux.Iphone.Protocol — how the iPhone client makes the frames of a
text (`BLEProtocol.swift`, `BLEChunker.swift`).

Strings are their UTF-8 bytes. `Array(text)` is a list of characters; in
the texts that pass the first guard of `frames` a character is one byte,
except that a carriage return and a newline after it are one character.
`escape` replaces bytes, which is what `replacingOccurrences` does to a
text without such a pair; the client sends no text with line breaks.

A frame is made for each chunk, with the number of the part and of all
parts. `chunkLoop` takes characters as long as the frame is within the limit
of a write, by the estimate of the source.
-/
import Bootmux.Bmx1.Framing

namespace Bootmux.Iphone

open Bootmux.Bmx1

/-- The errors the makers of frames throw. -/
inductive BLEProtocolError where
  | nonASCII
  | emptySession
  | oversizedText
  | tooManyParts
  | invalidWiFiCredentials
  | oversizedWiFiPayload
  deriving DecidableEq, Repr

def maximumCommittedBytes : Nat := 512
def maximumParts : Nat := 32

/-! ## Frames -/

/-- `replacingOccurrences` of one byte. -/
def replacingOccurrences (value : Bytes) (target : UInt8) (replacement : Bytes) : Bytes :=
  value.flatMap fun c => if c = target then replacement else [c]

/-- `escape`: backslash first, then pipe, newline and carriage return. -/
def escape (value : Bytes) : Bytes :=
  let value := replacingOccurrences value backslash [backslash, backslash]
  let value := replacingOccurrences value pipe [backslash, pipe]
  let value := replacingOccurrences value newline [backslash, 0x6E]
  replacingOccurrences value carriageReturn [backslash, 0x72]

def validSession (value : Bytes) : Except BLEProtocolError Bytes :=
  if value.isEmpty || value.contains pipe || value.contains backslash then .error .emptySession
  else .ok value

def frame (fields : List Bytes) : Except BLEProtocolError Bytes :=
  let value := joinFields fields
  if value.length > maximumCommittedBytes then .error .oversizedText else .ok value

def text (session : Bytes) (sequence : UInt32) (part total : Nat) (payload : Bytes) :
    Except BLEProtocolError Bytes :=
  if !(decide (0 < total) && decide (total ≤ maximumParts) && decide (part < total)) then
    .error .tooManyParts
  else do
    let session ← validSession session
    frame [ascii "BMX1", ascii "TEXT", session, decimal sequence.toNat, decimal part,
      decimal total, escape payload]

/-! ## The chunker -/

/-- The bytes a text to be sent may have. -/
def sendable (c : UInt8) : Bool := 0x20 ≤ c && c ≤ 0x7E || c == newline || c == carriageReturn

/-- `Array(text)`. -/
def characters : Bytes → List Bytes
  | [] => []
  | [c] => [[c]]
  | c :: d :: rest =>
      if c = carriageReturn ∧ d = newline then [c, d] :: characters rest
      else [c] :: characters (d :: rest)

/-- The loop of `frames`: the finished chunks and the current one. -/
def chunkLoop (maximumWriteBytes : Int) (overhead : Nat) (chunks : List Bytes)
    (current : Bytes) : List Bytes → List Bytes × Bytes
  | [] => (chunks, current)
  | character :: rest =>
      let candidate := current ++ character
      let escapedBytes := (escape candidate).length
      if !current.isEmpty && decide ((escapedBytes + overhead : Nat) > maximumWriteBytes) then
        chunkLoop maximumWriteBytes overhead (chunks ++ [current]) character rest
      else chunkLoop maximumWriteBytes overhead chunks candidate rest

/-- The chunks of a text. -/
def chunksOf (maximumWriteBytes : Int) (session : Bytes) (sequence : UInt32) (text : Bytes) :
    List Bytes :=
  let overhead := 32 + session.length + (decimal sequence.toNat).length + 8
  let r := chunkLoop maximumWriteBytes overhead [] [] (characters text)
  if !r.2.isEmpty || text.isEmpty then r.1 ++ [r.2] else r.1

/-- `BLEChunker.frames`. -/
def frames (maximumWriteBytes : Int) (session : Bytes) (sequence : UInt32) (text : Bytes) :
    Except BLEProtocolError (List Bytes) :=
  if !text.all sendable then .error .nonASCII
  else if text.length > maximumCommittedBytes then .error .oversizedText
  else
    let chunks := chunksOf maximumWriteBytes session sequence text
    if chunks.length > maximumParts then .error .tooManyParts
    else chunks.zipIdx.mapM fun (chunk, index) =>
      Iphone.text session sequence index chunks.length chunk

end Bootmux.Iphone
