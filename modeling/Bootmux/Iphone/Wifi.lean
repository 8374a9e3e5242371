/-
Bootmux.Iphone.Wifi — the frames of the iPhone client other than those
of a text (`BLEProtocol.swift`, `BLEChunker.swift`).

`wifiPayload` is the base64 of the JSON object `JSONSerialization` makes
of the two credentials, with sorted keys. The two loops of `wifiFrames`
are bounded by a fuel they do not use up: a round of the search makes
the interval smaller, and a round of the outer loop takes at least one
byte.

Two bounds of the source meet here, that of the parts and that of the length
of a frame; `wifiChunks` looks for the longest chunk whose frame is within
the limit, with the largest numbers that the frame could have.
-/
import Bootmux.Lib.Base64
import Bootmux.Lib.JsonValue
import Bootmux.Iphone.Protocol

namespace Bootmux.Iphone

open Bootmux.Bmx1
open Bootmux.Lib

inductive BLEControl where
  | enter
  | backspace
  | ctrlC
  | stop
  | resume
  deriving DecidableEq, Repr

def BLEControl.rawValue : BLEControl → String
  | enter => "ENTER"
  | backspace => "BACKSPACE"
  | ctrlC => "CTRL_C"
  | stop => "STOP"
  | resume => "RESUME"

/-! ## Frames of one part -/

/-- A frame with a session, a sequence and one more field. -/
def commandFrame (type : String) (session : Bytes) (sequence : UInt32) (argument : String) :
    Except BLEProtocolError Bytes := do
  let session ← validSession session
  frame [ascii "BMX1", ascii type, session, decimal sequence.toNat, ascii argument]

/-- `BLEProtocol.open`. -/
def openFrame (session : Bytes) : Except BLEProtocolError Bytes := do
  let session ← validSession session
  frame [ascii "BMX1", ascii "OPEN", session]

def control (session : Bytes) (sequence : UInt32) (control : BLEControl) :
    Except BLEProtocolError Bytes :=
  commandFrame "CTRL" session sequence control.rawValue

def wifiStatus (session : Bytes) (sequence : UInt32) : Except BLEProtocolError Bytes :=
  commandFrame "WIFI_STATUS" session sequence "STATUS"

def wifiClear (session : Bytes) (sequence : UInt32) : Except BLEProtocolError Bytes :=
  commandFrame "WIFI_CLEAR" session sequence "CLEAR"

def proxyStatus (session : Bytes) (sequence : UInt32) : Except BLEProtocolError Bytes :=
  commandFrame "PROXY_STATUS" session sequence "STATUS"

/-! ## Credentials -/

def printable (c : UInt8) : Bool := 0x20 ≤ c && c ≤ 0x7E

def wifiProvision (session : Bytes) (sequence : UInt32) (part total : Nat) (payload : Bytes) :
    Except BLEProtocolError Bytes :=
  if !(decide (0 < total) && decide (total ≤ 16) && decide (part < total) &&
      payload.all printable) then .error .oversizedWiFiPayload
  else do
    let session ← validSession session
    frame [ascii "BMX1", ascii "WIFI", session, decimal sequence.toNat, decimal part,
      decimal total, payload]

/-- The object with the keys `password` and `ssid`. -/
def wifiJson (ssid password : Bytes) : Bytes :=
  Json.objectText
    [(ascii "password", Json.quoteSlash password), (ascii "ssid", Json.quoteSlash ssid)]

/-- The lengths of the credentials, which have no zero byte. -/
def validCredentials (ssid password : Bytes) : Bool :=
  !ssid.isEmpty && decide (ssid.length ≤ 32) && !ssid.contains 0 &&
    decide (password.length ≤ 63) && (password.isEmpty || decide (8 ≤ password.length)) &&
    !password.contains 0

def wifiPayload (ssid password : Bytes) : Except BLEProtocolError Bytes :=
  if !validCredentials ssid password then .error .invalidWiFiCredentials
  else
    let encoded := Base64.encode (wifiJson ssid password)
    if encoded.length > 16 * 480 then .error .oversizedWiFiPayload else .ok encoded

/-! ## Chunks of credentials -/

/-- The first `mid` bytes fit into a frame. -/
def chunkFits (maximumWriteBytes : Int) (session : Bytes) (sequence : UInt32) (bytes : Bytes)
    (mid : Nat) : Bool :=
  match wifiProvision session sequence 15 16 (bytes.take mid) with
  | .ok frame => decide ((frame.length : Int) ≤ maximumWriteBytes)
  | .error _ => false

/-- The binary search for the longest chunk. -/
def searchBest (fits : Nat → Bool) : Nat → Nat → Nat → Nat → Nat
  | 0, _, _, best => best
  | fuel + 1, low, high, best =>
      if low ≤ high then
        let mid := (low + high) / 2
        if fits mid then searchBest fits fuel (mid + 1) high mid
        else searchBest fits fuel low (mid - 1) best
      else best

def wifiChunks (maximumWriteBytes : Int) (session : Bytes) (sequence : UInt32) :
    Nat → Bytes → Except BLEProtocolError (List Bytes)
  | 0, _ => .ok []
  | fuel + 1, bytes =>
      if bytes.isEmpty then .ok []
      else
        let best := searchBest (chunkFits maximumWriteBytes session sequence bytes)
          (bytes.length + 1) 1 bytes.length 0
        if best = 0 then .error .oversizedWiFiPayload
        else do
          let rest ← wifiChunks maximumWriteBytes session sequence fuel (bytes.drop best)
          return bytes.take best :: rest

def wifiFrames (maximumWriteBytes : Int) (session : Bytes) (sequence : UInt32) (payload : Bytes) :
    Except BLEProtocolError (List Bytes) :=
  if payload.isEmpty then .error .oversizedWiFiPayload
  else do
    let chunks ← wifiChunks maximumWriteBytes session sequence payload.length payload
    if chunks.length > 16 then .error .tooManyParts
    else chunks.zipIdx.mapM fun (chunk, index) =>
      wifiProvision session sequence index chunks.length chunk

end Bootmux.Iphone
