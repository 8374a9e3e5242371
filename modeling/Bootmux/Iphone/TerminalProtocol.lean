/-
Bootmux.Iphone.TerminalProtocol — the messages of the iPhone's terminal
(`TerminalProtocol.swift`).

Strings are their UTF-8 bytes. `encode` is the `JSONEncoder` with sorted
keys: the keys in alphabetical order, a field that is `nil` left out, the
strings escaped as Foundation does. `decodeServer` reads the object with
`JSONSerialization`; `as? Int` is taken as far as a number is written as
an integer, which is how the Companion writes its numbers.

Left out: `CodexRecoveryArtifacts`, which only looks at texts.
-/
import Bootmux.Lib.JsonValue
import Bootmux.Bmx1.Wire

namespace Bootmux.Iphone

open Bootmux.Bmx1 (Bytes ascii)
open Bootmux.Lib

namespace TerminalProtocolLimits

def webSocketMessageBytes : Nat := 16 * 1024
def jsonMessageBytes : Nat := 12 * 1024
def inputTextBytes : Nat := 8 * 1024
def terminalHistoryBytes : Nat := 128 * 1024

end TerminalProtocolLimits

/-! ## Messages to the Companion -/

structure ClientMessage where
  v : Nat
  type : String
  sessionID : Bytes
  text : Option Bytes
  control : Option String
  prompt : Option Bytes
  requestID : Option Bytes
  deriving DecidableEq, Repr

namespace ClientMessage

def input (sessionID text : Bytes) : ClientMessage :=
  ⟨1, "input_text", sessionID, some text, none, none, none⟩

def interrupt (sessionID : Bytes) : ClientMessage :=
  ⟨1, "control", sessionID, none, some "interrupt", none, none⟩

def close (sessionID : Bytes) : ClientMessage := ⟨1, "close", sessionID, none, none, none, none⟩

def codexPrompt (sessionID prompt requestID : Bytes) : ClientMessage :=
  ⟨1, "codex_prompt", sessionID, none, none, some prompt, some requestID⟩

def codexCancel (sessionID requestID : Bytes) : ClientMessage :=
  ⟨1, "codex_cancel", sessionID, none, none, none, some requestID⟩

def codexNewSession (sessionID : Bytes) : ClientMessage :=
  ⟨1, "codex_new_session", sessionID, none, none, none, none⟩

end ClientMessage

/-- A field that may be `nil`, under its key. -/
def optionalMember (key : String) (value : Option Bytes) : List (Bytes × Bytes) :=
  match value with
  | none => []
  | some value => [(ascii key, Json.quoteSlash value)]

/-- The keys and literals of a message, in the order of the keys. -/
def ClientMessage.members (m : ClientMessage) : List (Bytes × Bytes) :=
  optionalMember "control" (m.control.map ascii) ++ optionalMember "prompt" m.prompt ++
    optionalMember "request_id" m.requestID ++
    [(ascii "session_id", Json.quoteSlash m.sessionID)] ++ optionalMember "text" m.text ++
    [(ascii "type", Json.quoteSlash (ascii m.type)), (ascii "v", ascii (toString m.v))]

def encode (m : ClientMessage) : Bytes := Json.objectText m.members

/-! ## Messages from the Companion -/

inductive ServerMessage where
  | hello (sessionID : Bytes)
  | mirrorHello (sessionID : Bytes)
  | output (sessionID text : Bytes)
  | mirrorOutput (sessionID text : Bytes)
  | exit (sessionID : Bytes) (code : Int)
  | error (sessionID code message : Bytes)
  | mirrorError (sessionID code message : Bytes)
  | codexStarted (sessionID requestID : Bytes)
  | codexOutput (sessionID requestID text : Bytes)
  | codexExit (sessionID requestID : Bytes) (code : Int)
  | codexError (sessionID requestID code message : Bytes)
  deriving DecidableEq, Repr

inductive ProtocolError where
  | malformed
  | unsupportedVersion
  | wrongSession
  | unsupportedMessage
  deriving DecidableEq, Repr

def ProtocolError.errorDescription : ProtocolError → String
  | malformed => "Malformed terminal message."
  | unsupportedVersion => "Unsupported terminal protocol version."
  | wrongSession => "Terminal session mismatch."
  | unsupportedMessage => "Unsupported terminal message."

def version : Int := 1

/-- `dictionary[key] as? String`. -/
def stringAt (object : Json.Value) (key : String) : Option Bytes :=
  (object.get? (ascii key)).bind (·.string?)

/-- `dictionary[key] as? Int`. -/
def intAt (object : Json.Value) (key : String) : Option Int :=
  (object.get? (ascii key)).bind (·.int?)

/-- The `guard` of a case: malformed unless the fields are there. -/
def orMalformed (message : Option ServerMessage) : Except ProtocolError ServerMessage :=
  match message with
  | none => .error .malformed
  | some message => .ok message

/-- The `switch` over the type. -/
def decodeCase (object : Json.Value) (type sessionID : Bytes) :
    Except ProtocolError ServerMessage :=
  let string := stringAt object
  let int := intAt object
  if type = ascii "hello" then .ok (.hello sessionID)
  else if type = ascii "mirror_hello" then .ok (.mirrorHello sessionID)
  else if type = ascii "output" then
    if string "stream" ≠ some (ascii "pty") then .error .malformed
    else orMalformed ((string "text").map (.output sessionID))
  else if type = ascii "mirror_output" then
    if string "stream" ≠ some (ascii "hid_mirror") then .error .malformed
    else orMalformed ((string "text").map (.mirrorOutput sessionID))
  else if type = ascii "exit" then orMalformed ((int "exit_code").map (.exit sessionID))
  else if type = ascii "error" then
    orMalformed ((string "code").bind fun code => (string "message").map (.error sessionID code))
  else if type = ascii "mirror_error" then
    if string "stream" ≠ some (ascii "hid_mirror") then .error .malformed
    else
      orMalformed
        ((string "code").bind fun code => (string "message").map (.mirrorError sessionID code))
  else if type = ascii "codex_started" then
    orMalformed ((string "request_id").map (.codexStarted sessionID))
  else if type = ascii "codex_output" then
    orMalformed
      ((string "request_id").bind fun request =>
        (string "text").map (.codexOutput sessionID request))
  else if type = ascii "codex_exit" then
    orMalformed
      ((string "request_id").bind fun request =>
        (int "exit_code").map (.codexExit sessionID request))
  else if type = ascii "codex_error" then
    orMalformed
      ((string "request_id").bind fun request =>
        (string "code").bind fun code =>
          (string "message").map (.codexError sessionID request code))
  else .error .unsupportedMessage

def decodeServer (data : Bytes) (expectedSession : Option Bytes) :
    Except ProtocolError ServerMessage :=
  match Json.parse data with
  | some (.object members) =>
      let object := Json.Value.object members
      match intAt object "v", stringAt object "type", stringAt object "session_id" with
      | some v, some type, some sessionID =>
          if v ≠ version then .error .unsupportedVersion
          else if expectedSession.any (· ≠ sessionID) ∧ type ≠ ascii "hello" then
            .error .wrongSession
          else decodeCase object type sessionID
      | some v, _, _ => if v ≠ version then .error .unsupportedVersion else .error .malformed
      | none, _, _ => .error .malformed
  | _ => .error .malformed

end Bootmux.Iphone
