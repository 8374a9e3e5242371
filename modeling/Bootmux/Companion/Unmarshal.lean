/-
Bootmux.Companion.Unmarshal — `json.Unmarshal` into a `clientMessage`
(`protocol.go`).

The members of the object are taken in order; a key names the field it
equals up to the case of its letters, an unknown key is passed over, and
`null` leaves a field as it is. Bytes of a string that are not UTF-8 are
replaced. A string with half of a surrogate pair is rejected here, where
the library replaces that half too; the letters that are equal up to case
are those of ASCII.

This is one instance of the parser that `Config.unmarshal` stands for. The
results about sessions hold for any other, and those about both ends of the
connection use this one.
-/
import Bootmux.Lib.JsonValue
import Bootmux.Companion.Protocol

namespace Bootmux.Companion

open Bootmux.Lib

def foldCase (key : Bytes) : Bytes :=
  key.map fun b => if 0x41 ≤ b ∧ b ≤ 0x5A then b + 0x20 else b

def clientType (type : Bytes) : ClientType :=
  if type = [] then .empty
  else if type = ascii "input_text" then .inputText
  else if type = ascii "control" then .control
  else if type = ascii "close" then .close
  else if type = ascii "codex_prompt" then .codexPrompt
  else if type = ascii "codex_cancel" then .codexCancel
  else if type = ascii "codex_new_session" then .codexNewSession
  else .other

/-- A string field, set by `f` unless the value is `null`. -/
def setString (msg : ClientMessage) (value : Json.Value) (f : Bytes → ClientMessage) :
    Option ClientMessage :=
  match value with
  | .null => some msg
  | .string s => some (f (Utf8.sanitize s))
  | _ => none

def setField (msg : ClientMessage) (key : Bytes) (value : Json.Value) : Option ClientMessage :=
  let key := foldCase key
  if key = ascii "v" then
    match value with
    | .null => some msg
    | value => value.int?.map fun version => { msg with version := version }
  else if key = ascii "type" then setString msg value fun s => { msg with type := clientType s }
  else if key = ascii "session_id" then setString msg value fun s => { msg with sessionID := s }
  else if key = ascii "text" then setString msg value fun s => { msg with text := s }
  else if key = ascii "control" then
    setString msg value fun s => { msg with interrupt := s = ascii "interrupt" }
  else if key = ascii "prompt" then setString msg value fun s => { msg with prompt := s }
  else if key = ascii "request_id" then setString msg value fun s => { msg with requestID := s }
  else some msg

def setFields : ClientMessage → List (Bytes × Json.Value) → Option ClientMessage
  | msg, [] => some msg
  | msg, (key, value) :: members => (setField msg key value).bind (setFields · members)

/-- The zero value of `clientMessage`. -/
def zeroMessage : ClientMessage := { version := 0, type := .empty, sessionID := [] }

def unmarshal (data : Bytes) : Option ClientMessage :=
  match Json.parse data with
  | some (.object members) => setFields zeroMessage members
  | some .null => some zeroMessage
  | _ => none

end Bootmux.Companion
