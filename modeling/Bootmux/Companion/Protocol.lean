/-
Bootmux.Companion.Protocol — the messages of the Companion
(`protocol.go`).

`serverMessage` has a string field for each of its JSON keys; the ones
that only ever hold a few values are enumerations here, with the text
the source writes for them. An error's code and message are passed side
by side in the source and always paired the same way, so one `Code`
carries both. `encode` is `websocket.Conn.WriteJSON` of the message: the
object in the order of the struct's fields, the empty fields left out,
and a newline.

`decodeClientMessage` is the check of a message that was parsed: the
protocol version, the session and, by the type, the fields that have to be
there. The codes of its errors are those that the session answers with.
-/
import Bootmux.Lib.Json
import Bootmux.Companion.Output

namespace Bootmux.Companion

open Bootmux.Lib

/-- The bytes of a string of the source. -/
def ascii (s : String) : Bytes := s.toUTF8.data.toList

/-- `newSessionID`: the hexadecimal digits of 16 random bytes. -/
def newSessionID (random : Vector UInt8 16) : Bytes :=
  random.toList.flatMap fun (b : UInt8) => [Json.hexDigit (b >>> 4), Json.hexDigit (b &&& 0xF)]

/-! ## Messages to the client -/

inductive MessageType where
  | hello
  | output
  | exit
  | error
  | codexStarted
  | codexOutput
  | codexExit
  | codexError
  | mirrorHello
  | mirrorOutput
  | mirrorError
  deriving DecidableEq, Repr

def MessageType.text : MessageType → String
  | hello => "hello"
  | output => "output"
  | exit => "exit"
  | error => "error"
  | codexStarted => "codex_started"
  | codexOutput => "codex_output"
  | codexExit => "codex_exit"
  | codexError => "codex_error"
  | mirrorHello => "mirror_hello"
  | mirrorOutput => "mirror_output"
  | mirrorError => "mirror_error"

inductive Stream where
  | pty
  | hidMirror
  deriving DecidableEq, Repr

def Stream.text : Stream → String
  | pty => "pty"
  | hidMirror => "hid_mirror"

inductive Code where
  | sessionCreationFailed
  | ptyStartFailed
  | jsonTooLarge
  | malformedJson
  | unsupportedVersion
  | malformedMessage
  | unsupportedControl
  | unsupportedMessageType
  | inputTooLarge
  | codexPromptTooLarge
  | wrongSession
  | inputOverflow
  | inputFailed
  | outputOverflow
  | ptyReadFailed
  | codexBusy
  | codexStartFailed
  | codexOutputOverflow
  | codexTimeout
  | codexCancelled
  | codexFailed
  | mirrorReadOnly
  | mirrorSourceUnavailable
  deriving DecidableEq, Repr

def Code.text : Code → String
  | sessionCreationFailed => "session_creation_failed"
  | ptyStartFailed => "pty_start_failed"
  | jsonTooLarge => "json_too_large"
  | malformedJson => "malformed_json"
  | unsupportedVersion => "unsupported_version"
  | malformedMessage => "malformed_message"
  | unsupportedControl => "unsupported_control"
  | unsupportedMessageType => "unsupported_message_type"
  | inputTooLarge => "input_too_large"
  | codexPromptTooLarge => "codex_prompt_too_large"
  | wrongSession => "wrong_session"
  | inputOverflow => "input_overflow"
  | inputFailed => "input_failed"
  | outputOverflow => "output_overflow"
  | ptyReadFailed => "pty_read_failed"
  | codexBusy => "codex_busy"
  | codexStartFailed => "codex_start_failed"
  | codexOutputOverflow => "codex_output_overflow"
  | codexTimeout => "codex_timeout"
  | codexCancelled => "codex_cancelled"
  | codexFailed => "codex_failed"
  | mirrorReadOnly => "mirror_read_only"
  | mirrorSourceUnavailable => "mirror_source_unavailable"

def Code.message : Code → String
  | sessionCreationFailed => "session unavailable"
  | ptyStartFailed => "shell unavailable"
  | jsonTooLarge => "request exceeds JSON message limit"
  | malformedJson => "request rejected"
  | unsupportedVersion => "request rejected"
  | malformedMessage => "request rejected"
  | unsupportedControl => "request rejected"
  | unsupportedMessageType => "request rejected"
  | inputTooLarge => "input text exceeds limit"
  | codexPromptTooLarge => "Codex prompt exceeds limit"
  | wrongSession => "session rejected"
  | inputOverflow => "terminal input queue limit exceeded"
  | inputFailed => "terminal input unavailable"
  | outputOverflow => "terminal output limit exceeded"
  | ptyReadFailed => "terminal output unavailable"
  | codexBusy => "only one Codex process is allowed"
  | codexStartFailed => "Codex executable unavailable"
  | codexOutputOverflow => "Codex output limit exceeded"
  | codexTimeout => "Codex execution timed out"
  | codexCancelled => "Codex execution cancelled"
  | codexFailed => "Codex execution failed"
  | mirrorReadOnly => "HID mirror does not accept input"
  | mirrorSourceUnavailable => "HID mirror source unavailable"

/-- What `exitCode` returns: the status of a process that exited, and -1
for one that did not. -/
inductive ExitCode where
  | unknown
  | status (n : UInt8)
  deriving DecidableEq, Repr

def ExitCode.text : ExitCode → Bytes
  | unknown => ascii "-1"
  | status n => (Nat.toDigits 10 n.toNat).map fun c => UInt8.ofNat c.toNat

structure ServerMessage where
  type : MessageType
  sessionID : Bytes
  stream : Option Stream := none
  text : Bytes := []
  exitCode : Option ExitCode := none
  error : Option Code := none
  requestID : Bytes := []
  deriving DecidableEq, Repr

/-- A key of the object and its value, after the first. -/
def field (key : String) (value : Bytes) : Bytes := ascii key ++ value

/-- `omitempty` for a string field. -/
def stringField (key : String) (value : Bytes) : Bytes :=
  if value = [] then [] else field key (Json.quote value)

def encode (m : ServerMessage) : Bytes :=
  ascii "\x7b\"v\":1" ++ field ",\"type\":" (Json.quote (ascii m.type.text)) ++
    field ",\"session_id\":" (Json.quote m.sessionID) ++
    stringField ",\"stream\":" ((m.stream.map (ascii ·.text)).getD []) ++
    stringField ",\"text\":" m.text ++
    (match m.exitCode with
      | none => []
      | some code => field ",\"exit_code\":" code.text) ++
    stringField ",\"code\":" ((m.error.map (ascii ·.text)).getD []) ++
    stringField ",\"message\":" ((m.error.map (ascii ·.message)).getD []) ++
    stringField ",\"request_id\":" m.requestID ++
    ascii "\x7d\n"

/-- `sessionError`, the answer to a connection that gets no session. -/
def sessionError (code : Code) : ServerMessage :=
  { type := .error, sessionID := [], error := some code }

/-- The text of a message as a client reads it off the wire. -/
def receivedText (m : ServerMessage) : Option Bytes := Json.unquote (Json.quote m.text)

/-! ## Messages from the client -/

/-- The values of `type` the switch of `decodeClientMessage` knows, the
empty string, and any other. -/
inductive ClientType where
  | empty
  | inputText
  | control
  | close
  | codexPrompt
  | codexCancel
  | codexNewSession
  | other
  deriving DecidableEq, Repr

/-- `interrupt` is whether `Control` holds that word, the one value the
source looks for. -/
structure ClientMessage where
  version : Int
  type : ClientType
  sessionID : Bytes
  text : Bytes := []
  interrupt : Bool := false
  prompt : Bytes := []
  requestID : Bytes := []
  deriving DecidableEq, Repr

def protocolVersion : Int := 1

/-- `decodeClientMessage` after `json.Unmarshal`, which gives `none` for
what it rejects. -/
def decodeClientMessage (unmarshalled : Option ClientMessage) : Except Code ClientMessage :=
  match unmarshalled with
  | none => .error .malformedJson
  | some msg =>
      if msg.version ≠ protocolVersion then .error .unsupportedVersion
      else if msg.type = .empty ∨ msg.sessionID = [] then .error .malformedMessage
      else
        match msg.type with
        | .inputText => if msg.text = [] then .error .malformedMessage else .ok msg
        | .control => if msg.interrupt then .ok msg else .error .unsupportedControl
        | .close => .ok msg
        | .codexPrompt =>
            if msg.prompt = [] ∨ msg.requestID = [] then .error .malformedMessage else .ok msg
        | .codexCancel => if msg.requestID = [] then .error .malformedMessage else .ok msg
        | .codexNewSession => .ok msg
        | .empty | .other => .error .unsupportedMessageType

end Bootmux.Companion
