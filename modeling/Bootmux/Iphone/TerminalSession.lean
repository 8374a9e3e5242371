/-
Bootmux.Iphone.TerminalSession — the terminal of the iPhone
(`TerminalSession.swift`).

Everything runs on the main actor, so a step is what happens between two
suspensions: a call from the user interface up to its first `await`, or
the rest of a suspended call once what it waits for is there. The calls
that wait are kept in a list, and an event says which of them goes on and
with what outcome; an outcome a call does not wait for changes nothing.
Transports are numbered in the order in which they are made.

A suspended send carries the generation it was begun under, which the
source does not keep.

Left out: `latestAuthURL` and `latestDeviceCode`, which nothing here
reads (they are in `Iphone/Recovery`). Whether an endpoint is a URL that
`connect` accepts is part of the event.
-/
import Bootmux.Lib.Machine
import Bootmux.Iphone.TerminalBuffer

namespace Bootmux.Iphone

open Bootmux.Bmx1 (Bytes ascii)
open Bootmux.Lib

/-! ## State -/

inductive TerminalState where
  | disconnected
  | connecting
  | connected (sessionID : Bytes)
  | closing
  | failed (message : Bytes)
  deriving DecidableEq, Repr

inductive CodexState where
  | idle
  | running
  deriving DecidableEq, Repr

inductive SourceLabel where
  | directPTY
  | hidMirror
  deriving DecidableEq, Repr

inductive TerminalCloseCode where
  | normal
  | goingAway
  deriving DecidableEq, Repr

/-- The calls that send and wait. -/
inductive SendKind where
  | input
  | interrupt
  | prompt
  | cancel
  | reset
  deriving DecidableEq, Repr

/-- A call that waits: the receive loop before its first round and in
`receive`, a send, the delayed publication, `bestEffortClose`. -/
inductive Suspended where
  | starting (socket generation : Nat)
  | receiving (socket generation : Nat)
  | sending (kind : SendKind) (generation : Nat)
  | publishing (generation token : Nat) (cancelled : Bool)
  | closing (socket : Nat) (sessionID : Bytes)
  deriving DecidableEq, Repr

structure TerminalSession where
  state : TerminalState
  terminalText : Bytes
  statusMessage : Bytes
  codexState : CodexState
  sourceLabel : SourceLabel
  hasPendingPublication : Bool
  transport : Option Nat
  generation : Nat
  publishToken : Nat
  buffer : TerminalBuffer
  sanitizer : ANSISanitizer
  publishTask : Option Nat
  transports : Nat
  suspended : List (Option Suspended)
  deriving DecidableEq, Repr

def newTerminalSession : TerminalSession where
  state := .disconnected
  terminalText := []
  statusMessage := ascii "Disconnected."
  codexState := .idle
  sourceLabel := .directPTY
  hasPendingPublication := false
  transport := none
  generation := 0
  publishToken := 0
  buffer := .new TerminalProtocolLimits.terminalHistoryBytes (by decide)
  sanitizer := {}
  publishTask := none
  transports := 0
  suspended := []

/-- What reaches a transport. A message travels as `encode` of it. -/
inductive TerminalEffect where
  | sent (socket : Nat) (message : ClientMessage)
  | closed (socket : Nat) (code : TerminalCloseCode)
  deriving DecidableEq, Repr

def Suspended.cancel : Suspended → Suspended
  | .publishing generation token _ => .publishing generation token true
  | op => op

namespace TerminalSession

def isMirror (s : TerminalSession) : Bool := s.sourceLabel = .hidMirror

def currentSessionID (s : TerminalSession) : Option Bytes :=
  match s.state with
  | .connected sessionID => some sessionID
  | _ => none

def withStatus (s : TerminalSession) (message : String) : TerminalSession :=
  { s with statusMessage := ascii message }

def suspend (s : TerminalSession) (op : Suspended) : TerminalSession :=
  { s with suspended := s.suspended ++ [some op] }

/-- The call with number `i` is over. -/
def settle (s : TerminalSession) (i : Nat) : TerminalSession :=
  { s with suspended := s.suspended.set i none }

def closeTransport (s : TerminalSession) (code : TerminalCloseCode) : List TerminalEffect :=
  match s.transport with
  | none => []
  | some socket => [.closed socket code]

/-! ## Publication -/

/-- `publishTask?.cancel()`, `publishTask = nil` and
`hasPendingPublication = false`. -/
def dropPublication (s : TerminalSession) : TerminalSession :=
  { s with
    suspended :=
      match s.publishTask with
      | none => s.suspended
      | some i => s.suspended.modify i (·.map .cancel)
    publishTask := none
    hasPendingPublication := false }

def publishImmediately (s : TerminalSession) : TerminalSession :=
  { s.dropPublication with terminalText := s.buffer.text }

def schedulePublish (s : TerminalSession) (loopGeneration : Nat) : TerminalSession :=
  match s.publishTask with
  | some _ => s
  | none =>
      { s.suspend (.publishing loopGeneration s.publishToken false) with
        hasPendingPublication := true
        publishTask := some s.suspended.length }

def publishIfCurrent (s : TerminalSession) (generation token : Nat) : TerminalSession :=
  if s.generation = generation ∧ s.publishToken = token then s.publishImmediately else s

/-- `buffer.append(sanitizer.consume(text))`. -/
def appendOutput (s : TerminalSession) (text : Bytes) : TerminalSession :=
  let r := s.sanitizer.consume text
  { s with sanitizer := r.1, buffer := s.buffer.append r.2 }

/-- `buffer.append(sanitizer.finish())`. -/
def finishOutput (s : TerminalSession) : TerminalSession :=
  let r := s.sanitizer.finish
  { s with sanitizer := r.1, buffer := s.buffer.append r.2 }

def failClosed (s : TerminalSession) (message : Bytes) : TerminalSession × List TerminalEffect :=
  let published := s.finishOutput.publishImmediately
  ({ published.dropPublication with
      generation := s.generation + 1
      publishToken := s.publishToken + 1
      transport := none
      state := .failed message
      statusMessage := message }, s.closeTransport .goingAway)

/-! ## The user interface -/

/-- `connect`; `valid` is whether the endpoint is a `ws` or `wss` URL
without credentials. -/
def connect (s : TerminalSession) (valid : Bool) : TerminalSession × List TerminalEffect :=
  match s.state with
  | .connecting | .connected _ | .closing => (s.withStatus "Already connected or connecting.", [])
  | .disconnected | .failed _ =>
      if !valid then
        ({ s with
            state := .failed (ascii "Enter a ws:// or wss:// endpoint without credentials.") }, [])
      else
        (({ s.dropPublication with
            generation := s.generation + 1
            publishToken := s.publishToken + 1
            buffer := s.buffer.clear
            terminalText := []
            codexState := .idle
            sourceLabel := .directPTY
            sanitizer := {}
            state := .connecting
            statusMessage := ascii "Connecting."
            transport := some s.transports
            transports := s.transports + 1 } : TerminalSession).suspend
          (.starting s.transports (s.generation + 1)), s.closeTransport .goingAway)

def disconnect (s : TerminalSession) : TerminalSession × List TerminalEffect :=
  let closed : TerminalSession :=
    { s.dropPublication with
      generation := s.generation + 1
      publishToken := s.publishToken + 1
      transport := none
      sourceLabel := .directPTY
      state := .disconnected
      statusMessage := ascii "Disconnected." }
  match s.transport, s.currentSessionID with
  | some socket, some sessionID => (closed.suspend (.closing socket sessionID), [])
  | _, _ => (closed, s.closeTransport .goingAway)

def clearVisibleHistory (s : TerminalSession) : TerminalSession :=
  { s.dropPublication with
    buffer := s.buffer.clear
    terminalText := []
    publishToken := s.publishToken + 1
    sanitizer := {}
    state :=
      match s.state with
      | .failed _ => .disconnected
      | state => state
    codexState := .idle
    statusMessage := ascii "Terminal cleared." }

/-- `transport.send(payload)`. -/
def send (s : TerminalSession) (socket : Nat) (kind : SendKind) (message : ClientMessage) :
    TerminalSession × List TerminalEffect :=
  (s.suspend (.sending kind s.generation), [.sent socket message])

/-- The message is at most `jsonMessageBytes` long. -/
def fits (message : ClientMessage) : Bool :=
  (encode message).length ≤ TerminalProtocolLimits.jsonMessageBytes

def sendInput (s : TerminalSession) (text : Bytes) : TerminalSession × List TerminalEffect :=
  match s.state, s.transport with
  | .connected sessionID, some socket =>
      if s.isMirror then (s.withStatus "HID mirror is read-only.", [])
      else if text.length > TerminalProtocolLimits.inputTextBytes then
        (s.withStatus "Input exceeds the 8 KiB limit.", [])
      else if fits (.input sessionID text) then s.send socket .input (.input sessionID text)
      else (s.withStatus "Input message exceeds the 12 KiB JSON limit.", [])
  | _, _ => (s.withStatus "Connect before sending input.", [])

def sendInterrupt (s : TerminalSession) : TerminalSession × List TerminalEffect :=
  match s.state, s.transport with
  | .connected sessionID, some socket =>
      if fits (.interrupt sessionID) then s.send socket .interrupt (.interrupt sessionID)
      else (s, [])
  | _, _ => (s.withStatus "Connect before interrupting.", [])

end TerminalSession

/-! ## Request ids -/

def upperHexDigit (n : UInt8) : UInt8 := if n < 10 then 0x30 + n else 0x37 + n

def hexPair (b : UInt8) : Bytes := [upperHexDigit (b >>> 4), upperHexDigit (b &&& 0xF)]

/-- `UUID().uuidString`: 32 hexadecimal digits in five groups. -/
def uuidString (uuid : Vector UInt8 16) : Bytes :=
  let group (first count : Nat) := ((uuid.toList.drop first).take count).flatMap hexPair
  group 0 4 ++ 0x2D :: group 4 2 ++ 0x2D :: group 6 2 ++ 0x2D :: group 8 2 ++ 0x2D :: group 10 6

namespace TerminalSession

/-- `sendCodexPrompt`, with the UUID it draws. -/
def sendCodexPrompt (s : TerminalSession) (prompt : Bytes) (uuid : Vector UInt8 16) :
    TerminalSession × List TerminalEffect :=
  match s.state, s.transport with
  | .connected sessionID, some socket =>
      if prompt.length > TerminalProtocolLimits.inputTextBytes then
        (s.withStatus "Codex prompt exceeds the 8 KiB limit.", [])
      else
        let message := ClientMessage.codexPrompt sessionID prompt (uuidString uuid)
        if fits message then s.send socket .prompt message
        else (s.withStatus "Codex prompt message exceeds the 12 KiB JSON limit.", [])
  | _, _ => (s.withStatus "Connect before sending a Codex prompt.", [])

/-- `cancelCodex`, with the UUID it draws. -/
def cancelCodex (s : TerminalSession) (uuid : Vector UInt8 16) :
    TerminalSession × List TerminalEffect :=
  match s.state, s.transport with
  | .connected sessionID, some socket =>
      s.send socket .cancel (.codexCancel sessionID (uuidString uuid))
  | _, _ => (s, [])

def newCodexSession (s : TerminalSession) : TerminalSession × List TerminalEffect :=
  match s.state, s.transport with
  | .connected sessionID, some socket => s.send socket .reset (.codexNewSession sessionID)
  | _, _ => (s, [])

/-! ## Receiving -/

inductive HandleResult where
  | continueReceiving
  | terminal
  deriving DecidableEq, Repr

/-- What `handle` gives back when it does not throw. -/
structure Handled where
  session : TerminalSession
  effects : List TerminalEffect
  result : HandleResult
  deriving DecidableEq, Repr

def goOn (s : TerminalSession) : Except ProtocolError Handled := .ok ⟨s, [], .continueReceiving⟩

/-- `failClosed` and the end of the loop. -/
def giveUp (s : TerminalSession) (message : Bytes) : Except ProtocolError Handled :=
  .ok ⟨(s.failClosed message).1, (s.failClosed message).2, .terminal⟩

/-- The guard of most cases: the message is of the connected session. -/
def ofSession (s : TerminalSession) (sessionID : Bytes) (body : Except ProtocolError Handled) :
    Except ProtocolError Handled :=
  if s.state = .connected sessionID then body else .error .wrongSession

/-- The two hellos. -/
def greet (s : TerminalSession) (sessionID : Bytes) (label : SourceLabel) (message : String) :
    Except ProtocolError Handled :=
  if s.currentSessionID = none ∧ s.transport ≠ none then
    goOn
      { s with
        state := .connected sessionID
        sourceLabel := label
        statusMessage := ascii message }
  else .error .wrongSession

def showOutput (s : TerminalSession) (text : Bytes) (messageGeneration : Nat) :
    Except ProtocolError Handled :=
  goOn ((s.appendOutput text).schedulePublish messageGeneration)

/-- `"\(code): \(message)"`. -/
def errorText (code message : Bytes) : Bytes := code ++ ascii ": " ++ message

def exitText (subject : String) (code : Int) : Bytes :=
  ascii subject ++ ascii " exited with code " ++ ascii (toString code) ++ ascii "."

/-- The `switch` of `handle`. -/
def handleDecoded (s : TerminalSession) (messageGeneration : Nat) :
    ServerMessage → Except ProtocolError Handled
  | .hello sessionID => s.greet sessionID .directPTY "Connected."
  | .mirrorHello sessionID => s.greet sessionID .hidMirror "HID mirror connected."
  | .output sessionID text => s.ofSession sessionID (s.showOutput text messageGeneration)
  | .mirrorOutput sessionID text =>
      s.ofSession sessionID
        (if s.isMirror then s.showOutput text messageGeneration else .error .wrongSession)
  | .exit sessionID code =>
      s.ofSession sessionID
        (.ok
          ⟨{ s.finishOutput.publishImmediately with
              statusMessage := exitText "Process" code
              generation := s.generation + 1
              transport := none
              state := .disconnected }, s.closeTransport .normal, .terminal⟩)
  | .error sessionID code message =>
      if s.currentSessionID.any (· ≠ sessionID) then .error .wrongSession
      else s.giveUp (errorText code message)
  | .mirrorError sessionID code message =>
      s.ofSession sessionID (s.giveUp (errorText code message))
  | .codexStarted sessionID _ => s.ofSession sessionID (goOn { s with codexState := .running })
  | .codexOutput sessionID _ text => s.ofSession sessionID (s.showOutput text messageGeneration)
  | .codexExit sessionID _ code =>
      s.ofSession sessionID
        (goOn { s with codexState := .idle, statusMessage := exitText "Codex" code })
  | .codexError sessionID _ code message =>
      s.ofSession sessionID
        (goOn { s with codexState := .idle, statusMessage := errorText code message })

def handle (s : TerminalSession) (data : Bytes) (messageGeneration : Nat) :
    Except ProtocolError Handled :=
  if data.length > TerminalProtocolLimits.webSocketMessageBytes then
    s.giveUp (ascii "Terminal output frame exceeded the client limit.")
  else if data.length > TerminalProtocolLimits.jsonMessageBytes then
    s.giveUp (ascii "Terminal JSON message exceeded the client limit.")
  else
    match decodeServer data s.currentSessionID with
    | .error e => .error e
    | .ok decoded => s.handleDecoded messageGeneration decoded

/-! ## Going on -/

/-- What a suspended call waits for. A receive ends with a message, with a
`CancellationError` or with another error. -/
inductive Outcome where
  | message (data : Bytes)
  | done
  | failed
  | cancelled
  deriving DecidableEq, Repr

/-- The `while` of `receiveLoop`: wait for a message if the generation is
still the loop's. -/
def receiveNext (s : TerminalSession) (i socket loopGeneration : Nat) : TerminalSession :=
  if s.generation = loopGeneration then
    { s with suspended := s.suspended.set i (some (.receiving socket loopGeneration)) }
  else s.settle i

/-- The `catch` of `receiveLoop`. -/
def receiveFailed (s : TerminalSession) (i loopGeneration : Nat) (message : String) :
    TerminalSession × List TerminalEffect :=
  if s.generation = loopGeneration then (s.settle i).failClosed (ascii message)
  else (s.settle i, [])

/-- `receiveLoop` after a `receive`. -/
def received (s : TerminalSession) (i socket loopGeneration : Nat) :
    Outcome → TerminalSession × List TerminalEffect
  | .message data =>
      if s.generation = loopGeneration then
        match s.handle data loopGeneration with
        | .ok ⟨t, effects, .continueReceiving⟩ => (t.receiveNext i socket loopGeneration, effects)
        | .ok ⟨t, effects, .terminal⟩ => (t.settle i, effects)
        | .error e => s.receiveFailed i loopGeneration e.errorDescription
      else (s.settle i, [])
  | .cancelled => (s.settle i, [])
  | .failed => s.receiveFailed i loopGeneration "Terminal connection failed."
  | .done => (s, [])

/-- The end of a send. -/
def sent (s : TerminalSession) (i : Nat) (kind : SendKind) (ok : Bool) :
    TerminalSession × List TerminalEffect :=
  let s := s.settle i
  match kind, ok with
  | .input, true | .interrupt, true => (s, [])
  | .input, false => s.failClosed (ascii "Input send failed.")
  | .interrupt, false => s.failClosed (ascii "Interrupt send failed.")
  | .prompt, true => ({ s with codexState := .running }, [])
  | .prompt, false => (s.withStatus "Codex prompt send failed.", [])
  | .cancel, true | .reset, true => ({ s with codexState := .idle }, [])
  | .cancel, false => (s.withStatus "Codex cancel failed.", [])
  | .reset, false => (s.withStatus "Codex session reset failed.", [])

/-- The end of `bestEffortClose`; with `failed` the timeout came before the
close was sent. -/
def closed (s : TerminalSession) (i socket : Nat) (sessionID : Bytes) :
    Outcome → TerminalSession × List TerminalEffect
  | .done => (s.settle i, [.sent socket (.close sessionID), .closed socket .goingAway])
  | .failed => (s.settle i, [.closed socket .goingAway])
  | .message _ | .cancelled => (s, [])

/-- The call number `i` goes on. -/
def resume (s : TerminalSession) (i : Nat) (outcome : Outcome) :
    TerminalSession × List TerminalEffect :=
  match s.suspended[i]?.join with
  | none => (s, [])
  | some (.starting socket loopGeneration) => (s.receiveNext i socket loopGeneration, [])
  | some (.receiving socket loopGeneration) => s.received i socket loopGeneration outcome
  | some (.sending kind _) =>
      match outcome with
      | .done => s.sent i kind true
      | .failed | .cancelled => s.sent i kind false
      | .message _ => (s, [])
  | some (.publishing generation token cancelled) =>
      let s := s.settle i
      (if cancelled then s else s.publishIfCurrent generation token, [])
  | some (.closing socket sessionID) => s.closed i socket sessionID outcome

end TerminalSession

/-! ## The terminal as a machine -/

inductive TerminalEvent where
  | connect (valid : Bool)
  | disconnect
  | clearVisibleHistory
  | sendInput (text : Bytes)
  | sendInterrupt
  | sendCodexPrompt (prompt : Bytes) (uuid : Vector UInt8 16)
  | cancelCodex (uuid : Vector UInt8 16)
  | newCodexSession
  | resume (call : Nat) (outcome : TerminalSession.Outcome)
  deriving DecidableEq

def terminalStep (s : TerminalSession) : TerminalEvent → TerminalSession × List TerminalEffect
  | .connect valid => s.connect valid
  | .disconnect => s.disconnect
  | .clearVisibleHistory => (s.clearVisibleHistory, [])
  | .sendInput text => s.sendInput text
  | .sendInterrupt => s.sendInterrupt
  | .sendCodexPrompt prompt uuid => s.sendCodexPrompt prompt uuid
  | .cancelCodex uuid => s.cancelCodex uuid
  | .newCodexSession => s.newCodexSession
  | .resume call outcome => s.resume call outcome

def terminalMachine : Machine TerminalSession TerminalEvent TerminalEffect where
  init := newTerminalSession
  step := terminalStep

end Bootmux.Iphone
