/-
Bootmux.Companion.Session — one terminal session and its goroutines
(`server.go`, and what `codex.go` does to the session).

A step is one action of one goroutine on what it shares with the others:
a channel, a mutex, a queue. Every order of steps is a run, and a step
its goroutine cannot take changes nothing. Where a `select` has several
branches ready, or a call of the environment several outcomes, the event
says which.

Two calls run a body once and make every other caller wait for its end:
`stop` and `stopProcess`. Each body is a task of its own here, started by
the first caller, and a caller goes on when the task is done.
`waitForWriteAck` ends at any time, because one of the things it waits
for is a timer. The timer of `aggregate` fires at any time while it is
armed.

Not in the source: the bytes a text was made of, and the number of a
Codex run, which the effects carry for the theorems.
-/
import Bootmux.Lib.Machine
import Bootmux.Companion.Codex

namespace Bootmux.Companion

open Bootmux.Lib

/-- The settings of a session, and `json.Unmarshal` for a client message. -/
structure Config where
  sessionID : Bytes
  batch : Nat
  max : Nat
  chunkBytes : Nat
  maxJSON : Nat
  maxInput : Nat
  chunkQueueCapacity : Nat
  outboundQueueCapacity : Nat
  inputQueueCapacity : Nat
  unmarshal : Bytes → Option ClientMessage

def maxJSONMessage : Nat := 12 * 1024
def maxInputTextBytes : Nat := 8 * 1024

/-- The settings of `NewServer`. -/
def defaultConfig (sessionID : Bytes) (unmarshal : Bytes → Option ClientMessage) : Config where
  sessionID := sessionID
  batch := 512
  max := 4096
  chunkBytes := 256
  maxJSON := maxJSONMessage
  maxInput := maxInputTextBytes
  chunkQueueCapacity := 8
  outboundQueueCapacity := 8
  inputQueueCapacity := 8
  unmarshal := unmarshal

def Config.maxJSONBytes (cfg : Config) : Nat :=
  if cfg.maxJSON ≠ 0 then cfg.maxJSON else maxJSONMessage

def Config.maxInputBytes (cfg : Config) : Nat :=
  if cfg.maxInput ≠ 0 then cfg.maxInput else maxInputTextBytes

/-! ## What the goroutines exchange -/

inductive ReaderKind where
  | eof
  | eio
  | canceled
  | unexpected
  | overflow
  deriving DecidableEq, Repr

/-- An error of `ptmx.Read`, as far as `readPTY` tells errors apart. -/
inductive ReadError where
  | eio
  | eof
  | other
  deriving DecidableEq, Repr

def ReadError.kind : ReadError → ReaderKind
  | eio => .eio
  | eof => .eof
  | other => .unexpected

inductive ClientEvent where
  | data (bytes : Bytes)
  | error
  deriving DecidableEq, Repr

structure InputRequest where
  text : Bytes
  interrupt : Bool
  deriving DecidableEq, Repr

/-- `written` is whether the message carries a completion channel, which
terminal errors do. -/
structure OutboundMessage where
  message : ServerMessage
  written : Bool := false
  deriving DecidableEq, Repr

/-! ## Where each goroutine stands -/

/-- The body of `stopProcess`: the flag is set under the mutex before
`cancel` is closed. -/
inductive ProcessStop where
  | idle
  | entered
  | flagged
  | done
  deriving DecidableEq, Repr

/-- The body of `stop`: `cancelCodex("")`, `stopProcess`, the socket. -/
inductive SessionStop where
  | idle
  | entered
  | setReason (run : Nat)
  | once (run : Nat)
  | process
  | conn
  | done
  deriving DecidableEq, Repr

/-- `run` and, inside it, `handleClientMessage` and `startCodex`. -/
inductive RunPc where
  | hello
  | helloStop
  | select
  | handle (data : Bytes)
  | rejected
  | terminate (code : Code)
  | busy (requestID : Bytes)
  | start (run : Nat)
  | startFailed (run : Nat)
  | reportStart (run : Nat)
  | announce (run : Nat)
  | spawn (run : Nat)
  | cancelReason (run : Nat) (reason : StopReason)
  | cancelOnce (run : Nat)
  | ack
  | stop
  | await
  | returned
  deriving DecidableEq, Repr

inductive ClientReaderPc where
  | reading
  | holding (event : ClientEvent)
  | done
  deriving DecidableEq, Repr

inductive PtyReaderPc where
  | reading
  | finishing (kind : ReaderKind)
  | done
  deriving DecidableEq, Repr

inductive InputPc where
  | idle
  | writing (request : InputRequest)
  | done
  deriving DecidableEq, Repr

inductive WriterPc where
  | loop
  | stopping
  | done
  deriving DecidableEq, Repr

/-- `loop` is both loops of `aggregate`, the second when the process and
the reader are done; `finish` to `awaitWriter` are the statements of
`finish`. -/
inductive AggregatePc where
  | loop
  | acking
  | stopProcess
  | finish
  | flushFinal
  | exit
  | closeOutbound
  | awaitWriter
  | done
  deriving DecidableEq, Repr

/-- The locals of `aggregate`. `cancelCh` is nil when `canceled` is set
in the loop. -/
structure Aggregate where
  pc : AggregatePc
  pending : Bytes
  processExited : Bool
  ptyReaderFinished : Bool
  canceled : Bool
  failed : Bool
  lastExitCode : ExitCode
  armed : Bool
  deriving DecidableEq, Repr

structure Session where
  chunks : List Bytes
  reader : Option ReaderKind
  process : Option ExitCode
  client : Option ClientEvent
  input : List InputRequest
  inputFailure : Bool
  overflow : Bool
  outbound : List OutboundMessage
  outboundClosed : Bool
  closed : Bool
  finished : Bool
  processDone : Bool
  codexActive : Bool
  codexRun : Option Nat
  runs : List CodexRun
  processStop : ProcessStop
  sessionStop : SessionStop
  run : RunPc
  clientReader : ClientReaderPc
  ptyReader : PtyReaderPc
  inputWriter : InputPc
  writer : WriterPc
  aggregate : Aggregate
  deriving DecidableEq, Repr

def newSession : Session where
  chunks := []
  reader := none
  process := none
  client := none
  input := []
  inputFailure := false
  overflow := false
  outbound := []
  outboundClosed := false
  closed := false
  finished := false
  processDone := false
  codexActive := false
  codexRun := none
  runs := []
  processStop := .idle
  sessionStop := .idle
  run := .hello
  clientReader := .reading
  ptyReader := .reading
  inputWriter := .idle
  writer := .loop
  aggregate := ⟨.loop, [], false, false, false, false, .unknown, false⟩

/-- Who a message is from: the session itself, the terminal, with the
bytes the text was made of, or a Codex run. -/
inductive Origin where
  | session
  | pty (raw : Bytes)
  | codex (run : Nat)
  deriving DecidableEq, Repr

inductive Effect where
  | read (data : Bytes)
  | enqueued (origin : Origin) (item : OutboundMessage)
  | wrote (message : ServerMessage)
  | typed (data : Bytes)
  deriving DecidableEq, Repr

namespace Session

/-! ## Shared operations -/

/-- `wasStopped`. -/
def wasStopped (s : Session) : Bool :=
  match s.processStop with
  | .flagged | .done => true
  | .idle | .entered => false

/-- `cancel` is closed. -/
def canceled (s : Session) : Bool := s.processStop = .done

/-- A call of `stopProcess`; the caller goes on when it is done. -/
def callStopProcess (s : Session) (next : Session → Session) : Session :=
  match s.processStop with
  | .idle => { s with processStop := .entered }
  | .entered | .flagged => s
  | .done => next s

/-- A call of `stop`. -/
def callStop (s : Session) (next : Session → Session) : Session :=
  match s.sessionStop with
  | .idle => { s with sessionStop := .entered }
  | .done => next s
  | _ => s

/-- The send of `enqueueMessage` would succeed. -/
def accepts (cfg : Config) (s : Session) : Bool :=
  !s.outboundClosed && s.outbound.length < cfg.outboundQueueCapacity

/-- `enqueueMessage`, and what the caller does on either answer. -/
def enqueue (cfg : Config) (s : Session) (origin : Origin) (item : OutboundMessage)
    (ok refused : Session → Session) : Session × List Effect :=
  if s.accepts cfg then
    (ok { s with outbound := s.outbound ++ [item] }, [.enqueued origin item])
  else (refused s, [])

def setRun (pc : RunPc) (s : Session) : Session := { s with run := pc }

def setAggregate (pc : AggregatePc) (s : Session) : Session :=
  { s with aggregate := { s.aggregate with pc } }

def modifyRun (i : Nat) (f : CodexRun → CodexRun) (s : Session) : Session :=
  { s with runs := s.runs.modify i f }

/-- `clearCodexRun`. -/
def clearCodexRun (i : Nat) (s : Session) : Session :=
  if s.codexRun = some i then { s with codexActive := false, codexRun := none } else s

end Session

/-! ## Messages -/

def helloMessage (cfg : Config) : OutboundMessage :=
  ⟨{ type := .hello, sessionID := cfg.sessionID }, false⟩

def errorMessage (cfg : Config) (code : Code) (written : Bool) : OutboundMessage :=
  ⟨{ type := .error, sessionID := cfg.sessionID, error := some code }, written⟩

def outputMessage (cfg : Config) (text : Bytes) : OutboundMessage :=
  ⟨{ type := .output, sessionID := cfg.sessionID, stream := some .pty, text }, false⟩

def exitMessage (cfg : Config) (code : ExitCode) : OutboundMessage :=
  ⟨{ type := .exit, sessionID := cfg.sessionID, exitCode := some code }, false⟩

def codexErrorMessage (cfg : Config) (requestID : Bytes) (code : Code) : OutboundMessage :=
  ⟨{ type := .codexError, sessionID := cfg.sessionID, error := some code, requestID }, false⟩

def codexStartedMessage (cfg : Config) (requestID : Bytes) : OutboundMessage :=
  ⟨{ type := .codexStarted, sessionID := cfg.sessionID, requestID }, false⟩

/-! ## The run goroutine -/

/-- What `handleClientMessage` decides from the message alone. -/
inductive ClientAction where
  | terminate (code : Code)
  | reject (code : Code)
  | prompt (requestID : Bytes)
  | cancel (requestID : Bytes)
  | close
  | input (request : InputRequest)
  deriving DecidableEq, Repr

/-- `codex_new_session` is a cancellation without a request. -/
def clientAction (cfg : Config) (data : Bytes) : ClientAction :=
  if data.length > cfg.maxJSONBytes then .terminate .jsonTooLarge
  else
    match decodeClientMessage (cfg.unmarshal data) with
    | .error code => .reject code
    | .ok msg =>
        if msg.text.length > cfg.maxInputBytes then .terminate .inputTooLarge
        else if msg.type = .codexPrompt ∧ msg.prompt.length > defaultCodexPrompt then
          .terminate .codexPromptTooLarge
        else if msg.sessionID ≠ cfg.sessionID then .reject .wrongSession
        else
          match msg.type with
          | .codexPrompt => .prompt msg.requestID
          | .codexCancel => .cancel msg.requestID
          | .codexNewSession => .cancel []
          | .close => .close
          | .inputText => .input ⟨msg.text, false⟩
          | .control | .empty | .other => .input ⟨[], true⟩

/-- `terminateWithError`; a refused error stops the session. -/
def terminateWithError (cfg : Config) (s : Session) (code : Code) : Session × List Effect :=
  s.enqueue cfg .session (errorMessage cfg code true) (.setRun .ack) (.setRun .stop)

/-- The locked part of `startCodex`. -/
def createRun (s : Session) (requestID : Bytes) : Session :=
  if s.codexActive then s.setRun (.busy requestID)
  else
    { s with
      runs := s.runs ++ [newCodexRun requestID]
      codexActive := true
      codexRun := some s.runs.length
      run := .start s.runs.length }

/-- The reason `cancelCodex` stops a run with. -/
def cancelReason (requestID : Bytes) : StopReason := if requestID = [] then .session else .cancelled

def handleClientMessage (cfg : Config) (s : Session) (data : Bytes) : Session × List Effect :=
  match clientAction cfg data with
  | .terminate code => terminateWithError cfg s code
  | .reject code =>
      s.enqueue cfg .session (errorMessage cfg code false) (.setRun .select) (.setRun .rejected)
  | .prompt requestID => (createRun s requestID, [])
  | .cancel requestID =>
      match s.codexRun with
      | none => (s.setRun .select, [])
      | some i => (s.setRun (.cancelReason i (cancelReason requestID)), [])
  | .close => (s.setRun .stop, [])
  | .input request =>
      if s.input.length < cfg.inputQueueCapacity then
        ({ s with input := s.input ++ [request], run := .select }, [])
      else (s.setRun (.terminate .inputOverflow), [])

/-- The request of a run. -/
def Session.requestID (s : Session) (i : Nat) : Bytes := ((s.runs[i]?).map (·.requestID)).getD []

/-- `run` is past `go s.aggregate()`. -/
def Session.aggregateStarted (s : Session) : Bool :=
  match s.run with
  | .hello | .helloStop => false
  | _ => true

def runStep (cfg : Config) (s : Session) : Session × List Effect :=
  match s.run with
  | .hello =>
      s.enqueue cfg .session (helloMessage cfg) (.setRun .select) (.setRun .helloStop)
  | .helloStop => (s.callStop (.setRun .select), [])
  | .handle data => handleClientMessage cfg s data
  | .rejected => (s.callStopProcess (.setRun .stop), [])
  | .terminate code => terminateWithError cfg s code
  | .busy requestID =>
      s.enqueue cfg .session (codexErrorMessage cfg requestID .codexBusy)
        (.setRun .select) (.setRun .select)
  | .startFailed i => (((s.modifyRun i .cancel).clearCodexRun i).setRun (.reportStart i), [])
  | .reportStart i =>
      s.enqueue cfg (.codex i) (codexErrorMessage cfg (s.requestID i) .codexStartFailed)
        (.setRun .select) (.setRun .select)
  | .announce i =>
      s.enqueue cfg (.codex i) (codexStartedMessage cfg (s.requestID i))
        (.setRun (.spawn i)) (.setRun (.spawn i))
  | .spawn i =>
      ((s.modifyRun i fun r => { r with watcher := .select, wait := .cmdWait }).setRun .select, [])
  | .cancelReason i reason =>
      ((s.modifyRun i (·.setReason reason)).setRun (.cancelOnce i), [])
  | .cancelOnce i => ((s.modifyRun i .stop).setRun .select, [])
  | .ack => (s.setRun .stop, [])
  | .stop => (s.callStop (.setRun .await), [])
  | .await =>
      if s.finished ∧ s.writer = .done ∧ s.inputWriter = .done ∧ s.ptyReader = .done ∧
          s.processDone then (s.setRun .returned, [])
      else (s, [])
  | .select | .start _ | .returned => (s, [])

/-- The `select` of `run`. -/
def selectStep (s : Session) (viaFinished : Bool) : Session :=
  match s.run with
  | .select =>
      if viaFinished then
        if s.finished then s.setRun .stop else s
      else
        match s.client with
        | none => s
        | some .error => { s with client := none, run := .stop }
        | some (.data bytes) => { s with client := none, run := .handle bytes }
  | _ => s

/-- `cmd.Start`, which fails on a context that is done. -/
def startProcess (s : Session) (ok : Bool) : Session :=
  match s.run with
  | .start i =>
      if ok ∧ ((s.runs[i]?).bind (·.ctx)) = none then
        (s.modifyRun i fun r => { r with process := .running, copier := .copying }).setRun
          (.announce i)
      else (s.modifyRun i fun r => { r with process := .failed }).setRun (.startFailed i)
  | _ => s

/-! ## Reading the client and the terminal, typing, waiting -/

def clientRead (s : Session) (event : ClientEvent) : Session :=
  match s.clientReader with
  | .reading => { s with clientReader := .holding event }
  | _ => s

def clientSend (s : Session) (viaCancel : Bool) : Session :=
  match s.clientReader with
  | .holding event =>
      if viaCancel then
        if s.canceled then { s with clientReader := .done } else s
      else
        match s.client with
        | some _ => s
        | none =>
            { s with
              client := some event
              clientReader := if event = .error then .done else .reading }
  | _ => s

/-- Where `readPTY` goes after a read that is dealt with. -/
def afterRead (s : Session) : Option ReadError → Session
  | none => s
  | some err => { s with ptyReader := .finishing err.kind }

/-- One round of the loop of `readPTY`. The `select` sends the chunk, sees
`cancel`, or, when it can do neither, gives up. -/
def readPTY (cfg : Config) (s : Session) (data : Bytes) (err : Option ReadError)
    (viaCancel : Bool) : Session × List Effect :=
  match s.ptyReader with
  | .reading =>
      if data.length > cfg.chunkBytes then (s, [])
      else if data = [] then (afterRead s err, [])
      else if s.chunks.length < cfg.chunkQueueCapacity ∧ ¬ (viaCancel ∧ s.canceled) then
        (afterRead { s with chunks := s.chunks ++ [data] } err, [.read data])
      else if s.canceled then ({ s with ptyReader := .finishing .canceled }, [.read data])
      else ({ s with ptyReader := .finishing .overflow, overflow := true }, [.read data])
  | _ => (s, [])

/-- The deferred send of the result. -/
def ptyResult (s : Session) : Session :=
  match s.ptyReader with
  | .finishing kind => { s with reader := some kind, ptyReader := .done }
  | _ => s

/-- `waitProcess`. -/
def processExit (s : Session) (code : ExitCode) : Session :=
  if s.processDone then s else { s with process := some code, processDone := true }

def inputTake (s : Session) : Session :=
  match s.inputWriter, s.input with
  | .idle, request :: rest => { s with inputWriter := .writing request, input := rest }
  | _, _ => s

def InputRequest.bytes (r : InputRequest) : Bytes := if r.interrupt then [3] else r.text

/-- A write that fails has typed the first `count` bytes. -/
def inputWritten (s : Session) (count : Nat) (ok : Bool) : Session × List Effect :=
  match s.inputWriter with
  | .writing request =>
      if ok then ({ s with inputWriter := .idle }, [.typed request.bytes])
      else
        ({ s with inputWriter := .done, inputFailure := true },
          [.typed (request.bytes.take count)])
  | _ => (s, [])

def inputCancel (s : Session) : Session :=
  if s.inputWriter = .idle ∧ s.canceled then { s with inputWriter := .done } else s

/-! ## aggregate -/

/-- The branches of the `select` of `aggregate`. -/
inductive Select where
  | cancel
  | inputFailure
  | overflow
  | process
  | reader
  | chunk
  | timer
  deriving DecidableEq, Repr

/-- The locals of `aggregate`, changed. -/
def Session.locals (s : Session) (f : Aggregate → Aggregate) : Session :=
  { s with aggregate := f s.aggregate }

/-- A flush that was refused: `failed`, and `stopProcess`. -/
def flushRefused (s : Session) : Session :=
  s.locals fun a => { a with failed := true, pc := .stopProcess }

/-- The timer after a flush. -/
def rearm (s : Session) : Session :=
  s.locals fun a => { a with armed := a.pending ≠ [] }

def flush (cfg : Config) (s : Session) (final : Bool) (ok refused : Session → Session) :
    Session × List Effect :=
  let r := utf8Prefix s.aggregate.pending final
  let raw := s.aggregate.pending.take (s.aggregate.pending.length - r.2.length)
  let s := s.locals fun a => { a with pending := r.2 }
  if r.1 = [] then (ok s, []) else s.enqueue cfg (.pty raw) (outputMessage cfg r.1) ok refused

def failTerminal (cfg : Config) (s : Session) (code : Code) : Session × List Effect :=
  if s.aggregate.failed then (s, [])
  else
    (s.locals fun a => { a with failed := true }).enqueue cfg .session (errorMessage cfg code true)
      (.setAggregate .acking) (.setAggregate .stopProcess)

def consumeChunk (cfg : Config) (s : Session) (data : Bytes) : Session × List Effect :=
  let wasEmpty := s.aggregate.pending = []
  let s := s.locals fun a => { a with pending := a.pending ++ data }
  if s.aggregate.pending.length > cfg.max then failTerminal cfg s .outputOverflow
  else if containsNewline s.aggregate.pending ∨ s.aggregate.pending.length ≥ cfg.batch then
    flush cfg s false rearm flushRefused
  else if wasEmpty then (s.locals fun a => { a with armed := true }, [])
  else (s, [])

/-- The first loop, with the branch the `select` takes. -/
def aggregateSelect (cfg : Config) (s : Session) : Select → Session × List Effect
  | .cancel =>
      if s.canceled ∧ ¬ s.aggregate.canceled then
        (s.locals fun a => { a with canceled := true }, [])
      else (s, [])
  | .inputFailure => if s.inputFailure then failTerminal cfg s .inputFailed else (s, [])
  | .overflow => if s.overflow then failTerminal cfg s .outputOverflow else (s, [])
  | .process =>
      match s.process with
      | none => (s, [])
      | some code =>
          (({ s with process := none } : Session).locals fun a =>
            { a with processExited := true, lastExitCode := code }, [])
  | .reader =>
      match s.reader with
      | none => (s, [])
      | some kind =>
          let s := ({ s with reader := none } : Session).locals fun a =>
            { a with ptyReaderFinished := true }
          match kind with
          | .unexpected => failTerminal cfg s .ptyReadFailed
          | .overflow => failTerminal cfg s .outputOverflow
          | .eof | .eio | .canceled => (s, [])
  | .chunk =>
      match s.chunks with
      | [] => (s, [])
      | data :: rest => consumeChunk cfg { s with chunks := rest } data
  | .timer =>
      if s.aggregate.armed then
        flush cfg (s.locals fun a => { a with armed := false }) false rearm flushRefused
      else (s, [])

/-- A step of `aggregate` once it is started. -/
def aggregateBody (cfg : Config) (s : Session) (branch : Select) : Session × List Effect :=
  match s.aggregate.pc with
  | .loop =>
      if s.aggregate.processExited ∧ s.aggregate.ptyReaderFinished then
        match s.chunks with
        | [] => (s.setAggregate .finish, [])
        | data :: rest => consumeChunk cfg { s with chunks := rest } data
      else aggregateSelect cfg s branch
  | .acking => (s.setAggregate .stopProcess, [])
  | .stopProcess => (s.callStopProcess (.setAggregate .loop), [])
  | .finish =>
      let canceled := s.aggregate.canceled || s.wasStopped
      (s.locals fun a =>
        { a with
          canceled := canceled
          pc := if canceled ∨ a.failed then .closeOutbound else .flushFinal }, [])
  | .flushFinal =>
      flush cfg s true (.setAggregate .exit)
        fun s => s.locals fun a => { a with failed := true, pc := .closeOutbound }
  | .exit =>
      s.enqueue cfg .session (exitMessage cfg s.aggregate.lastExitCode)
        (.setAggregate .closeOutbound)
        fun s => s.locals fun a => { a with failed := true, pc := .closeOutbound }
  | .closeOutbound => ({ s with outboundClosed := true }.setAggregate .awaitWriter, [])
  | .awaitWriter =>
      if s.writer = .done then ({ s with finished := true }.setAggregate .done, []) else (s, [])
  | .done => (s, [])

def aggregateStep (cfg : Config) (s : Session) (branch : Select) : Session × List Effect :=
  if s.aggregateStarted then aggregateBody cfg s branch else (s, [])

/-! ## Writing to the socket, and stopping -/

/-- `writeMessages`. A closed session writes nothing. -/
def writeStep (s : Session) (ok : Bool) : Session × List Effect :=
  match s.writer with
  | .loop =>
      match s.outbound with
      | item :: rest =>
          if ok ∧ ¬ s.closed then ({ s with outbound := rest }, [.wrote item.message])
          else ({ s with outbound := rest, writer := .stopping }, [])
      | [] => if s.outboundClosed then ({ s with writer := .done }, []) else (s, [])
  | .stopping => (s.callStop fun s => { s with writer := .done }, [])
  | .done => (s, [])

def stopSession (s : Session) : Session :=
  match s.sessionStop with
  | .idle | .done => s
  | .entered =>
      match s.codexRun with
      | none => { s with sessionStop := .process }
      | some i => { s with sessionStop := .setReason i }
  | .setReason i => { s.modifyRun i (·.setReason .session) with sessionStop := .once i }
  | .once i => { s.modifyRun i .stop with sessionStop := .process }
  | .process => s.callStopProcess fun s => { s with sessionStop := .conn }
  | .conn => { s with closed := true, sessionStop := .done }

def stopProcess (s : Session) : Session :=
  match s.processStop with
  | .entered => { s with processStop := .flagged }
  | .flagged => { s with processStop := .done }
  | .idle | .done => s

/-! ## The goroutines of a Codex run -/

inductive CodexEvent where
  | write (data : Bytes)
  | eof
  | copierStop
  | deadline
  | exit
  | kill
  | watch (viaStop : Bool)
  | wait (result : WaitResult)
  deriving DecidableEq, Repr

/-- `codexOutputWriter.Write` of run `i`. -/
def codexWriteStep (cfg : Config) (s : Session) (i : Nat) (r : CodexRun) (data : Bytes) :
    Session × List Effect :=
  match codexWrite r.total data with
  | .nothing => (s, [])
  | .overflow => (s.modifyRun i fun r => { r with copier := .setReason .overflow }, [])
  | .text text =>
      (s.modifyRun i fun r => { r with total := r.total + data.length }).enqueue cfg (.codex i)
        ⟨codexOutput cfg.sessionID r.requestID text, false⟩ id
        (.modifyRun i fun r => { r with copier := .setReason .session })

/-- The last statements of `waitCodex`, which act on the session. -/
def waitCodexStep (cfg : Config) (s : Session) (i : Nat) (r : CodexRun) (result : WaitResult) :
    Session × List Effect :=
  match r.wait with
  | .clear => ((s.clearCodexRun i).modifyRun i fun r => { r with wait := .terminal }, [])
  | .terminal =>
      let done := Session.modifyRun i fun r => { r with wait := .done }
      match r.terminalMessage cfg.sessionID with
      | none => (done s, [])
      | some message => s.enqueue cfg (.codex i) ⟨message, false⟩ done done
  | _ => (s.modifyRun i (·.waitStep result), [])

def codexStep (cfg : Config) (s : Session) (i : Nat) (e : CodexEvent) : Session × List Effect :=
  match s.runs[i]? with
  | none => (s, [])
  | some r =>
      match e with
      | .write data => if r.copier = .copying then codexWriteStep cfg s i r data else (s, [])
      | .eof => (s.modifyRun i .eof, [])
      | .copierStop => (s.modifyRun i .copierStop, [])
      | .deadline => (s.modifyRun i .deadline, [])
      | .exit => (s.modifyRun i .exit, [])
      | .kill => (s.modifyRun i .kill, [])
      | .watch viaStop => (s.modifyRun i (·.watch viaStop), [])
      | .wait result => waitCodexStep cfg s i r result

/-! ## The session as a machine -/

inductive SessionEvent where
  | run
  | select (viaFinished : Bool)
  | startProcess (ok : Bool)
  | clientRead (event : ClientEvent)
  | clientSend (viaCancel : Bool)
  | readPTY (data : Bytes) (err : Option ReadError) (viaCancel : Bool)
  | ptyResult
  | processExit (code : ExitCode)
  | inputTake
  | inputWritten (count : Nat) (ok : Bool)
  | inputCancel
  | aggregate (branch : Select)
  | write (ok : Bool)
  | stopSession
  | stopProcess
  | codex (run : Nat) (event : CodexEvent)
  deriving DecidableEq, Repr

def sessionStep (cfg : Config) (s : Session) : SessionEvent → Session × List Effect
  | .run => runStep cfg s
  | .select viaFinished => (selectStep s viaFinished, [])
  | .startProcess ok => (startProcess s ok, [])
  | .clientRead event => (clientRead s event, [])
  | .clientSend viaCancel => (clientSend s viaCancel, [])
  | .readPTY data err viaCancel => readPTY cfg s data err viaCancel
  | .ptyResult => (ptyResult s, [])
  | .processExit code => (processExit s code, [])
  | .inputTake => (inputTake s, [])
  | .inputWritten count ok => inputWritten s count ok
  | .inputCancel => (inputCancel s, [])
  | .aggregate branch => aggregateStep cfg s branch
  | .write ok => writeStep s ok
  | .stopSession => (stopSession s, [])
  | .stopProcess => (stopProcess s, [])
  | .codex i e => codexStep cfg s i e

def sessionMachine (cfg : Config) : Machine Session SessionEvent Effect where
  init := newSession
  step := sessionStep cfg

end Bootmux.Companion
