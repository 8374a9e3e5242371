/-
Bootmux.Companion.Codex — one run of the Codex process (`codex.go`).

Four goroutines work on a run: `waitCodex`, the watcher of its context,
the goroutine of `os/exec` that copies the process's output into
`codexOutputWriter`, and the one `stop` starts to kill the process. The
state of a run has a program counter for each of them. What they do to
the run alone is defined here; what they do to the session is in
`Bootmux.Companion.Session`.

The body of `stopOnce` is one step: the other goroutines see of it that
the context is cancelled, and each of them could have looked later.
-/
import Bootmux.Companion.Protocol

namespace Bootmux.Companion

open Bootmux.Lib

def defaultCodexOutput : Nat := 128 * 1024
def defaultCodexPrompt : Nat := 8 * 1024

/-! ## The output of a run -/

/-- What `codexOutputWriter.Write` makes of a read: nothing, too much, or
a text to send. -/
inductive WriteOutcome where
  | nothing
  | overflow
  | text (text : Bytes)
  deriving DecidableEq, Repr

/-- `codexOutputWriter.Write` up to the `enqueue`, with `total` bytes
written before. -/
def codexWrite (total : Nat) (data : Bytes) : WriteOutcome :=
  if data.length = 0 then .nothing
  else if total + data.length > defaultCodexOutput then .overflow
  else .text (Utf8.toValid data)

def codexOutput (sessionID requestID text : Bytes) : ServerMessage :=
  { type := .codexOutput, sessionID, requestID, text }

/-! ## The state of a run -/

inductive StopReason where
  | cancelled
  | timeout
  | overflow
  | session
  | newSession
  | success
  deriving DecidableEq, Repr

/-- `ctx.Err()` of a context that is done. -/
inductive ContextError where
  | canceled
  | deadlineExceeded
  deriving DecidableEq, Repr

/-- The process of a run: `cmd.Start` not called yet, failed, or how far
the process is. -/
inductive CodexProcess where
  | notStarted
  | failed
  | running
  | exited
  deriving DecidableEq, Repr

/-- The copying goroutine: inside `Write` it may be about to set a reason
or to enter `stopOnce`. -/
inductive Copier where
  | off
  | copying
  | setReason (reason : StopReason)
  | once
  | done
  deriving DecidableEq, Repr

inductive Watcher where
  | off
  | select
  | setReason (reason : StopReason)
  | once
  | done
  deriving DecidableEq, Repr

/-- `waitCodex`, statement by statement. -/
inductive Wait where
  | off
  | cmdWait
  | setReason (reason : StopReason)
  | closeWatcher
  | cancel
  | awaitWatcher
  | readReason
  | awaitKill
  | clear
  | terminal
  | done
  deriving DecidableEq, Repr

/-- What `cmd.Wait` returns: no error and the exit code, the error of
`Write` on too much output, or another error. -/
inductive WaitResult where
  | ok (code : ExitCode)
  | overflow
  | failed
  deriving DecidableEq, Repr

structure CodexRun where
  requestID : Bytes
  process : CodexProcess
  reason : Option StopReason
  ctx : Option ContextError
  stopOnce : Bool
  killDone : Bool
  total : Nat
  copier : Copier
  watcherStop : Bool
  watcher : Watcher
  wait : Wait
  result : WaitResult
  deriving DecidableEq, Repr

/-- The `codexRun` that `startCodex` builds. -/
def newCodexRun (requestID : Bytes) : CodexRun where
  requestID := requestID
  process := .notStarted
  reason := none
  ctx := none
  stopOnce := false
  killDone := false
  total := 0
  copier := .off
  watcherStop := false
  watcher := .off
  wait := .off
  result := .failed

namespace CodexRun

/-- `setReason`: the first reason stays. -/
def setReason (r : CodexRun) (reason : StopReason) : CodexRun :=
  { r with reason := some (r.reason.getD reason) }

/-- The context ends once. -/
def endContext (r : CodexRun) (err : ContextError) : CodexRun :=
  { r with ctx := some (r.ctx.getD err) }

/-- `run.cancel`. -/
def cancel (r : CodexRun) : CodexRun := r.endContext .canceled

/-- `cmd.Process != nil`. -/
def hasProcess (r : CodexRun) : Bool :=
  match r.process with
  | .notStarted | .failed => false
  | .running | .exited => true

/-- The body of `stopOnce` in `stop`. Without a process `killDone` closes
at once, otherwise the goroutine started here closes it. -/
def stop (r : CodexRun) : CodexRun :=
  if r.stopOnce then r
  else { r.cancel with stopOnce := true, killDone := !r.hasProcess }

/-- The goroutine that `stop` starts, after its timer. -/
def kill (r : CodexRun) : CodexRun :=
  if r.stopOnce then { r with killDone := true } else r

def stopReason (r : CodexRun) : Option StopReason :=
  match r.reason, r.ctx with
  | some reason, _ => some reason
  | none, some .deadlineExceeded => some .timeout
  | none, some .canceled => some .cancelled
  | none, none => none

/-- The deadline of the context. -/
def deadline (r : CodexRun) : CodexRun := r.endContext .deadlineExceeded

/-- The process exits. -/
def exit (r : CodexRun) : CodexRun :=
  match r.process with
  | .running => { r with process := .exited }
  | _ => r

/-- The output of the process ends. -/
def eof (r : CodexRun) : CodexRun :=
  match r.copier with
  | .copying => { r with copier := .done }
  | _ => r

/-- A step of the copying goroutine inside `stop`. -/
def copierStop (r : CodexRun) : CodexRun :=
  match r.copier with
  | .setReason reason => { r.setReason reason with copier := .once }
  | .once => { r.stop with copier := .done }
  | _ => r

/-- A step of the watcher. Both branches of its `select` can be ready;
`viaStop` picks the one of `watcherStop`. -/
def watch (r : CodexRun) (viaStop : Bool) : CodexRun :=
  match r.watcher with
  | .select =>
      if viaStop then
        if r.watcherStop then { r with watcher := .done } else r
      else
        match r.ctx with
        | none => r
        | some .deadlineExceeded => { r with watcher := .setReason .timeout }
        | some .canceled => { r with watcher := .setReason .cancelled }
  | .setReason reason => { r.setReason reason with watcher := .once }
  | .once => { r.stop with watcher := .done }
  | _ => r

/-- A step of `waitCodex` up to the one that releases the run. `result`
is what `cmd.Wait` returns, where that is the step. -/
def waitStep (r : CodexRun) (result : WaitResult) : CodexRun :=
  match r.wait with
  | .cmdWait =>
      if r.process = .exited ∧ r.copier = .done then
        { r with
          result := result
          wait := .setReason (if r.ctx = some .deadlineExceeded then .timeout else .success) }
      else r
  | .setReason reason => { r.setReason reason with wait := .closeWatcher }
  | .closeWatcher => { r with watcherStop := true, wait := .cancel }
  | .cancel => { r.cancel with wait := .awaitWatcher }
  | .awaitWatcher => if r.watcher = .done then { r with wait := .readReason } else r
  | .readReason =>
      { r with wait := if r.stopReason ≠ some .success then .awaitKill else .clear }
  | .awaitKill => if r.killDone then { r with wait := .clear } else r
  | _ => r

/-- The message `run.terminal.Do` enqueues, if any. -/
def terminalMessage (r : CodexRun) (sessionID : Bytes) : Option ServerMessage :=
  let error (code : Code) : ServerMessage :=
    { type := .codexError, sessionID, error := some code, requestID := r.requestID }
  match r.stopReason with
  | some .session | some .newSession => none
  | some .overflow => some (error .codexOutputOverflow)
  | some .timeout => some (error .codexTimeout)
  | some .cancelled => some (error .codexCancelled)
  | some .success | none =>
      match r.result with
      | .overflow => some (error .codexOutputOverflow)
      | .failed => some (error .codexFailed)
      | .ok code =>
          some { type := .codexExit, sessionID, exitCode := some code, requestID := r.requestID }

end CodexRun

end Bootmux.Companion
