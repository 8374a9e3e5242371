/-
Bootmux.Companion.FlushTimer — the flush timer of `aggregate` against a
clock (`server.go`).

`Bootmux.Companion.Session` lets the timer fire at any time while it is
armed. Here the session has a clock, the timer a deadline, and the
functions of `aggregate` that touch the timer are given again with
`stopTimer` and `armTimer` as the source has them. A timer fires when its
deadline is there or any time later, and stays fired until `aggregate`
receives from its channel. `stopTimer` drains the channel when the timer
has fired, so that it leaves the timer stopped in any case.

Not in the source: when each pending byte was taken from the chunk queue
and when `aggregate` has flushed, which are kept for the theorems.

`timedStep` takes time forward and lets every other event happen at the time
it finds, so a run may let a timer fire as late as it likes.
-/
import Bootmux.Companion.SessionTheorems

namespace Bootmux.Companion

open Bootmux.Lib

/-- `time.Timer` and its channel. -/
inductive FlushTimer where
  | stopped
  | armed (deadline : Nat)
  | fired (deadline : Nat)
  deriving DecidableEq, Repr

/-- The deadline of a timer that is armed, or has fired and not been
received. -/
def FlushTimer.deadline : FlushTimer → Option Nat
  | stopped => none
  | armed deadline | fired deadline => some deadline

/-- `arrivals` has a time for each byte of `pending`; `attempts` are the
times of the flushes, the last one first. -/
structure Timed where
  session : Session
  now : Nat
  timer : FlushTimer
  arrivals : List Nat
  attempts : List Nat
  deriving DecidableEq, Repr

namespace Timed

def pending (t : Timed) : Bytes := t.session.aggregate.pending

/-- The arrival of the oldest pending byte. -/
def oldest (t : Timed) : Nat := t.arrivals.headD 0

/-- The last flush, or the start of the session. -/
def lastAttempt (t : Timed) : Nat := t.attempts.headD 0

/-- The locals of `aggregate`, changed. -/
def locals (t : Timed) (f : Aggregate → Aggregate) : Timed :=
  { t with session := t.session.locals f }

/-- A step that leaves the timer and `pending` alone. -/
def onSession (t : Timed) (r : Session × List Effect) : Timed × List Effect :=
  ({ t with session := r.1 }, r.2)

section

variable (cfg : Config) (interval : Nat)

def stopTimer (t : Timed) : Timed :=
  { t.locals fun a => { a with armed := false } with timer := .stopped }

def armTimer (t : Timed) : Timed :=
  { t.stopTimer.locals fun a => { a with armed := true } with timer := .armed (t.now + interval) }

/-- The timer after a flush. -/
def rearm (t : Timed) : Timed := if t.pending = [] then t.stopTimer else t.armTimer interval

/-- A flush that was refused. -/
def flushRefused (t : Timed) : Timed :=
  t.locals fun a => { a with failed := true, pc := .stopProcess }

def enqueue (t : Timed) (origin : Origin) (item : OutboundMessage) (ok refused : Timed → Timed) :
    Timed × List Effect :=
  if t.session.accepts cfg then
    (ok { t with session := { t.session with outbound := t.session.outbound ++ [item] } },
      [.enqueued origin item])
  else (refused t, [])

/-- A flush leaves the end `rest` of `pending`. -/
def keep (t : Timed) (rest : Bytes) : Timed :=
  { t.locals fun a => { a with pending := rest } with
    arrivals := t.arrivals.drop (t.pending.length - rest.length)
    attempts := t.now :: t.attempts }

def flush (t : Timed) (final : Bool) (ok refused : Timed → Timed) : Timed × List Effect :=
  let r := utf8Prefix t.pending final
  let raw := t.pending.take (t.pending.length - r.2.length)
  let t := t.keep r.2
  if r.1 = [] then (ok t, []) else t.enqueue cfg (.pty raw) (outputMessage cfg r.1) ok refused

/-- A chunk goes to `pending`. -/
def arrive (t : Timed) (data : Bytes) : Timed :=
  { t.locals fun a => { a with pending := a.pending ++ data } with
    arrivals := t.arrivals ++ List.replicate data.length t.now }

def consumeChunk (t : Timed) (data : Bytes) : Timed × List Effect :=
  let wasEmpty := t.pending = []
  let t := t.arrive data
  if t.pending.length > cfg.max then t.onSession (failTerminal cfg t.session .outputOverflow)
  else if containsNewline t.pending ∨ t.pending.length ≥ cfg.batch then
    t.flush cfg false (rearm interval) flushRefused
  else if wasEmpty then (t.armTimer interval, [])
  else (t, [])

/-- A chunk from the queue. -/
def takeChunk (t : Timed) (data : Bytes) (rest : List Bytes) : Timed × List Effect :=
  { t with session := { t.session with chunks := rest } }.consumeChunk cfg interval data

/-- The first loop; the timer is received from its channel. -/
def aggregateSelect (t : Timed) : Select → Timed × List Effect
  | .chunk =>
      match t.session.chunks with
      | [] => (t, [])
      | data :: rest => t.takeChunk cfg interval data rest
  | .timer =>
      match t.timer with
      | .fired _ =>
          { t.locals fun a => { a with armed := false } with timer := .stopped }.flush cfg false
            (rearm interval) flushRefused
      | .stopped | .armed _ => (t, [])
  | branch => t.onSession (Companion.aggregateSelect cfg t.session branch)

def aggregateBody (t : Timed) (branch : Select) : Timed × List Effect :=
  match t.session.aggregate.pc with
  | .loop =>
      if t.session.aggregate.processExited ∧ t.session.aggregate.ptyReaderFinished then
        match t.session.chunks with
        | [] => ({ t with session := t.session.setAggregate .finish }, [])
        | data :: rest => t.takeChunk cfg interval data rest
      else t.aggregateSelect cfg interval branch
  | .flushFinal =>
      t.flush cfg true (fun t => { t with session := t.session.setAggregate .exit })
        fun t => t.locals fun a => { a with failed := true, pc := .closeOutbound }
  | _ => t.onSession (Companion.aggregateBody cfg t.session branch)

def aggregateStep (t : Timed) (branch : Select) : Timed × List Effect :=
  if t.session.aggregateStarted then t.aggregateBody cfg interval branch else (t, [])

end

end Timed

/-- A step of the session, the passing of time, and the timer. -/
inductive TimedEvent where
  | session (e : SessionEvent)
  | pass (time : Nat)
  | fire
  deriving DecidableEq, Repr

def timedStep (cfg : Config) (interval : Nat) (t : Timed) : TimedEvent → Timed × List Effect
  | .session (.aggregate branch) => t.aggregateStep cfg interval branch
  | .session e => t.onSession (sessionStep cfg t.session e)
  | .pass time => ({ t with now := t.now + time }, [])
  | .fire =>
      match t.timer with
      | .armed deadline =>
          if deadline ≤ t.now then ({ t with timer := .fired deadline }, []) else (t, [])
      | .stopped | .fired _ => (t, [])

def timedMachine (cfg : Config) (interval : Nat) : Machine Timed TimedEvent Effect where
  init := { session := newSession, now := 0, timer := .stopped, arrivals := [], attempts := [] }
  step := timedStep cfg interval

end Bootmux.Companion
