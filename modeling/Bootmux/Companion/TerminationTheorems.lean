/-
Bootmux.Companion.TerminationTheorems — when a session ends with one
terminal message and no output after it.

Two goroutines send terminal messages: `run` through `terminateWithError`
and `aggregate` through `failTerminal` and `finish`. Neither knows of the
other's, and `aggregate` goes on flushing chunks and ticks after its own
(`output_after_end`).

Each of them ends the session at most once. `endsInOrder` reads a schedule
beside the states it passes: the end is decided after the last chunk has
been taken, and from then on the terminal gives nothing more, the timer
finds nothing to flush and the other goroutine does not come to an end of
its own. In such a schedule nothing follows the end
(`termination_protocol`). The invariant is `Ended`, which a step that sends
the terminal message establishes (`ended_of_ender`) and every later one
keeps (`Ended.step`); an ended session has nothing to send
(`Ended.silent`), and the steps that have something are known exactly
(`loud_iff`).
-/
import Bootmux.Companion.RequestTheorems
import Bootmux.Companion.OutputTheorems

namespace Bootmux.Companion

open Bootmux.Lib

/-! ## Terminal messages and output -/

/-- An exit, or an error with a completion channel. -/
def Effect.isTerminal : Effect → Bool
  | .enqueued _ item => item.written || item.message.type = .exit
  | _ => false

def Effect.isOutput : Effect → Bool
  | .enqueued _ item => item.message.type = .output
  | _ => false

def Effect.isLoud (x : Effect) : Bool := x.isTerminal || x.isOutput

/-- At most one terminal message, and no output message after one. -/
structure EndsOnce (t : List Effect) : Prop where
  one : (t.filter Effect.isTerminal).length ≤ 1
  last : ∀ A x B, t = A ++ x :: B → x.isTerminal = true → ∀ y ∈ B, y.isOutput = false

/-! ## When a step speaks -/

/-- `run` calls `terminateWithError`. -/
def terminates (cfg : Config) (s : Session) : Bool :=
  match s.run with
  | .terminate _ => true
  | .handle data =>
      match clientAction cfg data with
      | .terminate _ => true
      | _ => false
  | _ => false

/-- A flush of these bytes has something to send. -/
def ready (pending : Bytes) : Bool := validFrom false 0 pending ≠ 0

/-- Consuming a chunk overruns the buffer for the first time, or flushes
something. -/
def chunkSpeaks (cfg : Config) (a : Aggregate) (data : Bytes) : Bool :=
  if (a.pending ++ data).length > cfg.max then !a.failed
  else
    (containsNewline (a.pending ++ data) || (a.pending ++ data).length ≥ cfg.batch) &&
      ready (a.pending ++ data)

/-- The branch of the first loop sends output or fails for the first
time. -/
def selectSpeaks (cfg : Config) (s : Session) : Select → Bool
  | .cancel | .process => false
  | .inputFailure => s.inputFailure && !s.aggregate.failed
  | .overflow => s.overflow && !s.aggregate.failed
  | .reader =>
      match s.reader with
      | some .unexpected | some .overflow => !s.aggregate.failed
      | _ => false
  | .chunk =>
      match s.chunks with
      | [] => false
      | data :: _ => chunkSpeaks cfg s.aggregate data
  | .timer => s.aggregate.armed && ready s.aggregate.pending

def aggregateSpeaks (cfg : Config) (s : Session) (branch : Select) : Bool :=
  match s.aggregate.pc with
  | .loop =>
      if s.aggregate.processExited ∧ s.aggregate.ptyReaderFinished then
        match s.chunks with
        | [] => false
        | data :: _ => chunkSpeaks cfg s.aggregate data
      else selectSpeaks cfg s branch
  | .flushFinal => s.aggregate.pending ≠ []
  | .exit => true
  | _ => false

/-- The step reaches a send of a terminal or an output message. -/
def speaks (cfg : Config) (s : Session) : SessionEvent → Bool
  | .run => terminates cfg s
  | .aggregate branch => s.aggregateStarted && aggregateSpeaks cfg s branch
  | _ => false

/-! ## Exactly these steps are loud -/

variable {cfg : Config} {s : Session}

/-- The effects of a step: at most one loud one, and none unless `b`. -/
structure LoudIff (b : Bool) (u : List Effect) : Prop where
  le : u.length ≤ 1
  iff : (∃ x ∈ u, x.isLoud = true) ↔ b = true

theorem loudIff_nil : LoudIff false [] := ⟨by simp, by simp⟩

theorem loudIff_quiet {x : Effect} (h : x.isLoud = false) : LoudIff false [x] :=
  ⟨by simp, by simp [h]⟩

/-- A message is loud exactly if the queue takes it. -/
theorem LoudIff.enqueue {origin : Origin} {item : OutboundMessage} {ok refused : Session → Session}
    (hitem : (Effect.enqueued origin item).isLoud = true) :
    LoudIff (s.accepts cfg) (s.enqueue cfg origin item ok refused).2 := by
  refine enqueue_rule (P := fun r => LoudIff (s.accepts cfg) r.2) (fun h => ?_) (fun h => ?_)
  · exact ⟨by simp, by simp [hitem, h]⟩
  · rw [h]; exact loudIff_nil

theorem LoudIff.enqueue_quiet {origin : Origin} {item : OutboundMessage}
    {ok refused : Session → Session} (hitem : (Effect.enqueued origin item).isLoud = false) :
    LoudIff false (s.enqueue cfg origin item ok refused).2 :=
  enqueue_rule (P := fun r => LoudIff false r.2) (fun _ => loudIff_quiet hitem)
    (fun _ => loudIff_nil)

/-- An error of the client is loud if the queue takes it. -/
theorem terminateWithError_loud (code : Code) :
    LoudIff (s.accepts cfg) (terminateWithError cfg s code).2 :=
  .enqueue rfl

theorem handleClientMessage_loud {data : Bytes} (hrun : s.run = .handle data) :
    LoudIff (terminates cfg s && s.accepts cfg) (handleClientMessage cfg s data).2 := by
  unfold handleClientMessage
  cases haction : clientAction cfg data with
  | terminate code =>
      have hspeaks : terminates cfg s = true := by simp [terminates, hrun, haction]
      rw [hspeaks, Bool.true_and]
      exact terminateWithError_loud code
  | reject code =>
      have hquiet : terminates cfg s = false := by simp [terminates, hrun, haction]
      rw [hquiet, Bool.false_and]
      exact .enqueue_quiet rfl
  | input request =>
      have hquiet : terminates cfg s = false := by simp [terminates, hrun, haction]
      rw [hquiet, Bool.false_and]
      simp only
      split <;> exact loudIff_nil
  | cancel requestID =>
      have hquiet : terminates cfg s = false := by simp [terminates, hrun, haction]
      rw [hquiet, Bool.false_and]
      simp only
      split <;> exact loudIff_nil
  | _ =>
      have hquiet : terminates cfg s = false := by simp [terminates, hrun, haction]
      rw [hquiet, Bool.false_and]
      exact loudIff_nil

/-- A step of `run` is loud only when it ends the session. -/
theorem runStep_loud : LoudIff (terminates cfg s && s.accepts cfg) (runStep cfg s).2 := by
  cases hrun : s.run with
  | handle data =>
      simp only [runStep, hrun]
      exact handleClientMessage_loud hrun
  | terminate code =>
      simp only [runStep, terminates, hrun, Bool.true_and]
      exact terminateWithError_loud code
  | hello | busy requestID | reportStart i | announce i =>
      simp only [runStep, terminates, hrun, Bool.false_and]
      exact .enqueue_quiet rfl
  | await =>
      simp only [runStep, terminates, hrun, Bool.false_and]
      split <;> exact loudIff_nil
  | _ =>
      simp only [runStep, terminates, hrun, Bool.false_and]
      exact loudIff_nil

/-! ## aggregate -/

/-- A flush in the loop is loud when there is something ready. -/
theorem flush_loud {ok refused : Session → Session} :
    LoudIff (ready s.aggregate.pending && s.accepts cfg) (flush cfg s false ok refused).2 := by
  unfold flush
  simp only [utf8Prefix_eq]
  split
  · rename_i hempty
    have hzero : s.aggregate.pending.take (validFrom false 0 s.aggregate.pending) = [] := by
      by_contra hne
      exact Utf8.toValid_ne_nil hne hempty
    have : ready s.aggregate.pending = false := by
      rcases List.take_eq_nil_iff.mp hzero with h | h
      · simp [ready, h]
      · rw [h]; rfl
    rw [this]
    exact loudIff_nil
  · rename_i hne
    have : ready s.aggregate.pending = true := by
      simp only [ready, ne_eq, decide_eq_true_eq]
      intro hzero
      rw [hzero] at hne
      exact hne rfl
    rw [this, Bool.true_and]
    exact LoudIff.enqueue (s := s.locals fun a =>
      { a with pending := s.aggregate.pending.drop (validFrom false 0 s.aggregate.pending) }) rfl

/-- The last flush is loud if something is pending. -/
theorem flushFinal_loud {ok refused : Session → Session} :
    LoudIff (decide (s.aggregate.pending ≠ []) && s.accepts cfg)
      (flush cfg s true ok refused).2 := by
  unfold flush
  simp only [utf8Prefix_final]
  split
  · rename_i hempty
    have hnil : s.aggregate.pending = [] := by
      by_contra hne
      exact Utf8.toValid_ne_nil hne hempty
    simp only [hnil, ne_eq, not_true_eq_false, decide_false, Bool.false_and]
    exact loudIff_nil
  · rename_i hne
    have hpending : s.aggregate.pending ≠ [] := by
      intro hnil
      rw [hnil] at hne
      exact hne rfl
    simp only [hpending, ne_eq, not_false_eq_true, decide_true, Bool.true_and]
    exact LoudIff.enqueue (s := s.locals fun a => { a with pending := [] }) rfl

/-- A failure is loud the first time. -/
theorem failTerminal_loud (code : Code) :
    LoudIff (!s.aggregate.failed && s.accepts cfg) (failTerminal cfg s code).2 := by
  unfold failTerminal
  cases hfailed : s.aggregate.failed with
  | true => exact loudIff_nil
  | false => exact LoudIff.enqueue (s := s.locals fun a => { a with failed := true }) rfl

theorem consumeChunk_loud (data : Bytes) :
    LoudIff (chunkSpeaks cfg s.aggregate data && s.accepts cfg) (consumeChunk cfg s data).2 := by
  refine consumeChunk_rule
    (P := fun r => LoudIff (chunkSpeaks cfg s.aggregate data && s.accepts cfg) r.2) rfl
    (fun hfull => ?_) (fun hfits hflush => ?_) (fun hfits hwait => ?_)
  · rw [chunkSpeaks, if_pos hfull]
    exact failTerminal_loud (s := s.locals fun a => { a with pending := a.pending ++ data }) _
  · have hbatch : (containsNewline (s.aggregate.pending ++ data) ||
        decide ((s.aggregate.pending ++ data).length ≥ cfg.batch)) = true := by
      simpa using hflush
    rw [chunkSpeaks, if_neg hfits, hbatch, Bool.true_and]
    exact flush_loud (s := s.locals fun a => { a with pending := a.pending ++ data })
  · have hbatch : (containsNewline (s.aggregate.pending ++ data) ||
        decide ((s.aggregate.pending ++ data).length ≥ cfg.batch)) = false := by
      simpa using hwait
    rw [chunkSpeaks, if_neg hfits, hbatch, Bool.false_and, Bool.false_and]
    exact ⟨loudIff_nil, loudIff_nil⟩

theorem aggregateSelect_loud (branch : Select) :
    LoudIff (selectSpeaks cfg s branch && s.accepts cfg) (aggregateSelect cfg s branch).2 := by
  cases branch with
  | cancel =>
      simp only [aggregateSelect, selectSpeaks]
      split <;> exact loudIff_nil
  | process =>
      simp only [aggregateSelect, selectSpeaks]
      split <;> exact loudIff_nil
  | inputFailure =>
      simp only [aggregateSelect, selectSpeaks]
      cases s.inputFailure with
      | true => exact failTerminal_loud _
      | false => exact loudIff_nil
  | overflow =>
      simp only [aggregateSelect, selectSpeaks]
      cases s.overflow with
      | true => exact failTerminal_loud _
      | false => exact loudIff_nil
  | reader =>
      simp only [aggregateSelect, selectSpeaks]
      cases s.reader with
      | none => exact loudIff_nil
      | some kind =>
          cases kind with
          | unexpected | overflow =>
              exact failTerminal_loud (s := ({ s with reader := none } : Session).locals fun a =>
                { a with ptyReaderFinished := true }) _
          | eof | eio | canceled => exact loudIff_nil
  | chunk =>
      simp only [aggregateSelect, selectSpeaks]
      cases s.chunks with
      | nil => exact loudIff_nil
      | cons data rest => exact consumeChunk_loud (s := { s with chunks := rest }) data
  | timer =>
      simp only [aggregateSelect, selectSpeaks]
      cases harmed : s.aggregate.armed with
      | false => exact loudIff_nil
      | true => exact flush_loud (s := s.locals fun a => { a with armed := false })

theorem aggregateBody_loud (branch : Select) :
    LoudIff (aggregateSpeaks cfg s branch && s.accepts cfg) (aggregateBody cfg s branch).2 := by
  cases hpc : s.aggregate.pc with
  | loop =>
      simp only [aggregateBody, aggregateSpeaks, hpc]
      split
      · cases s.chunks with
        | nil => exact loudIff_nil
        | cons data rest => exact consumeChunk_loud (s := { s with chunks := rest }) data
      · exact aggregateSelect_loud branch
  | flushFinal =>
      simp only [aggregateBody, aggregateSpeaks, hpc]
      exact flushFinal_loud
  | exit =>
      simp only [aggregateBody, aggregateSpeaks, hpc, Bool.true_and]
      exact .enqueue rfl
  | awaitWriter =>
      simp only [aggregateBody, aggregateSpeaks, hpc]
      split <;> exact loudIff_nil
  | _ =>
      simp only [aggregateBody, aggregateSpeaks, hpc]
      exact loudIff_nil

/-- A step of `aggregate` is loud as its parts are. -/
theorem aggregateStep_loud (branch : Select) :
    LoudIff (s.aggregateStarted && aggregateSpeaks cfg s branch && s.accepts cfg)
      (aggregateStep cfg s branch).2 := by
  unfold aggregateStep
  cases s.aggregateStarted with
  | true => exact aggregateBody_loud branch
  | false => exact loudIff_nil

/-! ## The other goroutines -/

/-- Reading is quiet. -/
theorem readPTY_loud (data : Bytes) (err : Option ReadError) (viaCancel : Bool) :
    LoudIff false (readPTY cfg s data err viaCancel).2 := by
  unfold readPTY
  split
  · split
    · exact loudIff_nil
    · split
      · exact loudIff_nil
      · split
        · exact loudIff_quiet rfl
        · split <;> exact loudIff_quiet rfl
  · exact loudIff_nil

theorem writeStep_loud (ok : Bool) : LoudIff false (writeStep s ok).2 := by
  unfold writeStep
  split
  · split
    · split
      · exact loudIff_quiet rfl
      · exact loudIff_nil
    · split <;> exact loudIff_nil
  · exact loudIff_nil
  · exact loudIff_nil

theorem inputWritten_loud (count : Nat) (ok : Bool) :
    LoudIff false (inputWritten s count ok).2 := by
  unfold inputWritten
  split
  · split
    · exact loudIff_quiet rfl
    · exact loudIff_quiet rfl
  · exact loudIff_nil

theorem codexStep_loud (i : Nat) (e : CodexEvent) : LoudIff false (codexStep cfg s i e).2 := by
  unfold codexStep
  split
  · exact loudIff_nil
  · rename_i r hr
    cases e with
    | write data =>
        simp only
        split
        · unfold codexWriteStep
          split
          · exact loudIff_nil
          · exact loudIff_nil
          · exact .enqueue_quiet rfl
        · exact loudIff_nil
    | wait result =>
        simp only
        unfold waitCodexStep
        split
        · exact loudIff_nil
        · split
          · exact loudIff_nil
          · rename_i m hm
            refine .enqueue_quiet ?_
            rcases (terminalMessage_concludes hm).type with h | h <;>
              simp [Effect.isLoud, Effect.isTerminal, Effect.isOutput, h]
        · exact loudIff_nil
    | _ => exact loudIff_nil

/-- A step sends a terminal or an output message exactly when it speaks
and the queue accepts. -/
theorem loud_iff (cfg : Config) (s : Session) (e : SessionEvent) :
    LoudIff (speaks cfg s e && s.accepts cfg) (sessionStep cfg s e).2 := by
  cases e with
  | run => exact runStep_loud
  | aggregate branch => exact aggregateStep_loud branch
  | readPTY data err viaCancel => exact readPTY_loud data err viaCancel
  | inputWritten count ok => exact inputWritten_loud count ok
  | write ok => exact writeStep_loud ok
  | codex i e => exact codexStep_loud i e
  | _ => exact loudIff_nil

/-! ## Who ends the session -/

/-- The goroutines that send terminal messages. -/
inductive Ender where
  | run
  | aggregate
  deriving DecidableEq, Repr

/-- A chunk that overruns `pending` for the first time. -/
def overruns (cfg : Config) (a : Aggregate) (data : Bytes) : Bool :=
  (a.pending ++ data).length > cfg.max && !a.failed

/-- The branch of the first loop calls `failTerminal` for the first time. -/
def selectFails (cfg : Config) (s : Session) : Select → Bool
  | .inputFailure => s.inputFailure && !s.aggregate.failed
  | .overflow => s.overflow && !s.aggregate.failed
  | .reader =>
      match s.reader with
      | some .unexpected | some .overflow => !s.aggregate.failed
      | _ => false
  | .chunk =>
      match s.chunks with
      | [] => false
      | data :: _ => overruns cfg s.aggregate data
  | .cancel | .process | .timer => false

/-- `aggregate` fails, or is about to send the exit. -/
def aggregateEnds (cfg : Config) (s : Session) (branch : Select) : Bool :=
  match s.aggregate.pc with
  | .loop =>
      if s.aggregate.processExited ∧ s.aggregate.ptyReaderFinished then
        match s.chunks with
        | [] => false
        | data :: _ => overruns cfg s.aggregate data
      else selectFails cfg s branch
  | .exit => true
  | _ => false

/-- Who decides to end the session, with room in the queue to say so. -/
def ender (cfg : Config) (s : Session) : SessionEvent → Option Ender
  | .run => if terminates cfg s && s.accepts cfg then some .run else none
  | .aggregate branch =>
      if s.aggregateStarted && aggregateEnds cfg s branch && s.accepts cfg then some .aggregate
      else none
  | _ => none

/-! ## In order -/

/-- `aggregate` is between the final flush and the exit. -/
def AggregatePc.sending : AggregatePc → Bool
  | .flushFinal | .exit => true
  | _ => false

/-- `aggregate` takes a chunk from the queue. -/
def takesChunk (s : Session) (branch : Select) : Bool :=
  s.aggregate.pc = .loop &&
    (s.aggregate.processExited && s.aggregate.ptyReaderFinished || branch = .chunk)

/-- The end is decided after the last chunk, and by `run` not while
`aggregate` is sending the exit. -/
def afterLastChunk (s : Session) : SessionEvent → Bool
  | .aggregate branch => s.chunks.length ≤ if takesChunk s branch then 1 else 0
  | _ => s.chunks = [] && !s.aggregate.pc.sending

/-- The timer fires with something to flush. -/
def ticks (s : Session) (branch : Select) : Bool :=
  s.aggregate.pc = .loop && !(s.aggregate.processExited && s.aggregate.ptyReaderFinished) &&
    branch = .timer && s.aggregate.armed && ready s.aggregate.pending

/-- `aggregate` finishes as if nobody had stopped the session. -/
def finishes (s : Session) : Bool :=
  s.aggregate.pc = .finish && !s.aggregate.canceled && !s.aggregate.failed && !s.wasStopped

/-- What may happen once `by` has ended the session: the terminal gives no
more bytes, the timer finds nothing to flush, and the other goroutine does
not end the session as well. -/
def staysEnded (cfg : Config) (s : Session) (who : Ender) : SessionEvent → Bool
  | .readPTY data _ _ => data = []
  | .run => who = .run || !terminates cfg s
  | .aggregate branch =>
      !ticks s branch && (who = .aggregate || !(aggregateEnds cfg s branch || finishes s))
  | _ => true

/-- A schedule, from `s` on, in which the session ends in order; `ended` is
who has ended it before. -/
def endsInOrder (cfg : Config) : Option Ender → Session → List SessionEvent → Bool
  | _, _, [] => true
  | some who, s, e :: es =>
      staysEnded cfg s who e && endsInOrder cfg (some who) (sessionStep cfg s e).1 es
  | none, s, e :: es =>
      ((ender cfg s e).isNone || afterLastChunk s e) &&
        endsInOrder cfg (ender cfg s e) (sessionStep cfg s e).1 es

/-! ## An ended session is quiet -/

/-- `run` has sent its terminal error. -/
def RunPc.terminated : RunPc → Bool
  | .ack | .stop | .await | .returned => true
  | _ => false

/-- `aggregate` is past the exit. -/
def AggregatePc.finished : AggregatePc → Bool
  | .closeOutbound | .awaitWriter | .done => true
  | _ => false

/-- No chunk is left, and `who` will not send again. -/
structure Ended (who : Ender) (s : Session) : Prop where
  chunks : s.chunks = []
  run : who = .run → s.run.terminated = true ∧ s.aggregate.pc.sending = false
  aggregate : who = .aggregate → s.aggregate.failed = true ∧ s.aggregate.pc.sending = false ∨
    s.aggregate.pc.finished = true

variable {who : Ender}

/-- A session that has ended does not end again. -/
theorem terminates_of_terminated (h : s.run.terminated = true) : terminates cfg s = false := by
  cases hrun : s.run with
  | ack | stop | await | returned => simp [terminates, hrun]
  | _ => rw [hrun] at h; cases h

/-- An ended session has nothing to send. -/
theorem Ended.silent (h : Ended who s) {e : SessionEvent} (he : staysEnded cfg s who e = true) :
    speaks cfg s e = false := by
  cases e with
  | run =>
      cases who with
      | run => exact terminates_of_terminated (h.run rfl).1
      | aggregate => simpa [staysEnded, speaks] using he
  | aggregate branch =>
      simp only [staysEnded, Bool.and_eq_true, Bool.not_eq_true'] at he
      obtain ⟨htick, hother⟩ := he
      have hsending : s.aggregate.pc.sending = false := by
        cases who with
        | run => exact (h.run rfl).2
        | aggregate =>
            rcases h.aggregate rfl with ⟨-, hsending⟩ | hfinished
            · exact hsending
            · cases hpc : s.aggregate.pc <;> rw [hpc] at hfinished <;>
                first | rfl | cases hfinished
      suffices hquiet : aggregateSpeaks cfg s branch = false by simp [speaks, hquiet]
      cases hpc : s.aggregate.pc with
      | loop =>
          simp only [aggregateSpeaks, hpc, h.chunks]
          split
          · rfl
          · rename_i hrunning
            -- a failure is the other goroutine's end, or the second of `aggregate`
            have hfails : selectFails cfg s branch = false ∨ s.aggregate.failed = true := by
              cases who with
              | run =>
                  simp only [aggregateEnds, hpc, if_neg hrunning] at hother
                  have hboth : selectFails cfg s branch = false ∧ finishes s = false := by
                    simpa using hother
                  exact .inl hboth.1
              | aggregate =>
                  rcases h.aggregate rfl with ⟨hfailed, -⟩ | hfinished
                  · exact .inr hfailed
                  · rw [hpc] at hfinished; cases hfinished
            cases branch with
            | cancel | process => rfl
            | chunk => simp [selectSpeaks, h.chunks]
            | inputFailure | overflow =>
                rcases hfails with hfails | hfailed
                · exact hfails
                · simp [selectSpeaks, hfailed]
            | reader =>
                rcases hfails with hfails | hfailed
                · exact hfails
                · simp only [selectSpeaks, hfailed, Bool.not_true]
                  split <;> rfl
            | timer =>
                have hopen :
                    (s.aggregate.processExited && s.aggregate.ptyReaderFinished) = false := by
                  simpa using hrunning
                simpa [ticks, hpc, hopen, selectSpeaks] using htick
      | flushFinal | exit => rw [hpc] at hsending; cases hsending
      | _ => simp [aggregateSpeaks, hpc]
  | _ => rfl

/-- After a flush the queue and `pending` may have changed, nothing else. -/
theorem flush_state {P : Session → Prop} {final : Bool} {ok refused : Session → Session}
    (hok : ∀ pending outbound,
      P (ok { s.locals fun a => { a with pending := pending } with outbound := outbound }))
    (hrefused : ∀ pending, P (refused (s.locals fun a => { a with pending := pending }))) :
    P (flush cfg s final ok refused).1 := by
  unfold flush
  simp only
  split
  · exact hok (utf8Prefix s.aggregate.pending final).2 s.outbound
  · exact enqueue_rule (P := fun r => P r.1) (fun _ => hok _ _) (fun _ => hrefused _)

/-- What a step of `aggregate` without chunks cannot take back. -/
structure Onward (s s' : Session) : Prop where
  chunks : s'.chunks = []
  failed : s.aggregate.failed = true → s'.aggregate.failed = true
  sending : s.aggregate.pc.sending = false → finishes s = false →
    s'.aggregate.pc.sending = false
  finished : s.aggregate.pc.finished = true → s'.aggregate.pc.finished = true

/-- A step from the loop that does not end in `finish`. -/
theorem Onward.of_loop {s' : Session} (hpc : s.aggregate.pc = .loop) (hchunks : s'.chunks = [])
    (hfailed : s.aggregate.failed = true → s'.aggregate.failed = true)
    (hsending : s'.aggregate.pc.sending = false) : Onward s s' :=
  ⟨hchunks, hfailed, fun _ _ => hsending, fun h => by rw [hpc] at h; cases h⟩

theorem failTerminal_onward {t : Session} (hpc : t.aggregate.pc = .loop)
    (hloop : s.aggregate.pc = .loop) (hchunks : s.chunks = [])
    (hfailed : t.aggregate.failed = true → s.aggregate.failed = true) (code : Code) :
    Onward t (failTerminal cfg s code).1 := by
  unfold failTerminal
  split
  · exact .of_loop hpc hchunks hfailed (by rw [hloop]; rfl)
  · exact enqueue_rule (P := fun r => Onward t r.1)
      (fun _ => .of_loop hpc hchunks (fun _ => rfl) rfl)
      (fun _ => .of_loop hpc hchunks (fun _ => rfl) rfl)

theorem aggregateSelect_onward (hpc : s.aggregate.pc = .loop) (hchunks : s.chunks = [])
    (branch : Select) : Onward s (aggregateSelect cfg s branch).1 := by
  have hsame : Onward s s := .of_loop hpc hchunks id (by rw [hpc]; rfl)
  cases branch with
  | cancel =>
      simp only [aggregateSelect]
      split
      · exact .of_loop hpc hchunks id (by simp [Session.locals, hpc, AggregatePc.sending])
      · exact hsame
  | process =>
      simp only [aggregateSelect]
      split
      · exact hsame
      · exact .of_loop hpc hchunks id (by simp [Session.locals, hpc, AggregatePc.sending])
  | inputFailure | overflow =>
      simp only [aggregateSelect]
      split
      · exact failTerminal_onward hpc hpc hchunks id _
      · exact hsame
  | reader =>
      simp only [aggregateSelect]
      split
      · exact hsame
      · split
        · exact failTerminal_onward (t := s) hpc (s := ({ s with reader := none } : Session).locals
            fun a => { a with ptyReaderFinished := true }) hpc hchunks id _
        · exact failTerminal_onward (t := s) hpc (s := ({ s with reader := none } : Session).locals
            fun a => { a with ptyReaderFinished := true }) hpc hchunks id _
        all_goals exact .of_loop hpc hchunks id (by simp [Session.locals, hpc, AggregatePc.sending])
  | chunk =>
      simp only [aggregateSelect, hchunks]
      exact hsame
  | timer =>
      simp only [aggregateSelect]
      split
      · refine flush_state (fun pending outbound => ?_) fun pending => ?_
        · exact .of_loop hpc hchunks id (by simp [rearm, Session.locals, hpc, AggregatePc.sending])
        · exact .of_loop hpc hchunks (fun _ => rfl) rfl
      · exact hsame

/-- Without chunks `aggregate` goes on without a word. -/
theorem aggregateBody_onward (hchunks : s.chunks = []) (branch : Select) :
    Onward s (aggregateBody cfg s branch).1 := by
  have hsame : Onward s s := ⟨hchunks, id, fun h _ => h, id⟩
  unfold aggregateBody
  cases hpc : s.aggregate.pc with
  | loop =>
      simp only [hchunks]
      split
      · exact .of_loop hpc hchunks id rfl
      · exact aggregateSelect_onward hpc hchunks branch
  | acking => exact ⟨hchunks, id, fun _ _ => rfl, fun h => by rw [hpc] at h; cases h⟩
  | stopProcess =>
      exact callStopProcess_rule (P := Onward s) (fun _ => ⟨hchunks, id, fun h _ => h, id⟩)
        (fun _ => ⟨hchunks, id, fun _ _ => rfl, fun h => by rw [hpc] at h; cases h⟩) hsame
  | finish =>
      refine ⟨hchunks, id, fun _ hfinishes => ?_, fun h => by rw [hpc] at h; cases h⟩
      have hstopped : (s.aggregate.canceled || s.wasStopped) = true ∨
          s.aggregate.failed = true := by
        simp only [finishes, hpc, decide_true, Bool.true_and] at hfinishes
        cases hcanceled : s.aggregate.canceled <;> cases hfailed : s.aggregate.failed <;>
          simp_all
      simp only [Session.locals, if_pos hstopped]
      rfl
  | flushFinal | exit =>
      have hflush : ∀ {P : Prop}, s.aggregate.pc.sending = false → P := fun h => by
        rw [hpc] at h; cases h
      have hopen : ∀ {P : Prop}, s.aggregate.pc.finished = true → P := fun h => by
        rw [hpc] at h; cases h
      first
        | exact flush_state (P := Onward s)
            (fun _ _ => ⟨hchunks, id, fun h _ => hflush h, hopen⟩)
            fun _ => ⟨hchunks, fun _ => rfl, fun h _ => hflush h, hopen⟩
        | exact enqueue_rule (P := fun r => Onward s r.1)
            (fun _ => ⟨hchunks, id, fun h _ => hflush h, hopen⟩)
            fun _ => ⟨hchunks, fun _ => rfl, fun h _ => hflush h, hopen⟩
  | closeOutbound => exact ⟨hchunks, id, fun _ _ => rfl, fun _ => rfl⟩
  | awaitWriter =>
      simp only
      split
      · exact ⟨hchunks, id, fun _ _ => rfl, fun _ => rfl⟩
      · exact hsame
  | done => exact hsame

/-- `run` stays ended. -/
theorem runStep_ended (h : s.run.terminated = true) : (runStep cfg s).1.run.terminated = true := by
  cases hrun : s.run with
  | ack => simp [runStep, hrun, Session.setRun, RunPc.terminated]
  | stop =>
      simp only [runStep, hrun]
      exact callStop_rule (P := fun s' => s'.run.terminated = true) (fun _ => h) (fun _ => rfl) h
  | await =>
      simp only [runStep, hrun]
      split
      · rfl
      · exact h
  | returned => simpa [runStep, hrun] using h
  | _ => rw [hrun] at h; cases h

/-- Once `run` has sent its error it only waits. -/
theorem sessionStep_ended (h : s.run.terminated = true) (e : SessionEvent) :
    (sessionStep cfg s e).1.run.terminated = true := by
  cases e with
  | run => exact runStep_ended h
  | select viaFinished =>
      simp only [sessionStep, selectStep]
      split
      · next hrun => rw [hrun] at h; cases h
      · exact h
  | startProcess ok =>
      simp only [sessionStep, startProcess]
      split
      · next hrun => rw [hrun] at h; cases h
      · exact h
  | _ =>
      rw [sessionStep_run_eq (by simp) (by simp) (by simp)]
      exact h

/-- Reading nothing adds no chunk. -/
theorem readPTY_nil (err : Option ReadError) (viaCancel : Bool) :
    (readPTY cfg s [] err viaCancel).1.chunks = s.chunks ∧
      (readPTY cfg s [] err viaCancel).1.aggregate = s.aggregate := by
  unfold readPTY
  split
  · cases err <;> exact ⟨rfl, rfl⟩
  · exact ⟨rfl, rfl⟩

/-- A step that touches neither the chunks nor `aggregate`. -/
theorem Ended.aside (h : Ended who s) {e : SessionEvent}
    (hchunks : (sessionStep cfg s e).1.chunks = s.chunks)
    (haggregate : (sessionStep cfg s e).1.aggregate = s.aggregate) :
    Ended who (sessionStep cfg s e).1 := by
  refine ⟨hchunks.trans h.chunks, fun hwho => ?_, fun hwho => ?_⟩
  · rw [haggregate]
    exact ⟨sessionStep_ended (h.run hwho).1 e, (h.run hwho).2⟩
  · rw [haggregate]
    exact h.aggregate hwho

/-- **One step** after the end, if it is one that stays there. -/
theorem Ended.step (h : Ended who s) {e : SessionEvent} (he : staysEnded cfg s who e = true) :
    Ended who (sessionStep cfg s e).1 := by
  cases e with
  | readPTY data err viaCancel =>
      obtain rfl : data = [] := by simpa [staysEnded] using he
      exact h.aside (readPTY_nil err viaCancel).1 (readPTY_nil err viaCancel).2
  | ptyResult =>
      refine h.aside ?_ ?_ <;> simp only [sessionStep, ptyResult] <;> split <;> rfl
  | aggregate branch =>
      have hother : who = .aggregate ∨ finishes s = false := by
        cases who <;> simp_all [staysEnded]
      have honward : Onward s (aggregateStep cfg s branch).1 := by
        unfold aggregateStep
        split
        · exact aggregateBody_onward h.chunks branch
        · exact ⟨h.chunks, id, fun h _ => h, id⟩
      refine ⟨honward.chunks, fun hwho => ?_, fun hwho => ?_⟩
      · refine ⟨sessionStep_ended (h.run hwho).1 _, honward.sending (h.run hwho).2 ?_⟩
        exact hother.resolve_left (by rw [hwho]; simp)
      · refine (h.aggregate hwho).imp (fun hfailed => ?_) honward.finished
        refine ⟨honward.failed hfailed.1, honward.sending hfailed.2 ?_⟩
        simp [finishes, hfailed.1]
  | _ =>
      exact h.aside (sessionStep_aside (by simp) (by simp) (by simp)).frame.chunks
        (sessionStep_aside (by simp) (by simp) (by simp)).frame.aggregate
/-! ## The step that ends a session -/

/-- A quiet step ends nothing. -/
theorem not_terminal_of_quiet {u : List Effect} (h : LoudIff false u) :
    ∀ x ∈ u, x.isTerminal = false := by
  intro x hx
  have hquiet : ¬ x.isLoud = true := fun hloud => absurd (h.iff.mp ⟨x, hx, hloud⟩) (by simp)
  simp only [Effect.isLoud, Bool.or_eq_true, not_or] at hquiet
  simpa using hquiet.1

theorem flush_not_terminal {final : Bool} {ok refused : Session → Session} :
    ∀ x ∈ (flush cfg s final ok refused).2, x.isTerminal = false := by
  unfold flush
  simp only
  split
  · simp
  · exact enqueue_rule (P := fun r => ∀ x ∈ r.2, x.isTerminal = false)
      (fun _ => by simp [Effect.isTerminal, outputMessage]) (fun _ => by simp)

/-- A second failure ends nothing. -/
theorem failTerminal_not_terminal (hfailed : s.aggregate.failed = true) (code : Code) :
    ∀ x ∈ (failTerminal cfg s code).2, x.isTerminal = false := by
  simp [failTerminal, hfailed]

theorem consumeChunk_not_terminal {data : Bytes} (h : overruns cfg s.aggregate data = false) :
    ∀ x ∈ (consumeChunk cfg s data).2, x.isTerminal = false := by
  refine consumeChunk_rule (P := fun r => ∀ x ∈ r.2, x.isTerminal = false) rfl (fun hfull => ?_)
    (fun _ _ => flush_not_terminal) (fun _ _ => ⟨by simp, by simp⟩)
  refine failTerminal_not_terminal (s := s.locals fun a => { a with pending := a.pending ++ data })
    ?_ _
  have hlong : s.aggregate.failed = true := by
    rw [overruns, decide_eq_true hfull, Bool.true_and] at h
    simpa using h
  exact hlong

/-- A branch that does not fail sends no terminal message. -/
theorem aggregateSelect_not_terminal {branch : Select} (h : selectFails cfg s branch = false) :
    ∀ x ∈ (aggregateSelect cfg s branch).2, x.isTerminal = false := by
  cases branch with
  | cancel | process => simp only [aggregateSelect]; split <;> simp
  | inputFailure | overflow =>
      simp only [aggregateSelect]
      split
      · next hsignal => exact failTerminal_not_terminal (by simpa [selectFails, hsignal] using h) _
      · simp
  | reader =>
      simp only [aggregateSelect]
      split
      · simp
      · next kind hkind =>
          cases kind with
          | unexpected | overflow =>
              have hfailed : s.aggregate.failed = true := by simpa [selectFails, hkind] using h
              exact failTerminal_not_terminal (s := ({ s with reader := none } : Session).locals
                fun a => { a with ptyReaderFinished := true }) hfailed _
          | _ => simp
  | chunk =>
      simp only [aggregateSelect]
      split
      · simp
      · next data rest hchunks =>
          exact consumeChunk_not_terminal (s := { s with chunks := rest })
            (by simpa [selectFails, hchunks] using h)
  | timer =>
      simp only [aggregateSelect]
      split
      · exact flush_not_terminal
      · simp

/-- Nor does a step that does not end `aggregate`. -/
theorem aggregateBody_not_terminal {branch : Select} (h : aggregateEnds cfg s branch = false) :
    ∀ x ∈ (aggregateBody cfg s branch).2, x.isTerminal = false := by
  unfold aggregateBody
  cases hpc : s.aggregate.pc with
  | loop =>
      simp only [aggregateEnds, hpc] at h ⊢
      split
      · next hdone =>
          rw [if_pos hdone] at h
          split
          · simp
          · next data rest hchunks =>
              exact consumeChunk_not_terminal (s := { s with chunks := rest })
                (by simpa [hchunks] using h)
      · next hrunning =>
          rw [if_neg hrunning] at h
          exact aggregateSelect_not_terminal h
  | flushFinal => exact flush_not_terminal
  | exit => simp [aggregateEnds, hpc] at h
  | awaitWriter => simp only; split <;> simp
  | _ => simp

/-- A terminal message is sent by a step that ends the session. -/
theorem not_terminal_of_ender {e : SessionEvent} (h : ender cfg s e = none) :
    ∀ x ∈ (sessionStep cfg s e).2, x.isTerminal = false := by
  cases e with
  | run =>
      have hquiet : (terminates cfg s && s.accepts cfg) = false := by simpa [ender] using h
      have hloud := @runStep_loud cfg s
      rw [hquiet] at hloud
      exact not_terminal_of_quiet hloud
  | aggregate branch =>
      have hloud := @aggregateStep_loud cfg s branch
      cases hstarted : s.aggregateStarted with
      | false =>
          rw [hstarted, Bool.false_and, Bool.false_and] at hloud
          exact not_terminal_of_quiet hloud
      | true =>
          simp only [ender, hstarted, Bool.true_and, ite_eq_right_iff, reduceCtorEq,
            imp_false, Bool.not_eq_true, Bool.and_eq_false_iff] at h
          rcases h with hends | hfull
          · simp only [sessionStep, aggregateStep, hstarted, if_true]
            exact aggregateBody_not_terminal hends
          · rw [hfull, Bool.and_false] at hloud
            exact not_terminal_of_quiet hloud
  | readPTY data err viaCancel => exact not_terminal_of_quiet (readPTY_loud data err viaCancel)
  | inputWritten count ok => exact not_terminal_of_quiet (inputWritten_loud count ok)
  | write ok => exact not_terminal_of_quiet (writeStep_loud ok)
  | codex i e => exact not_terminal_of_quiet (codexStep_loud i e)
  | _ => simp [sessionStep]

/-- After its error `run` has ended the session. -/
theorem terminateWithError_ended (haccepts : s.accepts cfg = true) (hchunks : s.chunks = [])
    (hsending : s.aggregate.pc.sending = false) (code : Code) :
    Ended .run (terminateWithError cfg s code).1 :=
  enqueue_rule (P := fun r => Ended .run r.1)
    (fun _ => ⟨hchunks, fun _ => ⟨rfl, hsending⟩, fun h => by cases h⟩)
    (fun hfull => by rw [haccepts] at hfull; cases hfull)

/-- After its error `aggregate` has. -/
theorem failTerminal_ended (haccepts : s.accepts cfg = true)
    (hfailed : s.aggregate.failed = false) (hchunks : s.chunks = []) (code : Code) :
    Ended .aggregate (failTerminal cfg s code).1 := by
  rw [failTerminal, if_neg (by simp [hfailed])]
  exact enqueue_rule (P := fun r => Ended .aggregate r.1)
    (fun _ => ⟨hchunks, fun h => (by cases h), fun _ => .inl ⟨rfl, rfl⟩⟩)
    (fun hfull => absurd (haccepts.symm.trans hfull) (by simp))

theorem consumeChunk_ended {data : Bytes} (haccepts : s.accepts cfg = true)
    (hoverruns : overruns cfg s.aggregate data = true) (hchunks : s.chunks = []) :
    Ended .aggregate (consumeChunk cfg s data).1 := by
  simp only [overruns, Bool.and_eq_true, decide_eq_true_eq, Bool.not_eq_true'] at hoverruns
  refine consumeChunk_rule (P := fun r => Ended .aggregate r.1) rfl (fun _ => ?_)
    (fun hfits _ => absurd hoverruns.1 hfits) (fun hfits _ => absurd hoverruns.1 hfits)
  exact failTerminal_ended (s := s.locals fun a => { a with pending := a.pending ++ data })
    haccepts hoverruns.2 hchunks _

theorem aggregateSelect_ended {branch : Select} (haccepts : s.accepts cfg = true)
    (hfails : selectFails cfg s branch = true)
    (hlast : s.chunks.length ≤ if branch = .chunk then 1 else 0) :
    Ended .aggregate (aggregateSelect cfg s branch).1 := by
  cases branch with
  | cancel | process | timer => cases hfails
  | inputFailure | overflow =>
      simp only [selectFails, Bool.and_eq_true, Bool.not_eq_true'] at hfails
      simp only [aggregateSelect, if_pos hfails.1]
      exact failTerminal_ended haccepts hfails.2
        (List.length_eq_zero_iff.mp (by simpa using hlast)) _
  | reader =>
      have hchunks : s.chunks = [] := List.length_eq_zero_iff.mp (by simpa using hlast)
      simp only [selectFails] at hfails
      split at hfails
      case h_3 => cases hfails
      all_goals
        next hreader =>
          have hfailed : s.aggregate.failed = false := by simpa using hfails
          simp only [aggregateSelect, hreader]
          exact failTerminal_ended (s := ({ s with reader := none } : Session).locals
            fun a => { a with ptyReaderFinished := true }) haccepts hfailed hchunks _
  | chunk =>
      simp only [selectFails] at hfails
      split at hfails
      · cases hfails
      · next data rest hchunks =>
          have hrest : rest = [] := by
            rw [hchunks] at hlast
            exact List.length_eq_zero_iff.mp (by simpa using hlast)
          simp only [aggregateSelect, hchunks]
          exact consumeChunk_ended (s := { s with chunks := rest }) haccepts hfails hrest

/-- A step of `aggregate` that ends it, with its last chunk taken. -/
theorem aggregateBody_ended {branch : Select} (haccepts : s.accepts cfg = true)
    (hends : aggregateEnds cfg s branch = true)
    (hlast : s.chunks.length ≤ if takesChunk s branch then 1 else 0) :
    Ended .aggregate (aggregateBody cfg s branch).1 := by
  unfold aggregateBody
  cases hpc : s.aggregate.pc with
  | loop =>
      simp only [aggregateEnds, hpc] at hends ⊢
      split
      · next hdone =>
          rw [if_pos hdone] at hends
          rcases hchunks : s.chunks with _ | ⟨data, rest⟩
          · rw [hchunks] at hends
            cases hends
          · have hrest : rest = [] := by
              rw [hchunks] at hlast
              exact List.length_eq_zero_iff.mp (by simpa [takesChunk, hpc, hdone] using hlast)
            rw [hchunks] at hends
            exact consumeChunk_ended (s := { s with chunks := rest }) haccepts hends hrest
      · next hrunning =>
          rw [if_neg hrunning] at hends
          have hopen : (s.aggregate.processExited && s.aggregate.ptyReaderFinished) = false := by
            simpa using hrunning
          refine aggregateSelect_ended haccepts hends ?_
          simpa [takesChunk, hpc, hopen] using hlast
  | exit =>
      have hchunks : s.chunks = [] :=
        List.length_eq_zero_iff.mp (by simpa [takesChunk, hpc] using hlast)
      exact enqueue_rule (P := fun r => Ended .aggregate r.1)
        (fun _ => ⟨hchunks, fun h => (by cases h), fun _ => .inr rfl⟩)
        (fun hfull => absurd (haccepts.symm.trans hfull) (by simp))
  | _ => simp [aggregateEnds, hpc] at hends

/-- Whoever ends the session after the last chunk has ended it. -/
theorem ended_of_ender {e : SessionEvent} (h : ender cfg s e = some who)
    (hlast : afterLastChunk s e = true) : Ended who (sessionStep cfg s e).1 := by
  cases e with
  | run =>
      simp only [ender, Option.ite_none_right_eq_some, Bool.and_eq_true, Option.some.injEq] at h
      obtain ⟨⟨hterminates, haccepts⟩, rfl⟩ := h
      simp only [afterLastChunk, Bool.and_eq_true, decide_eq_true_eq, Bool.not_eq_true'] at hlast
      simp only [terminates] at hterminates
      split at hterminates
      · next hrun =>
          simp only [sessionStep, runStep, hrun]
          exact terminateWithError_ended haccepts hlast.1 hlast.2 _
      · next data hrun =>
          split at hterminates
          · next code haction =>
              simp only [sessionStep, runStep, hrun, handleClientMessage, haction]
              exact terminateWithError_ended haccepts hlast.1 hlast.2 _
          · cases hterminates
      · cases hterminates
  | aggregate branch =>
      simp only [ender, Option.ite_none_right_eq_some, Bool.and_eq_true, Option.some.injEq] at h
      obtain ⟨⟨⟨hstarted, hends⟩, haccepts⟩, rfl⟩ := h
      simp only [sessionStep, aggregateStep, hstarted, if_true]
      exact aggregateBody_ended haccepts hends (by simpa [afterLastChunk] using hlast)
  | _ => cases h

/-! ## Whole runs -/

/-- Nothing is said once the session has ended. -/
theorem quiet_of_ended {es : List SessionEvent} (h : Ended who s)
    (hes : endsInOrder cfg (some who) s es = true) :
    ∀ x ∈ (sessionMachine cfg).traceFrom s es, x.isLoud = false := by
  induction es generalizing s with
  | nil => simp
  | cons e es ih =>
      simp only [endsInOrder, Bool.and_eq_true] at hes
      intro x hx
      rw [Machine.traceFrom_cons] at hx
      rcases List.mem_append.mp hx with hx | hx
      · have hloud := (loud_iff cfg s e).iff
        rw [h.silent hes.1, Bool.false_and] at hloud
        by_contra hne
        exact absurd (hloud.mp ⟨x, hx, by simpa using hne⟩) (by simp)
      · exact ih (h.step hes.1) hes.2 x hx

theorem endsOnce_nil : EndsOnce [] := ⟨by simp, by simp⟩

/-- A step that says nothing terminal comes first. -/
theorem EndsOnce.after {t u : List Effect} (h : EndsOnce t)
    (hu : ∀ x ∈ u, x.isTerminal = false) : EndsOnce (u ++ t) := by
  constructor
  · rw [List.filter_append, List.filter_eq_nil_iff.mpr fun x hx => by simp [hu x hx]]
    exact h.one
  · intro A x B hsplit hx
    rcases List.append_eq_append_iff.mp hsplit with ⟨C, rfl, hC⟩ | ⟨C, rfl, hC⟩
    · exact h.last C x B hC hx
    · cases C with
      | nil => exact h.last [] x B (by simpa using hC.symm) hx
      | cons y C =>
          rw [List.cons_append, List.cons.injEq] at hC
          exact absurd (hu x (by simp [hC.1])) (by simp [hx])

/-- One effect, and quiet ones. -/
theorem EndsOnce.of_quiet {t u : List Effect} (hu : u.length ≤ 1)
    (ht : ∀ x ∈ t, x.isLoud = false) : EndsOnce (u ++ t) := by
  have hnone : ∀ x ∈ t, x.isTerminal = false ∧ x.isOutput = false := by
    intro x hx
    simpa [Effect.isLoud] using ht x hx
  constructor
  · have hfilter : t.filter Effect.isTerminal = [] :=
      List.filter_eq_nil_iff.mpr fun x hx => by simp [(hnone x hx).1]
    rw [List.filter_append, hfilter, List.append_nil]
    exact (List.length_filter_le _ _).trans hu
  · intro A x B hsplit hx y hy
    rcases List.append_eq_append_iff.mp hsplit with ⟨C, rfl, hC⟩ | ⟨C, rfl, hC⟩
    · exact (hnone y (by rw [hC]; simp [hy])).2
    · cases C with
      | nil => exact (hnone y (by rw [← List.nil_append t, ← hC]; simp [hy])).2
      | cons z C =>
          rw [List.cons_append, List.cons.injEq] at hC
          have hnil : A = [] ∧ C = [] := by
            simp only [List.length_append, List.length_cons] at hu
            exact ⟨List.length_eq_zero_iff.mp (by omega), List.length_eq_zero_iff.mp (by omega)⟩
          rw [hC.2, hnil.2] at hy
          exact (hnone y hy).2

/-- The induction over a schedule in order. -/
theorem endsOnce_of_inOrder {es : List SessionEvent} (h : endsInOrder cfg none s es = true) :
    EndsOnce ((sessionMachine cfg).traceFrom s es) := by
  induction es generalizing s with
  | nil => exact endsOnce_nil
  | cons e es ih =>
      simp only [endsInOrder, Bool.and_eq_true] at h
      rw [Machine.traceFrom_cons]
      cases hender : ender cfg s e with
      | none =>
          rw [hender] at h
          exact (ih h.2).after (not_terminal_of_ender hender)
      | some who =>
          rw [hender] at h
          have hended := ended_of_ender hender (by simpa using h.1)
          exact .of_quiet (loud_iff cfg s e).le (quiet_of_ended hended h.2)

/-- **A session that ends in order ends with one terminal message and no
output after it.** -/
theorem termination_protocol (cfg : Config) (es : List SessionEvent)
    (h : endsInOrder cfg none newSession es = true) :
    EndsOnce ((sessionMachine cfg).trace es) :=
  endsOnce_of_inOrder h

/-- The terminal fails with a line in the queue, and `aggregate` takes the
line first. -/
theorem termination_protocol_line :
    EndsOnce ((sessionMachine (defaultConfig (ascii "s") fun _ => none)).trace
      [.run, .readPTY [0x61, 0x0A] (some .other) false, .ptyResult, .aggregate .chunk,
        .aggregate .reader, .aggregate .chunk, .stopProcess, .stopProcess, .aggregate .chunk]) :=
  termination_protocol _ _ (by decide +kernel)

/-- The terminal fails while a line is in the queue: the line follows the
terminal error. -/
theorem output_after_end :
    ¬ EndsOnce ((sessionMachine (defaultConfig (ascii "s") fun _ => none)).trace
      [.run, .readPTY [0x61, 0x0A] (some .other) false, .ptyResult, .aggregate .reader,
        .aggregate .chunk, .aggregate .chunk, .stopProcess, .stopProcess, .aggregate .chunk,
        .aggregate .chunk]) := by
  intro h
  have hsplit : (sessionMachine (defaultConfig (ascii "s") fun _ => none)).trace
      [.run, .readPTY [0x61, 0x0A] (some .other) false, .ptyResult, .aggregate .reader,
        .aggregate .chunk, .aggregate .chunk, .stopProcess, .stopProcess, .aggregate .chunk,
        .aggregate .chunk] =
      [.enqueued .session (helloMessage (defaultConfig (ascii "s") fun _ => none)),
        .read [0x61, 0x0A]] ++
      .enqueued .session
        (errorMessage (defaultConfig (ascii "s") fun _ => none) .ptyReadFailed true) ::
      [.enqueued (.pty [0x61, 0x0A])
        (outputMessage (defaultConfig (ascii "s") fun _ => none) [0x61, 0x0A])] := by
    decide +kernel
  have := h.last _ _ _ hsplit rfl _ (List.mem_singleton.mpr rfl)
  exact absurd this (by decide)

end Bootmux.Companion
