/-
Bootmux.Companion.WriterTheorems — what a session writes to the socket.

The outbound queue is first in, first out: `writeMessages` writes what was
enqueued, in that order, until it stops, and every message is one of the
session's own.

The three facts are invariants of the session machine: the queue is a list
from which nothing is taken but its front, what was written and what waits
is what was enqueued (`Queues`), and the session id of every message is the
one that the session was made with. The other modules use them to go over
from what is enqueued to what is on the socket.
-/
import Bootmux.Companion.SessionTheorems

namespace Bootmux.Companion

open Bootmux.Lib

/-! ## The queue -/

def Effect.queued : Effect → List ServerMessage
  | .enqueued _ item => [item.message]
  | .read _ | .wrote _ | .typed _ => []

def Effect.written : Effect → List ServerMessage
  | .wrote message => [message]
  | .read _ | .enqueued _ _ | .typed _ => []

/-- The messages that were put into the outbound queue. -/
def enqueuedMessages (t : List Effect) : List ServerMessage := t.flatMap Effect.queued

/-- The messages that were written to the socket. -/
def wroteMessages (t : List Effect) : List ServerMessage := t.flatMap Effect.written

/-- The messages in the outbound queue. -/
def Session.waiting (s : Session) : List ServerMessage := s.outbound.map OutboundMessage.message

/-- A step that leaves the writer alone and puts what it enqueues at the
end of the queue. -/
structure Queues (s : Session) (r : Session × List Effect) : Prop where
  waiting : r.1.waiting = s.waiting ++ enqueuedMessages r.2
  writer : r.1.writer = s.writer
  wrote : wroteMessages r.2 = []

section

variable {cfg : Config} {s : Session}

/-- A step that sends nothing. -/
theorem Queues.keep {s' : Session} (h : s'.outbound = s.outbound) (hwriter : s'.writer = s.writer) :
    Queues s (s', []) :=
  ⟨by simp [Session.waiting, h, enqueuedMessages], hwriter, rfl⟩

/-- A step that sends one message. -/
theorem Queues.enqueue {origin : Origin} {item : OutboundMessage} {ok refused : Session → Session}
    (hok : ∀ s, (ok s).outbound = s.outbound ∧ (ok s).writer = s.writer)
    (hrefused : (refused s).outbound = s.outbound ∧ (refused s).writer = s.writer) :
    Queues s (s.enqueue cfg origin item ok refused) := by
  refine enqueue_rule (fun _ => ⟨?_, (hok _).2, rfl⟩) fun _ => .keep hrefused.1 hrefused.2
  rw [Session.waiting, (hok _).1, List.map_append]
  rfl

/-- A change before the step that leaves the queue and the writer alone. -/
theorem Queues.of_eq (s₀ : Session) {r : Session × List Effect} (h : Queues s₀ r)
    (hout : s₀.outbound = s.outbound) (hwriter : s₀.writer = s.writer) : Queues s r where
  waiting := by rw [h.waiting, Session.waiting, Session.waiting, hout]
  writer := h.writer.trans hwriter
  wrote := h.wrote

theorem callStop_writer {next : Session → Session} (h : (next s).writer = s.writer) :
    (s.callStop next).writer = s.writer :=
  callStop_rule (P := fun s' => s'.writer = s.writer) (fun _ => rfl) (fun _ => h) rfl

theorem callStopProcess_writer {next : Session → Session} (h : (next s).writer = s.writer) :
    (s.callStopProcess next).writer = s.writer :=
  callStopProcess_rule (P := fun s' => s'.writer = s.writer) (fun _ => rfl) (fun _ => h) rfl

theorem clearCodexRun_writer (i : Nat) : (s.clearCodexRun i).writer = s.writer :=
  clearCodexRun_rule (P := fun s' => s'.writer = s.writer) (fun _ => rfl) (fun _ => rfl)

/-- The message of an error is queued as any other. -/
theorem terminateWithError_queues (code : Code) : Queues s (terminateWithError cfg s code) :=
  .enqueue (fun _ => ⟨rfl, rfl⟩) ⟨rfl, rfl⟩

theorem handleClientMessage_queues (data : Bytes) : Queues s (handleClientMessage cfg s data) := by
  unfold handleClientMessage
  split
  · exact terminateWithError_queues _
  · exact .enqueue (fun _ => ⟨rfl, rfl⟩) ⟨rfl, rfl⟩
  · unfold createRun
    split <;> exact .keep rfl rfl
  · split <;> exact .keep rfl rfl
  · exact .keep rfl rfl
  · split <;> exact .keep rfl rfl

theorem runStep_queues : Queues s (runStep cfg s) := by
  cases hrun : s.run with
  | handle data => simp only [runStep, hrun]; exact handleClientMessage_queues data
  | terminate code => simp only [runStep, hrun]; exact terminateWithError_queues code
  | hello | busy requestID | reportStart i | announce i =>
      simp only [runStep, hrun]
      exact .enqueue (fun _ => ⟨rfl, rfl⟩) ⟨rfl, rfl⟩
  | helloStop | stop =>
      simp only [runStep, hrun]
      exact .keep (callStop_outbound rfl) (callStop_writer rfl)
  | rejected =>
      simp only [runStep, hrun]
      exact .keep (callStopProcess_outbound rfl) (callStopProcess_writer rfl)
  | startFailed i =>
      simp only [runStep, hrun]
      exact .keep (clearCodexRun_outbound (s := s.modifyRun i .cancel) i)
        (clearCodexRun_writer (s := s.modifyRun i .cancel) i)
  | await => simp only [runStep, hrun]; split <;> exact .keep rfl rfl
  | _ => simp only [runStep, hrun]; exact .keep rfl rfl

theorem flush_queues {final : Bool} {ok refused : Session → Session}
    (hok : ∀ s, (ok s).outbound = s.outbound ∧ (ok s).writer = s.writer)
    (hrefused : ∀ s, (refused s).outbound = s.outbound ∧ (refused s).writer = s.writer) :
    Queues s (flush cfg s final ok refused) := by
  unfold flush
  simp only
  split
  · exact .keep (hok _).1 (hok _).2
  · refine Queues.of_eq (s.locals fun a =>
      { a with pending := (utf8Prefix s.aggregate.pending final).2 }) ?_ rfl rfl
    exact .enqueue hok (hrefused _)

theorem failTerminal_queues (code : Code) : Queues s (failTerminal cfg s code) := by
  unfold failTerminal
  split
  · exact .keep rfl rfl
  · refine Queues.of_eq (s.locals fun a => { a with failed := true }) ?_ rfl rfl
    exact .enqueue (fun _ => ⟨rfl, rfl⟩) ⟨rfl, rfl⟩

theorem consumeChunk_queues {data : Bytes} {rest : List Bytes} :
    Queues s (consumeChunk cfg { s with chunks := rest } data) := by
  refine Queues.of_eq (({ s with chunks := rest } : Session).locals fun a =>
    { a with pending := a.pending ++ data }) ?_ rfl rfl
  refine consumeChunk_rule (s := { s with chunks := rest }) rfl (fun _ => failTerminal_queues _)
    (fun _ _ => ?_) fun _ _ => ⟨.keep rfl rfl, .keep rfl rfl⟩
  exact flush_queues (fun _ => ⟨rfl, rfl⟩) fun _ => ⟨rfl, rfl⟩

theorem aggregateSelect_queues (branch : Select) : Queues s (aggregateSelect cfg s branch) := by
  cases branch with
  | cancel | process => simp only [aggregateSelect]; split <;> exact .keep rfl rfl
  | inputFailure | overflow =>
      simp only [aggregateSelect]
      split
      · exact failTerminal_queues _
      · exact .keep rfl rfl
  | reader =>
      simp only [aggregateSelect]
      split
      · exact .keep rfl rfl
      · refine Queues.of_eq (({ s with reader := none } : Session).locals fun a =>
          { a with ptyReaderFinished := true }) ?_ rfl rfl
        split
        · exact failTerminal_queues _
        · exact failTerminal_queues _
        all_goals exact .keep rfl rfl
  | chunk =>
      simp only [aggregateSelect]
      split
      · exact .keep rfl rfl
      · exact consumeChunk_queues
  | timer =>
      simp only [aggregateSelect]
      split
      · refine Queues.of_eq (s.locals fun a => { a with armed := false }) ?_ rfl rfl
        exact flush_queues (fun _ => ⟨rfl, rfl⟩) fun _ => ⟨rfl, rfl⟩
      · exact .keep rfl rfl

theorem aggregateStep_queues (branch : Select) : Queues s (aggregateStep cfg s branch) := by
  unfold aggregateStep
  split
  · unfold aggregateBody
    split
    · split
      · split
        · exact .keep rfl rfl
        · exact consumeChunk_queues
      · exact aggregateSelect_queues branch
    · exact .keep rfl rfl
    · exact .keep (callStopProcess_outbound rfl) (callStopProcess_writer rfl)
    · exact .keep rfl rfl
    · exact flush_queues (fun _ => ⟨rfl, rfl⟩) fun _ => ⟨rfl, rfl⟩
    · exact .enqueue (fun _ => ⟨rfl, rfl⟩) ⟨rfl, rfl⟩
    · exact .keep rfl rfl
    · split <;> exact .keep rfl rfl
    · exact .keep rfl rfl
  · exact .keep rfl rfl

theorem codexStep_queues (i : Nat) (e : CodexEvent) : Queues s (codexStep cfg s i e) := by
  unfold codexStep
  split
  · exact .keep rfl rfl
  · next r hr =>
    cases e with
    | write data =>
        simp only
        split
        · unfold codexWriteStep
          split
          · exact .keep rfl rfl
          · exact .keep rfl rfl
          · refine Queues.of_eq (s.modifyRun i fun r =>
              { r with total := r.total + data.length }) ?_ rfl rfl
            exact .enqueue (fun _ => ⟨rfl, rfl⟩) ⟨rfl, rfl⟩
        · exact .keep rfl rfl
    | wait result =>
        simp only
        unfold waitCodexStep
        split
        · exact .keep (clearCodexRun_outbound i) (clearCodexRun_writer i)
        · split
          · exact .keep rfl rfl
          · exact .enqueue (fun _ => ⟨rfl, rfl⟩) ⟨rfl, rfl⟩
        · exact .keep rfl rfl
    | _ => exact .keep rfl rfl

theorem readPTY_queues (data : Bytes) (err : Option ReadError) (viaCancel : Bool) :
    Queues s (readPTY cfg s data err viaCancel) := by
  have hread : ∀ {s' : Session}, s'.outbound = s.outbound → s'.writer = s.writer →
      Queues s (s', [.read data]) := fun hout hwriter =>
    ⟨by simp [Session.waiting, hout, enqueuedMessages, Effect.queued], hwriter, rfl⟩
  unfold readPTY
  split
  · split
    · exact .keep rfl rfl
    · split
      · exact .keep (by cases err <;> rfl) (by cases err <;> rfl)
      · split
        · exact hread (by cases err <;> rfl) (by cases err <;> rfl)
        · split <;> exact hread rfl rfl
  · exact .keep rfl rfl

theorem inputWritten_queues (count : Nat) (ok : Bool) : Queues s (inputWritten s count ok) := by
  have htyped : ∀ {s' : Session} {data : Bytes}, s'.outbound = s.outbound →
      s'.writer = s.writer → Queues s (s', [.typed data]) := fun hout hwriter =>
    ⟨by simp [Session.waiting, hout, enqueuedMessages, Effect.queued], hwriter, rfl⟩
  unfold inputWritten
  split
  · split
    · exact htyped rfl rfl
    · exact htyped rfl rfl
  · exact .keep rfl rfl

theorem stopSession_writer : (stopSession s).writer = s.writer := by
  unfold stopSession
  split
  case h_3 => split <;> rfl
  case h_6 => exact callStopProcess_writer rfl
  all_goals rfl

/-- Every step but those of the writer. -/
theorem sessionStep_queues (cfg : Config) (s : Session) {e : SessionEvent}
    (h : ∀ ok, e ≠ .write ok) : Queues s (sessionStep cfg s e) := by
  cases e with
  | run => exact runStep_queues
  | select viaFinished =>
      refine .keep (selectStep_outbound viaFinished) ?_
      unfold selectStep
      repeat' split
      all_goals rfl
  | startProcess ok =>
      refine .keep (startProcess_outbound ok) ?_
      unfold startProcess
      repeat' split
      all_goals rfl
  | clientRead event =>
      exact .keep (clientRead_outbound event) (by unfold clientRead; split <;> rfl)
  | clientSend viaCancel =>
      refine .keep (clientSend_outbound viaCancel) ?_
      unfold clientSend
      repeat' split
      all_goals rfl
  | readPTY data err viaCancel => exact readPTY_queues data err viaCancel
  | ptyResult => simp only [sessionStep, ptyResult]; split <;> exact .keep rfl rfl
  | processExit code => simp only [sessionStep, processExit]; split <;> exact .keep rfl rfl
  | inputTake => simp only [sessionStep, inputTake]; split <;> exact .keep rfl rfl
  | inputWritten count ok => exact inputWritten_queues count ok
  | inputCancel => simp only [sessionStep, inputCancel]; split <;> exact .keep rfl rfl
  | aggregate branch => exact aggregateStep_queues branch
  | write ok => exact absurd rfl (h ok)
  | stopSession => exact .keep stopSession_outbound stopSession_writer
  | stopProcess => refine .keep stopProcess_outbound ?_; unfold stopProcess; split <;> rfl
  | codex i e => exact codexStep_queues i e

/-! ## A whole run -/

/-- What was written is what was enqueued, in that order, with the queue
behind it until the writer stops. -/
structure InOrder (t : List Effect) (s : Session) : Prop where
  whole : s.writer = .loop → wroteMessages t ++ s.waiting = enqueuedMessages t
  begun : wroteMessages t <+: enqueuedMessages t

/-- The writer takes the oldest message. -/
theorem writeStep_inOrder {t : List Effect} (h : InOrder t s) (ok : Bool) :
    InOrder (t ++ (writeStep s ok).2) (writeStep s ok).1 := by
  have hstops : ∀ {s' : Session}, s'.writer ≠ .loop → InOrder (t ++ []) s' := fun hwriter =>
    ⟨fun hloop => absurd hloop hwriter, by simpa using h.begun⟩
  unfold writeStep
  split
  · next hloop =>
      split
      · next item rest hout =>
          split
          · have hwhole : wroteMessages (t ++ [.wrote item.message]) ++
                rest.map OutboundMessage.message =
                  enqueuedMessages (t ++ [.wrote item.message]) := by
              simpa [wroteMessages, enqueuedMessages, Effect.written, Effect.queued,
                Session.waiting, hout] using h.whole hloop
            exact ⟨fun _ => hwhole, ⟨_, hwhole⟩⟩
          · exact hstops (by simp)
      · split
        · exact hstops (by simp)
        · simpa using h
  · next hstopping =>
      refine hstops ?_
      refine callStop_rule (P := fun s' => s'.writer ≠ .loop) (fun _ => ?_) (fun _ => by simp) ?_
      · simp [hstopping]
      · simp [hstopping]
  · next hdone => exact hstops (by simp [hdone])

/-- A message that is queued is written after those before it. -/
theorem Queues.inOrder {t : List Effect} {r : Session × List Effect} (h : InOrder t s)
    (hr : Queues s r) : InOrder (t ++ r.2) r.1 := by
  have hwrote : wroteMessages (t ++ r.2) = wroteMessages t := by
    rw [wroteMessages, List.flatMap_append, ← wroteMessages, ← wroteMessages, hr.wrote,
      List.append_nil]
  have henqueued : enqueuedMessages (t ++ r.2) = enqueuedMessages t ++ enqueuedMessages r.2 :=
    List.flatMap_append
  refine ⟨fun hloop => ?_, ?_⟩
  · rw [hwrote, henqueued, hr.waiting, ← List.append_assoc, h.whole (hr.writer.symm.trans hloop)]
  · rw [hwrote, henqueued]
    exact h.begun.trans (List.prefix_append _ _)

/-- **The socket gets what was enqueued, in order.** -/
theorem inOrder_run (cfg : Config) (es : List SessionEvent) :
    InOrder ((sessionMachine cfg).trace es) ((sessionMachine cfg).run es) := by
  induction es using List.reverseRecOn with
  | nil => exact ⟨fun _ => rfl, List.prefix_refl []⟩
  | append_singleton es e ih =>
      rw [Machine.trace_concat, Machine.run_concat]
      by_cases hwrite : ∃ ok, e = .write ok
      · obtain ⟨ok, rfl⟩ := hwrite
        exact writeStep_inOrder ih ok
      · exact Queues.inOrder ih (sessionStep_queues cfg _ fun ok h => hwrite ⟨ok, h⟩)

/-! ## Whose the messages are -/

/-- Every message of a session has its id. -/
theorem Sendable.sessionID {e : SessionEvent} {origin : Origin} {item : OutboundMessage}
    (h : Sendable cfg s e origin item) : item.message.sessionID = cfg.sessionID := by
  cases h with
  | codexEnd hr hwait hm => exact (terminalMessage_concludes hm).sessionID
  | _ => rfl

/-- Every text is UTF-8. -/
theorem Sendable.text_valid {e : SessionEvent} {origin : Origin} {item : OutboundMessage}
    (h : Sendable cfg s e origin item) : Utf8.valid item.message.text = true := by
  cases h with
  | output hdata hraw hne => exact Utf8.toValid_valid _
  | codexOutput hr hcopier htext =>
      unfold codexWrite at htext
      split at htext
      · cases htext
      · split at htext
        · cases htext
        · cases htext
          exact Utf8.toValid_valid _
  | codexEnd hr hwait hm => rw [(terminalMessage_concludes hm).text]; rfl
  | _ => rfl

/-- No message of a session is one of the mirror. -/
theorem Sendable.type_ne {e : SessionEvent} {origin : Origin} {item : OutboundMessage}
    (h : Sendable cfg s e origin item) : item.message.type ≠ .mirrorOutput := by
  cases h with
  | codexEnd hr hwait hm =>
      rcases (terminalMessage_concludes hm).type with htype | ⟨htype, -⟩ <;> rw [htype] <;> simp
  | _ => exact fun heq => (nomatch heq)

end

end Bootmux.Companion
