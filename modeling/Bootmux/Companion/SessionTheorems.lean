/-
Bootmux.Companion.SessionTheorems — rules for the steps of a session and
what each goroutine leaves alone.

`enqueue`, `callStop` and `callStopProcess` each come with a rule that
splits them into what they can do. The frame facts below say which part
of the session a goroutine can change: the terminal part (`PtyFrame`)
belongs to `readPTY` and `aggregate`. `Sendable` lists the messages a
step can enqueue.

The module is what the theorems about sessions start from, and proves none
itself. A statement that holds of every step is mostly proved by cases on
the event; with the rules a case of a shared operation is one application,
and with the frame facts most of the other goroutines are. The lists at the
end (`Sendable`, `Sends`) are complete by one walk through all the steps, so
that what can be sent is not looked up again elsewhere.
-/
import Bootmux.Companion.Session
import Bootmux.Companion.OutputTheorems

namespace Bootmux.Companion

open Bootmux.Lib

variable {cfg : Config} {s : Session}

/-! ## Rules for the shared operations -/

/-- A send in its two cases, with room in the queue or without. -/
theorem enqueue_rule {P : Session × List Effect → Prop} {origin : Origin} {item : OutboundMessage}
    {ok refused : Session → Session}
    (hok : s.accepts cfg = true →
      P (ok { s with outbound := s.outbound ++ [item] }, [.enqueued origin item]))
    (hrefused : s.accepts cfg = false → P (refused s, [])) :
    P (s.enqueue cfg origin item ok refused) := by
  unfold Session.enqueue
  split
  · rename_i h; exact hok h
  · rename_i h; exact hrefused (by simpa using h)

theorem callStop_rule {P : Session → Prop} {next : Session → Session}
    (hidle : s.sessionStop = .idle → P { s with sessionStop := .entered })
    (hdone : s.sessionStop = .done → P (next s)) (hsame : P s) : P (s.callStop next) := by
  unfold Session.callStop
  split
  · rename_i h; exact hidle h
  · rename_i h; exact hdone h
  · exact hsame

theorem callStopProcess_rule {P : Session → Prop} {next : Session → Session}
    (hidle : s.processStop = .idle → P { s with processStop := .entered })
    (hdone : s.processStop = .done → P (next s)) (hsame : P s) :
    P (s.callStopProcess next) := by
  unfold Session.callStopProcess
  split
  · rename_i h; exact hidle h
  · exact hsame
  · exact hsame
  · rename_i h; exact hdone h

theorem clearCodexRun_rule {P : Session → Prop} {i : Nat}
    (hclear : s.codexRun = some i → P { s with codexActive := false, codexRun := none })
    (hsame : s.codexRun ≠ some i → P s) : P (s.clearCodexRun i) := by
  unfold Session.clearCodexRun
  split
  · rename_i h; exact hclear h
  · rename_i h; exact hsame h

/-- A chunk goes to `pending`; what follows depends on the bytes there. -/
theorem consumeChunk_rule {P : Session × List Effect → Prop} {data s'}
    (hs' : s' = s.locals fun a => { a with pending := a.pending ++ data })
    (hfull : (s.aggregate.pending ++ data).length > cfg.max →
      P (failTerminal cfg s' .outputOverflow))
    (hflush : ¬ (s.aggregate.pending ++ data).length > cfg.max →
      containsNewline (s.aggregate.pending ++ data) = true ∨
        (s.aggregate.pending ++ data).length ≥ cfg.batch →
      P (flush cfg s' false rearm flushRefused))
    (hwait : ¬ (s.aggregate.pending ++ data).length > cfg.max →
      ¬ (containsNewline (s.aggregate.pending ++ data) = true ∨
        (s.aggregate.pending ++ data).length ≥ cfg.batch) →
      P (s'.locals fun a => { a with armed := true }, []) ∧ P (s', [])) :
    P (consumeChunk cfg s data) := by
  subst hs'
  unfold consumeChunk
  simp only
  split
  · rename_i h; exact hfull h
  · rename_i h
    split
    · rename_i h'; exact hflush h h'
    · rename_i h'
      split
      · exact (hwait h h').1
      · exact (hwait h h').2

/-- The bytes a flush hands to `strings.ToValidUTF8`. -/
theorem raw_of_flush (pending : Bytes) :
    pending.take (pending.length - (utf8Prefix pending false).2.length) =
      pending.take (validFrom false 0 pending) := by
  have hle := validFrom_le pending
  rw [utf8Prefix_eq, List.length_drop]
  congr 1
  omega

theorem flush_rule {P : Session × List Effect → Prop} {final : Bool}
    (raw rest : Bytes) {ok refused : Session → Session}
    (hflush : utf8Prefix s.aggregate.pending final = (Utf8.toValid raw, rest))
    (hraw : s.aggregate.pending.take (s.aggregate.pending.length - rest.length) = raw)
    (hnone : raw = [] → P (ok (s.locals fun a => { a with pending := rest }), []))
    (hok : P (ok { s.locals fun a => { a with pending := rest } with
        outbound := s.outbound ++ [outputMessage cfg (Utf8.toValid raw)] },
      [.enqueued (.pty raw) (outputMessage cfg (Utf8.toValid raw))]))
    (hrefused : P (refused (s.locals fun a => { a with pending := rest }), [])) :
    P (flush cfg s final ok refused) := by
  unfold flush
  simp only [hflush, hraw]
  split
  · rename_i hempty
    refine hnone ?_
    by_contra hne
    exact Utf8.toValid_ne_nil hne hempty
  · exact enqueue_rule (fun _ => hok) (fun _ => hrefused)

/-! ## The terminal part -/

/-- The part of a session that carries terminal output is untouched, and a
stop is not taken back. -/
structure PtyFrame (s s' : Session) : Prop where
  chunks : s'.chunks = s.chunks
  reader : s'.reader = s.reader
  ptyReader : s'.ptyReader = s.ptyReader
  aggregate : s'.aggregate = s.aggregate
  stopped : s.wasStopped = true → s'.wasStopped = true

namespace PtyFrame

theorem refl (s : Session) : PtyFrame s s := ⟨rfl, rfl, rfl, rfl, id⟩

theorem trans {s t u : Session} (h : PtyFrame s t) (h' : PtyFrame t u) : PtyFrame s u :=
  ⟨h'.chunks.trans h.chunks, h'.reader.trans h.reader, h'.ptyReader.trans h.ptyReader,
    h'.aggregate.trans h.aggregate, h'.stopped ∘ h.stopped⟩

theorem callStop {next : Session → Session} (h : PtyFrame s (next s)) :
    PtyFrame s (s.callStop next) :=
  callStop_rule (fun _ => ⟨rfl, rfl, rfl, rfl, id⟩) (fun _ => h) (refl s)

theorem callStopProcess {next : Session → Session} (h : PtyFrame s (next s)) :
    PtyFrame s (s.callStopProcess next) :=
  callStopProcess_rule (fun hidle => ⟨rfl, rfl, rfl, rfl, by simp [Session.wasStopped, hidle]⟩)
    (fun _ => h) (refl s)

theorem setRun (pc : RunPc) : PtyFrame s (s.setRun pc) := ⟨rfl, rfl, rfl, rfl, id⟩

theorem modifyRun (i : Nat) (f : CodexRun → CodexRun) : PtyFrame s (s.modifyRun i f) :=
  ⟨rfl, rfl, rfl, rfl, id⟩

theorem clearCodexRun (i : Nat) : PtyFrame s (s.clearCodexRun i) :=
  clearCodexRun_rule (fun _ => ⟨rfl, rfl, rfl, rfl, id⟩) (fun _ => refl s)

end PtyFrame

/-- An effect that is neither a read of the terminal nor a message made of
its bytes nor its exit. -/
def Effect.neutral : Effect → Bool
  | .read _ => false
  | .enqueued (.pty _) _ => false
  | .enqueued _ item => item.message.type != .exit && item.message.type != .output
  | .wrote _ | .typed _ => true

/-- A step that has nothing to do with the terminal output. -/
structure Aside (s : Session) (r : Session × List Effect) : Prop where
  frame : PtyFrame s r.1
  neutral : ∀ x ∈ r.2, x.neutral = true

/-- A step that leaves the terminal alone and says nothing. -/
theorem Aside.of_frame {s' : Session} (h : PtyFrame s s') : Aside s (s', []) := ⟨h, by simp⟩

/-- A step aside after one that leaves the terminal alone. -/
theorem Aside.after {t : Session} {r : Session × List Effect} (h : PtyFrame s t) (hr : Aside t r) :
    Aside s r :=
  ⟨h.trans hr.frame, hr.neutral⟩

/-- A neutral message is sent aside. -/
theorem Aside.enqueue {origin : Origin} {item : OutboundMessage} {ok refused : Session → Session}
    (hitem : (Effect.enqueued origin item).neutral = true)
    (hok : ∀ s, PtyFrame s (ok s)) (hrefused : PtyFrame s (refused s)) :
    Aside s (s.enqueue cfg origin item ok refused) :=
  enqueue_rule
    (fun _ => ⟨PtyFrame.trans (t := { s with outbound := s.outbound ++ [item] })
      ⟨rfl, rfl, rfl, rfl, id⟩ (hok _), by simpa using hitem⟩)
    (fun _ => .of_frame hrefused)

/-- An error that ends the session is no output. -/
theorem terminateWithError_aside (code : Code) : Aside s (terminateWithError cfg s code) :=
  .enqueue rfl (fun _ => .setRun _) (.setRun _)

theorem handleClientMessage_aside (data : Bytes) : Aside s (handleClientMessage cfg s data) := by
  unfold handleClientMessage
  split
  · exact terminateWithError_aside _
  · exact .enqueue rfl (fun _ => .setRun _) (.setRun _)
  · unfold createRun
    split
    · exact .of_frame (.setRun _)
    · exact .of_frame ⟨rfl, rfl, rfl, rfl, id⟩
  · split <;> exact .of_frame (.setRun _)
  · exact .of_frame (.setRun _)
  · split
    · exact .of_frame ⟨rfl, rfl, rfl, rfl, id⟩
    · exact .of_frame (.setRun _)

theorem runStep_aside : Aside s (runStep cfg s) := by
  unfold runStep
  split
  · exact .enqueue rfl (fun _ => .setRun _) (.setRun _)
  · exact .of_frame (.callStop (.setRun _))
  · exact handleClientMessage_aside _
  · exact .of_frame (.callStopProcess (.setRun _))
  · exact terminateWithError_aside _
  · exact .enqueue rfl (fun _ => .setRun _) (.setRun _)
  · exact .of_frame ((PtyFrame.modifyRun _ _).trans ((PtyFrame.clearCodexRun _).trans (.setRun _)))
  · exact .enqueue rfl (fun _ => .setRun _) (.setRun _)
  · exact .enqueue rfl (fun _ => .setRun _) (.setRun _)
  · exact .of_frame ((PtyFrame.modifyRun _ _).trans (.setRun _))
  · exact .of_frame ((PtyFrame.modifyRun _ _).trans (.setRun _))
  · exact .of_frame ((PtyFrame.modifyRun _ _).trans (.setRun _))
  · exact .of_frame (.setRun _)
  · exact .of_frame (.callStop (.setRun _))
  · split
    · exact .of_frame (.setRun _)
    · exact .of_frame (.refl s)
  · exact .of_frame (.refl s)
  · exact .of_frame (.refl s)
  · exact .of_frame (.refl s)

theorem selectStep_frame (viaFinished : Bool) : PtyFrame s (selectStep s viaFinished) := by
  unfold selectStep
  split
  · split
    · split
      · exact .setRun _
      · exact .refl s
    · split
      · exact .refl s
      · exact ⟨rfl, rfl, rfl, rfl, id⟩
      · exact ⟨rfl, rfl, rfl, rfl, id⟩
  · exact .refl s

theorem startProcess_frame (ok : Bool) : PtyFrame s (startProcess s ok) := by
  unfold startProcess
  split
  · split <;> exact (PtyFrame.modifyRun _ _).trans (.setRun _)
  · exact .refl s

theorem clientRead_frame (event : ClientEvent) : PtyFrame s (clientRead s event) := by
  unfold clientRead
  split
  · exact ⟨rfl, rfl, rfl, rfl, id⟩
  · exact .refl s

theorem clientSend_frame (viaCancel : Bool) : PtyFrame s (clientSend s viaCancel) := by
  unfold clientSend
  split
  · split
    · split
      · exact ⟨rfl, rfl, rfl, rfl, id⟩
      · exact .refl s
    · split
      · exact .refl s
      · exact ⟨rfl, rfl, rfl, rfl, id⟩
  · exact .refl s

theorem processExit_frame (code : ExitCode) : PtyFrame s (processExit s code) := by
  unfold processExit
  split
  · exact .refl s
  · exact ⟨rfl, rfl, rfl, rfl, id⟩

theorem inputTake_frame : PtyFrame s (inputTake s) := by
  unfold inputTake
  split
  · exact ⟨rfl, rfl, rfl, rfl, id⟩
  · exact .refl s

theorem inputWritten_aside (count : Nat) (ok : Bool) : Aside s (inputWritten s count ok) := by
  unfold inputWritten
  split
  · split
    · exact ⟨⟨rfl, rfl, rfl, rfl, id⟩, by simp [Effect.neutral]⟩
    · exact ⟨⟨rfl, rfl, rfl, rfl, id⟩, by simp [Effect.neutral]⟩
  · exact .of_frame (.refl s)

theorem inputCancel_frame : PtyFrame s (inputCancel s) := by
  unfold inputCancel
  split
  · exact ⟨rfl, rfl, rfl, rfl, id⟩
  · exact .refl s

theorem writeStep_aside (ok : Bool) : Aside s (writeStep s ok) := by
  unfold writeStep
  split
  · split
    · split
      · exact ⟨⟨rfl, rfl, rfl, rfl, id⟩, by simp [Effect.neutral]⟩
      · exact .of_frame ⟨rfl, rfl, rfl, rfl, id⟩
    · split
      · exact .of_frame ⟨rfl, rfl, rfl, rfl, id⟩
      · exact .of_frame (.refl s)
  · exact .of_frame (.callStop ⟨rfl, rfl, rfl, rfl, id⟩)
  · exact .of_frame (.refl s)

theorem stopSession_frame : PtyFrame s (stopSession s) := by
  unfold stopSession
  split
  · exact .refl s
  · exact .refl s
  · split <;> exact ⟨rfl, rfl, rfl, rfl, id⟩
  · exact ⟨rfl, rfl, rfl, rfl, id⟩
  · exact ⟨rfl, rfl, rfl, rfl, id⟩
  · exact .callStopProcess ⟨rfl, rfl, rfl, rfl, id⟩
  · exact ⟨rfl, rfl, rfl, rfl, id⟩

theorem stopProcess_frame : PtyFrame s (stopProcess s) := by
  unfold stopProcess
  split
  · rename_i h; exact ⟨rfl, rfl, rfl, rfl, by simp [Session.wasStopped]⟩
  · rename_i h; exact ⟨rfl, rfl, rfl, rfl, by simp [Session.wasStopped]⟩
  · exact .refl s
  · exact .refl s

/-- The last message of a run: an exit or an error of the run's request,
and not one of the two errors that are sent without a process. -/
structure Concludes (r : CodexRun) (sessionID : Bytes) (m : ServerMessage) : Prop where
  type : m.type = .codexExit ∨
    m.type = .codexError ∧ m.error ≠ some .codexBusy ∧ m.error ≠ some .codexStartFailed
  sessionID : m.sessionID = sessionID
  requestID : m.requestID = r.requestID
  text : m.text = []

/-- The message of a run that is over concludes it. -/
theorem terminalMessage_concludes {r : CodexRun} {sessionID : Bytes} {m : ServerMessage}
    (h : r.terminalMessage sessionID = some m) : Concludes r sessionID m := by
  have herror : ∀ code : Code, code ≠ .codexBusy → code ≠ .codexStartFailed →
      some { type := .codexError, sessionID, error := some code, requestID := r.requestID } =
        some m → Concludes r sessionID m := by
    intro code hbusy hstart h
    obtain rfl := Option.some.inj h
    exact ⟨.inr ⟨rfl, by simpa using hbusy, by simpa using hstart⟩, rfl, rfl, rfl⟩
  unfold CodexRun.terminalMessage at h
  simp only at h
  split at h
  · cases h
  · cases h
  · exact herror .codexOutputOverflow (by decide) (by decide) h
  · exact herror .codexTimeout (by decide) (by decide) h
  · exact herror .codexCancelled (by decide) (by decide) h
  all_goals
    split at h
    · exact herror .codexOutputOverflow (by decide) (by decide) h
    · exact herror .codexFailed (by decide) (by decide) h
    · obtain rfl := Option.some.inj h
      exact ⟨.inl rfl, rfl, rfl, rfl⟩

theorem codexStep_aside (i : Nat) (e : CodexEvent) : Aside s (codexStep cfg s i e) := by
  unfold codexStep
  split
  · exact .of_frame (.refl s)
  · rename_i r hr
    cases e with
    | write data =>
        simp only
        split
        · unfold codexWriteStep
          split
          · exact .of_frame (.refl s)
          · exact .of_frame (.modifyRun _ _)
          · exact .after (.modifyRun _ _) (.enqueue rfl (fun s => .refl s) (.modifyRun _ _))
        · exact .of_frame (.refl s)
    | wait result =>
        simp only
        unfold waitCodexStep
        split
        · exact .of_frame ((PtyFrame.clearCodexRun _).trans (.modifyRun _ _))
        · split
          · exact .of_frame (.modifyRun _ _)
          · rename_i m hm
            refine .enqueue ?_ (fun _ => .modifyRun _ _) (.modifyRun _ _)
            rcases (terminalMessage_concludes hm).type with h | h <;> simp [Effect.neutral, h]
        · exact .of_frame (.modifyRun _ _)
    | _ => exact .of_frame (.modifyRun _ _)

/-- Only `readPTY` and `aggregate` deal with the terminal output. -/
theorem sessionStep_aside {e : SessionEvent}
    (hread : ∀ data err viaCancel, e ≠ .readPTY data err viaCancel) (hresult : e ≠ .ptyResult)
    (haggregate : ∀ branch, e ≠ .aggregate branch) : Aside s (sessionStep cfg s e) := by
  cases e with
  | run => exact runStep_aside
  | select viaFinished => exact .of_frame (selectStep_frame viaFinished)
  | startProcess ok => exact .of_frame (startProcess_frame ok)
  | clientRead event => exact .of_frame (clientRead_frame event)
  | clientSend viaCancel => exact .of_frame (clientSend_frame viaCancel)
  | readPTY data err viaCancel => exact absurd rfl (hread data err viaCancel)
  | ptyResult => exact absurd rfl hresult
  | processExit code => exact .of_frame (processExit_frame code)
  | inputTake => exact .of_frame inputTake_frame
  | inputWritten count ok => exact inputWritten_aside count ok
  | inputCancel => exact .of_frame inputCancel_frame
  | aggregate branch => exact absurd rfl (haggregate branch)
  | write ok => exact writeStep_aside ok
  | stopSession => exact .of_frame stopSession_frame
  | stopProcess => exact .of_frame stopProcess_frame
  | codex i e => exact codexStep_aside i e

/-! ## The steps of `aggregate` and `readPTY` -/

/-- A session without the parts that carry terminal output to the outbound
queue. -/
def Session.others (s : Session) : Session :=
  { s with
    chunks := []
    reader := none
    process := none
    overflow := false
    outbound := []
    outboundClosed := false
    finished := false
    processStop := .idle
    ptyReader := .reading
    aggregate := newSession.aggregate }

/-- A read of the terminal, or a message that is not of a Codex run. -/
def Effect.outward : Effect → Bool
  | .read _ => true
  | .enqueued (.codex _) _ => false
  | .enqueued _ _ => true
  | .wrote _ | .typed _ => false

/-- A step that only carries terminal output. -/
structure Outward (s : Session) (r : Session × List Effect) : Prop where
  others : r.1.others = s.others
  effects : ∀ x ∈ r.2, x.outward = true

/-- A step that says nothing and leaves the others. -/
theorem Outward.quiet {s' : Session} (h : s'.others = s.others) : Outward s (s', []) :=
  ⟨h, fun _ hx => absurd hx List.not_mem_nil⟩

/-- A change before the step. -/
theorem Outward.after {t : Session} {r : Session × List Effect} (h : Outward t r)
    (ht : t.others = s.others) : Outward s r :=
  ⟨h.others.trans ht, h.effects⟩

/-- A message of the terminal. -/
theorem Outward.enqueue {origin : Origin} {item : OutboundMessage} {ok refused : Session → Session}
    (horigin : (Effect.enqueued origin item).outward = true)
    (hok : ∀ s : Session, (ok s).others = s.others) (hrefused : (refused s).others = s.others) :
    Outward s (s.enqueue cfg origin item ok refused) :=
  enqueue_rule (fun _ => ⟨hok _, by simpa using horigin⟩) (fun _ => .quiet hrefused)

/-- A flush is a matter of the terminal alone. -/
theorem flush_outward {final : Bool} {ok refused : Session → Session}
    (hok : ∀ s : Session, (ok s).others = s.others)
    (hrefused : ∀ s : Session, (refused s).others = s.others) :
    Outward s (flush cfg s final ok refused) := by
  unfold flush
  simp only
  split
  · exact .quiet (hok _)
  · exact .after (.enqueue rfl hok (hrefused _)) rfl

theorem failTerminal_outward (code : Code) : Outward s (failTerminal cfg s code) := by
  unfold failTerminal
  split
  · exact .quiet rfl
  · exact .after (.enqueue rfl (fun _ => rfl) rfl) rfl

theorem consumeChunk_outward (data : Bytes) (rest : List Bytes) :
    Outward s (consumeChunk cfg { s with chunks := rest } data) := by
  refine consumeChunk_rule (s := { s with chunks := rest }) (P := Outward s) rfl (fun _ => ?_)
    (fun _ _ => ?_) (fun _ _ => ⟨.quiet rfl, .quiet rfl⟩)
  · exact .after (failTerminal_outward .outputOverflow) rfl
  · exact .after (flush_outward (fun _ => rfl) fun _ => rfl) rfl

theorem aggregateSelect_outward (branch : Select) : Outward s (aggregateSelect cfg s branch) := by
  cases branch with
  | cancel => simp only [aggregateSelect]; split <;> exact .quiet rfl
  | process => simp only [aggregateSelect]; split <;> exact .quiet rfl
  | inputFailure =>
      simp only [aggregateSelect]
      split
      · exact failTerminal_outward _
      · exact .quiet rfl
  | overflow =>
      simp only [aggregateSelect]
      split
      · exact failTerminal_outward _
      · exact .quiet rfl
  | reader =>
      simp only [aggregateSelect]
      have hfail : ∀ code, Outward s (failTerminal cfg (({ s with reader := none } :
          Session).locals fun a => { a with ptyReaderFinished := true }) code) := fun code =>
        .after (failTerminal_outward code) rfl
      split
      · exact .quiet rfl
      · split
        · exact hfail _
        · exact hfail _
        · exact .quiet rfl
        · exact .quiet rfl
        · exact .quiet rfl
  | chunk =>
      simp only [aggregateSelect]
      split
      · exact .quiet rfl
      · exact consumeChunk_outward _ _
  | timer =>
      simp only [aggregateSelect]
      split
      · exact .after (flush_outward (fun _ => rfl) fun _ => rfl) rfl
      · exact .quiet rfl

theorem aggregateStep_outward (branch : Select) : Outward s (aggregateStep cfg s branch) := by
  unfold aggregateStep
  split
  · unfold aggregateBody
    split
    · split
      · split
        · exact .quiet rfl
        · exact consumeChunk_outward _ _
      · exact aggregateSelect_outward branch
    · exact .quiet rfl
    · exact callStopProcess_rule (P := fun s' => Outward s (s', [])) (fun _ => .quiet rfl)
        (fun _ => .quiet rfl) (.quiet rfl)
    · exact .quiet rfl
    · exact flush_outward (fun _ => rfl) (fun _ => rfl)
    · exact .enqueue rfl (fun _ => rfl) rfl
    · exact .quiet rfl
    · split <;> exact .quiet rfl
    · exact .quiet rfl
  · exact .quiet rfl

theorem readPTY_outward (data : Bytes) (err : Option ReadError) (viaCancel : Bool) :
    Outward s (readPTY cfg s data err viaCancel) := by
  have hafter : ∀ s : Session, (afterRead s err).others = s.others := fun s => by cases err <;> rfl
  have hread : ∀ x ∈ [Effect.read data], x.outward = true := by simp [Effect.outward]
  unfold readPTY
  split
  · split
    · exact .quiet rfl
    · split
      · exact .quiet (hafter s)
      · split
        · exact ⟨hafter _, hread⟩
        · split <;> exact ⟨rfl, hread⟩
  · exact .quiet rfl

/-! ## The messages a step can send -/

/-- The messages the step `e` can put into the outbound queue. -/
inductive Sendable (cfg : Config) (s : Session) : SessionEvent → Origin → OutboundMessage → Prop
  | hello : Sendable cfg s .run .session (helloMessage cfg)
  | error (code : Code) (written : Bool) :
      Sendable cfg s .run .session (errorMessage cfg code written)
  | busy {requestID : Bytes} (hrun : s.run = .busy requestID) :
      Sendable cfg s .run .session (codexErrorMessage cfg requestID .codexBusy)
  | startFailed {i : Nat} (hrun : s.run = .reportStart i) :
      Sendable cfg s .run (.codex i) (codexErrorMessage cfg (s.requestID i) .codexStartFailed)
  | started {i : Nat} (hrun : s.run = .announce i) :
      Sendable cfg s .run (.codex i) (codexStartedMessage cfg (s.requestID i))
  | output {branch : Select} {raw data : Bytes} (hdata : data = [] ∨ data ∈ s.chunks)
      (hraw : raw <+: s.aggregate.pending ++ data) (hne : raw ≠ []) :
      Sendable cfg s (.aggregate branch) (.pty raw) (outputMessage cfg (Utf8.toValid raw))
  | failed {branch : Select} (code : Code) :
      Sendable cfg s (.aggregate branch) .session (errorMessage cfg code true)
  | exit {branch : Select} (code : ExitCode) :
      Sendable cfg s (.aggregate branch) .session (exitMessage cfg code)
  | codexOutput {i : Nat} {r : CodexRun} {data text : Bytes} (hr : s.runs[i]? = some r)
      (hcopier : r.copier = .copying) (htext : codexWrite r.total data = .text text) :
      Sendable cfg s (.codex i (.write data)) (.codex i)
        ⟨codexOutput cfg.sessionID r.requestID text, false⟩
  | codexEnd {i : Nat} {r : CodexRun} {result : WaitResult} {m : ServerMessage}
      (hr : s.runs[i]? = some r) (hwait : r.wait = .terminal)
      (hm : r.terminalMessage cfg.sessionID = some m) :
      Sendable cfg s (.codex i (.wait result)) (.codex i) ⟨m, false⟩

/-- What a step does to the outbound queue: it can send the messages that
satisfy `P` into a queue that accepts, and write the ones that are there. -/
structure Sends (cfg : Config) (P : Origin → OutboundMessage → Prop) (s : Session)
    (r : Session × List Effect) : Prop where
  outbound : ∀ item ∈ r.1.outbound, item ∈ s.outbound ∨ ∃ origin, .enqueued origin item ∈ r.2
  sent : ∀ origin item, .enqueued origin item ∈ r.2 → s.accepts cfg = true ∧ P origin item
  wrote : ∀ m, .wrote m ∈ r.2 → ∃ item ∈ s.outbound, item.message = m

variable {P : Origin → OutboundMessage → Prop}

/-- A step that sends nothing. -/
theorem Sends.keep {s' : Session} (h : s'.outbound = s.outbound) : Sends cfg P s (s', []) :=
  ⟨fun item hi => .inl (by rwa [h] at hi), by simp, by simp⟩

/-- A message that may be sent. -/
theorem Sends.enqueue {origin : Origin} {item : OutboundMessage} {ok refused : Session → Session}
    (hitem : P origin item) (hok : ∀ s, (ok s).outbound = s.outbound)
    (hrefused : (refused s).outbound = s.outbound) :
    Sends cfg P s (s.enqueue cfg origin item ok refused) := by
  refine enqueue_rule (fun haccepts => ⟨fun x hx => ?_, ?_, by simp⟩) (fun _ => .keep hrefused)
  · rw [hok] at hx
    rcases List.mem_append.mp hx with hx | hx
    · exact .inl hx
    · rw [List.mem_singleton] at hx
      exact .inr ⟨origin, by simp [hx]⟩
  · intro o x hx
    rw [List.mem_singleton, Effect.enqueued.injEq] at hx
    rw [hx.1, hx.2]
    exact ⟨haccepts, hitem⟩

/-- A change before the step that leaves the queue alone. -/
theorem Sends.of_eq (s₀ : Session) {r : Session × List Effect} (h : Sends cfg P s₀ r)
    (hout : s₀.outbound = s.outbound) (hclosed : s₀.outboundClosed = s.outboundClosed) :
    Sends cfg P s r := by
  have haccepts : s₀.accepts cfg = s.accepts cfg := by
    simp only [Session.accepts, hout, hclosed]
  refine ⟨fun item hi => ?_, fun o x hx => ?_, fun m hm => ?_⟩
  · rw [← hout]; exact h.outbound item hi
  · rw [← haccepts]; exact h.sent o x hx
  · rw [← hout]; exact h.wrote m hm

theorem callStop_outbound {next : Session → Session} (h : (next s).outbound = s.outbound) :
    (s.callStop next).outbound = s.outbound :=
  callStop_rule (P := fun s' => s'.outbound = s.outbound) (fun _ => rfl) (fun _ => h) rfl

theorem callStopProcess_outbound {next : Session → Session} (h : (next s).outbound = s.outbound) :
    (s.callStopProcess next).outbound = s.outbound :=
  callStopProcess_rule (P := fun s' => s'.outbound = s.outbound) (fun _ => rfl) (fun _ => h) rfl

theorem clearCodexRun_outbound (i : Nat) : (s.clearCodexRun i).outbound = s.outbound :=
  clearCodexRun_rule (P := fun s' => s'.outbound = s.outbound) (fun _ => rfl) (fun _ => rfl)

theorem terminateWithError_sends (code : Code) :
    Sends cfg (Sendable cfg s .run) s (terminateWithError cfg s code) :=
  .enqueue (.error code true) (fun _ => rfl) rfl

theorem handleClientMessage_sends (data : Bytes) :
    Sends cfg (Sendable cfg s .run) s (handleClientMessage cfg s data) := by
  unfold handleClientMessage
  split
  · exact terminateWithError_sends _
  · exact .enqueue (.error _ false) (fun _ => rfl) rfl
  · unfold createRun
    split <;> exact .keep rfl
  · split <;> exact .keep rfl
  · exact .keep rfl
  · split <;> exact .keep rfl

theorem runStep_sends : Sends cfg (Sendable cfg s .run) s (runStep cfg s) := by
  cases hrun : s.run with
  | hello => simp only [runStep, hrun]; exact .enqueue .hello (fun _ => rfl) rfl
  | handle data => simp only [runStep, hrun]; exact handleClientMessage_sends data
  | terminate code => simp only [runStep, hrun]; exact terminateWithError_sends code
  | busy requestID => simp only [runStep, hrun]; exact .enqueue (.busy hrun) (fun _ => rfl) rfl
  | reportStart i =>
      simp only [runStep, hrun]
      exact .enqueue (.startFailed hrun) (fun _ => rfl) rfl
  | announce i => simp only [runStep, hrun]; exact .enqueue (.started hrun) (fun _ => rfl) rfl
  | helloStop => simp only [runStep, hrun]; exact .keep (callStop_outbound rfl)
  | stop => simp only [runStep, hrun]; exact .keep (callStop_outbound rfl)
  | rejected => simp only [runStep, hrun]; exact .keep (callStopProcess_outbound rfl)
  | startFailed i =>
      simp only [runStep, hrun]
      exact .keep (clearCodexRun_outbound (s := s.modifyRun i .cancel) i)
  | await => simp only [runStep, hrun]; split <;> exact .keep rfl
  | _ => simp only [runStep, hrun]; exact .keep rfl

/-- The texts of a flush are made of a first part of `pending`. -/
theorem flush_sends {branch : Select} {s₀ : Session} (data : Bytes) {final : Bool}
    (hdata : data = [] ∨ data ∈ s₀.chunks)
    (hpending : s.aggregate.pending <+: s₀.aggregate.pending ++ data)
    {ok refused : Session → Session} (hok : ∀ s, (ok s).outbound = s.outbound)
    (hrefused : ∀ s, (refused s).outbound = s.outbound) :
    Sends cfg (Sendable cfg s₀ (.aggregate branch)) s (flush cfg s final ok refused) := by
  have htext : (utf8Prefix s.aggregate.pending final).1 =
      Utf8.toValid (s.aggregate.pending.take
        (s.aggregate.pending.length - (utf8Prefix s.aggregate.pending final).2.length)) := by
    cases final with
    | true => rw [utf8Prefix_final]; simp
    | false =>
        have hle := validFrom_le s.aggregate.pending
        rw [utf8Prefix_eq, List.length_drop, Nat.sub_sub_self hle]
  unfold flush
  simp only
  split
  · exact .keep (hok _)
  · rename_i hempty
    rw [htext] at hempty ⊢
    refine Sends.of_eq (s.locals fun a =>
      { a with pending := (utf8Prefix s.aggregate.pending final).2 }) ?_ rfl rfl
    refine .enqueue (.output hdata ((List.take_prefix _ _).trans hpending) ?_) hok (hrefused _)
    intro hraw
    rw [hraw] at hempty
    exact hempty rfl

theorem failTerminal_sends {branch : Select} {s₀ : Session} (code : Code) :
    Sends cfg (Sendable cfg s₀ (.aggregate branch)) s (failTerminal cfg s code) := by
  unfold failTerminal
  split
  · exact .keep rfl
  · refine Sends.of_eq (s.locals fun a => { a with failed := true }) ?_ rfl rfl
    exact .enqueue (.failed code) (fun _ => rfl) rfl

theorem consumeChunk_sends {branch : Select} {data : Bytes} {rest : List Bytes}
    (hchunks : s.chunks = data :: rest) :
    Sends cfg (Sendable cfg s (.aggregate branch)) s
      (consumeChunk cfg { s with chunks := rest } data) := by
  refine Sends.of_eq (({ s with chunks := rest } : Session).locals fun a =>
    { a with pending := a.pending ++ data }) ?_ rfl rfl
  refine consumeChunk_rule (s := { s with chunks := rest }) rfl (fun _ => failTerminal_sends _)
    (fun _ _ => ?_) fun _ _ => ⟨.keep rfl, .keep rfl⟩
  exact flush_sends data (.inr (by simp [hchunks])) List.prefix_rfl (fun _ => rfl)
    (fun _ => rfl)

theorem aggregateSelect_sends (branch : Select) :
    Sends cfg (Sendable cfg s (.aggregate branch)) s (aggregateSelect cfg s branch) := by
  cases branch with
  | cancel => simp only [aggregateSelect]; split <;> exact .keep rfl
  | process => simp only [aggregateSelect]; split <;> exact .keep rfl
  | inputFailure =>
      simp only [aggregateSelect]
      split
      · exact failTerminal_sends _
      · exact .keep rfl
  | overflow =>
      simp only [aggregateSelect]
      split
      · exact failTerminal_sends _
      · exact .keep rfl
  | reader =>
      simp only [aggregateSelect]
      split
      · exact .keep rfl
      · refine Sends.of_eq (({ s with reader := none } : Session).locals fun a =>
          { a with ptyReaderFinished := true }) ?_ rfl rfl
        split
        · exact failTerminal_sends _
        · exact failTerminal_sends _
        · exact .keep rfl
        · exact .keep rfl
        · exact .keep rfl
  | chunk =>
      simp only [aggregateSelect]
      split
      · exact .keep rfl
      · rename_i hchunks; exact consumeChunk_sends hchunks
  | timer =>
      simp only [aggregateSelect]
      split
      · refine Sends.of_eq (s.locals fun a => { a with armed := false }) ?_ rfl rfl
        exact flush_sends [] (.inl rfl) (by simp [Session.locals]) (fun _ => rfl)
          (fun _ => rfl)
      · exact .keep rfl

theorem aggregateStep_sends (branch : Select) :
    Sends cfg (Sendable cfg s (.aggregate branch)) s (aggregateStep cfg s branch) := by
  unfold aggregateStep
  split
  · unfold aggregateBody
    split
    · split
      · split
        · exact .keep rfl
        · rename_i hchunks; exact consumeChunk_sends hchunks
      · exact aggregateSelect_sends branch
    · exact .keep rfl
    · exact .keep (callStopProcess_outbound rfl)
    · exact .keep rfl
    · exact flush_sends [] (.inl rfl) (by simp) (fun _ => rfl) (fun _ => rfl)
    · exact .enqueue (.exit _) (fun _ => rfl) rfl
    · exact .keep rfl
    · split <;> exact .keep rfl
    · exact .keep rfl
  · exact .keep rfl

theorem codexStep_sends (i : Nat) (e : CodexEvent) :
    Sends cfg (Sendable cfg s (.codex i e)) s (codexStep cfg s i e) := by
  unfold codexStep
  split
  · exact .keep rfl
  · rename_i r hr
    cases e with
    | write data =>
        simp only
        split
        · rename_i hcopier
          unfold codexWriteStep
          split
          · exact .keep rfl
          · exact .keep rfl
          · rename_i text htext
            refine Sends.of_eq (s.modifyRun i fun r =>
              { r with total := r.total + data.length }) ?_ rfl rfl
            exact .enqueue (.codexOutput hr hcopier htext) (fun _ => rfl) rfl
        · exact .keep rfl
    | wait result =>
        simp only
        unfold waitCodexStep
        split
        · exact .keep (clearCodexRun_outbound i)
        · rename_i hwait
          split
          · exact .keep rfl
          · rename_i m hm
            exact .enqueue (.codexEnd hr hwait hm) (fun _ => rfl) rfl
        · exact .keep rfl
    | _ => exact .keep rfl

theorem writeStep_sends (ok : Bool) : Sends cfg P s (writeStep s ok) := by
  unfold writeStep
  split
  · split
    · rename_i item rest hout
      have hrest : ∀ x ∈ rest, x ∈ s.outbound := fun x hx => by rw [hout]; simp [hx]
      split
      · refine ⟨fun x hx => .inl (hrest x hx), by simp, fun m hm => ?_⟩
        rw [List.mem_singleton, Effect.wrote.injEq] at hm
        exact ⟨item, by rw [hout]; simp, hm.symm⟩
      · exact ⟨fun x hx => .inl (hrest x hx), by simp, by simp⟩
    · split <;> exact .keep rfl
  · exact .keep (callStop_outbound rfl)
  · exact .keep rfl

theorem readPTY_sends (data : Bytes) (err : Option ReadError) (viaCancel : Bool) :
    Sends cfg P s (readPTY cfg s data err viaCancel) := by
  have hafter : ∀ s : Session, (afterRead s err).outbound = s.outbound := by
    intro s; cases err <;> rfl
  unfold readPTY
  split
  · split
    · exact .keep rfl
    · split
      · exact .keep (hafter s)
      · split
        · refine ⟨fun x hx => .inl ?_, by simp, by simp⟩
          have hx : x ∈ (afterRead { s with chunks := s.chunks ++ [data] } err).outbound := hx
          rw [hafter] at hx
          exact hx
        · split <;> exact ⟨fun x hx => .inl hx, by simp, by simp⟩
  · exact .keep rfl

theorem selectStep_outbound (viaFinished : Bool) :
    (selectStep s viaFinished).outbound = s.outbound := by
  unfold selectStep
  repeat' split
  all_goals rfl

theorem startProcess_outbound (ok : Bool) : (startProcess s ok).outbound = s.outbound := by
  unfold startProcess
  repeat' split
  all_goals rfl

theorem clientRead_outbound (event : ClientEvent) : (clientRead s event).outbound = s.outbound := by
  unfold clientRead
  split <;> rfl

theorem clientSend_outbound (viaCancel : Bool) :
    (clientSend s viaCancel).outbound = s.outbound := by
  unfold clientSend
  repeat' split
  all_goals rfl

theorem inputWritten_sends (count : Nat) (ok : Bool) : Sends cfg P s (inputWritten s count ok) := by
  unfold inputWritten
  split
  · split
    · exact ⟨fun x hx => .inl hx, by simp, by simp⟩
    · exact ⟨fun x hx => .inl hx, by simp, by simp⟩
  · exact .keep rfl

theorem stopSession_outbound : (stopSession s).outbound = s.outbound := by
  unfold stopSession
  split
  · rfl
  · rfl
  · split <;> rfl
  · rfl
  · rfl
  · exact callStopProcess_outbound rfl
  · rfl

theorem stopProcess_outbound : (stopProcess s).outbound = s.outbound := by
  unfold stopProcess
  split <;> rfl

/-- **Every message of a session is one of these.** -/
theorem sessionStep_sends (cfg : Config) (s : Session) (e : SessionEvent) :
    Sends cfg (Sendable cfg s e) s (sessionStep cfg s e) := by
  cases e with
  | run => exact runStep_sends
  | select viaFinished => exact .keep (selectStep_outbound viaFinished)
  | startProcess ok => exact .keep (startProcess_outbound ok)
  | clientRead event => exact .keep (clientRead_outbound event)
  | clientSend viaCancel => exact .keep (clientSend_outbound viaCancel)
  | readPTY data err viaCancel => exact readPTY_sends data err viaCancel
  | ptyResult => refine .keep ?_; unfold ptyResult; split <;> rfl
  | processExit code => refine .keep ?_; unfold processExit; split <;> rfl
  | inputTake => refine .keep ?_; unfold inputTake; split <;> rfl
  | inputWritten count ok => exact inputWritten_sends count ok
  | inputCancel => refine .keep ?_; unfold inputCancel; split <;> rfl
  | aggregate branch => exact aggregateStep_sends branch
  | write ok => exact writeStep_sends ok
  | stopSession => exact .keep stopSession_outbound
  | stopProcess => exact .keep stopProcess_outbound
  | codex i e => exact codexStep_sends i e

end Bootmux.Companion
