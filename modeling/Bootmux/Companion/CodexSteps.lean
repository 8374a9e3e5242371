/-
Bootmux.Companion.CodexSteps — what a step of a session does to its Codex
runs.

`CodexView` is the part of a session the goroutines of the runs share
with `run` and with the body of `stop`. `CodexStep` lists every way a
step can change it, with the messages of the runs it enqueues;
`sessionStep_codex` says the list is complete. What is said about Codex
runs elsewhere is proved from it, and does not look at the steps of the
session again.

A step has at most one effect on the runs: it creates one, it moves one on,
it enters or ends `stop`, or it leaves them alone (`NoCodex`). The proof
goes once through all the goroutines of the session. An invariant of the
runs therefore has as many cases as `CodexStep` has constructors, and a
change of the session's steps changes this module only.
-/
import Bootmux.Companion.SessionTheorems

namespace Bootmux.Companion

open Bootmux.Lib

/-! ## The Codex part of a session -/

structure CodexView where
  runs : List CodexRun
  current : Option Nat
  active : Bool
  run : RunPc
  stop : SessionStop

/-- The Codex part of a session. -/
def Session.codex (s : Session) : CodexView where
  runs := s.runs
  current := s.codexRun
  active := s.codexActive
  run := s.run
  stop := s.sessionStop

/-- The run `run` is working on. -/
def RunPc.onRun : RunPc → Option Nat
  | .start i | .startFailed i | .reportStart i | .announce i | .spawn i | .cancelReason i _
  | .cancelOnce i => some i
  | _ => none

/-- The run the body of `stop` is stopping. -/
def SessionStop.onRun : SessionStop → Option Nat
  | .setReason i | .once i => some i
  | _ => none

/-- `run` is past its call of `stop`. -/
def RunPc.ended : RunPc → Bool
  | .await | .returned => true
  | _ => false

namespace CodexView

def modify (v : CodexView) (i : Nat) (f : CodexRun → CodexRun) : CodexView :=
  { v with runs := v.runs.modify i f }

/-- `clearCodexRun`. -/
def clear (v : CodexView) (i : Nat) : CodexView :=
  if v.current = some i then { v with active := false, current := none } else v

@[simp] theorem modify_run (v : CodexView) (i : Nat) (f : CodexRun → CodexRun) :
    (v.modify i f).run = v.run := rfl

@[simp] theorem modify_stop (v : CodexView) (i : Nat) (f : CodexRun → CodexRun) :
    (v.modify i f).stop = v.stop := rfl

@[simp] theorem modify_current (v : CodexView) (i : Nat) (f : CodexRun → CodexRun) :
    (v.modify i f).current = v.current := rfl

/-- A run that is changed. -/
theorem modify_self {v : CodexView} {i : Nat} {r : CodexRun} (hr : v.runs[i]? = some r)
    (f : CodexRun → CodexRun) : (v.modify i f).runs[i]? = some (f r) := by
  rw [modify, List.getElem?_modify_eq, hr]
  rfl

/-- The other runs stay. -/
theorem modify_other (v : CodexView) {i j : Nat} (hj : j ≠ i) (f : CodexRun → CodexRun) :
    (v.modify i f).runs[j]? = v.runs[j]? :=
  List.getElem?_modify_ne f v.runs (Ne.symm hj)

/-- The runs after a change of run `i`: the changed one and the others. -/
theorem modify_cases {v : CodexView} {i j : Nat} {f : CodexRun → CodexRun} {r : CodexRun}
    (hr : (v.modify i f).runs[j]? = some r) :
    (j = i ∧ ∃ r₀, v.runs[i]? = some r₀ ∧ r = f r₀) ∨ (j ≠ i ∧ v.runs[j]? = some r) := by
  by_cases hj : j = i
  · subst hj
    rw [modify, List.getElem?_modify_eq, Option.map_eq_map, Option.map_eq_some_iff] at hr
    obtain ⟨r₀, hr₀, rfl⟩ := hr
    exact .inl ⟨rfl, r₀, hr₀, rfl⟩
  · exact .inr ⟨hj, by rwa [modify_other v hj] at hr⟩

@[simp] theorem clear_runs (v : CodexView) (i : Nat) : (v.clear i).runs = v.runs := by
  unfold clear
  split <;> rfl

@[simp] theorem clear_run (v : CodexView) (i : Nat) : (v.clear i).run = v.run := by
  unfold clear
  split <;> rfl

@[simp] theorem clear_stop (v : CodexView) (i : Nat) : (v.clear i).stop = v.stop := by
  unfold clear
  split <;> rfl

/-- Changing a run and forgetting it do not meet. -/
theorem modify_clear (v : CodexView) (i : Nat) (f : CodexRun → CodexRun) :
    (v.clear i).modify i f = (v.modify i f).clear i := by
  unfold clear
  split
  · rename_i hc; exact (if_pos hc).symm
  · rename_i hc; exact (if_neg hc).symm

end CodexView

/-- The run and the text of a message a Codex run enqueues. -/
def Effect.codex : Effect → Option (Nat × ServerMessage)
  | .enqueued (.codex i) item => some (i, item.message)
  | _ => none

def codexSent (t : List Effect) : List (Nat × ServerMessage) := t.filterMap Effect.codex

/-- The messages of two steps after one another. -/
theorem codexSent_append (t u : List Effect) : codexSent (t ++ u) = codexSent t ++ codexSent u :=
  List.filterMap_append

theorem clearCodexRun_codex (s : Session) (i : Nat) :
    (s.clearCodexRun i).codex = s.codex.clear i := by
  unfold Session.clearCodexRun
  split
  · rename_i h; exact (if_pos h).symm
  · rename_i h; exact (if_neg h).symm

/-- The steps of a run's goroutines that concern the run alone. -/
def CodexRun.inner (e : CodexEvent) (r : CodexRun) : CodexRun :=
  match e with
  | .write _ => r
  | .eof => r.eof
  | .copierStop => r.copierStop
  | .deadline => r.deadline
  | .exit => r.exit
  | .kill => r.kill
  | .watch viaStop => r.watch viaStop
  | .wait result => r.waitStep result

/-! ## What a step can do -/

/-- The Codex part after a step, and the messages of runs it enqueues. -/
inductive CodexStep (cfg : Config) (s : Session) :
    SessionEvent → CodexView → List (Nat × ServerMessage) → Prop
  | keep {e : SessionEvent} : CodexStep cfg s e s.codex []
  | goOn {e : SessionEvent} {pc : RunPc} (hfrom : s.run.onRun = none) (hto : pc.onRun = none)
      (hended : pc.ended = true → s.run.ended = true ∨ s.sessionStop = .done) :
      CodexStep cfg s e { s.codex with run := pc } []
  | create {data requestID : Bytes} (hrun : s.run = .handle data)
      (haction : clientAction cfg data = .prompt requestID) (hactive : s.codexActive = false) :
      CodexStep cfg s .run
        ⟨s.runs ++ [newCodexRun requestID], some s.runs.length, true, .start s.runs.length,
          s.sessionStop⟩ []
  | cancel {data requestID : Bytes} {i : Nat} (hrun : s.run = .handle data)
      (haction : clientAction cfg data = .cancel requestID) (hcurrent : s.codexRun = some i) :
      CodexStep cfg s .run { s.codex with run := .cancelReason i (cancelReason requestID) } []
  | start {ok : Bool} {i : Nat} (hrun : s.run = .start i)
      (hctx : (s.runs[i]?).bind (·.ctx) = none) :
      CodexStep cfg s (.startProcess ok)
        { s.codex.modify i fun r => { r with process := .running, copier := .copying } with
          run := .announce i } []
  | startFails {ok : Bool} {i : Nat} (hrun : s.run = .start i) :
      CodexStep cfg s (.startProcess ok)
        { s.codex.modify i fun r => { r with process := .failed } with run := .startFailed i } []
  | drop {i : Nat} (hrun : s.run = .startFailed i) :
      CodexStep cfg s .run { (s.codex.modify i .cancel).clear i with run := .reportStart i } []
  | report {i : Nat} (hrun : s.run = .reportStart i) (haccepts : s.accepts cfg = true) :
      CodexStep cfg s .run { s.codex with run := .select }
        [(i, (codexErrorMessage cfg (s.requestID i) .codexStartFailed).message)]
  | reportRefused {i : Nat} (hrun : s.run = .reportStart i) (haccepts : s.accepts cfg = false) :
      CodexStep cfg s .run { s.codex with run := .select } []
  | announce {i : Nat} (hrun : s.run = .announce i) (haccepts : s.accepts cfg = true) :
      CodexStep cfg s .run { s.codex with run := .spawn i }
        [(i, (codexStartedMessage cfg (s.requestID i)).message)]
  | announceRefused {i : Nat} (hrun : s.run = .announce i) (haccepts : s.accepts cfg = false) :
      CodexStep cfg s .run { s.codex with run := .spawn i } []
  | spawn {i : Nat} (hrun : s.run = .spawn i) :
      CodexStep cfg s .run
        { s.codex.modify i fun r => { r with watcher := .select, wait := .cmdWait } with
          run := .select } []
  | cancelReason {i : Nat} {reason : StopReason} (hrun : s.run = .cancelReason i reason) :
      CodexStep cfg s .run
        { s.codex.modify i (·.setReason reason) with run := .cancelOnce i } []
  | cancelOnce {i : Nat} (hrun : s.run = .cancelOnce i) :
      CodexStep cfg s .run { s.codex.modify i .stop with run := .select } []
  | stopCalled {e : SessionEvent} (hidle : s.sessionStop = .idle) :
      CodexStep cfg s e { s.codex with stop := .entered } []
  | stopNone (hstop : s.sessionStop = .entered) (hcurrent : s.codexRun = none) :
      CodexStep cfg s .stopSession { s.codex with stop := .process } []
  | stopCurrent {i : Nat} (hstop : s.sessionStop = .entered) (hcurrent : s.codexRun = some i) :
      CodexStep cfg s .stopSession { s.codex with stop := .setReason i } []
  | stopReason {i : Nat} (hstop : s.sessionStop = .setReason i) :
      CodexStep cfg s .stopSession
        { s.codex.modify i (·.setReason .session) with stop := .once i } []
  | stopOnce {i : Nat} (hstop : s.sessionStop = .once i) :
      CodexStep cfg s .stopSession { s.codex.modify i .stop with stop := .process } []
  | stopGoesOn {next : SessionStop}
      (hstop : s.sessionStop = .process ∧ next = .conn ∨ s.sessionStop = .conn ∧ next = .done) :
      CodexStep cfg s .stopSession { s.codex with stop := next } []
  | output {i : Nat} {r : CodexRun} {data text : Bytes} (hr : s.runs[i]? = some r)
      (hcopier : r.copier = .copying) (htext : codexWrite r.total data = .text text)
      (haccepts : s.accepts cfg = true) :
      CodexStep cfg s (.codex i (.write data))
        (s.codex.modify i fun r => { r with total := r.total + data.length })
        [(i, codexOutput cfg.sessionID r.requestID text)]
  | outputRefused {i : Nat} {r : CodexRun} {data text : Bytes} (hr : s.runs[i]? = some r)
      (hcopier : r.copier = .copying) (htext : codexWrite r.total data = .text text)
      (haccepts : s.accepts cfg = false) :
      CodexStep cfg s (.codex i (.write data))
        (s.codex.modify i fun r =>
          { r with total := r.total + data.length, copier := .setReason .session }) []
  | overflow {i : Nat} {r : CodexRun} {data : Bytes} (hr : s.runs[i]? = some r)
      (hcopier : r.copier = .copying) :
      CodexStep cfg s (.codex i (.write data))
        (s.codex.modify i fun r => { r with copier := .setReason .overflow }) []
  | inner {i : Nat} {e : CodexEvent} : CodexStep cfg s (.codex i e) (s.codex.modify i (.inner e)) []
  | release {i : Nat} {r : CodexRun} {result : WaitResult} (hr : s.runs[i]? = some r)
      (hwait : r.wait = .clear) :
      CodexStep cfg s (.codex i (.wait result))
        ((s.codex.clear i).modify i fun r => { r with wait := .terminal }) []
  | conclude {i : Nat} {r : CodexRun} {result : WaitResult} {m : ServerMessage}
      (hr : s.runs[i]? = some r) (hwait : r.wait = .terminal)
      (hm : r.terminalMessage cfg.sessionID = some m) (haccepts : s.accepts cfg = true) :
      CodexStep cfg s (.codex i (.wait result))
        (s.codex.modify i fun r => { r with wait := .done }) [(i, m)]
  | concludeSilent {i : Nat} {r : CodexRun} {result : WaitResult} (hr : s.runs[i]? = some r)
      (hwait : r.wait = .terminal)
      (hm : r.terminalMessage cfg.sessionID = none ∨ s.accepts cfg = false) :
      CodexStep cfg s (.codex i (.wait result))
        (s.codex.modify i fun r => { r with wait := .done }) []

section Steps

variable {cfg : Config} {s : Session} {e : SessionEvent}

/-- The view and the messages of a result. -/
def CodexStep.Of (cfg : Config) (s : Session) (e : SessionEvent)
    (r : Session × List Effect) : Prop :=
  CodexStep cfg s e r.1.codex (codexSent r.2)

/-- `run` goes on without a run in its hands. -/
theorem CodexStep.moveOn {pc : RunPc} (hfrom : s.run.onRun = none) (hto : pc.onRun = none)
    (hended : pc.ended = false) : CodexStep cfg s e { s.codex with run := pc } [] :=
  .goOn hfrom hto (by simp [hended])

/-- A message that is not from a run. -/
theorem CodexStep.of_enqueue {item : OutboundMessage} {ok refused : Session → Session}
    (hok : ∀ queue, CodexStep cfg s e (ok { s with outbound := queue }).codex [])
    (hrefused : CodexStep cfg s e (refused s).codex []) :
    Of cfg s e (s.enqueue cfg .session item ok refused) :=
  enqueue_rule (fun _ => hok _) (fun _ => hrefused)

/-- A call of `stop` waits for its body to be done. -/
theorem CodexStep.of_callStop {next : Session → Session}
    (hnext : s.sessionStop = .done → CodexStep cfg s e (next s).codex []) :
    CodexStep cfg s e (s.callStop next).codex [] :=
  callStop_rule (P := fun s' => CodexStep cfg s e s'.codex []) (fun h => .stopCalled h) hnext .keep

theorem terminateWithError_codex (hrun : s.run.onRun = none) (code : Code) :
    CodexStep.Of cfg s e (terminateWithError cfg s code) :=
  .of_enqueue (fun _ => .moveOn hrun rfl rfl)
    (.moveOn hrun rfl rfl)

theorem handleClientMessage_codex {data : Bytes} (hrun : s.run = .handle data) :
    CodexStep.Of cfg s .run (handleClientMessage cfg s data) := by
  have hfrom : s.run.onRun = none := by rw [hrun]; rfl
  unfold handleClientMessage
  split
  · exact terminateWithError_codex hfrom _
  · exact .of_enqueue (fun _ => .moveOn hfrom rfl rfl)
      (.moveOn hfrom rfl rfl)
  · rename_i requestID haction
    unfold createRun
    split
    · exact .moveOn hfrom rfl rfl
    · rename_i hactive
      exact .create hrun haction (by simpa using hactive)
  · rename_i requestID haction
    split
    · exact .moveOn hfrom rfl rfl
    · rename_i i hcurrent
      exact .cancel hrun haction hcurrent
  · exact .moveOn hfrom rfl rfl
  · split <;> exact .moveOn hfrom rfl rfl

theorem runStep_codex : CodexStep.Of cfg s .run (runStep cfg s) := by
  cases hrun : s.run with
  | hello =>
      have hfrom : s.run.onRun = none := by rw [hrun]; rfl
      simp only [runStep, hrun]
      exact .of_enqueue (fun _ => .moveOn hfrom rfl rfl)
        (.moveOn hfrom rfl rfl)
  | helloStop =>
      have hfrom : s.run.onRun = none := by rw [hrun]; rfl
      simp only [runStep, hrun]
      exact .of_callStop fun _ => .moveOn hfrom rfl rfl
  | handle data => simp only [runStep, hrun]; exact handleClientMessage_codex hrun
  | rejected =>
      have hfrom : s.run.onRun = none := by rw [hrun]; rfl
      simp only [runStep, hrun]
      exact callStopProcess_rule (P := fun s' => CodexStep cfg s .run s'.codex []) (fun _ => .keep)
        (fun _ => .moveOn hfrom rfl rfl) .keep
  | terminate code =>
      simp only [runStep, hrun]
      exact terminateWithError_codex (by rw [hrun]; rfl) code
  | busy requestID =>
      have hfrom : s.run.onRun = none := by rw [hrun]; rfl
      simp only [runStep, hrun]
      exact .of_enqueue (fun _ => .moveOn hfrom rfl rfl)
        (.moveOn hfrom rfl rfl)
  | startFailed i =>
      simp only [runStep, hrun]
      have hclear := clearCodexRun_codex (s.modifyRun i .cancel) i
      have hview : (((s.modifyRun i .cancel).clearCodexRun i).setRun (.reportStart i)).codex =
          { (s.codex.modify i .cancel).clear i with run := .reportStart i } := by
        show { ((s.modifyRun i .cancel).clearCodexRun i).codex with run := .reportStart i } = _
        rw [hclear]
        rfl
      unfold CodexStep.Of
      rw [hview]
      exact .drop hrun
  | reportStart i =>
      simp only [runStep, hrun]
      exact enqueue_rule (P := CodexStep.Of cfg s .run) (fun h => .report hrun h)
        (fun h => .reportRefused hrun h)
  | announce i =>
      simp only [runStep, hrun]
      exact enqueue_rule (P := CodexStep.Of cfg s .run) (fun h => .announce hrun h)
        (fun h => .announceRefused hrun h)
  | spawn i => simp only [runStep, hrun]; exact .spawn hrun
  | cancelReason i reason => simp only [runStep, hrun]; exact .cancelReason hrun
  | cancelOnce i => simp only [runStep, hrun]; exact .cancelOnce hrun
  | ack =>
      simp only [runStep, hrun]
      exact .moveOn (by rw [hrun]; rfl) rfl rfl
  | stop =>
      have hfrom : s.run.onRun = none := by rw [hrun]; rfl
      simp only [runStep, hrun]
      exact .of_callStop fun hdone => .goOn hfrom rfl fun _ => .inr hdone
  | await =>
      have hfrom : s.run.onRun = none := by rw [hrun]; rfl
      simp only [runStep, hrun]
      split
      · exact .goOn hfrom rfl fun _ => .inl (by rw [hrun]; rfl)
      · exact .keep
  | select | start i | returned => simp only [runStep, hrun]; exact .keep

theorem selectStep_codex (viaFinished : Bool) :
    CodexStep cfg s e (selectStep s viaFinished).codex [] := by
  unfold selectStep
  split
  · rename_i hrun
    have hfrom : s.run.onRun = none := by rw [hrun]; rfl
    split
    · split
      · exact .moveOn hfrom rfl rfl
      · exact .keep
    · split
      · exact .keep
      · exact .moveOn hfrom rfl rfl
      · exact .moveOn hfrom rfl rfl
  · exact .keep

theorem startProcess_codex (ok : Bool) :
    CodexStep cfg s (.startProcess ok) (startProcess s ok).codex [] := by
  unfold startProcess
  split
  · rename_i i hrun
    split
    · rename_i h; exact .start hrun h.2
    · exact .startFails hrun
  · exact .keep

theorem stopSession_codex : CodexStep cfg s .stopSession (stopSession s).codex [] := by
  unfold stopSession
  split
  · exact .keep
  · exact .keep
  · rename_i hstop
    split
    · rename_i hcurrent; exact .stopNone hstop hcurrent
    · rename_i i hcurrent; exact .stopCurrent hstop hcurrent
  · rename_i hstop; exact .stopReason hstop
  · rename_i hstop; exact .stopOnce hstop
  · rename_i hstop
    exact callStopProcess_rule (P := fun s' => CodexStep cfg s .stopSession s'.codex [])
      (fun _ => .keep) (fun _ => .stopGoesOn (.inl ⟨hstop, rfl⟩)) .keep
  · rename_i hstop; exact .stopGoesOn (.inr ⟨hstop, rfl⟩)

theorem codexStep_codex (i : Nat) (e : CodexEvent) :
    CodexStep.Of cfg s (.codex i e) (codexStep cfg s i e) := by
  unfold codexStep
  split
  · exact .keep
  · rename_i r hr
    cases e with
    | write data =>
        simp only
        split
        · rename_i hcopier
          unfold codexWriteStep
          split
          · exact .keep
          · exact .overflow hr hcopier
          · rename_i text htext
            refine enqueue_rule (P := CodexStep.Of cfg s (.codex i (.write data)))
              (fun h => .output hr hcopier htext h) (fun h => ?_)
            have hview :
                ((s.modifyRun i fun r => { r with total := r.total + data.length }).modifyRun i
                  fun r => { r with copier := .setReason .session }).codex =
                s.codex.modify i fun r =>
                  { r with total := r.total + data.length, copier := .setReason .session } := by
              simp only [Session.modifyRun, Session.codex, CodexView.modify, List.modify_modify_eq]
              rfl
            unfold CodexStep.Of
            rw [hview]
            exact .outputRefused hr hcopier htext h
        · exact .keep
    | wait result =>
        simp only
        unfold waitCodexStep
        split
        · rename_i hwait
          have hstep : CodexStep cfg s (.codex i (.wait result)) _ [] := .release hr hwait
          rw [← clearCodexRun_codex] at hstep
          exact hstep
        · rename_i hwait
          split
          · rename_i hm; exact .concludeSilent hr hwait (.inl hm)
          · rename_i m hm
            exact enqueue_rule (P := CodexStep.Of cfg s (.codex i (.wait result)))
              (fun h => .conclude hr hwait hm h) (fun h => .concludeSilent hr hwait (.inr h))
        · exact .inner
    | _ => exact .inner

/-- A step that has nothing to do with the Codex runs. -/
structure NoCodex (s : Session) (r : Session × List Effect) : Prop where
  view : r.1.codex = s.codex
  sent : codexSent r.2 = []

theorem codex_of_outward {x : Effect} (h : x.outward = true) : x.codex = none := by
  cases x with
  | enqueued origin item =>
      cases origin with
      | codex run => cases h
      | _ => rfl
  | _ => rfl

/-- A step of the terminal has nothing to do with Codex. -/
theorem Outward.noCodex {r : Session × List Effect} (h : Outward s r) : NoCodex s r where
  view := show r.1.others.codex = s.others.codex from congrArg Session.codex h.others
  sent := List.filterMap_eq_nil_iff.mpr fun x hx => codex_of_outward (h.effects x hx)

theorem CodexStep.of_noCodex {r : Session × List Effect} (h : NoCodex s r) :
    CodexStep.Of cfg s e r := by
  unfold CodexStep.Of
  rw [h.view, h.sent]
  exact .keep

/-- **Every step of a session does one of these to its Codex runs.** -/
theorem sessionStep_codex (cfg : Config) (s : Session) (e : SessionEvent) :
    CodexStep cfg s e (sessionStep cfg s e).1.codex (codexSent (sessionStep cfg s e).2) := by
  cases e with
  | run => exact runStep_codex
  | select viaFinished => exact selectStep_codex viaFinished
  | startProcess ok => exact startProcess_codex ok
  | stopSession => exact stopSession_codex
  | codex i e => exact codexStep_codex i e
  | write ok =>
      simp only [sessionStep, writeStep]
      split
      · split
        · split <;> exact .keep
        · split <;> exact .keep
      · exact .of_callStop fun _ => .keep
      · exact .keep
  | aggregate branch => exact .of_noCodex (aggregateStep_outward branch).noCodex
  | readPTY data err viaCancel => exact .of_noCodex (readPTY_outward data err viaCancel).noCodex
  | clientRead event => simp only [sessionStep, clientRead]; split <;> exact .keep
  | clientSend viaCancel =>
      refine .of_noCodex ⟨?_, rfl⟩
      simp only [sessionStep, clientSend]
      repeat' split
      all_goals rfl
  | ptyResult => simp only [sessionStep, ptyResult]; split <;> exact .keep
  | processExit code => simp only [sessionStep, processExit]; split <;> exact .keep
  | inputTake => simp only [sessionStep, inputTake]; split <;> exact .keep
  | inputWritten count ok =>
      simp only [sessionStep, inputWritten]
      split
      · split <;> exact .keep
      · exact .keep
  | inputCancel => simp only [sessionStep, inputCancel]; split <;> exact .keep
  | stopProcess => simp only [sessionStep, stopProcess]; split <;> exact .keep

end Steps

/-! ## A session with a prompt -/

/-- The settings of a session whose client only ever sends one prompt. -/
def promptConfig : Config :=
  defaultConfig (newSessionID (.replicate 16 0)) fun _ =>
    some { version := 1, type := .codexPrompt, sessionID := newSessionID (.replicate 16 0),
           prompt := ascii "p", requestID := ascii "r" }

/-- The session up to the moment the prompt's process runs and nothing is
left to write. The client has read `hello`, and with it the session id,
before it sends its prompt. -/
def promptEvents : List SessionEvent :=
  [.run, .write true, .clientRead (.data [0x7B]), .clientSend false, .select false, .run,
    .startProcess true, .run, .run, .write true]

/-- The process writes a line and exits. -/
def exitSteps : List SessionEvent :=
  [.codex 0 (.write [0x68, 0x0A]), .codex 0 .exit, .codex 0 .eof,
    .codex 0 (.wait (.ok (.status 0))), .codex 0 (.wait .failed), .codex 0 (.wait .failed),
    .codex 0 (.wait .failed), .codex 0 (.watch true), .codex 0 (.wait .failed),
    .codex 0 (.wait .failed), .codex 0 (.wait .failed), .codex 0 (.wait .failed)]

def exitEvents : List SessionEvent := promptEvents ++ exitSteps

end Bootmux.Companion
