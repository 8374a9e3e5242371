/-
Bootmux.Companion.TeardownTheorems — which Codex runs are stopped when a
session returns.

The body of `stop` reads the current run once and stops it. `run` handles
client messages until it leaves its loop, and a prompt it handles after
that read starts a run nobody stops. `teardown_reaches_runs` is about the
sessions in which this does not happen; `teardown_misses_run` is one in
which it does.

The invariant (`Supervised`) says of every run that its process is over,
that `stop` has been entered for it, or that it is the current run and the
session has not looked yet. The condition on a step is that no prompt starts
a run after that look; it is on the position of `stop` and on the message
that is handled.
-/
import Bootmux.Companion.CodexTheorems

namespace Bootmux.Companion

open Bootmux.Lib

/-- A prompt that starts a run is handled before the body of `stop` has
looked for the current run. -/
def promptInTime (cfg : Config) (s : Session) (e : SessionEvent) : Bool :=
  match e, s.run with
  | .run, .handle data =>
      match clientAction cfg data with
      | .prompt _ => s.codexActive || s.sessionStop = .idle || s.sessionStop = .entered
      | _ => true
  | _, _ => true

/-- The body of `stop` has not looked for the current run yet. -/
def SessionStop.before (stop : SessionStop) : Prop := stop = .idle ∨ stop = .entered

/-- A run is over, or stopped, or `stop` will find it. -/
structure Supervised (v : CodexView) : Prop where
  run : ∀ {i : Nat} {r : CodexRun}, v.runs[i]? = some r →
    r.process = .exited ∨ r.process = .failed ∨ StopEntered v i ∨
      v.current = some i ∧ v.stop.before
  ended : v.run.ended = true → v.stop = .done

namespace Supervised

variable {cfg : Config} {s : Session} {e : SessionEvent} {v : CodexView}
  {sent : List (Nat × ServerMessage)}

/-- `run` gets past its call of `stop` when the body of `stop` is done. -/
theorem ended_step (h : s.run.ended = true → s.sessionStop = .done)
    (hstep : CodexStep cfg s e v sent) : v.run.ended = true → v.stop = .done := by
  intro hended
  -- the steps of the body of `stop` are taken before it is done
  have hbusy : s.sessionStop ≠ .done → s.run.ended ≠ true := fun hne hold => hne (h hold)
  cases hstep with
  | goOn _ _ hgo => exact (hgo hended).elim h id
  | create _ _ _ | cancel _ _ _ | start _ _ | startFails _ | drop _ | report _ _
  | reportRefused _ _ | announce _ _ | announceRefused _ _ | spawn _ | cancelReason _
  | cancelOnce _ => cases hended
  | stopCalled hidle => exact absurd hended (hbusy (by rw [hidle]; decide))
  | stopNone hstop _ => exact absurd hended (hbusy (by rw [hstop]; decide))
  | stopCurrent hstop _ => exact absurd hended (hbusy (by rw [hstop]; decide))
  | stopReason hstop => exact absurd hended (hbusy (by rw [hstop]; simp))
  | stopOnce hstop => exact absurd hended (hbusy (by rw [hstop]; simp))
  | stopGoesOn hstop =>
      rcases hstop with ⟨hstop, -⟩ | ⟨-, rfl⟩
      · exact absurd hended (hbusy (by rw [hstop]; decide))
      · rfl
  | release _ _ =>
      simp only [CodexView.modify_run, CodexView.clear_run, CodexView.modify_stop,
        CodexView.clear_stop] at hended ⊢
      exact h hended
  | _ => exact h hended

/-- The current run stays the current one until it is over or `stop` has
found it. -/
theorem current_step (hwf : CodexWf s.codex) (hstep : CodexStep cfg s e v sent) {i : Nat}
    (hcurrent : s.codexRun = some i) (hbefore : s.sessionStop.before) :
    (v.current = some i ∧ v.stop.before) ∨ v.stop.onRun = some i ∨
      ∀ {r : CodexRun}, v.runs[i]? = some r → r.process = .exited ∨ r.process = .failed := by
  have hnot : ∀ {stop : SessionStop}, s.sessionStop = stop → stop ≠ .idle → stop ≠ .entered →
      False := by
    rintro stop rfl hidle hentered
    exact hbefore.elim hidle hentered
  cases hstep with
  | create _ _ hactive =>
      have := hwf.active
      rw [show s.codex.active = false from hactive, show s.codex.current = _ from hcurrent] at this
      cases this
  | drop hrun =>
      rename_i j
      by_cases hj : s.codexRun = some j
      · obtain rfl := Option.some.inj (hcurrent.symm.trans hj)
        refine .inr (.inr fun hr => .inr ?_)
        rw [CodexView.clear_runs] at hr
        rcases CodexView.modify_cases hr with ⟨-, r₀, hr₀, rfl⟩ | ⟨hne, -⟩
        · exact (hwf.phase hr₀).failed (.inl hrun)
        · exact absurd rfl hne
      · refine .inl ⟨?_, by
          simp only [CodexView.modify_stop, CodexView.clear_stop]
          exact hbefore⟩
        rw [CodexView.clear, if_neg (show ¬ (s.codex.modify j _).current = _ from hj)]
        exact hcurrent
  | release hr hwait =>
      rename_i j r result
      by_cases hj : s.codexRun = some j
      · obtain rfl := Option.some.inj (hcurrent.symm.trans hj)
        refine .inr (.inr fun hr' => .inl ?_)
        rw [CodexView.modify_clear, CodexView.clear_runs, CodexView.modify_self hr,
          Option.some.injEq] at hr'
        rw [← hr']
        exact ((hwf.run hr).exited (by rw [hwait]; decide)).1
      · refine .inl ⟨?_, by
          simp only [CodexView.modify_stop, CodexView.clear_stop]
          exact hbefore⟩
        rw [CodexView.clear, if_neg (show ¬ s.codex.current = _ from hj)]
        exact hcurrent
  | stopCalled _ => exact .inl ⟨hcurrent, .inr rfl⟩
  | stopNone _ hnone => rw [hcurrent] at hnone; cases hnone
  | stopCurrent _ hsome => exact .inr (.inl (hsome.symm.trans hcurrent))
  | stopReason hstop => exact (hnot hstop (by simp) (by simp)).elim
  | stopOnce hstop => exact (hnot hstop (by simp) (by simp)).elim
  | stopGoesOn hstop =>
      rcases hstop with ⟨hstop, -⟩ | ⟨hstop, -⟩ <;> exact (hnot hstop (by simp) (by simp)).elim
  | _ => exact .inl ⟨hcurrent, hbefore⟩

/-- **One step**, if its prompt came in time. -/
theorem step (hwf : CodexWf s.codex) (h : Supervised s.codex) (htime : promptInTime cfg s e = true)
    (hstep : CodexStep cfg s e v sent) : Supervised v := by
  refine ⟨fun {i r} hr => ?_, ended_step h.ended hstep⟩
  rcases hstep.origin hwf hr with ⟨r₀, hr₀, hafter⟩ |
    ⟨-, hcurrent, hstop, hactive, data, requestID, rfl, hrun, haction, -⟩
  · rcases h.run hr₀ with hexited | hfailed | hentered | ⟨hcurrent, hbefore⟩
    · exact .inl (hafter.exited hexited)
    · exact .inr (.inl (hafter.failed hfailed))
    · exact .inr (.inr (.inl (hentered.step hwf hstep)))
    · rcases current_step hwf hstep hcurrent hbefore with hkept | hfound | hover
      · exact .inr (.inr (.inr hkept))
      · exact .inr (.inr (.inl (.inr (.inl hfound))))
      · exact (hover hr).imp id .inl
  · refine .inr (.inr (.inr ⟨hcurrent, ?_⟩))
    simp only [promptInTime, hrun, haction, hactive, Bool.false_or, Bool.or_eq_true,
      decide_eq_true_eq] at htime
    rw [hstop]
    exact htime

end Supervised

/-- **When `run` returns, every Codex run of the session is over or was
stopped, if no prompt started one after `stop` had looked.** -/
theorem teardown_reaches_runs (cfg : Config) (es : List SessionEvent)
    (hes : (sessionMachine cfg).AllSteps (promptInTime cfg · · = true) newSession es)
    (hreturned : ((sessionMachine cfg).run es).run = .returned) (i : Nat) (r : CodexRun)
    (hr : ((sessionMachine cfg).run es).runs[i]? = some r) :
    r.process = .exited ∨ r.process = .failed ∨ r.stopping = true := by
  have hinit : CodexWf newSession.codex ∧ Supervised newSession.codex :=
    ⟨codexWf_new, by simp [newSession, Session.codex],
      by simp [newSession, Session.codex, RunPc.ended]⟩
  obtain ⟨-, hsup⟩ := (sessionMachine cfg).runFrom_invariant
    (I := fun s => CodexWf s.codex ∧ Supervised s.codex) (P := (promptInTime cfg · · = true))
    (fun s e h htime => ⟨codexWf_step cfg h.1 e, h.2.step h.1 htime (sessionStep_codex cfg s e)⟩)
    es newSession hinit hes
  have hstop := hsup.ended (by
    show ((sessionMachine cfg).run es).run.ended = true
    rw [hreturned]; rfl)
  have hpc : ((sessionMachine cfg).run es).codex.run = .returned := hreturned
  rcases hsup.run hr with hexited | hfailed | hentered | ⟨-, hbefore⟩
  · exact .inl hexited
  · exact .inr (.inl hfailed)
  · rcases hentered with hrun | honRun | hany
    · rw [show ((sessionMachine cfg).runFrom newSession es).codex.run = _ from hpc] at hrun
      cases hrun
    · rw [hstop] at honRun
      cases honRun
    · rw [show ((sessionMachine cfg).runFrom newSession es).codex.runs[i]? = _ from hr] at hany
      exact .inr (.inr hany)
  · rw [hstop] at hbefore
    exact absurd hbefore (by simp [SessionStop.before])

/-- A client that goes away while its prompt is running. -/
def hangupEvents : List SessionEvent :=
  promptEvents ++ [.clientRead .error, .clientSend false, .select false, .run, .stopSession,
    .stopSession, .stopSession, .stopSession, .stopProcess, .stopProcess, .stopSession,
    .stopSession, .run, .processExit .unknown, .readPTY [] (some .eof) false, .ptyResult,
    .inputCancel, .aggregate .process, .aggregate .reader, .aggregate .chunk, .aggregate .chunk,
    .aggregate .chunk, .write true, .aggregate .chunk, .run]

/-- Its run is stopped. -/
theorem teardown_reaches_hangup :
    (sessionMachine promptConfig).AllSteps (promptInTime promptConfig · · = true) newSession
        hangupEvents ∧
      ((sessionMachine promptConfig).run hangupEvents).run = .returned ∧
      ∀ r, ((sessionMachine promptConfig).run hangupEvents).runs[0]? = some r →
        r.process = .exited ∨ r.process = .failed ∨ r.stopping = true :=
  ⟨by decide +kernel, by decide +kernel,
    teardown_reaches_runs promptConfig hangupEvents (by decide +kernel) (by decide +kernel) 0⟩

/-- A prompt that waits in the queue while the writer, with `hello` written,
fails at a line of the terminal and stops the session. -/
def latePromptEvents : List SessionEvent :=
  [.run, .write true, .clientRead (.data [0x7B]), .clientSend false, .readPTY [0x0A] none false,
    .aggregate .chunk, .write false, .write false, .stopSession, .select false, .run,
    .startProcess true, .run, .run, .stopSession, .stopProcess, .stopProcess,
    .stopSession, .stopSession, .write false, .processExit .unknown, .readPTY [] (some .eof) false,
    .ptyResult, .inputCancel, .aggregate .process, .aggregate .reader, .aggregate .chunk,
    .aggregate .chunk, .aggregate .chunk, .aggregate .chunk, .select true, .run, .run]

/-- Its run outlives the session. -/
theorem teardown_misses_run :
    ((sessionMachine promptConfig).run latePromptEvents).run = .returned ∧
      ¬ ∀ (i : Nat) (r : CodexRun),
        ((sessionMachine promptConfig).run latePromptEvents).runs[i]? = some r →
        r.process = .exited ∨ r.process = .failed ∨ r.stopping = true := by
  refine ⟨by decide +kernel, fun h => ?_⟩
  have hrun := h 0 { newCodexRun (ascii "r") with
    process := .running, copier := .copying, watcher := .select, wait := .cmdWait }
    (by decide +kernel)
  exact absurd hrun (by decide)

end Bootmux.Companion
