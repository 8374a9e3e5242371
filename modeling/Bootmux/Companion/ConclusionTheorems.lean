/-
Bootmux.Companion.ConclusionTheorems — the last message of a Codex prompt.

A prompt that `startCodex` takes is answered once: by `codex_exit` or
`codex_error` at the end of `waitCodex`, or by `codex_start_failed`. A
full queue loses the answer in three ways. It refuses the message itself;
and it refuses an output, which stops the run with the reason `session`,
for which `waitCodex` sends nothing although the session goes on.
`prompt_concluded` is about the runs for which none of this happens.

The invariant (`Concluded`) counts the answers of one run: none before it is
created, and from then on as many as its position and that of `run` say
(`Conclusion`). A run that is `Loud` has not been given a reason for which
`waitCodex` sends nothing, and none of its goroutines is about to record
one. Steps of `run` that are about other things are taken together
(`RunPc.Beside`).
-/
import Bootmux.Lib.Tagged
import Bootmux.Companion.CodexTheorems

namespace Bootmux.Companion

open Bootmux.Lib

/-! ## Conclusions -/

def isConclusion (m : ServerMessage) : Bool := m.type = .codexExit ∨ m.type = .codexError

def conclusionsOf (i : Nat) (sent : List (Nat × ServerMessage)) : List ServerMessage :=
  (part i sent).filter isConclusion

/-- The exits and errors enqueued for run `i`. -/
def conclusions (t : List Effect) (i : Nat) : List ServerMessage := conclusionsOf i (codexSent t)

/-- `startCodex` is about to report that run `i` did not start. -/
def RunPc.reporting (pc : RunPc) (i : Nat) : Bool := pc = .startFailed i ∨ pc = .reportStart i

/-- Run `i` is finished: `waitCodex` has returned, or there was no process
and `startCodex` has returned. -/
def CodexRun.over (pc : RunPc) (i : Nat) (r : CodexRun) : Bool :=
  r.wait = .done ∨ r.process = .failed ∧ pc.reporting i = false

/-- The step handles a `codex_new_session` that reaches run `i`. -/
def newSessionSent (cfg : Config) (i : Nat) (s : Session) : SessionEvent → Bool
  | .run =>
      match s.run with
      | .handle data => clientAction cfg data = .cancel [] ∧ s.codexRun = some i
      | _ => false
  | _ => false

/-- The queue has room for the conclusion of run `i`, and an output it
refused is not what stops the run. -/
def queueServes (cfg : Config) (i : Nat) (s : Session) : SessionEvent → Bool
  | .run => s.run ≠ .reportStart i ∨ s.accepts cfg = true
  | .codex j .copierStop =>
      j ≠ i ∨ (s.runs[i]?).all fun r => r.copier ≠ .setReason .session ∨ r.reason.isSome
  | .codex j (.wait _) =>
      j ≠ i ∨ (s.runs[i]?).all fun r => r.wait ≠ .terminal ∨ s.accepts cfg = true
  | _ => true

/-! ## Reasons that end in a message -/

/-- The reasons for which `waitCodex` sends nothing. -/
def StopReason.silent : StopReason → Bool
  | .session | .newSession => true
  | _ => false

/-- No goroutine of the run records a silent reason, but for the copier
after a refused output. -/
structure CodexRun.Loud (r : CodexRun) : Prop where
  reason : ∀ {x : StopReason}, r.reason = some x → x.silent = false
  copier : ∀ {x : StopReason}, r.copier = .setReason x → x = .session ∨ x.silent = false
  watcher : ∀ {x : StopReason}, r.watcher = .setReason x → x.silent = false
  wait : ∀ {x : StopReason}, r.wait = .setReason x → x.silent = false

namespace CodexRun

variable {r : CodexRun}

/-- A new run has no reason to be silent. -/
theorem loud_new (requestID : Bytes) : (newCodexRun requestID).Loud := by
  constructor <;> simp [newCodexRun]

/-- The first reason counts. -/
theorem Loud.setReason (h : r.Loud) {x : StopReason}
    (hx : r.reason.isSome = true ∨ x.silent = false) : (r.setReason x).Loud := by
  refine ⟨fun {y} hy => ?_, h.copier, h.watcher, h.wait⟩
  rw [setReason_reason, Option.some.injEq] at hy
  cases hreason : r.reason with
  | none =>
      rw [hreason] at hy hx
      obtain rfl : x = y := hy
      exact hx.resolve_left (by simp)
  | some z =>
      rw [hreason] at hy
      obtain rfl : z = y := hy
      exact h.reason hreason

theorem Loud.stop (h : r.Loud) : r.stop.Loud := by
  unfold CodexRun.stop
  split
  · exact h
  · exact ⟨h.reason, h.copier, h.watcher, h.wait⟩

theorem Loud.copierMoves (h : r.Loud) {c : Copier}
    (hc : ∀ {x : StopReason}, c = .setReason x → x = .session ∨ x.silent = false) :
    ({ r with copier := c } : CodexRun).Loud :=
  ⟨h.reason, hc, h.watcher, h.wait⟩

theorem Loud.watcherMoves (h : r.Loud) {w : Watcher}
    (hw : ∀ {x : StopReason}, w = .setReason x → x.silent = false) :
    ({ r with watcher := w } : CodexRun).Loud :=
  ⟨h.reason, h.copier, hw, h.wait⟩

theorem Loud.waitMoves (h : r.Loud) {w : Wait}
    (hw : ∀ {x : StopReason}, w = .setReason x → x.silent = false) :
    ({ r with wait := w } : CodexRun).Loud :=
  ⟨h.reason, h.copier, h.watcher, hw⟩

/-- A full queue would silence the run. -/
theorem Loud.copierStop (h : r.Loud)
    (hserves : r.copier = .setReason .session → r.reason.isSome = true) : r.copierStop.Loud := by
  unfold CodexRun.copierStop
  split
  · rename_i x hc
    refine (h.setReason ?_).copierMoves (by simp)
    rcases h.copier hc with rfl | hx
    · exact .inl (hserves hc)
    · exact .inr hx
  · exact h.stop.copierMoves (by simp)
  · exact h

/-- The watcher gives a reason that is reported. -/
theorem Loud.watch (h : r.Loud) (viaStop : Bool) : (r.watch viaStop).Loud := by
  unfold CodexRun.watch
  split
  · split
    · split
      · exact h.watcherMoves (by simp)
      · exact h
    · split
      · exact h
      · exact h.watcherMoves (by simp [StopReason.silent])
      · exact h.watcherMoves (by simp [StopReason.silent])
  · rename_i x hw
    exact (h.setReason (.inr (h.watcher hw))).watcherMoves (by simp)
  · exact h.stop.watcherMoves (by simp)
  · exact h

theorem Loud.waitStep (h : r.Loud) (result : WaitResult) : (r.waitStep result).Loud := by
  unfold CodexRun.waitStep
  split
  · split
    · refine ⟨h.reason, h.copier, h.watcher, fun {x} hx => ?_⟩
      rw [Wait.setReason.injEq] at hx
      rw [← hx]
      split <;> rfl
    · exact h
  · rename_i x hw
    exact (h.setReason (.inr (h.wait hw))).waitMoves (by simp)
  · exact ⟨h.reason, h.copier, h.watcher, by simp⟩
  · exact ⟨h.reason, h.copier, h.watcher, by simp⟩
  · split
    · exact h.waitMoves (by simp)
    · exact h
  · refine h.waitMoves fun {x} hx => ?_
    split at hx <;> cases hx
  · split
    · exact h.waitMoves (by simp)
    · exact h
  · exact h

/-- One event of the run. -/
theorem Loud.inner (h : r.Loud) (e : CodexEvent)
    (hserves : e = .copierStop → r.copier = .setReason .session → r.reason.isSome = true) :
    (r.inner e).Loud := by
  cases e with
  | write data => exact h
  | eof =>
      simp only [CodexRun.inner, CodexRun.eof]
      split
      · exact h.copierMoves (by simp)
      · exact h
  | copierStop => exact h.copierStop (hserves rfl)
  | deadline => exact ⟨h.reason, h.copier, h.watcher, h.wait⟩
  | exit =>
      simp only [CodexRun.inner, CodexRun.exit]
      split
      · exact ⟨h.reason, h.copier, h.watcher, h.wait⟩
      · exact h
  | kill =>
      simp only [CodexRun.inner, CodexRun.kill]
      split
      · exact ⟨h.reason, h.copier, h.watcher, h.wait⟩
      · exact h
  | watch viaStop => exact h.watch viaStop
  | wait result => exact h.waitStep result

/-- A run with a reason that is not silent ends in a message. -/
theorem Loud.terminalMessage (h : r.Loud) (hreason : r.reason.isSome = true) (sessionID : Bytes) :
    r.terminalMessage sessionID ≠ none := by
  obtain ⟨x, hx⟩ := Option.isSome_iff_exists.mp hreason
  have hloud := h.reason hx
  have hstop : r.stopReason = some x := by simp [stopReason, hx]
  unfold CodexRun.terminalMessage
  rw [hstop]
  cases x with
  | session | newSession => cases hloud
  | success => cases r.result <;> simp
  | _ => simp

/-- A change after which the run is finished if it was. -/
structure Same (r r' : CodexRun) : Prop where
  requestID : r'.requestID = r.requestID
  done : r'.wait = .done ↔ r.wait = .done
  failed : r'.process = .failed ↔ r.process = .failed

theorem Same.refl (r : CodexRun) : r.Same r := ⟨rfl, Iff.rfl, Iff.rfl⟩

theorem same_stop : r.Same r.stop := by
  unfold CodexRun.stop
  split <;> exact ⟨rfl, Iff.rfl, Iff.rfl⟩

/-- The waiter does not come to its end by itself. -/
theorem done_of_waitStep {result : WaitResult} (h : (r.waitStep result).wait = .done) :
    r.wait = .done := by
  unfold CodexRun.waitStep at h
  split at h
  · split at h
    · cases h
    · exact h
  · cases h
  · cases h
  · cases h
  · split at h
    · cases h
    · exact h
  · simp only at h
    split at h <;> cases h
  · split at h
    · cases h
    · exact h
  · exact h

/-- An event of the run concludes nothing. -/
theorem same_inner (e : CodexEvent) : r.Same (r.inner e) := by
  have hgo := goesOn_inner (r := r) e
  refine ⟨(r.after_inner e).requestID, ⟨fun hdone => ?_, hgo.done⟩, ?_⟩
  · cases e with
    | wait result => exact done_of_waitStep hdone
    | write data => exact hdone
    | deadline => exact hdone
    | eof => simp only [CodexRun.inner, CodexRun.eof] at hdone; split at hdone <;> exact hdone
    | exit => simp only [CodexRun.inner, CodexRun.exit] at hdone; split at hdone <;> exact hdone
    | kill => simp only [CodexRun.inner, CodexRun.kill] at hdone; split at hdone <;> exact hdone
    | copierStop =>
        simp only [CodexRun.inner, CodexRun.copierStop] at hdone
        split at hdone
        · exact hdone
        · exact r.stop_wait ▸ hdone
        · exact hdone
    | watch viaStop =>
        simp only [CodexRun.inner, CodexRun.watch] at hdone
        split at hdone
        · split at hdone
          · split at hdone <;> exact hdone
          · split at hdone <;> exact hdone
        · exact hdone
        · exact r.stop_wait ▸ hdone
        · exact hdone
  · rcases hgo.process with hp | ⟨hp, hp'⟩
    · rw [hp]
    · rw [hp, hp']
      simp

end CodexRun

/-! ## The invariant -/

/-- Run `i` has no conclusion until it is finished, and one from then on. -/
structure Conclusion (pc : RunPc) (i : Nat) (r : CodexRun) (ms : List ServerMessage) : Prop where
  loud : r.Loud
  cancel : ∀ {x : StopReason}, pc = .cancelReason i x → x.silent = false
  pending : r.over pc i = false → ms = []
  concluded : r.over pc i = true → ∃ m, ms = [m] ∧ m.requestID = r.requestID

/-- `run` moves to a place that is the same for run `i`. -/
structure RunPc.Beside (i : Nat) (pc next : RunPc) : Prop where
  reporting : next.reporting i = pc.reporting i
  cancel : ∀ {x : StopReason}, next = .cancelReason i x → pc = .cancelReason i x ∨ x.silent = false

theorem RunPc.Beside.refl (i : Nat) (pc : RunPc) : pc.Beside i pc := ⟨rfl, .inl⟩

theorem RunPc.not_reporting {pc : RunPc} (h : pc.onRun = none) (i : Nat) :
    pc.reporting i = false := by
  cases pc <;> first | rfl | cases h

theorem RunPc.Beside.of_onRun {i : Nat} {pc next : RunPc} (hfrom : pc.onRun = none)
    (hto : next.onRun = none) : pc.Beside i next :=
  ⟨by rw [RunPc.not_reporting hfrom, RunPc.not_reporting hto], fun hcancel => by
    rw [hcancel] at hto; cases hto⟩

theorem Conclusion.same {pc next : RunPc} {i : Nat} {r r' : CodexRun} {ms : List ServerMessage}
    (h : Conclusion pc i r ms) (hpc : pc.Beside i next) (hloud : r'.Loud) (hsame : r.Same r') :
    Conclusion next i r' ms := by
  have hover : r'.over next i = r.over pc i := by
    simp only [CodexRun.over, hsame.done, hsame.failed, hpc.reporting]
  refine ⟨hloud, fun hcancel => (hpc.cancel hcancel).elim h.cancel id, ?_, ?_⟩
  · rw [hover]
    exact h.pending
  · rw [hover, hsame.requestID]
    exact h.concluded

/-- The conclusions of two steps after one another. -/
theorem conclusionsOf_append (i : Nat) (l sent : List (Nat × ServerMessage)) :
    conclusionsOf i (l ++ sent) = conclusionsOf i l ++ conclusionsOf i sent := by
  simp [conclusionsOf, part_append]

/-- A message of another run concludes nothing here. -/
theorem conclusionsOf_other {i j : Nat} (h : i ≠ j) (m : ServerMessage) :
    conclusionsOf i [(j, m)] = [] := by
  simp [conclusionsOf, part_singleton_other h]

theorem conclusionsOf_none {m : ServerMessage} (h : isConclusion m = false) (i j : Nat) :
    conclusionsOf i [(j, m)] = [] := by
  by_cases hj : i = j
  · subst hj
    simp [conclusionsOf, h]
  · exact conclusionsOf_other hj m

theorem conclusionsOf_self {m : ServerMessage} (h : isConclusion m = true) (i : Nat) :
    conclusionsOf i [(i, m)] = [m] := by
  simp [conclusionsOf, h]

/-- The conclusions of run `i`, as far as it is. -/
structure Concluded (i : Nat) (v : CodexView) (ms : List ServerMessage) : Prop where
  new : v.runs.length ≤ i → ms = []
  run : ∀ {r : CodexRun}, v.runs[i]? = some r → Conclusion v.run i r ms

namespace Concluded

variable {cfg : Config} {i : Nat} {s : Session} {e : SessionEvent} {v : CodexView}
  {sent : List (Nat × ServerMessage)} {ms : List ServerMessage}

theorem silent (h : Concluded i s.codex ms) (hlen : s.runs.length ≤ v.runs.length)
    (hsent : conclusionsOf i sent = [])
    (hrun : ∀ {r : CodexRun}, v.runs[i]? = some r → Conclusion v.run i r ms) :
    Concluded i v (ms ++ conclusionsOf i sent) := by
  rw [hsent, List.append_nil]
  exact ⟨fun hle => h.new (Nat.le_trans hlen hle), hrun⟩

theorem of_run (h : Concluded i s.codex ms) (hruns : v.runs = s.runs)
    (hsent : conclusionsOf i sent = []) (hpc : s.run.Beside i v.run) :
    Concluded i v (ms ++ conclusionsOf i sent) := by
  refine h.silent (Nat.le_of_eq (by rw [hruns])) hsent fun {r} hr => ?_
  rw [hruns] at hr
  exact (h.run hr).same hpc (h.run hr).loud (.refl r)

/-- A change of one run without a message. -/
theorem of_modify (h : Concluded i s.codex ms) {j : Nat} {f : CodexRun → CodexRun}
    (hruns : v.runs = (s.codex.modify j f).runs) (hsent : conclusionsOf i sent = [])
    (hpc : s.run.Beside i v.run)
    (hf : ∀ {r : CodexRun}, s.runs[i]? = some r → j = i → r.Loud → (f r).Loud ∧ r.Same (f r)) :
    Concluded i v (ms ++ conclusionsOf i sent) := by
  refine h.silent (by rw [hruns]; exact Nat.le_of_eq (List.length_modify ..).symm) hsent
    fun {r} hr => ?_
  rw [hruns] at hr
  rcases CodexView.modify_cases hr with ⟨rfl, r₀, hr₀, rfl⟩ | ⟨-, hold⟩
  · obtain ⟨hloud, hsame⟩ := hf hr₀ rfl (h.run hr₀).loud
    exact (h.run hr₀).same hpc hloud hsame
  · exact (h.run hold).same hpc (h.run hold).loud (.refl r)

/-- The message that concludes run `i`. -/
theorem send (h : Concluded i s.codex ms) {r : CodexRun} (hr : s.runs[i]? = some r)
    (hpending : r.over s.run i = false) {m : ServerMessage} (hm : isConclusion m = true)
    (hid : m.requestID = r.requestID) {r' : CodexRun} (hr' : v.runs[i]? = some r')
    (hrequest : r'.requestID = r.requestID) (hloud : r'.Loud) (hover : r'.over v.run i = true)
    (hcancel : ∀ {x : StopReason}, v.run = .cancelReason i x → s.run = .cancelReason i x) :
    Concluded i v (ms ++ conclusionsOf i [(i, m)]) := by
  have hnil : ms = [] := (h.run hr).pending hpending
  rw [conclusionsOf_self hm, hnil, List.nil_append]
  refine ⟨fun hle => ?_, fun {r''} hr'' => ?_⟩
  · exact absurd (List.getElem?_eq_some_iff.mp hr').1 (Nat.not_lt_of_le hle)
  · obtain rfl := Option.some.inj (hr'.symm.trans hr'')
    refine ⟨hloud, fun hx => (h.run hr).cancel (hcancel hx), ?_, ?_⟩
    · rw [hover]
      intro hfalse
      cases hfalse
    · exact fun _ => ⟨m, rfl, hid.trans hrequest.symm⟩

/-- A new run has concluded nothing. -/
theorem of_create (h : Concluded i s.codex ms) {data requestID : Bytes}
    (hrun : s.run = .handle data) {stop : SessionStop} :
    Concluded i ⟨s.runs ++ [newCodexRun requestID], some s.runs.length, true,
      .start s.runs.length, stop⟩ (ms ++ conclusionsOf i []) := by
  refine h.silent (by simp) rfl fun {r} hr => ?_
  rcases Nat.lt_or_ge i s.runs.length with hlt | hge
  · rw [List.getElem?_append_left hlt] at hr
    refine (h.run hr).same ⟨?_, by simp⟩ (h.run hr).loud (.refl r)
    show (RunPc.start _).reporting i = s.run.reporting i
    rw [hrun]
    rfl
  · have hnil : ms = [] := h.new hge
    rw [List.getElem?_append_right hge] at hr
    have hnew := List.mem_singleton.mp (List.mem_of_getElem? hr)
    rw [hnew]
    exact ⟨CodexRun.loud_new requestID, by simp, fun _ => hnil,
      by simp [CodexRun.over, newCodexRun]⟩

/-- A process that cannot start is reported. -/
theorem of_startFails (hwf : CodexWf s.codex) (h : Concluded i s.codex ms) {j : Nat}
    (hrun : s.run = .start j) :
    Concluded i { s.codex.modify j fun r => { r with process := .failed } with
      run := .startFailed j } (ms ++ conclusionsOf i []) := by
  refine h.silent (Nat.le_of_eq (List.length_modify ..).symm) rfl fun {r} hr => ?_
  rcases CodexView.modify_cases hr with ⟨rfl, r₀, hr₀, rfl⟩ | ⟨hj, hold⟩
  · have hp : r₀.process = .notStarted := (hwf.phase hr₀).start.mpr hrun
    have hconclusion := h.run hr₀
    have hloud : ({ r₀ with process := .failed } : CodexRun).Loud :=
      ⟨hconclusion.loud.reason, hconclusion.loud.copier, hconclusion.loud.watcher,
        hconclusion.loud.wait⟩
    have hover : ({ r₀ with process := .failed } : CodexRun).over (.startFailed i) i =
        r₀.over s.run i := by
      simp [CodexRun.over, RunPc.reporting, hp]
    refine ⟨hloud, by simp, ?_, ?_⟩
    · rw [show (_ : CodexRun).over _ i = _ from hover]
      exact hconclusion.pending
    · rw [show (_ : CodexRun).over _ i = _ from hover]
      exact hconclusion.concluded
  · refine (h.run hold).same ⟨?_, by simp⟩ (h.run hold).loud (.refl r)
    show (RunPc.startFailed j).reporting i = s.run.reporting i
    rw [hrun]
    simp [RunPc.reporting, Ne.symm hj]

/-- The report is the conclusion of its run. -/
theorem of_report (hwf : CodexWf s.codex) (h : Concluded i s.codex ms) {j : Nat}
    (hrun : s.run = .reportStart j) :
    Concluded i { s.codex with run := .select }
      (ms ++ conclusionsOf i
        [(j, (codexErrorMessage cfg (s.requestID j) .codexStartFailed).message)]) := by
  by_cases hj : i = j
  · subst hj
    have hi : i < s.runs.length := hwf.onRun (show s.run.onRun = some i by rw [hrun]; rfl)
    obtain ⟨r, hr⟩ : ∃ r, s.runs[i]? = some r := ⟨_, List.getElem?_eq_getElem hi⟩
    have hfailed : r.process = .failed := (hwf.phase hr).failed (.inr hrun)
    have hoff : r.wait = .off := CodexWf.off_of_no_process (hwf.run hr)
      (by simp [CodexRun.hasProcess, hfailed])
    refine h.send hr ?_ rfl (by simp [Session.requestID, hr, codexErrorMessage]) hr rfl
      (h.run hr).loud ?_ (by simp)
    · rw [hrun]
      simp [CodexRun.over, RunPc.reporting, hoff]
    · show r.over .select i = true
      simp [CodexRun.over, RunPc.reporting, hfailed]
  · refine h.of_run rfl (conclusionsOf_other hj _) ⟨?_, by simp⟩
    show RunPc.select.reporting i = s.run.reporting i
    rw [hrun]
    simp [RunPc.reporting, Ne.symm hj]

/-- The last message is the conclusion. -/
theorem of_conclude (hwf : CodexWf s.codex) (h : Concluded i s.codex ms) {j : Nat} {r : CodexRun}
    {m : ServerMessage} (hr : s.runs[j]? = some r) (hwait : r.wait = .terminal)
    (hm : r.terminalMessage cfg.sessionID = some m) :
    Concluded i (s.codex.modify j fun r => { r with wait := .done })
      (ms ++ conclusionsOf i [(j, m)]) := by
  by_cases hj : i = j
  · subst hj
    have hprocess := (hwf.run hr).waiting (by rw [hwait]; decide)
    have hconcludes := terminalMessage_concludes hm
    have htype : isConclusion m = true := by
      rcases hconcludes.type with h | ⟨h, -⟩ <;> simp [isConclusion, h]
    refine h.send hr ?_ htype hconcludes.requestID (CodexView.modify_self hr _) rfl
      ((h.run hr).loud.waitMoves (by simp)) ?_ fun hx => hx
    · have hnot : r.process ≠ .failed := fun hp => by simp [CodexRun.hasProcess, hp] at hprocess
      simp [CodexRun.over, hwait, hnot]
    · simp [CodexRun.over]
  · exact h.of_modify rfl (conclusionsOf_other hj _) (.refl i _) fun _ heq => absurd heq.symm hj

/-- A run that is served has a message, and the queue takes it. -/
theorem of_concludeSilent (hwf : CodexWf s.codex) (h : Concluded i s.codex ms) {j : Nat}
    {r : CodexRun} {result : WaitResult} (hr : s.runs[j]? = some r) (hwait : r.wait = .terminal)
    (hm : r.terminalMessage cfg.sessionID = none ∨ s.accepts cfg = false)
    (hserves : queueServes cfg i s (.codex j (.wait result)) = true) :
    Concluded i (s.codex.modify j fun r => { r with wait := .done })
      (ms ++ conclusionsOf i []) := by
  by_cases hj : i = j
  · subst hj
    have hreason := (hwf.run hr).reason (by rw [hwait]; decide)
    have haccepts : s.accepts cfg = true := by
      simpa [queueServes, hr, hwait] using hserves
    rcases hm with hnone | hrefused
    · exact absurd hnone ((h.run hr).loud.terminalMessage hreason cfg.sessionID)
    · exact absurd (haccepts.symm.trans hrefused) (by decide)
  · exact h.of_modify rfl rfl (.refl i _) fun _ heq => absurd heq.symm hj

/-- **One step**, if the queue serves it. -/
theorem step (hwf : CodexWf s.codex) (h : Concluded i s.codex ms)
    (hnew : newSessionSent cfg i s e = false) (hserves : queueServes cfg i s e = true)
    (hidle : s.sessionStop = .idle) (hstep : CodexStep cfg s e v sent) :
    Concluded i v (ms ++ conclusionsOf i sent) := by
  cases hstep with
  | keep => exact h.of_run rfl rfl (.refl i _)
  | goOn hfrom hto _ => exact h.of_run rfl rfl (.of_onRun hfrom hto)
  | create hrun _ _ => exact h.of_create hrun
  | @cancel data requestID j hrun haction hcurrent =>
      refine h.of_run rfl rfl ⟨?_, fun {x} hx => .inr ?_⟩
      · show (RunPc.cancelReason _ _).reporting i = s.run.reporting i
        rw [hrun]
        rfl
      · obtain ⟨rfl, rfl⟩ := (RunPc.cancelReason.injEq ..).mp hx
        -- without a request it would be `codex_new_session`
        have hrequest : requestID ≠ [] := by
          rintro rfl
          simp [newSessionSent, hrun, haction, hcurrent] at hnew
        simp [cancelReason, hrequest, StopReason.silent]
  | start hrun _ =>
      refine h.of_modify rfl rfl ⟨?_, by simp⟩ fun hr hj hloud => ?_
      · show (RunPc.announce _).reporting i = s.run.reporting i
        rw [hrun]
        rfl
      · subst hj
        have hp := (hwf.phase hr).start.mpr hrun
        exact ⟨⟨hloud.reason, by simp, hloud.watcher, hloud.wait⟩, rfl, Iff.rfl, by simp [hp]⟩
  | startFails hrun => exact h.of_startFails hwf hrun
  | drop hrun =>
      refine h.of_modify (f := .cancel) (by rw [CodexView.clear_runs]) rfl ⟨?_, by simp⟩
        fun _ _ hloud =>
          ⟨⟨hloud.reason, hloud.copier, hloud.watcher, hloud.wait⟩, rfl, Iff.rfl, Iff.rfl⟩
      show (RunPc.reportStart _).reporting i = s.run.reporting i
      rw [hrun]
      simp [RunPc.reporting]
  | report hrun _ => exact h.of_report hwf hrun
  | @reportRefused j hrun haccepts =>
      have hj : j ≠ i := by simpa [queueServes, hrun, haccepts] using hserves
      refine h.of_run rfl rfl ⟨?_, by simp⟩
      show RunPc.select.reporting i = s.run.reporting i
      rw [hrun]
      simp [RunPc.reporting, hj]
  | announce hrun _ =>
      refine h.of_run rfl (conclusionsOf_none rfl i _) ⟨?_, by simp⟩
      show (RunPc.spawn _).reporting i = s.run.reporting i
      rw [hrun]
      rfl
  | announceRefused hrun _ =>
      refine h.of_run rfl rfl ⟨?_, by simp⟩
      show (RunPc.spawn _).reporting i = s.run.reporting i
      rw [hrun]
      rfl
  | spawn hrun =>
      refine h.of_modify rfl rfl ⟨?_, by simp⟩ fun hr hj hloud => ?_
      · show RunPc.select.reporting i = s.run.reporting i
        rw [hrun]
        rfl
      · subst hj
        have hoff := ((hwf.phase hr).started.mpr (.inr hrun)).2
        exact ⟨⟨hloud.reason, hloud.copier, by simp, by simp⟩, rfl, by simp [hoff], Iff.rfl⟩
  | @cancelReason j reason hrun =>
      refine h.of_modify rfl rfl ⟨?_, by simp⟩ fun hr hj hloud => ?_
      · show (RunPc.cancelOnce _).reporting i = s.run.reporting i
        rw [hrun]
        rfl
      · subst hj
        exact ⟨hloud.setReason (.inr ((h.run hr).cancel hrun)), rfl, Iff.rfl, Iff.rfl⟩
  | cancelOnce hrun =>
      refine h.of_modify rfl rfl ⟨?_, by simp⟩ fun _ _ hloud => ⟨hloud.stop, CodexRun.same_stop⟩
      show RunPc.select.reporting i = s.run.reporting i
      rw [hrun]
      rfl
  | stopCalled _ => exact h.of_run rfl rfl (.refl i _)
  | stopNone _ _ => exact h.of_run rfl rfl (.refl i _)
  | stopCurrent _ _ => exact h.of_run rfl rfl (.refl i _)
  | stopReason hstop => rw [hidle] at hstop; cases hstop
  | stopOnce _ =>
      exact h.of_modify rfl rfl (.refl i _) fun _ _ hloud => ⟨hloud.stop, CodexRun.same_stop⟩
  | stopGoesOn _ => exact h.of_run rfl rfl (.refl i _)
  | output _ _ _ _ =>
      exact h.of_modify rfl (conclusionsOf_none rfl i _) (.refl i _) fun _ _ hloud =>
        ⟨⟨hloud.reason, hloud.copier, hloud.watcher, hloud.wait⟩, rfl, Iff.rfl, Iff.rfl⟩
  | outputRefused _ _ _ _ =>
      exact h.of_modify rfl rfl (.refl i _) fun _ _ hloud =>
        ⟨⟨hloud.reason, by simp, hloud.watcher, hloud.wait⟩, rfl, Iff.rfl, Iff.rfl⟩
  | overflow _ _ =>
      exact h.of_modify rfl rfl (.refl i _) fun _ _ hloud =>
        ⟨hloud.copierMoves (by simp [StopReason.silent]), rfl, Iff.rfl, Iff.rfl⟩
  | @inner j e =>
      refine h.of_modify rfl rfl (.refl i _) fun hr hj hloud =>
        ⟨hloud.inner e ?_, CodexRun.same_inner e⟩
      rintro rfl hcopier
      simpa [queueServes, hj, hr, hcopier] using hserves
  | @release j r result hr hwait =>
      refine h.of_modify (j := j) (f := fun r => { r with wait := .terminal })
        (by rw [CodexView.modify_clear, CodexView.clear_runs]) rfl ?_ fun hr' hj hloud => ?_
      · rw [show (CodexView.modify _ _ _).run = s.run from (s.codex.clear_run j)]
        exact .refl i _
      · subst hj
        obtain rfl := Option.some.inj (hr.symm.trans hr')
        exact ⟨hloud.waitMoves (by simp), rfl, by simp [hwait], Iff.rfl⟩
  | conclude hr hwait hm _ => exact h.of_conclude hwf hr hwait hm
  | concludeSilent hr hwait hm => exact h.of_concludeSilent hwf hr hwait hm hserves

end Concluded

/-! ## Whole runs -/

/-- A session that is open was open before. -/
theorem CodexStep.idle {cfg : Config} {s : Session} {e : SessionEvent} {v : CodexView}
    {sent : List (Nat × ServerMessage)} (h : CodexStep cfg s e v sent) (hidle : v.stop = .idle) :
    s.sessionStop = .idle := by
  cases h with
  | stopCalled _ | stopNone _ _ | stopCurrent _ _ | stopReason _ | stopOnce _ => cases hidle
  | stopGoesOn hstop => rcases hstop with ⟨-, rfl⟩ | ⟨-, rfl⟩ <;> cases hidle
  | drop _ => exact (CodexView.clear_stop _ _).symm.trans hidle
  | release _ _ => exact (CodexView.clear_stop _ _).symm.trans hidle
  | _ => exact hidle

/-- **While the session is open, a prompt whose run is finished has exactly
one conclusion, with its request, if the queue serves the run.** -/
theorem prompt_concluded (cfg : Config) (es : List SessionEvent) (i : Nat)
    (hes : (sessionMachine cfg).AllSteps (fun s e => newSessionSent cfg i s e = false ∧
      queueServes cfg i s e = true) newSession es)
    (hopen : ((sessionMachine cfg).run es).sessionStop = .idle) (r : CodexRun)
    (hr : ((sessionMachine cfg).run es).runs[i]? = some r)
    (hover : r.over ((sessionMachine cfg).run es).run i = true) :
    ∃ m, conclusions ((sessionMachine cfg).trace es) i = [m] ∧ m.requestID = r.requestID := by
  have hinit : CodexWf newSession.codex ∧
      (newSession.sessionStop = .idle → Concluded i newSession.codex (conclusions [] i)) :=
    ⟨codexWf_new, fun _ => ⟨fun _ => rfl, by simp [newSession, Session.codex]⟩⟩
  obtain ⟨-, hconcluded⟩ := (sessionMachine cfg).history_invariant
    (I := fun t s => CodexWf s.codex ∧
      (s.sessionStop = .idle → Concluded i s.codex (conclusions t i)))
    (P := fun s e => newSessionSent cfg i s e = false ∧ queueServes cfg i s e = true) hinit
    (fun t s e h hp => ⟨codexWf_step cfg h.1 e, fun hidle => by
      have hstep := sessionStep_codex cfg s e
      have hbefore : s.sessionStop = .idle := hstep.idle hidle
      rw [conclusions, codexSent_append, conclusionsOf_append]
      exact (h.2 hbefore).step h.1 hp.1 hp.2 hbefore hstep⟩) es hes
  exact ((hconcluded hopen).run hr).concluded hover

/-- The run of a process that exited. -/
def exitedRun : CodexRun :=
  { newCodexRun (ascii "r") with
    process := .exited, reason := some .success, ctx := some .canceled, total := 2,
    copier := .done, watcherStop := true, watcher := .done, wait := .done,
    result := .ok (.status 0) }

/-- It is concluded. -/
theorem prompt_concluded_exit :
    ((sessionMachine promptConfig).run exitEvents).runs[0]? = some exitedRun ∧
      ∃ m, conclusions ((sessionMachine promptConfig).trace exitEvents) 0 = [m] ∧
        m.requestID = exitedRun.requestID :=
  ⟨by decide +kernel, prompt_concluded promptConfig exitEvents 0 (by decide +kernel)
    (by decide +kernel) exitedRun (by decide +kernel) (by decide +kernel)⟩

/-- Nine lines without a write to the socket; the last one is refused. -/
def flood : List SessionEvent := .replicate 9 (.codex 0 (.write [0x68, 0x0A]))

/-- The process is stopped and waited for. -/
def stopped : List SessionEvent :=
  [.codex 0 .copierStop, .codex 0 .copierStop, .codex 0 .exit, .codex 0 (.wait .failed),
    .codex 0 (.wait .failed), .codex 0 (.wait .failed), .codex 0 (.wait .failed),
    .codex 0 (.watch true), .codex 0 (.wait .failed), .codex 0 (.wait .failed), .codex 0 .kill,
    .write true, .codex 0 (.wait .failed), .codex 0 (.wait .failed), .codex 0 (.wait .failed)]

/-- A process that writes faster than the socket. There is room again when
it is over. -/
def floodEvents : List SessionEvent := promptEvents ++ flood ++ stopped

/-- It is never concluded. -/
theorem prompt_not_concluded :
    (sessionMachine promptConfig).AllSteps (newSessionSent promptConfig 0 · · = false) newSession
        floodEvents ∧
      ((sessionMachine promptConfig).run floodEvents).sessionStop = .idle ∧
      ¬ ∀ r, ((sessionMachine promptConfig).run floodEvents).runs[0]? = some r →
        r.over ((sessionMachine promptConfig).run floodEvents).run 0 = true →
        ∃ m, conclusions ((sessionMachine promptConfig).trace floodEvents) 0 = [m] ∧
          m.requestID = r.requestID := by
  refine ⟨by decide +kernel, by decide +kernel, fun h => ?_⟩
  obtain ⟨m, hm, -⟩ := h { newCodexRun (ascii "r") with
    process := .exited, reason := some .session, ctx := some .canceled, stopOnce := true,
    killDone := true, total := 18, copier := .done, watcherStop := true, watcher := .done,
    wait := .done } (by decide +kernel) (by decide +kernel)
  have hnone : conclusions ((sessionMachine promptConfig).trace floodEvents) 0 = [] := by
    decide +kernel
  rw [hnone] at hm
  cases hm

end Bootmux.Companion
