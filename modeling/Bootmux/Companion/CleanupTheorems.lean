/-
Bootmux.Companion.CleanupTheorems — when `waitCodex` waits for a kill that
nobody has ordered.

`waitCodex` waits for `killDone` whenever the reason of its run is not
"success", and `killDone` is closed by `run.stop`. Reasons are recorded
inside `stop`, with one exception: `waitCodex` itself records "timeout"
when `cmd.Wait` returns after the deadline, and leaves the call of `stop`
to the watcher. The watcher has two ready branches then, and the one of
`watcherStop` does not call it. `cleanup_not_blocked` is about the runs in
which it does not take that branch; `cleanup_blocked` is one in which it
does.

`Answered` is the invariant of one run: a reason that asks for a kill comes
from a `stop` that has been entered, or it is "timeout" and the watcher has
still to take its branch of the context. It is kept by the goroutines of the
run one after the other, and by the session, whose `stop` is the other one
to call it (`AllAnswered`).

That the wait ends is a statement about steps that can be taken, not about
time: from any state of a run there is a sequence of the run's own steps
(`ownStep`) after which `waitCodex` is through and the process is dead
(`Reaches`, `Killed`).
-/
import Bootmux.Companion.CodexTheorems

namespace Bootmux.Companion

open Bootmux.Lib

/-- The watcher leaves by `watcherStop` only if there is no timeout it has
to act on. -/
def watcherServes (s : Session) : SessionEvent → Bool
  | .codex i (.watch true) =>
      (s.runs[i]?).all fun r =>
        r.watcher ≠ .select ∨ r.watcherStop = false ∨ r.reason ≠ some .timeout ∨
          StopEntered s.codex i
  | _ => true

/-! ## The invariant -/

/-- Who records a reason has called `stop`, or leaves it to the watcher. -/
structure Answered (v : CodexView) (i : Nat) (r : CodexRun) : Prop where
  recorded : ∀ {reason : StopReason}, r.reason = some reason →
    reason = .success ∨ StopEntered v i ∨ reason = .timeout ∧ r.watcher = .select
  watched : r.watcher = .done → r.reason.isSome = true ∨ StopEntered v i
  waitReason : ∀ {reason : StopReason}, r.wait = .setReason reason →
    reason = .success ∨ reason = .timeout
  killReason : r.wait = .awaitKill → r.reason ≠ some .success

namespace Answered

variable {v w : CodexView} {i : Nat} {r r' : CodexRun}

/-- A step that leaves the reason, the watcher and `waitCodex` alone. -/
theorem kept (h : Answered v i r) (hentered : StopEntered v i → StopEntered w i)
    (hreason : r'.reason = r.reason) (hwatcher : r'.watcher = r.watcher)
    (hwait : r'.wait = r.wait) : Answered w i r' := by
  refine ⟨fun hr => ?_, fun hw => ?_, fun hw => ?_, fun hw => ?_⟩
  · rw [hreason] at hr
    rw [hwatcher]
    exact (h.recorded hr).imp id (Or.imp hentered id)
  · rw [hwatcher] at hw
    rw [hreason]
    exact (h.watched hw).imp id hentered
  · exact h.waitReason (hwait ▸ hw)
  · rw [hreason]
    exact h.killReason (hwait ▸ hw)

/-- A step of `waitCodex` that does not record a reason. -/
theorem waits (h : Answered v i r) (hentered : StopEntered v i → StopEntered w i)
    (hreason : r'.reason = r.reason) (hwatcher : r'.watcher = r.watcher)
    (hwait : ∀ {reason : StopReason}, r'.wait = .setReason reason →
      reason = .success ∨ reason = .timeout)
    (hkill : r'.wait = .awaitKill → r.reason ≠ some .success) : Answered w i r' := by
  have hkept : Answered w i { r with reason := r'.reason, watcher := r'.watcher } :=
    h.kept hentered hreason hwatcher rfl
  exact ⟨hkept.recorded, hkept.watched, hwait, fun hw => by rw [hreason]; exact hkill hw⟩

/-- After a call of `stop` only `waitCodex` matters. -/
theorem of_entered (h : Answered v i r) (hw : r.Wf) (hentered : StopEntered w i)
    (hreason : r'.reason = r.reason ∨ r.reason = none) (hwait : r'.wait = r.wait) :
    Answered w i r' := by
  refine ⟨fun _ => .inr (.inl hentered), fun _ => .inr hentered,
    fun hset => h.waitReason (hwait ▸ hset), fun hkill => ?_⟩
  rw [hwait] at hkill
  rcases hreason with hreason | hnone
  · rw [hreason]
    exact h.killReason hkill
  · have := hw.reason (by rw [hkill]; decide)
    rw [hnone] at this
    cases this

end Answered

/-- A reason that is set is not set again. -/
theorem CodexRun.setReason_eq (r : CodexRun) (reason : StopReason) :
    (r.setReason reason).reason = r.reason ∨ r.reason = none := by
  cases h : r.reason with
  | none => exact .inr rfl
  | some x => exact .inl (by simp [h])

/-! ## The goroutines of a run -/

section Inner

variable {v w : CodexView} {i : Nat} {r : CodexRun} (hwf : r.Wf) (h : Answered v i r)
  (hentered : StopEntered v i → StopEntered w i)

include hwf h hentered

/-- The copier calls `stop` when it has read an error. -/
theorem answered_copierStop (hcalled : r.copierStop.stopping = true → StopEntered w i) :
    Answered w i r.copierStop := by
  unfold CodexRun.copierStop at hcalled ⊢
  split
  · rename_i reason hc
    refine h.of_entered hwf (hcalled ?_) (r.setReason_eq reason) rfl
    simp [hc, CodexRun.stopping]
  · rename_i hc
    refine h.of_entered hwf (hcalled ?_) (.inl r.stop_reason) r.stop_wait
    simp [hc, CodexRun.stopping, CodexRun.stop_stopOnce]
  · exact h.kept hentered rfl rfl rfl

/-- The watcher leaves its `select` into `stop`, or it leaves no timeout
behind. -/
theorem answered_watch (viaStop : Bool)
    (hcalled : (r.watch viaStop).stopping = true → StopEntered w i)
    (hserves : viaStop = true → r.watcher = .select → r.watcherStop = true →
      r.reason = some .timeout → StopEntered v i) : Answered w i (r.watch viaStop) := by
  unfold CodexRun.watch at hcalled ⊢
  split
  · rename_i hw
    simp only [hw] at hcalled
    split
    · rename_i hvia
      split
      · rename_i hstop
        refine ⟨fun {reason} hreason => ?_, fun _ => .inl (hwf.watcherStop hstop), h.waitReason,
          h.killReason⟩
        rcases h.recorded hreason with hsuccess | hstopped | ⟨rfl, -⟩
        · exact .inl hsuccess
        · exact .inr (.inl (hentered hstopped))
        · exact .inr (.inl (hentered (hserves hvia hw hstop hreason)))
      · exact h.kept hentered rfl rfl rfl
    · rename_i hvia
      simp only [hvia] at hcalled
      split
      · exact h.kept hentered rfl rfl rfl
      · rename_i hctx
        refine h.of_entered hwf (hcalled ?_) (.inl rfl) rfl
        simp [hctx, CodexRun.stopping]
      · rename_i hctx
        refine h.of_entered hwf (hcalled ?_) (.inl rfl) rfl
        simp [hctx, CodexRun.stopping]
  · rename_i reason hw
    refine h.of_entered hwf (hcalled ?_) (r.setReason_eq reason) rfl
    simp [hw, CodexRun.stopping]
  · rename_i hw
    refine h.of_entered hwf (hcalled ?_) (.inl r.stop_reason) r.stop_wait
    simp [hw, CodexRun.stopping, CodexRun.stop_stopOnce]
  · exact h.kept hentered rfl rfl rfl

/-- `waitCodex` records "success", or a timeout while the watcher is still
there. -/
theorem answered_waitStep (hr : v.runs[i]? = some r) (result : WaitResult) :
    Answered w i (r.waitStep result) := by
  unfold CodexRun.waitStep
  split
  · rename_i hw
    split
    · refine h.waits hentered rfl rfl (fun {reason} hset => ?_) (by simp)
      simp only [Wait.setReason.injEq] at hset
      split at hset
      · exact .inr hset.symm
      · exact .inl hset.symm
    · exact h.kept hentered rfl rfl rfl
  · rename_i reason hw
    refine ⟨fun {reason'} hreason => ?_, fun _ => .inl rfl, by simp, by simp⟩
    cases hnone : r.reason with
    | some x =>
        have hx : x = reason' := by simpa [CodexRun.setReason, hnone] using hreason
        exact (h.recorded (hx ▸ hnone)).imp id (Or.imp hentered id)
    | none =>
        have hx : reason = reason' := by simpa [CodexRun.setReason, hnone] using hreason
        obtain rfl := hx
        rcases h.waitReason hw with hsuccess | htimeout
        · exact .inl hsuccess
        · cases hwatcher : r.watcher with
          | select => exact .inr (.inr ⟨htimeout, hwatcher⟩)
          | off =>
              have := hwf.watcher.mp hwatcher
              rw [hw] at this
              cases this
          | setReason x =>
              exact .inr (.inl (hentered (.of_run hr (by simp [CodexRun.stopping, hwatcher]))))
          | once =>
              exact .inr (.inl (hentered (.of_run hr (by simp [CodexRun.stopping, hwatcher]))))
          | done =>
              rcases h.watched hwatcher with hsome | hstopped
              · rw [hnone] at hsome
                cases hsome
              · exact .inr (.inl (hentered hstopped))
  · exact h.waits hentered rfl rfl (by simp) (by simp)
  · exact h.waits hentered rfl rfl (by simp) (by simp)
  · split
    · exact h.waits hentered rfl rfl (by simp) (by simp)
    · exact h.kept hentered rfl rfl rfl
  · rename_i hw
    refine h.waits hentered rfl rfl (fun hset => ?_) (fun hkill => ?_)
    · simp only at hset
      split at hset <;> cases hset
    · simp only at hkill
      split at hkill
      · rename_i hne
        intro hsuccess
        exact hne (by simp [CodexRun.stopReason, hsuccess])
      · cases hkill
  · split
    · exact h.waits hentered rfl rfl (by simp) (by simp)
    · exact h.kept hentered rfl rfl rfl
  · exact h.kept hentered rfl rfl rfl

end Inner

/-! ## The session -/

/-- `Answered`, for every run. -/
def AllAnswered (v : CodexView) : Prop :=
  ∀ {i : Nat} {r : CodexRun}, v.runs[i]? = some r → Answered v i r

section Steps

variable {cfg : Config} {s : Session} {e : SessionEvent} {v : CodexView}
  {sent : List (Nat × ServerMessage)}

/-- One event of a run, with its watcher served. -/
theorem answered_inner (hwf : CodexWf s.codex) (h : AllAnswered s.codex) {i : Nat} {e : CodexEvent}
    (hserves : watcherServes s (.codex i e) = true) {r : CodexRun} (hr : s.runs[i]? = some r)
    (hentered : StopEntered s.codex i → StopEntered (s.codex.modify i (.inner e)) i) :
    Answered (s.codex.modify i (.inner e)) i (r.inner e) := by
  have hcalled : (r.inner e).stopping = true → StopEntered (s.codex.modify i (.inner e)) i :=
    fun hstop => .of_run (CodexView.modify_self (show s.codex.runs[i]? = _ from hr) _) hstop
  cases e with
  | write data => exact (h hr).kept hentered rfl rfl rfl
  | eof =>
      refine (h hr).kept hentered ?_ ?_ ?_ <;> simp only [CodexRun.inner, CodexRun.eof] <;>
        split <;> rfl
  | copierStop => exact answered_copierStop (hwf.run hr) (h hr) hentered hcalled
  | deadline => exact (h hr).kept hentered rfl rfl rfl
  | exit =>
      refine (h hr).kept hentered ?_ ?_ ?_ <;> simp only [CodexRun.inner, CodexRun.exit] <;>
        split <;> rfl
  | kill =>
      refine (h hr).kept hentered ?_ ?_ ?_ <;> simp only [CodexRun.inner, CodexRun.kill] <;>
        split <;> rfl
  | watch viaStop =>
      refine answered_watch (hwf.run hr) (h hr) hentered viaStop hcalled ?_
      rintro rfl hwatcher hstop hreason
      simpa [watcherServes, hr, hwatcher, hstop, hreason] using hserves
  | wait result => exact answered_waitStep (hwf.run hr) (h hr) hentered hr result

/-- **One step** leaves every cancelled run with someone who stops it. -/
theorem AllAnswered.step (hwf : CodexWf s.codex) (h : AllAnswered s.codex)
    (hserves : watcherServes s e = true) (hstep : CodexStep cfg s e v sent) : AllAnswered v := by
  intro i r hr
  have hentered : ∀ {j : Nat}, StopEntered s.codex j → StopEntered v j := fun hj =>
    hj.step hwf hstep
  have hsame : ∀ {r : CodexRun}, s.runs[i]? = some r → Answered v i r := fun hr =>
    (h hr).kept hentered rfl rfl rfl
  -- a change of one run
  have hmodify : ∀ {j : Nat} {f : CodexRun → CodexRun} (hr : (s.codex.modify j f).runs[i]? = some r)
      (hf : ∀ {r₀ : CodexRun}, s.runs[j]? = some r₀ → Answered v j (f r₀)), Answered v i r := by
    intro j f hr hf
    rcases CodexView.modify_cases hr with ⟨rfl, r₀, hr₀, rfl⟩ | ⟨-, hold⟩
    · exact hf hr₀
    · exact hsame hold
  cases hstep with
  | keep => exact hsame hr
  | goOn _ _ _ => exact hsame hr
  | create _ _ _ =>
      rcases Nat.lt_or_ge i s.runs.length with hlt | hge
      · rw [List.getElem?_append_left hlt] at hr
        exact hsame hr
      · rw [List.getElem?_append_right hge] at hr
        have hnew := List.mem_of_getElem? hr
        rw [List.mem_singleton] at hnew
        rw [hnew]
        exact ⟨by simp [newCodexRun], by simp [newCodexRun], by simp [newCodexRun],
          by simp [newCodexRun]⟩
  | cancel _ _ _ => exact hsame hr
  | report _ _ => exact hsame hr
  | reportRefused _ _ => exact hsame hr
  | announce _ _ => exact hsame hr
  | announceRefused _ _ => exact hsame hr
  | stopCalled _ => exact hsame hr
  | stopNone _ _ => exact hsame hr
  | stopCurrent _ _ => exact hsame hr
  | stopGoesOn _ => exact hsame hr
  | start _ _ => exact hmodify hr fun hr₀ => (h hr₀).kept hentered rfl rfl rfl
  | startFails _ => exact hmodify hr fun hr₀ => (h hr₀).kept hentered rfl rfl rfl
  | drop _ =>
      rw [CodexView.clear_runs] at hr
      exact hmodify hr fun hr₀ => (h hr₀).kept hentered rfl rfl rfl
  | spawn hrun =>
      refine hmodify hr fun {r₀} hr₀ => ?_
      have hoff := ((hwf.phase hr₀).started.mpr (.inr hrun)).2
      refine ⟨fun hreason => ?_, by simp, by simp, by simp⟩
      rcases (h hr₀).recorded hreason with hsuccess | hstopped | ⟨-, hselect⟩
      · exact .inl hsuccess
      · exact .inr (.inl (hentered hstopped))
      · rw [(hwf.run hr₀).watcher.mpr hoff] at hselect
        cases hselect
  | cancelReason hrun =>
      exact hmodify hr fun {r₀} hr₀ => (h hr₀).of_entered (hwf.run hr₀) (.inl rfl)
        (r₀.setReason_eq _) rfl
  | cancelOnce _ =>
      exact hmodify hr fun {r₀} hr₀ => (h hr₀).kept hentered r₀.stop_reason CodexRun.stop_watcher
        r₀.stop_wait
  | stopReason hstop =>
      exact hmodify hr fun {r₀} hr₀ => (h hr₀).of_entered (hwf.run hr₀) (.inr (.inl rfl))
        (r₀.setReason_eq _) rfl
  | stopOnce _ =>
      exact hmodify hr fun {r₀} hr₀ => (h hr₀).kept hentered r₀.stop_reason CodexRun.stop_watcher
        r₀.stop_wait
  | output _ _ _ _ => exact hmodify hr fun hr₀ => (h hr₀).kept hentered rfl rfl rfl
  | outputRefused _ _ _ _ => exact hmodify hr fun hr₀ => (h hr₀).kept hentered rfl rfl rfl
  | overflow _ _ => exact hmodify hr fun hr₀ => (h hr₀).kept hentered rfl rfl rfl
  | inner => exact hmodify hr fun hr₀ => answered_inner hwf h hserves hr₀ hentered
  | release _ _ =>
      rw [CodexView.modify_clear, CodexView.clear_runs] at hr
      exact hmodify hr fun hr₀ => (h hr₀).waits hentered rfl rfl (by simp) (by simp)
  | conclude _ _ _ _ =>
      exact hmodify hr fun hr₀ => (h hr₀).waits hentered rfl rfl (by simp) (by simp)
  | concludeSilent _ _ _ =>
      exact hmodify hr fun hr₀ => (h hr₀).waits hentered rfl rfl (by simp) (by simp)

end Steps

/-- `waitCodex` waits for a kill that was ordered. -/
theorem Answered.entered {v : CodexView} {i : Nat} {r : CodexRun} (h : Answered v i r) (hwf : r.Wf)
    (hwait : r.wait = .awaitKill) : StopEntered v i := by
  have hrank : r.wait.rank = 7 := by rw [hwait]; rfl
  obtain ⟨reason, hreason⟩ := Option.isSome_iff_exists.mp (hwf.reason (by omega))
  rcases h.recorded hreason with rfl | hstopped | ⟨-, hselect⟩
  · exact absurd hreason (h.killReason hwait)
  · exact hstopped
  · rw [hwf.watched (by omega)] at hselect
    cases hselect

/-! ## Going on -/

/-- A step of the goroutines of run `i`, or of a caller of `startCodex` or
`stop` that is working on it: no help from the client is needed. -/
def ownStep (i : Nat) (s : Session) : SessionEvent → Bool
  | .codex j _ => j = i
  | .run => s.run = .announce i ∨ s.run = .spawn i ∨ s.run.stopping = some i
  | .stopSession => s.sessionStop.onRun = some i
  | _ => false

/-- Such steps lead to a state in which run `i` satisfies `P`. -/
def Reaches (cfg : Config) (i : Nat) (P : CodexRun → Prop) (s : Session) : Prop :=
  ∃ fs, (sessionMachine cfg).AllSteps (fun s e => ownStep i s e = true ∧ watcherServes s e = true)
      s fs ∧
    ∃ r, ((sessionMachine cfg).runFrom s fs).runs[i]? = some r ∧ P r

namespace Reaches

variable {cfg : Config} {i : Nat} {P Q : CodexRun → Prop} {s : Session} {r : CodexRun}

theorem here (hr : s.runs[i]? = some r) (hP : P r) : Reaches cfg i P s := ⟨[], trivial, r, hr, hP⟩

/-- A step of the run itself comes nearer. -/
theorem next {e : SessionEvent} (hown : ownStep i s e = true) (hserves : watcherServes s e = true)
    (h : Reaches cfg i P (sessionStep cfg s e).1) : Reaches cfg i P s := by
  obtain ⟨fs, hfs, r, hr, hP⟩ := h
  exact ⟨e :: fs, ⟨⟨hown, hserves⟩, hfs⟩, r, hr, hP⟩

theorem trans (h : Reaches cfg i P s)
    (hnext : ∀ {s : Session} {r : CodexRun}, s.runs[i]? = some r → P r → Reaches cfg i Q s) :
    Reaches cfg i Q s := by
  obtain ⟨fs, hfs, r, hr, hP⟩ := h
  obtain ⟨gs, hgs, r', hr', hQ⟩ := hnext hr hP
  refine ⟨fs ++ gs, (Machine.allSteps_append _ _ _ _ _).mpr ⟨hfs, hgs⟩, r', ?_, hQ⟩
  rw [Machine.runFrom_append]
  exact hr'

/-- A step that changes run `i` as `f` does. -/
theorem modify {e : SessionEvent} {f : CodexRun → CodexRun} (hown : ownStep i s e = true)
    (hserves : watcherServes s e = true) (hr : s.runs[i]? = some r)
    (hstep : (sessionStep cfg s e).1.runs = s.runs.modify i f)
    (h : ∀ {s' : Session}, s' = (sessionStep cfg s e).1 → s'.runs[i]? = some (f r) →
      Reaches cfg i P s') : Reaches cfg i P s := by
  refine .next hown hserves (h rfl ?_)
  rw [hstep, List.getElem?_modify_eq, hr]
  rfl

/-- A step of a goroutine of the run that concerns the run alone. -/
theorem inner (e : CodexEvent) (hwatch : e ≠ .watch true) (hwrite : ∀ data, e ≠ .write data)
    (hwait : ∀ result, e = .wait result → r.wait ≠ .clear ∧ r.wait ≠ .terminal)
    (hr : s.runs[i]? = some r)
    (h : ∀ {s' : Session}, s'.runs[i]? = some (r.inner e) → Reaches cfg i P s') :
    Reaches cfg i P s := by
  refine .modify (e := .codex i e) (by simp [ownStep]) ?_ hr ?_ fun _ hr' => h hr'
  · cases e with
    | watch viaStop => cases viaStop with
      | false => rfl
      | true => exact absurd rfl hwatch
    | _ => rfl
  · cases e with
    | write data => exact absurd rfl (hwrite data)
    | wait result =>
        obtain ⟨hclear, hterminal⟩ := hwait result rfl
        simp only [sessionStep, codexStep, hr, waitCodexStep]
        rfl
    | _ => simp only [sessionStep, codexStep, hr]; rfl

end Reaches

section Closing

variable {cfg : Config} {i : Nat} {s : Session} {r : CodexRun}

/-- `killDone` is closed, and `waitCodex` is where it was. -/
def Killed (wait : Wait) (r : CodexRun) : Prop := r.killDone = true ∧ r.wait = wait

/-- A run that was stopped is killed by its watcher. -/
theorem closes_of_stopOnce {wait : Wait} (hr : s.runs[i]? = some r) (hstop : r.stopOnce = true)
    (hwait : r.wait = wait) : Reaches cfg i (Killed wait) s := by
  refine .inner .kill (by simp) (by simp) (by simp) hr fun hr' => .here hr' ?_
  simp [Killed, CodexRun.inner, CodexRun.kill, hstop, hwait]

/-- The copier stops the run, and the watcher kills it. -/
theorem closes_of_copier (hr : s.runs[i]? = some r)
    (hcopier : r.copier = .once ∨ ∃ reason, r.copier = .setReason reason) :
    Reaches cfg i (Killed r.wait) s := by
  have honce : ∀ {s : Session} {r : CodexRun}, s.runs[i]? = some r → r.copier = .once →
      ∀ {wait : Wait}, r.wait = wait → Reaches cfg i (Killed wait) s := by
    intro s r hr hc wait hwait
    refine .inner .copierStop (by simp) (by simp) (by simp) hr fun hr' =>
      closes_of_stopOnce hr' ?_ ?_
    · simp [CodexRun.inner, CodexRun.copierStop, hc, CodexRun.stop_stopOnce]
    · simp [CodexRun.inner, CodexRun.copierStop, hc, CodexRun.stop_wait, hwait]
  rcases hcopier with hc | ⟨reason, hc⟩
  · exact honce hr hc rfl
  · have hset : r.inner .copierStop = { r.setReason reason with copier := .once } := by
      simp [CodexRun.inner, CodexRun.copierStop, hc]
    refine .inner .copierStop (by simp) (by simp) (by simp) hr fun hr' => ?_
    rw [hset] at hr'
    exact honce hr' rfl rfl

/-- The watcher kills the run itself. -/
theorem closes_of_watcher (hr : s.runs[i]? = some r)
    (hwatcher : r.watcher = .once ∨ ∃ reason, r.watcher = .setReason reason) :
    Reaches cfg i (Killed r.wait) s := by
  have honce : ∀ {s : Session} {r : CodexRun}, s.runs[i]? = some r → r.watcher = .once →
      ∀ {wait : Wait}, r.wait = wait → Reaches cfg i (Killed wait) s := by
    intro s r hr hw wait hwait
    refine .inner (.watch false) (by simp) (by simp) (by simp) hr fun hr' =>
      closes_of_stopOnce hr' ?_ ?_
    · simp [CodexRun.inner, CodexRun.watch, hw, CodexRun.stop_stopOnce]
    · simp [CodexRun.inner, CodexRun.watch, hw, CodexRun.stop_wait, hwait]
  rcases hwatcher with hw | ⟨reason, hw⟩
  · exact honce hr hw rfl
  · have hset : r.inner (.watch false) = { r.setReason reason with watcher := .once } := by
      simp [CodexRun.inner, CodexRun.watch, hw]
    refine .inner (.watch false) (by simp) (by simp) (by simp) hr fun hr' => ?_
    rw [hset] at hr'
    exact honce hr' rfl rfl

/-- `cancelCodex` stops the run. -/
theorem closes_of_run (hr : s.runs[i]? = some r) (hrun : s.run.stopping = some i) :
    Reaches cfg i (Killed r.wait) s := by
  have honce : ∀ {s : Session} {r : CodexRun}, s.runs[i]? = some r → s.run = .cancelOnce i →
      ∀ {wait : Wait}, r.wait = wait → Reaches cfg i (Killed wait) s := by
    intro s r hr hpc wait hwait
    refine .modify (e := .run) (f := .stop) (by simp [ownStep, hpc, RunPc.stopping]) rfl hr
      (by simp [sessionStep, runStep, hpc, Session.setRun, Session.modifyRun]) fun _ hr' => ?_
    exact closes_of_stopOnce hr' CodexRun.stop_stopOnce (r.stop_wait.trans hwait)
  cases hpc : s.run with
  | cancelOnce j =>
      rw [hpc] at hrun
      obtain rfl := Option.some.inj hrun
      exact honce hr hpc rfl
  | cancelReason j reason =>
      rw [hpc] at hrun
      obtain rfl := Option.some.inj hrun
      refine .modify (e := .run) (f := (·.setReason reason))
        (by simp [ownStep, hpc, RunPc.stopping]) rfl hr
        (by simp [sessionStep, runStep, hpc, Session.setRun, Session.modifyRun]) fun hs' hr' => ?_
      exact honce hr' (by rw [hs']; simp [sessionStep, runStep, hpc, Session.setRun]) rfl
  | _ => rw [hpc] at hrun; cases hrun

/-- The end of the session stops the run. -/
theorem closes_of_stop (hr : s.runs[i]? = some r) (hstop : s.sessionStop.onRun = some i) :
    Reaches cfg i (Killed r.wait) s := by
  have honce : ∀ {s : Session} {r : CodexRun}, s.runs[i]? = some r → s.sessionStop = .once i →
      ∀ {wait : Wait}, r.wait = wait → Reaches cfg i (Killed wait) s := by
    intro s r hr hpc wait hwait
    refine .modify (e := .stopSession) (f := .stop) (by simp [ownStep, hpc, SessionStop.onRun]) rfl
      hr (by simp [sessionStep, stopSession, hpc, Session.modifyRun]) fun _ hr' => ?_
    exact closes_of_stopOnce hr' CodexRun.stop_stopOnce (r.stop_wait.trans hwait)
  cases hpc : s.sessionStop with
  | once j =>
      rw [hpc] at hstop
      obtain rfl := Option.some.inj hstop
      exact honce hr hpc rfl
  | setReason j =>
      rw [hpc] at hstop
      obtain rfl := Option.some.inj hstop
      refine .modify (e := .stopSession) (f := (·.setReason .session))
        (by simp [ownStep, hpc, SessionStop.onRun]) rfl hr
        (by simp [sessionStep, stopSession, hpc, Session.modifyRun]) fun hs' hr' => ?_
      exact honce hr' (by rw [hs']; simp [sessionStep, stopSession, hpc]) rfl
  | _ => rw [hpc] at hstop; cases hstop

/-- A call of `stop` closes `killDone`. -/
theorem closes_of_entered (hr : s.runs[i]? = some r) (h : StopEntered s.codex i) :
    Reaches cfg i (Killed r.wait) s := by
  rcases h with hrun | hstop | hany
  · exact closes_of_run hr hrun
  · exact closes_of_stop hr hstop
  · rw [show s.codex.runs[i]? = _ from hr, Option.any_some] at hany
    unfold CodexRun.stopping at hany
    rw [Bool.or_eq_true, Bool.or_eq_true] at hany
    rcases hany with (honce | hcopier) | hwatcher
    · exact closes_of_stopOnce hr honce rfl
    · refine closes_of_copier hr ?_
      split at hcopier
      · rename_i reason hc; exact .inr ⟨reason, hc⟩
      · rename_i hc; exact .inl hc
      · cases hcopier
    · refine closes_of_watcher hr ?_
      split at hwatcher
      · rename_i reason hw; exact .inr ⟨reason, hw⟩
      · rename_i hw; exact .inl hw
      · cases hwatcher

end Closing

section Moving

variable {cfg : Config} {i : Nat} {s : Session} {r : CodexRun}

/-- A step of `waitCodex` that is not one of its last two. -/
theorem moves_wait {wait : Wait} (hr : s.runs[i]? = some r) (hwait : r.wait = wait)
    (hclear : wait ≠ .clear) (hterminal : wait ≠ .terminal) (result : WaitResult)
    (hmoved : (r.waitStep result).wait ≠ wait) : Reaches cfg i (·.wait ≠ wait) s := by
  subst hwait
  exact .inner (.wait result) (by simp) (by simp) (fun _ _ => ⟨hclear, hterminal⟩) hr
    fun hr' => .here hr' hmoved

/-- `cmd.Wait` returns once the output is copied. -/
theorem moves_cmdWait (hwf : r.Wf) (hr : s.runs[i]? = some r) (hwait : r.wait = .cmdWait)
    (hexited : r.process = .exited) : Reaches cfg i (·.wait ≠ .cmdWait) s := by
  have hdone : ∀ {s : Session} {r : CodexRun}, s.runs[i]? = some r → r.wait = .cmdWait →
      r.process = .exited → r.copier = .done → Reaches cfg i (·.wait ≠ .cmdWait) s := by
    intro s r hr hwait hexited hc
    refine moves_wait hr hwait (by decide) (by decide) .failed ?_
    simp [CodexRun.waitStep, hwait, hexited, hc]
  have honce : ∀ {s : Session} {r : CodexRun}, s.runs[i]? = some r → r.wait = .cmdWait →
      r.process = .exited → r.copier = .once → Reaches cfg i (·.wait ≠ .cmdWait) s := by
    intro s r hr hwait hexited hc
    have hstop : r.inner .copierStop = { r.stop with copier := .done } := by
      simp [CodexRun.inner, CodexRun.copierStop, hc]
    refine .inner .copierStop (by simp) (by simp) (by simp) hr fun hr' => ?_
    rw [hstop] at hr'
    exact hdone hr' (r.stop_wait.trans hwait) (r.after_stop.exited hexited) rfl
  cases hc : r.copier with
  | off =>
      have := hwf.copier.mp hc
      simp [CodexRun.hasProcess, hexited] at this
  | copying =>
      have heof : r.inner .eof = { r with copier := .done } := by
        simp [CodexRun.inner, CodexRun.eof, hc]
      refine .inner .eof (by simp) (by simp) (by simp) hr fun hr' => ?_
      rw [heof] at hr'
      exact hdone hr' hwait hexited rfl
  | setReason reason =>
      have hset : r.inner .copierStop = { r.setReason reason with copier := .once } := by
        simp [CodexRun.inner, CodexRun.copierStop, hc]
      refine .inner .copierStop (by simp) (by simp) (by simp) hr fun hr' => ?_
      rw [hset] at hr'
      exact honce hr' hwait hexited rfl
  | once => exact honce hr hwait hexited hc
  | done => exact hdone hr hwait hexited hc

/-- The watcher ends, by way of the context. -/
theorem moves_awaitWatcher (hwf : r.Wf) (hr : s.runs[i]? = some r)
    (hwait : r.wait = .awaitWatcher) : Reaches cfg i (·.wait ≠ .awaitWatcher) s := by
  have hdone : ∀ {s : Session} {r : CodexRun}, s.runs[i]? = some r → r.wait = .awaitWatcher →
      r.watcher = .done → Reaches cfg i (·.wait ≠ .awaitWatcher) s := by
    intro s r hr hwait hw
    refine moves_wait hr hwait (by decide) (by decide) .failed ?_
    simp [CodexRun.waitStep, hwait, hw]
  have honce : ∀ {s : Session} {r : CodexRun}, s.runs[i]? = some r → r.wait = .awaitWatcher →
      r.watcher = .once → Reaches cfg i (·.wait ≠ .awaitWatcher) s := by
    intro s r hr hwait hw
    have hstop : r.inner (.watch false) = { r.stop with watcher := .done } := by
      simp [CodexRun.inner, CodexRun.watch, hw]
    refine .inner (.watch false) (by simp) (by simp) (by simp) hr fun hr' => ?_
    rw [hstop] at hr'
    exact hdone hr' (r.stop_wait.trans hwait) rfl
  have hreason : ∀ {s : Session} {r : CodexRun} {reason : StopReason}, s.runs[i]? = some r →
      r.wait = .awaitWatcher → r.watcher = .setReason reason →
      Reaches cfg i (·.wait ≠ .awaitWatcher) s := by
    intro s r reason hr hwait hw
    have hset : r.inner (.watch false) = { r.setReason reason with watcher := .once } := by
      simp [CodexRun.inner, CodexRun.watch, hw]
    refine .inner (.watch false) (by simp) (by simp) (by simp) hr fun hr' => ?_
    rw [hset] at hr'
    exact honce hr' hwait rfl
  cases hw : r.watcher with
  | off =>
      have := hwf.watcher.mp hw
      rw [hwait] at this
      cases this
  | select =>
      obtain ⟨err, herr⟩ := Option.isSome_iff_exists.mp (hwf.ctx (by rw [hwait]; decide))
      have hleave : ∃ reason, r.inner (.watch false) = { r with watcher := .setReason reason } := by
        cases err with
        | canceled => exact ⟨.cancelled, by simp [CodexRun.inner, CodexRun.watch, hw, herr]⟩
        | deadlineExceeded => exact ⟨.timeout, by simp [CodexRun.inner, CodexRun.watch, hw, herr]⟩
      obtain ⟨reason, hleave⟩ := hleave
      refine .inner (.watch false) (by simp) (by simp) (by simp) hr fun hr' => ?_
      rw [hleave] at hr'
      exact hreason hr' hwait rfl
  | setReason reason => exact hreason hr hwait hw
  | once => exact honce hr hwait hw
  | done => exact hdone hr hwait hw

/-- `startCodex` starts `waitCodex`. -/
theorem moves_off (hr : s.runs[i]? = some r) (hrun : s.run = .announce i ∨ s.run = .spawn i) :
    Reaches cfg i (·.wait ≠ .off) s := by
  have hspawn : ∀ {s : Session} {r : CodexRun}, s.runs[i]? = some r → s.run = .spawn i →
      Reaches cfg i (·.wait ≠ .off) s := by
    intro s r hr hpc
    refine .modify (e := .run) (f := fun r => { r with watcher := .select, wait := .cmdWait })
      (by simp [ownStep, hpc]) rfl hr
      (by simp [sessionStep, runStep, hpc, Session.setRun, Session.modifyRun]) fun _ hr' => ?_
    exact .here hr' (by simp)
  rcases hrun with hpc | hpc
  · refine .next (e := .run) (by simp [ownStep, hpc]) rfl ?_
    have hstep : (sessionStep cfg s .run).1.run = .spawn i ∧
        (sessionStep cfg s .run).1.runs = s.runs := by
      simp only [sessionStep, runStep, hpc]
      exact enqueue_rule (P := fun x => x.1.run = .spawn i ∧ x.1.runs = s.runs)
        (fun _ => ⟨rfl, rfl⟩) (fun _ => ⟨rfl, rfl⟩)
    exact hspawn (by rw [hstep.2]; exact hr) hstep.1
  · exact hspawn hr hpc

/-- The last statements of `waitCodex` never block. -/
theorem moves_end (hr : s.runs[i]? = some r) (hwait : r.wait = .clear ∨ r.wait = .terminal) :
    Reaches cfg i (·.wait ≠ r.wait) s := by
  rcases hwait with hwait | hwait
  · refine .modify (e := .codex i (.wait .failed)) (f := fun r => { r with wait := .terminal })
      (by simp [ownStep]) rfl hr ?_ fun _ hr' => .here hr' (by rw [hwait]; simp)
    simp only [sessionStep, codexStep, hr, waitCodexStep, hwait, Session.modifyRun]
    rw [show (s.clearCodexRun i).runs = (s.clearCodexRun i).codex.runs from rfl,
      clearCodexRun_codex, CodexView.clear_runs]
    rfl
  · refine .modify (e := .codex i (.wait .failed)) (f := fun r => { r with wait := .done })
      (by simp [ownStep]) rfl hr ?_ fun _ hr' => .here hr' (by rw [hwait]; simp)
    simp only [sessionStep, codexStep, hr, waitCodexStep, hwait]
    split
    · rfl
    · exact enqueue_rule
        (P := fun x => x.1.runs = s.runs.modify i fun r => { r with wait := .done })
        (fun _ => rfl) (fun _ => rfl)

/-- After the exit `Wait` goes on to its end. -/
theorem moves (hwf : CodexWf s.codex) (h : Answered s.codex i r) (hr : s.runs[i]? = some r)
    (hexited : r.process = .exited) (hdone : r.wait ≠ .done) :
    Reaches cfg i (·.wait ≠ r.wait) s := by
  cases hwait : r.wait with
  | done => exact absurd hwait hdone
  | off =>
      refine moves_off hr ((hwf.phase hr).started.mp ⟨?_, hwait⟩)
      simp [CodexRun.hasProcess, hexited]
  | cmdWait => exact moves_cmdWait (hwf.run hr) hr hwait hexited
  | setReason reason =>
      exact moves_wait hr hwait (by simp) (by simp) .failed (by simp [CodexRun.waitStep, hwait])
  | closeWatcher =>
      exact moves_wait hr hwait (by simp) (by simp) .failed (by simp [CodexRun.waitStep, hwait])
  | cancel =>
      exact moves_wait hr hwait (by simp) (by simp) .failed (by simp [CodexRun.waitStep, hwait])
  | awaitWatcher => exact moves_awaitWatcher (hwf.run hr) hr hwait
  | readReason =>
      refine moves_wait hr hwait (by simp) (by simp) .failed ?_
      simp only [CodexRun.waitStep, hwait]
      split <;> simp
  | awaitKill =>
      refine (closes_of_entered hr (h.entered (hwf.run hr) hwait)).trans fun hr' hkilled => ?_
      refine moves_wait hr' (hkilled.2.trans hwait) (by simp) (by simp) .failed ?_
      simp [CodexRun.waitStep, hkilled.2.trans hwait, hkilled.1]
  | clear => rw [← hwait]; exact moves_end hr (.inl hwait)
  | terminal => rw [← hwait]; exact moves_end hr (.inr hwait)

end Moving

/-! ## Whole runs -/

/-- `waitCodex` waits for `killDone` only after a call of `stop`, `killDone`
gets closed, and `waitCodex` gets on after the process has exited. -/
structure CleansUp (cfg : Config) (s : Session) : Prop where
  entered : ∀ (i : Nat) (r : CodexRun), s.runs[i]? = some r → r.wait = .awaitKill →
    StopEntered s.codex i
  closes : ∀ (i : Nat) (r : CodexRun), s.runs[i]? = some r → r.wait = .awaitKill →
    Reaches cfg i (·.killDone = true) s
  moves : ∀ (i : Nat) (r : CodexRun), s.runs[i]? = some r → r.process = .exited →
    r.wait ≠ .done → Reaches cfg i (·.wait ≠ r.wait) s

/-- **A Codex run never blocks its own cleanup in a run whose watchers leave
no timeout behind.** -/
theorem cleanup_not_blocked (cfg : Config) (es : List SessionEvent)
    (hes : (sessionMachine cfg).AllSteps (watcherServes · · = true) newSession es) :
    CleansUp cfg ((sessionMachine cfg).run es) := by
  have hinit : CodexWf newSession.codex ∧ AllAnswered newSession.codex :=
    ⟨codexWf_new, by simp [AllAnswered, newSession, Session.codex]⟩
  obtain ⟨hwf, hanswered⟩ := (sessionMachine cfg).runFrom_invariant
    (I := fun s => CodexWf s.codex ∧ AllAnswered s.codex) (P := (watcherServes · · = true))
    (fun s e h hserves =>
      ⟨codexWf_step cfg h.1 e, AllAnswered.step h.1 h.2 hserves (sessionStep_codex cfg s e)⟩)
    es newSession hinit hes
  refine ⟨fun i r hr hwait => ?_, fun i r hr hwait => ?_, fun i r hr hexited hdone => ?_⟩
  · exact (hanswered hr).entered (hwf.run hr) hwait
  · have hentered := (hanswered hr).entered (hwf.run hr) hwait
    exact (closes_of_entered hr hentered).trans fun hr' hkilled => .here hr' hkilled.1
  · exact moves hwf (hanswered hr) hr hexited hdone

/-- A process that is killed at its deadline, up to the end of its output
and of `cmd.Wait`; `viaStop` is the branch the watcher takes after
`waitCodex` has recorded the timeout. -/
def timeoutEvents (viaStop : Bool) : List SessionEvent :=
  promptEvents ++ [.codex 0 .deadline, .codex 0 .exit, .codex 0 .eof, .codex 0 (.wait .failed),
    .codex 0 (.wait .failed), .codex 0 (.wait .failed), .codex 0 (.watch viaStop),
    .codex 0 (.watch false), .codex 0 (.watch false), .codex 0 (.wait .failed),
    .codex 0 (.wait .failed), .codex 0 (.wait .failed)]

/-- The watcher acts on the timeout. -/
theorem cleanup_not_blocked_timeout :
    (sessionMachine promptConfig).AllSteps (watcherServes · · = true) newSession
        (timeoutEvents false) ∧
      CleansUp promptConfig ((sessionMachine promptConfig).run (timeoutEvents false)) :=
  ⟨by decide +kernel, cleanup_not_blocked promptConfig (timeoutEvents false) (by decide +kernel)⟩

/-- The watcher does not, and `waitCodex` waits for a kill nobody has
ordered. -/
theorem cleanup_blocked :
    ¬ CleansUp promptConfig ((sessionMachine promptConfig).run (timeoutEvents true)) := by
  intro h
  have hentered := h.entered 0 { newCodexRun (ascii "r") with
    process := .exited, reason := some .timeout, ctx := some .deadlineExceeded, copier := .done,
    watcherStop := true, watcher := .done, wait := .awaitKill } (by decide +kernel) rfl
  exact absurd hentered (by decide +kernel)

end Bootmux.Companion
