/-
Bootmux.Companion.CodexTheorems — what holds of the Codex runs of a
session in every reachable state.

`CodexRun.Wf` couples the goroutines of one run: `waitCodex` gets past
`cmd.Wait` when the process has exited and its output is copied, past its
next statements when a reason is recorded, and so on. `CodexWf` couples
the runs: at most one is not released, and it is the last and the current
one. Both hold whatever the order of the steps (`codexWf_run`).

A run goes through its positions in one direction (`Wait.rank`), and no
field of it is ever set back (`CodexRun.GoesOn`). The session's part of the
invariant is about the one run that is not released: between the creation
and the release of a run no other one can be created, whatever the queue,
the clients and the watchers do.

The two sections after the invariant answer what other modules ask of it:
which steps call `stop` on a run and what they leave, and by which step a
run was created.
-/
import Bootmux.Companion.CodexSteps

namespace Bootmux.Companion

open Bootmux.Lib

/-! ## One run -/

/-- How far `waitCodex` is. -/
def Wait.rank : Wait → Nat
  | .off => 0
  | .cmdWait => 1
  | .setReason _ => 2
  | .closeWatcher => 3
  | .cancel => 4
  | .awaitWatcher => 5
  | .readReason => 6
  | .awaitKill => 7
  | .clear => 8
  | .terminal => 9
  | .done => 10

/-- What holds of a run by itself, whatever its goroutines have done. -/
structure CodexRun.Wf (r : CodexRun) : Prop where
  copier : r.copier = .off ↔ r.hasProcess = false
  watcher : r.watcher = .off ↔ r.wait = .off
  waiting : r.wait ≠ .off → r.hasProcess = true
  exited : 2 ≤ r.wait.rank → r.process = .exited ∧ r.copier = .done
  reason : 3 ≤ r.wait.rank → r.reason.isSome = true
  watcherStop : r.watcherStop = true → r.reason.isSome = true
  ctx : 5 ≤ r.wait.rank → r.ctx.isSome = true
  watched : 6 ≤ r.wait.rank → r.watcher = .done

namespace CodexRun

variable {r : CodexRun}

@[simp] theorem setReason_reason (reason : StopReason) :
    (r.setReason reason).reason = some (r.reason.getD reason) := rfl

/-- A run that was just created. -/
theorem wf_new (requestID : Bytes) : (newCodexRun requestID).Wf := by
  constructor <;> simp [newCodexRun, hasProcess, Wait.rank]

/-- A reason does not move the run. -/
theorem Wf.setReason (h : r.Wf) (reason : StopReason) : (r.setReason reason).Wf :=
  ⟨h.copier, h.watcher, h.waiting, h.exited, fun _ => rfl, fun _ => rfl, h.ctx, h.watched⟩

theorem Wf.endContext (h : r.Wf) (err : ContextError) : (r.endContext err).Wf :=
  ⟨h.copier, h.watcher, h.waiting, h.exited, h.reason, h.watcherStop, fun _ => rfl, h.watched⟩

theorem Wf.stop (h : r.Wf) : r.stop.Wf := by
  unfold CodexRun.stop
  split
  · exact h
  · exact ⟨h.copier, h.watcher, h.waiting, h.exited, h.reason, h.watcherStop, fun _ => rfl,
      h.watched⟩

theorem Wf.kill (h : r.Wf) : r.kill.Wf := by
  unfold CodexRun.kill
  split
  · exact ⟨h.copier, h.watcher, h.waiting, h.exited, h.reason, h.watcherStop, h.ctx, h.watched⟩
  · exact h

/-- Before `cmd.Wait` has returned. -/
theorem Wf.rank_lt_two (h : r.Wf) (hbusy : r.process ≠ .exited ∨ r.copier ≠ .done) :
    r.wait.rank < 2 := by
  by_contra hle
  have := h.exited (Nat.le_of_not_lt hle)
  rcases hbusy with hp | hc
  · exact hp this.1
  · exact hc this.2

theorem Wf.rank_lt_six (h : r.Wf) (hwatcher : r.watcher ≠ .done) : r.wait.rank < 6 := by
  by_contra hle
  exact hwatcher (h.watched (Nat.le_of_not_lt hle))

/-- The process can exit at any time. -/
theorem Wf.exit (h : r.Wf) : r.exit.Wf := by
  unfold CodexRun.exit
  split
  · rename_i hp
    have hlt := h.rank_lt_two (.inl (by rw [hp]; decide))
    have hhas : r.hasProcess = true := by simp [hasProcess, hp]
    exact ⟨by rw [h.copier, hhas]; rfl, h.watcher, fun _ => rfl,
      fun hle => absurd hle (Nat.not_le_of_lt hlt), h.reason, h.watcherStop, h.ctx, h.watched⟩
  · exact h

/-- A copier that is not off moves to another place that is not off. -/
theorem Wf.copierMoves (h : r.Wf) (hfrom : r.copier ≠ .off) (hbusy : r.copier ≠ .done) {c : Copier}
    (hto : c ≠ .off) : ({ r with copier := c } : CodexRun).Wf := by
  have hlt := h.rank_lt_two (.inr hbusy)
  refine ⟨?_, h.watcher, h.waiting, fun hle => absurd hle (Nat.not_le_of_lt hlt), h.reason,
    h.watcherStop, h.ctx, h.watched⟩
  exact iff_of_false hto fun hnone => hfrom (h.copier.mpr hnone)

/-- The copier reads to the end. -/
theorem Wf.eof (h : r.Wf) : r.eof.Wf := by
  unfold CodexRun.eof
  split
  · rename_i hc
    exact h.copierMoves (by rw [hc]; decide) (by rw [hc]; decide) (by decide)
  · exact h

theorem Wf.copierStop (h : r.Wf) : r.copierStop.Wf := by
  unfold CodexRun.copierStop
  split
  · rename_i reason hc
    exact (h.setReason reason).copierMoves (show r.copier ≠ .off by rw [hc]; simp)
      (show r.copier ≠ .done by rw [hc]; simp) (by decide)
  · rename_i hc
    have hstop : r.stop.copier = .once := by
      unfold CodexRun.stop
      split <;> exact hc
    exact h.stop.copierMoves (by rw [hstop]; decide) (by rw [hstop]; decide) (by decide)
  · exact h

theorem Wf.watcherMoves (h : r.Wf) (hfrom : r.watcher ≠ .off) (hbusy : r.watcher ≠ .done)
    {w : Watcher} (hto : w ≠ .off) : ({ r with watcher := w } : CodexRun).Wf := by
  have hlt := h.rank_lt_six hbusy
  refine ⟨h.copier, ?_, h.waiting, h.exited, h.reason, h.watcherStop, h.ctx,
    fun hle => absurd hle (Nat.not_le_of_lt hlt)⟩
  exact iff_of_false hto fun hoff => hfrom (h.watcher.mpr hoff)

/-- One step of the watcher. -/
theorem Wf.watch (h : r.Wf) (viaStop : Bool) : (r.watch viaStop).Wf := by
  unfold CodexRun.watch
  split
  · rename_i hw
    have hmove : ∀ w : Watcher, w ≠ .off → ({ r with watcher := w } : CodexRun).Wf := fun w hto =>
      h.watcherMoves (by rw [hw]; decide) (by rw [hw]; decide) hto
    split
    · split
      · exact hmove .done (by decide)
      · exact h
    · split
      · exact h
      · exact hmove _ (by decide)
      · exact hmove _ (by decide)
  · rename_i reason hw
    exact (h.setReason reason).watcherMoves (show r.watcher ≠ .off by rw [hw]; simp)
      (show r.watcher ≠ .done by rw [hw]; simp) (by decide)
  · rename_i hw
    have hstop : r.stop.watcher = .once := by
      unfold CodexRun.stop
      split <;> exact hw
    exact h.stop.watcherMoves (by rw [hstop]; decide) (by rw [hstop]; decide) (by decide)
  · exact h

/-- `waitCodex` goes on to a place whose conditions are met. -/
theorem Wf.waitMoves (h : r.Wf) (hfrom : r.wait ≠ .off) {w : Wait} (hto : w ≠ .off)
    (hexited : 2 ≤ w.rank → r.process = .exited ∧ r.copier = .done)
    (hreason : 3 ≤ w.rank → r.reason.isSome = true) (hctx : 5 ≤ w.rank → r.ctx.isSome = true)
    (hwatched : 6 ≤ w.rank → r.watcher = .done) : ({ r with wait := w } : CodexRun).Wf :=
  ⟨h.copier, iff_of_false (fun hoff => hfrom (h.watcher.mp hoff)) hto, fun _ => h.waiting hfrom,
    hexited, hreason, h.watcherStop, hctx, hwatched⟩

/-- The place after one whose conditions are met. -/
theorem Wf.waitNext (h : r.Wf) {w : Wait} (hfrom : 6 ≤ r.wait.rank) (hto : w ≠ .off) :
    ({ r with wait := w } : CodexRun).Wf :=
  h.waitMoves (fun hoff => by rw [hoff] at hfrom; exact absurd hfrom (by decide)) hto
    (fun _ => h.exited (by omega)) (fun _ => h.reason (by omega)) (fun _ => h.ctx (by omega))
    (fun _ => h.watched hfrom)

/-- One step of the waiter. -/
theorem Wf.waitStep (h : r.Wf) (result : WaitResult) : (r.waitStep result).Wf := by
  unfold CodexRun.waitStep
  split
  · rename_i hw
    split
    · rename_i hexited
      have hresult : ({ r with result := result } : CodexRun).Wf :=
        ⟨h.copier, h.watcher, h.waiting, h.exited, h.reason, h.watcherStop, h.ctx, h.watched⟩
      exact hresult.waitMoves (show r.wait ≠ .off by rw [hw]; decide) (by simp)
        (fun _ => hexited) (by simp [Wait.rank]) (by simp [Wait.rank]) (by simp [Wait.rank])
    · exact h
  · rename_i reason hw
    have hrank : 2 ≤ r.wait.rank := by rw [hw]; exact Nat.le_refl _
    exact (h.setReason reason).waitMoves (show r.wait ≠ .off by rw [hw]; simp) (by decide)
      (fun _ => h.exited hrank) (fun _ => rfl) (by simp [Wait.rank]) (by simp [Wait.rank])
  · rename_i hw
    have hrank : 3 ≤ r.wait.rank := by rw [hw]; decide
    have hstop : ({ r with watcherStop := true } : CodexRun).Wf :=
      ⟨h.copier, h.watcher, h.waiting, h.exited, h.reason, fun _ => h.reason hrank, h.ctx,
        h.watched⟩
    exact hstop.waitMoves (show r.wait ≠ .off by rw [hw]; decide) (by decide)
      (fun _ => h.exited (by omega)) (fun _ => h.reason hrank) (by simp [Wait.rank])
      (by simp [Wait.rank])
  · rename_i hw
    have hrank : 4 ≤ r.wait.rank := by rw [hw]; decide
    exact (h.endContext .canceled).waitMoves (show r.wait ≠ .off by rw [hw]; decide) (by decide)
      (fun _ => h.exited (by omega)) (fun _ => h.reason (by omega)) (fun _ => rfl)
      (by simp [Wait.rank])
  · rename_i hw
    have hrank : 5 ≤ r.wait.rank := by rw [hw]; decide
    split
    · rename_i hwatcher
      exact h.waitMoves (by rw [hw]; decide) (by decide) (fun _ => h.exited (by omega))
        (fun _ => h.reason (by omega)) (fun _ => h.ctx hrank) (fun _ => hwatcher)
    · exact h
  · rename_i hw
    refine h.waitNext (by rw [hw]; decide) ?_
    split <;> decide
  · rename_i hw
    split
    · exact h.waitNext (by rw [hw]; decide) (by decide)
    · exact h
  · exact h

/-- **One event of a run** keeps its goroutines in step. -/
theorem Wf.inner (h : r.Wf) (e : CodexEvent) : (r.inner e).Wf := by
  cases e with
  | write data => exact h
  | eof => exact h.eof
  | copierStop => exact h.copierStop
  | deadline => exact h.endContext .deadlineExceeded
  | exit => exact h.exit
  | kill => exact h.kill
  | watch viaStop => exact h.watch viaStop
  | wait result => exact h.waitStep result

/-- A run that has not been released: its process may still run, or
`waitCodex` is still before `clearCodexRun`. -/
def live (r : CodexRun) : Bool :=
  match r.process with
  | .notStarted => true
  | .failed => false
  | .running | .exited => r.wait.rank ≤ 8

end CodexRun

/-! ## The runs of a session -/

/-- The run `startCodex` is about to start or to report. -/
def RunPc.starting : RunPc → Option Nat
  | .start i | .startFailed i | .reportStart i | .announce i | .spawn i => some i
  | _ => none

theorem RunPc.starting_of_onRun {pc : RunPc} (h : pc.onRun = none) : pc.starting = none := by
  cases pc <;> first | rfl | cases h

/-- How far run `i` is, seen from `startCodex`. -/
structure Phase (pc : RunPc) (i : Nat) (r : CodexRun) : Prop where
  start : r.process = .notStarted ↔ pc = .start i
  failed : pc = .startFailed i ∨ pc = .reportStart i → r.process = .failed
  started : r.hasProcess = true ∧ r.wait = .off ↔ pc = .announce i ∨ pc = .spawn i

/-- `startCodex` turning to or from another run, or to none. -/
theorem Phase.elsewhere {pc next : RunPc} {i : Nat} {r : CodexRun} (h : Phase pc i r)
    (hfrom : pc.starting ≠ some i) (hto : next.starting ≠ some i) : Phase next i r := by
  have hne : ∀ {q : RunPc}, q.starting ≠ some i → q ≠ .start i ∧ q ≠ .startFailed i ∧
      q ≠ .reportStart i ∧ q ≠ .announce i ∧ q ≠ .spawn i := by
    intro q hq
    refine ⟨?_, ?_, ?_, ?_, ?_⟩ <;> (rintro rfl; exact hq rfl)
  obtain ⟨h₁, h₂, h₃, h₄, h₅⟩ := hne hfrom
  obtain ⟨k₁, k₂, k₃, k₄, k₅⟩ := hne hto
  exact ⟨by rw [h.start]; simp [h₁, k₁], by simp [k₂, k₃], by rw [h.started]; simp [h₄, h₅, k₄, k₅]⟩

/-- A step of a run's own goroutines, seen from `startCodex`: the process
was started or not, and `waitCodex` only goes on. -/
structure CodexRun.GoesOn (r r' : CodexRun) : Prop where
  process : r'.process = r.process ∨ r.process = .running ∧ r'.process = .exited
  off : r'.wait = .off ↔ r.wait = .off
  rank : r.wait.rank ≤ r'.wait.rank

/-- A run that goes on keeps its process. -/
theorem CodexRun.GoesOn.hasProcess {r r' : CodexRun} (h : r.GoesOn r') :
    r'.hasProcess = r.hasProcess := by
  rcases h.process with hp | ⟨hp, hp'⟩
  · simp [CodexRun.hasProcess, hp]
  · simp [CodexRun.hasProcess, hp, hp']

theorem CodexRun.GoesOn.done {r r' : CodexRun} (h : r.GoesOn r') (hdone : r.wait = .done) :
    r'.wait = .done := by
  have hrank := h.rank
  rw [hdone] at hrank
  cases hw : r'.wait <;> simp_all [Wait.rank]

/-- And the phase it is in. -/
theorem Phase.goesOn {pc : RunPc} {i : Nat} {r r' : CodexRun} (h : Phase pc i r)
    (hgo : r.GoesOn r') : Phase pc i r' := by
  refine ⟨?_, fun hpc => ?_, by rw [hgo.hasProcess, hgo.off]; exact h.started⟩
  · rw [← h.start]
    rcases hgo.process with hp | ⟨hp, hp'⟩
    · rw [hp]
    · simp [hp, hp']
  · rcases hgo.process with hp | ⟨hp, -⟩
    · exact hp.trans (h.failed hpc)
    · rw [h.failed hpc] at hp
      cases hp

namespace CodexRun

variable {r : CodexRun}

theorem GoesOn.live {r' : CodexRun} (h : r.GoesOn r') (hlive : r'.live = true) : r.live = true := by
  have hrank := h.rank
  unfold CodexRun.live at *
  rcases h.process with hp | ⟨hp, hp'⟩
  · rw [hp] at hlive
    split <;> simp_all <;> omega
  · rw [hp'] at hlive
    simp only [hp, decide_eq_true_eq] at hlive ⊢
    omega

/-- A change that neither the process nor `waitCodex` is part of. -/
theorem GoesOn.of_eq {r' : CodexRun} (hp : r'.process = r.process) (hw : r'.wait = r.wait) :
    r.GoesOn r' :=
  ⟨.inl hp, by rw [hw], by rw [hw]⟩

theorem goesOn_stop : r.GoesOn r.stop := by
  unfold CodexRun.stop
  split <;> exact .of_eq rfl rfl

theorem goesOn_waitStep (result : WaitResult) : r.GoesOn (r.waitStep result) := by
  unfold CodexRun.waitStep
  split <;> rename_i hw
  · split
    · exact ⟨.inl rfl, by simp [hw], by simp [hw, Wait.rank]⟩
    · exact .of_eq rfl rfl
  · exact ⟨.inl rfl, by simp [hw], by simp [hw, Wait.rank]⟩
  · exact ⟨.inl rfl, by simp [hw], by simp [hw, Wait.rank]⟩
  · exact ⟨.inl rfl, by simp [hw], by simp [hw, Wait.rank]⟩
  · split
    · exact ⟨.inl rfl, by simp [hw], by simp [hw, Wait.rank]⟩
    · exact .of_eq rfl rfl
  · refine ⟨.inl rfl, ?_, ?_⟩ <;> simp only [hw] <;> split <;> simp [Wait.rank]
  · split
    · exact ⟨.inl rfl, by simp [hw], by simp [hw, Wait.rank]⟩
    · exact .of_eq rfl rfl
  · exact .of_eq rfl rfl

/-- Every event of a run goes on with it. -/
theorem goesOn_inner (e : CodexEvent) : r.GoesOn (r.inner e) := by
  cases e with
  | write data => exact .of_eq rfl rfl
  | eof =>
      simp only [CodexRun.inner, CodexRun.eof]
      split <;> exact .of_eq rfl rfl
  | copierStop =>
      simp only [CodexRun.inner, CodexRun.copierStop]
      split
      · exact .of_eq rfl rfl
      · exact ⟨goesOn_stop.process, goesOn_stop.off, goesOn_stop.rank⟩
      · exact .of_eq rfl rfl
  | deadline => exact .of_eq rfl rfl
  | exit =>
      simp only [CodexRun.inner, CodexRun.exit]
      split
      · rename_i hp; exact ⟨.inr ⟨hp, rfl⟩, Iff.rfl, Nat.le_refl _⟩
      · exact .of_eq rfl rfl
  | kill =>
      simp only [CodexRun.inner, CodexRun.kill]
      split <;> exact .of_eq rfl rfl
  | watch viaStop =>
      simp only [CodexRun.inner, CodexRun.watch]
      split
      · repeat' split
        all_goals exact .of_eq rfl rfl
      · exact .of_eq rfl rfl
      · exact ⟨goesOn_stop.process, goesOn_stop.off, goesOn_stop.rank⟩
      · exact .of_eq rfl rfl
  | wait result => exact goesOn_waitStep result

end CodexRun

/-- What holds of the Codex part of a session in every reachable state: at
most one run is not released, it is the last one, and it is the current
one. -/
structure CodexWf (v : CodexView) : Prop where
  run : ∀ {i : Nat} {r : CodexRun}, v.runs[i]? = some r → r.Wf
  phase : ∀ {i : Nat} {r : CodexRun}, v.runs[i]? = some r → Phase v.run i r
  live : ∀ {i : Nat} {r : CodexRun}, v.runs[i]? = some r → r.live = true → v.current = some i
  onRun : ∀ {i : Nat}, v.run.onRun = some i → i < v.runs.length
  onStop : ∀ {i : Nat}, v.stop.onRun = some i → i < v.runs.length
  active : v.active = v.current.isSome
  current : ∀ {i : Nat}, v.current = some i → i + 1 = v.runs.length

namespace CodexWf

variable {v : CodexView}

theorem of_stop (h : CodexWf v) {next : SessionStop}
    (hnext : ∀ {i : Nat}, next.onRun = some i → i < v.runs.length) :
    CodexWf { v with stop := next } :=
  ⟨h.run, h.phase, h.live, h.onRun, hnext, h.active, h.current⟩

/-- A step that changes the run `i` and moves `startCodex`. -/
theorem of_modify (h : CodexWf v) {i : Nat} {f : CodexRun → CodexRun} {pc : RunPc}
    (hpc : pc = v.run ∨ ∀ j, j ≠ i → v.run.starting ≠ some j ∧ pc.starting ≠ some j)
    (honRun : ∀ {j : Nat}, pc.onRun = some j → j < v.runs.length)
    (hrun : ∀ {r : CodexRun}, v.runs[i]? = some r →
      (f r).Wf ∧ Phase pc i (f r) ∧ ((f r).live = true → r.live = true)) :
    CodexWf { v.modify i f with run := pc } := by
  have hlen : (v.runs.modify i f).length = v.runs.length := List.length_modify ..
  refine ⟨fun hr => ?_, fun {j r} hr => ?_, fun hr hlive => ?_, fun hj => ?_, fun hj => ?_,
    h.active, fun hc => ?_⟩
  · rcases CodexView.modify_cases hr with ⟨rfl, r₀, hr₀, rfl⟩ | ⟨-, hr⟩
    · exact (hrun hr₀).1
    · exact h.run hr
  · show Phase pc j r
    rcases CodexView.modify_cases hr with ⟨rfl, r₀, hr₀, rfl⟩ | ⟨hj, hold⟩
    · exact (hrun hr₀).2.1
    · rcases hpc with hsame | hpc
      · rw [hsame]; exact h.phase hold
      · exact (h.phase hold).elsewhere (hpc j hj).1 (hpc j hj).2
  · rcases CodexView.modify_cases hr with ⟨rfl, r₀, hr₀, rfl⟩ | ⟨-, hr⟩
    · exact h.live hr₀ ((hrun hr₀).2.2 hlive)
    · exact h.live hr hlive
  · exact Nat.lt_of_lt_of_eq (honRun hj) hlen.symm
  · exact Nat.lt_of_lt_of_eq (h.onStop hj) hlen.symm
  · exact (h.current hc).trans hlen.symm

/-- `run` goes on without touching a run. -/
theorem of_run (h : CodexWf v) {pc : RunPc}
    (hphase : ∀ {i : Nat} {r : CodexRun}, v.runs[i]? = some r → Phase pc i r)
    (honRun : ∀ {j : Nat}, pc.onRun = some j → j < v.runs.length) :
    CodexWf { v with run := pc } :=
  ⟨h.run, hphase, h.live, honRun, h.onStop, h.active, h.current⟩

/-- Only a run that is not live is released. -/
theorem of_clear (h : CodexWf v) {i : Nat}
    (hdead : ∀ {r : CodexRun}, v.runs[i]? = some r → r.live = false) : CodexWf (v.clear i) := by
  unfold CodexView.clear
  split
  · rename_i hc
    refine ⟨h.run, h.phase, fun {j r} hr hlive => ?_, h.onRun, h.onStop, rfl, by simp⟩
    have := h.live hr hlive
    rw [hc, Option.some.injEq] at this
    rw [this] at hdead
    rw [hdead hr] at hlive
    exact absurd hlive (by simp)
  · exact h

/-- A step of the goroutines of run `i`. -/
theorem of_goesOn (h : CodexWf v) {i : Nat} {f : CodexRun → CodexRun}
    (hrun : ∀ {r : CodexRun}, v.runs[i]? = some r → (f r).Wf ∧ r.GoesOn (f r)) :
    CodexWf (v.modify i f) :=
  h.of_modify (.inl rfl) h.onRun fun hr =>
    ⟨(hrun hr).1, (h.phase hr).goesOn (hrun hr).2, (hrun hr).2.live⟩

/-- The new run is the last one and the current one. -/
theorem of_create (h : CodexWf v) (hactive : v.active = false) (hstarting : v.run.starting = none)
    (requestID : Bytes) :
    CodexWf ⟨v.runs ++ [newCodexRun requestID], some v.runs.length, true, .start v.runs.length,
      v.stop⟩ := by
  have hnone : v.current = none := by
    have := h.active
    rw [hactive] at this
    simpa using this.symm
  have hcases : ∀ {j : Nat} {r : CodexRun}, (v.runs ++ [newCodexRun requestID])[j]? = some r →
      (j = v.runs.length ∧ r = newCodexRun requestID) ∨
        (j < v.runs.length ∧ v.runs[j]? = some r) := by
    intro j r hr
    rw [List.getElem?_append] at hr
    split at hr
    · rename_i hlt; exact .inr ⟨hlt, hr⟩
    · rename_i hge
      have hj : j - v.runs.length = 0 := by
        have := (List.getElem?_eq_some_iff.mp hr).1
        simpa using this
      rw [hj, List.getElem?_cons_zero, Option.some.injEq] at hr
      exact .inl ⟨by omega, hr.symm⟩
  refine ⟨fun hr => ?_, fun {j r} hr => ?_, fun {j r} hr hlive => ?_, fun {j} hj => ?_,
    fun {j} hj => ?_, rfl, fun {j} hj => ?_⟩
  · rcases hcases hr with ⟨-, rfl⟩ | ⟨-, hr⟩
    · exact CodexRun.wf_new requestID
    · exact h.run hr
  · rcases hcases hr with ⟨rfl, rfl⟩ | ⟨hlt, hr⟩
    · exact ⟨by simp [newCodexRun], by simp, by simp [newCodexRun, CodexRun.hasProcess]⟩
    · refine (h.phase hr).elsewhere (by rw [hstarting]; simp) ?_
      simp only [RunPc.starting, ne_eq, Option.some.injEq]
      omega
  · rcases hcases hr with ⟨rfl, rfl⟩ | ⟨hlt, hr⟩
    · rfl
    · rw [h.live hr hlive] at hnone
      cases hnone
  · simp only [RunPc.onRun, Option.some.injEq] at hj
    simp [← hj]
  · exact Nat.lt_of_lt_of_le (h.onStop hj) (by simp)
  · simp only [Option.some.injEq] at hj
    simp [← hj]

/-- `startCodex` works on run `i` before the step, and on it or on none
after. -/
theorem other_run {i : Nat} (pc : RunPc) (hfrom : v.run.starting = some i)
    (hto : pc.starting = some i ∨ pc.starting = none) (j : Nat) (hj : j ≠ i) :
    v.run.starting ≠ some j ∧ pc.starting ≠ some j := by
  refine ⟨fun h => hj (by rw [hfrom] at h; exact (Option.some.inj h).symm), fun h => ?_⟩
  rcases hto with hto | hto <;> rw [hto] at h
  · exact hj (Option.some.inj h).symm
  · cases h

/-- Without a process nobody waits. -/
theorem off_of_no_process {r : CodexRun} (h : r.Wf) (hp : r.hasProcess = false) :
    r.wait = .off := by
  by_contra hne
  rw [h.waiting hne] at hp
  cases hp

/-- `startCodex` moves while it works on run `i`. -/
theorem of_start_moves (h : CodexWf v) {i : Nat} {f : CodexRun → CodexRun} {pc : RunPc}
    (hfrom : v.run.starting = some i) (honRun : v.run.onRun = some i)
    (hto : pc.onRun = some i ∧ pc.starting = some i ∨ pc.onRun = none)
    (hrun : ∀ {r : CodexRun}, v.runs[i]? = some r →
      (f r).Wf ∧ Phase pc i (f r) ∧ ((f r).live = true → r.live = true)) :
    CodexWf { v.modify i f with run := pc } := by
  refine h.of_modify (.inr (other_run _ hfrom ?_)) (fun {j} hj => ?_) hrun
  · exact hto.imp And.right RunPc.starting_of_onRun
  · rcases hto with ⟨hon, -⟩ | hnone
    · rw [hon] at hj
      obtain rfl := Option.some.inj hj
      exact h.onRun honRun
    · rw [hnone] at hj
      cases hj

/-- The process of the run has started. -/
theorem of_start (h : CodexWf v) {i : Nat} (hrun : v.run = .start i) :
    CodexWf { v.modify i fun r => { r with process := .running, copier := .copying } with
      run := .announce i } := by
  refine h.of_start_moves (by rw [hrun]; rfl) (by rw [hrun]; rfl) (.inl ⟨rfl, rfl⟩) fun {r} hr => ?_
  have hp := (h.phase hr).start.mpr hrun
  have hw := h.run hr
  have hoff := off_of_no_process hw (by simp [CodexRun.hasProcess, hp])
  refine ⟨?_, ⟨by simp, by simp, by simp [CodexRun.hasProcess, hoff]⟩, fun _ => ?_⟩
  · exact ⟨by simp [CodexRun.hasProcess], hw.watcher, fun _ => rfl, by simp [hoff, Wait.rank],
      hw.reason, hw.watcherStop, hw.ctx, hw.watched⟩
  · simp [CodexRun.live, hp]

theorem of_startFails (h : CodexWf v) {i : Nat} (hrun : v.run = .start i) :
    CodexWf { v.modify i fun r => { r with process := .failed } with run := .startFailed i } := by
  refine h.of_start_moves (by rw [hrun]; rfl) (by rw [hrun]; rfl) (.inl ⟨rfl, rfl⟩) fun {r} hr => ?_
  have hp := (h.phase hr).start.mpr hrun
  have hw := h.run hr
  have hhas : r.hasProcess = false := by simp [CodexRun.hasProcess, hp]
  have hoff := off_of_no_process hw hhas
  have hcopier := hw.copier.mpr hhas
  refine ⟨?_, ⟨by simp, by simp, by simp [CodexRun.hasProcess]⟩, by simp [CodexRun.live]⟩
  exact ⟨by simp [CodexRun.hasProcess, hcopier], hw.watcher, fun hne => absurd hoff hne,
    by simp [hoff, Wait.rank], hw.reason, hw.watcherStop, hw.ctx, hw.watched⟩

/-- A run that has failed is forgotten. -/
theorem of_drop (h : CodexWf v) {i : Nat} (hrun : v.run = .startFailed i) :
    CodexWf { (v.modify i .cancel).clear i with run := .reportStart i } := by
  have hfailed : ∀ {r : CodexRun}, v.runs[i]? = some r → r.process = .failed :=
    fun hr => (h.phase hr).failed (.inl hrun)
  have hcancel : CodexWf { v.modify i .cancel with run := .reportStart i } := by
    refine h.of_start_moves (by rw [hrun]; rfl) (by rw [hrun]; rfl) (.inl ⟨rfl, rfl⟩)
      fun {r} hr => ?_
    have hp := hfailed hr
    have hp' : r.cancel.process = .failed := hp
    exact ⟨(h.run hr).endContext .canceled,
      ⟨by simp [hp'], fun _ => hp', by simp [CodexRun.hasProcess, hp']⟩, id⟩
  have hclear := hcancel.of_clear (i := i) fun {r} hr => by
    rcases CodexView.modify_cases hr with ⟨-, r₀, hr₀, rfl⟩ | ⟨hne, -⟩
    · simp [CodexRun.live, CodexRun.cancel, CodexRun.endContext, hfailed hr₀]
    · exact absurd rfl hne
  unfold CodexView.clear at hclear ⊢
  split at hclear
  · rename_i hc; rw [if_pos hc]; exact hclear
  · rename_i hc; rw [if_neg hc]; exact hclear

theorem of_report (h : CodexWf v) {i : Nat} (hrun : v.run = .reportStart i) :
    CodexWf { v with run := .select } := by
  refine h.of_run (fun {j r} hr => ?_) (by simp [RunPc.onRun])
  by_cases hj : j = i
  · subst hj
    have hp := (h.phase hr).failed (.inr hrun)
    exact ⟨by simp [hp], by simp, by simp [CodexRun.hasProcess, hp]⟩
  · have hother := other_run (v := v) .select (by rw [hrun]; rfl) (.inr rfl) j hj
    exact (h.phase hr).elsewhere hother.1 hother.2

theorem of_announce (h : CodexWf v) {i : Nat} (hrun : v.run = .announce i) :
    CodexWf { v with run := .spawn i } := by
  refine h.of_run (fun {j r} hr => ?_) fun hj => h.onRun (by rw [hrun]; exact hj)
  by_cases hj : j = i
  · subst hj
    have hstarted := (h.phase hr).started.mpr (.inl hrun)
    have hstart := (h.phase hr).start
    exact ⟨by rw [hstart, hrun]; simp, by simp, by simpa using hstarted⟩
  · have hother := other_run (v := v) (.spawn i) (by rw [hrun]; rfl) (.inl rfl) j hj
    exact (h.phase hr).elsewhere hother.1 hother.2

/-- The goroutines of the run have started. -/
theorem of_spawn (h : CodexWf v) {i : Nat} (hrun : v.run = .spawn i) :
    CodexWf { v.modify i fun r => { r with watcher := .select, wait := .cmdWait } with
      run := .select } := by
  refine h.of_start_moves (by rw [hrun]; rfl) (by rw [hrun]; rfl) (.inr rfl) fun {r} hr => ?_
  obtain ⟨hhas, hoff⟩ := (h.phase hr).started.mpr (.inr hrun)
  have hw := h.run hr
  have hstart := (h.phase hr).start
  refine ⟨?_, ⟨by rw [hstart, hrun]; simp, by simp, by simp⟩, fun hlive => ?_⟩
  · exact ⟨hw.copier, by simp, fun _ => hhas, by simp [Wait.rank], by simp [Wait.rank],
      hw.watcherStop, by simp [Wait.rank], by simp [Wait.rank]⟩
  · unfold CodexRun.live at hlive ⊢
    simp only [hoff, Wait.rank, Nat.zero_le, decide_true] at hlive ⊢
    split <;> simp_all

/-- `run` stops run `i`, on its way or for good. -/
theorem of_cancel (h : CodexWf v) {i : Nat} {f : CodexRun → CodexRun} {pc : RunPc}
    (hfrom : v.run.starting = none) (hto : pc.starting = none)
    (honRun : v.run.onRun = some i ∧ pc.onRun = some i ∨ pc.onRun = none)
    (hrun : ∀ {r : CodexRun}, v.runs[i]? = some r → (f r).Wf ∧ r.GoesOn (f r)) :
    CodexWf { v.modify i f with run := pc } := by
  refine h.of_modify (.inr fun j _ => by rw [hfrom, hto]; simp) (fun {j} hj => ?_) fun hr => ?_
  · rcases honRun with ⟨hon, hon'⟩ | hnone
    · exact h.onRun (by rw [hon, ← hon', hj])
    · rw [hnone] at hj
      cases hj
  · obtain ⟨hwf, hgo⟩ := hrun hr
    refine ⟨hwf, ((h.phase hr).goesOn hgo).elsewhere ?_ ?_, hgo.live⟩
    · rw [hfrom]; simp
    · rw [hto]; simp

/-- The copying goroutine leaves its loop. -/
theorem of_copier (h : CodexWf v) {i : Nat} {r : CodexRun} (hr : v.runs[i]? = some r)
    (hcopier : r.copier = .copying) (total : CodexRun → Nat) {c : Copier} (hc : c ≠ .off) :
    CodexWf (v.modify i fun r => { r with total := total r, copier := c }) := by
  refine h.of_goesOn fun hr' => ?_
  obtain rfl := Option.some.inj (hr.symm.trans hr')
  have hw := (h.run hr).copierMoves (by rw [hcopier]; decide) (by rw [hcopier]; decide) hc
  exact ⟨⟨hw.copier, hw.watcher, hw.waiting, hw.exited, hw.reason, hw.watcherStop, hw.ctx,
    hw.watched⟩, .of_eq rfl rfl⟩

theorem of_output (h : CodexWf v) {i : Nat} (total : CodexRun → Nat) :
    CodexWf (v.modify i fun r => { r with total := total r }) :=
  h.of_goesOn fun hr =>
    have hw := h.run hr
    ⟨⟨hw.copier, hw.watcher, hw.waiting, hw.exited, hw.reason, hw.watcherStop, hw.ctx, hw.watched⟩,
      .of_eq rfl rfl⟩

/-- The last statements of `waitCodex`. -/
theorem of_waitNext (h : CodexWf v) {i : Nat} {r : CodexRun} (hr : v.runs[i]? = some r) {w : Wait}
    (hrank : 6 ≤ r.wait.rank) (hle : r.wait.rank ≤ w.rank) :
    CodexWf (v.modify i fun r => { r with wait := w }) := by
  have hoff : w ≠ .off := fun hw => by
    rw [hw] at hle
    exact absurd (Nat.le_trans hrank hle) (by decide)
  refine h.of_goesOn fun hr' => ?_
  obtain rfl := Option.some.inj (hr.symm.trans hr')
  refine ⟨(h.run hr).waitNext hrank hoff, .inl rfl, iff_of_false hoff fun hw => ?_, hle⟩
  rw [hw] at hrank
  exact absurd hrank (by decide)

/-- A run is released when its process has been waited for. -/
theorem of_release (h : CodexWf v) {i : Nat} {r : CodexRun} (hr : v.runs[i]? = some r)
    (hwait : r.wait = .clear) :
    CodexWf ((v.clear i).modify i fun r => { r with wait := .terminal }) := by
  rw [CodexView.modify_clear]
  have hnext := h.of_waitNext hr (w := .terminal) (by rw [hwait]; decide) (by rw [hwait]; decide)
  refine hnext.of_clear fun {r'} hr' => ?_
  rw [CodexView.modify_self hr, Option.some.injEq] at hr'
  have hexited := ((h.run hr).exited (by rw [hwait]; decide)).1
  rw [← hr']
  simp [CodexRun.live, hexited, Wait.rank]

variable {cfg : Config} {s : Session} {e : SessionEvent} {sent : List (Nat × ServerMessage)}

/-- **One step** of the session. -/
theorem step (h : CodexWf s.codex) (hstep : CodexStep cfg s e v sent) : CodexWf v := by
  cases hstep with
  | keep => exact h
  | goOn hfrom hto hended =>
      have hfrom' : s.codex.run.starting = none := RunPc.starting_of_onRun hfrom
      have hto' := RunPc.starting_of_onRun hto
      exact h.of_run (fun hr => (h.phase hr).elsewhere (by rw [hfrom']; simp) (by rw [hto']; simp))
        (by rw [hto]; simp)
  | create hrun haction hactive =>
      have hstarting : s.codex.run.starting = none := by
        show s.run.starting = none
        rw [hrun]; rfl
      exact h.of_create hactive hstarting _
  | cancel hrun haction hcurrent =>
      have hstarting : s.codex.run.starting = none := by
        show s.run.starting = none
        rw [hrun]; rfl
      refine h.of_run (fun hr => (h.phase hr).elsewhere (by rw [hstarting]; simp) ?_) fun hj => ?_
      · simp [RunPc.starting]
      · obtain rfl := Option.some.inj hj
        exact Nat.lt_of_succ_le (Nat.le_of_eq (h.current hcurrent))
  | start hrun hctx => exact h.of_start hrun
  | startFails hrun => exact h.of_startFails hrun
  | drop hrun => exact h.of_drop hrun
  | report hrun haccepts => exact h.of_report hrun
  | reportRefused hrun haccepts => exact h.of_report hrun
  | announce hrun haccepts => exact h.of_announce hrun
  | announceRefused hrun haccepts => exact h.of_announce hrun
  | spawn hrun => exact h.of_spawn hrun
  | cancelReason hrun =>
      have hpc : s.codex.run = _ := hrun
      exact h.of_cancel (by rw [hpc]; rfl) rfl (.inl ⟨by rw [hpc]; rfl, rfl⟩)
        fun hr => ⟨(h.run hr).setReason _, .of_eq rfl rfl⟩
  | cancelOnce hrun =>
      have hpc : s.codex.run = _ := hrun
      exact h.of_cancel (by rw [hpc]; rfl) rfl (.inr rfl)
        fun hr => ⟨(h.run hr).stop, CodexRun.goesOn_stop⟩
  | stopCalled hidle => exact h.of_stop (by simp [SessionStop.onRun])
  | stopNone hstop hcurrent => exact h.of_stop (by simp [SessionStop.onRun])
  | stopCurrent hstop hcurrent =>
      refine h.of_stop fun hj => ?_
      obtain rfl := Option.some.inj hj
      exact Nat.lt_of_succ_le (Nat.le_of_eq (h.current hcurrent))
  | stopReason hstop =>
      rename_i i
      have hset := h.of_goesOn (i := i) (f := (·.setReason .session))
        fun hr => ⟨(h.run hr).setReason _, .of_eq rfl rfl⟩
      exact hset.of_stop fun hj =>
        hset.onStop (by show s.sessionStop.onRun = _; rw [hstop]; exact hj)
  | stopOnce hstop =>
      exact (h.of_goesOn fun hr => ⟨(h.run hr).stop, CodexRun.goesOn_stop⟩).of_stop
        (by simp [SessionStop.onRun])
  | stopGoesOn hstop =>
      refine h.of_stop ?_
      rcases hstop with ⟨-, rfl⟩ | ⟨-, rfl⟩ <;> simp [SessionStop.onRun]
  | output hr hcopier htext haccepts => exact h.of_output _
  | outputRefused hr hcopier htext haccepts => exact h.of_copier hr hcopier _ (by decide)
  | overflow hr hcopier => exact h.of_copier hr hcopier (·.total) (by decide)
  | inner => exact h.of_goesOn fun hr => ⟨(h.run hr).inner _, CodexRun.goesOn_inner _⟩
  | release hr hwait => exact h.of_release hr hwait
  | conclude hr hwait hm haccepts =>
      exact h.of_waitNext hr (by rw [hwait]; decide) (by rw [hwait]; decide)
  | concludeSilent hr hwait hm =>
      exact h.of_waitNext hr (by rw [hwait]; decide) (by rw [hwait]; decide)

end CodexWf

/-! ## Stopping a run -/

/-- A goroutine of the run is inside `stop`, or the body of `stopOnce` has
run. -/
def CodexRun.stopping (r : CodexRun) : Bool :=
  r.stopOnce ||
    (match r.copier with
      | .setReason _ | .once => true
      | _ => false) ||
    match r.watcher with
    | .setReason _ | .once => true
    | _ => false

/-- The run `cancelCodex` is stopping for the client. -/
def RunPc.stopping : RunPc → Option Nat
  | .cancelReason i _ | .cancelOnce i => some i
  | _ => none

/-- `run.stop` has been called for run `i`, by whichever goroutine. -/
def StopEntered (v : CodexView) (i : Nat) : Prop :=
  v.run.stopping = some i ∨ v.stop.onRun = some i ∨ (v.runs[i]?).any (·.stopping) = true

instance (v : CodexView) (i : Nat) : Decidable (StopEntered v i) :=
  inferInstanceAs (Decidable (_ ∨ _ ∨ _))

namespace CodexRun

variable {r : CodexRun}

theorem stopping_stop : r.stop.stopping = true := by
  unfold CodexRun.stop
  split
  · rename_i h; simp [stopping, h]
  · simp [stopping]

theorem stop_watcher : r.stop.watcher = r.watcher := by
  unfold CodexRun.stop
  split <;> rfl

theorem stop_reason (r : CodexRun) : r.stop.reason = r.reason := by
  unfold CodexRun.stop
  split <;> rfl

theorem stop_wait (r : CodexRun) : r.stop.wait = r.wait := by
  unfold CodexRun.stop
  split <;> rfl

theorem stop_stopOnce : r.stop.stopOnce = true := by
  unfold CodexRun.stop
  split
  · assumption
  · rfl

/-- A call of `stop` is not taken back. -/
theorem stopping_inner (h : r.stopping = true) (e : CodexEvent) : (r.inner e).stopping = true := by
  cases e with
  | write data => exact h
  | eof =>
      simp only [inner, eof]
      split
      · rename_i hc; simpa [stopping, hc] using h
      · exact h
  | copierStop =>
      simp only [inner, copierStop]
      split
      · simp [stopping]
      · simp [stopping, stop_stopOnce]
      · exact h
  | deadline => exact h
  | exit =>
      simp only [inner, CodexRun.exit]
      split <;> exact h
  | kill =>
      simp only [inner, kill]
      split <;> exact h
  | watch viaStop =>
      simp only [inner, watch]
      split
      · rename_i hw
        repeat' split
        all_goals simp_all [stopping]
      · simp [stopping]
      · simp [stopping, stop_stopOnce]
      · exact h
  | wait result =>
      simp only [inner, waitStep]
      repeat' split
      all_goals exact h

end CodexRun

namespace StopEntered

variable {v : CodexView} {i : Nat}

/-- The run itself has a `stop` under way. -/
theorem of_run {r : CodexRun} (hr : v.runs[i]? = some r) (h : r.stopping = true) :
    StopEntered v i :=
  .inr (.inr (by rw [hr]; exact h))

/-- A change of one run that does not take a call back. -/
theorem of_modify (h : (v.runs[i]?).any (·.stopping) = true) {j : Nat} {f : CodexRun → CodexRun}
    (hf : ∀ {r : CodexRun}, v.runs[j]? = some r → r.stopping = true → (f r).stopping = true) :
    ((v.modify j f).runs[i]?).any (·.stopping) = true := by
  obtain ⟨r, hr, hstop⟩ := Option.any_eq_true _ _ |>.mp h
  by_cases hj : i = j
  · subst hj
    rw [CodexView.modify_self hr]
    exact hf hr hstop
  · rw [CodexView.modify_other v hj, hr]
    exact hstop

/-- A change of one run, with `run` and the body of `stop` where they were
as far as stopping goes. -/
theorem modify (h : StopEntered v i) {j : Nat} {f : CodexRun → CodexRun} {pc : RunPc}
    (hpc : v.run.stopping = some i → pc.stopping = some i)
    (hf : ∀ {r : CodexRun}, v.runs[j]? = some r → r.stopping = true → (f r).stopping = true) :
    StopEntered { v.modify j f with run := pc } i := by
  rcases h with hrun | hstop | hr
  · exact .inl (hpc hrun)
  · exact .inr (.inl hstop)
  · exact .inr (.inr (of_modify hr hf))

/-- The caller who is about to run the body of `stopOnce` runs it. -/
theorem modify_stop (h : StopEntered v i) {j : Nat} (hj : j < v.runs.length) {pc : RunPc}
    {next : SessionStop} (hpc : v.run.stopping = some i → pc.stopping = some i ∨ i = j)
    (hstop : v.stop.onRun = some i → next.onRun = some i ∨ i = j) :
    StopEntered ⟨v.runs.modify j .stop, v.current, v.active, pc, next⟩ i := by
  have hdone : i = j → StopEntered ⟨v.runs.modify j .stop, v.current, v.active, pc, next⟩ i := by
    rintro rfl
    exact of_run (CodexView.modify_self (List.getElem?_eq_getElem hj) _) CodexRun.stopping_stop
  rcases h with hrun | hs | hr
  · rcases hpc hrun with hrun | hij
    · exact .inl hrun
    · exact hdone hij
  · rcases hstop hs with hs | hij
    · exact .inr (.inl hs)
    · exact hdone hij
  · exact .inr (.inr (of_modify hr fun _ _ => CodexRun.stopping_stop))

variable {cfg : Config} {s : Session} {e : SessionEvent} {sent : List (Nat × ServerMessage)}

/-- A call of `stop` stays entered until its body has run, and then the
body has run. -/
theorem step (hwf : CodexWf s.codex) (h : StopEntered s.codex i)
    (hstep : CodexStep cfg s e v sent) : StopEntered v i := by
  -- `run` not inside `cancelCodex`, so it is not the caller
  have hnot : ∀ {pc : RunPc}, s.run.stopping = none → s.codex.run.stopping = some i →
      pc.stopping = some i := by
    intro pc hnone hsome
    rw [show s.codex.run = s.run from rfl, hnone] at hsome
    cases hsome
  cases hstep with
  | keep => exact h
  | goOn hfrom hto hended =>
      have hnone : s.run.stopping = none := by
        revert hfrom
        cases s.run <;> simp [RunPc.onRun, RunPc.stopping]
      rcases h with hrun | hrest
      · exact .inl (hnot hnone hrun)
      · exact .inr hrest
  | create hrun haction hactive =>
      rcases h with hpc | hstop | hr
      · exact .inl (hnot (by rw [hrun]; rfl) hpc)
      · exact .inr (.inl hstop)
      · obtain ⟨r, hr, hr'⟩ := (Option.any_eq_true _ _).mp hr
        have hr : s.runs[i]? = some r := hr
        refine of_run (r := r) ?_ hr'
        show (s.runs ++ [_])[i]? = some r
        rw [List.getElem?_append_left (List.getElem?_eq_some_iff.mp hr).1, hr]
  | cancel hrun haction hcurrent =>
      rcases h with hpc | hrest
      · exact .inl (hnot (by rw [hrun]; rfl) hpc)
      · exact .inr hrest
  | start hrun hctx =>
      refine h.modify (hnot (by rw [hrun]; rfl)) fun hr hstop => ?_
      have := (hwf.run hr).copier.mpr (by simp [CodexRun.hasProcess, (hwf.phase hr).start.mpr hrun])
      simpa [CodexRun.stopping, this] using hstop
  | startFails hrun => exact h.modify (hnot (by rw [hrun]; rfl)) fun _ => id
  | drop hrun =>
      rcases h with hpc | hstop | hr
      · exact .inl (hnot (by rw [hrun]; rfl) hpc)
      · exact .inr (.inl (by simpa using hstop))
      · refine .inr (.inr ?_)
        simp only [CodexView.clear_runs]
        exact of_modify hr fun _ => id
  | report hrun haccepts => exact h.imp (hnot (by rw [hrun]; rfl)) id
  | reportRefused hrun haccepts => exact h.imp (hnot (by rw [hrun]; rfl)) id
  | announce hrun haccepts => exact h.imp (hnot (by rw [hrun]; rfl)) id
  | announceRefused hrun haccepts => exact h.imp (hnot (by rw [hrun]; rfl)) id
  | spawn hrun =>
      refine h.modify (hnot (by rw [hrun]; rfl)) fun hr hstop => ?_
      have hoff := ((hwf.phase hr).started.mpr (.inr hrun)).2
      have := (hwf.run hr).watcher.mpr hoff
      simpa [CodexRun.stopping, this] using hstop
  | cancelReason hrun =>
      refine h.modify (fun hpc => ?_) fun _ => id
      rwa [show s.codex.run = _ from hrun] at hpc
  | cancelOnce hrun =>
      refine h.modify_stop (hwf.onRun (by show s.run.onRun = _; rw [hrun]; rfl))
        (fun hpc => ?_) .inl
      rw [show s.codex.run = _ from hrun] at hpc
      exact .inr (Option.some.inj hpc).symm
  | stopCalled hidle =>
      refine h.imp id (Or.imp (fun hs => ?_) id)
      rw [show s.codex.stop = _ from hidle] at hs
      cases hs
  | stopNone hstop hcurrent =>
      refine h.imp id (Or.imp (fun hs => ?_) id)
      rw [show s.codex.stop = _ from hstop] at hs
      cases hs
  | stopCurrent hstop hcurrent =>
      refine h.imp id (Or.imp (fun hs => ?_) id)
      rw [show s.codex.stop = _ from hstop] at hs
      cases hs
  | stopReason hstop =>
      rcases h with hpc | hs | hr
      · exact .inl hpc
      · rw [show s.codex.stop = _ from hstop] at hs
        exact .inr (.inl hs)
      · exact .inr (.inr (of_modify hr fun _ => id))
  | stopOnce hstop =>
      refine h.modify_stop (hwf.onStop (by show s.sessionStop.onRun = _; rw [hstop]; rfl)) .inl
        (fun hs => ?_)
      rw [show s.codex.stop = _ from hstop] at hs
      exact .inr (Option.some.inj hs).symm
  | stopGoesOn hstop =>
      refine h.imp id (Or.imp (fun hs => ?_) id)
      rcases hstop with ⟨hstop, -⟩ | ⟨hstop, -⟩ <;> rw [show s.codex.stop = _ from hstop] at hs <;>
        cases hs
  | output hr hcopier htext haccepts => exact h.modify id fun _ => id
  | outputRefused hr hcopier htext haccepts =>
      exact h.modify id fun _ _ => by simp [CodexRun.stopping]
  | overflow hr hcopier => exact h.modify id fun _ _ => by simp [CodexRun.stopping]
  | inner => exact h.modify id fun _ hstop => CodexRun.stopping_inner hstop _
  | release hr hwait =>
      rw [CodexView.modify_clear]
      rcases h with hpc | hstop | hr
      · exact .inl (by simpa using hpc)
      · exact .inr (.inl (by simpa using hstop))
      · exact .inr (.inr (by rw [CodexView.clear_runs]; exact of_modify hr fun _ => id))
  | conclude hr hwait hm haccepts => exact h.modify id fun _ => id
  | concludeSilent hr hwait hm => exact h.modify id fun _ => id

end StopEntered

/-! ## Where a run comes from -/

/-- A later state of the same run. -/
structure CodexRun.After (r r' : CodexRun) : Prop where
  requestID : r'.requestID = r.requestID
  exited : r.process = .exited → r'.process = .exited
  failed : r.process = .failed → r'.process = .failed

theorem CodexRun.After.refl (r : CodexRun) : r.After r := ⟨rfl, id, id⟩

theorem CodexRun.after_stop (r : CodexRun) : r.After r.stop := by
  unfold CodexRun.stop
  split <;> exact ⟨rfl, id, id⟩

theorem CodexRun.after_inner (r : CodexRun) (e : CodexEvent) : r.After (r.inner e) := by
  cases e with
  | write data => exact .refl r
  | eof => simp only [inner, eof]; split <;> exact ⟨rfl, id, id⟩
  | copierStop =>
      have hstop := r.after_stop
      simp only [inner, copierStop]
      split
      · exact ⟨rfl, id, id⟩
      · exact ⟨hstop.requestID, hstop.exited, hstop.failed⟩
      · exact .refl r
  | deadline => exact ⟨rfl, id, id⟩
  | exit =>
      simp only [inner, CodexRun.exit]
      split
      · rename_i hp; exact ⟨rfl, fun _ => rfl, by simp [hp]⟩
      · exact .refl r
  | kill => simp only [inner, kill]; split <;> exact ⟨rfl, id, id⟩
  | watch viaStop =>
      have hstop := r.after_stop
      simp only [inner, watch]
      split
      · repeat' split
        all_goals exact ⟨rfl, id, id⟩
      · exact ⟨rfl, id, id⟩
      · exact ⟨hstop.requestID, hstop.exited, hstop.failed⟩
      · exact .refl r
  | wait result =>
      simp only [inner, waitStep]
      repeat' split
      all_goals exact ⟨rfl, id, id⟩

/-- A run after a step was there before, or the step created it. -/
theorem CodexStep.origin {cfg : Config} {s : Session} {e : SessionEvent} {v : CodexView}
    {sent : List (Nat × ServerMessage)} (hwf : CodexWf s.codex) (hstep : CodexStep cfg s e v sent)
    {i : Nat} {r : CodexRun} (hr : v.runs[i]? = some r) :
    (∃ r₀, s.runs[i]? = some r₀ ∧ r₀.After r) ∨
      i = s.runs.length ∧ v.current = some i ∧ v.stop = s.sessionStop ∧
        s.codexActive = false ∧ ∃ data requestID, e = .run ∧ s.run = .handle data ∧
          clientAction cfg data = .prompt requestID ∧ r = newCodexRun requestID := by
  -- a change of one run
  have hmodify : ∀ {j : Nat} {f : CodexRun → CodexRun} (hr : (s.codex.modify j f).runs[i]? = some r)
      (hf : ∀ {r₀ : CodexRun}, s.runs[j]? = some r₀ → r₀.After (f r₀)),
      ∃ r₀, s.runs[i]? = some r₀ ∧ r₀.After r := by
    intro j f hr hf
    rcases CodexView.modify_cases hr with ⟨rfl, r₀, hr₀, rfl⟩ | ⟨-, hold⟩
    · exact ⟨r₀, hr₀, hf hr₀⟩
    · exact ⟨r, hold, .refl r⟩
  cases hstep with
  | create hrun haction hactive =>
      rcases Nat.lt_or_ge i s.runs.length with hlt | hge
      · rw [List.getElem?_append_left hlt] at hr
        exact .inl ⟨r, hr, .refl r⟩
      · rw [List.getElem?_append_right hge] at hr
        have hzero : i - s.runs.length = 0 := by
          simpa using (List.getElem?_eq_some_iff.mp hr).1
        rw [hzero, List.getElem?_cons_zero, Option.some.injEq] at hr
        have hi : i = s.runs.length := by omega
        exact .inr ⟨hi, by rw [hi], rfl, hactive, _, _, rfl, hrun, haction, hr.symm⟩
  | keep => exact .inl ⟨r, hr, .refl r⟩
  | goOn _ _ _ => exact .inl ⟨r, hr, .refl r⟩
  | cancel _ _ _ => exact .inl ⟨r, hr, .refl r⟩
  | report _ _ => exact .inl ⟨r, hr, .refl r⟩
  | reportRefused _ _ => exact .inl ⟨r, hr, .refl r⟩
  | announce _ _ => exact .inl ⟨r, hr, .refl r⟩
  | announceRefused _ _ => exact .inl ⟨r, hr, .refl r⟩
  | stopCalled _ => exact .inl ⟨r, hr, .refl r⟩
  | stopNone _ _ => exact .inl ⟨r, hr, .refl r⟩
  | stopCurrent _ _ => exact .inl ⟨r, hr, .refl r⟩
  | stopGoesOn _ => exact .inl ⟨r, hr, .refl r⟩
  | start hrun _ =>
      refine .inl (hmodify hr fun hr₀ => ?_)
      have hp := (hwf.phase hr₀).start.mpr hrun
      exact ⟨rfl, by simp [hp], by simp [hp]⟩
  | startFails hrun =>
      refine .inl (hmodify hr fun hr₀ => ?_)
      have hp := (hwf.phase hr₀).start.mpr hrun
      exact ⟨rfl, by simp [hp], by simp⟩
  | drop hrun =>
      rw [CodexView.clear_runs] at hr
      exact .inl (hmodify hr fun _ => ⟨rfl, id, id⟩)
  | spawn _ => exact .inl (hmodify hr fun _ => ⟨rfl, id, id⟩)
  | cancelReason _ => exact .inl (hmodify hr fun _ => ⟨rfl, id, id⟩)
  | cancelOnce _ => exact .inl (hmodify hr fun _ => CodexRun.after_stop _)
  | stopReason _ => exact .inl (hmodify hr fun _ => ⟨rfl, id, id⟩)
  | stopOnce _ => exact .inl (hmodify hr fun _ => CodexRun.after_stop _)
  | output _ _ _ _ => exact .inl (hmodify hr fun _ => ⟨rfl, id, id⟩)
  | outputRefused _ _ _ _ => exact .inl (hmodify hr fun _ => ⟨rfl, id, id⟩)
  | overflow _ _ => exact .inl (hmodify hr fun _ => ⟨rfl, id, id⟩)
  | inner => exact .inl (hmodify hr fun _ => CodexRun.after_inner _ _)
  | release _ _ =>
      rw [CodexView.modify_clear, CodexView.clear_runs] at hr
      exact .inl (hmodify hr fun _ => ⟨rfl, id, id⟩)
  | conclude _ _ _ _ => exact .inl (hmodify hr fun _ => ⟨rfl, id, id⟩)
  | concludeSilent _ _ _ => exact .inl (hmodify hr fun _ => ⟨rfl, id, id⟩)

theorem codexWf_new : CodexWf newSession.codex where
  run := by simp [newSession, Session.codex]
  phase := by simp [newSession, Session.codex]
  live := by simp [newSession, Session.codex]
  onRun := by simp [newSession, Session.codex, RunPc.onRun]
  onStop := by simp [newSession, Session.codex, SessionStop.onRun]
  active := rfl
  current := by simp [newSession, Session.codex]

theorem codexWf_step (cfg : Config) {s : Session} (h : CodexWf s.codex) (e : SessionEvent) :
    CodexWf (sessionStep cfg s e).1.codex :=
  h.step (sessionStep_codex cfg s e)

/-- The induction over a run of the session. -/
theorem codexWf_run (cfg : Config) (es : List SessionEvent) :
    CodexWf ((sessionMachine cfg).run es).codex :=
  (sessionMachine cfg).run_invariant (I := fun s => CodexWf s.codex) codexWf_new
    (fun _ e h => codexWf_step cfg h e) es

end Bootmux.Companion
