/-
Bootmux.AttachShield.ProgramTheorems — the shield's programs, alone and
among others.

Alone, the programs of a recovery and of a close do what `runRecovery` and
`closeSession` do (`run_recoveryProcess`, `run_closeProcess`). Among others,
`Steady` is what all their actions have in common, and each program has one
lemma that says that it is made of such actions.

A program alone is run by `Prog.run` from its first action to its last. Its
equation with the function of `Session` is proved for each part of a
recovery and of a close, and put together with `bind`; this is what connects
the interleaved model with the sequential one.

Among others, an action is `Calm` if it leaves what the other party relies
on, and `Steady` collects what every action of the daemon keeps: the journal
only grows, the state file is written by the daemon's own calls, and the
copy that it goes by changes at the end of an iteration only.
-/
import Bootmux.AttachShield.Programs

namespace Bootmux.AttachShield

open Bootmux.Lib

/-! ## Alone -/

section Alone

variable {σ α β : Type} (host : Host σ)

/-- What a session sees of a run. -/
def view (r : World σ × α) : Shield σ × α := (r.1.shield, r.2)

/-- A view of two programs is the view of the second after the first. -/
theorem view_bind (p : Process σ α) (f : α → Process σ β) (w : World σ) :
    view ((p >>= f).run w) = view ((f (p.run w).2).run (p.run w).1) := by
  rw [Prog.run_bind]

/-- One program after another. -/
theorem view_seq {p : Process σ α} {f : α → Process σ β} {r : Shield σ × α}
    {g : Shield σ × α → Shield σ × β} {w : World σ} (hp : view (p.run w) = r)
    (hf : ∀ a w, view ((f a).run w) = g (w.shield, a)) : view ((p >>= f).run w) = g r := by
  rw [view_bind, hf, ← hp]
  rfl

/-- A list of commands runs as in the recovery. -/
theorem shield_commands (list : List Command) (w : World σ) :
    ((commands host list).run w).1.shield = w.shield.run host list := by
  rw [commands, Prog.run_foldlM]
  induction list generalizing w with
  | nil => rfl
  | cons c list ih => exact ih _

/-- A loop whose body is that of a fold. -/
theorem view_foldlM {f : β → α → Process σ β} {g : Shield σ × β → α → Shield σ × β}
    (h : ∀ acc x w, view ((f acc x).run w) = g (w.shield, acc) x) (init : β) (xs : List α)
    (w : World σ) : view ((xs.foldlM f init).run w) = xs.foldl g (w.shield, init) := by
  induction xs generalizing init w with
  | nil => rfl
  | cons x xs ih =>
      rw [List.foldlM_cons, view_bind, ih, List.foldl_cons, ← h init x w]
      rfl

/-- The program of the anchor computes what the function of the recovery does.
-/
theorem view_pfInstall (iface : String) (pfWasEnabled : Bool) (w : World σ) :
    view ((pfInstallProcess host iface pfWasEnabled).run w) =
      pfInstallAnchor host iface pfWasEnabled w.shield := by
  cases pfWasEnabled <;> rfl

theorem view_block (baseline : Baseline) (untrusted : List String) (steps : Steps) (w : World σ) :
    view ((blockProcess host baseline untrusted steps).run w) =
      recoverBlock host baseline untrusted (w.shield, steps) := by
  refine view_foldlM (fun acc iface w => ?_) steps untrusted w
  have hinstall := view_pfInstall host iface baseline.pfEnabled w
  rw [view_bind, ← hinstall]
  rfl

theorem view_services (baseline : Baseline) (untrusted : List String) (steps : Steps)
    (w : World σ) :
    view ((servicesProcess host baseline untrusted steps).run w) =
      recoverServices host baseline untrusted (w.shield, steps) :=
  view_foldlM (fun _ _ _ => rfl) steps _ w

theorem view_routes (untrusted : List String) (steps : Steps) (w : World σ) :
    view ((routesProcess host untrusted steps).run w) =
      recoverRoutes host untrusted (w.shield, steps) :=
  view_foldlM (fun _ _ _ => rfl) steps _ w

theorem view_baseline (baseline : Baseline) (steps : Steps) (w : World σ) :
    view ((baselineProcess host baseline steps).run w) =
      recoverBaseline host baseline (w.shield, steps) := by
  rw [baselineProcess, view_bind, recoverBaseline, ← shield_commands]
  rfl

theorem view_wifi (baseline : Baseline) (steps : Steps) (w : World σ) :
    view ((wifiProcess host baseline steps).run w) =
      recoverWifi host baseline (w.shield, steps) := by
  have hask : (wifiProcess host baseline steps).run w =
      (if baseline.wifiDevice = "" ∨ host.associated w.host baseline.wifiDevice then
        pure (steps.set .q7 .skip)
      else do
        commands host (powerCycle baseline.wifiDevice)
        pure (steps.set .q7 .ok) : Process σ Steps).run w := rfl
  rw [hask, recoverWifi]
  change _ = if baseline.wifiDevice = "" ∨ host.associated w.host baseline.wifiDevice then _ else _
  split
  · rfl
  · rw [← shield_commands]
    rfl

theorem view_incomplete (baseline : Baseline) (steps : Steps) (w : World σ) :
    view ((incompleteProcess host baseline steps).run w) =
      recoverIncomplete host baseline (w.shield, steps) := by
  rw [incompleteProcess, recoverIncomplete]
  split
  · rw [← shield_commands]
    rfl
  · rfl

/-- A recovery that nobody disturbs is `run_recovery`. -/
theorem run_recoveryProcess (baseline : Baseline) (untrusted : List String) (w : World σ) :
    view ((recoveryProcess host baseline untrusted).run w) =
      runRecovery host baseline untrusted w.shield := by
  let finish (acc : Shield σ × Steps) : Shield σ × Steps :=
    (acc.1, acc.2.set .q9 (okIf ((host.defaultRoute acc.1.host).2 = baseline.wifiDevice)))
  let incomplete (acc : Shield σ × Steps) := finish (recoverIncomplete host baseline acc)
  let wifi (acc : Shield σ × Steps) := incomplete (recoverWifi host baseline acc)
  let again (acc : Shield σ × Steps) := wifi (recoverBaseline host baseline acc)
  let routes (acc : Shield σ × Steps) := again (recoverRoutes host untrusted acc)
  let services (acc : Shield σ × Steps) := routes (recoverServices host baseline untrusted acc)
  refine view_seq (g := services) (view_block host baseline untrusted [] w) fun steps w => ?_
  refine view_seq (g := routes) (view_services host baseline untrusted steps w) fun steps w => ?_
  refine view_seq (g := again) (view_routes host untrusted steps w) fun steps w => ?_
  refine view_seq (g := wifi) (view_baseline host baseline steps w) fun steps w => ?_
  refine view_seq (g := incomplete) (view_wifi host baseline steps w) fun steps w => ?_
  exact view_seq (g := finish) (view_incomplete host baseline steps w) fun steps w => rfl

/-- A rollback is a list of commands, none of which looks at the host. -/
theorem rollback_eq_runAll (s : σ) (journal : List Entry) :
    rollback host s journal = runAll host s (rollbackCommands journal) := by
  rw [rollback, rollbackCommands]
  generalize journal.reverse = entries
  induction entries generalizing s with
  | nil => rfl
  | cons entry entries ih =>
      have hentry : rollbackEntry host s entry = runAll host s (rollbackCommands [entry]) := by
        rw [rollbackEntry, rollbackCommands, List.reverse_singleton, List.flatMap_singleton]
        cases entry.pre with
        | none => split <;> rfl
        | some pre => split <;> rfl
      rw [List.foldl_cons, ih, List.flatMap_cons, hentry, rollbackCommands,
        List.reverse_singleton, List.flatMap_singleton]
      exact List.foldl_append.symm

theorem shield_restoreProcess (original shieldLocation : String) (w : World σ) :
    ((restoreProcess host original shieldLocation).run w).1.shield =
      restoreLocation host original shieldLocation w.shield := by
  rw [restoreProcess, Prog.run_bind]
  simp only [restoreLocation]
  by_cases hswitched : ((command host (.switchToLocation original)).run w).2 ≠ 0
  · have hcode : (host.run w.shield.host (.switchToLocation original)).2 ≠ 0 := hswitched
    rw [if_pos hswitched, if_pos hcode]
    rfl
  · have hcode : ¬(host.run w.shield.host (.switchToLocation original)).2 ≠ 0 := hswitched
    rw [if_neg hswitched, if_neg hcode, Prog.run_bind, shield_commands]
    rfl

/-- The program that leaves the location is `leaveLocation`. -/
theorem shield_leaveProcess (st : ShieldState) (w : World σ) :
    ((leaveProcess host st).run w).1.shield =
      if st.locationMode ∧ st.originalLocation ≠ "" ∧ st.shieldLocation ≠ "" then
        restoreLocation host st.originalLocation st.shieldLocation w.shield
      else w.shield := by
  rw [leaveProcess]
  split
  · exact shield_restoreProcess host _ _ w
  · rfl

/-- A close that nobody disturbs is `close_session`. -/
theorem run_closeProcess (force : Bool) (st : ShieldState) (w : World σ) :
    view ((closeProcess host force st).run w) =
      let closed := closeSession host force w.shield st
      (closed.1, closed.2.2) := by
  simp only [closeSession]
  rw [closeProcess, view_bind]
  by_cases hrefused : (!force) = true ∧
      ((ask fun w : World σ => stillPresent host w.host st).run w).2 ≠ []
  · have hpresent : (!force) = true ∧ stillPresent host w.shield.host st ≠ [] := hrefused
    rw [if_pos hrefused, if_pos hpresent]
    rfl
  · have hpresent : ¬((!force) = true ∧ stillPresent host w.shield.host st ≠ []) := hrefused
    rw [if_neg hrefused, if_neg hpresent, view_bind, view_bind, view_bind, view_bind]
    have hasked : ((ask fun w : World σ => stillPresent host w.host st).run w).1 = w := rfl
    rw [hasked]
    have hreleased := shield_commands host ([.unloadDaemon, .pfFlushAnchor pfAnchor] ++
      (if st.pfWasEnabled then [] else [.pfDisable]) ++ st.pinnedRoutes.filterMap deleteEntry) w
    generalize ((commands host _).run w).1 = released at hreleased ⊢
    -- The journal that is read is the one before the close.
    have hjournal : released.journal = w.journal := congrArg Shield.journal hreleased
    change view ((verdictProcess host st released.journal).run ((leaveProcess host st).run
      ((commands host (rollbackCommands released.journal)).run released).1).1) = _
    rw [hjournal]
    have hclosed : ((leaveProcess host st).run
        ((commands host (rollbackCommands w.journal)).run released).1).1.shield =
          closeHost host w.shield st := by
      rw [shield_leaveProcess, shield_commands, hreleased, closeHost, rollback_eq_runAll]
      rfl
    rw [← hclosed]
    rfl

end Alone

/-! ## Among others -/

section Steady

variable {σ : Type} (host : Host σ)

/-- A property of questions and commands. -/
structure Calm (A : Label → World σ → World σ → Prop) : Prop where
  asked : ∀ w, A .asked w w
  ran : ∀ c w, A (.ran c) w { w with
    host := (host.run w.host c).1
    stop := w.stop || decide (c = .unloadDaemon) }

/-- A property of the actions of a recovery, where others change the world by
`R`. -/
structure Steady (R : World σ → World σ → Prop) (A : Label → World σ → World σ → Prop) : Prop
    extends Calm host A where
  recorded : ∀ entry w v, R w v → A (.recorded entry) v { v with journal := w.journal ++ [entry] }

variable {host} {R : World σ → World σ → Prop} {A : Label → World σ → World σ → Prop}

/-- A question changes nothing. -/
theorem Calm.ask (h : Calm host A) {α : Type} (answer : World σ → α) (w : World σ) :
    (AttachShield.ask answer).Safe R A w :=
  Prog.safe_action fun t _ => h.asked t

/-- A command is safe where commands are calm. -/
theorem Calm.command (h : Calm host A) (c : Command) (w : World σ) :
    (command host c).Safe R A w :=
  Prog.safe_action fun t _ => h.ran c t

theorem Calm.commands (h : Calm host A) (list : List Command) (w : World σ) :
    (commands host list).Safe R A w :=
  Prog.safe_foldlM (fun _ c _ t => (h.command c t).bind fun _ t => Prog.safe_pure _ t) _ w

/-- What the daemon is in the middle of does `A`. -/
def Daemon.Does (R : World σ → World σ → Prop) (A : Label → World σ → World σ → Prop)
    (daemon : Daemon σ) (w : World σ) : Prop :=
  ∀ rest again, daemon.phase = .working rest again → rest.Safe R A w

/-- What the daemon does is judged by what the others may do meanwhile. -/
theorem Daemon.Does.others (htrans : ∀ a b c : World σ, R a b → R b c → R a c)
    {daemon : Daemon σ} {w v : World σ} (hdoes : daemon.Does R A w) (hv : R w v) :
    daemon.Does R A v :=
  fun rest again hworking => (hdoes rest again hworking).others htrans hv

/-- The loop of the daemon, from one poll to the next. -/
theorem Daemon.Does.loop {daemon : Daemon σ} {w : World σ} (stop : Bool) :
    (daemon.loop stop).Does R A w := by
  rintro rest again hworking
  cases stop <;> cases hworking

variable (h : Steady host R A)

include h

/-- The journal is read and written in two actions. -/
theorem Steady.record (entry : Entry) (w : World σ) : (record entry).Safe R A w :=
  fun t _ => ⟨h.asked t, Prog.safe_action fun u hu => h.recorded entry t u hu⟩

/-- A recorded command is two steps, the command and the entry. -/
theorem Steady.mutate (c : Command) (category : Category) (target : String) (pre : PreValue)
    (w : World σ) : (mutateProcess host c category target pre).Safe R A w :=
  (h.command c w).bind fun _ t => (h.record _ t).bind fun _ t => Prog.safe_pure _ t

theorem Steady.pfInstall (iface : String) (pfWasEnabled : Bool) (w : World σ) :
    (pfInstallProcess host iface pfWasEnabled).Safe R A w := by
  refine (h.mutate _ _ _ _ w).bind fun exitCode t => ?_
  split
  · exact Prog.safe_pure _ t
  · exact (h.mutate _ _ _ _ t).bind fun _ t => Prog.safe_pure _ t

theorem Steady.wifi (baseline : Baseline) (steps : Steps) (w : World σ) :
    (wifiProcess host baseline steps).Safe R A w := by
  refine (h.ask _ w).bind fun associated t => ?_
  split
  · exact Prog.safe_pure _ t
  · exact (h.commands _ t).bind fun _ t => Prog.safe_pure _ t

theorem Steady.incomplete (baseline : Baseline) (steps : Steps) (w : World σ) :
    (incompleteProcess host baseline steps).Safe R A w := by
  rw [incompleteProcess]
  split
  · exact (h.commands _ w).bind fun _ t => Prog.safe_pure _ t
  · exact Prog.safe_pure _ w

/-- The recovery is made of recorded and plain commands. -/
theorem Steady.recovery (baseline : Baseline) (untrusted : List String) (w : World σ) :
    (recoveryProcess host baseline untrusted).Safe R A w := by
  refine Prog.Safe.bind (Prog.safe_foldlM (fun steps iface _ t => ?_) _ w) fun steps t => ?_
  · exact (h.pfInstall iface _ t).bind fun _ t => Prog.safe_pure _ t
  refine Prog.Safe.bind ((h.ask _ t).bind fun ports t => ?_) fun steps t => ?_
  · exact Prog.safe_foldlM (fun steps service _ t => (h.mutate _ _ _ _ t).bind
      fun _ t => Prog.safe_pure _ t) _ t
  refine Prog.Safe.bind ((h.ask _ t).bind fun lines t => ?_) fun steps t => ?_
  · exact Prog.safe_foldlM (fun steps dest _ t => (h.commands _ t).bind
      fun _ t => Prog.safe_pure _ t) _ t
  refine Prog.Safe.bind ((h.commands _ t).bind fun _ t => Prog.safe_pure _ t) fun steps t => ?_
  refine (h.wifi baseline steps t).bind fun steps t => ?_
  refine (h.incomplete baseline steps t).bind fun steps t => ?_
  exact (h.ask _ t).bind fun _ t => Prog.safe_pure _ t

/-- What a close does once it has read the journal. -/
theorem Steady.replayed (st : ShieldState)
    (hsaved : ∀ w closed, closed.armed = false → closed.expiresAt = st.expiresAt →
      A (.saved closed) w { w with file := some closed, host := host.saveState w.host })
    (journal : List Entry) (w : World σ) :
    (do
      commands host (rollbackCommands journal)
      leaveProcess host st
      verdictProcess host st journal : Process σ CloseResult).Safe R A w := by
  refine (h.commands _ w).bind fun _ t => Prog.Safe.bind ?_ fun _ t => ?_
  · rw [leaveProcess]
    split
    · refine (h.command _ t).bind fun switched t => ?_
      split
      · exact Prog.safe_pure _ t
      · exact (h.record _ t).bind fun _ t => h.commands _ t
    · exact Prog.safe_pure _ t
  · refine (h.ask _ t).bind fun fingerprint t => ?_
    exact Prog.Safe.bind (Prog.safe_action fun t _ => hsaved t _ rfl rfl)
      fun _ t => Prog.safe_pure _ t

/-- A close also reads the journal as a whole and saves the closed state. -/
theorem Steady.close (hreplaying : ∀ w : World σ, A (.replaying w.journal) w w) (force : Bool)
    (st : ShieldState)
    (hsaved : ∀ w closed, closed.armed = false → closed.expiresAt = st.expiresAt →
      A (.saved closed) w { w with file := some closed, host := host.saveState w.host })
    (w : World σ) : (closeProcess host force st).Safe R A w := by
  refine (h.ask _ w).bind fun present t => ?_
  split
  · exact Prog.safe_pure _ t
  refine (h.commands _ t).bind fun _ t => ?_
  exact Prog.Safe.bind (Prog.safe_action fun t _ => hreplaying t)
    fun journal t => h.replayed st hsaved journal t

/-! ## The daemon among others -/

/-- A step of the daemon shows nothing and changes nothing, or shows that its
session has expired, or does `A`. -/
theorem Steady.daemon (hreplaying : ∀ w : World σ, A (.replaying w.journal) w w)
    (daemon : Daemon σ)
    (hsaved : ∀ w st, st.expiresAt = daemon.state.expiresAt →
      A (.saved st) w { w with file := some st, host := host.saveState w.host })
    (hrefl : ∀ w : World σ, R w w) {w : World σ} (hdoes : daemon.Does R A w) :
    let next := daemon.step host w
    next.2.1.Does R A next.1 ∧
      next.2.1.state.expiresAt = daemon.state.expiresAt ∧
      ((next.2.2 = [] ∧ next.1 = w) ∨
        (next.2.2 = [.expired w.clock] ∧ next.1 = w ∧ daemon.phase = .sleeping ∧
          daemon.state.armed = true ∧ daemon.state.expiresAt < w.clock) ∨
        ∃ label, next.2.2 = [label] ∧ A label w next.1) := by
  obtain ⟨st, phase⟩ := daemon
  have hasked : ∃ label, [Label.asked] = [label] ∧ A label w w := ⟨.asked, rfl, h.asked w⟩
  cases phase with
  | sleeping =>
      dsimp only [Daemon.step]
      split
      · rename_i hexpired
        refine ⟨?_, rfl, .inr (.inl ⟨rfl, rfl, rfl, hexpired⟩)⟩
        rintro rest again ⟨⟩
        exact (h.close hreplaying true st (fun w closed _ => hsaved w closed) w).bind
          fun _ t => Prog.safe_pure _ t
      · exact ⟨by rintro rest again ⟨⟩, rfl, .inr (.inr hasked)⟩
  | detecting =>
      simp only [Daemon.step]
      split
      · refine ⟨?_, rfl, .inr (.inr hasked)⟩
        rintro rest again ⟨⟩
        refine Prog.Safe.bind (Prog.safe_action fun t _ => hsaved t _ rfl) fun _ t => ?_
        exact (h.recovery _ _ t).bind fun _ t => Prog.safe_pure _ t
      · exact ⟨by rintro rest again ⟨⟩, rfl, .inr (.inr hasked)⟩
  | drifting =>
      simp only [Daemon.step]
      split
      · refine ⟨?_, rfl, .inr (.inr hasked)⟩
        rintro rest again ⟨⟩
        exact (h.recovery _ _ w).bind fun _ t => Prog.safe_pure _ t
      · exact ⟨Daemon.Does.loop w.stop, rfl, .inr (.inr hasked)⟩
  | working rest again =>
      simp only [Daemon.step]
      cases hstep : rest.step w with
      | some next =>
          obtain ⟨label, after, rest'⟩ := next
          obtain ⟨haction, hrest⟩ := (hdoes rest again rfl).step (hrefl w) hstep
          refine ⟨?_, rfl, .inr (.inr ⟨label, rfl, haction⟩)⟩
          rintro rest again ⟨⟩
          exact hrest
      | none =>
          cases again with
          | true => exact ⟨Daemon.Does.loop w.stop, rfl, .inl ⟨rfl, rfl⟩⟩
          | false => exact ⟨by rintro rest again ⟨⟩, rfl, .inl ⟨rfl, rfl⟩⟩
  | stopped => exact ⟨hdoes, rfl, .inl ⟨rfl, rfl⟩⟩

end Steady

end Bootmux.AttachShield
