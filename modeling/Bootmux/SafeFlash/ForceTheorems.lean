/-
Bootmux.SafeFlash.ForceTheorems — the shield is not forced down under a
device.

Of the commands that the runner gives the shield only `--uninstall --purge`
closes an armed session by force, and where no exception ends it the shield
is down afterwards (`takenDown_iff`). The step that closes the shield does not
pass on that the close was refused, so the purge follows every refusal: what
saves a run is that the device goes, or the session ends, while the entry of
the refused close is written (`PurgeMeetsDevice`, of the state in which the
close begins). Where nothing happens in that time a refusal is always followed
by the purge (`labels_closeIfArmed`).

`Chained` is how a close and a purge hang together in what a run shows: the
purge is the next command after a close, and it is given in the state that the
close and its entry leave. No step but these two gives the shield either of
them, so that the labels of every run and of every resume are chained
(`chained_run`, `chained_resume`), by induction over the steps; what the claim
says of purges is then the same as what the condition says of closes
(`neverForced_iff`).
-/
import Bootmux.AttachShield.RefusalTheorems
import Bootmux.SafeFlash.Joint
import Bootmux.SafeFlash.RunnerTheorems

namespace Bootmux.SafeFlash

open Bootmux.Lib
open Bootmux.NetworkGuardian (contains)
open Bootmux.AttachShield

variable {κ : Type} {site : Site κ} {bench : Bench (World κ)}

/-! ## What takes the shield down -/

/-- The session is armed, and an interface that it has recorded is listed. -/
def DeviceThere (site : Site κ) (w : World κ) : Prop :=
  ∃ st, w.file = some st ∧ st.armed = true ∧ stillPresent site.host w.host st ≠ []

/-- A close has been refused. -/
def RefusedClose {σ : Type} : Label σ → Prop
  | .shield args _ _ _ (some (_, out)) =>
      args = ["--close-session"] ∧ contains "REFUSED_DEVICE_PRESENT".toList out.toList = true
  | _ => False

/-- A command that `sudo` lets run closes the armed session by force, with the
device there. -/
def ForcedUnderDevice (site : Site κ) : Label (World κ) → Prop
  | .shield args asRoot before _ _ =>
      site.denied args asRoot before = none ∧ closesByForce args before = true ∧
        DeviceThere site before
  | _ => False

/-- With the device there only the purge closes the session. -/
theorem closesByForce_iff {args : List String} {w : World κ} (h : DeviceThere site w) :
    closesByForce args w = true ↔ args = ["--uninstall", "--purge"] := by
  obtain ⟨st, hst, harmed, -⟩ := h
  simp [closesByForce, hst, harmed]

/-- A call that leaves the state file leaves an armed session armed. -/
theorem not_takenDown_of_file {w after : World κ} (hfile : after.file = w.file)
    (h : DeviceThere site w) : ¬∀ st, after.file = some st → st.armed = false := by
  obtain ⟨st, hst, harmed, -⟩ := h
  exact fun hdown => absurd (hdown st (hfile.trans hst)) (by simp [harmed])

/-- A close that is not forced does not take the shield down under a device. -/
theorem closeSessionCall_file {w : World κ} (h : DeviceThere site w) :
    (closeSessionCall site w).1.file = w.file := by
  obtain ⟨st, hst, harmed, hpresent⟩ := h
  simp only [closeSessionCall, hst, harmed, if_true, run_closeProcess_refused hpresent]

/-- Arming is refused with the device there, so that it writes no state. -/
theorem armCall_file {ttl : ℚ} {w : World κ} (h : DeviceThere site w) :
    (armCall site ttl w).1.file = w.file := by
  obtain ⟨st, hst, harmed, -⟩ := h
  simp [armCall, hst, harmed]

/-- An uninstall removes the state, whether it has been armed or not. -/
theorem uninstallCall_file (site : Site κ) (w : World κ) :
    (uninstallCall site w).1.file = none := rfl

/-- Of the commands that no exception ends, the one that closes by force takes
the shield down under a device, and no other. -/
theorem takenDown_iff {args : List String} {w : World κ} (h : DeviceThere site w)
    (hraises : site.raises args w = none) :
    (∀ st, (shieldMain site args w).1.file = some st → st.armed = false) ↔
      closesByForce args w = true := by
  rw [closesByForce_iff h]
  constructor
  · intro hdown
    by_contra hargs
    refine not_takenDown_of_file ?_ h hdown
    unfold shieldMain
    split
    · rfl
    · rfl
    · simpa [unlessRaised, hraises] using armCall_file h
    · simpa [unlessRaised, hraises] using closeSessionCall_file h
    · exact absurd rfl hargs
    · rfl
  · rintro rfl st hst
    have hfile : (shieldMain site ["--uninstall", "--purge"] w).1.file = none := by
      simp [shieldMain, unlessRaised, hraises, uninstallCall_file]
    exact nomatch hfile.symm.trans hst

/-! ## A close and the purge after it -/

section Chain

variable {σ : Type} {bench : Bench σ} {runner : Runner}

/-- The state in which the purge after a close begins, if the runner gets so
far: the close has answered, and its entry has been written. -/
def purgeState (bench : Bench σ) (s : σ) : Option σ :=
  let closed := bench.shield ["--close-session"] true s
  closed.2.bind fun answer =>
    let noted := bench.journal "SHIELD_CLOSE" (if answer.1 = 0 then "OK" else "WARN") closed.1
    noted.2.map fun _ => noted.1

/-- The label of a close. -/
def closing (bench : Bench σ) (s : σ) : Label σ :=
  .shield ["--close-session"] true s (bench.shield ["--close-session"] true s).1
    (bench.shield ["--close-session"] true s).2

/-- A label of neither a close nor a purge. -/
def Aside : Label σ → Prop
  | .shield args _ _ _ _ => args ≠ ["--close-session"] ∧ args ≠ ["--uninstall", "--purge"]
  | _ => True

/-- A label of no close. -/
def NoClose : Label σ → Prop
  | .shield args _ _ _ _ => args ≠ ["--close-session"]
  | _ => True

theorem not_closing {label : Label σ} (h : NoClose label) (s : σ) : label ≠ closing bench s := by
  rintro rfl
  exact h rfl

/-- A call of `--close-session` shows the state it was made in. -/
theorem closing_inj {s t : σ} (h : closing bench s = closing bench t) : s = t := by
  simp only [closing, Label.shield.injEq] at h
  exact h.2.2.1

theorem Aside.noClose {label : Label σ} (h : Aside label) : NoClose label := by
  cases label with
  | shield args asRoot before after answer => exact h.1
  | _ => trivial

theorem not_refused_of_noClose {label : Label σ} (h : NoClose label) :
    ¬RefusedClose label := by
  intro hrefused
  cases label with
  | shield args asRoot before after answer =>
      cases answer with
      | none => exact hrefused
      | some answer => exact h hrefused.1
  | _ => exact hrefused

/-- Each purge is the next command after a close, and finds the state that the
close and its entry have left; each close has such a purge unless the runner
does not get so far. -/
inductive Chained (bench : Bench σ) : List (Label σ) → Prop
  | nil : Chained bench []
  | aside {label : Label σ} {labels : List (Label σ)} (h : Aside label)
      (rest : Chained bench labels) : Chained bench (label :: labels)
  | cut {s : σ} {labels : List (Label σ)} (none : purgeState bench s = none)
      (rest : Chained bench labels) :
      Chained bench (closing bench s :: labels)
  | pair {s before after : σ} {answer : Option (Int × String)} {between labels : List (Label σ)}
      (found : purgeState bench s = some before) (hbetween : ∀ label ∈ between, Aside label)
      (rest : Chained bench labels) :
      Chained bench (closing bench s ::
        (between ++ .shield ["--uninstall", "--purge"] true before after answer :: labels))

/-- Two chains after one another are a chain. -/
theorem Chained.append {labels more : List (Label σ)} (h : Chained bench labels)
    (hmore : Chained bench more) : Chained bench (labels ++ more) := by
  induction h with
  | nil => exact hmore
  | aside h _ ih => exact .aside h ih
  | cut hnone _ ih => exact .cut hnone ih
  | pair found hbetween _ ih =>
      rw [List.cons_append, List.append_assoc, List.cons_append]
      exact .pair found hbetween ih

/-- Steps that neither close nor purge are a chain of no link. -/
theorem chained_of_aside {labels : List (Label σ)} (h : ∀ label ∈ labels, Aside label) :
    Chained bench labels := by
  induction labels with
  | nil => exact .nil
  | cons label labels ih =>
      exact .aside (h label List.mem_cons_self) (ih fun l hl => h l (List.mem_cons_of_mem _ hl))

/-- A close with its purge after it, or with nothing if the runner does not get
so far. -/
theorem Chained.close_split {labels : List (Label σ)} (h : Chained bench labels) :
    ∀ seen args asRoot s after answer rest,
      labels = seen ++ .shield args asRoot s after answer :: rest → args = ["--close-session"] →
      ∀ before, purgeState bench s = some before → ∃ between after' answer' rest',
        rest = between ++
          .shield ["--uninstall", "--purge"] true before after' answer' :: rest' := by
  induction h with
  | nil => simp
  | @aside label labels haside _ ih =>
      intro seen args asRoot s after answer rest hsplit hargs
      cases seen with
      | nil =>
          obtain ⟨rfl, -⟩ := List.cons.inj hsplit
          exact absurd hargs haside.1
      | cons first seen => exact ih seen _ _ _ _ _ _ (List.cons.inj hsplit).2 hargs
  | @cut s labels hnone _ ih =>
      intro seen args asRoot t after answer rest hsplit hargs before hbefore
      cases seen with
      | nil =>
          simp only [closing, List.nil_append, List.cons.injEq, Label.shield.injEq] at hsplit
          obtain ⟨⟨-, -, rfl, -, -⟩, -⟩ := hsplit
          exact nomatch hnone.symm.trans hbefore
      | cons first seen =>
          exact ih seen _ _ _ _ _ _ (List.cons.inj hsplit).2 hargs before hbefore
  | @pair s found after' answer' between labels hfound hbetween _ ih =>
      intro seen args asRoot t after answer rest hsplit hargs before hbefore
      cases seen with
      | nil =>
          simp only [closing, List.nil_append, List.cons.injEq, Label.shield.injEq] at hsplit
          obtain ⟨⟨-, -, rfl, -, -⟩, rfl⟩ := hsplit
          obtain rfl := Option.some.inj (hfound.symm.trans hbefore)
          exact ⟨between, after', answer', labels, rfl⟩
      | cons first seen =>
          obtain ⟨-, hsplit⟩ := List.cons.inj hsplit
          rcases List.append_eq_append_iff.mp hsplit with ⟨C, rfl, hC⟩ | ⟨C, rfl, hC⟩
          · cases C with
            | nil =>
                simp only [List.nil_append, List.cons.injEq, Label.shield.injEq] at hC
                exact absurd (hC.1.1.trans hargs) (by decide)
            | cons purge C => exact ih C _ _ _ _ _ _ (List.cons.inj hC).2 hargs before hbefore
          · cases C with
            | nil =>
                simp only [List.nil_append, List.cons.injEq, Label.shield.injEq] at hC
                exact absurd (hC.1.1.symm.trans hargs) (by decide)
            | cons label C =>
                obtain ⟨rfl, -⟩ := List.cons.inj hC
                have haside : Aside (.shield args asRoot t after answer) :=
                  hbetween _ (by simp)
                exact absurd hargs haside.1

/-- A purge with its close before it. -/
theorem Chained.purge_split {labels : List (Label σ)} (h : Chained bench labels) :
    ∀ seen args asRoot before after answer rest,
      labels = seen ++ .shield args asRoot before after answer :: rest →
      args = ["--uninstall", "--purge"] → ∃ first s between,
        seen = first ++ closing bench s :: between ∧ asRoot = true ∧
          purgeState bench s = some before ∧ ∀ label ∈ between, Aside label := by
  induction h with
  | nil => simp
  | @aside label labels haside _ ih =>
      intro seen args asRoot before after answer rest hsplit hargs
      cases seen with
      | nil =>
          obtain ⟨rfl, -⟩ := List.cons.inj hsplit
          exact absurd hargs haside.2
      | cons other seen =>
          obtain ⟨rfl, htail⟩ := List.cons.inj hsplit
          obtain ⟨first, s, between, rfl, hs⟩ := ih seen _ _ _ _ _ _ htail hargs
          exact ⟨label :: first, s, between, rfl, hs⟩
  | @cut s labels hnone _ ih =>
      intro seen args asRoot before after answer rest hsplit hargs
      cases seen with
      | nil =>
          simp only [closing, List.nil_append, List.cons.injEq, Label.shield.injEq] at hsplit
          exact absurd (hsplit.1.1.trans hargs) (by decide)
      | cons other seen =>
          obtain ⟨rfl, htail⟩ := List.cons.inj hsplit
          obtain ⟨first, t, between, rfl, ht⟩ := ih seen _ _ _ _ _ _ htail hargs
          exact ⟨_ :: first, t, between, rfl, ht⟩
  | @pair s found after' answer' between labels hfound hbetween _ ih =>
      intro seen args asRoot before after answer rest hsplit hargs
      cases seen with
      | nil =>
          simp only [closing, List.nil_append, List.cons.injEq, Label.shield.injEq] at hsplit
          exact absurd (hsplit.1.1.trans hargs) (by decide)
      | cons other seen =>
          obtain ⟨rfl, htail⟩ := List.cons.inj hsplit
          rcases List.append_eq_append_iff.mp htail with ⟨C, rfl, hC⟩ | ⟨C, rfl, hC⟩
          · cases C with
            | nil =>
                simp only [List.nil_append, List.cons.injEq, Label.shield.injEq] at hC
                obtain ⟨⟨-, rfl, rfl, -, -⟩, -⟩ := hC
                exact ⟨[], s, between, by simp, rfl, hfound, hbetween⟩
            | cons purge C =>
                obtain ⟨rfl, hmore⟩ := List.cons.inj hC
                obtain ⟨first, t, more, rfl, ht⟩ := ih C _ _ _ _ _ _ hmore hargs
                refine ⟨closing bench s :: (between ++
                  .shield ["--uninstall", "--purge"] true found after' answer' :: first), t, more,
                  ?_, ht⟩
                simp only [List.cons_append, List.append_assoc]
          · cases C with
            | nil =>
                simp only [List.nil_append, List.cons.injEq, Label.shield.injEq] at hC
                obtain ⟨⟨-, rfl, rfl, -, -⟩, -⟩ := hC
                exact ⟨[], s, seen, rfl, rfl, hfound,
                  fun label hl => hbetween label (by simp [hl])⟩
            | cons label C =>
                obtain ⟨rfl, -⟩ := List.cons.inj hC
                have haside : Aside (.shield args asRoot before after answer) :=
                  hbetween _ (by simp)
                exact absurd hargs haside.2

/-! ## What runs and resumes show -/

/-- The other steps neither close nor purge. -/
theorem Allowed.aside {step : Step} {label : Label σ} (h : Allowed bench runner step label)
    (hclose : step ≠ .shieldClose) (hpurge : step ≠ .shieldPurge) : Aside label := by
  cases label with
  | shield args asRoot before after answer =>
      rcases h.1 with ⟨-, hmay⟩ | rfl | rfl
      · have hnot : ¬(args = ["--close-session"] ∨ args = ["--uninstall", "--purge"]) :=
          fun hargs => (hmay hargs).elim hclose hpurge
        exact not_or.mp hnot
      · exact ⟨by simp, by simp⟩
      · exact ⟨by simp, by simp⟩
  | _ => trivial

/-- What it shows is chained, from every state. -/
def ShowsChained {α : Type} (bench : Bench σ) (p : Attempt σ (Label σ) α) : Prop :=
  ∀ s, Chained bench (p.labels s)

/-- It gives a purge at once. -/
def PurgesFirst {α : Type} (bench : Bench σ) (p : Attempt σ (Label σ) α) : Prop :=
  ∀ s, ∃ between after answer rest,
    p.labels s = between ++ .shield ["--uninstall", "--purge"] true s after answer :: rest ∧
      (∀ label ∈ between, Aside label) ∧ Chained bench rest

section Composed

variable {α β : Type}

theorem showsChained_bind {p : Attempt σ (Label σ) α} {f : α → Attempt σ (Label σ) β}
    (hp : ShowsChained bench p) (hf : ∀ a, ShowsChained bench (f a)) :
    ShowsChained bench (p >>= f) := by
  intro s
  rw [Attempt.labels_bind]
  cases p.result s with
  | none => exact (hp s).append .nil
  | some a => exact (hp s).append (hf a _)

theorem showsChained_of_does {P : α → Prop} {p : Attempt σ (Label σ) α}
    (hp : Attempt.Does Aside P p) : ShowsChained bench p :=
  fun s => chained_of_aside (hp s).1

theorem PurgesFirst.announce {label : Label σ} (h : Aside label) {p : Attempt σ (Label σ) α}
    (hp : PurgesFirst bench p) : PurgesFirst bench (announce label >>= fun _ => p) := by
  intro s
  obtain ⟨between, after, answer, rest, hlabels, hbetween, hrest⟩ := hp s
  refine ⟨label :: between, after, answer, rest, ?_, ?_, hrest⟩
  · simp [SafeFlash.announce, hlabels]
  · exact List.forall_mem_cons.mpr ⟨h, hbetween⟩

theorem aside_journal (event status : String) :
    Attempt.Does Aside (fun _ => True) (journal bench event status) :=
  does_perform fun _ => trivial

/-- In a dry run a step only writes down that it is one. -/
theorem showsChained_dry {event : String} {p : Attempt σ (Label σ) (Runner × String)}
    (hdry : runner.dryRun = true) : ShowsChained bench (unlessDry bench runner event p) := by
  rw [unlessDry, if_pos hdry]
  exact showsChained_of_does ((aside_journal event "OK").bind
    fun _ _ => Attempt.does_pure (P := fun _ => True) trivial)

/-- The command of a step, and its entry. -/
theorem labels_shieldStep {A : Label σ → Prop} {P : α → Prop} (bench : Bench σ)
    (args : List String) {rest : Int × String → Attempt σ (Label σ) α}
    (hrest : ∀ r, Attempt.Does A P (rest r)) (s : σ) :
    ∃ more, (runShield bench args true >>= rest).labels s =
        .shield args true s (bench.shield args true s).1 (bench.shield args true s).2 :: more ∧
      ∀ label ∈ more, A label := by
  simp only [runShield, perform, Attempt.labels_bind, Attempt.labels_action,
    Attempt.result_action, Attempt.after_action]
  refine ⟨_, rfl, ?_⟩
  cases (bench.shield args true s).2 with
  | none => simp
  | some r => exact (hrest r _).1

/-- The purge step asks for the purge before anything else. -/
theorem purgesFirst_stepShieldPurge (hreal : runner.dryRun = false)
    {f : Runner × String → Attempt σ (Label σ) α} (hf : ∀ r, ShowsChained bench (f r)) :
    PurgesFirst bench (stepShieldPurge bench runner >>= f) := by
  intro s
  have hentry (r : Int × String) : Attempt.Does Aside (fun _ => True)
      (do journal bench "SHIELD_PURGE" (statusOf
            (r.1 = 0 && contains "PURGE=OK".toList r.2.toList))
          pure (runner, resultOf (r.1 = 0 && contains "PURGE=OK".toList r.2.toList)) :
        Attempt σ (Label σ) (Runner × String)) :=
    (aside_journal _ _).bind fun _ _ => Attempt.does_pure trivial
  obtain ⟨more, hlabels, hmore⟩ := labels_shieldStep bench ["--uninstall", "--purge"] hentry s
  have hstep : (stepShieldPurge bench runner).labels s = .shield ["--uninstall", "--purge"] true s
      (bench.shield ["--uninstall", "--purge"] true s).1
      (bench.shield ["--uninstall", "--purge"] true s).2 :: more := by
    rw [stepShieldPurge, unlessDry, if_neg (by simp [hreal])]
    exact hlabels
  rw [Attempt.labels_bind, hstep]
  refine ⟨[], _, _, _, rfl, by simp, (chained_of_aside hmore).append ?_⟩
  cases (stepShieldPurge bench runner).result s with
  | none => exact .nil
  | some r => exact hf r _

/-- The step that closes, with what comes after it: a purge, unless this is a
dry run. -/
theorem showsChained_stepShieldClose {f : Runner × String → Attempt σ (Label σ) α}
    (hdry : runner.dryRun = true → ShowsChained bench (f (runner, "GREEN_DRY_RUN")))
    (hreal : runner.dryRun = false → ∀ result, isRed result = false →
      PurgesFirst bench (f (runner, result))) :
    ShowsChained bench (stepShieldClose bench runner >>= f) := by
  have hnote (status : String) : Aside (Label.journal "SHIELD_CLOSE" status : Label σ) := trivial
  cases hrunner : runner.dryRun with
  | true =>
      intro s
      rw [stepShieldClose, unlessDry, if_pos hrunner]
      simp only [journal, perform, Attempt.labels_bind, Attempt.labels_action, Attempt.result_bind,
        Attempt.result_action, Attempt.after_bind, Attempt.after_action]
      cases (bench.journal "SHIELD_CLOSE" "OK" s).2 with
      | none => exact .aside (hnote _) .nil
      | some _ => exact .aside (hnote _) (hdry hrunner _)
  | false =>
      intro s
      rw [stepShieldClose, unlessDry, if_neg (by simp [hrunner])]
      simp only [runShield, perform, journal, Attempt.labels_bind, Attempt.labels_action,
        Attempt.result_bind, Attempt.result_action, Attempt.after_bind, Attempt.after_action]
      cases hclosed : (bench.shield ["--close-session"] true s).2 with
      | none =>
          have hnone : purgeState bench s = none := by simp [purgeState, hclosed]
          have hcut := Chained.cut hnone .nil
          simpa [closing, hclosed] using hcut
      | some answer =>
          cases hnoted : (bench.journal "SHIELD_CLOSE" (if answer.1 = 0 then "OK" else "WARN")
              (bench.shield ["--close-session"] true s).1).2 with
          | none =>
              have hnone : purgeState bench s = none := by simp [purgeState, hclosed, hnoted]
              have hcut := Chained.cut hnone
                (.aside (hnote (if answer.1 = 0 then "OK" else "WARN")) .nil)
              simpa [closing, hclosed, hnoted] using hcut
          | some _ =>
              have hfound : purgeState bench s = some (bench.journal "SHIELD_CLOSE"
                  (if answer.1 = 0 then "OK" else "WARN")
                  (bench.shield ["--close-session"] true s).1).1 := by
                simp [purgeState, hclosed, hnoted]
              obtain ⟨between, after, answer', rest, hlabels, hbetween, hrest⟩ :=
                hreal hrunner (if answer.1 = 0 then "GREEN" else "YELLOW") (by split <;> decide)
                  (bench.journal "SHIELD_CLOSE" (if answer.1 = 0 then "OK" else "WARN")
                    (bench.shield ["--close-session"] true s).1).1
              have hasides : ∀ label ∈ .journal "SHIELD_CLOSE"
                  (if answer.1 = 0 then "OK" else "WARN") :: between, Aside label :=
                List.forall_mem_cons.mpr ⟨hnote _, hbetween⟩
              have hpair : Chained bench (closing bench s :: (_ ++
                  .shield ["--uninstall", "--purge"] true _ after answer' :: rest)) :=
                .pair hfound hasides hrest
              simpa [closing, hclosed, hnoted, hlabels] using hpair

end Composed

theorem showsChained_closeIfArmed : ShowsChained bench (closeIfArmed bench runner) := by
  have hstatus : Attempt.Does Aside (fun _ => True) (runShield bench ["--status"] true) := by
    refine does_perform fun s => ?_
    exact ⟨by simp, by simp⟩
  refine showsChained_bind (showsChained_bind (showsChained_of_does hstatus)
    fun _ _ => .nil) fun armed => ?_
  split
  · refine showsChained_stepShieldClose (fun hdry => ?_) fun hreal result _ => ?_
    · exact showsChained_bind (showsChained_dry hdry) fun _ _ => .nil
    · exact purgesFirst_stepShieldPurge hreal fun _ _ => .nil
  · exact fun _ => .nil

/-- A run that a step has failed closes and purges. -/
theorem showsChained_abort (outcome : Outcome) :
    ShowsChained bench (do
      journal bench "RUNNER_ABORT" "RED"
      closeIfArmed bench runner
      pure outcome) :=
  showsChained_bind (showsChained_of_does (aside_journal _ _)) fun _ =>
    showsChained_bind showsChained_closeIfArmed fun _ _ => .nil

/-- What comes after a step. -/
theorem showsChained_next {step : Step} {rest : List Step} {results : List (String × String)}
    (hrest : ∀ next results, ShowsChained bench (runSteps bench rest next results))
    (r : Runner × String) :
    ShowsChained bench (do
      announce (.result step.name r.2)
      if isRed r.2 then do
        journal bench "RUNNER_ABORT" "RED"
        closeIfArmed bench r.1
        pure (.failed step.name (results ++ [(step.name, r.2)]))
      else runSteps bench rest r.1 (results ++ [(step.name, r.2)])) := by
  have hresult : Attempt.Does Aside (fun _ => True)
      (announce (.result step.name r.2) : Attempt σ (Label σ) Unit) :=
    Attempt.does_action (fun _ => trivial) fun _ _ _ => trivial
  refine showsChained_bind (showsChained_of_does hresult) fun _ => ?_
  split
  · exact showsChained_abort _
  · exact hrest _ _

theorem showsChained_others (others : List Step) {rest : List Step}
    (hothers : ∀ step ∈ others, step ≠ .shieldClose ∧ step ≠ .shieldPurge)
    (hrest : ∀ next results, ShowsChained bench (runSteps bench rest next results)) :
    ∀ next results, ShowsChained bench (runSteps bench (others ++ rest) next results) := by
  induction others with
  | nil => exact hrest
  | cons step others ih =>
      intro next results
      obtain ⟨hclose, hpurge⟩ := hothers step List.mem_cons_self
      have hstep := (@does_runStep _ bench next step).mono (R := fun _ => True)
        (fun label h => h.aside hclose hpurge) fun _ _ => trivial
      refine showsChained_bind (showsChained_of_does hstep) fun r => ?_
      exact showsChained_next (ih fun other h => hothers other (List.mem_cons_of_mem _ h)) r

/-- The two steps of a run that take the shield down make one link. -/
theorem showsChained_closing {rest : List Step}
    (hrest : ∀ next results, ShowsChained bench (runSteps bench rest next results)) :
    ∀ next results,
      ShowsChained bench (runSteps bench (.shieldClose :: .shieldPurge :: rest) next results) := by
  intro next results
  refine showsChained_stepShieldClose (fun hdry => ?_) fun hreal result hresult => ?_
  · have hannounced : Attempt.Does Aside (fun _ => True)
        (announce (.result Step.shieldClose.name "GREEN_DRY_RUN") : Attempt σ (Label σ) Unit) :=
      Attempt.does_action (fun _ => trivial) fun _ _ _ => trivial
    refine showsChained_bind (showsChained_of_does hannounced) fun _ => ?_
    exact showsChained_bind (showsChained_dry hdry) fun r => showsChained_next hrest r
  · refine PurgesFirst.announce (show Aside (.result _ _) from trivial) ?_
    simp only [hresult, Bool.false_eq_true, if_false]
    exact purgesFirst_stepShieldPurge hreal fun r => showsChained_next hrest r

/-- **The calls of a run** that close and purge come in pairs, with nothing of
the shield between them. -/
theorem chained_run (bench : Bench σ) (runner : Runner) :
    ShowsChained bench (run bench runner) := by
  unfold run
  split
  · refine showsChained_of_does (P := fun _ => True) ?_
    exact does_runPreflight.mono (fun label h => h.aside (by decide) (by decide)) fun _ h => h
  · refine showsChained_bind (showsChained_of_does (aside_journal _ _)) fun _ => ?_
    refine showsChained_bind (fun _ => .nil) fun found => ?_
    split
    · exact fun _ => .nil
    · have hdone : ∀ next results, ShowsChained bench (runSteps bench [] next results) :=
        fun _ _ => showsChained_bind (showsChained_of_does (aside_journal _ _)) fun _ _ => .nil
      have hafter := showsChained_others [.postFingerprint, .fingerprintCompare] (by decide) hdone
      exact showsChained_others (runnerSteps.takeWhile (· ≠ .shieldClose)) (by decide)
        (showsChained_closing hafter) _ _

/-- The same for a resume. -/
theorem chained_resume (bench : Bench σ) (runner : Runner) :
    ShowsChained bench (resume bench runner) := by
  have hload : Attempt.Does Aside (fun _ => True) (perform (fun _ _ => .loadJournal)
      bench.loadJournal : Attempt σ (Label σ) (List String)) := does_perform fun _ => trivial
  refine showsChained_bind (showsChained_of_does hload) fun events => ?_
  split
  · exact fun _ => .nil
  · split
    · exact fun _ => .nil
    · exact showsChained_bind showsChained_closeIfArmed fun _ _ => .nil

end Chain

/-! ## Runs -/

/-- After a refused close no command closes by force under a device. -/
def NeverForced (site : Site κ) (labels : List (Label (World κ))) : Prop :=
  Machine.Always (fun seen label => (∃ refused ∈ seen, RefusedClose refused) →
    ¬ForcedUnderDevice site label) [] labels

/-- The purge that follows a close begun in `w` is let run, and finds the device
still there. -/
def PurgeMeetsDevice (site : Site κ) (bench : Bench (World κ)) (w : World κ) : Prop :=
  ∃ before, purgeState (bench.withShield site) w = some before ∧
    site.denied ["--uninstall", "--purge"] true before = none ∧ DeviceThere site before

/-- Where a close is refused, or one has been before it, the state in which it
begins is one from which the purge does not meet the device. -/
def DeviceGoes (site : Site κ) (bench : Bench (World κ)) (labels : List (Label (World κ))) :
    Prop :=
  Machine.Always (fun seen label => ∀ before, label = closing (bench.withShield site) before →
    (∃ refused ∈ seen ++ [label], RefusedClose refused) → ¬PurgeMeetsDevice site bench before)
    [] labels

/-- On a chain, the purge is not granted with the device there exactly if no
refused close is followed by one. -/
theorem neverForced_iff {labels : List (Label (World κ))}
    (h : Chained (bench.withShield site) labels) :
    NeverForced site labels ↔ DeviceGoes site bench labels := by
  rw [NeverForced, DeviceGoes, Machine.always_iff_split, Machine.always_iff_split]
  simp only [List.nil_append]
  constructor
  · rintro hnever seen label rest hsplit w rfl ⟨refused, hmem, hrefused⟩ ⟨before, hbefore, hmeets⟩
    obtain ⟨between, after, answer, rest', rfl⟩ :=
      h.close_split _ _ _ _ _ _ _ hsplit rfl before hbefore
    have hthere := hmeets.2
    refine hnever (seen ++ closing (bench.withShield site) w :: between)
      (.shield ["--uninstall", "--purge"] true before after answer) rest'
      (by rw [hsplit]; simp) ⟨refused, ?_, hrefused⟩
      ⟨hmeets.1, (closesByForce_iff hthere).mpr rfl, hthere⟩
    rcases List.mem_append.mp hmem with hmem | hmem
    · exact List.mem_append_left _ hmem
    · rw [List.mem_singleton.mp hmem]
      simp
  · intro hgoes seen label rest hsplit ⟨refused, hmem, hrefused⟩ hforced
    cases label with
    | shield args asRoot before after answer =>
        obtain ⟨hgranted, hforces, hthere⟩ := hforced
        obtain rfl := (closesByForce_iff hthere).mp hforces
        obtain ⟨first, w, between, rfl, rfl, hw, hbetween⟩ :=
          h.purge_split _ _ _ _ _ _ _ hsplit rfl
        refine hgoes first _ _ (by rw [hsplit, List.append_assoc, List.cons_append]) w rfl
          ⟨refused, ?_, hrefused⟩ ⟨before, hw, hgranted, hthere⟩
        rw [List.append_cons] at hmem
        refine (List.mem_append.mp hmem).resolve_right fun hbetweens => ?_
        exact not_refused_of_noClose (hbetween refused hbetweens).noClose hrefused
    | _ => exact hforced

/-! ## A resume -/

section Resume

variable {σ : Type} {bench : Bench σ} {runner : Runner}

/-- The state in which a resume closes the shield, if it does: there is a
journal of a run that has not ended, the shield says that it is armed, and the
resume is not a dry run. -/
def resumeCloses (bench : Bench σ) (runner : Runner) (s : σ) : Option σ :=
  let loaded := bench.loadJournal s
  let told := bench.shield ["--status"] true loaded.1
  if (loaded.2.any fun events => !events.isEmpty && "RUNNER_DONE" ∉ events) &&
      (told.2.any fun answer => contains "STATUS=ARMED".toList answer.2.toList) &&
      !runner.dryRun then some told.1 else none

/-- The close that begins in `s` is refused. -/
def CloseRefused (bench : Bench σ) (s : σ) : Prop := RefusedClose (closing bench s)

theorem noClose_journal (bench : Bench σ) (event status : String) :
    Attempt.Does NoClose (fun _ => True) (journal bench event status) :=
  does_perform fun _ => trivial

theorem noClose_stepShieldPurge :
    Attempt.Does NoClose (fun _ => True) (stepShieldPurge bench runner) := by
  have hpurge : Attempt.Does NoClose (fun _ => True)
      (runShield bench ["--uninstall", "--purge"] true) := by
    refine does_perform fun s => ?_
    exact (by simp : ["--uninstall", "--purge"] ≠ ["--close-session"])
  unfold stepShieldPurge unlessDry
  split
  · exact (noClose_journal _ _ _).bind fun _ _ => Attempt.does_pure trivial
  · exact hpurge.bind fun _ _ => (noClose_journal _ _ _).bind fun _ _ => Attempt.does_pure trivial

theorem labels_stepShieldClose (bench : Bench σ) (runner : Runner) (s : σ) :
    ∃ rest, (stepShieldClose bench runner).labels s =
        (if runner.dryRun then [] else [closing bench s]) ++ rest ∧
      ∀ label ∈ rest, NoClose label := by
  unfold stepShieldClose unlessDry
  split
  · have hdry := (noClose_journal bench "SHIELD_CLOSE" "OK").bind
      fun _ _ => Attempt.does_pure (A := NoClose) (P := fun _ => True)
        (a := (runner, "GREEN_DRY_RUN")) trivial
    exact ⟨_, rfl, (hdry s).1⟩
  · exact labels_shieldStep (P := fun _ => True) bench ["--close-session"]
      (fun r => (noClose_journal _ _ _).bind fun _ _ => Attempt.does_pure trivial) s

/-- What the close and the purge of a resume show: one call of
`--close-session` at most, and nothing else that closes. -/
theorem labels_close_purge (bench : Bench σ) (runner : Runner) (s : σ) :
    ∃ rest, (do
        let _ ← stepShieldClose bench runner
        let _ ← stepShieldPurge bench runner
        pure () : Attempt σ (Label σ) Unit).labels s =
        (if runner.dryRun then [] else [closing bench s]) ++ rest ∧
      ∀ label ∈ rest, NoClose label := by
  have hpurge : Attempt.Does NoClose (fun _ => True) (do
      let _ ← stepShieldPurge bench runner
      pure () : Attempt σ (Label σ) Unit) :=
    noClose_stepShieldPurge.bind fun _ _ => Attempt.does_pure trivial
  obtain ⟨rest, hlabels, hrest⟩ := labels_stepShieldClose bench runner s
  rw [Attempt.labels_bind, hlabels, List.append_assoc]
  refine ⟨_, rfl, List.forall_mem_append.mpr ⟨hrest, ?_⟩⟩
  cases (stepShieldClose bench runner).result s with
  | none => simp
  | some r => exact (hpurge _).1

/-- The shield is asked for its status, and closed if it says that it is armed. -/
theorem labels_closeIfArmed_split (bench : Bench σ) (runner : Runner) (s : σ) :
    ∃ first rest, (closeIfArmed bench runner).labels s = first ++
        (if (bench.shield ["--status"] true s).2.any
            (fun answer => contains "STATUS=ARMED".toList answer.2.toList) && !runner.dryRun
          then [closing bench (bench.shield ["--status"] true s).1] else []) ++ rest ∧
      (∀ label ∈ first, Aside label) ∧ ∀ label ∈ rest, NoClose label := by
  refine ⟨[.shield ["--status"] true s (bench.shield ["--status"] true s).1
    (bench.shield ["--status"] true s).2], ?_⟩
  have hfirst : Aside (.shield ["--status"] true s (bench.shield ["--status"] true s).1
      (bench.shield ["--status"] true s).2) := ⟨by simp, by simp⟩
  simp only [closeIfArmed, shieldIsArmed, runShield, perform, Attempt.labels_bind,
    Attempt.labels_action, Attempt.result_bind, Attempt.result_action, Attempt.after_bind,
    Attempt.after_action]
  cases htold : (bench.shield ["--status"] true s).2 with
  | none => exact ⟨[], by simp, by simpa [htold] using hfirst, by simp⟩
  | some answer =>
      rw [htold] at hfirst
      simp only [Option.elim_some, Attempt.labels_pure, Attempt.result_pure, Attempt.after_pure,
        List.append_nil, Option.bind_some, Option.any_some]
      by_cases harmed : contains "STATUS=ARMED".toList answer.2.toList = true
      · obtain ⟨rest, hlabels, hrest⟩ :=
          labels_close_purge bench runner (bench.shield ["--status"] true s).1
        rw [if_pos harmed, hlabels]
        simp only [harmed, Bool.true_and, ← List.append_assoc]
        exact ⟨rest, by cases runner.dryRun <;> rfl, List.forall_mem_singleton.mpr hfirst, hrest⟩
      · have hsilent : contains "STATUS=ARMED".toList answer.2.toList = false := by
          simpa only [Bool.not_eq_true] using harmed
        rw [if_neg harmed]
        simp only [hsilent, Bool.false_and]
        exact ⟨[], rfl, List.forall_mem_singleton.mpr hfirst, by simp⟩

/-- A resume closes the shield once, in the state of `resumeCloses`, or never. -/
theorem labels_resume (bench : Bench σ) (runner : Runner) (s : σ) :
    ∃ first rest, (resume bench runner).labels s =
        first ++ (resumeCloses bench runner s).toList.map (closing bench) ++ rest ∧
      (∀ label ∈ first, Aside label) ∧ ∀ label ∈ rest, NoClose label := by
  have hloaded : Aside (Label.loadJournal : Label σ) := trivial
  simp only [resume, perform, Attempt.labels_bind, Attempt.labels_action, Attempt.result_action,
    Attempt.after_action]
  cases hevents : (bench.loadJournal s).2 with
  | none => exact ⟨[.loadJournal], [], by simp [resumeCloses, hevents], by simpa, by simp⟩
  | some events =>
      rw [Option.elim_some]
      split
      · next hlast =>
          obtain rfl := List.getLast?_eq_none_iff.mp hlast
          exact ⟨[.loadJournal], [], by simp [resumeCloses, hevents], by simpa, by simp⟩
      · next last hlast =>
          have hsome : events.isEmpty = false := by
            cases events with
            | nil => cases hlast
            | cons => rfl
          split
          · next hdone =>
              exact ⟨[.loadJournal], [], by simp [resumeCloses, hevents, hdone], by simpa, by simp⟩
          · next hdone =>
              obtain ⟨first, rest, hlabels, hfirst, hrest⟩ :=
                labels_closeIfArmed_split bench runner (bench.loadJournal s).1
              have hcloses : (resumeCloses bench runner s).toList.map (closing bench) =
                  if (bench.shield ["--status"] true (bench.loadJournal s).1).2.any
                      (fun answer => contains "STATUS=ARMED".toList answer.2.toList) &&
                    !runner.dryRun
                  then [closing bench (bench.shield ["--status"] true (bench.loadJournal s).1).1]
                  else [] := by
                simp only [resumeCloses, hevents, Option.any_some, hsome, hdone, Bool.not_false,
                  not_false_eq_true, decide_true, Bool.true_and]
                split <;> rfl
              refine ⟨.loadJournal :: first, rest, ?_, List.forall_mem_cons.mpr
                ⟨hloaded, hfirst⟩, hrest⟩
              rw [Attempt.labels_bind, hlabels, hcloses]
              cases (closeIfArmed bench runner).result (bench.loadJournal s).1 with
              | none => simp only [Option.elim_none, List.append_nil, List.cons_append,
                  List.nil_append]
              | some _ => simp only [Option.elim_some, Attempt.labels_pure, List.append_nil,
                  List.cons_append, List.nil_append]

end Resume

/-- For a resume the condition is about one state, the one in which it closes.
-/
theorem deviceGoes_resume_iff {runner : Runner} (w : World κ) :
    DeviceGoes site bench ((resume (bench.withShield site) runner).labels w) ↔
      ∀ before, resumeCloses (bench.withShield site) runner w = some before →
        CloseRefused (bench.withShield site) before → ¬PurgeMeetsDevice site bench before := by
  obtain ⟨first, rest, hlabels, hfirst, hrest⟩ := labels_resume (bench.withShield site) runner w
  have hnone {seen labels : List (Label (World κ))} (h : ∀ label ∈ labels, NoClose label) :
      Machine.Always (fun seen label => ∀ before,
        label = closing (bench.withShield site) before →
          (∃ refused ∈ seen ++ [label], RefusedClose refused) →
            ¬PurgeMeetsDevice site bench before) seen labels :=
    Machine.always_of_forall seen fun label hlabel _ before hclosing =>
      absurd hclosing (not_closing (h label hlabel) before)
  rw [DeviceGoes, hlabels, Machine.always_append, Machine.always_append,
    and_iff_left (hnone hrest), and_iff_right (hnone fun label h => (hfirst label h).noClose)]
  cases resumeCloses (bench.withShield site) runner w with
  | none => simp [Machine.Always]
  | some before =>
      simp only [Option.toList_some, List.map_singleton, Machine.Always, List.nil_append, and_true,
        Option.some.injEq, forall_eq']
      constructor
      · exact fun h hrefused => h before rfl ⟨_, by simp, hrefused⟩
      · rintro h other hclosing ⟨refused, hmem, hrefused⟩
        obtain rfl := closing_inj hclosing
        refine h ?_
        rcases List.mem_append.mp hmem with hmem | hmem
        · exact absurd hrefused (not_refused_of_noClose (hfirst refused hmem).noClose)
        · rw [List.mem_singleton.mp hmem] at hrefused
          exact hrefused

section Granted

variable {args : List String} {asRoot : Bool} {w : World κ}

/-- A call that is not denied is a call of the shield's program. -/
theorem withShield_granted (h : site.denied args asRoot w = none) :
    (bench.withShield site).shield args asRoot w =
      ((shieldMain site args w).1, some (shieldMain site args w).2) := by
  simp only [Bench.withShield, h]

theorem labels_runShield (h : site.denied args asRoot w = none) :
    (runShield (bench.withShield site) args asRoot).labels w =
      [.shield args asRoot w (shieldMain site args w).1 (some (shieldMain site args w).2)] := by
  rw [runShield, perform, Attempt.labels_action, withShield_granted h]

theorem result_runShield (h : site.denied args asRoot w = none) :
    (runShield (bench.withShield site) args asRoot).result w =
      some (shieldMain site args w).2 := by
  rw [runShield, perform, Attempt.result_action, withShield_granted h]

theorem after_runShield (h : site.denied args asRoot w = none) :
    (runShield (bench.withShield site) args asRoot).after w = (shieldMain site args w).1 := by
  rw [runShield, perform, Attempt.after_action, withShield_granted h]

end Granted

/-- A text stays in a text that is longer. -/
theorem contains_append {needle hay : List Char} (h : contains needle hay = true)
    (more : List Char) : contains needle (hay ++ more) = true := by
  simp only [contains, decide_eq_true_eq] at h ⊢
  exact h.trans (List.prefix_append hay more).isInfix

/-- The status of an armed session says so. -/
theorem statusCall_armed {w : World κ} {st : ShieldState} (hst : w.file = some st)
    (harmed : st.armed = true) (hopen : st.sessionClosed = false) :
    contains "STATUS=ARMED".toList (statusCall site w).2.toList = true := by
  simp only [statusCall, hst, statusText, harmed, hopen, if_true, Bool.false_eq_true, if_false,
    String.toList_append, List.append_assoc]
  exact contains_append (by decide +kernel) _

/-- Where nothing else happens, `sudo` lets the commands run and no exception
ends them, a refused close is followed by the purge. -/
theorem labels_closeIfArmed {runner : Runner} {w : World κ} {st : ShieldState}
    (hreal : runner.dryRun = false)
    (hquiet : ∀ event status, bench.journal event status w = (w, some ()))
    (hgranted : ∀ args asRoot, site.denied args asRoot w = none)
    (hraises : ∀ args, site.raises args w = none)
    (hst : w.file = some st) (harmed : st.armed = true) (hopen : st.sessionClosed = false)
    (hpresent : stillPresent site.host w.host st ≠ []) :
    ∃ rest, (closeIfArmed (bench.withShield site) runner).labels w =
      [.shield ["--status"] true w w (some (statusCall site w)),
        .shield ["--close-session"] true w w
          (some (1, "CLOSE_RESULT=" ++ closeText .refusedDevicePresent ++ "\n")),
        .journal "SHIELD_CLOSE" "WARN",
        .shield ["--uninstall", "--purge"] true w (uninstallCall site w).1
          (some (uninstallCall site w).2)] ++ rest := by
  have hclose : closeSessionCall site w =
      (w, 1, "CLOSE_RESULT=" ++ closeText .refusedDevicePresent ++ "\n") := by
    simp [closeSessionCall, hst, harmed, run_closeProcess_refused hpresent]
  have hjournal : (bench.withShield site).journal "SHIELD_CLOSE" "WARN" w = (w, some ()) :=
    hquiet _ _
  have harmedText := @statusCall_armed _ site _ _ hst harmed hopen
  have hstatus : shieldMain site ["--status"] w = (w, statusCall site w) := rfl
  have hcloses : shieldMain site ["--close-session"] w = closeSessionCall site w := by
    simp [shieldMain, unlessRaised, hraises]
  have hpurges : shieldMain site ["--uninstall", "--purge"] w = uninstallCall site w := by
    simp [shieldMain, unlessRaised, hraises]
  simp only [closeIfArmed, shieldIsArmed, stepShieldClose, stepShieldPurge, unlessDry, hreal,
    Attempt.labels_bind, Attempt.result_bind, Attempt.after_bind, labels_runShield (hgranted _ _),
    result_runShield (hgranted _ _), after_runShield (hgranted _ _), hstatus, hcloses, hclose,
    hpurges, journal, perform, Attempt.labels_action, Attempt.result_action,
    Attempt.after_action, hjournal, Attempt.labels_pure, Attempt.result_pure, Attempt.after_pure,
    Option.elim_some, Option.bind_some, harmedText, if_true, if_neg Bool.false_ne_true,
    if_neg (one_ne_zero (α := Int)), List.append_nil, List.append_assoc]
  exact ⟨_, rfl⟩

/-- **No force under a device.** Whatever the host and the other programs do:
the shield is not closed by force under a device after a refused close, in a
run if and only if each close that is refused, or comes after one that was,
begins in a state from which the purge does not meet the device, and in a
resume if and only if the state in which it closes is such a state or the close
is not refused there. -/
theorem forced_down_iff (site : Site κ) (bench : Bench (World κ)) (runner : Runner)
    (w : World κ) :
    (NeverForced site ((run (bench.withShield site) runner).labels w) ↔
        DeviceGoes site bench ((run (bench.withShield site) runner).labels w)) ∧
      (NeverForced site ((resume (bench.withShield site) runner).labels w) ↔
        ∀ before, resumeCloses (bench.withShield site) runner w = some before →
          CloseRefused (bench.withShield site) before → ¬PurgeMeetsDevice site bench before) :=
  ⟨neverForced_iff (chained_run _ _ w),
    (neverForced_iff (chained_resume _ _ w)).trans (deviceGoes_resume_iff w)⟩

/-- The shield of the Mac, where `sudo` lets every command run. -/
def homeSite : Site Mac where
  host := macHost
  denied _ _ _ := none
  raises _ _ := none
  sessionId _ := "5f0c1b2a"
  printFingerprint _ := "\x7b\x7d"
  details _ _ := ""
  removeFiles mac :=
    { mac with launchdPlist := false, installedShield := false, stateFile := false }

/-- A bench on which nothing happens by itself; a run has been started on it. -/
def stillBench {σ : Type} : Bench σ where
  loads _ := none
  sha256 _ := ""
  files _ := none
  manifestPath := []
  bundleManifest := []
  firmwareDir := []
  pathExists _ := false
  readJson _ := none
  shield _ _ s := (s, none)
  install s := (s, some 0)
  inspect _ s := (s, none)
  serialPorts s := (s, some [])
  romMode _ s := (s, none)
  findEsptool s := (s, some none)
  writeFlash _ s := (s, none)
  readFlash _ _ _ s := (s, none)
  journal _ _ s := (s, some ())
  loadJournal s := (s, some ["RUNNER_START"])

/-- The device has come, and the session has recorded it. -/
def guardedWorld : World Mac :=
  { visitedWorld with file := some { homeState with untrustedInterfaces := ["en7"] } }

/-- A resume purges the shield that has just refused to close. -/
theorem home_resume_forces :
    ¬NeverForced homeSite
      ((resume (stillBench.withShield homeSite) (Runner.new false false)).labels guardedWorld) := by
  intro h
  have hpresent : stillPresent macHost guardedWorld.host
      { homeState with untrustedInterfaces := ["en7"] } ≠ [] := by decide +kernel
  obtain ⟨rest, hrest⟩ := @labels_closeIfArmed _ homeSite stillBench (Runner.new false false)
    guardedWorld _ rfl (fun _ _ => rfl) (fun _ _ => rfl) (fun _ => rfl) rfl rfl rfl hpresent
  have hlabels : ∃ more,
      (resume (stillBench.withShield homeSite) (Runner.new false false)).labels guardedWorld =
        .loadJournal :: ((closeIfArmed (stillBench.withShield homeSite)
          (Runner.new false false)).labels guardedWorld ++ more) := ⟨_, rfl⟩
  obtain ⟨more, hmore⟩ := hlabels
  rw [NeverForced, Machine.always_iff_split] at h
  have hpurge := h [_, _, _, _] _ _ (by rw [hmore, hrest]; rfl)
  have hrefused : contains "REFUSED_DEVICE_PRESENT".toList ("CLOSE_RESULT=" ++
      closeText .refusedDevicePresent ++ "\n").toList = true := by decide +kernel
  have hthere : DeviceThere homeSite guardedWorld := ⟨_, rfl, rfl, hpresent⟩
  exact hpurge ⟨_, .tail _ (.tail _ (.head _)), rfl, hrefused⟩
    ⟨rfl, (closesByForce_iff hthere).mpr rfl, hthere⟩

end Bootmux.SafeFlash
