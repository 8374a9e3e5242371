/-
Bootmux.NetworkGuardian.CaptureTheorems — what the host looked like before a
baseline was captured.

`stableSince` is meant to be the time of the first of the idle ticks up to
now. A tick with a proven identity and a repair set it back; a tick that
fails closed, one with an ambiguous identity and a repair that raises pass
over it. In the runs in which none of these comes while it is set it is
what it is meant to be (`idleSince_run`).

A tick is `quiet` if it looks at the host and finds nothing to do. The
condition of a run (`timerKept`) is on the state before a tick and on what
the tick finds: while the timer is set no tick passes over it. What is shown
of a capture (`CapturedStable`) is then about the host: every tick of the
last ten seconds was quiet.

The times of a run increase strictly. With a clock that stands still two
ticks would have one time, and the first of the idle ticks could not be told
from the second.
-/
import Bootmux.NetworkGuardian.DaemonTheorems

namespace Bootmux.NetworkGuardian

open Bootmux.Lib

section Capture

variable {σ : Type} (host : Host σ) (enforceOwner : Bool) (uid : Nat)

/-! ## One tick -/

/-- A tick of `g` finds no BOOTMUX state, repairs nothing and does not fail
closed. -/
def quiet (g : Guardian) (o : Observation σ) : Bool :=
  looks enforceOwner o && idles host g o.host

/-- A repair with this store raises. -/
def storeRaises (root : StateRoot Stored) : Bool :=
  match storeBaseline enforceOwner root with
  | .error .raised | .ok (some none) => true
  | _ => false

/-- A tick of `g` that is not idle passes over `stableSince`. -/
def passesOver (g : Guardian) (o : Observation σ) : Bool :=
  storeInvalid enforceOwner o.root ||
    !(proveIdentity host o.host).proven &&
      ((proveIdentity host o.host).ambiguous ||
        (staleRoute host o.host || g.wasAttached && !usbPresent host o.host) &&
          storeRaises enforceOwner o.root)

variable {host enforceOwner}

/-- The repair itself ends with a verification, and reports what failed. -/
theorem repairWith_verified (s : σ) (identity : IdentityResult) (baseline : Option Baseline)
    (now : ℚ) (last : Option ℚ) :
    ∃ failed, (repairWith host s identity baseline now last).2.classification =
      .verified failed := by
  unfold repairWith
  dsimp only
  split
  · exact ⟨_, rfl⟩
  · exact ⟨_, rfl⟩

/-- A repair raises only with such a store. -/
theorem storeRaises_of_repairOnce {s : σ} {root : StateRoot Stored} {now : ℚ} {last : Option ℚ}
    (h : (repairOnce host enforceOwner root s now last).2.classification = .raised) :
    storeRaises enforceOwner root = true := by
  have hverified : ∀ baseline, (repairWith host s (proveIdentity host s) baseline now
      last).2.classification ≠ .raised := by
    intro baseline
    obtain ⟨failed, hclass⟩ := repairWith_verified s (proveIdentity host s) baseline now last
    rw [hclass]
    exact Classification.noConfusion
  unfold repairOnce at h
  unfold storeRaises
  dsimp only at h
  split at h
  · cases h
  · split at h
    · cases h
    · rename_i hraised
      rw [hraised]
    · exact absurd h (hverified none)
    · rename_i hblocks
      rw [hblocks]
    · exact absurd h (hverified _)

/-- Where a repair leaves `stableSince`. -/
theorem doRepair_stableSince {g : Guardian} {s : σ} {root : StateRoot Stored} {now since : ℚ}
    {reason : RepairReason}
    (h : (doRepair (recovery host enforceOwner) g s root now reason).guardian.stableSince =
      some since) :
    g.stableSince = some since ∧ storeRaises enforceOwner root = true := by
  unfold doRepair at h
  dsimp only at h
  split at h
  · rename_i hraised
    exact ⟨h, storeRaises_of_repairOnce (of_decide_eq_true hraised)⟩
  · cases h

/-- With the device there the time of quiet starts again. -/
theorem tickAttached_stableSince (g : Guardian) (s : σ) (root : StateRoot Stored) (now : ℚ) :
    (tickAttached host (recovery host enforceOwner) g s root now).guardian.stableSince = none := by
  unfold tickAttached
  dsimp only
  split
  · rfl
  · split
    · rw [Option.eq_none_iff_forall_ne_some]
      intro since hsince
      split at hsince
      · exact nomatch (doRepair_stableSince hsince).1
      · exact nomatch (doRepair_stableSince hsince).1
    · rfl

/-- A repair captures no baseline. -/
theorem doRepair_report (g : Guardian) (s : σ) (root : StateRoot Stored) (now : ℚ)
    (reason : RepairReason) :
    (doRepair (recovery host enforceOwner) g s root now reason).report ≠ .baselineCaptured := by
  unfold doRepair
  dsimp only
  split
  · exact nofun
  · exact nofun

theorem tickAttached_report (g : Guardian) (s : σ) (root : StateRoot Stored) (now : ℚ) :
    (tickAttached host (recovery host enforceOwner) g s root now).report ≠ .baselineCaptured := by
  unfold tickAttached
  dsimp only
  split
  · exact nofun
  · split
    · split
      · exact doRepair_report _ _ _ _ _
      · exact doRepair_report _ _ _ _ _
    · exact nofun

theorem tickIdle_stableSince (g : Guardian) (s : σ) (root : StateRoot Stored) (now : ℚ) :
    (tickIdle host (recovery host enforceOwner) enforceOwner uid g s root
      now).guardian.stableSince = some (g.stableSince.getD now) := by
  unfold tickIdle
  dsimp only
  split
  · rfl
  · rfl
  · split
    · split
      · split
        · rfl
        · rfl
      · rfl
    · rfl

/-- A baseline is captured only after the time of quiet. -/
theorem tickIdle_captured {g : Guardian} {s : σ} {root : StateRoot Stored} {now : ℚ}
    (h : (tickIdle host (recovery host enforceOwner) enforceOwner uid g s root now).report =
      .baselineCaptured) :
    baselineStabilitySeconds ≤ now - g.stableSince.getD now := by
  unfold tickIdle at h
  dsimp only at h
  split at h
  · cases h
  · cases h
  · split at h
    · assumption
    · cases h

/-- The branches of a tick. -/
theorem tick_cases (g : Guardian) (o : Observation σ) :
    (storeInvalid enforceOwner o.root = true ∧
        tickAt host enforceOwner uid g o =
          ⟨{ g with state := .failClosed }, o.host, o.root, .failClosed⟩) ∨
      ((proveIdentity host o.host).proven = true ∧
        tickAt host enforceOwner uid g o =
          tickAttached host (recovery host enforceOwner) g o.host o.root (host.now o.host)) ∨
      ((proveIdentity host o.host).proven = false ∧
        (proveIdentity host o.host).ambiguous = true ∧
        tickAt host enforceOwner uid g o =
          ⟨{ g with heartbeatFailSince := none, state := .auditOnly }, o.host, o.root,
            .auditOnly⟩) ∨
      ((proveIdentity host o.host).proven = false ∧
        (staleRoute host o.host || g.wasAttached && !usbPresent host o.host) = true ∧
        ∃ reason, (tickAt host enforceOwner uid g o).guardian.stableSince =
            (doRepair (recovery host enforceOwner) { g with heartbeatFailSince := none } o.host
              o.root (host.now o.host) reason).guardian.stableSince ∧
          (tickAt host enforceOwner uid g o).report =
            (doRepair (recovery host enforceOwner) { g with heartbeatFailSince := none } o.host
              o.root (host.now o.host) reason).report) ∨
      (quiet host enforceOwner g o = true ∧
        tickAt host enforceOwner uid g o =
          tickIdle host (recovery host enforceOwner) enforceOwner uid
            { g with heartbeatFailSince := none } o.host o.root (host.now o.host)) := by
  unfold tickAt tick
  dsimp only
  split
  · rename_i hinvalid
    exact .inl ⟨hinvalid, rfl⟩
  · rename_i hvalid
    split
    · rename_i hproven
      exact .inr (.inl ⟨hproven, rfl⟩)
    · rename_i hproven
      have hunproven : (proveIdentity host o.host).proven = false := by simpa using hproven
      split
      · rename_i hambiguous
        exact .inr (.inr (.inl ⟨hunproven, hambiguous, rfl⟩))
      · rename_i hambiguous
        split
        · rename_i hdue
          generalize (if staleRoute host o.host = true then RepairReason.staleRoute
            else RepairReason.usbDetached) = reason
          refine .inr (.inr (.inr (.inl ⟨hunproven, hdue, reason, ?_, ?_⟩)))
          · split
            · rfl
            · rfl
          · split
            · rfl
            · rfl
        · rename_i hidle
          refine .inr (.inr (.inr (.inr ⟨?_, rfl⟩)))
          simp [quiet, looks, idles, hvalid, hproven, hambiguous, hidle]

/-- Where a tick leaves `stableSince`. -/
theorem tick_stableSince {g : Guardian} {o : Observation σ} {since : ℚ}
    (h : (tickAt host enforceOwner uid g o).guardian.stableSince = some since) :
    quiet host enforceOwner g o = true ∧
        (g.stableSince = some since ∨ since = host.now o.host) ∨
      passesOver host enforceOwner g o = true ∧ g.stableSince = some since := by
  rcases tick_cases uid g o with ⟨hinvalid, heq⟩ | ⟨-, heq⟩ | ⟨hproven, hambiguous, heq⟩ |
    ⟨hproven, hdue, reason, heq, -⟩ | ⟨hquiet, heq⟩
  · rw [heq] at h
    exact .inr ⟨by simp [passesOver, hinvalid], h⟩
  · rw [heq, tickAttached_stableSince] at h
    cases h
  · rw [heq] at h
    exact .inr ⟨by simp [passesOver, hproven, hambiguous], h⟩
  · rw [heq] at h
    obtain ⟨hsince, hraises⟩ := doRepair_stableSince h
    exact .inr ⟨by simp [passesOver, hproven, hdue, hraises], hsince⟩
  · rw [heq, tickIdle_stableSince] at h
    refine .inl ⟨hquiet, ?_⟩
    cases hg : g.stableSince with
    | none =>
        rw [hg] at h
        exact .inr (Option.some.inj h).symm
    | some t =>
        rw [hg] at h
        exact .inl h

/-- A tick captures only after an idle stretch. -/
theorem tick_captured {g : Guardian} {o : Observation σ}
    (h : (tickAt host enforceOwner uid g o).report = .baselineCaptured) :
    quiet host enforceOwner g o = true ∧ ∃ since, g.stableSince = some since ∧
      baselineStabilitySeconds ≤ host.now o.host - since := by
  rcases tick_cases uid g o with ⟨-, heq⟩ | ⟨-, heq⟩ | ⟨-, -, heq⟩ | ⟨-, -, reason, -, heq⟩ |
    ⟨hquiet, heq⟩
  · rw [heq] at h
    cases h
  · rw [heq] at h
    exact absurd h (tickAttached_report _ _ _ _)
  · rw [heq] at h
    cases h
  · rw [heq] at h
    exact absurd h (doRepair_report _ _ _ _ _)
  · rw [heq] at h
    have hstable := tickIdle_captured uid h
    refine ⟨hquiet, ?_⟩
    cases hg : g.stableSince with
    | none =>
        -- A timer that this tick started has run for 0 seconds.
        simp only [hg, Option.getD_none, sub_self] at hstable
        exact absurd hstable (by decide +kernel)
    | some since =>
        simp only [hg, Option.getD_some] at hstable
        exact ⟨since, rfl, hstable⟩

/-! ## Runs -/

variable (host enforceOwner)

/-- The ticks from one at `since` on were quiet. -/
def IdleSince (ticks : List (Observation σ)) (since : ℚ) : Prop :=
  ∃ early e late, ticks = early ++ e :: late ∧ host.now e.host = since ∧
    ∀ pre x post, ticks = pre ++ x :: post → early.length ≤ pre.length →
      quiet host enforceOwner ((guardianMachine host enforceOwner uid).run pre) x = true

/-- While `stableSince` is set no tick passes over it. -/
def timerKept (g : Guardian) (o : Observation σ) : Prop :=
  g.stableSince = none ∨ passesOver host enforceOwner g o = false

instance (g : Guardian) (o : Observation σ) : Decidable (timerKept host enforceOwner g o) :=
  inferInstanceAs (Decidable (_ ∨ _))

variable {host enforceOwner}

/-- A place in a list that was extended is the new one or one before. -/
theorem concat_eq_append_cons {α : Type} {xs : List α} {a : α} {pre post : List α} {x : α}
    (h : xs ++ [a] = pre ++ x :: post) :
    (pre = xs ∧ x = a) ∨ ∃ post', xs = pre ++ x :: post' := by
  rcases List.eq_nil_or_concat post with rfl | ⟨post', b, rfl⟩
  · obtain ⟨hpre, hx⟩ := List.append_inj' h rfl
    exact .inl ⟨hpre.symm, (List.cons.inj hx).1.symm⟩
  · rw [List.concat_eq_append, ← List.cons_append, ← List.append_assoc] at h
    exact .inr ⟨post', (List.append_inj' h rfl).1⟩

/-- What comes at an earlier place is among what comes before. -/
theorem mem_of_split_lt {α : Type} {pre post early late : List α} {x e : α}
    (h : pre ++ x :: post = early ++ e :: late) (hlt : pre.length < early.length) :
    x ∈ early := by
  rcases List.append_eq_append_iff.mp h with ⟨mid, rfl, hmid⟩ | ⟨mid, rfl, -⟩
  · cases mid with
    | nil => simp at hlt
    | cons y mid =>
        rw [List.cons_append, List.cons.injEq] at hmid
        simp [hmid.1]
  · rw [List.length_append] at hlt
    omega

/-- One more quiet tick goes on with the time of quiet. -/
theorem IdleSince.concat {ticks : List (Observation σ)} {since : ℚ} {o : Observation σ}
    (h : IdleSince host enforceOwner uid ticks since)
    (ho : quiet host enforceOwner ((guardianMachine host enforceOwner uid).run ticks) o = true) :
    IdleSince host enforceOwner uid (ticks ++ [o]) since := by
  obtain ⟨early, e, late, hticks, hnow, hquiet⟩ := h
  refine ⟨early, e, late ++ [o], by simp [hticks], hnow, fun pre x post heq hle => ?_⟩
  rcases concat_eq_append_cons heq with ⟨rfl, rfl⟩ | ⟨post', hsplit⟩
  · exact ho
  · exact hquiet pre x post' hsplit hle

/-- The first quiet tick starts it. -/
theorem IdleSince.start {ticks : List (Observation σ)} {o : Observation σ}
    (ho : quiet host enforceOwner ((guardianMachine host enforceOwner uid).run ticks) o = true) :
    IdleSince host enforceOwner uid (ticks ++ [o]) (host.now o.host) := by
  refine ⟨ticks, o, [], rfl, rfl, fun pre x post heq hle => ?_⟩
  rcases concat_eq_append_cons heq with ⟨rfl, rfl⟩ | ⟨post', hsplit⟩
  · exact ho
  · rw [hsplit, List.length_append, List.length_cons] at hle
    omega

/-- In a run `stableSince` is the time from which on the ticks were quiet. -/
theorem idleSince_run {ticks : List (Observation σ)}
    (hkept : (guardianMachine host enforceOwner uid).AllSteps (timerKept host enforceOwner)
      newGuardian ticks) :
    ∀ since, ((guardianMachine host enforceOwner uid).run ticks).stableSince = some since →
      IdleSince host enforceOwner uid ticks since := by
  induction ticks using List.reverseRecOn with
  | nil => exact fun since h => nomatch h
  | append_singleton ticks o ih =>
      intro since hsince
      rw [Machine.run_concat] at hsince
      rcases tick_stableSince uid hsince with ⟨hquiet, hg | hnow⟩ | ⟨hpasses, hg⟩
      · exact (ih (Machine.allSteps_left _ hkept) since hg).concat uid hquiet
      · rw [hnow]
        exact .start uid hquiet
      · rcases Machine.allSteps_last _ hkept with hnone | hover
        · rw [hnone] at hg
          cases hg
        · rw [hpasses] at hover
          cases hover

/-- A capture at `o` after the ticks `before`: the ticks from one that is at
least the stability time back up to `o` were quiet, and so was every tick
within that time. -/
structure CapturedStable (host : Host σ) (enforceOwner : Bool) (uid : Nat)
    (before : List (Observation σ)) (o : Observation σ) : Prop where
  stretch : ∃ since, IdleSince host enforceOwner uid (before ++ [o]) since ∧
    baselineStabilitySeconds ≤ host.now o.host - since
  window : ∀ pre x post, before ++ [o] = pre ++ x :: post →
    host.now o.host - baselineStabilitySeconds ≤ host.now x.host →
    quiet host enforceOwner ((guardianMachine host enforceOwner uid).run pre) x = true

/-- **A baseline is captured from a stable clean host only, in every run in
which no tick passes over `stableSince`.** -/
theorem captures_stable (host : Host σ) (enforceOwner : Bool) (uid : Nat)
    (es : List (Observation σ)) (hclock : (es.map fun o => host.now o.host).Pairwise (· < ·))
    (hkept : (guardianMachine host enforceOwner uid).AllSteps (timerKept host enforceOwner)
      newGuardian es) :
    ∀ before o after, es = before ++ o :: after →
      reportAt host enforceOwner uid before o = .baselineCaptured →
      CapturedStable host enforceOwner uid before o := by
  rintro before o after rfl hreport
  obtain ⟨hquiet, since, hsince, hlong⟩ := tick_captured uid hreport
  have hstretch : IdleSince host enforceOwner uid (before ++ [o]) since :=
    (idleSince_run uid (Machine.allSteps_left _ hkept) since hsince).concat uid hquiet
  refine ⟨⟨since, hstretch, hlong⟩, fun pre x post hsplit hwindow => ?_⟩
  obtain ⟨early, e, late, hticks, hnow, hidle⟩ := hstretch
  by_cases hle : early.length ≤ pre.length
  · exact hidle pre x post hsplit hle
  · -- A tick before the stretch is too long ago.
    exfalso
    have hx : x ∈ early := mem_of_split_lt (hsplit.symm.trans hticks) (not_le.mp hle)
    have hclock' : ((before ++ [o]).map fun o => host.now o.host).Pairwise (· < ·) :=
      hclock.sublist (((List.Sublist.refl before).append (by simp)).map _)
    rw [hticks, List.map_append, List.pairwise_append] at hclock'
    have hlt : host.now x.host < host.now e.host :=
      hclock'.2.2 _ (List.mem_map_of_mem hx) _ (List.mem_map_of_mem List.mem_cons_self)
    rw [hnow] at hlt
    exact absurd (hwindow.trans_lt hlt) (not_lt.mpr (le_sub_comm.mp hlong))

end Capture

/-- Three idle ticks without a store; the last one captures a baseline. -/
def idleTicks : List (Observation Snapshot) :=
  [⟨idleAt 1000, .missing⟩, ⟨idleAt 1010, .missing⟩, ⟨idleAt 1016, .missing⟩]

/-- The hypothesis is met by quiet ticks that end in a capture. -/
theorem captures_stable_idle :
    reportAt snapshotHost true 0 (idleTicks.take 2) ⟨idleAt 1016, .missing⟩ = .baselineCaptured ∧
      CapturedStable snapshotHost true 0 (idleTicks.take 2) ⟨idleAt 1016, .missing⟩ := by
  have hreport : reportAt snapshotHost true 0 (idleTicks.take 2) ⟨idleAt 1016, .missing⟩ =
      .baselineCaptured := by
    decide +kernel
  exact ⟨hreport, captures_stable snapshotHost true 0 idleTicks (by decide +kernel)
    (by decide +kernel) _ _ [] rfl hreport⟩

/-- An interface in 10.77.0.0/24 without its device. -/
def ambiguousAt (clock : ℚ) : Snapshot := ⟨⟨none, none, none, none⟩, ["10.77.0.2"], true, clock⟩

/-- The tick between the idle ones found an ambiguous identity, and the
timer runs on. -/
theorem capture_after_ambiguous :
    reportAt snapshotHost true 0 [⟨idleAt 1000, .missing⟩, ⟨ambiguousAt 1008, .missing⟩]
        ⟨idleAt 1015, .missing⟩ = .baselineCaptured ∧
      ¬ CapturedStable snapshotHost true 0
        [⟨idleAt 1000, .missing⟩, ⟨ambiguousAt 1008, .missing⟩] ⟨idleAt 1015, .missing⟩ := by
  refine ⟨by decide +kernel, fun h => ?_⟩
  have hquiet := h.window [⟨idleAt 1000, .missing⟩] ⟨ambiguousAt 1008, .missing⟩
    [⟨idleAt 1015, .missing⟩] rfl (by decide +kernel)
  exact absurd hquiet (by decide +kernel)

end Bootmux.NetworkGuardian
