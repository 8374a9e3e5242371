/-
Bootmux.NetworkGuardian.DaemonTheorems — when a run of the guardian's ticks
runs commands.

`Ticked` says once what a tick does to the timers and flags and when it
runs a command. Over a run, `heartbeatFailSince` is the time of a failed
heartbeat after which every tick that looked found another one, and
`wasAttached` remembers a tick that proved the identity. The identity can
be proven by the product name or the serial number alone, while a tick
takes the device for detached by its vendor and product numbers;
`mutations_disciplined` is about the runs in which the two agree.

`Disciplined` is about the whole list of reports. A tick runs a command only
after a heartbeat has failed for as long as the source asks, or where
nothing is attached and a route was left behind or the device has gone; a
tick with an invalid store or an ambiguous identity runs none; and no two
power cycles lie within the cooldown. The proof keeps `Remembers`, which
says what the fields of the guardian mean in terms of the ticks so far, and
reads each reason off it.

The clock and the host may do anything between two ticks.
-/
import Mathlib.Algebra.Order.Ring.Rat
import Bootmux.NetworkGuardian.Daemon
import Bootmux.NetworkGuardian.RepairTheorems

namespace Bootmux.NetworkGuardian

open Bootmux.Lib

section Tick

variable {σ : Type} (host : Host σ) (enforceOwner : Bool) (uid : Nat)

/-! ## What a tick finds -/

/-- The tick gets past the check of the state directory. -/
def looks (o : Observation σ) : Bool := !storeInvalid enforceOwner o.root

def foundProven (o : Observation σ) : Bool :=
  looks enforceOwner o && (proveIdentity host o.host).proven

def foundUnproven (o : Observation σ) : Bool :=
  looks enforceOwner o && !(proveIdentity host o.host).proven

/-- A proven identity and a heartbeat. -/
def foundBeating (o : Observation σ) : Bool :=
  foundProven host enforceOwner o && host.heartbeat o.host bootmuxPeer

/-- A proven identity and no heartbeat. -/
def foundFailed (o : Observation σ) : Bool :=
  foundProven host enforceOwner o && !host.heartbeat o.host bootmuxPeer

/-- The identity is neither proven nor ambiguous. -/
def foundNothing (o : Observation σ) : Bool :=
  foundUnproven host enforceOwner o && !(proveIdentity host o.host).ambiguous

/-- A tick of `g` finds nothing of BOOTMUX. -/
def idles (g : Guardian) (s : σ) : Bool :=
  !(proveIdentity host s).proven && !(proveIdentity host s).ambiguous &&
    !(staleRoute host s || g.wasAttached && !usbPresent host s)

/-- A report with a Wi-Fi power cycle. -/
def TickReport.powerCycled (report : TickReport RepairReport) : Bool :=
  report.ran.any (·.step == .R6)

/-! ## One repair -/

variable {host enforceOwner}

/-- A report of a power cycle has its commands. -/
theorem repairWith_powerCycled {s : σ} {identity : IdentityResult} {baseline : Option Baseline}
    {now : ℚ} {last : Option ℚ}
    (h : (repairWith host s identity baseline now last).2.toggleRan ≠ []) :
    (repairWith host s identity baseline now last).2.toggled = true ∧
      coolingDown now last = false := by
  unfold repairWith at h ⊢
  dsimp only at h ⊢
  split at h
  · rename_i hgo
    rw [if_pos hgo]
    refine ⟨rfl, ?_⟩
    have htoggle := hgo.2.2
    unfold buildWifiTogglePlan at htoggle
    grind
  · exact absurd rfl h

/-- The plan of a repair cycles nothing. -/
theorem step_buildRepairPlan {s : σ} {identity : IdentityResult} {baseline : Option Baseline}
    {c : Command} (hc : c ∈ buildRepairPlan host s identity baseline) : c.step ≠ .R6 := by
  simp only [buildRepairPlan, List.mem_append] at hc
  rcases hc with (((hc | hc) | hc) | hc) | hc
  · obtain ⟨r, -, -, rfl⟩ := (mem_planR1Routes host s).mp hc
    exact Step.noConfusion
  · obtain ⟨service, -, -, -, rfl⟩ := (mem_planR2Service host s).mp hc
    exact Step.noConfusion
  · rw [step_planR3Ipv4 host s hc]
    exact Step.noConfusion
  · rw [step_planR4Dns host s hc]
    exact Step.noConfusion
  · rw [step_planR5Order host s hc]
    exact Step.noConfusion

/-- A repair that ran a command of a power cycle says so, and the cooldown
was over. -/
theorem repairOnce_powerCycled {root : StateRoot Stored} {s : σ} {now : ℚ} {last : Option ℚ}
    {reason : RepairReason}
    (h : (TickReport.repair reason
      (repairOnce host enforceOwner root s now last).2).powerCycled = true) :
    (repairOnce host enforceOwner root s now last).2.toggled = true ∧
      coolingDown now last = false := by
  rcases repairOnce_cases host s enforceOwner root now last with
    ⟨-, hran, htoggle⟩ | ⟨baseline, -, -, heq⟩
  · simp [TickReport.powerCycled, TickReport.ran, hran, htoggle] at h
  · rw [heq] at h ⊢
    apply repairWith_powerCycled
    intro hnone
    obtain ⟨-, hran, -⟩ := repairWith_report host s (proveIdentity host s) baseline now last
    simp only [TickReport.powerCycled, TickReport.ran, hran, hnone, List.append_nil,
      List.any_eq_true, beq_iff_eq] at h
    obtain ⟨c, hc, hstep⟩ := h
    exact step_buildRepairPlan hc hstep

/-- What `doRepair` leaves of the guardian. -/
structure Repaired (g : Guardian) (now : ℚ) (t : Tick σ Stored RepairReport) : Prop where
  failSince : t.guardian.heartbeatFailSince = g.heartbeatFailSince
  wasAttached : t.guardian.wasAttached = g.wasAttached
  toggledAt : t.guardian.lastWifiToggleAt = g.lastWifiToggleAt ∨
    t.guardian.lastWifiToggleAt = some now
  cycled : t.report.powerCycled = true →
    t.guardian.lastWifiToggleAt = some now ∧ coolingDown now g.lastWifiToggleAt = false

/-- What a repair leaves in the guardian. -/
theorem doRepair_repaired (host : Host σ) (enforceOwner : Bool) (g : Guardian) (s : σ)
    (root : StateRoot Stored) (now : ℚ) (reason : RepairReason) :
    Repaired g now (doRepair (recovery host enforceOwner) g s root now reason) := by
  unfold doRepair
  dsimp only
  split
  · exact ⟨rfl, rfl, .inl rfl, fun h => Bool.noConfusion h⟩
  · refine ⟨rfl, rfl, ?_, fun h => ?_⟩
    · dsimp only
      split
      · exact .inr rfl
      · exact .inl rfl
    · obtain ⟨htoggled, hcool⟩ := repairOnce_powerCycled h
      exact ⟨if_pos htoggled, hcool⟩

/-! ## One tick -/

variable (host enforceOwner)

/-- What a tick of `g` does at `o`: when it runs commands, and what becomes
of its timers and flags. -/
structure Ticked (g : Guardian) (o : Observation σ) (t : Tick σ Stored RepairReport) : Prop where
  ran : t.report.ran ≠ [] →
    (foundFailed host enforceOwner o = true ∧ ∃ since, g.heartbeatFailSince = some since ∧
        heartbeatFailSeconds ≤ host.now o.host - since) ∨
      foundNothing host enforceOwner o = true ∧
        (staleRoute host o.host = true ∨
          g.wasAttached = true ∧ usbPresent host o.host = false)
  failSince : ∀ since, t.guardian.heartbeatFailSince = some since →
    g.heartbeatFailSince = some since ∧ looks enforceOwner o = false ∨
      foundFailed host enforceOwner o = true ∧
        (g.heartbeatFailSince = some since ∨ since = host.now o.host)
  wasAttached : t.guardian.wasAttached = true →
    g.wasAttached = true ∨ foundProven host enforceOwner o = true
  toggledAt : t.guardian.lastWifiToggleAt = g.lastWifiToggleAt ∨
    t.guardian.lastWifiToggleAt = some (host.now o.host)
  cycled : t.report.powerCycled = true →
    t.guardian.lastWifiToggleAt = some (host.now o.host) ∧
      coolingDown (host.now o.host) g.lastWifiToggleAt = false

variable {host enforceOwner}

/-- A tick that repairs nothing and leaves no timer running. -/
theorem Ticked.quiet {g : Guardian} {o : Observation σ} {t : Tick σ Stored RepairReport}
    (hran : t.report.ran = [])
    (hsince : t.guardian.heartbeatFailSince = none)
    (hattached : t.guardian.wasAttached = true →
      g.wasAttached = true ∨ foundProven host enforceOwner o = true)
    (hlast : t.guardian.lastWifiToggleAt = g.lastWifiToggleAt) :
    Ticked host enforceOwner g o t where
  ran h := absurd hran h
  failSince since h := by rw [hsince] at h; cases h
  wasAttached := hattached
  toggledAt := .inl hlast
  cycled h := by rw [TickReport.powerCycled, hran] at h; cases h

/-- A tick with the device there. -/
theorem tickAttached_ticked (g : Guardian) (o : Observation σ)
    (hproven : foundProven host enforceOwner o = true) :
    Ticked host enforceOwner g o
      (tickAttached host (recovery host enforceOwner) g o.host o.root (host.now o.host)) := by
  unfold tickAttached
  dsimp only
  split
  · exact .quiet rfl rfl (fun _ => .inr hproven) rfl
  · rename_i hbeat
    have hfailed : foundFailed host enforceOwner o = true := by
      simp [foundFailed, hproven, hbeat]
    have hsince : ∀ since, some (g.heartbeatFailSince.getD (host.now o.host)) = some since →
        g.heartbeatFailSince = some since ∨ since = host.now o.host := by
      intro since heq
      cases hg : g.heartbeatFailSince with
      | none => exact .inr (by rw [hg] at heq; exact (Option.some.inj heq).symm)
      | some t => exact .inl (by rw [hg] at heq; exact heq)
    split
    · rename_i hlong
      -- The timer was running: a timer started by this tick has run for 0 seconds.
      have hran : ∃ since, g.heartbeatFailSince = some since ∧
          heartbeatFailSeconds ≤ host.now o.host - since := by
        rcases hsince _ rfl with hg | hnow
        · exact ⟨_, hg, hlong⟩
        · rw [hnow, sub_self] at hlong
          exact absurd hlong (by decide +kernel)
      have hrepair := doRepair_repaired host enforceOwner
        { g with state := .attached, wasAttached := true, stableSince := none
                 heartbeatFailSince := some (g.heartbeatFailSince.getD (host.now o.host)) }
        o.host o.root (host.now o.host) .heartbeatLoss
      split
      · exact ⟨fun _ => .inl ⟨hfailed, hran⟩,
          fun since h => .inr ⟨hfailed, hsince since (hrepair.failSince.symm.trans h)⟩,
          fun _ => .inr hproven, hrepair.toggledAt, hrepair.cycled⟩
      · exact ⟨fun _ => .inl ⟨hfailed, hran⟩, fun since h => (nomatch h),
          fun _ => .inr hproven, hrepair.toggledAt, hrepair.cycled⟩
    · exact ⟨fun h => absurd rfl h, fun since h => .inr ⟨hfailed, hsince since h⟩,
        fun _ => .inr hproven, .inl rfl, fun h => nomatch h⟩

/-- A tick without it. -/
theorem tickIdle_ticked {g : Guardian} (o : Observation σ) (hsince : g.heartbeatFailSince = none)
    {g₀ : Guardian} (hlast : g.lastWifiToggleAt = g₀.lastWifiToggleAt) :
    Ticked host enforceOwner g₀ o
      (tickIdle host (recovery host enforceOwner) enforceOwner uid g o.host o.root
        (host.now o.host)) := by
  have hquiet : ∀ t : Tick σ Stored RepairReport, t.report.ran = [] →
      t.guardian.heartbeatFailSince = g.heartbeatFailSince → t.guardian.wasAttached = false →
      t.guardian.lastWifiToggleAt = g.lastWifiToggleAt → Ticked host enforceOwner g₀ o t := by
    intro t hran hsame hattached htoggle
    exact .quiet hran (hsame.trans hsince) (by simp [hattached]) (htoggle.trans hlast)
  unfold tickIdle
  dsimp only
  split
  · exact hquiet _ rfl rfl rfl rfl
  · exact hquiet _ rfl rfl rfl rfl
  · split
    · split
      · split
        · exact hquiet _ rfl rfl rfl rfl
        · exact hquiet _ rfl rfl rfl rfl
      · exact hquiet _ rfl rfl rfl rfl
    · exact hquiet _ rfl rfl rfl rfl

/-- **One tick**, whatever the observation is. -/
theorem ticked (g : Guardian) (o : Observation σ) :
    Ticked host enforceOwner g o (tickAt host enforceOwner uid g o) := by
  unfold tickAt tick
  dsimp only
  split
  · rename_i hinvalid
    exact ⟨fun h => absurd rfl h, fun since h => .inl ⟨h, by simp [looks, hinvalid]⟩,
      fun h => .inl h, .inl rfl, fun h => nomatch h⟩
  · rename_i hvalid
    have hlooks : looks enforceOwner o = true := by simpa [looks] using hvalid
    split
    · rename_i hproven
      exact tickAttached_ticked g o (by simp [foundProven, hlooks, hproven])
    · rename_i hproven
      have hunproven : foundUnproven host enforceOwner o = true := by
        simp [foundUnproven, hlooks, hproven]
      split
      · exact .quiet rfl rfl (fun h => .inl h) rfl
      · rename_i hambiguous
        have hnothing : foundNothing host enforceOwner o = true := by
          simp [foundNothing, hunproven, hambiguous]
        split
        · rename_i hrepairs
          have hwhy : staleRoute host o.host = true ∨
              g.wasAttached = true ∧ usbPresent host o.host = false := by simpa using hrepairs
          generalize (if staleRoute host o.host = true then RepairReason.staleRoute
            else RepairReason.usbDetached) = reason
          have hrepair := doRepair_repaired host enforceOwner
            { g with heartbeatFailSince := none } o.host o.root (host.now o.host) reason
          split
          · exact ⟨fun _ => .inr ⟨hnothing, hwhy⟩,
              fun since h => (nomatch hrepair.failSince.symm.trans h),
              fun h => .inl (hrepair.wasAttached.symm.trans h), hrepair.toggledAt, hrepair.cycled⟩
          · exact ⟨fun _ => .inr ⟨hnothing, hwhy⟩,
              fun since h => (nomatch hrepair.failSince.symm.trans h),
              fun h => (nomatch h), hrepair.toggledAt, hrepair.cycled⟩
        · exact tickIdle_ticked uid o rfl rfl

/-! ## Runs -/

variable (host enforceOwner)

/-- A tick at `since` found a failed heartbeat, and every tick after it that
looked found another. -/
def FailingSince (ticks : List (Observation σ)) (since : ℚ) : Prop :=
  ∃ before e between, ticks = before ++ e :: between ∧ host.now e.host = since ∧
    foundFailed host enforceOwner e = true ∧
    ∀ x ∈ between, foundBeating host enforceOwner x = false ∧
      foundUnproven host enforceOwner x = false

/-- A tick that proves the identity finds the device it later takes for
detached. -/
def usbAgrees (o : Observation σ) : Bool :=
  !foundProven host enforceOwner o || usbPresent host o.host

/-- What the guardian remembers of its ticks. -/
structure Remembers (ticks : List (Observation σ)) (g : Guardian) : Prop where
  failing : ∀ since, g.heartbeatFailSince = some since →
    FailingSince host enforceOwner ticks since
  attached : g.wasAttached = true →
    ∃ e ∈ ticks, foundProven host enforceOwner e = true ∧ usbPresent host e.host = true

variable {host enforceOwner}

/-- One more failing tick goes on with the failure. -/
theorem FailingSince.concat {ticks : List (Observation σ)} {since : ℚ}
    (h : FailingSince host enforceOwner ticks since) {o : Observation σ}
    (hbeat : foundBeating host enforceOwner o = false)
    (hproven : foundUnproven host enforceOwner o = false) :
    FailingSince host enforceOwner (ticks ++ [o]) since := by
  obtain ⟨before, e, between, rfl, hnow, hfailed, hbetween⟩ := h
  refine ⟨before, e, between ++ [o], by simp, hnow, hfailed, fun x hx => ?_⟩
  rcases List.mem_append.mp hx with hx | hx
  · exact hbetween x hx
  · rw [List.mem_singleton.mp hx]
    exact ⟨hbeat, hproven⟩

/-- The guardian remembers of the ticks what it needs. -/
theorem Remembers.step {ticks : List (Observation σ)} {g : Guardian}
    (h : Remembers host enforceOwner ticks g) {o : Observation σ}
    (husb : usbAgrees host enforceOwner o = true) :
    Remembers host enforceOwner (ticks ++ [o])
      (tickAt host enforceOwner uid g o).guardian := by
  have ht : Ticked host enforceOwner g o _ := ticked uid g o
  refine ⟨fun since hsince => ?_, fun hattached => ?_⟩
  · rcases ht.failSince since hsince with ⟨hg, hlooks⟩ | ⟨hfailed, hg | hnow⟩
    · refine (h.failing since hg).concat ?_ ?_
      · simp [foundBeating, foundProven, hlooks]
      · simp [foundUnproven, hlooks]
    · refine (h.failing since hg).concat ?_ ?_
      · simp only [foundFailed, Bool.and_eq_true, Bool.not_eq_true'] at hfailed
        simp [foundBeating, hfailed.2]
      · simp only [foundFailed, foundProven, Bool.and_eq_true] at hfailed
        simp [foundUnproven, hfailed.1.2]
    · exact ⟨ticks, o, [], rfl, hnow.symm, hfailed, by simp⟩
  · rcases ht.wasAttached hattached with hg | hproven
    · obtain ⟨e, he, hfound⟩ := h.attached hg
      exact ⟨e, List.mem_append_left _ he, hfound⟩
    · refine ⟨o, by simp, hproven, ?_⟩
      simpa [usbAgrees, hproven] using husb

variable (host enforceOwner)

/-- The report of the tick at `o` after the ticks `before`. -/
def reportAt (before : List (Observation σ)) (o : Observation σ) : TickReport RepairReport :=
  (tickAt host enforceOwner uid ((guardianMachine host enforceOwner uid).run before) o).report

/-- A tick may run commands: the heartbeat is lost, or BOOTMUX is gone and
left a route or was unplugged. -/
def MayRun (before : List (Observation σ)) (o : Observation σ) : Prop :=
  (foundFailed host enforceOwner o = true ∧ ∃ since,
      FailingSince host enforceOwner before since ∧
        heartbeatFailSeconds ≤ host.now o.host - since) ∨
    foundNothing host enforceOwner o = true ∧
      (staleRoute host o.host = true ∨ usbPresent host o.host = false ∧
        ∃ e ∈ before, foundProven host enforceOwner e = true ∧ usbPresent host e.host = true)

/-- The discipline over a run: commands only where they may run, none on an
ambiguous identity or an invalid store, and power cycles at least 120
seconds apart. -/
structure Disciplined (es : List (Observation σ)) : Prop where
  mayRun : ∀ before o after, es = before ++ o :: after →
    (reportAt host enforceOwner uid before o).ran ≠ [] → MayRun host enforceOwner before o
  stopped : ∀ before o after, es = before ++ o :: after →
    storeInvalid enforceOwner o.root = true ∨ (proveIdentity host o.host).ambiguous = true →
    (reportAt host enforceOwner uid before o).ran = []
  apart : ∀ before o between o' after, es = before ++ o :: (between ++ o' :: after) →
    (reportAt host enforceOwner uid before o).powerCycled = true →
    (reportAt host enforceOwner uid (before ++ o :: between) o').powerCycled = true →
    wifiToggleCooldownSeconds ≤ host.now o'.host - host.now o.host

variable {host enforceOwner}

/-- The induction over a run. -/
theorem remembers {es : List (Observation σ)}
    (husb : ∀ o ∈ es, usbAgrees host enforceOwner o = true) :
    Remembers host enforceOwner es ((guardianMachine host enforceOwner uid).run es) := by
  have hall := (guardianMachine host enforceOwner uid).allSteps_and
    ((guardianMachine host enforceOwner uid).allSteps_of_forall (P := fun _ _ => True)
      (fun _ _ => trivial) (guardianMachine host enforceOwner uid).init es) husb
  exact (guardianMachine host enforceOwner uid).events_invariant
    (I := fun ticks g => Remembers host enforceOwner ticks g)
    ⟨fun _ h => (nomatch h), fun h => (nomatch h)⟩ (fun _ _ _ h ho => h.step uid ho.2) es hall

/-- After a power cycle the guardian holds its time or a later one. -/
theorem toggledAt_le {o : Observation σ} {g : Guardian} {es : List (Observation σ)}
    (hclock : ∀ o' ∈ es, host.now o.host ≤ host.now o'.host)
    (hg : ∃ last, g.lastWifiToggleAt = some last ∧ host.now o.host ≤ last) :
    ∃ last, ((guardianMachine host enforceOwner uid).runFrom g es).lastWifiToggleAt = some last ∧
      host.now o.host ≤ last := by
  induction es generalizing g with
  | nil => exact hg
  | cons o' es ih =>
      refine ih (fun x hx => hclock x (List.mem_cons_of_mem _ hx)) ?_
      rcases (ticked uid g o').toggledAt with hsame | hnow
      · exact hsame ▸ hg
      · exact ⟨_, hnow, hclock o' List.mem_cons_self⟩

theorem ambiguous_of_proven {s : σ} (h : (proveIdentity host s).proven = true) :
    (proveIdentity host s).ambiguous = false := by
  rcases proveIdentity_cases host s with ⟨-, -, h', -⟩ | ⟨-, -, -, -, h', -⟩ | ⟨-, h', -⟩
  · exact h'
  · exact h'
  · rw [h'] at h
    cases h

/-- A store that is invalid, or an ambiguous device, and the tick runs
nothing. -/
theorem ran_stopped (g : Guardian) (o : Observation σ)
    (h : storeInvalid enforceOwner o.root = true ∨ (proveIdentity host o.host).ambiguous = true) :
    (tickAt host enforceOwner uid g o).report.ran = [] := by
  by_contra hran
  have hfound : looks enforceOwner o = true ∧ (proveIdentity host o.host).ambiguous = false := by
    rcases (ticked uid g o).ran hran with ⟨hfailed, -⟩ | ⟨hnothing, -⟩
    · simp only [foundFailed, foundProven, Bool.and_eq_true] at hfailed
      exact ⟨hfailed.1.1, ambiguous_of_proven hfailed.1.2⟩
    · simp only [foundNothing, foundUnproven, Bool.and_eq_true, Bool.not_eq_true'] at hnothing
      exact ⟨hnothing.1.1, hnothing.2⟩
  rcases h with h | h
  · simp [looks, h] at hfound
  · rw [h] at hfound
    exact absurd hfound.2 (by simp)

/-- Two power cycles are at least the cooldown apart. -/
theorem powerCycles_apart {g : Guardian} {o o' : Observation σ} {between : List (Observation σ)}
    (hclock : ∀ x ∈ between, host.now o.host ≤ host.now x.host)
    (hfirst : (tickAt host enforceOwner uid g o).report.powerCycled = true)
    (hsecond : (tickAt host enforceOwner uid ((guardianMachine host enforceOwner uid).runFrom
      (tickAt host enforceOwner uid g o).guardian between) o').report.powerCycled = true) :
    wifiToggleCooldownSeconds ≤ host.now o'.host - host.now o.host := by
  obtain ⟨last, hlast, hle⟩ :=
    toggledAt_le uid hclock ⟨_, ((ticked uid g o).cycled hfirst).1, le_rfl⟩
  have hcool := ((ticked uid _ o').cycled hsecond).2
  rw [hlast] at hcool
  have hcool : wifiToggleCooldownSeconds ≤ host.now o'.host - last := by
    simpa [coolingDown] using hcool
  exact hcool.trans (sub_le_sub_left hle _)

/-- **The guardian runs commands only after a lost heartbeat, on a route it
left behind or when its device was unplugged, in every run in which a
proven identity comes with that device.** -/
theorem mutations_disciplined (host : Host σ) (enforceOwner : Bool) (uid : Nat)
    (es : List (Observation σ)) (hclock : (es.map fun o => host.now o.host).Pairwise (· ≤ ·))
    (husb : ∀ o ∈ es, usbAgrees host enforceOwner o = true) :
    Disciplined host enforceOwner uid es := by
  refine ⟨?_, ?_, ?_⟩
  · rintro before o after rfl hran
    have hremembers : Remembers host enforceOwner before _ :=
      remembers uid fun x hx => husb x (by simp [hx])
    rcases (ticked uid _ o).ran hran with ⟨hfailed, since, hsince, hlong⟩ | ⟨hnothing, hwhy⟩
    · exact .inl ⟨hfailed, since, hremembers.failing since hsince, hlong⟩
    · refine .inr ⟨hnothing, ?_⟩
      rcases hwhy with hstale | ⟨hattached, hgone⟩
      · exact .inl hstale
      · exact .inr ⟨hgone, hremembers.attached hattached⟩
  · rintro before o after - hstop
    exact ran_stopped uid _ o hstop
  · rintro before o between o' after rfl hfirst hsecond
    rw [reportAt, Machine.run_append] at hsecond
    refine powerCycles_apart uid (fun x hx => ?_) hfirst hsecond
    rw [List.map_append, List.pairwise_append, List.map_cons, List.pairwise_cons] at hclock
    exact hclock.2.1.1 _ (List.mem_map_of_mem (by simp [hx]))

end Tick

/-! ## Two runs -/

/-- A host by what changes on it in the runs below. Its Wi-Fi lost the DHCP
mode of the baseline; commands succeed without an effect. -/
structure Snapshot where
  usb : UsbDevice
  bridgeAddresses : List String
  heartbeat : Bool
  clock : ℚ

def snapshotHost : Host Snapshot where
  usbDevices s := [s.usb]
  interfaces s := [⟨"en0", ["192.168.1.50"]⟩, ⟨"en5", s.bridgeAddresses⟩]
  routes _ := [⟨some "default", some "192.168.1.1", some "en0", "UGScg"⟩]
  services _ := [⟨1, "Wi-Fi", some "en0", true⟩]
  wifiDevice _ := some "en0"
  wifiPower _ _ := some true
  wifiSsid _ _ := some "home"
  wifiIpv4 _ _ := ⟨some "manual", some "192.168.1.50", some "255.255.255.0", some "192.168.1.1"⟩
  dns _ _ := ⟨[], []⟩
  heartbeat s _ := s.heartbeat
  now s := s.clock
  run s _ := (s, 0)

/-- That host with nothing of BOOTMUX. -/
def idleAt (clock : ℚ) : Snapshot := ⟨⟨none, none, none, none⟩, [], true, clock⟩

/-- A state directory with the baseline of that Wi-Fi. -/
def dhcpRoot : StateRoot Stored :=
  .directory 0o700 0
    (some ⟨false, 0o600, 0, .object (some 1) []
      (some ⟨⟨some "en0", some "Wi-Fi", some true, some "home", some "dhcp", some "192.168.1.50",
          some "255.255.255.0", some "192.168.1.1", [], []⟩,
        ⟨["Wi-Fi"], [("Wi-Fi", true)]⟩⟩)⟩) none

def bridgeUsb : UsbDevice :=
  ⟨some bootmuxUsbVid, some bootmuxUsbPid, some bootmuxProduct, some bootmuxSerial⟩

/-- The bridge is attached and then its heartbeat fails for six seconds. -/
def silentTicks : List (Observation Snapshot) :=
  [⟨⟨bridgeUsb, ["10.77.0.2"], true, 1000⟩, dhcpRoot⟩,
    ⟨⟨bridgeUsb, ["10.77.0.2"], false, 1001⟩, dhcpRoot⟩,
    ⟨⟨bridgeUsb, ["10.77.0.2"], false, 1007⟩, dhcpRoot⟩]

/-- Its last tick repairs, as it may. -/
theorem mutations_disciplined_silent :
    (silentTicks.map fun o => snapshotHost.now o.host).Pairwise (· ≤ ·) ∧
      (∀ o ∈ silentTicks, usbAgrees snapshotHost true o = true) ∧
      (reportAt snapshotHost true 0 (silentTicks.take 2)
        ⟨⟨bridgeUsb, ["10.77.0.2"], false, 1007⟩, dhcpRoot⟩).ran ≠ [] ∧
      Disciplined snapshotHost true 0 silentTicks :=
  ⟨by decide +kernel, by decide +kernel, by decide +kernel,
    mutations_disciplined snapshotHost true 0 silentTicks (by decide +kernel) (by decide +kernel)⟩

/-- A device known by its product name only. -/
def namedUsb : UsbDevice := ⟨some 0x303A, some 0x1001, some bootmuxProduct, some "1"⟩

/-- The device stays plugged in while its interface loses its address. -/
def renumberedTicks : List (Observation Snapshot) :=
  [⟨⟨namedUsb, ["10.77.0.2"], true, 1000⟩, dhcpRoot⟩, ⟨⟨namedUsb, [], true, 1001⟩, dhcpRoot⟩]

/-- The second tick repairs after a detach that did not happen. -/
theorem detach_imagined :
    (renumberedTicks.map fun o => snapshotHost.now o.host).Pairwise (· ≤ ·) ∧
      ¬ Disciplined snapshotHost true 0 renumberedTicks := by
  refine ⟨by decide +kernel, fun h => ?_⟩
  have hmay := h.mayRun [⟨⟨namedUsb, ["10.77.0.2"], true, 1000⟩, dhcpRoot⟩]
    ⟨⟨namedUsb, [], true, 1001⟩, dhcpRoot⟩ [] rfl (by decide +kernel)
  rcases hmay with ⟨hfailed, -⟩ | ⟨-, hstale | ⟨-, e, he, -, husb⟩⟩
  · exact absurd hfailed (by decide +kernel)
  · exact absurd hstale (by decide +kernel)
  · rw [List.mem_singleton.mp he] at husb
    exact absurd husb (by decide +kernel)

end Bootmux.NetworkGuardian
