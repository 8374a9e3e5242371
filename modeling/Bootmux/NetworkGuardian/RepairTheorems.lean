/-
Bootmux.NetworkGuardian.RepairTheorems — what a repair runs, and when it
leaves the Wi-Fi alone.

The signals that prove an identity are taken from the whole host: a
BOOTMUX device plugged in somewhere and one interface with an address in
10.77.0.0/24, whichever it is. `repair_spares_wifi` says for which hosts
that interface, its service and the routes via 10.77.0.1 are apart from
the Wi-Fi.

The commands of a repair come from three sources: from the identity, whose
interface R1 and R2 look at, from the baseline, which R3 to R5 compare with
the Wi-Fi, and from the power cycle, which R6 plans for the Wi-Fi alone. The
first is the one that the statement is about. The condition (`wifiApart`) is
on the host and the store before the repair: it asks that the interface of
the identity is not the Wi-Fi, that the service found for it is not, and
that no route via the peer leaves through it.
-/
import Bootmux.NetworkGuardian.Repair

namespace Bootmux.NetworkGuardian

section Identity

variable {σ : Type} (host : Host σ) (s : σ)

/-! ## Identity -/

/-- What `proveIdentity` can answer. One candidate and one hardware signal
are two signals, so they are enough. -/
theorem proveIdentity_cases :
    (candidates host s = [] ∧ (proveIdentity host s).proven = false ∧
        (proveIdentity host s).ambiguous = false ∧ (proveIdentity host s).interface = none ∧
        (proveIdentity host s).service = none) ∨
      (∃ iface, candidates host s = [iface] ∧ hardwareSignals host s ≠ [] ∧
        (proveIdentity host s).proven = true ∧ (proveIdentity host s).ambiguous = false ∧
        (proveIdentity host s).interface = some iface.name ∧
        (proveIdentity host s).service =
          serviceForInterface (host.services s) iface.name) ∨
      ((∃ iface, candidates host s = [iface] ∧ hardwareSignals host s = []) ∨
          2 ≤ (candidates host s).length) ∧
        (proveIdentity host s).proven = false ∧ (proveIdentity host s).ambiguous = true := by
  unfold proveIdentity
  split
  · rename_i hnone
    exact .inl ⟨hnone, rfl, rfl, rfl, rfl⟩
  · rename_i iface hone
    have hnet : 1 ≤ (networkSignals host s iface.name).length := by
      simp only [networkSignals, List.length_append, List.length_singleton]
      omega
    dsimp only
    split
    · rename_i henough
      refine .inr (.inl ⟨iface, hone, ?_, rfl, rfl, rfl, rfl⟩)
      exact List.ne_nil_of_length_pos henough.1
    · rename_i hfew
      refine .inr (.inr ⟨.inl ⟨iface, hone, ?_⟩, rfl, rfl⟩)
      by_contra hne
      have hpos : 1 ≤ (hardwareSignals host s).length := List.length_pos_iff.mpr hne
      exact hfew ⟨hpos, Nat.add_le_add hpos hnet⟩
  · rename_i hnone hmany
    refine .inr (.inr ⟨.inr ?_, rfl, rfl⟩)
    match hc : candidates host s, hnone, hmany with
    | [], hnone, _ => exact absurd rfl hnone
    | [iface], _, hmany => exact absurd rfl (hmany iface)
    | _ :: _ :: _, _, _ => simp

end Identity

/-! ## The commands of a repair -/

section Commands

variable {σ : Type} (host : Host σ) (s : σ)

/-- The state after a plan, whatever its commands answer. -/
theorem executePlan_fst (plan : List Command) :
    (executePlan host s plan).1 = plan.foldl (fun s c => (host.run s c.argv).1) s := by
  induction plan generalizing s with
  | nil => rfl
  | cons c plan ih =>
      rw [List.foldl_cons, ← ih]
      simp only [executePlan]
      split <;> rfl

theorem step_planR3Ipv4 {baseline : Option Baseline} {c : Command}
    (hc : c ∈ planR3Ipv4 host s baseline) : c.step = .R3 := by
  unfold planR3Ipv4 at hc
  grind

theorem step_planR4Dns {baseline : Option Baseline} {c : Command}
    (hc : c ∈ planR4Dns host s baseline) : c.step = .R4 := by
  unfold planR4Dns at hc
  grind

theorem step_planR5Order {identity : IdentityResult} {baseline : Option Baseline} {c : Command}
    (hc : c ∈ planR5Order host s identity baseline) : c.step = .R5 := by
  unfold planR5Order at hc
  grind

theorem step_buildWifiTogglePlan {baseline : Option Baseline} {now : ℚ} {last : Option ℚ}
    {c : Command} (hc : c ∈ buildWifiTogglePlan baseline now last) : c.step = .R6 := by
  unfold buildWifiTogglePlan at hc
  grind

/-- The first part deletes the owned routes. -/
theorem mem_planR1Routes {identity : IdentityResult} {c : Command} :
    c ∈ planR1Routes host s identity ↔
      ∃ r ∈ host.routes s, ownedRoute identity.interface r = true ∧ deleteRoute r = c := by
  simp [planR1Routes, and_assoc]

/-- The second part disables the service of the device, if it is on. -/
theorem mem_planR2Service {identity : IdentityResult} {c : Command} :
    c ∈ planR2Service host s identity ↔
      ∃ service, identity.service = some service ∧ service ≠ "" ∧
        serviceEnabled (host.services s) service = true ∧
        c = { argv := ["networksetup", "-setnetworkserviceenabled", service, "off"]
              step := .R2
              purpose := "disable BOOTMUX service " ++ service
              targetService := some service } := by
  unfold planR2Service
  cases identity.service with
  | none => simp
  | some service =>
      by_cases hempty : service = ""
      · simp [hempty]
      · cases henabled : serviceEnabled (host.services s) service <;> simp [hempty, henabled]

/-- Commands of the first two steps come from the first two parts. -/
theorem mem_buildRepairPlan {identity : IdentityResult} {baseline : Option Baseline} {c : Command}
    (hstep : c.step = .R1 ∨ c.step = .R2) :
    c ∈ buildRepairPlan host s identity baseline ↔
      c ∈ planR1Routes host s identity ∨ c ∈ planR2Service host s identity := by
  simp only [buildRepairPlan, List.mem_append]
  constructor
  · rintro ((((h | h) | h) | h) | h)
    · exact .inl h
    · exact .inr h
    · rw [step_planR3Ipv4 host s h] at hstep
      simp at hstep
    · rw [step_planR4Dns host s h] at hstep
      simp at hstep
    · rw [step_planR5Order host s h] at hstep
      simp at hstep
  · rintro (h | h)
    · exact .inl (.inl (.inl (.inl h)))
    · exact .inl (.inl (.inl (.inr h)))

/-- The report has the identity, the plan that ran, and the commands of the
power cycle. -/
theorem repairWith_report (identity : IdentityResult) (baseline : Option Baseline) (now : ℚ)
    (last : Option ℚ) :
    (repairWith host s identity baseline now last).2.identity = identity ∧
      (repairWith host s identity baseline now last).2.ran =
        buildRepairPlan host s identity baseline ∧
      ∀ c ∈ (repairWith host s identity baseline now last).2.toggleRan, c.step = .R6 := by
  unfold repairWith
  dsimp only
  split
  · exact ⟨rfl, rfl, fun c hc => step_buildWifiTogglePlan hc⟩
  · exact ⟨rfl, rfl, by simp⟩

/-- The baseline a repair goes on with, if the store lets it. -/
def repairBaseline (enforceOwner : Bool) (root : StateRoot Stored) : Option (Option Baseline) :=
  match storeBaseline enforceOwner root with
  | .ok none => some none
  | .ok (some (some baseline)) => some (some baseline)
  | _ => none

variable (enforceOwner : Bool) (root : StateRoot Stored) (now : ℚ) (last : Option ℚ)

/-- A repair stops at an ambiguous identity or a bad store, or runs its
plan. -/
theorem repairOnce_cases :
    (((proveIdentity host s).ambiguous = true ∨ repairBaseline enforceOwner root = none) ∧
        (repairOnce host enforceOwner root s now last).2.ran = [] ∧
        (repairOnce host enforceOwner root s now last).2.toggleRan = []) ∨
      ∃ baseline, (proveIdentity host s).ambiguous = false ∧
        repairBaseline enforceOwner root = some baseline ∧
        repairOnce host enforceOwner root s now last =
          repairWith host s (proveIdentity host s) baseline now last := by
  unfold repairOnce repairBaseline
  cases hambiguous : (proveIdentity host s).ambiguous with
  | true => exact .inl ⟨.inl rfl, by simp [hambiguous], by simp [hambiguous]⟩
  | false =>
      match storeBaseline enforceOwner root with
      | .error .stateStoreError => exact .inl ⟨.inr rfl, by simp [hambiguous], by simp [hambiguous]⟩
      | .error .raised => exact .inl ⟨.inr rfl, by simp [hambiguous], by simp [hambiguous]⟩
      | .ok none => exact .inr ⟨none, rfl, rfl, by simp [hambiguous]⟩
      | .ok (some none) => exact .inl ⟨.inr rfl, by simp [hambiguous], by simp [hambiguous]⟩
      | .ok (some (some baseline)) => exact .inr ⟨some baseline, rfl, rfl, by simp [hambiguous]⟩

theorem repairOnce_identity :
    (repairOnce host enforceOwner root s now last).2.identity = proveIdentity host s := by
  unfold repairOnce
  dsimp only
  split
  · rfl
  · split
    · rfl
    · rfl
    · exact (repairWith_report host s _ _ now last).1
    · rfl
    · exact (repairWith_report host s _ _ now last).1

/-- The R1 and R2 commands a repair runs. -/
theorem mem_repairOnce {c : Command} (hstep : c.step = .R1 ∨ c.step = .R2) :
    c ∈ (repairOnce host enforceOwner root s now last).2.ran ++
        (repairOnce host enforceOwner root s now last).2.toggleRan ↔
      (proveIdentity host s).ambiguous = false ∧ (repairBaseline enforceOwner root).isSome ∧
        (c ∈ planR1Routes host s (proveIdentity host s) ∨
          c ∈ planR2Service host s (proveIdentity host s)) := by
  rcases repairOnce_cases host s enforceOwner root now last with
    ⟨hstopped, hran, htoggle⟩ | ⟨baseline, hambiguous, hbaseline, heq⟩
  · rw [hran, htoggle]
    rcases hstopped with h | h <;> simp [h]
  · obtain ⟨-, hran, htoggle⟩ := repairWith_report host s (proveIdentity host s) baseline now last
    rw [heq, hran, List.mem_append, mem_buildRepairPlan host s hstep]
    have hnot : c ∉ (repairWith host s (proveIdentity host s) baseline now last).2.toggleRan := by
      intro hc
      rw [htoggle c hc] at hstep
      simp at hstep
    simp [hnot, hambiguous, hbaseline]

end Commands

/-! ## The Wi-Fi -/

section Wifi

variable {σ : Type} (host : Host σ) (s : σ)

/-- No R1 or R2 command of the report has the Wi-Fi device or a service
bound to it as its target, and that device was not proven to be
BOOTMUX's. -/
def sparesWifi (report : RepairReport) : Prop :=
  ∀ wifi, host.wifiDevice s = some wifi →
    (∀ c ∈ report.ran ++ report.toggleRan, c.step = .R1 ∨ c.step = .R2 →
      c.targetInterface ≠ some wifi ∧
        ∀ svc ∈ host.services s, svc.device = some wifi → c.targetService ≠ some svc.name) ∧
      (report.identity.proven = true → report.identity.interface ≠ some wifi)

/-- No route via the peer goes over the device. -/
def peerRoutesApart (wifi : String) : Prop :=
  ∀ r ∈ host.routes s, r.gateway = some bootmuxPeer → r.interface ≠ some wifi

/-- The service of the interface is not bound to the device under its name,
or it is disabled already. -/
def servicesApart (iface wifi : String) : Prop :=
  ∀ name, serviceForInterface (host.services s) iface = some name → name ≠ "" →
    serviceEnabled (host.services s) name = true →
    ∀ svc ∈ host.services s, svc.device = some wifi → svc.name ≠ name

/-- What BOOTMUX is taken to own is apart from the Wi-Fi device: the one
interface in 10.77.0.0/24 while a BOOTMUX device is plugged in, its
service, and the routes via the peer. With a store that stops a repair
only the interface counts. -/
def wifiApart (enforceOwner : Bool) (root : StateRoot Stored) : Prop :=
  ∀ wifi, host.wifiDevice s = some wifi →
    match candidates host s with
    | [] => (repairBaseline enforceOwner root).isSome → peerRoutesApart host s wifi
    | [iface] =>
        hardwareSignals host s = [] ∨ iface.name ≠ wifi ∧
          ((repairBaseline enforceOwner root).isSome →
            peerRoutesApart host s wifi ∧ servicesApart host s iface.name wifi)
    | _ => True

/-- No route of the Wi-Fi interface is deleted exactly if none of them goes
through the peer. -/
theorem peerRoutesApart_iff (identity : IdentityResult) (wifi : String)
    (hiface : identity.interface ≠ some wifi) :
    (∀ c ∈ planR1Routes host s identity, c.targetInterface ≠ some wifi) ↔
      peerRoutesApart host s wifi := by
  constructor
  · intro h r hr hgateway
    exact h (deleteRoute r) ((mem_planR1Routes host s).mpr
      ⟨r, hr, by simp [ownedRoute, hgateway], rfl⟩)
  · intro h c hc
    obtain ⟨r, hr, howned, rfl⟩ := (mem_planR1Routes host s).mp hc
    intro htarget
    have htarget : r.interface = some wifi := htarget
    simp only [ownedRoute, Bool.or_eq_true, Bool.and_eq_true, beq_iff_eq] at howned
    rcases howned with hgateway | ⟨-, hsame⟩
    · exact h r hr hgateway htarget
    · exact hiface (hsame ▸ htarget)

/-- The Wi-Fi service is spared exactly if it is not the one of the device. -/
theorem servicesApart_iff {identity : IdentityResult} {iface wifi : String}
    (hservice : identity.service = serviceForInterface (host.services s) iface) :
    (∀ c ∈ planR2Service host s identity, ∀ svc ∈ host.services s, svc.device = some wifi →
      c.targetService ≠ some svc.name) ↔ servicesApart host s iface wifi := by
  constructor
  · intro h name hname hne henabled svc hsvc hdevice heq
    refine h _ ((mem_planR2Service host s).mpr ⟨name, hservice.trans hname, hne, henabled, rfl⟩) svc
      hsvc hdevice ?_
    rw [heq]
  · intro h c hc svc hsvc hdevice htarget
    obtain ⟨name, hname, hne, henabled, rfl⟩ := (mem_planR2Service host s).mp hc
    exact h name (hservice.symm.trans hname) hne henabled svc hsvc hdevice
      (Option.some.inj htarget).symm

/-- The two plans one by one: R1 names interfaces, R2 names services. -/
theorem repairOnce_targets (enforceOwner : Bool) (root : StateRoot Stored) (now : ℚ)
    (last : Option ℚ) (wifi : String) :
    (∀ c ∈ (repairOnce host enforceOwner root s now last).2.ran ++
        (repairOnce host enforceOwner root s now last).2.toggleRan, c.step = .R1 ∨ c.step = .R2 →
      c.targetInterface ≠ some wifi ∧
        ∀ svc ∈ host.services s, svc.device = some wifi → c.targetService ≠ some svc.name) ↔
      ((proveIdentity host s).ambiguous = false → (repairBaseline enforceOwner root).isSome →
        (∀ c ∈ planR1Routes host s (proveIdentity host s), c.targetInterface ≠ some wifi) ∧
        ∀ c ∈ planR2Service host s (proveIdentity host s), ∀ svc ∈ host.services s,
          svc.device = some wifi → c.targetService ≠ some svc.name) := by
  constructor
  · intro h hambiguous hstore
    refine ⟨fun c hc => ?_, fun c hc => ?_⟩
    · have hstep : c.step = .R1 := by
        obtain ⟨r, -, -, rfl⟩ := (mem_planR1Routes host s).mp hc
        rfl
      exact (h c ((mem_repairOnce host s _ _ _ _ (.inl hstep)).mpr ⟨hambiguous, hstore, .inl hc⟩)
        (.inl hstep)).1
    · have hstep : c.step = .R2 := by
        obtain ⟨service, -, -, -, rfl⟩ := (mem_planR2Service host s).mp hc
        rfl
      exact (h c ((mem_repairOnce host s _ _ _ _ (.inr hstep)).mpr ⟨hambiguous, hstore, .inr hc⟩)
        (.inr hstep)).2
  · intro h c hc hstep
    obtain ⟨hambiguous, hstore, hplan⟩ := (mem_repairOnce host s _ _ _ _ hstep).mp hc
    obtain ⟨hroutes, hservice⟩ := h hambiguous hstore
    rcases hplan with hplan | hplan
    · refine ⟨hroutes c hplan, fun svc _ _ => ?_⟩
      obtain ⟨r, -, -, rfl⟩ := (mem_planR1Routes host s).mp hplan
      exact (Option.some_ne_none _).symm
    · refine ⟨?_, hservice c hplan⟩
      obtain ⟨service, -, -, -, rfl⟩ := (mem_planR2Service host s).mp hplan
      exact (Option.some_ne_none _).symm

/-- **A repair leaves the Wi-Fi device and its services alone exactly if
what BOOTMUX is taken to own is apart from them.** -/
theorem repair_spares_wifi (enforceOwner : Bool) (root : StateRoot Stored) (now : ℚ)
    (last : Option ℚ) :
    sparesWifi host s (repairOnce host enforceOwner root s now last).2 ↔
      wifiApart host s enforceOwner root := by
  refine forall_congr' fun wifi => imp_congr_right fun hwifi => ?_
  rw [repairOnce_identity, repairOnce_targets]
  rcases proveIdentity_cases host s with
    ⟨hnone, hproven, hambiguous, hiface, hservice⟩ |
    ⟨iface, hone, hsignals, hproven, hambiguous, hiface, hservice⟩ |
    ⟨hcandidates, hproven, hambiguous⟩
  · have hroutes := peerRoutesApart_iff host s (proveIdentity host s) wifi
      (by rw [hiface]; exact (Option.some_ne_none _).symm)
    have hno : planR2Service host s (proveIdentity host s) = [] := by
      simp [planR2Service, hservice]
    simp [hnone, hproven, hambiguous, hroutes, hno]
  · simp only [hone, hproven, hambiguous, hiface, hsignals, false_or, true_imp_iff, ne_eq,
      Option.some.injEq]
    rw [and_comm]
    refine and_congr_right fun hne => imp_congr_right fun hstore => and_congr ?_ ?_
    · exact peerRoutesApart_iff host s _ wifi (by rw [hiface]; simpa using hne)
    · exact servicesApart_iff host s hservice
  · rcases hcandidates with ⟨iface, hone, hsignals⟩ | hmany
    · simp [hone, hproven, hambiguous, hsignals]
    · match hc : candidates host s, hmany with
      | _ :: _ :: _, _ => simp [hproven, hambiguous]

end Wifi

/-! ## A Wi-Fi network in the BOOTMUX range -/

/-- A host whose Wi-Fi has an address in 10.77.0.0/24, with a BOOTMUX device
plugged in that has no network interface. Commands succeed without an
effect. -/
def lanHost : Host Unit where
  usbDevices _ := [⟨some bootmuxUsbVid, some bootmuxUsbPid, some "BOOTMUX Keyboard", some "1"⟩]
  interfaces _ := [⟨"lo0", ["127.0.0.1"]⟩, ⟨"en0", ["10.77.0.23"]⟩]
  routes _ := [⟨some "default", some "10.77.0.254", some "en0", "UGScg"⟩]
  services _ := [⟨1, "Wi-Fi", some "en0", true⟩]
  wifiDevice _ := some "en0"
  wifiPower _ _ := some true
  wifiSsid _ _ := some "office"
  wifiIpv4 _ _ := ⟨some "dhcp", some "10.77.0.23", some "255.255.255.0", some "10.77.0.254"⟩
  dns _ _ := ⟨[], []⟩
  heartbeat _ _ := false
  now _ := 1000
  run s _ := (s, 0)

/-- Its default route is deleted and its Wi-Fi service disabled. -/
theorem repair_attacks_wifi :
    ¬ sparesWifi lanHost () (repairOnce lanHost false .missing () 1000 none).2 := by
  intro h
  exact ((h "en0" rfl).1 (deleteRoute ⟨some "default", some "10.77.0.254", some "en0", "UGScg"⟩)
    (by decide +kernel) (.inl rfl)).1 rfl

end Bootmux.NetworkGuardian
