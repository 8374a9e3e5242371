/-
Bootmux.Router.AllowlistTheorems — which subnets the allowlist is bound
to on the device.

The probe compares in host order; `wifi_task` hands it the address and
the mask of `esp_netif` as they are, in network byte order. On the
little-endian ESP32-S3 the allowlist entry 192.168.11.1 is therefore
compared as if it were 1.11.168.192. `Bound` is what binding is for:
the allowlist counts as loaded exactly when one of its literals lies in
the subnet of the station, the target is such a literal, and without
one the path stays closed. `allowlist_bound_iff` says on which
addresses and masks the device achieves it.

A subnet is a non-zero address with a non-zero mask; a zero in either
means that there is none, as in `tp_set_subnet`.

A literal has two readings, the one of the header (`Literal.host`) and the
one that the device compares (`Literal.wire`), and `OrderBlind` is the
condition on address and mask that no literal tells them apart. The other
half of the module is about runs: with no accepted address the allowlist is
not loaded, and without a loaded allowlist no reconcile opens the path
(`PathShut`).
-/
import Bootmux.Router.RuntimeTheorems

namespace Bootmux.Router

open Bootmux.Bmx1
open Bootmux.Lib

/-! ## Literals in both byte orders -/

/-- An address as `esp_ip4_addr_t` holds it: octets in network byte
order, the first one least significant. -/
def espIp4 (a b c d : UInt8) : UInt32 :=
  a.toUInt32 ||| (b.toUInt32 <<< 8) ||| (c.toUInt32 <<< 16) ||| (d.toUInt32 <<< 24)

/-- A dotted quad. -/
structure Literal where
  a : UInt8
  b : UInt8
  c : UInt8
  d : UInt8
  deriving DecidableEq, Repr

def Literal.host (l : Literal) : UInt32 := tpIpv4 l.a l.b l.c l.d
def Literal.wire (l : Literal) : UInt32 := espIp4 l.a l.b l.c l.d

def lit11 : Literal := ⟨192, 168, 11, 1⟩
def lit77 : Literal := ⟨192, 168, 77, 1⟩

/-- The literals of `kAllowlist`. -/
def literals : List Literal := [lit11, lit77]

/-- The numbers of the list are the four addresses in host order. -/
theorem kAllowlist_literals : kAllowlist = literals.map Literal.host := rfl

/-- The literal lies in the subnet of the station. -/
def InSubnet (ip netmask : UInt32) (l : Literal) : Prop :=
  ip ≠ 0 ∧ netmask ≠ 0 ∧ sameSubnet l.wire ip netmask = true

/-! ## Runs without a new address -/

def Event.isGotIp : Event → Bool
  | .wifiEvent _ _ _ (.gotIp _) => true
  | _ => false

/-- The allowlist is not loaded and the path is closed. -/
def PathShut (s : State) : Prop :=
  s.probe.allowlistLoaded = false ∧ s.gate.pathOpen = false

/-- What leaves the path leaves it shut. -/
theorem PathShut.of_same {s s' : State} (h : PathShut s) (hs : SamePath s s') :
    PathShut s' := by
  unfold PathShut
  rw [hs.1, hs.2]
  exact h

theorem allowlistLoaded_of_binding {p q : TpState} (h : p.binding = q.binding) :
    p.allowlistLoaded = q.allowlistLoaded := congrArg (fun b => b.2.2.1) h

/-- A reconcile of a state without a loaded allowlist shuts the path. -/
theorem reconcile_shut {s : State} (h : s.probe.allowlistLoaded = false) (env : ReconcileEnv)
    (reason : MgReason) : PathShut (reconcileManagementPath s env reason).1 :=
  ⟨(allowlistLoaded_of_binding (reconcile_binding s env reason)).trans h,
    reconcile_closed h env reason⟩

/-- Without an address there is no target. -/
theorem tpSetSubnet_zero (p : TpState) : (tpSetSubnet p 0 0).allowlistLoaded = false := by
  simp [tpSetSubnet]

/-- The disconnection touches neither the probe nor the path. -/
theorem disconnectedState_path (s : State) (reason : DisconnectReason) :
    SamePath s (disconnectedState s reason).1 := by
  unfold disconnectedState
  cases reason with
  | other =>
      simp only []
      split <;> exact ⟨rfl, rfl⟩
  | _ => exact ⟨rfl, rfl⟩

theorem applyMgmt_allowlist (s : State) (now : Int) (event : MgmtEvent) :
    (applyMgmt s now event).1.probe.allowlistLoaded = s.probe.allowlistLoaded := by
  cases event with
  | probeResult success =>
      exact allowlistLoaded_of_binding (tpRecordResult_binding s.probe success now)
  | _ => rfl

theorem takeCommand_path (s : State) (env : CommandEnv) : SamePath s (takeCommand s env).1 := by
  unfold takeCommand
  split
  · exact ⟨rfl, rfl⟩
  · unfold handleWifiCommand
    split
    · exact ⟨rfl, rfl⟩
    · split
      · exact ⟨rfl, rfl⟩
      · split
        · exact ⟨rfl, rfl⟩
        · split
          · exact ⟨rfl, rfl⟩
          · simp only []
            split <;> exact ⟨rfl, rfl⟩

theorem checkDeadline_path (s : State) (now : Int) (disconnectOk connectOk : Bool) :
    SamePath s (checkDeadline s now disconnectOk connectOk).1 := by
  unfold checkDeadline
  split
  · split
    · simp only []
      split
      · exact ⟨rfl, rfl⟩
      · split <;> exact ⟨rfl, rfl⟩
    · exact ⟨rfl, rfl⟩
  · exact ⟨rfl, rfl⟩

/-- Only a new address can load the allowlist. -/
theorem step_pathShut (s : State) (e : Event) (h : PathShut s) (he : e.isGotIp = false) :
    PathShut (step s e).1 := by
  cases e with
  | connect => exact h
  | disconnect hid => exact h.of_same (sendMgmt_path (gapDisconnectReset s hid).1 _)
  | frame env bytes => exact h.of_same (handleFrame_path s env bytes)
  | tick now => exact h.of_same (dispatcherTimeout_mgmt s now).1
  | wifiEvent env ready endpointText event =>
      cases event with
      | staStart => exact reconcile_shut (s := (setWifiState s .connecting).1) h.1 env _
      | staDisconnected reason =>
          refine reconcile_shut ?_ env _
          rw [(disconnectedState_path _ _).2]
          exact tpSetSubnet_zero s.probe
      | gotIp info => cases he
      | other => exact h
  | command env => exact h.of_same (takeCommand_path s env)
  | mgmt env =>
      simp only [step, takeMgmt]
      split
      · exact h
      · exact reconcile_shut (by rw [applyMgmt_allowlist]; exact h.1) env _
  | deadline now disconnectOk connectOk =>
      exact h.of_same (checkDeadline_path s now disconnectOk connectOk)
  | periodic env => exact reconcile_shut h.1 env _
  | pingResult success => exact h.of_same (sendMgmt_path s _)
  | pingEnd => exact h

/-- The induction over a run without an address. -/
theorem run_pathShut {s : State} (h : PathShut s) (es : List Event)
    (hes : ∀ e ∈ es, e.isGotIp = false) : PathShut (router.runFrom s es) := by
  refine router.runFrom_invariant (P := fun _ e => e.isGotIp = false) step_pathShut es s h ?_
  rw [Machine.allSteps_iff_split]
  rintro before e after rfl
  exact hes e (by simp)

/-! ## The binding -/

/-- What `wifi_task` is to achieve with an address and its mask. -/
structure Bound (s : State) (ip netmask : UInt32) : Prop where
  loaded : s.probe.allowlistLoaded = true ↔ ∃ l ∈ literals, InSubnet ip netmask l
  target : s.probe.allowlistLoaded = true →
    ∃ l ∈ literals, InSubnet ip netmask l ∧ tpSelectTarget s.probe = l.host
  closed : (¬ ∃ l ∈ literals, InSubnet ip netmask l) →
    tpSelectTarget s.probe = 0 ∧ ∀ es : List Event, (∀ e ∈ es, e.isGotIp = false) →
      (router.runFrom s es).gate.pathOpen = false

/-- The comparisons in the wrong byte order give the right answer: the
subnet is none, or the first literal it seems to hold is one it holds,
or it neither holds a literal nor seems to. -/
def OrderBlind (ip netmask : UInt32) : Prop :=
  ip = 0 ∨ netmask = 0 ∨
  (sameSubnet lit11.host ip netmask = true ∧ sameSubnet lit11.wire ip netmask = true) ∨
  (sameSubnet lit11.host ip netmask = false ∧ sameSubnet lit77.host ip netmask = true ∧
    sameSubnet lit77.wire ip netmask = true) ∨
  (∀ l ∈ literals,
    sameSubnet l.host ip netmask = false ∧ sameSubnet l.wire ip netmask = false)

/-- What `tp_set_subnet` makes of an address and a mask. -/
theorem tpSetSubnet_binding (p : TpState) {ip netmask : UInt32} (hip : ip ≠ 0)
    (hmask : netmask ≠ 0) :
    (tpSetSubnet p ip netmask).binding =
      if sameSubnet lit11.host ip netmask then (true, true, true, lit11.host)
      else if sameSubnet lit77.host ip netmask then (true, true, true, lit77.host)
      else (true, true, false, 0) := by
  have hfind : kAllowlist.find? (fun entry => sameSubnet entry ip netmask) =
      if sameSubnet lit11.host ip netmask then some lit11.host
      else if sameSubnet lit77.host ip netmask then some lit77.host else none := by
    simp only [kAllowlist_literals, literals, List.map_cons, List.map_nil, List.find?_cons,
      List.find?_nil]
    cases sameSubnet lit11.host ip netmask <;> cases sameSubnet lit77.host ip netmask <;> rfl
  have hinit : (if p.initialized then p else tpInit).initialized = true := by
    split
    · assumption
    · rfl
  simp only [tpSetSubnet, hip, hmask, or_self, if_false, TpState.binding, hinit, hfind]
  cases sameSubnet lit11.host ip netmask <;> cases sameSubnet lit77.host ip netmask <;> rfl

/-- The target depends on the binding only. -/
theorem tpSelectTarget_binding {p : TpState} {b : Bool × Bool × Bool × UInt32}
    (h : p.binding = b) :
    tpSelectTarget p = if b.1 && b.2.1 && b.2.2.2 != 0 then b.2.2.2 else 0 := by
  subst h
  have hallowed : (p.binding.1 && p.binding.2.1 && p.binding.2.2.2 != 0) = tpProbeAllowed p := rfl
  rw [tpSelectTarget, hallowed]
  cases tpProbeAllowed p <;> rfl

/-- The state after the event, for a subnet. -/
theorem gotIp_binding (s : State) (env : ReconcileEnv) (ready : Bool)
    (endpointText : Option Bytes) {ip : UInt32} (netmask : UInt32) (hip : ip ≠ 0) :
    (step s (.wifiEvent env ready endpointText (.gotIp (some (ip, netmask))))).1.probe.binding =
      (tpSetSubnet s.probe ip netmask).binding := by
  simp only [step, handleWifiEvent, if_neg hip]
  rw [reconcile_binding]
  rfl

/-- Without a literal that it seems to hold, the path is shut. -/
theorem gotIp_shut (s : State) (env : ReconcileEnv) (ready : Bool)
    (endpointText : Option Bytes) (ip netmask : UInt32)
    (h : ip = 0 ∨ (tpSetSubnet s.probe ip netmask).allowlistLoaded = false) :
    PathShut (step s (.wifiEvent env ready endpointText (.gotIp (some (ip, netmask))))).1 := by
  simp only [step, handleWifiEvent]
  split
  · exact reconcile_shut (tpSetSubnet_zero s.probe) env _
  · rename_i hip
    exact reconcile_shut (h.resolve_left hip) env _

/-- An address or a mask of zero takes in no literal. -/
theorem no_literal_of_zero {ip netmask : UInt32} (h : ip = 0 ∨ netmask = 0) :
    ¬ ∃ l ∈ literals, InSubnet ip netmask l := by
  rintro ⟨l, _, hip, hmask, _⟩
  rcases h with h | h
  · exact hip h
  · exact hmask h

theorem host_injective : ∀ l ∈ literals, ∀ l' ∈ literals, l.host = l'.host → l = l' := by
  decide

/-- With a target selected, the binding is right when the target is. -/
theorem bound_of_loaded {s : State} {ip netmask : UInt32} {l : Literal} (hl : l ∈ literals)
    (hloaded : s.probe.allowlistLoaded = true) (htarget : tpSelectTarget s.probe = l.host) :
    Bound s ip netmask ↔ InSubnet ip netmask l := by
  constructor
  · intro h
    obtain ⟨l', hl', hin, ht⟩ := h.target hloaded
    rw [host_injective l hl l' hl' (htarget.symm.trans ht)]
    exact hin
  · intro hin
    exact ⟨⟨fun _ => ⟨l, hl, hin⟩, fun _ => hloaded⟩, fun _ => ⟨l, hl, hin, htarget⟩,
      fun hno => absurd ⟨l, hl, hin⟩ hno⟩

/-- With none selected, the binding is right when there is none. -/
theorem bound_of_unloaded {s : State} {ip netmask : UInt32} (hshut : PathShut s)
    (htarget : tpSelectTarget s.probe = 0) :
    Bound s ip netmask ↔ ¬ ∃ l ∈ literals, InSubnet ip netmask l := by
  constructor
  · intro h hex
    have := h.loaded.mpr hex
    rw [hshut.1] at this
    cases this
  · intro hno
    refine ⟨?_, fun hl => ?_, fun _ => ⟨htarget, fun es hes => (run_pathShut hshut es hes).2⟩⟩
    · rw [hshut.1]
      exact ⟨fun hf => Bool.noConfusion hf, fun hex => absurd hex hno⟩
    · rw [hshut.1] at hl; cases hl

/-- A station without a subnet is bound to nothing. -/
theorem gotIp_zero_bound (s : State) (env : ReconcileEnv) (ready : Bool)
    (endpointText : Option Bytes) {ip netmask : UInt32} (h : ip = 0 ∨ netmask = 0) :
    Bound (step s (.wifiEvent env ready endpointText (.gotIp (some (ip, netmask))))).1
      ip netmask := by
  have hload : (tpSetSubnet s.probe ip netmask).allowlistLoaded = false := by
    simp [tpSetSubnet, h]
  have hshut := gotIp_shut s env ready endpointText ip netmask (Or.inr hload)
  have htarget : tpSelectTarget
      (step s (.wifiEvent env ready endpointText (.gotIp (some (ip, netmask))))).1.probe = 0 := by
    by_cases hip : ip = 0
    · have hb : (step s (.wifiEvent env ready endpointText
          (.gotIp (some (ip, netmask))))).1.probe.binding =
          (tpSetSubnet s.probe 0 0).binding := by
        simp only [step, handleWifiEvent, if_pos hip, refuseIp]
        rw [reconcile_binding]
        rfl
      rw [tpSelectTarget_binding hb]
      simp [TpState.binding, tpSetSubnet]
    · rw [tpSelectTarget_binding (gotIp_binding s env ready endpointText netmask hip)]
      simp [TpState.binding, tpSetSubnet, h]
  exact (bound_of_unloaded hshut htarget).mpr (no_literal_of_zero h)

/-- **When the allowlist is bound to the right subnet.** -/
theorem allowlist_bound_iff (s : State) (env : ReconcileEnv) (ready : Bool)
    (endpointText : Option Bytes) (ip netmask : UInt32) :
    Bound (router.step s (.wifiEvent env ready endpointText (.gotIp (some (ip, netmask))))).1
      ip netmask ↔ OrderBlind ip netmask := by
  by_cases hzero : ip = 0 ∨ netmask = 0
  · refine ⟨fun _ => hzero.imp_right Or.inl, fun _ => ?_⟩
    exact gotIp_zero_bound s env ready endpointText hzero
  obtain ⟨hip, hmask⟩ : ip ≠ 0 ∧ netmask ≠ 0 := not_or.mp hzero
  have hset := tpSetSubnet_binding s.probe hip hmask
  have hb := (gotIp_binding s env ready endpointText netmask hip).trans hset
  have hloaded := congrArg (fun b => b.2.2.1) hb
  have htarget := tpSelectTarget_binding hb
  -- the first literal that seems to lie in the subnet decides
  cases h11 : sameSubnet lit11.host ip netmask with
  | true =>
      rw [h11, if_pos rfl] at hloaded htarget
      refine (bound_of_loaded (l := lit11) (by decide) hloaded (htarget.trans (by decide))).trans ?_
      simp [InSubnet, OrderBlind, hip, hmask, h11, literals]
  | false =>
      cases h77 : sameSubnet lit77.host ip netmask with
      | true =>
          rw [h11, h77] at hloaded htarget
          refine (bound_of_loaded (l := lit77) (by decide) hloaded
            (htarget.trans (by decide))).trans ?_
          simp [InSubnet, OrderBlind, hip, hmask, h11, h77, literals]
      | false =>
          rw [h11, h77] at htarget hset
          have hshut := gotIp_shut s env ready endpointText ip netmask
            (Or.inr (congrArg (fun b => b.2.2.1) hset))
          refine (bound_of_unloaded hshut (htarget.trans (by decide))).trans ?_
          simp [InSubnet, OrderBlind, hip, hmask, h11, h77, literals]

/-- A station at 192.168.11.50 with mask 255.255.255.0 shares the subnet
of 192.168.11.1, and the allowlist is not loaded. -/
theorem allowlist_unbound_home_router :
    ¬ Bound (router.step boot
        (.wifiEvent
          { now := 0, pingStarted := true, netifOk := true, naptOk := true
            proxyWasReady := false, proxyStarted := true }
          false none (.gotIp (some (espIp4 192 168 11 50, espIp4 255 255 255 0))))).1
      (espIp4 192 168 11 50) (espIp4 255 255 255 0) := by
  intro h
  have hin : ∃ l ∈ literals, InSubnet (espIp4 192 168 11 50) (espIp4 255 255 255 0) l :=
    ⟨lit11, by decide, by decide, by decide, by decide⟩
  exact absurd (h.loaded.mpr hin) (by decide)

end Bootmux.Router
