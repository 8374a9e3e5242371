/-
Bootmux.Router.RuntimeTheorems — what the actions of the router leave
alone.

The BLE side and the Wi-Fi side of the firmware share one state but
write disjoint parts of it. `handleFrame_path` and its siblings say that
no frame, timeout or connection event touches the gate and the probe;
`reconcile_receiver` and its siblings that no action of `wifi_task`
touches the receiver. Results about one side then never look at the
branches of the other.

For the reconciler itself: `reconcile_binding`, it never rebinds the
probe; `reconcile_lease`, it never touches the lease; and
`reconcile_closed`, without a loaded allowlist it leaves the path closed.

The facts are stated for the functions of the source and put together for
the events of the router: `SameReceiver` and `SamePath` are the parts that
stay, and an event of one side keeps the part of the other. What the
reconciler emits is beside the messages of the receiver (`Effect.isAside`).
-/
import Bootmux.Router.WifiTask

namespace Bootmux.Router

open Bootmux.Bmx1
open Bootmux.Lib
open Bootmux.Lib.Reassembly

/-! ## The reconciler -/

@[simp] theorem refreshInputs_binding (s : State) (now : Int) :
    (refreshInputs s now).probe.binding = s.probe.binding :=
  tpIsReachable_binding s.probe now

@[simp] theorem driveProbe_binding (s : State) (env : ReconcileEnv) :
    (driveProbe s env).1.probe.binding = s.probe.binding := by
  unfold driveProbe
  split
  · simp only []
    split
    · rfl
    · split
      · rfl
      · exact tpRecordResult_binding _ _ _
  · rfl

@[simp] theorem gateCloseReason_binding (s : State) (now : Int) :
    (gateCloseReason s now).2.binding = s.probe.binding := by
  unfold gateCloseReason
  split
  · rfl
  · split
    · rfl
    · simp only []
      split
      · exact tpIsReachable_binding _ _
      · split <;> exact tpIsReachable_binding _ _

@[simp] theorem surfaceCloseReason_binding (s : State) (now : Int) :
    (surfaceCloseReason s now).1.probe.binding = s.probe.binding := by
  unfold surfaceCloseReason
  split
  · rfl
  · exact gateCloseReason_binding s now

/-- A reconcile keeps the probe's binding to the subnet. -/
theorem reconcile_binding (s : State) (env : ReconcileEnv) (reason : MgReason) :
    (reconcileManagementPath s env reason).1.probe.binding = s.probe.binding := by
  simp only [reconcileManagementPath, surfaceCloseReason_binding, reconcileGate,
    refreshInputs_binding, driveProbe_binding]

/-- Asking for the reason leaves the path. -/
theorem mgCloseReasonChanged_frame (state : MgState) (reason : MgReason) :
    (mgCloseReasonChanged state reason).2.pathOpen = state.pathOpen ∧
      (mgCloseReasonChanged state reason).2.leaseDeadlineMs = state.leaseDeadlineMs := by
  unfold mgCloseReasonChanged
  split
  · exact ⟨rfl, rfl⟩
  · split <;> exact ⟨rfl, rfl⟩

@[simp] theorem surfaceCloseReason_pathOpen (s : State) (now : Int) :
    (surfaceCloseReason s now).1.gate.pathOpen = s.gate.pathOpen := by
  unfold surfaceCloseReason
  split
  · rfl
  · exact (mgCloseReasonChanged_frame _ _).1

@[simp] theorem surfaceCloseReason_lease (s : State) (now : Int) :
    (surfaceCloseReason s now).1.gate.leaseDeadlineMs = s.gate.leaseDeadlineMs := by
  unfold surfaceCloseReason
  split
  · rfl
  · exact (mgCloseReasonChanged_frame _ _).2

@[simp] theorem driveProbe_gate (s : State) (env : ReconcileEnv) :
    (driveProbe s env).1.gate = s.gate := by
  unfold driveProbe
  split
  · simp only []
    split
    · rfl
    · split <;> rfl
  · rfl

/-- A reconcile keeps the lease. -/
theorem reconcile_lease (s : State) (env : ReconcileEnv) (reason : MgReason) :
    (reconcileManagementPath s env reason).1.gate.leaseDeadlineMs =
      s.gate.leaseDeadlineMs := by
  simp [reconcileManagementPath, reconcileGate, refreshInputs]

theorem tpAllowlistLoaded_binding (p : TpState) :
    tpAllowlistLoaded p = (p.binding.1 && p.binding.2.2.1) := rfl

/-- Without a loaded allowlist a reconcile leaves the path closed. -/
theorem reconcile_closed {s : State} (h : s.probe.allowlistLoaded = false)
    (env : ReconcileEnv) (reason : MgReason) :
    (reconcileManagementPath s env reason).1.gate.pathOpen = false := by
  simp only [reconcileManagementPath, surfaceCloseReason_pathOpen, reconcileGate]
  rw [Bool.eq_false_iff]
  intro hopen
  have hshould := mgReconcile_pathOpen _ _ _ _ _ hopen
  have hloaded := ((mgShouldOpen_iff _ _).mp hshould).2.2.1
  simp only [refreshInputs, tpAllowlistLoaded_binding, tpIsReachable_binding,
    driveProbe_binding] at hloaded
  simp [TpState.binding, h] at hloaded

/-! ## The receiver and the reconciler -/

/-- The part of the state that the receiver of frames owns, but for the
completed cache, which the network commands share. -/
def SameReceiver (s s' : State) : Prop :=
  s'.session = s.session ∧ s'.outputEnabled = s.outputEnabled ∧ s'.stopped = s.stopped ∧
    s'.text = s.text ∧ s'.wifi = s.wifi

theorem SameReceiver.refl (s : State) : SameReceiver s s := ⟨rfl, rfl, rfl, rfl, rfl⟩

theorem SameReceiver.trans {s s' s'' : State} (h : SameReceiver s s')
    (h' : SameReceiver s' s'') : SameReceiver s s'' := by
  obtain ⟨h1, h2, h3, h4, h5⟩ := h
  obtain ⟨k1, k2, k3, k4, k5⟩ := h'
  exact ⟨k1.trans h1, k2.trans h2, k3.trans h3, k4.trans h4, k5.trans h5⟩

/-- Effects that are neither a HID report nor a record of the receiver's
own bookkeeping. -/
def Effect.isAside : Effect → Bool
  | .report _ _ => false
  | .text _ => false
  | .wifi _ => false
  | .command _ => false
  | .stop => false
  | .resume => false
  | _ => true

/-- An action that leaves the receiver alone and only makes asides. -/
def Aside (s : State) (r : State × List Effect) : Prop :=
  SameReceiver s r.1 ∧ ∀ x ∈ r.2, x.isAside = true

theorem Aside.nil (s : State) : Aside s (s, []) := ⟨.refl s, by simp⟩

/-- Driving the probe is beside the receiver. -/
theorem driveProbe_aside (s : State) (env : ReconcileEnv) : Aside s (driveProbe s env) := by
  unfold driveProbe
  split
  · simp only []
    split
    · exact .nil s
    · split
      · exact ⟨.refl s, by simp [Effect.isAside]⟩
      · exact ⟨.refl s, by simp⟩
  · exact .nil s

theorem reconcileGate_aside (s : State) (env : ReconcileEnv) (reason : MgReason) :
    Aside s (reconcileGate s env reason) := by
  have hkeeps : (gateActions env).Keeps fun ctx => ∀ x ∈ ctx.effects, x.isAside = true := by
    constructor
    · intro ctx h; exact h
    · intro ctx h; exact h
    · intro ctx h
      simp only [runStart, gateActions]
      split
      · exact h
      · split <;> exact h
    · intro ctx h x hx
      rcases List.mem_append.mp hx with hx | hx
      · exact h x hx
      · rw [List.mem_singleton.mp hx]; rfl
    · intro ctx h; exact h
    · intro ctx h; exact h
    · intro marker ctx h x hx
      rcases List.mem_append.mp hx with hx | hx
      · exact h x hx
      · rw [List.mem_singleton.mp hx]; rfl
  exact ⟨.refl s, mgReconcile_keeps hkeeps s.gate env.now reason (by simp)⟩

theorem surfaceCloseReason_aside (s : State) (now : Int) :
    Aside s (surfaceCloseReason s now) := by
  unfold surfaceCloseReason
  split
  · exact .nil s
  · refine ⟨.refl s, ?_⟩
    simp only []
    split <;> simp [Effect.isAside]

/-- A reconcile leaves the receiver alone. -/
theorem reconcile_aside (s : State) (env : ReconcileEnv) (reason : MgReason) :
    Aside s (reconcileManagementPath s env reason) := by
  obtain ⟨hs1, he1⟩ := driveProbe_aside (refreshInputs s env.now) env
  obtain ⟨hs2, he2⟩ := reconcileGate_aside
    (refreshInputs (driveProbe (refreshInputs s env.now) env).1 env.now) env reason
  obtain ⟨hs3, he3⟩ := surfaceCloseReason_aside (reconcileGate
    (refreshInputs (driveProbe (refreshInputs s env.now) env).1 env.now) env reason).1 env.now
  refine ⟨(SameReceiver.trans hs1 hs2).trans hs3, ?_⟩
  intro x hx
  simp only [reconcileManagementPath, List.mem_append] at hx
  rcases hx with (hx | hx) | hx
  · exact he1 x hx
  · exact he2 x hx
  · exact he3 x hx

/-! ## The tasks -/

theorem setWifiState_aside (s : State) (state : WifiState) :
    Aside s (setWifiState s state) :=
  ⟨.refl s, by simp [setWifiState, notifyNetwork, Effect.isAside]⟩

theorem notifyProxyStatus_aside (s : State) (ready : Bool) (endpointText : Option Bytes)
    (status : ProxyStatus) :
    (notifyProxyStatus s ready endpointText status).isAside = true := by
  unfold notifyProxyStatus
  split
  · split <;> rfl
  · rfl

/-- Two asides in sequence, with asides in between. -/
theorem Aside.append {s : State} {r r' : State × List Effect} (h : Aside s r)
    (h' : Aside r.1 r') : Aside s (r'.1, r.2 ++ r'.2) := by
  refine ⟨h.1.trans h'.1, ?_⟩
  intro x hx
  rcases List.mem_append.mp hx with hx | hx
  · exact h.2 x hx
  · exact h'.2 x hx

theorem disconnectedState_aside (s : State) (reason : DisconnectReason) :
    Aside s (disconnectedState s reason) := by
  unfold disconnectedState
  split
  · exact setWifiState_aside _ _
  · exact setWifiState_aside _ _
  · exact setWifiState_aside _ _
  · exact setWifiState_aside _ _
  · exact setWifiState_aside _ _
  · split
    · exact setWifiState_aside _ _
    · exact .nil s

theorem refuseIp_aside (s : State) (env : ReconcileEnv) (ready : Bool)
    (endpointText : Option Bytes) : Aside s (refuseIp s env ready endpointText) :=
  Aside.append (s := s) (r := (withdrawWifi { s with proxyReady := false },
      [notifyProxyStatus (withdrawWifi { s with proxyReady := false }) ready endpointText
        .error]))
    ⟨.refl s, by simp [notifyProxyStatus_aside]⟩ (reconcile_aside _ _ _)

theorem handleWifiEvent_aside (s : State) (env : ReconcileEnv) (ready : Bool)
    (endpointText : Option Bytes) (event : WifiEvent) :
    Aside s (handleWifiEvent s env ready endpointText event) := by
  cases event with
  | staStart => exact (setWifiState_aside s _).append (reconcile_aside _ _ _)
  | staDisconnected reason =>
      refine Aside.append (r := ((disconnectedState (withdrawWifi s) reason).1,
        [notifyProxyStatus (withdrawWifi s) ready endpointText .offline] ++
          (disconnectedState (withdrawWifi s) reason).2)) ?_ (reconcile_aside _ _ _)
      exact Aside.append (r := (withdrawWifi s,
          [notifyProxyStatus (withdrawWifi s) ready endpointText .offline]))
        ⟨.refl s, by simp [notifyProxyStatus_aside]⟩ (disconnectedState_aside _ _)
  | gotIp info =>
      simp only [handleWifiEvent]
      split
      · split
        · exact refuseIp_aside { s with wifiDeadline := 0, wifiAttempts := 0 } env ready
            endpointText
        · exact Aside.append (r := acceptIp _ _ _)
            ⟨.refl s, by simp [acceptIp, setWifiState, notifyNetwork, Effect.isAside]⟩
            (reconcile_aside _ _ _)
      · exact refuseIp_aside { s with wifiDeadline := 0, wifiAttempts := 0 } env ready
          endpointText
  | other => exact .nil s

theorem takeCommand_aside (s : State) (env : CommandEnv) : Aside s (takeCommand s env) := by
  unfold takeCommand
  split
  · exact .nil s
  · unfold handleWifiCommand
    split
    · exact ⟨.refl s, by simp [notifyError, Effect.isAside]⟩
    · split
      · exact ⟨.refl s, by simp [notifyError, Effect.isAside]⟩
      · split
        · exact ⟨.refl s, by simp [notifyError, Effect.isAside]⟩
        · split
          · exact ⟨.refl s, by simp [notifyError, Effect.isAside]⟩
          · simp only []
            split
            · exact ⟨.refl s, by
                simp [setWifiState, notifyNetwork, notifyError, Effect.isAside]⟩
            · exact ⟨.refl s, by
                simp [setWifiState, notifyNetwork, notifyAck, Effect.isAside]⟩

theorem takeMgmt_aside (s : State) (env : ReconcileEnv) : Aside s (takeMgmt s env) := by
  unfold takeMgmt
  split
  · exact .nil s
  · rename_i event rest _
    obtain ⟨hs, he⟩ := reconcile_aside
      (applyMgmt { s with mgmtEvents := rest } env.now event).1 env
      (applyMgmt { s with mgmtEvents := rest } env.now event).2
    refine ⟨SameReceiver.trans ?_ hs, he⟩
    cases event <;> exact .refl s

theorem checkDeadline_aside (s : State) (now : Int) (disconnectOk connectOk : Bool) :
    Aside s (checkDeadline s now disconnectOk connectOk) := by
  unfold checkDeadline
  split
  · split
    · simp only []
      split
      · exact ⟨.refl s, by simp [setWifiState, notifyNetwork, notifyError, Effect.isAside]⟩
      · split
        · exact ⟨.refl s, by simp [setWifiState, notifyNetwork, notifyError, Effect.isAside]⟩
        · exact ⟨.refl s, by simp⟩
    · refine ⟨.refl s, ?_⟩
      cases disconnectOk <;> simp [setWifiState, notifyNetwork, notifyError, Effect.isAside]
  · exact .nil s

theorem sendMgmt_completed (s : State) (event : MgmtEvent) :
    (sendMgmt s event).2.completed = s.completed := by
  unfold sendMgmt; split <;> rfl

/-- A message to the queue leaves the receiver. -/
theorem sendMgmt_receiver (s : State) (event : MgmtEvent) :
    SameReceiver s (sendMgmt s event).2 := by
  unfold sendMgmt
  split <;> exact .refl s

/-- The actions of `wifi_task` and of the ping task. -/
def Event.isNetwork : Event → Bool
  | .wifiEvent .. => true
  | .command _ => true
  | .mgmt _ => true
  | .deadline .. => true
  | .periodic _ => true
  | .pingResult _ => true
  | .pingEnd => true
  | _ => false

/-- **The Wi-Fi side leaves the receiver alone.** -/
theorem network_aside (s : State) (e : Event) (h : e.isNetwork = true) :
    Aside s (step s e) := by
  cases e with
  | wifiEvent env ready endpointText event => exact handleWifiEvent_aside _ _ _ _ _
  | command env => exact takeCommand_aside _ _
  | mgmt env => exact takeMgmt_aside _ _
  | deadline now disconnectOk connectOk => exact checkDeadline_aside _ _ _ _
  | periodic env => exact reconcile_aside _ _ _
  | pingResult success => exact ⟨sendMgmt_receiver s _, by simp [step]⟩
  | pingEnd => exact ⟨.refl s, by simp [step]⟩
  | connect => cases h
  | disconnect hid => cases h
  | frame env bytes => cases h
  | tick now => cases h

/-! ## The management path and the receiver -/

/-- The part of the state that the reconciler owns. -/
def SamePath (s s' : State) : Prop := s'.gate = s.gate ∧ s'.probe = s.probe

theorem sendMgmt_path (s : State) (event : MgmtEvent) : SamePath s (sendMgmt s event).2 := by
  unfold sendMgmt
  split <;> exact ⟨rfl, rfl⟩

/-- Neither the reconciler's state nor its queue. -/
def SameMgmt (s s' : State) : Prop := SamePath s s' ∧ s'.mgmtEvents = s.mgmtEvents

theorem SameMgmt.refl (s : State) : SameMgmt s s := ⟨⟨rfl, rfl⟩, rfl⟩

/-- Typing a text sends nothing to the queue. -/
theorem finishText_mgmt (s : State) (env : FrameEnv) (sequence : UInt32) :
    SameMgmt s (finishText s env sequence).1 := by
  unfold finishText
  split
  · exact .refl s
  · split
    · exact .refl s
    · split
      · exact .refl s
      · simp only []
        split <;> exact .refl s

theorem completeWifi_mgmt (s : State) (sequence : UInt32) :
    SameMgmt s (completeWifi s sequence).1 := by
  unfold completeWifi
  split
  · exact .refl s
  · simp only [sendCommand]
    split <;> exact .refl s

theorem applyControl_mgmt (s : State) (env : FrameEnv) (session : Bytes) (sequence : UInt32)
    (control : Bytes) : SameMgmt s (applyControl s env session sequence control).1 := by
  unfold applyControl
  split
  · exact .refl s
  · split
    · exact .refl s
    · split
      · exact .refl s
      · split
        · exact .refl s
        · split
          · exact .refl s
          · split
            · exact .refl s
            · simp only []
              split <;> exact .refl s

theorem handleText_mgmt (s : State) (env : FrameEnv) (p : TextPart) :
    SameMgmt s (handleText s env p).1 := by
  simp only [handleText]
  split
  · exact .refl s
  · exact .refl s
  · exact finishText_mgmt { s with text := _ } env p.key

theorem handleWifi_mgmt (s : State) (env : FrameEnv) (p : WifiPart) :
    SameMgmt s (handleWifi s env p).1 := by
  simp only [handleWifi]
  split
  · exact .refl s
  · exact .refl s
  · exact completeWifi_mgmt { s with wifi := _ } p.key

theorem netLease_path (s : State) (sequence : UInt32) (ttl : Bytes) :
    SamePath s (netLease s sequence ttl).1 := by
  unfold netLease
  split
  · exact ⟨rfl, rfl⟩
  · split
    · exact ⟨rfl, rfl⟩
    · split
      · exact ⟨rfl, rfl⟩
      · simp only []
        split
        · exact sendMgmt_path s _
        · exact ⟨rfl, rfl⟩

theorem netRelease_path (s : State) (sequence : UInt32) :
    SamePath s (netRelease s sequence).1 := by
  unfold netRelease
  split
  · exact ⟨rfl, rfl⟩
  · simp only []
    split
    · exact sendMgmt_path s _
    · exact ⟨rfl, rfl⟩

theorem wifiClear_path (s : State) (env : FrameEnv) (sequence : UInt32) :
    SamePath s (wifiClear s env sequence).1 := by
  unfold wifiClear
  split
  · exact ⟨rfl, rfl⟩
  · split
    · exact ⟨rfl, rfl⟩
    · exact sendMgmt_path { s with wifiDeadline := 0 } _

theorem perform_path (s : State) (env : FrameEnv) (op : Op) :
    SamePath s (perform s env op).1 := by
  cases op with
  | opened session => exact ⟨rfl, rfl⟩
  | control session sequence control => exact (applyControl_mgmt _ _ _ _ _).1
  | text p => exact (handleText_mgmt s env p).1
  | wifi p => exact (handleWifi_mgmt s env p).1
  | wifiStatus session sequence => exact ⟨rfl, rfl⟩
  | netLease session sequence ttl => exact netLease_path _ _ _
  | netRelease session sequence => exact netRelease_path _ _
  | proxyStatus session sequence => exact ⟨rfl, rfl⟩
  | wifiClear session sequence => exact wifiClear_path _ _ _

/-- No frame touches the gate and the probe. -/
theorem handleFrame_path (s : State) (env : FrameEnv) (frame : Bytes) :
    SamePath s (handleFrame s env frame).1 := by
  unfold handleFrame
  split
  · unfold act
    split
    · split
      · exact perform_path _ _ _
      · exact ⟨rfl, rfl⟩
    · exact perform_path _ _ _
  · exact ⟨rfl, rfl⟩

theorem dispatcherTimeout_mgmt (s : State) (now : Int) :
    SameMgmt s (dispatcherTimeout s now).1 := by
  unfold dispatcherTimeout
  simp only []
  split <;> split <;> exact .refl s

end Bootmux.Router
