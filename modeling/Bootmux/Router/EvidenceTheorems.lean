/-
Bootmux.Router.EvidenceTheorems — reachability belongs to the selected
target.

`tp_set_subnet` forgets what was counted, and nothing else does: a ping
session that runs, or a result in the queue, is of the old subnet and is
counted for the new one (`stale_result_counts`). `evidence_current` is
about the runs in which neither is there when a subnet with a target is
set.

A result carries the target and the epoch that its session was launched
with, and an epoch is a call of `tp_set_subnet` (`Bootmux.Router.Evidence`).
The invariant (`Belongs`) says that whatever is counted, runs or waits is of
the current epoch; a run in which the ping task has nothing left when a new
subnet is set keeps it (`Drained`). One lemma of the probe says what a
recorded result adds, and one of the reconciler which results it starts.

The condition is on the state at an accepted address, on the flag of a
running session and on the queue.
-/
import Bootmux.Router.Evidence
import Bootmux.Router.MarkerTheorems

namespace Bootmux.Router

open Bootmux.Bmx1
open Bootmux.Lib

/-! ## What a step does to the probe -/

/-- The ping of two steps is the first there is. -/
theorem pingOf_append (t u : List Effect) : pingOf (t ++ u) = (pingOf t).or (pingOf u) :=
  List.findSome?_append

theorem pingOf_eq_none {t : List Effect} (h : ∀ x ∈ t, x.ping? = none) : pingOf t = none :=
  List.findSome?_eq_none_iff.mpr h

theorem pingOf_input {t : List Effect} (h : t.all Effect.isInput = true) : pingOf t = none := by
  refine pingOf_eq_none fun x hx => ?_
  have hinput := List.all_eq_true.mp h x hx
  cases x <;> first | rfl | cases hinput

/-- What a reconcile of `s` has done to the probe, and the session it has
started. -/
structure Reconciled (s : State) (r : State × List Effect) : Prop where
  binding : r.1.probe.binding = s.probe.binding
  queue : r.1.mgmtEvents = s.mgmtEvents
  reachable : r.1.probe.reachable = true → s.probe.reachable = true
  successes : r.1.probe.consecutiveSuccess ≤ s.probe.consecutiveSuccess
  ping : (pingOf r.2 = none ∧ r.1.pingRunning = s.pingRunning) ∨
    (s.pingRunning = false ∧ r.1.pingRunning = true ∧
      pingOf r.2 = some (tpSelectTarget s.probe))

/-- Whether the probe may run depends on the binding only. -/
theorem tpProbeAllowed_binding {p q : TpState} (h : p.binding = q.binding) :
    tpProbeAllowed p = tpProbeAllowed q := by
  obtain ⟨hinit, hsubnet, -, htarget⟩ : p.initialized = q.initialized ∧ p.subnetSet = q.subnetSet ∧
      p.allowlistLoaded = q.allowlistLoaded ∧ p.selectedTarget = q.selectedTarget := by
    simpa [TpState.binding] using h
  simp only [tpProbeAllowed, hinit, hsubnet, htarget]

theorem tpSelectTarget_of_binding {p q : TpState} (h : p.binding = q.binding) :
    tpSelectTarget p = tpSelectTarget q := by
  have htarget : p.selectedTarget = q.selectedTarget := by
    simpa [TpState.binding] using congrArg (fun b => b.2.2.2) h
  rw [tpSelectTarget, tpSelectTarget, tpProbeAllowed_binding h, htarget]

/-- Reading whether the target is reachable only forgets. -/
theorem tpIsReachable_forgets (p : TpState) (now : Int) :
    ((tpIsReachable p now).2.reachable = true → p.reachable = true) ∧
      (tpIsReachable p now).2.consecutiveSuccess ≤ p.consecutiveSuccess := by
  unfold tpIsReachable
  split
  · exact ⟨id, Nat.le_refl _⟩
  · split
    · exact ⟨id, Nat.le_refl _⟩
    · split
      · exact ⟨by simp, Nat.zero_le _⟩
      · exact ⟨id, Nat.le_refl _⟩

/-- A failure makes nothing reachable and lengthens no streak. -/
theorem tpRecordResult_failure (p : TpState) (now : Int) :
    ((tpRecordResult p false now).reachable = true → p.reachable = true) ∧
      (tpRecordResult p false now).consecutiveSuccess ≤ p.consecutiveSuccess := by
  unfold tpRecordResult
  split
  · exact ⟨id, Nat.le_refl _⟩
  · refine ⟨fun h => ?_, Nat.zero_le _⟩
    simp only [Bool.false_eq_true, if_false] at h
    split at h
    · split at h
      · cases h
      · exact h
    · split at h
      · cases h
      · exact h

/-- Asking for the reason can only forget. -/
theorem gateCloseReason_forgets (s : State) (now : Int) :
    ((gateCloseReason s now).2.reachable = true → s.probe.reachable = true) ∧
      (gateCloseReason s now).2.consecutiveSuccess ≤ s.probe.consecutiveSuccess := by
  unfold gateCloseReason
  split
  · exact ⟨id, Nat.le_refl _⟩
  · split
    · exact ⟨id, Nat.le_refl _⟩
    · simp only []
      split
      · exact tpIsReachable_forgets _ _
      · split <;> exact tpIsReachable_forgets _ _

theorem Reconciled.refl (s : State) : Reconciled s (s, []) :=
  ⟨rfl, rfl, id, Nat.le_refl _, .inl ⟨rfl, rfl⟩⟩

/-- A part of a reconcile that starts no session. -/
theorem Reconciled.quiet {s t : State} {effects : List Effect}
    (hbinding : t.probe.binding = s.probe.binding) (hqueue : t.mgmtEvents = s.mgmtEvents)
    (hforgets : (t.probe.reachable = true → s.probe.reachable = true) ∧
      t.probe.consecutiveSuccess ≤ s.probe.consecutiveSuccess)
    (hrunning : t.pingRunning = s.pingRunning) (hping : pingOf effects = none) :
    Reconciled s (t, effects) :=
  ⟨hbinding, hqueue, hforgets.1, hforgets.2, .inl ⟨hping, hrunning⟩⟩

/-- Two steps after one another. -/
theorem Reconciled.append {s : State} {r q : State × List Effect} (h : Reconciled s r)
    (h' : Reconciled r.1 q) : Reconciled s (q.1, r.2 ++ q.2) where
  binding := h'.binding.trans h.binding
  queue := h'.queue.trans h.queue
  reachable hreachable := h.reachable (h'.reachable hreachable)
  successes := Nat.le_trans h'.successes h.successes
  ping := by
    show (pingOf (r.2 ++ q.2) = none ∧ _) ∨ (_ ∧ _ ∧ pingOf (r.2 ++ q.2) = _)
    rw [pingOf_append]
    rcases h.ping with ⟨hnone, hsame⟩ | ⟨hidle, hruns, hping⟩
    · rw [hnone, Option.none_or]
      rcases h'.ping with ⟨hnone', hsame'⟩ | ⟨hidle', hruns', hping'⟩
      · exact .inl ⟨hnone', hsame'.trans hsame⟩
      · refine .inr ⟨hsame ▸ hidle', hruns', ?_⟩
        rw [hping', tpSelectTarget_of_binding h.binding]
    · rw [hping, Option.some_or]
      rcases h'.ping with ⟨-, hsame'⟩ | ⟨hidle', -, -⟩
      · exact .inr ⟨hidle, hsame'.trans hruns, rfl⟩
      · exact absurd (hruns.symm.trans hidle') (by simp)

theorem refreshInputs_reconciled (s : State) (now : Int) :
    Reconciled s (refreshInputs s now, []) :=
  .quiet (tpIsReachable_binding _ _) rfl (tpIsReachable_forgets _ _) rfl rfl

theorem driveProbe_reconciled (s : State) (env : ReconcileEnv) :
    Reconciled s (driveProbe s env) := by
  unfold driveProbe
  split
  · next hdrive =>
      simp only []
      split
      · exact .refl s
      · split
        · refine ⟨rfl, rfl, id, Nat.le_refl _, .inr ⟨?_, rfl, rfl⟩⟩
          simp only [Bool.and_eq_true, Bool.not_eq_true'] at hdrive
          exact hdrive.1.2
        · exact .quiet (tpRecordResult_binding _ _ _) rfl (tpRecordResult_failure _ _) rfl rfl
  · exact .refl s

theorem reconcileGate_reconciled (s : State) (env : ReconcileEnv) (reason : MgReason) :
    Reconciled s (reconcileGate s env reason) := by
  have hkeeps : (gateActions env).Keeps fun ctx => ∀ x ∈ ctx.effects, x.ping? = none := by
    constructor
    · intro ctx h; exact h
    · intro ctx h; exact h
    · intro ctx h
      simp only [runStart, gateActions]
      split
      · exact h
      · split <;> exact h
    · intro ctx h x hx
      rcases List.mem_append.mp hx with hx | hx
      · exact h x hx
      · rw [List.mem_singleton.mp hx]; rfl
    · intro ctx h; exact h
    · intro ctx h; exact h
    · intro marker ctx h x hx
      rcases List.mem_append.mp hx with hx | hx
      · exact h x hx
      · rw [List.mem_singleton.mp hx]; rfl
  exact .quiet rfl rfl ⟨id, Nat.le_refl _⟩ rfl
    (pingOf_eq_none (mgReconcile_keeps hkeeps s.gate env.now reason (by simp)))

theorem surfaceCloseReason_reconciled (s : State) (now : Int) :
    Reconciled s (surfaceCloseReason s now) := by
  unfold surfaceCloseReason
  split
  · exact .refl s
  · refine .quiet (gateCloseReason_binding s now) rfl (gateCloseReason_forgets s now) rfl ?_
    split <;> rfl

/-- **A reconcile forgets evidence and finds none.** -/
theorem reconcile_reconciled (s : State) (env : ReconcileEnv) (reason : MgReason) :
    Reconciled s (reconcileManagementPath s env reason) := by
  have hprobed := (refreshInputs_reconciled s env.now).append (driveProbe_reconciled _ env)
  have hrefreshed := hprobed.append (refreshInputs_reconciled _ env.now)
  have hgated := hrefreshed.append (reconcileGate_reconciled _ env reason)
  have hsurfaced := hgated.append (surfaceCloseReason_reconciled _ env.now)
  simp only [List.nil_append, List.append_nil] at hsurfaced
  exact hsurfaced

/-! ## The steps outside the reconciler -/

/-- What the tasks do that leaves the probe alone: they add other events to
the queue. -/
structure Outside (s : State) (r : State × List Effect) : Prop where
  probe : r.1.probe = s.probe
  running : r.1.pingRunning = s.pingRunning
  queue : ∃ added, r.1.mgmtEvents = s.mgmtEvents ++ added ∧ ∀ x ∈ added, x.isProbe = false
  ping : pingOf r.2 = none

/-- A step that touches neither probe nor queue is outside. -/
theorem Outside.of_same {s t : State} {effects : List Effect} (hprobe : t.probe = s.probe)
    (hrunning : t.pingRunning = s.pingRunning) (hqueue : t.mgmtEvents = s.mgmtEvents)
    (hping : pingOf effects = none) : Outside s (t, effects) :=
  ⟨hprobe, hrunning, ⟨[], by rw [hqueue, List.append_nil], by simp⟩, hping⟩

/-- The messages sent beside the queue. -/
theorem Outside.of_send {s t : State} {event : MgmtEvent} {effects : List Effect}
    (hprobe : t.probe = s.probe) (hrunning : t.pingRunning = s.pingRunning)
    (hqueue : t.mgmtEvents = (sendMgmt s event).2.mgmtEvents) (hevent : event.isProbe = false)
    (hping : pingOf effects = none) : Outside s (t, effects) := by
  refine ⟨hprobe, hrunning, ?_, hping⟩
  rw [hqueue, sendMgmt]
  split
  · exact ⟨[event], rfl, by simp [hevent]⟩
  · exact ⟨[], (List.append_nil _).symm, by simp⟩

theorem notifyProxyStatus_ping (s : State) (ready : Bool) (endpointText : Option Bytes)
    (status : ProxyStatus) : (notifyProxyStatus s ready endpointText status).ping? = none := by
  unfold notifyProxyStatus
  split
  · split <;> rfl
  · rfl

/-- What the queue becomes depends on the queue. -/
theorem sendMgmt_queue {s t : State} (h : t.mgmtEvents = s.mgmtEvents) (event : MgmtEvent) :
    (sendMgmt t event).2.mgmtEvents = (sendMgmt s event).2.mgmtEvents := by
  by_cases hroom : s.mgmtEvents.length < bmxMgmtQueue
  · rw [sendMgmt, sendMgmt, h, if_pos hroom, if_pos hroom]
  · rw [sendMgmt, sendMgmt, h, if_neg hroom, if_neg hroom]
    exact h

theorem sendMgmt_running (s : State) (event : MgmtEvent) :
    (sendMgmt s event).2.pingRunning = s.pingRunning := by
  unfold sendMgmt
  split <;> rfl

/-- A request for a lease leaves the probe alone. -/
theorem netLease_outside (s : State) (sequence : UInt32) (ttl : Bytes) :
    Outside s (netLease s sequence ttl) := by
  unfold netLease
  split
  · exact .of_same rfl rfl rfl rfl
  · next seconds hseconds =>
      split
      · exact .of_same rfl rfl rfl rfl
      · split
        · exact .of_same rfl rfl rfl rfl
        · dsimp only
          split
          · exact .of_send (sendMgmt_path s _).2 (sendMgmt_running s _) rfl rfl rfl
          · exact .of_same rfl rfl rfl rfl

theorem netRelease_outside (s : State) (sequence : UInt32) :
    Outside s (netRelease s sequence) := by
  unfold netRelease
  split
  · exact .of_same rfl rfl rfl rfl
  · dsimp only
    split
    · exact .of_send (sendMgmt_path s _).2 (sendMgmt_running s _) rfl rfl rfl
    · exact .of_same rfl rfl rfl rfl

theorem wifiClear_outside (s : State) (env : FrameEnv) (sequence : UInt32) :
    Outside s (wifiClear s env sequence) := by
  unfold wifiClear
  split
  · exact .of_same rfl rfl rfl rfl
  · split
    · exact .of_same rfl rfl rfl rfl
    · have hqueue := sendMgmt_queue (s := s) (t := { s with wifiDeadline := 0 }) rfl .leaseRelease
      refine .of_send (sendMgmt_path { s with wifiDeadline := 0 } _).2
        (sendMgmt_running { s with wifiDeadline := 0 } _) hqueue rfl
        (pingOf_eq_none fun x hx => ?_)
      simp only [setWifiState, List.mem_append, List.mem_cons, List.not_mem_nil, or_false] at hx
      rcases hx with ((rfl | rfl) | rfl) | rfl
      · rfl
      · exact notifyProxyStatus_ping _ _ _ _
      · rfl
      · rfl

/-- The receiver of frames does not touch the ping session. -/
theorem handleText_running (s : State) (env : FrameEnv) (p : TextPart) :
    (handleText s env p).1.pingRunning = s.pingRunning := by
  have hfinish : ∀ s sequence, (finishText s env sequence).1.pingRunning = s.pingRunning := by
    intro s sequence
    unfold finishText
    split
    · rfl
    · split
      · rfl
      · split
        · rfl
        · dsimp only
          split <;> rfl
  simp only [handleText]
  split
  · rfl
  · rfl
  · exact hfinish _ _

theorem handleWifi_running (s : State) (env : FrameEnv) (p : WifiPart) :
    (handleWifi s env p).1.pingRunning = s.pingRunning := by
  have hcomplete : ∀ s sequence, (completeWifi s sequence).1.pingRunning = s.pingRunning := by
    intro s sequence
    unfold completeWifi
    split
    · rfl
    · simp only [sendCommand]
      split <;> rfl
  simp only [handleWifi]
  split
  · rfl
  · rfl
  · exact hcomplete _ _

theorem handleWifi_ping (s : State) (env : FrameEnv) (p : WifiPart) :
    pingOf (handleWifi s env p).2 = none := by
  have hmarks : ∀ ms : List WifiMark, pingOf (ms.map .wifi) = none := fun ms =>
    pingOf_eq_none (by simp [Effect.ping?])
  have hcomplete : ∀ s sequence, pingOf (completeWifi s sequence).2 = none := by
    intro s sequence
    unfold completeWifi
    split
    · rfl
    · simp only [sendCommand]
      split <;> rfl
  simp only [handleWifi]
  split
  · rw [pingOf_append, hmarks]
    rfl
  · exact hmarks _
  · rw [pingOf_append, hmarks, hcomplete]
    rfl

theorem applyControl_running (s : State) (env : FrameEnv) (session : Bytes) (sequence : UInt32)
    (control : Bytes) : (applyControl s env session sequence control).1.pingRunning =
      s.pingRunning := by
  unfold applyControl
  split
  · rfl
  · split
    · rfl
    · split
      · rfl
      · split
        · rfl
        · split
          · rfl
          · split
            · rfl
            · dsimp only
              split <;> rfl

theorem perform_outside (s : State) (env : FrameEnv) (op : Op)
    (hsession : ∀ session ∈ op.session, session = s.session) : Outside s (perform s env op) := by
  cases op with
  | opened session => exact .of_same rfl rfl rfl rfl
  | control session sequence control =>
      obtain rfl := hsession session rfl
      have hsame := applyControl_mgmt s env s.session sequence control
      exact .of_same hsame.1.2 (applyControl_running _ _ _ _ _) hsame.2
        (pingOf_input (applyControl_isInput _ _ _ _))
  | text p =>
      have hsame := handleText_mgmt s env p
      exact .of_same hsame.1.2 (handleText_running _ _ _) hsame.2
        (pingOf_input (handleText_isInput _ _ _))
  | wifi p =>
      have hsame := handleWifi_mgmt s env p
      exact .of_same hsame.1.2 (handleWifi_running _ _ _) hsame.2 (handleWifi_ping _ _ _)
  | wifiStatus session sequence => exact .of_same rfl rfl rfl rfl
  | netLease session sequence ttl => exact netLease_outside _ _ _
  | netRelease session sequence => exact netRelease_outside _ _
  | proxyStatus session sequence =>
      refine .of_same rfl rfl rfl (pingOf_eq_none fun x hx => ?_)
      rcases List.mem_cons.mp hx with rfl | hx
      · exact notifyProxyStatus_ping _ _ _ _
      · rw [List.mem_singleton.mp hx]
        rfl
  | wifiClear session sequence => exact wifiClear_outside _ _ _

theorem handleFrame_outside (s : State) (env : FrameEnv) (frame : Bytes) :
    Outside s (handleFrame s env frame) := by
  unfold handleFrame
  split
  · next op hop =>
      unfold act
      split
      · next session hsession =>
          split
          · next heq =>
              refine perform_outside _ _ _ fun x hx => ?_
              rw [hsession] at hx
              exact (Option.some.inj hx).symm.trans heq
          · exact .of_same rfl rfl rfl rfl
      · next hnone => exact perform_outside _ _ _ (by simp [hnone])
  · exact .of_same rfl rfl rfl rfl

theorem dispatcherTimeout_outside (s : State) (now : Int) :
    Outside s (dispatcherTimeout s now) := by
  unfold dispatcherTimeout
  simp only []
  split <;> split <;> exact .of_same rfl rfl rfl rfl

theorem takeCommand_outside (s : State) (env : CommandEnv) : Outside s (takeCommand s env) := by
  unfold takeCommand
  split
  · exact .of_same rfl rfl rfl rfl
  · unfold handleWifiCommand
    split
    · exact .of_same rfl rfl rfl rfl
    · split
      · exact .of_same rfl rfl rfl rfl
      · split
        · exact .of_same rfl rfl rfl rfl
        · split
          · exact .of_same rfl rfl rfl rfl
          · dsimp only
            split <;> exact .of_same rfl rfl rfl rfl

theorem checkDeadline_outside (s : State) (now : Int) (disconnectOk connectOk : Bool) :
    Outside s (checkDeadline s now disconnectOk connectOk) := by
  unfold checkDeadline
  split
  · split
    · dsimp only
      split
      · exact .of_same rfl rfl rfl rfl
      · split <;> exact .of_same rfl rfl rfl rfl
    · refine .of_same rfl rfl rfl ?_
      cases disconnectOk <;> rfl
  · exact .of_same rfl rfl rfl rfl

/-- **A step that does not reconcile leaves the probe alone.** -/
theorem step_outside {s : State} {e : Event} (h : e.reconcile s = none)
    (hresult : ∀ success, e ≠ .pingResult success) (hend : e ≠ .pingEnd) :
    Outside s (step s e) := by
  cases e with
  | wifiEvent env ready endpointText event =>
      cases event with
      | other => exact .of_same rfl rfl rfl rfl
      | staStart => cases h
      | staDisconnected reason => cases h
      | gotIp info =>
          cases info with
          | none => cases h
          | some info => by_cases hip : info.1 = 0 <;> simp [Event.reconcile, hip] at h
  | mgmt env =>
      cases hq : s.mgmtEvents with
      | nil =>
          simp only [step, takeMgmt, hq]
          exact .of_same rfl rfl rfl rfl
      | cons event rest => simp [Event.reconcile, hq] at h
  | periodic env => cases h
  | connect => exact .of_same rfl rfl rfl rfl
  | disconnect hid =>
      have hqueue := sendMgmt_queue (s := s) (t := (gapDisconnectReset s hid).1) rfl
        .bleDisconnected
      refine .of_send (sendMgmt_path (gapDisconnectReset s hid).1 _).2
        (sendMgmt_running (gapDisconnectReset s hid).1 _) hqueue rfl
        (pingOf_eq_none fun x hx => ?_)
      rcases List.mem_append.mp hx with hx | hx
      · rcases List.mem_cons.mp hx with rfl | hx
        · rfl
        · rw [List.mem_singleton.mp hx]
          rfl
      · have hreport := releaseAll_isReport hid x hx
        cases x <;> first | rfl | cases hreport
  | frame env bytes => exact handleFrame_outside s env bytes
  | tick now => exact dispatcherTimeout_outside s now
  | command env => exact takeCommand_outside s env
  | deadline now disconnectOk connectOk => exact checkDeadline_outside s now disconnectOk connectOk
  | pingResult success => exact absurd rfl (hresult success)
  | pingEnd => exact absurd rfl hend

theorem pingOf_notifyProxyStatus (s : State) (ready : Bool) (endpointText : Option Bytes)
    (status : ProxyStatus) (t : List Effect) :
    pingOf ([notifyProxyStatus s ready endpointText status] ++ t) = pingOf t := by
  rw [pingOf_append, pingOf_eq_none (t := [_])
    (by simpa using notifyProxyStatus_ping s ready endpointText status), Option.none_or]

theorem disconnectedState_ping (s : State) (reason : DisconnectReason) :
    pingOf (disconnectedState s reason).2 = none := by
  unfold disconnectedState
  split
  · rfl
  · rfl
  · rfl
  · rfl
  · rfl
  · split <;> rfl

/-- The session a step starts is the one its reconcile starts. -/
theorem step_ping {s s' : State} {e : Event} {env : ReconcileEnv} {reason : MgReason}
    (h : e.reconcile s = some (s', env, reason)) :
    pingOf (step s e).2 = pingOf (reconcileManagementPath s' env reason).2 := by
  cases e with
  | wifiEvent env' ready endpointText event =>
      cases event with
      | staStart =>
          obtain ⟨rfl, rfl, rfl⟩ : _ ∧ _ ∧ _ := by simpa [Event.reconcile] using h
          rfl
      | staDisconnected reason' =>
          obtain ⟨rfl, rfl, rfl⟩ : _ ∧ _ ∧ _ := by simpa [Event.reconcile] using h
          simp only [step, handleWifiEvent, List.append_assoc]
          rw [pingOf_notifyProxyStatus, pingOf_append, disconnectedState_ping, Option.none_or]
      | gotIp info =>
          cases info with
          | none =>
              obtain ⟨rfl, rfl, rfl⟩ : _ ∧ _ ∧ _ := by simpa [Event.reconcile] using h
              exact pingOf_notifyProxyStatus _ _ _ _ _
          | some info =>
              by_cases hip : info.1 = 0
              · obtain ⟨rfl, rfl, rfl⟩ : _ ∧ _ ∧ _ := by simpa [Event.reconcile, hip] using h
                simp only [step, handleWifiEvent, hip, if_true, refuseIp]
                exact pingOf_notifyProxyStatus _ _ _ _ _
              · obtain ⟨rfl, rfl, rfl⟩ : _ ∧ _ ∧ _ := by simpa [Event.reconcile, hip] using h
                simp only [step, handleWifiEvent, hip, if_false]
                rfl
      | other => cases h
  | mgmt env' =>
      cases hq : s.mgmtEvents with
      | nil => simp [Event.reconcile, hq] at h
      | cons event rest =>
          obtain ⟨rfl, rfl, rfl⟩ : _ ∧ _ ∧ _ := by simpa [Event.reconcile, hq] using h
          simp only [step, takeMgmt, hq]
  | periodic env' =>
      obtain ⟨rfl, rfl, rfl⟩ : _ ∧ _ ∧ _ := by simpa [Event.reconcile] using h
      rfl
  | connect => cases h
  | disconnect hid => cases h
  | frame env' bytes => cases h
  | tick now => cases h
  | command env' => cases h
  | deadline now disconnectOk connectOk => cases h
  | pingResult success => cases h
  | pingEnd => cases h

theorem step_reconciled {s s' : State} {e : Event} {env : ReconcileEnv} {reason : MgReason}
    (h : e.reconcile s = some (s', env, reason)) : Reconciled s' (step s e) := by
  have hreconciled := reconcile_reconciled s' env reason
  rw [← Prod.eta (step s e), (step_reconcile h).1]
  refine ⟨hreconciled.binding, hreconciled.queue, hreconciled.reachable, hreconciled.successes, ?_⟩
  rw [step_ping h]
  exact hreconciled.ping

/-! ## The invariant -/

/-- While a target is selected, the session that runs, the results in the
queue and the results that are counted are of the subnet in force. -/
structure Belongs (y : Probing) : Prop where
  queue : y.senders.length = y.router.mgmtEvents.length
  running : y.session ≠ none → y.router.pingRunning = true
  flight : tpProbeAllowed y.router.probe = true → ∀ launch ∈ y.session, some launch = y.current
  waiting : tpProbeAllowed y.router.probe = true → ∀ p ∈ y.router.mgmtEvents.zip y.senders,
    p.1.isProbe = true → p.2 = y.current
  counted : ∀ x ∈ y.counted, x.1 = y.current
  successes : y.router.probe.consecutiveSuccess ≤ y.counted.length
  streak : ∀ x ∈ y.counted.take y.router.probe.consecutiveSuccess, x.2 = true
  made : y.router.probe.reachable = true →
    y.made.length = tpReachableSuccesses ∧ ∀ x ∈ y.made, x = (y.current, true)

/-- The current target depends on the subnet and the binding. -/
theorem Probing.current_of_binding {y z : Probing} (hsubnets : z.subnets = y.subnets)
    (hbinding : z.router.probe.binding = y.router.probe.binding) : z.current = y.current := by
  rw [Probing.current, Probing.current, hsubnets, tpSelectTarget_of_binding hbinding]

/-- A reconcile, and the session it has started. -/
theorem Belongs.follow_reconciled {y : Probing} (h : Belongs y) {r : State × List Effect}
    (hr : Reconciled y.router r) : Belongs (y.follow r) := by
  have hcurrent : (y.follow r).current = y.current := Probing.current_of_binding rfl hr.binding
  have hallowed : tpProbeAllowed r.1.probe = tpProbeAllowed y.router.probe :=
    tpProbeAllowed_binding hr.binding
  have hsenders : (y.follow r).senders = y.senders := by
    simp [Probing.follow, hr.queue, h.queue]
  refine ⟨?_, ?_, ?_, ?_, ?_, ?_, ?_, ?_⟩
  · rw [hsenders, h.queue]
    exact congrArg List.length hr.queue.symm
  · intro hsession
    rcases hr.ping with ⟨hnone, hsame⟩ | ⟨-, hruns, -⟩
    · have hbefore : y.session ≠ none := by simpa [Probing.follow, hnone] using hsession
      exact hsame.trans (h.running hbefore)
    · exact hruns
  · intro hactive launch hlaunch
    rw [hcurrent]
    rcases hr.ping with ⟨hnone, -⟩ | ⟨-, -, hping⟩
    · refine h.flight (hallowed ▸ hactive) launch ?_
      simpa [Probing.follow, hnone] using hlaunch
    · have hnew : launch = ⟨y.subnets, tpSelectTarget y.router.probe⟩ := by
        simpa [Probing.follow, hping, eq_comm] using hlaunch
      rw [hnew]
      rfl
  · intro hactive
    rw [hcurrent, hsenders, show (y.follow r).router.mgmtEvents = _ from hr.queue]
    exact h.waiting (hallowed ▸ hactive)
  · rw [hcurrent]
    exact h.counted
  · exact Nat.le_trans hr.successes h.successes
  · intro x hx
    refine h.streak x ?_
    exact (List.take_prefix_take_left hr.successes).subset hx
  · rw [hcurrent]
    exact fun hreachable => h.made (hr.reachable hreachable)

/-- A step that leaves the probe alone. -/
theorem Belongs.follow_outside {y : Probing} (h : Belongs y) {r : State × List Effect}
    (hr : Outside y.router r) : Belongs (y.follow r) := by
  obtain ⟨added, hqueue, hnone⟩ := hr.queue
  have hcurrent : (y.follow r).current = y.current :=
    Probing.current_of_binding rfl (congrArg TpState.binding hr.probe)
  have hsenders : (y.follow r).senders = y.senders ++ List.replicate added.length none := by
    simp [Probing.follow, hqueue, h.queue]
  have hsession : (y.follow r).session = y.session := by simp [Probing.follow, hr.ping]
  have hprobe : (y.follow r).router.probe = y.router.probe := hr.probe
  refine ⟨?_, ?_, ?_, ?_, ?_, ?_, ?_, ?_⟩
  · rw [hsenders, List.length_append, List.length_replicate, h.queue, ← List.length_append]
    exact congrArg List.length hqueue.symm
  · rw [hsession]
    exact fun hsome => hr.running.trans (h.running hsome)
  · rw [hsession, hcurrent, hprobe]
    exact h.flight
  · rw [hcurrent, hsenders, hprobe, show (y.follow r).router.mgmtEvents = _ from hqueue,
      List.zip_append h.queue.symm]
    intro hactive p hp hprobes
    rcases List.mem_append.mp hp with hp | hp
    · exact h.waiting hactive p hp hprobes
    · exact absurd hprobes (by simp [hnone p.1 (List.of_mem_zip hp).1])
  · rw [hcurrent]
    exact h.counted
  · rw [hprobe]
    exact h.successes
  · rw [hprobe]
    exact h.streak
  · rw [hprobe, hcurrent]
    exact h.made

/-- One more result: a success adds one to the streak, and three of them make
the target reachable. -/
theorem tpRecordResult_streak {p : TpState} (hactive : tpProbeAllowed p = true) (success : Bool)
    (now : Int) :
    ((tpRecordResult p success now).consecutiveSuccess = 0 ∨ success = true ∧
        (tpRecordResult p success now).consecutiveSuccess ≤ p.consecutiveSuccess + 1) ∧
      ((tpRecordResult p success now).reachable = true → p.reachable = true ∨
        tpReachableSuccesses ≤ (tpRecordResult p success now).consecutiveSuccess) := by
  cases success with
  | false =>
      refine ⟨.inl ?_, fun h => .inl ((tpRecordResult_failure p now).1 h)⟩
      simp [tpRecordResult, hactive]
  | true =>
      simp only [tpRecordResult, hactive, Bool.not_true, Bool.false_eq_true, if_false, if_true]
      refine ⟨.inr ⟨trivial, ?_⟩, fun h => ?_⟩
      · split
        · exact Nat.le_refl _
        · exact Nat.le_succ _
      · generalize (if p.consecutiveSuccess < tpReachableSuccesses then p.consecutiveSuccess + 1
          else p.consecutiveSuccess) = successes at h ⊢
        split at h
        · next hthree => exact .inr hthree
        · exact .inl h

/-- A state with the same probe, session and queue. -/
theorem Belongs.of_same {y : Probing} (h : Belongs y) {s : State}
    (hprobe : s.probe = y.router.probe)
    (hqueue : s.mgmtEvents = y.router.mgmtEvents)
    (hrunning : s.pingRunning = y.router.pingRunning) :
    Belongs { y with router := s } := by
  have hcurrent : ({ y with router := s } : Probing).current = y.current :=
    Probing.current_of_binding rfl (congrArg TpState.binding hprobe)
  refine ⟨?_, ?_, ?_, ?_, ?_, ?_, ?_, ?_⟩
  · rw [show ({ y with router := s } : Probing).router.mgmtEvents = _ from hqueue]
    exact h.queue
  · exact fun hsome => hrunning.trans (h.running hsome)
  · rw [hcurrent, show ({ y with router := s } : Probing).router.probe = _ from hprobe]
    exact h.flight
  · rw [hcurrent, show ({ y with router := s } : Probing).router.probe = _ from hprobe,
      show ({ y with router := s } : Probing).router.mgmtEvents = _ from hqueue]
    exact h.waiting
  · rw [hcurrent]
    exact h.counted
  · rw [show ({ y with router := s } : Probing).router.probe = _ from hprobe]
    exact h.successes
  · rw [show ({ y with router := s } : Probing).router.probe = _ from hprobe]
    exact h.streak
  · rw [hcurrent, show ({ y with router := s } : Probing).router.probe = _ from hprobe]
    exact h.made

/-- `tp_set_subnet` with nothing under way, or without a target. -/
theorem Belongs.rebind {y : Probing} (h : Belongs y) {s : State} {ip netmask : UInt32}
    (hprobe : s.probe = tpSetSubnet y.router.probe ip netmask)
    (hqueue : s.mgmtEvents = y.router.mgmtEvents) (hrunning : s.pingRunning = y.router.pingRunning)
    (hdrained : tpProbeAllowed s.probe = true → y.router.pingRunning = false ∧
      ∀ x ∈ y.router.mgmtEvents, x.isProbe = false) :
    Belongs { y with router := s, subnets := y.subnets + 1, counted := [] } := by
  have hforgets : (tpSetSubnet y.router.probe ip netmask).reachable = false ∧
      (tpSetSubnet y.router.probe ip netmask).consecutiveSuccess = 0 := by
    unfold tpSetSubnet
    dsimp only
    split
    · exact ⟨rfl, rfl⟩
    · exact ⟨rfl, rfl⟩
  refine ⟨?_, ?_, ?_, ?_, by simp, ?_, by simp, ?_⟩
  · show y.senders.length = s.mgmtEvents.length
    rw [hqueue]
    exact h.queue
  · exact fun hsome => hrunning.trans (h.running hsome)
  · intro hactive launch hlaunch
    have hidle := (hdrained hactive).1
    have hruns := h.running (by rw [show y.session = some launch from hlaunch]; simp)
    exact absurd (hruns.symm.trans hidle) (by simp)
  · intro hactive p hp hprobes
    have hmem : p.1 ∈ y.router.mgmtEvents := hqueue ▸ (List.of_mem_zip hp).1
    exact absurd hprobes (by simp [(hdrained hactive).2 p.1 hmem])
  · show s.probe.consecutiveSuccess ≤ 0
    rw [hprobe, hforgets.2]
  · show s.probe.reachable = true → _
    rw [hprobe, hforgets.1]
    exact fun hreachable => nomatch hreachable

/-- The queue without its first event, and the probe as it was. -/
theorem Belongs.pop {y : Probing} (h : Belongs y) {event : MgmtEvent} {rest : List MgmtEvent}
    (hqueue : y.router.mgmtEvents = event :: rest) :
    ∃ sender senders, y.senders = sender :: senders ∧
      Belongs { y with
        router := { y.router with mgmtEvents := rest }, senders := senders } ∧
      (tpProbeAllowed y.router.probe = true → event.isProbe = true → sender = y.current) := by
  obtain ⟨sender, senders, hsenders⟩ : ∃ sender senders, y.senders = sender :: senders := by
    refine List.exists_cons_of_length_pos ?_
    rw [h.queue, hqueue]
    exact Nat.succ_pos _
  have hlength : senders.length = rest.length := by
    have hsame := h.queue
    rw [hqueue, hsenders] at hsame
    exact Nat.succ.inj hsame
  have hwaiting : tpProbeAllowed y.router.probe = true →
      (event.isProbe = true → sender = y.current) ∧
        ∀ p ∈ rest.zip senders, p.1.isProbe = true → p.2 = y.current := by
    intro hactive
    have hall := h.waiting hactive
    rw [hqueue, hsenders, List.zip_cons_cons] at hall
    exact ⟨hall _ List.mem_cons_self, fun p hp => hall p (List.mem_cons_of_mem _ hp)⟩
  exact ⟨sender, senders, hsenders,
    ⟨hlength, h.running, h.flight, fun hactive => (hwaiting hactive).2, h.counted, h.successes,
      h.streak, h.made⟩, fun hactive => (hwaiting hactive).1⟩

section Record

variable {y : Probing} {event : MgmtEvent} {rest : List MgmtEvent} {sender : Option Launch}
  {senders : List (Option Launch)} (hqueue : y.router.mgmtEvents = event :: rest)
  (hsenders : y.senders = sender :: senders)

include hqueue hsenders

/-- An event that is no result, or that the probe does not take, is not counted. -/
theorem record_uncounted (now : Int)
    (h : event.isProbe = false ∨ tpProbeAllowed y.router.probe = false) :
    y.record now = { y with senders := senders } := by
  unfold Probing.record
  rw [hqueue, hsenders]
  cases event with
  | probeResult success =>
      have hinactive := h.resolve_left (by simp [MgmtEvent.isProbe])
      simp [hinactive]
  | _ => rfl

/-- A result that the probe takes is counted, with who has sent it. -/
theorem record_counted (now : Int) {success : Bool} (hevent : event = .probeResult success)
    (hactive : tpProbeAllowed y.router.probe = true) :
    y.record now = { y with
      senders := senders
      counted := (sender, success) :: y.counted
      made := if !y.router.probe.reachable &&
          (tpRecordResult y.router.probe success now).reachable then
        ((sender, success) :: y.counted).take tpReachableSuccesses else y.made } := by
  subst hevent
  unfold Probing.record
  rw [hqueue, hsenders]
  simp only [hactive, if_true]

end Record

/-- The newest results, one more than before at most, are successes. -/
theorem newest_successes {α : Type} {counted : List (α × Bool)} {before after : Nat} {sender : α}
    {success : Bool} (hlength : before ≤ counted.length)
    (hstreak : ∀ x ∈ counted.take before, x.2 = true)
    (hafter : after = 0 ∨ success = true ∧ after ≤ before + 1) :
    after ≤ ((sender, success) :: counted).length ∧
      ∀ x ∈ ((sender, success) :: counted).take after, x.2 = true := by
  rcases hafter with rfl | ⟨rfl, hle⟩
  · exact ⟨Nat.zero_le _, by simp⟩
  · refine ⟨Nat.le_trans hle (Nat.succ_le_succ hlength), fun x hx => ?_⟩
    have hx' := (List.take_prefix_take_left hle).subset hx
    rw [List.take_succ_cons] at hx'
    rcases List.mem_cons.mp hx' with rfl | hx'
    · rfl
    · exact hstreak x hx'

/-- A result of the current target is counted. -/
theorem Belongs.count {y : Probing} (h : Belongs y) {s : State} {success : Bool} {now : Int}
    (hactive : tpProbeAllowed y.router.probe = true)
    (hprobe : s.probe = tpRecordResult y.router.probe success now)
    (hqueue : s.mgmtEvents = y.router.mgmtEvents)
    (hrunning : s.pingRunning = y.router.pingRunning) :
    Belongs { y with
      router := s
      counted := (y.current, success) :: y.counted
      made := if !y.router.probe.reachable && s.probe.reachable then
        ((y.current, success) :: y.counted).take tpReachableSuccesses else y.made } := by
  have hbinding : s.probe.binding = y.router.probe.binding :=
    hprobe ▸ tpRecordResult_binding y.router.probe success now
  have hcurrent : some ⟨y.subnets, tpSelectTarget s.probe⟩ = y.current := by
    rw [tpSelectTarget_of_binding hbinding]
    rfl
  obtain ⟨hstreak, hbecomes⟩ := tpRecordResult_streak hactive success now
  rw [← hprobe] at hstreak hbecomes
  obtain ⟨hlength, hnewest⟩ :
      s.probe.consecutiveSuccess ≤ ((y.current, success) :: y.counted).length ∧
        ∀ x ∈ ((y.current, success) :: y.counted).take s.probe.consecutiveSuccess, x.2 = true :=
    newest_successes h.successes h.streak hstreak
  have hall : ∀ x ∈ (y.current, success) :: y.counted, x.1 = y.current := by
    intro x hx
    rcases List.mem_cons.mp hx with rfl | hx
    · rfl
    · exact h.counted x hx
  generalize (y.current, success) :: y.counted = counted at hall hlength hnewest ⊢
  refine ⟨?_, ?_, ?_, ?_, ?_, ?_, ?_, ?_⟩
  all_goals simp only [Probing.current, hcurrent]
  · rw [hqueue]
    exact h.queue
  · exact fun hsome => hrunning.trans (h.running hsome)
  · exact fun _ => h.flight hactive
  · rw [hqueue]
    exact fun _ => h.waiting hactive
  · exact hall
  · exact hlength
  · exact hnewest
  · intro hreachable
    cases hbefore : y.router.probe.reachable with
    | true => exact h.made hbefore
    | false =>
        have hthree := (hbecomes hreachable).resolve_left (by simp [hbefore])
        simp only [hreachable, Bool.not_false, Bool.and_self, if_true]
        refine ⟨List.length_take_of_le (Nat.le_trans hthree hlength), fun x hx => ?_⟩
        exact Prod.ext (hall x (List.mem_of_mem_take hx))
          (hnewest x ((List.take_prefix_take_left hthree).subset hx))

/-- A result of the queue is recorded. -/
theorem Belongs.record {y : Probing} (h : Belongs y) {event : MgmtEvent} {rest : List MgmtEvent}
    (hqueue : y.router.mgmtEvents = event :: rest) (now : Int) :
    Belongs { y.record now with
      router := (applyMgmt { y.router with mgmtEvents := rest } now event).1 } := by
  obtain ⟨sender, senders, hsenders, hpopped, hsender⟩ := h.pop hqueue
  cases event with
  | bleDisconnected =>
      rw [record_uncounted hqueue hsenders now (.inl rfl)]
      exact hpopped.of_same rfl rfl rfl
  | leaseRelease =>
      rw [record_uncounted hqueue hsenders now (.inl rfl)]
      exact hpopped.of_same rfl rfl rfl
  | leaseGrant ttl =>
      rw [record_uncounted hqueue hsenders now (.inl rfl)]
      exact hpopped.of_same rfl rfl rfl
  | probeResult success =>
      cases hactive : tpProbeAllowed y.router.probe with
      | false =>
          have hsame : tpRecordResult y.router.probe success now = y.router.probe := by
            simp [tpRecordResult, hactive]
          rw [record_uncounted hqueue hsenders now (.inr hactive)]
          exact hpopped.of_same hsame rfl rfl
      | true =>
          rw [record_counted hqueue hsenders now rfl hactive, hsender hactive rfl]
          exact hpopped.count hactive rfl rfl rfl

/-- When a subnet with a target is set, no ping session runs and no result
waits in the queue. -/
def Drained (y : Probing) : Event → Bool
  | .wifiEvent _ _ _ (.gotIp (some (ip, netmask))) =>
      !tpProbeAllowed (tpSetSubnet y.router.probe ip netmask) ||
        !y.router.pingRunning && y.router.mgmtEvents.all fun x => !x.isProbe
  | _ => true

/-- Without an address the probe may not run. -/
theorem tpSetSubnet_none (p : TpState) : tpProbeAllowed (tpSetSubnet p 0 0) = false := by
  unfold tpSetSubnet
  simp [tpProbeAllowed]

/-- The part of a step before its reconcile. -/
theorem Belongs.note {y : Probing} (h : Belongs y) {e : Event} (hdrained : Drained y e = true)
    {s : State} {env : ReconcileEnv} {reason : MgReason}
    (he : e.reconcile y.router = some (s, env, reason)) :
    Belongs { y.note e with router := s } := by
  -- the subnet is withdrawn
  have hwithdraw : ∀ t : State, t.probe = tpSetSubnet y.router.probe 0 0 →
      t.mgmtEvents = y.router.mgmtEvents → t.pingRunning = y.router.pingRunning →
      Belongs { y with router := t, subnets := y.subnets + 1, counted := [] } := by
    intro t hprobe hqueue hrunning
    refine h.rebind hprobe hqueue hrunning fun hactive => ?_
    rw [hprobe, tpSetSubnet_none] at hactive
    cases hactive
  cases e with
  | wifiEvent env' ready endpointText event =>
      cases event with
      | staStart =>
          obtain ⟨rfl, rfl, rfl⟩ : _ ∧ _ ∧ _ := by simpa [Event.reconcile] using he
          exact h.of_same rfl rfl rfl
      | staDisconnected reason' =>
          obtain ⟨rfl, rfl, rfl⟩ : _ ∧ _ ∧ _ := by simpa [Event.reconcile] using he
          have hsame : ∀ t : State, (disconnectedState t reason').1.probe = t.probe ∧
              (disconnectedState t reason').1.mgmtEvents = t.mgmtEvents ∧
              (disconnectedState t reason').1.pingRunning = t.pingRunning := by
            intro t
            unfold disconnectedState
            split
            · exact ⟨rfl, rfl, rfl⟩
            · exact ⟨rfl, rfl, rfl⟩
            · exact ⟨rfl, rfl, rfl⟩
            · exact ⟨rfl, rfl, rfl⟩
            · exact ⟨rfl, rfl, rfl⟩
            · split <;> exact ⟨rfl, rfl, rfl⟩
          obtain ⟨hprobe, hqueue, hrunning⟩ := hsame (withdrawWifi y.router)
          exact hwithdraw _ hprobe hqueue hrunning
      | gotIp info =>
          cases info with
          | none =>
              obtain ⟨rfl, rfl, rfl⟩ : _ ∧ _ ∧ _ := by simpa [Event.reconcile] using he
              exact hwithdraw _ rfl rfl rfl
          | some info =>
              obtain ⟨ip, netmask⟩ := info
              by_cases hip : ip = 0
              · obtain ⟨rfl, rfl, rfl⟩ : _ ∧ _ ∧ _ := by simpa [Event.reconcile, hip] using he
                exact hwithdraw _ rfl rfl rfl
              · obtain ⟨rfl, rfl, rfl⟩ : _ ∧ _ ∧ _ := by simpa [Event.reconcile, hip] using he
                refine h.rebind rfl rfl rfl fun hactive => ?_
                have hnothing := hdrained
                simp only [Drained, Bool.or_eq_true, Bool.and_eq_true, Bool.not_eq_true',
                  List.all_eq_true] at hnothing
                exact hnothing.resolve_left (by
                  rw [show tpProbeAllowed (tpSetSubnet y.router.probe ip netmask) = true from
                    hactive]
                  simp)
      | other => cases he
  | mgmt env' =>
      cases hq : y.router.mgmtEvents with
      | nil => simp [Event.reconcile, hq] at he
      | cons event rest =>
          obtain ⟨rfl, rfl, rfl⟩ : _ ∧ _ ∧ _ := by simpa [Event.reconcile, hq] using he
          exact h.record hq env'.now
  | periodic env' =>
      obtain ⟨rfl, rfl, rfl⟩ : _ ∧ _ ∧ _ := by simpa [Event.reconcile] using he
      exact h
  | connect => cases he
  | disconnect hid => cases he
  | frame env' bytes => cases he
  | tick now => cases he
  | command env' => cases he
  | deadline now disconnectOk connectOk => cases he
  | pingResult success => cases he
  | pingEnd => cases he

/-- Nothing is noted without a reconcile. -/
theorem Belongs.note_none {y : Probing} (h : Belongs y) {e : Event}
    (he : e.reconcile y.router = none) : y.note e = y := by
  cases e with
  | wifiEvent env ready endpointText event =>
      cases event with
      | other => rfl
      | staStart => cases he
      | staDisconnected reason => cases he
      | gotIp info =>
          cases info with
          | none => cases he
          | some info => by_cases hip : info.1 = 0 <;> simp [Event.reconcile, hip] at he
  | mgmt env =>
      cases hq : y.router.mgmtEvents with
      | nil =>
          have hnil : y.senders = [] := List.length_eq_zero_iff.mp (by rw [h.queue, hq]; rfl)
          have htail : y.senders.tail = y.senders := by rw [hnil]; rfl
          show y.record env.now = y
          unfold Probing.record
          rw [hq]
          show { y with senders := y.senders.tail } = y
          rw [htail]
      | cons event rest => simp [Event.reconcile, hq] at he
  | periodic env => cases he
  | _ => rfl

/-- A step of the router beside the ping task. -/
theorem Belongs.step_router {y : Probing} (h : Belongs y) {e : Event}
    (hdrained : Drained y e = true)
    (hresult : ∀ success, e ≠ .pingResult success) (hend : e ≠ .pingEnd) :
    Belongs ((y.note e).follow (step y.router e)) := by
  cases he : e.reconcile y.router with
  | none =>
      rw [h.note_none he]
      exact h.follow_outside (step_outside he hresult hend)
  | some reconcile =>
      obtain ⟨s, env, reason⟩ := reconcile
      exact (h.note hdrained he).follow_reconciled (step_reconciled he)

/-- The result of the session that runs. -/
theorem Belongs.send {y : Probing} (h : Belongs y) {launch : Launch}
    (hsession : y.session = some launch)
    (success : Bool) :
    Belongs { y with
      router := (sendMgmt y.router (.probeResult success)).2
      answered := true
      senders := if (sendMgmt y.router (.probeResult success)).1 then y.senders ++ [some launch]
        else y.senders } := by
  unfold sendMgmt
  split
  · simp only [if_true]
    refine ⟨?_, h.running, h.flight, ?_, h.counted, h.successes, h.streak, h.made⟩
    · simp [h.queue]
    · intro hactive p hp hprobes
      rw [List.zip_append h.queue.symm] at hp
      rcases List.mem_append.mp hp with hp | hp
      · exact h.waiting hactive p hp hprobes
      · rw [List.mem_singleton.mp hp]
        exact h.flight hactive launch (by rw [hsession]; rfl)
  · exact ⟨h.queue, h.running, h.flight, h.waiting, h.counted, h.successes, h.streak, h.made⟩

/-- **One step** keeps every result with the target it was sent for. -/
theorem Belongs.step {y : Probing} (h : Belongs y) {e : Event} (hdrained : Drained y e = true) :
    Belongs (probingStep y e).1 := by
  cases e with
  | pingResult success =>
      simp only [probingStep]
      split
      · exact h
      · next launch hsession =>
          split
          · exact h
          · exact h.send hsession success
  | pingEnd =>
      simp only [probingStep]
      split
      · exact h
      · exact ⟨h.queue, by simp, by simp, h.waiting, h.counted, h.successes, h.streak, h.made⟩
  | _ => exact h.step_router hdrained (by simp) (by simp)

/-! ## Whole runs -/

/-- The three successes that made the target reachable are of ping sessions
to it that were started since the subnet was set, and so is every result that
was counted. -/
structure EvidenceCurrent (y : Probing) : Prop where
  reachable : ∀ now, (tpIsReachable y.router.probe now).1 = true →
    y.made.length = tpReachableSuccesses ∧ ∀ x ∈ y.made, x = (y.current, true)
  counted : ∀ x ∈ y.counted, x.1 = y.current

/-- Asking makes nothing reachable. -/
theorem reachable_of_tpIsReachable {p : TpState} {now : Int} (h : (tpIsReachable p now).1 = true) :
    p.reachable = true := by
  unfold tpIsReachable at h
  split at h
  · cases h
  · split at h
    · cases h
    · next hreachable => simpa using hreachable

theorem belongs_init : Belongs probing.init where
  queue := by decide +kernel
  running := by simp [probing]
  flight := by simp [probing]
  waiting := by simp [probing]
  counted := by simp [probing]
  successes := by decide +kernel
  streak := by simp [probing]
  made hreachable := absurd hreachable (by decide +kernel)

/-- **Reachability evidence belongs to the selected target** in every run in
which nothing of an old subnet is under way when a new one is set. -/
theorem evidence_current (es : List Event)
    (hdrained : probing.AllSteps (Drained · · = true) probing.init es) :
    EvidenceCurrent (probing.run es) := by
  have h : Belongs (probing.run es) :=
    probing.runFrom_invariant (I := Belongs) (P := (Drained · · = true))
      (fun y e hy he => hy.step he) es probing.init belongs_init hdrained
  exact ⟨fun now hreachable => h.made (reachable_of_tpIsReachable hreachable), h.counted⟩

/-- A reconcile at this time, in which every call succeeds. -/
def reconcileAt (now : Int) : ReconcileEnv :=
  { now := now, pingStarted := true, netifOk := true, naptOk := true, proxyWasReady := false
    proxyStarted := true }

def gotAddress (now : Int) (ip : UInt32) : Event :=
  .wifiEvent (reconcileAt now) false none (.gotIp (some (ip, 0x00FFFFFF)))

/-- The session that runs answers and ends, and its result is recorded. -/
def answered (now : Int) : List Event := [.pingResult true, .pingEnd, .mgmt (reconcileAt now)]

/-- Two rounds of the probe after the first result. -/
def answeredAgain : List Event :=
  .periodic (reconcileAt 4000) :: answered 4100 ++ .periodic (reconcileAt 6000) :: answered 6100

/-- Three answers in one network. -/
theorem evidence_answered :
    EvidenceCurrent (probing.run (gotAddress 2000 0x05A80B01 :: answered 2300 ++ answeredAgain)) ∧
      (tpIsReachable (probing.run (gotAddress 2000 0x05A80B01 :: answered 2300 ++
        answeredAgain)).router.probe 6100).1 = true :=
  ⟨evidence_current _ (by decide +kernel), by decide +kernel⟩

/-- The first answer comes from the network that was left. -/
theorem stale_result_counts :
    ¬EvidenceCurrent (probing.run ([gotAddress 2000 0x05A80B01,
      .wifiEvent (reconcileAt 2100) false none (.staDisconnected .other),
      gotAddress 2200 0x05A84D01] ++ answered 2300 ++ answeredAgain)) := by
  intro h
  have hmade := (h.reachable 6100 (by decide +kernel)).2
  exact absurd hmade (by decide +kernel)

end Bootmux.Router
