/-
Bootmux.Router.MarkerTheorems — what the path markers say about the
management path.

Two places print a `BOOTMUX_PATH_CLOSED` line: the transition in
`mg_reconcile`, with the reason its caller gives, and the end of
`reconcile_management_path`, with the failing condition when it differs
from the one surfaced last. `reconcile_markers` says for one reconcile
which of them prints what; `Event.reconcile` says with which state and
reason each step of `wifi_task` reconciles.

The last marker is honest as long as the two agree (`MarkersAgree`). They
do not when an activation fails, since `gate_close_reason` has no answer
for that and says `BOOT`; nor when the path is closed under `BOOT` or
`CONDITIONS_MET` while the failing condition is the one surfaced before
the path was opened, since the record of it survives the opening.

For one reconcile the cases are few: the path stays as it is, opens, closes,
or fails to open. Over a run the module keeps what was printed last beside
the state it was printed for (`HonestAfter`), which needs the record of the
surfaced reason to be known (`LastKnown`). The condition is on the state
before each reconcile and on what it finds, and says that the reason of a
transition is the condition that fails.
-/
import Bootmux.Router.AllowlistTheorems
import Bootmux.Router.DispatcherTheorems

namespace Bootmux.Router

open Bootmux.Bmx1
open Bootmux.Lib

/-! ## Markers of a trace -/

def markersOf (t : List Effect) : List Marker :=
  t.filterMap fun x => match x with | .gate marker => some marker | _ => none

theorem markersOf_append (t u : List Effect) : markersOf (t ++ u) = markersOf t ++ markersOf u :=
  List.filterMap_append

/-- The last marker printed. -/
def lastMarker (t : List Effect) : Option Marker := (markersOf t).getLast?

/-- The last marker is that of the later step, if it has one. -/
theorem lastMarker_append (t u : List Effect) :
    lastMarker (t ++ u) = (lastMarker u).or (lastMarker t) := by
  rw [lastMarker, markersOf_append, List.getLast?_append]
  rfl

/-! ## One reconcile -/

/-- The state on which the gate is decided: inputs refreshed, the probe
driven, inputs refreshed again. -/
def prepared (s : State) (env : ReconcileEnv) : State :=
  refreshInputs (driveProbe (refreshInputs s env.now) env).1 env.now

/-- All four conditions hold. -/
def shouldOpen (s : State) (env : ReconcileEnv) : Bool :=
  mgShouldOpen (prepared s env).gate env.now

/-- The failing condition, as `gate_close_reason` ranks them. -/
def failing (s : State) (env : ReconcileEnv) : MgReason :=
  (gateCloseReason (prepared s env) env.now).1

/-- The three start actions succeed. -/
def activationOk (env : ReconcileEnv) : Bool :=
  env.netifOk && env.naptOk && (env.proxyWasReady || env.proxyStarted)

/-- Asking twice at one time is asking once. -/
theorem tpIsReachable_idem (p : TpState) (now : Int) :
    tpIsReachable (tpIsReachable p now).2 now = tpIsReachable p now := by
  by_cases hinit : p.initialized = true
  · by_cases hreach : p.reachable = true
    · by_cases hold : p.lastResultMs ≠ 0 ∧ now - p.lastResultMs ≥ tpNoResponseMs
      · simp [tpIsReachable, hinit, hreach, hold]
      · simp [tpIsReachable, hinit, hreach, hold]
    · simp [tpIsReachable, hinit, hreach]
  · simp [tpIsReachable, hinit]

/-- The gate's inputs are those of the probe. -/
def Refreshed (s : State) (now : Int) : Prop :=
  s.gate.targetReachable = (tpIsReachable s.probe now).1 ∧
    s.gate.allowlistLoaded = tpAllowlistLoaded s.probe

/-- Before the path is looked at, its inputs are those of the time. -/
theorem prepared_refreshed (s : State) (env : ReconcileEnv) :
    Refreshed (prepared s env) env.now := by
  refine ⟨?_, rfl⟩
  simp only [prepared, refreshInputs, tpIsReachable_idem]

/-- `gate_close_reason` has no answer exactly when nothing fails. -/
theorem gateCloseReason_eq_boot {s : State} {now : Int} (h : Refreshed s now) :
    (gateCloseReason s now).1 = .boot ↔ mgShouldOpen s.gate now = true := by
  rw [mgShouldOpen_iff, h.1, h.2]
  unfold gateCloseReason
  by_cases hip : s.gate.wifiHasIp = true
  · rw [if_neg (by simp [hip])]
    by_cases hallow : tpAllowlistLoaded s.probe = true
    · rw [if_neg (by simp [hallow])]
      by_cases hreach : (tpIsReachable s.probe now).1 = true
      · simp only [hreach, Bool.not_true, Bool.false_eq_true, if_false]
        by_cases hlease : mgLeaseActive s.gate now = true
        · simp [hip, hallow, hlease]
        · rw [if_pos (by simp [hlease])]
          by_cases hzero : s.gate.leaseDeadlineMs = 0 <;> simp [hzero, hlease]
      · simp [hreach]
    · simp [hallow]
  · rw [if_pos (by simp [hip])]
    by_cases hstate : s.wifiState = .authFailed ∨ s.wifiState = .apNotFound ∨ s.wifiState = .noIp
    · simp [hstate, hip]
    · simp [hstate, hip]

/-- No condition fails exactly if the path should be open. -/
theorem failing_eq_boot (s : State) (env : ReconcileEnv) :
    failing s env = .boot ↔ shouldOpen s env = true :=
  gateCloseReason_eq_boot (prepared_refreshed s env)

@[simp] theorem prepared_pathOpen (s : State) (env : ReconcileEnv) :
    (prepared s env).gate.pathOpen = s.gate.pathOpen := by
  simp [prepared, refreshInputs]

@[simp] theorem prepared_emitted (s : State) (env : ReconcileEnv) :
    (prepared s env).gate.emittedCloseReason = s.gate.emittedCloseReason := by
  simp [prepared, refreshInputs]

/-- Nothing before the gate's own transition prints a marker. -/
theorem driveProbe_markers (s : State) (env : ReconcileEnv) :
    markersOf (driveProbe s env).2 = [] := by
  unfold driveProbe
  split
  · simp only []
    split
    · rfl
    · split <;> rfl
  · rfl

/-- The marker of the failing condition, if it was not surfaced before. -/
def surfaced (emitted reason : MgReason) : List Marker :=
  if reason = emitted then [] else [.pathClosed reason]

/-- The gate after its own transition decides `surfaceCloseReason` by the
prepared inputs alone. -/
theorem surface_markers {s p : State} {now : Int} (hprobe : s.probe = p.probe)
    (hwifi : s.wifiState = p.wifiState) (hip : s.gate.wifiHasIp = p.gate.wifiHasIp)
    (hlease : s.gate.leaseDeadlineMs = p.gate.leaseDeadlineMs) (hclosed : s.gate.pathOpen = false) :
    markersOf (surfaceCloseReason s now).2 =
        surfaced s.gate.emittedCloseReason (gateCloseReason p now).1 ∧
      (surfaceCloseReason s now).1.gate.emittedCloseReason = (gateCloseReason p now).1 := by
  have hreason : gateCloseReason s now = gateCloseReason p now := by
    unfold gateCloseReason mgLeaseActive
    rw [hprobe, hwifi, hip, hlease]
  simp only [surfaceCloseReason, hclosed, Bool.false_eq_true, if_false, hreason,
    mgCloseReasonChanged, surfaced]
  by_cases heq : (gateCloseReason p now).1 = s.gate.emittedCloseReason
  · simp [heq, markersOf]
  · simp [heq, markersOf]

/-- The transition of the gate: whether the path is open after it, and the
markers it prints. -/
def transition (opens : Bool) (pathOpen : Bool) (env : ReconcileEnv) (reason : MgReason) :
    Bool × List Marker :=
  if opens then
    if pathOpen then (true, [])
    else if activationOk env then (true, [.pathOpen])
    else (false, [.pathClosed .activationFailed])
  else if pathOpen then (false, [.pathClosed reason])
  else (false, [])

/-- A reconcile prints the markers of its transition, and leaves the
conditions. -/
theorem reconcileGate_markers (p : State) (env : ReconcileEnv) (reason : MgReason) :
    let r := reconcileGate p env reason
    (r.1.probe = p.probe ∧ r.1.wifiState = p.wifiState ∧
      r.1.gate.wifiHasIp = p.gate.wifiHasIp ∧
      r.1.gate.leaseDeadlineMs = p.gate.leaseDeadlineMs ∧
      r.1.gate.emittedCloseReason = p.gate.emittedCloseReason) ∧
    (r.1.gate.pathOpen, markersOf r.2) =
      transition (mgShouldOpen p.gate env.now) p.gate.pathOpen env reason := by
  simp only []
  constructor
  · obtain ⟨_, _, h⟩ := mgReconcile_frame p.gate env.now reason (gateActions env)
      { proxyListenerReady := p.endpoint.proxyListenerReady
        proxyReady := p.proxyReady
        effects := [] }
    simp only [reconcileGate, h]
    exact ⟨trivial, trivial, trivial, trivial, trivial⟩
  · obtain ⟨now, ping, netif, napt, was, started⟩ := env
    unfold reconcileGate mgReconcile transition activationOk
    cases hs : mgShouldOpen p.gate now <;> cases hp : p.gate.pathOpen
    · simp [hp, markersOf]
    · simp [deactivate, runStop, emitMarker, gateActions, markersOf]
    · cases netif <;> cases napt <;> cases was <;> cases started <;>
        simp [activate, applyOpenSteps, rollBack, runStart, runStop, emitMarker, gateActions,
          markersOf, mgOk, mgFail]
    · simp [hp, markersOf]

/-- **The markers of one reconcile**: those of the transition, then, if the
path is closed, the failing condition unless it was surfaced before. -/
theorem reconcile_markers (s : State) (env : ReconcileEnv) (reason : MgReason) :
    let r := reconcileManagementPath s env reason
    let t := transition (shouldOpen s env) s.gate.pathOpen env reason
    r.1.gate.pathOpen = t.1 ∧
    markersOf r.2 =
      t.2 ++ (if t.1 then [] else surfaced s.gate.emittedCloseReason (failing s env)) ∧
    r.1.gate.emittedCloseReason =
      if t.1 then s.gate.emittedCloseReason else failing s env := by
  simp only []
  obtain ⟨⟨hprobe, hwifi, hip, hlease, hemitted⟩, hpair⟩ :=
    reconcileGate_markers (prepared s env) env reason
  rw [prepared_pathOpen] at hpair
  rw [prepared_emitted] at hemitted
  have hopen : (reconcileGate (prepared s env) env reason).1.gate.pathOpen =
      (transition (shouldOpen s env) s.gate.pathOpen env reason).1 := congrArg Prod.fst hpair
  have hmarkers : markersOf (reconcileGate (prepared s env) env reason).2 =
      (transition (shouldOpen s env) s.gate.pathOpen env reason).2 := congrArg Prod.snd hpair
  have hopen' : (reconcileManagementPath s env reason).1.gate.pathOpen =
      (reconcileGate (prepared s env) env reason).1.gate.pathOpen :=
    surfaceCloseReason_pathOpen _ _
  have hout : markersOf (reconcileManagementPath s env reason).2 =
      markersOf (reconcileGate (prepared s env) env reason).2 ++
        markersOf (surfaceCloseReason (reconcileGate (prepared s env) env reason).1 env.now).2 := by
    rw [reconcileManagementPath]
    simp only [markersOf_append, driveProbe_markers, List.nil_append]
    rfl
  refine ⟨hopen'.trans hopen, ?_, ?_⟩
  · rw [hout, hmarkers]
    congr 1
    cases hclosed : (reconcileGate (prepared s env) env reason).1.gate.pathOpen with
    | true =>
        rw [if_pos (hopen ▸ hclosed), surfaceCloseReason, if_pos hclosed]
        rfl
    | false =>
        rw [if_neg (by rw [← hopen, hclosed]; simp), ← hemitted]
        exact (surface_markers hprobe hwifi hip hlease hclosed).1
  · cases hclosed : (reconcileGate (prepared s env) env reason).1.gate.pathOpen with
    | true =>
        have hsurface : (surfaceCloseReason (reconcileGate (prepared s env) env reason).1
            env.now).1 = (reconcileGate (prepared s env) env reason).1 := by
          rw [surfaceCloseReason, if_pos hclosed]
        rw [if_pos (hopen ▸ hclosed), ← hemitted, ← hsurface]
        rfl
    | false =>
        rw [if_neg (by rw [← hopen, hclosed]; simp)]
        exact (surface_markers hprobe hwifi hip hlease hclosed).2

/-! ## The reconciles of a run -/

/-- The call of `reconcile_management_path` a step makes, if it makes one:
the state it is made in and its reason. -/
def Event.reconcile (s : State) : Event → Option (State × ReconcileEnv × MgReason)
  | .wifiEvent env _ _ .staStart => some ((setWifiState s .connecting).1, env, .boot)
  | .wifiEvent env _ _ (.staDisconnected reason) =>
      some ((disconnectedState (withdrawWifi s) reason).1, env, .wifiDisconnected)
  | .wifiEvent env _ _ (.gotIp info) =>
      let s := { s with wifiDeadline := 0, wifiAttempts := 0 }
      let refused := some (withdrawWifi { s with proxyReady := false }, env, .wifiNoIp)
      match info with
      | some (ip, netmask) =>
          if ip = 0 then refused else some ((acceptIp s ip netmask).1, env, .boot)
      | none => refused
  | .mgmt env =>
      match s.mgmtEvents with
      | [] => none
      | event :: rest =>
          let applied := applyMgmt { s with mgmtEvents := rest } env.now event
          some (applied.1, env, applied.2)
  | .periodic env =>
      some (s, env, if s.gate.pathOpen then .conditionsMet else .leaseExpired)
  | _ => none

/-- Effects without a marker. -/
theorem markersOf_eq_nil {t : List Effect} (h : ∀ x ∈ t, ∀ m, x ≠ .gate m) : markersOf t = [] := by
  rw [markersOf, List.filterMap_eq_nil_iff]
  intro x hx
  cases x with
  | gate m => exact absurd rfl (h _ hx m)
  | _ => rfl

theorem markersOf_input {t : List Effect} (h : t.all Effect.isInput = true) : markersOf t = [] :=
  markersOf_eq_nil fun x hx m heq => by
    have := List.all_eq_true.mp h x hx; rw [heq] at this; cases this

theorem notifyProxyStatus_markers (s : State) (ready : Bool) (endpointText : Option Bytes)
    (status : ProxyStatus) : markersOf [notifyProxyStatus s ready endpointText status] = [] := by
  unfold notifyProxyStatus
  split
  · split <;> rfl
  · rfl

theorem handleWifi_markers (s : State) (env : FrameEnv) (p : WifiPart) :
    markersOf (handleWifi s env p).2 = [] := by
  have hmarks : ∀ ms : List WifiMark, markersOf (ms.map .wifi) = [] := fun ms =>
    markersOf_eq_nil (by simp)
  unfold handleWifi
  simp only []
  split
  · rw [markersOf_append, hmarks]; rfl
  · exact hmarks _
  · rw [markersOf_append, hmarks]
    unfold completeWifi
    split
    · rfl
    · simp only [sendCommand]
      split <;> rfl

/-- No frame prints a marker. -/
theorem perform_markers (s : State) (env : FrameEnv) (op : Op) :
    markersOf (perform s env op).2 = [] := by
  cases op with
  | opened session => rfl
  | control session sequence control =>
      by_cases hs : session = s.session
      · subst hs
        exact markersOf_input (applyControl_isInput s env sequence control)
      · simp only [perform, applyControl]
        rw [if_pos hs]
        rfl
  | text p => exact markersOf_input (handleText_isInput s env p)
  | wifi p => exact handleWifi_markers s env p
  | wifiStatus session sequence => rfl
  | netLease session sequence ttl =>
      simp only [perform, netLease]
      split
      · rfl
      · split
        · rfl
        · split
          · rfl
          · split <;> rfl
  | netRelease session sequence =>
      simp only [perform, netRelease]
      split
      · rfl
      · split <;> rfl
  | proxyStatus session sequence =>
      simp only [perform, proxyStatus]
      rw [← List.singleton_append, markersOf_append, notifyProxyStatus_markers]
      rfl
  | wifiClear session sequence =>
      simp only [perform, wifiClear]
      split
      · rfl
      · split
        · rfl
        · rw [← List.singleton_append, markersOf_append, markersOf_append, markersOf_append,
            notifyProxyStatus_markers]
          rfl

/-- A step that reconciles is its reconcile, as far as the gate and the
markers go. -/
theorem step_reconcile {s s' : State} {e : Event} {env : ReconcileEnv} {reason : MgReason}
    (h : e.reconcile s = some (s', env, reason)) :
    (step s e).1 = (reconcileManagementPath s' env reason).1 ∧
    markersOf (step s e).2 = markersOf (reconcileManagementPath s' env reason).2 ∧
    s'.gate.pathOpen = s.gate.pathOpen ∧
    s'.gate.emittedCloseReason = s.gate.emittedCloseReason := by
  have hdisconnected : ∀ s reason, (disconnectedState s reason).1.gate = s.gate ∧
      markersOf (disconnectedState s reason).2 = [] := by
    intro s reason
    unfold disconnectedState
    split
    · exact ⟨rfl, rfl⟩
    · exact ⟨rfl, rfl⟩
    · exact ⟨rfl, rfl⟩
    · exact ⟨rfl, rfl⟩
    · exact ⟨rfl, rfl⟩
    · split <;> exact ⟨rfl, rfl⟩
  cases e with
  | wifiEvent env' ready endpointText event =>
      cases event with
      | staStart =>
          obtain ⟨rfl, rfl, rfl⟩ : _ ∧ _ ∧ _ := by simpa [Event.reconcile] using h
          refine ⟨rfl, ?_, rfl, rfl⟩
          simp only [step, handleWifiEvent, markersOf_append]
          rfl
      | staDisconnected reason' =>
          obtain ⟨rfl, rfl, rfl⟩ : _ ∧ _ ∧ _ := by simpa [Event.reconcile] using h
          refine ⟨rfl, ?_, by rw [(hdisconnected _ _).1]; rfl, by rw [(hdisconnected _ _).1]; rfl⟩
          simp only [step, handleWifiEvent, markersOf_append, notifyProxyStatus_markers,
            (hdisconnected _ _).2, List.nil_append]
      | gotIp info =>
          cases info with
          | none =>
              obtain ⟨rfl, rfl, rfl⟩ : _ ∧ _ ∧ _ := by simpa [Event.reconcile] using h
              refine ⟨rfl, ?_, rfl, rfl⟩
              simp only [step, handleWifiEvent, refuseIp, markersOf_append,
                notifyProxyStatus_markers, List.nil_append]
          | some info =>
              by_cases hip : info.1 = 0
              · obtain ⟨rfl, rfl, rfl⟩ : _ ∧ _ ∧ _ := by simpa [Event.reconcile, hip] using h
                refine ⟨by simp only [step, handleWifiEvent, hip, if_true]; rfl, ?_, rfl, rfl⟩
                simp only [step, handleWifiEvent, hip, if_true, refuseIp, markersOf_append,
                  notifyProxyStatus_markers, List.nil_append]
              · obtain ⟨rfl, rfl, rfl⟩ : _ ∧ _ ∧ _ := by simpa [Event.reconcile, hip] using h
                refine ⟨by simp only [step, handleWifiEvent, hip, if_false], ?_, rfl, rfl⟩
                simp only [step, handleWifiEvent, hip, if_false, markersOf_append]
                rfl
      | other => cases h
  | mgmt env' =>
      cases hq : s.mgmtEvents with
      | nil => simp [Event.reconcile, hq] at h
      | cons event rest =>
          obtain ⟨rfl, rfl, rfl⟩ : _ ∧ _ ∧ _ := by simpa [Event.reconcile, hq] using h
          refine ⟨by simp only [step, takeMgmt, hq], by simp only [step, takeMgmt, hq], ?_, ?_⟩
          · cases event with
            | leaseGrant ttl => simp only [applyMgmt, mgLeaseGrant]; split <;> rfl
            | _ => rfl
          · cases event with
            | leaseGrant ttl => simp only [applyMgmt, mgLeaseGrant]; split <;> rfl
            | _ => rfl
  | periodic env' =>
      obtain ⟨rfl, rfl, rfl⟩ : _ ∧ _ ∧ _ := by simpa [Event.reconcile] using h
      exact ⟨rfl, rfl, rfl, rfl⟩
  | connect => cases h
  | disconnect hid => cases h
  | frame env' bytes => cases h
  | tick now => cases h
  | command env' => cases h
  | deadline now disconnectOk connectOk => cases h
  | pingResult success => cases h
  | pingEnd => cases h

/-- The other steps leave the gate alone and print no marker. -/
theorem step_no_reconcile {s : State} {e : Event} (h : e.reconcile s = none) :
    (step s e).1.gate = s.gate ∧ markersOf (step s e).2 = [] := by
  cases e with
  | wifiEvent env ready endpointText event =>
      cases event with
      | other => exact ⟨rfl, rfl⟩
      | staStart => cases h
      | staDisconnected reason => cases h
      | gotIp info =>
          cases info with
          | none => cases h
          | some info => by_cases hip : info.1 = 0 <;> simp [Event.reconcile, hip] at h
  | mgmt env =>
      cases hq : s.mgmtEvents with
      | nil => simp only [step, takeMgmt, hq]; exact ⟨trivial, rfl⟩
      | cons event rest => simp [Event.reconcile, hq] at h
  | periodic env => cases h
  | connect => exact ⟨rfl, rfl⟩
  | disconnect hid =>
      refine ⟨(sendMgmt_path (gapDisconnectReset s hid).1 .bleDisconnected).1, ?_⟩
      simp only [step, gapDisconnect, gapDisconnectReset, markersOf_append,
        markersOf_input (isInput_of_isReport (releaseAll_isReport hid))]
      rfl
  | frame env bytes =>
      refine ⟨(handleFrame_path s env bytes).1, ?_⟩
      simp only [step, handleFrame]
      split
      · unfold act
        split
        · split
          · exact perform_markers _ _ _
          · rfl
        · exact perform_markers _ _ _
      · rfl
  | tick now =>
      refine ⟨(dispatcherTimeout_mgmt s now).1.1, ?_⟩
      simp only [step, dispatcherTimeout]
      split <;> split <;> rfl
  | command env =>
      refine ⟨(takeCommand_path s env).1, ?_⟩
      simp only [step, takeCommand]
      split
      · rfl
      · simp only [handleWifiCommand]
        split
        · rfl
        · split
          · rfl
          · split
            · rfl
            · split
              · rfl
              · split <;> rfl
  | deadline now disconnectOk connectOk =>
      refine ⟨(checkDeadline_path s now disconnectOk connectOk).1, ?_⟩
      simp only [step, checkDeadline]
      split
      · split
        · split
          · rfl
          · split <;> rfl
        · cases disconnectOk <;> rfl
      · rfl
  | pingResult success => exact ⟨(sendMgmt_path s _).1, rfl⟩
  | pingEnd => exact ⟨rfl, rfl⟩

/-! ## Honest markers -/

/-- The effects of the reconcile at boot. -/
def bootEffects : List Effect :=
  (reconcileManagementPath globals
    { now := 0, pingStarted := false, netifOk := false, naptOk := false
      proxyWasReady := false, proxyStarted := false } .boot).2

/-- All effects of a run, those at boot included. -/
def printed (es : List Event) : List Effect := bootEffects ++ router.trace es

/-- The path was closed by an event of its own reason and has stayed
closed. -/
def ClosedBy (es : List Event) (reason : MgReason) : Prop :=
  ∃ before e after s env, es = before ++ e :: after ∧
    (router.run before).gate.pathOpen = true ∧
    e.reconcile (router.run before) = some (s, env, reason) ∧
    reason ≠ .boot ∧ reason ≠ .conditionsMet ∧
    ∀ past rest, after = past ++ rest →
      (router.run (before ++ e :: past)).gate.pathOpen = false

/-- What the last marker may say after the reconcile `e` of a run has left
the path closed. -/
structure HonestAfter (before : List Event) (e : Event) (s : State) (env : ReconcileEnv)
    (reason : MgReason) : Prop where
  last : lastMarker (printed (before ++ [e])) = some (.pathClosed reason)
  honest : (reason = .activationFailed ∧ shouldOpen s env = true ∧ activationOk env = false) ∨
    (reason = failing s env ∧ shouldOpen s env = false) ∨ ClosedBy (before ++ [e]) reason
  noExcuse : shouldOpen s env = false → reason ≠ .conditionsMet ∧ reason ≠ .boot
  atClosing : (router.run before).gate.pathOpen = true →
    lastMarker (step (router.run before) e).2 = some (.pathClosed reason)

/-- **Honest markers along a run.** -/
def HonestMarkers (es : List Event) : Prop :=
  ∀ before e after s env reason, es = before ++ e :: after →
    e.reconcile (router.run before) = some (s, env, reason) →
    (router.run (before ++ [e])).gate.pathOpen = false →
    ∃ r, HonestAfter before e s env r

/-- The two emitters agree at this step: no activation fails unless its
`BOOT` was surfaced last, and the path is not closed under `BOOT` or
`CONDITIONS_MET` by the condition that was surfaced last. -/
def MarkersAgree (s : State) (e : Event) : Prop :=
  ∀ c ∈ e.reconcile s,
    (shouldOpen c.1 c.2.1 = true → s.gate.pathOpen = false → activationOk c.2.1 = false →
      s.gate.emittedCloseReason = .boot) ∧
    (shouldOpen c.1 c.2.1 = false → s.gate.pathOpen = true →
      c.2.2 = .boot ∨ c.2.2 = .conditionsMet →
      s.gate.emittedCloseReason ≠ failing c.1 c.2.1)

instance (s : State) (e : Event) : Decidable (MarkersAgree s e) :=
  inferInstanceAs (Decidable (∀ c ∈ e.reconcile s,
    (shouldOpen c.1 c.2.1 = true → s.gate.pathOpen = false → activationOk c.2.1 = false →
      s.gate.emittedCloseReason = .boot) ∧
    (shouldOpen c.1 c.2.1 = false → s.gate.pathOpen = true →
      c.2.2 = .boot ∨ c.2.2 = .conditionsMet →
      s.gate.emittedCloseReason ≠ failing c.1 c.2.1)))

/-- What the last marker is while the path is closed: the condition
surfaced last, the event that closed the path, or a failed activation
whose `BOOT` was surfaced before. -/
def LastKnown (es : List Event) (reason : MgReason) : Prop :=
  lastMarker (printed es) = some (.pathClosed reason) ∧
  ((reason = (router.run es).gate.emittedCloseReason ∧ reason ≠ .boot ∧ reason ≠ .conditionsMet) ∨
    ClosedBy es reason ∨
    (reason = .activationFailed ∧ (router.run es).gate.emittedCloseReason = .boot))

/-- One more event prints its own markers. -/
theorem printed_concat (es : List Event) (e : Event) :
    printed (es ++ [e]) = printed es ++ (step (router.run es) e).2 := by
  rw [printed, router.trace_concat, ← List.append_assoc]
  rfl

theorem run_concat (es : List Event) (e : Event) :
    router.run (es ++ [e]) = (step (router.run es) e).1 := router.run_concat es e

theorem ClosedBy.concat {es : List Event} {reason : MgReason} (h : ClosedBy es reason) {e : Event}
    (hclosed : (router.run (es ++ [e])).gate.pathOpen = false) : ClosedBy (es ++ [e]) reason := by
  obtain ⟨before, e', after, s, env, rfl, hopen, hcall, hboot, hmet, hstay⟩ := h
  refine ⟨before, e', after ++ [e], s, env, by simp, hopen, hcall, hboot, hmet, ?_⟩
  intro past rest hsplit
  rcases List.eq_nil_or_concat rest with rfl | ⟨rest', x, rfl⟩
  · rw [List.append_nil] at hsplit
    subst hsplit
    simpa using hclosed
  · rw [List.concat_eq_append, ← List.append_assoc] at hsplit
    exact hstay past rest' (List.append_inj_left' hsplit rfl)

theorem failing_ne_conditionsMet (s : State) (env : ReconcileEnv) :
    failing s env ≠ .conditionsMet := by
  unfold failing gateCloseReason
  split
  · simp only []
    split <;> simp
  · split
    · simp
    · simp only []
      split
      · simp
      · split
        · simp only []
          split <;> simp
        · simp

section Closed

variable {es : List Event} {e : Event} {s : State} {env : ReconcileEnv}

theorem lastMarker_concat (es : List Event) (e : Event) : lastMarker (printed (es ++ [e])) =
    (lastMarker (step (router.run es) e).2).or (lastMarker (printed es)) := by
  rw [printed_concat, lastMarker_append]

/-- The failing condition is surfaced now. -/
theorem honest_of_surfaced
    (hrun : (router.run (es ++ [e])).gate.emittedCloseReason = failing s env)
    (hshut : shouldOpen s env = false)
    (hown : lastMarker (step (router.run es) e).2 = some (.pathClosed (failing s env))) :
    HonestAfter es e s env (failing s env) ∧ LastKnown (es ++ [e]) (failing s env) := by
  have hboot : failing s env ≠ .boot := fun h => by
    rw [(failing_eq_boot s env).mp h] at hshut; cases hshut
  have hwhole : lastMarker (printed (es ++ [e])) = some (.pathClosed (failing s env)) := by
    rw [lastMarker_concat, hown]; rfl
  exact ⟨⟨hwhole, Or.inr (Or.inl ⟨rfl, hshut⟩),
    fun _ => ⟨failing_ne_conditionsMet s env, hboot⟩, fun _ => hown⟩,
    hwhole, Or.inl ⟨hrun.symm, hboot, failing_ne_conditionsMet s env⟩⟩

/-- Nothing changes and nothing is printed: the last marker stands. -/
theorem honest_of_silent {r : MgReason} (h : LastKnown es r)
    (hwas : (router.run es).gate.pathOpen = false)
    (hclosed : (router.run (es ++ [e])).gate.pathOpen = false)
    (hrun : (router.run (es ++ [e])).gate.emittedCloseReason = failing s env)
    (hshut : shouldOpen s env = false)
    (hsame : failing s env = (router.run es).gate.emittedCloseReason)
    (hnone : lastMarker (step (router.run es) e).2 = none) :
    HonestAfter es e s env r ∧ LastKnown (es ++ [e]) r := by
  have hwhole : lastMarker (printed (es ++ [e])) = some (.pathClosed r) := by
    rw [lastMarker_concat, hnone, Option.none_or, h.1]
  have hopen : (router.run es).gate.pathOpen = true → lastMarker (step (router.run es) e).2 =
      some (.pathClosed r) := fun hp => by rw [hwas] at hp; cases hp
  rcases h.2 with ⟨hr, hboot, hmet⟩ | hby | ⟨_, hemitted⟩
  · exact ⟨⟨hwhole, Or.inr (Or.inl ⟨hr.trans hsame.symm, hshut⟩), fun _ => ⟨hmet, hboot⟩, hopen⟩,
      hwhole, Or.inl ⟨hr.trans (hsame.symm.trans hrun.symm), hboot, hmet⟩⟩
  · have hby' := hby.concat hclosed
    obtain ⟨_, _, _, _, _, _, _, _, hboot, hmet, _⟩ := hby
    exact ⟨⟨hwhole, Or.inr (Or.inr hby'), fun _ => ⟨hmet, hboot⟩, hopen⟩, hwhole,
      Or.inr (Or.inl hby')⟩
  · -- after a failed activation `BOOT` is on record, but something fails now
    rw [hemitted, failing_eq_boot, hshut] at hsame
    cases hsame

/-- The path is closed by an event of its own reason. -/
theorem honest_of_closing {reason : MgReason}
    (hcall : e.reconcile (router.run es) = some (s, env, reason))
    (hboot : reason ≠ .boot) (hmet : reason ≠ .conditionsMet)
    (hwas : (router.run es).gate.pathOpen = true)
    (hclosed : (router.run (es ++ [e])).gate.pathOpen = false)
    (hown : lastMarker (step (router.run es) e).2 = some (.pathClosed reason)) :
    HonestAfter es e s env reason ∧ LastKnown (es ++ [e]) reason := by
  have hwhole : lastMarker (printed (es ++ [e])) = some (.pathClosed reason) := by
    rw [lastMarker_concat, hown]; rfl
  have hby : ClosedBy (es ++ [e]) reason := by
    refine ⟨es, e, [], s, env, rfl, hwas, hcall, hboot, hmet, fun past rest hsplit => ?_⟩
    rw [(List.append_eq_nil_iff.mp hsplit.symm).1]
    exact hclosed
  exact ⟨⟨hwhole, Or.inr (Or.inr hby), fun _ => ⟨hmet, hboot⟩, fun _ => hown⟩, hwhole,
    Or.inr (Or.inl hby)⟩

/-- An activation fails, and `BOOT` was surfaced before. -/
theorem honest_of_failed
    (hrun : (router.run (es ++ [e])).gate.emittedCloseReason = failing s env)
    (hshould : shouldOpen s env = true) (hfailed : activationOk env = false)
    (hown : lastMarker (step (router.run es) e).2 = some (.pathClosed .activationFailed)) :
    HonestAfter es e s env .activationFailed ∧ LastKnown (es ++ [e]) .activationFailed := by
  have hwhole : lastMarker (printed (es ++ [e])) = some (.pathClosed .activationFailed) := by
    rw [lastMarker_concat, hown]; rfl
  exact ⟨⟨hwhole, Or.inl ⟨rfl, hshould, hfailed⟩, fun _ => ⟨by simp, by simp⟩, fun _ => hown⟩,
    hwhole, Or.inr (Or.inr ⟨rfl, hrun.trans ((failing_eq_boot s env).mpr hshould)⟩)⟩

/-- A reconcile that leaves the path closed, after a run with a known last
marker. -/
theorem honest_step
    (hinv : (router.run es).gate.pathOpen = false → ∃ r, LastKnown es r)
    (hagree : MarkersAgree (router.run es) e) {reason : MgReason}
    (hcall : e.reconcile (router.run es) = some (s, env, reason))
    (hclosed : (router.run (es ++ [e])).gate.pathOpen = false) :
    ∃ r, HonestAfter es e s env r ∧ LastKnown (es ++ [e]) r := by
  obtain ⟨hstep, hmarkers, hpath, hemitted⟩ := step_reconcile hcall
  obtain ⟨hopen', hprint, hemitted'⟩ := reconcile_markers s env reason
  obtain ⟨hactivation, hclosing⟩ := hagree _ hcall
  have hshut : (transition (shouldOpen s env) (router.run es).gate.pathOpen env reason).1 =
      false := by
    rw [← hpath, ← hopen', ← hstep, ← run_concat, hclosed]
  rw [hpath, hshut, if_neg (by simp)] at hprint hemitted'
  have hrun : (router.run (es ++ [e])).gate.emittedCloseReason = failing s env := by
    rw [run_concat, hstep, hemitted']
  have hlast : lastMarker (step (router.run es) e).2 =
      ((transition (shouldOpen s env) (router.run es).gate.pathOpen env reason).2 ++
        surfaced (router.run es).gate.emittedCloseReason (failing s env)).getLast? := by
    rw [lastMarker, hmarkers, hprint, hemitted]
  by_cases hsame : failing s env = (router.run es).gate.emittedCloseReason
  · rw [surfaced, if_pos hsame, List.append_nil] at hlast
    cases hshould : shouldOpen s env <;> cases hwas : (router.run es).gate.pathOpen <;>
      simp only [transition, hshould, hwas, if_true, if_false, Bool.false_eq_true] at hlast hshut
    · obtain ⟨r, hknown⟩ := hinv hwas
      exact ⟨r, honest_of_silent hknown hwas hclosed hrun hshould hsame hlast⟩
    · have hnamed : reason ≠ .boot ∧ reason ≠ .conditionsMet :=
        not_or.mp fun h => hclosing hshould hwas h hsame.symm
      exact ⟨reason, honest_of_closing hcall hnamed.1 hnamed.2 hwas hclosed hlast⟩
    · cases hok : activationOk env with
      | true => simp [hok] at hshut
      | false =>
          simp only [hok, Bool.false_eq_true, if_false] at hlast
          exact ⟨_, honest_of_failed hrun hshould hok hlast⟩
    · cases hshut
  · rw [surfaced, if_neg hsame, List.getLast?_append, List.getLast?_singleton] at hlast
    cases hshould : shouldOpen s env with
    | false => exact ⟨_, honest_of_surfaced hrun hshould hlast⟩
    | true =>
        -- a failed activation whose `BOOT` was not on record
        have hboot := (failing_eq_boot s env).mpr hshould
        cases hwas : (router.run es).gate.pathOpen with
        | true => simp [transition, hshould, hwas] at hshut
        | false =>
            cases hok : activationOk env with
            | true => simp [transition, hshould, hwas, hok] at hshut
            | false => exact absurd (hboot.trans (hactivation hshould hwas hok).symm) hsame

end Closed

/-- Every run whose steps agree has a known last marker while the path is
closed. -/
theorem lastKnown_run (es : List Event) (h : router.AllSteps MarkersAgree boot es) :
    (router.run es).gate.pathOpen = false → ∃ r, LastKnown es r := by
  induction es using List.reverseRecOn with
  | nil => exact fun _ => ⟨.wifiDisconnected, by rfl, Or.inl ⟨by rfl, by simp, by simp⟩⟩
  | append_singleton es e ih =>
      obtain ⟨hes, hlast⟩ := (router.allSteps_append MarkersAgree boot es [e]).mp h
      intro hclosed
      cases hcall : e.reconcile (router.run es) with
      | some c =>
          obtain ⟨r, _, hknown⟩ := honest_step (ih hes) hlast.1 hcall hclosed
          exact ⟨r, hknown⟩
      | none =>
          obtain ⟨hgate, hnone⟩ := step_no_reconcile hcall
          rw [run_concat, hgate] at hclosed
          obtain ⟨r, hmarker, hreason⟩ := ih hes hclosed
          refine ⟨r, ?_, ?_⟩
          · rw [lastMarker_concat, lastMarker, hnone, ← hmarker]
            rfl
          · rw [run_concat, hgate]
            rcases hreason with hr | hby | hr
            · exact Or.inl hr
            · refine Or.inr (Or.inl (hby.concat ?_))
              rw [run_concat, hgate, hclosed]
            · exact Or.inr (Or.inr hr)

/-- **In every run whose steps all agree the markers are honest**: after
each reconcile that leaves the path closed the last marker is a
`BOOTMUX_PATH_CLOSED` whose reason is a failed activation, the condition
that fails now or the event that closed the path. -/
theorem markers_honest {es : List Event} (h : router.AllSteps MarkersAgree boot es) :
    HonestMarkers es := by
  rintro before e after s env reason rfl hcall hclosed
  have hsplit := (router.allSteps_append MarkersAgree boot before (e :: after)).mp h
  obtain ⟨r, hhonest, _⟩ :=
    honest_step (lastKnown_run before hsplit.1) hsplit.2.1 hcall hclosed
  exact ⟨r, hhonest⟩

/-- An honest last marker is neither `BOOT` nor `CONDITIONS_MET`. -/
theorem HonestAfter.named {before : List Event} {e : Event} {s : State} {env : ReconcileEnv}
    {reason : MgReason} (h : HonestAfter before e s env reason) :
    reason ≠ .boot ∧ reason ≠ .conditionsMet := by
  rcases h.honest with ⟨rfl, _, _⟩ | ⟨rfl, hshut⟩ | ⟨_, _, _, _, _, _, _, _, hboot, hmet, _⟩
  · exact ⟨by simp, by simp⟩
  · refine ⟨fun hboot => ?_, failing_ne_conditionsMet s env⟩
    rw [(failing_eq_boot s env).mp hboot] at hshut
    cases hshut
  · exact ⟨hboot, hmet⟩

/-- A platform on which the start actions succeed, or on which the USB
interface does not come up. -/
def platform (now : Int) (netifOk : Bool) : ReconcileEnv :=
  { now := now, pingStarted := true, netifOk := netifOk, naptOk := true
    proxyWasReady := false, proxyStarted := true }

/-- A frame handled on an idle device. -/
def arrives (frame : String) : Event :=
  .frame { started := 0, now := 0, hidReady := true, hid := [], disconnectOk := true
           setConfigOk := true, proxyIsReady := false, endpointText := none } (ascii frame)

/-- Three answered pings, a session and a grant in the queue. -/
def untilGranted (now : Int) : List Event :=
  [.wifiEvent (platform now true) false none (.gotIp (some (0x32A80B01, 0x00FFFFFF))),
    .pingResult true, .pingResult true, .pingResult true, .mgmt (platform now true),
    .mgmt (platform now true), .mgmt (platform now true), arrives "BMX1|OPEN|s",
    arrives "BMX1|NET_LEASE|s|1|10"]

/-- The lease opens the path and runs out ten seconds later. -/
def leaseRunsOut : List Event :=
  untilGranted 1000 ++ [.mgmt (platform 1000 true), .periodic (platform 11000 true)]

/-- The hypothesis is met by a lease that runs out. -/
theorem markers_honest_lease :
    router.AllSteps MarkersAgree boot leaseRunsOut ∧ HonestMarkers leaseRunsOut := by
  have hagree : router.AllSteps MarkersAgree boot leaseRunsOut := by decide +kernel
  exact ⟨hagree, markers_honest hagree⟩

/-- A second lease opens the path again and runs out as the first did. -/
def leaseRunsOutAgain : List Event :=
  leaseRunsOut ++ [arrives "BMX1|NET_LEASE|s|2|10", .pingResult true,
    .mgmt (platform 11000 true), .mgmt (platform 11000 true)]

/-- The failed activation is followed by `BOOT`, and the second expiry is
reported as `CONDITIONS_MET`. -/
theorem markers_dishonest :
    ¬ HonestMarkers (untilGranted 1000 ++ [.mgmt (platform 1000 false)]) ∧
    ¬ HonestMarkers (leaseRunsOutAgain ++ [.periodic (platform 21000 true)]) := by
  constructor
  · intro h
    obtain ⟨r, hhonest⟩ := h (untilGranted 1000) (.mgmt (platform 1000 false)) [] _ _ _
      rfl rfl (by decide +kernel)
    have hboot : lastMarker (printed (untilGranted 1000 ++ [.mgmt (platform 1000 false)])) =
        some (.pathClosed .boot) := by decide +kernel
    rw [hhonest.last] at hboot
    exact hhonest.named.1 (Marker.pathClosed.inj (Option.some.inj hboot))
  · intro h
    obtain ⟨r, hhonest⟩ := h leaseRunsOutAgain (.periodic (platform 21000 true)) [] _ _ _
      rfl rfl (by decide +kernel)
    have hmet : lastMarker (printed (leaseRunsOutAgain ++ [.periodic (platform 21000 true)])) =
        some (.pathClosed .conditionsMet) := by decide +kernel
    rw [hhonest.last] at hmet
    exact hhonest.named.2 (Marker.pathClosed.inj (Option.some.inj hmet))

end Bootmux.Router
