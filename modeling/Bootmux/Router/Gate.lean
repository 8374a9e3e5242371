/-
Bootmux.Router.Gate — the management-path gate controller of the router
firmware (`management_gate.c`, `management_gate.h`).

The C functions are kept one for one. Pointers to state become state
passing; the injected callbacks of `mg_actions_t` become functions on a
context `γ`, so the device wiring, the host tests and the recording
stub below are all instances of one type. A callback that may be NULL
is an `Option`, and a missing start callback counts as a success, as in
`activate`.

`int64_t` milliseconds are integers: the clock is `esp_timer_get_time()
/ 1000`, whose values never come near the 64-bit bound.

The path is open only under the three inputs and an active lease. Opening it
runs three start callbacks and rolls back if one of them fails; closing it
runs the stop callbacks in the other order.
-/
import Bootmux.Lib.Machine

namespace Bootmux.Router

/-! ## Reasons and markers -/

/-- `mg_reason_t`. -/
inductive MgReason where
  | boot
  | wifiNoIp
  | wifiDisconnected
  | targetUnreachable
  | leaseAbsent
  | leaseExpired
  | bleDisconnected
  | wifiCleared
  | activationFailed
  | netReleased
  | conditionsMet
  deriving DecidableEq, Repr

def mgReasonStr : MgReason → String
  | .boot => "BOOT"
  | .wifiNoIp => "WIFI_NO_IP"
  | .wifiDisconnected => "WIFI_DISCONNECTED"
  | .targetUnreachable => "TARGET_UNREACHABLE"
  | .leaseAbsent => "LEASE_ABSENT"
  | .leaseExpired => "LEASE_EXPIRED"
  | .bleDisconnected => "BLE_DISCONNECTED"
  | .wifiCleared => "WIFI_CLEARED"
  | .activationFailed => "ACTIVATION_FAILED"
  | .netReleased => "NET_RELEASED"
  | .conditionsMet => "CONDITIONS_MET"

/-- The two lines `emit_marker` can form. -/
inductive Marker where
  | pathOpen
  | pathClosed (reason : MgReason)
  deriving DecidableEq, Repr

def Marker.line : Marker → String
  | .pathOpen => "BOOTMUX_PATH_OPEN"
  | .pathClosed reason => "BOOTMUX_PATH_CLOSED reason=" ++ mgReasonStr reason

/-! ## State and injected actions -/

/-- `mg_err_t`; any value other than `mgOk` is a failure. -/
abbrev MgErr := Int

def mgOk : MgErr := 0
def mgFail : MgErr := -1

def mgLeaseTtlMin : Int := 10
def mgLeaseTtlMax : Int := 60

/-- `mg_actions_t`, with the `void *ctx` the callbacks share made an
explicit state. -/
structure MgActions (γ : Type) where
  netifStart : Option (γ → MgErr × γ)
  naptEnable : Option (γ → MgErr × γ)
  proxyStart : Option (γ → MgErr × γ)
  proxyStop : Option (γ → γ)
  naptDisable : Option (γ → γ)
  netifStop : Option (γ → γ)
  emit : Option (Marker → γ → γ)

/-- `mg_state_t`. A deadline of `0` means that no lease is present. -/
structure MgState where
  wifiHasIp : Bool
  targetReachable : Bool
  allowlistLoaded : Bool
  leaseDeadlineMs : Int
  pathOpen : Bool
  lastReason : MgReason
  emittedCloseReason : MgReason
  deriving DecidableEq, Repr

def mgInit : MgState where
  wifiHasIp := false
  targetReachable := false
  allowlistLoaded := false
  leaseDeadlineMs := 0
  pathOpen := false
  lastReason := .boot
  emittedCloseReason := .boot

/-! ## The lease -/

def mgLeaseGrant (state : MgState) (ttlSeconds nowMs : Int) : Bool × MgState :=
  if ttlSeconds < mgLeaseTtlMin ∨ ttlSeconds > mgLeaseTtlMax then (false, state)
  else (true, { state with leaseDeadlineMs := nowMs + ttlSeconds * 1000 })

def mgLeaseRelease (state : MgState) : MgState :=
  { state with leaseDeadlineMs := 0 }

def mgLeaseActive (state : MgState) (nowMs : Int) : Bool :=
  state.leaseDeadlineMs != 0 && decide (nowMs < state.leaseDeadlineMs)

def mgShouldOpen (state : MgState) (nowMs : Int) : Bool :=
  state.wifiHasIp && state.targetReachable && state.allowlistLoaded &&
    mgLeaseActive state nowMs

/-! ## Transitions -/

section Transitions

variable {γ : Type}

def emitMarker (actions : MgActions γ) (marker : Marker) (ctx : γ) : γ :=
  match actions.emit with
  | some emit => emit marker ctx
  | none => ctx

/-- One start callback: whether the step counts as applied. -/
def runStart (action : Option (γ → MgErr × γ)) (ctx : γ) : Bool × γ :=
  match action with
  | some start => ((start ctx).1 == mgOk, (start ctx).2)
  | none => (true, ctx)

/-- One stop callback. -/
def runStop (action : Option (γ → γ)) (ctx : γ) : γ :=
  match action with
  | some stop => stop ctx
  | none => ctx

/-- The open sequence of `activate`: the number of applied steps. Each
start callback runs only when the one before it was applied. -/
def applyOpenSteps (actions : MgActions γ) (ctx : γ) : Nat × γ :=
  let r1 := runStart actions.netifStart ctx
  if r1.1 then
    let r2 := runStart actions.naptEnable r1.2
    if r2.1 then
      let r3 := runStart actions.proxyStart r2.2
      if r3.1 then (3, r3.2) else (2, r3.2)
    else (1, r2.2)
  else (0, r1.2)

/-- The rollback of `activate`, in strict reverse order. -/
def rollBack (actions : MgActions γ) (applied : Nat) (ctx : γ) : γ :=
  let ctx := if applied ≥ 2 then runStop actions.naptDisable ctx else ctx
  if applied ≥ 1 then runStop actions.netifStop ctx else ctx

def activate (state : MgState) (actions : MgActions γ) (ctx : γ) : Bool × MgState × γ :=
  let r := applyOpenSteps actions ctx
  if r.1 = 3 then
    (true, { state with pathOpen := true, lastReason := .conditionsMet },
      emitMarker actions .pathOpen r.2)
  else
    (false, { state with pathOpen := false, lastReason := .activationFailed },
      emitMarker actions (.pathClosed .activationFailed) (rollBack actions r.1 r.2))

def deactivate (state : MgState) (actions : MgActions γ) (reason : MgReason) (ctx : γ) :
    MgState × γ :=
  let ctx := runStop actions.proxyStop ctx
  let ctx := runStop actions.naptDisable ctx
  let ctx := runStop actions.netifStop ctx
  ({ state with pathOpen := false, lastReason := reason },
    emitMarker actions (.pathClosed reason) ctx)

/-- `mg_reconcile`; the Boolean is the C return value. -/
def mgReconcile (state : MgState) (nowMs : Int) (reason : MgReason)
    (actions : MgActions γ) (ctx : γ) : Bool × MgState × γ :=
  let shouldOpen := mgShouldOpen state nowMs
  if shouldOpen && !state.pathOpen then
    let r := activate state actions ctx
    (true, r.2.1, r.2.2)
  else if !shouldOpen && state.pathOpen then
    let r := deactivate state actions reason ctx
    (true, r.1, r.2)
  else (false, state, ctx)

end Transitions

def mgCloseReasonChanged (state : MgState) (reason : MgReason) : Bool × MgState :=
  if state.pathOpen then (false, state)
  else if reason = state.emittedCloseReason then (false, state)
  else (true, { state with emittedCloseReason := reason, lastReason := reason })

/-! ## What one reconcile does to the state -/

theorem mgShouldOpen_iff (state : MgState) (nowMs : Int) :
    mgShouldOpen state nowMs = true ↔
      state.wifiHasIp = true ∧ state.targetReachable = true ∧
        state.allowlistLoaded = true ∧ mgLeaseActive state nowMs = true := by
  simp [mgShouldOpen, and_assoc]

theorem mgLeaseActive_iff (state : MgState) (nowMs : Int) :
    mgLeaseActive state nowMs = true ↔
      state.leaseDeadlineMs ≠ 0 ∧ nowMs < state.leaseDeadlineMs := by
  simp [mgLeaseActive]

/-- A reconcile writes only `path_open` and `last_reason`. -/
theorem mgReconcile_frame {γ : Type} (state : MgState) (nowMs : Int) (reason : MgReason)
    (actions : MgActions γ) (ctx : γ) :
    ∃ pathOpen lastReason, (mgReconcile state nowMs reason actions ctx).2.1 =
      { state with pathOpen := pathOpen, lastReason := lastReason } := by
  unfold mgReconcile activate deactivate
  simp only []
  split
  · split
    · exact ⟨_, _, rfl⟩
    · exact ⟨_, _, rfl⟩
  · split
    · exact ⟨_, _, rfl⟩
    · exact ⟨state.pathOpen, state.lastReason, rfl⟩

@[simp] theorem mgReconcile_allowlistLoaded {γ : Type} (state : MgState) (nowMs : Int)
    (reason : MgReason) (actions : MgActions γ) (ctx : γ) :
    (mgReconcile state nowMs reason actions ctx).2.1.allowlistLoaded =
      state.allowlistLoaded := by
  obtain ⟨_, _, h⟩ := mgReconcile_frame state nowMs reason actions ctx
  rw [h]

@[simp] theorem mgReconcile_leaseDeadlineMs {γ : Type} (state : MgState) (nowMs : Int)
    (reason : MgReason) (actions : MgActions γ) (ctx : γ) :
    (mgReconcile state nowMs reason actions ctx).2.1.leaseDeadlineMs =
      state.leaseDeadlineMs := by
  obtain ⟨_, _, h⟩ := mgReconcile_frame state nowMs reason actions ctx
  rw [h]

/-- The callbacks keep a property of their context. -/
structure MgActions.Keeps {γ : Type} (actions : MgActions γ) (P : γ → Prop) : Prop where
  netifStart : ∀ ctx, P ctx → P (runStart actions.netifStart ctx).2
  naptEnable : ∀ ctx, P ctx → P (runStart actions.naptEnable ctx).2
  proxyStart : ∀ ctx, P ctx → P (runStart actions.proxyStart ctx).2
  proxyStop : ∀ ctx, P ctx → P (runStop actions.proxyStop ctx)
  naptDisable : ∀ ctx, P ctx → P (runStop actions.naptDisable ctx)
  netifStop : ∀ ctx, P ctx → P (runStop actions.netifStop ctx)
  emit : ∀ marker ctx, P ctx → P (emitMarker actions marker ctx)

/-- What every callback keeps, a reconcile keeps. -/
theorem mgReconcile_keeps {γ : Type} {actions : MgActions γ} {P : γ → Prop}
    (h : actions.Keeps P) (state : MgState) (nowMs : Int) (reason : MgReason) {ctx : γ}
    (hctx : P ctx) : P (mgReconcile state nowMs reason actions ctx).2.2 := by
  have hopen : P (applyOpenSteps actions ctx).2 := by
    have h1 := h.netifStart ctx hctx
    unfold applyOpenSteps
    simp only []
    split
    · have h2 := h.naptEnable _ h1
      split
      · split <;> exact h.proxyStart _ h2
      · exact h2
    · exact h1
  have hback : ∀ n c, P c → P (rollBack actions n c) := by
    intro n c hc
    unfold rollBack
    simp only []
    split <;> split
    · exact h.netifStop _ (h.naptDisable _ hc)
    · exact h.netifStop _ hc
    · exact h.naptDisable _ hc
    · exact hc
  unfold mgReconcile activate deactivate
  simp only []
  split
  · split
    · exact h.emit _ _ hopen
    · exact h.emit _ _ (hback _ _ hopen)
  · split
    · exact h.emit _ _ (h.netifStop _ (h.naptDisable _ (h.proxyStop _ hctx)))
    · exact hctx

/-- After a reconcile an open path means that the gate should be open
now, whatever the callbacks returned. -/
theorem mgReconcile_pathOpen {γ : Type} (state : MgState) (nowMs : Int) (reason : MgReason)
    (actions : MgActions γ) (ctx : γ)
    (h : (mgReconcile state nowMs reason actions ctx).2.1.pathOpen = true) :
    mgShouldOpen state nowMs = true := by
  cases hs : mgShouldOpen state nowMs with
  | true => rfl
  | false =>
      cases hp : state.pathOpen <;> simp [mgReconcile, hs, hp, deactivate] at h

end Bootmux.Router
