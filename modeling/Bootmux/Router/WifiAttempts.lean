/-
Bootmux.Router.WifiAttempts — the connection attempts of `wifi_task`.

A `WifiPass` is one iteration of the task's loop with all that it takes
from the queues and from ESP-IDF. The pass is put together from the
functions of `Bootmux.Router.WifiTask`; its trace also keeps the calls of
the Wi-Fi driver. A pending attempt is one with a deadline. A disconnect
for some other reason makes the state `WIFI_DISCONNECTED` and leaves the
deadline standing, and the deadline is looked at in `WIFI_CONNECTING`
only (`attempt_hangs`). `neverHangs_iff` says that nothing else goes
wrong.

A pass is taken apart into the functions that it runs, and each has an
inductive list of what it can do to the attempt: begin one, end one, count
one, or nothing (`EventDoes`, `CommandDoes`, `DeadlineDoes`). From these one
iteration is read off, and the invariant of a run says how many calls of the
driver belong to the credentials that are tried (`Counted`) and what a
pending attempt waits for (`Pending`).

The bound of three calls holds in every run; the end of an attempt needs the
condition that no other disconnect masks it (`Unmasked`).
-/
import Bootmux.Router.RuntimeTheorems

namespace Bootmux.Router

open Bootmux.Bmx1
open Bootmux.Lib

/-! ## One iteration of the loop -/

/-- A call of the Wi-Fi driver; a disconnect also succeeds with
`ESP_ERR_WIFI_NOT_CONNECT`. -/
inductive RadioCall where
  | connect (ok : Bool)
  | disconnect (ok : Bool)
  deriving DecidableEq, Repr

/-- The driver calls of `handle_wifi_command` that bear on the attempt. -/
def commandCalls (env : CommandEnv) : List RadioCall :=
  if env.credentials.isSome && env.storageOk && env.modeOk && env.configOk then
    [.connect env.connectOk]
  else []

/-- The driver calls of the deadline check. -/
def deadlineCalls (s : State) (now : Int) (disconnectOk connectOk : Bool) : List RadioCall :=
  if s.wifiState = .connecting ∧ s.wifiDeadline > 0 ∧ now ≥ s.wifiDeadline then
    .disconnect disconnectOk ::
      if s.wifiAttempts < bmxWifiTries ∧ disconnectOk = true then [.connect connectOk] else []
  else []

/-- What one iteration takes; the clock has run since the boot. -/
structure WifiPass where
  event : Option WifiEvent
  reconcile : ReconcileEnv
  proxyIsReady : Bool
  endpointText : Option Bytes
  command : Option (WifiCommand × CommandEnv)
  mgmt : List (MgmtEvent × ReconcileEnv)
  now : Int
  disconnectOk : Bool
  connectOk : Bool
  now_nonneg : 0 ≤ now
  command_nonneg : ∀ c ∈ command, 0 ≤ c.2.now

inductive TaskEffect where
  | effect (x : Effect)
  | radio (call : RadioCall)

/-- The address could not be read, and the iteration ends. -/
def WifiPass.refuses (p : WifiPass) : Bool :=
  match p.event with
  | some (.gotIp none) => true
  | some (.gotIp (some (ip, _))) => ip == 0
  | _ => false

/-- The command that the iteration takes. -/
def WifiPass.taken (p : WifiPass) : Option (WifiCommand × CommandEnv) :=
  if p.refuses then none else p.command

def takeEvent (s : State) (p : WifiPass) : State × List Effect :=
  match p.event with
  | none => (s, [])
  | some event => handleWifiEvent s p.reconcile p.proxyIsReady p.endpointText event

def handleTaken (s : State) (p : WifiPass) : State × List TaskEffect :=
  match p.taken with
  | none => (s, [])
  | some (command, env) =>
      let r := handleWifiCommand s env command
      (r.1, (commandCalls env).map .radio ++ r.2.map .effect)

/-- The drain of the management queue. -/
def drainMgmt (s : State) : List (MgmtEvent × ReconcileEnv) → State × List Effect
  | [] => (s, [])
  | (event, env) :: rest =>
      let applied := applyMgmt s env.now event
      let reconciled := reconcileManagementPath applied.1 env applied.2
      let drained := drainMgmt reconciled.1 rest
      (drained.1, reconciled.2 ++ drained.2)

/-- The deadline check and the reconcile after it. -/
def endPass (s : State) (p : WifiPass) : State × List TaskEffect :=
  let checked := checkDeadline s p.now p.disconnectOk p.connectOk
  let calls := deadlineCalls s p.now p.disconnectOk p.connectOk
  -- a retry whose disconnect fails goes on with the next iteration
  if calls = [.disconnect false] ∧ s.wifiAttempts < bmxWifiTries then
    (checked.1, calls.map .radio ++ checked.2.map .effect)
  else
    let r := periodicReconcile checked.1 p.reconcile
    (r.1, calls.map .radio ++ checked.2.map .effect ++ r.2.map .effect)

def wifiPass (s : State) (p : WifiPass) : State × List TaskEffect :=
  let received := takeEvent s p
  if p.refuses then (received.1, received.2.map .effect)
  else
    let handled := handleTaken received.1 p
    let drained := drainMgmt handled.1 p.mgmt
    let ended := endPass drained.1 p
    (ended.1,
      received.2.map .effect ++ handled.2 ++ drained.2.map .effect ++ ended.2)

def wifiTask : Machine State WifiPass TaskEffect where
  init := boot
  step := wifiPass

/-! ## Attempts -/

/-- The iteration takes a command that gets as far as `esp_wifi_connect`. -/
def WifiPass.attempts (p : WifiPass) : Bool := p.taken.any fun c => commandCalls c.2 ≠ []

/-- The command is accepted. -/
def WifiPass.starts (p : WifiPass) : Bool :=
  p.taken.any fun c => commandCalls c.2 = [.connect true]

/-- The event answers the attempt: an address, or an authentication or
no-AP failure. -/
def WifiPass.answered (p : WifiPass) : Bool :=
  match p.event with
  | some (.gotIp _) => true
  | some (.staDisconnected .other) => false
  | some (.staDisconnected _) => true
  | _ => false

/-- Neither an answer nor another command. -/
def WifiPass.unanswered (p : WifiPass) : Bool := !p.attempts && !p.answered

def TaskEffect.connects : TaskEffect → Bool
  | .radio (.connect _) => true
  | _ => false

def TaskEffect.fails : TaskEffect → Bool
  | .radio (.connect false) | .radio (.disconnect false) => true
  | _ => false

def TaskEffect.noIp : TaskEffect → Bool
  | .effect (.network _ .noIp) => true
  | _ => false

/-- The calls of `esp_wifi_connect`. -/
def connects (t : List TaskEffect) : Nat := t.countP TaskEffect.connects

/-- The client is told `WIFI_NO_IP`. -/
def reportsNoIp (t : List TaskEffect) : Bool := t.any TaskEffect.noIp

/-- The attempt is pending, with as many calls made as are counted; or it
has been given up, after three calls or a call that failed. -/
def Tried (s : State) (t : List TaskEffect) : Prop :=
  (s.wifiState = .connecting ∧ 0 < s.wifiDeadline ∧ s.wifiAttempts = connects t ∧
    reportsNoIp t = false) ∨
  (s.wifiDeadline = 0 ∧ reportsNoIp t = true ∧ (connects t = 3 ∨ t.any TaskEffect.fails = true))

/-- What the iterations since the first `pre` have done. -/
def since (pre passes : List WifiPass) : List TaskEffect :=
  wifiTask.traceFrom (wifiTask.run pre) passes

/-- **A provisioning attempt never hangs.** -/
structure NeverHangs (passes : List WifiPass) : Prop where
  pending : ∀ pre post, passes = pre ++ post → 0 < (wifiTask.run pre).wifiDeadline →
    (wifiTask.run pre).wifiState = .connecting
  bounded : ∀ pre p qs post, passes = pre ++ p :: qs ++ post → p.attempts = true →
    (∀ q ∈ qs, q.attempts = false) → connects (since pre (p :: qs)) ≤ 3
  retried : ∀ pre p qs post, passes = pre ++ p :: qs ++ post → p.starts = true →
    (∀ q ∈ qs, q.unanswered = true) →
      Tried (wifiTask.run (pre ++ p :: qs)) (since pre (p :: qs))
  overdue : ∀ pre p qs q post, passes = pre ++ p :: qs ++ q :: post → p.starts = true →
    (∀ q' ∈ qs, q'.unanswered = true) → q.unanswered = true →
    0 < (wifiTask.run (pre ++ p :: qs)).wifiDeadline →
    (wifiTask.run (pre ++ p :: qs)).wifiDeadline ≤ q.now →
      connects (wifiPass (wifiTask.run (pre ++ p :: qs)) q).2 = 1 ∨
        reportsNoIp (wifiPass (wifiTask.run (pre ++ p :: qs)) q).2 = true

/-- A disconnect for another reason does not meet a pending attempt, or a
new command takes the attempt's place at once. -/
def Unmasked (s : State) (p : WifiPass) : Prop :=
  p.event = some (.staDisconnected .other) → 0 < s.wifiDeadline → p.attempts = true

instance (s : State) (p : WifiPass) : Decidable (Unmasked s p) := by
  unfold Unmasked
  infer_instance

/-! ## What the parts of an iteration do to an attempt -/

/-- The state, the deadline and the count of an attempt. -/
def State.attempt (s : State) : WifiState × Int × Nat :=
  (s.wifiState, s.wifiDeadline, s.wifiAttempts)

/-- The attempt is left alone, and `WIFI_NO_IP` is not reported. -/
structure Beside (s : State) (r : State × List Effect) : Prop where
  attempt : r.1.attempt = s.attempt
  silent : (r.2.map TaskEffect.effect).any TaskEffect.noIp = false

theorem Beside.nil (s : State) : Beside s (s, []) := ⟨rfl, rfl⟩

/-- A step beside the attempt leaves its state. -/
theorem Beside.state {s : State} {r : State × List Effect} (h : Beside s r) :
    r.1.wifiState = s.wifiState := congrArg Prod.fst h.attempt

theorem Beside.deadline {s : State} {r : State × List Effect} (h : Beside s r) :
    r.1.wifiDeadline = s.wifiDeadline := congrArg (fun a => a.2.1) h.attempt

theorem Beside.attempts {s : State} {r : State × List Effect} (h : Beside s r) :
    r.1.wifiAttempts = s.wifiAttempts := congrArg (fun a => a.2.2) h.attempt

theorem silent_append {t u : List Effect}
    (ht : (t.map TaskEffect.effect).any TaskEffect.noIp = false)
    (hu : (u.map TaskEffect.effect).any TaskEffect.noIp = false) :
    ((t ++ u).map TaskEffect.effect).any TaskEffect.noIp = false := by
  rw [List.map_append, List.any_append, ht, hu]
  rfl

theorem Beside.append {s : State} {r q : State × List Effect} (h : Beside s r)
    (h' : Beside r.1 q) : Beside s (q.1, r.2 ++ q.2) :=
  ⟨h'.attempt.trans h.attempt, silent_append h.silent h'.silent⟩

theorem driveProbe_beside (s : State) (env : ReconcileEnv) : Beside s (driveProbe s env) := by
  unfold driveProbe
  split
  · simp only []
    split
    · exact .nil s
    · split <;> exact ⟨rfl, rfl⟩
  · exact .nil s

theorem reconcileGate_beside (s : State) (env : ReconcileEnv) (reason : MgReason) :
    Beside s (reconcileGate s env reason) := by
  have hkeeps : (gateActions env).Keeps fun ctx =>
      (ctx.effects.map TaskEffect.effect).any TaskEffect.noIp = false := by
    constructor
    · intro ctx h; exact h
    · intro ctx h; exact h
    · intro ctx h
      simp only [runStart, gateActions]
      split
      · exact h
      · split <;> exact h
    · intro ctx h; exact silent_append h rfl
    · intro ctx h; exact h
    · intro ctx h; exact h
    · intro marker ctx h; exact silent_append h rfl
  exact ⟨rfl, mgReconcile_keeps hkeeps s.gate env.now reason rfl⟩

theorem surfaceCloseReason_beside (s : State) (now : Int) :
    Beside s (surfaceCloseReason s now) := by
  unfold surfaceCloseReason
  split
  · exact .nil s
  · refine ⟨rfl, ?_⟩
    simp only []
    split <;> rfl

theorem reconcile_beside (s : State) (env : ReconcileEnv) (reason : MgReason) :
    Beside s (reconcileManagementPath s env reason) := by
  have hprobe : Beside s (driveProbe (refreshInputs s env.now) env) :=
    ⟨(driveProbe_beside _ env).attempt, (driveProbe_beside _ env).silent⟩
  have hgate : Beside (driveProbe (refreshInputs s env.now) env).1
      (reconcileGate (refreshInputs (driveProbe (refreshInputs s env.now) env).1 env.now) env
        reason) :=
    ⟨(reconcileGate_beside _ env reason).attempt, (reconcileGate_beside _ env reason).silent⟩
  exact (hprobe.append hgate).append (surfaceCloseReason_beside _ env.now)

theorem drainMgmt_beside (mgmt : List (MgmtEvent × ReconcileEnv)) (s : State) :
    Beside s (drainMgmt s mgmt) := by
  induction mgmt generalizing s with
  | nil => exact .nil s
  | cons m mgmt ih =>
      obtain ⟨event, env⟩ := m
      have happlied : (applyMgmt s env.now event).1.attempt = s.attempt := by
        cases event <;> rfl
      have hreconciled := reconcile_beside (applyMgmt s env.now event).1 env
        (applyMgmt s env.now event).2
      have hfirst : Beside s (reconcileManagementPath (applyMgmt s env.now event).1 env
          (applyMgmt s env.now event).2) :=
        ⟨hreconciled.attempt.trans happlied, hreconciled.silent⟩
      exact hfirst.append (ih _)

/-- A reconcile after the state is set, and after notifications. -/
theorem Beside.reconciled {s t : State} {u : List Effect} (env : ReconcileEnv)
    (reason : MgReason) (hattempt : t.attempt = s.attempt)
    (hsilent : (u.map TaskEffect.effect).any TaskEffect.noIp = false) :
    Beside s ((reconcileManagementPath t env reason).1,
      u ++ (reconcileManagementPath t env reason).2) :=
  ⟨(reconcile_beside t env reason).attempt.trans hattempt,
    silent_append hsilent (reconcile_beside t env reason).silent⟩

theorem notifyProxyStatus_silent (s : State) (ready : Bool) (endpointText : Option Bytes)
    (status : ProxyStatus) :
    (TaskEffect.effect (notifyProxyStatus s ready endpointText status)).noIp = false := by
  unfold notifyProxyStatus
  split
  · split <;> rfl
  · rfl

/-- The event ends the attempt, or leaves it standing; a disconnect for
another reason takes its state away. -/
inductive EventDoes (s : State) (p : WifiPass) (r : State × List Effect) : Prop where
  | answers (hanswered : p.answered = true) (hdeadline : r.1.wifiDeadline = 0)
      (hsilent : (r.2.map TaskEffect.effect).any TaskEffect.noIp = false)
  | keeps (hevent : p.event ≠ some (.staDisconnected .other)) (hanswered : p.answered = false)
      (hstate : r.1.wifiState = s.wifiState ∨ r.1.wifiState = .connecting)
      (hdeadline : r.1.wifiDeadline = s.wifiDeadline)
      (hattempts : r.1.wifiAttempts = s.wifiAttempts)
      (hsilent : (r.2.map TaskEffect.effect).any TaskEffect.noIp = false)
  | masks (hevent : p.event = some (.staDisconnected .other))
      (hstate : s.wifiState = .connecting → r.1.wifiState = .disconnected)
      (hdeadline : r.1.wifiDeadline = s.wifiDeadline)
      (hattempts : r.1.wifiAttempts = s.wifiAttempts)
      (hsilent : (r.2.map TaskEffect.effect).any TaskEffect.noIp = false)

/-- An address that is refused ends the attempt. -/
theorem refuseIp_does (s : State) (env : ReconcileEnv) (ready : Bool)
    (endpointText : Option Bytes) (hdeadline : s.wifiDeadline = 0) :
    (refuseIp s env ready endpointText).1.wifiDeadline = 0 ∧
      ((refuseIp s env ready endpointText).2.map TaskEffect.effect).any TaskEffect.noIp =
        false := by
  have hbeside := Beside.reconciled (s := withdrawWifi { s with proxyReady := false })
    (u := [notifyProxyStatus (withdrawWifi { s with proxyReady := false }) ready
      endpointText .error]) env .wifiNoIp rfl
    (by simp [notifyProxyStatus_silent])
  exact ⟨hbeside.deadline.trans hdeadline, hbeside.silent⟩

/-- The change of state on a disconnect, with the reconcile after it. -/
theorem disconnected_does (s : State) (p : WifiPass) (reason : DisconnectReason)
    (hevent : p.event = some (.staDisconnected reason)) :
    EventDoes s p (handleWifiEvent s p.reconcile p.proxyIsReady p.endpointText
      (.staDisconnected reason)) := by
  have hnotify (state : WifiState) (hstate : state ≠ .noIp) (t : State) :
      ((notifyProxyStatus (withdrawWifi s) p.proxyIsReady p.endpointText .offline ::
        (setWifiState t state).2).map TaskEffect.effect).any TaskEffect.noIp = false := by
    rw [List.map_cons, List.any_cons, notifyProxyStatus_silent, Bool.false_or]
    cases state <;> first | rfl | exact absurd rfl hstate
  cases reason with
  | authFail | authExpire | handshakeTimeout =>
      have hbeside := Beside.reconciled
        (s := (setWifiState { withdrawWifi s with wifiDeadline := 0 } .authFailed).1) p.reconcile
        .wifiDisconnected rfl
        (hnotify .authFailed (by decide) { withdrawWifi s with wifiDeadline := 0 })
      exact .answers (by simp [WifiPass.answered, hevent]) hbeside.deadline hbeside.silent
  | noApFound | noApFoundWithCompatibleSecurity =>
      have hbeside := Beside.reconciled
        (s := (setWifiState { withdrawWifi s with wifiDeadline := 0 } .apNotFound).1) p.reconcile
        .wifiDisconnected rfl
        (hnotify .apNotFound (by decide) { withdrawWifi s with wifiDeadline := 0 })
      exact .answers (by simp [WifiPass.answered, hevent]) hbeside.deadline hbeside.silent
  | other =>
      simp only [handleWifiEvent, disconnectedState]
      split
      · have hbeside := Beside.reconciled
          (s := (setWifiState (withdrawWifi s) .disconnected).1) p.reconcile
          .wifiDisconnected rfl (hnotify .disconnected (by decide) (withdrawWifi s))
        exact .masks hevent (fun _ => hbeside.state) hbeside.deadline hbeside.attempts
          hbeside.silent
      · next hended =>
          have hbeside := Beside.reconciled (s := withdrawWifi s)
            (u := [notifyProxyStatus (withdrawWifi s) p.proxyIsReady p.endpointText
              .offline]) p.reconcile .wifiDisconnected rfl (by simp [notifyProxyStatus_silent])
          refine .masks hevent (fun hconnecting => ?_) hbeside.deadline hbeside.attempts
            hbeside.silent
          exact absurd (by simp [withdrawWifi, hconnecting]) hended

theorem takeEvent_does (s : State) (p : WifiPass) : EventDoes s p (takeEvent s p) := by
  unfold takeEvent
  split
  · next hevent =>
      exact .keeps (by simp [hevent]) (by simp [WifiPass.answered, hevent]) (.inl rfl) rfl rfl rfl
  · next event hevent =>
      cases event with
      | staStart =>
          have hbeside := Beside.reconciled (s := (setWifiState s .connecting).1)
            (u := (setWifiState s .connecting).2) p.reconcile .boot rfl rfl
          exact .keeps (by simp [hevent]) (by simp [WifiPass.answered, hevent])
            (.inr hbeside.state) hbeside.deadline hbeside.attempts hbeside.silent
      | staDisconnected reason => exact disconnected_does s p reason hevent
      | gotIp info =>
          have hanswered : p.answered = true := by simp [WifiPass.answered, hevent]
          obtain ⟨hdeadline, hsilent⟩ := refuseIp_does
            { s with wifiDeadline := 0, wifiAttempts := 0 } p.reconcile p.proxyIsReady
            p.endpointText rfl
          cases info with
          | none => exact .answers hanswered hdeadline hsilent
          | some address =>
            obtain ⟨ip, netmask⟩ := address
            simp only [handleWifiEvent]
            split
            · exact .answers hanswered hdeadline hsilent
            · have hbeside := Beside.reconciled
                (s := (acceptIp { s with wifiDeadline := 0, wifiAttempts := 0 } ip netmask).1)
                (u := (acceptIp { s with wifiDeadline := 0, wifiAttempts := 0 } ip
                  netmask).2) p.reconcile .boot rfl rfl
              exact .answers hanswered hbeside.deadline hbeside.silent
      | other =>
          exact .keeps (by simp [hevent]) (by simp [WifiPass.answered, hevent]) (.inl rfl) rfl rfl
            rfl

/-- The command of an iteration: none that reaches the driver, one that the
driver refuses, or one that starts an attempt. -/
inductive CommandDoes (s : State) (p : WifiPass) (r : State × List TaskEffect) : Prop where
  | rejected (hattempts : p.attempts = false) (hattempt : r.1.attempt = s.attempt)
      (hconnects : connects r.2 = 0) (hsilent : reportsNoIp r.2 = false)
  | refused (hattempts : p.attempts = true) (hstarts : p.starts = false)
      (hdeadline : r.1.wifiDeadline = 0) (hconnects : connects r.2 = 1)
      (hsilent : reportsNoIp r.2 = false)
  | started (hattempts : p.attempts = true) (hstate : r.1.wifiState = .connecting)
      (hdeadline : 0 < r.1.wifiDeadline) (hcount : r.1.wifiAttempts = 1)
      (hconnects : connects r.2 = 1) (hsilent : reportsNoIp r.2 = false)

theorem handleTaken_does (s : State) (p : WifiPass) : CommandDoes s p (handleTaken s p) := by
  unfold handleTaken
  cases htaken : p.taken with
  | none => exact .rejected (by simp [WifiPass.attempts, htaken]) rfl rfl rfl
  | some taken =>
      obtain ⟨command, env⟩ := taken
      have hnow : 0 ≤ env.now := by
        have hcommand : p.command = some (command, env) := by
          unfold WifiPass.taken at htaken
          split at htaken
          · cases htaken
          · exact htaken
        exact p.command_nonneg (command, env) hcommand
      have hattempts : p.attempts = decide (commandCalls env ≠ []) := by
        simp [WifiPass.attempts, htaken]
      have hstarts : p.starts = decide (commandCalls env = [.connect true]) := by
        simp [WifiPass.starts, htaken]
      simp only [handleWifiCommand]
      cases hcredentials : env.credentials with
      | none =>
          have hcalls : commandCalls env = [] := by simp [commandCalls, hcredentials]
          rw [hcalls]
          exact .rejected (by simp [hattempts, hcalls]) rfl rfl rfl
      | some credentials =>
          simp only []
          cases hready : env.storageOk && env.modeOk && env.configOk with
          | false =>
              have hcalls : commandCalls env = [] := by
                rw [commandCalls, hcredentials, Option.isSome_some, Bool.true_and, hready]
                rfl
              rw [hcalls]
              have hrejected : p.attempts = false := by simp [hattempts, hcalls]
              split
              · exact .rejected hrejected rfl rfl rfl
              · split
                · exact .rejected hrejected rfl rfl rfl
                · split
                  · exact .rejected hrejected rfl rfl rfl
                  · simp_all
          | true =>
              have hcalls : commandCalls env = [.connect env.connectOk] := by
                simp [commandCalls, hcredentials, hready]
              simp only [Bool.and_eq_true] at hready
              rw [hcalls, hready.1.1, hready.1.2, hready.2]
              simp only [Bool.not_true, Bool.false_eq_true, if_false]
              cases hconnect : env.connectOk with
              | false =>
                  exact .refused (by simp [hattempts, hcalls])
                    (by simp [hstarts, hcalls, hconnect]) rfl rfl rfl
              | true =>
                  refine .started (by simp [hattempts, hcalls]) rfl ?_ rfl rfl rfl
                  show 0 < env.now + bmxWifiTimeoutMs
                  simp only [bmxWifiTimeoutMs]
                  omega

/-- The deadline check: nothing is due, or the attempt is tried again, or it
is given up. -/
inductive DeadlineDoes (s : State) (p : WifiPass) (r : State × List TaskEffect) : Prop where
  | idle (hdue : s.wifiState = .connecting → 0 < s.wifiDeadline → p.now < s.wifiDeadline)
      (hattempt : r.1.attempt = s.attempt) (hconnects : connects r.2 = 0)
      (hsilent : reportsNoIp r.2 = false)
  | again (hdue : s.wifiState = .connecting) (hroom : s.wifiAttempts < 3)
      (hpending : 0 < s.wifiDeadline)
      (hstate : r.1.wifiState = .connecting) (hdeadline : 0 < r.1.wifiDeadline)
      (hcount : r.1.wifiAttempts = s.wifiAttempts + 1) (hconnects : connects r.2 = 1)
      (hsilent : reportsNoIp r.2 = false)
  | failed (hdue : s.wifiState = .connecting) (hroom : s.wifiAttempts < 3)
      (hpending : 0 < s.wifiDeadline)
      (hdeadline : r.1.wifiDeadline = 0) (hconnects : connects r.2 ≤ 1)
      (hfails : r.2.any TaskEffect.fails = true) (hreports : reportsNoIp r.2 = true)
  | spent (hdue : s.wifiState = .connecting) (hroom : 3 ≤ s.wifiAttempts)
      (hpending : 0 < s.wifiDeadline)
      (hdeadline : r.1.wifiDeadline = 0) (hconnects : connects r.2 = 0)
      (hreports : reportsNoIp r.2 = true)

/-- Effects of the runtime are no connect. -/
theorem connects_effects (t : List Effect) : connects (t.map TaskEffect.effect) = 0 := by
  rw [connects, List.countP_map]
  exact List.countP_eq_zero.mpr fun x _ => by simp [TaskEffect.connects]

theorem connects_append (t u : List TaskEffect) : connects (t ++ u) = connects t + connects u :=
  List.countP_append

theorem reportsNoIp_append (t u : List TaskEffect) :
    reportsNoIp (t ++ u) = (reportsNoIp t || reportsNoIp u) := List.any_append

/-- A periodic reconcile after the check changes nothing of it. -/
theorem DeadlineDoes.reconciled {s : State} {p : WifiPass} {r : State × List TaskEffect}
    (h : DeadlineDoes s p r) :
    DeadlineDoes s p ((periodicReconcile r.1 p.reconcile).1,
      r.2 ++ (periodicReconcile r.1 p.reconcile).2.map .effect) := by
  have hbeside := reconcile_beside r.1 p.reconcile
    (if r.1.gate.pathOpen then .conditionsMet else .leaseExpired)
  have hconnects : connects (r.2 ++ (periodicReconcile r.1 p.reconcile).2.map .effect) =
      connects r.2 := by
    rw [connects_append, connects_effects, Nat.add_zero]
  have hreports : reportsNoIp (r.2 ++ (periodicReconcile r.1 p.reconcile).2.map .effect) =
      reportsNoIp r.2 := by
    rw [reportsNoIp_append]
    exact (congrArg _ hbeside.silent).trans (Bool.or_false _)
  cases h with
  | idle hdue hattempt hcount hsilent =>
      exact .idle hdue (hbeside.attempt.trans hattempt) (hconnects.trans hcount)
        (hreports.trans hsilent)
  | again hdue hroom hpending hstate hdeadline hcount hone hsilent =>
      exact .again hdue hroom hpending (hbeside.state.trans hstate) (hbeside.deadline ▸ hdeadline)
        (hbeside.attempts.trans hcount) (hconnects.trans hone) (hreports.trans hsilent)
  | failed hdue hroom hpending hdeadline hcount hfails hreported =>
      refine .failed hdue hroom hpending (hbeside.deadline.trans hdeadline) (hconnects ▸ hcount) ?_
        (hreports.trans hreported)
      rw [List.any_append, hfails]
      rfl
  | spent hdue hroom hpending hdeadline hcount hreported =>
      exact .spent hdue hroom hpending (hbeside.deadline.trans hdeadline) (hconnects.trans hcount)
        (hreports.trans hreported)

theorem checkDeadline_does (s : State) (p : WifiPass) :
    DeadlineDoes s p ((checkDeadline s p.now p.disconnectOk p.connectOk).1,
      (deadlineCalls s p.now p.disconnectOk p.connectOk).map .radio ++
        (checkDeadline s p.now p.disconnectOk p.connectOk).2.map .effect) := by
  unfold checkDeadline deadlineCalls
  by_cases hdue : s.wifiState = .connecting ∧ s.wifiDeadline > 0 ∧ p.now ≥ s.wifiDeadline
  · rw [if_pos hdue, if_pos hdue]
    by_cases hroom : s.wifiAttempts < bmxWifiTries
    · simp only [hroom, if_true, true_and]
      cases hdisconnect : p.disconnectOk with
      | false => exact .failed hdue.1 hroom hdue.2.1 rfl (Nat.zero_le 1) rfl rfl
      | true =>
          cases hconnect : p.connectOk with
          | false => exact .failed hdue.1 hroom hdue.2.1 rfl (Nat.le_refl 1) rfl rfl
          | true =>
              refine .again hdue.1 hroom hdue.2.1 hdue.1 ?_ rfl rfl rfl
              show 0 < p.now + bmxWifiTimeoutMs
              have hnow := p.now_nonneg
              simp only [bmxWifiTimeoutMs]
              omega
    · simp only [hroom, false_and, if_false]
      refine .spent hdue.1 (Nat.le_of_not_lt hroom) hdue.2.1 rfl ?_ ?_
      · cases p.disconnectOk <;> rfl
      · cases p.disconnectOk <;> rfl
  · rw [if_neg hdue, if_neg hdue]
    refine .idle (fun hconnecting hpending => ?_) rfl rfl rfl
    by_contra hlate
    exact hdue ⟨hconnecting, hpending, Int.not_lt.mp hlate⟩

theorem endPass_does (s : State) (p : WifiPass) : DeadlineDoes s p (endPass s p) := by
  unfold endPass
  simp only []
  split
  · exact checkDeadline_does s p
  · exact (checkDeadline_does s p).reconciled

/-! ## One iteration -/

/-- An iteration that the event ends, or all of its parts. -/
theorem wifiPass_parts (s : State) (p : WifiPass) :
    (p.refuses = true ∧ p.attempts = false ∧ p.starts = false ∧ p.answered = true ∧
      (wifiPass s p).1.wifiDeadline = 0 ∧ connects (wifiPass s p).2 = 0 ∧
      reportsNoIp (wifiPass s p).2 = false) ∨
    ∃ received handled drained ended, EventDoes s p received ∧
      CommandDoes received.1 p handled ∧ Beside handled.1 drained ∧
      DeadlineDoes drained.1 p ended ∧ wifiPass s p = (ended.1,
        received.2.map .effect ++ handled.2 ++ drained.2.map .effect ++ ended.2) := by
  cases hrefuses : p.refuses with
  | true =>
      refine .inl ⟨rfl, by simp [WifiPass.attempts, WifiPass.taken, hrefuses],
        by simp [WifiPass.starts, WifiPass.taken, hrefuses], ?_⟩
      have hpass : wifiPass s p = ((takeEvent s p).1, (takeEvent s p).2.map .effect) :=
        if_pos hrefuses
      have hnone : p.answered = true := by
        unfold WifiPass.refuses at hrefuses
        unfold WifiPass.answered
        split at hrefuses
        · next h => rw [h]
        · next h => rw [h]
        · cases hrefuses
      rw [hpass, connects_effects]
      refine ⟨hnone, ?_⟩
      cases takeEvent_does s p with
      | answers _ hdeadline hsilent => exact ⟨hdeadline, rfl, hsilent⟩
      | keeps _ hunanswered => exact absurd (hunanswered.symm.trans hnone) (by decide)
      | masks hevent => simp [WifiPass.answered, hevent] at hnone
  | false =>
      have hpass : wifiPass s p = _ := if_neg (by simp [hrefuses])
      exact .inr ⟨takeEvent s p, handleTaken (takeEvent s p).1 p,
        drainMgmt (handleTaken (takeEvent s p).1 p).1 p.mgmt,
        endPass (drainMgmt (handleTaken (takeEvent s p).1 p).1 p.mgmt).1 p,
        takeEvent_does s p, handleTaken_does _ p, drainMgmt_beside p.mgmt _, endPass_does _ p,
        hpass⟩

/-- At most three calls, and as many as the count of a pending attempt. -/
def Counted (s : State) (n : Nat) : Prop := n ≤ 3 ∧ (0 < s.wifiDeadline → s.wifiAttempts = n)

theorem Counted.beside {s : State} {n : Nat} (h : Counted s n) {r : State × List Effect}
    (hbeside : Beside s r) : Counted r.1 n :=
  ⟨h.1, by rw [hbeside.deadline, hbeside.attempts]; exact h.2⟩

/-- An attempt that ends counts no further connect. -/
theorem Counted.ended {s : State} {n : Nat} (h : Counted s n) {p : WifiPass}
    {r : State × List TaskEffect} (hdoes : DeadlineDoes s p r) :
    Counted r.1 (n + connects r.2) := by
  cases hdoes with
  | idle hdue hattempt hconnects hsilent =>
      have hdeadline : r.1.wifiDeadline = s.wifiDeadline := congrArg (fun a => a.2.1) hattempt
      have hattempts : r.1.wifiAttempts = s.wifiAttempts := congrArg (fun a => a.2.2) hattempt
      rw [hconnects, Nat.add_zero]
      exact ⟨h.1, by rw [hdeadline, hattempts]; exact h.2⟩
  | again hdue hroom hpending hstate hdeadline hcount hconnects hsilent =>
      have hn := h.2 hpending
      rw [hconnects]
      exact ⟨by omega, fun _ => by omega⟩
  | failed hdue hroom hpending hdeadline hconnects hfails hreports =>
      have hn := h.2 hpending
      exact ⟨by omega, fun hstill => by omega⟩
  | spent hdue hroom hpending hdeadline hconnects hreports =>
      rw [hconnects, Nat.add_zero]
      exact ⟨h.1, fun hstill => by omega⟩

/-- The calls of an iteration, part by part. -/
theorem connects_parts (received drained : List Effect) (handled ended : List TaskEffect) :
    connects (received.map .effect ++ handled ++ drained.map .effect ++ ended) =
      connects handled + connects ended := by
  simp only [connects_append, connects_effects]
  omega

/-- A pass that starts no attempt goes on with the count. -/
theorem wifiPass_counted {s : State} {n : Nat} (h : Counted s n) (p : WifiPass)
    (hattempts : p.attempts = false) :
    Counted (wifiPass s p).1 (n + connects (wifiPass s p).2) := by
  rcases wifiPass_parts s p with ⟨-, -, -, -, hdeadline, hconnects, -⟩ |
    ⟨received, handled, drained, ended, hevent, hcommand, hdrained, hended, hpass⟩
  · rw [hconnects, Nat.add_zero]
    exact ⟨h.1, fun hstill => by omega⟩
  · have hreceived : Counted received.1 n := by
      cases hevent with
      | answers _ hdeadline _ => exact ⟨h.1, fun hstill => by omega⟩
      | keeps _ _ _ hdeadline hcount _ => exact ⟨h.1, by rw [hdeadline, hcount]; exact h.2⟩
      | masks _ _ hdeadline hcount _ => exact ⟨h.1, by rw [hdeadline, hcount]; exact h.2⟩
    cases hcommand with
    | rejected _ hattempt hconnects _ =>
        have hdeadline : handled.1.wifiDeadline = received.1.wifiDeadline :=
          congrArg (fun a => a.2.1) hattempt
        have hcount : handled.1.wifiAttempts = received.1.wifiAttempts :=
          congrArg (fun a => a.2.2) hattempt
        have hhandled : Counted handled.1 n :=
          ⟨hreceived.1, by rw [hdeadline, hcount]; exact hreceived.2⟩
        rw [hpass, connects_parts, hconnects, Nat.zero_add]
        exact (hhandled.beside hdrained).ended hended
    | refused hstarted => exact absurd (hstarted.symm.trans hattempts) (by decide)
    | started hstarted => exact absurd (hstarted.symm.trans hattempts) (by decide)

/-- A pass that starts one counts from it. -/
theorem wifiPass_counts (s : State) (p : WifiPass) (hattempts : p.attempts = true) :
    Counted (wifiPass s p).1 (connects (wifiPass s p).2) := by
  rcases wifiPass_parts s p with ⟨-, hnot, -⟩ |
    ⟨received, handled, drained, ended, -, hcommand, hdrained, hended, hpass⟩
  · exact absurd (hattempts.symm.trans hnot) (by decide)
  · rw [hpass, connects_parts]
    have hhandled : Counted handled.1 (connects handled.2) := by
      cases hcommand with
      | rejected hnot => exact absurd (hattempts.symm.trans hnot) (by decide)
      | refused _ _ hdeadline hconnects _ =>
          rw [hconnects]
          exact ⟨by decide, fun hstill => by omega⟩
      | started _ _ _ hcount hconnects _ =>
          rw [hconnects]
          exact ⟨by decide, fun _ => hcount⟩
    exact (hhandled.beside hdrained).ended hended

/-- A pending attempt is one that connects. -/
def Pending (s : State) : Prop := 0 < s.wifiDeadline → s.wifiState = .connecting

/-- A pass that masks no deadline keeps `Pending`. -/
theorem wifiPass_pending {s : State} (h : Pending s) {p : WifiPass} (hunmasked : Unmasked s p) :
    Pending (wifiPass s p).1 := by
  rcases wifiPass_parts s p with ⟨-, -, -, -, hdeadline, -⟩ |
    ⟨received, handled, drained, ended, hevent, hcommand, hdrained, hended, hpass⟩
  · exact fun hstill => by omega
  · have hhandled : Pending handled.1 := by
      cases hcommand with
      | refused _ _ hdeadline _ _ => exact fun hstill => by omega
      | started _ hstate _ _ _ _ => exact fun _ => hstate
      | rejected hnot hattempt _ _ =>
          have hstate : handled.1.wifiState = received.1.wifiState := congrArg Prod.fst hattempt
          have hdeadline : handled.1.wifiDeadline = received.1.wifiDeadline :=
            congrArg (fun a => a.2.1) hattempt
          intro hstill
          rw [hdeadline] at hstill
          rw [hstate]
          cases hevent with
          | answers _ hended _ => omega
          | keeps _ _ hkept hsame _ _ =>
              rcases hkept with hkept | hkept
              · exact hkept.trans (h (hsame ▸ hstill))
              · exact hkept
          | masks hmasking _ hsame _ _ =>
              exact absurd (hunmasked hmasking (hsame ▸ hstill)) (by simp [hnot])
    have hdrains : Pending drained.1 := by
      intro hstill
      rw [hdrained.state]
      exact hhandled (hdrained.deadline ▸ hstill)
    rw [hpass]
    cases hended with
    | idle _ hattempt _ _ =>
        have hstate : ended.1.wifiState = drained.1.wifiState := congrArg Prod.fst hattempt
        have hdeadline : ended.1.wifiDeadline = drained.1.wifiDeadline :=
          congrArg (fun a => a.2.1) hattempt
        intro hstill
        exact hstate.trans (hdrains (hdeadline ▸ hstill))
    | again _ _ _ hstate _ _ _ _ => exact fun _ => hstate
    | failed _ _ _ hdeadline _ _ _ => exact fun hstill => absurd hstill (by simp [hdeadline])
    | spent _ _ _ hdeadline _ _ => exact fun hstill => absurd hstill (by simp [hdeadline])

/-- A masked attempt: pending, but no longer connecting. -/
theorem wifiPass_masked {s : State} (h : Pending s) {p : WifiPass} (hmasked : ¬Unmasked s p) :
    ¬Pending (wifiPass s p).1 := by
  simp only [Unmasked, Classical.not_imp] at hmasked
  obtain ⟨hmasking, hpending, hnot⟩ := hmasked
  rw [Bool.not_eq_true] at hnot
  intro hstill
  rcases wifiPass_parts s p with ⟨-, -, -, hanswered, -⟩ |
    ⟨received, handled, drained, ended, hevent, hcommand, hdrained, hended, hpass⟩
  · simp [WifiPass.answered, hmasking] at hanswered
  · cases hevent with
    | answers hanswered => simp [WifiPass.answered, hmasking] at hanswered
    | keeps hevent => exact hevent hmasking
    | masks _ hstate hdeadline _ _ =>
        have hstate := hstate (h hpending)
        cases hcommand with
        | refused hattempts => exact absurd (hattempts.symm.trans hnot) (by decide)
        | started hattempts => exact absurd (hattempts.symm.trans hnot) (by decide)
        | rejected _ hattempt _ _ =>
            have hlost : drained.1.attempt = (.disconnected, s.wifiDeadline,
                received.1.wifiAttempts) := by
              rw [hdrained.attempt, hattempt, State.attempt, hstate, hdeadline]
            have hdrains : drained.1.wifiState = .disconnected := congrArg Prod.fst hlost
            have hstands : drained.1.wifiDeadline = s.wifiDeadline :=
              congrArg (fun a => a.2.1) hlost
            have hnotDue : drained.1.wifiState ≠ .connecting := by simp [hdrains]
            cases hended with
            | idle _ hsame _ _ =>
                have hend : ended.1.wifiState = drained.1.wifiState := congrArg Prod.fst hsame
                have hsameDeadline : ended.1.wifiDeadline = drained.1.wifiDeadline :=
                  congrArg (fun a => a.2.1) hsame
                rw [hpass] at hstill
                have hconnecting := hstill (by rw [hsameDeadline, hstands]; exact hpending)
                exact hnotDue (hend.symm.trans hconnecting)
            | again hdue => exact hnotDue hdue
            | failed hdue => exact hnotDue hdue
            | spent hdue => exact hnotDue hdue

/-! ## An attempt without an answer -/

theorem Tried.congr {s t : State} {effects : List TaskEffect} (h : Tried s effects)
    (hattempt : t.attempt = s.attempt) {more : List TaskEffect} (hconnects : connects more = 0)
    (hsilent : reportsNoIp more = false) : Tried t (effects ++ more) := by
  have hstate : t.wifiState = s.wifiState := congrArg Prod.fst hattempt
  have hdeadline : t.wifiDeadline = s.wifiDeadline := congrArg (fun a => a.2.1) hattempt
  have hcount : t.wifiAttempts = s.wifiAttempts := congrArg (fun a => a.2.2) hattempt
  rw [Tried, connects_append, hconnects, Nat.add_zero, reportsNoIp_append, hsilent,
    Bool.or_false, hstate, hdeadline, hcount]
  rcases h with h | ⟨hover, hreports, hthree⟩
  · exact .inl h
  · refine .inr ⟨hover, hreports, hthree.imp_right fun hfails => ?_⟩
    rw [List.any_append, hfails]
    rfl

theorem Tried.ended {s : State} {effects : List TaskEffect} (h : Tried s effects)
    (hcounted : Counted s (connects effects)) {p : WifiPass} {r : State × List TaskEffect}
    (hdoes : DeadlineDoes s p r) : Tried r.1 (effects ++ r.2) := by
  rcases h with ⟨hstate, hpending, hcount, hsilent⟩ | ⟨hover, hreports, hthree⟩
  · cases hdoes with
    | idle _ hattempt hconnects hquiet =>
        exact Tried.congr (.inl ⟨hstate, hpending, hcount, hsilent⟩) hattempt hconnects hquiet
    | again _ _ _ hconnecting hdeadline hnext hone hquiet =>
        refine .inl ⟨hconnecting, hdeadline, ?_, ?_⟩
        · rw [connects_append, hone, hnext, hcount]
        · rw [reportsNoIp_append, hsilent, hquiet]
          rfl
    | failed _ _ _ hdeadline _ hfails hreports =>
        refine .inr ⟨hdeadline, ?_, .inr ?_⟩
        · rw [reportsNoIp_append, hreports, Bool.or_true]
        · rw [List.any_append, hfails, Bool.or_true]
    | spent _ hroom _ hdeadline hnone hreports =>
        refine .inr ⟨hdeadline, ?_, .inl ?_⟩
        · rw [reportsNoIp_append, hreports, Bool.or_true]
        · rw [connects_append, hnone, Nat.add_zero]
          exact Nat.le_antisymm hcounted.1 (hcount ▸ hroom)
  · cases hdoes with
    | idle _ hattempt hconnects hquiet =>
        exact Tried.congr (.inr ⟨hover, hreports, hthree⟩) hattempt hconnects hquiet
    | again _ _ hpending => omega
    | failed _ _ hpending => omega
    | spent _ _ hpending => omega

theorem reportsNoIp_parts {received drained : List Effect} {handled : List TaskEffect}
    (hreceived : (received.map TaskEffect.effect).any TaskEffect.noIp = false)
    (hhandled : reportsNoIp handled = false)
    (hdrained : (drained.map TaskEffect.effect).any TaskEffect.noIp = false) :
    reportsNoIp (received.map .effect ++ handled ++ drained.map .effect) = false := by
  rw [reportsNoIp_append, reportsNoIp_append, hhandled]
  simp only [reportsNoIp, hreceived, hdrained, Bool.or_false]

theorem EventDoes.silent {s : State} {p : WifiPass} {r : State × List Effect}
    (h : EventDoes s p r) : (r.2.map TaskEffect.effect).any TaskEffect.noIp = false := by
  cases h <;> assumption

theorem attempts_of_starts {p : WifiPass} (h : p.starts = true) : p.attempts = true := by
  unfold WifiPass.starts at h
  unfold WifiPass.attempts
  cases htaken : p.taken with
  | none => simp [htaken] at h
  | some c =>
      have hcalls : commandCalls c.2 = [.connect true] := by simpa [htaken] using h
      simp [hcalls]

/-- The iteration that starts an attempt. -/
theorem wifiPass_starts (s : State) (p : WifiPass) (hstarts : p.starts = true) :
    Tried (wifiPass s p).1 (wifiPass s p).2 := by
  rcases wifiPass_parts s p with ⟨-, -, hnot, -⟩ |
    ⟨received, handled, drained, ended, hevent, hcommand, hdrained, hended, hpass⟩
  · exact absurd (hstarts.symm.trans hnot) (by decide)
  · rw [hpass]
    cases hcommand with
    | rejected hnot =>
        exact absurd ((attempts_of_starts hstarts).symm.trans hnot) (by decide)
    | refused _ hnot => exact absurd (hstarts.symm.trans hnot) (by decide)
    | started _ hstate hdeadline hcount hconnects hsilent =>
        have hmiddle : connects (received.2.map .effect ++ handled.2 ++ drained.2.map .effect) =
            1 := by
          simp only [connects_append, connects_effects, hconnects]
        have htried : Tried drained.1
            (received.2.map .effect ++ handled.2 ++ drained.2.map .effect) := by
          refine .inl ⟨hdrained.state.trans hstate, hdrained.deadline ▸ hdeadline, ?_,
            reportsNoIp_parts hevent.silent hsilent hdrained.silent⟩
          rw [hmiddle, hdrained.attempts, hcount]
        refine htried.ended ?_ hended
        rw [hmiddle]
        exact ⟨by decide, fun _ => hdrained.attempts.trans hcount⟩

/-- An iteration without an answer. -/
theorem wifiPass_unanswered {s : State} {effects : List TaskEffect} (h : Tried s effects)
    (hcounted : Counted s (connects effects)) {p : WifiPass} (hunmasked : Unmasked s p)
    (hunanswered : p.unanswered = true) :
    Tried (wifiPass s p).1 (effects ++ (wifiPass s p).2) ∧
      (0 < s.wifiDeadline → s.wifiDeadline ≤ p.now → connects (wifiPass s p).2 = 1 ∨
        reportsNoIp (wifiPass s p).2 = true) := by
  simp only [WifiPass.unanswered, Bool.and_eq_true, Bool.not_eq_true'] at hunanswered
  obtain ⟨hnot, hopen⟩ := hunanswered
  rcases wifiPass_parts s p with ⟨-, -, -, hanswered, -⟩ |
    ⟨received, handled, drained, ended, hevent, hcommand, hdrained, hended, hpass⟩
  · exact absurd (hanswered.symm.trans hopen) (by decide)
  · cases hcommand with
    | refused hattempts => exact absurd (hattempts.symm.trans hnot) (by decide)
    | started hattempts => exact absurd (hattempts.symm.trans hnot) (by decide)
    | rejected _ hattempt hconnects hsilent =>
        have hlater : drained.1.attempt = received.1.attempt := hdrained.attempt.trans hattempt
        have hmiddle : connects (received.2.map .effect ++ handled.2 ++ drained.2.map .effect) =
            0 := by
          simp only [connects_append, connects_effects, hconnects]
        have hquiet := reportsNoIp_parts hevent.silent hsilent hdrained.silent
        have hkept : 0 < s.wifiDeadline → drained.1.attempt = s.attempt := by
          intro hpending
          rw [hlater]
          have hconnecting : s.wifiState = .connecting := by
            rcases h with h | ⟨hover, -⟩
            · exact h.1
            · omega
          cases hevent with
          | answers hanswered => exact absurd (hanswered.symm.trans hopen) (by decide)
          | keeps _ _ hstate hdeadline hcount _ =>
              have hsame : received.1.wifiState = s.wifiState :=
                hstate.elim id fun hstate => hstate.trans hconnecting.symm
              rw [State.attempt, hsame, hdeadline, hcount]
              rfl
          | masks hmasking =>
              exact absurd (hunmasked hmasking hpending) (by simp [hnot])
        have hnone : s.wifiDeadline = 0 → drained.1.wifiDeadline = 0 := by
          intro hover
          have hsame : drained.1.wifiDeadline = received.1.wifiDeadline :=
            congrArg (fun a => a.2.1) hlater
          rw [hsame]
          cases hevent with
          | answers hanswered => exact absurd (hanswered.symm.trans hopen) (by decide)
          | keeps _ _ _ hdeadline _ _ => exact hdeadline.trans hover
          | masks _ _ hdeadline _ _ => exact hdeadline.trans hover
        have hdrains : Tried drained.1
            (effects ++ (received.2.map .effect ++ handled.2 ++ drained.2.map .effect)) ∧
            Counted drained.1 (connects
              (effects ++ (received.2.map .effect ++ handled.2 ++ drained.2.map .effect))) := by
          rw [connects_append, hmiddle, Nat.add_zero]
          rcases h with ⟨hstate, hpending, hcount, hreports⟩ | ⟨hover, hreports, hthree⟩
          · have hsame := hkept hpending
            refine ⟨Tried.congr (.inl ⟨hstate, hpending, hcount, hreports⟩) hsame hmiddle hquiet,
              hcounted.1, fun _ => ?_⟩
            exact (congrArg (fun a => a.2.2) hsame : drained.1.wifiAttempts = _).trans hcount
          · have hdone := hnone hover
            refine ⟨.inr ⟨hdone, ?_, ?_⟩, hcounted.1, fun hstill => by omega⟩
            · rw [reportsNoIp_append, hreports]
              rfl
            · rw [connects_append, hmiddle, Nat.add_zero]
              refine hthree.imp_right fun hfails => ?_
              rw [List.any_append, hfails]
              rfl
        rw [hpass]
        refine ⟨?_, fun hpending hlate => ?_⟩
        · rw [← List.append_assoc]
          exact hdrains.1.ended hdrains.2 hended
        · have hsame := hkept hpending
          have hstate : drained.1.wifiState = s.wifiState := congrArg Prod.fst hsame
          have hdeadline : drained.1.wifiDeadline = s.wifiDeadline :=
            congrArg (fun a => a.2.1) hsame
          have hconnecting : s.wifiState = .connecting := by
            rcases h with h | ⟨hover, -⟩
            · exact h.1
            · omega
          rw [connects_append, hmiddle, Nat.zero_add, reportsNoIp_append, hquiet, Bool.false_or]
          cases hended with
          | idle hdue =>
              have hearly := hdue (hstate.trans hconnecting) (hdeadline ▸ hpending)
              omega
          | again _ _ _ _ _ _ hone _ => exact .inl hone
          | failed _ _ _ _ _ _ hreports => exact .inr hreports
          | spent _ _ _ _ _ hreports => exact .inr hreports

/-! ## Over a run -/

theorem traceFrom_one (s : State) (p : WifiPass) : wifiTask.traceFrom s [p] = (wifiPass s p).2 :=
  List.append_nil _

theorem since_concat (pre : List WifiPass) (p : WifiPass) (qs : List WifiPass) (q : WifiPass) :
    since pre (p :: (qs ++ [q])) =
      since pre (p :: qs) ++ (wifiPass (wifiTask.run (pre ++ p :: qs)) q).2 := by
  rw [since, since, ← List.cons_append, wifiTask.traceFrom_append, ← wifiTask.run_append,
    traceFrom_one]

theorem since_one (pre : List WifiPass) (p : WifiPass) :
    since pre [p] = (wifiPass (wifiTask.run pre) p).2 := traceFrom_one _ p

theorem run_concat_pass (pre : List WifiPass) (p : WifiPass) (qs : List WifiPass)
    (q : WifiPass) : wifiTask.run (pre ++ p :: (qs ++ [q])) =
      (wifiPass (wifiTask.run (pre ++ p :: qs)) q).1 := by
  rw [← List.cons_append, ← List.append_assoc, wifiTask.run_concat]
  rfl

/-- The induction over the passes after a start. -/
theorem run_counted (pre : List WifiPass) (p : WifiPass) (hattempts : p.attempts = true)
    (qs : List WifiPass) (hqs : ∀ q ∈ qs, q.attempts = false) :
    Counted (wifiTask.run (pre ++ p :: qs)) (connects (since pre (p :: qs))) := by
  induction qs using List.reverseRecOn with
  | nil =>
      rw [since_one, wifiTask.run_concat]
      exact wifiPass_counts _ p hattempts
  | append_singleton qs q ih =>
      rw [since_concat, run_concat_pass, connects_append]
      exact wifiPass_counted (ih fun q' hq' => hqs q' (List.mem_append_left _ hq')) q
        (hqs q (List.mem_append_right _ (List.mem_singleton_self q)))

/-- The induction over passes that mask no deadline. -/
theorem run_pending {passes : List WifiPass}
    (h : wifiTask.AllSteps Unmasked wifiTask.init passes) : Pending (wifiTask.run passes) :=
  wifiTask.runFrom_invariant (I := Pending) (fun _ _ hs hp => wifiPass_pending hs hp) passes _
    (fun hpending => absurd hpending (by decide +kernel)) h

/-- The induction over the passes of an attempt that is not answered. -/
theorem run_tried {pre : List WifiPass} {p : WifiPass} (hstarts : p.starts = true)
    {qs : List WifiPass} (hunanswered : ∀ q ∈ qs, q.unanswered = true)
    (h : wifiTask.AllSteps Unmasked wifiTask.init (pre ++ p :: qs)) :
    Tried (wifiTask.run (pre ++ p :: qs)) (since pre (p :: qs)) := by
  induction qs using List.reverseRecOn with
  | nil =>
      rw [since_one, wifiTask.run_concat]
      exact wifiPass_starts _ p hstarts
  | append_singleton qs q ih =>
      rw [← List.cons_append, ← List.append_assoc] at h
      have hqs : ∀ q' ∈ qs, q'.unanswered = true := fun q' hq' =>
        hunanswered q' (List.mem_append_left _ hq')
      have hcounted := run_counted pre p (attempts_of_starts hstarts) qs fun q' hq' => by
        have hopen := hqs q' hq'
        simp only [WifiPass.unanswered, Bool.and_eq_true, Bool.not_eq_true'] at hopen
        exact hopen.1
      rw [since_concat, run_concat_pass]
      exact (wifiPass_unanswered (ih hqs (wifiTask.allSteps_left h)) hcounted
        (wifiTask.allSteps_last h)
        (hunanswered q (List.mem_append_right _ (List.mem_singleton_self q)))).1

/-- The disconnect that masks a pending attempt is the only way to hang. -/
theorem neverHangs_iff (passes : List WifiPass) :
    NeverHangs passes ↔ wifiTask.AllSteps Unmasked wifiTask.init passes := by
  constructor
  · intro h
    rw [Machine.allSteps_iff_split]
    intro pre p post hsplit
    by_contra hmasked
    have hpending : Pending (wifiTask.run pre) := h.pending pre (p :: post) hsplit
    have hnext := h.pending (pre ++ [p]) post (by simp [hsplit])
    rw [wifiTask.run_concat] at hnext
    exact wifiPass_masked hpending hmasked hnext
  · intro h
    refine ⟨?_, ?_, ?_, ?_⟩
    · rintro pre post rfl
      exact run_pending (wifiTask.allSteps_left h)
    · rintro pre p qs post rfl hattempts hqs
      exact (run_counted pre p hattempts qs hqs).1
    · rintro pre p qs post rfl hstarts hunanswered
      exact run_tried hstarts hunanswered (wifiTask.allSteps_left h)
    · rintro pre p qs q post rfl hstarts hunanswered hlast hpending hlate
      have hcounted := run_counted pre p (attempts_of_starts hstarts) qs fun q' hq' => by
        have hopen := hunanswered q' hq'
        simp only [WifiPass.unanswered, Bool.and_eq_true, Bool.not_eq_true'] at hopen
        exact hopen.1
      have hsteps := (wifiTask.allSteps_append _ _ _ _).mp h
      exact (wifiPass_unanswered (run_tried hstarts hunanswered hsteps.1) hcounted hsteps.2.1
        hlast).2 hpending hlate

/-! ## The hanging attempt -/

def quietReconcile : ReconcileEnv where
  now := 0
  pingStarted := false
  netifOk := false
  naptOk := false
  proxyWasReady := false
  proxyStarted := false

/-- An iteration at `now` with nothing but an event. -/
def eventPass (event : Option WifiEvent) (now : Nat) : WifiPass where
  event := event
  reconcile := quietReconcile
  proxyIsReady := false
  endpointText := none
  command := none
  mgmt := []
  now := now
  disconnectOk := true
  connectOk := true
  now_nonneg := Int.natCast_nonneg now
  command_nonneg _ h := nomatch h

/-- An accepted command, right after the boot. -/
def startCommand : WifiCommand × CommandEnv :=
  (⟨ascii "s", 1, ascii "payload"⟩,
    ⟨0, some (ascii "network", ascii "password"), true, true, true, true⟩)

theorem startCommand_nonneg : ∀ c ∈ some startCommand, 0 ≤ c.2.now := by
  intro c hc
  obtain rfl := Option.some.inj hc
  exact Int.le_refl 0

/-- The iteration that takes it. -/
def startPass : WifiPass where
  event := none
  reconcile := quietReconcile
  proxyIsReady := false
  endpointText := none
  command := some startCommand
  mgmt := []
  now := 0
  disconnectOk := true
  connectOk := true
  now_nonneg := Int.le_refl 0
  command_nonneg := startCommand_nonneg

/-- The first retry disconnects, and the disconnect that it posts masks the
attempt: an hour later there has been no third call and no report. -/
def hangingPasses : List WifiPass :=
  [startPass, eventPass none 15000,
    eventPass (some (.staDisconnected .other)) 15100,
    eventPass none 3600000]

/-- An attempt can hang: disconnected after two connects, with a deadline that
nothing looks at. -/
theorem attempt_hangs :
    (wifiTask.run hangingPasses).wifiState = .disconnected ∧
      0 < (wifiTask.run hangingPasses).wifiDeadline ∧
      connects (wifiTask.trace hangingPasses) = 2 ∧
      reportsNoIp (wifiTask.trace hangingPasses) = false ∧ ¬NeverHangs hangingPasses := by
  have hstate : (wifiTask.run hangingPasses).wifiState = .disconnected := by decide +kernel
  have hdeadline : 0 < (wifiTask.run hangingPasses).wifiDeadline := by decide +kernel
  refine ⟨hstate, hdeadline, by decide +kernel, by decide +kernel, fun h => ?_⟩
  exact absurd (hstate.symm.trans (h.pending hangingPasses [] (by simp) hdeadline)) (by decide)

end Bootmux.Router
