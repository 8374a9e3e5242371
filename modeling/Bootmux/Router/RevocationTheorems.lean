/-
Bootmux.Router.RevocationTheorems — when the revocation of a management
lease reaches the gate.

`Revoked` says that the lease is gone, or will be once `wifi_task` has
drained its queue: the last lease event in the queue is a release. Every
step keeps it but the handling of a `NET_LEASE` (`system_revoked`), so
what is left is to see that a disconnect and an acknowledged `WIFI_CLEAR`
establish it, and that after a disconnect a `NET_LEASE` gets past the
session check only when a new connection has opened a session.

Neither holds as the code stands. The sends do not look at whether the
queue took the event; the session check is passed by an empty field while
no session is open; frames of the old connection are dispatched after the
disconnect; and the check and the grant are not one action. `Delivers`
excludes these four, and the result is about the runs that meet it.

The statement is about all the tasks and both queues. A disconnect is
followed by its two actions, and a `WIFI_CLEAR` by its acknowledgement;
`Withheld` says what holds between two connections, and `Revoked` what holds
until the task has drained its queue. Both are carried over every step of
every task, so an order of the steps is never looked at.

Two runs show the lease staying, one with a full queue and one with frames
of the old connection.
-/
import Bootmux.Router.System

namespace Bootmux.Router

open Bootmux.Bmx1
open Bootmux.Lib

/-! ## The lease and its queue -/

def MgmtEvent.isGrant : MgmtEvent → Bool
  | .leaseGrant _ => true
  | _ => false

def MgmtEvent.isRelease : MgmtEvent → Bool
  | .leaseRelease => true
  | .bleDisconnected => true
  | _ => false

/-- No lease is present and none is granted by `events`. -/
def Ungranted (deadline : Int) (events : List MgmtEvent) : Prop :=
  deadline = 0 ∧ ∀ x ∈ events, x.isGrant = false

/-- The lease is gone once the queue is drained. -/
def Revoked (s : State) : Prop :=
  Ungranted s.gate.leaseDeadlineMs s.mgmtEvents ∨
  ∃ before release after, s.mgmtEvents = before ++ release :: after ∧
    release.isRelease = true ∧ ∀ x ∈ after, x.isGrant = false

/-- The same lease and the same queue. -/
def SameLease (s s' : State) : Prop :=
  s'.gate.leaseDeadlineMs = s.gate.leaseDeadlineMs ∧ s'.mgmtEvents = s.mgmtEvents

theorem SameLease.refl (s : State) : SameLease s s := ⟨rfl, rfl⟩

theorem SameLease.trans {s s' s'' : State} (h : SameLease s s') (h' : SameLease s' s'') :
    SameLease s s'' := ⟨h'.1.trans h.1, h'.2.trans h.2⟩

theorem SameMgmt.lease {s s' : State} (h : SameMgmt s s') : SameLease s s' :=
  ⟨by rw [h.1.1], h.2⟩

/-- What leaves the lease leaves it revoked. -/
theorem Revoked.of_same {s s' : State} (h : Revoked s) (hs : SameLease s s') : Revoked s' := by
  unfold Revoked
  rw [hs.1, hs.2]
  exact h

/-- With the queue drained the lease is inactive at any time. -/
theorem Revoked.inactive {s : State} (h : Revoked s) (hempty : s.mgmtEvents = []) (now : Int) :
    mgLeaseActive s.gate now = false := by
  rcases h with ⟨hzero, _⟩ | ⟨before, release, after, hsplit, _⟩
  · simp [mgLeaseActive, hzero]
  · rw [hempty] at hsplit
    simp at hsplit

/-- Sending anything but a grant keeps the revocation. -/
theorem Revoked.send {s : State} (h : Revoked s) {x : MgmtEvent} (hx : x.isGrant = false) :
    Revoked (sendMgmt s x).2 := by
  unfold sendMgmt
  split
  · rcases h with ⟨hzero, hnone⟩ | ⟨before, release, after, hsplit, hrel, hnone⟩
    · refine Or.inl ⟨hzero, fun y hy => ?_⟩
      rcases List.mem_append.mp hy with hy | hy
      · exact hnone y hy
      · rw [List.mem_singleton.mp hy]; exact hx
    · refine Or.inr ⟨before, release, after ++ [x], by simp [hsplit], hrel, fun y hy => ?_⟩
      rcases List.mem_append.mp hy with hy | hy
      · exact hnone y hy
      · rw [List.mem_singleton.mp hy]; exact hx
  · exact h

/-- A release that the queue takes revokes the lease. -/
theorem revoked_of_release {s : State} (h : s.mgmtEvents.length < bmxMgmtQueue)
    {x : MgmtEvent} (hx : x.isRelease = true) : Revoked (sendMgmt s x).2 := by
  rw [sendMgmt, if_pos h]
  exact Or.inr ⟨s.mgmtEvents, x, [], rfl, hx, by simp⟩

/-! ## `wifi_task` and the ping task -/

/-- A reconcile grants no lease. -/
theorem reconcile_sameLease (s : State) (env : ReconcileEnv) (reason : MgReason) :
    SameLease s (reconcileManagementPath s env reason).1 := by
  refine ⟨reconcile_lease s env reason, ?_⟩
  have hdrive : ∀ s, (driveProbe s env).1.mgmtEvents = s.mgmtEvents := by
    intro s
    unfold driveProbe
    split
    · simp only []
      split
      · rfl
      · split <;> rfl
    · rfl
  have hsurface : ∀ s, (surfaceCloseReason s env.now).1.mgmtEvents = s.mgmtEvents := by
    intro s
    unfold surfaceCloseReason
    split <;> rfl
  rw [reconcileManagementPath, hsurface]
  exact hdrive _

theorem handleWifiEvent_sameLease (s : State) (env : ReconcileEnv) (ready : Bool)
    (endpointText : Option Bytes) (event : WifiEvent) :
    SameLease s (handleWifiEvent s env ready endpointText event).1 := by
  have hrefuse : ∀ s, SameLease s (refuseIp s env ready endpointText).1 := fun s =>
    (SameLease.refl s).trans (reconcile_sameLease (withdrawWifi { s with proxyReady := false })
      env .wifiNoIp)
  cases event with
  | staStart => exact reconcile_sameLease (setWifiState s .connecting).1 env .boot
  | staDisconnected reason =>
      have hchanged : SameLease s (disconnectedState (withdrawWifi s) reason).1 := by
        unfold disconnectedState
        split
        · exact .refl s
        · exact .refl s
        · exact .refl s
        · exact .refl s
        · exact .refl s
        · split <;> exact .refl s
      exact hchanged.trans (reconcile_sameLease _ env .wifiDisconnected)
  | gotIp info =>
      simp only [handleWifiEvent]
      split
      · split
        · exact hrefuse { s with wifiDeadline := 0, wifiAttempts := 0 }
        · exact reconcile_sameLease
            (acceptIp { s with wifiDeadline := 0, wifiAttempts := 0 } _ _).1 env .boot
      · exact hrefuse { s with wifiDeadline := 0, wifiAttempts := 0 }
  | other => exact .refl s

theorem takeCommand_sameLease (s : State) (env : CommandEnv) :
    SameLease s (takeCommand s env).1 := by
  unfold takeCommand
  split
  · exact .refl s
  · unfold handleWifiCommand
    split
    · exact .refl s
    · simp only []
      split
      · exact .refl s
      · split
        · exact .refl s
        · split
          · exact .refl s
          · split <;> exact .refl s

theorem checkDeadline_sameLease (s : State) (now : Int) (disconnectOk connectOk : Bool) :
    SameLease s (checkDeadline s now disconnectOk connectOk).1 := by
  unfold checkDeadline
  split
  · split
    · simp only []
      split
      · exact .refl s
      · split <;> exact .refl s
    · exact .refl s
  · exact .refl s

/-- Draining one event keeps the revocation: either it is still in the
queue, or it is the event that was taken. -/
theorem takeMgmt_revoked {s : State} (h : Revoked s) (env : ReconcileEnv) :
    Revoked (takeMgmt s env).1 := by
  unfold takeMgmt
  split
  · exact h
  · rename_i event rest hqueue
    refine Revoked.of_same ?_ (reconcile_sameLease _ env _)
    unfold Revoked Ungranted at h ⊢
    rw [hqueue] at h
    rcases h with ⟨hzero, hnone⟩ | ⟨before, release, after, hsplit, hrel, hnone⟩
    · have hrest : ∀ x ∈ rest, x.isGrant = false := fun x hx => hnone x (by simp [hx])
      have hevent := hnone event (by simp)
      cases event with
      | bleDisconnected => exact Or.inl ⟨rfl, hrest⟩
      | leaseGrant ttl => cases hevent
      | leaseRelease => exact Or.inl ⟨rfl, hrest⟩
      | probeResult success => exact Or.inl ⟨hzero, hrest⟩
    · cases before with
      | nil =>
          obtain ⟨rfl, rfl⟩ : event = release ∧ rest = after := by simpa using hsplit
          cases event with
          | bleDisconnected => exact Or.inl ⟨rfl, hnone⟩
          | leaseGrant ttl => cases hrel
          | leaseRelease => exact Or.inl ⟨rfl, hnone⟩
          | probeResult success => cases hrel
      | cons first before =>
          obtain ⟨rfl, rfl⟩ : event = first ∧ rest = before ++ release :: after := by
            simpa using hsplit
          refine Or.inr ⟨before, release, after, ?_, hrel, hnone⟩
          cases event <;> rfl

/-- Nor does an event of the network. -/
theorem network_revoked {s : State} (h : Revoked s) {e : Event} (he : e.isNetwork = true) :
    Revoked (step s e).1 := by
  cases e with
  | wifiEvent env ready endpointText event =>
      exact h.of_same (handleWifiEvent_sameLease s env ready endpointText event)
  | command env => exact h.of_same (takeCommand_sameLease s env)
  | mgmt env => exact takeMgmt_revoked h env
  | deadline now disconnectOk connectOk =>
      exact h.of_same (checkDeadline_sameLease s now disconnectOk connectOk)
  | periodic env => exact h.of_same (reconcile_sameLease s env _)
  | pingResult success => exact h.send rfl
  | pingEnd => exact h.of_same (.refl s)
  | connect => cases he
  | disconnect hid => cases he
  | frame env bytes => cases he
  | tick now => cases he

/-! ## Frames -/

theorem netRelease_revoked {s : State} (h : Revoked s) (sequence : UInt32) :
    Revoked (netRelease s sequence).1 := by
  unfold netRelease
  split
  · exact h
  · simp only []
    split
    · exact (h.send (x := .leaseRelease) rfl).of_same ⟨rfl, rfl⟩
    · exact h

theorem wifiClear_revoked {s : State} (h : Revoked s) (env : FrameEnv) (sequence : UInt32) :
    Revoked (wifiClear s env sequence).1 := by
  unfold wifiClear
  split
  · exact h
  · split
    · exact h
    · have hdeadline : Revoked { s with wifiDeadline := 0 } := h.of_same ⟨rfl, rfl⟩
      exact (hdeadline.send (x := .leaseRelease) rfl).of_same ⟨rfl, rfl⟩

/-- A `WIFI_CLEAR` is acknowledged only when both Wi-Fi calls succeeded. -/
theorem wifiClear_acknowledged {s : State} {env : FrameEnv} {q : UInt32} {session : Bytes}
    (h : Effect.ack session q .applied ∈ (wifiClear s env q).2) :
    env.disconnectOk = true ∧ env.setConfigOk = true := by
  unfold wifiClear at h
  split at h
  · simp [notifyError] at h
  · split at h
    · simp [notifyError] at h
    · simp_all

/-- With both calls done and room in the queue it revokes the lease. -/
theorem wifiClear_revokes {s : State} {env : FrameEnv} (hd : env.disconnectOk = true)
    (hc : env.setConfigOk = true) (hroom : s.mgmtEvents.length < bmxMgmtQueue) (q : UInt32) :
    Revoked (wifiClear s env q).1 := by
  have hsent : Revoked (sendMgmt { s with wifiDeadline := 0 } .leaseRelease).2 :=
    revoked_of_release (s := { s with wifiDeadline := 0 }) hroom rfl
  simp only [wifiClear, hd, hc, Bool.not_true, Bool.false_eq_true, if_false]
  exact hsent.of_same ⟨rfl, rfl⟩

theorem perform_revoked {s : State} (h : Revoked s) (env : FrameEnv) {op : Op}
    (hop : op.isLease = false) : Revoked (perform s env op).1 := by
  cases op with
  | opened session => exact h.of_same ⟨rfl, rfl⟩
  | control session sequence control => exact h.of_same (applyControl_mgmt _ _ _ _ _).lease
  | text p => exact h.of_same (handleText_mgmt s env p).lease
  | wifi p => exact h.of_same (handleWifi_mgmt s env p).lease
  | wifiStatus session sequence => exact h
  | netLease session sequence ttl => cases hop
  | netRelease session sequence => exact netRelease_revoked h sequence
  | proxyStatus session sequence => exact h.of_same ⟨rfl, rfl⟩
  | wifiClear session sequence => exact wifiClear_revoked h env sequence

theorem applyControl_session (s : State) (env : FrameEnv) (session : Bytes) (sequence : UInt32)
    (control : Bytes) : (applyControl s env session sequence control).1.session = s.session := by
  by_cases hs : session = s.session
  · subst hs
    exact (applyControl_frame s env sequence control).1
  · rw [applyControl, if_pos hs]

/-- Only an `OPEN` changes the session. -/
theorem perform_session (s : State) (env : FrameEnv) {op : Op}
    (hop : ∀ session, op ≠ .opened session) : (perform s env op).1.session = s.session := by
  cases op with
  | opened session => exact absurd rfl (hop session)
  | control session sequence control => exact applyControl_session _ _ _ _ _
  | text p => exact (handleText_frame s env p).1
  | wifi p => exact (handleWifi_frame s env p).1
  | wifiStatus session sequence => rfl
  | netLease session sequence ttl => exact (netLease_aside s sequence ttl).1.1
  | netRelease session sequence => exact (netRelease_aside s sequence).1.1
  | proxyStatus session sequence => exact (proxyStatus_aside s env sequence).1.1
  | wifiClear session sequence => exact (wifiClear_aside s env sequence).1.1

/-! ## One step of the system -/

/-- No step but the performance of a frame leaves a mark. -/
def Unmarked (t : List SystemEffect) : Prop := ∀ x ∈ t, ∃ call, x = .call call

theorem call_unmarked (y : System) (r : State × List Effect) : Unmarked (y.call r).2 := by
  intro x hx
  obtain ⟨call, _, rfl⟩ := List.mem_map.mp hx
  exact ⟨call, rfl⟩

/-- A frame that was checked is performed for its connection. -/
theorem performFrame_some {y : System} {connection : Nat} {op : Op}
    (h : y.checked = some (connection, op)) (env : FrameEnv) :
    performFrame y env =
      ({ y with checked := none, state := (perform y.state env op).1 },
        op.mark connection ++ (perform y.state env op).2.map .call) := by
  simp only [performFrame, h]
  rfl

/-- Everything a step can do to the lease, the session, the connection
and the frame in hand. -/
theorem system_rule (y : System) {Q : SystemEvent → System × List SystemEffect → Prop}
    (hside : ∀ e y' t, (Revoked y.state → Revoked y'.state) →
      y'.state.session = y.state.session → y'.checked = y.checked → y'.link = y.link →
      y'.connection = y.connection → Unmarked t → Q e (y', t))
    (hconnect : y.link = .down → Q .connect
      (({ y with link := .up, connection := y.connection + 1 } : System).call
        (gapConnect y.state)))
    (hreset : ∀ hid, y.link = .up → Q (.disconnectReset hid)
      (({ y with link := .leaving } : System).call (gapDisconnectReset y.state hid)))
    (hsend : y.link = .leaving → Q .disconnectSend
      ({ y with state := gapDisconnectSend y.state, link := .down }, []))
    (hreceive : ∀ frame rest, y.checked = none → y.frames = frame :: rest → Q .receive
      ({ y with frames := rest, checked := checkFrame y.state frame }, []))
    (hperform : ∀ env connection op, y.checked = some (connection, op) → Q (.perform env)
      ({ y with checked := none, state := (perform y.state env op).1 },
        op.mark connection ++ (perform y.state env op).2.map .call)) :
    ∀ e, Q e (systemStep y e) := by
  have hsame : ∀ e, Q e (y, []) := fun e =>
    hside e y [] id rfl rfl rfl rfl (by simp [Unmarked])
  intro e
  cases e with
  | connect =>
      simp only [systemStep, hostConnect]
      split
      · rename_i hlink
        exact hconnect hlink
      · exact hsame _
  | write bytes =>
      simp only [systemStep, rxWrite]
      split
      · exact hsame _
      · split <;> exact hside _ _ _ id rfl rfl rfl rfl (by simp [Unmarked])
  | disconnectReset hid =>
      simp only [systemStep, hostDisconnectReset]
      split
      · rename_i hlink
        exact hreset hid hlink
      · exact hsame _
  | disconnectSend =>
      simp only [systemStep, hostDisconnectSend]
      split
      · rename_i hlink
        exact hsend hlink
      · exact hsame _
  | reportOverflow =>
      simp only [systemStep, reportOverflow]
      split
      · exact hside _ _ _ id rfl rfl rfl rfl (by simp [Unmarked])
      · exact hsame _
  | receive =>
      simp only [systemStep, receiveFrame]
      split
      · rename_i frame rest hnone hframes
        exact hreceive frame rest hnone hframes
      · exact hsame _
  | perform env =>
      simp only [systemStep]
      cases hc : y.checked with
      | none =>
          rw [performFrame, hc]
          exact hsame _
      | some c =>
          rw [performFrame_some hc env]
          exact hperform env c.1 c.2 hc
  | tick now =>
      exact hside _ _ _ (fun h => h.of_same (dispatcherTimeout_mgmt y.state now).lease)
        (dispatcherTimeout_frame y.state now).1 rfl rfl rfl (call_unmarked y _)
  | task event =>
      simp only [systemStep]
      split
      · rename_i hnet
        exact hside _ _ _ (fun h => network_revoked h hnet)
          (network_aside y.state event hnet).1.1 rfl rfl rfl (call_unmarked y _)
      · exact hsame _

/-- **Every step keeps a revocation but the handling of a `NET_LEASE`.** -/
theorem system_revoked {y : System} (h : Revoked y.state) (e : SystemEvent) :
    .leased ∉ (systemStep y e).2 → Revoked (systemStep y e).1.state := by
  refine system_rule y (Q := fun _ r => .leased ∉ r.2 → Revoked r.1.state)
    ?side ?connect ?reset ?send ?receive ?perform e
  case side => exact fun _ _ _ hrevoked _ _ _ _ _ _ => hrevoked h
  case connect => exact fun _ _ => h.of_same ⟨rfl, rfl⟩
  case reset => exact fun _ _ _ => h.of_same ⟨rfl, rfl⟩
  case send => exact fun _ _ => h.send rfl
  case receive => exact fun _ _ _ _ _ => h
  case perform =>
    intro env connection op _ hlease
    refine perform_revoked h env ?_
    cases op <;> first | rfl | simp [Op.mark] at hlease

theorem run_revoked {y : System} (h : Revoked y.state) (es : List SystemEvent)
    (hlease : .leased ∉ system.traceFrom y es) : Revoked (system.runFrom y es).state := by
  induction es generalizing y with
  | nil => exact h
  | cons e es ih =>
      simp only [Machine.traceFrom_cons, List.mem_append, not_or] at hlease
      exact ih (system_revoked h e hlease.1) hlease.2

/-! ## The session between connections -/

/-- No session is open but on a connection. -/
def SessionClosed (y : System) : Prop := y.link ≠ .up → y.state.session = []

/-- One event keeps a closed session closed, if its queue takes what is sent.
-/
theorem system_sessionClosed {y : System} (h : SessionClosed y) (e : SystemEvent) :
    Delivers y e → SessionClosed (systemStep y e).1 := by
  refine system_rule y (Q := fun e r => Delivers y e → SessionClosed r.1)
    ?side ?connect ?reset ?send ?receive ?perform e
  case side =>
    intro e y' t _ hsession _ hlink _ _ _ hup
    rw [hsession]
    exact h (hlink ▸ hup)
  case connect => exact fun _ _ hup => absurd rfl hup
  case reset => exact fun _ _ _ _ => rfl
  case send =>
    intro hlink _ _
    have hclosed : y.state.session = [] := h (by rw [hlink]; decide)
    exact (sendMgmt_receiver y.state .bleDisconnected).1.trans hclosed
  case receive => exact fun _ _ _ _ _ hup => h hup
  case perform =>
    intro env connection op hchecked hd hup
    have hop : ∀ session, op ≠ .opened session := by
      rintro session rfl
      simp only [Delivers, hchecked, PerformDelivers] at hd
      exact hup hd.1
    exact (perform_session y.state env hop).trans (h hup)

/-- The induction over a run. -/
theorem run_sessionClosed (es : List SystemEvent) (h : system.AllSteps Delivers powerOn es) :
    SessionClosed (system.run es) := by
  have hstep : ∀ y e, SessionClosed y → Delivers y e → SessionClosed (system.step y e).1 :=
    fun _ e hy hd => system_sessionClosed hy e hd
  exact system.runFrom_invariant hstep es powerOn (fun _ => rfl) h

/-! ## After a disconnect -/

/-- An `OPEN` from a connection after number `c` was performed. -/
def OpenedAfter (c : Nat) (t : List SystemEffect) : Prop :=
  ∃ c', c < c' ∧ .opened c' ∈ t

/-- A `NET_LEASE` was handled after an `OPEN` from a connection after
number `c`. -/
def LeasedAfterOpen (c : Nat) (t : List SystemEffect) : Prop :=
  ∃ A c' B, t = A ++ SystemEffect.opened c' :: B ∧ c < c' ∧ .leased ∈ B

theorem OpenedAfter.append {c : Nat} {t : List SystemEffect} (h : OpenedAfter c t)
    (u : List SystemEffect) : OpenedAfter c (t ++ u) := by
  obtain ⟨c', hc, hmem⟩ := h
  exact ⟨c', hc, List.mem_append_left u hmem⟩

theorem LeasedAfterOpen.append {c : Nat} {t : List SystemEffect} (h : LeasedAfterOpen c t)
    (u : List SystemEffect) : LeasedAfterOpen c (t ++ u) := by
  obtain ⟨A, c', B, rfl, hc, hmem⟩ := h
  exact ⟨A, c', B ++ u, by simp, hc, List.mem_append_left u hmem⟩

theorem OpenedAfter.leased {c : Nat} {t : List SystemEffect} (h : OpenedAfter c t)
    {u : List SystemEffect} (hu : .leased ∈ u) : LeasedAfterOpen c (t ++ u) := by
  obtain ⟨c', hc, hmem⟩ := h
  obtain ⟨A, B, rfl⟩ := List.append_of_mem hmem
  exact ⟨A, c', B ++ u, by simp, hc, List.mem_append_right B hu⟩

/-- What holds from the disconnect of connection `c` until a `NET_LEASE`
follows an `OPEN` of a later one: the lease stays revoked, and neither a
session nor a checked `NET_LEASE` is there before such an `OPEN`. -/
structure Withheld (c : Nat) (t : List SystemEffect) (y : System) : Prop where
  revoked : Revoked y.state
  session : y.state.session ≠ [] → OpenedAfter c t
  checked : ∀ x ∈ y.checked, x.2.isLease = true → OpenedAfter c t
  link : c < y.connection ∨ y.link = .down ∧ y.connection = c

/-- A checked `NET_LEASE` names the session in force, which is not empty
unless its field is. -/
theorem checkFrame_lease {s : State} {frame : QueuedFrame} {x : Nat × Op}
    (h : checkFrame s frame = some x) (hlease : x.2.isLease = true) :
    s.session ≠ [] ∨ frame.anonymousLease = true := by
  unfold checkFrame at h
  unfold QueuedFrame.anonymousLease
  cases hop : frameOp frame.bytes with
  | none => simp [hop] at h
  | some op =>
      rw [hop] at h
      cases op with
      | netLease session sequence ttl =>
          simp only [Op.session] at h
          split at h
          · rename_i hs
            subst hs
            cases hempty : s.session with
            | nil => exact Or.inr rfl
            | cons c rest => exact Or.inl (by simp)
          · cases h
      | opened session => simp only [Op.session, Option.some.injEq] at h; subst h; cases hlease
      | _ =>
          simp only [Op.session] at h
          split at h
          · simp only [Option.some.injEq] at h; subst h; cases hlease
          · cases h

/-- One step after the disconnect. -/
theorem withheld_step {c : Nat} {t : List SystemEffect} {y : System} (h : Withheld c t y)
    (e : SystemEvent) : Delivers y e →
    LeasedAfterOpen c (t ++ (systemStep y e).2) ∨
      Withheld c (t ++ (systemStep y e).2) (systemStep y e).1 := by
  refine system_rule y
    (Q := fun e r => Delivers y e → LeasedAfterOpen c (t ++ r.2) ∨ Withheld c (t ++ r.2) r.1)
    ?side ?connect ?reset ?send ?receive ?perform e
  case side =>
    intro e y' u hrevoked hsession hchecked hlink hconnection _ _
    refine Or.inr ⟨hrevoked h.revoked, fun hs => ?_, fun x hx hlease => ?_, ?_⟩
    · exact (h.session (hsession ▸ hs)).append u
    · exact (h.checked x (hchecked ▸ hx) hlease).append u
    · rw [hlink, hconnection]
      exact h.link
  case connect =>
    intro hdown _
    refine Or.inr ⟨h.revoked.of_same ⟨rfl, rfl⟩, fun hs => (h.session hs).append _,
      fun x hx hlease => (h.checked x hx hlease).append _, Or.inl ?_⟩
    rcases h.link with hlt | ⟨_, rfl⟩
    · exact Nat.lt_succ_of_lt hlt
    · exact Nat.lt_succ_self _
  case reset =>
    intro hid hup _
    refine Or.inr ⟨h.revoked.of_same ⟨rfl, rfl⟩, fun hs => absurd rfl hs,
      fun x hx hlease => (h.checked x hx hlease).append _, Or.inl ?_⟩
    rcases h.link with hlt | ⟨hdown, _⟩
    · exact hlt
    · rw [hup] at hdown; cases hdown
  case send =>
    intro hleaving _
    have hsession := (sendMgmt_receiver y.state .bleDisconnected).1
    refine Or.inr ⟨h.revoked.send rfl, fun hs => (h.session (hsession ▸ hs)).append [],
      fun x hx hlease => (h.checked x hx hlease).append [], Or.inl ?_⟩
    rcases h.link with hlt | ⟨hdown, _⟩
    · exact hlt
    · rw [hleaving] at hdown; cases hdown
  case receive =>
    intro frame rest hnone hframes hd
    refine Or.inr ⟨h.revoked, fun hs => (h.session hs).append [], fun x hx hlease => ?_, h.link⟩
    have hopen : y.state.session ≠ [] := by
      rcases checkFrame_lease hx hlease with hs | hanon
      · exact hs
      · exact hd (by rw [hnone]; rfl) frame (by rw [hframes]; rfl) hanon
    exact (h.session hopen).append []
  case perform =>
    intro env connection op hchecked hd
    by_cases hlease : op.isLease = true
    · refine Or.inl ((h.checked _ hchecked hlease).leased ?_)
      cases op <;> first | exact Bool.noConfusion hlease | simp [Op.mark]
    · have hrevoked := perform_revoked h.revoked env (Bool.eq_false_iff.mpr hlease)
      refine Or.inr ⟨hrevoked, fun hs => ?_, fun x hx => (nomatch hx), h.link⟩
      by_cases hop : ∃ session, op = .opened session
      · obtain ⟨session, rfl⟩ := hop
        simp only [Delivers, hchecked, PerformDelivers] at hd
        refine ⟨connection, ?_, by simp [Op.mark]⟩
        rcases h.link with hlt | ⟨hdown, _⟩
        · rw [hd.2]; exact hlt
        · rw [hd.1] at hdown; cases hdown
      · have hsame := perform_session y.state env fun session heq => hop ⟨session, heq⟩
        exact (h.session (hsame ▸ hs)).append _

/-- A disconnect whose event the queue takes withholds the lease. -/
theorem withheld_of_disconnect {y : System} (hleaving : y.link = .leaving)
    (hclosed : SessionClosed y) (hd : Delivers y .disconnectSend) :
    Withheld y.connection [] (systemStep y .disconnectSend).1 := by
  obtain ⟨hroom, hchecked⟩ := hd hleaving
  simp only [systemStep, hostDisconnectSend, hleaving]
  refine ⟨revoked_of_release hroom rfl, fun hs => ?_, fun x hx hlease => ?_, Or.inr ⟨rfl, rfl⟩⟩
  · have hempty : y.state.session = [] := hclosed (by rw [hleaving]; decide)
    exact absurd ((sendMgmt_receiver y.state .bleDisconnected).1.trans hempty) hs
  · rw [hchecked x hx] at hlease
    cases hlease

/-- The induction: there is no lease of the new connection before its session
is open. -/
theorem run_withheld {c : Nat} {y : System} (h : Withheld c [] y) (es : List SystemEvent)
    (hd : system.AllSteps Delivers y es) :
    LeasedAfterOpen c (system.traceFrom y es) ∨
      Withheld c (system.traceFrom y es) (system.runFrom y es) := by
  have hstep : ∀ t y e, LeasedAfterOpen c t ∨ Withheld c t y → Delivers y e →
      LeasedAfterOpen c (t ++ (system.step y e).2) ∨
        Withheld c (t ++ (system.step y e).2) (system.step y e).1 := by
    rintro t y e (hleased | hwithheld) hd
    · exact Or.inl (hleased.append _)
    · exact withheld_step hwithheld e hd
  exact system.historyFrom_invariant hstep es [] y (Or.inr h) hd

/-! ## Revocation along a run -/

/-- The lease is inactive, whatever the clock says. -/
def System.unleased (y : System) : Prop := ∀ now, mgLeaseActive y.state.gate now = false

/-- After each disconnect of the run the lease is gone at its end, unless
a `NET_LEASE` was handled after an `OPEN` on a later connection. -/
def DisconnectRevokes (es : List SystemEvent) : Prop :=
  ∀ before after, es = before ++ SystemEvent.disconnectSend :: after →
    (system.run before).link = .leaving →
    (system.run es).unleased ∨
      LeasedAfterOpen (system.run before).connection
        (system.traceFrom (system.run (before ++ [SystemEvent.disconnectSend])) after)

/-- After each acknowledged `WIFI_CLEAR` of the run the lease is gone at
its end, unless a `NET_LEASE` was handled after it. -/
def ClearRevokes (es : List SystemEvent) : Prop :=
  ∀ before env after connection session q, es = before ++ SystemEvent.perform env :: after →
    (system.run before).checked = some (connection, .wifiClear session q) →
    (∃ name, .call (.ack name q .applied) ∈ (systemStep (system.run before) (.perform env)).2) →
    (system.run es).unleased ∨
      .leased ∈ system.traceFrom (system.run (before ++ [SystemEvent.perform env])) after

/-- With both queues empty a revoked lease is gone. -/
theorem unleased_of_drained {y : System} (h : Revoked y.state) (hd : y.drained = true) :
    y.unleased := by
  have hempty : y.state.mgmtEvents = [] := by
    simp only [System.drained, Bool.and_eq_true, List.isEmpty_iff] at hd
    exact hd.2
  exact h.inactive hempty

/-- A disconnection revokes, if the queues take what is sent. -/
theorem disconnectRevokes_of_delivers {es : List SystemEvent}
    (h : system.AllSteps Delivers powerOn es) (hd : (system.run es).drained = true) :
    DisconnectRevokes es := by
  rintro before after rfl hleaving
  have hsplit := (system.allSteps_append Delivers powerOn before _).mp h
  have hstart := withheld_of_disconnect hleaving (run_sessionClosed before hsplit.1) hsplit.2.1
  rw [system.run_concat]
  rw [system.run_append] at hd ⊢
  rcases run_withheld hstart after hsplit.2.2 with hleased | hwithheld
  · exact Or.inr hleased
  · exact Or.inl (unleased_of_drained hwithheld.revoked hd)

/-- So does `WIFI_CLEAR`. -/
theorem clearRevokes_of_delivers {es : List SystemEvent}
    (h : system.AllSteps Delivers powerOn es) (hd : (system.run es).drained = true) :
    ClearRevokes es := by
  rintro before env after connection session q rfl hchecked ⟨name, hack⟩
  have hroom := ((system.allSteps_append Delivers powerOn before _).mp h).2.1
  change PerformDelivers (system.run before) env (system.run before).checked at hroom
  rw [hchecked] at hroom
  rw [systemStep, performFrame_some hchecked env] at hack
  have hcleared : .ack name q .applied ∈ (wifiClear (system.run before).state env q).2 := by
    simpa [Op.mark, perform] using hack
  obtain ⟨hdisconnect, hconfig⟩ := wifiClear_acknowledged hcleared
  have hstart : Revoked (systemStep (system.run before) (.perform env)).1.state := by
    rw [systemStep, performFrame_some hchecked env]
    exact wifiClear_revokes hdisconnect hconfig (hroom hdisconnect hconfig) q
  rw [system.run_concat]
  rw [system.run_append] at hd ⊢
  by_cases hlease : .leased ∈ system.traceFrom (system.step (system.run before) (.perform env)).1
      after
  · exact Or.inr hlease
  · exact Or.inl (unleased_of_drained (run_revoked hstart after hlease) hd)

/-- **In every run whose steps all deliver, the revocation of a disconnect
and of an acknowledged `WIFI_CLEAR` reaches the gate**: with the queues
drained the lease is inactive, unless it was granted again. -/
theorem revocation_not_lost {es : List SystemEvent} (h : system.AllSteps Delivers powerOn es)
    (hd : (system.run es).drained = true) : DisconnectRevokes es ∧ ClearRevokes es :=
  ⟨disconnectRevokes_of_delivers h hd, clearRevokes_of_delivers h hd⟩

/-- A platform on which every call succeeds. -/
def frameEnv : FrameEnv :=
  { started := 0, now := 0, hidReady := true, hid := [], disconnectOk := true
    setConfigOk := true, proxyIsReady := false, endpointText := none }

def drainOne : SystemEvent :=
  .task (.mgmt { now := 0, pingStarted := false, netifOk := true, naptOk := true
                 proxyWasReady := false, proxyStarted := true })

/-- A frame that is written and handled at once. -/
def handled (frame : String) : List SystemEvent :=
  [.write (ascii frame), .receive, .perform frameEnv]

/-- A lease is granted, then Wi-Fi is cleared and the peer leaves. -/
def leasedThenLeft : List SystemEvent :=
  .connect :: handled "BMX1|OPEN|s" ++ handled "BMX1|NET_LEASE|s|1|60" ++ [drainOne] ++
    handled "BMX1|WIFI_CLEAR|s|2|CLEAR" ++
    [.disconnectReset [], .disconnectSend, drainOne, drainOne]

/-- The hypotheses are met by a lease and a disconnection. -/
theorem revocation_not_lost_left :
    system.AllSteps Delivers powerOn leasedThenLeft ∧
    (system.run leasedThenLeft).drained = true ∧
    DisconnectRevokes leasedThenLeft ∧ ClearRevokes leasedThenLeft := by
  have hdelivers : system.AllSteps Delivers powerOn leasedThenLeft := by decide +kernel
  have hdrained : (system.run leasedThenLeft).drained = true := by decide +kernel
  exact ⟨hdelivers, hdrained, revocation_not_lost hdelivers hdrained⟩

/-- Eight grants fill the queue before `wifi_task` takes one, and a
`WIFI_CLEAR` is in hand. -/
def leasesInQueue : List SystemEvent :=
  .connect :: handled "BMX1|OPEN|s" ++ handled "BMX1|NET_LEASE|s|1|60" ++
    handled "BMX1|NET_LEASE|s|2|60" ++ handled "BMX1|NET_LEASE|s|3|60" ++
    handled "BMX1|NET_LEASE|s|4|60" ++ handled "BMX1|NET_LEASE|s|5|60" ++
    handled "BMX1|NET_LEASE|s|6|60" ++ handled "BMX1|NET_LEASE|s|7|60" ++
    handled "BMX1|NET_LEASE|s|8|60" ++
    [.write (ascii "BMX1|WIFI_CLEAR|s|9|CLEAR"), .receive]

def leftAndDrained : List SystemEvent :=
  .disconnectReset [] :: .disconnectSend :: List.replicate 8 drainOne

def queueFullRun : List SystemEvent := leasesInQueue ++ .perform frameEnv :: leftAndDrained

/-- An `OPEN` and a `NET_LEASE` are still in the queue of frames when the
peer leaves. -/
def leasesInFrames : List SystemEvent :=
  [.connect, .write (ascii "BMX1|OPEN|s"), .write (ascii "BMX1|NET_LEASE|s|1|60"),
    .disconnectReset []]

def dispatchedAndDrained : List SystemEvent :=
  [.receive, .perform frameEnv, .receive, .perform frameEnv, drainOne, drainOne]

def staleFramesRun : List SystemEvent :=
  leasesInFrames ++ .disconnectSend :: dispatchedAndDrained

/-- The mark of an `OPEN` from a connection after number `c`. -/
def SystemEffect.opensAfter (c : Nat) : SystemEffect → Bool
  | .opened c' => decide (c < c')
  | _ => false

def SystemEffect.isLeased : SystemEffect → Bool
  | .leased => true
  | _ => false

theorem LeasedAfterOpen.opens {c : Nat} {t : List SystemEffect} (h : LeasedAfterOpen c t) :
    t.any (SystemEffect.opensAfter c) = true := by
  obtain ⟨A, c', B, rfl, hc, _⟩ := h
  simp [SystemEffect.opensAfter, hc]

/-- Two runs that do not deliver. In the first both releases meet a full
queue; in the second the dispatcher grants a lease for a peer that has
left. -/
theorem revocation_lost :
    ((system.run queueFullRun).drained = true ∧ ¬ DisconnectRevokes queueFullRun ∧
      ¬ ClearRevokes queueFullRun) ∧
    ((system.run staleFramesRun).drained = true ∧ ¬ DisconnectRevokes staleFramesRun) := by
  refine ⟨⟨by decide +kernel, ?_, ?_⟩, by decide +kernel, ?_⟩
  · intro h
    rcases h (leasesInQueue ++ [.perform frameEnv, .disconnectReset []])
      (List.replicate 8 drainOne) rfl (by decide +kernel) with hgone | hleased
    · exact absurd (hgone 0) (by decide +kernel)
    · exact absurd hleased.opens (by decide +kernel)
  · intro h
    rcases h leasesInQueue frameEnv leftAndDrained 1 (ascii "s") 9 rfl (by rfl)
      ⟨ascii "s", List.mem_iff_getElem?.mpr ⟨3, by rfl⟩⟩ with hgone | hleased
    · exact absurd (hgone 0) (by decide +kernel)
    · have hnone : (system.traceFrom (system.run (leasesInQueue ++ [.perform frameEnv]))
          leftAndDrained).any SystemEffect.isLeased = false := by decide +kernel
      rw [List.any_eq_false] at hnone
      exact hnone _ hleased rfl
  · intro h
    rcases h leasesInFrames dispatchedAndDrained rfl (by decide +kernel) with hgone | hleased
    · exact absurd (hgone 0) (by decide +kernel)
    · exact absurd hleased.opens (by decide +kernel)

end Bootmux.Router
