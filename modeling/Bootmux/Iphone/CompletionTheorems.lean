/-
Bootmux.Iphone.CompletionTheorems — the completions of the requests of
the iPhone's keyboard session.

Every request is completed once or is the pending one
(`operations_complete_once`), whatever the order of callbacks,
acknowledgements, timers and requests. A sequence number has 32 bits and
the counter wraps, so an acknowledgement of an operation that was given
up can complete a later one when 2³² sequence numbers were drawn in
between (`late_ack_completes_later`).

The history of a run is its list of requests and of what became of each. One
induction over the run carries `History`; what a step can do to the
operations is taken from `Bootmux.Iphone.PendingTheorems`, so no branch of
the session is looked at here. By what an operation may be completed says
`CompletedBy`: a success is an acknowledgement with its session and its
number, a timer that ends it is its own, and an earlier operation with the
same number lies 2³² before it.

The wrapped number needs a run of 2³² operations, which is made from one
cycle of a request and its answer by repeating it.
-/
import Bootmux.Iphone.PendingTheorems

namespace Bootmux.Iphone

open Bootmux.Bmx1 (Bytes ascii)
open Bootmux.Lib
open BridgeSession

/-! ## Runs -/

/-- The effect calls the completion of `request`. -/
def BridgeEffect.completes (request : Nat) : BridgeEffect → Bool
  | .completed request' _ => request' = request
  | _ => false

/-- How often the completion of `request` was called. -/
def completions (request : Nat) (t : List BridgeEffect) : Nat :=
  t.countP (BridgeEffect.completes request)

/-- The completions of two steps. -/
theorem completions_append (request : Nat) (t u : List BridgeEffect) :
    completions request (t ++ u) = completions request t + completions request u :=
  List.countP_append

/-- A completion is that of its request. -/
theorem completions_completed (request request' : Nat) (success : Bool) :
    completions request [.completed request' success] = if request' = request then 1 else 0 := by
  simp [completions, BridgeEffect.completes, List.countP_cons]

theorem completions_marks (request : Nat) (t : List BridgeEffect) :
    completions request (t.filter BridgeEffect.marks) = completions request t := by
  unfold completions
  rw [List.countP_filter]
  refine List.countP_congr fun x _ => ?_
  cases x <;> simp [BridgeEffect.completes, BridgeEffect.marks]

/-- The number of a request whose operation is not pending. -/
def Settled (s : BridgeSession) (request : Nat) : Prop :=
  request < s.requests ∧ s.current.map (·.request) ≠ some request

instance (s : BridgeSession) (request : Nat) : Decidable (Settled s request) :=
  inferInstanceAs (Decidable (_ ∧ _))

/-- What a run that showed `t` knows of the operations: the request of
every number is completed once, or is pending. -/
structure History (t : List BridgeEffect) (s : BridgeSession) : Prop where
  timers : s.TimersOk
  sequence : s.sequence = UInt32.ofNat s.drawn
  made : ∀ operation, s.current = some operation → operation.request < s.requests
  once : ∀ request, completions request t = if Settled s request then 1 else 0
  drawn : ∀ operation, .began operation ∈ t →
    operation.ordinal ≤ s.drawn ∧ operation.sequence = UInt32.ofNat operation.ordinal
  distinct : ∀ a b, .began a ∈ t → .began b ∈ t → a.ordinal = b.ordinal → a = b
  latest : ∀ operation, s.current = some operation → .began operation ∈ t ∧
    ∀ earlier, .began earlier ∈ t → earlier.ordinal ≤ operation.ordinal

namespace History

variable {t : List BridgeEffect} {s s' : BridgeSession} {e : BridgeEvent}

/-- A new session has completed nothing. -/
theorem of_new : History [] newBridgeSession where
  timers i request h := by simp [Live, newBridgeSession] at h
  sequence := rfl
  made _ h := by cases h
  once request := by simp [completions, Settled, newBridgeSession]
  drawn _ h := by cases h
  distinct _ _ h := by cases h
  latest _ h := by cases h

/-- A step that completes nothing. -/
theorem idle (h : History t s) (htimers : s'.TimersOk) (hcurrent : s'.current = s.current)
    (hrequests : s'.requests = s.requests) (hdrawn : s'.drawn = s.drawn)
    (hsequence : s'.sequence = s.sequence) : History t s' where
  timers := htimers
  sequence := by rw [hsequence, hdrawn, h.sequence]
  made operation hop := by rw [hrequests]; exact h.made operation (hcurrent ▸ hop)
  once request := by simp only [Settled, hcurrent, hrequests]; exact h.once request
  drawn operation hop := by rw [hdrawn]; exact h.drawn operation hop
  distinct := h.distinct
  latest operation hop := h.latest operation (hcurrent ▸ hop)

/-- The completion of a request that is turned down is called at once. -/
theorem rejected (h : History t s) (htimers : s'.TimersOk) {n : Nat}
    (hcurrent : s'.current = s.current) (hrequests : s'.requests = s.requests + 1)
    (hdrawn : s'.drawn = s.drawn + n) (hsequence : s'.sequence = s.sequence + UInt32.ofNat n) :
    History (t ++ [.completed s.requests false]) s' where
  timers := htimers
  sequence := by rw [hsequence, hdrawn, h.sequence, UInt32.ofNat_add]
  made operation hop := by
    have := h.made operation (hcurrent ▸ hop)
    omega
  once request := by
    have hmade : s.current.map (·.request) ≠ some s.requests := by
      intro hmap
      obtain ⟨operation, hop, hrequest⟩ := Option.map_eq_some_iff.mp hmap
      have := h.made operation hop
      omega
    rw [completions_append, completions_completed, h.once request]
    by_cases hr : s.requests = request
    · subst hr
      simp [Settled, hcurrent, hrequests, hmade]
    · have hlt : request < s.requests + 1 ↔ request < s.requests := by omega
      simp [Settled, hcurrent, hrequests, hr, hlt]
  drawn operation hop := by
    have := h.drawn operation (by simpa using hop)
    exact ⟨by omega, this.2⟩
  distinct a b ha hb := h.distinct a b (by simpa using ha) (by simpa using hb)
  latest operation hop := by
    obtain ⟨hbegan, hlast⟩ := h.latest operation (hcurrent ▸ hop)
    exact ⟨by simpa using hbegan, fun earlier he => hlast earlier (by simpa using he)⟩

/-- An operation that begins has a number and an ordinal of its own. -/
theorem started (h : History t s) (htimers : s'.TimersOk) {operation : Operation}
    (hnone : s.current = none) (hcurrent : s'.current = some operation)
    (hrequest : operation.request = s.requests) (hordinal : operation.ordinal = s.drawn + 1)
    (hop : operation.sequence = s.sequence + 1) (hrequests : s'.requests = s.requests + 1)
    (hdrawn : s'.drawn = s.drawn + 1) (hsequence : s'.sequence = s.sequence + 1) :
    History (t ++ [.began operation]) s' := by
  have hmem : ∀ a, .began a ∈ t ++ [.began operation] → .began a ∈ t ∨ a = operation := by
    intro a ha
    simpa using ha
  have hnext : s.sequence + 1 = UInt32.ofNat (s.drawn + 1) := by
    rw [h.sequence, UInt32.ofNat_add]
    rfl
  refine ⟨htimers, by rw [hsequence, hdrawn, hnext], ?_, ?_, ?_, ?_, ?_⟩
  · intro a ha
    cases hcurrent.symm.trans ha
    omega
  · intro request
    rw [completions_append, h.once request]
    have hbegan : completions request [.began operation] = 0 := rfl
    have hsettled : Settled s request ↔ Settled s' request := by
      simp only [Settled, hnone, hcurrent, hrequests, Option.map_none, Option.map_some, hrequest,
        ne_eq, reduceCtorEq, not_false_eq_true, and_true, Option.some.injEq]
      omega
    rw [hbegan, Nat.add_zero]
    exact if_congr hsettled rfl rfl
  · intro a ha
    rcases hmem a ha with ha | rfl
    · have := h.drawn a ha
      exact ⟨by omega, this.2⟩
    · exact ⟨by omega, by rw [hop, hordinal, hnext]⟩
  · intro a b ha hb hab
    rcases hmem a ha with ha' | ha' <;> rcases hmem b hb with hb' | hb'
    · exact h.distinct a b ha' hb' hab
    · have := h.drawn a ha'
      rw [hb'] at hab
      omega
    · have := h.drawn b hb'
      rw [ha'] at hab
      omega
    · exact ha'.trans hb'.symm
  · intro a ha
    cases hcurrent.symm.trans ha
    refine ⟨by simp, fun earlier he => ?_⟩
    rcases hmem earlier he with he | rfl
    · have := h.drawn earlier he
      omega
    · exact le_rfl

/-- A step that completes the operation under way. -/
theorem finished (h : History t s) (htimers : s'.TimersOk) {operation : Operation}
    {success : Bool} (hpending : s.current = some operation) (hcurrent : s'.current = none)
    (hrequests : s'.requests = s.requests) (hdrawn : s'.drawn = s.drawn)
    (hsequence : s'.sequence = s.sequence) :
    History (t ++ [.completed operation.request success]) s' where
  timers := htimers
  sequence := by rw [hsequence, hdrawn, h.sequence]
  made a ha := by rw [hcurrent] at ha; cases ha
  once request := by
    have hmade := h.made operation hpending
    rw [completions_append, completions_completed, h.once request]
    by_cases hr : operation.request = request
    · subst hr
      simp [Settled, hcurrent, hrequests, hpending, hmade]
    · simp [Settled, hcurrent, hrequests, hpending, hr]
  drawn a ha := by rw [hdrawn]; exact h.drawn a (by simpa using ha)
  distinct a b ha hb := h.distinct a b (by simpa using ha) (by simpa using hb)
  latest a ha := by rw [hcurrent] at ha; cases ha

/-- **One step** completes what it should. -/
theorem step (h : History t s) {fx : List BridgeEffect} (hm : Moves s e s' fx)
    (htimers : s'.TimersOk) : History (t ++ fx) s' := by
  cases hm with
  | idle hcurrent hrequests hdrawn hsequence =>
      rw [List.append_nil]
      exact h.idle htimers hcurrent hrequests hdrawn hsequence
  | rejected n _ hcurrent hrequests hdrawn hsequence =>
      exact h.rejected htimers hcurrent hrequests hdrawn hsequence
  | started operation _ hnone hcurrent hrequest hordinal hop hrequests hdrawn hsequence =>
      exact h.started htimers hnone hcurrent hrequest hordinal hop hrequests hdrawn hsequence
  | finished operation success _ hpending hcurrent hrequests hdrawn hsequence =>
      exact h.finished htimers hpending hcurrent hrequests hdrawn hsequence

end History

/-- The induction over a run. -/
theorem history_run (es : List BridgeEvent) :
    History ((bridgeMachine.trace es).filter BridgeEffect.marks) (bridgeMachine.run es) := by
  induction es using List.reverseRecOn with
  | nil => exact .of_new
  | append_singleton es e ih =>
      obtain ⟨hm, htimers⟩ := bridgeStep_moves (bridgeMachine.run es) e
      rw [Machine.trace_concat, Machine.run_concat, List.filter_append]
      exact ih.step hm (htimers ih.timers)

/-! ## Every request takes a number -/

/-- A call of the user interface that takes a completion. -/
def BridgeEvent.isRequest : BridgeEvent → Bool
  | .sendText _ | .send _ | .provisionWiFi _ _ | .requestWiFiStatus | .clearWiFi
  | .requestProxyStatus => true
  | _ => false

theorem requests_start (s : BridgeSession) (kind : BLEOperationKind) (frames : List Bytes) :
    (s.start kind frames).1.requests = s.requests + 1 :=
  (pumpOperation_idle _).2.1

theorem requests_startWiFiControl (s : BridgeSession) (kind : BLEOperationKind)
    (frameBuilder : Bytes → UInt32 → Except BLEProtocolError Bytes) :
    (s.startWiFiControl kind frameBuilder).1.requests = s.requests + 1 := by
  unfold startWiFiControl
  split
  · rfl
  · dsimp only
    split
    · rfl
    · exact requests_start _ _ _

/-- Every request has a number of its own. -/
theorem requests_of_isRequest {s : BridgeSession} {e : BridgeEvent} (h : e.isRequest = true) :
    (bridgeBody s e).1.requests = s.requests + 1 := by
  cases e with
  | sendText text =>
      simp only [bridgeBody, sendText]
      split
      · rfl
      · split
        · rfl
        · split
          · rfl
          · exact requests_start _ _ _
  | send control =>
      simp only [bridgeBody, send]
      split
      · rfl
      · split
        · rfl
        · exact requests_start _ _ _
  | provisionWiFi ssid password =>
      simp only [bridgeBody, provisionWiFi]
      split
      · rfl
      · split
        · rfl
        · split
          · rfl
          · exact requests_start _ _ _
  | requestWiFiStatus => exact requests_startWiFiControl s _ _
  | clearWiFi => exact requests_startWiFiControl s _ _
  | requestProxyStatus => exact requests_startWiFiControl s _ _
  | _ => cases h

/-! ## Completions -/

/-- Sequence numbers that are equal are of one operation, or 2³² apart. -/
theorem ordinal_of_sequence {t : List BridgeEffect} {s : BridgeSession} (h : History t s)
    {operation earlier : Operation} (hpending : s.current = some operation)
    (hbegan : .began earlier ∈ t) (hne : earlier ≠ operation)
    (hsequence : earlier.sequence = operation.sequence) :
    earlier.ordinal + 2 ^ 32 ≤ operation.ordinal := by
  obtain ⟨hop, hlatest⟩ := h.latest operation hpending
  have hle := hlatest earlier hbegan
  have hord : earlier.ordinal ≠ operation.ordinal :=
    fun heq => hne (h.distinct earlier operation hbegan hop heq)
  rw [(h.drawn earlier hbegan).2, (h.drawn operation hop).2] at hsequence
  have hmod : earlier.ordinal % 2 ^ 32 = operation.ordinal % 2 ^ 32 := by
    simpa using congrArg UInt32.toNat hsequence
  omega

/-- Why a completion is called in a step, after a run that showed `t`:
with `true`, by an acknowledgement of that operation that its kind
accepts; by a task, that was armed for it; by an acknowledgement, of its
session and sequence, which no other operation of the last 2³² sequence
numbers had, or because the request was made and turned down in this
very step. -/
structure CompletedBy (t : List BridgeEffect) (s : BridgeSession) (e : BridgeEvent)
    (request : Nat) (success : Bool) : Prop where
  accepted : success = true → ∃ operation result, s.current = some operation ∧
    operation.request = request ∧ e = .ack operation.session operation.sequence result ∧
    accepts result operation.kind
  timeout : ∀ i, e = .wake i → s.Live i request
  acknowledged : ∀ session sequence result, e = .ack session sequence result →
    (∃ operation, s.current = some operation ∧ operation.request = request ∧
      operation.session = session ∧ operation.sequence = sequence ∧
      ∀ earlier, .began earlier ∈ t → earlier ≠ operation → earlier.session = session →
        earlier.sequence = sequence → earlier.ordinal + 2 ^ 32 ≤ operation.ordinal) ∨
    request = s.requests ∧ success = false

/-- A request that is completed was made, and not completed before. -/
theorem completedBy_step {t : List BridgeEffect} {s : BridgeSession} {e : BridgeEvent}
    (h : History t s) {request : Nat} {success : Bool}
    (hc : .completed request success ∈ (bridgeStep s e).2) :
    CompletedBy t s e request success := by
  have hm := (bridgeStep_moves s e).1
  have hmem : .completed request success ∈ (bridgeStep s e).2.filter BridgeEffect.marks :=
    List.mem_filter.mpr ⟨hc, rfl⟩
  generalize (bridgeStep s e).1 = s', (bridgeStep s e).2.filter BridgeEffect.marks = fx at hm hmem
  cases hm with
  | idle => cases hmem
  | rejected n he =>
      simp only [List.mem_singleton, BridgeEffect.completed.injEq] at hmem
      obtain ⟨rfl, rfl⟩ := hmem
      exact ⟨nofun, fun i hi => absurd hi (he i), fun _ _ _ _ => .inr ⟨rfl, rfl⟩⟩
  | started operation => simp at hmem
  | finished operation success' he hpending =>
      simp only [List.mem_singleton, BridgeEffect.completed.injEq] at hmem
      obtain ⟨rfl, rfl⟩ := hmem
      refine ⟨?_, ?_, ?_⟩
      · intro hsuccess
        cases he with
        | ack hresult => exact ⟨operation, _, hpending, rfl, rfl, hresult hsuccess⟩
        | _ => cases hsuccess
      · rintro i rfl
        cases he with
        | wake hlive =>
            obtain ⟨-, hrequest⟩ := h.timers i _ hlive
            rw [hpending] at hrequest
            cases hrequest
            exact hlive
      · rintro session sequence result rfl
        cases he with
        | ack =>
            refine .inl ⟨operation, hpending, rfl, rfl, rfl, fun earlier hbegan hne _ hsame => ?_⟩
            exact ordinal_of_sequence h hpending hbegan hne hsame

/-- The completion of every request is called once, or its operation is
the pending one, and for one of the reasons of `CompletedBy`. -/
theorem operations_complete_once (es : List BridgeEvent) :
    (∀ request, completions request (bridgeMachine.trace es) =
      if Settled (bridgeMachine.run es) request then 1 else 0) ∧
    (∀ pre e post, es = pre ++ e :: post → e.isRequest = true →
      (bridgeMachine.run pre).crashed = false →
      (bridgeMachine.run (pre ++ [e])).requests = (bridgeMachine.run pre).requests + 1) ∧
    ∀ pre e post, es = pre ++ e :: post → ∀ request success,
      .completed request success ∈ (bridgeMachine.step (bridgeMachine.run pre) e).2 →
      CompletedBy (bridgeMachine.trace pre) (bridgeMachine.run pre) e request success := by
  refine ⟨fun request => ?_, ?_, ?_⟩
  · rw [← completions_marks]
    exact (history_run es).once request
  · rintro pre e post - he hcrashed
    rw [Machine.run_concat]
    change (bridgeStep _ e).1.requests = _
    rw [bridgeStep, if_neg (by rw [hcrashed]; decide)]
    exact requests_of_isRequest he
  · rintro pre e post - request success hc
    have h := completedBy_step (history_run pre) hc
    refine ⟨h.accepted, h.timeout, fun session sequence result he => ?_⟩
    rcases h.acknowledged session sequence result he with
      ⟨operation, hpending, hrequest, hsession, hsequence, hearlier⟩ | hrejected
    · refine .inl ⟨operation, hpending, hrequest, hsession, hsequence, fun earlier hbegan => ?_⟩
      exact hearlier earlier (List.mem_filter.mpr ⟨hbegan, rfl⟩)
    · exact .inr hrejected

/-! ## The sequence numbers wrap -/

/-- The frame of a control is short for every sequence number. -/
theorem control_enter_ok {session : Bytes} (h : validSession session = .ok session)
    (hlen : session.length ≤ 32) (sequence : UInt32) :
    ∃ frame, control session sequence .enter = .ok frame := by
  have hdecimal := Bmx1.length_decimal_le sequence
  have hfit : ¬ (Bmx1.joinFields [ascii "BMX1", ascii "CTRL", session,
      Bmx1.decimal sequence.toNat, ascii "ENTER"]).length > maximumCommittedBytes := by
    have hmagic : (ascii "BMX1").length = 4 := by decide
    have htype : (ascii "CTRL").length = 4 := by decide
    have henter : (ascii "ENTER").length = 5 := by decide
    simp only [Bmx1.joinFields, List.length_append, List.length_cons, hmagic, htype, henter,
      maximumCommittedBytes]
    omega
  simp only [control, commandFrame, h, BLEControl.rawValue, bind, Except.bind]
  exact ⟨_, if_neg hfit⟩

/-- The digits of a UUID. -/
def uuid : Bytes := ascii "0F8FAD5BD9CB469FA16570867728950E"

theorem control_uuid_ok (sequence : UInt32) : ∃ frame, control uuid sequence .enter = .ok frame :=
  control_enter_ok rfl (by decide) sequence

/-- The session `uuid` is open, nothing is pending and a write callback
is still to come. -/
structure Ready (s : BridgeSession) : Prop where
  crashed : s.crashed = false
  state : s.state = .on
  pending : s.pendingOperation = none
  peripheral : s.peripheral = some 0
  rx : s.rx = true
  session : s.sessionID = uuid
  opening : s.opening = false
  writeInFlight : s.writeInFlight = true

/-- An operation that is acknowledged before the callback of its write. -/
def cycle (sequence : UInt32) : List BridgeEvent :=
  [.didWriteValue true, .send .enter, .ack uuid sequence (ascii "APPLIED")]

def cycles : Nat → UInt32 → List BridgeEvent
  | 0, _ => []
  | n + 1, next => cycle next ++ cycles n (next + 1)

/-- The next operation of the session. -/
def begunOperation (s : BridgeSession) (frames : List Bytes) (nextFrame : Nat) :
    PendingOperation where
  session := s.sessionID
  sequence := s.sequence + 1
  kind := .control .enter
  request := s.requests
  ordinal := s.drawn + 1
  frames := frames
  nextFrame := nextFrame

def begun (s : BridgeSession) (frames : List Bytes) (nextFrame : Nat) : BridgeSession :=
  { s with
    sequence := s.sequence + 1
    drawn := s.drawn + 1
    requests := s.requests + 1
    pendingOperation := some (begunOperation s frames nextFrame) }

/-- While a write callback is to come nothing is written. -/
theorem send_ready {s : BridgeSession} (h : Ready s) :
    ∃ frames, (bridgeStep s (.send .enter)).1 = begun s frames 0 := by
  obtain ⟨frame, hframe⟩ := control_uuid_ok (s.sequence + 1)
  refine ⟨[frame], ?_⟩
  simp [bridgeStep, bridgeBody, send, h.crashed, h.state, h.pending, h.session, h.writeInFlight,
    nextSequence, nextRequest, hframe, start, pumpOperation, begun,
    begunOperation]

/-- After the callback the frame is written. -/
theorem send_written {s : BridgeSession} (h : Ready s) :
    ∃ frames, bridgeMachine.runFrom s [.didWriteValue true, .send .enter] = begun s frames 1 := by
  obtain ⟨frame, hframe⟩ := control_uuid_ok (s.sequence + 1)
  refine ⟨[frame], ?_⟩
  have hwritten : (bridgeStep s (.didWriteValue true)).1 = { s with writeInFlight := false } := by
    simp [bridgeStep, bridgeBody, didWriteValue, h.crashed, h.pending, pumpOperation]
  simp only [bridgeMachine, Machine.runFrom_cons, Machine.runFrom_nil, hwritten]
  simp [bridgeStep, bridgeBody, send, h.crashed, h.state, h.pending, h.session, h.writeInFlight,
    nextSequence, nextRequest, hframe, start, pumpOperation, begun, begunOperation, h.peripheral,
    h.rx]

/-- The acknowledgement of the pending operation completes it. -/
theorem ack_begun {s : BridgeSession} (h : Ready s) (frames : List Bytes) (nextFrame : Nat) :
    bridgeStep (begun s frames nextFrame) (.ack uuid (s.sequence + 1) (ascii "APPLIED")) =
      ({ begun s frames nextFrame with
          timers := s.cancelTimer s.operationTimeoutTask
          operationTimeoutTask := none
          pendingOperation := none }, [.completed s.requests true]) := by
  have haccepts : accepts (ascii "APPLIED") (.control .enter) = true := by decide
  simp [bridgeStep, bridgeBody, handleAck, begun, begunOperation, h.crashed, h.session, h.opening,
    haccepts, applied, finishPendingOperation, completion, dropOperationTimeout, cancelTimer]

/-- A control, its acknowledgement and its end leave the session ready. -/
theorem cycle_ready {s : BridgeSession} (h : Ready s) :
    Ready (bridgeMachine.runFrom s (cycle (s.sequence + 1))) ∧
      (bridgeMachine.runFrom s (cycle (s.sequence + 1))).sequence = s.sequence + 1 ∧
      (bridgeMachine.runFrom s (cycle (s.sequence + 1))).requests = s.requests + 1 := by
  obtain ⟨frames, hsent⟩ := send_written h
  have hrun : bridgeMachine.runFrom s (cycle (s.sequence + 1)) =
      (bridgeStep (begun s frames 1) (.ack uuid (s.sequence + 1) (ascii "APPLIED"))).1 := by
    rw [← hsent]
    rfl
  rw [hrun, ack_begun h]
  exact ⟨⟨h.crashed, h.state, rfl, h.peripheral, h.rx, h.session, h.opening, h.writeInFlight⟩,
    rfl, rfl⟩

/-- The induction over such cycles. -/
theorem cycles_ready (n : Nat) {s : BridgeSession} (h : Ready s) :
    Ready (bridgeMachine.runFrom s (cycles n (s.sequence + 1))) ∧
      (bridgeMachine.runFrom s (cycles n (s.sequence + 1))).sequence =
        s.sequence + UInt32.ofNat n ∧
      s.requests ≤ (bridgeMachine.runFrom s (cycles n (s.sequence + 1))).requests := by
  induction n generalizing s with
  | zero => exact ⟨h, by simp [cycles], le_rfl⟩
  | succ n ih =>
      obtain ⟨hready, hsequence, hrequests⟩ := cycle_ready h
      obtain ⟨hready', hsequence', hrequests'⟩ := ih hready
      rw [hsequence] at hready' hsequence' hrequests'
      rw [cycles, Machine.runFrom_append]
      refine ⟨hready', ?_, by omega⟩
      rw [hsequence', Nat.add_comm n 1, UInt32.ofNat_add, ← UInt32.add_assoc]
      rfl

/-- The session is opened; the first operation is written and times out,
the second is acknowledged before the callback of its write. -/
def openedOnce : List BridgeEvent :=
  [.didUpdateState true, .connect, .didDiscover 0, .didConnect uuid,
    .didDiscoverCharacteristics (.found true true), .didUpdateNotification true,
    .didWriteValue true, .ack uuid 0 (ascii "OPENED"), .send .enter, .didWriteValue true, .wake 1,
    .send .enter, .ack uuid 2 (ascii "APPLIED")]

theorem openedOnce_ready : Ready (bridgeMachine.run openedOnce) := by
  constructor <;> decide +kernel

/-- The operation that times out in `openedOnce`. -/
def firstOperation : Operation := ⟨uuid, 1, .control .enter, 0, 1⟩

/-- When the counter is back at zero the next operation has the sequence
number of the first, whose acknowledgement completes it. -/
theorem ack_wrapped {pre : List BridgeEvent} (hready : Ready (bridgeMachine.run pre))
    (hzero : (bridgeMachine.run pre).sequence = 0) :
    ∃ pending : PendingOperation,
      (bridgeMachine.run (pre ++ [.send .enter])).pendingOperation = some pending ∧
      pending.nextFrame = 0 ∧ pending.request = (bridgeMachine.run pre).requests ∧
      .completed pending.request true ∈ (bridgeMachine.step
        (bridgeMachine.run (pre ++ [.send .enter]))
        (.ack firstOperation.session firstOperation.sequence (ascii "APPLIED"))).2 := by
  obtain ⟨frames, hsent⟩ := send_ready hready
  have hrun : bridgeMachine.run (pre ++ [.send .enter]) =
      begun (bridgeMachine.run pre) frames 0 := by
    rw [Machine.run_concat]
    exact hsent
  have hack := ack_begun hready frames 0
  rw [hzero] at hack
  rw [hrun]
  refine ⟨begunOperation (bridgeMachine.run pre) frames 0, rfl, rfl, rfl, ?_⟩
  change _ ∈ (bridgeStep _ _).2
  rw [show firstOperation.sequence = 0 + 1 from rfl, show firstOperation.session = uuid from rfl,
    hack]
  exact List.mem_singleton.mpr rfl

/-- **An acknowledgement of an earlier operation completes a later one**:
the first operation timed out, 2³² sequence numbers were drawn since, and
its acknowledgement completes an operation of which nothing is written. -/
theorem late_ack_completes_later :
    ∃ (pre : List BridgeEvent) (earlier : Operation) (pending : PendingOperation),
      .began earlier ∈ bridgeMachine.trace pre ∧
      .completed earlier.request false ∈ bridgeMachine.trace pre ∧
      (bridgeMachine.run pre).pendingOperation = some pending ∧ pending.nextFrame = 0 ∧
      pending.request ≠ earlier.request ∧
      .completed pending.request true ∈ (bridgeMachine.step (bridgeMachine.run pre)
        (.ack earlier.session earlier.sequence (ascii "APPLIED"))).2 := by
  have hsequence : (bridgeMachine.run openedOnce).sequence = 2 := by decide +kernel
  have hrequests : (bridgeMachine.run openedOnce).requests = 2 := by decide +kernel
  have hbegan : .began firstOperation ∈ bridgeMachine.trace openedOnce := by decide +kernel
  have htimeout : .completed firstOperation.request false ∈ bridgeMachine.trace openedOnce := by
    decide +kernel
  obtain ⟨hready, hwrapped, hmade⟩ := cycles_ready (2 ^ 32 - 2) openedOnce_ready
  generalize cycles (2 ^ 32 - 2) _ = es at hready hwrapped hmade
  rw [← Machine.run_append] at hready hwrapped hmade
  rw [hsequence] at hwrapped
  rw [hrequests] at hmade
  obtain ⟨pending, hpending, hframe, hrequest, hcompleted⟩ := ack_wrapped hready hwrapped
  have hold : ∀ x ∈ bridgeMachine.trace openedOnce,
      x ∈ bridgeMachine.trace (openedOnce ++ es ++ [.send .enter]) := by
    intro x hx
    rw [Machine.trace_append, Machine.trace_append]
    exact List.mem_append_left _ (List.mem_append_left _ hx)
  have hne : pending.request ≠ firstOperation.request := by
    rw [hrequest]
    exact Nat.ne_of_gt (Nat.lt_of_lt_of_le (by decide) hmade)
  exact ⟨_, firstOperation, pending, hold _ hbegan, hold _ htimeout, hpending, hframe, hne,
    hcompleted⟩

end Bootmux.Iphone
