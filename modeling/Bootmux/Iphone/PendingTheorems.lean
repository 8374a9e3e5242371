/-
Bootmux.Iphone.PendingTheorems — what a step of the iPhone's keyboard
session does to its operations.

`bridgeStep_moves` is the inversion of a step: it does nothing, turns a
request down, begins an operation, or ends the pending one by one of the
events of `Ends`. The timers have an invariant of their own, `TimersOk`:
a task that is not cancelled is the one the session holds and was armed
for the pending operation.

The module is what the theorems about completions and credentials start
from. The lemmas go through the functions of the session once, from the
smallest ones on: what arms or cancels a timer, what finishes or fails the
pending operation, what begins one. That a request is turned down while
another one is pending is seen here, and so is that an operation ends at
most once.
-/
import Bootmux.Iphone.BridgeSession

namespace Bootmux.Iphone

open Bootmux.Bmx1 (Bytes ascii)
open Bootmux.Lib

namespace BridgeSession

/-- The pending operation without its frames. -/
def current (s : BridgeSession) : Option Operation := s.pendingOperation.map (·.toOperation)

/-! ## Timers -/

/-- The task `i` was armed for `request` and is not cancelled. -/
def Live (s : BridgeSession) (i request : Nat) : Prop :=
  s.timers[i]? = some (some (.operation request false))

/-- A task that is not cancelled is the one the session holds, and was
armed for the pending operation. -/
def TimersOk (s : BridgeSession) : Prop :=
  ∀ i request, s.Live i request →
    s.operationTimeoutTask = some i ∧ s.current.map (·.request) = some request

/-- The two sessions have the same operations, and no task is live in
the second that is not in the first. -/
structure Unmoved (s s' : BridgeSession) : Prop where
  current : s'.current = s.current
  requests : s'.requests = s.requests
  drawn : s'.drawn = s.drawn
  sequence : s'.sequence = s.sequence
  task : s'.operationTimeoutTask = s.operationTimeoutTask
  live : ∀ i request, s'.Live i request → s.Live i request

theorem Unmoved.timersOk {s s' : BridgeSession} (h : Unmoved s s') (hs : s.TimersOk) :
    s'.TimersOk := by
  intro i request hi
  rw [h.task, h.current]
  exact hs i request (h.live i request hi)

/-- A task that is live after one was cancelled is another one. -/
theorem live_cancelTimer {s : BridgeSession} {task : Option Nat} {i request : Nat}
    (h : (s.cancelTimer task)[i]? = some (some (.operation request false))) :
    s.Live i request ∧ task ≠ some i := by
  cases task with
  | none => exact ⟨h, nofun⟩
  | some j =>
      simp only [cancelTimer, List.getElem?_modify] at h
      by_cases hj : j = i
      · subst hj
        cases hi : s.timers[j]? with
        | none => simp [hi] at h
        | some timer => cases timer with
          | none => simp [hi] at h
          | some timer => cases timer <;> simp [hi, Timer.cancel] at h
      · refine ⟨?_, fun h' => hj (Option.some.inj h')⟩
        cases hi : s.timers[i]? with
        | none => simp [hi] at h
        | some timer => simpa [hi, hj, Live] using h

/-- The timeout of the opening is not one of an operation. -/
theorem unmoved_dropOpenTimeout (s : BridgeSession) : Unmoved s s.dropOpenTimeout :=
  ⟨rfl, rfl, rfl, rfl, rfl, fun _ _ h => (live_cancelTimer h).1⟩

/-- The task of `OPEN` is not one of an operation. -/
theorem unmoved_armOpenTimeout (s : BridgeSession) : Unmoved s s.armOpenTimeout := by
  refine ⟨rfl, rfl, rfl, rfl, rfl, fun i request hi => ?_⟩
  change (s.dropOpenTimeout.timers ++ _)[i]? = _ at hi
  rw [List.getElem?_append] at hi
  split at hi
  · exact (live_cancelTimer hi).1
  · obtain ⟨hlt, hval⟩ := List.getElem?_eq_some_iff.mp hi
    simp only [List.length_singleton, Nat.lt_one_iff] at hlt
    simp [hlt] at hval

/-- A dropped timeout does not fire. -/
theorem not_live_dropOperationTimeout {s : BridgeSession} (hs : s.TimersOk) (i request : Nat) :
    ¬ s.dropOperationTimeout.Live i request := by
  intro h
  obtain ⟨hi, htask⟩ := live_cancelTimer h
  exact htask (hs i request hi).1

/-- Without a live timer the timers are in order. -/
theorem timersOk_of_not_live {s : BridgeSession} (h : ∀ i request, ¬ s.Live i request) :
    s.TimersOk :=
  fun i request hi => absurd hi (h i request)

/-- A session that armed the timeout of its pending operation. -/
theorem timersOk_armOperationTimeout {s : BridgeSession} {operation : Operation}
    (hs : s.TimersOk) (h : s.current = some operation) :
    (s.armOperationTimeout operation.request).TimersOk := by
  intro i request hi
  have hold := not_live_dropOperationTimeout hs i request
  change (s.dropOperationTimeout.timers ++ _)[i]? = _ at hi
  rw [List.getElem?_append] at hi
  split at hi
  · exact absurd hi hold
  · rename_i hlen
    obtain ⟨hlt, hval⟩ := List.getElem?_eq_some_iff.mp hi
    simp only [List.length_singleton] at hlt
    have hiq : i = s.dropOperationTimeout.timers.length := by omega
    subst hiq
    simp only [Nat.sub_self, List.getElem_cons_zero, Option.some.injEq, Timer.operation.injEq,
      and_true] at hval
    refine ⟨rfl, ?_⟩
    change s.current.map _ = _
    rw [h, ← hval]
    rfl

/-! ## What a step does to the operations -/

end BridgeSession

open BridgeSession

/-- An effect that begins an operation or calls a completion. -/
def BridgeEffect.marks : BridgeEffect → Bool
  | .began _ | .completed _ _ => true
  | _ => false

/-- The event that ends an operation in the session `s`, with the value
its completion is called with. -/
inductive Ends (s : BridgeSession) (operation : Operation) : BridgeEvent → Bool → Prop
  | ack {result : Bytes} {success : Bool} (h : success = true → accepts result operation.kind) :
      Ends s operation (.ack operation.session operation.sequence result) success
  | wake {i request : Nat} (h : s.Live i request) : Ends s operation (.wake i) false
  | write : Ends s operation (.didWriteValue false) false
  | disconnect : Ends s operation .disconnect false
  | didDisconnect (peripheral : Nat) : Ends s operation (.didDisconnect peripheral) false

/-- What the event `e` does to the operations of the session `s`; the
last index is what is seen of it. -/
inductive Moves (s : BridgeSession) (e : BridgeEvent) (s' : BridgeSession) :
    List BridgeEffect → Prop
  | idle (hcurrent : s'.current = s.current) (hrequests : s'.requests = s.requests)
      (hdrawn : s'.drawn = s.drawn) (hsequence : s'.sequence = s.sequence) : Moves s e s' []
  | rejected (n : Nat) (he : ∀ i, e ≠ .wake i) (hcurrent : s'.current = s.current)
      (hrequests : s'.requests = s.requests + 1) (hdrawn : s'.drawn = s.drawn + n)
      (hsequence : s'.sequence = s.sequence + UInt32.ofNat n) :
      Moves s e s' [.completed s.requests false]
  | started (operation : Operation) (he : ∀ i, e ≠ .wake i) (hnone : s.current = none)
      (hcurrent : s'.current = some operation) (hrequest : operation.request = s.requests)
      (hordinal : operation.ordinal = s.drawn + 1) (hop : operation.sequence = s.sequence + 1)
      (hrequests : s'.requests = s.requests + 1) (hdrawn : s'.drawn = s.drawn + 1)
      (hsequence : s'.sequence = s.sequence + 1) : Moves s e s' [.began operation]
  | finished (operation : Operation) (success : Bool) (he : Ends s operation e success)
      (hpending : s.current = some operation) (hcurrent : s'.current = none)
      (hrequests : s'.requests = s.requests) (hdrawn : s'.drawn = s.drawn)
      (hsequence : s'.sequence = s.sequence) :
      Moves s e s' [.completed operation.request success]

/-- A result of the event `e` in the session `s`, with its timers. -/
def MovesTo (s : BridgeSession) (e : BridgeEvent) (r : BridgeSession × List BridgeEffect) : Prop :=
  Moves s e r.1 (r.2.filter BridgeEffect.marks) ∧ (s.TimersOk → r.1.TimersOk)

namespace BridgeSession

variable {s s₀ : BridgeSession} {e : BridgeEvent}

/-- A step that moves nothing, with effects that are not of operations. -/
theorem Unmoved.movesTo {s' : BridgeSession} {fx : List BridgeEffect} (h : Unmoved s s')
    (hfx : fx.filter BridgeEffect.marks = []) : MovesTo s e (s', fx) := by
  refine ⟨?_, h.timersOk⟩
  rw [hfx]
  exact .idle h.current h.requests h.drawn h.sequence

theorem Unmoved.refl (s : BridgeSession) : Unmoved s s :=
  ⟨rfl, rfl, rfl, rfl, rfl, fun _ _ h => h⟩

theorem Unmoved.trans {s₁ s₂ : BridgeSession} (h₁ : Unmoved s s₁) (h₂ : Unmoved s₁ s₂) :
    Unmoved s s₂ where
  current := h₂.current.trans h₁.current
  requests := h₂.requests.trans h₁.requests
  drawn := h₂.drawn.trans h₁.drawn
  sequence := h₂.sequence.trans h₁.sequence
  task := h₂.task.trans h₁.task
  live i request h := h₁.live i request (h₂.live i request h)

/-- A step before does not change how the operation ends. -/
theorem ends_of_unmoved {s₁ : BridgeSession} {operation : Operation} {success : Bool}
    (h : Unmoved s s₁) (he : Ends s₁ operation e success) : Ends s operation e success := by
  cases he with
  | ack hresult => exact .ack hresult
  | wake hlive => exact .wake (h.live _ _ hlive)
  | write => exact .write
  | disconnect => exact .disconnect
  | didDisconnect peripheral => exact .didDisconnect peripheral

/-- A step that first changes what is not of operations. -/
theorem Unmoved.andThen {s₁ : BridgeSession} {r : BridgeSession × List BridgeEffect}
    (h : Unmoved s s₁) (hr : MovesTo s₁ e r) : MovesTo s e r := by
  refine ⟨?_, fun hs => hr.2 (h.timersOk hs)⟩
  have hm := hr.1
  generalize r.2.filter BridgeEffect.marks = fx at hm
  cases hm with
  | idle hcurrent hrequests hdrawn hsequence =>
      exact .idle (hcurrent.trans h.current) (hrequests.trans h.requests)
        (hdrawn.trans h.drawn) (hsequence.trans h.sequence)
  | rejected n he hcurrent hrequests hdrawn hsequence =>
      rw [h.requests]
      exact .rejected n he (hcurrent.trans h.current) (by rw [hrequests, h.requests])
        (by rw [hdrawn, h.drawn]) (by rw [hsequence, h.sequence])
  | started operation he hnone hcurrent hrequest hordinal hop hrequests hdrawn hsequence =>
      exact .started operation he (h.current ▸ hnone) hcurrent (by rw [hrequest, h.requests])
        (by rw [hordinal, h.drawn]) (by rw [hop, h.sequence]) (by rw [hrequests, h.requests])
        (by rw [hdrawn, h.drawn]) (by rw [hsequence, h.sequence])
  | finished operation success he hpending hcurrent hrequests hdrawn hsequence =>
      exact .finished operation success (ends_of_unmoved h he) (h.current ▸ hpending) hcurrent
        (hrequests.trans h.requests) (hdrawn.trans h.drawn) (hsequence.trans h.sequence)

/-! ## Requests -/

/-- Writing the next frame, or arming the timeout after the last one. -/
theorem pumpOperation_idle (s : BridgeSession) :
    s.pumpOperation.1.current = s.current ∧ s.pumpOperation.1.requests = s.requests ∧
      s.pumpOperation.1.drawn = s.drawn ∧ s.pumpOperation.1.sequence = s.sequence ∧
      (s.TimersOk → s.pumpOperation.1.TimersOk) ∧
      s.pumpOperation.2.filter BridgeEffect.marks = [] := by
  unfold pumpOperation
  split
  · exact ⟨rfl, rfl, rfl, rfl, id, rfl⟩
  · rename_i operation hop
    split
    · exact ⟨rfl, rfl, rfl, rfl, id, rfl⟩
    · split
      · refine ⟨rfl, rfl, rfl, rfl, fun hs => ?_, rfl⟩
        have hcurrent : s.current = some operation.toOperation := by rw [current, hop]; rfl
        exact timersOk_armOperationTimeout hs hcurrent
      · have hcurrent : s.current = some operation.toOperation := by rw [current, hop]; rfl
        refine ⟨hcurrent.symm, rfl, rfl, rfl, fun hs i request hi => ?_, rfl⟩
        obtain ⟨htask, hrequest⟩ := hs i request hi
        refine ⟨htask, ?_⟩
        rw [hcurrent] at hrequest
        exact hrequest

/-- The next frame is a move of the operation under way. -/
theorem pumpOperation_movesTo (s : BridgeSession) (e : BridgeEvent) :
    MovesTo s e s.pumpOperation := by
  obtain ⟨hcurrent, hrequests, hdrawn, hsequence, htimers, hfx⟩ := pumpOperation_idle s
  refine ⟨?_, htimers⟩
  rw [hfx]
  exact .idle hcurrent hrequests hdrawn hsequence

/-- A request that is turned down before a sequence number is drawn. -/
theorem reject_movesTo (he : ∀ i, e ≠ .wake i) : MovesTo s e s.reject :=
  ⟨.rejected 0 he rfl rfl rfl (by simp [reject, nextRequest]), id⟩

/-- A request that is turned down after a sequence number was drawn. -/
theorem reject_nextSequence_movesTo (he : ∀ i, e ≠ .wake i) :
    MovesTo s e s.nextSequence.reject :=
  ⟨.rejected 1 he rfl rfl rfl rfl, id⟩

/-- A session without a pending operation has no live task, and one that
is armed while the operation begins is for that operation. -/
theorem start_movesTo (he : ∀ i, e ≠ .wake i) (hnone : s.pendingOperation = none)
    (kind : BLEOperationKind) (frames : List Bytes) :
    MovesTo s e (s.nextSequence.start kind frames) := by
  have hcurrent : s.current = none := by rw [current, hnone]; rfl
  unfold start
  generalize hs₁ : ({ s.nextSequence.nextRequest with pendingOperation := _ } : BridgeSession) = s₁
  obtain ⟨hcurrent₁, hrequests, hdrawn, hsequence, htimers, hfx⟩ := pumpOperation_idle s₁
  subst hs₁
  refine ⟨?_, fun hs => htimers ?_⟩
  · rw [List.filter_cons_of_pos rfl, hfx]
    exact .started _ he hcurrent hcurrent₁ rfl rfl rfl hrequests hdrawn hsequence
  · refine timersOk_of_not_live fun i request hi => ?_
    obtain ⟨-, hrequest⟩ := hs i request hi
    rw [hcurrent] at hrequest
    cases hrequest

theorem sendText_movesTo (he : ∀ i, e ≠ .wake i) (text : Bytes) :
    MovesTo s e (s.sendText text) := by
  unfold sendText
  split
  · exact reject_movesTo he
  · split
    · exact reject_movesTo he
    · rename_i hready
      dsimp only
      split
      · exact reject_nextSequence_movesTo he
      · exact start_movesTo he (by simpa using fun h => hready (.inr (.inl h))) _ _

theorem send_movesTo (he : ∀ i, e ≠ .wake i) (control : BLEControl) :
    MovesTo s e (s.send control) := by
  unfold send
  split
  · exact reject_movesTo he
  · rename_i hready
    dsimp only
    split
    · exact reject_nextSequence_movesTo he
    · exact start_movesTo he (by simpa using fun h => hready (.inr h)) _ _

theorem provisionWiFi_movesTo (he : ∀ i, e ≠ .wake i) (ssid password : Bytes) :
    MovesTo s e (s.provisionWiFi ssid password) := by
  unfold provisionWiFi
  split
  · exact reject_movesTo he
  · rename_i hready
    split
    · exact reject_movesTo he
    · dsimp only
      split
      · exact reject_nextSequence_movesTo he
      · have hcredentials :
            Unmoved s { s with pendingWiFiCredentials := some (ssid, password) } :=
          ⟨rfl, rfl, rfl, rfl, rfl, fun _ _ h => h⟩
        exact hcredentials.andThen
          (start_movesTo he (by simpa using fun h => hready (.inr (.inl h))) _ _)

theorem startWiFiControl_movesTo (he : ∀ i, e ≠ .wake i) (kind : BLEOperationKind)
    (frameBuilder : Bytes → UInt32 → Except BLEProtocolError Bytes) :
    MovesTo s e (s.startWiFiControl kind frameBuilder) := by
  unfold startWiFiControl
  split
  · exact reject_movesTo he
  · rename_i hready
    dsimp only
    split
    · exact reject_nextSequence_movesTo he
    · exact start_movesTo he (by simpa using fun h => hready (.inr h)) _ _

theorem attemptAutoProvision_movesTo (he : ∀ i, e ≠ .wake i) (epoch : UInt32) :
    MovesTo s e (s.attemptAutoProvision epoch) := by
  unfold attemptAutoProvision
  split
  · exact (Unmoved.refl s).movesTo rfl
  · have htried : Unmoved s
        { s with attemptedProvisionEpochs := epoch :: s.attemptedProvisionEpochs } :=
      ⟨rfl, rfl, rfl, rfl, rfl, fun _ _ h => h⟩
    dsimp only
    split
    · exact htried.movesTo rfl
    · exact htried.andThen (provisionWiFi_movesTo he _ _)

/-! ## The ends of an operation -/

theorem finishPendingOperation_movesTo {s₁ : BridgeSession} {operation : Operation}
    {success : Bool} (h : Unmoved s s₁) (hpending : s.current = some operation)
    (he : Ends s operation e success) : MovesTo s e (s₁.finishPendingOperation success) := by
  obtain ⟨pending, hp, rfl⟩ := Option.map_eq_some_iff.mp (h.current.trans hpending)
  refine ⟨?_, fun hs => timersOk_of_not_live (not_live_dropOperationTimeout (h.timersOk hs))⟩
  simp only [finishPendingOperation, completion, hp]
  exact .finished pending.toOperation success he hpending rfl h.requests h.drawn h.sequence

theorem failPendingOperation_movesTo {s₁ : BridgeSession} (h : Unmoved s s₁)
    (he : ∀ operation, s.current = some operation → Ends s operation e false) :
    MovesTo s e s₁.failPendingOperation := by
  unfold failPendingOperation
  split
  · exact h.movesTo rfl
  · rename_i operation hop
    have hcurrent : s.current = some operation.toOperation := by
      rw [← h.current, current, hop]; rfl
    exact finishPendingOperation_movesTo h hcurrent (he _ hcurrent)

/-- The connection is forgotten, by a request or by a callback. -/
theorem forget_movesTo {s' : BridgeSession} {fx : List BridgeEffect}
    (hcurrent : s'.current = none) (htimers : s'.timers = s.forget.timers)
    (hrequests : s'.requests = s.requests) (hdrawn : s'.drawn = s.drawn)
    (hsequence : s'.sequence = s.sequence) (hfx : fx.filter BridgeEffect.marks = [])
    (he : ∀ operation, Ends s operation e false) :
    MovesTo s e (s', s.completion false ++ fx) := by
  refine ⟨?_, fun hs => timersOk_of_not_live fun i request hi => ?_⟩
  · rw [List.filter_append, hfx, List.append_nil]
    cases hp : s.pendingOperation with
    | none =>
        simp only [completion, hp]
        refine .idle ?_ hrequests hdrawn hsequence
        rw [hcurrent, current, hp]
        rfl
    | some operation =>
        simp only [completion, hp]
        refine .finished operation.toOperation false (he _) ?_ hcurrent hrequests hdrawn hsequence
        rw [current, hp]
        rfl
  · unfold Live at hi
    rw [htimers] at hi
    exact not_live_dropOperationTimeout hs i request
      ((unmoved_dropOpenTimeout s.dropOperationTimeout).live i request hi)

theorem disconnect_movesTo : MovesTo s .disconnect s.disconnect := by
  refine forget_movesTo rfl rfl rfl rfl rfl ?_ fun _ => .disconnect
  unfold cancelConnection
  split <;> rfl

theorem didDisconnect_movesTo (peripheral : Nat) :
    MovesTo s (.didDisconnect peripheral) (s.didDisconnect peripheral) := by
  unfold didDisconnect
  split
  · exact (Unmoved.refl s).movesTo rfl
  · split
    · exact Unmoved.movesTo ⟨rfl, rfl, rfl, rfl, rfl, fun _ _ h => h⟩ rfl
    · unfold cleanupTransportFailure
      rw [← List.append_nil (s.completion false)]
      exact forget_movesTo rfl rfl rfl rfl rfl rfl fun _ => .didDisconnect peripheral

theorem didWriteValue_movesTo (ok : Bool) :
    MovesTo s (.didWriteValue ok) (s.didWriteValue ok) := by
  have hwritten : Unmoved s { s with writeInFlight := false } :=
    ⟨rfl, rfl, rfl, rfl, rfl, fun _ _ h => h⟩
  cases ok with
  | true => exact hwritten.andThen (pumpOperation_movesTo _ _)
  | false =>
      simp only [didWriteValue, Bool.false_eq_true, if_false]
      refine failPendingOperation_movesTo ?_ fun _ _ => .write
      split
      · exact (hwritten.trans (unmoved_dropOpenTimeout _)).trans
          ⟨rfl, rfl, rfl, rfl, rfl, fun _ _ h => h⟩
      · exact hwritten.trans ⟨rfl, rfl, rfl, rfl, rfl, fun _ _ h => h⟩

theorem unmoved_applied (s : BridgeSession) (kind : BLEOperationKind) :
    Unmoved s (s.applied kind) := by
  unfold applied
  split <;> exact ⟨rfl, rfl, rfl, rfl, rfl, fun _ _ h => h⟩

/-- An acknowledgement that is looked at is one of the pending operation,
or opens the session and may make a request. -/
theorem handleAck_movesTo (session : Bytes) (sequence : UInt32) (result : Bytes) :
    MovesTo s (.ack session sequence result) (s.handleAck session sequence result) := by
  unfold handleAck
  split
  · exact (Unmoved.refl s).movesTo rfl
  · split
    · have hopened : Unmoved s { s.dropOpenTimeout with opening := false, state := .on } :=
        (unmoved_dropOpenTimeout s).trans ⟨rfl, rfl, rfl, rfl, rfl, fun _ _ h => h⟩
      exact hopened.andThen (attemptAutoProvision_movesTo (by simp) _)
    · split
      · exact (Unmoved.refl s).movesTo rfl
      · rename_i operation hop
        have hcurrent : s.current = some operation.toOperation := by rw [current, hop]; rfl
        split
        · exact (Unmoved.refl s).movesTo rfl
        · rename_i hsame
          obtain ⟨rfl, rfl⟩ : operation.session = session ∧ operation.sequence = sequence := by
            simpa using hsame
          split
          · split
            · exact finishPendingOperation_movesTo (.refl s) hcurrent (.ack (nomatch ·))
            · rename_i haccepts
              exact finishPendingOperation_movesTo (unmoved_applied s _) hcurrent
                (.ack fun _ => by simpa using haccepts)
          · split
            · rename_i hresumed
              split
              · exact finishPendingOperation_movesTo (.refl s) hcurrent (.ack (nomatch ·))
              · rename_i hkind
                refine finishPendingOperation_movesTo ⟨rfl, rfl, rfl, rfl, rfl, fun _ _ h => h⟩
                  hcurrent (.ack fun _ => ?_)
                simpa [accepts, hresumed] using hkind
            · split
              · rename_i hstopped
                refine finishPendingOperation_movesTo ⟨rfl, rfl, rfl, rfl, rfl, fun _ _ h => h⟩
                  hcurrent (.ack fun hstop => ?_)
                have hne : ascii "STOPPED" ≠ ascii "RESUMED" := by decide
                simpa [accepts, hstopped, hne] using hstop
              · exact (Unmoved.refl s).movesTo rfl

theorem handleNetwork_movesTo (session : Bytes) (sequence : UInt32) (state : BLENetworkState) :
    MovesTo s e (s.handleNetwork session sequence state) := by
  unfold handleNetwork
  split
  · exact (Unmoved.refl s).movesTo rfl
  · split
    · exact (Unmoved.refl s).movesTo rfl
    · dsimp only
      split <;> exact Unmoved.movesTo ⟨rfl, rfl, rfl, rfl, rfl, fun _ _ h => h⟩ rfl

theorem handleProxy_movesTo (he : ∀ i, e ≠ .wake i) (session : Bytes) (state : BLEProxyState)
    (endpoint : Option Bytes) (epoch : Option UInt32) :
    MovesTo s e (s.handleProxy session state endpoint epoch) := by
  unfold handleProxy
  dsimp only
  split
  · exact (Unmoved.refl s).movesTo rfl
  · split
    · exact (Unmoved.refl s).movesTo rfl
    · split
      · refine Unmoved.andThen ?_ (attemptAutoProvision_movesTo he _)
        exact ⟨rfl, rfl, rfl, rfl, rfl, fun _ _ h => h⟩
      · exact Unmoved.movesTo ⟨rfl, rfl, rfl, rfl, rfl, fun _ _ h => h⟩ rfl

theorem didUpdateNotification_movesTo (ok : Bool) :
    MovesTo s e (s.didUpdateNotification ok) := by
  unfold didUpdateNotification
  split
  · exact (Unmoved.refl s).movesTo rfl
  · dsimp only
    split
    · exact Unmoved.movesTo ⟨rfl, rfl, rfl, rfl, rfl, fun _ _ h => h⟩ rfl
    · split
      · exact Unmoved.movesTo ⟨rfl, rfl, rfl, rfl, rfl, fun _ _ h => h⟩ rfl
      · have hopening : Unmoved s { s with opening := true, writeInFlight := true } :=
          ⟨rfl, rfl, rfl, rfl, rfl, fun _ _ h => h⟩
        exact (hopening.trans (unmoved_armOpenTimeout _)).movesTo rfl

theorem failOpening_movesTo : MovesTo s e s.failOpening := by
  unfold failOpening
  split
  · exact (Unmoved.refl s).movesTo rfl
  · split
    · exact Unmoved.movesTo ⟨rfl, rfl, rfl, rfl, rfl, fun _ _ h => h⟩ rfl
    · exact Unmoved.movesTo
        ((unmoved_dropOpenTimeout s).trans ⟨rfl, rfl, rfl, rfl, rfl, fun _ _ h => h⟩) rfl

/-- A task wakes up once; one that is live was armed for the pending
operation. -/
theorem wake_movesTo (i : Nat) : MovesTo s (.wake i) (s.wake i) := by
  unfold wake
  split
  · exact (Unmoved.refl s).movesTo rfl
  · rename_i timer htimer
    have hat : s.timers[i]? = some (some timer) := Option.join_eq_some_iff.mp htimer
    have hwoken : Unmoved s { s with timers := s.timers.set i none } := by
      refine ⟨rfl, rfl, rfl, rfl, rfl, fun j request hj => ?_⟩
      simp only [Live, List.getElem?_set] at hj
      split at hj
      · split at hj <;> simp at hj
      · exact hj
    dsimp only
    split
    · rename_i request cancelled
      cases cancelled with
      | true => exact hwoken.movesTo rfl
      | false => exact failPendingOperation_movesTo hwoken fun _ _ => .wake hat
    · split
      · exact hwoken.movesTo rfl
      · exact hwoken.andThen failOpening_movesTo

theorem bridgeBody_movesTo (s : BridgeSession) (e : BridgeEvent) :
    MovesTo s e (bridgeBody s e) := by
  have hsame : ∀ s' : BridgeSession, Unmoved s s' → MovesTo s e (s', []) :=
    fun _ h => h.movesTo rfl
  cases e with
  | connect =>
      refine hsame _ ?_
      unfold connect
      split
      · exact ⟨rfl, rfl, rfl, rfl, rfl, fun _ _ h => h⟩
      · split <;> exact ⟨rfl, rfl, rfl, rfl, rfl, fun _ _ h => h⟩
  | disconnect => exact disconnect_movesTo
  | sendText text => exact sendText_movesTo (by simp) text
  | send control => exact send_movesTo (by simp) control
  | provisionWiFi ssid password => exact provisionWiFi_movesTo (by simp) ssid password
  | requestWiFiStatus => exact startWiFiControl_movesTo (by simp) _ _
  | clearWiFi => exact startWiFiControl_movesTo (by simp) _ _
  | requestProxyStatus => exact startWiFiControl_movesTo (by simp) _ _
  | forgetSavedWiFi => exact hsame _ ⟨rfl, rfl, rfl, rfl, rfl, fun _ _ h => h⟩
  | didUpdateState poweredOn =>
      refine hsame _ ?_
      unfold didUpdateState
      split <;> exact ⟨rfl, rfl, rfl, rfl, rfl, fun _ _ h => h⟩
  | didDiscover peripheral =>
      refine hsame _ ?_
      unfold didDiscover
      split <;> exact ⟨rfl, rfl, rfl, rfl, rfl, fun _ _ h => h⟩
  | maximumWrite bytes => exact hsame _ ⟨rfl, rfl, rfl, rfl, rfl, fun _ _ h => h⟩
  | didConnect session => exact hsame _ ⟨rfl, rfl, rfl, rfl, rfl, fun _ _ h => h⟩
  | didDisconnect peripheral => exact didDisconnect_movesTo peripheral
  | didDiscoverCharacteristics found =>
      refine hsame _ ?_
      unfold didDiscoverCharacteristics
      split
      · exact ⟨rfl, rfl, rfl, rfl, rfl, fun _ _ h => h⟩
      · exact ⟨rfl, rfl, rfl, rfl, rfl, fun _ _ h => h⟩
      · dsimp only
        split <;> exact ⟨rfl, rfl, rfl, rfl, rfl, fun _ _ h => h⟩
  | didUpdateNotification ok => exact didUpdateNotification_movesTo ok
  | didWriteValue ok => exact didWriteValue_movesTo ok
  | ack session sequence result => exact handleAck_movesTo session sequence result
  | network session sequence state => exact handleNetwork_movesTo session sequence state
  | proxy session state endpoint epoch =>
      exact handleProxy_movesTo (by simp) session state endpoint epoch
  | wake timer => exact wake_movesTo timer

end BridgeSession

/-- **One step** moves the operation as it should. -/
theorem bridgeStep_moves (s : BridgeSession) (e : BridgeEvent) : MovesTo s e (bridgeStep s e) := by
  unfold bridgeStep
  split
  · exact (Unmoved.refl s).movesTo rfl
  · exact bridgeBody_movesTo s e

end Bootmux.Iphone
