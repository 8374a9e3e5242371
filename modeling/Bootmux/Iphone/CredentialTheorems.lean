/-
Bootmux.Iphone.CredentialTheorems — which credentials the iPhone's keyboard
session saves.

The pair of a provisioning waits for any `WIFI_ONLINE` from when its frames
begin to be written. It stays there when the operation fails, and is taken
while the operation is still pending, so that a pair that the router never
applied can be saved (`unproven_saved`). Where neither happens (`Orderly`), a
pair is saved only after its own operation was acknowledged as `APPLIED`
(`saves_are_proven`).

What a step does to the pair is one of few things (`Credentials`), and only
one of them saves it. The invariant (`Waiting`) says whose pair it is: that
of the pending operation, or one whose operation was acknowledged. `Orderly`
is on the state before the step and on the event: a provisioning does not
end without `APPLIED`, and no `WIFI_ONLINE` comes before it.
-/
import Bootmux.Iphone.CompletionTheorems

namespace Bootmux.Iphone

open Bootmux.Bmx1 (Bytes ascii)
open Bootmux.Lib
open BridgeSession

/-! ## What a step does to the credentials -/

/-- An effect that neither saves nor begins to provision. -/
def BridgeEffect.quiet : BridgeEffect → Bool
  | .saved .. => false
  | .began operation => operation.kind ≠ .wifiProvision
  | _ => true

/-- The pending operation provisions this pair: its frames are those of the
pair's payload. -/
def Provisions (s : BridgeSession) (operation : Operation) (pair : Bytes × Bytes) : Prop :=
  ∃ pending, s.pendingOperation = some pending ∧ pending.toOperation = operation ∧
    operation.kind = .wifiProvision ∧
      ∃ payload maximum, wifiPayload pair.1 pair.2 = .ok payload ∧
        wifiFrames maximum operation.session operation.sequence payload = .ok pending.frames

/-- What provisions is the operation under way. -/
theorem Provisions.current {s : BridgeSession} {operation : Operation} {pair : Bytes × Bytes}
    (h : Provisions s operation pair) : s.current = some operation := by
  obtain ⟨pending, hpending, rfl, -⟩ := h
  rw [BridgeSession.current, hpending]
  rfl

/-- What a result of the session `s` has become of the credentials that wait. -/
inductive Credentials (s : BridgeSession) (r : BridgeSession × List BridgeEffect) : Prop
  | kept (hsame : r.1.pendingWiFiCredentials = s.pendingWiFiCredentials)
      (hquiet : r.2.all BridgeEffect.quiet = true)
  | dropped (hnone : r.1.pendingWiFiCredentials = none)
      (hquiet : r.2.all BridgeEffect.quiet = true)
  | begun (operation : Operation) (pair : Bytes × Bytes)
      (hwaits : r.1.pendingWiFiCredentials = some pair) (hbegan : .began operation ∈ r.2)
      (hprovisions : Provisions r.1 operation pair)
      (hsaved : ∀ ssid password, .saved ssid password ∉ r.2)

theorem Credentials.of_same {s s₁ : BridgeSession} {r : BridgeSession × List BridgeEffect}
    (hr : Credentials s₁ r) (h : s₁.pendingWiFiCredentials = s.pendingWiFiCredentials) :
    Credentials s r := by
  cases hr with
  | kept hsame hquiet => exact .kept (hsame.trans h) hquiet
  | dropped hnone hquiet => exact .dropped hnone hquiet
  | begun operation pair hwaits hbegan hprovisions hsaved =>
      exact .begun operation pair hwaits hbegan hprovisions hsaved

namespace BridgeSession

variable {s : BridgeSession}

theorem completion_quiet (s : BridgeSession) (success : Bool) :
    (s.completion success).all BridgeEffect.quiet = true := by
  unfold completion
  split <;> rfl

/-- Sending the next frame leaves the credentials. -/
theorem pumpOperation_credentials (s : BridgeSession) :
    s.pumpOperation.1.pendingWiFiCredentials = s.pendingWiFiCredentials ∧
      (s.pumpOperation.2.all BridgeEffect.quiet = true ∧
        ∀ effect ∈ s.pumpOperation.2, ∃ frame, effect = .wrote frame) ∧
      s.pumpOperation.1.pendingOperation.map (fun p => (p.toOperation, p.frames)) =
        s.pendingOperation.map fun p => (p.toOperation, p.frames) := by
  unfold pumpOperation
  split
  · next h => exact ⟨rfl, ⟨rfl, by simp⟩, by rw [h]⟩
  · next operation h =>
      split
      · exact ⟨rfl, ⟨rfl, by simp⟩, by rw [h]⟩
      · split
        · exact ⟨rfl, ⟨rfl, by simp⟩, rfl⟩
        · exact ⟨rfl, ⟨rfl, by simp⟩, by rw [h]; rfl⟩

theorem reject_credentials : Credentials s s.reject := .kept rfl rfl

/-- An operation of another kind. -/
theorem start_credentials {kind : BLEOperationKind} (hkind : kind ≠ .wifiProvision)
    (frames : List Bytes) : Credentials s (s.start kind frames) := by
  unfold start
  generalize hs : ({ s.nextRequest with pendingOperation := _ } : BridgeSession) = s₁
  obtain ⟨hsame, ⟨hquiet, -⟩, -⟩ := pumpOperation_credentials s₁
  subst hs
  refine .kept hsame ?_
  rw [List.all_cons, hquiet]
  simpa [BridgeEffect.quiet] using hkind

/-- Starting provisions with the pair that was typed. -/
theorem start_provision {ssid password payload : Bytes} {frames : List Bytes} {maximum : Int}
    (hpayload : wifiPayload ssid password = .ok payload)
    (hframes : wifiFrames maximum s.sessionID s.sequence payload = .ok frames) :
    Credentials s (({ s with pendingWiFiCredentials := some (ssid, password) } :
      BridgeSession).start .wifiProvision frames) := by
  let operation : Operation := ⟨s.sessionID, s.sequence, .wifiProvision, s.requests, s.drawn⟩
  let s₁ : BridgeSession := { s.nextRequest with
    pendingWiFiCredentials := some (ssid, password)
    pendingOperation := some ⟨operation, frames, 0⟩ }
  show Credentials s (s₁.pumpOperation.1, .began operation :: s₁.pumpOperation.2)
  obtain ⟨hsame, ⟨-, hwrote⟩, hpending⟩ := pumpOperation_credentials s₁
  obtain ⟨pending, hp, heq⟩ := Option.map_eq_some_iff.mp hpending
  obtain ⟨hoperation, hpframes⟩ := Prod.mk.inj heq
  refine .begun operation (ssid, password) hsame List.mem_cons_self
    ⟨pending, hp, hoperation, rfl, payload, maximum, hpayload, by rw [hpframes]; exact hframes⟩ ?_
  intro ssid' password' hmem
  rcases List.mem_cons.mp hmem with h | h
  · cases h
  · obtain ⟨frame, hframe⟩ := hwrote _ h
    cases hframe

theorem sendText_credentials (text : Bytes) : Credentials s (s.sendText text) := by
  unfold sendText
  split
  · exact reject_credentials
  · split
    · exact reject_credentials
    · dsimp only
      split
      · exact reject_credentials.of_same rfl
      · exact (start_credentials (by simp) _).of_same rfl

theorem send_credentials (control : BLEControl) : Credentials s (s.send control) := by
  unfold send
  split
  · exact reject_credentials
  · dsimp only
    split
    · exact reject_credentials.of_same rfl
    · exact (start_credentials (by simp) _).of_same rfl

theorem provisionWiFi_credentials (ssid password : Bytes) :
    Credentials s (s.provisionWiFi ssid password) := by
  unfold provisionWiFi
  split
  · exact reject_credentials
  · split
    · exact reject_credentials
    · next payload hpayload =>
        dsimp only
        split
        · exact reject_credentials.of_same rfl
        · next frames hframes => exact (start_provision hpayload hframes).of_same rfl

theorem startWiFiControl_credentials {kind : BLEOperationKind} (hkind : kind ≠ .wifiProvision)
    (frameBuilder : Bytes → UInt32 → Except BLEProtocolError Bytes) :
    Credentials s (s.startWiFiControl kind frameBuilder) := by
  unfold startWiFiControl
  split
  · exact reject_credentials
  · dsimp only
    split
    · exact reject_credentials.of_same rfl
    · exact (start_credentials hkind _).of_same rfl

theorem attemptAutoProvision_credentials (epoch : UInt32) :
    Credentials s (s.attemptAutoProvision epoch) := by
  unfold attemptAutoProvision
  split
  · exact .kept rfl rfl
  · dsimp only
    split
    · exact .kept rfl rfl
    · exact (provisionWiFi_credentials _ _).of_same rfl

theorem finishPendingOperation_credentials (success : Bool) :
    Credentials s (s.finishPendingOperation success) :=
  .kept rfl (completion_quiet s success)

theorem failPendingOperation_credentials : Credentials s s.failPendingOperation := by
  unfold failPendingOperation
  split
  · exact .kept rfl rfl
  · exact finishPendingOperation_credentials false

theorem disconnect_credentials : Credentials s s.disconnect := by
  refine .dropped rfl ?_
  rw [disconnect, List.all_append, completion_quiet]
  unfold cancelConnection
  split <;> rfl

theorem didDisconnect_credentials (peripheral : Nat) :
    Credentials s (s.didDisconnect peripheral) := by
  unfold didDisconnect
  split
  · exact .kept rfl rfl
  · split
    · exact .kept rfl rfl
    · exact .dropped rfl (completion_quiet s false)

theorem didUpdateNotification_credentials (ok : Bool) :
    Credentials s (s.didUpdateNotification ok) := by
  unfold didUpdateNotification
  split
  · exact .kept rfl rfl
  · dsimp only
    split
    · exact .kept rfl rfl
    · split <;> exact .kept rfl rfl

theorem didWriteValue_credentials (ok : Bool) : Credentials s (s.didWriteValue ok) := by
  unfold didWriteValue
  dsimp only
  split
  · obtain ⟨hsame, ⟨hquiet, -⟩, -⟩ := pumpOperation_credentials { s with writeInFlight := false }
    exact .kept hsame hquiet
  · refine failPendingOperation_credentials.of_same ?_
    split <;> rfl

theorem failOpening_credentials : Credentials s s.failOpening := by
  unfold failOpening
  split
  · exact .kept rfl rfl
  · split <;> exact .kept rfl rfl

theorem handleAck_credentials (session : Bytes) (sequence : UInt32) (result : Bytes) :
    Credentials s (s.handleAck session sequence result) := by
  unfold handleAck
  split
  · exact .kept rfl rfl
  split
  · exact (attemptAutoProvision_credentials _).of_same rfl
  split
  · exact .kept rfl rfl
  split
  · exact .kept rfl rfl
  split
  · split
    · exact finishPendingOperation_credentials false
    · refine (finishPendingOperation_credentials true).of_same ?_
      unfold applied
      split <;> rfl
  split
  · split
    · exact finishPendingOperation_credentials false
    · exact (finishPendingOperation_credentials true).of_same rfl
  split
  · exact (finishPendingOperation_credentials _).of_same rfl
  · exact .kept rfl rfl

theorem handleProxy_credentials (session : Bytes) (state : BLEProxyState)
    (endpoint : Option Bytes) (epoch : Option UInt32) :
    Credentials s (s.handleProxy session state endpoint epoch) := by
  unfold handleProxy
  dsimp only
  split
  · exact .kept rfl rfl
  split
  · exact .kept rfl rfl
  split
  · exact (attemptAutoProvision_credentials _).of_same rfl
  · exact .kept rfl rfl

theorem wake_credentials (i : Nat) : Credentials s (s.wake i) := by
  unfold wake
  split
  · exact .kept rfl rfl
  · dsimp only
    split
    · split
      · exact .kept rfl rfl
      · exact failPendingOperation_credentials.of_same rfl
    · split
      · exact .kept rfl rfl
      · exact failOpening_credentials.of_same rfl

end BridgeSession

/-- `WIFI_ONLINE` is taken in. -/
def Online (s : BridgeSession) : BridgeEvent → Prop
  | .network session number .online =>
      s.crashed = false ∧ session = s.sessionID ∧ s.lastNetworkSequence ≤ number
  | _ => False

/-- A session that hears of the network runs. -/
theorem Online.running {s : BridgeSession} {e : BridgeEvent} (h : Online s e) :
    s.crashed = false := by
  unfold Online at h
  split at h
  · exact h.1
  · cases h

/-- The credentials that wait are saved by a `WIFI_ONLINE` and by nothing else. -/
theorem bridgeStep_credentials (s : BridgeSession) (e : BridgeEvent) :
    Credentials s (bridgeStep s e) ∨ Online s e ∧ ∃ pair, s.pendingWiFiCredentials = some pair ∧
      (bridgeStep s e).1.pendingWiFiCredentials = none ∧
      (bridgeStep s e).2 = [.saved pair.1 pair.2] := by
  unfold bridgeStep
  split
  · exact .inl (.kept rfl rfl)
  next hcrashed =>
  cases e with
  | network session sequence state =>
      simp only [bridgeBody, handleNetwork]
      split
      · exact .inl (.kept rfl rfl)
      next hsession =>
      split
      · exact .inl (.kept rfl rfl)
      next hsequence =>
      split
      · next pair hpair =>
          refine .inr ⟨⟨by simpa using hcrashed, by simpa using hsession, ?_⟩, pair, hpair,
            rfl, rfl⟩
          exact UInt32.not_lt.mp hsequence
      · exact .inl (.kept rfl rfl)
  | connect =>
      refine .inl (.kept ?_ rfl)
      show (s.connect).pendingWiFiCredentials = s.pendingWiFiCredentials
      unfold connect
      split
      · rfl
      · split <;> rfl
  | didDiscover peripheral =>
      refine .inl (.kept ?_ rfl)
      show (s.didDiscover peripheral).pendingWiFiCredentials = s.pendingWiFiCredentials
      unfold didDiscover
      split <;> rfl
  | didUpdateState poweredOn =>
      refine .inl (.kept ?_ rfl)
      show (s.didUpdateState poweredOn).pendingWiFiCredentials = s.pendingWiFiCredentials
      unfold didUpdateState
      split <;> rfl
  | didDiscoverCharacteristics found =>
      refine .inl (.kept ?_ rfl)
      show (s.didDiscoverCharacteristics found).pendingWiFiCredentials = s.pendingWiFiCredentials
      unfold didDiscoverCharacteristics
      split
      · rfl
      · rfl
      · dsimp only
        split <;> rfl
  | forgetSavedWiFi => exact .inl (.dropped rfl rfl)
  | maximumWrite bytes => exact .inl (.kept rfl rfl)
  | didConnect session => exact .inl (.kept rfl rfl)
  | disconnect => exact .inl disconnect_credentials
  | sendText text => exact .inl (sendText_credentials text)
  | send control => exact .inl (send_credentials control)
  | provisionWiFi ssid password => exact .inl (provisionWiFi_credentials ssid password)
  | requestWiFiStatus => exact .inl (startWiFiControl_credentials (by simp) _)
  | clearWiFi => exact .inl (startWiFiControl_credentials (by simp) _)
  | requestProxyStatus => exact .inl (startWiFiControl_credentials (by simp) _)
  | didDisconnect peripheral => exact .inl (didDisconnect_credentials peripheral)
  | didUpdateNotification ok => exact .inl (didUpdateNotification_credentials ok)
  | didWriteValue ok => exact .inl (didWriteValue_credentials ok)
  | ack session sequence result => exact .inl (handleAck_credentials session sequence result)
  | proxy session state endpoint epoch =>
      exact .inl (handleProxy_credentials session state endpoint epoch)
  | wake timer => exact .inl (wake_credentials timer)

/-! ## The end of a provisioning -/

/-- The task `i` is a timeout of an operation that is not cancelled. -/
def TimesOut (s : BridgeSession) (i : Nat) : Bool :=
  match s.timers[i]?.join with
  | some (.operation _ cancelled) => !cancelled
  | _ => false

/-- The event ends `operation` otherwise than by `APPLIED`, and leaves its
credentials waiting. -/
def EndsUnapplied (s : BridgeSession) (operation : Operation) : BridgeEvent → Prop
  | .ack session number result => session = s.sessionID ∧ session = operation.session ∧
      number = operation.sequence ∧ result ∈ [ascii "DUPLICATE", ascii "RESUMED", ascii "STOPPED"]
  | .didWriteValue ok => ok = false
  | .wake i => TimesOut s i = true
  | _ => False

/-- The pending provisioning `operation` is acknowledged as applied. -/
def AppliedAt (s : BridgeSession) (operation : Operation) (e : BridgeEvent) : Prop :=
  s.current = some operation ∧
    e = .ack operation.session operation.sequence (ascii "APPLIED") ∧
    .completed operation.request true ∈ (bridgeStep s e).2

/-- An acknowledgement leaves the provisioning, or is its own and ends it. -/
theorem handleAck_provision {s : BridgeSession} {operation : Operation}
    (hcurrent : s.current = some operation) (hkind : operation.kind = .wifiProvision)
    (session : Bytes) (sequence : UInt32) (result : Bytes) :
    (s.handleAck session sequence result).1.current = s.current ∨
      session = operation.session ∧ sequence = operation.sequence ∧
        (EndsUnapplied s operation (.ack session sequence result) ∨
          result = ascii "APPLIED" ∧
            (s.handleAck session sequence result).2 = [.completed operation.request true]) := by
  obtain ⟨pending, hpending, rfl⟩ := Option.map_eq_some_iff.mp hcurrent
  unfold handleAck
  split
  · exact .inl rfl
  next hsession =>
  rw [ne_eq, not_not] at hsession
  split
  · refine .inl ?_
    simp [attemptAutoProvision, hpending, dropOpenTimeout, BridgeSession.current]
  simp only [hpending]
  split
  · exact .inl rfl
  next hmatch =>
  simp only [ne_eq, not_or, not_not] at hmatch
  have hunapplied : result ∈ [ascii "DUPLICATE", ascii "RESUMED", ascii "STOPPED"] →
      EndsUnapplied s pending.toOperation (.ack session sequence result) := fun h =>
    ⟨hsession, hmatch.1.symm, hmatch.2.symm, h⟩
  split
  · next hresult =>
      rcases hresult with rfl | rfl
      · refine .inr ⟨hmatch.1.symm, hmatch.2.symm, .inr ⟨rfl, ?_⟩⟩
        have haccepts : accepts (ascii "APPLIED") .wifiProvision = true := by decide
        simp [haccepts, applied, hkind, finishPendingOperation, completion, hpending]
      · exact .inr ⟨hmatch.1.symm, hmatch.2.symm, .inl (hunapplied (by simp))⟩
  next happlied =>
  split
  · next hresult =>
      exact .inr ⟨hmatch.1.symm, hmatch.2.symm, .inl (hunapplied (by simp [hresult]))⟩
  split
  · next hresult =>
      exact .inr ⟨hmatch.1.symm, hmatch.2.symm, .inl (hunapplied (by simp [hresult]))⟩
  · exact .inl rfl

/-- How a pending provisioning whose credentials wait comes to its end. -/
theorem provision_ends {s : BridgeSession} {operation : Operation} {e : BridgeEvent}
    (hcurrent : s.current = some operation) (hkind : operation.kind = .wifiProvision) :
    (bridgeStep s e).1.current = s.current ∨ s.crashed = false ∧ EndsUnapplied s operation e ∨
      AppliedAt s operation e ∨ (bridgeStep s e).1.pendingWiFiCredentials = none := by
  by_cases hcrashed : s.crashed = true
  · exact .inl (by rw [bridgeStep, if_pos hcrashed])
  have hbody : bridgeStep s e = bridgeBody s e := by rw [bridgeStep, if_neg hcrashed]
  rw [Bool.not_eq_true] at hcrashed
  have hmoves := (bridgeStep_moves s e).1
  generalize hfx : (bridgeStep s e).2.filter BridgeEffect.marks = fx at hmoves
  cases hmoves with
  | idle h => exact .inl h
  | rejected n he h => exact .inl h
  | started op he hnone =>
      rw [hnone] at hcurrent
      cases hcurrent
  | finished op success hends hpending =>
      obtain rfl : op = operation := Option.some.inj (hpending.symm.trans hcurrent)
      cases hends with
      | @wake i request hlive =>
          have htimer : s.timers[i]? = some (some (.operation request false)) := hlive
          exact .inr (.inl ⟨hcrashed, by simp [EndsUnapplied, TimesOut, htimer]⟩)
      | write => exact .inr (.inl ⟨hcrashed, rfl⟩)
      | disconnect => exact .inr (.inr (.inr (by rw [hbody]; rfl)))
      | didDisconnect peripheral =>
          rw [hbody]
          show (s.didDisconnect peripheral).1.current = s.current ∨ _ ∨ _ ∨
            (s.didDisconnect peripheral).1.pendingWiFiCredentials = none
          unfold didDisconnect
          split
          · exact .inl rfl
          · split
            · exact .inl rfl
            · exact .inr (.inr (.inr rfl))
      | @ack result =>
          rcases handleAck_provision hcurrent hkind op.session op.sequence result with
            hsame | ⟨-, -, hunapplied | ⟨rfl, hfx⟩⟩
          · exact .inl (by rw [hbody]; exact hsame)
          · exact .inr (.inl ⟨hcrashed, hunapplied⟩)
          · refine .inr (.inr (.inl ⟨hcurrent, rfl, ?_⟩))
            rw [hbody]
            show _ ∈ (s.handleAck _ _ _).2
            rw [hfx]
            exact List.mem_singleton_self _

/-! ## Runs -/

/-- The step at which `operation` begins to provision the pair. -/
def Starts (before : List BridgeEvent) (e : BridgeEvent) (operation : Operation)
    (pair : Bytes × Bytes) : Prop :=
  .began operation ∈ (bridgeStep (bridgeMachine.run before) e).2 ∧
    Provisions (bridgeMachine.run (before ++ [e])) operation pair

/-- No provisioning begins in these steps. -/
def NoProvisioning (s : BridgeSession) (es : List BridgeEvent) : Prop :=
  ∀ operation, .began operation ∈ bridgeMachine.traceFrom s es → operation.kind ≠ .wifiProvision

/-- An operation with exactly this pair was acknowledged as applied, and no
other provisioning was started since it began. -/
def Proven (es : List BridgeEvent) (pair : Bytes × Bytes) : Prop :=
  ∃ before e mid ack after operation, es = before ++ e :: (mid ++ ack :: after) ∧
    Starts before e operation pair ∧
    AppliedAt (bridgeMachine.run (before ++ e :: mid)) operation ack ∧
    NoProvisioning (bridgeMachine.run (before ++ [e])) (mid ++ ack :: after)

/-- A pair is saved when `WIFI_ONLINE` comes after that. -/
def SavesProven (es : List BridgeEvent) : Prop :=
  ∀ before e after ssid password, es = before ++ e :: after →
    .saved ssid password ∈ (bridgeMachine.step (bridgeMachine.run before) e).2 →
      Online (bridgeMachine.run before) e ∧ Proven before (ssid, password)

/-- While credentials wait, their operation is not ended but by `APPLIED`, and
`WIFI_ONLINE` does not come in before. -/
def Orderly (s : BridgeSession) (e : BridgeEvent) : Prop :=
  s.crashed = false → s.pendingWiFiCredentials ≠ none → ∀ operation ∈ s.current,
    operation.kind = .wifiProvision → ¬Online s e ∧ ¬EndsUnapplied s operation e

instance (s : BridgeSession) : (e : BridgeEvent) → Decidable (Online s e) := fun e => by
  unfold Online
  split <;> infer_instance

instance (s : BridgeSession) (operation : Operation) :
    (e : BridgeEvent) → Decidable (EndsUnapplied s operation e) := fun e => by
  unfold EndsUnapplied
  split <;> infer_instance

instance (s : BridgeSession) (e : BridgeEvent) : Decidable (Orderly s e) :=
  inferInstanceAs (Decidable (_ → _ → ∀ operation ∈ s.current, _))

/-- The pair that waits after `es`: its operation is pending, or was applied. -/
def Waiting (es : List BridgeEvent) (pair : Bytes × Bytes) : Prop :=
  (∃ before e rest operation, es = before ++ e :: rest ∧ Starts before e operation pair ∧
    NoProvisioning (bridgeMachine.run (before ++ [e])) rest ∧
    (bridgeMachine.run es).current = some operation) ∨ Proven es pair

/-- One more quiet step. -/
theorem noProvisioning_concat {s : BridgeSession} {es : List BridgeEvent} {e : BridgeEvent}
    (h : NoProvisioning s es)
    (hquiet : (bridgeStep (bridgeMachine.runFrom s es) e).2.all BridgeEffect.quiet = true) :
    NoProvisioning s (es ++ [e]) := by
  intro operation hmem
  rw [Machine.traceFrom_append, List.mem_append] at hmem
  rcases hmem with hmem | hmem
  · exact h operation hmem
  · have hstep : .began operation ∈ (bridgeStep (bridgeMachine.runFrom s es) e).2 := by
      rwa [Machine.traceFrom_cons, Machine.traceFrom_nil, List.append_nil] at hmem
    simpa [BridgeEffect.quiet] using List.all_eq_true.mp hquiet _ hstep

/-- What one step keeps. -/
theorem waiting_step {es : List BridgeEvent} {e : BridgeEvent}
    (h : ∀ pair, (bridgeMachine.run es).pendingWiFiCredentials = some pair → Waiting es pair)
    (horderly : Orderly (bridgeMachine.run es) e) {pair : Bytes × Bytes}
    (hpair : (bridgeMachine.run (es ++ [e])).pendingWiFiCredentials = some pair) :
    Waiting (es ++ [e]) pair := by
  rw [Machine.run_concat] at hpair
  rcases bridgeStep_credentials (bridgeMachine.run es) e with hcredentials | ⟨-, -, -, hnone, -⟩
  · cases hcredentials with
    | kept hsame hquiet =>
        have hwaits : (bridgeMachine.run es).pendingWiFiCredentials = some pair :=
          hsame.symm.trans hpair
        rcases h pair hwaits with ⟨before, e₀, rest, operation, rfl, hstarts, hnone, hcurrent⟩ |
          hproven
        · have hquiet' := @noProvisioning_concat _ rest _ hnone (by
            rwa [← Machine.run_append, List.append_assoc, List.singleton_append])
          obtain ⟨pending, -, -, hkind, -⟩ := hstarts.2
          rcases provision_ends (e := e) hcurrent hkind with
            hstill | ⟨hcrashed, hends⟩ | happlied | hgone
          · refine .inl ⟨before, e₀, rest ++ [e], operation, by simp, hstarts, hquiet', ?_⟩
            rw [Machine.run_concat]
            exact hstill.trans hcurrent
          · exact absurd hends (horderly hcrashed (by simp [hwaits]) operation hcurrent hkind).2
          · exact .inr ⟨before, e₀, rest, e, [], operation, by simp, hstarts, happlied, hquiet'⟩
          · exact absurd (hgone.symm.trans hpair) (by simp)
        · obtain ⟨before, e₀, mid, ack, after, operation, rfl, hstarts, happlied, hnone⟩ := hproven
          have hquiet' := @noProvisioning_concat _ (mid ++ ack :: after) _ hnone (by
            rwa [← Machine.run_append, List.append_assoc, List.singleton_append])
          refine .inr ⟨before, e₀, mid, ack, after ++ [e], operation, by simp, hstarts,
            happlied, ?_⟩
          simpa using hquiet'
    | dropped hnone => exact absurd (hnone.symm.trans hpair) (by simp)
    | begun operation pair' hwaits hbegan hprovisions hsaved =>
        obtain rfl : pair' = pair := Option.some.inj (hwaits.symm.trans hpair)
        refine .inl ⟨es, e, [], operation, rfl, ⟨hbegan, ?_⟩, by simp [NoProvisioning], ?_⟩
        · rw [Machine.run_concat]
          exact hprovisions
        · rw [Machine.run_concat]
          exact hprovisions.current
  · exact absurd (hnone.symm.trans hpair) (by simp)

/-- The induction over an orderly run. -/
theorem waiting_run {es : List BridgeEvent}
    (horderly : bridgeMachine.AllSteps Orderly bridgeMachine.init es) (pair : Bytes × Bytes)
    (hpair : (bridgeMachine.run es).pendingWiFiCredentials = some pair) : Waiting es pair := by
  induction es using List.reverseRecOn generalizing pair with
  | nil => cases hpair
  | append_singleton es e ih =>
      exact waiting_step (ih (bridgeMachine.allSteps_left horderly))
        (bridgeMachine.allSteps_last horderly) hpair

/-- **Only proven credentials are saved**, as long as a provisioning ends with
`APPLIED` before the router is online. -/
theorem saves_are_proven (es : List BridgeEvent)
    (horderly : bridgeMachine.AllSteps Orderly bridgeMachine.init es) : SavesProven es := by
  rintro before e after ssid password rfl hsaved
  have hbefore := bridgeMachine.allSteps_left horderly
  have horder : Orderly (bridgeMachine.run before) e :=
    ((bridgeMachine.allSteps_iff_split _ _ _).mp horderly) before e after rfl
  rcases bridgeStep_credentials (bridgeMachine.run before) e with
    hcredentials | ⟨honline, pair, hwaits, -, hfx⟩
  · cases hcredentials with
    | kept hsame hquiet => cases List.all_eq_true.mp hquiet _ hsaved
    | dropped hnone hquiet => cases List.all_eq_true.mp hquiet _ hsaved
    | begun operation pair hwaits hbegan hprovisions hnever =>
        exact absurd hsaved (hnever ssid password)
  · have hpair : (ssid, password) = pair := by
      have hmem : .saved ssid password ∈ (bridgeStep (bridgeMachine.run before) e).2 := hsaved
      rw [hfx, List.mem_singleton, BridgeEffect.saved.injEq] at hmem
      exact Prod.ext hmem.1 hmem.2
    subst hpair
    rcases waiting_run hbefore _ hwaits with
      ⟨start, e₀, rest, operation, rfl, ⟨-, hprovisions⟩, -, hcurrent⟩ | hproven
    · obtain ⟨pending, -, -, hkind, -⟩ := hprovisions
      exact absurd honline (horder honline.running (by simp [hwaits]) operation hcurrent hkind).1
    · exact ⟨honline, hproven⟩

/-- A session is opened, and the credentials of a network are written. -/
def provisioned : List BridgeEvent :=
  [.didUpdateState true, .connect, .didDiscover 0, .maximumWrite 500, .didConnect uuid,
    .didDiscoverCharacteristics (.found true true), .didUpdateNotification true,
    .didWriteValue true, .ack uuid 0 (ascii "OPENED"),
    .provisionWiFi (ascii "home") (ascii "password"), .didWriteValue true]

/-- The hypothesis is met by a pair that is provisioned, applied and saved. -/
theorem applied_saved :
    bridgeMachine.AllSteps Orderly bridgeMachine.init
        (provisioned ++ [.ack uuid 1 (ascii "APPLIED"), .network uuid 1 .online]) ∧
      .saved (ascii "home") (ascii "password") ∈ bridgeMachine.trace
        (provisioned ++ [.ack uuid 1 (ascii "APPLIED"), .network uuid 1 .online]) ∧
      SavesProven (provisioned ++ [.ack uuid 1 (ascii "APPLIED"), .network uuid 1 .online]) := by
  have horderly : bridgeMachine.AllSteps Orderly bridgeMachine.init
      (provisioned ++ [.ack uuid 1 (ascii "APPLIED"), .network uuid 1 .online]) := by
    decide +kernel
  exact ⟨horderly, by decide +kernel, saves_are_proven _ horderly⟩

/-- A save at the last step rests on an acknowledgement before it. -/
theorem SavesProven.acknowledged {before : List BridgeEvent} {e : BridgeEvent}
    {ssid password : Bytes} (h : SavesProven (before ++ [e]))
    (hsaved : .saved ssid password ∈ (bridgeMachine.step (bridgeMachine.run before) e).2) :
    ∃ session sequence, .ack session sequence (ascii "APPLIED") ∈ before := by
  obtain ⟨-, before', e', mid, ack, after, operation, rfl, -, ⟨-, rfl, -⟩, -⟩ :=
    h before e [] ssid password rfl hsaved
  exact ⟨operation.session, operation.sequence, by simp⟩

/-- The acknowledgement does not come, and the router is online in another
network. -/
theorem unproven_saved :
    ¬SavesProven (provisioned ++ [.wake 1, .network uuid 1 .online]) := by
  intro hproven
  have hsplit : provisioned ++ [.wake 1, .network uuid 1 .online] =
      (provisioned ++ [.wake 1]) ++ [.network uuid 1 .online] := rfl
  have hsaved : .saved (ascii "home") (ascii "password") ∈ (bridgeMachine.step
      (bridgeMachine.run (provisioned ++ [.wake 1])) (.network uuid 1 .online)).2 := by
    decide +kernel
  rw [hsplit] at hproven
  obtain ⟨session, sequence, hmem⟩ := hproven.acknowledged hsaved
  have hne : ascii "APPLIED" ≠ ascii "OPENED" := by decide
  simp [provisioned, hne] at hmem

end Bootmux.Iphone
