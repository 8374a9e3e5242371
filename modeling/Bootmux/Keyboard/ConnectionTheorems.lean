/-
Bootmux.Keyboard.ConnectionTheorems — what is asked for on the iPhone is
typed once.

The frames of the iPhone are those of a plan (`sends_run`), what arrives of
them keeps its order (`heard_said`), and a bridge that is sent frames of a
plan executes operations of it in order (`executes_run`). The other way, an
acknowledgement the session takes is one the bridge gave (`Exchanged`,
`ack_of_notification`). Callbacks, timers, disconnections and losses come
at any time.

The machine of both ends is an instance of `Lib.Link`, whose rule asks for
one lemma per kind of step: an event of either end, a message that is heard,
and one that is lost. The sequence numbers are 32 bits wide, so the result
is about runs that draw fewer than 2³² of them.
-/
import Bootmux.Keyboard.SendTheorems
import Bootmux.Router.NotificationTheorems

namespace Bootmux.Keyboard

open Bootmux.Bmx1
open Bootmux.Lib
open Bootmux.Bridge (Plan Planned Executes frameOp place)

/-! ## What they hear -/

/-- An acknowledgement the session takes is a notification, and a frame the
bridge takes is a write. -/
structure Exchanged (s : connection.State) : Prop where
  acks : ∀ session q result, .ack session q result ∈ s.left → ∃ data ∈ s.heardLeft,
    Iphone.didUpdateValueFor data = some (.ack session q result)
  sessions : ∀ session, .didConnect session ∈ s.left → isUuid session = true
  written : Bridge.written s.right = s.heardRight.map cString

/-- The induction over a run of both ends. -/
theorem exchanged_run (es : List ConnectionEvent) : Exchanged (connection.run es) := by
  refine connection.rule (P := Exchanged) ?_ ?_ ?_ ?_ ?_ ?_ es
  · exact ⟨fun _ _ _ h => (nomatch h), fun _ h => (nomatch h), rfl⟩
  · intro s e h hown
    refine ⟨fun session q result hmem => ?_, fun session hmem => ?_, h.written⟩
    · rcases List.mem_append.mp hmem with hmem | hmem
      · exact h.acks session q result hmem
      · obtain rfl := List.mem_singleton.mp hmem
        cases hown
    · rcases List.mem_append.mp hmem with hmem | hmem
      · exact h.sessions session hmem
      · obtain rfl := List.mem_singleton.mp hmem
        exact hown
  · intro s e h hown
    refine ⟨h.acks, h.sessions, ?_⟩
    have hnone : Bridge.written [e] = [] := by
      cases e with
      | write bytes => cases hown
      | _ => rfl
    show Bridge.written (s.right ++ [e]) = _
    rw [Bridge.written, List.filterMap_append, ← Bridge.written, ← Bridge.written, hnone,
      List.append_nil, h.written]
    rfl
  · intro s i m rest h _ _
    have hevents : ∀ e, e ∈ phone.after s.left i m → e ∈ s.left ∨
        ∃ n, Iphone.didUpdateValueFor m = some n ∧ e = eventOf n := by
      intro e hmem
      rcases List.mem_append.mp hmem with hmem | hmem
      · exact .inl hmem
      · obtain ⟨n, hn, rfl⟩ := Option.map_eq_some_iff.mp (Option.mem_toList.mp hmem)
        exact .inr ⟨n, hn, rfl⟩
    refine ⟨fun session q result hmem => ?_, fun session hmem => ?_, h.written⟩
    · rcases hevents _ hmem with hmem | ⟨n, hn, he⟩
      · obtain ⟨data, hdata, hack⟩ := h.acks session q result hmem
        exact ⟨data, List.mem_append_left _ hdata, hack⟩
      · refine ⟨m, List.mem_append_right _ (List.mem_singleton_self m), ?_⟩
        cases n with
        | ack => cases he; exact hn
        | _ => cases he
    · rcases hevents _ hmem with hmem | ⟨n, -, he⟩
      · exact h.sessions session hmem
      · cases n <;> cases he
  · intro s i m rest h _ _
    refine ⟨h.acks, h.sessions, ?_⟩
    show Bridge.written (s.right ++ [.write m]) = (s.heardRight ++ [m]).map cString
    rw [Bridge.written, List.filterMap_append, ← Bridge.written, h.written, List.map_append]
    rfl
  · exact fun s h _ => ⟨h.acks, h.sessions, h.written⟩

/-- What the iPhone says is what it has written. -/
theorem said_phone (es : List Iphone.BridgeEvent) :
    phone.said es = writesOf (Iphone.bridgeMachine.trace es) := by
  show (Iphone.bridgeMachine.trace es).flatMap (fun effect => writesOf [effect]) = _
  induction Iphone.bridgeMachine.trace es with
  | nil => rfl
  | cons effect effects ih =>
      rw [List.flatMap_cons, ih, ← writesOf_append]
      rfl

/-- What the bridge says are its notifications. -/
theorem said_bridge {es : List Bridge.DeviceEvent} {data : Bytes} (h : data ∈ bridge.said es) :
    ∃ x ∈ Bridge.calls (Bridge.device.trace es), x.notification = some data := by
  obtain ⟨effect, heffect, hdata⟩ := List.mem_flatMap.mp h
  cases effect with
  | handling stamp => cases hdata
  | call x =>
      refine ⟨x, List.mem_filterMap.mpr ⟨.call x, heffect, rfl⟩, ?_⟩
      exact Option.mem_toList.mp hdata

/-! ## Acknowledgements -/

/-- A session id has no separator in it. -/
theorem plain_isUuid {session : Bytes} (h : isUuid session = true) :
    Router.PlainField session := fun c hc => by
  obtain ⟨hlow, hhigh⟩ := mem_isUuid h hc
  refine ⟨Nat.lt_of_le_of_lt hhigh (by decide), ?_⟩
  rintro rfl
  exact absurd hhigh (by decide)

/-- A session is 32 characters long. -/
theorem length_isUuid {session : Bytes} (h : isUuid session = true) : session.length = 32 := by
  rw [isUuid, Bool.and_eq_true, beq_iff_eq] at h
  exact h.1

/-- An acknowledgement is read as it was sent. -/
theorem ack_of_parseAck {data : Bytes} {session result : Bytes} {q : UInt32}
    (h : Iphone.didUpdateValueFor data = some (.ack session q result)) :
    Iphone.parseAck data = some (session, q, result) := by
  unfold Iphone.didUpdateValueFor at h
  split at h
  · next hack =>
      cases h
      exact hack
  · split at h
    · cases h
    · obtain ⟨event, -, hevent⟩ := Option.map_eq_some_iff.mp h
      cases hevent

/-- An error is no acknowledgement. -/
theorem parseAck_err {session : Bytes} (hsession : isUuid session = true) (q : UInt32)
    (code : Bridge.ErrorCode) :
    Iphone.parseAck (errBytes session q code.text) = none := by
  have hstart : ascii "BMX1|ERR|" = ascii "BMX1" ++ pipe :: (ascii "ERR" ++ [pipe]) := by decide
  have hbytes : errBytes session q code.text = [pipe].intercalate
      [ascii "BMX1", ascii "ERR", session, decimal q.toNat, ascii code.text] := by
    simp [errBytes, hstart, List.intercalate]
  have hfields : Iphone.notificationFields (errBytes session q code.text) = some
      [ascii "BMX1", ascii "ERR", session, decimal q.toNat, ascii code.text] := by
    rw [hbytes]
    refine Router.notificationFields_intercalate (List.cons_ne_nil _ _) ?_
    simp only [List.forall_mem_cons, List.not_mem_nil, false_imp_iff, implies_true, and_true]
    exact ⟨by decide, by decide, plain_isUuid hsession, Router.plain_decimal _,
      by cases code <;> decide⟩
  rw [Iphone.parseAck, hfields]
  exact if_neg fun h => absurd h.2 (by decide)

/-- What the session takes for an acknowledgement is one. -/
theorem ack_of_notification {x : Bridge.Effect} {data session result : Bytes} {q : UInt32}
    (hx : x.notification = some data)
    (hacks : ∀ session q result, x = .ack session q result → isUuid session = true)
    (herrs : ∀ session q code, x = .err session q code → isUuid session = true)
    (h : Iphone.didUpdateValueFor data = some (.ack session q result)) :
    ∃ answer : AckResult, x = .ack session q answer ∧ result = ascii answer.text := by
  cases x with
  | ack session' q' answer =>
      obtain rfl := Option.some.inj hx
      have hsession := hacks session' q' answer rfl
      obtain ⟨message, hmessage, -, -, hevent⟩ :=
        Router.ack_understood (plain_isUuid hsession) (length_isUuid hsession) q' answer
      obtain rfl := Option.some.inj hmessage
      cases hevent.symm.trans h
      exact ⟨answer, rfl, rfl⟩
  | err session' q' code =>
      obtain rfl := Option.some.inj hx
      have hnone := parseAck_err (herrs session' q' code rfl) q' code
      cases hnone.symm.trans (ack_of_parseAck h)
  | queueFull =>
      obtain rfl := Option.some.inj hx
      have hnone : Iphone.parseAck (ascii "BMX1|ERR|||queue_full") = none := by decide
      cases hnone.symm.trans (ack_of_parseAck h)
  | _ => cases hx

/-! ## Requests -/

/-- Every operation of a run is that of one request, and requests are
numbered in their order. -/
structure Numbered (reqs : List Request) (t : List Iphone.BridgeEffect) (s : Iphone.BridgeSession) :
    Prop where
  began : ∀ operation, .began operation ∈ t → ∃ r ∈ reqs, r.operation = operation
  below : ∀ r ∈ reqs, r.operation.request < s.requests
  sorted : reqs.Pairwise fun r r' => r.operation.request < r'.operation.request

/-- A request is an operation that an event has begun. -/
theorem mem_requestsOf {e : Iphone.BridgeEvent} {t : List Iphone.BridgeEffect} {r : Request} :
    r ∈ requestsOf e t ↔ .began r.operation ∈ t ∧ r.call = e := by
  rw [requestsOf, List.mem_filterMap]
  constructor
  · rintro ⟨effect, heffect, hr⟩
    cases effect with
    | began operation =>
        obtain rfl := Option.some.inj hr
        exact ⟨heffect, rfl⟩
    | _ => cases hr
  · rintro ⟨hbegan, rfl⟩
    exact ⟨_, hbegan, rfl⟩

/-- The induction: requests are numbered as they were made. -/
theorem numbered_run (es : List Iphone.BridgeEvent) :
    Numbered (requests es) (Iphone.bridgeMachine.trace es) (Iphone.bridgeMachine.run es) := by
  induction es using List.reverseRecOn with
  | nil => exact ⟨fun _ h => (nomatch h), fun _ h => (nomatch h), List.Pairwise.nil⟩
  | append_singleton es e ih =>
      rw [requests, Machine.gather_concat, ← requests, Machine.trace_concat, Machine.run_concat]
      have hbegan : ∀ operation,
          .began operation ∈ Iphone.bridgeMachine.trace es ++
            (Iphone.bridgeMachine.step (Iphone.bridgeMachine.run es) e).2 →
          ∃ r ∈ requests es ++ requestsOf e (Iphone.bridgeStep (Iphone.bridgeMachine.run es) e).2,
            r.operation = operation := by
        intro operation hmem
        rcases List.mem_append.mp hmem with hold | hnew
        · obtain ⟨r, hr, hoperation⟩ := ih.began operation hold
          exact ⟨r, List.mem_append_left _ hr, hoperation⟩
        · exact ⟨⟨operation, e⟩, List.mem_append_right _ (mem_requestsOf.mpr ⟨hnew, rfl⟩), rfl⟩
      obtain ⟨operation, hone, -, -, hrequest, -, -, hmore, -⟩ | ⟨hsame, hkept, -⟩ :=
        requestsOf_step (Iphone.bridgeMachine.run es) e
      case inr =>
        rw [hsame, List.append_nil] at hbegan ⊢
        exact ⟨hbegan, fun r hr => Nat.lt_of_lt_of_le (ih.below r hr) hkept, ih.sorted⟩
      case inl =>
        refine ⟨hbegan, fun r hr => ?_, ?_⟩
        · show _ < (Iphone.bridgeStep _ e).1.requests
          rw [hone] at hr
          rcases List.mem_append.mp hr with hr | hr
          · exact hmore ▸ Nat.lt_succ_of_lt (ih.below r hr)
          · obtain rfl := List.mem_singleton.mp hr
            rw [hmore, ← hrequest]
            exact Nat.lt_succ_self _
        · rw [hone, List.pairwise_append]
          refine ⟨ih.sorted, List.pairwise_singleton _ _, fun r hr r' hr' => ?_⟩
          obtain rfl := List.mem_singleton.mp hr'
          exact hrequest ▸ ih.below r hr

/-- A completion with success is for the acknowledgement of a request. -/
theorem acknowledged_of_completed {es : List Iphone.BridgeEvent} {r : Request}
    (hr : r ∈ requests es)
    (h : .completed r.operation.request true ∈ Iphone.bridgeMachine.trace es) :
    ∃ result, .ack r.operation.session r.operation.sequence result ∈ es ∧
      Iphone.accepts result r.operation.kind = true := by
  obtain ⟨pre, e, post, rfl, hstep⟩ := Iphone.bridgeMachine.mem_trace h
  obtain ⟨operation, result, hcurrent, hrequest, rfl, haccepts⟩ :=
    (Iphone.completedBy_step (Iphone.history_run pre) hstep).accepted rfl
  have hbegan := ((Iphone.history_run pre).latest operation hcurrent).1
  have hnumbered := numbered_run (pre ++ .ack operation.session operation.sequence result :: post)
  obtain ⟨r', hr', rfl⟩ := hnumbered.began operation (by
    rw [Machine.trace_append]
    exact List.mem_append_left _ (List.mem_filter.mp hbegan).1)
  have hnodup : ((requests _).map fun r => r.operation.request).Nodup :=
    hnumbered.sorted.map _ fun _ _ hlt => Nat.ne_of_lt hlt
  obtain rfl := List.inj_on_of_nodup_map hnodup hr' hr hrequest
  exact ⟨result, by simp, haccepts⟩

/-! ## Each request at most once, in order -/

/-- What follows a NUL is not read. -/
theorem frameOp_cString (frame : Bytes) : frameOp (cString frame) = frameOp frame := by
  rw [frameOp, frameOp, cString_of_nulFree (nulFree_cString frame)]

/-- So is its place in the plan. -/
theorem place_cString (frame : Bytes) : place (cString frame) = place frame := by
  rw [place, place, frameOp_cString]

/-- The frames that arrive are those of the plan. -/
theorem executes_connection (es : List ConnectionEvent) {plan : Plan} {reqs : List Request}
    {s : Iphone.BridgeSession}
    (hsends : Sends plan (writesOf (Iphone.bridgeMachine.trace (connection.run es).left)) reqs s) :
    ∃ done, Executes plan (isUuid · = true) (Bridge.handledFrames (connection.run es).right)
      (Bridge.calls (Bridge.device.trace (connection.run es).right))
      (Bridge.device.run (connection.run es).right).core done := by
  have hwritten := (exchanged_run es).written
  have hsub : (connection.run es).heardRight.Sublist
      (writesOf (Iphone.bridgeMachine.trace (connection.run es).left)) :=
    said_phone _ ▸ (List.sublist_append_left _ _).trans (connection.heard_said es).1
  have hplaces : (Bridge.written (connection.run es).right).filterMap place =
      (connection.run es).heardRight.filterMap place := by
    rw [hwritten, List.filterMap_map]
    exact List.filterMap_congr fun frame _ => place_cString frame
  refine Bridge.executes_run ?_ _ (fun bytes hbytes => ?_) ?_
  · cases hzero : plan 0 with
    | none => rfl
    | some w => exact absurd (hsends.known 0 w hzero).1 (by decide)
  · obtain ⟨frame, hframe, rfl⟩ := List.mem_map.mp (hwritten ▸ hbytes)
    obtain ⟨hhas, hsession⟩ := hsends.planned frame (hsub.subset hframe)
    exact ⟨fun op hop => hhas op (frameOp_cString frame ▸ hop),
      fun op hop => hsession op (frameOp_cString frame ▸ hop)⟩
  · rw [hplaces]
    exact hsends.ordered.sublist (hsub.filterMap place)

/-- **What is asked for is typed at most once, in order**: the keys the
keyboard presses are those of some of the requests, and the requests that
are completed with success are among them. -/
theorem typed_as_requested (es : List ConnectionEvent)
    (hdrawn : (Iphone.bridgeMachine.run (connection.run es).left).drawn < 2 ^ 32) :
    ∃ done : List Request, done.Sublist (requests (connection.run es).left) ∧
      Bridge.keysOf (Bridge.calls (Bridge.device.trace (connection.run es).right)) =
        done.flatMap Request.keys ∧
      ∀ r ∈ requests (connection.run es).left,
        .completed r.operation.request true ∈
          Iphone.bridgeMachine.trace (connection.run es).left → r ∈ done := by
  have hexchanged := exchanged_run es
  obtain ⟨plan, hsends⟩ := sends_run (connection.run es).left hexchanged.sessions hdrawn
  obtain ⟨done, hexecutes⟩ := executes_connection es hsends
  generalize hreqs : requests (connection.run es).left = reqs at hsends
  refine ⟨reqs.filter fun r => r.operation.sequence ∈ done, List.filter_sublist, ?_, ?_⟩
  · have hdone : done = (reqs.filter fun r => r.operation.sequence ∈ done).map
        fun r => r.operation.sequence := by
      refine hexecutes.ordered.eq_of_mem_iff ?_ fun q => ⟨fun hq => ?_, fun hq => ?_⟩
      · exact (hsends.sorted.filter _).map _ fun _ _ h => h
      · obtain ⟨w, hplan, -⟩ := hexecutes.finished q hq
        obtain ⟨-, -, r, hr, rfl⟩ := hsends.known q w hplan
        exact List.mem_map.mpr ⟨r, List.mem_filter.mpr ⟨hr, decide_eq_true hq⟩, rfl⟩
      · obtain ⟨r, hr, rfl⟩ := List.mem_map.mp hq
        exact of_decide_eq_true (List.mem_filter.mp hr).2
    calc Bridge.keysOf (Bridge.calls (Bridge.device.trace (connection.run es).right))
        = done.flatMap plan.keys := hexecutes.keys
      _ = (reqs.filter fun r => r.operation.sequence ∈ done).flatMap
            fun r => plan.keys r.operation.sequence := by
          conv_lhs => rw [hdone, List.flatMap_map]
      _ = (reqs.filter fun r => r.operation.sequence ∈ done).flatMap Request.keys :=
          List.flatMap_congr fun r hr => (hsends.asked r (List.mem_filter.mp hr).1).keys
  · intro r hr hcompleted
    refine List.mem_filter.mpr ⟨hr, decide_eq_true ?_⟩
    obtain ⟨result, hack, haccepts⟩ := acknowledged_of_completed (hreqs ▸ hr) hcompleted
    obtain ⟨data, hheard, hdata⟩ := hexchanged.acks _ _ _ hack
    have hsaid := (connection.heard_said es).2.subset (List.mem_append_left _ hheard)
    obtain ⟨x, hx, hnotification⟩ := said_bridge hsaid
    obtain ⟨answer, rfl, rfl⟩ := ack_of_notification hnotification
      (fun session q result h => (hexecutes.answered session q result (h ▸ hx)).1)
      (fun session q code h => hexecutes.failed session q code (h ▸ hx)) hdata
    refine (hexecutes.answered _ _ _ hx).2 ?_
    cases answer with
    | opened => cases haccepts
    | stopped => exact (hsends.asked r hr).stops (of_decide_eq_true haccepts)
    | _ => trivial

/-- A command is typed; the Enter after it is lost. -/
def typedCommand : List ConnectionEvent :=
  [.left (.didUpdateState true), .left .connect, .left (.didDiscover 0), .left (.maximumWrite 180),
    .left (.didConnect Iphone.uuid), .left (.didDiscoverCharacteristics (.found true true)),
    .right .connect, .left (.didUpdateNotification true), .arriveRight (), .right .dequeue,
    .right (.handle 0 0), .left (.didWriteValue true), .arriveLeft (),
    .left (.sendText (ascii "ls")), .arriveRight (), .right .dequeue, .right (.handle 1 1),
    .left (.didWriteValue true), .arriveLeft (), .left (.send .enter), .lose]

theorem typed_as_requested_command :
    .completed 0 true ∈ Iphone.bridgeMachine.trace (connection.run typedCommand).left ∧
      ∃ done : List Request, done.Sublist (requests (connection.run typedCommand).left) ∧
        Bridge.keysOf (Bridge.calls (Bridge.device.trace (connection.run typedCommand).right)) =
          done.flatMap Request.keys ∧
        ∀ r ∈ requests (connection.run typedCommand).left,
          .completed r.operation.request true ∈
            Iphone.bridgeMachine.trace (connection.run typedCommand).left → r ∈ done := by
  refine ⟨?_, typed_as_requested typedCommand ?_⟩ <;> decide +kernel

end Bootmux.Keyboard
