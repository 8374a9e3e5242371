/-
Bootmux.Terminal.ConnectionTheorems — what is typed on the iPhone is what
the terminal of the Companion gets.

Both ends have their own results: the session handles the messages that
arrive in order (`conveyed_run`) and types what they ask for (`types_run`),
and every message the iPhone sends is read back by the Companion
(`unmarshal_encode`). What holds them together is the session id: the
iPhone has it from the Companion's greeting (`attached_run`).

`Speech` lists what the Companion can say, `Speaks` what the iPhone has said
over one socket. The session machine of the Companion takes any parser of
messages; here it is given the one that reads what the iPhone prints. A
message that is refused, or that finds the queue full, types nothing, and
the conclusion says so: what the terminal reads is a beginning of what the
accepted messages type.
-/
import Bootmux.Companion.InputTheorems
import Bootmux.Companion.WriterTheorems
import Bootmux.Iphone.ConnectionTheorems
import Bootmux.Terminal.Connection
import Bootmux.Terminal.SendTheorems

namespace Bootmux.Terminal

open Bootmux.Lib
open Bootmux.Companion (Bytes ascii)

variable {socket : Nat} {random : Vector UInt8 16}

/-! ## What they say -/

/-- What the iPhone has said is what it sent over the socket, encoded. -/
theorem said_phone (es : List Iphone.TerminalEvent) :
    (phone socket).said es =
      (sentOver socket (Iphone.terminalMachine.trace es)).map Iphone.encode := by
  show (Iphone.terminalMachine.trace es).flatMap (phone socket).emits = _
  induction Iphone.terminalMachine.trace es with
  | nil => rfl
  | cons effect effects ih =>
      have hsplit : sentOver socket (effect :: effects) =
          sentOver socket [effect] ++ sentOver socket effects :=
        List.filterMap_append (l := [effect])
      rw [List.flatMap_cons, ih, hsplit, List.map_append]
      rfl

/-- What the companion has said is what it wrote, encoded. -/
theorem said_companion (random : Vector UInt8 16) (es : List Companion.SessionEvent) :
    (companion random).said es =
      (Companion.wroteMessages ((companion random).machine.trace es)).map Companion.encode := by
  rw [Party.said, Companion.wroteMessages, List.map_flatMap]
  congr 1
  funext effect
  cases effect <;> rfl

/-- A message of the session, as the iPhone reads it. -/
structure Speech (random : Vector UInt8 16) (m : Companion.ServerMessage)
    (m' : Iphone.ServerMessage) : Prop where
  corresponds : Corresponds m m'
  sessionID : m.sessionID = Companion.newSessionID random
  text : Utf8.valid m.text = true
  type : m.type ≠ .mirrorOutput
  decoded : ∀ expected, expected = none ∨ expected = some (Companion.newSessionID random) →
    Iphone.decodeServer (Companion.encode m) expected = .ok m'

/-- Every message that the companion writes is one the iPhone understands. -/
theorem speech_of_wrote {m : Companion.ServerMessage} {es : List Companion.SessionEvent}
    (h : m ∈ Companion.wroteMessages ((Companion.sessionMachine (settings random)).trace es)) :
    ∃ m', Speech random m m' := by
  have hqueued := (Companion.inOrder_run (settings random) es).begun.subset h
  obtain ⟨effect, heffect, hqueued⟩ := List.mem_flatMap.mp hqueued
  cases effect with
  | enqueued origin item =>
      obtain rfl := List.mem_singleton.mp hqueued
      obtain ⟨m', hm', hdecode⟩ := session_decoded
        (valid_newSessionID random) Companion.textRequests_unmarshal heffect
      obtain ⟨pre, e, post, rfl, hmem⟩ :=
        (Companion.sessionMachine (settings random)).mem_trace heffect
      have hsendable := ((Companion.sessionStep_sends (settings random) _ e).sent _ _ hmem).2
      have hid : item.message.sessionID = Companion.newSessionID random := hsendable.sessionID
      exact ⟨m', hm', hid, hsendable.text_valid, hsendable.type_ne,
        fun expected h => hdecode expected (hid ▸ h)⟩
  | _ => cases hqueued

/-- Whatever is heard from the session is such a message. -/
theorem speech_of_said {data : Bytes} {es : List Companion.SessionEvent}
    (h : data ∈ (companion random).said es) :
    ∃ m m', data = Companion.encode m ∧ Speech random m m' := by
  rw [said_companion random] at h
  obtain ⟨m, hm, rfl⟩ := List.mem_map.mp h
  obtain ⟨m', hm'⟩ := speech_of_wrote hm
  exact ⟨m, m', rfl, hm'⟩

/-! ## The session of the iPhone -/

/-- On the transport the iPhone is connected to no session but the
Companion's, and takes leave of no other. -/
structure Attached (socket : Nat) (random : Vector UInt8 16) (s : Iphone.TerminalSession) :
    Prop where
  loops : Iphone.Loops s
  session : s.transport = some socket → ∀ sessionID, s.state = .connected sessionID →
    sessionID = Companion.newSessionID random
  closing : ∀ i sessionID, Iphone.dutyAt s.suspended i = some (.close socket sessionID) →
    sessionID = Companion.newSessionID random

/-- A session that goes on stays attached to its socket. -/
theorem Attached.course {clear : Prop} {s t : Iphone.TerminalSession}
    (h : Attached socket random s) (hcourse : Iphone.Course clear s t) :
    Attached socket random t := by
  have hclosing : ∀ {calls}, Iphone.SameDuties s.suspended calls → ∀ i sessionID,
      Iphone.dutyAt calls i = some (.close socket sessionID) →
        sessionID = Companion.newSessionID random :=
    fun hduties i sessionID hduty => h.closing i sessionID (hduties i _ hduty)
  have hloops := hcourse.keeps_loops h.loops
  cases hcourse with
  | stays hduties hsame _ _ hkept | clears _ hduties hsame _ _ hkept =>
      exact ⟨hloops, fun htransport sessionID hstate =>
        h.session (hsame ▸ htransport) sessionID (hkept _ hstate), hclosing hduties⟩
  | leaves hduties hnone =>
      exact ⟨hloops, fun htransport => (nomatch hnone.symm.trans htransport), hclosing hduties⟩
  | hangsUp hduties hcalls hold hsession hnone =>
      refine ⟨hloops, fun htransport => (nomatch hnone.symm.trans htransport), ?_⟩
      intro i sessionID hduty
      rw [hcalls] at hduty
      rcases Iphone.dutyAt_concat hduty with hduty | hnew
      · exact hclosing hduties i sessionID hduty
      · cases hnew
        exact h.session hold _ hsession
  | connects hduties hcalls _ _ _ hconnecting =>
      refine ⟨hloops, fun _ sessionID hstate => (nomatch hconnecting.symm.trans hstate), ?_⟩
      intro i sessionID hduty
      rw [hcalls] at hduty
      rcases Iphone.dutyAt_concat hduty with hduty | hnew
      · exact hclosing hduties i sessionID hduty
      · cases hnew

theorem attached_init : Attached socket random Iphone.newTerminalSession :=
  ⟨Iphone.loops_run [], fun h => (nomatch h), fun i _ hduty => by cases hduty⟩

/-- A message of another transport is read on another connection. -/
theorem Attached.reads_other {s : Iphone.TerminalSession} (h : Attached socket random s)
    {e : Iphone.TerminalEvent} (hown : (phone socket).own s e = true)
    (hreads : Iphone.Reads s e = true) :
    s.transport ≠ some socket ∧ ∃ m, Iphone.Reading s m (Iphone.terminalStep s e).1 := by
  obtain ⟨i, k, data, rfl, hop⟩ := Iphone.reads_iff.mp hreads
  have hcurrent := h.loops.current i k (congrArg (Option.bind · Iphone.Suspended.duty) hop)
  refine ⟨fun hsocket => ?_, Iphone.exists_reading hop data⟩
  obtain rfl : k = socket := Option.some.inj (hcurrent.symm.trans hsocket)
  simp [phone, waitsFor, hop] at hown

/-- A step that reads no message of the transport. -/
theorem Attached.own {s : Iphone.TerminalSession} (h : Attached socket random s)
    {e : Iphone.TerminalEvent} (hown : (phone socket).own s e = true) :
    Attached socket random (Iphone.terminalStep s e).1 := by
  cases hreads : Iphone.Reads s e with
  | false => exact h.course (Iphone.terminalStep_course s e hreads)
  | true =>
      obtain ⟨hother, m, hreading⟩ := h.reads_other hown hreads
      refine ⟨hreading.keeps_loops h.loops, fun htransport => ?_,
        fun j sessionID hduty => h.closing j sessionID (hreading.duties j _ hduty)⟩
      rcases hreading.transport with hsame | hnone
      · exact absurd (hsame.symm.trans htransport) hother
      · cases hnone.symm.trans htransport

/-- A loop of the current generation reads it as that. -/
theorem Attached.reads {s : Iphone.TerminalSession} (h : Attached socket random s) {i : Nat}
    (hop : Iphone.callAt s.suspended i = some (.receiving socket s.generation))
    {m : Companion.ServerMessage} {m' : Iphone.ServerMessage} (hm : Speech random m m') :
    Iphone.Reading s m'
      (Iphone.terminalStep s (.resume i (.message (Companion.encode m)))).1 := by
  have hcurrent := h.loops.current i socket
    (congrArg (Option.bind · Iphone.Suspended.duty) hop)
  have hexpected : s.currentSessionID = none ∨
      s.currentSessionID = some (Companion.newSessionID random) := by
    cases hstate : s.state with
    | connected sessionID =>
        refine .inr ?_
        rw [Iphone.TerminalSession.currentSessionID, hstate, h.session hcurrent sessionID hstate]
    | _ => exact .inl (by rw [Iphone.TerminalSession.currentSessionID, hstate])
  exact Iphone.terminalStep_reading hop fun m'' hm'' =>
    Except.ok.inj (hm''.symm.trans (hm.decoded _ hexpected))

/-- The arrival of a message of the session. -/
theorem Attached.arrival {s : Iphone.TerminalSession} (h : Attached socket random s) {i : Nat}
    (hadmits : waitsFor socket s i = true) {m : Companion.ServerMessage}
    {m' : Iphone.ServerMessage} (hm : Speech random m m') :
    Attached socket random
      (Iphone.terminalStep s (.resume i (.message (Companion.encode m)))).1 := by
  cases hreads : Iphone.Reads s (.resume i (.message (Companion.encode m))) with
  | false => exact h.course (Iphone.terminalStep_course s _ hreads)
  | true =>
      obtain ⟨_, k, _, heq, hop⟩ := Iphone.reads_iff.mp hreads
      cases heq
      obtain rfl : k = socket := by simpa [waitsFor, hop] using hadmits
      have hreading := h.reads hop hm
      refine ⟨hreading.keeps_loops h.loops, fun htransport sessionID hstate => ?_,
        fun j sessionID hduty => h.closing j sessionID (hreading.duties j _ hduty)⟩
      have hcurrent := h.loops.current i k (congrArg (Option.bind · Iphone.Suspended.duty) hop)
      cases hreading with
      | noted _ _ _ _ hsame | shown _ _ _ _ _ hsame =>
          exact h.session hcurrent sessionID (hsame ▸ hstate)
      | greeted hgreeting _ _ _ _ hconnected =>
          cases hconnected.symm.trans hstate
          have hid := hm.sessionID
          have hcorresponds := hm.corresponds
          rcases hgreeting with rfl | rfl <;> cases hcorresponds <;> exact hid
      | exited _ _ hnone | failed _ hnone => cases hnone.symm.trans htransport

/-- What goes over a transport is of the session of the connection. -/
theorem sent_session {s : Iphone.TerminalSession} {e : Iphone.TerminalEvent}
    {m : Iphone.ClientMessage} (h : .sent socket m ∈ (Iphone.terminalStep s e).2) :
    s.transport = some socket ∧ s.state = .connected m.sessionID ∨
      ∃ i, Iphone.dutyAt s.suspended i = some (.close socket m.sessionID) := by
  cases e with
  | connect valid =>
      simp only [Iphone.terminalStep, Iphone.TerminalSession.connect] at h
      repeat' split at h
      all_goals first
        | cases h
        | exact absurd h (silent_closeTransport _ _ _)
  | disconnect =>
      simp only [Iphone.terminalStep, Iphone.TerminalSession.disconnect] at h
      split at h
      · cases h
      · exact absurd h (silent_closeTransport _ _ _)
  | clearVisibleHistory => cases h
  | sendInput text =>
      simp only [Iphone.terminalStep, Iphone.TerminalSession.sendInput] at h
      repeat' split at h
      all_goals first
        | cases h; done
        | cases List.mem_singleton.mp h
          exact .inl ⟨by assumption, by assumption⟩
  | sendInterrupt =>
      simp only [Iphone.terminalStep, Iphone.TerminalSession.sendInterrupt] at h
      repeat' split at h
      all_goals first
        | cases h; done
        | cases List.mem_singleton.mp h
          exact .inl ⟨by assumption, by assumption⟩
  | sendCodexPrompt prompt uuid =>
      simp only [Iphone.terminalStep, Iphone.TerminalSession.sendCodexPrompt] at h
      repeat' split at h
      all_goals first
        | cases h; done
        | cases List.mem_singleton.mp h
          exact .inl ⟨by assumption, by assumption⟩
  | cancelCodex uuid =>
      simp only [Iphone.terminalStep, Iphone.TerminalSession.cancelCodex] at h
      split at h
      · cases List.mem_singleton.mp h
        exact .inl ⟨by assumption, by assumption⟩
      · cases h
  | newCodexSession =>
      simp only [Iphone.terminalStep, Iphone.TerminalSession.newCodexSession] at h
      split at h
      · cases List.mem_singleton.mp h
        exact .inl ⟨by assumption, by assumption⟩
      · cases h
  | resume i outcome =>
      simp only [Iphone.terminalStep, Iphone.TerminalSession.resume] at h
      split at h
      · cases h
      · cases h
      · exact absurd h (silent_received _ _ _ _ _ _)
      · split at h
        · exact absurd h (silent_sent _ _ _ _ _)
        · exact absurd h (silent_sent _ _ _ _ _)
        · exact absurd h (silent_sent _ _ _ _ _)
        · cases h
      · cases h
      · next k sessionID hop =>
          unfold Iphone.TerminalSession.closed at h
          split at h
          · rcases List.mem_cons.mp h with h | h
            · cases h
              exact .inr ⟨i, congrArg (Option.bind · Iphone.Suspended.duty) hop⟩
            · cases List.mem_singleton.mp h
          · cases List.mem_singleton.mp h
          · cases h
          · cases h

/-- The iPhone's part of a run: it is attached, and what it has sent over
the transport is text for the session. -/
structure Speaks (socket : Nat) (random : Vector UInt8 16) (es : List Iphone.TerminalEvent) :
    Prop where
  attached : Attached socket random (Iphone.terminalMachine.run es)
  sent : ∀ m ∈ sentOver socket (Iphone.terminalMachine.trace es),
    m.sessionID = Companion.newSessionID random ∧ ∃ e, Transmits e m ∧ TextEvent e

theorem mem_sentOver {effects : List Iphone.TerminalEffect} {m : Iphone.ClientMessage} :
    m ∈ sentOver socket effects ↔ .sent socket m ∈ effects := by
  unfold sentOver
  rw [List.mem_filterMap]
  constructor
  · rintro ⟨effect, heffect, hm⟩
    cases effect with
    | sent k message =>
        simp only [Option.ite_none_right_eq_some, Option.some.injEq] at hm
        obtain ⟨rfl, rfl⟩ := hm
        exact heffect
    | closed k code => cases hm
  · exact fun h => ⟨_, h, if_pos rfl⟩

/-- One more event of the user is spoken over the same socket. -/
theorem Speaks.concat {es : List Iphone.TerminalEvent} (h : Speaks socket random es)
    {e : Iphone.TerminalEvent} (htext : TextEvent e)
    (hnext : Attached socket random
      (Iphone.terminalStep (Iphone.terminalMachine.run es) e).1) :
    Speaks socket random (es ++ [e]) := by
  refine ⟨by rw [Machine.run_concat]; exact hnext, fun m hm => ?_⟩
  rw [Machine.trace_concat, sentOver, List.filterMap_append, List.mem_append] at hm
  rcases hm with hm | hm
  · exact h.sent m hm
  · have hsent := mem_sentOver.mp hm
    refine ⟨?_, e, transmits_of_sent hsent, htext⟩
    rcases sent_session hsent with ⟨htransport, hstate⟩ | ⟨i, hduty⟩
    · exact h.attached.session htransport _ hstate
    · exact h.attached.closing i _ hduty

/-- **On its transport the iPhone knows the Companion's session and no
other**, and everything said arrives. -/
theorem speaks_run (socket : Nat) (random : Vector UInt8 16) (es : List ConnectionEvent) :
    (connection socket random).Whole ((connection socket random).run es) ∧
      Speaks socket random ((connection socket random).run es).left := by
  refine (connection socket random).faithful_rule rfl
    (P := fun y => Speaks socket random y.left) ?_ ?_ ?_ ?_ ?_ es
  · exact ⟨attached_init, fun m hm => (nomatch hm)⟩
  · intro y e h hown
    refine h.concat ?_ (h.attached.own hown)
    cases e with
    | sendInput text => exact hown
    | sendCodexPrompt prompt uuid => exact hown
    | _ => trivial
  · exact fun y e h _ => h
  · intro y i data rest h hsaid hadmits
    have hmem : data ∈ (connection socket random).right.said y.right := by
      rw [hsaid]
      exact List.mem_append_right _ List.mem_cons_self
    obtain ⟨m, m', rfl, hm⟩ := speech_of_said hmem
    exact h.concat trivial (h.attached.arrival hadmits hm)
  · exact fun y i data rest h _ _ => h

/-! ## What is typed -/

/-- The keys a message of the iPhone is for: its text, or the interrupt. -/
def keys (m : Iphone.ClientMessage) : Bytes :=
  m.text.getD [] ++ if m.control = some "interrupt" then [3] else []

/-- The keys of a message arrive with it. -/
theorem keys_received {e : Iphone.TerminalEvent} {m : Iphone.ClientMessage} (h : Transmits e m) :
    (received m).keys = keys m := by
  cases h with
  | @input id text hlen hfits => exact (List.append_nil text).symm
  | _ => rfl

/-- The session types what the iPhone's message is for. -/
theorem typedBy_encode {e : Iphone.TerminalEvent} {m : Iphone.ClientMessage} (h : Transmits e m)
    (he : TextEvent e) (hid : m.sessionID = Companion.newSessionID random) :
    Companion.typedBy (settings random) (Iphone.encode m) = keys m := by
  have hunmarshal : (settings random).unmarshal (Iphone.encode m) = some (received m) :=
    unmarshal_encode h (clientStrings h he hid)
  have hsize : (Iphone.encode m).length ≤ (settings random).maxJSONBytes := length_encode_le h hid
  have htext : (received m).text.length ≤ (settings random).maxInputBytes := by
    cases h with
    | input hlen hfits => exact hlen
    | _ => exact Nat.zero_le _
  have hversion : (received m).version = Companion.protocolVersion := by cases h <;> rfl
  have hsession : (received m).sessionID ≠ [] := by
    show m.sessionID ≠ []
    rw [hid]
    exact newSessionID_ne_nil random
  unfold Companion.typedBy
  rw [hunmarshal]
  simp only
  rw [if_pos ⟨hsize, htext, hversion, hsession, hid⟩, keys_received h]

/-- What the run loop accepts is the beginning of what it handles, and all
of it unless it is closing. -/
structure AcceptedOf (cfg : Companion.Config) (es : List Companion.SessionEvent) : Prop where
  whole : ((Companion.sessionMachine cfg).run es).run.closing = false →
    ((Companion.sessionMachine cfg).gather (Companion.accepted cfg) es).flatten =
      ((Companion.sessionMachine cfg).gather Companion.handled es).flatMap (Companion.typedBy cfg)
  begun : ((Companion.sessionMachine cfg).gather (Companion.accepted cfg) es).flatten <+:
    ((Companion.sessionMachine cfg).gather Companion.handled es).flatMap (Companion.typedBy cfg)

/-- What is not refused is accepted. -/
theorem accepted_of_not_refused {cfg : Companion.Config} {s : Companion.Session}
    {e : Companion.SessionEvent} (h : ¬ Companion.Refused cfg s e) :
    (Companion.accepted cfg s e).flatten =
      (Companion.handled s e).flatMap (Companion.typedBy cfg) := by
  unfold Companion.accepted
  split
  · rw [List.flatMap_def]
  · next hfull =>
      have hnone : ∀ data ∈ Companion.handled s e, Companion.typedBy cfg data = [] := by
        intro data hdata
        by_contra hkeys
        exact h ⟨Bool.eq_false_iff.mpr hfull, data, hdata, hkeys⟩
      rw [List.flatten_nil, List.flatMap_eq_nil_iff.mpr hnone]

theorem acceptedOf_run (cfg : Companion.Config) (es : List Companion.SessionEvent) :
    AcceptedOf cfg es := by
  induction es using List.reverseRecOn with
  | nil => exact ⟨fun _ => rfl, List.prefix_refl []⟩
  | append_singleton es e ih =>
      have hgathered : ∀ f : Companion.Session → Companion.SessionEvent → List Bytes,
          (Companion.sessionMachine cfg).gather f (es ++ [e]) =
            (Companion.sessionMachine cfg).gather f es ++
              f ((Companion.sessionMachine cfg).run es) e := fun f => Machine.gather_concat _ f es e
      by_cases hrefused : Companion.Refused cfg ((Companion.sessionMachine cfg).run es) e
      · have hnone : Companion.accepted cfg ((Companion.sessionMachine cfg).run es) e = [] := by
          rw [Companion.accepted, hrefused.1]
          rfl
        refine ⟨fun hopen => ?_, ?_⟩
        · rw [Machine.run_concat] at hopen
          cases (Companion.closing_of_refused hrefused).symm.trans hopen
        · rw [hgathered, hgathered, hnone, List.append_nil, List.flatMap_append]
          exact ih.begun.trans (List.prefix_append _ _)
      · have hstep := accepted_of_not_refused hrefused
        have hwhole : ((Companion.sessionMachine cfg).run es).run.closing = false →
            ((Companion.sessionMachine cfg).gather (Companion.accepted cfg) (es ++ [e])).flatten =
              ((Companion.sessionMachine cfg).gather Companion.handled (es ++ [e])).flatMap
                (Companion.typedBy cfg) := by
          intro hopen
          rw [hgathered, hgathered, List.flatten_append, List.flatMap_append, ih.whole hopen, hstep]
        cases hclosing : ((Companion.sessionMachine cfg).run es).run.closing with
        | false =>
            have h := hwhole hclosing
            exact ⟨fun _ => h, h ▸ List.prefix_refl _⟩
        | true =>
            have hhandled := Companion.handled_of_closing hclosing e
            refine ⟨fun hopen => ?_, ?_⟩
            · rw [Machine.run_concat] at hopen
              cases (Companion.closing_step hclosing e).symm.trans hopen
            · rw [hgathered, hgathered, List.flatten_append, List.flatMap_append, hstep, hhandled]
              simpa using ih.begun

/-- What the session has read is what it was sent. -/
theorem arrives_run (socket : Nat) (random : Vector UInt8 16) (es : List ConnectionEvent) :
    (Companion.sessionMachine (settings random)).gather Companion.arrives
        ((connection socket random).run es).right =
      ((connection socket random).run es).heardRight := by
  refine (connection socket random).rule (P := fun y =>
    (Companion.sessionMachine (settings random)).gather Companion.arrives y.right =
      y.heardRight) rfl (fun y e h _ => h) ?_ (fun y i m rest h _ _ => h) ?_ (fun y h _ => h) es
  · intro y e h hown
    show (Companion.sessionMachine (settings random)).gather Companion.arrives (y.right ++ [e]) = _
    rw [Machine.gather_concat, h]
    have hnone : Companion.arrives ((Companion.sessionMachine (settings random)).run y.right) e =
        [] := by
      cases e with
      | clientRead event =>
          cases event with
          | data bytes => cases hown
          | error => exact ite_self []
      | _ => rfl
    rw [hnone, List.append_nil]
    rfl
  · intro y i m rest h hway hadmits
    have hreading : ((Companion.sessionMachine (settings random)).run y.right).clientReader =
        .reading := of_decide_eq_true hadmits
    show (Companion.sessionMachine (settings random)).gather Companion.arrives
      (y.right ++ [.clientRead (.data m)]) = y.heardRight ++ [m]
    rw [Machine.gather_concat, h, Companion.arrives, if_pos hreading]
    rfl

/-- The keys between the iPhone's user and the terminal. -/
structure TypedAsSent (socket : Nat) (random : Vector UInt8 16)
    (y : (connection socket random).State) : Prop where
  /-- All that was sent carries the id of the Companion's session. -/
  session : ∀ m ∈ sentOver socket (Iphone.terminalMachine.trace y.left),
    m.sessionID = (settings random).sessionID
  /-- The bytes written to the terminal, and any part of those being
  written, are the beginning of what was sent. -/
  begun : ∀ n, Companion.typed ((Companion.sessionMachine (settings random)).trace y.right) ++
      ((Companion.sessionMachine (settings random)).run y.right).inputWriter.holds.take n <+:
    (sentOver socket (Iphone.terminalMachine.trace y.left)).flatMap keys
  /-- As long as nothing has ended, the rest is on its way. -/
  whole : let s := (Companion.sessionMachine (settings random)).run y.right
    s.run.closing = false → s.clientReader ≠ .done → s.inputWriter ≠ .done →
      Companion.typed ((Companion.sessionMachine (settings random)).trace y.right) ++
          (s.inputWriter.holds ++ s.queued) ++
          (s.onTheWay ++ y.toRight).flatMap (Companion.typedBy (settings random)) =
        (sentOver socket (Iphone.terminalMachine.trace y.left)).flatMap keys

/-- **What is typed on the iPhone is what the terminal gets**: whatever
happens to either end and in whatever order, no key is lost, doubled,
reordered or typed into another session. -/
theorem typed_as_sent (socket : Nat) (random : Vector UInt8 16) (es : List ConnectionEvent) :
    TypedAsSent socket random ((connection socket random).run es) := by
  obtain ⟨hwhole, hspeaks⟩ := speaks_run socket random es
  have harrives := arrives_run socket random es
  generalize (connection socket random).run es = y at hwhole hspeaks harrives
  have hconveyed := Companion.conveyed_run (settings random) y.right
  have htypes := Companion.types_run (settings random) y.right
  have haccepted := acceptedOf_run (settings random) y.right
  rw [harrives] at hconveyed
  have hsaid : y.heardRight ++ y.toRight =
      (sentOver socket (Iphone.terminalMachine.trace y.left)).map Iphone.encode := by
    exact hwhole.right.trans (said_phone y.left)
  have hkeys : (y.heardRight ++ y.toRight).flatMap (Companion.typedBy (settings random)) =
      (sentOver socket (Iphone.terminalMachine.trace y.left)).flatMap keys := by
    rw [hsaid, List.flatMap_map]
    refine List.flatMap_congr fun m hm => ?_
    obtain ⟨hid, e, htransmits, htext⟩ := hspeaks.sent m hm
    exact typedBy_encode htransmits htext hid
  constructor
  · exact fun m hm => (hspeaks.sent m hm).1
  · intro n
    rw [← hkeys, List.flatMap_append]
    refine ((List.prefix_append_right_inj _).mpr (List.take_prefix n _)).trans ?_
    refine htypes.begun.trans (haccepted.begun.trans ?_)
    have hhandled := (List.prefix_append _ _).trans hconveyed.begun
    exact (hhandled.flatMap _).trans (List.prefix_append _ _)
  · intro s hopen hreader hwriter
    have htyped := htypes.whole hwriter
    rw [haccepted.whole hopen] at htyped
    rw [htyped, ← hkeys, ← hconveyed.whole hreader]
    simp only [List.flatMap_append, List.append_assoc]
    rfl

/-- A greeting, then a line from the iPhone. -/
def typedLine : List ConnectionEvent :=
  [.left (.connect true), .left (.resume 0 .done), .right .run, .right (.write true),
    .arriveLeft 0, .left (.sendInput (ascii "ls\n")), .arriveRight (), .right (.clientSend false),
    .right (.select false), .right .run, .right .inputTake, .right (.inputWritten 3 true)]

example : Companion.typed ((companion (.replicate 16 0)).machine.trace
    ((connection 0 (.replicate 16 0)).run typedLine).right) = ascii "ls\n" := by decide +kernel

end Bootmux.Terminal
