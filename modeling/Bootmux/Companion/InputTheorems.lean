/-
Bootmux.Companion.InputTheorems — what a client types is what the terminal
reads, in order and nothing else.

A message goes from `readClient` through a channel to `run`, and what it
types from `run` through the input queue to `writePTY`. `InputView` is
the part of a session on that way. `conveys_step` says that no step
loses, copies or reorders a message before `run` has it, `types_step`
that none adds a byte behind it, and a queue that is full ends the
reading (`closing_step`).

The invariant has two halves, one on each side of `run`. Before it, the
messages handled and those on their way are all that arrived, in order
(`Conveyed`), unless the session is closing, when the rest is dropped.
Behind it, what was typed and what is queued is what the handled messages
type, in order (`Types`). Put together they give a prefix: what the terminal
has read is the beginning of what the accepted messages type.

The parser of a message is a parameter, so the result does not depend on how
`json.Unmarshal` reads one.
-/
import Bootmux.Companion.RequestTheorems

namespace Bootmux.Companion

open Bootmux.Lib

/-! ## What a message types -/

/-- The keys a message asks for: the text of an `input_text`, or the
interrupt. -/
def ClientMessage.keys (msg : ClientMessage) : Bytes :=
  match msg.type with
  | .inputText => msg.text
  | .control => if msg.interrupt then [3] else []
  | _ => []

/-- What a message from the client types when the queue has room. One
that is malformed, oversized, of another version or session, or of a type
without keys, types nothing. -/
def typedBy (cfg : Config) (data : Bytes) : Bytes :=
  match cfg.unmarshal data with
  | none => []
  | some msg =>
      if data.length ≤ cfg.maxJSONBytes ∧ msg.text.length ≤ cfg.maxInputBytes ∧
          msg.version = protocolVersion ∧ msg.sessionID ≠ [] ∧ msg.sessionID = cfg.sessionID then
        msg.keys
      else []

/-- The bytes of a decision of `handleClientMessage`. -/
def ClientAction.bytes : ClientAction → Bytes
  | .input request => request.bytes
  | _ => []

/-- A message that `decodeClientMessage` accepts has the version and a
session, and its action types what it says. -/
theorem decode_ok {msg : ClientMessage} {m : ClientMessage}
    (h : decodeClientMessage (some msg) = .ok m) :
    m = msg ∧ msg.version = protocolVersion ∧ msg.sessionID ≠ [] ∧
      msg.action.bytes = msg.keys := by
  unfold decodeClientMessage at h
  simp only at h
  split at h
  · cases h
  · next hversion =>
      split at h
      · cases h
      · next hnone =>
          have hsession : msg.sessionID ≠ [] := fun heq => hnone (.inr heq)
          have hversion' : msg.version = protocolVersion := not_not.mp hversion
          unfold ClientMessage.action ClientMessage.keys
          cases htype : msg.type with
          | empty => exact absurd (.inl htype) hnone
          | other => rw [htype] at h; cases h
          | control =>
              rw [htype] at h
              simp only at h
              split at h
              · next hinterrupt =>
                  cases h
                  exact ⟨rfl, hversion', hsession, (if_pos hinterrupt).symm⟩
              · cases h
          | inputText | codexPrompt | codexCancel =>
              rw [htype] at h
              simp only at h
              split at h
              · cases h
              · cases h
                exact ⟨rfl, hversion', hsession, rfl⟩
          | close | codexNewSession =>
              rw [htype] at h
              cases h
              exact ⟨rfl, hversion', hsession, rfl⟩

/-- A message that it rejects types nothing. -/
theorem decode_error {msg : ClientMessage} {code : Code}
    (h : decodeClientMessage (some msg) = .error code)
    (hversion : msg.version = protocolVersion) (hsession : msg.sessionID ≠ []) :
    msg.keys = [] := by
  unfold decodeClientMessage at h
  simp only at h
  rw [if_neg (not_not.mpr hversion)] at h
  unfold ClientMessage.keys
  cases htype : msg.type with
  | inputText =>
      simp only [htype, hsession] at h
      by_contra htext
      simp [htext] at h
  | control =>
      simp only [htype, hsession] at h
      cases hinterrupt : msg.interrupt with
      | false => rfl
      | true => simp [hinterrupt] at h
  | _ => rfl

/-- What a message types is decided by its action alone. -/
theorem typedBy_eq (cfg : Config) (data : Bytes) :
    typedBy cfg data = (clientAction cfg data).bytes := by
  unfold typedBy clientAction
  by_cases hsize : data.length > cfg.maxJSONBytes
  · rw [if_pos hsize]
    split
    · rfl
    · exact if_neg fun h => absurd hsize (Nat.not_lt.mpr h.1)
  · rw [if_neg hsize]
    cases cfg.unmarshal data with
    | none => rfl
    | some msg =>
        simp only
        cases hdecode : decodeClientMessage (some msg) with
        | error code =>
            split
            · next h => exact decode_error hdecode h.2.2.1 h.2.2.2.1
            · rfl
        | ok m =>
            obtain ⟨rfl, hversion, hsession, hbytes⟩ := decode_ok hdecode
            simp only
            by_cases htext : m.text.length > cfg.maxInputBytes
            · rw [if_pos htext, if_neg fun h => absurd htext (Nat.not_lt.mpr h.2.1)]
              rfl
            · rw [if_neg htext]
              by_cases hprompt : m.type = .codexPrompt ∧ m.prompt.length > defaultCodexPrompt
              · have hkeys : m.keys = [] := by rw [ClientMessage.keys, hprompt.1]
                rw [if_pos hprompt, hkeys]
                exact ite_self _
              · rw [if_neg hprompt]
                by_cases hid : m.sessionID ≠ cfg.sessionID
                · rw [if_pos hid, if_neg fun h => hid h.2.2.2.2]
                  rfl
                · rw [if_neg hid, if_pos ⟨Nat.not_lt.mp hsize, Nat.not_lt.mp htext, hversion,
                    hsession, not_not.mp hid⟩]
                  exact hbytes.symm

/-! ## The way of a message -/

def ClientEvent.messages : ClientEvent → List Bytes
  | .data bytes => [bytes]
  | .error => []

/-- The message `readClient` has read and not sent. -/
def ClientReaderPc.holds : ClientReaderPc → List Bytes
  | .holding event => event.messages
  | .reading | .done => []

/-- The message `run` is about to handle. -/
def RunPc.handles : RunPc → List Bytes
  | .handle data => [data]
  | _ => []

/-- `run` reads no more messages. -/
def RunPc.closing : RunPc → Bool
  | .rejected | .terminate _ | .ack | .stop | .await | .returned => true
  | _ => false

/-- The bytes `writePTY` is writing. -/
def InputPc.holds : InputPc → Bytes
  | .writing request => request.bytes
  | .idle | .done => []

/-- The messages between the socket and `handleClientMessage`. -/
def Session.onTheWay (s : Session) : List Bytes :=
  s.run.handles ++ (s.client.toList.flatMap ClientEvent.messages ++ s.clientReader.holds)

/-- The bytes of the input queue. -/
def Session.queued (s : Session) : Bytes := s.input.flatMap InputRequest.bytes

def Effect.keys : Effect → Bytes
  | .typed data => data
  | _ => []

/-- The bytes written to the terminal. -/
def typed (t : List Effect) : Bytes := t.flatMap Effect.keys

/-- The message a step reads off the socket. -/
def arrives (s : Session) : SessionEvent → List Bytes
  | .clientRead event => if s.clientReader = .reading then event.messages else []
  | _ => []

/-- The message a step of `run` handles. -/
def handled (s : Session) : SessionEvent → List Bytes
  | .run => s.run.handles
  | _ => []

/-- The input queue has room. -/
def Session.roomy (cfg : Config) (s : Session) : Bool := s.input.length < cfg.inputQueueCapacity

/-- What a message types that a step handles while the queue has room. -/
def accepted (cfg : Config) (s : Session) (e : SessionEvent) : List Bytes :=
  if s.roomy cfg then (handled s e).map (typedBy cfg) else []

/-- A step handles a message with keys and the queue has no room. -/
def Refused (cfg : Config) (s : Session) (e : SessionEvent) : Prop :=
  s.roomy cfg = false ∧ ∃ data ∈ handled s e, typedBy cfg data ≠ []

/-! ## The steps -/

/-- The part of a session the messages pass, without `run`. -/
structure InputView where
  client : Option ClientEvent
  clientReader : ClientReaderPc
  input : List InputRequest
  inputWriter : InputPc

def Session.inputView (s : Session) : InputView :=
  ⟨s.client, s.clientReader, s.input, s.inputWriter⟩

/-- A step that has nothing to do with what the client types. -/
structure NoInput (s : Session) (r : Session × List Effect) : Prop where
  view : r.1.inputView = s.inputView
  typed : typed r.2 = []

theorem NoInput.enqueue {cfg : Config} {s : Session} {origin : Origin} {item : OutboundMessage}
    {ok refused : Session → Session} (hok : ∀ s : Session, (ok s).inputView = s.inputView)
    (hrefused : (refused s).inputView = s.inputView) :
    NoInput s (s.enqueue cfg origin item ok refused) :=
  enqueue_rule (fun _ => ⟨hok _, rfl⟩) (fun _ => ⟨hrefused, rfl⟩)

/-- A step after one that has nothing to do with the input. -/
theorem NoInput.after {s t : Session} {r : Session × List Effect} (h : NoInput t r)
    (ht : t.inputView = s.inputView) : NoInput s r :=
  ⟨h.view.trans ht, h.typed⟩

theorem Outward.noInput {s : Session} {r : Session × List Effect} (h : Outward s r) :
    NoInput s r where
  view := show r.1.others.inputView = s.others.inputView from congrArg Session.inputView h.others
  typed := by
    refine List.flatMap_eq_nil_iff.mpr fun x hx => ?_
    have hx' := h.effects x hx
    cases x with
    | typed data => cases hx'
    | _ => rfl

theorem callStop_inputView {s : Session} {next : Session → Session}
    (h : (next s).inputView = s.inputView) : (s.callStop next).inputView = s.inputView :=
  callStop_rule (P := fun s' => s'.inputView = s.inputView) (fun _ => rfl) (fun _ => h) rfl

theorem callStopProcess_inputView {s : Session} {next : Session → Session}
    (h : (next s).inputView = s.inputView) : (s.callStopProcess next).inputView = s.inputView :=
  callStopProcess_rule (P := fun s' => s'.inputView = s.inputView) (fun _ => rfl) (fun _ => h) rfl

theorem clearCodexRun_inputView (s : Session) (i : Nat) :
    (s.clearCodexRun i).inputView = s.inputView :=
  clearCodexRun_rule (P := fun s' => s'.inputView = s.inputView) (fun _ => rfl) (fun _ => rfl)

theorem codexStep_noInput (cfg : Config) (s : Session) (i : Nat) (e : CodexEvent) :
    NoInput s (codexStep cfg s i e) := by
  unfold codexStep
  split
  · exact ⟨rfl, rfl⟩
  · cases e with
    | write data =>
        simp only
        split
        · unfold codexWriteStep
          split
          · exact ⟨rfl, rfl⟩
          · exact ⟨rfl, rfl⟩
          · exact .after (.enqueue (fun _ => rfl) rfl) rfl
        · exact ⟨rfl, rfl⟩
    | wait result =>
        simp only
        unfold waitCodexStep
        split
        · exact ⟨clearCodexRun_inputView s i, rfl⟩
        · split
          · exact ⟨rfl, rfl⟩
          · exact .enqueue (fun _ => rfl) rfl
        · exact ⟨rfl, rfl⟩
    | _ => exact ⟨rfl, rfl⟩

theorem writeStep_noInput (s : Session) (ok : Bool) : NoInput s (writeStep s ok) := by
  unfold writeStep
  split
  · split
    · split <;> exact ⟨rfl, rfl⟩
    · split <;> exact ⟨rfl, rfl⟩
  · exact ⟨callStop_inputView rfl, rfl⟩
  · exact ⟨rfl, rfl⟩

theorem stopSession_inputView (s : Session) : (stopSession s).inputView = s.inputView := by
  unfold stopSession
  split
  · rfl
  · rfl
  · split <;> rfl
  · rfl
  · rfl
  · exact callStopProcess_inputView rfl
  · rfl

/-- The steps that deal with messages from the client or what they type. -/
def SessionEvent.onInput : SessionEvent → Bool
  | .run | .select _ | .clientRead _ | .clientSend _ | .inputTake | .inputWritten _ _
  | .inputCancel => true
  | _ => false

/-- The steps of the other goroutines. -/
theorem sessionStep_noInput (cfg : Config) (s : Session) {e : SessionEvent}
    (h : e.onInput = false) : NoInput s (sessionStep cfg s e) := by
  cases e with
  | run | select | clientRead | clientSend | inputTake | inputWritten | inputCancel => cases h
  | startProcess ok =>
      simp only [sessionStep, startProcess]
      repeat' split
      all_goals exact ⟨rfl, rfl⟩
  | readPTY data err viaCancel => exact (readPTY_outward data err viaCancel).noInput
  | ptyResult => simp only [sessionStep, ptyResult]; split <;> exact ⟨rfl, rfl⟩
  | processExit code => simp only [sessionStep, processExit]; split <;> exact ⟨rfl, rfl⟩
  | aggregate branch => exact (aggregateStep_outward branch).noInput
  | write ok => exact writeStep_noInput s ok
  | stopSession => exact ⟨stopSession_inputView s, rfl⟩
  | stopProcess => simp only [sessionStep, stopProcess]; split <;> exact ⟨rfl, rfl⟩
  | codex i e => exact codexStep_noInput cfg s i e

/-- They give `run` no message and take none from it. -/
theorem sessionStep_handles {cfg : Config} {s : Session} {e : SessionEvent}
    (h : e.onInput = false) : (sessionStep cfg s e).1.run.handles = s.run.handles := by
  cases e with
  | run | select | clientRead | clientSend | inputTake | inputWritten | inputCancel => cases h
  | startProcess ok =>
      simp only [sessionStep, startProcess]
      split
      · next hrun => split <;> exact (congrArg RunPc.handles hrun).symm
      · rfl
  | _ => exact congrArg RunPc.handles (sessionStep_run_eq (by simp) (by simp) (by simp))

theorem handled_of_noInput {s : Session} {e : SessionEvent} (h : e.onInput = false) :
    handled s e = [] := by
  cases e with
  | run => cases h
  | _ => rfl

theorem arrives_of_noInput {s : Session} {e : SessionEvent} (h : e.onInput = false) :
    arrives s e = [] := by
  cases e with
  | clientRead => cases h
  | _ => rfl

/-- A step of `run` that queues nothing: it has handled its message, and
does not read again once it is closing. -/
structure Turn (s : Session) (r : Session × List Effect) : Prop where
  noInput : NoInput s r
  handles : r.1.run.handles = []
  closing : s.run.closing = true → r.1.run.closing = true

section

variable {cfg : Config} {s : Session}

/-- A turn of `run` that sends. -/
theorem Turn.enqueue {origin : Origin} {item : OutboundMessage} {pc pc' : RunPc}
    (hpc : pc.handles = []) (hpc' : pc'.handles = [])
    (hclosing : s.run.closing = true → pc.closing = true ∧ pc'.closing = true) :
    Turn s (s.enqueue cfg origin item (.setRun pc) (.setRun pc')) :=
  enqueue_rule
    (fun _ => ⟨⟨rfl, rfl⟩, hpc, fun h => (hclosing h).1⟩)
    (fun _ => ⟨⟨rfl, rfl⟩, hpc', fun h => (hclosing h).2⟩)

/-- A turn that goes on. -/
theorem Turn.setRun {s' : Session} {pc : RunPc} (hview : s'.inputView = s.inputView)
    (hpc : pc.handles = []) (hclosing : s.run.closing = true → pc.closing = true) :
    Turn s (s'.setRun pc, []) :=
  ⟨⟨hview, rfl⟩, hpc, hclosing⟩

theorem Turn.callStop {pc : RunPc} (hhandles : s.run.handles = []) (hpc : pc.handles = [])
    (hclosing : s.run.closing = true → pc.closing = true) :
    Turn s (s.callStop (.setRun pc), []) :=
  callStop_rule (P := fun s' => Turn s (s', [])) (fun _ => ⟨⟨rfl, rfl⟩, hhandles, id⟩)
    (fun _ => .setRun rfl hpc hclosing) ⟨⟨rfl, rfl⟩, hhandles, id⟩

theorem Turn.callStopProcess {pc : RunPc} (hhandles : s.run.handles = []) (hpc : pc.handles = [])
    (hclosing : s.run.closing = true → pc.closing = true) :
    Turn s (s.callStopProcess (.setRun pc), []) :=
  callStopProcess_rule (P := fun s' => Turn s (s', [])) (fun _ => ⟨⟨rfl, rfl⟩, hhandles, id⟩)
    (fun _ => .setRun rfl hpc hclosing) ⟨⟨rfl, rfl⟩, hhandles, id⟩

/-- A message that asks for no keys. -/
theorem handleClientMessage_turn {data : Bytes} (hrun : s.run = .handle data)
    (h : ∀ request, clientAction cfg data ≠ .input request) :
    Turn s (handleClientMessage cfg s data) := by
  have hopen : ∀ {P : Prop}, s.run.closing = true → P := fun hclosing => by
    rw [hrun] at hclosing
    cases hclosing
  unfold handleClientMessage
  split
  · exact .enqueue rfl rfl hopen
  · exact .enqueue rfl rfl hopen
  · unfold createRun
    split
    · exact .setRun rfl rfl hopen
    · exact ⟨⟨rfl, rfl⟩, rfl, hopen⟩
  · split <;> exact .setRun rfl rfl hopen
  · exact .setRun rfl rfl hopen
  · next request haction => exact absurd haction (h request)

/-- A step of `run` that has no message. -/
theorem runStep_turn (h : s.run.handles = []) : Turn s (runStep cfg s) := by
  unfold runStep
  cases hrun : s.run with
  | hello | busy | reportStart | announce =>
      exact .enqueue rfl rfl fun hclosing => by rw [hrun] at hclosing; cases hclosing
  | helloStop => exact .callStop h rfl fun hclosing => by rw [hrun] at hclosing; cases hclosing
  | handle data => rw [hrun] at h; cases h
  | rejected => exact .callStopProcess h rfl fun _ => rfl
  | terminate code => exact .enqueue rfl rfl fun _ => ⟨rfl, rfl⟩
  | startFailed i =>
      exact .setRun (clearCodexRun_inputView (s.modifyRun i .cancel) i) rfl
        fun hclosing => by rw [hrun] at hclosing; cases hclosing
  | spawn | cancelReason | cancelOnce =>
      exact .setRun rfl rfl fun hclosing => by rw [hrun] at hclosing; cases hclosing
  | ack => exact .setRun rfl rfl fun _ => rfl
  | stop => exact .callStop h rfl fun _ => rfl
  | await =>
      simp only
      split
      · exact .setRun rfl rfl fun _ => rfl
      · exact ⟨⟨rfl, rfl⟩, h, id⟩
  | select | start | returned => exact ⟨⟨rfl, rfl⟩, h, id⟩

/-! ## A queue that is full ends the reading -/

/-- When it closes, `run` has no message in its hands. -/
theorem handles_of_closing (h : s.run.closing = true) : s.run.handles = [] := by
  cases hrun : s.run with
  | handle data => rw [hrun] at h; cases h
  | _ => rfl

/-- A session that closes does not open again. -/
theorem closing_step (h : s.run.closing = true) (e : SessionEvent) :
    (sessionStep cfg s e).1.run.closing = true := by
  cases e with
  | run => exact (runStep_turn (handles_of_closing h)).closing h
  | select viaFinished =>
      simp only [sessionStep, selectStep]
      split
      · next hrun => rw [hrun] at h; cases h
      · exact h
  | startProcess ok =>
      simp only [sessionStep, startProcess]
      split
      · next hrun => rw [hrun] at h; cases h
      · exact h
  | _ =>
      rw [sessionStep_run_eq (by simp) (by simp) (by simp)]
      exact h

/-- After a refusal `run` is closing. -/
theorem closing_of_refused {e : SessionEvent} (h : Refused cfg s e) :
    (sessionStep cfg s e).1.run.closing = true := by
  obtain ⟨hroom, data, hdata, hkeys⟩ := h
  cases e with
  | run =>
      have hrun : s.run = .handle data := by
        simp only [handled] at hdata
        cases hrun : s.run with
        | handle d =>
            rw [hrun] at hdata
            rw [List.mem_singleton.mp hdata]
        | _ => rw [hrun] at hdata; cases hdata
      rw [typedBy_eq] at hkeys
      simp only [sessionStep, runStep, hrun, handleClientMessage]
      cases haction : clientAction cfg data with
      | input request =>
          have hfull : ¬ s.input.length < cfg.inputQueueCapacity := of_decide_eq_false hroom
          simp only
          rw [if_neg hfull]
          rfl
      | _ => rw [haction] at hkeys; exact absurd rfl hkeys
  | _ => cases hdata

/-- And handles no message any more. -/
theorem handled_of_closing (h : s.run.closing = true) (e : SessionEvent) : handled s e = [] := by
  cases e with
  | run => exact handles_of_closing h
  | _ => rfl

/-! ## Nothing is lost on the way to `run` -/

/-- The messages that arrived are those handled, then those on the way,
until `readClient` gives up. -/
structure Conveyed (done arrived : List Bytes) (s : Session) : Prop where
  whole : s.clientReader ≠ .done → done ++ s.onTheWay = arrived
  begun : done ++ s.onTheWay <+: arrived

theorem arrives_of_done (h : s.clientReader = .done) (e : SessionEvent) : arrives s e = [] := by
  cases e with
  | clientRead event => rw [arrives, h]; rfl
  | _ => rfl

/-- A step that moves messages along. -/
theorem Conveyed.moves {done arrived : List Bytes} {s' : Session} {e : SessionEvent}
    (h : Conveyed done arrived s)
    (hmoves : handled s e ++ s'.onTheWay = s.onTheWay ++ arrives s e)
    (hreader : s.clientReader = .done → s'.clientReader = .done) :
    Conveyed (done ++ handled s e) (arrived ++ arrives s e) s' := by
  have hall : done ++ handled s e ++ s'.onTheWay = done ++ s.onTheWay ++ arrives s e := by
    rw [List.append_assoc, hmoves, List.append_assoc]
  by_cases hdone : s.clientReader = .done
  · refine ⟨fun hne => absurd (hreader hdone) hne, ?_⟩
    rw [hall, arrives_of_done hdone, List.append_nil, List.append_nil]
    exact h.begun
  · have heq := hall.trans (congrArg (· ++ arrives s e) (h.whole hdone))
    exact ⟨fun _ => heq, heq ▸ List.prefix_refl _⟩

/-- A step that leaves the way to `run` alone. -/
theorem Conveyed.keeps {done arrived : List Bytes} {s' : Session} {e : SessionEvent}
    (h : Conveyed done arrived s) (hclient : s'.client = s.client)
    (hreader : s'.clientReader = s.clientReader) (hhandles : s'.run.handles = s.run.handles)
    (hhandled : handled s e = []) (harrives : arrives s e = []) :
    Conveyed (done ++ handled s e) (arrived ++ arrives s e) s' := by
  refine h.moves ?_ fun hdone => hreader.trans hdone
  rw [hhandled, harrives, List.nil_append, List.append_nil, Session.onTheWay, hhandles, hclient,
    hreader, Session.onTheWay]

/-- What `run` does with the message in its hand, `run` has no message
afterwards and leaves the channel alone. -/
theorem runStep_way (cfg : Config) (s : Session) : (runStep cfg s).1.client = s.client ∧
    (runStep cfg s).1.clientReader = s.clientReader ∧ (runStep cfg s).1.run.handles = [] := by
  have hturn : Turn s (runStep cfg s) → (runStep cfg s).1.client = s.client ∧
      (runStep cfg s).1.clientReader = s.clientReader ∧ (runStep cfg s).1.run.handles = [] :=
    fun h => ⟨congrArg InputView.client h.noInput.view,
      congrArg InputView.clientReader h.noInput.view, h.handles⟩
  cases hrun : s.run with
  | handle data =>
      by_cases hinput : ∃ request, clientAction cfg data = .input request
      · obtain ⟨request, hinput⟩ := hinput
        simp only [runStep, hrun, handleClientMessage, hinput]
        split <;> exact ⟨rfl, rfl, rfl⟩
      · refine hturn ?_
        have hstep : runStep cfg s = handleClientMessage cfg s data := by
          simp only [runStep, hrun]
        rw [hstep]
        exact handleClientMessage_turn hrun fun request h => hinput ⟨request, h⟩
  | _ => exact hturn (runStep_turn (by rw [hrun]; rfl))

/-- `run` takes the messages in the order they have arrived. -/
theorem runStep_conveyed {done arrived : List Bytes} (h : Conveyed done arrived s) :
    Conveyed (done ++ handled s .run) (arrived ++ arrives s .run) (runStep cfg s).1 := by
  obtain ⟨hclient, hreader, hhandles⟩ := runStep_way cfg s
  refine h.moves ?_ fun hdone => hreader.trans hdone
  have harrives : arrives s .run = [] := rfl
  rw [Session.onTheWay, hhandles, hclient, hreader, Session.onTheWay, handled, harrives,
    List.nil_append, List.append_nil]

theorem selectStep_conveyed {done arrived : List Bytes} (h : Conveyed done arrived s)
    (viaFinished : Bool) :
    Conveyed (done ++ handled s (.select viaFinished)) (arrived ++ arrives s (.select viaFinished))
      (selectStep s viaFinished) := by
  unfold selectStep
  split
  · next hrun =>
      have hhandles : s.run.handles = [] := by rw [hrun]; rfl
      split
      · split
        · exact h.keeps rfl rfl hhandles.symm rfl rfl
        · exact h.keeps rfl rfl rfl rfl rfl
      · split
        · exact h.keeps rfl rfl rfl rfl rfl
        · next hclient =>
            refine h.moves ?_ id
            rw [Session.onTheWay, Session.onTheWay, hhandles, hclient]
            exact (List.append_nil _).symm
        · next bytes hclient =>
            -- the message goes from the channel to `run`
            refine h.moves ?_ id
            rw [Session.onTheWay, Session.onTheWay, hhandles, hclient]
            exact (List.append_nil _).symm
  · exact h.keeps rfl rfl rfl rfl rfl

theorem clientRead_conveyed {done arrived : List Bytes} (h : Conveyed done arrived s)
    (event : ClientEvent) :
    Conveyed (done ++ handled s (.clientRead event)) (arrived ++ arrives s (.clientRead event))
      (clientRead s event) := by
  unfold clientRead
  split
  · next hreader =>
      refine h.moves ?_ fun hdone => by rw [hreader] at hdone; cases hdone
      rw [Session.onTheWay, Session.onTheWay, arrives, if_pos hreader, hreader]
      simp only [handled, ClientReaderPc.holds, List.nil_append, List.append_nil,
        List.append_assoc]
  · next hreader => exact h.keeps rfl rfl rfl rfl (if_neg hreader)

theorem clientSend_conveyed {done arrived : List Bytes} (h : Conveyed done arrived s)
    (viaCancel : Bool) :
    Conveyed (done ++ handled s (.clientSend viaCancel))
      (arrived ++ arrives s (.clientSend viaCancel)) (clientSend s viaCancel) := by
  have hnone : handled s (.clientSend viaCancel) = [] ∧ arrives s (.clientSend viaCancel) = [] :=
    ⟨rfl, rfl⟩
  unfold clientSend
  split
  · next event hreader =>
      split
      · split
        · -- `cancel`: the message is dropped
          rw [hnone.1, hnone.2, List.append_nil, List.append_nil]
          refine ⟨fun hne => absurd rfl hne, List.IsPrefix.trans ?_ h.begun⟩
          rw [List.prefix_append_right_inj, Session.onTheWay, Session.onTheWay,
            List.prefix_append_right_inj, List.prefix_append_right_inj]
          exact List.nil_prefix
        · exact h.keeps rfl rfl rfl rfl rfl
      · split
        · exact h.keeps rfl rfl rfl rfl rfl
        · next hclient =>
            -- it goes to the channel
            refine h.moves ?_ fun hdone => by rw [hreader] at hdone; cases hdone
            rw [Session.onTheWay, Session.onTheWay, hnone.1, hnone.2, hclient, hreader]
            split <;> simp [ClientReaderPc.holds]
  · exact h.keeps rfl rfl rfl rfl rfl

theorem inputTake_way (s : Session) :
    (inputTake s).client = s.client ∧ (inputTake s).clientReader = s.clientReader ∧
      (inputTake s).run = s.run := by
  unfold inputTake
  split <;> exact ⟨rfl, rfl, rfl⟩

theorem inputWritten_way (s : Session) (count : Nat) (ok : Bool) :
    (inputWritten s count ok).1.client = s.client ∧
      (inputWritten s count ok).1.clientReader = s.clientReader ∧
      (inputWritten s count ok).1.run = s.run := by
  unfold inputWritten
  split
  · split <;> exact ⟨rfl, rfl, rfl⟩
  · exact ⟨rfl, rfl, rfl⟩

theorem inputCancel_way (s : Session) :
    (inputCancel s).client = s.client ∧ (inputCancel s).clientReader = s.clientReader ∧
      (inputCancel s).run = s.run := by
  unfold inputCancel
  split <;> exact ⟨rfl, rfl, rfl⟩

/-- **One step** keeps the order of the messages. -/
theorem conveyed_step {done arrived : List Bytes} (h : Conveyed done arrived s)
    (e : SessionEvent) :
    Conveyed (done ++ handled s e) (arrived ++ arrives s e) (sessionStep cfg s e).1 := by
  have hway : ∀ s' : Session, s'.client = s.client ∧ s'.clientReader = s.clientReader ∧
      s'.run = s.run → handled s e = [] → arrives s e = [] →
      Conveyed (done ++ handled s e) (arrived ++ arrives s e) s' :=
    fun _ hs' => h.keeps hs'.1 hs'.2.1 (congrArg RunPc.handles hs'.2.2)
  cases hinput : e.onInput with
  | false =>
      have hview := (sessionStep_noInput cfg s hinput).view
      exact h.keeps (congrArg InputView.client hview) (congrArg InputView.clientReader hview)
        (sessionStep_handles hinput) (handled_of_noInput hinput) (arrives_of_noInput hinput)
  | true =>
      cases e with
      | run => exact runStep_conveyed h
      | select viaFinished => exact selectStep_conveyed h viaFinished
      | clientRead event => exact clientRead_conveyed h event
      | clientSend viaCancel => exact clientSend_conveyed h viaCancel
      | inputTake => exact hway _ (inputTake_way s) rfl rfl
      | inputWritten count ok => exact hway _ (inputWritten_way s count ok) rfl rfl
      | inputCancel => exact hway _ (inputCancel_way s) rfl rfl
      | _ => cases hinput

/-! ## Nothing is added behind it -/

/-- What was accepted is what was written, then what `writePTY` holds,
then the queue, until `writePTY` gives up. -/
structure Types (written taken : Bytes) (s : Session) : Prop where
  whole : s.inputWriter ≠ .done → written ++ (s.inputWriter.holds ++ s.queued) = taken
  begun : written ++ s.inputWriter.holds <+: taken

/-- The bytes of two steps after one another. -/
theorem typed_append (t u : List Effect) : typed (t ++ u) = typed t ++ typed u :=
  List.flatMap_append

/-- A step that writes nothing and may queue something. -/
theorem Types.queues {written taken more : Bytes} {r : Session × List Effect}
    (h : Types written taken s) (htyped : typed r.2 = [])
    (hwriter : r.1.inputWriter = s.inputWriter) (hqueued : r.1.queued = s.queued ++ more) :
    Types (written ++ typed r.2) (taken ++ more) r.1 := by
  rw [htyped, List.append_nil]
  refine ⟨fun hne => ?_, ?_⟩
  · rw [hwriter] at hne ⊢
    rw [hqueued, ← h.whole hne]
    simp only [List.append_assoc]
  · rw [hwriter]
    exact h.begun.trans (List.prefix_append taken more)

theorem accepted_of_handled {e : SessionEvent} (h : handled s e = []) : accepted cfg s e = [] := by
  rw [accepted, h, List.map_nil, ite_self]

/-- `run` queues what the message in its hand types. -/
theorem runStep_types (cfg : Config) (s : Session) : typed (runStep cfg s).2 = [] ∧
    (runStep cfg s).1.inputWriter = s.inputWriter ∧
    (runStep cfg s).1.queued = s.queued ++ (accepted cfg s .run).flatten := by
  have hturn : Turn s (runStep cfg s) → (accepted cfg s .run).flatten = [] →
      typed (runStep cfg s).2 = [] ∧ (runStep cfg s).1.inputWriter = s.inputWriter ∧
      (runStep cfg s).1.queued = s.queued ++ (accepted cfg s .run).flatten := by
    intro h hnone
    have hinput := congrArg InputView.input h.noInput.view
    refine ⟨h.noInput.typed, congrArg InputView.inputWriter h.noInput.view, ?_⟩
    rw [hnone, List.append_nil]
    exact congrArg (List.flatMap InputRequest.bytes) hinput
  cases hrun : s.run with
  | handle data =>
      have haccepted : accepted cfg s .run =
          if s.roomy cfg then [(clientAction cfg data).bytes] else [] := by
        rw [accepted, handled, hrun, ← typedBy_eq]
        rfl
      by_cases hinput : ∃ request, clientAction cfg data = .input request
      · obtain ⟨request, hinput⟩ := hinput
        rw [haccepted, hinput]
        simp only [runStep, hrun, handleClientMessage, hinput, Session.roomy,
          decide_eq_true_eq]
        split
        · refine ⟨rfl, rfl, ?_⟩
          simp [Session.queued, ClientAction.bytes]
        · exact ⟨rfl, rfl, (List.append_nil _).symm⟩
      · have hstep : runStep cfg s = handleClientMessage cfg s data := by
          simp only [runStep, hrun]
        refine hturn ?_ ?_
        · rw [hstep]
          exact handleClientMessage_turn hrun fun request h => hinput ⟨request, h⟩
        · rw [haccepted]
          cases haction : clientAction cfg data with
          | input request => exact absurd ⟨request, haction⟩ hinput
          | _ => split <;> rfl
  | _ =>
      have hhandles : handled s .run = [] := by rw [handled, hrun]; rfl
      exact hturn (runStep_turn hhandles) (by rw [accepted_of_handled hhandles]; rfl)

/-- The writer takes the next bytes. -/
theorem inputTake_types {written taken : Bytes} (h : Types written taken s) :
    Types written taken (inputTake s) := by
  unfold inputTake
  split
  · next request rest hwriter hinput =>
      have hwhole := h.whole (by rw [hwriter]; simp)
      rw [hwriter, Session.queued, hinput, List.flatMap_cons] at hwhole
      exact ⟨fun _ => hwhole, ⟨rest.flatMap InputRequest.bytes, by
        rw [List.append_assoc]; exact hwhole⟩⟩
  · exact h

/-- What is written is what was taken. -/
theorem inputWritten_types {written taken : Bytes} (h : Types written taken s) (count : Nat)
    (ok : Bool) :
    Types (written ++ typed (inputWritten s count ok).2) taken (inputWritten s count ok).1 := by
  unfold inputWritten
  split
  · next request hwriter =>
      have hwhole := h.whole (by rw [hwriter]; simp)
      have hbegun := h.begun
      rw [hwriter] at hwhole hbegun
      split
      · have htyped : typed [Effect.typed request.bytes] = request.bytes := List.append_nil _
        rw [htyped]
        refine ⟨fun _ => ?_, ?_⟩
        · rw [List.append_assoc]
          exact hwhole
        · rw [show InputPc.idle.holds = [] from rfl, List.append_nil]
          exact hbegun
      · have htyped : typed [Effect.typed (request.bytes.take count)] = request.bytes.take count :=
          List.append_nil _
        rw [htyped]
        refine ⟨fun hne => absurd rfl hne, ?_⟩
        rw [show InputPc.done.holds = [] from rfl, List.append_nil]
        exact ((List.prefix_append_right_inj written).mpr (List.take_prefix ..)).trans hbegun
  · rw [show typed [] = [] from rfl, List.append_nil]
    exact h

theorem inputCancel_types {written taken : Bytes} (h : Types written taken s) :
    Types written taken (inputCancel s) := by
  unfold inputCancel
  split
  · next hcancel =>
      have hbegun := h.begun
      rw [hcancel.1] at hbegun
      exact ⟨fun hne => absurd rfl hne, hbegun⟩
  · exact h

theorem selectStep_queue (s : Session) (viaFinished : Bool) :
    (selectStep s viaFinished).inputWriter = s.inputWriter ∧
      (selectStep s viaFinished).input = s.input := by
  unfold selectStep
  repeat' split
  all_goals exact ⟨rfl, rfl⟩

theorem clientRead_queue (s : Session) (event : ClientEvent) :
    (clientRead s event).inputWriter = s.inputWriter ∧ (clientRead s event).input = s.input := by
  unfold clientRead
  split <;> exact ⟨rfl, rfl⟩

theorem clientSend_queue (s : Session) (viaCancel : Bool) :
    (clientSend s viaCancel).inputWriter = s.inputWriter ∧
      (clientSend s viaCancel).input = s.input := by
  unfold clientSend
  repeat' split
  all_goals exact ⟨rfl, rfl⟩

/-- **One step** keeps the order of the bytes. -/
theorem types_step {written taken : Bytes} (h : Types written taken s) (e : SessionEvent) :
    Types (written ++ typed (sessionStep cfg s e).2) (taken ++ (accepted cfg s e).flatten)
      (sessionStep cfg s e).1 := by
  have hkeep : ∀ r : Session × List Effect, typed r.2 = [] →
      r.1.inputWriter = s.inputWriter ∧ r.1.input = s.input → handled s e = [] →
      Types (written ++ typed r.2) (taken ++ (accepted cfg s e).flatten) r.1 := by
    intro r htyped hqueue hhandled
    refine h.queues htyped hqueue.1 ?_
    rw [accepted_of_handled hhandled, Session.queued, hqueue.2]
    exact (List.append_nil _).symm
  cases hinput : e.onInput with
  | false =>
      have hquiet := sessionStep_noInput cfg s hinput
      exact hkeep _ hquiet.typed ⟨congrArg InputView.inputWriter hquiet.view,
        congrArg InputView.input hquiet.view⟩ (handled_of_noInput hinput)
  | true =>
      cases e with
      | run =>
          obtain ⟨htyped, hwriter, hqueued⟩ := runStep_types cfg s
          exact h.queues htyped hwriter hqueued
      | select viaFinished => exact hkeep _ rfl (selectStep_queue s viaFinished) rfl
      | clientRead event => exact hkeep _ rfl (clientRead_queue s event) rfl
      | clientSend viaCancel => exact hkeep _ rfl (clientSend_queue s viaCancel) rfl
      | inputTake =>
          rw [accepted_of_handled rfl]
          simpa [sessionStep, typed] using inputTake_types h
      | inputWritten count ok =>
          rw [accepted_of_handled rfl]
          simpa [sessionStep] using inputWritten_types h count ok
      | inputCancel =>
          rw [accepted_of_handled rfl]
          simpa [sessionStep, typed] using inputCancel_types h
      | _ => cases hinput

end

/-! ## A whole run -/

/-- What the terminal gets in a run. -/
structure TypesInOrder (cfg : Config) (es : List SessionEvent) : Prop where
  /-- Messages are handled in the order they arrive. -/
  order : (sessionMachine cfg).gather handled es <+: (sessionMachine cfg).gather arrives es
  /-- The bytes written, and any part of those being written, are the
  beginning of what the accepted messages type. -/
  typed : ∀ n, typed ((sessionMachine cfg).trace es) ++
      ((sessionMachine cfg).run es).inputWriter.holds.take n <+:
    ((sessionMachine cfg).gather (accepted cfg) es).flatten
  /-- After a refusal nothing is accepted. -/
  refused : ∀ pre e post, es = pre ++ e :: post → Refused cfg ((sessionMachine cfg).run pre) e →
    (sessionMachine cfg).gather (accepted cfg) es = (sessionMachine cfg).gather (accepted cfg) pre

/-- The induction over the messages of a run. -/
theorem conveyed_run (cfg : Config) (es : List SessionEvent) :
    Conveyed ((sessionMachine cfg).gather handled es) ((sessionMachine cfg).gather arrives es)
      ((sessionMachine cfg).run es) := by
  induction es using List.reverseRecOn with
  | nil => exact ⟨fun _ => rfl, List.prefix_refl []⟩
  | append_singleton es e ih =>
      rw [Machine.gather_concat, Machine.gather_concat, Machine.run_concat]
      exact conveyed_step ih e

/-- The induction over its bytes. -/
theorem types_run (cfg : Config) (es : List SessionEvent) :
    Types (typed ((sessionMachine cfg).trace es))
      ((sessionMachine cfg).gather (accepted cfg) es).flatten ((sessionMachine cfg).run es) := by
  induction es using List.reverseRecOn with
  | nil => exact ⟨fun _ => rfl, List.prefix_refl []⟩
  | append_singleton es e ih =>
      rw [Machine.gather_concat, Machine.trace_concat, Machine.run_concat, typed_append,
        List.flatten_append]
      exact types_step ih e

/-- A session that closes accepts nothing more. -/
theorem accepted_of_closing (cfg : Config) {s : Session} (h : s.run.closing = true)
    (es : List SessionEvent) : (sessionMachine cfg).gatherFrom (accepted cfg) s es = [] := by
  induction es generalizing s with
  | nil => rfl
  | cons e es ih =>
      have hrest : (sessionMachine cfg).gatherFrom (accepted cfg)
          ((sessionMachine cfg).step s e).1 es = [] := ih (closing_step h e)
      rw [Machine.gatherFrom, accepted_of_handled (handled_of_closing h e), hrest]
      rfl

/-- **Whatever the client sends and however the goroutines interleave, the
terminal gets what the accepted messages type, in the order they arrived
and up to some byte, and nothing after a full queue.** -/
theorem terminal_input_fifo (cfg : Config) (es : List SessionEvent) : TypesInOrder cfg es where
  order := (List.prefix_append _ _).trans (conveyed_run cfg es).begun
  typed n :=
    ((List.prefix_append_right_inj _).mpr (List.take_prefix n _)).trans (types_run cfg es).begun
  refused := by
    rintro pre e post rfl hrefused
    have hnone : accepted cfg ((sessionMachine cfg).run pre) e = [] := by
      rw [accepted, hrefused.1]
      rfl
    have hrest := accepted_of_closing cfg (closing_of_refused hrefused) post
    have hafter : (sessionMachine cfg).gatherFrom (accepted cfg) ((sessionMachine cfg).run pre)
        (e :: post) = [] := by
      rw [Machine.gatherFrom, hnone]
      exact hrest
    rw [Machine.gather, Machine.gatherFrom_append]
    exact (congrArg _ hafter).trans (List.append_nil _)

end Bootmux.Companion
