/-
Bootmux.Companion.RequestTheorems — the request ids of a session.

A request id enters a session with a `codex_prompt` that
`decodeClientMessage` accepts, so it is not empty, and `json.Unmarshal`
leaves only text in it. The runs keep the id they were created with, so
whatever a session says about a request carries such an id
(`namedRequests_run`).

`NamedRequests` is an invariant of sessions: the id of every run is such an
id, and so is the one that `codex_busy` is about to answer. The errors in
answer to a message that was refused carry no request id (`errorAnswer`).
-/
import Bootmux.Companion.Unmarshal
import Bootmux.Companion.CodexTheorems

namespace Bootmux.Companion

open Bootmux.Lib

/-! ## Request ids off the wire -/

/-- Text that is not empty. -/
structure Named (id : Bytes) : Prop where
  ne_nil : id ≠ []
  valid : Utf8.valid id = true

/-- `json.Unmarshal` leaves only text in a request id. -/
def TextRequests (f : Bytes → Option ClientMessage) : Prop :=
  ∀ data msg, f data = some msg → Utf8.valid msg.requestID = true

/-- A string of the message keeps the request a text. -/
theorem setString_requestID {msg msg' : ClientMessage} {value : Json.Value}
    {f : Bytes → ClientMessage} (h : setString msg value f = some msg')
    (hmsg : Utf8.valid msg.requestID = true)
    (hf : ∀ s, Utf8.valid (f (Utf8.sanitize s)).requestID = true) :
    Utf8.valid msg'.requestID = true := by
  unfold setString at h
  split at h
  · cases h; exact hmsg
  · cases h; exact hf _
  · cases h

/-- One field. -/
theorem setField_requestID {msg msg' : ClientMessage} {key : Bytes} {value : Json.Value}
    (h : setField msg key value = some msg') (hmsg : Utf8.valid msg.requestID = true) :
    Utf8.valid msg'.requestID = true := by
  unfold setField at h
  simp only at h
  split at h
  · split at h
    · cases h; exact hmsg
    · obtain ⟨version, -, rfl⟩ := Option.map_eq_some_iff.mp h
      exact hmsg
  · iterate 5
      split at h
      · exact setString_requestID h hmsg fun _ => hmsg
    split at h
    · exact setString_requestID h hmsg fun s => Utf8.sanitize_valid s
    · cases h; exact hmsg

/-- The induction over the fields. -/
theorem setFields_requestID {members : List (Bytes × Json.Value)} :
    ∀ {msg msg' : ClientMessage}, setFields msg members = some msg' →
      Utf8.valid msg.requestID = true → Utf8.valid msg'.requestID = true := by
  induction members with
  | nil => intro msg msg' h hmsg; cases h; exact hmsg
  | cons member members ih =>
      intro msg msg' h hmsg
      obtain ⟨key, value⟩ := member
      obtain ⟨next, hnext, h⟩ := Option.bind_eq_some_iff.mp h
      exact ih h (setField_requestID hnext hmsg)

theorem textRequests_unmarshal : TextRequests unmarshal := by
  intro data msg h
  unfold unmarshal at h
  split at h
  · exact setFields_requestID h rfl
  · cases h; rfl
  · cases h

/-- What `decodeClientMessage` accepts as a prompt names its request. -/
theorem requestID_of_decode {unmarshalled : Option ClientMessage} {msg : ClientMessage}
    (h : decodeClientMessage unmarshalled = .ok msg) :
    unmarshalled = some msg ∧
      (msg.type = .codexPrompt ∨ msg.type = .codexCancel → msg.requestID ≠ []) := by
  unfold decodeClientMessage at h
  split at h
  · cases h
  · split at h
    · cases h
    · split at h
      · cases h
      · repeat' split at h
        all_goals cases h
        all_goals simp_all

/-- What a message that is within the limits and of this session asks for. -/
def ClientMessage.action (msg : ClientMessage) : ClientAction :=
  match msg.type with
  | .codexPrompt => .prompt msg.requestID
  | .codexCancel => .cancel msg.requestID
  | .codexNewSession => .cancel []
  | .close => .close
  | .inputText => .input ⟨msg.text, false⟩
  | .control | .empty | .other => .input ⟨[], true⟩

/-- An action that is taken has passed the checks. -/
theorem clientAction_ok {cfg : Config} {data : Bytes} {action : ClientAction}
    (h : clientAction cfg data = action) (hterminate : ∀ code, action ≠ .terminate code)
    (hreject : ∀ code, action ≠ .reject code) :
    ∃ msg, decodeClientMessage (cfg.unmarshal data) = .ok msg ∧ action = msg.action := by
  unfold clientAction at h
  split at h
  · exact absurd h.symm (hterminate _)
  · split at h
    · exact absurd h.symm (hreject _)
    · rename_i msg hmsg
      split at h
      · exact absurd h.symm (hterminate _)
      · split at h
        · exact absurd h.symm (hterminate _)
        · split at h
          · exact absurd h.symm (hreject _)
          · exact ⟨msg, hmsg, h.symm⟩

/-- The action is decided by the decoded message. -/
theorem clientAction_of_decoded {cfg : Config} {data : Bytes} {msg : ClientMessage}
    (hsize : data.length ≤ cfg.maxJSONBytes)
    (hmsg : decodeClientMessage (cfg.unmarshal data) = .ok msg)
    (htext : msg.text.length ≤ cfg.maxInputBytes) (hprompt : msg.prompt.length ≤ defaultCodexPrompt)
    (hsession : msg.sessionID = cfg.sessionID) : clientAction cfg data = msg.action := by
  have hprompt' : ¬ (msg.type = .codexPrompt ∧ msg.prompt.length > defaultCodexPrompt) :=
    fun h => absurd h.2 (Nat.not_lt.mpr hprompt)
  unfold clientAction
  rw [if_neg (Nat.not_lt.mpr hsize), hmsg]
  simp only [if_neg (Nat.not_lt.mpr htext), if_neg hprompt', if_neg (not_not.mpr hsession)]
  rfl

/-- A prompt has a request that is a text. -/
theorem named_of_prompt {cfg : Config} (hcfg : TextRequests cfg.unmarshal) {data requestID : Bytes}
    (h : clientAction cfg data = .prompt requestID) : Named requestID := by
  obtain ⟨msg, hmsg, haction⟩ := clientAction_ok h (by simp) (by simp)
  obtain ⟨hunmarshal, hne⟩ := requestID_of_decode hmsg
  unfold ClientMessage.action at haction
  cases htype : msg.type <;> rw [htype] at haction <;> cases haction
  exact ⟨hne (.inl htype), hcfg data msg hunmarshal⟩

/-! ## Errors in answer to a message -/

/-- The error `handleClientMessage` answers a message with. -/
def errorAnswer (cfg : Config) (s : Session) (data : Bytes) : Option Code :=
  match clientAction cfg data with
  | .terminate code | .reject code => some code
  | .input _ => if s.input.length < cfg.inputQueueCapacity then none else some .inputOverflow
  | .prompt _ | .cancel _ | .close => none

/-- Without such an error nothing is sent and the session is not ended for
one. -/
theorem handleClientMessage_of_none {cfg : Config} {s : Session} {data : Bytes}
    (h : errorAnswer cfg s data = none) :
    (handleClientMessage cfg s data).2 = [] ∧
      (handleClientMessage cfg s data).1.run ≠ .rejected ∧
      ∀ code, (handleClientMessage cfg s data).1.run ≠ .terminate code := by
  unfold errorAnswer at h
  unfold handleClientMessage
  split at h
  · cases h
  · cases h
  · rename_i request haction
    split at h
    · rename_i hroom
      simp [haction, if_pos hroom]
    · cases h
  · rename_i requestID haction
    simp only [haction, createRun]
    split <;> simp [Session.setRun]
  · rename_i requestID haction
    simp only [haction]
    split <;> simp [Session.setRun]
  · rename_i haction
    simp [haction, Session.setRun]

/-- The error is sent, at once or in the next step of `run`, if the queue
accepts it. -/
theorem handleClientMessage_of_some {cfg : Config} {s : Session} {data : Bytes} {code : Code}
    (h : errorAnswer cfg s data = some code) (haccepts : s.accepts cfg = true) :
    ∃ written, .enqueued .session (errorMessage cfg code written) ∈
      (handleClientMessage cfg s data).2 ++ (runStep cfg (handleClientMessage cfg s data).1).2 := by
  unfold errorAnswer at h
  split at h
  · rename_i haction
    cases h
    refine ⟨true, List.mem_append_left _ ?_⟩
    simp [handleClientMessage, haction, terminateWithError, Session.enqueue, haccepts]
  · rename_i haction
    cases h
    refine ⟨false, List.mem_append_left _ ?_⟩
    simp [handleClientMessage, haction, Session.enqueue, haccepts]
  · rename_i request haction
    split at h
    · cases h
    · rename_i hfull
      cases h
      have haccepts' : (s.setRun (.terminate .inputOverflow)).accepts cfg = true := haccepts
      refine ⟨true, List.mem_append_right _ ?_⟩
      simp only [handleClientMessage, haction, if_neg hfull]
      show _ ∈ (terminateWithError cfg (s.setRun (.terminate .inputOverflow)) .inputOverflow).2
      simp [terminateWithError, Session.enqueue, haccepts']
  · cases h
  · cases h
  · cases h

/-! ## Request ids in a session -/

/-- Every request a session knows of is named. -/
structure NamedRequests (s : Session) : Prop where
  runs : ∀ (i : Nat) (r : CodexRun), s.runs[i]? = some r → Named r.requestID
  busy : ∀ requestID, s.run = .busy requestID → Named requestID

theorem enqueue_not_busy {cfg : Config} {s : Session} {origin : Origin} {item : OutboundMessage}
    {pc pc' : RunPc} {requestID : Bytes} (hpc : pc ≠ .busy requestID)
    (hpc' : pc' ≠ .busy requestID) :
    (s.enqueue cfg origin item (.setRun pc) (.setRun pc')).1.run ≠ .busy requestID :=
  enqueue_rule (P := fun r => r.1.run ≠ .busy requestID) (fun _ => hpc) (fun _ => hpc')

/-- `codex_busy` answers a prompt. -/
theorem handleClientMessage_busy {cfg : Config} {s : Session} {data requestID : Bytes}
    (h : (handleClientMessage cfg s data).1.run = .busy requestID) :
    clientAction cfg data = .prompt requestID := by
  unfold handleClientMessage at h
  split at h
  · exact absurd h (enqueue_not_busy (by simp) (by simp))
  · exact absurd h (enqueue_not_busy (by simp) (by simp))
  · rename_i id haction
    unfold createRun at h
    split at h
    · cases h
      exact haction
    · cases h
  · split at h <;> cases h
  · cases h
  · split at h <;> cases h

/-- Only a prompt finds the session busy. -/
theorem runStep_busy {cfg : Config} {s : Session} {requestID : Bytes}
    (h : (runStep cfg s).1.run = .busy requestID) :
    s.run = .busy requestID ∨
      ∃ data, s.run = .handle data ∧ clientAction cfg data = .prompt requestID := by
  have hstop : ∀ pc : RunPc, (∀ id, pc ≠ .busy id) →
      (s.callStop (.setRun pc)).run = .busy requestID → s.run = .busy requestID := by
    intro pc hpc
    exact callStop_rule (P := fun s' => s'.run = .busy requestID → s.run = .busy requestID)
      (fun _ => id) (fun _ h => absurd h (hpc _)) id
  have hstopProcess : ∀ pc : RunPc, (∀ id, pc ≠ .busy id) →
      (s.callStopProcess (.setRun pc)).run = .busy requestID → s.run = .busy requestID := by
    intro pc hpc
    exact callStopProcess_rule (P := fun s' => s'.run = .busy requestID → s.run = .busy requestID)
      (fun _ => id) (fun _ h => absurd h (hpc _)) id
  unfold runStep at h
  split at h
  case h_3 data hrun => exact .inr ⟨data, hrun, handleClientMessage_busy h⟩
  case h_2 => exact .inl (hstop _ (by simp) h)
  case h_14 => exact .inl (hstop _ (by simp) h)
  case h_4 => exact .inl (hstopProcess _ (by simp) h)
  case h_15 =>
    split at h
    · cases h
    · exact .inl h
  case h_16 => exact .inl h
  case h_17 => exact .inl h
  case h_18 => exact .inl h
  all_goals first
    | exact absurd h (enqueue_not_busy (by simp) (by simp))
    | cases h

theorem callStop_run {s : Session} {next : Session → Session} (h : (next s).run = s.run) :
    (s.callStop next).run = s.run :=
  callStop_rule (P := fun s' => s'.run = s.run) (fun _ => rfl) (fun _ => h) rfl

theorem clearCodexRun_run (s : Session) (i : Nat) : (s.clearCodexRun i).run = s.run :=
  clearCodexRun_rule (P := fun s' => s'.run = s.run) (fun _ => rfl) (fun _ => rfl)

theorem codexStep_run (cfg : Config) (s : Session) (i : Nat) (e : CodexEvent) :
    (codexStep cfg s i e).1.run = s.run := by
  unfold codexStep
  split
  · rfl
  · cases e with
    | write data =>
        simp only
        split
        · unfold codexWriteStep
          split
          · rfl
          · rfl
          · exact enqueue_rule (P := fun r => r.1.run = s.run) (fun _ => rfl) (fun _ => rfl)
        · rfl
    | wait result =>
        simp only
        unfold waitCodexStep
        split
        · exact clearCodexRun_run s i
        · split
          · rfl
          · exact enqueue_rule (P := fun r => r.1.run = s.run) (fun _ => rfl) (fun _ => rfl)
        · rfl
    | _ => rfl

/-- The position of `run` changes in three kinds of steps. -/
theorem sessionStep_run_eq {cfg : Config} {s : Session} {e : SessionEvent} (hrun : e ≠ .run)
    (hselect : ∀ viaFinished, e ≠ .select viaFinished) (hstart : ∀ ok, e ≠ .startProcess ok) :
    (sessionStep cfg s e).1.run = s.run := by
  cases e with
  | run => exact absurd rfl hrun
  | select viaFinished => exact absurd rfl (hselect viaFinished)
  | startProcess ok => exact absurd rfl (hstart ok)
  | aggregate branch => exact congrArg CodexView.run (aggregateStep_outward branch).noCodex.view
  | readPTY data err viaCancel =>
      exact congrArg CodexView.run (readPTY_outward data err viaCancel).noCodex.view
  | codex i e => exact codexStep_run cfg s i e
  | write ok =>
      simp only [sessionStep, writeStep]
      split
      · repeat' split
        all_goals rfl
      · exact callStop_run rfl
      · rfl
  | stopSession =>
      simp only [sessionStep, stopSession]
      split
      · rfl
      · rfl
      · split <;> rfl
      · rfl
      · rfl
      · exact callStopProcess_rule (P := fun s' => s'.run = s.run) (fun _ => rfl) (fun _ => rfl) rfl
      · rfl
  | clientSend viaCancel =>
      simp only [sessionStep, clientSend]
      repeat' split
      all_goals rfl
  | inputWritten count ok =>
      simp only [sessionStep, inputWritten]
      repeat' split
      all_goals rfl
  | clientRead event => simp only [sessionStep, clientRead]; split <;> rfl
  | ptyResult => simp only [sessionStep, ptyResult]; split <;> rfl
  | processExit code => simp only [sessionStep, processExit]; split <;> rfl
  | inputTake => simp only [sessionStep, inputTake]; split <;> rfl
  | inputCancel => simp only [sessionStep, inputCancel]; split <;> rfl
  | stopProcess => simp only [sessionStep, stopProcess]; split <;> rfl

/-- `run` reports a request as busy when its prompt was the last message. -/
theorem sessionStep_busy {cfg : Config} {s : Session} {e : SessionEvent} {requestID : Bytes}
    (h : (sessionStep cfg s e).1.run = .busy requestID) :
    s.run = .busy requestID ∨
      ∃ data, s.run = .handle data ∧ clientAction cfg data = .prompt requestID := by
  cases e with
  | run => exact runStep_busy h
  | select viaFinished =>
      simp only [sessionStep, selectStep] at h
      repeat' split at h
      all_goals first
        | exact .inl h
        | cases h
  | startProcess ok =>
      simp only [sessionStep, startProcess] at h
      repeat' split at h
      all_goals first
        | exact .inl h
        | cases h
  | _ =>
      rw [sessionStep_run_eq (by simp) (by simp) (by simp)] at h
      exact .inl h

/-- One step. -/
theorem namedRequests_step {cfg : Config} (hcfg : TextRequests cfg.unmarshal) {s : Session}
    (hwf : CodexWf s.codex) (h : NamedRequests s) (e : SessionEvent) :
    NamedRequests (sessionStep cfg s e).1 where
  runs := by
    intro i r hr
    rcases (sessionStep_codex cfg s e).origin hwf hr with ⟨r₀, hr₀, hafter⟩ |
      ⟨-, -, -, -, data, requestID, -, -, haction, rfl⟩
    · rw [hafter.requestID]
      exact h.runs i r₀ hr₀
    · exact named_of_prompt hcfg haction
  busy := by
    intro requestID hrun
    rcases sessionStep_busy hrun with hbusy | ⟨data, -, haction⟩
    · exact h.busy requestID hbusy
    · exact named_of_prompt hcfg haction

theorem namedRequests_run {cfg : Config} (hcfg : TextRequests cfg.unmarshal)
    (es : List SessionEvent) : NamedRequests ((sessionMachine cfg).run es) :=
  ((sessionMachine cfg).run_invariant (I := fun s => CodexWf s.codex ∧ NamedRequests s)
    ⟨codexWf_new, ⟨by simp [sessionMachine, newSession], by simp [sessionMachine, newSession]⟩⟩
    (fun _ e h => ⟨codexWf_step cfg h.1 e, namedRequests_step hcfg h.1 h.2 e⟩) es).2

end Bootmux.Companion
