/-
Bootmux.Iphone.GenerationTheorems — what a call of an earlier generation
does to the terminal.

A call that waits carries the generation it was begun under
(`terminalStep_calls`). The receive loop and the publisher compare it
with the current one before they do anything; the sends do not, and an
input or an interrupt that fails late closes the new connection, a
prompt, a cancel or a reset that succeeds late sets the new Codex state.
`generations_isolated` says that nothing else reaches the terminal of a
later generation.

What the terminal is, is a record of the fields that the user sees and that
later calls go by (`TerminalView`). A late call that is not a late send
leaves the view as it is, or was not late; the proof goes by the kinds of
calls, and for a received message by what the message does (`HandleStep`).
Generations only grow (`Grows`), so a call that is out of date stays so.

The condition (`lateSend`) is on the call that is resumed and on its
outcome.
-/
import Bootmux.Iphone.TerminalSession

namespace Bootmux.Iphone

open Bootmux.Bmx1 (Bytes ascii)
open Bootmux.Lib

/-! ## The calls that wait -/

/-- The generation a call was begun under. -/
def Suspended.generation : Suspended → Option Nat
  | .starting _ generation | .receiving _ generation | .sending _ generation
  | .publishing generation _ _ => some generation
  | .closing _ _ => none

/-- A call that is cancelled keeps its generation. -/
theorem Suspended.generation_cancel (op : Suspended) : op.cancel.generation = op.generation := by
  cases op <;> rfl

theorem Suspended.cancel_cancel (op : Suspended) : op.cancel.cancel = op.cancel := by
  cases op <;> rfl

/-- The call number `i`. -/
def callAt (calls : List (Option Suspended)) (i : Nat) : Option Suspended := calls[i]?.join

/-- Every call of `b` was there before, is one that was cancelled, or was
begun under the generation `g`. -/
def Grows (g : Nat) (a b : List (Option Suspended)) : Prop :=
  ∀ i op, callAt b i = some op →
    (∃ op₀, callAt a i = some op₀ ∧ (op = op₀ ∨ op = op₀.cancel)) ∨
      ∀ g', op.generation = some g' → g' = g

namespace Grows

variable {g : Nat} {a b c : List (Option Suspended)}

theorem refl (g : Nat) (a : List (Option Suspended)) : Grows g a a :=
  fun _ op h => .inl ⟨op, h, .inl rfl⟩

theorem trans (hab : Grows g a b) (hbc : Grows g b c) : Grows g a c := by
  intro i op hop
  rcases hbc i op hop with ⟨op₁, hop₁, hsame⟩ | hnew
  · rcases hab i op₁ hop₁ with ⟨op₀, hop₀, hsame₀⟩ | hnew
    · refine .inl ⟨op₀, hop₀, ?_⟩
      rcases hsame with rfl | rfl
      · exact hsame₀
      · rcases hsame₀ with rfl | rfl
        · exact .inr rfl
        · exact .inr (Suspended.cancel_cancel _)
    · refine .inr fun g' hg' => hnew g' ?_
      rcases hsame with rfl | rfl
      · exact hg'
      · rwa [Suspended.generation_cancel] at hg'
  · exact .inr hnew

/-- A call of the current generation. -/
theorem append {op : Suspended} (hop : ∀ g', op.generation = some g' → g' = g) :
    Grows g a (a ++ [some op]) := by
  intro i x hx
  unfold callAt at hx
  rcases Nat.lt_or_ge i a.length with hlt | hge
  · rw [List.getElem?_append_left hlt] at hx
    exact .inl ⟨x, hx, .inl rfl⟩
  · rw [List.getElem?_append_right hge] at hx
    rcases Nat.eq_zero_or_pos (i - a.length) with hzero | hpos
    · rw [hzero] at hx
      cases hx
      exact .inr hop
    · rw [List.getElem?_eq_none (by simpa using Nat.succ_le_of_lt hpos)] at hx
      cases hx

/-- A call that goes on in the current generation, or ends. -/
theorem set {i : Nat} {op : Option Suspended}
    (hop : ∀ x, op = some x → ∀ g', x.generation = some g' → g' = g) : Grows g a (a.set i op) := by
  intro j x hx
  unfold callAt at hx
  rcases eq_or_ne i j with rfl | hij
  · rcases Nat.lt_or_ge i a.length with hlt | hge
    · rw [List.getElem?_set_self hlt] at hx
      exact .inr (hop x hx)
    · rw [List.getElem?_eq_none (by simpa using hge)] at hx
      cases hx
  · rw [List.getElem?_set_ne hij] at hx
    exact .inl ⟨x, hx, .inl rfl⟩

theorem modify_cancel (i : Nat) : Grows g a (a.modify i (·.map .cancel)) := by
  intro j x hx
  unfold callAt at hx ⊢
  rw [List.getElem?_modify] at hx
  cases hj : a[j]? with
  | none => rw [hj] at hx; cases hx
  | some op =>
      rw [hj] at hx
      cases op with
      | none => split at hx <;> cases hx
      | some op =>
          split at hx <;> cases hx
          · exact .inl ⟨_, rfl, .inr rfl⟩
          · exact .inl ⟨_, rfl, .inl rfl⟩

end Grows

namespace TerminalSession

variable {s : TerminalSession}

/-- Dropping a publication cancels its call. -/
theorem dropPublication_calls (g : Nat) : Grows g s.suspended s.dropPublication.suspended := by
  unfold dropPublication
  simp only
  split
  · exact .refl _ _
  · exact .modify_cancel _

theorem settle_calls (g i : Nat) : Grows g s.suspended (s.settle i).suspended :=
  .set fun _ h => nomatch h

theorem publishIfCurrent_calls (g generation token : Nat) :
    Grows g s.suspended (s.publishIfCurrent generation token).suspended := by
  unfold publishIfCurrent
  split
  · exact dropPublication_calls g
  · exact .refl _ _

theorem schedulePublish_calls {generation : Nat} :
    Grows generation s.suspended (s.schedulePublish generation).suspended := by
  unfold schedulePublish
  split
  · exact .refl _ _
  · exact .append fun _ h => (Option.some.inj h).symm

theorem failClosed_calls (g : Nat) (message : Bytes) :
    Grows g s.suspended (s.failClosed message).1.suspended :=
  (dropPublication_calls (s := s.finishOutput) g).trans
    (dropPublication_calls (s := s.finishOutput.publishImmediately) g)

theorem connect_calls (valid : Bool) :
    Grows (s.connect valid).1.generation s.suspended (s.connect valid).1.suspended := by
  unfold connect
  split
  · exact .refl _ _
  · exact .refl _ _
  · exact .refl _ _
  all_goals
    split
    · exact .refl _ _
    · exact (dropPublication_calls _).trans (.append fun _ h => (Option.some.inj h).symm)

theorem disconnect_calls :
    Grows s.disconnect.1.generation s.suspended s.disconnect.1.suspended := by
  unfold disconnect
  simp only
  split
  · exact (dropPublication_calls _).trans (.append fun _ h => nomatch h)
  · exact dropPublication_calls _

theorem send_calls (socket : Nat) (kind : SendKind) (message : ClientMessage) :
    Grows s.generation s.suspended (s.send socket kind message).1.suspended :=
  .append fun _ h => (Option.some.inj h).symm

/-! ## What a message does -/

/-- What `handle` can do when it does not throw. -/
inductive HandleStep (s : TerminalSession) (messageGeneration : Nat) : Handled → Prop
  | greeted {sessionID status : Bytes} {label : SourceLabel} (hnone : s.currentSessionID = none)
      (htransport : s.transport ≠ none) :
      HandleStep s messageGeneration
        ⟨{ s with state := .connected sessionID, sourceLabel := label, statusMessage := status },
          [], .continueReceiving⟩
  | shown {sessionID text : Bytes} (hstate : s.state = .connected sessionID) :
      HandleStep s messageGeneration
        ⟨(s.appendOutput text).schedulePublish messageGeneration, [], .continueReceiving⟩
  | codex {sessionID status : Bytes} {codexState : CodexState}
      (hstate : s.state = .connected sessionID) :
      HandleStep s messageGeneration
        ⟨{ s with codexState := codexState, statusMessage := status }, [], .continueReceiving⟩
  | exited {sessionID status : Bytes} (hstate : s.state = .connected sessionID) :
      HandleStep s messageGeneration
        ⟨{ s.finishOutput.publishImmediately with
            statusMessage := status
            generation := s.generation + 1
            transport := none
            state := .disconnected }, s.closeTransport .normal, .terminal⟩
  | gaveUp {message : Bytes} :
      HandleStep s messageGeneration
        ⟨(s.failClosed message).1, (s.failClosed message).2, .terminal⟩

/-- The guard of a case and its body. -/
theorem ofSession_ok {sessionID : Bytes} {body : Except ProtocolError Handled} {handled : Handled}
    (h : s.ofSession sessionID body = .ok handled) :
    s.state = .connected sessionID ∧ body = .ok handled := by
  unfold ofSession at h
  split at h
  · rename_i hstate
    exact ⟨hstate, h⟩
  · cases h

/-- A greeting is one way to handle a message. -/
theorem greet_ok {messageGeneration : Nat} {sessionID : Bytes} {label : SourceLabel}
    {message : String} {handled : Handled} (h : s.greet sessionID label message = .ok handled) :
    HandleStep s messageGeneration handled := by
  unfold greet at h
  split at h
  · rename_i hguard
    cases h
    exact .greeted hguard.1 hguard.2
  · cases h

/-- A message is handled in the generation it was received in. -/
theorem handleDecoded_ok {messageGeneration : Nat} {message : ServerMessage} {handled : Handled}
    (h : s.handleDecoded messageGeneration message = .ok handled) :
    HandleStep s messageGeneration handled := by
  cases message with
  | hello sessionID => exact greet_ok h
  | mirrorHello sessionID => exact greet_ok h
  | output sessionID text =>
      obtain ⟨hstate, h⟩ := ofSession_ok h
      cases h
      exact .shown hstate
  | mirrorOutput sessionID text =>
      obtain ⟨hstate, h⟩ := ofSession_ok h
      split at h
      · cases h
        exact .shown hstate
      · cases h
  | exit sessionID code =>
      obtain ⟨hstate, h⟩ := ofSession_ok h
      cases h
      exact .exited hstate
  | error sessionID code message =>
      simp only [handleDecoded] at h
      split at h
      · cases h
      · cases h
        exact .gaveUp
  | mirrorError sessionID code message =>
      obtain ⟨-, h⟩ := ofSession_ok h
      cases h
      exact .gaveUp
  | codexStarted sessionID requestID =>
      obtain ⟨hstate, h⟩ := ofSession_ok h
      cases h
      exact .codex hstate
  | codexOutput sessionID requestID text =>
      obtain ⟨hstate, h⟩ := ofSession_ok h
      cases h
      exact .shown hstate
  | codexExit sessionID requestID code =>
      obtain ⟨hstate, h⟩ := ofSession_ok h
      cases h
      exact .codex hstate
  | codexError sessionID requestID code message =>
      obtain ⟨hstate, h⟩ := ofSession_ok h
      cases h
      exact .codex hstate

/-- **A message that is taken does one of these.** -/
theorem handle_ok {data : Bytes} {messageGeneration : Nat} {handled : Handled}
    (h : s.handle data messageGeneration = .ok handled) :
    HandleStep s messageGeneration handled := by
  unfold handle at h
  split at h
  · cases h
    exact .gaveUp
  · split at h
    · cases h
      exact .gaveUp
    · split at h
      · cases h
      · exact handleDecoded_ok h

theorem schedulePublish_generation (generation : Nat) :
    (s.schedulePublish generation).generation = s.generation := by
  unfold schedulePublish
  split <;> rfl

theorem HandleStep.calls {handled : Handled} (h : HandleStep s s.generation handled) :
    Grows handled.session.generation s.suspended handled.session.suspended := by
  cases h with
  | greeted hnone htransport => exact .refl _ _
  | @shown sessionID text hstate =>
      rw [schedulePublish_generation (s := s.appendOutput text)]
      exact schedulePublish_calls (s := s.appendOutput text)
  | codex hstate => exact .refl _ _
  | exited hstate => exact dropPublication_calls (s := s.finishOutput) _
  | gaveUp => exact failClosed_calls _ _

/-! ## Going on -/

theorem receiveNext_calls (i socket loopGeneration : Nat) :
    Grows (s.receiveNext i socket loopGeneration).generation s.suspended
      (s.receiveNext i socket loopGeneration).suspended := by
  unfold receiveNext
  split
  · rename_i hcurrent
    refine .set fun op hop g' hg' => ?_
    cases hop
    exact (Option.some.inj hg').symm.trans hcurrent.symm
  · exact settle_calls _ _

theorem receiveNext_generation (i socket loopGeneration : Nat) :
    (s.receiveNext i socket loopGeneration).generation = s.generation := by
  unfold receiveNext
  split <;> rfl

theorem receiveFailed_calls (g i loopGeneration : Nat) (message : String) :
    Grows g s.suspended (s.receiveFailed i loopGeneration message).1.suspended := by
  unfold receiveFailed
  split
  · exact (settle_calls g i).trans (failClosed_calls g _)
  · exact settle_calls g i

theorem received_calls (i socket loopGeneration : Nat) (outcome : Outcome) :
    Grows (s.received i socket loopGeneration outcome).1.generation s.suspended
      (s.received i socket loopGeneration outcome).1.suspended := by
  cases outcome with
  | message data =>
      simp only [received]
      split
      · rename_i hcurrent
        subst hcurrent
        split
        · rename_i t effects heq
          have hnext := receiveNext_calls (s := t) i socket s.generation
          rw [receiveNext_generation] at hnext ⊢
          exact (handle_ok heq).calls.trans hnext
        · rename_i t effects heq
          exact (handle_ok heq).calls.trans (settle_calls _ i)
        · exact receiveFailed_calls _ _ _ _
      · exact settle_calls _ _
  | done => exact .refl _ _
  | failed => exact receiveFailed_calls _ _ _ _
  | cancelled => exact settle_calls _ _

theorem sent_calls (g i : Nat) (kind : SendKind) (ok : Bool) :
    Grows g s.suspended (s.sent i kind ok).1.suspended := by
  have hfailed : ∀ message, Grows g s.suspended ((s.settle i).failClosed message).1.suspended :=
    fun message => (settle_calls g i).trans (failClosed_calls g message)
  cases kind <;> cases ok
  case input.false => exact hfailed _
  case interrupt.false => exact hfailed _
  all_goals exact settle_calls g i

theorem resume_calls (i : Nat) (outcome : Outcome) :
    Grows (s.resume i outcome).1.generation s.suspended (s.resume i outcome).1.suspended := by
  unfold resume
  split
  · exact .refl _ _
  · exact receiveNext_calls _ _ _
  · exact received_calls _ _ _ _
  · cases outcome with
    | message data => exact .refl _ _
    | done => exact sent_calls _ _ _ _
    | failed => exact sent_calls _ _ _ _
    | cancelled => exact sent_calls _ _ _ _
  · simp only
    split
    · exact settle_calls _ _
    · exact (settle_calls _ i).trans (publishIfCurrent_calls _ _ _)
  · cases outcome with
    | done => exact settle_calls _ _
    | failed => exact settle_calls _ _
    | message data => exact .refl _ _
    | cancelled => exact .refl _ _

end TerminalSession

/-- **A call carries the generation it was begun under.** -/
theorem terminalStep_calls (s : TerminalSession) (e : TerminalEvent) :
    Grows (terminalStep s e).1.generation s.suspended (terminalStep s e).1.suspended := by
  cases e with
  | connect valid => exact TerminalSession.connect_calls valid
  | disconnect => exact TerminalSession.disconnect_calls
  | clearVisibleHistory => exact TerminalSession.dropPublication_calls _
  | sendInput text =>
      simp only [terminalStep, TerminalSession.sendInput]
      repeat' split
      all_goals first
        | exact TerminalSession.send_calls _ _ _
        | exact .refl _ _
  | sendInterrupt =>
      simp only [terminalStep, TerminalSession.sendInterrupt]
      repeat' split
      all_goals first
        | exact TerminalSession.send_calls _ _ _
        | exact .refl _ _
  | sendCodexPrompt prompt uuid =>
      simp only [terminalStep, TerminalSession.sendCodexPrompt]
      repeat' split
      all_goals first
        | exact TerminalSession.send_calls _ _ _
        | exact .refl _ _
  | cancelCodex uuid =>
      simp only [terminalStep, TerminalSession.cancelCodex]
      split
      · exact TerminalSession.send_calls _ _ _
      · exact .refl _ _
  | newCodexSession =>
      simp only [terminalStep, TerminalSession.newCodexSession]
      split
      · exact TerminalSession.send_calls _ _ _
      · exact .refl _ _
  | resume call outcome => exact TerminalSession.resume_calls call outcome

/-! ## Late calls -/

/-- The part of the terminal a generation has to itself. -/
structure TerminalView where
  state : TerminalState
  transport : Option Nat
  terminalText : Bytes
  codexState : CodexState
  buffer : TerminalBuffer
  deriving DecidableEq, Repr

def TerminalSession.view (s : TerminalSession) : TerminalView :=
  ⟨s.state, s.transport, s.terminalText, s.codexState, s.buffer⟩

/-- The call was begun under another generation than the current one. -/
def TerminalSession.Late (s : TerminalSession) (i : Nat) : Prop :=
  ∃ op g, callAt s.suspended i = some op ∧ op.generation = some g ∧ g ≠ s.generation

/-- A step that goes on with a late call leaves the view alone. -/
def Isolated (s : TerminalSession) (e : TerminalEvent) : Prop :=
  ∀ i outcome, e = .resume i outcome → s.Late i → (terminalStep s e).1.view = s.view

/-- The ends of a send that change the terminal. -/
def SendKind.spoils : SendKind → TerminalSession.Outcome → Bool
  | .input, .failed | .input, .cancelled | .interrupt, .failed | .interrupt, .cancelled => true
  | .prompt, .done | .cancel, .done | .reset, .done => true
  | _, _ => false

/-- The step is such an end of a send of another generation. -/
def lateSend (s : TerminalSession) : TerminalEvent → Bool
  | .resume i outcome =>
      match callAt s.suspended i with
      | some (.sending kind g) => g != s.generation && kind.spoils outcome
      | _ => false
  | _ => false

/-- What arrives for an earlier generation changes nothing to see. -/
theorem TerminalSession.received_view {s : TerminalSession} {i socket loopGeneration : Nat}
    (hlate : loopGeneration ≠ s.generation) (outcome : TerminalSession.Outcome) :
    (s.received i socket loopGeneration outcome).1.view = s.view := by
  have hne : ¬ s.generation = loopGeneration := fun h => hlate h.symm
  cases outcome with
  | message data => simp only [received, if_neg hne]; rfl
  | done => rfl
  | failed => simp only [received, receiveFailed, if_neg hne]; rfl
  | cancelled => rfl

/-- A send that has ended changes nothing to see, unless it failed. -/
theorem TerminalSession.sent_view {s : TerminalSession} {i : Nat} {kind : SendKind} {ok : Bool}
    {outcome : TerminalSession.Outcome} (houtcome : outcome = if ok then .done else .failed)
    (hspoils : kind.spoils outcome = false) : (s.sent i kind ok).1.view = s.view := by
  subst houtcome
  cases kind <;> cases ok <;> first
    | rfl
    | cases hspoils

/-- Beside a late send every step is isolated. -/
theorem isolated_of_not_lateSend {s : TerminalSession} {e : TerminalEvent}
    (h : lateSend s e = false) : Isolated s e := by
  rintro i outcome rfl ⟨op, g, hop, hg, hlate⟩
  have hop' : s.suspended[i]?.join = some op := hop
  simp only [terminalStep, TerminalSession.resume, hop']
  cases op with
  | starting socket generation =>
      simp only [TerminalSession.receiveNext]
      split <;> rfl
  | receiving socket generation =>
      cases hg
      exact TerminalSession.received_view hlate outcome
  | sending kind generation =>
      cases hg
      have hspoils : kind.spoils outcome = false := by
        simpa only [lateSend, hop, bne_iff_ne.mpr hlate, Bool.true_and] using h
      cases outcome with
      | message data => rfl
      | done => exact TerminalSession.sent_view rfl hspoils
      | failed => exact TerminalSession.sent_view rfl hspoils
      | cancelled =>
          have hfailed : kind.spoils .failed = false := by
            cases kind <;> first | rfl | cases hspoils
          exact TerminalSession.sent_view rfl hfailed
  | publishing generation token cancelled =>
      cases hg
      have hne : ¬ ((s.settle i).generation = g ∧ (s.settle i).publishToken = token) :=
        fun h => hlate h.1.symm
      cases cancelled with
      | true => rfl
      | false =>
          show ((s.settle i).publishIfCurrent g token).view = s.view
          rw [TerminalSession.publishIfCurrent, if_neg hne]
          rfl
  | closing socket sessionID => cases hg

/-- **Generations are isolated** in every run in which no send of an
earlier generation ends in one of the ways that change the terminal: the
calls carry the generation they were begun under, and one that goes on
under a later generation leaves state, transport, text, Codex state and
buffer as they are. -/
theorem generations_isolated (es : List TerminalEvent)
    (h : terminalMachine.AllSteps (lateSend · · = false) terminalMachine.init es) :
    terminalMachine.AllSteps
      (fun s e => Isolated s e ∧
        Grows (terminalStep s e).1.generation s.suspended (terminalStep s e).1.suspended)
      terminalMachine.init es := by
  rw [Machine.allSteps_iff_split] at h ⊢
  rintro pre e post rfl
  exact ⟨isolated_of_not_lateSend (h pre e post rfl), terminalStep_calls _ e⟩

/-- A connection greeted as `s`, an input on its way, and a second
connection. -/
def lateEvents : List TerminalEvent :=
  [.connect true, .resume 0 .done,
    .resume 0 (.message (ascii "\x7b\"v\":1,\"type\":\"hello\",\"session_id\":\"s\"\x7d")),
    .sendInput (ascii "x"), .disconnect, .connect true]

theorem generations_isolated_sent :
    terminalMachine.AllSteps
      (fun s e => Isolated s e ∧
        Grows (terminalStep s e).1.generation s.suspended (terminalStep s e).1.suspended)
      terminalMachine.init (lateEvents ++ [.resume 1 .done]) :=
  generations_isolated _ (by decide +kernel)

/-- The input fails, and the second connection is closed. -/
theorem late_input_closes : ¬ ∀ es, terminalMachine.AllSteps Isolated terminalMachine.init es := by
  intro h
  have hall := (Machine.allSteps_iff_split _ _ _ _).mp (h (lateEvents ++ [.resume 1 .failed]))
  have hlast := hall lateEvents (.resume 1 .failed) [] rfl 1 .failed rfl
    ⟨.sending .input 1, 1, by decide +kernel, rfl, by decide +kernel⟩
  exact absurd hlast (by decide +kernel)

end Bootmux.Iphone
