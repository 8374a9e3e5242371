/-
Bootmux.Iphone.PublicationTheorems — what the iPhone's terminal shows.

Output goes to the buffer, and a task publishes the buffer a little later.
A connection that ends by itself publishes first; `disconnect` gives up the
task and publishes nothing, so that what it held is never shown. In every
other step the text is the buffer's, or a task of the current generation and
token waits (`never_stale_iff`). What is shown was received since the last
clear, whatever happens (`shown_since_clear`).

The first part goes by three kinds of steps: those that leave buffer, text
and task alone (`Still`), those that publish, and those that append and
leave a task waiting. For the second, what the buffer holds is followed back
to the messages it came from (`MadeOf`): the sanitized pieces since the last
clear, cut at the front by the limit. The text is a part of what the same
pieces give (`SinceClear`), so nothing that was cleared comes back.
-/
import Bootmux.Iphone.GenerationTheorems

namespace Bootmux.Iphone

open Bootmux.Bmx1 (Bytes ascii)
open Bootmux.Lib

/-! ## The publication that waits -/

/-- A call that waits keeps its number. -/
theorem callAt_concat {calls : List (Option Suspended)} {i : Nat} {op : Suspended}
    {new : Option Suspended} (h : callAt calls i = some op) :
    callAt (calls ++ [new]) i = callAt calls i := by
  have hlt : i < calls.length := by
    by_contra hge
    have hnone : calls[i]? = none := List.getElem?_eq_none (Nat.le_of_not_lt hge)
    rw [callAt, hnone] at h
    cases h
  rw [callAt, callAt, List.getElem?_append_left hlt]

namespace TerminalSession

/-- The task number `i` passes the guard of `publishIfCurrent`. -/
def Publishes (s : TerminalSession) (i : Nat) : Prop :=
  callAt s.suspended i = some (.publishing s.generation s.publishToken false)

/-- No publication waits. -/
def Idle (s : TerminalSession) : Prop :=
  s.publishTask = none ∧ s.hasPendingPublication = false

/-- A publication that waits will pass, and the flag says that it waits. -/
def Waits (s : TerminalSession) : Prop :=
  s.hasPendingPublication = s.publishTask.isSome ∧ ∀ i ∈ s.publishTask, s.Publishes i

/-- With nothing to publish nothing waits. -/
theorem Idle.waits {s : TerminalSession} (h : s.Idle) : s.Waits :=
  ⟨by rw [h.1, h.2]; rfl, by simp [h.1]⟩

/-- The text and the publication are as they were. -/
structure Still (s t : TerminalSession) : Prop where
  buffer : t.buffer = s.buffer
  sanitizer : t.sanitizer = s.sanitizer
  text : t.terminalText = s.terminalText
  task : t.publishTask = s.publishTask
  flag : t.hasPendingPublication = s.hasPendingPublication
  publishes : ∀ i, s.Publishes i → t.Publishes i

theorem Still.waits {s t : TerminalSession} (h : Still s t) (hs : s.Waits) : t.Waits := by
  refine ⟨?_, ?_⟩
  · rw [h.flag, h.task]
    exact hs.1
  · rw [h.task]
    exact fun i hi => h.publishes i (hs.2 i hi)

theorem Still.trans {s t u : TerminalSession} (hst : Still s t) (htu : Still t u) : Still s u where
  buffer := htu.buffer.trans hst.buffer
  sanitizer := htu.sanitizer.trans hst.sanitizer
  text := htu.text.trans hst.text
  task := htu.task.trans hst.task
  flag := htu.flag.trans hst.flag
  publishes i hi := htu.publishes i (hst.publishes i hi)

variable {s : TerminalSession}

/-- A call that is not the publication's ends or goes on. -/
theorem still_set {i : Nat} {op : Option Suspended} (h : ¬s.Publishes i) :
    Still s { s with suspended := s.suspended.set i op } where
  buffer := rfl
  sanitizer := rfl
  text := rfl
  task := rfl
  flag := rfl
  publishes j hj := by
    have hij : i ≠ j := fun hij => h (hij ▸ hj)
    show (s.suspended.set i op)[j]?.join = _
    rw [List.getElem?_set_ne hij]
    exact hj

/-- A new call leaves what is shown. -/
theorem still_suspend (op : Suspended) : Still s (s.suspend op) where
  buffer := rfl
  sanitizer := rfl
  text := rfl
  task := rfl
  flag := rfl
  publishes j hj := by
    exact (callAt_concat hj).trans hj

/-- After `schedulePublish` a publication of the generation waits. -/
theorem schedulePublish_waits (hs : s.Waits) :
    (s.schedulePublish s.generation).Waits ∧
    (s.schedulePublish s.generation).publishTask ≠ none := by
  unfold schedulePublish
  split
  · next i htask => exact ⟨hs, by simp [htask]⟩
  · refine ⟨⟨rfl, ?_⟩, by simp⟩
    rintro i ⟨⟩
    show (s.suspended ++ [_])[s.suspended.length]?.join = _
    rw [List.getElem?_concat_length]
    rfl

theorem schedulePublish_callAt {i : Nat} {op : Suspended} (generation : Nat)
    (h : callAt s.suspended i = some op) :
    callAt (s.schedulePublish generation).suspended i = some op := by
  unfold schedulePublish
  split
  · exact h
  · exact (callAt_concat h).trans h

/-- Scheduling leaves the text. -/
theorem schedulePublish_text (generation : Nat) :
    (s.schedulePublish generation).buffer = s.buffer ∧
      (s.schedulePublish generation).sanitizer = s.sanitizer ∧
      (s.schedulePublish generation).terminalText = s.terminalText := by
  unfold schedulePublish
  split <;> exact ⟨rfl, rfl, rfl⟩

end TerminalSession

/-! ## What a step does to the text -/

/-- The text a message has for the terminal. -/
def ServerMessage.shownText : ServerMessage → Option Bytes
  | .output _ text | .mirrorOutput _ text | .codexOutput _ _ text => some text
  | _ => none

/-- The history is cleared: by the user, or by a `connect` that begins. -/
def Clears (s : TerminalSession) : TerminalEvent → Bool
  | .clearVisibleHistory => true
  | .connect valid =>
      valid && match s.state with
        | .disconnected | .failed _ => true
        | _ => false
  | _ => false

/-- A message with this text is received. -/
def Receives (s : TerminalSession) (e : TerminalEvent) (text : Bytes) : Prop :=
  ∃ i data message, e = .resume i (.message data) ∧
    decodeServer data s.currentSessionID = .ok message ∧ message.shownText = some text

open TerminalSession in
/-- What a step of the terminal `s` has done to what is shown. -/
inductive TextStep (s : TerminalSession) (e : TerminalEvent) (t : TerminalSession) : Prop
  | still (h : Still s t) (hkept : Clears s e = false)
  | cleared (hclears : Clears s e = true) (hbuffer : t.buffer = s.buffer.clear)
      (hsanitizer : t.sanitizer = {}) (htext : t.terminalText = []) (hidle : t.Idle)
  | shown (text : Bytes) (hreceives : Receives s e text)
      (hbuffer : t.buffer = (s.appendOutput text).buffer)
      (hsanitizer : t.sanitizer = (s.appendOutput text).sanitizer)
      (htext : t.terminalText = s.terminalText)
      (hwaits : s.Waits → t.Waits ∧ t.publishTask ≠ none)
  | published (i : Nat) (outcome : Outcome) (hresume : e = .resume i outcome)
      (hbuffer : t.buffer = s.buffer) (hsanitizer : t.sanitizer = s.sanitizer)
      (htext : t.terminalText = s.buffer.text) (hidle : t.Idle)
  | ended (i : Nat) (outcome : Outcome) (hresume : e = .resume i outcome)
      (hbuffer : t.buffer = s.finishOutput.buffer) (hsanitizer : t.sanitizer = {})
      (htext : t.terminalText = s.finishOutput.buffer.text) (hidle : t.Idle)
  | disconnected (hdisconnect : e = .disconnect) (hbuffer : t.buffer = s.buffer)
      (hsanitizer : t.sanitizer = s.sanitizer) (htext : t.terminalText = s.terminalText)
      (hidle : t.Idle)

namespace TerminalSession

variable {s : TerminalSession}

/-- A call that is over leaves what a failure shows. -/
theorem failClosed_ended {i : Nat} {outcome : Outcome} (message : Bytes) :
    TextStep s (.resume i outcome) ((s.settle i).failClosed message).1 :=
  .ended i outcome rfl rfl rfl rfl ⟨rfl, rfl⟩

/-- What a message that is taken does to the text. -/
inductive HandleText (s : TerminalSession) (text? : Option Bytes) : Handled → Prop
  | still {t : TerminalSession} {effects : List TerminalEffect} (h : Still s t)
      (hcalls : t.suspended = s.suspended) : HandleText s text? ⟨t, effects, .continueReceiving⟩
  | shown (text : Bytes) (htext : text? = some text) :
      HandleText s text?
        ⟨(s.appendOutput text).schedulePublish s.generation, [], .continueReceiving⟩
  | ended {t : TerminalSession} {effects : List TerminalEffect}
      (hbuffer : t.buffer = s.finishOutput.buffer) (hsanitizer : t.sanitizer = {})
      (htext : t.terminalText = s.finishOutput.buffer.text) (hidle : t.Idle) :
      HandleText s text? ⟨t, effects, .terminal⟩

/-- A message that is refused gives up the text. -/
theorem HandleText.gaveUp (text? : Option Bytes) (message : Bytes) :
    HandleText s text? ⟨(s.failClosed message).1, (s.failClosed message).2, .terminal⟩ :=
  .ended rfl rfl rfl ⟨rfl, rfl⟩

theorem greet_text {sessionID : Bytes} {label : SourceLabel} {message : String}
    {text? : Option Bytes}
    {handled : Handled} (h : s.greet sessionID label message = .ok handled) :
    HandleText s text? handled := by
  unfold greet at h
  split at h
  · cases h
    exact .still ⟨rfl, rfl, rfl, rfl, rfl, fun _ hi => hi⟩ rfl
  · cases h

theorem handleDecoded_text {message : ServerMessage} {handled : Handled}
    (h : s.handleDecoded s.generation message = .ok handled) :
    HandleText s message.shownText handled := by
  cases message with
  | hello sessionID => exact greet_text h
  | mirrorHello sessionID => exact greet_text h
  | output sessionID text =>
      obtain ⟨-, h⟩ := ofSession_ok h
      cases h
      exact .shown text rfl
  | mirrorOutput sessionID text =>
      obtain ⟨-, h⟩ := ofSession_ok h
      split at h
      · cases h
        exact .shown text rfl
      · cases h
  | exit sessionID code =>
      obtain ⟨-, h⟩ := ofSession_ok h
      cases h
      exact .ended rfl rfl rfl ⟨rfl, rfl⟩
  | error sessionID code message =>
      simp only [handleDecoded] at h
      split at h
      · cases h
      · cases h
        exact .gaveUp _ _
  | mirrorError sessionID code message =>
      obtain ⟨-, h⟩ := ofSession_ok h
      cases h
      exact .gaveUp _ _
  | codexStarted sessionID requestID =>
      obtain ⟨-, h⟩ := ofSession_ok h
      cases h
      exact .still ⟨rfl, rfl, rfl, rfl, rfl, fun _ hi => hi⟩ rfl
  | codexOutput sessionID requestID text =>
      obtain ⟨-, h⟩ := ofSession_ok h
      cases h
      exact .shown text rfl
  | codexExit sessionID requestID code =>
      obtain ⟨-, h⟩ := ofSession_ok h
      cases h
      exact .still ⟨rfl, rfl, rfl, rfl, rfl, fun _ hi => hi⟩ rfl
  | codexError sessionID requestID code message =>
      obtain ⟨-, h⟩ := ofSession_ok h
      cases h
      exact .still ⟨rfl, rfl, rfl, rfl, rfl, fun _ hi => hi⟩ rfl

theorem handle_text {data : Bytes} {handled : Handled}
    (h : s.handle data s.generation = .ok handled) :
    ∃ text?, HandleText s text? handled ∧ ∀ text, text? = some text →
      ∃ message, decodeServer data s.currentSessionID = .ok message ∧
        message.shownText = some text := by
  unfold handle at h
  split at h
  · cases h
    exact ⟨none, .gaveUp _ _, by simp⟩
  · split at h
    · cases h
      exact ⟨none, .gaveUp _ _, by simp⟩
    · split at h
      · cases h
      · next message hdecoded =>
          exact ⟨message.shownText, handleDecoded_text h,
            fun text htext => ⟨message, hdecoded, htext⟩⟩

end TerminalSession

namespace TerminalSession

variable {s : TerminalSession}

/-- The next round of the receive loop. -/
theorem receiveNext_still {i : Nat} {op : Suspended} (hop : callAt s.suspended i = some op)
    (hreceiving : ∀ g token, op ≠ .publishing g token false) (socket loopGeneration : Nat) :
    Still s (s.receiveNext i socket loopGeneration) := by
  have hother : ¬s.Publishes i := fun h => hreceiving _ _ (Option.some.inj (hop.symm.trans h))
  unfold receiveNext
  split
  · exact still_set hother
  · exact still_set hother

theorem received_text {i socket loopGeneration : Nat}
    (hop : callAt s.suspended i = some (.receiving socket loopGeneration)) (outcome : Outcome) :
    TextStep s (.resume i outcome) (s.received i socket loopGeneration outcome).1 := by
  have hother : ¬s.Publishes i := fun h => nomatch hop.symm.trans h
  have hfailed : ∀ message, TextStep s (.resume i outcome)
      (s.receiveFailed i loopGeneration message).1 := by
    intro message
    unfold receiveFailed
    split
    · exact failClosed_ended _
    · exact .still (still_set hother) rfl
  cases outcome with
  | message data =>
      simp only [received]
      split
      · next hcurrent =>
          subst hcurrent
          split
          · next t effects heq =>
              obtain ⟨text?, htext, hmessage⟩ := handle_text heq
              cases htext with
              | still h hcalls =>
                  rw [← hcalls] at hop
                  exact .still (h.trans (receiveNext_still hop (by simp) _ _)) rfl
              | shown text heq' =>
                  obtain ⟨message, hdecoded, hshown⟩ := hmessage text heq'
                  have hnext := receiveNext_still
                    (schedulePublish_callAt (s := s.appendOutput text) s.generation hop) (by simp)
                    socket s.generation
                  obtain ⟨hbuffer, hsanitizer, hsame⟩ :=
                    schedulePublish_text (s := s.appendOutput text) s.generation
                  refine .shown text ⟨i, data, message, rfl, hdecoded, hshown⟩
                    (hnext.buffer.trans hbuffer) (hnext.sanitizer.trans hsanitizer)
                    (hnext.text.trans hsame) fun hwaits => ?_
                  obtain ⟨hafter, htask⟩ := schedulePublish_waits (s := s.appendOutput text) hwaits
                  exact ⟨hnext.waits hafter, hnext.task ▸ htask⟩
          · next t effects heq =>
              obtain ⟨text?, htext, -⟩ := handle_text heq
              cases htext with
              | ended hbuffer hsanitizer htext hidle =>
                  exact .ended i _ rfl hbuffer hsanitizer htext hidle
          · exact hfailed _
      · exact .still (still_set hother) rfl
  | done => exact .still ⟨rfl, rfl, rfl, rfl, rfl, fun _ h => h⟩ rfl
  | failed => exact hfailed _
  | cancelled => exact .still (still_set hother) rfl

theorem sent_text {i g : Nat} {kind : SendKind}
    (hop : callAt s.suspended i = some (.sending kind g))
    (outcome : Outcome) (ok : Bool) : TextStep s (.resume i outcome) (s.sent i kind ok).1 := by
  have hover : Still s (s.settle i) := still_set fun h => nomatch hop.symm.trans h
  have hsettled : ∀ t : TerminalSession, Still (s.settle i) t → TextStep s (.resume i outcome) t :=
    fun t h => .still (hover.trans h) rfl
  cases kind <;> cases ok
  case input.false => exact failClosed_ended _
  case interrupt.false => exact failClosed_ended _
  all_goals exact hsettled _ ⟨rfl, rfl, rfl, rfl, rfl, fun _ h => h⟩

theorem resume_text (i : Nat) (outcome : Outcome) :
    TextStep s (.resume i outcome) (s.resume i outcome).1 := by
  have hsame : TextStep s (.resume i outcome) s :=
      .still ⟨rfl, rfl, rfl, rfl, rfl, fun _ h => h⟩ rfl
  unfold resume
  split
  · exact hsame
  · next socket g hop =>
      exact .still (@receiveNext_still s i (.starting socket g) hop (by simp) _ _) rfl
  · next socket g hop => exact received_text hop outcome
  · next kind g hop =>
      cases outcome with
      | message data => exact hsame
      | done => exact sent_text hop _ true
      | failed => exact sent_text hop _ false
      | cancelled => exact sent_text hop _ false
  · next generation token cancelled hop =>
      show TextStep s _ (if cancelled then s.settle i
        else (s.settle i).publishIfCurrent generation token)
      by_cases hpublishes : s.Publishes i
      · obtain ⟨rfl, rfl, rfl⟩ : generation = s.generation ∧ token = s.publishToken ∧
            cancelled = false := by
          simpa using Option.some.inj (Eq.trans (Eq.symm hop) hpublishes)
        show TextStep s _ ((s.settle i).publishIfCurrent s.generation s.publishToken)
        rw [publishIfCurrent, if_pos ⟨rfl, rfl⟩]
        exact .published i outcome rfl rfl rfl rfl ⟨rfl, rfl⟩
      · have hover : TextStep s (.resume i outcome) (s.settle i) :=
          .still (still_set hpublishes) rfl
        cases cancelled with
        | true => exact hover
        | false =>
            show TextStep s _ ((s.settle i).publishIfCurrent generation token)
            rw [publishIfCurrent, if_neg]
            · exact hover
            · rintro ⟨rfl, rfl⟩
              exact hpublishes hop
  · next socket sessionID hop =>
      have hover : TextStep s (.resume i outcome) (s.settle i) :=
        .still (still_set fun h => by cases Eq.trans (Eq.symm hop) h) rfl
      cases outcome with
      | done => exact hover
      | failed => exact hover
      | message data => exact hsame
      | cancelled => exact hsame

end TerminalSession

theorem connect_text (s : TerminalSession) (valid : Bool) :
    TextStep s (.connect valid) (s.connect valid).1 := by
  have hrefused : ∀ t : TerminalSession, TerminalSession.Still s t →
      Clears s (.connect valid) = false → TextStep s (.connect valid) t := fun t => .still
  cases hstate : s.state <;> cases valid
  case disconnected.true =>
    simp only [TerminalSession.connect, hstate]
    exact .cleared (by simp [Clears, hstate]) rfl rfl rfl ⟨rfl, rfl⟩
  case failed.true =>
    simp only [TerminalSession.connect, hstate]
    exact .cleared (by simp [Clears, hstate]) rfl rfl rfl ⟨rfl, rfl⟩
  all_goals
    refine hrefused _ ?_ (by simp [Clears, hstate])
    simp only [TerminalSession.connect, hstate]
    exact ⟨rfl, rfl, rfl, rfl, rfl, fun _ h => h⟩

/-- `disconnect` gives the publication up. -/
theorem disconnect_gives_up (s : TerminalSession) :
    s.disconnect.1.Idle ∧ s.disconnect.1.buffer = s.buffer ∧
      s.disconnect.1.sanitizer = s.sanitizer ∧ s.disconnect.1.terminalText = s.terminalText := by
  unfold TerminalSession.disconnect
  simp only
  split
  · exact ⟨⟨rfl, rfl⟩, rfl, rfl, rfl⟩
  · exact ⟨⟨rfl, rfl⟩, rfl, rfl, rfl⟩

theorem disconnect_text (s : TerminalSession) : TextStep s .disconnect s.disconnect.1 := by
  obtain ⟨hidle, hbuffer, hsanitizer, htext⟩ := disconnect_gives_up s
  exact .disconnected rfl hbuffer hsanitizer htext hidle

/-- **A step does one of these to the text.** -/
theorem terminalStep_text (s : TerminalSession) (e : TerminalEvent) :
    TextStep s e (terminalStep s e).1 := by
  have hsame : Clears s e = false → TextStep s e s :=
    .still ⟨rfl, rfl, rfl, rfl, rfl, fun _ h => h⟩
  have hstatus : ∀ message, Clears s e = false → TextStep s e (s.withStatus message) :=
    fun message => .still ⟨rfl, rfl, rfl, rfl, rfl, fun _ h => h⟩
  have hsend : ∀ socket kind message, Clears s e = false →
      TextStep s e (s.send socket kind message).1 :=
    fun socket kind message => .still (TerminalSession.still_suspend _)
  cases e with
  | connect valid => exact connect_text s valid
  | disconnect => exact disconnect_text s
  | clearVisibleHistory => exact .cleared rfl rfl rfl rfl ⟨rfl, rfl⟩
  | sendInput text =>
      simp only [terminalStep, TerminalSession.sendInput]
      repeat' split
      all_goals first
        | exact hstatus _ rfl
        | exact hsend _ _ _ rfl
  | sendInterrupt =>
      simp only [terminalStep, TerminalSession.sendInterrupt]
      repeat' split
      all_goals first
        | exact hstatus _ rfl
        | exact hsend _ _ _ rfl
        | exact hsame rfl
  | sendCodexPrompt prompt uuid =>
      simp only [terminalStep, TerminalSession.sendCodexPrompt]
      repeat' split
      all_goals first
        | exact hstatus _ rfl
        | exact hsend _ _ _ rfl
  | cancelCodex uuid =>
      simp only [terminalStep, TerminalSession.cancelCodex]
      split
      · exact hsend _ _ _ rfl
      · exact hsame rfl
  | newCodexSession =>
      simp only [terminalStep, TerminalSession.newCodexSession]
      split
      · exact hsend _ _ _ rfl
      · exact hsame rfl
  | resume call outcome => exact TerminalSession.resume_text call outcome

/-! ## What is shown is what was received -/

/-- The induction over a run. -/
theorem waits_run (es : List TerminalEvent) : (terminalMachine.run es).Waits := by
  refine terminalMachine.run_invariant (TerminalSession.Idle.waits ⟨rfl, rfl⟩) ?_ es
  intro s e hs
  cases terminalStep_text s e with
  | still h hkept => exact h.waits hs
  | cleared hclears hbuffer hsanitizer htext hidle => exact hidle.waits
  | shown text hreceives hbuffer hsanitizer htext hwaits => exact (hwaits hs).1
  | published i outcome hresume hbuffer hsanitizer htext hidle => exact hidle.waits
  | ended i outcome hresume hbuffer hsanitizer htext hidle => exact hidle.waits
  | disconnected hdisconnect hbuffer hsanitizer htext hidle => exact hidle.waits

/-- A publication waits and will pass, or the text is the buffer's. -/
def TerminalSession.Published (s : TerminalSession) : Prop :=
  (∃ i, s.publishTask = some i ∧ s.Publishes i) ∨ s.terminalText = s.buffer.text

/-- `disconnect` gives up output that is not shown yet. -/
def Drops (s : TerminalSession) (e : TerminalEvent) : Prop :=
  e = .disconnect ∧ s.hasPendingPublication = true ∧ s.terminalText ≠ s.buffer.text

instance (s : TerminalSession) (e : TerminalEvent) : Decidable (Drops s e) := by
  unfold Drops
  infer_instance

/-- One step that drops nothing. -/
theorem published_step {s : TerminalSession} {e : TerminalEvent} (hwaits : s.Waits)
    (h : s.Published) (hkept : ¬Drops s e) : (terminalStep s e).1.Published := by
  cases terminalStep_text s e with
  | still hstill hclears =>
      rcases h with ⟨i, htask, hi⟩ | h
      · exact .inl ⟨i, hstill.task.trans htask, hstill.publishes i hi⟩
      · exact .inr (by rw [hstill.text, hstill.buffer, h])
  | cleared hclears hbuffer hsanitizer htext hidle => exact .inr (by rw [htext, hbuffer]; rfl)
  | shown text hreceives hbuffer hsanitizer htext hafter =>
      obtain ⟨hafter, hsome⟩ := hafter hwaits
      obtain ⟨i, htask⟩ := Option.ne_none_iff_exists'.mp hsome
      exact .inl ⟨i, htask, hafter.2 i htask⟩
  | published i outcome hresume hbuffer hsanitizer htext hidle =>
      exact .inr (by rw [htext, hbuffer])
  | ended i outcome hresume hbuffer hsanitizer htext hidle =>
      exact .inr (by rw [htext, hbuffer])
  | disconnected hdisconnect hbuffer hsanitizer htext hidle =>
      refine .inr ?_
      rw [htext, hbuffer]
      by_contra hdiffers
      rcases h with ⟨i, htask, -⟩ | h
      · exact hkept ⟨hdisconnect, by rw [hwaits.1, htask]; rfl, hdiffers⟩
      · exact hdiffers h

/-- What `disconnect` gives up is not shown and will not be. -/
theorem drops_stale {s : TerminalSession} {e : TerminalEvent} (h : Drops s e) :
    ¬(terminalStep s e).1.Published := by
  obtain ⟨rfl, -, hdiffers⟩ := h
  obtain ⟨hidle, hbuffer, -, htext⟩ := disconnect_gives_up s
  rintro (⟨i, hi, -⟩ | hsame)
  · exact absurd (hidle.1.symm.trans hi) (by simp)
  · exact hdiffers (htext.symm.trans (hsame.trans (by rw [← hbuffer]; rfl)))

/-- What goes into a history: the text of a message, or the end of a
connection. -/
inductive Piece where
  | text (text : Bytes)
  | finish
  deriving DecidableEq, Repr

def Piece.consume (sanitizer : ANSISanitizer) : Piece → ANSISanitizer × Bytes
  | .text received => sanitizer.consume received
  | .finish => sanitizer.finish

/-- What a new sanitizer makes of the pieces. -/
def sanitized (pieces : List Piece) : ANSISanitizer × Bytes :=
  pieces.foldl (fun r piece => ((piece.consume r.1).1, r.2 ++ (piece.consume r.1).2)) ({}, [])

/-- The pieces that went into the history since it was cleared last. -/
inductive SinceClear : List TerminalEvent → List Piece → Prop
  | begins : SinceClear [] []
  | cleared {es : List TerminalEvent} {e : TerminalEvent}
      (hclears : Clears (terminalMachine.run es) e = true) : SinceClear (es ++ [e]) []
  | silent {es : List TerminalEvent} {e : TerminalEvent} {pieces : List Piece}
      (h : SinceClear es pieces) (hkept : Clears (terminalMachine.run es) e = false) :
      SinceClear (es ++ [e]) pieces
  | received {es : List TerminalEvent} {e : TerminalEvent} {pieces : List Piece} {text : Bytes}
      (h : SinceClear es pieces) (hreceives : Receives (terminalMachine.run es) e text) :
      SinceClear (es ++ [e]) (pieces ++ [.text text])
  | ended {es : List TerminalEvent} {i : Nat} {outcome : TerminalSession.Outcome}
      {pieces : List Piece} (h : SinceClear es pieces) :
      SinceClear (es ++ [.resume i outcome]) (pieces ++ [.finish])

/-- The history of the terminal is made of these pieces. -/
structure MadeOf (s : TerminalSession) (pieces : List Piece) : Prop where
  sanitizer : s.sanitizer = (sanitized pieces).1
  buffer : s.buffer.text <:+ (sanitized pieces).2
  text : s.terminalText <:+: (sanitized pieces).2

/-- One more piece, in the state after those before. -/
theorem sanitized_concat (pieces : List Piece) (piece : Piece) :
    sanitized (pieces ++ [piece]) =
      ((piece.consume (sanitized pieces).1).1,
        (sanitized pieces).2 ++ (piece.consume (sanitized pieces).1).2) := by
  simp [sanitized]

/-- A buffer keeps an end of what it is given. -/
theorem TerminalBuffer.append_suffix {b : TerminalBuffer} {text added : Bytes}
    (h : b.text <:+ text) : (b.append added).text <:+ text ++ added := by
  have hall : b.text ++ added <:+ text ++ added := by
    obtain ⟨dropped, rfl⟩ := h
    exact ⟨dropped, by simp⟩
  unfold TerminalBuffer.append
  simp only
  split
  · exact hall
  · exact ((List.dropWhile_suffix _).trans (List.drop_suffix _ _)).trans hall

/-- One more piece, with the text as it was. -/
theorem MadeOf.concat {s t : TerminalSession} {pieces : List Piece} {piece : Piece}
    (h : MadeOf s pieces) (hbuffer : t.buffer = s.buffer.append (piece.consume s.sanitizer).2)
    (hsanitizer : t.sanitizer = (piece.consume s.sanitizer).1)
    (htext : t.terminalText = s.terminalText ∨ t.terminalText = t.buffer.text) :
    MadeOf t (pieces ++ [piece]) := by
  rw [h.sanitizer] at hbuffer hsanitizer
  have hsuffix : t.buffer.text <:+ (sanitized (pieces ++ [piece])).2 := by
    rw [hbuffer, sanitized_concat]
    exact TerminalBuffer.append_suffix h.buffer
  refine ⟨by rw [hsanitizer, sanitized_concat], hsuffix, ?_⟩
  rcases htext with htext | htext
  · rw [htext, sanitized_concat]
    exact h.text.trans (List.prefix_append _ _).isInfix
  · rw [htext]
    exact hsuffix.isInfix

/-- **What is shown was received since the last clear.** -/
theorem shown_since_clear (es : List TerminalEvent) :
    ∃ pieces, SinceClear es pieces ∧ MadeOf (terminalMachine.run es) pieces := by
  induction es using List.reverseRecOn with
  | nil => exact ⟨[], .begins, rfl, List.suffix_refl _, List.infix_refl _⟩
  | append_singleton es e ih =>
      obtain ⟨pieces, hsince, h⟩ := ih
      rw [Machine.run_concat]
      cases terminalStep_text (terminalMachine.run es) e with
      | still hstill hkept =>
          refine ⟨pieces, hsince.silent hkept, hstill.sanitizer.trans h.sanitizer, ?_, ?_⟩
          · exact hstill.buffer ▸ h.buffer
          · exact hstill.text ▸ h.text
      | cleared hclears hbuffer hsanitizer htext hidle =>
          refine ⟨[], .cleared hclears, hsanitizer, ?_, ?_⟩
          · exact hbuffer ▸ List.suffix_refl _
          · exact htext ▸ List.infix_refl _
      | shown text hreceives hbuffer hsanitizer htext hwaits =>
          exact ⟨_, hsince.received hreceives,
            @MadeOf.concat _ _ _ (.text text) h hbuffer hsanitizer (.inl htext)⟩
      | published i outcome hresume hbuffer hsanitizer htext hidle =>
          subst hresume
          refine ⟨pieces, hsince.silent rfl, hsanitizer.trans h.sanitizer, ?_, ?_⟩
          · exact hbuffer ▸ h.buffer
          · exact htext ▸ h.buffer.isInfix
      | ended i outcome hresume hbuffer hsanitizer htext hidle =>
          subst hresume
          exact ⟨_, hsince.ended, @MadeOf.concat _ _ _ .finish h hbuffer hsanitizer
            (.inr (htext.trans (congrArg TerminalBuffer.text hbuffer.symm)))⟩
      | disconnected hdisconnect hbuffer hsanitizer htext hidle =>
          subst hdisconnect
          refine ⟨pieces, hsince.silent rfl, hsanitizer.trans h.sanitizer, ?_, ?_⟩
          · exact hbuffer ▸ h.buffer
          · exact htext ▸ h.text

/-! ## Every state -/

/-- In every state the text is published or will be, and it was received
since the last clear. -/
def NeverStale (es : List TerminalEvent) : Prop :=
  ∀ pre post, es = pre ++ post → (terminalMachine.run pre).Published ∧
    ∃ pieces, SinceClear pre pieces ∧
      (terminalMachine.run pre).terminalText <:+: (sanitized pieces).2

/-- A run that is never stale drops nothing. -/
theorem NeverStale.keeps {es : List TerminalEvent} (h : NeverStale es) :
    terminalMachine.AllSteps (fun s e => ¬Drops s e) terminalMachine.init es := by
  rw [Machine.allSteps_iff_split]
  rintro pre e post rfl hdrops
  have hafter := (h (pre ++ [e]) post (by simp)).1
  rw [Machine.run_concat] at hafter
  exact drops_stale hdrops hafter

/-- The induction over a run that drops nothing. -/
theorem published_run (es : List TerminalEvent)
    (h : terminalMachine.AllSteps (fun s e => ¬Drops s e) terminalMachine.init es) :
    (terminalMachine.run es).Published := by
  induction es using List.reverseRecOn with
  | nil => exact .inr rfl
  | append_singleton es e ih =>
      rw [Machine.run_concat]
      exact published_step (waits_run es) (ih (terminalMachine.allSteps_left h))
        (terminalMachine.allSteps_last h)

/-- **The text is never stale** in the runs in which `disconnect` gives up no
output that is not shown yet, and in no others. -/
theorem never_stale_iff (es : List TerminalEvent) :
    NeverStale es ↔
      terminalMachine.AllSteps (fun s e => ¬Drops s e) terminalMachine.init es := by
  refine ⟨NeverStale.keeps, ?_⟩
  rintro h pre post rfl
  obtain ⟨pieces, hsince, hmade⟩ := shown_since_clear pre
  exact ⟨published_run pre (terminalMachine.allSteps_left h), pieces, hsince, hmade.text⟩

/-- Output arrives, and the user disconnects before it is published. -/
theorem disconnect_drops :
    ¬NeverStale
      [.connect true, .resume 0 .done,
        .resume 0 (.message
          (ascii "\x7b\"v\":1,\"type\":\"hello\",\"session_id\":\"s\"\x7d")),
        .resume 0 (.message (ascii
          ("\x7b\"v\":1,\"type\":\"output\",\"session_id\":\"s\",\"stream\":\"pty\"," ++
            "\"text\":\"x\"\x7d"))),
        .disconnect] := by
  intro h
  exact absurd h.keeps (by decide +kernel)

end Bootmux.Iphone
