/-
Bootmux.Iphone.ConnectionTheorems — what a step does to the connection of
the terminal.

A receive loop belongs to one transport and to the generation under which
it was begun. `Loops` says that the loops of the current generation read
the current transport, so that a message of another transport finds its
loop out of date. A step that goes on with no such loop leaves the
connection as it is, clears its history, leaves it or makes a new one
(`terminalStep_course`); one that does reads a message
(`terminalStep_reading`).

The calls of the session that wait are listed with their transports
(`Duty`), and `SameDuties` says that a step neither adds nor moves one. The
inductive `Course` has a case for each thing that can happen to a
connection; `Reading` has one for each way to handle a message. The other
modules about the terminal prove their invariants by cases on these two and
do not open the session's functions again.
-/
import Bootmux.Iphone.PublicationTheorems

namespace Bootmux.Iphone

open Bootmux.Bmx1 (Bytes ascii)
open Bootmux.Lib

/-! ## The calls that have a transport -/

/-- What a call has a transport for: the receive loop of a generation reads
it, `bestEffortClose` takes leave of a session. -/
inductive Duty where
  | read (socket generation : Nat)
  | close (socket : Nat) (sessionID : Bytes)
  deriving DecidableEq

def Suspended.duty : Suspended → Option Duty
  | .starting socket generation | .receiving socket generation => some (.read socket generation)
  | .closing socket sessionID => some (.close socket sessionID)
  | .sending _ _ | .publishing _ _ _ => none

/-- A call that is cancelled keeps its duty. -/
theorem Suspended.duty_cancel (op : Suspended) : op.cancel.duty = op.duty := by
  cases op <;> rfl

/-- The duty of the call number `i`. -/
def dutyAt (calls : List (Option Suspended)) (i : Nat) : Option Duty :=
  (callAt calls i).bind Suspended.duty

/-- Every duty of `b` is in `a`. -/
def SameDuties (a b : List (Option Suspended)) : Prop :=
  ∀ i duty, dutyAt b i = some duty → dutyAt a i = some duty

namespace SameDuties

variable {a b c : List (Option Suspended)}

theorem refl (a : List (Option Suspended)) : SameDuties a a := fun _ _ h => h

theorem trans (hab : SameDuties a b) (hbc : SameDuties b c) : SameDuties a c :=
  fun i duty h => hab i duty (hbc i duty h)

/-- A call without a duty. -/
theorem append {op : Suspended} (hop : op.duty = none) : SameDuties a (a ++ [some op]) := by
  intro i duty h
  unfold dutyAt callAt at h ⊢
  rcases Nat.lt_or_ge i a.length with hlt | hge
  · rwa [List.getElem?_append_left hlt] at h
  · rw [List.getElem?_append_right hge] at h
    rcases Nat.eq_zero_or_pos (i - a.length) with hzero | hpos
    · rw [hzero] at h
      exact absurd (hop.symm.trans h) (by simp)
    · rw [List.getElem?_eq_none (by simpa using Nat.succ_le_of_lt hpos)] at h
      cases h

/-- A call goes on as the loop it was, or is over. -/
theorem set {i : Nat} {op : Option Suspended} (hab : SameDuties a b)
    (hop : ∀ duty, op.bind Suspended.duty = some duty → dutyAt a i = some duty) :
    SameDuties a (b.set i op) := by
  intro j duty h
  unfold dutyAt callAt at h
  rcases eq_or_ne i j with rfl | hij
  · rcases Nat.lt_or_ge i b.length with hlt | hge
    · rw [List.getElem?_set_self hlt] at h
      exact hop duty h
    · rw [List.getElem?_eq_none (by simpa using hge)] at h
      cases h
  · rw [List.getElem?_set_ne hij] at h
    exact hab j duty h

/-- A call that has ended. -/
theorem ended (hab : SameDuties a b) (i : Nat) : SameDuties a (b.set i none) :=
  hab.set fun _ h => nomatch h

theorem modify_cancel (i : Nat) : SameDuties a (a.modify i (·.map .cancel)) := by
  intro j duty h
  unfold dutyAt callAt at h ⊢
  rw [List.getElem?_modify] at h
  cases hj : a[j]? with
  | none => rw [hj] at h; cases h
  | some op =>
      rw [hj] at h
      cases op with
      | none => split at h <;> cases h
      | some op =>
          split at h
          · exact (Suspended.duty_cancel op).symm.trans h
          · exact h

end SameDuties

/-- The loops of the current generation read the current transport, and
nobody else does; none is of a generation or a transport to come. -/
structure Loops (s : TerminalSession) : Prop where
  current : ∀ i socket, dutyAt s.suspended i = some (.read socket s.generation) →
    s.transport = some socket
  only : ∀ i socket generation, dutyAt s.suspended i = some (.read socket generation) →
    s.transport = some socket → generation = s.generation
  past : ∀ i socket generation, dutyAt s.suspended i = some (.read socket generation) →
    generation ≤ s.generation ∧ socket < s.transports

/-! ## What a step does -/

/-- The state `t` is connected to no session to which `s` is not. -/
def Kept (s t : TerminalSession) : Prop :=
  ∀ sessionID, t.state = .connected sessionID → s.state = .connected sessionID

/-- What a step has done to the connection of `s`; it clears the history
only if `clear`. -/
inductive Course (clear : Prop) (s t : TerminalSession) : Prop
  | stays (hduties : SameDuties s.suspended t.suspended) (htransport : t.transport = s.transport)
      (hgeneration : t.generation = s.generation) (htransports : t.transports = s.transports)
      (hstate : Kept s t) (hbuffer : t.buffer = s.buffer) (hsanitizer : t.sanitizer = s.sanitizer)
  | clears (hclear : clear) (hduties : SameDuties s.suspended t.suspended)
      (htransport : t.transport = s.transport)
      (hgeneration : t.generation = s.generation) (htransports : t.transports = s.transports)
      (hstate : Kept s t) (hbuffer : t.buffer = s.buffer.clear) (hsanitizer : t.sanitizer = {})
  | leaves (hduties : SameDuties s.suspended t.suspended) (htransport : t.transport = none)
      (hgeneration : t.generation = s.generation + 1) (htransports : t.transports = s.transports)
  | hangsUp {calls : List (Option Suspended)} {socket : Nat} {sessionID : Bytes}
      (hduties : SameDuties s.suspended calls)
      (hcalls : t.suspended = calls ++ [some (.closing socket sessionID)])
      (hold : s.transport = some socket) (hsession : s.state = .connected sessionID)
      (htransport : t.transport = none) (hgeneration : t.generation = s.generation + 1)
      (htransports : t.transports = s.transports)
  | connects {calls : List (Option Suspended)} (hduties : SameDuties s.suspended calls)
      (hcalls : t.suspended = calls ++ [some (.starting s.transports (s.generation + 1))])
      (htransport : t.transport = some s.transports)
      (hgeneration : t.generation = s.generation + 1)
      (htransports : t.transports = s.transports + 1) (hstate : t.state = .connecting)
      (hbuffer : t.buffer = s.buffer.clear) (hsanitizer : t.sanitizer = {})

/-- Nothing has happened to the connection. -/
theorem Course.same {clear : Prop} {s t : TerminalSession}
    (hduties : SameDuties s.suspended t.suspended)
    (htransport : t.transport = s.transport) (hgeneration : t.generation = s.generation)
    (htransports : t.transports = s.transports) (hstate : t.state = s.state)
    (hbuffer : t.buffer = s.buffer) (hsanitizer : t.sanitizer = s.sanitizer) : Course clear s t :=
  .stays hduties htransport hgeneration htransports (fun _ h => hstate ▸ h) hbuffer hsanitizer

theorem Course.mono {clear clear' : Prop} {s t : TerminalSession} (h : Course clear s t)
    (himp : clear → clear') : Course clear' s t := by
  cases h with
  | stays hduties htransport hgeneration htransports hstate hbuffer hsanitizer =>
      exact .stays hduties htransport hgeneration htransports hstate hbuffer hsanitizer
  | clears hclear hduties htransport hgeneration htransports hstate hbuffer hsanitizer =>
      exact .clears (himp hclear) hduties htransport hgeneration htransports hstate hbuffer
        hsanitizer
  | leaves hduties htransport hgeneration htransports =>
      exact .leaves hduties htransport hgeneration htransports
  | hangsUp hduties hcalls hold hsession htransport hgeneration htransports =>
      exact .hangsUp hduties hcalls hold hsession htransport hgeneration htransports
  | connects hduties hcalls htransport hgeneration htransports hstate hbuffer hsanitizer =>
      exact .connects hduties hcalls htransport hgeneration htransports hstate hbuffer hsanitizer

namespace TerminalSession

variable {s : TerminalSession} {clear : Prop}

theorem dropPublication_duties : SameDuties s.suspended s.dropPublication.suspended := by
  unfold dropPublication
  simp only
  split
  · exact .refl _
  · exact .modify_cancel _

/-- A session that fails leaves its connection. -/
theorem failClosed_course {calls : List (Option Suspended)} (message : Bytes)
    (hduties : SameDuties calls s.suspended) :
    Course clear { s with suspended := calls } (s.failClosed message).1 :=
  .leaves (hduties.trans ((dropPublication_duties (s := s.finishOutput)).trans
    (dropPublication_duties (s := s.finishOutput.publishImmediately)))) rfl rfl rfl

theorem send_course (socket : Nat) (kind : SendKind) (message : ClientMessage) :
    Course clear s (s.send socket kind message).1 :=
  .same (.append rfl) rfl rfl rfl rfl rfl rfl

theorem connect_course (valid : Bool) : Course clear s (s.connect valid).1 := by
  unfold connect
  split
  · exact .same (.refl _) rfl rfl rfl rfl rfl rfl
  · exact .same (.refl _) rfl rfl rfl rfl rfl rfl
  · exact .same (.refl _) rfl rfl rfl rfl rfl rfl
  all_goals
    split
    · exact .stays (.refl _) rfl rfl rfl (fun _ h => nomatch h) rfl rfl
    · exact .connects dropPublication_duties rfl rfl rfl rfl rfl rfl rfl

theorem disconnect_course : Course clear s s.disconnect.1 := by
  unfold disconnect
  simp only
  split
  · next socket sessionID hsocket hsession =>
      refine .hangsUp dropPublication_duties rfl hsocket ?_ rfl rfl rfl
      unfold currentSessionID at hsession
      split at hsession
      · next hstate => exact Option.some.inj hsession ▸ hstate
      · cases hsession
  · exact .leaves dropPublication_duties rfl rfl rfl

theorem clearVisibleHistory_course : Course True s s.clearVisibleHistory := by
  refine .clears trivial dropPublication_duties rfl rfl rfl ?_ rfl rfl
  intro sessionID h
  simp only [clearVisibleHistory] at h
  split at h
  · cases h
  · exact h

theorem receiveNext_course {i socket loopGeneration : Nat}
    (hloop : dutyAt s.suspended i = some (.read socket loopGeneration)) :
    Course clear s (s.receiveNext i socket loopGeneration) := by
  unfold receiveNext
  split
  · exact .same ((SameDuties.refl _).set fun duty h => hloop.trans h) rfl rfl rfl rfl rfl rfl
  · exact .same ((SameDuties.refl _).ended i) rfl rfl rfl rfl rfl rfl

theorem receiveFailed_course (i loopGeneration : Nat) (message : String) :
    Course clear s (s.receiveFailed i loopGeneration message).1 := by
  unfold receiveFailed
  split
  · exact failClosed_course (s := s.settle i) _ ((SameDuties.refl _).ended i)
  · exact .same ((SameDuties.refl _).ended i) rfl rfl rfl rfl rfl rfl

theorem sent_course (i : Nat) (kind : SendKind) (ok : Bool) :
    Course clear s (s.sent i kind ok).1 := by
  cases kind <;> cases ok
  case input.false => exact failClosed_course (s := s.settle i) _ ((SameDuties.refl _).ended i)
  case interrupt.false => exact failClosed_course (s := s.settle i) _ ((SameDuties.refl _).ended i)
  all_goals exact .same ((SameDuties.refl _).ended i) rfl rfl rfl rfl rfl rfl

theorem publishIfCurrent_course (i generation token : Nat) :
    Course clear s ((s.settle i).publishIfCurrent generation token) := by
  unfold publishIfCurrent
  split
  · exact .same (((SameDuties.refl _).ended i).trans (dropPublication_duties (s := s.settle i)))
      rfl rfl rfl rfl rfl rfl
  · exact .same ((SameDuties.refl _).ended i) rfl rfl rfl rfl rfl rfl

theorem closed_course (i socket : Nat) (sessionID : Bytes) (outcome : Outcome) :
    Course clear s (s.closed i socket sessionID outcome).1 := by
  cases outcome with
  | done => exact .same ((SameDuties.refl _).ended i) rfl rfl rfl rfl rfl rfl
  | failed => exact .same ((SameDuties.refl _).ended i) rfl rfl rfl rfl rfl rfl
  | message data => exact .same (.refl _) rfl rfl rfl rfl rfl rfl
  | cancelled => exact .same (.refl _) rfl rfl rfl rfl rfl rfl

end TerminalSession

/-- The step hands a message to a loop of the current generation. -/
def Reads (s : TerminalSession) : TerminalEvent → Bool
  | .resume i (.message _) =>
      match callAt s.suspended i with
      | some (.receiving _ generation) => generation == s.generation
      | _ => false
  | _ => false

theorem TerminalSession.resume_course {s : TerminalSession} {clear : Prop} (i : Nat)
    (outcome : TerminalSession.Outcome) (h : Reads s (.resume i outcome) = false) :
    Course clear s (s.resume i outcome).1 := by
  have hsame : Course clear s s := .same (.refl _) rfl rfl rfl rfl rfl rfl
  unfold resume
  split
  · exact hsame
  · next socket generation hop =>
      exact receiveNext_course (congrArg (Option.bind · Suspended.duty) hop)
  · next socket generation hop =>
      cases outcome with
      | message data =>
          have hlate : ¬ s.generation = generation := by
            intro hcurrent
            simp only [Reads, show callAt s.suspended i = _ from hop] at h
            exact absurd hcurrent.symm (by simpa using h)
          simp only [received, if_neg hlate]
          exact .same ((SameDuties.refl _).ended i) rfl rfl rfl rfl rfl rfl
      | done => exact hsame
      | failed => exact receiveFailed_course i generation _
      | cancelled => exact .same ((SameDuties.refl _).ended i) rfl rfl rfl rfl rfl rfl
  · cases outcome with
    | message data => exact hsame
    | done => exact sent_course i _ true
    | failed => exact sent_course i _ false
    | cancelled => exact sent_course i _ false
  · simp only
    split
    · exact .same ((SameDuties.refl _).ended i) rfl rfl rfl rfl rfl rfl
    · exact publishIfCurrent_course i _ _
  · exact closed_course i _ _ outcome

/-- **A step that reads no message does one of these.** -/
theorem terminalStep_course (s : TerminalSession) (e : TerminalEvent) (h : Reads s e = false) :
    Course (e = .clearVisibleHistory) s (terminalStep s e).1 := by
  cases e with
  | connect valid => exact TerminalSession.connect_course valid
  | disconnect => exact TerminalSession.disconnect_course
  | clearVisibleHistory => exact TerminalSession.clearVisibleHistory_course.mono fun _ => rfl
  | sendInput text =>
      simp only [terminalStep, TerminalSession.sendInput]
      repeat' split
      all_goals first
        | exact TerminalSession.send_course _ _ _
        | exact .same (.refl _) rfl rfl rfl rfl rfl rfl
  | sendInterrupt =>
      simp only [terminalStep, TerminalSession.sendInterrupt]
      repeat' split
      all_goals first
        | exact TerminalSession.send_course _ _ _
        | exact .same (.refl _) rfl rfl rfl rfl rfl rfl
  | sendCodexPrompt prompt uuid =>
      simp only [terminalStep, TerminalSession.sendCodexPrompt]
      repeat' split
      all_goals first
        | exact TerminalSession.send_course _ _ _
        | exact .same (.refl _) rfl rfl rfl rfl rfl rfl
  | cancelCodex uuid =>
      simp only [terminalStep, TerminalSession.cancelCodex]
      split
      · exact TerminalSession.send_course _ _ _
      · exact .same (.refl _) rfl rfl rfl rfl rfl rfl
  | newCodexSession =>
      simp only [terminalStep, TerminalSession.newCodexSession]
      split
      · exact TerminalSession.send_course _ _ _
      · exact .same (.refl _) rfl rfl rfl rfl rfl rfl
  | resume call outcome => exact TerminalSession.resume_course call outcome h

/-! ## Reading a message -/

/-- What reading the message `m` has done to the connection of `s`. -/
inductive Reading (s : TerminalSession) (m : ServerMessage) (t : TerminalSession) : Prop
  | noted (hduties : SameDuties s.suspended t.suspended) (htransport : t.transport = s.transport)
      (hgeneration : t.generation = s.generation) (htransports : t.transports = s.transports)
      (hstate : t.state = s.state) (hbuffer : t.buffer = s.buffer)
      (hsanitizer : t.sanitizer = s.sanitizer) (hsilent : m.shownText = none)
  | greeted {sessionID : Bytes} (hgreeting : m = .hello sessionID ∨ m = .mirrorHello sessionID)
      (hduties : SameDuties s.suspended t.suspended) (htransport : t.transport = s.transport)
      (hgeneration : t.generation = s.generation) (htransports : t.transports = s.transports)
      (hstate : t.state = .connected sessionID) (hbuffer : t.buffer = s.buffer)
      (hsanitizer : t.sanitizer = s.sanitizer)
  | shown {text : Bytes} (htext : m.shownText = some text)
      (hduties : SameDuties s.suspended t.suspended) (htransport : t.transport = s.transport)
      (hgeneration : t.generation = s.generation) (htransports : t.transports = s.transports)
      (hstate : t.state = s.state) (hbuffer : t.buffer = (s.appendOutput text).buffer)
      (hsanitizer : t.sanitizer = (s.appendOutput text).sanitizer)
  | exited {sessionID : Bytes} {code : Int} (hexit : m = .exit sessionID code)
      (hduties : SameDuties s.suspended t.suspended) (htransport : t.transport = none)
      (hgeneration : t.generation = s.generation + 1) (htransports : t.transports = s.transports)
      (hstate : t.state = .disconnected) (htext : t.terminalText = s.finishOutput.buffer.text)
  | failed {message : Bytes} (hduties : SameDuties s.suspended t.suspended)
      (htransport : t.transport = none) (hgeneration : t.generation = s.generation + 1)
      (htransports : t.transports = s.transports) (hstate : t.state = .failed message)

namespace TerminalSession

variable {s : TerminalSession}

theorem schedulePublish_duties (generation : Nat) :
    SameDuties s.suspended (s.schedulePublish generation).suspended := by
  unfold schedulePublish
  split
  · exact .refl _
  · exact .append rfl

/-- Scheduling leaves the connection. -/
theorem schedulePublish_connection (generation : Nat) :
    (s.schedulePublish generation).transport = s.transport ∧
      (s.schedulePublish generation).transports = s.transports ∧
      (s.schedulePublish generation).state = s.state := by
  unfold schedulePublish
  split <;> exact ⟨rfl, rfl, rfl⟩

/-- A failure shows what there is and leaves the connection. -/
theorem failClosed_reading {calls : List (Option Suspended)} {m : ServerMessage} (message : Bytes)
    (hduties : SameDuties calls s.suspended) :
    Reading { s with suspended := calls } m (s.failClosed message).1 :=
  .failed (hduties.trans ((dropPublication_duties (s := s.finishOutput)).trans
    (dropPublication_duties (s := s.finishOutput.publishImmediately)))) rfl rfl rfl rfl

/-- A message that is read is read for the connection it came from. -/
theorem handleDecoded_reading {m : ServerMessage} {handled : Handled}
    (h : s.handleDecoded s.generation m = .ok handled) : Reading s m handled.session := by
  have hgreeted : ∀ {sessionID label status}, m = .hello sessionID ∨ m = .mirrorHello sessionID →
      s.greet sessionID label status = .ok handled → Reading s m handled.session := by
    intro sessionID label status hgreeting h
    unfold greet at h
    split at h
    · cases h
      exact .greeted hgreeting (.refl _) rfl rfl rfl rfl rfl rfl
    · cases h
  have hshown : ∀ {text}, m.shownText = some text →
      s.showOutput text s.generation = .ok handled → Reading s m handled.session := by
    intro text htext h
    cases h
    obtain ⟨hbuffer, hsanitizer, -⟩ :=
      schedulePublish_text (s := s.appendOutput text) s.generation
    obtain ⟨htransport, htransports, hstate⟩ :=
      schedulePublish_connection (s := s.appendOutput text) s.generation
    exact .shown htext (schedulePublish_duties (s := s.appendOutput text) _) htransport
      (schedulePublish_generation (s := s.appendOutput text) _) htransports hstate hbuffer
      hsanitizer
  have hfailed : ∀ {message}, s.giveUp message = .ok handled → Reading s m handled.session := by
    intro message h
    cases h
    exact failClosed_reading message (.refl _)
  cases m with
  | hello sessionID => exact hgreeted (.inl rfl) h
  | mirrorHello sessionID => exact hgreeted (.inr rfl) h
  | output sessionID text => exact hshown rfl (ofSession_ok h).2
  | codexOutput sessionID requestID text => exact hshown rfl (ofSession_ok h).2
  | mirrorOutput sessionID text =>
      obtain ⟨-, h⟩ := ofSession_ok h
      split at h
      · exact hshown rfl h
      · cases h
  | exit sessionID code =>
      obtain ⟨-, h⟩ := ofSession_ok h
      cases h
      exact .exited rfl (dropPublication_duties (s := s.finishOutput)) rfl rfl rfl rfl rfl
  | error sessionID code message =>
      simp only [handleDecoded] at h
      split at h
      · cases h
      · exact hfailed h
  | mirrorError sessionID code message => exact hfailed (ofSession_ok h).2
  | codexStarted sessionID requestID =>
      obtain ⟨-, h⟩ := ofSession_ok h
      cases h
      exact .noted (.refl _) rfl rfl rfl rfl rfl rfl rfl
  | codexExit sessionID requestID code =>
      obtain ⟨-, h⟩ := ofSession_ok h
      cases h
      exact .noted (.refl _) rfl rfl rfl rfl rfl rfl rfl
  | codexError sessionID requestID code message =>
      obtain ⟨-, h⟩ := ofSession_ok h
      cases h
      exact .noted (.refl _) rfl rfl rfl rfl rfl rfl rfl

end TerminalSession

theorem Reading.duties {s t : TerminalSession} {m : ServerMessage} (h : Reading s m t) :
    SameDuties s.suspended t.suspended := by
  cases h <;> assumption

/-- The loop that has read the message goes on, or is over. -/
theorem Reading.goesOn {s t : TerminalSession} {m : ServerMessage} (h : Reading s m t)
    {calls : List (Option Suspended)} (hcalls : SameDuties s.suspended calls) :
    Reading s m { t with suspended := calls } := by
  cases h with
  | noted hduties htransport hgeneration htransports hstate hbuffer hsanitizer hsilent =>
      exact .noted hcalls htransport hgeneration htransports hstate hbuffer hsanitizer hsilent
  | greeted hgreeting hduties htransport hgeneration htransports hstate hbuffer hsanitizer =>
      exact .greeted hgreeting hcalls htransport hgeneration htransports hstate hbuffer hsanitizer
  | shown htext hduties htransport hgeneration htransports hstate hbuffer hsanitizer =>
      exact .shown htext hcalls htransport hgeneration htransports hstate hbuffer hsanitizer
  | exited hexit hduties htransport hgeneration htransports hstate htext =>
      exact .exited hexit hcalls htransport hgeneration htransports hstate htext
  | failed hduties htransport hgeneration htransports hstate =>
      exact .failed hcalls htransport hgeneration htransports hstate

/-- **A loop of the current generation that reads `m`**, or what is no
message, **does one of these.** -/
theorem terminalStep_reading {s : TerminalSession} {i socket : Nat} {data : Bytes}
    {m : ServerMessage} (hop : callAt s.suspended i = some (.receiving socket s.generation))
    (hdecoded : ∀ m', decodeServer data s.currentSessionID = .ok m' → m' = m) :
    Reading s m (terminalStep s (.resume i (.message data))).1 := by
  have hloop : dutyAt s.suspended i = some (.read socket s.generation) :=
    congrArg (Option.bind · Suspended.duty) hop
  have hhandle : ∀ {handled}, s.handle data s.generation = .ok handled →
      Reading s m handled.session := by
    intro handled h
    unfold TerminalSession.handle at h
    split at h
    · cases h
      exact TerminalSession.failClosed_reading _ (.refl _)
    · split at h
      · cases h
        exact TerminalSession.failClosed_reading _ (.refl _)
      · split at h
        · cases h
        · next m' hm' =>
            obtain rfl := hdecoded m' hm'
            exact TerminalSession.handleDecoded_reading h
  have hop' : s.suspended[i]?.join = some (.receiving socket s.generation) := hop
  simp only [terminalStep, TerminalSession.resume, hop', TerminalSession.received, if_true]
  split
  · next t effects heq =>
      have h := hhandle heq
      unfold TerminalSession.receiveNext
      split
      · exact h.goesOn (h.duties.set fun duty hduty => hloop.trans hduty)
      · exact h.goesOn (h.duties.ended i)
  · next t effects heq =>
      have h := hhandle heq
      exact h.goesOn (h.duties.ended i)
  · unfold TerminalSession.receiveFailed
    rw [if_pos rfl]
    exact TerminalSession.failClosed_reading (s := s.settle i) _ ((SameDuties.refl _).ended i)

/-- Whatever is read, it is read as some message. -/
theorem exists_reading {s : TerminalSession} {i socket : Nat}
    (hop : callAt s.suspended i = some (.receiving socket s.generation)) (data : Bytes) :
    ∃ m, Reading s m (terminalStep s (.resume i (.message data))).1 := by
  cases hdecoded : decodeServer data s.currentSessionID with
  | ok m =>
      exact ⟨m, terminalStep_reading hop fun m' hm' => Except.ok.inj (hm'.symm.trans hdecoded)⟩
  | error error =>
      exact ⟨.hello [], terminalStep_reading hop fun m' hm' =>
        (nomatch hdecoded.symm.trans hm')⟩

/-- Reading keeps the transport or leaves it. -/
theorem Reading.transport {s t : TerminalSession} {m : ServerMessage} (h : Reading s m t) :
    t.transport = s.transport ∨ t.transport = none := by
  cases h with
  | noted _ htransport | greeted _ _ htransport | shown _ _ htransport => exact .inl htransport
  | exited _ _ htransport | failed _ htransport => exact .inr htransport

theorem Reading.transports {s t : TerminalSession} {m : ServerMessage} (h : Reading s m t) :
    t.transports = s.transports := by
  cases h <;> assumption

/-! ## Loops of a run -/

/-- Every receive loop of `b` is in `a`. -/
def SameLoops (a b : List (Option Suspended)) : Prop :=
  ∀ i socket generation, dutyAt b i = some (.read socket generation) →
    dutyAt a i = some (.read socket generation)

theorem SameDuties.loops {a b : List (Option Suspended)} (h : SameDuties a b) : SameLoops a b :=
  fun i _ _ hloop => h i _ hloop

/-- The duty of a call that was there, or of the new one. -/
theorem dutyAt_concat {calls : List (Option Suspended)} {i : Nat} {op : Suspended}
    {duty : Duty} (h : dutyAt (calls ++ [some op]) i = some duty) :
    dutyAt calls i = some duty ∨ op.duty = some duty := by
  unfold dutyAt callAt at h ⊢
  rcases Nat.lt_or_ge i calls.length with hlt | hge
  · rw [List.getElem?_append_left hlt] at h
    exact .inl h
  · rw [List.getElem?_append_right hge] at h
    rcases Nat.eq_zero_or_pos (i - calls.length) with hzero | hpos
    · rw [hzero] at h
      exact .inr h
    · rw [List.getElem?_eq_none (by simpa using Nat.succ_le_of_lt hpos)] at h
      cases h

theorem SameLoops.closing {a b : List (Option Suspended)} (h : SameDuties a b) (socket : Nat)
    (sessionID : Bytes) : SameLoops a (b ++ [some (.closing socket sessionID)]) := by
  intro i k generation hloop
  rcases dutyAt_concat hloop with hold | hnew
  · exact h i _ hold
  · cases hnew

/-- The connection is the same one, with no new loops. -/
theorem Loops.same {s t : TerminalSession} (h : Loops s)
    (hloops : SameLoops s.suspended t.suspended) (htransport : t.transport = s.transport)
    (hgeneration : t.generation = s.generation) (htransports : t.transports = s.transports) :
    Loops t where
  current i socket hloop := by
    rw [hgeneration] at hloop
    rw [htransport]
    exact h.current i socket (hloops i _ _ hloop)
  only i socket generation hloop hsocket := by
    rw [hgeneration]
    exact h.only i socket generation (hloops i _ _ hloop) (htransport ▸ hsocket)
  past i socket generation hloop := by
    rw [hgeneration, htransports]
    exact h.past i socket generation (hloops i _ _ hloop)

/-- The generation is over. -/
theorem Loops.ended {s t : TerminalSession} (h : Loops s)
    (hloops : SameLoops s.suspended t.suspended) (htransport : t.transport = none)
    (hgeneration : t.generation = s.generation + 1) (htransports : t.transports = s.transports) :
    Loops t where
  only i socket generation hloop hsocket := nomatch htransport.symm.trans hsocket
  current i socket hloop := by
    rw [hgeneration] at hloop
    exact absurd (h.past i socket _ (hloops i _ _ hloop)).1 (Nat.not_succ_le_self _)
  past i socket generation hloop := by
    rw [hgeneration, htransports]
    have hpast := h.past i socket generation (hloops i _ _ hloop)
    exact ⟨Nat.le_succ_of_le hpast.1, hpast.2⟩

/-- A course of the session keeps its loops. -/
theorem Course.keeps_loops {clear : Prop} {s t : TerminalSession} (h : Course clear s t)
    (hs : Loops s) : Loops t := by
  cases h with
  | stays hduties htransport hgeneration htransports =>
      exact hs.same hduties.loops htransport hgeneration htransports
  | clears _ hduties htransport hgeneration htransports =>
      exact hs.same hduties.loops htransport hgeneration htransports
  | leaves hduties htransport hgeneration htransports =>
      exact hs.ended hduties.loops htransport hgeneration htransports
  | hangsUp hduties hcalls _ _ htransport hgeneration htransports =>
      exact hs.ended (hcalls ▸ .closing hduties _ _) htransport hgeneration htransports
  | @connects calls hduties hcalls htransport hgeneration htransports =>
      refine ⟨fun i socket hloop => ?_, fun i socket generation hloop hsocket => ?_,
        fun i socket generation hloop => ?_⟩
      · rw [hcalls, hgeneration] at hloop
        rcases dutyAt_concat hloop with hold | hnew
        · exact absurd (hs.past i socket _ (hduties i _ hold)).1 (Nat.not_succ_le_self _)
        · cases hnew
          exact htransport
      · rw [hcalls] at hloop
        rcases dutyAt_concat hloop with hold | hnew
        · obtain rfl := Option.some.inj (htransport.symm.trans hsocket)
          exact absurd (hs.past i _ generation (hduties i _ hold)).2 (Nat.lt_irrefl _)
        · cases hnew
          exact hgeneration.symm
      · rw [hcalls] at hloop
        rw [hgeneration, htransports]
        rcases dutyAt_concat hloop with hold | hnew
        · have hpast := hs.past i socket generation (hduties i _ hold)
          exact ⟨Nat.le_succ_of_le hpast.1, Nat.lt_succ_of_lt hpast.2⟩
        · cases hnew
          exact ⟨Nat.le_refl _, Nat.lt_succ_self _⟩

/-- So does a message. -/
theorem Reading.keeps_loops {s t : TerminalSession} {m : ServerMessage} (h : Reading s m t)
    (hs : Loops s) : Loops t := by
  cases h with
  | noted hduties htransport hgeneration htransports =>
      exact hs.same hduties.loops htransport hgeneration htransports
  | greeted _ hduties htransport hgeneration htransports =>
      exact hs.same hduties.loops htransport hgeneration htransports
  | shown _ hduties htransport hgeneration htransports =>
      exact hs.same hduties.loops htransport hgeneration htransports
  | exited _ hduties htransport hgeneration htransports =>
      exact hs.ended hduties.loops htransport hgeneration htransports
  | failed hduties htransport hgeneration htransports =>
      exact hs.ended hduties.loops htransport hgeneration htransports

/-- A step that reads goes on with a loop of the current generation. -/
theorem reads_iff {s : TerminalSession} {e : TerminalEvent} :
    Reads s e = true ↔ ∃ i socket data, e = .resume i (.message data) ∧
      callAt s.suspended i = some (.receiving socket s.generation) := by
  constructor
  · intro h
    unfold Reads at h
    split at h
    · next i data =>
        split at h
        · next socket generation hop =>
            obtain rfl := beq_iff_eq.mp h
            exact ⟨i, socket, data, rfl, hop⟩
        · cases h
    · cases h
  · rintro ⟨i, socket, data, rfl, hop⟩
    simp [Reads, hop]

/-- **Every step keeps the loops apart.** -/
theorem terminalStep_loops {s : TerminalSession} (hs : Loops s) (e : TerminalEvent) :
    Loops (terminalStep s e).1 := by
  cases hreads : Reads s e with
  | false => exact (terminalStep_course s e hreads).keeps_loops hs
  | true =>
      obtain ⟨i, socket, data, rfl, hop⟩ := reads_iff.mp hreads
      obtain ⟨m, hreading⟩ := exists_reading hop data
      exact hreading.keeps_loops hs

/-- The induction over a run. -/
theorem loops_run (es : List TerminalEvent) : Loops (terminalMachine.run es) := by
  refine terminalMachine.run_invariant (I := Loops) ?_ (fun s e hs => terminalStep_loops hs e) es
  have hnone : ∀ i, dutyAt newTerminalSession.suspended i = none := fun i => rfl
  exact ⟨fun i _ hloop => (nomatch (hnone i).symm.trans hloop),
    fun i _ _ hloop => (nomatch (hnone i).symm.trans hloop),
    fun i _ _ hloop => (nomatch (hnone i).symm.trans hloop)⟩

end Bootmux.Iphone
