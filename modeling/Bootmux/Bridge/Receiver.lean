/-
Bootmux.Bridge.Receiver — the frame receiver of the keyboard bridge
(`firmware/esp32s3-bridge/src/main.cpp`): `handleFrame` with everything
it calls, the connection callbacks and the timeout of `loop`.

The globals are the fields of `State`. The globals of the reassembly
(`reassemblySeq`, `reassemblyTotal`, `reassemblyStarted`, `parts`,
`received`) are one `Buffer`, and `completed` with `completedIndex` is
one `RecentRing`; their code is the receive path of the first and the
`remember` of the second.

Each function returns the new state and the calls it made, in program
order. Besides the keyboard and notification calls the trace records
what happens to the reassembly buffer (`text`) and that the `STOP` or
`RESUME` branch is entered (`stop`, `resume`), so that a run can be
described by its trace. Serial log lines and the delays of `typeASCII`
are left out: nothing reads them.

`millis()` is read twice by the reassembly code of `handleFrame`, once
to stamp a new message and once to test its age; both readings are
parameters, and their difference wraps as `uint32_t` does.
-/
import Bootmux.Bmx1.Framing
import Bootmux.Lib.Machine
import Bootmux.Lib.Reassembly
import Bootmux.Lib.RecentRing

namespace Bootmux.Bridge

open Bootmux.Bmx1
open Bootmux.Lib
open Bootmux.Lib.Reassembly

/-! ## State and effects -/

def kMaxPayload : Nat := 512
def kMaxParts : Nat := 32
def kCompletedCache : Nat := 16

instance : NeZero kCompletedCache := ⟨by decide⟩

/-- `KEY_RETURN`, `KEY_BACKSPACE` and `KEY_LEFT_CTRL` of the keyboard
library. -/
def keyReturn : UInt8 := 0xB0
def keyBackspace : UInt8 := 0xB2
def keyLeftCtrl : UInt8 := 0x80

/-- The codes of `ERR` notifications. -/
inductive ErrorCode where
  | oversizedText
  | reassemblyTimeout
  deriving DecidableEq, Repr

def ErrorCode.text : ErrorCode → String
  | .oversizedText => "oversized_text"
  | .reassemblyTimeout => "reassembly_timeout"

/-- A part of a text; its origin is the session of the frame. -/
abbrev TextPart := Part kMaxParts UInt32 Bytes Bytes

abbrev TextMark := Mark kMaxParts UInt32 Bytes Bytes

/-- The calls a run is described by. -/
inductive Effect where
  | write (key : UInt8)
  | press (key : UInt8)
  | releaseAll
  | ack (session : Bytes) (sequence : UInt32) (result : AckResult)
  | err (session : Bytes) (sequence : UInt32) (code : ErrorCode)
  | queueFull
  | text (mark : TextMark)
  | stop
  | resume

/-- The bytes passed to `notify`, for the effects that are notifications. -/
def Effect.notification : Effect → Option Bytes
  | .ack session sequence result => some (ackBytes session sequence result)
  | .err session sequence code => some (errBytes session sequence code.text)
  | .queueFull => some (ascii "BMX1|ERR|||queue_full")
  | _ => none

structure State where
  connected : Bool
  outputEnabled : Bool
  stoppedLatch : Bool
  activeSession : Bytes
  reassembly : Buffer kMaxParts UInt32 UInt32 Bytes
  completed : RecentRing kCompletedCache UInt32

/-- The initial values of the globals. -/
def boot : State where
  connected := false
  outputEnabled := true
  stoppedLatch := false
  activeSession := []
  reassembly := Buffer.empty
  completed := RecentRing.empty

/-! ## Keyboard output -/

def printable (c : UInt8) : Bool := !(c < 0x20 || c > 0x7E)

def typeASCII (s : State) (text : Bytes) : List Effect :=
  if !s.outputEnabled then []
  else (text.flatMap fun c => if printable c then [Effect.write c] else []) ++ [.releaseAll]

/-- The key branch of `applyControl`; a control of another name presses
nothing. -/
def controlKeys (control : Bytes) : List Effect :=
  if control = ascii "ENTER" then [.write keyReturn]
  else if control = ascii "BACKSPACE" then [.write keyBackspace]
  else if control = ascii "CTRL_C" then [.press keyLeftCtrl, .write 0x63, .releaseAll]
  else []

/-! ## Operations -/

def applyControl (s : State) (session : Bytes) (sequence : UInt32) (control : Bytes) :
    State × List Effect :=
  if session ≠ s.activeSession then (s, [])
  else if s.completed.seen sequence then (s, [.ack session sequence .duplicate])
  else if control = ascii "STOP" then
    ({ s with
        reassembly := Buffer.empty
        stoppedLatch := true
        outputEnabled := false
        completed := s.completed.remember sequence },
      [.stop, .releaseAll, .text .clear, .ack session sequence .stopped])
  else if control = ascii "RESUME" then
    ({ s with
        outputEnabled := true
        stoppedLatch := false
        completed := s.completed.remember sequence },
      [.resume, .releaseAll, .ack session sequence .resumed])
  else if s.stoppedLatch || !s.outputEnabled then
    (s, [.releaseAll, .ack session sequence .stopped])
  else
    ({ s with completed := s.completed.remember sequence },
      controlKeys control ++ [.releaseAll, .ack session sequence .applied])

/-- `finishText`. The mark `complete` closes the operation whichever way
it ends; note that the duplicate branch leaves the buffer as it is. -/
def finishText (s : State) (session : Bytes) (sequence : UInt32) : State × List Effect :=
  if s.completed.seen sequence then
    (s, [.ack session sequence .duplicate, .text (.complete sequence)])
  else if s.stoppedLatch || !s.outputEnabled then
    ({ s with reassembly := Buffer.empty },
      [.text .clear, .releaseAll, .ack session sequence .stopped,
        .text (.complete sequence)])
  else
    let text := s.reassembly.message.flatten
    if text.length > kMaxPayload then
      ({ s with reassembly := Buffer.empty },
        [.text (.assemble sequence s.reassembly.message), .text .clear, .releaseAll,
          .err session sequence .oversizedText, .text (.complete sequence)])
    else
      ({ s with
          completed := s.completed.remember sequence
          reassembly := Buffer.empty },
        [Effect.text (.assemble sequence s.reassembly.message)] ++ typeASCII s text ++
          [Effect.text .clear, .ack session sequence .applied, .text (.complete sequence)])

/-- The `OPEN` branch of `handleFrame`. -/
def openSession (s : State) (session : Bytes) : State × List Effect :=
  ({ s with
      reassembly := Buffer.empty
      completed := RecentRing.empty
      activeSession := session
      outputEnabled := !s.stoppedLatch },
    [.releaseAll, .text .clear, .ack session 0 .opened])

/-- The age test of the reassembly, `millis() - reassemblyStarted > 2000`. -/
def tooOld (now started : UInt32) : Bool := now - started > 2000

/-- The bounds check on the part and total fields of a `TEXT` frame. -/
def textPart (sequence : UInt32) (fields : List Bytes) : Option TextPart :=
  match parseUInt (fieldAt fields 4), parseUInt (fieldAt fields 5) with
  | some part, some total =>
      if h : total ≠ 0 ∧ total.toNat ≤ kMaxParts ∧ part < total then
        some
          { key := sequence
            total := total.toNat
            index := part.toNat
            payload := fieldAt fields 6
            origin := fieldAt fields 2
            index_lt := h.2.2
            total_le := h.2.1 }
      else none
  | _, _ => none

/-- The reassembly part of `handleFrame`. -/
def handleText (s : State) (started now : UInt32) (p : TextPart) : State × List Effect :=
  let r := s.reassembly.offer started (tooOld now) p
  let s' := { s with reassembly := r.1 }
  match r.2.2 with
  | .expired =>
      (s', r.2.1.map .text ++ [.releaseAll, .err s.activeSession p.key .reassemblyTimeout])
  | .waiting => (s', r.2.1.map .text)
  | .complete =>
      ((finishText s' s.activeSession p.key).1,
        r.2.1.map .text ++ (finishText s' s.activeSession p.key).2)

def handleFields (s : State) (started now : UInt32) (fields : List Bytes) :
    State × List Effect :=
  if fields.length < 3 || fieldAt fields 0 != ascii "BMX1" then (s, [.releaseAll])
  else if fieldAt fields 1 = ascii "OPEN" ∧ fields.length = 3 then
    openSession s (fieldAt fields 2)
  else if fields.length < 5 || fieldAt fields 2 != s.activeSession then (s, [.releaseAll])
  else
    match parseUInt (fieldAt fields 3) with
    | none => (s, [.releaseAll])
    | some sequence =>
        if fieldAt fields 1 = ascii "CTRL" then
          applyControl s (fieldAt fields 2) sequence (fieldAt fields 4)
        else if fieldAt fields 1 ≠ ascii "TEXT" ∨ fields.length ≠ 7 then (s, [])
        else
          match textPart sequence fields with
          | none => (s, [])
          | some p => handleText s started now p

def handleFrame (s : State) (started now : UInt32) (frame : Bytes) : State × List Effect :=
  match splitFrame frame with
  | none => (s, [.releaseAll])
  | some fields => handleFields s started now fields

/-! ## Callbacks and the timeout of `loop` -/

def onConnect (s : State) : State × List Effect := ({ s with connected := true }, [])

/-- `onDisconnect` without `clearFrameQueue`, which is the device's. -/
def onDisconnect (s : State) : State × List Effect :=
  ({ s with
      connected := false
      reassembly := Buffer.empty
      activeSession := []
      outputEnabled := false },
    [.releaseAll, .text .clear])

/-- The timeout check at the end of `loop`. -/
def loopTimeout (s : State) (now : UInt32) : State × List Effect :=
  if s.reassembly.key ≠ 0 ∧ tooOld now s.reassembly.started then
    ({ s with reassembly := Buffer.empty }, [.text .clear, .releaseAll])
  else (s, [])

/-! ## The receiver as a machine -/

/-- One handler call. A frame is whatever bytes were written to the
characteristic: `onWrite` takes them as a C string. -/
inductive Event where
  | connect
  | disconnect
  | frame (started now : UInt32) (bytes : Bytes)
  | tick (now : UInt32)

def step (s : State) : Event → State × List Effect
  | .connect => onConnect s
  | .disconnect => onDisconnect s
  | .frame started now bytes => handleFrame s started now (cString bytes)
  | .tick now => loopTimeout s now

def receiver : Machine State Event Effect where
  init := boot
  step := step

/-! ## Decoded operations

What a frame asks for does not depend on the state, except that a
control or a text counts only under the session in force. `frameOp`
decodes and `act` obeys; `step_frame` and `step_no_op` say that the
receiver is the two in sequence. -/

inductive Op where
  | opened (session : Bytes)
  | control (session : Bytes) (sequence : UInt32) (control : Bytes)
  | text (part : TextPart)

def fieldsOp (fields : List Bytes) : Option Op :=
  if fields.length < 3 || fieldAt fields 0 != ascii "BMX1" then none
  else if fieldAt fields 1 = ascii "OPEN" ∧ fields.length = 3 then
    some (.opened (fieldAt fields 2))
  else if fields.length < 5 then none
  else
    match parseUInt (fieldAt fields 3) with
    | none => none
    | some sequence =>
        if fieldAt fields 1 = ascii "CTRL" then
          some (.control (fieldAt fields 2) sequence (fieldAt fields 4))
        else if fieldAt fields 1 ≠ ascii "TEXT" ∨ fields.length ≠ 7 then none
        else (textPart sequence fields).map .text

/-- The operation a written value carries. -/
def frameOp (bytes : Bytes) : Option Op := (splitFrame (cString bytes)).bind fieldsOp

/-- The operation an event carries: only frames carry one. -/
def Event.op : Event → Option Op
  | .frame _ _ bytes => frameOp bytes
  | _ => none

def act (s : State) (started now : UInt32) : Op → State × List Effect
  | .opened session => openSession s session
  | .control session sequence control =>
      if session = s.activeSession then applyControl s session sequence control
      else (s, [.releaseAll])
  | .text p =>
      if p.origin = s.activeSession then handleText s started now p else (s, [.releaseAll])

/-- A part carries the session and the sequence number of its frame. -/
theorem textPart_origin {sequence : UInt32} {fields : List Bytes} {p : TextPart}
    (h : textPart sequence fields = some p) :
    p.origin = fieldAt fields 2 ∧ p.key = sequence := by
  unfold textPart at h
  split at h
  · split at h
    · obtain rfl := Option.some.inj h; exact ⟨rfl, rfl⟩
    · cases h
  · cases h

/-- Fields that are a message are handled as that message. -/
theorem handleFields_op {fields : List Bytes} {op : Op} (h : fieldsOp fields = some op)
    (s : State) (started now : UInt32) :
    handleFields s started now fields = act s started now op := by
  unfold fieldsOp at h
  unfold handleFields
  split at h
  · cases h
  · rename_i hhead
    rw [if_neg hhead]
    split at h
    · rename_i hopen
      obtain rfl := Option.some.inj h
      rw [if_pos hopen]; rfl
    · rename_i hopen
      rw [if_neg hopen]
      split at h
      · cases h
      · rename_i hlen
        split at h
        · cases h
        · have hguard : (fields.length < 5 || fieldAt fields 2 != s.activeSession)
              = (fieldAt fields 2 != s.activeSession) := by simp [hlen]
          rw [hguard]
          by_cases hsess : fieldAt fields 2 = s.activeSession
          · simp only [hsess, bne_self_eq_false, Bool.false_eq_true, if_false]
            split at h
            · rename_i hctrl
              obtain rfl := Option.some.inj h
              simp [act, hctrl, hsess]
            · rename_i hctrl
              rw [if_neg hctrl]
              split at h
              · cases h
              · rename_i htext
                obtain ⟨p, hp, rfl⟩ := Option.map_eq_some_iff.mp h
                rw [if_neg htext]
                simp [hp, act, (textPart_origin hp).1, hsess]
          · simp only [bne_iff_ne.mpr hsess, if_true]
            split at h
            · obtain rfl := Option.some.inj h; simp [act, hsess]
            · split at h
              · cases h
              · obtain ⟨p, hp, rfl⟩ := Option.map_eq_some_iff.mp h
                simp [act, (textPart_origin hp).1, hsess]

/-- A frame that carries no operation changes nothing and at most
releases the keys. -/
theorem handleFields_no_op {fields : List Bytes} (h : fieldsOp fields = none)
    (s : State) (started now : UInt32) :
    handleFields s started now fields = (s, [.releaseAll]) ∨
      handleFields s started now fields = (s, []) := by
  unfold fieldsOp at h
  unfold handleFields
  split at h
  · rename_i hhead; rw [if_pos hhead]; exact Or.inl rfl
  · rename_i hhead
    rw [if_neg hhead]
    split at h
    · cases h
    · rename_i hopen
      rw [if_neg hopen]
      split
      · exact Or.inl rfl
      · rename_i hguard
        have hlen : ¬ fields.length < 5 := fun hlt => hguard (by simp [hlt])
        rw [if_neg hlen] at h
        split at h
        · exact Or.inl rfl
        · split at h
          · cases h
          · rename_i hctrl
            rw [if_neg hctrl]
            split at h
            · rename_i htext; rw [if_pos htext]; exact Or.inr rfl
            · rename_i htext
              rw [if_neg htext, Option.map_eq_none_iff.mp h]
              exact Or.inr rfl

/-- A frame that is a message is handled as that message. -/
theorem step_frame {bytes : Bytes} {op : Op} (h : frameOp bytes = some op) (s : State)
    (started now : UInt32) : step s (.frame started now bytes) = act s started now op := by
  obtain ⟨fields, hsplit, hop⟩ := Option.bind_eq_some_iff.mp h
  simp only [step, handleFrame, hsplit]
  exact handleFields_op hop s started now

/-- A frame that is no message changes nothing, and lets the keys go at most.
-/
theorem step_no_op {bytes : Bytes} (h : frameOp bytes = none) (s : State)
    (started now : UInt32) :
    step s (.frame started now bytes) = (s, [.releaseAll]) ∨
      step s (.frame started now bytes) = (s, []) := by
  simp only [step, handleFrame]
  cases hsplit : splitFrame (cString bytes) with
  | none => exact Or.inl rfl
  | some fields =>
      rw [frameOp, hsplit] at h
      exact handleFields_no_op h s started now

end Bootmux.Bridge
