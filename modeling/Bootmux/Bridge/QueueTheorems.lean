/-
Bootmux.Bridge.QueueTheorems — the bridge's frame queue is a bounded
first-in first-out queue.

`frameQueue` is a machine over the four operations, each one critical
section of the source; its frames are C strings, so the frame type
carries the proof that no byte is zero. `fifo` says what the queue is
for: a list of frames and a flag. `Refines` ties the ring's three
counters to that list, and `frameQueue_step` shows that the four
operations keep it and answer alike, whatever phase of the ring `clear`
comes in.

The order of the frames, and that none is lost or duplicated, is then
read off the log of the operations and their answers: what has been
accepted since the last clear is what has been dequeued since, followed
by what still waits.
-/
import Mathlib.Data.List.DropRight
import Bootmux.Bridge.Device

namespace Bootmux.Bridge

open Bootmux.Bmx1
open Bootmux.Lib

/-! ## The operations -/

/-- A frame the callbacks pass on, without a zero byte. -/
def FrameString := { b : Bytes // (0 : UInt8) ∉ b }

inductive QueueCall where
  | enqueueFrame (frame : FrameString)
  | dequeueFrame
  | takeFrameQueueOverflow
  | clearFrameQueue

inductive QueueAnswer where
  | accepted (ok : Bool)
  | frame (f : Option Bytes)
  | overflow (pending : Bool)
  | cleared
  deriving DecidableEq

/-- A call and what it answered. -/
structure QueueEntry where
  call : QueueCall
  answer : QueueAnswer

def frameQueueStep (d : Device) (c : QueueCall) : Device × List QueueEntry :=
  match c with
  | .enqueueFrame f =>
      ((enqueueFrame d f.1).1, [⟨c, .accepted (enqueueFrame d f.1).2⟩])
  | .dequeueFrame =>
      ((dequeueFrame d).1, [⟨c, .frame ((dequeueFrame d).2.map DequeuedFrame.bytes)⟩])
  | .takeFrameQueueOverflow =>
      ((takeFrameQueueOverflow d).1, [⟨c, .overflow (takeFrameQueueOverflow d).2⟩])
  | .clearFrameQueue => (clearFrameQueue d, [⟨c, .cleared⟩])

def frameQueue : Machine Device QueueCall QueueEntry where
  init := powerOn
  step := frameQueueStep

/-! ## What the queue is for -/

structure Fifo where
  frames : List Bytes
  refused : Bool

def Fifo.Accepts (q : Fifo) (f : FrameString) : Prop :=
  f.1.length < kMaxFrameBytes ∧ q.frames.length < kFrameQueueCapacity

instance (q : Fifo) (f : FrameString) : Decidable (q.Accepts f) :=
  inferInstanceAs (Decidable (_ ∧ _))

def fifoStep (q : Fifo) (c : QueueCall) : Fifo × List QueueEntry :=
  match c with
  | .enqueueFrame f =>
      if q.Accepts f then ({ q with frames := q.frames ++ [f.1] }, [⟨c, .accepted true⟩])
      else ({ q with refused := true }, [⟨c, .accepted false⟩])
  | .dequeueFrame => ({ q with frames := q.frames.tail }, [⟨c, .frame q.frames.head?⟩])
  | .takeFrameQueueOverflow => ({ q with refused := false }, [⟨c, .overflow q.refused⟩])
  | .clearFrameQueue => ({ frames := [], refused := false }, [⟨c, .cleared⟩])

def fifo : Machine Fifo QueueCall QueueEntry where
  init := { frames := [], refused := false }
  step := fifoStep

/-! ## The ring refines it -/

/-- The frame a slot holds, as `dequeueFrame` reads it. -/
def QueuedFrame.frame (slot : QueuedFrame) : Bytes := (cString slot.bytes).take slot.length

/-- The frames that wait in the ring, oldest first. -/
def Device.queued (d : Device) : List Bytes := d.frameQueue.contents.map QueuedFrame.frame

@[simp] theorem length_queued (d : Device) : d.queued.length = d.frameQueue.count := by
  simp [Device.queued]

/-- The frame that is stored is the frame that is read back. -/
theorem frame_stored (f : FrameString) (n stamp : Nat) :
    QueuedFrame.frame ⟨f.1.length, f.1 ++ List.replicate n 0, stamp⟩ = f.1 := by
  have hcut : cString (f.1 ++ List.replicate n 0) = f.1 := by
    rw [cString, List.takeWhile_append_of_pos (fun c hc => by
      simp only [bne_iff_ne, ne_eq]
      rintro rfl
      exact f.2 hc)]
    cases n <;> simp [List.replicate_succ]
  rw [QueuedFrame.frame, hcut, List.take_length]

structure Refines (d : Device) (q : Fifo) : Prop where
  frames : d.queued = q.frames
  refused : d.overflowPending = q.refused

theorem refines_init : Refines powerOn fifo.init := ⟨rfl, rfl⟩

/-- The queue accepts a frame that is short enough while it has room. -/
theorem enqueueFrame_accepts {d : Device} {q : Fifo} (h : Refines d q) (f : FrameString) :
    (f.1.length < kMaxFrameBytes ∧ d.frameQueue.count < kFrameQueueCapacity) ↔ q.Accepts f := by
  rw [Fifo.Accepts, ← h.frames, length_queued]

/-- Each call on the ring does what the list does, with the same result. -/
theorem frameQueue_step {d : Device} {q : Fifo} (h : Refines d q) (c : QueueCall) :
    Refines (frameQueueStep d c).1 (fifoStep q c).1 ∧
      (frameQueueStep d c).2 = (fifoStep q c).2 := by
  cases c with
  | enqueueFrame f =>
      by_cases hf : q.Accepts f
      · have hd := (enqueueFrame_accepts h f).mpr hf
        simp only [frameQueueStep, fifoStep, enqueueFrame, dif_pos hd, if_pos hf, and_true]
        refine ⟨?_, h.refused⟩
        simp only [Device.queued, RingQueue.contents_push, List.map_append, List.map_singleton,
          frame_stored]
        rw [← h.frames, Device.queued]
      · have hd := mt (enqueueFrame_accepts h f).mp hf
        simp only [frameQueueStep, fifoStep, enqueueFrame, dif_neg hd, if_neg hf, and_true]
        exact ⟨h.frames, rfl⟩
  | dequeueFrame =>
      by_cases hc : 0 < d.frameQueue.count
      · have hpop : q.frames = (d.frameQueue.pop hc).1.frame ::
            (d.frameQueue.pop hc).2.contents.map QueuedFrame.frame := by
          rw [← h.frames, Device.queued, RingQueue.contents_pop _ hc, List.map_cons]
        simp only [frameQueueStep, fifoStep, dequeueFrame, dif_pos hc, hpop]
        exact ⟨⟨rfl, h.refused⟩, rfl⟩
      · have hnil : q.frames = [] := by
          rw [← List.length_eq_zero_iff, ← h.frames, length_queued]
          omega
        simp only [frameQueueStep, fifoStep, dequeueFrame, dif_neg hc, hnil]
        exact ⟨⟨h.frames.trans hnil, h.refused⟩, rfl⟩
  | takeFrameQueueOverflow =>
      simp only [frameQueueStep, fifoStep, takeFrameQueueOverflow, h.refused, and_true]
      exact ⟨h.frames, rfl⟩
  | clearFrameQueue => exact ⟨⟨rfl, rfl⟩, rfl⟩

/-- Over any calls the ring stands for the list. -/
theorem refines_run (cs : List QueueCall) : Refines (frameQueue.run cs) (fifo.run cs) := by
  induction cs using List.reverseRecOn with
  | nil => exact refines_init
  | append_singleton cs c ih =>
      rw [Machine.run_concat, Machine.run_concat]
      exact (frameQueue_step ih c).1

/-- Over any calls both give the same results. -/
theorem trace_refines (cs : List QueueCall) : frameQueue.trace cs = fifo.trace cs := by
  induction cs using List.reverseRecOn with
  | nil => rfl
  | append_singleton cs c ih =>
      rw [Machine.trace_concat, Machine.trace_concat, ih]
      exact congrArg _ (frameQueue_step (refines_run cs) c).2

/-! ## The log -/

def QueueEntry.isClear (e : QueueEntry) : Bool := e.call matches .clearFrameQueue

def QueueEntry.dropsFlag (e : QueueEntry) : Bool :=
  match e.call with
  | .takeFrameQueueOverflow | .clearFrameQueue => true
  | _ => false

/-- The frame an entry accepted. -/
def QueueEntry.acceptedFrame (e : QueueEntry) : Option Bytes :=
  match e.call, e.answer with
  | .enqueueFrame f, .accepted true => some f.1
  | _, _ => none

def QueueEntry.dequeuedFrame (e : QueueEntry) : Option Bytes :=
  match e.answer with
  | .frame f => f
  | _ => none

def QueueEntry.isRefusal (e : QueueEntry) : Bool := e.answer matches .accepted false

/-- The part of the log after its last entry that satisfies `p`. -/
def since (p : QueueEntry → Bool) (log : List QueueEntry) : List QueueEntry :=
  log.rtakeWhile fun e => !p e

/-- The log since an entry begins again at each such entry. -/
theorem since_concat (p : QueueEntry → Bool) (log : List QueueEntry) (e : QueueEntry) :
    since p (log ++ [e]) = if p e then [] else since p log ++ [e] := by
  cases h : p e <;> simp [since, h]

def acceptedFrames (log : List QueueEntry) : List Bytes := log.filterMap QueueEntry.acceptedFrame

def dequeuedFrames (log : List QueueEntry) : List Bytes := log.filterMap QueueEntry.dequeuedFrame

/-- An accepted frame is the last of the accepted ones. -/
theorem acceptedFrames_concat (log : List QueueEntry) (e : QueueEntry) :
    acceptedFrames (log ++ [e]) = acceptedFrames log ++ e.acceptedFrame.toList := by
  rw [acceptedFrames, List.filterMap_append]
  cases h : e.acceptedFrame <;> simp [acceptedFrames, h]

/-- A dequeued frame is the last of the dequeued ones. -/
theorem dequeuedFrames_concat (log : List QueueEntry) (e : QueueEntry) :
    dequeuedFrames (log ++ [e]) = dequeuedFrames log ++ e.dequeuedFrame.toList := by
  rw [dequeuedFrames, List.filterMap_append]
  cases h : e.dequeuedFrame <;> simp [dequeuedFrames, h]

/-- What the list and the flag remember of the log. -/
structure Remembers (log : List QueueEntry) (q : Fifo) : Prop where
  frames : acceptedFrames (since QueueEntry.isClear log) =
    dequeuedFrames (since QueueEntry.isClear log) ++ q.frames
  refused : q.refused = (since QueueEntry.dropsFlag log).any QueueEntry.isRefusal

/-- An entry that does not clear moves frames in at the end and out at
the front. -/
theorem Remembers.moves {log : List QueueEntry} {q : Fifo} (h : Remembers log q)
    {e : QueueEntry} (he : e.isClear = false) {frames : List Bytes}
    (hmove : q.frames ++ e.acceptedFrame.toList = e.dequeuedFrame.toList ++ frames) :
    acceptedFrames (since QueueEntry.isClear (log ++ [e])) =
      dequeuedFrames (since QueueEntry.isClear (log ++ [e])) ++ frames := by
  rw [since_concat, if_neg (by simp [he]), acceptedFrames_concat, dequeuedFrames_concat,
    h.frames, List.append_assoc, hmove, List.append_assoc]

/-- One call keeps the log and the queue in step. -/
theorem remembers_step {log : List QueueEntry} {q : Fifo} (h : Remembers log q)
    (c : QueueCall) : Remembers (log ++ (fifoStep q c).2) (fifoStep q c).1 := by
  cases c with
  | enqueueFrame f =>
      by_cases hf : q.Accepts f
      · simp only [fifoStep, if_pos hf]
        refine ⟨h.moves rfl rfl, ?_⟩
        simp [since_concat, QueueEntry.dropsFlag, QueueEntry.isRefusal, h.refused]
      · simp only [fifoStep, if_neg hf]
        refine ⟨h.moves rfl (List.append_nil _), ?_⟩
        simp [since_concat, QueueEntry.dropsFlag, QueueEntry.isRefusal]
  | dequeueFrame =>
      refine ⟨h.moves rfl ?_, ?_⟩
      · cases hq : q.frames <;>
          simp [fifoStep, QueueEntry.acceptedFrame, QueueEntry.dequeuedFrame, hq]
      · simp [fifoStep, since_concat, QueueEntry.dropsFlag, QueueEntry.isRefusal, h.refused]
  | takeFrameQueueOverflow =>
      refine ⟨h.moves rfl (List.append_nil _), ?_⟩
      simp [fifoStep, since_concat, QueueEntry.dropsFlag]
  | clearFrameQueue =>
      constructor
      · simp [fifoStep, since_concat, QueueEntry.isClear, acceptedFrames, dequeuedFrames]
      · simp [fifoStep, since_concat, QueueEntry.dropsFlag]

/-- So does a run. -/
theorem remembers_run (cs : List QueueCall) : Remembers (fifo.trace cs) (fifo.run cs) :=
  fifo.history_invariant (I := Remembers) (P := fun _ _ => True) ⟨rfl, rfl⟩
    (fun _ _ c h _ => remembers_step h c) cs
    (fifo.allSteps_of_forall (fun _ _ => trivial) _ _)

/-- Along every sequence of the four operations: the queue answers as
the list does; a frame is accepted iff it is shorter than 520 bytes and
fewer than 32 wait; what was accepted since the last clear is what was
dequeued since, in order, followed by what waits; and the flag is set
iff an enqueue was refused since the flag was last taken or cleared. -/
theorem frameQueue_refines_fifo (cs : List QueueCall) :
    frameQueue.trace cs = fifo.trace cs ∧
      (∀ f : FrameString, (enqueueFrame (frameQueue.run cs) f.1).2 = true ↔
        f.1.length < 520 ∧ (frameQueue.run cs).queued.length < 32) ∧
      acceptedFrames (since QueueEntry.isClear (frameQueue.trace cs)) =
        dequeuedFrames (since QueueEntry.isClear (frameQueue.trace cs)) ++
          (frameQueue.run cs).queued ∧
      ((frameQueue.run cs).overflowPending = true ↔
        ∃ e ∈ since QueueEntry.dropsFlag (frameQueue.trace cs), e.isRefusal = true) := by
  have href := refines_run cs
  have hlog := remembers_run cs
  refine ⟨trace_refines cs, fun f => ?_, ?_, ?_⟩
  · rw [length_queued, enqueueFrame]
    split
    · next h => exact ⟨fun _ => h, fun _ => rfl⟩
    · next h => exact ⟨fun hf => absurd hf Bool.false_ne_true, fun hf => absurd hf h⟩
  · rw [trace_refines, href.frames]
    exact hlog.frames
  · rw [trace_refines, href.refused, hlog.refused, List.any_eq_true]

end Bootmux.Bridge
