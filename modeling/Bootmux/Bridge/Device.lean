/-
Bootmux.Bridge.Device — the frame queue between the BLE callbacks and
`loop`, and the bridge as a whole (`enqueueFrame` .. `clearFrameQueue`,
`ServerCallbacks`, `RxCallbacks` and `loop` of
`firmware/esp32s3-bridge/src/main.cpp`).

The callbacks run on another task than `loop`. Each callback is one
event here and `loop` is cut into four: the overflow report, the dequeue,
the call of `handleFrame` on the frame just dequeued, and the timeout
check. The handlers are atomic: a callback comes between two of these
parts and not in the middle of one, though on the device `onDisconnect`
can clear the reassembly while `finishText` runs. The order in which
`loop` makes its parts is not enforced, so every interleaving of whole
callbacks and parts of `loop` is a run.

`stamp` numbers the writes in order of arrival. It is not in the source
and nothing reads it but the theorems.

What the queue does is compared with a list in
`Bootmux.Bridge.QueueTheorems`; here it is shown that the frames which
`loop` handles are handled in the order in which they were written, by an
invariant over the stamps (`InOrder`).
-/
import Bootmux.Bridge.ReceiverTheorems
import Bootmux.Lib.RingQueue

namespace Bootmux.Bridge

open Bootmux.Bmx1
open Bootmux.Lib

def kFrameQueueCapacity : Nat := 32
def kMaxFrameBytes : Nat := 520

instance : NeZero kFrameQueueCapacity := ⟨by decide⟩

structure QueuedFrame where
  length : Nat
  bytes : Bytes
  stamp : Nat

instance : Inhabited QueuedFrame := ⟨⟨0, List.replicate kMaxFrameBytes 0, 0⟩⟩

/-- A frame out of the queue, a C string. -/
structure DequeuedFrame where
  bytes : Bytes
  stamp : Nat
  nulFree : (0 : UInt8) ∉ bytes

/-- `frame` is the local variable of `loop`, while it holds a frame that
has not been handled. -/
structure Device where
  core : State
  frameQueue : RingQueue kFrameQueueCapacity QueuedFrame
  overflowPending : Bool
  frame : Option DequeuedFrame
  arrivals : Nat

def powerOn : Device where
  core := boot
  frameQueue := RingQueue.empty
  overflowPending := false
  frame := none
  arrivals := 0

/-! ## The queue -/

def enqueueFrame (d : Device) (frame : Bytes) : Device × Bool :=
  if h : frame.length < kMaxFrameBytes ∧ d.frameQueue.count < kFrameQueueCapacity then
    ({ d with
        frameQueue := d.frameQueue.push
          { length := frame.length
            bytes := frame ++ List.replicate (kMaxFrameBytes - frame.length) 0
            stamp := d.arrivals } h.2 },
      true)
  else ({ d with overflowPending := true }, false)

def dequeueFrame (d : Device) : Device × Option DequeuedFrame :=
  if h : 0 < d.frameQueue.count then
    let slot := (d.frameQueue.pop h).1
    ({ d with frameQueue := (d.frameQueue.pop h).2 },
      some
        { bytes := (cString slot.bytes).take slot.length
          stamp := slot.stamp
          nulFree := fun hz => nulFree_cString _ (List.mem_of_mem_take hz) })
  else (d, none)

def takeFrameQueueOverflow (d : Device) : Device × Bool :=
  ({ d with overflowPending := false }, d.overflowPending)

def clearFrameQueue (d : Device) : Device :=
  { d with frameQueue := RingQueue.empty, overflowPending := false }

/-! ## The device as a machine -/

inductive DeviceEvent where
  | connect
  | disconnect
  | write (bytes : Bytes)
  | reportOverflow
  | dequeue
  | handle (started now : UInt32)
  | tick (now : UInt32)

/-- `handling` marks that the frame of that stamp is being handled; the
rest are the calls of the source. -/
inductive DeviceEffect where
  | handling (stamp : Nat)
  | call (x : Effect)

def onWrite (d : Device) (bytes : Bytes) : Device × List DeviceEffect :=
  let r := enqueueFrame d (cString bytes)
  ({ r.1 with arrivals := d.arrivals + 1 }, if r.2 then [] else [.call .releaseAll])

def reportOverflow (d : Device) : Device × List DeviceEffect :=
  let r := takeFrameQueueOverflow d
  (r.1, if r.2 then [.call .queueFull] else [])

/-- A call of the receiver inside the device. -/
def Device.call (d : Device) (r : State × List Effect) : Device × List DeviceEffect :=
  ({ d with core := r.1 }, r.2.map .call)

def deviceStep (d : Device) : DeviceEvent → Device × List DeviceEffect
  | .connect => d.call (onConnect d.core)
  | .disconnect => (clearFrameQueue d).call (onDisconnect d.core)
  | .write bytes => onWrite d bytes
  | .reportOverflow => reportOverflow d
  | .dequeue =>
      -- `loop` handles the frame it holds before it takes another
      if d.frame.isSome then (d, [])
      else
        let r := dequeueFrame d
        ({ r.1 with frame := r.2 }, [])
  | .handle started now =>
      match d.frame with
      | none => (d, [])
      | some frame =>
          let r := { d with frame := none }.call (handleFrame d.core started now frame.bytes)
          (r.1, .handling frame.stamp :: r.2)
  | .tick now => d.call (loopTimeout d.core now)

def device : Machine Device DeviceEvent DeviceEffect where
  init := powerOn
  step := deviceStep

/-- The calls of the source in a device trace. -/
def calls (t : List DeviceEffect) : List Effect :=
  t.filterMap fun x => match x with | .call x => some x | .handling _ => none

/-- The stamps of the frames handled, in order. -/
def handled (t : List DeviceEffect) : List Nat :=
  t.filterMap fun x => match x with | .handling n => some n | .call _ => none

@[simp] theorem calls_append (t u : List DeviceEffect) : calls (t ++ u) = calls t ++ calls u :=
  List.filterMap_append

@[simp] theorem calls_map_call (t : List Effect) : calls (t.map .call) = t := by
  induction t with
  | nil => rfl
  | cons x t ih => simp only [calls, List.map_cons, List.filterMap_cons] at ih ⊢; rw [ih]

@[simp] theorem handled_append (t u : List DeviceEffect) :
    handled (t ++ u) = handled t ++ handled u := List.filterMap_append

@[simp] theorem handled_map_call (t : List Effect) : handled (t.map .call) = [] := by
  induction t with
  | nil => rfl
  | cons x t ih => simp only [handled, List.map_cons, List.filterMap_cons] at ih ⊢; exact ih

/-! ## The device runs the receiver -/

/-- Calls that say nothing about the receiver: the callbacks and `loop`
make them outside the frame handler. -/
def Effect.idle : Effect → Bool
  | .releaseAll => true
  | .queueFull => true
  | _ => false

/-- A dequeued frame is handled as the receiver handles it. -/
theorem handleFrame_dequeued (s : State) (started now : UInt32) (f : DequeuedFrame) :
    handleFrame s started now f.bytes = step s (.frame started now f.bytes) := by
  rw [step, cString_of_nulFree f.nulFree]

/-- One device step is one receiver step, or idle calls. -/
theorem deviceStep_cases (d : Device) (e : DeviceEvent) :
    (∃ c, (deviceStep d e).1.core = (step d.core c).1 ∧
      calls (deviceStep d e).2 = (step d.core c).2) ∨
    ((deviceStep d e).1.core = d.core ∧ ∀ x ∈ calls (deviceStep d e).2, x.idle = true) := by
  cases e with
  | connect => exact Or.inl ⟨.connect, rfl, calls_map_call _⟩
  | disconnect => exact Or.inl ⟨.disconnect, rfl, calls_map_call _⟩
  | tick now => exact Or.inl ⟨.tick now, rfl, calls_map_call _⟩
  | write bytes =>
      refine Or.inr ⟨?_, ?_⟩
      · simp only [deviceStep, onWrite, enqueueFrame]
        split <;> rfl
      · simp only [deviceStep, onWrite]
        split <;> simp [calls, Effect.idle]
  | reportOverflow =>
      refine Or.inr ⟨rfl, ?_⟩
      simp only [deviceStep, reportOverflow]
      split <;> simp [calls, Effect.idle]
  | dequeue =>
      refine Or.inr ⟨?_, ?_⟩
      · simp only [deviceStep, dequeueFrame]
        split
        · rfl
        · split <;> rfl
      · simp only [deviceStep]
        split <;> simp [calls]
  | handle started now =>
      simp only [deviceStep]
      split
      · exact Or.inr ⟨rfl, by simp [calls]⟩
      · rename_i frame _
        have hc := handleFrame_dequeued d.core started now frame
        exact Or.inl ⟨.frame started now frame.bytes, congrArg Prod.fst hc,
          (calls_map_call _).trans (congrArg Prod.snd hc)⟩

/-- What receiver steps keep and idle calls keep, device runs keep. -/
theorem device_history {Inv : List Effect → State → Prop}
    (hstep : ∀ t s e, Inv t s → Inv (t ++ (step s e).2) (step s e).1)
    (hidle : ∀ t u s, (∀ x ∈ u, Effect.idle x = true) → Inv t s → Inv (t ++ u) s)
    (es : List DeviceEvent) (t : List Effect) (d : Device) (h : Inv t d.core) :
    Inv (t ++ calls (device.traceFrom d es)) (device.runFrom d es).core := by
  induction es generalizing t d with
  | nil => simpa [calls] using h
  | cons e es ih =>
      have hnext : Inv (t ++ calls (deviceStep d e).2) (deviceStep d e).1.core := by
        rcases deviceStep_cases d e with ⟨c, hc, hcalls⟩ | ⟨hc, hcalls⟩
        · rw [hc, hcalls]; exact hstep t d.core c h
        · rw [hc]; exact hidle t _ d.core hcalls h
      have := ih _ (deviceStep d e).1 hnext
      simpa [device, List.append_assoc] using this

/-! ## Frames are handled in order of arrival -/

/-- The stamps of the frames that wait to be handled, oldest first. -/
def Device.waiting (d : Device) : List Nat :=
  (d.frame.map DequeuedFrame.stamp).toList ++ d.frameQueue.contents.map QueuedFrame.stamp

/-- Handled and waiting frames, in this order, are in order of arrival. -/
def InOrder (t : List DeviceEffect) (d : Device) : Prop :=
  (handled t ++ d.waiting).Pairwise (· < ·) ∧ ∀ n ∈ handled t ++ d.waiting, n < d.arrivals

/-- One step of the device keeps callbacks and frames in their order. -/
theorem inOrder_step (t : List DeviceEffect) (d : Device) (e : DeviceEvent)
    (h : InOrder t d) : InOrder (t ++ (deviceStep d e).2) (deviceStep d e).1 := by
  obtain ⟨hsorted, hbound⟩ := h
  cases e with
  | connect =>
      simp only [deviceStep, Device.call, InOrder, handled_append, handled_map_call,
        List.append_nil]
      exact ⟨hsorted, hbound⟩
  | tick now =>
      simp only [deviceStep, Device.call, InOrder, handled_append, handled_map_call,
        List.append_nil]
      exact ⟨hsorted, hbound⟩
  | disconnect =>
      have hsub : (handled t ++ (clearFrameQueue d).waiting).Sublist
          (handled t ++ d.waiting) := by
        refine List.Sublist.append (List.Sublist.refl _) ?_
        simp [Device.waiting, clearFrameQueue]
      simp only [deviceStep, Device.call, InOrder, handled_append, handled_map_call,
        List.append_nil]
      exact ⟨hsorted.sublist hsub, fun n hn => hbound n (hsub.subset hn)⟩
  | reportOverflow =>
      have hnone : handled (deviceStep d .reportOverflow).2 = [] := by
        simp only [deviceStep, reportOverflow]
        split <;> rfl
      rw [InOrder, handled_append, hnone, List.append_nil]
      exact ⟨hsorted, hbound⟩
  | write bytes =>
      have hnone : handled (deviceStep d (.write bytes)).2 = [] := by
        simp only [deviceStep, onWrite]
        split <;> rfl
      rw [InOrder, handled_append, hnone, List.append_nil]
      simp only [deviceStep, onWrite, enqueueFrame]
      split
      · -- the new frame is the youngest
        simp only [Device.waiting, RingQueue.contents_push, List.map_append, List.map_singleton,
          ← List.append_assoc]
        rw [List.append_assoc (handled t)]
        refine ⟨?_, ?_⟩
        · rw [List.pairwise_append]
          refine ⟨hsorted, List.pairwise_singleton _ _, ?_⟩
          intro n hn m hm
          rw [List.mem_singleton.mp hm]
          exact hbound n hn
        · intro n hn
          rcases List.mem_append.mp hn with hn | hn
          · exact Nat.lt_succ_of_lt (hbound n hn)
          · rw [List.mem_singleton.mp hn]; exact Nat.lt_succ_self _
      · exact ⟨hsorted, fun n hn => Nat.lt_succ_of_lt (hbound n hn)⟩
  | dequeue =>
      have hsame : (deviceStep d .dequeue).1.waiting = d.waiting ∧
          (deviceStep d .dequeue).1.arrivals = d.arrivals ∧ (deviceStep d .dequeue).2 = [] := by
        simp only [deviceStep]
        split
        · exact ⟨rfl, rfl, rfl⟩
        · rename_i hnone
          have hframe : d.frame = none := by simpa using hnone
          unfold dequeueFrame
          split
          · rename_i hcount
            refine ⟨?_, rfl, rfl⟩
            simp only [Device.waiting, hframe]
            rw [RingQueue.contents_pop d.frameQueue hcount]
            rfl
          · refine ⟨?_, rfl, rfl⟩
            simp [Device.waiting, hframe]
      rw [InOrder, hsame.1, hsame.2.1, hsame.2.2, List.append_nil]
      exact ⟨hsorted, hbound⟩
  | handle started now =>
      simp only [deviceStep]
      split
      · rw [List.append_nil]; exact ⟨hsorted, hbound⟩
      · rename_i frame hframe
        -- the oldest waiting frame becomes the youngest handled one
        have hmove : handled (t ++ .handling frame.stamp ::
              ((handleFrame d.core started now frame.bytes).2.map .call)) ++
            d.frameQueue.contents.map QueuedFrame.stamp = handled t ++ d.waiting := by
          simp only [Device.waiting, hframe, handled_append]
          rw [show handled (.handling frame.stamp ::
            ((handleFrame d.core started now frame.bytes).2.map .call)) = [frame.stamp] from
              congrArg (frame.stamp :: ·) (handled_map_call _)]
          simp
        refine ⟨?_, ?_⟩
        · rw [← hmove] at hsorted; exact hsorted
        · intro n hn; exact hbound n (by rw [← hmove]; exact hn)

/-- **First in, first out**: frames are handled in order of arrival. -/
theorem handled_in_order (es : List DeviceEvent) :
    (handled (device.trace es)).Pairwise (· < ·) := by
  have h := device.history_invariant (I := InOrder) (P := fun _ _ => True)
    ⟨List.Pairwise.nil, by simp [handled, Device.waiting, device, powerOn]⟩
    (fun t d e ht _ => inOrder_step t d e ht) es
    (device.allSteps_of_forall (fun _ _ => trivial) _ _)
  exact (List.pairwise_append.mp h.1).1

end Bootmux.Bridge
