/-
Bootmux.Router.System — the tasks of the router firmware and the queues
between them (`ble_wifi_runtime.c`).

The BLE host task runs `gap_event` and `rx_write_cb`, the dispatcher
takes frames out of `s_frames`, and `wifi_task` and the ping task act on
the rest of the state as in `Bootmux.Router.WifiTask`. A step is one
action of one task. The two places where another task can come in
between with consequences are cut: the disconnect branch resets the
session and then sends the revocation, and the dispatcher compares the
session of a frame and then performs its operation. Every order of steps
is a run; a step its task cannot take changes nothing.

The connection number of a frame is not in the source, and nothing but
the theorems reads it.

A frame that is queued keeps the connection it came over. Between the check
of its session and its operation the state can change, and so it can between
the two actions of a disconnect; these are the windows that
`Bootmux.Router.RevocationTheorems` is about.
-/
import Bootmux.Router.DispatcherTheorems

namespace Bootmux.Router

open Bootmux.Bmx1
open Bootmux.Lib

/-- Where the BLE host is: advertising, connected, or inside the
disconnect branch of `gap_event`. -/
inductive Link where
  | down
  | up
  | leaving
  deriving DecidableEq, Repr

/-- `bmx_frame_t`, with the connection it came on. -/
structure QueuedFrame where
  connection : Nat
  bytes : Bytes
  deriving DecidableEq, Repr

/-- `checked` is the frame the dispatcher has found to be of the session
in force and has not performed yet. -/
structure System where
  state : State
  frames : List QueuedFrame
  queueOverflow : Bool
  checked : Option (Nat × Op)
  link : Link
  connection : Nat

def powerOn : System where
  state := boot
  frames := []
  queueOverflow := false
  checked := none
  link := .down
  connection := 0

inductive SystemEvent where
  | connect
  | write (bytes : Bytes)
  | disconnectReset (hid : List Bool)
  | disconnectSend
  | reportOverflow
  | receive
  | perform (env : FrameEnv)
  | tick (now : Int)
  | task (event : Event)

/-- The calls of the source, and marks for the handling of an `OPEN` that
came on a connection and of a `NET_LEASE`. -/
inductive SystemEffect where
  | call (x : Effect)
  | opened (connection : Nat)
  | leased

/-- A call of the receiver inside the system. -/
def System.call (y : System) (r : State × List Effect) : System × List SystemEffect :=
  ({ y with state := r.1 }, r.2.map .call)

/-! ## The BLE host -/

/-- A connection that came up. Advertising, and with it another
connection, restarts only after the disconnect. -/
def hostConnect (y : System) : System × List SystemEffect :=
  match y.link with
  | .down => ({ y with link := .up, connection := y.connection + 1 } : System).call
      (gapConnect y.state)
  | _ => (y, [])

/-- `rx_write_cb` and `enqueue_frame`. -/
def rxWrite (y : System) (bytes : Bytes) : System :=
  if y.link ≠ .up ∨ bytes.length = 0 ∨ bytes.length ≥ bmxMaxFrame then y
  else if y.frames.length < bmxFrameQueue then
    { y with frames := y.frames ++ [⟨y.connection, bytes⟩] }
  else { y with queueOverflow := true }

def hostDisconnectReset (y : System) (hid : List Bool) : System × List SystemEffect :=
  match y.link with
  | .up => ({ y with link := .leaving } : System).call (gapDisconnectReset y.state hid)
  | _ => (y, [])

def hostDisconnectSend (y : System) : System :=
  match y.link with
  | .leaving => { y with state := gapDisconnectSend y.state, link := .down }
  | _ => y

/-! ## The dispatcher -/

def reportOverflow (y : System) : System × List SystemEffect :=
  if y.queueOverflow then
    ({ y with queueOverflow := false }, [.call (notifyError y.state 0 .queueFull)])
  else (y, [])

/-- The operation of a frame, if `handle_frame` gets past the comparison
of the session. -/
def checkFrame (s : State) (frame : QueuedFrame) : Option (Nat × Op) :=
  match frameOp frame.bytes with
  | none => none
  | some op =>
      match op.session with
      | some session => if session = s.session then some (frame.connection, op) else none
      | none => some (frame.connection, op)

/-- The first half of handling a frame. -/
def receiveFrame (y : System) : System :=
  match y.checked, y.frames with
  | none, frame :: rest => { y with frames := rest, checked := checkFrame y.state frame }
  | _, _ => y

/-- The mark of an operation. -/
def Op.mark (connection : Nat) : Op → List SystemEffect
  | .opened _ => [.opened connection]
  | .netLease _ _ _ => [.leased]
  | _ => []

/-- The second half. -/
def performFrame (y : System) (env : FrameEnv) : System × List SystemEffect :=
  match y.checked with
  | none => (y, [])
  | some (connection, op) =>
      let r := ({ y with checked := none } : System).call (perform y.state env op)
      (r.1, op.mark connection ++ r.2)

/-! ## The system as a machine -/

def systemStep (y : System) : SystemEvent → System × List SystemEffect
  | .connect => hostConnect y
  | .write bytes => (rxWrite y bytes, [])
  | .disconnectReset hid => hostDisconnectReset y hid
  | .disconnectSend => (hostDisconnectSend y, [])
  | .reportOverflow => reportOverflow y
  | .receive => (receiveFrame y, [])
  | .perform env => performFrame y env
  | .tick now => y.call (dispatcherTimeout y.state now)
  | .task event => if event.isNetwork then y.call (step y.state event) else (y, [])

def system : Machine System SystemEvent SystemEffect where
  init := powerOn
  step := systemStep

/-- Both queues are empty. -/
def System.drained (y : System) : Bool :=
  y.frames.isEmpty && y.state.mgmtEvents.isEmpty

/-! ## Runs in which the revocation arrives -/

/-- A `NET_LEASE` frame with an empty session field. -/
def QueuedFrame.anonymousLease (frame : QueuedFrame) : Bool :=
  match frameOp frame.bytes with
  | some (.netLease session _ _) => session.isEmpty
  | _ => false

def Op.isLease : Op → Bool
  | .netLease _ _ _ => true
  | _ => false

/-- Performing the checked operation loses no revocation: an `OPEN` is
performed while the connection it came on is up, and the queue has room
for the revocation of a `WIFI_CLEAR`. -/
def PerformDelivers (y : System) (env : FrameEnv) : Option (Nat × Op) → Prop
  | some (connection, .opened _) => y.link = .up ∧ connection = y.connection
  | some (_, .wifiClear _ _) => env.disconnectOk = true → env.setConfigOk = true →
      y.state.mgmtEvents.length < bmxMgmtQueue
  | _ => True

instance (y : System) (env : FrameEnv) : ∀ c, Decidable (PerformDelivers y env c)
  | none => .isTrue trivial
  | some (connection, .opened _) =>
      inferInstanceAs (Decidable (y.link = .up ∧ connection = y.connection))
  | some (_, .wifiClear _ _) => inferInstanceAs (Decidable (env.disconnectOk = true →
      env.setConfigOk = true → y.state.mgmtEvents.length < bmxMgmtQueue))
  | some (_, .control _ _ _) => .isTrue trivial
  | some (_, .text _) => .isTrue trivial
  | some (_, .wifi _) => .isTrue trivial
  | some (_, .wifiStatus _ _) => .isTrue trivial
  | some (_, .netLease _ _ _) => .isTrue trivial
  | some (_, .netRelease _ _) => .isTrue trivial
  | some (_, .proxyStatus _ _) => .isTrue trivial

/-- The step loses no revocation. When a disconnect sends its own, the
queue has room for it and the dispatcher is not in the middle of a
`NET_LEASE`; and no `NET_LEASE` without a session is received while no
session is open. -/
def Delivers (y : System) : SystemEvent → Prop
  | .disconnectSend => y.link = .leaving →
      y.state.mgmtEvents.length < bmxMgmtQueue ∧ ∀ c ∈ y.checked, c.2.isLease = false
  | .receive => y.checked.isNone = true → ∀ frame ∈ y.frames.head?,
      frame.anonymousLease = true → y.state.session ≠ []
  | .perform env => PerformDelivers y env y.checked
  | _ => True

instance (y : System) : ∀ e, Decidable (Delivers y e)
  | .disconnectSend => inferInstanceAs (Decidable (y.link = .leaving →
      y.state.mgmtEvents.length < bmxMgmtQueue ∧ ∀ c ∈ y.checked, c.2.isLease = false))
  | .receive => inferInstanceAs (Decidable (y.checked.isNone = true →
      ∀ frame ∈ y.frames.head?, frame.anonymousLease = true → y.state.session ≠ []))
  | .perform env => inferInstanceAs (Decidable (PerformDelivers y env y.checked))
  | .connect => .isTrue trivial
  | .write _ => .isTrue trivial
  | .disconnectReset _ => .isTrue trivial
  | .reportOverflow => .isTrue trivial
  | .tick _ => .isTrue trivial
  | .task _ => .isTrue trivial

end Bootmux.Router
