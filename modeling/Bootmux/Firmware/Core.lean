/-
Bootmux.Firmware.Core — the core keyboard protocol as both firmwares run
it, and what a host and a client can observe of it.

A `Turn` is one connection event or one pass of the receiving loop: of
`loop` on the bridge, of `dispatcher_task` on the router. A pass handles
at most one frame and then checks the reassembly for its timeout. Both
firmwares are given the same clock readings; the bridge reads them modulo
2^32.

What is observed is a sequence of key strokes and acknowledgements. A
stroke is a HID usage with its modifiers, so that the bridge's calls of
the keyboard library can be compared with the router's reports. The
library is not part of the repository: `Keyboard` stands for it, and
`Keyboard.UsAnsi` says what the protocol document asks of it, the US ANSI
layout.

`bridgeTurns` and `routerTurns` run the two receivers on the same turns, and
`observeBridge` and `observeRouter` say what is seen of the effects. A run
is well formed if its sessions and fields fit what both firmwares can hold;
what is longer the router cuts and the bridge does not.
-/
import Bootmux.Bridge.ReceiverTheorems
import Bootmux.Router.DispatcherTheorems

namespace Bootmux.Firmware.Core

open Bootmux.Bmx1
open Bootmux.Lib
open Bootmux.Lib.Reassembly

/-! ## The keyboard -/

/-- The printing keys of a US ANSI keyboard: the usage of the first key of
a row, and what the keys of the row print without and with shift. -/
def usAnsiRows : List (UInt8 × Bytes × Bytes) :=
  [(0x04, ascii "abcdefghijklmnopqrstuvwxyz1234567890",
      ascii "ABCDEFGHIJKLMNOPQRSTUVWXYZ!@#$%^&*()"),
   (0x2C, ascii " -=[]\\", ascii " _+\x7b\x7d|"),
   (0x33, ascii ";'`,./", ascii ":\"~<>?")]

/-- The key and the modifiers that print a character. -/
def usAnsi (c : UInt8) : Option (UInt8 × UInt8) :=
  usAnsiRows.findSome? fun (first, plain, shifted) =>
    match plain.idxOf? c, shifted.idxOf? c with
    | some i, _ => some (first + UInt8.ofNat i, 0)
    | none, some i => some (first + UInt8.ofNat i, 0x02)
    | none, none => none

/-- The keyboard library of the bridge: the key and modifiers that `write`
strikes, and the modifiers that `press` holds. -/
structure Keyboard where
  stroke : UInt8 → UInt8 × UInt8
  held : UInt8 → UInt8

/-- The library is a US ANSI keyboard. -/
structure Keyboard.UsAnsi (kb : Keyboard) : Prop where
  printable : ∀ c, Bridge.printable c = true → usAnsi c = some (kb.stroke c)
  enter : kb.stroke Bridge.keyReturn = (0x28, 0)
  backspace : kb.stroke Bridge.keyBackspace = (0x2A, 0)
  leftCtrl : kb.held Bridge.keyLeftCtrl = 0x01

/-! ## Observations -/

inductive Observed where
  | stroke (key modifiers : UInt8)
  | ack (session : Bytes) (sequence : UInt32) (result : AckResult)
  deriving DecidableEq, Repr

/-- The observations of a bridge trace, with the modifiers `held`. -/
def observeFrom (kb : Keyboard) (held : UInt8) : List Bridge.Effect → List Observed
  | [] => []
  | .press key :: t => observeFrom kb (held ||| kb.held key) t
  | .write key :: t =>
      .stroke (kb.stroke key).1 ((kb.stroke key).2 ||| held) :: observeFrom kb held t
  | .releaseAll :: t => observeFrom kb 0 t
  | .ack session sequence result :: t =>
      .ack session sequence result :: observeFrom kb held t
  | .err _ _ _ :: t => observeFrom kb held t
  | .queueFull :: t => observeFrom kb held t
  | .text _ :: t => observeFrom kb held t
  | .stop :: t => observeFrom kb held t
  | .resume :: t => observeFrom kb held t

def observeBridge (kb : Keyboard) (t : List Bridge.Effect) : List Observed := observeFrom kb 0 t

/-- The observations of a router trace; a report without key and modifiers
is a release. -/
def observeRouter (t : List Router.Effect) : List Observed :=
  t.filterMap fun x => match x with
    | .report modifier key =>
        if modifier = 0 ∧ key = 0 then none else some (.stroke key modifier)
    | .ack session sequence result => some (.ack session sequence result)
    | _ => none

/-! ## Turns -/

inductive Turn where
  | connect
  | disconnect
  | pass (started now checked : Nat) (frame : Option Bytes)

/-- The platform as the router sees it in a pass: HID is always ready. -/
def quietEnv (started now : Nat) : Router.FrameEnv :=
  { started := started, now := now, hidReady := true, hid := [], disconnectOk := true
    setConfigOk := true, proxyIsReady := true, endpointText := none }

def bridgeEvents : Turn → List Bridge.Event
  | .connect => [.connect]
  | .disconnect => [.disconnect]
  | .pass started now checked frame =>
      (frame.map fun bytes =>
        .frame (UInt32.ofNat started) (UInt32.ofNat now) bytes).toList ++
        [.tick (UInt32.ofNat checked)]

def routerEvents : Turn → List Router.Event
  | .connect => [.connect]
  | .disconnect => [.disconnect []]
  | .pass started now checked frame =>
      (frame.map fun bytes => .frame (quietEnv started now) bytes).toList ++ [.tick checked]

/-- The bridge, turn by turn, and the time of its last timeout check. -/
def bridgeTurns : Machine (Nat × Bridge.State) Turn Bridge.Effect where
  init := (0, Bridge.boot)
  step s e :=
    ((match e with | .pass _ _ checked _ => checked | _ => s.1,
      Bridge.receiver.runFrom s.2 (bridgeEvents e)),
      Bridge.receiver.traceFrom s.2 (bridgeEvents e))

def routerTurns : Machine Router.State Turn Router.Effect where
  init := Router.boot
  step s e :=
    (Router.router.runFrom s (routerEvents e), Router.router.traceFrom s (routerEvents e))

/-! ## Well-formed runs -/

/-- The controls of the core protocol. -/
def controls : List Bytes :=
  [ascii "ENTER", ascii "BACKSPACE", ascii "CTRL_C", ascii "STOP", ascii "RESUME"]

/-- A well-formed core frame, which both queues store: an `OPEN` whose
session fits, a text part, or a control by its name. -/
def coreFrame (bytes : Bytes) : Bool :=
  bytes.length < fieldMax && !bytes.contains 0 &&
    match splitFrame bytes with
    | none => false
    | some fields =>
        match Bridge.fieldsOp fields with
        | some (.opened session) => session.length < Router.bmxSessionMax
        | some (.control _ _ control) => fields.length == 5 && controls.contains control
        | some (.text _) => true
        | none => false

/-- If the frame completes a text, the text is printable. -/
def completesPrintable (s : Bridge.State) (started now : Nat) (bytes : Bytes) : Bool :=
  match Bridge.frameOp bytes with
  | some (.text p) =>
      let r := s.reassembly.offer (UInt32.ofNat started) (Bridge.tooOld (UInt32.ofNat now)) p
      !(p.origin == s.activeSession && r.2.2 == .complete) ||
        r.1.message.flatten.all Bridge.printable
  | _ => true

/-- A turn of a well-formed run: the clock goes forward, less than 2^31 ms
at a time, and a frame is a core frame. -/
def WellFormed (s : Nat × Bridge.State) : Turn → Prop
  | .pass started now checked frame =>
      s.1 ≤ started ∧ started ≤ now ∧ now ≤ checked ∧ checked < s.1 + 2 ^ 31 ∧
        ∀ bytes ∈ frame, coreFrame bytes = true ∧ completesPrintable s.2 started now bytes = true
  | _ => True

instance (s : Nat × Bridge.State) : ∀ e, Decidable (WellFormed s e)
  | .pass started now checked frame =>
      inferInstanceAs (Decidable (s.1 ≤ started ∧ started ≤ now ∧ now ≤ checked ∧
        checked < s.1 + 2 ^ 31 ∧ ∀ bytes ∈ frame, coreFrame bytes = true ∧
          completesPrintable s.2 started now bytes = true))
  | .connect => .isTrue trivial
  | .disconnect => .isTrue trivial

/-- The session a turn opens. -/
def Turn.opens : Turn → Option Bytes
  | .pass _ _ _ (some bytes) =>
      match Bridge.frameOp bytes with
      | some (.opened session) => some session
      | _ => none
  | _ => none

/-- No session is opened while the bridge is stopped. -/
def Unlatched (s : Nat × Bridge.State) (e : Turn) : Prop :=
  e.opens.isSome = true → s.2.stoppedLatch = false

instance (s : Nat × Bridge.State) (e : Turn) : Decidable (Unlatched s e) :=
  inferInstanceAs (Decidable (_ → _))

end Bootmux.Firmware.Core
