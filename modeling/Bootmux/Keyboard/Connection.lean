/-
Bootmux.Keyboard.Connection — the iPhone's keyboard session and the
keyboard bridge with Bluetooth between them.

A write of the iPhone is a callback of the bridge, and a notification of
the bridge is a callback of the iPhone. Each way they come in order, and
what is on the way can be lost at any time. Everything else that can happen
to either end happens at any time: requests, timers, the callbacks of
CoreBluetooth, connections, the steps of `loop`.
-/
import Bootmux.Lib.Link
import Bootmux.Bridge.Device
import Bootmux.Iphone.Notifications

namespace Bootmux.Keyboard

open Bootmux.Lib
open Bootmux.Bmx1

/-! ## The iPhone's end -/

/-- The digits of a UUID. -/
def isUuid (session : Bytes) : Bool :=
  session.length == 32 && session.all fun c => isDigit c || (0x41 ≤ c && c ≤ 0x46)

/-- The frames among the effects. -/
def writesOf (effects : List Iphone.BridgeEffect) : List Bytes :=
  effects.filterMap fun
    | .wrote frame => some frame
    | _ => none

/-- The call of the session that a notification is. -/
def eventOf : Iphone.Notification → Iphone.BridgeEvent
  | .ack session sequence result => .ack session sequence result
  | .network event => .network event.session event.sequence event.state
  | .proxy event => .proxy event.session event.state event.endpoint event.epoch

/-- The session of a connection is a UUID. -/
def phone : Party Iphone.BridgeSession Iphone.BridgeEvent Iphone.BridgeEffect Bytes Bytes Unit where
  machine := Iphone.bridgeMachine
  emits effect := writesOf [effect]
  admits _ _ := true
  hears _ data := (Iphone.didUpdateValueFor data).map eventOf
  own _
    | .ack _ _ _ => false
    | .network _ _ _ => false
    | .proxy _ _ _ _ => false
    | .didConnect session => isUuid session
    | _ => true

/-! ## The bridge -/

def bridge : Party Bridge.Device Bridge.DeviceEvent Bridge.DeviceEffect Bytes Bytes Unit where
  machine := Bridge.device
  emits
    | .call x => x.notification.toList
    | .handling _ => []
  admits _ _ := true
  hears _ data := some (.write data)
  own _
    | .write _ => false
    | _ => true

def connection : Lib.Link Iphone.BridgeSession Iphone.BridgeEvent Iphone.BridgeEffect Unit
    Bridge.Device Bridge.DeviceEvent Bridge.DeviceEffect Unit Bytes Bytes where
  left := phone
  right := bridge
  fails := true

abbrev ConnectionEvent : Type :=
  LinkEvent Iphone.BridgeEvent Bridge.DeviceEvent Unit Unit

/-! ## Requests -/

/-- An operation that began, and the call that it began with. -/
structure Request where
  operation : Iphone.Operation
  call : Iphone.BridgeEvent

/-- The keys a call is for. -/
def callKeys : Iphone.BridgeEvent → List Bridge.Effect
  | .sendText text => text.map .write
  | .send control => Bridge.keysOf (Bridge.controlKeys (ascii control.rawValue))
  | _ => []

def Request.keys (r : Request) : List Bridge.Effect := callKeys r.call

def requestsOf (e : Iphone.BridgeEvent) (effects : List Iphone.BridgeEffect) : List Request :=
  effects.filterMap fun
    | .began operation => some ⟨operation, e⟩
    | _ => none

/-- The requests of a run whose operations began, in order. -/
def requests (es : List Iphone.BridgeEvent) : List Request :=
  Iphone.bridgeMachine.gather (fun s e => requestsOf e (Iphone.bridgeStep s e).2) es

end Bootmux.Keyboard
