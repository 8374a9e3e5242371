/-
Bootmux.Router.Dispatcher — the BMX1 receiver of the router firmware
(`ble_wifi_runtime.c`): `handle_frame` with everything it calls, the
timeouts of `dispatcher_task`, and the connection branches of
`gap_event`.

HID reports go through `send_hid_report`, which retries until a report
is taken or its time is up. Whether it is taken is the next answer of
the list `hid`; an exhausted list answers yes. The HID usage codes are
those of the USB HID usage tables.

Fields are read as C strings, after the frame was split on its raw
bytes.

`fieldsOp` reads the operation that the fields of a frame ask for and `act`
performs it under the session in force, so that what a frame asks for and
what is done about it are kept apart. The timeouts of the two reassemblies
and the events of the connection are steps of their own.
-/
import Bootmux.Router.Runtime

namespace Bootmux.Router

open Bootmux.Bmx1
open Bootmux.Lib
open Bootmux.Lib.Reassembly

/-! ## HID -/

def hidKeyEnter : UInt8 := 0x28
def hidKeyBackspace : UInt8 := 0x2A
def hidKeyC : UInt8 := 0x06
def leftShift : UInt8 := 0x02
def leftCtrl : UInt8 := 0x01

/-- The `switch` of `hid_key_for_ascii`: character, key, modifier. -/
def hidSymbols : List (UInt8 × UInt8 × UInt8) :=
  [(0x30, 0x27, 0), (0x20, 0x2C, 0), (0x21, 0x1E, 2), (0x22, 0x34, 2), (0x23, 0x20, 2),
   (0x24, 0x21, 2), (0x25, 0x22, 2), (0x26, 0x24, 2), (0x27, 0x34, 0), (0x28, 0x26, 2),
   (0x29, 0x27, 2), (0x2A, 0x25, 2), (0x2B, 0x2E, 2), (0x2C, 0x36, 0), (0x2D, 0x2D, 0),
   (0x2E, 0x37, 0), (0x2F, 0x38, 0), (0x3A, 0x33, 2), (0x3B, 0x33, 0), (0x3C, 0x36, 2),
   (0x3D, 0x2E, 0), (0x3E, 0x37, 2), (0x3F, 0x38, 2), (0x40, 0x1F, 2), (0x5B, 0x2F, 0),
   (0x5C, 0x31, 0), (0x5D, 0x30, 0), (0x5E, 0x23, 2), (0x5F, 0x2D, 2), (0x60, 0x35, 0),
   (0x7B, 0x2F, 2), (0x7C, 0x31, 2), (0x7D, 0x30, 2), (0x7E, 0x35, 2)]

/-- `hid_key_for_ascii`: key and modifier. -/
def hidKeyForAscii (value : UInt8) : Option (UInt8 × UInt8) :=
  if 0x61 ≤ value ∧ value ≤ 0x7A then some (0x04 + (value - 0x61), 0)
  else if 0x41 ≤ value ∧ value ≤ 0x5A then some (0x04 + (value - 0x41), leftShift)
  else if 0x31 ≤ value ∧ value ≤ 0x39 then some (0x1E + (value - 0x31), 0)
  else (hidSymbols.find? fun entry => entry.1 == value).map Prod.snd

def validateAsciiText (text : Bytes) : Bool :=
  text.all fun c => !(c < 0x20 || c > 0x7E || (hidKeyForAscii c).isNone)

/-- `send_hid_report`: whether the report was taken, and the answers that
remain. -/
def sendHidReport (hid : List Bool) (modifier key : UInt8) :
    Bool × List Bool × List Effect :=
  match hid with
  | [] => (true, [], [.report modifier key])
  | true :: rest => (true, rest, [.report modifier key])
  | false :: rest => (false, rest, [])

def releaseAll (hid : List Bool) : Bool × List Bool × List Effect := sendHidReport hid 0 0

/-- A key report and the release after it, `send_hid_report(report) &&
release_all()`. -/
def strike (hid : List Bool) (modifier key : UInt8) : Bool × List Bool × List Effect :=
  let pressed := sendHidReport hid modifier key
  if pressed.1 then
    let released := releaseAll pressed.2.1
    (released.1, released.2.1, pressed.2.2 ++ released.2.2)
  else (false, pressed.2.1, pressed.2.2)

/-- The loop of `type_ascii`. -/
def typeLoop (hid : List Bool) : Bytes → Bool × List Bool × List Effect
  | [] => (true, hid, [])
  | c :: rest =>
      let (key, modifier) := (hidKeyForAscii c).getD (0, 0)
      let struck := strike hid modifier key
      if struck.1 then
        let typed := typeLoop struck.2.1 rest
        (typed.1, typed.2.1, struck.2.2 ++ typed.2.2)
      else struck

def typeAscii (s : State) (hidReady : Bool) (hid : List Bool) (text : Bytes) :
    Bool × List Bool × List Effect :=
  if !s.outputEnabled || !hidReady || !validateAsciiText text then (false, hid, [])
  else typeLoop hid text

/-! ## Operations -/

/-- What handling one frame gets from the platform: the two clock
readings of the reassembly, HID readiness and report answers, and the
answers of the Wi-Fi and proxy calls. -/
structure FrameEnv where
  started : Int
  now : Int
  hidReady : Bool
  hid : List Bool
  disconnectOk : Bool
  setConfigOk : Bool
  proxyIsReady : Bool
  endpointText : Option Bytes
  deriving DecidableEq, Repr

/-- The key a control names. -/
def controlReport (control : Bytes) : Option (UInt8 × UInt8) :=
  if control = ascii "ENTER" then some (0, hidKeyEnter)
  else if control = ascii "BACKSPACE" then some (0, hidKeyBackspace)
  else if control = ascii "CTRL_C" then some (leftCtrl, hidKeyC)
  else none

def applyControl (s : State) (env : FrameEnv) (session : Bytes) (sequence : UInt32)
    (control : Bytes) : State × List Effect :=
  if session ≠ s.session then (s, [])
  else if s.completed.seen sequence then (s, [notifyAck s sequence .duplicate])
  else if control = ascii "STOP" then
    ({ s with
        text := Buffer.empty
        stopped := true
        outputEnabled := false
        completed := s.completed.remember sequence },
      .stop :: (releaseAll env.hid).2.2 ++ [.text .clear, notifyAck s sequence .stopped])
  else if control = ascii "RESUME" then
    ({ s with
        stopped := false
        outputEnabled := true
        completed := s.completed.remember sequence },
      .resume :: (releaseAll env.hid).2.2 ++ [notifyAck s sequence .resumed])
  else if s.stopped || !s.outputEnabled then
    (s, (releaseAll env.hid).2.2 ++ [notifyAck s sequence .stopped])
  else
    match controlReport control with
    | none => (s, [notifyError s sequence .unknownControl])
    | some (modifier, key) =>
        let struck := strike env.hid modifier key
        if struck.1 then
          ({ s with completed := s.completed.remember sequence },
            struck.2.2 ++ [notifyAck s sequence .applied])
        else
          (s, struck.2.2 ++ (releaseAll struck.2.1).2.2 ++
            [notifyError s sequence .hidNotReady])

/-- The concatenation loop of `finish_text` and `complete_wifi`: `none`
once the parts exceed `limit`. -/
def joinParts (limit : Nat) (used : Bytes) : List Bytes → Option Bytes
  | [] => some used
  | part :: rest =>
      if used.length + part.length > limit then none
      else joinParts limit (used ++ part) rest

def finishText (s : State) (env : FrameEnv) (sequence : UInt32) : State × List Effect :=
  if s.completed.seen sequence then
    (s, [notifyAck s sequence .duplicate, .text (.complete sequence)])
  else if s.stopped || !s.outputEnabled then
    ({ s with text := Buffer.empty },
      .text .clear :: (releaseAll env.hid).2.2 ++
        [notifyAck s sequence .stopped, .text (.complete sequence)])
  else
    match joinParts bmxMaxPayload [] s.text.message with
    | none =>
        ({ s with text := Buffer.empty },
          [.text (.assemble sequence s.text.message), .text .clear] ++
            (releaseAll env.hid).2.2 ++
            [notifyError s sequence .oversizedText, .text (.complete sequence)])
    | some text =>
        let typed := typeAscii s env.hidReady env.hid text
        if typed.1 then
          ({ s with
              text := Buffer.empty
              completed := s.completed.remember sequence },
            [.text (.assemble sequence s.text.message)] ++ typed.2.2 ++
              [.text .clear, notifyAck s sequence .applied, .text (.complete sequence)])
        else
          ({ s with text := Buffer.empty },
            [.text (.assemble sequence s.text.message)] ++ typed.2.2 ++ [.text .clear] ++
              (releaseAll typed.2.1).2.2 ++
              [notifyError s sequence .hidNotReadyOrUnsupported, .text (.complete sequence)])

/-- `complete_wifi`. The limit is exclusive: `used + part_length >=
sizeof(encoded)` is refused. -/
def completeWifi (s : State) (sequence : UInt32) : State × List Effect :=
  match joinParts (bmxWifiEncoded - 1) [] s.wifi.message with
  | none =>
      ({ s with wifi := Buffer.empty },
        [.wifi (.assemble sequence s.wifi.message), .wifi .clear,
          notifyError s sequence .oversizedWifiPayload, .wifi (.complete sequence)])
  | some payload =>
      let command : WifiCommand :=
        { session := s.session.take (bmxSessionMax - 1), sequence := sequence
          payload := payload }
      let sent := sendCommand { s with wifi := Buffer.empty } command
      (sent.2,
        [.wifi (.assemble sequence s.wifi.message), .wifi .clear] ++
          (if sent.1 then [.command command] else [notifyError s sequence .wifiQueueOverflow]) ++
          [.wifi (.complete sequence)])

/-- The `OPEN` branch of `handle_frame`. -/
def openSession (s : State) (session : Bytes) : State × List Effect :=
  let s :=
    { s with
      session := session.take (bmxSessionMax - 1)
      outputEnabled := true
      stopped := false
      text := Buffer.empty
      wifi := Buffer.empty
      completed := RecentRing.empty }
  (s, [.text .clear, .wifi .clear, notifyAck s 0 .opened, notifyNetwork s])

/-- The age test of both reassemblies. -/
def tooOld (now started : Int) : Bool := decide (now - started > bmxReassemblyTimeoutMs)

/-- The bounds check on the part and total fields, for either kind of
operation; `strncpy` keeps a payload up to its row. -/
def framePart (cap : Nat) (sequence : UInt32) (fields : List Bytes) :
    Option (Part cap UInt32 Bytes Bytes) :=
  match parseUInt (fieldAt fields 4), parseUInt (fieldAt fields 5) with
  | some part, some total =>
      if h : total ≠ 0 ∧ total.toNat ≤ cap ∧ part < total then
        some
          { key := sequence
            total := total.toNat
            index := part.toNat
            payload := (fieldAt fields 6).take (fieldMax - 1)
            origin := fieldAt fields 2
            index_lt := h.2.2
            total_le := h.2.1 }
      else none
  | _, _ => none

def handleText (s : State) (env : FrameEnv) (p : TextPart) : State × List Effect :=
  let r := s.text.offer env.started (tooOld env.now) p
  let s' := { s with text := r.1 }
  match r.2.2 with
  | .expired =>
      (s', r.2.1.map .text ++ (releaseAll env.hid).2.2 ++
        [notifyError s p.key .reassemblyTimeout])
  | .waiting => (s', r.2.1.map .text)
  | .complete =>
      ((finishText s' env p.key).1, r.2.1.map .text ++ (finishText s' env p.key).2)

def handleWifi (s : State) (env : FrameEnv) (p : WifiPart) : State × List Effect :=
  let r := s.wifi.offer env.started (tooOld env.now) p
  let s' := { s with wifi := r.1 }
  match r.2.2 with
  | .expired => (s', r.2.1.map .wifi ++ [notifyError s p.key .wifiReassemblyTimeout])
  | .waiting => (s', r.2.1.map .wifi)
  | .complete => ((completeWifi s' p.key).1, r.2.1.map .wifi ++ (completeWifi s' p.key).2)

/-- The `NET_LEASE` branch. -/
def netLease (s : State) (sequence : UInt32) (ttl : Bytes) : State × List Effect :=
  match parseUInt ttl with
  | none => (s, [notifyError s sequence .invalidLeaseTtl])
  | some ttl =>
      if ttl < 10 ∨ ttl > 60 then (s, [notifyError s sequence .invalidLeaseTtl])
      else if s.completed.seen sequence then (s, [notifyAck s sequence .duplicate])
      else
        let sent := sendMgmt s (.leaseGrant ttl.toNat)
        if sent.1 then
          ({ sent.2 with completed := s.completed.remember sequence },
            [notifyAck s sequence .applied])
        else (s, [notifyError s sequence .mgmtQueueOverflow])

/-- The `NET_RELEASE` branch. -/
def netRelease (s : State) (sequence : UInt32) : State × List Effect :=
  if s.completed.seen sequence then (s, [notifyAck s sequence .duplicate])
  else
    let sent := sendMgmt s .leaseRelease
    if sent.1 then
      ({ sent.2 with completed := s.completed.remember sequence },
        [notifyAck s sequence .applied])
    else (s, [notifyError s sequence .mgmtQueueOverflow])

/-- The `PROXY_STATUS` branch. -/
def proxyStatus (s : State) (env : FrameEnv) (sequence : UInt32) : State × List Effect :=
  let ready := s.endpoint.wifiHasIp && s.endpoint.proxyListenerReady && env.proxyIsReady
  let s := { s with proxyReady := ready }
  (s, [notifyProxyStatus s env.proxyIsReady env.endpointText
      (if ready then .ready else .offline), notifyAck s sequence .applied])

/-- The `WIFI_CLEAR` branch. The release of the lease is sent without a
look at whether the queue took it. -/
def wifiClear (s : State) (env : FrameEnv) (sequence : UInt32) : State × List Effect :=
  if !env.disconnectOk then (s, [notifyError s sequence .wifiDisconnectFailed])
  else if !env.setConfigOk then (s, [notifyError s sequence .wifiClearFailed])
  else
    let s := (sendMgmt { s with wifiDeadline := 0 } .leaseRelease).2
    let s :=
      { s with
        proxyReady := false
        endpoint :=
          { s.endpoint with wifiHasIp := false, proxyListenerReady := false, staIpv4Be := 0 } }
    let offline := notifyProxyStatus s env.proxyIsReady env.endpointText .offline
    let cleared := setWifiState s .cleared
    (cleared.1, [.proxyStop, offline] ++ cleared.2 ++ [notifyAck s sequence .applied])

/-! ## Frames

What a frame asks for is decoded first: `fieldsOp` makes the tests of
`handle_frame` that look only at the frame, `act` the one that compares
its session and the operation itself. -/

inductive Op where
  | opened (session : Bytes)
  | control (session : Bytes) (sequence : UInt32) (control : Bytes)
  | text (part : TextPart)
  | wifi (part : WifiPart)
  | wifiStatus (session : Bytes) (sequence : UInt32)
  | netLease (session : Bytes) (sequence : UInt32) (ttl : Bytes)
  | netRelease (session : Bytes) (sequence : UInt32)
  | proxyStatus (session : Bytes) (sequence : UInt32)
  | wifiClear (session : Bytes) (sequence : UInt32)

/-- The branches of `handle_frame` after the sequence is parsed. -/
def commandOp (fields : List Bytes) (sequence : UInt32) : Option Op :=
  let session := fieldAt fields 2
  if fieldAt fields 1 = ascii "CTRL" ∧ fields.length = 5 then
    some (.control session sequence (fieldAt fields 4))
  else if fieldAt fields 1 = ascii "TEXT" ∧ fields.length = 7 then
    (framePart bmxMaxParts sequence fields).map .text
  else if fieldAt fields 1 = ascii "WIFI" ∧ fields.length = 7 then
    (framePart bmxWifiParts sequence fields).map .wifi
  else if fieldAt fields 1 = ascii "WIFI_STATUS" ∧ fields.length = 5 then
    some (.wifiStatus session sequence)
  else if fieldAt fields 1 = ascii "NET_LEASE" ∧ fields.length = 5 then
    some (.netLease session sequence (fieldAt fields 4))
  else if fieldAt fields 1 = ascii "NET_RELEASE" ∧ fields.length = 5 then
    some (.netRelease session sequence)
  else if fieldAt fields 1 = ascii "PROXY_STATUS" ∧ fields.length = 5 then
    some (.proxyStatus session sequence)
  else if fieldAt fields 1 = ascii "WIFI_CLEAR" ∧ fields.length = 5 then
    some (.wifiClear session sequence)
  else none

def fieldsOp (fields : List Bytes) : Option Op :=
  if fields.length < 3 ∨ fieldAt fields 0 ≠ ascii "BMX1" then none
  else if fieldAt fields 1 = ascii "OPEN" ∧ fields.length = 3 then
    some (.opened (fieldAt fields 2))
  else if fields.length < 5 then none
  else (parseUInt (fieldAt fields 3)).bind (commandOp fields)

/-- The operation a frame carries. -/
def frameOp (frame : Bytes) : Option Op :=
  (routerSplitFrame frame).bind fun rows => fieldsOp (rows.map cString)

/-- The session field of an operation other than `OPEN`. -/
def Op.session : Op → Option Bytes
  | .opened _ => none
  | .control session _ _ => some session
  | .text p => some p.origin
  | .wifi p => some p.origin
  | .wifiStatus session _ => some session
  | .netLease session _ _ => some session
  | .netRelease session _ => some session
  | .proxyStatus session _ => some session
  | .wifiClear session _ => some session

/-- An operation under the session in force. -/
def perform (s : State) (env : FrameEnv) : Op → State × List Effect
  | .opened session => openSession s session
  | .control session sequence control => applyControl s env session sequence control
  | .text p => handleText s env p
  | .wifi p => handleWifi s env p
  | .wifiStatus _ sequence => (s, [notifyNetwork s, notifyAck s sequence .applied])
  | .netLease _ sequence ttl => netLease s sequence ttl
  | .netRelease _ sequence => netRelease s sequence
  | .proxyStatus _ sequence => proxyStatus s env sequence
  | .wifiClear _ sequence => wifiClear s env sequence

def act (s : State) (env : FrameEnv) (op : Op) : State × List Effect :=
  match op.session with
  | some session => if session = s.session then perform s env op else (s, [])
  | none => perform s env op

def handleFrame (s : State) (env : FrameEnv) (frame : Bytes) : State × List Effect :=
  match frameOp frame with
  | some op => act s env op
  | none => (s, [])

/-! ## Timeouts and the connection -/

/-- The two timeout checks of `dispatcher_task`. -/
def dispatcherTimeout (s : State) (now : Int) : State × List Effect :=
  let text :=
    if s.text.key ≠ 0 ∧ tooOld now s.text.started = true then
      ({ s with text := Buffer.empty }, [Effect.text .clear])
    else (s, [])
  if text.1.wifi.key ≠ 0 ∧ tooOld now text.1.wifi.started = true then
    ({ text.1 with wifi := Buffer.empty }, text.2 ++ [.wifi .clear])
  else text

/-- The connect branch of `gap_event`, for a connection that came up. -/
def gapConnect (s : State) : State × List Effect := ({ s with connected := true }, [])

/-- The disconnect branch of `gap_event` up to the send. -/
def gapDisconnectReset (s : State) (hid : List Bool) : State × List Effect :=
  ({ s with
      connected := false
      session := []
      outputEnabled := false
      stopped := false
      text := Buffer.empty
      wifi := Buffer.empty },
    [.text .clear, .wifi .clear] ++ (releaseAll hid).2.2)

/-- The send of the disconnect branch, not looked at. -/
def gapDisconnectSend (s : State) : State := (sendMgmt s .bleDisconnected).2

def gapDisconnect (s : State) (hid : List Bool) : State × List Effect :=
  let r := gapDisconnectReset s hid
  (gapDisconnectSend r.1, r.2)

end Bootmux.Router
