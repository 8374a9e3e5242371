/-
Bootmux.Iphone.BridgeSession — the iPhone's end of the keyboard and
router connection (`BLEBridgeSession.swift`).

Everything runs on the main actor: a step is a call from the user
interface, a callback of CoreBluetooth with what its `Task` was given, or
a timer. A completion does not call the session back; it is an effect
here. A timer is a task that is cancelled or not when it wakes up.
Forcing a peripheral or a characteristic that is not there ends the
process, after which nothing happens.

Not in the source: the number of a request, which the operation, the
timers armed for it and the completion carry, and how many sequence
numbers were drawn, of which `sequence` keeps 32 bits.

Left out: the status texts and the event log, which nothing reads, and
`originalCommand`.

The functions stand in the order of the source, each with the state it
returns and the effects it has. `bridgeBody` distributes an event to them,
and `bridgeStep` does nothing once the process has ended.
-/
import Bootmux.Lib.Machine
import Bootmux.Iphone.Wifi

namespace Bootmux.Iphone

open Bootmux.Bmx1
open Bootmux.Lib

/-! ## Operations -/

inductive BLEOperationKind where
  | text
  | control (control : BLEControl)
  | wifiProvision
  | wifiStatus
  | wifiClear
  | proxyStatus
  deriving DecidableEq, Repr

/-- `BLEAckContract.accepts`. -/
def accepts (result : Bytes) (operation : BLEOperationKind) : Bool :=
  if result = ascii "RESUMED" then operation = .control .resume
  else if result = ascii "STOPPED" then operation = .control .stop
  else if result = ascii "APPLIED" ∨ result = ascii "DUPLICATE" then operation ≠ .control .resume
  else false

/-- What an operation is known by; `ordinal` counts the sequence numbers
drawn up to its own. -/
structure Operation where
  session : Bytes
  sequence : UInt32
  kind : BLEOperationKind
  request : Nat
  ordinal : Nat
  deriving DecidableEq, Repr

structure PendingOperation extends Operation where
  frames : List Bytes
  nextFrame : Nat
  deriving DecidableEq, Repr

/-! ## State -/

inductive BridgeState where
  | off
  | scanning
  | connecting
  | on
  | stopped
  | error (message : String)
  deriving DecidableEq, Repr

inductive BLENetworkState where
  | idle
  | connecting
  | online
  | authFailed
  | apNotFound
  | noIP
  | disconnected
  | cleared
  deriving DecidableEq, Repr

inductive BLEProxyState where
  | offline
  | ready
  | active
  | error
  deriving DecidableEq, Repr

/-- A task that sleeps for two seconds: the timeout of an operation, with
its request, or of `OPEN`. -/
inductive Timer where
  | operation (request : Nat) (cancelled : Bool)
  | opening (cancelled : Bool)
  deriving DecidableEq, Repr

def Timer.cancel : Timer → Timer
  | .operation request _ => .operation request true
  | .opening _ => .opening true

structure BridgeSession where
  state : BridgeState
  wifiState : BLENetworkState
  proxyState : BLEProxyState
  proxyEndpoint : Option Bytes
  proxyEpoch : Option UInt32
  poweredOn : Bool
  maximumWrite : Int
  peripheral : Option Nat
  rx : Bool
  tx : Bool
  sessionID : Bytes
  sequence : UInt32
  pendingOperation : Option PendingOperation
  operationTimeoutTask : Option Nat
  openTimeoutTask : Option Nat
  writeInFlight : Bool
  opening : Bool
  preserveOpeningError : Bool
  lastNetworkSequence : UInt32
  lastProxyEpoch : Option UInt32
  pendingWiFiCredentials : Option (Bytes × Bytes)
  attemptedProvisionEpochs : List UInt32
  keychain : Option (Bytes × Bytes)
  timers : List (Option Timer)
  requests : Nat
  drawn : Nat
  crashed : Bool
  deriving DecidableEq, Repr

def newBridgeSession : BridgeSession where
  state := .off
  wifiState := .idle
  proxyState := .offline
  proxyEndpoint := none
  proxyEpoch := none
  poweredOn := false
  maximumWrite := 20
  peripheral := none
  rx := false
  tx := false
  sessionID := []
  sequence := 0
  pendingOperation := none
  operationTimeoutTask := none
  openTimeoutTask := none
  writeInFlight := false
  opening := false
  preserveOpeningError := false
  lastNetworkSequence := 0
  lastProxyEpoch := none
  pendingWiFiCredentials := none
  attemptedProvisionEpochs := []
  keychain := none
  timers := []
  requests := 0
  drawn := 0
  crashed := false

inductive BridgeEffect where
  | began (operation : Operation)
  | completed (request : Nat) (success : Bool)
  | wrote (frame : Bytes)
  | cancelledConnection (peripheral : Nat)
  | saved (ssid password : Bytes)
  deriving DecidableEq, Repr

namespace BridgeSession

/-! ## Timers and the pending operation -/

def cancelTimer (s : BridgeSession) (task : Option Nat) : List (Option Timer) :=
  match task with
  | none => s.timers
  | some i => s.timers.modify i (·.map .cancel)

/-- `operationTimeoutTask?.cancel()` and `operationTimeoutTask = nil`. -/
def dropOperationTimeout (s : BridgeSession) : BridgeSession :=
  { s with timers := s.cancelTimer s.operationTimeoutTask, operationTimeoutTask := none }

/-- `openTimeoutTask?.cancel()` and `openTimeoutTask = nil`. -/
def dropOpenTimeout (s : BridgeSession) : BridgeSession :=
  { s with timers := s.cancelTimer s.openTimeoutTask, openTimeoutTask := none }

/-- `armOperationTimeout` for the operation of `request`. -/
def armOperationTimeout (s : BridgeSession) (request : Nat) : BridgeSession :=
  let s := s.dropOperationTimeout
  { s with
    timers := s.timers ++ [some (.operation request false)]
    operationTimeoutTask := some s.timers.length }

def armOpenTimeout (s : BridgeSession) : BridgeSession :=
  let s := s.dropOpenTimeout
  { s with
    timers := s.timers ++ [some (.opening false)]
    openTimeoutTask := some s.timers.length }

/-- The completion of the pending operation, called with `success`. -/
def completion (s : BridgeSession) (success : Bool) : List BridgeEffect :=
  match s.pendingOperation with
  | none => []
  | some operation => [.completed operation.request success]

def finishPendingOperation (s : BridgeSession) (success : Bool) :
    BridgeSession × List BridgeEffect :=
  ({ s.dropOperationTimeout with pendingOperation := none }, s.completion success)

def failPendingOperation (s : BridgeSession) : BridgeSession × List BridgeEffect :=
  match s.pendingOperation with
  | none => (s, [])
  | some _ => s.finishPendingOperation false

def pumpOperation (s : BridgeSession) : BridgeSession × List BridgeEffect :=
  match s.pendingOperation with
  | none => (s, [])
  | some operation =>
      if s.writeInFlight ∨ s.peripheral = none ∨ !s.rx then (s, [])
      else
        match operation.frames[operation.nextFrame]? with
        | none => (s.armOperationTimeout operation.request, [])
        | some frame =>
            ({ s with
                writeInFlight := true
                pendingOperation :=
                  some { operation with nextFrame := operation.nextFrame + 1 } },
              [.wrote frame])

/-! ## Requests -/

/-- A request takes the next number. -/
def nextRequest (s : BridgeSession) : BridgeSession := { s with requests := s.requests + 1 }

/-- A request that is turned down. -/
def reject (s : BridgeSession) : BridgeSession × List BridgeEffect :=
  (s.nextRequest, [.completed s.requests false])

/-- The operation of the request with these frames begins. -/
def start (s : BridgeSession) (kind : BLEOperationKind) (frames : List Bytes) :
    BridgeSession × List BridgeEffect :=
  let operation : Operation := ⟨s.sessionID, s.sequence, kind, s.requests, s.drawn⟩
  let r := ({ s.nextRequest with pendingOperation := some ⟨operation, frames, 0⟩ } :
    BridgeSession).pumpOperation
  (r.1, .began operation :: r.2)

/-- `sequence &+= 1`. -/
def nextSequence (s : BridgeSession) : BridgeSession :=
  { s with sequence := s.sequence + 1, drawn := s.drawn + 1 }

/-- `max(20, peripheral.maximumWriteValueLength(for: .withResponse))`. -/
def maximum (s : BridgeSession) : Int := max 20 s.maximumWrite

def supportsASCIIHIDText (text : Bytes) : Bool := text.all printable

def sendText (s : BridgeSession) (text : Bytes) : BridgeSession × List BridgeEffect :=
  if !supportsASCIIHIDText text then s.reject
  else if s.state ≠ .on ∨ s.pendingOperation ≠ none ∨ s.peripheral = none then s.reject
  else
    let s := s.nextSequence
    match frames s.maximum s.sessionID s.sequence text with
    | .error _ => s.reject
    | .ok frames => s.start .text frames

def send (s : BridgeSession) (control : BLEControl) : BridgeSession × List BridgeEffect :=
  if ¬ (s.state = .on ∨ s.state = .stopped ∧ control = .resume) ∨ s.pendingOperation ≠ none then
    s.reject
  else
    let s := s.nextSequence
    match Iphone.control s.sessionID s.sequence control with
    | .error _ => s.reject
    | .ok frame => s.start (.control control) [frame]

def provisionWiFi (s : BridgeSession) (ssid password : Bytes) :
    BridgeSession × List BridgeEffect :=
  if ¬ (s.state = .on ∨ s.state = .stopped) ∨ s.pendingOperation ≠ none ∨
      s.peripheral = none then s.reject
  else
    match wifiPayload ssid password with
    | .error _ => s.reject
    | .ok payload =>
        let s := s.nextSequence
        match wifiFrames s.maximum s.sessionID s.sequence payload with
        | .error _ => s.reject
        | .ok frames =>
            ({ s with pendingWiFiCredentials := some (ssid, password) } : BridgeSession).start
              .wifiProvision frames

def startWiFiControl (s : BridgeSession) (kind : BLEOperationKind)
    (frameBuilder : Bytes → UInt32 → Except BLEProtocolError Bytes) :
    BridgeSession × List BridgeEffect :=
  if ¬ (s.state = .on ∨ s.state = .stopped) ∨ s.pendingOperation ≠ none then s.reject
  else
    let s := s.nextSequence
    match frameBuilder s.sessionID s.sequence with
    | .error _ => s.reject
    | .ok frame => s.start kind [frame]

def requestWiFiStatus (s : BridgeSession) : BridgeSession × List BridgeEffect :=
  s.startWiFiControl .wifiStatus wifiStatus

def clearWiFi (s : BridgeSession) : BridgeSession × List BridgeEffect :=
  s.startWiFiControl .wifiClear wifiClear

def requestProxyStatus (s : BridgeSession) : BridgeSession × List BridgeEffect :=
  s.startWiFiControl .proxyStatus proxyStatus

/-- `BOOTMUXWiFiKeychain.load`. -/
def loadCredentials (s : BridgeSession) : Option (Bytes × Bytes) :=
  s.keychain.filter fun credentials => !credentials.1.isEmpty && !credentials.2.isEmpty

/-- `attemptAutoProvisionIfNeeded`; an epoch is tried once, also when no
credentials are saved. -/
def attemptAutoProvision (s : BridgeSession) (epoch : UInt32) :
    BridgeSession × List BridgeEffect :=
  if ¬ (s.state = .on ∨ s.state = .stopped) ∨ s.pendingOperation ≠ none ∨
      ¬ (s.wifiState = .idle ∨ s.wifiState = .disconnected) ∨
      epoch ∈ s.attemptedProvisionEpochs then (s, [])
  else
    let s := { s with attemptedProvisionEpochs := epoch :: s.attemptedProvisionEpochs }
    match s.loadCredentials with
    | none => (s, [])
    | some credentials => s.provisionWiFi credentials.1 credentials.2

/-! ## The connection -/

def connect (s : BridgeSession) : BridgeSession :=
  if !s.poweredOn then { s with state := .error "Bluetooth is unavailable." }
  else if s.peripheral ≠ none then s
  else { s with state := .scanning }

/-- What `disconnect` and `cleanupTransportFailure` have in common: both
timers are cancelled, the pending operation fails, the connection is
forgotten. -/
def forget (s : BridgeSession) : BridgeSession :=
  { s.dropOperationTimeout.dropOpenTimeout with
    pendingOperation := none
    writeInFlight := false
    opening := false
    peripheral := none
    rx := false
    tx := false
    sessionID := []
    proxyState := .offline
    proxyEndpoint := none
    proxyEpoch := none
    lastProxyEpoch := none
    pendingWiFiCredentials := none
    attemptedProvisionEpochs := [] }

def cancelConnection (s : BridgeSession) : List BridgeEffect :=
  match s.peripheral with
  | none => []
  | some peripheral => [.cancelledConnection peripheral]

def disconnect (s : BridgeSession) : BridgeSession × List BridgeEffect :=
  ({ s.forget with
      preserveOpeningError := false
      wifiState := .idle
      lastNetworkSequence := 0
      state := .off }, s.completion false ++ s.cancelConnection)

def cleanupTransportFailure (s : BridgeSession) : BridgeSession × List BridgeEffect :=
  ({ s.forget with state := .error "BLE transport disconnected." }, s.completion false)

def didUpdateState (s : BridgeSession) (poweredOn : Bool) : BridgeSession :=
  if poweredOn then { s with poweredOn := true } else { s with poweredOn := false, state := .off }

def didDiscover (s : BridgeSession) (peripheral : Nat) : BridgeSession :=
  if s.peripheral ≠ none then s
  else { s with peripheral := some peripheral, state := .connecting }

/-- `didConnect`, with the digits of the UUID it draws. -/
def didConnect (s : BridgeSession) (session : Bytes) : BridgeSession :=
  { s with sessionID := session, lastNetworkSequence := 0 }

def didDisconnect (s : BridgeSession) (peripheral : Nat) : BridgeSession × List BridgeEffect :=
  if s.peripheral ≠ some peripheral then (s, [])
  else if s.preserveOpeningError then
    ({ s with
        preserveOpeningError := false
        peripheral := none
        rx := false
        tx := false
        sessionID := [] }, [])
  else s.cleanupTransportFailure

/-- What the discovery of characteristics finds: an error, none at all, or
some, among which `rx` and `tx` are or are not. -/
inductive Characteristics where
  | failed
  | unavailable
  | found (rx tx : Bool)
  deriving DecidableEq, Repr

def didDiscoverCharacteristics (s : BridgeSession) : Characteristics → BridgeSession
  | .failed => { s with state := .error "BOOTMUX BLE characteristic discovery failed." }
  | .unavailable => { s with state := .error "BOOTMUX BLE characteristics unavailable." }
  | .found rx tx =>
      let s := { s with rx := rx, tx := tx }
      if rx && tx then s else { s with state := .error "BOOTMUX BLE characteristic missing." }

/-- `didUpdateNotificationStateFor`; `ok` is whether notifications are on. -/
def didUpdateNotification (s : BridgeSession) (ok : Bool) : BridgeSession × List BridgeEffect :=
  if !ok then (s, [])
  else
    let s := { s with opening := true, writeInFlight := true }
    match openFrame s.sessionID with
    | .error _ => ({ s with state := .error "BLE session open failed." }, [])
    | .ok frame =>
        if !s.rx then ({ s with crashed := true }, []) else (s.armOpenTimeout, [.wrote frame])

def didWriteValue (s : BridgeSession) (ok : Bool) : BridgeSession × List BridgeEffect :=
  let s := { s with writeInFlight := false }
  if ok then s.pumpOperation
  else
    let s := if s.opening then { s.dropOpenTimeout with opening := false } else s
    ({ s with state := .error "BLE write failed." } : BridgeSession).failPendingOperation

def failOpening (s : BridgeSession) : BridgeSession × List BridgeEffect :=
  if !s.opening then (s, [])
  else
    match s.peripheral with
    | none => ({ s with crashed := true }, [])
    | some peripheral =>
        ({ s.dropOpenTimeout with
            opening := false
            preserveOpeningError := true
            peripheral := none
            rx := false
            tx := false
            sessionID := []
            writeInFlight := false
            state := .error "BLE session open timed out." }, [.cancelledConnection peripheral])

/-! ## Notifications -/

/-- The state and the Wi-Fi state after an acknowledgement that is
`APPLIED` or `DUPLICATE` and accepted. -/
def applied (s : BridgeSession) (kind : BLEOperationKind) : BridgeSession :=
  match kind with
  | .control .stop => { s with state := .stopped }
  | .wifiClear => { s with wifiState := .cleared }
  | _ => s

def handleAck (s : BridgeSession) (session : Bytes) (sequence : UInt32) (result : Bytes) :
    BridgeSession × List BridgeEffect :=
  if session ≠ s.sessionID then (s, [])
  else if s.opening ∧ sequence = 0 ∧ result = ascii "OPENED" then
    ({ s.dropOpenTimeout with opening := false, state := .on } : BridgeSession).attemptAutoProvision
      (s.proxyEpoch.getD 0)
  else
    match s.pendingOperation with
    | none => (s, [])
    | some operation =>
        if operation.session ≠ session ∨ operation.sequence ≠ sequence then (s, [])
        else if result = ascii "APPLIED" ∨ result = ascii "DUPLICATE" then
          if !accepts result operation.kind then s.finishPendingOperation false
          else (s.applied operation.kind).finishPendingOperation true
        else if result = ascii "RESUMED" then
          if operation.kind ≠ .control .resume then s.finishPendingOperation false
          else ({ s with state := .on } : BridgeSession).finishPendingOperation true
        else if result = ascii "STOPPED" then
          ({ s with state := .stopped } : BridgeSession).finishPendingOperation
            (operation.kind = .control .stop)
        else (s, [])

def handleNetwork (s : BridgeSession) (session : Bytes) (sequence : UInt32)
    (state : BLENetworkState) : BridgeSession × List BridgeEffect :=
  if session ≠ s.sessionID then (s, [])
  else if sequence < s.lastNetworkSequence then (s, [])
  else
    let s := { s with lastNetworkSequence := sequence, wifiState := state }
    match state, s.pendingWiFiCredentials with
    | .online, some credentials =>
        ({ s with keychain := some credentials, pendingWiFiCredentials := none },
          [.saved credentials.1 credentials.2])
    | _, _ => (s, [])

def handleProxy (s : BridgeSession) (session : Bytes) (state : BLEProxyState)
    (endpoint : Option Bytes) (epoch : Option UInt32) : BridgeSession × List BridgeEffect :=
  let down := decide (state = .offline ∨ state = .error)
  if session ≠ s.sessionID then (s, [])
  else if epoch.any fun epoch => s.lastProxyEpoch.any (epoch < ·) then (s, [])
  else
    let last := if epoch.isSome then epoch else if down then none else s.lastProxyEpoch
    let s :=
      { s with
        lastProxyEpoch := last
        proxyState := state
        proxyEndpoint := endpoint
        proxyEpoch := epoch }
    if down then s.attemptAutoProvision (epoch.getD 0) else (s, [])

/-! ## Timers -/

/-- The task number `i` wakes up. -/
def wake (s : BridgeSession) (i : Nat) : BridgeSession × List BridgeEffect :=
  match s.timers[i]?.join with
  | none => (s, [])
  | some timer =>
      let s := { s with timers := s.timers.set i none }
      match timer with
      | .operation _ cancelled => if cancelled then (s, []) else s.failPendingOperation
      | .opening cancelled => if cancelled then (s, []) else s.failOpening

end BridgeSession

/-! ## The session as a machine -/

inductive BridgeEvent where
  | connect
  | disconnect
  | sendText (text : Bytes)
  | send (control : BLEControl)
  | provisionWiFi (ssid password : Bytes)
  | requestWiFiStatus
  | clearWiFi
  | requestProxyStatus
  | forgetSavedWiFi
  | didUpdateState (poweredOn : Bool)
  | didDiscover (peripheral : Nat)
  | maximumWrite (bytes : Int)
  | didConnect (session : Bytes)
  | didDisconnect (peripheral : Nat)
  | didDiscoverCharacteristics (found : BridgeSession.Characteristics)
  | didUpdateNotification (ok : Bool)
  | didWriteValue (ok : Bool)
  | ack (session : Bytes) (sequence : UInt32) (result : Bytes)
  | network (session : Bytes) (sequence : UInt32) (state : BLENetworkState)
  | proxy (session : Bytes) (state : BLEProxyState) (endpoint : Option Bytes)
      (epoch : Option UInt32)
  | wake (timer : Nat)
  deriving DecidableEq, Repr

def bridgeBody (s : BridgeSession) : BridgeEvent → BridgeSession × List BridgeEffect
  | .connect => (s.connect, [])
  | .disconnect => s.disconnect
  | .sendText text => s.sendText text
  | .send control => s.send control
  | .provisionWiFi ssid password => s.provisionWiFi ssid password
  | .requestWiFiStatus => s.requestWiFiStatus
  | .clearWiFi => s.clearWiFi
  | .requestProxyStatus => s.requestProxyStatus
  | .forgetSavedWiFi => ({ s with keychain := none, pendingWiFiCredentials := none }, [])
  | .didUpdateState poweredOn => (s.didUpdateState poweredOn, [])
  | .didDiscover peripheral => (s.didDiscover peripheral, [])
  | .maximumWrite bytes => ({ s with maximumWrite := bytes }, [])
  | .didConnect session => (s.didConnect session, [])
  | .didDisconnect peripheral => s.didDisconnect peripheral
  | .didDiscoverCharacteristics found => (s.didDiscoverCharacteristics found, [])
  | .didUpdateNotification ok => s.didUpdateNotification ok
  | .didWriteValue ok => s.didWriteValue ok
  | .ack session sequence result => s.handleAck session sequence result
  | .network session sequence state => s.handleNetwork session sequence state
  | .proxy session state endpoint epoch => s.handleProxy session state endpoint epoch
  | .wake timer => s.wake timer

def bridgeStep (s : BridgeSession) (e : BridgeEvent) : BridgeSession × List BridgeEffect :=
  if s.crashed then (s, []) else bridgeBody s e

def bridgeMachine : Machine BridgeSession BridgeEvent BridgeEffect where
  init := newBridgeSession
  step := bridgeStep

end Bootmux.Iphone
