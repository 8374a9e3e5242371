/-
Bootmux.Router.Runtime — the globals of the router firmware
(`ble_wifi_runtime.c`), its notifications, and the reconciler of the
management path.

The globals of the BLE, dispatcher and Wi-Fi sides are the fields of one
`State`. The two reassemblies are `Buffer`s, the completed cache is a
`RecentRing`, the bounded FreeRTOS queues are lists with an explicit
capacity test at each send; the queue of notifications is left out,
nothing reads it but the task that sends them. What the firmware asks
of the platform and gets an answer to (clock, HID reports, ESP-IDF
return codes) is an argument of each function.

The gate calls its actions through `MgActions`; `gateActions` is the
device wiring `s_gate_actions`.

Reconciling the path goes in this order: the inputs of the gate are
refreshed, before the probe is driven and once more after it, the gate opens
or closes the path, and the reason why it is closed is printed if it is
another one than before.
-/
import Bootmux.Bmx1.Framing
import Bootmux.Lib.Machine
import Bootmux.Lib.Reassembly
import Bootmux.Lib.RecentRing
import Bootmux.Router.Gate
import Bootmux.Router.Probe

namespace Bootmux.Router

open Bootmux.Bmx1
open Bootmux.Lib
open Bootmux.Lib.Reassembly

def bmxMaxFrame : Nat := 520
def bmxFrameQueue : Nat := 32
def bmxWifiQueue : Nat := 2
def bmxMgmtQueue : Nat := 8
def bmxMaxPayload : Nat := 512
def bmxMaxParts : Nat := 32
def bmxWifiParts : Nat := 16
def bmxReassemblyTimeoutMs : Int := 2000
def bmxWifiTimeoutMs : Int := 15000
def bmxWifiTries : Nat := 3
def bmxProxyPort : Nat := 3128
def bmxProbeIntervalMs : Int := 2000
def bmxCompleted : Nat := 16

/-- `sizeof(s_session)`: a session is kept up to its 63rd byte. -/
def bmxSessionMax : Nat := 64

/-- `sizeof(encoded)` of `complete_wifi`. -/
def bmxWifiEncoded : Nat := 384

instance : NeZero bmxCompleted := ⟨by decide⟩

/-! ## Vocabulary -/

inductive WifiState where
  | idle
  | connecting
  | online
  | authFailed
  | apNotFound
  | noIp
  | disconnected
  | cleared
  deriving DecidableEq, Repr

def wifiStateName : WifiState → String
  | .idle => "WIFI_IDLE"
  | .connecting => "WIFI_CONNECTING"
  | .online => "WIFI_ONLINE"
  | .authFailed => "WIFI_AUTH_FAILED"
  | .apNotFound => "WIFI_AP_NOT_FOUND"
  | .noIp => "WIFI_NO_IP"
  | .disconnected => "WIFI_DISCONNECTED"
  | .cleared => "WIFI_CLEARED"

/-- The codes of `notify_error`. -/
inductive ErrorCode where
  | unknownControl
  | hidNotReady
  | hidNotReadyOrUnsupported
  | oversizedText
  | reassemblyTimeout
  | oversizedWifiPayload
  | wifiQueueOverflow
  | wifiReassemblyTimeout
  | invalidLeaseTtl
  | mgmtQueueOverflow
  | wifiDisconnectFailed
  | wifiClearFailed
  | wifiConnectStartFailed
  | invalidWifiPayload
  | wifiStorageFailed
  | wifiModeFailed
  | wifiConfigFailed
  | queueFull
  deriving DecidableEq, Repr

def ErrorCode.text : ErrorCode → String
  | .unknownControl => "unknown_control"
  | .hidNotReady => "hid_not_ready"
  | .hidNotReadyOrUnsupported => "hid_not_ready_or_unsupported"
  | .oversizedText => "oversized_text"
  | .reassemblyTimeout => "reassembly_timeout"
  | .oversizedWifiPayload => "oversized_wifi_payload"
  | .wifiQueueOverflow => "wifi_queue_overflow"
  | .wifiReassemblyTimeout => "wifi_reassembly_timeout"
  | .invalidLeaseTtl => "invalid_lease_ttl"
  | .mgmtQueueOverflow => "mgmt_queue_overflow"
  | .wifiDisconnectFailed => "wifi_disconnect_failed"
  | .wifiClearFailed => "wifi_clear_failed"
  | .wifiConnectStartFailed => "wifi_connect_start_failed"
  | .invalidWifiPayload => "invalid_wifi_payload"
  | .wifiStorageFailed => "wifi_storage_failed"
  | .wifiModeFailed => "wifi_mode_failed"
  | .wifiConfigFailed => "wifi_config_failed"
  | .queueFull => "queue_full"

/-- `mgmt_event_t`: each kind with the field it uses. -/
inductive MgmtEvent where
  | bleDisconnected
  | leaseGrant (ttlSeconds : Int)
  | leaseRelease
  | probeResult (success : Bool)
  deriving DecidableEq, Repr

/-- `wifi_command_t`. -/
structure WifiCommand where
  session : Bytes
  sequence : UInt32
  payload : Bytes
  deriving DecidableEq, Repr

/-- `bootmux_proxy_endpoint_state_t`. -/
structure ProxyEndpoint where
  wifiHasIp : Bool
  proxyListenerReady : Bool
  wifiEpoch : UInt32
  staIpv4Be : UInt32
  proxyPort : Nat
  deriving DecidableEq, Repr

/-- The status argument of `notify_proxy_status`. -/
inductive ProxyStatus where
  | ready
  | offline
  | error
  deriving DecidableEq, Repr

def ProxyStatus.text : ProxyStatus → String
  | .ready => "PROXY_READY"
  | .offline => "PROXY_OFFLINE"
  | .error => "PROXY_ERROR"

/-- A part of a text or of a Wi-Fi payload; its origin is the session of
the frame. -/
abbrev TextPart := Part bmxMaxParts UInt32 Bytes Bytes
abbrev TextMark := Mark bmxMaxParts UInt32 Bytes Bytes
abbrev WifiPart := Part bmxWifiParts UInt32 Bytes Bytes
abbrev WifiMark := Mark bmxWifiParts UInt32 Bytes Bytes

/-- The calls a run is described by. `report` is a HID report that the
host took, `text` and `wifi` record what happens to the two reassembly
buffers, `command` is a command handed to `wifi_task`, and `stop` and
`resume` that the `STOP` or `RESUME` branch is entered. -/
inductive Effect where
  | report (modifier key : UInt8)
  | ack (session : Bytes) (sequence : UInt32) (result : AckResult)
  | err (session : Bytes) (sequence : UInt32) (code : ErrorCode)
  | network (session : Bytes) (state : WifiState)
  | proxyStatus (session : Bytes) (status : ProxyStatus)
  | proxyEndpoint (session : Bytes) (endpoint : Bytes) (epoch : UInt32)
  | text (mark : TextMark)
  | wifi (mark : WifiMark)
  | command (c : WifiCommand)
  | stop
  | resume
  | proxyStop
  | connect (ssid password : Bytes)
  | ping (target : UInt32)
  | gate (marker : Marker)

/-- The bytes handed to `notify_enqueue`, for the effects that are
notifications. -/
def Effect.notification : Effect → Option Bytes
  | .ack session sequence result => some (ackBytes session sequence result)
  | .err session sequence code => some (errBytes session sequence code.text)
  | .network session state =>
      some (ascii "BMX1|NET|" ++ session ++ ascii "|0|" ++ ascii (wifiStateName state))
  | .proxyStatus session status =>
      some (ascii "BMX1|PROXY_STATUS|" ++ session ++ ascii "|0|" ++ ascii status.text)
  | .proxyEndpoint session endpoint epoch =>
      some (ascii "BMX1|PROXY_STATUS|" ++ session ++ ascii "|0|PROXY_READY|ENDPOINT=" ++
        endpoint ++ ascii "|EPOCH=" ++ decimal epoch.toNat)
  | _ => none

structure State where
  connected : Bool
  session : Bytes
  outputEnabled : Bool
  stopped : Bool
  wifiState : WifiState
  wifiDeadline : Int
  wifiAttempts : Nat
  proxyReady : Bool
  endpoint : ProxyEndpoint
  gate : MgState
  probe : TpState
  mgmtEvents : List MgmtEvent
  wifiCommands : List WifiCommand
  pingRunning : Bool
  lastProbeMs : Int
  completed : RecentRing bmxCompleted UInt32
  text : Buffer bmxMaxParts UInt32 Int Bytes
  wifi : Buffer bmxWifiParts UInt32 Int Bytes

/-- The static values of the globals, with `mg_init` and `tp_init`. -/
def globals : State where
  connected := false
  session := []
  outputEnabled := false
  stopped := false
  wifiState := .idle
  wifiDeadline := 0
  wifiAttempts := 0
  proxyReady := false
  endpoint :=
    { wifiHasIp := false, proxyListenerReady := false, wifiEpoch := 0, staIpv4Be := 0
      proxyPort := 0 }
  gate := mgInit
  probe := tpInit
  mgmtEvents := []
  wifiCommands := []
  pingRunning := false
  lastProbeMs := 0
  completed := RecentRing.empty
  text := Buffer.empty
  wifi := Buffer.empty

/-! ## Notifications and queues -/

def notifyAck (s : State) (sequence : UInt32) (result : AckResult) : Effect :=
  .ack s.session sequence result

def notifyError (s : State) (sequence : UInt32) (code : ErrorCode) : Effect :=
  .err s.session sequence code

def notifyNetwork (s : State) : Effect := .network s.session s.wifiState

/-- `notify_proxy_status`. `proxyIsReady` is what
`bootmux_http_proxy_is_ready` answers and `endpointText` what
`bootmux_http_proxy_get_endpoint` does. -/
def notifyProxyStatus (s : State) (proxyIsReady : Bool) (endpointText : Option Bytes)
    (status : ProxyStatus) : Effect :=
  if status = .ready ∧ s.endpoint.wifiHasIp = true ∧ s.endpoint.proxyListenerReady = true ∧
      s.endpoint.staIpv4Be ≠ 0 ∧ proxyIsReady = true then
    match endpointText with
    | some endpoint => .proxyEndpoint s.session endpoint s.endpoint.wifiEpoch
    | none => .proxyStatus s.session .offline
  else .proxyStatus s.session status

def setWifiState (s : State) (state : WifiState) : State × List Effect :=
  let s := { s with wifiState := state }
  (s, [notifyNetwork s])

/-- `xQueueSend(s_mgmt_events, &event, 0)`. -/
def sendMgmt (s : State) (event : MgmtEvent) : Bool × State :=
  if s.mgmtEvents.length < bmxMgmtQueue then
    (true, { s with mgmtEvents := s.mgmtEvents ++ [event] })
  else (false, s)

/-- `xQueueSend(s_wifi_commands, &command, 0)`. -/
def sendCommand (s : State) (command : WifiCommand) : Bool × State :=
  if s.wifiCommands.length < bmxWifiQueue then
    (true, { s with wifiCommands := s.wifiCommands ++ [command] })
  else (false, s)

/-! ## The reconciler of the management path -/

/-- What one reconcile gets from the platform: the clock, whether a ping
session could be started, and how the three start actions of the gate
end. -/
structure ReconcileEnv where
  now : Int
  pingStarted : Bool
  netifOk : Bool
  naptOk : Bool
  proxyWasReady : Bool
  proxyStarted : Bool
  deriving DecidableEq, Repr

/-- The context of the gate's callbacks. -/
structure GateCtx where
  proxyListenerReady : Bool
  proxyReady : Bool
  effects : List Effect

def gateActions (env : ReconcileEnv) : MgActions GateCtx where
  netifStart := some fun ctx => (if env.netifOk then mgOk else mgFail, ctx)
  naptEnable := some fun ctx => (if env.naptOk then mgOk else mgFail, ctx)
  proxyStart := some fun ctx =>
    if env.proxyWasReady then (mgOk, ctx)
    else if env.proxyStarted then
      (mgOk, { ctx with proxyListenerReady := true, proxyReady := true })
    else (mgFail, ctx)
  proxyStop := some fun ctx =>
    { ctx with
      proxyListenerReady := false
      proxyReady := false
      effects := ctx.effects ++ [.proxyStop] }
  naptDisable := some id
  netifStop := some id
  emit := some fun marker ctx => { ctx with effects := ctx.effects ++ [.gate marker] }

def gateCloseReason (s : State) (now : Int) : MgReason × TpState :=
  if !s.gate.wifiHasIp then
    (if s.wifiState = .authFailed ∨ s.wifiState = .apNotFound ∨ s.wifiState = .noIp then
      .wifiNoIp else .wifiDisconnected, s.probe)
  else if !tpAllowlistLoaded s.probe then (.targetUnreachable, s.probe)
  else
    let r := tpIsReachable s.probe now
    if !r.1 then (.targetUnreachable, r.2)
    else if !mgLeaseActive s.gate now then
      (if s.gate.leaseDeadlineMs = 0 then .leaseAbsent else .leaseExpired, r.2)
    else (.boot, r.2)

/-- Copy the probe's answers into the gate's inputs. -/
def refreshInputs (s : State) (now : Int) : State :=
  let r := tpIsReachable s.probe now
  { s with
    probe := r.2
    gate :=
      { s.gate with
        targetReachable := r.1
        allowlistLoaded := tpAllowlistLoaded r.2 } }

/-- The bounded probe round of `reconcile_management_path`. -/
def driveProbe (s : State) (env : ReconcileEnv) : State × List Effect :=
  if tpProbeAllowed s.probe && !s.pingRunning &&
      decide (env.now - s.lastProbeMs ≥ bmxProbeIntervalMs) then
    let target := tpSelectTarget s.probe
    if target = 0 then (s, [])
    else if env.pingStarted then
      ({ s with pingRunning := true, lastProbeMs := env.now }, [.ping target])
    else
      ({ s with probe := tpRecordResult s.probe false env.now, lastProbeMs := env.now }, [])
  else (s, [])

/-- The call of `mg_reconcile` with the device's actions. -/
def reconcileGate (s : State) (env : ReconcileEnv) (reason : MgReason) :
    State × List Effect :=
  let ctx : GateCtx :=
    { proxyListenerReady := s.endpoint.proxyListenerReady
      proxyReady := s.proxyReady
      effects := [] }
  let r := mgReconcile s.gate env.now reason (gateActions env) ctx
  ({ s with
      gate := r.2.1
      proxyReady := r.2.2.proxyReady
      endpoint := { s.endpoint with proxyListenerReady := r.2.2.proxyListenerReady } },
    r.2.2.effects)

/-- The closing marker of `reconcile_management_path`. -/
def surfaceCloseReason (s : State) (now : Int) : State × List Effect :=
  if s.gate.pathOpen then (s, [])
  else
    let reason := gateCloseReason s now
    let r := mgCloseReasonChanged s.gate reason.1
    ({ s with gate := r.2, probe := reason.2 },
      if r.1 then [.gate (.pathClosed reason.1)] else [])

def reconcileManagementPath (s : State) (env : ReconcileEnv) (reason : MgReason) :
    State × List Effect :=
  let probed := driveProbe (refreshInputs s env.now) env
  let reconciled := reconcileGate (refreshInputs probed.1 env.now) env reason
  let surfaced := surfaceCloseReason reconciled.1 env.now
  (surfaced.1, probed.2 ++ reconciled.2 ++ surfaced.2)

/-- The state in which the tasks start: `bootmux_ble_wifi_init` reconciles
once. -/
def boot : State :=
  (reconcileManagementPath globals
    { now := 0, pingStarted := false, netifOk := false, naptOk := false
      proxyWasReady := false, proxyStarted := false } .boot).1

end Bootmux.Router
