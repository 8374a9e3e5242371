/-
Bootmux.Router.WifiTask — the task `wifi_task` of the router firmware
with `handle_wifi_command`, the ping callbacks, and the router as one
machine.

An iteration of the task takes at most one Wi-Fi event and one command,
drains the management queue, checks the connection deadline and
reconciles. Each of these is an event here, so every order in which the
queues fill is a run; the management queue is drained one event at a
time, as its loop does.

`router` puts the task together with the BLE side of
`Bootmux.Router.Dispatcher`. A frame is handled as one event; the frame
queue and the finer interleaving of the tasks are the subject of
`Bootmux.Router.System`.

An accepted address gives the probe a subnet and makes a new epoch; a lost
network takes address and subnet back. The events of the management queue go
to the gate or the probe one by one, and each is followed by a reconcile.
-/
import Bootmux.Router.Dispatcher

namespace Bootmux.Router

open Bootmux.Bmx1
open Bootmux.Lib

/-! ## Wi-Fi events -/

/-- The disconnect reasons `wifi_task` tells apart. -/
inductive DisconnectReason where
  | authFail
  | authExpire
  | handshakeTimeout
  | noApFound
  | noApFoundWithCompatibleSecurity
  | other
  deriving DecidableEq, Repr

/-- `wifi_runtime_event_t`. `gotIp` carries what `esp_netif_get_ip_info`
answers, `none` for a failure. -/
inductive WifiEvent where
  | staStart
  | staDisconnected (reason : DisconnectReason)
  | gotIp (info : Option (UInt32 × UInt32))
  | other
  deriving DecidableEq, Repr

/-- The state change on a disconnect, by its reason. -/
def disconnectedState (s : State) (reason : DisconnectReason) : State × List Effect :=
  match reason with
  | .authFail | .authExpire | .handshakeTimeout =>
      setWifiState { s with wifiDeadline := 0 } .authFailed
  | .noApFound | .noApFoundWithCompatibleSecurity =>
      setWifiState { s with wifiDeadline := 0 } .apNotFound
  | .other =>
      if s.wifiState ≠ .authFailed ∧ s.wifiState ≠ .apNotFound ∧ s.wifiState ≠ .noIp then
        setWifiState s .disconnected
      else (s, [])

/-- Clear the Wi-Fi inputs: the endpoint, the gate's input and the
probe's subnet. -/
def withdrawWifi (s : State) : State :=
  { s with
    endpoint :=
      { s.endpoint with wifiHasIp := false, proxyListenerReady := false, staIpv4Be := 0 }
    gate := { s.gate with wifiHasIp := false }
    probe := tpSetSubnet s.probe 0 0 }

/-- The epoch after one more address; it skips zero. -/
def nextEpoch (epoch : UInt32) : UInt32 := if epoch + 1 = 0 then epoch + 1 + 1 else epoch + 1

/-- The accepting half of the `IP_EVENT_STA_GOT_IP` branch. -/
def acceptIp (s : State) (ip netmask : UInt32) : State × List Effect :=
  let s :=
    { s with
      endpoint :=
        { wifiHasIp := true
          proxyListenerReady := false
          wifiEpoch := nextEpoch s.endpoint.wifiEpoch
          staIpv4Be := ip
          proxyPort := bmxProxyPort } }
  let online := setWifiState s .online
  ({ online.1 with
      gate := { online.1.gate with wifiHasIp := true }
      probe := tpSetSubnet online.1.probe ip netmask },
    online.2)

/-- The refusing half: no address could be read. -/
def refuseIp (s : State) (env : ReconcileEnv) (proxyIsReady : Bool)
    (endpointText : Option Bytes) : State × List Effect :=
  let s := withdrawWifi { s with proxyReady := false }
  let failed := notifyProxyStatus s proxyIsReady endpointText .error
  let r := reconcileManagementPath s env .wifiNoIp
  (r.1, [failed] ++ r.2)

def handleWifiEvent (s : State) (env : ReconcileEnv) (proxyIsReady : Bool)
    (endpointText : Option Bytes) : WifiEvent → State × List Effect
  | .staStart =>
      let connecting := setWifiState s .connecting
      let r := reconcileManagementPath connecting.1 env .boot
      (r.1, connecting.2 ++ r.2)
  | .staDisconnected reason =>
      let s := withdrawWifi s
      let offline := notifyProxyStatus s proxyIsReady endpointText .offline
      let changed := disconnectedState s reason
      let r := reconcileManagementPath changed.1 env .wifiDisconnected
      (r.1, [offline] ++ changed.2 ++ r.2)
  | .gotIp info =>
      let s := { s with wifiDeadline := 0, wifiAttempts := 0 }
      match info with
      | some (ip, netmask) =>
          if ip = 0 then refuseIp s env proxyIsReady endpointText
          else
            let accepted := acceptIp s ip netmask
            let r := reconcileManagementPath accepted.1 env .boot
            (r.1, accepted.2 ++ r.2)
      | none => refuseIp s env proxyIsReady endpointText
  | .other => (s, [])

/-! ## Commands -/

/-- What `handle_wifi_command` gets: the credentials `decode_wifi_json`
reads from the payload, and the answers of the Wi-Fi calls. -/
structure CommandEnv where
  now : Int
  credentials : Option (Bytes × Bytes)
  storageOk : Bool
  modeOk : Bool
  configOk : Bool
  connectOk : Bool
  deriving DecidableEq, Repr

def handleWifiCommand (s : State) (env : CommandEnv) (command : WifiCommand) :
    State × List Effect :=
  match env.credentials with
  | none => (s, [notifyError s command.sequence .invalidWifiPayload])
  | some (ssid, password) =>
      if !env.storageOk then (s, [notifyError s command.sequence .wifiStorageFailed])
      else if !env.modeOk then (s, [notifyError s command.sequence .wifiModeFailed])
      else if !env.configOk then (s, [notifyError s command.sequence .wifiConfigFailed])
      else
        let connecting := setWifiState s .connecting
        let s :=
          { connecting.1 with wifiAttempts := 1, wifiDeadline := env.now + bmxWifiTimeoutMs }
        if !env.connectOk then
          ({ s with wifiDeadline := 0 },
            connecting.2 ++ [notifyError s command.sequence .wifiConnectStartFailed])
        else
          (s, connecting.2 ++ [.connect ssid password, notifyAck s command.sequence .applied])

def takeCommand (s : State) (env : CommandEnv) : State × List Effect :=
  match s.wifiCommands with
  | [] => (s, [])
  | command :: rest => handleWifiCommand { s with wifiCommands := rest } env command

/-! ## Management events -/

/-- The `switch` of the drain loop: the new state and the reason to
reconcile with. -/
def applyMgmt (s : State) (now : Int) : MgmtEvent → State × MgReason
  | .leaseGrant ttlSeconds =>
      let r := mgLeaseGrant s.gate ttlSeconds now
      ({ s with gate := r.2 }, if r.1 then .conditionsMet else .leaseAbsent)
  | .leaseRelease => ({ s with gate := mgLeaseRelease s.gate }, .netReleased)
  | .bleDisconnected => ({ s with gate := mgLeaseRelease s.gate }, .bleDisconnected)
  | .probeResult success =>
      ({ s with probe := tpRecordResult s.probe success now },
        if success then .conditionsMet else .targetUnreachable)

def takeMgmt (s : State) (env : ReconcileEnv) : State × List Effect :=
  match s.mgmtEvents with
  | [] => (s, [])
  | event :: rest =>
      let applied := applyMgmt { s with mgmtEvents := rest } env.now event
      reconcileManagementPath applied.1 env applied.2

/-! ## Deadline and tick -/

/-- The connection deadline check. -/
def checkDeadline (s : State) (now : Int) (disconnectOk connectOk : Bool) :
    State × List Effect :=
  if s.wifiState = .connecting ∧ s.wifiDeadline > 0 ∧ now ≥ s.wifiDeadline then
    if s.wifiAttempts < bmxWifiTries then
      let s :=
        { s with wifiAttempts := s.wifiAttempts + 1, wifiDeadline := now + bmxWifiTimeoutMs }
      if !disconnectOk then
        let failed := setWifiState { s with wifiDeadline := 0 } .noIp
        (failed.1, failed.2 ++ [notifyError s 0 .wifiDisconnectFailed])
      else if !connectOk then
        let failed := setWifiState { s with wifiDeadline := 0 } .noIp
        (failed.1, failed.2 ++ [notifyError s 0 .wifiConnectStartFailed])
      else (s, [])
    else
      let failed := setWifiState { s with wifiDeadline := 0 } .noIp
      (failed.1,
        (if disconnectOk then [] else [notifyError s 0 .wifiDisconnectFailed]) ++ failed.2)
  else (s, [])

/-- The reconcile at the end of each iteration. -/
def periodicReconcile (s : State) (env : ReconcileEnv) : State × List Effect :=
  reconcileManagementPath s env (if s.gate.pathOpen then .conditionsMet else .leaseExpired)

/-! ## The router as a machine -/

/-- One atomic action of one of the tasks. -/
inductive Event where
  | connect
  | disconnect (hid : List Bool)
  | frame (env : FrameEnv) (bytes : Bytes)
  | tick (now : Int)
  | wifiEvent (env : ReconcileEnv) (proxyIsReady : Bool) (endpointText : Option Bytes)
      (event : WifiEvent)
  | command (env : CommandEnv)
  | mgmt (env : ReconcileEnv)
  | deadline (now : Int) (disconnectOk connectOk : Bool)
  | periodic (env : ReconcileEnv)
  | pingResult (success : Bool)
  | pingEnd

def step (s : State) : Event → State × List Effect
  | .connect => gapConnect s
  | .disconnect hid => gapDisconnect s hid
  | .frame env bytes => handleFrame s env bytes
  | .tick now => dispatcherTimeout s now
  | .wifiEvent env proxyIsReady endpointText event =>
      handleWifiEvent s env proxyIsReady endpointText event
  | .command env => takeCommand s env
  | .mgmt env => takeMgmt s env
  | .deadline now disconnectOk connectOk => checkDeadline s now disconnectOk connectOk
  | .periodic env => periodicReconcile s env
  | .pingResult success => ((sendMgmt s (.probeResult success)).2, [])
  | .pingEnd => ({ s with pingRunning := false }, [])

def router : Machine State Event Effect where
  init := boot
  step := step

end Bootmux.Router
