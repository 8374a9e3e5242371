/-
Bootmux.Iphone.Notifications — how the iPhone client reads what a
firmware notifies (`BLEProtocol.swift`, `didUpdateValueFor` of
`BLEBridgeSession.swift`).

A notification is its bytes, which have to be UTF-8. The separators and
the texts a field is compared with are ASCII, so the fields are split as
bytes. `UInt32` reads an optional sign and digits.

A text that is none of the notifications is no event, and neither is one
whose fields do not parse; the session ignores both.
-/
import Bootmux.Iphone.BridgeSession
import Bootmux.Lib.Utf8

namespace Bootmux.Iphone

open Bootmux.Bmx1
open Bootmux.Lib

def BLENetworkState.rawValue : BLENetworkState → String
  | idle => "WIFI_IDLE"
  | connecting => "WIFI_CONNECTING"
  | online => "WIFI_ONLINE"
  | authFailed => "WIFI_AUTH_FAILED"
  | apNotFound => "WIFI_AP_NOT_FOUND"
  | noIP => "WIFI_NO_IP"
  | disconnected => "WIFI_DISCONNECTED"
  | cleared => "WIFI_CLEARED"

/-- `BLENetworkState(rawValue:)`. -/
def BLENetworkState.ofRawValue (value : Bytes) : Option BLENetworkState :=
  [idle, connecting, online, authFailed, apNotFound, noIP, disconnected, cleared].find?
    fun state => ascii state.rawValue == value

def BLEProxyState.rawValue : BLEProxyState → String
  | offline => "PROXY_OFFLINE"
  | ready => "PROXY_READY"
  | active => "PROXY_ACTIVE"
  | error => "PROXY_ERROR"

/-- `BLEProxyState(rawValue:)`. -/
def BLEProxyState.ofRawValue (value : Bytes) : Option BLEProxyState :=
  [offline, ready, active, error].find? fun state => ascii state.rawValue == value

structure BLENetworkEvent where
  session : Bytes
  sequence : UInt32
  state : BLENetworkState
  deriving DecidableEq, Repr

structure BLEProxyEvent where
  session : Bytes
  sequence : UInt32
  state : BLEProxyState
  endpoint : Option Bytes
  epoch : Option UInt32
  deriving DecidableEq, Repr

/-- `UInt32(text)`: digits after an optional sign; minus only zero. -/
def readUInt32 : Bytes → Option UInt32
  | 0x2B :: rest => parseUInt rest
  | 0x2D :: rest => (parseUInt rest).filter fun n => n == 0
  | text => parseUInt text

/-- The fields of a notification, if it is text. -/
def notificationFields (data : Bytes) : Option (List Bytes) :=
  if Utf8.valid data then some (data.splitOn pipe) else none

/-! ## Parsers -/

def parseAck (data : Bytes) : Option (Bytes × UInt32 × Bytes) :=
  match notificationFields data with
  | some [magic, type, session, sequence, result] =>
      if magic = ascii "BMX1" ∧ type = ascii "ACK" then
        (readUInt32 sequence).map fun sequence => (session, sequence, result)
      else none
  | _ => none

def parseNetwork (data : Bytes) : Option BLENetworkEvent :=
  match notificationFields data with
  | some [magic, type, session, sequence, state] =>
      if magic = ascii "BMX1" ∧ type = ascii "NET" then
        match readUInt32 sequence, BLENetworkState.ofRawValue state with
        | some sequence, some state => some ⟨session, sequence, state⟩
        | _, _ => none
      else none
  | _ => none

/-- One octet of an endpoint. -/
def endpointOctet (part : Bytes) : Option Nat :=
  if part.isEmpty || decide (part.length > 3) || !part.all isDigit then none
  else
    match parseUInt part with
    | some number => if number.toNat ≤ 255 then some number.toNat else none
    | none => none

/-- The private ranges. -/
def privateRange (first second : Nat) : Bool :=
  first == 10 || (first == 172 && decide (16 ≤ second) && decide (second ≤ 31)) ||
    (first == 192 && second == 168)

def validProxyEndpoint (value : Bytes) : Bool :=
  match value.splitOn 0x3A with
  | [host, port] =>
      if port = ascii "3128" ∧ host.length ≤ 15 then
        match (host.splitOn 0x2E).map endpointOctet with
        | [some first, some second, some _, some _] => privateRange first second
        | _ => false
      else false
  | _ => false

/-- The form with an endpoint and an epoch. -/
def parseExtendedProxyStatus : List Bytes → Option BLEProxyEvent
  | [magic, type, session, sequence, state, endpoint, epoch] =>
      if magic = ascii "BMX1" ∧ type = ascii "PROXY_STATUS" ∧ state = ascii "PROXY_READY" ∧
          (ascii "ENDPOINT=").isPrefixOf endpoint ∧ (ascii "EPOCH=").isPrefixOf epoch then
        match readUInt32 sequence, readUInt32 (epoch.drop 6) with
        | some sequence, some epoch =>
            if validProxyEndpoint (endpoint.drop 9) then
              some ⟨session, sequence, .ready, some (endpoint.drop 9), some epoch⟩
            else none
        | _, _ => none
      else none
  | _ => none

def parseProxyStatus (data : Bytes) : Option BLEProxyEvent :=
  match notificationFields data with
  | none => none
  | some fields =>
      match fields with
      | [magic, type, session, sequence, state] =>
          if magic = ascii "BMX1" ∧ type = ascii "PROXY_STATUS" then
            match readUInt32 sequence, BLEProxyState.ofRawValue state with
            | some sequence, some state => some ⟨session, sequence, state, none, none⟩
            | _, _ => none
          else none
      | fields => parseExtendedProxyStatus fields

/-! ## The delegate -/

/-- What the delegate hands on: the first parser that accepts. -/
inductive Notification where
  | ack (session : Bytes) (sequence : UInt32) (result : Bytes)
  | network (event : BLENetworkEvent)
  | proxy (event : BLEProxyEvent)
  deriving DecidableEq, Repr

/-- `peripheral(_:didUpdateValueFor:error:)` without an error. -/
def didUpdateValueFor (data : Bytes) : Option Notification :=
  match parseAck data with
  | some (session, sequence, result) => some (.ack session sequence result)
  | none =>
      match parseNetwork data with
      | some event => some (.network event)
      | none => (parseProxyStatus data).map .proxy

end Bootmux.Iphone
