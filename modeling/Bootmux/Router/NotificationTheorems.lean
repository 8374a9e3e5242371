/-
Bootmux.Router.NotificationTheorems — the iPhone client understands what
the router notifies.

Every message is brought into the form of fields joined with pipes
(`ackBytes_fields` and its siblings), from which the client's splitter
reads the fields back (`notificationFields_intercalate`). The session is
hexadecimal and everything else the router prints is ASCII without a
pipe. `validProxyEndpoint_endpointText` is the one place where the two
sides differ: the router announces whatever address it is bound to, and
the client takes the endpoint only of a private one.

The list of the messages is the one of the notifications of the model, and
every effect of the router that is a notification is one of them. For each
the client's parser is run on the fields, and the result is compared with
what was announced (`Understood`): a state, a proxy with its endpoint, an
acknowledgement or an error with its code.
-/
import Bootmux.Lib.PyText
import Bootmux.Iphone.Notifications
import Bootmux.Router.ConnectProxy
import Bootmux.Router.Runtime

namespace Bootmux.Router

open Bootmux.Bmx1
open Bootmux.Lib
open Bootmux.Iphone

/-! ## Fields -/

/-- Bytes a field is read back from: ASCII, no pipe. -/
def PlainField (field : Bytes) : Prop := ∀ c ∈ field, c < 0x80 ∧ c ≠ pipe

instance (field : Bytes) : Decidable (PlainField field) :=
  inferInstanceAs (Decidable (∀ c ∈ field, _))

/-- Plain fields, joined and split, are the same fields. -/
theorem notificationFields_intercalate {fields : List Bytes} (hne : fields ≠ [])
    (h : ∀ field ∈ fields, PlainField field) :
    notificationFields ([pipe].intercalate fields) = some fields := by
  have hvalid : Utf8.valid ([pipe].intercalate fields) = true := by
    refine Utf8.valid_ascii fun c hc => ?_
    rcases PyText.mem_intercalate hc with rfl | ⟨field, hfield, hc⟩
    · decide
    · exact (h field hfield c hc).1
  rw [notificationFields, if_pos hvalid, List.splitOn_intercalate pipe _ hne]
  exact fun field hfield hpipe => (h field hfield pipe hpipe).2 rfl

theorem plain_decimal (n : Nat) : PlainField (decimal n) := by
  intro c hc
  have hdigit := isDigit_of_mem_decimal n c hc
  rw [isDigit, Bool.and_eq_true, decide_eq_true_eq, decide_eq_true_eq] at hdigit
  refine ⟨Nat.lt_of_le_of_lt hdigit.2 (by decide), ?_⟩
  rintro rfl
  exact absurd hdigit.2 (by decide)

/-- The characters of a session. -/
def isHexDigit (c : UInt8) : Bool :=
  isDigit c || (0x41 ≤ c && c ≤ 0x46) || (0x61 ≤ c && c ≤ 0x66)

theorem plain_hex {session : Bytes} (h : ∀ c ∈ session, isHexDigit c = true) :
    PlainField session := by
  intro c hc
  have hhex := h c hc
  simp only [isHexDigit, isDigit, Bool.or_eq_true, Bool.and_eq_true, decide_eq_true_eq] at hhex
  have hle : c ≤ 0x66 := by
    rcases hhex with (hhex | hhex) | hhex
    · exact Nat.le_trans hhex.2 (by decide)
    · exact Nat.le_trans hhex.2 (by decide)
    · exact hhex.2
  refine ⟨Nat.lt_of_le_of_lt hle (by decide), ?_⟩
  rintro rfl
  exact absurd hle (by decide)

/-- A number is read back from its digits. -/
theorem readUInt32_decimal (n : UInt32) : readUInt32 (decimal n.toNat) = some n := by
  have hread : parseUInt (decimal n.toNat) = some n := by
    rw [parseUInt_decimal n.toNat (by have := n.toNat_lt; simp only [uint32Max]; omega)]
    simp
  have hsign : ∀ c ∈ decimal n.toNat, c ≠ 0x2B ∧ c ≠ 0x2D := fun c hc =>
    ⟨fun heq => absurd hc (heq ▸ decimal_plain (by decide) _),
      fun heq => absurd hc (heq ▸ decimal_plain (by decide) _)⟩
  unfold readUInt32
  split
  · next heq => exact absurd rfl (hsign 0x2B (by rw [heq]; exact List.mem_cons_self)).1
  · next heq => exact absurd rfl (hsign 0x2D (by rw [heq]; exact List.mem_cons_self)).2
  · exact hread

/-! ## The endpoint -/

theorem addressOctets_lt (address : UInt32) : ∀ n ∈ addressOctets address, n < 256 := by
  have hlt := address.toNat_lt
  simp only [addressOctets, List.forall_mem_cons, List.not_mem_nil, false_imp_iff, implies_true,
    and_true]
  omega

/-- An octet has three digits at most. -/
theorem length_decimal_octet {n : Nat} (h : n < 256) : (decimal n).length ≤ 3 := by
  rw [decimal, List.length_map, Nat.length_toDigits_le_iff (by decide) (by decide)]
  omega

/-- The iPhone reads an octet as the router prints it. -/
theorem endpointOctet_decimal {n : Nat} (h : n < 256) : endpointOctet (decimal n) = some n := by
  have hne : (decimal n).isEmpty = false := by simpa using decimal_ne_nil n
  have hlen : decide ((decimal n).length > 3) = false :=
    decide_eq_false (Nat.not_lt.mpr (length_decimal_octet h))
  have hall : (decimal n).all isDigit = true :=
    List.all_eq_true.mpr (isDigit_of_mem_decimal n)
  have hvalue : (UInt32.ofNat n).toNat = n :=
    toNat_ofNat_of_le (by simp only [uint32Max]; omega)
  rw [endpointOctet, hne, hlen, hall, if_neg (by decide),
    parseUInt_decimal n (by simp only [uint32Max]; omega)]
  dsimp only
  rw [hvalue, if_pos (by omega)]

/-- The private ranges of an address of the router. -/
def PrivateAddress (address : UInt32) : Prop :=
  privateRange (address.toNat % 256) (address.toNat / 256 % 256) = true

instance (address : UInt32) : Decidable (PrivateAddress address) :=
  inferInstanceAs (Decidable (_ = true))

/-- An address is its four octets with dots between. -/
theorem inetNtoa_eq (address : UInt32) :
    inetNtoa address = [0x2E].intercalate ((addressOctets address).map decimal) := by
  have hdot : ascii "." = [0x2E] := by decide
  rw [inetNtoa, hdot]

theorem endpointText_eq (address : UInt32) :
    endpointText address = [0x3A].intercalate [inetNtoa address, ascii "3128"] := by
  have hcolon : ascii ":" = [0x3A] := by decide
  have hport : decimal proxyPort = ascii "3128" := by decide
  rw [endpointText, hcolon, hport]
  simp [List.intercalate]

theorem mem_inetNtoa {address : UInt32} {c : UInt8} (h : c ∈ inetNtoa address) :
    c = 0x2E ∨ isDigit c = true := by
  rw [inetNtoa_eq] at h
  rcases PyText.mem_intercalate h with rfl | ⟨field, hfield, hc⟩
  · exact .inl rfl
  · obtain ⟨n, -, rfl⟩ := List.mem_map.mp hfield
    exact .inr (isDigit_of_mem_decimal n c hc)

/-- It has fifteen characters at most. -/
theorem length_inetNtoa (address : UInt32) : (inetNtoa address).length ≤ 15 := by
  have h := addressOctets_lt address
  simp only [addressOctets, List.forall_mem_cons] at h
  have h0 := length_decimal_octet h.1
  have h1 := length_decimal_octet h.2.1
  have h2 := length_decimal_octet h.2.2.1
  have h3 := length_decimal_octet h.2.2.2.1
  rw [inetNtoa_eq, addressOctets]
  simp only [List.map_cons, List.map_nil, List.intercalate, List.intersperse,
    List.flatten_cons, List.flatten_nil, List.length_append, List.length_cons, List.length_nil]
  omega

/-- **The client takes the endpoint of a private address only.** -/
theorem validProxyEndpoint_endpointText (address : UInt32) :
    validProxyEndpoint (endpointText address) = true ↔ PrivateAddress address := by
  have hcolon : ∀ field ∈ [inetNtoa address, ascii "3128"], (0x3A : UInt8) ∉ field := by
    intro field hfield hmem
    rcases List.mem_cons.mp hfield with rfl | hfield
    · rcases mem_inetNtoa hmem with heq | hdigit
      · exact absurd heq (by decide)
      · exact absurd hdigit (by decide)
    · obtain rfl := List.mem_singleton.mp hfield
      exact absurd hmem (by decide)
  have hdot : ∀ field ∈ (addressOctets address).map decimal, (0x2E : UInt8) ∉ field := by
    intro field hfield
    obtain ⟨n, -, rfl⟩ := List.mem_map.mp hfield
    exact decimal_plain (by decide) n
  have hoctets : ((addressOctets address).map decimal).map endpointOctet =
      (addressOctets address).map some := by
    rw [List.map_map]
    exact List.map_congr_left fun n hn => endpointOctet_decimal (addressOctets_lt address n hn)
  rw [validProxyEndpoint, endpointText_eq,
    List.splitOn_intercalate (0x3A : UInt8) hcolon (List.cons_ne_nil _ _)]
  dsimp only
  rw [if_pos ⟨rfl, length_inetNtoa address⟩, inetNtoa_eq,
    List.splitOn_intercalate (0x2E : UInt8) hdot (by simp [addressOctets]), hoctets]
  rfl

theorem plain_endpointText (address : UInt32) : PlainField (endpointText address) := by
  intro c hc
  have hport : PlainField (ascii "3128") := by decide
  rw [endpointText_eq] at hc
  rcases PyText.mem_intercalate hc with rfl | ⟨field, hfield, hc⟩
  · decide
  · rcases List.mem_cons.mp hfield with rfl | hfield
    · rcases mem_inetNtoa hc with rfl | hdigit
      · decide
      · rw [isDigit, Bool.and_eq_true, decide_eq_true_eq, decide_eq_true_eq] at hdigit
        refine ⟨Nat.lt_of_le_of_lt hdigit.2 (by decide), ?_⟩
        rintro rfl
        exact absurd hdigit.2 (by decide)
    · obtain rfl := List.mem_singleton.mp hfield
      exact hport c hc

/-- With the port it fits into the buffer of the router. -/
theorem length_endpointText (address : UInt32) : (endpointText address).length ≤ 20 := by
  have hhost := length_inetNtoa address
  have hcolon : (ascii ":").length = 1 := by decide
  have hport : (decimal proxyPort).length = 4 := by decide
  rw [endpointText, List.length_append, List.length_append, hcolon, hport]
  omega

/-! ## The messages as fields -/

/-- An acknowledgement in its fields. -/
theorem ackBytes_fields (session : Bytes) (sequence : UInt32) (result : AckResult) :
    ackBytes session sequence result =
      [pipe].intercalate
        [ascii "BMX1", ascii "ACK", session, decimal sequence.toNat, ascii result.text] := by
  have hstart : ascii "BMX1|ACK|" = ascii "BMX1" ++ pipe :: (ascii "ACK" ++ [pipe]) := by decide
  simp [ackBytes, hstart, List.intercalate]

theorem network_fields (session : Bytes) (state : WifiState) :
    (Effect.network session state).notification =
      some ([pipe].intercalate
        [ascii "BMX1", ascii "NET", session, ascii "0", ascii (wifiStateName state)]) := by
  have hstart : ascii "BMX1|NET|" = ascii "BMX1" ++ pipe :: (ascii "NET" ++ [pipe]) := by decide
  have hzero : ascii "|0|" = pipe :: (ascii "0" ++ [pipe]) := by decide
  simp [Effect.notification, hstart, hzero, List.intercalate]

theorem proxyStatus_fields (session : Bytes) (status : ProxyStatus) :
    (Effect.proxyStatus session status).notification =
      some ([pipe].intercalate
        [ascii "BMX1", ascii "PROXY_STATUS", session, ascii "0", ascii status.text]) := by
  have hstart : ascii "BMX1|PROXY_STATUS|" =
      ascii "BMX1" ++ pipe :: (ascii "PROXY_STATUS" ++ [pipe]) := by decide
  have hzero : ascii "|0|" = pipe :: (ascii "0" ++ [pipe]) := by decide
  simp [Effect.notification, hstart, hzero, List.intercalate]

theorem proxyEndpoint_fields (session endpoint : Bytes) (epoch : UInt32) :
    (Effect.proxyEndpoint session endpoint epoch).notification =
      some ([pipe].intercalate
        [ascii "BMX1", ascii "PROXY_STATUS", session, ascii "0", ascii "PROXY_READY",
          ascii "ENDPOINT=" ++ endpoint, ascii "EPOCH=" ++ decimal epoch.toNat]) := by
  have hstart : ascii "BMX1|PROXY_STATUS|" =
      ascii "BMX1" ++ pipe :: (ascii "PROXY_STATUS" ++ [pipe]) := by decide
  have hready : ascii "|0|PROXY_READY|ENDPOINT=" =
      pipe :: (ascii "0" ++ pipe :: (ascii "PROXY_READY" ++ pipe :: ascii "ENDPOINT=")) := by
    decide
  have hepoch : ascii "|EPOCH=" = pipe :: ascii "EPOCH=" := by decide
  simp [Effect.notification, hstart, hready, hepoch, List.intercalate]

/-! ## What the client makes of them -/

def networkState : WifiState → BLENetworkState
  | .idle => .idle
  | .connecting => .connecting
  | .online => .online
  | .authFailed => .authFailed
  | .apNotFound => .apNotFound
  | .noIp => .noIP
  | .disconnected => .disconnected
  | .cleared => .cleared

def proxyState : ProxyStatus → BLEProxyState
  | .ready => .ready
  | .offline => .offline
  | .error => .error

/-- The iPhone knows every state by its name. -/
theorem networkState_name (state : WifiState) :
    BLENetworkState.ofRawValue (ascii (wifiStateName state)) = some (networkState state) := by
  cases state <;> decide

theorem proxyState_text (status : ProxyStatus) :
    BLEProxyState.ofRawValue (ascii status.text) = some (proxyState status) := by
  cases status <;> decide

theorem readUInt32_zero : readUInt32 (ascii "0") = some 0 := by decide

/-- The message is queued whole, and the client takes it for `event`. -/
def Understood (x : Effect) (event : Option Notification) : Prop :=
  ∃ message, x.notification = some message ∧ 0 < message.length ∧ message.length < 192 ∧
    didUpdateValueFor message = event

section

variable {session : Bytes} (hplain : PlainField session)

include hplain

/-- What a message of five fields is read back as, and its length. -/
theorem fiveFields {type name : Bytes} (htype : PlainField type) (hname : PlainField name)
    {message : Bytes}
    (hmessage : [pipe].intercalate [ascii "BMX1", type, session, ascii "0", name] = message) :
    notificationFields message = some [ascii "BMX1", type, session, ascii "0", name] ∧
      message.length = 9 + type.length + session.length + name.length := by
  subst hmessage
  constructor
  · refine notificationFields_intercalate (List.cons_ne_nil _ _) ?_
    simp only [List.forall_mem_cons, List.not_mem_nil, false_imp_iff, implies_true, and_true]
    exact ⟨by decide, htype, hplain, by decide, hname⟩
  · have hmagic : (ascii "BMX1").length = 4 := by decide
    have hzero : (ascii "0").length = 1 := by decide
    simp only [List.intercalate, List.intersperse, List.flatten_cons, List.flatten_nil,
      List.length_append, List.length_cons, List.length_nil, hmagic, hzero]
    omega

variable (hlen : session.length = 32)

include hlen

/-- An acknowledgement is understood. -/
theorem ack_understood (sequence : UInt32) (result : AckResult) :
    Understood (.ack session sequence result)
      (some (.ack session sequence (ascii result.text))) := by
  have htext : PlainField (ascii result.text) ∧ (ascii result.text).length ≤ 9 := by
    cases result <;> decide
  have hfields : notificationFields (ackBytes session sequence result) = some
      [ascii "BMX1", ascii "ACK", session, decimal sequence.toNat, ascii result.text] := by
    rw [ackBytes_fields]
    refine notificationFields_intercalate (List.cons_ne_nil _ _) ?_
    simp only [List.forall_mem_cons, List.not_mem_nil, false_imp_iff, implies_true, and_true]
    exact ⟨by decide, by decide, hplain, plain_decimal _, htext.1⟩
  have hstart : (ascii "BMX1|ACK|").length = 9 := by decide
  have hdecimal := length_decimal_le sequence
  have hlength : (ackBytes session sequence result).length = 9 + session.length + 1 +
      (decimal sequence.toNat).length + 1 + (ascii result.text).length := by
    simp only [ackBytes, List.length_append, hstart, List.length_singleton]
  refine ⟨_, rfl, by omega, by omega, ?_⟩
  have hack : parseAck (ackBytes session sequence result) =
      some (session, sequence, ascii result.text) := by
    rw [parseAck, hfields]
    dsimp only
    rw [if_pos ⟨rfl, rfl⟩, readUInt32_decimal]
    rfl
  rw [didUpdateValueFor, hack]

/-- So is a state of the network. -/
theorem network_understood (state : WifiState) :
    Understood (.network session state) (some (.network ⟨session, 0, networkState state⟩)) := by
  have htext : PlainField (ascii (wifiStateName state)) ∧
      (ascii (wifiStateName state)).length ≤ 17 := by
    cases state <;> decide
  generalize hmessage : [pipe].intercalate
    [ascii "BMX1", ascii "NET", session, ascii "0", ascii (wifiStateName state)] = message
  obtain ⟨hfields, hlength⟩ := fiveFields hplain (by decide) htext.1 hmessage
  have htype : (ascii "NET").length = 3 := by decide
  refine ⟨message, hmessage ▸ network_fields session state, by omega, by omega, ?_⟩
  have hack : parseAck message = none := by
    rw [parseAck, hfields]
    dsimp only
    rw [if_neg (by decide)]
  have hnetwork : parseNetwork message = some ⟨session, 0, networkState state⟩ := by
    rw [parseNetwork, hfields]
    dsimp only
    rw [if_pos ⟨rfl, rfl⟩, readUInt32_zero, networkState_name]
  rw [didUpdateValueFor, hack, hnetwork]

/-- And a state of the proxy without an endpoint. -/
theorem proxyStatus_understood (status : ProxyStatus) :
    Understood (.proxyStatus session status)
      (some (.proxy ⟨session, 0, proxyState status, none, none⟩)) := by
  have htext : PlainField (ascii status.text) ∧ (ascii status.text).length ≤ 13 := by
    cases status <;> decide
  generalize hmessage : [pipe].intercalate
    [ascii "BMX1", ascii "PROXY_STATUS", session, ascii "0", ascii status.text] = message
  obtain ⟨hfields, hlength⟩ := fiveFields hplain (by decide) htext.1 hmessage
  have htype : (ascii "PROXY_STATUS").length = 12 := by decide
  refine ⟨message, hmessage ▸ proxyStatus_fields session status, by omega, by omega, ?_⟩
  have hack : parseAck message = none := by
    rw [parseAck, hfields]
    dsimp only
    rw [if_neg (by decide)]
  have hnetwork : parseNetwork message = none := by
    rw [parseNetwork, hfields]
    dsimp only
    rw [if_neg (by decide)]
  have hproxy : parseProxyStatus message = some ⟨session, 0, proxyState status, none, none⟩ := by
    rw [parseProxyStatus, hfields]
    dsimp only
    rw [if_pos ⟨rfl, rfl⟩, readUInt32_zero, proxyState_text]
  rw [didUpdateValueFor, hack, hnetwork, hproxy]
  rfl

/-- The endpoint of a private address is understood; with any other the
message is taken for nothing. -/
theorem proxyEndpoint_understood (address epoch : UInt32) :
    Understood (.proxyEndpoint session (endpointText address) epoch)
      (if PrivateAddress address then
        some (.proxy ⟨session, 0, .ready, some (endpointText address), some epoch⟩)
      else none) := by
  have hendpoint : PlainField (ascii "ENDPOINT=" ++ endpointText address) := by
    intro c hc
    rcases List.mem_append.mp hc with hc | hc
    · exact (show PlainField (ascii "ENDPOINT=") by decide) c hc
    · exact plain_endpointText address c hc
  have hepoch : PlainField (ascii "EPOCH=" ++ decimal epoch.toNat) := by
    intro c hc
    rcases List.mem_append.mp hc with hc | hc
    · exact (show PlainField (ascii "EPOCH=") by decide) c hc
    · exact plain_decimal _ c hc
  generalize hmessage : [pipe].intercalate
    [ascii "BMX1", ascii "PROXY_STATUS", session, ascii "0", ascii "PROXY_READY",
      ascii "ENDPOINT=" ++ endpointText address, ascii "EPOCH=" ++ decimal epoch.toNat] = message
  have hfields : notificationFields message = some
      [ascii "BMX1", ascii "PROXY_STATUS", session, ascii "0", ascii "PROXY_READY",
        ascii "ENDPOINT=" ++ endpointText address, ascii "EPOCH=" ++ decimal epoch.toNat] := by
    rw [← hmessage]
    refine notificationFields_intercalate (List.cons_ne_nil _ _) ?_
    simp only [List.forall_mem_cons, List.not_mem_nil, false_imp_iff, implies_true, and_true]
    exact ⟨by decide, by decide, hplain, by decide, by decide, hendpoint, hepoch⟩
  have hlength : 0 < message.length ∧ message.length < 192 := by
    have hmagic : (ascii "BMX1").length = 4 := by decide
    have htype : (ascii "PROXY_STATUS").length = 12 := by decide
    have hzero : (ascii "0").length = 1 := by decide
    have hready : (ascii "PROXY_READY").length = 11 := by decide
    have hname : (ascii "ENDPOINT=").length = 9 := by decide
    have hcount : (ascii "EPOCH=").length = 6 := by decide
    have htext := length_endpointText address
    have hdecimal := length_decimal_le epoch
    rw [← hmessage]
    simp only [List.intercalate, List.intersperse, List.flatten_cons, List.flatten_nil,
      List.length_append, List.length_cons, List.length_nil, hmagic, htype, hzero, hready, hname,
      hcount]
    omega
  refine ⟨message, hmessage ▸ proxyEndpoint_fields session (endpointText address) epoch,
    hlength.1, hlength.2, ?_⟩
  have hack : parseAck message = none := by
    rw [parseAck, hfields]
  have hnetwork : parseNetwork message = none := by
    rw [parseNetwork, hfields]
  have hproxy : parseProxyStatus message =
      if PrivateAddress address then
        some ⟨session, 0, .ready, some (endpointText address), some epoch⟩
      else none := by
    have hdropEndpoint : (ascii "ENDPOINT=" ++ endpointText address).drop 9 =
        endpointText address := List.drop_left' (by decide)
    have hdropEpoch : (ascii "EPOCH=" ++ decimal epoch.toNat).drop 6 = decimal epoch.toNat :=
      List.drop_left' (by decide)
    rw [parseProxyStatus, hfields]
    dsimp only
    rw [parseExtendedProxyStatus,
      if_pos ⟨rfl, rfl, rfl, List.isPrefixOf_iff_prefix.mpr (List.prefix_append _ _),
        List.isPrefixOf_iff_prefix.mpr (List.prefix_append _ _)⟩,
      hdropEndpoint, hdropEpoch, readUInt32_zero, readUInt32_decimal]
    dsimp only
    by_cases hprivate : PrivateAddress address
    · rw [if_pos ((validProxyEndpoint_endpointText address).mpr hprivate), if_pos hprivate]
    · rw [if_neg (mt (validProxyEndpoint_endpointText address).mp hprivate), if_neg hprivate]
  rw [didUpdateValueFor, hack, hnetwork, hproxy]
  dsimp only
  split <;> rfl

end

/-! ## Every notification -/

/-- What `notify_proxy_status` announces: the endpoint when everything
is up, and otherwise a state alone. -/
def announcedProxy (s : State) (ready : Bool) (proxy : HttpProxy) (status : ProxyStatus) :
    BLEProxyEvent :=
  if status = .ready ∧ s.endpoint.wifiHasIp = true ∧ s.endpoint.proxyListenerReady = true ∧
      s.endpoint.staIpv4Be ≠ 0 ∧ ready = true then
    if proxy.isReady then
      ⟨s.session, 0, .ready, some (endpointText proxy.boundAddress), some s.endpoint.wifiEpoch⟩
    else ⟨s.session, 0, .offline, none, none⟩
  else ⟨s.session, 0, proxyState status, none, none⟩

/-- The endpoint is given whole, or not at all. -/
theorem getEndpoint_eq (p : HttpProxy) :
    p.getEndpoint 32 = if p.isReady then some (endpointText p.boundAddress) else none := by
  have hlen := length_endpointText p.boundAddress
  rw [HttpProxy.getEndpoint]
  cases p.isReady
  · rfl
  · rw [if_neg (by decide), if_neg (by omega), if_pos rfl]

/-- **The iPhone understands what the router notifies**, the endpoint of
a private address included. `ready` is the answer of the first check of
the proxy and `proxy` what `get_endpoint` finds. -/
theorem notifications_understood {s : State} (hlen : s.session.length = 32)
    (hhex : ∀ c ∈ s.session, isHexDigit c = true) :
    (∀ sequence result, Understood (notifyAck s sequence result)
      (some (.ack s.session sequence (ascii result.text)))) ∧
    Understood (notifyNetwork s) (some (.network ⟨s.session, 0, networkState s.wifiState⟩)) ∧
    ∀ ready proxy status,
      (announcedProxy s ready proxy status).endpoint = none ∨
        PrivateAddress proxy.boundAddress →
      Understood (notifyProxyStatus s ready (proxy.getEndpoint 32) status)
        (some (.proxy (announcedProxy s ready proxy status))) := by
  have hplain := plain_hex hhex
  refine ⟨ack_understood hplain hlen, network_understood hplain hlen s.wifiState, ?_⟩
  intro ready proxy status hprivate
  unfold notifyProxyStatus
  unfold announcedProxy at hprivate ⊢
  rw [getEndpoint_eq]
  split
  · next hup =>
      rw [if_pos hup] at hprivate
      cases hready : proxy.isReady
      · exact proxyStatus_understood hplain hlen .offline
      · rw [hready, if_pos rfl] at hprivate
        have h := proxyEndpoint_understood hplain hlen proxy.boundAddress s.endpoint.wifiEpoch
        rw [if_pos (hprivate.resolve_left (Option.some_ne_none _))] at h
        exact h
  · exact proxyStatus_understood hplain hlen status

/-- A router on a network, with the proxy up and a session open. -/
def announcing : State :=
  { globals with
    session := List.replicate 32 0x61
    wifiState := .online
    proxyReady := true
    endpoint :=
      { wifiHasIp := true, proxyListenerReady := true, wifiEpoch := 1, staIpv4Be := 0x2A01A8C0
        proxyPort := 3128 } }

/-- At the address 192.168.1.42. -/
theorem notifications_understood_private :
    Understood (notifyAck announcing 7 .applied)
        (some (.ack announcing.session 7 (ascii "APPLIED"))) ∧
      Understood (notifyNetwork announcing)
        (some (.network ⟨announcing.session, 0, .online⟩)) ∧
      Understood
        (notifyProxyStatus announcing true
          ((⟨true, true, 0x2A01A8C0⟩ : HttpProxy).getEndpoint 32) .ready)
        (some (.proxy (announcedProxy announcing true ⟨true, true, 0x2A01A8C0⟩ .ready))) := by
  have h := notifications_understood (s := announcing) (by decide) (by decide)
  exact ⟨h.1 7 .applied, h.2.1, h.2.2 true ⟨true, true, 0x2A01A8C0⟩ .ready (.inr (by decide))⟩

/-- At the address 8.8.8.8 the client takes the message for nothing. -/
theorem public_endpoint_not_understood :
    ¬ ∀ (s : State) (ready : Bool) (proxy : HttpProxy) (status : ProxyStatus),
      s.session.length = 32 → (∀ c ∈ s.session, isHexDigit c = true) →
      Understood (notifyProxyStatus s ready (proxy.getEndpoint 32) status)
        (some (.proxy (announcedProxy s ready proxy status))) := by
  intro h
  obtain ⟨message, hmessage, -, -, hevent⟩ :=
    h announcing true ⟨true, true, 0x08080808⟩ .ready (by decide) (by decide)
  have hsent : (notifyProxyStatus announcing true
      ((⟨true, true, 0x08080808⟩ : HttpProxy).getEndpoint 32) .ready) =
      .proxyEndpoint announcing.session (endpointText 0x08080808) 1 := by
    rw [getEndpoint_eq]
    rfl
  obtain ⟨other, hother, -, -, hnone⟩ := @proxyEndpoint_understood
    announcing.session (plain_hex (by decide)) (by decide) 0x08080808 1
  rw [hsent, hother] at hmessage
  obtain rfl := Option.some.inj hmessage
  rw [if_neg (by decide)] at hnone
  rw [hnone] at hevent
  cases hevent

end Bootmux.Router
