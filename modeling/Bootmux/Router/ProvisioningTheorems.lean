/-
Bootmux.Router.ProvisioningTheorems — what becomes of the Wi-Fi
credentials the iPhone client sends.

The frames of `BLEChunker.wifiFrames` are read back by the router as the
parts of one payload (`frameOp_wifiFrame`). Fed in any order and with any
repetition within the reassembly timeout, they are collected until the
last missing one arrives, the command is sent to `wifi_task`, and the
buffer is empty again; `Provisioning` is the invariant of such a feed.

The credentials arrive if the JSON text has at most 192 bytes, which the
router asks for and the client does not check
(`wifi_provisioned_iff`).

A feed is a list of parts with their times. `Gathers` says of a step that it
takes a part of this payload and no other, `Timely` that the parts come
before the timeout; with both the set of collected parts grows until it is
complete, however often a part is repeated. The condition is on the
credentials: their JSON text is what the bound is about, and the client
refuses only what is longer still.
-/
import Bootmux.Iphone.WifiTheorems
import Bootmux.Router.DispatcherTheorems
import Bootmux.Router.WifiJson

namespace Bootmux.Router

open Bootmux.Bmx1
open Bootmux.Lib
open Bootmux.Lib.Reassembly

/-! ## The credentials -/

/-- The password is read as it was written. -/
theorem stringItem_password (ssid password : Bytes) (limit : Nat) :
    stringItem (some (.object [(ascii "password", .string password), (ascii "ssid", .string ssid)]))
      (ascii "password") limit = some ((cString password).take limit) := rfl

theorem stringItem_ssid (ssid password : Bytes) (limit : Nat) :
    stringItem (some (.object [(ascii "password", .string password), (ascii "ssid", .string ssid)]))
      (ascii "ssid") limit = some ((cString ssid).take limit) := by
  have hne : (ascii "password" == ascii "ssid") = false := by decide
  simp [stringItem, getObjectItem, hne, Json.Value.string?]

/-- **The router reads the credentials back, or finds the text too long.** -/
theorem decodeWifiJson_payload (d : Decoders) {ssid password payload : Bytes}
    (h : Iphone.wifiPayload ssid password = .ok payload) :
    decodeWifiJson d payload =
      if Iphone.escapedBytes ssid + Iphone.escapedBytes password ≤ 167 then some (ssid, password)
      else none := by
  obtain ⟨hne, hlen, hnul, hplen, hpmin, hpnul, rfl⟩ := Iphone.wifiPayload_ok h
  have hlength := Iphone.length_wifiJson ssid password
  have hjson : d.json (Iphone.wifiJson ssid password) = some (.object
      [(ascii "password", .string password), (ascii "ssid", .string ssid)]) := by
    refine d.json_object [(ascii "password", password), (ascii "ssid", ssid)] (by simp) ?_
    intro m hm
    simp only [List.mem_cons, List.not_mem_nil, or_false] at hm
    rcases hm with rfl | rfl
    · exact ⟨(by decide : Json.PlainKey (ascii "password")), hpnul⟩
    · exact ⟨(by decide : Json.PlainKey (ascii "ssid")), hnul⟩
  rw [decodeWifiJson, d.base64_encode]
  dsimp only
  by_cases hfit : Iphone.escapedBytes ssid + Iphone.escapedBytes password ≤ 167
  · rw [if_neg (by rw [hlength, bmxWifiDecodedMax]; omega), if_pos hfit, hjson,
      stringItem_password, stringItem_ssid, cString_of_nulFree hnul, cString_of_nulFree hpnul,
      List.take_of_length_le (by omega), List.take_of_length_le (by omega)]
    exact if_pos ⟨Nat.pos_of_ne_zero hne, hlen, hplen, hpmin⟩
  · rw [if_pos (by rw [hlength, bmxWifiDecodedMax]; omega), if_neg hfit]

/-! ## The frames of the client -/

/-- The fields of a Wi-Fi frame decode to its part. -/
theorem fieldsOp_wifi {session chunk : Bytes} {sequence : UInt32} {index total : Nat}
    (hindex : index < total) (htotal : total ≤ bmxWifiParts) (hchunk : chunk.length < fieldMax) :
    fieldsOp [ascii "BMX1", ascii "WIFI", session, decimal sequence.toNat, decimal index,
        decimal total, chunk] =
      some (.wifi ⟨sequence, total, index, chunk, session, hindex, htotal⟩) := by
  have hparts : bmxWifiParts = 16 := rfl
  have hmax : uint32Max = 4294967295 := rfl
  have hpart : framePart bmxWifiParts sequence [ascii "BMX1", ascii "WIFI", session,
      decimal sequence.toNat, decimal index, decimal total, chunk] =
      some ⟨sequence, total, index, chunk, session, hindex, htotal⟩ := by
    have hi : (UInt32.ofNat index).toNat = index := toNat_ofNat_of_le (by omega)
    have ht : (UInt32.ofNat total).toNat = total := toNat_ofNat_of_le (by omega)
    have hbounds : UInt32.ofNat total ≠ 0 ∧ (UInt32.ofNat total).toNat ≤ bmxWifiParts ∧
        UInt32.ofNat index < UInt32.ofNat total := by
      refine ⟨fun h0 => ?_, by omega, UInt32.lt_iff_toNat_lt.mpr (by omega)⟩
      rw [h0] at ht
      simp at ht
      omega
    simp only [framePart, fieldAt, List.getD_cons_succ, List.getD_cons_zero,
      parseUInt_decimal index (by omega), parseUInt_decimal total (by omega)]
    rw [dif_pos hbounds]
    simp only [hi, ht, List.take_of_length_le (by omega : chunk.length ≤ fieldMax - 1)]
  have hopen : ascii "WIFI" ≠ ascii "OPEN" := by decide +kernel
  have hctrl : ascii "WIFI" ≠ ascii "CTRL" := by decide +kernel
  have htext : ascii "WIFI" ≠ ascii "TEXT" := by decide +kernel
  simp only [fieldsOp, fieldAt, List.getD_cons_succ, List.getD_cons_zero, parseUInt_sequence,
    Option.bind_some, commandOp, hpart]
  simp [hopen, hctrl, htext]

/-- **The router reads a frame of the client back as its part.** -/
theorem frameOp_wifiFrame {session chunk : Bytes} {sequence : UInt32} {index total : Nat}
    (hpipe : pipe ∉ session) (hback : backslash ∉ session) (hchunk : ∀ c ∈ chunk, Base64.Plain c)
    (hindex : index < total) (htotal : total ≤ bmxWifiParts)
    (hlen : (Iphone.wifiFrame session sequence index total chunk).length ≤
      Iphone.maximumCommittedBytes) :
    frameOp (Iphone.wifiFrame session sequence index total chunk) =
      some (.wifi ⟨sequence, total, index, chunk, cString session, hindex, htotal⟩) := by
  have hself : ∀ n, Encodes (decimal n) (decimal n) := fun n =>
    encodes_self (decimal_plain (by decide) n) (decimal_plain (by decide) n)
  have hplain : ∀ x : UInt8, ¬ Base64.Plain x → x ∉ chunk := fun x hx hmem => hx (hchunk x hmem)
  have hsplit : splitFrame (Iphone.wifiFrame session sequence index total chunk) =
      some [ascii "BMX1", ascii "WIFI", session, decimal sequence.toNat, decimal index,
        decimal total, chunk] := by
    refine splitFrame_joinFields ?_ (by simp) (by simp [maxFields])
    exact .cons (encodes_self (by decide) (by decide)) <|
      .cons (encodes_self (by decide) (by decide)) <| .cons (encodes_self hpipe hback) <|
      .cons (hself _) <| .cons (hself _) <| .cons (hself _) <|
      .cons (encodes_self (hplain _ (by decide)) (hplain _ (by decide))) .nil
  have hrow : chunk.length < fieldMax := by
    have hmax : Iphone.maximumCommittedBytes = 512 := rfl
    have hfield : fieldMax = 520 := rfl
    simp only [Iphone.wifiFrame, joinFields, List.length_append, List.length_cons] at hlen
    omega
  have hdecimal : ∀ n, cString (decimal n) = decimal n := fun n =>
    cString_of_nulFree (decimal_plain (by decide) n)
  rw [frameOp, routerSplitFrame_eq _ (Nat.lt_of_le_of_lt hlen (by decide)), hsplit,
    Option.bind_some]
  simp only [List.map_cons, List.map_nil, hdecimal,
    cString_of_nulFree (hplain 0 (by decide)),
    show cString (ascii "BMX1") = ascii "BMX1" by decide,
    show cString (ascii "WIFI") = ascii "WIFI" by decide]
  exact fieldsOp_wifi hindex htotal hrow

/-! ## Commands -/

/-- The commands handed to `wifi_task`. -/
def commandsOf (t : List Effect) : List WifiCommand :=
  t.filterMap fun x => match x with | .command c => some c | _ => none

/-- Commands of two steps after one another. -/
theorem commandsOf_append (t u : List Effect) :
    commandsOf (t ++ u) = commandsOf t ++ commandsOf u := List.filterMap_append

theorem commandsOf_map_wifi (ms : List WifiMark) : commandsOf (ms.map .wifi) = [] := by
  rw [commandsOf, List.filterMap_eq_nil_iff]
  intro x hx
  obtain ⟨m, _, rfl⟩ := List.mem_map.mp hx
  rfl

/-- The commands are among the effects. -/
theorem mem_commandsOf {t : List Effect} {c : WifiCommand} :
    c ∈ commandsOf t ↔ .command c ∈ t := by
  rw [commandsOf, List.mem_filterMap]
  constructor
  · rintro ⟨x, hx, hc⟩
    cases x <;> simp at hc
    exact hc ▸ hx
  · exact fun h => ⟨_, h, rfl⟩

/-- What a complete payload leaves: the command if the queue has room
and the payload fits, and an empty buffer. -/
theorem completeWifi_commands (s : State) (q : UInt32) :
    (completeWifi s q).1.wifi = Buffer.empty ∧
      (completeWifi s q).1.session = s.session ∧
      (completeWifi s q).1.wifiCommands = s.wifiCommands ++ commandsOf (completeWifi s q).2 ∧
      commandsOf (completeWifi s q).2 =
        if s.wifi.message.flatten.length ≤ bmxWifiEncoded - 1 ∧
            s.wifiCommands.length < bmxWifiQueue then
          [⟨s.session.take (bmxSessionMax - 1), q, s.wifi.message.flatten⟩]
        else [] := by
  have hjoin : joinParts (bmxWifiEncoded - 1) [] s.wifi.message =
      if s.wifi.message.flatten.length ≤ bmxWifiEncoded - 1 then some s.wifi.message.flatten
      else none := by
    rw [joinParts_eq _ (Nat.zero_le _), List.nil_append]
    by_cases hfit : s.wifi.message.flatten.length ≤ bmxWifiEncoded - 1
    · rw [if_neg (by omega), if_pos hfit]
    · rw [if_pos (by omega), if_neg hfit]
  unfold completeWifi
  rw [hjoin]
  generalize s.wifi.message.flatten = payload
  by_cases hfit : payload.length ≤ bmxWifiEncoded - 1
  · rw [if_pos hfit]
    by_cases hroom : s.wifiCommands.length < bmxWifiQueue
    · simp [sendCommand, hroom, hfit, commandsOf]
    · simp [sendCommand, hroom, commandsOf, notifyError]
  · rw [if_neg hfit]
    simp [hfit, commandsOf, notifyError]

/-- A timeout check sends no command, and empties the Wi-Fi buffer only
if its message is too old. -/
theorem dispatcherTimeout_commands (s : State) (now : Int) :
    (dispatcherTimeout s now).1.session = s.session ∧
      (dispatcherTimeout s now).1.wifiCommands = s.wifiCommands ∧
      commandsOf (dispatcherTimeout s now).2 = [] ∧
      ((dispatcherTimeout s now).1.wifi = s.wifi ∨
        s.wifi.key ≠ 0 ∧ tooOld now s.wifi.started = true ∧
          (dispatcherTimeout s now).1.wifi = Buffer.empty) := by
  unfold dispatcherTimeout
  dsimp only
  split
  · split
    · rename_i hold
      exact ⟨rfl, rfl, rfl, .inr ⟨hold.1, hold.2, rfl⟩⟩
    · exact ⟨rfl, rfl, rfl, .inl rfl⟩
  · split
    · rename_i hold
      exact ⟨rfl, rfl, rfl, .inr ⟨hold.1, hold.2, rfl⟩⟩
    · exact ⟨rfl, rfl, rfl, .inl rfl⟩

/-! ## Feeds -/

/-- A frame of `frames`, or a timeout check, with clock readings within
two seconds of `start`. -/
def Timely (frames : List Bytes) (start : Int) : Event → Prop
  | .frame env bytes =>
      bytes ∈ frames ∧ start ≤ env.started ∧ env.now ≤ start + bmxReassemblyTimeoutMs
  | .tick now => now ≤ start + bmxReassemblyTimeoutMs
  | _ => False

instance (frames : List Bytes) (start : Int) : ∀ e, Decidable (Timely frames start e)
  | .frame env bytes => inferInstanceAs (Decidable
      (bytes ∈ frames ∧ start ≤ env.started ∧ env.now ≤ start + bmxReassemblyTimeoutMs))
  | .tick now => inferInstanceAs (Decidable (now ≤ start + bmxReassemblyTimeoutMs))
  | .connect | .disconnect _ | .wifiEvent _ _ _ _ | .command _ | .mgmt _ | .deadline _ _ _
  | .periodic _ | .pingResult _ | .pingEnd => .isFalse id

/-- Parts that come in time are not too old. -/
theorem tooOld_of_timely {start now t : Int} (hnow : now ≤ start + bmxReassemblyTimeoutMs)
    (ht : start ≤ t) : tooOld now t = false := by
  rw [tooOld, decide_eq_false_iff_not]
  omega

/-- The buffer works on a payload other than that of `total` parts under
`sequence`; the first part of this one replaces it. -/
def Stale (sequence : UInt32) (total : Nat) (b : Buffer bmxWifiParts UInt32 Int Bytes) : Prop :=
  b.key ≠ 0 ∧ (b.key ≠ sequence ∨ b.total ≠ total)

/-- Nothing of the payload is in the buffer. -/
def Clean (sequence : UInt32) (total : Nat) (b : Buffer bmxWifiParts UInt32 Int Bytes) : Prop :=
  (b.key = 0 ∧ ∀ i, b.received i = false) ∨ Stale sequence total b

section Provisioning

variable (session : Bytes) (sequence : UInt32) (chunks : List Bytes) (start : Int)
  (waiting : List WifiCommand)

/-- The buffer holds the parts in `got`, or none and a stale payload. -/
def Gathers (got : Nat → Prop) (b : Buffer bmxWifiParts UInt32 Int Bytes) : Prop :=
  Collects sequence chunks.length (start ≤ ·) (fun i => chunks.getD i []) got b ∨
    (∀ i, ¬ got i) ∧ Stale sequence chunks.length b

/-- After a feed in which the parts in `fed` came, and of which the
router showed `t`: `got` are those collected since the last command. The
queue had the commands `waiting` before. -/
structure Provisioning (fed got : Nat → Prop) (t : List Effect) (s : State) : Prop where
  session : s.session = cString session
  buffer : Gathers sequence chunks start got s.wifi
  missing : ∃ i < chunks.length, ¬ got i
  queue : s.wifiCommands = waiting ++ commandsOf t
  payload : ∀ c ∈ commandsOf t, c.payload = chunks.flatten
  room : commandsOf t ≠ [] → waiting.length < bmxWifiQueue
  progress : (∀ i, fed i → got i) ∨
    (chunks.flatten.length ≤ bmxWifiEncoded - 1 → waiting.length < bmxWifiQueue →
      commandsOf t ≠ [])

/-- The part with its index of the payload. -/
def IsPart (p : WifiPart) : Prop :=
  p.key = sequence ∧ p.total = chunks.length ∧ p.payload = chunks.getD p.index [] ∧
    p.origin = cString session

variable {session sequence chunks start waiting}

theorem collects_empty :
    Collects sequence chunks.length (start ≤ ·) (fun i => chunks.getD i []) (fun _ => False)
      (Buffer.empty : Buffer bmxWifiParts UInt32 Int Bytes) :=
  ⟨.inl rfl, fun i => by simp, fun i hi => hi.elim⟩

/-- One more part of the payload, whatever the buffer worked on. -/
theorem Gathers.offer {got : Nat → Prop} {b : Buffer bmxWifiParts UInt32 Int Bytes}
    (h : Gathers sequence chunks start got b) {p : WifiPart}
    (hp : IsPart session sequence chunks p) {now : Int} {expired : Int → Bool}
    (hnow : start ≤ now) (hexp : ∀ t, start ≤ t → expired t = false) :
    Collects sequence chunks.length (start ≤ ·) (fun i => chunks.getD i [])
        (fun i => got i ∨ i = p.index) (b.offer now expired p).1 ∧
      ((b.offer now expired p).2.2 = .waiting ∧
          (∃ i < chunks.length, ¬ (got i ∨ i = p.index)) ∨
        (b.offer now expired p).2.2 = .complete ∧
          (b.offer now expired p).1.message =
            (List.range chunks.length).map fun i => chunks.getD i []) := by
  obtain ⟨hkey, htotal, hpayload, -⟩ := hp
  have hcollects : ∀ {got : Nat → Prop} {b : Buffer bmxWifiParts UInt32 Int Bytes},
      Collects sequence chunks.length (start ≤ ·) (fun i => chunks.getD i []) got b →
      Collects sequence chunks.length (start ≤ ·) (fun i => chunks.getD i [])
          (fun i => got i ∨ i = p.index) (b.offer now expired p).1 ∧
        ((b.offer now expired p).2.2 = .waiting ∧
            (∃ i < chunks.length, ¬ (got i ∨ i = p.index)) ∨
          (b.offer now expired p).2.2 = .complete ∧
            (b.offer now expired p).1.message =
              (List.range chunks.length).map fun i => chunks.getD i []) := by
    intro got b h
    obtain ⟨hafter, hout⟩ := offer_collects h now expired hkey htotal hpayload hnow hexp
    exact ⟨hafter, hout.imp_right fun hdone => ⟨hdone.1, hdone.2.2⟩⟩
  rcases h with h | ⟨hnone, hzero, hother⟩
  · exact hcollects h
  · -- the part replaces the payload in the buffer
    have hreplaces : b.replaces p = true := by
      simpa [Buffer.replaces, hkey, htotal] using ⟨hzero, hother⟩
    obtain ⟨hbuffer, houtcome⟩ := offer_replaces hreplaces now expired
    have hgot : got = fun _ => False := funext fun i => eq_false (hnone i)
    rw [hbuffer, houtcome, hgot]
    exact hcollects collects_empty

/-- The chunks make the message. -/
theorem message_chunks :
    ((List.range chunks.length).map fun i => chunks.getD i []) = chunks := by
  refine List.ext_getElem? fun i => ?_
  by_cases hi : i < chunks.length
  · simp [hi, List.getD_eq_getElem?_getD]
  · simp [hi]

variable {fed got : Nat → Prop} {t : List Effect} {s : State}

/-- The payload is complete: the command is sent if the queue has room
and the payload fits, and nothing is left in the buffer. -/
theorem Provisioning.complete
    (h : Provisioning session sequence chunks start waiting fed got t s) (hne : chunks ≠ [])
    {fed' : Nat → Prop} {s' : State} {u : List Effect} {command : WifiCommand}
    (hcommand : command.payload = chunks.flatten) (hwifi : s'.wifi = Buffer.empty)
    (hsession : s'.session = s.session)
    (hqueue : s'.wifiCommands = s.wifiCommands ++ commandsOf u)
    (hsent : commandsOf u = if chunks.flatten.length ≤ bmxWifiEncoded - 1 ∧
      s.wifiCommands.length < bmxWifiQueue then [command] else []) :
    Provisioning session sequence chunks start waiting fed' (fun _ => False) (t ++ u) s' where
  session := hsession.trans h.session
  buffer := by rw [hwifi]; exact .inl collects_empty
  missing := ⟨0, List.length_pos_iff.mpr hne, id⟩
  queue := by rw [hqueue, h.queue, commandsOf_append, List.append_assoc]
  payload c hc := by
    rw [commandsOf_append, List.mem_append] at hc
    rcases hc with hc | hc
    · exact h.payload c hc
    · rw [hsent] at hc
      split at hc
      · rw [List.mem_singleton.mp hc, hcommand]
      · cases hc
  room hsome := by
    rw [commandsOf_append] at hsome
    by_cases hbefore : commandsOf t = []
    · rw [hbefore, List.nil_append, hsent] at hsome
      split at hsome
      · rename_i hfits
        simpa [h.queue, hbefore] using hfits.2
      · exact absurd rfl hsome
    · exact h.room hbefore
  progress := by
    refine .inr fun hfit hroom => ?_
    rw [commandsOf_append]
    by_cases hbefore : commandsOf t = []
    · have hfits : chunks.flatten.length ≤ bmxWifiEncoded - 1 ∧
          s.wifiCommands.length < bmxWifiQueue := by
        refine ⟨hfit, ?_⟩
        rw [h.queue, hbefore, List.append_nil]
        exact hroom
      rw [hsent, if_pos hfits]
      simp
    · exact fun hnil => hbefore (List.append_eq_nil_iff.mp hnil).1

/-- A part is kept, or it is the last one and the command is sent. -/
theorem Provisioning.part (h : Provisioning session sequence chunks start waiting fed got t s)
    (hne : chunks ≠ []) {p : WifiPart} (hp : IsPart session sequence chunks p) {env : FrameEnv}
    (hstarted : start ≤ env.started) (hnow : env.now ≤ start + bmxReassemblyTimeoutMs) :
    ∃ got', Provisioning session sequence chunks start waiting (fun i => fed i ∨ i = p.index)
      got' (t ++ (handleWifi s env p).2) (handleWifi s env p).1 := by
  obtain ⟨hcollects, hout⟩ := h.buffer.offer hp hstarted fun t ht => tooOld_of_timely hnow ht
  rcases hout with ⟨hwait, hmissing⟩ | ⟨hcomplete, hmessage⟩
  · refine ⟨fun i => got i ∨ i = p.index, ?_⟩
    have heq : handleWifi s env p =
        ({ s with wifi := (s.wifi.offer env.started (tooOld env.now) p).1 },
          (s.wifi.offer env.started (tooOld env.now) p).2.1.map .wifi) := by
      rw [handleWifi, hwait]
    have hcommands : commandsOf (t ++ (handleWifi s env p).2) = commandsOf t := by
      rw [heq, commandsOf_append, commandsOf_map_wifi, List.append_nil]
    rw [heq] at hcommands ⊢
    exact
      { session := h.session
        buffer := .inl hcollects
        missing := hmissing
        queue := by rw [hcommands]; exact h.queue
        payload := by rw [hcommands]; exact h.payload
        room := by rw [hcommands]; exact h.room
        progress := by
          rw [hcommands]
          exact h.progress.imp_left fun hall i hi => hi.imp_left (hall i) }
  · refine ⟨fun _ => False, ?_⟩
    have heq : handleWifi s env p =
        ((completeWifi { s with wifi := (s.wifi.offer env.started (tooOld env.now) p).1 } p.key).1,
          (s.wifi.offer env.started (tooOld env.now) p).2.1.map .wifi ++
            (completeWifi { s with wifi := (s.wifi.offer env.started (tooOld env.now) p).1 }
              p.key).2) := by
      rw [handleWifi, hcomplete]
    obtain ⟨hwifi, hsession, hqueue, hsent⟩ := completeWifi_commands
      { s with wifi := (s.wifi.offer env.started (tooOld env.now) p).1 } p.key
    rw [hmessage, message_chunks] at hsent
    rw [heq]
    generalize completeWifi { s with wifi := _ } p.key = r at hwifi hsession hqueue hsent
    have hcommands : commandsOf ((s.wifi.offer env.started (tooOld env.now) p).2.1.map .wifi ++
        r.2) = commandsOf r.2 := by
      rw [commandsOf_append, commandsOf_map_wifi, List.nil_append]
    exact h.complete hne rfl hwifi hsession (by rw [hcommands]; exact hqueue)
      (by rw [hcommands]; exact hsent)

/-- A timeout check leaves a payload that was begun in time. -/
theorem Provisioning.tick (h : Provisioning session sequence chunks start waiting fed got t s)
    {now : Int} (hnow : now ≤ start + bmxReassemblyTimeoutMs) :
    Provisioning session sequence chunks start waiting fed got
      (t ++ (dispatcherTimeout s now).2) (dispatcherTimeout s now).1 := by
  obtain ⟨hsession, hqueue, hcommands, hwifi⟩ := dispatcherTimeout_commands s now
  have hsame : commandsOf (t ++ (dispatcherTimeout s now).2) = commandsOf t := by
    rw [commandsOf_append, hcommands, List.append_nil]
  refine ⟨hsession.trans h.session, ?_, h.missing, ?_, ?_, ?_, ?_⟩
  · rcases hwifi with hwifi | ⟨hkey, hold, hwifi⟩
    · rw [hwifi]
      exact h.buffer
    · rw [hwifi]
      rcases h.buffer with hcollects | ⟨hnone, -⟩
      · rcases hcollects.owned with hzero | ⟨-, -, hstarted⟩
        · exact absurd hzero hkey
        · rw [tooOld_of_timely hnow hstarted] at hold
          cases hold
      · have hgot : got = fun _ => False := funext fun i => eq_false (hnone i)
        rw [hgot]
        exact .inl collects_empty
  · rw [hsame, hqueue]
    exact h.queue
  · rw [hsame]
    exact h.payload
  · rw [hsame]
    exact h.room
  · rw [hsame]
    exact h.progress

/-- One event of a feed. -/
theorem Provisioning.step {frames : List Bytes}
    (h : Provisioning session sequence chunks start waiting fed got t s) (hne : chunks ≠ [])
    (hread : ∀ bytes ∈ frames, ∃ p, frameOp bytes = some (.wifi p) ∧
      IsPart session sequence chunks p) {e : Event} (he : Timely frames start e) :
    ∃ fed' got', (∀ i, fed i → fed' i) ∧ (∀ p, e.op = some (.wifi p) → fed' p.index) ∧
      Provisioning session sequence chunks start waiting fed' got' (t ++ (step s e).2)
        (step s e).1 := by
  cases e with
  | frame env bytes =>
      obtain ⟨hmem, hstarted, hnow⟩ := he
      obtain ⟨p, hop, hp⟩ := hread bytes hmem
      have hstep : Router.step s (.frame env bytes) = handleWifi s env p := by
        simp [Router.step, handleFrame, hop, act, Op.session, hp.2.2.2, h.session, perform]
      rw [hstep]
      obtain ⟨got', hafter⟩ := h.part hne hp hstarted hnow
      refine ⟨fun i => fed i ∨ i = p.index, got', fun i hi => .inl hi, ?_, hafter⟩
      intro q hq
      obtain rfl : p = q := by simpa [Event.op, hop] using hq
      exact .inr rfl
  | tick now => exact ⟨fed, got, fun _ hi => hi, by simp [Event.op], h.tick he⟩
  | _ => exact he.elim

/-- The induction over the frames that are left, in any order. -/
theorem Provisioning.run {frames : List Bytes} (hne : chunks ≠ [])
    (hread : ∀ bytes ∈ frames, ∃ p, frameOp bytes = some (.wifi p) ∧
      IsPart session sequence chunks p) :
    ∀ (feed : List Event) (fed got : Nat → Prop) (t : List Effect) (s : State),
      Provisioning session sequence chunks start waiting fed got t s →
      (∀ e ∈ feed, Timely frames start e) →
      ∃ fed' got', (∀ i, fed i → fed' i) ∧
        (∀ e ∈ feed, ∀ p, e.op = some (.wifi p) → fed' p.index) ∧
        Provisioning session sequence chunks start waiting fed' got'
          (t ++ router.traceFrom s feed) (router.runFrom s feed)
  | [], fed, got, t, s, h, _ => ⟨fed, got, fun _ hi => hi, by simp, by simpa using h⟩
  | e :: rest, fed, got, t, s, h, hfeed => by
      obtain ⟨fed₁, got₁, hmono₁, hpart₁, h₁⟩ := h.step hne hread (hfeed e (by simp))
      obtain ⟨fed₂, got₂, hmono₂, hpart₂, h₂⟩ :=
        Provisioning.run hne hread rest fed₁ got₁ _ _ h₁ fun e he => hfeed e (by simp [he])
      refine ⟨fed₂, got₂, fun i hi => hmono₂ i (hmono₁ i hi), ?_, ?_⟩
      · intro e' he' p hp
        rcases List.mem_cons.mp he' with rfl | he'
        · exact hmono₂ _ (hpart₁ p hp)
        · exact hpart₂ e' he' p hp
      · rw [List.append_assoc] at h₂
        exact h₂

/-- Frames of another session are not looked at. -/
theorem commandsOf_other_session {frames : List Bytes}
    (hread : ∀ bytes ∈ frames, ∃ p, frameOp bytes = some (.wifi p) ∧
      IsPart session sequence chunks p) {feed : List Event}
    (hfeed : ∀ e ∈ feed, Timely frames start e) {s : State} (h : s.session ≠ cString session) :
    commandsOf (router.traceFrom s feed) = [] := by
  induction feed generalizing s with
  | nil => rfl
  | cons e rest ih =>
      have hrest : ∀ e ∈ rest, Timely frames start e := fun e he => hfeed e (by simp [he])
      have he := hfeed e (by simp)
      rw [Machine.traceFrom_cons, commandsOf_append]
      change commandsOf (step s e).2 ++ commandsOf (router.traceFrom (step s e).1 rest) = []
      cases e with
      | frame env bytes =>
          obtain ⟨p, hop, hp⟩ := hread bytes he.1
          have hother : p.origin ≠ s.session := by
            rw [hp.2.2.2]
            exact h.symm
          have hstep : step s (.frame env bytes) = (s, []) := by
            simp [step, handleFrame, hop, act, Op.session, hother]
          rw [hstep, ih hrest h]
          rfl
      | tick now =>
          obtain ⟨hsession, -, hcommands, -⟩ := dispatcherTimeout_commands s now
          rw [step, hcommands, ih hrest (by rw [hsession]; exact h)]
          rfl
      | _ => exact he.elim

end Provisioning

/-! ## Delivery -/

/-- A command is sent, and what the router reads out of every one are
the credentials. -/
def Provisions (d : Decoders) (ssid password : Bytes) (t : List Effect) : Prop :=
  (∃ c, .command c ∈ t) ∧
    ∀ c, .command c ∈ t → decodeWifiJson d c.payload = some (ssid, password)

/-- The frames of the client are the parts of its payload. -/
theorem wifiFrames_read {maximum : Int} {session : Bytes} {sequence : UInt32}
    {ssid password payload : Bytes} {frames : List Bytes}
    (hpayload : Iphone.wifiPayload ssid password = .ok payload)
    (hframes : Iphone.wifiFrames maximum session sequence payload = .ok frames) :
    ∃ chunks : List Bytes, chunks.flatten = payload ∧ chunks ≠ [] ∧
      frames.length = chunks.length ∧
      (∀ bytes ∈ frames, ∃ p, frameOp bytes = some (.wifi p) ∧
        IsPart session sequence chunks p) ∧
      ∀ i < chunks.length, ∃ bytes ∈ frames, ∃ p, frameOp bytes = some (.wifi p) ∧
        p.index = i := by
  obtain ⟨chunks, hflatten, hne, hparts, hpipe, hback, hcount, hget⟩ :=
    Iphone.wifiFrames_ok hframes
  obtain ⟨-, -, -, -, -, -, hencode⟩ := Iphone.wifiPayload_ok hpayload
  have hplain : ∀ chunk ∈ chunks, ∀ c ∈ chunk, Base64.Plain c := by
    intro chunk hchunk c hc
    refine Base64.encode_plain (Iphone.wifiJson ssid password) c ?_
    rw [← hencode, ← hflatten]
    exact List.mem_flatten.mpr ⟨chunk, hchunk, hc⟩
  have hframeOp : ∀ i (hi : i < chunks.length), ∃ bytes, frames[i]? = some bytes ∧
      frameOp bytes = some (.wifi
        ⟨sequence, chunks.length, i, chunks.getD i [], cString session, hi, hparts⟩) := by
    intro i hi
    obtain ⟨chunk, hchunk⟩ : ∃ chunk, chunks[i]? = some chunk := ⟨_, List.getElem?_eq_getElem hi⟩
    obtain ⟨hlen, hframe⟩ := hget i chunk hchunk
    refine ⟨_, hframe, ?_⟩
    rw [frameOp_wifiFrame hpipe hback
      (hplain chunk (List.mem_iff_getElem?.mpr ⟨i, hchunk⟩)) hi hparts hlen]
    simp [hchunk]
  refine ⟨chunks, hflatten, hne, hcount, ?_, ?_⟩
  · intro bytes hbytes
    obtain ⟨i, hi⟩ := List.mem_iff_getElem?.mp hbytes
    obtain ⟨hlt, _⟩ := List.getElem?_eq_some_iff.mp hi
    obtain ⟨bytes', hb, hop⟩ := hframeOp i (hcount ▸ hlt)
    obtain rfl : bytes = bytes' := Option.some.inj (hi.symm.trans hb)
    exact ⟨_, hop, rfl, rfl, rfl, rfl⟩
  · intro i hi
    obtain ⟨bytes, hb, hop⟩ := hframeOp i hi
    exact ⟨bytes, List.mem_iff_getElem?.mpr ⟨i, hb⟩, _, hop, rfl⟩

section Delivery

variable {d : Decoders} {maximumWriteBytes : Int} {session : Bytes} {sequence : UInt32}
  {ssid password payload : Bytes} {frames : List Bytes} {s : State} {feed : List Event}
  {start : Int}

/-- A feed keeps the invariant, and every part came if every frame did. -/
theorem provisioning_of_feed (hpayload : Iphone.wifiPayload ssid password = .ok payload)
    (hframes : Iphone.wifiFrames maximumWriteBytes session sequence payload = .ok frames)
    (hclean : Clean sequence frames.length s.wifi) (hfeed : ∀ e ∈ feed, Timely frames start e)
    (hsession : s.session = cString session) :
    ∃ chunks fed got, chunks.flatten = payload ∧
      ((∀ bytes ∈ frames, ∃ env, .frame env bytes ∈ feed) → ∀ i < chunks.length, fed i) ∧
      Provisioning session sequence chunks start s.wifiCommands fed got
        (router.traceFrom s feed) (router.runFrom s feed) := by
  obtain ⟨chunks, hflatten, hne, hcount, hread, hindex⟩ := wifiFrames_read hpayload hframes
  have hstart : Provisioning session sequence chunks start s.wifiCommands (fun _ => False)
      (fun _ => False) [] s := by
    refine ⟨hsession, ?_, ⟨0, List.length_pos_iff.mpr hne, id⟩, by simp [commandsOf],
      by simp [commandsOf], by simp [commandsOf], .inl fun _ hi => hi⟩
    rw [hcount] at hclean
    rcases hclean with ⟨hkey, hnone⟩ | hstale
    · exact .inl ⟨.inl hkey, fun i => by simp [hnone i], fun i hi => hi.elim⟩
    · exact .inr ⟨fun _ => id, hstale⟩
  obtain ⟨fed, got, -, hfed, h⟩ := Provisioning.run hne hread feed _ _ _ _ hstart hfeed
  refine ⟨chunks, fed, got, hflatten, fun hall i hi => ?_, by simpa using h⟩
  obtain ⟨bytes, hbytes, p, hop, rfl⟩ := hindex i hi
  obtain ⟨env, hmem⟩ := hall bytes hbytes
  exact hfed _ hmem p hop

/-- Credentials that arrive had a session, a place in the queue, and a
text the router takes. -/
theorem fits_of_provisions (hpayload : Iphone.wifiPayload ssid password = .ok payload)
    (hframes : Iphone.wifiFrames maximumWriteBytes session sequence payload = .ok frames)
    (hclean : Clean sequence frames.length s.wifi) (hfeed : ∀ e ∈ feed, Timely frames start e)
    (h : Provisions d ssid password (router.traceFrom s feed)) :
    s.session = cString session ∧ s.wifiCommands.length < bmxWifiQueue ∧
      Iphone.escapedBytes ssid + Iphone.escapedBytes password ≤ 167 := by
  obtain ⟨⟨c, hc⟩, hevery⟩ := h
  by_cases hsession : s.session = cString session
  · obtain ⟨chunks, fed, got, rfl, -, hfinal⟩ :=
      provisioning_of_feed hpayload hframes hclean hfeed hsession
    have hsent := mem_commandsOf.mpr hc
    refine ⟨hsession, hfinal.room (List.ne_nil_of_mem hsent), ?_⟩
    have hread := hevery c hc
    rw [hfinal.payload c hsent, decodeWifiJson_payload d hpayload] at hread
    split at hread
    · assumption
    · cases hread
  · obtain ⟨chunks, -, -, -, hread, -⟩ := wifiFrames_read hpayload hframes
    have hnone := commandsOf_other_session hread hfeed hsession
    rw [← mem_commandsOf, hnone] at hc
    cases hc

/-- A payload that fits is provisioned as it was typed. -/
theorem provisions_of_fits (hpayload : Iphone.wifiPayload ssid password = .ok payload)
    (hframes : Iphone.wifiFrames maximumWriteBytes session sequence payload = .ok frames)
    (hclean : Clean sequence frames.length s.wifi) (hfeed : ∀ e ∈ feed, Timely frames start e)
    (hall : ∀ bytes ∈ frames, ∃ env, .frame env bytes ∈ feed)
    (hsession : s.session = cString session) (hroom : s.wifiCommands.length < bmxWifiQueue)
    (hfit : Iphone.escapedBytes ssid + Iphone.escapedBytes password ≤ 167) :
    Provisions d ssid password (router.traceFrom s feed) := by
  obtain ⟨chunks, fed, got, rfl, hfed, hfinal⟩ :=
    provisioning_of_feed hpayload hframes hclean hfeed hsession
  have hlength : chunks.flatten.length ≤ bmxWifiEncoded - 1 := by
    obtain ⟨-, -, -, -, -, -, hencode⟩ := Iphone.wifiPayload_ok hpayload
    rw [hencode, Base64.length_encode, Iphone.length_wifiJson, bmxWifiEncoded]
    omega
  have hsome : commandsOf (router.traceFrom s feed) ≠ [] := by
    rcases hfinal.progress with hcomplete | hsent
    · -- every part was fed, so none is missing
      obtain ⟨i, hi, hmissing⟩ := hfinal.missing
      exact absurd (hcomplete i (hfed hall i hi)) hmissing
    · exact hsent hlength hroom
  obtain ⟨c, hc⟩ := List.exists_mem_of_ne_nil _ hsome
  refine ⟨⟨c, mem_commandsOf.mp hc⟩, fun c hc => ?_⟩
  rw [hfinal.payload c (mem_commandsOf.mpr hc), decodeWifiJson_payload d hpayload, if_pos hfit]

end Delivery

/-- **When the credentials arrive.** The frames of the client, fed in any
order, each at least once, within two seconds, to a router whose buffer
holds nothing of them: the credentials arrive exactly if the session is
open, the queue has room, and the JSON text has at most 192 bytes. -/
theorem wifi_provisioned_iff (d : Decoders) (maximumWriteBytes : Int) (session : Bytes)
    (sequence : UInt32) (ssid password payload : Bytes) (frames : List Bytes) (s : State)
    (feed : List Event) (start : Int)
    (hpayload : Iphone.wifiPayload ssid password = .ok payload)
    (hframes : Iphone.wifiFrames maximumWriteBytes session sequence payload = .ok frames)
    (hclean : Clean sequence frames.length s.wifi)
    (hfeed : ∀ e ∈ feed, Timely frames start e)
    (hall : ∀ bytes ∈ frames, ∃ env, .frame env bytes ∈ feed) :
    Provisions d ssid password (router.traceFrom s feed) ↔
      s.session = cString session ∧ s.wifiCommands.length < bmxWifiQueue ∧
        Iphone.escapedBytes ssid + Iphone.escapedBytes password ≤ 167 := by
  constructor
  · exact fits_of_provisions hpayload hframes hclean hfeed
  · rintro ⟨hsession, hroom, hfit⟩
    exact provisions_of_fits hpayload hframes hclean hfeed hall hsession hroom hfit

/-- A platform that answers yes, with the clock at `now`. -/
def yesAt (now : Int) : FrameEnv := ⟨now, now, true, [], true, true, true, none⟩

/-- The router after the client opened the session `s`. -/
def openedRouter : State := router.run [.connect, .frame (yesAt 0) (ascii "BMX1|OPEN|s")]

/-- Credentials in two parts, sent out of order and with a repetition. -/
theorem wifi_provisioned_two_parts :
    Provisions decoders (ascii "L11") (ascii "password123") (router.traceFrom openedRouter
      [.frame (yesAt 5) (ascii "BMX1|WIFI|s|9|1|2|IkwxMSJ9"), .tick 9,
        .frame (yesAt 20) (ascii "BMX1|WIFI|s|9|1|2|IkwxMSJ9"),
        .frame (yesAt 30)
          (ascii "BMX1|WIFI|s|9|0|2|eyJwYXNzd29yZCI6InBhc3N3b3JkMTIzIiwic3NpZCI6")]) := by
  refine (wifi_provisioned_iff decoders 64 (ascii "s") 9 (ascii "L11") (ascii "password123")
    (ascii "eyJwYXNzd29yZCI6InBhc3N3b3JkMTIzIiwic3NpZCI6IkwxMSJ9")
    [ascii "BMX1|WIFI|s|9|0|2|eyJwYXNzd29yZCI6InBhc3N3b3JkMTIzIiwic3NpZCI6",
      ascii "BMX1|WIFI|s|9|1|2|IkwxMSJ9"] openedRouter _ 0 (by decide +kernel) (by decide +kernel)
    (.inl ⟨rfl, fun _ => rfl⟩) (by decide +kernel) ?_).mpr (by decide +kernel)
  intro bytes hbytes
  simp only [List.mem_cons, List.not_mem_nil, or_false] at hbytes
  rcases hbytes with rfl | rfl
  · exact ⟨yesAt 30, by simp⟩
  · exact ⟨yesAt 5, by simp⟩

/-- A credential of slashes, which the JSON text escapes. -/
def slashes (n : Nat) : Bytes := List.replicate n 0x2F

def slashesPayload : Bytes := Base64.encode (Iphone.wifiJson (slashes 32) (slashes 63))

/-- **Credentials the client accepts are lost**: with 32 and 63 slashes
the JSON text has 215 bytes. -/
theorem slashes_not_provisioned :
    Iphone.wifiPayload (slashes 32) (slashes 63) = .ok slashesPayload ∧
    Iphone.wifiFrames 512 (ascii "s") 1 slashesPayload =
      .ok [Iphone.wifiFrame (ascii "s") 1 0 1 slashesPayload] ∧
    ¬ Provisions decoders (slashes 32) (slashes 63) (router.traceFrom openedRouter
      [.frame (yesAt 5) (Iphone.wifiFrame (ascii "s") 1 0 1 slashesPayload)]) := by
  have hpayload : Iphone.wifiPayload (slashes 32) (slashes 63) = .ok slashesPayload := by
    decide +kernel
  have hframes : Iphone.wifiFrames 512 (ascii "s") 1 slashesPayload =
      .ok [Iphone.wifiFrame (ascii "s") 1 0 1 slashesPayload] := by decide +kernel
  have hfeed : ∀ e ∈ [Event.frame (yesAt 5) (Iphone.wifiFrame (ascii "s") 1 0 1 slashesPayload)],
      Timely [Iphone.wifiFrame (ascii "s") 1 0 1 slashesPayload] 0 e := by
    simp [Timely, yesAt, bmxReassemblyTimeoutMs]
  refine ⟨hpayload, hframes, fun h => ?_⟩
  have hfits := fits_of_provisions hpayload hframes (.inl ⟨rfl, fun _ => rfl⟩) hfeed h
  exact absurd hfits.2.2 (by decide)

end Bootmux.Router
