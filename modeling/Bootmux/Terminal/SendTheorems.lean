/-
Bootmux.Terminal.SendTheorems — what becomes of the messages the iPhone
sends.

`Transmits` lists the messages a step of the iPhone's terminal can send,
with what the sending function checked. The Companion reads each of them
back field by field (`unmarshal_encode`), so what is left are the rules
of `handleClientMessage`: it wants a text that is not empty, and room in
its input queue. The mirror takes no message at all, and only `sendInput`
asks whether the other end is the mirror.

The sizes matter at one place: a message is at most as long as the limit of
the Companion because the iPhone checks the length of what it sends before
the escapes, which multiply it by six at most.
-/
import Bootmux.Companion.SizeTheorems
import Bootmux.Iphone.GenerationTheorems
import Bootmux.Terminal.CodecTheorems

namespace Bootmux.Terminal

open Bootmux.Lib
open Bootmux.Companion (Bytes ascii Code)

/-! ## The messages the iPhone sends -/

/-- The messages the step `e` can send. -/
inductive Transmits : Iphone.TerminalEvent → Iphone.ClientMessage → Prop
  | input {id text : Bytes} (hlen : text.length ≤ Iphone.TerminalProtocolLimits.inputTextBytes)
      (hfits : Iphone.TerminalSession.fits (.input id text) = true) :
      Transmits (.sendInput text) (.input id text)
  | interrupt {id : Bytes} (hfits : Iphone.TerminalSession.fits (.interrupt id) = true) :
      Transmits .sendInterrupt (.interrupt id)
  | prompt {id prompt : Bytes} {uuid : Vector UInt8 16}
      (hlen : prompt.length ≤ Iphone.TerminalProtocolLimits.inputTextBytes)
      (hfits : Iphone.TerminalSession.fits (.codexPrompt id prompt (Iphone.uuidString uuid)) =
        true) :
      Transmits (.sendCodexPrompt prompt uuid) (.codexPrompt id prompt (Iphone.uuidString uuid))
  | cancel {id : Bytes} {uuid : Vector UInt8 16} :
      Transmits (.cancelCodex uuid) (.codexCancel id (Iphone.uuidString uuid))
  | reset {id : Bytes} : Transmits .newCodexSession (.codexNewSession id)
  | close {id : Bytes} {i : Nat} : Transmits (.resume i .done) (.close id)

section Iphone

open Iphone

variable {s : TerminalSession} {socket : Nat} {m : ClientMessage}

/-- Closing a transport sends nothing. -/
def Silent (effects : List TerminalEffect) : Prop := ∀ socket m, .sent socket m ∉ effects

theorem silent_closeTransport (code : TerminalCloseCode) : Silent (s.closeTransport code) := by
  intro socket m h
  unfold TerminalSession.closeTransport at h
  split at h
  · cases h
  · rcases List.mem_singleton.mp h with h
    cases h

theorem silent_receiveFailed (i generation : Nat) (message : String) :
    Silent (s.receiveFailed i generation message).2 := by
  unfold TerminalSession.receiveFailed
  split
  · exact silent_closeTransport (s := s.settle i) _
  · simp [Silent]

theorem silent_received (i socket generation : Nat) (outcome : TerminalSession.Outcome) :
    Silent (s.received i socket generation outcome).2 := by
  have hhandle : ∀ {data : Bytes} {handled : TerminalSession.Handled},
      s.handle data generation = .ok handled → Silent handled.effects := by
    intro data handled h
    cases TerminalSession.handle_ok h with
    | exited hstate => exact silent_closeTransport _
    | gaveUp => exact silent_closeTransport _
    | _ => simp [Silent]
  cases outcome with
  | message data =>
      simp only [TerminalSession.received]
      split
      · split
        · rename_i h; exact hhandle h
        · rename_i h; exact hhandle h
        · exact silent_receiveFailed _ _ _
      · simp [Silent]
  | done => simp [Silent, TerminalSession.received]
  | failed => exact silent_receiveFailed _ _ _
  | cancelled => simp [Silent, TerminalSession.received]

theorem silent_sent (i : Nat) (kind : SendKind) (ok : Bool) : Silent (s.sent i kind ok).2 := by
  cases kind <;> cases ok
  case input.false => exact silent_closeTransport (s := s.settle i) _
  case interrupt.false => exact silent_closeTransport (s := s.settle i) _
  all_goals simp [Silent, TerminalSession.sent]

/-- What a resumed call sends is what it was called for. -/
theorem transmits_of_resume {i : Nat} {outcome : TerminalSession.Outcome}
    (h : .sent socket m ∈ (s.resume i outcome).2) : Transmits (.resume i outcome) m := by
  unfold TerminalSession.resume at h
  split at h
  · cases h
  · cases h
  · exact absurd h (silent_received _ _ _ _ _ _)
  · split at h
    · exact absurd h (silent_sent _ _ _ _ _)
    · exact absurd h (silent_sent _ _ _ _ _)
    · exact absurd h (silent_sent _ _ _ _ _)
    · cases h
  · cases h
  · unfold TerminalSession.closed at h
    split at h
    · rcases List.mem_cons.mp h with h | h
      · cases h
        exact .close
      · cases List.mem_singleton.mp h
    · cases List.mem_singleton.mp h
    · cases h
    · cases h

/-- Whatever is sent is what its event transmits. -/
theorem transmits_of_sent {e : TerminalEvent} (h : .sent socket m ∈ (terminalStep s e).2) :
    Transmits e m := by
  cases e with
  | connect valid =>
      simp only [terminalStep, TerminalSession.connect] at h
      repeat' split at h
      all_goals first
        | cases h
        | exact absurd h (silent_closeTransport _ _ _)
  | disconnect =>
      simp only [terminalStep, TerminalSession.disconnect] at h
      split at h
      · cases h
      · exact absurd h (silent_closeTransport _ _ _)
  | clearVisibleHistory => cases h
  | sendInput text =>
      simp only [terminalStep, TerminalSession.sendInput] at h
      split at h
      · split at h
        · cases h
        · split at h
          · cases h
          · rename_i hlen
            split at h
            · rename_i hfits
              cases List.mem_singleton.mp h
              exact .input (Nat.le_of_not_lt hlen) hfits
            · cases h
      · cases h
  | sendInterrupt =>
      simp only [terminalStep, TerminalSession.sendInterrupt] at h
      split at h
      · split at h
        · rename_i hfits
          cases List.mem_singleton.mp h
          exact .interrupt hfits
        · cases h
      · cases h
  | sendCodexPrompt prompt uuid =>
      simp only [terminalStep, TerminalSession.sendCodexPrompt] at h
      split at h
      · split at h
        · cases h
        · rename_i hlen
          split at h
          · rename_i hfits
            cases List.mem_singleton.mp h
            exact .prompt (Nat.le_of_not_lt hlen) hfits
          · cases h
      · cases h
  | cancelCodex uuid =>
      simp only [terminalStep, TerminalSession.cancelCodex] at h
      split at h
      · cases List.mem_singleton.mp h
        exact .cancel
      · cases h
  | newCodexSession =>
      simp only [terminalStep, TerminalSession.newCodexSession] at h
      split at h
      · cases List.mem_singleton.mp h
        exact .reset
      · cases h
  | resume i outcome => exact transmits_of_resume h

end Iphone

/-! ## Reading them back -/

def slashMember (key : String) (data : Bytes) : Json.Member :=
  ⟨ascii key, Json.quoteSlash data, .string data⟩

def versionMember : Json.Member := ⟨ascii "v", ascii "1", .number (ascii "1")⟩

/-- The members of the messages the iPhone sends. -/
def clientMembers (m : Iphone.ClientMessage) : List Json.Member :=
  let optional (key : String) (value : Option Bytes) : List Json.Member :=
    (value.map (slashMember key)).toList
  optional "control" (m.control.map ascii) ++ optional "prompt" m.prompt ++
    optional "request_id" m.requestID ++ [slashMember "session_id" m.sessionID] ++
    optional "text" m.text ++ [slashMember "type" (ascii m.type), versionMember]

theorem optionalMember_eq (key : String) (value : Option Bytes) :
    Iphone.optionalMember key value = (value.map (slashMember key)).toList.map printed := by
  cases value <;> rfl

/-- An encoded message of the iPhone is one object. -/
theorem clientEncode_eq {m : Iphone.ClientMessage} (hv : m.v = 1) :
    Iphone.encode m = Json.objectText ((clientMembers m).map printed) := by
  have hversion : Bmx1.ascii (toString m.v) = ascii "1" := by rw [hv]; decide
  simp only [Iphone.encode, Iphone.ClientMessage.members, clientMembers, optionalMember_eq,
    List.map_append, List.map_cons, List.map_nil, hversion]
  rfl

theorem good_slashMember {key : String} (hkey : Json.PlainKey (ascii key)) (data : Bytes) :
    (slashMember key data).Good :=
  ⟨hkey, Json.reads_quoteSlash data⟩

/-- Every member of a message of the iPhone is printed well. -/
theorem good_clientMembers (m : Iphone.ClientMessage) : ∀ x ∈ clientMembers m, x.Good := by
  have hoptional : ∀ {key : String} {value : Option Bytes} {x : Json.Member},
      Json.PlainKey (ascii key) → x ∈ (value.map (slashMember key)).toList → x.Good := by
    intro key value x hkey hx
    cases value with
    | none => cases hx
    | some data =>
        rw [List.mem_singleton.mp hx]
        exact good_slashMember hkey data
  intro x hx
  simp only [clientMembers, List.mem_append, List.mem_cons, List.not_mem_nil, or_false] at hx
  rcases hx with ((((hx | hx) | hx) | rfl) | hx) | rfl | rfl
  · exact hoptional (by decide) hx
  · exact hoptional (by decide) hx
  · exact hoptional (by decide) hx
  · exact good_slashMember (by decide) _
  · exact hoptional (by decide) hx
  · exact good_slashMember (by decide) _
  · exact ⟨by decide, Json.reads_number (by decide) (.inl (by decide)) (by decide)⟩

/-- An encoded message of the iPhone parses to its members. -/
theorem parse_clientEncode {m : Iphone.ClientMessage} (hv : m.v = 1) :
    Json.parse (Iphone.encode m) = some (.object (Json.values (clientMembers m))) := by
  have hne : clientMembers m ≠ [] := by simp [clientMembers]
  have h := Json.parse_objectText hne (good_clientMembers m) (show Json.skipSpace [] = [] from rfl)
  rw [List.append_nil] at h
  rw [clientEncode_eq hv]
  exact h

/-- What the Companion is to see of a message. -/
def received (m : Iphone.ClientMessage) : Companion.ClientMessage where
  version := m.v
  type := Companion.clientType (ascii m.type)
  sessionID := m.sessionID
  text := m.text.getD []
  interrupt := m.control = some "interrupt"
  prompt := m.prompt.getD []
  requestID := m.requestID.getD []

/-- The strings of a message are text. -/
structure ClientStrings (m : Iphone.ClientMessage) : Prop where
  sessionID : Utf8.valid m.sessionID = true
  text : ∀ x, m.text = some x → Utf8.valid x = true
  prompt : ∀ x, m.prompt = some x → Utf8.valid x = true
  requestID : ∀ x, m.requestID = some x → Utf8.valid x = true

section Fields

variable {msg : Companion.ClientMessage} {data : Bytes}

theorem setField_control :
    Companion.setField msg (ascii "control") (.string (ascii "interrupt")) =
      some { msg with interrupt := true } := rfl

theorem setField_prompt (hdata : Utf8.valid data = true) :
    Companion.setField msg (ascii "prompt") (.string data) = some { msg with prompt := data } := by
  show some { msg with prompt := Utf8.sanitize data } = _
  rw [Utf8.sanitize_of_valid hdata]

theorem setField_requestID (hdata : Utf8.valid data = true) :
    Companion.setField msg (ascii "request_id") (.string data) =
      some { msg with requestID := data } := by
  show some { msg with requestID := Utf8.sanitize data } = _
  rw [Utf8.sanitize_of_valid hdata]

theorem setField_sessionID (hdata : Utf8.valid data = true) :
    Companion.setField msg (ascii "session_id") (.string data) =
      some { msg with sessionID := data } := by
  show some { msg with sessionID := Utf8.sanitize data } = _
  rw [Utf8.sanitize_of_valid hdata]

theorem setField_text (hdata : Utf8.valid data = true) :
    Companion.setField msg (ascii "text") (.string data) = some { msg with text := data } := by
  show some { msg with text := Utf8.sanitize data } = _
  rw [Utf8.sanitize_of_valid hdata]

theorem setField_type (hdata : Utf8.valid data = true) :
    Companion.setField msg (ascii "type") (.string data) =
      some { msg with type := Companion.clientType data } := by
  show some { msg with type := Companion.clientType (Utf8.sanitize data) } = _
  rw [Utf8.sanitize_of_valid hdata]

theorem setField_version :
    Companion.setField msg (ascii "v") (.number (ascii "1")) = some { msg with version := 1 } := rfl

end Fields

/-- The companion reads a message as the iPhone meant it. -/
theorem unmarshal_encode {e : Iphone.TerminalEvent} {m : Iphone.ClientMessage}
    (h : Transmits e m) (hm : ClientStrings m) :
    Companion.unmarshal (Iphone.encode m) = some (received m) := by
  have hv : m.v = 1 := by cases h <;> rfl
  have hsession := hm.sessionID
  have htype : Utf8.valid (ascii m.type) = true := by cases h <;> rfl
  simp only [Companion.unmarshal, parse_clientEncode hv]
  cases h with
  | input hlen hfits =>
      have htext := hm.text _ rfl
      show Companion.setFields Companion.zeroMessage
        [(ascii "session_id", .string _), (ascii "text", .string _), (ascii "type", .string _),
          (ascii "v", .number (ascii "1"))] = _
      simp only [Companion.setFields, setField_sessionID hsession, setField_text htext,
        setField_type htype, setField_version, Option.bind_some]
      rfl
  | interrupt hfits =>
      show Companion.setFields Companion.zeroMessage
        [(ascii "control", .string (ascii "interrupt")), (ascii "session_id", .string _),
          (ascii "type", .string _), (ascii "v", .number (ascii "1"))] = _
      simp only [Companion.setFields, setField_control, setField_sessionID hsession,
        setField_type htype, setField_version, Option.bind_some]
      rfl
  | prompt hlen hfits =>
      have hprompt := hm.prompt _ rfl
      have hrequest := hm.requestID _ rfl
      show Companion.setFields Companion.zeroMessage
        [(ascii "prompt", .string _), (ascii "request_id", .string _),
          (ascii "session_id", .string _), (ascii "type", .string _),
          (ascii "v", .number (ascii "1"))] = _
      simp only [Companion.setFields, setField_prompt hprompt, setField_requestID hrequest,
        setField_sessionID hsession, setField_type htype, setField_version, Option.bind_some]
      rfl
  | cancel =>
      have hrequest := hm.requestID _ rfl
      show Companion.setFields Companion.zeroMessage
        [(ascii "request_id", .string _), (ascii "session_id", .string _),
          (ascii "type", .string _), (ascii "v", .number (ascii "1"))] = _
      simp only [Companion.setFields, setField_requestID hrequest, setField_sessionID hsession,
        setField_type htype, setField_version, Option.bind_some]
      rfl
  | reset =>
      show Companion.setFields Companion.zeroMessage
        [(ascii "session_id", .string _), (ascii "type", .string _),
          (ascii "v", .number (ascii "1"))] = _
      simp only [Companion.setFields, setField_sessionID hsession, setField_type htype,
        setField_version, Option.bind_some]
      rfl
  | close =>
      show Companion.setFields Companion.zeroMessage
        [(ascii "session_id", .string _), (ascii "type", .string _),
          (ascii "v", .number (ascii "1"))] = _
      simp only [Companion.setFields, setField_sessionID hsession, setField_type htype,
        setField_version, Option.bind_some]
      rfl

/-! ## Sizes -/

/-- Quoting multiplies the length by six at most, and adds the quotes. -/
theorem length_quoteSlash_le (data : Bytes) :
    (Json.quoteSlash data).length ≤ 6 * data.length + 2 := by
  have hbyte : ∀ b : UInt8, (Json.escapeSlashByte b).length ≤ 6 := by
    intro b
    unfold Json.escapeSlashByte
    split_ifs <;> simp [Json.escapeHex]
  have hescape : (Json.escapeSlash data).length ≤ 6 * data.length := by
    unfold Json.escapeSlash
    induction data with
    | nil => simp
    | cons b data ih =>
        have := hbyte b
        simp only [List.flatMap_cons, List.length_append, List.length_cons]
        omega
  simp only [Json.quoteSlash, List.length_cons, List.length_append, List.length_nil]
  omega

/-- A session id is 32 characters long. -/
theorem length_newSessionID (random : Vector UInt8 16) :
    (Companion.newSessionID random).length = 32 := by
  simp [Companion.newSessionID, List.length_flatMap]

/-- A UUID is 36 characters long. -/
theorem length_uuidString (uuid : Vector UInt8 16) : (Iphone.uuidString uuid).length = 36 := by
  simp [Iphone.uuidString, Iphone.hexPair, List.length_flatMap]

theorem upperHexDigit_ascii : ∀ n < (16 : Nat), Iphone.upperHexDigit (UInt8.ofNat n) < 0x80 := by
  decide

theorem valid_uuidString (uuid : Vector UInt8 16) : Utf8.valid (Iphone.uuidString uuid) = true := by
  have hdigit : ∀ n : UInt8, n < 16 → Iphone.upperHexDigit n < 0x80 := by
    intro n hn
    have := upperHexDigit_ascii n.toNat (UInt8.lt_iff_toNat_lt.mp hn)
    rwa [UInt8.ofNat_toNat] at this
  have hpair : ∀ x : UInt8, ∀ b ∈ Iphone.hexPair x, b < 0x80 := by
    intro x b hb
    rcases List.mem_cons.mp hb with rfl | hb
    · exact hdigit _ (Json.high_nibble_lt x)
    · rw [List.mem_singleton.mp hb]
      exact hdigit _ (Json.low_nibble_lt x)
  have hgroup : ∀ (xs : List UInt8), ∀ b ∈ xs.flatMap Iphone.hexPair, b < 0x80 := by
    intro xs b hb
    obtain ⟨x, -, hx⟩ := List.mem_flatMap.mp hb
    exact hpair x b hx
  refine Utf8.valid_ascii fun b hb => ?_
  simp only [Iphone.uuidString, List.mem_append, List.mem_cons] at hb
  rcases hb with (((hb | rfl | hb) | rfl | hb) | rfl | hb) | rfl | hb
  case inl.inl.inl.inl => exact hgroup _ b hb
  all_goals first
    | exact hgroup _ b hb
    | decide

/-- An object is as long as its members, with four characters for each. -/
theorem length_objectText_le (ms : List (List UInt8 × List UInt8)) :
    (Json.objectText ms).length ≤ (ms.map fun m => m.1.length + m.2.length + 4).sum + 2 := by
  have hcomma : ∀ m, (Json.commaMember m).length = m.1.length + m.2.length + 4 := by
    intro m
    simp only [Json.commaMember, Json.memberText, List.length_cons, List.length_append]
    omega
  cases ms with
  | nil => simp [Json.objectText, Json.membersText]
  | cons m ms =>
      have hm := hcomma m
      simp only [Json.commaMember, List.length_cons] at hm
      simp only [Json.objectText, Json.membersText_cons, List.length_cons, List.length_append,
        List.length_flatMap, hcomma, List.map_cons, List.sum_cons, List.length_nil]
      omega

/-- Every message is short enough for the Companion; the ones the iPhone
does not measure hold nothing but two ids. -/
theorem length_encode_le {e : Iphone.TerminalEvent} {m : Iphone.ClientMessage} (h : Transmits e m)
    {random : Vector UInt8 16} (hid : m.sessionID = Companion.newSessionID random) :
    (Iphone.encode m).length ≤ Companion.maxJSONMessage := by
  have hquote := length_quoteSlash_le m.sessionID
  rw [hid, length_newSessionID, ← hid] at hquote
  have hobject := length_objectText_le m.members
  have hconst : (Bmx1.ascii "request_id").length = 10 ∧ (Bmx1.ascii "session_id").length = 10 ∧
      (Bmx1.ascii "type").length = 4 ∧ (Bmx1.ascii "v").length = 1 ∧
      (Bmx1.ascii (toString 1)).length = 1 ∧
      (Json.quoteSlash (Bmx1.ascii "codex_cancel")).length = 14 ∧
      (Json.quoteSlash (Bmx1.ascii "codex_new_session")).length = 19 ∧
      (Json.quoteSlash (Bmx1.ascii "close")).length = 7 := by decide
  cases h with
  | input hlen hfits => exact of_decide_eq_true hfits
  | interrupt hfits => exact of_decide_eq_true hfits
  | prompt hlen hfits => exact of_decide_eq_true hfits
  | @cancel id uuid =>
      have hrequest := length_quoteSlash_le (Iphone.uuidString uuid)
      rw [length_uuidString] at hrequest
      refine hobject.trans ?_
      simp only [Iphone.ClientMessage.codexCancel, Iphone.ClientMessage.members,
        Iphone.optionalMember, Option.map_none, List.nil_append, List.cons_append, List.map_cons,
        List.map_nil, List.sum_cons, List.sum_nil, hconst, Companion.maxJSONMessage] at hquote ⊢
      omega
  | @reset id =>
      refine hobject.trans ?_
      simp only [Iphone.ClientMessage.codexNewSession, Iphone.ClientMessage.members,
        Iphone.optionalMember, Option.map_none, List.nil_append, List.cons_append, List.map_cons,
        List.map_nil, List.sum_cons, List.sum_nil, hconst, Companion.maxJSONMessage] at hquote ⊢
      omega
  | @close id i =>
      refine hobject.trans ?_
      simp only [Iphone.ClientMessage.close, Iphone.ClientMessage.members,
        Iphone.optionalMember, Option.map_none, List.nil_append, List.cons_append, List.map_cons,
        List.map_nil, List.sum_cons, List.sum_nil, hconst, Companion.maxJSONMessage] at hquote ⊢
      omega

/-! ## What the Companion does with them -/

/-- An error of the session makes the iPhone close it. -/
theorem error_closes {s : Iphone.TerminalSession} {random : Vector UInt8 16}
    (hstate : s.state = .connected (Companion.newSessionID random)) (code : Code)
    (messageGeneration : Nat) :
    s.handle
        (Companion.encode
          { type := .error, sessionID := Companion.newSessionID random, error := some code })
        messageGeneration =
      s.giveUp (Iphone.TerminalSession.errorText (ascii code.text) (ascii code.message)) := by
  have hcurrent : s.currentSessionID = some (Companion.newSessionID random) := by
    simp only [Iphone.TerminalSession.currentSessionID, hstate]
  have hfits : Companion.Fits
      { type := .error, sessionID := Companion.newSessionID random, error := some code } :=
    Companion.fits_of_text (Nat.le_of_eq (Companion.escapedSize_newSessionID random)) rfl
      (show 0 ≤ 6 * 1024 by decide)
  have hjson : (Companion.encode _).length ≤ Iphone.TerminalProtocolLimits.jsonMessageBytes := hfits
  have hframe := Nat.le_trans hjson
    (show _ ≤ Iphone.TerminalProtocolLimits.webSocketMessageBytes by decide)
  have hdecoded := decode_corresponds (.error (Companion.newSessionID random) code)
    ⟨valid_newSessionID random, rfl, rfl⟩ (.inr rfl)
  unfold Iphone.TerminalSession.handle
  rw [if_neg (Nat.not_lt.mpr hframe), if_neg (Nat.not_lt.mpr hjson), hcurrent, hdecoded]
  simp [Iphone.TerminalSession.handleDecoded, hcurrent]

/-- The other end of a connection. -/
inductive Peer where
  | terminal (session : Companion.Session)
  | mirror (mirror : Companion.Mirror)

/-- The settings of the session a message is for. -/
def config (m : Iphone.ClientMessage) : Companion.Config :=
  Companion.defaultConfig m.sessionID Companion.unmarshal

/-- The session finds the message not too large, decodes it to the same
fields and does not answer it with an error. -/
structure AcceptedBy (s : Companion.Session) (m : Iphone.ClientMessage) : Prop where
  size : (Iphone.encode m).length ≤ (config m).maxJSONBytes
  decoded : Companion.decodeClientMessage ((config m).unmarshal (Iphone.encode m)) =
    .ok (received m)
  answer : Companion.errorAnswer (config m) s (Iphone.encode m) = none

/-- The mirror, when its loop takes the message, accepts it if it does not
answer with an error. -/
def Accepted (m : Iphone.ClientMessage) : Peer → Prop
  | .terminal s => AcceptedBy s m
  | .mirror mirror =>
      ∀ x ∈ (Companion.mirrorStep m.sessionID { mirror with pc := .select }
        (.clientMessage true)).2, x.error = none

/-- The other end is a terminal, the text or the prompt is not empty, and
there is room for what is typed. -/
def Welcome (m : Iphone.ClientMessage) : Peer → Prop
  | .terminal s =>
      m.text ≠ some [] ∧ m.prompt ≠ some [] ∧
        (m.text ≠ none ∨ m.control ≠ none → s.input.length < 8)
  | .mirror _ => False

theorem uuidString_ne_nil (uuid : Vector UInt8 16) : Iphone.uuidString uuid ≠ [] := by
  intro h
  have hlen := length_uuidString uuid
  rw [h] at hlen
  cases hlen

/-- `decodeClientMessage` wants a text or a prompt that is not empty. -/
theorem decode_received {e : Iphone.TerminalEvent} {m : Iphone.ClientMessage} (h : Transmits e m)
    (hsession : m.sessionID ≠ []) :
    Companion.decodeClientMessage (some (received m)) =
      if m.text = some [] ∨ m.prompt = some [] then .error .malformedMessage
      else .ok (received m) := by
  have hsession' : (received m).sessionID ≠ [] := hsession
  have hversion : (received m).version = Companion.protocolVersion := by cases h <;> rfl
  unfold Companion.decodeClientMessage
  simp only [hversion, hsession', ne_eq, not_true_eq_false, if_false, or_false]
  cases h with
  | @input id text hlen hfits =>
      show (if text = [] then _ else _) = _
      simp [Iphone.ClientMessage.input]
  | interrupt hfits => rfl
  | @prompt id prompt uuid hlen hfits =>
      show (if prompt = [] ∨ Iphone.uuidString uuid = [] then _ else _) = _
      simp [Iphone.ClientMessage.codexPrompt, uuidString_ne_nil]
  | @cancel id uuid =>
      show (if Iphone.uuidString uuid = [] then _ else _) = _
      rw [if_neg (uuidString_ne_nil uuid)]
      rfl
  | reset => rfl
  | close => rfl

theorem newSessionID_ne_nil (random : Vector UInt8 16) : Companion.newSessionID random ≠ [] := by
  intro h
  have hlen := length_newSessionID random
  rw [h] at hlen
  cases hlen

/-- The strings of an event are text, as the strings of Swift are. -/
def TextEvent : Iphone.TerminalEvent → Prop
  | .sendInput text => Utf8.valid text = true
  | .sendCodexPrompt prompt _ => Utf8.valid prompt = true
  | _ => True

/-- Every string of a message that is sent is valid. -/
theorem clientStrings {e : Iphone.TerminalEvent} {m : Iphone.ClientMessage} (h : Transmits e m)
    (he : TextEvent e) {random : Vector UInt8 16}
    (hid : m.sessionID = Companion.newSessionID random) : ClientStrings m := by
  have hsession : Utf8.valid m.sessionID = true := by rw [hid]; exact valid_newSessionID random
  cases h with
  | input hlen hfits => exact ⟨hsession, fun _ hx => Option.some.inj hx ▸ he, nofun, nofun⟩
  | interrupt hfits => exact ⟨hsession, nofun, nofun, nofun⟩
  | @prompt id prompt uuid hlen hfits =>
      exact ⟨hsession, nofun, fun _ hx => Option.some.inj hx ▸ he,
        fun _ hx => Option.some.inj hx ▸ valid_uuidString uuid⟩
  | @cancel id uuid =>
      exact ⟨hsession, nofun, nofun, fun _ hx => Option.some.inj hx ▸ valid_uuidString uuid⟩
  | reset => exact ⟨hsession, nofun, nofun, nofun⟩
  | close => exact ⟨hsession, nofun, nofun, nofun⟩

/-- An input or an interrupt needs room in the queue. -/
theorem errorAnswer_received {e : Iphone.TerminalEvent} {m : Iphone.ClientMessage}
    (h : Transmits e m) {s : Companion.Session} {cfg : Companion.Config} {data : Bytes}
    (haction : Companion.clientAction cfg data = (received m).action) :
    Companion.errorAnswer cfg s data =
      if (m.text ≠ none ∨ m.control ≠ none) ∧ ¬ s.input.length < cfg.inputQueueCapacity then
        some .inputOverflow
      else none := by
  unfold Companion.errorAnswer
  rw [haction]
  cases h with
  | input hlen hfits =>
      show (if s.input.length < cfg.inputQueueCapacity then none else some Code.inputOverflow) = _
      by_cases hroom : s.input.length < cfg.inputQueueCapacity <;>
        simp [Iphone.ClientMessage.input, hroom]
  | interrupt hfits =>
      show (if s.input.length < cfg.inputQueueCapacity then none else some Code.inputOverflow) = _
      by_cases hroom : s.input.length < cfg.inputQueueCapacity <;>
        simp [Iphone.ClientMessage.interrupt, hroom]
  | prompt hlen hfits => rfl
  | cancel => rfl
  | reset => rfl
  | close => rfl

/-- The companion accepts what is sent exactly if its state welcomes it. -/
theorem acceptedBy_iff {e : Iphone.TerminalEvent} {m : Iphone.ClientMessage}
    (h : Transmits e m) (he : TextEvent e) {random : Vector UInt8 16}
    (hid : m.sessionID = Companion.newSessionID random) (s : Companion.Session) :
    AcceptedBy s m ↔ Welcome m (.terminal s) := by
  have hunmarshal : (config m).unmarshal (Iphone.encode m) = some (received m) :=
    unmarshal_encode h (clientStrings h he hid)
  have hsize : (Iphone.encode m).length ≤ (config m).maxJSONBytes := length_encode_le h hid
  have hdecode := decode_received h (by rw [hid]; exact newSessionID_ne_nil random)
  have htext : (received m).text.length ≤ (config m).maxInputBytes := by
    cases h with
    | input hlen hfits => exact hlen
    | _ => exact Nat.zero_le _
  have hprompt : (received m).prompt.length ≤ Companion.defaultCodexPrompt := by
    cases h with
    | prompt hlen hfits => exact hlen
    | _ => exact Nat.zero_le _
  have hanswer : Companion.decodeClientMessage ((config m).unmarshal (Iphone.encode m)) =
      .ok (received m) →
      (Companion.errorAnswer (config m) s (Iphone.encode m) = none ↔
        (m.text ≠ none ∨ m.control ≠ none → s.input.length < 8)) := by
    intro hmsg
    have hcapacity : (config m).inputQueueCapacity = 8 := rfl
    rw [errorAnswer_received h (Companion.clientAction_of_decoded hsize hmsg htext hprompt rfl),
      hcapacity]
    simp only [ite_eq_right_iff, reduceCtorEq, imp_false, not_and, not_not]
  rw [hunmarshal] at hanswer
  constructor
  · rintro ⟨-, hdecoded, hnone⟩
    rw [hunmarshal] at hdecoded
    have hgood : ¬ (m.text = some [] ∨ m.prompt = some []) := by
      intro hempty
      rw [hdecode, if_pos hempty] at hdecoded
      cases hdecoded
    exact ⟨fun h => hgood (.inl h), fun h => hgood (.inr h), (hanswer hdecoded).mp hnone⟩
  · rintro ⟨hnotext, hnoprompt, hroom⟩
    have hdecoded : Companion.decodeClientMessage (some (received m)) = .ok (received m) := by
      rw [hdecode, if_neg (not_or.mpr ⟨hnotext, hnoprompt⟩)]
    exact ⟨hsize, by rw [hunmarshal, hdecoded], (hanswer hdecoded).mpr hroom⟩

/-- The mirror accepts nothing. -/
theorem mirror_refuses (m : Iphone.ClientMessage) (mirror : Companion.Mirror) :
    ¬ Accepted m (.mirror mirror) := by
  intro h
  have hanswer := h (Companion.mirrorError m.sessionID .mirrorReadOnly)
    (List.mem_singleton.mpr rfl)
  cases hanswer

/-- **Exactly these messages of the iPhone are accepted**: those to a
terminal whose text or prompt is not empty, and for which the input queue
has room if they are typed. -/
theorem client_messages_accepted (es : List Iphone.TerminalEvent) (hes : ∀ e ∈ es, TextEvent e)
    (socket : Nat) (m : Iphone.ClientMessage) (h : .sent socket m ∈ Iphone.terminalMachine.trace es)
    (random : Vector UInt8 16) (hid : m.sessionID = Companion.newSessionID random) (peer : Peer) :
    Accepted m peer ↔ Welcome m peer := by
  obtain ⟨pre, e, post, rfl, hsent⟩ := Iphone.terminalMachine.mem_trace h
  have htransmits : Transmits e m := transmits_of_sent hsent
  cases peer with
  | terminal s => exact acceptedBy_iff htransmits (hes e (by simp)) hid s
  | mirror mirror => exact iff_of_false (mirror_refuses m mirror) id

def someSession : Bytes := Companion.newSessionID (.replicate 16 0)

/-- A connection to a terminal that was greeted. -/
def greetedEvents : List Iphone.TerminalEvent :=
  [.connect true, .resume 0 .done,
    .resume 0 (.message (Companion.encode { type := .hello, sessionID := someSession }))]

theorem textEvent_greeted : ∀ e ∈ greetedEvents, TextEvent e := by
  simp [greetedEvents, TextEvent]

theorem client_messages_accepted_line :
    Accepted (.input someSession (ascii "ls\n")) (.terminal Companion.newSession) := by
  have htext : ∀ e ∈ greetedEvents ++ [.sendInput (ascii "ls\n")], TextEvent e := by
    intro e he
    rcases List.mem_append.mp he with he | he
    · exact textEvent_greeted e he
    · rw [List.mem_singleton.mp he]
      show Utf8.valid (ascii "ls\n") = true
      decide
  refine (client_messages_accepted _ htext 0 _ (by decide +kernel) (.replicate 16 0) rfl _).mpr ?_
  exact ⟨by decide, nofun, fun _ => by decide⟩

/-- An empty line is sent to the Companion and not accepted. -/
theorem empty_input_refused :
    .sent 0 (.input someSession []) ∈
        Iphone.terminalMachine.trace (greetedEvents ++ [.sendInput []]) ∧
      ¬ Accepted (.input someSession []) (.terminal Companion.newSession) := by
  have hinput : Transmits (.sendInput []) (.input someSession []) :=
    .input (by decide) (by decide +kernel)
  have hid : (Iphone.ClientMessage.input someSession []).sessionID =
      Companion.newSessionID (.replicate 16 0) := rfl
  refine ⟨by decide +kernel, fun h => ?_⟩
  exact ((acceptedBy_iff hinput (show Utf8.valid [] = true from rfl) hid _).mp h).1 rfl

end Bootmux.Terminal
