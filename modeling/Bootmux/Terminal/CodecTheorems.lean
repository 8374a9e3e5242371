/-
Bootmux.Terminal.CodecTheorems — the messages the Companion and the iPhone
send each other, as the other end reads them.

Each direction has its own printer (`encoding/json` with the tags of the
struct, `JSONEncoder` with sorted keys) and its own reader, so a message
is first written as the list of its members. `Corresponds` lists the
messages the Companion makes, with the case of `ServerMessage` each one
stands for: no text and no request id of theirs is empty, so that
`omitempty` drops no key the iPhone looks for.

The library for JSON has the round trip of a printed object; what is left to
this module is that the members are printed well, that each is found under
its key, and what the switch of the iPhone makes of the type. Numbers come
up once, in the exit code, which may be negative.
-/
import Bootmux.Companion.Mirror
import Bootmux.Companion.RequestTheorems
import Bootmux.Iphone.TerminalProtocol

namespace Bootmux.Terminal

open Bootmux.Lib
open Bootmux.Companion (Bytes ascii Code ExitCode)

/-! ## The Companion's messages as members -/

def stringMember (key : String) (data : Bytes) : Json.Member :=
  ⟨ascii key, Json.quote data, .string data⟩

/-- A string field under `omitempty`. -/
def optionalMember (key : String) (data : Bytes) : List Json.Member :=
  if data = [] then [] else [stringMember key data]

def exitCodeMember (code : Option ExitCode) : List Json.Member :=
  match code with
  | none => []
  | some code => [⟨ascii "exit_code", code.text, .number code.text⟩]

def serverMembers (m : Companion.ServerMessage) : List Json.Member :=
  ⟨ascii "v", ascii "1", .number (ascii "1")⟩ ::
    (stringMember "type" (ascii m.type.text) :: stringMember "session_id" m.sessionID ::
      (optionalMember "stream" ((m.stream.map (ascii ·.text)).getD []) ++
        optionalMember "text" m.text ++ exitCodeMember m.exitCode ++
        optionalMember "code" ((m.error.map (ascii ·.text)).getD []) ++
        optionalMember "message" ((m.error.map (ascii ·.message)).getD []) ++
        optionalMember "request_id" m.requestID))

/-- A member as it is printed. -/
def printed (m : Json.Member) : Bytes × Bytes := (m.key, m.literal)

/-- A field of the companion's text is an optional member, behind a comma. -/
theorem stringField_eq {tag : String} (key : String) (data : Bytes)
    (htag : ascii tag = 0x2C :: 0x22 :: (ascii key ++ [0x22, 0x3A])) :
    Companion.stringField tag data =
      ((optionalMember key data).map printed).flatMap Json.commaMember := by
  unfold Companion.stringField optionalMember
  split
  · rfl
  · simp [Companion.field, htag, stringMember, printed, Json.commaMember, Json.memberText]

/-- An encoded message is one object and a newline. -/
theorem encode_eq (m : Companion.ServerMessage) :
    Companion.encode m = Json.objectText ((serverMembers m).map printed) ++ [0x0A] := by
  have hopen : ascii "\x7b\"v\":1" = 0x7B :: Json.memberText (ascii "v") (ascii "1") := by decide
  have hclose : ascii "\x7d\n" = [0x7D, 0x0A] := by decide
  have htype : ∀ data, Companion.field ",\"type\":" (Json.quote data) =
      Json.commaMember (ascii "type", Json.quote data) := fun _ => rfl
  have hsession : ∀ data, Companion.field ",\"session_id\":" (Json.quote data) =
      Json.commaMember (ascii "session_id", Json.quote data) := fun _ => rfl
  have hexit : ∀ code : ExitCode, Companion.field ",\"exit_code\":" code.text =
      Json.commaMember (ascii "exit_code", code.text) := fun _ => rfl
  unfold Companion.encode
  rw [stringField_eq "stream" _ (by decide), stringField_eq "text" _ (by decide),
    stringField_eq "code" _ (by decide), stringField_eq "message" _ (by decide),
    stringField_eq "request_id" _ (by decide), htype, hsession, hopen, hclose]
  simp only [Json.objectText, serverMembers, List.map_cons, Json.membersText_cons, List.map_append,
    List.flatMap_cons, List.flatMap_append, printed, stringMember, List.cons_append,
    List.append_assoc, List.nil_append]
  cases m.exitCode with
  | none => rfl
  | some code => simp [exitCodeMember, printed, hexit]

/-! ## Reading them -/

/-- The number an exit code is. -/
def exitValue : ExitCode → Int
  | .unknown => -1
  | .status n => n.toNat

/-- The digits of an exit status are a number and have its value. -/
theorem status_digits : ∀ n < 256,
    (ExitCode.status (UInt8.ofNat n)).text.all Json.isNumberByte = true ∧
      (ExitCode.status (UInt8.ofNat n)).text.head?.any Json.isDigit = true ∧
      Json.isNumber (ExitCode.status (UInt8.ofNat n)).text = true ∧
      (Json.Value.number (ExitCode.status (UInt8.ofNat n)).text).int? =
        some ((UInt8.ofNat n).toNat : Int) := by
  decide +kernel

theorem reads_exitCode (code : ExitCode) : Json.Reads code.text (.number code.text) := by
  cases code with
  | unknown => exact Json.reads_number (by decide) (.inr rfl) (by decide)
  | status n =>
      obtain ⟨hbytes, hfirst, hnumber, -⟩ := status_digits n.toNat n.toNat_lt
      rw [UInt8.ofNat_toNat] at hbytes hfirst hnumber
      cases htext : (ExitCode.status n).text with
      | nil => rw [htext] at hfirst; cases hfirst
      | cons b text =>
          rw [htext] at hbytes hfirst hnumber
          exact Json.reads_number (List.all_eq_true.mp hbytes) (.inl hfirst) hnumber

theorem int_exitCode (code : ExitCode) :
    (Json.Value.number code.text).int? = some (exitValue code) := by
  cases code with
  | unknown => decide
  | status n =>
      have := (status_digits n.toNat n.toNat_lt).2.2.2
      rwa [UInt8.ofNat_toNat] at this

theorem valid_type (t : Companion.MessageType) : Utf8.valid (ascii t.text) = true := by
  cases t <;> decide

theorem valid_stream (x : Companion.Stream) : Utf8.valid (ascii x.text) = true := by
  cases x <;> decide

theorem valid_code (c : Code) :
    Utf8.valid (ascii c.text) = true ∧ Utf8.valid (ascii c.message) = true := by
  cases c <;> decide

/-- The strings of a message are text. -/
structure ValidStrings (m : Companion.ServerMessage) : Prop where
  sessionID : Utf8.valid m.sessionID = true
  text : Utf8.valid m.text = true
  requestID : Utf8.valid m.requestID = true

theorem good_stringMember {key : String} (hkey : Json.PlainKey (ascii key)) {data : Bytes}
    (hdata : Utf8.valid data = true) : (stringMember key data).Good :=
  ⟨hkey, Json.reads_quote hdata⟩

theorem good_optionalMember {key : String} (hkey : Json.PlainKey (ascii key)) {data : Bytes}
    (hdata : Utf8.valid data = true) : ∀ m ∈ optionalMember key data, m.Good := by
  unfold optionalMember
  split
  · simp
  · intro m hm
    rw [List.mem_singleton.mp hm]
    exact good_stringMember hkey hdata

/-- Every member of a message with valid strings is printed well. -/
theorem good_serverMembers {m : Companion.ServerMessage} (hm : ValidStrings m) :
    ∀ x ∈ serverMembers m, x.Good := by
  have hstream : Utf8.valid ((m.stream.map (ascii ·.text)).getD []) = true := by
    cases m.stream with
    | none => rfl
    | some x => exact valid_stream x
  have hcode : Utf8.valid ((m.error.map (ascii ·.text)).getD []) = true := by
    cases m.error with
    | none => rfl
    | some c => exact (valid_code c).1
  have hmessage : Utf8.valid ((m.error.map (ascii ·.message)).getD []) = true := by
    cases m.error with
    | none => rfl
    | some c => exact (valid_code c).2
  have hexit : ∀ x ∈ exitCodeMember m.exitCode, x.Good := by
    cases m.exitCode with
    | none => simp [exitCodeMember]
    | some code =>
        intro x hx
        rw [List.mem_singleton.mp hx]
        exact ⟨show Json.PlainKey (ascii "exit_code") by decide, reads_exitCode code⟩
  intro x hx
  simp only [serverMembers, List.mem_cons, List.mem_append] at hx
  rcases hx with rfl | rfl | rfl | ((((hx | hx) | hx) | hx) | hx) | hx
  · exact ⟨by decide, Json.reads_number (by decide) (.inl (by decide)) (by decide)⟩
  · exact good_stringMember (by decide) (valid_type _)
  · exact good_stringMember (by decide) hm.sessionID
  · exact good_optionalMember (by decide) hstream x hx
  · exact good_optionalMember (by decide) hm.text x hx
  · exact hexit x hx
  · exact good_optionalMember (by decide) hcode x hx
  · exact good_optionalMember (by decide) hmessage x hx
  · exact good_optionalMember (by decide) hm.requestID x hx

/-- An encoded message parses to its members. -/
theorem parse_encode {m : Companion.ServerMessage} (hm : ValidStrings m) :
    Json.parse (Companion.encode m) = some (.object (Json.values (serverMembers m))) := by
  rw [encode_eq]
  exact Json.parse_objectText (by simp [serverMembers]) (good_serverMembers hm) (by decide)

/-! ## What the iPhone makes of them -/

/-- A message the Companion makes and the case it stands for. -/
inductive Corresponds : Companion.ServerMessage → Iphone.ServerMessage → Prop
  | hello (id : Bytes) : Corresponds { type := .hello, sessionID := id } (.hello id)
  | output (id : Bytes) {text : Bytes} (htext : text ≠ []) :
      Corresponds { type := .output, sessionID := id, stream := some .pty, text }
        (.output id text)
  | exit (id : Bytes) (code : ExitCode) :
      Corresponds { type := .exit, sessionID := id, exitCode := some code }
        (.exit id (exitValue code))
  | error (id : Bytes) (code : Code) :
      Corresponds { type := .error, sessionID := id, error := some code }
        (.error id (ascii code.text) (ascii code.message))
  | codexStarted (id : Bytes) {requestID : Bytes} (hrequest : requestID ≠ []) :
      Corresponds { type := .codexStarted, sessionID := id, requestID }
        (.codexStarted id requestID)
  | codexOutput (id : Bytes) {requestID text : Bytes} (hrequest : requestID ≠ [])
      (htext : text ≠ []) :
      Corresponds { type := .codexOutput, sessionID := id, requestID, text }
        (.codexOutput id requestID text)
  | codexExit (id : Bytes) {requestID : Bytes} (hrequest : requestID ≠ []) (code : ExitCode) :
      Corresponds { type := .codexExit, sessionID := id, exitCode := some code, requestID }
        (.codexExit id requestID (exitValue code))
  | codexError (id : Bytes) {requestID : Bytes} (hrequest : requestID ≠ []) (code : Code) :
      Corresponds { type := .codexError, sessionID := id, error := some code, requestID }
        (.codexError id requestID (ascii code.text) (ascii code.message))
  | mirrorHello (id : Bytes) :
      Corresponds { type := .mirrorHello, sessionID := id, stream := some .hidMirror }
        (.mirrorHello id)
  | mirrorOutput (id : Bytes) {text : Bytes} (htext : text ≠ []) :
      Corresponds { type := .mirrorOutput, sessionID := id, stream := some .hidMirror, text }
        (.mirrorOutput id text)
  | mirrorError (id : Bytes) (code : Code) :
      Corresponds
        { type := .mirrorError, sessionID := id, stream := some .hidMirror, error := some code }
        (.mirrorError id (ascii code.text) (ascii code.message))

/-- An optional member has its key, if it is there. -/
theorem key_optionalMember {key : String} {data : Bytes} {m : Json.Member}
    (hm : m ∈ optionalMember key data) : m.key = ascii key := by
  unfold optionalMember at hm
  split at hm
  · cases hm
  · rw [List.mem_singleton.mp hm]
    rfl

/-- The keys after the first three. -/
theorem key_serverMembers {m : Companion.ServerMessage} {x : Json.Member}
    (hx : x ∈ (serverMembers m).drop 3) :
    x.key ∈ ["stream", "text", "exit_code", "code", "message", "request_id"].map ascii := by
  simp only [serverMembers, List.drop_succ_cons, List.drop_zero, List.mem_append] at hx
  rcases hx with ((((hx | hx) | hx) | hx) | hx) | hx
  · simp [key_optionalMember hx]
  · simp [key_optionalMember hx]
  · unfold exitCodeMember at hx
    split at hx
    · cases hx
    · rw [List.mem_singleton.mp hx]
      simp
  · simp [key_optionalMember hx]
  · simp [key_optionalMember hx]
  · simp [key_optionalMember hx]

/-- A key that is not among the later ones is found among the first three. -/
theorem get_serverMembers (m : Companion.ServerMessage) {key : Bytes}
    (hkey : key ∉ ["stream", "text", "exit_code", "code", "message", "request_id"].map ascii) :
    (Json.Value.object (Json.values (serverMembers m))).get? key =
      (Json.Value.object (Json.values ((serverMembers m).take 3))).get? key := by
  have hnone : (Json.values ((serverMembers m).drop 3)).reverse.find? (·.1 == key) = none := by
    rw [List.find?_eq_none]
    intro x hx heq
    rw [List.mem_reverse, Json.values, List.mem_map] at hx
    obtain ⟨y, hy, rfl⟩ := hx
    exact hkey (beq_iff_eq.mp heq ▸ key_serverMembers hy)
  have hsplit : Json.values (serverMembers m) =
      Json.values ((serverMembers m).take 3) ++ Json.values ((serverMembers m).drop 3) := by
    rw [Json.values, Json.values, Json.values, ← List.map_append, List.take_append_drop]
  rw [Json.Value.get?, Json.Value.get?, hsplit, List.reverse_append, List.find?_append, hnone,
    Option.none_or]

/-- The fields every message has, and the session check. -/
theorem decodeServer_encode {m : Companion.ServerMessage} (hm : ValidStrings m)
    {expected : Option Bytes} (hexpected : expected = none ∨ expected = some m.sessionID) :
    Iphone.decodeServer (Companion.encode m) expected =
      Iphone.decodeCase (.object (Json.values (serverMembers m))) (ascii m.type.text)
        m.sessionID := by
  have hsession : expected.any (· ≠ m.sessionID) = false := by
    rcases hexpected with rfl | rfl <;> simp
  have hv : Iphone.intAt (.object (Json.values (serverMembers m))) "v" = some 1 := by
    rw [Iphone.intAt, get_serverMembers m (show Bmx1.ascii "v" ∉ _ by decide)]
    rfl
  have htype : Iphone.stringAt (.object (Json.values (serverMembers m))) "type" =
      some (ascii m.type.text) := by
    rw [Iphone.stringAt, get_serverMembers m (show Bmx1.ascii "type" ∉ _ by decide)]
    rfl
  have hid : Iphone.stringAt (.object (Json.values (serverMembers m))) "session_id" =
      some m.sessionID := by
    rw [Iphone.stringAt, get_serverMembers m (show Bmx1.ascii "session_id" ∉ _ by decide)]
    rfl
  unfold Iphone.decodeServer
  simp only [parse_encode hm, hv, htype, hid, Iphone.version, hsession]
  simp

/-- A member that is not empty is there. -/
theorem optionalMember_of_ne {key : String} {data : Bytes} (h : data ≠ []) :
    optionalMember key data = [stringMember key data] :=
  if_neg h

theorem optionalMember_code (c : Code) (key : String) :
    optionalMember key (ascii c.text) = [stringMember key (ascii c.text)] :=
  optionalMember_of_ne (by cases c <;> decide)

theorem optionalMember_message (c : Code) (key : String) :
    optionalMember key (ascii c.message) = [stringMember key (ascii c.message)] :=
  optionalMember_of_ne (by cases c <;> decide)

/-- Each message is decoded to the case it stands for. -/
theorem decode_corresponds {m : Companion.ServerMessage} {m' : Iphone.ServerMessage}
    (h : Corresponds m m') (hm : ValidStrings m) {expected : Option Bytes}
    (hexpected : expected = none ∨ expected = some m.sessionID) :
    Iphone.decodeServer (Companion.encode m) expected = .ok m' := by
  rw [decodeServer_encode hm hexpected]
  cases h with
  | hello id => rfl
  | output id htext =>
      simp only [serverMembers, optionalMember_of_ne htext]
      rfl
  | exit id code =>
      show Iphone.orMalformed ((Json.Value.number code.text).int?.map _) = _
      rw [int_exitCode]
      rfl
  | error id code =>
      simp only [serverMembers, Option.map_some, Option.getD_some, optionalMember_code,
        optionalMember_message]
      rfl
  | codexStarted id hrequest =>
      simp only [serverMembers, optionalMember_of_ne hrequest]
      rfl
  | codexOutput id hrequest htext =>
      simp only [serverMembers, optionalMember_of_ne hrequest, optionalMember_of_ne htext]
      rfl
  | codexExit id hrequest code =>
      simp only [serverMembers, optionalMember_of_ne hrequest]
      show Iphone.orMalformed ((Json.Value.number code.text).int?.map _) = _
      rw [int_exitCode]
      rfl
  | codexError id hrequest code =>
      simp only [serverMembers, Option.map_some, Option.getD_some, optionalMember_code,
        optionalMember_message, optionalMember_of_ne hrequest]
      rfl
  | mirrorHello id => rfl
  | mirrorOutput id htext =>
      simp only [serverMembers, optionalMember_of_ne htext]
      rfl
  | mirrorError id code =>
      simp only [serverMembers, Option.map_some, Option.getD_some, optionalMember_code,
        optionalMember_message]
      rfl

/-! ## The messages the Companion makes -/

/-- A message with the case the iPhone decodes it to. -/
def Decoded (m : Companion.ServerMessage) : Prop :=
  ∃ m', Corresponds m m' ∧ ∀ expected, expected = none ∨ expected = some m.sessionID →
    Iphone.decodeServer (Companion.encode m) expected = .ok m'

/-- Corresponding messages are decoded to each other. -/
theorem Corresponds.decoded {m : Companion.ServerMessage} {m' : Iphone.ServerMessage}
    (h : Corresponds m m') (hm : ValidStrings m) : Decoded m :=
  ⟨m', h, fun _ hexpected => decode_corresponds h hm hexpected⟩

theorem valid_newSessionID (random : Vector UInt8 16) :
    Utf8.valid (Companion.newSessionID random) = true := by
  refine Utf8.valid_ascii fun b hb => ?_
  obtain ⟨x, -, hx⟩ := List.mem_flatMap.mp hb
  rcases List.mem_cons.mp hx with rfl | hx
  · exact (Json.hexDigit_plain (Json.high_nibble_lt x)).1
  · rw [List.mem_singleton.mp hx]
    exact (Json.hexDigit_plain (Json.low_nibble_lt x)).1

section Session

variable {cfg : Companion.Config} {s : Companion.Session} {e : Companion.SessionEvent}

theorem error_decoded (hid : Utf8.valid cfg.sessionID = true) (code : Code) (written : Bool) :
    Decoded (Companion.errorMessage cfg code written).message :=
  (Corresponds.error cfg.sessionID code).decoded ⟨hid, rfl, rfl⟩

theorem codexError_decoded (hid : Utf8.valid cfg.sessionID = true) {requestID : Bytes}
    (hrequest : Companion.Named requestID) (code : Code) :
    Decoded (Companion.codexErrorMessage cfg requestID code).message :=
  (Corresponds.codexError cfg.sessionID hrequest.ne_nil code).decoded ⟨hid, rfl, hrequest.valid⟩

/-- The end of a run is an exit or an error. -/
theorem terminalMessage_decoded {r : Companion.CodexRun} {sessionID : Bytes}
    {m : Companion.ServerMessage} (hid : Utf8.valid sessionID = true)
    (hrequest : Companion.Named r.requestID) (h : r.terminalMessage sessionID = some m) :
    Decoded m := by
  have herror : ∀ code : Code,
      some { type := .codexError, sessionID, error := some code, requestID := r.requestID } =
        some m → Decoded m := by
    intro code h
    obtain rfl := Option.some.inj h
    exact (Corresponds.codexError sessionID hrequest.ne_nil code).decoded
      ⟨hid, rfl, hrequest.valid⟩
  unfold Companion.CodexRun.terminalMessage at h
  simp only at h
  split at h
  · cases h
  · cases h
  · exact herror _ h
  · exact herror _ h
  · exact herror _ h
  all_goals
    split at h
    · exact herror _ h
    · exact herror _ h
    · obtain rfl := Option.some.inj h
      exact (Corresponds.codexExit sessionID hrequest.ne_nil _).decoded
        ⟨hid, rfl, hrequest.valid⟩

/-- What Codex wrote is passed on as valid text. -/
theorem text_of_codexWrite {total : Nat} {data text : Bytes}
    (h : Companion.codexWrite total data = .text text) : data ≠ [] ∧ text = Utf8.toValid data := by
  unfold Companion.codexWrite at h
  split at h
  · cases h
  · rename_i hlen
    split at h
    · cases h
    · cases h
      exact ⟨fun hnil => hlen (by rw [hnil]; rfl), rfl⟩

theorem sendable_decoded (hid : Utf8.valid cfg.sessionID = true)
    (hwf : Companion.CodexWf s.codex) (hs : Companion.NamedRequests s)
    {origin : Companion.Origin} {item : Companion.OutboundMessage}
    (h : Companion.Sendable cfg s e origin item) : Decoded item.message := by
  have hrequestID : ∀ i, s.run.onRun = some i → Companion.Named (s.requestID i) := by
    intro i hi
    have hr := List.getElem?_eq_getElem (hwf.onRun hi)
    rw [Companion.Session.requestID, show s.runs[i]? = _ from hr]
    exact hs.runs i _ hr
  cases h with
  | hello => exact (Corresponds.hello cfg.sessionID).decoded ⟨hid, rfl, rfl⟩
  | error code written => exact error_decoded hid code written
  | busy hbusy => exact codexError_decoded hid (hs.busy _ hbusy) _
  | startFailed hstart => exact codexError_decoded hid (hrequestID _ (by rw [hstart]; rfl)) _
  | started hstart =>
      have hrequest := hrequestID _ (by rw [hstart]; rfl)
      exact (Corresponds.codexStarted cfg.sessionID hrequest.ne_nil).decoded
        ⟨hid, rfl, hrequest.valid⟩
  | output hdata hraw hne =>
      exact (Corresponds.output cfg.sessionID (Utf8.toValid_ne_nil hne)).decoded
        ⟨hid, Utf8.toValid_valid _, rfl⟩
  | failed code => exact error_decoded hid code true
  | exit code => exact (Corresponds.exit cfg.sessionID code).decoded ⟨hid, rfl, rfl⟩
  | codexOutput hr hcopier htext =>
      have hrequest := hs.runs _ _ hr
      obtain ⟨hdata, rfl⟩ := text_of_codexWrite htext
      exact (Corresponds.codexOutput cfg.sessionID hrequest.ne_nil
        (Utf8.toValid_ne_nil hdata)).decoded ⟨hid, Utf8.toValid_valid _, hrequest.valid⟩
  | codexEnd hr hwait hm => exact terminalMessage_decoded hid (hs.runs _ _ hr) hm

theorem session_decoded (hid : Utf8.valid cfg.sessionID = true)
    (hcfg : Companion.TextRequests cfg.unmarshal) {es : List Companion.SessionEvent}
    {origin : Companion.Origin} {item : Companion.OutboundMessage}
    (h : .enqueued origin item ∈ (Companion.sessionMachine cfg).trace es) :
    Decoded item.message := by
  obtain ⟨pre, e, post, rfl, hmem⟩ := (Companion.sessionMachine cfg).mem_trace h
  exact sendable_decoded hid (Companion.codexWf_run cfg pre)
    (Companion.namedRequests_run hcfg pre) ((Companion.sessionStep_sends cfg _ e).sent _ _ hmem).2

end Session

section Mirror

variable {id : Bytes} {m : Companion.Mirror}

theorem write_mem {ok : Bool} {message : Companion.ServerMessage} {next : Companion.MirrorPc}
    {x : Companion.ServerMessage} (h : x ∈ (m.write ok message next).2) : x = message := by
  unfold Companion.Mirror.write at h
  split at h
  · exact List.mem_singleton.mp h
  · cases h

theorem mirrorError_decoded (hid : Utf8.valid id = true) (code : Code) :
    Decoded (Companion.mirrorError id code) :=
  (Corresponds.mirrorError id code).decoded ⟨hid, rfl, rfl⟩

theorem mirrorStep_decoded (hid : Utf8.valid id = true) {e : Companion.MirrorEvent}
    {x : Companion.ServerMessage} (h : x ∈ (Companion.mirrorStep id m e).2)
    (htext : Utf8.valid x.text = true) : Decoded x := by
  cases e with
  | append data modTime =>
      simp only [Companion.mirrorStep] at h
      split at h <;> cases h
  | rewrite content modTime => cases h
  | hello ok =>
      simp only [Companion.mirrorStep] at h
      split at h
      · rw [write_mem h]
        exact (Corresponds.mirrorHello id).decoded ⟨hid, rfl, rfl⟩
      · cases h
  | stat ok =>
      simp only [Companion.mirrorStep] at h
      split at h
      · cases h
      · rw [write_mem h]
        exact mirrorError_decoded hid _
      · cases h
  | opened ok =>
      simp only [Companion.mirrorStep] at h
      split at h
      · cases h
      · rw [write_mem h]
        exact mirrorError_decoded hid _
      · cases h
  | check =>
      simp only [Companion.mirrorStep] at h
      split at h <;> cases h
  | read ok =>
      simp only [Companion.mirrorStep] at h
      split at h
      · split at h
        · cases h
        · rename_i hlen
          obtain rfl := write_mem h
          exact (Corresponds.mirrorOutput id fun hnil => hlen (by rw [hnil]; rfl)).decoded
            ⟨hid, htext, rfl⟩
      · cases h
  | clientMessage ok =>
      simp only [Companion.mirrorStep] at h
      split at h
      · rw [write_mem h]
        exact mirrorError_decoded hid _
      · cases h
  | clientError =>
      simp only [Companion.mirrorStep] at h
      split at h <;> cases h

end Mirror

/-- The messages the Companion makes: the answer to a connection that gets
no session, those of a session under any limits, and those of the mirror
of a file, where the part of the file in it is text. -/
inductive Made (random : Vector UInt8 16) : Companion.ServerMessage → Prop
  | refused (code : Code) : Made random (Companion.sessionError code)
  | session {cfg : Companion.Config} (hid : cfg.sessionID = Companion.newSessionID random)
      (hunmarshal : cfg.unmarshal = Companion.unmarshal) {es : List Companion.SessionEvent}
      {origin : Companion.Origin} {item : Companion.OutboundMessage}
      (h : .enqueued origin item ∈ (Companion.sessionMachine cfg).trace es) :
      Made random item.message
  | mirror {file : Option Companion.MirrorFile} {es : List Companion.MirrorEvent}
      {m : Companion.ServerMessage} (htext : Utf8.valid m.text = true)
      (h : m ∈ (Companion.mirrorMachine (Companion.newSessionID random) file).trace es) :
      Made random m

/-- **The iPhone decodes whatever the Companion makes**, with the session
of the message expected or none. -/
theorem server_messages_decoded {random : Vector UInt8 16} {m : Companion.ServerMessage}
    (h : Made random m) :
    ∃ m', Corresponds m m' ∧ ∀ expected, expected = none ∨ expected = some m.sessionID →
      Iphone.decodeServer (Companion.encode m) expected = .ok m' := by
  have hid := valid_newSessionID random
  cases h with
  | refused code => exact (Corresponds.error [] code).decoded ⟨rfl, rfl, rfl⟩
  | session hsession hunmarshal h =>
      exact session_decoded (hsession ▸ hid) (hunmarshal ▸ Companion.textRequests_unmarshal) h
  | mirror htext h =>
      obtain ⟨pre, e, post, rfl, hmem⟩ :=
        (Companion.mirrorMachine (Companion.newSessionID random) _).mem_trace h
      exact mirrorStep_decoded hid hmem htext

/-- A line of the terminal. -/
def lineMessage : Companion.ServerMessage :=
  { type := .output, sessionID := Companion.newSessionID (.replicate 16 7), stream := some .pty,
    text := ascii "ok\n" }

theorem server_messages_decoded_line :
    ∃ m', Corresponds lineMessage m' ∧
      ∀ expected, expected = none ∨ expected = some lineMessage.sessionID →
        Iphone.decodeServer (Companion.encode lineMessage) expected = .ok m' :=
  server_messages_decoded
    (@Made.session (.replicate 16 7)
      (Companion.defaultConfig (Companion.newSessionID (.replicate 16 7)) Companion.unmarshal)
      rfl rfl [.run, .readPTY (ascii "ok\n") none false, .aggregate .chunk]
      (.pty (ascii "ok\n")) ⟨lineMessage, false⟩ (by decide))

end Bootmux.Terminal
