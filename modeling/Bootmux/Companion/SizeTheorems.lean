/-
Bootmux.Companion.SizeTheorems — which messages fit into the 12 KiB a
client accepts.

Nothing measures a message before it is sent. Terminal texts are made of
at most 767 bytes (`pending` below the batch size plus one chunk) and
mirror texts of at most 1024, and no byte costs more than six in JSON, so
these always fit. A Codex text is a whole read, up to 32 KiB, and Codex
messages repeat the request id the client chose: `messages_fit` says how
large both may be.

A message is measured as `encode` prints it, by what its strings take in
JSON (`escapedSize`). The invariant (`Small`) bounds what waits to be sent:
the pending bytes, the chunk that is taken and the texts in the queue.
Messages that are no Codex messages have constant parts and a session id of
32 characters, so their bound is a number.

The bound of a Codex text is a condition on the read and on the request id,
both of which come from outside.
-/
import Mathlib.Data.Nat.Digits.Defs
import Bootmux.Companion.CodexSteps
import Bootmux.Companion.Mirror

namespace Bootmux.Companion

open Bootmux.Lib

/-! ## The size of a message -/

/-- The bytes of a string between its quotes. -/
def escapedSize (data : Bytes) : Nat := (Json.escape data).length

theorem length_field_quote (key : String) (value : Bytes) :
    (field key (Json.quote value)).length = (ascii key).length + 2 + escapedSize value := by
  rw [field, List.length_append, Json.length_quote, Nat.add_assoc, Nat.add_comm 2]
  rfl

/-- A field that is empty is left out. -/
theorem length_stringField (key : String) (value : Bytes) :
    (stringField key value).length =
      if value = [] then 0 else (ascii key).length + 2 + escapedSize value := by
  unfold stringField
  split
  · rfl
  · exact length_field_quote key value

/-- The texts of the source need no escape. -/
theorem escapedSize_type (t : MessageType) : escapedSize (ascii t.text) ≤ 13 := by
  cases t <;> decide

/-- The name of a stream is short. -/
theorem escapedSize_stream (x : Stream) : escapedSize (ascii x.text) ≤ 10 := by
  cases x <;> decide

/-- So are a code and its message together. -/
theorem escapedSize_code (c : Code) :
    escapedSize (ascii c.text) + escapedSize (ascii c.message) ≤ 57 := by
  cases c <;> decide

theorem code_text_ne_nil (c : Code) : ascii c.text ≠ [] ∧ ascii c.message ≠ [] := by
  cases c <;> decide

/-- An exit code has three digits at most. -/
theorem length_exitCode (code : ExitCode) : code.text.length ≤ 3 := by
  cases code with
  | unknown => decide
  | status n =>
      have hn : n.toNat < 10 ^ 3 := Nat.lt_trans n.toNat_lt (by decide)
      rw [ExitCode.text, List.length_map]
      exact Nat.toDigits_length 10 n.toNat 3 (by decide) hn

/-- A session id is 32 characters that need no escape. -/
theorem escapedSize_newSessionID (random : Vector UInt8 16) :
    escapedSize (newSessionID random) = 32 := by
  have hplain : ∀ b ∈ newSessionID random, b < 0x80 ∧ Json.escapeAscii b = [b] := by
    intro b hb
    simp only [newSessionID, List.mem_flatMap, List.mem_cons, List.not_mem_nil, or_false] at hb
    obtain ⟨x, -, rfl | rfl⟩ := hb
    · exact Json.hexDigit_plain (Json.high_nibble_lt x)
    · exact Json.hexDigit_plain (Json.low_nibble_lt x)
  rw [escapedSize, Json.escape_plain hplain, newSessionID, List.length_flatMap]
  simp

/-- **The size of a message** is the sum of its fields. -/
theorem length_encode (m : ServerMessage) :
    (encode m).length =
      34 + escapedSize (ascii m.type.text) + escapedSize m.sessionID +
        (m.stream.elim 0 fun x => 12 + escapedSize (ascii x.text)) +
        (if m.text = [] then 0 else 10 + escapedSize m.text) +
        (m.exitCode.elim 0 fun code => 13 + code.text.length) +
        (m.error.elim 0 fun code =>
          23 + (escapedSize (ascii code.text) + escapedSize (ascii code.message))) +
        (if m.requestID = [] then 0 else 16 + escapedSize m.requestID) := by
  have hopen : (ascii "\x7b\"v\":1").length = 6 := by decide
  have hclose : (ascii "\x7d\n").length = 2 := by decide
  have htype : (ascii ",\"type\":").length = 8 := by decide
  have hid : (ascii ",\"session_id\":").length = 14 := by decide
  have htext : (ascii ",\"text\":").length = 8 := by decide
  have hrequest : (ascii ",\"request_id\":").length = 14 := by decide
  have hexit : (ascii ",\"exit_code\":").length = 13 := by decide
  have hstream : (stringField ",\"stream\":" ((m.stream.map (ascii ·.text)).getD [])).length =
      m.stream.elim 0 fun x => 12 + escapedSize (ascii x.text) := by
    rcases m.stream with _ | _ | _ <;> decide
  have herror : (stringField ",\"code\":" ((m.error.map (ascii ·.text)).getD [])).length +
      (stringField ",\"message\":" ((m.error.map (ascii ·.message)).getD [])).length =
      m.error.elim 0 fun code =>
        23 + (escapedSize (ascii code.text) + escapedSize (ascii code.message)) := by
    cases m.error with
    | none => rfl
    | some code =>
        have hcode : (ascii ",\"code\":").length = 8 := by decide
        have hmessage : (ascii ",\"message\":").length = 11 := by decide
        simp only [Option.map_some, Option.getD_some, Option.elim_some, length_stringField,
          if_neg (code_text_ne_nil code).1, if_neg (code_text_ne_nil code).2, hcode, hmessage]
        omega
  unfold encode
  simp only [List.length_append, length_field_quote, length_stringField ",\"text\":",
    length_stringField ",\"request_id\":", hopen, hclose, htype, hid, htext, hrequest,
    Nat.reduceAdd]
  cases m.exitCode with
  | none => simp only [List.length_nil, Option.elim_none]; omega
  | some code => simp only [field, List.length_append, Option.elim_some, hexit]; omega

theorem optionalSize_le (n : Nat) (data : Bytes) :
    (if data = [] then 0 else n + escapedSize data) ≤ n + escapedSize data := by
  split <;> omega

/-- The message is within the limit of `TerminalSession.handle`. -/
def Fits (m : ServerMessage) : Prop := (encode m).length ≤ maxJSONMessage

/-- A message without a request id, made of up to a kilobyte. -/
theorem fits_of_text {m : ServerMessage} (hid : escapedSize m.sessionID ≤ 32)
    (hrequest : m.requestID = []) (htext : escapedSize m.text ≤ 6 * 1024) : Fits m := by
  have htype := escapedSize_type m.type
  have hstream : (m.stream.elim 0 fun x => 12 + escapedSize (ascii x.text)) ≤ 22 := by
    cases m.stream with
    | none => exact Nat.zero_le _
    | some x => exact Nat.add_le_add_left (escapedSize_stream x) 12
  have hexit : (m.exitCode.elim 0 fun code => 13 + code.text.length) ≤ 16 := by
    cases m.exitCode with
    | none => exact Nat.zero_le _
    | some code => exact Nat.add_le_add_left (length_exitCode code) 13
  have herror : (m.error.elim 0 fun code =>
      23 + (escapedSize (ascii code.text) + escapedSize (ascii code.message))) ≤ 80 := by
    cases m.error with
    | none => exact Nat.zero_le _
    | some code => exact Nat.add_le_add_left (escapedSize_code code) 23
  have hbody := optionalSize_le 10 m.text
  unfold Fits maxJSONMessage
  rw [length_encode, if_pos hrequest]
  omega

/-! ## The sizes of Codex messages -/

def codexStartedSize (requestID : Bytes) : Nat := 95 + escapedSize requestID

def codexOutputSize (data requestID : Bytes) : Nat :=
  104 + escapedSize (Utf8.toValid data) + escapedSize requestID

def codexErrorSize (code : Code) (requestID : Bytes) : Nat :=
  116 + (escapedSize (ascii code.text) + escapedSize (ascii code.message)) + escapedSize requestID

def codexExitSize (code : ExitCode) (requestID : Bytes) : Nat :=
  105 + code.text.length + escapedSize requestID

/-- The size of the last message of a run. -/
def codexEndSize (r : CodexRun) : Nat :=
  match r.stopReason with
  | some .session | some .newSession => 0
  | some .overflow => codexErrorSize .codexOutputOverflow r.requestID
  | some .timeout => codexErrorSize .codexTimeout r.requestID
  | some .cancelled => codexErrorSize .codexCancelled r.requestID
  | some .success | none =>
      match r.result with
      | .overflow => codexErrorSize .codexOutputOverflow r.requestID
      | .failed => codexErrorSize .codexFailed r.requestID
      | .ok code => codexExitSize code r.requestID

/-- A Codex message the step can enqueue is within the limit: the read it
is made of and the request id it repeats are small enough. -/
def codexFits (cfg : Config) (s : Session) (e : SessionEvent) : Bool :=
  !s.accepts cfg ||
    match e with
    | .run =>
        match s.run with
        | .busy requestID => codexErrorSize .codexBusy requestID ≤ maxJSONMessage
        | .reportStart i => codexErrorSize .codexStartFailed (s.requestID i) ≤ maxJSONMessage
        | .announce i => codexStartedSize (s.requestID i) ≤ maxJSONMessage
        | _ => true
    | .codex i (.write data) =>
        (s.runs[i]?).all fun r =>
          r.copier ≠ .copying ∨ defaultCodexOutput < r.total + data.length ∨
            codexOutputSize data r.requestID ≤ maxJSONMessage
    | .codex i (.wait _) =>
        (s.runs[i]?).all fun r => r.wait ≠ .terminal ∨ codexEndSize r ≤ maxJSONMessage
    | _ => true

section Sizes

variable {sessionID requestID : Bytes} (hid : escapedSize sessionID = 32)

include hid

/-- `codex_started` has the size of its request. -/
theorem length_codexStarted {cfg : Config} (hcfg : cfg.sessionID = sessionID) :
    (encode (codexStartedMessage cfg requestID).message).length ≤ codexStartedSize requestID := by
  have htype : escapedSize (ascii MessageType.codexStarted.text) = 13 := by decide
  have hrequest := optionalSize_le 16 requestID
  rw [length_encode]
  simp only [codexStartedMessage, hcfg, hid, htype, Option.elim_none, if_true, codexStartedSize]
  omega

/-- An output has the size of what was read, repaired. -/
theorem length_codexOutput (data : Bytes) :
    (encode (codexOutput sessionID requestID (Utf8.toValid data))).length ≤
      codexOutputSize data requestID := by
  have htype : escapedSize (ascii MessageType.codexOutput.text) = 12 := by decide
  have htext := optionalSize_le 10 (codexOutput sessionID requestID (Utf8.toValid data)).text
  have hrequest :=
    optionalSize_le 16 (codexOutput sessionID requestID (Utf8.toValid data)).requestID
  rw [length_encode, codexOutputSize]
  simp only [codexOutput, hid, htype, Option.elim_none] at htext hrequest ⊢
  omega

theorem length_codexError (code : Code) :
    (encode { type := .codexError, sessionID, error := some code, requestID }).length ≤
      codexErrorSize code requestID := by
  have htype : escapedSize (ascii MessageType.codexError.text) = 11 := by decide
  have hrequest := optionalSize_le 16 requestID
  rw [length_encode]
  simp only [hid, htype, Option.elim_none, Option.elim_some, if_true, codexErrorSize]
  omega

theorem length_codexExit (code : ExitCode) :
    (encode { type := .codexExit, sessionID, exitCode := some code, requestID }).length ≤
      codexExitSize code requestID := by
  have htype : escapedSize (ascii MessageType.codexExit.text) = 10 := by decide
  have hrequest := optionalSize_le 16 requestID
  rw [length_encode]
  simp only [hid, htype, Option.elim_none, Option.elim_some, if_true, codexExitSize]
  omega

/-- The last message has the size of the run's request. -/
theorem length_terminalMessage {r : CodexRun} {m : ServerMessage}
    (h : r.terminalMessage sessionID = some m) : (encode m).length ≤ codexEndSize r := by
  have herror : ∀ code, (encode
      { type := .codexError, sessionID, error := some code, requestID := r.requestID }).length ≤
        codexErrorSize code r.requestID := length_codexError hid
  unfold CodexRun.terminalMessage at h
  unfold codexEndSize
  cases hreason : r.stopReason with
  | none =>
      cases hresult : r.result <;> simp only [hreason, hresult, Option.some.injEq] at h ⊢ <;>
        subst h
      · exact length_codexExit hid _
      · exact herror .codexOutputOverflow
      · exact herror .codexFailed
  | some reason =>
      cases reason with
      | session | newSession => simp [hreason] at h
      | cancelled =>
          simp only [hreason, Option.some.injEq] at h ⊢
          exact h ▸ herror .codexCancelled
      | timeout =>
          simp only [hreason, Option.some.injEq] at h ⊢
          exact h ▸ herror .codexTimeout
      | overflow =>
          simp only [hreason, Option.some.injEq] at h ⊢
          exact h ▸ herror .codexOutputOverflow
      | success =>
          cases hresult : r.result <;> simp only [hreason, hresult, Option.some.injEq] at h ⊢ <;>
            subst h
          · exact length_codexExit hid _
          · exact herror .codexOutputOverflow
          · exact herror .codexFailed

end Sizes

/-! ## How much is waiting -/

/-- What a text can be made of: the chunks in the queue and the bytes in
`pending`, which a flush cuts back to an unfinished character. -/
structure Small (cfg : Config) (s : Session) : Prop where
  chunks : ∀ data ∈ s.chunks, data.length ≤ cfg.chunkBytes
  pending : s.aggregate.pending.length < cfg.batch

namespace Small

variable {cfg : Config} {s s' : Session}

/-- A step that leaves the terminal alone. -/
theorem frame (h : Small cfg s) (hframe : PtyFrame s s') : Small cfg s' :=
  ⟨by rw [hframe.chunks]; exact h.chunks, by rw [hframe.aggregate]; exact h.pending⟩

theorem afterRead (h : Small cfg s) (err : Option ReadError) : Small cfg (afterRead s err) := by
  cases err with
  | none => exact h
  | some err => exact ⟨h.chunks, h.pending⟩

/-- What is read fits into a chunk. -/
theorem readPTY (h : Small cfg s) (data : Bytes) (err : Option ReadError) (viaCancel : Bool) :
    Small cfg (readPTY cfg s data err viaCancel).1 := by
  unfold Companion.readPTY
  split
  · split
    · exact h
    · rename_i hlen
      split
      · exact h.afterRead err
      · split
        · refine afterRead (s := { s with chunks := s.chunks ++ [data] })
            ⟨fun x hx => ?_, h.pending⟩ err
          rcases List.mem_append.mp hx with hx | hx
          · exact h.chunks x hx
          · rw [List.mem_singleton.mp hx]
            exact Nat.le_of_not_lt hlen
        · split <;> exact ⟨h.chunks, h.pending⟩
  · exact h

/-- What a flush leaves in `pending`. -/
theorem rest_le (pending : Bytes) (final : Bool) : (utf8Prefix pending final).2.length ≤ 3 := by
  cases final with
  | true => rw [utf8Prefix_final]; exact Nat.zero_le _
  | false =>
      rw [utf8Prefix_eq]
      by_cases hlt : validFrom false 0 pending < pending.length
      · have := fullRune_at_validFrom pending hlt
        exact Utf8.length_of_short (Utf8.fullRune_eq_false.mp this)
      · rw [List.length_drop]
        omega

section Batch

variable (hbatch : 4 ≤ cfg.batch)

include hbatch

theorem flush (hchunks : ∀ data ∈ s.chunks, data.length ≤ cfg.chunkBytes) (final : Bool)
    {ok refused : Session → Session} (hok : ∀ s, Small cfg s → Small cfg (ok s))
    (hrefused : ∀ s, Small cfg s → Small cfg (refused s)) :
    Small cfg (flush cfg s final ok refused).1 := by
  have hrest := rest_le s.aggregate.pending final
  have hcut : ∀ queue, Small cfg { s.locals fun a =>
      { a with pending := (utf8Prefix s.aggregate.pending final).2 } with outbound := queue } :=
    fun _ => ⟨hchunks, show (utf8Prefix s.aggregate.pending final).2.length < cfg.batch by omega⟩
  unfold Companion.flush
  simp only
  split
  · exact hok _ (hcut s.outbound)
  · exact enqueue_rule (P := fun r => Small cfg r.1) (fun _ => hok _ (hcut _))
      (fun _ => hrefused _ (hcut s.outbound))

omit hbatch in
theorem failTerminal (h : Small cfg s) (code : Code) : Small cfg (failTerminal cfg s code).1 := by
  unfold Companion.failTerminal
  split
  · exact h
  · exact enqueue_rule (P := fun r => Small cfg r.1) (fun _ => ⟨h.chunks, h.pending⟩)
      (fun _ => ⟨h.chunks, h.pending⟩)

/-- A chunk either completes a batch, and is flushed, or leaves less than
one. -/
theorem consumeChunk (hmax : cfg.batch + cfg.chunkBytes ≤ cfg.max) {data : Bytes}
    {rest : List Bytes} (h : Small cfg s) (hs : s.chunks = data :: rest) :
    Small cfg (consumeChunk cfg { s with chunks := rest } data).1 := by
  have hrest : ∀ x ∈ rest, x.length ≤ cfg.chunkBytes := fun x hx => h.chunks x (by simp [hs, hx])
  have hdata : data.length ≤ cfg.chunkBytes := h.chunks data (by simp [hs])
  have hpending := h.pending
  refine consumeChunk_rule (s := { s with chunks := rest }) (P := fun r => Small cfg r.1) rfl
    (fun hfull => ?_) (fun _ _ => ?_) (fun _ hwait => ?_)
  · rw [List.length_append] at hfull
    simp only at hfull
    omega
  · exact flush hbatch hrest false (fun _ h => ⟨h.chunks, h.pending⟩)
      (fun _ h => ⟨h.chunks, h.pending⟩)
  · have hlt : (s.aggregate.pending ++ data).length < cfg.batch :=
      Nat.lt_of_not_le fun hle => hwait (.inr hle)
    exact ⟨⟨hrest, hlt⟩, ⟨hrest, hlt⟩⟩

/-- The loop sends before it has too much. -/
theorem aggregateSelect (hmax : cfg.batch + cfg.chunkBytes ≤ cfg.max) (h : Small cfg s)
    (branch : Select) : Small cfg (aggregateSelect cfg s branch).1 := by
  cases branch with
  | cancel =>
      simp only [Companion.aggregateSelect]
      split
      · exact ⟨h.chunks, h.pending⟩
      · exact h
  | inputFailure =>
      simp only [Companion.aggregateSelect]
      split
      · exact h.failTerminal _
      · exact h
  | overflow =>
      simp only [Companion.aggregateSelect]
      split
      · exact h.failTerminal _
      · exact h
  | process =>
      simp only [Companion.aggregateSelect]
      split
      · exact h
      · exact ⟨h.chunks, h.pending⟩
  | reader =>
      simp only [Companion.aggregateSelect]
      split
      · exact h
      · have hread : Small cfg (({ s with reader := none } : Session).locals fun a =>
            { a with ptyReaderFinished := true }) := ⟨h.chunks, h.pending⟩
        split
        · exact hread.failTerminal _
        · exact hread.failTerminal _
        · exact hread
        · exact hread
        · exact hread
  | chunk =>
      simp only [Companion.aggregateSelect]
      split
      · exact h
      · rename_i hs; exact consumeChunk hbatch hmax h hs
  | timer =>
      simp only [Companion.aggregateSelect]
      split
      · exact flush (s := s.locals fun a => { a with armed := false }) hbatch h.chunks false
          (fun _ h => ⟨h.chunks, h.pending⟩) (fun _ h => ⟨h.chunks, h.pending⟩)
      · exact h

theorem aggregateStep (hmax : cfg.batch + cfg.chunkBytes ≤ cfg.max) (h : Small cfg s)
    (branch : Select) : Small cfg (aggregateStep cfg s branch).1 := by
  unfold Companion.aggregateStep
  split
  · unfold aggregateBody
    split
    · split
      · split
        · exact ⟨h.chunks, h.pending⟩
        · rename_i hs; exact consumeChunk hbatch hmax h hs
      · exact aggregateSelect hbatch hmax h branch
    · exact ⟨h.chunks, h.pending⟩
    · exact callStopProcess_rule (P := Small cfg) (fun _ => ⟨h.chunks, h.pending⟩)
        (fun _ => ⟨h.chunks, h.pending⟩) h
    · exact ⟨h.chunks, h.pending⟩
    · exact flush hbatch h.chunks true (fun _ h => ⟨h.chunks, h.pending⟩)
        (fun _ h => ⟨h.chunks, h.pending⟩)
    · exact enqueue_rule (P := fun r => Small cfg r.1) (fun _ => ⟨h.chunks, h.pending⟩)
        (fun _ => ⟨h.chunks, h.pending⟩)
    · exact ⟨h.chunks, h.pending⟩
    · split
      · exact ⟨h.chunks, h.pending⟩
      · exact h
    · exact h
  · exact h

/-- **One step** keeps what is pending small. -/
theorem step (hmax : cfg.batch + cfg.chunkBytes ≤ cfg.max) (h : Small cfg s) (e : SessionEvent) :
    Small cfg (sessionStep cfg s e).1 := by
  cases e with
  | readPTY data err viaCancel => exact h.readPTY data err viaCancel
  | ptyResult =>
      simp only [sessionStep, ptyResult]
      split
      · exact ⟨h.chunks, h.pending⟩
      · exact h
  | aggregate branch => exact aggregateStep hbatch hmax h branch
  | _ => exact h.frame (sessionStep_aside (by simp) (by simp) (by simp)).frame

end Batch

end Small

/-! ## Whole runs -/

/-- Everything in the outbound queue fits, and so will what is made of the
bytes that wait. -/
structure Bounded (cfg : Config) (s : Session) : Prop where
  small : Small cfg s
  fits : ∀ item ∈ s.outbound, Fits item.message

section Default

variable {sessionID : Bytes} {unmarshal : Bytes → Option ClientMessage} {s : Session}

/-- What is sent of it fits into a message. -/
theorem fits_output (hid : escapedSize sessionID = 32) {raw data : Bytes}
    (hs : Small (defaultConfig sessionID unmarshal) s) (hdata : data = [] ∨ data ∈ s.chunks)
    (hraw : raw <+: s.aggregate.pending ++ data) :
    Fits (outputMessage (defaultConfig sessionID unmarshal) (Utf8.toValid raw)).message := by
  have hpending : s.aggregate.pending.length < 512 := hs.pending
  have hlen : data.length ≤ 256 := by
    rcases hdata with rfl | hdata
    · exact Nat.zero_le _
    · exact hs.chunks data hdata
  have hle := hraw.length_le
  have htext := Json.length_escape_toValid_le raw
  rw [List.length_append] at hle
  refine fits_of_text (Nat.le_of_eq hid) rfl ?_
  show (Json.escape (Utf8.toValid raw)).length ≤ 6 * 1024
  omega

/-- A message that a step can send fits, if it is a Codex message under the
condition of the step. -/
theorem fits_of_sendable (hid : escapedSize sessionID = 32)
    (hs : Small (defaultConfig sessionID unmarshal) s)
    (haccepts : s.accepts (defaultConfig sessionID unmarshal) = true) {e : SessionEvent}
    (he : codexFits (defaultConfig sessionID unmarshal) s e = true) {origin : Origin}
    {item : OutboundMessage}
    (hitem : Sendable (defaultConfig sessionID unmarshal) s e origin item) :
    Fits item.message := by
  have hplain := Nat.le_of_eq hid
  simp only [codexFits, haccepts, Bool.not_true, Bool.false_or] at he
  cases hitem with
  | hello => exact fits_of_text hplain rfl (Nat.zero_le _)
  | error code written => exact fits_of_text hplain rfl (Nat.zero_le _)
  | failed code => exact fits_of_text hplain rfl (Nat.zero_le _)
  | exit code => exact fits_of_text hplain rfl (Nat.zero_le _)
  | output hdata hraw hne => exact fits_output hid hs hdata hraw
  | busy hrun =>
      simp only [hrun, decide_eq_true_eq] at he
      exact (length_codexError hid _).trans he
  | startFailed hrun =>
      simp only [hrun, decide_eq_true_eq] at he
      exact (length_codexError hid _).trans he
  | started hrun =>
      simp only [hrun, decide_eq_true_eq] at he
      exact (length_codexStarted hid rfl).trans he
  | codexOutput hr hcopier htext =>
      unfold codexWrite at htext
      split at htext
      · cases htext
      · split at htext
        · cases htext
        · rename_i hle
          obtain rfl := WriteOutcome.text.inj htext
          simp only [hr, hcopier, Option.all_some, ne_eq, not_true_eq_false, hle, false_or,
            decide_eq_true_eq] at he
          exact (length_codexOutput hid _).trans he
  | codexEnd hr hwait hm =>
      simp only [hr, hwait, Option.all_some, ne_eq, not_true_eq_false, false_or,
        decide_eq_true_eq] at he
      exact (length_terminalMessage hid hm).trans he

/-- One step, if its Codex message fits. -/
theorem Bounded.step (hid : escapedSize sessionID = 32)
    (h : Bounded (defaultConfig sessionID unmarshal) s) {e : SessionEvent}
    (he : codexFits (defaultConfig sessionID unmarshal) s e = true) :
    Bounded (defaultConfig sessionID unmarshal)
      (sessionStep (defaultConfig sessionID unmarshal) s e).1 := by
  have hsends := sessionStep_sends (defaultConfig sessionID unmarshal) s e
  refine ⟨Small.step (show 4 ≤ 512 by decide) (show 512 + 256 ≤ 4096 by decide) h.small e,
    fun item hitem => ?_⟩
  rcases hsends.outbound item hitem with hold | ⟨origin, hnew⟩
  · exact h.fits item hold
  · obtain ⟨haccepts, hsend⟩ := hsends.sent origin item hnew
    exact fits_of_sendable hid h.small haccepts he hsend

/-- What a session has written fits. -/
theorem session_fits (hid : escapedSize sessionID = 32) (es : List SessionEvent)
    (hes : (sessionMachine (defaultConfig sessionID unmarshal)).AllSteps
      (codexFits (defaultConfig sessionID unmarshal) · · = true) newSession es) :
    ∀ m, .wrote m ∈ (sessionMachine (defaultConfig sessionID unmarshal)).trace es → Fits m := by
  have hinit : Bounded (defaultConfig sessionID unmarshal) newSession := by
    refine ⟨⟨?_, show 0 < 512 by decide⟩, ?_⟩ <;> exact fun _ h => absurd h List.not_mem_nil
  refine ((sessionMachine (defaultConfig sessionID unmarshal)).history_invariant
    (I := fun t s => Bounded (defaultConfig sessionID unmarshal) s ∧ ∀ m, .wrote m ∈ t → Fits m)
    ⟨hinit, by simp⟩ (fun t s e h he => ⟨h.1.step hid he, fun m hm => ?_⟩) es hes).2
  rcases List.mem_append.mp hm with hm | hm
  · exact h.2 m hm
  · obtain ⟨item, hitem, rfl⟩ := (sessionStep_sends _ _ e).wrote m hm
    exact h.1.fits item hitem

end Default

/-! ## The mirror -/

theorem MirrorObserver.newBytes_length (o : MirrorObserver) (content : Bytes) :
    (o.newBytes content).length ≤ o.batch := by
  rw [MirrorObserver.newBytes, List.length_take]
  exact Nat.min_le_left _ _

@[simp] theorem MirrorObserver.stat_batch (o : MirrorObserver) (size : Nat) (modTime : Int) :
    (o.stat size modTime).batch = o.batch := by
  unfold MirrorObserver.stat
  split <;> rfl

@[simp] theorem MirrorObserver.checkPrefix_batch (o : MirrorObserver) (size : Nat)
    (content : Bytes) : (o.checkPrefix size content).batch = o.batch := by
  unfold MirrorObserver.checkPrefix
  split <;> rfl

@[simp] theorem Mirror.write_observer (m : Mirror) (ok : Bool) (message : ServerMessage)
    (next : MirrorPc) : (m.write ok message next).1.observer = m.observer := by
  cases ok <;> rfl

theorem mirrorStep_batch (sessionID : Bytes) (m : Mirror) (e : MirrorEvent) :
    (mirrorStep sessionID m e).1.observer.batch = m.observer.batch := by
  cases e <;> simp only [mirrorStep, Mirror.fail] <;> repeat' split
  all_goals simp [MirrorObserver.record]

/-- Every text of a mirror is at most a batch. -/
theorem mirrorStep_sends (sessionID : Bytes) (m : Mirror) (e : MirrorEvent) :
    ∀ message ∈ (mirrorStep sessionID m e).2,
      message.sessionID = sessionID ∧ message.requestID = [] ∧
        message.text.length ≤ m.observer.batch := by
  have hwrite : ∀ (m' : Mirror) (ok : Bool) (message : ServerMessage) (next : MirrorPc),
      message.sessionID = sessionID ∧ message.requestID = [] ∧
        message.text.length ≤ m.observer.batch →
      ∀ x ∈ (m'.write ok message next).2,
        x.sessionID = sessionID ∧ x.requestID = [] ∧ x.text.length ≤ m.observer.batch := by
    intro m' ok message next h x hx
    cases ok with
    | false => exact absurd hx List.not_mem_nil
    | true => rw [List.mem_singleton.mp hx]; exact h
  cases e <;> simp only [mirrorStep, Mirror.fail] <;> repeat' split
  all_goals
    first
    | exact fun _ h => absurd h List.not_mem_nil
    | exact hwrite _ _ _ _ ⟨rfl, rfl, Nat.zero_le _⟩
    | exact hwrite _ _ _ _ ⟨rfl, rfl, MirrorObserver.newBytes_length _ _⟩

/-- A batch of the mirror fits, whatever the file is. -/
theorem mirror_fits {sessionID : Bytes} (hid : escapedSize sessionID = 32)
    (file : Option MirrorFile) (es : List MirrorEvent) :
    ∀ m ∈ (mirrorMachine sessionID file).trace es, Fits m := by
  refine ((mirrorMachine sessionID file).history_invariant (P := fun _ _ => True)
    (I := fun t m => m.observer.batch = defaultMirrorBatchBytes ∧ ∀ x ∈ t, Fits x)
    ⟨rfl, by simp⟩ (fun t m e h _ => ⟨?_, fun x hx => ?_⟩) es
    (Machine.allSteps_of_forall _ (fun _ _ => trivial) _ _)).2
  · exact (mirrorStep_batch sessionID m e).trans h.1
  · rcases List.mem_append.mp hx with hx | hx
    · exact h.2 x hx
    · obtain ⟨hsession, hrequest, htext⟩ := mirrorStep_sends sessionID m e x hx
      rw [h.1] at htext
      have := Json.length_escape_le x.text
      refine fits_of_text (by rw [hsession, hid]) hrequest (this.trans ?_)
      exact Nat.mul_le_mul_left 6 htext

/-- **With the default settings every message the Companion writes fits
into 12 KiB if the Codex messages it enqueues do**: those of the terminal,
of the mirror and of a connection without a session always do. -/
theorem messages_fit (random : Vector UInt8 16) (unmarshal : Bytes → Option ClientMessage)
    (es : List SessionEvent)
    (hes : (sessionMachine (defaultConfig (newSessionID random) unmarshal)).AllSteps
      (codexFits (defaultConfig (newSessionID random) unmarshal) · · = true) newSession es)
    (file : Option MirrorFile) (fs : List MirrorEvent) (code : Code) :
    (∀ m, .wrote m ∈ (sessionMachine (defaultConfig (newSessionID random) unmarshal)).trace es →
      Fits m) ∧
    (∀ m ∈ (mirrorMachine (newSessionID random) file).trace fs, Fits m) ∧
    Fits (sessionError code) := by
  have hid := escapedSize_newSessionID random
  refine ⟨session_fits hid es hes, mirror_fits hid file fs, ?_⟩
  exact fits_of_text (Nat.zero_le _) rfl (Nat.zero_le _)

/-- A run that prints a line. -/
theorem messages_fit_line :
    (sessionMachine promptConfig).AllSteps (codexFits promptConfig · · = true) newSession
        (promptEvents ++ [.codex 0 (.write (ascii "ok\n")), .write true]) ∧
      (∀ m, .wrote m ∈ (sessionMachine promptConfig).trace
        (promptEvents ++ [.codex 0 (.write (ascii "ok\n")), .write true]) → Fits m) ∧
      (∀ m ∈ (mirrorMachine (newSessionID (.replicate 16 0)) (some ⟨ascii "a", 1⟩)).trace
        [.hello true, .stat true, .opened true, .check, .read true], Fits m) ∧
      Fits (sessionError .ptyStartFailed) :=
  ⟨by decide +kernel, messages_fit (.replicate 16 0) _ _ (by decide +kernel) _ _ _⟩

/-- A read of the process's output that finds the queue empty is written
as it is. -/
theorem codexOutput_written {cfg : Config} {s : Session} {i : Nat} {r : CodexRun}
    {data text : Bytes} (hr : s.runs[i]? = some r) (hcopier : r.copier = .copying)
    (htext : codexWrite r.total data = .text text) (haccepts : s.accepts cfg = true)
    (hqueue : s.outbound = []) (hwriter : s.writer = .loop) (hopen : s.closed = false) :
    .wrote (codexOutput cfg.sessionID r.requestID text) ∈
      (sessionMachine cfg).traceFrom s [.codex i (.write data), .write true] := by
  have haccepts' : (s.modifyRun i fun r => { r with total := r.total + data.length }).accepts cfg =
      true := haccepts
  have hstep : sessionStep cfg s (.codex i (.write data)) =
      ({ s.modifyRun i fun r => { r with total := r.total + data.length } with
          outbound := s.outbound ++ [⟨codexOutput cfg.sessionID r.requestID text, false⟩] },
        [.enqueued (.codex i) ⟨codexOutput cfg.sessionID r.requestID text, false⟩]) := by
    simp only [sessionStep, codexStep, hr, hcopier, if_true, codexWriteStep, htext,
      Session.enqueue, haccepts']
    rfl
  simp only [Machine.traceFrom_cons, sessionMachine, hstep]
  simp [sessionStep, writeStep, Session.modifyRun, hqueue, hwriter, hopen]

/-- A read of 12200 bytes that need no escape makes a message that is too
large. -/
theorem long_output_written (data : Bytes) (hlen : data.length = 12200)
    (hplain : ∀ b ∈ data, b < 0x80 ∧ Json.escapeAscii b = [b]) :
    ∃ m, ¬ Fits m ∧ .wrote m ∈ (sessionMachine promptConfig).trace
      (promptEvents ++ [.codex 0 (.write data), .write true]) := by
  have htext : codexWrite 0 data = .text data := by
    rw [codexWrite, Utf8.toValid_of_valid (Utf8.valid_ascii fun b hb => (hplain b hb).1), hlen]
    rfl
  refine ⟨codexOutput promptConfig.sessionID (ascii "r") data, fun hfits => ?_, ?_⟩
  · have hne : data ≠ [] := fun h => by simp [h] at hlen
    have hsize : escapedSize data = 12200 := by
      rw [escapedSize, Json.escape_plain hplain, hlen]
    have hrequest : escapedSize (ascii "r") = 1 := by decide
    have hid : escapedSize promptConfig.sessionID = 32 := escapedSize_newSessionID _
    have htext : (codexOutput promptConfig.sessionID (ascii "r") data).text ≠ [] := hne
    have hr : (codexOutput promptConfig.sessionID (ascii "r") data).requestID ≠ [] :=
      show ascii "r" ≠ [] by decide
    unfold Fits maxJSONMessage at hfits
    rw [length_encode, if_neg htext, if_neg hr] at hfits
    simp only [codexOutput, hsize, hrequest, hid] at hfits
    omega
  · rw [Machine.trace_append]
    refine List.mem_append_right _ (codexOutput_written
      (r := { newCodexRun (ascii "r") with
        process := .running, copier := .copying, watcher := .select, wait := .cmdWait })
      (by decide +kernel) rfl htext (by decide +kernel) (by decide +kernel) (by decide +kernel)
      (by decide +kernel))

/-- A process prints 12200 bytes at once. -/
theorem message_too_large :
    ¬ ∀ m, .wrote m ∈ (sessionMachine promptConfig).trace
      (promptEvents ++ [.codex 0 (.write (List.replicate 12200 0x61)), .write true]) → Fits m := by
  intro h
  obtain ⟨m, hm, hwrote⟩ := long_output_written (List.replicate 12200 0x61)
    List.length_replicate fun b hb => by
      rw [List.eq_of_mem_replicate hb]
      decide
  exact hm (h m hwrote)

end Bootmux.Companion
