/-
Bootmux.Terminal.OutputTheorems — what the shell prints is what the iPhone
shows.

The Companion sends an exit message after all output (`flow_run`), the
socket keeps the order (`inOrder_run`), and the iPhone puts the texts it
reads through its sanitizer into its history, which is the longest end
that fits (`cutLast_longest`). `follows_run` says what the history is made
of in every state of the connection.

On the iPhone a step shows a text, clears the history, or leaves it
(`Shows`); the sanitizer goes over the texts one after the other, with its
state between them, so the history is the sanitized form of the whole. The
result about the exit compares it with what the shell has written, by way of
the texts of the Companion.
-/
import Bootmux.Companion.IntegrityTheorems
import Bootmux.Iphone.SanitizerTheorems
import Bootmux.Terminal.ConnectionTheorems

namespace Bootmux.Terminal

open Bootmux.Lib
open Bootmux.Companion (Bytes ascii)

variable {socket : Nat} {random : Vector UInt8 16}

/-! ## What the sanitizer makes of a text -/

section Iphone

open Iphone

/-- The sanitizer leaves valid text of a character. -/
theorem consumeState_valid (s : ANSISanitizer) {c : Bytes} (hc : Utf8.IsRune c) :
    Utf8.valid (s.consumeState c).2 = true := by
  unfold ANSISanitizer.consumeState
  split
  · split
    · rfl
    · split
      · rfl
      · split
        · rfl
        · exact hc.valid
  all_goals
    repeat' split
    all_goals rfl

theorem consumeScalar_valid (s : ANSISanitizer) {c : Bytes} (hc : Utf8.IsRune c) :
    Utf8.valid (s.consumeScalar c).2 = true := by
  have hnewline : Utf8.valid [0x0A] = true := by decide
  unfold ANSISanitizer.consumeScalar
  split
  · split
    · exact hnewline
    · exact (Utf8.valid_append hnewline _).trans (consumeState_valid _ hc)
  · exact consumeState_valid s hc

theorem consumeScalars_valid (s : ANSISanitizer) {cs : List Bytes}
    (hcs : ∀ c ∈ cs, Utf8.IsRune c) : Utf8.valid (s.consumeScalars cs).2 = true := by
  induction cs generalizing s with
  | nil => rfl
  | cons c cs ih =>
      have hc := consumeScalar_valid s (hcs c List.mem_cons_self)
      exact (Utf8.valid_append hc _).trans
        (ih _ fun d hd => hcs d (List.mem_cons_of_mem c hd))

theorem consume_valid (s : ANSISanitizer) {text : Bytes} (h : Utf8.valid text = true) :
    Utf8.valid (s.consume text).2 = true :=
  consumeScalars_valid s (ANSISanitizer.scalars_isRune ⟨text, h⟩)

/-- The sanitizer takes characters one part after the other. -/
theorem consumeScalars_append (s : ANSISanitizer) (cs ds : List Bytes) :
    s.consumeScalars (cs ++ ds) =
      (((s.consumeScalars cs).1.consumeScalars ds).1,
        (s.consumeScalars cs).2 ++ ((s.consumeScalars cs).1.consumeScalars ds).2) := by
  induction cs generalizing s with
  | nil => rfl
  | cons c cs ih =>
      rw [List.cons_append, ANSISanitizer.consumeScalars, ih, ANSISanitizer.consumeScalars]
      simp

/-- A text may come in any parts. -/
theorem consume_append (s : ANSISanitizer) {text : Bytes} (h : Utf8.valid text = true)
    (more : Bytes) :
    s.consume (text ++ more) =
      (((s.consume text).1.consume more).1,
        (s.consume text).2 ++ ((s.consume text).1.consume more).2) := by
  rw [ANSISanitizer.consume, Utf8.pieces_append_valid h, List.map_append, consumeScalars_append]
  rfl

/-- What a new sanitizer makes of a whole text. -/
def cleaned (text : Bytes) : Bytes :=
  let r := ({} : ANSISanitizer).consume text
  r.2 ++ r.1.finish.2

/-- The history is the newest part of what the sanitizer has made of the
text. -/
structure Shows (s : TerminalSession) (text : Bytes) : Prop where
  valid : Utf8.valid text = true
  sanitizer : s.sanitizer = (({} : ANSISanitizer).consume text).1
  history : Utf8.LongestSuffix TerminalProtocolLimits.terminalHistoryBytes
    (({} : ANSISanitizer).consume text).2 s.buffer.text

/-- The limit of the history never changes. -/
theorem limit_run (es : List TerminalEvent) :
    (terminalMachine.run es).buffer.maxBytes = TerminalProtocolLimits.terminalHistoryBytes := by
  refine terminalMachine.run_invariant
    (I := fun s => s.buffer.maxBytes = TerminalProtocolLimits.terminalHistoryBytes) rfl ?_ es
  intro s e hs
  have hnext := terminalStep_text s e
  show (terminalStep s e).1.buffer.maxBytes = _
  cases hnext with
  | still hstill => rw [hstill.buffer]; exact hs
  | cleared _ hbuffer => rw [hbuffer]; exact hs
  | shown text _ hbuffer => rw [hbuffer]; exact (TerminalBuffer.append_maxBytes _ _).trans hs
  | published _ _ _ hbuffer => rw [hbuffer]; exact hs
  | ended _ _ _ hbuffer => rw [hbuffer]; exact (TerminalBuffer.append_maxBytes _ _).trans hs
  | disconnected _ hbuffer => rw [hbuffer]; exact hs

variable {s t : TerminalSession} {text : Bytes}

/-- A session that has just begun shows nothing. -/
theorem Shows.empty (hsanitizer : t.sanitizer = {}) (hbuffer : t.buffer = s.buffer.clear) :
    Shows t [] where
  valid := rfl
  sanitizer := hsanitizer
  history := by
    rw [hbuffer]
    exact ⟨⟨[], rfl, rfl⟩, Nat.zero_le _, fun u hu _ => hu.isSuffix.length_le⟩

/-- What changes neither sanitizer nor buffer shows the same. -/
theorem Shows.same (h : Shows s text) (hsanitizer : t.sanitizer = s.sanitizer)
    (hbuffer : t.buffer = s.buffer) : Shows t text :=
  ⟨h.valid, hsanitizer.trans h.sanitizer, hbuffer ▸ h.history⟩

/-- The end of the history when more is appended. -/
theorem Shows.appended (h : Shows s text)
    (hlimit : s.buffer.maxBytes = TerminalProtocolLimits.terminalHistoryBytes) {more : Bytes}
    (hmore : Utf8.valid more = true) :
    Utf8.LongestSuffix TerminalProtocolLimits.terminalHistoryBytes
      ((({} : ANSISanitizer).consume text).2 ++ more) (s.buffer.append more).text := by
  have hshown := consume_valid {} h.valid
  have hall : Utf8.valid (s.buffer.text ++ more) = true :=
    (Utf8.valid_append (h.history.suffix.valid hshown) _).trans hmore
  rw [TerminalBuffer.append_text, hlimit]
  exact h.history.append hshown (Utf8.cutLast_longest _ hall)

/-- Text that is heard is shown behind the rest. -/
theorem Shows.append (h : Shows s text)
    (hlimit : s.buffer.maxBytes = TerminalProtocolLimits.terminalHistoryBytes) {more : Bytes}
    (hmore : Utf8.valid more = true) (hsanitizer : t.sanitizer = (s.appendOutput more).sanitizer)
    (hbuffer : t.buffer = (s.appendOutput more).buffer) : Shows t (text ++ more) := by
  have happended := h.appended hlimit (consume_valid s.sanitizer hmore)
  refine ⟨(Utf8.valid_append h.valid _).trans hmore, ?_, ?_⟩
  · rw [hsanitizer, consume_append {} h.valid, ← h.sanitizer]
    rfl
  · rw [hbuffer, consume_append {} h.valid, ← h.sanitizer]
    exact happended

/-- At the end of a connection the sanitizer gives up what it holds. -/
theorem Shows.finish (h : Shows s text)
    (hlimit : s.buffer.maxBytes = TerminalProtocolLimits.terminalHistoryBytes) :
    Utf8.LongestSuffix TerminalProtocolLimits.terminalHistoryBytes (cleaned text)
      s.finishOutput.buffer.text := by
  have hfinish : Utf8.valid s.sanitizer.finish.2 = true := by
    unfold ANSISanitizer.finish
    simp only
    split
    · decide
    · rfl
  have happended := h.appended hlimit hfinish
  rw [h.sanitizer] at happended
  unfold TerminalSession.finishOutput cleaned
  rw [h.sanitizer]
  exact happended

end Iphone

/-! ## The history of a connection -/

/-- The text of a message for the history. -/
def heardText (data : Bytes) : Bytes :=
  match Iphone.decodeServer data none with
  | .ok m => m.shownText.getD []
  | .error _ => []

/-- The text that is heard is the text that the message carries. -/
theorem heardText_encode {m : Companion.ServerMessage} {m' : Iphone.ServerMessage}
    (hm : Speech random m m') : heardText (Companion.encode m) = m'.shownText.getD [] := by
  rw [heardText, hm.decoded none (.inl rfl)]

theorem shownText_valid {m : Companion.ServerMessage} {m' : Iphone.ServerMessage}
    (hm : Speech random m m') {text : Bytes} (h : m'.shownText = some text) :
    Utf8.valid text = true := by
  have htext := hm.text
  have hcorresponds := hm.corresponds
  cases hcorresponds with
  | output | codexOutput | mirrorOutput =>
      obtain rfl := Option.some.inj h
      exact htext
  | _ => cases h

/-- What the iPhone has heard over the transport is in its history, from
the last clear on; before the transport is there it has heard nothing. -/
structure Follows (socket : Nat) (s : Iphone.TerminalSession) (heard : List Bytes)
    (cleared : Prop) : Prop where
  fresh : s.transports ≤ socket → heard = []
  shows : s.transport = some socket → ∃ before after, heard = before ++ after ∧
    Shows s (after.flatMap heardText) ∧ (¬ cleared → before = [])

/-- A session that goes on shows what it has heard. -/
theorem Follows.course {clear cleared : Prop} {s t : Iphone.TerminalSession} {heard : List Bytes}
    (h : Follows socket s heard cleared) (hcourse : Iphone.Course clear s t) :
    Follows socket t heard (cleared ∨ clear) := by
  cases hcourse with
  | stays _ htransport _ htransports _ hbuffer hsanitizer =>
      refine ⟨fun hle => h.fresh (htransports ▸ hle), fun hsocket => ?_⟩
      obtain ⟨before, after, heq, hshows, hclear⟩ := h.shows (htransport ▸ hsocket)
      exact ⟨before, after, heq, hshows.same hsanitizer hbuffer,
        fun hnot => hclear fun hcleared => hnot (.inl hcleared)⟩
  | clears hclear _ htransport _ htransports _ hbuffer hsanitizer =>
      exact ⟨fun hle => h.fresh (htransports ▸ hle), fun hsocket =>
        ⟨heard, [], (List.append_nil _).symm, .empty hsanitizer hbuffer,
          fun hnot => absurd (.inr hclear) hnot⟩⟩
  | leaves _ hnone _ htransports | hangsUp _ _ _ _ hnone _ htransports =>
      exact ⟨fun hle => h.fresh (htransports ▸ hle), fun hsocket =>
        (nomatch hnone.symm.trans hsocket)⟩
  | connects _ _ htransport _ htransports _ hbuffer hsanitizer =>
      refine ⟨fun hle => h.fresh (by omega), fun hsocket => ?_⟩
      have hfirst := Option.some.inj (htransport.symm.trans hsocket)
      exact ⟨[], [], h.fresh (by omega), .empty hsanitizer hbuffer, fun _ => rfl⟩

theorem Follows.mono {cleared cleared' : Prop} {s : Iphone.TerminalSession} {heard : List Bytes}
    (h : Follows socket s heard cleared) (himp : cleared → cleared') :
    Follows socket s heard cleared' := by
  refine ⟨h.fresh, fun hsocket => ?_⟩
  obtain ⟨before, after, heq, hshows, hclear⟩ := h.shows hsocket
  exact ⟨before, after, heq, hshows, fun hnot => hclear fun hcleared => hnot (himp hcleared)⟩

/-- A message of another transport. -/
theorem Follows.reading {cleared : Prop} {s t : Iphone.TerminalSession} {heard : List Bytes}
    {m : Iphone.ServerMessage} (h : Follows socket s heard cleared)
    (hreading : Iphone.Reading s m t) (hother : s.transport ≠ some socket) :
    Follows socket t heard cleared := by
  refine ⟨fun hle => h.fresh (hreading.transports ▸ hle), fun hsocket => ?_⟩
  rcases hreading.transport with hsame | hnone
  · exact absurd (hsame.symm.trans hsocket) hother
  · cases hnone.symm.trans hsocket

/-- A call that waits for a message of the transport. -/
theorem waitsFor_iff {s : Iphone.TerminalSession} {i : Nat} : waitsFor socket s i = true ↔
    ∃ generation, Iphone.callAt s.suspended i = some (.receiving socket generation) := by
  unfold waitsFor
  split
  · next k generation hop => simp [hop]
  · next hop => simpa using fun generation hgeneration => hop socket generation hgeneration

/-- On the current connection it is read. -/
theorem Attached.arrives {s : Iphone.TerminalSession} (h : Attached socket random s)
    (hsocket : s.transport = some socket) {i : Nat} (hadmits : waitsFor socket s i = true)
    {m : Companion.ServerMessage} {m' : Iphone.ServerMessage} (hm : Speech random m m') :
    Iphone.Reading s m'
      (Iphone.terminalStep s (.resume i (.message (Companion.encode m)))).1 := by
  obtain ⟨generation, hop⟩ := waitsFor_iff.mp hadmits
  obtain rfl := h.loops.only i socket generation
    (congrArg (Option.bind · Iphone.Suspended.duty) hop) hsocket
  exact h.reads hop hm

/-- A message of the session. -/
theorem Follows.hears {cleared : Prop} {s : Iphone.TerminalSession} {heard : List Bytes}
    (h : Follows socket s heard cleared) (hattached : Attached socket random s)
    (hlimit : s.buffer.maxBytes = Iphone.TerminalProtocolLimits.terminalHistoryBytes) {i : Nat}
    (hadmits : waitsFor socket s i = true) {m : Companion.ServerMessage}
    {m' : Iphone.ServerMessage} (hm : Speech random m m') :
    Follows socket (Iphone.terminalStep s (.resume i (.message (Companion.encode m)))).1
      (heard ++ [Companion.encode m]) cleared := by
  obtain ⟨generation, hop⟩ := waitsFor_iff.mp hadmits
  have hduty : Iphone.dutyAt s.suspended i = some (.read socket generation) :=
    congrArg (Option.bind · Iphone.Suspended.duty) hop
  have hsmall : ∀ {n}, s.transports ≤ n → socket < n := fun hle =>
    Nat.lt_of_lt_of_le (hattached.loops.past i socket generation hduty).2 hle
  by_cases hsocket : s.transport = some socket
  · -- the loop is the current one
    obtain ⟨before, after, heq, hshows, hclear⟩ := h.shows hsocket
    have hreading := hattached.arrives hsocket hadmits hm
    refine ⟨fun hle => absurd (hsmall (hreading.transports ▸ hle)) (Nat.lt_irrefl _),
      fun hsocket' => ?_⟩
    have hheard : heard ++ [Companion.encode m] = before ++ (after ++ [Companion.encode m]) := by
      rw [heq, List.append_assoc]
    have htext : (after ++ [Companion.encode m]).flatMap heardText =
        after.flatMap heardText ++ m'.shownText.getD [] := by
      rw [List.flatMap_append, List.flatMap_cons, List.flatMap_nil, List.append_nil,
        heardText_encode hm]
    refine ⟨before, after ++ [Companion.encode m], hheard, ?_, hclear⟩
    rw [htext]
    cases hreading with
    | noted _ _ _ _ _ hbuffer hsanitizer hsilent =>
        rw [hsilent]
        simpa using hshows.same hsanitizer hbuffer
    | greeted hgreeting _ _ _ _ _ hbuffer hsanitizer =>
        have hsilent : m'.shownText = none := by rcases hgreeting with rfl | rfl <;> rfl
        rw [hsilent]
        simpa using hshows.same hsanitizer hbuffer
    | shown htext _ _ _ _ _ hbuffer hsanitizer =>
        rw [htext]
        exact hshows.append hlimit (shownText_valid hm htext) hsanitizer hbuffer
    | exited _ _ hnone | failed _ hnone => cases hnone.symm.trans hsocket'
  · -- the loop belongs to a connection that is over
    have hover : generation ≠ s.generation := fun hcurrent =>
      hsocket (hattached.loops.current i socket (hcurrent ▸ hduty))
    have hreads : Iphone.Reads s (.resume i (.message (Companion.encode m))) = false := by
      simp [Iphone.Reads, hop, hover]
    have hbefore := (hattached.loops.past i socket generation hduty).2
    cases Iphone.terminalStep_course s _ hreads with
    | stays _ hsame _ htransports | clears _ _ hsame _ htransports =>
        exact ⟨fun hle => absurd (hsmall (htransports ▸ hle)) (Nat.lt_irrefl _),
          fun hnow => absurd (hsame.symm.trans hnow) hsocket⟩
    | leaves _ hnone _ htransports | hangsUp _ _ _ _ hnone _ htransports =>
        exact ⟨fun hle => absurd (hsmall (htransports ▸ hle)) (Nat.lt_irrefl _),
          fun hnow => absurd (hnone.symm.trans hnow) (Option.some_ne_none socket).symm⟩
    | connects _ _ htransport _ htransports =>
        refine ⟨fun hle => by omega, fun hnow => ?_⟩
        have hfirst := Option.some.inj (htransport.symm.trans hnow)
        omega

/-- **In every state of the connection the history is made of what was
heard since the last clear.** -/
theorem follows_run (socket : Nat) (random : Vector UInt8 16) (es : List ConnectionEvent) :
    let y := (connection socket random).run es
    (connection socket random).Whole y ∧
      Attached socket random (Iphone.terminalMachine.run y.left) ∧
      Follows socket (Iphone.terminalMachine.run y.left) y.heardLeft
        (.clearVisibleHistory ∈ y.left) := by
  refine (connection socket random).faithful_rule rfl
    (P := fun y => Attached socket random (Iphone.terminalMachine.run y.left) ∧
      Follows socket (Iphone.terminalMachine.run y.left) y.heardLeft
        (.clearVisibleHistory ∈ y.left)) ?_ ?_ ?_ ?_ ?_ es
  · exact ⟨attached_init, fun _ => rfl, fun h => (nomatch h)⟩
  · rintro y e ⟨hattached, h⟩ hown
    show Attached socket random (Iphone.terminalMachine.run (y.left ++ [e])) ∧
      Follows socket (Iphone.terminalMachine.run (y.left ++ [e])) y.heardLeft
        (.clearVisibleHistory ∈ y.left ++ [e])
    rw [Machine.run_concat]
    refine ⟨hattached.own hown, ?_⟩
    have hcleared : (.clearVisibleHistory ∈ y.left ++ [e]) =
        (.clearVisibleHistory ∈ y.left ∨ e = .clearVisibleHistory) := by
      simp [eq_comm]
    rw [hcleared]
    cases hreads : Iphone.Reads (Iphone.terminalMachine.run y.left) e with
    | false => exact h.course (Iphone.terminalStep_course _ e hreads)
    | true =>
        obtain ⟨hother, m, hreading⟩ := hattached.reads_other hown hreads
        exact (h.reading hreading hother).mono .inl
  · exact fun y e h _ => h
  · rintro y i data rest ⟨hattached, h⟩ hsaid hadmits
    have hmem : data ∈ (connection socket random).right.said y.right := by
      rw [hsaid]
      exact List.mem_append_right _ List.mem_cons_self
    obtain ⟨m, m', rfl, hm⟩ := speech_of_said hmem
    show Attached socket random
        (Iphone.terminalMachine.run (y.left ++ [.resume i (.message (Companion.encode m))])) ∧
      Follows socket
        (Iphone.terminalMachine.run (y.left ++ [.resume i (.message (Companion.encode m))]))
        (y.heardLeft ++ [Companion.encode m])
        (.clearVisibleHistory ∈ y.left ++ [.resume i (.message (Companion.encode m))])
    have hcleared : (.clearVisibleHistory ∈
        y.left ++ [Iphone.TerminalEvent.resume i (.message (Companion.encode m))]) =
          (.clearVisibleHistory ∈ y.left) := by
      simp
    rw [Machine.run_concat, hcleared]
    exact ⟨hattached.arrival hadmits hm, h.hears hattached (limit_run y.left) hadmits hm⟩
  · exact fun y i data rest h _ _ => h

/-! ## The end of the shell -/

/-- The text of a message of the Companion, if it is output of the
terminal. -/
def outputOf (m : Companion.ServerMessage) : Bytes := if m.type = .output then m.text else []

/-- The texts of the output are those of the messages, in order. -/
theorem outputTexts_flatten (t : List Companion.Effect) :
    (Companion.outputTexts t).flatten = (Companion.enqueuedMessages t).flatMap outputOf := by
  induction t with
  | nil => rfl
  | cons effect t ih =>
      rw [Companion.outputTexts, List.filterMap_cons, Companion.enqueuedMessages,
        List.flatMap_cons, List.flatMap_append, ← Companion.enqueuedMessages, ← ih]
      cases effect with
      | enqueued origin item =>
          by_cases htype : item.message.type = .output <;>
            simp [Companion.Effect.outputText, Companion.Effect.queued, outputOf, htype,
              Companion.outputTexts]
      | _ => rfl

/-- The message that was enqueued at some place of the trace. -/
theorem enqueued_split {t : List Companion.Effect} {ms more : List Companion.ServerMessage}
    {m : Companion.ServerMessage} (h : Companion.enqueuedMessages t = ms ++ m :: more) :
    ∃ before origin item after, t = before ++ .enqueued origin item :: after ∧
      item.message = m ∧ Companion.enqueuedMessages before = ms := by
  induction t generalizing ms with
  | nil => cases ms <;> cases h
  | cons effect t ih =>
      rw [Companion.enqueuedMessages, List.flatMap_cons, ← Companion.enqueuedMessages] at h
      cases effect with
      | enqueued origin item =>
          cases ms with
          | nil =>
              obtain ⟨rfl, -⟩ := List.cons.inj h
              exact ⟨[], origin, item, t, rfl, rfl, rfl⟩
          | cons first ms =>
              obtain ⟨rfl, hrest⟩ := List.cons.inj h
              obtain ⟨before, origin', item', after, rfl, hitem, hbefore⟩ := ih hrest
              exact ⟨.enqueued origin item :: before, origin', item', after, rfl, hitem,
                congrArg (item.message :: ·) hbefore⟩
      | _ =>
          obtain ⟨before, origin', item', after, rfl, hitem, hbefore⟩ := ih h
          exact ⟨_ :: before, origin', item', after, rfl, hitem, hbefore⟩

/-- Without Codex the iPhone hears the output of the terminal. -/
theorem heard_output {ms : List Companion.ServerMessage} {es : List Companion.SessionEvent}
    (hms : ∀ m ∈ ms,
      m ∈ Companion.wroteMessages ((Companion.sessionMachine (settings random)).trace es))
    (hcodex : ∀ m ∈ ms, m.type ≠ .codexOutput) :
    (ms.map Companion.encode).flatMap heardText = ms.flatMap outputOf := by
  rw [List.flatMap_map]
  refine List.flatMap_congr fun m hm => ?_
  obtain ⟨m', hspeech⟩ := speech_of_wrote (hms m hm)
  have htype := hspeech.type
  have hnot := hcodex m hm
  have hcorresponds := hspeech.corresponds
  rw [heardText_encode hspeech]
  cases hcorresponds with
  | output => rfl
  | mirrorOutput => exact absurd rfl htype
  | codexOutput => exact absurd rfl hnot
  | _ => rfl

/-- The terminal is connected over the transport, and takes a message that
leaves it disconnected. -/
structure TakesExit (socket : Nat) (random : Vector UInt8 16) (es : List ConnectionEvent)
    (i : Nat) : Prop where
  transport : (Iphone.terminalMachine.run
    ((connection socket random).run es).left).transport = some socket
  connected : ∃ sessionID, (Iphone.terminalMachine.run
    ((connection socket random).run es).left).state = .connected sessionID
  disconnected : (Iphone.terminalMachine.run
    ((connection socket random).run (es ++ [.arriveLeft i])).left).state = .disconnected

/-- The message it takes is an exit message of the Companion, and what it
has heard is what was written before that. -/
theorem TakesExit.reads {es : List ConnectionEvent} {i : Nat}
    (h : TakesExit socket random es i) :
    let y := (connection socket random).run es
    ∃ ms m more, Companion.wroteMessages
        ((Companion.sessionMachine (settings random)).trace y.right) = ms ++ m :: more ∧
      y.heardLeft = ms.map Companion.encode ∧ m.type = .exit ∧
      (Iphone.terminalMachine.run
        ((connection socket random).run (es ++ [.arriveLeft i])).left).terminalText =
          (Iphone.terminalMachine.run y.left).finishOutput.buffer.text := by
  obtain ⟨htransport, ⟨sessionID, hconnected⟩, hexit⟩ := h
  obtain ⟨hwhole, hattached, -⟩ := follows_run socket random es
  have hnext : (connection socket random).run (es ++ [.arriveLeft i]) =
      (connection socket random).step ((connection socket random).run es) (.arriveLeft i) :=
    Machine.run_concat _ es _
  rw [hnext] at hexit ⊢
  generalize (connection socket random).run es = y at *
  have hstays : (connection socket random).step y (.arriveLeft i) ≠ y := by
    intro heq
    rw [heq, hconnected] at hexit
    cases hexit
  cases hway : y.toLeft with
  | nil => exact absurd (by rw [Link.step, hway]) hstays
  | cons data rest =>
      have hstep : (connection socket random).step y (.arriveLeft i) =
          if (connection socket random).left.admits
            ((connection socket random).left.machine.run y.left) i then
              (connection socket random).hearLeft y i data rest else y := by
        rw [Link.step, hway]
      by_cases hadmits : waitsFor socket (Iphone.terminalMachine.run y.left) i = true
      · have hleft : (connection socket random).step y (.arriveLeft i) =
            (connection socket random).hearLeft y i data rest :=
          hstep.trans (if_pos hadmits)
        have hsaid := hwhole.left.trans (said_companion random y.right)
        rw [hway] at hsaid
        obtain ⟨ms, _, hwrote, hms, hrest⟩ := List.map_eq_append_iff.mp hsaid.symm
        obtain ⟨m, more, rfl, rfl, -⟩ := List.map_eq_cons_iff.mp hrest
        obtain ⟨m', hm⟩ := speech_of_wrote (hwrote ▸ List.mem_append_right ms List.mem_cons_self)
        refine ⟨ms, m, more, hwrote, hms.symm, ?_⟩
        rw [hleft] at hexit ⊢
        have hrun : Iphone.terminalMachine.run
            ((connection socket random).hearLeft y i (Companion.encode m) rest).left =
              (Iphone.terminalStep (Iphone.terminalMachine.run y.left)
                (.resume i (.message (Companion.encode m)))).1 := Machine.run_concat _ _ _
        rw [hrun] at hexit ⊢
        have hreading := hattached.arrives htransport hadmits hm
        have hcorresponds := hm.corresponds
        cases hreading with
        | noted _ _ _ _ hstate | shown _ _ _ _ _ hstate =>
            cases (hstate.trans hconnected).symm.trans hexit
        | greeted _ _ _ _ _ hstate => cases hstate.symm.trans hexit
        | failed _ _ _ _ hstate => cases hstate.symm.trans hexit
        | exited hexited _ _ _ _ _ htext =>
            subst hexited
            cases hcorresponds
            exact ⟨rfl, htext⟩
      · exact absurd (hstep.trans (if_neg hadmits)) hstays

/-- **When the iPhone has taken the exit message it shows everything the
shell has printed**, cleaned by its sanitizer, or the newest part of it that
fits into the history; however the output was read, cut into messages and
timed. -/
theorem exit_shows_output (es : List ConnectionEvent) (i : Nat) (h : TakesExit socket random es i)
    (hclear : .clearVisibleHistory ∉ ((connection socket random).run es).left)
    (hcodex : ∀ m ∈ Companion.wroteMessages ((Companion.sessionMachine (settings random)).trace
      ((connection socket random).run es).right), m.type ≠ .codexOutput)
    (hvalid : Utf8.valid (Companion.ptyStream ((Companion.sessionMachine (settings random)).trace
      ((connection socket random).run es).right)) = true) :
    Utf8.LongestSuffix Iphone.TerminalProtocolLimits.terminalHistoryBytes
      (cleaned (Companion.ptyStream ((Companion.sessionMachine (settings random)).trace
        ((connection socket random).run es).right)))
      (Iphone.terminalMachine.run
        ((connection socket random).run (es ++ [.arriveLeft i])).left).terminalText := by
  obtain ⟨hwhole, hattached, hfollows⟩ := follows_run socket random es
  obtain ⟨ms, m, more, hwrote, hheard, htype, htext⟩ := h.reads
  rw [htext]
  have htransport := h.transport
  clear h htext
  generalize (connection socket random).run es = y at *
  obtain ⟨before, after, hsplit, hshows, hnone⟩ := hfollows.shows htransport
  obtain rfl := hnone hclear
  obtain rfl : y.heardLeft = after := hsplit
  have hfinish := hshows.finish (limit_run y.left)
  -- what was written was enqueued, all of it before the exit message
  obtain ⟨later, henqueued⟩ := (Companion.inOrder_run (settings random) y.right).begun
  rw [hwrote, List.append_assoc, List.cons_append] at henqueued
  obtain ⟨earlier, origin, item, rest, htrace, rfl, hearlier⟩ := enqueued_split henqueued.symm
  have hdelivered := (Companion.flow_run (settings random) y.right).bare.exits earlier _ rest htrace
    (by simp [Companion.Effect.isExit, htype])
  have htexts := hdelivered.texts_eq hvalid
  rw [outputTexts_flatten, hearlier] at htexts
  have hms : ∀ m ∈ ms, m ∈ Companion.wroteMessages
      ((Companion.sessionMachine (settings random)).trace y.right) := fun m hm =>
    hwrote ▸ List.mem_append_left _ hm
  rw [hheard, heard_output hms fun m hm => hcodex m (hms m hm), htexts] at hfinish
  exact hfinish

/-- A shell prints a line in green and exits. -/
def greenLine : List ConnectionEvent :=
  [.left (.connect true), .left (.resume 0 .done), .right .run,
    .right (.readPTY (ascii "\x1b[32mhi\x1b[0m\r\n") (some .eof) false), .right .ptyResult,
    .right (.processExit (.status 0)), .right (.aggregate .chunk), .right (.aggregate .process),
    .right (.aggregate .reader), .right (.aggregate .chunk), .right (.aggregate .chunk),
    .right (.aggregate .chunk), .right (.aggregate .chunk), .right (.write true),
    .right (.write true), .right (.write true), .arriveLeft 0, .arriveLeft 0]

theorem exit_shows_output_line :
    Utf8.LongestSuffix Iphone.TerminalProtocolLimits.terminalHistoryBytes
      (cleaned (ascii "\x1b[32mhi\x1b[0m\r\n"))
      (Iphone.terminalMachine.run ((connection 0 (.replicate 16 0)).run
        (greenLine ++ [.arriveLeft 0])).left).terminalText := by
  have hstream : Companion.ptyStream ((Companion.sessionMachine (settings (.replicate 16 0))).trace
      ((connection 0 (.replicate 16 0)).run greenLine).right) =
        ascii "\x1b[32mhi\x1b[0m\r\n" := by decide +kernel
  rw [← hstream]
  refine exit_shows_output greenLine 0 ⟨?_, ⟨Companion.newSessionID (.replicate 16 0), ?_⟩, ?_⟩
    ?_ ?_ ?_
  all_goals decide +kernel

end Bootmux.Terminal
