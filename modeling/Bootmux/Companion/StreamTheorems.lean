/-
Bootmux.Companion.StreamTheorems — what a client receives of the Codex
output and of the mirror file.

Both producers turn each read into a text of its own, so a character
that straddles two reads reaches the client as replacements. For Codex
the replacement is `strings.ToValidUTF8`, which can keep the length of
what it replaces; the number of characters gives it away instead
(`leads_toValid_reads`). For the mirror it is the JSON encoder, which
makes every stray byte three (`Utf8.length_sanitize_eq`).

The mirror has a second way to go wrong: bytes appended between the
`os.Stat` and the read of one poll make the next poll find a file of the
size it knows with another modification time, and read it from the
start. `streams_faithful` gives the exact condition for each.

What a client receives is compared with what was written, as texts. For
Codex the condition is on the reads: each of them holds whole characters.
For the mirror a connection is followed from poll to poll (`Following`), and
a poll is `Polled` if it returned the bytes behind the offset; the
conditions are that no write comes between its `os.Stat` and its read and
that a batch ends with a character.
-/
import Bootmux.Companion.Mirror
import Bootmux.Companion.Codex

namespace Bootmux.Companion

open Bootmux.Lib
open Bootmux.Lib.Utf8

/-- The texts of messages as a client reads them, concatenated. -/
def received (ms : List ServerMessage) : Bytes := ms.flatMap fun m => (receivedText m).getD []

/-- The client reads the text that was sent, repaired. -/
theorem receivedText_eq (m : ServerMessage) : receivedText m = some (sanitize m.text) :=
  Json.unquote_quote m.text

@[simp] theorem received_append (ms ns : List ServerMessage) :
    received (ms ++ ns) = received ms ++ received ns := by
  simp [received]

/-- Message after message. -/
theorem received_cons (m : ServerMessage) (ms : List ServerMessage) :
    received (m :: ms) = sanitize m.text ++ received ms := by
  simp [received, receivedText_eq]

/-- The texts of the messages of one type. -/
def textsOf (type : MessageType) (ms : List ServerMessage) : Bytes :=
  received (ms.filter (·.type = type))

@[simp] theorem textsOf_append (type : MessageType) (ms ns : List ServerMessage) :
    textsOf type (ms ++ ns) = textsOf type ms ++ textsOf type ns := by
  simp [textsOf]

/-! ## Codex -/

/-- The messages of `codexOutputWriter.Write` for the reads of a run, all
accepted by the queue. A refused read ends the copying. -/
def codexMessages (sessionID requestID : Bytes) (total : Nat) : List Bytes → List ServerMessage
  | [] => []
  | data :: reads =>
      match codexWrite total data with
      | .nothing => codexMessages sessionID requestID total reads
      | .overflow => []
      | .text text =>
          codexOutput sessionID requestID text ::
            codexMessages sessionID requestID (total + data.length) reads

/-- Up to its limit the output of a run is received as it was read. -/
theorem received_codexMessages (sessionID requestID : Bytes) (total : Nat) (reads : List Bytes)
    (h : total + reads.flatten.length ≤ defaultCodexOutput) :
    received (codexMessages sessionID requestID total reads) = reads.flatMap toValid := by
  induction reads generalizing total with
  | nil => rfl
  | cons data reads ih =>
      rw [List.flatten_cons, List.length_append] at h
      by_cases hdata : data.length = 0
      · have : data = [] := List.length_eq_zero_iff.mp hdata
        subst this
        exact ih total (by simpa using h)
      · have hwrite : codexWrite total data = .text (toValid data) := by
          rw [codexWrite, if_neg hdata, if_neg (by omega)]
        rw [codexMessages, hwrite]
        show received (codexOutput _ _ _ :: _) = _
        rw [received_cons, ih _ (by omega), List.flatMap_cons]
        show sanitize (toValid data) ++ _ = _
        rw [sanitize_of_valid (toValid_valid data)]

/-- The messages of a run are outputs, and one error at the limit. -/
theorem codexMessages_type {sessionID requestID : Bytes} {total : Nat} {reads : List Bytes}
    {m : ServerMessage} (h : m ∈ codexMessages sessionID requestID total reads) :
    m.type = .codexOutput := by
  induction reads generalizing total with
  | nil => simp [codexMessages] at h
  | cons data reads ih =>
      rw [codexMessages] at h
      split at h
      · exact ih h
      · simp at h
      · rcases List.mem_cons.mp h with rfl | h
        · rfl
        · exact ih h

/-- Reads that begin inside a character give one character more than the
stream has after it; reads that begin between characters give as many, and
one more if any of them cuts a character. -/
theorem leads_toValid_reads (reads : List Bytes) :
    (∀ q w, reads.flatten = q ++ w → q ≠ [] → (∀ b ∈ q, isTail b = true) → valid w = true →
      leads w + 1 ≤ leads (reads.flatMap toValid)) ∧
    (valid reads.flatten = true →
      leads reads.flatten ≤ leads (reads.flatMap toValid) ∧
        ((∃ r ∈ reads, valid r = false) →
          leads reads.flatten < leads (reads.flatMap toValid))) := by
  induction reads with
  | nil =>
      refine ⟨fun q w h hq => ?_, fun _ => ⟨Nat.le_refl _, by simp⟩⟩
      rw [List.flatten_nil] at h
      exact absurd (List.append_eq_nil_iff.mp h.symm).1 hq
  | cons r reads ih =>
      obtain ⟨ihMid, ihAligned⟩ := ih
      -- what is left after the part of a character at the end of `r`
      have hcut : ∀ p q w, reads.flatten = q ++ w → valid w = true → p ≠ [] → q ≠ [] →
          IsRune (p ++ q) → leads w + 1 ≤ leads (reads.flatMap toValid) := by
        intro p q w hflat hw hp hq hc
        obtain ⟨b, p', rfl⟩ := List.exists_cons_of_ne_nil hp
        exact ihMid q w hflat hq (fun x hx => hc.tails.2 x (by simp [hx])) hw
      rw [List.flatMap_cons, List.flatten_cons, leads_append]
      refine ⟨fun q w h hq htails hw => ?_, fun hvalid => ?_⟩
      · rcases List.append_eq_append_iff.mp h with ⟨q', rfl, hflat⟩ | ⟨x, rfl, rfl⟩
        · by_cases hq' : q' = []
          · subst hq'
            have hle := (ihAligned (by rw [hflat]; exact hw)).1
            rw [List.append_nil] at hq htails
            have := leads_toValid_tails (v := []) (x := []) hq htails rfl
            rw [hflat, List.nil_append] at hle
            simp only [leads_nil, List.append_nil] at this
            omega
          · have := ihMid q' w hflat hq' (fun b hb => htails b (by simp [hb])) hw
            omega
        · obtain ⟨v, p, q₂, w₂, rfl, hflat, hv, hw₂, ⟨rfl, rfl⟩ | ⟨hp, hq₂, hc⟩⟩ := valid_split hw
          · have hle := (ihAligned (by rw [hflat]; exact hw₂)).1
            have := leads_toValid_tails (x := []) hq htails hv
            rw [hflat] at hle ⊢
            simp only [List.append_nil, List.nil_append, leads_append] at this hle ⊢
            omega
          · have hle := hcut p q₂ w₂ hflat hw₂ hp hq₂ hc
            have := leads_toValid_tails (x := p) hq htails hv
            have hone := hc.leads
            rw [hflat]
            simp only [leads_append] at hone ⊢
            omega
      · obtain ⟨v, p, q, w, rfl, hflat, hv, hw, ⟨rfl, rfl⟩ | ⟨hp, hq, hc⟩⟩ := valid_split hvalid
        · rw [List.append_nil] at hvalid ⊢
          rw [valid_append hv] at hvalid
          obtain ⟨hle, hlt⟩ := ihAligned hvalid
          rw [toValid_of_valid hv, leads_append]
          refine ⟨by omega, fun ⟨r, hr, hbad⟩ => ?_⟩
          rcases List.mem_cons.mp hr with rfl | hr
          · rw [hv] at hbad; exact absurd hbad (by simp)
          · have := hlt ⟨r, hr, hbad⟩
            omega
        · have hle := hcut p q w hflat hw hp hq hc
          have hpart := leads_toValid_part hv hp hq hc
          have hone := hc.leads
          rw [hflat, hpart]
          simp only [leads_append] at hone ⊢
          exact ⟨by omega, fun _ => by omega⟩

/-- The reads of a valid stream reach the client as the stream exactly
when none of them cuts a character. -/
theorem codex_received_iff (sessionID requestID : Bytes) (reads : List Bytes)
    (hvalid : valid reads.flatten = true) (hsize : reads.flatten.length ≤ defaultCodexOutput) :
    received (codexMessages sessionID requestID 0 reads) = reads.flatten ↔
      ∀ r ∈ reads, valid r = true := by
  rw [received_codexMessages _ _ _ _ (by simpa using hsize)]
  constructor
  · intro heq
    by_contra hbad
    simp only [not_forall, Bool.not_eq_true] at hbad
    obtain ⟨r, hr, hbad⟩ := hbad
    have := ((leads_toValid_reads reads).2 hvalid).2 ⟨r, hr, hbad⟩
    rw [heq] at this
    omega
  · intro hall
    have : reads.flatMap toValid = reads.flatMap id :=
      List.flatMap_congr fun r hr => toValid_of_valid (hall r hr)
    rw [this, List.flatMap_id]

/-! ## The mirror -/

/-- The file only grows, and the socket accepts every message. -/
def MirrorEvent.Plain : MirrorEvent → Prop
  | .append _ _ | .check | .clientError => True
  | .rewrite _ _ => False
  | .hello ok | .stat ok | .opened ok | .read ok | .clientMessage ok => ok = true

/-- A poll that neither starts over nor cuts a character: `os.Stat` does
not find the size the observer has read up to with another time, and the
bytes read are valid on their own. -/
def CleanPoll (m : Mirror) : MirrorEvent → Prop
  | .stat _ => m.pc = .select → ∀ file, m.file = some file →
      file.content.length = m.observer.offset → 0 < m.observer.offset →
        file.modTime = m.observer.modTime
  | .read _ => ∀ modTime file, m.pc = .reading modTime → m.file = some file →
      valid (m.observer.newBytes file.content) = true
  | _ => True

def Mirror.content (m : Mirror) : Bytes := (m.file.map (·.content)).getD []

/-- The observer of a file that only grows. -/
structure Following (m : Mirror) : Prop where
  exists_file : m.file.isSome
  offset_le : m.observer.offset ≤ m.content.length
  prefixBytes : m.observer.prefixBytes <+: m.content
  fresh : m.observer.prefixBytes = [] → m.observer.offset = 0

theorem MirrorObserver.checkPrefix_of_prefix {o : MirrorObserver} {content : Bytes}
    (h : o.prefixBytes <+: content) (size : Nat) : o.checkPrefix size content = o := by
  rw [checkPrefix, if_neg]
  rintro ⟨-, -, -, hne⟩
  exact hne (List.prefix_iff_eq_take.mp h).symm

/-- What a step does to the observer of a file that only grows: nothing, a
fresh start, or a read. -/
inductive Poll (m : Mirror) (r : Mirror × List ServerMessage) (clean : Prop) : Prop
  | idle (offset : r.1.observer.offset = m.observer.offset)
      (texts : textsOf .mirrorOutput r.2 = []) (ok : clean)
  | restart (offset : r.1.observer.offset = 0) (texts : textsOf .mirrorOutput r.2 = [])
      (iff : clean ↔ m.observer.offset = 0)
  | read (data : Bytes) (eq : data = m.observer.newBytes m.content)
      (offset : r.1.observer.offset = m.observer.offset + data.length)
      (content : r.1.content = m.content)
      (texts : textsOf .mirrorOutput r.2 = sanitize data) (iff : clean ↔ valid data = true)

/-- The observer goes on following, and the step is one of these. -/
structure Polled (m : Mirror) (r : Mirror × List ServerMessage) (clean : Prop) : Prop where
  following : Following r.1
  grows : m.content <+: r.1.content
  poll : Poll m r clean

/-- Messages of another type have no text here. -/
theorem textsOf_other {type : MessageType} {m : ServerMessage} (h : m.type ≠ type) :
    textsOf type [m] = [] := by
  simp [textsOf, h, received]

/-- A step that leaves the file and the observer alone. -/
theorem Following.idle {m : Mirror} (h : Following m) {r : Mirror × List ServerMessage}
    (hfile : r.1.file = m.file) (hobserver : r.1.observer = m.observer)
    (htexts : textsOf .mirrorOutput r.2 = []) {clean : Prop} (hclean : clean) :
    Polled m r clean := by
  have hcontent : r.1.content = m.content := by simp [Mirror.content, hfile]
  refine ⟨⟨?_, ?_, ?_, ?_⟩, ?_, .idle (by rw [hobserver]) htexts hclean⟩
  · rw [hfile]; exact h.exists_file
  · rw [hobserver, hcontent]; exact h.offset_le
  · rw [hobserver, hcontent]; exact h.prefixBytes
  · rw [hobserver]; exact h.fresh
  · rw [hcontent]

/-- A poll that finds nothing new. -/
theorem Following.same {m : Mirror} (h : Following m) {clean : Prop} (hclean : clean) :
    Polled m (m, []) clean :=
  h.idle rfl rfl rfl hclean

/-- A message that is no output. -/
theorem Following.write {m : Mirror} (h : Following m) {message : ServerMessage}
    (hmessage : message.type ≠ .mirrorOutput) (next : MirrorPc) {clean : Prop} (hclean : clean) :
    Polled m (m.write true message next) clean :=
  h.idle (r := m.write true message next) rfl rfl (textsOf_other hmessage) hclean

/-- The file was looked at. -/
theorem Following.stat {m : Mirror} (h : Following m) {file : MirrorFile}
    (hfile : m.file = some file) (pc : MirrorPc) {clean : Prop}
    (hclean : clean ↔ (file.content.length = m.observer.offset → 0 < m.observer.offset →
      file.modTime = m.observer.modTime)) :
    Polled m ({ m with observer := m.observer.stat file.content.length file.modTime, pc := pc }, [])
      clean := by
  have hcontent : m.content = file.content := by simp [Mirror.content, hfile]
  have hle := h.offset_le
  rw [hcontent] at hle
  by_cases hreset : file.content.length = m.observer.offset ∧ file.modTime ≠ m.observer.modTime
  · have hobs : m.observer.stat file.content.length file.modTime =
        { m.observer with offset := 0 } :=
      if_pos (.inr hreset)
    rw [hobs]
    refine ⟨⟨h.exists_file, Nat.zero_le _, h.prefixBytes, fun _ => rfl⟩, List.prefix_rfl,
      .restart rfl rfl ?_⟩
    rw [hclean]
    exact ⟨fun hc => Nat.eq_zero_of_not_pos fun hpos => hreset.2 (hc hreset.1 hpos),
      fun h0 _ hpos => absurd h0 (by omega)⟩
  · have hobs : m.observer.stat file.content.length file.modTime = m.observer := if_neg (by
      rintro (hlt | heq)
      · omega
      · exact hreset heq)
    refine h.idle rfl hobs rfl (hclean.mpr fun heq _ => ?_)
    by_contra hne
    exact hreset ⟨heq, hne⟩

/-- What was read is sent. -/
theorem Following.read {m : Mirror} (h : Following m) {file : MirrorFile}
    (hfile : m.file = some file) (modTime : Int) {out : List ServerMessage} {clean : Prop}
    (htexts : textsOf .mirrorOutput out = sanitize (m.observer.newBytes file.content))
    (hclean : clean ↔ valid (m.observer.newBytes file.content) = true) :
    Polled m ({ m with
      observer := m.observer.record modTime (m.observer.newBytes file.content)
      pc := .select }, out) clean := by
  have hcontent : m.content = file.content := by simp [Mirror.content, hfile]
  have hlen : (m.observer.newBytes file.content).length ≤
      file.content.length - m.observer.offset := by
    simp only [MirrorObserver.newBytes, List.length_take, List.length_drop]
    omega
  have hle := h.offset_le
  rw [hcontent] at hle
  refine ⟨⟨h.exists_file, ?_, ?_, ?_⟩, List.prefix_rfl,
    .read _ (by rw [hcontent]) rfl rfl htexts hclean⟩
  · show m.observer.offset + _ ≤ m.content.length
    rw [hcontent]
    omega
  · show (if _ then _ else _ : Bytes) <+: m.content
    split
    · rename_i hnew
      have h0 := h.fresh hnew.1
      rw [hcontent, MirrorObserver.newBytes, h0, List.drop_zero]
      exact List.take_prefix _ _
    · exact h.prefixBytes
  · intro hnone
    have hnone : (if _ then _ else _ : Bytes) = [] := hnone
    split at hnone
    · rename_i hnew
      exact absurd hnew.2 (by rw [hnone]; simp)
    · rename_i hnew
      show m.observer.offset + _ = 0
      have := h.fresh hnone
      have : ¬ 0 < (m.observer.newBytes file.content).length := fun hpos => hnew ⟨hnone, hpos⟩
      omega

/-- One event of the mirror. -/
theorem mirrorStep_poll (sessionID : Bytes) {m : Mirror} (h : Following m) {e : MirrorEvent}
    (he : e.Plain) : Polled m (mirrorStep sessionID m e) (CleanPoll m e) := by
  obtain ⟨file, hfile⟩ := Option.isSome_iff_exists.mp h.exists_file
  have hcontent : m.content = file.content := by simp [Mirror.content, hfile]
  cases e with
  | rewrite content modTime => exact he.elim
  | append data modTime =>
      simp only [mirrorStep, hfile]
      have hgrows : m.content <+: file.content ++ data := by
        rw [hcontent]; exact List.prefix_append _ _
      exact ⟨⟨rfl, h.offset_le.trans hgrows.length_le, h.prefixBytes.trans hgrows, h.fresh⟩,
        hgrows, .idle rfl rfl trivial⟩
  | hello ok =>
      obtain rfl : ok = true := he
      simp only [mirrorStep]
      split
      · exact h.write (by simp [mirrorHello]) _ trivial
      · exact h.same trivial
  | stat ok =>
      simp only [mirrorStep]
      split
      · rename_i file' hpc hfile'
        refine h.stat hfile' _ ?_
        simp [CleanPoll, hpc, hfile']
      · rename_i hnone; rw [hfile] at hnone; exact absurd hnone (by simp)
      · rename_i hpc _
        refine h.same fun hsel => ?_
        exact absurd hfile (hpc file hsel)
  | opened ok =>
      simp only [mirrorStep]
      split
      · exact h.idle rfl rfl rfl trivial
      · rename_i hnone; rw [hfile] at hnone; exact absurd hnone (by simp)
      · exact h.same trivial
  | check =>
      simp only [mirrorStep]
      split
      · rename_i file' _ hfile'
        refine h.idle rfl ?_ rfl trivial
        refine MirrorObserver.checkPrefix_of_prefix ?_ _
        rw [Option.some.inj (hfile'.symm.trans hfile), ← hcontent]
        exact h.prefixBytes
      · exact h.same trivial
  | read ok =>
      obtain rfl : ok = true := he
      simp only [mirrorStep]
      split
      · rename_i modTime file' hpc hfile'
        have hclean : CleanPoll m (.read true) ↔
            valid (m.observer.newBytes file'.content) = true := by
          simp [CleanPoll, hpc, hfile']
        split
        · rename_i h0
          refine h.read hfile' modTime ?_ hclean
          rw [List.length_eq_zero_iff.mp h0]
          rfl
        · refine h.read hfile' modTime ?_ hclean
          show received [mirrorOutput sessionID _] = _
          rw [received_cons]
          exact List.append_nil _
      · rename_i hpc
        exact h.same fun modTime file' hr hf => absurd hf (hpc modTime file' hr)
  | clientMessage ok =>
      obtain rfl : ok = true := he
      simp only [mirrorStep]
      split
      · exact h.write (by simp [mirrorError]) _ trivial
      · exact h.same trivial
  | clientError =>
      simp only [mirrorStep]
      split
      · exact h.idle rfl rfl rfl trivial
      · exact h.same trivial

/-! ## Whole connections to the mirror -/

section Connection

variable (sessionID : Bytes)

/-- What was sent is what was read, as long as every poll is clean. -/
theorem sent_of_clean (file : Option MirrorFile) {t : List ServerMessage} {m : Mirror}
    (hm : Following m)
    (ht : textsOf .mirrorOutput t = m.content.take m.observer.offset) {es : List MirrorEvent}
    (hes : (mirrorMachine sessionID file).AllSteps (fun m e => e.Plain ∧ CleanPoll m e) m es) :
    let m' := (mirrorMachine sessionID file).runFrom m es
    Following m' ∧ textsOf .mirrorOutput (t ++ (mirrorMachine sessionID file).traceFrom m es) =
      m'.content.take m'.observer.offset := by
  refine (mirrorMachine sessionID file).historyFrom_invariant
    (I := fun t m => Following m ∧
      textsOf .mirrorOutput t = m.content.take m.observer.offset) ?_ es t m ⟨hm, ht⟩ hes
  rintro t m e ⟨hm, ht⟩ ⟨hplain, hclean⟩
  obtain ⟨hfollow, hgrows, hpoll⟩ := mirrorStep_poll sessionID hm hplain
  have htake : m.content.take m.observer.offset =
      (mirrorStep sessionID m e).1.content.take m.observer.offset := by
    obtain ⟨more, hmore⟩ := hgrows
    rw [← hmore, List.take_append_of_le_length hm.offset_le]
  refine ⟨hfollow, ?_⟩
  show textsOf .mirrorOutput (t ++ (mirrorStep sessionID m e).2) =
    (mirrorStep sessionID m e).1.content.take (mirrorStep sessionID m e).1.observer.offset
  rw [textsOf_append, ht, htake]
  cases hpoll with
  | idle offset texts ok => rw [texts, offset, List.append_nil]
  | restart offset texts iff =>
      rw [texts, offset, iff.mp hclean, List.append_nil]
  | read data eq offset content texts iff =>
      have hdata : data <+: m.content.drop m.observer.offset := by
        rw [eq]; exact List.take_prefix _ _
      rw [texts, sanitize_of_valid (iff.mp hclean), offset, content, List.take_add,
        ← List.prefix_iff_eq_take.mp hdata]

/-- A step never makes up for a byte sent too often or replaced: `k` is 0
for a clean past and 1 after the first step that was not clean. -/
theorem sent_step {t : List ServerMessage} {m : Mirror} {e : MirrorEvent} (hm : Following m)
    (he : e.Plain) {k : Nat} (ht : m.observer.offset + k ≤ (textsOf .mirrorOutput t).length) :
    (mirrorStep sessionID m e).1.observer.offset + k ≤
        (textsOf .mirrorOutput (t ++ (mirrorStep sessionID m e).2)).length ∧
      (¬ CleanPoll m e → (mirrorStep sessionID m e).1.observer.offset <
        (textsOf .mirrorOutput (t ++ (mirrorStep sessionID m e).2)).length) := by
  obtain ⟨-, -, hpoll⟩ := mirrorStep_poll sessionID hm he
  rw [textsOf_append, List.length_append]
  cases hpoll with
  | idle offset texts ok =>
      rw [offset, texts]
      exact ⟨by simpa using ht, fun hbad => absurd ok hbad⟩
  | restart offset texts iff =>
      rw [offset, texts]
      refine ⟨by omega, fun hbad => ?_⟩
      have : m.observer.offset ≠ 0 := fun h0 => hbad (iff.mpr h0)
      omega
  | read data eq offset content texts iff =>
      have hle := length_le_sanitize data
      rw [offset, texts]
      refine ⟨by omega, fun hbad => ?_⟩
      have : (sanitize data).length ≠ data.length := fun heq =>
        hbad (iff.mpr (length_sanitize_eq.mp heq))
      omega

/-- The induction: with every clean poll the mirror has sent more. -/
theorem sent_at_least (file : Option MirrorFile) {k : Nat} {t : List ServerMessage} {m : Mirror}
    (hm : Following m) (ht : m.observer.offset + k ≤ (textsOf .mirrorOutput t).length)
    {es : List MirrorEvent}
    (hes : (mirrorMachine sessionID file).AllSteps (fun _ e => e.Plain) m es) :
    let m' := (mirrorMachine sessionID file).runFrom m es
    Following m' ∧ m'.observer.offset + k ≤
      (textsOf .mirrorOutput (t ++ (mirrorMachine sessionID file).traceFrom m es)).length := by
  refine (mirrorMachine sessionID file).historyFrom_invariant
    (I := fun t m => Following m ∧
      m.observer.offset + k ≤ (textsOf .mirrorOutput t).length) ?_ es t m ⟨hm, ht⟩ hes
  rintro t m e ⟨hm, ht⟩ he
  exact ⟨(mirrorStep_poll sessionID hm he).following, (sent_step sessionID hm he ht).1⟩

/-- A connection that has read all of a growing file has sent exactly its
content if and only if every poll was clean. -/
theorem mirror_received_iff (file : MirrorFile) (es : List MirrorEvent)
    (hplain : ∀ e ∈ es, e.Plain)
    (hend : ((mirrorMachine sessionID (some file)).run es).observer.offset =
      ((mirrorMachine sessionID (some file)).run es).content.length) :
    textsOf .mirrorOutput ((mirrorMachine sessionID (some file)).trace es) =
        ((mirrorMachine sessionID (some file)).run es).content ↔
      (mirrorMachine sessionID (some file)).AllSteps CleanPoll
        (mirrorMachine sessionID (some file)).init es := by
  set M := mirrorMachine sessionID (some file) with hM
  have hinit : Following M.init := ⟨rfl, Nat.zero_le _, List.nil_prefix, fun _ => rfl⟩
  have hall : ∀ (m : Mirror) (fs : List MirrorEvent), (∀ e ∈ fs, e.Plain) →
      M.AllSteps (fun _ e => e.Plain) m fs := by
    intro m fs hfs
    rw [M.allSteps_iff_split]
    rintro pre e post rfl
    exact hfs e (by simp)
  constructor
  · intro hsent
    rw [M.allSteps_iff_split]
    intro pre e post hsplit
    by_contra hbad
    subst hsplit
    have hpre := sent_at_least sessionID (some file) (k := 0) (t := []) hinit (Nat.le_refl _)
      (hall _ pre fun x hx => hplain x (by simp [hx]))
    have he : e.Plain := hplain e (by simp)
    have hstep := (sent_step sessionID hpre.1 he hpre.2).2 hbad
    have hpost := sent_at_least sessionID (some file) (k := 1)
      (mirrorStep_poll sessionID hpre.1 he).following hstep
      (hall _ post fun x hx => hplain x (by simp [hx]))
    have hlen := hpost.2
    rw [List.nil_append, List.append_assoc] at hlen
    have htrace : M.trace (pre ++ e :: post) = M.traceFrom M.init pre ++
        ((mirrorStep sessionID (M.runFrom M.init pre) e).2 ++
          M.traceFrom (mirrorStep sessionID (M.runFrom M.init pre) e).1 post) :=
      M.trace_append pre (e :: post)
    have hrun : M.run (pre ++ e :: post) =
        M.runFrom (mirrorStep sessionID (M.runFrom M.init pre) e).1 post :=
      M.run_append pre (e :: post)
    rw [← hM, ← htrace, ← hrun, hsent] at hlen
    omega
  · intro hclean
    have hes : M.AllSteps (fun m e => e.Plain ∧ CleanPoll m e) M.init es := by
      rw [M.allSteps_iff_split] at hclean ⊢
      intro pre e post hsplit
      exact ⟨hplain e (by simp [hsplit]), hclean pre e post hsplit⟩
    have := sent_of_clean sessionID (some file) (t := []) hinit rfl hes
    have htexts : textsOf .mirrorOutput (M.trace es) =
        (M.run es).content.take (M.run es).observer.offset := this.2
    rw [htexts, hend, List.take_length]

end Connection

/-- **Codex and mirror streams arrive unchanged exactly when no read cuts
a character and no poll starts over.** -/
theorem streams_faithful (sessionID requestID : Bytes) (reads : List Bytes)
    (hvalid : valid reads.flatten = true) (hsize : reads.flatten.length ≤ defaultCodexOutput)
    (file : MirrorFile) (es : List MirrorEvent) (hplain : ∀ e ∈ es, e.Plain)
    (hend : ((mirrorMachine sessionID (some file)).run es).observer.offset =
      ((mirrorMachine sessionID (some file)).run es).content.length) :
    (textsOf .codexOutput (codexMessages sessionID requestID 0 reads) = reads.flatten ↔
      ∀ r ∈ reads, valid r = true) ∧
    (textsOf .mirrorOutput ((mirrorMachine sessionID (some file)).trace es) =
        ((mirrorMachine sessionID (some file)).run es).content ↔
      (mirrorMachine sessionID (some file)).AllSteps CleanPoll
        (mirrorMachine sessionID (some file)).init es) := by
  refine ⟨?_, mirror_received_iff sessionID file es hplain hend⟩
  have hfilter : textsOf .codexOutput (codexMessages sessionID requestID 0 reads) =
      received (codexMessages sessionID requestID 0 reads) := by
    rw [textsOf, List.filter_eq_self.mpr]
    intro m hm
    rw [codexMessages_type hm]
    rfl
  rw [hfilter]
  exact codex_received_iff sessionID requestID reads hvalid hsize

/-- A mirror connection that reads one append, and two whole Codex reads. -/
theorem streams_faithful_append :
    textsOf .codexOutput (codexMessages (ascii "s") (ascii "r") 0 [[0x41], [0x42]]) =
        [0x41, 0x42] ∧
      textsOf .mirrorOutput ((mirrorMachine (ascii "s") (some ⟨[], 0⟩)).trace
        [.hello true, .append [0x41] 5, .stat true, .opened true, .check, .read true]) =
          [0x41] := by
  have h := streams_faithful (ascii "s") (ascii "r") [[0x41], [0x42]] (by decide) (by decide)
      ⟨[], 0⟩
    [.hello true, .append [0x41] 5, .stat true, .opened true, .check, .read true]
    (by simp [MirrorEvent.Plain]) (by decide +kernel)
  refine ⟨h.1.mpr (by decide), h.2.mpr ?_⟩
  refine ⟨trivial, trivial, ?_, trivial, trivial, ?_, trivial⟩
  · intro _ _ _ _ hpos
    exact absurd hpos (by decide)
  · intro modTime file _ hfile
    have : file = ⟨[0x41], 5⟩ := Option.some.inj hfile.symm
    subst this
    decide

/-- A character that arrives in two reads of the Codex output. -/
theorem streams_unfaithful :
    valid ([[0xE3], [0x81, 0x82]] : List Bytes).flatten = true ∧
      textsOf .codexOutput (codexMessages (ascii "s") (ascii "r") 0 [[0xE3], [0x81, 0x82]]) ≠
        ([[0xE3], [0x81, 0x82]] : List Bytes).flatten := by
  decide +kernel

end Bootmux.Companion
