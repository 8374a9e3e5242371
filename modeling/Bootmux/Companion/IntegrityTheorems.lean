/-
Bootmux.Companion.IntegrityTheorems — an exit message means that the
whole terminal output went out before it.

The bytes read from the terminal are, at every moment, those already
made into texts, then `pending`, then the chunks in the queue (`Intact`),
unless something was lost: a chunk that did not fit into the queue
(`overflow`, which `aggregate` hears of before it can finish), a chunk
dropped because the session was stopped (and `finish` looks at
`wasStopped`), or a text the outbound queue refused (`failed`). None of
the three leads to the exit message. `output_integrity` is the result for
every run.

Most steps do not touch the flow (`SameFlow`), and the steps of the terminal
are handled in three groups: reading a chunk, the loops of `aggregate`, and
its end. The interesting case is the end: `finish` sends the exit message
only after the reader is done, the queue is empty and `pending` has been
flushed, and each of the three losses is noticed on one of these ways.

The texts are compared as bytes before the encoder replaces anything, and as
texts by way of `rawSlices`, so the statement covers both.
-/
import Bootmux.Companion.SessionTheorems
import Bootmux.Companion.OutputTheorems

namespace Bootmux.Companion

open Bootmux.Lib
open Bootmux.Lib.Utf8

/-! ## What a trace says about the terminal -/

def Effect.readBytes : Effect → Bytes
  | .read data => data
  | _ => []

/-- The stream read from the terminal. -/
def ptyStream (t : List Effect) : Bytes := t.flatMap Effect.readBytes

def Effect.rawSlice : Effect → Option Bytes
  | .enqueued (.pty raw) _ => some raw
  | _ => none

/-- The bytes `utf8Prefix` consumed for each message, in order. -/
def rawSlices (t : List Effect) : List Bytes := t.filterMap Effect.rawSlice

def Effect.outputText : Effect → Option Bytes
  | .enqueued _ item => if item.message.type = .output then some item.message.text else none
  | _ => none

/-- The texts of the output messages, in order. -/
def outputTexts (t : List Effect) : List Bytes := t.filterMap Effect.outputText

def Effect.isExit : Effect → Bool
  | .enqueued _ item => item.message.type = .exit
  | _ => false

@[simp] theorem ptyStream_append (t u : List Effect) :
    ptyStream (t ++ u) = ptyStream t ++ ptyStream u := by
  simp [ptyStream]

@[simp] theorem rawSlices_append (t u : List Effect) :
    rawSlices (t ++ u) = rawSlices t ++ rawSlices u := by
  simp [rawSlices]

@[simp] theorem outputTexts_append (t u : List Effect) :
    outputTexts (t ++ u) = outputTexts t ++ outputTexts u := by
  simp [outputTexts]

theorem Effect.neutral_silent {x : Effect} (h : x.neutral = true) :
    x.readBytes = [] ∧ x.rawSlice = none ∧ x.outputText = none ∧ x.isExit = false := by
  cases x with
  | read data => simp [neutral] at h
  | wrote message => exact ⟨rfl, rfl, rfl, rfl⟩
  | typed data => exact ⟨rfl, rfl, rfl, rfl⟩
  | enqueued origin item =>
      cases origin with
      | pty raw => simp [neutral] at h
      | session => simp_all [neutral, readBytes, rawSlice, outputText, isExit]
      | codex run => simp_all [neutral, readBytes, rawSlice, outputText, isExit]

/-- Effects that do not count for the terminal. -/
structure Silent (u : List Effect) : Prop where
  stream : ptyStream u = []
  raws : rawSlices u = []
  texts : outputTexts u = []
  exits : ∀ x ∈ u, x.isExit = false

/-- Neutral effects neither read nor send. -/
theorem silent_of_neutral {u : List Effect} (h : ∀ x ∈ u, x.neutral = true) : Silent u where
  stream := List.flatMap_eq_nil_iff.mpr fun x hx => (Effect.neutral_silent (h x hx)).1
  raws := List.filterMap_eq_nil_iff.mpr fun x hx => (Effect.neutral_silent (h x hx)).2.1
  texts := List.filterMap_eq_nil_iff.mpr fun x hx => (Effect.neutral_silent (h x hx)).2.2.1
  exits x hx := (Effect.neutral_silent (h x hx)).2.2.2

theorem silent_nil : Silent [] := silent_of_neutral (by simp)

/-! ## The invariant -/

/-- Inside `finish`. -/
def AggregatePc.finishing : AggregatePc → Bool
  | .loop | .acking | .stopProcess => false
  | .finish | .flushFinal | .exit | .closeOutbound | .awaitWriter | .done => true

/-- About to flush for the last time, or to send the exit message. -/
def AggregatePc.live : AggregatePc → Bool
  | .flushFinal | .exit => true
  | _ => false

/-- Past the exit message. -/
def AggregatePc.closing : AggregatePc → Bool
  | .closeOutbound | .awaitWriter | .done => true
  | _ => false

/-- Everything read is in the output messages of `A`, cut at characters. -/
structure Delivered (A t : List Effect) : Prop where
  stream : (rawSlices A).flatten = ptyStream t
  whole : pieces (ptyStream t) = (rawSlices A).flatMap pieces
  texts : outputTexts A = (rawSlices A).map toValid

structure Bare (t : List Effect) (s : Session) : Prop where
  texts : outputTexts t = (rawSlices t).map toValid
  unread : s.ptyReader ≠ .done → s.reader = none ∧ s.aggregate.ptyReaderFinished = false
  taken : s.aggregate.ptyReaderFinished = true → s.reader = none
  drained : s.aggregate.pc.finishing = true →
    s.aggregate.ptyReaderFinished = true ∧ s.chunks = []
  emptied : s.aggregate.pc = .exit → s.aggregate.pending = []
  live : s.aggregate.pc.live = true → s.aggregate.failed = false
  quiet : s.aggregate.pc.closing = false → ∀ x ∈ t, x.isExit = false
  exits : ∀ A x B, t = A ++ x :: B → x.isExit = true → Delivered A t

/-- Nothing is lost: what was read is out, pending or queued. -/
structure Intact (t : List Effect) (s : Session) : Prop where
  stream : ptyStream t = (rawSlices t).flatten ++ (s.aggregate.pending ++ s.chunks.flatten)
  cut : s.aggregate.pc ≠ .exit → CutAt ((rawSlices t).flatMap pieces) s.aggregate.pending
  whole : s.aggregate.pc = .exit →
    pieces (rawSlices t).flatten = (rawSlices t).flatMap pieces

/-- A chunk was lost, and `aggregate` will hear of it before it can send
an exit message. -/
def Lost (s : Session) : Prop :=
  s.ptyReader = .finishing .overflow ∨ s.reader = some .overflow ∨
    (s.wasStopped = true ∧ s.aggregate.pc.live = false)

structure Flow (t : List Effect) (s : Session) : Prop where
  bare : Bare t s
  kept : s.aggregate.failed = false → s.aggregate.pc.closing = false → Intact t s ∨ Lost s

/-- Cut into pieces, the bytes are the same. -/
theorem bytesOf_flatMap_pieces (raws : List Bytes) :
    bytesOf (raws.flatMap pieces) = raws.flatten := by
  induction raws with
  | nil => rfl
  | cons raw raws ih =>
      rw [List.flatMap_cons, bytesOf_append, bytesOf_pieces, ih, List.flatten_cons]

/-! ## Steps aside -/

/-- More effects that are silent. -/
theorem Delivered.append {A t u : List Effect} (h : Delivered A t) (hu : Silent u) :
    Delivered A (t ++ u) := by
  refine ⟨?_, ?_, h.texts⟩
  · rw [ptyStream_append, hu.stream, List.append_nil]; exact h.stream
  · rw [ptyStream_append, hu.stream, List.append_nil]; exact h.whole

/-- An element of the first part splits the first part. -/
theorem split_left {α : Type} {t u A B : List α} {x : α} (h : t ++ u = A ++ x :: B) (hx : x ∉ u) :
    ∃ B', t = A ++ x :: B' := by
  rcases List.append_eq_append_iff.mp h with ⟨C, rfl, hC⟩ | ⟨C, rfl, hC⟩
  · exact absurd (by rw [hC]; simp) hx
  · cases C with
    | nil => rw [List.nil_append] at hC; exact absurd (by rw [← hC]; simp) hx
    | cons y C =>
        simp only [List.cons_append, List.cons.injEq] at hC
        exact ⟨C, by rw [hC.1]⟩

/-- The exit message, if any, is in the past. -/
theorem Bare.exits_append {t u : List Effect} {s : Session} (h : Bare t s) (hu : Silent u) :
    ∀ A x B, t ++ u = A ++ x :: B → x.isExit = true → Delivered A (t ++ u) := by
  intro A x B hsplit hx
  obtain ⟨B', rfl⟩ := split_left hsplit fun hmem => by
    rw [hu.exits x hmem] at hx
    exact absurd hx (by simp)
  exact (h.exits A x B' rfl hx).append hu

theorem Bare.silent {t u : List Effect} {s s' : Session} (h : Bare t s) (hu : Silent u)
    (hunread : s'.ptyReader ≠ .done →
      s'.reader = none ∧ s'.aggregate.ptyReaderFinished = false)
    (htaken : s'.aggregate.ptyReaderFinished = true → s'.reader = none)
    (hdrained : s'.aggregate.pc.finishing = true →
      s'.aggregate.ptyReaderFinished = true ∧ s'.chunks = [])
    (hemptied : s'.aggregate.pc = .exit → s'.aggregate.pending = [])
    (hlive : s'.aggregate.pc.live = true → s'.aggregate.failed = false)
    (hquiet : s'.aggregate.pc.closing = false → s.aggregate.pc.closing = false) :
    Bare (t ++ u) s' where
  texts := by simp [h.texts, hu.raws, hu.texts]
  unread := hunread
  taken := htaken
  drained := hdrained
  emptied := hemptied
  live := hlive
  quiet hclosing x hx := by
    rcases List.mem_append.mp hx with hx | hx
    · exact h.quiet (hquiet hclosing) x hx
    · exact hu.exits x hx
  exits := h.exits_append hu

theorem Intact.silent {t u : List Effect} {s s' : Session} (h : Intact t s) (hu : Silent u)
    (hpending : s'.aggregate.pending = s.aggregate.pending) (hchunks : s'.chunks = s.chunks)
    (hpc : s.aggregate.pc ≠ .exit) (hpc' : s'.aggregate.pc ≠ .exit) : Intact (t ++ u) s' where
  stream := by
    simp only [ptyStream_append, rawSlices_append, hu.stream, hu.raws, List.append_nil, hpending,
      hchunks]
    exact h.stream
  cut _ := by
    simp only [rawSlices_append, hu.raws, List.append_nil, hpending]
    exact h.cut hpc
  whole hexit := absurd hexit hpc'

/-- A step aside. -/
theorem Flow.aside {t : List Effect} {s : Session} (h : Flow t s) {r : Session × List Effect}
    (hr : Aside s r) : Flow (t ++ r.2) r.1 := by
  obtain ⟨⟨hchunks, hreader, hptyReader, haggregate, hstopped⟩, hneutral⟩ := hr
  have hu := silent_of_neutral hneutral
  refine ⟨h.bare.silent hu ?_ ?_ ?_ ?_ ?_ ?_, fun hfailed hclosing => ?_⟩
  · rw [hptyReader, hreader, haggregate]; exact h.bare.unread
  · rw [hreader, haggregate]; exact h.bare.taken
  · rw [haggregate, hchunks]; exact h.bare.drained
  · rw [haggregate]; exact h.bare.emptied
  · rw [haggregate]; exact h.bare.live
  · rw [haggregate]; exact id
  · rw [haggregate] at hfailed hclosing
    rcases h.kept hfailed hclosing with hi | hlost
    · refine .inl ⟨?_, ?_, ?_⟩
      · simp only [ptyStream_append, rawSlices_append, hu.stream, hu.raws, List.append_nil,
          haggregate, hchunks]
        exact hi.stream
      · simp only [rawSlices_append, hu.raws, List.append_nil, haggregate]
        exact hi.cut
      · simp only [rawSlices_append, hu.raws, List.append_nil, haggregate]
        exact hi.whole
    · refine .inr ?_
      rw [Lost, hptyReader, hreader, haggregate]
      rcases hlost with h | h | ⟨hs, hl⟩
      · exact .inl h
      · exact .inr (.inl h)
      · exact .inr (.inr ⟨hstopped hs, hl⟩)

/-! ## Reading the terminal -/

/-- Effects before the exit message: only the texts have to match. -/
theorem Bare.open {t u : List Effect} {s s' : Session} (h : Bare t s)
    (hclosing : s.aggregate.pc.closing = false) (hexits : ∀ x ∈ u, x.isExit = false)
    (htexts : outputTexts u = (rawSlices u).map toValid)
    (hunread : s'.ptyReader ≠ .done →
      s'.reader = none ∧ s'.aggregate.ptyReaderFinished = false)
    (htaken : s'.aggregate.ptyReaderFinished = true → s'.reader = none)
    (hdrained : s'.aggregate.pc.finishing = true →
      s'.aggregate.ptyReaderFinished = true ∧ s'.chunks = [])
    (hemptied : s'.aggregate.pc = .exit → s'.aggregate.pending = [])
    (hlive : s'.aggregate.pc.live = true → s'.aggregate.failed = false) :
    Bare (t ++ u) s' := by
  have hnone : ∀ x ∈ t ++ u, x.isExit = false := by
    intro x hx
    rcases List.mem_append.mp hx with hx | hx
    · exact h.quiet hclosing x hx
    · exact hexits x hx
  refine ⟨by simp [h.texts, htexts], hunread, htaken, hdrained, hemptied, hlive, fun _ => hnone, ?_⟩
  intro A x B hsplit hx
  rw [hnone x (by rw [hsplit]; simp)] at hx
  exact absurd hx (by simp)

theorem AggregatePc.not_finishing {pc : AggregatePc} (h : pc.finishing = false) :
    pc ≠ .exit ∧ pc.live = false ∧ pc.closing = false := by
  cases pc <;> simp_all [finishing, live, closing]

/-- While the reader is at work `aggregate` is in its first loop. -/
theorem Bare.not_finishing {t : List Effect} {s : Session} (h : Bare t s)
    (hreading : s.ptyReader ≠ .done) : s.aggregate.pc.finishing = false := by
  have hfinished := (h.unread hreading).2
  cases hpc : s.aggregate.pc.finishing with
  | false => rfl
  | true =>
      rw [(h.drained hpc).1] at hfinished
      exact absurd hfinished (by simp)

/-- A step of the reader, which touches its own state and the queue. -/
theorem Flow.reader {t u : List Effect} {s s' : Session} (h : Flow t s)
    (hreading : s.ptyReader ≠ .done) (haggregate : s'.aggregate = s.aggregate)
    (hu : u = [] ∨ ∃ data, u = [.read data])
    (hreader : s'.ptyReader ≠ .done → s'.reader = none)
    (hkept : s.aggregate.failed = false → Intact t s ∨ Lost s → Intact (t ++ u) s' ∨ Lost s') :
    Flow (t ++ u) s' := by
  have hpc := h.bare.not_finishing hreading
  obtain ⟨hexit, hlive, hclosing⟩ := AggregatePc.not_finishing hpc
  have hfinished := (h.bare.unread hreading).2
  refine ⟨h.bare.open hclosing ?_ ?_ ?_ ?_ ?_ ?_ ?_, fun hfailed _ => ?_⟩
  · rcases hu with rfl | ⟨data, rfl⟩ <;> simp [Effect.isExit]
  · rcases hu with rfl | ⟨data, rfl⟩ <;> rfl
  · rw [haggregate]; exact fun hne => ⟨hreader hne, hfinished⟩
  · rw [haggregate, hfinished]; exact fun h => absurd h (by simp)
  · rw [haggregate, hpc]; exact fun h => absurd h (by simp)
  · rw [haggregate]; exact fun h => absurd h hexit
  · rw [haggregate, hlive]; exact fun h => absurd h (by simp)
  · rw [haggregate] at hfailed
    exact hkept hfailed (h.kept hfailed hclosing)

theorem afterRead_eq (s : Session) (err : Option ReadError) :
    (afterRead s err).aggregate = s.aggregate ∧ (afterRead s err).chunks = s.chunks ∧
      (afterRead s err).reader = s.reader ∧ (afterRead s err).wasStopped = s.wasStopped := by
  cases err <;> exact ⟨rfl, rfl, rfl, rfl⟩

/-- A loss `aggregate` will hear of by the stop stays one. -/
theorem Lost.of_stopped {s s' : Session} (h : Lost s) (hptyReader : s.ptyReader = .reading)
    (hreader : s.reader = none) (haggregate : s'.aggregate = s.aggregate)
    (hstopped : s'.wasStopped = s.wasStopped) : Lost s' := by
  rcases h with h | h | h
  · rw [hptyReader] at h; exact absurd h (by simp)
  · rw [hreader] at h; exact absurd h (by simp)
  · exact .inr (.inr (by rw [hstopped, haggregate]; exact h))

/-- What is read joins the chunks. -/
theorem Flow.readPTY {cfg : Config} {t : List Effect} {s : Session} (h : Flow t s) (data : Bytes)
    (err : Option ReadError) (viaCancel : Bool) :
    Flow (t ++ (readPTY cfg s data err viaCancel).2) (readPTY cfg s data err viaCancel).1 := by
  have hsame : Flow (t ++ []) s := h.aside (r := (s, [])) (.of_frame (.refl s))
  unfold Bootmux.Companion.readPTY
  split
  · rename_i hptyReader
    have hne : s.ptyReader ≠ .done := by rw [hptyReader]; simp
    have hreader := (h.bare.unread hne).1
    have hexit := (AggregatePc.not_finishing (h.bare.not_finishing hne)).1
    have hlive := (AggregatePc.not_finishing (h.bare.not_finishing hne)).2.1
    split
    · exact hsame
    · split
      · -- nothing read
        obtain ⟨haggregate, hchunks, hreader', hstopped⟩ := afterRead_eq s err
        refine h.reader hne haggregate (.inl rfl) (fun _ => by rw [hreader', hreader]) ?_
        rintro - (hi | hl)
        · exact .inl (hi.silent silent_nil (by rw [haggregate]) hchunks hexit
            (by rw [haggregate]; exact hexit))
        · exact .inr (hl.of_stopped hptyReader hreader haggregate hstopped)
      · split
        · -- the chunk is sent
          obtain ⟨haggregate, hchunks, hreader', hstopped⟩ :=
            afterRead_eq { s with chunks := s.chunks ++ [data] } err
          refine h.reader hne haggregate (.inr ⟨data, rfl⟩)
            (fun _ => by rw [hreader']; exact hreader) ?_
          rintro - (hi | hl)
          · refine .inl ⟨?_, fun _ => ?_, fun he => ?_⟩
            · have hstream := hi.stream
              have hr : rawSlices [Effect.read data] = [] := rfl
              have hp : ptyStream [Effect.read data] = data := List.append_nil data
              rw [ptyStream_append, rawSlices_append, hr, hp, List.append_nil, haggregate, hchunks,
                hstream]
              simp
            · have hr : rawSlices [Effect.read data] = [] := rfl
              rw [rawSlices_append, hr, List.append_nil, haggregate]
              exact hi.cut hexit
            · rw [haggregate] at he
              exact absurd he hexit
          · exact .inr (hl.of_stopped hptyReader hreader haggregate hstopped)
        · split
          · -- dropped because of `cancel`
            rename_i hcanceled
            refine h.reader hne rfl (.inr ⟨data, rfl⟩) (fun _ => hreader) fun _ _ =>
              .inr (.inr (.inr ⟨?_, hlive⟩))
            have hdone : s.processStop = .done := by simpa [Session.canceled] using hcanceled
            show ({ s with ptyReader := _ } : Session).wasStopped = true
            simp [Session.wasStopped, hdone]
          · exact h.reader hne rfl (.inr ⟨data, rfl⟩) (fun _ => hreader) fun _ _ => .inr (.inl rfl)
  · exact hsame

theorem Flow.ptyResult {t : List Effect} {s : Session} (h : Flow t s) :
    Flow (t ++ []) (ptyResult s) := by
  unfold Bootmux.Companion.ptyResult
  split
  · rename_i kind hptyReader
    have hne : s.ptyReader ≠ .done := by rw [hptyReader]; simp
    have hexit := (AggregatePc.not_finishing (h.bare.not_finishing hne)).1
    refine h.reader hne rfl (.inl rfl) (fun hdone => absurd rfl hdone) ?_
    rintro - (hi | hl | hl | hl)
    · exact .inl (hi.silent silent_nil rfl rfl hexit hexit)
    · rw [hptyReader, PtyReaderPc.finishing.injEq] at hl
      exact .inr (.inr (.inl (congrArg some hl)))
    · rw [(h.bare.unread hne).1] at hl
      exact absurd hl (by simp)
    · exact .inr (.inr (.inr hl))
  · exact h.aside (r := (s, [])) (.of_frame (.refl s))

/-! ## The loops of aggregate -/

/-- A change of `aggregate`'s own variables that concern neither the
output nor the ending. -/
structure SameFlow (a a' : Aggregate) : Prop where
  pc : a'.pc = a.pc
  pending : a'.pending = a.pending
  finished : a'.ptyReaderFinished = a.ptyReaderFinished
  failed : a'.failed = a.failed

/-- Variables of `aggregate` that do not touch the bytes. -/
theorem Flow.locals {t : List Effect} {s : Session} (h : Flow t s) {f : Aggregate → Aggregate}
    (hf : SameFlow s.aggregate (f s.aggregate)) : Flow t (s.locals f) := by
  obtain ⟨hpc, hpending, hfinished, hfailed⟩ := hf
  have haggregate : (s.locals f).aggregate = f s.aggregate := rfl
  obtain ⟨⟨htexts, hunread, htaken, hdrained, hemptied, hlive, hquiet, hexits⟩, hkept⟩ := h
  rw [← hpc] at hdrained hemptied hlive hquiet hkept
  rw [← hfinished] at hunread htaken hdrained
  rw [← hpending] at hemptied
  rw [← hfailed] at hlive hkept
  refine ⟨⟨htexts, hunread, htaken, hdrained, hemptied, hlive, hquiet, hexits⟩, fun hf hc => ?_⟩
  rcases hkept hf hc with ⟨hstream, hcut, hwhole⟩ | hlost
  · rw [← hpc, ← hpending] at hcut
    rw [← hpc] at hwhole
    rw [← hpending] at hstream
    exact .inl ⟨hstream, hcut, hwhole⟩
  · refine .inr ?_
    rw [Lost, ← hpc] at hlost
    exact hlost

/-- A failure keeps the bare facts and ends the rest. -/
theorem Bare.fail {t u : List Effect} {s s' : Session} (h : Bare t s)
    (hclosing : s.aggregate.pc.closing = false) (hu : Silent u) (hreader : s'.reader = s.reader)
    (hptyReader : s'.ptyReader = s.ptyReader)
    (hfinished : s'.aggregate.ptyReaderFinished = s.aggregate.ptyReaderFinished)
    (hpc : s'.aggregate.pc.finishing = false) (hfailed : s'.aggregate.failed = true) :
    Flow (t ++ u) s' := by
  obtain ⟨hexit, hlive, -⟩ := AggregatePc.not_finishing hpc
  refine ⟨h.silent hu ?_ ?_ ?_ ?_ ?_ fun _ => hclosing, fun hf _ => ?_⟩
  · rw [hreader, hptyReader, hfinished]; exact h.unread
  · rw [hreader, hfinished]; exact h.taken
  · rw [hpc]; exact fun h => absurd h (by simp)
  · exact fun h => absurd h hexit
  · rw [hlive]; exact fun h => absurd h (by simp)
  · rw [hfailed] at hf; exact absurd hf (by simp)

/-- A failure sends its error and no more output. -/
theorem Bare.failTerminal {cfg : Config} {t : List Effect} {s : Session} (h : Bare t s)
    (hpc : s.aggregate.pc = .loop) (code : Code) :
    Flow (t ++ (failTerminal cfg s code).2) (failTerminal cfg s code).1 := by
  have hclosing : s.aggregate.pc.closing = false := by rw [hpc]; rfl
  unfold Bootmux.Companion.failTerminal
  split
  · rename_i hfailed
    exact h.fail hclosing silent_nil rfl rfl rfl (by rw [hpc]; rfl) hfailed
  · refine enqueue_rule (P := fun r => Flow (t ++ r.2) r.1) (fun _ => ?_) fun _ => ?_
    · refine h.fail hclosing (silent_of_neutral ?_) ?_ ?_ ?_ ?_ ?_
      · simp [Effect.neutral, errorMessage]
      all_goals rfl
    · refine h.fail hclosing silent_nil ?_ ?_ ?_ ?_ ?_
      all_goals rfl

/-- A flush sends a beginning of what is pending. -/
theorem Intact.flush {t : List Effect} {s : Session} (h : Intact t s)
    (hpc : s.aggregate.pc ≠ .exit) (cfg : Config) {s' : Session}
    (hpc' : s'.aggregate.pc ≠ .exit) (hchunks : s'.chunks = s.chunks)
    (hpending : s'.aggregate.pending =
      s.aggregate.pending.drop (validFrom false 0 s.aggregate.pending)) :
    Intact (t ++ [.enqueued
      (.pty (s.aggregate.pending.take (validFrom false 0 s.aggregate.pending)))
      (outputMessage cfg (toValid (s.aggregate.pending.take
        (validFrom false 0 s.aggregate.pending))))]) s' := by
  have hraws : ∀ raw item, rawSlices [Effect.enqueued (.pty raw) item] = [raw] := fun _ _ => rfl
  have hstream : ∀ raw item, ptyStream [Effect.enqueued (.pty raw) item] = [] := fun _ _ => rfl
  refine ⟨?_, fun _ => ?_, fun hexit => absurd hexit hpc'⟩
  · rw [ptyStream_append, rawSlices_append, hraws, hstream, List.append_nil, h.stream, hpending,
      hchunks, List.flatten_append, List.flatten_singleton, List.append_assoc,
      ← List.append_assoc (List.take _ _), List.take_append_drop]
  · rw [rawSlices_append, hraws, List.flatMap_append, hpending]
    simpa using (h.cut hpc).flush

/-- A flush in the loop. -/
theorem Flow.flush {cfg : Config} {t : List Effect} {s : Session} (h : Flow t s)
    (hpc : s.aggregate.pc = .loop) :
    Flow (t ++ (flush cfg s false rearm flushRefused).2)
      (flush cfg s false rearm flushRefused).1 := by
  set v := validFrom false 0 s.aggregate.pending with hv
  have hclosing : s.aggregate.pc.closing = false := by rw [hpc]; rfl
  refine flush_rule (P := fun r => Flow (t ++ r.2) r.1) (s.aggregate.pending.take v)
    (s.aggregate.pending.drop v) (utf8Prefix_eq _) ?_ ?_ ?_ ?_
  · have := raw_of_flush s.aggregate.pending
    rwa [utf8Prefix_eq] at this
  · intro hempty
    have hdrop : s.aggregate.pending.drop v = s.aggregate.pending := by
      have := List.take_append_drop v s.aggregate.pending
      rwa [hempty, List.nil_append] at this
    rw [List.append_nil]
    have hlocals := h.locals (f := fun a => { a with pending := s.aggregate.pending.drop v })
      ⟨rfl, hdrop, rfl, rfl⟩
    exact hlocals.locals (f := fun a => { a with armed := a.pending ≠ [] }) ⟨rfl, rfl, rfl, rfl⟩
  · refine ⟨h.bare.open hclosing (by simp [Effect.isExit, outputMessage]) rfl h.bare.unread
      h.bare.taken ?_ ?_ ?_, fun hfailed _ => ?_⟩
    · intro hf
      have : s.aggregate.pc.finishing = true := hf
      rw [hpc] at this
      exact absurd this (by decide)
    · intro hf
      exact absurd (hpc.symm.trans hf) (by decide)
    · intro hf
      have : s.aggregate.pc.live = true := hf
      rw [hpc] at this
      exact absurd this (by decide)
    · rcases h.kept hfailed hclosing with hi | hlost
      · have hne : s.aggregate.pc ≠ .exit := by rw [hpc]; decide
        exact .inl (hi.flush hne cfg hne rfl rfl)
      · exact .inr hlost
  · refine h.bare.fail hclosing silent_nil ?_ ?_ ?_ ?_ ?_
    all_goals rfl

/-- A chunk moves from the queue to `pending`. -/
theorem Flow.takeChunk {t : List Effect} {s : Session} (h : Flow t s)
    (hpc : s.aggregate.pc = .loop) {data : Bytes} {rest : List Bytes}
    (hchunks : s.chunks = data :: rest) :
    Flow t (({ s with chunks := rest } : Session).locals fun a =>
      { a with pending := a.pending ++ data }) := by
  have hfin : s.aggregate.pc.finishing = false := by rw [hpc]; rfl
  obtain ⟨hexit, hlive, hclosing⟩ := AggregatePc.not_finishing hfin
  refine ⟨⟨h.bare.texts, h.bare.unread, h.bare.taken, ?_, ?_, h.bare.live, h.bare.quiet,
    h.bare.exits⟩, fun hfailed _ => ?_⟩
  · intro hf; exact absurd (hfin.symm.trans hf) (by decide)
  · intro hf; exact absurd hf hexit
  · rcases h.kept hfailed hclosing with ⟨hstream, hcut, hwhole⟩ | hlost
    · refine .inl ⟨?_, fun _ => (hcut hexit).append data, fun hf => absurd hf hexit⟩
      rw [hchunks] at hstream
      rw [hstream]
      simp [Session.locals]
    · exact .inr hlost

/-- A chunk joins what is pending. -/
theorem Flow.consumeChunk {cfg : Config} {t : List Effect} {s : Session} (h : Flow t s)
    (hpc : s.aggregate.pc = .loop) {data : Bytes} {rest : List Bytes}
    (hchunks : s.chunks = data :: rest) :
    Flow (t ++ (consumeChunk cfg { s with chunks := rest } data).2)
      (consumeChunk cfg { s with chunks := rest } data).1 := by
  have htaken := h.takeChunk hpc hchunks
  refine consumeChunk_rule (P := fun r => Flow (t ++ r.2) r.1) rfl
    (fun _ => htaken.bare.failTerminal hpc _) (fun _ _ => htaken.flush hpc) fun _ _ => ?_
  simp only [List.append_nil]
  exact ⟨htaken.locals (f := fun a => { a with armed := true }) ⟨rfl, rfl, rfl, rfl⟩, htaken⟩

/-- The result of the reader is taken. -/
theorem Flow.takeResult {t : List Effect} {s : Session} (h : Flow t s)
    (hpc : s.aggregate.pc = .loop) {kind : ReaderKind} (hreader : s.reader = some kind) :
    Bare t (({ s with reader := none } : Session).locals fun a =>
        { a with ptyReaderFinished := true }) ∧
      (kind ≠ .overflow →
        Flow t (({ s with reader := none } : Session).locals fun a =>
          { a with ptyReaderFinished := true })) := by
  have hfin : s.aggregate.pc.finishing = false := by rw [hpc]; rfl
  obtain ⟨hexit, hlive, hclosing⟩ := AggregatePc.not_finishing hfin
  have hdone : s.ptyReader = .done := by
    by_contra hne
    rw [(h.bare.unread hne).1] at hreader
    exact absurd hreader (by simp)
  have hbare : Bare t (({ s with reader := none } : Session).locals fun a =>
      { a with ptyReaderFinished := true }) :=
    ⟨h.bare.texts, fun hne => absurd hdone hne, fun _ => rfl,
      fun hf => absurd (hfin.symm.trans hf) (by decide), fun hf => absurd hf hexit, h.bare.live,
      h.bare.quiet, h.bare.exits⟩
  refine ⟨hbare, fun hkind => ⟨hbare, fun hfailed _ => ?_⟩⟩
  rcases h.kept hfailed hclosing with ⟨hstream, hcut, hwhole⟩ | hl | hl | hl
  · exact .inl ⟨hstream, hcut, hwhole⟩
  · rw [hdone] at hl; exact absurd hl (by simp)
  · rw [hreader] at hl; exact absurd (Option.some.inj hl) hkind
  · exact .inr (.inr (.inr hl))

/-- The select of the loop. -/
theorem Flow.aggregateSelect {cfg : Config} {t : List Effect} {s : Session} (h : Flow t s)
    (hpc : s.aggregate.pc = .loop) (branch : Select) :
    Flow (t ++ (aggregateSelect cfg s branch).2) (aggregateSelect cfg s branch).1 := by
  have hsame : Flow (t ++ []) s := h.aside (r := (s, [])) (.of_frame (.refl s))
  cases branch with
  | cancel =>
      simp only [Bootmux.Companion.aggregateSelect]
      split
      · rw [List.append_nil]
        exact h.locals (f := fun a => { a with canceled := true }) ⟨rfl, rfl, rfl, rfl⟩
      · exact hsame
  | inputFailure =>
      simp only [Bootmux.Companion.aggregateSelect]
      split
      · exact h.bare.failTerminal hpc _
      · exact hsame
  | overflow =>
      simp only [Bootmux.Companion.aggregateSelect]
      split
      · exact h.bare.failTerminal hpc _
      · exact hsame
  | process =>
      simp only [Bootmux.Companion.aggregateSelect]
      split
      · exact hsame
      · rename_i code _
        have hprocess : Flow (t ++ []) { s with process := none } :=
          h.aside (r := ({ s with process := none }, [])) (.of_frame ⟨rfl, rfl, rfl, rfl, id⟩)
        exact hprocess.locals (f := fun a => { a with processExited := true, lastExitCode := code })
          ⟨rfl, rfl, rfl, rfl⟩
  | reader =>
      simp only [Bootmux.Companion.aggregateSelect]
      split
      · exact hsame
      · rename_i kind hkind
        obtain ⟨hbare, hflow⟩ := h.takeResult hpc hkind
        cases kind with
        | unexpected => exact hbare.failTerminal hpc _
        | overflow => exact hbare.failTerminal hpc _
        | _ =>
            simp only [List.append_nil]
            exact hflow (by decide)
  | chunk =>
      simp only [Bootmux.Companion.aggregateSelect]
      split
      · exact hsame
      · rename_i data rest hchunks
        exact h.consumeChunk hpc hchunks
  | timer =>
      simp only [Bootmux.Companion.aggregateSelect]
      split
      · have hdisarmed := h.locals (f := fun a => { a with armed := false }) ⟨rfl, rfl, rfl, rfl⟩
        exact hdisarmed.flush hpc
      · exact hsame

/-! ## The end of aggregate -/

/-- A step of `aggregate` that changes its program counter and flags but
none of the output, and that does not stand before the exit message. -/
theorem Flow.move {t : List Effect} {s s' : Session} (h : Flow t s) (hreader : s'.reader = s.reader)
    (hptyReader : s'.ptyReader = s.ptyReader) (hchunks : s'.chunks = s.chunks)
    (hpending : s'.aggregate.pending = s.aggregate.pending)
    (hfinished : s'.aggregate.ptyReaderFinished = s.aggregate.ptyReaderFinished)
    (hstopped : s'.wasStopped = s.wasStopped) (hexit : s'.aggregate.pc ≠ .exit)
    (hdrained : s'.aggregate.pc.finishing = true →
      s.aggregate.ptyReaderFinished = true ∧ s.chunks = [])
    (hlive : s'.aggregate.pc.live = true → s'.aggregate.failed = false ∧ s.wasStopped = false)
    (hclosing : s'.aggregate.pc.closing = false →
      s.aggregate.pc.closing = false ∧ s.aggregate.pc ≠ .exit ∧
        (s'.aggregate.failed = false → s.aggregate.failed = false)) :
    Flow (t ++ []) s' := by
  refine ⟨h.bare.silent silent_nil ?_ ?_ ?_ (fun he => absurd he hexit) (fun hl => (hlive hl).1)
    (fun hc => (hclosing hc).1), fun hfailed hc => ?_⟩
  · rw [hreader, hptyReader, hfinished]; exact h.bare.unread
  · rw [hreader, hfinished]; exact h.bare.taken
  · rw [hfinished, hchunks]; exact hdrained
  · obtain ⟨hc₀, he₀, hf₀⟩ := hclosing hc
    rcases h.kept (hf₀ hfailed) hc₀ with hi | hl | hl | hl
    · exact .inl (hi.silent silent_nil hpending hchunks he₀ hexit)
    · exact .inr (.inl (by rw [hptyReader]; exact hl))
    · exact .inr (.inr (.inl (by rw [hreader]; exact hl)))
    · refine .inr (.inr (.inr ⟨by rw [hstopped]; exact hl.1, ?_⟩))
      cases hlive' : s'.aggregate.pc.live with
      | false => rfl
      | true =>
          rw [(hlive hlive').2] at hl
          exact absurd hl.1 (by simp)

/-- Before the exit message nothing is lost. -/
theorem Flow.intact_of_live {t : List Effect} {s : Session} (h : Flow t s)
    (hpc : s.aggregate.pc.live = true) : Intact t s ∧ s.chunks = [] := by
  have hfin : s.aggregate.pc.finishing = true ∧ s.aggregate.pc.closing = false := by
    cases hpc' : s.aggregate.pc <;>
      simp_all [AggregatePc.live, AggregatePc.finishing, AggregatePc.closing]
  obtain ⟨hfinished, hchunks⟩ := h.bare.drained hfin.1
  refine ⟨?_, hchunks⟩
  rcases h.kept (h.bare.live hpc) hfin.2 with hi | hl | hl | hl
  · exact hi
  · have := (h.bare.unread (by rw [hl]; simp)).2
    rw [hfinished] at this
    exact absurd this (by simp)
  · rw [h.bare.taken hfinished] at hl
    exact absurd hl (by simp)
  · rw [hpc] at hl
    exact absurd hl.2 (by simp)

/-- An ending without an exit message. -/
theorem Flow.giveUp {t : List Effect} {s s' : Session} (h : Flow t s)
    (hfin : s.aggregate.pc.finishing = true) (hclosing : s.aggregate.pc.closing = false)
    (hpc : s'.aggregate.pc = .closeOutbound)
    (hreader : s'.reader = s.reader) (hptyReader : s'.ptyReader = s.ptyReader)
    (hchunks : s'.chunks = s.chunks)
    (hfinished : s'.aggregate.ptyReaderFinished = s.aggregate.ptyReaderFinished) :
    Flow (t ++ []) s' := by
  refine ⟨h.bare.silent silent_nil ?_ ?_ ?_ ?_ ?_ (fun _ => hclosing), fun _ hc => ?_⟩
  · rw [hreader, hptyReader, hfinished]; exact h.bare.unread
  · rw [hreader, hfinished]; exact h.bare.taken
  · rw [hfinished, hchunks]; exact fun _ => h.bare.drained hfin
  · rw [hpc]; exact fun he => absurd he (by decide)
  · rw [hpc]; exact fun he => absurd he (by decide)
  · rw [hpc] at hc; exact absurd hc (by decide)

/-- The last flush. -/
theorem Flow.flushFinal {cfg : Config} {t : List Effect} {s : Session} (h : Flow t s)
    (hpc : s.aggregate.pc = .flushFinal) {refused : Session → Session}
    (hrefused : Flow (t ++ []) (refused (s.locals fun a => { a with pending := [] }))) :
    let r := Bootmux.Companion.flush cfg s true (.setAggregate .exit) refused
    Flow (t ++ r.2) r.1 := by
  have hlive : s.aggregate.pc.live = true := by rw [hpc]; rfl
  have hne : s.aggregate.pc ≠ .exit := by rw [hpc]; decide
  have hdrained := h.bare.drained (by rw [hpc]; rfl)
  obtain ⟨hi, hchunks⟩ := h.intact_of_live hlive
  have hcut := hi.cut hne []
  rw [List.append_nil, bytesOf_flatMap_pieces] at hcut
  refine flush_rule (P := fun r => Flow (t ++ r.2) r.1) s.aggregate.pending []
    (utf8Prefix_final _) (by simp) ?_ ?_ ?_
  · intro hempty
    refine ⟨h.bare.silent silent_nil h.bare.unread h.bare.taken (fun _ => hdrained) (fun _ => rfl)
      (fun _ => h.bare.live hlive) (fun _ => by rw [hpc]; rfl), fun _ _ => .inl ⟨?_, ?_, ?_⟩⟩
    · have := hi.stream
      rw [hempty] at this
      simpa [Session.setAggregate, Session.locals] using this
    · exact fun he => absurd rfl he
    · intro _
      rw [hempty] at hcut
      simpa using hcut
  · have hraws : rawSlices [Effect.enqueued (.pty s.aggregate.pending)
        (outputMessage cfg (toValid s.aggregate.pending))] = [s.aggregate.pending] := rfl
    refine ⟨h.bare.open (by rw [hpc]; rfl) (by simp [Effect.isExit, outputMessage]) rfl
      h.bare.unread h.bare.taken (fun _ => hdrained) (fun _ => rfl) (fun _ => h.bare.live hlive),
      fun _ _ => .inl ⟨?_, ?_, ?_⟩⟩
    · have hstream := hi.stream
      rw [rawSlices_append, hraws, ptyStream_append, hstream]
      simp [Session.setAggregate, Session.locals, ptyStream, Effect.readBytes]
    · exact fun he => absurd rfl he
    · intro _
      rw [rawSlices_append, hraws, List.flatten_append, List.flatMap_append]
      simpa using hcut
  · exact hrefused

/-- The exit is sent last. -/
theorem Flow.exit {cfg : Config} {t : List Effect} {s : Session} (h : Flow t s)
    (hpc : s.aggregate.pc = .exit) {refused : Session → Session}
    (hrefused : Flow (t ++ []) (refused s)) :
    let r := s.enqueue cfg .session (exitMessage cfg s.aggregate.lastExitCode)
      (.setAggregate .closeOutbound) refused
    Flow (t ++ r.2) r.1 := by
  have hlive : s.aggregate.pc.live = true := by rw [hpc]; rfl
  obtain ⟨hi, hchunks⟩ := h.intact_of_live hlive
  have hstream := hi.stream
  rw [h.bare.emptied hpc, hchunks, List.flatten_nil, List.append_nil, List.append_nil] at hstream
  refine enqueue_rule (P := fun r => Flow (t ++ r.2) r.1) (fun _ => ?_) (fun _ => hrefused)
  have hnone := h.bare.quiet (by rw [hpc]; rfl)
  refine ⟨⟨?_, h.bare.unread, h.bare.taken, fun _ => h.bare.drained (by rw [hpc]; rfl), ?_, ?_, ?_,
    ?_⟩, fun _ hc => absurd hc (by simp [Session.setAggregate, AggregatePc.closing])⟩
  · have htexts : outputTexts [Effect.enqueued .session
        (exitMessage cfg s.aggregate.lastExitCode)] = [] := rfl
    have hraws : rawSlices [Effect.enqueued .session
        (exitMessage cfg s.aggregate.lastExitCode)] = [] := rfl
    simp [h.bare.texts, htexts, hraws]
  · exact fun he => absurd he (by simp [Session.setAggregate])
  · exact fun he => absurd he (by simp [Session.setAggregate, AggregatePc.live])
  · exact fun hc => absurd hc (by simp [Session.setAggregate, AggregatePc.closing])
  · intro A x B hsplit hx
    -- the exit message is the one just sent
    have hA : A = t := by
      rcases List.append_eq_append_iff.mp hsplit with ⟨C, rfl, hC⟩ | ⟨C, rfl, hC⟩
      · cases C with
        | nil => simp
        | cons y C => simp at hC
      · cases C with
        | nil => simp
        | cons y C =>
            simp only [List.cons_append, List.cons.injEq] at hC
            have := hnone x (by simp [hC.1])
            rw [this] at hx
            exact absurd hx (by simp)
    subst hA
    have hnil : ptyStream [Effect.enqueued .session
        (exitMessage cfg s.aggregate.lastExitCode)] = [] := rfl
    refine ⟨?_, ?_, h.bare.texts⟩
    · rw [ptyStream_append, hnil, List.append_nil, hstream]
    · rw [ptyStream_append, hnil, List.append_nil, hstream]
      exact hi.whole hpc

theorem Flow.finish {t : List Effect} {s : Session} (h : Flow t s)
    (hpc : s.aggregate.pc = .finish) :
    Flow (t ++ []) (s.locals fun a =>
      { a with
        canceled := s.aggregate.canceled || s.wasStopped
        pc := if (s.aggregate.canceled || s.wasStopped) ∨ a.failed then .closeOutbound
          else .flushFinal }) := by
  have hdrained := h.bare.drained (by rw [hpc]; rfl)
  by_cases hgive : (s.aggregate.canceled || s.wasStopped) = true ∨ s.aggregate.failed = true
  · exact h.giveUp (by rw [hpc]; rfl) (by rw [hpc]; rfl) (if_pos hgive) rfl rfl rfl rfl
  · have hpc' : ∀ a b : AggregatePc, (if (s.aggregate.canceled || s.wasStopped) = true ∨
        s.aggregate.failed = true then a else b) = b := fun a b => if_neg hgive
    simp only [not_or, Bool.not_eq_true, Bool.or_eq_false_iff] at hgive
    refine h.move rfl rfl rfl rfl rfl rfl ?_ (fun _ => hdrained) (fun _ => ⟨hgive.2, hgive.1.2⟩)
      fun _ => ⟨by rw [hpc]; rfl, by rw [hpc]; decide, id⟩
    show (if (s.aggregate.canceled || s.wasStopped) = true ∨ s.aggregate.failed = true then
      AggregatePc.closeOutbound else .flushFinal) ≠ .exit
    rw [hpc']
    decide

theorem Flow.aggregateBody {cfg : Config} {t : List Effect} {s : Session} (h : Flow t s)
    (branch : Select) :
    Flow (t ++ (aggregateBody cfg s branch).2) (aggregateBody cfg s branch).1 := by
  have hsame : Flow (t ++ []) s := h.aside (r := (s, [])) (.of_frame (.refl s))
  -- back into the loop, or on to another point of it
  have hloop : ∀ pc : AggregatePc, pc.finishing = false → s.aggregate.pc.finishing = false →
      Flow (t ++ []) (s.setAggregate pc) := by
    intro pc hpc hpc₀
    obtain ⟨hexit, hlive, hclosing⟩ := AggregatePc.not_finishing hpc
    obtain ⟨hexit₀, -, hclosing₀⟩ := AggregatePc.not_finishing hpc₀
    exact h.move rfl rfl rfl rfl rfl rfl hexit (fun hf => absurd (hpc.symm.trans hf) (by decide))
      (fun hl => absurd (hlive.symm.trans hl) (by decide)) (fun _ => ⟨hclosing₀, hexit₀, id⟩)
  unfold Bootmux.Companion.aggregateBody
  split
  · rename_i hpc
    split
    · rename_i hends
      split
      · rename_i hchunks
        exact h.move rfl rfl rfl rfl rfl rfl (by simp [Session.setAggregate])
          (fun _ => ⟨hends.2, hchunks⟩)
          (fun hl => absurd hl (by simp [Session.setAggregate, AggregatePc.live]))
          (fun _ => by rw [hpc]; exact ⟨rfl, by decide, id⟩)
      · rename_i data rest hchunks
        exact h.consumeChunk hpc hchunks
    · exact h.aggregateSelect hpc branch
  · rename_i hpc
    exact hloop _ rfl (by rw [hpc]; rfl)
  · rename_i hpc
    refine callStopProcess_rule (P := fun s' => Flow (t ++ []) s') (fun hidle => ?_) (fun _ => ?_)
      hsame
    · exact h.aside (r := ({ s with processStop := .entered }, []))
        (.of_frame ⟨rfl, rfl, rfl, rfl, by simp [Session.wasStopped, hidle]⟩)
    · exact hloop _ rfl (by rw [hpc]; rfl)
  · rename_i hpc
    exact h.finish hpc
  · rename_i hpc
    refine h.flushFinal hpc ?_
    refine h.giveUp (by rw [hpc]; rfl) (by rw [hpc]; rfl) ?_ ?_ ?_ ?_ ?_
    all_goals rfl
  · rename_i hpc
    refine h.exit hpc ?_
    refine h.giveUp (by rw [hpc]; rfl) (by rw [hpc]; rfl) ?_ ?_ ?_ ?_ ?_
    all_goals rfl
  · rename_i hpc
    exact h.move rfl rfl rfl rfl rfl rfl (by simp [Session.setAggregate])
      (fun _ => h.bare.drained (by rw [hpc]; rfl))
      (fun hl => absurd hl (by simp [Session.setAggregate, AggregatePc.live]))
      (fun hc => absurd hc (by simp [Session.setAggregate, AggregatePc.closing]))
  · rename_i hpc
    split
    · exact h.move rfl rfl rfl rfl rfl rfl (by simp [Session.setAggregate])
        (fun _ => h.bare.drained (by rw [hpc]; rfl))
        (fun hl => absurd hl (by simp [Session.setAggregate, AggregatePc.live]))
        (fun hc => absurd hc (by simp [Session.setAggregate, AggregatePc.closing]))
    · exact hsame
  · exact hsame

/-! ## Whole runs -/

theorem flow_init : Flow [] newSession := by
  refine ⟨⟨rfl, fun _ => ⟨rfl, rfl⟩, fun h => absurd h (by decide), fun h => absurd h (by decide),
    fun h => absurd h (by decide), fun h => absurd h (by decide), by simp, by simp⟩,
    fun _ _ => .inl ⟨rfl, fun _ => cutAt_nil, fun h => absurd h (by decide)⟩⟩

/-- **One step** of the session, of any goroutine. -/
theorem Flow.step {cfg : Config} {t : List Effect} {s : Session} (h : Flow t s)
    (e : SessionEvent) : Flow (t ++ (sessionStep cfg s e).2) (sessionStep cfg s e).1 := by
  by_cases haggregate : ∃ branch, e = .aggregate branch
  · obtain ⟨branch, rfl⟩ := haggregate
    show Flow (t ++ (aggregateStep cfg s branch).2) (aggregateStep cfg s branch).1
    unfold aggregateStep
    split
    · exact h.aggregateBody branch
    · exact h.aside (r := (s, [])) (.of_frame (.refl s))
  by_cases hread : ∃ data err viaCancel, e = .readPTY data err viaCancel
  · obtain ⟨data, err, viaCancel, rfl⟩ := hread
    exact h.readPTY data err viaCancel
  by_cases hresult : e = .ptyResult
  · subst hresult
    exact h.ptyResult
  exact h.aside (sessionStep_aside (fun data err viaCancel he => hread ⟨data, err, viaCancel, he⟩)
    hresult (fun branch he => haggregate ⟨branch, he⟩))

/-- The induction over a run. -/
theorem flow_run (cfg : Config) (es : List SessionEvent) :
    Flow ((sessionMachine cfg).trace es) ((sessionMachine cfg).run es) :=
  (sessionMachine cfg).history_invariant (P := fun _ _ => True) flow_init
    (fun _ _ e h _ => h.step e) es
    ((sessionMachine cfg).allSteps_of_forall (fun _ _ => trivial) _ _)

/-- Texts made of whole pieces of a valid stream are the stream. -/
theorem Delivered.texts_eq {A t : List Effect} (h : Delivered A t)
    (hvalid : valid (ptyStream t) = true) : (outputTexts A).flatten = ptyStream t := by
  have hall : ∀ raw ∈ rawSlices A, toValid raw = raw := by
    intro raw hraw
    refine toValid_of_valid (List.all_eq_true.mpr fun u hu => ?_)
    rw [Utf8.valid, h.whole] at hvalid
    exact List.all_eq_true.mp hvalid u (List.mem_flatMap.mpr ⟨raw, hraw, hu⟩)
  rw [h.texts, List.map_congr_left hall, List.map_id', h.stream]

/-- **An exit message comes after the whole output.** The bytes of the
output messages before it are exactly the bytes read from the terminal,
and their texts are that stream if it is valid. -/
theorem output_integrity (cfg : Config) (es : List SessionEvent) (before after : List Effect)
    (origin : Origin) (item : OutboundMessage)
    (htrace : (sessionMachine cfg).trace es = before ++ .enqueued origin item :: after)
    (hexit : item.message.type = .exit) :
    (rawSlices before).flatten = ptyStream ((sessionMachine cfg).trace es) ∧
      (valid (ptyStream ((sessionMachine cfg).trace es)) = true →
        (outputTexts before).flatten = ptyStream ((sessionMachine cfg).trace es)) := by
  have hdelivered := (flow_run cfg es).bare.exits before _ after htrace
    (by simp [Effect.isExit, hexit])
  exact ⟨hdelivered.stream, hdelivered.texts_eq⟩

/-- A shell that prints a line and exits. -/
theorem output_integrity_line :
    let cfg := defaultConfig (ascii "s") fun _ => none
    let es : List SessionEvent := [.run, .readPTY [0x68, 0x69, 0x0A] (some .eof) false, .ptyResult,
      .processExit (.status 0), .aggregate .chunk, .aggregate .process, .aggregate .reader,
      .aggregate .chunk, .aggregate .chunk, .aggregate .chunk, .aggregate .chunk]
    let before : List Effect := [.enqueued .session (helloMessage cfg), .read [0x68, 0x69, 0x0A],
      .enqueued (.pty [0x68, 0x69, 0x0A]) (outputMessage cfg [0x68, 0x69, 0x0A])]
    (sessionMachine cfg).trace es =
        before ++ [.enqueued .session (exitMessage cfg (.status 0))] ∧
      (rawSlices before).flatten = ptyStream ((sessionMachine cfg).trace es) ∧
      (outputTexts before).flatten = ptyStream ((sessionMachine cfg).trace es) := by
  intro cfg es before
  have htrace : (sessionMachine cfg).trace es =
      before ++ [.enqueued .session (exitMessage cfg (.status 0))] := by decide +kernel
  have h := output_integrity cfg es before [] _ _ htrace rfl
  exact ⟨htrace, h.1, h.2 (by rw [htrace]; decide +kernel)⟩

end Bootmux.Companion
