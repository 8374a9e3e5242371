/-
Bootmux.Bridge.DeliveryTheorems — a text the iPhone client sends is typed
once, in order, and acknowledged once.

The frames of `BLEChunker.frames` are read back by the bridge as the
parts of one operation (`frameOp_textFrame`). Fed in any order and with
any repetition within the reassembly timeout, they take the receiver
through two phases: it collects the parts until the last missing one
arrives and types the text, and from then on the sequence is in the
completed cache, so whatever else arrives is answered `DUPLICATE` at
most. `Phase` is the invariant that ties the two to the trace.

A feed is a list of frames with their two clock readings. What is counted is
the keys that are pressed and the answers that carry the sequence number,
both as functions of the trace, so the statement does not mention the state.
The state enters once, at the start: a session that is open, output that is
on, an empty buffer and a sequence number that is not in the cache.
-/
import Bootmux.Bmx1.FramingTheorems
import Bootmux.Iphone.ProtocolTheorems
import Bootmux.Bridge.StopTheorems

namespace Bootmux.Bridge

open Bootmux.Bmx1
open Bootmux.Lib
open Bootmux.Lib.Reassembly

/-! ## The frames of the client -/

/-- The fields of a text frame decode to its part. -/
theorem fieldsOp_text {session chunk : Bytes} {sequence : UInt32} {index total : Nat}
    (hindex : index < total) (htotal : total ≤ kMaxParts) :
    fieldsOp [ascii "BMX1", ascii "TEXT", session, decimal sequence.toNat, decimal index,
        decimal total, chunk] =
      some (.text ⟨sequence, total, index, chunk, session, hindex, htotal⟩) := by
  have hparts : kMaxParts = 32 := rfl
  have hmax : uint32Max = 4294967295 := rfl
  have hpart : textPart sequence [ascii "BMX1", ascii "TEXT", session,
      decimal sequence.toNat, decimal index, decimal total, chunk] =
      some ⟨sequence, total, index, chunk, session, hindex, htotal⟩ := by
    have hi := toNat_ofNat_of_le (n := index) (by omega)
    have ht := toNat_ofNat_of_le (n := total) (by omega)
    have hbounds : UInt32.ofNat total ≠ 0 ∧ (UInt32.ofNat total).toNat ≤ kMaxParts ∧
        UInt32.ofNat index < UInt32.ofNat total := by
      refine ⟨fun h0 => ?_, by omega, UInt32.lt_iff_toNat_lt.mpr (by omega)⟩
      rw [h0] at ht
      simp at ht
      omega
    simp only [textPart, fieldAt, List.getD_cons_succ, List.getD_cons_zero,
      parseUInt_decimal index (by omega), parseUInt_decimal total (by omega)]
    rw [dif_pos hbounds]
    simp only [hi, ht]
  simp only [fieldsOp, fieldAt, List.getD_cons_succ, List.getD_cons_zero, parseUInt_sequence,
    hpart]
  have hopen : ascii "TEXT" ≠ ascii "OPEN" := by decide +kernel
  have hctrl : ascii "TEXT" ≠ ascii "CTRL" := by decide +kernel
  simp [hopen, hctrl]

/-- **The bridge reads a frame of the client back as its part.** -/
theorem frameOp_textFrame {session chunk : Bytes} {sequence : UInt32} {index total : Nat}
    (hpipe : pipe ∉ session) (hback : backslash ∉ session) (hnul : (0 : UInt8) ∉ session)
    (hchunk : (0 : UInt8) ∉ chunk) (hindex : index < total) (htotal : total ≤ kMaxParts) :
    frameOp (Iphone.textFrame session sequence index total chunk) =
      some (.text ⟨sequence, total, index, chunk, session, hindex, htotal⟩) := by
  have hnulFree : (0 : UInt8) ∉ Iphone.textFrame session sequence index total chunk := by
    refine joinFields_nulFree ?_
    simp only [List.mem_cons, List.not_mem_nil, or_false]
    rintro f (rfl | rfl | rfl | rfl | rfl | rfl | rfl)
    · decide
    · decide
    · exact hnul
    · exact decimal_plain (by decide) _
    · exact decimal_plain (by decide) _
    · exact decimal_plain (by decide) _
    · exact Iphone.escape_nulFree hchunk
  have hself : ∀ n, Encodes (decimal n) (decimal n) := fun n =>
    encodes_self (decimal_plain (by decide) n) (decimal_plain (by decide) n)
  have hsplit : splitFrame (Iphone.textFrame session sequence index total chunk) =
      some [ascii "BMX1", ascii "TEXT", session, decimal sequence.toNat, decimal index,
        decimal total, chunk] := by
    refine splitFrame_joinFields ?_ (by simp) (by simp [maxFields])
    exact .cons (encodes_self (by decide) (by decide)) <|
      .cons (encodes_self (by decide) (by decide)) <| .cons (encodes_self hpipe hback) <|
      .cons (hself _) <| .cons (hself _) <| .cons (hself _) <|
      .cons (Iphone.escape_encodes chunk) .nil
  rw [frameOp, cString_of_nulFree hnulFree, hsplit, Option.bind_some]
  exact fieldsOp_text hindex htotal

/-! ## Feeds -/

/-- Milliseconds from `start` to a clock reading. -/
def elapsed (start t : UInt32) : Nat := (t - start).toNat

/-- Frames of `frames` in any order and any number, and timeout checks;
the clock readings, in order, lie between `d` ms and two seconds after
`start`. -/
def Feed (frames : List Bytes) (start : UInt32) : Nat → List Event → Prop
  | _, [] => True
  | d, .frame t₁ t₂ bytes :: rest =>
      bytes ∈ frames ∧ d ≤ elapsed start t₁ ∧ elapsed start t₁ ≤ elapsed start t₂ ∧
        elapsed start t₂ ≤ 2000 ∧ Feed frames start (elapsed start t₂) rest
  | d, .tick t :: rest =>
      d ≤ elapsed start t ∧ elapsed start t ≤ 2000 ∧ Feed frames start (elapsed start t) rest
  | _, _ :: _ => False

instance decidableFeed (frames : List Bytes) (start : UInt32) :
    ∀ (d : Nat) (feed : List Event), Decidable (Feed frames start d feed)
  | _, [] => .isTrue trivial
  | d, .frame t₁ t₂ bytes :: rest =>
      have := decidableFeed frames start (elapsed start t₂) rest
      inferInstanceAs (Decidable (bytes ∈ frames ∧ d ≤ elapsed start t₁ ∧
        elapsed start t₁ ≤ elapsed start t₂ ∧ elapsed start t₂ ≤ 2000 ∧
        Feed frames start (elapsed start t₂) rest))
  | d, .tick t :: rest =>
      have := decidableFeed frames start (elapsed start t) rest
      inferInstanceAs (Decidable (d ≤ elapsed start t ∧ elapsed start t ≤ 2000 ∧
        Feed frames start (elapsed start t) rest))
  | _, .connect :: _ => .isFalse id
  | _, .disconnect :: _ => .isFalse id

/-- Started at most `d` ms after `start`. -/
def OnTime (start : UInt32) (d : Nat) (t : UInt32) : Prop := elapsed start t ≤ d

/-- A part within two seconds of the first one is not too old. -/
theorem tooOld_of_onTime {start now t : UInt32} (hnow : elapsed start now ≤ 2000)
    (ht : OnTime start (elapsed start now) t) : tooOld now t = false := by
  have hsub : now - t = (now - start) - (t - start) := by grind
  have hle : t - start ≤ now - start := UInt32.le_iff_toNat_le.mpr ht
  rw [tooOld, decide_eq_false_iff_not, gt_iff_lt, UInt32.lt_iff_toNat_lt, hsub,
    UInt32.toNat_sub_of_le _ _ hle]
  simp only [elapsed] at hnow
  have : (2000 : UInt32).toNat = 2000 := rfl
  omega

/-- The answers to an operation. -/
def acksFor (session : Bytes) (sequence : UInt32) (t : List Effect) : List AckResult :=
  t.filterMap fun x => match x with
    | .ack σ q r => if σ = session ∧ q = sequence then some r else none
    | _ => none

/-- The answers to a message add up over two traces. -/
theorem acksFor_append (session : Bytes) (sequence : UInt32) (t u : List Effect) :
    acksFor session sequence (t ++ u) =
      acksFor session sequence t ++ acksFor session sequence u := List.filterMap_append

/-! ## The two phases -/

section Phases

variable (session : Bytes) (sequence : UInt32) (chunks : List Bytes) (start : UInt32)

/-- Parts are missing, and nothing has been typed or answered. -/
structure Collecting (d : Nat) (got : Nat → Prop) (t : List Effect) (s : State) : Prop where
  active : s.activeSession = session
  unlatched : s.stoppedLatch = false
  output : s.outputEnabled = true
  unseen : s.completed.seen sequence = false
  buffer : Collects sequence chunks.length (OnTime start d) (fun i => chunks.getD i []) got
    s.reassembly
  missing : ∃ i < chunks.length, ¬ got i
  silent : keysOf t = [] ∧ acksFor session sequence t = []

/-- The text has been typed and acknowledged, and only duplicates since. -/
structure Delivered (d : Nat) (t : List Effect) (s : State) : Prop where
  active : s.activeSession = session
  seen : s.completed.seen sequence = true
  buffer : Owned sequence chunks.length (OnTime start d) s.reassembly
  typed : keysOf t = typedKeys chunks.flatten
  answered : ∃ n, acksFor session sequence t = .applied :: List.replicate n .duplicate

variable {session sequence chunks start}

/-- The part with index `i` of the text. -/
def IsPart (session : Bytes) (sequence : UInt32) (chunks : List Bytes) (p : TextPart) : Prop :=
  p.key = sequence ∧ p.total = chunks.length ∧ p.payload = chunks.getD p.index [] ∧
    p.origin = session

/-- Marks of the buffer are no keys. -/
theorem keysOf_offer (ms : List TextMark) (t : List Effect) :
    keysOf (t ++ ms.map .text) = keysOf t := by simp

/-- Marks of the buffer are no answers. -/
theorem acksFor_offer (ms : List TextMark) (t : List Effect) :
    acksFor session sequence (t ++ ms.map .text) = acksFor session sequence t := by
  have hnil : acksFor session sequence (ms.map .text) = [] := by
    rw [acksFor, List.filterMap_eq_nil_iff]
    intro x hx
    obtain ⟨m, _, rfl⟩ := List.mem_map.mp hx
    rfl
  rw [acksFor_append, hnil, List.append_nil]

/-- Typing answers nothing. -/
theorem acksFor_typeASCII (s : State) (text : Bytes) :
    acksFor session sequence (typeASCII s text) = [] := by
  rw [acksFor, List.filterMap_eq_nil_iff]
  intro x hx
  rcases (typeASCII_effects hx).2 with rfl | ⟨c, rfl⟩ <;> rfl

/-- A part that completes the text is followed by the text. -/
theorem handleText_complete {s : State} {t₁ t₂ : UInt32} {p : TextPart}
    (h : (s.reassembly.offer t₁ (tooOld t₂) p).2.2 = .complete) :
    handleText s t₁ t₂ p =
      ((finishText { s with reassembly := (s.reassembly.offer t₁ (tooOld t₂) p).1 }
          s.activeSession p.key).1,
        (s.reassembly.offer t₁ (tooOld t₂) p).2.1.map .text ++
          (finishText { s with reassembly := (s.reassembly.offer t₁ (tooOld t₂) p).1 }
            s.activeSession p.key).2) := by
  rw [handleText, h]

/-- A part that does not is acknowledged, and waits. -/
theorem handleText_waiting {s : State} {t₁ t₂ : UInt32} {p : TextPart}
    (h : (s.reassembly.offer t₁ (tooOld t₂) p).2.2 = .waiting) :
    handleText s t₁ t₂ p =
      ({ s with reassembly := (s.reassembly.offer t₁ (tooOld t₂) p).1 },
        (s.reassembly.offer t₁ (tooOld t₂) p).2.1.map .text) := by
  rw [handleText, h]

/-- A part that arrives while parts are missing: it is kept, or it is the
last one and the text is typed. -/
theorem Collecting.text {d : Nat} {got : Nat → Prop} {t : List Effect} {s : State}
    (h : Collecting session sequence chunks start d got t s) {p : TextPart}
    (hp : IsPart session sequence chunks p) (hlen : chunks.flatten.length ≤ kMaxPayload)
    {t₁ t₂ : UInt32} (h₁ : d ≤ elapsed start t₁) (h₂ : elapsed start t₁ ≤ elapsed start t₂)
    (h₃ : elapsed start t₂ ≤ 2000) :
    Collecting session sequence chunks start (elapsed start t₂)
        (fun i => got i ∨ i = p.index) (t ++ (handleText s t₁ t₂ p).2) (handleText s t₁ t₂ p).1 ∨
      Delivered session sequence chunks start (elapsed start t₂)
        (t ++ (handleText s t₁ t₂ p).2) (handleText s t₁ t₂ p).1 := by
  obtain ⟨hkey, htotal, hpayload, _⟩ := hp
  have hbuffer : Collects sequence chunks.length (OnTime start (elapsed start t₂))
      (fun i => chunks.getD i []) got s.reassembly :=
    ⟨h.buffer.owned.mono fun t ht => Nat.le_trans ht (Nat.le_trans h₁ h₂),
      h.buffer.flags, h.buffer.parts⟩
  obtain ⟨hcollects, hout⟩ := offer_collects hbuffer t₁ (tooOld t₂) hkey htotal hpayload h₂
    fun t ht => tooOld_of_onTime h₃ ht
  rcases hout with ⟨hwait, hmissing⟩ | ⟨hcomplete, _, hmessage⟩
  · left
    rw [handleText_waiting hwait]
    exact ⟨h.active, h.unlatched, h.output, h.unseen, hcollects, hmissing,
      by rw [keysOf_offer, h.silent.1], by rw [acksFor_offer, h.silent.2]⟩
  · right
    have hflatten : (s.reassembly.offer t₁ (tooOld t₂) p).1.message.flatten = chunks.flatten := by
      rw [hmessage]
      congr 1
      refine List.ext_getElem? fun i => ?_
      by_cases hi : i < chunks.length
      · simp [hi, List.getD_eq_getElem?_getD]
      · simp [hi]
    rcases finishText_cases { s with reassembly := (s.reassembly.offer t₁ (tooOld t₂) p).1 }
      s.activeSession p.key with ⟨hq, _⟩ | ⟨_, hf, _⟩ | ⟨_, _, _, hover, _⟩ | ⟨_, _, _, _, hfin⟩
    · rw [hkey, h.unseen] at hq; cases hq
    · simp [h.unlatched, h.output] at hf
    · simp only [hflatten] at hover; omega
    · rw [handleText_complete hcomplete, hfin]
      refine ⟨h.active, ?_, Or.inl rfl, ?_, 0, ?_⟩
      · rw [hkey]; exact RecentRing.seen_remember _ _
      · simp only [keysOf_append, keysOf_map_text, h.silent.1]
        rw [keysOf_typeASCII (by exact h.output), hflatten]
        simp [keysOf, Effect.isKey]
      · rw [← List.append_assoc, acksFor_append, acksFor_offer, h.silent.2, acksFor_append,
          acksFor_append, acksFor_typeASCII]
        simp [acksFor, h.active, hkey]

/-- A part that arrives after the text was typed is answered at most with
`DUPLICATE`. -/
theorem Delivered.text {d : Nat} {t : List Effect} {s : State}
    (h : Delivered session sequence chunks start d t s) {p : TextPart}
    (hp : IsPart session sequence chunks p) {t₁ t₂ : UInt32} (h₁ : d ≤ elapsed start t₁)
    (h₂ : elapsed start t₁ ≤ elapsed start t₂) (h₃ : elapsed start t₂ ≤ 2000) :
    Delivered session sequence chunks start (elapsed start t₂)
      (t ++ (handleText s t₁ t₂ p).2) (handleText s t₁ t₂ p).1 := by
  obtain ⟨hkey, htotal, _, _⟩ := hp
  obtain ⟨n, hn⟩ := h.answered
  obtain ⟨howned, _, _, _, hout⟩ := offer_owned
    (h.buffer.mono fun t ht => Nat.le_trans ht (Nat.le_trans h₁ h₂)) t₁ (tooOld t₂) hkey htotal h₂
    fun t ht => tooOld_of_onTime h₃ ht
  split at hout
  · rcases finishText_cases { s with reassembly := (s.reassembly.offer t₁ (tooOld t₂) p).1 }
      s.activeSession p.key with ⟨_, hfin⟩ | ⟨hq, _⟩ | ⟨hq, _⟩ | ⟨hq, _⟩
    · rw [handleText_complete hout, hfin]
      refine ⟨h.active, h.seen, howned, ?_, n + 1, ?_⟩
      · rw [← List.append_assoc, keysOf_append, keysOf_offer, h.typed]
        simp [keysOf, Effect.isKey]
      · rw [← List.append_assoc, acksFor_append, acksFor_offer, hn, List.replicate_succ']
        simp [acksFor, h.active, hkey]
    all_goals rw [hkey] at hq; exact absurd (h.seen.symm.trans hq) (by simp)
  · rw [handleText_waiting hout]
    exact ⟨h.active, h.seen, howned, by rw [keysOf_offer, h.typed],
      n, by rw [acksFor_offer, hn]⟩

/-- The timeout check finds nothing to do. -/
theorem loopTimeout_owned {d : Nat} {s : State}
    (h : Owned sequence chunks.length (OnTime start d) s.reassembly) {t : UInt32}
    (h₁ : d ≤ elapsed start t) (h₂ : elapsed start t ≤ 2000) : loopTimeout s t = (s, []) := by
  unfold loopTimeout
  rw [if_neg]
  rintro ⟨hkey, hold⟩
  rcases h with h0 | ⟨_, _, hs⟩
  · exact hkey h0
  · rw [tooOld_of_onTime h₂ (Nat.le_trans hs h₁)] at hold
    cases hold

/-- One event of a feed keeps to the phases; `got'` are the parts after
it. -/
theorem phase_step {frames : List Bytes} {d : Nat} {got : Nat → Prop} {t : List Effect}
    {s : State} {e : Event} {rest : List Event}
    (hread : ∀ bytes ∈ frames, ∃ p, frameOp bytes = some (.text p) ∧
      IsPart session sequence chunks p)
    (hlen : chunks.flatten.length ≤ kMaxPayload) (hfeed : Feed frames start d (e :: rest))
    (h : Collecting session sequence chunks start d got t s ∨
      Delivered session sequence chunks start d t s) :
    ∃ d' got', Feed frames start d' rest ∧ (∀ i, got i → got' i) ∧
      (∀ p, e.op = some (.text p) → got' p.index) ∧
      (Collecting session sequence chunks start d' got' (t ++ (step s e).2) (step s e).1 ∨
        Delivered session sequence chunks start d' (t ++ (step s e).2) (step s e).1) := by
  cases e with
  | frame t₁ t₂ bytes =>
      obtain ⟨hmem, h₁, h₂, h₃, hrest⟩ := hfeed
      obtain ⟨p, hop, hp⟩ := hread bytes hmem
      have hsession : s.activeSession = session := h.elim (·.active) (·.active)
      have hstep : step s (.frame t₁ t₂ bytes) = handleText s t₁ t₂ p := by
        rw [step_frame hop, act, if_pos (hp.2.2.2.trans hsession.symm)]
      rw [hstep]
      refine ⟨elapsed start t₂, fun i => got i ∨ i = p.index, hrest, fun i hi => Or.inl hi,
        ?_, ?_⟩
      · intro q hq
        obtain rfl : p = q := by simpa [Event.op, hop] using hq
        exact Or.inr rfl
      · rcases h with h | h
        · exact h.text hp hlen h₁ h₂ h₃
        · exact Or.inr (h.text hp h₁ h₂ h₃)
  | tick now =>
      obtain ⟨h₁, h₂, hrest⟩ := hfeed
      have howned : Owned sequence chunks.length (OnTime start d) s.reassembly :=
        h.elim (·.buffer.owned) (·.buffer)
      have hmono : ∀ t, OnTime start d t → OnTime start (elapsed start now) t := fun t ht =>
        Nat.le_trans ht h₁
      refine ⟨elapsed start now, got, hrest, fun i hi => hi, by simp [Event.op], ?_⟩
      rw [step, loopTimeout_owned howned h₁ h₂, List.append_nil]
      rcases h with h | h
      · exact Or.inl { h with buffer := ⟨howned.mono hmono, h.buffer.flags, h.buffer.parts⟩ }
      · exact Or.inr { h with buffer := howned.mono hmono }
  | connect => exact hfeed.elim
  | disconnect => exact hfeed.elim

/-- A whole feed keeps to the phases. -/
theorem phase_run {frames : List Bytes}
    (hread : ∀ bytes ∈ frames, ∃ p, frameOp bytes = some (.text p) ∧
      IsPart session sequence chunks p)
    (hlen : chunks.flatten.length ≤ kMaxPayload) :
    ∀ (feed : List Event) (d : Nat) (got : Nat → Prop) (t : List Effect) (s : State),
      Feed frames start d feed →
      (Collecting session sequence chunks start d got t s ∨
        Delivered session sequence chunks start d t s) →
      ∃ d' got', (∀ i, got i → got' i) ∧
        (∀ e ∈ feed, ∀ p, e.op = some (.text p) → got' p.index) ∧
        (Collecting session sequence chunks start d' got' (t ++ receiver.traceFrom s feed)
            (receiver.runFrom s feed) ∨
          Delivered session sequence chunks start d' (t ++ receiver.traceFrom s feed)
            (receiver.runFrom s feed))
  | [], d, got, t, s, _, h => ⟨d, got, fun _ hi => hi, by simp, by simpa using h⟩
  | e :: rest, d, got, t, s, hfeed, h => by
      obtain ⟨d₁, got₁, hrest, hmono₁, hpart₁, h₁⟩ := phase_step hread hlen hfeed h
      obtain ⟨d₂, got₂, hmono₂, hpart₂, h₂⟩ := phase_run hread hlen rest d₁ got₁ _ _ hrest h₁
      refine ⟨d₂, got₂, fun i hi => hmono₂ i (hmono₁ i hi), ?_, ?_⟩
      · intro e' he' p hp
        rcases List.mem_cons.mp he' with rfl | he'
        · exact hmono₂ _ (hpart₁ p hp)
        · exact hpart₂ e' he' p hp
      · rw [List.append_assoc] at h₂
        exact h₂

end Phases

/-! ## Delivery -/

/-- **End-to-end delivery of a text.** In every reachable state of the
bridge with the session open, output on and an idle buffer, feeding the
frames of the client in any order, each at least once, within two
seconds types exactly the text, and answers `APPLIED` once and nothing
but `DUPLICATE` after that. -/
theorem text_delivered (maximumWriteBytes : Int) (session : Bytes) (sequence : UInt32)
    (text : Bytes) (frames : List Bytes) (es feed : List Event) (start : UInt32)
    (hframes : Iphone.frames maximumWriteBytes session sequence text = .ok frames)
    (hascii : ∀ c ∈ text, 0x20 ≤ c ∧ c ≤ 0x7E) (hnul : (0 : UInt8) ∉ session)
    (hunseen : (receiver.run es).completed.seen sequence = false)
    (hsession : (receiver.run es).activeSession = session)
    (houtput : (receiver.run es).outputEnabled = true)
    (hempty : (receiver.run es).reassembly = Buffer.empty)
    (hfeed : Feed frames start 0 feed)
    (hall : ∀ bytes ∈ frames, ∃ t₁ t₂, .frame t₁ t₂ bytes ∈ feed) :
    keysOf (receiver.traceFrom (receiver.run es) feed) = text.map .write ∧
    ∃ n, acksFor session sequence (receiver.traceFrom (receiver.run es) feed) =
      .applied :: List.replicate n .duplicate := by
  obtain ⟨chunks, rfl, hne, hparts, hlen, hpipe, hback, hcount, hget⟩ := Iphone.frames_ok hframes
  have hprintable : (chunks.flatten.filter printable) = chunks.flatten := by
    rw [List.filter_eq_self]
    intro c hc
    obtain ⟨hlo, hhi⟩ := hascii c hc
    simp [printable, UInt8.not_lt.mpr hlo, UInt8.not_lt.mpr hhi]
  have hchunkNul : ∀ chunk ∈ chunks, (0 : UInt8) ∉ chunk := by
    intro chunk hchunk h0
    exact absurd (hascii 0 (List.mem_flatten.mpr ⟨chunk, hchunk, h0⟩)).1 (by decide)
  have hframeOp : ∀ i (hi : i < chunks.length), ∃ bytes, frames[i]? = some bytes ∧
      frameOp bytes =
        some (.text ⟨sequence, chunks.length, i, chunks.getD i [], session, hi, hparts⟩) := by
    intro i hi
    obtain ⟨chunk, hchunk⟩ : ∃ chunk, chunks[i]? = some chunk := ⟨_, List.getElem?_eq_getElem hi⟩
    refine ⟨_, hget i chunk hchunk, ?_⟩
    rw [frameOp_textFrame hpipe hback hnul
      (hchunkNul chunk (List.mem_iff_getElem?.mpr ⟨i, hchunk⟩)) hi hparts]
    simp [hchunk]
  have hread : ∀ bytes ∈ frames, ∃ p, frameOp bytes = some (.text p) ∧
      IsPart session sequence chunks p := by
    intro bytes hbytes
    obtain ⟨i, hi⟩ := List.mem_iff_getElem?.mp hbytes
    obtain ⟨hlt, _⟩ := List.getElem?_eq_some_iff.mp hi
    obtain ⟨bytes', hb, hop⟩ := hframeOp i (hcount ▸ hlt)
    obtain rfl : bytes = bytes' := Option.some.inj (hi.symm.trans hb)
    exact ⟨_, hop, rfl, rfl, rfl, rfl⟩
  have hlatch : (receiver.run es).stoppedLatch = false :=
    (receiver.history_invariant (P := fun _ _ => True) (I := LatchOk) ⟨rfl, fun _ => rfl, trivial⟩
      (fun t s e h _ => latchOk_step t s e h) es
      (receiver.allSteps_of_forall (fun _ _ => trivial) _ _)).output houtput
  have hstart : Collecting session sequence chunks start 0 (fun _ => False) []
      (receiver.run es) := by
    refine ⟨hsession, hlatch, houtput, hunseen, ?_, ⟨0, List.length_pos_iff.mpr hne, id⟩,
      rfl, rfl⟩
    rw [hempty]
    exact ⟨Or.inl rfl, fun i => by simp, fun i hi => hi.elim⟩
  obtain ⟨_, got, _, hgot, hphase⟩ := phase_run hread hlen feed 0 _ [] _ hfeed (Or.inl hstart)
  simp only [List.nil_append] at hphase
  rcases hphase with hcollecting | hdelivered
  · -- every part was fed, so none is missing
    obtain ⟨i, hi, hmissing⟩ := hcollecting.missing
    obtain ⟨bytes, hb, hop⟩ := hframeOp i hi
    obtain ⟨t₁, t₂, hmem⟩ := hall bytes (List.mem_iff_getElem?.mpr ⟨i, hb⟩)
    exact absurd (hgot _ hmem _ hop) hmissing
  · refine ⟨?_, hdelivered.answered⟩
    rw [hdelivered.typed, typedKeys, hprintable]

/-- A text in three parts, sent out of order and with repetitions. -/
theorem text_delivered_three_parts :
    let frames := [ascii "BMX1|TEXT|s|7|0|3|a\\|", ascii "BMX1|TEXT|s|7|1|3|bcd",
      ascii "BMX1|TEXT|s|7|2|3|e"]
    let feed : List Event := [.frame 5 5 (ascii "BMX1|TEXT|s|7|2|3|e"), .tick 9,
      .frame 20 21 (ascii "BMX1|TEXT|s|7|0|3|a\\|"),
      .frame 30 31 (ascii "BMX1|TEXT|s|7|2|3|e"), .frame 40 41 (ascii "BMX1|TEXT|s|7|1|3|bcd"),
      .frame 50 51 (ascii "BMX1|TEXT|s|7|1|3|bcd")]
    Iphone.frames 45 (ascii "s") 7 (ascii "a|bcde") = .ok frames ∧
    keysOf (receiver.traceFrom (receiver.run [.frame 0 0 (ascii "BMX1|OPEN|s")]) feed) =
      (ascii "a|bcde").map .write := by
  intro frames feed
  have hframes : Iphone.frames 45 (ascii "s") 7 (ascii "a|bcde") = .ok frames := rfl
  refine ⟨hframes, (text_delivered 45 (ascii "s") 7 (ascii "a|bcde") frames
    [.frame 0 0 (ascii "BMX1|OPEN|s")] feed 0 hframes (by decide +kernel) (by decide +kernel)
    (by decide +kernel) rfl rfl rfl (by decide +kernel) ?_).1⟩
  intro bytes hbytes
  simp only [frames, List.mem_cons, List.not_mem_nil, or_false] at hbytes
  rcases hbytes with rfl | rfl | rfl
  · exact ⟨20, 21, List.mem_iff_getElem?.mpr ⟨2, rfl⟩⟩
  · exact ⟨40, 41, List.mem_iff_getElem?.mpr ⟨4, rfl⟩⟩
  · exact ⟨5, 5, List.mem_iff_getElem?.mpr ⟨0, rfl⟩⟩

end Bootmux.Bridge
