/-
Bootmux.Iphone.ChunkerTheorems — when the frames of a text respect the
write limit, and which texts have frames at all.

`frames_eq_ok_iff` says when `frames` returns and what. The size test of
its loop estimates the rest of a frame by `overhead`, 22 bytes more than
the rest can be, and it is made only for a chunk that has a character
already. So there are two cases. With room for the estimate and two
bytes, a chunk of several characters is within the limit by the test and
a chunk of one character by the estimate. Without that room every
character is a chunk of its own (`chunksOf_tight`), and a frame is as
long as it is, whatever the limit.

`frames_within_limit_iff` puts the two together. `printable_encodable`
is the other half: a chunk that is not the last has at least 16 bytes,
so 512 bytes make no more than 32 parts.

The frames are compared with the limit through their parts: the fixed
fields, the decimal numbers and the escaped chunk (`frameBytes`). The
condition of the first result is on the text and the limit, and leaves to
the chunker what it refuses: a text without printable characters, a session
of the wrong form, more than 32 parts.
-/
import Bootmux.Iphone.ProtocolTheorems

namespace Bootmux.Iphone

open Bootmux.Bmx1

/-! ## The length of a frame -/

theorem escape_append (a b : Bytes) : escape (a ++ b) = escape a ++ escape b := by
  induction a with
  | nil => rfl
  | cons c a ih => rw [List.cons_append, escape_cons, escape_cons, ih, List.append_assoc]

theorem length_escapeByte (c : UInt8) :
    1 ≤ (escapeByte c).length ∧ (escapeByte c).length ≤ 2 := by
  unfold escapeByte
  split_ifs <;> simp

/-- Escaping makes a text at most twice as long. -/
theorem length_escape (value : Bytes) :
    value.length ≤ (escape value).length ∧ (escape value).length ≤ 2 * value.length := by
  induction value with
  | nil => decide
  | cons c value ih =>
      have hc := length_escapeByte c
      rw [escape_cons, List.length_append, List.length_cons]
      omega

theorem length_decimal_part {n : Nat} (h : n < 100) :
    1 ≤ (decimal n).length ∧ (decimal n).length ≤ 2 := by
  constructor
  · exact List.length_pos_iff.mpr (decimal_ne_nil n)
  · rw [decimal, List.length_map, Nat.length_toDigits_le_iff (by decide) (by decide)]
    omega

/-- The bytes of the frame of part `index` of `total`. -/
def frameBytes (session : Bytes) (sequence : UInt32) (index total : Nat) (chunk : Bytes) : Nat :=
  14 + session.length + (decimal sequence.toNat).length + (decimal index).length +
    (decimal total).length + (escape chunk).length

/-- A frame has its overhead, its digits and its escaped chunk. -/
theorem length_textFrame (session : Bytes) (sequence : UInt32) (index total : Nat)
    (chunk : Bytes) : (textFrame session sequence index total chunk).length =
      frameBytes session sequence index total chunk := by
  have hmagic : (ascii "BMX1").length = 4 := by decide
  have htype : (ascii "TEXT").length = 4 := by decide
  simp only [textFrame, frameBytes, joinFields, List.length_append, List.length_cons, hmagic,
    htype]
  omega

/-! ## What the makers of frames accept -/

/-- The sessions `validSession` lets through. -/
def SessionOk (session : Bytes) : Prop :=
  session ≠ [] ∧ pipe ∉ session ∧ backslash ∉ session

instance (session : Bytes) : Decidable (SessionOk session) :=
  inferInstanceAs (Decidable (_ ∧ _ ∧ _))

/-- A session is valid exactly if it is not empty and has no separator. -/
theorem validSession_eq (session : Bytes) :
    validSession session = if SessionOk session then .ok session else .error .emptySession := by
  unfold validSession SessionOk
  by_cases hnil : session = [] <;> by_cases hpipe : pipe ∈ session <;>
    by_cases hback : backslash ∈ session <;> simp [hnil, hpipe, hback]

/-- Fields are framed exactly if they fit into a frame. -/
theorem frame_eq_ok_iff (fields : List Bytes) (bytes : Bytes) :
    frame fields = .ok bytes ↔
      (joinFields fields).length ≤ maximumCommittedBytes ∧ bytes = joinFields fields := by
  unfold frame
  dsimp only
  split
  · next h => exact ⟨fun hf => (nomatch hf), fun hf => absurd hf.1 (by omega)⟩
  · next h =>
      constructor
      · intro hf
        exact ⟨by omega, (Except.ok.inj hf).symm⟩
      · rintro ⟨-, rfl⟩
        rfl

/-- A part of a text is framed exactly if the session is valid and it fits. -/
theorem text_eq_ok_iff {session : Bytes} {sequence : UInt32} {part total : Nat}
    {payload bytes : Bytes} (hpart : part < total) (htotal : total ≤ maximumParts) :
    text session sequence part total payload = .ok bytes ↔
      (SessionOk session ∧
        frameBytes session sequence part total payload ≤ maximumCommittedBytes) ∧
      bytes = textFrame session sequence part total payload := by
  have hbounds : (!(decide (0 < total) && decide (total ≤ maximumParts) &&
      decide (part < total))) = false := by
    simp [htotal, hpart, Nat.zero_lt_of_lt hpart]
  rw [text, if_neg (by simp [hbounds]), validSession_eq]
  by_cases hs : SessionOk session
  · rw [if_pos hs]
    simp only [bind, Except.bind, frame_eq_ok_iff, hs, true_and]
    rw [← length_textFrame]
    rfl
  · rw [if_neg hs]
    exact ⟨fun h => (nomatch h), fun h => absurd h.1.1 hs⟩

/-- A list of calls each of which returns under a condition. -/
theorem mapM_eq_ok_iff {α β ε : Type} {f : α → Except ε β} {P : α → Prop} {g : α → β}
    {xs : List α} {ys : List β} (hf : ∀ x ∈ xs, ∀ y, f x = .ok y ↔ P x ∧ y = g x) :
    xs.mapM f = .ok ys ↔ (∀ x ∈ xs, P x) ∧ ys = xs.map g := by
  induction xs generalizing ys with
  | nil =>
      simp only [List.mapM_nil, List.map_nil, pure, Except.pure, Except.ok.injEq]
      exact ⟨fun h => ⟨fun x hx => (List.not_mem_nil hx).elim, h.symm⟩, fun h => h.2.symm⟩
  | cons x xs ih =>
      have hx := hf x List.mem_cons_self
      have hxs := fun ys => @ih ys fun y hy => hf y (List.mem_cons_of_mem x hy)
      rw [List.mapM_cons]
      by_cases hp : P x
      · rw [(hx (g x)).mpr ⟨hp, rfl⟩]
        cases hm : xs.mapM f with
        | error e =>
            constructor
            · intro h
              cases h
            · rintro ⟨hall, -⟩
              have := (hxs (xs.map g)).mpr ⟨fun y hy => hall y (List.mem_cons_of_mem x hy), rfl⟩
              rw [hm] at this
              cases this
        | ok zs =>
            obtain ⟨hall, rfl⟩ := (hxs zs).mp hm
            constructor
            · intro h
              refine ⟨fun y hy => ?_, (Except.ok.inj h).symm⟩
              rcases List.mem_cons.mp hy with rfl | hy
              · exact hp
              · exact hall y hy
            · rintro ⟨-, rfl⟩
              rfl
      · cases hfx : f x with
        | error e =>
            constructor
            · intro h
              cases h
            · rintro ⟨hall, -⟩
              exact absurd (hall x List.mem_cons_self) hp
        | ok y => exact absurd ((hx y).mp hfx).1 hp

/-- **When `frames` returns, and what.** -/
theorem frames_eq_ok_iff {maximum : Int} {session : Bytes} {sequence : UInt32} {text : Bytes}
    {fs : List Bytes} {chunks : List Bytes}
    (hchunks : chunksOf maximum session sequence text = chunks) :
    frames maximum session sequence text = .ok fs ↔
      text.all sendable = true ∧ text.length ≤ maximumCommittedBytes ∧
        chunks.length ≤ maximumParts ∧ SessionOk session ∧
        (∀ x ∈ chunks.zipIdx, frameBytes session sequence x.2 chunks.length x.1 ≤
          maximumCommittedBytes) ∧
        fs = chunks.zipIdx.map fun x => textFrame session sequence x.2 chunks.length x.1 := by
  unfold frames
  rw [hchunks]
  by_cases hsend : text.all sendable = true
  · rw [if_neg (by simp [hsend])]
    by_cases hlen : text.length ≤ maximumCommittedBytes
    · rw [if_neg (by omega)]
      dsimp only
      by_cases hparts : chunks.length ≤ maximumParts
      · have hne : chunks ≠ [] := hchunks ▸ chunksOf_ne_nil maximum session sequence text
        obtain ⟨first, hfirst⟩ := List.exists_mem_of_ne_nil _ (show chunks.zipIdx ≠ [] by
          rw [ne_eq, List.zipIdx_eq_nil_iff]
          exact hne)
        rw [if_neg (by omega), mapM_eq_ok_iff fun x hx y =>
          text_eq_ok_iff (List.mem_zipIdx' hx).1 hparts]
        simp only [hsend, hlen, hparts, true_and]
        constructor
        · rintro ⟨hall, hfs⟩
          exact ⟨(hall first hfirst).1, fun x hx => (hall x hx).2, hfs⟩
        · rintro ⟨hs, hall, hfs⟩
          exact ⟨fun x hx => ⟨hs, hall x hx⟩, hfs⟩
      · rw [if_pos (by omega)]
        exact ⟨fun h => (nomatch h), fun h => absurd h.2.2.1 hparts⟩
    · rw [if_pos (by omega)]
      exact ⟨fun h => (nomatch h), fun h => absurd h.2.1 hlen⟩
  · rw [if_pos (by simpa using hsend)]
    exact ⟨fun h => (nomatch h), fun h => absurd h.1 hsend⟩

/-! ## Chunks -/

/-- What a chunk may be: one character, or within the estimate. -/
def Estimated (maximum : Int) (overhead : Nat) (characters : List Bytes) (chunk : Bytes) : Prop :=
  chunk ∈ characters ∨ (((escape chunk).length + overhead : Nat) : Int) ≤ maximum

/-- Each chunk of the loop is one that the estimate allows. -/
theorem chunkLoop_mem {maximum : Int} {overhead : Nat} {all : List Bytes}
    (rest chunks : List Bytes) (current : Bytes) (hrest : ∀ c ∈ rest, c ∈ all)
    (hchunks : ∀ c ∈ chunks, Estimated maximum overhead all c)
    (hcurrent : current = [] ∨ Estimated maximum overhead all current) :
    (∀ c ∈ (chunkLoop maximum overhead chunks current rest).1,
      Estimated maximum overhead all c) ∧
    ((chunkLoop maximum overhead chunks current rest).2 = [] ∨
      Estimated maximum overhead all (chunkLoop maximum overhead chunks current rest).2) := by
  induction rest generalizing chunks current with
  | nil => exact ⟨hchunks, hcurrent⟩
  | cons character rest ih =>
      have hcharacter : Estimated maximum overhead all character :=
        .inl (hrest character List.mem_cons_self)
      have htail : ∀ c ∈ rest, c ∈ all := fun c hc => hrest c (List.mem_cons_of_mem _ hc)
      rw [chunkLoop]
      split
      · next h =>
          rw [Bool.and_eq_true, Bool.not_eq_true', List.isEmpty_eq_false_iff] at h
          refine ih (chunks ++ [current]) character htail ?_ (.inr hcharacter)
          intro c hc
          rcases List.mem_append.mp hc with hc | hc
          · exact hchunks c hc
          · obtain rfl := List.mem_singleton.mp hc
            exact hcurrent.resolve_left h.1
      · next h =>
          refine ih chunks (current ++ character) htail hchunks (.inr ?_)
          rw [Bool.and_eq_true, Bool.not_eq_true', List.isEmpty_eq_false_iff, not_and_or,
            not_not, decide_eq_true_eq, not_lt] at h
          rcases h with rfl | h
          · exact hcharacter
          · exact .inr h

/-- The characters of a text as chunks; an empty text is one chunk. -/
def pieces (text : Bytes) : List Bytes := if text.isEmpty then [[]] else characters text

/-- `overhead` of the source. -/
def overhead (session : Bytes) (sequence : UInt32) : Nat :=
  32 + session.length + (decimal sequence.toNat).length + 8

theorem chunksOf_mem {maximum : Int} {session : Bytes} {sequence : UInt32} {text chunk : Bytes}
    (h : chunk ∈ chunksOf maximum session sequence text) :
    Estimated maximum (overhead session sequence) (pieces text) chunk := by
  cases text with
  | nil =>
      obtain rfl : chunk = [] := by simpa [chunksOf, characters, chunkLoop] using h
      exact .inl (by simp [pieces])
  | cons b text =>
      have hloop := @chunkLoop_mem maximum (overhead session sequence) _
        (characters (b :: text)) [] [] (fun c hc => hc) (by simp) (.inl rfl)
      unfold chunksOf at h
      dsimp only at h
      split at h
      · next hlast =>
          rcases List.mem_append.mp h with h | h
          · exact hloop.1 chunk h
          · obtain rfl := List.mem_singleton.mp h
            exact hloop.2.resolve_left (by simpa [overhead] using hlast)
      · exact hloop.1 chunk h

/-- No character is empty. -/
theorem characters_ne_nil : ∀ (text : Bytes), ∀ c ∈ characters text, c ≠ []
  | [], _, h => (List.not_mem_nil h).elim
  | [b], c, h => by
      obtain rfl := List.mem_singleton.mp h
      exact List.cons_ne_nil _ _
  | b :: d :: rest, c, h => by
      rw [characters] at h
      split at h
      · rcases List.mem_cons.mp h with rfl | h
        · exact List.cons_ne_nil _ _
        · exact characters_ne_nil rest c h
      · rcases List.mem_cons.mp h with rfl | h
        · exact List.cons_ne_nil _ _
        · exact characters_ne_nil (d :: rest) c h

/-- Without room for two bytes the loop ends a chunk at each character. -/
theorem chunkLoop_tight {maximum : Int} {overhead : Nat} (h : maximum < (overhead + 2 : Nat))
    (rest chunks : List Bytes) (current : Bytes) (hcurrent : current ≠ [])
    (hrest : ∀ c ∈ rest, c ≠ []) :
    (chunkLoop maximum overhead chunks current rest).2 ≠ [] ∧
      (chunkLoop maximum overhead chunks current rest).1 ++
        [(chunkLoop maximum overhead chunks current rest).2] = chunks ++ current :: rest := by
  induction rest generalizing chunks current with
  | nil => exact ⟨hcurrent, rfl⟩
  | cons character rest ih =>
      have hcharacter := hrest character List.mem_cons_self
      have hlong : (((escape (current ++ character)).length + overhead : Nat) : Int) > maximum := by
        have hlen := (length_escape (current ++ character)).1
        have hc := List.length_pos_iff.mpr hcurrent
        have hd := List.length_pos_iff.mpr hcharacter
        rw [List.length_append] at hlen
        omega
      rw [chunkLoop]
      rw [if_pos (by simp only [Bool.and_eq_true, Bool.not_eq_true', List.isEmpty_eq_false_iff]
                     exact ⟨hcurrent, decide_eq_true hlong⟩)]
      have hnext := ih (chunks ++ [current]) character hcharacter fun c hc =>
        hrest c (List.mem_cons_of_mem _ hc)
      refine ⟨hnext.1, hnext.2.trans ?_⟩
      rw [List.append_assoc, List.singleton_append]

/-- Without room for two bytes every character is a chunk. -/
theorem chunksOf_tight {maximum : Int} {session : Bytes} {sequence : UInt32}
    (h : maximum < (overhead session sequence + 2 : Nat)) (text : Bytes) :
    chunksOf maximum session sequence text = pieces text := by
  cases text with
  | nil => rfl
  | cons b text =>
      obtain ⟨first, rest, hsplit⟩ := List.exists_cons_of_ne_nil (show characters (b :: text) ≠ []
        from fun hnil => by simpa [hnil] using characters_flatten (b :: text))
      have hne : ∀ c ∈ first :: rest, c ≠ [] := hsplit ▸ characters_ne_nil (b :: text)
      obtain ⟨hlast, hall⟩ := chunkLoop_tight h rest [] first (hne first List.mem_cons_self)
        fun c hc => hne c (List.mem_cons_of_mem _ hc)
      have hstep : chunkLoop maximum (overhead session sequence) [] [] (first :: rest) =
          chunkLoop maximum (overhead session sequence) [] first rest := rfl
      unfold chunksOf
      dsimp only
      rw [hsplit, ← overhead, hstep, if_pos (by simp [hlast]), hall, pieces, hsplit]
      rfl

/-! ## The write limit -/

/-- The payload field of a frame, unescaped. -/
def payloadOf (frame : Bytes) : Option Bytes :=
    (splitFrame frame).map fun fields => fieldAt fields 6

/-- `frames` throws, or its frames are within the limit and carry the
text. -/
def RespectsLimit (maximum : Int) (session : Bytes) (sequence : UInt32) (text : Bytes) : Prop :=
  ∀ fs, frames maximum session sequence text = .ok fs →
    (∀ f ∈ fs, (f.length : Int) ≤ maximum) ∧
      ∃ payloads, fs.mapM payloadOf = some payloads ∧ payloads.flatten = text

/-- The receiver reads the chunk that was framed. -/
theorem payloadOf_textFrame {session : Bytes} (hpipe : pipe ∉ session)
    (hback : backslash ∉ session) (sequence : UInt32) (index total : Nat) (chunk : Bytes) :
    payloadOf (textFrame session sequence index total chunk) = some chunk := by
  have hdecimal : ∀ n, Encodes (decimal n) (decimal n) := fun n =>
    encodes_self (decimal_plain (by decide) n) (decimal_plain (by decide) n)
  rw [payloadOf, textFrame, @splitFrame_joinFields [ascii "BMX1", ascii "TEXT", session,
    decimal sequence.toNat, decimal index, decimal total, chunk] _
    (.cons (encodes_self (by decide) (by decide)) (.cons (encodes_self (by decide) (by decide))
      (.cons (encodes_self hpipe hback) (.cons (hdecimal _) (.cons (hdecimal _)
        (.cons (hdecimal _) (.cons (escape_encodes chunk) .nil))))))) (by simp)
        (by simp [maxFields])]
  rfl

/-- The receiver reads all chunks. -/
theorem payloads_mapM {session : Bytes} (hs : SessionOk session) (sequence : UInt32)
    (total : Nat) (xs : List (Bytes × Nat)) :
    (xs.map fun x => textFrame session sequence x.2 total x.1).mapM payloadOf =
      some (xs.map Prod.fst) := by
  induction xs with
  | nil => rfl
  | cons x xs ih =>
      rw [List.map_cons, List.mapM_cons, payloadOf_textFrame hs.2.1 hs.2.2, ih]
      rfl

/-- `frames` throws for a text whose characters are chunks of their own. -/
def RefusedPieces (session : Bytes) (sequence : UInt32) (text : Bytes) : Prop :=
  text.all sendable = false ∨ maximumCommittedBytes < text.length ∨
    maximumParts < (pieces text).length ∨ ¬ SessionOk session ∨
    ∃ x ∈ (pieces text).zipIdx,
      maximumCommittedBytes < frameBytes session sequence x.2 (pieces text).length x.1

/-- Every frame that carries one character is within the limit. -/
def PiecesFit (maximum : Int) (session : Bytes) (sequence : UInt32) (text : Bytes) : Prop :=
  ∀ x ∈ (pieces text).zipIdx,
    (frameBytes session sequence x.2 (pieces text).length x.1 : Int) ≤ maximum

/-- A character has at most two bytes. -/
theorem length_characters : ∀ (text : Bytes), ∀ c ∈ characters text, c.length ≤ 2
  | [], _, h => (List.not_mem_nil h).elim
  | [b], c, h => by
      obtain rfl := List.mem_singleton.mp h
      exact Nat.le_succ 1
  | b :: d :: rest, c, h => by
      rw [characters] at h
      split at h
      · rcases List.mem_cons.mp h with rfl | h
        · exact le_rfl
        · exact length_characters rest c h
      · rcases List.mem_cons.mp h with rfl | h
        · exact Nat.le_succ 1
        · exact length_characters (d :: rest) c h

theorem length_pieces {text chunk : Bytes} (h : chunk ∈ pieces text) : chunk.length ≤ 2 := by
  unfold pieces at h
  split at h
  · obtain rfl := List.mem_singleton.mp h
    exact Nat.zero_le 2
  · exact length_characters text chunk h

/-- With room for the estimate and two bytes every frame is within the
limit. -/
theorem frames_within_estimate {maximum : Int} {session : Bytes} {sequence : UInt32}
    {text : Bytes} (h : (session.length + (decimal sequence.toNat).length + 22 : Nat) ≤ maximum)
    (hparts : (chunksOf maximum session sequence text).length ≤ maximumParts)
    {x : Bytes × Nat} (hx : x ∈ (chunksOf maximum session sequence text).zipIdx) :
    (frameBytes session sequence x.2 (chunksOf maximum session sequence text).length x.1 : Int) ≤
      maximum := by
  obtain ⟨hindex, hchunk⟩ := List.mem_zipIdx' hx
  have hmem : x.1 ∈ chunksOf maximum session sequence text := hchunk ▸ List.getElem_mem hindex
  simp only [maximumParts] at hparts
  have hindex' := (length_decimal_part (n := x.2) (by omega)).2
  have htotal := (length_decimal_part
    (n := (chunksOf maximum session sequence text).length) (by omega)).2
  unfold frameBytes
  rcases chunksOf_mem hmem with hone | hfits
  · have hescape := (length_escape x.1).2
    have htwo := length_pieces hone
    omega
  · unfold overhead at hfits
    omega

/-- **When the frames respect the write limit.** -/
theorem frames_within_limit_iff (maximum : Int) (session : Bytes) (sequence : UInt32)
    (text : Bytes) :
    RespectsLimit maximum session sequence text ↔
      (session.length + (decimal sequence.toNat).length + 22 : Nat) ≤ maximum ∨
        RefusedPieces session sequence text ∨ PiecesFit maximum session sequence text := by
  constructor
  · intro h
    by_cases hroom : (session.length + (decimal sequence.toNat).length + 22 : Nat) ≤ maximum
    · exact .inl hroom
    · refine .inr ?_
      by_cases hrefused : RefusedPieces session sequence text
      · exact .inl hrefused
      · simp only [RefusedPieces, not_or, not_exists, not_and, not_lt, not_not,
          Bool.not_eq_false] at hrefused
        obtain ⟨hsend, hlen, hparts, hs, hall⟩ := hrefused
        -- every character is a chunk of its own, and `frames` returns
        have hchunks := @chunksOf_tight maximum session sequence (by unfold overhead; omega) text
        have hok := (frames_eq_ok_iff hchunks).mpr ⟨hsend, hlen, hparts, hs, hall, rfl⟩
        refine .inr fun x hx => ?_
        rw [← length_textFrame]
        exact (h _ hok).1 _ (List.mem_map_of_mem hx)
  · intro h fs hok
    obtain ⟨hsend, hlen, hparts, hs, hall, rfl⟩ := (frames_eq_ok_iff rfl).mp hok
    refine ⟨fun f hf => ?_, _, payloads_mapM hs sequence _ _, ?_⟩
    · obtain ⟨x, hx, rfl⟩ := List.mem_map.mp hf
      rw [length_textFrame]
      by_cases hroom : (session.length + (decimal sequence.toNat).length + 22 : Nat) ≤ maximum
      · exact frames_within_estimate hroom hparts hx
      · rw [chunksOf_tight (by unfold overhead; omega) text] at hx hparts hall ⊢
        rcases h.resolve_left hroom with hrefused | hfit
        · rcases hrefused with hr | hr | hr | hr | ⟨y, hy, hr⟩
          · rw [hsend] at hr
            cases hr
          · exact absurd hlen (by omega)
          · exact absurd hparts (by omega)
          · exact absurd hs hr
          · exact absurd (hall y hy) (by omega)
        · exact hfit x hx
    · rw [List.zipIdx_map_fst]
      exact chunksOf_flatten maximum session sequence text

/-- A session of 32 bytes and a limit of 20: the frame of one byte has 50. -/
theorem frames_beyond_limit : ¬ RespectsLimit 20 (List.replicate 32 0x61) 1 [0x61] := by
  intro h
  have hok : frames 20 (List.replicate 32 0x61) 1 [0x61] =
      .ok [textFrame (List.replicate 32 0x61) 1 0 1 [0x61]] := rfl
  have hlen := (h _ hok).1 _ (List.mem_singleton.mpr rfl)
  exact absurd hlen (by decide)

/-! ## Every printable text has frames -/

/-- Without a carriage return every byte is a character. -/
theorem characters_singletons : ∀ {text : Bytes}, carriageReturn ∉ text →
    characters text = text.map fun b => [b]
  | [], _ => rfl
  | [_], _ => rfl
  | b :: d :: rest, h => by
      have hne : ¬ (b = carriageReturn ∧ d = newline) := fun hb =>
        h (hb.1 ▸ List.mem_cons_self)
      rw [characters, if_neg hne,
        characters_singletons fun hr => h (List.mem_cons_of_mem b hr)]
      rfl

/-- A finished chunk stopped at most one byte and its escape short of
the budget, so with a budget of 32 it has at least 16 bytes. -/
theorem chunkLoop_long {maximum : Int} {overhead : Nat} (h : (overhead + 32 : Nat) ≤ maximum)
    (bytes : Bytes) (chunks : List Bytes) (current : Bytes)
    (hchunks : ∀ c ∈ chunks, 16 ≤ c.length) :
    ∀ c ∈ (chunkLoop maximum overhead chunks current (bytes.map fun b => [b])).1,
      16 ≤ c.length := by
  induction bytes generalizing chunks current with
  | nil => exact hchunks
  | cons b bytes ih =>
      rw [List.map_cons, chunkLoop]
      split
      · next hfull =>
          simp only [Bool.and_eq_true, decide_eq_true_eq, escape_append,
            List.length_append] at hfull
          have hone := (length_escape [b]).2
          have hcurrent := (length_escape current).2
          rw [List.length_singleton] at hone
          refine ih (chunks ++ [current]) [b] fun c hc => ?_
          rcases List.mem_append.mp hc with hc | hc
          · exact hchunks c hc
          · obtain rfl := List.mem_singleton.mp hc
            omega
      · exact ih chunks _ hchunks

theorem mul_length_le_flatten {n : Nat} {xs : List Bytes} (h : ∀ x ∈ xs, n ≤ x.length) :
    n * xs.length ≤ xs.flatten.length := by
  induction xs with
  | nil => simp
  | cons x xs ih =>
      have hx := h x List.mem_cons_self
      have hxs := ih fun y hy => h y (List.mem_cons_of_mem x hy)
      rw [List.flatten_cons, List.length_append, List.length_cons, Nat.mul_succ]
      omega

/-- With room for 32 bytes there are no more chunks than parts. -/
theorem length_chunksOf_printable {maximum : Int} {session : Bytes} {sequence : UInt32}
    {text : Bytes} (hroom : (overhead session sequence + 32 : Nat) ≤ maximum)
    (hreturn : carriageReturn ∉ text) (hlen : text.length ≤ maximumCommittedBytes) :
    (chunksOf maximum session sequence text).length ≤ maximumParts := by
  have hlong := chunkLoop_long hroom text [] [] (by simp)
  have hflatten := chunkLoop_flatten maximum (overhead session sequence) (characters text) [] []
  rw [characters_flatten, List.flatten_nil, List.nil_append, List.nil_append] at hflatten
  rw [← characters_singletons hreturn] at hlong
  have hcount := mul_length_le_flatten hlong
  have htotal := congrArg List.length hflatten
  rw [List.length_append] at htotal
  simp only [maximumCommittedBytes] at hlen
  unfold chunksOf maximumParts
  dsimp only
  rw [← overhead]
  split
  · next hlast =>
      -- the last chunk is empty only if the text is
      rw [List.length_append, List.length_singleton]
      rcases Bool.or_eq_true _ _ ▸ hlast with hlast | hnil
      · have hpos := List.length_pos_iff.mpr
          (List.isEmpty_eq_false_iff.mp (Bool.not_eq_true' _ ▸ hlast))
        omega
      · have hzero := List.length_eq_zero_iff.mpr (List.isEmpty_iff.mp hnil)
        omega
  · omega

/-- **Every printable text of at most 512 bytes has frames.** The
session has 32 bytes and the writes between 114 and 512. -/
theorem printable_encodable {session : Bytes} (hlength : session.length = 32)
    (hsession : validSession session = .ok session) (sequence : UInt32) {maximum : Int}
    (hlow : 114 ≤ maximum) (hhigh : maximum ≤ 512) {text : Bytes} (hlen : text.length ≤ 512)
    (hprintable : ∀ b ∈ text, 0x20 ≤ b ∧ b ≤ 0x7E) :
    ∃ fs, frames maximum session sequence text = .ok fs ∧ fs.length ≤ 32 ∧
      ∀ f ∈ fs, f.length ≤ 512 := by
  have hs : SessionOk session := by
    by_contra hs
    rw [validSession_eq, if_neg hs] at hsession
    cases hsession
  have hsequence := length_decimal_le sequence
  have hreturn : carriageReturn ∉ text := fun hr =>
    absurd (hprintable _ hr).1 (by decide)
  have hsend : text.all sendable = true := by
    rw [List.all_eq_true]
    intro b hb
    simp [sendable, hprintable b hb]
  have hparts : (chunksOf maximum session sequence text).length ≤ maximumParts :=
    length_chunksOf_printable (by unfold overhead; omega) hreturn hlen
  have hframes : ∀ x ∈ (chunksOf maximum session sequence text).zipIdx,
      frameBytes session sequence x.2 (chunksOf maximum session sequence text).length x.1 ≤
        maximumCommittedBytes := by
    intro x hx
    have := frames_within_estimate (by omega) hparts hx
    simp only [maximumCommittedBytes]
    omega
  have hok := (frames_eq_ok_iff rfl).mpr ⟨hsend, hlen, hparts, hs, hframes, rfl⟩
  refine ⟨_, hok, ?_, fun f hf => ?_⟩
  · rw [List.length_map, List.length_zipIdx]
    exact hparts
  · obtain ⟨x, hx, rfl⟩ := List.mem_map.mp hf
    rw [length_textFrame]
    exact hframes x hx

/-- The hypothesis is met by a text of backslashes. -/
theorem printable_encodable_backslashes :
    ∃ fs, frames 114 (List.replicate 32 0x61) 4294967295 (List.replicate 512 backslash) = .ok fs ∧
      fs.length ≤ 32 ∧ ∀ f ∈ fs, f.length ≤ 512 :=
  @printable_encodable (List.replicate 32 0x61) (by decide) rfl 4294967295 114 (by decide)
    (by decide) (List.replicate 512 backslash) (by rw [List.length_replicate])
    (fun b hb => by rw [List.eq_of_mem_replicate hb]; decide)

/-- A session of 32 pipes is refused, whatever the text. -/
theorem pipes_not_encodable :
    ¬ ∀ (session : Bytes) (sequence : UInt32) (maximum : Int) (text : Bytes),
      session.length = 32 → 114 ≤ maximum → maximum ≤ 512 → text.length ≤ 512 →
      (∀ b ∈ text, 0x20 ≤ b ∧ b ≤ 0x7E) →
      ∃ fs, frames maximum session sequence text = .ok fs := by
  intro h
  have hprintable : ∀ b ∈ [(0x61 : UInt8)], 0x20 ≤ b ∧ b ≤ 0x7E := by
    intro b hb
    rw [List.mem_singleton.mp hb]
    decide
  obtain ⟨fs, hfs⟩ := h (List.replicate 32 pipe) 1 114 [0x61] (by decide) (by decide) (by decide)
    (by decide) hprintable
  have herror : frames 114 (List.replicate 32 pipe) 1 [0x61] = .error .emptySession := rfl
  rw [herror] at hfs
  cases hfs

end Bootmux.Iphone
