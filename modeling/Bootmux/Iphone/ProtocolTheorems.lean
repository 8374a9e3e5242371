/-
Bootmux.Iphone.ProtocolTheorems — what the frames of a text are.

`escape_encodes` says that the client's escaping is one the splitters of
the firmwares undo, whatever the bytes. `frames_ok` says what `frames`
returns when it returns: one `TEXT` frame for each chunk, numbered in
order, and the chunks concatenate to the text.

Both are used on each side of the connection: for what the firmwares read of
a frame, and for the length of a frame. The numbers in a frame are printed
in decimals without leading zeros, which the parsers of the firmwares read
back.
-/
import Bootmux.Iphone.Protocol

namespace Bootmux.Iphone

open Bootmux.Bmx1

/-! ## Escaping -/

/-- The four replacements, byte by byte. -/
def escapeByte (c : UInt8) : Bytes :=
  if c = backslash then [backslash, backslash]
  else if c = pipe then [backslash, pipe]
  else if c = newline then [backslash, 0x6E]
  else if c = carriageReturn then [backslash, 0x72]
  else [c]

theorem escape_cons (c : UInt8) (value : Bytes) :
    escape (c :: value) = escapeByte c ++ escape value := by
  have happend : ∀ (a b : Bytes) t r, replacingOccurrences (a ++ b) t r =
      replacingOccurrences a t r ++ replacingOccurrences b t r := fun a b t r =>
    List.flatMap_append
  have hone : escape [c] = escapeByte c := by
    unfold escape escapeByte replacingOccurrences
    by_cases hb : c = backslash
    · subst hb; decide
    · by_cases hp : c = pipe
      · subst hp; decide
      · by_cases hn : c = newline
        · subst hn; decide
        · simp [hb, hp, hn]
  rw [← List.singleton_append, ← hone]
  simp only [escape, happend]

/-- **The escaping is undone by the splitters.** -/
theorem escape_encodes (value : Bytes) : Encodes value (escape value) := by
  induction value with
  | nil => exact .nil
  | cons c value ih =>
      rw [escape_cons, escapeByte]
      split
      · rename_i h; subst h; exact .pair (c := backslash) ih
      · rename_i hb
        split
        · rename_i h; subst h; exact .pair (c := pipe) ih
        · rename_i hp
          split
          · rename_i h; subst h; exact .pair (c := 0x6E) ih
          · split
            · rename_i h; subst h; exact .pair (c := 0x72) ih
            · exact .plain hp hb ih

/-- Escaping adds no NUL. -/
theorem escape_nulFree {value : Bytes} (h : (0 : UInt8) ∉ value) : (0 : UInt8) ∉ escape value := by
  induction value with
  | nil => exact h
  | cons c value ih =>
      rw [List.mem_cons, not_or] at h
      rw [escape_cons, List.mem_append, not_or]
      refine ⟨?_, ih h.2⟩
      unfold escapeByte
      split
      · decide
      · split
        · decide
        · split
          · decide
          · split
            · decide
            · simpa using h.1

/-! ## Chunks -/

/-- The characters make the text. -/
theorem characters_flatten : ∀ text : Bytes, (characters text).flatten = text
  | [] => rfl
  | [_] => rfl
  | c :: d :: rest => by
      rw [characters]
      split
      · rw [List.flatten_cons, characters_flatten rest]; rfl
      · rw [List.flatten_cons, characters_flatten (d :: rest)]; rfl

/-- The loop loses nothing: what is finished, what is current and what is
left stay the same text. -/
theorem chunkLoop_flatten (maximum : Int) (overhead : Nat) (rest chunks : List Bytes)
    (current : Bytes) :
    (chunkLoop maximum overhead chunks current rest).1.flatten ++
      (chunkLoop maximum overhead chunks current rest).2 =
    chunks.flatten ++ current ++ rest.flatten := by
  induction rest generalizing chunks current with
  | nil => simp [chunkLoop]
  | cons character rest ih =>
      rw [chunkLoop]
      split
      · rw [ih]; simp
      · rw [ih]; simp

/-- So do the chunks. -/
theorem chunksOf_flatten (maximum : Int) (session : Bytes) (sequence : UInt32) (text : Bytes) :
    (chunksOf maximum session sequence text).flatten = text := by
  have h := chunkLoop_flatten maximum
    (32 + session.length + (decimal sequence.toNat).length + 8) (characters text) [] []
  rw [characters_flatten] at h
  simp only [List.flatten_nil, List.nil_append] at h
  unfold chunksOf
  simp only []
  split
  · rw [List.flatten_append, List.flatten_singleton]; exact h
  · rename_i hempty
    simp only [Bool.or_eq_true, Bool.not_eq_true', not_or, Bool.not_eq_false,
      List.isEmpty_iff] at hempty
    rw [hempty.1, List.append_nil] at h
    exact h

/-- There is a chunk, also of an empty text. -/
theorem chunksOf_ne_nil (maximum : Int) (session : Bytes) (sequence : UInt32) (text : Bytes) :
    chunksOf maximum session sequence text ≠ [] := by
  intro hnil
  have h := chunksOf_flatten maximum session sequence text
  rw [hnil] at h
  obtain rfl : text = [] := h.symm
  simp [chunksOf] at hnil

/-! ## Frames -/

/-- The frame of part `index` of `chunks`. -/
def textFrame (session : Bytes) (sequence : UInt32) (index total : Nat) (chunk : Bytes) : Bytes :=
  joinFields [ascii "BMX1", ascii "TEXT", session, decimal sequence.toNat, decimal index,
    decimal total, escape chunk]

/-- A part that is framed has its place and its payload. -/
theorem text_ok {session : Bytes} {sequence : UInt32} {part total : Nat} {payload bytes : Bytes}
    (h : text session sequence part total payload = .ok bytes) :
    part < total ∧ total ≤ maximumParts ∧ pipe ∉ session ∧ backslash ∉ session ∧
      bytes = textFrame session sequence part total payload := by
  unfold text at h
  split at h
  · cases h
  · rename_i hbounds
    simp only [Bool.not_eq_true', Bool.not_eq_false, Bool.and_eq_true,
      decide_eq_true_eq] at hbounds
    unfold validSession at h
    split at h
    · cases h
    · rename_i hsession
      simp only [Bool.or_eq_true, List.contains_iff_mem, not_or] at hsession
      simp only [bind, Except.bind, frame] at h
      split at h
      · cases h
      · exact ⟨hbounds.2, hbounds.1.2, hsession.1.2, hsession.2, (Except.ok.inj h).symm⟩

theorem mapM_ok {α β ε : Type} {f : α → Except ε β} {xs : List α} {ys : List β}
    (h : xs.mapM f = .ok ys) :
    ys.length = xs.length ∧
      ∀ (i : Nat) (x : α), xs[i]? = some x → ∃ y, ys[i]? = some y ∧ f x = .ok y := by
  induction xs generalizing ys with
  | nil =>
      obtain rfl : [] = ys := by simpa [pure, Except.pure] using h
      exact ⟨rfl, by simp⟩
  | cons x xs ih =>
      rw [List.mapM_cons] at h
      cases hx : f x with
      | error e => rw [hx] at h; cases h
      | ok y =>
          cases hrest : xs.mapM f with
          | error e => rw [hx, hrest] at h; cases h
          | ok rest =>
              rw [hx, hrest] at h
              obtain rfl : y :: rest = ys := Except.ok.inj h
              obtain ⟨hlen, hget⟩ := ih hrest
              refine ⟨by simp [hlen], fun i z hz => ?_⟩
              cases i with
              | zero =>
                  obtain rfl : x = z := by simpa using hz
                  exact ⟨y, rfl, hx⟩
              | succ i => exact hget i z (by simpa using hz)

/-- **What `frames` returns.** -/
theorem frames_ok {maximum : Int} {session : Bytes} {sequence : UInt32} {text : Bytes}
    {fs : List Bytes} (h : frames maximum session sequence text = .ok fs) :
    ∃ chunks : List Bytes, chunks.flatten = text ∧ chunks ≠ [] ∧
      chunks.length ≤ maximumParts ∧ text.length ≤ maximumCommittedBytes ∧
      pipe ∉ session ∧ backslash ∉ session ∧ fs.length = chunks.length ∧
      ∀ i chunk, chunks[i]? = some chunk →
        fs[i]? = some (textFrame session sequence i chunks.length chunk) := by
  unfold frames at h
  split at h
  · cases h
  · split at h
    · cases h
    · rename_i hlen
      simp only [] at h
      split at h
      · cases h
      · rename_i hparts
        obtain ⟨hcount, hget⟩ := mapM_ok h
        have hframe : ∀ i chunk,
            (chunksOf maximum session sequence text)[i]? = some chunk →
            ∃ y, fs[i]? = some y ∧ Iphone.text session sequence i
              (chunksOf maximum session sequence text).length chunk = .ok y := by
          intro i chunk hi
          exact hget i (chunk, i) (by simp [hi])
        obtain ⟨first, hfirst⟩ := List.exists_mem_of_ne_nil _
          (chunksOf_ne_nil maximum session sequence text)
        obtain ⟨i, hi⟩ := List.mem_iff_getElem?.mp hfirst
        obtain ⟨_, _, hy⟩ := hframe i first hi
        obtain ⟨_, _, hpipe, hback, _⟩ := text_ok hy
        refine ⟨chunksOf maximum session sequence text, chunksOf_flatten ..,
          chunksOf_ne_nil maximum session sequence text, by omega, by omega, hpipe, hback,
          by simpa using hcount, ?_⟩
        intro i chunk hi
        obtain ⟨y, hy, htext⟩ := hframe i chunk hi
        rw [hy, (text_ok htext).2.2.2.2]

end Bootmux.Iphone
