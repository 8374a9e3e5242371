/-
Bootmux.Companion.OutputTheorems — what a schedule of flushes makes of a
byte stream.

`validFrom` cuts at the pieces of the stream: the bytes it takes are a
prefix of the pieces whatever is appended later (`pieces_validFrom`). A
schedule therefore writes out the pieces of the stream segment by
segment. Two schedules can only disagree where a segment ends between
two stray bytes, which are one run for `strings.ToValidUTF8` when they
come in one flush and two runs when they come in two.

`flush_deterministic` says for which streams that cannot happen.

The pieces of a text are its characters and its stray bytes. Two lemmas
carry the module: taking the valid beginning of a text takes pieces, and
writing out two segments is writing out the whole, unless a run of stray
bytes is cut (`Apart`). A stream is `HeldTogether` if between two stray
bytes no flush can end: what comes before the second one ends in what could
still become a character, and the second one begins none.
-/
import Bootmux.Companion.Output

namespace Bootmux.Companion

open Bootmux.Lib
open Bootmux.Lib.Utf8

/-! ## The loop along the pieces -/

/-- Bytes of a character are passed over. -/
theorem validFrom_skip (final : Bool) (skip : Nat) (data : Bytes) (h : skip ≤ data.length) :
    validFrom final skip data = skip + validFrom final 0 (data.drop skip) := by
  induction skip generalizing data with
  | zero => simp
  | succ skip ih =>
      cases data with
      | nil => simp at h
      | cons b rest =>
          have := ih rest (by simpa using h)
          simp only [validFrom, List.drop_succ_cons, this]
          omega

/-- A character is valid. -/
theorem validFrom_char (final : Bool) {c : Bytes} (hc : IsRune c) (rest : Bytes) :
    validFrom final 0 (c ++ rest) = c.length + validFrom final 0 rest := by
  obtain ⟨b, c', rfl⟩ := List.exists_cons_of_ne_nil hc.ne_nil
  have hsize := hc.runeSize rest
  rw [List.cons_append] at hsize ⊢
  simp only [validFrom, hsize]
  rw [validFrom_skip final _ _ (by simp)]
  simp only [List.length_cons, Nat.add_sub_cancel, List.drop_left]
  omega

/-- At the end everything is sent. -/
theorem validFrom_final (data : Bytes) : validFrom true 0 data = data.length := by
  induction data using pieces_induction with
  | nil => rfl
  | char c rest hc ih => rw [validFrom_char true hc, ih, List.length_append]
  | bad b rest hb ih => simp [validFrom, hb, ih, Nat.add_comm]

/-- A byte that starts no character is sent as one. -/
theorem validFrom_bad {b : UInt8} {rest : Bytes} (hb : runeSize (b :: rest) = none)
    (hf : fullRune (b :: rest) = true) :
    validFrom false 0 (b :: rest) = 1 + validFrom false 0 rest := by
  simp [validFrom, hb, hf]

/-- A character that may still be completed is kept. -/
theorem validFrom_short {b : UInt8} {rest : Bytes} (hb : runeSize (b :: rest) = none)
    (hf : fullRune (b :: rest) = false) : validFrom false 0 (b :: rest) = 0 := by
  simp [validFrom, hb, hf]

theorem validFrom_le (data : Bytes) : validFrom false 0 data ≤ data.length := by
  induction data using pieces_induction with
  | nil => exact Nat.le_refl _
  | char c rest hc ih => rw [validFrom_char false hc, List.length_append]; omega
  | bad b rest hb ih =>
      cases hf : fullRune (b :: rest) with
      | true => rw [validFrom_bad hb hf, List.length_cons]; omega
      | false => rw [validFrom_short hb hf]; exact Nat.zero_le _

/-- What the loop takes is a prefix of the pieces, whatever follows. -/
theorem pieces_validFrom (data more : Bytes) :
    pieces (data ++ more) =
      pieces (data.take (validFrom false 0 data)) ++
        pieces (data.drop (validFrom false 0 data) ++ more) := by
  induction data using pieces_induction with
  | nil => rfl
  | char c rest hc ih =>
      rw [validFrom_char false hc, List.append_assoc, pieces_char hc, ih,
        List.take_length_add_append, List.drop_length_add_append, pieces_char hc]
      rfl
  | bad b rest hb ih =>
      cases hf : fullRune (b :: rest) with
      | false => rw [validFrom_short hb hf]; rfl
      | true =>
          rw [validFrom_bad hb hf, Nat.add_comm]
          have hinvalid : head (b :: rest) = .invalid := by
            cases hh : head (b :: rest) with
            | invalid => rfl
            | short => simp [fullRune, hh] at hf
            | rune k => simp [runeSize, hh] at hb
          have hmore : runeSize (b :: (rest ++ more)) = none := by
            have hshort : head (b :: rest) ≠ .short := by rw [hinvalid]; simp
            exact runeSize_none_of_head (.inl ((head_append hshort more).trans hinvalid))
          have htake : runeSize (b :: rest.take (validFrom false 0 rest)) = none := by
            have hall : runeSize (b :: rest.take (validFrom false 0 rest) ++
                rest.drop (validFrom false 0 rest)) = none := by
              rwa [List.cons_append, List.take_append_drop]
            exact runeSize_none_of_append hall
          rw [List.cons_append, pieces_bad hmore, List.take_succ_cons, List.drop_succ_cons,
            pieces_bad htake, ih]
          rfl

/-- No character is cut short at a byte the loop takes. -/
theorem fullRune_before_validFrom (data : Bytes) :
    ∀ j < validFrom false 0 data, fullRune (data.drop j) = true := by
  induction data using pieces_induction with
  | nil => intro j hj; exact absurd hj (Nat.not_lt_zero j)
  | char c rest hc ih =>
      intro j hj
      rw [validFrom_char false hc] at hj
      by_cases hjc : j < c.length
      · obtain ⟨b, c', rfl⟩ := List.exists_cons_of_ne_nil hc.ne_nil
        cases j with
        | zero => rw [List.drop_zero, fullRune, hc.head_append rest]; rfl
        | succ j =>
            -- the bytes inside a character start none
            have hj' : j < c'.length := by simpa using hjc
            rw [List.cons_append, List.drop_succ_cons, List.drop_append_of_le_length (by omega),
              List.drop_eq_getElem_cons hj', List.cons_append, fullRune,
              head_tail (hc.tails.2 _ (List.getElem_mem hj'))]
            rfl
      · obtain ⟨k, rfl⟩ : ∃ k, j = c.length + k := ⟨j - c.length, by omega⟩
        rw [List.drop_length_add_append]
        exact ih k (by omega)
  | bad b rest hb ih =>
      intro j hj
      cases hf : fullRune (b :: rest) with
      | false => rw [validFrom_short hb hf] at hj; exact absurd hj (Nat.not_lt_zero j)
      | true =>
          cases j with
          | zero => exact hf
          | succ j =>
              rw [validFrom_bad hb hf] at hj
              exact ih j (by omega)

/-- The loop stops before the end only at a character that is cut short. -/
theorem fullRune_at_validFrom (data : Bytes) (h : validFrom false 0 data < data.length) :
    fullRune (data.drop (validFrom false 0 data)) = false := by
  induction data using pieces_induction with
  | nil => exact absurd h (Nat.not_lt_zero _)
  | char c rest hc ih =>
      rw [validFrom_char false hc] at h ⊢
      rw [List.drop_length_add_append]
      exact ih (by simpa using h)
  | bad b rest hb ih =>
      cases hf : fullRune (b :: rest) with
      | false => rw [validFrom_short hb hf]; exact hf
      | true =>
          rw [validFrom_bad hb hf, Nat.add_comm] at h ⊢
          exact ih (by simpa using h)

/-! ## One flush -/

theorem utf8Prefix_final (data : Bytes) : utf8Prefix data true = (toValid data, []) := by
  cases data with
  | nil => rfl
  | cons b rest =>
      have hv := validFrom_final (b :: rest)
      simp only [utf8Prefix, hv]
      simp

/-- A flush sends the valid beginning and keeps the rest. -/
theorem utf8Prefix_eq (data : Bytes) :
    utf8Prefix data false =
      (toValid (data.take (validFrom false 0 data)), data.drop (validFrom false 0 data)) := by
  unfold utf8Prefix
  split
  · rename_i h
    rw [List.length_eq_zero_iff.mp h]
    rfl
  · simp only []
    split
    · rename_i h; rw [h]; rfl
    · rfl

/-! ## Segments -/

/-- A run of stray bytes does not go on across the two lists. -/
def Apart (us vs : List Piece) : Prop :=
  ∀ us' a b vs', us = us' ++ [.bad a] → vs = .bad b :: vs' → False

/-- Apart from one another, two texts are repaired as one. -/
theorem render_append {us vs : List Piece} (h : Apart us vs) :
    render false (us ++ vs) = render false us ++ render false vs := by
  cases vs with
  | nil => simp [render]
  | cons v vs =>
      cases v with
      | char c => exact render_append_char false us vs c
      | bad b =>
          rcases List.eq_nil_or_concat us with rfl | ⟨us, u, rfl⟩
          · rfl
          · cases u with
            | bad a => exact (h us a b vs (by simp) rfl).elim
            | char c =>
                rw [List.concat_eq_append, List.append_assoc, List.singleton_append,
                  render_append_char, render_append_char]
                simp [render]

/-- Splitting inside a run of stray bytes costs one more replacement. -/
theorem render_split (us vs : List Piece) (a b : UInt8) :
    (render false (us ++ [.bad a]) ++ render false (.bad b :: vs)).length =
      (render false (us ++ .bad a :: .bad b :: vs)).length + 3 := by
  have key : ∀ inRun, render inRun (us ++ .bad a :: .bad b :: vs) =
      render inRun (us ++ [.bad a]) ++ render true vs := by
    induction us with
    | nil => intro inRun; cases inRun <;> simp [render]
    | cons u us ih =>
        intro inRun
        cases u with
        | char c => simp [render, ih, List.append_assoc]
        | bad d => cases inRun <;> simp [render, ih, List.append_assoc]
  rw [key false]
  simp only [render, List.length_append]
  have : replacement.length = 3 := rfl
  omega

theorem bytes_ne_nil {data : Bytes} {u : Piece} (h : u ∈ pieces data) : u.bytes ≠ [] := by
  cases u with
  | char c => exact (pieces_isRune h).ne_nil
  | bad b => simp [Piece.bytes]

/-- A cut of the pieces is known by the number of bytes before it. -/
theorem pieces_cut_unique {us vs us' vs' : List Piece} (h : us ++ vs = us' ++ vs')
    (hne : ∀ u ∈ us ++ vs, u.bytes ≠ [])
    (hlen : (us.flatMap Piece.bytes).length = (us'.flatMap Piece.bytes).length) :
    us = us' ∧ vs = vs' := by
  induction us generalizing us' with
  | nil =>
      cases us' with
      | nil => exact ⟨rfl, h⟩
      | cons u us' =>
          have hu := List.length_pos_iff.mpr (hne u (by rw [h]; simp))
          simp at hlen
          omega
  | cons u us ih =>
      cases us' with
      | nil =>
          have hu : u.bytes ≠ [] := hne u (by simp)
          simp [hu] at hlen
      | cons u' us' =>
          simp only [List.cons_append, List.cons.injEq] at h
          obtain ⟨rfl, h⟩ := h
          have := ih h
            (fun x hx => hne x (by simp only [List.cons_append, List.mem_cons]; exact .inr hx))
            (by simpa using hlen)
          exact ⟨by rw [this.1], this.2⟩

/-! ## Schedules -/

/-- A schedule of appends and flushes for a stream. -/
structure Schedule (stream : Bytes) where
  chunks : List Bytes
  last : Bytes
  covers : chunks.flatten ++ last = stream

def Schedule.text {stream : Bytes} (s : Schedule stream) : Bytes := flushes [] s.chunks s.last

/-- Of two stray bytes next to each other, the second could not start a
character, and the bytes up to the first end in a part of one: a flush at
that point keeps the first back. -/
def HeldTogether (stream : Bytes) : Prop :=
  ∀ us a b vs, pieces stream = us ++ .bad a :: .bad b :: vs →
    fullRune [b] = true ∧
      ∃ j < (us.flatMap Piece.bytes ++ [a]).length,
        fullRune ((us.flatMap Piece.bytes ++ [a]).drop j) = false

/-- The bytes of a list of pieces. -/
def bytesOf (us : List Piece) : Bytes := us.flatMap Piece.bytes

/-- The pieces `us` are out and `pending` is kept back: whatever comes, the
stream goes on from there. -/
def CutAt (us : List Piece) (pending : Bytes) : Prop :=
  ∀ more, pieces (bytesOf us ++ (pending ++ more)) = us ++ pieces (pending ++ more)

theorem bytesOf_append (us vs : List Piece) : bytesOf (us ++ vs) = bytesOf us ++ bytesOf vs := by
  simp [bytesOf]

theorem bytesOf_pieces (data : Bytes) : bytesOf (pieces data) = data := pieces_bytes data

theorem cutAt_nil : CutAt [] [] := fun _ => rfl

/-- More bytes behind a cut. -/
theorem CutAt.append {us : List Piece} {pending : Bytes} (h : CutAt us pending) (data : Bytes) :
    CutAt us (pending ++ data) := fun more => by
  rw [List.append_assoc]
  exact h (data ++ more)

/-- A flush moves the cut. -/
theorem CutAt.flush {us : List Piece} {pending : Bytes} (h : CutAt us pending) :
    CutAt (us ++ pieces (pending.take (validFrom false 0 pending)))
      (pending.drop (validFrom false 0 pending)) := fun more => by
  rw [bytesOf_append, bytesOf_pieces, List.append_assoc, ← List.append_assoc (List.take _ _),
    List.take_append_drop, h, pieces_validFrom, List.append_assoc]

/-- Where a schedule stands after some flushes: also, nothing that is out
could still change. -/
structure Settled (us : List Piece) (pending : Bytes) : Prop where
  cut : CutAt us pending
  full : ∀ j < (bytesOf us).length, fullRune ((bytesOf us ++ pending).drop j) = true
  short : pending ≠ [] → fullRune pending = false

theorem settled_nil : Settled [] [] where
  cut := cutAt_nil
  full _ hj := absurd hj (Nat.not_lt_zero _)
  short h := absurd rfl h

/-- What was sent stays settled. -/
theorem Settled.flush {us : List Piece} {pending : Bytes} (h : Settled us pending)
    (chunk : Bytes) :
    Settled (us ++ pieces ((pending ++ chunk).take (validFrom false 0 (pending ++ chunk))))
      ((pending ++ chunk).drop (validFrom false 0 (pending ++ chunk))) := by
  refine ⟨(h.cut.append chunk).flush, fun j hj => ?_, fun hne => ?_⟩
  · rw [bytesOf_append, bytesOf_pieces] at hj ⊢
    rw [List.append_assoc, List.take_append_drop]
    by_cases hlt : j < (bytesOf us).length
    · have := fullRune_append (h.full j hlt) chunk
      rwa [← List.drop_append_of_le_length (by simp; omega), List.append_assoc] at this
    · obtain ⟨k, rfl⟩ : ∃ k, j = (bytesOf us).length + k := ⟨j - (bytesOf us).length, by omega⟩
      rw [List.drop_length_add_append]
      refine fullRune_before_validFrom _ k ?_
      rw [List.length_append, List.length_take] at hj
      omega
  · refine fullRune_at_validFrom _ ?_
    have := List.length_pos_iff.mpr hne
    rw [List.length_drop] at this
    omega

/-- In a stream whose stray bytes are held together no flush ends inside
a run of them. -/
theorem Settled.apart {us : List Piece} {pending more : Bytes} (h : Settled us pending)
    (hheld : HeldTogether (bytesOf us ++ (pending ++ more))) :
    Apart us (pieces (pending ++ more)) := by
  rintro us a b vs rfl hvs
  have hpieces := h.cut more
  rw [hvs, List.append_assoc, List.singleton_append] at hpieces
  obtain ⟨hb, j, hj, hshort⟩ := hheld _ _ _ _ hpieces
  have hbytes : bytesOf (us ++ [.bad a]) = us.flatMap Piece.bytes ++ [a] := by
    simp [bytesOf, Piece.bytes]
  cases pending with
  | nil =>
      have := h.full j (by rw [hbytes]; exact hj)
      rw [List.append_nil, hbytes, hshort] at this
      exact absurd this (by simp)
  | cons d pending =>
      have hd : d = b := by
        have hhead := pieces_bytes (d :: pending ++ more)
        rw [hvs] at hhead
        simpa [Piece.bytes] using (congrArg List.head? hhead).symm
      subst hd
      have := (head_short (fullRune_eq_false.mp (h.short (by simp)))).1
      rw [fullRune_eq_false.mpr this] at hb
      exact absurd hb (by simp)

/-- From a settled point on, a schedule writes out the remaining pieces as
one flush would. -/
theorem Settled.flushes_eq {us : List Piece} {pending : Bytes} (h : Settled us pending)
    (chunks : List Bytes) (last : Bytes)
    (hheld : HeldTogether (bytesOf us ++ (pending ++ (chunks.flatten ++ last)))) :
    render false us ++ flushes pending chunks last =
      toValid (bytesOf us ++ (pending ++ (chunks.flatten ++ last))) := by
  induction chunks generalizing us pending with
  | nil =>
      rw [List.flatten_nil, List.nil_append] at hheld ⊢
      rw [flushes, utf8Prefix_final, toValid, toValid, h.cut, render_append (h.apart hheld)]
  | cons chunk chunks ih =>
      have hstep := h.flush chunk
      have hbytes : bytesOf (us ++ pieces ((pending ++ chunk).take
          (validFrom false 0 (pending ++ chunk)))) ++
          ((pending ++ chunk).drop (validFrom false 0 (pending ++ chunk)) ++
            (chunks.flatten ++ last)) =
          bytesOf us ++ (pending ++ ((chunk :: chunks).flatten ++ last)) := by
        rw [bytesOf, List.flatMap_append, pieces_bytes, List.append_assoc,
          ← List.append_assoc (List.take _ _), List.take_append_drop]
        simp [bytesOf]
      have hrest := ih hstep (by rw [hbytes]; exact hheld)
      rw [hbytes] at hrest
      have hcut : render false (us ++ pieces ((pending ++ chunk).take
          (validFrom false 0 (pending ++ chunk)))) =
          render false us ++ toValid ((pending ++ chunk).take
            (validFrom false 0 (pending ++ chunk))) := by
        refine render_append fun us' a b vs' hus hvs => ?_
        have hapart := h.apart hheld
        refine hapart us' a b (vs' ++ pieces ((pending ++ chunk).drop
          (validFrom false 0 (pending ++ chunk)) ++ (chunks.flatten ++ last))) hus ?_
        rw [List.flatten_cons, List.append_assoc chunk, ← List.append_assoc pending,
          pieces_validFrom, hvs]
        rfl
      rw [flushes, utf8Prefix_eq, ← List.append_assoc, ← hcut]
      exact hrest

/-- The schedule without intermediate flushes. -/
def Schedule.atOnce (stream : Bytes) : Schedule stream where
  chunks := []
  last := stream
  covers := rfl

/-- Sent at once, the text is the repaired stream. -/
theorem Schedule.atOnce_text (stream : Bytes) : (atOnce stream).text = toValid stream := by
  show flushes [] [] stream = _
  rw [flushes, utf8Prefix_final, List.nil_append]

/-- The schedule with one flush after the first `n` bytes. -/
def Schedule.flushAt (stream : Bytes) (n : Nat) : Schedule stream where
  chunks := [stream.take n]
  last := stream.drop n
  covers := by simp

/-- A flush that takes all up to a cut inside a run of stray bytes makes
the text longer. -/
theorem flushAt_text_ne {stream : Bytes} {us vs : List Piece} {a b : UInt8} {n : Nat}
    (hpieces : pieces stream = us ++ .bad a :: .bad b :: vs)
    (hready : validFrom false 0 (stream.take n) = (us.flatMap Piece.bytes ++ [a]).length) :
    (Schedule.flushAt stream n).text ≠ toValid stream := by
  have hle := validFrom_le (stream.take n)
  have hcut := pieces_validFrom (stream.take n) (stream.drop n)
  rw [List.take_append_drop, hpieces, ← List.singleton_append, ← List.append_assoc] at hcut
  have hunique := pieces_cut_unique hcut
    (by
      rw [List.append_assoc, List.singleton_append, ← hpieces]
      exact fun u hu => bytes_ne_nil hu)
    (by
      rw [pieces_bytes, List.length_take, Nat.min_eq_left hle, hready]
      simp [Piece.bytes])
  have htext : (Schedule.flushAt stream n).text =
      render false (us ++ [.bad a]) ++ render false (.bad b :: vs) := by
    show flushes [] [stream.take n] (stream.drop n) = _
    simp only [flushes, List.nil_append, utf8Prefix_eq, utf8Prefix_final]
    rw [toValid, toValid, ← hunique.1, ← hunique.2]
  intro heq
  have hlen := render_split us vs a b
  rw [← htext, heq, toValid, hpieces] at hlen
  omega

/-- A last byte that could start a character is kept back, and no more
than that. -/
theorem validFrom_before_lead (data : Bytes) {b : UInt8} (hb : fullRune [b] = false) :
    validFrom false 0 (data ++ [b]) = data.length := by
  have hle := validFrom_le (data ++ [b])
  rw [List.length_append, List.length_singleton] at hle
  have hlead := (head_short (fullRune_eq_false.mp hb)).2.1
  refine Nat.le_antisymm (Nat.le_of_not_lt fun hlt => ?_) (Nat.le_of_not_lt fun hlt => ?_)
  · have := fullRune_before_validFrom (data ++ [b]) data.length hlt
    rw [List.drop_left, hb] at this
    exact absurd this (by simp)
  · have hshort := fullRune_at_validFrom (data ++ [b]) (by
      rw [List.length_append, List.length_singleton]; omega)
    rw [List.drop_append_of_le_length (by omega), List.drop_eq_getElem_cons hlt,
      List.cons_append] at hshort
    have := (head_short (fullRune_eq_false.mp hshort)).2.2 b (by simp)
    rw [hlead] at this
    exact absurd this (by simp)

/-- **The replacement of invalid bytes is deterministic exactly when no
flush can come between two of them.** -/
theorem flush_deterministic (stream : Bytes) :
    (∀ s t : Schedule stream, s.text = t.text) ↔ HeldTogether stream := by
  constructor
  · intro hdet us a b vs hpieces
    have hne : ∀ n, (Schedule.flushAt stream n).text = toValid stream := fun n => by
      rw [hdet _ (Schedule.atOnce stream), Schedule.atOnce_text]
    have hstream : stream = (us.flatMap Piece.bytes ++ [a]) ++ (b :: vs.flatMap Piece.bytes) := by
      have := pieces_bytes stream
      rw [hpieces] at this
      simpa [Piece.bytes] using this.symm
    constructor
    · -- a flush right after `b` would keep `b` back and let `a` go
      by_contra hb
      rw [Bool.not_eq_true] at hb
      refine flushAt_text_ne (n := (us.flatMap Piece.bytes ++ [a]).length + 1) hpieces ?_ (hne _)
      have htake : stream.take ((us.flatMap Piece.bytes ++ [a]).length + 1) =
          (us.flatMap Piece.bytes ++ [a]) ++ [b] := by
        rw [hstream, List.take_length_add_append]
        rfl
      rw [htake]
      exact validFrom_before_lead _ hb
    · -- a flush right after `a` would let `a` go
      by_contra hnone
      refine flushAt_text_ne (n := (us.flatMap Piece.bytes ++ [a]).length) hpieces ?_ (hne _)
      have htake : stream.take (us.flatMap Piece.bytes ++ [a]).length =
          us.flatMap Piece.bytes ++ [a] := by
        rw [hstream, List.take_left]
      rw [htake]
      refine Nat.le_antisymm (validFrom_le _) (Nat.le_of_not_lt fun hlt => hnone ?_)
      exact ⟨_, hlt, fullRune_at_validFrom _ hlt⟩
  · intro hheld
    have htext : ∀ s : Schedule stream, s.text = toValid stream := by
      intro s
      have := settled_nil.flushes_eq s.chunks s.last (by
        simpa [bytesOf, s.covers] using hheld)
      rw [s.covers] at this
      exact this
    intro s t
    rw [htext s, htext t]

/-- Two stray bytes are one replacement in one flush, two in two. -/
theorem flush_nondeterministic : ¬ ∀ s t : Schedule [0xFF, 0xFF], s.text = t.text := by
  intro h
  have := h (.atOnce [0xFF, 0xFF]) (.flushAt [0xFF, 0xFF] 1)
  exact absurd this (by decide)

end Bootmux.Companion
