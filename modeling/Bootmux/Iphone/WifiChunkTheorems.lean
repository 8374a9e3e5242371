/-
Bootmux.Iphone.WifiChunkTheorems — the frames of Wi-Fi credentials are
cut as long as they can be.

A frame is as long as its chunk and a header, so a chunk fits the frame
of part 15 of 16 iff it has at most `capacity` bytes (`fitsFrame_iff`),
and the binary search finds the least of that and what is left
(`searchBest_eq`). The two loops are bounded by a fuel in the model;
`searchBest_fuel` and `wifiChunks_fuel` say that more of it changes
nothing, which is that the loops of the source end.

`Blocks n chunks` is what the outer loop makes: every chunk has a byte
and at most `n`, and every chunk but the last has `n`. No split into
chunks of at most `n` bytes has fewer parts.
-/
import Bootmux.Iphone.ChunkerTheorems
import Bootmux.Iphone.WifiTheorems

namespace Bootmux.Iphone

open Bootmux.Bmx1

/-! ## The search -/

/-- With fuel for every length the search comes to its end. -/
theorem searchBest_fuel (fits : Nat → Bool) {fuel low high best : Nat}
    (hlow : 0 < low) (hfuel : high + 1 - low ≤ fuel) (extra : Nat) :
    searchBest fits (fuel + extra) low high best = searchBest fits fuel low high best := by
  induction fuel generalizing low high best with
  | zero =>
      cases extra with
      | zero => rfl
      | succ extra =>
          rw [Nat.zero_add, searchBest, searchBest, if_neg (by omega)]
  | succ fuel ih =>
      rw [Nat.succ_add_eq_add_succ, Nat.add_succ, searchBest, searchBest]
      split
      · dsimp only
        split
        · exact ih (by omega) (by omega)
        · exact ih hlow (by omega)
      · rfl

/-- The search finds the last place that fits. -/
theorem searchBest_eq {fits : Nat → Bool} {last fuel low high best : Nat}
    (hfits : ∀ k, low ≤ k → k ≤ high → (fits k = true ↔ k ≤ last)) (hbest : best + 1 = low)
    (hlow : best ≤ last) (hhigh : last ≤ high) (hfuel : high + 1 - low ≤ fuel) :
    searchBest fits fuel low high best = last := by
  induction fuel generalizing low high best with
  | zero =>
      rw [searchBest]
      omega
  | succ fuel ih =>
      rw [searchBest]
      split
      · next hle =>
          have hmid := hfits ((low + high) / 2) (by omega) (by omega)
          dsimp only
          split
          · next hfit =>
              have hlast := hmid.mp hfit
              exact ih (fun k hk => hfits k (by omega)) rfl hlast hhigh (by omega)
          · next hfit =>
              have hlast := Nat.not_le.mp (mt hmid.mpr hfit)
              exact ih (fun k hk hk' => hfits k hk (by omega)) hbest hlow (by omega) (by omega)
      · omega

/-! ## What fits -/

/-- A frame has its fields and its chunk. -/
theorem length_wifiFrame (session : Bytes) (sequence : UInt32) (index total : Nat)
    (chunk : Bytes) : (wifiFrame session sequence index total chunk).length =
      14 + session.length + (decimal sequence.toNat).length + (decimal index).length +
        (decimal total).length + chunk.length := by
  have hmagic : (ascii "BMX1").length = 4 := by decide
  have htype : (ascii "WIFI").length = 4 := by decide
  simp only [wifiFrame, joinFields, List.length_append, List.length_cons, hmagic, htype]
  omega

/-- The chunk fits a frame with part 15 of 16, within the write limit
and the frame limit. -/
def FitsFrame (maximum : Int) (session : Bytes) (sequence : UInt32) (chunk : Bytes) : Prop :=
  ((wifiFrame session sequence 15 16 chunk).length : Int) ≤ maximum ∧
    (wifiFrame session sequence 15 16 chunk).length ≤ maximumCommittedBytes

instance (maximum : Int) (session : Bytes) (sequence : UInt32) (chunk : Bytes) :
    Decidable (FitsFrame maximum session sequence chunk) :=
  inferInstanceAs (Decidable (_ ∧ _))

/-- The bytes such a frame has room for. -/
def capacity (maximum : Int) (session : Bytes) (sequence : UInt32) : Nat :=
  (min maximum maximumCommittedBytes -
    (18 + session.length + (decimal sequence.toNat).length : Nat)).toNat

theorem fitsFrame_iff {maximum : Int} {session : Bytes} {sequence : UInt32} {chunk : Bytes}
    (hpos : 0 < chunk.length) :
    FitsFrame maximum session sequence chunk ↔
      chunk.length ≤ capacity maximum session sequence := by
  have hpart : (decimal 15).length = 2 := by decide
  have htotal : (decimal 16).length = 2 := by decide
  rw [FitsFrame, length_wifiFrame, hpart, htotal, capacity, maximumCommittedBytes]
  omega

/-- A part is framed exactly if the session is valid and it fits. -/
theorem wifiProvision_eq_ok_iff {session : Bytes} {sequence : UInt32} {part total : Nat}
    {payload bytes : Bytes} (hpart : part < total) (htotal : total ≤ 16)
    (hprintable : payload.all printable = true) :
    wifiProvision session sequence part total payload = .ok bytes ↔
      (SessionOk session ∧
        (wifiFrame session sequence part total payload).length ≤ maximumCommittedBytes) ∧
      bytes = wifiFrame session sequence part total payload := by
  have hbounds : (!(decide (0 < total) && decide (total ≤ 16) && decide (part < total) &&
      payload.all printable)) = false := by
    simp only [hprintable, decide_eq_true htotal, decide_eq_true hpart,
      decide_eq_true (Nat.zero_lt_of_lt hpart), Bool.and_self, Bool.not_true]
  rw [wifiProvision, if_neg (by simp only [hbounds, Bool.false_eq_true, not_false_iff]),
    validSession_eq]
  by_cases hs : SessionOk session
  · rw [if_pos hs]
    simp only [bind, Except.bind, frame_eq_ok_iff, hs, true_and]
    rfl
  · rw [if_neg hs]
    exact ⟨fun h => (nomatch h), fun h => absurd h.1.1 hs⟩

/-- A chunk fits exactly if it is no longer than the capacity. -/
theorem chunkFits_iff {maximum : Int} {session : Bytes} {sequence : UInt32} {bytes : Bytes}
    (hs : SessionOk session) (hprintable : bytes.all printable = true) {k : Nat} (hk : 0 < k)
    (hlen : k ≤ bytes.length) :
    chunkFits maximum session sequence bytes k = true ↔
      k ≤ capacity maximum session sequence := by
  have htake : (bytes.take k).length = k := List.length_take_of_le hlen
  have hall : (bytes.take k).all printable = true := by
    rw [List.all_eq_true] at hprintable ⊢
    exact fun b hb => hprintable b (List.mem_of_mem_take hb)
  have hprovision := fun frame => @wifiProvision_eq_ok_iff session sequence 15 16 _ frame
    (by omega) (Nat.le_refl 16) hall
  have hfits := @fitsFrame_iff maximum session sequence (bytes.take k) (by omega)
  rw [htake] at hfits
  rw [← hfits, chunkFits, FitsFrame]
  split
  · next frame hframe =>
      obtain ⟨⟨-, hlength⟩, rfl⟩ := (hprovision frame).mp hframe
      rw [decide_eq_true_eq]
      exact ⟨fun h => ⟨h, hlength⟩, fun h => h.1⟩
  · next e herror =>
      refine ⟨fun h => (nomatch h), fun h => ?_⟩
      rw [(hprovision _).mpr ⟨⟨hs, h.2⟩, rfl⟩] at herror
      cases herror

/-- The longest chunk: what the frame has room for, or all that is left. -/
theorem search_capacity {maximum : Int} {session : Bytes} {sequence : UInt32} {bytes : Bytes}
    (hs : SessionOk session) (hprintable : bytes.all printable = true) :
    searchBest (chunkFits maximum session sequence bytes) (bytes.length + 1) 1 bytes.length 0 =
      min (capacity maximum session sequence) bytes.length := by
  refine searchBest_eq (fun k hk hk' => ?_) rfl (Nat.zero_le _) (Nat.min_le_right _ _) (by omega)
  rw [chunkFits_iff hs hprintable hk hk', Nat.le_min]
  exact ⟨fun h => ⟨h, hk'⟩, fun h => h.1⟩

/-! ## The chunks -/

/-- Chunks of `n` bytes, the last one what is left. -/
structure Blocks (n : Nat) (chunks : List Bytes) : Prop where
  nonempty : ∀ c ∈ chunks, 0 < c.length
  le : ∀ c ∈ chunks, c.length ≤ n
  full : ∀ c ∈ chunks.dropLast, c.length = n

/-- One more full chunk. -/
theorem blocks_cons {n : Nat} {chunk : Bytes} {chunks : List Bytes} (h : Blocks n chunks)
    (hpos : 0 < chunk.length) (hle : chunk.length ≤ n)
    (hfull : chunks ≠ [] → chunk.length = n) : Blocks n (chunk :: chunks) where
  nonempty c hc := by
    rcases List.mem_cons.mp hc with rfl | hc
    · exact hpos
    · exact h.nonempty c hc
  le c hc := by
    rcases List.mem_cons.mp hc with rfl | hc
    · exact hle
    · exact h.le c hc
  full c hc := by
    cases chunks with
    | nil => exact (List.not_mem_nil hc).elim
    | cons d chunks =>
        rw [List.dropLast_cons_of_ne_nil (List.cons_ne_nil d chunks)] at hc
        rcases List.mem_cons.mp hc with rfl | hc
        · exact hfull (List.cons_ne_nil d chunks)
        · exact h.full c hc

theorem flatten_length_le {n : Nat} {xs : List Bytes} (h : ∀ x ∈ xs, x.length ≤ n) :
    xs.flatten.length ≤ n * xs.length := by
  induction xs with
  | nil => simp
  | cons x xs ih =>
      have hx := h x List.mem_cons_self
      have hxs := ih fun y hy => h y (List.mem_cons_of_mem x hy)
      rw [List.flatten_cons, List.length_append, List.length_cons, Nat.mul_succ]
      omega

/-- No split into chunks of at most `n` bytes has fewer parts. -/
theorem Blocks.least {n : Nat} {chunks others : List Bytes} (h : Blocks n chunks)
    (hflatten : others.flatten = chunks.flatten) (hothers : ∀ c ∈ others, c.length ≤ n) :
    chunks.length ≤ others.length := by
  rcases List.eq_nil_or_concat' chunks with rfl | ⟨front, last, rfl⟩
  · exact Nat.zero_le _
  · have hfront := @mul_length_le_flatten n front fun c hc =>
      (h.full c (by simpa using hc)).ge
    have hlast := h.nonempty last (by simp)
    have htotal := congrArg List.length hflatten
    have hbound := flatten_length_le hothers
    rw [List.flatten_append, List.length_append, List.flatten_singleton] at htotal
    rw [List.length_append, List.length_singleton]
    by_contra hless
    have hmul := Nat.mul_le_mul_left n (show others.length ≤ front.length by omega)
    omega

/-- With room for one byte the payload is cut into blocks. -/
theorem wifiChunks_blocks {maximum : Int} {session : Bytes} {sequence : UInt32}
    (hs : SessionOk session) (hroom : 0 < capacity maximum session sequence) {fuel : Nat}
    {bytes : Bytes} (hprintable : bytes.all printable = true) (hfuel : bytes.length ≤ fuel) :
    ∃ chunks, wifiChunks maximum session sequence fuel bytes = .ok chunks ∧
      chunks.flatten = bytes ∧ Blocks (capacity maximum session sequence) chunks := by
  induction fuel generalizing bytes with
  | zero =>
      obtain rfl := List.length_eq_zero_iff.mp (Nat.le_zero.mp hfuel)
      exact ⟨[], rfl, rfl, ⟨by simp, by simp, by simp⟩⟩
  | succ fuel ih =>
      rw [wifiChunks]
      split
      · next hempty =>
          obtain rfl := List.isEmpty_iff.mp hempty
          exact ⟨[], rfl, rfl, ⟨by simp, by simp, by simp⟩⟩
      · next hempty =>
          have hpos := List.length_pos_iff.mpr fun hnil => hempty (List.isEmpty_iff.mpr hnil)
          rw [search_capacity hs hprintable]
          generalize hbest : min (capacity maximum session sequence) bytes.length = best
          have hdrop : (bytes.drop best).all printable = true := by
            rw [List.all_eq_true] at hprintable ⊢
            exact fun b hb => hprintable b (List.mem_of_mem_drop hb)
          obtain ⟨rest, hrest, hflatten, hblocks⟩ := ih hdrop (by rw [List.length_drop]; omega)
          dsimp only
          rw [if_neg (by omega), hrest]
          have htake : (bytes.take best).length = best := List.length_take_of_le (by omega)
          refine ⟨bytes.take best :: rest, rfl, ?_, blocks_cons hblocks ?_ ?_ fun hne => ?_⟩
          · rw [List.flatten_cons, hflatten, List.take_append_drop]
          · omega
          · omega
          · -- something is left, so the chunk was not cut short by the end
            have hleft : 0 < rest.flatten.length := by
              obtain ⟨c, tail, rfl⟩ := List.exists_cons_of_ne_nil hne
              have := hblocks.nonempty c List.mem_cons_self
              rw [List.flatten_cons, List.length_append]
              omega
            rw [hflatten, List.length_drop] at hleft
            omega

/-- Without room there are no chunks. -/
theorem wifiChunks_no_room {maximum : Int} {session : Bytes} {sequence : UInt32}
    (hs : SessionOk session) (hroom : capacity maximum session sequence = 0) {fuel : Nat}
    {bytes : Bytes} (hprintable : bytes.all printable = true) (hfuel : bytes.length ≤ fuel)
    (hne : bytes ≠ []) :
    wifiChunks maximum session sequence fuel bytes = .error .oversizedWiFiPayload := by
  have hpos := List.length_pos_iff.mpr hne
  obtain ⟨fuel, rfl⟩ : ∃ n, fuel = n + 1 := ⟨fuel - 1, by omega⟩
  rw [wifiChunks, if_neg (by simpa using hne), search_capacity hs hprintable, hroom]
  rfl

/-- More fuel changes nothing. -/
theorem wifiChunks_fuel (maximum : Int) (session : Bytes) (sequence : UInt32) {fuel : Nat}
    {bytes : Bytes} (hfuel : bytes.length ≤ fuel) (extra : Nat) :
    wifiChunks maximum session sequence (fuel + extra) bytes =
      wifiChunks maximum session sequence fuel bytes := by
  induction fuel generalizing bytes with
  | zero =>
      obtain rfl := List.length_eq_zero_iff.mp (Nat.le_zero.mp hfuel)
      cases extra with
      | zero => rfl
      | succ extra => rfl
  | succ fuel ih =>
      rw [Nat.succ_add_eq_add_succ, Nat.add_succ, wifiChunks, wifiChunks]
      split
      · rfl
      · dsimp only
        split
        · rfl
        · rw [ih (by rw [List.length_drop]; omega)]

/-! ## The frames -/

/-- What follows the first `n` pipes of a frame. -/
def afterPipes : Nat → Bytes → Bytes
  | 0, bytes => bytes
  | n + 1, bytes => afterPipes n ((bytes.dropWhile fun c => c != pipe).drop 1)

/-- The payload field of a `WIFI` frame, the seventh and last. -/
def wifiPayloadField (frame : Bytes) : Bytes := afterPipes 6 frame

theorem afterPipes_field {field : Bytes} (h : pipe ∉ field) (n : Nat) (rest : Bytes) :
    afterPipes (n + 1) (field ++ pipe :: rest) = afterPipes n rest := by
  have hdrop : (field ++ pipe :: rest).dropWhile (fun c => c != pipe) = pipe :: rest := by
    rw [List.dropWhile_append_of_pos]
    · simp
    · intro c hc
      rw [bne_iff_ne]
      rintro rfl
      exact h hc
  rw [afterPipes, hdrop]
  rfl

/-- The receiver reads the chunk that was framed. -/
theorem wifiPayloadField_frame {session : Bytes} (h : pipe ∉ session) (sequence : UInt32)
    (index total : Nat) (chunk : Bytes) :
    wifiPayloadField (wifiFrame session sequence index total chunk) = chunk := by
  have hdecimal : ∀ n, pipe ∉ decimal n := decimal_plain (by decide)
  simp only [wifiPayloadField, wifiFrame, joinFields]
  rw [afterPipes_field (by decide), afterPipes_field (by decide), afterPipes_field h,
    afterPipes_field (hdecimal _), afterPipes_field (hdecimal _), afterPipes_field (hdecimal _)]
  rfl

/-- The frames of the chunks of a payload. -/
def wifiFrameList (session : Bytes) (sequence : UInt32) (chunks : List Bytes) : List Bytes :=
  chunks.zipIdx.map fun x => wifiFrame session sequence x.2 chunks.length x.1

/-- A frame of the list is no longer than that of part 15 of 16. -/
theorem frame_within {maximum : Int} {session : Bytes} {sequence : UInt32}
    {chunks : List Bytes} (hblocks : Blocks (capacity maximum session sequence) chunks)
    (hparts : chunks.length ≤ 16) {x : Bytes × Nat} (hx : x ∈ chunks.zipIdx) :
    ((wifiFrame session sequence x.2 chunks.length x.1).length : Int) ≤ maximum ∧
      (wifiFrame session sequence x.2 chunks.length x.1).length ≤ maximumCommittedBytes := by
  obtain ⟨hindex, hchunk⟩ := List.mem_zipIdx' hx
  have hmem : x.1 ∈ chunks := hchunk ▸ List.getElem_mem hindex
  have hfits := (fitsFrame_iff (hblocks.nonempty x.1 hmem)).mpr (hblocks.le x.1 hmem)
  have hpart := (length_decimal_part (n := x.2) (by omega)).2
  have htotal := (length_decimal_part (n := chunks.length) (by omega)).2
  have hfifteen : (decimal 15).length = 2 := by decide
  have hsixteen : (decimal 16).length = 2 := by decide
  rw [FitsFrame, length_wifiFrame, hfifteen, hsixteen] at hfits
  rw [length_wifiFrame]
  omega

/-- **What `wifiFrames` does with a payload there is room for.** -/
theorem wifiFrames_of_blocks {maximum : Int} {session : Bytes} {sequence : UInt32}
    {payload : Bytes} {chunks : List Bytes} (hs : SessionOk session)
    (hprintable : payload.all printable = true) (hne : payload ≠ [])
    (hchunks : wifiChunks maximum session sequence payload.length payload = .ok chunks)
    (hflatten : chunks.flatten = payload)
    (hblocks : Blocks (capacity maximum session sequence) chunks) :
    wifiFrames maximum session sequence payload =
      if chunks.length ≤ 16 then .ok (wifiFrameList session sequence chunks)
      else .error .tooManyParts := by
  rw [wifiFrames, if_neg (by simpa using hne), hchunks]
  simp only [bind, Except.bind]
  by_cases hparts : chunks.length ≤ 16
  · rw [if_neg (by omega), if_pos hparts]
    have hprovision : ∀ x ∈ chunks.zipIdx, ∀ y,
        wifiProvision session sequence x.2 chunks.length x.1 = .ok y ↔
          (SessionOk session ∧
            (wifiFrame session sequence x.2 chunks.length x.1).length ≤ maximumCommittedBytes) ∧
          y = wifiFrame session sequence x.2 chunks.length x.1 := by
      intro x hx y
      obtain ⟨hindex, hchunk⟩ := List.mem_zipIdx' hx
      refine wifiProvision_eq_ok_iff hindex hparts ?_
      rw [List.all_eq_true] at hprintable ⊢
      intro b hb
      refine hprintable b (hflatten ▸ List.mem_flatten.mpr ⟨x.1, ?_, hb⟩)
      exact hchunk ▸ List.getElem_mem hindex
    exact (mapM_eq_ok_iff hprovision).mpr
      ⟨fun x hx => ⟨hs, (frame_within hblocks hparts hx).2⟩, rfl⟩
  · rw [if_pos (by omega), if_neg hparts]

/-- The longest of all chunks that fit. -/
def LongestFit (maximum : Int) (session : Bytes) (sequence : UInt32) (chunk : Bytes) : Prop :=
  FitsFrame maximum session sequence chunk ∧
    ∀ other, FitsFrame maximum session sequence other → other.length ≤ chunk.length

/-- `wifiFrames` cuts the payload as long as the frames allow, and throws
only where no such cut is. -/
structure ExactChunks (maximum : Int) (session : Bytes) (sequence : UInt32)
    (payload : Bytes) : Prop where
  /-- the loops end: more fuel changes nothing -/
  search : ∀ fits : Nat → Bool, ∀ remaining extra : Nat,
    searchBest fits (remaining + 1 + extra) 1 remaining 0 =
      searchBest fits (remaining + 1) 1 remaining 0
  loop : ∀ extra, wifiChunks maximum session sequence (payload.length + extra) payload =
    wifiChunks maximum session sequence payload.length payload
  returns : ∀ fs, wifiFrames maximum session sequence payload = .ok fs →
    (fs.map wifiPayloadField).flatten = payload ∧
      fs = wifiFrameList session sequence (fs.map wifiPayloadField) ∧
      (∀ f ∈ fs, (f.length : Int) ≤ maximum) ∧
      ∀ chunk ∈ (fs.map wifiPayloadField).dropLast,
        LongestFit maximum session sequence chunk
  tooManyParts : wifiFrames maximum session sequence payload = .error .tooManyParts →
    ¬ ∃ chunks : List Bytes, chunks.length ≤ 16 ∧ chunks.flatten = payload ∧
      ∀ c ∈ chunks, FitsFrame maximum session sequence c
  oversized : wifiFrames maximum session sequence payload = .error .oversizedWiFiPayload →
    payload = [] ∨ ∀ b, ¬ FitsFrame maximum session sequence [b]
  noOther : ∀ e, wifiFrames maximum session sequence payload = .error e →
    e = .tooManyParts ∨ e = .oversizedWiFiPayload

/-- Each chunk but the last is the longest that fits. -/
theorem Blocks.longestFit {maximum : Int} {session : Bytes} {sequence : UInt32}
    {chunks : List Bytes} (h : Blocks (capacity maximum session sequence) chunks)
    {chunk : Bytes} (hchunk : chunk ∈ chunks.dropLast) :
    LongestFit maximum session sequence chunk := by
  have hmem := List.mem_of_mem_dropLast hchunk
  have hpos := h.nonempty chunk hmem
  refine ⟨(fitsFrame_iff hpos).mpr (h.le chunk hmem), fun other hother => ?_⟩
  rw [h.full chunk hchunk]
  rcases Nat.eq_zero_or_pos other.length with hzero | hother'
  · omega
  · exact (fitsFrame_iff hother').mp hother

/-- The receiver reads all chunks. -/
theorem wifiFrameList_fields {session : Bytes} (h : pipe ∉ session) (sequence : UInt32)
    (chunks : List Bytes) :
    (wifiFrameList session sequence chunks).map wifiPayloadField = chunks := by
  rw [wifiFrameList, List.map_map]
  have hfst : (wifiPayloadField ∘ fun x : Bytes × Nat =>
      wifiFrame session sequence x.2 chunks.length x.1) = Prod.fst :=
    funext fun x => wifiPayloadField_frame h sequence _ _ _
  rw [hfst, List.zipIdx_map_fst]

end Bootmux.Iphone
