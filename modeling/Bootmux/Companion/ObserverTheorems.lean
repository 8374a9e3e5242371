/-
Bootmux.Companion.ObserverTheorems — what an observer returns of the file
it watches.

The observer tells a new file from a longer one by its size, its
modification time and the bytes of the very first batch, which it never
replaces. A file written anew with other first bytes is therefore taken
for new at every poll that finds it read to the end; `generations_once`
is about the polls that do not. And what is appended between the
`os.Stat` and the read of one poll makes the next one see an old size
with a new time; `appended_once` is about the runs in which that does
not happen.

Every batch carries the positions of its bytes (`Batch.positions`), so that
returned once means that no position is in two batches. For generations the
invariant is about the prefix that the observer keeps; for a file that only
grows it is about the offset, which is the length of what was returned
(`ReturnedAll`).

A poll of four steps that nothing comes between is one call of `readNew`,
and the runs of the first part are runs of such calls; those of the second
interleave the four steps with the writes.
-/
import Bootmux.Companion.Observer
import Bootmux.Companion.StreamTheorems

namespace Bootmux.Companion

open Bootmux.Lib

/-! ## One poll and its steps -/

/-- A poll at once is its four steps in a row. -/
theorem pollStep_poll (file : MirrorFile) (batch : Nat) {w : Watched} (hpc : w.pc = .idle) :
    pollStep w .poll = ((watchMachine file batch).runFrom w readNewSteps,
      (watchMachine file batch).traceFrom w readNewSteps) := by
  simp [pollStep, readNewSteps, watchMachine, watchStep, hpc, MirrorObserver.readNew,
    MirrorObserver.start]

/-- The connection to the mirror that polls this observer. -/
def Watched.mirror (w : Watched) : Mirror where
  file := some w.file
  observer := w.observer
  pc :=
    match w.pc with
    | .idle => .select
    | .opening size modTime => .opening size modTime
    | .checking size modTime => .checking size modTime
    | .reading modTime => .reading modTime

/-- The step of the connection that takes a step of `readNew`. -/
def WatchEvent.mirror : WatchEvent → MirrorEvent
  | .append data modTime => .append data modTime
  | .rewrite content modTime => .rewrite content modTime
  | .stat => .stat true
  | .opened => .opened true
  | .check => .check
  | .read => .read true

/-- The observer takes the steps it takes behind a connection. -/
theorem mirrorStep_watched (sessionID : Bytes) (w : Watched) (e : WatchEvent)
    (he : ∀ modTime, e ≠ .append [] modTime) :
    (mirrorStep sessionID w.mirror e.mirror).1 = (watchStep w e).1.mirror := by
  cases e with
  | append data modTime =>
      have hdata : data ≠ [] := fun h => he modTime (by rw [h])
      simp [mirrorStep, watchStep, WatchEvent.mirror, Watched.mirror, hdata]
  | rewrite content modTime => rfl
  | stat =>
      cases hpc : w.pc <;> simp [mirrorStep, watchStep, WatchEvent.mirror, Watched.mirror, hpc]
  | opened =>
      cases hpc : w.pc <;> simp [mirrorStep, watchStep, WatchEvent.mirror, Watched.mirror, hpc]
  | check =>
      cases hpc : w.pc <;> simp [mirrorStep, watchStep, WatchEvent.mirror, Watched.mirror, hpc]
  | read =>
      cases hpc : w.pc with
      | reading modTime =>
          simp only [mirrorStep, watchStep, WatchEvent.mirror, Watched.mirror, hpc, Mirror.write]
          split <;> rfl
      | _ => simp [mirrorStep, watchStep, WatchEvent.mirror, Watched.mirror, hpc]

section Observer

variable {o : MirrorObserver} {file : MirrorFile}

theorem MirrorObserver.stat_of_settled (hle : o.offset ≤ file.content.length)
    (htime : file.content.length = o.offset → file.modTime = o.modTime) :
    o.stat file.content.length file.modTime = o := by
  refine if_neg ?_
  rintro (hlt | ⟨hsize, hne⟩)
  · omega
  · exact hne (htime hsize)

/-- The observer starts inside the file. -/
theorem MirrorObserver.start_le (o : MirrorObserver) (file : MirrorFile) :
    o.start file ≤ file.content.length := by
  have hstat : (o.stat file.content.length file.modTime).offset ≤ file.content.length := by
    unfold stat
    split
    · exact Nat.zero_le _
    · rename_i h
      exact Nat.le_of_not_lt fun hlt => h (.inl hlt)
  unfold start checkPrefix
  split
  · exact Nat.zero_le _
  · exact hstat

/-- It reads a batch, or what there is. -/
theorem MirrorObserver.length_newBytes (content : Bytes) :
    (o.newBytes content).length = min o.batch (content.length - o.offset) := by
  simp [newBytes]

end Observer

/-! ## Generations -/

/-- The places of the bytes of a batch. -/
def Batch.positions (b : Batch) : List (Nat × Nat) :=
  (List.range' b.offset b.data.length).map (b.generation, ·)

/-- A poll of a file that is as the last poll left it, and read to the end,
finds the first bytes the observer remembers, or fewer bytes than those. -/
def prefixKept (w : Watched) : PollEvent → Bool
  | .poll =>
      w.file.content.length ≠ w.observer.offset ∨ w.file.modTime ≠ w.observer.modTime ∨
        w.observer.prefixBytes = [] ∨
        w.file.content.length < w.observer.prefixBytes.length ∨
        w.file.content.take w.observer.prefixBytes.length = w.observer.prefixBytes
  | _ => true

/-- A prefix that is kept passes the check. -/
theorem checkPrefix_of_kept {w : Watched} (hkept : prefixKept w .poll = true)
    (htime : w.file.content.length = w.observer.offset → w.file.modTime = w.observer.modTime) :
    w.observer.checkPrefix w.file.content.length w.file.content = w.observer := by
  refine if_neg ?_
  rintro ⟨hsize, hpos, hlong, hne⟩
  simp only [prefixKept, hsize, htime hsize, ne_eq, not_true_eq_false, false_or,
    decide_eq_true_eq] at hkept
  rcases hkept with hnil | hshort | hsame
  · rw [hnil] at hpos
    exact absurd hpos (by simp)
  · omega
  · exact hne hsame

/-- The positions of a batch are those of its bytes. -/
theorem mem_positions {b : Batch} {p : Nat × Nat} :
    p ∈ b.positions ↔ p.1 = b.generation ∧ b.offset ≤ p.2 ∧ p.2 < b.offset + b.data.length := by
  obtain ⟨g, k⟩ := p
  simp only [Batch.positions, List.mem_map, List.mem_range'_1, Prod.mk.injEq]
  constructor
  · rintro ⟨k', hk, rfl, rfl⟩
    exact ⟨rfl, hk⟩
  · rintro ⟨rfl, hk⟩
    exact ⟨k, hk, rfl, rfl⟩

/-- No position is twice in a batch. -/
theorem nodup_positions (b : Batch) : b.positions.Nodup :=
  List.Nodup.map (fun _ _ h => (Prod.mk.inj h).2) List.nodup_range'

/-- What was returned so far. If anything was returned of the present
generation, the file has only grown since. -/
structure ReturnedOnce (w : Watched) (t : List Batch) : Prop where
  nodup : (t.flatMap Batch.positions).Nodup
  old : ∀ b ∈ t, b.generation ≤ w.generation
  current : ∀ b ∈ t, b.generation = w.generation →
    b.offset + b.data.length ≤ w.observer.offset ∧
      w.observer.offset ≤ w.file.content.length ∧
      (w.file.content.length = w.observer.offset → w.file.modTime = w.observer.modTime)

namespace ReturnedOnce

variable {w : Watched} {t : List Batch}

theorem changed (h : ReturnedOnce w t) {file : MirrorFile}
    (hcurrent : w.observer.offset ≤ w.file.content.length →
      w.observer.offset < file.content.length) :
    ReturnedOnce { w with file := file } t := by
  refine ⟨h.nodup, h.old, fun b hb hgen => ?_⟩
  obtain ⟨hread, hle, -⟩ := h.current b hb hgen
  have hlt := hcurrent hle
  exact ⟨hread, Nat.le_of_lt hlt, fun heq => absurd hlt (by simp [heq])⟩

/-- A file that is written anew starts a generation. -/
theorem rewritten (h : ReturnedOnce w t) (file : MirrorFile) :
    ReturnedOnce { w with file := file, generation := w.generation + 1 } t := by
  refine ⟨h.nodup, fun b hb => Nat.le_succ_of_le (h.old b hb), fun b hb hgen => ?_⟩
  have hle := h.old b hb
  have hgen : b.generation = w.generation + 1 := hgen
  omega

/-- Where a poll starts: after what was returned of this generation. -/
theorem start_of_current (h : ReturnedOnce w t) (hkept : prefixKept w .poll = true) {b : Batch}
    (hb : b ∈ t) (hgen : b.generation = w.generation) :
    w.observer.start w.file = w.observer.offset := by
  obtain ⟨-, hle, htime⟩ := h.current b hb hgen
  rw [MirrorObserver.start, MirrorObserver.stat_of_settled hle htime,
    checkPrefix_of_kept hkept htime]

/-- A poll returns what has not been returned. -/
theorem poll (h : ReturnedOnce w t) (hkept : prefixKept w .poll = true) :
    ReturnedOnce (pollStep w .poll).1 (t ++ (pollStep w .poll).2) := by
  have hoffset : (w.observer.readNew w.file).2.offset =
      w.observer.start w.file + (w.observer.readNew w.file).1.length := rfl
  have hlen : w.observer.start w.file + (w.observer.readNew w.file).1.length ≤
      w.file.content.length := by
    have hle := w.observer.start_le w.file
    have : (w.observer.readNew w.file).1.length ≤
        w.file.content.length - w.observer.start w.file := by
      rw [MirrorObserver.readNew, MirrorObserver.length_newBytes]
      exact Nat.min_le_right _ _
    omega
  refine ⟨?_, fun b hb => ?_, fun b hb hgen => ⟨?_, ?_, fun _ => rfl⟩⟩
  · rw [List.flatMap_append, List.nodup_append]
    refine ⟨h.nodup, by simpa [pollStep] using nodup_positions _, fun p hp q hq heq => ?_⟩
    subst heq
    obtain ⟨b, hb, hpb⟩ := List.mem_flatMap.mp hp
    obtain ⟨c, hc, hpc⟩ := List.mem_flatMap.mp hq
    obtain rfl := List.mem_singleton.mp hc
    rw [mem_positions] at hpb hpc
    have hgen : b.generation = w.generation := hpb.1.symm.trans hpc.1
    have hstart := h.start_of_current hkept hb hgen
    have hread := (h.current b hb hgen).1
    have := hpc.2.1
    simp only at this
    omega
  · rcases List.mem_append.mp hb with hb | hb
    · exact h.old b hb
    · rw [List.mem_singleton.mp hb]
      exact Nat.le_refl _
  · show b.offset + b.data.length ≤ (w.observer.readNew w.file).2.offset
    rw [hoffset]
    rcases List.mem_append.mp hb with hb | hb
    · have hstart := h.start_of_current hkept hb hgen
      have hread := (h.current b hb hgen).1
      omega
    · rw [List.mem_singleton.mp hb]
  · show (w.observer.readNew w.file).2.offset ≤ w.file.content.length
    rw [hoffset]
    exact hlen

theorem step (h : ReturnedOnce w t) {e : PollEvent} (hkept : prefixKept w e = true) :
    ReturnedOnce (pollStep w e).1 (t ++ (pollStep w e).2) := by
  cases e with
  | append data modTime =>
      simp only [pollStep, watchStep]
      split
      · rw [List.append_nil]
        exact h
      · rename_i hdata
        rw [List.append_nil]
        refine h.changed fun hle => ?_
        have := List.length_pos_of_ne_nil hdata
        rw [List.length_append]
        omega
  | rewrite content modTime =>
      show ReturnedOnce _ (t ++ [])
      rw [List.append_nil]
      exact h.rewritten _
  | poll => exact h.poll hkept

end ReturnedOnce

/-- A poll of the file the last poll left, read to its end. -/
theorem poll_again {w : Watched} (hkept : prefixKept (pollStep w .poll).1 .poll = true)
    (hend : (pollStep w .poll).1.observer.offset = (pollStep w .poll).1.file.content.length) :
    ∀ b ∈ (pollStep (pollStep w .poll).1 .poll).2, b.data = [] := by
  generalize hw : (pollStep w .poll).1 = w' at hkept hend
  have htime : w'.file.modTime = w'.observer.modTime := by rw [← hw]; rfl
  have hstat : w'.observer.stat w'.file.content.length w'.file.modTime = w'.observer :=
    MirrorObserver.stat_of_settled (Nat.le_of_eq hend) fun _ => htime
  intro b hb
  obtain rfl := List.mem_singleton.mp hb
  show ((w'.observer.stat _ _).checkPrefix _ _).newBytes w'.file.content = []
  rw [hstat, checkPrefix_of_kept hkept fun _ => htime, MirrorObserver.newBytes, hend,
    List.drop_length, List.take_nil]

/-- **No byte of a generation is returned twice, and a poll of a file that
is read to the end and has not changed returns nothing, if the first bytes
of the file stay the ones the observer remembers.** -/
theorem generations_once (file : MirrorFile) (batch : Nat) (es : List PollEvent)
    (hes : (pollMachine file batch).AllSteps (prefixKept · · = true)
      (pollMachine file batch).init es) :
    (((pollMachine file batch).trace es).flatMap Batch.positions).Nodup ∧
      ∀ pre post, es = pre ++ .poll :: .poll :: post →
        ((pollMachine file batch).run (pre ++ [.poll])).observer.offset =
          ((pollMachine file batch).run (pre ++ [.poll])).file.content.length →
        ∀ b ∈ (pollStep ((pollMachine file batch).run (pre ++ [.poll])) .poll).2, b.data = [] := by
  constructor
  · exact ((pollMachine file batch).history_invariant
      (I := fun t w => ReturnedOnce w t) (P := (prefixKept · · = true))
      ⟨List.nodup_nil, by simp, by simp⟩ (fun t w e h hkept => h.step hkept) es hes).nodup
  · intro pre post hsplit hend
    have hkept := ((pollMachine file batch).allSteps_iff_split _ _ _).mp hes (pre ++ [.poll]) .poll
      post (by simp [hsplit])
    have hrun : (pollMachine file batch).run (pre ++ [.poll]) =
        (pollStep ((pollMachine file batch).run pre) .poll).1 :=
      (pollMachine file batch).run_concat pre .poll
    have hkept : prefixKept ((pollMachine file batch).run (pre ++ [.poll])) .poll = true := hkept
    rw [hrun] at hkept hend ⊢
    exact poll_again hkept hend

/-- A file that grows, and one that is cut and grows again. -/
def regrownEvents : List PollEvent :=
  [.poll, .append [0x62, 0x63] 2, .poll, .poll, .rewrite [] 3, .poll, .append [0x61, 0x64] 4,
    .poll, .poll]

/-- Each of its generations is returned once. -/
theorem generations_once_regrown :
    (pollMachine ⟨[0x61], 1⟩ 64).AllSteps (prefixKept · · = true) (pollMachine ⟨[0x61], 1⟩ 64).init
        regrownEvents ∧
      (((pollMachine ⟨[0x61], 1⟩ 64).trace regrownEvents).flatMap Batch.positions).Nodup :=
  ⟨by decide, (generations_once ⟨[0x61], 1⟩ 64 regrownEvents (by decide)).1⟩

/-- A file that is written anew with other bytes. -/
def rewrittenEvents : List PollEvent := [.poll, .rewrite [0x63, 0x64] 2, .poll, .poll]

/-- Its second generation is returned again and again. -/
theorem generations_repeated :
    ¬ ((((pollMachine ⟨[0x61, 0x62], 1⟩ 64).trace rewrittenEvents).flatMap Batch.positions).Nodup ∧
      ∀ pre post, rewrittenEvents = pre ++ .poll :: .poll :: post →
        ((pollMachine ⟨[0x61, 0x62], 1⟩ 64).run (pre ++ [.poll])).observer.offset =
          ((pollMachine ⟨[0x61, 0x62], 1⟩ 64).run (pre ++ [.poll])).file.content.length →
        ∀ b ∈ (pollStep ((pollMachine ⟨[0x61, 0x62], 1⟩ 64).run (pre ++ [.poll])) .poll).2,
          b.data = []) := by
  rintro ⟨hnodup, -⟩
  exact absurd hnodup (by decide)

/-! ## Files that only grow -/

def WatchEvent.appends : WatchEvent → Bool
  | .rewrite _ _ => false
  | _ => true

/-- `os.Stat` does not find the size the observer has read up to with
another modification time. -/
def statSettled (w : Watched) : WatchEvent → Bool
  | .stat =>
      w.pc ≠ .idle ∨ w.file.content.length ≠ w.observer.offset ∨ w.observer.offset = 0 ∨
        w.file.modTime = w.observer.modTime
  | _ => true

/-- The bytes of the batches. -/
def returned (t : List Batch) : Bytes := t.flatMap (·.data)

/-- What was returned is the file up to the offset. -/
structure ReturnedAll (w : Watched) (t : List Batch) : Prop where
  batch : 0 < w.observer.batch
  offset_le : w.observer.offset ≤ w.file.content.length
  prefixBytes : w.observer.prefixBytes <+: w.file.content
  fresh : w.observer.prefixBytes = [] → w.observer.offset = 0
  returned : returned t = w.file.content.take w.observer.offset

namespace ReturnedAll

variable {w : Watched} {t : List Batch}

/-- An append is returned later. -/
theorem append (h : ReturnedAll w t) (data : Bytes) (modTime : Int) :
    ReturnedAll { w with file := ⟨w.file.content ++ data, modTime⟩ } t := by
  refine ⟨h.batch, ?_, h.prefixBytes.trans (List.prefix_append _ _), h.fresh, ?_⟩
  · show w.observer.offset ≤ (w.file.content ++ data).length
    rw [List.length_append]
    exact Nat.le_trans h.offset_le (Nat.le_add_right _ _)
  · show Companion.returned t = (w.file.content ++ data).take w.observer.offset
    rw [List.take_append_of_le_length h.offset_le]
    exact h.returned

/-- A settled `os.Stat` leaves the observer as it is, up to an offset of 0
that stays 0. -/
theorem stat_eq (h : ReturnedAll w t) (hpc : w.pc = .idle) (hsettled : statSettled w .stat = true) :
    w.observer.stat w.file.content.length w.file.modTime = w.observer := by
  have hle := h.offset_le
  unfold MirrorObserver.stat
  split
  · rename_i hreset
    have hzero : w.observer.offset = 0 := by
      simp only [statSettled, hpc, ne_eq, not_true_eq_false, false_or,
        decide_eq_true_eq] at hsettled
      rcases hreset with hlt | ⟨hsize, hne⟩
      · omega
      · rcases hsettled with hdiffers | hzero | htime
        · exact absurd hsize hdiffers
        · exact hzero
        · exact absurd htime hne
    rw [← hzero]
  · rfl

/-- What is read counts as returned. -/
theorem read (h : ReturnedAll w t) (modTime : Int) :
    ReturnedAll { w with
      observer := w.observer.record modTime (w.observer.newBytes w.file.content)
      pc := .idle }
      (t ++ [⟨w.generation, w.observer.offset, w.observer.newBytes w.file.content⟩]) := by
  have hlen := MirrorObserver.length_newBytes (o := w.observer) w.file.content
  have hle := h.offset_le
  have hdata : w.observer.newBytes w.file.content <+: w.file.content.drop w.observer.offset :=
    List.take_prefix _ _
  refine ⟨h.batch, ?_, ?_, fun hnone => ?_, ?_⟩
  · show w.observer.offset + _ ≤ w.file.content.length
    omega
  · show (if _ then _ else _ : Bytes) <+: w.file.content
    split
    · rename_i hnew
      rwa [h.fresh hnew.1, List.drop_zero] at hdata
    · exact h.prefixBytes
  · have hnone : (if _ then _ else _ : Bytes) = [] := hnone
    split at hnone
    · rename_i hnew
      rw [hnone] at hnew
      exact absurd hnew.2 (by simp)
    · rename_i hnew
      have hzero := h.fresh hnone
      have : ¬ 0 < (w.observer.newBytes w.file.content).length := fun hpos => hnew ⟨hnone, hpos⟩
      show w.observer.offset + _ = 0
      omega
  · show Companion.returned (t ++ [_]) =
      w.file.content.take (w.observer.offset + (w.observer.newBytes w.file.content).length)
    rw [List.take_add, ← List.prefix_iff_eq_take.mp hdata, ← h.returned]
    simp [Companion.returned]

theorem step (h : ReturnedAll w t) {e : WatchEvent} (happends : e.appends = true)
    (hsettled : statSettled w e = true) :
    ReturnedAll (watchStep w e).1 (t ++ (watchStep w e).2) := by
  have hkeep : ReturnedAll w (t ++ []) := by rwa [List.append_nil]
  cases e with
  | rewrite content modTime => cases happends
  | append data modTime =>
      simp only [watchStep]
      split
      · exact hkeep
      · exact hkeep.append data modTime
  | stat =>
      simp only [watchStep]
      split
      · rename_i hpc
        rw [h.stat_eq hpc hsettled]
        exact ⟨hkeep.batch, hkeep.offset_le, hkeep.prefixBytes, hkeep.fresh, hkeep.returned⟩
      · exact hkeep
  | opened =>
      simp only [watchStep]
      split
      · exact ⟨hkeep.batch, hkeep.offset_le, hkeep.prefixBytes, hkeep.fresh, hkeep.returned⟩
      · exact hkeep
  | check =>
      simp only [watchStep]
      split
      · rw [MirrorObserver.checkPrefix_of_prefix h.prefixBytes]
        exact ⟨hkeep.batch, hkeep.offset_le, hkeep.prefixBytes, hkeep.fresh, hkeep.returned⟩
      · exact hkeep
  | read =>
      simp only [watchStep]
      split
      · exact h.read _
      · exact hkeep

/-- The rest of a poll, or a whole one: it reads on from the offset. -/
theorem readNewSteps (h : ReturnedAll w t) (file : MirrorFile) (batch : Nat)
    (hsettled : statSettled w .stat = true) :
    ((watchMachine file batch).runFrom w readNewSteps).file = w.file ∧
      ((watchMachine file batch).runFrom w readNewSteps).observer.offset =
        min (w.observer.offset + w.observer.batch) w.file.content.length := by
  have hle := h.offset_le
  have hread : w.observer.offset + (w.observer.newBytes w.file.content).length =
      min (w.observer.offset + w.observer.batch) w.file.content.length := by
    rw [MirrorObserver.length_newBytes]
    omega
  have hcheck : ∀ size, w.observer.checkPrefix size w.file.content = w.observer :=
    MirrorObserver.checkPrefix_of_prefix h.prefixBytes
  cases hpc : w.pc with
  | idle =>
      have hstat := h.stat_eq hpc hsettled
      simpa [Companion.readNewSteps, watchMachine, watchStep, MirrorObserver.record, hpc, hstat,
        hcheck] using hread
  | opening size modTime =>
      simpa [Companion.readNewSteps, watchMachine, watchStep, MirrorObserver.record, hpc, hcheck]
        using hread
  | checking size modTime =>
      simpa [Companion.readNewSteps, watchMachine, watchStep, MirrorObserver.record, hpc, hcheck]
        using hread
  | reading modTime =>
      simpa [Companion.readNewSteps, watchMachine, watchStep, MirrorObserver.record, hpc]
        using hread

/-- Every poll that is not at the end brings the offset nearer to it. -/
theorem polls (h : ReturnedAll w t) (file : MirrorFile) (batch n : Nat)
    (happends : ∀ e ∈ (List.replicate n Companion.readNewSteps).flatten, e.appends = true)
    (hsettled : (watchMachine file batch).AllSteps (statSettled · · = true) w
      (List.replicate n Companion.readNewSteps).flatten)
    (hn : w.file.content.length ≤ w.observer.offset + n) :
    ((watchMachine file batch).runFrom w
        (List.replicate n Companion.readNewSteps).flatten).file = w.file ∧
      ((watchMachine file batch).runFrom w
        (List.replicate n Companion.readNewSteps).flatten).observer.offset =
          w.file.content.length := by
  induction n generalizing w t with
  | zero => exact ⟨rfl, Nat.le_antisymm h.offset_le hn⟩
  | succ n ih =>
      have hbatch := h.batch
      rw [List.replicate_succ, List.flatten_cons] at happends hsettled ⊢
      rw [Machine.allSteps_append] at hsettled
      rw [Machine.runFrom_append]
      obtain ⟨hfile, hoffset⟩ := h.readNewSteps file batch hsettled.1.1
      have hnext := (watchMachine file batch).historyFrom_invariant
        (I := fun t w => ReturnedAll w t)
        (P := fun w e => statSettled w e = true ∧ e.appends = true)
        (fun t w e h he => h.step he.2 he.1) Companion.readNewSteps t w h
        ((watchMachine file batch).allSteps_and hsettled.1 fun e he =>
          happends e (List.mem_append_left _ he))
      rw [← hfile]
      refine ih hnext (fun e he => happends e (List.mem_append_right _ he)) hsettled.2 ?_
      rw [hfile, hoffset]
      omega

end ReturnedAll

/-- **What is returned of a file that only grows is the start of the file,
and all of it once polling goes on, if no `os.Stat` finds the size already
read with another modification time.** -/
theorem appended_once (file : MirrorFile) (batch : Nat) (es : List WatchEvent)
    (happends : ∀ e ∈ es, e.appends = true)
    (hsettled : (watchMachine file batch).AllSteps (statSettled · · = true)
      (watchMachine file batch).init es) :
    returned ((watchMachine file batch).trace es) <+:
        ((watchMachine file batch).run es).file.content ∧
      ∀ pre n, es = pre ++ (List.replicate n readNewSteps).flatten →
        ((watchMachine file batch).run pre).file.content.length ≤ n →
        returned ((watchMachine file batch).trace es) =
          ((watchMachine file batch).run es).file.content := by
  have hinit : ReturnedAll (watchMachine file batch).init [] := by
    refine ⟨?_, Nat.zero_le _, List.nil_prefix, fun _ => rfl, List.take_zero.symm⟩
    show 0 < if batch = 0 then defaultMirrorBatchBytes else batch
    split
    · decide
    · omega
  have hall : ∀ es, (∀ e ∈ es, e.appends = true) →
      (watchMachine file batch).AllSteps (statSettled · · = true)
        (watchMachine file batch).init es →
      ReturnedAll ((watchMachine file batch).run es) ((watchMachine file batch).trace es) :=
    fun es happends hsettled =>
      (watchMachine file batch).history_invariant (I := fun t w => ReturnedAll w t)
        (P := fun w e => statSettled w e = true ∧ e.appends = true) hinit
        (fun t w e h he => h.step he.2 he.1) es
        ((watchMachine file batch).allSteps_and hsettled happends)
  refine ⟨?_, ?_⟩
  · rw [(hall es happends hsettled).returned]
    exact List.take_prefix _ _
  · rintro pre n rfl hn
    have hend := hall _ happends hsettled
    rw [Machine.allSteps_append] at hsettled
    have hpre := hall pre (fun e he => happends e (List.mem_append_left _ he)) hsettled.1
    obtain ⟨hfile, hoffset⟩ := hpre.polls file batch n
      (fun e he => happends e (List.mem_append_right _ he)) hsettled.2 (by omega)
    rw [← Machine.run_append] at hfile hoffset
    rw [hend.returned, hoffset, ← hfile, List.take_length]

/-- Appends before a poll, and between the steps of one that more bytes
follow before the next. -/
def grownEvents : List WatchEvent :=
  readNewSteps ++ [.append [0x62] 2, .stat, .opened, .append [0x63] 3, .check, .read,
    .append [0x64] 4] ++ (List.replicate 4 readNewSteps).flatten

/-- The whole file is returned. -/
theorem appended_once_grown :
    (∀ e ∈ grownEvents, e.appends = true) ∧
      (watchMachine ⟨[0x61], 1⟩ 64).AllSteps (statSettled · · = true)
        (watchMachine ⟨[0x61], 1⟩ 64).init grownEvents ∧
      returned ((watchMachine ⟨[0x61], 1⟩ 64).trace grownEvents) =
        ((watchMachine ⟨[0x61], 1⟩ 64).run grownEvents).file.content :=
  ⟨by decide, by decide, (appended_once ⟨[0x61], 1⟩ 64 grownEvents (by decide) (by decide)).2 _ 4
    rfl (by decide)⟩

/-- An append between `os.Stat` and the read that takes it in, with no
other before the next poll. -/
def overtakenEvents : List WatchEvent :=
  [.stat, .opened, .check, .append [0x62] 2, .read] ++ readNewSteps

/-- The next poll returns the file again. -/
theorem appended_twice :
    (∀ e ∈ overtakenEvents, e.appends = true) ∧
      ¬ returned ((watchMachine ⟨[0x61], 1⟩ 64).trace overtakenEvents) <+:
        ((watchMachine ⟨[0x61], 1⟩ 64).run overtakenEvents).file.content := by
  decide

end Bootmux.Companion
