/-
Bootmux.Bridge.CompletedTheorems — the completed cache of the bridge
gives each sequence an at-most-once window.

What a step applies is read off its effects: `appliedSequence` is the
sequence of the frame when the step pressed a key, executed `STOP` or
`RESUME`, or acknowledged `APPLIED`. `completionsFrom` lists what a run
applies, starting again at each `OPEN`. Neither mentions the cache.

`step_completed` ties one step to the cache, `cacheOf_run` a whole run:
the ring is always the ring of the completions since the last `OPEN`,
and they are spaced (`Lib.RecentRing`).

The window of the ring is then a fact of the library: a key is among the
last sixteen or is not seen. Both directions are needed. Within the window a
repeated sequence number is answered `DUPLICATE` and applies nothing;
outside of it, or after an `OPEN`, it is applied again.
-/
import Bootmux.Bridge.ReceiverTheorems

namespace Bootmux.Bridge

open Bootmux.Bmx1
open Bootmux.Lib
open Bootmux.Lib.Reassembly

/-! ## What a run applies -/

/-- The effects by which an operation is applied. -/
def Effect.applies : Effect → Bool
  | .write _ => true
  | .press _ => true
  | .stop => true
  | .resume => true
  | .ack _ _ .applied => true
  | _ => false

def Op.sequence : Op → Option UInt32
  | .opened _ => none
  | .control _ sequence _ => some sequence
  | .text p => some p.key

def Event.opens (e : Event) : Bool :=
  match e.op with
  | some (.opened _) => true
  | _ => false

/-- The sequence that event `e` with effects `effs` applied, if any. -/
def applied (e : Event) (effs : List Effect) : Option UInt32 :=
  if effs.any Effect.applies then e.op.bind Op.sequence else none

/-- The sequence a step applies, if any. -/
def appliedSequence (s : State) (e : Event) : Option UInt32 := applied e (step s e).2

/-- The sequences applied along `es` in order, forgetting at each `OPEN`
what came before; `done` is what was applied earlier. -/
def completionsFrom (s : State) (done : List UInt32) : List Event → List UInt32
  | [] => done
  | e :: es =>
      completionsFrom (step s e).1
        (if e.opens then [] else done ++ (appliedSequence s e).toList) es

/-- The sequences applied since the last `OPEN`, or since boot. -/
def completions (es : List Event) : List UInt32 := completionsFrom boot [] es

/-- What is completed over two runs is completed over one. -/
theorem completionsFrom_append (s : State) (done : List UInt32) (es fs : List Event) :
    completionsFrom s done (es ++ fs) =
      completionsFrom (receiver.runFrom s es) (completionsFrom s done es) fs := by
  induction es generalizing s done with
  | nil => rfl
  | cons e es ih => exact ih _ _

/-- Without an `OPEN` what was applied earlier stays in front. -/
theorem completionsFrom_no_open (s : State) (done : List UInt32) (es : List Event)
    (h : ∀ e ∈ es, e.opens = false) :
    completionsFrom s done es = done ++ completionsFrom s [] es := by
  induction es generalizing s done with
  | nil => simp [completionsFrom]
  | cons e es ih =>
      have he : e.opens = false := h e (by simp)
      have hes : ∀ f ∈ es, f.opens = false := fun f hf => h f (by simp [hf])
      simp only [completionsFrom, he, Bool.false_eq_true, if_false, List.nil_append]
      rw [ih _ (done ++ _) hes, ih _ (appliedSequence s e).toList hes, List.append_assoc]

/-! ## The cache -/

/-- What one step does to the cache, in terms of what it applies. -/
def CacheStep (s : State) (e : Event) (r : State × List Effect) : Prop :=
  (e.opens = true ∧ applied e r.2 = none ∧ r.1.completed = RecentRing.empty) ∨
  (e.opens = false ∧ applied e r.2 = none ∧ r.1.completed = s.completed) ∨
  (e.opens = false ∧ ∃ q, applied e r.2 = some q ∧ s.completed.seen q = false ∧
    r.1.completed = s.completed.remember q)

/-- An event that applies nothing completes nothing. -/
theorem applied_none {e : Event} {effs : List Effect}
    (h : ∀ x ∈ effs, x.applies = false) : applied e effs = none := by
  rw [applied, if_neg (by simpa using h)]

/-- An event that applies something completes its sequence number. -/
theorem applied_some {e : Event} {effs : List Effect} {x : Effect} (hx : x ∈ effs)
    (ha : x.applies = true) : applied e effs = e.op.bind Op.sequence := by
  rw [applied, if_pos (List.any_eq_true.mpr ⟨x, hx, ha⟩)]

/-- A completed text is applied exactly when it is remembered. -/
theorem finishText_completed (s : State) (σ : Bytes) (q : UInt32) :
    ((∀ x ∈ (finishText s σ q).2, x.applies = false) ∧
      (finishText s σ q).1.completed = s.completed) ∨
    (Effect.ack σ q .applied ∈ (finishText s σ q).2 ∧ s.completed.seen q = false ∧
      (finishText s σ q).1.completed = s.completed.remember q) := by
  rcases finishText_cases s σ q with ⟨_, h⟩ | ⟨_, _, h⟩ | ⟨_, _, _, _, h⟩ | ⟨hq, _, _, _, h⟩
  · rw [h]; exact Or.inl ⟨by simp [Effect.applies], rfl⟩
  · rw [h]; exact Or.inl ⟨by simp [Effect.applies], rfl⟩
  · rw [h]; exact Or.inl ⟨by simp [Effect.applies], rfl⟩
  · rw [h]; exact Or.inr ⟨by simp, hq, rfl⟩

/-- Handling a part keeps the cache to what has been completed. -/
theorem handleText_cacheStep {s : State} {t₁ t₂ : UInt32} {bytes : Bytes} {p : TextPart}
    (hop : frameOp bytes = some (.text p)) :
    CacheStep s (.frame t₁ t₂ bytes) (handleText s t₁ t₂ p) := by
  have hopens : (Event.frame t₁ t₂ bytes).opens = false := by simp [Event.opens, Event.op, hop]
  have hmarks : ∀ x ∈ (s.reassembly.offer t₁ (tooOld t₂) p).2.1.map Effect.text,
      x.applies = false := by
    intro x hx
    obtain ⟨m, _, rfl⟩ := List.mem_map.mp hx
    rfl
  rcases handleText_cases s t₁ t₂ p with ⟨_, h⟩ | ⟨_, h⟩ | ⟨_, h⟩
  · rw [h]
    refine Or.inr (Or.inl ⟨hopens, applied_none ?_, rfl⟩)
    intro x hx
    rcases List.mem_append.mp hx with hx | hx
    · exact hmarks x hx
    · simp only [List.mem_cons, List.not_mem_nil, or_false] at hx
      rcases hx with rfl | rfl <;> rfl
  · rw [h]; exact Or.inr (Or.inl ⟨hopens, applied_none hmarks, rfl⟩)
  · rw [h]
    rcases finishText_completed { s with reassembly := (s.reassembly.offer t₁ (tooOld t₂) p).1 }
      s.activeSession p.key with ⟨hnone, hsame⟩ | ⟨hack, hseen, hrem⟩
    · refine Or.inr (Or.inl ⟨hopens, applied_none ?_, hsame⟩)
      intro x hx
      rcases List.mem_append.mp hx with hx | hx
      · exact hmarks x hx
      · exact hnone x hx
    · refine Or.inr (Or.inr ⟨hopens, p.key, ?_, hseen, hrem⟩)
      rw [applied_some (List.mem_append_right _ hack) rfl]
      simp [Event.op, hop, Op.sequence]

/-- So does applying a control. -/
theorem applyControl_cacheStep {s : State} {t₁ t₂ : UInt32} {bytes : Bytes} {q : UInt32}
    {c : Bytes} (hop : frameOp bytes = some (.control s.activeSession q c)) :
    CacheStep s (.frame t₁ t₂ bytes) (applyControl s s.activeSession q c) := by
  have hopens : (Event.frame t₁ t₂ bytes).opens = false := by simp [Event.opens, Event.op, hop]
  have hseq : (Event.frame t₁ t₂ bytes).op.bind Op.sequence = some q := by
    simp [Event.op, hop, Op.sequence]
  rcases applyControl_cases s q c with ⟨_, h⟩ | ⟨hq, _, h⟩ | ⟨hq, _, h⟩ | ⟨_, _, h⟩ |
    ⟨hq, _, _, _, _, h⟩
  · rw [h]; exact Or.inr (Or.inl ⟨hopens, applied_none (by simp [Effect.applies]), rfl⟩)
  · rw [h]
    exact Or.inr (Or.inr ⟨hopens, q,
      (applied_some (x := .stop) (by simp) rfl).trans hseq, hq, rfl⟩)
  · rw [h]
    exact Or.inr (Or.inr ⟨hopens, q,
      (applied_some (x := .resume) (by simp) rfl).trans hseq, hq, rfl⟩)
  · rw [h]; exact Or.inr (Or.inl ⟨hopens, applied_none (by simp [Effect.applies]), rfl⟩)
  · rw [h]
    exact Or.inr (Or.inr ⟨hopens, q,
      (applied_some (x := .ack s.activeSession q .applied) (by simp) rfl).trans hseq, hq, rfl⟩)

/-- Every event keeps the cache to what has been completed. -/
theorem step_completed (s : State) : ∀ e, CacheStep s e (step s e) := by
  refine step_rule s ?_ ?_ ?_ ?_ ?_ ?_ ?_
  · intro e effs hop hrel
    have hopens : e.opens = false := by
      unfold Event.opens
      cases h : e.op with
      | none => rfl
      | some op =>
          cases op with
          | opened session => exact absurd h (hop session)
          | control _ _ _ => rfl
          | text _ => rfl
    refine Or.inr (Or.inl ⟨hopens, applied_none ?_, rfl⟩)
    intro x hx
    rw [hrel x hx]; rfl
  · exact Or.inr (Or.inl ⟨rfl, rfl, rfl⟩)
  · exact Or.inr (Or.inl ⟨rfl, rfl, rfl⟩)
  · intro now; exact Or.inr (Or.inl ⟨rfl, rfl, rfl⟩)
  · intro t₁ t₂ bytes session hop
    exact Or.inl ⟨by simp [Event.opens, Event.op, hop],
      applied_none (by simp [openSession, Effect.applies]), rfl⟩
  · intro t₁ t₂ bytes q c hop; exact applyControl_cacheStep hop
  · intro t₁ t₂ bytes p hop _; exact handleText_cacheStep hop

/-- The cache is the ring of `done`, and `done` is spaced. -/
def CacheOf (done : List UInt32) (s : State) : Prop :=
  s.completed = RecentRing.ofHistory done ∧ RecentRing.Spaced kCompletedCache done

/-- The cache stands for what was completed since the session was opened. -/
theorem cacheOf_step {done : List UInt32} {s : State} (h : CacheOf done s) (e : Event) :
    CacheOf (if e.opens then [] else done ++ (appliedSequence s e).toList) (step s e).1 := by
  obtain ⟨hring, hspaced⟩ := h
  rcases step_completed s e with ⟨ho, _, hc⟩ | ⟨ho, ha, hc⟩ | ⟨ho, q, ha, hseen, hc⟩
  · simp only [ho, if_true]
    exact ⟨hc, RecentRing.spaced_nil⟩
  · simp only [ho, appliedSequence, ha, Bool.false_eq_true, if_false, Option.toList,
      List.append_nil]
    exact ⟨hc.trans hring, hspaced⟩
  · simp only [ho, appliedSequence, ha, Bool.false_eq_true, if_false, Option.toList]
    exact ⟨by rw [hc, hring, RecentRing.ofHistory_concat],
      hspaced.concat (by rw [← hring]; exact hseen)⟩

/-- It does so over any run. -/
theorem cacheOf_runFrom {done : List UInt32} {s : State} (h : CacheOf done s)
    (es : List Event) : CacheOf (completionsFrom s done es) (receiver.runFrom s es) := by
  induction es generalizing s done with
  | nil => exact h
  | cons e es ih => exact ih (cacheOf_step h e)

/-- **The cache along a run**: it is the ring of the completions since
the last `OPEN`. -/
theorem cacheOf_run (es : List Event) : CacheOf (completions es) (receiver.run es) :=
  cacheOf_runFrom ⟨rfl, RecentRing.spaced_nil⟩ es

/-- What a step applies was not in the cache. -/
theorem applied_unseen {s : State} {e : Event} {q : UInt32}
    (h : appliedSequence s e = some q) : s.completed.seen q = false := by
  rcases step_completed s e with ⟨_, ha, _⟩ | ⟨_, ha, _⟩ | ⟨_, q', ha, hseen, _⟩
  · rw [appliedSequence, ha] at h; cases h
  · rw [appliedSequence, ha] at h; cases h
  · rw [appliedSequence, ha] at h; cases h; exact hseen

/-- What completes a message opens no session. -/
theorem applied_not_open {s : State} {e : Event} {q : UInt32}
    (h : appliedSequence s e = some q) : e.opens = false := by
  rcases step_completed s e with ⟨_, ha, _⟩ | ⟨ho, _, _⟩ | ⟨ho, _, _⟩
  · rw [appliedSequence, ha] at h; cases h
  · exact ho
  · exact ho

/-- A `DUPLICATE` is answered only for a sequence in the cache. -/
theorem duplicate_seen (s : State) : ∀ e, ∀ σ q,
    Effect.ack σ q .duplicate ∈ (step s e).2 → s.completed.seen q = true := by
  refine step_rule s (Q := fun _ r => ∀ σ q, Effect.ack σ q .duplicate ∈ r.2 →
    s.completed.seen q = true) ?_ ?_ ?_ ?_ ?_ ?_ ?_
  · intro e effs _ hrel σ q h
    have := hrel _ h
    cases this
  · simp [onConnect]
  · simp [onDisconnect]
  · simp
  · simp [openSession]
  · intro _ _ _ q c _ σ q' h
    rcases applyControl_cases s q c with ⟨hq, hr⟩ | ⟨_, _, hr⟩ | ⟨_, _, hr⟩ | ⟨_, _, hr⟩ |
      ⟨_, _, _, _, _, hr⟩ <;> rw [hr] at h
    · obtain ⟨rfl, rfl⟩ : σ = s.activeSession ∧ q' = q := by simpa using h
      exact hq
    · simp at h
    · simp at h
    · simp at h
    · simp only [List.mem_append, List.mem_cons, List.not_mem_nil, or_false] at h
      rcases h with h | h | h
      · rcases controlKeys_effects h with h | h
        · cases h
        · cases h
      · cases h
      · cases h
  · intro t₁ t₂ _ p _ _ σ q h
    rcases handleText_cases s t₁ t₂ p with ⟨_, hr⟩ | ⟨_, hr⟩ | ⟨_, hr⟩ <;> rw [hr] at h
    · simp at h
    · simp at h
    · rcases finishText_cases { s with reassembly := (s.reassembly.offer t₁ (tooOld t₂) p).1 }
        s.activeSession p.key with ⟨hq, hf⟩ | ⟨_, _, hf⟩ | ⟨_, _, _, _, hf⟩ | ⟨_, _, _, _, hf⟩ <;>
        rw [hf] at h
      · obtain ⟨rfl, rfl⟩ : σ = s.activeSession ∧ q = p.key := by simpa using h
        exact hq
      · simp at h
      · simp at h
      · simp only [List.mem_append, List.mem_map, List.mem_cons, List.not_mem_nil, or_false] at h
        rcases h with ⟨m, _, h⟩ | (h | h) | h | h | h
        · cases h
        · cases h
        · rcases (typeASCII_effects h).2 with h | ⟨_, h⟩ <;> cases h
        · cases h
        · cases h
        · cases h

/-! ## The window -/

/-- **At most once per window.** If a sequence is applied at two steps of
a run with no `OPEN` between them, at least sixteen operations with
pairwise distinct other sequences were applied in between; and a
non-zero sequence is answered `DUPLICATE` only if it is among the last
sixteen applied since the last `OPEN`, or since boot. -/
theorem at_most_once_window :
    (∀ (before between : List Event) (e f : Event) (q : UInt32),
      appliedSequence (receiver.run before) e = some q →
      (∀ g ∈ between, g.opens = false) →
      appliedSequence (receiver.run (before ++ e :: between)) f = some q →
      ∃ qs : List UInt32,
        qs.Sublist (completionsFrom (receiver.run (before ++ [e])) [] between) ∧
          qs.length = kCompletedCache ∧ qs.Nodup ∧ q ∉ qs) ∧
    (∀ (before : List Event) (e : Event) (σ : Bytes) (q : UInt32),
      Effect.ack σ q .duplicate ∈ (step (receiver.run before) e).2 → q ≠ 0 →
      q ∈ (completions before).drop ((completions before).length - kCompletedCache)) := by
  constructor
  · intro before between e f q he hno hf
    obtain ⟨hring, hspaced⟩ := cacheOf_run (before ++ e :: between)
    have hunseen := applied_unseen hf
    have hsplit : completions (before ++ e :: between) =
        completions before ++ q :: completionsFrom (receiver.run (before ++ [e])) [] between := by
      have hconcat : completions (before ++ [e]) = completions before ++ [q] := by
        rw [completions, completionsFrom_append]
        simp only [completionsFrom, applied_not_open he, Bool.false_eq_true, if_false]
        rw [show receiver.runFrom boot before = receiver.run before from rfl, he]
        rfl
      rw [List.append_cons before e between, completions, completionsFrom_append]
      rw [completionsFrom_no_open _ _ _ hno]
      rw [show completionsFrom boot [] (before ++ [e]) = completions (before ++ [e]) from rfl,
        hconcat]
      simp [Machine.run, receiver]
    rw [hring, hsplit] at hunseen
    rw [hsplit] at hspaced
    obtain ⟨hlen, hnodup, hmem⟩ := hspaced.window_of_recurrence hunseen
    exact ⟨_, List.take_sublist kCompletedCache _, by simp [hlen], hnodup, hmem⟩
  · intro before e σ q hdup hq
    have hseen := duplicate_seen _ e σ q hdup
    rw [(cacheOf_run before).1, RecentRing.seen_ofHistory] at hseen
    rcases hseen with h | ⟨_, h⟩
    · exact h
    · exact absurd h hq

/-- A run in which a sequence is applied a second time: `ENTER` under
the sequences 1, ..., 17 and then under 1 again. -/
def recurringRun : List Event :=
  .frame 0 0 (ascii "BMX1|OPEN|s") ::
    (List.range 17).map fun i =>
      .frame 0 0 (ascii "BMX1|CTRL|s|" ++ decimal (i + 1) ++ ascii "|ENTER")

/-- The window of that run, and a `DUPLICATE` in it. -/
theorem at_most_once_window_recurring :
    (∃ qs : List UInt32,
      qs.Sublist (completionsFrom (receiver.run (recurringRun.take 2)) []
        (recurringRun.drop 2)) ∧
        qs.length = kCompletedCache ∧ qs.Nodup ∧ 1 ∉ qs) ∧
    3 ∈ (completions (recurringRun.take 5)).drop
      ((completions (recurringRun.take 5)).length - kCompletedCache) :=
  ⟨at_most_once_window.1 (recurringRun.take 1) (recurringRun.drop 2)
      (.frame 0 0 (ascii "BMX1|CTRL|s|1|ENTER")) (.frame 0 0 (ascii "BMX1|CTRL|s|1|ENTER")) 1
      (by decide +kernel) (by decide +kernel) (by decide +kernel),
    at_most_once_window.2 (recurringRun.take 5) (.frame 0 0 (ascii "BMX1|CTRL|s|3|ENTER"))
      (ascii "s") 3 (by simp [show (step (receiver.run (recurringRun.take 5))
        (.frame 0 0 (ascii "BMX1|CTRL|s|3|ENTER"))).2 = [.ack (ascii "s") 3 .duplicate] from rfl])
      (by decide)⟩

end Bootmux.Bridge
