/-
Bootmux.Bridge.StopTheorems — the stop latch of the bridge.

`latched` reads the latch off a trace: whether the last `STOP` executed
has not been followed by a `RESUME`. `latchOk_step` is the step lemma:
the variable `stoppedLatch` is what `latched` says, `outputEnabled`
implies that it is off, and every key pressed so far was pressed while
it was off. The result is stated for the whole device, with its frame
queue and its two tasks.

What each function emits is split into switches, keys and the rest: an
effect that is neither moves the latch nor needs it (`Effect.idle`). The
frame queue adds nothing to the argument but the order of the frames, which
`Bootmux.Bridge.Device` has.
-/
import Bootmux.Bridge.Device

namespace Bootmux.Bridge

open Bootmux.Bmx1
open Bootmux.Lib
open Bootmux.Lib.Reassembly

/-! ## The latch along a trace -/

/-- The latch after one more effect. -/
def switch (on : Bool) : Effect → Bool
  | .stop => true
  | .resume => false
  | _ => on

/-- Whether a `STOP` was executed and no `RESUME` since. -/
def latched (t : List Effect) : Bool := t.foldl switch false

/-- Keys are pressed only while the latch is off. -/
def KeyAllowed (before : List Effect) (x : Effect) : Prop :=
  x.isKey = true → latched before = false

def Effect.switches : Effect → Bool
  | .stop => true
  | .resume => true
  | _ => false

/-- What switches nothing leaves the latch. -/
theorem latched_append {t u : List Effect} (h : ∀ x ∈ u, x.switches = false) :
    latched (t ++ u) = latched t := by
  rw [latched, List.foldl_append, ← latched]
  induction u with
  | nil => rfl
  | cons x u ih =>
      have hx : switch (latched t) x = latched t := by
        have := h x (by simp)
        cases x <;> first | rfl | cases this
      rw [List.foldl_cons, hx]
      exact ih fun y hy => h y (by simp [hy])

/-- Without the latch every key is allowed. -/
theorem always_of_unlatched {t u : List Effect} (h : ∀ x ∈ u, x.switches = false)
    (hlatch : latched t = false) : Machine.Always KeyAllowed t u := by
  rw [Machine.always_iff_split]
  rintro A x B rfl _
  rw [latched_append fun y hy => h y (by simp [hy])]
  exact hlatch

/-- What the two flags mean, along a trace. -/
structure LatchOk (t : List Effect) (s : State) : Prop where
  latch : s.stoppedLatch = latched t
  output : s.outputEnabled = true → s.stoppedLatch = false
  keys : Machine.Always KeyAllowed [] t

/-- Effects that switch nothing and press keys only with the latch off. -/
theorem LatchOk.append {t u : List Effect} {s s' : State} (h : LatchOk t s)
    (hswitch : ∀ x ∈ u, x.switches = false)
    (hkeys : (∀ x ∈ u, x.isKey = false) ∨ s.stoppedLatch = false)
    (hlatch : s'.stoppedLatch = s.stoppedLatch)
    (hout : s'.outputEnabled = true → s.stoppedLatch = false) : LatchOk (t ++ u) s' where
  latch := by rw [hlatch, latched_append hswitch, h.latch]
  output := fun ho => hlatch.trans (hout ho)
  keys := by
    rw [Machine.always_append]
    refine ⟨h.keys, ?_⟩
    rcases hkeys with hno | hoff
    · refine Machine.always_of_forall _ fun x hx A hk => ?_
      rw [hno x hx] at hk; cases hk
    · exact always_of_unlatched hswitch (h.latch ▸ hoff)

/-- An effect that switches, followed by effects that do neither. -/
theorem LatchOk.switch {t u : List Effect} {s s' : State} {x : Effect} (h : LatchOk t s)
    (hx : x.isKey = false) (hu : ∀ y ∈ u, y.switches = false ∧ y.isKey = false)
    (hlatch : s'.stoppedLatch = Bridge.switch (latched t) x)
    (hout : s'.outputEnabled = true → s'.stoppedLatch = false) :
    LatchOk (t ++ x :: u) s' where
  latch := by
    rw [List.append_cons, latched_append fun y hy => (hu y hy).1, hlatch, latched, latched,
      List.foldl_append]
    rfl
  output := hout
  keys := by
    rw [Machine.always_append]
    refine ⟨h.keys, Machine.always_of_forall _ fun y hy A hk => ?_⟩
    rcases List.mem_cons.mp hy with rfl | hy
    · rw [hx] at hk; cases hk
    · rw [(hu y hy).2] at hk; cases hk

/-! ## One step -/

/-- Typing a text switches nothing. -/
theorem finishText_no_switch (s : State) (σ : Bytes) (q : UInt32) :
    ∀ x ∈ (finishText s σ q).2, x.switches = false := by
  intro x hx
  rcases finishText_cases s σ q with ⟨_, h⟩ | ⟨_, _, h⟩ | ⟨_, _, _, _, h⟩ | ⟨_, _, _, _, h⟩ <;>
    rw [h] at hx
  · simp only [List.mem_cons, List.not_mem_nil, or_false] at hx
    rcases hx with rfl | rfl <;> rfl
  · simp only [List.mem_cons, List.not_mem_nil, or_false] at hx
    rcases hx with rfl | rfl | rfl | rfl <;> rfl
  · simp only [List.mem_cons, List.not_mem_nil, or_false] at hx
    rcases hx with rfl | rfl | rfl | rfl | rfl <;> rfl
  · simp only [List.mem_append, List.mem_cons, List.not_mem_nil, or_false] at hx
    rcases hx with (rfl | hx) | rfl | rfl | rfl
    · rfl
    · rcases (typeASCII_effects hx).2 with rfl | ⟨_, rfl⟩ <;> rfl
    · rfl
    · rfl
    · rfl

theorem finishText_flags (s : State) (σ : Bytes) (q : UInt32) :
    (finishText s σ q).1.stoppedLatch = s.stoppedLatch ∧
      (finishText s σ q).1.outputEnabled = s.outputEnabled := by
  rcases finishText_cases s σ q with ⟨_, h⟩ | ⟨_, _, h⟩ | ⟨_, _, _, _, h⟩ | ⟨_, _, _, _, h⟩ <;>
    rw [h] <;> exact ⟨rfl, rfl⟩

/-- Handling a part switches nothing. -/
theorem handleText_no_switch (s : State) (t₁ t₂ : UInt32) (p : TextPart) :
    ∀ x ∈ (handleText s t₁ t₂ p).2, x.switches = false := by
  have hmarks : ∀ x ∈ (s.reassembly.offer t₁ (tooOld t₂) p).2.1.map Effect.text,
      x.switches = false := by
    intro x hx
    obtain ⟨m, _, rfl⟩ := List.mem_map.mp hx
    rfl
  intro x hx
  rcases handleText_cases s t₁ t₂ p with ⟨_, hr⟩ | ⟨_, hr⟩ | ⟨_, hr⟩ <;> rw [hr] at hx
  · rcases List.mem_append.mp hx with hx | hx
    · exact hmarks x hx
    · simp only [List.mem_cons, List.not_mem_nil, or_false] at hx
      rcases hx with rfl | rfl <;> rfl
  · exact hmarks x hx
  · rcases List.mem_append.mp hx with hx | hx
    · exact hmarks x hx
    · exact finishText_no_switch _ _ _ x hx

/-- Handling a part presses keys if the latch allows it. -/
theorem handleText_latchOk {t : List Effect} {s : State} (h : LatchOk t s) (t₁ t₂ : UInt32)
    (p : TextPart) : LatchOk (t ++ (handleText s t₁ t₂ p).2) (handleText s t₁ t₂ p).1 := by
  have hflags : (handleText s t₁ t₂ p).1.stoppedLatch = s.stoppedLatch ∧
      (handleText s t₁ t₂ p).1.outputEnabled = s.outputEnabled := by
    rcases handleText_cases s t₁ t₂ p with ⟨_, hr⟩ | ⟨_, hr⟩ | ⟨_, hr⟩ <;> rw [hr]
    · exact ⟨rfl, rfl⟩
    · exact ⟨rfl, rfl⟩
    · exact finishText_flags _ _ _
  refine h.append (handleText_no_switch s t₁ t₂ p) ?_ hflags.1 (fun ho => h.output (hflags.2 ▸ ho))
  rcases handleText_typed s t₁ t₂ p with hnone | ⟨_, hlatch, _⟩
  · exact Or.inl fun x hx => by simpa using List.filter_eq_nil_iff.mp hnone x hx
  · exact Or.inr hlatch

/-- Every event presses keys if the latch allows it. -/
theorem latchOk_step (t : List Effect) (s : State) (e : Event) (h : LatchOk t s) :
    LatchOk (t ++ (step s e).2) (step s e).1 := by
  refine step_rule s (Q := fun _ r => LatchOk (t ++ r.2) r.1) ?_ ?_ ?_ ?_ ?_ ?_ ?_ e
  · intro _ effs _ hrel
    exact h.append (fun x hx => by rw [hrel x hx]; rfl)
      (Or.inl fun x hx => by rw [hrel x hx]; rfl) rfl h.output
  · exact h.append (by simp [onConnect]) (by simp [onConnect]) rfl h.output
  · exact h.append (by simp [onDisconnect, Effect.switches])
      (Or.inl (by simp [onDisconnect, Effect.isKey])) rfl (by simp [onDisconnect])
  · intro now
    exact h.append (by simp [Effect.switches]) (Or.inl (by simp [Effect.isKey])) rfl h.output
  · intro _ _ _ session _
    exact h.append (by simp [openSession, Effect.switches])
      (Or.inl (by simp [openSession, Effect.isKey])) rfl (by simp [openSession])
  · intro _ _ _ q c _
    rcases applyControl_cases s q c with ⟨_, hr⟩ | ⟨_, _, hr⟩ | ⟨_, _, hr⟩ | ⟨_, _, hr⟩ |
      ⟨_, _, _, hlatch, hout, hr⟩ <;> rw [hr]
    · exact h.append (by simp [Effect.switches]) (Or.inl (by simp [Effect.isKey])) rfl h.output
    · exact h.switch rfl (by simp [Effect.switches, Effect.isKey]) rfl (by simp)
    · exact h.switch rfl (by simp [Effect.switches, Effect.isKey]) rfl (by simp)
    · exact h.append (by simp [Effect.switches]) (Or.inl (by simp [Effect.isKey])) rfl h.output
    · refine h.append ?_ (Or.inr hlatch) rfl h.output
      intro x hx
      simp only [List.mem_append, List.mem_cons, List.not_mem_nil, or_false] at hx
      rcases hx with hx | rfl | rfl
      · rcases controlKeys_effects hx with rfl | hk
        · rfl
        · cases x <;> first | rfl | cases hk
      · rfl
      · rfl
  · intro t₁ t₂ _ p _ _; exact handleText_latchOk h t₁ t₂ p

/-- A step that executes `STOP` leaves an empty buffer. -/
theorem stop_clears (s : State) : ∀ e, Effect.stop ∈ (step s e).2 →
    (step s e).1.reassembly = Buffer.empty := by
  refine step_rule s (Q := fun _ r => Effect.stop ∈ r.2 → r.1.reassembly = Buffer.empty)
    ?_ ?_ ?_ ?_ ?_ ?_ ?_
  · intro _ effs _ hrel hstop; cases hrel _ hstop
  · intro h; simp [onConnect] at h
  · intro _; rfl
  · intro _ _; rfl
  · intro _ _ _ _ _ _; rfl
  · intro _ _ _ q c _ hstop
    rcases applyControl_cases s q c with ⟨_, hr⟩ | ⟨_, _, hr⟩ | ⟨_, _, hr⟩ | ⟨_, _, hr⟩ |
      ⟨_, _, _, _, _, hr⟩ <;> rw [hr] at hstop ⊢
    · simp at hstop
    · simp at hstop
    · simp at hstop
    · simp only [List.mem_append, List.mem_cons, List.not_mem_nil, or_false] at hstop
      rcases hstop with hstop | hstop | hstop
      · rcases controlKeys_effects hstop with h | h <;> cases h
      · cases hstop
      · cases hstop
  · intro t₁ t₂ _ p _ _ hstop
    cases handleText_no_switch s t₁ t₂ p _ hstop

/-! ## The device -/

/-- Effects that are neither keys nor switches leave the latch. -/
theorem latchOk_idle (t u : List Effect) (s : State) (hu : ∀ x ∈ u, x.idle = true)
    (h : LatchOk t s) : LatchOk (t ++ u) s := by
  refine h.append (fun x hx => ?_) (Or.inl fun x hx => ?_) rfl h.output
  · have := hu x hx; cases x <;> first | rfl | cases this
  · have := hu x hx; cases x <;> first | rfl | cases this

/-- Effects that are neither keys nor switches leave the buffer. -/
theorem stored_idle (t u : List Effect) (s : State) (hu : ∀ x ∈ u, x.idle = true)
    (h : Stored t s) : Stored (t ++ u) s := by
  refine h.append ?_
  rw [marksOf_eq_nil fun x hx m => by have := hu x hx; rintro rfl; cases this]
  simp

/-- The operation of the frame that `loop` holds. -/
def Device.op (d : Device) : Option Op := d.frame.bind fun f => frameOp f.bytes

/-- Only the frame handler presses keys. -/
theorem keys_of_handle (d : Device) (e : DeviceEvent) :
    keysOf (calls (deviceStep d e).2) = [] ∨ ∃ started now f, d.frame = some f ∧
      calls (deviceStep d e).2 = (step d.core (.frame started now f.bytes)).2 := by
  cases e with
  | connect => exact Or.inl rfl
  | disconnect => exact Or.inl rfl
  | write bytes => left; simp only [deviceStep, onWrite]; split <;> rfl
  | reportOverflow => left; simp only [deviceStep, reportOverflow]; split <;> rfl
  | dequeue => left; simp only [deviceStep]; split <;> rfl
  | tick now =>
      left
      simp only [deviceStep, Device.call, calls_map_call, loopTimeout]
      split <;> rfl
  | handle started now =>
      simp only [deviceStep]
      split
      · exact Or.inl rfl
      · rename_i f hf
        refine Or.inr ⟨started, now, f, hf, ?_⟩
        rw [← handleFrame_dequeued]
        exact calls_map_call _

/-- **The stop latch holds.** Along every run of the device: a key is
pressed only if every `STOP` executed before it was followed by a
`RESUME`; `outputEnabled` implies that the latch is off; the text typed
by a frame handled after a `STOP` is made of parts stored after it; and
frames are handled in the order they arrived in. -/
theorem stop_latch_holds :
    (∀ es, Machine.Always KeyAllowed [] (calls (device.trace es))) ∧
    (∀ es, (device.run es).core.outputEnabled = true →
      (device.run es).core.stoppedLatch = false) ∧
    (∀ es e fs g p, .stop ∈ calls (deviceStep (device.run es) e).2 →
      (device.run (es ++ e :: fs)).op = some (.text p) →
      ∃ parts : List Bytes,
        keysOf (calls (deviceStep (device.run (es ++ e :: fs)) g).2) =
          typedKeys parts.flatten ∧
        ∀ i < parts.length, ∃ q : TextPart,
          .text (.store q) ∈
            calls (device.traceFrom (device.run (es ++ [e])) (fs ++ [g])) ∧
          q.index = i ∧ parts[i]? = some q.payload) ∧
    (∀ es, (handled (device.trace es)).Pairwise (· < ·)) := by
  have hlatch : ∀ es, LatchOk (calls (device.trace es)) (device.run es).core := by
    intro es
    have h := device_history latchOk_step latchOk_idle es [] powerOn
      ⟨rfl, fun _ => rfl, trivial⟩
    simpa [Machine.trace, Machine.run, device] using h
  refine ⟨fun es => (hlatch es).keys, fun es => (hlatch es).output, ?_, handled_in_order⟩
  intro es e fs g p hstop hop
  -- the buffer is empty after the `STOP`, so what it holds later was stored since
  have hempty : Stored [] (device.run (es ++ [e])).core := by
    refine stored_empty _ ?_
    rw [device.run_concat]
    rcases deviceStep_cases (device.run es) e with ⟨c, hcore, hcalls⟩ | ⟨_, hidle⟩
    · rw [hcalls] at hstop
      exact hcore ▸ stop_clears _ c hstop
    · cases hidle _ hstop
  have hrun : device.run (es ++ e :: fs) = device.runFrom (device.run (es ++ [e])) fs := by
    rw [List.append_cons, device.run_append (es ++ [e])]
  have hstored : Stored (calls (device.traceFrom (device.run (es ++ [e])) fs))
      (device.run (es ++ e :: fs)).core := by
    have h := device_history step_stored stored_idle fs [] _ hempty
    rw [hrun]
    simpa using h
  rw [device.traceFrom_append, calls_append, ← hrun]
  have hlast : device.traceFrom (device.run (es ++ e :: fs)) [g] =
      (deviceStep (device.run (es ++ e :: fs)) g).2 := by simp [device]
  rw [hlast]
  obtain ⟨f, hf, hframe⟩ := Option.bind_eq_some_iff.mp hop
  rcases keys_of_handle (device.run (es ++ e :: fs)) g with hnone | ⟨t₁, t₂, f', hf', hcalls⟩
  · exact ⟨[], hnone, by simp⟩
  · obtain rfl : f = f' := Option.some.inj (hf.symm.trans hf')
    rw [hcalls]
    exact text_step_typed hstored hframe t₁ t₂

/-- One frame written, taken from the queue and handled. -/
def deliver (frame : String) : List DeviceEvent :=
  [.write (ascii frame), .dequeue, .handle 0 0]

/-- A run up to a `STOP` in the middle of a text. -/
def untilStop : List DeviceEvent :=
  deliver "BMX1|OPEN|s" ++ deliver "BMX1|TEXT|s|1|0|2|a" ++
    [.write (ascii "BMX1|CTRL|s|2|STOP"), .dequeue]

/-- A `RESUME` and another text, up to the call that types it. -/
def afterStop : List DeviceEvent :=
  deliver "BMX1|CTRL|s|3|RESUME" ++ [.write (ascii "BMX1|TEXT|s|4|0|1|x"), .dequeue]

theorem stop_latch_holds_resumed :
    ∃ parts : List Bytes,
      keysOf (calls (deviceStep (device.run (untilStop ++ .handle 0 0 :: afterStop))
        (.handle 0 0)).2) = typedKeys parts.flatten ∧
      ∀ i < parts.length, ∃ q : TextPart,
        .text (.store q) ∈ calls (device.traceFrom
          (device.run (untilStop ++ [.handle 0 0])) (afterStop ++ [.handle 0 0])) ∧
        q.index = i ∧ parts[i]? = some q.payload :=
  stop_latch_holds.2.2.1 untilStop (.handle 0 0) afterStop (.handle 0 0)
    { key := 4, total := 1, index := 0, payload := ascii "x", origin := ascii "s"
      index_lt := by decide, total_le := by decide }
    (List.mem_iff_getElem?.mpr ⟨0, by rfl⟩) (by rfl)

end Bootmux.Bridge
