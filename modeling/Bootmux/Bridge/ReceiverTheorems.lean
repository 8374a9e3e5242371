/-
Bootmux.Bridge.ReceiverTheorems — what one step of the bridge receiver
can do, and what follows along every run.

`step_rule` is the only place that walks the branches of the frame
handler: a step is a disconnect, a timeout, an accepted `OPEN`, control
or text, or it leaves the state alone up to `connected`. The four
`_cases` lemmas below it list the outcomes of each operation. Every
invariant of the bridge is proved from these.

Below that are the facts about a step that several results use:

* `handleText_typed` — the keys a text frame presses are the printable
  bytes of the message it completes.
* `step_stored` — the parts in the buffer were stored since it was
  last cleared, under the session in force.
-/
import Bootmux.Bridge.Receiver

namespace Bootmux.Bridge

open Bootmux.Bmx1
open Bootmux.Lib
open Bootmux.Lib.Reassembly

/-! ## One step -/

/-- Everything a step can do. -/
theorem step_rule (s : State) {Q : Event → State × List Effect → Prop}
    (hquiet : ∀ e effs, (∀ session, e.op ≠ some (.opened session)) →
      (∀ x ∈ effs, x = .releaseAll) → Q e (s, effs))
    (hconnect : Q .connect (onConnect s))
    (hdisconnect : Q .disconnect (onDisconnect s))
    (htimeout : ∀ now, Q (.tick now)
      ({ s with reassembly := Buffer.empty }, [.text .clear, .releaseAll]))
    (hopened : ∀ t₁ t₂ bytes session, frameOp bytes = some (.opened session) →
      Q (.frame t₁ t₂ bytes) (openSession s session))
    (hcontrol : ∀ t₁ t₂ bytes sequence control,
      frameOp bytes = some (.control s.activeSession sequence control) →
      Q (.frame t₁ t₂ bytes) (applyControl s s.activeSession sequence control))
    (htext : ∀ t₁ t₂ bytes p, frameOp bytes = some (.text p) → p.origin = s.activeSession →
      Q (.frame t₁ t₂ bytes) (handleText s t₁ t₂ p)) :
    ∀ e, Q e (step s e) := by
  intro e
  cases e with
  | connect => exact hconnect
  | disconnect => exact hdisconnect
  | tick now =>
      simp only [step, loopTimeout]
      split
      · exact htimeout now
      · exact hquiet _ _ (by simp [Event.op]) (by simp)
  | frame t₁ t₂ bytes =>
      cases hop : frameOp bytes with
      | none =>
          rcases step_no_op hop s t₁ t₂ with h | h <;> rw [h] <;>
            exact hquiet _ _ (by simp [Event.op, hop]) (by simp)
      | some op =>
          rw [step_frame hop]
          cases op with
          | opened session => exact hopened _ _ _ _ hop
          | control session sequence control =>
              simp only [act]
              split
              · rename_i hsess; subst hsess; exact hcontrol _ _ _ _ _ hop
              · exact hquiet _ _ (by simp [Event.op, hop]) (by simp)
          | text p =>
              simp only [act]
              split
              · rename_i hsess; exact htext _ _ _ _ hop hsess
              · exact hquiet _ _ (by simp [Event.op, hop]) (by simp)

/-- The outcomes of a control under the session in force. -/
theorem applyControl_cases (s : State) (q : UInt32) (c : Bytes) :
    (s.completed.seen q = true ∧
      applyControl s s.activeSession q c = (s, [.ack s.activeSession q .duplicate])) ∨
    (s.completed.seen q = false ∧ c = ascii "STOP" ∧
      applyControl s s.activeSession q c =
        ({ s with reassembly := Buffer.empty, stoppedLatch := true, outputEnabled := false,
                  completed := s.completed.remember q },
          [.stop, .releaseAll, .text .clear, .ack s.activeSession q .stopped])) ∨
    (s.completed.seen q = false ∧ c = ascii "RESUME" ∧
      applyControl s s.activeSession q c =
        ({ s with outputEnabled := true, stoppedLatch := false,
                  completed := s.completed.remember q },
          [.resume, .releaseAll, .ack s.activeSession q .resumed])) ∨
    (s.completed.seen q = false ∧ (s.stoppedLatch || !s.outputEnabled) = true ∧
      applyControl s s.activeSession q c =
        (s, [.releaseAll, .ack s.activeSession q .stopped])) ∨
    (s.completed.seen q = false ∧ c ≠ ascii "STOP" ∧ c ≠ ascii "RESUME" ∧
      s.stoppedLatch = false ∧ s.outputEnabled = true ∧
      applyControl s s.activeSession q c =
        ({ s with completed := s.completed.remember q },
          controlKeys c ++ [.releaseAll, .ack s.activeSession q .applied])) := by
  unfold applyControl
  rw [if_neg (by simp)]
  cases hseen : s.completed.seen q with
  | true => exact Or.inl ⟨rfl, rfl⟩
  | false =>
      rw [if_neg (by simp)]
      by_cases hstop : c = ascii "STOP"
      · exact Or.inr (Or.inl ⟨rfl, hstop, if_pos hstop⟩)
      · rw [if_neg hstop]
        by_cases hres : c = ascii "RESUME"
        · exact Or.inr (Or.inr (Or.inl ⟨rfl, hres, if_pos hres⟩))
        · rw [if_neg hres]
          by_cases hflag : (s.stoppedLatch || !s.outputEnabled) = true
          · exact Or.inr (Or.inr (Or.inr (Or.inl ⟨rfl, hflag, if_pos hflag⟩)))
          · obtain ⟨hlatch, hout⟩ : s.stoppedLatch = false ∧ s.outputEnabled = true := by
              simpa using hflag
            exact Or.inr (Or.inr (Or.inr (Or.inr
              ⟨rfl, hstop, hres, hlatch, hout, if_neg hflag⟩)))

/-- The outcomes of a completed text. -/
theorem finishText_cases (s : State) (σ : Bytes) (q : UInt32) :
    (s.completed.seen q = true ∧
      finishText s σ q = (s, [.ack σ q .duplicate, .text (.complete q)])) ∨
    (s.completed.seen q = false ∧ (s.stoppedLatch || !s.outputEnabled) = true ∧
      finishText s σ q = ({ s with reassembly := Buffer.empty },
        [.text .clear, .releaseAll, .ack σ q .stopped, .text (.complete q)])) ∨
    (s.completed.seen q = false ∧ s.stoppedLatch = false ∧ s.outputEnabled = true ∧
      s.reassembly.message.flatten.length > kMaxPayload ∧
      finishText s σ q = ({ s with reassembly := Buffer.empty },
        [Effect.text (.assemble q s.reassembly.message), .text .clear, .releaseAll,
          .err σ q .oversizedText, .text (.complete q)])) ∨
    (s.completed.seen q = false ∧ s.stoppedLatch = false ∧ s.outputEnabled = true ∧
      s.reassembly.message.flatten.length ≤ kMaxPayload ∧
      finishText s σ q =
        ({ s with completed := s.completed.remember q, reassembly := Buffer.empty },
          [Effect.text (.assemble q s.reassembly.message)] ++
            typeASCII s s.reassembly.message.flatten ++
            [Effect.text .clear, .ack σ q .applied, .text (.complete q)])) := by
  unfold finishText
  cases hseen : s.completed.seen q with
  | true => exact Or.inl ⟨rfl, rfl⟩
  | false =>
      rw [if_neg (by simp)]
      by_cases hflag : (s.stoppedLatch || !s.outputEnabled) = true
      · exact Or.inr (Or.inl ⟨rfl, hflag, if_pos hflag⟩)
      · obtain ⟨hlatch, hout⟩ : s.stoppedLatch = false ∧ s.outputEnabled = true := by
          simpa using hflag
        rw [if_neg hflag]
        by_cases hlen : s.reassembly.message.flatten.length > kMaxPayload
        · exact Or.inr (Or.inr (Or.inl ⟨rfl, hlatch, hout, hlen, if_pos hlen⟩))
        · exact Or.inr (Or.inr (Or.inr
            ⟨rfl, hlatch, hout, Nat.le_of_not_lt hlen, if_neg hlen⟩))

/-- The outcomes of an offered text part. -/
theorem handleText_cases (s : State) (t₁ t₂ : UInt32) (p : TextPart) :
    ((s.reassembly.offer t₁ (tooOld t₂) p).2.2 = .expired ∧
      handleText s t₁ t₂ p =
        ({ s with reassembly := (s.reassembly.offer t₁ (tooOld t₂) p).1 },
          (s.reassembly.offer t₁ (tooOld t₂) p).2.1.map Effect.text ++
            [Effect.releaseAll, .err s.activeSession p.key .reassemblyTimeout])) ∨
    ((s.reassembly.offer t₁ (tooOld t₂) p).2.2 = .waiting ∧
      handleText s t₁ t₂ p =
        ({ s with reassembly := (s.reassembly.offer t₁ (tooOld t₂) p).1 },
          (s.reassembly.offer t₁ (tooOld t₂) p).2.1.map Effect.text)) ∨
    ((s.reassembly.offer t₁ (tooOld t₂) p).2.2 = .complete ∧
      handleText s t₁ t₂ p =
        ((finishText { s with reassembly := (s.reassembly.offer t₁ (tooOld t₂) p).1 }
            s.activeSession p.key).1,
          (s.reassembly.offer t₁ (tooOld t₂) p).2.1.map Effect.text ++
            (finishText { s with reassembly := (s.reassembly.offer t₁ (tooOld t₂) p).1 }
              s.activeSession p.key).2)) := by
  unfold handleText
  cases h : (s.reassembly.offer t₁ (tooOld t₂) p).2.2 <;> simp [h]

/-! ## Keys -/

/-- A key press sent to the keyboard. -/
def Effect.isKey : Effect → Bool
  | .write _ => true
  | .press _ => true
  | _ => false

/-- The keys of a trace. -/
def keysOf (t : List Effect) : List Effect := t.filter Effect.isKey

/-- The keys that type a text. -/
def typedKeys (text : Bytes) : List Effect := (text.filter printable).map .write

@[simp] theorem keysOf_append (t u : List Effect) : keysOf (t ++ u) = keysOf t ++ keysOf u :=
  List.filter_append _ _

@[simp] theorem keysOf_map_text (ms : List TextMark) : keysOf (ms.map .text) = [] := by
  simp [keysOf, Effect.isKey]

/-- Typing writes characters and lets go, and does so with the output on only.
-/
theorem typeASCII_effects {s : State} {text : Bytes} {x : Effect}
    (h : x ∈ typeASCII s text) :
    s.outputEnabled = true ∧ (x = .releaseAll ∨ ∃ c, x = .write c) := by
  unfold typeASCII at h
  split at h
  · simp at h
  · rename_i hout
    refine ⟨by simpa using hout, ?_⟩
    simp only [List.mem_append, List.mem_flatMap, List.mem_singleton] at h
    rcases h with ⟨c, _, hx⟩ | rfl
    · split at hx
      · exact Or.inr ⟨c, by simpa using hx⟩
      · simp at hx
    · exact Or.inl rfl

/-- The keys of a text are those of its printable bytes. -/
theorem keysOf_typeASCII {s : State} (h : s.outputEnabled = true) (text : Bytes) :
    keysOf (typeASCII s text) = typedKeys text := by
  rw [typeASCII, if_neg (by simp [h]), keysOf_append]
  have hrel : keysOf [.releaseAll] = [] := rfl
  rw [hrel, List.append_nil]
  induction text with
  | nil => rfl
  | cons c text ih =>
      rw [List.flatMap_cons, keysOf_append, ih]
      cases hc : printable c with
      | true => simp only [typedKeys, List.filter_cons, hc, if_true, List.map_cons]; rfl
      | false => simp [keysOf, typedKeys, hc]

/-- A control presses keys and lets them go, nothing else. -/
theorem controlKeys_effects {c : Bytes} {x : Effect} (h : x ∈ controlKeys c) :
    x = .releaseAll ∨ x.isKey = true := by
  unfold controlKeys at h
  split at h
  · simp only [List.mem_singleton] at h; exact Or.inr (h ▸ rfl)
  · split at h
    · simp only [List.mem_singleton] at h; exact Or.inr (h ▸ rfl)
    · split at h
      · simp only [List.mem_cons, List.not_mem_nil, or_false] at h
        rcases h with rfl | rfl | rfl
        · exact Or.inr rfl
        · exact Or.inr rfl
        · exact Or.inl rfl
      · simp at h

/-- **What a text frame types**: nothing, or the message it completes. -/
theorem handleText_typed (s : State) (t₁ t₂ : UInt32) (p : TextPart) :
    keysOf (handleText s t₁ t₂ p).2 = [] ∨
    ((s.reassembly.offer t₁ (tooOld t₂) p).2.2 = .complete ∧
      s.stoppedLatch = false ∧ s.outputEnabled = true ∧ s.completed.seen p.key = false ∧
      keysOf (handleText s t₁ t₂ p).2 =
        typedKeys (s.reassembly.offer t₁ (tooOld t₂) p).1.message.flatten) := by
  rcases handleText_cases s t₁ t₂ p with ⟨_, h⟩ | ⟨_, h⟩ | ⟨hc, h⟩
  · rw [h]; exact Or.inl (by simp [keysOf, Effect.isKey])
  · rw [h]; exact Or.inl (keysOf_map_text _)
  · rw [h, keysOf_append, keysOf_map_text, List.nil_append]
    rcases finishText_cases { s with reassembly := (s.reassembly.offer t₁ (tooOld t₂) p).1 }
      s.activeSession p.key with ⟨_, hf⟩ | ⟨_, _, hf⟩ | ⟨_, _, _, _, hf⟩ |
        ⟨hseen, hlatch, hout, _, hf⟩ <;> rw [hf]
    · exact Or.inl rfl
    · exact Or.inl rfl
    · exact Or.inl rfl
    · refine Or.inr ⟨hc, hlatch, hout, hseen, ?_⟩
      rw [keysOf_append, keysOf_append, keysOf_typeASCII hout]
      simp [keysOf, Effect.isKey]

/-! ## Marks -/

/-- The text marks of a trace. -/
def marksOf (t : List Effect) : List TextMark :=
  t.filterMap fun x => match x with | .text m => some m | _ => none

@[simp] theorem marksOf_nil : marksOf [] = [] := rfl

/-- The marks of the buffer add up over two traces. -/
theorem marksOf_append (t u : List Effect) : marksOf (t ++ u) = marksOf t ++ marksOf u :=
  List.filterMap_append

@[simp] theorem marksOf_map_text (ms : List TextMark) : marksOf (ms.map .text) = ms := by
  induction ms with
  | nil => rfl
  | cons m ms ih => simp [marksOf] at ih ⊢

theorem mem_marksOf {t : List Effect} {m : TextMark} : m ∈ marksOf t ↔ .text m ∈ t := by
  rw [marksOf, List.mem_filterMap]
  constructor
  · rintro ⟨x, hx, hm⟩
    cases x <;> first | cases hm; exact hx | cases hm
  · intro h; exact ⟨.text m, h, rfl⟩

/-- What marks nothing adds no mark. -/
theorem marksOf_eq_nil {t : List Effect} (h : ∀ x ∈ t, ∀ m, x ≠ .text m) : marksOf t = [] := by
  rw [marksOf, List.filterMap_eq_nil_iff]
  intro x hx
  cases x with
  | text m => exact absurd rfl (h _ hx m)
  | _ => rfl

theorem marksOf_typeASCII (s : State) (text : Bytes) : marksOf (typeASCII s text) = [] := by
  refine marksOf_eq_nil fun x hx m => ?_
  rcases (typeASCII_effects hx).2 with rfl | ⟨c, rfl⟩ <;> simp

theorem marksOf_controlKeys (c : Bytes) : marksOf (controlKeys c) = [] := by
  refine marksOf_eq_nil fun x hx m => ?_
  rcases controlKeys_effects hx with rfl | hk
  · simp
  · rintro rfl; cases hk

/-! ## Receptions -/

/-- How a complete text ends. -/
def textEnding (s : State) (q : UInt32) : Ending :=
  if s.completed.seen q then .kept
  else if s.stoppedLatch || !s.outputEnabled then .dropped
  else .used

/-- A completed text ends the buffer as `textEnding` says. -/
theorem finishText_finish (s : State) (σ : Bytes) (q : UInt32) :
    ((finishText s σ q).1.reassembly, marksOf (finishText s σ q).2) =
      s.reassembly.finish q (textEnding s q) := by
  rcases finishText_cases s σ q with ⟨hq, h⟩ | ⟨hq, hf, h⟩ | ⟨hq, hl, ho, _, h⟩ |
    ⟨hq, hl, ho, _, h⟩ <;> rw [h]
  · rw [textEnding, if_pos hq]; rfl
  · rw [textEnding, if_neg (by simp [hq]), if_pos hf]; rfl
  · rw [textEnding, if_neg (by simp [hq]), if_neg (by simp [hl, ho])]; rfl
  · rw [textEnding, if_neg (by simp [hq]), if_neg (by simp [hl, ho])]
    simp only [Buffer.finish, marksOf_append, marksOf_typeASCII, List.append_nil]
    rfl

/-- A text part is one reception of the buffer. -/
theorem handleText_receive (s : State) (t₁ t₂ : UInt32) (p : TextPart) :
    ((handleText s t₁ t₂ p).1.reassembly, marksOf (handleText s t₁ t₂ p).2) =
      s.reassembly.receive t₁ (tooOld t₂) p (textEnding s p.key) := by
  rcases handleText_cases s t₁ t₂ p with ⟨hc, h⟩ | ⟨hc, h⟩ | ⟨hc, h⟩ <;> rw [h] <;>
    simp only [Buffer.receive, hc, marksOf_append, marksOf_map_text]
  · simp [marksOf]
  · have hf := finishText_finish
      { s with reassembly := (s.reassembly.offer t₁ (tooOld t₂) p).1 } s.activeSession p.key
    obtain ⟨hbuf, hmarks⟩ := Prod.mk.injEq .. ▸ hf
    simp only [hbuf, hmarks]
    rfl

/-- Typing a text leaves the session. -/
theorem finishText_session (s : State) (σ : Bytes) (q : UInt32) :
    (finishText s σ q).1.activeSession = s.activeSession := by
  rcases finishText_cases s σ q with ⟨_, h⟩ | ⟨_, _, h⟩ | ⟨_, _, _, _, h⟩ |
    ⟨_, _, _, _, h⟩ <;> rw [h]

/-- Handling a part leaves the session. -/
theorem handleText_session (s : State) (t₁ t₂ : UInt32) (p : TextPart) :
    (handleText s t₁ t₂ p).1.activeSession = s.activeSession := by
  rcases handleText_cases s t₁ t₂ p with ⟨_, h⟩ | ⟨_, h⟩ | ⟨_, h⟩ <;> rw [h]
  exact finishText_session _ _ _

/-- A control leaves the buffer alone or empties it, and keeps the
session. -/
theorem applyControl_frame (s : State) (q : UInt32) (c : Bytes) :
    (applyControl s s.activeSession q c).1.activeSession = s.activeSession ∧
    (marksOf (applyControl s s.activeSession q c).2 = [] ∧
        (applyControl s s.activeSession q c).1.reassembly = s.reassembly ∨
      marksOf (applyControl s s.activeSession q c).2 = [.clear] ∧
        (applyControl s s.activeSession q c).1.reassembly = Buffer.empty) := by
  rcases applyControl_cases s q c with ⟨_, h⟩ | ⟨_, _, h⟩ | ⟨_, _, h⟩ | ⟨_, _, h⟩ |
    ⟨_, _, _, _, _, h⟩ <;> rw [h]
  · exact ⟨rfl, Or.inl ⟨rfl, rfl⟩⟩
  · exact ⟨rfl, Or.inr ⟨rfl, rfl⟩⟩
  · exact ⟨rfl, Or.inl ⟨rfl, rfl⟩⟩
  · exact ⟨rfl, Or.inl ⟨rfl, rfl⟩⟩
  · exact ⟨rfl, Or.inl ⟨by rw [marksOf_append, marksOf_controlKeys]; rfl, rfl⟩⟩

/-- The parts in the buffer were stored since the last clear, under the
session in force. -/
def Stored (t : List Effect) (s : State) : Prop :=
  SinceClear s.activeSession (marksOf t) s.reassembly

/-- What clears nothing keeps what is known of the buffer. -/
theorem Stored.append {t u : List Effect} {s : State} (h : Stored t s)
    (hu : ∀ m ∈ marksOf u, m.isClear = false) : Stored (t ++ u) s := by
  intro i hi
  obtain ⟨p, hp, hrest⟩ := h i hi
  exact ⟨p, by rw [marksOf_append]; exact hp.append hu, hrest⟩

theorem stored_empty (t : List Effect) {s : State} (h : s.reassembly = Buffer.empty) :
    Stored t s := by
  rw [Stored, h]; exact sinceClear_empty _ _

/-- A part of the session keeps what is known of the buffer. -/
theorem handleText_stored {t : List Effect} {s : State} (h : Stored t s) (t₁ t₂ : UInt32)
    {p : TextPart} (hp : p.origin = s.activeSession) :
    Stored (t ++ (handleText s t₁ t₂ p).2) (handleText s t₁ t₂ p).1 := by
  have hoff : Stored (t ++ (s.reassembly.offer t₁ (tooOld t₂) p).2.1.map .text)
      { s with reassembly := (s.reassembly.offer t₁ (tooOld t₂) p).1 } := by
    rw [Stored, marksOf_append, marksOf_map_text]
    exact offer_sinceClear h t₁ (tooOld t₂) hp
  rcases handleText_cases s t₁ t₂ p with ⟨_, hr⟩ | ⟨_, hr⟩ | ⟨_, hr⟩
  · rw [hr, ← List.append_assoc]
    exact hoff.append (by simp [marksOf])
  · rw [hr]; exact hoff
  · rw [hr, ← List.append_assoc]
    rcases finishText_cases { s with reassembly := (s.reassembly.offer t₁ (tooOld t₂) p).1 }
      s.activeSession p.key with ⟨_, hf⟩ | ⟨_, _, hf⟩ | ⟨_, _, _, _, hf⟩ | ⟨_, _, _, _, hf⟩ <;>
      rw [hf]
    · exact hoff.append (by simp [marksOf, Mark.isClear])
    · exact stored_empty _ rfl
    · exact stored_empty _ rfl
    · exact stored_empty _ rfl

/-- Every event keeps what is known of the buffer. -/
theorem step_stored (t : List Effect) (s : State) (e : Event) (h : Stored t s) :
    Stored (t ++ (step s e).2) (step s e).1 := by
  refine step_rule s (Q := fun _ r => Stored (t ++ r.2) r.1) ?_ ?_ ?_ ?_ ?_ ?_ ?_ e
  · intro _ effs _ hrel
    refine h.append ?_
    rw [marksOf_eq_nil fun x hx m => by rw [hrel x hx]; simp]
    simp
  · rw [onConnect, List.append_nil]; exact h
  · exact stored_empty _ rfl
  · intro now; exact stored_empty _ rfl
  · intro _ _ _ session _; exact stored_empty _ rfl
  · intro _ _ _ q c _
    obtain ⟨hs, ⟨hm, hb⟩ | ⟨_, hb⟩⟩ := applyControl_frame s q c
    · rw [Stored, marksOf_append, hm, List.append_nil, hb, hs]; exact h
    · exact stored_empty _ hb
  · intro t₁ t₂ _ p _ hp; exact handleText_stored h t₁ t₂ hp

/-- The message a text frame completes is made of parts that were stored
since the trace `t` began. -/
theorem complete_stored {t : List Effect} {s : State} (h : Stored t s) {t₁ t₂ : UInt32}
    {p : TextPart} (hp : p.origin = s.activeSession)
    (hc : (s.reassembly.offer t₁ (tooOld t₂) p).2.2 = .complete) :
    ∀ i < (s.reassembly.offer t₁ (tooOld t₂) p).1.message.length, ∃ q : TextPart,
      .text (.store q) ∈ t ++ (s.reassembly.offer t₁ (tooOld t₂) p).2.1.map .text ∧
        q.index = i ∧
        (s.reassembly.offer t₁ (tooOld t₂) p).1.message[i]? = some q.payload := by
  intro i hi
  obtain ⟨_, _, htotal, hfull⟩ := offer_complete hc
  rw [Buffer.message_length, htotal] at hi
  obtain ⟨q, ⟨before, after, hmarks, _⟩, hindex, hpayload, _⟩ :=
    offer_sinceClear h t₁ (tooOld t₂) hp i ((Buffer.full_iff _ _).mp hfull i hi)
  refine ⟨q, ?_, hindex, ?_⟩
  · rw [← mem_marksOf, marksOf_append, marksOf_map_text, hmarks]
    simp
  · rw [Buffer.message, htotal, hpayload]
    simp [hi]

/-- **Where typed text comes from.** The keys a text frame presses are
those of parts stored since the trace `t` began. -/
theorem text_step_typed {t : List Effect} {s : State} (h : Stored t s) {bytes : Bytes}
    {p : TextPart} (hop : frameOp bytes = some (.text p)) (t₁ t₂ : UInt32) :
    ∃ parts : List Bytes,
      keysOf (step s (.frame t₁ t₂ bytes)).2 = typedKeys parts.flatten ∧
      ∀ i < parts.length, ∃ q : TextPart,
        .text (.store q) ∈ t ++ (step s (.frame t₁ t₂ bytes)).2 ∧ q.index = i ∧
          parts[i]? = some q.payload := by
  rw [step_frame hop, act]
  split
  · rename_i hp
    rcases handleText_typed s t₁ t₂ p with hnone | ⟨hc, _, _, _, hkeys⟩
    · exact ⟨[], hnone, by simp⟩
    · refine ⟨_, hkeys, fun i hi => ?_⟩
      obtain ⟨q, hq, hrest⟩ := complete_stored h hp hc i hi
      refine ⟨q, ?_, hrest⟩
      rcases List.mem_append.mp hq with hq | hq
      · exact List.mem_append_left _ hq
      · refine List.mem_append_right _ ?_
        rcases handleText_cases s t₁ t₂ p with ⟨_, hr⟩ | ⟨_, hr⟩ | ⟨_, hr⟩ <;> rw [hr]
        · exact List.mem_append_left _ hq
        · exact hq
        · exact List.mem_append_left _ hq
  · exact ⟨[], rfl, by simp⟩

end Bootmux.Bridge
