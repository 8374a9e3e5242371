/-
Bootmux.Bridge.AckTheorems — when an `APPLIED` of the bridge is honest.

`attempt` says which operation a step hands to the keyboard: a control
or a completed text under the session in force, not a duplicate, with
output on. `Attempt.execution` says what executing it in full means, as
the list of keyboard calls, and is `none` for an operation that cannot
be executed in full: a control of unknown name, a text with a byte that
is not printable, a text over the payload limit. `Honest` is the
promise: `APPLIED` is sent only for an operation executed in full, and
one that cannot be is answered with `ERR` and not remembered.

The source keeps the promise for the last of the three and breaks it
for the first two: `applyControl` acknowledges a control it has no key
for, and `typeASCII` skips the bytes it cannot type. The result says
exactly that.
-/
import Bootmux.Bridge.ReceiverTheorems

namespace Bootmux.Bridge

open Bootmux.Bmx1
open Bootmux.Lib
open Bootmux.Lib.Reassembly

/-! ## The promise -/

inductive Attempt where
  | control (sequence : UInt32) (name : Bytes)
  | text (sequence : UInt32) (parts : List Bytes)

def Attempt.sequence : Attempt → UInt32
  | .control sequence _ => sequence
  | .text sequence _ => sequence

/-- Whether an operation under `sequence` reaches the keyboard. -/
def reachesKeyboard (s : State) (sequence : UInt32) : Bool :=
  !s.completed.seen sequence && !s.stoppedLatch && s.outputEnabled

/-- The operation that a step hands to the keyboard. -/
def attempt (s : State) : Event → Option Attempt
  | .frame started now bytes =>
      match frameOp bytes with
      | some (.control session sequence name) =>
          if session = s.activeSession ∧ reachesKeyboard s sequence = true ∧
              name ≠ ascii "STOP" ∧ name ≠ ascii "RESUME" then
            some (.control sequence name)
          else none
      | some (.text p) =>
          let r := s.reassembly.offer started (tooOld now) p
          if p.origin = s.activeSession ∧ reachesKeyboard s p.key = true ∧
              r.2.2 = .complete then
            some (.text p.key r.1.message)
          else none
      | _ => none
  | _ => none

/-- The key a control names, pressed and released. -/
def namedKey (name : Bytes) : Option (List Effect) :=
  if name = ascii "ENTER" then some [.write keyReturn, .releaseAll]
  else if name = ascii "BACKSPACE" then some [.write keyBackspace, .releaseAll]
  else if name = ascii "CTRL_C" then
    some [.press keyLeftCtrl, .write 0x63, .releaseAll, .releaseAll]
  else none

/-- The keyboard calls that execute the operation in full. -/
def Attempt.execution : Attempt → Option (List Effect)
  | .control _ name => namedKey name
  | .text _ parts =>
      if parts.flatten.length ≤ kMaxPayload ∧ parts.flatten.all printable = true then
        some (parts.flatten.map .write ++ [.releaseAll])
      else none

def Effect.isKeyboard : Effect → Bool
  | .write _ => true
  | .press _ => true
  | .releaseAll => true
  | _ => false

/-- The keyboard calls of a trace. -/
def keyboardOf (t : List Effect) : List Effect := t.filter Effect.isKeyboard

/-- **The promise of an acknowledgement**, for one step. -/
def Honest (s : State) (e : Event) : Prop :=
  (∀ σ q, .ack σ q .applied ∈ (step s e).2 →
    σ = s.activeSession ∧ ∃ a keys, attempt s e = some a ∧ a.sequence = q ∧
      a.execution = some keys ∧ keyboardOf (step s e).2 = keys) ∧
  (∀ a, attempt s e = some a → a.execution = none →
    (∃ code, .err s.activeSession a.sequence code ∈ (step s e).2) ∧
      (step s e).1.completed = s.completed)

/-- A text over the payload limit. -/
def Attempt.oversized : Attempt → Bool
  | .control _ _ => false
  | .text _ parts => decide (parts.flatten.length > kMaxPayload)

/-- The step does not attempt a control of unknown name, nor a text within
the payload limit that has a byte that is not printable. -/
def Executable (s : State) (e : Event) : Prop :=
  ∀ a, attempt s e = some a → a.execution.isSome = true ∨ a.oversized = true

/-! ## What a step answers -/

/-- A message reaches the keyboard if it is new and the output is on and
unlatched. -/
theorem reachesKeyboard_iff (s : State) (q : UInt32) :
    reachesKeyboard s q = true ↔
      s.completed.seen q = false ∧ s.stoppedLatch = false ∧ s.outputEnabled = true := by
  simp [reachesKeyboard, and_assoc]

/-- The four ways a step answers. -/
def Answer (s : State) (a : Option Attempt) (r : State × List Effect) : Prop :=
  (a = none ∧ ∀ σ q, .ack σ q .applied ∉ r.2) ∨
  (∃ q c, a = some (.control q c) ∧
    r.2 = controlKeys c ++ [Effect.releaseAll, .ack s.activeSession q .applied]) ∨
  (∃ q parts marks, a = some (.text q parts) ∧ parts.flatten.length ≤ kMaxPayload ∧
    r.2 = List.map Effect.text marks ++
      ((parts.flatten.filter printable).map Effect.write ++ [Effect.releaseAll, .text .clear,
        .ack s.activeSession q .applied, .text (.complete q)])) ∨
  (∃ q parts, a = some (.text q parts) ∧ parts.flatten.length > kMaxPayload ∧
    (∀ σ q, .ack σ q .applied ∉ r.2) ∧ .err s.activeSession q .oversizedText ∈ r.2 ∧
    r.1.completed = s.completed)

/-- With the output on, the printable bytes are typed and the keys let go. -/
theorem typeASCII_enabled {s : State} (h : s.outputEnabled = true) (text : Bytes) :
    typeASCII s text = (text.filter printable).map .write ++ [.releaseAll] := by
  rw [typeASCII, if_neg (by simp [h])]
  congr 1
  induction text with
  | nil => rfl
  | cons c text ih => rw [List.flatMap_cons, ih]; cases hc : printable c <;> simp [hc]

/-- A control of the session is answered with its sequence number. -/
theorem control_answer {s : State} {t₁ t₂ : UInt32} {bytes : Bytes} {q : UInt32} {c : Bytes}
    (hop : frameOp bytes = some (.control s.activeSession q c)) :
    Answer s (attempt s (.frame t₁ t₂ bytes)) (applyControl s s.activeSession q c) := by
  simp only [attempt, hop, true_and]
  rcases applyControl_cases s q c with ⟨hq, hr⟩ | ⟨_, hc, hr⟩ | ⟨_, hc, hr⟩ | ⟨_, hflag, hr⟩ |
    ⟨hq, hstop, hres, hlatch, hout, hr⟩ <;> rw [hr]
  · exact Or.inl ⟨by simp [reachesKeyboard, hq], by simp⟩
  · exact Or.inl ⟨by simp [hc], by simp⟩
  · exact Or.inl ⟨by simp [hc], by simp⟩
  · refine Or.inl ⟨?_, by simp⟩
    rw [if_neg]
    rintro ⟨hreach, _⟩
    obtain ⟨_, hlatch, hout⟩ := (reachesKeyboard_iff s q).mp hreach
    simp [hlatch, hout] at hflag
  · refine Or.inr (Or.inl ⟨q, c, ?_, rfl⟩)
    rw [if_pos ⟨(reachesKeyboard_iff s q).mpr ⟨hq, hlatch, hout⟩, hstop, hres⟩]

/-- A part of the session's text is answered with its sequence number. -/
theorem text_answer {s : State} {t₁ t₂ : UInt32} {bytes : Bytes} {p : TextPart}
    (hop : frameOp bytes = some (.text p)) (hp : p.origin = s.activeSession) :
    Answer s (attempt s (.frame t₁ t₂ bytes)) (handleText s t₁ t₂ p) := by
  simp only [attempt, hop, hp, true_and]
  rcases handleText_cases s t₁ t₂ p with ⟨ho, hr⟩ | ⟨ho, hr⟩ | ⟨ho, hr⟩ <;> rw [hr]
  · exact Or.inl ⟨by simp [ho], by simp⟩
  · exact Or.inl ⟨by simp [ho], by simp⟩
  · rcases finishText_cases { s with reassembly := (s.reassembly.offer t₁ (tooOld t₂) p).1 }
      s.activeSession p.key with ⟨hq, hf⟩ | ⟨_, hflag, hf⟩ | ⟨hq, hlatch, hout, hlen, hf⟩ |
        ⟨hq, hlatch, hout, hlen, hf⟩ <;> rw [hf]
    · exact Or.inl ⟨by rw [if_neg]; simp [reachesKeyboard, hq], by simp⟩
    · refine Or.inl ⟨?_, by simp⟩
      rw [if_neg]
      rintro ⟨hreach, _⟩
      obtain ⟨_, hlatch, hout⟩ := (reachesKeyboard_iff s p.key).mp hreach
      simp [hlatch, hout] at hflag
    · refine Or.inr (Or.inr (Or.inr ⟨p.key, _, ?_, hlen, by simp, by simp, rfl⟩))
      rw [if_pos ⟨(reachesKeyboard_iff s p.key).mpr ⟨hq, hlatch, hout⟩, ho⟩]
    · refine Or.inr (Or.inr (Or.inl ⟨p.key, _, (s.reassembly.offer t₁ (tooOld t₂) p).2.1 ++
        [.assemble p.key (s.reassembly.offer t₁ (tooOld t₂) p).1.message], ?_, hlen, ?_⟩))
      · rw [if_pos ⟨(reachesKeyboard_iff s p.key).mpr ⟨hq, hlatch, hout⟩, ho⟩]
      · rw [typeASCII_enabled hout]
        simp [List.append_assoc]

/-- Every event is answered as its message asks. -/
theorem step_answer (s : State) (e : Event) : Answer s (attempt s e) (step s e) := by
  cases e with
  | connect => exact Or.inl ⟨rfl, by simp [step, onConnect]⟩
  | disconnect => exact Or.inl ⟨rfl, by simp [step, onDisconnect]⟩
  | tick now =>
      refine Or.inl ⟨rfl, ?_⟩
      simp only [step, loopTimeout]
      split <;> simp
  | frame t₁ t₂ bytes =>
      cases hop : frameOp bytes with
      | none =>
          refine Or.inl ⟨by simp [attempt, hop], ?_⟩
          rcases step_no_op hop s t₁ t₂ with h | h <;> rw [h] <;> simp
      | some op =>
          rw [step_frame hop]
          cases op with
          | opened session =>
              exact Or.inl ⟨by simp [attempt, hop], by simp [act, openSession]⟩
          | control session q c =>
              simp only [act]
              split
              · rename_i hsess; subst hsess; exact control_answer hop
              · rename_i hsess
                exact Or.inl ⟨by simp [attempt, hop, hsess], by simp⟩
          | text p =>
              simp only [act]
              split
              · rename_i hsess; exact text_answer hop hsess
              · rename_i hsess
                exact Or.inl ⟨by simp [attempt, hop, hsess], by simp⟩

/-! ## The result -/

/-- A named key is pressed and let go. -/
theorem controlKeys_namedKey {c : Bytes} {keys : List Effect} (h : namedKey c = some keys) :
    controlKeys c ++ [Effect.releaseAll] = keys := by
  unfold namedKey at h
  unfold controlKeys
  split at h
  · rename_i hc; rw [if_pos hc]; exact Option.some.inj h
  · rename_i hc
    rw [if_neg hc]
    split at h
    · rename_i hc; rw [if_pos hc]; exact Option.some.inj h
    · rename_i hc
      rw [if_neg hc]
      split at h
      · rename_i hc; rw [if_pos hc]; exact Option.some.inj h
      · cases h

theorem keyboardOf_controlKeys (c : Bytes) : keyboardOf (controlKeys c) = controlKeys c := by
  rw [keyboardOf, List.filter_eq_self]
  intro x hx
  rcases controlKeys_effects hx with rfl | hk
  · rfl
  · cases x <;> first | rfl | cases hk

/-- Pressing a key answers nothing. -/
theorem err_not_controlKeys (c : Bytes) (σ : Bytes) (q : UInt32) (code : ErrorCode) :
    .err σ q code ∉ controlKeys c := by
  intro h
  rcases controlKeys_effects h with h | h <;> cases h

/-- Pressing a key acknowledges nothing. -/
theorem ack_not_controlKeys (c : Bytes) (σ : Bytes) (q : UInt32) (r : AckResult) :
    .ack σ q r ∉ controlKeys c := by
  intro h
  rcases controlKeys_effects h with h | h <;> cases h

/-- What the keyboard gets of a text that is acknowledged. -/
theorem keyboardOf_text (marks : List TextMark) (text : Bytes) (σ : Bytes) (q : UInt32) :
    keyboardOf (marks.map Effect.text ++ (text.map Effect.write ++
        [Effect.releaseAll, .text .clear, .ack σ q .applied, .text (.complete q)])) =
      text.map Effect.write ++ [Effect.releaseAll] := by
  have hwrites : List.filter Effect.isKeyboard (text.map Effect.write) = text.map Effect.write := by
    rw [List.filter_eq_self]
    intro x hx
    obtain ⟨c, _, rfl⟩ := List.mem_map.mp hx
    rfl
  have hmarks : List.filter Effect.isKeyboard (marks.map Effect.text) = [] :=
    List.filter_eq_nil_iff.mpr (by simp [Effect.isKeyboard])
  rw [keyboardOf, List.filter_append, List.filter_append, hwrites, hmarks]
  rfl

/-- One step keeps the promise exactly when it is `Executable`. -/
theorem honest_iff_executable (s : State) (e : Event) : Honest s e ↔ Executable s e := by
  unfold Honest Executable
  rcases step_answer s e with ⟨ha, hack⟩ | ⟨q, c, ha, hr⟩ | ⟨q, parts, marks, ha, hlen, hr⟩ |
    ⟨q, parts, ha, hlen, hack, herr, hcompleted⟩
  · simp [ha, hack]
  · -- a control is always acknowledged, so it has to be a named one
    simp only [ha, hr, Option.some.injEq, forall_eq']
    constructor
    · rintro ⟨_, hno⟩
      cases hk : namedKey c with
      | some keys => exact Or.inl (by simp [Attempt.execution, hk])
      | none =>
          obtain ⟨⟨code, herr⟩, _⟩ := hno hk
          simp [err_not_controlKeys] at herr
    · intro hexec
      have hsome : (namedKey c).isSome = true := by
        simpa [Attempt.execution, Attempt.oversized] using hexec
      obtain ⟨keys, hkeys⟩ := Option.isSome_iff_exists.mp hsome
      refine ⟨?_, fun hnone => by simp [Attempt.execution, hkeys] at hnone⟩
      intro σ q' hmem
      obtain ⟨rfl, rfl⟩ : σ = s.activeSession ∧ q' = q := by
        simpa [ack_not_controlKeys] using hmem
      refine ⟨rfl, _, keys, rfl, rfl, hkeys, ?_⟩
      rw [← controlKeys_namedKey hkeys, keyboardOf, List.filter_append, ← keyboardOf,
        keyboardOf_controlKeys]
      rfl
  · -- a text is always acknowledged, so no byte of it may be skipped
    simp only [ha, hr, Option.some.injEq, forall_eq']
    have hover : (Attempt.text q parts).oversized = false := by
      simpa [Attempt.oversized] using hlen
    constructor
    · rintro ⟨_, hno⟩
      cases hk : (Attempt.text q parts).execution with
      | some keys => exact Or.inl rfl
      | none =>
          obtain ⟨⟨code, herr⟩, _⟩ := hno hk
          simp at herr
    · intro hexec
      rw [hover] at hexec
      obtain ⟨keys, hkeys⟩ := Option.isSome_iff_exists.mp (by simpa using hexec)
      refine ⟨?_, fun hnone => by rw [hkeys] at hnone; cases hnone⟩
      intro σ q' hmem
      obtain ⟨rfl, rfl⟩ : σ = s.activeSession ∧ q' = q := by simpa using hmem
      refine ⟨rfl, _, keys, rfl, rfl, hkeys, ?_⟩
      rw [keyboardOf_text]
      simp only [Attempt.execution] at hkeys
      split at hkeys
      · rename_i hall
        rw [List.filter_eq_self.mpr (List.all_eq_true.mp hall.2)]
        exact Option.some.inj hkeys
      · cases hkeys
  · -- an oversized text is refused
    simp only [ha, Option.some.injEq, forall_eq']
    constructor
    · intro _; exact Or.inr (by simpa [Attempt.oversized] using hlen)
    · intro _
      exact ⟨fun σ q' hmem => absurd hmem (hack σ q'), fun _ => ⟨⟨_, herr⟩, hcompleted⟩⟩

/-- **When acknowledgements are honest.** Every step of a run keeps the
promise exactly when no step attempts a control of unknown name or a
text within the payload limit with a byte that is not printable. -/
theorem ack_honest_iff (es : List Event) :
    receiver.AllSteps Honest boot es ↔ receiver.AllSteps Executable boot es :=
  receiver.allSteps_congr honest_iff_executable boot es

/-- A control of unknown name is acknowledged without any key press. -/
theorem ack_dishonest_unknown_control :
    ¬ receiver.AllSteps Honest boot
      [.frame 0 0 (ascii "BMX1|OPEN|s"), .frame 0 0 (ascii "BMX1|CTRL|s|1|ESC")] := by
  rintro ⟨_, ⟨hack, _⟩, _⟩
  obtain ⟨_, a, keys, ha, _, hexec, _⟩ :=
    hack (ascii "s") 1 (List.mem_iff_getElem?.mpr ⟨1, rfl⟩)
  obtain rfl : Attempt.control 1 (ascii "ESC") = a := Option.some.inj ha
  have hnone : namedKey (ascii "ESC") = none := by decide +kernel
  exact absurd (hnone.symm.trans hexec) (by simp)

end Bootmux.Bridge
