/-
Bootmux.Lib.SharedStream — several streams of inputs through one machine.

A machine answers each input and goes on to its next state. `shared` are the
answers when all streams go through one machine, in the order in which the
inputs come; `separate` are the answers when each stream has a machine of its
own. They are the same as long as the machines that are separate are in the
same state whenever the stream changes (`shared_eq_separate`); and where
states are told apart by their answers, that is also needed if no input may
be answered in another way because of the other streams
(`undisturbed_iff_inStep`).

The state is shared by parties whose messages are interleaved. If it comes
to what each party's own state would be whenever a message of that party
arrives (`InStep`), then what is shown is what each party would show alone.
-/
import Mathlib.Data.List.Induction
import Mathlib.Logic.Function.Basic

namespace Bootmux.Lib.SharedStream

variable {ι σ α β : Type} [DecidableEq ι] (step : σ → α → σ × β) (init : σ)

/-- The answers of one machine. -/
def shared (s : σ) : List (ι × α) → List β
  | [] => []
  | m :: ms => (step s m.2).2 :: shared (step s m.2).1 ms

/-- The answers of a machine for each stream. -/
def separate (states : ι → σ) : List (ι × α) → List β
  | [] => []
  | m :: ms =>
      (step (states m.1) m.2).2 ::
        separate (Function.update states m.1 (step (states m.1) m.2).1) ms

/-- The state after inputs of all streams. -/
def sharedState (ms : List (ι × α)) : σ := ms.foldl (fun s m => (step s m.2).1) init

/-- The state after the inputs of one stream. -/
def ownState (i : ι) (ms : List (ι × α)) : σ := sharedState step init (ms.filter fun m => m.1 = i)

/-- Whatever the input at a place is, it is answered as in its own stream. -/
def Undisturbed (ms : List (ι × α)) : Prop :=
  ∀ front m rest, ms = front ++ m :: rest →
    ∀ x, (step (sharedState step init front) x).2 = (step (ownState step init m.1 front) x).2

/-- Where the stream changes, the two machines are in the same state. -/
def InStep (ms : List (ι × α)) : Prop :=
  ∀ front l m rest, ms = front ++ l :: m :: rest → l.1 ≠ m.1 →
    ownState step init l.1 (front ++ [l]) = ownState step init m.1 (front ++ [l])

variable {step init}

omit [DecidableEq ι] in
/-- The shared state moves with every message. -/
theorem sharedState_concat (ms : List (ι × α)) (m : ι × α) :
    sharedState step init (ms ++ [m]) = (step (sharedState step init ms) m.2).1 := by
  rw [sharedState, List.foldl_append]
  rfl

/-- A party's own state moves with its own messages. -/
theorem ownState_concat_self (ms : List (ι × α)) (m : ι × α) :
    ownState step init m.1 (ms ++ [m]) = (step (ownState step init m.1 ms) m.2).1 := by
  have hlast : [m].filter (fun n => n.1 = m.1) = [m] := by simp
  rw [ownState, List.filter_append, hlast, sharedState_concat]
  rfl

/-- A message of another party leaves it. -/
theorem ownState_concat_other {i : ι} {m : ι × α} (h : m.1 ≠ i) (ms : List (ι × α)) :
    ownState step init i (ms ++ [m]) = ownState step init i ms := by
  have hlast : [m].filter (fun n => n.1 = i) = [] := by simp [h]
  rw [ownState, List.filter_append, hlast, List.append_nil]
  rfl

/-- A step that both machines take together. -/
theorem shared_eq_own_concat {ms : List (ι × α)} {m : ι × α}
    (h : sharedState step init ms = ownState step init m.1 ms) :
    sharedState step init (ms ++ [m]) = ownState step init m.1 (ms ++ [m]) := by
  rw [sharedState_concat, ownState_concat_self, h]

/-- Before each input the one machine is in the state of its stream. -/
theorem InStep.shared_eq_own {ms : List (ι × α)} (h : InStep step init ms) :
    ∀ front m rest, ms = front ++ m :: rest →
      sharedState step init front = ownState step init m.1 front := by
  intro front
  induction front using List.reverseRecOn with
  | nil => exact fun _ _ _ => rfl
  | append_singleton front l ih =>
      intro m rest heq
      rw [List.append_assoc, List.singleton_append] at heq
      have hown := shared_eq_own_concat (ih l (m :: rest) heq)
      by_cases hsame : l.1 = m.1
      · rw [hown, hsame]
      · rw [hown, h front l m rest heq hsame]

theorem shared_eq_separate_from {ms : List (ι × α)} (h : InStep step init ms)
    (front rest : List (ι × α)) (heq : ms = front ++ rest) :
    shared step (sharedState step init front) rest =
      separate step (fun i => ownState step init i front) rest := by
  induction rest generalizing front with
  | nil => rfl
  | cons m rest ih =>
      have hown := h.shared_eq_own front m rest heq
      have hnext := ih (front ++ [m]) (by rw [heq, List.append_assoc, List.singleton_append])
      have hstates : Function.update (fun i => ownState step init i front) m.1
          (step (ownState step init m.1 front) m.2).1 =
            fun i => ownState step init i (front ++ [m]) := by
        funext i
        by_cases hi : i = m.1
        · subst hi
          rw [Function.update_self, ownState_concat_self]
        · rw [Function.update_of_ne hi, ownState_concat_other (Ne.symm hi)]
      rw [shared, separate, hstates, ← hnext, sharedState_concat, hown]

/-- **Streams that are in step are answered as if they were separate.** -/
theorem shared_eq_separate {ms : List (ι × α)} (h : InStep step init ms) :
    shared step init ms = separate step (fun _ => init) ms :=
  shared_eq_separate_from h [] ms rfl

/-- **Streams do not disturb each other exactly if they are in step.** -/
theorem undisturbed_iff_inStep (hseparated : ∀ s t, (∀ x, (step s x).2 = (step t x).2) → s = t)
    (ms : List (ι × α)) : Undisturbed step init ms ↔ InStep step init ms := by
  constructor
  · intro h front l m rest heq _
    have hfirst := hseparated _ _ (h front l (m :: rest) heq)
    have hsecond := hseparated _ _ (h (front ++ [l]) m rest
      (by rw [heq, List.append_assoc, List.singleton_append]))
    rw [← shared_eq_own_concat hfirst, hsecond]
  · intro h front m rest heq x
    rw [h.shared_eq_own front m rest heq]

end Bootmux.Lib.SharedStream
