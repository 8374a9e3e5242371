/-
Bootmux.Lib.Machine — deterministic machines that read events and emit
outputs, their runs, and the rules by which a run inherits what one
step preserves.

A machine is an initial state and a total step function; a run is the
fold of the step over a list of events. Everything said about "every
reachable state" or "every run" in this development is said through
`run` and `trace`, and proved by one of three rules:

* `runFrom_invariant` — a predicate every step keeps holds after a run.
* `history_invariant` — the same for a predicate that also sees the
  outputs emitted so far; what a state remembers about its past is
  stated this way.
* `simulation` — two machines fed the same events, whose steps keep a
  relation and show the same observations, show the same observations
  along a whole run.

`AllSteps P` restricts a run to steps that meet `P`, a condition on the
state before the step and the event. Each rule comes with that
restriction built in, because most results here are about the runs
that avoid one particular branch.

`Always Q` is a property of traces: each output satisfies `Q` with
respect to the outputs before it. Safety along a run ("never a key while
stopped") is stated this way and grows with the trace
(`always_append`).
-/
import Mathlib.Data.List.Induction
import Mathlib.Data.UInt

namespace Bootmux.Lib

/-- A deterministic machine: `step` reads one event and emits outputs. -/
structure Machine (σ ε ο : Type) where
  init : σ
  step : σ → ε → σ × List ο

namespace Machine

variable {σ ε ο : Type} (m : Machine σ ε ο)

/-- The state after the events `es`, starting at `s`. -/
def runFrom (s : σ) : List ε → σ
  | [] => s
  | e :: es => runFrom (m.step s e).1 es

/-- The outputs of the events `es` in order, starting at `s`. -/
def traceFrom (s : σ) : List ε → List ο
  | [] => []
  | e :: es => (m.step s e).2 ++ traceFrom (m.step s e).1 es

/-- The state a run from the initial state reaches. -/
def run (es : List ε) : σ := m.runFrom m.init es

/-- The outputs of a run from the initial state. -/
def trace (es : List ε) : List ο := m.traceFrom m.init es

/-- What `f` reads off the steps of the events `es` in order, starting at
`s`. -/
def gatherFrom {α : Type} (f : σ → ε → List α) (s : σ) : List ε → List α
  | [] => []
  | e :: es => f s e ++ gatherFrom f (m.step s e).1 es

/-- What `f` reads off the steps of a run. -/
def gather {α : Type} (f : σ → ε → List α) (es : List ε) : List α := m.gatherFrom f m.init es

/-- Every step of the run meets `P` in the state it is taken in. -/
def AllSteps (P : σ → ε → Prop) (s : σ) : List ε → Prop
  | [] => True
  | e :: es => P s e ∧ AllSteps P (m.step s e).1 es

instance decidableAllSteps (P : σ → ε → Prop) [∀ s e, Decidable (P s e)] :
    ∀ (s : σ) (es : List ε), Decidable (m.AllSteps P s es)
  | _, [] => .isTrue trivial
  | s, e :: es =>
      have := decidableAllSteps P (m.step s e).1 es
      inferInstanceAs (Decidable (P s e ∧ m.AllSteps P (m.step s e).1 es))

/-! ## Splitting a run -/

@[simp] theorem runFrom_nil (s : σ) : m.runFrom s [] = s := rfl

@[simp] theorem runFrom_cons (s : σ) (e : ε) (es : List ε) :
    m.runFrom s (e :: es) = m.runFrom (m.step s e).1 es := rfl

@[simp] theorem traceFrom_nil (s : σ) : m.traceFrom s [] = [] := rfl

@[simp] theorem traceFrom_cons (s : σ) (e : ε) (es : List ε) :
    m.traceFrom s (e :: es) = (m.step s e).2 ++ m.traceFrom (m.step s e).1 es := rfl

/-- A run in two parts is one run. -/
theorem runFrom_append (s : σ) (es fs : List ε) :
    m.runFrom s (es ++ fs) = m.runFrom (m.runFrom s es) fs := by
  induction es generalizing s with
  | nil => rfl
  | cons e es ih => simp [ih]

theorem traceFrom_append (s : σ) (es fs : List ε) :
    m.traceFrom s (es ++ fs) = m.traceFrom s es ++ m.traceFrom (m.runFrom s es) fs := by
  induction es generalizing s with
  | nil => rfl
  | cons e es ih => simp [ih, List.append_assoc]

theorem run_append (es fs : List ε) : m.run (es ++ fs) = m.runFrom (m.run es) fs :=
  m.runFrom_append m.init es fs

theorem trace_append (es fs : List ε) :
    m.trace (es ++ fs) = m.trace es ++ m.traceFrom (m.run es) fs :=
  m.traceFrom_append m.init es fs

/-- The last event of a run is a step from the state before it. -/
theorem run_concat (es : List ε) (e : ε) : m.run (es ++ [e]) = (m.step (m.run es) e).1 := by
  rw [run_append]; rfl

/-- The last event adds its outputs to the trace. -/
theorem trace_concat (es : List ε) (e : ε) :
    m.trace (es ++ [e]) = m.trace es ++ (m.step (m.run es) e).2 := by
  rw [trace_append]; simp

theorem gatherFrom_append {α : Type} (f : σ → ε → List α) (s : σ) (es fs : List ε) :
    m.gatherFrom f s (es ++ fs) = m.gatherFrom f s es ++ m.gatherFrom f (m.runFrom s es) fs := by
  induction es generalizing s with
  | nil => rfl
  | cons e es ih => simp [gatherFrom, ih, List.append_assoc]

/-- The last event adds what is gathered at it. -/
theorem gather_concat {α : Type} (f : σ → ε → List α) (es : List ε) (e : ε) :
    m.gather f (es ++ [e]) = m.gather f es ++ f (m.run es) e := by
  rw [gather, gatherFrom_append, gather]
  simp [gatherFrom, run]

/-- An output of a run is an output of one of its steps. -/
theorem mem_trace {x : ο} {es : List ε} (h : x ∈ m.trace es) :
    ∃ pre e post, es = pre ++ e :: post ∧ x ∈ (m.step (m.run pre) e).2 := by
  induction es using List.reverseRecOn with
  | nil => cases h
  | append_singleton es e ih =>
      rw [trace_concat] at h
      rcases List.mem_append.mp h with h | h
      · obtain ⟨pre, f, post, rfl, hf⟩ := ih h
        exact ⟨pre, f, post ++ [e], by simp, hf⟩
      · exact ⟨es, e, [], rfl, h⟩

theorem allSteps_append (P : σ → ε → Prop) (s : σ) (es fs : List ε) :
    m.AllSteps P s (es ++ fs) ↔ m.AllSteps P s es ∧ m.AllSteps P (m.runFrom s es) fs := by
  induction es generalizing s with
  | nil => simp [AllSteps]
  | cons e es ih => simp [AllSteps, ih, and_assoc]

/-- `AllSteps` read at one position of the run. -/
theorem allSteps_iff_split (P : σ → ε → Prop) (s : σ) (es : List ε) :
    m.AllSteps P s es ↔
      ∀ pre e post, es = pre ++ e :: post → P (m.runFrom s pre) e := by
  constructor
  · rintro h pre e post rfl
    rw [allSteps_append] at h
    exact h.2.1
  · intro h
    induction es generalizing s with
    | nil => trivial
    | cons e es ih =>
        refine ⟨h [] e es rfl, ih _ ?_⟩
        rintro pre f post rfl
        exact h (e :: pre) f post rfl

/-- What every step does, the steps of a run do. -/
theorem allSteps_of_forall {P : σ → ε → Prop} (h : ∀ s e, P s e) (s : σ) (es : List ε) :
    m.AllSteps P s es :=
  (m.allSteps_iff_split P s es).mpr fun _ _ _ _ => h _ _

/-- Conditions that agree on every step agree on runs. -/
theorem allSteps_congr {P Q : σ → ε → Prop} (h : ∀ s e, P s e ↔ Q s e) (s : σ)
    (es : List ε) : m.AllSteps P s es ↔ m.AllSteps Q s es := by
  induction es generalizing s with
  | nil => rfl
  | cons e es ih => simp only [AllSteps, h, ih]

/-- A restriction of the steps and one of the events. -/
theorem allSteps_and {P : σ → ε → Prop} {Q : ε → Prop} {s : σ} {es : List ε}
    (hP : m.AllSteps P s es) (hQ : ∀ e ∈ es, Q e) :
    m.AllSteps (fun s e => P s e ∧ Q e) s es := by
  rw [allSteps_iff_split] at hP ⊢
  rintro pre e post rfl
  exact ⟨hP pre e post rfl, hQ e (by simp)⟩

/-- A run that meets `P` met it in every part of the run. -/
theorem allSteps_left {P : σ → ε → Prop} {s : σ} {es fs : List ε}
    (h : m.AllSteps P s (es ++ fs)) : m.AllSteps P s es :=
  ((m.allSteps_append P s es fs).mp h).1

/-- A condition on all steps of a run is one on its last step. -/
theorem allSteps_last {P : σ → ε → Prop} {es : List ε} {e : ε}
    (h : m.AllSteps P m.init (es ++ [e])) : P (m.run es) e :=
  ((m.allSteps_append P m.init es [e]).mp h).2.1

/-! ## Invariants -/

/-- What every admitted step keeps holds after every admitted run. -/
theorem runFrom_invariant {I : σ → Prop} {P : σ → ε → Prop}
    (hstep : ∀ s e, I s → P s e → I (m.step s e).1) :
    ∀ (es : List ε) (s : σ), I s → m.AllSteps P s es → I (m.runFrom s es)
  | [], _, hs, _ => hs
  | e :: es, s, hs, hp =>
      runFrom_invariant hstep es (m.step s e).1 (hstep s e hs hp.1) hp.2

/-- Steps that meet `P` meet whatever `P` and an invariant give. -/
theorem allSteps_of_invariant {I : σ → Prop} {P Q : σ → ε → Prop}
    (hstep : ∀ s e, I s → P s e → I (m.step s e).1)
    (hQ : ∀ s e, I s → P s e → Q s e) :
    ∀ (es : List ε) (s : σ), I s → m.AllSteps P s es → m.AllSteps Q s es
  | [], _, _, _ => trivial
  | e :: es, s, hs, hp =>
      ⟨hQ s e hs hp.1,
        allSteps_of_invariant hstep hQ es (m.step s e).1 (hstep s e hs hp.1) hp.2⟩

/-- The unrestricted form, from the initial state. -/
theorem run_invariant {I : σ → Prop} (hinit : I m.init)
    (hstep : ∀ s e, I s → I (m.step s e).1) (es : List ε) : I (m.run es) :=
  m.runFrom_invariant (P := fun _ _ => True) (fun s e hs _ => hstep s e hs) es m.init hinit
    (m.allSteps_of_forall (fun _ _ => trivial) _ _)

/-- An invariant that also sees the outputs emitted so far. -/
theorem historyFrom_invariant {I : List ο → σ → Prop} {P : σ → ε → Prop}
    (hstep : ∀ t s e, I t s → P s e → I (t ++ (m.step s e).2) (m.step s e).1) :
    ∀ (es : List ε) (t : List ο) (s : σ), I t s → m.AllSteps P s es →
      I (t ++ m.traceFrom s es) (m.runFrom s es)
  | [], t, s, hs, _ => by simpa using hs
  | e :: es, t, s, hs, hp => by
      have h := historyFrom_invariant hstep es (t ++ (m.step s e).2) (m.step s e).1
        (hstep t s e hs hp.1) hp.2
      simpa [List.append_assoc] using h

/-- An invariant of history and state that each step keeps holds after a run.
-/
theorem history_invariant {I : List ο → σ → Prop} {P : σ → ε → Prop}
    (hinit : I [] m.init)
    (hstep : ∀ t s e, I t s → P s e → I (t ++ (m.step s e).2) (m.step s e).1)
    (es : List ε) (hp : m.AllSteps P m.init es) : I (m.trace es) (m.run es) := by
  simpa [trace, run] using m.historyFrom_invariant hstep es [] m.init hinit hp

/-- An invariant that sees the events taken so far. -/
theorem events_invariant {I : List ε → σ → Prop} {P : σ → ε → Prop}
    (hinit : I [] m.init)
    (hstep : ∀ h s e, I h s → P s e → I (h ++ [e]) (m.step s e).1)
    (es : List ε) (hp : m.AllSteps P m.init es) : I es (m.run es) := by
  induction es using List.reverseRecOn with
  | nil => exact hinit
  | append_singleton es e ih =>
      rw [allSteps_append] at hp
      rw [run_concat]
      exact hstep es (m.run es) e (ih hp.1) hp.2.1

/-! ## A machine that remembers -/

/-- The machine with the outputs so far in its state, for conditions on a step
that depend on them. -/
def withHistory : Machine (List ο × σ) ε ο where
  init := ([], m.init)
  step s e := ((s.1 ++ (m.step s.2 e).2, (m.step s.2 e).1), (m.step s.2 e).2)

theorem historyFrom_invariant_of {I : List ο → σ → Prop} {P : List ο × σ → ε → Prop}
    (hstep : ∀ t s e, I t s → P (t, s) e → I (t ++ (m.step s e).2) (m.step s e).1) :
    ∀ (es : List ε) (t : List ο) (s : σ), I t s → m.withHistory.AllSteps P (t, s) es →
      I (t ++ m.traceFrom s es) (m.runFrom s es)
  | [], t, s, hs, _ => by simpa using hs
  | e :: es, t, s, hs, hp => by
      have h := historyFrom_invariant_of hstep es (t ++ (m.step s e).2) (m.step s e).1
        (hstep t s e hs hp.1) hp.2
      simpa [List.append_assoc] using h

/-- An invariant of the outputs and the state, where the steps meet a condition
on both. -/
theorem history_invariant_of {I : List ο → σ → Prop} {P : List ο × σ → ε → Prop}
    (hinit : I [] m.init)
    (hstep : ∀ t s e, I t s → P (t, s) e → I (t ++ (m.step s e).2) (m.step s e).1)
    (es : List ε) (hp : m.withHistory.AllSteps P m.withHistory.init es) :
    I (m.trace es) (m.run es) := by
  simpa [trace, run] using m.historyFrom_invariant_of hstep es [] m.init hinit hp

/-! ## Properties of a trace -/

/-- Each output of `t` satisfies `Q` with respect to what came before it,
the outputs `seen` first. -/
def Always (Q : List ο → ο → Prop) (seen : List ο) : List ο → Prop
  | [] => True
  | x :: t => Q seen x ∧ Always Q (seen ++ [x]) t

theorem always_append (Q : List ο → ο → Prop) (seen t u : List ο) :
    Always Q seen (t ++ u) ↔ Always Q seen t ∧ Always Q (seen ++ t) u := by
  induction t generalizing seen with
  | nil => simp [Always]
  | cons x t ih => simp [Always, ih, and_assoc]

/-- A condition on every output is one on each way to cut the trace at an
output. -/
theorem always_iff_split (Q : List ο → ο → Prop) (seen t : List ο) :
    Always Q seen t ↔ ∀ A x B, t = A ++ x :: B → Q (seen ++ A) x := by
  constructor
  · rintro h A x B rfl
    rw [always_append] at h
    exact h.2.1
  · intro h
    induction t generalizing seen with
    | nil => trivial
    | cons x t ih =>
        refine ⟨by simpa using h [] x t rfl, ih _ ?_⟩
        rintro A y B rfl
        simpa using h (x :: A) y B rfl

/-- Outputs that satisfy `Q` whatever came before. -/
theorem always_of_forall {Q : List ο → ο → Prop} (seen : List ο) {t : List ο}
    (h : ∀ x ∈ t, ∀ A, Q A x) : Always Q seen t := by
  rw [always_iff_split]
  rintro A x B rfl
  exact h x (by simp) _

/-! ## Two machines on the same events -/

/-- Steps that keep `R` and show the same observations give runs that
show the same observations. The observation need not split everywhere,
only after the outputs of a step. -/
theorem simulation {σ' ο' ω : Type} (n : Machine σ' ε ο') (R : σ → σ' → Prop)
    (P : σ → ε → Prop) (obs : List ο → List ω) (obs' : List ο' → List ω)
    (hobs : ∀ s e t, obs ((m.step s e).2 ++ t) = obs (m.step s e).2 ++ obs t)
    (hobs' : ∀ t u, obs' (t ++ u) = obs' t ++ obs' u)
    (hstep : ∀ s s' e, R s s' → P s e →
      R (m.step s e).1 (n.step s' e).1 ∧ obs (m.step s e).2 = obs' (n.step s' e).2)
    (hnil : obs [] = obs' []) :
    ∀ (es : List ε) (s : σ) (s' : σ'), R s s' → m.AllSteps P s es →
      obs (m.traceFrom s es) = obs' (n.traceFrom s' es)
  | [], _, _, _, _ => hnil
  | e :: es, s, s', hR, hp => by
      obtain ⟨hR', ho⟩ := hstep s s' e hR hp.1
      rw [traceFrom_cons, traceFrom_cons, hobs, hobs', ho,
        simulation n R P obs obs' hobs hobs' hstep hnil es _ _ hR' hp.2]

end Machine

end Bootmux.Lib
