/-
Bootmux.Lib.Process — programs made of atomic actions over a state that
they share with others.

An action reads the state, changes it in one go and shows a label; what
comes next may depend on what it has read. `run` is a program left alone
and `step` its next action among those of others. `Safe` says something of
each action that a program can still take while the others change the state
in a given way only, `Upto` of each action before and after a label. Both
compose like the programs do. An `Attempt` is a program that ends without a
result when it fails.

`Safe` is the rule for one party among others: between two actions of the
program the others may do what `R` allows, and every action does what `A`
says. `Upto` is for programs that come to one action after which less is
allowed. `Attempt` adds failures; `Does` says what such a program shows and
returns, and `Ends` connects what it has shown with what it returns.

Each of them has a rule for `pure`, for one action, for `bind` and for
loops, so a proof follows the text of a program.
-/
import Mathlib.Data.List.Basic

namespace Bootmux.Lib

/-- A program over `S` that shows labels `ο` and ends with an `α`. -/
inductive Prog (S ο α : Type) where
  | done (a : α)
  /-- The label, the change and the rest are those of the state it is taken in. -/
  | act (label : S → ο) (effect : S → S) (next : S → Prog S ο α)

namespace Prog

variable {S ο α β γ : Type}

def bind : Prog S ο α → (α → Prog S ο β) → Prog S ο β
  | done a, f => f a
  | act label effect next, f => act label effect fun s => (next s).bind f

instance : Monad (Prog S ο) where
  pure := done
  bind := bind

/-- A program that ends at once adds nothing to the one before it. -/
theorem bind_pure_eq (p : Prog S ο α) : p.bind done = p := by
  induction p with
  | done a => rfl
  | act label effect next ih => exact congrArg (act label effect) (funext ih)

/-- Programs may be grouped either way. -/
theorem bind_assoc_eq (p : Prog S ο α) (f : α → Prog S ο β) (g : β → Prog S ο γ) :
    (p.bind f).bind g = p.bind fun a => (f a).bind g := by
  induction p with
  | done a => rfl
  | act label effect next ih => exact congrArg (act label effect) (funext ih)

instance : LawfulMonad (Prog S ο) :=
  LawfulMonad.mk' _ bind_pure_eq (fun _ _ => rfl) bind_assoc_eq

/-- One action that answers with `answer`. -/
def action (label : S → ο) (effect : S → S) (answer : S → α) : Prog S ο α :=
  act label effect fun s => done (answer s)

/-! ## A program alone -/

/-- The state and the result of a program that nobody disturbs. -/
def run : Prog S ο α → S → S × α
  | done a, s => (s, a)
  | act _ effect next, s => (next s).run (effect s)

/-- What it shows on the way. -/
def labels : Prog S ο α → S → List ο
  | done _, _ => []
  | act label effect next, s => label s :: (next s).labels (effect s)

@[simp] theorem run_pure (a : α) (s : S) : (pure a : Prog S ο α).run s = (s, a) := rfl

@[simp] theorem run_action (label : S → ο) (effect : S → S) (answer : S → α) (s : S) :
    (action label effect answer).run s = (effect s, answer s) := rfl

@[simp] theorem run_bind (p : Prog S ο α) (f : α → Prog S ο β) (s : S) :
    (p >>= f).run s = (f (p.run s).2).run (p.run s).1 := by
  induction p generalizing s with
  | done a => rfl
  | act label effect next ih => exact ih s (effect s)

@[simp] theorem labels_pure (a : α) (s : S) : (pure a : Prog S ο α).labels s = [] := rfl

@[simp] theorem labels_bind (p : Prog S ο α) (f : α → Prog S ο β) (s : S) :
    (p >>= f).labels s = p.labels s ++ (f (p.run s).2).labels (p.run s).1 := by
  induction p generalizing s with
  | done a => rfl
  | act label effect next ih => exact congrArg (label s :: ·) (ih s (effect s))

/-- A loop of programs runs as a fold of their runs. -/
theorem run_foldlM (f : β → α → Prog S ο β) (init : β) (xs : List α) (s : S) :
    (xs.foldlM f init).run s = xs.foldl (fun acc x => (f acc.2 x).run acc.1) (s, init) := by
  induction xs generalizing init s with
  | nil => rfl
  | cons x xs ih =>
      rw [List.foldlM_cons, run_bind, ih]
      rfl

/-! ## A program among others -/

/-- The next action: its label, the state after it and the rest. -/
def step : Prog S ο α → S → Option (ο × S × Prog S ο α)
  | done _, _ => none
  | act label effect next, s => some (label s, effect s, next s)

/-- From `s` on, where others change the state by `R` between two actions,
`A` holds of every action: of its label, the state before and the one after. -/
def Safe (R : S → S → Prop) (A : ο → S → S → Prop) : Prog S ο α → S → Prop
  | done _, _ => True
  | act label effect next, s => ∀ t, R s t → A (label t) t (effect t) ∧
      (next t).Safe R A (effect t)

variable {R : S → S → Prop} {A : ο → S → S → Prop}

/-- A program that does nothing is safe. -/
theorem safe_pure (a : α) (s : S) : (pure a : Prog S ο α).Safe R A s := trivial

/-- One action is safe if every state the others may leave allows it. -/
theorem safe_action {label : S → ο} {effect : S → S} {answer : S → α} {s : S}
    (h : ∀ t, R s t → A (label t) t (effect t)) : (action label effect answer).Safe R A s :=
  fun t ht => ⟨h t ht, trivial⟩

/-- Safe programs one after the other are safe. -/
theorem Safe.bind {p : Prog S ο α} {f : α → Prog S ο β} {s : S} (hp : p.Safe R A s)
    (hf : ∀ a t, (f a).Safe R A t) : (p >>= f).Safe R A s := by
  induction p generalizing s with
  | done a => exact hf a s
  | act label effect next ih => exact fun t ht => ⟨(hp t ht).1, ih t (hp t ht).2⟩

/-- A loop is safe if its body is, from any state. -/
theorem safe_foldlM {f : β → α → Prog S ο β} {xs : List α}
    (hf : ∀ acc, ∀ x ∈ xs, ∀ t, (f acc x).Safe R A t) (init : β) (s : S) :
    (xs.foldlM f init).Safe R A s := by
  induction xs generalizing init s with
  | nil => exact safe_pure init s
  | cons x xs ih =>
      rw [List.foldlM_cons]
      exact (hf init x List.mem_cons_self s).bind
        fun acc t => ih (fun acc y hy => hf acc y (List.mem_cons_of_mem _ hy)) acc t

/-- The next action is as it should be, and so is the rest. -/
theorem Safe.step {p : Prog S ο α} {s t : S} (hp : p.Safe R A s) (ht : R s t) {after : S}
    {label : ο} {rest : Prog S ο α} (h : p.step t = some (label, after, rest)) :
    A label t after ∧ rest.Safe R A after := by
  cases p with
  | done a => cases h
  | act l effect next =>
      cases h
      exact hp t ht

/-- Actions of others that are in `R`. -/
theorem Safe.others (htrans : ∀ a b c, R a b → R b c → R a c) {p : Prog S ο α} {s t : S}
    (hp : p.Safe R A s) (ht : R s t) : p.Safe R A t := by
  cases p with
  | done a => trivial
  | act label effect next => exact fun u hu => hp u (htrans s t u ht hu)

/-! ## Up to a label -/

/-- `A` holds of every action up to the first with a label in `B`, that one
included, and `C` of those after it. -/
def Upto (B : ο → Prop) (A C : ο → S → S → Prop) : Prog S ο α → Prop
  | done _ => True
  | act label effect next => ∀ s, A (label s) s (effect s) ∧
      ((B (label s) ∧ (next s).Safe (fun _ _ => True) C (effect s)) ∨
        (¬B (label s) ∧ (next s).Upto B A C))

variable {B : ο → Prop} {C : ο → S → S → Prop}

theorem Upto.bind {p : Prog S ο α} {f : α → Prog S ο β} (hp : p.Upto B A C)
    (hf : ∀ a, (f a).Upto B A C) (hafter : ∀ a t, (f a).Safe (fun _ _ => True) C t) :
    (p >>= f).Upto B A C := by
  induction p with
  | done a => exact hf a
  | act label effect next ih =>
      intro s
      refine ⟨(hp s).1, (hp s).2.imp ?_ ?_⟩
      · rintro ⟨hlabel, hnext⟩
        exact ⟨hlabel, hnext.bind hafter⟩
      · rintro ⟨hlabel, hnext⟩
        exact ⟨hlabel, ih s hnext⟩

/-- A program that shows no `B` may come before one that is safe up to `B`. -/
theorem Safe.bind_upto {p : Prog S ο α} {f : α → Prog S ο β} {s : S}
    (hp : p.Safe (fun _ _ => True) (fun l s t => ¬B l ∧ A l s t) s)
    (hf : ∀ a, (f a).Upto B A C) : (p >>= f).Upto B A C := by
  induction p generalizing s with
  | done a => exact hf a
  | act label effect next ih =>
      intro t
      obtain ⟨⟨hlabel, haction⟩, hnext⟩ := hp t trivial
      exact ⟨haction, .inr ⟨hlabel, ih t hnext⟩⟩

theorem upto_action {label : S → ο} {effect : S → S} {answer : S → α} {f : α → Prog S ο β}
    (hlabel : ∀ s, B (label s)) (haction : ∀ s, A (label s) s (effect s))
    (hafter : ∀ a t, (f a).Safe (fun _ _ => True) C t) :
    (action label effect answer >>= f).Upto B A C :=
  fun s => ⟨haction s, .inl ⟨hlabel s, hafter (answer s) (effect s)⟩⟩

/-- After a step that shows `B` the rest is safe, after any other it is safe
up to `B`. -/
theorem Upto.step {p : Prog S ο α} (hp : p.Upto B A C) {s after : S} {label : ο}
    {rest : Prog S ο α} (h : p.step s = some (label, after, rest)) :
    A label s after ∧ ((B label ∧ rest.Safe (fun _ _ => True) C after) ∨
      (¬B label ∧ rest.Upto B A C)) := by
  cases p with
  | done a => cases h
  | act l effect next =>
      cases h
      exact hp s

end Prog

/-! ## Programs that can fail -/

/-- A program that ends with nothing when it fails. -/
abbrev Attempt (S ο α : Type) : Type := OptionT (Prog S ο) α

namespace Attempt

variable {S ο α β : Type}

/-- One action, which fails where it has no answer. -/
def action (label : S → ο) (effect : S → S) (answer : S → Option α) : Attempt S ο α :=
  .mk (.action label effect answer)

/-- A value, or a failure without an action. -/
def ofOption (a : Option α) : Attempt S ο α := .mk (pure a)

/-- What it shows when nobody disturbs it. -/
def labels (p : Attempt S ο α) (s : S) : List ο := Prog.labels p.run s

def after (p : Attempt S ο α) (s : S) : S := (Prog.run p.run s).1

def result (p : Attempt S ο α) (s : S) : Option α := (Prog.run p.run s).2

section Run

variable (s : S)

@[simp] theorem labels_pure (a : α) : (pure a : Attempt S ο α).labels s = [] := rfl

@[simp] theorem after_pure (a : α) : (pure a : Attempt S ο α).after s = s := rfl

@[simp] theorem result_pure (a : α) : (pure a : Attempt S ο α).result s = some a := rfl

@[simp] theorem labels_ofOption (a : Option α) : (ofOption a : Attempt S ο α).labels s = [] := rfl

@[simp] theorem after_ofOption (a : Option α) : (ofOption a : Attempt S ο α).after s = s := rfl

@[simp] theorem result_ofOption (a : Option α) : (ofOption a : Attempt S ο α).result s = a := rfl

variable (label : S → ο) (effect : S → S) (answer : S → Option α)

@[simp] theorem labels_action : (action label effect answer).labels s = [label s] := rfl

@[simp] theorem after_action : (action label effect answer).after s = effect s := rfl

@[simp] theorem result_action : (action label effect answer).result s = answer s := rfl

variable (p : Attempt S ο α) (f : α → Attempt S ο β)

theorem run_bind : (p >>= f).run = p.run >>= fun a =>
    match a with
    | some a => (f a).run
    | none => pure none := rfl

@[simp] theorem labels_bind : (p >>= f).labels s =
    p.labels s ++ (p.result s).elim [] fun a => (f a).labels (p.after s) := by
  rw [labels, run_bind, Prog.labels_bind]
  change _ ++ _ = _ ++ Option.elim (Prog.run p.run s).2 _ _
  cases (Prog.run p.run s).2 <;> rfl

@[simp] theorem after_bind : (p >>= f).after s =
    (p.result s).elim (p.after s) fun a => (f a).after (p.after s) := by
  rw [after, run_bind, Prog.run_bind]
  change _ = Option.elim (Prog.run p.run s).2 _ _
  cases (Prog.run p.run s).2 <;> rfl

@[simp] theorem result_bind : (p >>= f).result s =
    (p.result s).bind fun a => (f a).result (p.after s) := by
  rw [result, run_bind, Prog.run_bind]
  change _ = Option.bind (Prog.run p.run s).2 _
  cases (Prog.run p.run s).2 <;> rfl

end Run

/-! ### What it shows and ends with -/

/-- Whatever it is started in, what it shows is in `A` and its result, if any,
in `P`. -/
def Does (A : ο → Prop) (P : α → Prop) (p : Attempt S ο α) : Prop :=
  ∀ s, (∀ label ∈ p.labels s, A label) ∧ ∀ a, p.result s = some a → P a

variable {A : ο → Prop} {P : α → Prop} {Q : β → Prop} {p : Attempt S ο α}
  {f : α → Attempt S ο β}

/-- An attempt that returns at once does nothing. -/
theorem does_pure {a : α} (h : P a) : Does A P (pure a : Attempt S ο α) := by
  intro s
  refine ⟨by simp, ?_⟩
  rintro b ⟨⟩
  exact h

/-- A value that may be missing is no action. -/
theorem does_ofOption {a : Option α} (h : ∀ b, a = some b → P b) :
    Does A P (ofOption a : Attempt S ο α) :=
  fun s => ⟨by simp, fun b hb => h b hb⟩

theorem does_action {label : S → ο} {effect : S → S} {answer : S → Option α}
    (h : ∀ s, A (label s)) (hanswer : ∀ s a, answer s = some a → P a) :
    Does A P (action label effect answer) :=
  fun s => ⟨by simpa using h s, hanswer s⟩

theorem Does.bind (hp : Does A P p) (hf : ∀ a, P a → Does A Q (f a)) : Does A Q (p >>= f) := by
  intro s
  obtain ⟨hlabels, hresult⟩ := hp s
  cases ha : p.result s with
  | none => simpa [ha] using hlabels
  | some a =>
      obtain ⟨hrest, hb⟩ := hf a (hresult a ha) (p.after s)
      refine ⟨fun label hlabel => ?_, fun b hresult => hb b (by simpa [ha] using hresult)⟩
      rw [labels_bind, ha] at hlabel
      exact (List.mem_append.mp hlabel).elim (hlabels label) (hrest label)

/-- What is allowed may be widened. -/
theorem Does.mono {B : ο → Prop} {R : α → Prop} (hp : Does A P p) (hA : ∀ label, A label → B label)
    (hP : ∀ a, P a → R a) : Does B R p :=
  fun s => ⟨fun label hlabel => hA label ((hp s).1 label hlabel),
    fun a ha => hP a ((hp s).2 a ha)⟩

/-- An attempt for each element does what one of them may. -/
theorem does_mapM {xs : List α} {g : α → Attempt S ο β} (h : ∀ x, Does A (fun _ => True) (g x)) :
    Does A (fun _ => True) (xs.mapM g) := by
  induction xs with
  | nil => exact does_pure trivial
  | cons x xs ih =>
      rw [List.mapM_cons]
      exact (h x).bind fun y _ => ih.bind fun ys _ => does_pure trivial

/-- Where it ends with a result, `P` holds of what it has shown and the result. -/
def Ends (P : List ο → α → Prop) (p : Attempt S ο α) : Prop :=
  ∀ s a, p.result s = some a → P (p.labels s) a

theorem Ends.bind {P : List ο → α → Prop} {Q : List ο → β → Prop} (hp : Ends P p)
    (hf : ∀ seen a, P seen a → Ends (fun more b => Q (seen ++ more) b) (f a)) :
    Ends Q (p >>= f) := by
  intro s b hresult
  rw [result_bind, Option.bind_eq_some_iff] at hresult
  obtain ⟨a, ha, hb⟩ := hresult
  rw [labels_bind, ha]
  exact hf _ a (hp s a ha) _ b hb

/-- An attempt that returns at once ends with nothing seen. -/
theorem ends_pure {P : List ο → α → Prop} {a : α} (h : P [] a) :
    Ends P (pure a : Attempt S ο α) := by
  rintro s b ⟨⟩
  exact h

/-- A value that may be missing ends with nothing seen. -/
theorem ends_ofOption {P : List ο → α → Prop} {a : Option α} (h : ∀ b, a = some b → P [] b) :
    Ends P (ofOption a : Attempt S ο α) :=
  fun _ b hb => h b hb

theorem ends_action {P : List ο → α → Prop} {label : S → ο} {effect : S → S}
    {answer : S → Option α} (h : ∀ s a, answer s = some a → P [label s] a) :
    Ends P (action label effect answer) :=
  fun s a ha => h s a ha

/-- What an attempt may do is what it has been seen doing. -/
theorem Does.ends (hp : Does A P p) :
    Ends (fun seen a => (∀ label ∈ seen, A label) ∧ P a) p :=
  fun s a ha => ⟨(hp s).1, (hp s).2 a ha⟩

/-- Two facts on how an attempt ends hold together. -/
theorem Ends.and {P Q : List ο → α → Prop} (hP : Ends P p) (hQ : Ends Q p) :
    Ends (fun seen a => P seen a ∧ Q seen a) p :=
  fun s a ha => ⟨hP s a ha, hQ s a ha⟩

/-- A fact on how an attempt ends may be widened. -/
theorem Ends.mono {P Q : List ο → α → Prop} (hP : Ends P p) (h : ∀ seen a, P seen a → Q seen a) :
    Ends Q p :=
  fun s a ha => h _ a (hP s a ha)

/-- Nothing is asked of a result. -/
theorem ends_true : Ends (fun _ _ => True) p := fun _ _ _ => trivial

end Attempt

end Bootmux.Lib
