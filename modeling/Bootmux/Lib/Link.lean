/-
Bootmux.Lib.Link — two machines with a channel each way.

A `Party` is a machine at one end: what its outputs put on the channel,
and the event that the arrival of a message is. A state of the link is
what each party has taken so far and what is on the way, so that a run of
the link gives a run of each party at once (`LinkState.left`,
`LinkState.right`), and results about the parties apply as they are.

`Link.rule` is the induction: a step is an event of one party by itself
or an arrival at one of them, or, on a link that can fail, the loss of
everything on the way. From it, what arrives is what was said, in order
(`heard_said`), with nothing missing on a link that does not fail
(`faithful_rule`).
-/
import Bootmux.Lib.Machine

namespace Bootmux.Lib

/-- One end of a link. `hears` is the event that the arrival of a message
is, if it is one, with what the environment adds; it waits until the state
`admits` it. `own` are the events that are no arrivals. -/
structure Party (σ ε ο μ ν ι : Type) where
  machine : Machine σ ε ο
  emits : ο → List μ
  admits : σ → ι → Bool
  hears : ι → ν → Option ε
  own : σ → ε → Bool

/-- What the parties have taken, what they have heard, and what is on the
way. -/
structure LinkState (ε₁ ε₂ μ ν : Type) where
  left : List ε₁
  right : List ε₂
  heardLeft : List ν
  heardRight : List μ
  toLeft : List ν
  toRight : List μ

inductive LinkEvent (ε₁ ε₂ ι₁ ι₂ : Type) where
  | left (e : ε₁)
  | right (e : ε₂)
  | arriveLeft (i : ι₁)
  | arriveRight (i : ι₂)
  | lose

/-- A link; `fails` is whether messages can be lost. -/
structure Link (σ₁ ε₁ ο₁ ι₁ σ₂ ε₂ ο₂ ι₂ μ ν : Type) where
  left : Party σ₁ ε₁ ο₁ μ ν ι₁
  right : Party σ₂ ε₂ ο₂ ν μ ι₂
  fails : Bool

namespace Party

variable {σ ε ο μ ν ι : Type} (p : Party σ ε ο μ ν ι)

/-- What a party has said in a run. -/
def said (es : List ε) : List μ := (p.machine.trace es).flatMap p.emits

/-- What it says when it takes an event. -/
def answers (es : List ε) (e : ε) : List μ :=
  (p.machine.step (p.machine.run es) e).2.flatMap p.emits

/-- One more event adds its own answers to what a party has said. -/
theorem said_concat (es : List ε) (e : ε) : p.said (es ++ [e]) = p.said es ++ p.answers es e := by
  rw [said, Machine.trace_concat, List.flatMap_append]
  rfl

/-- The events after the arrival of a message. -/
def after (es : List ε) (i : ι) (m : ν) : List ε := es ++ (p.hears i m).toList

/-- What it says to a message. -/
def replies (es : List ε) (i : ι) (m : ν) : List μ :=
  (p.hears i m).toList.flatMap (p.answers es)

/-- A message that is heard adds the replies to it. -/
theorem said_after (es : List ε) (i : ι) (m : ν) :
    p.said (p.after es i m) = p.said es ++ p.replies es i m := by
  unfold after replies
  cases p.hears i m with
  | none => simp
  | some e => simpa using p.said_concat es e

end Party

namespace Link

variable {σ₁ ε₁ ο₁ ι₁ σ₂ ε₂ ο₂ ι₂ μ ν : Type} (L : Link σ₁ ε₁ ο₁ ι₁ σ₂ ε₂ ο₂ ι₂ μ ν)

abbrev State (_ : Link σ₁ ε₁ ο₁ ι₁ σ₂ ε₂ ο₂ ι₂ μ ν) : Type := LinkState ε₁ ε₂ μ ν

/-- An event of a party by itself. -/
def takeLeft (s : L.State) (e : ε₁) : L.State :=
  { s with left := s.left ++ [e], toRight := s.toRight ++ L.left.answers s.left e }

def takeRight (s : L.State) (e : ε₂) : L.State :=
  { s with right := s.right ++ [e], toLeft := s.toLeft ++ L.right.answers s.right e }

/-- The arrival of the first message on the way, which leaves `rest`. -/
def hearLeft (s : L.State) (i : ι₁) (m : ν) (rest : List ν) : L.State :=
  { s with
    left := L.left.after s.left i m
    heardLeft := s.heardLeft ++ [m]
    toLeft := rest
    toRight := s.toRight ++ L.left.replies s.left i m }

def hearRight (s : L.State) (i : ι₂) (m : μ) (rest : List μ) : L.State :=
  { s with
    right := L.right.after s.right i m
    heardRight := s.heardRight ++ [m]
    toRight := rest
    toLeft := s.toLeft ++ L.right.replies s.right i m }

/-- What is on the way is lost. -/
def drop (s : L.State) : L.State := { s with toLeft := [], toRight := [] }

def step (s : L.State) : LinkEvent ε₁ ε₂ ι₁ ι₂ → L.State
  | .left e => if L.left.own (L.left.machine.run s.left) e then L.takeLeft s e else s
  | .right e => if L.right.own (L.right.machine.run s.right) e then L.takeRight s e else s
  | .arriveLeft i =>
      match s.toLeft with
      | [] => s
      | m :: rest =>
          if L.left.admits (L.left.machine.run s.left) i then L.hearLeft s i m rest else s
  | .arriveRight i =>
      match s.toRight with
      | [] => s
      | m :: rest =>
          if L.right.admits (L.right.machine.run s.right) i then L.hearRight s i m rest else s
  | .lose => if L.fails then L.drop s else s

def machine : Machine L.State (LinkEvent ε₁ ε₂ ι₁ ι₂) Empty where
  init := ⟨[], [], [], [], [], []⟩
  step s e := (L.step s e, [])

/-- The state of the link after a run. -/
def run (es : List (LinkEvent ε₁ ε₂ ι₁ ι₂)) : L.State := L.machine.run es

/-! ## The induction -/

/-- What every kind of step keeps holds after every run. -/
theorem rule {P : L.State → Prop} (init : P ⟨[], [], [], [], [], []⟩)
    (left : ∀ s e, P s → L.left.own (L.left.machine.run s.left) e = true → P (L.takeLeft s e))
    (right : ∀ s e, P s → L.right.own (L.right.machine.run s.right) e = true →
      P (L.takeRight s e))
    (arriveLeft : ∀ s i m rest, P s → s.toLeft = m :: rest →
      L.left.admits (L.left.machine.run s.left) i = true → P (L.hearLeft s i m rest))
    (arriveRight : ∀ s i m rest, P s → s.toRight = m :: rest →
      L.right.admits (L.right.machine.run s.right) i = true → P (L.hearRight s i m rest))
    (lose : ∀ s, P s → L.fails = true → P (L.drop s)) (es : List (LinkEvent ε₁ ε₂ ι₁ ι₂)) :
    P (L.run es) := by
  refine L.machine.run_invariant init (fun s e h => ?_) es
  show P (L.step s e)
  cases e with
  | left e =>
      simp only [step]
      split
      · next hown => exact left s e h hown
      · exact h
  | right e =>
      simp only [step]
      split
      · next hown => exact right s e h hown
      · exact h
  | arriveLeft i =>
      simp only [step]
      split
      · exact h
      · next m rest hway =>
          split
          · next hadmits => exact arriveLeft s i m rest h hway hadmits
          · exact h
  | arriveRight i =>
      simp only [step]
      split
      · exact h
      · next m rest hway =>
          split
          · next hadmits => exact arriveRight s i m rest h hway hadmits
          · exact h
  | lose =>
      simp only [step]
      split
      · next hfails => exact lose s h hfails
      · exact h

/-! ## What arrives is what was said -/

/-- What was heard and what is on the way was said, in this order. -/
theorem heard_said (es : List (LinkEvent ε₁ ε₂ ι₁ ι₂)) :
    ((L.run es).heardRight ++ (L.run es).toRight).Sublist (L.left.said (L.run es).left) ∧
      ((L.run es).heardLeft ++ (L.run es).toLeft).Sublist (L.right.said (L.run es).right) := by
  refine L.rule (P := fun s => (s.heardRight ++ s.toRight).Sublist (L.left.said s.left) ∧
    (s.heardLeft ++ s.toLeft).Sublist (L.right.said s.right)) ?_ ?_ ?_ ?_ ?_ ?_ es
  · exact ⟨List.Sublist.refl [], List.Sublist.refl []⟩
  · rintro s e ⟨hright, hleft⟩ -
    refine ⟨?_, hleft⟩
    simp only [takeLeft, Party.said_concat, ← List.append_assoc]
    exact hright.append (List.Sublist.refl _)
  · rintro s e ⟨hright, hleft⟩ -
    refine ⟨hright, ?_⟩
    simp only [takeRight, Party.said_concat, ← List.append_assoc]
    exact hleft.append (List.Sublist.refl _)
  · rintro s i m rest ⟨hright, hleft⟩ hway -
    rw [hway] at hleft
    simp only [hearLeft, Party.said_after, ← List.append_assoc]
    exact ⟨hright.append (List.Sublist.refl _), by simpa using hleft⟩
  · rintro s i m rest ⟨hright, hleft⟩ hway -
    rw [hway] at hright
    simp only [hearRight, Party.said_after, ← List.append_assoc]
    exact ⟨by simpa using hright, hleft.append (List.Sublist.refl _)⟩
  · rintro s ⟨hright, hleft⟩ -
    simp only [drop, List.append_nil]
    exact ⟨(List.sublist_append_left _ _).trans hright, (List.sublist_append_left _ _).trans hleft⟩

/-- Nothing is missing: what was heard and what is on the way is what was
said. -/
structure Whole (s : L.State) : Prop where
  right : s.heardRight ++ s.toRight = L.left.said s.left
  left : s.heardLeft ++ s.toLeft = L.right.said s.right

namespace Whole

variable {L} {s : L.State}

/-- An event of the left party keeps both ways whole. -/
theorem takeLeft (h : L.Whole s) (e : ε₁) : L.Whole (L.takeLeft s e) where
  right := by simp only [Link.takeLeft, Party.said_concat, ← List.append_assoc, h.right]
  left := h.left

/-- An event of the right party keeps both ways whole. -/
theorem takeRight (h : L.Whole s) (e : ε₂) : L.Whole (L.takeRight s e) where
  right := h.right
  left := by simp only [Link.takeRight, Party.said_concat, ← List.append_assoc, h.left]

/-- What the left party hears next is the front of its way. -/
theorem hearLeft (h : L.Whole s) {i : ι₁} {m : ν} {rest : List ν} (hway : s.toLeft = m :: rest) :
    L.Whole (L.hearLeft s i m rest) where
  right := by simp only [Link.hearLeft, Party.said_after, ← List.append_assoc, h.right]
  left := by
    have hleft := h.left
    rw [hway] at hleft
    simpa [Link.hearLeft] using hleft

/-- What the right party hears next is the front of its way. -/
theorem hearRight (h : L.Whole s) {i : ι₂} {m : μ} {rest : List μ}
    (hway : s.toRight = m :: rest) : L.Whole (L.hearRight s i m rest) where
  right := by
    have hright := h.right
    rw [hway] at hright
    simpa [Link.hearRight] using hright
  left := by simp only [Link.hearRight, Party.said_after, ← List.append_assoc, h.left]

end Whole

/-- The induction on a link that does not fail. What arrives is the next
message that was said and not heard. -/
theorem faithful_rule (hfails : L.fails = false) {P : L.State → Prop}
    (init : P ⟨[], [], [], [], [], []⟩)
    (left : ∀ s e, P s → L.left.own (L.left.machine.run s.left) e = true → P (L.takeLeft s e))
    (right : ∀ s e, P s → L.right.own (L.right.machine.run s.right) e = true →
      P (L.takeRight s e))
    (arriveLeft : ∀ s i m rest, P s → L.right.said s.right = s.heardLeft ++ m :: rest →
      L.left.admits (L.left.machine.run s.left) i = true → P (L.hearLeft s i m rest))
    (arriveRight : ∀ s i m rest, P s → L.left.said s.left = s.heardRight ++ m :: rest →
      L.right.admits (L.right.machine.run s.right) i = true → P (L.hearRight s i m rest))
    (es : List (LinkEvent ε₁ ε₂ ι₁ ι₂)) : L.Whole (L.run es) ∧ P (L.run es) := by
  refine L.rule (P := fun s => L.Whole s ∧ P s) ⟨⟨rfl, rfl⟩, init⟩ ?_ ?_ ?_ ?_ ?_ es
  · rintro s e ⟨hwhole, h⟩ hown
    exact ⟨hwhole.takeLeft e, left s e h hown⟩
  · rintro s e ⟨hwhole, h⟩ hown
    exact ⟨hwhole.takeRight e, right s e h hown⟩
  · rintro s i m rest ⟨hwhole, h⟩ hway hadmits
    exact ⟨hwhole.hearLeft hway,
      arriveLeft s i m rest h (by rw [← hwhole.left, hway]) hadmits⟩
  · rintro s i m rest ⟨hwhole, h⟩ hway hadmits
    exact ⟨hwhole.hearRight hway,
      arriveRight s i m rest h (by rw [← hwhole.right, hway]) hadmits⟩
  · rintro s - hlost
    rw [hfails] at hlost
    cases hlost

end Link

end Bootmux.Lib
