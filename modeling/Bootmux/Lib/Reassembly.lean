/-
Bootmux.Lib.Reassembly — a bounded reassembly buffer for one message at
a time, kept as an array of parts, an array of received flags, the key
and part count of the message in progress, and the time it began. The
key `0` means that the buffer is idle.

`offer` is the receive path: a part of another message replaces the one
in progress, an idle buffer begins with the part, an expired message is
dropped, a part already received is ignored, and the message is
complete once every flag below its part count is set.

Each operation also emits `Mark`s, the record of what happened to the
buffer. Where a part in the buffer came from is stated over the marks:
`Fresh ends marks p` says that `p` was stored and nothing that `ends` a
message has been recorded since. Two invariants are kept along runs:

* `SinceClear` — every flagged part was stored since the last clear.
  This needs nothing.
* `OneMessage` — while the message in progress is not complete, every
  flagged part was stored since the last clear or completion and
  carries the key and the part count of the message in progress. This
  needs offers with non-zero keys: the idle sentinel is a key like any
  other on the wire, and a message sent under it never owns the buffer.
-/
import Mathlib.Data.UInt

namespace Bootmux.Lib.Reassembly

/-- One part of a message, within the bounds the receiver has checked:
`index < total ≤ cap`. `origin` is carried along and never inspected. -/
structure Part (cap : Nat) (κ α β : Type) where
  key : κ
  total : Nat
  index : Nat
  payload : β
  origin : α
  index_lt : index < total
  total_le : total ≤ cap

/-- What happened to a buffer. -/
inductive Mark (cap : Nat) (κ α β : Type) where
  | store (p : Part cap κ α β)
  | clear
  | complete (key : κ)
  | assemble (key : κ) (parts : List β)

/-- The arrays are total functions; the bounds of `Part` keep every index
that is used below `cap`. -/
structure Buffer (cap : Nat) (κ τ β : Type) where
  key : κ
  total : Nat
  started : τ
  parts : Nat → β
  received : Nat → Bool

inductive Outcome where
  | expired
  | waiting
  | complete
  deriving DecidableEq, Repr

variable {cap : Nat} {κ τ α β : Type}

/-! ## Marks -/

def Mark.isClear : Mark cap κ α β → Bool
  | .clear => true
  | _ => false

/-- The marks after which no stored part may be used: a clear, and the
completion of a message. -/
def Mark.ends : Mark cap κ α β → Bool
  | .clear => true
  | .complete _ => true
  | _ => false

/-- `p` was stored, and no mark that `ends` a message came after it. -/
def Fresh (ends : Mark cap κ α β → Bool) (marks : List (Mark cap κ α β))
    (p : Part cap κ α β) : Prop :=
  ∃ before after, marks = before ++ .store p :: after ∧ ∀ m ∈ after, ends m = false

/-- A part stays fresh as long as nothing clears the buffer. -/
theorem Fresh.append {ends : Mark cap κ α β → Bool} {marks more : List (Mark cap κ α β)}
    {p : Part cap κ α β} (h : Fresh ends marks p) (hm : ∀ m ∈ more, ends m = false) :
    Fresh ends (marks ++ more) p := by
  obtain ⟨before, after, rfl, ha⟩ := h
  refine ⟨before, after ++ more, by simp, ?_⟩
  intro m hmem
  rcases List.mem_append.mp hmem with h | h
  · exact ha m h
  · exact hm m h

/-- A part that was just stored is fresh. -/
theorem fresh_store (ends : Mark cap κ α β → Bool) (marks : List (Mark cap κ α β))
    (p : Part cap κ α β) : Fresh ends (marks ++ [.store p]) p :=
  ⟨marks, [], rfl, by simp⟩

/-! ## Operations -/

/-- Every part below `n` has been received. -/
def Buffer.full (b : Buffer cap κ τ β) (n : Nat) : Bool :=
  (List.range n).all b.received

/-- The parts of the message in progress, in order. -/
def Buffer.message (b : Buffer cap κ τ β) : List β :=
  (List.range b.total).map b.parts

def Buffer.store (b : Buffer cap κ τ β) (p : Part cap κ α β) :
    Buffer cap κ τ β × List (Mark cap κ α β) :=
  if b.received p.index then (b, [])
  else
    ({ b with
        parts := Function.update b.parts p.index p.payload
        received := Function.update b.received p.index true },
      [.store p])

/-- Full is that every place below the count has its part. -/
theorem Buffer.full_iff (b : Buffer cap κ τ β) (n : Nat) :
    b.full n = true ↔ ∀ i < n, b.received i = true := by
  simp [Buffer.full]

/-- A message has as many parts as it said. -/
theorem Buffer.message_length (b : Buffer cap κ τ β) : b.message.length = b.total := by
  simp [Buffer.message]

@[simp] theorem Buffer.store_key (b : Buffer cap κ τ β) (p : Part cap κ α β) :
    (b.store p).1.key = b.key := by
  unfold Buffer.store; split <;> rfl

@[simp] theorem Buffer.store_total (b : Buffer cap κ τ β) (p : Part cap κ α β) :
    (b.store p).1.total = b.total := by
  unfold Buffer.store; split <;> rfl

@[simp] theorem Buffer.store_started (b : Buffer cap κ τ β) (p : Part cap κ α β) :
    (b.store p).1.started = b.started := by
  unfold Buffer.store; split <;> rfl

/-- A stored part fills its own place and no other. -/
theorem Buffer.store_received (b : Buffer cap κ τ β) (p : Part cap κ α β) (i : Nat) :
    (b.store p).1.received i = (b.received i || decide (i = p.index)) := by
  unfold Buffer.store
  split
  · by_cases hi : i = p.index
    · subst hi; simp_all
    · simp [hi]
  · by_cases hi : i = p.index
    · subst hi; simp
    · simp [hi]

section Receive

variable [Zero κ] [DecidableEq κ]

/-- Whether a part belongs to a message other than the one in progress. -/
def Buffer.replaces (b : Buffer cap κ τ β) (p : Part cap κ α β) : Bool :=
  b.key != 0 && (b.key != p.key || b.total != p.total)

def Buffer.begin (b : Buffer cap κ τ β) (now : τ) (p : Part cap κ α β) : Buffer cap κ τ β :=
  if b.key = 0 then { b with key := p.key, total := p.total, started := now } else b

@[simp] theorem Buffer.begin_received (b : Buffer cap κ τ β) (now : τ)
    (p : Part cap κ α β) : (b.begin now p).received = b.received := by
  unfold Buffer.begin; split <;> rfl

@[simp] theorem Buffer.begin_parts (b : Buffer cap κ τ β) (now : τ)
    (p : Part cap κ α β) : (b.begin now p).parts = b.parts := by
  unfold Buffer.begin; split <;> rfl

end Receive

/-- The idle buffer, which is also what clearing leaves. -/
def Buffer.empty [Zero κ] [Zero τ] [Inhabited β] : Buffer cap κ τ β where
  key := 0
  total := 0
  started := 0
  parts := fun _ => default
  received := fun _ => false

@[simp] theorem Buffer.empty_key [Zero κ] [Zero τ] [Inhabited β] :
    (Buffer.empty : Buffer cap κ τ β).key = 0 := rfl

@[simp] theorem Buffer.empty_received [Zero κ] [Zero τ] [Inhabited β] (i : Nat) :
    (Buffer.empty : Buffer cap κ τ β).received i = false := rfl

variable [Zero κ] [DecidableEq κ] [Zero τ] [Inhabited β]

/-- The buffer the offered part is stored into: emptied when the part
replaces the message in progress, and begun when it is idle. -/
def Buffer.accept (b : Buffer cap κ τ β) (now : τ) (p : Part cap κ α β) :
    Buffer cap κ τ β × List (Mark cap κ α β) :=
  if b.replaces p then (Buffer.empty.begin now p, [.clear]) else (b.begin now p, [])

/-- The receive path, from the replacement check to the completion check. -/
def Buffer.offer (b : Buffer cap κ τ β) (now : τ) (expired : τ → Bool)
    (p : Part cap κ α β) : Buffer cap κ τ β × List (Mark cap κ α β) × Outcome :=
  let admitted := b.accept now p
  if expired admitted.1.started then (Buffer.empty, admitted.2 ++ [.clear], .expired)
  else
    let stored := admitted.1.store p
    (stored.1, admitted.2 ++ stored.2,
      if stored.1.full p.total then .complete else .waiting)

/-- Once admitted, the buffer works on the message of the offered part. -/
theorem Buffer.accept_key_total (b : Buffer cap κ τ β) (now : τ) (p : Part cap κ α β) :
    (b.accept now p).1.key = p.key ∧ (b.accept now p).1.total = p.total := by
  unfold Buffer.accept
  by_cases hr : b.replaces p = true
  · simp [hr, Buffer.begin]
  · simp only [hr, Bool.false_eq_true, if_false]
    simp only [Buffer.replaces, Bool.and_eq_true, Bool.or_eq_true, bne_iff_ne, ne_eq] at hr
    unfold Buffer.begin
    split
    · exact ⟨rfl, rfl⟩
    · rename_i h0
      constructor
      · by_contra hk; exact hr ⟨h0, Or.inl hk⟩
      · by_contra ht; exact hr ⟨h0, Or.inr ht⟩

/-- The three ways a part is admitted: into an emptied buffer, into an
idle one, or into the message it belongs to. -/
theorem Buffer.accept_cases (b : Buffer cap κ τ β) (now : τ) (p : Part cap κ α β) :
    (b.replaces p = true ∧ b.accept now p = (Buffer.empty.begin now p, [.clear])) ∨
    (b.key = 0 ∧ (b.accept now p).2 = [] ∧
      (b.accept now p).1 = { b with key := p.key, total := p.total, started := now }) ∨
    (b.key ≠ 0 ∧ b.key = p.key ∧ b.total = p.total ∧ b.accept now p = (b, [])) := by
  by_cases hr : b.replaces p = true
  · exact Or.inl ⟨hr, by simp [Buffer.accept, hr]⟩
  · by_cases h0 : b.key = 0
    · exact Or.inr (Or.inl ⟨h0, by simp [Buffer.accept, hr], by
        simp [Buffer.accept, hr, Buffer.begin, h0]⟩)
    · have ha : b.accept now p = (b, []) := by simp [Buffer.accept, hr, Buffer.begin, h0]
      have hkt := b.accept_key_total now p
      rw [ha] at hkt
      exact Or.inr (Or.inr ⟨h0, hkt.1, hkt.2, ha⟩)

/-! ## The invariants -/

/-- Every flagged part was stored since the last clear, by `σ`. -/
def SinceClear (σ : α) (marks : List (Mark cap κ α β)) (b : Buffer cap κ τ β) : Prop :=
  ∀ i, b.received i = true → ∃ p : Part cap κ α β, Fresh Mark.isClear marks p ∧
    p.index = i ∧ p.payload = b.parts i ∧ p.origin = σ

/-- While the message in progress is not complete, every flagged part
belongs to it, was sent by `σ`, and was stored since the last clear or
completion; an idle buffer has no flagged part. -/
def OneMessage (σ : α) (marks : List (Mark cap κ α β)) (b : Buffer cap κ τ β) : Prop :=
  (b.key = 0 → ∀ i, b.received i = false) ∧
  (b.full b.total = false → ∀ i, b.received i = true → ∃ p : Part cap κ α β,
    Fresh Mark.ends marks p ∧ p.index = i ∧ p.payload = b.parts i ∧
      p.key = b.key ∧ p.total = b.total ∧ p.origin = σ)

omit [DecidableEq κ] in
theorem sinceClear_empty (σ : α) (marks : List (Mark cap κ α β)) :
    SinceClear σ marks (Buffer.empty : Buffer cap κ τ β) := by
  intro i hi; simp at hi

omit [DecidableEq κ] in
theorem oneMessage_empty (σ : α) (marks : List (Mark cap κ α β)) :
    OneMessage σ marks (Buffer.empty : Buffer cap κ τ β) :=
  ⟨fun _ _ => rfl, fun _ i hi => by simp at hi⟩

omit [Zero κ] [DecidableEq κ] [Zero τ] [Inhabited β] in
/-- Storing a part keeps what was known of the others and adds the
stored one. `Q` is whatever is known of a part beside its place. -/
theorem store_known {Q : Part cap κ α β → Prop} {ends : Mark cap κ α β → Bool}
    {marks : List (Mark cap κ α β)} {b : Buffer cap κ τ β} {p : Part cap κ α β}
    (hstore : ∀ q, ends (.store q) = false) (hp : Q p)
    (hb : ∀ i, b.received i = true → ∃ q, Fresh ends marks q ∧ q.index = i ∧
      q.payload = b.parts i ∧ Q q) :
    ∀ i, (b.store p).1.received i = true → ∃ q, Fresh ends (marks ++ (b.store p).2) q ∧
      q.index = i ∧ q.payload = (b.store p).1.parts i ∧ Q q := by
  intro i hi
  by_cases hr : b.received p.index = true
  · simp only [Buffer.store, hr, if_true, List.append_nil] at hi ⊢
    exact hb i hi
  · simp only [Buffer.store, hr, Bool.false_eq_true, if_false] at hi ⊢
    by_cases heq : i = p.index
    · exact ⟨p, fresh_store ends marks p, heq.symm, by simp [heq], hp⟩
    · rw [Function.update_of_ne heq] at hi
      obtain ⟨q, hq, hqi, hqp, hQ⟩ := hb i hi
      exact ⟨q, hq.append (by simp [hstore]), hqi, by simpa [heq] using hqp, hQ⟩

/-- What is flagged after admitting a part was flagged before, or the
buffer was emptied. -/
theorem accept_known {Q : Part cap κ α β → Prop} {ends : Mark cap κ α β → Bool}
    {marks : List (Mark cap κ α β)} {b : Buffer cap κ τ β} {p : Part cap κ α β} (now : τ)
    (hb : ∀ i, b.received i = true → ∃ q, Fresh ends marks q ∧ q.index = i ∧
      q.payload = b.parts i ∧ Q q) :
    ∀ i, (b.accept now p).1.received i = true →
      ∃ q, Fresh ends (marks ++ (b.accept now p).2) q ∧ q.index = i ∧
        q.payload = (b.accept now p).1.parts i ∧ Q q := by
  intro i hi
  rcases b.accept_cases now p with ⟨_, h2⟩ | ⟨_, h1, h2⟩ | ⟨_, _, _, h⟩
  · rw [h2] at hi; simp at hi
  · rw [h2] at hi ⊢; rw [h1, List.append_nil]; exact hb i hi
  · rw [h] at hi ⊢; simpa using hb i hi

/-- An offered part keeps what is known of the buffer since it was cleared. -/
theorem offer_sinceClear {σ : α} {marks : List (Mark cap κ α β)} {b : Buffer cap κ τ β}
    (h : SinceClear σ marks b) (now : τ) (expired : τ → Bool) {p : Part cap κ α β}
    (hp : p.origin = σ) :
    SinceClear σ (marks ++ (b.offer now expired p).2.1) (b.offer now expired p).1 := by
  unfold Buffer.offer
  simp only []
  split
  · exact sinceClear_empty σ _
  · rw [← List.append_assoc]
    exact store_known (Q := fun q => q.origin = σ) (fun _ => rfl) hp (accept_known now h)

/-- The part an incomplete message is built from, after one more offer. -/
theorem offer_known {σ : α} {marks : List (Mark cap κ α β)} {b : Buffer cap κ τ β}
    (h : OneMessage σ marks b) (now : τ) {p : Part cap κ α β} (hp : p.origin = σ)
    (hnew : ¬ (b.key = p.key ∧ b.total = p.total ∧ b.full b.total = true)) :
    ∀ i, ((b.accept now p).1.store p).1.received i = true →
      ∃ q, Fresh Mark.ends (marks ++ (b.accept now p).2 ++ ((b.accept now p).1.store p).2) q ∧
        q.index = i ∧ q.payload = ((b.accept now p).1.store p).1.parts i ∧
        q.key = p.key ∧ q.total = p.total ∧ q.origin = σ := by
  refine store_known (Q := fun q => q.key = p.key ∧ q.total = p.total ∧ q.origin = σ)
    (fun _ => rfl) ⟨rfl, rfl, hp⟩ ?_
  intro i hi
  rcases b.accept_cases now p with ⟨_, h2⟩ | ⟨h0, _, h2⟩ | ⟨_, hk, ht, ha⟩
  · rw [h2] at hi; simp at hi
  · rw [h2] at hi; rw [h.1 h0 i] at hi; simp at hi
  · -- the part joins its own message, which is not complete yet
    have hfull : b.full b.total = false := by
      by_contra hf; exact hnew ⟨hk, ht, by simpa using hf⟩
    rw [ha] at hi ⊢
    obtain ⟨q, hq, hqi, hqp, hqk, hqt, hqo⟩ := h.2 hfull i hi
    exact ⟨q, by simpa using hq, hqi, hqp, hqk.trans hk, hqt.trans ht, hqo⟩

/-- An offered part keeps the buffer to one message. -/
theorem offer_oneMessage {σ : α} {marks : List (Mark cap κ α β)} {b : Buffer cap κ τ β}
    (h : OneMessage σ marks b) (now : τ) (expired : τ → Bool) {p : Part cap κ α β}
    (hp : p.origin = σ) (hkey : p.key ≠ 0) :
    OneMessage σ (marks ++ (b.offer now expired p).2.1) (b.offer now expired p).1 := by
  obtain ⟨hk, ht⟩ := b.accept_key_total now p
  unfold Buffer.offer
  simp only []
  split
  · exact oneMessage_empty σ _
  · refine ⟨fun h0 => absurd (by simpa [hk] using h0) hkey, fun hfull => ?_⟩
    rw [← List.append_assoc]
    simp only [Buffer.store_key, Buffer.store_total, hk, ht] at hfull ⊢
    refine offer_known h now hp ?_
    rintro ⟨hbk, hbt, hbf⟩
    -- a complete message stays complete: the offer changes no flag of it
    have ha : b.accept now p = (b, []) := by
      rcases b.accept_cases now p with ⟨hr, _⟩ | ⟨h0, _⟩ | ⟨_, _, _, ha⟩
      · simp [Buffer.replaces, hbk, hbt] at hr
      · exact absurd (hbk ▸ h0) hkey
      · exact ha
    rw [ha] at hfull
    rw [Buffer.full_iff] at hbf
    have : ((b.store p).1.full p.total) = true := by
      rw [Buffer.full_iff]
      intro i hi
      rw [Buffer.store_received, hbf i (hbt ▸ hi)]
      rfl
    rw [this] at hfull
    exact Bool.noConfusion hfull

omit [DecidableEq κ] [Zero τ] [Inhabited β] in
/-- A completion mark on a complete message keeps the invariant. -/
theorem OneMessage.complete {σ : α} {marks : List (Mark cap κ α β)} {b : Buffer cap κ τ β}
    (h : OneMessage σ marks b) (hfull : b.full b.total = true)
    (more : List (Mark cap κ α β)) : OneMessage σ (marks ++ more) b :=
  ⟨h.1, fun hf => by rw [hfull] at hf; exact Bool.noConfusion hf⟩

/-- What a completed offer leaves in the buffer. -/
theorem offer_complete {b : Buffer cap κ τ β} {now : τ} {expired : τ → Bool}
    {p : Part cap κ α β} (hc : (b.offer now expired p).2.2 = .complete) :
    (b.offer now expired p).1 = ((b.accept now p).1.store p).1 ∧
      (b.offer now expired p).2.1 =
        (b.accept now p).2 ++ ((b.accept now p).1.store p).2 ∧
      (b.offer now expired p).1.total = p.total ∧
      (b.offer now expired p).1.full p.total = true := by
  obtain ⟨_, ht⟩ := b.accept_key_total now p
  unfold Buffer.offer at hc ⊢
  simp only [] at hc ⊢
  split at hc
  · cases hc
  · rename_i he
    simp only [he, Bool.false_eq_true, if_false]
    split at hc
    · rename_i hf; exact ⟨trivial, trivial, by simp [ht], hf⟩
    · cases hc

/-- **The parts of a completed message belong to it.** When an offer
completes a message that was not complete already, every part of it was
stored since the last clear or completion, under the key, part count
and origin of the offered part. -/
theorem offer_complete_fresh {σ : α} {marks : List (Mark cap κ α β)} {b : Buffer cap κ τ β}
    (h : OneMessage σ marks b) {now : τ} {expired : τ → Bool} {p : Part cap κ α β}
    (hp : p.origin = σ) (hc : (b.offer now expired p).2.2 = .complete)
    (hnew : ¬ (b.key = p.key ∧ b.total = p.total ∧ b.full b.total = true)) :
    ∀ i < p.total, ∃ q : Part cap κ α β,
      Fresh Mark.ends (marks ++ (b.offer now expired p).2.1) q ∧ q.index = i ∧
        (b.offer now expired p).1.message[i]? = some q.payload ∧
        q.key = p.key ∧ q.total = p.total ∧ q.origin = σ := by
  intro i hi
  obtain ⟨hb, hm, ht, hf⟩ := offer_complete hc
  obtain ⟨q, hq, hqi, hqp, hrest⟩ := offer_known h now hp hnew i
    (hb ▸ (Buffer.full_iff _ _).mp hf i hi)
  refine ⟨q, by rw [hm, ← List.append_assoc]; exact hq, hqi, ?_, hrest⟩
  rw [Buffer.message, ht, hqp, ← hb]
  simp [hi]

/-! ## A whole reception

What a client does with a complete message is one of three endings: it
leaves the buffer as it is, drops it, or uses the message and drops it.
The completion mark comes last in each. -/

inductive Ending where
  | kept
  | dropped
  | used
  deriving DecidableEq, Repr

def Buffer.finish (b : Buffer cap κ τ β) (key : κ) :
    Ending → Buffer cap κ τ β × List (Mark cap κ α β)
  | .kept => (b, [.complete key])
  | .dropped => (Buffer.empty, [.clear, .complete key])
  | .used => (Buffer.empty, [.assemble key b.message, .clear, .complete key])

/-- An offer, and the ending if it completes the message. -/
def Buffer.receive (b : Buffer cap κ τ β) (now : τ) (expired : τ → Bool) (p : Part cap κ α β)
    (ending : Ending) : Buffer cap κ τ β × List (Mark cap κ α β) :=
  let r := b.offer now expired p
  match r.2.2 with
  | .complete => ((r.1.finish (α := α) p.key ending).1, r.2.1 ++ (r.1.finish p.key ending).2)
  | _ => (r.1, r.2.1)

/-- A part completes the message, or the buffer goes on as offered. -/
theorem Buffer.receive_cases (b : Buffer cap κ τ β) (now : τ) (expired : τ → Bool)
    (p : Part cap κ α β) (ending : Ending) :
    ((b.offer now expired p).2.2 ≠ .complete ∧
      b.receive now expired p ending =
        ((b.offer now expired p).1, (b.offer now expired p).2.1)) ∨
    ((b.offer now expired p).2.2 = .complete ∧
      b.receive now expired p ending =
        (((b.offer now expired p).1.finish (α := α) p.key ending).1,
          (b.offer now expired p).2.1 ++
            ((b.offer now expired p).1.finish p.key ending).2)) := by
  unfold Buffer.receive
  simp only []
  split
  · rename_i hc; exact Or.inr ⟨hc, rfl⟩
  · rename_i hc; exact Or.inl ⟨hc, rfl⟩

/-- Nothing but the ending `used` assembles a message. -/
theorem offer_no_assemble (b : Buffer cap κ τ β) (now : τ) (expired : τ → Bool)
    (p : Part cap κ α β) (key : κ) (parts : List β) :
    .assemble key parts ∉ (b.offer now expired p).2.1 := by
  have haccept : .assemble key parts ∉ (b.accept now p).2 := by
    rcases b.accept_cases now p with ⟨_, h⟩ | ⟨_, h, _⟩ | ⟨_, _, _, h⟩ <;> rw [h] <;> simp
  have hstore : .assemble key parts ∉ ((b.accept now p).1.store p).2 := by
    unfold Buffer.store
    split <;> simp
  unfold Buffer.offer
  simp only []
  split
  · simp [haccept]
  · simp [haccept, hstore]

/-- The only part an offer stores is the one offered. -/
theorem offer_store {b : Buffer cap κ τ β} {now : τ} {expired : τ → Bool}
    {p q : Part cap κ α β} (h : .store q ∈ (b.offer now expired p).2.1) : q = p := by
  have haccept : .store q ∉ (b.accept now p).2 := by
    rcases b.accept_cases now p with ⟨_, h⟩ | ⟨_, h, _⟩ | ⟨_, _, _, h⟩ <;> rw [h] <;> simp
  unfold Buffer.offer at h
  simp only [] at h
  split at h
  · simp [haccept] at h
  · rcases List.mem_append.mp h with h | h
    · exact absurd h haccept
    · unfold Buffer.store at h
      split at h
      · simp at h
      · simpa using h

/-- The only part that is stored is the one received. -/
theorem receive_store {b : Buffer cap κ τ β} {now : τ} {expired : τ → Bool}
    {p q : Part cap κ α β} {ending : Ending}
    (h : .store q ∈ (b.receive now expired p ending).2) : q = p := by
  rcases b.receive_cases now expired p ending with ⟨_, hr⟩ | ⟨_, hr⟩ <;> rw [hr] at h
  · exact offer_store h
  · rcases List.mem_append.mp h with h | h
    · exact offer_store h
    · cases ending <;> simp [Buffer.finish] at h

/-- A reception under a non-zero key keeps the invariant. -/
theorem receive_oneMessage {σ : α} {marks : List (Mark cap κ α β)} {b : Buffer cap κ τ β}
    (h : OneMessage σ marks b) (now : τ) (expired : τ → Bool) {p : Part cap κ α β}
    (hp : p.origin = σ) (hkey : p.key ≠ 0) (ending : Ending) :
    OneMessage σ (marks ++ (b.receive now expired p ending).2)
      (b.receive now expired p ending).1 := by
  have hoffer := offer_oneMessage h now expired hp hkey
  rcases b.receive_cases now expired p ending with ⟨_, hr⟩ | ⟨hc, hr⟩ <;> rw [hr]
  · exact hoffer
  · obtain ⟨_, _, htotal, hfull⟩ := offer_complete hc
    rw [← List.append_assoc]
    cases ending with
    | kept => exact hoffer.complete (by rw [htotal]; exact hfull) _
    | dropped => exact oneMessage_empty σ _
    | used => exact oneMessage_empty σ _

/-- The message in the buffer is complete already and the same as that of
`p`. -/
def Buffer.holdsComplete (b : Buffer cap κ τ β) (p : Part cap κ α β) : Bool :=
  b.key == p.key && b.total == p.total && b.full b.total

/-- **An assembled message is one message.** Each part was stored since
the last clear or completion, under the key, part count and origin of
the part that completed it. -/
theorem receive_assemble {σ : α} {marks : List (Mark cap κ α β)} {b : Buffer cap κ τ β}
    (h : OneMessage σ marks b) {now : τ} {expired : τ → Bool} {p : Part cap κ α β}
    (hp : p.origin = σ) {ending : Ending}
    (hnew : ¬ (b.holdsComplete p = true ∧ ending = .used))
    {A B : List (Mark cap κ α β)} {key : κ} {parts : List β}
    (hmarks : (b.receive now expired p ending).2 = A ++ .assemble key parts :: B) :
    key = p.key ∧ parts.length = p.total ∧
    ∀ i < parts.length, ∃ q : Part cap κ α β, Fresh Mark.ends (marks ++ A) q ∧
      q.index = i ∧ parts[i]? = some q.payload ∧ q.key = key ∧ q.total = parts.length ∧
        q.origin = σ := by
  have hmem : .assemble key parts ∈ (b.receive now expired p ending).2 := by
    rw [hmarks]
    simp
  rcases b.receive_cases now expired p ending with ⟨_, hr⟩ | ⟨hc, hr⟩ <;>
    rw [hr] at hmarks hmem
  · exact absurd hmem (offer_no_assemble b now expired p key parts)
  · -- the assembling mark is the one of the ending, so `A` is the offer's
    cases ending with
    | kept => simp [Buffer.finish, offer_no_assemble] at hmem
    | dropped => simp [Buffer.finish, offer_no_assemble] at hmem
    | used =>
        obtain ⟨hA, hassemble, _⟩ := (List.append_cons_inj_of_notMem
          (offer_no_assemble b now expired p key parts) (by simp)).mp hmarks
        obtain ⟨rfl, rfl⟩ : p.key = key ∧ (b.offer now expired p).1.message = parts := by
          simpa using hassemble
        obtain ⟨_, _, htotal, _⟩ := offer_complete hc
        have hlen : (b.offer now expired p).1.message.length = p.total := by
          rw [Buffer.message_length, htotal]
        refine ⟨rfl, hlen, fun i hi => ?_⟩
        rw [hlen] at hi ⊢
        rw [← hA]
        refine offer_complete_fresh h hp hc ?_ i hi
        rintro ⟨hk, ht, hf⟩
        exact hnew ⟨by simp [Buffer.holdsComplete, hk, ← ht, hf], rfl⟩

/-- A buffer whose complete messages never stay is never complete. -/
theorem receive_notFull {b : Buffer cap κ τ β} {now : τ} {expired : τ → Bool}
    {p : Part cap κ α β} {ending : Ending} (he : ending ≠ .kept) :
    (b.receive now expired p ending).1.key = 0 ∨
      (b.receive now expired p ending).1.full
        (b.receive now expired p ending).1.total = false := by
  obtain ⟨_, htotal⟩ := b.accept_key_total now p
  rcases b.receive_cases now expired p ending with ⟨hc, hr⟩ | ⟨_, hr⟩ <;> rw [hr]
  · unfold Buffer.offer at hc ⊢
    simp only [] at hc ⊢
    split
    · exact Or.inl rfl
    · rename_i hexp
      right
      rw [if_neg hexp] at hc
      simp only [] at hc
      rw [Buffer.store_total, htotal]
      by_contra hf
      rw [Bool.not_eq_false] at hf
      rw [if_pos hf] at hc
      exact hc rfl
  · cases ending with
    | kept => exact absurd rfl he
    | dropped => exact Or.inl rfl
    | used => exact Or.inl rfl

/-- A part that replaces the message in progress is offered to an idle
buffer. -/
theorem offer_replaces {b : Buffer cap κ τ β} {p : Part cap κ α β} (h : b.replaces p = true)
    (now : τ) (expired : τ → Bool) :
    (b.offer now expired p).1 = (Buffer.empty.offer now expired p).1 ∧
      (b.offer now expired p).2.2 = (Buffer.empty.offer now expired p).2.2 := by
  have hempty : (Buffer.empty : Buffer cap κ τ β).replaces p = false := by
    simp [Buffer.replaces]
  have haccept : (b.accept now p).1 = (Buffer.empty.accept now p).1 := by
    simp [Buffer.accept, h, hempty]
  unfold Buffer.offer
  simp only [haccept]
  split <;> exact ⟨rfl, rfl⟩

/-! ## Collecting one message

What an idle buffer makes of the parts of a single message, offered in
any order and any number of times: `got` are the indices offered so far
and `chunk` is what the message has there. -/

/-- The buffer is idle or works on the message, begun in good time. -/
def Owned (key : κ) (total : Nat) (timely : τ → Prop) (b : Buffer cap κ τ β) : Prop :=
  b.key = 0 ∨ (b.key = key ∧ b.total = total ∧ timely b.started)

/-- The buffer holds the parts in `got`, and no others. -/
structure Collects (key : κ) (total : Nat) (timely : τ → Prop) (chunk : Nat → β)
    (got : Nat → Prop) (b : Buffer cap κ τ β) : Prop where
  owned : Owned key total timely b
  flags : ∀ i, b.received i = true ↔ got i
  parts : ∀ i, got i → b.parts i = chunk i

omit [DecidableEq κ] [Zero τ] [Inhabited β] in
theorem Owned.mono {key : κ} {total : Nat} {timely timely' : τ → Prop} {b : Buffer cap κ τ β}
    (h : Owned key total timely b) (ht : ∀ t, timely t → timely' t) :
    Owned key total timely' b :=
  h.imp_right fun ⟨hk, hn, hs⟩ => ⟨hk, hn, ht _ hs⟩

/-- A part of the message is stored, in good time. -/
theorem offer_owned {key : κ} {total : Nat} {timely : τ → Prop} {b : Buffer cap κ τ β}
    (h : Owned key total timely b) (now : τ) (expired : τ → Bool) {p : Part cap κ α β}
    (hkey : p.key = key) (htotal : p.total = total) (hnow : timely now)
    (hexp : ∀ t, timely t → expired t = false) :
    Owned key total timely (b.offer now expired p).1 ∧
    (b.accept now p).1.received = b.received ∧ (b.accept now p).1.parts = b.parts ∧
    (b.offer now expired p).1 = ((b.accept now p).1.store p).1 ∧
    (b.offer now expired p).2.2 =
      if (b.offer now expired p).1.full total then .complete else .waiting := by
  have haccept : timely (b.accept now p).1.started ∧
      (b.accept now p).1.received = b.received ∧ (b.accept now p).1.parts = b.parts := by
    rcases b.accept_cases now p with ⟨hr, _⟩ | ⟨_, _, ha⟩ | ⟨h0, _, _, ha⟩
    · -- nothing is replaced: the message in progress is the same
      simp only [Buffer.replaces, Bool.and_eq_true, Bool.or_eq_true, bne_iff_ne, ne_eq] at hr
      rcases h with h0 | ⟨hk, hn, _⟩
      · exact absurd h0 hr.1
      · rcases hr.2 with hne | hne
        · exact absurd (hk.trans hkey.symm) hne
        · exact absurd (hn.trans htotal.symm) hne
    · rw [ha]; exact ⟨hnow, rfl, rfl⟩
    · rw [ha]
      rcases h with hz | ⟨_, _, hs⟩
      · exact absurd hz h0
      · exact ⟨hs, rfl, rfl⟩
  obtain ⟨hs, hrec, hparts⟩ := haccept
  obtain ⟨hk, hn⟩ := b.accept_key_total now p
  have hoffer : b.offer now expired p = (((b.accept now p).1.store p).1,
      (b.accept now p).2 ++ ((b.accept now p).1.store p).2,
      if ((b.accept now p).1.store p).1.full p.total then .complete else .waiting) := by
    unfold Buffer.offer
    simp only [hexp _ hs, Bool.false_eq_true, if_false]
  rw [hoffer]
  refine ⟨Or.inr ⟨?_, ?_, ?_⟩, hrec, hparts, rfl, by rw [htotal]⟩
  · rw [Buffer.store_key, hk, hkey]
  · rw [Buffer.store_total, hn, htotal]
  · rw [Buffer.store_started]; exact hs

/-- **One more part of the message.** The offer completes the message
exactly when every index has been offered, and then leaves its chunks. -/
theorem offer_collects {key : κ} {total : Nat} {timely : τ → Prop} {chunk : Nat → β}
    {got : Nat → Prop} {b : Buffer cap κ τ β} (h : Collects key total timely chunk got b)
    (now : τ) (expired : τ → Bool) {p : Part cap κ α β} (hkey : p.key = key)
    (htotal : p.total = total) (hchunk : p.payload = chunk p.index) (hnow : timely now)
    (hexp : ∀ t, timely t → expired t = false) :
    Collects key total timely chunk (fun i => got i ∨ i = p.index) (b.offer now expired p).1 ∧
    ((b.offer now expired p).2.2 = .waiting ∧ (∃ i < total, ¬ (got i ∨ i = p.index)) ∨
      (b.offer now expired p).2.2 = .complete ∧ (∀ i < total, got i ∨ i = p.index) ∧
        (b.offer now expired p).1.message = (List.range total).map chunk) := by
  obtain ⟨howned, hrec, hparts, hbuf, hout⟩ :=
    offer_owned h.owned now expired hkey htotal hnow hexp
  have hflags : ∀ i, (b.offer now expired p).1.received i = true ↔ got i ∨ i = p.index := by
    intro i
    rw [hbuf, Buffer.store_received, hrec, Bool.or_eq_true, decide_eq_true_eq, h.flags]
  have hcollects : Collects key total timely chunk (fun i => got i ∨ i = p.index)
      (b.offer now expired p).1 := by
    refine ⟨howned, hflags, fun i hi => ?_⟩
    rw [hbuf, Buffer.store, hrec, hparts]
    by_cases hr : b.received p.index = true
    · rw [if_pos hr, hparts]
      refine h.parts i ?_
      rcases hi with hi | rfl
      · exact hi
      · exact (h.flags _).mp hr
    · rw [if_neg hr]
      by_cases heq : i = p.index
      · subst heq; simp [hchunk]
      · simp only [Function.update_of_ne heq]
        exact h.parts i (hi.resolve_right heq)
  refine ⟨hcollects, ?_⟩
  rw [hout]
  by_cases hfull : (b.offer now expired p).1.full total = true
  · have hall : ∀ i < total, got i ∨ i = p.index := fun i hi =>
      (hflags i).mp ((Buffer.full_iff _ _).mp hfull i hi)
    refine Or.inr ⟨if_pos hfull, hall, ?_⟩
    have htot : (b.offer now expired p).1.total = total := by
      rw [hbuf, Buffer.store_total, (b.accept_key_total now p).2, htotal]
    rw [Buffer.message, htot]
    exact List.map_congr_left fun i hi => hcollects.parts i (hall i (List.mem_range.mp hi))
  · refine Or.inl ⟨if_neg hfull, ?_⟩
    by_contra hno
    refine hfull ((Buffer.full_iff _ _).mpr fun i hi => (hflags i).mpr ?_)
    by_contra hi'
    exact hno ⟨i, hi, hi'⟩

/-! ## Two buffers side by side

Buffers of two receivers that read different clocks: they agree on
everything but the time stamp, and `clock` relates their stamps. -/

section Alike

variable {cap' : Nat} {τ' α' : Type} [Zero τ']

structure Buffer.Alike (clock : τ → τ' → Prop) (b : Buffer cap κ τ β)
    (b' : Buffer cap' κ τ' β) : Prop where
  key : b.key = b'.key
  total : b.total = b'.total
  parts : b.parts = b'.parts
  received : b.received = b'.received
  started : b.key ≠ 0 → clock b.started b'.started

omit [DecidableEq κ] in
theorem Buffer.alike_empty (clock : τ → τ' → Prop) :
    (Buffer.empty : Buffer cap κ τ β).Alike clock (Buffer.empty : Buffer cap' κ τ' β) :=
  ⟨rfl, rfl, rfl, rfl, fun h => absurd rfl h⟩

omit [DecidableEq κ] [Zero τ] [Inhabited β] [Zero τ'] in
theorem Buffer.Alike.mono {clock clock' : τ → τ' → Prop} {b : Buffer cap κ τ β}
    {b' : Buffer cap' κ τ' β} (h : b.Alike clock b')
    (hclock : ∀ t t', clock t t' → clock' t t') : b.Alike clock' b' :=
  { h with started := fun h0 => hclock _ _ (h.started h0) }

omit [Zero κ] [DecidableEq κ] [Zero τ] [Inhabited β] [Zero τ'] in
/-- Full depends on what has been received only. -/
theorem Buffer.full_congr {b : Buffer cap κ τ β} {b' : Buffer cap' κ τ' β}
    (h : b.received = b'.received) (n : Nat) : b.full n = b'.full n := by
  rw [Buffer.full, Buffer.full, h]

omit [DecidableEq κ] [Zero τ] [Inhabited β] [Zero τ'] in
/-- Buffers that are alike give the same message. -/
theorem Buffer.Alike.message {clock : τ → τ' → Prop} {b : Buffer cap κ τ β}
    {b' : Buffer cap' κ τ' β} (h : b.Alike clock b') : b.message = b'.message := by
  rw [Buffer.message, Buffer.message, h.parts, h.total]

/-- Two parts that differ at most in their bounds and origin. -/
def Part.Alike (p : Part cap κ α β) (p' : Part cap' κ α' β) : Prop :=
  p.key = p'.key ∧ p.total = p'.total ∧ p.index = p'.index ∧ p.payload = p'.payload

/-- Offering the same part keeps buffers alike and has the same outcome. -/
theorem offer_alike {clock : τ → τ' → Prop} {b : Buffer cap κ τ β} {b' : Buffer cap' κ τ' β}
    (h : b.Alike clock b') {p : Part cap κ α β} {p' : Part cap' κ α' β} (hp : p.Alike p')
    {now : τ} {now' : τ'} (hnow : clock now now') {expired : τ → Bool} {expired' : τ' → Bool}
    (hexp : ∀ t t', clock t t' → expired t = expired' t') :
    (b.offer now expired p).1.Alike clock (b'.offer now' expired' p').1 ∧
      (b.offer now expired p).2.2 = (b'.offer now' expired' p').2.2 := by
  obtain ⟨hkey, htotal, hindex, hpayload⟩ := hp
  have hreplaces : b.replaces p = b'.replaces p' := by
    rw [Buffer.replaces, Buffer.replaces, h.key, h.total, hkey, htotal]
  -- after the part is admitted the stamps are related, idle or not
  have haccept : (b.accept now p).1.Alike clock (b'.accept now' p').1 ∧
      clock (b.accept now p).1.started (b'.accept now' p').1.started := by
    have hbegin : ∀ {c : Buffer cap κ τ β} {c' : Buffer cap' κ τ' β}, c.Alike clock c' →
        (c.begin now p).Alike clock (c'.begin now' p') ∧
          clock (c.begin now p).started (c'.begin now' p').started := by
      intro c c' hc
      unfold Buffer.begin
      by_cases h0 : c.key = 0
      · rw [if_pos h0, if_pos (hc.key ▸ h0)]
        exact ⟨⟨hkey, htotal, hc.parts, hc.received, fun _ => hnow⟩, hnow⟩
      · rw [if_neg h0, if_neg (hc.key ▸ h0)]
        exact ⟨hc, hc.started h0⟩
    unfold Buffer.accept
    rw [hreplaces]
    split
    · exact hbegin (Buffer.alike_empty clock)
    · exact hbegin h
  obtain ⟨ha, hstamp⟩ := haccept
  have hstore : ((b.accept now p).1.store p).1.Alike clock ((b'.accept now' p').1.store p').1 := by
    unfold Buffer.store
    rw [ha.received, hindex, hpayload]
    split
    · exact ha
    · exact ⟨ha.key, ha.total, by rw [ha.parts], rfl, ha.started⟩
  unfold Buffer.offer
  simp only []
  rw [hexp _ _ hstamp, htotal, Buffer.full_congr hstore.received]
  split
  · exact ⟨Buffer.alike_empty clock, rfl⟩
  · exact ⟨hstore, rfl⟩

end Alike

end Bootmux.Lib.Reassembly
