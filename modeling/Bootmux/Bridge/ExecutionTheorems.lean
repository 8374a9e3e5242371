/-
Bootmux.Bridge.ExecutionTheorems — what the keyboard bridge executes of
the operations it is sent.

A `Plan` says what a sequence number is for. When the frames that are
written keep to it (`Planned`) and come in the order of their places, no
place twice, the bridge executes operations of the plan in their order, each
at most once, and the answers that report an operation as done are given
to operations that were executed. `executes_run` says so for every run of
the device, whatever is lost of the frames on the way to `handleFrame`.

The cache of completed sequences is not what carries it: a text takes all
its parts, and after its last part there is none.

A place is a sequence number with the index of a part, so the order of the
places is the order in which the frames of the plan are written. The buffer
holds parts of one operation of the plan (`Holds`), and what was executed so
far is a sublist of the plan (`Executes`); a frame either moves the place of
the next operation or is one of an operation that is over.
-/
import Bootmux.Bridge.QueueTheorems

namespace Bootmux.Bridge

open Bootmux.Bmx1
open Bootmux.Lib
open Bootmux.Lib.Reassembly

/-! ## Plans -/

/-- What a sequence number is for: a text, in chunks, or a control. -/
inductive Work where
  | text (chunks : List Bytes)
  | control (name : Bytes)

/-- The keys it presses. -/
def Work.keys : Work → List Effect
  | .text chunks => typedKeys chunks.flatten
  | .control name => keysOf (controlKeys name)

/-- The index of its last frame. -/
def Work.last : Work → Nat
  | .text chunks => chunks.length - 1
  | .control _ => 0

abbrev Plan : Type := UInt32 → Option Work

def Plan.keys (plan : Plan) (q : UInt32) : List Effect := ((plan q).map Work.keys).getD []

/-- The operation is one of the plan; opening a session always is. -/
def Plan.Has (plan : Plan) : Op → Prop
  | .opened _ => True
  | .control _ q name => plan q = some (.control name)
  | .text p => ∃ chunks, plan p.key = some (.text chunks) ∧ p.total = chunks.length ∧
      p.payload = chunks.getD p.index []

/-- An answer that reports the operation as done. -/
def Plan.Reports (plan : Plan) (q : UInt32) : AckResult → Prop
  | .opened => False
  | .stopped => plan q = some (.control (ascii "STOP"))
  | _ => True

def Op.session : Op → Bytes
  | .opened session => session
  | .control session _ _ => session
  | .text p => p.origin

/-- The frame is one of the plan, under a valid session. -/
structure Planned (plan : Plan) (valid : Bytes → Prop) (bytes : Bytes) : Prop where
  has : ∀ op, frameOp bytes = some op → plan.Has op
  session : ∀ op, frameOp bytes = some op → valid op.session

/-- A plan that only got longer. -/
theorem Planned.mono {plan plan' : Plan} {valid : Bytes → Prop} {bytes : Bytes}
    (h : Planned plan valid bytes) (hplan : ∀ q w, plan q = some w → plan' q = some w) :
    Planned plan' valid bytes := by
  refine ⟨fun op hop => ?_, h.session⟩
  have hhas := h.has op hop
  cases op with
  | opened session => trivial
  | control session q name => exact hplan _ _ hhas
  | text p =>
      obtain ⟨chunks, htext, hrest⟩ := hhas
      exact ⟨chunks, hplan _ _ htext, hrest⟩

/-- Where a part of the plan stands among all the parts. -/
def placeOf (q : UInt32) (index : Nat) : Nat := q.toNat * kMaxParts + index

def Op.place : Op → Option Nat
  | .opened _ => none
  | .control _ q _ => some (placeOf q 0)
  | .text p => some (placeOf p.key p.index)

/-- The place of a frame, if it is one of an operation of the plan. -/
def place (bytes : Bytes) : Option Nat := (frameOp bytes).bind Op.place

/-! ## The buffer -/

/-- The buffer holds parts of the text its key is for, which were
handled. -/
def Holds (plan : Plan) (places : List Nat) (b : Buffer kMaxParts UInt32 UInt32 Bytes) : Prop :=
  ∀ i, b.received i = true → ∃ chunks, plan b.key = some (.text chunks) ∧
    b.total = chunks.length ∧ b.parts i = chunks.getD i [] ∧ placeOf b.key i ∈ places

section

variable {plan : Plan} {places : List Nat} {b : Buffer kMaxParts UInt32 UInt32 Bytes}
  {p : TextPart} {now : UInt32} {expired : UInt32 → Bool}

/-- The empty buffer holds parts of no plan. -/
theorem holds_empty (plan : Plan) (places : List Nat) : Holds plan places Buffer.empty :=
  fun _ h => by cases h

/-- More frames take nothing from the buffer. -/
theorem Holds.mono (h : Holds plan places b) (more : List Nat) : Holds plan (places ++ more) b := by
  intro i hi
  obtain ⟨chunks, hplan, htotal, hpart, hplace⟩ := h i hi
  exact ⟨chunks, hplan, htotal, hpart, List.mem_append_left _ hplace⟩

/-- A part of the plan that is accepted stays a part of the plan. -/
theorem Holds.accept (hzero : plan 0 = none) (h : Holds plan places b) :
    Holds plan places (b.accept now p).1 := by
  rcases b.accept_cases now p with ⟨-, hr⟩ | ⟨hidle, -, hr⟩ | ⟨-, -, -, hr⟩
  · rw [hr]
    intro i hi
    simp at hi
  · rw [hr]
    intro i hi
    obtain ⟨chunks, hplan, -⟩ := h i hi
    rw [hidle, hzero] at hplan
    cases hplan
  · rw [hr]
    exact h

/-- A stored part comes from a frame that has arrived. -/
theorem Holds.store (h : Holds plan places b) (hkey : b.key = p.key) (htotal : b.total = p.total)
    (hhas : plan.Has (.text p)) (hplace : placeOf p.key p.index ∈ places) :
    Holds plan places (b.store p).1 := by
  intro i hi
  rw [Buffer.store_key, Buffer.store_total]
  by_cases hstored : b.received p.index = true
  · have hsame : (b.store p).1 = b := by simp [Buffer.store, hstored]
    rw [hsame] at hi ⊢
    exact h i hi
  · have hparts : (b.store p).1.parts = Function.update b.parts p.index p.payload := by
      simp [Buffer.store, hstored]
    rw [hparts]
    by_cases hindex : i = p.index
    · subst hindex
      obtain ⟨chunks, hplan, hlength, hpayload⟩ := hhas
      exact ⟨chunks, hkey ▸ hplan, htotal.trans hlength, by simpa using hpayload, hkey ▸ hplace⟩
    · rw [Buffer.store_received, Bool.or_eq_true, decide_eq_true_eq] at hi
      obtain ⟨chunks, hplan, hlength, hpart, hmem⟩ := h i (hi.resolve_right hindex)
      exact ⟨chunks, hplan, hlength, by rwa [Function.update_of_ne hindex], hmem⟩

/-- An offered part of the plan leaves the buffer with parts of the plan. -/
theorem Holds.offer (hzero : plan 0 = none) (h : Holds plan places b) (hhas : plan.Has (.text p))
    (hplace : placeOf p.key p.index ∈ places) : Holds plan places (b.offer now expired p).1 := by
  obtain ⟨hkey, htotal⟩ := b.accept_key_total now p
  unfold Buffer.offer
  simp only
  split
  · exact holds_empty plan places
  · exact (h.accept hzero).store hkey htotal hhas hplace

/-- A complete message is the text of its key, and its last part was
handled. -/
theorem Holds.complete (h : Holds plan places (b.offer now expired p).1)
    (hhas : plan.Has (.text p)) (hc : (b.offer now expired p).2.2 = .complete) :
    ∃ chunks, plan p.key = some (.text chunks) ∧ (b.offer now expired p).1.message = chunks ∧
      p.index ≤ (Work.text chunks).last ∧ placeOf p.key (Work.text chunks).last ∈ places := by
  obtain ⟨hbuffer, -, htotal, hfull⟩ := offer_complete hc
  have hkey : (b.offer now expired p).1.key = p.key := by
    rw [hbuffer, Buffer.store_key]
    exact (b.accept_key_total now p).1
  obtain ⟨chunks, hplan, hlength, -⟩ := hhas
  have hpart : ∀ i < chunks.length, (b.offer now expired p).1.parts i = chunks.getD i [] ∧
      placeOf p.key i ∈ places := by
    intro i hi
    obtain ⟨chunks', hplan', -, hpart, hplace⟩ :=
      h i ((Buffer.full_iff _ _).mp hfull i (hlength ▸ hi))
    rw [hkey] at hplan' hplace
    obtain rfl : chunks' = chunks := by simpa [hplan] using hplan'.symm
    exact ⟨hpart, hplace⟩
  have hindex := p.index_lt
  refine ⟨chunks, hplan, ?_, ?_, (hpart _ ?_).2⟩
  · rw [Buffer.message, htotal, hlength]
    refine List.ext_getElem (by simp) fun i hi _ => ?_
    rw [List.length_map, List.length_range] at hi
    simpa [hi] using (hpart i hi).1
  · show p.index ≤ chunks.length - 1
    omega
  · show chunks.length - 1 < chunks.length
    omega

end

/-! ## What was executed -/

/-- After the frames were handled, `done` are the sequences of what was
executed: their keys are the keys that were pressed, and what was answered
as done is among them. -/
structure Executes (plan : Plan) (valid : Bytes → Prop) (frames : List Bytes) (t : List Effect)
    (s : State) (done : List UInt32) : Prop where
  keys : keysOf t = done.flatMap plan.keys
  ordered : done.Pairwise (· < ·)
  finished : ∀ q ∈ done, ∃ w, plan q = some w ∧ placeOf q w.last ∈ frames.filterMap place
  seen : ∀ q, s.completed.seen q = true → q = 0 ∨ q ∈ done
  answered : ∀ session q result, .ack session q result ∈ t →
    valid session ∧ (plan.Reports q result → q ∈ done)
  failed : ∀ session q code, .err session q code ∈ t → valid session
  holds : Holds plan (frames.filterMap place) s.reassembly

section

variable {plan : Plan} {valid : Bytes → Prop} {frames : List Bytes} {t : List Effect} {s : State}
  {done : List UInt32}

/-- At power-on nothing of the plan has been executed. -/
theorem executes_boot (plan : Plan) (valid : Bytes → Prop) : Executes plan valid [] [] boot [] where
  keys := rfl
  ordered := List.Pairwise.nil
  finished _ h := by cases h
  seen _ h := .inl (RecentRing.zero_of_seen_empty h)
  answered _ _ _ h := by cases h
  failed _ _ _ h := by cases h
  holds := holds_empty plan _

/-- The step executes nothing. -/
theorem Executes.quiet (h : Executes plan valid frames t s done) {more : List Bytes} {s' : State}
    {u : List Effect} (hkeys : keysOf u = [])
    (hseen : ∀ q, s'.completed.seen q = true → q = 0 ∨ s.completed.seen q = true)
    (hacks : ∀ session q result, .ack session q result ∈ u →
      valid session ∧ ¬ plan.Reports q result)
    (herrs : ∀ session q code, .err session q code ∈ u → valid session)
    (hholds : Holds plan ((frames ++ more).filterMap place) s'.reassembly) :
    Executes plan valid (frames ++ more) (t ++ u) s' done where
  keys := by rw [keysOf_append, hkeys, List.append_nil, h.keys]
  ordered := h.ordered
  finished q hq := by
    obtain ⟨w, hplan, hplace⟩ := h.finished q hq
    exact ⟨w, hplan, by rw [List.filterMap_append]; exact List.mem_append_left _ hplace⟩
  seen q hq := (hseen q hq).elim .inl (h.seen q)
  answered session q result hmem := by
    rcases List.mem_append.mp hmem with hold | hnew
    · exact h.answered session q result hold
    · obtain ⟨hvalid, hnot⟩ := hacks session q result hnew
      exact ⟨hvalid, fun hreports => absurd hreports hnot⟩
  failed session q code hmem := (List.mem_append.mp hmem).elim (h.failed session q code)
    (herrs session q code)
  holds := hholds

/-- A step that answers nothing and remembers nothing. -/
theorem Executes.idle (h : Executes plan valid frames t s done) {more : List Bytes} {s' : State}
    {u : List Effect} (hidle : ∀ x ∈ u, x = .releaseAll ∨ x = .queueFull ∨ ∃ m, x = .text m)
    (hcompleted : s'.completed = s.completed)
    (hholds : Holds plan ((frames ++ more).filterMap place) s'.reassembly) :
    Executes plan valid (frames ++ more) (t ++ u) s' done := by
  refine h.quiet ?_ (fun q hq => .inr (hcompleted ▸ hq)) ?_ ?_ hholds
  · refine List.filter_eq_nil_iff.mpr fun x hx => ?_
    rcases hidle x hx with rfl | rfl | ⟨m, rfl⟩ <;> simp [Effect.isKey]
  · intro session q result hmem
    rcases hidle _ hmem with heq | heq | ⟨m, heq⟩ <;> cases heq
  · intro session q code hmem
    rcases hidle _ hmem with heq | heq | ⟨m, heq⟩ <;> cases heq

/-- The step executes the operation `q`. -/
theorem Executes.execute (h : Executes plan valid frames t s done) {more : List Bytes}
    {s' : State} {u : List Effect} {q : UInt32} {w : Work} (hplan : plan q = some w)
    (hplace : placeOf q w.last ∈ (frames ++ more).filterMap place) (hlater : ∀ q' ∈ done, q' < q)
    (hkeys : keysOf u = w.keys) (hcompleted : s'.completed = s.completed.remember q)
    (hacks : ∀ session q' result, .ack session q' result ∈ u → valid session ∧ q' = q)
    (herrs : ∀ session q' code, .err session q' code ∉ u) (hholds : s'.reassembly = Buffer.empty ∨
      Holds plan ((frames ++ more).filterMap place) s'.reassembly) :
    Executes plan valid (frames ++ more) (t ++ u) s' (done ++ [q]) where
  keys := by
    rw [keysOf_append, h.keys, hkeys, List.flatMap_append]
    simp [Plan.keys, hplan]
  ordered := by
    rw [List.pairwise_append]
    refine ⟨h.ordered, List.pairwise_singleton _ _, fun q' hq' r hr => ?_⟩
    obtain rfl := List.mem_singleton.mp hr
    exact hlater q' hq'
  finished q' hq' := by
    rcases List.mem_append.mp hq' with hold | hnew
    · obtain ⟨w', hplan', hplace'⟩ := h.finished q' hold
      exact ⟨w', hplan', by rw [List.filterMap_append]; exact List.mem_append_left _ hplace'⟩
    · obtain rfl := List.mem_singleton.mp hnew
      exact ⟨w, hplan, hplace⟩
  seen q' hq' := by
    rw [hcompleted] at hq'
    rcases RecentRing.seen_of_remember hq' with rfl | hold
    · exact .inr (List.mem_append_right _ (List.mem_singleton_self _))
    · exact (h.seen q' hold).imp_right (List.mem_append_left _)
  answered session q' result hmem := by
    rcases List.mem_append.mp hmem with hold | hnew
    · obtain ⟨hvalid, hdone⟩ := h.answered session q' result hold
      exact ⟨hvalid, fun hreports => List.mem_append_left _ (hdone hreports)⟩
    · obtain ⟨hvalid, rfl⟩ := hacks session q' result hnew
      exact ⟨hvalid, fun _ => List.mem_append_right _ (List.mem_singleton_self _)⟩
  failed session q' code hmem := (List.mem_append.mp hmem).elim (h.failed session q' code)
    fun hnew => absurd hnew (herrs session q' code)
  holds := by
    rcases hholds with hempty | hholds
    · rw [hempty]
      exact holds_empty plan _
    · exact hholds

/-- What comes after everything that was handled comes after everything
that was executed. -/
theorem Executes.later (h : Executes plan valid frames t s done) {q : UInt32} {i : Nat} {w : Work}
    (hparts : i < kMaxParts) (hplan : plan q = some w) (hlast : i ≤ w.last)
    (hnext : ∀ n ∈ frames.filterMap place, n < placeOf q i) : ∀ q' ∈ done, q' < q := by
  intro q' hq'
  obtain ⟨w', hplan', hplace⟩ := h.finished q' hq'
  have hbefore := hnext _ hplace
  simp only [placeOf, kMaxParts] at hbefore hparts
  rcases Nat.lt_trichotomy q'.toNat q.toNat with hlt | heq | hgt
  · exact UInt32.lt_iff_toNat_lt.mpr hlt
  · obtain rfl := UInt32.toNat_inj.mp heq
    obtain rfl : w' = w := Option.some.inj (hplan'.symm.trans hplan)
    omega
  · omega

/-- It was not executed before. -/
theorem Executes.unseen (h : Executes plan valid frames t s done) (hzero : plan 0 = none)
    {q : UInt32} {w : Work} (hplan : plan q = some w) (hlater : ∀ q' ∈ done, q' < q) :
    s.completed.seen q = false := by
  refine Bool.eq_false_iff.mpr fun hseen => ?_
  rcases h.seen q hseen with rfl | hdone
  · rw [hzero] at hplan
    cases hplan
  · exact absurd (hlater q hdone) (UInt32.lt_irrefl q)

end

/-! ## One frame -/

theorem keysOf_controlKeys_stop : keysOf (controlKeys (ascii "STOP")) = [] := by
  have hne : ascii "STOP" ≠ ascii "ENTER" ∧ ascii "STOP" ≠ ascii "BACKSPACE" ∧
      ascii "STOP" ≠ ascii "CTRL_C" := by decide
  simp [controlKeys, hne, keysOf]

theorem keysOf_controlKeys_resume : keysOf (controlKeys (ascii "RESUME")) = [] := by
  have hne : ascii "RESUME" ≠ ascii "ENTER" ∧ ascii "RESUME" ≠ ascii "BACKSPACE" ∧
      ascii "RESUME" ≠ ascii "CTRL_C" := by decide
  simp [controlKeys, hne, keysOf]

section

variable {plan : Plan} {valid : Bytes → Prop} {frames : List Bytes} {t : List Effect} {s : State}
  {done : List UInt32} {bytes : Bytes}

/-- One more frame takes one more place of the plan. -/
theorem filterMap_place_concat {op : Op} {n : Nat} (hop : frameOp bytes = some op)
    (hn : op.place = some n) :
    (frames ++ [bytes]).filterMap place = frames.filterMap place ++ [n] := by
  simp [place, hop, hn]

/-- A control under the session in force. -/
theorem Executes.control (hzero : plan 0 = none) (h : Executes plan valid frames t s done)
    (hplanned : Planned plan valid bytes) {q : UInt32} {name : Bytes}
    (hop : frameOp bytes = some (.control s.activeSession q name))
    (hnext : ∀ n ∈ frames.filterMap place, n < placeOf q 0) :
    ∃ done', Executes plan valid (frames ++ [bytes])
      (t ++ (applyControl s s.activeSession q name).2)
      (applyControl s s.activeSession q name).1 done' := by
  have hplan : plan q = some (.control name) := hplanned.has _ hop
  have hvalid : valid s.activeSession := hplanned.session _ hop
  have hlater := h.later (by decide) hplan (Nat.zero_le _) hnext
  have hunseen := h.unseen hzero hplan hlater
  have hplaces : (frames ++ [bytes]).filterMap place = frames.filterMap place ++ [placeOf q 0] :=
    filterMap_place_concat hop rfl
  have hplace : placeOf q (Work.control name).last ∈ (frames ++ [bytes]).filterMap place := by
    rw [hplaces]
    exact List.mem_append_right _ (List.mem_singleton_self _)
  have hholds : Holds plan ((frames ++ [bytes]).filterMap place) s.reassembly := by
    rw [hplaces]
    exact h.holds.mono _
  rcases applyControl_cases s q name with ⟨hseen, -⟩ | ⟨-, rfl, hr⟩ | ⟨-, rfl, hr⟩ |
    ⟨-, -, hr⟩ | ⟨-, -, -, -, -, hr⟩
  · cases hunseen.symm.trans hseen
  · rw [hr]
    exact ⟨_, h.execute hplan hplace hlater keysOf_controlKeys_stop.symm rfl
      (by simp +contextual [hvalid]) (by simp) (.inl rfl)⟩
  · rw [hr]
    exact ⟨_, h.execute hplan hplace hlater keysOf_controlKeys_resume.symm rfl
      (by simp +contextual [hvalid]) (by simp) (.inr hholds)⟩
  · -- the latch holds, and the control is not STOP
    have hname : name ≠ ascii "STOP" := by
      rintro rfl
      simp [applyControl, hunseen] at hr
    rw [hr]
    refine ⟨_, h.quiet rfl (fun _ => .inr) ?_ (by simp) hholds⟩
    intro session q' result hmem
    obtain ⟨rfl, rfl, rfl⟩ : session = s.activeSession ∧ q' = q ∧ result = .stopped := by
      simpa using hmem
    refine ⟨hvalid, fun hstop => hname ?_⟩
    exact (Work.control.inj (Option.some.inj (hplan.symm.trans hstop)))
  · rw [hr]
    have hanswers : ∀ {x : Effect}, x ∈ controlKeys name ++
        [.releaseAll, .ack s.activeSession q .applied] →
          x = .releaseAll ∨ x.isKey = true ∨ x = .ack s.activeSession q .applied := by
      intro x hx
      rcases List.mem_append.mp hx with hx | hx
      · exact (controlKeys_effects hx).imp_right .inl
      · rcases List.mem_cons.mp hx with rfl | hx
        · exact .inl rfl
        · exact .inr (.inr (List.mem_singleton.mp hx))
    refine ⟨_, h.execute hplan hplace hlater ?_ rfl ?_ ?_ (.inr hholds)⟩
    · rw [keysOf_append]
      exact List.append_nil _
    · intro session q' result hmem
      rcases hanswers hmem with heq | hkey | heq
      · cases heq
      · cases hkey
      · cases heq
        exact ⟨hvalid, rfl⟩
    · intro session q' code hmem
      rcases hanswers hmem with heq | hkey | heq
      · cases heq
      · cases hkey
      · cases heq

/-- A part of a text under the session in force. -/
theorem Executes.text (hzero : plan 0 = none) (h : Executes plan valid frames t s done)
    (hplanned : Planned plan valid bytes) {p : TextPart} (hop : frameOp bytes = some (.text p))
    (hsession : p.origin = s.activeSession)
    (hnext : ∀ n ∈ frames.filterMap place, n < placeOf p.key p.index) (t₁ t₂ : UInt32) :
    ∃ done', Executes plan valid (frames ++ [bytes]) (t ++ (handleText s t₁ t₂ p).2)
      (handleText s t₁ t₂ p).1 done' := by
  have hhas := hplanned.has _ hop
  have hvalid : valid s.activeSession := hsession ▸ hplanned.session _ hop
  have hplaces : (frames ++ [bytes]).filterMap place =
      frames.filterMap place ++ [placeOf p.key p.index] := filterMap_place_concat hop rfl
  have hholds : Holds plan ((frames ++ [bytes]).filterMap place)
      (s.reassembly.offer t₁ (tooOld t₂) p).1 := by
    rw [hplaces]
    exact (h.holds.mono _).offer hzero hhas (List.mem_append_right _ (List.mem_singleton_self _))
  rcases handleText_cases s t₁ t₂ p with ⟨-, hr⟩ | ⟨-, hr⟩ | ⟨hc, hr⟩
  · rw [hr]
    exact ⟨_, h.quiet (by simp [keysOf, Effect.isKey]) (fun _ => .inr) (by simp)
      (by simp +contextual [hvalid]) hholds⟩
  · rw [hr]
    exact ⟨_, h.idle (by simp) rfl hholds⟩
  · obtain ⟨chunks, hplan, hmessage, hindex, hplace⟩ := hholds.complete hhas hc
    have hlater := h.later (Nat.lt_of_lt_of_le p.index_lt p.total_le) hplan hindex hnext
    have hunseen := h.unseen hzero hplan hlater
    rcases finishText_cases { s with reassembly := (s.reassembly.offer t₁ (tooOld t₂) p).1 }
      s.activeSession p.key with ⟨hseen, -⟩ | ⟨-, -, hf⟩ | ⟨-, -, -, -, hf⟩ | ⟨-, -, hout, -, hf⟩
    · cases hunseen.symm.trans hseen
    · rw [hr, hf]
      refine ⟨_, h.quiet (by simp [keysOf, Effect.isKey]) (fun _ => .inr) ?_ (by simp)
        (holds_empty plan _)⟩
      intro session q' result hmem
      obtain ⟨rfl, rfl, rfl⟩ : session = s.activeSession ∧ q' = p.key ∧ result = .stopped := by
        simpa using hmem
      refine ⟨hvalid, fun hstop => ?_⟩
      cases hplan.symm.trans hstop
    · rw [hr, hf]
      exact ⟨_, h.quiet (by simp [keysOf, Effect.isKey]) (fun _ => .inr) (by simp)
        (by simp +contextual [hvalid]) (holds_empty plan _)⟩
    · rw [hr, hf]
      refine ⟨_, h.execute hplan hplace hlater ?_ rfl ?_ ?_ (.inl rfl)⟩
      · simp only [keysOf_append, keysOf_map_text]
        rw [keysOf_typeASCII (by exact hout), hmessage]
        simp [keysOf, Effect.isKey, Work.keys]
      · intro session q' result hmem
        simp only [List.mem_append, List.mem_map, reduceCtorEq, and_false, exists_false, false_or,
          List.mem_cons, Effect.ack.injEq, List.not_mem_nil, or_false, or_self] at hmem
        rcases hmem with htyped | ⟨rfl, rfl, -⟩
        · rcases (typeASCII_effects htyped).2 with heq | ⟨c, heq⟩ <;> cases heq
        · exact ⟨hvalid, rfl⟩
      · intro session q' code hmem
        simp only [List.mem_append, List.mem_map, reduceCtorEq, and_false, exists_false, false_or,
          List.mem_cons, List.not_mem_nil, or_false] at hmem
        rcases (typeASCII_effects hmem).2 with heq | ⟨c, heq⟩ <;> cases heq

/-- A frame of the plan, later than those before. -/
theorem Executes.frame (hzero : plan 0 = none) (h : Executes plan valid frames t s done)
    (hplanned : Planned plan valid bytes)
    (hnext : ∀ n ∈ frames.filterMap place, ∀ m ∈ place bytes, n < m) (t₁ t₂ : UInt32) :
    ∃ done', Executes plan valid (frames ++ [bytes]) (t ++ (step s (.frame t₁ t₂ bytes)).2)
      (step s (.frame t₁ t₂ bytes)).1 done' := by
  have hkept : Holds plan ((frames ++ [bytes]).filterMap place) s.reassembly := by
    rw [List.filterMap_append]
    exact h.holds.mono _
  cases hop : frameOp bytes with
  | none =>
      rcases step_no_op hop s t₁ t₂ with hr | hr <;> rw [hr]
      · exact ⟨_, h.idle (by simp) rfl hkept⟩
      · exact ⟨_, h.idle (by simp) rfl hkept⟩
  | some op =>
      rw [step_frame hop]
      cases op with
      | opened session =>
          refine ⟨done, h.quiet rfl (fun q hq => .inl (RecentRing.zero_of_seen_empty hq)) ?_
            (by simp [act, openSession]) (holds_empty plan _)⟩
          intro session' q result hmem
          obtain ⟨rfl, rfl, rfl⟩ : session' = session ∧ q = 0 ∧ result = .opened := by
            simpa [act, openSession] using hmem
          exact ⟨hplanned.session _ hop, id⟩
      | control session q name =>
          simp only [act]
          split
          · next hsession =>
              subst hsession
              exact h.control hzero hplanned hop fun n hn => hnext n hn _ (by
                simp [place, hop, Op.place])
          · exact ⟨_, h.idle (by simp) rfl hkept⟩
      | text p =>
          simp only [act]
          split
          · next hsession =>
              exact h.text hzero hplanned hop hsession (fun n hn => hnext n hn _ (by
                simp [place, hop, Op.place])) t₁ t₂
          · exact ⟨_, h.idle (by simp) rfl hkept⟩

end

/-! ## The device -/

/-- The frames that are written to the device, as C strings. -/
def written (es : List DeviceEvent) : List Bytes :=
  es.filterMap fun
    | .write bytes => some (cString bytes)
    | _ => none

def Device.handles (d : Device) : DeviceEvent → List Bytes
  | .handle _ _ => (d.frame.map DequeuedFrame.bytes).toList
  | _ => []

/-- The frames that are handled in a run. -/
def handledFrames (es : List DeviceEvent) : List Bytes := device.gather Device.handles es

/-- The frames the device holds, oldest first. -/
def Device.held (d : Device) : List Bytes := (d.frame.map DequeuedFrame.bytes).toList ++ d.queued

/-- The device holds what it held and at most the new frame. -/
theorem enqueueFrame_held (d : Device) {frame : Bytes} (h : (0 : UInt8) ∉ frame) :
    (enqueueFrame d frame).1.held.Sublist (d.held ++ [frame]) := by
  unfold enqueueFrame
  split
  · have hpushed := frame_stored ⟨frame, h⟩ (kMaxFrameBytes - frame.length) d.arrivals
    simp only [Device.held, Device.queued, RingQueue.contents_push, List.map_append,
      List.map_singleton]
    rw [hpushed, List.append_assoc]
  · exact List.sublist_append_left _ _

/-- Dequeuing brings in no frame. -/
theorem dequeueFrame_held (d : Device) (h : d.frame = none) :
    ({ (dequeueFrame d).1 with frame := (dequeueFrame d).2 } : Device).held = d.held := by
  unfold dequeueFrame
  split
  · next hcount =>
      simp only [Device.held, Device.queued, h, RingQueue.contents_pop d.frameQueue hcount]
      rfl
  · simp [Device.held, Device.queued, h]

/-- Frames are handled in the order in which they were written; some may
be lost. -/
theorem handledFrames_sublist (es : List DeviceEvent) :
    (handledFrames es ++ (device.run es).held).Sublist (written es) := by
  induction es using List.reverseRecOn with
  | nil => exact List.Sublist.refl []
  | append_singleton es e ih =>
      have hwritten : written (es ++ [e]) = written es ++ written [e] := List.filterMap_append
      rw [handledFrames, Machine.gather_concat, Machine.run_concat, hwritten, ← handledFrames]
      generalize device.run es = d at ih
      have hsame : ∀ {d' : Device}, d'.held.Sublist d.held →
          (handledFrames es ++ [] ++ d'.held).Sublist (written es ++ []) := by
        intro d' hheld
        rw [List.append_nil, List.append_nil]
        exact ((List.Sublist.refl _).append hheld).trans ih
      cases e with
      | connect => exact hsame (List.Sublist.refl _)
      | disconnect =>
          refine hsame ?_
          have hqueued : (clearFrameQueue d).queued = [] := by
            simp [Device.queued, clearFrameQueue]
          show ((d.frame.map DequeuedFrame.bytes).toList ++ (clearFrameQueue d).queued).Sublist _
          rw [hqueued]
          exact (List.Sublist.refl _).append (List.nil_sublist _)
      | tick now => exact hsame (List.Sublist.refl _)
      | reportOverflow => exact hsame (List.Sublist.refl _)
      | write bytes =>
          have hheld := enqueueFrame_held d (nulFree_cString bytes)
          show (handledFrames es ++ [] ++ (enqueueFrame d (cString bytes)).1.held).Sublist
            (written es ++ [cString bytes])
          rw [List.append_nil]
          refine ((List.Sublist.refl _).append hheld).trans ?_
          rw [← List.append_assoc]
          exact ih.append (List.Sublist.refl _)
      | dequeue =>
          refine hsame ?_
          show (deviceStep d .dequeue).1.held.Sublist d.held
          simp only [deviceStep]
          split
          · exact List.Sublist.refl _
          · next hnone =>
              rw [dequeueFrame_held d (by simpa using hnone)]
      | handle started now =>
          show (handledFrames es ++ d.handles (.handle started now) ++
            (deviceStep d (.handle started now)).1.held).Sublist (written es ++ [])
          have hheld : d.handles (.handle started now) ++
              (deviceStep d (.handle started now)).1.held = d.held := by
            simp only [deviceStep, Device.handles, Device.held]
            cases hframe : d.frame with
            | none => simp [hframe, Device.queued]
            | some frame => rfl
          rw [List.append_assoc, hheld, List.append_nil]
          exact ih

/-- Every run of a device that is sent frames of a plan, in order. -/
theorem executes_run {plan : Plan} {valid : Bytes → Prop} (hzero : plan 0 = none)
    (es : List DeviceEvent) (hplanned : ∀ bytes ∈ written es, Planned plan valid bytes)
    (hordered : ((written es).filterMap place).Pairwise (· < ·)) :
    ∃ done, Executes plan valid (handledFrames es) (calls (device.trace es)) (device.run es).core
      done := by
  induction es using List.reverseRecOn with
  | nil => exact ⟨[], executes_boot plan valid⟩
  | append_singleton es e ih =>
      have hwritten : written (es ++ [e]) = written es ++ written [e] := List.filterMap_append
      have hhandled := (List.sublist_append_left _ _).trans (handledFrames_sublist (es ++ [e]))
      have horder := hordered.sublist (hhandled.filterMap place)
      have hplan : ∀ bytes ∈ handledFrames (es ++ [e]), Planned plan valid bytes :=
        fun bytes hbytes => hplanned bytes (hhandled.subset hbytes)
      rw [hwritten] at hplanned hordered
      rw [List.filterMap_append] at hordered
      obtain ⟨done, h⟩ := ih (fun bytes hbytes => hplanned bytes (List.mem_append_left _ hbytes))
        (List.pairwise_append.mp hordered).1
      rw [handledFrames, Machine.gather_concat, ← handledFrames] at hplan horder ⊢
      rw [Machine.trace_concat, Machine.run_concat, calls_append]
      generalize device.run es = d at *
      have hidle : ∀ {s' : State} {u : List Effect},
          (∀ x ∈ u, x = .releaseAll ∨ x = .queueFull ∨ ∃ m, x = .text m) →
          s'.completed = d.core.completed →
          (s'.reassembly = d.core.reassembly ∨ s'.reassembly = Buffer.empty) →
          ∃ done, Executes plan valid (handledFrames es ++ []) (calls (device.trace es) ++ u) s'
            done := by
        intro s' u hu hcompleted hbuffer
        refine ⟨done, h.idle hu hcompleted ?_⟩
        rw [List.append_nil]
        rcases hbuffer with hbuffer | hbuffer <;> rw [hbuffer]
        · exact h.holds
        · exact holds_empty plan _
      cases e with
      | connect =>
          exact hidle (by simp [device, deviceStep, Device.call, onConnect, calls]) rfl (.inl rfl)
      | disconnect =>
          refine hidle ?_ rfl (.inr rfl)
          show ∀ x ∈ calls ((onDisconnect d.core).2.map .call), _
          rw [calls_map_call]
          simp [onDisconnect]
      | tick now =>
          show ∃ done, Executes plan valid (handledFrames es ++ [])
            (calls (device.trace es) ++ calls ((loopTimeout d.core now).2.map .call))
            (loopTimeout d.core now).1 done
          rw [calls_map_call]
          unfold loopTimeout
          split
          · exact hidle (by simp) rfl (.inr rfl)
          · exact hidle (by simp) rfl (.inl rfl)
      | reportOverflow =>
          refine hidle ?_ rfl (.inl rfl)
          simp only [device, deviceStep, reportOverflow]
          split <;> simp [calls]
      | write bytes =>
          refine hidle ?_ ?_ ?_
          · simp only [device, deviceStep, onWrite]
            split <;> simp [calls]
          all_goals
            simp only [device, deviceStep, onWrite, enqueueFrame]
            split <;> simp
      | dequeue =>
          refine hidle ?_ ?_ ?_
          · simp only [device, deviceStep]
            split <;> simp [calls]
          all_goals
            simp only [device, deviceStep, dequeueFrame]
            split
            · simp
            · split <;> simp
      | handle started now =>
          cases hframe : d.frame with
          | none =>
              simp only [device, deviceStep, Device.handles, hframe]
              exact hidle (by simp [calls]) rfl (.inl rfl)
          | some frame =>
              simp only [Device.handles, hframe, Option.map_some, Option.toList_some]
                at hplan horder ⊢
              simp only [device, deviceStep, hframe]
              rw [handleFrame_dequeued]
              have hcalls : ∀ u : List Effect,
                  calls (.handling frame.stamp :: u.map .call) = u := fun u => calls_map_call u
              simp only [Device.call, hcalls]
              refine h.frame hzero (hplan _ (by simp)) ?_ started now
              intro n hn m hm
              rw [List.filterMap_append, List.pairwise_append] at horder
              exact horder.2.2 n hn m (by simpa using hm)

end Bootmux.Bridge
