/-
Bootmux.Router.DispatcherTheorems — what one step of the router can do
to the receiver of frames, and what it reports to the host.

`step_rule` is the only place that walks the branches of the frame
handler: a step is an aside of the network side, a disconnect, a
timeout, or an accepted `OPEN`, control, text or Wi-Fi part. The lemmas
after it say what each of these does to the HID reports, to the two
reassembly buffers and to the session.

The cases of `step_rule` say which operation was performed and what the
state was before; the frame that asked for it is kept, so that a statement
about a run can be taken back to what was received. The receptions at the
end are the instances of the reassembly library for texts and for Wi-Fi
payloads: each step of the router is a step of the library's buffer.
-/
import Bootmux.Router.RuntimeTheorems

namespace Bootmux.Router

open Bootmux.Bmx1
open Bootmux.Lib
open Bootmux.Lib.Reassembly

/-! ## Asides among the frames -/

/-- The operation an event carries: only frames carry one. -/
def Event.op : Event → Option Op
  | .frame _ bytes => frameOp bytes
  | _ => none

theorem netLease_aside (s : State) (q : UInt32) (ttl : Bytes) : Aside s (netLease s q ttl) := by
  unfold netLease
  split
  · exact ⟨.refl s, by simp [notifyError, Effect.isAside]⟩
  · split
    · exact ⟨.refl s, by simp [notifyError, Effect.isAside]⟩
    · split
      · exact ⟨.refl s, by simp [notifyAck, Effect.isAside]⟩
      · simp only []
        split
        · exact ⟨sendMgmt_receiver s _, by simp [notifyAck, Effect.isAside]⟩
        · exact ⟨.refl s, by simp [notifyError, Effect.isAside]⟩

theorem netRelease_aside (s : State) (q : UInt32) : Aside s (netRelease s q) := by
  unfold netRelease
  split
  · exact ⟨.refl s, by simp [notifyAck, Effect.isAside]⟩
  · simp only []
    split
    · exact ⟨sendMgmt_receiver s _, by simp [notifyAck, Effect.isAside]⟩
    · exact ⟨.refl s, by simp [notifyError, Effect.isAside]⟩

theorem proxyStatus_aside (s : State) (env : FrameEnv) (q : UInt32) :
    Aside s (proxyStatus s env q) := by
  refine ⟨.refl s, ?_⟩
  simp only [proxyStatus, List.mem_cons, List.not_mem_nil, or_false]
  rintro x (rfl | rfl)
  · exact notifyProxyStatus_aside _ _ _ _
  · rfl

theorem wifiClear_aside (s : State) (env : FrameEnv) (q : UInt32) :
    Aside s (wifiClear s env q) := by
  unfold wifiClear
  split
  · exact ⟨.refl s, by simp [notifyError, Effect.isAside]⟩
  · split
    · exact ⟨.refl s, by simp [notifyError, Effect.isAside]⟩
    · refine ⟨sendMgmt_receiver { s with wifiDeadline := 0 } _, ?_⟩
      intro x hx
      simp only [setWifiState, List.mem_append, List.mem_cons, List.not_mem_nil, or_false] at hx
      rcases hx with ((rfl | rfl) | rfl) | rfl
      · rfl
      · exact notifyProxyStatus_aside _ _ _ _
      · rfl
      · rfl

/-! ## One step -/

/-- Everything a step can do to the receiver. -/
theorem step_rule (s : State) {Q : Event → State × List Effect → Prop}
    (haside : ∀ e r, (∀ session, e.op ≠ some (.opened session)) →
      (∀ hid, e ≠ .disconnect hid) → Aside s r → Q e r)
    (hdisconnect : ∀ hid, Q (.disconnect hid) (gapDisconnect s hid))
    (htick : ∀ now, Q (.tick now) (dispatcherTimeout s now))
    (hopened : ∀ env bytes session, frameOp bytes = some (.opened session) →
      Q (.frame env bytes) (openSession s session))
    (hcontrol : ∀ env bytes sequence control,
      frameOp bytes = some (.control s.session sequence control) →
      Q (.frame env bytes) (applyControl s env s.session sequence control))
    (htext : ∀ env bytes p, frameOp bytes = some (.text p) → p.origin = s.session →
      Q (.frame env bytes) (handleText s env p))
    (hwifi : ∀ env bytes p, frameOp bytes = some (.wifi p) → p.origin = s.session →
      Q (.frame env bytes) (handleWifi s env p)) :
    ∀ e, Q e (step s e) := by
  intro e
  by_cases hnet : e.isNetwork = true
  · refine haside e _ ?_ ?_ (network_aside s e hnet)
    · intro session h; cases e <;> first | exact Bool.noConfusion hnet | cases h
    · intro hid h; subst h; cases hnet
  cases e with
  | connect => exact haside _ _ (by simp [Event.op]) (by simp) ⟨.refl s, by simp [step, gapConnect]⟩
  | disconnect hid => exact hdisconnect hid
  | tick now => exact htick now
  | frame env bytes =>
      cases hop : frameOp bytes with
      | none =>
          simp only [step, handleFrame, hop]
          exact haside _ _ (by simp [Event.op, hop]) (by simp) (.nil s)
      | some op =>
          simp only [step, handleFrame, hop, act]
          have hquiet : ∀ r, (∀ session, op ≠ .opened session) → Aside s r →
              Q (.frame env bytes) r := by
            intro r hne hr
            refine haside _ _ ?_ (by simp) hr
            intro session h
            simp only [Event.op, hop, Option.some.injEq] at h
            exact hne session h
          cases op with
          | opened session => exact hopened env bytes session hop
          | control session q c =>
              simp only [Op.session]
              split
              · rename_i hs; subst hs; exact hcontrol env bytes q c hop
              · exact hquiet _ (by simp) (.nil s)
          | text p =>
              simp only [Op.session]
              split
              · rename_i hs; exact htext env bytes p hop hs
              · exact hquiet _ (by simp) (.nil s)
          | wifi p =>
              simp only [Op.session]
              split
              · rename_i hs; exact hwifi env bytes p hop hs
              · exact hquiet _ (by simp) (.nil s)
          | wifiStatus session q =>
              simp only [Op.session]
              split
              · exact hquiet _ (by simp) ⟨.refl s, by
                  simp [perform, notifyNetwork, notifyAck, Effect.isAside]⟩
              · exact hquiet _ (by simp) (.nil s)
          | netLease session q ttl =>
              simp only [Op.session]
              split
              · exact hquiet _ (by simp) (netLease_aside s q ttl)
              · exact hquiet _ (by simp) (.nil s)
          | netRelease session q =>
              simp only [Op.session]
              split
              · exact hquiet _ (by simp) (netRelease_aside s q)
              · exact hquiet _ (by simp) (.nil s)
          | proxyStatus session q =>
              simp only [Op.session]
              split
              · exact hquiet _ (by simp) (proxyStatus_aside s env q)
              · exact hquiet _ (by simp) (.nil s)
          | wifiClear session q =>
              simp only [Op.session]
              split
              · exact hquiet _ (by simp) (wifiClear_aside s env q)
              · exact hquiet _ (by simp) (.nil s)
  | _ => exact absurd rfl hnet

/-! ## Marks -/

/-- The text marks of a trace. -/
def textMarks (t : List Effect) : List TextMark :=
  t.filterMap fun x => match x with | .text m => some m | _ => none

/-- The Wi-Fi marks of a trace. -/
def wifiMarks (t : List Effect) : List WifiMark :=
  t.filterMap fun x => match x with | .wifi m => some m | _ => none

/-- Marks of two steps after one another. -/
theorem textMarks_append (t u : List Effect) :
    textMarks (t ++ u) = textMarks t ++ textMarks u := List.filterMap_append

theorem wifiMarks_append (t u : List Effect) :
    wifiMarks (t ++ u) = wifiMarks t ++ wifiMarks u := List.filterMap_append

@[simp] theorem textMarks_map_text (ms : List TextMark) : textMarks (ms.map .text) = ms := by
  induction ms with
  | nil => rfl
  | cons m ms ih => simp [textMarks] at ih ⊢

@[simp] theorem wifiMarks_map_wifi (ms : List WifiMark) : wifiMarks (ms.map .wifi) = ms := by
  induction ms with
  | nil => rfl
  | cons m ms ih => simp [wifiMarks] at ih ⊢

theorem textMarks_eq_nil {t : List Effect} (h : ∀ x ∈ t, ∀ m, x ≠ .text m) :
    textMarks t = [] := by
  rw [textMarks, List.filterMap_eq_nil_iff]
  intro x hx
  cases x with
  | text m => exact absurd rfl (h _ hx m)
  | _ => rfl

theorem wifiMarks_eq_nil {t : List Effect} (h : ∀ x ∈ t, ∀ m, x ≠ .wifi m) :
    wifiMarks t = [] := by
  rw [wifiMarks, List.filterMap_eq_nil_iff]
  intro x hx
  cases x with
  | wifi m => exact absurd rfl (h _ hx m)
  | _ => rfl

/-! ## HID reports -/

def Effect.isReport : Effect → Bool
  | .report _ _ => true
  | _ => false

theorem sendHidReport_reports (hid : List Bool) (modifier key : UInt8) :
    ∀ x ∈ (sendHidReport hid modifier key).2.2, x = .report modifier key := by
  unfold sendHidReport
  split <;> simp

theorem releaseAll_reports (hid : List Bool) :
    ∀ x ∈ (releaseAll hid).2.2, x = .report 0 0 := sendHidReport_reports hid 0 0

theorem strike_reports (hid : List Bool) (modifier key : UInt8) :
    ∀ x ∈ (strike hid modifier key).2.2, x.isReport = true := by
  intro x hx
  unfold strike at hx
  simp only [] at hx
  split at hx
  · rcases List.mem_append.mp hx with hx | hx
    · rw [sendHidReport_reports _ _ _ x hx]; rfl
    · rw [releaseAll_reports _ x hx]; rfl
  · rw [sendHidReport_reports _ _ _ x hx]; rfl

theorem typeLoop_reports (text : Bytes) (hid : List Bool) :
    ∀ x ∈ (typeLoop hid text).2.2, x.isReport = true := by
  induction text generalizing hid with
  | nil => simp [typeLoop]
  | cons c text ih =>
      intro x hx
      simp only [typeLoop] at hx
      split at hx
      · rcases List.mem_append.mp hx with hx | hx
        · exact strike_reports _ _ _ x hx
        · exact ih _ x hx
      · exact strike_reports _ _ _ x hx

theorem typeAscii_reports (s : State) (ready : Bool) (hid : List Bool) (text : Bytes) :
    ∀ x ∈ (typeAscii s ready hid text).2.2, x.isReport = true := by
  unfold typeAscii
  split
  · simp
  · exact typeLoop_reports text hid

theorem textMarks_reports {t : List Effect} (h : ∀ x ∈ t, x.isReport = true) :
    textMarks t = [] :=
  textMarks_eq_nil fun x hx m heq => by
    have := h x hx; rw [heq] at this; cases this

theorem wifiMarks_reports {t : List Effect} (h : ∀ x ∈ t, x.isReport = true) :
    wifiMarks t = [] :=
  wifiMarks_eq_nil fun x hx m heq => by
    have := h x hx; rw [heq] at this; cases this

theorem releaseAll_isReport (hid : List Bool) :
    ∀ x ∈ (releaseAll hid).2.2, x.isReport = true := by
  intro x hx; rw [releaseAll_reports hid x hx]; rfl

/-- The key presses of a trace, as key and modifier; a report without
either is a release. -/
def pressesOf (t : List Effect) : List (UInt8 × UInt8) :=
  t.filterMap fun x => match x with
    | .report modifier key => if modifier = 0 ∧ key = 0 then none else some (key, modifier)
    | _ => none

/-- Key presses of two steps after one another. -/
theorem pressesOf_append (t u : List Effect) :
    pressesOf (t ++ u) = pressesOf t ++ pressesOf u := List.filterMap_append

theorem pressesOf_eq_nil {t : List Effect}
    (h : ∀ x ∈ t, x.isReport = false ∨ x = .report 0 0) : pressesOf t = [] := by
  rw [pressesOf, List.filterMap_eq_nil_iff]
  intro x hx
  rcases h x hx with h | rfl
  · cases x <;> first | rfl | cases h
  · rfl

@[simp] theorem pressesOf_releaseAll (hid : List Bool) : pressesOf (releaseAll hid).2.2 = [] :=
  pressesOf_eq_nil fun x hx => Or.inr (releaseAll_reports hid x hx)

/-- The presses that type a text. -/
def strokesOf (text : Bytes) : List (UInt8 × UInt8) := text.filterMap hidKeyForAscii

theorem hidKeyForAscii_key (c : UInt8) (key modifier : UInt8)
    (h : hidKeyForAscii c = some (key, modifier)) : key ≠ 0 := by
  have hall : ∀ n < 256, (hidKeyForAscii (UInt8.ofNat n)).all (fun km => km.1 != 0) = true := by
    decide +kernel
  have := hall c.toNat c.toNat_lt
  rw [UInt8.ofNat_toNat, h] at this
  simpa using this

/-- A struck key is pressed, or the report was not taken. -/
theorem strike_presses (hid : List Bool) (modifier key : UInt8) :
    (pressesOf (strike hid modifier key).2.2 = [] ∧ (strike hid modifier key).1 = false) ∨
    pressesOf (strike hid modifier key).2.2 = pressesOf [.report modifier key] := by
  unfold strike sendHidReport
  split
  · right; simp only [if_true]; rw [pressesOf_append, pressesOf_releaseAll, List.append_nil]
  · right; simp only [if_true]; rw [pressesOf_append, pressesOf_releaseAll, List.append_nil]
  · left; exact ⟨rfl, rfl⟩

/-- A character is typed with one stroke. -/
theorem pressesOf_ascii (c : UInt8) :
    pressesOf [.report ((hidKeyForAscii c).getD (0, 0)).2 ((hidKeyForAscii c).getD (0, 0)).1] =
      strokesOf [c] := by
  cases h : hidKeyForAscii c with
  | none => simp [pressesOf, strokesOf, h]
  | some km =>
      have hkey := hidKeyForAscii_key c km.1 km.2 h
      simp [pressesOf, strokesOf, h, hkey]

/-- What typing presses is an initial part of the text. -/
theorem typeLoop_presses (text : Bytes) (hid : List Bool) :
    pressesOf (typeLoop hid text).2.2 <+: strokesOf text := by
  induction text generalizing hid with
  | nil => exact List.prefix_rfl
  | cons c text ih =>
      have hcons : strokesOf (c :: text) = strokesOf [c] ++ strokesOf text := by
        rw [← List.singleton_append]
        exact List.filterMap_append
      simp only [typeLoop]
      rw [hcons, ← pressesOf_ascii]
      split
      · rename_i hstruck
        rcases strike_presses hid ((hidKeyForAscii c).getD (0, 0)).2
          ((hidKeyForAscii c).getD (0, 0)).1 with ⟨_, hf⟩ | hp
        · rw [hf] at hstruck; cases hstruck
        · rw [pressesOf_append, hp]
          exact (List.prefix_append_right_inj _).mpr (ih _)
      · rcases strike_presses hid ((hidKeyForAscii c).getD (0, 0)).2
          ((hidKeyForAscii c).getD (0, 0)).1 with ⟨hp, _⟩ | hp
        · rw [hp]; exact List.nil_prefix
        · rw [hp]; exact List.prefix_append _ _

/-- What is typed is a beginning of the text, also where a report fails. -/
theorem typeAscii_presses (s : State) (ready : Bool) (hid : List Bool) (text : Bytes) :
    pressesOf (typeAscii s ready hid text).2.2 <+: strokesOf text := by
  unfold typeAscii
  split
  · exact List.nil_prefix
  · exact typeLoop_presses text hid

/-- The concatenation loop succeeds exactly within its limit. -/
theorem joinParts_eq {limit : Nat} {used : Bytes} (parts : List Bytes)
    (hused : used.length ≤ limit) :
    joinParts limit used parts =
      if (used ++ parts.flatten).length > limit then none else some (used ++ parts.flatten) := by
  induction parts generalizing used with
  | nil => rw [joinParts, if_neg (by simpa using hused)]; simp
  | cons part parts ih =>
      rw [joinParts]
      by_cases hover : used.length + part.length > limit
      · rw [if_pos hover, if_pos (by simp; omega)]
      · rw [if_neg hover, ih (by simp; omega)]
        simp

/-- The concatenation loop concatenates, or exceeds its limit. -/
theorem joinParts_some {limit : Nat} {used text : Bytes} {parts : List Bytes}
    (h : joinParts limit used parts = some text) : text = used ++ parts.flatten := by
  induction parts generalizing used with
  | nil => simpa [joinParts] using h.symm
  | cons part parts ih =>
      rw [joinParts] at h
      split at h
      · cases h
      · rw [ih h]; simp

/-! ## Outcomes -/

/-- The outcomes of a control under the session in force. -/
theorem applyControl_cases (s : State) (env : FrameEnv) (q : UInt32) (c : Bytes) :
    (s.completed.seen q = true ∧
      applyControl s env s.session q c = (s, [.ack s.session q .duplicate])) ∨
    (s.completed.seen q = false ∧ c = ascii "STOP" ∧
      applyControl s env s.session q c =
        ({ s with text := Buffer.empty, stopped := true, outputEnabled := false,
                  completed := s.completed.remember q },
          Effect.stop :: (releaseAll env.hid).2.2 ++
            [Effect.text .clear, .ack s.session q .stopped])) ∨
    (s.completed.seen q = false ∧ c = ascii "RESUME" ∧
      applyControl s env s.session q c =
        ({ s with stopped := false, outputEnabled := true,
                  completed := s.completed.remember q },
          Effect.resume :: (releaseAll env.hid).2.2 ++ [Effect.ack s.session q .resumed])) ∨
    (s.completed.seen q = false ∧ c ≠ ascii "STOP" ∧ c ≠ ascii "RESUME" ∧
      (s.stopped || !s.outputEnabled) = true ∧
      applyControl s env s.session q c =
        (s, (releaseAll env.hid).2.2 ++ [Effect.ack s.session q .stopped])) ∨
    (s.completed.seen q = false ∧ c ≠ ascii "STOP" ∧ c ≠ ascii "RESUME" ∧
      s.stopped = false ∧ s.outputEnabled = true ∧ controlReport c = none ∧
      applyControl s env s.session q c = (s, [.err s.session q .unknownControl])) ∨
    (∃ modifier key, s.completed.seen q = false ∧ c ≠ ascii "STOP" ∧ c ≠ ascii "RESUME" ∧
      s.stopped = false ∧ s.outputEnabled = true ∧ controlReport c = some (modifier, key) ∧
      ((strike env.hid modifier key).1 = true ∧
        applyControl s env s.session q c =
          ({ s with completed := s.completed.remember q },
            (strike env.hid modifier key).2.2 ++ [Effect.ack s.session q .applied]) ∨
       (strike env.hid modifier key).1 = false ∧
        applyControl s env s.session q c =
          (s, (strike env.hid modifier key).2.2 ++
            (releaseAll (strike env.hid modifier key).2.1).2.2 ++
            [Effect.err s.session q .hidNotReady]))) := by
  unfold applyControl
  rw [if_neg (by simp)]
  cases hseen : s.completed.seen q with
  | true => exact Or.inl ⟨rfl, rfl⟩
  | false =>
      rw [if_neg (by simp)]
      by_cases hstop : c = ascii "STOP"
      · exact Or.inr (Or.inl ⟨rfl, hstop, if_pos hstop⟩)
      · rw [if_neg hstop]
        by_cases hres : c = ascii "RESUME"
        · exact Or.inr (Or.inr (Or.inl ⟨rfl, hres, if_pos hres⟩))
        · rw [if_neg hres]
          by_cases hflag : (s.stopped || !s.outputEnabled) = true
          · exact Or.inr (Or.inr (Or.inr (Or.inl ⟨rfl, hstop, hres, hflag, if_pos hflag⟩)))
          · obtain ⟨hs, ho⟩ : s.stopped = false ∧ s.outputEnabled = true := by
              simpa using hflag
            rw [if_neg hflag]
            refine Or.inr (Or.inr (Or.inr (Or.inr ?_)))
            cases hkey : controlReport c with
            | none => exact Or.inl ⟨rfl, hstop, hres, hs, ho, rfl, rfl⟩
            | some mk =>
                refine Or.inr ⟨mk.1, mk.2, rfl, hstop, hres, hs, ho, rfl, ?_⟩
                cases hstrike : (strike env.hid mk.1 mk.2).1 with
                | true => exact Or.inl ⟨rfl, if_pos hstrike⟩
                | false => exact Or.inr ⟨rfl, if_neg (by simp [hstrike])⟩

/-- How a complete text ends. -/
def textEnding (s : State) (q : UInt32) : Ending :=
  if s.completed.seen q then .kept
  else if s.stopped || !s.outputEnabled then .dropped
  else .used

/-- The outcomes of a completed text. -/
theorem finishText_cases (s : State) (env : FrameEnv) (q : UInt32) :
    (s.completed.seen q = true ∧
      finishText s env q = (s, [.ack s.session q .duplicate, .text (.complete q)])) ∨
    (s.completed.seen q = false ∧ (s.stopped || !s.outputEnabled) = true ∧
      finishText s env q = ({ s with text := Buffer.empty },
        Effect.text .clear :: (releaseAll env.hid).2.2 ++
          [Effect.ack s.session q .stopped, .text (.complete q)])) ∨
    (s.completed.seen q = false ∧ s.stopped = false ∧ s.outputEnabled = true ∧
      joinParts bmxMaxPayload [] s.text.message = none ∧
      finishText s env q = ({ s with text := Buffer.empty },
        [Effect.text (.assemble q s.text.message), .text .clear] ++ (releaseAll env.hid).2.2 ++
          [Effect.err s.session q .oversizedText, .text (.complete q)])) ∨
    (∃ text, s.completed.seen q = false ∧ s.stopped = false ∧ s.outputEnabled = true ∧
      joinParts bmxMaxPayload [] s.text.message = some text ∧
      ((typeAscii s env.hidReady env.hid text).1 = true ∧
        finishText s env q =
          ({ s with text := Buffer.empty, completed := s.completed.remember q },
            [Effect.text (.assemble q s.text.message)] ++
              (typeAscii s env.hidReady env.hid text).2.2 ++
              [Effect.text .clear, .ack s.session q .applied, .text (.complete q)]) ∨
       (typeAscii s env.hidReady env.hid text).1 = false ∧
        finishText s env q =
          ({ s with text := Buffer.empty },
            [Effect.text (.assemble q s.text.message)] ++
              (typeAscii s env.hidReady env.hid text).2.2 ++ [Effect.text .clear] ++
              (releaseAll (typeAscii s env.hidReady env.hid text).2.1).2.2 ++
              [Effect.err s.session q .hidNotReadyOrUnsupported, .text (.complete q)]))) := by
  unfold finishText
  cases hseen : s.completed.seen q with
  | true => exact Or.inl ⟨rfl, rfl⟩
  | false =>
      rw [if_neg (by simp)]
      by_cases hflag : (s.stopped || !s.outputEnabled) = true
      · exact Or.inr (Or.inl ⟨rfl, hflag, if_pos hflag⟩)
      · obtain ⟨hs, ho⟩ : s.stopped = false ∧ s.outputEnabled = true := by
          simpa using hflag
        rw [if_neg hflag]
        refine Or.inr (Or.inr ?_)
        cases hjoin : joinParts bmxMaxPayload [] s.text.message with
        | none => exact Or.inl ⟨rfl, hs, ho, rfl, rfl⟩
        | some text =>
            refine Or.inr ⟨text, rfl, hs, ho, rfl, ?_⟩
            cases htyped : (typeAscii s env.hidReady env.hid text).1 with
            | true => exact Or.inl ⟨rfl, if_pos htyped⟩
            | false => exact Or.inr ⟨rfl, if_neg (by simp [htyped])⟩

/-- A text that is complete is kept if it was seen before, dropped while the
output is stopped, and typed otherwise. -/
theorem textEnding_eq {s : State} {q : UInt32} :
    (s.completed.seen q = true → textEnding s q = .kept) ∧
    (s.completed.seen q = false → (s.stopped || !s.outputEnabled) = true →
      textEnding s q = .dropped) ∧
    (s.completed.seen q = false → s.stopped = false → s.outputEnabled = true →
      textEnding s q = .used) := by
  refine ⟨fun h => by simp [textEnding, h], fun h hf => ?_, fun h hs ho => ?_⟩
  · rw [textEnding, if_neg (by simp [h]), if_pos hf]
  · rw [textEnding, if_neg (by simp [h]), if_neg (by simp [hs, ho])]

/-- A completed text ends the buffer as `textEnding` says. -/
theorem finishText_finish (s : State) (env : FrameEnv) (q : UInt32) :
    ((finishText s env q).1.text, textMarks (finishText s env q).2) =
      s.text.finish q (textEnding s q) := by
  have hrel : ∀ hid, textMarks (releaseAll hid).2.2 = [] := fun hid =>
    textMarks_reports (releaseAll_isReport hid)
  obtain ⟨hkept, hdropped, hused⟩ := textEnding_eq (s := s) (q := q)
  rcases finishText_cases s env q with ⟨hq, h⟩ | ⟨hq, hf, h⟩ | ⟨hq, hs, ho, _, h⟩ |
    ⟨text, hq, hs, ho, _, ⟨_, h⟩ | ⟨_, h⟩⟩ <;> rw [h]
  · rw [hkept hq]; rfl
  · rw [hdropped hq hf]
    rw [List.cons_append, ← List.singleton_append, textMarks_append, textMarks_append, hrel]
    rfl
  · rw [hused hq hs ho]
    simp only [Buffer.finish, textMarks_append, hrel, List.append_nil]
    rfl
  · rw [hused hq hs ho]
    simp only [Buffer.finish, textMarks_append, textMarks_reports (typeAscii_reports _ _ _ _),
      List.append_nil]
    rfl
  · rw [hused hq hs ho]
    simp only [Buffer.finish, textMarks_append, textMarks_reports (typeAscii_reports _ _ _ _),
      hrel, List.append_nil]
    rfl

/-- The effects of controls and texts. -/
def Effect.isInput : Effect → Bool
  | .report _ _ => true
  | .ack _ _ _ => true
  | .err _ _ _ => true
  | .text _ => true
  | .stop => true
  | .resume => true
  | _ => false

theorem isInput_of_isReport {t : List Effect} (h : ∀ x ∈ t, x.isReport = true) :
    t.all Effect.isInput = true := by
  rw [List.all_eq_true]
  intro x hx
  have := h x hx
  cases x <;> first | rfl | cases this

theorem wifiMarks_of_isInput {t : List Effect} (h : t.all Effect.isInput = true) :
    wifiMarks t = [] :=
  wifiMarks_eq_nil fun x hx m heq => by
    have := List.all_eq_true.mp h x hx; rw [heq] at this; cases this

theorem finishText_isInput (s : State) (env : FrameEnv) (q : UInt32) :
    (finishText s env q).2.all Effect.isInput = true := by
  have hrel : ∀ hid, (releaseAll hid).2.2.all Effect.isInput = true := fun hid =>
    isInput_of_isReport (releaseAll_isReport hid)
  have htype : ∀ text, (typeAscii s env.hidReady env.hid text).2.2.all Effect.isInput = true :=
    fun text => isInput_of_isReport (typeAscii_reports _ _ _ _)
  rcases finishText_cases s env q with ⟨_, h⟩ | ⟨_, _, h⟩ | ⟨_, _, _, _, h⟩ |
    ⟨text, _, _, _, _, ⟨_, h⟩ | ⟨_, h⟩⟩ <;> rw [h]
  · rfl
  · simp only [List.all_append, List.all_cons, hrel]; rfl
  · simp only [List.all_append, hrel]; rfl
  · simp only [List.all_append, htype]; rfl
  · simp only [List.all_append, htype, hrel]; rfl

theorem handleText_isInput (s : State) (env : FrameEnv) (p : TextPart) :
    (handleText s env p).2.all Effect.isInput = true := by
  have hmarks : ∀ ms : List TextMark, (ms.map Effect.text).all Effect.isInput = true := by
    intro ms
    rw [List.all_eq_true]
    intro x hx
    obtain ⟨m, _, rfl⟩ := List.mem_map.mp hx
    rfl
  unfold handleText
  simp only []
  split
  · rw [List.all_append, List.all_append, hmarks,
      isInput_of_isReport (releaseAll_isReport env.hid)]
    rfl
  · exact hmarks _
  · rw [List.all_append, hmarks, finishText_isInput]; rfl

theorem applyControl_isInput (s : State) (env : FrameEnv) (q : UInt32) (c : Bytes) :
    (applyControl s env s.session q c).2.all Effect.isInput = true := by
  have hrel : ∀ hid, (releaseAll hid).2.2.all Effect.isInput = true := fun hid =>
    isInput_of_isReport (releaseAll_isReport hid)
  have hstrike : ∀ m k, (strike env.hid m k).2.2.all Effect.isInput = true := fun m k =>
    isInput_of_isReport (strike_reports _ _ _)
  rcases applyControl_cases s env q c with ⟨_, h⟩ | ⟨_, _, h⟩ | ⟨_, _, h⟩ | ⟨_, _, _, _, h⟩ |
    ⟨_, _, _, _, _, _, h⟩ | ⟨m, k, _, _, _, _, _, _, ⟨_, h⟩ | ⟨_, h⟩⟩ <;> rw [h]
  · rfl
  · simp only [List.all_append, List.all_cons, hrel]; rfl
  · simp only [List.all_append, List.all_cons, hrel]; rfl
  · simp only [List.all_append, hrel]; rfl
  · rfl
  · simp only [List.all_append, hstrike]; rfl
  · simp only [List.all_append, hstrike, hrel]; rfl

/-- A completed text presses nothing, or an initial part of the message it
assembles. -/
theorem finishText_presses (s : State) (env : FrameEnv) (q : UInt32) :
    pressesOf (finishText s env q).2 = [] ∨
    (.assemble q s.text.message ∈ textMarks (finishText s env q).2 ∧
      pressesOf (finishText s env q).2 <+: strokesOf s.text.message.flatten) := by
  rcases finishText_cases s env q with ⟨_, h⟩ | ⟨_, _, h⟩ | ⟨_, _, _, _, h⟩ |
    ⟨text, _, _, _, hjoin, ⟨_, h⟩ | ⟨_, h⟩⟩ <;> rw [h]
  · exact Or.inl rfl
  · left
    rw [List.cons_append, ← List.singleton_append, pressesOf_append, pressesOf_append,
      pressesOf_releaseAll]
    rfl
  · left; simp only [pressesOf_append, pressesOf_releaseAll]; rfl
  · have htext : text = s.text.message.flatten := joinParts_some hjoin
    refine Or.inr ⟨by simp [textMarks], ?_⟩
    simp only [pressesOf_append, ← htext]
    simpa [pressesOf] using typeAscii_presses s env.hidReady env.hid text
  · have htext : text = s.text.message.flatten := joinParts_some hjoin
    refine Or.inr ⟨by simp [textMarks], ?_⟩
    simp only [pressesOf_append, pressesOf_releaseAll, ← htext]
    simpa [pressesOf] using typeAscii_presses s env.hidReady env.hid text

/-- Keys are pressed only by a part that completes its text. -/
theorem handleText_presses (s : State) (env : FrameEnv) (p : TextPart) :
    pressesOf (handleText s env p).2 = [] ∨
    ∃ parts, .assemble p.key parts ∈ textMarks (handleText s env p).2 ∧
      pressesOf (handleText s env p).2 <+: strokesOf parts.flatten := by
  have hmarks : pressesOf ((s.text.offer env.started (tooOld env.now) p).2.1.map .text) = [] :=
    pressesOf_eq_nil fun x hx => by
      obtain ⟨m, _, rfl⟩ := List.mem_map.mp hx
      exact Or.inl rfl
  unfold handleText
  simp only []
  cases hc : (s.text.offer env.started (tooOld env.now) p).2.2 with
  | expired => left; simp only [pressesOf_append, hmarks, pressesOf_releaseAll]; rfl
  | waiting => exact Or.inl hmarks
  | complete =>
      simp only [pressesOf_append, textMarks_append, hmarks, List.nil_append]
      rcases finishText_presses
        { s with text := (s.text.offer env.started (tooOld env.now) p).1 } env p.key with
        h | ⟨hmem, h⟩
      · exact Or.inl h
      · exact Or.inr ⟨_, List.mem_append_right _ hmem, h⟩

/-! ## Receptions -/

/-- A text part is one reception of the text buffer. -/
theorem handleText_receive (s : State) (env : FrameEnv) (p : TextPart) :
    ((handleText s env p).1.text, textMarks (handleText s env p).2) =
      s.text.receive env.started (tooOld env.now) p (textEnding s p.key) := by
  unfold handleText Buffer.receive
  simp only []
  cases hc : (s.text.offer env.started (tooOld env.now) p).2.2 with
  | expired =>
      simp only [textMarks_append, textMarks_map_text,
        textMarks_reports (releaseAll_isReport env.hid)]
      simp [textMarks, notifyError]
  | waiting => simp
  | complete =>
      have h := finishText_finish
        { s with text := (s.text.offer env.started (tooOld env.now) p).1 } env p.key
      obtain ⟨hbuf, hmarks⟩ := Prod.mk.injEq .. ▸ h
      simp only [textMarks_append, textMarks_map_text, hbuf, hmarks]
      rfl

/-- Typing a text touches neither the session nor Wi-Fi. -/
theorem finishText_frame (s : State) (env : FrameEnv) (q : UInt32) :
    (finishText s env q).1.session = s.session ∧ (finishText s env q).1.wifi = s.wifi := by
  rcases finishText_cases s env q with ⟨_, h⟩ | ⟨_, _, h⟩ | ⟨_, _, _, _, h⟩ |
    ⟨text, _, _, _, _, ⟨_, h⟩ | ⟨_, h⟩⟩ <;> rw [h] <;> exact ⟨rfl, rfl⟩

/-- A text part touches neither the session nor the Wi-Fi buffer. -/
theorem handleText_frame (s : State) (env : FrameEnv) (p : TextPart) :
    (handleText s env p).1.session = s.session ∧ (handleText s env p).1.wifi = s.wifi ∧
      wifiMarks (handleText s env p).2 = [] := by
  have hm := wifiMarks_of_isInput (handleText_isInput s env p)
  refine ⟨?_, ?_, hm⟩
  · unfold handleText
    simp only []
    split
    · rfl
    · rfl
    · exact (finishText_frame { s with text := _ } env p.key).1
  · unfold handleText
    simp only []
    split
    · rfl
    · rfl
    · exact (finishText_frame { s with text := _ } env p.key).2

/-- A completed Wi-Fi payload always leaves the buffer empty. -/
theorem completeWifi_finish (s : State) (q : UInt32) :
    ((completeWifi s q).1.wifi, wifiMarks (completeWifi s q).2) = s.wifi.finish q .used ∧
      (completeWifi s q).1.session = s.session ∧ (completeWifi s q).1.text = s.text ∧
      textMarks (completeWifi s q).2 = [] := by
  unfold completeWifi
  split
  · exact ⟨rfl, rfl, rfl, rfl⟩
  · simp only [sendCommand]
    split <;> exact ⟨rfl, rfl, rfl, rfl⟩

/-- A Wi-Fi part is one reception of the Wi-Fi buffer. -/
theorem handleWifi_receive (s : State) (env : FrameEnv) (p : WifiPart) :
    ((handleWifi s env p).1.wifi, wifiMarks (handleWifi s env p).2) =
      s.wifi.receive env.started (tooOld env.now) p .used := by
  unfold handleWifi Buffer.receive
  simp only []
  cases hc : (s.wifi.offer env.started (tooOld env.now) p).2.2 with
  | expired =>
      simp only [wifiMarks_append, wifiMarks_map_wifi]
      simp [wifiMarks, notifyError]
  | waiting => simp
  | complete =>
      have h := (completeWifi_finish
        { s with wifi := (s.wifi.offer env.started (tooOld env.now) p).1 } p.key).1
      obtain ⟨hbuf, hmarks⟩ := Prod.mk.injEq .. ▸ h
      simp only [wifiMarks_append, wifiMarks_map_wifi, hbuf, hmarks]
      rfl

/-- A Wi-Fi part touches neither the session nor the text. -/
theorem handleWifi_frame (s : State) (env : FrameEnv) (p : WifiPart) :
    (handleWifi s env p).1.session = s.session ∧ (handleWifi s env p).1.text = s.text ∧
      textMarks (handleWifi s env p).2 = [] := by
  have hmarks : textMarks ((s.wifi.offer env.started (tooOld env.now) p).2.1.map .wifi) = [] :=
    textMarks_eq_nil (by simp)
  unfold handleWifi
  simp only []
  cases hc : (s.wifi.offer env.started (tooOld env.now) p).2.2 with
  | expired => exact ⟨rfl, rfl, by rw [textMarks_append, hmarks]; rfl⟩
  | waiting => exact ⟨rfl, rfl, hmarks⟩
  | complete =>
      obtain ⟨_, hs, ht, hm⟩ := completeWifi_finish
        { s with wifi := (s.wifi.offer env.started (tooOld env.now) p).1 } p.key
      exact ⟨hs, ht, by rw [textMarks_append, hmarks, hm]; rfl⟩

/-- A control leaves both buffers alone, or empties the text buffer. -/
theorem applyControl_frame (s : State) (env : FrameEnv) (q : UInt32) (c : Bytes) :
    (applyControl s env s.session q c).1.session = s.session ∧
    (applyControl s env s.session q c).1.wifi = s.wifi ∧
    wifiMarks (applyControl s env s.session q c).2 = [] ∧
    (textMarks (applyControl s env s.session q c).2 = [] ∧
        (applyControl s env s.session q c).1.text = s.text ∨
      textMarks (applyControl s env s.session q c).2 = [.clear] ∧
        (applyControl s env s.session q c).1.text = Buffer.empty) := by
  have hm := wifiMarks_of_isInput (applyControl_isInput s env q c)
  have hrel : ∀ hid, textMarks (releaseAll hid).2.2 = [] := fun hid =>
    textMarks_reports (releaseAll_isReport hid)
  have hstrike : ∀ m k, textMarks (strike env.hid m k).2.2 = [] := fun m k =>
    textMarks_reports (strike_reports _ _ _)
  rcases applyControl_cases s env q c with ⟨_, h⟩ | ⟨_, _, h⟩ | ⟨_, _, h⟩ | ⟨_, _, _, _, h⟩ |
    ⟨_, _, _, _, _, _, h⟩ | ⟨m, k, _, _, _, _, _, _, ⟨_, h⟩ | ⟨_, h⟩⟩ <;> rw [h] at hm ⊢
  · exact ⟨rfl, rfl, hm, Or.inl ⟨rfl, rfl⟩⟩
  · refine ⟨rfl, rfl, hm, Or.inr ⟨?_, rfl⟩⟩
    rw [List.cons_append, ← List.singleton_append, textMarks_append, textMarks_append, hrel]
    rfl
  · refine ⟨rfl, rfl, hm, Or.inl ⟨?_, rfl⟩⟩
    rw [List.cons_append, ← List.singleton_append, textMarks_append, textMarks_append, hrel]
    rfl
  · exact ⟨rfl, rfl, hm, Or.inl ⟨by rw [textMarks_append, hrel]; rfl, rfl⟩⟩
  · exact ⟨rfl, rfl, hm, Or.inl ⟨rfl, rfl⟩⟩
  · exact ⟨rfl, rfl, hm, Or.inl ⟨by rw [textMarks_append, hstrike]; rfl, rfl⟩⟩
  · exact ⟨rfl, rfl, hm, Or.inl ⟨by rw [textMarks_append, textMarks_append, hstrike, hrel]; rfl,
      rfl⟩⟩

theorem Aside.marks {s : State} {r : State × List Effect} (h : Aside s r) :
    textMarks r.2 = [] ∧ wifiMarks r.2 = [] := by
  constructor
  · exact textMarks_eq_nil fun x hx m heq => by
      have := h.2 x hx; rw [heq] at this; cases this
  · exact wifiMarks_eq_nil fun x hx m heq => by
      have := h.2 x hx; rw [heq] at this; cases this

/-- A disconnection forgets the session and both buffers. -/
theorem gapDisconnect_frame (s : State) (hid : List Bool) :
    (gapDisconnect s hid).1.session = [] ∧ (gapDisconnect s hid).1.text = Buffer.empty ∧
      (gapDisconnect s hid).1.wifi = Buffer.empty ∧
      textMarks (gapDisconnect s hid).2 = [.clear] ∧
      wifiMarks (gapDisconnect s hid).2 = [.clear] := by
  obtain ⟨hs, _, _, ht, hw⟩ := sendMgmt_receiver (gapDisconnectReset s hid).1 .bleDisconnected
  refine ⟨hs, ht, hw, ?_, ?_⟩
  · rw [gapDisconnect, gapDisconnectReset, textMarks_append,
      textMarks_reports (releaseAll_isReport hid)]
    rfl
  · rw [gapDisconnect, gapDisconnectReset, wifiMarks_append,
      wifiMarks_reports (releaseAll_isReport hid)]
    rfl

/-- A timeout empties one buffer, both or none. -/
theorem dispatcherTimeout_frame (s : State) (now : Int) :
    (dispatcherTimeout s now).1.session = s.session ∧
    (textMarks (dispatcherTimeout s now).2 = [] ∧ (dispatcherTimeout s now).1.text = s.text ∨
      textMarks (dispatcherTimeout s now).2 = [.clear] ∧
        (dispatcherTimeout s now).1.text = Buffer.empty) ∧
    (wifiMarks (dispatcherTimeout s now).2 = [] ∧ (dispatcherTimeout s now).1.wifi = s.wifi ∨
      wifiMarks (dispatcherTimeout s now).2 = [.clear] ∧
        (dispatcherTimeout s now).1.wifi = Buffer.empty) := by
  unfold dispatcherTimeout
  simp only []
  split <;> split
  · exact ⟨rfl, Or.inr ⟨rfl, rfl⟩, Or.inr ⟨rfl, rfl⟩⟩
  · exact ⟨rfl, Or.inr ⟨rfl, rfl⟩, Or.inl ⟨rfl, rfl⟩⟩
  · exact ⟨rfl, Or.inl ⟨rfl, rfl⟩, Or.inr ⟨rfl, rfl⟩⟩
  · exact ⟨rfl, Or.inl ⟨rfl, rfl⟩, Or.inl ⟨rfl, rfl⟩⟩

end Bootmux.Router
