/-
Bootmux.Firmware.EquivalenceTheorems — the router runs the core protocol
as the bridge does, except that an `OPEN` lifts its stop.

`Linked` relates the two receivers: same session, output flag and
completed cache, buffers alike up to the clock, and neither stopped while
output is on. The stop flags themselves differ: the router's is lifted by
a disconnect and by `OPEN`, the bridge's latch by `RESUME` alone. The
difference shows only when a session is opened while the latch is set, so
a run without that is a simulation, and `Machine.simulation` turns it
into equal observations.

The bridge presses keys of a library and the router sends reports, so the
keys that are held are followed along the bridge's trace (`heldAfter`), and
a stroke of the one is a pair of reports of the other. The frames are read
alike if their fields fit into the router's rows; the clocks agree as long
as no reassembly lasts for 2³² milliseconds. Each operation has one lemma,
and a turn is a frame and a timeout.
-/
import Bootmux.Firmware.Core

namespace Bootmux.Firmware.Core

open Bootmux.Bmx1
open Bootmux.Lib
open Bootmux.Lib.Reassembly

/-! ## Observations split after a step -/

/-- The modifiers held after a bridge trace. -/
def heldAfter (kb : Keyboard) (held : UInt8) : List Bridge.Effect → UInt8
  | [] => held
  | .press key :: t => heldAfter kb (held ||| kb.held key) t
  | .releaseAll :: t => heldAfter kb 0 t
  | _ :: t => heldAfter kb held t

/-- What is seen of two traces is seen of the first and then of the second. -/
theorem observeFrom_append (kb : Keyboard) (held : UInt8) (t u : List Bridge.Effect) :
    observeFrom kb held (t ++ u) =
      observeFrom kb held t ++ observeFrom kb (heldAfter kb held t) u := by
  induction t generalizing held with
  | nil => rfl
  | cons x t ih => cases x <;> simp [observeFrom, heldAfter, ih]

/-- The keys held after two traces are those held after the second. -/
theorem heldAfter_append (kb : Keyboard) (held : UInt8) (t u : List Bridge.Effect) :
    heldAfter kb held (t ++ u) = heldAfter kb (heldAfter kb held t) u := by
  induction t generalizing held with
  | nil => rfl
  | cons x t ih => cases x <;> simp [heldAfter, ih]

/-- What presses no key holds none. -/
theorem heldAfter_no_press (kb : Keyboard) {t : List Bridge.Effect}
    (h : ∀ x ∈ t, ∀ key, x ≠ .press key) : heldAfter kb 0 t = 0 := by
  induction t with
  | nil => rfl
  | cons x t ih =>
      have ht := ih fun y hy => h y (by simp [hy])
      cases x with
      | press key => exact absurd rfl (h _ (by simp) key)
      | _ => exact ht

/-- Handling a part presses no named key. -/
theorem handleText_no_press (s : Bridge.State) (t₁ t₂ : UInt32) (p : Bridge.TextPart) :
    ∀ x ∈ (Bridge.handleText s t₁ t₂ p).2, ∀ key, x ≠ .press key := by
  have hfinish : ∀ s σ q, ∀ x ∈ (Bridge.finishText s σ q).2, ∀ key, x ≠ .press key := by
    intro s σ q x hx key
    rcases Bridge.finishText_cases s σ q with ⟨_, h⟩ | ⟨_, _, h⟩ | ⟨_, _, _, _, h⟩ |
      ⟨_, _, _, _, h⟩ <;> rw [h] at hx
    · rintro rfl; simp at hx
    · rintro rfl; simp at hx
    · rintro rfl; simp at hx
    · rintro rfl
      simp only [List.mem_append, List.mem_cons, reduceCtorEq, List.not_mem_nil, or_false,
        false_or] at hx
      rcases (Bridge.typeASCII_effects hx).2 with h | ⟨c, h⟩ <;> cases h
  intro x hx key
  rcases Bridge.handleText_cases s t₁ t₂ p with ⟨_, h⟩ | ⟨_, h⟩ | ⟨_, h⟩ <;> rw [h] at hx
  · rintro rfl; simp at hx
  · rintro rfl; simp at hx
  · rcases List.mem_append.mp hx with hx | hx
    · rintro rfl; simp at hx
    · exact hfinish _ _ _ x hx key

/-- No modifier is held after a step. -/
theorem step_held (kb : Keyboard) (s : Bridge.State) (e : Bridge.Event) :
    heldAfter kb 0 (Bridge.step s e).2 = 0 := by
  refine Bridge.step_rule s (Q := fun _ r => heldAfter kb 0 r.2 = 0) ?_ ?_ ?_ ?_ ?_ ?_ ?_ e
  · intro _ effs _ hrel
    exact heldAfter_no_press kb fun x hx key => by rw [hrel x hx]; simp
  · rfl
  · rfl
  · intro _; rfl
  · intro _ _ _ _ _; rfl
  · intro _ _ _ q c _
    rcases Bridge.applyControl_cases s q c with ⟨_, h⟩ | ⟨_, _, h⟩ | ⟨_, _, h⟩ | ⟨_, _, h⟩ |
      ⟨_, _, _, _, _, h⟩ <;> rw [h]
    · rfl
    · rfl
    · rfl
    · rfl
    · rw [heldAfter_append]; rfl
  · intro _ _ _ p _ _
    exact heldAfter_no_press kb (handleText_no_press s _ _ p)

theorem observeBridge_traceFrom (kb : Keyboard) (es : List Bridge.Event) (s : Bridge.State)
    (t : List Bridge.Effect) :
    heldAfter kb 0 (Bridge.receiver.traceFrom s es) = 0 ∧
    observeBridge kb (Bridge.receiver.traceFrom s es ++ t) =
      observeBridge kb (Bridge.receiver.traceFrom s es) ++ observeBridge kb t := by
  have hheld : heldAfter kb 0 (Bridge.receiver.traceFrom s es) = 0 := by
    induction es generalizing s with
    | nil => rfl
    | cons e es ih =>
        rw [Machine.traceFrom_cons, heldAfter_append,
          show heldAfter kb 0 (Bridge.receiver.step s e).2 = 0 from step_held kb s e, ih]
  exact ⟨hheld, by rw [observeBridge, observeFrom_append, hheld]; rfl⟩

/-- What is seen of two traces of the router adds up. -/
theorem observeRouter_append (t u : List Router.Effect) :
    observeRouter (t ++ u) = observeRouter t ++ observeRouter u := List.filterMap_append

/-! ## Frames -/

/-- Operations that ask for the same. -/
inductive OpAlike : Bridge.Op → Router.Op → Prop where
  | opened {session : Bytes} (h : session.length < Router.bmxSessionMax) :
      OpAlike (.opened session) (.opened session)
  | control {session control : Bytes} {sequence : UInt32} (h : control ∈ controls) :
      OpAlike (.control session sequence control) (.control session sequence control)
  | text {p : Bridge.TextPart} {p' : Router.TextPart} (h : p.Alike p')
      (horigin : p.origin = p'.origin) : OpAlike (.text p) (.text p')

/-- The router reads a part as the bridge does, if its chunk fits the field.
-/
theorem textPart_alike {sequence : UInt32} {fields : List Bytes} {p : Bridge.TextPart}
    (h : Bridge.textPart sequence fields = some p) (hlen : (fieldAt fields 6).length < fieldMax) :
    ∃ p', Router.framePart Router.bmxMaxParts sequence fields = some p' ∧ p.Alike p' ∧
      p.origin = p'.origin := by
  unfold Bridge.textPart at h
  split at h
  · rename_i part total hpart htotal
    split at h
    · rename_i hb
      obtain rfl := Option.some.inj h
      simp only [Router.framePart, hpart, htotal]
      rw [dif_pos (show total ≠ 0 ∧ total.toNat ≤ Router.bmxMaxParts ∧ part < total from hb)]
      refine ⟨_, rfl, ⟨rfl, rfl, rfl, ?_⟩, rfl⟩
      exact (List.take_of_length_le (Nat.le_pred_of_lt hlen)).symm
    · cases h
  · cases h

theorem fieldAt_mem_or_nil (fields : List Bytes) (i : Nat) :
    fieldAt fields i ∈ fields ∨ fieldAt fields i = [] := by
  unfold fieldAt
  rw [List.getD_eq_getElem?_getD]
  cases h : fields[i]? with
  | none => exact Or.inr rfl
  | some f => exact Or.inl (List.mem_iff_getElem?.mpr ⟨i, h⟩)

/-- The router reads fields as the bridge does, if they fit. -/
theorem fieldsOp_alike {fields : List Bytes} {op : Bridge.Op}
    (h : Bridge.fieldsOp fields = some op) (hlen : ∀ f ∈ fields, f.length < fieldMax)
    (hopened : ∀ session, op = .opened session → session.length < Router.bmxSessionMax)
    (hcontrol : ∀ session sequence control, op = .control session sequence control →
      fields.length = 5 ∧ control ∈ controls) :
    ∃ op', Router.fieldsOp fields = some op' ∧ OpAlike op op' := by
  have hfield : (fieldAt fields 6).length < fieldMax := by
    rcases fieldAt_mem_or_nil fields 6 with hmem | hnil
    · exact hlen _ hmem
    · rw [hnil]; decide
  unfold Bridge.fieldsOp at h
  unfold Router.fieldsOp
  split at h
  · cases h
  · rename_i hhead
    simp only [Bool.or_eq_true, decide_eq_true_eq, bne_iff_ne, not_or, ne_eq] at hhead
    rw [if_neg (by simpa using hhead)]
    split at h
    · rename_i hopen
      obtain rfl := Option.some.inj h
      rw [if_pos hopen]
      exact ⟨_, rfl, .opened (hopened _ rfl)⟩
    · rename_i hopen
      rw [if_neg hopen]
      split at h
      · cases h
      · rename_i hfive
        rw [if_neg hfive]
        split at h
        · cases h
        · rename_i sequence hseq
          rw [hseq, Option.bind_some, Router.commandOp]
          split at h
          · rename_i hctrl
            obtain rfl := Option.some.inj h
            obtain ⟨hcount, hnamed⟩ := hcontrol _ _ _ rfl
            rw [if_pos ⟨hctrl, hcount⟩]
            exact ⟨_, rfl, .control hnamed⟩
          · rename_i hctrl
            rw [if_neg (fun hc => hctrl hc.1)]
            split at h
            · cases h
            · rename_i htext
              simp only [not_or, not_not] at htext
              obtain ⟨p, hp, rfl⟩ := Option.map_eq_some_iff.mp h
              obtain ⟨p', hp', halike, horigin⟩ := textPart_alike hp hfield
              rw [if_pos htext, hp']
              exact ⟨_, rfl, .text halike horigin⟩

/-- **Both firmwares decode a core frame alike.** -/
theorem coreFrame_alike {bytes : Bytes} (h : coreFrame bytes = true) :
    ∃ op op', Bridge.frameOp bytes = some op ∧ Router.frameOp bytes = some op' ∧
      OpAlike op op' := by
  simp only [coreFrame, Bool.and_eq_true, decide_eq_true_eq, Bool.not_eq_true',
    List.contains_eq_mem, decide_eq_false_iff_not] at h
  obtain ⟨⟨hlen, hnul⟩, hbody⟩ := h
  split at hbody
  · cases hbody
  · rename_i fields hsplit
    have hfields := splitFrame_fields hsplit hnul
    have hrows : fields.map cString = fields := by
      rw [List.map_congr_left fun f hf => cString_of_nulFree (hfields f hf).1, List.map_id']
    have hbridge : ∀ op, Bridge.fieldsOp fields = some op → Bridge.frameOp bytes = some op := by
      intro op hop
      rw [Bridge.frameOp, cString_of_nulFree hnul, hsplit, Option.bind_some, hop]
    have hrouter : ∀ op, Router.fieldsOp fields = some op → Router.frameOp bytes = some op := by
      intro op hop
      rw [Router.frameOp, routerSplitFrame_eq bytes hlen, hsplit, Option.bind_some, hrows, hop]
    have hshort : ∀ f ∈ fields, f.length < fieldMax := fun f hf =>
      Nat.lt_of_le_of_lt (hfields f hf).2 hlen
    cases hop : Bridge.fieldsOp fields with
    | none => rw [hop] at hbody; cases hbody
    | some op =>
        rw [hop] at hbody
        obtain ⟨op', hop', halike⟩ := fieldsOp_alike hop hshort
          (by rintro session rfl; simpa using hbody)
          (by rintro session sequence control rfl; simpa using hbody)
        exact ⟨op, op', hbridge op hop, hrouter op' hop', halike⟩

/-! ## Clocks -/

/-- Stamps taken at the same time, no later than `latest` and less than
2^32 ms before `horizon`. -/
def Clock (latest horizon : Nat) (t : UInt32) (t' : Int) : Prop :=
  ∃ n : Nat, t = UInt32.ofNat n ∧ t' = n ∧ n ≤ latest ∧ horizon < n + 2 ^ 32

/-- Time in 32 bits measures what passed within 2^32 milliseconds. -/
theorem elapsed_ofNat {n now : Nat} (h : n ≤ now) (hlt : now < n + 2 ^ 32) :
    (UInt32.ofNat now - UInt32.ofNat n).toNat = now - n := by
  have hsub : UInt32.ofNat now - UInt32.ofNat n = UInt32.ofNat (now - n) := by
    have hadd : UInt32.ofNat now = UInt32.ofNat (now - n) + UInt32.ofNat n := by
      rw [← UInt32.ofNat_add, Nat.sub_add_cancel h]
    rw [hadd]
    grind
  rw [hsub, UInt32.toNat_ofNat_of_lt' (by simp only [UInt32.size]; omega)]

/-- The two age tests agree. -/
theorem tooOld_alike {latest horizon now : Nat} (hlate : latest ≤ now) (hnow : now ≤ horizon)
    {t : UInt32} {t' : Int} (h : Clock latest horizon t t') :
    Bridge.tooOld (UInt32.ofNat now) t = Router.tooOld now t' := by
  obtain ⟨n, rfl, rfl, hn, hhorizon⟩ := h
  have helapsed : (UInt32.ofNat now - UInt32.ofNat n).toNat = now - n :=
    elapsed_ofNat (by omega) (by omega)
  have htwo : (2000 : UInt32).toNat = 2000 := rfl
  have hlimit : Router.bmxReassemblyTimeoutMs = 2000 := rfl
  rw [Bridge.tooOld, Router.tooOld, decide_eq_decide, gt_iff_lt, UInt32.lt_iff_toNat_lt,
    helapsed, htwo, hlimit]
  omega

/-! ## The relation -/

/-- The two receivers side by side. -/
structure Linked (clock : UInt32 → Int → Prop) (s : Bridge.State) (r : Router.State) : Prop where
  session : s.activeSession = r.session
  output : s.outputEnabled = r.outputEnabled
  running : s.outputEnabled = true → s.stoppedLatch = false ∧ r.stopped = false
  completed : s.completed = r.completed
  buffer : s.reassembly.Alike clock r.text

variable {clock : UInt32 → Int → Prop} {s : Bridge.State} {r : Router.State}

/-- Whether operations are refused is the output flag alone, on both
sides. -/
theorem Linked.refuses (h : Linked clock s r) :
    (s.stoppedLatch || !s.outputEnabled) = !s.outputEnabled ∧
      (r.stopped || !r.outputEnabled) = !s.outputEnabled := by
  rw [← h.output]
  cases hout : s.outputEnabled with
  | false => simp
  | true => simp [h.running hout]

/-- Linked receivers have seen the same messages. -/
theorem Linked.seen (h : Linked clock s r) (q : UInt32) :
    r.completed.seen q = s.completed.seen q := by
  rw [show s.completed = r.completed from h.completed]
  rfl

/-- Linked receivers remember alike. -/
theorem Linked.remember (h : Linked clock s r) (q : UInt32) :
    s.completed.remember q = r.completed.remember q :=
  congrArg (RecentRing.remember · q) h.completed

/-- An OPEN links the receivers, with the same seen of it. -/
theorem openSession_linked (clock : UInt32 → Int → Prop) (kb : Keyboard)
    (hlatch : s.stoppedLatch = false) {session : Bytes}
    (hlen : session.length < Router.bmxSessionMax) :
    Linked clock (Bridge.openSession s session).1 (Router.openSession r session).1 ∧
      observeBridge kb (Bridge.openSession s session).2 =
        observeRouter (Router.openSession r session).2 := by
  have htake : session.take (Router.bmxSessionMax - 1) = session :=
    List.take_of_length_le (Nat.le_pred_of_lt hlen)
  refine ⟨⟨htake.symm, ?_, fun _ => ⟨hlatch, rfl⟩, rfl, Buffer.alike_empty clock⟩, ?_⟩
  · simp [Bridge.openSession, Router.openSession, hlatch]
  · simp [Bridge.openSession, Router.openSession, observeBridge, observeFrom, observeRouter,
      Router.notifyAck, Router.notifyNetwork, htake]

/-! ## Controls -/

theorem strike_ready (modifier key : UInt8) : Router.strike [] modifier key =
    (true, [], [.report modifier key, .report 0 0]) := rfl

/-- The key controls strike the same key. -/
theorem controlKeys_observed {kb : Keyboard} (hkb : kb.UsAnsi) {c : Bytes} (hc : c ∈ controls)
    (hstop : c ≠ ascii "STOP") (hresume : c ≠ ascii "RESUME") (u : List Bridge.Effect) :
    ∃ modifier key, Router.controlReport c = some (modifier, key) ∧
      ¬ (modifier = 0 ∧ key = 0) ∧
      observeBridge kb (Bridge.controlKeys c ++ .releaseAll :: u) =
        .stroke key modifier :: observeBridge kb u := by
  have h99 : usAnsi 0x63 = some (0x06, 0) := by decide +kernel
  have hc' : kb.stroke 0x63 = (0x06, 0) := by
    have h := hkb.printable 0x63 (by decide)
    rw [h99] at h
    exact (Option.some.inj h).symm
  simp only [controls, List.mem_cons, List.not_mem_nil, or_false] at hc
  rcases hc with rfl | rfl | rfl | rfl | rfl
  · refine ⟨0, 0x28, by decide +kernel, by decide, ?_⟩
    rw [show Bridge.controlKeys (ascii "ENTER") = [.write Bridge.keyReturn] by
      unfold Bridge.controlKeys; rw [if_pos rfl]]
    simp [observeBridge, observeFrom, hkb.enter]
  · refine ⟨0, 0x2A, by decide +kernel, by decide, ?_⟩
    have hne : ascii "BACKSPACE" ≠ ascii "ENTER" := by decide +kernel
    rw [show Bridge.controlKeys (ascii "BACKSPACE") = [.write Bridge.keyBackspace] by
      unfold Bridge.controlKeys; rw [if_neg hne, if_pos rfl]]
    simp [observeBridge, observeFrom, hkb.backspace]
  · refine ⟨0x01, 0x06, by decide +kernel, by decide, ?_⟩
    have hne₁ : ascii "CTRL_C" ≠ ascii "ENTER" := by decide +kernel
    have hne₂ : ascii "CTRL_C" ≠ ascii "BACKSPACE" := by decide +kernel
    rw [show Bridge.controlKeys (ascii "CTRL_C") =
        [.press Bridge.keyLeftCtrl, .write 0x63, .releaseAll] by
      unfold Bridge.controlKeys; rw [if_neg hne₁, if_neg hne₂, if_pos rfl]]
    simp [observeBridge, observeFrom, hkb.leftCtrl, hc']
  · exact absurd rfl hstop
  · exact absurd rfl hresume

theorem applyControl_linked {kb : Keyboard} (hkb : kb.UsAnsi) (h : Linked clock s r)
    (env : Router.FrameEnv) (henv : env.hid = []) (q : UInt32) {c : Bytes} (hc : c ∈ controls) :
    Linked clock (Bridge.applyControl s s.activeSession q c).1
        (Router.applyControl r env r.session q c).1 ∧
      observeBridge kb (Bridge.applyControl s s.activeSession q c).2 =
        observeRouter (Router.applyControl r env r.session q c).2 := by
  obtain ⟨hb, hr⟩ := h.refuses
  unfold Bridge.applyControl Router.applyControl
  simp only [ne_eq, not_true_eq_false, if_false, hb, hr, henv, h.seen]
  by_cases hseen : s.completed.seen q = true
  · rw [if_pos hseen, if_pos hseen]
    exact ⟨h, by simp [observeBridge, observeFrom, observeRouter, Router.notifyAck, h.session]⟩
  rw [if_neg hseen, if_neg hseen]
  by_cases hstop : c = ascii "STOP"
  · rw [if_pos hstop, if_pos hstop]
    refine ⟨⟨h.session, rfl, (fun hf => by simp at hf), h.remember q, Buffer.alike_empty clock⟩, ?_⟩
    simp [observeBridge, observeFrom, observeRouter, Router.notifyAck, Router.releaseAll,
      Router.sendHidReport, h.session]
  rw [if_neg hstop, if_neg hstop]
  by_cases hresume : c = ascii "RESUME"
  · rw [if_pos hresume, if_pos hresume]
    refine ⟨⟨h.session, rfl, fun _ => ⟨rfl, rfl⟩, h.remember q, h.buffer⟩, ?_⟩
    simp [observeBridge, observeFrom, observeRouter, Router.notifyAck, Router.releaseAll,
      Router.sendHidReport, h.session]
  rw [if_neg hresume, if_neg hresume]
  by_cases hout : (!s.outputEnabled) = true
  · rw [if_pos hout, if_pos hout]
    refine ⟨h, ?_⟩
    simp [observeBridge, observeFrom, observeRouter, Router.notifyAck, Router.releaseAll,
      Router.sendHidReport, h.session]
  · rw [if_neg hout, if_neg hout]
    obtain ⟨modifier, key, hreport, hne, hobs⟩ :=
      controlKeys_observed hkb hc hstop hresume [.ack s.activeSession q .applied]
    rw [hreport]
    simp only [strike_ready, if_true]
    refine ⟨⟨h.session, h.output, h.running, h.remember q, h.buffer⟩, ?_⟩
    rw [hobs]
    simp [observeBridge, observeFrom, observeRouter, Router.notifyAck, hne, h.session]

/-! ## Texts -/

/-- **The router's layout is US ANSI.** -/
theorem hidKeyForAscii_usAnsi (c : UInt8) (h : Bridge.printable c = true) :
    Router.hidKeyForAscii c = usAnsi c := by
  have hall : ∀ n < 256, Bridge.printable (UInt8.ofNat n) = true →
      Router.hidKeyForAscii (UInt8.ofNat n) = usAnsi (UInt8.ofNat n) := by
    decide +kernel
  have := hall c.toNat c.toNat_lt
  rw [UInt8.ofNat_toNat] at this
  exact this h

/-- The strokes of a text. -/
def strokes (kb : Keyboard) (text : Bytes) : List Observed :=
  text.map fun c => .stroke (kb.stroke c).1 (kb.stroke c).2

theorem typeASCII_observed (kb : Keyboard) {text : Bytes} (hout : s.outputEnabled = true)
    (hprint : text.all Bridge.printable = true) (u : List Bridge.Effect) :
    observeBridge kb (Bridge.typeASCII s text ++ u) = strokes kb text ++ observeBridge kb u := by
  rw [Bridge.typeASCII, if_neg (by simp [hout]), List.append_assoc]
  induction text with
  | nil => rfl
  | cons c text ih =>
      rw [List.all_cons, Bool.and_eq_true] at hprint
      rw [List.flatMap_cons, if_pos hprint.1, List.append_assoc, List.singleton_append,
        observeBridge, observeFrom, ← observeBridge, ih hprint.2, UInt8.or_zero]
      rfl

/-- A ready router types what the bridge's keyboard writes. -/
theorem typeLoop_observed {kb : Keyboard} (hkb : kb.UsAnsi) {text : Bytes}
    (hprint : text.all Bridge.printable = true) :
    (Router.typeLoop [] text).1 = true ∧
      observeRouter (Router.typeLoop [] text).2.2 = strokes kb text := by
  induction text with
  | nil => exact ⟨rfl, rfl⟩
  | cons c text ih =>
      rw [List.all_cons, Bool.and_eq_true] at hprint
      obtain ⟨hok, hobs⟩ := ih hprint.2
      have hkey : Router.hidKeyForAscii c = some (kb.stroke c) := by
        rw [hidKeyForAscii_usAnsi c hprint.1, hkb.printable c hprint.1]
      have hne : (kb.stroke c).1 ≠ 0 :=
        Router.hidKeyForAscii_key c (kb.stroke c).1 (kb.stroke c).2 hkey
      simp only [Router.typeLoop, hkey, Option.getD_some, strike_ready, if_true]
      refine ⟨hok, ?_⟩
      rw [observeRouter_append, hobs]
      simp [observeRouter, strokes, hne]

/-- A ready router types printable text whole. -/
theorem typeAscii_ready {kb : Keyboard} (hkb : kb.UsAnsi) {text : Bytes}
    (hout : r.outputEnabled = true) (hprint : text.all Bridge.printable = true) :
    Router.typeAscii r true [] text = Router.typeLoop [] text := by
  have hvalid : Router.validateAsciiText text = true := by
    rw [Router.validateAsciiText, List.all_eq_true]
    intro c hc
    have hp := List.all_eq_true.mp hprint c hc
    have hkey : Router.hidKeyForAscii c = some (kb.stroke c) := by
      rw [hidKeyForAscii_usAnsi c hp, hkb.printable c hp]
    rw [hkey]
    simpa [Bridge.printable] using hp
  rw [Router.typeAscii, if_neg (by simp [hout, hvalid])]

theorem finishText_linked {kb : Keyboard} (hkb : kb.UsAnsi) (h : Linked clock s r)
    {env : Router.FrameEnv} (hready : env.hidReady = true) (hhid : env.hid = []) (q : UInt32)
    (hprint : s.reassembly.message.flatten.all Bridge.printable = true) :
    Linked clock (Bridge.finishText s s.activeSession q).1 (Router.finishText r env q).1 ∧
      observeBridge kb (Bridge.finishText s s.activeSession q).2 =
        observeRouter (Router.finishText r env q).2 := by
  obtain ⟨hb, hr⟩ := h.refuses
  unfold Bridge.finishText Router.finishText
  simp only [hb, hr, hhid, h.seen, ← h.buffer.message]
  by_cases hseen : s.completed.seen q = true
  · rw [if_pos hseen, if_pos hseen]
    exact ⟨h, by simp [observeBridge, observeFrom, observeRouter, Router.notifyAck, h.session]⟩
  rw [if_neg hseen, if_neg hseen]
  by_cases hout : (!s.outputEnabled) = true
  · rw [if_pos hout, if_pos hout]
    refine ⟨⟨h.session, h.output, h.running, h.completed, Buffer.alike_empty clock⟩, ?_⟩
    simp [observeBridge, observeFrom, observeRouter, Router.notifyAck, Router.releaseAll,
      Router.sendHidReport, h.session]
  rw [if_neg hout, if_neg hout, Router.joinParts_eq _ (Nat.zero_le _), List.nil_append]
  have hlimit : Router.bmxMaxPayload = Bridge.kMaxPayload := rfl
  by_cases hover : s.reassembly.message.flatten.length > Bridge.kMaxPayload
  · rw [if_pos hover, if_pos (hlimit ▸ hover)]
    refine ⟨⟨h.session, h.output, h.running, h.completed, Buffer.alike_empty clock⟩, ?_⟩
    simp [observeBridge, observeFrom, observeRouter, Router.notifyError, Router.releaseAll,
      Router.sendHidReport]
  · rw [if_neg hover, if_neg (hlimit ▸ hover)]
    have hon : s.outputEnabled = true := by simpa using hout
    obtain ⟨hok, hobs⟩ := typeLoop_observed hkb hprint
    simp only [hready, typeAscii_ready hkb (h.output ▸ hon) hprint, hok, if_true]
    refine ⟨⟨h.session, h.output, h.running, h.remember q, Buffer.alike_empty clock⟩, ?_⟩
    rw [observeRouter_append, observeRouter_append, hobs, List.append_assoc]
    simp only [List.singleton_append, observeBridge, observeFrom]
    rw [← observeBridge, typeASCII_observed kb hon hprint]
    simp [observeBridge, observeFrom, observeRouter, Router.notifyAck, h.session]

/-- Marks of the buffer are not seen. -/
theorem observeBridge_marks (kb : Keyboard) (ms : List Bridge.TextMark)
    (u : List Bridge.Effect) :
    observeBridge kb (ms.map .text ++ u) = observeBridge kb u := by
  induction ms with
  | nil => rfl
  | cons m ms ih => exact ih

/-- Marks of the buffer are not seen. -/
theorem observeRouter_marks (ms : List Router.TextMark) (u : List Router.Effect) :
    observeRouter (ms.map .text ++ u) = observeRouter u := by
  induction ms with
  | nil => rfl
  | cons m ms ih => exact ih

/-- A text part keeps the receivers linked. -/
theorem handleText_linked {kb : Keyboard} (hkb : kb.UsAnsi) (h : Linked clock s r)
    {env : Router.FrameEnv} (hready : env.hidReady = true) (hhid : env.hid = [])
    {t₁ t₂ : UInt32} (hstarted : clock t₁ env.started)
    (hexp : ∀ t t', clock t t' → Bridge.tooOld t₂ t = Router.tooOld env.now t')
    {p : Bridge.TextPart} {p' : Router.TextPart} (hp : p.Alike p')
    (hprint : (s.reassembly.offer t₁ (Bridge.tooOld t₂) p).2.2 = .complete →
      (s.reassembly.offer t₁ (Bridge.tooOld t₂) p).1.message.flatten.all
        Bridge.printable = true) :
    Linked clock (Bridge.handleText s t₁ t₂ p).1 (Router.handleText r env p').1 ∧
      observeBridge kb (Bridge.handleText s t₁ t₂ p).2 =
        observeRouter (Router.handleText r env p').2 := by
  obtain ⟨hbuffer, hout⟩ := offer_alike h.buffer hp hstarted hexp
  have hlinked : Linked clock
      { s with reassembly := (s.reassembly.offer t₁ (Bridge.tooOld t₂) p).1 }
      { r with text := (r.text.offer env.started (Router.tooOld env.now) p').1 } :=
    ⟨h.session, h.output, h.running, h.completed, hbuffer⟩
  unfold Bridge.handleText Router.handleText
  simp only [← hout, hhid]
  cases hoffer : (s.reassembly.offer t₁ (Bridge.tooOld t₂) p).2.2 with
  | expired =>
      refine ⟨hlinked, ?_⟩
      rw [observeBridge_marks, List.append_assoc, observeRouter_marks]
      simp [observeBridge, observeFrom, observeRouter, Router.notifyError, Router.releaseAll,
        Router.sendHidReport]
  | waiting =>
      refine ⟨hlinked, ?_⟩
      have hb := observeBridge_marks kb (s.reassembly.offer t₁ (Bridge.tooOld t₂) p).2.1 []
      have hr := observeRouter_marks
        (r.text.offer env.started (Router.tooOld env.now) p').2.1 []
      rw [List.append_nil] at hb hr
      rw [hb, hr]
      rfl
  | complete =>
      obtain ⟨hfin, hobs⟩ := finishText_linked hkb hlinked hready hhid p.key (hprint hoffer)
      rw [← hp.1]
      refine ⟨hfin, ?_⟩
      rw [observeBridge_marks, observeRouter_marks]
      exact hobs

/-! ## Turns -/

theorem frame_linked {kb : Keyboard} (hkb : kb.UsAnsi) (h : Linked clock s r)
    {started now : Nat} (hstarted : clock (UInt32.ofNat started) started)
    (hexp : ∀ t t', clock t t' → Bridge.tooOld (UInt32.ofNat now) t = Router.tooOld now t')
    {bytes : Bytes} (hcore : coreFrame bytes = true)
    (hprint : completesPrintable s started now bytes = true)
    (hlatch : ∀ session, Bridge.frameOp bytes = some (.opened session) →
      s.stoppedLatch = false) :
    let e := Bridge.step s (.frame (UInt32.ofNat started) (UInt32.ofNat now) bytes)
    let e' := Router.step r (.frame (quietEnv started now) bytes)
    Linked clock e.1 e'.1 ∧ observeBridge kb e.2 = observeRouter e'.2 := by
  obtain ⟨op, op', hop, hop', halike⟩ := coreFrame_alike hcore
  simp only [Bridge.step_frame hop, Router.step, Router.handleFrame, hop']
  cases halike with
  | opened hlen => exact openSession_linked clock kb (hlatch _ hop) hlen
  | @control session control sequence hnamed =>
      simp only [Bridge.act, Router.act, Router.Op.session, ← h.session]
      by_cases hsess : session = s.activeSession
      · subst hsess
        simp only [if_true, Router.perform, h.session]
        have := applyControl_linked hkb h (quietEnv started now) rfl sequence hnamed
        rw [h.session] at this
        exact this
      · rw [if_neg hsess, if_neg hsess]
        exact ⟨h, rfl⟩
  | @text p p' hp horigin =>
      simp only [Bridge.act, Router.act, Router.Op.session, ← h.session, ← horigin]
      by_cases hsess : p.origin = s.activeSession
      · rw [if_pos hsess, if_pos hsess]
        refine handleText_linked hkb h rfl rfl hstarted hexp hp fun hcomplete => ?_
        simpa [completesPrintable, hop, hsess, hcomplete] using hprint
      · rw [if_neg hsess, if_neg hsess]
        exact ⟨h, rfl⟩

/-- The timeout check leaves no stamp older than two seconds. -/
theorem tick_linked (kb : Keyboard) {latest horizon checked : Nat}
    (h : Linked (Clock latest horizon) s r) (hlate : latest ≤ checked)
    (hhorizon : checked ≤ horizon) :
    let e := Bridge.step s (.tick (UInt32.ofNat checked))
    let e' := Router.step r (.tick checked)
    Linked (Clock checked (checked + 2 ^ 31)) e.1 e'.1 ∧
      observeBridge kb e.2 = [] ∧ observeRouter e'.2 = [] := by
  simp only [Bridge.step, Bridge.loopTimeout, Router.step]
  have hrouter : observeRouter (Router.dispatcherTimeout r checked).2 = [] := by
    unfold Router.dispatcherTimeout
    simp only []
    split <;> split <;> rfl
  have hfields : (Router.dispatcherTimeout r checked).1.session = r.session ∧
      (Router.dispatcherTimeout r checked).1.outputEnabled = r.outputEnabled ∧
      (Router.dispatcherTimeout r checked).1.stopped = r.stopped ∧
      (Router.dispatcherTimeout r checked).1.completed = r.completed ∧
      (Router.dispatcherTimeout r checked).1.text =
        if r.text.key ≠ 0 ∧ Router.tooOld checked r.text.started = true then Buffer.empty
        else r.text := by
    unfold Router.dispatcherTimeout
    simp only []
    split <;> split <;> exact ⟨rfl, rfl, rfl, rfl, rfl⟩
  obtain ⟨hsession, houtput, hstopped, hcompleted, htext⟩ := hfields
  have hguard : (s.reassembly.key ≠ 0 ∧
      Bridge.tooOld (UInt32.ofNat checked) s.reassembly.started = true) ↔
      (r.text.key ≠ 0 ∧ Router.tooOld checked r.text.started = true) := by
    rw [← h.buffer.key]
    refine and_congr_right fun h0 => ?_
    rw [tooOld_alike hlate hhorizon (h.buffer.started h0)]
  by_cases hold : s.reassembly.key ≠ 0 ∧
      Bridge.tooOld (UInt32.ofNat checked) s.reassembly.started = true
  · rw [if_pos hold]
    rw [if_pos (hguard.mp hold)] at htext
    refine ⟨⟨h.session.trans hsession.symm, h.output.trans houtput.symm, ?_,
      h.completed.trans hcompleted.symm, ?_⟩, rfl, hrouter⟩
    · rw [hstopped]; exact h.running
    · rw [htext]; exact Buffer.alike_empty _
  · rw [if_neg hold]
    rw [if_neg (fun hr => hold (hguard.mpr hr))] at htext
    refine ⟨⟨h.session.trans hsession.symm, h.output.trans houtput.symm, ?_,
      h.completed.trans hcompleted.symm, ?_⟩, rfl, hrouter⟩
    · rw [hstopped]; exact h.running
    · rw [htext]
      refine { h.buffer with started := fun h0 => ?_ }
      obtain ⟨n, hn, hn', hle, hlt⟩ := h.buffer.started h0
      refine ⟨n, hn, hn', by omega, ?_⟩
      have hfresh : ¬ Router.tooOld checked r.text.started = true := fun hr =>
        hold (hguard.mpr ⟨h.buffer.key ▸ h0, hr⟩)
      have hlimit : Router.bmxReassemblyTimeoutMs = 2000 := rfl
      rw [Router.tooOld, decide_eq_true_eq, hn', hlimit] at hfresh
      omega

/-- The relation between turns: the last check was at `s.1`. -/
def LinkedAt (s : Nat × Bridge.State) (r : Router.State) : Prop :=
  Linked (Clock s.1 (s.1 + 2 ^ 31)) s.2 r

theorem disconnect_linked (kb : Keyboard) (h : Linked clock s r) :
    Linked clock (Bridge.step s .disconnect).1 (Router.step r (.disconnect [])).1 ∧
      observeBridge kb (Bridge.step s .disconnect).2 =
        observeRouter (Router.step r (.disconnect [])).2 := by
  obtain ⟨hsession, htext, _⟩ := Router.gapDisconnect_frame r []
  have hrest : (Router.gapDisconnect r []).1.outputEnabled = false ∧
      (Router.gapDisconnect r []).1.completed = r.completed :=
    ⟨(Router.sendMgmt_receiver (Router.gapDisconnectReset r []).1 .bleDisconnected).2.1,
      Router.sendMgmt_completed (Router.gapDisconnectReset r []).1 .bleDisconnected⟩
  refine ⟨⟨hsession.symm, hrest.1.symm, (fun hf => by cases hf),
    h.completed.trans hrest.2.symm, ?_⟩, rfl⟩
  rw [Router.step, htext]
  exact Buffer.alike_empty clock

/-- After a frame that links the receivers, so does the timeout check. -/
theorem frame_tick_linked (kb : Keyboard) {T started now checked : Nat} {bytes : Bytes}
    (hlink : Linked (Clock now (T + 2 ^ 31))
      (Bridge.step s (.frame (UInt32.ofNat started) (UInt32.ofNat now) bytes)).1
      (Router.step r (.frame (quietEnv started now) bytes)).1)
    (hobs : observeBridge kb
        (Bridge.step s (.frame (UInt32.ofNat started) (UInt32.ofNat now) bytes)).2 =
      observeRouter (Router.step r (.frame (quietEnv started now) bytes)).2)
    (hnow : now ≤ checked) (hchecked : checked < T + 2 ^ 31) :
    LinkedAt (bridgeTurns.step (T, s) (.pass started now checked (some bytes))).1
        (routerTurns.step r (.pass started now checked (some bytes))).1 ∧
      observeBridge kb (bridgeTurns.step (T, s) (.pass started now checked (some bytes))).2 =
        observeRouter (routerTurns.step r (.pass started now checked (some bytes))).2 := by
  obtain ⟨hlink', hb, hr⟩ := tick_linked kb hlink hnow (by omega)
  simp only [bridgeTurns, routerTurns, bridgeEvents, routerEvents, Option.map_some,
    Option.toList_some, List.singleton_append, Machine.runFrom_cons, Machine.runFrom_nil,
    Machine.traceFrom_cons, Machine.traceFrom_nil, List.append_nil]
  refine ⟨hlink', ?_⟩
  rw [observeRouter_append, observeBridge, observeFrom_append,
    show heldAfter kb 0 (Bridge.receiver.step s _).2 = 0 from step_held kb s _]
  exact congrArg₂ (· ++ ·) hobs (hb.trans hr.symm)

/-- A pass: a frame, if there is one, and the timeout check. -/
theorem pass_linked {kb : Keyboard} (hkb : kb.UsAnsi) {T started now checked : Nat}
    {frame : Option Bytes} (h : LinkedAt (T, s) r)
    (hwell : WellFormed (T, s) (.pass started now checked frame))
    (hlatch : Unlatched (T, s) (.pass started now checked frame)) :
    LinkedAt (bridgeTurns.step (T, s) (.pass started now checked frame)).1
        (routerTurns.step r (.pass started now checked frame)).1 ∧
      observeBridge kb (bridgeTurns.step (T, s) (.pass started now checked frame)).2 =
        observeRouter (routerTurns.step r (.pass started now checked frame)).2 := by
  obtain ⟨hT, hstarted, hnow, hchecked, hframe⟩ := hwell
  simp only [] at hT hchecked hframe
  have hlinked : Linked (Clock now (T + 2 ^ 31)) s r := { h with
    buffer := h.buffer.mono fun t t' ⟨n, hn, hn', hle, hlt⟩ => ⟨n, hn, hn', by
      simp only [] at hle; omega, hlt⟩ }
  cases frame with
  | none =>
      obtain ⟨hlink, hb, hr⟩ := tick_linked kb hlinked hnow (by omega)
      simp only [bridgeTurns, routerTurns, bridgeEvents, routerEvents, Option.map_none,
        Option.toList_none, List.nil_append, Machine.runFrom_cons, Machine.runFrom_nil,
        Machine.traceFrom_cons, Machine.traceFrom_nil, List.append_nil]
      exact ⟨hlink, hb.trans hr.symm⟩
  | some bytes =>
      obtain ⟨hcore, hprint⟩ := hframe bytes rfl
      obtain ⟨hlink, hobs⟩ := frame_linked hkb hlinked
        ⟨started, rfl, rfl, hstarted, by omega⟩
        (fun t t' ht => tooOld_alike (Nat.le_refl now) (by omega) ht) hcore hprint
        (fun session hop => hlatch (by simp [Turn.opens, hop]))
      exact frame_tick_linked kb hlink hobs hnow hchecked

theorem turn_linked {kb : Keyboard} (hkb : kb.UsAnsi) (s : Nat × Bridge.State)
    (r : Router.State) (e : Turn) (h : LinkedAt s r) (hp : WellFormed s e ∧ Unlatched s e) :
    LinkedAt (bridgeTurns.step s e).1 (routerTurns.step r e).1 ∧
      observeBridge kb (bridgeTurns.step s e).2 = observeRouter (routerTurns.step r e).2 := by
  cases e with
  | connect => exact ⟨⟨h.session, h.output, h.running, h.completed, h.buffer⟩, rfl⟩
  | disconnect =>
      obtain ⟨hlink, hobs⟩ := disconnect_linked kb h
      simp only [bridgeTurns, routerTurns, bridgeEvents, routerEvents, Machine.runFrom_cons,
        Machine.runFrom_nil, Machine.traceFrom_cons, Machine.traceFrom_nil, List.append_nil]
      exact ⟨hlink, hobs⟩
  | pass started now checked frame => exact pass_linked hkb h hp.1 hp.2

/-- The first `OPEN` links the receivers, whatever came before. -/
theorem opening_linked (kb : Keyboard) {s : Nat × Bridge.State} {r : Router.State} {e : Turn}
    (hopen : e.opens.isSome = true) (hwell : WellFormed s e) (hlatch : Unlatched s e) :
    LinkedAt (bridgeTurns.step s e).1 (routerTurns.step r e).1 ∧
      observeBridge kb (bridgeTurns.step s e).2 = observeRouter (routerTurns.step r e).2 := by
  have hoff : s.2.stoppedLatch = false := hlatch hopen
  unfold Turn.opens at hopen
  split at hopen
  · rename_i started now checked bytes
    split at hopen
    · rename_i session hop
      obtain ⟨_, _, hnow, hchecked, hframe⟩ := hwell
      obtain ⟨op, op', hop₁, hop₂, halike⟩ := coreFrame_alike (hframe bytes rfl).1
      rw [hop] at hop₁
      obtain rfl := Option.some.inj hop₁
      cases halike with
      | opened hlen =>
          obtain ⟨hlink, hobs⟩ :=
            openSession_linked (r := r) (Clock now (s.1 + 2 ^ 31)) kb hoff hlen
          refine frame_tick_linked kb ?_ ?_ hnow hchecked
          · rw [Bridge.step_frame hop, Router.step, Router.handleFrame, hop₂]; exact hlink
          · rw [Bridge.step_frame hop, Router.step, Router.handleFrame, hop₂]; exact hobs
    · cases hopen
  · cases hopen

/-- The turns of the bridge are its events, in order. -/
theorem bridgeTurns_trace (es : List Turn) (s : Nat × Bridge.State) :
    bridgeTurns.traceFrom s es = Bridge.receiver.traceFrom s.2 (es.flatMap bridgeEvents) := by
  induction es generalizing s with
  | nil => rfl
  | cons e es ih =>
      rw [List.flatMap_cons, Machine.traceFrom_append, Machine.traceFrom_cons, ih]
      rfl

/-- The turns of the router are its events, in order. -/
theorem routerTurns_trace (es : List Turn) (r : Router.State) :
    routerTurns.traceFrom r es = Router.router.traceFrom r (es.flatMap routerEvents) := by
  induction es generalizing r with
  | nil => rfl
  | cons e es ih =>
      rw [List.flatMap_cons, Machine.traceFrom_append, Machine.traceFrom_cons, ih]
      rfl

/-- **The router preserves the core semantics of the bridge.** On every
well-formed run that starts with an `OPEN` and opens no session while the
bridge is stopped, the two firmwares strike the same keys and send the
same acknowledgements, in the same order. -/
theorem core_semantics_preserved (kb : Keyboard) (hkb : kb.UsAnsi) (first : Turn)
    (rest : List Turn) (hopen : first.opens.isSome = true)
    (hwell : bridgeTurns.AllSteps WellFormed bridgeTurns.init (first :: rest))
    (hlatch : bridgeTurns.AllSteps Unlatched bridgeTurns.init (first :: rest)) :
    observeBridge kb (Bridge.receiver.trace ((first :: rest).flatMap bridgeEvents)) =
      observeRouter (Router.router.trace ((first :: rest).flatMap routerEvents)) := by
  obtain ⟨hlink, hobs⟩ := opening_linked kb (r := Router.boot) hopen hwell.1 hlatch.1
  have hboth : bridgeTurns.AllSteps (fun s e => WellFormed s e ∧ Unlatched s e)
      (bridgeTurns.step bridgeTurns.init first).1 rest := by
    rw [Machine.allSteps_iff_split]
    intro pre e post hsplit
    exact ⟨(Machine.allSteps_iff_split _ _ _ _).mp hwell.2 pre e post hsplit,
      (Machine.allSteps_iff_split _ _ _ _).mp hlatch.2 pre e post hsplit⟩
  have hsim := bridgeTurns.simulation routerTurns LinkedAt
    (fun s e => WellFormed s e ∧ Unlatched s e) (observeBridge kb) observeRouter
    (fun s e t => (observeBridge_traceFrom kb (bridgeEvents e) s.2 t).2) observeRouter_append
    (fun s r e h hp => turn_linked hkb s r e h hp) rfl rest _ _ hlink hboth
  have htrace : observeBridge kb (bridgeTurns.traceFrom bridgeTurns.init (first :: rest)) =
      observeRouter (routerTurns.traceFrom routerTurns.init (first :: rest)) := by
    rw [Machine.traceFrom_cons, Machine.traceFrom_cons, observeRouter_append]
    exact ((observeBridge_traceFrom kb (bridgeEvents first) bridgeTurns.init.2 _).2).trans
      (congrArg₂ (· ++ ·) hobs hsim)
  have hb := bridgeTurns_trace (first :: rest) bridgeTurns.init
  have hr := routerTurns_trace (first :: rest) routerTurns.init
  rw [Machine.trace, Machine.trace, show Bridge.receiver.init = bridgeTurns.init.2 from rfl,
    show Router.router.init = routerTurns.init from rfl, ← hb, ← hr]
  exact htrace

/-- A keyboard library as the bridge uses it: characters by the US ANSI
layout, modifier keys from `0x80` on, other keys by usage from `0x88` on. -/
def usKeyboard : Keyboard where
  stroke key := if key < 0x80 then (usAnsi key).getD (0, 0) else (key - 0x88, 0)
  held key := if key < 0x80 ∨ 0x88 ≤ key then 0 else 1 <<< (key - 0x80)

theorem usKeyboard_usAnsi : usKeyboard.UsAnsi where
  printable := by
    intro c hc
    have hall : ∀ n < 256, Bridge.printable (UInt8.ofNat n) = true →
        usAnsi (UInt8.ofNat n) = some (usKeyboard.stroke (UInt8.ofNat n)) := by
      decide +kernel
    have := hall c.toNat c.toNat_lt
    rw [UInt8.ofNat_toNat] at this
    exact this hc
  enter := by decide +kernel
  backspace := by decide +kernel
  leftCtrl := by decide +kernel

/-- A run with a text, a control, a stop and a resume. -/
theorem core_semantics_preserved_resumed :
    let turns : List Turn := [.pass 0 0 0 (some (ascii "BMX1|OPEN|a")),
      .pass 10 10 10 (some (ascii "BMX1|TEXT|a|1|1|2|z")),
      .pass 20 20 20 (some (ascii "BMX1|TEXT|a|1|0|2|Q")),
      .pass 30 30 30 (some (ascii "BMX1|CTRL|a|2|STOP")),
      .pass 40 40 40 (some (ascii "BMX1|CTRL|a|3|RESUME")),
      .pass 50 50 50 (some (ascii "BMX1|CTRL|a|4|CTRL_C"))]
    observeBridge usKeyboard (Bridge.receiver.trace (turns.flatMap bridgeEvents)) =
      observeRouter (Router.router.trace (turns.flatMap routerEvents)) :=
  core_semantics_preserved usKeyboard usKeyboard_usAnsi _ _ (by decide +kernel)
    (by decide +kernel) (by decide +kernel)

/-- Opening a new session lifts the stop on the router, not on the bridge. -/
theorem core_semantics_stop_lifted :
    let turns : List Turn := [.pass 0 0 0 (some (ascii "BMX1|OPEN|a")),
      .pass 10 10 10 (some (ascii "BMX1|CTRL|a|1|STOP")),
      .pass 20 20 20 (some (ascii "BMX1|OPEN|b")),
      .pass 30 30 30 (some (ascii "BMX1|CTRL|b|1|ENTER"))]
    bridgeTurns.AllSteps WellFormed bridgeTurns.init turns ∧
    observeBridge usKeyboard (Bridge.receiver.trace (turns.flatMap bridgeEvents)) =
      [.ack (ascii "a") 0 .opened, .ack (ascii "a") 1 .stopped, .ack (ascii "b") 0 .opened,
        .ack (ascii "b") 1 .stopped] ∧
    observeRouter (Router.router.trace (turns.flatMap routerEvents)) =
      [.ack (ascii "a") 0 .opened, .ack (ascii "a") 1 .stopped, .ack (ascii "b") 0 .opened,
        .stroke 0x28 0, .ack (ascii "b") 1 .applied] ∧
    ¬ observeBridge usKeyboard (Bridge.receiver.trace (turns.flatMap bridgeEvents)) =
      observeRouter (Router.router.trace (turns.flatMap routerEvents)) := by
  decide +kernel

end Bootmux.Firmware.Core
