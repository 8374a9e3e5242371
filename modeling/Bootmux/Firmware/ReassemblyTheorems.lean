/-
Bootmux.Firmware.ReassemblyTheorems — when the reassemblies of the two
firmwares keep operations apart.

The bridge reassembles texts, the router texts and Wi-Fi payloads. Each
of the three buffers is a `View` of its machine, so `View.noMixing_run`
applies to all of them. What is typed or provisioned is tied to the
assembled messages by `bridge_text_typed`, `router_text_typed` and
`router_wifi_provisioned`.

Two things break the separation, in both firmwares. Sequence `0` is a
sequence on the wire and the idle mark of the buffer, so parts sent
under it are kept for the next operation. And a text that is answered
`DUPLICATE` stays in the buffer complete, to be used again if its
sequence leaves the completed cache before the timeout. The result is
about the runs without either.
-/
import Bootmux.Lib.ReassemblyRuns
import Bootmux.Bridge.ReceiverTheorems
import Bootmux.Router.DispatcherTheorems

namespace Bootmux.Firmware

open Bootmux.Bmx1
open Bootmux.Lib
open Bootmux.Lib.Reassembly

/-! ## The three buffers -/

/-- The text part of a frame. -/
def bridgeTextPart (e : Bridge.Event) : Option Bridge.TextPart :=
  match e.op with
  | some (.text p) => some p
  | _ => none

def routerTextPart (e : Router.Event) : Option Router.TextPart :=
  match e.op with
  | some (.text p) => some p
  | _ => none

/-- The Wi-Fi part of a frame. -/
def routerWifiPart (e : Router.Event) : Option Router.WifiPart :=
  match e.op with
  | some (.wifi p) => some p
  | _ => none

def bridgeText : View Bridge.receiver Bridge.kMaxParts UInt32 UInt32 Bytes Bytes where
  marks := Bridge.marksOf
  buffer := Bridge.State.reassembly
  session := Bridge.State.activeSession
  carried := bridgeTextPart
  ending := Bridge.textEnding
  marks_append := Bridge.marksOf_append
  marks_nil := rfl
  buffer_init := rfl
  step := by
    intro s
    refine Bridge.step_rule s (Q := fun e r => BufferStep s.activeSession r.1.activeSession
      s.reassembly r.1.reassembly (Bridge.marksOf r.2) (bridgeTextPart e)
      (Bridge.textEnding s)) ?_ ?_ ?_ ?_ ?_ ?_ ?_
    · intro e effs _ hrel
      exact Or.inl ⟨Bridge.marksOf_eq_nil fun x hx m => by rw [hrel x hx]; simp, rfl, rfl⟩
    · exact Or.inl ⟨rfl, rfl, rfl⟩
    · exact Or.inr (Or.inl ⟨rfl, by simp [Bridge.onDisconnect, Bridge.marksOf]⟩)
    · intro now; exact Or.inr (Or.inl ⟨rfl, by simp [Bridge.marksOf]⟩)
    · intro _ _ _ session _
      exact Or.inr (Or.inl ⟨rfl, by simp [Bridge.openSession, Bridge.marksOf]⟩)
    · intro _ _ _ q c _
      obtain ⟨hs, ⟨hm, hb⟩ | ⟨hm, hb⟩⟩ := Bridge.applyControl_frame s q c
      · exact Or.inl ⟨hm, hb, hs⟩
      · exact Or.inr (Or.inl ⟨hb, by simp [hm]⟩)
    · intro t₁ t₂ bytes p hop hp
      exact Or.inr (Or.inr ⟨p, t₁, Bridge.tooOld t₂, by
        simp [bridgeTextPart, Bridge.Event.op, hop], hp,
        Bridge.handleText_session s t₁ t₂ p, Bridge.handleText_receive s t₁ t₂ p⟩)

def routerText : View Router.router Router.bmxMaxParts UInt32 Int Bytes Bytes where
  marks := Router.textMarks
  buffer := Router.State.text
  session := Router.State.session
  carried := routerTextPart
  ending := Router.textEnding
  marks_append := Router.textMarks_append
  marks_nil := rfl
  buffer_init := rfl
  step := by
    intro s
    refine Router.step_rule s (Q := fun e r => BufferStep s.session r.1.session s.text r.1.text
      (Router.textMarks r.2) (routerTextPart e) (Router.textEnding s)) ?_ ?_ ?_ ?_ ?_ ?_ ?_
    · intro e r _ _ h; exact Or.inl ⟨h.marks.1, h.1.2.2.2.1, h.1.1⟩
    · intro hid
      obtain ⟨_, ht, _, hm, _⟩ := Router.gapDisconnect_frame s hid
      exact Or.inr (Or.inl ⟨ht, by simp [hm]⟩)
    · intro now
      obtain ⟨hs, ⟨hm, ht⟩ | ⟨hm, ht⟩, _⟩ := Router.dispatcherTimeout_frame s now
      · exact Or.inl ⟨hm, ht, hs⟩
      · exact Or.inr (Or.inl ⟨ht, by simp [hm]⟩)
    · intro env bytes session _
      exact Or.inr (Or.inl ⟨rfl, by
        simp [Router.openSession, Router.textMarks, Router.notifyAck, Router.notifyNetwork]⟩)
    · intro env bytes q c _
      obtain ⟨hs, _, _, ⟨hm, ht⟩ | ⟨hm, ht⟩⟩ := Router.applyControl_frame s env q c
      · exact Or.inl ⟨hm, ht, hs⟩
      · exact Or.inr (Or.inl ⟨ht, by simp [hm]⟩)
    · intro env bytes p hop hp
      exact Or.inr (Or.inr ⟨p, env.started, Router.tooOld env.now, by
        simp [routerTextPart, Router.Event.op, hop], hp, (Router.handleText_frame s env p).1,
        Router.handleText_receive s env p⟩)
    · intro env bytes p _ _
      obtain ⟨hs, ht, hm⟩ := Router.handleWifi_frame s env p
      exact Or.inl ⟨hm, ht, hs⟩

def routerWifi : View Router.router Router.bmxWifiParts UInt32 Int Bytes Bytes where
  marks := Router.wifiMarks
  buffer := Router.State.wifi
  session := Router.State.session
  carried := routerWifiPart
  ending := fun _ _ => .used
  marks_append := Router.wifiMarks_append
  marks_nil := rfl
  buffer_init := rfl
  step := by
    intro s
    refine Router.step_rule s (Q := fun e r => BufferStep s.session r.1.session s.wifi r.1.wifi
      (Router.wifiMarks r.2) (routerWifiPart e) (fun _ => .used)) ?_ ?_ ?_ ?_ ?_ ?_ ?_
    · intro e r _ _ h; exact Or.inl ⟨h.marks.2, h.1.2.2.2.2, h.1.1⟩
    · intro hid
      obtain ⟨_, _, hw, _, hm⟩ := Router.gapDisconnect_frame s hid
      exact Or.inr (Or.inl ⟨hw, by simp [hm]⟩)
    · intro now
      obtain ⟨hs, _, ⟨hm, hw⟩ | ⟨hm, hw⟩⟩ := Router.dispatcherTimeout_frame s now
      · exact Or.inl ⟨hm, hw, hs⟩
      · exact Or.inr (Or.inl ⟨hw, by simp [hm]⟩)
    · intro env bytes session _
      exact Or.inr (Or.inl ⟨rfl, by
        simp [Router.openSession, Router.wifiMarks, Router.notifyAck, Router.notifyNetwork]⟩)
    · intro env bytes q c _
      obtain ⟨hs, hw, hm, _⟩ := Router.applyControl_frame s env q c
      exact Or.inl ⟨hm, hw, hs⟩
    · intro env bytes p _ _
      obtain ⟨hs, hw, hm⟩ := Router.handleText_frame s env p
      exact Or.inl ⟨hm, hw, hs⟩
    · intro env bytes p hop hp
      exact Or.inr (Or.inr ⟨p, env.started, Router.tooOld env.now, by
        simp [routerWifiPart, Router.Event.op, hop], hp, (Router.handleWifi_frame s env p).1,
        Router.handleWifi_receive s env p⟩)

/-! ## What is typed and provisioned -/

/-- A part comes with a frame of the bridge. -/
theorem bridgeTextPart_frame {e : Bridge.Event} {p : Bridge.TextPart}
    (h : bridgeTextPart e = some p) :
    ∃ t₁ t₂ bytes, e = .frame t₁ t₂ bytes ∧ Bridge.frameOp bytes = some (.text p) := by
  unfold bridgeTextPart at h
  cases e with
  | frame t₁ t₂ bytes =>
      simp only [Bridge.Event.op] at h
      split at h
      · rename_i q hq; cases h; exact ⟨t₁, t₂, bytes, rfl, hq⟩
      · cases h
  | _ => cases h

/-- A part comes with a frame of the router. -/
theorem routerTextPart_frame {e : Router.Event} {p : Router.TextPart}
    (h : routerTextPart e = some p) :
    ∃ env bytes, e = .frame env bytes ∧ Router.frameOp bytes = some (.text p) := by
  unfold routerTextPart at h
  cases e with
  | frame env bytes =>
      simp only [Router.Event.op] at h
      split at h
      · rename_i q hq; cases h; exact ⟨env, bytes, rfl, hq⟩
      · cases h
  | _ => cases h

/-- A text frame of the bridge types nothing or an assembled message. -/
theorem bridge_text_typed (s : Bridge.State) {e : Bridge.Event} {p : Bridge.TextPart}
    (h : bridgeTextPart e = some p) :
    Bridge.keysOf (Bridge.step s e).2 = [] ∨
    ∃ key parts, .assemble key parts ∈ Bridge.marksOf (Bridge.step s e).2 ∧
      Bridge.keysOf (Bridge.step s e).2 = Bridge.typedKeys parts.flatten := by
  obtain ⟨t₁, t₂, bytes, rfl, hop⟩ := bridgeTextPart_frame h
  rw [Bridge.step_frame hop, Bridge.act]
  split
  · rcases Bridge.handleText_typed s t₁ t₂ p with hnone | ⟨hc, hlatch, hout, hseen, hkeys⟩
    · exact Or.inl hnone
    · refine Or.inr ⟨p.key, _, ?_, hkeys⟩
      have hused : Bridge.textEnding s p.key = .used := by
        simp [Bridge.textEnding, hseen, hlatch, hout]
      have hr := congrArg Prod.snd (Bridge.handleText_receive s t₁ t₂ p)
      simp only [Buffer.receive, hc, hused, Buffer.finish] at hr
      rw [hr]
      simp
  · exact Or.inl rfl

/-- A text frame of the router presses nothing or an initial part of an
assembled message. -/
theorem router_text_typed (s : Router.State) {e : Router.Event} {p : Router.TextPart}
    (h : routerTextPart e = some p) :
    Router.pressesOf (Router.step s e).2 = [] ∨
    ∃ key parts, .assemble key parts ∈ Router.textMarks (Router.step s e).2 ∧
      Router.pressesOf (Router.step s e).2 <+: Router.strokesOf parts.flatten := by
  obtain ⟨env, bytes, rfl, hop⟩ := routerTextPart_frame h
  simp only [Router.step, Router.handleFrame, hop, Router.act, Router.Op.session]
  split
  · rcases Router.handleText_presses s env p with hnone | ⟨parts, hmem, hpre⟩
    · exact Or.inl hnone
    · exact Or.inr ⟨p.key, parts, hmem, hpre⟩
  · exact Or.inl rfl

/-- A Wi-Fi command carries the message that was put together. -/
theorem completeWifi_provisioned {s : Router.State} {q : UInt32} {c : Router.WifiCommand}
    (h : .command c ∈ (Router.completeWifi s q).2) :
    .assemble q s.wifi.message ∈ Router.wifiMarks (Router.completeWifi s q).2 ∧
      c.sequence = q ∧ c.payload = s.wifi.message.flatten := by
  unfold Router.completeWifi at h ⊢
  split at h
  · simp [Router.notifyError] at h
  · rename_i payload hjoin
    have hpayload : payload = s.wifi.message.flatten := Router.joinParts_some hjoin
    simp only [List.mem_append, List.mem_cons, List.not_mem_nil, or_false, reduceCtorEq,
      false_or] at h
    refine ⟨by simp [Router.wifiMarks], ?_⟩
    split at h
    · obtain rfl : c = _ := by simpa using h
      exact ⟨rfl, hpayload⟩
    · simp [Router.notifyError] at h

/-- A command handed to `wifi_task` is an assembled payload. -/
theorem router_wifi_provisioned (s : Router.State) : ∀ e, ∀ c,
    .command c ∈ (Router.step s e).2 →
    ∃ parts, .assemble c.sequence parts ∈ Router.wifiMarks (Router.step s e).2 ∧
      c.payload = parts.flatten := by
  have hrel : ∀ (t : List Router.Effect) c, (∀ x ∈ t, x.isReport = true) →
      .command c ∉ t := fun t c ht hc => by cases ht _ hc
  refine Router.step_rule s (Q := fun _ r => ∀ c, .command c ∈ r.2 →
    ∃ parts, .assemble c.sequence parts ∈ Router.wifiMarks r.2 ∧ c.payload = parts.flatten)
    ?_ ?_ ?_ ?_ ?_ ?_ ?_
  · intro e r _ _ h c hc; cases h.2 _ hc
  · intro hid c hc
    simp only [Router.gapDisconnect, Router.gapDisconnectReset, List.mem_append, List.mem_cons,
      List.not_mem_nil, or_false, reduceCtorEq, false_or] at hc
    exact absurd hc (hrel _ _ (Router.releaseAll_isReport hid))
  · intro now c hc
    simp only [Router.dispatcherTimeout] at hc
    split at hc <;> split at hc <;> simp at hc
  · intro env bytes session _ c hc
    simp [Router.openSession, Router.notifyAck, Router.notifyNetwork] at hc
  · intro env bytes q k _ c hc
    cases List.all_eq_true.mp (Router.applyControl_isInput s env q k) _ hc
  · intro env bytes p _ _ c hc
    cases List.all_eq_true.mp (Router.handleText_isInput s env p) _ hc
  · intro env bytes p _ _ c hc
    simp only [Router.handleWifi] at hc ⊢
    cases ho : (s.wifi.offer env.started (Router.tooOld env.now) p).2.2 with
    | expired => rw [ho] at hc; simp [Router.notifyError] at hc
    | waiting => rw [ho] at hc; simp at hc
    | complete =>
        rw [ho] at hc
        simp only [List.mem_append, List.mem_map, reduceCtorEq, and_false, exists_false,
          false_or] at hc
        obtain ⟨hmem, hseq, hpay⟩ := completeWifi_provisioned hc
        refine ⟨_, ?_, hpay⟩
        rw [Router.wifiMarks_append, hseq]
        exact List.mem_append_right _ hmem

/-! ## Runs that keep operations apart

A Wi-Fi payload is dropped whatever its fate, so of the two conditions
only the one on the sequence is left for it. -/

/-- Accepted parts carry a sequence other than `0`, and no text part is
for a text that the buffer holds complete and that would be typed. -/
def RouterDistinct (s : Router.State) (e : Router.Event) : Prop :=
  routerText.Distinct s e ∧
  ∀ p, routerWifiPart e = some p → p.origin = s.session → p.key ≠ 0

instance (s : Router.State) (e : Router.Event) : Decidable (RouterDistinct s e) :=
  inferInstanceAs (Decidable (routerText.Distinct s e ∧
    ∀ p ∈ routerWifiPart e, p.origin = s.session → p.key ≠ 0))

/-- No step leaves a full Wi-Fi message behind. -/
theorem wifi_notFull_step (s : Router.State) (e : Router.Event)
    (h : s.wifi.key = 0 ∨ s.wifi.full s.wifi.total = false) :
    (Router.step s e).1.wifi.key = 0 ∨
      (Router.step s e).1.wifi.full (Router.step s e).1.wifi.total = false := by
  rcases routerWifi.step s e with ⟨_, hb, _⟩ | ⟨hb, _⟩ | ⟨p, now, expired, _, _, _, hr⟩
  · rw [show (Router.step s e).1.wifi = s.wifi from hb]; exact h
  · rw [show (Router.step s e).1.wifi = Buffer.empty from hb]; exact Or.inl rfl
  · rw [show (Router.step s e).1.wifi = _ from congrArg Prod.fst hr]
    exact receive_notFull (by simp [routerWifi])

/-- What keeps messages apart keeps the Wi-Fi messages apart. -/
theorem wifi_distinct {s : Router.State} {e : Router.Event}
    (hnot : s.wifi.key = 0 ∨ s.wifi.full s.wifi.total = false) (h : RouterDistinct s e) :
    routerWifi.Distinct s e := by
  intro p hp ho
  have hkey : p.key ≠ 0 := h.2 p hp ho
  refine ⟨hkey, ?_⟩
  rintro ⟨hc, _⟩
  simp only [Buffer.holdsComplete, Bool.and_eq_true, beq_iff_eq] at hc
  rcases hnot with h0 | hf
  · exact hkey (hc.1.1 ▸ h0)
  · exact Bool.noConfusion (hf.symm.trans hc.2)

/-- Over a run the Wi-Fi messages are apart. -/
theorem routerWifi_allDistinct {es : List Router.Event}
    (h : Router.router.AllSteps RouterDistinct Router.router.init es) :
    Router.router.AllSteps routerWifi.Distinct Router.router.init es :=
  Router.router.allSteps_of_invariant (fun s e hs _ => wifi_notFull_step s e hs)
    (fun _ _ hs hp => wifi_distinct hs hp) es _ (Or.inl rfl) h

/-- Over a run the texts are apart. -/
theorem routerText_allDistinct {es : List Router.Event}
    (h : Router.router.AllSteps RouterDistinct Router.router.init es) :
    Router.router.AllSteps routerText.Distinct Router.router.init es :=
  Router.router.allSteps_of_invariant (I := fun _ => True) (fun _ _ _ _ => trivial)
    (fun _ _ _ hp => hp.1) es _ trivial h

/-- **Operations are never mixed, in either firmware.** Along every run
whose steps are distinct, each assembled text or payload consists of
parts of its own session, sequence and part count received since the
last clear or completion, and a text frame types, and a Wi-Fi frame
hands on, nothing but an assembled message. -/
theorem operations_never_mixed (es : List Bridge.Event) (fs : List Router.Event)
    (hb : Bridge.receiver.AllSteps bridgeText.Distinct Bridge.receiver.init es)
    (hr : Router.router.AllSteps RouterDistinct Router.router.init fs) :
    (bridgeText.NoMixing es ∧
      ∀ before e after p, es = before ++ e :: after → bridgeTextPart e = some p →
        let effs := (Bridge.step (Bridge.receiver.run before) e).2
        Bridge.keysOf effs = [] ∨ ∃ key parts, .assemble key parts ∈ Bridge.marksOf effs ∧
          Bridge.keysOf effs = Bridge.typedKeys parts.flatten) ∧
    (routerText.NoMixing fs ∧ routerWifi.NoMixing fs ∧
      ∀ before e after, fs = before ++ e :: after →
        let effs := (Router.step (Router.router.run before) e).2
        (∀ p, routerTextPart e = some p → Router.pressesOf effs = [] ∨
          ∃ key parts, .assemble key parts ∈ Router.textMarks effs ∧
            Router.pressesOf effs <+: Router.strokesOf parts.flatten) ∧
        (∀ c, .command c ∈ effs → ∃ parts,
          .assemble c.sequence parts ∈ Router.wifiMarks effs ∧ c.payload = parts.flatten)) := by
  refine ⟨⟨bridgeText.noMixing_run es hb, ?_⟩, routerText.noMixing_run fs
    (routerText_allDistinct hr), routerWifi.noMixing_run fs (routerWifi_allDistinct hr), ?_⟩
  · intro before e after p _ hp
    exact bridge_text_typed _ hp
  · intro before e after _
    exact ⟨fun p hp => router_text_typed _ hp, router_wifi_provisioned _ e⟩

/-- The promise at a run of each firmware: two texts on the bridge, a
text and a Wi-Fi payload on the router. -/
theorem operations_never_mixed_two_parts :
    let bridge : List Bridge.Event := [.frame 0 0 (ascii "BMX1|OPEN|s"),
      .frame 0 0 (ascii "BMX1|TEXT|s|1|1|2|b"), .frame 0 0 (ascii "BMX1|TEXT|s|1|0|2|a"),
      .frame 5 6 (ascii "BMX1|TEXT|s|2|0|1|c")]
    let env : Router.FrameEnv := ⟨0, 0, true, [], true, true, true, none⟩
    let router : List Router.Event := [.frame env (ascii "BMX1|OPEN|s"),
      .frame env (ascii "BMX1|WIFI|s|1|0|2|a"), .frame env (ascii "BMX1|TEXT|s|2|0|1|x"),
      .frame env (ascii "BMX1|WIFI|s|1|1|2|b")]
    bridgeText.NoMixing bridge ∧ routerText.NoMixing router ∧ routerWifi.NoMixing router := by
  intro bridge env router
  obtain ⟨⟨hb, _⟩, ht, hw, _⟩ := operations_never_mixed bridge router
    (by decide +kernel) (by decide +kernel)
  exact ⟨hb, ht, hw⟩

/-- A part sent under sequence `0` is typed with the next operation. -/
theorem operations_mixed_sequence_zero :
    ¬ bridgeText.NoMixing [.frame 0 0 (ascii "BMX1|OPEN|s"),
      .frame 0 0 (ascii "BMX1|TEXT|s|0|0|2|x"), .frame 0 0 (ascii "BMX1|TEXT|s|5|1|2|b")] := by
  intro h
  obtain ⟨_, hassemble⟩ := h [.frame 0 0 (ascii "BMX1|OPEN|s"),
      .frame 0 0 (ascii "BMX1|TEXT|s|0|0|2|x")] (.frame 0 0 (ascii "BMX1|TEXT|s|5|1|2|b")) [] rfl
  obtain ⟨p, ⟨before, after, hmarks, _⟩, hi, _, hkey, _⟩ :=
    hassemble [.store ⟨5, 2, 1, ascii "b", ascii "s", by decide, by decide⟩] 5
      [ascii "x", ascii "b"] [.clear, .complete 5] rfl 0 (by decide)
  have hmem : Mark.store p ∈ ([.clear,
      .store ⟨0, 2, 0, ascii "x", ascii "s", by decide, by decide⟩,
      .store ⟨5, 2, 1, ascii "b", ascii "s", by decide, by decide⟩] :
        List (Mark Bridge.kMaxParts UInt32 Bytes Bytes)) := by
    have : bridgeText.marks (Bridge.receiver.trace [.frame 0 0 (ascii "BMX1|OPEN|s"),
      .frame 0 0 (ascii "BMX1|TEXT|s|0|0|2|x")]) = [.clear,
      .store ⟨0, 2, 0, ascii "x", ascii "s", by decide, by decide⟩] := rfl
    rw [this] at hmarks
    have h' : Mark.store p ∈ before ++ Mark.store p :: after := by simp
    rw [← hmarks] at h'
    exact h'
  simp only [List.mem_cons, Mark.store.injEq, reduceCtorEq, List.not_mem_nil, or_false,
    false_or] at hmem
  rcases hmem with rfl | rfl
  · exact absurd hkey (by decide)
  · exact absurd hi (by decide)

end Bootmux.Firmware
