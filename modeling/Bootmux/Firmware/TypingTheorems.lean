/-
Bootmux.Firmware.TypingTheorems — the router types a text whole or reports
that it has not.

What the host saw is read back with the table of the US layout, not with
the router's own key map: `prints` says which character a key press makes.
`typeLoop_taken` is the induction over the text, with an answer of the
host for each press and each release; `finishText_all_or_reported` is the
account of one completed text.

The answers of the host are a list that one report takes one of, so every
pattern of refusals is an input. A stroke of which the release fails is
counted as not typed, and the text ends there; the error that is then
reported is the one for the host. The converse holds too: if all reports are
taken and the output is on, the whole text was typed.
-/
import Bootmux.Firmware.EquivalenceTheorems

namespace Bootmux.Firmware.Core

open Bootmux.Bmx1
open Bootmux.Lib
open Bootmux.Lib.Reassembly
open Bootmux.Router (pressesOf strokesOf)

/-! ## Reading the presses -/

/-- The character that a key with modifiers prints on a US keyboard. -/
def prints (press : UInt8 × UInt8) : Option UInt8 :=
  usAnsiRows.findSome? fun (first, plain, shifted) =>
    if press.1 < first then none
    else if press.2 = 0 then plain[(press.1 - first).toNat]?
    else if press.2 = 0x02 then shifted[(press.1 - first).toNat]?
    else none

/-- The text that the accepted presses of a trace type. -/
def typedText (t : List Router.Effect) : Option Bytes := (pressesOf t).mapM prints

/-- **The key map is total and injective on printable ASCII**: the layout
reads every key back. -/
theorem prints_hidKey (c : UInt8) (h : Bridge.printable c = true) :
    ∃ press, Router.hidKeyForAscii c = some press ∧ prints press = some c := by
  have hall : ∀ n < 256, Bridge.printable (UInt8.ofNat n) = true →
      (Router.hidKeyForAscii (UInt8.ofNat n)).bind prints = some (UInt8.ofNat n) := by
    decide +kernel
  have hc := hall c.toNat c.toNat_lt
  rw [UInt8.ofNat_toNat] at hc
  exact Option.bind_eq_some_iff.mp (hc h)

/-- The strokes of printable text print that text. -/
theorem mapM_prints_strokesOf {text : Bytes} (h : text.all Bridge.printable = true) :
    (strokesOf text).mapM prints = some text := by
  induction text with
  | nil => rfl
  | cons c text ih =>
      rw [List.all_cons, Bool.and_eq_true] at h
      obtain ⟨press, hkey, hprints⟩ := prints_hidKey c h.1
      rw [strokesOf, List.filterMap_cons_some hkey, List.mapM_cons, hprints, ← strokesOf, ih h.2]
      rfl

/-- Every byte is one stroke. -/
theorem strokesOf_length {text : Bytes} (h : text.all Bridge.printable = true) :
    (strokesOf text).length = text.length := by
  induction text with
  | nil => rfl
  | cons c text ih =>
      rw [List.all_cons, Bool.and_eq_true] at h
      obtain ⟨press, hkey, -⟩ := prints_hidKey c h.1
      rw [strokesOf, List.filterMap_cons_some hkey, List.length_cons, List.length_cons,
        ← strokesOf, ih h.2]

/-- Some of the strokes of a text, from the first on, type as much of it. -/
theorem mapM_prints_prefix {text : Bytes} (h : text.all Bridge.printable = true)
    {presses : List (UInt8 × UInt8)} (hpresses : presses <+: strokesOf text) :
    ∃ typed, presses.mapM prints = some typed ∧ typed <+: text := by
  obtain ⟨more, hmore⟩ := hpresses
  have hsplit : strokesOf text =
      strokesOf (text.take presses.length) ++ strokesOf (text.drop presses.length) := by
    rw [strokesOf, strokesOf, strokesOf, ← List.filterMap_append, List.take_append_drop]
  have hall : (text.take presses.length).all Bridge.printable = true := by
    rw [List.all_eq_true] at h ⊢
    exact fun c hc => h c (List.mem_of_mem_take hc)
  have hlen : presses.length ≤ text.length := by
    have hcount := congrArg List.length hmore
    rw [List.length_append, strokesOf_length h] at hcount
    omega
  have hsame : presses = strokesOf (text.take presses.length) := by
    refine (List.append_inj (hmore.trans hsplit) ?_).1
    rw [strokesOf_length hall, List.length_take, Nat.min_eq_left hlen]
  refine ⟨text.take presses.length, ?_, List.take_prefix _ _⟩
  rw [hsame, mapM_prints_strokesOf hall, ← hsame]

/-! ## The loop -/

/-- The host takes the press and the release of every character. -/
def AllTaken (hid : List Bool) (text : Bytes) : Prop :=
  (hid.take (2 * text.length)).all id = true

instance (hid : List Bool) (text : Bytes) : Decidable (AllTaken hid text) := by
  unfold AllTaken
  infer_instance

/-- A stroke is two reports, and the second follows if the first was taken. -/
theorem strike_taken (hid : List Bool) (modifier key : UInt8) :
    (Router.strike hid modifier key).1 = (hid.take 2).all id ∧
      ((Router.strike hid modifier key).1 = true →
        (Router.strike hid modifier key).2.1 = hid.drop 2 ∧
        (Router.strike hid modifier key).2.2 = [.report modifier key, .report 0 0]) := by
  match hid with
  | [] => exact ⟨rfl, fun _ => ⟨rfl, rfl⟩⟩
  | [true] => exact ⟨rfl, fun _ => ⟨rfl, rfl⟩⟩
  | [false] => exact ⟨rfl, fun h => (nomatch h)⟩
  | true :: true :: rest => exact ⟨rfl, fun _ => ⟨rfl, rfl⟩⟩
  | true :: false :: rest => exact ⟨rfl, fun h => (nomatch h)⟩
  | false :: second :: rest => exact ⟨rfl, fun h => (nomatch h)⟩

/-- A text is typed exactly if all of its reports are taken. -/
theorem typeLoop_taken (text : Bytes) (hid : List Bool) :
    (Router.typeLoop hid text).1 = true ↔ AllTaken hid text := by
  induction text generalizing hid with
  | nil => simp [Router.typeLoop, AllTaken]
  | cons c text ih =>
      have hsplit : hid.take (2 * (c :: text).length) =
          hid.take 2 ++ (hid.drop 2).take (2 * text.length) := by
        rw [List.length_cons, Nat.mul_succ, Nat.add_comm, List.take_add]
      obtain ⟨htaken, hrest⟩ := strike_taken hid ((Router.hidKeyForAscii c).getD (0, 0)).2
        ((Router.hidKeyForAscii c).getD (0, 0)).1
      rw [AllTaken, hsplit, List.all_append, ← htaken, Bool.and_eq_true]
      simp only [Router.typeLoop]
      split
      · next hstruck =>
          rw [ih, (hrest hstruck).1]
          exact ⟨fun h => ⟨hstruck, h⟩, fun h => h.2⟩
      · next hstruck => exact ⟨fun h => absurd h hstruck, fun h => absurd h.1 hstruck⟩

/-- A loop that reaches its end has typed the whole text. -/
theorem typeLoop_all {text : Bytes} {hid : List Bool} (h : (Router.typeLoop hid text).1 = true) :
    pressesOf (Router.typeLoop hid text).2.2 = strokesOf text := by
  induction text generalizing hid with
  | nil => rfl
  | cons c text ih =>
      have hcons : strokesOf (c :: text) = strokesOf [c] ++ strokesOf text := by
        rw [← List.singleton_append]
        exact List.filterMap_append
      obtain ⟨-, hrest⟩ := strike_taken hid ((Router.hidKeyForAscii c).getD (0, 0)).2
        ((Router.hidKeyForAscii c).getD (0, 0)).1
      simp only [Router.typeLoop] at h ⊢
      split at h
      · next hstruck =>
          rw [if_pos hstruck, Router.pressesOf_append, ih h, hcons, ← Router.pressesOf_ascii,
            (hrest hstruck).2]
          rfl
      · next hstruck => exact absurd h hstruck

/-! ## A completed text -/

/-- The text is typed and acknowledged. -/
structure Applies (s : Router.State) (env : Router.FrameEnv) (text : Bytes) : Prop where
  printable : text.all Bridge.printable = true
  fits : text.length ≤ 512
  output : s.outputEnabled = true
  running : s.stopped = false
  ready : env.hidReady = true
  taken : AllTaken env.hid text

/-- The router refuses what is not printable. -/
theorem validateAsciiText_eq (text : Bytes) :
    Router.validateAsciiText text = text.all Bridge.printable := by
  unfold Router.validateAsciiText
  refine List.all_congr rfl fun c => ?_
  cases hprint : Bridge.printable c with
  | true =>
      obtain ⟨press, hkey, -⟩ := prints_hidKey c hprint
      simpa [Bridge.printable, hkey] using hprint
  | false =>
      simp only [Bridge.printable, Bool.not_eq_false', Bool.or_eq_true] at hprint
      rcases hprint with h | h <;> simp [h]

/-- A text is typed exactly if output, keyboard and reports allow all of it.
-/
theorem typeAscii_iff (s : Router.State) (ready : Bool) (hid : List Bool) (text : Bytes) :
    (Router.typeAscii s ready hid text).1 = true ↔ s.outputEnabled = true ∧ ready = true ∧
      text.all Bridge.printable = true ∧ AllTaken hid text := by
  rw [Router.typeAscii, validateAsciiText_eq, ← typeLoop_taken]
  cases s.outputEnabled <;> cases ready <;> cases text.all Bridge.printable <;> simp

/-- Whatever `type_ascii` returns, the presses type the start of the text. -/
theorem typeAscii_typed (s : Router.State) (ready : Bool) (hid : List Bool) (text : Bytes) :
    ∃ typed, (pressesOf (Router.typeAscii s ready hid text).2.2).mapM prints = some typed ∧
      typed <+: text := by
  cases hprint : text.all Bridge.printable with
  | true => exact mapM_prints_prefix hprint (Router.typeAscii_presses s ready hid text)
  | false =>
      refine ⟨[], ?_, List.nil_prefix⟩
      rw [Router.typeAscii, if_pos (by simp [validateAsciiText_eq, hprint])]
      rfl

/-- A typed text has been pressed stroke by stroke. -/
theorem typeAscii_all {s : Router.State} {ready : Bool} {hid : List Bool} {text : Bytes}
    (h : (Router.typeAscii s ready hid text).1 = true) :
    (pressesOf (Router.typeAscii s ready hid text).2.2).mapM prints = some text := by
  obtain ⟨hout, hready, hprint, htaken⟩ := (typeAscii_iff s ready hid text).mp h
  rw [Router.typeAscii, if_neg (by simp [validateAsciiText_eq, hout, hready, hprint]),
    typeLoop_all ((typeLoop_taken text hid).mpr htaken)]
  exact mapM_prints_strokesOf hprint

/-- What is said of a text that is not applied. -/
structure Refused (s : Router.State) (sequence : UInt32) (text : Bytes)
    (r : Router.State × List Router.Effect) : Prop where
  reported : Router.notifyAck s sequence .stopped ∈ r.2 ∨
    ∃ code, Router.notifyError s sequence code ∈ r.2
  silent : Router.notifyAck s sequence .applied ∉ r.2
  forgotten : r.1.completed = s.completed
  cleared : r.1.text = Buffer.empty
  typed : ∃ typed, typedText r.2 = some typed ∧ typed <+: text

structure Applied (s : Router.State) (sequence : UInt32) (text : Bytes)
    (r : Router.State × List Router.Effect) : Prop where
  notified : Router.notifyAck s sequence .applied ∈ r.2
  remembered : r.1.completed = s.completed.remember sequence
  cleared : r.1.text = Buffer.empty
  typed : typedText r.2 = some text

/-- A report is no answer. -/
theorem not_ack_of_report {t : List Router.Effect} (h : ∀ x ∈ t, x.isReport = true)
    (session : Bytes) (sequence : UInt32) (result : AckResult) :
    Router.Effect.ack session sequence result ∉ t :=
  fun hmem => by cases h _ hmem

/-- A refusal whose trace is that of one release, and notifications. -/
theorem typedText_release {t u : List Router.Effect} (hid : List Bool)
    (ht : ∀ x ∈ t, x.isReport = false) (hu : ∀ x ∈ u, x.isReport = false) :
    typedText (t ++ (Router.releaseAll hid).2.2 ++ u) = some [] := by
  rw [typedText, Router.pressesOf_append, Router.pressesOf_append,
    Router.pressesOf_eq_nil fun x hx => .inl (ht x hx), Router.pressesOf_releaseAll,
    Router.pressesOf_eq_nil fun x hx => .inl (hu x hx)]
  rfl

theorem finishText_outcome (s : Router.State) (env : Router.FrameEnv) (sequence : UInt32)
    (hnew : s.completed.seen sequence = false) :
    (Applies s env s.text.message.flatten ∧
      Applied s sequence s.text.message.flatten (Router.finishText s env sequence)) ∨
    (¬Applies s env s.text.message.flatten ∧
      Refused s sequence s.text.message.flatten (Router.finishText s env sequence)) := by
  have hrelease (hid : List Bool) (result : AckResult) :
      Router.notifyAck s sequence result ∉ (Router.releaseAll hid).2.2 :=
    not_ack_of_report (Router.releaseAll_isReport hid) _ _ _
  rcases Router.finishText_cases s env sequence with ⟨hseen, -⟩ | ⟨-, hstopped, h⟩ |
    ⟨-, -, -, hjoin, h⟩ | ⟨text, -, hrunning, hout, hjoin, htyped⟩
  · exact absurd (hseen.symm.trans hnew) (by decide)
  · -- stopped, or no output
    refine .inr ⟨fun happlies => ?_, ?_⟩
    · simp [happlies.output, happlies.running] at hstopped
    · rw [h]
      refine ⟨.inl (by simp [Router.notifyAck]), ?_, rfl, rfl, [], ?_, List.nil_prefix⟩
      · simpa [Router.notifyAck] using hrelease env.hid .applied
      · exact typedText_release (t := [.text .clear]) env.hid (by simp [Router.Effect.isReport])
          (by simp [Router.Effect.isReport])
  · -- over 512 bytes
    rw [Router.joinParts_eq _ (Nat.zero_le _), List.nil_append] at hjoin
    refine .inr ⟨fun happlies => ?_, ?_⟩
    · have hfits : ¬s.text.message.flatten.length > Router.bmxMaxPayload :=
        Nat.not_lt.mpr happlies.fits
      rw [if_neg hfits] at hjoin
      cases hjoin
    · rw [h]
      refine ⟨.inr ⟨.oversizedText, by simp [Router.notifyError]⟩, ?_, rfl, rfl, [], ?_,
        List.nil_prefix⟩
      · simpa [Router.notifyAck] using hrelease env.hid .applied
      · exact typedText_release env.hid (by simp [Router.Effect.isReport])
          (by simp [Router.Effect.isReport])
  · rw [Router.joinParts_eq _ (Nat.zero_le _), List.nil_append] at hjoin
    have hroom : ¬s.text.message.flatten.length > Router.bmxMaxPayload := by
      intro hover
      rw [if_pos hover] at hjoin
      cases hjoin
    have hfits : s.text.message.flatten.length ≤ 512 := Nat.le_of_not_lt hroom
    rw [if_neg hroom] at hjoin
    obtain rfl : s.text.message.flatten = text := Option.some.inj hjoin
    have hreports := Router.typeAscii_reports s env.hidReady env.hid s.text.message.flatten
    have hsilent := not_ack_of_report hreports s.session sequence .applied
    rcases htyped with ⟨hok, h⟩ | ⟨hfailed, h⟩
    · obtain ⟨hout, hready, hprint, htaken⟩ := (typeAscii_iff _ _ _ _).mp hok
      refine .inl ⟨⟨hprint, hfits, hout, hrunning, hready, htaken⟩, ?_⟩
      rw [h]
      refine ⟨by simp [Router.notifyAck], rfl, rfl, ?_⟩
      have hnone : pressesOf [Router.Effect.text .clear, .ack s.session sequence .applied,
          .text (.complete sequence)] = [] := rfl
      rw [typedText, Router.pressesOf_append, Router.pressesOf_append, hnone, List.append_nil]
      exact typeAscii_all hok
    · refine .inr ⟨fun happlies => ?_, ?_⟩
      · have hok := (typeAscii_iff s env.hidReady env.hid _).mpr
          ⟨happlies.output, happlies.ready, happlies.printable, happlies.taken⟩
        exact absurd (hok.symm.trans hfailed) (by decide)
      · obtain ⟨typed, hmap, hstart⟩ :=
          typeAscii_typed s env.hidReady env.hid s.text.message.flatten
        rw [h]
        refine ⟨.inr ⟨.hidNotReadyOrUnsupported, by simp [Router.notifyError]⟩, ?_, rfl, rfl,
          typed, ?_, hstart⟩
        · simp only [Router.notifyAck, List.mem_append, not_or]
          exact ⟨⟨⟨⟨by simp, hsilent⟩, by simp⟩, hrelease _ .applied⟩, by simp⟩
        · have hfirst : pressesOf [Router.Effect.text (.assemble sequence s.text.message)] = [] :=
            rfl
          have hclear : pressesOf [Router.Effect.text .clear] = [] := rfl
          have hlast : pressesOf [Router.Effect.err s.session sequence .hidNotReadyOrUnsupported,
              .text (.complete sequence)] = [] := rfl
          rw [typedText, Router.pressesOf_append, Router.pressesOf_append,
            Router.pressesOf_append, Router.pressesOf_append, hfirst, hclear, hlast,
            Router.pressesOf_releaseAll, List.nil_append, List.append_nil, List.append_nil,
            List.append_nil]
          exact hmap

/-- **All or reported.** -/
theorem finishText_all_or_reported (s : Router.State) (env : Router.FrameEnv)
    (sequence : UInt32) (hnew : s.completed.seen sequence = false) :
    (Router.notifyAck s sequence .applied ∈ (Router.finishText s env sequence).2 ↔
      Applies s env s.text.message.flatten) ∧
    ((Router.finishText s env sequence).1.completed.seen sequence = true ↔
      Applies s env s.text.message.flatten) ∧
    (Applies s env s.text.message.flatten →
      Applied s sequence s.text.message.flatten (Router.finishText s env sequence)) ∧
    (¬Applies s env s.text.message.flatten →
      Refused s sequence s.text.message.flatten (Router.finishText s env sequence)) := by
  rcases finishText_outcome s env sequence hnew with ⟨happlies, h⟩ | ⟨hnot, h⟩
  · refine ⟨iff_of_true h.notified happlies, iff_of_true ?_ happlies, fun _ => h,
      fun hnot => absurd happlies hnot⟩
    rw [h.remembered]
    exact RecentRing.seen_remember _ _
  · refine ⟨iff_of_false h.silent hnot, iff_of_false ?_ hnot, fun happlies => absurd happlies hnot,
      fun _ => h⟩
    rw [h.forgotten, hnew]
    exact Bool.false_ne_true

def twoParts : Router.State :=
  { (Router.openSession Router.globals (ascii "s")).1 with
    text := ⟨7, 2, 0, fun i => if i = 0 then ascii "A" else ascii "b~", fun _ => true⟩ }

def answers (hid : List Bool) : Router.FrameEnv where
  started := 0
  now := 0
  hidReady := true
  hid := hid
  disconnectOk := true
  setConfigOk := true
  proxyIsReady := false
  endpointText := none

/-- Taken whole, and with the release of the second key refused. -/
theorem finishText_two_parts :
    typedText (Router.finishText twoParts (answers []) 7).2 = some (ascii "Ab~") ∧
    ∃ typed, typedText (Router.finishText twoParts (answers [true, true, true, false]) 7).2 =
      some typed ∧ typed <+: ascii "Ab~" := by
  have hnew : twoParts.completed.seen 7 = false := by decide +kernel
  obtain ⟨-, -, hwhole, -⟩ := finishText_all_or_reported twoParts (answers []) 7 hnew
  obtain ⟨-, -, -, hpart⟩ :=
    finishText_all_or_reported twoParts (answers [true, true, true, false]) 7 hnew
  refine ⟨(hwhole ⟨by decide +kernel, by decide +kernel, rfl, rfl, rfl, by decide +kernel⟩).typed,
    (hpart fun happlies => ?_).typed⟩
  exact absurd happlies.taken (by decide +kernel)

end Bootmux.Firmware.Core
