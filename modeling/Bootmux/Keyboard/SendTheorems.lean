/-
Bootmux.Keyboard.SendTheorems — the frames the iPhone writes, as the
bridge reads them.

Every frame of an operation is one of its work or none the bridge knows
(`Frames`), and a step writes at most the next frame of the pending
operation or opens the session (`bridgeStep_writes`). As long as fewer than
2³² sequence numbers were drawn the frames of a run are those of a plan, in
the order of their places (`sends_run`).

The three parts follow the functions of the session. First the frames: each
maker of frames is read back by the bridge's parser as one operation. Then a
step: what it writes is nothing, an `OPEN`, or the frame that the pump has
come to (`WritesTo`), with one lemma for each event. Last the run: `Sends`
keeps which operations were requested, which frames of them are written and
what is still to come.
-/
import Bootmux.Bridge.DeliveryTheorems
import Bootmux.Bridge.ExecutionTheorems
import Bootmux.Iphone.CompletionTheorems
import Bootmux.Iphone.WifiTheorems
import Bootmux.Keyboard.Connection

namespace Bootmux.Keyboard

open Bootmux.Bmx1
open Bootmux.Lib
open Bootmux.Bridge (Plan Planned Work frameOp placeOf place kMaxParts)

/-! ## Frames -/

/-- The characters of a session id are digits and capitals. -/
theorem mem_isUuid {session : Bytes} (h : isUuid session = true) {c : UInt8} (hc : c ∈ session) :
    0x30 ≤ c ∧ c ≤ 0x46 := by
  rw [isUuid, Bool.and_eq_true, List.all_eq_true] at h
  have hdigit := h.2 c hc
  simp only [isDigit, Bool.or_eq_true, Bool.and_eq_true, decide_eq_true_eq] at hdigit
  rcases hdigit with ⟨hlow, hhigh⟩ | ⟨hlow, hhigh⟩
  · exact ⟨hlow, Nat.le_trans hhigh (by decide)⟩
  · exact ⟨Nat.le_trans (by decide) hlow, hhigh⟩

/-- No other character is in it. -/
theorem not_mem_isUuid {session : Bytes} (h : isUuid session = true) {c : UInt8}
    (hc : c < 0x30 ∨ 0x46 < c) : c ∉ session := fun hmem => by
  obtain ⟨hlow, hhigh⟩ := mem_isUuid h hmem
  rcases hc with hc | hc
  · exact Nat.lt_irrefl _ (Nat.lt_of_lt_of_le hc hlow)
  · exact Nat.lt_irrefl _ (Nat.lt_of_lt_of_le hc hhigh)

/-- Plain fields are read as they were joined. -/
theorem frameOp_joinFields {raws : List Bytes}
    (h : ∀ raw ∈ raws, pipe ∉ raw ∧ backslash ∉ raw ∧ (0 : UInt8) ∉ raw) (hne : raws ≠ [])
    (hlen : raws.length ≤ maxFields) : frameOp (joinFields raws) = Bridge.fieldsOp raws := by
  have hencodes : List.Forall₂ Encodes raws raws :=
    List.forall₂_same.mpr fun raw hraw => encodes_self (h raw hraw).1 (h raw hraw).2.1
  rw [frameOp, cString_of_nulFree (joinFields_nulFree fun raw hraw => (h raw hraw).2.2),
    splitFrame_joinFields hencodes hne hlen, Option.bind_some]

/-- The bridge knows nothing of networks. -/
theorem fieldsOp_other {type : Bytes} {rest : List Bytes}
    (htype : type ≠ ascii "OPEN" ∧ type ≠ ascii "CTRL" ∧ type ≠ ascii "TEXT") :
    Bridge.fieldsOp (ascii "BMX1" :: type :: rest) = none := by
  have hfield : fieldAt (ascii "BMX1" :: type :: rest) 1 = type := rfl
  unfold Bridge.fieldsOp
  rw [hfield]
  split
  · rfl
  · rw [if_neg fun h => htype.1 h.1]
    split
    · rfl
    · split
      · rfl
      · rw [if_neg htype.2.1, if_pos (.inl htype.2.2)]

section

variable {session : Bytes} (hsession : isUuid session = true)

include hsession

theorem session_plain : pipe ∉ session ∧ backslash ∉ session ∧ (0 : UInt8) ∉ session :=
  ⟨not_mem_isUuid hsession (by decide), not_mem_isUuid hsession (by decide),
    not_mem_isUuid hsession (by decide)⟩

/-- The bridge reads an opening as it was made. -/
theorem frameOp_open {frame : Bytes} (h : Iphone.openFrame session = .ok frame) :
    frameOp frame = some (.opened session) := by
  have hjoin : joinFields [ascii "BMX1", ascii "OPEN", session] = frame := by
    unfold Iphone.openFrame Iphone.validSession Iphone.frame at h
    split at h
    · cases h
    · simp only [bind, Except.bind] at h
      split at h
      · cases h
      · exact Except.ok.inj h
  rw [← hjoin, frameOp_joinFields ?_ (by simp) (by simp [maxFields])]
  · simp [Bridge.fieldsOp, fieldAt]
  · simp only [List.forall_mem_cons, List.not_mem_nil, false_imp_iff, implies_true, and_true]
    exact ⟨by decide, by decide, session_plain hsession⟩

/-- The fields of a frame with one argument. -/
theorem frameOp_command {type argument : String} {sequence : UInt32} {frame : Bytes}
    (h : Iphone.commandFrame type session sequence argument = .ok frame)
    (htype : pipe ∉ ascii type ∧ backslash ∉ ascii type ∧ (0 : UInt8) ∉ ascii type)
    (hargument : pipe ∉ ascii argument ∧ backslash ∉ ascii argument ∧
      (0 : UInt8) ∉ ascii argument) :
    frameOp frame = Bridge.fieldsOp
      [ascii "BMX1", ascii type, session, decimal sequence.toNat, ascii argument] := by
  have hjoin : joinFields [ascii "BMX1", ascii type, session, decimal sequence.toNat,
      ascii argument] = frame := by
    unfold Iphone.commandFrame Iphone.validSession Iphone.frame at h
    split at h
    · cases h
    · simp only [bind, Except.bind] at h
      split at h
      · cases h
      · exact Except.ok.inj h
  rw [← hjoin, frameOp_joinFields ?_ (by simp) (by simp [maxFields])]
  simp only [List.forall_mem_cons, List.not_mem_nil, false_imp_iff, implies_true, and_true]
  exact ⟨by decide, htype, session_plain hsession,
    ⟨decimal_plain (by decide) _, decimal_plain (by decide) _, decimal_plain (by decide) _⟩,
    hargument⟩

/-- And a control. -/
theorem frameOp_control {sequence : UInt32} {control : Iphone.BLEControl} {frame : Bytes}
    (h : Iphone.control session sequence control = .ok frame) :
    frameOp frame = some (.control session sequence (ascii control.rawValue)) := by
  rw [frameOp_command hsession h (by decide) (by cases control <;> decide)]
  have hopen : ascii "CTRL" ≠ ascii "OPEN" := by decide
  simp [Bridge.fieldsOp, fieldAt, hopen, parseUInt_sequence]

/-- And a part of the credentials. -/
theorem frameOp_wifi {sequence : UInt32} {index total : Nat} {chunk : Bytes}
    (hchunk : ∀ c ∈ chunk, Base64.Plain c) :
    frameOp (Iphone.wifiFrame session sequence index total chunk) = none := by
  have hplain : ∀ {c : UInt8}, ¬ Base64.Plain c → c ∉ chunk := fun hc hmem => hc (hchunk _ hmem)
  rw [Iphone.wifiFrame, frameOp_joinFields ?_ (by simp) (by simp [maxFields])]
  · exact fieldsOp_other (by decide)
  · have hdecimal : ∀ n, pipe ∉ decimal n ∧ backslash ∉ decimal n ∧ (0 : UInt8) ∉ decimal n :=
      fun n => ⟨decimal_plain (by decide) n, decimal_plain (by decide) n,
        decimal_plain (by decide) n⟩
    simp only [List.forall_mem_cons, List.not_mem_nil, false_imp_iff, implies_true, and_true]
    exact ⟨by decide, by decide, session_plain hsession, hdecimal _, hdecimal _, hdecimal _,
      hplain (by decide), hplain (by decide), hplain (by decide)⟩

end

/-- The frames of an operation: what the bridge reads of them is the work
of its sequence number, in order. -/
structure Frames (operation : Iphone.Operation) (work : Option Work) (frames : List Bytes) :
    Prop where
  few : frames.length ≤ kMaxParts
  read : ∀ i frame, frames[i]? = some frame → ∀ op, frameOp frame = some op →
    op.session = operation.session ∧ op.place = some (placeOf operation.sequence i) ∧
      ∀ plan : Plan, plan operation.sequence = work → plan.Has op

/-- Why an operation begins in a step, and with which frames. -/
inductive Made (e : Iphone.BridgeEvent) (operation : Iphone.Operation) (frames : List Bytes) : Prop
  | text {text : Bytes} {maximum : Int} (he : e = .sendText text) (hkind : operation.kind = .text)
      (htext : Iphone.BridgeSession.supportsASCIIHIDText text = true)
      (hframes : Iphone.frames maximum operation.session operation.sequence text = .ok frames)
  | control {control : Iphone.BLEControl} {frame : Bytes} (he : e = .send control)
      (hkind : operation.kind = .control control)
      (hframe : Iphone.control operation.session operation.sequence control = .ok frame)
      (hframes : frames = [frame])
  | command {type : String} {frame : Bytes} (he : callKeys e = [])
      (hkind : ∀ control, operation.kind ≠ .control control)
      (htype : type = "WIFI_STATUS" ∨ type = "WIFI_CLEAR" ∨ type = "PROXY_STATUS")
      {argument : String} (hargument : argument = "STATUS" ∨ argument = "CLEAR")
      (hframe : Iphone.commandFrame type operation.session operation.sequence argument = .ok frame)
      (hframes : frames = [frame])
  | provision {maximum : Int} {ssid password payload : Bytes}
      (he : callKeys e = []) (hkind : operation.kind = .wifiProvision)
      (hpayload : Iphone.wifiPayload ssid password = .ok payload)
      (hframes : Iphone.wifiFrames maximum operation.session operation.sequence payload =
        .ok frames)

/-- What the bridge is asked for, and what the call is for. -/
structure Asks (e : Iphone.BridgeEvent) (operation : Iphone.Operation) (work : Option Work)
    (frames : List Bytes) : Prop where
  frames : Frames operation work frames
  keys : (work.map Work.keys).getD [] = callKeys e
  stops : operation.kind = .control .stop → work = some (.control (ascii "STOP"))

/-- The payload is Base64, without a separator. -/
theorem payload_plain {ssid password payload : Bytes}
    (h : Iphone.wifiPayload ssid password = .ok payload) : ∀ c ∈ payload, Base64.Plain c := by
  unfold Iphone.wifiPayload at h
  split at h
  · cases h
  · simp only at h
    split at h
    · cases h
    · obtain rfl := Except.ok.inj h
      exact Base64.encode_plain _

/-- A printable text is typed character by character. -/
theorem typedKeys_printable {text : Bytes}
    (h : Iphone.BridgeSession.supportsASCIIHIDText text = true) :
    Bridge.typedKeys text = text.map .write := by
  rw [Bridge.typedKeys, List.filter_eq_self.mpr]
  intro c hc
  have hprintable := List.all_eq_true.mp h c hc
  simp only [Iphone.printable, Bool.and_eq_true, decide_eq_true_eq] at hprintable
  simp only [Bridge.printable, Bool.not_eq_true', Bool.or_eq_false_iff, decide_eq_false_iff_not]
  exact ⟨Nat.not_lt.mpr hprintable.1, Nat.not_lt.mpr hprintable.2⟩

/-- The frames of an operation ask for what it was made for. -/
theorem Made.asks {e : Iphone.BridgeEvent} {operation : Iphone.Operation} {frames : List Bytes}
    (h : Made e operation frames) (hsession : isUuid operation.session = true) :
    ∃ work, Asks e operation work frames := by
  obtain ⟨hpipe, hback, hnul⟩ := session_plain hsession
  cases h with
  | @text text maximum he hkind htext hframes =>
      obtain ⟨chunks, hflatten, -, hparts, -, -, -, hlength, hframe⟩ := Iphone.frames_ok hframes
      refine ⟨some (.text chunks), ⟨hlength ▸ hparts, ?_⟩, ?_, fun hstop => ?_⟩
      · intro i frame hi op hop
        have hlt : i < chunks.length := hlength ▸ (List.getElem?_eq_some_iff.mp hi).1
        obtain rfl := Option.some.inj (hi.symm.trans
          (hframe i _ (List.getElem?_eq_getElem hlt)))
        have hchunk : (0 : UInt8) ∉ chunks[i] := by
          intro hmem
          have hzero : (0 : UInt8) ∈ text :=
            hflatten ▸ List.mem_flatten.mpr ⟨_, List.getElem_mem hlt, hmem⟩
          exact absurd (List.all_eq_true.mp htext 0 hzero) (by decide)
        rw [Bridge.frameOp_textFrame hpipe hback hnul hchunk hlt hparts] at hop
        obtain rfl := Option.some.inj hop
        exact ⟨rfl, rfl, fun plan hplan =>
          ⟨chunks, hplan, rfl, by simp [List.getD_eq_getElem?_getD, hlt]⟩⟩
      · subst he
        show Bridge.typedKeys chunks.flatten = text.map .write
        rw [hflatten, typedKeys_printable htext]
      · cases hkind.symm.trans hstop
  | @control control frame he hkind hframe hframes =>
      subst hframes
      refine ⟨some (.control (ascii control.rawValue)), ⟨by simp [kMaxParts], ?_⟩, ?_,
        fun hstop => ?_⟩
      · intro i frame' hi op hop
        obtain ⟨hlt, rfl⟩ := List.getElem?_eq_some_iff.mp hi
        obtain rfl : i = 0 := Nat.lt_one_iff.mp hlt
        rw [List.getElem_singleton, frameOp_control hsession hframe] at hop
        obtain rfl := Option.some.inj hop
        exact ⟨rfl, rfl, fun plan hplan => hplan⟩
      · subst he
        rfl
      · obtain rfl : control = .stop :=
          Iphone.BLEOperationKind.control.inj (hkind.symm.trans hstop)
        rfl
  | @command type frame he hkind htype argument hargument hframe hframes =>
      subst hframes
      refine ⟨none, ⟨by simp [kMaxParts], ?_⟩, he.symm, fun hstop => absurd hstop (hkind _)⟩
      intro i frame' hi op hop
      obtain ⟨hlt, rfl⟩ := List.getElem?_eq_some_iff.mp hi
      obtain rfl : i = 0 := Nat.lt_one_iff.mp hlt
      rw [List.getElem_singleton, frameOp_command hsession hframe
        (by rcases htype with rfl | rfl | rfl <;> decide)
        (by rcases hargument with rfl | rfl <;> decide),
        fieldsOp_other (by rcases htype with rfl | rfl | rfl <;> decide)] at hop
      cases hop
  | provision he hkind hpayload hframes =>
      obtain ⟨chunks, hflatten, -, hparts, -, -, hlength, hframe⟩ := Iphone.wifiFrames_ok hframes
      refine ⟨none, ⟨?_, ?_⟩, he.symm, fun hstop => by cases hkind.symm.trans hstop⟩
      · rw [hlength]
        exact Nat.le_trans hparts (by decide)
      · intro i frame hi op hop
        have hlt : i < chunks.length := hlength ▸ (List.getElem?_eq_some_iff.mp hi).1
        obtain rfl := Option.some.inj (hi.symm.trans
          (hframe i _ (List.getElem?_eq_getElem hlt)).2)
        rw [frameOp_wifi hsession] at hop
        · cases hop
        · intro c hc
          have hmem := List.mem_flatten.mpr ⟨_, List.getElem_mem hlt, hc⟩
          rw [hflatten] at hmem
          exact payload_plain hpayload c hmem

/-- A maker that fails on every chunk makes no frames. -/
theorem mapM_ne_ok {α β ε : Type} {f : α → Except ε β} (hf : ∀ x y, f x ≠ .ok y) {xs : List α}
    {ys : List β} (hne : ys ≠ []) : xs.mapM f ≠ .ok ys := by
  intro h
  obtain ⟨hlength, hget⟩ := Iphone.mapM_ok h
  cases xs with
  | nil => exact hne (List.eq_nil_of_length_eq_zero hlength)
  | cons x xs =>
      obtain ⟨y, -, hy⟩ := hget 0 x rfl
      exact hf x y hy

/-- No operation begins without a session. -/
theorem Made.session_ne_nil {e : Iphone.BridgeEvent} {operation : Iphone.Operation}
    {frames : List Bytes} (h : Made e operation frames) : operation.session ≠ [] := by
  intro hnil
  cases h with
  | @text text maximum he hkind htext hframes =>
      obtain ⟨chunks, -, hchunks, -, -, -, -, hlength, -⟩ := Iphone.frames_ok hframes
      have hne : frames ≠ [] := List.length_pos_iff.mp (hlength ▸ List.length_pos_iff.mpr hchunks)
      rw [hnil] at hframes
      unfold Iphone.frames at hframes
      dsimp only at hframes
      repeat' split at hframes
      · cases hframes
      · cases hframes
      · cases hframes
      · refine mapM_ne_ok (fun x y => ?_) hne hframes
        unfold Iphone.text
        split <;> nofun
  | control he hkind hframe hframes =>
      rw [hnil] at hframe
      cases hframe
  | command he hkind htype hargument hframe hframes =>
      rw [hnil] at hframe
      cases hframe
  | @provision maximum ssid password payload he hkind hpayload hframes =>
      obtain ⟨chunks, -, hchunks, -, -, -, hlength, -⟩ := Iphone.wifiFrames_ok hframes
      have hne : frames ≠ [] := List.length_pos_iff.mp (hlength ▸ List.length_pos_iff.mpr hchunks)
      rw [hnil] at hframes
      unfold Iphone.wifiFrames at hframes
      split at hframes
      · cases hframes
      · cases hmade : Iphone.wifiChunks maximum [] operation.sequence payload.length payload with
        | error error =>
            rw [hmade] at hframes
            cases hframes
        | ok chunks =>
            simp only [hmade, bind, Except.bind] at hframes
            split at hframes
            · cases hframes
            · refine mapM_ne_ok (fun x y => ?_) hne hframes
              unfold Iphone.wifiProvision
              split <;> nofun

/-! ## What a step writes -/

/-- What a step does to the pending operation, with the frames it
writes. -/
inductive Writes (s : Iphone.BridgeSession) (e : Iphone.BridgeEvent) (s' : Iphone.BridgeSession) :
    List Bytes → Prop
  | nothing (h : s'.pendingOperation = s.pendingOperation ∨ s'.pendingOperation = none) :
      Writes s e s' []
  | opened {frame : Bytes} (hframe : Iphone.openFrame s.sessionID = .ok frame)
      (h : s'.pendingOperation = s.pendingOperation) : Writes s e s' [frame]
  | next {p : Iphone.PendingOperation} {frame : Bytes} (hpending : s.pendingOperation = some p)
      (hframe : p.frames[p.nextFrame]? = some frame)
      (h : s'.pendingOperation = some { p with nextFrame := p.nextFrame + 1 }) :
      Writes s e s' [frame]
  | started {operation : Iphone.Operation} {frames : List Bytes} (hnone : s.pendingOperation = none)
      (hsession : operation.session = s.sessionID) (hmade : Made e operation frames)
      (h : s'.pendingOperation = some ⟨operation, frames, 0⟩) : Writes s e s' []
  | startedWriting {operation : Iphone.Operation} {frames : List Bytes} {frame : Bytes}
      (hnone : s.pendingOperation = none) (hsession : operation.session = s.sessionID)
      (hmade : Made e operation frames) (hframe : frames[0]? = some frame)
      (h : s'.pendingOperation = some ⟨operation, frames, 1⟩) : Writes s e s' [frame]

/-- A result of the event, with what becomes of the session. -/
structure WritesTo (s : Iphone.BridgeSession) (e : Iphone.BridgeEvent)
    (r : Iphone.BridgeSession × List Iphone.BridgeEffect) : Prop where
  writes : Writes s e r.1 (writesOf r.2)
  session : r.1.sessionID = s.sessionID ∨ r.1.sessionID = [] ∨ e = .didConnect r.1.sessionID

section

open Iphone Iphone.BridgeSession

variable {s s₁ : BridgeSession} {e : BridgeEvent}

/-- A completion writes nothing. -/
theorem writesOf_completion (s : BridgeSession) (success : Bool) :
    writesOf (s.completion success) = [] := by
  unfold completion
  split <;> rfl

/-- A step that writes nothing. -/
theorem WritesTo.nothing {r : BridgeSession × List BridgeEffect} (hwrites : writesOf r.2 = [])
    (hpending : r.1.pendingOperation = s.pendingOperation ∨ r.1.pendingOperation = none)
    (hsession : r.1.sessionID = s.sessionID ∨ r.1.sessionID = []) : WritesTo s e r :=
  ⟨by rw [hwrites]; exact .nothing hpending, hsession.imp_right .inl⟩

/-- A step that leaves the operation and the session and has no effect. -/
theorem WritesTo.unchanged {s' : BridgeSession}
    (hpending : s'.pendingOperation = s.pendingOperation)
    (hsession : s'.sessionID = s.sessionID) : WritesTo s e (s', []) :=
  .nothing rfl (.inl hpending) (.inl hsession)

/-- Before a step that goes on from it, the session may change in what
has nothing to do with the operation. -/
theorem WritesTo.of_eq {r : BridgeSession × List BridgeEffect} (h : WritesTo s₁ e r)
    (hpending : s₁.pendingOperation = s.pendingOperation) (hsession : s₁.sessionID = s.sessionID) :
    WritesTo s e r := by
  refine ⟨?_, hsession ▸ h.session⟩
  have hwrites := h.writes
  generalize writesOf r.2 = written at hwrites
  cases hwrites with
  | nothing h => exact .nothing (hpending ▸ h)
  | opened hframe h => exact .opened (hsession ▸ hframe) (hpending ▸ h)
  | next hp hframe h => exact .next (hpending ▸ hp) hframe h
  | started hnone hsame hmade h => exact .started (hpending ▸ hnone) (hsession ▸ hsame) hmade h
  | startedWriting hnone hsame hmade hframe h =>
      exact .startedWriting (hpending ▸ hnone) (hsession ▸ hsame) hmade hframe h

/-- Pumping writes the next frame, or nothing. -/
theorem pumpOperation_cases (s : BridgeSession) :
    writesOf s.pumpOperation.2 = [] ∧ s.pumpOperation.1.pendingOperation = s.pendingOperation ∧
      s.pumpOperation.1.sessionID = s.sessionID ∨
    ∃ p frame, s.pendingOperation = some p ∧ p.frames[p.nextFrame]? = some frame ∧
      writesOf s.pumpOperation.2 = [frame] ∧ s.pumpOperation.1.sessionID = s.sessionID ∧
      s.pumpOperation.1.pendingOperation = some { p with nextFrame := p.nextFrame + 1 } := by
  unfold pumpOperation
  split
  · exact .inl ⟨rfl, rfl, rfl⟩
  · next p hp =>
      split
      · exact .inl ⟨rfl, rfl, rfl⟩
      · split
        · exact .inl ⟨rfl, rfl, rfl⟩
        · next frame hframe => exact .inr ⟨p, frame, hp, hframe, rfl, rfl, rfl⟩

/-- The pump writes the next frame of the pending operation, or nothing. -/
theorem pumpOperation_writesTo (s : BridgeSession) : WritesTo s e s.pumpOperation := by
  rcases pumpOperation_cases s with ⟨hwrites, hpending, hsession⟩ |
    ⟨p, frame, hp, hframe, hwrites, hsession, hpending⟩
  · exact .nothing hwrites (.inl hpending) (.inl hsession)
  · exact ⟨by rw [hwrites]; exact .next hp hframe hpending, .inl hsession⟩

theorem reject_writesTo : WritesTo s e s.reject := .nothing rfl (.inl rfl) (.inl rfl)

theorem start_writesTo {kind : BLEOperationKind} {frames : List Bytes}
    (hnone : s.pendingOperation = none)
    (hmade : Made e ⟨s.sessionID, s.sequence, kind, s.requests, s.drawn⟩ frames) :
    WritesTo s e (s.start kind frames) := by
  obtain ⟨operation, hoperation⟩ : ∃ operation : Operation,
      operation = ⟨s.sessionID, s.sequence, kind, s.requests, s.drawn⟩ := ⟨_, rfl⟩
  obtain ⟨s₁, hs₁⟩ : ∃ s₁ : BridgeSession,
      s₁ = { s.nextRequest with pendingOperation := some ⟨operation, frames, 0⟩ } := ⟨_, rfl⟩
  have hstart : s.start kind frames =
      (s₁.pumpOperation.1, .began operation :: s₁.pumpOperation.2) := by
    rw [hs₁, hoperation]
    rfl
  have hpending : s₁.pendingOperation = some ⟨operation, frames, 0⟩ := by rw [hs₁]
  have hsession : s₁.sessionID = s.sessionID := by rw [hs₁]; rfl
  have hsame : operation.session = s.sessionID := by rw [hoperation]
  rw [← hoperation] at hmade
  rw [hstart]
  have hbegan : writesOf (.began operation :: s₁.pumpOperation.2) =
      writesOf s₁.pumpOperation.2 := rfl
  rcases pumpOperation_cases s₁ with ⟨hwrites, hkept, hpumped⟩ |
    ⟨p, frame, hp, hframe, hwrites, hpumped, hnext⟩
  · refine ⟨?_, .inl (hpumped.trans hsession)⟩
    rw [hbegan, hwrites]
    exact .started hnone hsame hmade (hkept.trans hpending)
  · obtain rfl := Option.some.inj (hp.symm.trans hpending)
    refine ⟨?_, .inl (hpumped.trans hsession)⟩
    rw [hbegan, hwrites]
    exact .startedWriting hnone hsame hmade hframe hnext

theorem sendText_writesTo (text : Bytes) : WritesTo s (.sendText text) (s.sendText text) := by
  unfold sendText
  split
  · exact reject_writesTo
  · next htext =>
      split
      · exact reject_writesTo
      · next hready =>
          have hnone : s.pendingOperation = none := by
            simpa using fun h => hready (.inr (.inl h))
          dsimp only
          split
          · exact (reject_writesTo (s := s.nextSequence)).of_eq rfl rfl
          · next hframes =>
              exact (start_writesTo (s := s.nextSequence) hnone
                (.text rfl rfl (by simpa using htext) hframes)).of_eq rfl rfl

theorem send_writesTo (control : BLEControl) : WritesTo s (.send control) (s.send control) := by
  unfold send
  split
  · exact reject_writesTo
  · next hready =>
      have hnone : s.pendingOperation = none := by simpa using fun h => hready (.inr h)
      dsimp only
      split
      · exact (reject_writesTo (s := s.nextSequence)).of_eq rfl rfl
      · next hframe =>
          exact (start_writesTo (s := s.nextSequence) hnone
            (.control rfl rfl hframe rfl)).of_eq rfl rfl

theorem provisionWiFi_writesTo (he : callKeys e = [])
    (ssid password : Bytes) : WritesTo s e (s.provisionWiFi ssid password) := by
  unfold provisionWiFi
  split
  · exact reject_writesTo
  · next hready =>
      have hnone : s.pendingOperation = none := by simpa using fun h => hready (.inr (.inl h))
      split
      · exact reject_writesTo
      · next hpayload =>
          dsimp only
          split
          · exact (reject_writesTo (s := s.nextSequence)).of_eq rfl rfl
          · next hframes =>
              exact (start_writesTo (s := { s.nextSequence with
                pendingWiFiCredentials := some (ssid, password) }) hnone
                (.provision he rfl hpayload hframes)).of_eq rfl rfl

theorem startWiFiControl_writesTo (he : callKeys e = [])
    {kind : BLEOperationKind} (hkind : ∀ control, kind ≠ .control control) {type argument : String}
    (htype : type = "WIFI_STATUS" ∨ type = "WIFI_CLEAR" ∨ type = "PROXY_STATUS")
    (hargument : argument = "STATUS" ∨ argument = "CLEAR") :
    WritesTo s e (s.startWiFiControl kind fun session sequence =>
      commandFrame type session sequence argument) := by
  unfold startWiFiControl
  split
  · exact reject_writesTo
  · next hready =>
      have hnone : s.pendingOperation = none := by simpa using fun h => hready (.inr h)
      dsimp only
      split
      · exact (reject_writesTo (s := s.nextSequence)).of_eq rfl rfl
      · next hframe =>
          exact (start_writesTo (s := s.nextSequence) hnone
            (.command he hkind htype hargument hframe rfl)).of_eq rfl rfl

theorem attemptAutoProvision_writesTo (he : callKeys e = [])
    (epoch : UInt32) : WritesTo s e (s.attemptAutoProvision epoch) := by
  unfold attemptAutoProvision
  split
  · exact .nothing rfl (.inl rfl) (.inl rfl)
  · dsimp only
    split
    · exact .nothing rfl (.inl rfl) (.inl rfl)
    · exact (provisionWiFi_writesTo (s := { s with
        attemptedProvisionEpochs := epoch :: s.attemptedProvisionEpochs }) he _ _).of_eq rfl rfl

theorem finishPendingOperation_writesTo (hsession : s₁.sessionID = s.sessionID) (success : Bool) :
    WritesTo s e (s₁.finishPendingOperation success) :=
  .nothing (writesOf_completion s₁ success) (.inr rfl) (.inl hsession)

theorem failPendingOperation_writesTo (hpending : s₁.pendingOperation = s.pendingOperation)
    (hsession : s₁.sessionID = s.sessionID) : WritesTo s e s₁.failPendingOperation := by
  unfold failPendingOperation
  split
  · exact .nothing rfl (.inl hpending) (.inl hsession)
  · exact finishPendingOperation_writesTo hsession false

theorem handleAck_writesTo (he : callKeys e = []) (session : Bytes)
    (sequence : UInt32) (result : Bytes) : WritesTo s e (s.handleAck session sequence result) := by
  have happlied : ∀ kind, (s.applied kind).sessionID = s.sessionID := by
    intro kind
    unfold applied
    split <;> rfl
  unfold handleAck
  split
  · exact .nothing rfl (.inl rfl) (.inl rfl)
  · split
    · exact (attemptAutoProvision_writesTo (s := { s.dropOpenTimeout with
        opening := false, state := .on }) he _).of_eq rfl rfl
    · repeat' split
      all_goals first
        | exact .nothing rfl (.inl rfl) (.inl rfl)
        | exact finishPendingOperation_writesTo (by rfl) _
        | exact finishPendingOperation_writesTo (happlied _) _

theorem didUpdateNotification_writesTo (ok : Bool) : WritesTo s e (s.didUpdateNotification ok) := by
  unfold didUpdateNotification
  split
  · exact .nothing rfl (.inl rfl) (.inl rfl)
  · dsimp only
    split
    · exact .nothing rfl (.inl rfl) (.inl rfl)
    · next hframe =>
        split
        · exact .nothing rfl (.inl rfl) (.inl rfl)
        · exact ⟨.opened hframe rfl, .inl rfl⟩

theorem disconnect_writesTo : WritesTo s e s.disconnect := by
  refine .nothing ?_ (.inr rfl) (.inr rfl)
  have hcancel : writesOf s.cancelConnection = [] := by
    unfold cancelConnection
    split <;> rfl
  show writesOf (s.completion false ++ s.cancelConnection) = []
  rw [writesOf, List.filterMap_append, ← writesOf, ← writesOf, writesOf_completion, hcancel]
  rfl

theorem didDisconnect_writesTo (peripheral : Nat) : WritesTo s e (s.didDisconnect peripheral) := by
  unfold didDisconnect
  split
  · exact .unchanged rfl rfl
  · split
    · exact .nothing rfl (.inl rfl) (.inr rfl)
    · exact .nothing (writesOf_completion s false) (.inr rfl) (.inr rfl)

/-- The next frame follows when the last one is written. -/
theorem didWriteValue_writesTo (ok : Bool) : WritesTo s e (s.didWriteValue ok) := by
  unfold didWriteValue
  dsimp only
  split
  · exact (pumpOperation_writesTo { s with writeInFlight := false }).of_eq rfl rfl
  · refine failPendingOperation_writesTo ?_ ?_ <;> dsimp only <;> split <;> rfl

theorem handleNetwork_writesTo (session : Bytes) (sequence : UInt32) (state : BLENetworkState) :
    WritesTo s e (s.handleNetwork session sequence state) := by
  unfold handleNetwork
  split
  · exact .unchanged rfl rfl
  · split
    · exact .unchanged rfl rfl
    · dsimp only
      split <;> exact .nothing rfl (.inl rfl) (.inl rfl)

theorem handleProxy_writesTo (he : callKeys e = []) (session : Bytes) (state : BLEProxyState)
    (endpoint : Option Bytes) (epoch : Option UInt32) :
    WritesTo s e (s.handleProxy session state endpoint epoch) := by
  unfold handleProxy
  dsimp only
  split
  · exact .unchanged rfl rfl
  · split
    · exact .unchanged rfl rfl
    · split
      · exact (attemptAutoProvision_writesTo he _).of_eq rfl rfl
      · exact .unchanged rfl rfl

theorem failOpening_writesTo (hpending : s₁.pendingOperation = s.pendingOperation)
    (hsession : s₁.sessionID = s.sessionID) : WritesTo s e s₁.failOpening := by
  unfold failOpening
  split
  · exact .unchanged hpending hsession
  · split
    · exact .unchanged hpending hsession
    · exact .nothing rfl (.inl hpending) (.inr rfl)

/-- A timer that is late for its operation does nothing. -/
theorem wake_writesTo (i : Nat) : WritesTo s e (s.wake i) := by
  unfold wake
  split
  · exact .unchanged rfl rfl
  · dsimp only
    split
    · split
      · exact .unchanged rfl rfl
      · exact failPendingOperation_writesTo rfl rfl
    · split
      · exact .unchanged rfl rfl
      · exact failOpening_writesTo rfl rfl

/-- **What an event writes** belongs to the operation that is pending, or to
the one that the event has started. -/
theorem bridgeBody_writesTo (s : BridgeSession) (e : BridgeEvent) :
    WritesTo s e (bridgeBody s e) := by
  cases e with
  | connect =>
      refine .unchanged ?_ ?_
      all_goals
        unfold BridgeSession.connect
        repeat' split
        all_goals rfl
  | disconnect => exact disconnect_writesTo
  | sendText text => exact sendText_writesTo text
  | send control => exact send_writesTo control
  | provisionWiFi ssid password =>
      exact provisionWiFi_writesTo rfl ssid password
  | requestWiFiStatus =>
      show WritesTo s _ (s.startWiFiControl .wifiStatus fun session sequence =>
        commandFrame "WIFI_STATUS" session sequence "STATUS")
      exact startWiFiControl_writesTo (by rfl) (by nofun) (by simp) (by simp)
  | clearWiFi =>
      show WritesTo s _ (s.startWiFiControl .wifiClear fun session sequence =>
        commandFrame "WIFI_CLEAR" session sequence "CLEAR")
      exact startWiFiControl_writesTo (by rfl) (by nofun) (by simp) (by simp)
  | requestProxyStatus =>
      show WritesTo s _ (s.startWiFiControl .proxyStatus fun session sequence =>
        commandFrame "PROXY_STATUS" session sequence "STATUS")
      exact startWiFiControl_writesTo (by rfl) (by nofun) (by simp) (by simp)
  | forgetSavedWiFi => exact .unchanged rfl rfl
  | didUpdateState poweredOn =>
      refine .unchanged ?_ ?_
      all_goals
        unfold didUpdateState
        repeat' split
        all_goals rfl
  | didDiscover peripheral =>
      refine .unchanged ?_ ?_
      all_goals
        unfold didDiscover
        repeat' split
        all_goals rfl
  | maximumWrite bytes => exact .unchanged rfl rfl
  | didConnect session => exact ⟨.nothing (.inl rfl), .inr (.inr rfl)⟩
  | didDisconnect peripheral => exact didDisconnect_writesTo peripheral
  | didDiscoverCharacteristics found =>
      refine .unchanged ?_ ?_
      all_goals
        unfold didDiscoverCharacteristics
        repeat' split
        all_goals rfl
  | didUpdateNotification ok => exact didUpdateNotification_writesTo ok
  | didWriteValue ok => exact didWriteValue_writesTo ok
  | ack session sequence result => exact handleAck_writesTo rfl session sequence result
  | network session sequence state => exact handleNetwork_writesTo session sequence state
  | proxy session state endpoint epoch =>
      exact handleProxy_writesTo rfl session state endpoint epoch
  | wake i => exact wake_writesTo i

/-- **One step** of the session, which may have crashed. -/
theorem bridgeStep_writes (s : BridgeSession) (e : BridgeEvent) :
    WritesTo s e (bridgeStep s e) := by
  unfold bridgeStep
  split
  · exact .nothing rfl (.inl rfl) (.inl rfl)
  · exact bridgeBody_writesTo s e

end

/-! ## A whole run -/

/-- The place after everything that was written. -/
def bound (s : Iphone.BridgeSession) : Nat :=
  match s.pendingOperation with
  | some p => p.ordinal * kMaxParts + p.nextFrame
  | none => (s.drawn + 1) * kMaxParts

/-- The pending operation is one of the plan. -/
structure Pending (plan : Plan) (s : Iphone.BridgeSession) (p : Iphone.PendingOperation) :
    Prop where
  session : isUuid p.session = true
  sequence : p.sequence.toNat = p.ordinal
  ordinal : p.ordinal ≤ s.drawn
  nextFrame : p.nextFrame ≤ p.frames.length
  frames : Frames p.toOperation (plan p.sequence) p.frames

/-- The request is one of the plan. -/
structure Asked (plan : Plan) (s : Iphone.BridgeSession) (r : Request) : Prop where
  sequence : r.operation.sequence.toNat ≤ s.drawn
  keys : plan.keys r.operation.sequence = r.keys
  stops : r.operation.kind = .control .stop →
    plan r.operation.sequence = some (.control (ascii "STOP"))

/-- The frames that were written are those of the plan, in the order of
their places, and the plan is what was requested. -/
structure Sends (plan : Plan) (frames : List Bytes) (reqs : List Request)
    (s : Iphone.BridgeSession) : Prop where
  session : s.sessionID = [] ∨ isUuid s.sessionID = true
  planned : ∀ frame ∈ frames, Planned plan (isUuid · = true) frame
  ordered : (frames.filterMap place).Pairwise (· < ·)
  below : ∀ n ∈ frames.filterMap place, n < bound s
  pending : ∀ p, s.pendingOperation = some p → Pending plan s p
  known : ∀ q w, plan q = some w →
    0 < q.toNat ∧ q.toNat ≤ s.drawn ∧ ∃ r ∈ reqs, r.operation.sequence = q
  asked : ∀ r ∈ reqs, Asked plan s r
  sorted : reqs.Pairwise fun r r' => r.operation.sequence < r'.operation.sequence

section

open Iphone Iphone.BridgeSession

variable {plan : Plan} {frames : List Bytes} {reqs : List Request} {s s' : BridgeSession}

/-- A new session has sent nothing. -/
theorem sends_new : Sends (fun _ => none) [] [] newBridgeSession where
  session := .inl rfl
  planned _ h := by cases h
  ordered := List.Pairwise.nil
  below _ h := by cases h
  pending _ h := by cases h
  known _ _ h := by cases h
  asked _ h := by cases h
  sorted := List.Pairwise.nil

/-- The frames of an operation come before those of the next one. -/
theorem Pending.bound_le {p : PendingOperation} (h : Pending plan s p) :
    p.ordinal * kMaxParts + p.nextFrame ≤ (s.drawn + 1) * kMaxParts := by
  have hfew := Nat.le_trans h.nextFrame h.frames.few
  have hordinal := h.ordinal
  simp only [kMaxParts] at hfew ⊢
  omega

/-- A step that writes nothing and begins nothing. -/
theorem Sends.quiet (h : Sends plan frames reqs s)
    (hpending : s'.pendingOperation = s.pendingOperation ∨ s'.pendingOperation = none)
    (hdrawn : s.drawn ≤ s'.drawn) (hsession : s'.sessionID = [] ∨ isUuid s'.sessionID = true) :
    Sends plan frames reqs s' := by
  have hbound : bound s ≤ bound s' := by
    have hidle : (s.drawn + 1) * kMaxParts ≤ (s'.drawn + 1) * kMaxParts :=
      Nat.mul_le_mul_right _ (Nat.succ_le_succ hdrawn)
    unfold bound
    rcases hpending with hpending | hpending <;> rw [hpending]
    · cases s.pendingOperation with
      | none => exact hidle
      | some p => exact Nat.le_refl _
    · cases hp : s.pendingOperation with
      | none => exact hidle
      | some p => exact Nat.le_trans (h.pending p hp).bound_le hidle
  refine ⟨hsession, h.planned, h.ordered, fun n hn => Nat.lt_of_lt_of_le (h.below n hn) hbound, ?_,
    ?_, ?_, h.sorted⟩
  · intro p hp
    have hold : s.pendingOperation = some p := by
      rcases hpending with hpending | hpending
      · exact hpending.symm.trans hp
      · cases hpending.symm.trans hp
    obtain ⟨hsession, hsequence, hordinal, hnext, hframes⟩ := h.pending p hold
    exact ⟨hsession, hsequence, Nat.le_trans hordinal hdrawn, hnext, hframes⟩
  · intro q w hw
    obtain ⟨hpos, hle, hrequest⟩ := h.known q w hw
    exact ⟨hpos, Nat.le_trans hle hdrawn, hrequest⟩
  · intro r hr
    obtain ⟨hle, hkeys, hstops⟩ := h.asked r hr
    exact ⟨Nat.le_trans hle hdrawn, hkeys, hstops⟩

/-- The session is opened. -/
theorem Sends.opened (h : Sends plan frames reqs s) {frame : Bytes}
    (hframe : openFrame s.sessionID = .ok frame) : Sends plan (frames ++ [frame]) reqs s := by
  have huuid : isUuid s.sessionID = true := by
    rcases h.session with hnil | huuid
    · rw [hnil] at hframe
      cases hframe
    · exact huuid
  have hop := frameOp_open huuid hframe
  have hplaces : (frames ++ [frame]).filterMap place = frames.filterMap place := by
    simp [place, hop, Bridge.Op.place]
  refine ⟨h.session, ?_, hplaces ▸ h.ordered, hplaces ▸ h.below, h.pending, h.known, h.asked,
    h.sorted⟩
  intro frame' hmem
  rcases List.mem_append.mp hmem with hmem | hmem
  · exact h.planned frame' hmem
  · obtain rfl := List.mem_singleton.mp hmem
    refine ⟨fun op hop' => ?_, fun op hop' => ?_⟩ <;>
      obtain rfl := Option.some.inj (hop.symm.trans hop')
    · trivial
    · exact huuid

/-- The next frame of the pending operation. -/
theorem Sends.next (h : Sends plan frames reqs s) {p : PendingOperation} {frame : Bytes}
    (hp : s.pendingOperation = some p) (hframe : p.frames[p.nextFrame]? = some frame) :
    Sends plan (frames ++ [frame]) reqs
      { s with pendingOperation := some { p with nextFrame := p.nextFrame + 1 } } := by
  obtain ⟨huuid, hsequence, hordinal, hnext, hframes⟩ := h.pending p hp
  have hread := hframes.read p.nextFrame frame hframe
  have hbound : bound s = placeOf p.sequence p.nextFrame := by
    rw [bound, hp, placeOf, hsequence]
  have hplaces : (frames ++ [frame]).filterMap place = frames.filterMap place ∨
      (frames ++ [frame]).filterMap place = frames.filterMap place ++ [bound s] := by
    rw [List.filterMap_append]
    cases hop : frameOp frame with
    | none => exact .inl (by simp [place, hop])
    | some op => exact .inr (by simp [place, hop, (hread op hop).2.1, hbound])
  have hlater : bound { s with pendingOperation := some { p with nextFrame := p.nextFrame + 1 } } =
      bound s + 1 := by
    rw [hbound, placeOf, hsequence]
    rfl
  refine ⟨h.session, ?_, ?_, ?_, ?_, h.known, fun r hr => ?_, h.sorted⟩
  · intro frame' hmem
    rcases List.mem_append.mp hmem with hmem | hmem
    · exact h.planned frame' hmem
    · obtain rfl := List.mem_singleton.mp hmem
      exact ⟨fun op hop => (hread op hop).2.2 plan rfl, fun op hop => (hread op hop).1 ▸ huuid⟩
  · rcases hplaces with hsame | hmore
    · rw [hsame]
      exact h.ordered
    · rw [hmore, List.pairwise_append]
      refine ⟨h.ordered, List.pairwise_singleton _ _, fun n hn m hm => ?_⟩
      rw [List.mem_singleton.mp hm]
      exact h.below n hn
  · intro n hn
    rw [hlater]
    rcases hplaces with hsame | hmore
    · exact Nat.lt_succ_of_lt (h.below n (hsame ▸ hn))
    · rcases List.mem_append.mp (hmore ▸ hn) with hn | hn
      · exact Nat.lt_succ_of_lt (h.below n hn)
      · rw [List.mem_singleton.mp hn]
        exact Nat.lt_succ_self _
  · intro p' hp'
    obtain rfl := Option.some.inj hp'
    exact ⟨huuid, hsequence, hordinal, (List.getElem?_eq_some_iff.mp hframe).1, hframes⟩
  · obtain ⟨hle, hkeys, hstops⟩ := h.asked r hr
    exact ⟨hle, hkeys, hstops⟩

/-- An operation begins, under a sequence number of its own. -/
theorem Sends.started (h : Sends plan frames reqs s) {e : BridgeEvent} {operation : Operation}
    {fs : List Bytes} (hnone : s.pendingOperation = none) (huuid : isUuid operation.session = true)
    (hmade : Made e operation fs) (hordinal : operation.ordinal = s.drawn + 1)
    (hsequence : operation.sequence.toNat = s.drawn + 1) (hdrawn : s'.drawn = s.drawn + 1)
    (hsession : s'.sessionID = [] ∨ isUuid s'.sessionID = true)
    (hpending : s'.pendingOperation = some ⟨operation, fs, 0⟩) :
    ∃ plan', Sends plan' frames (reqs ++ [⟨operation, e⟩]) s' := by
  obtain ⟨work, hasks⟩ := hmade.asks huuid
  have hother : ∀ q : UInt32, q.toNat ≤ s.drawn →
      Function.update plan operation.sequence work q = plan q := by
    intro q hq
    refine Function.update_of_ne ?_ _ _
    rintro rfl
    omega
  have hnew : Function.update plan operation.sequence work operation.sequence = work :=
    Function.update_self _ _ _
  refine ⟨Function.update plan operation.sequence work, hsession, ?_, h.ordered, ?_, ?_, ?_, ?_, ?_⟩
  · intro frame hmem
    refine (h.planned frame hmem).mono fun q w hw => ?_
    rw [hother q (h.known q w hw).2.1]
    exact hw
  · intro n hn
    have hbelow := h.below n hn
    rw [bound, hnone] at hbelow
    rw [bound, hpending]
    simpa [hordinal] using hbelow
  · intro p hp
    obtain rfl := Option.some.inj (hpending.symm.trans hp)
    exact ⟨huuid, hsequence.trans hordinal.symm, by simp [hordinal, hdrawn], Nat.zero_le _,
      by rw [hnew]; exact hasks.frames⟩
  · intro q w hw
    by_cases hq : q = operation.sequence
    · subst hq
      exact ⟨by omega, by omega, _, List.mem_append_right _ (List.mem_singleton_self _), rfl⟩
    · rw [Function.update_of_ne hq] at hw
      obtain ⟨hpos, hle, r, hr, hrequest⟩ := h.known q w hw
      exact ⟨hpos, by omega, r, List.mem_append_left _ hr, hrequest⟩
  · intro r hr
    rcases List.mem_append.mp hr with hr | hr
    · obtain ⟨hle, hkeys, hstops⟩ := h.asked r hr
      refine ⟨by omega, ?_, fun hstop => ?_⟩
      · rw [Plan.keys, hother _ hle]
        exact hkeys
      · rw [hother _ hle]
        exact hstops hstop
    · obtain rfl := List.mem_singleton.mp hr
      refine ⟨by simp only; omega, ?_, fun hstop => ?_⟩
      · rw [Plan.keys, hnew]
        exact hasks.keys
      · rw [hnew]
        exact hasks.stops hstop
  · rw [List.pairwise_append]
    refine ⟨h.sorted, List.pairwise_singleton _ _, fun r hr r' hr' => ?_⟩
    obtain rfl := List.mem_singleton.mp hr'
    have hle := (h.asked r hr).sequence
    exact UInt32.lt_iff_toNat_lt.mpr (by simp only; omega)

/-- A step begins an operation under the next numbers, or begins none. -/
theorem requestsOf_step (s : BridgeSession) (e : BridgeEvent) :
    (∃ operation, requestsOf e (bridgeStep s e).2 = [⟨operation, e⟩] ∧ s.current = none ∧
      (bridgeStep s e).1.current = some operation ∧ operation.request = s.requests ∧
      operation.ordinal = s.drawn + 1 ∧ operation.sequence = s.sequence + 1 ∧
      (bridgeStep s e).1.requests = s.requests + 1 ∧ (bridgeStep s e).1.drawn = s.drawn + 1) ∨
    requestsOf e (bridgeStep s e).2 = [] ∧ s.requests ≤ (bridgeStep s e).1.requests ∧
      s.drawn ≤ (bridgeStep s e).1.drawn ∧
      (s.current = none → (bridgeStep s e).1.current = none) := by
  have hmarks : requestsOf e (bridgeStep s e).2 =
      requestsOf e ((bridgeStep s e).2.filter BridgeEffect.marks) := by
    rw [requestsOf, requestsOf, List.filterMap_filter]
    refine List.filterMap_congr fun x _ => ?_
    cases x <;> rfl
  have hmoves := (bridgeStep_moves s e).1
  rw [hmarks]
  generalize (bridgeStep s e).2.filter BridgeEffect.marks = marked at hmoves
  cases hmoves with
  | idle hcurrent hrequests hdrawn =>
      exact .inr ⟨rfl, hrequests.ge, hdrawn.ge, fun hnone => hcurrent.trans hnone⟩
  | rejected n _ hcurrent hrequests hdrawn =>
      exact .inr ⟨rfl, by omega, by omega, fun hnone => hcurrent.trans hnone⟩
  | started operation _ hnone hcurrent hrequest hordinal hsequence hrequests hdrawn =>
      exact .inl ⟨operation, rfl, hnone, hcurrent, hrequest, hordinal, hsequence, hrequests,
        hdrawn⟩
  | finished operation _ _ _ hcurrent hrequests hdrawn =>
      exact .inr ⟨rfl, hrequests.ge, hdrawn.ge, fun _ => hcurrent⟩

/-- What two steps write. -/
theorem writesOf_append (t u : List BridgeEffect) : writesOf (t ++ u) = writesOf t ++ writesOf u :=
  List.filterMap_append

/-- Numbers are drawn once. -/
theorem drawn_step (s : BridgeSession) (e : BridgeEvent) : s.drawn ≤ (bridgeStep s e).1.drawn := by
  rcases requestsOf_step s e with ⟨_, _, _, _, _, _, _, _, hdrawn⟩ | ⟨_, _, hdrawn, _⟩
  · omega
  · exact hdrawn

/-- One step, while the sequence numbers have not run out. -/
theorem Sends.step (h : Sends plan frames reqs s) {e : BridgeEvent}
    (hsequence : s.sequence = UInt32.ofNat s.drawn) (hdrawn : (bridgeStep s e).1.drawn < 2 ^ 32)
    (hown : ∀ session, e = .didConnect session → isUuid session = true) :
    ∃ plan', Sends plan' (frames ++ writesOf (bridgeStep s e).2)
      (reqs ++ requestsOf e (bridgeStep s e).2) (bridgeStep s e).1 := by
  have hrequests := requestsOf_step s e
  have hle := drawn_step s e
  obtain ⟨hwrites, hsession⟩ := bridgeStep_writes s e
  have hvalid : (bridgeStep s e).1.sessionID = [] ∨
      isUuid (bridgeStep s e).1.sessionID = true := by
    rcases hsession with hsame | hnil | hconnect
    · rw [hsame]
      exact h.session
    · exact .inl hnil
    · exact .inr (hown _ hconnect)
  generalize (bridgeStep s e).1 = s' at *
  generalize writesOf (bridgeStep s e).2 = written at *
  -- no operation begins where none was pending and none is, or where one was
  have hnothing : ((s.pendingOperation = none → s'.pendingOperation = none) →
      requestsOf e (bridgeStep s e).2 = []) := by
    intro hkept
    rcases hrequests with ⟨operation, _, hnone, hcurrent, _⟩ | ⟨hnil, _⟩
    · have hpending := hkept (Option.map_eq_none_iff.mp hnone)
      rw [current, hpending] at hcurrent
      cases hcurrent
    · exact hnil
  -- otherwise it is the one of the request, with the next number
  have hbegins : ∀ {operation : Operation} {fs : List Bytes} {n : Nat},
      s.pendingOperation = none → operation.session = s.sessionID → Made e operation fs →
      s'.pendingOperation = some ⟨operation, fs, n⟩ → ∃ plan', Sends plan' frames
        (reqs ++ requestsOf e (bridgeStep s e).2)
        { s' with pendingOperation := some ⟨operation, fs, 0⟩ } := by
    intro operation fs n hnone hsame hmade hpending
    rcases hrequests with ⟨operation', hlist, _, hcurrent, _, hordinal, hnext, _, hmore⟩ |
      ⟨_, _, _, hkept⟩
    · rw [current, hpending] at hcurrent
      obtain rfl : operation = operation' := Option.some.inj hcurrent
      have hnumber : operation.sequence.toNat = s.drawn + 1 := by
        rw [hnext, hsequence, UInt32.toNat_add, UInt32.toNat_ofNat']
        have hone : (1 : UInt32).toNat = 1 := rfl
        omega
      have huuid : isUuid operation.session = true := by
        rcases h.session with hnil | huuid
        · exact absurd (hsame.trans hnil) hmade.session_ne_nil
        · rw [hsame]
          exact huuid
      rw [hlist]
      exact h.started hnone huuid hmade hordinal hnumber hmore hvalid rfl
    · have hnil := hkept (by rw [current, hnone]; rfl)
      rw [current, hpending] at hnil
      cases hnil
  cases hwrites with
  | nothing hpending =>
      rw [hnothing fun hnone => hpending.elim (·.trans hnone) id, List.append_nil, List.append_nil]
      exact ⟨plan, h.quiet hpending hle hvalid⟩
  | opened hframe hpending =>
      rw [hnothing fun hnone => hpending.trans hnone, List.append_nil]
      exact ⟨plan, (h.opened hframe).quiet (.inl hpending) hle hvalid⟩
  | next hp hframe hpending =>
      have hpending' : s.pendingOperation ≠ none := hp ▸ Option.some_ne_none _
      rw [hnothing fun hnone => absurd hnone hpending', List.append_nil]
      exact ⟨plan, (h.next hp hframe).quiet (.inl hpending) hle hvalid⟩
  | started hnone hsame hmade hpending =>
      obtain ⟨plan', h'⟩ := hbegins hnone hsame hmade hpending
      rw [List.append_nil]
      exact ⟨plan', h'.quiet (.inl hpending) (Nat.le_refl _) hvalid⟩
  | startedWriting hnone hsame hmade hframe hpending =>
      obtain ⟨plan', h'⟩ := hbegins hnone hsame hmade hpending
      exact ⟨plan', (h'.next rfl hframe).quiet (.inl hpending) (Nat.le_refl _) hvalid⟩

/-- **The frames of a run are those of a plan**, in the order of their
places. -/
theorem sends_run (es : List BridgeEvent)
    (hown : ∀ session, .didConnect session ∈ es → isUuid session = true)
    (hdrawn : (bridgeMachine.run es).drawn < 2 ^ 32) :
    ∃ plan, Sends plan (writesOf (bridgeMachine.trace es)) (requests es)
      (bridgeMachine.run es) := by
  induction es using List.reverseRecOn with
  | nil => exact ⟨_, sends_new⟩
  | append_singleton es e ih =>
      have hhistory := history_run es
      rw [Machine.run_concat] at hdrawn
      have hle := drawn_step (bridgeMachine.run es) e
      obtain ⟨plan, h⟩ := ih (fun session hmem => hown session (List.mem_append_left _ hmem))
        (Nat.lt_of_le_of_lt hle hdrawn)
      rw [Machine.trace_concat, Machine.run_concat, writesOf_append, requests,
        Machine.gather_concat]
      exact h.step hhistory.sequence hdrawn fun session he =>
        hown session (List.mem_append_right _ (List.mem_singleton.mpr he.symm))

end

end Bootmux.Keyboard
