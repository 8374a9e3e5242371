/-
Bootmux.Terminal.CancelTheorems — whom a `codex_cancel` reaches.

`cancelCodex` of the Companion looks only at whether the request id is
empty, so a cancel stops whatever run is active; `cancelCodex` of the
iPhone draws a new UUID, so a cancel names no prompt. Each half has its
exact condition.

A cancel is the step in which `cancelCodex` has found an active run
(`Cancels`); what it compares with is the id that this run was created with.
On the iPhone's side the ids are drawn from a source that never repeats,
which is the condition there, and then no cancel names a prompt that was
sent. The two halves are about any run of a session and any run of the
terminal.
-/
import Bootmux.Terminal.SendTheorems

namespace Bootmux.Terminal

open Bootmux.Lib
open Bootmux.Companion (Bytes ascii)

/-! ## The Companion -/

section Companion

variable {cfg : Companion.Config}

/-- The step handles a `codex_cancel` of the request `q` while the run `i`
is active. A `codex_new_session` is a cancel without a request. -/
structure Cancels (cfg : Companion.Config) (s : Companion.Session) (e : Companion.SessionEvent)
    (q : Bytes) (i : Nat) : Prop where
  step : e = .run
  handles : ∃ data, s.run = .handle data ∧ Companion.clientAction cfg data = .cancel q
  named : q ≠ []
  active : s.codexRun = some i

/-- A cancel stops the active run if and only if it names its request. -/
def Addressed (cfg : Companion.Config) (s : Companion.Session) (e : Companion.SessionEvent) :
    Prop :=
  ∀ q i, Cancels cfg s e q i →
    ((Companion.sessionStep cfg s e).1.run = .cancelReason i .cancelled ↔ s.requestID i = q)

/-- Every cancel finds its own run active, or none. -/
def FindsItsRun (cfg : Companion.Config) (s : Companion.Session) (e : Companion.SessionEvent) :
    Prop :=
  ∀ q i, Cancels cfg s e q i → s.requestID i = q

/-- `cancelCodex` stops the active run. -/
theorem Cancels.stops {s : Companion.Session} {e : Companion.SessionEvent} {q : Bytes} {i : Nat}
    (h : Cancels cfg s e q i) :
    (Companion.sessionStep cfg s e).1.run = .cancelReason i .cancelled := by
  obtain ⟨rfl, ⟨data, hrun, haction⟩, hq, hactive⟩ := h
  simp only [Companion.sessionStep, Companion.runStep, hrun, Companion.handleClientMessage,
    haction, hactive, Companion.cancelReason, if_neg hq]
  rfl

/-- A cancel stops its own run exactly if it finds that run active. -/
theorem addressed_iff (s : Companion.Session) (e : Companion.SessionEvent) :
    Addressed cfg s e ↔ FindsItsRun cfg s e :=
  forall_congr' fun _ => forall_congr' fun _ => forall_congr' fun h => iff_true_left h.stops

end Companion

/-! ## The iPhone -/

section Iphone

open Iphone

/-- The request id of a prompt that is sent. -/
def promptID : TerminalEffect → Option Bytes
  | .sent _ m => if m.type = "codex_prompt" then m.requestID else none
  | .closed _ _ => none

def lastPrompt (t : List TerminalEffect) : Option Bytes := t.reverse.findSome? promptID

/-- The effect is not a cancel, or it names the last prompt. -/
def NamesLast (seen : List TerminalEffect) (x : TerminalEffect) : Prop :=
  ∀ socket m, x = .sent socket m → m.type = "codex_cancel" → m.requestID = lastPrompt seen

/-- The UUIDs that are drawn, as they are printed. -/
def drawn : TerminalEvent → Option Bytes
  | .sendCodexPrompt _ uuid | .cancelCodex uuid => some (uuidString uuid)
  | _ => none

/-- A prompt carries the id that was drawn for it. -/
theorem drawn_of_prompt {e : TerminalEvent} {m : ClientMessage} (h : Transmits e m)
    (htype : m.type = "codex_prompt") : m.requestID = drawn e := by
  cases h with
  | prompt hlen hfits => rfl
  | input hlen hfits => exact absurd htype (show "input_text" ≠ "codex_prompt" by decide)
  | interrupt hfits => exact absurd htype (show "control" ≠ "codex_prompt" by decide)
  | cancel => exact absurd htype (show "codex_cancel" ≠ "codex_prompt" by decide)
  | reset => exact absurd htype (show "codex_new_session" ≠ "codex_prompt" by decide)
  | close => exact absurd htype (show "close" ≠ "codex_prompt" by decide)

/-- A cancel carries an id of its own. -/
theorem event_of_cancel {e : TerminalEvent} {m : ClientMessage} (h : Transmits e m)
    (htype : m.type = "codex_cancel") :
    ∃ uuid, e = .cancelCodex uuid ∧ m.requestID = some (uuidString uuid) := by
  cases h with
  | cancel => exact ⟨_, rfl, rfl⟩
  | input hlen hfits => exact absurd htype (show "input_text" ≠ "codex_cancel" by decide)
  | interrupt hfits => exact absurd htype (show "control" ≠ "codex_cancel" by decide)
  | prompt hlen hfits => exact absurd htype (show "codex_prompt" ≠ "codex_cancel" by decide)
  | reset => exact absurd htype (show "codex_new_session" ≠ "codex_cancel" by decide)
  | close => exact absurd htype (show "close" ≠ "codex_cancel" by decide)

/-- The last prompt drew its id in a step of the run. -/
theorem mem_drawn_of_lastPrompt {es : List TerminalEvent} {id : Bytes}
    (h : lastPrompt (terminalMachine.trace es) = some id) : id ∈ es.filterMap drawn := by
  obtain ⟨x, hx, hid⟩ := List.exists_of_findSome?_eq_some h
  rw [List.mem_reverse] at hx
  obtain ⟨pre, e, post, rfl, hmem⟩ := terminalMachine.mem_trace hx
  cases x with
  | closed socket code => cases hid
  | sent socket m =>
      simp only [promptID] at hid
      split at hid
      · rename_i htype
        have hdrawn := drawn_of_prompt (transmits_of_sent hmem) htype
        exact List.mem_filterMap.mpr ⟨e, by simp, by rw [← hdrawn, hid]⟩
      · cases hid

/-- A cancel has one effect at most. -/
theorem cancelCodex_effects {s : TerminalSession} {uuid : Vector UInt8 16} {x : TerminalEffect}
    (h : x ∈ (terminalStep s (.cancelCodex uuid)).2) :
    (terminalStep s (.cancelCodex uuid)).2 = [x] := by
  simp only [terminalStep, TerminalSession.cancelCodex] at h ⊢
  split at h
  · rw [List.mem_singleton.mp h]
    rfl
  · cases h

/-- With UUIDs that are all different, a cancel names no prompt. -/
theorem namesLast_iff (es : List TerminalEvent) (hfresh : (es.filterMap drawn).Nodup) :
    Machine.Always NamesLast [] (terminalMachine.trace es) ↔
      ∀ socket m, .sent socket m ∈ terminalMachine.trace es → m.type ≠ "codex_cancel" := by
  constructor
  · intro halways socket m hsent htype
    obtain ⟨pre, e, post, rfl, hmem⟩ := terminalMachine.mem_trace hsent
    obtain ⟨uuid, rfl, hid⟩ := event_of_cancel (transmits_of_sent hmem) htype
    have hsplit : terminalMachine.trace (pre ++ .cancelCodex uuid :: post) =
        terminalMachine.trace pre ++ .sent socket m ::
          terminalMachine.traceFrom
            (terminalMachine.step (terminalMachine.run pre) (.cancelCodex uuid)).1 post := by
      rw [Machine.trace_append, Machine.traceFrom_cons,
        show (terminalMachine.step _ _).2 = _ from cancelCodex_effects hmem]
      rfl
    have hlast := (Machine.always_iff_split _ _ _).mp halways _ _ _ hsplit socket m rfl htype
    rw [List.nil_append, hid] at hlast
    have hearlier := mem_drawn_of_lastPrompt hlast.symm
    rw [List.filterMap_append,
      List.filterMap_cons_some (show drawn (.cancelCodex uuid) = some (uuidString uuid) from rfl)]
      at hfresh
    exact (List.nodup_append.mp hfresh).2.2 _ hearlier _ List.mem_cons_self rfl
  · intro hnone
    rw [Machine.always_iff_split]
    intro A x B hsplit socket m hx htype
    refine absurd htype (hnone socket m ?_)
    rw [hsplit, hx]
    simp

end Iphone

/-! ## Both ends -/

/-- **Exactly when cancels are addressed.** In the Companion, when every
`codex_cancel` finds the run of its own request active, or none; on the
iPhone, where all UUIDs are different, when no cancel is sent at all. -/
theorem cancels_addressed (cfg : Companion.Config) (es : List Companion.SessionEvent)
    (fs : List Iphone.TerminalEvent) (hfresh : (fs.filterMap drawn).Nodup) :
    ((Companion.sessionMachine cfg).AllSteps (Addressed cfg)
    (Companion.sessionMachine cfg).init es ∧
        Machine.Always NamesLast [] (Iphone.terminalMachine.trace fs)) ↔
      ((Companion.sessionMachine cfg).AllSteps (FindsItsRun cfg)
          (Companion.sessionMachine cfg).init es ∧
        ∀ socket m, .sent socket m ∈ Iphone.terminalMachine.trace fs →
          m.type ≠ "codex_cancel") := by
  rw [(Companion.sessionMachine cfg).allSteps_congr addressed_iff, namesLast_iff fs hfresh]

/-- The iPhone sends a prompt and then a cancel. -/
def cancelEvents : List Iphone.TerminalEvent :=
  greetedEvents ++ [.sendCodexPrompt (ascii "p") (.replicate 16 1), .cancelCodex (.replicate 16 2)]

def promptData : Bytes :=
  Iphone.encode (.codexPrompt someSession (ascii "p") (Iphone.uuidString (.replicate 16 1)))

def cancelData : Bytes :=
  Iphone.encode (.codexCancel someSession (Iphone.uuidString (.replicate 16 2)))

/-- The Companion starts the prompt and takes the cancel. -/
def cancelledEvents : List Companion.SessionEvent :=
  [.run, .clientRead (.data promptData), .clientSend false, .select false, .run, .startProcess true,
    .run, .run, .clientRead (.data cancelData), .clientSend false, .select false]

def someConfig : Companion.Config := Companion.defaultConfig someSession Companion.unmarshal

theorem fresh_cancelEvents : (cancelEvents.filterMap drawn).Nodup := by decide +kernel

theorem cancels_addressed_pair :
    ((Companion.sessionMachine someConfig).AllSteps (Addressed someConfig)
          (Companion.sessionMachine someConfig).init cancelledEvents ∧
        Machine.Always NamesLast [] (Iphone.terminalMachine.trace cancelEvents)) ↔
      ((Companion.sessionMachine someConfig).AllSteps (FindsItsRun someConfig)
          (Companion.sessionMachine someConfig).init cancelledEvents ∧
        ∀ socket m, .sent socket m ∈ Iphone.terminalMachine.trace cancelEvents →
          m.type ≠ "codex_cancel") :=
  cancels_addressed someConfig cancelledEvents cancelEvents fresh_cancelEvents

theorem cancels_someRun :
    Cancels someConfig ((Companion.sessionMachine someConfig).run cancelledEvents) .run
      (Iphone.uuidString (.replicate 16 2)) 0 where
  step := rfl
  handles := ⟨cancelData, by decide +kernel, by decide +kernel⟩
  named := uuidString_ne_nil _
  active := by decide +kernel

theorem requestID_someRun :
    ((Companion.sessionMachine someConfig).run cancelledEvents).requestID 0 ≠
      Iphone.uuidString (.replicate 16 2) := by
  decide +kernel

theorem sent_cancelEvents :
    .sent 0 (.codexCancel someSession (Iphone.uuidString (.replicate 16 2))) ∈
      Iphone.terminalMachine.trace cancelEvents := by
  decide +kernel

/-- The cancel of another request stops the run, and names no prompt. -/
theorem cancel_stops_other :
    ¬ (Companion.sessionMachine someConfig).AllSteps (Addressed someConfig)
        (Companion.sessionMachine someConfig).init (cancelledEvents ++ [.run]) ∧
      ¬ Machine.Always NamesLast [] (Iphone.terminalMachine.trace cancelEvents) := by
  constructor
  · intro h
    have hstep := (Companion.sessionMachine someConfig).allSteps_last h
    exact requestID_someRun ((hstep _ _ cancels_someRun).mp cancels_someRun.stops)
  · rw [namesLast_iff cancelEvents fresh_cancelEvents]
    intro hnone
    exact hnone 0 _ sent_cancelEvents rfl

end Bootmux.Terminal
