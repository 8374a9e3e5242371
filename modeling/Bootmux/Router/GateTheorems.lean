/-
Bootmux.Router.GateTheorems — whole-run safety of the management-path
gate of `Bootmux.Router.Gate`.

The gate is run as a machine whose events are the lease calls, an
arbitrary rewrite of the three inputs, and `mg_reconcile` with
arbitrary results of the three start callbacks. Its outputs are the
callback calls, recorded by the stub `recordingActions`, the Lean
counterpart of the recording stub of the host tests.

Two facts are proved for every run. After a reconcile the path is open
only under the three inputs and a lease that an accepted grant made and
nothing has ended since. And the recorded calls fall into blocks — a
full open, a failed open with its rollback, a close — which a
two-state automaton on the blocks (`Block.next`) accepts, so opens and
closes alternate and the automaton's state is `path_open`.

The lease is followed by an invariant of its own: a lease that is active was
granted by an accepted call, and neither a release nor its end came since
(`LeaseFrom`). What is in force after the calls of a block (`InForce`) is
computed from the calls alone, so that the last fact ties the recorded calls
to the state of the network and not to the flag.
-/
import Bootmux.Router.Gate

namespace Bootmux.Router

open Bootmux.Lib

/-! ## The gate as a machine -/

/-- A recorded callback call; a start call carries whether it succeeded. -/
inductive Call where
  | netifStart (ok : Bool)
  | naptEnable (ok : Bool)
  | proxyStart (ok : Bool)
  | proxyStop
  | naptDisable
  | netifStop
  deriving DecidableEq, Repr

/-- What the three start callbacks return during one reconcile. -/
structure Outcomes where
  netif : MgErr
  napt : MgErr
  proxy : MgErr
  deriving DecidableEq, Repr

/-- Callbacks that record their calls and return the given results. -/
def recordingActions (o : Outcomes) : MgActions (List Call) where
  netifStart := some fun calls => (o.netif, calls ++ [.netifStart (o.netif == mgOk)])
  naptEnable := some fun calls => (o.napt, calls ++ [.naptEnable (o.napt == mgOk)])
  proxyStart := some fun calls => (o.proxy, calls ++ [.proxyStart (o.proxy == mgOk)])
  proxyStop := some fun calls => calls ++ [.proxyStop]
  naptDisable := some fun calls => calls ++ [.naptDisable]
  netifStop := some fun calls => calls ++ [.netifStop]
  emit := none

inductive GateEvent where
  | grant (ttlSeconds nowMs : Int)
  | release
  | inputs (wifiHasIp targetReachable allowlistLoaded : Bool)
  | reconcile (nowMs : Int) (reason : MgReason) (outcomes : Outcomes)
  deriving DecidableEq, Repr

def gateStep (s : MgState) : GateEvent → MgState × List Call
  | .grant ttl now => ((mgLeaseGrant s ttl now).2, [])
  | .release => (mgLeaseRelease s, [])
  | .inputs w t a =>
      ({ s with wifiHasIp := w, targetReachable := t, allowlistLoaded := a }, [])
  | .reconcile now reason o => (mgReconcile s now reason (recordingActions o) []).2

def gateMachine : Machine MgState GateEvent Call where
  init := mgInit
  step := gateStep

/-! ## The lease behind an open path -/

/-- A grant `mg_lease_grant` accepts. -/
def AcceptedGrant (ttl : Int) : Prop := 10 ≤ ttl ∧ ttl ≤ 60

/-- The events that end the lease in force: a release, or an accepted
grant, which replaces it. -/
def GateEvent.endsLease : GateEvent → Prop
  | .grant ttl _ => AcceptedGrant ttl
  | .release => True
  | _ => False

/-- The lease deadline is the one the last accepted grant set, unless no
grant stands. -/
def LeaseFrom (es : List GateEvent) (s : MgState) : Prop :=
  s.leaseDeadlineMs ≠ 0 →
    ∃ p ttl g q, es = p ++ GateEvent.grant ttl g :: q ∧ AcceptedGrant ttl ∧
      s.leaseDeadlineMs = g + ttl * 1000 ∧ ∀ e ∈ q, ¬ e.endsLease

/-- An event that ends no lease and sets none goes on with the one there is.
-/
theorem leaseFrom_extend {es : List GateEvent} {s s' : MgState} {e : GateEvent}
    (h : LeaseFrom es s) (hd : s'.leaseDeadlineMs = s.leaseDeadlineMs)
    (he : ¬ e.endsLease) : LeaseFrom (es ++ [e]) s' := by
  intro hne
  obtain ⟨p, ttl, g, q, rfl, hacc, hdl, hq⟩ := h (hd ▸ hne)
  refine ⟨p, ttl, g, q ++ [e], by simp, hacc, hd.trans hdl, ?_⟩
  intro x hx
  rcases List.mem_append.mp hx with hx | hx
  · exact hq x hx
  · rw [List.mem_singleton.mp hx]; exact he

/-- One event. -/
theorem leaseFrom_step (es : List GateEvent) (s : MgState) (e : GateEvent)
    (h : LeaseFrom es s) : LeaseFrom (es ++ [e]) (gateStep s e).1 := by
  cases e with
  | grant ttl g =>
      by_cases hacc : AcceptedGrant ttl
      · -- the accepted grant is the last event, so nothing has ended it
        intro _
        refine ⟨es, ttl, g, [], rfl, hacc, ?_, by simp⟩
        have hin : ¬ (ttl < mgLeaseTtlMin ∨ ttl > mgLeaseTtlMax) := by
          simp only [AcceptedGrant, mgLeaseTtlMin, mgLeaseTtlMax] at hacc ⊢
          omega
        simp [gateStep, mgLeaseGrant, hin]
      · have hout : ttl < mgLeaseTtlMin ∨ ttl > mgLeaseTtlMax := by
          simp only [AcceptedGrant, mgLeaseTtlMin, mgLeaseTtlMax] at hacc ⊢
          omega
        exact leaseFrom_extend h (by simp [gateStep, mgLeaseGrant, hout]) hacc
  | release => intro hne; simp [gateStep, mgLeaseRelease] at hne
  | inputs w t a => exact leaseFrom_extend h rfl (by simp [GateEvent.endsLease])
  | reconcile now reason o =>
      exact leaseFrom_extend h (by simp [gateStep]) (by simp [GateEvent.endsLease])

/-- The induction over a run: an active lease comes from a grant that nothing
has ended. -/
theorem leaseFrom_run (es : List GateEvent) : LeaseFrom es (gateMachine.run es) :=
  gateMachine.events_invariant (P := fun _ _ => True)
    (fun hne => absurd rfl hne) (fun h s e hi _ => leaseFrom_step h s e hi) es
    (gateMachine.allSteps_of_forall (fun _ _ => trivial) _ _)

/-! ## The calls of a run fall into blocks -/

/-- A full open, the three failed opens by the step that failed, and a
close. -/
inductive Block where
  | fullOpen
  | netifFailed
  | naptFailed
  | proxyFailed
  | close
  deriving DecidableEq, Repr

def Block.calls : Block → List Call
  | .fullOpen => [.netifStart true, .naptEnable true, .proxyStart true]
  | .netifFailed => [.netifStart false]
  | .naptFailed => [.netifStart true, .naptEnable false, .netifStop]
  | .proxyFailed =>
      [.netifStart true, .naptEnable true, .proxyStart false, .naptDisable, .netifStop]
  | .close => [.proxyStop, .naptDisable, .netifStop]

/-- Which block may follow: opening is attempted only while closed,
closing only while open. The state is whether the path is open. -/
def Block.next : Bool → Block → Option Bool
  | false, .fullOpen => some true
  | false, .netifFailed => some false
  | false, .naptFailed => some false
  | false, .proxyFailed => some false
  | true, .close => some false
  | _, _ => none

/-- The blocks are accepted from state `b` and lead to the result. -/
def alternate (b : Bool) : List Block → Option Bool
  | [] => some b
  | k :: ks => (Block.next b k).bind fun b' => alternate b' ks

/-- Blocks in two parts. -/
theorem alternate_append (b : Bool) (ks ls : List Block) :
    alternate b (ks ++ ls) = (alternate b ks).bind fun b' => alternate b' ls := by
  induction ks generalizing b with
  | nil => rfl
  | cons k ks ih =>
      cases h : Block.next b k with
      | none => simp [alternate, h]
      | some b' => simp [alternate, h, ih]

/-- The block an attempted open records: the first failing callback
names it. -/
def openBlock (o : Outcomes) : Block :=
  if o.netif ≠ mgOk then .netifFailed
  else if o.napt ≠ mgOk then .naptFailed
  else if o.proxy ≠ mgOk then .proxyFailed
  else .fullOpen

/-- Opening the path is one block, whatever fails in it. -/
theorem activate_openBlock (s : MgState) (o : Outcomes) :
    (activate s (recordingActions o) []).2.2 = (openBlock o).calls ∧
      Block.next false (openBlock o) =
        some (activate s (recordingActions o) []).2.1.pathOpen := by
  by_cases h1 : o.netif = mgOk
  · by_cases h2 : o.napt = mgOk
    · by_cases h3 : o.proxy = mgOk <;>
        simp [activate, applyOpenSteps, rollBack, runStart, runStop, emitMarker,
          recordingActions, openBlock, Block.calls, Block.next, h1, h2, h3]
    · simp [activate, applyOpenSteps, rollBack, runStart, runStop, emitMarker,
        recordingActions, openBlock, Block.calls, Block.next, h1, h2]
  · simp [activate, applyOpenSteps, rollBack, runStart, emitMarker,
      recordingActions, openBlock, Block.calls, Block.next, h1]

/-- The calls of one step: none, or one block that the automaton takes
from the old `path_open` to the new one. -/
theorem gateStep_blocks (s : MgState) (e : GateEvent) :
    ∃ ks, (gateStep s e).2 = ks.flatMap Block.calls ∧
      alternate s.pathOpen ks = some (gateStep s e).1.pathOpen := by
  cases e with
  | grant ttl now =>
      refine ⟨[], rfl, ?_⟩
      simp only [gateStep, mgLeaseGrant, alternate]
      split <;> rfl
  | release => exact ⟨[], rfl, rfl⟩
  | inputs w t a => exact ⟨[], rfl, rfl⟩
  | reconcile now reason o =>
      simp only [gateStep, mgReconcile]
      cases hs : mgShouldOpen s now <;> cases hp : s.pathOpen
      · exact ⟨[], by simp, by simp [alternate, hp]⟩
      · refine ⟨[.close], ?_, by simp [alternate, Block.next, deactivate]⟩
        simp [deactivate, runStop, recordingActions, emitMarker, Block.calls]
      · obtain ⟨hcalls, hnext⟩ := activate_openBlock s o
        exact ⟨[openBlock o], by simp [hcalls], by simp [alternate, hnext]⟩
      · exact ⟨[], by simp, by simp [alternate, hp]⟩

/-- **The calls of a run** are blocks that open and close in turn. -/
theorem gate_trace_blocks (es : List GateEvent) :
    ∃ ks, gateMachine.trace es = ks.flatMap Block.calls ∧
      alternate false ks = some (gateMachine.run es).pathOpen := by
  refine gateMachine.history_invariant (P := fun _ _ => True)
    (I := fun t s => ∃ ks, t = ks.flatMap Block.calls ∧
      alternate false ks = some s.pathOpen) ⟨[], rfl, rfl⟩ ?_ es
    (gateMachine.allSteps_of_forall (fun _ _ => trivial) _ _)
  rintro t s e ⟨ks, rfl, hks⟩ -
  obtain ⟨ls, hcalls, hls⟩ := gateStep_blocks s e
  refine ⟨ks ++ ls, ?_, ?_⟩
  · rw [List.flatMap_append, ← hcalls]; rfl
  · rw [alternate_append, hks]; exact hls

/-! ## What the calls leave in force -/

/-- Which of the three actions are in force. -/
structure InForce where
  netif : Bool
  napt : Bool
  proxy : Bool
  deriving DecidableEq, Repr

/-- The effect of one call; a failed start has none. -/
def Call.apply (w : InForce) : Call → InForce
  | .netifStart ok => { w with netif := w.netif || ok }
  | .naptEnable ok => { w with napt := w.napt || ok }
  | .proxyStart ok => { w with proxy := w.proxy || ok }
  | .proxyStop => { w with proxy := false }
  | .naptDisable => { w with napt := false }
  | .netifStop => { w with netif := false }

/-- A block the automaton accepts leads from all-or-nothing to
all-or-nothing. -/
theorem apply_block {b b' : Bool} {k : Block} (h : Block.next b k = some b') :
    k.calls.foldl Call.apply ⟨b, b, b⟩ = ⟨b', b', b'⟩ := by
  cases b <;> cases k <;> simp only [Block.next, Option.some.injEq, reduceCtorEq] at h <;>
    subst h <;> rfl

/-- Blocks in turn leave the three parts of the path in one state. -/
theorem apply_blocks {b b' : Bool} {ks : List Block} (h : alternate b ks = some b') :
    (ks.flatMap Block.calls).foldl Call.apply ⟨b, b, b⟩ = ⟨b', b', b'⟩ := by
  induction ks generalizing b with
  | nil => simp only [alternate, Option.some.injEq] at h; subst h; rfl
  | cons k ks ih =>
      simp only [alternate, Option.bind_eq_some_iff] at h
      obtain ⟨c, hk, hks⟩ := h
      rw [List.flatMap_cons, List.foldl_append, apply_block hk, ih hks]

/-- **Whole-run safety of the gate.** In every run from `mg_init`: after
each reconcile an open path has its three inputs true and an accepted
grant, made at `g` with `now < g + ttl * 1000`, that nothing has
released or replaced since; the recorded calls are a concatenation of
open, failed-open and close blocks in which opens and closes alternate,
starting from closed; and the three actions are in force exactly while
the path is open. No assumption on the clock is needed: a deadline that
happens to be `0` only reads as an absent lease. -/
theorem gate_run_safe (es : List GateEvent) :
    (∀ pre now reason outcomes post,
      es = pre ++ GateEvent.reconcile now reason outcomes :: post →
      (gateMachine.run (pre ++ [GateEvent.reconcile now reason outcomes])).pathOpen = true →
        (gateMachine.run (pre ++ [GateEvent.reconcile now reason outcomes])).wifiHasIp = true ∧
        (gateMachine.run (pre ++ [GateEvent.reconcile now reason outcomes])).targetReachable =
          true ∧
        (gateMachine.run (pre ++ [GateEvent.reconcile now reason outcomes])).allowlistLoaded =
          true ∧
        ∃ p ttl g q, pre = p ++ GateEvent.grant ttl g :: q ∧ 10 ≤ ttl ∧ ttl ≤ 60 ∧
          now < g + ttl * 1000 ∧ ∀ e ∈ q, ¬ e.endsLease) ∧
    (∃ ks : List Block, gateMachine.trace es = ks.flatMap Block.calls ∧
      alternate false ks = some (gateMachine.run es).pathOpen) ∧
    (gateMachine.trace es).foldl Call.apply ⟨false, false, false⟩ =
      ⟨(gateMachine.run es).pathOpen, (gateMachine.run es).pathOpen,
        (gateMachine.run es).pathOpen⟩ := by
  obtain ⟨ks, hks, halt⟩ := gate_trace_blocks es
  refine ⟨?_, ⟨ks, hks, halt⟩, hks ▸ apply_blocks halt⟩
  rintro pre now reason o post - hopen
  rw [Machine.run_concat] at hopen ⊢
  have hshould := mgReconcile_pathOpen _ _ _ _ _ hopen
  obtain ⟨hw, ht, ha, hl⟩ := (mgShouldOpen_iff _ _).mp hshould
  obtain ⟨hne, hlt⟩ := (mgLeaseActive_iff _ _).mp hl
  obtain ⟨p, ttl, g, q, rfl, hacc, hdl, hq⟩ := leaseFrom_run pre hne
  obtain ⟨_, _, hframe⟩ := mgReconcile_frame (gateMachine.run (p ++ .grant ttl g :: q))
    now reason (recordingActions o) []
  have hstate : (gateMachine.step (gateMachine.run (p ++ .grant ttl g :: q))
      (.reconcile now reason o)).1 = _ := hframe
  rw [hstate]
  exact ⟨hw, ht, ha, p, ttl, g, q, rfl, hacc.1, hacc.2, hdl ▸ hlt, hq⟩

end Bootmux.Router
