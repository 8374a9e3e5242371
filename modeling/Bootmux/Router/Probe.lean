/-
Bootmux.Router.Probe — the bounded target-reachability probe of the
router firmware (`target_probe.c`, `target_probe.h`).

The C functions are kept one for one, with state passing for the
pointer argument. Addresses and masks are `UInt32`; the module is
written for one byte order throughout, host order in the words of its
header, and never looks at single octets except to form the allowlist.

The target of the probe is the first literal of the allowlist that lies in
the subnet of the station. Results are counted in a row, successes and
failures apart, and a read withdraws what is too old.
-/
import Mathlib.Data.UInt

namespace Bootmux.Router

def tpReachableSuccesses : Nat := 3
def tpUnreachableFailures : Nat := 2
def tpNoResponseMs : Int := 15000

/-- `tp_ipv4` and the macro `TP_IPV4`: an IPv4 literal in host order. -/
def tpIpv4 (a b c d : UInt8) : UInt32 :=
  (a.toUInt32 <<< 24) ||| (b.toUInt32 <<< 16) ||| (c.toUInt32 <<< 8) ||| d.toUInt32

def kAllowlist : List UInt32 := [tpIpv4 192 168 11 1, tpIpv4 192 168 77 1]

/-- `tp_state_t`. -/
structure TpState where
  initialized : Bool
  subnetSet : Bool
  allowlistLoaded : Bool
  reachable : Bool
  consecutiveSuccess : Nat
  consecutiveFailure : Nat
  lastResultMs : Int
  staIp : UInt32
  staNetmask : UInt32
  selectedTarget : UInt32
  deriving DecidableEq, Repr

def tpInit : TpState where
  initialized := true
  subnetSet := false
  allowlistLoaded := false
  reachable := false
  consecutiveSuccess := 0
  consecutiveFailure := 0
  lastResultMs := 0
  staIp := 0
  staNetmask := 0
  selectedTarget := 0

def sameSubnet (a b mask : UInt32) : Bool := (a &&& mask) == (b &&& mask)

def tpSetSubnet (state : TpState) (staIp staNetmask : UInt32) : TpState :=
  let state := if state.initialized then state else tpInit
  if staIp = 0 ∨ staNetmask = 0 then
    { state with
      subnetSet := false
      allowlistLoaded := false
      reachable := false
      consecutiveSuccess := 0
      consecutiveFailure := 0
      staIp := 0
      staNetmask := 0
      selectedTarget := 0 }
  else
    -- the loop stops at the first entry that shares the subnet
    let selected := kAllowlist.find? fun entry => sameSubnet entry staIp staNetmask
    { state with
      subnetSet := true
      staIp := staIp
      staNetmask := staNetmask
      selectedTarget := selected.getD 0
      allowlistLoaded := selected.isSome
      reachable := false
      consecutiveSuccess := 0
      consecutiveFailure := 0
      lastResultMs := 0 }

def tpAllowlistLoaded (state : TpState) : Bool := state.initialized && state.allowlistLoaded

def tpProbeAllowed (state : TpState) : Bool :=
  state.initialized && state.subnetSet && state.selectedTarget != 0

def tpSelectTarget (state : TpState) : UInt32 :=
  if !tpProbeAllowed state then 0 else state.selectedTarget

def tpRecordResult (state : TpState) (success : Bool) (nowMs : Int) : TpState :=
  if !tpProbeAllowed state then state
  else if success then
    let successes :=
      if state.consecutiveSuccess < tpReachableSuccesses then state.consecutiveSuccess + 1
      else state.consecutiveSuccess
    { state with
      lastResultMs := nowMs
      consecutiveFailure := 0
      consecutiveSuccess := successes
      reachable := if successes ≥ tpReachableSuccesses then true else state.reachable }
  else
    let failures :=
      if state.consecutiveFailure < tpUnreachableFailures then state.consecutiveFailure + 1
      else state.consecutiveFailure
    { state with
      lastResultMs := nowMs
      consecutiveSuccess := 0
      consecutiveFailure := failures
      reachable := if failures ≥ tpUnreachableFailures then false else state.reachable }

/-- `tp_is_reachable`, which may drop the latch while it reads it. -/
def tpIsReachable (state : TpState) (nowMs : Int) : Bool × TpState :=
  if !state.initialized then (false, state)
  else if !state.reachable then (false, state)
  else if state.lastResultMs ≠ 0 ∧ nowMs - state.lastResultMs ≥ tpNoResponseMs then
    (false, { state with reachable := false, consecutiveSuccess := 0 })
  else (true, state)

/-! ## What the calls leave alone -/

/-- The binding of the probe to a subnet. -/
def TpState.binding (state : TpState) : Bool × Bool × Bool × UInt32 :=
  (state.initialized, state.subnetSet, state.allowlistLoaded, state.selectedTarget)

@[simp] theorem tpRecordResult_binding (state : TpState) (success : Bool) (nowMs : Int) :
    (tpRecordResult state success nowMs).binding = state.binding := by
  unfold tpRecordResult
  split
  · rfl
  · split <;> rfl

@[simp] theorem tpIsReachable_binding (state : TpState) (nowMs : Int) :
    (tpIsReachable state nowMs).2.binding = state.binding := by
  unfold tpIsReachable
  split
  · rfl
  · split
    · rfl
    · split <;> rfl

end Bootmux.Router
