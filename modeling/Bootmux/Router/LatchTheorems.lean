/-
Bootmux.Router.LatchTheorems — what the reachability latch remembers.

`target_probe.c` keeps two counters, a sticky flag and the time of the newest
result; a read may withdraw the flag, and forgets one of the counters then.
`History` keeps the results themselves, and `Established` says of them what
the rules of the header say. `latch_spec`: the two agree on every read, in
every order of the calls.

The specification reads the list of results from its newest one: three
successes in a row establish, two failures in a row after them withdraw, and
an old newest result counts for nothing. What the counters hold is the
length of the run of equal results at the front (`leading`), up to where a
read has forgotten it, and the flag remembers what the counters forget;
`Latch` is this correspondence, and each call of the interface keeps it.
-/
import Mathlib.Data.List.Chain
import Bootmux.Lib.Machine
import Bootmux.Router.Probe

namespace Bootmux.Router

open Bootmux.Lib

/-! ## The calls -/

inductive TpCall where
  | setSubnet (staIp staNetmask : UInt32)
  | recordResult (success : Bool) (nowMs : Int)
  | isReachable (nowMs : Int)
  deriving DecidableEq, Repr

def TpCall.time : TpCall → Option Int
  | .setSubnet .. => none
  | .recordResult _ now | .isReachable now => some now

def tpStep (p : TpState) : TpCall → TpState × List Bool
  | .setSubnet ip netmask => (tpSetSubnet p ip netmask, [])
  | .recordResult success now => (tpRecordResult p success now, [])
  | .isReachable now => ((tpIsReachable p now).2, [(tpIsReachable p now).1])

/-- The probe after `tp_init`; its outputs are the answers of
`tp_is_reachable`. -/
def tpCalls : Machine TpState TpCall Bool where
  init := tpInit
  step := tpStep

/-! ## The specification -/

/-- The results that count, the newest first, each with its time. -/
abbrev Results := List (Bool × Int)

/-- No two successive failures. -/
def NoTwoFailures (results : Results) : Prop :=
  results.IsChain fun x y => x.1 = true ∨ y.1 = true

/-- Three successive results were successes, with no two successive failures
after them. -/
def Established (results : Results) : Prop :=
  ∃ n < results.length, ((results.drop n).take 3).map Prod.fst = [true, true, true] ∧
    NoTwoFailures (results.take n)

instance (results : Results) : Decidable (NoTwoFailures results) := by
  unfold NoTwoFailures
  infer_instance

instance (results : Results) : Decidable (Established results) := by
  unfold Established
  infer_instance

/-- The newest result is at least 15 s old. -/
def Old (results : Results) (now : Int) : Prop :=
  ∃ newest ∈ results.head?, now - newest.2 ≥ 15000

instance (results : Results) (now : Int) : Decidable (Old results now) := by
  unfold Old
  infer_instance

/-- An allowlisted literal is inside the subnet. -/
def Selects (ip netmask : UInt32) : Bool :=
  ip ≠ 0 && netmask ≠ 0 && kAllowlist.any fun entry => sameSubnet entry ip netmask

/-- What the calls leave to remember: the subnet last set, and the results
recorded while a target was selected, since it was set and since reachability
was withdrawn last. -/
structure History where
  ip : UInt32
  netmask : UInt32
  results : Results
  deriving DecidableEq, Repr

def History.after (h : History) : TpCall → History
  | .setSubnet ip netmask => ⟨ip, netmask, []⟩
  | .recordResult success now =>
      if Selects h.ip h.netmask then { h with results := (success, now) :: h.results } else h
  | .isReachable now =>
      if Established h.results ∧ Old h.results now then { h with results := [] } else h

def history (calls : List TpCall) : History := calls.foldl History.after ⟨0, 0, []⟩

/-! ## One more result -/

/-- The number of newest results that are all `success`. -/
def leading (success : Bool) (results : Results) : Nat :=
  (results.takeWhile fun x => x.1 = success).length

@[simp] theorem leading_nil (success : Bool) : leading success [] = 0 := rfl

@[simp] theorem leading_same (success : Bool) (t : Int) (results : Results) :
    leading success ((success, t) :: results) = leading success results + 1 := by
  simp [leading]

@[simp] theorem leading_true_failure (t : Int) (results : Results) :
    leading true ((false, t) :: results) = 0 := rfl

@[simp] theorem leading_false_success (t : Int) (results : Results) :
    leading false ((true, t) :: results) = 0 := rfl

/-- The newest three are successes. -/
theorem three_iff_leading (results : Results) :
    (results.take 3).map Prod.fst = [true, true, true] ↔ 3 ≤ leading true results := by
  match results with
  | [] => simp [leading]
  | [(a, _)] => cases a <;> simp [leading]
  | [(a, _), (b, _)] => cases a <;> cases b <;> simp [leading]
  | (a, _) :: (b, _) :: (c, _) :: rest => cases a <;> cases b <;> cases c <;> simp [leading]

theorem established_nil : ¬Established [] := by
  rintro ⟨n, hn, -⟩
  exact absurd hn (Nat.not_lt_zero n)

/-- Three successes stand at the front, or further back. -/
theorem established_cons (x : Bool × Int) (results : Results) :
    Established (x :: results) ↔ 3 ≤ leading true (x :: results) ∨
      ∃ n < results.length, ((results.drop n).take 3).map Prod.fst = [true, true, true] ∧
        NoTwoFailures (x :: results.take n) := by
  constructor
  · rintro ⟨n, hn, hthree, hafter⟩
    cases n with
    | zero => exact .inl ((three_iff_leading _).mp hthree)
    | succ n => exact .inr ⟨n, Nat.lt_of_succ_lt_succ hn, hthree, hafter⟩
  · rintro (hthree | ⟨n, hn, hthree, hafter⟩)
    · exact ⟨0, Nat.succ_pos _, (three_iff_leading _).mpr hthree, .nil⟩
    · exact ⟨n + 1, Nat.succ_lt_succ hn, hthree, hafter⟩

theorem established_success (t : Int) (results : Results) :
    Established ((true, t) :: results) ↔
      3 ≤ leading true ((true, t) :: results) ∨ Established results := by
  rw [established_cons]
  refine or_congr Iff.rfl ⟨?_, ?_⟩
  · rintro ⟨n, hn, hthree, hafter⟩
    exact ⟨n, hn, hthree, hafter.tail⟩
  · rintro ⟨n, hn, hthree, hafter⟩
    exact ⟨n, hn, hthree, List.isChain_cons.mpr ⟨by simp, hafter⟩⟩

/-- A failure after a failure ends it. -/
theorem established_failure (t : Int) (results : Results) :
    Established ((false, t) :: results) ↔ Established results ∧ leading false results = 0 := by
  rw [established_cons, leading_true_failure]
  constructor
  · rintro (hthree | ⟨n, hn, hthree, hafter⟩)
    · exact absurd hthree (by decide)
    · refine ⟨⟨n, hn, hthree, hafter.tail⟩, ?_⟩
      match results, n with
      | [], _ => rfl
      | (true, _) :: _, _ => rfl
      | (false, _) :: _, 0 => simp at hthree
      | (false, _) :: _, n + 1 =>
          rw [List.take_succ_cons] at hafter
          exact absurd (List.isChain_cons_cons.mp hafter).1 (by simp)
  · rintro ⟨⟨n, hn, hthree, hafter⟩, hleading⟩
    refine .inr ⟨n, hn, hthree, List.isChain_cons.mpr ⟨fun y hy => .inr ?_, hafter⟩⟩
    match results, n with
    | [], _ => exact absurd hn (Nat.not_lt_zero _)
    | (false, _) :: _, _ => simp at hleading
    | (true, _) :: _, 0 => simp at hy
    | (true, _) :: _, n + 1 =>
        rw [List.take_succ_cons, List.head?_cons, Option.mem_some_iff] at hy
        rw [← hy]

/-! ## What the probe keeps of it -/

/-- The probe agrees with what there is to remember. -/
structure Latch (h : History) (p : TpState) : Prop where
  initialized : p.initialized = true
  allowed : tpProbeAllowed p = Selects h.ip h.netmask
  target : tpProbeAllowed p = true →
    p.selectedTarget ∈ kAllowlist ∧ sameSubnet p.selectedTarget h.ip h.netmask = true
  selects : h.results ≠ [] → Selects h.ip h.netmask = true
  reachable : p.reachable = true ↔ Established h.results
  successes : p.consecutiveSuccess = min 3 (leading true h.results)
  failures : p.reachable = true → p.consecutiveFailure = leading false h.results
  newest : ∀ x ∈ h.results.head?, p.lastResultMs = x.2 ∧ 0 < x.2

theorem latch_init : Latch ⟨0, 0, []⟩ tpInit where
  initialized := rfl
  allowed := rfl
  target h := by cases h
  selects h := absurd rfl h
  reachable := ⟨fun h => (nomatch h), fun h => absurd h established_nil⟩
  successes := rfl
  failures h := by cases h
  newest x h := by cases h

/-- The binding to the subnet last set. -/
theorem Latch.of_fresh {ip netmask : UInt32} {p : TpState} (hinit : p.initialized = true)
    (hallowed : tpProbeAllowed p = Selects ip netmask)
    (htarget : tpProbeAllowed p = true →
      p.selectedTarget ∈ kAllowlist ∧ sameSubnet p.selectedTarget ip netmask = true)
    (hreachable : p.reachable = false) (hsuccesses : p.consecutiveSuccess = 0) :
    Latch ⟨ip, netmask, []⟩ p where
  initialized := hinit
  allowed := hallowed
  target := htarget
  selects h := absurd rfl h
  reachable := by simp [hreachable, established_nil]
  successes := hsuccesses
  failures h := by simp [hreachable] at h
  newest x h := by cases h

theorem allowlist_nonzero : ∀ entry ∈ kAllowlist, entry ≠ 0 := by decide

/-- Setting a subnet forgets the results. -/
theorem latch_setSubnet {h : History} {p : TpState} (hlatch : Latch h p) (ip netmask : UInt32) :
    Latch (h.after (.setSubnet ip netmask)) (tpSetSubnet p ip netmask) := by
  show Latch ⟨ip, netmask, []⟩ _
  unfold tpSetSubnet
  rw [if_pos hlatch.initialized]
  simp only []
  split
  · next hzero =>
      refine .of_fresh hlatch.initialized ?_ (fun hallowed => ?_) rfl rfl
      · rcases hzero with rfl | rfl <;> simp [tpProbeAllowed, Selects]
      · simp [tpProbeAllowed] at hallowed
  · next hnonzero =>
      obtain ⟨hip, hnetmask⟩ := not_or.mp hnonzero
      cases hfound : kAllowlist.find? fun entry => sameSubnet entry ip netmask with
      | none =>
          have hnone : (kAllowlist.any fun entry => sameSubnet entry ip netmask) = false := by
            rw [List.any_eq_false]
            exact fun entry hentry => List.find?_eq_none.mp hfound entry hentry
          refine .of_fresh hlatch.initialized ?_ (fun hallowed => ?_) rfl rfl
          · simp [tpProbeAllowed, Selects, hnone]
          · simp [tpProbeAllowed] at hallowed
      | some entry =>
          have hentry := List.mem_of_find?_eq_some hfound
          have hsame := List.find?_some hfound
          have hany : (kAllowlist.any fun entry => sameSubnet entry ip netmask) = true :=
            List.any_eq_true.mpr ⟨entry, hentry, hsame⟩
          refine .of_fresh hlatch.initialized ?_ (fun _ => ⟨hentry, hsame⟩) rfl rfl
          simp [tpProbeAllowed, Selects, hany, hip, hnetmask, hlatch.initialized,
            allowlist_nonzero entry hentry]

/-- The counter stops at three. -/
theorem successes_saturate (n : Nat) :
    (if min 3 n < tpReachableSuccesses then min 3 n + 1 else min 3 n) = min 3 (n + 1) := by
  rcases Nat.lt_or_ge n 3 with hfew | hthree
  · rw [Nat.min_eq_right (Nat.le_of_lt hfew), Nat.min_eq_right hfew]
    exact if_pos hfew
  · rw [Nat.min_eq_left hthree, Nat.min_eq_left (Nat.le_succ_of_le hthree)]
    rfl

/-- The second failure in a row withdraws. -/
theorem failures_withdraw (n : Nat) :
    (if (if n < tpUnreachableFailures then n + 1 else n) ≥ tpUnreachableFailures then false
      else true) = true ↔ n = 0 := by
  match n with
  | 0 => exact ⟨fun _ => rfl, fun _ => rfl⟩
  | 1 => exact ⟨fun h => (nomatch h), fun h => (nomatch h)⟩
  | n + 2 =>
      have hlarge : ¬n + 2 < tpUnreachableFailures := by simp [tpUnreachableFailures]
      rw [if_neg hlarge, if_pos (Nat.le_of_not_lt hlarge)]
      exact ⟨fun h => (nomatch h), fun h => (nomatch h)⟩

/-- A success counts on. -/
theorem latch_success {h : History} {p : TpState} (hlatch : Latch h p)
    (hallowed : tpProbeAllowed p = true) {now : Int} (hnow : 0 < now) :
    Latch { h with results := (true, now) :: h.results } (tpRecordResult p true now) := by
  have hsuccesses : (if p.consecutiveSuccess < tpReachableSuccesses then p.consecutiveSuccess + 1
      else p.consecutiveSuccess) = min 3 (leading true h.results + 1) := by
    rw [hlatch.successes]
    exact successes_saturate _
  simp only [tpRecordResult, hallowed, Bool.not_true, Bool.false_eq_true, if_false, if_true,
    hsuccesses]
  refine ⟨hlatch.initialized, hlatch.allowed, hlatch.target,
    fun _ => hlatch.allowed.symm.trans hallowed, ?_, ?_, fun _ => rfl, ?_⟩
  · show (if _ then _ else _) = true ↔ _
    rw [established_success, leading_same, ← hlatch.reachable]
    split
    · next hthree =>
        have : 3 ≤ leading true h.results + 1 := by
          simp only [tpReachableSuccesses] at hthree
          omega
        exact ⟨fun _ => .inl this, fun _ => rfl⟩
    · next hfew =>
        refine ⟨.inr, fun hor => hor.resolve_left fun hthree => hfew ?_⟩
        simp only [tpReachableSuccesses]
        omega
  · rw [leading_same]
  · rintro x hx
    obtain rfl : (true, now) = x := Option.some.inj hx
    exact ⟨rfl, hnow⟩

/-- A failure starts the count again. -/
theorem latch_failure {h : History} {p : TpState} (hlatch : Latch h p)
    (hallowed : tpProbeAllowed p = true) {now : Int} (hnow : 0 < now) :
    Latch { h with results := (false, now) :: h.results } (tpRecordResult p false now) := by
  simp only [tpRecordResult, hallowed, Bool.not_true, Bool.false_eq_true, if_false]
  refine ⟨hlatch.initialized, hlatch.allowed, hlatch.target,
    fun _ => hlatch.allowed.symm.trans hallowed, ?_, rfl, fun hreachable => ?_, ?_⟩
  · show (if _ then _ else _) = true ↔ _
    rw [established_failure, ← hlatch.reachable]
    -- only while reachable is the counter known to be the history's
    cases hreachable : p.reachable with
    | true =>
        rw [hlatch.failures hreachable, failures_withdraw]
        simp
    | false =>
        rw [ite_self]
        simp
  · replace hreachable : (if _ then false else p.reachable) = true := hreachable
    show (if _ then _ else _) = _
    cases hbefore : p.reachable with
    | true =>
        rw [hbefore, hlatch.failures hbefore, failures_withdraw] at hreachable
        rw [hlatch.failures hbefore, leading_same, hreachable]
        rfl
    | false =>
        rw [hbefore, ite_self] at hreachable
        cases hreachable
  · rintro x hx
    obtain rfl : (false, now) = x := Option.some.inj hx
    exact ⟨rfl, hnow⟩

/-- One result. -/
theorem latch_recordResult {h : History} {p : TpState} (hlatch : Latch h p) (success : Bool)
    {now : Int} (hnow : 0 < now) :
    Latch (h.after (.recordResult success now)) (tpRecordResult p success now) := by
  cases hallowed : tpProbeAllowed p with
  | false =>
      have hselects : Selects h.ip h.netmask = false := hlatch.allowed.symm.trans hallowed
      simpa [History.after, hselects, tpRecordResult, hallowed] using hlatch
  | true =>
      have hselects : Selects h.ip h.netmask = true := hlatch.allowed.symm.trans hallowed
      simp only [History.after, hselects, if_true]
      cases success with
      | true => exact latch_success hlatch hallowed hnow
      | false => exact latch_failure hlatch hallowed hnow

/-- The test of the age, as the code makes it. -/
theorem Latch.old_iff {h : History} {p : TpState} (hlatch : Latch h p)
    (hestablished : Established h.results) (now : Int) :
    (p.lastResultMs ≠ 0 ∧ now - p.lastResultMs ≥ tpNoResponseMs) ↔ Old h.results now := by
  cases hresults : h.results with
  | nil =>
      rw [hresults] at hestablished
      exact absurd hestablished established_nil
  | cons newest rest =>
      obtain ⟨hlast, hpositive⟩ := hlatch.newest newest (by rw [hresults]; rfl)
      rw [hlast]
      constructor
      · rintro ⟨-, hage⟩
        exact ⟨newest, rfl, hage⟩
      · rintro ⟨x, hx, hage⟩
        obtain rfl : newest = x := Option.some.inj hx
        exact ⟨hpositive.ne', hage⟩

/-- The answer is what the history says, if its last success is not too old.
-/
theorem tpIsReachable_iff {h : History} {p : TpState} (hlatch : Latch h p) (now : Int) :
    (tpIsReachable p now).1 = true ↔ Established h.results ∧ ¬Old h.results now := by
  unfold tpIsReachable
  rw [hlatch.initialized, ← hlatch.reachable]
  cases hreachable : p.reachable with
  | false => simp
  | true =>
      rw [← hlatch.old_iff (hlatch.reachable.mp hreachable)]
      simp only [Bool.not_true, Bool.false_eq_true, if_false, true_and]
      split
      · next hold => simp [hold]
      · next hfresh => simp only [hfresh, not_false_iff]

theorem latch_isReachable {h : History} {p : TpState} (hlatch : Latch h p) (now : Int) :
    Latch (h.after (.isReachable now)) (tpIsReachable p now).2 := by
  have hinit : ¬(!p.initialized) = true := by simp [hlatch.initialized]
  rw [tpIsReachable, if_neg hinit]
  cases hreachable : p.reachable with
  | false =>
      have hnot : ¬Established h.results := fun hestablished => by
        rw [hlatch.reachable.mpr hestablished] at hreachable
        cases hreachable
      have hafter : h.after (.isReachable now) = h := if_neg fun hboth => hnot hboth.1
      rw [hafter]
      simpa using hlatch
  | true =>
      have hestablished := hlatch.reachable.mp hreachable
      simp only [Bool.not_true, Bool.false_eq_true, if_false]
      split
      · next hold =>
          have hafter : h.after (.isReachable now) = { h with results := [] } :=
            if_pos ⟨hestablished, (hlatch.old_iff hestablished now).mp hold⟩
          rw [hafter]
          exact .of_fresh hlatch.initialized hlatch.allowed hlatch.target rfl rfl
      · next hfresh =>
          have hafter : h.after (.isReachable now) = h :=
            if_neg fun hboth => hfresh ((hlatch.old_iff hestablished now).mpr hboth.2)
          rw [hafter]
          exact hlatch

/-- One call. -/
theorem latch_step {h : History} {p : TpState} (hlatch : Latch h p) (call : TpCall)
    (htime : ∀ t ∈ call.time, 0 < t) : Latch (h.after call) (tpCalls.step p call).1 := by
  cases call with
  | setSubnet ip netmask => exact latch_setSubnet hlatch ip netmask
  | recordResult success now => exact latch_recordResult hlatch success (htime now rfl)
  | isReachable now => exact latch_isReachable hlatch now

/-- The induction over the calls. -/
theorem latch_run (calls : List TpCall) (htimes : ∀ call ∈ calls, ∀ t ∈ call.time, 0 < t) :
    Latch (history calls) (tpCalls.run calls) := by
  induction calls using List.reverseRecOn with
  | nil => exact latch_init
  | append_singleton calls call ih =>
      rw [history, List.foldl_append, tpCalls.run_concat]
      exact latch_step (ih fun c hc => htimes c (List.mem_append_left _ hc)) call
        (htimes call (List.mem_append_right _ (List.mem_singleton.mpr rfl)))

/-! ## The specification is met -/

theorem latch_spec (calls : List TpCall) (htimes : ∀ call ∈ calls, ∀ t ∈ call.time, 0 < t)
    (now : Int) :
    ((tpIsReachable (tpCalls.run calls) now).1 = true ↔
      Established (history calls).results ∧ ¬Old (history calls).results now) ∧
    ((tpIsReachable (tpCalls.run calls) now).1 = true →
      tpSelectTarget (tpCalls.run calls) ∈ kAllowlist ∧
        sameSubnet (tpSelectTarget (tpCalls.run calls)) (history calls).ip
          (history calls).netmask = true) := by
  have hlatch := latch_run calls htimes
  refine ⟨tpIsReachable_iff hlatch now, fun hreachable => ?_⟩
  have hestablished := ((tpIsReachable_iff hlatch now).mp hreachable).1
  have hallowed : tpProbeAllowed (tpCalls.run calls) = true := by
    refine hlatch.allowed.trans (hlatch.selects fun hnil => ?_)
    rw [hnil] at hestablished
    exact established_nil hestablished
  rw [tpSelectTarget, hallowed]
  exact hlatch.target hallowed

def homeCalls : List TpCall :=
  [.setSubnet (tpIpv4 192 168 11 20) (tpIpv4 255 255 255 0), .recordResult true 1000,
    .recordResult true 2000, .isReachable 2500, .recordResult true 3000, .recordResult false 4000]

/-- The hypothesis is met by the calls of a router at home. -/
theorem latch_spec_home :
    (tpIsReachable (tpCalls.run homeCalls) 5000).1 = true ∧
      tpSelectTarget (tpCalls.run homeCalls) ∈ kAllowlist := by
  obtain ⟨hiff, htarget⟩ := latch_spec homeCalls (by decide) 5000
  have hreachable := hiff.mpr ⟨by decide, by decide⟩
  exact ⟨hreachable, (htarget hreachable).1⟩

/-- A withdrawal forgets the results: two fresh successes do not establish. -/
example : (tpIsReachable (tpCalls.run (homeCalls ++ [.isReachable 20000,
    .recordResult true 21000, .recordResult true 22000])) 22500).1 = false := by decide

end Bootmux.Router
