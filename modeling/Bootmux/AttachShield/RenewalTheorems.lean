/-
Bootmux.AttachShield.RenewalTheorems — renewals and the daemon.

The daemon goes by the state that it has loaded: a renewal changes the file
and not the daemon's copy. So a renewal counts, and stays in the file, as
long as the copy does not expire earlier than what was acknowledged
(`renewals_kept`); one that is acknowledged beyond that is lost with the
next expiry (`renewal_lost`).

The invariant (`Renewed`) is about two deadlines, that of the daemon's copy
and the one that was acknowledged: as long as the daemon runs, the copy is
not the earlier one, and whatever the daemon still has to write is its copy
(`Writes`). A renewal changes the file and not the copy, which is why the
copy has to be late enough when it is made (`Renewable`).

The clock may go in any steps, and the daemon, the renewals and the host in
any order.
-/
import Mathlib.Algebra.Order.Field.Basic
import Mathlib.Algebra.Order.Field.Rat
import Bootmux.AttachShield.CloseTheorems
import Bootmux.AttachShield.ProgramTheorems

namespace Bootmux.AttachShield

open Bootmux.Lib

/-- What a renewal promises of the daemon's later steps: no rollback before
the time that was printed, and no state file with an earlier one. -/
def KeepsRenewals (seen : List (Party × Label)) (out : Party × Label) : Prop :=
  ∀ i expiresAt, (.call i, .renewed expiresAt) ∈ seen →
    match out with
    | (.daemon, .expired now) => expiresAt ≤ now
    | (.daemon, .saved st) => expiresAt ≤ st.expiresAt
    | _ => True

def Phase.isStopped {σ : Type} : Phase σ → Bool
  | .stopped => true
  | _ => false

section Renewal

variable {σ : Type} (host : Host σ)

/-- Any number of renewals of the daemon's session. -/
def renewalSystem (w : World σ) (st : ShieldState) (ttl : Nat → ℚ) : System σ where
  world := w
  daemon := ⟨st, .sleeping⟩
  calls i := renewProcess host st.sessionId (ttl i)

/-- No renewal is acknowledged while the daemon has a copy that expires
earlier. -/
def Renewable (sys : System σ) : Turn σ → Prop
  | .call i => ∀ expiresAt,
      ((sys.calls i).step sys.world).map Prod.fst = some (.renewed expiresAt) →
      sys.daemon.phase.isStopped = false → expiresAt ≤ sys.daemon.state.expiresAt
  | _ => True

/-- Every state that is written expires when the copy does. -/
def Writes (expiresAt : ℚ) (label : Label) (_ _ : World σ) : Prop :=
  (∀ st, label = .saved st → st.expiresAt = expiresAt) ∧ ∀ now, label ≠ .expired now

/-- The daemon's copy does not expire before what was acknowledged. -/
structure Renewed (seen : List (Party × Label)) (sys : System σ) : Prop where
  copy : sys.daemon.phase.isStopped = false → ∀ i expiresAt,
    (.call i, .renewed expiresAt) ∈ seen → expiresAt ≤ sys.daemon.state.expiresAt
  keeps : sys.daemon.Does (fun _ _ => True) (Writes sys.daemon.state.expiresAt) sys.world

variable {host} {sys : System σ} {seen : List (Party × Label)}

/-- A program that writes no state keeps to `Writes`. -/
theorem steady_writes (expiresAt : ℚ) :
    Steady host (fun _ _ => True) (Writes (σ := σ) expiresAt) where
  asked _ := ⟨by simp, by simp⟩
  ran _ _ := ⟨by simp, by simp⟩
  recorded _ _ _ _ := ⟨by simp, by simp⟩

/-- A daemon that has stopped stays so. -/
theorem Daemon.step_stopped {daemon : Daemon σ} (w : World σ)
    (hstopped : daemon.phase.isStopped = true) :
    daemon.step host w = (w, daemon, []) := by
  obtain ⟨st, phase⟩ := daemon
  cases phase with
  | stopped => rfl
  | _ => cases hstopped

/-- What a step of the daemon shows, and that its copy expires when it did. -/
theorem Renewed.daemon (h : Renewed seen sys) :
    let next := sys.daemon.step host sys.world
    (∀ label ∈ next.2.2, KeepsRenewals seen (.daemon, label)) ∧
      next.2.1.Does (fun _ _ => True) (Writes next.2.1.state.expiresAt) next.1 ∧
      next.2.1.state.expiresAt = sys.daemon.state.expiresAt := by
  have hsaved : ∀ (w : World σ) st, st.expiresAt = sys.daemon.state.expiresAt →
      Writes sys.daemon.state.expiresAt (.saved st) w
        { w with file := some st, host := host.saveState w.host } := by
    intro w st hexpires
    refine ⟨fun st' heq => ?_, by simp⟩
    cases heq
    exact hexpires
  obtain ⟨hdoes, hexpires, hshown⟩ := (steady_writes sys.daemon.state.expiresAt).daemon
    (fun _ => ⟨by simp, by simp⟩) sys.daemon hsaved (fun _ => trivial) h.keeps
  refine ⟨fun label hlabel i expiresAt hseen => ?_, hexpires ▸ hdoes, hexpires⟩
  rcases hshown with ⟨hnone, -⟩ | ⟨hone, -, hsleeping, -, hexpired⟩ | ⟨label', hone, hwrites⟩
  · simp [hnone] at hlabel
  · rw [hone] at hlabel
    rw [List.mem_singleton.mp hlabel]
    have hrunning : sys.daemon.phase.isStopped = false := by rw [hsleeping]; rfl
    exact (h.copy hrunning i expiresAt hseen).trans hexpired.le
  · rw [hone] at hlabel
    rw [List.mem_singleton.mp hlabel]
    cases label' with
    | saved st' =>
        have hsame := hwrites.1 st' rfl
        have hrunning : sys.daemon.phase.isStopped = false := by
          by_contra hstopped
          simp [Daemon.step_stopped sys.world (by simpa using hstopped)] at hone
        exact (h.copy hrunning i expiresAt hseen).trans hsame.ge
    | expired now => exact absurd rfl (hwrites.2 now)
    | _ => trivial

/-- What the daemon shows is no acknowledgement. -/
theorem mem_of_mem_daemon {i : Nat} {expiresAt : ℚ} {labels : List Label}
    (h : (.call i, .renewed expiresAt) ∈ seen ++ labels.map (Party.daemon, ·)) :
    (.call i, .renewed expiresAt) ∈ seen := by
  rcases List.mem_append.mp h with h | h
  · exact h
  · obtain ⟨label, -, heq⟩ := List.mem_map.mp h
    cases heq

/-- What the daemon shows keeps the renewals, if each of its labels does. -/
theorem always_daemon {labels : List Label}
    (h : ∀ label ∈ labels, KeepsRenewals seen (.daemon, label)) :
    Machine.Always KeepsRenewals seen (labels.map (Party.daemon, ·)) := by
  rw [Machine.always_iff_split]
  intro A out B hsplit i expiresAt hseen
  obtain ⟨label, hlabel, rfl⟩ : ∃ label ∈ labels, (Party.daemon, label) = out :=
    List.mem_map.mp (hsplit ▸ by simp)
  obtain ⟨before, after, -, hbefore, -⟩ := List.map_eq_append_iff.mp hsplit
  rw [← hbefore] at hseen
  exact h label hlabel i expiresAt (mem_of_mem_daemon hseen)

/-- One turn of the system. -/
theorem Renewed.step (h : Renewed seen sys) (init : System σ) {turn : Turn σ}
    (hturn : Renewable sys turn) :
    Machine.Always KeepsRenewals seen ((systemMachine host init).step sys turn).2 ∧
      Renewed (seen ++ ((systemMachine host init).step sys turn).2)
        ((systemMachine host init).step sys turn).1 := by
  have hkeeps := fun w => h.keeps.others (fun _ _ _ _ _ => trivial) (v := w) trivial
  cases turn with
  | daemon =>
      obtain ⟨hlabels, hdoes, hexpires⟩ := h.daemon
      refine ⟨always_daemon hlabels, ⟨fun hrunning i expiresAt hseen => ?_, hdoes⟩⟩
      have hwas : sys.daemon.phase.isStopped = false := by
        by_contra hne
        have hstopped : sys.daemon.phase.isStopped = true := by simpa using hne
        simp [systemMachine, Daemon.step_stopped sys.world hstopped, hstopped] at hrunning
      exact (h.copy hwas i expiresAt (mem_of_mem_daemon hseen)).trans hexpires.ge
  | call i =>
      simp only [systemMachine]
      cases hstep : (sys.calls i).step sys.world with
      | none => exact ⟨trivial, by simpa using h⟩
      | some next =>
          obtain ⟨label, after, rest⟩ := next
          refine ⟨⟨fun _ _ _ => trivial, trivial⟩,
            ⟨fun hrunning j expiresAt hseen => ?_, hkeeps after⟩⟩
          rcases List.mem_append.mp hseen with hseen | hseen
          · exact h.copy hrunning j expiresAt hseen
          · obtain ⟨-, rfl⟩ := Prod.mk.inj (List.mem_singleton.mp hseen)
            exact hturn expiresAt (by rw [hstep]; rfl) hrunning
  | clock now => exact ⟨trivial, by simpa [systemMachine] using ⟨h.copy, hkeeps _⟩⟩
  | host s => exact ⟨trivial, by simpa [systemMachine] using ⟨h.copy, hkeeps _⟩⟩

end Renewal

/-- As long as no renewal is acknowledged beyond the daemon's copy, every
renewal is kept. -/
theorem renewals_kept {σ : Type} (host : Host σ) (w : World σ) (st : ShieldState) (ttl : Nat → ℚ)
    (turns : List (Turn σ))
    (hturns : (systemMachine host (renewalSystem host w st ttl)).AllSteps Renewable
      (renewalSystem host w st ttl) turns) :
    Machine.Always KeepsRenewals []
      ((systemMachine host (renewalSystem host w st ttl)).trace turns) := by
  have hinit : Renewed [] (renewalSystem host w st ttl) :=
    ⟨fun _ _ _ hseen => by simp at hseen, by rintro rest again ⟨⟩⟩
  refine ((systemMachine host (renewalSystem host w st ttl)).history_invariant
    (I := fun seen sys => Machine.Always KeepsRenewals [] seen ∧ Renewed seen sys)
    (P := Renewable) ⟨trivial, hinit⟩ ?_ turns hturns).1
  rintro seen sys turn ⟨halways, hrenewed⟩ hturn
  obtain ⟨hnew, hnext⟩ := hrenewed.step (renewalSystem host w st ttl) hturn
  exact ⟨(Machine.always_append _ _ _ _).mpr ⟨halways, hnew⟩, hnext⟩

/-- A renewal that is acknowledged beyond the copy of a sleeping daemon is
lost when the clock comes between the two. -/
theorem renewal_lost {σ : Type} (host : Host σ) (init : System σ) (turns : List (Turn σ))
    {i : Nat} {expiresAt : ℚ}
    (hseen : (.call i, .renewed expiresAt) ∈ (systemMachine host init).trace turns)
    (hsleeping : ((systemMachine host init).run turns).daemon.phase = .sleeping)
    (harmed : ((systemMachine host init).run turns).daemon.state.armed = true)
    (hearlier : ((systemMachine host init).run turns).daemon.state.expiresAt < expiresAt) :
    ∃ now, ¬Machine.Always KeepsRenewals []
      ((systemMachine host init).trace (turns ++ [.clock now, .daemon])) := by
  obtain ⟨now, hafter, hbefore⟩ := exists_between hearlier
  refine ⟨now, fun halways => ?_⟩
  rw [Machine.trace_append, Machine.always_append] at halways
  have hexpired : (systemMachine host init).traceFrom ((systemMachine host init).run turns)
      [.clock now, .daemon] = [(.daemon, .expired now)] := by
    have hdue : ((systemMachine host init).run turns).daemon.state.armed = true ∧
        ((systemMachine host init).run turns).daemon.state.expiresAt < now := ⟨harmed, hafter⟩
    simp [Machine.traceFrom, systemMachine, Daemon.step] at hsleeping hdue ⊢
    simp [hsleeping, hdue]
  rw [hexpired] at halways
  exact absurd (halways.2.1 i expiresAt (by simpa using hseen)) (not_le.mpr hbefore)

/-! ## A renewal that is lost -/

/-- The session of a Mac at home, as the daemon has loaded it. -/
def homeState : ShieldState where
  armed := true
  sessionId := "5f0c1b2a"
  baseline := captureBaseline macHost homeMac
  pinnedRoutes := []
  quarantinedServices := []
  untrustedInterfaces := []
  pfWasEnabled := false
  armedAt := 0
  expiresAt := 600
  routePinGreen := false
  shieldLocation := ""
  originalLocation := "Automatic"
  locationMode := false
  sessionClosed := false
  fingerprint := captureFingerprint macHost homeMac

def homeWorld : World Mac where
  host := homeMac
  journal := []
  file := some homeState
  clock := 0
  stop := false

/-- A renewal, action by action. -/
def renewal : List (Turn Mac) := [.call 0, .call 0, .call 0, .call 0]

/-- `renewals_kept` for a renewal that ends the session earlier. -/
theorem renewals_kept_home :
    (systemMachine macHost (renewalSystem macHost homeWorld homeState fun _ => 60)).AllSteps
        Renewable (renewalSystem macHost homeWorld homeState fun _ => 60)
        (renewal ++ [.clock 601, .daemon]) ∧
      Machine.Always KeepsRenewals []
        ((systemMachine macHost (renewalSystem macHost homeWorld homeState fun _ => 60)).trace
          (renewal ++ [.clock 601, .daemon])) := by
  have hturns : (systemMachine macHost (renewalSystem macHost homeWorld homeState
      fun _ => 60)).AllSteps Renewable
        (renewalSystem macHost homeWorld homeState fun _ => 60)
        (renewal ++ [.clock 601, .daemon]) := by
    refine ⟨?_, ?_, ?_, ?_, trivial, trivial, trivial⟩
    · rintro expiresAt ⟨⟩
    · rintro expiresAt ⟨⟩
    · rintro expiresAt ⟨⟩
    · rintro expiresAt ⟨⟩ -
      decide +kernel
  exact ⟨hturns, renewals_kept macHost homeWorld homeState (fun _ => 60) _ hturns⟩

/-- A renewal for two hours is acknowledged, and the session expires at its
old time. -/
theorem home_renewal_lost :
    ¬∀ turns : List (Turn Mac), Machine.Always KeepsRenewals []
      ((systemMachine macHost (renewalSystem macHost homeWorld homeState fun _ => 7200)).trace
        turns) := by
  intro hkept
  have hseen : (.call 0, .renewed (0 + max minTtl (min 7200 maxTtl))) ∈
      (systemMachine macHost (renewalSystem macHost homeWorld homeState fun _ => 7200)).trace
        renewal :=
    .tail _ (.tail _ (.tail _ (.head _)))
  obtain ⟨now, hlost⟩ := renewal_lost macHost
    (renewalSystem macHost homeWorld homeState fun _ => 7200) renewal hseen rfl rfl
    (by decide +kernel)
  exact hlost (hkept _)

end Bootmux.AttachShield
