/-
Bootmux.Router.UsbRouter — the USB network interface of the router firmware
and its NAPT (`usb_router.c`, the experimental profile).

Four idempotent operations share two flags. What ESP-IDF answers is given
with each call, and the calls made to it are kept in order: `forwarding`
reads from them alone whether NAPT is on. The flag never lies
(`naptEnabled_forwarding`), but `stop` clears the other one also when NAPT
could not be disabled (`stop_leaves_napt`); `napt_contained_iff` says that
this is the only way.

`NaptContained` is about a whole run: NAPT is on only while the interface
is, nothing is forwarded after a `stop`, and after a new start an enabling
is passed on to ESP-IDF. The condition (`Withdraws`) looks at what ESP-IDF
answers to the disabling that `stop` asks for, in a state in which both
flags are set.
-/
import Bootmux.Lib.Machine

namespace Bootmux.Router

open Bootmux.Lib

/-! ## The operations -/

/-- `esp_err_t`. -/
abbrev EspErr := Int

def espOk : EspErr := 0
def espFail : EspErr := -1
def espErrNoMem : EspErr := 0x101
def espErrInvalidState : EspErr := 0x103

/-- What the ESP-IDF functions answer to one call. -/
structure Platform where
  /-- `esp_netif_is_netif_up`, after `esp_netif_action_start`. -/
  netifUp : Bool
  naptEnable : EspErr
  naptDisable : EspErr
  deriving DecidableEq, Repr

inductive UsbEffect where
  | actionStart
  | actionStop
  | naptEnable (error : EspErr)
  | naptDisable (error : EspErr)
  | puts (line : String)
  deriving DecidableEq, Repr

/-- `s_usb_netif` (whether it is set), `s_netif_started`, `s_napt_enabled`. -/
structure UsbRouter where
  usbNetif : Bool
  netifStarted : Bool
  naptEnabled : Bool
  deriving DecidableEq, Repr

/-- A C function: its result, the flags it leaves and the calls it made. -/
structure UsbResult where
  error : EspErr
  state : UsbRouter
  effects : List UsbEffect
  deriving DecidableEq, Repr

/-- `bootmux_usb_router_init`, from the static zeros of a boot. -/
def bootmuxUsbRouterInit (netInit : EspErr) (netifNew : Bool) (setMac : EspErr) : UsbResult :=
  if netInit ≠ espOk then ⟨netInit, ⟨false, false, false⟩, []⟩
  else if !netifNew then ⟨espErrNoMem, ⟨false, false, false⟩, []⟩
  else if setMac ≠ espOk then ⟨setMac, ⟨true, false, false⟩, []⟩
  else ⟨espOk, ⟨true, false, false⟩,
    [.puts "BOOTMUX_USB_NETIF_READY_EXPERIMENTAL",
      .puts "BOOTMUX_USB_NETIF_DOWN_AT_BOOT_EXPERIMENTAL",
      .puts "BOOTMUX_USB_NETWORK_NO_DHCP_NO_DEFAULT_ROUTE"]⟩

def bootmuxUsbRouterStart (s : UsbRouter) (env : Platform) : UsbResult :=
  if s.netifStarted then ⟨espOk, s, []⟩
  else if !s.usbNetif then ⟨espErrInvalidState, s, []⟩
  -- `esp_netif_action_start` returns nothing, the interface is asked
  else if !env.netifUp then ⟨espFail, s, [.actionStart]⟩
  else ⟨espOk, { s with netifStarted := true },
    [.actionStart, .puts "BOOTMUX_USB_NETIF_STARTED_EXPERIMENTAL"]⟩

def bootmuxUsbRouterDisableNapt (s : UsbRouter) (env : Platform) : UsbResult :=
  if !s.naptEnabled then ⟨espOk, s, []⟩
  else if s.usbNetif && env.naptDisable != espOk then
    ⟨env.naptDisable, s, [.naptDisable env.naptDisable]⟩
  else ⟨espOk, { s with naptEnabled := false },
    (if s.usbNetif then [.naptDisable env.naptDisable] else []) ++
      [.puts "BOOTMUX_NAPT_DISABLED_EXPERIMENTAL"]⟩

def bootmuxUsbRouterStop (s : UsbRouter) (env : Platform) : UsbResult :=
  if !s.netifStarted then ⟨espOk, s, []⟩
  else
    -- the result of the nested call is cast to void
    let nested :=
      if s.naptEnabled then bootmuxUsbRouterDisableNapt s env else ⟨espOk, s, []⟩
    ⟨espOk, { nested.state with netifStarted := false },
      nested.effects ++ (if s.usbNetif then [.actionStop] else []) ++
        [.puts "BOOTMUX_USB_NETIF_STOPPED_EXPERIMENTAL"]⟩

def bootmuxUsbRouterEnableNapt (s : UsbRouter) (env : Platform) : UsbResult :=
  if s.naptEnabled then ⟨espOk, s, []⟩
  else if !s.usbNetif || !s.netifStarted then ⟨espErrInvalidState, s, []⟩
  else if env.naptEnable ≠ espOk then ⟨env.naptEnable, s, [.naptEnable env.naptEnable]⟩
  else ⟨espOk, { s with naptEnabled := true },
    [.naptEnable env.naptEnable, .puts "BOOTMUX_NAPT_ENABLED_EXPERIMENTAL"]⟩

inductive UsbCall where
  | start
  | stop
  | enableNapt
  | disableNapt
  deriving DecidableEq, Repr

def usbCall (s : UsbRouter) : UsbCall → Platform → UsbResult
  | .start => bootmuxUsbRouterStart s
  | .stop => bootmuxUsbRouterStop s
  | .enableNapt => bootmuxUsbRouterEnableNapt s
  | .disableNapt => bootmuxUsbRouterDisableNapt s

/-- The calls after a boot that has, or has not, made the interface. -/
def usbRouter (usbNetif : Bool) : Machine UsbRouter (UsbCall × Platform) UsbEffect where
  init := ⟨usbNetif, false, false⟩
  step s call := ((usbCall s call.1 call.2).state, (usbCall s call.1 call.2).effects)

/-- Every boot leaves one of the two initial states. -/
theorem init_state (netInit : EspErr) (netifNew : Bool) (setMac : EspErr) :
    ∃ usbNetif, (bootmuxUsbRouterInit netInit netifNew setMac).state =
      (usbRouter usbNetif).init := by
  unfold bootmuxUsbRouterInit
  split
  · exact ⟨false, rfl⟩
  · split
    · exact ⟨false, rfl⟩
    · split
      · exact ⟨true, rfl⟩
      · exact ⟨true, rfl⟩

/-! ## What ESP-IDF was told -/

/-- One call's part in whether packets are forwarded. -/
def forwards (on : Bool) : UsbEffect → Bool
  | .naptEnable error => on || error == espOk
  | .naptDisable error => on && error != espOk
  | _ => on

/-- Whether NAPT is on, by the answers ESP-IDF has given. -/
def forwarding (effects : List UsbEffect) : Bool := effects.foldl forwards false

/-! ## What one operation does -/

/-- The flags of a state that boot and the operations can leave. -/
structure UsbInv (s : UsbRouter) : Prop where
  started : s.netifStarted = true → s.usbNetif = true
  enabled : s.naptEnabled = true → s.usbNetif = true

/-- NAPT is on within the interface only. -/
def NaptWithin (s : UsbRouter) : Prop := s.naptEnabled = true → s.netifStarted = true

instance (s : UsbRouter) : Decidable (NaptWithin s) := by
  unfold NaptWithin
  infer_instance

/-- A stop that finds NAPT enabled can disable it. -/
def Withdraws (s : UsbRouter) (call : UsbCall × Platform) : Prop :=
  call.1 = .stop → s.netifStarted = true → s.naptEnabled = true →
    call.2.naptDisable = espOk

instance (s : UsbRouter) (call : UsbCall × Platform) : Decidable (Withdraws s call) := by
  unfold Withdraws
  infer_instance

/-- One call keeps the state within the interface that the board has. -/
theorem usbCall_inv {s : UsbRouter} (h : UsbInv s) (call : UsbCall) (env : Platform) :
    UsbInv (usbCall s call env).state := by
  cases call with
  | start =>
      simp only [usbCall, bootmuxUsbRouterStart]
      split
      · exact h
      · split
        · exact h
        · next hnetif =>
            split
            · exact h
            · exact ⟨fun _ => by simpa using hnetif, h.enabled⟩
  | stop =>
      simp only [usbCall, bootmuxUsbRouterStop, bootmuxUsbRouterDisableNapt]
      split
      · exact h
      · refine ⟨fun hstarted => (nomatch hstarted), ?_⟩
        split
        · split
          · exact h.enabled
          · split
            · exact h.enabled
            · exact fun henabled => (nomatch henabled)
        · exact h.enabled
  | enableNapt =>
      simp only [usbCall, bootmuxUsbRouterEnableNapt]
      split
      · exact h
      · split
        · exact h
        · next hready =>
            split
            · exact h
            · refine ⟨h.started, fun _ => ?_⟩
              simp only [Bool.or_eq_true, not_or, Bool.not_eq_true'] at hready
              simpa using hready.1
  | disableNapt =>
      simp only [usbCall, bootmuxUsbRouterDisableNapt]
      split
      · exact h
      · split
        · exact h
        · exact ⟨h.started, fun henabled => (nomatch henabled)⟩

/-- The flag follows the answers. -/
theorem disableNapt_forwarding {s : UsbRouter} (h : UsbInv s) (env : Platform) :
    (bootmuxUsbRouterDisableNapt s env).state.naptEnabled =
      (bootmuxUsbRouterDisableNapt s env).effects.foldl forwards s.naptEnabled := by
  unfold bootmuxUsbRouterDisableNapt
  split
  · rfl
  · next henabled =>
      have henabled : s.naptEnabled = true := by simpa using henabled
      have hnetif := h.enabled henabled
      split
      · next herror =>
          have herror : env.naptDisable ≠ espOk := by simpa [hnetif] using herror
          simp [forwards, henabled, herror]
      · next hok =>
          have hok : env.naptDisable = espOk := by simpa [hnetif] using hok
          simp [forwards, hok]

/-- After a stop the flag is what the effects have made of it. -/
theorem stop_forwarding {s : UsbRouter} (h : UsbInv s) (env : Platform) :
    (bootmuxUsbRouterStop s env).state.naptEnabled =
      (bootmuxUsbRouterStop s env).effects.foldl forwards s.naptEnabled := by
  unfold bootmuxUsbRouterStop
  split
  · rfl
  · rw [List.foldl_append, List.foldl_append]
    have hstop (on : Bool) : (if s.usbNetif then [UsbEffect.actionStop] else []).foldl forwards on =
        on := by
      split <;> rfl
    show _ = List.foldl forwards _ _
    rw [hstop]
    split
    · exact disableNapt_forwarding h env
    · rfl

/-- The flag is what the effects of a call make of it. -/
theorem usbCall_forwarding {s : UsbRouter} (h : UsbInv s) (call : UsbCall) (env : Platform) :
    (usbCall s call env).state.naptEnabled =
      (usbCall s call env).effects.foldl forwards s.naptEnabled := by
  cases call with
  | start =>
      simp only [usbCall, bootmuxUsbRouterStart]
      split
      · rfl
      · split
        · rfl
        · split <;> rfl
  | stop => exact stop_forwarding h env
  | enableNapt =>
      simp only [usbCall, bootmuxUsbRouterEnableNapt]
      split
      · rfl
      · split
        · rfl
        · split
          · next herror => simp [forwards, herror]
          · next hok => simp [forwards, not_not.mp hok]
  | disableNapt => exact disableNapt_forwarding h env

/-! ## Over a run -/

/-- The induction over the calls. -/
theorem run_inv (usbNetif : Bool) (calls : List (UsbCall × Platform)) :
    UsbInv ((usbRouter usbNetif).run calls) :=
  (usbRouter usbNetif).run_invariant (I := UsbInv) (by constructor <;> intro h <;> cases h)
    (fun _ call h => usbCall_inv h call.1 call.2) calls

/-- `s_napt_enabled` says what the answers of ESP-IDF say. -/
theorem naptEnabled_forwarding (usbNetif : Bool) (calls : List (UsbCall × Platform)) :
    ((usbRouter usbNetif).run calls).naptEnabled =
      forwarding ((usbRouter usbNetif).trace calls) := by
  induction calls using List.reverseRecOn with
  | nil => rfl
  | append_singleton calls call ih =>
      rw [forwarding, Machine.trace_concat, List.foldl_append, Machine.run_concat]
      rw [forwarding] at ih
      rw [← ih]
      exact usbCall_forwarding (run_inv usbNetif calls) call.1 call.2

/-- A stop that cannot disable NAPT leaves it enabled, the interface down. -/
theorem stop_leaves_napt {s : UsbRouter} {env : Platform} (hnetif : s.usbNetif = true)
    (hstarted : s.netifStarted = true) (henabled : s.naptEnabled = true)
    (herror : env.naptDisable ≠ espOk) :
    (bootmuxUsbRouterStop s env).state = { s with netifStarted := false } := by
  simp [bootmuxUsbRouterStop, bootmuxUsbRouterDisableNapt, hnetif, hstarted, henabled, herror]

/-- A stop that can withdraw withdraws. -/
theorem stop_withdraws {s : UsbRouter} {env : Platform} (hwithdraws : Withdraws s (.stop, env))
    (hwithin : NaptWithin s) : (bootmuxUsbRouterStop s env).state.naptEnabled = false := by
  unfold bootmuxUsbRouterStop
  split
  · next hstopped =>
      cases henabled : s.naptEnabled with
      | false => rfl
      | true => exact absurd (hwithin henabled) (by simpa using hstopped)
  · next hstarted =>
      show (if _ then _ else _ : UsbResult).state.naptEnabled = false
      split
      · next henabled =>
          have hok := hwithdraws rfl (by simpa using hstarted) henabled
          simp only [] at hok
          simp [bootmuxUsbRouterDisableNapt, henabled, hok]
      · next hdisabled => simpa using hdisabled

theorem usbCall_within {s : UsbRouter} {call : UsbCall × Platform} (hwithin : NaptWithin s)
    (hwithdraws : Withdraws s call) : NaptWithin (usbCall s call.1 call.2).state := by
  obtain ⟨call, env⟩ := call
  cases call with
  | start =>
      simp only [usbCall, bootmuxUsbRouterStart]
      split
      · exact hwithin
      · split
        · exact hwithin
        · split
          · exact hwithin
          · exact fun _ => rfl
  | stop =>
      intro henabled
      exact absurd ((stop_withdraws hwithdraws hwithin).symm.trans henabled) Bool.false_ne_true
  | enableNapt =>
      simp only [usbCall, bootmuxUsbRouterEnableNapt]
      split
      · exact hwithin
      · split
        · exact hwithin
        · next hready =>
            split
            · exact hwithin
            · intro _
              simp only [Bool.or_eq_true, not_or, Bool.not_eq_true'] at hready
              simpa using hready.2
  | disableNapt =>
      simp only [usbCall, bootmuxUsbRouterDisableNapt]
      split
      · exact hwithin
      · split
        · exact hwithin
        · exact fun henabled => (nomatch henabled)

/-- **No forwarding outlives the interface**: the flag, what ESP-IDF was told
by the end of a stop, and the first thing that an enable after a restart
does. -/
structure NaptContained (usbNetif : Bool) (calls : List (UsbCall × Platform)) : Prop where
  within : ∀ pre post, calls = pre ++ post → NaptWithin ((usbRouter usbNetif).run pre)
  stopped : ∀ pre env post, calls = pre ++ (.stop, env) :: post →
    forwarding ((usbRouter usbNetif).trace (pre ++ [(.stop, env)])) = false
  restarted : ∀ pre env post, calls = pre ++ (.start, env) :: post →
    ((usbRouter usbNetif).run pre).netifStarted = false →
    (bootmuxUsbRouterStart ((usbRouter usbNetif).run pre) env).error = espOk → ∀ env',
      .naptEnable env'.naptEnable ∈ (bootmuxUsbRouterEnableNapt
        ((usbRouter usbNetif).run (pre ++ [(.start, env)])) env').effects

/-- The induction over the calls that can withdraw. -/
theorem within_run {usbNetif : Bool} {calls : List (UsbCall × Platform)}
    (hwithdraws : (usbRouter usbNetif).AllSteps Withdraws (usbRouter usbNetif).init calls) :
    NaptWithin ((usbRouter usbNetif).run calls) :=
  (usbRouter usbNetif).runFrom_invariant (I := NaptWithin)
    (fun _ _ hwithin hstep => usbCall_within hwithin hstep) calls _
    (fun henabled => by cases henabled) hwithdraws

/-- A start that brings the interface up finds NAPT off, and leaves it so. -/
theorem start_then_enable {s : UsbRouter} {env : Platform} (hdown : s.netifStarted = false)
    (hwithin : NaptWithin s) (hok : (bootmuxUsbRouterStart s env).error = espOk)
    (env' : Platform) : .naptEnable env'.naptEnable ∈
      (bootmuxUsbRouterEnableNapt (bootmuxUsbRouterStart s env).state env').effects := by
  have hdisabled : s.naptEnabled = false := by
    cases henabled : s.naptEnabled with
    | false => rfl
    | true => exact absurd ((hwithin henabled).symm.trans hdown) (by decide)
  have hstart : (bootmuxUsbRouterStart s env).state = { s with netifStarted := true } ∧
      s.usbNetif = true := by
    unfold bootmuxUsbRouterStart at hok ⊢
    rw [if_neg (by simp [hdown])] at hok ⊢
    split at hok
    · exact absurd hok (by decide : espErrInvalidState ≠ espOk)
    · next hnetif =>
        rw [if_neg hnetif]
        split at hok
        · exact absurd hok (by decide : espFail ≠ espOk)
        · next hup =>
            rw [if_neg hup]
            exact ⟨rfl, by simpa using hnetif⟩
  rw [hstart.1, bootmuxUsbRouterEnableNapt, if_neg (by simp [hdisabled]),
    if_neg (by simp [hstart.2])]
  split <;> simp

/-- A stop that fails to disable NAPT is the only way out. -/
theorem napt_contained_iff (usbNetif : Bool) (calls : List (UsbCall × Platform)) :
    NaptContained usbNetif calls ↔
      (usbRouter usbNetif).AllSteps Withdraws (usbRouter usbNetif).init calls := by
  constructor
  · intro h
    rw [Machine.allSteps_iff_split]
    rintro pre ⟨call, env⟩ post hsplit hstop hstarted henabled
    obtain rfl : call = .stop := hstop
    by_contra herror
    have hnetif := (run_inv usbNetif pre).started hstarted
    have hwithin := h.within (pre ++ [(.stop, env)]) post (by simp [hsplit])
    have hstopped := stop_leaves_napt hnetif hstarted henabled herror
    rw [Machine.run_concat] at hwithin
    have hleft : NaptWithin { (usbRouter usbNetif).run pre with netifStarted := false } :=
      hstopped ▸ hwithin
    exact absurd (hleft henabled) Bool.false_ne_true
  · intro h
    refine ⟨?_, ?_, ?_⟩
    · rintro pre post rfl
      exact within_run ((usbRouter usbNetif).allSteps_left h)
    · rintro pre env post rfl
      obtain ⟨hpre, hstep, -⟩ := ((usbRouter usbNetif).allSteps_append _ _ _ _).mp h
      rw [← naptEnabled_forwarding, Machine.run_concat]
      exact stop_withdraws hstep (within_run hpre)
    · rintro pre env post rfl hdown hok env'
      rw [Machine.run_concat]
      exact start_then_enable hdown (within_run ((usbRouter usbNetif).allSteps_left h)) hok env'

def upPlatform (naptDisable : EspErr) : Platform := ⟨true, espOk, naptDisable⟩

/-- `napt_disable` fails in a stop: NAPT stays on, and the enable after the
restart returns `ESP_OK` without a call. -/
theorem napt_outlives_netif :
    ¬NaptWithin ((usbRouter true).run [(.start, upPlatform espOk), (.enableNapt, upPlatform espOk),
      (.stop, upPlatform espFail)]) ∧
    bootmuxUsbRouterEnableNapt ((usbRouter true).run [(.start, upPlatform espOk),
      (.enableNapt, upPlatform espOk), (.stop, upPlatform espFail), (.start, upPlatform espOk)])
      (upPlatform espOk) = ⟨espOk, ⟨true, true, true⟩, []⟩ := by decide

end Bootmux.Router
