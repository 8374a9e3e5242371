/-
Bootmux.AttachShield.Programs — the shield as processes that share a host,
a journal, a state file and a clock (`bootmux-attach-shield.py`).

A command, an observation, the reading or writing of a file is one action.
`record` reads the whole journal and writes it again with its entry. The
daemon keeps the state that it has loaded once; the calls of the command
line load the state file themselves. `launchctl unload` is a signal that the
daemon sees at the end of its iteration.

Left out: the log of a session and the route monitor, which the loop starts
and never reads. A fingerprint is captured in one action.

Everything of the source that one process can see of another between two of
its own actions is an action of its own here, so a run is any interleaving
of the daemon, the calls of the command line and the host. Within an action
nothing can come between. The programs are written with the notation of
`do`, in the order of the source, and `Bootmux.AttachShield.ProgramTheorems`
connects them with the functions of `Bootmux.AttachShield.Session`.
-/
import Bootmux.Lib.Machine
import Bootmux.Lib.Process
import Bootmux.AttachShield.Session

namespace Bootmux.AttachShield

open Bootmux.Lib

/-- What the processes share. -/
structure World (σ : Type) where
  host : σ
  journal : List Entry
  /-- The state file, `none` if there is none or it cannot be read. -/
  file : Option ShieldState
  clock : ℚ
  /-- The daemon has been told to stop. -/
  stop : Bool

def World.shield {σ : Type} (w : World σ) : Shield σ := ⟨w.host, w.journal⟩

inductive Label where
  | asked
  | ran (command : Command)
  | recorded (entry : Entry)
  /-- A rollback has read the journal. -/
  | replaying (entries : List Entry)
  | saved (st : ShieldState)
  /-- `RENEWED`, with the time that is printed. -/
  | renewed (expiresAt : ℚ)
  /-- The daemon begins the rollback of an expired session. -/
  | expired (now : ℚ)

abbrev Process (σ α : Type) := Prog (World σ) Label α

section Process

variable {σ : Type} (host : Host σ)

/-! ## Actions -/

def ask {α : Type} (answer : World σ → α) : Process σ α :=
  .action (fun _ => .asked) id answer

def command (c : Command) : Process σ Int :=
  .action (fun _ => .ran c)
    (fun w => { w with
      host := (host.run w.host c).1
      stop := w.stop || c = .unloadDaemon })
    (fun w => (host.run w.host c).2)

/-- `record`. -/
def record (entry : Entry) : Process σ Unit :=
  .act (fun _ => .asked) id fun w =>
    .action (fun _ => .recorded entry)
      (fun v => { v with journal := w.journal ++ [entry] }) (fun _ => ())

/-- `save_state`. -/
def saveState (st : ShieldState) : Process σ Unit :=
  .action (fun _ => .saved st)
    (fun w => { w with file := some st, host := host.saveState w.host }) (fun _ => ())

def commands (list : List Command) : Process σ Unit :=
  list.foldlM (fun _ c => do let _ ← command host c; pure ()) ()

/-- A command and its entry in the journal. -/
def mutateProcess (c : Command) (category : Category) (target : String) (pre : PreValue) :
    Process σ Int := do
  let exitCode ← command host c
  record ⟨category, target, some pre, exitCode⟩
  pure exitCode

/-! ## Recovery -/

def disableProcess (baseline : Baseline) (service : String) : Process σ Int :=
  mutateProcess host (.setServiceEnabled service false) .serviceDisable service
    { enabled := some ((baseline.serviceEnabled.lookup service).getD true) }

def pfInstallProcess (iface : String) (pfWasEnabled : Bool) : Process σ Bool := do
  let exitCode ← mutateProcess host (.pfLoadAnchor iface) .pfAnchorLoad pfAnchor
    { rules := some "" }
  if pfWasEnabled then pure (decide (exitCode = 0))
  else do
    let _ ← mutateProcess host .pfEnable .pfEnable "pf" { enabled := some false }
    pure (decide (exitCode = 0))

def blockProcess (baseline : Baseline) (untrusted : List String) (steps : Steps) :
    Process σ Steps :=
  untrusted.foldlM (fun steps iface => do
    let ok ← pfInstallProcess host iface baseline.pfEnabled
    pure (steps.set (.q1 iface) (okIf ok))) steps

def servicesProcess (baseline : Baseline) (untrusted : List String) (steps : Steps) :
    Process σ Steps := do
  let ports ← ask fun w => host.hardwarePorts w.host
  (untrusted.flatMap (resembling host ports baseline)).foldlM (fun steps service => do
    let exitCode ← disableProcess host baseline service
    pure (steps.set (.q2 service) (okIf (exitCode = 0)))) steps

def routesProcess (untrusted : List String) (steps : Steps) : Process σ Steps := do
  let lines ← ask fun w => host.netstat w.host
  (untrustedDefaults untrusted lines).foldlM (fun steps dest => do
    commands host [.routeDelete none dest none]
    pure (steps.set (.q3 dest) .ok)) steps

def baselineProcess (baseline : Baseline) (steps : Steps) : Process σ Steps := do
  let okOrSkip (present : Bool) : Outcome := if present then .ok else .skip
  commands host (ipv4Commands baseline ++ dnsCommands baseline ++ orderCommands baseline)
  pure (((steps.set .q4 (okOrSkip (baseline.wifiService ≠ ""))).set .q5
    (okOrSkip (baseline.wifiService ≠ ""))).set .q6 (okOrSkip (baseline.serviceOrder ≠ [])))

def wifiProcess (baseline : Baseline) (steps : Steps) : Process σ Steps := do
  let associated ← ask fun w => host.associated w.host baseline.wifiDevice
  if baseline.wifiDevice = "" ∨ associated then pure (steps.set .q7 .skip)
  else do
    commands host (powerCycle baseline.wifiDevice)
    pure (steps.set .q7 .ok)

def incompleteProcess (baseline : Baseline) (steps : Steps) : Process σ Steps :=
  if steps.any (·.2 = .incomplete) ∧ baseline.wifiDevice ≠ "" then do
    commands host (powerCycle baseline.wifiDevice)
    pure (steps.set .q8 .ok)
  else pure (steps.set .q8 .skip)

/-- `run_recovery`, action by action. -/
def recoveryProcess (baseline : Baseline) (untrusted : List String) : Process σ Steps := do
  let steps ← blockProcess host baseline untrusted []
  let steps ← servicesProcess host baseline untrusted steps
  let steps ← routesProcess host untrusted steps
  let steps ← baselineProcess host baseline steps
  let steps ← wifiProcess host baseline steps
  let steps ← incompleteProcess host baseline steps
  let route ← ask fun w => host.defaultRoute w.host
  pure (steps.set .q9 (okIf (route.2 = baseline.wifiDevice)))

/-! ## Close -/

def restoreProcess (original shieldLocation : String) : Process σ Unit := do
  let switched ← command host (.switchToLocation original)
  if switched ≠ 0 then pure ()
  else do
    record ⟨.locationSwitch, "network_location", some { location := some shieldLocation }, switched⟩
    commands host [.deleteLocation shieldLocation]

/-- The commands of a rollback. -/
def rollbackCommands (journal : List Entry) : List Command :=
  journal.reverse.flatMap fun entry =>
    if entry.exitCode ≠ 0 then []
    else
      match entry.pre with
      | none => []
      | some pre => rollbackOne entry.category entry.target pre

/-- C9. -/
def leaveProcess (st : ShieldState) : Process σ Unit :=
  if st.locationMode ∧ st.originalLocation ≠ "" ∧ st.shieldLocation ≠ "" then
    restoreProcess host st.originalLocation st.shieldLocation
  else pure ()

/-- C11, C12 and the result, for the journal that was rolled back. -/
def verdictProcess (st : ShieldState) (journal : List Entry) : Process σ CloseResult := do
  let fingerprint ← ask fun w => captureFingerprint host w.host
  saveState host { st with
    armed := false
    sessionClosed := true
    pinnedRoutes := []
    quarantinedServices := [] }
  pure (if rollbackIssues journal ≠ [] then .incompleteRollback
    else if st.fingerprint = fingerprint then .greenCloseComplete
    else .yellowClosePartial)

/-- `close_session`, action by action. -/
def closeProcess (force : Bool) (st : ShieldState) : Process σ CloseResult := do
  let present ← ask fun w => stillPresent host w.host st
  if !force ∧ present ≠ [] then pure .refusedDevicePresent
  else do
    commands host ([.unloadDaemon, .pfFlushAnchor pfAnchor] ++
      (if st.pfWasEnabled then [] else [.pfDisable]) ++ st.pinnedRoutes.filterMap deleteEntry)
    let journal ← .action (fun w => .replaying w.journal) id (·.journal)
    commands host (rollbackCommands journal)
    leaveProcess host st
    verdictProcess host st journal

/-! ## Calls -/

/-- `cmd_renew`. -/
def renewProcess (sessionId : String) (ttl : ℚ) : Process σ Unit := do
  let file ← ask (·.file)
  match file with
  | none => pure ()
  | some st =>
      if !st.armed ∨ st.sessionId ≠ sessionId then pure ()
      else do
        let now ← ask (·.clock)
        let expiresAt := now + max minTtl (min ttl maxTtl)
        saveState host { st with expiresAt := expiresAt }
        .action (fun _ => .renewed expiresAt) id (fun _ => ())

/-- `cmd_close_session`. -/
def closeCall (force : Bool) : Process σ Unit := do
  let file ← ask (·.file)
  match file with
  | none => pure ()
  | some st =>
      if !st.armed then pure ()
      else do
        let _ ← closeProcess host force st
        pure ()

end Process

/-! ## The daemon -/

/-- Where the loop of the daemon is. -/
inductive Phase (σ : Type) where
  /-- It wakes up and looks at the time. -/
  | sleeping
  /-- It looks for new devices. -/
  | detecting
  /-- It looks at the default route. -/
  | drifting
  /-- It is in the middle of something, after which it goes on or ends. -/
  | working (rest : Process σ Unit) (again : Bool)
  | stopped

structure Daemon (σ : Type) where
  /-- The state it has loaded and changed since. -/
  state : ShieldState
  phase : Phase σ

namespace Daemon

variable {σ : Type} (host : Host σ)

/-- The end of an iteration. -/
def loop (daemon : Daemon σ) (stop : Bool) : Daemon σ :=
  { daemon with phase := if stop then .stopped else .sleeping }

/-- One action of `daemon_loop`. -/
def step (w : World σ) (daemon : Daemon σ) : World σ × Daemon σ × List Label :=
  let st := daemon.state
  match daemon.phase with
  | .sleeping =>
      if st.armed ∧ st.expiresAt < w.clock then
        (w, { daemon with phase := .working (do let _ ← closeProcess host true st) false },
          [.expired w.clock])
      else (w, { daemon with phase := .detecting }, [.asked])
  | .detecting =>
      let found := detectNewExternalEthernet host w.host st.baseline
      if found ≠ [] then
        let st := { st with untrustedInterfaces := st.untrustedInterfaces ∪ found }
        (w, ⟨st, .working (do
          saveState host st
          let _ ← recoveryProcess host st.baseline found) true⟩, [.asked])
      else (w, { daemon with phase := .drifting }, [.asked])
  | .drifting =>
      if (host.defaultRoute w.host).2 ≠ st.baseline.wifiDevice then
        (w, { daemon with phase := .working (do
          let _ ← recoveryProcess host st.baseline st.untrustedInterfaces) true }, [.asked])
      else (w, daemon.loop w.stop, [.asked])
  | .working rest again =>
      match rest.step w with
      | some (label, w, rest) => (w, { daemon with phase := .working rest again }, [label])
      | none => (w, if again then daemon.loop w.stop else { daemon with phase := .stopped }, [])
  | .stopped => (w, daemon, [])

end Daemon

/-! ## All together -/

inductive Party where
  | daemon
  | call (i : Nat)
  deriving DecidableEq, Repr

/-- The daemon and calls of the command line. -/
structure System (σ : Type) where
  world : World σ
  daemon : Daemon σ
  calls : Nat → Process σ Unit

/-- Whose action is next. The clock and the host also change by themselves. -/
inductive Turn (σ : Type) where
  | daemon
  | call (i : Nat)
  | clock (now : ℚ)
  | host (s : σ)

def systemMachine {σ : Type} (host : Host σ) (init : System σ) :
    Machine (System σ) (Turn σ) (Party × Label) where
  init := init
  step sys turn :=
    match turn with
    | .daemon =>
        let (w, daemon, labels) := sys.daemon.step host sys.world
        ({ sys with world := w, daemon := daemon }, labels.map (.daemon, ·))
    | .call i =>
        match (sys.calls i).step sys.world with
        | some (label, w, rest) =>
            ({ sys with world := w, calls := Function.update sys.calls i rest },
              [(.call i, label)])
        | none => (sys, [])
    | .clock now => ({ sys with world := { sys.world with clock := now } }, [])
    | .host s => ({ sys with world := { sys.world with host := s } }, [])

end Bootmux.AttachShield
