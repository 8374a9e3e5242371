/-
Bootmux.SafeFlash.Joint — the runner with the shield behind it.

`shieldMain` is the command line of the shield, for the arguments that the
runner uses: what it does to the host, the journal and the state file, and
what it prints. In `Bench.withShield` the runner starts it; all that the other
programs and the other processes of the shield do to the world in the meantime
is in the operations of the bench.

Left out of what is printed: the lists in it.

A call of the shield that raises ends with an exit code, and so does one
whose parser of the arguments refuses them; what it printed before is kept.
-/
import Bootmux.AttachShield.Programs
import Bootmux.SafeFlash.Runner

namespace Bootmux.SafeFlash

open Bootmux.Lib
open Bootmux.NetworkGuardian (contains)
open Bootmux.AttachShield

/-- What the command line of the shield runs on. -/
structure Site (κ : Type) where
  host : Host κ
  /-- `sudo` or the interpreter ends before the script runs, or the script before
  it has changed anything, with this answer. -/
  denied : List String → Bool → World κ → Option (Int × String)
  /-- An exception ends the script in the middle of a command: the world that it
  leaves, and what has been printed. -/
  raises : List String → World κ → Option (World κ × String)
  /-- `str(uuid.uuid4())[:8]`. -/
  sessionId : World κ → String
  /-- What a fingerprint is printed as. -/
  printFingerprint : Fingerprint → String
  /-- The lines of `cmd_status` after the first. -/
  details : ShieldState → ℚ → String
  /-- `remove_file` and `remove_dir`, of all that an uninstallation removes. -/
  removeFiles : κ → κ

section Shield

variable {κ : Type} (site : Site κ)

/-- The first line of `cmd_status`. -/
def statusText (st : ShieldState) : String :=
  if st.sessionClosed then "STATUS=RESTORED"
  else if st.armed then "STATUS=ARMED_TEMPORARY"
  else "STATUS=INSTALLED_DISARMED"

/-- `cmd_status`. -/
def statusCall (w : World κ) : Int × String :=
  match w.file with
  | none => (0, "STATUS=NOT_INSTALLED\n")
  | some st => (0, statusText st ++ "\n" ++ site.details st w.clock)

/-- `cmd_arm`. -/
def armCall (ttl : ℚ) (w : World κ) : World κ × Int × String :=
  if w.file.any (·.armed) then (w, 0, "ALREADY_ARMED\n")
  else
    match cmdArm site.host (site.sessionId w) w.clock ttl w.host with
    | none => (w, 1, "CLASSIFICATION=RED_NO_WIFI_DEVICE\n")
    | some (shield, st) =>
        ({ w with host := shield.host, journal := shield.journal, file := some st }, 0,
          "CLASSIFICATION=" ++
            (if st.routePinGreen then "GREEN\n" else "YELLOW_ROUTE_PIN_UNAVAILABLE\n"))

/-- The classification of a close. -/
def closeText : CloseResult → String
  | .refusedDevicePresent => "REFUSED_DEVICE_PRESENT="
  | .greenCloseComplete => "GREEN_CLOSE_COMPLETE"
  | .yellowClosePartial => "YELLOW_CLOSE_PARTIAL"
  | .incompleteRollback => "INCOMPLETE_ROLLBACK:"

/-- `cmd_close_session`. -/
def closeSessionCall (w : World κ) : World κ × Int × String :=
  match w.file with
  | none => (w, 0, "NOT_INSTALLED\n")
  | some st =>
      if st.armed then
        let (w, result) := (closeProcess site.host false st).run w
        (w, if result = .greenCloseComplete then 0 else 1,
          "CLOSE_RESULT=" ++ closeText result ++ "\n")
      else (w, 0, if st.sessionClosed then "ALREADY_CLOSED\n" else "NOT_ARMED\n")

/-- The close of `cmd_uninstall`, and its line. -/
def closeBefore (w : World κ) : World κ × String :=
  match w.file.filter (·.armed) with
  | some st =>
      let (w, result) := (closeProcess site.host true st).run w
      (w, "PRE_CLOSE=" ++ closeText result ++ "\n")
  | none => (w, "")

/-- `cmd_uninstall`, with `--purge`. -/
def uninstallCall (w : World κ) : World κ × Int × String :=
  let (w, line) := closeBefore site w
  let w := ((commands site.host [.unloadDaemon, .pfFlushAnchor pfAnchor]).run w).1
  ({ w with host := site.removeFiles w.host, journal := [], file := none }, 0,
    line ++ "UNINSTALL=PURGE=OK\n")

/-- A command that nothing catches an exception of. -/
def unlessRaised (args : List String) (w : World κ) (call : World κ × Int × String) :
    World κ × Int × String :=
  match site.raises args w with
  | some (w, out) => (w, 1, out)
  | none => call

/-- The shield, as the runner calls it; it knows no other arguments here. -/
def shieldMain (args : List String) (w : World κ) : World κ × Int × String :=
  match args with
  | ["--status"] => (w, statusCall site w)
  | ["--fingerprint"] => (w, 0, site.printFingerprint (captureFingerprint site.host w.host))
  | ["--arm", "--ttl", "1800"] => unlessRaised site args w (armCall site 1800 w)
  | ["--close-session"] => unlessRaised site args w (closeSessionCall site w)
  | ["--uninstall", "--purge"] => unlessRaised site args w (uninstallCall site w)
  | _ => (w, 2, "")

/-- The command calls `close_session(force=True)`. -/
def closesByForce (args : List String) (w : World κ) : Bool :=
  args = ["--uninstall", "--purge"] && (w.file.filter (·.armed)).isSome

/-- A bench whose shield is this one. -/
def Bench.withShield (bench : Bench (World κ)) : Bench (World κ) :=
  { bench with
    shield := fun args asRoot w =>
      match site.denied args asRoot w with
      | some answer => (w, some answer)
      | none => ((shieldMain site args w).1, some (shieldMain site args w).2) }

end Shield

end Bootmux.SafeFlash
