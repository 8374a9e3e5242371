/-
Bootmux.SafeFlash.Runner — the runner that flashes the safe firmware under
the shield (`bootmux-safe-flash-runner.py`).

`Bench` is what the runner runs on: the other programs, the serial ports and
the journal, each over a state `σ` that they share, and the files, which stay
as they are. What raises ends the run (`Attempt`), as a signal does, whose
handler exits. A JSON text is given as the value that `json.loads` makes of
it.

Left out: the data of a journal entry and the directory it is in, the lists in
the texts of results, and what the runner prints besides them.

The steps are the fourteen of the source, in its order, and each ends with a
result. A run goes on while no result is red; when one is, the shield is
closed and purged if it says that it is armed. A resume does the same after
it has looked at the journal.
-/
import Bootmux.Lib.Process
import Bootmux.AttachShield.JournalFile

namespace Bootmux.SafeFlash

open Bootmux.Lib
open Bootmux.Lib.PyJson (truthy valueOf asDict asText elementsOf isText)
open Bootmux.NetworkGuardian (contains)

/-! ## Paths -/

/-- The parts of an absolute path. -/
abbrev Path := List String

def pathParts (text : String) : List String :=
  (text.splitOn "/").filter fun part => part ≠ "" ∧ part ≠ "."

/-- `base / text`. -/
def Path.join (base : Path) (text : String) : Path :=
  if "/".toList.isPrefixOf text.toList then pathParts text else base ++ pathParts text

/-- `path.parent`. -/
def Path.parent (path : Path) : Path := path.dropLast

/-! ## Values of a manifest -/

/-- The number that a value equals; a float without a value equals nothing. -/
def numberOf : PyJson → Option ℚ
  | .bool b => some (if b then 1 else 0)
  | .int n => some n
  | .float value => value
  | _ => none

mutual

/-- `a == b`. -/
def pyEqual : PyJson → PyJson → Bool
  | .null, .null => true
  | .str s, .str t => s == t
  | .list xs, .list ys => pyEqualList xs ys
  | .dict xs, .dict ys => xs.length == ys.length && pyEqualMembers xs ys
  | a, b => (numberOf a).isSome && numberOf a == numberOf b

def pyEqualList : List PyJson → List PyJson → Bool
  | [], [] => true
  | x :: xs, y :: ys => pyEqual x y && pyEqualList xs ys
  | _, _ => false

def pyEqualMembers : List (String × PyJson) → Members → Bool
  | [], _ => true
  | member :: rest, members => pyEqualMember member members && pyEqualMembers rest members

def pyEqualMember : String × PyJson → Members → Bool
  | (key, value), members =>
      match members.lookup key with
      | some other => pyEqual value other
      | none => false

end

/-- `manifest.get("artifacts", [])`, as a loop goes through it. -/
def artifactsOf (manifest : Members) : Option (List PyJson) :=
  elementsOf (valueOf manifest "artifacts" (.list []))

/-- `build_dir.parent / art["path"]`; `none` raises. -/
def artifactPath (buildDir : Path) (art : PyJson) : Option Path := do
  let path ← (← asDict art).lookup "path"
  some (buildDir.parent.join (← asText path))

/-- `art["sha256"]`. -/
def artifactSha (art : PyJson) : Option PyJson := do (← asDict art).lookup "sha256"

/-- `art["name"]` in a text. -/
def artifactName (art : PyJson) : Option String := do
  let name ← (← asDict art).lookup "name"
  some ((asText name).getD "")

/-! ## The bench -/

/-- What `find_esptool` returns: the command and its environment, if that is
not the runner's own. -/
structure Esptool where
  argv : List String
  env : Option (List (String × String))
  deriving DecidableEq, Repr

/-- An invocation of `esptool write_flash`, from `build_flash_command`: the
arguments that are not fixed, with the offset and the file of each image. -/
structure FlashCommand where
  esptool : Esptool
  port : String
  mode : PyJson
  freq : PyJson
  size : PyJson
  images : List (PyJson × Path)

/-- A process takes only texts as arguments. -/
def FlashCommand.startable (command : FlashCommand) : Bool :=
  ([command.mode, command.freq, command.size] ++ command.images.map Prod.fst).all
    fun argument => (asText argument).isSome

/-- What the runner runs on. An operation without an answer raises. -/
structure Bench (σ : Type) where
  /-- `json.loads`. -/
  loads : String → Option PyJson
  sha256 : List UInt8 → String
  /-- What `read_bytes` reads from a path that exists. -/
  files : Path → Option (List UInt8)
  /-- `MANIFEST_PATH`, its fallback in the bundle, and `FIRMWARE_DIR`. -/
  manifestPath : Path
  bundleManifest : Path
  firmwareDir : Path
  pathExists : Path → Bool
  /-- `json.loads(path.read_text())`. -/
  readJson : Path → Option PyJson
  /-- The shield script with these arguments and with or without `sudo`: the
  exit code and the output. -/
  shield : List String → Bool → σ → σ × Option (Int × String)
  /-- The shield's install script. -/
  install : σ → σ × Option Int
  /-- The inspector for a manifest: the exit code and what it prints. -/
  inspect : Path → σ → σ × Option (Int × String)
  serialPorts : σ → σ × Option (List String)
  /-- `check_rom_download_mode`, with its detail. -/
  romMode : String → σ → σ × Option (Bool × String)
  findEsptool : σ → σ × Option (Option Esptool)
  writeFlash : FlashCommand → σ → σ × Option Int
  /-- `esptool read_flash` from a port, offset and size: the exit code and the
  file that it has written. -/
  readFlash : String → PyJson → PyJson → σ → σ × Option (Int × Option (List UInt8))
  /-- An entry of the journal, with its event and status. -/
  journal : String → String → σ → σ × Option Unit
  /-- The events that `journal.load` returns. -/
  loadJournal : σ → σ × Option (List String)

/-- What an observer of a run sees. -/
inductive Label (σ : Type) where
  | journal (event status : String)
  /-- The world before the script runs and after it. -/
  | shield (args : List String) (asRoot : Bool) (before after : σ)
      (answer : Option (Int × String))
  | install
  | inspect (answer : Option (Int × String))
  /-- A file was read in order to hash it. -/
  | read (path : Path) (data : List UInt8)
  | serialPorts
  | romMode (port : String)
  | findEsptool (found : Option (Option Esptool))
  | writeFlash (command : FlashCommand)
  | readFlash (port : String) (offset size : PyJson)
      (answer : Option (Int × Option (List UInt8)))
  | loadJournal
  /-- A step of the run has ended. -/
  | result (name result : String)

/-- The object. -/
structure Runner where
  dryRun : Bool
  preflightOnly : Bool
  manifest : Option Members
  buildDir : Option Path
  serialPort : Option String
  serialBaseline : List String
  preFingerprint : Option PyJson
  postFingerprint : Option PyJson

/-- A new object. -/
def Runner.new (dryRun preflightOnly : Bool) : Runner where
  dryRun := dryRun
  preflightOnly := preflightOnly
  manifest := none
  buildDir := none
  serialPort := none
  serialBaseline := []
  preFingerprint := none
  postFingerprint := none

/-- `TTL_SECONDS`, as an argument. -/
def ttlSeconds : String := "1800"

/-- `result.startswith("RED")`. -/
def isRed (result : String) : Bool := "RED".toList.isPrefixOf result.toList

/-- The port, the manifest and the directory, if a step has all of them. -/
def Runner.ready (runner : Runner) : Option (String × Members × Path) := do
  let port ← runner.serialPort
  let manifest ← runner.manifest
  let buildDir ← runner.buildDir
  if port ≠ "" ∧ ¬manifest.isEmpty then some (port, manifest, buildDir) else none

/-! ## Serial ports -/

/-- A word with something after it on the same line. -/
def followedBy (word : String) (p : List Char → Bool) (text : List Char) : Bool :=
  text.tails.any fun rest => word.toList.isPrefixOf rest &&
    p ((rest.drop word.length).takeWhile (· ≠ '\n'))

/-- A character as a pattern with `re.IGNORECASE` takes it: beside the
capitals, four letters outside of ASCII match one of its letters. -/
def ignoreCase (c : Char) : Char :=
  if c = '\u0130' ∨ c = '\u0131' then 'i'
  else if c = '\u017f' then 's'
  else if c = '\u212a' then 'k'
  else c.toLower

/-- `is_rejected_device`. -/
def isRejectedDevice (port : String) : Bool :=
  let text := port.toList.map ignoreCase
  let number (rest : List Char) : Bool := rest.head?.any Char.isDigit
  ["bluetooth", "iphone", "ipad", "android", "samsung", "pixel", "xiaomi"].any
      (fun word => contains word.toList text) ||
    ["disk", "en", "bridge"].any (fun word => followedBy word number text) ||
    followedBy "bootmux" (fun rest => ["bridge", "ncm", "ecm"].any
      fun word => contains word.toList rest) text

/-- `detect_new_port`, with the start of its reason. -/
def detectNewPort (before after : List String) : Option String × String :=
  let newPorts := after.filter fun port => !before.contains port
  match newPorts.filter fun port => !isRejectedDevice port with
  | [] => (none, if newPorts = [] then "NO_NEW_PORT" else "REJECTED")
  | [port] => (some port, "SINGLE_CANDIDATE")
  | _ => (none, "AMBIGUOUS")

/-! ## Actions -/

section Steps

variable {σ : Type} (bench : Bench σ)

/-- An operation of the bench. -/
def perform {α : Type} (label : σ → σ × Option α → Label σ) (op : σ → σ × Option α) :
    Attempt σ (Label σ) α :=
  .action (fun s => label s (op s)) (fun s => (op s).1) (fun s => (op s).2)

/-- An action that changes nothing. -/
def announce (label : Label σ) : Attempt σ (Label σ) Unit :=
  .action (fun _ => label) id fun _ => some ()

def journal (event status : String) : Attempt σ (Label σ) Unit :=
  perform (fun _ _ => .journal event status) (bench.journal event status)

/-- `run_shield`. -/
def runShield (args : List String) (asRoot : Bool) : Attempt σ (Label σ) (Int × String) :=
  perform (fun s r => .shield args asRoot s r.1 r.2) (bench.shield args asRoot)

/-- `shield_is_armed`. -/
def shieldIsArmed : Attempt σ (Label σ) Bool := do
  let (_, out) ← runShield bench ["--status"] true
  pure (contains "STATUS=ARMED".toList out.toList)

def findEsptool : Attempt σ (Label σ) (Option Esptool) :=
  perform (fun _ r => .findEsptool r.2) bench.findEsptool

/-- The inspector, for `MANIFEST_PATH`. -/
def runInspector : Attempt σ (Label σ) (Int × String) :=
  perform (fun _ r => .inspect r.2) (bench.inspect bench.manifestPath)

/-- The journal's status and the result of a step. -/
def statusOf (ok : Bool) : String := if ok then "OK" else "RED"

def resultOf (ok : Bool) : String := if ok then "GREEN" else "RED"

/-! ## Steps -/

/-- A step that a dry run only writes down. -/
def unlessDry (runner : Runner) (event : String) (step : Attempt σ (Label σ) (Runner × String)) :
    Attempt σ (Label σ) (Runner × String) :=
  if runner.dryRun then do
    journal bench event "OK"
    pure (runner, "GREEN_DRY_RUN")
  else step

/-- `len(value) if value else 0`; `none` raises. -/
def length? (value : PyJson) : Option Nat :=
  if truthy value then
    match value with
    | .str s => some s.length
    | .list elements => some elements.length
    | .dict members => some members.length
    | _ => none
  else some 0

/-- A fingerprint is taken from what the shield prints. -/
def takeFingerprint (runner : Runner) (event out : String) (set : PyJson → Runner) :
    Attempt σ (Label σ) (Runner × String) :=
  match bench.loads out with
  | none => do
      journal bench event "RED"
      pure (runner, "RED")
  | some fingerprint => do
      let _ ← .ofOption (length? fingerprint)
      journal bench event "OK"
      pure (set fingerprint, "GREEN")

def stepPreFingerprint (runner : Runner) : Attempt σ (Label σ) (Runner × String) := do
  let first ← runShield bench ["--fingerprint"] false
  let second ← if first.1 ≠ 0 then runShield bench ["--fingerprint"] false else pure first
  takeFingerprint bench runner "PRE_FINGERPRINT" second.2 fun fingerprint =>
    { runner with preFingerprint := some fingerprint }

def stepShieldInstall (runner : Runner) : Attempt σ (Label σ) (Runner × String) :=
  unlessDry bench runner "SHIELD_INSTALL" do
    let exitCode ← perform (fun _ _ => .install) bench.install
    journal bench "SHIELD_INSTALL" (statusOf (exitCode = 0))
    pure (runner, resultOf (exitCode = 0))

def stepShieldArm (runner : Runner) : Attempt σ (Label σ) (Runner × String) :=
  unlessDry bench runner "SHIELD_ARM" do
    let (exitCode, out) ← runShield bench ["--arm", "--ttl", ttlSeconds] true
    let ok := exitCode = 0 && contains "CLASSIFICATION=GREEN".toList out.toList
    journal bench "SHIELD_ARM" (statusOf ok)
    pure (runner, resultOf ok)

def stepSerialBaseline (runner : Runner) : Attempt σ (Label σ) (Runner × String) := do
  let ports ← perform (fun _ _ => .serialPorts) bench.serialPorts
  journal bench "SERIAL_BASELINE" "OK"
  pure ({ runner with serialBaseline := ports }, "GREEN")

def stepSerialDetect (runner : Runner) : Attempt σ (Label σ) (Runner × String) := do
  let ports ← perform (fun _ _ => .serialPorts) bench.serialPorts
  match detectNewPort runner.serialBaseline ports with
  | (none, reason) => do
      journal bench "SERIAL_DETECT" "RED"
      pure (runner, "RED:" ++ reason)
  | (some port, _) => do
      journal bench "SERIAL_DETECT" "OK"
      pure ({ runner with serialPort := some port }, "GREEN")

def stepRomModeCheck (runner : Runner) : Attempt σ (Label σ) (Runner × String) :=
  match runner.serialPort.filter (· ≠ "") with
  | none => pure (runner, "RED:NO_PORT")
  | some port => unlessDry bench runner "ROM_MODE_CHECK" do
      let (isRom, detail) ← perform (fun _ _ => .romMode port) (bench.romMode port)
      journal bench "ROM_MODE_CHECK" (statusOf isRom)
      pure (runner, if isRom then "GREEN" else "RED:" ++ detail)

/-- The hashes are verified from disk, one artifact after another, up to the
first that is missing or does not match; `none` if there is none. `note` is
what is written down then. -/
def verifyHashes (buildDir : Path) (missing : String) (note : Attempt σ (Label σ) Unit) :
    List PyJson → Attempt σ (Label σ) (Option String)
  | [] => pure none
  | art :: rest => do
      let path ← .ofOption (artifactPath buildDir art)
      if bench.pathExists path then do
        let data ← .ofOption (bench.files path)
        announce (.read path data)
        let sha ← .ofOption (artifactSha art)
        if isText sha (bench.sha256 data) then verifyHashes buildDir missing note rest
        else do
          let name ← .ofOption (artifactName art)
          note
          pure (some ("RED:HASH_MISMATCH:" ++ name))
      else do
        note
        let name ← .ofOption (artifactName art)
        pure (some (missing ++ name))

def stepPreFlashGate (runner : Runner) : Attempt σ (Label σ) (Runner × String) :=
  match runner.manifest.filter (!·.isEmpty), runner.buildDir with
  | some manifest, some buildDir => do
      let (_, out) ← runInspector bench
      match bench.loads out with
      | none => do
          journal bench "PRE_FLASH_GATE" "RED"
          pure (runner, "RED:INSPECTOR_PARSE_FAILED")
      | some report => do
          let report ← .ofOption (asDict report)
          let overall := valueOf report "overall" (.str "RED")
          if isText overall "GREEN" then do
            let artifacts ← .ofOption (artifactsOf manifest)
            match ← verifyHashes bench buildDir "RED:ARTIFACT_MISSING:"
              (journal bench "PRE_FLASH_GATE" "RED") artifacts with
            | some result => pure (runner, result)
            | none => do
                let _ ← .ofOption (manifest.lookup "artifacts")
                journal bench "PRE_FLASH_GATE" "OK"
                pure (runner, "GREEN")
          else do
            -- The entry has the `match` of the USB identity, which is to be an object.
            let _ ← .ofOption (asDict (valueOf report "usb_identity" (.dict [])))
            journal bench "PRE_FLASH_GATE" "RED"
            pure (runner, "RED:INSPECTION_NOT_GREEN:" ++ (asText overall).getD "")
  | _, _ => pure (runner, "RED:PRECONDITIONS")

/-- An image of the command: `art["offset"]` and the file. -/
def flashImage (buildDir : Path) (art : PyJson) : Option (PyJson × Path) := do
  let offset ← (← asDict art).lookup "offset"
  some (offset, ← artifactPath buildDir art)

/-- `build_flash_command`; `none` raises. -/
def buildFlashCommand (esptool : Esptool) (port : String) (manifest : Members)
    (buildDir : Path) : Option FlashCommand := do
  let params ← asDict (valueOf manifest "flash_params" (.dict []))
  let images ← (← artifactsOf manifest).mapM (flashImage buildDir)
  some {
    esptool := esptool
    port := port
    mode := valueOf params "flash_mode" (.str "dio")
    freq := valueOf params "flash_freq" (.str "80m")
    size := valueOf params "flash_size" (.str "2MB")
    images := images }

def stepFlash (runner : Runner) : Attempt σ (Label σ) (Runner × String) :=
  match runner.ready with
  | none => pure (runner, "RED:PRECONDITIONS")
  | some (port, manifest, buildDir) => unlessDry bench runner "FLASH" do
      match ← findEsptool bench with
      | none => do
          journal bench "FLASH" "RED"
          pure (runner, "RED:ESPTOOL_MISSING")
      | some esptool => do
          let command ← .ofOption (buildFlashCommand esptool port manifest buildDir)
          journal bench "FLASH_START" "OK"
          let _ ← .ofOption (if command.startable then some () else none)
          let exitCode ← perform (fun _ _ => .writeFlash command) (bench.writeFlash command)
          journal bench "FLASH" (statusOf (exitCode = 0))
          pure (runner, if exitCode = 0 then "GREEN" else "RED:FLASH_FAILED")

/-- The loop of `verify_flash_sha`: whether each artifact that was read back
matches. -/
def readBack (port : String) (artifacts : List PyJson) : Attempt σ (Label σ) (List Bool) :=
  artifacts.mapM fun art => do
    let members ← .ofOption (asDict art)
    let offset ← .ofOption (members.lookup "offset")
    let size ← .ofOption (members.lookup "size")
    let (exitCode, data) ← perform
      (fun _ r => .readFlash port offset size r.2) (bench.readFlash port offset size)
    let _ ← .ofOption (artifactName art)
    match if exitCode = 0 then data else none with
    | none => pure false
    | some data => do
        let sha ← .ofOption (artifactSha art)
        pure (isText sha (bench.sha256 data))

def stepFlashVerify (runner : Runner) : Attempt σ (Label σ) (Runner × String) :=
  unlessDry bench runner "FLASH_VERIFY" do
    match runner.ready with
    | none => pure (runner, "RED:PRECONDITIONS")
    | some (port, manifest, _) => do
        match ← findEsptool bench with
        | none => do
            journal bench "FLASH_VERIFY" "RED"
            pure (runner, "YELLOW")
        | some _ => do
            let artifacts ← .ofOption (artifactsOf manifest)
            let same ← readBack bench port artifacts
            journal bench "FLASH_VERIFY" (statusOf (same.all id))
            pure (runner, resultOf (same.all id))

/-- A dry run does not spare this step. -/
def stepSafeIdentityVerify (runner : Runner) : Attempt σ (Label σ) (Runner × String) := do
  let (exitCode, out) ← runInspector bench
  match if exitCode = 0 then bench.loads out else none with
  | none => do
      journal bench "SAFE_IDENTITY_VERIFY" "RED"
      pure (runner, "RED")
  | some report => do
      let report ← .ofOption (asDict report)
      let overall := valueOf report "overall" (.str "RED")
      journal bench "SAFE_IDENTITY_VERIFY" (statusOf (isText overall "GREEN"))
      -- A result that is not a text has no `startswith`.
      let result ← .ofOption (asText overall)
      pure (runner, result)

def stepShieldClose (runner : Runner) : Attempt σ (Label σ) (Runner × String) :=
  unlessDry bench runner "SHIELD_CLOSE" do
    let (exitCode, _) ← runShield bench ["--close-session"] true
    journal bench "SHIELD_CLOSE" (if exitCode = 0 then "OK" else "WARN")
    pure (runner, if exitCode = 0 then "GREEN" else "YELLOW")

def stepShieldPurge (runner : Runner) : Attempt σ (Label σ) (Runner × String) :=
  unlessDry bench runner "SHIELD_PURGE" do
    let (exitCode, out) ← runShield bench ["--uninstall", "--purge"] true
    let ok := exitCode = 0 && contains "PURGE=OK".toList out.toList
    journal bench "SHIELD_PURGE" (statusOf ok)
    pure (runner, resultOf ok)

def stepPostFingerprint (runner : Runner) : Attempt σ (Label σ) (Runner × String) := do
  let (_, out) ← runShield bench ["--fingerprint"] false
  takeFingerprint bench runner "POST_FINGERPRINT" out fun fingerprint =>
    { runner with postFingerprint := some fingerprint }

/-- The keys whose values differ, those that may differ left out. -/
def unexpectedDiffs (before after : Members) : List String :=
  ((before ++ after).map Prod.fst).filter fun key =>
    !pyEqual (valueOf before key .null) (valueOf after key .null) &&
      !(["shield_files", "routes"].contains key)

def stepFingerprintCompare (runner : Runner) : Attempt σ (Label σ) (Runner × String) :=
  match runner.preFingerprint.filter truthy, runner.postFingerprint.filter truthy with
  | some before, some after => do
      let before ← .ofOption (asDict before)
      let after ← .ofOption (asDict after)
      let ok := (unexpectedDiffs before after).isEmpty
      journal bench "FINGERPRINT_COMPARE" (statusOf ok)
      pure (runner, if ok then "GREEN" else "RED:UNEXPECTED_DIFFS")
  | _, _ => pure (runner, "RED:MISSING_FINGERPRINTS")

end Steps

/-! ## Runs -/

/-- The steps of a run. -/
inductive Step where
  | preFingerprint
  | shieldInstall
  | shieldArm
  | serialBaseline
  | serialDetect
  | romModeCheck
  | preFlashGate
  | flash
  | flashVerify
  | safeIdentityVerify
  | shieldClose
  | shieldPurge
  | postFingerprint
  | fingerprintCompare
  deriving DecidableEq, Repr

namespace Step

def name : Step → String
  | preFingerprint => "PRE_FINGERPRINT"
  | shieldInstall => "SHIELD_INSTALL"
  | shieldArm => "SHIELD_ARM"
  | serialBaseline => "SERIAL_BASELINE"
  | serialDetect => "SERIAL_DETECT"
  | romModeCheck => "ROM_MODE_CHECK"
  | preFlashGate => "PRE_FLASH_GATE"
  | flash => "FLASH"
  | flashVerify => "FLASH_VERIFY"
  | safeIdentityVerify => "SAFE_IDENTITY_VERIFY"
  | shieldClose => "SHIELD_CLOSE"
  | shieldPurge => "SHIELD_PURGE"
  | postFingerprint => "POST_FINGERPRINT"
  | fingerprintCompare => "FINGERPRINT_COMPARE"

end Step

/-- `steps`, in their order. -/
def runnerSteps : List Step :=
  [.preFingerprint, .shieldInstall, .shieldArm, .serialBaseline, .serialDetect, .romModeCheck,
    .preFlashGate, .flash, .flashVerify, .safeIdentityVerify, .shieldClose, .shieldPurge,
    .postFingerprint, .fingerprintCompare]

/-- What `run` and `resume` return. -/
structure Outcome where
  status : String
  reason : Option String
  failedStep : Option String
  results : List (String × String)
  lastEvent : Option String
  deriving DecidableEq, Repr

/-- The dictionary with the status alone, and with a reason. -/
def Outcome.of (status : String) (results : List (String × String)) : Outcome :=
  ⟨status, none, none, results, none⟩

def Outcome.because (status reason : String) : Outcome := ⟨status, some reason, none, [], none⟩

/-- A run that a step has failed. -/
def Outcome.failed (step : String) (results : List (String × String)) : Outcome :=
  ⟨"RED", none, some step, results, none⟩

section Runs

variable {σ : Type} (bench : Bench σ)

def runStep (step : Step) (runner : Runner) : Attempt σ (Label σ) (Runner × String) :=
  match step with
  | .preFingerprint => stepPreFingerprint bench runner
  | .shieldInstall => stepShieldInstall bench runner
  | .shieldArm => stepShieldArm bench runner
  | .serialBaseline => stepSerialBaseline bench runner
  | .serialDetect => stepSerialDetect bench runner
  | .romModeCheck => stepRomModeCheck bench runner
  | .preFlashGate => stepPreFlashGate bench runner
  | .flash => stepFlash bench runner
  | .flashVerify => stepFlashVerify bench runner
  | .safeIdentityVerify => stepSafeIdentityVerify bench runner
  | .shieldClose => stepShieldClose bench runner
  | .shieldPurge => stepShieldPurge bench runner
  | .postFingerprint => stepPostFingerprint bench runner
  | .fingerprintCompare => stepFingerprintCompare bench runner

/-- A shield that is armed is closed and purged. -/
def closeIfArmed (runner : Runner) : Attempt σ (Label σ) Unit := do
  if ← shieldIsArmed bench then do
    let _ ← stepShieldClose bench runner
    let _ ← stepShieldPurge bench runner
    pure ()
  else pure ()

/-- The loop of `run`, with the results so far. -/
def runSteps : List Step → Runner → List (String × String) → Attempt σ (Label σ) Outcome
  | [], _, results => do
      journal bench "RUNNER_DONE" "OK"
      pure (.of "GREEN" results)
  | step :: rest, runner, results => do
      let (runner, result) ← runStep bench step runner
      announce (.result step.name result)
      let results := results ++ [(step.name, result)]
      if isRed result then do
        journal bench "RUNNER_ABORT" "RED"
        closeIfArmed bench runner
        pure (.failed step.name results)
      else runSteps rest runner results

/-- `load_manifest`: the manifest and its build directory, `some none` if there
is no manifest; `none` raises. -/
def loadManifest (runner : Runner) : Option (Option Runner) :=
  let path := if !bench.pathExists bench.manifestPath && bench.pathExists bench.bundleManifest
    then bench.bundleManifest else bench.manifestPath
  if !bench.pathExists path then some none
  else do
    let manifest ← asDict (← bench.readJson path)
    let name ← asText (valueOf manifest "build_dir" (.str "build-p4-safe"))
    let candidate := bench.firmwareDir.join name
    some (some { runner with
      manifest := some manifest
      buildDir := some (if bench.pathExists candidate then candidate else path.parent.join name) })

/-- `_run_preflight`. -/
def runPreflight (runner : Runner) : Attempt σ (Label σ) Outcome := do
  journal bench "PREFLIGHT_START" "OK"
  match ← .ofOption (loadManifest bench runner) with
  | none => pure (.because "RED" "MANIFEST_MISSING")
  | some runner => do
      match ← findEsptool bench with
      | none => pure (.failed "BUNDLE_ESPTOOL" [("BUNDLE_ESPTOOL", "RED")])
      | some _ =>
          match runner.manifest.filter (!·.isEmpty), runner.buildDir with
          | some manifest, some buildDir => do
              let artifacts ← .ofOption (artifactsOf manifest)
              let failed ← verifyHashes bench buildDir "RED:MISSING:" (pure ()) artifacts
              let (_, gate) ← stepPreFlashGate bench runner
              let ok := failed = none ∧ "GREEN".toList.isPrefixOf gate.toList
              pure (.of (if ok then "GREEN" else "RED")
                [("BUNDLE_ESPTOOL", "GREEN"), ("HASH_VERIFY", failed.getD "GREEN"),
                  ("PRE_FLASH_GATE", gate)])
          | _, _ => pure (.failed "HASH_VERIFY"
              [("BUNDLE_ESPTOOL", "GREEN"), ("HASH_VERIFY", "RED:PRECONDITIONS")])

/-- `run`. -/
def run (runner : Runner) : Attempt σ (Label σ) Outcome :=
  if runner.preflightOnly then runPreflight bench runner
  else do
    journal bench "RUNNER_START" "OK"
    match ← .ofOption (loadManifest bench runner) with
    | none => pure (.because "RED" "MANIFEST_MISSING")
    | some runner => runSteps bench runnerSteps runner []

/-- `resume`. -/
def resume (runner : Runner) : Attempt σ (Label σ) Outcome := do
  let events ← perform (fun _ _ => .loadJournal) bench.loadJournal
  match events.getLast? with
  | none => pure (.because "RED" "NO_JOURNAL")
  | some last =>
      if "RUNNER_DONE" ∈ events then pure (.because "GREEN" "ALREADY_DONE")
      else do
        closeIfArmed bench runner
        pure { Outcome.because "YELLOW" "RESUMED_AND_CLEANED" with lastEvent := some last }

end Runs

end Bootmux.SafeFlash
