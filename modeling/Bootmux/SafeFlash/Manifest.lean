/-
Bootmux.SafeFlash.Manifest — the manifest of a build directory
(`generate-safe-manifest.py`) and the inspection of a build against it
(`bootmux-safe-flash-inspect.py`).

Both programs read one tree, which stays as it is, under a build directory
without symbolic links. A path of the manifest is its parts, and a digest is
what `sha256` makes of the bytes. What raises or exits gives `none`.

Left out: what is printed, the fields of the manifest and of the report that
no verdict depends on, and writing the manifest to its file.

The addresses of the flash files are read as `int(text, 16)` does. The
marker is the line of the configuration that turns the USB network off, and
is looked for in the configuration first and in its defaults after that.
-/
import Bootmux.Lib.PyText
import Bootmux.SafeFlash.Runner

namespace Bootmux.SafeFlash

open Bootmux.Lib
open Bootmux.Lib.PyText (splitlines strip decimalZeros)
open Bootmux.Lib.PyJson (valueOf asDict asText elementsOf isText)
open Bootmux.NetworkGuardian (contains)

/-! ## The tree -/

/-- What both programs read. -/
structure BuildTree where
  buildDir : Path
  pathExists : Path → Bool
  /-- What is read from a path that exists; a directory raises. -/
  readBytes : Path → Option (List UInt8)
  /-- `read_text(errors="replace")`. -/
  readText : Path → Option (List Char)
  /-- `json.load`. -/
  readJson : Path → Option PyJson

namespace BuildTree

variable (tree : BuildTree)

def root : Path := tree.buildDir.parent

def sdkconfig : Path := tree.root ++ ["sdkconfig"]

def sdkconfigDefaults : Path := tree.root ++ ["sdkconfig.defaults"]

def flasherArgs : Path := tree.buildDir ++ ["flasher_args.json"]

end BuildTree

/-! ## Numbers and names -/

/-- A digit of any script as the one of ASCII. -/
def asciiDigit (c : Char) : Char :=
  match decimalZeros.find? fun z => z ≤ c.toNat && c.toNat < z + 10 with
  | some start => Char.ofNat (0x30 + (c.toNat - start))
  | none => c

def hexDigitValue (c : Char) : Option Nat :=
  if '0' ≤ c ∧ c ≤ '9' then some (c.toNat - 0x30)
  else if 'a' ≤ c ∧ c ≤ 'f' then some (c.toNat - 0x57)
  else if 'A' ≤ c ∧ c ≤ 'F' then some (c.toNat - 0x37)
  else none

/-- Digits after an optional `0x`, with single underscores between them. -/
def hexNumber (text : List Char) : Option Nat := do
  let body := match text with
    | '0' :: x :: rest =>
        if x = 'x' ∨ x = 'X' then
          match rest with
          | '_' :: rest => rest
          | _ => rest
        else text
    | _ => text
  let groups := body.splitOn '_'
  if groups.all (· ≠ []) then
    let digits ← groups.flatten.mapM hexDigitValue
    some (digits.foldl (fun n d => 16 * n + d) 0)
  else none

/-- `int(text, 16)`. -/
def intBase16 (text : String) : Option Int :=
  match (strip text.toList).map asciiDigit with
  | '-' :: rest => (hexNumber rest).map fun n => -n
  | '+' :: rest => (hexNumber rest).map fun n => n
  | body => (hexNumber body).map fun n => n

/-- `os.path.splitext(os.path.basename(path))[0]`. -/
def stem (path : String) : String :=
  let base := ((path.splitOn "/").getLast?).getD ""
  let before := (base.splitOn ".").dropLast
  if before.any (· ≠ "") then ".".intercalate before else base

/-! ## Generating -/

structure Artifact where
  name : String
  path : Path
  offset : String
  size : Nat
  sha256 : String
  deriving DecidableEq, Repr

structure Manifest where
  sdkconfigMarker : List Char
  product : String
  serial : String
  artifacts : List Artifact

/-- `f"# {key} is not set"`. -/
def notSet (key : String) : List Char := ("# " ++ key ++ " is not set").toList

/-- `detect_marker`. -/
def detectMarker (lines : List Char) (key : String) : List Char :=
  (((splitlines lines).map strip).find? fun stripped => (notSet key).isPrefixOf stripped).getD []

def markerKey : String := "CONFIG_BOOTMUX_USB_NETWORK_EXPERIMENTAL"

/-- The marker of a file, which may be missing. -/
def markerOf (tree : BuildTree) (path : Path) : Option (List Char) :=
  if tree.pathExists path then (tree.readText path).map fun text => detectMarker text markerKey
  else some []

/-- `extract_sdkconfig_marker`, with the fallback. -/
def sdkconfigMarker (tree : BuildTree) : Option (List Char) := do
  let marker ← markerOf tree tree.sdkconfig
  if marker = [] then markerOf tree tree.sdkconfigDefaults else some marker

/-- `path.relative_to(base)`. -/
def Path.relativeTo (base path : Path) : Option Path :=
  if base.isPrefixOf path then some (path.drop base.length) else none

/-- Where a file of `flash_files` is found, if it is there. -/
def locate (tree : BuildTree) (relPath : String) : Option Path :=
  let fullPath := tree.buildDir.join relPath
  let altPath := tree.root.join relPath
  if tree.pathExists fullPath then some fullPath
  else if tree.pathExists altPath then some altPath
  else none

/-- `name_map`. -/
def nameMap (offset : String) : Option String :=
  [("0x0", "bootloader"), ("0x8000", "partition-table"), ("0x10000", "application")].lookup offset

/-- One file; a file that is not found is skipped. -/
def artifactOf (sha256 : List UInt8 → String) (tree : BuildTree) (file : String × PyJson) :
    Option (Option Artifact) := do
  let relPath ← asText file.2
  match locate tree relPath with
  | none => some none
  | some fullPath => do
      let data ← tree.readBytes fullPath
      let path ← tree.root.relativeTo fullPath
      some (some {
        name := (nameMap file.1).getD (stem relPath)
        path := path
        offset := file.1
        size := data.length
        sha256 := sha256 data })

/-- The files in the order of their offsets. -/
def sortedFiles (flashFiles : Members) : Option (List (String × PyJson)) := do
  let keyed ← flashFiles.mapM fun file => (intBase16 file.1).map (·, file)
  some ((keyed.mergeSort fun a b => a.1 ≤ b.1).map Prod.snd)

/-- `flash_files`, if `flasher_args.json` can be read. -/
def flashFiles (tree : BuildTree) : Option Members := do
  if tree.pathExists tree.flasherArgs then
    let flasher ← asDict (← tree.readJson tree.flasherArgs)
    let _ ← asDict (valueOf flasher "flash_settings" (.dict []))
    asDict (valueOf flasher "flash_files" (.dict []))
  else none

/-- The artifacts of the files that are there. -/
def artifacts (sha256 : List UInt8 → String) (tree : BuildTree) : Option (List Artifact) := do
  let files ← sortedFiles (← flashFiles tree)
  let found ← files.mapM (artifactOf sha256 tree)
  some found.reduceOption

def generateManifest (sha256 : List UInt8 → String) (tree : BuildTree) : Option Manifest := do
  let artifacts ← artifacts sha256 tree
  some {
    sdkconfigMarker := ← sdkconfigMarker tree
    product := "BOOTMUX Keyboard Safe"
    serial := "BOOTMUX-HID-SAFE"
    artifacts := artifacts }

/-! ## Inspecting -/

def forbiddenPatterns : List String :=
  ["CDC_ECM", "CDC_NCM", "RNDIS", "rndis", "usb_network", "USB_NETIF", "tinyusb_net", "tusb_net",
    "napt_enable", "ip_forward_enable", "BOOTMUX Bridge Experimental", "BOOTMUX-R7A-NCM",
    "TUSB_CLASS_CDC", "CDC_COMM_SUBCLASS", "lwip_ip_forward", "IP_FORWARD"]

def safeOffMarker : String := "BOOTMUX_USB_NETWORK_SAFE_OFF"

/-- `scan_binary_strings`: the runs of six printable characters or more. -/
def scanBinaryStrings (data : List UInt8) : List (List Char) :=
  let printable (b : UInt8) : Bool := 0x20 ≤ b && b ≤ 0x7E
  ((data.splitOnP fun b => !printable b).filter fun run => 6 ≤ run.length).map fun run =>
    run.map fun b => Char.ofNat b.toNat

/-- `"\n".join(strings)`. -/
def allText (data : List UInt8) : List Char := ['\n'].intercalate (scanBinaryStrings data)

inductive Inspected where
  | missing
  | present (sizeMatch sha256Match : Bool) (forbiddenFound : List (List Char))

structure ArtifactResult where
  name : String
  path : Path
  inspected : Inspected

/-- `result["status"] == "GREEN"`. -/
def ArtifactResult.green (result : ArtifactResult) : Bool :=
  match result.inspected with
  | .missing => false
  | .present sizeMatch sha256Match forbiddenFound =>
      sizeMatch && sha256Match && forbiddenFound.isEmpty

/-- The strings with a forbidden pattern. -/
def forbiddenIn (data : List UInt8) : List (List Char) :=
  (scanBinaryStrings data).filter fun s => forbiddenPatterns.any fun p => contains p.toList s

/-- `inspect_artifact`. -/
def inspectArtifact (sha256 : List UInt8 → String) (tree : BuildTree) (entry : Artifact) :
    Option ArtifactResult :=
  let path : Path := tree.root ++ entry.path
  if tree.pathExists path then
    (tree.readBytes path).map fun data =>
      { name := entry.name
        path := path
        inspected := .present (data.length = entry.size) (sha256 data = entry.sha256)
          (forbiddenIn data) }
  else some { name := entry.name, path := path, inspected := .missing }

structure Report where
  artifacts : List ArtifactResult
  sdkconfigMarker : Bool
  safeOffMarker : Bool
  usbIdentity : Bool

/-- `overall == "GREEN"`. -/
def Report.overall (report : Report) : Bool :=
  report.artifacts.all ArtifactResult.green && report.sdkconfigMarker && report.safeOffMarker &&
    report.usbIdentity

/-- The data of an artifact that may be missing. -/
def dataOf (tree : BuildTree) (entry : Artifact) : Option (Option (List UInt8)) :=
  if tree.pathExists (tree.root ++ entry.path) then
    (tree.readBytes (tree.root ++ entry.path)).map some
  else some none

def isApplication (entry : Artifact) : Bool := entry.name == "application"

/-- The data of the last application that is there. -/
def appData (tree : BuildTree) (manifest : Manifest) : Option (Option (List UInt8)) := do
  let found ← (manifest.artifacts.filter isApplication).mapM (dataOf tree)
  some found.reduceOption.getLast?

/-- `verify_usb_identity`. -/
def verifyUsbIdentity (tree : BuildTree) (manifest : Manifest) : Option Bool :=
  match manifest.artifacts.find? isApplication with
  | none => some false
  | some entry => (dataOf tree entry).map fun data => data.any fun data =>
      contains manifest.product.toList (allText data) &&
        contains manifest.serial.toList (allText data)

/-- Whether the marker of the manifest is in the sdkconfig. -/
def markerFound (tree : BuildTree) (manifest : Manifest) : Option Bool :=
  if tree.pathExists tree.sdkconfig then
    (tree.readText tree.sdkconfig).map fun content => contains manifest.sdkconfigMarker content
  else some false

def inspectBuild (sha256 : List UInt8 → String) (tree : BuildTree) (manifest : Manifest) :
    Option Report := do
  let marker ← markerFound tree manifest
  let results ← manifest.artifacts.mapM (inspectArtifact sha256 tree)
  let app ← appData tree manifest
  let usb ← verifyUsbIdentity tree manifest
  some {
    artifacts := results
    sdkconfigMarker := marker
    safeOffMarker := app.any fun data => contains safeOffMarker.toList (allText data)
    usbIdentity := usb }

end Bootmux.SafeFlash
