/-
Bootmux.UsbIdentity.Oracle — the USB identity oracle
(`bootmux-usb-identity-oracle.py`): the parser of the text of
`system_profiler` and the verdict.

The two patterns of the parser are searched as `re` does, for the shortest
first group, on a line without white space at its ends.

A device is BOOTMUX by its name, its product or its product id. The verdict
goes by the fields that the parser has kept of the first such device.
-/
import Bootmux.Lib.PyDict
import Bootmux.Lib.PyText
import Bootmux.NetworkGuardian.Host

namespace Bootmux.UsbIdentity

open Bootmux.Lib
open Bootmux.Lib.PyText (isSpace splitlines strip toLower)
open Bootmux.NetworkGuardian (contains)

/-! ## Constants -/

def safeProduct : String := "BOOTMUX Keyboard Safe"
def safeSerial : String := "BOOTMUX-HID-SAFE"

/-- Substrings that indicate a USB network class. -/
def networkClassMarkers : List String :=
  ["ncm", "ecm", "rndis", "cdc-ethernet", "cdc ethernet", "usb ethernet", "ethernet", "network",
    "eem"]

def hidMarkers : List String := ["hid", "keyboard", "human interface"]

/-! ## The parser -/

structure Device where
  name : List Char
  fields : List (List Char × List Char)
  deriving DecidableEq, Repr

/-- `^(.+?):\s*$`, with the characters before in reverse. -/
def headerFrom (before : List Char) : List Char → Option (List Char)
  | [] => none
  | c :: cs =>
      if before ≠ [] ∧ c = ':' ∧ cs.all isSpace = true then some before.reverse
      else headerFrom (c :: before) cs

/-- `^(.+?):\s+(.*)$`, with the characters before in reverse. -/
def fieldFrom (before : List Char) : List Char → Option (List Char × List Char)
  | [] => none
  | c :: cs =>
      if before ≠ [] ∧ c = ':' ∧ cs.head?.any isSpace = true then
        some (before.reverse, cs.dropWhile isSpace)
      else fieldFrom (c :: before) cs

structure Scan where
  devices : List Device
  current : Option Device
  deriving DecidableEq, Repr

/-- The body of the loop of `parse_usb_devices`. -/
def scanLine (scan : Scan) (raw : List Char) : Scan :=
  let stripped := strip raw
  if stripped = [] then scan
  else
    match headerFrom [] stripped with
    | some name => ⟨scan.devices ++ scan.current.toList, some ⟨strip name, []⟩⟩
    | none =>
        match fieldFrom [] stripped, scan.current with
        | some (key, value), some current =>
            { scan with current := some { current with
                fields := PyDict.set current.fields (strip key) (strip value) } }
        | _, _ => scan

def parseUsbDevices (text : List Char) : List Device :=
  let scan := (splitlines text).foldl scanLine ⟨[], none⟩
  scan.devices ++ scan.current.toList

/-! ## The verdict -/

def Device.get (dev : Device) (key : String) : Option (List Char) := dev.fields.lookup key.toList

def isBootmux (dev : Device) : Bool :=
  contains "bootmux".toList (toLower dev.name) ||
    contains "bootmux".toList (toLower ((dev.get "Product ID").getD [])) ||
    contains (toLower safeProduct.toList) (toLower ((dev.get "Product").getD [])) ||
    contains (toLower safeProduct.toList) (toLower dev.name)

/-- All field text, and the name. -/
def blob (dev : Device) : List Char :=
  toLower ([' '].intercalate (dev.fields.map fun (k, v) => k ++ ' ' :: v)) ++
    ' ' :: toLower dev.name

def productIsSafe (dev : Device) : Bool :=
  strip ((dev.get "Product").getD dev.name) == safeProduct.toList

def serialIsSafe (dev : Device) : Option Bool :=
  let serial := (dev.get "Serial Number").getD []
  if serial = [] then none else some (strip serial == safeSerial.toList)

def hidPresent (dev : Device) : Bool := hidMarkers.any fun m => contains m.toList (blob dev)

def networkMarkersFound (dev : Device) : List String :=
  networkClassMarkers.filter fun m => contains m.toList (blob dev)

inductive Verdict where
  | noBootmuxDevice
  | safeHidOnly
  | networkClassPresent
  | unsafeProduct
  | ambiguous
  deriving DecidableEq, Repr

structure Report where
  bootmuxDevicePresent : Bool
  productIsSafe : Option Bool
  serialIsSafe : Option Bool
  hidPresent : Option Bool
  networkClassAbsent : Option Bool
  networkMarkersFound : Option (List String)
  verdict : Verdict
  deriving DecidableEq, Repr

def classifyBootmux (devices : List Device) : Report :=
  match devices.filter isBootmux with
  | [] => ⟨false, none, none, none, none, none, .noBootmuxDevice⟩
  | dev :: _ =>
      let networkMarkersFound := networkMarkersFound dev
      let networkClassAbsent := networkMarkersFound.isEmpty
      let verdict :=
        if productIsSafe dev && hidPresent dev && networkClassAbsent then .safeHidOnly
        else if !networkClassAbsent then .networkClassPresent
        else if !productIsSafe dev then .unsafeProduct
        else .ambiguous
      ⟨true, some (productIsSafe dev), serialIsSafe dev, some (hidPresent dev),
        some networkClassAbsent, some networkMarkersFound, verdict⟩

/-- The exit status of `live`. -/
def live (returncode : Int) (stdout : List Char) : Nat :=
  if returncode ≠ 0 then 2
  else
    match (classifyBootmux (parseUsbDevices stdout)).verdict with
    | .safeHidOnly | .noBootmuxDevice => 0
    | _ => 1

end Bootmux.UsbIdentity
