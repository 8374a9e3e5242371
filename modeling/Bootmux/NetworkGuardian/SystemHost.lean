/-
Bootmux.NetworkGuardian.SystemHost — the host behind the tools of macOS
(`bootmux-network-guardian.py`).

The tools are a parameter: `System` answers a command with its return
code and its output, and a command that only asks leaves the state as it
is. Each observation is the parser of one output, with the patterns of
the source. `int` is read without its limit on the number of digits, and
the netmask of an interface is taken to have the 32 bits that `ifconfig`
prints.

An observation never fails: where the output does not match the pattern, the
answer is an empty list or a missing value, and the guardian goes on with
that.
-/
import Mathlib.Algebra.Group.Nat.Defs
import Bootmux.Lib.Regex
import Bootmux.NetworkGuardian.Repair

namespace Bootmux.NetworkGuardian

open Bootmux.Lib
open Bootmux.Lib.PyText
open Bootmux.Lib.Regex (Match)

/-- The tools of a host. -/
structure System (σ : Type) where
  /-- `_cmd`: the state afterwards, the return code and the output. -/
  cmd : σ → List String → σ × Int × String
  time : σ → ℚ

/-! ## Character classes of the patterns -/

def notSpace (c : Char) : Bool := !isSpace c

/-- `.`. -/
def anyChar (c : Char) : Bool := c != '\n'

/-- A pattern of parts one after the other. -/
def pattern : List Regex → Regex
  | [] => .lit []
  | [part] => part
  | part :: parts => .seq part (pattern parts)

theorem pattern_cons_cons (a b : Regex) (parts : List Regex) :
    pattern (a :: b :: parts) = .seq a (pattern (b :: parts)) := rfl

def word (text : String) : Regex := .lit text.toList

/-! ## USB devices and interfaces -/

/-- The pieces of a text around a separator. -/
def splitText (separator : List Char) : List Char → List (List Char)
  | [] => [[]]
  | c :: cs =>
      if separator ≠ [] ∧ separator.isPrefixOf (c :: cs) then
        [] :: splitText separator (cs.drop (separator.length - 1))
      else
        match splitText separator cs with
        | [] => [[c]]
        | piece :: pieces => (c :: piece) :: pieces
  termination_by cs => cs.length
  decreasing_by
    all_goals simp only [List.length_drop, List.length_cons]
    all_goals omega

/-- `"name"\s*=\s*(\d+)`. -/
def numberPattern (name : String) : Regex :=
  pattern [word ("\"" ++ name ++ "\""), .many 0 isSpace, word "=", .many 0 isSpace,
    .group (.many 1 isDecimal)]

/-- `"name"\s*=\s*"([^"]*)"`. -/
def textPattern (name : String) : Regex :=
  pattern [word ("\"" ++ name ++ "\""), .many 0 isSpace, word "=", .many 0 isSpace, word "\"",
    .group (.many 0 (· != '"')), word "\""]

def parseUsbBlock (block : List Char) : Option UsbDevice :=
  match (numberPattern "idVendor").search block, (numberPattern "idProduct").search block with
  | some vid, some pid =>
      some
        { vid := some (intOfDecimal (vid.get 0))
          pid := some (intOfDecimal (pid.get 0))
          product := some (String.ofList
            ((((textPattern "USB Product Name").search block).map (·.get 0)).getD []))
          serial := some (String.ofList
            ((((textPattern "USB Serial Number").search block).map (·.get 0)).getD [])) }
  | _, _ => none

def parseUsbDevices (out : List Char) : List UsbDevice :=
  (splitText "+-o ".toList out).filterMap parseUsbBlock

/-- `^(\S+):\s+flags=`. -/
def flagsPattern : Regex :=
  pattern [.group (.many 1 notSpace), word ":", .many 1 isSpace, word "flags="]

/-- `inet (\d+\.\d+\.\d+\.\d+) netmask 0x([0-9a-fA-F]+)`. -/
def inetPattern : Regex :=
  pattern [word "inet ",
    .group (pattern [.many 1 isDecimal, word ".", .many 1 isDecimal, word ".", .many 1 isDecimal,
      word ".", .many 1 isDecimal]),
    word " netmask 0x", .group (.many 1 isHexDigit)]

/-- The interfaces before the one being read, and that one. -/
structure InterfaceScan where
  done : List Interface
  current : Option Interface

def scanInterface (scan : InterfaceScan) (line : List Char) : InterfaceScan :=
  match flagsPattern.matchAt line with
  | some m =>
      { done := scan.done ++ scan.current.toList
        current := some ⟨String.ofList (m.get 0), []⟩ }
  | none =>
      match inetPattern.search line with
      | some m =>
          { scan with current := scan.current.map fun iface =>
              { iface with addresses := iface.addresses ++ [String.ofList (m.get 0)] } }
      | none => scan

def parseInterfaces (out : List Char) : List Interface :=
  let scan := (splitlines out).foldl scanInterface ⟨[], none⟩
  scan.done ++ scan.current.toList

/-! ## Routes and services -/

/-- `^[\d./]+$`. -/
def destinationPattern : Regex :=
  pattern [.many 1 fun c => isDecimal c || c == '.' || c == '/', .stop]

def parseRoute (line : List Char) : Option Route :=
  match split line with
  | dest :: gateway :: flags :: iface :: _ =>
      if dest = "Destination".toList ∨ dest = "Routing".toList then none
      else if (destinationPattern.matchAt dest).isNone then none
      else
        some
          { destination := some (String.ofList dest)
            gateway := some (String.ofList gateway)
            interface := some (String.ofList iface)
            flags := String.ofList flags }
  | _ => none

def parseRoutes (out : List Char) : List Route := (splitlines out).filterMap parseRoute

/-- `^\((\d+)\)\s+(.*)$`. -/
def headPattern : Regex :=
  pattern [word "(", .group (.many 1 isDecimal), word ")", .many 1 isSpace,
    .group (.many 0 anyChar), .stop]

/-- `Device:\s+(\S+)\)`. -/
def devicePattern : Regex :=
  pattern [word "Device:", .many 1 isSpace, .group (.many 1 notSpace), word ")"]

/-- The services before the one being read, and that one. -/
structure ServiceScan where
  done : List Service
  current : Option Service

/-- `lstrip("* ").strip()`. -/
def serviceName (text : List Char) : String :=
  String.ofList (strip (text.dropWhile fun c => c == '*' || c == ' '))

def scanService (scan : ServiceScan) (line : List Char) : ServiceScan :=
  match headPattern.matchAt line with
  | some head =>
      { done := scan.done ++ scan.current.toList
        current := some
          { order := intOfDecimal (head.get 0)
            name := serviceName (head.get 1)
            device := some ""
            enabled := true } }
  | none =>
      match devicePattern.search line with
      | some dev =>
          { scan with current := scan.current.map fun svc =>
              { svc with device := some (String.ofList (dev.get 0)) } }
      | none => scan

/-- Every service counts as enabled. -/
def parseServices (out : List Char) : List Service :=
  let scan := (splitlines out).foldl scanService ⟨[], none⟩
  scan.done ++ scan.current.toList

/-! ## Wi-Fi -/

/-- `^Hardware Port:\s+(Wi-Fi|AirPort)$`. -/
def portPattern : Regex :=
  pattern [word "Hardware Port:", .many 1 isSpace, .group (.alt (word "Wi-Fi") (word "AirPort")),
    .stop]

/-- `^Device:\s+(\S+)`. -/
def portDevicePattern : Regex :=
  pattern [word "Device:", .many 1 isSpace, .group (.many 1 notSpace)]

def parseWifiDevice : List (List Char) → Option String
  | line :: next :: lines =>
      if (portPattern.matchAt line).isSome then
        match portDevicePattern.matchAt next with
        | some m => some (String.ofList (m.get 0))
        | none => parseWifiDevice (next :: lines)
      else parseWifiDevice (next :: lines)
  | _ => none

/-- `:\s*(On|Off)`. -/
def powerPattern : Regex :=
  pattern [word ":", .many 0 isSpace, .group (.alt (word "On") (word "Off"))]

/-- `:\s*(.+)$`. -/
def ssidPattern : Regex := pattern [word ":", .many 0 isSpace, .group (.many 1 anyChar), .stop]

def parseSsid (out : List Char) : Option String :=
  (ssidPattern.search out).bind fun m =>
    let ssid := String.ofList (strip (m.get 0))
    if "you are not associated".toList.isPrefixOf (lower ssid) then none else some ssid

/-- `name\s*=\s*([\d.]+)`. -/
def packetPattern (name : String) : Regex :=
  pattern [word name, .many 0 isSpace, word "=", .many 0 isSpace,
    .group (.many 1 fun c => isDecimal c || c == '.')]

/-- `inet ([\d.]+) netmask 0x([0-9a-fA-F]+)`. -/
def wifiInetPattern : Regex :=
  pattern [word "inet ", .group (.many 1 fun c => isDecimal c || c == '.'), word " netmask 0x",
    .group (.many 1 isHexDigit)]

/-- `int(digits, 16)`. -/
def natOfHex (digits : List Char) : Nat :=
  digits.foldl (fun n c =>
    16 * n + (if c ≤ '9' then c.toNat - 48 else if c ≤ 'F' then c.toNat - 55 else c.toNat - 87)) 0

/-- The dotted form of an address of 32 bits. -/
def dotted (n : Nat) : String :=
  ".".intercalate ([24, 16, 8, 0].map fun shift => toString (n / 2 ^ shift % 256))

def packetField (name : String) (out : List Char) : Option String :=
  ((packetPattern name).search out).map fun m => String.ofList (m.get 0)

section Observations

variable {σ : Type} (sys : System σ) (s : σ)

/-- The output of a command that succeeds. -/
def output (argv : List String) : Option (List Char) :=
  if (sys.cmd s argv).2.1 = 0 then some (sys.cmd s argv).2.2.toList else none

def systemWifiIpv4 (device : String) : Ipv4 :=
  match (output sys s ["ipconfig", "getpacket", device]).filter (strip · ≠ []) with
  | some out =>
      ⟨some "dhcp", packetField "yiaddr" out, packetField "subnet_mask" out,
        packetField "router" out⟩
  | none =>
      match (output sys s ["ifconfig", device]).bind wifiInetPattern.search with
      | some inet =>
          ⟨some "manual", some (String.ofList (inet.get 0)), some (dotted (natOfHex (inet.get 1))),
            none⟩
      | none => ⟨some "manual", none, none, none⟩

/-- `^[\d.]+$`. -/
def serverPattern : Regex := pattern [.many 1 fun c => isDecimal c || c == '.', .stop]

def parseServers (out : List Char) : List String :=
  (((splitlines out).map strip).filter fun line =>
    line ≠ [] && (serverPattern.matchAt line).isSome).map String.ofList

def parseSearch (out : List Char) : List String :=
  (((splitlines out).map strip).filter fun line =>
    line ≠ [] && !"there aren".toList.isPrefixOf (lower (String.ofList line))).map String.ofList

def systemDns (service : String) : Dns :=
  { servers := ((output sys s ["networksetup", "-getdnsservers", service]).map parseServers).getD []
    search :=
      ((output sys s ["networksetup", "-getsearchdomains", service]).map parseSearch).getD [] }

end Observations

def systemHost {σ : Type} (sys : System σ) : Host σ where
  usbDevices s :=
    ((output sys s ["ioreg", "-p", "IOUSB", "-l", "-w", "0"]).map parseUsbDevices).getD []
  interfaces s := ((output sys s ["ifconfig"]).map parseInterfaces).getD []
  routes s := ((output sys s ["netstat", "-rn", "-f", "inet"]).map parseRoutes).getD []
  services s :=
    ((output sys s ["networksetup", "-listnetworkserviceorder"]).map parseServices).getD []
  wifiDevice s :=
    (output sys s ["networksetup", "-listallhardwareports"]).bind fun out =>
      parseWifiDevice (splitlines out)
  wifiPower s device :=
    ((output sys s ["networksetup", "-getairportpower", device]).bind powerPattern.search).map
      fun m => m.get 0 == "On".toList
  wifiSsid s device :=
    (output sys s ["networksetup", "-getairportnetwork", device]).bind parseSsid
  wifiIpv4 s device := systemWifiIpv4 sys s device
  dns s service := systemDns sys s service
  heartbeat s peer := (output sys s ["ping", "-c", "1", "-W", "1000", "-t", "1", peer]).isSome
  now s := sys.time s
  run s argv := ((sys.cmd s argv).1, (sys.cmd s argv).2.1)

end Bootmux.NetworkGuardian
