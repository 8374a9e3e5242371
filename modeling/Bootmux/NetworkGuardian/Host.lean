/-
Bootmux.NetworkGuardian.Host — what the network guardian sees of a host, and how
it proves that an interface belongs to BOOTMUX
(`bootmux-network-guardian.py`).

`Host` is the class of that name: a state of the host is anything that
answers its observations, and `run` is the only method that changes it.
A key that a dictionary may lack is an `Option`; a key read with a
default has that default where it is absent. `None` and the empty string
are both false in a condition, which `truthy` says.

Left out: `service_order` and the fields no function here reads (the
status and description of an interface, the netmask of an address, the
output of a command).

An identity is proven by signals: those of the hardware, which say that the
device is plugged in, and those of an interface, which say which one it is.
`proveIdentity` needs enough of the first kind and enough of both together;
with fewer, or with two interfaces to choose from, the identity is
ambiguous.
-/
import Mathlib.Data.List.Infix
import Mathlib.Data.Rat.Defs
import Bootmux.Lib.PyText

namespace Bootmux.NetworkGuardian

open Bootmux.Lib

/-! ## Constants -/

def bootmuxUsbVid : Nat := 0x303A
def bootmuxUsbPid : Nat := 0x4014
def bootmuxProduct : String := "BOOTMUX Bridge Experimental"
def bootmuxSerial : String := "BOOTMUX-R7A-NCM"
def bootmuxNet : String := "10.77.0.0/24"
def bootmuxPeer : String := "10.77.0.1"
def bootmuxServiceHint : String := "BOOTMUX USB Ethernet"

def minSignals : Nat := 2
def minHardwareSignals : Nat := 1

/-! ## Python strings -/

/-- A value that counts as true in a condition. -/
def truthy (value : Option String) : Bool := value.isSome && value != some ""

theorem truthy_iff {value : Option String} :
    truthy value = true ↔ ∃ text, value = some text ∧ text ≠ "" := by
  cases value <;> simp [truthy]

/-- A value in an f-string. -/
def pyStr (value : Option String) : String := value.getD "None"

/-- `needle in hay`. -/
def contains (needle hay : List Char) : Bool := decide (needle <:+: hay)

/-- `str.lower`, as far as it gives ASCII letters; what a lowered text is
compared with has no others. -/
def lower (text : String) : List Char := PyText.toLower text.toList

/-! ## Observations -/

structure UsbDevice where
  vid : Option Nat
  pid : Option Nat
  product : Option String
  serial : Option String
  deriving DecidableEq, Repr

structure Interface where
  name : String
  addresses : List String
  deriving DecidableEq, Repr

structure Route where
  destination : Option String
  gateway : Option String
  interface : Option String
  flags : String
  deriving DecidableEq, Repr

structure Service where
  order : Int
  name : String
  device : Option String
  enabled : Bool
  deriving DecidableEq, Repr

structure Ipv4 where
  mode : Option String
  address : Option String
  subnetMask : Option String
  router : Option String
  deriving DecidableEq, Repr

structure Dns where
  servers : List String
  search : List String
  deriving DecidableEq, Repr

/-- `Host` over states `σ`. `run` answers with the return code. -/
structure Host (σ : Type) where
  usbDevices : σ → List UsbDevice
  interfaces : σ → List Interface
  routes : σ → List Route
  services : σ → List Service
  wifiDevice : σ → Option String
  wifiPower : σ → String → Option Bool
  wifiSsid : σ → String → Option String
  wifiIpv4 : σ → String → Ipv4
  dns : σ → String → Dns
  heartbeat : σ → String → Bool
  now : σ → ℚ
  run : σ → List String → σ × Int

/-! ## Identity -/

/-- One part of a dotted address: decimal digits without a leading zero,
at most 255. -/
def parseOctet (digits : List Char) : Option Nat :=
  if digits ≠ [] ∧ digits.all Char.isDigit ∧ digits.length ≤ 3 ∧
      (digits.length = 1 ∨ digits.head? ≠ some '0') then
    let value := digits.foldl (fun n c => 10 * n + (c.toNat - '0'.toNat)) 0
    if value ≤ 255 then some value else none
  else none

/-- `ipaddress.ip_address`, as far as it gives an IPv4 address. -/
def ipv4Address (text : String) : Option (List Nat) :=
  let octets := text.toList.splitOn '.'
  if octets.length = 4 then octets.mapM parseOctet else none

/-- `_iface_in_bootmux_net`. An IPv6 address is in no IPv4 network. -/
def ifaceInBootmuxNet (iface : Interface) : Bool :=
  iface.addresses.any fun addr =>
    match ipv4Address addr with
    | some octets => octets.take 3 == [10, 77, 0]
    | none => false

def serviceForInterface (services : List Service) (ifaceName : String) : Option String :=
  (services.find? fun svc => svc.device == some ifaceName).map (·.name)

structure IdentityResult where
  proven : Bool
  ambiguous : Bool
  interface : Option String
  service : Option String
  hardwareSignals : List String
  networkSignals : List String
  reason : String
  deriving DecidableEq, Repr

def hwSignals (vidPid product serial : Bool) : List String :=
  (if vidPid then ["USB VID:PID 0x303a:0x4014"] else []) ++
    (if product then ["product \"" ++ bootmuxProduct ++ "\""] else []) ++
    (if serial then ["serial \"" ++ bootmuxSerial ++ "\""] else [])

section Host

variable {σ : Type} (host : Host σ) (s : σ)

/-- A USB device with the BOOTMUX vendor and product number. -/
def usbPresent : Bool :=
  (host.usbDevices s).any fun d => d.vid == some bootmuxUsbVid && d.pid == some bootmuxUsbPid

/-- The hardware signals of the plugged devices. -/
def hardwareSignals : List String :=
  let usb := host.usbDevices s
  let productMatch := usb.any fun d => contains bootmuxProduct.toList (d.product.getD "").toList
  let serialMatch := usb.any fun d => d.serial.getD "" == bootmuxSerial
  hwSignals (usbPresent host s) productMatch serialMatch

/-- The interfaces with an address in 10.77.0.0/24. -/
def candidates : List Interface := (host.interfaces s).filter ifaceInBootmuxNet

/-- The network signals for an interface. -/
def networkSignals (ifaceName : String) : List String :=
  let service := serviceForInterface (host.services s) ifaceName
  ["interface " ++ ifaceName ++ " in " ++ bootmuxNet] ++
    (if (host.routes s).any fun r => r.gateway == some bootmuxPeer then
      ["gateway " ++ bootmuxPeer] else []) ++
    (if truthy service && contains (lower bootmuxServiceHint) (lower (service.getD "")) then
      ["service description contains BOOTMUX USB Ethernet"] else []) ++
    (if (host.routes s).any fun r => r.interface == some ifaceName then
      ["route through proven interface " ++ ifaceName] else [])

def proveIdentity : IdentityResult :=
  let hw := hardwareSignals host s
  match candidates host s with
  | [] =>
      { proven := false, ambiguous := false, interface := none, service := none
        hardwareSignals := hw, networkSignals := [], reason := "no interface in 10.77.0.0/24" }
  | [iface] =>
      let service := serviceForInterface (host.services s) iface.name
      let net := networkSignals host s iface.name
      let total := hw.length + net.length
      if minHardwareSignals ≤ hw.length ∧ minSignals ≤ total then
        { proven := true, ambiguous := false, interface := some iface.name, service := service
          hardwareSignals := hw, networkSignals := net, reason := "proven BOOTMUX-owned" }
      else
        { proven := false, ambiguous := true, interface := some iface.name, service := service
          hardwareSignals := hw, networkSignals := net
          reason := "insufficient signals (hardware=" ++ toString hw.length ++ ", total=" ++
            toString total ++ "); audit-only" }
  | _ =>
      { proven := false, ambiguous := true, interface := none, service := none
        hardwareSignals := hw, networkSignals := ["multiple 10.77.0.0/24 interfaces"]
        reason := "multiple candidate interfaces; refusing to guess" }

/-- A route that belongs to BOOTMUX, once its interface is known. -/
def ownedRoute (iface : Option String) (route : Route) : Bool :=
  route.gateway == some bootmuxPeer || (iface.isSome && route.interface == iface)

/-- `host_is_clean`. -/
def hostIsClean (identity : IdentityResult) : Bool :=
  !identity.proven &&
    !(host.routes s).any fun route =>
      route.gateway == some bootmuxPeer ||
        (truthy identity.interface && route.interface == identity.interface)

end Host

end Bootmux.NetworkGuardian
