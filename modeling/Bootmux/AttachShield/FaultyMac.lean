/-
Bootmux.AttachShield.FaultyMac — a Mac whose commands can fail.

A command that fails changes nothing and one that only asks prints nothing;
what the shield reads of an empty output is its parsers' answer. The exit
codes of the commands that change something come from a sequence, one after
another.

Which commands fail is not known to the shield, so a statement about every
such sequence is one about every way in which a close can go wrong.
-/
import Bootmux.AttachShield.Mac

namespace Bootmux.AttachShield

/-- The commands that only ask. -/
inductive Query where
  | getCurrentLocation
  | listLocations
  | help
  | listAllHardwarePorts
  | listNetworkServiceOrder
  | getAirportPower
  | getAirportNetwork
  | getInfo
  | getDnsServers
  | getSearchDomains
  | routeGetDefault
  | pfInfo
  | pfAnchors
  | nwi
  | ifconfig
  | netstat
  | launchctlList
  deriving DecidableEq, Repr

structure Faulty where
  mac : Mac
  /-- The exit codes to come. -/
  codes : Nat → Int
  failing : Query → Bool

namespace Faulty

/-- An answer, or what is read of an empty output. -/
def answer {α : Type} (faulty : Faulty) (query : Query) (empty value : α) : α :=
  if faulty.failing query then empty else value

def run (faulty : Faulty) (command : Command) : Faulty × Int :=
  ({ faulty with
      mac := if faulty.codes 0 = 0 then faulty.mac.apply command else faulty.mac
      codes := fun n => faulty.codes (n + 1) },
    faulty.codes 0)

end Faulty

def faultyHost : Host Faulty where
  lower := macHost.lower
  currentLocation f := f.answer .getCurrentLocation "" (macHost.currentLocation f.mac)
  hasLocation f name := f.answer .listLocations false (macHost.hasLocation f.mac name)
  locationSupported f := f.answer .help false (macHost.locationSupported f.mac)
  hardwarePorts f := f.answer .listAllHardwarePorts [] (macHost.hardwarePorts f.mac)
  serviceOrder f := f.answer .listNetworkServiceOrder [] (macHost.serviceOrder f.mac)
  airportPower f device := f.answer .getAirportPower false (macHost.airportPower f.mac device)
  associated f device := f.answer .getAirportNetwork false (macHost.associated f.mac device)
  info f service := f.answer .getInfo ⟨"DHCP", none, "Automatic"⟩ (macHost.info f.mac service)
  defaultRoute f := f.answer .routeGetDefault ("", "") (macHost.defaultRoute f.mac)
  dnsServers f service := f.answer .getDnsServers ⟨[], false⟩ (macHost.dnsServers f.mac service)
  searchDomains f service :=
    f.answer .getSearchDomains ⟨[], false⟩ (macHost.searchDomains f.mac service)
  pfEnabled f := f.answer .pfInfo false (macHost.pfEnabled f.mac)
  pfAnchors f := f.answer .pfAnchors [] (macHost.pfAnchors f.mac)
  subnetInNwi f := f.answer .nwi false (macHost.subnetInNwi f.mac)
  subnetInterface f := f.answer .ifconfig "" (macHost.subnetInterface f.mac)
  netstat f := f.answer .netstat [] (macHost.netstat f.mac)
  daemonLoaded f := f.answer .launchctlList false (macHost.daemonLoaded f.mac)
  shieldFiles f := macHost.shieldFiles f.mac
  run := Faulty.run
  saveState f := { f with mac := macHost.saveState f.mac }

end Bootmux.AttachShield
