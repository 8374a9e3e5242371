/-
Bootmux.AttachShield.Detection — the hardware ports that `networksetup`
lists, and which of them `detect_new_external_ethernet` takes for a
BOOTMUX port.

The listing is read line by line into a dictionary from devices to port
names (`_parse_interfaces`). A port is detected if its name is on the
inclusion list and not on the list of virtual services. The inclusion
list lacks `bootmux`, the first of the shield's own product hints, and
the exclusion list has `bridge`, which is in the product name that the
guardian looks for; `detects_all_iff` says which listings no BOOTMUX port
is overlooked in.

A listing is printed from blocks (`PortBlock`), each with the name, the
device and the address that `networksetup` gives for a port, and the scan of
such a text is shown to be the blocks (`foldl_scanPort_blocks`). The
condition is then on the blocks and on the baseline: a block is new, and
whether it is a BOOTMUX port is what its name says.
-/
import Bootmux.AttachShield.CloseTheorems
import Bootmux.Lib.PyDict

namespace Bootmux.AttachShield

open Bootmux.Lib
open Bootmux.Lib.PyText
open Bootmux.NetworkGuardian (bootmuxProduct)

/-! ## The listing -/

/-- The dictionary so far, and the port name that a device line goes with. -/
structure PortScan where
  result : List (String × String)
  currentPort : String

def scanPort (scan : PortScan) (line : List Char) : PortScan :=
  let line := strip line
  if "Hardware Port:".toList.isPrefixOf line then
    { scan with currentPort := String.ofList (afterColon line) }
  else if "Device:".toList.isPrefixOf line then
    let dev := String.ofList (afterColon line)
    if scan.currentPort ≠ "" then
      { scan with result := PyDict.set scan.result dev scan.currentPort }
    else scan
  else scan

/-- `_parse_interfaces`. -/
def parseInterfaces (text : List Char) : List (String × String) :=
  ((splitlines text).foldl scanPort ⟨[], ""⟩).result

/-- A host whose `networksetup -listallhardwareports` prints `listing`. -/
def listingHost {σ : Type} (host : Host σ) (listing : σ → List Char) : Host σ :=
  { host with hardwarePorts := fun s => parseInterfaces (listing s) }

/-- The scan keeps one entry for each device. -/
theorem scanPort_nodup {scan : PortScan} (h : (scan.result.map Prod.fst).Nodup)
    (line : List Char) : ((scanPort scan line).result.map Prod.fst).Nodup := by
  simp only [scanPort]
  split
  · exact h
  · split
    · split
      · exact PyDict.set_nodup h _ _
      · exact h
    · exact h

theorem foldl_scanPort_nodup (lines : List (List Char)) {scan : PortScan}
    (h : (scan.result.map Prod.fst).Nodup) :
    ((lines.foldl scanPort scan).result.map Prod.fst).Nodup := by
  induction lines generalizing scan with
  | nil => exact h
  | cons line lines ih => exact ih (scanPort_nodup h line)

/-- A listing gives each device one port name. -/
theorem parseInterfaces_nodup (text : List Char) :
    ((parseInterfaces text).map Prod.fst).Nodup :=
  foldl_scanPort_nodup _ List.nodup_nil

/-! ## What a listing says -/

/-- A block of the listing. The name of a port has no space at its ends. -/
structure PortBlock where
  name : List Char
  name_ne : name ≠ []
  name_head : ∀ c ∈ name.head?, isSpace c = false
  name_last : ∀ c ∈ name.getLast?, isSpace c = false
  name_noBreak : ∀ c ∈ name, isLineBreak c = false
  device : Word
  address : Word

def PortBlock.lines (block : PortBlock) : List (List Char) :=
  [[], "Hardware Port: ".toList ++ block.name, "Device: ".toList ++ block.device.text,
    "Ethernet Address: ".toList ++ block.address.text]

/-- What follows the last block. -/
def listingTail : List (List Char) :=
  [[], "VLAN Configurations".toList, "===================".toList]

/-- The output of `networksetup -listallhardwareports`. -/
def printListing (blocks : List PortBlock) : List Char :=
  unlines (blocks.flatMap PortBlock.lines ++ listingTail)

def PortBlock.entry (block : PortBlock) : String × String :=
  (String.ofList block.device.text, String.ofList block.name)

theorem PortBlock.strip_name (block : PortBlock) : strip block.name = block.name :=
  strip_eq_self block.name_head block.name_last

/-- A line without spaces at its ends is read as it is. -/
theorem strip_keyed {key value : List Char} (hkey : ∀ c ∈ key.head?, isSpace c = false)
    (hkey_ne : key ≠ []) (hlast : ∀ c ∈ value.getLast?, isSpace c = false) (hne : value ≠ []) :
    strip (key ++ value) = key ++ value := by
  refine strip_eq_self ?_ ?_
  · rwa [List.head?_append_of_ne_nil _ hkey_ne]
  · rwa [List.getLast?_append_of_ne_nil _ hne]

/-- An empty line says nothing. -/
theorem scanPort_blank (scan : PortScan) : scanPort scan [] = scan := by
  rfl

/-- A line with a name starts a port. -/
theorem scanPort_name (scan : PortScan) (block : PortBlock) :
    scanPort scan ("Hardware Port: ".toList ++ block.name) =
      { scan with currentPort := String.ofList block.name } := by
  have hline : strip ("Hardware Port: ".toList ++ block.name) =
      "Hardware Port: ".toList ++ block.name :=
    strip_keyed (by decide) (by decide) block.name_last block.name_ne
  have hvalue : afterColon ("Hardware Port: ".toList ++ block.name) = block.name :=
    @afterColon_word "Hardware Port".toList _ (by decide) block.strip_name
  simp only [scanPort, hline, hvalue]
  rfl

/-- A line with a device ends the port whose name was last. -/
theorem scanPort_device (scan : PortScan) (device : Word) (hport : scan.currentPort ≠ "") :
    scanPort scan ("Device: ".toList ++ device.text) =
      { scan with
        result := PyDict.set scan.result (String.ofList device.text) scan.currentPort } := by
  have hline : strip ("Device: ".toList ++ device.text) = "Device: ".toList ++ device.text :=
    strip_keyed (by decide) (by decide)
      (fun c hc => device.noSpace c (List.mem_of_mem_getLast? hc)) device.ne_nil
  have hvalue : afterColon ("Device: ".toList ++ device.text) = device.text :=
    @afterColon_word "Device".toList _ (by decide) (strip_word device)
  simp only [scanPort, hline, hvalue, if_pos hport]
  rfl

/-- The address is not read. -/
theorem scanPort_address (scan : PortScan) (address : Word) :
    scanPort scan ("Ethernet Address: ".toList ++ address.text) = scan := by
  have hline : strip ("Ethernet Address: ".toList ++ address.text) =
      "Ethernet Address: ".toList ++ address.text :=
    strip_keyed (by decide) (by decide)
      (fun c hc => address.noSpace c (List.mem_of_mem_getLast? hc)) address.ne_nil
  simp only [scanPort, hline]
  rfl

theorem PortBlock.name_text_ne (block : PortBlock) : String.ofList block.name ≠ "" := by
  intro h
  have hlist := congrArg String.toList h
  rw [String.toList_ofList] at hlist
  exact block.name_ne hlist

/-- A block adds its entry. -/
theorem foldl_scanPort_block (scan : PortScan) (block : PortBlock) :
    block.lines.foldl scanPort scan =
      { result := PyDict.set scan.result (String.ofList block.device.text)
          (String.ofList block.name)
        currentPort := String.ofList block.name } := by
  simp only [PortBlock.lines, List.foldl_cons, List.foldl_nil, scanPort_blank, scanPort_name]
  rw [scanPort_device _ _ block.name_text_ne, scanPort_address]

/-- A listing in blocks is scanned to its entries. -/
theorem foldl_scanPort_blocks (blocks : List PortBlock) (scan : PortScan)
    (h : ((scan.result ++ blocks.map PortBlock.entry).map Prod.fst).Nodup) :
    ((blocks.flatMap PortBlock.lines).foldl scanPort scan).result =
      scan.result ++ blocks.map PortBlock.entry := by
  induction blocks generalizing scan with
  | nil => simp
  | cons block blocks ih =>
      have hnew : String.ofList block.device.text ∉ scan.result.map Prod.fst := by
        rw [List.map_append, List.map_cons, List.map_cons] at h
        intro hmem
        exact (List.nodup_append.mp h).2.2 _ hmem _ List.mem_cons_self rfl
      rw [List.flatMap_cons, List.foldl_append, foldl_scanPort_block, ih]
      · simp [PyDict.set_new hnew, PortBlock.entry]
      · simpa [PyDict.set_new hnew, PortBlock.entry] using h

theorem noBreak_lines (block : PortBlock) :
    ∀ line ∈ block.lines, ∀ c ∈ line, isLineBreak c = false := by
  intro line hline
  simp only [PortBlock.lines, List.mem_cons, List.not_mem_nil, or_false] at hline
  rcases hline with rfl | rfl | rfl | rfl
  · simp
  · exact List.forall_mem_append.mpr ⟨by decide, block.name_noBreak⟩
  · exact List.forall_mem_append.mpr ⟨by decide, block.device.noBreak⟩
  · exact List.forall_mem_append.mpr ⟨by decide, block.address.noBreak⟩

/-- A printed listing is read as its blocks, if no device is listed twice. -/
theorem parseInterfaces_print (blocks : List PortBlock)
    (h : ((blocks.map PortBlock.entry).map Prod.fst).Nodup) :
    parseInterfaces (printListing blocks) = blocks.map PortBlock.entry := by
  have hbreaks : ∀ line ∈ blocks.flatMap PortBlock.lines ++ listingTail,
      ∀ c ∈ line, isLineBreak c = false := by
    intro line hline
    rcases List.mem_append.mp hline with hline | hline
    · obtain ⟨block, -, hmem⟩ := List.mem_flatMap.mp hline
      exact noBreak_lines block line hmem
    · have htail : ∀ line ∈ listingTail, ∀ c ∈ line, isLineBreak c = false := by
        decide +kernel
      exact htail line hline
  have htail : ∀ scan, listingTail.foldl scanPort scan = scan := fun _ => rfl
  have hblocks := foldl_scanPort_blocks blocks ⟨[], ""⟩ (by rwa [List.nil_append])
  rw [parseInterfaces, printListing, splitlines_unlines hbreaks, List.foldl_append, htail,
    hblocks, List.nil_append]

/-! ## Which ports are detected -/

/-- The name has a product hint of the shield, or the product name of the
guardian. -/
def Hinted (port : String) : Prop :=
  bootmuxProductHints.any (named · port) = true ∨
    NetworkGuardian.contains (NetworkGuardian.lower bootmuxProduct) (NetworkGuardian.lower port) =
      true

instance (port : String) : Decidable (Hinted port) := inferInstanceAs (Decidable (_ ∨ _))

section Detection

variable {σ : Type} (host : Host σ) (s : σ) (baseline : Baseline)

/-- The device is not in the baseline. -/
def NewDevice (dev : String) : Prop := dev ∉ baseline.interfaces.map Prod.fst

instance (dev : String) : Decidable (NewDevice baseline dev) := inferInstanceAs (Decidable (¬_))

/-- Every new BOOTMUX port is detected. -/
def DetectsAll : Prop :=
  ∀ port ∈ host.hardwarePorts s, NewDevice baseline port.1 → Hinted port.2 →
    port.1 ∈ detectNewExternalEthernet host s baseline

/-- The device is not `lo0` or `awdl0`, and its port's name has one of the
words of the inclusion list, beside `thunderbolt`, and none of the words of
virtual services. -/
def Recognised (port : String × String) : Prop :=
  port.1 ∉ ["lo0", "awdl0"] ∧
    (∀ word ∈ ["tailscale", "vpn", "utun", "loopback", "awdl", "bridge", "thunderbolt"],
      named word port.2 = false) ∧
    ∃ word ∈ ["ethernet", "ncm", "ecm", "rndis"], named word port.2 = true

/-- A port is detected exactly if it is new to the baseline. -/
theorem mem_detect_iff {port : String × String}
    (hnodup : ((host.hardwarePorts s).map Prod.fst).Nodup) (hport : port ∈ host.hardwarePorts s) :
    port.1 ∈ detectNewExternalEthernet host s baseline ↔
      NewDevice baseline port.1 ∧ Recognised port := by
  have hvirtual : isVirtualService port.2 = false ↔
      ∀ word ∈ ["tailscale", "vpn", "utun", "loopback", "awdl", "bridge", "thunderbolt"],
        named word port.2 = false := by
    simp only [isVirtualService, List.any_eq_false, Bool.not_eq_true]
  constructor
  · intro hmem
    obtain ⟨found, hfound, hkey⟩ := List.mem_map.mp hmem
    obtain ⟨hlisted, htest⟩ := List.mem_filter.mp hfound
    have hsame : found = port := PyDict.eq_of_key hnodup hlisted hport hkey
    subst hsame
    simp only [Bool.and_eq_true, Bool.not_eq_true', Bool.or_eq_false_iff] at htest
    obtain ⟨⟨⟨hnew, hplain⟩, hreal⟩, hincluded⟩ := htest
    have hwords := hvirtual.mp hreal
    refine ⟨by simpa [NewDevice] using hnew, by simpa using hplain, hwords, ?_⟩
    obtain ⟨word, hword, hnamed⟩ := List.any_eq_true.mp hincluded
    refine ⟨word, ?_, hnamed⟩
    have hother : word ≠ "thunderbolt" := by
      rintro rfl
      have hno := hwords "thunderbolt" (by simp)
      rw [hnamed] at hno
      cases hno
    simpa [hother] using hword
  · rintro ⟨hnew, hplain, hwords, word, hword, hnamed⟩
    refine List.mem_map.mpr ⟨port, List.mem_filter.mpr ⟨hport, ?_⟩, rfl⟩
    have hincluded : ["ethernet", "ncm", "ecm", "rndis", "thunderbolt"].any (named · port.2) =
        true := by
      refine List.any_eq_true.mpr ⟨word, ?_, hnamed⟩
      have hsub : ["ethernet", "ncm", "ecm", "rndis"] ⊆
          ["ethernet", "ncm", "ecm", "rndis", "thunderbolt"] := by
        decide
      exact hsub hword
    simp only [Bool.and_eq_true, Bool.not_eq_true', Bool.or_eq_false_iff, hvirtual.mpr hwords,
      hincluded, and_true]
    exact ⟨by simpa [NewDevice] using hnew, by simpa using hplain⟩

end Detection

/-- **A listing in which no BOOTMUX port is overlooked.** Every new one has a
name of the inclusion list and no word of a virtual service. -/
theorem detects_all_iff {σ : Type} (host : Host σ) (listing : σ → List Char) (s : σ)
    (baseline : Baseline) :
    DetectsAll (listingHost host listing) s baseline ↔
      ∀ port ∈ parseInterfaces (listing s), NewDevice baseline port.1 → Hinted port.2 →
        Recognised port := by
  have hnodup : (((listingHost host listing).hardwarePorts s).map Prod.fst).Nodup :=
    parseInterfaces_nodup (listing s)
  constructor
  · intro hall port hport hnew hhint
    exact ((mem_detect_iff _ s baseline hnodup hport).mp (hall port hport hnew hhint)).2
  · intro hall port hport hnew hhint
    exact (mem_detect_iff _ s baseline hnodup hport).mpr ⟨hnew, hall port hport hnew hhint⟩

/-! ## The bridge itself -/

def deviceWord (text : String) (ne_nil : text.toList ≠ [])
    (noSpace : ∀ c ∈ text.toList, isSpace c = false) : Word :=
  ⟨text.toList, ne_nil, noSpace⟩

/-- The experimental bridge, as macOS lists it when it is plugged in. -/
def bridgeBlock : PortBlock where
  name := bootmuxProduct.toList
  name_ne := by decide
  name_head := by decide
  name_last := by decide
  name_noBreak := by decide
  device := deviceWord "en7" (by decide) (by decide)
  address := deviceWord "02:02:84:6a:96:00" (by decide) (by decide)

/-- A Mac whose listing the bridge has joined since the baseline. -/
def bridgedHost : Host Mac := listingHost macHost fun _ => printListing [bridgeBlock]

/-- The product's own name is that of a virtual service, and the bridge goes
undetected. -/
theorem bridge_overlooked :
    ¬DetectsAll bridgedHost homeMac (captureBaseline macHost homeMac) := by
  intro hall
  have hread : parseInterfaces (printListing [bridgeBlock]) = [("en7", bootmuxProduct)] :=
    parseInterfaces_print [bridgeBlock] (by decide)
  have hports : bridgedHost.hardwarePorts homeMac = [("en7", bootmuxProduct)] := hread
  have hnone : detectNewExternalEthernet bridgedHost homeMac (captureBaseline macHost homeMac) =
      [] := by
    rw [detectNewExternalEthernet, hports]
    decide +kernel
  have hfound := hall ("en7", bootmuxProduct) (by rw [hports]; exact List.mem_singleton_self _)
    (by decide +kernel) (by decide +kernel)
  rw [hnone] at hfound
  cases hfound

end Bootmux.AttachShield
