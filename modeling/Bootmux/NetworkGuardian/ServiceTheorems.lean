/-
Bootmux.NetworkGuardian.ServiceTheorems — what `SystemHost.services` reads of
the service order that `networksetup` prints.

A listing is its entries, each a header and the line of its device. The
parser holds the service of the last header it knows; a header with an
asterisk is none, so its service is not listed and the device that
follows goes to the service before.

An entry has a marker, a name, a port and a device as they come, the name
with the blanks that it may have at its ends, which the parser strips. The
scan is followed over the two lines of an entry, once with a header that is
known and once with one that is not; what the scan holds between two entries
is the only thing that is carried on. The condition is on the entries of the
listing, one by one.
-/
import Bootmux.NetworkGuardian.NetstatTheorems
import Bootmux.NetworkGuardian.RepairTheorems

namespace Bootmux.NetworkGuardian

open Bootmux.Lib
open Bootmux.Lib.PyText

/-! ## The listing -/

inductive Marker where
  | number (n : Nat)
  | asterisk
  deriving DecidableEq, Repr

def Marker.isNumber : Marker → Bool
  | .number _ => true
  | .asterisk => false

def Marker.text : Marker → List Char
  | .number n => Nat.toDigits 10 n
  | .asterisk => ['*']

def portText : List Char := "(Hardware Port:".toList

def deviceText : List Char := "Device:".toList

/-- An entry, of texts without line breaks. -/
structure ServiceEntry where
  marker : Marker
  name : List Char
  port : List Char
  device : List Char
  name_noBreak : ∀ c ∈ name, isLineBreak c = false
  port_noBreak : ∀ c ∈ port, isLineBreak c = false
  device_noBreak : ∀ c ∈ device, isLineBreak c = false

namespace ServiceEntry

variable (entry : ServiceEntry)

def header : List Char := '(' :: (entry.marker.text ++ (')' :: ' ' :: entry.name))

def deviceLine : List Char :=
  portText ++ ' ' :: (entry.port ++ ',' :: ([] ++ ' ' ::
    (deviceText ++ ([' '] ++ (entry.device ++ [')'])))))

def lines : List (List Char) := [entry.header, entry.deviceLine, []]

/-- The name begins with neither a space nor an asterisk, and does not end in a
space. -/
def NamePlain : Prop :=
  (∀ c ∈ entry.name.head?, isSpace c = false ∧ c ≠ '*') ∧
    ∀ c ∈ entry.name.getLast?, isSpace c = false

/-- The device has no space in it, and no other device is found in the name of
the port. -/
def DevicePlain : Prop :=
  (∀ c ∈ entry.device, isSpace c = false) ∧
    ∀ m ∈ devicePattern.search entry.port, m.get 0 = entry.device

instance : Decidable entry.NamePlain := inferInstanceAs (Decidable (_ ∧ _))

instance : Decidable entry.DevicePlain := inferInstanceAs (Decidable (_ ∧ _))

end ServiceEntry

def orderTitle : List Char := "An asterisk (*) denotes that a network service is disabled.".toList

/-- The output of `networksetup -listnetworkserviceorder`. -/
def orderOutput (entries : List ServiceEntry) : List Char :=
  unlines (orderTitle :: entries.flatMap ServiceEntry.lines)

/-! ## The lines one by one -/

theorem toDigits_isDecimal (n : Nat) : ∀ c ∈ Nat.toDigits 10 n, isDecimal c = true :=
  fun _ hc => isDecimal_of_isDigit (Nat.isDigit_of_mem_toDigits (by decide) (by decide) hc)

/-- A header without a number is no header. -/
theorem matchAt_headPattern_none {c : Char} (rest : List Char) (h : isDecimal c = false) :
    headPattern.matchAt ('(' :: c :: rest) = none := by
  have hgroup : (Regex.group (.many 1 isDecimal)).find (c :: rest) = [] := by
    rw [Regex.find_group, Regex.find_many_nil Nat.one_ne_zero (by simpa using h), List.map_nil]
  have hlit : (word "(").find ('(' :: c :: rest) = [⟨['('], [], c :: rest⟩] :=
    Regex.find_lit_append ['('] (c :: rest)
  refine Regex.matchAt_of_find_nil ?_
  rw [headPattern, pattern_cons_cons, pattern_cons_cons, Regex.find_seq, hlit,
    List.flatMap_singleton, Regex.find_seq_nil hgroup, List.map_nil]

/-- The spaces before a name are not read. -/
theorem matchAt_header {entry : ServiceEntry} {n : Nat} (h : entry.marker = .number n) :
    ∃ text, headPattern.matchAt entry.header =
      some ⟨text, [Nat.toDigits 10 n, entry.name.dropWhile isSpace], []⟩ := by
  let name := entry.name.dropWhile isSpace
  let spaces := ' ' :: entry.name.takeWhile isSpace
  have hchars : ∀ c ∈ name, anyChar c = true := by
    intro c hc
    have hbreak := entry.name_noBreak c ((List.dropWhile_sublist isSpace).subset hc)
    by_contra h
    rw [show c = '\n' by simpa [anyChar] using h] at hbreak
    exact absurd hbreak (by decide)
  have hspaces : ∀ c ∈ spaces, isSpace c = true := by
    rw [List.forall_mem_cons]
    exact ⟨by decide, List.all_eq_true.mp List.all_takeWhile⟩
  have hhead : ∀ c ∈ (name ++ []).head?, isSpace c = false := by
    intro c hc
    have hnot := List.head?_dropWhile_not isSpace entry.name
    rw [List.append_nil] at hc
    rwa [show (entry.name.dropWhile isSpace).head? = some c from hc] at hnot
  have hname : (Regex.group (.many 0 anyChar)).matchAt (name ++ []) = _ :=
    Regex.matchAt_group (Regex.matchAt_many hchars (by simp) (Nat.zero_le _))
  have hspace : (Regex.many 1 isSpace).matchAt (spaces ++ (name ++ [])) = _ :=
    Regex.matchAt_many hspaces hhead (by simp [spaces])
  have hclose : (word ")").matchAt ([')'] ++ (spaces ++ (name ++ []))) = _ :=
    Regex.matchAt_lit [')'] _
  have hdigits : (Regex.group (.many 1 isDecimal)).matchAt
      (Nat.toDigits 10 n ++ ([')'] ++ (spaces ++ (name ++ [])))) = _ :=
    Regex.matchAt_group (Regex.matchAt_many (toDigits_isDecimal n) (by simp; decide)
      (List.length_pos_iff.mpr Nat.toDigits_ne_nil))
  have hopen : (word "(").matchAt
      (['('] ++ (Nat.toDigits 10 n ++ ([')'] ++ (spaces ++ (name ++ []))))) = _ :=
    Regex.matchAt_lit ['('] _
  have hall := Regex.matchAt_seq hopen (Regex.matchAt_seq hdigits (Regex.matchAt_seq hclose
    (Regex.matchAt_seq hspace (Regex.matchAt_seq hname Regex.matchAt_stop))))
  have hheader : entry.header =
      ['('] ++ (Nat.toDigits 10 n ++ ([')'] ++ (spaces ++ (name ++ [])))) := by
    simp [ServiceEntry.header, h, Marker.text, spaces, name, List.takeWhile_append_dropWhile]
  rw [hheader]
  exact ⟨_, hall⟩

/-- What follows the port on its line. -/
def ServiceEntry.deviceTail (entry : ServiceEntry) : List Char :=
  ',' :: ([] ++ ' ' :: (deviceText ++ ([' '] ++ (entry.device ++ [')']))))

/-- The pattern does not look past the comma of the next field. -/
theorem local_devicePattern (rest : List Char) : devicePattern.Local (',' :: ' ' :: rest) :=
  Regex.local_seq (Regex.local_lit (by decide)) (Regex.local_seq (Regex.local_many (by decide))
    (Regex.local_many_lit (by decide) (by decide) (by decide)))

/-- A device is looked for in the port first. -/
theorem search_port (entry : ServiceEntry) :
    (devicePattern.search entry.deviceLine).map (·.get 0) =
      ((devicePattern.search entry.port).map (·.get 0)).or
        ((devicePattern.search entry.deviceTail).map (·.get 0)) := by
  have hskip : devicePattern.search entry.deviceLine =
      devicePattern.search (entry.port ++ entry.deviceTail) :=
    Regex.search_append_cons (by decide) (by decide) (by decide)
  have hlocal : devicePattern.Local entry.deviceTail := local_devicePattern _
  rw [hskip, hlocal.search]
  cases devicePattern.search entry.port with
  | none => simp only [Option.map_none, Option.none_or]
  | some m => rfl

/-- The device is found, or none if the entry has none. -/
theorem search_deviceTail {entry : ServiceEntry} (h : ∀ c ∈ entry.device, isSpace c = false) :
    (devicePattern.search entry.deviceTail).map (·.get 0) =
      if entry.device = [] then none else some entry.device := by
  have hskip : devicePattern.search entry.deviceTail =
      devicePattern.search (deviceText ++ ([' '] ++ (entry.device ++ [')']))) := by
    have hne : deviceText ≠ [] := by decide
    have hspace : ' ' ∉ deviceText := by decide
    have hcomma : ',' ∉ deviceText := by decide
    have hnil : ¬ deviceText <:+: [] := by decide
    exact (Regex.search_append_cons (l := []) hne hcomma hnil).trans
      (Regex.search_append_cons hne hspace hnil)
  have hlit : (word "Device:").matchAt (deviceText ++ ([' '] ++ (entry.device ++ [')']))) =
      _ := Regex.matchAt_lit _ _
  rw [hskip]
  by_cases hempty : entry.device = []
  · have hnone : devicePattern.search (deviceText ++ ([' '] ++ ([] ++ [')']))) = none := by
      decide
    rw [if_pos hempty, hempty, hnone, Option.map_none]
  · have hhead : ∀ c ∈ (entry.device ++ [')']).head?, isSpace c = false := by
      intro c hc
      rw [List.head?_append_of_ne_nil _ hempty] at hc
      exact h c (List.mem_of_mem_head? hc)
    have hspace : (Regex.many 1 isSpace).matchAt ([' '] ++ (entry.device ++ [')'])) = _ :=
      Regex.matchAt_many (by decide) hhead (by simp)
    have hdevice : (Regex.seq (.group (.many 1 notSpace)) (.lit [')'])).matchAt
        (entry.device ++ [')']) = _ :=
      Regex.matchAt_many_lit hempty (fun c hc => by simp [notSpace, h c hc]) (by decide)
    have hall : devicePattern.matchAt (deviceText ++ ([' '] ++ (entry.device ++ [')']))) = _ :=
      Regex.matchAt_seq hlit (Regex.matchAt_seq hspace hdevice)
    rw [Regex.search_of_matchAt hall, if_neg hempty]
    rfl

/-- A device that is found has no space in it. -/
theorem noSpace_of_search {cs : List Char} {m : Regex.Match}
    (h : devicePattern.search cs = some m) :
    ∀ c ∈ m.get 0, isSpace c = false := by
  obtain ⟨rest, hm⟩ := Regex.exists_mem_find_of_search h
  rw [devicePattern, pattern_cons_cons, pattern_cons_cons, pattern_cons_cons] at hm
  simp only [Regex.find_seq, List.mem_flatMap, List.mem_map] at hm
  obtain ⟨lit, hlit, more, ⟨spaces, hspaces, last, ⟨group, hgroup, close, -, rfl⟩, rfl⟩, rfl⟩ := hm
  obtain ⟨hgroups, hchars⟩ := Regex.group_many hgroup
  have hnone : lit.groups = [] ∧ spaces.groups = [] := by
    simp only [word, Regex.find_lit, Regex.find_many] at hlit hspaces
    split at hlit
    · rw [List.mem_singleton.mp hlit]
      obtain ⟨n, -, rfl⟩ := List.mem_map.mp hspaces
      exact ⟨rfl, rfl⟩
    · cases hlit
  intro c hc
  have hnot := hchars c (by simpa [Regex.Match.get, hnone, hgroups] using hc)
  simpa [notSpace] using hnot

/-- The device that the line of an entry is read with. -/
def ServiceEntry.readDevice (entry : ServiceEntry) : List Char :=
  ((devicePattern.search entry.deviceLine).map (·.get 0)).getD []

/-- A device is read as it is exactly if it is plain. -/
theorem readDevice_eq_iff (entry : ServiceEntry) :
    entry.readDevice = entry.device ↔ entry.DevicePlain := by
  constructor
  · intro hread
    have hnoSpace : ∀ c ∈ entry.device, isSpace c = false := by
      rw [← hread, ServiceEntry.readDevice]
      cases hsearch : devicePattern.search entry.deviceLine with
      | none => simp
      | some m => exact noSpace_of_search hsearch
    refine ⟨hnoSpace, fun m hm => ?_⟩
    rw [← hread, ServiceEntry.readDevice, search_port, hm]
    rfl
  · rintro ⟨hnoSpace, hport⟩
    rw [ServiceEntry.readDevice, search_port]
    cases hsearch : devicePattern.search entry.port with
    | some m => exact hport m hsearch
    | none =>
        rw [Option.map_none, Option.none_or, search_deviceTail hnoSpace]
        split
        · rename_i hempty
          rw [hempty]
          rfl
        · rfl

theorem matchAt_deviceLine (entry : ServiceEntry) : headPattern.matchAt entry.deviceLine = none :=
  matchAt_headPattern_none (c := 'H') _ (by decide)

theorem matchAt_nil : headPattern.matchAt [] = none := by decide

/-! ## The scan -/

/-- The services a scan has read so far. -/
def ServiceScan.services (scan : ServiceScan) : List Service := scan.done ++ scan.current.toList

/-- What an entry with a number is read as. -/
def ServiceEntry.service (entry : ServiceEntry) : Service where
  order := intOfDecimal entry.marker.text
  name := serviceName (entry.name.dropWhile isSpace)
  device := some (String.ofList entry.readDevice)
  enabled := true

/-- A line that is no header starts no service. -/
theorem length_scanService {line : List Char} (h : headPattern.matchAt line = none)
    (scan : ServiceScan) : (scanService scan line).services.length = scan.services.length := by
  unfold scanService
  rw [h]
  dsimp only
  split
  · cases hcurrent : scan.current <;> simp [ServiceScan.services, hcurrent]
  · rfl

/-- The lines of a numbered entry add its service. -/
theorem scan_lines_number {entry : ServiceEntry} (h : entry.marker.isNumber = true)
    (scan : ServiceScan) :
    entry.lines.foldl scanService scan = ⟨scan.services, some entry.service⟩ := by
  match hmarker : entry.marker, h with
  | .number n, _ =>
      obtain ⟨text, hheader⟩ := matchAt_header hmarker
      have hfirst : scanService scan entry.header =
          ⟨scan.services, some { entry.service with device := some "" }⟩ := by
        simp [scanService, hheader, ServiceScan.services, ServiceEntry.service, hmarker,
          Marker.text, Regex.Match.get]
      have hsecond : scanService ⟨scan.services, some { entry.service with device := some "" }⟩
          entry.deviceLine = ⟨scan.services, some entry.service⟩ := by
        unfold scanService
        rw [matchAt_deviceLine]
        cases hsearch : devicePattern.search entry.deviceLine with
        | none => simp [ServiceEntry.service, ServiceEntry.readDevice, hsearch]
        | some m => simp [ServiceEntry.service, ServiceEntry.readDevice, hsearch]
      have hthird : ∀ scan, scanService scan [] = scan := by
        intro scan
        simp [scanService, matchAt_nil, show devicePattern.search [] = none by decide]
      simp [ServiceEntry.lines, hfirst, hsecond, hthird]

/-- Those of a disabled one add none. -/
theorem length_scan_asterisk {entry : ServiceEntry} (h : entry.marker.isNumber = false)
    (scan : ServiceScan) :
    (entry.lines.foldl scanService scan).services.length = scan.services.length := by
  match hmarker : entry.marker, h with
  | .asterisk, _ =>
      have hheader : headPattern.matchAt entry.header = none := by
        rw [ServiceEntry.header, hmarker]
        exact matchAt_headPattern_none (c := '*') _ (by decide)
      simp only [ServiceEntry.lines, List.foldl_cons, List.foldl_nil]
      rw [length_scanService matchAt_nil, length_scanService (matchAt_deviceLine entry),
        length_scanService hheader]

/-- Entries with numbers are read one by one. -/
theorem scan_entries {entries : List ServiceEntry}
    (h : ∀ entry ∈ entries, entry.marker.isNumber = true) (scan : ServiceScan) :
    ((entries.flatMap ServiceEntry.lines).foldl scanService scan).services =
      scan.services ++ entries.map ServiceEntry.service := by
  induction entries generalizing scan with
  | nil => simp
  | cons entry entries ih =>
      rw [List.forall_mem_cons] at h
      rw [List.flatMap_cons, List.foldl_append, scan_lines_number h.1, ih h.2]
      simp [ServiceScan.services]

/-- Each entry with a number gives one service, the others none. -/
theorem length_scan_entries (entries : List ServiceEntry) (scan : ServiceScan) :
    ((entries.flatMap ServiceEntry.lines).foldl scanService scan).services.length =
      scan.services.length + (entries.filter (·.marker.isNumber)).length := by
  induction entries generalizing scan with
  | nil => simp
  | cons entry entries ih =>
      rw [List.flatMap_cons, List.foldl_append, ih]
      cases h : entry.marker.isNumber with
      | true =>
          rw [scan_lines_number h, List.filter_cons_of_pos (by exact h)]
          simp only [ServiceScan.services, Option.toList_some, List.length_append,
            List.length_cons, List.length_nil]
          omega
      | false =>
          rw [length_scan_asterisk h, List.filter_cons_of_neg (by simp [h])]

theorem noBreak_orderOutput (entries : List ServiceEntry) :
    ∀ line ∈ orderTitle :: entries.flatMap ServiceEntry.lines,
      ∀ c ∈ line, isLineBreak c = false := by
  have htitle : ∀ c ∈ orderTitle, isLineBreak c = false := by decide
  have hport : ∀ c ∈ portText, isLineBreak c = false := by decide
  have hdeviceText : ∀ c ∈ deviceText, isLineBreak c = false := by decide
  have hmarker : ∀ (marker : Marker), ∀ c ∈ marker.text, isLineBreak c = false := by
    rintro (n | _) c hc
    · by_contra h
      have hspace := isSpace_of_isLineBreak (by simpa using h)
      rw [isSpace_of_isDigit (Nat.isDigit_of_mem_toDigits (by decide) (by decide) hc)] at hspace
      cases hspace
    · rw [List.mem_singleton.mp hc]
      decide
  have hspaces : ∀ c ∈ ['(', ')', ' ', ','], isLineBreak c = false := by decide
  intro line hline
  rcases List.mem_cons.mp hline with rfl | hline
  · exact htitle
  · obtain ⟨entry, -, hline⟩ := List.mem_flatMap.mp hline
    simp only [ServiceEntry.lines, List.mem_cons, List.not_mem_nil, or_false] at hline
    rcases hline with rfl | rfl | rfl
    · simp only [ServiceEntry.header, List.forall_mem_cons, List.forall_mem_append]
      exact ⟨hspaces _ (by simp), hmarker _, hspaces _ (by simp), hspaces _ (by simp),
        entry.name_noBreak⟩
    · rw [ServiceEntry.deviceLine]
      simp only [List.forall_mem_append, List.forall_mem_cons]
      exact ⟨hport, hspaces _ (by simp), entry.port_noBreak, hspaces _ (by simp), by simp,
        hspaces _ (by simp), hdeviceText, ⟨hspaces _ (by simp), by simp⟩,
        entry.device_noBreak, hspaces _ (by simp), by simp⟩
    · simp

/-- The title starts no service. -/
theorem parseServices_orderOutput (entries : List ServiceEntry) :
    parseServices (orderOutput entries) =
      ((entries.flatMap ServiceEntry.lines).foldl scanService ⟨[], none⟩).services := by
  have htitle : scanService ⟨[], none⟩ orderTitle = ⟨[], none⟩ := by
    have hhead : headPattern.matchAt orderTitle = none := by decide
    have hdevice : devicePattern.search orderTitle = none := by decide
    simp [scanService, hhead, hdevice]
  rw [parseServices, orderOutput, splitlines_unlines (noBreak_orderOutput entries),
    List.foldl_cons, htitle, ServiceScan.services]

/-- A name is read as it stands exactly if it is plain. -/
theorem serviceName_eq_iff (entry : ServiceEntry) :
    serviceName (entry.name.dropWhile isSpace) = String.ofList entry.name ↔ entry.NamePlain := by
  unfold serviceName ServiceEntry.NamePlain
  rw [String.ofList_inj]
  cases hname : entry.name with
  | nil => simp [strip, stripOf]
  | cons c name =>
      by_cases hstart : isSpace c = false ∧ c ≠ '*'
      swap
      · -- The first character is cut off.
        have hshort : (strip (((c :: name).dropWhile isSpace).dropWhile
            fun c => c == '*' || c == ' ')).length ≤ name.length := by
          refine (length_strip_le _).trans ?_
          by_cases hspace : isSpace c = true
          · rw [List.dropWhile_cons_of_pos hspace]
            exact ((List.dropWhile_sublist _).trans (List.dropWhile_sublist _)).length_le
          · have hstar : c = '*' := by
              by_contra hne
              exact hstart ⟨by simpa using hspace, hne⟩
            rw [List.dropWhile_cons_of_neg hspace, List.dropWhile_cons_of_pos (by simp [hstar])]
            exact (List.dropWhile_sublist _).length_le
        constructor
        · intro h
          rw [h, List.length_cons] at hshort
          omega
        · intro h
          exact absurd (h.1 c rfl) hstart
      obtain ⟨hspace, hstar⟩ := hstart
      have hne : c ≠ ' ' := by
        rintro rfl
        exact absurd hspace (by decide)
      rw [List.dropWhile_cons_of_neg (by simp [hspace]),
        List.dropWhile_cons_of_neg (by simp [hstar, hne])]
      constructor
      · intro h
        refine ⟨fun d hd => ?_, ?_⟩
        · obtain rfl := Option.some.inj hd
          exact ⟨hspace, hstar⟩
        · rw [← h]
          exact getLast?_strip (c :: name)
      · rintro ⟨-, hlast⟩
        exact strip_eq_self (fun d hd => by obtain rfl := Option.some.inj hd; exact hspace) hlast

/-! ## What the guardian sees -/

/-- The service of the identified interface is looked up by the interface. -/
theorem proveIdentity_service {σ : Type} (host : Host σ) (s : σ) {iface : String}
    (h : (proveIdentity host s).interface = some iface) :
    (proveIdentity host s).service = serviceForInterface (host.services s) iface := by
  unfold proveIdentity at h ⊢
  split at h
  · cases h
  · dsimp only at h ⊢
    split at h
    · rename_i henough
      obtain rfl := Option.some.inj h
      rw [if_pos henough]
    · rename_i hfew
      obtain rfl := Option.some.inj h
      rw [if_neg hfew]
  · cases h

/-- What the listing says of an entry: name, device and whether it is
enabled. -/
def ServiceEntry.listed (entry : ServiceEntry) : String × Option String × Bool :=
  (String.ofList entry.name, some (String.ofList entry.device), entry.marker.isNumber)

/-- The service that the listing binds to an interface. -/
def boundService (entries : List ServiceEntry) (iface : String) : Option String :=
  (entries.find? fun entry => String.ofList entry.device == iface).map fun entry =>
    String.ofList entry.name

section Seen

variable {σ : Type} (sys : System σ) (s : σ)

/-- The services are the entries of the listing, and the service of the
identified interface, which R2 disables, is the one bound to it. -/
structure SeesServices (entries : List ServiceEntry) : Prop where
  services : ((systemHost sys).services s).map (fun svc => (svc.name, svc.device, svc.enabled)) =
    entries.map ServiceEntry.listed
  identified : ∀ iface, (proveIdentity (systemHost sys) s).interface = some iface →
    (proveIdentity (systemHost sys) s).service = boundService entries iface
  disabled : ∀ iface, (proveIdentity (systemHost sys) s).interface = some iface →
    ∀ c ∈ planR2Service (systemHost sys) s (proveIdentity (systemHost sys) s),
      c.targetService = boundService entries iface

/-- A lookup by the device sees names and devices only. -/
theorem serviceForInterface_listed {services : List Service} {entries : List ServiceEntry}
    (h : services.map (fun svc => (svc.name, svc.device, svc.enabled)) =
      entries.map ServiceEntry.listed) (iface : String) :
    serviceForInterface services iface = boundService entries iface := by
  induction services generalizing entries with
  | nil =>
      obtain rfl : entries = [] := by simpa using h
      rfl
  | cons svc services ih =>
      match entries, h with
      | entry :: entries, h =>
          rw [List.map_cons, List.map_cons, List.cons.injEq] at h
          have ih := ih h.2
          simp only [ServiceEntry.listed, Prod.mk.injEq] at h
          simp only [serviceForInterface, boundService, List.find?_cons, h.1.2.1] at ih ⊢
          cases hdevice : String.ofList entry.device == iface with
          | true => simp [hdevice, h.1.1]
          | false => simpa [hdevice] using ih

/-- **The guardian sees the services exactly if none is disabled and every name
and every device is plain.** -/
theorem services_seen_iff (entries : List ServiceEntry)
    (hout : output sys s ["networksetup", "-listnetworkserviceorder"] =
      some (orderOutput entries)) :
    SeesServices sys s entries ↔
      ∀ entry ∈ entries, entry.marker.isNumber = true ∧ entry.NamePlain ∧ entry.DevicePlain := by
  have hservices : (systemHost sys).services s =
      ((entries.flatMap ServiceEntry.lines).foldl scanService ⟨[], none⟩).services := by
    simp [systemHost, hout, parseServices_orderOutput]
  constructor
  · intro h
    have hlength := congrArg List.length h.services
    rw [List.length_map, List.length_map, hservices, length_scan_entries] at hlength
    have hnumbers : ∀ entry ∈ entries, entry.marker.isNumber = true :=
      List.length_filter_eq_length_iff.mp (by simpa [ServiceScan.services] using hlength)
    have hread := h.services
    rw [hservices, scan_entries hnumbers] at hread
    intro entry hentry
    refine ⟨hnumbers entry hentry, ?_⟩
    have heach : ∀ entry ∈ entries, (entry.service.name, entry.service.device,
        entry.service.enabled) = entry.listed := by
      simpa [ServiceScan.services] using hread
    have hfields := heach entry hentry
    simp only [ServiceEntry.service, ServiceEntry.listed, Prod.mk.injEq, Option.some.injEq,
      String.ofList_inj] at hfields
    exact ⟨(serviceName_eq_iff entry).mp hfields.1, (readDevice_eq_iff entry).mp hfields.2.1⟩
  · intro h
    have hread : ((systemHost sys).services s).map
        (fun svc => (svc.name, svc.device, svc.enabled)) = entries.map ServiceEntry.listed := by
      rw [hservices, scan_entries fun entry hentry => (h entry hentry).1]
      simp only [ServiceScan.services, Option.toList_none, List.append_nil, List.nil_append,
        List.map_map]
      refine List.map_congr_left fun entry hentry => ?_
      obtain ⟨hnumber, hname, hdevice⟩ := h entry hentry
      simp [ServiceEntry.service, ServiceEntry.listed, (serviceName_eq_iff entry).mpr hname,
        (readDevice_eq_iff entry).mpr hdevice, hnumber]
    have hbound := serviceForInterface_listed hread
    refine ⟨hread, fun iface hiface => ?_, fun iface hiface c hc => ?_⟩
    · rw [proveIdentity_service _ _ hiface, hbound]
    · obtain ⟨service, hservice, -, -, rfl⟩ := (mem_planR2Service _ _).mp hc
      rw [← hbound, ← proveIdentity_service _ _ hiface, hservice]

end Seen

/-! ## Two listings -/

/-- A host on which only the listing answers. -/
def orderSystem (entries : List ServiceEntry) : System Unit where
  cmd _ argv :=
    if argv = ["networksetup", "-listnetworkserviceorder"] then
      ((), 0, String.ofList (orderOutput entries))
    else ((), 127, "")
  time _ := 0

theorem output_orderSystem (entries : List ServiceEntry) :
    output (orderSystem entries) () ["networksetup", "-listnetworkserviceorder"] =
      some (orderOutput entries) := by
  simp [output, orderSystem]

theorem noBreak_wifi : ∀ c ∈ "Wi-Fi".toList, isLineBreak c = false := by decide

theorem noBreak_en0 : ∀ c ∈ "en0".toList, isLineBreak c = false := by decide

theorem noBreak_en7 : ∀ c ∈ "en7".toList, isLineBreak c = false := by decide

def wifiEntry : ServiceEntry where
  marker := .number 1
  name := "Wi-Fi".toList
  port := "Wi-Fi".toList
  device := "en0".toList
  name_noBreak := noBreak_wifi
  port_noBreak := noBreak_wifi
  device_noBreak := noBreak_en0

/-- The service of the bridge, disabled by an earlier repair. -/
def bridgeEntry : ServiceEntry where
  marker := .asterisk
  name := "BOOTMUX USB Ethernet".toList
  port := "BOOTMUX Bridge Experimental".toList
  device := "en7".toList
  name_noBreak := by decide +kernel
  port_noBreak := by decide +kernel
  device_noBreak := noBreak_en7

theorem services_seen_wifi : SeesServices (orderSystem [wifiEntry]) () [wifiEntry] :=
  (services_seen_iff (orderSystem [wifiEntry]) () [wifiEntry] (output_orderSystem _)).mpr
    (by decide)

/-- The Wi-Fi service is read with the device of the bridge. -/
theorem parseServices_disabled :
    parseServices (orderOutput [wifiEntry, bridgeEntry]) =
      [{ wifiEntry.service with device := some "en7" }] := by
  have hheader : scanService ⟨[], some wifiEntry.service⟩ bridgeEntry.header =
      ⟨[], some wifiEntry.service⟩ := by
    have hhead : headPattern.matchAt bridgeEntry.header = none :=
      matchAt_headPattern_none (c := '*') _ (by decide)
    have hdevice : devicePattern.search bridgeEntry.header = none :=
      Regex.search_eq_none (by decide)
    simp [scanService, hhead, hdevice]
  have hdevice : (devicePattern.search bridgeEntry.deviceLine).map (·.get 0) =
      some "en7".toList := by
    have hport : devicePattern.search bridgeEntry.port = none :=
      Regex.search_eq_none (by decide +kernel)
    have htail : (devicePattern.search bridgeEntry.deviceTail).map (·.get 0) =
        some bridgeEntry.device := (search_deviceTail (by decide)).trans (if_neg (by decide))
    rw [search_port, hport, htail, Option.map_none, Option.none_or, bridgeEntry]
  obtain ⟨m, hm, hget⟩ := Option.map_eq_some_iff.mp hdevice
  have hline : scanService ⟨[], some wifiEntry.service⟩ bridgeEntry.deviceLine =
      ⟨[], some { wifiEntry.service with device := some "en7" }⟩ := by
    simp [scanService, matchAt_deviceLine, hm, hget]
  rw [parseServices_orderOutput]
  simp only [List.flatMap_cons, List.flatMap_nil, List.append_nil, List.foldl_append]
  rw [scan_lines_number (show wifiEntry.marker.isNumber = true from rfl)]
  simp only [ServiceEntry.lines, List.foldl_cons, List.foldl_nil, ServiceScan.services,
    Option.toList_none, List.append_nil, hheader, hline]
  simp [scanService, matchAt_nil, show devicePattern.search [] = none by decide]

/-- So the repair of the bridge would disable the Wi-Fi. -/
theorem disabled_service_misread :
    ¬ SeesServices (orderSystem [wifiEntry, bridgeEntry]) () [wifiEntry, bridgeEntry] ∧
      serviceForInterface ((systemHost (orderSystem [wifiEntry, bridgeEntry])).services ()) "en7" =
        some "Wi-Fi" := by
  have hservices : (systemHost (orderSystem [wifiEntry, bridgeEntry])).services () =
      [{ wifiEntry.service with device := some "en7" }] := by
    rw [← parseServices_disabled]
    simp [systemHost, output_orderSystem]
  refine ⟨fun h => ?_, ?_⟩
  · have hlength := congrArg List.length h.services
    rw [hservices] at hlength
    simp at hlength
  · rw [hservices]
    decide

end Bootmux.NetworkGuardian
