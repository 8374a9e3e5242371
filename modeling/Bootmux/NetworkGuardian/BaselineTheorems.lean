/-
Bootmux.NetworkGuardian.BaselineTheorems — what of a Wi-Fi configuration
survives the way through the parsers of `SystemHost` into a baseline and
back through R3 and R4.

`MacWifi` is what is relied on of macOS: what its tools print of a
configuration, and what the commands of R3 and R4 change in it. The
router of a manual configuration is never read, so R3 leaves every manual
baseline alone; the servers that are no IPv4 addresses are not read, so R4
neither restores them nor sees them.

The module goes the way of the values. The outputs of the tools are printed
from a configuration, and one lemma for each tool says what its parser makes
of them; `restores` runs the plans on the result and compares what they
leave with the configuration of the capture. Address, servers and domains
are decided each on their own, and the condition (`restorable`) is their
conjunction on the two configurations, the one captured and the one found.
-/
import Bootmux.NetworkGuardian.Daemon
import Bootmux.NetworkGuardian.ServiceTheorems

namespace Bootmux.NetworkGuardian

open Bootmux.Lib
open Bootmux.Lib.PyText

/-! ## Configurations -/

inductive Ipv4Config where
  | dhcp
  | manual (address mask router : String)
  deriving DecidableEq, Repr

/-- What macOS keeps for the Wi-Fi service. No servers or domains means
automatic ones. -/
structure WifiConfig where
  ipv4 : Ipv4Config
  dns : List Word
  search : List Word
  deriving DecidableEq

def wordString (word : Word) : String := String.ofList word.text

/-- The server is written with digits and dots. -/
def ipv4Server (server : Word) : Bool := server.text.all fun c => isDecimal c || c == '.'

/-- The lines that print a list, or the text for none. -/
def listOutput (none : String) (values : List Word) : List Char :=
  if values.isEmpty then unlines [none.toList] else unlines (values.map Word.text)

def noServersText : String := "There aren't any DNS Servers set on "

def noDomainsText : String := "There aren't any Search Domains set on "

def noServers (service : String) : String := noServersText ++ service ++ "."

def noDomains (service : String) : String := noDomainsText ++ service ++ "."

/-- macOS with a Wi-Fi `device` and its `service`: what its tools print, and
what the commands that set the configuration do. -/
structure MacWifi {σ : Type} (sys : System σ) (device service : String) where
  config : σ → WifiConfig
  device_ne : device ≠ ""
  service_ne : service ≠ ""
  service_noBreak : ∀ c ∈ service.toList, isLineBreak c = false
  device_found : ∀ s, (systemHost sys).wifiDevice s = some device
  service_found : ∀ s, serviceForInterface ((systemHost sys).services s) device = some service
  packet_dhcp : ∀ s, (config s).ipv4 = .dhcp →
    ∃ out, output sys s ["ipconfig", "getpacket", device] = some out ∧ strip out ≠ []
  packet_manual : ∀ s, (config s).ipv4 ≠ .dhcp →
    ∀ out, output sys s ["ipconfig", "getpacket", device] = some out → strip out = []
  dns_printed : ∀ s, output sys s ["networksetup", "-getdnsservers", service] =
    some (listOutput (noServers service) (config s).dns)
  search_printed : ∀ s, output sys s ["networksetup", "-getsearchdomains", service] =
    some (listOutput (noDomains service) (config s).search)
  set_dhcp : ∀ s, config (sys.cmd s ["ipconfig", "set", device, "DHCP"]).1 =
    { config s with ipv4 := .dhcp }
  set_manual : ∀ s address mask router,
    config (sys.cmd s ["networksetup", "-setmanual", service, address, mask, router]).1 =
      { config s with ipv4 := .manual address mask router }
  set_dns : ∀ s values, values.map wordString ≠ ["Empty"] → values ≠ [] →
    config (sys.cmd s (["networksetup", "-setdnsservers", service] ++
      values.map wordString)).1 = { config s with dns := values }
  clear_dns : ∀ s, config (sys.cmd s ["networksetup", "-setdnsservers", service, "Empty"]).1 =
    { config s with dns := [] }
  set_search : ∀ s values, values.map wordString ≠ ["Empty"] → values ≠ [] →
    config (sys.cmd s (["networksetup", "-setsearchdomains", service] ++
      values.map wordString)).1 = { config s with search := values }
  clear_search : ∀ s,
    config (sys.cmd s ["networksetup", "-setsearchdomains", service, "Empty"]).1 =
      { config s with search := [] }

/-! ## Reading a configuration -/

theorem wordString_injective : Function.Injective wordString := by
  rintro ⟨a, ha, ha'⟩ ⟨b, hb, hb'⟩ h
  obtain rfl : a = b := String.ofList_inj.mp h
  rfl

theorem map_wordString_inj {a b : List Word} : a.map wordString = b.map wordString ↔ a = b :=
  (List.map_injective_iff.mpr wordString_injective).eq_iff

/-- The lines of printed words. -/
theorem splitlines_words (values : List Word) :
    (splitlines (unlines (values.map Word.text))).map strip = values.map Word.text := by
  rw [splitlines_unlines, List.map_map]
  · exact List.map_congr_left fun word _ => strip_word word
  · intro line hline
    obtain ⟨word, -, rfl⟩ := List.mem_map.mp hline
    exact word.noBreak

/-- The pattern of a server takes the words that are dotted quads. -/
theorem matchAt_serverPattern (word : Word) :
    (serverPattern.matchAt word.text).isSome = ipv4Server word := by
  have hnewline : '\n' ∉ word.text := fun h => absurd (word.noBreak _ h) (by decide)
  rw [Bool.eq_iff_iff]
  exact (Regex.isSome_matchAt_many_stop hnewline).trans (by simp [word.ne_nil, ipv4Server])

/-- Of a list of words the parser keeps the quads. -/
theorem parseServers_words (values : List Word) :
    parseServers (unlines (values.map Word.text)) =
      (values.filter ipv4Server).map wordString := by
  rw [parseServers, splitlines_words, List.filter_map, List.map_map]
  congr 1
  refine List.filter_congr fun word _ => ?_
  simp [word.ne_nil, matchAt_serverPattern]

/-- No word starts with the text for no domains, which has a space. -/
theorem not_isPrefixOf_lower (word : Word) :
    "there aren".toList.isPrefixOf (lower (wordString word)) = false := by
  by_contra h
  rw [Bool.not_eq_false, List.isPrefixOf_iff_prefix] at h
  have hmem : ' ' ∈ lower (wordString word) := h.subset (by decide)
  have hspace := mem_of_mem_toLower hmem (by decide)
  rw [wordString, String.toList_ofList] at hspace
  exact absurd (word.noSpace _ hspace) (by decide)

/-- Of the search domains it keeps every word. -/
theorem parseSearch_words (values : List Word) :
    parseSearch (unlines (values.map Word.text)) = values.map wordString := by
  rw [parseSearch, splitlines_words, List.filter_map, List.map_map, List.filter_eq_self.mpr]
  · rfl
  · intro word _
    have hnot := not_isPrefixOf_lower word
    rw [wordString] at hnot
    simp only [Function.comp_apply, ne_eq, word.ne_nil, not_false_eq_true, decide_true,
      Bool.true_and, hnot, Bool.not_false]

section Printed

variable {service : String} (hservice : ∀ c ∈ service.toList, isLineBreak c = false)

/-- The line that prints an empty list. -/
theorem splitlines_message {text : String} (hne : text.toList ≠ [])
    (htext : ∀ c ∈ text.toList, isLineBreak c = false)
    (hhead : ∀ c ∈ text.toList.head?, isSpace c = false)
    (hservice : ∀ c ∈ service.toList, isLineBreak c = false) :
    (splitlines (unlines [(text ++ service ++ ".").toList])).map strip =
      [text.toList ++ service.toList ++ ['.']] := by
  have hlist : (text ++ service ++ ".").toList = text.toList ++ service.toList ++ ['.'] := by
    simp
  rw [hlist, splitlines_unlines]
  · rw [List.map_singleton, strip_eq_self]
    · rw [List.append_assoc, List.head?_append_of_ne_nil _ hne]
      exact hhead
    · simp
      decide
  · simp only [List.mem_singleton, forall_eq, List.forall_mem_append]
    exact ⟨⟨htext, hservice⟩, by decide⟩

theorem noBreak_noServersText : ∀ c ∈ noServersText.toList, isLineBreak c = false := by
  decide

theorem noBreak_noDomainsText : ∀ c ∈ noDomainsText.toList, isLineBreak c = false := by
  decide

include hservice in
/-- The text that says there are no servers has none in it. -/
theorem parseServers_listOutput (values : List Word) :
    parseServers (listOutput (noServers service) values) =
      (values.filter ipv4Server).map wordString := by
  unfold listOutput
  split
  · rename_i hempty
    rw [List.isEmpty_iff] at hempty
    subst hempty
    rw [parseServers, noServers,
      splitlines_message (by decide) noBreak_noServersText (by decide) hservice,
      List.filter_cons_of_neg]
    · rfl
    · -- The text starts with a letter.
      have hnewline : '\n' ∉ noServersText.toList ++ service.toList ++ ['.'] := by
        simp only [List.mem_append, not_or]
        exact ⟨⟨by decide, fun h => absurd (hservice _ h) (by decide)⟩, by decide⟩
      intro h
      rw [Bool.and_eq_true] at h
      have hall := ((Regex.isSome_matchAt_many_stop hnewline).mp h.2).2
      have hfirst := List.all_eq_true.mp hall 'T'
        (List.mem_append_left _ (List.mem_append_left _ (by decide)))
      exact absurd hfirst (by decide)
  · exact parseServers_words values

include hservice in
theorem parseSearch_listOutput (values : List Word) :
    parseSearch (listOutput (noDomains service) values) = values.map wordString := by
  unfold listOutput
  split
  · rename_i hempty
    rw [List.isEmpty_iff] at hempty
    subst hempty
    rw [parseSearch, noDomains,
      splitlines_message (by decide) noBreak_noDomainsText (by decide) hservice,
      List.filter_cons_of_neg]
    · rfl
    · have hpre : "there aren".toList <+: lower noDomainsText := by decide
      have hdot : toLower ['.'] = ['.'] := by decide
      have hlower : lower (String.ofList (noDomainsText.toList ++ service.toList ++ ['.'])) =
          lower noDomainsText ++ (lower service ++ ['.']) := by
        simp [lower, toLower_append, hdot, List.append_assoc]
      rw [hlower]
      have hstart := List.isPrefixOf_iff_prefix.mpr (hpre.trans (List.prefix_append _
        (lower service ++ ['.'])))
      rw [hstart]
      simp
  · exact parseSearch_words values

end Printed

section Mac

variable {σ : Type} {sys : System σ} {device service : String} (mac : MacWifi sys device service)

include mac

/-- The mode is read, and the router of a manual configuration is not. -/
theorem systemWifiIpv4_mac (s : σ) :
    (systemWifiIpv4 sys s device).mode =
        some (if (mac.config s).ipv4 = .dhcp then "dhcp" else "manual") ∧
      ((mac.config s).ipv4 ≠ .dhcp → (systemWifiIpv4 sys s device).router = none) := by
  unfold systemWifiIpv4
  by_cases hdhcp : (mac.config s).ipv4 = .dhcp
  · obtain ⟨out, hout, hstrip⟩ := mac.packet_dhcp s hdhcp
    simp [hdhcp, hout, hstrip, Option.filter]
  · have hnone : (output sys s ["ipconfig", "getpacket", device]).filter (strip · ≠ []) = none := by
      rw [Option.filter_eq_none_iff]
      intro out hout
      simp [mac.packet_manual s hdhcp out hout]
    rw [hnone]
    dsimp only
    split <;> simp [hdhcp]

/-- The guardian reads the servers that are IPv4 addresses, and all domains.
-/
theorem systemDns_mac (s : σ) :
    systemDns sys s service =
      ⟨((mac.config s).dns.filter ipv4Server).map wordString,
        (mac.config s).search.map wordString⟩ := by
  rw [systemDns, mac.dns_printed, mac.search_printed, Option.map_some, Option.map_some,
    Option.getD_some, Option.getD_some, parseServers_listOutput mac.service_noBreak,
    parseSearch_listOutput mac.service_noBreak]

/-- What a baseline holds of the configuration. -/
theorem captureBaseline_mac (s : σ) :
    (captureBaseline (systemHost sys) s).wifi.hardwareDevice = some device ∧
      (captureBaseline (systemHost sys) s).wifi.serviceName = some service ∧
      (captureBaseline (systemHost sys) s).wifi.ipv4Mode =
        some (if (mac.config s).ipv4 = .dhcp then "dhcp" else "manual") ∧
      ((mac.config s).ipv4 ≠ .dhcp →
        (captureBaseline (systemHost sys) s).wifi.router = none) ∧
      (captureBaseline (systemHost sys) s).wifi.dnsServers =
        ((mac.config s).dns.filter ipv4Server).map wordString ∧
      (captureBaseline (systemHost sys) s).wifi.searchDomains =
        (mac.config s).search.map wordString := by
  have hdevice : (some device).filter (· ≠ "") = some device := by
    simp [Option.filter, mac.device_ne]
  have hservice : (some service).filter (· ≠ "") = some service := by
    simp [Option.filter, mac.service_ne]
  obtain ⟨hmode, hrouter⟩ := systemWifiIpv4_mac mac s
  unfold captureBaseline
  rw [mac.device_found, hdevice]
  simp only [Option.bind_some, mac.service_found, hservice, Option.map_some, Option.getD_some]
  rw [show (systemHost sys).wifiIpv4 s device = systemWifiIpv4 sys s device from rfl,
    show (systemHost sys).dns s service = systemDns sys s service from rfl, systemDns_mac mac]
  exact ⟨trivial, trivial, hmode, hrouter, rfl, rfl⟩

/-! ## Executing the plans -/

/-- R3 restores DHCP, and leaves every other configuration as it is. -/
theorem config_planR3 (captured later : σ) :
    mac.config (executePlan (systemHost sys) later (planR3Ipv4 (systemHost sys) later
        (some (captureBaseline (systemHost sys) captured)))).1 =
      { mac.config later with
        ipv4 := if (mac.config captured).ipv4 = .dhcp then .dhcp
          else (mac.config later).ipv4 } := by
  obtain ⟨hdevice, hservice, hmode, hrouter, -, -⟩ := captureBaseline_mac mac captured
  have htruthy : truthy (some device) = true := by simp [truthy, mac.device_ne]
  have hlater : ((systemHost sys).wifiIpv4 later device).mode =
      some (if (mac.config later).ipv4 = .dhcp then "dhcp" else "manual") :=
    (systemWifiIpv4_mac mac later).1
  unfold planR3Ipv4
  by_cases hcaptured : (mac.config captured).ipv4 = .dhcp
  · by_cases hdhcp : (mac.config later).ipv4 = .dhcp
    · have hsame : { mac.config later with ipv4 := .dhcp } = mac.config later := by rw [← hdhcp]
      simp [hdevice, htruthy, hmode, hcaptured, hlater, hdhcp, executePlan_fst, hsame]
    · simp [hdevice, htruthy, hmode, hcaptured, hlater, hdhcp, executePlan_fst]
      exact mac.set_dhcp later
  · simp [hdevice, hmode, hcaptured, hrouter hcaptured, truthy, executePlan_fst]

/-- Setting a list with the words of R4. -/
theorem config_setList {f : WifiConfig → List Word → WifiConfig} {option : String}
    (hset : ∀ s values, values.map wordString ≠ ["Empty"] → values ≠ [] →
      mac.config (sys.cmd s (["networksetup", option, service] ++ values.map wordString)).1 =
        f (mac.config s) values)
    (hclear : ∀ s, mac.config (sys.cmd s ["networksetup", option, service, "Empty"]).1 =
      f (mac.config s) []) (s : σ) (values : List Word) :
    mac.config (sys.cmd s (setList option service (values.map wordString))).1 =
      f (mac.config s) (if values.map wordString = ["Empty"] then [] else values) := by
  unfold setList
  by_cases hnil : values = []
  · subst hnil
    simpa using hclear s
  · rw [if_neg (by simpa using hnil)]
    split
    · rename_i hempty
      rw [hempty]
      exact hclear s
    · rename_i hempty
      exact hset s values hempty hnil

/-- R4 sets the servers and the domains that it sees changed. -/
theorem config_planR4 (captured later s : σ) :
    mac.config (executePlan (systemHost sys) s (planR4Dns (systemHost sys) later
        (some (captureBaseline (systemHost sys) captured)))).1 =
      { mac.config s with
        dns := if (mac.config later).dns.filter ipv4Server =
            (mac.config captured).dns.filter ipv4Server then (mac.config s).dns
          else (mac.config captured).dns.filter ipv4Server
        search := if (mac.config later).search = (mac.config captured).search then
            (mac.config s).search
          else if (mac.config captured).search.map wordString = ["Empty"] then []
          else (mac.config captured).search } := by
  obtain ⟨-, hservice, -, -, hdns, hsearch⟩ := captureBaseline_mac mac captured
  have htruthy : truthy (some service) = true := by simp [truthy, mac.service_ne]
  have hlater : (systemHost sys).dns later service = systemDns sys later service := rfl
  -- No word of digits and dots is the word `Empty`.
  have hempty : ∀ values : List Word, (values.filter ipv4Server).map wordString ≠ ["Empty"] := by
    intro values h
    obtain ⟨word, hword, hstring⟩ := List.mem_map.mp (h ▸ List.mem_singleton_self "Empty")
    have htext : word.text = "Empty".toList := by
      rw [← hstring, wordString, String.toList_ofList]
    have hall := List.all_eq_true.mp (List.mem_filter.mp hword).2 'E'
      (by rw [htext]; decide)
    exact absurd hall (by decide)
  have hsetDns := config_setList mac (f := fun config values => { config with dns := values })
    mac.set_dns mac.clear_dns
  have hsetSearch := config_setList mac
    (f := fun config values => { config with search := values }) mac.set_search mac.clear_search
  have hrun : ∀ s argv, ((systemHost sys).run s argv).1 = (sys.cmd s argv).1 := fun _ _ => rfl
  unfold planR4Dns
  simp only [hservice, Option.getD_some, htruthy, Bool.not_true, Bool.false_eq_true, if_false,
    hdns, hsearch, hlater, systemDns_mac mac, ne_eq, map_wordString_inj, executePlan_fst,
    List.foldl_append]
  by_cases hservers : (mac.config later).dns.filter ipv4Server =
      (mac.config captured).dns.filter ipv4Server
  · by_cases hdomains : (mac.config later).search = (mac.config captured).search
    · simp [hservers, hdomains]
    · simp [hservers, hdomains, hrun, hsetSearch]
  · by_cases hdomains : (mac.config later).search = (mac.config captured).search
    · simp [hservers, hdomains, hrun, hsetDns, hempty]
    · simp [hservers, hdomains, hrun, hsetDns, hsetSearch, hempty]

/-- The configuration that R3 and R4, planned at `later`, leave. -/
theorem config_restored (captured later : σ) :
    mac.config (executePlan (systemHost sys) later
        (planR3Ipv4 (systemHost sys) later (some (captureBaseline (systemHost sys) captured)) ++
          planR4Dns (systemHost sys) later
            (some (captureBaseline (systemHost sys) captured)))).1 =
      { ipv4 := if (mac.config captured).ipv4 = .dhcp then .dhcp else (mac.config later).ipv4
        dns := if (mac.config later).dns.filter ipv4Server =
            (mac.config captured).dns.filter ipv4Server then (mac.config later).dns
          else (mac.config captured).dns.filter ipv4Server
        search := if (mac.config later).search = (mac.config captured).search then
            (mac.config later).search
          else if (mac.config captured).search.map wordString = ["Empty"] then []
          else (mac.config captured).search } := by
  rw [executePlan_fst, List.foldl_append, ← executePlan_fst, ← executePlan_fst,
    config_planR4 mac, config_planR3 mac]

/-- A baseline taken at `captured` brings the configuration at `later` back. -/
def restores (captured later : σ) : Prop :=
  mac.config (executePlan (systemHost sys) later
      (planR3Ipv4 (systemHost sys) later (some (captureBaseline (systemHost sys) captured)) ++
        planR4Dns (systemHost sys) later (some (captureBaseline (systemHost sys) captured)))).1 =
    mac.config captured

omit mac in
/-- Each part has not changed, or it can be written into a baseline and the
change is seen: DHCP, IPv4 servers, domains other than the word `Empty`. -/
def restorable (captured later : WifiConfig) : Prop :=
  (captured.ipv4 = .dhcp ∨ later.ipv4 = captured.ipv4) ∧
    (later.dns = captured.dns ∨
      captured.dns.all ipv4Server = true ∧ later.dns.filter ipv4Server ≠ captured.dns) ∧
    (later.search = captured.search ∨ captured.search.map wordString ≠ ["Empty"])

omit mac in
/-- The list is the captured one again if it has not changed, or if that one
has only addresses and the later one shows others. -/
theorem restored_dns_iff {captured later : List Word} :
    (if later.filter ipv4Server = captured.filter ipv4Server then later
      else captured.filter ipv4Server) = captured ↔
      later = captured ∨ captured.all ipv4Server = true ∧ later.filter ipv4Server ≠ captured := by
  have hself : captured.all ipv4Server = true ↔ captured.filter ipv4Server = captured :=
    List.all_eq_true.trans List.filter_eq_self.symm
  rw [hself]
  by_cases hsame : later.filter ipv4Server = captured.filter ipv4Server
  · rw [if_pos hsame]
    constructor
    · exact .inl
    · rintro (h | ⟨hall, hseen⟩)
      · exact h
      · exact absurd (hsame.trans hall) hseen
  · rw [if_neg hsame]
    constructor
    · exact fun h => .inr ⟨h, fun hseen => hsame (hseen.trans h.symm)⟩
    · rintro (rfl | ⟨hall, -⟩)
      · exact absurd rfl hsame
      · exact hall

/-- **A captured configuration is restored exactly if each part of it is
unchanged or restorable.** -/
theorem baseline_restores_iff (captured later : σ) :
    restores mac captured later ↔ restorable (mac.config captured) (mac.config later) := by
  rw [restores, config_restored mac]
  generalize mac.config captured = captured
  generalize mac.config later = later
  obtain ⟨ipv4, dns, search⟩ := captured
  simp only [WifiConfig.mk.injEq, restorable, restored_dns_iff]
  refine and_congr ?_ (and_congr_right fun _ => ?_)
  · by_cases hdhcp : ipv4 = .dhcp
    · simp [hdhcp]
    · simp [hdhcp]
  · by_cases hsearch : later.search = search
    · simp [hsearch]
    · by_cases hempty : search.map wordString = ["Empty"]
      · have hne : search ≠ [] := by
          rintro rfl
          simp at hempty
        simp [hsearch, hempty, hne.symm]
      · simp [hsearch, hempty]

end Mac

/-! ## A manual configuration -/

def toWord (text : String) : Option Word :=
  if h : text.toList ≠ [] ∧ ∀ c ∈ text.toList, isSpace c = false then
    some ⟨text.toList, h.1, h.2⟩
  else none

/-- The list that the words of a command set. -/
def setWords (values : List String) : List Word :=
  if values = ["Empty"] then [] else values.filterMap toWord

def macPorts : List Char := "Hardware Port: Wi-Fi\nDevice: en0\n".toList

def macPacket : List Char := "op = BOOTREPLY\n".toList

/-- A Mac by its Wi-Fi configuration. -/
def macSystem : System WifiConfig where
  cmd config argv :=
    if argv = ["networksetup", "-listallhardwareports"] then
      (config, 0, String.ofList macPorts)
    else if argv = ["networksetup", "-listnetworkserviceorder"] then
      (config, 0, String.ofList (orderOutput [wifiEntry]))
    else if argv = ["ipconfig", "getpacket", "en0"] then
      if config.ipv4 = .dhcp then (config, 0, String.ofList macPacket) else (config, 1, "")
    else if argv = ["networksetup", "-getdnsservers", "Wi-Fi"] then
      (config, 0, String.ofList (listOutput (noServers "Wi-Fi") config.dns))
    else if argv = ["networksetup", "-getsearchdomains", "Wi-Fi"] then
      (config, 0, String.ofList (listOutput (noDomains "Wi-Fi") config.search))
    else if argv = ["ipconfig", "set", "en0", "DHCP"] then ({ config with ipv4 := .dhcp }, 0, "")
    else
      match argv.take 3, argv.drop 3 with
      | ["networksetup", "-setmanual", "Wi-Fi"], [address, mask, router] =>
          ({ config with ipv4 := .manual address mask router }, 0, "")
      | ["networksetup", "-setdnsservers", "Wi-Fi"], values =>
          ({ config with dns := setWords values }, 0, "")
      | ["networksetup", "-setsearchdomains", "Wi-Fi"], values =>
          ({ config with search := setWords values }, 0, "")
      | _, _ => (config, 127, "")
  time _ := 0

/-- A list is set as it was read, unless it is the word that clears it. -/
theorem setWords_wordString {values : List Word} (h : values.map wordString ≠ ["Empty"]) :
    setWords (values.map wordString) = values := by
  rw [setWords, if_neg h, List.filterMap_map]
  refine (List.filterMap_congr fun word _ => ?_).trans List.filterMap_some
  simpa [toWord, wordString, word.ne_nil] using word.noSpace

theorem wifiDevice_macSystem (config : WifiConfig) :
    (systemHost macSystem).wifiDevice config = some "en0" := by
  have hparse : parseWifiDevice (splitlines macPorts) = some "en0" := by decide
  simp [systemHost, output, macSystem, hparse]

theorem serviceForInterface_macSystem (config : WifiConfig) :
    serviceForInterface ((systemHost macSystem).services config) "en0" = some "Wi-Fi" := by
  have hparse : parseServices (orderOutput [wifiEntry]) = [wifiEntry.service] := by
    rw [parseServices_orderOutput, scan_entries (by simp [wifiEntry, Marker.isNumber])]
    rfl
  have hservices : (systemHost macSystem).services config = [wifiEntry.service] := by
    simp [systemHost, output, macSystem, hparse]
  rw [hservices]
  decide

/-- With DHCP there is a packet to show. -/
theorem packet_macSystem (config : WifiConfig) (hdhcp : config.ipv4 = .dhcp) :
    ∃ out, output macSystem config ["ipconfig", "getpacket", "en0"] = some out ∧
      strip out ≠ [] :=
  ⟨macPacket, by simp [output, macSystem, hdhcp], by decide⟩

def macWifi : MacWifi macSystem "en0" "Wi-Fi" where
  config config := config
  device_ne := by decide
  service_ne := by decide
  service_noBreak := noBreak_wifi
  device_found := wifiDevice_macSystem
  service_found := serviceForInterface_macSystem
  packet_dhcp := packet_macSystem
  packet_manual config hmanual out hout := by simp [output, macSystem, hmanual] at hout
  dns_printed config := by simp [output, macSystem]
  search_printed config := by simp [output, macSystem]
  set_dhcp config := by simp [macSystem]
  set_manual config address mask router := by simp [macSystem]
  set_dns config values hempty hne := by simp [macSystem, setWords_wordString hempty]
  clear_dns config := by simp [macSystem, setWords]
  set_search config values hempty hne := by simp [macSystem, setWords_wordString hempty]
  clear_search config := by simp [macSystem, setWords]

/-- A manual configuration is not brought back once it is replaced. -/
theorem manual_lost :
    ¬ restores macWifi ⟨.manual "192.168.1.99" "255.255.255.0" "192.168.1.1", [], []⟩
      ⟨.dhcp, [], []⟩ := by
  rw [restores, config_restored]
  decide

end Bootmux.NetworkGuardian
