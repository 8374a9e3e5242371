/-
Bootmux.AttachShield.SessionTheorems — an armed session keeps what its
close needs.

`Shielded` is the invariant of a session: the entries of its location are
at the start of the journal, every entry after them can be undone, and
the Mac is `Held` by them. The arming establishes it (`shielded_arm`). A
recovery keeps it when the power of the Wi-Fi is on, when the default
routes that it deletes are of devices that come and go, and when the
configuration that it sets to DHCP was DHCP (`Harmless`).

The module follows the source from the arming on. Each helper of a recovery
has one lemma: under its condition it keeps `Shielded`, and it names the
entries that it adds. The conditions are collected in `Harmless`, on the
state in which a step starts; nothing in it is about the result.

`InSession` adds to the invariant what the close reads from the state file:
the baseline, the pinned routes, the state of PF and the two locations
(`Remembers`). `Armable` is asked of the Mac before the arming: no location
has the name of the session, no route is one of those that will be pinned,
and the routes of the bridge have the interface that their gateway is
reached through.
-/
import Bootmux.AttachShield.RestoreTheorems
import Bootmux.AttachShield.RunTheorems

namespace Bootmux.AttachShield

open Bootmux.Lib

/-- The invariant of a session. -/
def Shielded (first : Mac) (work : String) (header : List Entry) (devices : List String)
    (gateway : String) (sh : Shield Mac) : Prop :=
  ∃ inner, sh.journal = header ++ inner ∧ (∀ e ∈ inner, Undoable first gateway e) ∧
    Held first work devices gateway inner sh.host

section Steps

variable {first : Mac} {work gateway : String} {header : List Entry} {devices : List String}
  {sh : Shield Mac}

/-- A command with its entry. -/
theorem Shielded.mutate (h : Shielded first work header devices gateway sh) {command : Command}
    {category : Category} {target : String} {pre : PreValue}
    (hundo : Undoable first gateway ⟨category, target, some pre, 0⟩)
    (hheld : ∀ inner mac, Held first work devices gateway inner mac →
      Held first work devices gateway (inner ++ [⟨category, target, some pre, 0⟩])
        (mac.apply command)) :
    Shielded first work header devices gateway
      (mutate macHost sh command category target pre).1 := by
  obtain ⟨inner, hjournal, hentries, hhost⟩ := h
  refine ⟨inner ++ [⟨category, target, some pre, 0⟩], ?_, ?_, hheld inner _ hhost⟩
  · rw [← List.append_assoc, ← hjournal]
    rfl
  · intro e he
    rcases List.mem_append.mp he with he | he
    · exact hentries e he
    · rw [List.mem_singleton.mp he]
      exact hundo

/-- Writing the state to its file changes neither host nor journal. -/
theorem Shielded.saveState (h : Shielded first work header devices gateway sh) :
    Shielded first work header devices gateway (sh.saveState macHost) := by
  obtain ⟨inner, hjournal, hentries, hhost⟩ := h
  exact ⟨inner, hjournal, hentries, ⟨⟨hhost.current, hhost.others, hhost.set, hhost.power,
    hhost.reached, hhost.complete⟩, hhost.pf, hhost.sound⟩⟩

/-- Commands without an entry. -/
theorem Shielded.run (h : Shielded first work header devices gateway sh)
    {commands : List Command}
    (hheld : ∀ inner, Held first work devices gateway inner sh.host →
      Held first work devices gateway inner (runAll macHost sh.host commands)) :
    Shielded first work header devices gateway (sh.run macHost commands) := by
  obtain ⟨inner, hjournal, hentries, hhost⟩ := h
  exact ⟨inner, hjournal, hentries, hheld inner hhost⟩

/-! ## Services -/

/-- The baseline knows of each service whether it was enabled. -/
theorem lookup_serviceEnabled {service : String}
    (hservice : service ∈ (captureBaseline macHost first).serviceOrder) :
    ((captureBaseline macHost first).serviceEnabled.lookup service).getD true =
      first.services.enabled service := by
  have hmem : service ∈ first.services.order := by
    simpa [captureBaseline, macHost, Function.comp_def] using hservice
  have hlookup := List.lookup_graph first.services.enabled hmem
  simp [captureBaseline, macHost, hlookup]

theorem serviceOrder_captureBaseline (first : Mac) :
    (captureBaseline macHost first).serviceOrder = first.services.order := by
  simp [captureBaseline, macHost, Function.comp_def]

/-- A service of the baseline is disabled. -/
theorem Shielded.disableService (h : Shielded first work header devices gateway sh)
    {service : String} (hservice : service ∈ (captureBaseline macHost first).serviceOrder) :
    Shielded first work header devices gateway
      (disableService macHost (captureBaseline macHost first) sh service).1 := by
  rw [AttachShield.disableService, lookup_serviceEnabled hservice]
  exact h.mutate (.disabled service) fun _ _ hheld => hheld.disable service

/-- Only services of the baseline resemble a device. -/
theorem mem_resembling {σ : Type} {host : Host σ} {ports : List (String × String)}
    {baseline : Baseline} {iface service : String}
    (h : service ∈ resembling host ports baseline iface) :
    service ∈ baseline.serviceOrder := by
  simp only [resembling] at h
  split at h
  · cases h
  · exact List.mem_of_mem_filter h

/-! ## Quarantine -/

/-- A deleted route is recorded with its gateway, so that it can come back. -/
theorem Shielded.deleteBootmuxRoute (h : Shielded first work header devices gateway sh)
    {route : Route} (hroute : route ∈ first.routes)
    (hreached : ∀ r ∈ first.routes, r.dest = route.dest → r.gateway = route.gateway →
      r.interface = first.reached route.gateway) :
    Shielded first work header devices gateway
      (deleteBootmuxRoute macHost sh (route.dest, route.gateway)) := by
  have hexact : (⟨route.dest, route.gateway, first.reached route.gateway⟩ : Route) ∈
      first.routes := by
    rw [← hreached route hroute rfl rfl]
    exact hroute
  exact h.mutate (.deleted route.dest route.gateway hexact hreached)
    fun _ _ hheld => hheld.deleteRoute none route.dest route.gateway

/-- A route that the quarantine deletes. -/
theorem mem_bootmuxRoutes {routes : List Route} {pair : String × String}
    (h : pair ∈ bootmuxRoutes (routes.map Mac.netstatLine)) :
    ∃ route ∈ routes, pair = (route.dest, route.gateway) := by
  rw [bootmuxRoutes, List.filterMap_map] at h
  obtain ⟨route, hroute, hpair⟩ := List.mem_filterMap.mp h
  change (if inLine bootmuxSubnet (Mac.netstatLine route) = true then
    some (route.dest, route.gateway) else none) = some pair at hpair
  split at hpair
  · exact ⟨route, hroute, (Option.some.inj hpair).symm⟩
  · cases hpair

/-- The services that the quarantine found are disabled. -/
theorem Shielded.disableAll (h : Shielded first work header devices gateway sh)
    (hroutes : sh.host.routes = first.routes) {found : List String}
    (hfound : ∀ service ∈ found, service ∈ (captureBaseline macHost first).serviceOrder)
    (disabled : List String) :
    let after := (found.foldl (fun (acc : Shield Mac × List String) service =>
      let (sh, exitCode) :=
        AttachShield.disableService macHost (captureBaseline macHost first) acc.1 service
      (sh, if exitCode = 0 then acc.2 ++ [service] else acc.2)) (sh, disabled)).1
    Shielded first work header devices gateway after ∧ after.host.routes = first.routes := by
  refine List.foldlRecOn (motive := fun (acc : Shield Mac × List String) =>
    Shielded first work header devices gateway acc.1 ∧ acc.1.host.routes = first.routes)
    found _ ⟨h, hroutes⟩ ?_
  intro acc hacc service hservice
  exact ⟨hacc.1.disableService (hfound service hservice), hacc.2⟩

/-- The quarantine is recorded, and leaves the other devices alone. -/
theorem Shielded.quarantineBootmux (h : Shielded first work header devices gateway sh)
    (hroutes : sh.host.routes = first.routes)
    (hreached : ∀ pair ∈ bootmuxRoutes (first.routes.map Mac.netstatLine), ∀ r ∈ first.routes,
      r.dest = pair.1 → r.gateway = pair.2 → r.interface = first.reached pair.2) :
    Shielded first work header devices gateway
      (quarantineBootmux macHost (captureBaseline macHost first) sh).1 := by
  have hfound : ∀ service ∈
      identifyBootmuxServices macHost sh.host (captureBaseline macHost first),
      service ∈ (captureBaseline macHost first).serviceOrder :=
    fun _ hservice => (mem_identifyBootmuxServices.mp hservice).1
  obtain ⟨hdisabled, hsame⟩ := h.disableAll hroutes hfound []
  have hdeleted : ∀ after : Shield Mac, Shielded first work header devices gateway after →
      after.host.routes = first.routes → Shielded first work header devices gateway
        ((bootmuxRoutes (macHost.netstat after.host)).foldl
          (AttachShield.deleteBootmuxRoute macHost) after) := by
    intro after hafter hsame
    refine List.foldlRecOn _ _ hafter ?_
    intro sh hsh pair hpair
    change pair ∈ bootmuxRoutes (after.host.routes.map Mac.netstatLine) at hpair
    rw [hsame] at hpair
    obtain ⟨route, hroute, rfl⟩ := mem_bootmuxRoutes hpair
    exact hsh.deleteBootmuxRoute hroute (hreached _ hpair)
  have hrest := hdeleted _ hdisabled hsame
  simp only [AttachShield.quarantineBootmux]
  split
  · rename_i hwifi
    rw [serviceOrder_captureBaseline] at hwifi ⊢
    exact hrest.mutate (.ordered hwifi.2) fun _ _ hheld => hheld.reorder _
  · exact hrest

/-! ## Pinned routes -/

/-- A pinned route is recorded whether the command succeeds or not. -/
theorem Shielded.pinRoute (h : Shielded first work header devices gateway sh) (family : Family)
    {dest : String} (hdest : dest ∈ splitRoutes) (hgateway : gateway ≠ "") :
    Shielded first work header devices gateway (pinRoute macHost family gateway sh dest).1 :=
  h.mutate (.pinned family dest hdest hgateway) fun _ _ hheld => hheld.pin family hdest hgateway

/-- The texts of the pinned routes. -/
def pinnedTexts (gateway : String) : List String :=
  splitRoutesV4.map (routeEntry .inet · gateway) ++ splitRoutesV6.map (routeEntry .inet6 · gateway)

/-- All pinned routes have destinations of the shield's own. -/
theorem Shielded.pinSplitRoutes (h : Shielded first work header devices gateway sh)
    {device : String} (hdevice : device ≠ "") :
    Shielded first work header devices gateway (pinSplitRoutes macHost gateway device sh).1 ∧
      (pinSplitRoutes macHost gateway device sh).2.1 =
        if gateway = "" then [] else pinnedTexts gateway := by
  by_cases hgateway : gateway = ""
  · simp only [AttachShield.pinSplitRoutes, hgateway, true_or, if_true]
    exact ⟨hgateway ▸ h, trivial⟩
  · simp only [AttachShield.pinSplitRoutes, hgateway, hdevice, or_self, if_false]
    have hlow : "0.0.0.0/1" ∈ splitRoutes := by decide
    have hhigh : "128.0.0.0/1" ∈ splitRoutes := by decide
    have hlow6 : "::/1" ∈ splitRoutes := by decide
    have hhigh6 : "8000::/1" ∈ splitRoutes := by decide
    have hv4 := (h.pinRoute .inet hlow hgateway).pinRoute .inet hhigh hgateway
    exact ⟨(hv4.pinRoute .inet6 hlow6 hgateway).pinRoute .inet6 hhigh6 hgateway, rfl⟩

end Steps

/-! ## Arming -/

/-- A Mac is in one of its locations, and the gateway of its default route is
a word. -/
structure Mac.WellFormed (mac : Mac) : Prop where
  current : mac.current ≠ ""
  location : (mac.locations mac.current).isSome = true
  gateway : ∀ c ∈ mac.defaultRoute.1.toList, PyText.isSpace c = false

/-- A Mac on which the arming changes nothing that the journal cannot put
back: the name of the temporary location is new, the routes that the
quarantine deletes are over the interface that their gateway is reached
through, and none of the routes that the shield pins is there. -/
structure Mac.Armable (mac : Mac) (sessionId : String) : Prop where
  fresh : mac.locations (shieldLocationPrefix ++ sessionId) = none
  reached : ∀ pair ∈ bootmuxRoutes (mac.routes.map Mac.netstatLine), ∀ r ∈ mac.routes,
    r.dest = pair.1 → r.gateway = pair.2 → r.interface = mac.reached pair.2
  unpinned : ∀ r ∈ mac.routes, ¬isPinned mac.defaultRoute.1 r

/-- The temporary location of a session. -/
def ShieldState.location (st : ShieldState) : Option String :=
  if st.locationMode then some st.shieldLocation else none

/-- The entries of a temporary location. -/
def locationEntries (location : Option String) (original : String) : List Entry :=
  location.elim [] fun name =>
    [⟨.locationCreate, name, some { existed := some false }, 0⟩,
      ⟨.locationSwitch, "network_location", some { location := some original }, 0⟩]

/-- What a session remembers of the Mac that it was armed on. -/
structure Remembers (first : Mac) (sessionId : String) (st : ShieldState) : Prop where
  baseline : st.baseline = captureBaseline macHost first
  pinnedRoutes : st.pinnedRoutes =
    if first.defaultRoute.1 = "" then [] else pinnedTexts first.defaultRoute.1
  pfWasEnabled : st.pfWasEnabled = first.pfEnabled
  originalLocation : st.originalLocation = first.current
  location : ∀ name ∈ st.location, name = shieldLocationPrefix ++ sessionId

/-- An armed session of a Mac. -/
structure InSession (first : Mac) (sessionId : String) (devices : List String)
    (state : Shield Mac × ShieldState) : Prop where
  remembers : Remembers first sessionId state.2
  shielded : Shielded first (state.2.location.getD first.current)
    (locationEntries state.2.location first.current) devices first.defaultRoute.1 state.1

section Arm

variable {first : Mac} {sessionId : String}

/-- In the location of the owner. -/
theorem held_first (hwell : first.WellFormed) (devices : List String) (gateway : String) :
    Held first first.current devices gateway [] first where
  current := rfl
  others _ _ := rfl
  set _ := by
    obtain ⟨set, hset⟩ := Option.isSome_iff_exists.mp hwell.location
    refine ⟨set, hset, ?_⟩
    rw [Mac.services, hset]
    exact Disturbed.refl set []
  power := rfl
  reached := rfl
  complete _ hr _ := .inl hr
  pf h := h
  sound _ hr _ := .inl hr

/-- In a new location. -/
theorem held_isolated {name : String} (hname : name ≠ first.current) (devices : List String)
    (gateway : String) (set : Option NetworkSet) :
    Held first name devices gateway []
      { first with current := name, locations := Function.update first.locations name set } where
  current := rfl
  others _ hother := Function.update_of_ne hother _ _
  set h := absurd h hname
  power := rfl
  reached := rfl
  complete _ hr _ := .inl hr
  pf h := h
  sound _ hr _ := .inl hr

/-- The name of a temporary location is not that of the current one. -/
theorem shieldLocation_ne (hwell : first.WellFormed) (harmable : first.Armable sessionId) :
    shieldLocationPrefix ++ sessionId ≠ first.current := by
  intro heq
  have hlocation := hwell.location
  rw [← heq, harmable.fresh] at hlocation
  cases hlocation

/-- What the arming does before the quarantine. -/
theorem isolate_spec (hwell : first.WellFormed) (harmable : first.Armable sessionId)
    (devices : List String) (gateway : String) :
    ∃ sh location, isolate macHost sessionId ⟨first, []⟩ = (sh, location) ∧
      sh.host.routes = first.routes ∧ sh.journal = locationEntries location first.current ∧
      Held first (location.getD first.current) devices gateway [] sh.host ∧
      ∀ name ∈ location, name = shieldLocationPrefix ++ sessionId := by
  by_cases hsupported : first.locationSupported = true
  · have hisolate : isolate macHost sessionId ⟨first, []⟩ =
        (⟨{ first with
            current := shieldLocationPrefix ++ sessionId
            locations := Function.update first.locations (shieldLocationPrefix ++ sessionId)
              (some first.populated) },
          locationEntries (some (shieldLocationPrefix ++ sessionId)) first.current⟩,
          some (shieldLocationPrefix ++ sessionId)) := by
      simp [isolate, createShieldLocation, macHost, hsupported, harmable.fresh, Mac.apply,
        locationEntries]
    refine ⟨_, _, hisolate, rfl, rfl, ?_, by simp⟩
    exact held_isolated (shieldLocation_ne hwell harmable) devices gateway _
  · have hisolate : isolate macHost sessionId ⟨first, []⟩ = (⟨first, []⟩, none) := by
      simp [isolate, macHost, hsupported]
    exact ⟨_, _, hisolate, rfl, rfl, held_first hwell devices gateway, by simp⟩

/-- What the arming remembers. -/
theorem cmdArm_isolated {sh : Shield Mac} {location : Option String}
    (hisolate : isolate macHost sessionId ⟨first, []⟩ = (sh, location))
    (hwifi : (captureBaseline macHost first).wifiDevice ≠ "") (now ttl : ℚ) :
    let pinned := pinSplitRoutes macHost first.defaultRoute.1
      (captureBaseline macHost first).wifiDevice
      (quarantineBootmux macHost (captureBaseline macHost first) sh).1
    ∃ st, cmdArm macHost sessionId now ttl first = some (pinned.1.saveState macHost, st) ∧
      st.baseline = captureBaseline macHost first ∧ st.pinnedRoutes = pinned.2.1 ∧
      st.pfWasEnabled = first.pfEnabled ∧ st.originalLocation = first.current ∧
      st.location = location := by
  intro pinned
  refine ⟨_, by simp only [cmdArm, hwifi, if_false, hisolate]; rfl, ?_⟩
  refine ⟨rfl, rfl, rfl, rfl, ?_⟩
  cases location with
  | none => rfl
  | some name => rfl

/-- The arming. -/
theorem inSession_arm (hwell : first.WellFormed) (harmable : first.Armable sessionId)
    (hwifi : (captureBaseline macHost first).wifiDevice ≠ "") (now ttl : ℚ)
    (devices : List String) :
    ∃ armed, cmdArm macHost sessionId now ttl first = some armed ∧
      InSession first sessionId devices armed := by
  obtain ⟨sh, location, hisolate, hroutes, hjournal, hheld, hname⟩ :=
    isolate_spec hwell harmable devices first.defaultRoute.1
  obtain ⟨st, harm, hbaseline, hpinned, hpf, horiginal, hlocation⟩ :=
    cmdArm_isolated hisolate hwifi now ttl
  have hshielded : Shielded first (location.getD first.current)
      (locationEntries location first.current) devices first.defaultRoute.1 sh :=
    ⟨[], by rw [hjournal, List.append_nil], by simp, hheld⟩
  obtain ⟨hsession, htexts⟩ :=
    (hshielded.quarantineBootmux hroutes harmable.reached).pinSplitRoutes hwifi
  refine ⟨_, harm, ⟨hbaseline, hpinned.trans htexts, hpf, horiginal, ?_⟩, ?_⟩
  · rw [hlocation]
    exact hname
  · rw [hlocation]
    exact hsession.saveState

end Arm

/-! ## Default routes of devices -/

/-- As many of the first routes to a destination as it is named are of
`devices`. -/
def Owned (devices dests : List String) (routes : List Route) : Prop :=
  ∀ dest ∈ dests, ∀ r ∈ (routes.filter (·.dest == dest)).take (dests.count dest),
    r.interface ∈ devices

/-- The default routes that a recovery deletes are of `devices`. -/
def OwnedDefaults (devices untrusted : List String) (routes : List Route) : Prop :=
  Owned devices (untrustedDefaults untrusted (routes.map Mac.netstatLine)) routes

section EraseP

variable {α : Type} {p q : α → Bool}

theorem filter_eraseP_self (l : List α) : (l.eraseP p).filter p = (l.filter p).tail := by
  induction l with
  | nil => rfl
  | cons a l ih =>
      by_cases ha : p a = true
      · rw [List.eraseP_cons_of_pos ha, List.filter_cons_of_pos ha, List.tail_cons]
      · rw [List.eraseP_cons_of_neg ha, List.filter_cons_of_neg ha, List.filter_cons_of_neg ha, ih]

theorem filter_eraseP_of_disjoint (hpq : ∀ a, p a = true → ¬q a = true) (l : List α) :
    (l.eraseP p).filter q = l.filter q := by
  induction l with
  | nil => rfl
  | cons a l ih =>
      by_cases ha : p a = true
      · rw [List.eraseP_cons_of_pos ha, List.filter_cons_of_neg (hpq a ha)]
      · rw [List.eraseP_cons_of_neg ha, List.filter_cons, List.filter_cons, ih]

/-- What is erased is the first. -/
theorem mem_eraseP_or {a : α} {l : List α} (ha : a ∈ l) :
    a ∈ l.eraseP p ∨ a ∈ (l.filter p).take 1 := by
  induction l with
  | nil => cases ha
  | cons b l ih =>
      by_cases hb : p b = true
      · rw [List.eraseP_cons_of_pos hb, List.filter_cons_of_pos hb]
        rcases List.mem_cons.mp ha with rfl | ha
        · exact .inr (by simp)
        · exact .inl ha
      · rw [List.eraseP_cons_of_neg hb, List.filter_cons_of_neg hb]
        rcases List.mem_cons.mp ha with rfl | ha
        · exact .inl List.mem_cons_self
        · exact (ih ha).imp_left (List.mem_cons_of_mem b)

end EraseP

section Owned

variable {devices dests : List String} {dest : String} {routes : List Route}

/-- The defaults that are left belong to the devices too. -/
theorem Owned.tail (h : Owned devices (dest :: dests) routes) :
    Owned devices dests (Mac.dropRoute dest routes) := by
  intro other hmem r hr
  have hcount := h other (List.mem_cons_of_mem dest hmem)
  by_cases hother : other = dest
  · subst hother
    rw [List.count_cons_self] at hcount
    rw [Mac.dropRoute, filter_eraseP_self] at hr
    refine hcount r ?_
    cases hsame : routes.filter (·.dest == other) with
    | nil => simp [hsame] at hr
    | cons head rest =>
        rw [hsame, List.tail_cons] at hr
        rw [List.take_succ_cons]
        exact List.mem_cons_of_mem head hr
  · rw [List.count_cons_of_ne (Ne.symm hother)] at hcount
    have hdisjoint : ∀ r : Route, (r.dest == dest) = true → ¬(r.dest == other) = true := by
      intro r hr hr'
      exact hother ((beq_iff_eq.mp hr').symm.trans (beq_iff_eq.mp hr))
    rw [Mac.dropRoute, filter_eraseP_of_disjoint hdisjoint] at hr
    exact hcount r hr

/-- Dropping the defaults of the devices leaves the other routes. -/
theorem Owned.mem_dropRoute (h : Owned devices (dest :: dests) routes) {r : Route}
    (hr : r ∈ routes) (hdevice : r.interface ∉ devices) : r ∈ Mac.dropRoute dest routes := by
  rcases mem_eraseP_or (p := (·.dest == dest)) hr with hmem | hfirst
  · exact hmem
  · have hcount := h dest List.mem_cons_self r
    rw [List.count_cons_self] at hcount
    exact absurd (hcount (List.take_subset_take_left _ (by omega) hfirst)) hdevice

end Owned

/-! ## Recovery -/

section Recovery

variable {first : Mac} {work gateway : String} {header : List Entry} {devices : List String}
  {sh : Shield Mac}

theorem Shielded.pfInstallAnchor (h : Shielded first work header devices gateway sh)
    (iface : String) :
    Shielded first work header devices gateway
      (pfInstallAnchor macHost iface (captureBaseline macHost first).pfEnabled sh).1 := by
  have hanchor := h.mutate .anchored fun _ _ hheld => hheld.loadAnchor iface
  simp only [AttachShield.pfInstallAnchor]
  split
  · exact hanchor
  · rename_i hpf
    exact hanchor.mutate (.pfEnabled (Bool.not_eq_true _ ▸ hpf)) fun _ _ hheld => hheld.enablePf

/-- Q1 and Q2 leave the routes. -/
theorem Shielded.recoverBlock (acc : Shield Mac × Steps)
    (h : Shielded first work header devices gateway acc.1) (untrusted : List String) :
    let after := recoverBlock macHost (captureBaseline macHost first) untrusted acc
    Shielded first work header devices gateway after.1 ∧
      after.1.host.routes = acc.1.host.routes := by
  refine List.foldlRecOn (motive := fun (after : Shield Mac × Steps) =>
    Shielded first work header devices gateway after.1 ∧
      after.1.host.routes = acc.1.host.routes) untrusted _ ⟨h, rfl⟩ ?_
  intro after hafter iface _
  refine ⟨hafter.1.pfInstallAnchor iface, ?_⟩
  rw [← hafter.2]
  simp only [AttachShield.pfInstallAnchor]
  split
  · rfl
  · rfl

theorem Shielded.recoverServices (acc : Shield Mac × Steps)
    (h : Shielded first work header devices gateway acc.1) (untrusted : List String) :
    let after := recoverServices macHost (captureBaseline macHost first) untrusted acc
    Shielded first work header devices gateway after.1 ∧
      after.1.host.routes = acc.1.host.routes := by
  refine List.foldlRecOn (motive := fun (after : Shield Mac × Steps) =>
    Shielded first work header devices gateway after.1 ∧
      after.1.host.routes = acc.1.host.routes) _ _ ⟨h, rfl⟩ ?_
  intro after hafter service hservice
  obtain ⟨iface, -, hmem⟩ := List.mem_flatMap.mp hservice
  exact ⟨hafter.1.disableService (mem_resembling hmem), hafter.2⟩

/-- Q3, from a list of destinations. -/
theorem Shielded.deleteDefaults {dests : List String} (acc : Shield Mac × Steps)
    (h : Shielded first work header devices gateway acc.1)
    (howned : Owned devices dests acc.1.host.routes) :
    Shielded first work header devices gateway
      (dests.foldl (fun (acc : Shield Mac × Steps) dest =>
        (acc.1.run macHost [.routeDelete none dest none], acc.2.set (.q3 dest) .ok)) acc).1 := by
  induction dests generalizing acc with
  | nil => exact h
  | cons dest dests ih =>
      have hrun : Shielded first work header devices gateway
          (acc.1.run macHost [.routeDelete none dest none]) :=
        h.run fun _ hheld => hheld.withRoutes
          (fun _ hr hdevice => howned.mem_dropRoute hr hdevice)
          fun _ hr _ => List.mem_of_mem_eraseP hr
      exact ih (acc.1.run macHost [.routeDelete none dest none], acc.2.set (.q3 dest) .ok) hrun
        howned.tail

/-- The recovery deletes the defaults of the devices only. -/
theorem Shielded.recoverRoutes (acc : Shield Mac × Steps)
    (h : Shielded first work header devices gateway acc.1) {untrusted : List String}
    (howned : OwnedDefaults devices untrusted acc.1.host.routes) :
    Shielded first work header devices gateway (recoverRoutes macHost untrusted acc).1 :=
  Shielded.deleteDefaults acc h howned

/-- The recovery sets the configuration that was first. -/
theorem Held.ipv4Commands {inner : List Entry} {mac : Mac}
    (h : Held first work devices gateway inner mac)
    (hdhcp : work = first.current → (captureBaseline macHost first).wifiService ≠ "" →
      (captureBaseline macHost first).ipv4Mode = "DHCP" →
      first.services.ipv4 (captureBaseline macHost first).wifiService = .dhcp) :
    Held first work devices gateway inner
      (runAll macHost mac (ipv4Commands (captureBaseline macHost first))) := by
  rw [AttachShield.ipv4Commands]
  split
  · rename_i hmode
    exact h.dhcp fun hwork => hdhcp hwork hmode.1 hmode.2
  · exact h

/-- The servers that are set are those that were read. -/
theorem Held.dnsCommands {inner : List Entry} {mac : Mac}
    (h : Held first work devices gateway inner mac) :
    Held first work devices gateway inner
      (runAll macHost mac (dnsCommands (captureBaseline macHost first))) := by
  have hfirst := h.firstDns (captureBaseline macHost first).wifiService
  rw [AttachShield.dnsCommands]
  split
  · exact h
  · rename_i hservice
    have hdns : (captureBaseline macHost first).dns =
        Mac.nameList (first.services.dns (captureBaseline macHost first).wifiService) := by
      simp only [captureBaseline] at hservice ⊢
      exact if_pos hservice
    rw [hdns]
    by_cases hempty : first.services.dns (captureBaseline macHost first).wifiService = []
    · rw [hempty] at hfirst ⊢
      exact hfirst
    · simp only [Mac.nameList, beq_iff_eq, hempty, if_false]
      exact hfirst

/-- And the order that was first. -/
theorem Held.orderCommands {inner : List Entry} {mac : Mac}
    (h : Held first work devices gateway inner mac) :
    Held first work devices gateway inner
      (runAll macHost mac (orderCommands (captureBaseline macHost first))) := by
  rw [AttachShield.orderCommands, serviceOrder_captureBaseline]
  split
  · exact h
  · exact h.firstOrder

/-- Q4 to Q6. -/
theorem Shielded.recoverBaseline (acc : Shield Mac × Steps)
    (h : Shielded first work header devices gateway acc.1)
    (hdhcp : work = first.current → (captureBaseline macHost first).wifiService ≠ "" →
      (captureBaseline macHost first).ipv4Mode = "DHCP" →
      first.services.ipv4 (captureBaseline macHost first).wifiService = .dhcp) :
    Shielded first work header devices gateway
      (recoverBaseline macHost (captureBaseline macHost first) acc).1 := by
  refine h.run fun inner hheld => ?_
  rw [runAll_append, runAll_append]
  exact (hheld.ipv4Commands hdhcp).dnsCommands.orderCommands

/-- Q7 and Q8. -/
theorem Shielded.recoverWifi (acc : Shield Mac × Steps)
    (h : Shielded first work header devices gateway acc.1) (hpower : first.wifiPower = true)
    (baseline : Baseline) :
    Shielded first work header devices gateway (recoverWifi macHost baseline acc).1 ∧
      Shielded first work header devices gateway (recoverIncomplete macHost baseline acc).1 := by
  have hcycle : Shielded first work header devices gateway
      (acc.1.run macHost (powerCycle baseline.wifiDevice)) :=
    h.run fun _ hheld => hheld.cycle hpower baseline.wifiDevice
  constructor
  · rw [AttachShield.recoverWifi]
    split
    · exact h
    · exact hcycle
  · rw [recoverIncomplete]
    split
    · exact hcycle
    · exact h

/-- **A recovery** records what it changes, or changes it to what was first.
-/
theorem Shielded.runRecovery (h : Shielded first work header devices gateway sh)
    {untrusted : List String} (hpower : sh.host.wifiPower = true)
    (howned : OwnedDefaults devices untrusted sh.host.routes)
    (hdhcp : work = first.current → (captureBaseline macHost first).wifiService ≠ "" →
      (captureBaseline macHost first).ipv4Mode = "DHCP" →
      first.services.ipv4 (captureBaseline macHost first).wifiService = .dhcp) :
    Shielded first work header devices gateway
      (runRecovery macHost (captureBaseline macHost first) untrusted sh).1 := by
  have hfirst : first.wifiPower = true := by
    obtain ⟨inner, -, -, hheld⟩ := h
    exact hheld.power.symm.trans hpower
  -- Q1 and Q2 leave the routes that Q3 reads.
  obtain ⟨hblocked, hroutes⟩ := Shielded.recoverBlock (sh, []) h untrusted
  obtain ⟨hdisabled, hsame⟩ := Shielded.recoverServices _ hblocked untrusted
  rw [← hsame.trans hroutes] at howned
  have hdefaults := Shielded.recoverRoutes _ hdisabled howned
  have hbaseline := Shielded.recoverBaseline _ hdefaults hdhcp
  have hwifi := (Shielded.recoverWifi _ hbaseline hfirst (captureBaseline macHost first)).1
  exact (Shielded.recoverWifi _ hwifi hfirst (captureBaseline macHost first)).2

end Recovery

/-! ## Sessions -/

def Ipv4Config.isOther : Ipv4Config → Bool
  | .other _ => true
  | _ => false

/-- A step that a session can take back: before a recovery the power of the
Wi-Fi is on, the default routes that it deletes are of `devices`, and a
configuration that the shield does not know is in another location. -/
def Harmless (devices : List String) (state : Shield Mac × ShieldState) : Event → Prop
  | .recover untrusted =>
      state.1.host.wifiPower = true ∧
      OwnedDefaults devices untrusted state.1.host.routes ∧
      (state.2.locationMode = true ∨ state.2.baseline.wifiService = "" ∨
        (state.1.host.services.ipv4 state.2.baseline.wifiService).isOther = false)
  | _ => True

section Run

variable {first : Mac} {sessionId : String} {devices : List String}
  {state : Shield Mac × ShieldState}

/-- A device that comes changes nothing of the others. -/
theorem Held.attach {work gateway device : String} {inner : List Entry} {mac : Mac}
    (h : Held first work devices gateway inner mac) (hdevice : device ∈ devices) (port : String)
    (front back : List (String × String)) :
    Held first work devices gateway inner (mac.attach device port front back) := by
  have hroutes : Held first work devices gateway inner
      { mac with routes := (mac.attach device port front back).routes } := by
    refine h.withRoutes (fun r hr _ => by simp [Mac.attach, hr]) fun r hr hother => ?_
    simp only [Mac.attach, List.mem_append, List.mem_map] at hr
    rcases hr with (⟨pair, -, rfl⟩ | hr) | ⟨pair, -, rfl⟩
    · exact absurd hdevice hother
    · exact hr
    · exact absurd hdevice hother
  exact ⟨⟨hroutes.current, hroutes.others, hroutes.set, hroutes.power, hroutes.reached,
    hroutes.complete⟩, hroutes.pf, hroutes.sound⟩

/-- Nor does one that goes. -/
theorem Held.detach {work gateway device : String} {inner : List Entry} {mac : Mac}
    (h : Held first work devices gateway inner mac) (hdevice : device ∈ devices) :
    Held first work devices gateway inner (mac.detach device) := by
  have hroutes : Held first work devices gateway inner
      { mac with routes := (mac.detach device).routes } := by
    refine h.withRoutes (fun r hr hother => ?_) fun r hr _ => List.mem_of_mem_filter hr
    have hne : r.interface ≠ device := fun heq => hother (heq ▸ hdevice)
    exact List.mem_filter.mpr ⟨hr, decide_eq_true hne⟩
  exact ⟨⟨hroutes.current, hroutes.others, hroutes.set, hroutes.power, hroutes.reached,
    hroutes.complete⟩, hroutes.pf, hroutes.sound⟩

/-- A mode that is read as DHCP is DHCP or not known. -/
theorem eq_dhcp_of_ipv4Mode (hservice : (captureBaseline macHost first).wifiService ≠ "")
    (hmode : (captureBaseline macHost first).ipv4Mode = "DHCP")
    (hknown : (first.services.ipv4 (captureBaseline macHost first).wifiService).isOther = false) :
    first.services.ipv4 (captureBaseline macHost first).wifiService = .dhcp := by
  have hinfo : (first.info (captureBaseline macHost first).wifiService).ipv4Mode = "DHCP" := by
    simp only [captureBaseline] at hservice hmode ⊢
    rwa [if_pos hservice] at hmode
  rw [Mac.info] at hinfo
  generalize first.services.ipv4 (captureBaseline macHost first).wifiService = config at *
  cases config with
  | dhcp => rfl
  | manual ip subnet router => simp at hinfo
  | other text => cases hknown

/-- The services of the owner's location have kept their configurations. -/
theorem InSession.ipv4_services (h : InSession first sessionId devices state)
    (hwork : state.2.location.getD first.current = first.current) :
    state.1.host.services.ipv4 = first.services.ipv4 := by
  obtain ⟨-, inner, -, -, hheld⟩ := h
  rw [hwork] at hheld
  obtain ⟨set, hset, hdisturbed⟩ := hheld.set rfl
  rw [Mac.services, hheld.current, hset]
  exact hdisturbed.ipv4

/-- Where the Wi-Fi service of the owner's location is set to DHCP, it was. -/
theorem InSession.dhcp (h : InSession first sessionId devices state)
    (hwell : first.WellFormed) (harmable : first.Armable sessionId)
    (hknown : state.2.locationMode = true ∨ state.2.baseline.wifiService = "" ∨
      (state.1.host.services.ipv4 state.2.baseline.wifiService).isOther = false)
    (hwork : state.2.location.getD first.current = first.current)
    (hservice : (captureBaseline macHost first).wifiService ≠ "")
    (hmode : (captureBaseline macHost first).ipv4Mode = "DHCP") :
    first.services.ipv4 (captureBaseline macHost first).wifiService = .dhcp := by
  rw [h.remembers.baseline] at hknown
  rcases hknown with hlocation | hnone | hknown
  · have hsome : state.2.location = some state.2.shieldLocation := by
      rw [ShieldState.location, if_pos hlocation]
    have hname := h.remembers.location _ hsome
    rw [hsome, Option.getD_some, hname] at hwork
    exact absurd hwork (shieldLocation_ne hwell harmable)
  · exact absurd hnone hservice
  · rw [h.ipv4_services hwork] at hknown
    exact eq_dhcp_of_ipv4Mode hservice hmode hknown

/-- **One event** of a session, whichever comes. -/
theorem InSession.step (h : InSession first sessionId devices state)
    (hwell : first.WellFormed) (harmable : first.Armable sessionId) {event : Event}
    (hmoved : ∀ device ∈ movedDevices [event], device ∈ devices)
    (hharmless : Harmless devices state event) (armed : Shield Mac × ShieldState) :
    InSession first sessionId devices ((sessionMachine armed).step state event).1 := by
  obtain ⟨hremembers, inner, hjournal, hentries, hheld⟩ := h
  cases event with
  | attach device port front back =>
      exact ⟨hremembers, inner, hjournal, hentries,
        hheld.attach (hmoved device (by simp [movedDevices])) port front back⟩
  | detach device =>
      exact ⟨hremembers, inner, hjournal, hentries,
        hheld.detach (hmoved device (by simp [movedDevices]))⟩
  | associate associated =>
      exact ⟨hremembers, inner, hjournal, hentries,
        ⟨⟨hheld.current, hheld.others, hheld.set, hheld.power, hheld.reached, hheld.complete⟩,
          hheld.pf, hheld.sound⟩⟩
  | recover untrusted =>
      obtain ⟨hpower, howned, hknown⟩ := hharmless
      have h : InSession first sessionId devices state :=
        ⟨hremembers, inner, hjournal, hentries, hheld⟩
      have hrecovered := h.shielded.saveState.runRecovery hpower howned
        fun hwork => h.dhcp hwell harmable hknown hwork
      rw [← hremembers.baseline] at hrecovered
      exact ⟨⟨hremembers.baseline, hremembers.pinnedRoutes, hremembers.pfWasEnabled,
        hremembers.originalLocation, hremembers.location⟩, hrecovered⟩

theorem movedDevices_subset {event : Event} {events : List Event} (hevent : event ∈ events)
    {device : String} (hdevice : device ∈ movedDevices [event]) :
    device ∈ movedDevices events := by
  obtain ⟨mover, hmover, hmoved⟩ := List.mem_filterMap.mp hdevice
  rw [List.mem_singleton.mp hmover] at hmoved
  exact List.mem_filterMap.mpr ⟨event, hevent, hmoved⟩

/-- Every run of harmless steps stays in the session. -/
theorem InSession.run {events : List Event}
    (h : InSession first sessionId (movedDevices events) state)
    (hwell : first.WellFormed) (harmable : first.Armable sessionId)
    (hsteps : (sessionMachine state).AllSteps (Harmless (movedDevices events)) state events) :
    InSession first sessionId (movedDevices events) ((sessionMachine state).run events) := by
  have hmoved : ∀ event ∈ events, ∀ device ∈ movedDevices [event],
      device ∈ movedDevices events :=
    fun event hevent device hdevice => movedDevices_subset hevent hdevice
  refine Machine.runFrom_invariant _ ?_ events state h (Machine.allSteps_and _ hsteps hmoved)
  intro before event hbefore hevent
  exact hbefore.step hwell harmable hevent.2 hevent.1 state

end Run

end Bootmux.AttachShield
