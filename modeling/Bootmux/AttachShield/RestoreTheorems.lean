/-
Bootmux.AttachShield.RestoreTheorems — what a session leaves of a Mac on
which every command succeeds.

The changes of a session are of two kinds. Those of the services are made
in the working location: the temporary one, which the close deletes, or
the location of the owner, where every change but those to the values of
the baseline is in the journal (`Disturbed`). The others go to the Mac as
a whole. `Held` says what is left of the Mac during a session, given its
journal, and `Rolling` what is left while the close takes the journal
back from its end.

The entries of the journal are given names here, each with the mutation that
writes it. `Undoable` is the inductive list of them, with what has to hold
for the rollback to be able to take one back: an order that is a permutation
of the services, a route with its gateway, a service that is there.

The lemmas are of two families. A mutation adds its entry and keeps `Held`;
a command that writes no entry keeps `Held` only if it sets what the
baseline had. The module has no result of its own: the steps of a session
and the close are assembled from it.
-/
import Bootmux.AttachShield.Mac

namespace Bootmux.AttachShield

open Bootmux.Lib

/-! ## Entries -/

/-- The entry of a disabled service. -/
def disabledEntry (set : NetworkSet) (service : String) : Entry :=
  ⟨.serviceDisable, service, some { enabled := some (set.enabled service) }, 0⟩

def orderEntry (set : NetworkSet) : Entry :=
  ⟨.orderSet, "network_services", some { order := some set.order }, 0⟩

/-- The entry of a deleted route. -/
def deletedEntry (dest gateway : String) : Entry :=
  ⟨.routeDelete, dest,
    some { existed := some true, gateway := some gateway, family := some .inet }, 0⟩

/-- The entry of a pinned route. -/
def pinnedEntry (family : Family) (dest gateway : String) : Entry :=
  ⟨.routeAdd, routeEntry family dest gateway, some { existed := some false }, 0⟩

def anchorEntry : Entry := ⟨.pfAnchorLoad, pfAnchor, some { rules := some "" }, 0⟩

def pfEntry : Entry := ⟨.pfEnable, "pf", some { enabled := some false }, 0⟩

/-- The destinations that the shield pins. -/
def splitRoutes : List String := splitRoutesV4 ++ splitRoutesV6

/-- The entries of a session on a Mac, less those of the location. -/
inductive Undoable (mac : Mac) (gateway : String) : Entry → Prop
  | disabled (service : String) : Undoable mac gateway (disabledEntry mac.services service)
  | ordered (h : mac.services.order ≠ []) : Undoable mac gateway (orderEntry mac.services)
  | deleted (dest via : String) (hroute : ⟨dest, via, mac.reached via⟩ ∈ mac.routes)
      (hreached : ∀ r ∈ mac.routes, r.dest = dest → r.gateway = via →
        r.interface = mac.reached via) :
      Undoable mac gateway (deletedEntry dest via)
  | pinned (family : Family) (dest : String) (hdest : dest ∈ splitRoutes)
      (hgateway : gateway ≠ "") : Undoable mac gateway (pinnedEntry family dest gateway)
  | anchored : Undoable mac gateway anchorEntry
  | pfEnabled (h : mac.pfEnabled = false) : Undoable mac gateway pfEntry

/-! ## The working location -/

/-- A set of services that differs from another one only where the journal
has an entry for it. -/
structure Disturbed (first : NetworkSet) (journal : List Entry) (set : NetworkSet) : Prop where
  ipv4 : set.ipv4 = first.ipv4
  ipv6 : set.ipv6 = first.ipv6
  dns : set.dns = first.dns
  search : set.search = first.search
  enabled : ∀ service, set.enabled service = first.enabled service ∨
    set.enabled service = false ∧ disabledEntry first service ∈ journal
  order : set.order = first.order ∨ orderEntry first ∈ journal

section Disturbed

variable {first set : NetworkSet} {journal : List Entry}

theorem Disturbed.refl (first : NetworkSet) (journal : List Entry) :
    Disturbed first journal first :=
  ⟨rfl, rfl, rfl, rfl, fun _ => .inl rfl, .inl rfl⟩

/-- A set stays disturbed as more is recorded. -/
theorem Disturbed.mono (h : Disturbed first journal set) {longer : List Entry}
    (hsub : ∀ e ∈ journal, e ∈ longer) : Disturbed first longer set where
  ipv4 := h.ipv4
  ipv6 := h.ipv6
  dns := h.dns
  search := h.search
  enabled service := (h.enabled service).imp_right fun h => ⟨h.1, hsub _ h.2⟩
  order := h.order.imp_right (hsub _)

/-- Without a journal nothing differs. -/
theorem Disturbed.eq (h : Disturbed first [] set) : set = first := by
  have henabled : set.enabled = first.enabled := by
    funext service
    rcases h.enabled service with heq | ⟨-, hmem⟩
    · exact heq
    · cases hmem
  have horder : set.order = first.order := by
    rcases h.order with heq | hmem
    · exact heq
    · cases hmem
  cases set
  cases first
  simp only [NetworkSet.mk.injEq]
  exact ⟨horder, henabled, h.ipv4, h.ipv6, h.dns, h.search⟩

/-- A disabled service is in the journal. -/
theorem Disturbed.disable (h : Disturbed first journal set) (service : String) :
    Disturbed first (journal ++ [disabledEntry first service])
      { set with enabled := Function.update set.enabled service false } := by
  have hmono := h.mono fun e he => List.mem_append_left [disabledEntry first service] he
  refine ⟨h.ipv4, h.ipv6, h.dns, h.search, fun other => ?_, hmono.order⟩
  by_cases heq : other = service
  · subst heq
    exact .inr ⟨Function.update_self .., by simp⟩
  · dsimp only
    rw [Function.update_of_ne heq]
    exact hmono.enabled other

/-- So is a new order. -/
theorem Disturbed.reorder (h : Disturbed first journal set) (names : List String) :
    Disturbed first (journal ++ [orderEntry first]) { set with order := names } := by
  have hmono := h.mono fun e he => List.mem_append_left [orderEntry first] he
  exact ⟨h.ipv4, h.ipv6, h.dns, h.search, hmono.enabled, .inr (by simp)⟩

/-- An entry for something else. -/
theorem Disturbed.drop {entry : Entry} (h : Disturbed first (journal ++ [entry]) set)
    (hdisabled : entry.category ≠ .serviceDisable) (hordered : entry.category ≠ .orderSet) :
    Disturbed first journal set := by
  have hmem : ∀ other, other.category ≠ entry.category → other ∈ journal ++ [entry] →
      other ∈ journal := by
    intro other hne hother
    rcases List.mem_append.mp hother with hother | hother
    · exact hother
    · exact absurd (congrArg Entry.category (List.mem_singleton.mp hother)) hne
  exact ⟨h.ipv4, h.ipv6, h.dns, h.search,
    fun service => (h.enabled service).imp_right fun h => ⟨h.1, hmem _ hdisabled.symm h.2⟩,
    h.order.imp_right (hmem _ hordered.symm)⟩

/-- Taking back the entry of a service. -/
theorem Disturbed.enable {service : String}
    (h : Disturbed first (journal ++ [disabledEntry first service]) set) :
    Disturbed first journal
      (if first.enabled service then
        { set with enabled := Function.update set.enabled service true } else set) := by
  have horder : set.order = first.order ∨ orderEntry first ∈ journal :=
    h.order.imp_right fun h => by simpa [orderEntry, disabledEntry] using h
  have hothers : ∀ other, other ≠ service → set.enabled other = first.enabled other ∨
      set.enabled other = false ∧ disabledEntry first other ∈ journal := by
    intro other hne
    refine (h.enabled other).imp_right fun h => ⟨h.1, ?_⟩
    rcases List.mem_append.mp h.2 with hmem | hmem
    · exact hmem
    · have htarget := congrArg Entry.target (List.mem_singleton.mp hmem)
      exact absurd htarget hne
  split
  · rename_i hon
    refine ⟨h.ipv4, h.ipv6, h.dns, h.search, fun other => ?_, horder⟩
    by_cases heq : other = service
    · subst heq
      exact .inl ((Function.update_self ..).trans hon.symm)
    · dsimp only
      rw [Function.update_of_ne heq]
      exact hothers other heq
  · rename_i hoff
    refine ⟨h.ipv4, h.ipv6, h.dns, h.search, fun other => ?_, horder⟩
    by_cases heq : other = service
    · subst heq
      rw [Bool.not_eq_true] at hoff
      rcases h.enabled other with hsame | ⟨hfalse, -⟩
      · exact .inl hsame
      · exact .inl (hfalse.trans hoff.symm)
    · exact hothers other heq

/-- Taking back the entry of an order. -/
theorem Disturbed.restoreOrder (h : Disturbed first (journal ++ [orderEntry first]) set) :
    Disturbed first journal { set with order := first.order } where
  ipv4 := h.ipv4
  ipv6 := h.ipv6
  dns := h.dns
  search := h.search
  enabled service := (h.enabled service).imp_right fun h =>
    ⟨h.1, by simpa [orderEntry, disabledEntry] using h.2⟩
  order := .inl rfl

end Disturbed

/-! ## The Mac as a whole -/

/-- A route that the shield pins. -/
def isPinned (gateway : String) (r : Route) : Prop :=
  r.dest ∈ splitRoutes ∧ r.gateway = gateway ∧ gateway ≠ ""

/-- What is left of `first` in a session that works in the location `work`,
the routes of `devices` aside. -/
structure Kept (first : Mac) (work : String) (devices : List String) (journal : List Entry)
    (mac : Mac) : Prop where
  current : mac.current = work
  others : ∀ name, name ≠ work → mac.locations name = first.locations name
  set : work = first.current → ∃ set, mac.locations work = some set ∧
    Disturbed first.services journal set
  power : mac.wifiPower = first.wifiPower
  reached : mac.reached = first.reached
  complete : ∀ r ∈ first.routes, r.interface ∉ devices →
    r ∈ mac.routes ∨ deletedEntry r.dest r.gateway ∈ journal

/-- During a session. -/
structure Held (first : Mac) (work : String) (devices : List String) (gateway : String)
    (journal : List Entry) (mac : Mac) : Prop extends Kept first work devices journal mac where
  pf : first.pfEnabled = true → mac.pfEnabled = true
  sound : ∀ r ∈ mac.routes, r.interface ∉ devices → r ∈ first.routes ∨ isPinned gateway r

/-- While the journal is taken back. -/
structure Rolling (first : Mac) (work : String) (devices : List String) (journal : List Entry)
    (mac : Mac) : Prop extends Kept first work devices journal mac where
  pf : mac.pfEnabled = first.pfEnabled
  anchor : mac.anchor = []
  sound : ∀ r ∈ mac.routes, r.interface ∉ devices → r ∈ first.routes

section Kept

variable {first mac : Mac} {work gateway : String} {devices : List String}
  {journal longer : List Entry}

/-- A change of the working location. -/
theorem Kept.withServices (h : Kept first work devices journal mac) {f : NetworkSet → NetworkSet}
    (hsub : ∀ r ∈ first.routes, deletedEntry r.dest r.gateway ∈ journal →
      deletedEntry r.dest r.gateway ∈ longer)
    (hf : ∀ set, Disturbed first.services journal set → Disturbed first.services longer (f set)) :
    Kept first work devices longer (mac.withServices f) where
  current := h.current
  others name hname := by
    have hne : name ≠ mac.current := h.current ▸ hname
    exact (Function.update_of_ne hne _ _).trans (h.others name hname)
  set hwork := by
    obtain ⟨set, hset, hdisturbed⟩ := h.set hwork
    refine ⟨f set, ?_, hf set hdisturbed⟩
    rw [Mac.withServices, h.current]
    simp [hset]
  power := h.power
  reached := h.reached
  complete r hr hdevice := (h.complete r hr hdevice).imp_right (hsub r hr)

/-- A command on the services of the location, which is in the journal. -/
theorem Held.withServices (h : Held first work devices gateway journal mac)
    {f : NetworkSet → NetworkSet} (hsub : ∀ e ∈ journal, e ∈ longer)
    (hf : ∀ set, Disturbed first.services journal set → Disturbed first.services longer (f set)) :
    Held first work devices gateway longer (mac.withServices f) :=
  ⟨h.toKept.withServices (fun _ _ => hsub _) hf, h.pf, h.sound⟩

/-- More entries. -/
theorem Kept.mono (h : Kept first work devices journal mac) (hsub : ∀ e ∈ journal, e ∈ longer) :
    Kept first work devices longer mac where
  current := h.current
  others := h.others
  set hwork := by
    obtain ⟨set, hset, hdisturbed⟩ := h.set hwork
    exact ⟨set, hset, hdisturbed.mono hsub⟩
  power := h.power
  reached := h.reached
  complete r hr hdevice := (h.complete r hr hdevice).imp_right (hsub _)

/-- Entries that are added hide nothing. -/
theorem Held.mono (h : Held first work devices gateway journal mac)
    (hsub : ∀ e ∈ journal, e ∈ longer) : Held first work devices gateway longer mac :=
  ⟨h.toKept.mono hsub, h.pf, h.sound⟩

/-- A change of the routes. -/
theorem Kept.withRoutes (h : Kept first work devices journal mac) {routes : List Route}
    (hcomplete : ∀ r ∈ first.routes, r.interface ∉ devices →
      r ∈ routes ∨ deletedEntry r.dest r.gateway ∈ journal) :
    Kept first work devices journal { mac with routes := routes } :=
  ⟨h.current, h.others, h.set, h.power, h.reached, hcomplete⟩

/-- More entries on top of those that were there. -/
theorem Held.append (h : Held first work devices gateway journal mac) (entry : Entry) :
    Held first work devices gateway (journal ++ [entry]) mac :=
  h.mono fun _ he => List.mem_append_left _ he

/-! ### Commands in the working location -/

/-- A recorded disable. -/
theorem Held.disable (h : Held first work devices gateway journal mac) (service : String) :
    Held first work devices gateway (journal ++ [disabledEntry first.services service])
      (mac.apply (.setServiceEnabled service false)) :=
  h.withServices (fun _ he => List.mem_append_left _ he) fun _ hset => hset.disable service

/-- A recorded order. -/
theorem Held.reorder (h : Held first work devices gateway journal mac) (names : List String) :
    Held first work devices gateway (journal ++ [orderEntry first.services])
      (mac.apply (.orderServices names)) :=
  h.withServices (fun _ he => List.mem_append_left _ he) fun _ hset => hset.reorder names

/-- The order of the baseline needs no entry. -/
theorem Held.firstOrder (h : Held first work devices gateway journal mac) :
    Held first work devices gateway journal (mac.apply (.orderServices first.services.order)) :=
  h.withServices (fun _ he => he) fun _ hset =>
    ⟨hset.ipv4, hset.ipv6, hset.dns, hset.search, hset.enabled, .inl rfl⟩

/-- Servers that are set as they were first. -/
theorem Held.firstDns (h : Held first work devices gateway journal mac) (service : String) :
    Held first work devices gateway journal
      (mac.apply (.setDnsServers service (first.services.dns service))) := by
  refine h.withServices (fun _ he => he) fun set hset => ?_
  have hdns : Function.update set.dns service (first.services.dns service) =
      first.services.dns := by
    rw [hset.dns, Function.update_eq_self]
  exact ⟨hset.ipv4, hset.ipv6, hdns, hset.search, hset.enabled, hset.order⟩

/-- DHCP is set without an entry, in a temporary location or where it was set. -/
theorem Held.dhcp (h : Held first work devices gateway journal mac) {service : String}
    (hdhcp : work = first.current → first.services.ipv4 service = .dhcp) :
    Held first work devices gateway journal (mac.apply (.setDhcp service)) := by
  by_cases hwork : work = first.current
  · refine h.withServices (fun _ he => he) fun set hset => ?_
    have hipv4 : Function.update set.ipv4 service .dhcp = first.services.ipv4 := by
      rw [hset.ipv4, ← hdhcp hwork, Function.update_eq_self]
    exact ⟨hipv4, hset.ipv6, hset.dns, hset.search, hset.enabled, hset.order⟩
  · refine ⟨⟨h.current, fun name hname => ?_, fun h => absurd h hwork, h.power, h.reached,
      h.complete⟩, h.pf, h.sound⟩
    have hne : name ≠ mac.current := h.current ▸ hname
    exact (Function.update_of_ne hne _ _).trans (h.others name hname)

/-! ### Commands on the Mac as a whole -/

/-- A recorded anchor. -/
theorem Held.loadAnchor (h : Held first work devices gateway journal mac) (iface : String) :
    Held first work devices gateway (journal ++ [anchorEntry])
      (mac.apply (.pfLoadAnchor iface)) :=
  have h' := h.append anchorEntry
  ⟨⟨h'.current, h'.others, h'.set, h'.power, h'.reached, h'.complete⟩, h'.pf, h'.sound⟩

/-- A recorded firewall. -/
theorem Held.enablePf (h : Held first work devices gateway journal mac) :
    Held first work devices gateway (journal ++ [pfEntry]) (mac.apply .pfEnable) :=
  have h' := h.append pfEntry
  ⟨⟨h'.current, h'.others, h'.set, h'.power, h'.reached, h'.complete⟩, fun _ => rfl, h'.sound⟩

/-- A power cycle ends with the power on. -/
theorem Held.cycle (h : Held first work devices gateway journal mac)
    (hpower : first.wifiPower = true) (device : String) :
    Held first work devices gateway journal (runAll macHost mac (powerCycle device)) :=
  ⟨⟨h.current, h.others, h.set, hpower.symm, h.reached, h.complete⟩, h.pf, h.sound⟩

/-- Other routes of devices. -/
theorem Held.withRoutes (h : Held first work devices gateway journal mac) {routes : List Route}
    (hkept : ∀ r ∈ mac.routes, r.interface ∉ devices → r ∈ routes)
    (hnew : ∀ r ∈ routes, r.interface ∉ devices → r ∈ mac.routes) :
    Held first work devices gateway journal { mac with routes := routes } where
  toKept := h.toKept.withRoutes fun r hr hdevice =>
    (h.complete r hr hdevice).imp_left fun hmem => hkept r hmem hdevice
  pf := h.pf
  sound r hr hdevice := h.sound r (hnew r hr hdevice) hdevice

/-- A route is deleted after its entry. -/
theorem Held.deleteRoute (h : Held first work devices gateway journal mac)
    (family : Option Family) (dest via : String) :
    Held first work devices gateway (journal ++ [deletedEntry dest via])
      (mac.apply (.routeDelete family dest (some via))) := by
  have h' := h.append (deletedEntry dest via)
  refine ⟨h'.toKept.withRoutes fun r hr hdevice => ?_, h.pf, fun r hr hdevice => ?_⟩
  · by_cases hsame : r.dest = dest ∧ r.gateway = via
    · obtain ⟨rfl, rfl⟩ := hsame
      exact .inr (by simp)
    · refine (h'.complete r hr hdevice).imp_left fun hmem => ?_
      exact List.mem_filter.mpr ⟨hmem, decide_eq_true hsame⟩
  · exact h.sound r (List.mem_of_mem_filter hr) hdevice

/-- A recorded pinned route, to a destination that only the shield uses. -/
theorem Held.pin (h : Held first work devices gateway journal mac) (family : Family)
    {dest : String} (hdest : dest ∈ splitRoutes) (hgateway : gateway ≠ "") :
    Held first work devices gateway (journal ++ [pinnedEntry family dest gateway])
      (mac.apply (.routeAdd family dest gateway)) := by
  have h' := h.append (pinnedEntry family dest gateway)
  refine ⟨h'.toKept.withRoutes fun r hr hdevice => ?_, h.pf, fun r hr hdevice => ?_⟩
  · exact (h'.complete r hr hdevice).imp_left fun hmem => List.mem_append_left _ hmem
  · rcases List.mem_append.mp hr with hmem | hmem
    · exact h.sound r hmem hdevice
    · rw [List.mem_singleton.mp hmem]
      exact .inr ⟨hdest, rfl, hgateway⟩

end Kept

end Bootmux.AttachShield
