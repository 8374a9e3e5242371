/-
Bootmux.NetworkGuardian.RouteTheorems — which routes the R1 commands delete on
a `FakeHost`.

A delete command carries part of a route. The simulator takes the last
dotted quad of the command for its gateway, so a command with an IPv4
gateway deletes every route via it, and the command for a host route
without one deletes the routes via the host. Only where no dotted quad is
left does the destination count. `deletes` says this in terms of two
routes, and `r1_removes_owned_iff` says for which tables the commands
together delete the owned routes and no other.

Both directions are proved for every table: the commands delete exactly the
owned routes if the condition (`removable`) holds, and where it fails one of
the owned routes stays or another one goes. A command is built from one
route and deletes routes by its words, so the first part is about the words
and finds out which of them the simulator looks at (`gatewayWords`,
`targetWords`). Commands come one after the other, and none brings a route
back.
-/
import Bootmux.NetworkGuardian.FakeHost

namespace Bootmux.NetworkGuardian

open Bootmux.Lib.PyText

/-! ## Routing tables -/

def isQuad (text : Option String) : Bool := text.any fun t => isDottedQuad t.toList

/-- The addresses of the route are no words of a `route` command, and its
interface is no address. -/
def plainRoute (r : Route) : Prop :=
  r.destination ∉ [some "-net", some "-ifscope"] ∧
    r.gateway ∉ [some "default", some "-net", some "-ifscope"] ∧ isQuad r.interface = false

instance (r : Route) : Decidable (plainRoute r) := inferInstanceAs (Decidable (_ ∧ _ ∧ _))

/-- A destination is not an option of `route`. -/
theorem plainRoute.dest_ne {r : Route} (h : plainRoute r) {dest : String}
    (hdest : r.destination = some dest) : dest ≠ "-net" ∧ dest ≠ "-ifscope" := by
  have := h.1
  simpa [hdest] using this

structure RouteTable where
  routes : List Route
  plain : ∀ r ∈ routes, plainRoute r

/-- A default route is deleted for its interface only. -/
def isScoped (r : Route) : Bool := contains ['I'] r.flags.toList && truthy r.interface

/-- The command that deletes `o` also deletes `r`. -/
def deletes (o r : Route) : Bool :=
  if isQuad o.gateway then r.gateway == o.gateway
  else if o.destination = some "default" then
    r.destination == some "default" && (!isScoped o || r.interface == o.interface)
  else if !truthy o.destination then r.destination == some "default"
  else if isQuad o.destination then r.gateway == o.destination
  else r.destination == o.destination

/-! ## The words of a command -/

/-- Words that are no quads are not taken as the gateway. -/
theorem gatewayArg_append {argv words : List String}
    (h : ∀ t ∈ words, isDottedQuad t.toList = false) :
    gatewayArg (argv ++ words) = gatewayArg argv := by
  have hnone : words.reverse.find? (fun t => isDottedQuad t.toList) = none :=
    List.find?_eq_none.mpr fun t ht => by simp [h t (List.mem_reverse.mp ht)]
  simp [gatewayArg, hnone]

theorem gatewayArg_eq_none {argv : List String}
    (h : ∀ t ∈ argv, isDottedQuad t.toList = false) : gatewayArg argv = none := by
  have happend : gatewayArg ([] ++ argv) = gatewayArg [] := gatewayArg_append h
  exact happend

/-- A quad at the end is. -/
theorem gatewayArg_concat {argv : List String} {t : String} (h : isDottedQuad t.toList = true) :
    gatewayArg (argv ++ [t]) = some t := by
  simp [gatewayArg, h]

/-- A dotted quad has no character of another kind. -/
theorem not_isDottedQuad {text : String} {c : Char} (hc : c ∈ text.toList)
    (hkind : c ≠ '\n' ∧ c ≠ '.' ∧ isDecimal c = false) : isDottedQuad text.toList = false := by
  by_contra h
  rw [Bool.not_eq_false] at h
  rcases mem_of_isDottedQuad h hc with h | h | h
  · exact hkind.1 h
  · exact hkind.2.1 h
  · rw [hkind.2.2] at h
    cases h

theorem not_isDottedQuad_slash {text : String} (h : contains ['/'] text.toList = true) :
    isDottedQuad text.toList = false := by
  refine not_isDottedQuad (c := '/') ?_ (by decide)
  exact List.IsInfix.subset (of_decide_eq_true h) (List.mem_singleton_self _)

/-- The gateway, if the command names it. -/
def gatewayWords (r : Route) : List String :=
  if truthy r.gateway && !isLinkGateway r.gateway then [r.gateway.getD ""] else []

theorem isLinkGateway_of_isDottedQuad {g : String} (h : isDottedQuad g.toList = true) :
    isLinkGateway (some g) = false := by
  by_contra hlink
  simp only [isLinkGateway, Bool.not_eq_false, Bool.and_eq_true, Option.getD_some,
    List.isPrefixOf_iff_prefix] at hlink
  have hmem : '#' ∈ lower g := hlink.2.subset (by decide +kernel)
  rw [not_isDottedQuad (mem_of_mem_toLower hmem (by decide)) (by decide)] at h
  cases h

/-- Where the command deletes a route from. -/
def targetWords (r : Route) : List String :=
  if r.destination = some "default" then
    ["default"] ++ (if isScoped r then ["-ifscope", r.interface.getD ""] else [])
  else if truthy r.destination && contains ['/'] (r.destination.getD "").toList then
    ["-net", r.destination.getD ""]
  else ["-host", if truthy r.destination then r.destination.getD "" else "default"]

/-- The command in its three parts. -/
theorem argv_deleteRoute (r : Route) :
    (deleteRoute r).argv = ["route", "-n", "delete"] ++ targetWords r ++ gatewayWords r := rfl

/-- A gateway that is a quad is given as it is. -/
theorem gatewayWords_of_isQuad {r : Route} (h : isQuad r.gateway = true) :
    ∃ g, r.gateway = some g ∧ isDottedQuad g.toList = true ∧ gatewayWords r = [g] := by
  unfold gatewayWords
  match hg : r.gateway with
  | none => simp [hg, isQuad] at h
  | some g =>
      have hquad : isDottedQuad g.toList = true := by simpa [hg, isQuad] using h
      refine ⟨g, rfl, hquad, ?_⟩
      have hne : g ≠ "" := by
        rintro rfl
        exact absurd hquad (by decide +kernel)
      have hlink := isLinkGateway_of_isDottedQuad hquad
      simp [truthy, hne, hlink]

/-- Any other gateway adds no word that the fake host could take for one. -/
theorem mem_gatewayWords {r : Route} (h : isQuad r.gateway = false) (hplain : plainRoute r)
    {t : String} (ht : t ∈ gatewayWords r) :
    isDottedQuad t.toList = false ∧ t ≠ "default" ∧ t ≠ "-net" ∧ t ≠ "-ifscope" := by
  unfold gatewayWords at ht
  split at ht
  · match hg : r.gateway with
    | none => simp [hg, truthy] at *
    | some g =>
        obtain rfl : t = g := by simpa [hg] using ht
        refine ⟨by simpa [hg, isQuad] using h, ?_⟩
        have := hplain.2.1
        simpa [hg] using this
  · cases ht

/-- The fixed words of the commands. -/
def routeWords : List String :=
  ["route", "-n", "delete", "default", "-ifscope", "-net", "-host"]

theorem isDottedQuad_of_mem_routeWords : ∀ t ∈ routeWords, isDottedQuad t.toList = false := by
  decide +kernel

/-- The forms of a destination, with the words that name it. -/
theorem targetWords_cases (r : Route) :
    (r.destination = some "default" ∧ isScoped r = true ∧
        ∃ iface, r.interface = some iface ∧ targetWords r = ["default", "-ifscope", iface]) ∨
      (r.destination = some "default" ∧ isScoped r = false ∧ targetWords r = ["default"]) ∨
      (r.destination ≠ some "default" ∧ truthy r.destination = false ∧
        targetWords r = ["-host", "default"]) ∨
      ∃ dest, r.destination = some dest ∧ dest ≠ "default" ∧ dest ≠ "" ∧
        (isDottedQuad dest.toList = false ∧ targetWords r = ["-net", dest] ∨
          targetWords r = ["-host", dest]) := by
  unfold targetWords
  by_cases hdefault : r.destination = some "default"
  · rw [if_pos hdefault]
    cases hscoped : isScoped r with
    | true =>
        match hiface : r.interface with
        | none => simp [isScoped, hiface, truthy] at hscoped
        | some iface => exact .inl ⟨hdefault, rfl, iface, rfl, rfl⟩
    | false => exact .inr (.inl ⟨hdefault, rfl, rfl⟩)
  · rw [if_neg hdefault]
    cases htruthy : truthy r.destination with
    | false => exact .inr (.inr (.inl ⟨hdefault, rfl, by simp⟩))
    | true =>
        match hdest : r.destination with
        | none => simp [hdest, truthy] at htruthy
        | some dest =>
            rw [hdest] at hdefault htruthy
            refine .inr (.inr (.inr ⟨dest, rfl, by simpa using hdefault,
              by simpa [truthy] using htruthy, ?_⟩))
            cases hslash : contains ['/'] dest.toList with
            | true => exact .inl ⟨not_isDottedQuad_slash hslash, by simp [hslash]⟩
            | false => exact .inr (by simp [hslash])

/-- A command without a dotted quad is read by its destination. -/
theorem routeMatchesDelete_dest {argv : List String} {dest : String}
    (hquads : ∀ t ∈ argv, isDottedQuad t.toList = false)
    (hdest : destArg argv = some (some dest)) (hscope : "-ifscope" ∉ argv) (r : Route) :
    routeMatchesDelete r argv = some (r.destination == some dest) := by
  rw [routeMatchesDelete, gatewayArg_eq_none hquads, hdest]
  by_cases h : r.destination = some dest <;> simp [h, hscope]

/-- The command deletes the routes it was made for, and those that look alike.
-/
theorem routeMatchesDelete_deleteRoute {o : Route} (ho : plainRoute o) (r : Route) :
    routeMatchesDelete r (deleteRoute o).argv = some (deletes o r) := by
  rw [argv_deleteRoute]
  unfold deletes
  cases hquad : isQuad o.gateway with
  | true =>
      obtain ⟨g, hg, hgquad, hwords⟩ := gatewayWords_of_isQuad hquad
      rw [routeMatchesDelete, hwords, gatewayArg_concat hgquad]
      simp [hg]
  | false =>
      have hwords := fun t => mem_gatewayWords hquad ho (t := t)
      have hdefault : "default" ∉ gatewayWords o := fun h => (hwords _ h).2.1 rfl
      have hnet : "-net" ∉ gatewayWords o := fun h => (hwords _ h).2.2.1 rfl
      have hscope : "-ifscope" ∉ gatewayWords o := fun h => (hwords _ h).2.2.2 rfl
      -- No word is a dotted quad, if those of the target are none.
      have hquads : (∀ t ∈ targetWords o, t ∈ routeWords ∨ isDottedQuad t.toList = false) →
          ∀ t ∈ ["route", "-n", "delete"] ++ targetWords o ++ gatewayWords o,
            isDottedQuad t.toList = false := by
        intro htarget t ht
        rcases List.mem_append.mp ht with ht | ht
        · rcases List.mem_append.mp ht with ht | ht
          · exact isDottedQuad_of_mem_routeWords t (List.mem_append_left _ ht)
          · exact (htarget t ht).elim (isDottedQuad_of_mem_routeWords t) id
        · exact (hwords t ht).1
      rcases targetWords_cases o with
        ⟨hdest, hscoped, iface, hiface, htarget⟩ | ⟨hdest, hscoped, htarget⟩ |
        ⟨hdest, hnone, htarget⟩ | ⟨dest, hdest, hne, hempty, ⟨hnotquad, htarget⟩ | htarget⟩
      · have hifacequad : isDottedQuad iface.toList = false := by
          simpa [isQuad, hiface] using ho.2.2
        rw [routeMatchesDelete, gatewayArg_eq_none (hquads (by
          simp [htarget, routeWords, hifacequad]))]
        have hdestArg :
            destArg (["route", "-n", "delete"] ++ targetWords o ++ gatewayWords o) =
              some (some "default") := by
          simp [destArg, htarget]
        have hword : wordAfter "-ifscope"
            (["route", "-n", "delete"] ++ targetWords o ++ gatewayWords o) = some iface := by
          simp [wordAfter, htarget]
        simp only [hdestArg, hword]
        by_cases h : r.destination = some "default" <;> simp [h, htarget, hdest, hscoped, hiface]
      · rw [routeMatchesDelete_dest (hquads (by simp [htarget, routeWords]))
          (show _ = some (some "default") by simp [destArg, htarget]) (by simp [htarget, hscope])]
        simp [hdest, hscoped]
      · rw [routeMatchesDelete_dest (hquads (by simp [htarget, routeWords]))
          (show _ = some (some "default") by simp [destArg, htarget]) (by simp [htarget, hscope])]
        simp [hdest, hnone]
      · obtain ⟨-, hdestscope⟩ := ho.dest_ne hdest
        rw [routeMatchesDelete_dest (hquads (by simp [htarget, routeWords, hnotquad]))
          (show _ = some (some dest) by
            simp [destArg, htarget, hne.symm, hdefault, wordAfter])
          (by simp [htarget, hscope, hdestscope.symm])]
        simp [hdest, hne, hempty, isQuad, hnotquad, truthy]
      · obtain ⟨hdestnet, hdestscope⟩ := ho.dest_ne hdest
        cases hdestquad : isDottedQuad dest.toList with
        | true =>
            rw [routeMatchesDelete, gatewayArg_append fun t ht => (hwords t ht).1, htarget]
            rw [show ["route", "-n", "delete"] ++ ["-host", dest] =
              ["route", "-n", "delete", "-host"] ++ [dest] from rfl, gatewayArg_concat hdestquad]
            simp [hdest, hne, hempty, isQuad, hdestquad, truthy]
        | false =>
            rw [routeMatchesDelete_dest (hquads (by simp [htarget, routeWords, hdestquad]))
              (show _ = some (some dest) by
                simp [destArg, htarget, hne.symm, hdefault, hnet, hdestnet.symm, wordAfter])
              (by simp [htarget, hscope, hdestscope.symm])]
            simp [hdest, hne, hempty, isQuad, hdestquad, truthy]

/-! ## The commands of R1 -/

theorem deleteRoutes_eq {argv : List String} {p : Route → Bool}
    (h : ∀ r, routeMatchesDelete r argv = some (p r)) (routes : List Route) :
    deleteRoutes argv routes = some (routes.filter fun r => !p r) := by
  induction routes with
  | nil => rfl
  | cons r routes ih => cases hr : p r <;> simp [deleteRoutes, h, ih, hr]

/-- The plan with the routes it deletes. -/
theorem execute_deleteRoute {owned : List Route} (hplain : ∀ o ∈ owned, plainRoute o)
    (fake : FakeHost) :
    fake.execute (owned.map deleteRoute) =
      some { fake with routes := fake.routes.filter fun r => !owned.any (deletes · r) } := by
  induction owned generalizing fake with
  | nil => simp [FakeHost.execute]
  | cons o owned ih =>
      rw [List.forall_mem_cons] at hplain
      have hstep : fake.simulate (deleteRoute o).argv =
          some { fake with routes := fake.routes.filter fun r => !deletes o r } := by
        rw [FakeHost.simulate, if_pos ⟨rfl, by simp [argv_deleteRoute]⟩,
          deleteRoutes_eq (routeMatchesDelete_deleteRoute hplain.1)]
        rfl
      rw [List.map_cons, FakeHost.execute_cons, hstep, Option.bind_some, ih hplain.2]
      simp [List.filter_filter, Bool.and_comm]

/-- R1 leaves the routes that are not owned, in their order. -/
def removesOwned (fake : FakeHost) (identity : IdentityResult) : Prop :=
  (fake.execute (planR1Routes fakeHost fake identity)).map (·.routes) =
    some (fake.routes.filter fun r => !ownedRoute identity.interface r)

/-- No route that is not owned shares with an owned route what the command
of that route is read by, and that is never the host of a route without a
gateway. -/
def removable (routes : List Route) (iface : Option String) : Prop :=
  ∀ o ∈ routes, ownedRoute iface o = true →
    if isQuad o.gateway then
      ∀ r ∈ routes, r.gateway = o.gateway → ownedRoute iface r = true
    else if o.destination = some "default" then
      isScoped o = true ∨ ∀ r ∈ routes, r.destination = some "default" → ownedRoute iface r = true
    else
      truthy o.destination = true ∧ isQuad o.destination = false ∧
        ∀ r ∈ routes, r.destination = o.destination → ownedRoute iface r = true

theorem filter_eq_filter_iff {α : Type} {p q : α → Bool} {l : List α} :
    l.filter p = l.filter q ↔ ∀ a ∈ l, p a = q a := by
  refine ⟨fun h a ha => ?_, List.filter_congr⟩
  have hmem : a ∈ l.filter p ↔ a ∈ l.filter q := by rw [h]
  rw [Bool.eq_iff_iff]
  simpa [ha] using hmem

/-- Each route is deleted by the command of an owned route exactly if it is
owned. -/
theorem removesOwned_iff_deletes (fake : FakeHost) (table : RouteTable)
    (identity : IdentityResult) (hroutes : fake.routes = table.routes) :
    removesOwned fake identity ↔
      ∀ r ∈ table.routes,
        (∃ o ∈ table.routes, ownedRoute identity.interface o = true ∧ deletes o r = true) ↔
          ownedRoute identity.interface r = true := by
  have hplain : ∀ o ∈ table.routes.filter (ownedRoute identity.interface), plainRoute o :=
    fun o ho => table.plain o (List.mem_of_mem_filter ho)
  rw [removesOwned, planR1Routes, show fakeHost.routes fake = table.routes from hroutes,
    execute_deleteRoute hplain, hroutes, Option.map_some, Option.some.injEq,
    filter_eq_filter_iff]
  refine forall₂_congr fun r hr => ?_
  rw [Bool.not_inj_iff, Bool.eq_iff_iff, List.any_eq_true]
  simp [and_assoc]

theorem isQuad_bootmuxPeer : isQuad (some bootmuxPeer) = true := by decide +kernel

/-- An owned route without an IPv4 gateway is on the interface. -/
theorem interface_of_ownedRoute {iface : Option String} {r : Route}
    (howned : ownedRoute iface r = true) (hquad : isQuad r.gateway = false) :
    iface.isSome = true ∧ r.interface = iface := by
  simp only [ownedRoute, Bool.or_eq_true, Bool.and_eq_true, beq_iff_eq] at howned
  rcases howned with hpeer | h
  · rw [hpeer, isQuad_bootmuxPeer] at hquad
    cases hquad
  · exact h

/-- What `removable` says of one owned route is that its command deletes
owned routes only, itself among them. -/
theorem removable_of_deletes {routes : List Route} {iface : Option String}
    (h : ∀ r ∈ routes, (∃ o ∈ routes, ownedRoute iface o = true ∧ deletes o r = true) ↔
      ownedRoute iface r = true) : removable routes iface := by
  intro o ho howned
  have honly : ∀ r ∈ routes, deletes o r = true → ownedRoute iface r = true :=
    fun r hr hdel => (h r hr).mp ⟨o, ho, howned, hdel⟩
  -- Some command deletes `o`, if not its own.
  obtain ⟨o', ho', -, hdel⟩ := (h o ho).mpr howned
  split
  · rename_i hquad
    exact fun r hr hsame => honly r hr (by simp [deletes, hquad, hsame])
  · rename_i hquad
    split
    · rename_i hdefault
      cases hscoped : isScoped o with
      | true => exact .inl rfl
      | false =>
          exact .inr fun r hr hsame =>
            honly r hr (by simp [deletes, hquad, hdefault, hsame, hscoped])
    · rename_i hdefault
      unfold deletes at hdel
      split_ifs at hdel with hquad' hdefault' htruthy' hdestquad'
      · rw [beq_iff_eq.mp hdel] at hquad
        exact absurd hquad' hquad
      · rw [Bool.and_eq_true, beq_iff_eq] at hdel
        exact absurd hdel.1 hdefault
      · exact absurd (beq_iff_eq.mp hdel) hdefault
      · rw [beq_iff_eq.mp hdel] at hquad
        exact absurd hdestquad' hquad
      · have hsame : o.destination = o'.destination := beq_iff_eq.mp hdel
        have htruthy : truthy o.destination = true := by simpa [hsame] using htruthy'
        have hdestquad : isQuad o.destination = false := by simpa [hsame] using hdestquad'
        exact ⟨htruthy, hdestquad, fun r hr hr' =>
          honly r hr (by simp [deletes, hquad, hdefault, htruthy, hdestquad, hr'])⟩

/-- On a table without such routes it deletes the owned ones only. -/
theorem deletes_of_removable {routes : List Route} {iface : Option String}
    (h : removable routes iface) (r : Route) (hr : r ∈ routes) :
    (∃ o ∈ routes, ownedRoute iface o = true ∧ deletes o r = true) ↔
      ownedRoute iface r = true := by
  constructor
  · rintro ⟨o, ho, howned, hdel⟩
    have ho := h o ho howned
    unfold deletes at hdel
    split_ifs at ho hdel with hquad hdefault htruthy hdestquad
    · exact ho r hr (beq_iff_eq.mp hdel)
    · rw [Bool.and_eq_true, beq_iff_eq, Bool.or_eq_true, beq_iff_eq] at hdel
      rcases ho with hscoped | hall
      · -- A scoped command stays on the interface of its route.
        obtain ⟨hsome, hiface⟩ := interface_of_ownedRoute howned (by simpa using hquad)
        have hsame : r.interface = iface := by simpa [hscoped, hiface] using hdel.2
        simp [ownedRoute, hsome, hsame]
      · exact hall r hr hdel.1
    · simp [ho.1] at htruthy
    · rw [ho.2.1] at hdestquad
      cases hdestquad
    · exact ho.2.2 r hr (beq_iff_eq.mp hdel)
  · intro howned
    have hself := h r hr howned
    refine ⟨r, hr, howned, ?_⟩
    unfold deletes
    split_ifs at hself ⊢ with hquad hdefault htruthy hdestquad
    · exact beq_self_eq_true _
    · simp [hdefault]
    · simp [hself.1] at htruthy
    · rw [hself.2.1] at hdestquad
      cases hdestquad
    · exact beq_self_eq_true _

/-- **R1 removes exactly the owned routes where no other route shares what
their commands are read by.** -/
theorem r1_removes_owned_iff (fake : FakeHost) (table : RouteTable) (identity : IdentityResult) :
    removesOwned { fake with routes := table.routes } identity ↔
      removable table.routes identity.interface := by
  rw [removesOwned_iff_deletes _ table identity rfl]
  exact ⟨removable_of_deletes, deletes_of_removable⟩

/-! ## A host route -/

/-- The bridge on `en7`, with the host route that macOS keeps for the address
of the interface. -/
def bridgeFake : FakeHost where
  usb := [⟨some bootmuxUsbVid, some bootmuxUsbPid, some bootmuxProduct, some bootmuxSerial⟩]
  interfaces := [⟨"en0", ["192.168.1.50"]⟩, ⟨"en7", ["10.77.0.2"]⟩]
  routes :=
    [⟨some "default", some "192.168.1.1", some "en0", "UGScg"⟩,
      ⟨some "10.77.0.0/24", some "link#7", some "en7", "U"⟩,
      ⟨some "10.77.0.2", some "link#7", some "en7", "UHLS"⟩]
  services := [⟨1, "Wi-Fi", some "en0", true⟩, ⟨2, "BOOTMUX USB Ethernet", some "en7", true⟩]
  wifiDevice := some "en0"
  wifiPower := some true
  wifiSsid := some "home"
  wifiIpv4 := dhcpLease
  dns _ := ⟨[], []⟩
  heartbeat := true
  clock := 1000
  runResults _ := none

/-- The command for it names no gateway but the host itself, and deletes
nothing. -/
theorem host_route_stays :
    bridgeFake.routes.Nodup ∧ (proveIdentity fakeHost bridgeFake).interface = some "en7" ∧
      ¬ removesOwned bridgeFake (proveIdentity fakeHost bridgeFake) := by
  unfold removesOwned
  decide +kernel

end Bootmux.NetworkGuardian
