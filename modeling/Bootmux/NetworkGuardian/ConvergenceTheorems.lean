/-
Bootmux.NetworkGuardian.ConvergenceTheorems — R2 to R5 reach what they plan
for in one pass over a `FakeHost`.

The steps touch different parts of the host: R2 and R5 the services, R3
the IPv4 configuration, R4 the lists of the Wi-Fi service. Within the
services R2 sets the flag of the BOOTMUX service, which R5 leaves out, and
the order command numbers the services as the baseline lists them
(`orderServices_eq`), so that sorting by the numbers gives the baseline's
order back.

For each step there is one lemma that says what it leaves of its part, in
any state, and one that it leaves the other parts alone. `repairedServices`
is the list of services after a whole plan. Names are asked to be single
(`UniqueNames`), since a dictionary by name keeps one service of two, and no
word of the baseline may be an option of a command.

`Converged` plans once more and verifies: no step has anything left to do,
and every check that the baseline allows is passed. The one host on which
this fails is that of a service without a name, which R2 leaves out and the
verification counts.
-/
import Bootmux.NetworkGuardian.FrameTheorems

namespace Bootmux.NetworkGuardian

/-! ## Flags -/

/-- The first service of a name decides. -/
theorem serviceEnabled_eq (services : List Service) (name : String) :
    serviceEnabled services name = (flagsOf services name).head?.getD true := by
  rw [serviceEnabled, flagsOf, List.head?_map, List.head?_filter]

theorem currentEnabled_eq (services : List Service) (name : String) :
    currentEnabled services name = (flagsOf services name).getLast? := by
  rw [currentEnabled, flagsOf, List.getLast?_map, List.getLast?_filter]

/-- Setting a service sets every one of its name. -/
theorem flagsOf_setEnabled_self (name : String) (state : Bool) (services : List Service) :
    flagsOf (setEnabled name state services) name =
      (flagsOf services name).map fun _ => state := by
  induction services with
  | nil => rfl
  | cons svc services ih =>
      rw [flagsOf, flagsOf, setEnabled] at *
      by_cases hname : svc.name = name
      · simpa [hname] using ih
      · simpa [hname] using ih

/-- The flags that a list of entries sets. -/
def setStates (entries : List (String × Bool)) (services : List Service) : List Service :=
  entries.foldl (fun services entry => setEnabled entry.1 entry.2 services) services

/-- Services that the list does not name stay as they are. -/
theorem flagsOf_setStates_of_not_mem {entries : List (String × Bool)} {name : String}
    (h : name ∉ entries.map Prod.fst) (services : List Service) :
    flagsOf (setStates entries services) name = flagsOf services name := by
  induction entries generalizing services with
  | nil => rfl
  | cons entry entries ih =>
      rw [List.map_cons, List.mem_cons, not_or] at h
      rw [setStates, List.foldl_cons, ← setStates, ih h.2, flagsOf_setEnabled h.1]

/-- The others get the state of their entry. -/
theorem flagsOf_setStates_of_mem {entries : List (String × Bool)} {entry : String × Bool}
    (hnodup : (entries.map Prod.fst).Nodup) (h : entry ∈ entries) (services : List Service) :
    flagsOf (setStates entries services) entry.1 =
      (flagsOf services entry.1).map fun _ => entry.2 := by
  induction entries generalizing services with
  | nil => cases h
  | cons first entries ih =>
      rw [List.map_cons, List.nodup_cons] at hnodup
      rw [setStates, List.foldl_cons, ← setStates]
      rcases List.mem_cons.mp h with rfl | h
      · rw [flagsOf_setStates_of_not_mem hnodup.1, flagsOf_setEnabled_self]
      · have hne : entry.1 ≠ first.1 := by
          intro heq
          exact hnodup.1 (heq ▸ List.mem_map_of_mem h)
        rw [ih hnodup.2 h, flagsOf_setEnabled hne]

theorem setStates_map {α : Type} {f : Service → α}
    (hf : ∀ svc state, f { svc with enabled := state } = f svc) (entries : List (String × Bool))
    (services : List Service) : (setStates entries services).map f = services.map f := by
  induction entries generalizing services with
  | nil => rfl
  | cons entry entries ih =>
      rw [setStates, List.foldl_cons, ← setStates, ih, setEnabled_map _ _ fun svc => hf svc _]

/-! ## Order -/

/-- The place that the order command gives a service. -/
theorem foldl_place {names : List String} (hnodup : names.Nodup) (k : Nat) (svc : Service) :
    (names.zipIdx k).foldl (fun svc entry =>
      if svc.name = entry.1 then { svc with order := entry.2 + 1 } else svc) svc =
      if svc.name ∈ names then { svc with order := ↑(names.idxOf svc.name + k) + 1 } else svc := by
  induction names generalizing k svc with
  | nil => rfl
  | cons name names ih =>
      rw [List.nodup_cons] at hnodup
      rw [List.zipIdx_cons, List.foldl_cons, ih hnodup.2]
      by_cases hname : svc.name = name
      · subst hname
        simp [hnodup.1]
      · by_cases hmem : svc.name ∈ names
        · simp [hname, hmem, List.idxOf_cons_ne _ (Ne.symm hname)]
          omega
        · simp [hname, hmem]

theorem orderServices_eq {names : List String} (hnodup : names.Nodup) (services : List Service) :
    orderServices names services = services.map fun svc =>
      if svc.name ∈ names then { svc with order := ↑(names.idxOf svc.name) + 1 } else svc := by
  have hfold : ∀ (entries : List (String × Nat)) (services : List Service),
      entries.foldl (fun services entry => services.map fun svc =>
        if svc.name = entry.1 then { svc with order := entry.2 + 1 } else svc) services =
      services.map fun svc => entries.foldl (fun svc entry =>
        if svc.name = entry.1 then { svc with order := entry.2 + 1 } else svc) svc := by
    intro entries
    induction entries with
    | nil => simp
    | cons entry entries ih =>
        intro services
        rw [List.foldl_cons, ih, List.map_map]
        rfl
  rw [orderServices, hfold]
  refine List.map_congr_left fun svc _ => ?_
  simpa using foldl_place hnodup 0 svc

theorem pairwise_idxOf {names : List String} (hnodup : names.Nodup) :
    names.Pairwise fun a b => names.idxOf a ≤ names.idxOf b := by
  rw [List.pairwise_iff_getElem]
  intro i j hi hj hlt
  rw [hnodup.idxOf_getElem i hi, hnodup.idxOf_getElem j hj]
  exact hlt.le

/-- Services numbered as `want` lists them are sorted as `want`. -/
theorem sorted_eq_want {want : List String} {bootmuxService : Option String}
    {pairs : List (String × Int)} (hwant : want.Nodup) (hpairs : (pairs.map Prod.fst).Nodup)
    (hset : ∀ name, name ∈ want ↔ name ∈ pairs.map Prod.fst ∧ some name ≠ bootmuxService)
    (hplace : ∀ p ∈ pairs, p.1 ∈ want → p.2 = ↑(want.idxOf p.1) + 1) :
    ((pairs.insertionSort fun a b => a.2 ≤ b.2).map Prod.fst).filter (some · != bootmuxService) =
      want := by
  have hperm : (pairs.insertionSort fun a b => a.2 ≤ b.2).Perm pairs :=
    List.perm_insertionSort _ _
  have hsorted : (pairs.insertionSort fun a b => a.2 ≤ b.2).Pairwise fun a b => a.2 ≤ b.2 :=
    List.pairwise_insertionSort _ _
  generalize pairs.insertionSort (fun a b => a.2 ≤ b.2) = sorted at hperm hsorted
  have hmem : ∀ name, name ∈ (sorted.map Prod.fst).filter (some · != bootmuxService) ↔
      name ∈ want := by
    intro name
    rw [List.mem_filter, hset, (hperm.map Prod.fst).mem_iff]
    simp
  refine List.Perm.eq_of_pairwise ?_ ?_ (pairwise_idxOf hwant) ?_
  · intro a b ha _ hab hba
    exact (List.idxOf_inj ((hmem a).mp ha)).mp (Nat.le_antisymm hab hba)
  · rw [List.filter_map, List.pairwise_map]
    refine (hsorted.filter _).imp_of_mem fun {a b} ha hb hle => ?_
    have hplaced : ∀ p ∈ sorted.filter ((fun name => some name != bootmuxService) ∘ Prod.fst),
        p.2 = ↑(want.idxOf p.1) + 1 := by
      intro p hp
      rw [List.mem_filter] at hp
      refine hplace p (hperm.mem_iff.mp hp.1) ((hmem p.1).mp ?_)
      exact List.mem_filter.mpr ⟨List.mem_map_of_mem hp.1, hp.2⟩
    rw [hplaced a ha, hplaced b hb] at hle
    omega
  · rw [List.perm_ext_iff_of_nodup (((hperm.map Prod.fst).nodup_iff.mpr hpairs).filter _) hwant]
    exact hmem

/-! ## The steps one by one -/

section Steps

variable {identity : IdentityResult} {baseline : Option Baseline} {start fake last : FakeHost}

/-- One plan after another. -/
theorem FakeHost.execute_append (fake : FakeHost) (p q : List Command) :
    fake.execute (p ++ q) = (fake.execute p).bind (·.execute q) := by
  induction p generalizing fake with
  | nil => rfl
  | cons c p ih =>
      rw [List.cons_append, execute_cons, execute_cons, Option.bind_assoc]
      exact Option.bind_congr fun next _ => ih next

theorem FakeHost.execute_singleton (fake : FakeHost) (c : Command) :
    fake.execute [c] = fake.simulate c.argv := by
  rw [execute_cons]
  cases fake.simulate c.argv <;> rfl

/-- The first part of the plan changes routes only. -/
theorem execute_planR1 (h : fake.execute (planR1Routes fakeHost start identity) = some last) :
    ∃ routes, last = { fake with routes := routes } := by
  unfold planR1Routes at h
  generalize (fakeHost.routes start).filter (ownedRoute identity.interface) = owned at h
  induction owned generalizing fake with
  | nil =>
      obtain rfl := Option.some.inj h
      exact ⟨fake.routes, rfl⟩
  | cons r owned ih =>
      rw [List.map_cons, FakeHost.execute_cons, Option.bind_eq_some_iff] at h
      obtain ⟨next, hnext, hrest⟩ := h
      obtain ⟨routes, rfl⟩ := fake.simulate_deleteRoute hnext
      obtain ⟨routes', rfl⟩ := ih hrest
      exact ⟨routes', rfl⟩

/-- The services after R2. -/
def disabledServices (identity : IdentityResult) (start services : List Service) : List Service :=
  match identity.service with
  | none => services
  | some service =>
      if service = "" ∨ serviceEnabled start service = false then services
      else setEnabled service false services

/-- The second part disables the service of the device. -/
theorem execute_planR2 :
    fake.execute (planR2Service fakeHost start identity) =
      some { fake with services := disabledServices identity start.services fake.services } := by
  unfold planR2Service disabledServices
  rw [show fakeHost.services start = start.services from rfl]
  cases identity.service with
  | none => rfl
  | some service =>
      dsimp only
      split
      · rfl
      · rw [FakeHost.execute_singleton, FakeHost.simulate_enabled]
        rfl

/-- A baseline mode that R3 restores. -/
def modeRestorable (b : Baseline) : Prop :=
  b.wifi.ipv4Mode = some "dhcp" ∨
    b.wifi.ipv4Mode = some "manual" ∧ truthy b.wifi.serviceName = true ∧
      truthy b.wifi.ipv4Address = true ∧ truthy b.wifi.subnetMask = true ∧
      truthy b.wifi.router = true

/-- The third part sets the IPv4 configuration, or leaves it. -/
theorem execute_planR3 (hplain : ∀ b, baseline = some b → noOption b.words)
    (hstart : fake.wifiIpv4 = start.wifiIpv4) :
    ∃ ipv4, fake.execute (planR3Ipv4 fakeHost start baseline) =
        some { fake with wifiIpv4 := ipv4 } ∧
      ∀ last : FakeHost, last.wifiIpv4 = ipv4 → planR3Ipv4 fakeHost last baseline = [] ∧
        ∀ b, baseline = some b → truthy b.wifi.hardwareDevice = true → modeRestorable b →
          last.wifiIpv4.mode = b.wifi.ipv4Mode := by
  have hread : ∀ (host : FakeHost) (device : String), fakeHost.wifiIpv4 host device =
      host.wifiIpv4 := fun _ _ => rfl
  have hstay : fake.execute [] = some { fake with wifiIpv4 := start.wifiIpv4 } := by
    rw [← hstart]
    rfl
  match baseline with
  | none => exact ⟨start.wifiIpv4, hstay, fun last _ => ⟨rfl, fun b hb => nomatch hb⟩⟩
  | some b =>
      simp only [Option.some.injEq, forall_eq']
      unfold planR3Ipv4
      simp only [hread]
      by_cases hdevice : truthy b.wifi.hardwareDevice = true
      · by_cases hdhcp : b.wifi.ipv4Mode = some "dhcp"
        · simp only [hdevice, hdhcp, Bool.not_true, Bool.false_eq_true, if_false, if_true]
          by_cases hsame : start.wifiIpv4.mode = some "dhcp"
          · refine ⟨start.wifiIpv4, by simpa [hsame] using hstay, fun last hlast => ?_⟩
            simp [hlast, hsame]
          · refine ⟨dhcpLease, ?_, fun last hlast => by simp [hlast, dhcpLease]⟩
            simp [hsame, FakeHost.execute_singleton, FakeHost.simulate_dhcp]
        · by_cases hmanual : b.wifi.ipv4Mode = some "manual"
          · by_cases hcomplete : (truthy b.wifi.serviceName && truthy b.wifi.ipv4Address &&
                truthy b.wifi.subnetMask && truthy b.wifi.router) = true
            · have htruthy := hcomplete
              simp only [Bool.and_eq_true, truthy_iff] at htruthy
              obtain ⟨⟨⟨⟨service, hservice, -⟩, address, haddress, -⟩, mask, hmask, -⟩, router,
                hrouter, -⟩ := htruthy
              have hwords : noOption [service, address, mask, router] :=
                (hplain b rfl).sub (by simp [Baseline.words, hservice, haddress, hmask, hrouter])
              simp only [hdevice, hmanual, hcomplete, Bool.not_true, Bool.false_eq_true, if_false,
                if_true, Option.some.injEq, String.reduceEq]
              by_cases hsame : start.wifiIpv4.mode = some "manual" ∧
                  start.wifiIpv4.address = b.wifi.ipv4Address ∧
                  start.wifiIpv4.subnetMask = b.wifi.subnetMask ∧
                  start.wifiIpv4.router = b.wifi.router
              · refine ⟨start.wifiIpv4, by simpa [hsame] using hstay, fun last hlast => ?_⟩
                simp [hlast, hsame]
              · refine ⟨⟨some "manual", some address, some mask, some router⟩, ?_,
                  fun last hlast => by simp [hlast, haddress, hmask, hrouter]⟩
                rw [if_neg hsame, FakeHost.execute_singleton, hservice, haddress, hmask, hrouter]
                exact fake.simulate_manual hwords
            · refine ⟨start.wifiIpv4, ?_, fun last hlast => ?_⟩
              · simpa [hdevice, hmanual, hcomplete] using hstay
              · refine ⟨by simp [hdevice, hmanual, hcomplete], fun _ hrestorable => ?_⟩
                rcases hrestorable with h | ⟨-, hservice, haddress, hmask, hrouter⟩
                · exact absurd h hdhcp
                · simp [hservice, haddress, hmask, hrouter] at hcomplete
          · refine ⟨start.wifiIpv4, by simpa [hdevice, hdhcp, hmanual] using hstay,
              fun last hlast => ?_⟩
            simp [hdevice, hdhcp, hmanual, modeRestorable]
      · refine ⟨start.wifiIpv4, by simpa [hdevice] using hstay, fun last hlast => ?_⟩
        simp [hdevice]

/-- A baseline whose lists R4 can set. -/
def listsSettable (b : Baseline) : Prop :=
  b.wifi.dnsServers ≠ ["Empty"] ∧ b.wifi.searchDomains ≠ ["Empty"]

/-- The fourth part sets servers and domains, or leaves them. -/
theorem execute_planR4 (hplain : ∀ b, baseline = some b → noOption b.words)
    (hlists : ∀ b, baseline = some b → listsSettable b) (hstart : fake.dns = start.dns) :
    ∃ dns, fake.execute (planR4Dns fakeHost start baseline) = some { fake with dns := dns } ∧
      ∀ last : FakeHost, last.dns = dns → planR4Dns fakeHost last baseline = [] := by
  match baseline with
  | none => exact ⟨fake.dns, rfl, fun last _ => rfl⟩
  | some b =>
      have hread : ∀ (host : FakeHost) (service : String), fakeHost.dns host service =
          host.dns service := fun _ _ => rfl
      obtain ⟨hserversEmpty, hdomainsEmpty⟩ := hlists b rfl
      unfold planR4Dns
      simp only [hread]
      by_cases htruthy : truthy b.wifi.serviceName = true
      · obtain ⟨service, hservice, -⟩ := truthy_iff.mp htruthy
        have hwords : ∀ t ∈ service :: (b.wifi.dnsServers ++ b.wifi.searchDomains),
            t ∉ networksetupOptions := by
          intro t ht
          refine hplain b rfl t ?_
          simp only [List.mem_cons, List.mem_append] at ht
          rcases ht with rfl | ht | ht
          · simp [Baseline.words, hservice]
          · simp [Baseline.words, ht]
          · simp [Baseline.words, ht]
        have hservers : noOption (service :: b.wifi.dnsServers) :=
          noOption.sub hwords (by simp)
        have hdomains : noOption (service :: b.wifi.searchDomains) :=
          noOption.sub hwords (by simp)
        have hsetServers : listValue b.wifi.dnsServers = b.wifi.dnsServers :=
          if_neg hserversEmpty
        have hsetDomains : listValue b.wifi.searchDomains = b.wifi.searchDomains :=
          if_neg hdomainsEmpty
        refine ⟨Function.update fake.dns service ⟨b.wifi.dnsServers, b.wifi.searchDomains⟩, ?_,
          fun last hlast => by simp [hservice, hlast]⟩
        rw [hservice] at htruthy ⊢
        simp only [htruthy, Option.getD_some, Bool.not_true, Bool.false_eq_true, if_false,
          ← hstart]
        by_cases hsame : (fake.dns service).servers = b.wifi.dnsServers
        · by_cases hsame' : (fake.dns service).search = b.wifi.searchDomains
          · have hself : (⟨b.wifi.dnsServers, b.wifi.searchDomains⟩ : Dns) = fake.dns service := by
              rw [← hsame, ← hsame']
            rw [hself, Function.update_eq_self]
            simp [hsame, hsame', FakeHost.execute]
          · simp [hsame, hsame', FakeHost.execute_singleton, FakeHost.simulate_search _ hdomains,
              hsetDomains]
        · by_cases hsame' : (fake.dns service).search = b.wifi.searchDomains
          · simp [hsame, hsame', FakeHost.execute_singleton, FakeHost.simulate_dns _ hservers,
              hsetServers]
          · simp [hsame, hsame', FakeHost.execute_cons, FakeHost.execute,
              FakeHost.simulate_dns _ hservers, FakeHost.simulate_search _ hdomains, hsetServers,
              hsetDomains]
      · refine ⟨fake.dns, by simp [htruthy, FakeHost.execute], fun last hlast => by simp [htruthy]⟩

/-- The services after the order command of R5, if there is one. -/
def orderedServices (identity : IdentityResult) (b : Baseline) (start services : List Service) :
    List Service :=
  if wantOrder b identity.service ≠ [] ∧
      sameSet (wantOrder b identity.service) (currentOrder start identity.service) ∧
      currentOrder start identity.service ≠ wantOrder b identity.service then
    orderServices (wantOrder b identity.service) services
  else services

/-- The services after R5. -/
def restoredServices (identity : IdentityResult) (baseline : Option Baseline)
    (start services : List Service) : List Service :=
  match baseline with
  | none => services
  | some b =>
      setStates (changedStates start b identity.service) (orderedServices identity b start services)

/-- The command that sets the flag of an entry. -/
def enableCommand (entry : String × Bool) : Command where
  argv := ["networksetup", "-setnetworkserviceenabled", entry.1, if entry.2 then "on" else "off"]
  step := .R5
  purpose := "restore enabled state of " ++ entry.1
  targetService := some entry.1

theorem execute_enableCommands (entries : List (String × Bool)) (fake : FakeHost) :
    fake.execute (entries.map enableCommand) =
      some { fake with services := setStates entries fake.services } := by
  induction entries generalizing fake with
  | nil => rfl
  | cons entry entries ih =>
      have hstate : ((if entry.2 then "on" else "off") == "on") = entry.2 := by
        cases entry.2 <;> rfl
      rw [List.map_cons, FakeHost.execute_cons, enableCommand, FakeHost.simulate_enabled, hstate,
        Option.bind_some, ih]
      rfl

/-- The fifth part sets the order and the states of the services. -/
theorem execute_planR5 (hplain : ∀ b, baseline = some b → noOption b.words) :
    fake.execute (planR5Order fakeHost start identity baseline) =
      some { fake with
        services := restoredServices identity baseline start.services fake.services } := by
  match baseline with
  | none => rfl
  | some b =>
      have hnames : noOption (wantOrder b identity.service) :=
        (hplain b rfl).sub fun t ht => by simp [Baseline.words, List.mem_of_mem_filter ht]
      have hread : fakeHost.services start = start.services := rfl
      unfold planR5Order restoredServices orderedServices
      simp only [hread]
      rw [FakeHost.execute_append]
      split
      · rename_i horder
        rw [FakeHost.execute_singleton, FakeHost.simulate_order fake hnames, Option.bind_some]
        exact execute_enableCommands _ _
      · exact execute_enableCommands _ _

/-- What a whole plan leaves. -/
theorem execute_buildRepairPlan (hplain : ∀ b, baseline = some b → noOption b.words)
    (hlists : ∀ b, baseline = some b → listsSettable b)
    (h : fake.execute (buildRepairPlan fakeHost fake identity baseline) = some last) :
    last.services = restoredServices identity baseline fake.services
        (disabledServices identity fake.services fake.services) ∧
      (planR3Ipv4 fakeHost last baseline = [] ∧
        ∀ b, baseline = some b → truthy b.wifi.hardwareDevice = true → modeRestorable b →
          last.wifiIpv4.mode = b.wifi.ipv4Mode) ∧
      planR4Dns fakeHost last baseline = [] := by
  simp only [buildRepairPlan, FakeHost.execute_append, Option.bind_eq_some_iff] at h
  obtain ⟨fourth, ⟨third, ⟨second, ⟨first, hfirst, hsecond⟩, hthird⟩, hfourth⟩, hlast⟩ := h
  obtain ⟨routes, rfl⟩ := execute_planR1 hfirst
  rw [execute_planR2] at hsecond
  obtain rfl := Option.some.inj hsecond
  -- The later steps leave what the earlier ones settled.
  obtain ⟨ipv4, hipv4, hsettled⟩ := execute_planR3 hplain (show FakeHost.wifiIpv4
    { fake with
      routes := routes
      services := disabledServices identity fake.services fake.services } = fake.wifiIpv4 from rfl)
  obtain rfl := Option.some.inj (hipv4.symm.trans hthird)
  obtain ⟨dns, hdns, hequal⟩ := execute_planR4 hplain hlists (show FakeHost.dns
    { fake with
      routes := routes
      services := disabledServices identity fake.services fake.services
      wifiIpv4 := ipv4 } = fake.dns from rfl)
  obtain rfl := Option.some.inj (hdns.symm.trans hfourth)
  rw [execute_planR5 hplain] at hlast
  obtain rfl := Option.some.inj hlast
  exact ⟨rfl, hsettled _ rfl, hequal _ rfl⟩

end Steps

/-! ## The services after a plan -/

section Services

variable {identity : IdentityResult} {b : Baseline} {services : List Service}

theorem disabledServices_map {α : Type} {f : Service → α}
    (hf : ∀ svc state, f { svc with enabled := state } = f svc) (identity : IdentityResult)
    (start services : List Service) :
    (disabledServices identity start services).map f = services.map f := by
  unfold disabledServices
  split
  · rfl
  · split
    · rfl
    · exact setEnabled_map _ _ (fun svc => hf svc _) _

/-- Only the service of the device is disabled. -/
theorem flagsOf_disabledServices {name : String} (h : some name ≠ identity.service)
    (start services : List Service) :
    flagsOf (disabledServices identity start services) name = flagsOf services name := by
  unfold disabledServices
  split
  · rfl
  · rename_i service hservice
    split
    · rfl
    · refine flagsOf_setEnabled ?_ _ _
      rintro rfl
      exact h hservice.symm

/-- The states of the baseline are set, and no others. -/
theorem flagsOf_orderedServices (identity : IdentityResult) (b : Baseline)
    (start services : List Service) (name : String) :
    flagsOf (orderedServices identity b start services) name = flagsOf services name := by
  unfold orderedServices
  split
  · exact flagsOf_orderServices _ _ _
  · rfl

/-- R5 leaves the flags of the BOOTMUX service. -/
theorem not_mem_changedStates {service : String} (h : identity.service = some service)
    (services : List Service) (b : Baseline) :
    service ∉ (changedStates services b identity.service).map Prod.fst := by
  intro hmem
  obtain ⟨entry, hentry, rfl⟩ := List.mem_map.mp hmem
  have hne := (List.mem_filter.mp hentry).2
  simp [h] at hne

theorem flagsOf_ne_nil {name : String} (h : name ∈ services.map (·.name)) :
    flagsOf services name ≠ [] := by
  obtain ⟨svc, hsvc, rfl⟩ := List.mem_map.mp h
  rw [flagsOf, ne_eq, List.map_eq_nil_iff]
  exact List.ne_nil_of_mem (List.mem_filter.mpr ⟨hsvc, beq_self_eq_true _⟩)

/-- After R2 the BOOTMUX service is disabled. -/
theorem serviceEnabled_disabledServices {service : String} (h : identity.service = some service)
    (hname : service ≠ "") (hmem : service ∈ services.map (·.name)) :
    serviceEnabled (disabledServices identity services services) service = false := by
  unfold disabledServices
  rw [h]
  dsimp only
  by_cases hoff : serviceEnabled services service = false
  · rw [if_pos (.inr hoff), hoff]
  · rw [if_neg (by simp [hname, hoff]), serviceEnabled_eq, flagsOf_setEnabled_self]
    obtain ⟨flag, flags, hflags⟩ := List.exists_cons_of_ne_nil (flagsOf_ne_nil hmem)
    rw [hflags]
    rfl

/-- The services that a whole plan leaves. -/
def repairedServices (identity : IdentityResult) (baseline : Option Baseline)
    (services : List Service) : List Service :=
  restoredServices identity baseline services (disabledServices identity services services)

/-- The service of the device is off at the end, whatever the baseline says.
-/
theorem serviceEnabled_repairedServices {service : String} (h : identity.service = some service)
    (hname : service ≠ "") (hmem : service ∈ services.map (·.name)) (baseline : Option Baseline) :
    serviceEnabled (repairedServices identity baseline services) service = false := by
  cases baseline with
  | none => exact serviceEnabled_disabledServices h hname hmem
  | some b =>
      have hout := not_mem_changedStates h services b
      rw [repairedServices, restoredServices, serviceEnabled_eq, flagsOf_setStates_of_not_mem hout,
        flagsOf_orderedServices, ← serviceEnabled_eq]
      exact serviceEnabled_disabledServices h hname hmem

/-- After R5 every entry of the baseline is met. -/
theorem changedStates_repairedServices
    (hkeys : (b.network.serviceEnabledStates.map Prod.fst).Nodup) :
    changedStates (repairedServices identity (some b) services) b identity.service = [] := by
  rw [changedStates, List.filter_eq_nil_iff]
  intro entry hentry hchanged
  rw [Bool.and_eq_true, bne_iff_ne] at hchanged
  obtain ⟨hne, hchanged⟩ := hchanged
  rw [currentEnabled_eq, repairedServices, restoredServices] at hchanged
  have hsub : (changedStates services b identity.service).Sublist b.network.serviceEnabledStates :=
    List.filter_sublist
  by_cases hmem : entry ∈ changedStates services b identity.service
  · rw [flagsOf_setStates_of_mem ((hsub.map Prod.fst).nodup hkeys) hmem, List.getLast?_map]
      at hchanged
    revert hchanged
    cases (flagsOf (orderedServices identity b services _) entry.1).getLast? <;> simp
  · have hout : entry.1 ∉ (changedStates services b identity.service).map Prod.fst := by
      intro hkey
      obtain ⟨other, hother, heq⟩ := List.mem_map.mp hkey
      have hsame := List.inj_on_of_nodup_map hkeys (hsub.mem hother) hentry heq
      exact hmem (hsame ▸ hother)
    rw [flagsOf_setStates_of_not_mem hout, flagsOf_orderedServices, flagsOf_disabledServices hne,
      ← currentEnabled_eq] at hchanged
    exact hmem (List.mem_filter.mpr ⟨hentry, by simpa [hne] using hchanged⟩)

/-- After R5 the services come in the order of the baseline, where both list
the same services. -/
theorem currentOrder_repairedServices (identity : IdentityResult)
    (hnames : (services.map (·.name)).Nodup) (horder : b.network.networkServiceOrder.Nodup) :
    ¬(wantOrder b identity.service ≠ [] ∧
      sameSet (wantOrder b identity.service)
        (currentOrder (repairedServices identity (some b) services) identity.service) ∧
      currentOrder (repairedServices identity (some b) services) identity.service ≠
        wantOrder b identity.service) := by
  have hpairs : ∀ start, (setStates (changedStates services b identity.service) start).map
      (fun svc => (svc.name, svc.order)) = start.map fun svc => (svc.name, svc.order) :=
    fun start => setStates_map (fun _ _ => rfl) _ start
  rw [currentOrder_eq, repairedServices, restoredServices, hpairs, orderedServices]
  split
  · rename_i hreorder
    have hsame : ((orderServices (wantOrder b identity.service)
        (disabledServices identity services services)).map fun svc => (svc.name, svc.order)).map
        Prod.fst = services.map (·.name) := by
      rw [List.map_map]
      exact (orderServices_map (fun _ _ => rfl) _ _).trans
        (disabledServices_map (fun _ _ => rfl) _ _ _)
    have hwantNodup : (wantOrder b identity.service).Nodup := horder.filter _
    refine fun h => h.2.2 (sorted_eq_want hwantNodup ?_ ?_ ?_)
    · rwa [hsame]
    · intro name
      rw [hsame, ← mem_currentOrder]
      exact sameSet_iff.mp hreorder.2.1 name
    · intro p hp hwant
      rw [orderServices_eq hwantNodup, List.map_map] at hp
      obtain ⟨svc, -, rfl⟩ := List.mem_map.mp hp
      by_cases hsvc : svc.name ∈ wantOrder b identity.service
      · simp [hsvc]
      · simp [hsvc] at hwant
  · rename_i hstay
    rw [disabledServices_map (fun _ _ => rfl), ← currentOrder_eq]
    exact hstay

end Services

/-! ## The whole pass -/

section Pass

variable {identity : IdentityResult} {baseline : Option Baseline} {fake last : FakeHost}

/-- What one pass reaches: no step from R2 to R5 plans anything more, and
the verification finds what these steps are for. -/
structure Converged (identity : IdentityResult) (baseline : Option Baseline) (last : FakeHost) :
    Prop where
  r2 : planR2Service fakeHost last identity = []
  r3 : planR3Ipv4 fakeHost last baseline = []
  r4 : planR4Dns fakeHost last baseline = []
  r5 : planR5Order fakeHost last identity baseline = []
  disabled : verify fakeHost last identity baseline .bootmuxServiceDisabled = true
  dns : verify fakeHost last identity baseline .wifiDnsMatchesBaseline = true
  order : verify fakeHost last identity baseline .serviceOrderMatchesBaseline = true
  unrelated : verify fakeHost last identity baseline .unrelatedServicesUnchanged = true
  ipv4 : (∀ b, baseline = some b → modeRestorable b) →
    verify fakeHost last identity baseline .wifiIpv4ModeMatchesBaseline = true

/-- A host and a baseline that name each service once. -/
structure UniqueNames (identity : IdentityResult) (baseline : Option Baseline) (fake : FakeHost) :
    Prop where
  services : (fake.services.map (·.name)).Nodup
  identity : ∀ service, identity.service = some service → service ∈ fake.services.map (·.name)
  order : ∀ b, baseline = some b → b.network.networkServiceOrder.Nodup
  states : ∀ b, baseline = some b → (b.network.serviceEnabledStates.map Prod.fst).Nodup

theorem verify_mode_of_eq {last : FakeHost}
    (h : ∀ b, baseline = some b → truthy b.wifi.hardwareDevice = true →
      last.wifiIpv4.mode = b.wifi.ipv4Mode) :
    verify fakeHost last identity baseline .wifiIpv4ModeMatchesBaseline = true := by
  cases baseline with
  | none => rfl
  | some b =>
      by_cases htruthy : truthy b.wifi.hardwareDevice = true
      · obtain ⟨device, hdevice, hne⟩ := truthy_iff.mp htruthy
        have hmode := h b rfl htruthy
        have hsome : baselineDevice (some b) = some device := by
          simp [baselineDevice, hdevice, hne]
        simp [verify, hsome, fakeHost, hmode]
      · have hnone : baselineDevice (some b) = none := by
          cases hdevice : b.wifi.hardwareDevice with
          | none => simp [baselineDevice, hdevice]
          | some device => simpa [baselineDevice, hdevice, truthy] using htruthy
        simp [verify, hnone]

/-- **One pass converges, except for a BOOTMUX service with the empty
name.** R2 takes that name for no service at all, while the verification
takes it for one that is enabled. -/
theorem repair_converges_iff (hunique : UniqueNames identity baseline fake)
    (hplain : ∀ b, baseline = some b → noOption b.words)
    (hlists : ∀ b, baseline = some b → listsSettable b)
    (h : fake.execute (buildRepairPlan fakeHost fake identity baseline) = some last) :
    Converged identity baseline last ↔ identity.service ≠ some "" := by
  obtain ⟨hservices, ⟨hr3, hmode⟩, hr4⟩ := execute_buildRepairPlan hplain hlists h
  change last.services = repairedServices identity baseline fake.services at hservices
  have hread : fakeHost.services last = repairedServices identity baseline fake.services :=
    hservices
  constructor
  · intro hconverged hempty
    have hdisabled := hconverged.disabled
    simp [verify, hempty] at hdisabled
  · intro hname
    have hoff : ∀ service, identity.service = some service → service ≠ "" ∧
        serviceEnabled (repairedServices identity baseline fake.services) service = false := by
      intro service hservice
      have hne : service ≠ "" := by
        rintro rfl
        exact hname hservice
      exact ⟨hne, serviceEnabled_repairedServices hservice hne (hunique.identity _ hservice) _⟩
    have hr5 : planR5Order fakeHost last identity baseline = [] := by
      cases baseline with
      | none => rfl
      | some b =>
          rw [planR5Order, hread, changedStates_repairedServices (hunique.states b rfl),
            if_neg (currentOrder_repairedServices _ hunique.services (hunique.order b rfl))]
          rfl
    obtain ⟨horder, hunrelated⟩ := verify_services_of_planR5Order fakeHost last hr5
    refine ⟨?_, hr3, hr4, hr5, ?_, verify_dns_of_planR4Dns fakeHost last hr4, horder, hunrelated,
      ?_⟩
    · cases hservice : identity.service with
      | none => simp [planR2Service, hservice]
      | some service => simp [planR2Service, hservice, hread, hoff service hservice]
    · cases hservice : identity.service with
      | none => simp [verify, hservice]
      | some service => simp [verify, hservice, hread, hoff service hservice]
    · intro hrestorable
      exact verify_mode_of_eq fun b hb hdevice => hmode b hb hdevice (hrestorable b hb)

end Pass

/-- The hypotheses are met by a host with a bridge. -/
theorem repair_converges_iff_bridge :
    ∃ last, bridgeFake.execute (buildRepairPlan fakeHost bridgeFake
        (proveIdentity fakeHost bridgeFake) (some bridgeBaseline)) = some last ∧
      Converged (proveIdentity fakeHost bridgeFake) (some bridgeBaseline) last := by
  have hsome : (bridgeFake.execute (buildRepairPlan fakeHost bridgeFake
      (proveIdentity fakeHost bridgeFake) (some bridgeBaseline))).isSome = true := by
    decide +kernel
  obtain ⟨last, hlast⟩ := Option.isSome_iff_exists.mp hsome
  have hservice : (proveIdentity fakeHost bridgeFake).service = some "BOOTMUX USB Ethernet" := by
    decide +kernel
  have hunique : UniqueNames (proveIdentity fakeHost bridgeFake) (some bridgeBaseline)
      bridgeFake := by
    refine ⟨by decide +kernel, ?_, ?_, ?_⟩
    · intro service h
      obtain rfl := Option.some.inj (hservice.symm.trans h)
      decide +kernel
    · rintro b ⟨⟩
      decide +kernel
    · rintro b ⟨⟩
      decide +kernel
  refine ⟨last, hlast, (repair_converges_iff hunique ?_ ?_ hlast).mpr ?_⟩
  · rintro b ⟨⟩
    decide +kernel
  · rintro b ⟨⟩
    exact ⟨by decide +kernel, by decide +kernel⟩
  · rw [hservice]
    decide +kernel

/-- The bridge under a service without a name. -/
def namelessFake : FakeHost :=
  { bridgeFake with services := [⟨1, "Wi-Fi", some "en0", true⟩, ⟨2, "", some "en7", false⟩] }

/-- The service is disabled from the start, and the verification reports
that it is not. -/
theorem nameless_service_reported :
    (namelessFake.services.map (·.name)).Nodup ∧
      (proveIdentity fakeHost namelessFake).service = some "" ∧
      (namelessFake.execute (buildRepairPlan fakeHost namelessFake
        (proveIdentity fakeHost namelessFake) none)).any (fun last =>
          !serviceEnabled last.services "" &&
            !verify fakeHost last (proveIdentity fakeHost namelessFake) none
              .bootmuxServiceDisabled) = true := by
  decide +kernel

end Bootmux.NetworkGuardian
