/-
Bootmux.NetworkGuardian.FrameTheorems — what a repair plan leaves alone on a
`FakeHost`.

`simulate` finds a command by the options among its words, so a service
or a value that is itself an option would be taken for one; `noOption`
excludes that for the words of a baseline. Each command of a plan then
changes one part of the host (`simulate_plan`), and what every command
leaves alone a plan leaves alone, whichever of its commands fail.

`Changes` lists what a command can change, with the plan that the command
comes from. What belongs to no plan (`LeavesUnrelated`) is the lists of
other services, the flags of services that the baseline does not name, the
names and devices of all of them, the power and the network of the Wi-Fi,
and, where the sets of services differ, the order.

The statement is about every subset of failing commands because a repair
goes on after a failure: the execution of a plan (`Executes`) is a walk on
which each command either succeeds or changes nothing.
-/
import Bootmux.NetworkGuardian.RepairTheorems
import Bootmux.NetworkGuardian.RouteTheorems

namespace Bootmux.NetworkGuardian

/-! ## Commands one by one -/

/-- The options that `simulate` looks for. -/
def networksetupOptions : List String :=
  ["-setnetworkserviceenabled", "-setairportpower", "-setairportnetwork", "-setmanual",
    "-setdnsservers", "-setsearchdomains", "-ordernetworkservices"]

/-- No word is an option. -/
def noOption (words : List String) : Prop := ∀ t ∈ words, t ∉ networksetupOptions

instance (words : List String) : Decidable (noOption words) :=
  inferInstanceAs (Decidable (∀ t ∈ words, t ∉ networksetupOptions))

theorem noOption.not_mem {words : List String} (h : noOption words) {option : String}
    (ho : option ∈ networksetupOptions) : option ∉ words :=
  fun hmem => h option hmem ho

namespace FakeHost

variable (fake : FakeHost)

/-- The fake host sets a service. -/
theorem simulate_enabled (name state : String) :
    fake.simulate ["networksetup", "-setnetworkserviceenabled", name, state] =
      some { fake with services := setEnabled name (state == "on") fake.services } := by
  simp [simulate, networksetup, wordAfter]

theorem simulate_dhcp (device : String) :
    fake.simulate ["ipconfig", "set", device, "DHCP"] =
      some { fake with wifiIpv4 := dhcpLease } := by
  simp [simulate]

/-- A `networksetup` command goes by its option, where no other word is one. -/
theorem simulate_networksetup (option : String) {words : List String} (h : noOption words) :
    (∀ other ∈ networksetupOptions, other ≠ option →
      other ∉ "networksetup" :: option :: words) ∧
      fake.simulate ("networksetup" :: option :: words) =
        fake.networksetup ("networksetup" :: option :: words) := by
  refine ⟨fun other hother hne => ?_, by simp [simulate]⟩
  have hprog : other ≠ "networksetup" := by
    rintro rfl
    exact absurd hother (by decide)
  simp [h.not_mem hother, hprog, hne]

/-- A manual configuration is set, if none of its words is an option. -/
theorem simulate_manual {service address mask router : String}
    (h : noOption [service, address, mask, router]) :
    fake.simulate ["networksetup", "-setmanual", service, address, mask, router] =
      some { fake with
        wifiIpv4 := ⟨some "manual", some address, some mask, some router⟩ } := by
  obtain ⟨hother, hsim⟩ := fake.simulate_networksetup "-setmanual" h
  rw [hsim, networksetup, if_neg (hother _ (by decide) (by decide)),
    if_neg (hother _ (by decide) (by decide)), if_neg (hother _ (by decide) (by decide)),
    if_pos (by simp)]
  simp

theorem listValue_setList (values : List String) :
    listValue (if values = [] then ["Empty"] else values) = listValue values := by
  unfold listValue
  by_cases h : values = [] <;> simp [h]

theorem noOption_setList {service : String} {values : List String}
    (h : noOption (service :: values)) :
    noOption (service :: if values = [] then ["Empty"] else values) := by
  intro t ht
  rcases List.mem_cons.mp ht with rfl | ht
  · exact h _ List.mem_cons_self
  · split at ht
    · rw [List.mem_singleton.mp ht]
      decide
    · exact h t (List.mem_cons_of_mem _ ht)

/-- Servers are set, and the word that clears them leaves none. -/
theorem simulate_dns {service : String} {values : List String}
    (h : noOption (service :: values)) :
    fake.simulate (setList "-setdnsservers" service values) =
      some { fake with
        dns := Function.update fake.dns service
          { fake.dns service with servers := listValue values } } := by
  obtain ⟨hother, hsim⟩ := fake.simulate_networksetup "-setdnsservers" (noOption_setList h)
  rw [setList, List.cons_append, List.cons_append, List.singleton_append, hsim, networksetup,
    if_neg (hother _ (by decide) (by decide)), if_neg (hother _ (by decide) (by decide)),
    if_neg (hother _ (by decide) (by decide)), if_neg (hother _ (by decide) (by decide)),
    if_pos (by simp)]
  simp [wordAfter, listValue_setList]

theorem simulate_search {service : String} {values : List String}
    (h : noOption (service :: values)) :
    fake.simulate (setList "-setsearchdomains" service values) =
      some { fake with
        dns := Function.update fake.dns service
          { fake.dns service with search := listValue values } } := by
  obtain ⟨hother, hsim⟩ := fake.simulate_networksetup "-setsearchdomains" (noOption_setList h)
  rw [setList, List.cons_append, List.cons_append, List.singleton_append, hsim, networksetup,
    if_neg (hother _ (by decide) (by decide)), if_neg (hother _ (by decide) (by decide)),
    if_neg (hother _ (by decide) (by decide)), if_neg (hother _ (by decide) (by decide)),
    if_neg (hother _ (by decide) (by decide)), if_pos (by simp)]
  simp [wordAfter, listValue_setList]

theorem simulate_order {names : List String} (h : noOption names) :
    fake.simulate (["networksetup", "-ordernetworkservices"] ++ names) =
      some { fake with services := orderServices names fake.services } := by
  obtain ⟨hother, hsim⟩ :=
    fake.simulate_networksetup "-ordernetworkservices" h
  rw [List.cons_append, List.singleton_append, hsim, networksetup,
    if_neg (hother _ (by decide) (by decide)), if_neg (hother _ (by decide) (by decide)),
    if_neg (hother _ (by decide) (by decide)), if_neg (hother _ (by decide) (by decide)),
    if_neg (hother _ (by decide) (by decide)), if_neg (hother _ (by decide) (by decide)),
    if_pos (by simp)]
  simp

/-- Deleting a route changes routes only. -/
theorem simulate_deleteRoute {next : FakeHost} {r : Route}
    (h : fake.simulate (deleteRoute r).argv = some next) :
    ∃ routes, next = { fake with routes := routes } := by
  rw [simulate, if_pos ⟨rfl, by simp [deleteRoute]⟩, Option.map_eq_some_iff] at h
  obtain ⟨routes, -, rfl⟩ := h
  exact ⟨routes, rfl⟩

end FakeHost

/-! ## Commands of a plan -/

/-- The service names and the values of a baseline. -/
def Baseline.words (baseline : Baseline) : List String :=
  baseline.wifi.serviceName.toList ++ (baseline.wifi.ipv4Address.toList ++
    (baseline.wifi.subnetMask.toList ++ (baseline.wifi.router.toList ++
      (baseline.wifi.dnsServers ++ (baseline.wifi.searchDomains ++
        (baseline.network.networkServiceOrder ++
          baseline.network.serviceEnabledStates.map Prod.fst))))))

/-- What a command of the plan for `start` does to a host. -/
inductive Changes (identity : IdentityResult) (baseline : Option Baseline) (start : FakeHost)
    (fake : FakeHost) : FakeHost → Prop
  | routes (routes : List Route) :
      Changes identity baseline start fake { fake with routes := routes }
  | disabled (service : String) (hservice : identity.service = some service) :
      Changes identity baseline start fake
        { fake with services := setEnabled service false fake.services }
  | ipv4 (ipv4 : Ipv4) : Changes identity baseline start fake { fake with wifiIpv4 := ipv4 }
  | dns (b : Baseline) (hb : baseline = some b) (service : String)
      (hservice : b.wifi.serviceName = some service) (dns : Dns) :
      Changes identity baseline start fake
        { fake with dns := Function.update fake.dns service dns }
  | ordered (b : Baseline) (hb : baseline = some b) (names : List String)
      (hset : sameSet (wantOrder b identity.service)
        (currentOrder start.services identity.service) = true) :
      Changes identity baseline start fake
        { fake with services := orderServices names fake.services }
  | enabled (b : Baseline) (hb : baseline = some b) (entry : String × Bool)
      (hentry : entry ∈ b.network.serviceEnabledStates) (state : Bool) :
      Changes identity baseline start fake
        { fake with services := setEnabled entry.1 state fake.services }

section Plan

variable {identity : IdentityResult} {baseline : Option Baseline} {start fake next : FakeHost}

theorem noOption.sub {words other : List String} (h : noOption words) (hsub : other ⊆ words) :
    noOption other := fun t ht => h t (hsub ht)

/-- The commands of the third part change the IPv4 configuration only. -/
theorem changes_planR3 (hplain : ∀ b, baseline = some b → noOption b.words) {c : Command}
    (hc : c ∈ planR3Ipv4 fakeHost start baseline) (h : fake.simulate c.argv = some next) :
    Changes identity baseline start fake next := by
  match baseline, hc with
  | some b, hc =>
      unfold planR3Ipv4 at hc
      dsimp only at hc
      split_ifs at hc
      · cases hc
      · rw [List.mem_singleton.mp hc, FakeHost.simulate_dhcp] at h
        obtain rfl := Option.some.inj h
        exact .ipv4 _
      · cases hc
      · cases hc
      · cases hc
      · rename_i htruthy _
        simp only [Bool.not_eq_true', Bool.not_eq_false, Bool.and_eq_true, truthy_iff] at htruthy
        obtain ⟨⟨⟨⟨service, hservice, -⟩, address, haddress, -⟩, mask, hmask, -⟩, router, hrouter,
          -⟩ := htruthy
        have hwords : noOption [service, address, mask, router] :=
          (hplain b rfl).sub (by simp [Baseline.words, hservice, haddress, hmask, hrouter])
        rw [List.mem_singleton.mp hc] at h
        simp only [hservice, haddress, hmask, hrouter, Option.getD_some,
          FakeHost.simulate_manual fake hwords, Option.some.injEq] at h
        rw [← h]
        exact .ipv4 _
      · cases hc

/-- Those of the fourth, servers and domains. -/
theorem changes_planR4 (hplain : ∀ b, baseline = some b → noOption b.words) {c : Command}
    (hc : c ∈ planR4Dns fakeHost start baseline) (h : fake.simulate c.argv = some next) :
    Changes identity baseline start fake next := by
  match baseline, hc with
  | some b, hc =>
      unfold planR4Dns at hc
      dsimp only at hc
      split at hc
      · cases hc
      · rename_i htruthy
        rw [Bool.not_eq_true', Bool.not_eq_false, truthy_iff] at htruthy
        obtain ⟨service, hservice, -⟩ := htruthy
        have hservers : noOption (service :: b.wifi.dnsServers) :=
          (hplain b rfl).sub fun t ht => by
            rcases List.mem_cons.mp ht with rfl | ht
            · simp [Baseline.words, hservice]
            · simp [Baseline.words, ht]
        have hdomains : noOption (service :: b.wifi.searchDomains) :=
          (hplain b rfl).sub fun t ht => by
            rcases List.mem_cons.mp ht with rfl | ht
            · simp [Baseline.words, hservice]
            · simp [Baseline.words, ht]
        rw [hservice, Option.getD_some] at hc
        rcases List.mem_append.mp hc with hc | hc
        · split at hc
          · rw [List.mem_singleton.mp hc, FakeHost.simulate_dns fake hservers] at h
            obtain rfl := Option.some.inj h
            exact .dns b rfl service hservice _
          · cases hc
        · split at hc
          · rw [List.mem_singleton.mp hc, FakeHost.simulate_search fake hdomains] at h
            obtain rfl := Option.some.inj h
            exact .dns b rfl service hservice _
          · cases hc

/-- Those of the fifth, order and states. -/
theorem changes_planR5 (hplain : ∀ b, baseline = some b → noOption b.words) {c : Command}
    (hc : c ∈ planR5Order fakeHost start identity baseline)
    (h : fake.simulate c.argv = some next) : Changes identity baseline start fake next := by
  match baseline, hc with
  | some b, hc =>
      unfold planR5Order at hc
      dsimp only at hc
      rcases List.mem_append.mp hc with hc | hc
      · split at hc
        · rename_i hwant
          have hnames : noOption (wantOrder b identity.service) :=
            (hplain b rfl).sub fun t ht => by
              simp [Baseline.words, List.mem_of_mem_filter ht]
          rw [List.mem_singleton.mp hc, FakeHost.simulate_order fake hnames] at h
          obtain rfl := Option.some.inj h
          exact .ordered b rfl _ hwant.2.1
        · cases hc
      · obtain ⟨entry, hentry, rfl⟩ := List.mem_map.mp hc
        rw [FakeHost.simulate_enabled] at h
        obtain rfl := Option.some.inj h
        exact .enabled b rfl entry (List.mem_of_mem_filter hentry) _

/-- A command of a plan does one of these things. -/
theorem changes_buildRepairPlan (hplain : ∀ b, baseline = some b → noOption b.words) {c : Command}
    (hc : c ∈ buildRepairPlan fakeHost start identity baseline)
    (h : fake.simulate c.argv = some next) : Changes identity baseline start fake next := by
  simp only [buildRepairPlan, List.mem_append] at hc
  rcases hc with (((hc | hc) | hc) | hc) | hc
  · obtain ⟨r, -, -, rfl⟩ := (mem_planR1Routes fakeHost start).mp hc
    obtain ⟨routes, rfl⟩ := fake.simulate_deleteRoute h
    exact .routes routes
  · obtain ⟨service, hservice, -, -, rfl⟩ := (mem_planR2Service fakeHost start).mp hc
    rw [FakeHost.simulate_enabled] at h
    obtain rfl := Option.some.inj h
    exact .disabled service hservice
  · exact changes_planR3 hplain hc h
  · exact changes_planR4 hplain hc h
  · exact changes_planR5 hplain hc h

end Plan

/-! ## The services -/

/-- The enabled flags listed under a name. -/
def flagsOf (services : List Service) (name : String) : List Bool :=
  (services.filter (·.name == name)).map (·.enabled)

theorem setEnabled_map {α : Type} {f : Service → α} (name : String) (state : Bool)
    (hf : ∀ svc, f { svc with enabled := state } = f svc) (services : List Service) :
    (setEnabled name state services).map f = services.map f := by
  rw [setEnabled, List.map_map]
  refine List.map_congr_left fun svc _ => ?_
  simp only [Function.comp_apply]
  split
  · exact hf svc
  · rfl

theorem flagsOf_setEnabled {name other : String} (h : other ≠ name) (state : Bool)
    (services : List Service) :
    flagsOf (setEnabled name state services) other = flagsOf services other := by
  induction services with
  | nil => rfl
  | cons svc services ih =>
      rw [flagsOf, flagsOf, setEnabled] at *
      by_cases hname : svc.name = name
      · simpa [hname, h.symm] using ih
      · by_cases hother : svc.name = other
        · simpa [hname, hother, h] using ih
        · simpa [hname, hother] using ih

theorem orderServices_map {α : Type} {f : Service → α}
    (hf : ∀ svc order, f { svc with order := order } = f svc) (names : List String)
    (services : List Service) : (orderServices names services).map f = services.map f := by
  unfold orderServices
  generalize names.zipIdx = entries
  induction entries generalizing services with
  | nil => rfl
  | cons entry entries ih =>
      rw [List.foldl_cons, ih, List.map_map]
      refine List.map_congr_left fun svc _ => ?_
      simp only [Function.comp_apply]
      split
      · exact hf svc _
      · rfl

theorem flagsOf_eq (services : List Service) (name : String) :
    flagsOf services name =
      ((services.map fun svc => (svc.name, svc.enabled)).filter (·.1 == name)).map Prod.snd := by
  rw [List.filter_map, List.map_map]
  rfl

/-- A new order keeps the states. -/
theorem flagsOf_orderServices (names : List String) (services : List Service) (name : String) :
    flagsOf (orderServices names services) name = flagsOf services name := by
  rw [flagsOf_eq, flagsOf_eq, orderServices_map fun _ _ => rfl]

/-- The order of the services is read off their names and places. -/
theorem currentOrder_eq (services : List Service) (bootmuxService : Option String) :
    currentOrder services bootmuxService =
      (((services.map fun svc => (svc.name, svc.order)).insertionSort
        fun a b => a.2 ≤ b.2).map Prod.fst).filter (some · != bootmuxService) := by
  rw [currentOrder, ← List.map_insertionSort (r := fun a b : Service => a.order ≤ b.order),
    List.map_map]
  · rfl
  · exact fun a _ b _ => Iff.rfl

/-- The order that is compared leaves the service of the device out. -/
theorem mem_currentOrder {services : List Service} {name : String}
    {bootmuxService : Option String} :
    name ∈ currentOrder services bootmuxService ↔
      name ∈ services.map (·.name) ∧ some name ≠ bootmuxService := by
  rw [currentOrder, List.mem_filter, ((List.perm_insertionSort _ services).map _).mem_iff,
    bne_iff_ne]

theorem sameSet_iff {a b : List String} : sameSet a b = true ↔ ∀ name, name ∈ a ↔ name ∈ b := by
  simp only [sameSet, Bool.and_eq_true, List.all_eq_true, List.contains_iff_mem]
  exact ⟨fun h name => ⟨h.1 name, h.2 name⟩, fun h => ⟨fun n => (h n).mp, fun n => (h n).mpr⟩⟩

/-! ## What the plans say of the verification -/

section Verify

variable {σ : Type} (host : Host σ) (s : σ) {identity : IdentityResult}
  {baseline : Option Baseline}

/-- Where the plan has nothing to do, the verification agrees. -/
theorem verify_dns_of_planR4Dns (h : planR4Dns host s baseline = []) :
    verify host s identity baseline .wifiDnsMatchesBaseline = true := by
  simp only [verify]
  split
  · rename_i b _ _
    by_cases htruthy : truthy b.wifi.serviceName = true
    · have hservers : (host.dns s (b.wifi.serviceName.getD "")).servers = b.wifi.dnsServers := by
        by_contra hne
        simp [planR4Dns, htruthy, hne] at h
      rw [hservers, beq_self_eq_true, Bool.or_true]
    · simp [htruthy]
  · rfl

theorem verify_services_of_planR5Order (h : planR5Order host s identity baseline = []) :
    verify host s identity baseline .serviceOrderMatchesBaseline = true ∧
      verify host s identity baseline .unrelatedServicesUnchanged = true := by
  cases baseline with
  | none => exact ⟨rfl, rfl⟩
  | some b =>
      unfold planR5Order at h
      dsimp only at h
      rw [List.append_eq_nil_iff, List.map_eq_nil_iff] at h
      obtain ⟨horder, hstates⟩ := h
      refine ⟨?_, by simp [verify, hstates]⟩
      simp only [ite_eq_right_iff, List.cons_ne_nil, imp_false, not_and, not_not] at horder
      simp only [verify, Bool.or_eq_true, Bool.not_eq_true', Bool.and_eq_false_iff,
        bne_eq_false_iff_eq, beq_iff_eq]
      by_contra hnot
      simp only [not_or, Bool.not_eq_false] at hnot
      exact hnot.2 (horder hnot.1.1 hnot.1.2)

end Verify

/-! ## The frame -/

section Frame

variable {identity : IdentityResult} {baseline : Option Baseline} {start fake next last : FakeHost}

/-- A plan of which any commands may fail, without an effect. -/
inductive Executes : FakeHost → List Command → FakeHost → Prop
  | done (fake : FakeHost) : Executes fake [] fake
  | ran {fake next last : FakeHost} {command : Command} {plan : List Command}
      (hrun : fake.simulate command.argv = some next) (hrest : Executes next plan last) :
      Executes fake (command :: plan) last
  | failed {fake last : FakeHost} {command : Command} {plan : List Command}
      (hrest : Executes fake plan last) : Executes fake (command :: plan) last

/-- Executing a plan on a host is one of these, whatever results it gives to
commands. -/
theorem executes_executePlan (fake : FakeHost) (plan : List Command) :
    Executes fake plan (executePlan fakeHost fake plan).1 := by
  rw [executePlan_fst]
  induction plan generalizing fake with
  | nil => exact .done fake
  | cons command plan ih =>
      rw [List.foldl_cons]
      have hrun : (fakeHost.run fake command.argv).1 = fake ∨
          fake.simulate command.argv = some (fakeHost.run fake command.argv).1 := by
        cases hresult : fake.runResults command.argv with
        | some returncode => exact .inl (by simp [fakeHost, FakeHost.run, hresult])
        | none =>
            cases hsim : fake.simulate command.argv with
            | none => exact .inl (by simp [fakeHost, FakeHost.run, hresult, hsim])
            | some next => exact .inr (by simp [fakeHost, FakeHost.run, hresult, hsim])
      rcases hrun with hsame | hran
      · rw [hsame]
        exact .failed (ih fake)
      · exact .ran hran (ih _)

/-- The services other than the BOOTMUX service are not those of the
baseline. -/
def setDiffers (identity : IdentityResult) (baseline : Option Baseline)
    (services : List Service) : Prop :=
  ∀ b, baseline = some b →
    sameSet (wantOrder b identity.service) (currentOrder services identity.service) = false

/-- What every command of the plan for `start` keeps. -/
structure Kept (identity : IdentityResult) (baseline : Option Baseline)
    (start fake last : FakeHost) : Prop where
  dns : ∀ service, (∀ b, baseline = some b → b.wifi.serviceName ≠ some service) →
    last.dns service = fake.dns service
  services : last.services.map (fun svc => (svc.name, svc.device)) =
    fake.services.map fun svc => (svc.name, svc.device)
  enabled : ∀ name, identity.service ≠ some name →
    (∀ b, baseline = some b → name ∉ b.network.serviceEnabledStates.map Prod.fst) →
    flagsOf last.services name = flagsOf fake.services name
  order : setDiffers identity baseline start.services →
    last.services.map (fun svc => (svc.name, svc.order)) =
      fake.services.map fun svc => (svc.name, svc.order)
  power : last.wifiPower = fake.wifiPower
  ssid : last.wifiSsid = fake.wifiSsid

/-- A change elsewhere. -/
theorem Kept.of_eq (hdns : last.dns = fake.dns) (hservices : last.services = fake.services)
    (hpower : last.wifiPower = fake.wifiPower) (hssid : last.wifiSsid = fake.wifiSsid) :
    Kept identity baseline start fake last where
  dns service _ := congrFun hdns service
  services := by rw [hservices]
  enabled _ _ _ := by rw [hservices]
  order _ := by rw [hservices]
  power := hpower
  ssid := hssid

theorem Kept.refl (fake : FakeHost) : Kept identity baseline start fake fake :=
  .of_eq rfl rfl rfl rfl

theorem Kept.trans (h : Kept identity baseline start fake next)
    (h' : Kept identity baseline start next last) : Kept identity baseline start fake last where
  dns service hne := (h'.dns service hne).trans (h.dns service hne)
  services := h'.services.trans h.services
  enabled name hname hlisted := (h'.enabled name hname hlisted).trans (h.enabled name hname hlisted)
  order hset := (h'.order hset).trans (h.order hset)
  power := h'.power.trans h.power
  ssid := h'.ssid.trans h.ssid

/-- Setting the flag of a service keeps the rest. -/
theorem kept_setEnabled {name : String} {state : Bool}
    (h : identity.service = some name ∨
      ∃ b, baseline = some b ∧ name ∈ b.network.serviceEnabledStates.map Prod.fst) :
    Kept identity baseline start fake
      { fake with services := setEnabled name state fake.services } where
  dns _ _ := rfl
  services := setEnabled_map _ _ (fun _ => rfl) _
  enabled other hother hlisted := by
    refine flagsOf_setEnabled ?_ _ _
    rintro rfl
    rcases h with h | ⟨b, hb, hmem⟩
    · exact hother h
    · exact hlisted b hb hmem
  order _ := setEnabled_map _ _ (fun _ => rfl) _
  power := rfl
  ssid := rfl

/-- What a command changes is nothing that has to be kept. -/
theorem Changes.kept (h : Changes identity baseline start fake next) :
    Kept identity baseline start fake next := by
  cases h with
  | routes routes => exact .of_eq rfl rfl rfl rfl
  | disabled service hservice => exact kept_setEnabled (.inl hservice)
  | ipv4 ipv4 => exact .of_eq rfl rfl rfl rfl
  | dns b hb service hservice dns =>
      refine ⟨fun other hother => ?_, rfl, fun _ _ _ => rfl, fun _ => rfl, rfl, rfl⟩
      have hne : other ≠ service := by
        rintro rfl
        exact hother b hb hservice
      exact Function.update_of_ne hne _ _
  | ordered b hb names hset =>
      refine ⟨fun _ _ => rfl, orderServices_map (fun _ _ => rfl) _ _,
        fun _ _ _ => flagsOf_orderServices _ _ _, fun hdiffers => ?_, rfl, rfl⟩
      rw [hdiffers b hb] at hset
      cases hset
  | enabled b hb entry hentry state =>
      exact kept_setEnabled (.inr ⟨b, hb, List.mem_map_of_mem hentry⟩)

/-- The induction over a plan, for any part of it that succeeds. -/
theorem kept_of_executes (hplain : ∀ b, baseline = some b → noOption b.words)
    {plan : List Command} (hplan : ∀ c ∈ plan, c ∈ buildRepairPlan fakeHost start identity baseline)
    (h : Executes fake plan last) : Kept identity baseline start fake last := by
  induction h with
  | done fake => exact .refl fake
  | ran hrun hrest ih =>
      rw [List.forall_mem_cons] at hplan
      exact (changes_buildRepairPlan hplain hplan.1 hrun).kept.trans (ih hplan.2)
  | failed hrest ih =>
      rw [List.forall_mem_cons] at hplan
      exact ih hplan.2

/-- What a repair leaves alone. -/
structure LeavesUnrelated (identity : IdentityResult) (baseline : Option Baseline)
    (fake last : FakeHost) : Prop where
  dns : ∀ service, (∀ b, baseline = some b → b.wifi.serviceName ≠ some service) →
    last.dns service = fake.dns service
  enabled : ∀ name, identity.service ≠ some name →
    (∀ b, baseline = some b → name ∉ b.network.serviceEnabledStates.map Prod.fst) →
    flagsOf last.services name = flagsOf fake.services name
  services : last.services.map (fun svc => (svc.name, svc.device)) =
    fake.services.map fun svc => (svc.name, svc.device)
  order : setDiffers identity baseline fake.services →
    currentOrder last.services none = currentOrder fake.services none
  power : last.wifiPower = fake.wifiPower
  ssid : last.wifiSsid = fake.wifiSsid

/-- **A repair leaves unrelated state alone, whichever of its commands
fail.** -/
theorem repair_leaves_unrelated (hplain : ∀ b, baseline = some b → noOption b.words)
    (h : Executes fake (buildRepairPlan fakeHost fake identity baseline) last) :
    LeavesUnrelated identity baseline fake last := by
  have hkept := kept_of_executes hplain (fun c hc => hc) h
  refine ⟨hkept.dns, hkept.enabled, hkept.services, fun hset => ?_, hkept.power, hkept.ssid⟩
  rw [currentOrder_eq, currentOrder_eq, hkept.order hset]

end Frame

/-- A baseline of the host with the bridge, before it was plugged in. -/
def bridgeBaseline : Baseline where
  wifi := ⟨some "en0", some "Wi-Fi", some true, some "home", some "dhcp", some "192.168.1.50",
    some "255.255.255.0", some "192.168.1.1", ["1.1.1.1"], ["local"]⟩
  network := ⟨["Wi-Fi"], [("Wi-Fi", true)]⟩

/-- The hypotheses are met by a host with a bridge. -/
theorem repair_leaves_unrelated_bridge :
    noOption bridgeBaseline.words ∧
      LeavesUnrelated (proveIdentity fakeHost bridgeFake) (some bridgeBaseline) bridgeFake
        (executePlan fakeHost bridgeFake (buildRepairPlan fakeHost bridgeFake
          (proveIdentity fakeHost bridgeFake) (some bridgeBaseline))).1 := by
  refine ⟨by decide +kernel, repair_leaves_unrelated ?_ (executes_executePlan _ _)⟩
  rintro b ⟨⟩
  decide +kernel

end Bootmux.NetworkGuardian
