/-
Bootmux.NetworkGuardian.NoopTheorems — when a repair on a host without
BOOTMUX state runs nothing, for any JSON in the state file.

With no candidate interface and no route via the peer R1 and R2 plan
nothing. R3 to R5 go by the difference between the host and the baseline,
and R6 by the verification, whoever made that difference:
`repair_noop_iff` says what the host has to look like for a repair to
leave it alone. A value of another type than a captured baseline has is
mostly a difference like any other. A repair that cannot build its plans
raises before any command.

The condition `nothingDue` is on the host and on the JSON of the two blocks.
Each of its parts is a comparison that the source makes: the mode of the
Wi-Fi, its servers and domains, the states and the order of the services,
and the verification with the cooldown. Where a comparison reads a value
that has another type it is made as Python makes it, so an empty text is as
good as an empty list, and a text that is not empty is a list of its
characters.
-/
import Bootmux.NetworkGuardian.FrameTheorems
import Bootmux.NetworkGuardian.JsonRepairTheorems

namespace Bootmux.NetworkGuardian

open Bootmux.Lib

section Noop

variable {σ : Type} (host : JsonHost σ) (s : σ)

/-! ## The steps -/

/-- Without a device and a peer there is no route to delete. -/
theorem planR1Routes_eq_nil {host : Host σ} {identity : IdentityResult}
    (hiface : identity.interface = none)
    (hroutes : ∀ r ∈ host.routes s, r.gateway ≠ some bootmuxPeer) :
    planR1Routes host s identity = [] := by
  rw [planR1Routes, List.map_eq_nil_iff, List.filter_eq_nil_iff]
  intro r hr
  simp [ownedRoute, hiface, hroutes r hr]

/-- The IPv4 configuration of the host is that of the baseline, as far as R3
can restore it. -/
def ipv4Matches (b : JsonBaseline) : Prop :=
  let value := getValue b.wifi
  let current := host.wifiIpv4Of s (value "hardware_device")
  (value "hardware_device").truthy = true →
    ((value "ipv4_mode").isText "dhcp" = true → current.mode = some "dhcp") ∧
    ((value "ipv4_mode").isText "manual" = true → (value "service_name").truthy = true →
      (value "ipv4_address").truthy = true → (value "subnet_mask").truthy = true →
      (value "router").truthy = true →
      current.mode = some "manual" ∧ (value "ipv4_address").equalsText current.address = true ∧
        (value "subnet_mask").equalsText current.subnetMask = true ∧
        (value "router").equalsText current.router = true)

/-- The lists of the Wi-Fi service are those of the baseline. -/
def listsMatch (b : JsonBaseline) : Prop :=
  let service := getValue b.wifi "service_name"
  service.truthy = true →
    (∀ servers ∈ Json.listOf b "dns_servers",
        PyJson.equalTexts servers (host.dnsOf s service).servers = true) ∧
      ∀ search ∈ Json.listOf b "search_domains",
        PyJson.equalTexts search (host.dnsOf s service).search = true

/-- The services come in the order of the baseline, if it lists the same
ones, with the flags it has for them. A `null` in the order counts as the
missing BOOTMUX service. -/
def servicesMatch (b : JsonBaseline) : Prop :=
  (∀ want ∈ Json.wantOrder b none, ∀ names ∈ want.mapM PyJson.asText, names ≠ [] →
    (∀ name, name ∈ names ↔ name ∈ (host.services s).map (·.name)) →
    currentOrder (host.services s) none = names) ∧
  ∀ states ∈ (PyJson.valueOf b.network "service_enabled_states" (.dict [])).toDict,
    ∀ name state, (name, state) ∈ states →
      ∀ current, currentEnabled (host.services s) name = some current →
        state.isFlag current = true

variable {host s}

/-- The third part is empty exactly if the configuration matches. -/
theorem planR3Ipv4_eq_nil_iff {b : JsonBaseline} (h : Json.Readable host b) :
    Json.planR3Ipv4 host s (some b) = some [] ↔ ipv4Matches host s b := by
  unfold Json.planR3Ipv4 ipv4Matches
  dsimp only
  generalize host.wifiIpv4Of s (getValue b.wifi "hardware_device") = current
  cases hdevice : (getValue b.wifi "hardware_device").truthy with
  | false => simp
  | true =>
      rw [h.device hdevice]
      simp only [Bool.not_true, Bool.false_eq_true, if_false, true_implies]
      by_cases hdhcp : (getValue b.wifi "ipv4_mode").isText "dhcp" = true
      · have hmanual : (getValue b.wifi "ipv4_mode").isText "manual" = false := by
          simp only [PyJson.isText, beq_iff_eq] at hdhcp
          simp [PyJson.isText, hdhcp]
        simp [hdhcp, hmanual]
      · by_cases hmanual : (getValue b.wifi "ipv4_mode").isText "manual" = true
        · simp only [hdhcp, hmanual, Bool.false_eq_true, if_false, if_true, true_implies,
            false_implies, true_and, Option.some.injEq]
          generalize (getValue b.wifi "service_name").truthy = service
          generalize (getValue b.wifi "ipv4_address").truthy = address
          generalize (getValue b.wifi "subnet_mask").truthy = mask
          generalize (getValue b.wifi "router").truthy = router
          cases service <;> cases address <;> cases mask <;> cases router <;> simp
        · simp [hdhcp, hmanual]

theorem planR4Dns_eq_nil_iff {b : JsonBaseline} (h : Json.Readable host b) :
    Json.planR4Dns host s (some b) = some [] ↔ listsMatch host s b := by
  unfold Json.planR4Dns listsMatch
  dsimp only
  cases hservice : (getValue b.wifi "service_name").truthy with
  | false => simp
  | true =>
      obtain ⟨htakes, hservers, hsearch⟩ := h.service hservice
      obtain ⟨servers, hservers⟩ := Option.isSome_iff_exists.mp hservers
      obtain ⟨search, hsearch⟩ := Option.isSome_iff_exists.mp hsearch
      rw [hservers, hsearch]
      simp [htakes]

/-- Texts are read one by one. -/
theorem mapM_asText_eq_nil {values : List PyJson} {names : List String}
    (h : values.mapM PyJson.asText = some names) : values = [] ↔ names = [] := by
  cases values with
  | nil => simp_all
  | cons value values =>
      rw [List.mapM_cons, Option.bind_eq_bind, Option.bind_eq_some_iff] at h
      obtain ⟨name, -, h⟩ := h
      rw [Option.bind_eq_bind, Option.bind_eq_some_iff] at h
      obtain ⟨rest, -, h⟩ := h
      rw [← Option.some.inj h]
      simp

/-- R5 leaves the order, as it compares it. -/
theorem order_kept_iff {want : List PyJson} {same : Bool} {services : List Service}
    (hsame : Json.sameSet want (currentOrder services none) = some same) :
    (!want.isEmpty && same && !PyJson.equalTexts want (currentOrder services none)) = false ↔
      ∀ names ∈ want.mapM PyJson.asText, names ≠ [] →
        (∀ name, name ∈ names ↔ name ∈ services.map (·.name)) →
        currentOrder services none = names := by
  rw [Json.sameSet] at hsame
  split at hsame
  · obtain rfl := Option.some.inj hsame
    cases hnames : want.mapM PyJson.asText with
    | none => simp
    | some names =>
        have hset : sameSet names (currentOrder services none) = true ↔
            ∀ name, name ∈ names ↔ name ∈ services.map (·.name) := by
          simp [sameSet_iff, mem_currentOrder]
        have hempty : want.isEmpty = true ↔ names = [] := by
          rw [List.isEmpty_iff, mapM_asText_eq_nil hnames]
        have hequal : PyJson.equalTexts want (currentOrder services none) = true ↔
            currentOrder services none = names := by
          rw [PyJson.equalTexts, hnames, beq_iff_eq, Option.some.injEq, eq_comm]
        simp only [Option.any_some, Option.mem_some_iff, forall_eq', ← hset, ← hequal, ne_eq,
          ← hempty]
        cases want.isEmpty <;> cases sameSet names (currentOrder services none) <;> simp
  · cases hsame

theorem planR5Order_eq_nil_iff {identity : IdentityResult} (hservice : identity.service = none)
    {b : JsonBaseline} (h : Json.Readable host b) :
    Json.planR5Order host s identity (some b) = some [] ↔ servicesMatch host s b := by
  obtain ⟨want, changed, same, hwant, hchanged, hsame⟩ := h.reads (host.services s) none
    (currentOrder (host.services s) none)
  unfold Json.planR5Order servicesMatch
  dsimp only
  rw [hservice, hwant, hchanged]
  dsimp only
  rw [hsame, Option.map_some, Option.some.injEq, List.append_eq_nil_iff, List.map_eq_nil_iff]
  refine and_congr ?_ ?_
  · have hkept := order_kept_iff hsame
    simp only [Option.mem_some_iff, forall_eq']
    rw [← hkept]
    split
    · next hdue => simp [hdue]
    · next hstays => simpa using hstays
  · obtain ⟨states, hstates⟩ := Option.isSome_iff_exists.mp h.states
    rw [Json.changedStates, hstates, Option.map_some, Option.some.injEq] at hchanged
    rw [← hchanged, List.filter_eq_nil_iff, hstates]
    simp only [Option.mem_some_iff, forall_eq', Prod.forall]
    refine forall₃_congr fun name state _ => ?_
    cases currentEnabled (host.services s) name <;> simp

/-- R6 may cycle the power of the Wi-Fi device. -/
def powerCycleAllowed (b : JsonBaseline) (now : ℚ) (last : Option ℚ) : Prop :=
  (getValue b.wifi "hardware_device").truthy = true ∧
    Json.isTrue (getValue b.wifi "power") = true ∧ coolingDown now last = false

theorem buildWifiTogglePlan_ne_nil_iff {b : JsonBaseline} {now : ℚ} {last : Option ℚ} :
    Json.buildWifiTogglePlan (some b) now last ≠ [] ↔ powerCycleAllowed b now last := by
  unfold Json.buildWifiTogglePlan powerCycleAllowed
  simp [and_assoc]

variable (host s)

/-- What the verification finds of the Wi-Fi beyond R3 to R5: the power, the
network it is associated with, the mode and a default route. -/
def wifiVerified (b : JsonBaseline) : Prop :=
  let value := getValue b.wifi
  let device := value "hardware_device"
  (value "power").equalsFlag (host.wifiPowerOf s device) = true ∧
    ((value "associated_ssid").isNull = true ∨
      (value "associated_ssid").isText "<redacted>" = true ∨
      (value "associated_ssid").equalsText (host.wifiSsidOf s device) = true) ∧
    (value "ipv4_mode").equalsText (host.wifiIpv4Of s device).mode = true ∧
    ∃ r ∈ host.routes s, r.destination = some "default"

variable {host s}

/-- Where the plan is empty, what is left to verify is the Wi-Fi. -/
theorem classify_verify_eq_nil_iff {identity : IdentityResult} {b : JsonBaseline}
    (hreadable : Json.Readable host b)
    (hiface : identity.interface = none) (hservice : identity.service = none)
    (hroutes : ∀ r ∈ host.routes s, r.gateway ≠ some bootmuxPeer)
    (hdevice : (getValue b.wifi "hardware_device").truthy = true) (hlists : listsMatch host s b)
    (hservices : servicesMatch host s b) :
    (∀ verification ∈ Json.verify host s identity (some b), classify verification = []) ↔
      wifiVerified host s b := by
  obtain ⟨want, changed, same, hwant, hchanged, hsame⟩ := hreadable.reads (host.services s) none
    (currentOrder (host.services s) none)
  -- R5 planned nothing, so its two keys hold.
  have hnil := (planR5Order_eq_nil_iff hservice hreadable).mpr hservices
  unfold Json.planR5Order at hnil
  dsimp only at hnil
  rw [hservice, hwant, hchanged] at hnil
  dsimp only at hnil
  rw [hsame, Option.map_some, Option.some.injEq, List.append_eq_nil_iff,
    List.map_eq_nil_iff] at hnil
  obtain ⟨hstays, rfl⟩ := hnil
  have horder : (!(!want.isEmpty && same) ||
      PyJson.equalTexts want (currentOrder (host.services s) none)) = true := by
    by_contra hdue
    simp only [Bool.or_eq_true, Bool.not_eq_true', not_or, Bool.not_eq_false,
      Bool.not_eq_true] at hdue
    rw [if_pos (by rw [hdue.1, hdue.2]; rfl)] at hstays
    cases hstays
  have hdns : (!(getValue b.wifi "service_name").truthy ||
      (Json.listOf b "dns_servers").any fun servers => PyJson.equalTexts servers
        (host.dnsOf s (getValue b.wifi "service_name")).servers) = true := by
    cases hname : (getValue b.wifi "service_name").truthy with
    | false => rfl
    | true =>
        obtain ⟨servers, hservers⟩ := Option.isSome_iff_exists.mp (hreadable.service hname).2.1
        rw [hservers]
        exact (hlists hname).1 servers hservers
  have hforeign : ∀ r ∈ host.routes s, ownedRoute identity.interface r = false := by
    intro r hr
    simp [ownedRoute, hiface, hroutes r hr]
  have hscoped : verify host.toHost s identity none .bootmuxScopedRoutesAbsent = true := by
    simpa [verify] using hforeign
  have hdefault : verify host.toHost s identity none .bootmuxDefaultRouteAbsent = true := by
    simp only [verify, Bool.not_eq_true', List.any_eq_false]
    intro r hr
    simp [hforeign r hr]
  have hdisabled : verify host.toHost s identity none .bootmuxServiceDisabled = true := by
    simp [verify, hservice]
  have hroute : verify host.toHost s identity none .wifiDefaultRouteRestored = true ↔
      ∃ r ∈ host.routes s, r.destination = some "default" := by
    simp only [verify, List.any_eq_true, Bool.and_eq_true, beq_iff_eq, Bool.not_eq_true']
    exact exists_congr fun r => and_congr_right fun hr => and_iff_left (hforeign r hr)
  rw [Json.verify_eq hreadable (hservice ▸ hwant) (hservice ▸ hchanged) (hservice ▸ hsame)]
  simp only [Option.mem_some_iff, forall_eq']
  rw [classify, List.filter_eq_nil_iff]
  simp only [verifyKeys, List.forall_mem_cons, Json.answers, hdevice, hdns, hservice, horder,
    hscoped, hdefault, hdisabled, Bool.not_eq_true, Bool.not_eq_false', hroute, wifiVerified,
    Bool.not_true, Bool.false_or, List.isEmpty_nil]
  simp [or_assoc]

/-- A repair behind the checks runs nothing. -/
theorem repairWith_noop_iff {identity : IdentityResult} {b : JsonBaseline} {now : ℚ}
    {last : Option ℚ} :
    ((Json.repairWith host s identity (some b) now last).2.ran = [] ∧
        (Json.repairWith host s identity (some b) now last).2.toggleRan = []) ↔
      (Json.Readable host b →
        Json.buildRepairPlan host s identity (some b) = some [] ∧
          (Json.buildWifiTogglePlan (some b) now last ≠ [] →
            ∀ verification ∈ Json.verify host s identity (some b),
              classify verification = [])) := by
  rw [← Json.buildRepairPlan_isSome_iff host s identity b]
  cases hplan : Json.buildRepairPlan host s identity (some b) with
  | none => simp [Json.repairWith, hplan]
  | some plan =>
      rw [Json.repairWith_ran host hplan, (Json.executePlan_cases host plan s).2.1]
      simp only [Option.isSome_some, true_implies, Option.some.injEq]
      refine and_congr_right fun hnil => ?_
      subst hnil
      obtain ⟨verification, hverify⟩ := Option.isSome_iff_exists.mp (Json.verify_isSome
        ((Json.buildRepairPlan_isSome_iff host s identity b).mp (by rw [hplan]; rfl)) s identity)
      rw [Json.repairWith_toggleRan host hplan rfl hverify, hverify]
      simp only [Json.executePlan, Option.mem_some_iff, forall_eq', true_and]
      split
      · next hcycle =>
          rw [(Json.executePlan_cases host _ s).2.1]
          exact iff_of_false hcycle.2 fun h => hcycle.1 (h hcycle.2)
      · next hstays =>
          refine iff_of_true rfl fun htoggle => ?_
          by_contra hfailed
          exact hstays ⟨hfailed, htoggle⟩

variable (host s)

/-- A repair of this host with this store leaves it alone: it stops at the
identity or at the store, it has no baseline, its plans cannot be built, or
the host is as the baseline has it, the Wi-Fi included unless its power may
not be cycled. -/
def nothingDue (enforceOwner : Bool) (root : StateRoot Members) (now : ℚ) (last : Option ℚ) :
    Prop :=
  (proveIdentity host.toHost s).ambiguous = true ∨
    ∀ members, storeBaseline enforceOwner root = .ok (some members) →
      ∀ b ∈ jsonBaseline members, Json.Readable host b →
        ipv4Matches host s b ∧ listsMatch host s b ∧ servicesMatch host s b ∧
          (powerCycleAllowed b now last → wifiVerified host s b)

variable {host s}

/-- The plan of a readable baseline is empty just when R3 to R5 find no
difference. -/
theorem buildRepairPlan_eq_nil_iff {identity : IdentityResult}
    (hiface : identity.interface = none) (hservice : identity.service = none)
    (hroutes : ∀ r ∈ host.routes s, r.gateway ≠ some bootmuxPeer) {b : JsonBaseline}
    (h : Json.Readable host b) :
    Json.buildRepairPlan host s identity (some b) = some [] ↔
      ipv4Matches host s b ∧ listsMatch host s b ∧ servicesMatch host s b := by
  rw [← planR3Ipv4_eq_nil_iff h, ← planR4Dns_eq_nil_iff h, ← planR5Order_eq_nil_iff hservice h]
  have hr1 : planR1Routes host.toHost s identity = [] := planR1Routes_eq_nil s hiface hroutes
  have hr2 : planR2Service host.toHost s identity = [] := by
    rw [planR2Service, hservice]
  unfold Json.buildRepairPlan
  rw [hr1, hr2]
  cases Json.planR3Ipv4 host s (some b) <;> cases Json.planR4Dns host s (some b) <;>
    cases Json.planR5Order host s identity (some b) <;> simp

/-- **A repair without a proof runs nothing just when nothing is due.** -/
theorem repair_noop_iff (host : JsonHost σ) (s : σ) (enforceOwner : Bool)
    (root : StateRoot Members) (now : ℚ) (last : Option ℚ)
    (hproven : (proveIdentity host.toHost s).proven = false)
    (hroutes : ∀ r ∈ host.routes s, r.gateway ≠ some bootmuxPeer) :
    ((Json.repairOnce host enforceOwner root s now last).2.ran = [] ∧
        (Json.repairOnce host enforceOwner root s now last).2.toggleRan = []) ↔
      nothingDue host s enforceOwner root now last := by
  unfold nothingDue Json.repairOnce
  dsimp only
  split
  · next hambiguous => simp [hambiguous]
  · next hambiguous =>
      obtain ⟨-, -, -, hiface, hservice⟩ | ⟨-, -, -, hproven', -⟩ | ⟨-, -, hambiguous'⟩ :=
        proveIdentity_cases host.toHost s
      · split
        · next hstore => simp [hambiguous, hstore]
        · next hstore => simp [hambiguous, hstore]
        · next hstore =>
            have hr1 := planR1Routes_eq_nil s hiface hroutes
            have hr2 : planR2Service host.toHost s (proveIdentity host.toHost s) = [] := by
              rw [planR2Service, hservice]
            simp [hstore, Json.repairWith, Json.buildRepairPlan, hr1, hr2, Json.planR3Ipv4,
              Json.planR4Dns, Json.planR5Order, Json.executePlan, Json.verify,
              Json.buildWifiTogglePlan]
        · next members hstore =>
            split
            · next hblocks => simp [hambiguous, hstore, hblocks]
            · next b hblocks =>
                rw [repairWith_noop_iff]
                simp only [hambiguous, Bool.false_eq_true, false_or, hstore, Except.ok.injEq,
                  Option.some.injEq, forall_eq', hblocks, Option.mem_some_iff]
                refine imp_congr_right fun hreadable => ?_
                rw [buildRepairPlan_eq_nil_iff hiface hservice hroutes hreadable, and_assoc,
                  and_assoc]
                refine and_congr_right fun _ => and_congr_right fun hlists => ?_
                refine and_congr_right fun hservices => ?_
                rw [buildWifiTogglePlan_ne_nil_iff]
                refine imp_congr_right fun hallowed => ?_
                exact classify_verify_eq_nil_iff hreadable hiface hservice hroutes hallowed.1
                  hlists hservices
      · rw [hproven] at hproven'
        cases hproven'
      · exact absurd hambiguous' hambiguous

end Noop

/-- The bridge as a keyboard only: no interface, no route and no service of
its own. -/
def hidFake : FakeHost :=
  { bridgeFake with
    interfaces := [⟨"en0", ["192.168.1.50"]⟩]
    routes := [⟨some "default", some "192.168.1.1", some "en0", "UGScg"⟩]
    services := [⟨1, "Wi-Fi", some "en0", true⟩] }

/-- A state directory with blocks in its baseline file. -/
def rootWith (baseline : JsonBaseline) : StateRoot Members :=
  .directory 0o700 0
    (some ⟨false, 0o600, 0, stateContent (some (.dict [("schema_version", .int 1),
      ("wifi", .dict baseline.wifi), ("network", .dict baseline.network)]))⟩) none

/-- Blocks that the host matches, none of them of the captured types: the
text without characters for a list, a number for a flag. -/
def looseBaseline : JsonBaseline :=
  { wifi := [("service_name", .str "Wi-Fi"), ("dns_servers", .str "")]
    network := [("service_enabled_states", .dict [("Wi-Fi", .int 1)])] }

/-- A baseline of other types can match: `0` is as false as `false`. -/
theorem looseBaseline_matches : ipv4Matches fakeHost.json hidFake looseBaseline ∧
    listsMatch fakeHost.json hidFake looseBaseline ∧
    servicesMatch fakeHost.json hidFake looseBaseline := by
  refine ⟨fun h => Bool.noConfusion h, fun _ => ⟨?_, ?_⟩, ?_, ?_⟩
  · intro servers hservers
    obtain rfl := Option.some.inj hservers
    rfl
  · intro search hsearch
    obtain rfl := Option.some.inj hsearch
    rfl
  · intro want hwant names hnames hne
    obtain rfl := Option.some.inj hwant
    obtain rfl := Option.some.inj hnames
    exact absurd rfl hne
  · intro states hstates name state hmem current hcurrent
    obtain rfl := Option.some.inj hstates
    obtain ⟨rfl, rfl⟩ := Prod.mk.inj (List.mem_singleton.mp hmem)
    obtain rfl := Option.some.inj hcurrent
    rfl

theorem repair_noop_iff_hid :
    (proveIdentity fakeHost hidFake).proven = false ∧
      (Json.repairOnce fakeHost.json false (rootWith looseBaseline) hidFake 1000 none).2.ran =
        [] ∧
      (Json.repairOnce fakeHost.json false (rootWith looseBaseline) hidFake 1000
        none).2.toggleRan = [] := by
  refine ⟨by decide +kernel, (repair_noop_iff fakeHost.json hidFake false (rootWith looseBaseline)
    1000 none (by decide +kernel) (by decide +kernel)).mpr (.inr ?_)⟩
  intro members hmembers b hb _
  obtain rfl := Option.some.inj (Except.ok.inj hmembers)
  obtain rfl := Option.some.inj hb
  obtain ⟨hipv4, hlists, hservices⟩ := looseBaseline_matches
  exact ⟨hipv4, hlists, hservices, fun h => Bool.noConfusion h.1⟩

/-- The owner changed the DNS servers after the baseline was taken; a repair
with only a keyboard attached sets them back. -/
theorem hid_repair_runs :
    (proveIdentity fakeHost hidFake).proven = false ∧
      (∀ r ∈ hidFake.routes, r.gateway ≠ some bootmuxPeer) ∧
      ((Json.repairOnce fakeHost.json true (rootWith bridgeBaseline.json) hidFake 1000
          none).2.ran.map fun command => command.argv.filterMap PyJson.asText) =
        [["networksetup", "-setdnsservers", "Wi-Fi", "1.1.1.1"],
          ["networksetup", "-setsearchdomains", "Wi-Fi", "local"]] := by
  decide +kernel

end Bootmux.NetworkGuardian
