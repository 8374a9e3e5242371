/-
Bootmux.NetworkGuardian.JsonRepairTheorems — when a repair comes to the end
of its plans, and that on a typed baseline it is the typed repair.

`Readable` says of what JSON the plans can be built: the two blocks may
hold anything that is not used where an operation has no answer
(`buildRepairPlan_isSome_iff`). A plan that was built can be verified
(`verify_isSome`), so only a call of the host raises after that.

`repairWith_typed` connects the two models: with a host that takes texts
and blocks that hold the values of a typed baseline, the repair leaves the
same state and its report is that of the typed repair.

The first part follows the plans in their order, since an earlier one may
raise before a later one is built, and the second follows the verification,
which reads the same values in another way. For the connection, `Reads` says
that a block has the values of a typed one under its keys; each step then
plans the same commands, with their words as JSON texts.

What is proved of the typed repair in the other modules therefore holds of a
state file that this program has written.
-/
import Bootmux.NetworkGuardian.JsonRepair

namespace Bootmux.NetworkGuardian

open Bootmux.Lib
open Bootmux.Lib.PyJson (optStr optFlag strList)

namespace Json

/-! ## What the plans can be built of -/

section Readable

variable {σ : Type} (host : JsonHost σ) (s : σ)

/-- No plan comes to an operation without an answer: the host takes the
device and the service, where there are any, and what is gone through can
be gone through. -/
structure Readable (baseline : JsonBaseline) : Prop where
  device : (getValue baseline.wifi "hardware_device").truthy = true →
    host.takesDevice (getValue baseline.wifi "hardware_device") = true
  service : (getValue baseline.wifi "service_name").truthy = true →
    host.takesService (getValue baseline.wifi "service_name") = true ∧
      (listOf baseline "dns_servers").isSome = true ∧
      (listOf baseline "search_domains").isSome = true
  order : ∃ names,
    (PyJson.valueOf baseline.network "network_service_order" (.list [])).elementsOf = some names ∧
      ∀ name ∈ names, name.hashable = true
  states :
    (PyJson.valueOf baseline.network "service_enabled_states" (.dict [])).toDict.isSome = true

/-- The third part raises exactly if it needs a word that is no text. -/
theorem planR3Ipv4_isSome_iff (baseline : JsonBaseline) :
    (planR3Ipv4 host s (some baseline)).isSome = true ↔
      ((getValue baseline.wifi "hardware_device").truthy = true →
        host.takesDevice (getValue baseline.wifi "hardware_device") = true) := by
  unfold planR3Ipv4
  dsimp only
  cases (getValue baseline.wifi "hardware_device").truthy with
  | false => simp
  | true =>
      cases host.takesDevice (getValue baseline.wifi "hardware_device") with
      | false => simp
      | true =>
          simp only [Bool.not_true, Bool.false_eq_true, if_false, implies_true, iff_true]
          split
          · rfl
          · split
            · rfl
            · rfl

theorem planR4Dns_isSome_iff (baseline : JsonBaseline) :
    (planR4Dns host s (some baseline)).isSome = true ↔
      ((getValue baseline.wifi "service_name").truthy = true →
        host.takesService (getValue baseline.wifi "service_name") = true ∧
          (listOf baseline "dns_servers").isSome = true ∧
          (listOf baseline "search_domains").isSome = true) := by
  unfold planR4Dns
  dsimp only
  cases (getValue baseline.wifi "service_name").truthy with
  | false => simp
  | true =>
      cases listOf baseline "dns_servers" with
      | none => simp
      | some servers =>
          cases listOf baseline "search_domains" with
          | none => simp
          | some search =>
              cases host.takesService (getValue baseline.wifi "service_name") with
              | false => simp
              | true => simp

/-- A service has a hashable name. -/
theorem hashable_of_equalsText {value : PyJson} {text : Option String}
    (h : value.equalsText text = true) : value.hashable = true := by
  cases value <;> cases text <;>
    simp_all [PyJson.equalsText, PyJson.isNull, PyJson.isText, PyJson.asText, PyJson.hashable]

theorem sameSet_isSome_iff (want : List PyJson) (current : List String) :
    (sameSet want current).isSome = true ↔ ∀ name ∈ want, name.hashable = true := by
  rw [sameSet]
  split
  · next hall => simpa using hall
  · next hall => simpa using hall

theorem planR5Order_isSome_iff (identity : IdentityResult) (baseline : JsonBaseline) :
    (planR5Order host s identity (some baseline)).isSome = true ↔
      (∃ names, (PyJson.valueOf baseline.network "network_service_order" (.list [])).elementsOf =
          some names ∧ ∀ name ∈ names, name.hashable = true) ∧
        (PyJson.valueOf baseline.network "service_enabled_states" (.dict [])).toDict.isSome =
          true := by
  unfold planR5Order wantOrder changedStates
  dsimp only
  cases (PyJson.valueOf baseline.network "network_service_order" (.list [])).elementsOf with
  | none => simp
  | some names =>
      cases (PyJson.valueOf baseline.network "service_enabled_states" (.dict [])).toDict with
      | none => simp
      | some entries =>
          simp only [Option.map_some, Option.isSome_map, sameSet_isSome_iff, List.mem_filter,
            Bool.not_eq_true', and_imp, Option.some.injEq, exists_eq_left', Option.isSome_some,
            and_true]
          refine forall₂_congr fun name _ => ?_
          constructor
          · intro h
            cases hname : name.equalsText identity.service with
            | true => exact hashable_of_equalsText hname
            | false => exact h hname
          · exact fun h _ => h

/-- The plans can be built just of what is readable. -/
theorem buildRepairPlan_isSome_iff (identity : IdentityResult) (baseline : JsonBaseline) :
    (buildRepairPlan host s identity (some baseline)).isSome = true ↔ Readable host baseline := by
  have hparts : (buildRepairPlan host s identity (some baseline)).isSome = true ↔
      (planR3Ipv4 host s (some baseline)).isSome = true ∧
        (planR4Dns host s (some baseline)).isSome = true ∧
        (planR5Order host s identity (some baseline)).isSome = true := by
    unfold buildRepairPlan
    cases planR3Ipv4 host s (some baseline) <;> cases planR4Dns host s (some baseline) <;>
      cases planR5Order host s identity (some baseline) <;> simp
  rw [hparts, planR3Ipv4_isSome_iff, planR4Dns_isSome_iff, planR5Order_isSome_iff]
  exact ⟨fun ⟨hdevice, hservice, horder, hstates⟩ => ⟨hdevice, hservice, horder, hstates⟩,
    fun h => ⟨h.device, h.service, h.order, h.states⟩⟩

/-- What R5 and the verification read of a readable baseline. -/
theorem Readable.reads {host : JsonHost σ} {baseline : JsonBaseline} (h : Readable host baseline)
    (services : List Service) (service : Option String) (current : List String) :
    ∃ want changed same, wantOrder baseline service = some want ∧
      changedStates services baseline service = some changed ∧
      sameSet want current = some same := by
  obtain ⟨names, hnames, hhashable⟩ := h.order
  obtain ⟨entries, hentries⟩ := Option.isSome_iff_exists.mp h.states
  have hsame : (sameSet (names.filter fun name => !name.equalsText service) current).isSome =
      true :=
    (sameSet_isSome_iff _ _).mpr fun name hname => hhashable name (List.mem_filter.mp hname).1
  obtain ⟨same, hsame⟩ := Option.isSome_iff_exists.mp hsame
  exact ⟨_, _, same, by rw [wantOrder, hnames]; rfl, by rw [changedStates, hentries]; rfl, hsame⟩

/-- What can be planned can be verified. -/
theorem verify_eq {host : JsonHost σ} {baseline : JsonBaseline} (h : Readable host baseline)
    {s : σ} {identity : IdentityResult} {want : List PyJson} {changed : Members} {same : Bool}
    (hwant : wantOrder baseline identity.service = some want)
    (hchanged : changedStates (host.services s) baseline identity.service = some changed)
    (hsame : sameSet want (currentOrder (host.services s) identity.service) = some same) :
    verify host s identity (some baseline) =
      some (answers host s identity baseline want changed same) := by
  unfold verify
  dsimp only
  rw [if_neg, if_neg, hwant, hchanged]
  · dsimp only
    rw [hsame]
    rfl
  · simp only [Bool.and_eq_true, Bool.not_eq_true', Bool.and_eq_false_iff, not_and, not_or]
    rintro ⟨-, hservice⟩
    simp [h.service hservice]
  · simp only [Bool.and_eq_true, Bool.not_eq_true', not_and]
    intro hdevice
    simp [h.device hdevice]

/-- A readable baseline is verified without an error. -/
theorem verify_isSome {host : JsonHost σ} {baseline : JsonBaseline} (h : Readable host baseline)
    (s : σ) (identity : IdentityResult) :
    (verify host s identity (some baseline)).isSome = true := by
  obtain ⟨want, changed, same, hwant, hchanged, hsame⟩ := h.reads (host.services s)
    identity.service (currentOrder (host.services s) identity.service)
  rw [verify_eq h hwant hchanged hsame]
  rfl

end Readable

/-! ## Running a plan -/

section Execution

variable {σ : Type} (host : JsonHost σ)

/-- A plan ends without an exception if the host takes its commands, and then
all of them were given to it. -/
theorem executePlan_cases (plan : List JsonCommand) (s : σ) :
    ((executePlan host s plan).2.raised = false ↔
        ∀ command ∈ plan, host.takesArgv command.argv = true) ∧
      ((executePlan host s plan).2.given = [] ↔ plan = []) ∧
      ((executePlan host s plan).2.raised = false →
        (executePlan host s plan).2.given = plan) := by
  induction plan generalizing s with
  | nil => simp [executePlan]
  | cons command plan ih =>
      cases htakes : host.takesArgv command.argv with
      | false => simp [executePlan, htakes]
      | true =>
          obtain ⟨hraised, -, hgiven⟩ := ih (host.runOf s command.argv).1
          refine ⟨?_, ?_, ?_⟩
          · simpa [executePlan, htakes] using hraised
          · simp [executePlan, htakes]
          · simpa [executePlan, htakes] using hgiven

/-- A repair runs its plan first. -/
theorem repairWith_ran {s : σ} {identity : IdentityResult} {baseline : Option JsonBaseline}
    {plan : List JsonCommand} (h : buildRepairPlan host s identity baseline = some plan) (now : ℚ)
    (last : Option ℚ) :
    (repairWith host s identity baseline now last).2.ran = (executePlan host s plan).2.given := by
  unfold repairWith
  rw [h]
  dsimp only
  split
  · rfl
  · split
    · rfl
    · split
      · split
        · rfl
        · split
          · rfl
          · rfl
      · rfl

/-- After a plan that ended and was verified comes the power cycle, if it is
due. -/
theorem repairWith_toggleRan {s : σ} {identity : IdentityResult}
    {baseline : Option JsonBaseline} {plan : List JsonCommand}
    (h : buildRepairPlan host s identity baseline = some plan)
    (hraised : (executePlan host s plan).2.raised = false) {verification : VerifyKey → Bool}
    (hverify : verify host (executePlan host s plan).1 identity baseline = some verification)
    (now : ℚ) (last : Option ℚ) :
    (repairWith host s identity baseline now last).2.toggleRan =
      if classify verification ≠ [] ∧ (executePlan host s plan).2.ok = true ∧
          buildWifiTogglePlan baseline now last ≠ [] then
        (executePlan host (executePlan host s plan).1
          (buildWifiTogglePlan baseline now last)).2.given
      else [] := by
  unfold repairWith
  rw [h]
  dsimp only
  rw [if_neg (by rw [hraised]; exact Bool.false_ne_true), hverify]
  simp only [Bool.not_eq_true', List.isEmpty_eq_false_iff]
  split
  · split
    · rfl
    · split
      · rfl
      · rfl
  · rfl

end Execution

/-! ## Typed baselines -/

section Typed

variable {σ : Type} (host : Host σ) (s : σ)

/-- A report of commands of texts. -/
def typedReport (report : RepairReport) : Report where
  identity := report.identity
  classification := report.classification
  toggled := report.toggled
  ran := report.ran.map (·.json)
  toggleRan := report.toggleRan.map (·.json)

theorem truthy_optStr (value : Option String) : (optStr value).truthy = truthy value :=
  PyJson.truthy_optStr value

/-- A value that counts as true is a text. -/
theorem optStr_getD {value : Option String} (h : truthy value = true) :
    optStr value = .str (value.getD "") := by
  obtain ⟨text, rfl, -⟩ := truthy_iff.mp h
  rfl

/-- On a baseline as the guardian writes it, the plan is the typed one. -/
theorem planR3Ipv4_typed {json : JsonBaseline} {baseline : Baseline} (h : Reads json baseline) :
    planR3Ipv4 host.json s (some json) =
      some ((NetworkGuardian.planR3Ipv4 host s (some baseline)).map (·.json)) := by
  unfold planR3Ipv4 NetworkGuardian.planR3Ipv4
  dsimp only
  rw [h.hardwareDevice, h.serviceName, h.ipv4Mode, h.ipv4Address, h.subnetMask, h.router]
  simp only [Host.json, truthy_optStr, PyJson.asText_optStr, PyJson.isText_optStr,
    PyJson.equalsText_optStr, beq_iff_eq]
  cases hdevice : truthy baseline.wifi.hardwareDevice with
  | false => simp
  | true =>
      have htakes : baseline.wifi.hardwareDevice.isSome = true :=
        (Bool.and_eq_true_iff.mp hdevice).1
      rw [htakes, optStr_getD hdevice]
      simp only [Bool.not_true, Bool.false_eq_true, if_false]
      split
      · split
        · rfl
        · rfl
      · split
        · split
          · rfl
          · next hcomplete =>
              simp only [Bool.not_eq_true', Bool.not_eq_false, Bool.and_eq_true] at hcomplete
              obtain ⟨⟨⟨hservice, haddress⟩, hmask⟩, hrouter⟩ := hcomplete
              rw [optStr_getD hservice, optStr_getD haddress, optStr_getD hmask,
                optStr_getD hrouter]
              split
              · rfl
              · rfl
        · rfl

theorem setList_typed (option service : String) (values : List String) :
    setList option (.str service) (values.map .str) =
      (NetworkGuardian.setList option service values).map .str := by
  cases values with
  | nil => rfl
  | cons value values => simp [setList, NetworkGuardian.setList]

theorem planR4Dns_typed {json : JsonBaseline} {baseline : Baseline} (h : Reads json baseline) :
    planR4Dns host.json s (some json) =
      some ((NetworkGuardian.planR4Dns host s (some baseline)).map (·.json)) := by
  unfold planR4Dns NetworkGuardian.planR4Dns listOf
  dsimp only
  rw [h.serviceName, h.dnsServers, h.searchDomains]
  simp only [Host.json, truthy_optStr, PyJson.asText_optStr, PyJson.elementsOf_strList,
    PyJson.equalTexts_str, beq_iff_eq]
  cases hservice : truthy baseline.wifi.serviceName with
  | false => simp
  | true =>
      have htakes : baseline.wifi.serviceName.isSome = true := (Bool.and_eq_true_iff.mp hservice).1
      rw [htakes, optStr_getD hservice, setList_typed, setList_typed]
      simp only [Bool.not_true, Bool.false_eq_true, if_false, List.map_append, Option.some.injEq]
      congr 1
      · by_cases hsame : (host.dns s (baseline.wifi.serviceName.getD "")).servers =
            baseline.wifi.dnsServers
        · simp [hsame]
        · simp [hsame, Command.json]
      · by_cases hsame : (host.dns s (baseline.wifi.serviceName.getD "")).search =
            baseline.wifi.searchDomains
        · simp [hsame]
        · simp [hsame, Command.json]

theorem wantOrder_typed {json : JsonBaseline} {baseline : Baseline} (h : Reads json baseline)
    (service : Option String) :
    wantOrder json service =
      some ((NetworkGuardian.wantOrder baseline service).map .str) := by
  have hkeeps : ((fun name : PyJson => !name.equalsText service) ∘ PyJson.str) =
      fun name : String => some name != service := by
    funext name
    simp [bne, Bool.beq_comm]
  rw [wantOrder, h.order, PyJson.elementsOf_strList, Option.map_some, List.filter_map, hkeeps]
  rfl

theorem sameSet_typed (want current : List String) :
    sameSet (want.map .str) current = some (NetworkGuardian.sameSet want current) := by
  rw [sameSet, if_pos, PyJson.mapM_asText_str]
  · rfl
  · simp [PyJson.hashable]

theorem changedStates_typed {json : JsonBaseline} {baseline : Baseline} (h : Reads json baseline)
    (services : List Service) (service : Option String) :
    changedStates services json service =
      some ((NetworkGuardian.changedStates services baseline service).map fun entry =>
        (entry.1, .bool entry.2)) := by
  rw [changedStates, h.states, NetworkGuardian.changedStates, PyJson.toDict, Option.map_some,
    List.filter_map]
  congr 3
  funext entry
  simp only [Function.comp_apply]
  cases currentEnabled services entry.1 with
  | none => rfl
  | some state => simp [bne, Bool.beq_comm]

theorem not_isEmpty_map (want : List String) :
    (!(want.map PyJson.str).isEmpty) = (want != []) := by
  cases want <;> rfl

theorem planR5Order_typed {json : JsonBaseline} {baseline : Baseline} (h : Reads json baseline)
    (identity : IdentityResult) :
    planR5Order host.json s identity (some json) =
      some ((NetworkGuardian.planR5Order host s identity (some baseline)).map (·.json)) := by
  unfold planR5Order NetworkGuardian.planR5Order
  dsimp only
  rw [wantOrder_typed h, changedStates_typed h]
  dsimp only
  rw [sameSet_typed]
  simp only [Host.json, Option.map_some, List.map_append, List.map_map, PyJson.equalTexts_str,
    not_isEmpty_map]
  have hdue (want current : List String) :
      (want != [] && NetworkGuardian.sameSet want current && !(current == want)) = true ↔
        want ≠ [] ∧ NetworkGuardian.sameSet want current = true ∧ current ≠ want := by
    simp [and_assoc]
  congr 2
  simp only [hdue]
  split
  · rfl
  · rfl

theorem buildRepairPlan_typed {json : JsonBaseline} {baseline : Baseline}
    (h : Reads json baseline) (identity : IdentityResult) :
    buildRepairPlan host.json s identity (some json) =
      some ((NetworkGuardian.buildRepairPlan host s identity (some baseline)).map (·.json)) := by
  unfold buildRepairPlan
  rw [planR3Ipv4_typed host s h, planR4Dns_typed host s h, planR5Order_typed host s h]
  simp only [Option.bind_eq_bind, Option.bind_some, NetworkGuardian.buildRepairPlan,
    List.map_append]
  rfl

theorem buildWifiTogglePlan_typed {json : JsonBaseline} {baseline : Baseline}
    (h : Reads json baseline) (now : ℚ) (last : Option ℚ) :
    buildWifiTogglePlan (some json) now last =
      (NetworkGuardian.buildWifiTogglePlan (some baseline) now last).map (·.json) := by
  unfold buildWifiTogglePlan NetworkGuardian.buildWifiTogglePlan
  dsimp only
  rw [h.hardwareDevice, h.associatedSsid, h.power]
  have hpower : isTrue (optFlag baseline.wifi.power) = (baseline.wifi.power == some true) := by
    rcases baseline.wifi.power with - | - | -
    · rfl
    · rfl
    · rfl
  simp only [truthy_optStr, hpower, bne]
  split
  · rfl
  · next hgo =>
      simp only [Bool.or_eq_true, Bool.not_eq_true', not_or, Bool.not_eq_false] at hgo
      rw [optStr_getD hgo.1.1]
      split
      · next hssid =>
          rw [optStr_getD hssid]
          rfl
      · rfl

theorem executePlan_typed (plan : List Command) :
    executePlan host.json s (plan.map (·.json)) =
      ((NetworkGuardian.executePlan host s plan).1,
        ⟨plan.map (·.json), (NetworkGuardian.executePlan host s plan).2.ok, false⟩) := by
  induction plan generalizing s with
  | nil => rfl
  | cons command plan ih =>
      have htakes : host.json.takesArgv command.json.argv = true := by
        simp [Host.json, Command.json, PyJson.asText]
      have hrun : host.json.runOf s command.json.argv = host.run s command.argv := by
        have hwords : (command.argv.map PyJson.str).filterMap PyJson.asText = command.argv := by
          induction command.argv with
          | nil => rfl
          | cons word words ih => simp [PyJson.asText, ih]
        simp [Host.json, Command.json, hwords]
      rw [List.map_cons, executePlan, htakes, NetworkGuardian.executePlan]
      simp only [Bool.not_true, Bool.false_eq_true, if_false, hrun, ih]
      by_cases hcode : (host.run s command.argv).2 = 0
      · simp [hcode]
      · simp [hcode]

theorem verify_typed {json : JsonBaseline} {baseline : Baseline} (h : Reads json baseline)
    (identity : IdentityResult) :
    verify host.json s identity (some json) =
      some (NetworkGuardian.verify host s identity (some baseline)) := by
  unfold verify answers
  dsimp only
  rw [wantOrder_typed h, changedStates_typed h, listOf, h.hardwareDevice, h.serviceName,
    h.associatedSsid, h.dnsServers, h.power, h.ipv4Mode]
  dsimp only
  rw [sameSet_typed]
  simp only [Host.json, truthy_optStr, PyJson.asText_optStr, PyJson.elementsOf_strList,
    PyJson.equalTexts_str, PyJson.equalsText_optStr, PyJson.equalsFlag_optFlag,
    PyJson.isText_optStr, PyJson.isNull_optStr, Option.isSome_some, Bool.and_true,
    Option.map_some, not_isEmpty_map]
  have htext (value : Option String) : (truthy value && !value.isSome) = false := by
    cases value <;> simp [truthy]
  rw [htext, Bool.and_assoc, htext, Bool.and_false, if_neg Bool.false_ne_true,
    if_neg Bool.false_ne_true]
  congr 1
  funext key
  cases hdevice : truthy baseline.wifi.hardwareDevice with
  | false =>
      have hread : baselineDevice (some baseline) = none := by
        cases hvalue : baseline.wifi.hardwareDevice <;> simp_all [baselineDevice, truthy]
      cases key <;> simp [NetworkGuardian.verify, hread]
  | true =>
      obtain ⟨device, hvalue, hne⟩ := truthy_iff.mp hdevice
      have hread : baselineDevice (some baseline) = some device := by
        simp [baselineDevice, hvalue, hne]
      cases key <;> simp [NetworkGuardian.verify, hread, hvalue]

/-- **On a typed baseline the repair is the typed one.** -/
theorem repairWith_typed {json : JsonBaseline} {baseline : Baseline} (h : Reads json baseline)
    (identity : IdentityResult) (now : ℚ) (last : Option ℚ) :
    repairWith host.json s identity (some json) now last =
      ((NetworkGuardian.repairWith host s identity (some baseline) now last).1,
        typedReport (NetworkGuardian.repairWith host s identity (some baseline) now last).2) := by
  unfold repairWith NetworkGuardian.repairWith
  rw [buildRepairPlan_typed host s h]
  dsimp only
  rw [executePlan_typed, buildWifiTogglePlan_typed h]
  dsimp only
  rw [if_neg Bool.false_ne_true, verify_typed host _ h]
  dsimp only
  have hcycles : (!((NetworkGuardian.buildWifiTogglePlan (some baseline) now last).map
      Command.json).isEmpty) = true ↔
        NetworkGuardian.buildWifiTogglePlan (some baseline) now last ≠ [] := by
    simp
  simp only [hcycles]
  split
  · rw [executePlan_typed]
    dsimp only
    rw [if_neg Bool.false_ne_true, verify_typed host _ h]
    rfl
  · rfl

end Typed

end Json

end Bootmux.NetworkGuardian
