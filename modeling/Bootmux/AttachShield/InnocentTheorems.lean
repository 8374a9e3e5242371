/-
Bootmux.AttachShield.InnocentTheorems — which services a session disables.

`Host.logged` is a host that keeps the commands it is given. With it a
recovery disables exactly the services of the baseline that resemble the
port of an untrusted interface (`mem_recoveryLog`), and a quarantine those
that it identifies (`mem_quarantineLog`). No innocent service is among them
if and only if none of their names resembles such a port
(`innocent_spared_iff`).

A service is innocent if the device that it is bound to does not carry the
bridge (`carries`). The shield compares names, in lower case and word by
word, so an innocent service can look like the port of the bridge.
`Distinguishable` says that none does. It is a condition on the names of the
services and ports, before the commands that disable any.

The log is needed because a disabled service leaves no trace that could not
have another cause. It changes nothing (`run_unlogged`), so the statement is
about the session as it is.
-/
import Bootmux.AttachShield.CloseTheorems
import Bootmux.AttachShield.RunTheorems

namespace Bootmux.AttachShield

/-! ## A host with a log -/

section Logged

variable {σ : Type} (host : Host σ)

/-- The host, and the commands that it was given. -/
def Host.logged : Host (σ × List Command) where
  lower := host.lower
  currentLocation s := host.currentLocation s.1
  hasLocation s := host.hasLocation s.1
  locationSupported s := host.locationSupported s.1
  hardwarePorts s := host.hardwarePorts s.1
  serviceOrder s := host.serviceOrder s.1
  airportPower s := host.airportPower s.1
  associated s := host.associated s.1
  info s := host.info s.1
  defaultRoute s := host.defaultRoute s.1
  dnsServers s := host.dnsServers s.1
  searchDomains s := host.searchDomains s.1
  pfEnabled s := host.pfEnabled s.1
  pfAnchors s := host.pfAnchors s.1
  subnetInNwi s := host.subnetInNwi s.1
  subnetInterface s := host.subnetInterface s.1
  netstat s := host.netstat s.1
  daemonLoaded s := host.daemonLoaded s.1
  shieldFiles s := host.shieldFiles s.1
  run s c := (((host.run s.1 c).1, s.2 ++ [c]), (host.run s.1 c).2)
  saveState s := (host.saveState s.1, s.2)

def Shield.logged (sh : Shield σ) : Shield (σ × List Command) := ⟨(sh.host, []), sh.journal⟩

def Shield.unlogged (sh : Shield (σ × List Command)) : Shield σ := ⟨sh.host.1, sh.journal⟩

/-- The commands of a recovery. -/
def recoveryLog (baseline : Baseline) (untrusted : List String) (sh : Shield σ) : List Command :=
  (runRecovery host.logged baseline untrusted sh.logged).1.host.2

/-- The commands of a quarantine. -/
def quarantineLog (baseline : Baseline) (sh : Shield σ) : List Command :=
  (quarantineBootmux host.logged baseline sh.logged).1.host.2

variable {host}

/-! ### The log changes nothing else -/

/-- The log of the commands does not change what they do. -/
theorem run_unlogged (sh : Shield (σ × List Command)) (commands : List Command) :
    (sh.run host.logged commands).unlogged = sh.unlogged.run host commands := by
  have hrun : runAll host sh.host.1 commands = (runAll host.logged sh.host commands).1 :=
    List.foldl_hom Prod.fst fun _ _ => rfl
  rw [Shield.run, Shield.run, Shield.unlogged, Shield.unlogged, hrun]

/-- A loop over shields with something else. -/
theorem foldl_unlogged {α β : Type} {f : Shield σ × β → α → Shield σ × β}
    {g : Shield (σ × List Command) × β → α → Shield (σ × List Command) × β}
    (h : ∀ acc x, f (acc.1.unlogged, acc.2) x = ((g acc x).1.unlogged, (g acc x).2))
    (xs : List α) (acc : Shield (σ × List Command) × β) :
    xs.foldl f (acc.1.unlogged, acc.2) =
      ((xs.foldl g acc).1.unlogged, (xs.foldl g acc).2) :=
  List.foldl_hom (fun acc : Shield (σ × List Command) × β => (acc.1.unlogged, acc.2)) h

theorem recoverBlock_unlogged (baseline : Baseline) (untrusted : List String)
    (acc : Shield (σ × List Command) × Steps) :
    recoverBlock host baseline untrusted (acc.1.unlogged, acc.2) =
      ((recoverBlock host.logged baseline untrusted acc).1.unlogged,
        (recoverBlock host.logged baseline untrusted acc).2) := by
  refine foldl_unlogged (fun acc iface => ?_) untrusted acc
  simp only [pfInstallAnchor]
  split <;> rfl

theorem recoverServices_unlogged (baseline : Baseline) (untrusted : List String)
    (acc : Shield (σ × List Command) × Steps) :
    recoverServices host baseline untrusted (acc.1.unlogged, acc.2) =
      ((recoverServices host.logged baseline untrusted acc).1.unlogged,
        (recoverServices host.logged baseline untrusted acc).2) :=
  foldl_unlogged (fun _ _ => rfl) _ acc

theorem recoverRoutes_unlogged (untrusted : List String)
    (acc : Shield (σ × List Command) × Steps) :
    recoverRoutes host untrusted (acc.1.unlogged, acc.2) =
      ((recoverRoutes host.logged untrusted acc).1.unlogged,
        (recoverRoutes host.logged untrusted acc).2) :=
  foldl_unlogged (fun _ _ => rfl) _ acc

theorem recoverBaseline_unlogged (baseline : Baseline)
    (acc : Shield (σ × List Command) × Steps) :
    recoverBaseline host baseline (acc.1.unlogged, acc.2) =
      ((recoverBaseline host.logged baseline acc).1.unlogged,
        (recoverBaseline host.logged baseline acc).2) := by
  simp only [recoverBaseline, run_unlogged]

theorem recoverWifi_unlogged (baseline : Baseline)
    (acc : Shield (σ × List Command) × Steps) :
    recoverWifi host baseline (acc.1.unlogged, acc.2) =
      ((recoverWifi host.logged baseline acc).1.unlogged,
        (recoverWifi host.logged baseline acc).2) := by
  have hassociated : host.logged.associated acc.1.host baseline.wifiDevice =
      host.associated acc.1.unlogged.host baseline.wifiDevice := rfl
  simp only [recoverWifi, hassociated]
  split
  · rfl
  · rw [run_unlogged]

theorem recoverIncomplete_unlogged (baseline : Baseline)
    (acc : Shield (σ × List Command) × Steps) :
    recoverIncomplete host baseline (acc.1.unlogged, acc.2) =
      ((recoverIncomplete host.logged baseline acc).1.unlogged,
        (recoverIncomplete host.logged baseline acc).2) := by
  simp only [recoverIncomplete]
  split
  · rw [run_unlogged]
  · rfl

/-- A recovery on the host with a log is the recovery on the host. -/
theorem runRecovery_unlogged (baseline : Baseline) (untrusted : List String)
    (sh : Shield (σ × List Command)) :
    runRecovery host baseline untrusted sh.unlogged =
      ((runRecovery host.logged baseline untrusted sh).1.unlogged,
        (runRecovery host.logged baseline untrusted sh).2) := by
  simp only [runRecovery]
  rw [recoverBlock_unlogged baseline untrusted (sh, []), recoverServices_unlogged,
    recoverRoutes_unlogged, recoverBaseline_unlogged, recoverWifi_unlogged,
    recoverIncomplete_unlogged]
  rfl

/-- A quarantine on the host with a log is the quarantine on the host. -/
theorem quarantineBootmux_unlogged (baseline : Baseline) (sh : Shield (σ × List Command)) :
    quarantineBootmux host baseline sh.unlogged =
      ((quarantineBootmux host.logged baseline sh).1.unlogged,
        (quarantineBootmux host.logged baseline sh).2) := by
  have hdisabled := foldl_unlogged
    (f := fun acc service => ((disableService host baseline acc.1 service).1,
      if (disableService host baseline acc.1 service).2 = 0 then acc.2 ++ [service] else acc.2))
    (g := fun acc service => ((disableService host.logged baseline acc.1 service).1,
      if (disableService host.logged baseline acc.1 service).2 = 0 then acc.2 ++ [service]
      else acc.2))
    (fun _ _ => rfl) (identifyBootmuxServices host sh.host.1 baseline) (sh, [])
  have hdeleted : ∀ (lines : List (List String)) (sh : Shield (σ × List Command)),
      (bootmuxRoutes lines).foldl (deleteBootmuxRoute host) sh.unlogged =
        ((bootmuxRoutes lines).foldl (deleteBootmuxRoute host.logged) sh).unlogged :=
    fun lines sh => List.foldl_hom Shield.unlogged fun _ _ => rfl
  simp only [quarantineBootmux]
  have hfound : identifyBootmuxServices host sh.unlogged.host baseline =
      identifyBootmuxServices host sh.host.1 baseline := rfl
  have hlogged : identifyBootmuxServices host.logged sh.host baseline =
      identifyBootmuxServices host sh.host.1 baseline := rfl
  rw [hfound, hlogged, hdisabled]
  split
  · rw [hdeleted]
    rfl
  · rw [hdeleted]
    rfl

/-! ### What is in the log -/

/-- The log grows by commands that are allowed. -/
theorem Ran.log {allowed : Command → Prop} {sh after : Shield (σ × List Command)}
    (h : Ran host.logged allowed sh after) :
    ∃ log, after.host.2 = sh.host.2 ++ log ∧ ∀ c ∈ log, allowed c := by
  induction h with
  | refl => exact ⟨[], (List.append_nil _).symm, by simp⟩
  | @command after c _ hc ih =>
      obtain ⟨log, hlog, hallowed⟩ := ih
      refine ⟨log ++ [c], ?_, fun d hd => ?_⟩
      · change after.host.2 ++ [c] = _
        rw [hlog, List.append_assoc]
      · rcases List.mem_append.mp hd with hd | hd
        · exact hallowed d hd
        · exact List.mem_singleton.mp hd ▸ hc
  | record _ _ ih => exact ih

/-- A loop that disables services disables each of them. -/
theorem mem_log_of_disabled {β : Type} {baseline : Baseline}
    {f : Shield (σ × List Command) × β → String → Shield (σ × List Command) × β}
    (hf : ∀ acc service, (f acc service).1 =
      (disableService host.logged baseline acc.1 service).1)
    {service : String} {services : List String} (hservice : service ∈ services)
    (acc : Shield (σ × List Command) × β) :
    .setServiceEnabled service false ∈ (services.foldl f acc).1.host.2 := by
  obtain ⟨before, rest, rfl⟩ := List.append_of_mem hservice
  rw [List.foldl_append, List.foldl_cons]
  generalize before.foldl f acc = reached
  have hrest : Ran host.logged (fun _ => True) (f reached service).1
      (rest.foldl f (f reached service)).1 :=
    List.foldlRecOn (motive := fun acc => Ran host.logged (fun _ => True) (f reached service).1
      acc.1) rest f .refl fun acc hacc next _ => by
        rw [hf acc next]
        exact hacc.mutate trivial _ _ _
  obtain ⟨log, hlog, -⟩ := hrest.log
  rw [hlog, hf]
  exact List.mem_append_left _ (List.mem_append_right _ (List.mem_singleton.mpr rfl))

/-- A recovery disables the services that resemble the port of an untrusted
interface, as the ports are after Q1. -/
theorem mem_recoveryLog {baseline : Baseline} {untrusted : List String} {sh : Shield σ}
    {service : String} :
    .setServiceEnabled service false ∈ recoveryLog host baseline untrusted sh ↔
      service ∈ untrusted.flatMap (resembling host (host.hardwarePorts
        (recoverBlock host baseline untrusted (sh, [])).1.host) baseline) := by
  have hports : host.hardwarePorts (recoverBlock host baseline untrusted (sh, [])).1.host =
      host.logged.hardwarePorts
        (recoverBlock host.logged baseline untrusted (sh.logged, [])).1.host :=
    congrArg (fun acc : Shield σ × Steps => host.hardwarePorts acc.1.host)
      (recoverBlock_unlogged baseline untrusted (sh.logged, []))
  rw [hports]
  constructor
  · intro hdisabled
    have hran : Ran host.logged (fun c => ∀ service, c = .setServiceEnabled service false →
        service ∈ untrusted.flatMap (resembling host.logged (host.logged.hardwarePorts
          (recoverBlock host.logged baseline untrusted (sh.logged, [])).1.host) baseline))
        sh.logged (runRecovery host.logged baseline untrusted sh.logged).1 := by
      refine Ran.refl.runRecovery (fun c hc service heq => absurd heq (hc service)) baseline
        untrusted fun service hservice other heq => ?_
      cases heq
      exact hservice
    obtain ⟨log, hlog, hallowed⟩ := hran.log
    have hmem : .setServiceEnabled service false ∈ log := by
      rw [recoveryLog, hlog] at hdisabled
      simpa [Shield.logged] using hdisabled
    exact hallowed _ hmem service rfl
  · intro hservice
    have hdisabled : .setServiceEnabled service false ∈
        (recoverServices host.logged baseline untrusted
          (recoverBlock host.logged baseline untrusted (sh.logged, []))).1.host.2 :=
      mem_log_of_disabled
        (f := fun (acc : Shield (σ × List Command) × Steps) service =>
          let (sh, exitCode) := disableService host.logged baseline acc.1 service
          (sh, acc.2.set (.q2 service) (okIf (exitCode = 0))))
        (fun _ _ => rfl) hservice _
    have hrest : Ran host.logged (fun _ => True) (recoverServices host.logged baseline untrusted
        (recoverBlock host.logged baseline untrusted (sh.logged, []))).1 _ :=
      Ran.refl.recoverRest (fun _ _ => trivial) baseline untrusted
    obtain ⟨log, hlog, -⟩ := hrest.log
    have hwhole : recoveryLog host baseline untrusted sh = _ := hlog
    rw [hwhole]
    exact List.mem_append_left _ hdisabled

/-- A quarantine disables the services that it identifies. -/
theorem mem_quarantineLog {baseline : Baseline} {sh : Shield σ} {service : String} :
    .setServiceEnabled service false ∈ quarantineLog host baseline sh ↔
      service ∈ identifyBootmuxServices host sh.host baseline := by
  constructor
  · intro hdisabled
    have hran : Ran host.logged (fun c => ∀ service, c = .setServiceEnabled service false →
        service ∈ identifyBootmuxServices host sh.host baseline)
        sh.logged (quarantineBootmux host.logged baseline sh.logged).1 := by
      refine Ran.refl.quarantineBootmux (fun c hc service heq => absurd heq (hc service))
        baseline fun service hservice other heq => ?_
      cases heq
      exact hservice
    obtain ⟨log, hlog, hallowed⟩ := hran.log
    have hmem : .setServiceEnabled service false ∈ log := by
      rw [quarantineLog, hlog] at hdisabled
      simpa [Shield.logged] using hdisabled
    exact hallowed _ hmem service rfl
  · intro hservice
    generalize hmiddle : ((identifyBootmuxServices host sh.host baseline).foldl
      (fun (acc : Shield (σ × List Command) × List String) service =>
        let (sh, exitCode) := disableService host.logged baseline acc.1 service
        (sh, if exitCode = 0 then acc.2 ++ [service] else acc.2)) (sh.logged, [])) = middle
    have hdisabled : .setServiceEnabled service false ∈ middle.1.host.2 := by
      rw [← hmiddle]
      exact mem_log_of_disabled
        (f := fun (acc : Shield (σ × List Command) × List String) service =>
          let (sh, exitCode) := disableService host.logged baseline acc.1 service
          (sh, if exitCode = 0 then acc.2 ++ [service] else acc.2))
        (fun _ _ => rfl) hservice (sh.logged, [])
    have hrest : Ran host.logged (fun _ => True) middle.1 _ :=
      Ran.refl.deleteBootmuxRoutes fun _ _ => trivial
    obtain ⟨log, hlog, -⟩ := hrest.log
    have hkept := List.mem_append_left log hdisabled
    rw [← hlog, ← hmiddle] at hkept
    simp only [quarantineLog, quarantineBootmux]
    split
    · exact List.mem_append_left _ hkept
    · exact hkept

end Logged

/-! ## Innocent services -/

section Innocent

variable {σ : Type} (host : Host σ) (baseline : Baseline) (untrusted : List String)
  (sh : Shield σ)

-- The interface that a service is bound to, and those that carry a 10.77 address.
variable (binding : String → String) (carries : String → Prop)

/-- A recovery disables no service of an interface of the baseline, and a
quarantine none without a hint in its name, unless the interface carries a
10.77 address. -/
structure SparesInnocent : Prop where
  recovery : ∀ service, binding service ∈ baseline.interfaces.map Prod.fst →
    ¬carries (binding service) →
    .setServiceEnabled service false ∉ recoveryLog host baseline untrusted sh
  quarantine : ∀ service, bootmuxProductHints.any (named · service) = false →
    ¬carries (binding service) →
    .setServiceEnabled service false ∉ quarantineLog host baseline sh

/-- No such service resembles the port of an untrusted interface, as the ports
are after Q1, or that of the interface in the BOOTMUX subnet. -/
structure Distinguishable : Prop where
  recovery : ∀ service ∈ baseline.serviceOrder,
    binding service ∈ baseline.interfaces.map Prod.fst → ¬carries (binding service) →
    ∀ iface ∈ untrusted, ∀ port, port ≠ "" →
      (host.hardwarePorts (recoverBlock host baseline untrusted (sh, [])).1.host).lookup iface =
        some port →
      resembles host port service = false
  quarantine : ∀ service ∈ baseline.serviceOrder,
    bootmuxProductHints.any (named · service) = false → ¬carries (binding service) →
    host.subnetInNwi sh.host = true → host.subnetInterface sh.host ≠ "" →
    ∀ port, port ≠ "" →
      baseline.interfaces.lookup (host.subnetInterface sh.host) = some port →
      resembles host port service = false

variable {host baseline untrusted sh binding carries}

/-- An interface that the baseline does not have goes by the ports alone. -/
theorem mem_resembling_iff {ports : List (String × String)} {iface service : String}
    (habsent : iface ∉ baseline.interfaces.map Prod.fst) :
    service ∈ resembling host ports baseline iface ↔ service ∈ baseline.serviceOrder ∧
      ∃ port, port ≠ "" ∧ ports.lookup iface = some port ∧
        resembles host port service = true := by
  have hnone : baseline.interfaces.lookup iface = none := by
    rw [List.lookup_eq_none_iff]
    intro pair hpair
    simpa using fun heq : iface = pair.1 => habsent (heq ▸ List.mem_map_of_mem hpair)
  simp only [resembling, hnone]
  cases hport : ports.lookup iface with
  | none => simp
  | some port => by_cases hempty : port = "" <;> simp [hempty, and_comm]

end Innocent

/-- Innocent services are spared if and only if their names do not resemble
the ports that recovery and quarantine go by. -/
theorem innocent_spared_iff {σ : Type} (host : Host σ) (baseline : Baseline)
    (untrusted : List String) (sh : Shield σ) (binding : String → String)
    (carries : String → Prop)
    (habsent : ∀ iface ∈ untrusted, iface ∉ baseline.interfaces.map Prod.fst) :
    SparesInnocent host baseline untrusted sh binding carries ↔
      Distinguishable host baseline untrusted sh binding carries := by
  constructor
  · intro h
    constructor
    · intro service hservice hbound hinnocent iface hiface port hport hlookup
      by_contra hresembles
      refine h.recovery service hbound hinnocent (mem_recoveryLog.mpr ?_)
      refine List.mem_flatMap.mpr ⟨iface, hiface, ?_⟩
      exact (mem_resembling_iff (habsent iface hiface)).mpr
        ⟨hservice, port, hport, hlookup, by simpa using hresembles⟩
    · intro service hservice hhint hinnocent hnwi hiface port hport hlookup
      by_contra hresembles
      refine h.quarantine service hhint hinnocent (mem_quarantineLog.mpr ?_)
      refine mem_identifyBootmuxServices.mpr ⟨hservice, .inr ⟨hnwi, hiface, ?_⟩⟩
      rw [hlookup]
      exact ⟨hport, by simpa using hresembles⟩
  · intro h
    constructor
    · intro service hbound hinnocent hdisabled
      obtain ⟨iface, hiface, hresembling⟩ :=
        List.mem_flatMap.mp (mem_recoveryLog.mp hdisabled)
      obtain ⟨hservice, port, hport, hlookup, hresembles⟩ :=
        (mem_resembling_iff (habsent iface hiface)).mp hresembling
      have hdistinct := h.recovery service hservice hbound hinnocent iface hiface port hport hlookup
      exact absurd (hdistinct.symm.trans hresembles) (by simp)
    · intro service hhint hinnocent hdisabled
      obtain ⟨hservice, hwhy⟩ := mem_identifyBootmuxServices.mp (mem_quarantineLog.mp hdisabled)
      obtain ⟨hnwi, hiface, hport, hresembles⟩ := hwhy.resolve_left (by simp [hhint])
      cases hlookup : baseline.interfaces.lookup (host.subnetInterface sh.host) with
      | none => simp [hlookup] at hport
      | some port =>
          rw [hlookup] at hport hresembles
          have hdistinct := h.quarantine service hservice hhint hinnocent hnwi hiface port hport
            hlookup
          exact absurd (hdistinct.symm.trans hresembles) (by simp)

/-! ## A desk with an Ethernet adapter of its own -/

/-- The services of a Mac whose own adapter is `en4`. -/
def deskSet : NetworkSet := { emptySet with order := ["Wi-Fi", "Ethernet"] }

def deskMac : Mac :=
  { homeMac with
    locations := fun name => if name = "Automatic" then some deskSet else none
    populated := deskSet
    ports := [("en0", "Wi-Fi"), ("en4", "Ethernet")] }

def deskBinding (service : String) : String := if service = "Ethernet" then "en4" else "en0"

/-- A device whose name resembles nothing spares the services of the desk. -/
theorem innocent_spared_iff_desk :
    SparesInnocent macHost (captureBaseline macHost deskMac) ["en7"]
      ⟨deskMac.attach "en7" "CDC NCM" [] [], []⟩ deskBinding (fun _ => False) := by
  refine (innocent_spared_iff macHost _ _ _ _ _ (by decide +kernel)).mpr ⟨?_, ?_⟩
  · intro service hservice _ _ iface hiface port _ hlookup
    rw [List.mem_singleton.mp hiface] at hlookup
    have hlisted : (macHost.hardwarePorts (recoverBlock macHost (captureBaseline macHost deskMac)
        ["en7"] (⟨deskMac.attach "en7" "CDC NCM" [] [], []⟩, [])).1.host).lookup "en7" =
          some "CDC NCM" := by
      decide +kernel
    obtain rfl := Option.some.inj (hlisted.symm.trans hlookup)
    have hall : ∀ service ∈ (captureBaseline macHost deskMac).serviceOrder,
        resembles macHost "CDC NCM" service = false := by
      decide +kernel
    exact hall service hservice
  · intro _ _ _ _ hnwi
    exact absurd hnwi (by decide +kernel)

/-- The adapter is disabled when a USB Ethernet device comes. -/
theorem desk_adapter_disabled :
    ¬SparesInnocent macHost (captureBaseline macHost deskMac) ["en7"]
      ⟨deskMac.attach "en7" "USB Ethernet" [] [], []⟩ deskBinding (fun _ => False) := by
  intro h
  exact h.recovery "Ethernet" (by decide +kernel) not_false (by decide +kernel)

end Bootmux.AttachShield
