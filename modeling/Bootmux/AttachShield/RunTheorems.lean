/-
Bootmux.AttachShield.RunTheorems — what the steps of a session can do.

Arming, recovery and close change a host by commands alone, and append
entries that have a pre-value to the journal. `Ran` says so of two states
of a session with a set of commands, and each step has one lemma that
gives its set. What a host keeps under such commands is then kept by a step.

The sets matter to the other modules: that no step before the close runs a
command which deletes a location, that a recovery only adds or deletes
routes and changes services, and that arming ends with the state file are
all read off them.
-/
import Bootmux.AttachShield.Session

namespace Bootmux.AttachShield

section Ran

variable {σ : Type} (host : Host σ) (allowed : Command → Prop)

/-- From one state to another with commands of a set. -/
inductive Ran (sh : Shield σ) : Shield σ → Prop where
  | refl : Ran sh sh
  | command {after : Shield σ} {c : Command} (h : Ran sh after) (hc : allowed c) :
      Ran sh ⟨(host.run after.host c).1, after.journal⟩
  | record {after : Shield σ} {entry : Entry} (h : Ran sh after)
      (hentry : entry.pre.isSome = true) : Ran sh ⟨after.host, after.journal ++ [entry]⟩

variable {host allowed} {sh after : Shield σ}

/-- What commands keep of the host. -/
theorem Ran.host_invariant {P : σ → Prop} (h : Ran host allowed sh after)
    (hrun : ∀ s c, allowed c → P s → P (host.run s c).1) (hinit : P sh.host) : P after.host := by
  induction h with
  | refl => exact hinit
  | command _ hc ih => exact hrun _ _ hc ih
  | record _ _ ih => exact ih

/-- Nothing in the journal is lost, and no entry is without a pre-value. -/
theorem Ran.journal (h : Ran host allowed sh after) :
    ∃ entries, after.journal = sh.journal ++ entries ∧ ∀ e ∈ entries, e.pre.isSome = true := by
  induction h with
  | refl => exact ⟨[], by simp⟩
  | command _ _ ih => exact ih
  | @record after entry _ hentry ih =>
      obtain ⟨entries, hjournal, hentries⟩ := ih
      refine ⟨entries ++ [entry], by rw [hjournal, List.append_assoc], fun e he => ?_⟩
      rcases List.mem_append.mp he with he | he
      · exact hentries e he
      · exact List.mem_singleton.mp he ▸ hentry

/-- A recorded command is one that is allowed. -/
theorem Ran.mutate (h : Ran host allowed sh after) {c : Command} (hc : allowed c)
    (category : Category) (target : String) (pre : PreValue) :
    Ran host allowed sh (mutate host after c category target pre).1 :=
  (h.command hc).record rfl

/-- Allowed commands go on. -/
theorem Ran.run (h : Ran host allowed sh after) {commands : List Command}
    (hcommands : ∀ c ∈ commands, allowed c) :
    Ran host allowed sh (after.run host commands) := by
  induction commands generalizing after with
  | nil => exact h
  | cons c commands ih =>
      exact ih (h.command (hcommands c List.mem_cons_self))
        fun d hd => hcommands d (List.mem_cons_of_mem _ hd)

/-- Q2 disables the services that resemble a port of the interfaces. -/
theorem Ran.recoverServices {acc : Shield σ × Steps} (h : Ran host allowed sh acc.1)
    (baseline : Baseline) (untrusted : List String)
    (hservices : ∀ service ∈ untrusted.flatMap
      (resembling host (host.hardwarePorts acc.1.host) baseline),
      allowed (.setServiceEnabled service false)) :
    Ran host allowed sh (recoverServices host baseline untrusted acc).1 :=
  List.foldlRecOn (motive := fun (acc : Shield σ × Steps) => Ran host allowed sh acc.1)
    _ _ h fun _ hacc service hservice => hacc.mutate (hservices service hservice) _ _ _

/-! ## Arming -/

/-- A loop that collects what is not there yet. -/
theorem mem_foldl_collect {p : String → Bool} {names candidates : List String} {name : String} :
    name ∈ names.foldl (fun candidates next =>
        if p next && !candidates.contains next then candidates ++ [next] else candidates)
        candidates ↔
      name ∈ candidates ∨ name ∈ names ∧ p name = true := by
  induction names generalizing candidates with
  | nil => simp
  | cons next names ih =>
      rw [List.foldl_cons, ih]
      grind

/-- By a hint in its name, or by a name that resembles the port of the
interface in the BOOTMUX subnet. -/
theorem mem_identifyBootmuxServices {baseline : Baseline} {s : σ} {service : String} :
    service ∈ identifyBootmuxServices host s baseline ↔ service ∈ baseline.serviceOrder ∧
      (bootmuxProductHints.any (named · service) = true ∨
        host.subnetInNwi s = true ∧ host.subnetInterface s ≠ "" ∧
          (baseline.interfaces.lookup (host.subnetInterface s)).getD "" ≠ "" ∧
          resembles host ((baseline.interfaces.lookup (host.subnetInterface s)).getD "") service =
            true) := by
  simp only [identifyBootmuxServices]
  split
  · rename_i hsubnet
    simp only [Bool.and_eq_true, bne_iff_ne, ne_eq] at hsubnet
    rw [mem_foldl_collect, List.mem_filter]
    grind
  · rename_i hsubnet
    simp only [Bool.and_eq_true, bne_iff_ne, ne_eq] at hsubnet
    rw [List.mem_filter]
    grind

section Other

-- Every command but the disabling of a service is in the set.
variable (hother : ∀ c, (∀ service, c ≠ .setServiceEnabled service false) → allowed c)

include hother

/-- Isolating a session disables services and creates a location. -/
theorem Ran.isolate (h : Ran host allowed sh after) (sessionId : String) :
    Ran host allowed sh (isolate host sessionId after).1 := by
  have hcreate : allowed (.createLocation (shieldLocationPrefix ++ sessionId)) :=
    hother _ (by simp)
  have hswitch : allowed (.switchToLocation (shieldLocationPrefix ++ sessionId)) :=
    hother _ (by simp)
  have hdelete : allowed (.deleteLocation (shieldLocationPrefix ++ sessionId)) :=
    hother _ (by simp)
  rw [AttachShield.isolate]
  split
  · simp only [createShieldLocation]
    split
    · exact h.command hcreate
    · split
      · refine Ran.run ?_ (by simpa using hdelete)
        exact ((h.command hcreate).record rfl).command hswitch
      · exact (((h.command hcreate).record rfl).command hswitch).record rfl
  · exact h

theorem Ran.deleteBootmuxRoute (h : Ran host allowed sh after) (route : String × String) :
    Ran host allowed sh (deleteBootmuxRoute host after route) := by
  refine Ran.run (h.record rfl) fun c hc => ?_
  rw [List.mem_singleton.mp hc]
  exact hother _ (by simp)

theorem Ran.deleteBootmuxRoutes (h : Ran host allowed sh after) :
    Ran host allowed sh ((bootmuxRoutes (host.netstat after.host)).foldl
      (AttachShield.deleteBootmuxRoute host) after) :=
  List.foldlRecOn _ _ h fun _ hacc route _ => hacc.deleteBootmuxRoute hother route

/-- The quarantine disables what it has found. -/
theorem Ran.quarantineBootmux (h : Ran host allowed sh after) (baseline : Baseline)
    (hfound : ∀ service ∈ identifyBootmuxServices host after.host baseline,
      allowed (.setServiceEnabled service false)) :
    Ran host allowed sh (quarantineBootmux host baseline after).1 := by
  have hdisabled := List.foldlRecOn
    (motive := fun (acc : Shield σ × List String) => Ran host allowed sh acc.1)
    (identifyBootmuxServices host after.host baseline)
    (fun acc service =>
      let r := disableService host baseline acc.1 service
      (r.1, if r.2 = 0 then acc.2 ++ [service] else acc.2))
    (b := (after, [])) h
    fun acc hacc service hservice => hacc.mutate (hfound service hservice) _ _ _
  have hrest := hdisabled.deleteBootmuxRoutes hother
  simp only [AttachShield.quarantineBootmux]
  split
  · exact hrest.mutate (hother _ (by simp)) _ _ _
  · exact hrest

theorem Ran.pinV4 (h : Ran host allowed sh after) (gateway : String) (pinned dests : List String) :
    Ran host allowed sh (pinV4 host gateway after pinned dests).1 := by
  induction dests generalizing after pinned with
  | nil => exact h
  | cons dest rest ih =>
      have hpin : Ran host allowed sh (pinRoute host .inet gateway after dest).1 :=
        h.mutate (hother _ (by simp)) _ _ _
      rw [AttachShield.pinV4]
      split
      · rename_i heq
        rw [heq] at hpin
        exact ih hpin _
      · rename_i heq
        rw [heq] at hpin
        refine hpin.run fun c hc => ?_
        obtain ⟨entry, -, hentry⟩ := List.mem_filterMap.mp hc
        obtain ⟨dest, -, rfl⟩ := Option.map_eq_some_iff.mp hentry
        exact hother _ (by simp)

theorem Ran.pinSplitRoutes (h : Ran host allowed sh after) (gateway interface : String) :
    Ran host allowed sh (pinSplitRoutes host gateway interface after).1 := by
  have hv4 := h.pinV4 hother gateway [] splitRoutesV4
  rw [AttachShield.pinSplitRoutes]
  split
  · exact h
  · split
    · rename_i heq
      rw [heq] at hv4
      exact hv4
    · rename_i middle pinned heq
      rw [heq] at hv4
      exact List.foldlRecOn
        (motive := fun (acc : Shield σ × List String) => Ran host allowed sh acc.1)
        splitRoutesV6 _ (b := (middle, pinned)) hv4
        fun acc hacc dest _ => hacc.mutate (hother _ (by simp)) _ _ _

/-! ## Recovery -/

theorem Ran.pfInstallAnchor (h : Ran host allowed sh after) (iface : String)
    (pfWasEnabled : Bool) :
    Ran host allowed sh (pfInstallAnchor host iface pfWasEnabled after).1 := by
  have hload := h.mutate (hother (.pfLoadAnchor iface) (by simp)) .pfAnchorLoad pfAnchor
    { rules := some "" }
  simp only [AttachShield.pfInstallAnchor]
  split
  · exact hload
  · exact hload.mutate (hother _ (by simp)) _ _ _

theorem Ran.recoverBlock {acc : Shield σ × Steps} (h : Ran host allowed sh acc.1)
    (baseline : Baseline) (untrusted : List String) :
    Ran host allowed sh (recoverBlock host baseline untrusted acc).1 :=
  List.foldlRecOn (motive := fun (acc : Shield σ × Steps) => Ran host allowed sh acc.1)
    untrusted _ h fun _ hacc iface _ => hacc.pfInstallAnchor hother iface _

theorem Ran.recoverRoutes {acc : Shield σ × Steps} (h : Ran host allowed sh acc.1)
    (untrusted : List String) : Ran host allowed sh (recoverRoutes host untrusted acc).1 :=
  List.foldlRecOn (motive := fun (acc : Shield σ × Steps) => Ran host allowed sh acc.1)
    _ _ h fun _ hacc _ _ => hacc.run fun _ hc => List.mem_singleton.mp hc ▸ hother _ (by simp)

theorem Ran.recoverBaseline {acc : Shield σ × Steps} (h : Ran host allowed sh acc.1)
    (baseline : Baseline) : Ran host allowed sh (recoverBaseline host baseline acc).1 := by
  refine h.run fun c hc => hother c fun service heq => ?_
  subst heq
  simp only [List.mem_append, ipv4Commands, dnsCommands, orderCommands] at hc
  split_ifs at hc <;> simp at hc

theorem Ran.cycle (h : Ran host allowed sh after) (device : String) :
    Ran host allowed sh (after.run host (powerCycle device)) := by
  refine h.run fun c hc => hother c fun service heq => ?_
  subst heq
  simp [powerCycle] at hc

theorem Ran.recoverWifi {acc : Shield σ × Steps} (h : Ran host allowed sh acc.1)
    (baseline : Baseline) :
    Ran host allowed sh (recoverWifi host baseline acc).1 ∧
      Ran host allowed sh (recoverIncomplete host baseline acc).1 := by
  constructor
  · rw [AttachShield.recoverWifi]
    split
    · exact h
    · exact h.cycle hother _
  · rw [recoverIncomplete]
    split
    · exact h.cycle hother _
    · exact h

/-- What a recovery does after Q2. -/
theorem Ran.recoverRest {acc : Shield σ × Steps} (h : Ran host allowed sh acc.1)
    (baseline : Baseline) (untrusted : List String) :
    Ran host allowed sh (recoverIncomplete host baseline (AttachShield.recoverWifi host baseline
      (AttachShield.recoverBaseline host baseline
        (AttachShield.recoverRoutes host untrusted acc)))).1 := by
  have hbaseline := Ran.recoverBaseline hother (Ran.recoverRoutes hother h untrusted) baseline
  exact (Ran.recoverWifi hother (Ran.recoverWifi hother hbaseline baseline).1 baseline).2

/-- A recovery runs commands of the five kinds it is made of. -/
theorem Ran.runRecovery (h : Ran host allowed sh after) (baseline : Baseline)
    (untrusted : List String)
    (hservices : ∀ service ∈ untrusted.flatMap (resembling host (host.hardwarePorts
      (AttachShield.recoverBlock host baseline untrusted (after, [])).1.host) baseline),
      allowed (.setServiceEnabled service false)) :
    Ran host allowed sh (runRecovery host baseline untrusted after).1 := by
  have hblocked : Ran host allowed sh
      (AttachShield.recoverBlock host baseline untrusted (after, [])).1 :=
    Ran.recoverBlock hother h baseline untrusted
  exact (Ran.recoverServices hblocked baseline untrusted hservices).recoverRest hother baseline
    untrusted

end Other

/-! ## Close -/

section Close

variable (hall : ∀ c, allowed c)

include hall

/-- A rollback runs commands of its entries. -/
theorem Ran.rollback (h : Ran host allowed sh after) (journal : List Entry) :
    Ran host allowed sh ⟨rollback host after.host journal, after.journal⟩ := by
  rw [AttachShield.rollback]
  generalize journal.reverse = entries
  induction entries generalizing after with
  | nil => exact h
  | cons entry entries ih =>
      have hentry : Ran host allowed sh
          ⟨rollbackEntry host after.host entry, after.journal⟩ := by
        rw [rollbackEntry]
        split
        · exact h
        · split
          · exact h
          · exact h.run fun c _ => hall c
      exact ih hentry

theorem Ran.restoreLocation (h : Ran host allowed sh after) (original name : String) :
    Ran host allowed sh (restoreLocation host original name after) := by
  have hswitched := h.command (hall (.switchToLocation original))
  simp only [AttachShield.restoreLocation]
  split
  · exact hswitched
  · exact (hswitched.record rfl).run fun c _ => hall c

/-- A close releases, rolls back and leaves the location. -/
theorem Ran.closeHost (h : Ran host allowed sh after) (st : ShieldState) :
    Ran host allowed sh (closeHost host after st) := by
  have hreleased : Ran host allowed sh (after.run host ([.unloadDaemon, .pfFlushAnchor pfAnchor] ++
      (if st.pfWasEnabled then [] else [.pfDisable]) ++ st.pinnedRoutes.filterMap deleteEntry)) :=
    h.run fun c _ => hall c
  have hrolled := hreleased.rollback hall after.journal
  simp only [AttachShield.closeHost]
  split
  · exact hrolled.restoreLocation hall _ _
  · exact hrolled

end Close

end Ran

end Bootmux.AttachShield
