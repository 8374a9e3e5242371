/-
Bootmux.NetworkGuardian.StoreTheorems — what a state file that is no baseline
does to a repair and to the ticks of the guardian.

The file is read at three places. `repair_once` turns the refusal of the
store into `STATE_INVALID` and lets every other exception through, a tick
that finds nothing takes a refused file for one that is not there yet, and
`write_baseline` loads the file once more before it replaces it. So a
refused file survives until the host was idle for long enough, and a file
that does not parse raises before that. A file that is accepted goes to
the plans with whatever is in its blocks, and a repair raises on it only
where it comes to an operation without an answer (`RunsThrough`).

`ValidStore` is a store that passes the checks of its files, with any JSON
in the state file or none. The statement has two parts with conditions of
their own: a repair is refused exactly if the JSON is (`refusedJson`), and a
run leaves the store alone exactly if each of its ticks finds what
`sparedJson` says. The second goes tick by tick, since a store that was left
alone is the same store at the next tick.
-/
import Bootmux.NetworkGuardian.DaemonTheorems
import Bootmux.NetworkGuardian.JsonRepairTheorems

namespace Bootmux.NetworkGuardian

open Bootmux.Lib

/-! ## Reading the file -/

/-- A state directory that passes the checks, with a baseline file of the
given JSON. -/
structure ValidStore (enforceOwner : Bool) (root : StateRoot Members) (loaded : Option PyJson) :
    Prop where
  directory : validateDir enforceOwner root = true
  file : ∃ file, baselineFile root = some file ∧ validateFile enforceOwner file = true ∧
    file.content = stateContent loaded

/-- `read_baseline` refuses the JSON: it is no object, or one of another
version or with unknown keys. -/
def refusedJson : Option PyJson → Prop
  | none => False
  | some (.dict members) =>
      (getValue members "schema_version").asInt ≠ some schemaVersion ∨
        ∃ key ∈ members.map Prod.fst, key ∉ baselineKeys
  | some _ => True

section Read

variable {enforceOwner : Bool} {root : StateRoot Members} {loaded : Option PyJson}

/-- What `read_baseline` answers. -/
theorem readBaseline_cases (hstore : ValidStore enforceOwner root loaded) :
    (loaded = none ∧ ¬refusedJson loaded ∧ readBaseline enforceOwner root = .error .raised) ∨
      (refusedJson loaded ∧ loaded ≠ none ∧
        readBaseline enforceOwner root = .error .stateStoreError) ∨
      ∃ members, loaded = some (.dict members) ∧ ¬refusedJson loaded ∧
        readBaseline enforceOwner root = .ok (some members) := by
  obtain ⟨-, file, hfile, hvalid, hcontent⟩ := hstore
  unfold readBaseline loadFile
  rw [hfile]
  dsimp only
  rw [hvalid, hcontent]
  match loaded with
  | none => exact .inl ⟨rfl, not_false, rfl⟩
  | some (.dict members) =>
      by_cases hversion : (getValue members "schema_version").asInt = some schemaVersion
      · by_cases hkeys : ∃ key ∈ members.map Prod.fst, key ∉ baselineKeys
        · refine .inr (.inl ⟨.inr hkeys, Option.some_ne_none _, ?_⟩)
          simpa [stateContent, hversion] using hkeys
        · refine .inr (.inr ⟨members, rfl, fun h => h.elim (· hversion) hkeys, ?_⟩)
          simpa [stateContent, hversion] using hkeys
      · refine .inr (.inl ⟨.inl hversion, Option.some_ne_none _, ?_⟩)
        simp [stateContent, hversion]
  | some .null | some (.bool _) | some (.int _) | some (.float _) | some (.str _)
  | some (.list _) => exact .inr (.inl ⟨trivial, Option.some_ne_none _, rfl⟩)

/-- A valid store gives the baseline of its file. -/
theorem storeBaseline_eq (hstore : ValidStore enforceOwner root loaded) :
    storeBaseline enforceOwner root = readBaseline enforceOwner root := by
  have hexists : root.exists = true := by
    have hdir := hstore.directory
    cases root with
    | directory mode uid baseline previous => rfl
    | _ => cases hdir
  rw [storeBaseline, if_pos hexists, if_pos hstore.directory]

end Read

/-! ## One repair -/

section Store

variable {σ : Type} (host : JsonHost σ) {enforceOwner : Bool} (uid : Nat)
  {root : StateRoot Members} {loaded : Option PyJson}

/-- A power cycle is due: the commands of the plan succeeded, and the
verification after them fails. -/
def cycleDue (s : σ) (identity : IdentityResult) (b : JsonBaseline) : Prop :=
  ∃ plan ∈ Json.buildRepairPlan host s identity (some b),
    (Json.executePlan host s plan).2.ok = true ∧
      ∃ verification ∈ Json.verify host (Json.executePlan host s plan).1 identity (some b),
        classify verification ≠ []

/-- A repair comes to its end with these members of the file: both blocks
are objects, the plans can be built of them, and the host takes the
commands of the plan, and of the power cycle if it is due. -/
def RunsThrough (s : σ) (now : ℚ) (last : Option ℚ) (members : Members) : Prop :=
  let identity := proveIdentity host.toHost s
  ∃ b ∈ jsonBaseline members, Json.Readable host b ∧
    (∀ plan ∈ Json.buildRepairPlan host s identity (some b), ∀ command ∈ plan,
      host.takesArgv command.argv = true) ∧
    (cycleDue host s identity b → ∀ command ∈ Json.buildWifiTogglePlan (some b) now last,
      host.takesArgv command.argv = true)

/-- A repair raises exactly if it does not run through. -/
theorem repairWith_raised_iff (s : σ) (identity : IdentityResult) (b : JsonBaseline) (now : ℚ)
    (last : Option ℚ) :
    (Json.repairWith host s identity (some b) now last).2.classification = .raised ↔
      ¬(Json.Readable host b ∧
        (∀ plan ∈ Json.buildRepairPlan host s identity (some b), ∀ command ∈ plan,
          host.takesArgv command.argv = true) ∧
        (cycleDue host s identity b → ∀ command ∈ Json.buildWifiTogglePlan (some b) now last,
          host.takesArgv command.argv = true)) := by
  rw [← Json.buildRepairPlan_isSome_iff host s identity b]
  cases hplan : Json.buildRepairPlan host s identity (some b) with
  | none => simp [Json.repairWith, hplan]
  | some plan =>
      have hreadable := (Json.buildRepairPlan_isSome_iff host s identity b).mp
        (by rw [hplan]; rfl)
      have hraised := (Json.executePlan_cases host plan s).1
      obtain ⟨verification, hverify⟩ := Option.isSome_iff_exists.mp
        (Json.verify_isSome hreadable (Json.executePlan host s plan).1 identity)
      have hdue : cycleDue host s identity b ↔
          (Json.executePlan host s plan).2.ok = true ∧ classify verification ≠ [] := by
        simp [cycleDue, hplan, hverify]
      unfold Json.repairWith
      rw [hplan, hdue]
      simp only [Option.isSome_some, Option.mem_some_iff, forall_eq', true_and, ← hraised]
      generalize Json.executePlan host s plan = executed at hverify
      obtain ⟨after, given, ok, raised⟩ := executed
      cases raised with
      | true => simp
      | false =>
          have hcycle := (Json.executePlan_cases host
            (Json.buildWifiTogglePlan (some b) now last) after).1
          rw [hverify, ← hcycle]
          simp only [Bool.false_eq_true, if_false, Bool.not_eq_true', List.isEmpty_eq_false_iff]
          split
          · next hgo =>
              obtain ⟨again, hagain⟩ := Option.isSome_iff_exists.mp (Json.verify_isSome hreadable
                (Json.executePlan host after (Json.buildWifiTogglePlan (some b) now last)).1
                identity)
              rw [hagain]
              split
              · next hcycled => simp [hgo.1, hgo.2.1, hcycled]
              · next hcycled => simp [hcycled]
          · next hstays =>
              refine iff_of_false nofun (not_not_intro ⟨trivial, fun hfailed => ?_⟩)
              have hnone : Json.buildWifiTogglePlan (some b) now last = [] := by
                by_contra hsome
                exact hstays ⟨hfailed.2, hfailed.1, hsome⟩
              rw [hnone]
              rfl

/-- The repair itself does not call the state invalid. -/
theorem repairWith_classification (s : σ) (identity : IdentityResult)
    (baseline : Option JsonBaseline) (now : ℚ) (last : Option ℚ) :
    (Json.repairWith host s identity baseline now last).2.classification ≠ .stateInvalid := by
  unfold Json.repairWith
  split
  · nofun
  · dsimp only
    split
    · nofun
    · split
      · nofun
      · split
        · split
          · nofun
          · split
            · nofun
            · nofun
        · nofun

/-- How a repair ends on each kind of file. -/
theorem repairOnce_file (hstore : ValidStore enforceOwner root loaded) {s : σ} (now : ℚ)
    (last : Option ℚ) (hambiguous : (proveIdentity host.toHost s).ambiguous = false) :
    (loaded = none ∧ ¬refusedJson loaded ∧
        (Json.repairOnce host enforceOwner root s now last).2.classification = .raised) ∨
      (refusedJson loaded ∧ loaded ≠ none ∧
        (Json.repairOnce host enforceOwner root s now last).2.classification = .stateInvalid ∧
        (Json.repairOnce host enforceOwner root s now last).2.ran = [] ∧
        (Json.repairOnce host enforceOwner root s now last).2.toggleRan = []) ∨
      ∃ members, loaded = some (.dict members) ∧ ¬refusedJson loaded ∧
        (Json.repairOnce host enforceOwner root s now last).2.classification ≠ .stateInvalid ∧
        ((Json.repairOnce host enforceOwner root s now last).2.classification = .raised ↔
          ¬RunsThrough host s now last members) := by
  unfold Json.repairOnce
  dsimp only
  rw [if_neg (by rw [hambiguous]; exact Bool.false_ne_true), storeBaseline_eq hstore]
  rcases readBaseline_cases hstore with ⟨hload, hrefused, hread⟩ | ⟨hrefused, hload, hread⟩ |
    ⟨members, hload, hrefused, hread⟩
  · rw [hread]
    exact .inl ⟨hload, hrefused, rfl⟩
  · rw [hread]
    exact .inr (.inl ⟨hrefused, hload, rfl, rfl, rfl⟩)
  · rw [hread]
    refine .inr (.inr ⟨members, hload, hrefused, ?_⟩)
    dsimp only
    unfold RunsThrough
    cases jsonBaseline members with
    | none => simp
    | some b =>
        simp only [Option.mem_some_iff, exists_eq_left']
        exact ⟨repairWith_classification host _ _ _ _ _, repairWith_raised_iff host _ _ _ _ _⟩

/-! ## One tick -/

/-- A tick of `g` comes to a repair. -/
def repairDue (host : Host σ) (g : Guardian) (s : σ) : Bool :=
  if (proveIdentity host s).proven then
    !host.heartbeat s bootmuxPeer &&
      heartbeatFailSeconds ≤ host.now s - g.heartbeatFailSince.getD (host.now s)
  else
    !(proveIdentity host s).ambiguous &&
      (staleRoute host s || g.wasAttached && !usbPresent host s)

/-- The host was idle for long enough that a tick of `g` would capture a
baseline. -/
def captureDue (host : Host σ) (g : Guardian) (s : σ) : Bool :=
  idles host g s &&
    baselineStabilitySeconds ≤ host.now s - g.stableSince.getD (host.now s) &&
    hostIsClean host s (proveIdentity host s)

/-- A repair does not raise on the JSON: it loads, and what is accepted runs
through. -/
def repairs (loaded : Option PyJson) (s : σ) (now : ℚ) (last : Option ℚ) : Prop :=
  loaded ≠ none ∧ ∀ members, loaded = some (.dict members) → ¬refusedJson loaded →
    RunsThrough host s now last members

/-- A tick of `g` does not come to a repair that raises on the JSON, nor
finds nothing with a file that does not load, nor would capture a baseline
over a file that is refused. -/
def sparedJson (loaded : Option PyJson) (g : Guardian) (s : σ) : Prop :=
  (repairDue host.toHost g s = true → repairs host loaded s (host.now s) g.lastWifiToggleAt) ∧
    (idles host.toHost g s = true → loaded ≠ none) ∧
    (captureDue host.toHost g s = true → ¬refusedJson loaded)

/-- A tick neither raises nor changes the store. -/
def leavesStore (root : StateRoot Members) (t : Tick σ Members Json.Report) : Prop :=
  t.report ≠ .raised ∧ t.root = root

theorem doRepair_leavesStore_iff (hstore : ValidStore enforceOwner root loaded) {s : σ}
    (hambiguous : (proveIdentity host.toHost s).ambiguous = false) (g : Guardian) (now : ℚ)
    (reason : RepairReason) :
    leavesStore root (doRepair (Json.recovery host enforceOwner) g s root now reason) ↔
      repairs host loaded s now g.lastWifiToggleAt := by
  have hraised : leavesStore root (doRepair (Json.recovery host enforceOwner) g s root now reason) ↔
      (Json.repairOnce host enforceOwner root s now g.lastWifiToggleAt).2.classification ≠
        .raised := by
    unfold doRepair leavesStore
    dsimp only
    split
    · next hraised =>
        exact iff_of_false (fun h => h.1 rfl) (not_not_intro (of_decide_eq_true hraised))
    · next hended =>
        exact iff_of_true ⟨nofun, rfl⟩ fun hraised => hended (decide_eq_true hraised)
  rw [hraised, repairs]
  rcases repairOnce_file host hstore now g.lastWifiToggleAt hambiguous with
    ⟨hload, hrefused, hclass⟩ | ⟨hrefused, hload, hclass, -⟩ |
    ⟨members, hload, hrefused, -, hclass⟩
  · simp [hload, hclass]
  · rw [hclass]
    exact iff_of_true nofun ⟨hload, fun _ _ hnot => absurd hrefused hnot⟩
  · rw [Ne, hclass, not_not]
    constructor
    · intro h
      refine ⟨hload ▸ Option.some_ne_none _, fun other hother _ => ?_⟩
      rw [hload, Option.some.injEq, PyJson.dict.injEq] at hother
      exact hother ▸ h
    · exact fun h => h.2 members hload hrefused

theorem leavesStore_ite (t : Tick σ Members Json.Report) (g : Guardian) :
    leavesStore root (if t.report = .raised then t else { t with guardian := g }) ↔
      leavesStore root t := by
  split
  · rfl
  · rfl

/-- Writing a baseline over a refused file raises or changes the store. -/
theorem writeBaseline_refused (hstore : ValidStore enforceOwner root loaded)
    (hrefused : refusedJson loaded) (baseline : Members) :
    (writeBaseline enforceOwner uid baseline root).2 ≠ none ∨
      (writeBaseline enforceOwner uid baseline root).1 ≠ root := by
  obtain ⟨-, file, hfile, hvalid, hcontent⟩ := hstore
  cases root with
  | directory mode owner stored previous =>
      obtain rfl : stored = some file := hfile
      match loaded, hrefused with
      | some (.dict members), hrefused =>
          by_cases hlink : previous.any (·.symlink) = true
          · left
            simp [writeBaseline, loadFile, baselineFile, previousFile, atomicWrite, hvalid,
              hcontent, stateContent, hlink]
          · right
            have hplain : file.symlink = false := by
              simp only [validateFile, Bool.and_eq_true, Bool.not_eq_true'] at hvalid
              exact hvalid.1.1
            have hwritten : (writeBaseline enforceOwner uid baseline
                (.directory mode owner (some file) previous)).1 =
                .directory 0o700 owner
                  (some ⟨false, 0o600, uid, .object (some schemaVersion) [] baseline⟩)
                  (some ⟨false, 0o600, uid, file.content⟩) := by
              simp [writeBaseline, loadFile, baselineFile, previousFile, atomicWrite, hvalid,
                hcontent, stateContent, hlink, hplain, StateRoot.setPrevious,
                StateRoot.setBaseline]
            rw [hwritten]
            intro hsame
            -- The new baseline would be the file that was refused.
            have hsame : some _ = some file := (StateRoot.directory.inj hsame).2.2.1
            rw [← Option.some.inj hsame] at hcontent
            obtain ⟨hversion, hkeys, -⟩ := StateContent.object.inj hcontent
            rcases hrefused with hother | ⟨key, hkey, hunknown⟩
            · exact hother hversion.symm
            · refine absurd hkeys.symm (List.ne_nil_of_mem (a := key) ?_)
              exact List.mem_filter.mpr ⟨hkey, by simpa using hunknown⟩
      | some .null, _ | some (.bool _), _ | some (.int _), _ | some (.float _), _
      | some (.str _), _ | some (.list _), _ =>
          left
          simp [writeBaseline, loadFile, baselineFile, hvalid, hcontent, stateContent]
  | missing => cases hfile
  | notDirectory => cases hfile
  | symlink => cases hfile

theorem tickIdle_leavesStore_iff (hstore : ValidStore enforceOwner root loaded) (g : Guardian)
    (s : σ) :
    leavesStore root (tickIdle host.toHost (Json.recovery host enforceOwner) enforceOwner uid g s
        root (host.now s)) ↔
      loaded ≠ none ∧
        (baselineStabilitySeconds ≤ host.now s - g.stableSince.getD (host.now s) →
          hostIsClean host.toHost s (proveIdentity host.toHost s) = true →
            ¬refusedJson loaded) := by
  unfold tickIdle leavesStore
  dsimp only
  rcases readBaseline_cases hstore with ⟨hload, hrefused, hread⟩ | ⟨hrefused, hload, hread⟩ |
    ⟨members, hload, hrefused, hread⟩
  · rw [hread]
    simp [hload]
  · rw [hread]
    dsimp only
    split
    · rename_i hstable
      split
      · rename_i hclean
        refine iff_of_false ?_ fun h => h.2 hstable hclean hrefused
        have hwrite := writeBaseline_refused uid hstore hrefused
          ((Json.recovery host enforceOwner).captureBaseline s)
        generalize writeBaseline enforceOwner uid _ root = written at hwrite
        match written, hwrite with
        | (after, none), hwrite => exact fun h => hwrite.elim (· rfl) (· h.2)
        | (after, some e), _ => exact fun h => h.1 rfl
      · rename_i hunclean
        exact iff_of_true ⟨nofun, rfl⟩ ⟨hload, fun _ h => absurd h hunclean⟩
    · rename_i hsoon
      exact iff_of_true ⟨nofun, rfl⟩ ⟨hload, fun h => absurd h hsoon⟩
  · rw [hread]
    exact iff_of_true ⟨nofun, rfl⟩ ⟨hload ▸ Option.some_ne_none _, fun _ _ => hrefused⟩

/-- A tick leaves the store alone just where it is spared. -/
theorem tick_leavesStore_iff (hstore : ValidStore enforceOwner root loaded) (g : Guardian)
    (s : σ) :
    leavesStore root (tick host.toHost (Json.recovery host enforceOwner) enforceOwner uid g s
        root) ↔ sparedJson host loaded g s := by
  have hvalid : storeInvalid enforceOwner root = false := by simp [storeInvalid, hstore.directory]
  unfold tick sparedJson
  rw [hvalid]
  dsimp only
  by_cases hproven : (proveIdentity host.toHost s).proven = true
  · have hidles : idles host.toHost g s = false := by simp [idles, hproven]
    have hcapture : captureDue host.toHost g s = false := by simp [captureDue, hidles]
    have hrepair : repairDue host.toHost g s = (!host.heartbeat s bootmuxPeer &&
        decide (heartbeatFailSeconds ≤
          host.now s - g.heartbeatFailSince.getD (host.now s))) := by
      simp [repairDue, hproven]
    rw [hidles, hcapture, hrepair, if_neg Bool.noConfusion, if_pos hproven]
    unfold tickAttached
    dsimp only
    split
    · rename_i hbeat
      simp [leavesStore, hbeat]
    · rename_i hbeat
      split
      · rename_i hlong
        rw [leavesStore_ite, doRepair_leavesStore_iff host hstore (ambiguous_of_proven hproven)]
        simp [hbeat, hlong]
      · rename_i hsoon
        simp [leavesStore, hsoon]
  · rw [if_neg Bool.noConfusion, if_neg hproven]
    by_cases hambiguous : (proveIdentity host.toHost s).ambiguous = true
    · have hidles : idles host.toHost g s = false := by simp [idles, hambiguous]
      have hcapture : captureDue host.toHost g s = false := by simp [captureDue, hidles]
      have hrepair : repairDue host.toHost g s = false := by
        simp [repairDue, hproven, hambiguous]
      rw [hidles, hcapture, hrepair, if_pos hambiguous]
      simp [leavesStore]
    · rw [if_neg hambiguous]
      by_cases hdue : (staleRoute host.toHost s || g.wasAttached && !usbPresent host.toHost s) =
          true
      · have hidles : idles host.toHost g s = false := by simp [idles, hdue]
        have hcapture : captureDue host.toHost g s = false := by simp [captureDue, hidles]
        have hrepair : repairDue host.toHost g s = true := by
          simp [repairDue, hproven, hambiguous, hdue]
        rw [hidles, hcapture, hrepair, if_pos hdue, leavesStore_ite,
          doRepair_leavesStore_iff host hstore (Bool.not_eq_true _ ▸ hambiguous)]
        simp
      · have hidles : idles host.toHost g s = true := by simp [idles, hproven, hambiguous, hdue]
        have hrepair : repairDue host.toHost g s = false := by
          simp [repairDue, hproven, hambiguous, hdue]
        rw [if_neg hdue, tickIdle_leavesStore_iff host uid hstore, captureDue, hidles, hrepair]
        simp [and_imp]

/-! ## Runs -/

/-- A guardian whose store nobody else writes to; a tick finds a state of the
host. -/
def storeMachine (enforceOwner : Bool) (root : StateRoot Members) :
    Machine (Guardian × StateRoot Members) σ (TickReport Json.Report) where
  init := (newGuardian, root)
  step state s :=
    let t := tick host.toHost (Json.recovery host enforceOwner) enforceOwner uid state.1 s state.2
    ((t.guardian, t.root), [t.report])

/-- Every tick of a run neither raises nor changes the store. -/
def RunLeavesStore (enforceOwner : Bool) (root : StateRoot Members) (g : Guardian)
    (ticks : List σ) : Prop :=
  (storeMachine host uid enforceOwner root).AllSteps (fun state s =>
    leavesStore root (tick host.toHost (Json.recovery host enforceOwner) enforceOwner uid state.1 s
      state.2)) (g, root) ticks

theorem run_leavesStore_iff (hstore : ValidStore enforceOwner root loaded) (g : Guardian)
    (ticks : List σ) :
    RunLeavesStore host uid enforceOwner root g ticks ↔
      (storeMachine host uid enforceOwner root).AllSteps (fun state s =>
        sparedJson host loaded state.1 s) (g, root) ticks := by
  unfold RunLeavesStore
  induction ticks generalizing g with
  | nil => exact Iff.rfl
  | cons s ticks ih =>
      -- As long as the ticks leave the store, the next one starts with the same file.
      rw [Machine.AllSteps, Machine.AllSteps, ← tick_leavesStore_iff host uid hstore g s]
      refine and_congr_right fun hleaves => ?_
      have hnext : ((storeMachine host uid enforceOwner root).step (g, root) s).1 =
          ((tick host.toHost (Json.recovery host enforceOwner) enforceOwner uid g s
            root).guardian, root) :=
        Prod.ext rfl hleaves.2
      rw [hnext]
      exact ih _

/-- **The store fails closed on the JSON it refuses, until the host was idle
for long enough; on any other JSON a repair goes on or raises.** -/
theorem store_fails_closed_iff (host : JsonHost σ) (uid : Nat)
    (hstore : ValidStore enforceOwner root loaded) :
    (∀ (s : σ) (now : ℚ) (last : Option ℚ), (proveIdentity host.toHost s).ambiguous = false →
      (((Json.repairOnce host enforceOwner root s now last).2.classification = .stateInvalid ∧
          (Json.repairOnce host enforceOwner root s now last).2.ran = [] ∧
          (Json.repairOnce host enforceOwner root s now last).2.toggleRan = []) ↔
        refusedJson loaded)) ∧
      ∀ (g : Guardian) (ticks : List σ),
        RunLeavesStore host uid enforceOwner root g ticks ↔
          (storeMachine host uid enforceOwner root).AllSteps (fun state s =>
            sparedJson host loaded state.1 s) (g, root) ticks := by
  refine ⟨fun s now last hambiguous => ?_, fun g ticks => run_leavesStore_iff host uid hstore g _⟩
  rcases repairOnce_file host hstore now last hambiguous with
    ⟨-, hrefused, hclass⟩ | ⟨hrefused, -, hinvalid⟩ | ⟨members, -, hrefused, hclass, -⟩
  · simp [hrefused, hclass]
  · simp [hrefused, hinvalid]
  · simp [hrefused, hclass]

end Store

/-- A state directory with the JSON in its baseline file. -/
def jsonRoot (loaded : Option PyJson) : StateRoot Members :=
  .directory 0o700 0 (some ⟨false, 0o600, 0, stateContent loaded⟩) none

theorem validStore_jsonRoot (loaded : Option PyJson) : ValidStore true (jsonRoot loaded) loaded :=
  ⟨rfl, _, rfl, rfl, rfl⟩

/-- A baseline of a later version. -/
def laterBaseline : PyJson :=
  .dict [("schema_version", .int 2), ("wifi", .dict []), ("network", .dict [])]

theorem store_fails_closed_iff_later :
    (Json.repairOnce snapshotHost.json true (jsonRoot (some laterBaseline)) (idleAt 1000) 1000
        none).2.classification = .stateInvalid ∧
      RunLeavesStore snapshotHost.json 0 true (jsonRoot (some laterBaseline)) newGuardian
        [idleAt 1000, idleAt 1010] := by
  have hclosed := store_fails_closed_iff snapshotHost.json 0
    (validStore_jsonRoot (some laterBaseline))
  have hrefused : refusedJson (some laterBaseline) := .inl (by decide)
  refine ⟨((hclosed.1 (idleAt 1000) 1000 none (by decide +kernel)).mpr hrefused).1,
    (hclosed.2 newGuardian _).mpr ⟨⟨?_, ?_, ?_⟩, ⟨?_, ?_, ?_⟩, trivial⟩⟩
  · exact fun h => absurd h (by decide +kernel)
  · exact fun _ => Option.some_ne_none _
  · exact fun h => absurd h (by decide +kernel)
  · exact fun h => absurd h (by decide +kernel)
  · exact fun _ => Option.some_ne_none _
  · exact fun h => absurd h (by decide +kernel)

/-- A baseline without its `wifi` block, with a text for the order. -/
def looseBlocks : PyJson :=
  .dict [("schema_version", .int 1),
    ("network", .dict [("network_service_order", .str "abc")])]

/-- A file that is not JSON raises in a repair and at an idle tick, one of a
later version is replaced after fifteen idle seconds, and one without its
blocks is taken for a baseline, whatever is in them. -/
theorem store_fails_open :
    (wellFormed none = false ∧
        (Json.repairOnce snapshotHost.json true (jsonRoot none) (idleAt 1000) 1000
          none).2.classification = .raised ∧
        (tick snapshotHost (Json.recovery snapshotHost.json true) true 0 newGuardian (idleAt 1000)
          (jsonRoot none)).report = .raised) ∧
      (wellFormed (some laterBaseline) = false ∧
        ((storeMachine snapshotHost.json 0 true (jsonRoot (some laterBaseline))).run
          [idleAt 1000, idleAt 1015]).2 ≠ jsonRoot (some laterBaseline)) ∧
      (wellFormed (some looseBlocks) = false ∧
        (Json.repairOnce snapshotHost.json true (jsonRoot (some looseBlocks)) (idleAt 1000) 1000
          none).2.classification = .verified []) := by
  refine ⟨by decide +kernel, ⟨by decide +kernel, fun hsame => ?_⟩, by decide +kernel⟩
  -- The refused file is the previous baseline now.
  have hprevious := congrArg (fun root => (previousFile root).isSome) hsame
  exact absurd hprevious (by decide +kernel)

end Bootmux.NetworkGuardian
