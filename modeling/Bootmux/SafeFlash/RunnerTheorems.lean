/-
Bootmux.SafeFlash.RunnerTheorems — what a run of the safe flash runner can do.

`Allowed` says of each step what it shows: only the step that flashes starts
`write_flash`, with the command for the manifest that was loaded, and a dry
run neither installs nor changes the shield. No step changes the manifest.
The gate ends without a failure only after a green inspection and after it
has read every artifact with the hash of the manifest. `flash_only_gated`
follows by an induction over the steps of a run: a step is reached only with
the results of all those before it, and none of them failed.

The steps are programs over the bench, and the bench may change in any way
between two of their actions. `Does` says of a program what it may show, and
the lemmas go from the actions over the steps to the list of steps. The gate
is the one step of which more is shown: what it had read when it ended
(`Gated`).
-/
import Bootmux.SafeFlash.Runner
import Bootmux.Lib.Machine

namespace Bootmux.SafeFlash

open Bootmux.Lib
open Bootmux.Lib.PyJson (valueOf asDict asText elementsOf isText)

variable {σ : Type} {bench : Bench σ} {runner loaded : Runner}

/-! ## What a step shows -/

/-- What a dry run may do too. -/
def Harmless : Label σ → Prop
  | .writeFlash _ | .install => False
  | .shield args _ _ _ _ => args = ["--status"] ∨ args = ["--fingerprint"]
  | _ => True

/-- A step that closes or purges is one of the two steps named so. -/
def MayClose (step : Step) (args : List String) : Prop :=
  args = ["--close-session"] ∨ args = ["--uninstall", "--purge"] →
    step = .shieldClose ∨ step = .shieldPurge

/-- What a step may show. -/
def Allowed (bench : Bench σ) (runner : Runner) (step : Step) : Label σ → Prop
  | .writeFlash command => runner.dryRun = false ∧ step = .flash ∧
      ∃ esptool port manifest buildDir, runner.manifest = some manifest ∧
        runner.buildDir = some buildDir ∧
        buildFlashCommand esptool port manifest buildDir = some command
  | .install => runner.dryRun = false
  | .shield args asRoot before after answer =>
      (runner.dryRun = false ∧ MayClose step args ∨ args = ["--status"] ∨
          args = ["--fingerprint"]) ∧
        bench.shield args asRoot before = (after, answer)
  | .result _ _ => False
  | _ => True

/-- The object has what a run loads at its start. -/
def SameSetup (loaded runner : Runner) : Prop :=
  runner.dryRun = loaded.dryRun ∧ runner.manifest = loaded.manifest ∧
    runner.buildDir = loaded.buildDir

theorem SameSetup.refl (runner : Runner) : SameSetup runner runner := ⟨rfl, rfl, rfl⟩

/-- A step is allowed what it was when the run started. -/
theorem SameSetup.allowed {step : Step} {label : Label σ} (hsetup : SameSetup loaded runner)
    (h : Allowed bench runner step label) : Allowed bench loaded step label := by
  obtain ⟨hdry, hmanifest, hbuild⟩ := hsetup
  cases label with
  | writeFlash command => simpa only [Allowed, hdry, hmanifest, hbuild] using h
  | install => simpa only [Allowed, hdry] using h
  | shield args asRoot before after answer => simpa only [Allowed, hdry] using h
  | _ => exact h

/-- A program of a step, and the object after it. -/
abbrev StepDoes (bench : Bench σ) (runner : Runner) (step : Step)
    (p : Attempt σ (Label σ) (Runner × String)) :
    Prop :=
  Attempt.Does (Allowed bench runner step) (fun r => SameSetup runner r.1) p

/-- An operation is allowed if its label is, whatever the bench answers. -/
theorem does_perform {α : Type} {A : Label σ → Prop} {label : σ → σ × Option α → Label σ}
    {op : σ → σ × Option α} (h : ∀ s, A (label s (op s))) :
    Attempt.Does A (fun _ => True) (perform label op) :=
  Attempt.does_action h fun _ _ _ => trivial

section Steps

variable {step : Step}

theorem does_journal (event status : String) :
    Attempt.Does (Allowed bench runner step) (fun _ => True) (journal bench event status) :=
  does_perform fun _ => trivial

/-- The last entry of a step, and what it ends with. -/
theorem does_journal_pure (event status result : String) {after : Runner}
    (h : SameSetup runner after) :
    StepDoes bench runner step (journal bench event status >>= fun _ => pure (after, result)) :=
  (does_journal event status).bind fun _ _ => Attempt.does_pure h

/-- Of the shield, a step may call what closes it if it is a real run, and
look at it. -/
theorem does_runShield {args : List String} (asRoot : Bool)
    (h : runner.dryRun = false ∧ MayClose step args ∨ args = ["--status"] ∨
      args = ["--fingerprint"]) :
    Attempt.Does (Allowed bench runner step) (fun _ => True) (runShield bench args asRoot) :=
  does_perform fun _ => ⟨h, rfl⟩

theorem does_findEsptool :
    Attempt.Does (Allowed bench runner step) (fun _ => True) (findEsptool bench) :=
  does_perform fun _ => trivial

theorem does_runInspector :
    Attempt.Does (Allowed bench runner step) (fun _ => True) (runInspector bench) :=
  does_perform fun _ => trivial

theorem does_option {α : Type} (a : Option α) :
    Attempt.Does (Allowed bench runner step) (fun _ => True)
      (.ofOption a : Attempt σ (Label σ) α) :=
  Attempt.does_ofOption fun _ _ => trivial

/-- In a dry run the body is not reached. -/
theorem does_unlessDry {event : String} {p : Attempt σ (Label σ) (Runner × String)}
    (h : runner.dryRun = false → StepDoes bench runner step p) :
    StepDoes bench runner step (unlessDry bench runner event p) := by
  unfold unlessDry
  split
  · exact does_journal_pure event "OK" "GREEN_DRY_RUN" (.refl runner)
  · next hdry => exact h (by simpa using hdry)

theorem does_takeFingerprint {event out : String} {set : PyJson → Runner}
    (h : ∀ fingerprint, SameSetup runner (set fingerprint)) :
    StepDoes bench runner step (takeFingerprint bench runner event out set) := by
  unfold takeFingerprint
  split
  · exact does_journal_pure event "RED" "RED" (.refl runner)
  · exact (does_option _).bind fun _ _ => does_journal_pure event "OK" "GREEN" (h _)

/-- Looking at hashes is allowed to every step. -/
theorem does_verifyHashes {buildDir : Path} {missing : String} {note : Attempt σ (Label σ) Unit}
    (hnote : Attempt.Does (Allowed bench runner step) (fun _ => True) note)
    (artifacts : List PyJson) :
    Attempt.Does (Allowed bench runner step) (fun _ => True)
      (verifyHashes bench buildDir missing note artifacts) := by
  induction artifacts with
  | nil => exact Attempt.does_pure trivial
  | cons art rest ih =>
      refine (does_option _).bind fun path _ => ?_
      split
      · refine (does_option _).bind fun data _ => ?_
        refine (Attempt.does_action (fun _ => trivial) fun _ _ _ => trivial).bind fun _ _ => ?_
        refine (does_option _).bind fun sha _ => ?_
        split
        · exact ih
        · refine (does_option _).bind fun name _ => ?_
          exact hnote.bind fun _ _ => Attempt.does_pure trivial
      · refine hnote.bind fun _ _ => ?_
        exact (does_option _).bind fun name _ => Attempt.does_pure trivial

theorem does_readBack (port : String) (artifacts : List PyJson) :
    Attempt.Does (Allowed bench runner step) (fun _ => True) (readBack bench port artifacts) := by
  refine Attempt.does_mapM fun art => ?_
  refine (does_option _).bind fun members _ => ?_
  refine (does_option _).bind fun offset _ => (does_option _).bind fun size _ => ?_
  refine (does_perform fun _ => trivial).bind fun answer _ => ?_
  refine (does_option _).bind fun name _ => ?_
  split
  · exact Attempt.does_pure trivial
  · exact (does_option _).bind fun sha _ => Attempt.does_pure trivial

end Steps

theorem does_stepPreFingerprint :
    StepDoes bench runner .preFingerprint (stepPreFingerprint bench runner) := by
  have hshield : Attempt.Does (Allowed bench runner .preFingerprint) (fun _ => True)
      (runShield bench ["--fingerprint"] false) := does_runShield false (.inr (.inr rfl))
  refine hshield.bind fun first _ => ?_
  dsimp only
  split
  · exact hshield.bind fun second _ => does_takeFingerprint fun _ => .refl runner
  · exact (Attempt.does_pure trivial).bind (P := fun _ => True) fun second _ =>
      does_takeFingerprint fun _ => .refl runner

theorem does_stepShieldInstall :
    StepDoes bench runner .shieldInstall (stepShieldInstall bench runner) :=
  does_unlessDry fun hdry => (does_perform fun _ => hdry).bind fun _ _ =>
    does_journal_pure _ _ _ (.refl runner)

theorem does_stepShieldArm : StepDoes bench runner .shieldArm (stepShieldArm bench runner) :=
  does_unlessDry fun hdry => (does_runShield true (.inl ⟨hdry, by simp [MayClose]⟩)).bind
    fun _ _ => does_journal_pure _ _ _ (.refl runner)

theorem does_stepSerialBaseline :
    StepDoes bench runner .serialBaseline (stepSerialBaseline bench runner) :=
  (does_perform fun _ => trivial).bind fun _ _ => does_journal_pure _ _ _ (.refl runner)

theorem does_stepSerialDetect :
    StepDoes bench runner .serialDetect (stepSerialDetect bench runner) := by
  refine (does_perform fun _ => trivial).bind fun ports _ => ?_
  split
  · exact does_journal_pure _ _ _ (.refl runner)
  · exact does_journal_pure _ _ _ (.refl runner)

theorem does_stepRomModeCheck :
    StepDoes bench runner .romModeCheck (stepRomModeCheck bench runner) := by
  unfold stepRomModeCheck
  split
  · exact Attempt.does_pure (.refl runner)
  · exact does_unlessDry fun _ => (does_perform fun _ => trivial).bind fun _ _ =>
      does_journal_pure _ _ _ (.refl runner)

/-- The gate is a step, and a part of the preflight as well. -/
theorem does_stepPreFlashGate {step : Step} :
    StepDoes bench runner step (stepPreFlashGate bench runner) := by
  unfold stepPreFlashGate
  split
  · refine does_runInspector.bind fun answer _ => ?_
    obtain ⟨code, out⟩ := answer
    dsimp only
    split
    · exact does_journal_pure _ _ _ (.refl runner)
    · refine (does_option _).bind fun report _ => ?_
      split
      · refine (does_option _).bind fun artifacts _ => ?_
        refine (does_verifyHashes (does_journal _ _) _).bind fun failed _ => ?_
        split
        · exact Attempt.does_pure (.refl runner)
        · exact (does_option _).bind fun _ _ => does_journal_pure _ _ _ (.refl runner)
      · exact (does_option _).bind fun _ _ => does_journal_pure _ _ _ (.refl runner)
  · exact Attempt.does_pure (.refl runner)

/-- A runner is ready only with its manifest and its directory. -/
theorem ready_eq_some {port : String} {manifest : Members} {buildDir : Path}
    (h : runner.ready = some (port, manifest, buildDir)) :
    runner.manifest = some manifest ∧ runner.buildDir = some buildDir := by
  unfold Runner.ready at h
  simp only [Option.bind_eq_bind, Option.bind_eq_some_iff] at h
  obtain ⟨p, hport, m, hmanifest, b, hbuild, h⟩ := h
  split at h
  · cases h
    exact ⟨hmanifest, hbuild⟩
  · cases h

/-- The flash step writes images only in a real run. -/
theorem does_stepFlash : StepDoes bench runner .flash (stepFlash bench runner) := by
  unfold stepFlash
  split
  · exact Attempt.does_pure (.refl runner)
  · next port manifest buildDir hready =>
      obtain ⟨hmanifest, hbuild⟩ := ready_eq_some hready
      refine does_unlessDry fun hdry => does_findEsptool.bind fun found _ => ?_
      split
      · exact does_journal_pure _ _ _ (.refl runner)
      · next esptool =>
          refine (Attempt.does_ofOption (P := fun command =>
            buildFlashCommand esptool port manifest buildDir = some command)
            fun command h => h).bind fun command hcommand => ?_
          refine (does_journal _ _).bind fun _ _ => (does_option _).bind fun _ _ => ?_
          have hallowed : Allowed bench runner .flash (.writeFlash command) :=
            ⟨hdry, rfl, esptool, port, manifest, buildDir, hmanifest, hbuild, hcommand⟩
          exact (does_perform fun _ => hallowed).bind fun _ _ =>
            does_journal_pure _ _ _ (.refl runner)

theorem does_stepFlashVerify :
    StepDoes bench runner .flashVerify (stepFlashVerify bench runner) := by
  refine does_unlessDry fun _ => ?_
  split
  · exact Attempt.does_pure (.refl runner)
  · refine does_findEsptool.bind fun found _ => ?_
    split
    · exact does_journal_pure _ _ _ (.refl runner)
    · exact (does_option _).bind fun artifacts _ => (does_readBack _ artifacts).bind fun _ _ =>
        does_journal_pure _ _ _ (.refl runner)

theorem does_stepSafeIdentityVerify :
    StepDoes bench runner .safeIdentityVerify (stepSafeIdentityVerify bench runner) := by
  refine does_runInspector.bind fun answer _ => ?_
  obtain ⟨code, out⟩ := answer
  dsimp only
  split
  · exact does_journal_pure _ _ _ (.refl runner)
  · exact (does_option _).bind fun _ _ => (does_journal _ _).bind fun _ _ =>
      (does_option _).bind fun _ _ => Attempt.does_pure (.refl runner)

theorem does_stepShieldClose :
    StepDoes bench runner .shieldClose (stepShieldClose bench runner) :=
  does_unlessDry fun hdry => (does_runShield true (.inl ⟨hdry, fun _ => .inl rfl⟩)).bind
    fun _ _ => does_journal_pure _ _ _ (.refl runner)

/-- A run that is aborted purges too, and without the step. -/
theorem does_stepShieldPurge {step : Step} (h : step = .shieldClose ∨ step = .shieldPurge) :
    StepDoes bench runner step (stepShieldPurge bench runner) :=
  does_unlessDry fun hdry => (does_runShield true (.inl ⟨hdry, fun _ => h⟩)).bind
    fun _ _ => does_journal_pure _ _ _ (.refl runner)

theorem does_stepPostFingerprint :
    StepDoes bench runner .postFingerprint (stepPostFingerprint bench runner) :=
  (does_runShield false (.inr (.inr rfl))).bind fun _ _ =>
    does_takeFingerprint fun _ => .refl runner

theorem does_stepFingerprintCompare :
    StepDoes bench runner .fingerprintCompare (stepFingerprintCompare bench runner) := by
  unfold stepFingerprintCompare
  split
  · exact (does_option _).bind fun _ _ => (does_option _).bind fun _ _ =>
      does_journal_pure _ _ _ (.refl runner)
  · exact Attempt.does_pure (.refl runner)

/-- Every step shows what it may show, and keeps what was loaded. -/
theorem does_runStep (step : Step) : StepDoes bench runner step (runStep bench step runner) := by
  cases step with
  | preFingerprint => exact does_stepPreFingerprint
  | shieldInstall => exact does_stepShieldInstall
  | shieldArm => exact does_stepShieldArm
  | serialBaseline => exact does_stepSerialBaseline
  | serialDetect => exact does_stepSerialDetect
  | romModeCheck => exact does_stepRomModeCheck
  | preFlashGate => exact does_stepPreFlashGate
  | flash => exact does_stepFlash
  | flashVerify => exact does_stepFlashVerify
  | safeIdentityVerify => exact does_stepSafeIdentityVerify
  | shieldClose => exact does_stepShieldClose
  | shieldPurge => exact does_stepShieldPurge (.inr rfl)
  | postFingerprint => exact does_stepPostFingerprint
  | fingerprintCompare => exact does_stepFingerprintCompare

/-- A resume is allowed what the close step is. -/
theorem does_closeIfArmed :
    Attempt.Does (Allowed bench runner .shieldClose) (fun _ => True)
      (closeIfArmed bench runner) := by
  refine ((does_runShield true (.inr (.inl rfl))).bind (Q := fun _ => True) fun _ _ =>
    Attempt.does_pure trivial).bind fun armed _ => ?_
  split
  · exact does_stepShieldClose.bind fun _ _ => (does_stepShieldPurge (.inl rfl)).bind
      fun _ _ => Attempt.does_pure trivial
  · exact Attempt.does_pure trivial

/-! ## The gate -/

/-- The inspector has answered that the firmware is safe. -/
def InspectedGreen (bench : Bench σ) (seen : List (Label σ)) : Prop :=
  ∃ code out report members, .inspect (some (code, out)) ∈ seen ∧ bench.loads out = some report ∧
    asDict report = some members ∧ isText (valueOf members "overall" (.str "RED")) "GREEN" = true

/-- The file of an artifact has been read, with the hash of the manifest. -/
def Verified (bench : Bench σ) (buildDir : Path) (seen : List (Label σ)) (art : PyJson) : Prop :=
  ∃ path data sha, artifactPath buildDir art = some path ∧ .read path data ∈ seen ∧
    artifactSha art = some sha ∧ isText sha (bench.sha256 data) = true

/-- What the gate stands for. -/
def Gated (bench : Bench σ) (runner : Runner) (seen : List (Label σ)) : Prop :=
  InspectedGreen bench seen ∧ ∀ manifest buildDir, runner.manifest = some manifest →
    runner.buildDir = some buildDir → ∃ artifacts, artifactsOf manifest = some artifacts ∧
      ∀ art ∈ artifacts, Verified bench buildDir seen art

/-- What has been verified stays verified. -/
theorem Verified.mono {buildDir : Path} {seen more : List (Label σ)} {art : PyJson}
    (h : Verified bench buildDir seen art) (hsub : seen ⊆ more) :
    Verified bench buildDir more art := by
  obtain ⟨path, data, sha, hpath, hread, hsha⟩ := h
  exact ⟨path, data, sha, hpath, hsub hread, hsha⟩

/-- The gate stays passed. -/
theorem Gated.mono {seen more : List (Label σ)} (h : Gated bench runner seen)
    (hsub : seen ⊆ more) : Gated bench runner more := by
  obtain ⟨⟨code, out, report, members, hinspect, hgreen⟩, hverified⟩ := h
  refine ⟨⟨code, out, report, members, hsub hinspect, hgreen⟩, ?_⟩
  intro manifest buildDir hmanifest hbuild
  obtain ⟨artifacts, hartifacts, hall⟩ := hverified manifest buildDir hmanifest hbuild
  exact ⟨artifacts, hartifacts, fun art hart => (hall art hart).mono hsub⟩

theorem SameSetup.gated {seen : List (Label σ)} (hsetup : SameSetup loaded runner)
    (h : Gated bench runner seen) : Gated bench loaded seen := by
  refine ⟨h.1, fun manifest buildDir hmanifest hbuild => ?_⟩
  exact h.2 manifest buildDir (hsetup.2.1.trans hmanifest) (hsetup.2.2.trans hbuild)

/-- A result is red by how it starts. -/
theorem isRed_append {text : String} (h : isRed text = true) (more : String) :
    isRed (text ++ more) = true := by
  unfold isRed at h ⊢
  rw [List.isPrefixOf_iff_prefix] at h ⊢
  rw [String.toList_append]
  exact h.trans (List.prefix_append _ _)

/-- Hashes that all match are those of files that were read; otherwise the
result is a failure. -/
theorem ends_verifyHashes {buildDir : Path} {missing : String} (hmissing : isRed missing = true)
    {note : Attempt σ (Label σ) Unit} (artifacts : List PyJson) :
    Attempt.Ends (fun seen failed => (∀ result, failed = some result → isRed result = true) ∧
        (failed = none → ∀ art ∈ artifacts, Verified bench buildDir seen art))
      (verifyHashes bench buildDir missing note artifacts) := by
  have hred {seen : List (Label σ)} {arts : List PyJson} {text : String}
      (h : isRed text = true) (name : String) :
      (∀ result, some (text ++ name) = some result → isRed result = true) ∧
        (some (text ++ name) = none → ∀ art ∈ arts, Verified bench buildDir seen art) := by
    refine ⟨?_, nofun⟩
    rintro _ ⟨⟩
    exact isRed_append h name
  induction artifacts with
  | nil => exact Attempt.ends_pure ⟨nofun, by simp⟩
  | cons art rest ih =>
      refine (Attempt.ends_ofOption (P := fun seen path => seen = [] ∧
        artifactPath buildDir art = some path) fun path h => ⟨rfl, h⟩).bind ?_
      rintro _ path ⟨rfl, hpath⟩
      split
      · refine (Attempt.ends_ofOption (P := fun seen _ => seen = []) fun _ _ => rfl).bind ?_
        rintro _ data rfl
        refine (Attempt.ends_action (P := fun seen _ => seen = [.read path data])
          fun _ _ _ => rfl).bind ?_
        rintro _ _ rfl
        refine (Attempt.ends_ofOption (P := fun seen sha => seen = [] ∧
          artifactSha art = some sha) fun sha h => ⟨rfl, h⟩).bind ?_
        rintro _ sha ⟨rfl, hsha⟩
        split
        · next hmatch =>
            intro s failed hresult
            obtain ⟨hfailed, hverified⟩ := ih s failed hresult
            refine ⟨hfailed, fun hnone b hb => ?_⟩
            rcases List.mem_cons.mp hb with rfl | hb
            · exact ⟨path, data, sha, hpath, by simp, hsha, hmatch⟩
            · exact (hverified hnone b hb).mono (by simp)
        · refine Attempt.ends_true.bind fun _ name _ => Attempt.ends_true.bind fun _ _ _ => ?_
          exact Attempt.ends_pure (hred (by decide) name)
      · refine Attempt.ends_true.bind fun _ _ _ => Attempt.ends_true.bind fun _ name _ => ?_
        exact Attempt.ends_pure (hred hmissing name)

/-- Nothing is asked of a step that fails. -/
theorem ends_red {after : Runner} {result : String} {P : List (Label σ) → Prop}
    (h : isRed result = true) :
    Attempt.Ends (fun seen r => isRed r.2 = false → P seen)
      (pure (after, result) : Attempt σ (Label σ) (Runner × String)) :=
  Attempt.ends_pure fun hgreen => absurd h (by simp [hgreen])

/-- A gate that does not fail has inspected the firmware and read its files. -/
theorem ends_stepPreFlashGate :
    Attempt.Ends (fun seen r => isRed r.2 = false → Gated bench runner seen)
      (stepPreFlashGate bench runner) := by
  unfold stepPreFlashGate
  split
  · next manifest buildDir hmanifest hbuild =>
      refine (Attempt.ends_action (P := fun seen r => seen = [.inspect (some r)])
        fun s r h => congrArg (fun a => [Label.inspect a]) h).bind ?_
      rintro _ ⟨code, out⟩ rfl
      dsimp only
      split
      · exact Attempt.ends_true.bind fun _ _ _ => ends_red (by decide)
      · next report hreport =>
          refine (Attempt.ends_ofOption (P := fun seen members => seen = [] ∧
            asDict report = some members) fun members h => ⟨rfl, h⟩).bind ?_
          rintro _ members ⟨rfl, hmembers⟩
          split
          · next hgreen =>
              refine (Attempt.ends_ofOption (P := fun seen artifacts => seen = [] ∧
                artifactsOf manifest = some artifacts) fun artifacts h => ⟨rfl, h⟩).bind ?_
              rintro _ artifacts ⟨rfl, hartifacts⟩
              refine (ends_verifyHashes (by decide) artifacts).bind ?_
              rintro seen failed ⟨hfailed, hverified⟩
              split
              · next result =>
                  exact ends_red (hfailed result rfl)
              · refine Attempt.ends_true.bind fun _ _ _ => Attempt.ends_true.bind fun _ _ _ => ?_
                refine Attempt.ends_pure fun _ => ⟨⟨code, out, report, members, by simp, hreport,
                  hmembers, hgreen⟩, fun m b hm hb => ?_⟩
                obtain rfl : manifest = m :=
                  Option.some.inj ((Option.filter_eq_some_iff.mp hmanifest).1.symm.trans hm)
                obtain rfl : buildDir = b := Option.some.inj (hbuild.symm.trans hb)
                exact ⟨artifacts, hartifacts,
                  fun art hart => (hverified rfl art hart).mono (by simp)⟩
          · refine Attempt.ends_true.bind fun _ _ _ => Attempt.ends_true.bind fun _ _ _ => ?_
            exact ends_red (isRed_append (by decide) _)
  · exact ends_red (by decide)

/-! ## Runs -/

/-- The results of the steps that have ended. -/
def resultsOf (seen : List (Label σ)) : List (String × String) :=
  seen.filterMap fun
    | .result name result => some (name, result)
    | _ => none

@[simp] theorem resultsOf_append (seen more : List (Label σ)) :
    resultsOf (seen ++ more) = resultsOf seen ++ resultsOf more :=
  List.filterMap_append

/-- Inside a step there is no result of a step. -/
theorem resultsOf_allowed {step : Step} {labels : List (Label σ)}
    (h : ∀ label ∈ labels, Allowed bench runner step label) : resultsOf labels = [] := by
  refine List.filterMap_eq_nil_iff.mpr fun label hlabel => ?_
  cases label with
  | result name result => exact (h _ hlabel).elim
  | _ => rfl

/-- The steps before the one that flashes. -/
def stepsBeforeFlash : List Step := runnerSteps.takeWhile (· ≠ .flash)

/-- `write_flash` is started in a real run only, after all the steps before it
and no failure, after a green inspection, and for files that were read with
the hash that the manifest has for them. -/
def FlashOnlyGated (bench : Bench σ) (runner : Runner) (seen : List (Label σ)) :
    Label σ → Prop
  | .writeFlash command => runner.dryRun = false ∧
      (resultsOf seen).map Prod.fst = stepsBeforeFlash.map Step.name ∧
      (∀ result ∈ resultsOf seen, isRed result.2 = false) ∧ InspectedGreen bench seen ∧
      ∃ loaded manifest buildDir artifacts, loadManifest bench runner = some (some loaded) ∧
        loaded.manifest = some manifest ∧ loaded.buildDir = some buildDir ∧
        artifactsOf manifest = some artifacts ∧
        command.images.map (fun image => some image.2) = artifacts.map (artifactPath buildDir) ∧
        ∀ art ∈ artifacts, Verified bench buildDir seen art
  | _ => True

/-- The images are those of the manifest, one for each artifact. -/
theorem images_of_mapM {buildDir : Path} {artifacts : List PyJson}
    {images : List (PyJson × Path)} (h : artifacts.mapM (flashImage buildDir) = some images) :
    images.map (fun image => some image.2) = artifacts.map (artifactPath buildDir) := by
  induction artifacts generalizing images with
  | nil =>
      cases h
      rfl
  | cons art rest ih =>
      simp only [List.mapM_cons, Option.bind_eq_bind, Option.bind_eq_some_iff] at h
      obtain ⟨image, himage, images, himages, ⟨⟩⟩ := h
      simp only [flashImage, Option.bind_eq_bind, Option.bind_eq_some_iff] at himage
      obtain ⟨members, hmembers, offset, hoffset, path, hpath, ⟨⟩⟩ := himage
      rw [List.map_cons, List.map_cons, hpath, ih himages]

/-- The command names the files of the artifacts. -/
theorem images_of_buildFlashCommand {esptool : Esptool} {port : String} {manifest : Members}
    {buildDir : Path} {command : FlashCommand}
    (h : buildFlashCommand esptool port manifest buildDir = some command) :
    ∃ artifacts, artifactsOf manifest = some artifacts ∧
      command.images.map (fun image => some image.2) = artifacts.map (artifactPath buildDir) := by
  simp only [buildFlashCommand, Option.bind_eq_bind, Option.bind_eq_some_iff] at h
  obtain ⟨params, hparams, artifacts, hartifacts, images, himages, ⟨⟩⟩ := h
  exact ⟨artifacts, hartifacts, images_of_mapM himages⟩

/-- A run has come past the steps `done`, and none of them failed. -/
structure Reached (bench : Bench σ) (loaded : Runner) (done : List Step)
    (seen : List (Label σ)) : Prop where
  results : (resultsOf seen).map Prod.fst = done.map Step.name
  green : ∀ result ∈ resultsOf seen, isRed result.2 = false
  gated : .preFlashGate ∈ done → Gated bench loaded seen

/-- What a step does without a result does not change how far the run is. -/
theorem Reached.append {done : List Step} {seen labels : List (Label σ)}
    (h : Reached bench loaded done seen) (hlabels : resultsOf labels = []) :
    Reached bench loaded done (seen ++ labels) where
  results := by rw [resultsOf_append, hlabels, List.append_nil, h.results]
  green := by rw [resultsOf_append, hlabels, List.append_nil]; exact h.green
  gated hgate := (h.gated hgate).mono (List.subset_append_left seen labels)

/-- One step further. -/
theorem Reached.next {done : List Step} {seen : List (Label σ)} {step : Step} {result : String}
    (h : Reached bench loaded done seen) (hresult : isRed result = false)
    (hgate : step = .preFlashGate → Gated bench loaded seen) :
    Reached bench loaded (done ++ [step]) (seen ++ [.result step.name result]) where
  results := by
    rw [resultsOf_append, List.map_append, h.results, List.map_append]
    rfl
  green := by
    intro r hr
    rw [resultsOf_append, List.mem_append] at hr
    rcases hr with hr | hr
    · exact h.green r hr
    · obtain rfl : r = (step.name, result) := by simpa [resultsOf] using hr
      exact hresult
  gated hmem := by
    have hgated : Gated bench loaded seen := by
      rcases List.mem_append.mp hmem with hmem | hmem
      · exact h.gated hmem
      · exact hgate (List.mem_singleton.mp hmem).symm
    exact hgated.mono (List.subset_append_left seen _)

/-- The steps in front of the one that flashes are all those before it. -/
theorem done_of_flash {done rest : List Step} (h : done ++ .flash :: rest = runnerSteps) :
    done = stepsBeforeFlash := by
  have hnodup : (done ++ .flash :: rest).Nodup := h ▸ by decide
  have hnot : ∀ step ∈ done, step ≠ .flash := by
    rintro step hstep rfl
    exact (List.nodup_append.mp hnodup).2.2 _ hstep _ List.mem_cons_self rfl
  rw [stepsBeforeFlash, ← h, List.takeWhile_append_of_pos (by simpa using hnot)]
  simp

/-- What a step shows is as it should be where the step is reached. -/
theorem Reached.allowed {start : Runner} {done rest : List Step} {step : Step}
    {seen : List (Label σ)} {label : Label σ} (h : Reached bench loaded done seen)
    (horder : done ++ step :: rest = runnerSteps)
    (hload : loadManifest bench start = some (some loaded)) (hdry : loaded.dryRun = start.dryRun)
    (hlabel : Allowed bench loaded step label) : FlashOnlyGated bench start seen label := by
  cases label with
  | writeFlash command =>
      obtain ⟨hreal, rfl, esptool, port, manifest, buildDir, hmanifest, hbuild, hcommand⟩ := hlabel
      obtain ⟨artifacts, hartifacts, himages⟩ := images_of_buildFlashCommand hcommand
      obtain rfl := done_of_flash horder
      obtain ⟨hgreen, hverified⟩ := h.gated (by decide)
      obtain ⟨arts, harts, hall⟩ := hverified manifest buildDir hmanifest hbuild
      obtain rfl : artifacts = arts := Option.some.inj (hartifacts.symm.trans harts)
      exact ⟨hdry ▸ hreal, h.results, h.green, hgreen, loaded, manifest, buildDir, artifacts,
        hload, hmanifest, hbuild, hartifacts, himages, hall⟩
  | _ => trivial

/-- A run that a step has failed closes the shield. -/
theorem does_abort (outcome : Outcome) :
    Attempt.Does (Allowed bench runner .shieldClose) (fun _ => True) (do
      journal bench "RUNNER_ABORT" "RED"
      closeIfArmed bench runner
      pure outcome) :=
  (does_journal _ _).bind fun _ _ => does_closeIfArmed.bind fun _ _ => Attempt.does_pure trivial

/-- Steps other than the flash write no image. -/
theorem Allowed.not_flash {step : Step} {label : Label σ} (h : Allowed bench runner step label)
    (hstep : step ≠ .flash) {start : Runner} {seen : List (Label σ)} :
    FlashOnlyGated bench start seen label := by
  cases label with
  | writeFlash command => exact absurd h.2.1 hstep
  | _ => trivial

/-- The induction over the steps that are left: an image is written only by
the flash, after the gate. -/
theorem always_runSteps {start : Runner} (hload : loadManifest bench start = some (some loaded))
    (hdry : loaded.dryRun = start.dryRun) (steps : List Step) :
    ∀ (done : List Step) (runner : Runner) (results : List (String × String))
      (seen : List (Label σ)) (s : σ), done ++ steps = runnerSteps →
      Reached bench loaded done seen → SameSetup loaded runner →
      Machine.Always (FlashOnlyGated bench start) seen
        ((runSteps bench steps runner results).labels s) := by
  induction steps with
  | nil =>
      intro done runner results seen s _ _ _
      refine Machine.always_of_forall seen fun label hlabel _ => ?_
      have hdoes : Attempt.Does (Allowed bench runner .shieldClose) (fun _ => True)
          (runSteps bench [] runner results) :=
        (does_journal _ _).bind fun _ _ => Attempt.does_pure trivial
      exact ((hdoes s).1 label hlabel).not_flash (by decide)
  | cons step rest ih =>
      intro done runner results seen s horder hreached hsetup
      obtain ⟨hlabels, hafter⟩ := @does_runStep _ bench runner step s
      have hallowed :
          ∀ label ∈ (runStep bench step runner).labels s, Allowed bench loaded step label :=
        fun label hlabel => hsetup.allowed (hlabels label hlabel)
      -- What the step shows has no result in it, so all of it is shown where the step is reached.
      have hstep : Machine.Always (FlashOnlyGated bench start) seen
          ((runStep bench step runner).labels s) := by
        rw [Machine.always_iff_split]
        intro before label after hsplit
        rw [hsplit] at hallowed
        have hbefore : resultsOf before = [] := resultsOf_allowed fun l hl =>
          hallowed l (by simp [hl])
        exact (hreached.append hbefore).allowed horder hload hdry (hallowed label (by simp))
      rw [runSteps, Attempt.labels_bind, Machine.always_append]
      refine ⟨hstep, ?_⟩
      cases hresult : (runStep bench step runner).result s with
      | none => trivial
      | some answer =>
          obtain ⟨next, result⟩ := answer
          have hnext : SameSetup loaded next := by
            obtain ⟨h₁, h₂, h₃⟩ := hafter _ hresult
            exact ⟨h₁.trans hsetup.1, h₂.trans hsetup.2.1, h₃.trans hsetup.2.2⟩
          rw [Option.elim_some, Attempt.labels_bind, announce, Attempt.labels_action,
            Machine.always_append]
          refine ⟨⟨trivial, trivial⟩, ?_⟩
          simp only [Attempt.result_action, Attempt.after_action, Option.elim_some]
          split
          · refine Machine.always_of_forall _ fun label hlabel _ => ?_
            have hdoes := @does_abort _ bench next
              (.failed step.name (results ++ [(step.name, result)]))
            exact ((hdoes _).1 label hlabel).not_flash (by decide)
          · next hgreen =>
              have hgate : step = .preFlashGate →
                  Gated bench loaded (seen ++ (runStep bench step runner).labels s) := by
                rintro rfl
                exact (hsetup.gated
                  (ends_stepPreFlashGate s _ hresult (by simpa using hgreen))).mono
                  (List.subset_append_right seen _)
              refine ih (done ++ [step]) next _ _ _ (by simpa using horder) ?_ hnext
              exact (hreached.append (resultsOf_allowed hallowed)).next
                (by simpa using hgreen) hgate

/-! ## The flash gate -/

/-- Loading the manifest keeps the mode of the run. -/
theorem loadManifest_dryRun (h : loadManifest bench runner = some (some loaded)) :
    loaded.dryRun = runner.dryRun := by
  unfold loadManifest at h
  extract_lets path at h
  split at h
  · simp at h
  · simp only [Option.bind_eq_bind, Option.bind_eq_some_iff] at h
    obtain ⟨_, _, _, _, _, _, ⟨⟩⟩ := h
    rfl

theorem Allowed.load {step : Step} {label : Label σ} (h : Allowed bench loaded step label)
    (hdry : loaded.dryRun = runner.dryRun) (hstep : step ≠ .flash) :
    Allowed bench runner step label := by
  cases label with
  | writeFlash command => exact absurd h.2.1 hstep
  | install => exact hdry.symm.trans h
  | shield args asRoot before after answer => simpa only [Allowed, hdry] using h
  | _ => exact h

theorem does_loadManifest {step : Step} :
    Attempt.Does (Allowed bench runner step)
      (fun found => ∀ loaded, found = some loaded → loaded.dryRun = runner.dryRun)
      (.ofOption (loadManifest bench runner) : Attempt σ (Label σ) (Option Runner)) :=
  Attempt.does_ofOption fun _ hload _ h => loadManifest_dryRun (h ▸ hload)

/-- The preflight starts nothing that changes anything. -/
theorem does_runPreflight :
    Attempt.Does (Allowed bench runner .preFlashGate) (fun _ => True)
      (runPreflight bench runner) := by
  refine (does_journal _ _).bind fun _ _ => does_loadManifest.bind fun found hfound => ?_
  split
  · exact Attempt.does_pure trivial
  · next loaded =>
      refine does_findEsptool.bind fun esptool _ => ?_
      split
      · exact Attempt.does_pure trivial
      · split
        · refine (does_option _).bind fun artifacts _ => ?_
          refine (does_verifyHashes (Attempt.does_pure trivial) artifacts).bind fun failed _ => ?_
          have hgate := (@does_stepPreFlashGate _ bench loaded .preFlashGate).mono
            (P := _) (R := fun _ => True)
            (fun label h => h.load (hfound loaded rfl) (by decide)) fun _ _ => trivial
          exact hgate.bind fun _ _ => Attempt.does_pure trivial
        · exact Attempt.does_pure trivial

/-- **Before every write** of a run the gate has been passed. -/
theorem always_run (s : σ) :
    Machine.Always (FlashOnlyGated bench runner) [] ((run bench runner).labels s) := by
  unfold run
  split
  · refine Machine.always_of_forall [] fun label hlabel _ => ?_
    exact ((does_runPreflight s).1 label hlabel).not_flash (by decide)
  · rw [Attempt.labels_bind, Machine.always_append]
    refine ⟨⟨trivial, trivial⟩, ?_⟩
    cases (journal bench "RUNNER_START" "OK").result s with
    | none => trivial
    | some started =>
        rw [Option.elim_some, Attempt.labels_bind, Attempt.labels_ofOption, List.nil_append,
          Attempt.result_ofOption, Attempt.after_ofOption]
        cases hload : loadManifest bench runner with
        | none => trivial
        | some found =>
            cases found with
            | none => trivial
            | some loaded =>
                have hreached : Reached bench loaded [] [.journal "RUNNER_START" "OK"] :=
                  ⟨rfl, by simp [resultsOf], by simp⟩
                exact always_runSteps hload (loadManifest_dryRun hload) runnerSteps [] loaded []
                  _ _ rfl hreached (.refl loaded)

/-- What holds of all that a step can show holds of all that a run shows. -/
theorem does_runSteps {A : Label σ → Prop}
    (hA : ∀ (next : Runner) step label, next.dryRun = runner.dryRun →
      Allowed bench next step label → A label)
    (hresult : ∀ name result, A (.result name result)) (steps : List Step) :
    ∀ (next : Runner) (results : List (String × String)), next.dryRun = runner.dryRun →
      Attempt.Does A (fun _ => True) (runSteps bench steps next results) := by
  induction steps with
  | nil =>
      intro next results hdry
      have hdone := (@does_journal _ bench next .flash "RUNNER_DONE" "OK").mono
          (fun label h => hA next _ label hdry h) fun _ h => h
      exact hdone.bind fun _ _ => Attempt.does_pure trivial
  | cons step rest ih =>
      intro next results hdry
      have hstep := (@does_runStep _ bench next step).mono
        (fun label h => hA next _ label hdry h) fun _ h => h
      refine hstep.bind fun answer hsetup => ?_
      obtain ⟨after, result⟩ := answer
      have hafter : after.dryRun = runner.dryRun := hsetup.1.trans hdry
      refine (Attempt.does_action (fun _ => hresult _ _) fun _ _ _ => trivial).bind
        (P := fun _ => True) fun _ _ => ?_
      split
      · exact (@does_abort _ bench _ _).mono (fun label h => hA after _ label hafter h)
          fun _ h => h
      · exact ih after _ hafter

/-- What holds of every allowed label, and of every result, holds of a whole
run. -/
theorem does_run {A : Label σ → Prop}
    (hA : ∀ (next : Runner) step label, next.dryRun = runner.dryRun →
      Allowed bench next step label → A label)
    (hresult : ∀ name result, A (.result name result)) :
    Attempt.Does A (fun _ => True) (run bench runner) := by
  have hown {α : Type} {P : α → Prop} {step : Step} {p : Attempt σ (Label σ) α}
      (h : Attempt.Does (Allowed bench runner step) P p) : Attempt.Does A P p :=
    h.mono (fun label h => hA runner step label rfl h) fun _ h => h
  unfold run
  split
  · exact hown does_runPreflight
  · refine (hown (@does_journal _ bench runner .flash _ _)).bind fun _ _ => ?_
    refine (hown (@does_loadManifest _ bench runner .flash)).bind fun found hfound => ?_
    split
    · exact Attempt.does_pure trivial
    · exact does_runSteps hA hresult _ _ _ (hfound _ rfl)

/-- The same for a resume, which has no results. -/
theorem does_resume {A : Label σ → Prop}
    (hA : ∀ (next : Runner) step label, next.dryRun = runner.dryRun →
      Allowed bench next step label → A label) :
    Attempt.Does A (fun _ => True) (resume bench runner) := by
  refine (does_perform fun _ => hA runner .flash .loadJournal rfl trivial).bind
    (P := fun _ => True) fun events _ => ?_
  split
  · exact Attempt.does_pure trivial
  · split
    · exact Attempt.does_pure trivial
    · exact ((@does_closeIfArmed _ bench runner).mono
        (fun label h => hA runner _ label rfl h)
        fun _ h => h).bind fun _ _ => Attempt.does_pure trivial

/-- In a dry run nothing that is allowed does harm. -/
theorem Allowed.harmless {step : Step} {label : Label σ} (h : Allowed bench runner step label)
    (hdry : runner.dryRun = true) : Harmless label := by
  cases label with
  | writeFlash command => exact absurd h.1 (by simp [hdry])
  | install => exact absurd h (by simp [Allowed, hdry])
  | shield args asRoot before after answer => exact h.1.resolve_left (by simp [hdry])
  | _ => trivial

/-- **The flash gate.** Whatever the programs answer, a run starts
`write_flash` only behind the gate, and a dry run starts neither that nor a
command of the shield that changes anything, in a run or in a resume. -/
theorem flash_gate_airtight (bench : Bench σ) (runner : Runner) (s : σ) :
    Machine.Always (FlashOnlyGated bench runner) [] ((run bench runner).labels s) ∧
      (runner.dryRun = true → (∀ label ∈ (run bench runner).labels s, Harmless label) ∧
        ∀ label ∈ (resume bench runner).labels s, Harmless label) := by
  refine ⟨always_run s, fun hdry => ?_⟩
  have hA (next : Runner) (step : Step) (label : Label σ) (hnext : next.dryRun = runner.dryRun)
      (h : Allowed bench next step label) : Harmless label := h.harmless (hnext.trans hdry)
  exact ⟨(does_run hA (fun _ _ => trivial) s).1, (does_resume hA s).1⟩

end Bootmux.SafeFlash
