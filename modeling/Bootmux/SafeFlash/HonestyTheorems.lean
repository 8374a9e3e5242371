/-
Bootmux.SafeFlash.HonestyTheorems — what the runner's verdicts stand for.

A step that does not fail is green unless it has met a `Warning`: no esptool
for the read-back, an inspector with another verdict than green, a close that
did not succeed. A warning does not stop a run, so a run is green whatever
warnings it has met (`green_iff`). A resume says that it has cleaned up
whether or not it has, or could have, taken the shield down (`cleaned_iff`).

The steps are gone through once: for each a lemma says whether it can end
green, and under which of the warnings, by what it has been seen doing
(`Ends`). A run ends with the first step that fails or with the last one
(`Ended`), and its verdict is that of its results. The conditions are on the
bench, on what its programs answer in that run, and not on the result.

For a resume there are three ways to say that it has cleaned up (`Cleaned`):
the shield does not say that it is armed, the resume is a dry run, or the
shield was closed and purged. The verdict is honest if the shield was down
in the first two and the purge could take it down in the last (`CanPurge`).
-/
import Bootmux.SafeFlash.ForceTheorems

namespace Bootmux.SafeFlash

open Bootmux.Lib
open Bootmux.Lib.PyJson (valueOf asDict asText elementsOf isText)
open Bootmux.NetworkGuardian (contains)
open Bootmux.AttachShield (World homeWorld)

variable {σ : Type} {bench : Bench σ} {runner loaded : Runner}

/-! ## Warnings -/

/-- `GREEN` or `GREEN_DRY_RUN`. -/
def Greenish (result : String) : Prop := result = "GREEN" ∨ result = "GREEN_DRY_RUN"

/-- An answer that makes a step neither fail nor green. -/
def Warning (bench : Bench σ) : Label σ → Prop
  | .findEsptool (some none) => True
  | .inspect (some (_, out)) => ∃ report members text, bench.loads out = some report ∧
      asDict report = some members ∧
      asText (valueOf members "overall" (.str "RED")) = some text ∧
      ¬Greenish text ∧ isRed text = false
  | .shield args _ _ _ (some (code, _)) => args = ["--close-session"] ∧ code ≠ 0
  | _ => False

/-- No warning has been met. -/
def Calm (bench : Bench σ) (seen : List (Label σ)) : Prop :=
  ∀ label ∈ seen, ¬Warning bench label

theorem calm_nil : Calm bench ([] : List (Label σ)) := by simp [Calm]

/-- A run is calm if its parts are. -/
theorem calm_append {seen more : List (Label σ)} :
    Calm bench (seen ++ more) ↔ Calm bench seen ∧ Calm bench more := by
  simp only [Calm, List.forall_mem_append]

@[simp] theorem calm_singleton {label : Label σ} :
    Calm bench [label] ↔ ¬Warning bench label := by simp [Calm]

/-- No result is green and red. -/
theorem Greenish.not_red {result : String} (h : Greenish result) : isRed result = false := by
  rcases h with rfl | rfl <;> decide

/-- What an artifact was flashed to has been read back, with the hash of the
manifest. -/
def ReadBack (bench : Bench σ) (seen : List (Label σ)) (art : PyJson) : Prop :=
  ∃ port offset size data sha, .readFlash port offset size (some (0, some data)) ∈ seen ∧
    artifactSha art = some sha ∧ isText sha (bench.sha256 data) = true

/-- What has been read back stays read back. -/
theorem ReadBack.mono {seen more : List (Label σ)} {art : PyJson} (h : ReadBack bench seen art)
    (hsub : seen ⊆ more) : ReadBack bench more art := by
  obtain ⟨port, offset, size, data, sha, hread, hsha⟩ := h
  exact ⟨port, offset, size, data, sha, hsub hread, hsha⟩

/-- What a step that is green in a real run has shown. -/
def Shown (bench : Bench σ) (loaded : Runner) (seen : List (Label σ)) : Step → Prop
  | .flashVerify => ∀ manifest artifacts, loaded.manifest = some manifest →
      artifactsOf manifest = some artifacts → ∀ art ∈ artifacts, ReadBack bench seen art
  | .shieldClose => ∃ before after out,
      .shield ["--close-session"] true before after (some (0, out)) ∈ seen
  | _ => True

/-- What a result of a step stands for. -/
structure Verdict (bench : Bench σ) (loaded : Runner) (step : Step) (seen : List (Label σ))
    (result : String) : Prop where
  green : isRed result = false → (Greenish result ↔ Calm bench seen)
  shown : Greenish result → loaded.dryRun = false → Shown bench loaded seen step

/-- A program of a step, and what its results stand for. -/
abbrev StepEnds (bench : Bench σ) (runner : Runner) (step : Step)
    (p : Attempt σ (Label σ) (Runner × String)) : Prop :=
  Attempt.Ends (fun seen r => Verdict bench runner step seen r.2) p

/-- A red result needs no evidence. -/
theorem Verdict.red {step : Step} {seen : List (Label σ)} {result : String}
    (h : isRed result = true) : Verdict bench loaded step seen result where
  green hred := absurd h (by simp [hred])
  shown hgreen := absurd h (by simp [hgreen.not_red])

/-- A green result has to be calm and shown. -/
theorem Verdict.of_green {step : Step} {seen : List (Label σ)} {result : String}
    (hgreen : Greenish result) (hcalm : Calm bench seen)
    (hshown : loaded.dryRun = false → Shown bench loaded seen step) :
    Verdict bench loaded step seen result where
  green _ := iff_of_true hgreen hcalm
  shown _ := hshown

/-! ## Steps without warnings -/

/-- A program that meets no warning, and is green or fails. -/
abbrev Plain (bench : Bench σ) (p : Attempt σ (Label σ) (Runner × String)) : Prop :=
  Attempt.Does (fun label => ¬Warning bench label) (fun r => Greenish r.2 ∨ isRed r.2 = true) p

/-- A step that shows nothing of its own has no evidence to give. -/
theorem Plain.ends {step : Step} {p : Attempt σ (Label σ) (Runner × String)} (h : Plain bench p)
    (hshown : ∀ seen, Shown bench runner seen step) : StepEnds bench runner step p := by
  refine (Attempt.Does.ends h).mono fun seen r ⟨hcalm, hresult⟩ => ?_
  rcases hresult with hgreen | hred
  · exact .of_green hgreen hcalm fun _ => hshown seen
  · exact .red hred

theorem calm_journal (event status : String) :
    Attempt.Does (fun label => ¬Warning bench label) (fun _ => True)
      (journal bench event status) :=
  does_perform fun _ => id

theorem calm_option {α : Type} (a : Option α) :
    Attempt.Does (fun label => ¬Warning bench label) (fun _ => True)
      (.ofOption a : Attempt σ (Label σ) α) :=
  Attempt.does_ofOption fun _ _ => trivial

/-- Only `--close-session` can be refused. -/
theorem calm_runShield {args : List String} (asRoot : Bool) (h : args ≠ ["--close-session"]) :
    Attempt.Does (fun label => ¬Warning bench label) (fun _ => True)
      (runShield bench args asRoot) := by
  refine does_perform fun s => ?_
  rcases bench.shield args asRoot s with ⟨after, _ | ⟨code, out⟩⟩
  · exact id
  · exact fun hwarning => h hwarning.1

theorem plain_red {after : Runner} {result : String} (h : isRed result = true) :
    Plain bench (pure (after, result)) := Attempt.does_pure (.inr h)

theorem plain_journal_pure (event status : String) {after : Runner} {result : String}
    (h : Greenish result ∨ isRed result = true) :
    Plain bench (journal bench event status >>= fun _ => pure (after, result)) :=
  (calm_journal event status).bind fun _ _ => Attempt.does_pure h

/-- A comparison is green or red. -/
theorem green_or_red_resultOf (ok : Bool) :
    Greenish (resultOf ok) ∨ isRed (resultOf ok) = true := by
  cases ok
  · exact .inr (by decide)
  · exact .inl (.inl rfl)

/-- A dry run is green and does nothing. -/
theorem plain_unlessDry {event : String} {p : Attempt σ (Label σ) (Runner × String)}
    (h : Plain bench p) : Plain bench (unlessDry bench runner event p) := by
  unfold unlessDry
  split
  · exact plain_journal_pure event "OK" (.inl (.inr rfl))
  · exact h

theorem plain_takeFingerprint {event out : String} {set : PyJson → Runner} :
    Plain bench (takeFingerprint bench runner event out set) := by
  unfold takeFingerprint
  split
  · exact plain_journal_pure event "RED" (.inr (by decide))
  · exact (calm_option _).bind fun _ _ => plain_journal_pure event "OK" (.inl (.inl rfl))

theorem plain_stepPreFingerprint : Plain bench (stepPreFingerprint bench runner) := by
  have hshield : Attempt.Does (fun label => ¬Warning bench label) (fun _ => True)
      (runShield bench ["--fingerprint"] false) := calm_runShield false (by decide)
  refine hshield.bind fun first _ => ?_
  dsimp only
  split
  · exact hshield.bind fun second _ => plain_takeFingerprint
  · exact (Attempt.does_pure trivial).bind (P := fun _ => True) fun second _ =>
      plain_takeFingerprint

theorem plain_stepShieldInstall : Plain bench (stepShieldInstall bench runner) :=
  plain_unlessDry ((does_perform fun _ => id).bind fun _ _ =>
    plain_journal_pure _ _ (green_or_red_resultOf _))

theorem plain_stepShieldArm : Plain bench (stepShieldArm bench runner) :=
  plain_unlessDry ((calm_runShield true (by decide)).bind fun _ _ =>
    plain_journal_pure _ _ (green_or_red_resultOf _))

theorem plain_stepSerialBaseline : Plain bench (stepSerialBaseline bench runner) :=
  (does_perform fun _ => id).bind fun _ _ => plain_journal_pure _ _ (.inl (.inl rfl))

theorem plain_stepSerialDetect : Plain bench (stepSerialDetect bench runner) := by
  refine (does_perform fun _ => id).bind fun ports _ => ?_
  split
  · exact plain_journal_pure _ _ (.inr (isRed_append (by decide) _))
  · exact plain_journal_pure _ _ (.inl (.inl rfl))

theorem plain_stepRomModeCheck : Plain bench (stepRomModeCheck bench runner) := by
  unfold stepRomModeCheck
  split
  · exact plain_red (by decide)
  · refine plain_unlessDry ((does_perform fun _ => id).bind fun answer _ => ?_)
    refine plain_journal_pure _ _ ?_
    split
    · exact .inl (.inl rfl)
    · exact .inr (isRed_append (by decide) _)

theorem plain_stepShieldPurge : Plain bench (stepShieldPurge bench runner) :=
  plain_unlessDry ((calm_runShield true (by decide)).bind fun _ _ =>
    plain_journal_pure _ _ (green_or_red_resultOf _))

theorem plain_stepPostFingerprint : Plain bench (stepPostFingerprint bench runner) :=
  (calm_runShield false (by decide)).bind fun _ _ => plain_takeFingerprint

theorem plain_stepFingerprintCompare : Plain bench (stepFingerprintCompare bench runner) := by
  unfold stepFingerprintCompare
  split
  · refine (calm_option _).bind fun _ _ => (calm_option _).bind fun _ _ => ?_
    refine plain_journal_pure _ _ ?_
    split
    · exact .inl (.inl rfl)
    · exact .inr (by decide)
  · exact plain_red (by decide)

/-! ## Steps that can meet one -/

/-- Looking at hashes gives no warning: a mismatch ends the step. -/
theorem calm_verifyHashes {buildDir : Path} {missing : String} (artifacts : List PyJson) :
    Attempt.Does (fun label => ¬Warning bench label) (fun _ => True)
      (verifyHashes bench buildDir missing (journal bench "PRE_FLASH_GATE" "RED") artifacts) := by
  induction artifacts with
  | nil => exact Attempt.does_pure trivial
  | cons art rest ih =>
      refine (calm_option _).bind fun path _ => ?_
      split
      · refine (calm_option _).bind fun data _ => ?_
        refine (Attempt.does_action (fun _ => id) fun _ _ _ => trivial).bind fun _ _ => ?_
        refine (calm_option _).bind fun sha _ => ?_
        split
        · exact ih
        · exact (calm_option _).bind fun name _ => (calm_journal _ _).bind fun _ _ =>
            Attempt.does_pure trivial
      · exact (calm_journal _ _).bind fun _ _ => (calm_option _).bind fun name _ =>
          Attempt.does_pure trivial

/-- An inspector whose verdict is a text. -/
theorem warning_inspect_iff {code : Int} {out text : String} {report : PyJson}
    {members : Members} (hreport : bench.loads out = some report)
    (hmembers : asDict report = some members)
    (htext : asText (valueOf members "overall" (.str "RED")) = some text) :
    Warning bench (.inspect (some (code, out)) : Label σ) ↔
      ¬Greenish text ∧ isRed text = false := by
  constructor
  · rintro ⟨report', members', text', hreport', hmembers', htext', h⟩
    obtain rfl : report = report' := Option.some.inj (hreport.symm.trans hreport')
    obtain rfl : members = members' := Option.some.inj (hmembers.symm.trans hmembers')
    obtain rfl : text = text' := Option.some.inj (htext.symm.trans htext')
    exact h
  · exact fun h => ⟨report, members, text, hreport, hmembers, htext, h⟩

/-- The gate is green only with every hash looked at. -/
theorem verdict_stepPreFlashGate :
    StepEnds bench runner .preFlashGate (stepPreFlashGate bench runner) := by
  unfold stepPreFlashGate
  split
  · next manifest buildDir hmanifest hbuild =>
      refine (Attempt.ends_action (P := fun seen r => seen = [.inspect (some r)])
        fun s r h => congrArg (fun a => [Label.inspect a]) h).bind ?_
      rintro _ ⟨code, out⟩ rfl
      dsimp only
      split
      · exact Attempt.ends_true.bind fun _ _ _ => Attempt.ends_pure
          (.red (by decide : isRed "RED:INSPECTOR_PARSE_FAILED" = true))
      · next report hreport =>
          refine (Attempt.ends_ofOption (P := fun seen members => seen = [] ∧
            asDict report = some members) fun members h => ⟨rfl, h⟩).bind ?_
          rintro _ members ⟨rfl, hmembers⟩
          split
          · next hgreen =>
              have htext : asText (valueOf members "overall" (.str "RED")) = some "GREEN" := by
                simpa [isText] using hgreen
              have hinspect : ¬Warning bench (.inspect (some (code, out)) : Label σ) := fun h =>
                ((warning_inspect_iff hreport hmembers htext).mp h).1 (.inl rfl)
              refine (@calm_option _ bench _ _).ends.bind ?_
              rintro seen₁ artifacts ⟨hcalm₁, -⟩
              refine ((calm_verifyHashes artifacts).ends.and
                (ends_verifyHashes (by decide) artifacts)).bind ?_
              rintro seen₂ failed ⟨⟨hcalm₂, -⟩, hred, -⟩
              split
              · next result => exact Attempt.ends_pure (.red (hred result rfl))
              · refine (@calm_option _ bench _ _).ends.bind ?_
                rintro seen₃ _ ⟨hcalm₃, -⟩
                refine (calm_journal _ _).ends.bind ?_
                rintro seen₄ _ ⟨hcalm₄, -⟩
                refine Attempt.ends_pure (.of_green (.inl rfl) ?_ fun _ => trivial)
                simp only [calm_append]
                exact ⟨by simpa using hinspect, calm_nil, hcalm₁, hcalm₂, hcalm₃, hcalm₄, calm_nil⟩
          · refine Attempt.ends_true.bind fun _ _ _ => Attempt.ends_true.bind fun _ _ _ => ?_
            exact Attempt.ends_pure (.red (isRed_append (by decide) _))
  · exact Attempt.ends_pure (.red (by decide : isRed "RED:PRECONDITIONS" = true))

/-- A step that a dry run only writes down. -/
theorem verdict_unlessDry {step : Step} {event : String}
    {p : Attempt σ (Label σ) (Runner × String)}
    (h : runner.dryRun = false → StepEnds bench runner step p) :
    StepEnds bench runner step (unlessDry bench runner event p) := by
  unfold unlessDry
  split
  · next hdry =>
      refine (Attempt.Does.ends (plain_journal_pure event "OK" (.inl (.inr rfl)))).mono
        fun seen r h => ?_
      rcases h.2 with hgreen | hred
      · exact .of_green hgreen h.1 fun hreal => absurd hdry (by simp [hreal])
      · exact .red hred
  · next hdry => exact h (by simpa using hdry)

/-- The answer of `find_esptool`. -/
theorem ends_findEsptool :
    Attempt.Ends (fun seen found => seen = [.findEsptool (some found)]) (findEsptool bench) :=
  Attempt.ends_action fun _ _ h => congrArg (fun a => [Label.findEsptool a]) h

/-- The flash is green only if `esptool` was run for every image. -/
theorem verdict_stepFlash : StepEnds bench runner .flash (stepFlash bench runner) := by
  unfold stepFlash
  split
  · exact Attempt.ends_pure (.red (by decide : isRed "RED:PRECONDITIONS" = true))
  · refine verdict_unlessDry fun _ => ends_findEsptool.bind ?_
    rintro _ found rfl
    split
    · exact Attempt.ends_true.bind fun _ _ _ => Attempt.ends_pure
        (.red (by decide : isRed "RED:ESPTOOL_MISSING" = true))
    · next esptool =>
        refine (@calm_option _ bench _ _).ends.bind ?_
        rintro seen₁ command ⟨hcalm₁, -⟩
        refine (calm_journal _ _).ends.bind ?_
        rintro seen₂ _ ⟨hcalm₂, -⟩
        refine (@calm_option _ bench _ _).ends.bind ?_
        rintro seen₃ _ ⟨hcalm₃, -⟩
        refine (Attempt.Does.ends (A := fun label => ¬Warning bench label) (P := fun _ => True)
          (does_perform fun _ => id)).bind ?_
        rintro seen₄ exitCode ⟨hcalm₄, -⟩
        refine (calm_journal _ _).ends.bind ?_
        rintro seen₅ _ ⟨hcalm₅, -⟩
        refine Attempt.ends_pure ?_
        split
        · refine .of_green (.inl rfl) ?_ fun _ => trivial
          simp only [calm_append]
          exact ⟨calm_singleton.mpr id, hcalm₁, hcalm₂, hcalm₃, hcalm₄, hcalm₅, calm_nil⟩
        · exact .red (by decide : isRed "RED:FLASH_FAILED" = true)

/-- Reading back gives no warning of its own. -/
theorem calm_readBack (port : String) (artifacts : List PyJson) :
    Attempt.Does (fun label => ¬Warning bench label) (fun _ => True)
      (readBack bench port artifacts) := by
  refine Attempt.does_mapM fun art => ?_
  refine (calm_option _).bind fun members _ => ?_
  refine (calm_option _).bind fun offset _ => (calm_option _).bind fun size _ => ?_
  refine (does_perform fun _ => id).bind fun answer _ => ?_
  refine (calm_option _).bind fun name _ => ?_
  split
  · exact Attempt.does_pure trivial
  · exact (calm_option _).bind fun sha _ => Attempt.does_pure trivial

/-- What matches has been read back. -/
theorem ends_readBack (port : String) (artifacts : List PyJson) :
    Attempt.Ends (fun seen same => same.all id = true →
        ∀ art ∈ artifacts, ReadBack bench seen art) (readBack bench port artifacts) := by
  induction artifacts with
  | nil => exact Attempt.ends_pure (by simp)
  | cons art rest ih =>
      rw [readBack, List.mapM_cons]
      refine Attempt.Ends.bind (P := fun seen same => same = true → ReadBack bench seen art) ?_ ?_
      · refine Attempt.ends_true.bind fun seen₁ members _ => ?_
        refine Attempt.ends_true.bind fun seen₂ offset _ => ?_
        refine Attempt.ends_true.bind fun seen₃ size _ => ?_
        refine (Attempt.ends_action (P := fun seen r => seen =
          [.readFlash port offset size (some r)]) fun s r h =>
            congrArg (fun a => [Label.readFlash port offset size a]) h).bind ?_
        rintro _ ⟨code, file⟩ rfl
        refine Attempt.ends_true.bind fun seen₄ name _ => ?_
        split
        · exact Attempt.ends_pure nofun
        · next data hdata =>
            obtain ⟨rfl, rfl⟩ : code = 0 ∧ file = some data := by
              split at hdata
              · next hcode => exact ⟨hcode, hdata⟩
              · cases hdata
            refine (Attempt.ends_ofOption (P := fun seen sha => seen = [] ∧
              artifactSha art = some sha) fun sha h => ⟨rfl, h⟩).bind ?_
            rintro _ sha ⟨rfl, hsha⟩
            exact Attempt.ends_pure fun hmatch =>
              ⟨port, offset, size, data, sha, by simp, hsha, hmatch⟩
      · intro seen same hart
        refine ih.bind fun seen₂ sames hrest => Attempt.ends_pure fun hall b hb => ?_
        obtain ⟨hsame, hsames⟩ : same = true ∧ sames.all id = true := by simpa using hall
        rcases List.mem_cons.mp hb with rfl | hb
        · exact (hart hsame).mono (by simp)
        · exact (hrest hsames b hb).mono (by simp)

/-- The verification is green only if every image was read back as it is. -/
theorem verdict_stepFlashVerify :
    StepEnds bench runner .flashVerify (stepFlashVerify bench runner) := by
  refine verdict_unlessDry fun _ => ?_
  split
  · exact Attempt.ends_pure (.red (by decide : isRed "RED:PRECONDITIONS" = true))
  · next port manifest buildDir hready =>
      obtain ⟨hmanifest, -⟩ := ready_eq_some hready
      refine ends_findEsptool.bind ?_
      rintro _ found rfl
      split
      · refine Attempt.ends_true.bind fun _ _ _ => Attempt.ends_pure ⟨fun _ => ?_, ?_⟩
        · exact iff_of_false (by simp [Greenish])
            fun hcalm => hcalm (.findEsptool (some none)) (by simp) trivial
        · rintro (h | h) <;> simp at h
      · refine (Attempt.ends_ofOption (P := fun seen artifacts => seen = [] ∧
          artifactsOf manifest = some artifacts) fun artifacts h => ⟨rfl, h⟩).bind ?_
        rintro _ artifacts ⟨rfl, hartifacts⟩
        refine ((calm_readBack port artifacts).ends.and (ends_readBack port artifacts)).bind ?_
        rintro seen₂ same ⟨⟨hcalm₂, -⟩, hsame⟩
        refine (calm_journal _ _).ends.bind ?_
        rintro seen₃ _ ⟨hcalm₃, -⟩
        refine Attempt.ends_pure ?_
        cases hall : same.all id with
        | false => exact .red (by decide : isRed (resultOf false) = true)
        | true =>
            refine .of_green (.inl rfl) ?_ fun _ => ?_
            · simp only [calm_append]
              exact ⟨calm_singleton.mpr id, calm_nil, hcalm₂, hcalm₃, calm_nil⟩
            · intro m arts hm harts art hart
              obtain rfl : manifest = m := Option.some.inj (hmanifest.symm.trans hm)
              obtain rfl : artifacts = arts := Option.some.inj (hartifacts.symm.trans harts)
              exact (hsame hall art hart).mono (by simp)

/-- The identity is green only if the oracle said so. -/
theorem verdict_stepSafeIdentityVerify :
    StepEnds bench runner .safeIdentityVerify (stepSafeIdentityVerify bench runner) := by
  refine (Attempt.ends_action (P := fun seen r => seen = [.inspect (some r)])
    fun s r h => congrArg (fun a => [Label.inspect a]) h).bind ?_
  rintro _ ⟨code, out⟩ rfl
  dsimp only
  split
  · exact Attempt.ends_true.bind fun _ _ _ => Attempt.ends_pure
      (.red (by decide : isRed "RED" = true))
  · next report hreport =>
      have hloads : bench.loads out = some report := by
        split at hreport
        · exact hreport
        · cases hreport
      refine (Attempt.ends_ofOption (P := fun seen members => seen = [] ∧
        asDict report = some members) fun members h => ⟨rfl, h⟩).bind ?_
      rintro _ members ⟨rfl, hmembers⟩
      refine (calm_journal _ _).ends.bind ?_
      rintro seen₂ _ ⟨hcalm₂, -⟩
      refine (Attempt.ends_ofOption (P := fun seen text => seen = [] ∧
        asText (valueOf members "overall" (.str "RED")) = some text) fun text h => ⟨rfl, h⟩).bind ?_
      rintro _ text ⟨rfl, htext⟩
      refine Attempt.ends_pure ⟨fun hred => ?_, fun _ _ => trivial⟩
      simp only [calm_append, calm_singleton, warning_inspect_iff hloads hmembers htext]
      have hred : isRed text = false := hred
      simp [hred, calm_nil, show Calm bench seen₂ from hcalm₂]

/-- The close is green only if the shield was closed. -/
theorem verdict_stepShieldClose :
    StepEnds bench runner .shieldClose (stepShieldClose bench runner) := by
  refine verdict_unlessDry fun _ => ?_
  refine (Attempt.ends_action (P := fun seen r => ∃ before after, seen =
    [.shield ["--close-session"] true before after (some r)])
    fun s r h => ⟨s, _, congrArg (fun a => [Label.shield _ _ _ _ a]) h⟩).bind ?_
  rintro _ ⟨code, out⟩ ⟨before, after, rfl⟩
  refine (calm_journal _ _).ends.bind ?_
  rintro seen₂ _ ⟨hcalm₂, -⟩
  refine Attempt.ends_pure ?_
  by_cases hcode : code = 0
  · rw [if_pos hcode]
    refine .of_green (.inl rfl) ?_ fun _ => ⟨before, after, out, by simp [hcode]⟩
    simp only [calm_append, calm_singleton]
    exact ⟨fun hwarning => hwarning.2 hcode, hcalm₂, calm_nil⟩
  · rw [if_neg hcode]
    refine ⟨fun _ => iff_of_false (by simp [Greenish]) fun hcalm => ?_, ?_⟩
    · exact hcalm (.shield ["--close-session"] true before after (some (code, out))) (by simp)
        ⟨rfl, hcode⟩
    · rintro (h | h) <;> simp at h

/-- Every step that ends says what its result stands for. -/
theorem verdict_runStep (step : Step) : StepEnds bench runner step (runStep bench step runner) := by
  cases step with
  | preFingerprint => exact plain_stepPreFingerprint.ends fun _ => trivial
  | shieldInstall => exact plain_stepShieldInstall.ends fun _ => trivial
  | shieldArm => exact plain_stepShieldArm.ends fun _ => trivial
  | serialBaseline => exact plain_stepSerialBaseline.ends fun _ => trivial
  | serialDetect => exact plain_stepSerialDetect.ends fun _ => trivial
  | romModeCheck => exact plain_stepRomModeCheck.ends fun _ => trivial
  | preFlashGate => exact verdict_stepPreFlashGate
  | flash => exact verdict_stepFlash
  | flashVerify => exact verdict_stepFlashVerify
  | safeIdentityVerify => exact verdict_stepSafeIdentityVerify
  | shieldClose => exact verdict_stepShieldClose
  | shieldPurge => exact plain_stepShieldPurge.ends fun _ => trivial
  | postFingerprint => exact plain_stepPostFingerprint.ends fun _ => trivial
  | fingerprintCompare => exact plain_stepFingerprintCompare.ends fun _ => trivial

/-! ## Runs -/

/-- A step has failed. -/
def RedResult (seen : List (Label σ)) : Prop := ∃ result ∈ resultsOf seen, isRed result.2 = true

/-- Every result is green. -/
def AllGreen (results : List (String × String)) : Prop := ∀ result ∈ results, Greenish result.2

/-- Evidence of an earlier time stays evidence. -/
theorem Shown.mono {seen more : List (Label σ)} {step : Step} (h : Shown bench loaded seen step)
    (hsub : seen ⊆ more) : Shown bench loaded more step := by
  cases step with
  | flashVerify =>
      exact fun manifest artifacts hm harts art hart =>
        (h manifest artifacts hm harts art hart).mono hsub
  | shieldClose =>
      obtain ⟨before, after, out, hclose⟩ := h
      exact ⟨before, after, out, hsub hclose⟩
  | _ => trivial

/-- Steps do not change what a step is about. -/
theorem SameSetup.shown {seen : List (Label σ)} {step : Step} (h : SameSetup loaded runner)
    (hshown : Shown bench runner seen step) : Shown bench loaded seen step := by
  cases step with
  | flashVerify => exact fun manifest artifacts hm => hshown manifest artifacts (h.2.1.trans hm)
  | _ => exact hshown

/-- How the rest of a run ends: with a step that fails, or green, where the
results are all green if and only if no warning has been met. -/
inductive Ended (bench : Bench σ) (loaded : Runner) (steps : List Step)
    (results : List (String × String)) (seen : List (Label σ)) (outcome : Outcome) : Prop where
  | red (status : outcome.status = "RED") (failed : RedResult seen)
  | green (status : outcome.status = "GREEN") (passed : ¬RedResult seen)
      (new : List (String × String)) (all : outcome.results = results ++ new)
      (calm : AllGreen new ↔ Calm bench seen)
      (shown : AllGreen new → loaded.dryRun = false → ∀ step ∈ steps, Shown bench loaded seen step)

/-- A run has a red result if one of its parts has. -/
theorem redResult_append {seen more : List (Label σ)} :
    RedResult (seen ++ more) ↔ RedResult seen ∨ RedResult more := by
  simp only [RedResult, resultsOf_append, List.mem_append, or_and_right, exists_or]

/-- A step that has not failed, before the rest. -/
theorem Ended.before {next : Runner} {step : Step} {rest : List Step} {result : String}
    {results : List (String × String)} {seen seen₁ : List (Label σ)} {outcome : Outcome}
    (h : Ended bench next rest (results ++ [(step.name, result)]) seen outcome)
    (hgreen : isRed result = false) (hverdict : Verdict bench runner step seen₁ result)
    (hresults : resultsOf seen₁ = []) (hsetup : SameSetup runner next) :
    Ended bench runner (step :: rest) results (seen₁ ++ ([.result step.name result] ++ seen))
      outcome := by
  cases h with
  | red status failed => exact .red status (by simp only [redResult_append, failed, or_true])
  | green status passed new all calm shown =>
      have hall : AllGreen ((step.name, result) :: new) ↔ Greenish result ∧ AllGreen new :=
        List.forall_mem_cons
      refine .green status ?_ ((step.name, result) :: new) (by simpa using all) ?_ ?_
      · rw [redResult_append, redResult_append]
        rintro (⟨r, hr, -⟩ | ⟨r, hr, hred⟩ | hfailed)
        · rw [hresults] at hr
          cases hr
        · obtain rfl : r = (step.name, result) := by simpa [resultsOf] using hr
          exact absurd hred (by simp [hgreen])
        · exact passed hfailed
      · rw [hall, calm_append, calm_append, hverdict.green hgreen, calm]
        simp [Warning]
      · intro hnew hreal other hother
        obtain ⟨hresult, hnew⟩ := hall.mp hnew
        rcases List.mem_cons.mp hother with rfl | hother
        · exact (hverdict.shown hresult hreal).mono (by simp)
        · exact (hsetup.shown (shown hnew (hsetup.1.trans hreal) other hother)).mono (by simp)

/-- The induction over the steps that are left, from any results so far. -/
theorem ends_runSteps (steps : List Step) :
    ∀ (runner : Runner) (results : List (String × String)),
      Attempt.Ends (Ended bench runner steps results) (runSteps bench steps runner results) := by
  induction steps with
  | nil =>
      intro runner results
      refine (Attempt.ends_action (P := fun seen _ => seen = [.journal "RUNNER_DONE" "OK"])
        fun _ _ _ => rfl).bind ?_
      rintro _ _ rfl
      refine Attempt.ends_pure
        (.green rfl (by simp [RedResult, resultsOf]) [] (by simp [Outcome.of])
        (iff_of_true (by simp [AllGreen]) ?_) (by simp))
      exact calm_append.mpr ⟨calm_singleton.mpr id, calm_nil⟩
  | cons step rest ih =>
      intro runner results
      have hallowed := Attempt.Does.ends (@does_runStep _ bench runner step)
      refine ((@verdict_runStep _ bench runner step).and hallowed).bind ?_
      rintro seen₁ ⟨next, result⟩ ⟨hverdict, hlabels, hsetup⟩
      have hresults : resultsOf seen₁ = [] := resultsOf_allowed hlabels
      refine (Attempt.ends_action (P := fun seen _ => seen = [.result step.name result])
        fun _ _ _ => rfl).bind ?_
      rintro _ _ rfl
      dsimp only
      split
      · next hred =>
          refine Attempt.ends_true.bind fun seen₃ _ _ => Attempt.ends_true.bind fun seen₄ _ _ => ?_
          refine Attempt.ends_pure (.red rfl ⟨(step.name, result), ?_, hred⟩)
          simp [resultsOf]
      · next hgreen =>
          exact (ih next _).mono fun seen₃ outcome hended =>
            hended.before (by simpa using hgreen) hverdict hresults hsetup

/-! ## The verdict of a run -/

/-- A run that is reported green has only green results; a real one has read
back every artifact with the hash of the manifest, and closed the shield. -/
def GreenIsHonest (bench : Bench σ) (runner : Runner) (seen : List (Label σ))
    (outcome : Outcome) : Prop :=
  outcome.status = "GREEN" → AllGreen outcome.results ∧
    (runner.dryRun = false → runner.preflightOnly = false →
      ∀ loaded, loadManifest bench runner = some (some loaded) →
        Shown bench loaded seen .flashVerify ∧ Shown bench loaded seen .shieldClose)

/-- A step has failed, or no warning has been met. A preflight meets none that
it does not report. -/
def NoWarningPassed (bench : Bench σ) (runner : Runner) (seen : List (Label σ)) : Prop :=
  runner.preflightOnly = true ∨ RedResult seen ∨ ∀ label ∈ seen, ¬Warning bench label

/-- The gate warns of nothing. -/
theorem green_or_red_stepPreFlashGate :
    Attempt.Ends (fun _ r => Greenish r.2 ∨ isRed r.2 = true) (stepPreFlashGate bench runner) := by
  unfold stepPreFlashGate
  split
  · refine Attempt.ends_true.bind fun seen answer _ => ?_
    obtain ⟨code, out⟩ := answer
    dsimp only
    split
    · exact Attempt.ends_true.bind fun _ _ _ => Attempt.ends_pure
        (.inr (by decide : isRed "RED:INSPECTOR_PARSE_FAILED" = true))
    · refine Attempt.ends_true.bind fun _ report _ => ?_
      split
      · refine Attempt.ends_true.bind fun _ artifacts _ => ?_
        refine (ends_verifyHashes (by decide) artifacts).bind fun _ failed hfailed => ?_
        split
        · next result => exact Attempt.ends_pure (.inr (hfailed.1 result rfl))
        · exact Attempt.ends_true.bind fun _ _ _ => Attempt.ends_true.bind fun _ _ _ =>
            Attempt.ends_pure (.inl (.inl rfl))
      · exact Attempt.ends_true.bind fun _ _ _ => Attempt.ends_true.bind fun _ _ _ =>
          Attempt.ends_pure (.inr (isRed_append (by decide) _))
  · exact Attempt.ends_pure (.inr (by decide : isRed "RED:PRECONDITIONS" = true))

theorem not_red_of_green_start {text : String}
    (h : "GREEN".toList.isPrefixOf text.toList = true) : isRed text = false := by
  rw [List.isPrefixOf_iff_prefix] at h
  obtain ⟨rest, hrest⟩ := h
  rw [isRed, ← hrest]
  rfl

/-- A preflight that is reported green has only green results. -/
theorem ends_runPreflight :
    Attempt.Ends (fun _ outcome => outcome.status = "GREEN" → AllGreen outcome.results)
      (runPreflight bench runner) := by
  refine Attempt.ends_true.bind fun _ _ _ => Attempt.ends_true.bind fun _ found _ => ?_
  split
  · exact Attempt.ends_pure fun h => absurd h (by decide)
  · next loaded =>
      refine Attempt.ends_true.bind fun _ esptool _ => ?_
      split
      · exact Attempt.ends_pure fun h => absurd h (by decide)
      · split
        · refine Attempt.ends_true.bind fun _ artifacts _ => ?_
          refine Attempt.ends_true.bind fun _ failed _ => ?_
          refine green_or_red_stepPreFlashGate.bind fun _ gate hgate => ?_
          obtain ⟨next, gate⟩ := gate
          refine Attempt.ends_pure fun hstatus => ?_
          have hok : failed = none ∧ "GREEN".toList.isPrefixOf gate.toList := by
            by_contra hnot
            have hred : (if failed = none ∧ "GREEN".toList.isPrefixOf gate.toList then "GREEN"
              else "RED") = "GREEN" := hstatus
            rw [if_neg hnot] at hred
            exact absurd hred (by decide)
          obtain ⟨rfl, hstart⟩ := hok
          have hgreen : Greenish gate :=
            hgate.resolve_right (by simp [not_red_of_green_start hstart])
          simp [AllGreen, Outcome.of, Greenish] at hgreen ⊢
          exact hgreen
        · exact Attempt.ends_pure fun h => absurd h (by decide)

/-- **A run is green exactly as its labels say**, whatever the bench answers.
-/
theorem ends_run :
    Attempt.Ends (fun seen outcome => GreenIsHonest bench runner seen outcome ↔
      NoWarningPassed bench runner seen) (run bench runner) := by
  unfold run
  split
  · next hpreflight =>
      refine ends_runPreflight.mono fun seen outcome hgreen => iff_of_true ?_ (.inl hpreflight)
      exact fun hstatus => ⟨hgreen hstatus, fun _ hfull => absurd hpreflight (by simp [hfull])⟩
  · next hfull =>
      refine (Attempt.ends_action (P := fun seen _ => seen = [.journal "RUNNER_START" "OK"])
        fun _ _ _ => rfl).bind ?_
      rintro _ _ rfl
      refine (Attempt.ends_ofOption (P := fun seen found => seen = [] ∧
        loadManifest bench runner = some found) fun found h => ⟨rfl, h⟩).bind ?_
      rintro _ found ⟨rfl, hload⟩
      split
      · refine Attempt.ends_pure (iff_of_true (fun h => absurd h (by decide)) (.inr (.inr ?_)))
        exact fun label hlabel => by simp_all [Warning]
      · next loaded =>
          refine (ends_runSteps runnerSteps loaded []).mono fun seen outcome hended => ?_
          have hcalm : Calm bench ([.journal "RUNNER_START" "OK"] ++ ([] ++ seen)) ↔
              Calm bench seen := by
            rw [calm_append, calm_append, calm_singleton]
            simp [calm_nil, Warning]
          have hred : RedResult ([.journal "RUNNER_START" "OK"] ++ ([] ++ seen)) ↔
              RedResult seen := by
            simp [RedResult, resultsOf]
          cases hended with
          | red status failed =>
              refine iff_of_true (fun h => absurd (status.symm.trans h) (by decide)) ?_
              exact .inr (.inl (hred.mpr failed))
          | green status passed new all calm shown =>
              constructor
              · intro honest
                have hnew : AllGreen new := by simpa [all] using (honest status).1
                exact .inr (.inr (hcalm.mpr (calm.mp hnew)))
              · rintro (h | h | h) _
                · exact absurd h hfull
                · exact absurd (hred.mp h) passed
                · have hnew : AllGreen new := calm.mpr (hcalm.mp h)
                  refine ⟨by simpa [all] using hnew, fun hreal _ other hother => ?_⟩
                  obtain rfl : loaded = other := by simpa [hload] using hother
                  have hall := shown hnew ((loadManifest_dryRun hload).trans hreal)
                  exact ⟨(hall .flashVerify (by decide)).mono (by simp),
                    (hall .shieldClose (by decide)).mono (by simp)⟩

/-! ## The verdict of a resume -/

section Resume

variable {κ : Type} {site : Site κ} {desk : Bench (World κ)}

def Armed (w : World κ) : Prop := ∃ st, w.file = some st ∧ st.armed = true

/-- The commands of the shield. -/
def shieldCommands (seen : List (Label σ)) : List (Label σ) :=
  seen.filter fun
    | .shield .. => true
    | _ => false

/-- The shield is not armed after a command. -/
def LeavesDisarmed : Label (World κ) → Prop
  | .shield _ _ _ after _ => ¬Armed after
  | _ => True

/-- A resume that says that it has cleaned up has left the shield not armed,
after its last command of the shield. -/
def CleanedIsHonest (seen : List (Label (World κ))) (outcome : Outcome) : Prop :=
  outcome.reason = some "RESUMED_AND_CLEANED" →
    ∀ last, (shieldCommands seen).getLast? = some last → LeavesDisarmed last

/-- The purge of an armed session is let run, and no exception ends a purge and
leaves the session armed. -/
def CanPurge (site : Site κ) (asRoot : Bool) (w : World κ) : Prop :=
  (Armed w → site.denied ["--uninstall", "--purge"] asRoot w = none) ∧
    (site.denied ["--uninstall", "--purge"] asRoot w = none →
      ∀ left out, site.raises ["--uninstall", "--purge"] w = some (left, out) → ¬Armed left)

/-- A shield that is armed when it is asked for its status says so, in a real
resume, and what is to be purged can be purged. -/
def TakenCareOf (site : Site κ) (runner : Runner) : Label (World κ) → Prop
  | .shield args asRoot before _ answer =>
      (Armed before → args = ["--status"] → runner.dryRun = false ∧
        ∃ code out, answer = some (code, out) ∧
          contains "STATUS=ARMED".toList out.toList = true) ∧
      (args = ["--uninstall", "--purge"] → CanPurge site asRoot before)
  | _ => True

/-- What `closeIfArmed` gives the shield to do, in the world `w`. -/
inductive Cleaned (site : Site κ) (desk : Bench (World κ)) (runner : Runner)
    (seen : List (Label (World κ))) : Prop where
  /-- The shield does not say that it is armed. -/
  | passed (w : World κ) (code : Int) (out : String)
      (silent : contains "STATUS=ARMED".toList out.toList = false)
      (all : shieldCommands seen = [.shield ["--status"] true w w (some (code, out))])
  /-- It does, and this is a dry run. -/
  | written (w : World κ) (code : Int) (out : String) (dry : runner.dryRun = true)
      (all : shieldCommands seen = [.shield ["--status"] true w w (some (code, out))])
  /-- It does, and is closed and purged. -/
  | purged (w before after closing closed : World κ) (code : Int) (out : String)
      (answer answer' : Option (Int × String)) (real : runner.dryRun = false)
      (told : contains "STATUS=ARMED".toList out.toList = true)
      (all : shieldCommands seen = [.shield ["--status"] true w w (some (code, out)),
        .shield ["--close-session"] true closing closed answer',
        .shield ["--uninstall", "--purge"] true before after answer])
      (purge : (desk.withShield site).shield ["--uninstall", "--purge"] true before =
        (after, answer))

/-- The status changes nothing. -/
theorem status_keeps {w after : World κ} {answer : Option (Int × String)}
    (h : (desk.withShield site).shield ["--status"] true w = (after, answer)) : after = w := by
  simp only [Bench.withShield] at h
  split at h
  · exact (Prod.mk.inj h).1.symm
  · exact (Prod.mk.inj h).1.symm

/-- After a purge the shield is down exactly if the purge could run. -/
theorem armed_purge_iff {w after : World κ} {answer : Option (Int × String)}
    (h : (desk.withShield site).shield ["--uninstall", "--purge"] true w = (after, answer)) :
    ¬Armed after ↔ CanPurge site true w := by
  simp only [Bench.withShield] at h
  split at h
  · next hdenied =>
      obtain ⟨rfl, -⟩ := Prod.mk.inj h
      simp [CanPurge, hdenied]
  · next hdenied =>
      obtain ⟨rfl, -⟩ := Prod.mk.inj h
      simp only [CanPurge, shieldMain, unlessRaised, hdenied, implies_true, true_and, forall_const]
      cases hraises : site.raises ["--uninstall", "--purge"] w with
      | some left =>
          simp only [Option.some.injEq]
          constructor
          · rintro hdisarmed _ _ rfl
            exact hdisarmed
          · exact fun hcan => hcan left.1 left.2 rfl
      | none =>
          refine iff_of_true ?_ (by simp)
          rintro ⟨st, hst, -⟩
          cases (uninstallCall_file site w).symm.trans hst

theorem ends_runShield {bench : Bench σ} {args : List String} {asRoot : Bool} :
    Attempt.Ends (fun seen r => ∃ before after,
        seen = [.shield args asRoot before after (some r)] ∧
          bench.shield args asRoot before = (after, some r)) (runShield bench args asRoot) :=
  Attempt.ends_action fun s _ h =>
    ⟨s, _, congrArg (fun a => [Label.shield _ _ _ _ a]) h, Prod.ext rfl h⟩

@[simp] theorem shieldCommands_nil : shieldCommands ([] : List (Label σ)) = [] := rfl

@[simp] theorem shieldCommands_cons (args : List String) (asRoot : Bool) (before after : σ)
    (answer : Option (Int × String)) (seen : List (Label σ)) :
    shieldCommands (.shield args asRoot before after answer :: seen) =
      .shield args asRoot before after answer :: shieldCommands seen := rfl

@[simp] theorem shieldCommands_append (seen more : List (Label σ)) :
    shieldCommands (seen ++ more) = shieldCommands seen ++ shieldCommands more :=
  List.filter_append _ _

theorem ends_journal_pure {bench : Bench σ} (event status result : String) {after : Runner} :
    Attempt.Ends (fun seen _ => shieldCommands seen = [])
      (journal bench event status >>= fun _ => pure (after, result)) :=
  (Attempt.ends_action (P := fun seen _ => seen = [.journal event status]) fun _ _ _ => rfl).bind
    fun _ _ h => h ▸ Attempt.ends_pure rfl

/-- A step that gives the shield one command, unless it is a dry run. -/
theorem ends_shieldStep {bench : Bench σ} {event : String} {args : List String}
    {rest : Int × String → Attempt σ (Label σ) (Runner × String)}
    (hrest : ∀ r, Attempt.Ends (fun seen _ => shieldCommands seen = []) (rest r)) :
    Attempt.Ends (fun seen _ => (runner.dryRun = true ∧ shieldCommands seen = []) ∨
        (runner.dryRun = false ∧ ∃ before after r,
          shieldCommands seen = [.shield args true before after (some r)] ∧
            bench.shield args true before = (after, some r)))
      (unlessDry bench runner event (runShield bench args true >>= rest)) := by
  unfold unlessDry
  split
  · next hdry => exact (ends_journal_pure _ _ _).mono fun seen _ h => .inl ⟨hdry, h⟩
  · next hdry =>
      refine ends_runShield.bind ?_
      rintro _ r ⟨before, after, rfl, hshield⟩
      refine (hrest r).mono fun seen _ h => .inr
        ⟨by simpa using hdry, before, after, r, ?_, hshield⟩
      simp [h]

/-- The cleanup closes and purges, or finds nothing that is armed. -/
theorem ends_closeIfArmed :
    Attempt.Ends (fun seen _ => Cleaned site desk runner seen)
      (closeIfArmed (desk.withShield site) runner) := by
  refine Attempt.Ends.bind (P := fun seen armed => ∃ w code out,
    seen = [.shield ["--status"] true w w (some (code, out))] ∧
      contains "STATUS=ARMED".toList out.toList = armed) ?_ ?_
  · refine ends_runShield.bind ?_
    rintro _ ⟨code, out⟩ ⟨w, after, rfl, hshield⟩
    obtain rfl := status_keeps hshield
    exact Attempt.ends_pure ⟨after, code, out, by simp, rfl⟩
  · rintro _ armed ⟨w, code, out, rfl, harmed⟩
    split
    · next htold =>
        refine (ends_shieldStep
          fun r => ends_journal_pure _ _ _).bind fun seen₂ _ hclose => ?_
        refine (ends_shieldStep
          fun r => ends_journal_pure _ _ _).bind fun seen₃ _ hpurge => Attempt.ends_pure ?_
        rcases hclose with ⟨hdry, hclose⟩ | ⟨hreal, closing, closed, answer', hclose, -⟩
        · rcases hpurge with ⟨-, hpurge⟩ | ⟨hreal, -⟩
          · refine .written w code out hdry ?_
            simp [hclose, hpurge]
          · exact absurd hdry (by simp [hreal])
        · rcases hpurge with ⟨hdry, -⟩ | ⟨-, before, after, answer, hpurge, hshield⟩
          · exact absurd hdry (by simp [hreal])
          · refine .purged w before after closing closed code out answer answer' hreal
              (harmed.trans htold) ?_ hshield
            simp [hclose, hpurge]
    · next hsilent =>
        exact Attempt.ends_pure
          (.passed w code out (harmed.trans (by simpa using hsilent)) (by simp))

/-- What the commands of a resume come down to. -/
theorem cleaned_iff {seen : List (Label (World κ))} (h : Cleaned site desk runner seen) :
    (∀ last, (shieldCommands seen).getLast? = some last → LeavesDisarmed last) ↔
      ∀ label ∈ shieldCommands seen, TakenCareOf site runner label := by
  cases h with
  | passed w code out silent all =>
      rw [all]
      simp only [List.getLast?_singleton, Option.some.injEq, forall_eq', List.forall_mem_singleton,
        LeavesDisarmed, TakenCareOf]
      constructor
      · exact fun hdisarmed => ⟨fun harmed => absurd harmed hdisarmed, by simp⟩
      · intro hcare harmed
        obtain ⟨-, _, _, ⟨⟩, htold⟩ := hcare.1 harmed trivial
        exact nomatch htold.symm.trans silent
  | written w code out dry all =>
      rw [all]
      simp only [List.getLast?_singleton, Option.some.injEq, forall_eq', List.forall_mem_singleton,
        LeavesDisarmed, TakenCareOf]
      constructor
      · exact fun hdisarmed => ⟨fun harmed => absurd harmed hdisarmed, by simp⟩
      · exact fun hcare harmed => absurd (hcare.1 harmed trivial).1 (by simp [dry])
  | purged w before after closing closed code out answer answer' real told all purge =>
      rw [all]
      simp only [List.getLast?_cons_cons, List.getLast?_singleton, Option.some.injEq, forall_eq',
        List.forall_mem_cons, LeavesDisarmed, TakenCareOf, armed_purge_iff purge]
      constructor
      · intro hcan
        exact ⟨⟨fun _ _ => ⟨real, code, out, rfl, told⟩, by simp⟩, by simp,
          ⟨by simp, fun _ => hcan⟩, by simp⟩
      · rintro ⟨-, -, hcare, -⟩
        exact hcare.2 trivial

/-- Only the calls of the shield matter here. -/
theorem takenCareOf_shieldCommands {seen : List (Label (World κ))} :
    (∀ label ∈ shieldCommands seen, TakenCareOf site runner label) ↔
      ∀ label ∈ seen, TakenCareOf site runner label := by
  refine ⟨fun h label hlabel => ?_, fun h label hlabel => h label (List.mem_filter.mp hlabel).1⟩
  cases label with
  | shield args asRoot before after answer => exact h _ (List.mem_filter.mpr ⟨hlabel, rfl⟩)
  | _ => trivial

/-- A resume calls the shield cleaned exactly if it has taken care of it at
every call. -/
theorem ends_resume :
    Attempt.Ends (fun seen outcome => CleanedIsHonest seen outcome ↔
      ∀ label ∈ seen, TakenCareOf site runner label) (resume (desk.withShield site) runner) := by
  refine (Attempt.ends_action (P := fun seen _ => seen = [.loadJournal])
    fun _ _ _ => rfl).bind ?_
  rintro _ events rfl
  split
  · refine Attempt.ends_pure (iff_of_true (fun h => absurd h (by decide)) ?_)
    simp [TakenCareOf]
  · next last _ =>
      split
      · refine Attempt.ends_pure (iff_of_true (fun h => absurd h (by decide)) ?_)
        simp [TakenCareOf]
      · refine ends_closeIfArmed.bind fun seen _ hcleaned => Attempt.ends_pure ?_
        have hseen : shieldCommands ([.loadJournal] ++ (seen ++ [])) = shieldCommands seen := by
          simp [shieldCommands]
        rw [← takenCareOf_shieldCommands, CleanedIsHonest, hseen, ← cleaned_iff hcleaned]
        exact ⟨fun h => h rfl, fun h _ => h⟩

end Resume

/-! ## Both verdicts -/

/-- A bench with one artifact, whose board is connected after the serial ports
have been listed once; the shield closes with this exit code. -/
def boardBench (closeCode : Int) : Bench Bool where
  loads text :=
    if text = "\x7b\"overall\": \"GREEN\"\x7d" then some (.dict [("overall", .str "GREEN")])
    else if text = "\x7b\"pf_enabled\": false\x7d" then
      some (.dict [("pf_enabled", .bool false)])
    else none
  sha256 _ := "9f86d081"
  files _ := some [0x74, 0x65, 0x73, 0x74]
  manifestPath := ["firmware", "safe-flash-manifest.json"]
  bundleManifest := ["firmware", "safe-flash-manifest.json"]
  firmwareDir := ["firmware"]
  pathExists _ := true
  readJson _ := some (.dict [("build_dir", .str "build-p4-safe"),
    ("artifacts", .list [.dict [("name", .str "app"), ("path", .str "build-p4-safe/app.bin"),
      ("offset", .str "0x10000"), ("size", .int 4), ("sha256", .str "9f86d081")]])])
  shield args _ connected := (connected, some (match args with
    | ["--fingerprint"] => (0, "\x7b\"pf_enabled\": false\x7d")
    | ["--close-session"] => (closeCode, "CLOSE_RESULT=\n")
    | ["--uninstall", "--purge"] => (0, "UNINSTALL=PURGE=OK\n")
    | _ => (0, "CLASSIFICATION=GREEN\n")))
  install connected := (connected, some 0)
  inspect _ connected := (connected, some (0, "\x7b\"overall\": \"GREEN\"\x7d"))
  serialPorts connected := (true, some (if connected then ["/dev/cu.usbmodem1101"] else []))
  romMode _ connected := (connected, some (true, "ROM_DOWNLOAD_MODE_CONFIRMED"))
  findEsptool connected := (connected, some (some ⟨["esptool.py"], none⟩))
  writeFlash _ connected := (connected, some 0)
  readFlash _ _ _ connected := (connected, some (0, some [0x74, 0x65, 0x73, 0x74]))
  journal _ _ connected := (connected, some ())
  loadJournal connected := (connected, some [])

/-- **Honest verdicts.** A run that returns is reported green with reason if and
only if a step has failed or no warning has been met, and a resume that
returns says with reason that it has cleaned up if and only if an armed shield
has told it so and could be purged. -/
theorem verdicts_honest_iff {κ : Type} (bench : Bench σ) (runner : Runner) (s : σ)
    (site : Site κ) (desk : Bench (World κ)) (w : World κ) :
    (∀ outcome, (run bench runner).result s = some outcome →
        (GreenIsHonest bench runner ((run bench runner).labels s) outcome ↔
          NoWarningPassed bench runner ((run bench runner).labels s))) ∧
      ∀ outcome, (resume (desk.withShield site) runner).result w = some outcome →
        (CleanedIsHonest ((resume (desk.withShield site) runner).labels w) outcome ↔
          ∀ label ∈ (resume (desk.withShield site) runner).labels w,
            TakenCareOf site runner label) :=
  ⟨fun outcome h => ends_run s outcome h, fun outcome h => ends_resume w outcome h⟩

/-- A run on the board, and a resume that has nothing to resume. -/
theorem board_verdicts :
    ∃ outcome last, (run (boardBench 0) (Runner.new false false)).result false = some outcome ∧
      (resume (stillBench.withShield homeSite) (Runner.new false false)).result homeWorld =
        some last ∧
      (GreenIsHonest (boardBench 0) (Runner.new false false)
          ((run (boardBench 0) (Runner.new false false)).labels false) outcome ↔
        NoWarningPassed (boardBench 0) (Runner.new false false)
          ((run (boardBench 0) (Runner.new false false)).labels false)) ∧
      (CleanedIsHonest
          ((resume (stillBench.withShield homeSite) (Runner.new false false)).labels homeWorld)
          last ↔
        ∀ label ∈
            (resume (stillBench.withShield homeSite) (Runner.new false false)).labels homeWorld,
          TakenCareOf homeSite (Runner.new false false) label) := by
  have hrun : ((run (boardBench 0) (Runner.new false false)).result false).isSome := by
    decide +kernel
  have hresume : ((resume (stillBench.withShield homeSite) (Runner.new false false)).result
      homeWorld).isSome := by
    decide +kernel
  obtain ⟨outcome, houtcome⟩ := Option.isSome_iff_exists.mp hrun
  obtain ⟨last, hlast⟩ := Option.isSome_iff_exists.mp hresume
  have hverdicts := verdicts_honest_iff (boardBench 0) (Runner.new false false) false homeSite
    stillBench homeWorld
  exact ⟨outcome, last, houtcome, hlast, hverdicts.1 outcome houtcome, hverdicts.2 last hlast⟩

/-- The close does not succeed, and the run is green. -/
theorem board_yellow_reported_green :
    ¬∀ outcome, (run (boardBench 1) (Runner.new false false)).result false = some outcome →
      GreenIsHonest (boardBench 1) (Runner.new false false)
        ((run (boardBench 1) (Runner.new false false)).labels false) outcome := by
  intro h
  have hgreen : ((run (boardBench 1) (Runner.new false false)).result false).any (fun outcome =>
      outcome.status == "GREEN" && outcome.results.contains ("SHIELD_CLOSE", "YELLOW")) = true := by
    decide +kernel
  obtain ⟨outcome, houtcome, hgreen⟩ := (Option.any_eq_true _ _).mp hgreen
  obtain ⟨hstatus, hclose⟩ : outcome.status = "GREEN" ∧
      ("SHIELD_CLOSE", "YELLOW") ∈ outcome.results := by simpa using hgreen
  have hyellow : Greenish "YELLOW" := (h outcome houtcome hstatus).1 _ hclose
  rcases hyellow with hyellow | hyellow
  · exact absurd hyellow (by decide)
  · exact absurd hyellow (by decide)

end Bootmux.SafeFlash
