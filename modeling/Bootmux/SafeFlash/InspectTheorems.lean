/-
Bootmux.SafeFlash.InspectTheorems — which forbidden strings the inspector of
an artifact can miss.

`scan_binary_strings` keeps the runs of six printable bytes or more, and the
patterns are looked for in those. Every pattern is printable, so that one
that is in the file lies in one run; the two patterns of five bytes can be
the whole of a run that is dropped. Nothing else is missed
(`missed_iff`).

The verdict on an artifact also asks that the file is there and has the size
and the digest of its entry (`Matches`). The condition is on the bytes of
such a file: if one of the two short patterns is the whole of a run
(`Lone`), then some pattern is caught in another.

The file of the last section has the digest that the manifest records for
it.
-/
import Bootmux.Lib.JsonAscii
import Bootmux.Lib.Search
import Bootmux.SafeFlash.Manifest

namespace Bootmux.SafeFlash

open Bootmux.NetworkGuardian (contains)
open Bootmux.Lib.Json (isPrintable)
open Bootmux.Lib.Search (infix_splitOnP)

/-! ## Runs of printable bytes -/

/-- The bytes between the unprintable ones. -/
def runs (data : List UInt8) : List (List UInt8) := data.splitOnP fun b => !isPrintable b

/-- The bytes of an ASCII text. -/
def patternBytes (pattern : String) : List UInt8 :=
  pattern.toList.map fun c => UInt8.ofNat c.toNat

/-- `m.group(0).decode("ascii")`. -/
def decodeRun (run : List UInt8) : List Char := run.map fun b => Char.ofNat b.toNat

/-- One of the forbidden patterns is somewhere in the file. -/
def HasForbidden (data : List UInt8) : Prop :=
  ∃ pattern ∈ forbiddenPatterns, patternBytes pattern <:+: data

/-- A run that is kept has a forbidden pattern. -/
def Caught (data : List UInt8) : Prop :=
  ∃ run ∈ runs data, 6 ≤ run.length ∧ ∃ pattern ∈ forbiddenPatterns, patternBytes pattern <:+: run

/-- A run is one of the patterns of five bytes, and nothing more. -/
def Lone (data : List UInt8) : Prop :=
  ∃ run ∈ runs data, run = patternBytes "RNDIS" ∨ run = patternBytes "rndis"

instance (data : List UInt8) : Decidable (Lone data) :=
  inferInstanceAs (Decidable (∃ run ∈ runs data, _))

/-- The scan lists the runs of at least six printable bytes. -/
theorem scanBinaryStrings_eq (data : List UInt8) :
    scanBinaryStrings data = ((runs data).filter fun run => 6 ≤ run.length).map decodeRun := by
  rfl

theorem toNat_decode (b : UInt8) : (Char.ofNat b.toNat).toNat = b.toNat := by
  have hvalid : b.toNat.isValidChar := by
    have := b.toNat_lt
    left
    omega
  rw [Char.ofNat, dif_pos hvalid]
  rfl

/-- No two bytes are decoded as one character. -/
theorem decode_injective : Function.Injective fun b : UInt8 => Char.ofNat b.toNat := by
  intro a b h
  have hnat := congrArg Char.toNat h
  simp only [toNat_decode] at hnat
  exact UInt8.toNat_inj.mp hnat

/-- The patterns are printable, read back as they are, and of five bytes only
where they are one of two. -/
theorem pattern_facts : ∀ pattern ∈ forbiddenPatterns,
    (∀ b ∈ patternBytes pattern, (!isPrintable b) = false) ∧
      decodeRun (patternBytes pattern) = pattern.toList ∧
      (6 ≤ (patternBytes pattern).length ∨
        (patternBytes pattern).length = 5 ∧ (pattern = "RNDIS" ∨ pattern = "rndis")) := by
  decide +kernel

/-- A pattern is found in a decoded run exactly if its bytes are in the run.
-/
theorem contains_decodeRun {pattern : String} (h : pattern ∈ forbiddenPatterns)
    (run : List UInt8) :
    contains pattern.toList (decodeRun run) = true ↔ patternBytes pattern <:+: run := by
  obtain ⟨-, hdecode, -⟩ := pattern_facts pattern h
  rw [contains, decide_eq_true_eq, ← hdecode, decodeRun, decodeRun, List.infix_map_iff]
  constructor
  · rintro ⟨part, hpart, hsame⟩
    rwa [List.map_injective_iff.mpr decode_injective hsame]
  · intro hpart
    exact ⟨patternBytes pattern, hpart, rfl⟩

/-- The strings with a forbidden pattern are the runs that are caught. -/
theorem forbiddenIn_eq_nil_iff (data : List UInt8) : forbiddenIn data = [] ↔ ¬Caught data := by
  rw [forbiddenIn, scanBinaryStrings_eq, List.filter_eq_nil_iff]
  constructor
  · rintro h ⟨run, hrun, hlong, pattern, hpattern, hin⟩
    refine h (decodeRun run) (List.mem_map.mpr ⟨run, by simp [hrun, hlong], rfl⟩) ?_
    exact List.any_eq_true.mpr ⟨pattern, hpattern, (contains_decodeRun hpattern run).mpr hin⟩
  · intro h text htext hany
    obtain ⟨run, hrun, rfl⟩ := List.mem_map.mp htext
    obtain ⟨hmem, hlong⟩ := List.mem_filter.mp hrun
    obtain ⟨pattern, hpattern, hin⟩ := List.any_eq_true.mp hany
    exact h ⟨run, hmem, by simpa using hlong, pattern, hpattern,
      (contains_decodeRun hpattern run).mp hin⟩

/-! ## What is missed -/

/-- A forbidden pattern lies in one run. -/
theorem hasForbidden_iff (data : List UInt8) :
    HasForbidden data ↔ ∃ run ∈ runs data, ∃ pattern ∈ forbiddenPatterns,
      patternBytes pattern <:+: run := by
  constructor
  · rintro ⟨pattern, hpattern, hin⟩
    obtain ⟨run, hrun, hpart⟩ := (infix_splitOnP (pattern_facts pattern hpattern).1 data).mp hin
    exact ⟨run, hrun, pattern, hpattern, hpart⟩
  · rintro ⟨run, hrun, pattern, hpattern, hpart⟩
    exact ⟨pattern, hpattern,
      (infix_splitOnP (pattern_facts pattern hpattern).1 data).mpr ⟨run, hrun, hpart⟩⟩

/-- A short run with a forbidden pattern is that pattern. -/
theorem short_run {run : List UInt8} (hshort : run.length < 6) {pattern : String}
    (hpattern : pattern ∈ forbiddenPatterns) (hin : patternBytes pattern <:+: run) :
    run = patternBytes "RNDIS" ∨ run = patternBytes "rndis" := by
  obtain ⟨-, -, hlong | ⟨hfive, hname⟩⟩ := pattern_facts pattern hpattern
  · exact absurd hin.length_le (by omega)
  · have hsame : run = patternBytes pattern :=
      (hin.eq_of_length_le (by omega)).symm
    rcases hname with rfl | rfl
    · exact .inl hsame
    · exact .inr hsame

/-- A forbidden pattern stands in a run that is scanned, or alone in a shorter
one. -/
theorem hasForbidden_iff_caught_or_lone (data : List UInt8) :
    HasForbidden data ↔ Caught data ∨ Lone data := by
  rw [hasForbidden_iff]
  constructor
  · rintro ⟨run, hrun, pattern, hpattern, hin⟩
    by_cases hlong : 6 ≤ run.length
    · exact .inl ⟨run, hrun, hlong, pattern, hpattern, hin⟩
    · exact .inr ⟨run, hrun, short_run (Nat.not_le.mp hlong) hpattern hin⟩
  · rintro (⟨run, hrun, -, hpattern⟩ | ⟨run, hrun, rfl | rfl⟩)
    · exact ⟨run, hrun, hpattern⟩
    · exact ⟨_, hrun, "RNDIS", by decide, List.infix_rfl⟩
    · exact ⟨_, hrun, "rndis", by decide, List.infix_rfl⟩

/-! ## The verdict on an artifact -/

section Verdict

variable (sha256 : List UInt8 → String) (tree : BuildTree) (entry : Artifact)

/-- An artifact that is green has no forbidden pattern in it. -/
def MissesNothing : Prop :=
  ∀ result data, inspectArtifact sha256 tree entry = some result → result.green = true →
    tree.readBytes (tree.root ++ entry.path) = some data → ¬HasForbidden data

/-- The file is there, with the size and the digest of the entry. -/
def Matches (data : List UInt8) : Prop :=
  tree.pathExists (tree.root ++ entry.path) = true ∧
    tree.readBytes (tree.root ++ entry.path) = some data ∧ data.length = entry.size ∧
    sha256 data = entry.sha256

/-- An artifact is green exactly if it matches its entry and nothing forbidden
is caught. -/
theorem green_iff (data : List UInt8)
    (hread : tree.readBytes (tree.root ++ entry.path) = some data) :
    (∃ result, inspectArtifact sha256 tree entry = some result ∧ result.green = true) ↔
      Matches sha256 tree entry data ∧ ¬Caught data := by
  rw [← forbiddenIn_eq_nil_iff, Matches, hread]
  cases hexists : tree.pathExists (tree.root ++ entry.path) with
  | false => simp [inspectArtifact, hexists, ArtifactResult.green]
  | true => simp [inspectArtifact, hexists, hread, ArtifactResult.green, and_assoc]

/-- **What a green verdict misses.** Of a file that the entry matches, a run
that is exactly `RNDIS` or `rndis`, unless something longer is caught. -/
theorem misses_nothing_iff :
    MissesNothing sha256 tree entry ↔
      ∀ data, Matches sha256 tree entry data → Lone data → Caught data := by
  constructor
  · intro hnothing data hmatches hlone
    by_contra hcaught
    have hread := hmatches.2.1
    obtain ⟨result, hresult, hgreen⟩ :=
      (green_iff sha256 tree entry data hread).mpr ⟨hmatches, hcaught⟩
    exact hnothing result data hresult hgreen hread
      ((hasForbidden_iff_caught_or_lone data).mpr (.inr hlone))
  · intro hcondition result data hresult hgreen hread hforbidden
    obtain ⟨hmatches, hclean⟩ :=
      (green_iff sha256 tree entry data hread).mp ⟨result, hresult, hgreen⟩
    rcases (hasForbidden_iff_caught_or_lone data).mp hforbidden with hcaught | hlone
    · exact hclean hcaught
    · exact hclean (hcondition data hmatches hlone)

end Verdict

/-! ## A file with one short run -/

/-- `RNDIS` between two zero bytes. -/
def rndisImage : List UInt8 := [0x00] ++ patternBytes "RNDIS" ++ [0x00]

/-- Its digest; nothing else is hashed. -/
def rndisDigest (_ : List UInt8) : String :=
  "66a7e7331becd384da0e5a6b57dc96ef12082626c06b010b22c47efc43a7caae"

/-- A build with that file, which is not empty. -/
def rndisTree : BuildTree where
  buildDir := ["build"]
  pathExists path := path = ["app.bin"]
  readBytes path := if path = ["app.bin"] then some rndisImage else none
  readText _ := none
  readJson _ := none

def rndisEntry : Artifact where
  name := "application"
  path := ["app.bin"]
  offset := "0x10000"
  size := 7
  sha256 := rndisDigest rndisImage

/-- The inspector is green about it. -/
theorem rndis_missed : ¬MissesNothing rndisDigest rndisTree rndisEntry := by
  intro hnothing
  have hgreen : (inspectArtifact rndisDigest rndisTree rndisEntry).any ArtifactResult.green =
      true := by
    decide +kernel
  obtain ⟨result, hresult, hpasses⟩ := (Option.any_eq_true _ _).mp hgreen
  exact hnothing result rndisImage hresult hpasses (by decide +kernel)
    ⟨"RNDIS", by decide, [0x00], [0x00], rfl⟩

end Bootmux.SafeFlash
