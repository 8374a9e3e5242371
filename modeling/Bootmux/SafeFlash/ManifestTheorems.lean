/-
Bootmux.SafeFlash.ManifestTheorems — what a green inspection of a build says
about it, when the manifest was generated from the same tree.

An artifact of the manifest is a file that is there, so that its size and its
digest match again (`inspectArtifact_genuine`). What is left to the tree is
which files are there at all, since the others are skipped, and the marker: it
is taken from `sdkconfig.defaults`, or is empty, where the sdkconfig has none,
and is then only looked for as a part of the text.

When the inspection is green is said of the tree alone (`green_generated_iff`):
nothing is wrong with the images that are found (`ImagesPass`), and the marker
is not missed (`MarkerMissed`). A green inspection then certifies the tree
exactly where the sdkconfig has the line and no file is missing
(`certifies_iff`). A tree with the USB network on is certified
(`network_certified`).

The manifest is made and inspected by two loops over the same tree, and the
results of the second are the artifacts of the first, one for one
(`AllInspected`). What can differ is what the two read again: the files,
which are the same, and the marker, which the first looks for as a line and
the second as a part of the whole text. The condition is on the tree: the
line in the sdkconfig, no file missing, and the images.
-/
import Bootmux.SafeFlash.Manifest
import Mathlib.Data.List.ReduceOption

namespace Bootmux.SafeFlash

open Bootmux.Lib
open Bootmux.Lib.PyText (splitlines strip)
open Bootmux.Lib.PyJson (valueOf asDict asText elementsOf isText)
open Bootmux.NetworkGuardian (contains)

variable {sha256 : List UInt8 → String} {tree : BuildTree}

/-! ## Results of a loop -/

section Loops

variable {α β : Type} {f : α → Option β}

/-- A function that answers everywhere maps a list. -/
theorem mapM_map {g : α → β} {xs : List α} (h : ∀ x ∈ xs, f x = some (g x)) :
    xs.mapM f = some (xs.map g) := by
  induction xs with
  | nil => rfl
  | cons x xs ih =>
      rw [List.forall_mem_cons] at h
      rw [List.mapM_cons, h.1, ih h.2]
      rfl

/-- The elements and the results of a loop that ends. -/
theorem mapM_mem {xs : List α} {ys : List β} (h : xs.mapM f = some ys) :
    (∀ x ∈ xs, ∃ y ∈ ys, f x = some y) ∧ ∀ y ∈ ys, ∃ x ∈ xs, f x = some y := by
  induction xs generalizing ys with
  | nil =>
      obtain rfl : [] = ys := Option.some.inj h
      exact ⟨by simp, by simp⟩
  | cons x xs ih =>
      rw [List.mapM_cons] at h
      obtain ⟨y, hy, h⟩ := Option.bind_eq_some_iff.mp h
      obtain ⟨zs, hzs, h⟩ := Option.bind_eq_some_iff.mp h
      obtain rfl := Option.some.inj h
      obtain ⟨hforth, hback⟩ := ih hzs
      refine ⟨?_, ?_⟩
      · rw [List.forall_mem_cons]
        refine ⟨⟨y, List.mem_cons_self, hy⟩, fun a ha => ?_⟩
        obtain ⟨b, hb, hab⟩ := hforth a ha
        exact ⟨b, List.mem_cons_of_mem _ hb, hab⟩
      · rw [List.forall_mem_cons]
        refine ⟨⟨x, List.mem_cons_self, hy⟩, fun b hb => ?_⟩
        obtain ⟨a, ha, hab⟩ := hback b hb
        exact ⟨a, List.mem_cons_of_mem _ ha, hab⟩

end Loops

/-! ## Artifacts -/

/-- An artifact that is a file of the tree. -/
structure GenuineArtifact (sha256 : List UInt8 → String) (tree : BuildTree) (entry : Artifact)
    (data : List UInt8) : Prop where
  there : tree.pathExists (tree.root ++ entry.path) = true
  read : tree.readBytes (tree.root ++ entry.path) = some data
  size : entry.size = data.length
  digest : entry.sha256 = sha256 data

/-- A path is its base and what is left of it. -/
theorem relativeTo_some {base path rest : Path} (h : base.relativeTo path = some rest) :
    base ++ rest = path := by
  unfold Path.relativeTo at h
  split at h
  · next hmarked =>
      obtain rfl := Option.some.inj h
      exact List.prefix_iff_eq_append.mp (List.isPrefixOf_iff_prefix.mp hmarked)
  · cases h

/-- A located file is there, in the build directory or at the root. -/
theorem locate_exists {relPath : String} {path : Path} (h : locate tree relPath = some path) :
    tree.pathExists path = true ∧
      (path = tree.buildDir.join relPath ∨ path = tree.root.join relPath) := by
  simp only [locate] at h
  split_ifs at h with hfull halt
  · obtain rfl := Option.some.inj h
    exact ⟨hfull, .inl rfl⟩
  · obtain rfl := Option.some.inj h
    exact ⟨halt, .inr rfl⟩

/-- A file that is not located is at neither place. -/
theorem locate_none {relPath : String} (h : locate tree relPath = none) :
    tree.pathExists (tree.buildDir.join relPath) = false ∧
      tree.pathExists (tree.root.join relPath) = false := by
  simp only [locate] at h
  split_ifs at h with hfull halt
  exact ⟨Bool.not_eq_true _ ▸ hfull, Bool.not_eq_true _ ▸ halt⟩

/-- What an artifact of the manifest was made of. -/
theorem artifactOf_some {file : String × PyJson} {entry : Artifact}
    (h : artifactOf sha256 tree file = some (some entry)) :
    ∃ relPath data, asText file.2 = some relPath ∧
      locate tree relPath = some (tree.root ++ entry.path) ∧
      GenuineArtifact sha256 tree entry data := by
  simp only [artifactOf, Option.bind_eq_bind, Option.bind_eq_some_iff] at h
  obtain ⟨relPath, hrel, h⟩ := h
  cases hlocate : locate tree relPath with
  | none => simp [hlocate] at h
  | some fullPath =>
      simp only [hlocate, Option.bind_eq_some_iff] at h
      obtain ⟨data, hdata, path, hpath, h⟩ := h
      obtain rfl := Option.some.inj (Option.some.inj h)
      have hroot := relativeTo_some hpath
      refine ⟨relPath, data, hrel, by rw [hlocate, hroot], ?_, ?_, rfl, rfl⟩
      · exact hroot ▸ (locate_exists hlocate).1
      · exact hroot ▸ hdata

/-- An artifact is left out only if its file is not there. -/
theorem artifactOf_none {file : String × PyJson}
    (h : artifactOf sha256 tree file = some none) :
    ∃ relPath, asText file.2 = some relPath ∧ locate tree relPath = none := by
  simp only [artifactOf, Option.bind_eq_bind, Option.bind_eq_some_iff] at h
  obtain ⟨relPath, hrel, h⟩ := h
  cases hlocate : locate tree relPath with
  | none => exact ⟨relPath, hrel, hlocate⟩
  | some fullPath =>
      simp only [hlocate, Option.bind_eq_some_iff] at h
      obtain ⟨data, -, path, -, h⟩ := h
      cases h

/-- The inspection of a file that was made an artifact. -/
theorem inspectArtifact_genuine {entry : Artifact} {data : List UInt8}
    (h : GenuineArtifact sha256 tree entry data) :
    inspectArtifact sha256 tree entry = some {
      name := entry.name
      path := tree.root ++ entry.path
      inspected := .present true true (forbiddenIn data) } := by
  simp [inspectArtifact, h.there, h.read, h.size, h.digest]

/-- The data of a genuine artifact are read. -/
theorem dataOf_genuine {entry : Artifact} {data : List UInt8}
    (h : GenuineArtifact sha256 tree entry data) : dataOf tree entry = some (some data) := by
  simp [dataOf, h.there, h.read]

/-! ## The verdict -/

/-- The line of an sdkconfig without the USB network. -/
def safeLine : List Char := "# CONFIG_BOOTMUX_USB_NETWORK_EXPERIMENTAL is not set".toList

def HasSafeLine (tree : BuildTree) : Prop :=
  ∃ content, tree.readText tree.sdkconfig = some content ∧ safeLine ∈ splitlines content

/-- Each file of `flash_files` is an inspected artifact that matches. -/
def AllInspected (tree : BuildTree) (report : Report) : Prop :=
  ∀ files, flashFiles tree = some files → ∀ file ∈ files,
    ∃ relPath, asText file.2 = some relPath ∧ ∃ result ∈ report.artifacts,
      (result.path = tree.buildDir.join relPath ∨ result.path = tree.root.join relPath) ∧
        ∃ forbidden, result.inspected = .present true true forbidden

/-- A green inspection against the tree's own manifest certifies the tree. -/
def Certifies (sha256 : List UInt8 → String) (tree : BuildTree) : Prop :=
  ∀ manifest report, generateManifest sha256 tree = some manifest →
    inspectBuild sha256 tree manifest = some report → report.overall = true →
      HasSafeLine tree ∧ AllInspected tree report

/-- The name and the data of a file, if it is found; `none` where a path is no
text, cannot be read or is not under the root. -/
def imageOf (tree : BuildTree) (file : String × PyJson) :
    Option (Option (String × List UInt8)) := do
  let relPath ← asText file.2
  match locate tree relPath with
  | none => some none
  | some fullPath => do
      let data ← tree.readBytes fullPath
      if tree.root.isPrefixOf fullPath then
        some (some ((nameMap file.1).getD (stem relPath), data))
      else none

/-- The images that are found, in the order of their offsets. -/
def foundImages (tree : BuildTree) : Option (List (String × List UInt8)) := do
  let files ← sortedFiles (← flashFiles tree)
  let found ← files.mapM (imageOf tree)
  some found.reduceOption

/-- Nothing is wrong with the images that are found: no forbidden string is in
them, the first application has the strings of the USB identity, and the last
one the marker that the network is off. -/
def ImagesPass (tree : BuildTree) : Prop :=
  ∃ images, foundImages tree = some images ∧
    (∀ image ∈ images, forbiddenIn image.2 = []) ∧
    (∃ image ∈ images.find? (·.1 == "application"),
      contains "BOOTMUX Keyboard Safe".toList (allText image.2) = true ∧
        contains "BOOTMUX-HID-SAFE".toList (allText image.2) = true) ∧
    ∃ image ∈ (images.filter (·.1 == "application")).getLast?,
      contains safeOffMarker.toList (allText image.2) = true

/-- A line that `detect_marker` takes: when it is stripped it starts with the
marker, whatever comes after that. -/
def Accepted (text line : List Char) : Prop :=
  line ∈ splitlines text ∧ (notSet markerKey).isPrefixOf (strip line) = true

/-- The inspection does not find the marker: there is no sdkconfig, or it has
no line that `detect_marker` takes, but the first such line of the defaults is
not a part of it. A file that cannot be read ends one of the programs. -/
def MarkerMissed (tree : BuildTree) : Prop :=
  tree.pathExists tree.sdkconfig = false ∨ tree.readText tree.sdkconfig = none ∨
    ∃ content, tree.readText tree.sdkconfig = some content ∧ (∀ line, ¬Accepted content line) ∧
      tree.pathExists tree.sdkconfigDefaults = true ∧
      ∀ text, tree.readText tree.sdkconfigDefaults = some text →
        ∃ line ∈ (splitlines text).find? fun line => (notSet markerKey).isPrefixOf (strip line),
          contains (strip line) content = false

/-- Each file of `flash_files` is in the build directory or its parent. -/
def AllThere (tree : BuildTree) : Prop :=
  ∀ files, flashFiles tree = some files → ∀ file ∈ files, ∀ relPath,
    asText file.2 = some relPath →
      tree.pathExists (tree.buildDir.join relPath) = true ∨
        tree.pathExists (tree.root.join relPath) = true

/-! ## The marker -/

/-- The marker is the first line that starts with the key, without the spaces
around it. -/
theorem detectMarker_eq (text : List Char) : detectMarker text markerKey =
    (((splitlines text).find? fun line => (notSet markerKey).isPrefixOf (strip line)).map
      strip).getD [] := by
  rw [detectMarker, List.find?_map]
  rfl

theorem notSet_ne_nil : notSet markerKey ≠ [] := by decide

/-- There is no marker exactly if no line is accepted. -/
theorem detectMarker_eq_nil_iff (text : List Char) :
    detectMarker text markerKey = [] ↔ ∀ line, ¬Accepted text line := by
  rw [detectMarker_eq]
  cases hfind : (splitlines text).find? fun line => (notSet markerKey).isPrefixOf (strip line) with
  | none =>
      simp only [Option.map_none, Option.getD_none, true_iff]
      rintro line ⟨hline, hmarked⟩
      exact List.find?_eq_none.mp hfind line hline hmarked
  | some line =>
      have hmarked := List.find?_some hfind
      have hne : strip line ≠ [] := fun hnil =>
        notSet_ne_nil (List.prefix_nil.mp (hnil ▸ List.isPrefixOf_iff_prefix.mp hmarked))
      simp only [Option.map_some, Option.getD_some, hne, false_iff, not_forall, not_not]
      exact ⟨line, List.mem_of_find?_eq_some hfind, hmarked⟩

/-- The marker of a file is a part of it. -/
theorem contains_detectMarker (text : List Char) :
    contains (detectMarker text markerKey) text = true := by
  rw [detectMarker_eq, contains, decide_eq_true_eq]
  cases hfind : (splitlines text).find? fun line => (notSet markerKey).isPrefixOf (strip line) with
  | none => exact List.nil_infix
  | some line =>
      exact (PyText.strip_isInfix line).trans
        ((PyText.splitlines_parts text).1 line (List.mem_of_find?_eq_some hfind))

/-- The marker that the generator takes is found, or `MarkerMissed`. -/
theorem markerMissed_iff (tree : BuildTree) : MarkerMissed tree ↔
    ¬∃ marker content, sdkconfigMarker tree = some marker ∧
      tree.pathExists tree.sdkconfig = true ∧ tree.readText tree.sdkconfig = some content ∧
      contains marker content = true := by
  cases hexists : tree.pathExists tree.sdkconfig with
  | false => simp [MarkerMissed, hexists]
  | true =>
    cases hread : tree.readText tree.sdkconfig with
    | none => simp [MarkerMissed, hread]
    | some content =>
      have hcontains := contains_detectMarker content
      by_cases hnil : detectMarker content markerKey = []
      swap
      · -- The sdkconfig has a marker of its own.
        have hmarker : sdkconfigMarker tree = some (detectMarker content markerKey) := by
          simp [sdkconfigMarker, markerOf, hexists, hread, hnil]
        have haccepted := (detectMarker_eq_nil_iff content).not.mp hnil
        simp [MarkerMissed, hexists, hread, hmarker, hcontains, haccepted]
      have hrejects := (detectMarker_eq_nil_iff content).mp hnil
      have hmarker : sdkconfigMarker tree = markerOf tree tree.sdkconfigDefaults := by
        simp [sdkconfigMarker, markerOf, hexists, hread, hnil]
      rw [hmarker]
      have hempty : contains [] content = true := by simp [contains]
      cases hdefaults : tree.pathExists tree.sdkconfigDefaults with
      | false => simp [MarkerMissed, hexists, hread, hdefaults, markerOf, hempty]
      | true =>
        cases htext : tree.readText tree.sdkconfigDefaults with
        | none => simp [MarkerMissed, hexists, hread, hrejects, hdefaults, markerOf, htext]
        | some text =>
          cases hfind : (splitlines text).find? fun line =>
            (notSet markerKey).isPrefixOf (strip line) with
          | none =>
              simp [MarkerMissed, hexists, hread, hdefaults, markerOf, htext, detectMarker_eq,
                hfind, hempty]
          | some line =>
              simp [MarkerMissed, hexists, hread, hrejects, hdefaults, markerOf, htext,
                detectMarker_eq, hfind]

/-! ## The images -/

/-- The artifacts of a generated manifest. -/
theorem generateManifest_artifacts {manifest : Manifest}
    (h : generateManifest sha256 tree = some manifest) :
    artifacts sha256 tree = some manifest.artifacts := by
  simp only [generateManifest, Option.bind_eq_bind, Option.bind_eq_some_iff] at h
  obtain ⟨images, himages, marker, -, h⟩ := h
  obtain rfl := Option.some.inj h
  exact himages

/-- Sorting loses no file. -/
theorem mem_sortedFiles {files sorted : List (String × PyJson)}
    (h : sortedFiles files = some sorted) (file : String × PyJson) :
    file ∈ sorted ↔ file ∈ files := by
  simp only [sortedFiles, Option.bind_eq_bind, Option.bind_eq_some_iff] at h
  obtain ⟨keyed, hkeyed, h⟩ := h
  obtain rfl := Option.some.inj h
  obtain ⟨hforth, hback⟩ := mapM_mem hkeyed
  rw [List.mem_map]
  constructor
  · rintro ⟨pair, hpair, rfl⟩
    obtain ⟨file, hfile, hkey⟩ := hback pair (List.mem_mergeSort.mp hpair)
    obtain ⟨offset, -, rfl⟩ := Option.map_eq_some_iff.mp hkey
    exact hfile
  · intro hfile
    obtain ⟨pair, hpair, hkey⟩ := hforth file hfile
    obtain ⟨offset, -, rfl⟩ := Option.map_eq_some_iff.mp hkey
    exact ⟨_, List.mem_mergeSort.mpr hpair, rfl⟩

/-- The artifacts are the files that are found. -/
theorem mem_artifacts {images : List Artifact} (h : artifacts sha256 tree = some images) :
    ∃ files, flashFiles tree = some files ∧
      (∀ entry ∈ images, ∃ file ∈ files, artifactOf sha256 tree file = some (some entry)) ∧
      ∀ file ∈ files, artifactOf sha256 tree file = some none ∨
        ∃ entry ∈ images, artifactOf sha256 tree file = some (some entry) := by
  simp only [artifacts, Option.bind_eq_bind, Option.bind_eq_some_iff] at h
  obtain ⟨files, hfiles, sorted, hsorted, found, hfound, h⟩ := h
  obtain rfl := Option.some.inj h
  obtain ⟨hforth, hback⟩ := mapM_mem hfound
  refine ⟨files, hfiles, fun entry hentry => ?_, fun file hfile => ?_⟩
  · obtain ⟨file, hfile, heq⟩ := hback _ (List.reduceOption_mem_iff.mp hentry)
    exact ⟨file, (mem_sortedFiles hsorted file).mp hfile, heq⟩
  · obtain ⟨result, hresult, heq⟩ := hforth file ((mem_sortedFiles hsorted file).mpr hfile)
    cases result with
    | none => exact .inl heq
    | some entry => exact .inr ⟨entry, List.reduceOption_mem_iff.mpr hresult, heq⟩

section Generated

variable {manifest : Manifest} (hgenerate : generateManifest sha256 tree = some manifest)
include hgenerate

/-- A generated manifest lists what is on the disk. -/
theorem genuine_of_generated {entry : Artifact} (h : entry ∈ manifest.artifacts) :
    ∃ data, GenuineArtifact sha256 tree entry data := by
  obtain ⟨files, -, hback, -⟩ := mem_artifacts (generateManifest_artifacts hgenerate)
  obtain ⟨file, -, hfile⟩ := hback entry h
  obtain ⟨relPath, data, -, -, hgenuine⟩ := artifactOf_some hfile
  exact ⟨data, hgenuine⟩

/-- What the inspection finds in a file of the tree. -/
def matched (tree : BuildTree) (entry : Artifact) : ArtifactResult where
  name := entry.name
  path := tree.root ++ entry.path
  inspected := .present true true
    (forbiddenIn ((tree.readBytes (tree.root ++ entry.path)).getD []))

/-- Every artifact of a fresh manifest matches. -/
theorem mapM_inspectArtifact :
    manifest.artifacts.mapM (inspectArtifact sha256 tree) =
      some (manifest.artifacts.map (matched tree)) := by
  refine mapM_map fun entry hentry => ?_
  obtain ⟨data, hdata⟩ := genuine_of_generated hgenerate hentry
  rw [inspectArtifact_genuine hdata, matched, hdata.read]
  rfl

/-- A report of the tree against its manifest. -/
theorem inspectBuild_some {report : Report}
    (h : inspectBuild sha256 tree manifest = some report) :
    markerFound tree manifest = some report.sdkconfigMarker ∧
      report.artifacts = manifest.artifacts.map (matched tree) ∧
      (∃ app, appData tree manifest = some app ∧ report.safeOffMarker = app.any fun data =>
        contains safeOffMarker.toList (allText data)) ∧
      verifyUsbIdentity tree manifest = some report.usbIdentity := by
  simp only [inspectBuild, mapM_inspectArtifact hgenerate, Option.bind_eq_bind,
    Option.bind_some, Option.bind_eq_some_iff] at h
  obtain ⟨marker, hmarker, app, happ, usb, husb, h⟩ := h
  obtain rfl := Option.some.inj h
  exact ⟨hmarker, rfl, ⟨app, happ, rfl⟩, husb⟩

end Generated

/-- What an artifact of the manifest is made of. -/
def imageEntry (tree : BuildTree) (entry : Artifact) : String × List UInt8 :=
  (entry.name, (tree.readBytes (tree.root ++ entry.path)).getD [])

theorem imageOf_eq (sha256 : List UInt8 → String) (tree : BuildTree) (file : String × PyJson) :
    imageOf tree file = (artifactOf sha256 tree file).map (Option.map (imageEntry tree)) := by
  simp only [imageOf, artifactOf, Option.bind_eq_bind]
  cases asText file.2 with
  | none => rfl
  | some relPath =>
      simp only [Option.bind_some]
      cases hlocate : locate tree relPath with
      | none => rfl
      | some fullPath =>
          cases hread : tree.readBytes fullPath with
          | none => simp [hread]
          | some data =>
              cases hroot : tree.root.relativeTo fullPath with
              | none =>
                  have hnot : tree.root.isPrefixOf fullPath = false := by
                    simpa [Path.relativeTo, ← Bool.not_eq_true] using hroot
                  simp [hread, hroot, hnot]
              | some rest =>
                  have hin : tree.root.isPrefixOf fullPath = true := by
                    by_contra hnot
                    simp [Path.relativeTo, hnot] at hroot
                  have hpath := relativeTo_some hroot
                  simp [hread, hroot, hin, imageEntry, hpath]

/-- The flash images are the artifacts with their addresses. -/
theorem foundImages_eq (sha256 : List UInt8 → String) (tree : BuildTree) :
    foundImages tree = (artifacts sha256 tree).map (List.map (imageEntry tree)) := by
  simp only [foundImages, artifacts, Option.bind_eq_bind]
  cases flashFiles tree with
  | none => rfl
  | some files =>
      simp only [Option.bind_some]
      cases sortedFiles files with
      | none => rfl
      | some sorted =>
          have hmapM : sorted.mapM (imageOf tree) =
              (sorted.mapM (artifactOf sha256 tree)).map
                (List.map (Option.map (imageEntry tree))) := by
            induction sorted with
            | nil => rfl
            | cons file sorted ih =>
                rw [List.mapM_cons, List.mapM_cons, ih, imageOf_eq sha256]
                cases artifactOf sha256 tree file with
                | none => rfl
                | some entry => cases sorted.mapM (artifactOf sha256 tree) <;> rfl
          simp only [Option.bind_some, hmapM]
          cases sorted.mapM (artifactOf sha256 tree) with
          | none => rfl
          | some found => simp [List.reduceOption_map]

section Images

variable {manifest : Manifest} (hgenerate : generateManifest sha256 tree = some manifest)
include hgenerate

theorem read_generated {entry : Artifact} (h : entry ∈ manifest.artifacts) :
    dataOf tree entry = some (some (imageEntry tree entry).2) := by
  obtain ⟨data, hdata⟩ := genuine_of_generated hgenerate h
  rw [dataOf_genuine hdata, imageEntry, hdata.read, Option.getD_some]

theorem appData_generated : appData tree manifest =
    some ((manifest.artifacts.filter isApplication).getLast?.map
      fun entry => (imageEntry tree entry).2) := by
  have hdata : ∀ entry ∈ manifest.artifacts.filter isApplication,
      dataOf tree entry = some (some (imageEntry tree entry).2) :=
    fun entry hentry => read_generated hgenerate (List.mem_filter.mp hentry).1
  have hfound : ((manifest.artifacts.filter isApplication).map fun entry =>
      some (imageEntry tree entry).2).reduceOption =
        (manifest.artifacts.filter isApplication).map fun entry => (imageEntry tree entry).2 := by
    rw [List.reduceOption, List.filterMap_map]
    exact congrFun List.filterMap_eq_map _
  rw [appData, mapM_map hdata, Option.bind_eq_bind, Option.bind_some, hfound, List.getLast?_map]

theorem verifyUsbIdentity_generated : verifyUsbIdentity tree manifest =
    some ((manifest.artifacts.find? isApplication).any fun entry =>
      contains "BOOTMUX Keyboard Safe".toList (allText (imageEntry tree entry).2) &&
        contains "BOOTMUX-HID-SAFE".toList (allText (imageEntry tree entry).2)) := by
  have hstrings : manifest.product = "BOOTMUX Keyboard Safe" ∧
      manifest.serial = "BOOTMUX-HID-SAFE" := by
    simp only [generateManifest, Option.bind_eq_bind, Option.bind_eq_some_iff] at hgenerate
    obtain ⟨images, -, marker, -, hmanifest⟩ := hgenerate
    obtain rfl := Option.some.inj hmanifest
    exact ⟨rfl, rfl⟩
  rw [verifyUsbIdentity, hstrings.1, hstrings.2]
  cases hfind : manifest.artifacts.find? isApplication with
  | none => rfl
  | some entry =>
      simp [read_generated hgenerate (List.mem_of_find?_eq_some hfind)]

/-- The images pass if the inspection has nothing against them. -/
theorem imagesPass_iff : ImagesPass tree ↔
    (manifest.artifacts.map (matched tree)).all ArtifactResult.green = true ∧
      verifyUsbIdentity tree manifest = some true ∧
      ∃ data, appData tree manifest = some (some data) ∧
        contains safeOffMarker.toList (allText data) = true := by
  have himages : foundImages tree = some (manifest.artifacts.map (imageEntry tree)) := by
    rw [foundImages_eq sha256, generateManifest_artifacts hgenerate, Option.map_some]
  have happlication : (fun image : String × List UInt8 => image.1 == "application") ∘
      imageEntry tree = isApplication := rfl
  have hgreen : (manifest.artifacts.map (matched tree)).all ArtifactResult.green = true ↔
      ∀ image ∈ manifest.artifacts.map (imageEntry tree), forbiddenIn image.2 = [] := by
    rw [List.all_map, List.all_eq_true, List.forall_mem_map]
    simp [matched, imageEntry, ArtifactResult.green]
  rw [hgreen, verifyUsbIdentity_generated hgenerate, appData_generated hgenerate, ImagesPass,
    himages]
  simp only [Option.some.injEq, exists_eq_left', List.find?_map, List.filter_map,
    List.getLast?_map, happlication]
  refine and_congr Iff.rfl (and_congr ?_ ?_)
  · cases manifest.artifacts.find? isApplication <;> simp
  · cases (manifest.artifacts.filter isApplication).getLast? <;> simp

end Images

/-! ## What is certified -/

/-- The marker that the inspection looks for is one of the `sdkconfig`, or the
one of the defaults. -/
theorem marker_of_markerFound {manifest : Manifest}
    (hgenerate : generateManifest sha256 tree = some manifest)
    (hfound : markerFound tree manifest = some true) :
    ∃ marker content, sdkconfigMarker tree = some marker ∧
      tree.pathExists tree.sdkconfig = true ∧ tree.readText tree.sdkconfig = some content ∧
      contains marker content = true := by
  simp only [generateManifest, Option.bind_eq_bind, Option.bind_eq_some_iff] at hgenerate
  obtain ⟨images, -, marker, hmarker, hmanifest⟩ := hgenerate
  obtain rfl := Option.some.inj hmanifest
  rw [markerFound] at hfound
  split at hfound
  · obtain ⟨content, hread, hcontains⟩ := Option.map_eq_some_iff.mp hfound
    exact ⟨marker, content, hmarker, ‹_›, hread, hcontains⟩
  · cases hfound

variable (sha256) in
/-- The inspection of a tree against its own manifest is green if nothing is
wrong with the images and the marker is found, and only then. -/
theorem green_generated_iff : (∃ manifest report,
    generateManifest sha256 tree = some manifest ∧
      inspectBuild sha256 tree manifest = some report ∧ report.overall = true) ↔
    ImagesPass tree ∧ ¬MarkerMissed tree := by
  rw [markerMissed_iff, not_not]
  constructor
  · rintro ⟨manifest, report, hgenerate, hinspect, hoverall⟩
    obtain ⟨hmarker, hresults, ⟨app, happ, hoff⟩, husb⟩ := inspectBuild_some hgenerate hinspect
    simp only [Report.overall, Bool.and_eq_true, hresults] at hoverall
    obtain ⟨⟨⟨hgreen, hmarked⟩, hsafe⟩, hidentity⟩ := hoverall
    rw [hoff, Option.any_eq_true] at hsafe
    obtain ⟨data, rfl, hcontains⟩ := hsafe
    refine ⟨(imagesPass_iff hgenerate).mpr
      ⟨hgreen, by rw [husb, hidentity], data, happ, hcontains⟩, ?_⟩
    rw [hmarked] at hmarker
    exact marker_of_markerFound hgenerate hmarker
  · rintro ⟨himages, marker, content, hmarker, hexists, hread, hcontains⟩
    obtain ⟨images, hfound, -⟩ := id himages
    rw [foundImages_eq sha256] at hfound
    obtain ⟨entries, hentries, -⟩ := Option.map_eq_some_iff.mp hfound
    have hgenerate : generateManifest sha256 tree = some {
        sdkconfigMarker := marker
        product := "BOOTMUX Keyboard Safe"
        serial := "BOOTMUX-HID-SAFE"
        artifacts := entries } := by
      simp [generateManifest, hentries, hmarker]
    obtain ⟨hgreen, husb, data, happ, hoff⟩ := (imagesPass_iff hgenerate).mp himages
    refine ⟨_, ⟨entries.map (matched tree), true, true, true⟩, hgenerate, ?_, ?_⟩
    · simp [inspectBuild, markerFound, hexists, hread, hcontains, mapM_inspectArtifact hgenerate,
        happ, husb, hoff]
    · rw [Report.overall, hgreen]
      rfl

/-- The files that are inspected are those that are found. -/
theorem allInspected_iff {manifest : Manifest} {report : Report}
    (hgenerate : generateManifest sha256 tree = some manifest)
    (hinspect : inspectBuild sha256 tree manifest = some report) :
    AllInspected tree report ↔ AllThere tree := by
  obtain ⟨files, hfiles, -, hfile⟩ := mem_artifacts (generateManifest_artifacts hgenerate)
  have hresults := (inspectBuild_some hgenerate hinspect).2.1
  constructor
  · intro hall files' hfiles' file hmem relPath hrel
    obtain ⟨relPath', hrel', result, hresult, hpath, -⟩ := hall files' hfiles' file hmem
    obtain rfl : relPath = relPath' := Option.some.inj (hrel.symm.trans hrel')
    rw [hresults, List.mem_map] at hresult
    obtain ⟨entry, hentry, rfl⟩ := hresult
    obtain ⟨data, hdata⟩ := genuine_of_generated hgenerate hentry
    rcases hpath with hpath | hpath
    · exact .inl (hpath ▸ hdata.there)
    · exact .inr (hpath ▸ hdata.there)
  · intro hthere files' hfiles' file hmem
    obtain rfl : files = files' := Option.some.inj (hfiles.symm.trans hfiles')
    rcases hfile file hmem with hskipped | ⟨entry, hentry, hmade⟩
    · obtain ⟨relPath, hrel, hlocate⟩ := artifactOf_none hskipped
      obtain ⟨hfull, halt⟩ := locate_none hlocate
      rcases hthere files hfiles file hmem relPath hrel with hfound | hfound
      · simp [hfull] at hfound
      · simp [halt] at hfound
    · obtain ⟨relPath, data, hrel, hlocate, -⟩ := artifactOf_some hmade
      refine ⟨relPath, hrel, matched tree entry, ?_, (locate_exists hlocate).2, _, rfl⟩
      rw [hresults]
      exact List.mem_map_of_mem hentry

/-- **Exactly when a green inspection certifies the tree.** If nothing is wrong
with the images, the marker is missed, or the sdkconfig has the line and all
files are there. -/
theorem certifies_iff (sha256 : List UInt8 → String) (tree : BuildTree) :
    Certifies sha256 tree ↔
      (ImagesPass tree → MarkerMissed tree ∨ (HasSafeLine tree ∧ AllThere tree)) := by
  constructor
  · intro hcertifies himages
    by_cases hmissed : MarkerMissed tree
    · exact .inl hmissed
    obtain ⟨manifest, report, hgenerate, hinspect, hgreen⟩ :=
      (green_generated_iff sha256).mpr ⟨himages, hmissed⟩
    obtain ⟨hline, hall⟩ := hcertifies manifest report hgenerate hinspect hgreen
    exact .inr ⟨hline, (allInspected_iff hgenerate hinspect).mp hall⟩
  · intro h manifest report hgenerate hinspect hgreen
    obtain ⟨himages, hfound⟩ :=
      (green_generated_iff sha256).mp ⟨manifest, report, hgenerate, hinspect, hgreen⟩
    obtain ⟨hline, hthere⟩ := (h himages).resolve_left hfound
    exact ⟨hline, (allInspected_iff hgenerate hinspect).mpr hthere⟩

/-! ## A build with the USB network -/

/-- An image with the strings of the safe firmware. -/
def networkImage : List UInt8 :=
  0 :: ("BOOTMUX Keyboard Safe".toUTF8.data.toList ++
    0 :: ("BOOTMUX-HID-SAFE".toUTF8.data.toList ++
      0 :: ("BOOTMUX_USB_NETWORK_SAFE_OFF".toUTF8.data.toList ++ [0])))

/-- Its digest; nothing else is hashed. -/
def networkDigest (_ : List UInt8) : String :=
  "2ab436d3ae7113c8bca7a61a0b915aede9ad7cd065915044abc3526525857da6"

/-- The sdkconfig turns the USB network on, and there are no defaults. -/
def networkTree : BuildTree where
  buildDir := ["firmware", "build"]
  pathExists path := path ∈ [["firmware", "build", "flasher_args.json"],
    ["firmware", "build", "app"], ["firmware", "sdkconfig"]]
  readBytes path := if path = ["firmware", "build", "app"] then some networkImage else none
  readText path :=
    if path = ["firmware", "sdkconfig"] then
      some "CONFIG_BOOTMUX_USB_NETWORK_EXPERIMENTAL=y\n".toList
    else none
  readJson path :=
    if path = ["firmware", "build", "flasher_args.json"] then
      some (.dict [("flash_files", .dict [("0x10000", .str "app")])])
    else none

def networkManifest : Manifest where
  sdkconfigMarker := []
  product := "BOOTMUX Keyboard Safe"
  serial := "BOOTMUX-HID-SAFE"
  artifacts := [⟨"application", ["build", "app"], "0x10000", 69, networkDigest networkImage⟩]

theorem join_app (base : Path) : base.join "app" = base ++ ["app"] := by
  have hsplit : "app".splitOn "/" = ["app"] := by
    rw [String.splitOn, if_neg (by decide)]
    rw [String.splitOnAux, if_neg (by decide), if_neg (by decide)]
    rw [String.splitOnAux, if_neg (by decide), if_neg (by decide)]
    rw [String.splitOnAux, if_neg (by decide), if_neg (by decide)]
    rw [String.splitOnAux, if_pos (by decide)]
    decide
  have hparts : pathParts "app" = ["app"] := by
    rw [pathParts, hsplit]
    decide
  rw [Path.join, hparts, if_neg (by decide)]

theorem generate_network : generateManifest networkDigest networkTree = some networkManifest := by
  have hlocate : locate networkTree "app" = some ["firmware", "build", "app"] := by
    rw [locate, join_app, join_app]
    rfl
  have hartifact : artifactOf networkDigest networkTree ("0x10000", .str "app") =
      some networkManifest.artifacts.head? := by
    simp only [artifactOf, asText, Option.bind_eq_bind, Option.bind_some, hlocate]
    rfl
  have hsorted : sortedFiles [("0x10000", .str "app")] = some [("0x10000", .str "app")] := by
    have hkey : intBase16 "0x10000" = some 65536 := by decide +kernel
    simp [sortedFiles, hkey]
  have hfiles : flashFiles networkTree = some [("0x10000", .str "app")] := rfl
  simp only [generateManifest, artifacts, hfiles, hsorted, Option.bind_eq_bind, Option.bind_some,
    List.mapM_cons, List.mapM_nil, hartifact]
  rfl

/-- A firmware with the network in it is certified, if the defaults say
nothing. -/
theorem network_certified : ¬Certifies networkDigest networkTree := by
  intro hcertifies
  have hgreen : (inspectBuild networkDigest networkTree networkManifest).any Report.overall =
      true := by
    decide +kernel
  obtain ⟨report, hinspect, hoverall⟩ := (Option.any_eq_true _ _).mp hgreen
  obtain ⟨⟨content, hread, hline⟩, -⟩ :=
    hcertifies networkManifest report generate_network hinspect hoverall
  have hcontent : some "CONFIG_BOOTMUX_USB_NETWORK_EXPERIMENTAL=y\n".toList = some content := hread
  obtain rfl := Option.some.inj hcontent
  exact absurd hline (by decide +kernel)

end Bootmux.SafeFlash
