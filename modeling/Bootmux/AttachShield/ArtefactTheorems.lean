/-
Bootmux.AttachShield.ArtefactTheorems — the shield's own files in its
fingerprints.

The fingerprint of an arming is taken before the session has a state file,
that of the close while it has one, and `shield_files` is part of both. So
a close is complete only after an arming that finds the state file of an
earlier session.

Nothing is asked of the host but that its commands leave the shield's files
alone and that saving the state leaves a state file (`KeepsFiles`). What a
session does is a list of commands (`Ran`), so the files are the same until
the arming saves its state, and from then on the state file is among them.
This is enough: the two fingerprints differ in this one field, whatever the
rollback has done.

The Mac of this development is such a host (`keepsFiles_macHost`), and on it
a session in which nothing fails is closed as incomplete.
-/
import Bootmux.AttachShield.CloseTheorems
import Bootmux.AttachShield.RunTheorems

namespace Bootmux.AttachShield

/-- A host whose commands leave the shield's files alone. -/
structure KeepsFiles {σ : Type} (host : Host σ) (stateFile : String) : Prop where
  run : ∀ s c, host.shieldFiles (host.run s c).1 = host.shieldFiles s
  saved : ∀ s, stateFile ∈ host.shieldFiles (host.saveState s)

section Artefacts

variable {σ : Type} {host : Host σ} {stateFile : String}

/-- Commands that a run is allowed keep the files. -/
theorem KeepsFiles.ran (hfiles : KeepsFiles host stateFile) {allowed : Command → Prop}
    {sh after : Shield σ} (h : Ran host allowed sh after) :
    host.shieldFiles after.host = host.shieldFiles sh.host :=
  h.host_invariant (P := fun s => host.shieldFiles s = host.shieldFiles sh.host)
    (fun s c _ hs => (hfiles.run s c).trans hs) rfl

/-- With a pre-value for every entry the rollback has no issue. -/
theorem rollbackIssues_eq_nil {journal : List Entry}
    (h : ∀ e ∈ journal, e.pre.isSome = true) : rollbackIssues journal = [] := by
  rw [rollbackIssues, List.map_eq_nil_iff, List.filter_eq_nil_iff]
  intro entry hentry
  have hsome := h entry (List.mem_reverse.mp hentry)
  cases hpre : entry.pre with
  | none => simp [hpre] at hsome
  | some pre => simp

/-- The arming: its fingerprint is the one of the host before. -/
theorem cmdArm_ran {s : σ} (hwifi : (captureBaseline host s).wifiDevice ≠ "")
    (sessionId : String) (now ttl : ℚ) :
    ∃ sh st, cmdArm host sessionId now ttl s = some (sh.saveState host, st) ∧
      Ran host (fun _ => True) ⟨s, []⟩ sh ∧ st.fingerprint = captureFingerprint host s ∧
      st.untrustedInterfaces = [] := by
  have hother : ∀ c : Command, (∀ service, c ≠ .setServiceEnabled service false) → True :=
    fun _ _ => trivial
  have hstart : Ran host (fun _ => True) ⟨s, []⟩ ⟨s, []⟩ := .refl
  have hisolated := hstart.isolate hother sessionId
  have hquarantined := hisolated.quarantineBootmux hother (captureBaseline host s)
    fun _ _ => trivial
  have hpinned := hquarantined.pinSplitRoutes hother (captureBaseline host s).gateway
    (captureBaseline host s).wifiDevice
  exact ⟨_, _, by simp only [cmdArm, hwifi, if_false]; rfl, hpinned, rfl, rfl⟩

/-- An arming without a state file and the close after it: the result is
`YELLOW_CLOSE_PARTIAL`, on every host and whatever the commands do. -/
theorem fault_free_close_is_yellow (hfiles : KeepsFiles host stateFile) {s : σ}
    (hnew : stateFile ∉ host.shieldFiles s)
    (hwifi : (captureBaseline host s).wifiDevice ≠ "") (sessionId : String) (now ttl : ℚ)
    (force : Bool) :
    ∃ sh st, cmdArm host sessionId now ttl s = some (sh, st) ∧
      (closeSession host force sh st).2.2 = .yellowClosePartial := by
  obtain ⟨sh, st, harm, hran, hfingerprint, huntrusted⟩ := cmdArm_ran hwifi sessionId now ttl
  refine ⟨sh.saveState host, st, harm, ?_⟩
  have hclosed : Ran host (fun _ => True) (sh.saveState host)
      (closeHost host (sh.saveState host) st) :=
    Ran.refl.closeHost (fun _ => trivial) st
  -- No entry lacks a pre-value.
  have hissues : rollbackIssues (sh.saveState host).journal = [] := by
    obtain ⟨entries, hjournal, hentries⟩ := hran.journal
    refine rollbackIssues_eq_nil fun e he => hentries e ?_
    have hsame : (sh.saveState host).journal = entries := hjournal
    rwa [hsame] at he
  -- The state file is in the second fingerprint only.
  have hdiffer : st.fingerprint ≠
      captureFingerprint host (closeHost host (sh.saveState host) st).host := by
    intro hequal
    have hsame : host.shieldFiles s = host.shieldFiles (host.saveState sh.host) :=
      (congrArg Fingerprint.shieldFiles (hfingerprint.symm.trans hequal)).trans
        (hfiles.ran hclosed)
    exact hnew (hsame ▸ hfiles.saved sh.host)
  have hpresent : stillPresent host (sh.saveState host).host st = [] := by
    rw [stillPresent, huntrusted, List.filter_nil]
  rw [closeSession, if_neg fun hrefused => hrefused.2 hpresent]
  simp only [hissues, hdiffer, ne_eq, not_true_eq_false, if_false]

end Artefacts

/-! ## The Mac -/

def stateFilePath : String := "/var/db/bootmux-shield/shield-state.json"

/-- No command of the host writes a file of the shield. -/
theorem shieldFiles_apply (mac : Mac) (command : Command) :
    (mac.apply command).shieldFiles = mac.shieldFiles := by
  cases command with
  | routeDelete family dest gateway => cases gateway <;> rfl
  | pfFlushAnchor anchor =>
      simp only [Mac.apply]
      split <;> rfl
  | _ => rfl

/-- The model of macOS keeps the files that the shield writes itself. -/
theorem keepsFiles_macHost : KeepsFiles macHost stateFilePath where
  run mac command := shieldFiles_apply mac command
  saved mac := by simp [macHost, Mac.shieldFiles, stateFilePath]

/-- `fault_free_close_is_yellow` for a Mac at home. -/
theorem fault_free_close_is_yellow_home :
    ∃ sh st, cmdArm macHost "5f0c1b2a" 0 600 homeMac = some (sh, st) ∧
      (closeSession macHost false sh st).2.2 = .yellowClosePartial :=
  fault_free_close_is_yellow keepsFiles_macHost (by decide +kernel) (by decide +kernel)
    "5f0c1b2a" 0 600 false

/-- A Mac at home is not closed green. -/
theorem home_close_not_green :
    ¬∃ sh st, cmdArm macHost "5f0c1b2a" 0 600 homeMac = some (sh, st) ∧
      (closeSession macHost false sh st).2.2 = .greenCloseComplete := by
  rintro ⟨sh, st, harm, hgreen⟩
  have hresult : (cmdArm macHost "5f0c1b2a" 0 600 homeMac).map
      (fun armed => (closeSession macHost false armed.1 armed.2).2.2) =
        some .yellowClosePartial := by
    decide +kernel
  rw [harm, Option.map_some, hgreen] at hresult
  cases hresult

end Bootmux.AttachShield
