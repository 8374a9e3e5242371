/-
Bootmux.AttachShield.RefusalTheorems — a close that is not forced while a
device is there.

The refusal goes by the interfaces that the session has recorded, not by the
hardware ports: a device that nobody has recorded yet does not stop a close.
Before it comes to the refusal a close reads the numbers of the journal, and
raises if it cannot compare them (`close_refuses_iff`). What the daemon has
found is recorded before anything else, and stops it (`close_refuses_found`).

The order of the checks is that of the source. The numbers are read when the
journal object is made, before any check; the refusal itself is made before
anything is rolled back, and leaves host, journal and state as they are.

`numbersCompare` is a condition on the lines of the file: every `seq` that
stands in one of them is a number. A journal that the program has written
always meets it.
-/
import Bootmux.AttachShield.InnocentTheorems
import Bootmux.AttachShield.JournalFile
import Bootmux.AttachShield.RenewalTheorems

namespace Bootmux.AttachShield

open Bootmux.Lib

section Refusal

variable {σ : Type} (host : Host σ)

/-- A device is there: one that is new to the session's baseline, or one that
is recorded and still listed. -/
def DevicePresent (s : σ) (st : ShieldState) : Prop :=
  detectNewExternalEthernet host s st.baseline ≠ [] ∨ stillPresent host s st ≠ []

/-- A close is refused: on the lines of the journal it answers so and has run no
command, and of its actions all only ask, so that the host, the journal and the
state file are as before. -/
structure Refuses (w : World σ) (lines : List Line) (st : ShieldState) : Prop where
  answer : closeLines host.logged false (w.host, []) lines st =
    some ((w.host, []), .refusedDevicePresent)
  same : (closeProcess host false st).run w = (w, .refusedDevicePresent)
  asks : ∀ label ∈ (closeProcess host false st).labels w, label = .asked

variable {host} {w : World σ} {lines : List Line} {st : ShieldState}

/-- With the device there, the close does nothing at all. -/
theorem run_closeProcess_refused (hpresent : stillPresent host w.host st ≠ []) :
    (closeProcess host false st).run w = (w, .refusedDevicePresent) := by
  have hrefused : (!false) = true ∧
      ((ask fun w : World σ => stillPresent host w.host st).run w).2 ≠ [] := ⟨rfl, hpresent⟩
  rw [closeProcess, Prog.run_bind, if_pos hrefused]
  rfl

/-- A close that can read its journal refuses. -/
theorem refuses_of_stillPresent (hpresent : stillPresent host w.host st ≠ [])
    (hnumbers : numbersCompare lines = true) : Refuses host w lines st := by
  have hrefused : (!false) = true ∧
      ((ask fun w : World σ => stillPresent host w.host st).run w).2 ≠ [] := ⟨rfl, hpresent⟩
  have hlogged : (!false) = true ∧ stillPresent host.logged (w.host, []) st ≠ [] :=
    ⟨rfl, hpresent⟩
  refine ⟨?_, run_closeProcess_refused hpresent, ?_⟩
  · rw [closeLines, if_neg (by simp [hnumbers]), if_pos hlogged]
  · rw [closeProcess, Prog.labels_bind, if_pos hrefused]
    simp [ask, Prog.action, Prog.labels]

/-- The constructor of the journal raises before anything else. -/
theorem numbersCompare_of_refuses (h : Refuses host w lines st) : numbersCompare lines = true := by
  by_contra hnumbers
  have hanswer := h.answer
  rw [closeLines, if_pos (by simpa using hnumbers)] at hanswer
  cases hanswer

theorem stillPresent_of_refuses (h : Refuses host w lines st) :
    stillPresent host w.host st ≠ [] := by
  intro habsent
  have hclosed := congrArg Prod.snd (run_closeProcess host false st w)
  have hresult : (closeSession host false w.shield st).2.2 = .refusedDevicePresent := by
    rw [← hclosed, view, h.same]
  rw [closeSession, if_neg fun hrefused => hrefused.2 habsent] at hresult
  simp only at hresult
  split at hresult
  · cases hresult
  · split at hresult <;> cases hresult

/-- What the daemon has found and saved stops a close, as long as it is
listed. -/
theorem close_refuses_found
    (hfound : detectNewExternalEthernet host w.host st.baseline ≠ [])
    (hnumbers : numbersCompare lines = true) :
    Refuses host w lines { st with
      untrustedInterfaces :=
        st.untrustedInterfaces ∪ detectNewExternalEthernet host w.host st.baseline } := by
  refine refuses_of_stillPresent ?_ hnumbers
  obtain ⟨device, hdevice⟩ := List.exists_mem_of_ne_nil _ hfound
  refine List.ne_nil_of_mem (a := device) (List.mem_filter.mpr ⟨?_, ?_⟩)
  · exact List.mem_union_iff.mpr (.inr hdevice)
  · obtain ⟨port, hport, rfl⟩ := List.mem_map.mp hdevice
    simpa using ⟨port.2, (List.mem_filter.mp hport).1⟩

end Refusal

/-- A close refuses a device that is there if and only if the session has
recorded one that is listed and the numbers in the journal can be compared. -/
theorem close_refuses_iff {σ : Type} (host : Host σ) (w : World σ) (lines : List Line)
    (st : ShieldState) :
    (DevicePresent host w.host st → Refuses host w lines st) ↔
      (detectNewExternalEthernet host w.host st.baseline = [] ∧
          stillPresent host w.host st = []) ∨
        (stillPresent host w.host st ≠ [] ∧ numbersCompare lines = true) := by
  constructor
  · intro h
    by_cases hpresent : DevicePresent host w.host st
    · exact .inr ⟨stillPresent_of_refuses (h hpresent), numbersCompare_of_refuses (h hpresent)⟩
    · exact .inl ⟨not_not.mp fun hfound => hpresent (.inl hfound),
        not_not.mp fun hlisted => hpresent (.inr hlisted)⟩
  · rintro (⟨hnone, habsent⟩ | ⟨hpresent, hnumbers⟩) hdevice
    · exact absurd habsent (hdevice.resolve_left (not_not.mpr hnone))
    · exact refuses_of_stillPresent hpresent hnumbers

/-- A device has come and the daemon has not looked since. -/
def visitedWorld : World Mac :=
  { homeWorld with host := homeMac.attach "en7" "USB Ethernet" [] [] }

/-- The session is closed while the device is there. -/
theorem home_close_not_refused :
    ¬(DevicePresent macHost visitedWorld.host homeState →
      Refuses macHost visitedWorld (encodeJournal visitedWorld.journal) homeState) := by
  intro h
  have hpresent : DevicePresent macHost visitedWorld.host homeState := .inl (by decide +kernel)
  exact absurd (by decide +kernel) (stillPresent_of_refuses (h hpresent))

end Bootmux.AttachShield
