/-
Bootmux.Lib.ReassemblyRuns — the reassembly buffer inside a machine.

A `View` says where a machine keeps a reassembly buffer and that each of
its steps leaves the buffer alone, empties it, or is one reception of
the part its event carries. `NoMixing` is the promise over whole runs:
every stored part was carried by the event of its step, and every
assembled message consists of parts with its key, its part count and
the session in force, stored since the last clear or completion.

`noMixing_run` proves the promise for the runs whose steps are
`Distinct`: no part arrives under the idle key `0`, and none arrives for
a message that the buffer holds complete already and that would be used
again.
-/
import Bootmux.Lib.Machine
import Bootmux.Lib.Reassembly

namespace Bootmux.Lib.Reassembly

variable {σ ε ο κ τ α β : Type} {cap : Nat}
variable [Zero κ] [DecidableEq κ] [Zero τ] [Inhabited β]

/-- What a step may do to a buffer: leave it and the session alone,
empty it, or receive the part its event carries. -/
def BufferStep (session session' : α) (b b' : Buffer cap κ τ β)
    (marks : List (Mark cap κ α β)) (carried : Option (Part cap κ α β))
    (ending : κ → Ending) : Prop :=
  (marks = [] ∧ b' = b ∧ session' = session) ∨
  (b' = Buffer.empty ∧ ∀ mark ∈ marks, mark = .clear) ∨
  (∃ p now expired, carried = some p ∧ p.origin = session ∧ session' = session ∧
    (b', marks) = b.receive now expired p (ending p.key))

/-- A reassembly buffer of the machine `m`: how its marks, its contents,
the session in force and the part of an event are read off, and how a
complete message ends. -/
structure View (m : Machine σ ε ο) (cap : Nat) (κ τ α β : Type)
    [Zero κ] [DecidableEq κ] [Zero τ] [Inhabited β] where
  marks : List ο → List (Mark cap κ α β)
  buffer : σ → Buffer cap κ τ β
  session : σ → α
  carried : ε → Option (Part cap κ α β)
  ending : σ → κ → Ending
  marks_append : ∀ t u, marks (t ++ u) = marks t ++ marks u
  marks_nil : marks [] = []
  buffer_init : buffer m.init = Buffer.empty
  step : ∀ s e, BufferStep (session s) (session (m.step s e).1) (buffer s)
    (buffer (m.step s e).1) (marks (m.step s e).2) (carried e) (ending s)

namespace View

variable {m : Machine σ ε ο} (v : View m cap κ τ α β)

/-- No part of the step is under the idle key, and none is for a message
that is complete already and would be used again. -/
def Distinct (s : σ) (e : ε) : Prop :=
  ∀ p, v.carried e = some p → p.origin = v.session s →
    p.key ≠ 0 ∧ ¬ ((v.buffer s).holdsComplete p = true ∧ v.ending s p.key = .used)

instance [DecidableEq α] (s : σ) (e : ε) : Decidable (v.Distinct s e) :=
  inferInstanceAs (Decidable (∀ p ∈ v.carried e, p.origin = v.session s →
    p.key ≠ 0 ∧ ¬ ((v.buffer s).holdsComplete p = true ∧ v.ending s p.key = .used)))

/-- Along the run `es`, stored parts come from the events of their steps
and assembled messages are never mixed. -/
def NoMixing (es : List ε) : Prop :=
  ∀ before e after, es = before ++ e :: after →
    (∀ p, .store p ∈ v.marks (m.step (m.run before) e).2 →
      v.carried e = some p ∧ p.origin = v.session (m.run before)) ∧
    (∀ A key parts B, v.marks (m.step (m.run before) e).2 = A ++ .assemble key parts :: B →
      ∀ i < parts.length, ∃ p : Part cap κ α β,
        Fresh Mark.ends (v.marks (m.trace before) ++ A) p ∧ p.index = i ∧
          parts[i]? = some p.payload ∧ p.key = key ∧ p.total = parts.length ∧
          p.origin = v.session (m.run before))

/-- The marks of a run explain what the buffer holds. -/
theorem oneMessage_step (t : List ο) (s : σ) (e : ε)
    (h : OneMessage (v.session s) (v.marks t) (v.buffer s)) (hd : v.Distinct s e) :
    OneMessage (v.session (m.step s e).1) (v.marks (t ++ (m.step s e).2))
      (v.buffer (m.step s e).1) := by
  rw [v.marks_append]
  rcases v.step s e with ⟨hm, hb, hs⟩ | ⟨hb, _⟩ | ⟨p, now, expired, hc, hp, hs, hr⟩
  · rw [hm, hb, hs, List.append_nil]; exact h
  · rw [hb]; exact oneMessage_empty _ _
  · obtain ⟨hbuf, hmarks⟩ := Prod.mk.injEq .. ▸ hr
    rw [hbuf, hmarks, hs]
    exact receive_oneMessage h now expired hp (hd p hc hp).1 _

/-- **No mixing along a run of distinct steps.** -/
theorem noMixing_run (es : List ε) (h : m.AllSteps v.Distinct m.init es) : v.NoMixing es := by
  rintro before e after rfl
  have hinv : OneMessage (v.session (m.run before)) (v.marks (m.trace before))
      (v.buffer (m.run before)) := by
    refine m.history_invariant (P := v.Distinct)
      (I := fun t s => OneMessage (v.session s) (v.marks t) (v.buffer s)) ?_
      v.oneMessage_step before (m.allSteps_left h)
    rw [v.buffer_init, v.marks_nil]
    exact oneMessage_empty _ _
  have hd : v.Distinct (m.run before) e := ((m.allSteps_append _ _ _ _).mp h).2.1
  rcases v.step (m.run before) e with ⟨hm, _, _⟩ | ⟨_, hclear⟩ |
    ⟨p, now, expired, hc, hp, _, hr⟩
  · rw [hm]; simp
  · refine ⟨fun p hp => absurd (hclear _ hp) (by simp), fun A key parts B hsplit => ?_⟩
    exact absurd (hclear (.assemble key parts) (by rw [hsplit]; simp)) (by simp)
  · obtain ⟨_, hmarks⟩ := Prod.mk.injEq .. ▸ hr
    rw [hmarks]
    refine ⟨fun q hq => ?_, fun A key parts B hsplit => ?_⟩
    · rw [receive_store hq]; exact ⟨hc, hp⟩
    · exact (receive_assemble hinv hp (hd p hc hp).2 hsplit).2.2

end View

end Bootmux.Lib.Reassembly
