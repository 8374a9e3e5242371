/-
Bootmux.AttachShield.FinalityTheorems — a close while the daemon is in its
loop.

The daemon sees the signal of C1 at the end of its iteration. If it is in
the middle of a recovery when the rollback reads the journal, what it records
after that is not taken back, and if it is when the closed state is saved, the
rest of the recovery follows the close (`home_close_overtaken`). A close is
final if the daemon has nothing left to change when the rollback reads the
journal, and finds nothing in what is left of its iteration
(`close_is_final`).

Up to the rollback only the daemon writes the journal, so the rollback reads
every entry that was recorded (`Recording`). From then on a quiet daemon that
finds nothing records nothing and changes nothing (`Daemon.Quiet.step`), up to
the closed state and after it; `Finishing` is both, with the condition on a
step depending on whether the journal has been read.

The condition (`Settled`) has two parts. When the journal is read the daemon
is `Quiet`: nothing of what is left of its iteration records or changes
anything. From then on an iteration of the daemon finds nothing
(`FindsNothing`), since what a recovery finds after the reading it records
for a rollback that has already begun.

The proof has three parts: what single actions can do (`SetsJournal`,
`SameJournal`, `OnlyReads`), which is shown for each program of the two
parties; the invariant that everything recorded so far is in the journal;
and the invariant of a close that has read it. The run is cut where the
journal is read, and each half is one induction over the turns.
-/
import Bootmux.AttachShield.RenewalTheorems

namespace Bootmux.AttachShield

open Bootmux.Lib

/-! ## What is asked of a run -/

/-- A command that changes the network, an entry, or an armed state file. -/
def Label.mutates : Label → Prop
  | .ran _ | .recorded _ => True
  | .saved st => st.armed = true
  | _ => False

def Label.entry : Label → Option Entry
  | .recorded entry => some entry
  | _ => none

/-- The entries that were recorded. -/
def recordedEntries (seen : List (Party × Label)) : List Entry :=
  seen.filterMap fun out => out.2.entry

/-- The entries that the daemon has recorded. -/
def daemonEntries (seen : List (Party × Label)) : List Entry :=
  seen.filterMap fun out => if out.1 = .daemon then out.2.entry else none

/-- The close has read the journal. -/
def JournalRead (seen : List (Party × Label)) : Prop :=
  ∃ entries, (.call 0, .replaying entries) ∈ seen

/-- The close has saved the closed state. -/
def Closed (seen : List (Party × Label)) : Prop := ∃ st, (.call 0, .saved st) ∈ seen

/-- After the close the daemon changes nothing. The journal that the close reads
has every entry that was recorded until then, and when it saves the closed
state, every entry that the daemon has recorded until then. -/
structure IsFinal (journal : List Entry) (seen : List (Party × Label)) (out : Party × Label) :
    Prop where
  after : Closed seen → out.1 = .daemon → ¬out.2.mutates
  reads : ∀ entries, out = (.call 0, .replaying entries) → entries = journal ++ recordedEntries seen
  saves : ∀ st, out = (.call 0, .saved st) → JournalRead seen ∧
    ∀ entries, (.call 0, .replaying entries) ∈ seen → entries = journal ++ daemonEntries seen

section Final

variable {σ : Type} (host : Host σ)

/-- One close, while the daemon is in its loop with the state that it has
loaded. -/
def closingSystem (w : World σ) (st : ShieldState) (force : Bool) : System σ where
  world := w
  daemon := ⟨st, .sleeping⟩
  calls i := if i = 0 then closeCall host force else pure ()

/-- What the daemon is in the middle of changes nothing any more. -/
def Daemon.Quiet (daemon : Daemon σ) : Prop :=
  ∀ w, daemon.Does (fun _ _ => True) (fun label _ _ => ¬label.mutates) w

/-- A look at the time, at the devices or at the default route that finds
nothing. -/
def FindsNothing (w : World σ) (daemon : Daemon σ) : Prop :=
  match daemon.phase with
  | .sleeping => ¬(daemon.state.armed = true ∧ daemon.state.expiresAt < w.clock)
  | .detecting => detectNewExternalEthernet host w.host daemon.state.baseline = []
  | .drifting => (host.defaultRoute w.host).2 = daemon.state.baseline.wifiDevice
  | _ => True

/-- The daemon is quiet when the close reads the journal, and finds nothing in
the rest of its iteration. -/
def Settled (history : List (Party × Label) × System σ) : Turn σ → Prop
  | .call i => ∀ entries, ((history.2.calls i).step history.2.world).map Prod.fst =
      some (.replaying entries) → history.2.daemon.Quiet
  | .daemon => JournalRead history.1 → FindsNothing host history.2.world history.2.daemon
  | _ => True

/-! ## What the actions do -/

/-- Only a record changes the journal. -/
def SetsJournal (label : Label) (w after : World σ) : Prop :=
  after.journal = w.journal ++ label.entry.toList

def SameJournal (w v : World σ) : Prop := v.journal = w.journal

def Label.isReplay : Label → Prop
  | .replaying _ => True
  | _ => False

/-- Before and at the rollback a close records and saves nothing. -/
structure OnlyReads (label : Label) (w after : World σ) : Prop where
  journal : after.journal = w.journal
  entry : label.entry = none
  saved : ∀ st, label ≠ .saved st
  reads : ∀ entries, label = .replaying entries → entries = w.journal

variable {host}

/-- The commands of the daemon keep its journal or set it. -/
theorem steady_setsJournal : Steady host SameJournal (SetsJournal (σ := σ)) where
  asked w := (List.append_nil w.journal).symm
  ran _ w := (List.append_nil w.journal).symm
  recorded entry _ _ hsame := congrArg (· ++ [entry]) hsame.symm

/-- The daemon never replays. -/
theorem steady_noReplay :
    Steady host (fun _ _ => True) (fun label (_ _ : World σ) => ¬label.isReplay) where
  asked _ := not_false
  ran _ _ := not_false
  recorded _ _ _ _ := not_false

/-- What only reads changes nothing. -/
theorem calm_onlyReads :
    Calm host (fun label (w v : World σ) => ¬label.isReplay ∧ OnlyReads label w v) where
  asked _ := ⟨not_false, rfl, rfl, by simp, by simp⟩
  ran _ _ := ⟨not_false, rfl, rfl, by simp, by simp⟩

/-- A close reads the journal once, as it is then, and records nothing before. -/
theorem upto_closeCall (force : Bool) (w : World σ) :
    (closeCall host force).Upto Label.isReplay OnlyReads (fun label _ _ => ¬label.isReplay) := by
  have hcalm : Calm host (fun label w v => ¬label.isReplay ∧ OnlyReads label w v) := calm_onlyReads
  have hdone : ∀ u : Unit, (pure u : Process σ Unit).Upto Label.isReplay OnlyReads
      (fun label _ _ => ¬label.isReplay) := fun _ => trivial
  refine Prog.Safe.bind_upto (s := w) (hcalm.ask _ w) fun file => ?_
  cases file with
  | none => exact hdone ()
  | some st =>
      dsimp only
      split
      · exact hdone ()
      refine Prog.Upto.bind ?_ (fun _ => hdone ()) (fun _ t => Prog.safe_pure _ t)
      refine Prog.Safe.bind_upto (s := w) (hcalm.ask _ w) fun present => ?_
      split
      · exact trivial
      refine Prog.Safe.bind_upto (s := w) (hcalm.commands _ w) fun _ => ?_
      refine Prog.upto_action (fun _ => trivial) (fun t => ⟨rfl, rfl, by simp, ?_⟩)
        fun journal t => ?_
      · rintro entries ⟨⟩
        rfl
      · exact steady_noReplay.replayed st (fun _ _ _ _ => not_false) journal t

/-! ## The invariants -/

/-- Until the close has read the journal only the daemon records, and every
entry is in the journal. -/
structure Recording (journal : List Entry) (seen : List (Party × Label)) (sys : System σ) :
    Prop where
  before : ¬JournalRead seen → sys.world.journal = journal ++ recordedEntries seen ∧
    recordedEntries seen = daemonEntries seen ∧
    sys.daemon.Does SameJournal SetsJournal sys.world ∧
    (sys.calls 0).Upto Label.isReplay OnlyReads (fun label _ _ => ¬label.isReplay)
  after : JournalRead seen →
    (sys.calls 0).Safe (fun _ _ => True) (fun label _ _ => ¬label.isReplay) sys.world

/-- Nobody else is there. -/
def System.Alone (sys : System σ) : Prop := ∀ i ≠ 0, sys.calls i = pure ()

variable {sys : System σ} {seen : List (Party × Label)}

/-- The daemon does not close the session. -/
theorem closed_append_daemon {labels : List Label} :
    Closed (seen ++ labels.map (Party.daemon, ·)) ↔ Closed seen := by
  simp [Closed]

/-- What the daemon does is no reading of the journal by the close. -/
theorem journalRead_append_daemon {labels : List Label} :
    JournalRead (seen ++ labels.map (Party.daemon, ·)) ↔ JournalRead seen := by
  simp [JournalRead]

/-- A quiet daemon that finds nothing. -/
theorem Daemon.Quiet.step {daemon : Daemon σ} {w : World σ} (hquiet : daemon.Quiet)
    (hnothing : FindsNothing host w daemon) :
    (daemon.step host w).2.1.Quiet ∧ ∀ label ∈ (daemon.step host w).2.2, ¬label.mutates := by
  obtain ⟨st, phase⟩ := daemon
  have hasked : ∀ label ∈ [Label.asked], ¬label.mutates := by simp [Label.mutates]
  have hbetween : ∀ phase : Phase σ, (∀ rest again, phase ≠ .working rest again) →
      (⟨st, phase⟩ : Daemon σ).Quiet :=
    fun phase hphase w rest again hworking => absurd hworking (hphase rest again)
  cases phase with
  | sleeping =>
      simp only [Daemon.step]
      rw [if_neg hnothing]
      exact ⟨hbetween .detecting (by simp), hasked⟩
  | detecting =>
      simp only [Daemon.step]
      have hnone : detectNewExternalEthernet host w.host st.baseline = [] := hnothing
      rw [if_neg (not_not.mpr hnone)]
      exact ⟨hbetween .drifting (by simp), hasked⟩
  | drifting =>
      simp only [Daemon.step]
      have hsame : (host.defaultRoute w.host).2 = st.baseline.wifiDevice := hnothing
      rw [if_neg (not_not.mpr hsame)]
      exact ⟨fun _ => Daemon.Does.loop w.stop, hasked⟩
  | working rest again =>
      simp only [Daemon.step]
      cases hstep : rest.step w with
      | some next =>
          obtain ⟨label, after, rest'⟩ := next
          obtain ⟨haction, hrest⟩ := (hquiet w rest again rfl).step trivial hstep
          refine ⟨fun v => ?_, by simpa using haction⟩
          rintro rest again ⟨⟩
          exact hrest.others (fun _ _ _ _ _ => trivial) trivial
      | none =>
          cases again with
          | true => exact ⟨fun _ => Daemon.Does.loop w.stop, by simp⟩
          | false => exact ⟨hbetween .stopped (by simp), by simp⟩
  | stopped => exact ⟨hquiet, by simp [Daemon.step]⟩

@[simp] theorem recordedEntries_append (seen out : List (Party × Label)) :
    recordedEntries (seen ++ out) = recordedEntries seen ++ recordedEntries out :=
  List.filterMap_append

theorem recordedEntries_single (party : Party) (label : Label) :
    recordedEntries [(party, label)] = label.entry.toList := by
  cases h : label.entry <;> simp [recordedEntries, h]

theorem sameJournal_trans (a b c : World σ) (hab : SameJournal a b) (hbc : SameJournal b c) :
    SameJournal a c := hbc.trans hab

@[simp] theorem daemonEntries_append (seen out : List (Party × Label)) :
    daemonEntries (seen ++ out) = daemonEntries seen ++ daemonEntries out :=
  List.filterMap_append

@[simp] theorem daemonEntries_call (i : Nat) (label : Label) :
    daemonEntries [(.call i, label)] = [] := by
  simp [daemonEntries]

theorem daemonEntries_daemon (labels : List Label) :
    daemonEntries (labels.map (Party.daemon, ·)) =
      recordedEntries (labels.map (Party.daemon, ·)) := by
  simp [daemonEntries, recordedEntries, List.filterMap_map]

/-- A daemon that changes nothing records nothing. -/
theorem daemonEntries_quiet {labels : List Label} (h : ∀ label ∈ labels, ¬label.mutates) :
    daemonEntries (labels.map (Party.daemon, ·)) = [] := by
  rw [daemonEntries_daemon, recordedEntries, List.filterMap_map, List.filterMap_eq_nil_iff]
  intro label hlabel
  cases label with
  | recorded entry => exact absurd trivial (h _ hlabel)
  | _ => rfl

/-- One step of the daemon. -/
theorem Recording.daemon {journal : List Entry} (h : Recording journal seen sys) :
    let next := sys.daemon.step host sys.world
    Recording journal (seen ++ next.2.2.map (Party.daemon, ·))
      { sys with world := next.1, daemon := next.2.1 } := by
  constructor
  · intro hnot
    obtain ⟨hjournal, hsame, hdoes, hupto⟩ := h.before (mt journalRead_append_daemon.mpr hnot)
    have hsteady : Steady host SameJournal SetsJournal := steady_setsJournal
    obtain ⟨hdoes, -, hshown⟩ := hsteady.daemon
      (fun w => (List.append_nil w.journal).symm) sys.daemon
      (fun w _ _ => (List.append_nil w.journal).symm) (fun _ => rfl) hdoes
    refine ⟨?_, by rw [recordedEntries_append, daemonEntries_append, hsame, daemonEntries_daemon],
      hdoes, hupto⟩
    rcases hshown with ⟨hnone, hsame⟩ | ⟨hexpired, hsame, -⟩ | ⟨label, hone, hset⟩
    · simpa [hnone, hsame, recordedEntries] using hjournal
    · simpa [hexpired, hsame, recordedEntries, Label.entry] using hjournal
    · rw [hone, List.map_singleton, recordedEntries_append, recordedEntries_single,
        ← List.append_assoc, ← hjournal]
      exact hset
  · intro hread
    exact (h.after (journalRead_append_daemon.mp hread)).others (fun _ _ _ _ _ => trivial) trivial

/-- One action of the close. -/
theorem Recording.close {journal : List Entry} (h : Recording journal seen sys)
    {label : Label} {after : World σ} {rest : Process σ Unit}
    (hstep : (sys.calls 0).step sys.world = some (label, after, rest)) :
    Recording journal (seen ++ [(.call 0, label)])
        { sys with world := after, calls := Function.update sys.calls 0 rest } ∧
      (∀ entries, label = .replaying entries →
        entries = journal ++ recordedEntries seen ∧ recordedEntries seen = daemonEntries seen) ∧
      ∀ st, label = .saved st → JournalRead seen := by
  have hread : JournalRead (seen ++ [(.call 0, label)]) ↔ JournalRead seen ∨ label.isReplay := by
    cases label <;> simp [JournalRead, Label.isReplay]
  by_cases hseen : JournalRead seen
  · obtain ⟨hlabel, hrest⟩ := (h.after hseen).step trivial hstep
    refine ⟨⟨fun hnot => absurd (hread.mpr (.inl hseen)) hnot, fun _ => by simpa using hrest⟩,
      ?_, fun _ _ => hseen⟩
    rintro entries rfl
    exact absurd trivial hlabel
  · obtain ⟨hjournal, hsame, hdoes, hupto⟩ := h.before hseen
    obtain ⟨honly, hnext⟩ := hupto.step hstep
    refine ⟨⟨fun hnot => ?_, fun hyes => ?_⟩,
      fun entries heq => ⟨(honly.reads entries heq).trans hjournal, hsame⟩,
      fun st heq => absurd heq (honly.saved st)⟩
    · obtain ⟨-, hupto⟩ := hnext.resolve_left fun hyes => hnot (hread.mpr (.inr hyes.1))
      refine ⟨?_, ?_, hdoes.others sameJournal_trans honly.journal, by simpa using hupto⟩
      · rw [recordedEntries_append, recordedEntries_single, honly.entry]
        simpa [honly.journal] using hjournal
      · rw [recordedEntries_append, recordedEntries_single, honly.entry, daemonEntries_append,
          hsame]
        simp
    · obtain ⟨-, hsafe⟩ := hnext.resolve_right fun hno =>
        hno.1 ((hread.mp hyes).resolve_left hseen)
      simpa using hsafe

/-- Once the close has read the journal the daemon is quiet, and has recorded
what the close has read and nothing more. -/
structure Finishing (journal : List Entry) (seen : List (Party × Label)) (sys : System σ) :
    Prop where
  recording : Recording journal seen sys
  quiet : JournalRead seen → sys.daemon.Quiet
  kept : ∀ entries, (.call 0, .replaying entries) ∈ seen → entries = journal ++ daemonEntries seen
  closed : Closed seen → JournalRead seen
  alone : sys.Alone
  final : Machine.Always (IsFinal journal) [] seen

/-- The clock and the host change. -/
theorem Finishing.world {journal : List Entry} (h : Finishing journal seen sys) {after : World σ}
    (hjournal : after.journal = sys.world.journal) :
    Finishing journal seen { sys with world := after } := by
  refine ⟨⟨fun hnot => ?_, fun hyes => ?_⟩, h.quiet, h.kept, h.closed, h.alone, h.final⟩
  · obtain ⟨hbefore, hsame, hdoes, hupto⟩ := h.recording.before hnot
    exact ⟨hjournal.trans hbefore, hsame, hdoes.others sameJournal_trans hjournal, hupto⟩
  · exact (h.recording.after hyes).others (fun _ _ _ _ _ => trivial) trivial

/-- What the daemon shows, if it is quiet once the session is closed. -/
theorem always_shown {journal : List Entry} {labels : List Label}
    (h : Closed seen → ∀ label ∈ labels, ¬label.mutates) :
    Machine.Always (IsFinal journal) seen (labels.map (Party.daemon, ·)) := by
  rw [Machine.always_iff_split]
  intro A out B hsplit
  obtain ⟨label, hlabel, rfl⟩ : ∃ label ∈ labels, (Party.daemon, label) = out :=
    List.mem_map.mp (hsplit ▸ by simp)
  obtain ⟨before, after, -, hbefore, -⟩ := List.map_eq_append_iff.mp hsplit
  refine ⟨fun hclosed _ => h ?_ label hlabel, by simp, by simp⟩
  rw [← hbefore] at hclosed
  exact closed_append_daemon.mp hclosed

/-- One step of the daemon. -/
theorem Finishing.daemon {journal : List Entry} (h : Finishing journal seen sys)
    (hsettled : JournalRead seen → FindsNothing host sys.world sys.daemon) :
    let next := sys.daemon.step host sys.world
    Finishing journal (seen ++ next.2.2.map (Party.daemon, ·))
      { sys with world := next.1, daemon := next.2.1 } := by
  intro next
  have hquiet (hread : JournalRead seen) :
      next.2.1.Quiet ∧ ∀ label ∈ next.2.2, ¬label.mutates :=
    (h.quiet hread).step (hsettled hread)
  refine ⟨h.recording.daemon, fun hread => (hquiet (journalRead_append_daemon.mp hread)).1,
    fun entries hentries => ?_, fun hclosed => ?_, h.alone,
    (Machine.always_append _ _ _ _).mpr ⟨h.final, ?_⟩⟩
  · have hseen : (Party.call 0, Label.replaying entries) ∈ seen := by simpa using hentries
    rw [daemonEntries_append, daemonEntries_quiet (hquiet ⟨entries, hseen⟩).2, List.append_nil]
    exact h.kept entries hseen
  · exact journalRead_append_daemon.mpr (h.closed (closed_append_daemon.mp hclosed))
  · exact always_shown fun hclosed => (hquiet (h.closed hclosed)).2

/-- One action of the close. -/
theorem Finishing.close {journal : List Entry} (h : Finishing journal seen sys)
    {label : Label} {after : World σ} {rest : Process σ Unit}
    (hsettled : ∀ entries, label = .replaying entries → sys.daemon.Quiet)
    (hstep : (sys.calls 0).step sys.world = some (label, after, rest)) :
    Finishing journal (seen ++ [(.call 0, label)])
      { sys with world := after, calls := Function.update sys.calls 0 rest } := by
  obtain ⟨hrecording, hreads, hsaves⟩ := h.recording.close hstep
  have hmem {out : Label} (hout : (Party.call 0, out) ∈ seen ++ [(.call 0, label)]) :
      (Party.call 0, out) ∈ seen ∨ label = out := by
    simpa [eq_comm] using hout
  refine ⟨hrecording, ?_, ?_, ?_, fun j hj => ?_,
    (Machine.always_append _ _ _ _).mpr ⟨h.final, ⟨by simp, ?_, ?_⟩, trivial⟩⟩
  · rintro ⟨entries, hentries⟩
    exact (hmem hentries).elim (fun hseen => h.quiet ⟨entries, hseen⟩) (hsettled entries)
  · intro entries hentries
    rw [daemonEntries_append, daemonEntries_call, List.append_nil]
    rcases hmem hentries with hseen | heq
    · exact h.kept entries hseen
    · exact (hreads entries heq).2 ▸ (hreads entries heq).1
  · rintro ⟨st, hst⟩
    have hread : JournalRead seen :=
      (hmem hst).elim (fun hseen => h.closed ⟨st, hseen⟩) (hsaves st)
    obtain ⟨entries, hentries⟩ := hread
    exact ⟨entries, List.mem_append_left _ hentries⟩
  · simpa [hj] using h.alone j hj
  · rintro entries ⟨⟩
    exact (hreads entries rfl).1
  · rintro st ⟨⟩
    exact ⟨hsaves st rfl, h.kept⟩

/-- One turn of either party leaves the close as far as it was, or further. -/
theorem Finishing.step {journal : List Entry} (h : Finishing journal seen sys) (init : System σ)
    {turn : Turn σ} (hturn : Settled host (seen, sys) turn) :
    Finishing journal (seen ++ ((systemMachine host init).step sys turn).2)
      ((systemMachine host init).step sys turn).1 := by
  cases turn with
  | daemon => exact h.daemon hturn
  | call i =>
      simp only [systemMachine]
      cases hstep : (sys.calls i).step sys.world with
      | none => simpa using h
      | some next =>
          obtain ⟨label, after, rest⟩ := next
          obtain rfl : i = 0 := by
            by_contra hi
            rw [h.alone i hi] at hstep
            cases hstep
          refine h.close (fun entries heq => hturn entries ?_) hstep
          simp [hstep, heq]
  | clock now =>
      have hnow : Finishing journal seen { sys with world := { sys.world with clock := now } } :=
        h.world rfl
      simpa [systemMachine] using hnow
  | host s =>
      have hchanged : Finishing journal seen { sys with world := { sys.world with host := s } } :=
        h.world rfl
      simpa [systemMachine] using hchanged

end Final

/-- **A close is final** if the daemon is quiet when the close reads the journal
and finds nothing in the rest of its iteration. -/
theorem close_is_final {σ : Type} (host : Host σ) (w : World σ) (st : ShieldState) (force : Bool)
    (turns : List (Turn σ))
    (hturns : (systemMachine host (closingSystem host w st force)).withHistory.AllSteps
      (Settled host) ([], closingSystem host w st force) turns) :
    Machine.Always (IsFinal w.journal) []
      ((systemMachine host (closingSystem host w st force)).trace turns) := by
  have hinit : Finishing w.journal [] (closingSystem host w st force) := by
    refine ⟨⟨fun _ => ⟨?_, rfl, ?_, upto_closeCall force w⟩, ?_⟩, ?_, by simp, ?_,
      fun i hi => if_neg hi, trivial⟩
    · exact (List.append_nil w.journal).symm
    · rintro rest again ⟨⟩
    · rintro ⟨entries, hentries⟩
      cases hentries
    · rintro ⟨entries, hentries⟩
      cases hentries
    · rintro ⟨st, hst⟩
      cases hst
  exact ((systemMachine host (closingSystem host w st force)).history_invariant_of hinit
    (fun seen sys turn h hturn => h.step _ hturn) turns hturns).final

/-! ## A close that is overtaken -/

/-- A forced close, action by action. -/
def forcedClose : List (Turn Mac) := List.replicate 8 (.call 0)

instance {σ : Type} (host : Host σ) (w : World σ) (daemon : Daemon σ) :
    Decidable (FindsNothing host w daemon) :=
  match daemon with
  | ⟨_, .sleeping⟩ => inferInstanceAs (Decidable (¬(_ ∧ _)))
  | ⟨_, .detecting⟩ => inferInstanceAs (Decidable (_ = _))
  | ⟨_, .drifting⟩ => inferInstanceAs (Decidable (_ = _))
  | ⟨_, .working _ _⟩ | ⟨_, .stopped⟩ => inferInstanceAs (Decidable True)

/-- The daemon of a Mac at home ends its iteration after the close. -/
theorem close_is_final_home :
    Machine.Always (IsFinal []) []
      ((systemMachine macHost (closingSystem macHost homeWorld homeState true)).trace
        (forcedClose ++ [.daemon, .daemon, .daemon])) := by
  refine close_is_final macHost homeWorld homeState true _ ?_
  rw [Machine.allSteps_append]
  refine ⟨⟨?_, ?_, ?_, ?_, ?_, ?_, ?_, ?_, trivial⟩, fun _ => ?_, fun _ => ?_, fun _ => ?_, trivial⟩
  -- The eight actions of the close meet a daemon that sleeps.
  iterate 8 exact fun _ _ _ rest again hworking => by cases hworking
  all_goals decide +kernel

/-- A device comes and the daemon finds it, but has not yet saved its state. -/
def found : List (Turn Mac) :=
  [.host (homeMac.attach "en7" "USB Ethernet" [] []), .daemon, .daemon]

/-- The daemon arms the closed session again. -/
theorem home_close_overtaken :
    ¬∀ turns : List (Turn Mac), Machine.Always (IsFinal []) []
      ((systemMachine macHost (closingSystem macHost homeWorld homeState true)).trace turns) := by
  intro hfinal
  have halways := hfinal (found ++ forcedClose ++ [.daemon])
  rw [Machine.trace_concat, Machine.always_append] at halways
  have hclosed : ((systemMachine macHost (closingSystem macHost homeWorld homeState true)).trace
      (found ++ forcedClose)).any (fun out => match out with
        | (.call 0, .saved _) => true
        | _ => false) = true := by
    decide +kernel
  obtain ⟨⟨party, label⟩, hout, hlabel⟩ := List.any_eq_true.mp hclosed
  have hseen : Closed ((systemMachine macHost (closingSystem macHost homeWorld homeState
      true)).trace (found ++ forcedClose)) := by
    split at hlabel
    · rename_i st heq
      exact ⟨st, heq ▸ hout⟩
    · cases hlabel
  exact halways.2.1.1 hseen rfl rfl

end Bootmux.AttachShield
