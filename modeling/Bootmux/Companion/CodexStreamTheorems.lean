/-
Bootmux.Companion.CodexStreamTheorems — the order of the Codex messages of
a session.

A client expects blocks: `codex_started`, outputs, one last message, run
after run. Three steps can break this. The output of a process is copied
from `cmd.Start` on, before `codex_started` is sent; `codex_started` is
lost when the queue is full; and a run is released before its last
message is sent, so the next one can be announced in between.
`stream_well_formed` is about the sessions in which none of them does.

The invariant (`Streams`) says that the messages come sorted by their runs,
and of each run how far its own have come (`Stage`): none before it is
announced, an open block while it goes on, a whole one at its end. A step
that sends a message of a run belongs to one of few kinds, announcing,
output and the last message, and for each of them one lemma carries the
invariant over; every other step leaves the messages alone.

`inOrder` is the condition on a step: it names the positions of the
goroutines and the room in the queue, before the step is taken.
-/
import Bootmux.Lib.Tagged
import Bootmux.Companion.CodexTheorems

namespace Bootmux.Companion

open Bootmux.Lib

/-! ## Blocks -/

/-- A Codex message other than the two errors that are sent without a
process. -/
def isCodexEvent (m : ServerMessage) : Bool :=
  match m.type with
  | .codexStarted | .codexOutput | .codexExit => true
  | .codexError => m.error ≠ some .codexBusy ∧ m.error ≠ some .codexStartFailed
  | _ => false

def Effect.codexEvent : Effect → Option ServerMessage
  | .enqueued _ item => if isCodexEvent item.message then some item.message else none
  | _ => none

/-- The Codex messages in the order they were enqueued. -/
def codexEvents (t : List Effect) : List ServerMessage := t.filterMap Effect.codexEvent

/-- The same with the number of the run. -/
def runEvents (t : List Effect) : List (Nat × ServerMessage) :=
  (codexSent t).filter fun x => isCodexEvent x.2

/-- The messages of a run that is not over: `codex_started` and outputs. -/
def IsOpen (requestID : Bytes) (ms : List ServerMessage) : Prop :=
  ∃ first outputs, ms = first :: outputs ∧ first.type = .codexStarted ∧
    (∀ m ∈ outputs, m.type = .codexOutput) ∧ ∀ m ∈ ms, m.requestID = requestID

/-- The messages of a run: open, or with a last one. -/
def IsBlock (requestID : Bytes) (ms : List ServerMessage) : Prop :=
  IsOpen requestID ms ∨
    ∃ body last, ms = body ++ [last] ∧ IsOpen requestID body ∧
      (last.type = .codexExit ∨ last.type = .codexError) ∧ last.requestID = requestID

/-- `codex_started` opens a block. -/
theorem isOpen_started {m : ServerMessage} (h : m.type = .codexStarted) : IsOpen m.requestID [m] :=
  ⟨m, [], rfl, h, by simp, by simp⟩

/-- An output goes on with it. -/
theorem IsOpen.output {requestID : Bytes} {ms : List ServerMessage} (h : IsOpen requestID ms)
    {m : ServerMessage} (hm : m.type = .codexOutput) (hid : m.requestID = requestID) :
    IsOpen requestID (ms ++ [m]) := by
  obtain ⟨first, outputs, rfl, hfirst, houtputs, hids⟩ := h
  refine ⟨first, outputs ++ [m], by simp, hfirst, fun x hx => ?_, fun x hx => ?_⟩
  · rcases List.mem_append.mp hx with hx | hx
    · exact houtputs x hx
    · rw [List.mem_singleton.mp hx]; exact hm
  · rcases List.mem_append.mp hx with hx | hx
    · exact hids x hx
    · rw [List.mem_singleton.mp hx]; exact hid

/-- The last message of a run belongs to its block. -/
theorem Concludes.isCodexEvent {r : CodexRun} {sessionID : Bytes} {m : ServerMessage}
    (h : Concludes r sessionID m) : isCodexEvent m = true := by
  unfold Companion.isCodexEvent
  rcases h.type with htype | ⟨htype, hbusy, hfailed⟩
  · simp [htype]
  · simp [htype, hbusy, hfailed]

/-! ## The condition -/

/-- Run `i` has a process and `codex_started` has been sent for it. -/
def announced (v : CodexView) (i : Nat) : Bool :=
  (v.runs[i]?).any (·.hasProcess) && v.run ≠ .announce i

/-- The step keeps the blocks apart: `codex_started` finds room, no output
is sent before it, and no last message after the `codex_started` of a
later run. -/
def inOrder (cfg : Config) (s : Session) (e : SessionEvent) : Bool :=
  match e with
  | .run =>
      match s.run with
      | .announce _ => s.accepts cfg
      | _ => true
  | .codex i (.write data) =>
      (s.runs[i]?).all fun r =>
        r.copier ≠ .copying ∨ data = [] ∨ defaultCodexOutput < r.total + data.length ∨
          s.accepts cfg = false ∨ s.run ≠ .announce i
  | .codex i (.wait _) =>
      (s.runs[i]?).all fun r =>
        r.wait ≠ .terminal ∨ r.terminalMessage cfg.sessionID = none ∨ s.accepts cfg = false ∨
          (List.range s.runs.length).all fun j => j ≤ i ∨ announced s.codex j = false
  | _ => true

/-! ## The invariant -/

/-- What has been sent for run `i`, as far as it is. -/
structure Stage (v : CodexView) (i : Nat) (r : CodexRun) (ms : List ServerMessage) : Prop where
  before : r.hasProcess = false ∨ v.run = .announce i → ms = []
  opened : r.hasProcess = true → v.run ≠ .announce i → r.wait ≠ .done → IsOpen r.requestID ms
  block : r.hasProcess = true → v.run ≠ .announce i → IsBlock r.requestID ms

/-- A step that sends nothing for the run and does not announce it. -/
theorem Stage.keep {v w : CodexView} {i : Nat} {r r' : CodexRun} {ms : List ServerMessage}
    (h : Stage v i r ms) (hpc : w.run = .announce i ↔ v.run = .announce i)
    (hprocess : r'.hasProcess = r.hasProcess) (hid : r'.requestID = r.requestID)
    (hwait : r.wait = .done → r'.wait = .done) : Stage w i r' ms := by
  refine ⟨fun hbefore => ?_, fun hp hrun hdone => ?_, fun hp hrun => ?_⟩
  · rw [hprocess, hpc] at hbefore
    exact h.before hbefore
  · rw [hid]
    exact h.opened (hprocess ▸ hp) (mt hpc.mpr hrun) (mt hwait hdone)
  · rw [hid]
    exact h.block (hprocess ▸ hp) (mt hpc.mpr hrun)

/-- The messages so far, in the order of the runs. -/
structure Streams (v : CodexView) (l : List (Nat × ServerMessage)) : Prop where
  sorted : l.Pairwise fun x y => x.1 ≤ y.1
  bound : ∀ x ∈ l, x.1 < v.runs.length
  stage : ∀ {i : Nat} {r : CodexRun}, v.runs[i]? = some r → Stage v i r (part i l)

namespace Streams

variable {v w : CodexView} {l : List (Nat × ServerMessage)}

/-- A step without a message. -/
theorem silent (h : Streams v l) (hlen : v.runs.length ≤ w.runs.length)
    (hstage : ∀ {i : Nat} {r : CodexRun}, w.runs[i]? = some r → Stage w i r (part i l)) :
    Streams w (l ++ []) := by
  rw [List.append_nil]
  exact ⟨h.sorted, fun x hx => Nat.lt_of_lt_of_le (h.bound x hx) hlen, hstage⟩

/-- A message of the last run that has sent one. -/
theorem send (h : Streams v l) (hlen : v.runs.length = w.runs.length) {i : Nat} {m : ServerMessage}
    (hi : i < v.runs.length) (hlast : ∀ x ∈ l, x.1 ≤ i)
    (hself : ∀ {r : CodexRun}, w.runs[i]? = some r → Stage w i r (part i l ++ [m]))
    (hother : ∀ {j : Nat} {r : CodexRun}, j ≠ i → w.runs[j]? = some r → Stage w j r (part j l)) :
    Streams w (l ++ [(i, m)]) := by
  refine ⟨?_, fun x hx => ?_, fun {j r} hr => ?_⟩
  · rw [List.pairwise_append]
    refine ⟨h.sorted, List.pairwise_singleton _ _, fun x hx y hy => ?_⟩
    rw [List.mem_singleton.mp hy]
    exact hlast x hx
  · rcases List.mem_append.mp hx with hx | hx
    · exact hlen ▸ h.bound x hx
    · rw [List.mem_singleton.mp hx]
      exact hlen ▸ hi
  · rw [part_append]
    by_cases hj : j = i
    · subst hj
      rw [part_singleton_self]
      exact hself hr
    · rw [part_singleton_other hj, List.append_nil]
      exact hother hj hr

/-- The current run is the last one. -/
theorem last_of_current (h : Streams v l) (hwf : CodexWf v) {i : Nat}
    (hcurrent : v.current = some i) (x : Nat × ServerMessage) (hx : x ∈ l) : x.1 ≤ i := by
  have := h.bound x hx
  have := hwf.current hcurrent
  omega

/-- Only a run that was announced has sent messages. -/
theorem announced_of_mem (h : Streams v l) {x : Nat × ServerMessage} (hx : x ∈ l) :
    announced v x.1 = true := by
  obtain ⟨r, hr⟩ : ∃ r, v.runs[x.1]? = some r := ⟨_, List.getElem?_eq_getElem (h.bound x hx)⟩
  have hmem : x.2 ∈ part x.1 l := mem_part.mpr hx
  have hne : part x.1 l ≠ [] := List.ne_nil_of_mem hmem
  by_contra hnot
  refine hne ((h.stage hr).before ?_)
  simp only [announced, hr, Option.any_some, Bool.and_eq_true, decide_eq_true_eq, not_and_or,
    Bool.not_eq_true, ne_eq, not_not] at hnot
  exact hnot

variable {cfg : Config} {s : Session} {e : SessionEvent} {sent : List (Nat × ServerMessage)}

/-- A change of one run that sends nothing. -/
theorem of_modify (h : Streams s.codex l) {i : Nat} {f : CodexRun → CodexRun}
    (hruns : v.runs = (s.codex.modify i f).runs)
    (hpc : ∀ j, v.run = .announce j ↔ s.run = .announce j)
    (hf : ∀ {r : CodexRun}, s.runs[i]? = some r → (f r).hasProcess = r.hasProcess ∧
      (f r).requestID = r.requestID ∧ (r.wait = .done → (f r).wait = .done)) :
    Streams v (l ++ []) := by
  refine h.silent (by rw [hruns]; exact Nat.le_of_eq (List.length_modify ..).symm)
    fun {j r} hr => ?_
  rw [hruns] at hr
  rcases CodexView.modify_cases hr with ⟨rfl, r₀, hr₀, rfl⟩ | ⟨-, hold⟩
  · obtain ⟨hprocess, hid, hwait⟩ := hf hr₀
    exact (h.stage hr₀).keep (hpc j) hprocess hid hwait
  · exact (h.stage hold).keep (hpc j) rfl rfl id

theorem of_goesOn (h : Streams s.codex l) {i : Nat} {f : CodexRun → CodexRun}
    (hruns : v.runs = (s.codex.modify i f).runs)
    (hpc : ∀ j, v.run = .announce j ↔ s.run = .announce j)
    (hf : ∀ r : CodexRun, r.GoesOn (f r) ∧ r.After (f r)) : Streams v (l ++ []) :=
  h.of_modify hruns hpc fun {r} _ => ⟨(hf r).1.hasProcess, (hf r).2.requestID, (hf r).1.done⟩

/-- A step of `run` that touches no run and announces none. -/
theorem of_run (h : Streams s.codex l) (hruns : v.runs = s.runs)
    (hpc : ∀ j, v.run = .announce j ↔ s.run = .announce j) : Streams v (l ++ []) := by
  refine h.silent (by rw [hruns]; exact Nat.le_refl _) fun {j r} hr => ?_
  rw [hruns] at hr
  exact (h.stage hr).keep (hpc j) rfl rfl id

theorem not_announce {pc : RunPc} (h : pc.onRun = none) (j : Nat) : pc ≠ .announce j := by
  rintro rfl
  cases h

/-- `run` goes from one place to another, and announces a run at neither. -/
theorem announce_iff {pc next : RunPc} (hrun : s.run = pc) (hfrom : ∀ j, pc ≠ .announce j)
    (hto : ∀ j, next ≠ .announce j) (j : Nat) : next = .announce j ↔ s.run = .announce j :=
  iff_of_false (hto j) (hrun ▸ hfrom j)

/-- The new run has sent nothing. -/
theorem of_create (h : Streams s.codex l) {data requestID : Bytes} (hrun : s.run = .handle data) :
    Streams ⟨s.runs ++ [newCodexRun requestID], some s.runs.length, true, .start s.runs.length,
      s.sessionStop⟩ (l ++ []) := by
  refine h.silent (by simp [Session.codex]) fun {j r} hr => ?_
  rcases Nat.lt_or_ge j s.runs.length with hlt | hge
  · rw [List.getElem?_append_left hlt] at hr
    exact (h.stage hr).keep (announce_iff hrun (fun _ => by simp) (fun _ => by simp) j) rfl rfl id
  · have hnil : part j l = [] := part_eq_nil fun x hx => Nat.ne_of_lt
      (Nat.lt_of_lt_of_le (h.bound x hx) hge)
    rw [List.getElem?_append_right hge] at hr
    have hnew := List.mem_singleton.mp (List.mem_of_getElem? hr)
    rw [hnew]
    exact ⟨fun _ => hnil, by simp [newCodexRun, CodexRun.hasProcess],
      by simp [newCodexRun, CodexRun.hasProcess]⟩

/-- A process that runs is not announced yet. -/
theorem of_start (hwf : CodexWf s.codex) (h : Streams s.codex l) {i : Nat}
    (hrun : s.run = .start i) :
    Streams { s.codex.modify i fun r => { r with process := .running, copier := .copying } with
      run := .announce i } (l ++ []) := by
  refine h.silent (Nat.le_of_eq (List.length_modify ..).symm) fun {j r} hr => ?_
  rcases CodexView.modify_cases hr with ⟨rfl, r₀, hr₀, rfl⟩ | ⟨hj, hold⟩
  · have hp := (hwf.phase hr₀).start.mpr hrun
    have hnil := (h.stage hr₀).before (.inl (by simp [CodexRun.hasProcess, hp]))
    exact ⟨fun _ => hnil, fun _ hpc => absurd rfl hpc, fun _ hpc => absurd rfl hpc⟩
  · refine (h.stage hold).keep ?_ rfl rfl id
    show RunPc.announce i = .announce j ↔ s.run = .announce j
    rw [hrun]
    simp [Ne.symm hj]

/-- A process that has not started sends nothing. -/
theorem of_startFails (hwf : CodexWf s.codex) (h : Streams s.codex l) {i : Nat}
    (hrun : s.run = .start i) :
    Streams { s.codex.modify i fun r => { r with process := .failed } with
      run := .startFailed i } (l ++ []) := by
  refine h.of_modify rfl (announce_iff hrun (fun _ => by simp) fun _ => by simp)
    fun hr => ⟨?_, rfl, id⟩
  have hp := (hwf.phase hr).start.mpr hrun
  simp [CodexRun.hasProcess, hp]

/-- `codex_started` is the first message of its run. -/
theorem of_announce (hwf : CodexWf s.codex) (h : Streams s.codex l) {i : Nat}
    (hrun : s.run = .announce i) :
    Streams { s.codex with run := .spawn i }
      (l ++ [(i, (codexStartedMessage cfg (s.requestID i)).message)]) := by
  have hi : i < s.runs.length := hwf.onRun (show s.codex.run.onRun = some i by
    show s.run.onRun = some i; rw [hrun]; rfl)
  obtain ⟨r, hr⟩ : ∃ r, s.runs[i]? = some r := ⟨_, List.getElem?_eq_getElem hi⟩
  have hid : s.requestID i = r.requestID := by simp [Session.requestID, hr]
  obtain ⟨hprocess, hoff⟩ := (hwf.phase hr).started.mpr (.inl hrun)
  have hlive : r.live = true := by
    unfold CodexRun.live
    cases hp : r.process <;> simp_all [CodexRun.hasProcess, Wait.rank]
  refine Streams.send (w := { s.codex with run := .spawn i }) h rfl hi
    (h.last_of_current hwf (hwf.live hr hlive)) (fun {r'} hr' => ?_) fun {j r'} hj hr' => ?_
  · obtain rfl := Option.some.inj (hr.symm.trans hr')
    have hnil : part i l = [] := (h.stage hr).before (.inr hrun)
    have hopen : IsOpen r.requestID [(codexStartedMessage cfg r.requestID).message] :=
      isOpen_started rfl
    rw [hnil, hid]
    exact ⟨by simp [hprocess], fun _ _ _ => hopen, fun _ _ => .inl hopen⟩
  · refine (h.stage hr').keep ?_ rfl rfl id
    show RunPc.spawn i = .announce j ↔ s.run = .announce j
    rw [hrun]
    simp [Ne.symm hj]

/-- An output follows `codex_started`. -/
theorem of_output (hwf : CodexWf s.codex) (h : Streams s.codex l) {i : Nat} {r : CodexRun}
    {data text : Bytes} (hr : s.runs[i]? = some r) (hcopier : r.copier = .copying)
    (hrun : s.run ≠ .announce i) :
    Streams (s.codex.modify i fun r => { r with total := r.total + data.length })
      (l ++ [(i, codexOutput cfg.sessionID r.requestID text)]) := by
  have hprocess : r.hasProcess = true := by
    by_contra hnot
    rw [(hwf.run hr).copier.mpr (by simpa using hnot)] at hcopier
    cases hcopier
  have hrank := (hwf.run hr).rank_lt_two (.inr (by rw [hcopier]; decide))
  have hlive : r.live = true := by
    unfold CodexRun.live
    cases hp : r.process <;> simp_all [CodexRun.hasProcess] <;> omega
  have hdone : r.wait ≠ .done := fun hw => by rw [hw] at hrank; exact absurd hrank (by decide)
  refine h.send (List.length_modify ..).symm (List.getElem?_eq_some_iff.mp hr).1
    (h.last_of_current hwf (hwf.live hr hlive)) (fun {r'} hr' => ?_) fun {j r'} hj hr' => ?_
  · rw [CodexView.modify_self (show s.codex.runs[i]? = _ from hr), Option.some.injEq] at hr'
    subst hr'
    have hopen : IsOpen r.requestID (part i l ++ [codexOutput cfg.sessionID r.requestID text]) :=
      ((h.stage hr).opened hprocess hrun hdone).output rfl rfl
    refine ⟨fun hbefore => ?_, fun _ _ _ => hopen, fun _ _ => .inl hopen⟩
    rcases hbefore with hno | hannounce
    · exact Bool.noConfusion (hprocess.symm.trans hno)
    · exact absurd hannounce hrun
  · rw [CodexView.modify_other _ hj] at hr'
    exact (h.stage hr').keep Iff.rfl rfl rfl id

/-- The last message ends the block. -/
theorem of_conclude (hwf : CodexWf s.codex) (h : Streams s.codex l) {i : Nat} {r : CodexRun}
    {m : ServerMessage} (hr : s.runs[i]? = some r) (hwait : r.wait = .terminal)
    (hm : r.terminalMessage cfg.sessionID = some m)
    (hlast : ∀ j < s.runs.length, j ≤ i ∨ announced s.codex j = false) :
    Streams (s.codex.modify i fun r => { r with wait := .done }) (l ++ [(i, m)]) := by
  have hprocess := (hwf.run hr).waiting (by rw [hwait]; decide)
  have hrun : s.run ≠ .announce i := fun hpc => by
    have := ((hwf.phase hr).started.mpr (.inl hpc)).2
    rw [hwait] at this
    cases this
  refine h.send (List.length_modify ..).symm (List.getElem?_eq_some_iff.mp hr).1 (fun x hx => ?_)
    (fun {r'} hr' => ?_) fun {j r'} hj hr' => ?_
  · rcases hlast x.1 (h.bound x hx) with hle | hnot
    · exact hle
    · rw [h.announced_of_mem hx] at hnot
      cases hnot
  · rw [CodexView.modify_self (show s.codex.runs[i]? = _ from hr), Option.some.injEq] at hr'
    subst hr'
    have hconcludes := terminalMessage_concludes hm
    refine ⟨fun hbefore => ?_, fun _ _ hdone => absurd rfl hdone, fun _ _ => .inr ?_⟩
    · rcases hbefore with hno | hannounce
      · exact Bool.noConfusion (hprocess.symm.trans hno)
      · exact absurd hannounce hrun
    · exact ⟨part i l, m, rfl, (h.stage hr).opened hprocess hrun (by rw [hwait]; decide),
        hconcludes.type.imp id And.left, hconcludes.requestID⟩
  · rw [CodexView.modify_other _ hj] at hr'
    exact (h.stage hr').keep Iff.rfl rfl rfl id

/-- The last message is refused, or there is none. -/
theorem of_concludeSilent (h : Streams s.codex l) {i : Nat} :
    Streams (s.codex.modify i fun r => { r with wait := .done }) (l ++ []) :=
  h.of_modify rfl (fun _ => Iff.rfl) fun _ => ⟨rfl, rfl, fun _ => rfl⟩

/-- Watcher and waiter start without a message. -/
theorem of_spawn (hwf : CodexWf s.codex) (h : Streams s.codex l) {i : Nat}
    (hrun : s.run = .spawn i) :
    Streams { s.codex.modify i fun r => { r with watcher := .select, wait := .cmdWait } with
      run := .select } (l ++ []) := by
  refine h.of_modify rfl (announce_iff hrun (fun _ => by simp) fun _ => by simp)
    fun hr => ⟨rfl, rfl, fun hdone => ?_⟩
  rw [((hwf.phase hr).started.mpr (.inr hrun)).2] at hdone
  cases hdone

/-- The copier does not write before the run is announced. -/
theorem announced_of_write {i : Nat} {r : CodexRun} {data text : Bytes} (hr : s.runs[i]? = some r)
    (hcopier : r.copier = .copying) (htext : codexWrite r.total data = .text text)
    (haccepts : s.accepts cfg = true) (horder : inOrder cfg s (.codex i (.write data)) = true) :
    s.run ≠ .announce i := by
  simp only [inOrder, hr, Option.all_some, hcopier, haccepts, ne_eq, not_true_eq_false,
    false_or, Bool.true_eq_false, decide_eq_true_eq] at horder
  unfold codexWrite at htext
  split at htext
  · cases htext
  · rename_i hlen
    split at htext
    · cases htext
    · rename_i hfits
      rcases horder with hnil | hover | hrun
      · exact absurd (by rw [hnil]; rfl) hlen
      · exact absurd hover hfits
      · exact hrun

/-- A run that is released has its last message still to send. -/
theorem of_release (h : Streams s.codex l) {i : Nat} {r : CodexRun} (hr : s.runs[i]? = some r)
    (hwait : r.wait = .clear) :
    Streams ((s.codex.clear i).modify i fun r => { r with wait := .terminal }) (l ++ []) := by
  refine h.of_modify (i := i) (f := fun r => { r with wait := .terminal })
    (by rw [CodexView.modify_clear, CodexView.clear_runs]) (fun j => ?_) fun hr' => ?_
  · simp only [CodexView.modify_run, CodexView.clear_run]
    rfl
  · obtain rfl := Option.some.inj (hr.symm.trans hr')
    exact ⟨rfl, rfl, fun hdone => by rw [hwait] at hdone; cases hdone⟩

/-- **One step in order** keeps the blocks of the runs. -/
theorem step (hwf : CodexWf s.codex) (h : Streams s.codex l) (horder : inOrder cfg s e = true)
    (hstep : CodexStep cfg s e v sent) :
    Streams v (l ++ sent.filter fun x => isCodexEvent x.2) := by
  cases hstep with
  | keep => exact h.of_run rfl fun _ => Iff.rfl
  | goOn hfrom hto _ =>
      exact h.of_run rfl fun j => iff_of_false (not_announce hto j) (not_announce hfrom j)
  | create hrun _ _ => exact h.of_create hrun
  | cancel hrun _ _ =>
      exact h.of_run rfl (announce_iff hrun (fun _ => by simp) fun _ => by simp)
  | start hrun _ => exact h.of_start hwf hrun
  | startFails hrun => exact h.of_startFails hwf hrun
  | drop hrun =>
      exact h.of_modify (f := .cancel) (by rw [CodexView.clear_runs])
        (announce_iff hrun (fun _ => by simp) fun _ => by simp) fun _ => ⟨rfl, rfl, id⟩
  | report hrun _ =>
      exact h.of_run rfl (announce_iff hrun (fun _ => by simp) fun _ => by simp)
  | reportRefused hrun _ =>
      exact h.of_run rfl (announce_iff hrun (fun _ => by simp) fun _ => by simp)
  | announce hrun _ => exact h.of_announce hwf hrun
  | announceRefused hrun haccepts =>
      simp only [inOrder, hrun, haccepts] at horder
      cases horder
  | spawn hrun => exact h.of_spawn hwf hrun
  | cancelReason hrun =>
      exact h.of_modify rfl (announce_iff hrun (fun _ => by simp) fun _ => by simp)
        fun _ => ⟨rfl, rfl, id⟩
  | cancelOnce hrun =>
      exact h.of_goesOn rfl (announce_iff hrun (fun _ => by simp) fun _ => by simp)
        fun r => ⟨CodexRun.goesOn_stop, r.after_stop⟩
  | stopCalled _ => exact h.of_run rfl fun _ => Iff.rfl
  | stopNone _ _ => exact h.of_run rfl fun _ => Iff.rfl
  | stopCurrent _ _ => exact h.of_run rfl fun _ => Iff.rfl
  | stopReason _ => exact h.of_modify rfl (fun _ => Iff.rfl) fun _ => ⟨rfl, rfl, id⟩
  | stopOnce _ =>
      exact h.of_goesOn rfl (fun _ => Iff.rfl) fun r => ⟨CodexRun.goesOn_stop, r.after_stop⟩
  | stopGoesOn _ => exact h.of_run rfl fun _ => Iff.rfl
  | output hr hcopier htext haccepts =>
      exact h.of_output hwf hr hcopier (announced_of_write hr hcopier htext haccepts horder)
  | outputRefused _ _ _ _ => exact h.of_modify rfl (fun _ => Iff.rfl) fun _ => ⟨rfl, rfl, id⟩
  | overflow _ _ => exact h.of_modify rfl (fun _ => Iff.rfl) fun _ => ⟨rfl, rfl, id⟩
  | inner =>
      exact h.of_goesOn rfl (fun _ => Iff.rfl) fun r => ⟨CodexRun.goesOn_inner _, r.after_inner _⟩
  | release hr hwait => exact h.of_release hr hwait
  | @conclude i r result m hr hwait hm haccepts =>
      have hevent : isCodexEvent m = true := (terminalMessage_concludes hm).isCodexEvent
      have hlast : ∀ j < s.runs.length, j ≤ i ∨ announced s.codex j = false := by
        simpa [inOrder, hr, hwait, hm, haccepts] using horder
      rw [List.filter_cons_of_pos (by exact hevent), List.filter_nil]
      exact h.of_conclude hwf hr hwait hm hlast
  | concludeSilent _ _ _ => exact h.of_concludeSilent

end Streams

/-! ## Whole runs -/

/-- The messages of two steps after one another. -/
theorem runEvents_append (t u : List Effect) : runEvents (t ++ u) = runEvents t ++ runEvents u := by
  simp [runEvents, codexSent_append]

/-- A Codex message that `Sendable` lists comes from a run. -/
theorem Sendable.codex_origin {cfg : Config} {s : Session} {e : SessionEvent} {origin : Origin}
    {item : OutboundMessage} (h : Sendable cfg s e origin item)
    (hevent : isCodexEvent item.message = true) : ∃ i, origin = .codex i := by
  cases h with
  | startFailed _ => exact ⟨_, rfl⟩
  | started _ => exact ⟨_, rfl⟩
  | codexOutput _ _ _ => exact ⟨_, rfl⟩
  | codexEnd _ _ _ => exact ⟨_, rfl⟩
  | _ => exact absurd hevent (by simp [isCodexEvent, helloMessage, errorMessage, outputMessage,
      exitMessage, codexErrorMessage])

/-- The Codex messages of a step are those of its runs. -/
theorem codexEvents_step (cfg : Config) (s : Session) (e : SessionEvent) :
    codexEvents (sessionStep cfg s e).2 = (runEvents (sessionStep cfg s e).2).map Prod.snd := by
  have hsent := (sessionStep_sends cfg s e).sent
  generalize (sessionStep cfg s e).2 = u at hsent
  induction u with
  | nil => rfl
  | cons x u ih =>
      have hrest := ih fun o item hmem => hsent o item (List.mem_cons_of_mem _ hmem)
      have hcons : codexEvents (x :: u) = codexEvents [x] ++ codexEvents u := by
        simp [codexEvents, ← List.filterMap_append]
      rw [hcons, show x :: u = [x] ++ u from rfl, runEvents_append, List.map_append, hrest]
      congr 1
      cases x with
      | enqueued origin item =>
          cases hevent : isCodexEvent item.message with
          | false => cases origin <;>
              simp [codexEvents, Effect.codexEvent, runEvents, codexSent, Effect.codex, hevent]
          | true =>
              obtain ⟨i, rfl⟩ := (hsent origin item (by simp)).2.codex_origin hevent
              simp [codexEvents, Effect.codexEvent, runEvents, codexSent, Effect.codex, hevent]
      | _ => rfl

/-- The messages without the numbers of their runs. -/
theorem codexEvents_trace (cfg : Config) (es : List SessionEvent) :
    codexEvents ((sessionMachine cfg).trace es) =
      (runEvents ((sessionMachine cfg).trace es)).map Prod.snd := by
  refine (sessionMachine cfg).history_invariant (P := fun _ _ => True)
    (I := fun t _ => codexEvents t = (runEvents t).map Prod.snd) rfl (fun t s e h _ => ?_) es
    (Machine.allSteps_of_forall _ (fun _ _ => trivial) _ _)
  have happend : ∀ u, codexEvents (t ++ u) = codexEvents t ++ codexEvents u :=
    fun u => List.filterMap_append
  rw [happend, runEvents_append, List.map_append, h]
  exact congrArg _ (codexEvents_step cfg s e)

/-- The Codex messages are those of run 0, then those of run 1, and so on;
those of a run that was announced are a block, and the others have none. -/
structure WellFormed (t : List Effect) (s : Session) : Prop where
  split : codexEvents t = (List.range s.runs.length).flatMap fun i => part i (runEvents t)
  block : ∀ (i : Nat) (r : CodexRun), s.runs[i]? = some r →
    if announced s.codex i then IsBlock r.requestID (part i (runEvents t))
    else part i (runEvents t) = []

/-- **The Codex messages of a session are blocks, one for each run that was
started, if every step keeps them apart.** -/
theorem stream_well_formed (cfg : Config) (es : List SessionEvent)
    (hes : (sessionMachine cfg).AllSteps (inOrder cfg · · = true) newSession es) :
    WellFormed ((sessionMachine cfg).trace es) ((sessionMachine cfg).run es) := by
  have hinit : CodexWf newSession.codex ∧ Streams newSession.codex (runEvents []) :=
    ⟨codexWf_new, .nil, by simp [runEvents, codexSent], by simp [newSession, Session.codex]⟩
  obtain ⟨-, hstreams⟩ := (sessionMachine cfg).history_invariant
    (I := fun t s => CodexWf s.codex ∧ Streams s.codex (runEvents t))
    (P := (inOrder cfg · · = true)) hinit
    (fun t s e h horder => ⟨codexWf_step cfg h.1 e, by
      rw [runEvents_append]
      exact h.2.step h.1 horder (sessionStep_codex cfg s e)⟩) es hes
  refine ⟨?_, fun i r hr => ?_⟩
  · rw [codexEvents_trace]
    exact map_snd_eq_flatMap_part hstreams.sorted hstreams.bound
  · have hstage := hstreams.stage hr
    have hr' : ((sessionMachine cfg).run es).codex.runs[i]? = some r := hr
    simp only [announced, hr', Option.any_some, Bool.and_eq_true, decide_eq_true_eq]
    split
    · rename_i h; exact hstage.block h.1 h.2
    · rename_i h
      refine hstage.before ?_
      by_cases hprocess : r.hasProcess = true
      · exact .inr (by by_contra hrun; exact h ⟨hprocess, hrun⟩)
      · exact .inl (by simpa using hprocess)

/-- The messages of a process that exits are one block. -/
theorem stream_well_formed_exit :
    (sessionMachine promptConfig).AllSteps (inOrder promptConfig · · = true) newSession exitEvents ∧
      WellFormed ((sessionMachine promptConfig).trace exitEvents)
        ((sessionMachine promptConfig).run exitEvents) :=
  ⟨by decide +kernel, stream_well_formed promptConfig exitEvents (by decide +kernel)⟩

/-- A process that writes a line before `startCodex` has gone on. -/
def earlyOutputEvents : List SessionEvent :=
  [.run, .clientRead (.data [0x7B]), .clientSend false, .select false, .run, .startProcess true,
    .codex 0 (.write [0x68, 0x0A]), .run]

/-- Its output comes before its `codex_started`. -/
theorem stream_malformed :
    ¬ WellFormed ((sessionMachine promptConfig).trace earlyOutputEvents)
      ((sessionMachine promptConfig).run earlyOutputEvents) := by
  intro h
  have hblock := h.block 0 { newCodexRun (ascii "r") with
    process := .running, copier := .copying, total := 2 } (by decide +kernel)
  have hannounced :
      announced ((sessionMachine promptConfig).run earlyOutputEvents).codex 0 = true := by
    decide +kernel
  have hparts : (part 0 (runEvents ((sessionMachine promptConfig).trace earlyOutputEvents))).map
      (·.type) = [.codexOutput, .codexStarted] := by decide +kernel
  rw [if_pos hannounced] at hblock
  -- a block starts with `codex_started`
  have hfirst : ∀ {ms : List ServerMessage}, IsOpen (ascii "r") ms →
      (ms.map (·.type)).head? = some .codexStarted := by
    rintro ms ⟨first, outputs, rfl, htype, -⟩
    simp [htype]
  rcases hblock with hopen | ⟨body, last, heq, hopen, -⟩
  · have := hfirst hopen
    rw [hparts] at this
    cases this
  · have hhead := hfirst hopen
    rw [heq, List.map_append] at hparts
    obtain ⟨first, outputs, rfl, -⟩ := hopen
    simp_all

end Bootmux.Companion
