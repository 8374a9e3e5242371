/-
Bootmux.Companion.ExclusionTheorems — one Codex process at a time, with a
bounded output and one last message.

The slot of a run, its output counter and the guard of its last message
are kept by different objects. `RunStep` says what one step of the session
does to one run, to the messages it has enqueued and to the bytes it has
counted; `Account` is what follows of its messages over a whole run, and
`codex_exclusive` puts it together with `CodexWf`.

Exclusion itself is a part of `CodexWf`: two runs that are not released
would be the same run. The bound on the output goes by the counter of the
run, which each copied read adds to before its text is enqueued, and the
last message by the position of `waitCodex`, which sends it in one step only
and never comes back to it.
-/
import Bootmux.Companion.ConclusionTheorems

namespace Bootmux.Companion

open Bootmux.Lib

/-! ## The bytes a run enqueues -/

/-- The bytes the process of a run writes in this step. -/
def SessionEvent.written : SessionEvent → Nat
  | .codex _ (.write data) => data.length
  | _ => 0

/-- The bytes of a step that enqueues these messages of a run. -/
def rawBytes (e : SessionEvent) (ms : List ServerMessage) : Nat :=
  if ms = [] then 0 else e.written

/-- The raw output run `i` has enqueued along a run of the session. -/
def rawOutput (cfg : Config) (i : Nat) (s : Session) : List SessionEvent → Nat
  | [] => 0
  | e :: es =>
      rawBytes e (part i (codexSent (sessionStep cfg s e).2)) +
        rawOutput cfg i (sessionStep cfg s e).1 es

/-- One more event writes its own bytes. -/
theorem rawOutput_concat (cfg : Config) (i : Nat) (s : Session) (es : List SessionEvent)
    (e : SessionEvent) :
    rawOutput cfg i s (es ++ [e]) = rawOutput cfg i s es +
      rawBytes e (part i
        (codexSent (sessionStep cfg ((sessionMachine cfg).runFrom s es) e).2)) := by
  induction es generalizing s with
  | nil => simp [rawOutput]
  | cons e' es ih =>
      rw [List.cons_append, rawOutput, rawOutput, ih, Nat.add_assoc]
      rfl

/-! ## What a step does to one run -/

/-- A run that enqueues nothing: it stays over, and counts within the bound. -/
structure Quiet (pc pc' : RunPc) (i : Nat) (r r' : CodexRun) : Prop where
  stays : r.over pc i = true → r'.over pc' i = true
  total : r.total ≤ r'.total
  bound : r.total ≤ defaultCodexOutput → r'.total ≤ defaultCodexOutput

/-- What a step of the session has done to run `i`, with the messages of the
run it enqueues. -/
inductive RunStep (s : Session) (e : SessionEvent) (v : CodexView) (i : Nat) :
    List ServerMessage → Prop
  | none (hnone : v.runs[i]? = none) (hbefore : s.runs[i]? = none) : RunStep s e v i []
  | new (hbefore : s.runs[i]? = none) {r' : CodexRun} (hr' : v.runs[i]? = some r')
      (htotal : r'.total = 0) : RunStep s e v i []
  | quiet {r r' : CodexRun} (hr : s.runs[i]? = some r) (hr' : v.runs[i]? = some r')
      (h : Quiet s.run v.run i r r') : RunStep s e v i []
  | told {r r' : CodexRun} {m : ServerMessage} (hr : s.runs[i]? = some r)
      (hr' : v.runs[i]? = some r') (hm : isConclusion m = false) (hopen : r.over s.run i = false)
      (htotal : r'.total = r.total + e.written)
      (hbound : r.total ≤ defaultCodexOutput → r'.total ≤ defaultCodexOutput) :
      RunStep s e v i [m]
  | concluded {r r' : CodexRun} {m : ServerMessage} (hr : s.runs[i]? = some r)
      (hr' : v.runs[i]? = some r') (hm : isConclusion m = true) (hopen : r.over s.run i = false)
      (hover : r'.over v.run i = true) (htotal : r'.total = r.total) (hwritten : e.written = 0) :
      RunStep s e v i [m]

section Steps

variable {cfg : Config} {s : Session} {e : SessionEvent} {v : CodexView} {i : Nat}

theorem CodexRun.stop_total (r : CodexRun) : r.stop.total = r.total := by
  unfold CodexRun.stop
  split <;> rfl

/-- Only a write counts bytes. -/
theorem CodexRun.inner_total (r : CodexRun) (e : CodexEvent) : (r.inner e).total = r.total := by
  have hstop := r.stop_total
  cases e with
  | write data => rfl
  | deadline => rfl
  | eof => simp only [inner, eof]; split <;> rfl
  | exit => simp only [inner, CodexRun.exit]; split <;> rfl
  | kill => simp only [inner, kill]; split <;> rfl
  | copierStop =>
      simp only [inner, copierStop]
      split
      · rfl
      · exact hstop
      · rfl
  | watch viaStop =>
      simp only [inner, watch]
      split
      · repeat' split
        all_goals rfl
      · rfl
      · exact hstop
      · rfl
  | wait result =>
      simp only [inner, waitStep]
      repeat' split
      all_goals rfl

/-- A change of a run that does not end it, while `run` goes on elsewhere. -/
theorem Quiet.of_same {pc pc' : RunPc} {r r' : CodexRun}
    (hpc : r.process = .failed → pc.reporting i = false → pc'.reporting i = false)
    (hdone : r.wait = .done → r'.wait = .done)
    (hfailed : r.process = .failed → r'.process = .failed)
    (htotal : r'.total = r.total) : Quiet pc pc' i r r' where
  stays h := by
    simp only [CodexRun.over, decide_eq_true_eq] at h ⊢
    rcases h with h | ⟨hp, hreporting⟩
    · exact .inl (hdone h)
    · exact .inr ⟨hfailed hp, hpc hp hreporting⟩
  total := Nat.le_of_eq htotal.symm
  bound h := htotal ▸ h

/-- The runs are as they were. -/
theorem RunStep.of_runs (hruns : v.runs = s.runs)
    (hpc : ∀ {r : CodexRun}, s.runs[i]? = some r → r.process = .failed →
      s.run.reporting i = false → v.run.reporting i = false) : RunStep s e v i [] := by
  cases hr : s.runs[i]? with
  | none => exact .none (by rw [hruns, hr]) hr
  | some r => exact .quiet hr (by rw [hruns, hr]) (.of_same (hpc hr) id id rfl)

/-- One run has changed. -/
theorem RunStep.of_modify {j : Nat} {f : CodexRun → CodexRun}
    (hruns : v.runs = (s.codex.modify j f).runs)
    (hpc : ∀ {r : CodexRun}, s.runs[i]? = some r → r.process = .failed →
      s.run.reporting i = false → v.run.reporting i = false)
    (hf : ∀ {r : CodexRun}, s.runs[i]? = some r → j = i →
      (r.wait = .done → (f r).wait = .done) ∧ (r.process = .failed → (f r).process = .failed) ∧
        (f r).total = r.total) : RunStep s e v i [] := by
  cases hr : s.runs[i]? with
  | none =>
      refine .none ?_ hr
      rw [hruns, show (s.codex.modify j f).runs = s.runs.modify j f from rfl, List.getElem?_modify,
        hr]
      rfl
  | some r =>
      rcases eq_or_ne j i with rfl | hj
      · obtain ⟨hdone, hfailed, htotal⟩ := hf hr rfl
        exact .quiet hr (by rw [hruns]; exact CodexView.modify_self hr f)
          (.of_same (hpc hr) hdone hfailed htotal)
      · exact .quiet hr (by rw [hruns, CodexView.modify_other _ (Ne.symm hj)]; exact hr)
          (.of_same (hpc hr) id id rfl)

/-- A new run starts with an empty account. -/
theorem RunStep.of_create (hrun : s.run.reporting i = false) {requestID : Bytes}
    {stop : SessionStop} :
    RunStep s e ⟨s.runs ++ [newCodexRun requestID], some s.runs.length, true,
      .start s.runs.length, stop⟩ i [] := by
  rcases Nat.lt_trichotomy i s.runs.length with hlt | heq | hgt
  · have hr : s.runs[i]? = some s.runs[i] := List.getElem?_eq_getElem hlt
    refine .quiet hr ?_ (.of_same (fun _ _ => rfl) id id rfl)
    exact (List.getElem?_append_left hlt).trans hr
  · subst heq
    exact .new (List.getElem?_eq_none (Nat.le_refl _))
      (List.getElem?_concat_length) rfl
  · refine .none (List.getElem?_eq_none ?_) (List.getElem?_eq_none (Nat.le_of_lt hgt))
    rw [List.length_append]
    exact hgt

/-- The conclusion of a run that did not start. -/
theorem RunStep.of_report (hwf : CodexWf s.codex) {j : Nat} (hrun : s.run = .reportStart j) :
    RunStep s .run { s.codex with run := .select } i
      (part i [(j, (codexErrorMessage cfg (s.requestID j) .codexStartFailed).message)]) := by
  rcases eq_or_ne j i with rfl | hj
  · obtain ⟨r, hr⟩ : ∃ r, s.runs[j]? = some r :=
      ⟨_, List.getElem?_eq_getElem (hwf.onRun (show s.run.onRun = some j by rw [hrun]; rfl))⟩
    have hfailed : r.process = .failed := (hwf.phase hr).failed (.inr hrun)
    have hoff : r.wait = .off := CodexWf.off_of_no_process (hwf.run hr)
      (by simp [CodexRun.hasProcess, hfailed])
    rw [part_singleton_self]
    refine .concluded hr hr rfl ?_ ?_ rfl rfl
    · rw [hrun]
      simp [CodexRun.over, RunPc.reporting, hoff]
    · show r.over .select j = true
      simp [CodexRun.over, RunPc.reporting, hfailed]
  · rw [part_singleton_other (Ne.symm hj)]
    exact .of_runs rfl fun _ _ _ => rfl

/-- A process that runs, or a `waitCodex` that has not returned, is not over. -/
theorem CodexRun.over_eq_false {r : CodexRun} (hprocess : r.hasProcess = true)
    (hwait : r.wait ≠ .done) (pc : RunPc) : r.over pc i = false := by
  have hnot : r.process ≠ .failed := fun hp => by simp [CodexRun.hasProcess, hp] at hprocess
  simp [CodexRun.over, hwait, hnot]

/-- `codex_started` is on the account of its run. -/
theorem RunStep.of_announce (hwf : CodexWf s.codex) {j : Nat} (hrun : s.run = .announce j) :
    RunStep s .run { s.codex with run := .spawn j } i
      (part i [(j, (codexStartedMessage cfg (s.requestID j)).message)]) := by
  rcases eq_or_ne j i with rfl | hj
  · obtain ⟨r, hr⟩ : ∃ r, s.runs[j]? = some r :=
      ⟨_, List.getElem?_eq_getElem (hwf.onRun (show s.run.onRun = some j by rw [hrun]; rfl))⟩
    obtain ⟨hprocess, hoff⟩ := (hwf.phase hr).started.mpr (.inl hrun)
    rw [part_singleton_self]
    exact .told hr hr rfl (CodexRun.over_eq_false hprocess (by rw [hoff]; decide) _) rfl id
  · rw [part_singleton_other (Ne.symm hj)]
    exact .of_runs rfl fun _ _ _ => rfl

/-- A write within the bound. -/
theorem codexWrite_text {total : Nat} {data text : Bytes} (h : codexWrite total data = .text text) :
    total + data.length ≤ defaultCodexOutput := by
  unfold codexWrite at h
  split at h
  · cases h
  · split at h
    · cases h
    · next hbound => exact Nat.le_of_not_lt hbound

/-- A run whose output is still copied is not over. -/
theorem CodexRun.Wf.copying_open {r : CodexRun} (h : r.Wf) (hcopier : r.copier = .copying)
    (pc : RunPc) : r.over pc i = false := by
  refine CodexRun.over_eq_false ?_ ?_ pc
  · by_contra hno
    have hoff : r.copier = .off := h.copier.mpr (by simpa using hno)
    rw [hcopier] at hoff
    cases hoff
  · intro hdone
    have hcopied := (h.exited (by rw [hdone]; decide)).2
    rw [hcopier] at hcopied
    cases hcopied

/-- So is an output, with the bytes it was made of. -/
theorem RunStep.of_output (hwf : CodexWf s.codex) {j : Nat} {r : CodexRun} {data text : Bytes}
    (hr : s.runs[j]? = some r) (hcopier : r.copier = .copying)
    (htext : codexWrite r.total data = .text text) :
    RunStep s (.codex j (.write data))
      (s.codex.modify j fun r => { r with total := r.total + data.length }) i
      (part i [(j, codexOutput cfg.sessionID r.requestID text)]) := by
  rcases eq_or_ne j i with rfl | hj
  · rw [part_singleton_self]
    exact .told hr (CodexView.modify_self hr _) rfl ((hwf.run hr).copying_open hcopier _) rfl
      fun _ => codexWrite_text htext
  · rw [part_singleton_other (Ne.symm hj)]
    exact .of_modify rfl (fun _ _ => id) fun _ heq => absurd heq hj

/-- A write the queue refuses is counted, too. -/
theorem RunStep.of_outputRefused {j : Nat} {r : CodexRun} {data text : Bytes}
    (hr : s.runs[j]? = some r) (htext : codexWrite r.total data = .text text) :
    RunStep s (.codex j (.write data))
      (s.codex.modify j fun r =>
        { r with total := r.total + data.length, copier := .setReason .session }) i [] := by
  rcases eq_or_ne j i with rfl | hj
  · refine .quiet hr (CodexView.modify_self hr _) ⟨id, Nat.le_add_right _ _, fun _ => ?_⟩
    exact codexWrite_text htext
  · exact .of_modify rfl (fun _ _ => id) fun _ heq => absurd heq hj

/-- And the conclusion, once. -/
theorem RunStep.of_conclude (hwf : CodexWf s.codex) {j : Nat} {r : CodexRun} {result : WaitResult}
    {m : ServerMessage} (hr : s.runs[j]? = some r) (hwait : r.wait = .terminal)
    (hm : r.terminalMessage cfg.sessionID = some m) :
    RunStep s (.codex j (.wait result)) (s.codex.modify j fun r => { r with wait := .done }) i
      (part i [(j, m)]) := by
  rcases eq_or_ne j i with rfl | hj
  · have hprocess := (hwf.run hr).waiting (by rw [hwait]; decide)
    have htype : isConclusion m = true := by
      rcases (terminalMessage_concludes hm).type with h | ⟨h, -⟩ <;> simp [isConclusion, h]
    rw [part_singleton_self]
    exact .concluded hr (CodexView.modify_self hr _) htype
      (CodexRun.over_eq_false hprocess (by rw [hwait]; decide) _) (by simp [CodexRun.over]) rfl rfl
  · rw [part_singleton_other (Ne.symm hj)]
    exact .of_modify rfl (fun _ _ => id) fun _ heq => absurd heq hj

/-- **A step of the session does one of these to a run.** -/
theorem CodexStep.toRun {sent : List (Nat × ServerMessage)} (hwf : CodexWf s.codex)
    (hstep : CodexStep cfg s e v sent) (i : Nat) : RunStep s e v i (part i sent) := by
  cases hstep with
  | keep => exact .of_runs rfl fun _ _ => id
  | goOn hfrom hto _ => exact .of_runs rfl fun _ _ _ => RunPc.not_reporting hto i
  | create hrun _ _ => exact .of_create (by rw [hrun]; rfl)
  | cancel _ _ _ => exact .of_runs rfl fun _ _ _ => rfl
  | start hrun _ =>
      refine .of_modify rfl (fun _ _ _ => rfl) fun hr hj => ?_
      subst hj
      have hp := (hwf.phase hr).start.mpr hrun
      exact ⟨id, by simp [hp], rfl⟩
  | startFails hrun =>
      refine .of_modify rfl (fun hr hp _ => ?_) fun _ _ => ⟨id, fun _ => rfl, rfl⟩
      have hj : i ≠ _ := fun hj => by
        have hnot := (hwf.phase (hj ▸ hr)).start.mpr hrun
        rw [hp] at hnot
        cases hnot
      simp [RunPc.reporting, Ne.symm hj]
  | drop hrun =>
      refine .of_modify (f := .cancel) (by rw [CodexView.clear_runs]) (fun _ _ h => ?_)
        fun _ _ => ⟨id, id, rfl⟩
      rw [hrun] at h
      simpa [RunPc.reporting] using h
  | report hrun _ => exact .of_report hwf hrun
  | reportRefused _ _ => exact .of_runs rfl fun _ _ _ => rfl
  | announce hrun _ => exact .of_announce hwf hrun
  | announceRefused _ _ => exact .of_runs rfl fun _ _ _ => rfl
  | spawn hrun =>
      refine .of_modify rfl (fun _ _ _ => rfl) fun hr hj => ?_
      subst hj
      have hoff := ((hwf.phase hr).started.mpr (.inr hrun)).2
      exact ⟨by simp [hoff], id, rfl⟩
  | cancelReason _ => exact .of_modify rfl (fun _ _ _ => rfl) fun _ _ => ⟨id, id, rfl⟩
  | cancelOnce _ =>
      exact .of_modify rfl (fun _ _ _ => rfl) fun _ _ =>
        ⟨CodexRun.same_stop.done.mpr, CodexRun.same_stop.failed.mpr, CodexRun.stop_total _⟩
  | stopCalled _ => exact .of_runs rfl fun _ _ => id
  | stopNone _ _ => exact .of_runs rfl fun _ _ => id
  | stopCurrent _ _ => exact .of_runs rfl fun _ _ => id
  | stopReason _ => exact .of_modify rfl (fun _ _ => id) fun _ _ => ⟨id, id, rfl⟩
  | stopOnce _ =>
      exact .of_modify rfl (fun _ _ => id) fun _ _ =>
        ⟨CodexRun.same_stop.done.mpr, CodexRun.same_stop.failed.mpr, CodexRun.stop_total _⟩
  | stopGoesOn _ => exact .of_runs rfl fun _ _ => id
  | output hr hcopier htext _ => exact .of_output hwf hr hcopier htext
  | outputRefused hr _ htext _ => exact .of_outputRefused hr htext
  | overflow _ _ => exact .of_modify rfl (fun _ _ => id) fun _ _ => ⟨id, id, rfl⟩
  | inner =>
      exact .of_modify rfl (fun _ _ => id) fun _ _ =>
        ⟨(CodexRun.same_inner _).done.mpr, (CodexRun.same_inner _).failed.mpr,
          CodexRun.inner_total _ _⟩
  | release hr hwait =>
      refine .of_modify (f := fun r => { r with wait := .terminal })
        (by rw [CodexView.modify_clear, CodexView.clear_runs]) (fun _ _ h => ?_) fun hr' hj => ?_
      · rw [show (CodexView.modify _ _ _).run = s.run from (s.codex.clear_run _)]
        exact h
      · subst hj
        obtain rfl := Option.some.inj (hr.symm.trans hr')
        exact ⟨by simp [hwait], id, rfl⟩
  | conclude hr hwait hm _ => exact .of_conclude hwf hr hwait hm
  | concludeSilent _ _ _ =>
      exact .of_modify rfl (fun _ _ => id) fun _ _ => ⟨fun _ => rfl, id, rfl⟩

end Steps

/-! ## Whole runs -/

/-- The messages of run `i` so far and the bytes they were made of: the bytes
are counted, and a conclusion is the last message of a run that is over. -/
structure Account (v : CodexView) (i : Nat) (ms : List ServerMessage) (raw : Nat) : Prop where
  unknown : v.runs[i]? = none → ms = [] ∧ raw = 0
  counted : ∀ {r : CodexRun}, v.runs[i]? = some r →
    raw ≤ r.total ∧ r.total ≤ defaultCodexOutput
  pending : ∀ {r : CodexRun}, v.runs[i]? = some r → r.over v.run i = false →
    ∀ m ∈ ms, isConclusion m = false
  last : ∀ m ∈ ms.dropLast, isConclusion m = false

/-- **One step** keeps the accounts. -/
theorem Account.step {s : Session} {e : SessionEvent} {v : CodexView} {i raw : Nat}
    {ms sent : List ServerMessage} (h : Account s.codex i ms raw) (hstep : RunStep s e v i sent) :
    Account v i (ms ++ sent) (raw + rawBytes e sent) := by
  cases hstep with
  | none hnone hbefore =>
      obtain ⟨rfl, rfl⟩ := h.unknown hbefore
      exact ⟨fun _ => ⟨rfl, rfl⟩, fun hr => (nomatch hnone.symm.trans hr),
        fun hr => (nomatch hnone.symm.trans hr), by simp⟩
  | new hbefore hr' htotal =>
      obtain ⟨rfl, rfl⟩ := h.unknown hbefore
      refine ⟨fun hnone => (nomatch hr'.symm.trans hnone), fun hr => ?_, by simp, by simp⟩
      obtain rfl := Option.some.inj (hr'.symm.trans hr)
      exact ⟨Nat.zero_le _, by rw [htotal]; exact Nat.zero_le _⟩
  | quiet hr hr' hquiet =>
      rw [List.append_nil]
      refine ⟨fun hnone => (nomatch hr'.symm.trans hnone), fun hr₁ => ?_, fun hr₁ hopen => ?_,
        h.last⟩
      · obtain rfl := Option.some.inj (hr'.symm.trans hr₁)
        exact ⟨Nat.le_trans (h.counted hr).1 hquiet.total, hquiet.bound (h.counted hr).2⟩
      · obtain rfl := Option.some.inj (hr'.symm.trans hr₁)
        refine h.pending hr ?_
        by_contra hover
        have hover' := hquiet.stays ((Bool.not_eq_false _).mp hover)
        rw [hopen] at hover'
        cases hover'
  | told hr hr' hm hopen htotal hbound =>
      have hall := h.pending hr hopen
      refine ⟨fun hnone => (nomatch hr'.symm.trans hnone), fun hr₁ => ?_, fun _ _ m hmem => ?_, ?_⟩
      · obtain rfl := Option.some.inj (hr'.symm.trans hr₁)
        rw [htotal, show rawBytes e [_] = e.written from rfl]
        exact ⟨Nat.add_le_add_right (h.counted hr).1 _, htotal ▸ hbound (h.counted hr).2⟩
      · rcases List.mem_append.mp hmem with hmem | hmem
        · exact hall m hmem
        · rwa [List.mem_singleton.mp hmem]
      · rw [List.dropLast_concat]
        exact hall
  | concluded hr hr' hm hopen hover htotal hwritten =>
      refine ⟨fun hnone => (nomatch hr'.symm.trans hnone), fun hr₁ => ?_, fun hr₁ hopen' => ?_, ?_⟩
      · obtain rfl := Option.some.inj (hr'.symm.trans hr₁)
        rw [htotal, show rawBytes e [_] = e.written from rfl, hwritten]
        exact h.counted hr
      · obtain rfl := Option.some.inj (hr'.symm.trans hr₁)
        exact absurd hover (by simp [hopen'])
      · rw [List.dropLast_concat]
        exact h.pending hr hopen

/-- The induction over a run of the session. -/
theorem account_run (cfg : Config) (i : Nat) (es : List SessionEvent) :
    Account ((sessionMachine cfg).run es).codex i
      (part i (codexSent ((sessionMachine cfg).trace es)))
      (rawOutput cfg i newSession es) := by
  induction es using List.reverseRecOn with
  | nil => exact ⟨fun _ => ⟨rfl, rfl⟩, by rintro _ ⟨⟩, by rintro _ ⟨⟩, by rintro _ ⟨⟩⟩
  | append_singleton es e ih =>
      rw [Machine.run_concat, Machine.trace_concat, rawOutput_concat, codexSent_append, part_append]
      exact ih.step ((sessionStep_codex cfg _ e).toRun (codexWf_run cfg es) i)

/-- `cmd.Start` has started the process and `cmd.Wait` has not returned. -/
def CodexRun.unwaited (r : CodexRun) : Bool := r.hasProcess ∧ (r.wait = .off ∨ r.wait = .cmdWait)

/-- A process that was not waited for is alive. -/
theorem CodexRun.live_of_unwaited {r : CodexRun} (h : r.unwaited = true) : r.live = true := by
  simp only [CodexRun.unwaited, decide_eq_true_eq] at h
  obtain ⟨hprocess, hwait⟩ := h
  unfold CodexRun.live
  cases hp : r.process with
  | notStarted => rfl
  | failed => simp [CodexRun.hasProcess, hp] at hprocess
  | running => rcases hwait with hwait | hwait <;> rw [hwait] <;> rfl
  | exited => rcases hwait with hwait | hwait <;> rw [hwait] <;> rfl

/-- What a session promises about its Codex runs. -/
structure CodexBounded (cfg : Config) (es : List SessionEvent) : Prop where
  exclusive : ∀ {i j : Nat} {r r' : CodexRun}, ((sessionMachine cfg).run es).runs[i]? = some r →
    ((sessionMachine cfg).run es).runs[j]? = some r' → r.unwaited = true →
    r'.unwaited = true → i = j
  output : ∀ i, rawOutput cfg i newSession es ≤ 128 * 1024
  once : ∀ i, (conclusions ((sessionMachine cfg).trace es) i).length ≤ 1
  final : ∀ {i : Nat} {m : ServerMessage} {before after : List (Nat × ServerMessage)},
    codexSent ((sessionMachine cfg).trace es) = before ++ (i, m) :: after →
      isConclusion m = true → ∀ m', (i, m') ∈ after → m'.type ≠ .codexOutput

/-- A conclusion has nothing after it. -/
theorem Account.final {v : CodexView} {i raw : Nat} {before after : List ServerMessage}
    {m : ServerMessage} (h : Account v i (before ++ m :: after) raw) (hm : isConclusion m = true) :
    after = [] := by
  by_contra hafter
  have hmem : m ∈ (before ++ m :: after).dropLast := by
    rw [List.dropLast_append_of_ne_nil (by simp), List.dropLast_cons_of_ne_nil hafter]
    simp
  exact absurd (h.last m hmem) (by simp [hm])

/-- A run concludes once at most. -/
theorem Account.once {v : CodexView} {i raw : Nat} {ms : List ServerMessage}
    (h : Account v i ms raw) : (ms.filter isConclusion).length ≤ 1 := by
  rcases List.eq_nil_or_concat ms with rfl | ⟨init, last, rfl⟩
  · simp
  · have hnone : init.filter isConclusion = [] := by
      refine List.filter_eq_nil_iff.mpr fun m hm => ?_
      simp [h.last m (by rwa [List.concat_eq_append, List.dropLast_concat])]
    rw [List.concat_eq_append, List.filter_append, hnone, List.nil_append]
    exact List.length_filter_le _ _

/-- **One Codex process at a time, 128 KiB of output, and one last message**,
in every order of the steps. -/
theorem codex_exclusive (cfg : Config) (es : List SessionEvent) : CodexBounded cfg es where
  exclusive hr hr' hlive hlive' := by
    have hwf := codexWf_run cfg es
    have hi := hwf.live hr (CodexRun.live_of_unwaited hlive)
    have hj := hwf.live hr' (CodexRun.live_of_unwaited hlive')
    exact Option.some.inj (hi.symm.trans hj)
  output i := by
    have h := account_run cfg i es
    cases hr : ((sessionMachine cfg).run es).runs[i]? with
    | none => exact Nat.le_trans (Nat.le_of_eq (h.unknown hr).2) (Nat.zero_le _)
    | some r => exact Nat.le_trans (h.counted hr).1 (h.counted hr).2
  once i := (account_run cfg i es).once
  final {i m before after} heq hm m' hmem := by
    have h := account_run cfg i es
    rw [heq, part_append, show (i, m) :: after = [(i, m)] ++ after from rfl, part_append,
      part_singleton_self] at h
    have hnil : part i after = [] := h.final hm
    have hmem' : m' ∈ part i after := mem_part.mpr hmem
    rw [hnil] at hmem'
    cases hmem'

end Bootmux.Companion
