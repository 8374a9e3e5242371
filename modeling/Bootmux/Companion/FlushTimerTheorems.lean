/-
Bootmux.Companion.FlushTimerTheorems — no byte of the terminal waits
without a timer.

`Timely` is the invariant of the timed session: the bytes in `pending`
and their arrivals go together, the timer is on exactly while there are
some, and its deadline is within an interval of the oldest of them or of
the last flush. It says nothing about a session that has failed, which
stops before it arms the timer. `timed_refines` takes every timed run
back to a run of the session without a clock.

A step of the session that is none of `aggregate` leaves the timed part as
it is (`Untouched`), which settles most events at once. Within `aggregate`
the lemmas follow the functions of the source: `keep`, `flush`,
`consumeChunk` and the arms of the `select`, each with what it does to the
dates of the pending bytes (`Dated`).

The last section is about chunks that keep coming: they do not push the
deadline away, since the timer is armed for the first pending byte and not
for the last one (`Keeps`).
-/
import Bootmux.Companion.FlushTimer

namespace Bootmux.Companion

open Bootmux.Lib

/-! ## The session without a clock -/

/-- A timed step as a step of the session. -/
def erase (r : Timed × List Effect) : Session × List Effect := (r.1.session, r.2)

namespace Timed

section

variable {cfg : Config} {interval : Nat} {t : Timed}

theorem rearm_session : (t.rearm interval).session = Companion.rearm t.session := by
  unfold Timed.rearm
  split
  · next h =>
      have hdecide : decide (t.session.aggregate.pending ≠ []) = false := by
        rw [decide_eq_false_iff_not]
        exact fun hne => hne h
      rw [Companion.rearm, Session.locals, hdecide]
      rfl
  · next h =>
      have hdecide : decide (t.session.aggregate.pending ≠ []) = true := decide_eq_true h
      rw [Companion.rearm, Session.locals, hdecide]
      rfl

section

variable {ok refused : Timed → Timed} {ok' refused' : Session → Session}
  (hok : ∀ t : Timed, (ok t).session = ok' t.session)
  (hrefused : ∀ t : Timed, (refused t).session = refused' t.session)

include hok hrefused

/-- Without its times a send is the one of the session. -/
theorem enqueue_erase {origin : Origin} {item : OutboundMessage} :
    erase (t.enqueue cfg origin item ok refused) =
      t.session.enqueue cfg origin item ok' refused' := by
  unfold Timed.enqueue Session.enqueue
  split
  · exact Prod.ext (hok _) rfl
  · exact Prod.ext (hrefused t) rfl

theorem flush_erase {final : Bool} :
    erase (t.flush cfg final ok refused) = Companion.flush cfg t.session final ok' refused' := by
  unfold Timed.flush Companion.flush
  by_cases hempty : (utf8Prefix t.pending final).1 = []
  · have hempty' : (utf8Prefix t.session.aggregate.pending final).1 = [] := hempty
    simp only [if_pos hempty, if_pos hempty']
    exact Prod.ext (hok _) rfl
  · have hempty' : ¬ (utf8Prefix t.session.aggregate.pending final).1 = [] := hempty
    simp only [if_neg hempty, if_neg hempty']
    exact enqueue_erase hok hrefused

end

/-- The branches of `consumeChunk`, by the bytes there. -/
theorem consumeChunk_eq (data : Bytes) :
    t.consumeChunk cfg interval data =
      if (t.pending ++ data).length > cfg.max then
        (t.arrive data).onSession (failTerminal cfg (t.arrive data).session .outputOverflow)
      else if containsNewline (t.pending ++ data) ∨ (t.pending ++ data).length ≥ cfg.batch then
        (t.arrive data).flush cfg false (rearm interval) flushRefused
      else if t.pending = [] then ((t.arrive data).armTimer interval, [])
      else (t.arrive data, []) := rfl

theorem consumeChunk_erase (data : Bytes) :
    erase (t.consumeChunk cfg interval data) = Companion.consumeChunk cfg t.session data := by
  have hsession : Companion.consumeChunk cfg t.session data =
      if (t.pending ++ data).length > cfg.max then
        failTerminal cfg (t.arrive data).session .outputOverflow
      else if containsNewline (t.pending ++ data) ∨ (t.pending ++ data).length ≥ cfg.batch then
        Companion.flush cfg (t.arrive data).session false Companion.rearm Companion.flushRefused
      else if t.pending = [] then
        ((t.arrive data).session.locals fun a => { a with armed := true }, [])
      else ((t.arrive data).session, []) := rfl
  rw [consumeChunk_eq, hsession]
  split
  · rfl
  · split
    · exact flush_erase (fun _ => rearm_session) fun _ => rfl
    · split <;> rfl

/-- The timer has something to receive only when it has fired. -/
def Linked (t : Timed) : Prop := t.session.aggregate.armed = true ↔ t.timer ≠ .stopped

/-- A timer that has not fired has nothing to receive. -/
theorem aggregateSelect_erase (hlinked : t.Linked) (branch : Select) :
    erase (t.aggregateSelect cfg interval branch) =
        Companion.aggregateSelect cfg t.session branch ∨
      erase (t.aggregateSelect cfg interval branch) = (t.session, []) := by
  cases branch with
  | chunk =>
      left
      unfold Timed.aggregateSelect Companion.aggregateSelect
      dsimp only
      cases t.session.chunks with
      | nil => rfl
      | cons data rest => exact consumeChunk_erase data
  | timer =>
      unfold Timed.aggregateSelect Companion.aggregateSelect
      dsimp only
      cases htimer : t.timer with
      | stopped => exact .inr rfl
      | armed deadline => exact .inr rfl
      | fired deadline =>
          left
          rw [if_pos (hlinked.mpr (by rw [htimer]; simp))]
          exact flush_erase (fun _ => rearm_session) fun _ => rfl
  | _ => exact .inl rfl

theorem aggregateStep_erase (hlinked : t.Linked) (branch : Select) :
    erase (t.aggregateStep cfg interval branch) = Companion.aggregateStep cfg t.session branch ∨
      erase (t.aggregateStep cfg interval branch) = (t.session, []) := by
  unfold Timed.aggregateStep Companion.aggregateStep
  split
  · unfold Timed.aggregateBody Companion.aggregateBody
    cases hpc : t.session.aggregate.pc with
    | loop =>
        dsimp only
        split
        · left
          cases t.session.chunks with
          | nil => rfl
          | cons data rest => exact consumeChunk_erase data
        · exact aggregateSelect_erase hlinked branch
    | flushFinal => exact .inl (flush_erase (fun _ => rfl) fun _ => rfl)
    | _ => exact .inl rfl
  · exact .inr rfl

end

end Timed

/-! ## Steps that leave `pending` alone -/

/-- `aggregate` is between two iterations and has not failed. -/
def Session.Live (s : Session) : Prop := s.aggregate.pc = .loop ∧ s.aggregate.failed = false

/-- What `aggregate` relies on: chunks have bytes, and it only stops the
process after a failure. -/
structure Session.Sound (s : Session) : Prop where
  chunks : ∀ data ∈ s.chunks, data ≠ []
  stops : s.aggregate.pc = .acking ∨ s.aggregate.pc = .stopProcess → s.aggregate.failed = true

/-- A step that leaves `pending` and the timer alone. -/
structure Untouched (s s' : Session) : Prop where
  pending : s'.aggregate.pending = s.aggregate.pending
  armed : s'.aggregate.armed = s.aggregate.armed
  sound : s'.Sound
  live : s'.Live → s.Live

section

variable {cfg : Config} {s : Session}

/-- What leaves the chunks leaves them sound. -/
theorem Session.Sound.same {s' : Session} (h : s.Sound) (hchunks : s'.chunks = s.chunks)
    (haggregate : s'.aggregate = s.aggregate) : s'.Sound :=
  ⟨hchunks ▸ h.chunks, haggregate ▸ h.stops⟩

theorem Session.Sound.untouched {s' : Session} (h : s.Sound) (hchunks : s'.chunks = s.chunks)
    (haggregate : s'.aggregate = s.aggregate) : Untouched s s' :=
  ⟨by rw [haggregate], by rw [haggregate], h.same hchunks haggregate,
    by rw [Session.Live, haggregate]; exact id⟩

/-- `aggregate` goes somewhere else, or to its loop after a failure. -/
theorem Session.Sound.moves {s' : Session} (h : s.Sound)
    (hchunks : s'.chunks = s.chunks) (hpending : s'.aggregate.pending = s.aggregate.pending)
    (harmed : s'.aggregate.armed = s.aggregate.armed)
    (hpc : s'.aggregate.pc = .acking ∨ s'.aggregate.pc = .stopProcess ∨ s'.aggregate.pc = .loop →
      s'.aggregate.failed = true) : Untouched s s' where
  pending := hpending
  armed := harmed
  sound := ⟨hchunks ▸ h.chunks, fun hstop => hpc (hstop.elim .inl fun hstop => .inr (.inl hstop))⟩
  live hlive := absurd (hpc (.inr (.inr hlive.1))) (by rw [hlive.2]; exact Bool.false_ne_true)

theorem failTerminal_untouched (h : s.Sound) (code : Code) :
    Untouched s (failTerminal cfg s code).1 := by
  unfold failTerminal
  split
  · exact h.untouched rfl rfl
  · exact enqueue_rule (P := fun r => Untouched s r.1) (fun _ => h.moves rfl rfl rfl fun _ => rfl)
      (fun _ => h.moves rfl rfl rfl fun _ => rfl)

theorem Untouched.trans {t u : Session} (h : Untouched s t) (h' : Untouched t u) :
    Untouched s u :=
  ⟨h'.pending.trans h.pending, h'.armed.trans h.armed, h'.sound,
    fun hlive => h.live (h'.live hlive)⟩

/-- The branches of the `select` other than a chunk and the timer. -/
theorem aggregateSelect_untouched (h : s.Sound) {branch : Select}
    (hchunk : branch ≠ .chunk) (htimer : branch ≠ .timer) :
    Untouched s (aggregateSelect cfg s branch).1 := by
  have hlocal : ∀ {s' : Session}, s'.chunks = s.chunks →
      s'.aggregate.pending = s.aggregate.pending → s'.aggregate.armed = s.aggregate.armed →
      s'.aggregate.pc = s.aggregate.pc → s'.aggregate.failed = s.aggregate.failed →
      Untouched s s' := by
    intro s' hchunks hpending harmed hpc' hfailed
    exact ⟨hpending, harmed, ⟨hchunks ▸ h.chunks, by rw [hpc', hfailed]; exact h.stops⟩,
      by rw [Session.Live, hpc', hfailed]; exact id⟩
  cases branch with
  | chunk => exact absurd rfl hchunk
  | timer => exact absurd rfl htimer
  | cancel =>
      simp only [aggregateSelect]
      split
      · exact hlocal rfl rfl rfl rfl rfl
      · exact h.untouched rfl rfl
  | inputFailure =>
      simp only [aggregateSelect]
      split
      · exact failTerminal_untouched h _
      · exact h.untouched rfl rfl
  | overflow =>
      simp only [aggregateSelect]
      split
      · exact failTerminal_untouched h _
      · exact h.untouched rfl rfl
  | process =>
      simp only [aggregateSelect]
      split
      · exact h.untouched rfl rfl
      · exact hlocal rfl rfl rfl rfl rfl
  | reader =>
      simp only [aggregateSelect]
      split
      · exact h.untouched rfl rfl
      · have hread : Untouched s (({ s with reader := none } : Session).locals fun a =>
            { a with ptyReaderFinished := true }) := hlocal rfl rfl rfl rfl rfl
        split
        · exact hread.trans (failTerminal_untouched hread.sound _)
        · exact hread.trans (failTerminal_untouched hread.sound _)
        · exact hread
        · exact hread
        · exact hread

/-- What `aggregate` does outside its loops, the last flush apart. -/
theorem aggregateBody_untouched (h : s.Sound) {branch : Select} (hloop : s.aggregate.pc ≠ .loop)
    (hflush : s.aggregate.pc ≠ .flushFinal) : Untouched s (aggregateBody cfg s branch).1 := by
  unfold aggregateBody
  split
  · next hpc => exact absurd hpc hloop
  · next hpc => exact h.moves rfl rfl rfl fun _ => h.stops (.inl hpc)
  · next hpc =>
      exact callStopProcess_rule (P := Untouched s) (fun _ => h.untouched rfl rfl)
        (fun _ => h.moves rfl rfl rfl fun _ => h.stops (.inr hpc)) (h.untouched rfl rfl)
  · refine h.moves rfl rfl rfl fun hpc => ?_
    simp only [Session.locals] at hpc
    split at hpc <;> simp at hpc
  · next hpc => exact absurd hpc hflush
  · exact enqueue_rule (P := fun r => Untouched s r.1)
      (fun _ => h.moves rfl rfl rfl fun hpc => by simp [Session.setAggregate] at hpc)
      (fun _ => h.moves rfl rfl rfl fun _ => rfl)
  · exact h.moves rfl rfl rfl fun hpc => by simp [Session.setAggregate] at hpc
  · split
    · exact h.moves rfl rfl rfl fun hpc => by simp [Session.setAggregate] at hpc
    · exact h.untouched rfl rfl
  · exact h.untouched rfl rfl

theorem afterRead_untouched (h : s.Sound) (err : Option ReadError) :
    Untouched s (afterRead s err) := by
  cases err with
  | none => exact h.untouched rfl rfl
  | some err => exact h.untouched rfl rfl

theorem readPTY_untouched (h : s.Sound) (data : Bytes) (err : Option ReadError)
    (viaCancel : Bool) : Untouched s (readPTY cfg s data err viaCancel).1 := by
  unfold readPTY
  split
  · split
    · exact h.untouched rfl rfl
    · split
      · exact afterRead_untouched h err
      · next hdata =>
          split
          · have hsound : Session.Sound { s with chunks := s.chunks ++ [data] } := by
              refine ⟨fun x hx => ?_, h.stops⟩
              rcases List.mem_append.mp hx with hx | hx
              · exact h.chunks x hx
              · rw [List.mem_singleton.mp hx]
                exact hdata
            have hchunk : Untouched s { s with chunks := s.chunks ++ [data] } :=
              ⟨rfl, rfl, hsound, id⟩
            exact hchunk.trans (afterRead_untouched hsound err)
          · split <;> exact h.untouched rfl rfl
  · exact h.untouched rfl rfl

/-- The steps of the other goroutines. -/
theorem sessionStep_untouched (h : s.Sound) {e : SessionEvent}
    (haggregate : ∀ branch, e ≠ .aggregate branch) : Untouched s (sessionStep cfg s e).1 := by
  by_cases hread : ∃ data err viaCancel, e = .readPTY data err viaCancel
  · obtain ⟨data, err, viaCancel, rfl⟩ := hread
    exact readPTY_untouched h data err viaCancel
  · by_cases hresult : e = .ptyResult
    · rw [hresult]
      simp only [sessionStep, ptyResult]
      split <;> exact h.untouched rfl rfl
    · have haside : Aside s (sessionStep cfg s e) := sessionStep_aside
        (fun data err viaCancel heq => hread ⟨data, err, viaCancel, heq⟩) hresult haggregate
      have hframe := haside.frame
      exact h.untouched hframe.chunks hframe.aggregate

end

/-! ## The invariant of the timed session -/

namespace Timed

/-- Every pending byte has its time of arrival. -/
structure Dated (t : Timed) : Prop where
  aligned : t.arrivals.length = t.pending.length
  ordered : t.arrivals.Pairwise (· ≤ ·)
  past : ∀ time ∈ t.arrivals, time ≤ t.now

structure Timely (interval : Nat) (t : Timed) : Prop where
  sound : t.session.Sound
  linked : t.Linked
  dated : t.Dated
  /-- The timer is on iff bytes are pending. -/
  waiting : t.session.Live → (t.pending ≠ [] ↔ t.timer ≠ .stopped)
  inTime : t.session.Live → ∀ deadline ∈ t.timer.deadline,
    deadline ≤ max t.oldest t.lastAttempt + interval

section

variable {cfg : Config} {interval : Nat} {t : Timed}

/-- A chunk that arrives gets its time. -/
theorem Dated.arrive (h : t.Dated) (data : Bytes) : (t.arrive data).Dated where
  aligned := by
    show (t.arrivals ++ List.replicate data.length t.now).length = (t.pending ++ data).length
    rw [List.length_append, List.length_append, List.length_replicate, h.aligned]
  ordered := by
    refine List.pairwise_append.mpr ⟨h.ordered, List.pairwise_replicate.mpr (.inr le_rfl), ?_⟩
    intro a ha b hb
    rw [List.eq_of_mem_replicate hb]
    exact h.past a ha
  past := by
    intro a ha
    rcases List.mem_append.mp ha with ha | ha
    · exact h.past a ha
    · exact (List.eq_of_mem_replicate ha).le

/-- What is flushed loses its times from the front. -/
theorem Dated.keep (h : t.Dated) {rest : Bytes} (hrest : rest.length ≤ t.pending.length) :
    (t.keep rest).Dated where
  aligned := by
    show (t.arrivals.drop (t.pending.length - rest.length)).length = rest.length
    rw [List.length_drop, h.aligned]
    omega
  ordered := h.ordered.sublist (List.drop_sublist _ _)
  past := fun a ha => h.past a (List.mem_of_mem_drop ha)

/-- After a flush the timer is stopped when nothing is left, and starts
again when something is. -/
theorem rearm_timely (hsound : t.session.Sound) (hdated : t.Dated) (hnow : t.lastAttempt = t.now) :
    (t.rearm interval).Timely interval := by
  unfold Timed.rearm
  split
  · next hpending =>
      refine ⟨⟨hsound.chunks, hsound.stops⟩, ?_,
        ⟨hdated.aligned, hdated.ordered, hdated.past⟩, ?_, ?_⟩
      · exact ⟨fun harmed => absurd harmed Bool.false_ne_true, fun hne => absurd rfl hne⟩
      · exact fun _ => ⟨fun hne => absurd hpending hne, fun hne => absurd rfl hne⟩
      · exact fun _ _ hdeadline => absurd hdeadline (by simp [stopTimer, FlushTimer.deadline])
  · next hpending =>
      refine ⟨⟨hsound.chunks, hsound.stops⟩, ?_,
        ⟨hdated.aligned, hdated.ordered, hdated.past⟩, ?_, ?_⟩
      · exact ⟨fun _ => by simp [armTimer], fun _ => rfl⟩
      · exact fun _ => ⟨fun _ => by simp [armTimer], fun _ => hpending⟩
      · intro _ deadline hdeadline
        obtain rfl : t.now + interval = deadline := by
          simpa [armTimer, FlushTimer.deadline] using hdeadline
        have hlast : (t.armTimer interval).lastAttempt = t.now := hnow
        rw [hlast]
        omega

/-- A flush leaves no more than there was. -/
theorem rest_length_le (data : Bytes) (final : Bool) :
    (utf8Prefix data final).2.length ≤ data.length := by
  unfold utf8Prefix
  split
  · exact Nat.zero_le _
  · dsimp only
    split
    · exact le_rfl
    · exact (List.drop_sublist _ _).length_le

/-- A flush goes on from the session with the rest, its message queued or
not. -/
theorem flush_rule {P : Timed × List Effect → Prop} {final : Bool} {ok refused : Timed → Timed}
    (rest : Bytes) (hrest : (utf8Prefix t.pending final).2 = rest)
    (hok : ∀ outbound effects, P (ok { t.keep rest with
      session := { (t.keep rest).session with outbound := outbound } }, effects))
    (hrefused : P (refused (t.keep rest), [])) : P (t.flush cfg final ok refused) := by
  subst hrest
  unfold Timed.flush Timed.enqueue
  dsimp only
  split
  · exact hok t.session.outbound []
  · split
    · exact hok _ _
    · exact hrefused

/-- A session that has just failed. -/
theorem Timely.failed (hsound : t.session.Sound) (hlinked : t.Linked) (hdated : t.Dated)
    (hfailed : ¬ t.session.Live) : t.Timely interval :=
  ⟨hsound, hlinked, hdated, fun hlive => absurd hlive hfailed, fun hlive => absurd hlive hfailed⟩

/-- After a flush the timer runs for what is left. -/
theorem flush_timely (hsound : t.session.Sound) (hlinked : t.Linked) (hdated : t.Dated) :
    (t.flush cfg false (rearm interval) flushRefused).1.Timely interval := by
  have hkeep := hdated.keep (rest_length_le t.pending false)
  refine flush_rule (P := fun r => r.1.Timely interval) _ rfl (fun outbound effects => ?_) ?_
  · exact rearm_timely ⟨hsound.chunks, hsound.stops⟩ ⟨hkeep.aligned, hkeep.ordered, hkeep.past⟩ rfl
  · refine .failed ⟨hsound.chunks, fun _ => rfl⟩ hlinked
      ⟨hkeep.aligned, hkeep.ordered, hkeep.past⟩ fun hlive => ?_
    exact AggregatePc.noConfusion hlive.1

section

variable {r : Session × List Effect} (hr : Untouched t.session r.1)

include hr

theorem Linked.onSession (h : t.Linked) : (t.onSession r).1.Linked := by
  show r.1.aggregate.armed = true ↔ t.timer ≠ .stopped
  rw [hr.armed]
  exact h

theorem Dated.onSession (h : t.Dated) : (t.onSession r).1.Dated :=
  ⟨h.aligned.trans (congrArg List.length hr.pending).symm, h.ordered, h.past⟩

/-- A step of the session that leaves `pending` and the timer alone. -/
theorem Timely.onSession (h : t.Timely interval) : (t.onSession r).1.Timely interval where
  sound := hr.sound
  linked := h.linked.onSession hr
  dated := h.dated.onSession hr
  waiting hlive := by
    show r.1.aggregate.pending ≠ [] ↔ t.timer ≠ .stopped
    rw [hr.pending]
    exact h.waiting (hr.live hlive)
  inTime hlive := h.inTime (hr.live hlive)

end

theorem failTerminal_failed (s : Session) (code : Code) :
    (failTerminal cfg s code).1.aggregate.failed = true := by
  unfold failTerminal
  split
  · assumption
  · exact enqueue_rule (P := fun r => r.1.aggregate.failed = true) (fun _ => rfl) (fun _ => rfl)

theorem consumeChunk_timely (h : t.Timely interval) {data : Bytes} (hdata : data ≠ []) :
    (t.consumeChunk cfg interval data).1.Timely interval := by
  have hsound : (t.arrive data).session.Sound := ⟨h.sound.chunks, h.sound.stops⟩
  have hlinked : (t.arrive data).Linked := h.linked
  have hdated := h.dated.arrive data
  have hne : (t.arrive data).pending ≠ [] := fun heq =>
    hdata (List.append_eq_nil_iff.mp heq).2
  rw [consumeChunk_eq]
  split
  · -- too much output
    have hterminal := @failTerminal_untouched cfg _ hsound .outputOverflow
    refine .failed hterminal.sound (hlinked.onSession hterminal) (hdated.onSession hterminal)
      fun hlive => ?_
    exact Bool.false_ne_true (hlive.2.symm.trans (failTerminal_failed _ _))
  · split
    · exact flush_timely hsound hlinked hdated
    · split
      · next hempty =>
          -- the first bytes: the interval starts with them
          have harrivals : t.arrivals = [] := by
            rw [← List.length_eq_zero_iff, h.dated.aligned, hempty]
            rfl
          refine ⟨⟨hsound.chunks, hsound.stops⟩, ?_,
            ⟨hdated.aligned, hdated.ordered, hdated.past⟩, ?_, ?_⟩
          · exact ⟨fun _ => by simp [armTimer], fun _ => rfl⟩
          · exact fun _ => ⟨fun _ => by simp [armTimer], fun _ => hne⟩
          · intro _ deadline hdeadline
            obtain rfl : (t.arrive data).now + interval = deadline := by
              simpa [armTimer, FlushTimer.deadline] using hdeadline
            have holdest : ((t.arrive data).armTimer interval).oldest = (t.arrive data).now := by
              show (t.arrivals ++ List.replicate data.length t.now).headD 0 = t.now
              obtain ⟨b, data, rfl⟩ := List.exists_cons_of_ne_nil hdata
              rw [harrivals]
              rfl
            rw [holdest]
            omega
      · next hpending =>
          -- later bytes: the timer is on and stays as it is
          have harrivals : t.arrivals ≠ [] := by
            rw [← List.length_pos_iff, h.dated.aligned, List.length_pos_iff]
            exact hpending
          have holdest : (t.arrive data).oldest = t.oldest := by
            obtain ⟨a, arrivals, hcons⟩ := List.exists_cons_of_ne_nil harrivals
            show (t.arrivals ++ List.replicate data.length t.now).headD 0 = t.arrivals.headD 0
            rw [hcons]
            rfl
          refine ⟨hsound, hlinked, hdated, fun hlive => ?_, fun hlive => ?_⟩
          · exact ⟨fun _ => (h.waiting hlive).mp hpending, fun _ => hne⟩
          · rw [holdest]
            exact h.inTime hlive

theorem takeChunk_timely (h : t.Timely interval) {data : Bytes} {rest : List Bytes}
    (hchunks : t.session.chunks = data :: rest) :
    (t.takeChunk cfg interval data rest).1.Timely interval := by
  have hrest : Session.Sound { t.session with chunks := rest } :=
    ⟨fun x hx => h.sound.chunks x (hchunks ▸ List.mem_cons_of_mem data hx), h.sound.stops⟩
  have htaken : Timely interval { t with session := { t.session with chunks := rest } } :=
    ⟨hrest, h.linked, ⟨h.dated.aligned, h.dated.ordered, h.dated.past⟩, h.waiting, h.inTime⟩
  exact consumeChunk_timely htaken (h.sound.chunks data (hchunks ▸ List.mem_cons_self))

theorem aggregateSelect_timely (h : t.Timely interval) (branch : Select) :
    (t.aggregateSelect cfg interval branch).1.Timely interval := by
  cases branch with
  | chunk =>
      unfold Timed.aggregateSelect
      dsimp only
      split
      · exact h
      · next data rest hchunks => exact takeChunk_timely h hchunks
  | timer =>
      unfold Timed.aggregateSelect
      dsimp only
      split
      · refine flush_timely ⟨h.sound.chunks, h.sound.stops⟩ ?_
          ⟨h.dated.aligned, h.dated.ordered, h.dated.past⟩
        exact ⟨fun harmed => absurd harmed Bool.false_ne_true, fun hne => absurd rfl hne⟩
      · exact h
      · exact h
  | _ => exact Timely.onSession (aggregateSelect_untouched h.sound (by simp) (by simp)) h

theorem aggregateStep_timely (h : t.Timely interval) (branch : Select) :
    (t.aggregateStep cfg interval branch).1.Timely interval := by
  unfold Timed.aggregateStep
  split
  · unfold Timed.aggregateBody
    split
    · split
      · split
        · refine Timely.onSession (r := (t.session.setAggregate .finish, [])) ?_ h
          exact h.sound.moves rfl rfl rfl fun hpc => by simp [Session.setAggregate] at hpc
        · next data rest hchunks => exact takeChunk_timely h hchunks
      · exact aggregateSelect_timely h branch
    · -- the last flush
      have hkeep := h.dated.keep (rest_length_le t.pending true)
      refine flush_rule (P := fun r => r.1.Timely interval) _ rfl (fun outbound effects => ?_) ?_
      · refine .failed ⟨h.sound.chunks, fun hpc => ?_⟩ h.linked
          ⟨hkeep.aligned, hkeep.ordered, hkeep.past⟩ fun hlive => AggregatePc.noConfusion hlive.1
        rcases hpc with hpc | hpc <;> cases hpc
      · exact .failed ⟨h.sound.chunks, fun _ => rfl⟩ h.linked
          ⟨hkeep.aligned, hkeep.ordered, hkeep.past⟩ fun hlive => AggregatePc.noConfusion hlive.1
    · next hloop hflush => exact Timely.onSession (aggregateBody_untouched h.sound hloop hflush) h
  · exact h

end

end Timed

/-! ## A whole run -/

section

variable {cfg : Config} {interval : Nat} {t : Timed}

open Timed

/-- Beside `aggregate` nothing has times. -/
theorem timedStep_session {e : SessionEvent} (h : ∀ branch, e ≠ .aggregate branch) :
    timedStep cfg interval t (.session e) = t.onSession (sessionStep cfg t.session e) := by
  cases e with
  | aggregate branch => exact absurd rfl (h branch)
  | _ => rfl

theorem timedStep_timely (h : t.Timely interval) (e : TimedEvent) :
    (timedStep cfg interval t e).1.Timely interval := by
  cases e with
  | session e =>
      by_cases haggregate : ∃ branch, e = .aggregate branch
      · obtain ⟨branch, rfl⟩ := haggregate
        exact aggregateStep_timely h branch
      · have hother : ∀ branch, e ≠ .aggregate branch := fun branch heq => haggregate ⟨branch, heq⟩
        rw [timedStep_session hother]
        exact Timely.onSession (sessionStep_untouched h.sound hother) h
  | pass time =>
      exact ⟨h.sound, h.linked, ⟨h.dated.aligned, h.dated.ordered, fun a ha =>
        (h.dated.past a ha).trans (Nat.le_add_right _ _)⟩, h.waiting, h.inTime⟩
  | fire =>
      unfold timedStep
      dsimp only
      split
      · next deadline htimer =>
          split
          · have hne : t.timer ≠ .stopped := by rw [htimer]; simp
            have hdeadline : ∀ d, d ∈ (FlushTimer.fired deadline).deadline →
                d ∈ t.timer.deadline := by
              rw [htimer]
              exact fun d hd => hd
            refine ⟨h.sound, ?_, ⟨h.dated.aligned, h.dated.ordered, h.dated.past⟩,
              fun hlive => ?_, fun hlive d hd => ?_⟩
            · exact ⟨fun _ => by simp, fun _ => h.linked.mpr hne⟩
            · exact ⟨fun _ => by simp, fun _ => (h.waiting hlive).mpr hne⟩
            · exact h.inTime hlive d (hdeadline d hd)
          · exact h
      · exact h
      · exact h

/-- The induction over a timed run. -/
theorem timely_run (cfg : Config) (interval : Nat) (es : List TimedEvent) :
    ((timedMachine cfg interval).run es).Timely interval := by
  refine (timedMachine cfg interval).run_invariant (I := Timely interval) ?_
    (fun _ e h => timedStep_timely h e) es
  refine ⟨⟨fun _ h => absurd h List.not_mem_nil, fun h => by rcases h with h | h <;> cases h⟩, ?_,
    ⟨rfl, List.Pairwise.nil, fun _ h => absurd h List.not_mem_nil⟩, ?_, ?_⟩
  · exact ⟨fun h => absurd h Bool.false_ne_true, fun h => absurd rfl h⟩
  · exact fun _ => ⟨fun h => absurd rfl h, fun h => absurd rfl h⟩
  · exact fun _ _ h => absurd h (by simp [timedMachine, FlushTimer.deadline])

theorem timedStep_erase (hlinked : t.Linked) (e : TimedEvent) :
    (∃ f, erase (timedStep cfg interval t e) = sessionStep cfg t.session f) ∨
      erase (timedStep cfg interval t e) = (t.session, []) := by
  cases e with
  | session e =>
      by_cases haggregate : ∃ branch, e = .aggregate branch
      · obtain ⟨branch, rfl⟩ := haggregate
        exact (aggregateStep_erase hlinked branch).imp (fun h => ⟨.aggregate branch, h⟩) id
      · left
        refine ⟨e, ?_⟩
        rw [timedStep_session fun branch heq => haggregate ⟨branch, heq⟩]
        rfl
  | pass time => exact .inr rfl
  | fire =>
      right
      unfold timedStep
      dsimp only
      split
      · split <;> rfl
      · rfl
      · rfl

/-- **A timed run is a run of the session.** -/
theorem timed_refines (cfg : Config) (interval : Nat) (es : List TimedEvent) :
    ∃ fs, erase ((timedMachine cfg interval).run es, (timedMachine cfg interval).trace es) =
      ((sessionMachine cfg).run fs, (sessionMachine cfg).trace fs) := by
  induction es using List.reverseRecOn with
  | nil => exact ⟨[], rfl⟩
  | append_singleton es e ih =>
      obtain ⟨fs, hfs⟩ := ih
      obtain ⟨hsession, htrace⟩ := Prod.ext_iff.mp hfs
      simp only [erase] at hsession htrace
      rw [Machine.run_concat, Machine.trace_concat]
      rcases timedStep_erase (timely_run cfg interval es).linked e with ⟨f, hf⟩ | hf
      · obtain ⟨hnext, heffects⟩ := Prod.ext_iff.mp hf
        refine ⟨fs ++ [f], ?_⟩
        rw [Machine.run_concat, Machine.trace_concat, ← hsession, ← htrace]
        exact Prod.ext hnext (congrArg ((timedMachine cfg interval).trace es ++ ·) heffects)
      · obtain ⟨hnext, heffects⟩ := Prod.ext_iff.mp hf
        refine ⟨fs, ?_⟩
        rw [← hsession, ← htrace]
        have hsame := congrArg ((timedMachine cfg interval).trace es ++ ·) heffects
        exact Prod.ext hnext (hsame.trans (List.append_nil _))

/-! ## Bytes that come later do not postpone the flush -/

theorem flush_attempts {final : Bool} {ok refused : Timed → Timed}
    (hok : ∀ t : Timed, (ok t).attempts = t.attempts)
    (hrefused : ∀ t : Timed, (refused t).attempts = t.attempts) :
    (t.flush cfg final ok refused).1.attempts = t.now :: t.attempts :=
  Timed.flush_rule (P := fun r => r.1.attempts = t.now :: t.attempts) _ rfl (fun _ _ => hok _)
    (hrefused _)

theorem rearm_attempts (t : Timed) : (t.rearm interval).attempts = t.attempts := by
  unfold Timed.rearm
  split <;> rfl

/-- A step without a flush leaves the deadline of bytes that wait. -/
def Keeps (t : Timed) (r : Timed × List Effect) : Prop :=
  r.1.attempts = t.attempts → r.1.timer.deadline = t.timer.deadline

theorem flush_keeps {u : Timed} (hu : u.attempts = t.attempts) {final : Bool}
    {ok refused : Timed → Timed} (hok : ∀ t : Timed, (ok t).attempts = t.attempts)
    (hrefused : ∀ t : Timed, (refused t).attempts = t.attempts) :
    Keeps t (u.flush cfg final ok refused) := by
  intro hsame
  rw [flush_attempts hok hrefused, hu] at hsame
  exact absurd hsame (List.cons_ne_self _ _)

theorem consumeChunk_keeps (hpending : t.pending ≠ []) (data : Bytes) :
    Keeps t (t.consumeChunk cfg interval data) := by
  rw [consumeChunk_eq]
  split
  · exact fun _ => rfl
  · split
    · exact flush_keeps rfl rearm_attempts fun _ => rfl
    · exact fun _ => rfl

theorem takeChunk_keeps (hpending : t.pending ≠ []) (data : Bytes) (rest : List Bytes) :
    Keeps t (t.takeChunk cfg interval data rest) :=
  consumeChunk_keeps (t := { t with session := { t.session with chunks := rest } }) hpending data

theorem onSession_keeps (r : Session × List Effect) : Keeps t (t.onSession r) := fun _ => rfl

theorem keeps_refl (t : Timed) : Keeps t (t, []) := fun _ => rfl

theorem aggregateSelect_keeps (hpending : t.pending ≠ []) (branch : Select) :
    Keeps t (t.aggregateSelect cfg interval branch) := by
  cases branch with
  | chunk =>
      unfold Timed.aggregateSelect
      dsimp only
      split
      · exact keeps_refl t
      · exact takeChunk_keeps hpending _ _
  | timer =>
      unfold Timed.aggregateSelect
      dsimp only
      split
      · refine flush_keeps ?_ rearm_attempts fun _ => rfl
        rfl
      · exact keeps_refl t
      · exact keeps_refl t
  | cancel | inputFailure | overflow | process | reader => exact onSession_keeps _

theorem aggregateStep_keeps (hpending : t.pending ≠ []) (branch : Select) :
    Keeps t (t.aggregateStep cfg interval branch) := by
  unfold Timed.aggregateStep
  split
  · unfold Timed.aggregateBody
    split
    · split
      · split
        · exact onSession_keeps (_, [])
        · exact takeChunk_keeps hpending _ _
      · exact aggregateSelect_keeps hpending branch
    · exact flush_keeps rfl (fun _ => rfl) fun _ => rfl
    · exact onSession_keeps _
  · exact keeps_refl t

theorem timedStep_keeps (hpending : t.pending ≠ []) (e : TimedEvent) :
    Keeps t (timedStep cfg interval t e) := by
  cases e with
  | session e =>
      by_cases haggregate : ∃ branch, e = .aggregate branch
      · obtain ⟨branch, rfl⟩ := haggregate
        exact aggregateStep_keeps hpending branch
      · rw [timedStep_session fun branch heq => haggregate ⟨branch, heq⟩]
        exact onSession_keeps _
  | pass time => exact fun _ => rfl
  | fire =>
      unfold timedStep
      dsimp only
      split
      · next deadline htimer =>
          split
          · intro _
            rw [htimer]
            rfl
          · exact keeps_refl t
      · exact keeps_refl t
      · exact keeps_refl t

/-- The times are in their order. -/
theorem oldest_le (h : t.Dated) : ∀ time ∈ t.arrivals, t.oldest ≤ time := by
  intro time htime
  have hordered := h.ordered
  unfold Timed.oldest
  cases harrivals : t.arrivals with
  | nil => rw [harrivals] at htime; cases htime
  | cons a arrivals =>
      rw [harrivals] at htime hordered
      rcases List.mem_cons.mp htime with rfl | htime
      · exact le_rfl
      · exact List.rel_of_pairwise_cons hordered htime

/-- No byte of a session waits without a timer. -/
structure NoneWaits (cfg : Config) (interval : Nat) (t : Timed) : Prop where
  /-- Bytes are pending iff the timer is armed, or has fired and has not
  been received. -/
  waiting : t.pending ≠ [] ↔ t.timer ≠ .stopped
  aligned : t.arrivals.length = t.pending.length
  oldest : ∀ time ∈ t.arrivals, t.oldest ≤ time
  inTime : ∀ deadline ∈ t.timer.deadline, deadline ≤ max t.oldest t.lastAttempt + interval
  /-- While bytes are pending, only a flush moves the deadline. -/
  stays : t.pending ≠ [] → ∀ e, Keeps t (timedStep cfg interval t e)

/-- **As long as a session has not failed, no byte waits without a timer
after an iteration of `aggregate`.** -/
theorem no_byte_waits (cfg : Config) (interval : Nat) (es : List TimedEvent)
    (hlive : ((timedMachine cfg interval).run es).session.Live) :
    NoneWaits cfg interval ((timedMachine cfg interval).run es) :=
  have h := timely_run cfg interval es
  { waiting := h.waiting hlive
    aligned := h.dated.aligned
    oldest := oldest_le h.dated
    inTime := h.inTime hlive
    stays := fun hpending e => timedStep_keeps hpending e }

end

/-- The letter a, read 5 after the start; b 20 later. -/
def lettersEvents : List TimedEvent :=
  [.session .run, .session (.readPTY [0x61] none false), .pass 5, .session (.aggregate .chunk),
    .session (.readPTY [0x62] none false), .pass 20, .session (.aggregate .chunk)]

/-- The timer was armed for the a and is left alone by the b. -/
theorem no_byte_waits_letters :
    let t := (timedMachine (defaultConfig [0x73] fun _ => none) 35).run lettersEvents
    t.pending = [0x61, 0x62] ∧ t.timer = .armed 40 ∧
      NoneWaits (defaultConfig [0x73] fun _ => none) 35 t :=
  ⟨by decide, by decide, no_byte_waits _ 35 lettersEvents ⟨by decide, by decide⟩⟩

end Bootmux.Companion
