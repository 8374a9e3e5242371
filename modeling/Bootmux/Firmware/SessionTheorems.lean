/-
Bootmux.Firmware.SessionTheorems — no key is pressed outside a session.

The session a firmware should be in is read off the events alone: the
last `OPEN` since the last disconnect, if there is one (`lastOpened`).
`KeysInSession` asks that every step that presses a key is caused by a
frame that carries this session, and that the session is not empty.

Both firmwares compare the session field of a frame with a session
variable that is empty while no session is open. An empty field passes
that comparison. The bridge is even ready to type at boot; the router is
not, but a `RESUME` with an empty field makes it so. The router also cuts
a session to 63 bytes, so a longer one is not the one it opens. The
result is about the runs without either.
-/
import Bootmux.Bridge.ReceiverTheorems
import Bootmux.Router.DispatcherTheorems

namespace Bootmux.Firmware

open Bootmux.Bmx1
open Bootmux.Lib

/-! ## The session of a run -/

section Sessions

variable {σ ε ο : Type}

/-- Where a machine has sessions: the events that open one, the events
that end it, the session an input event carries, and the outputs that
press a key. -/
structure SessionEvents (ε ο : Type) where
  opens : ε → Option Bytes
  ends : ε → Bool
  carries : ε → Option Bytes
  presses : List ο → Bool

/-- The session opened last and not ended since. -/
def SessionEvents.lastOpened (v : SessionEvents ε ο) : List ε → Option Bytes :=
  List.foldl (fun open_ e => match v.opens e with
    | some session => some session
    | none => if v.ends e then none else open_) none

/-- The session variable after an event. -/
def SessionEvents.next (v : SessionEvents ε ο) (session : Bytes) (e : ε) : Bytes :=
  match v.opens e with
  | some opened => opened
  | none => if v.ends e then [] else session

/-- Every key of the run is pressed by a frame of the session in force,
and there is one. -/
def SessionEvents.KeysInSession (v : SessionEvents ε ο) (m : Machine σ ε ο) (es : List ε) :
    Prop :=
  ∀ before e after, es = before ++ e :: after →
    v.presses (m.step (m.run before) e).2 = true →
    ∃ session, session ≠ [] ∧ v.lastOpened before = some session ∧
      v.carries e = some session

theorem SessionEvents.lastOpened_concat (v : SessionEvents ε ο) (es : List ε) (e : ε) :
    (v.lastOpened (es ++ [e])).getD [] = v.next ((v.lastOpened es).getD []) e := by
  simp only [lastOpened, next, List.foldl_append, List.foldl_cons, List.foldl_nil]
  cases v.opens e with
  | some session => rfl
  | none => cases v.ends e <;> rfl

/-- A machine that keeps the session in a variable, empty for none, and
presses keys only for frames that carry a non-empty one. -/
theorem SessionEvents.keysInSession_run (v : SessionEvents ε ο) (m : Machine σ ε ο)
    (session : σ → Bytes) {P : σ → ε → Prop} (hinit : session m.init = [])
    (hnext : ∀ s e, P s e → session (m.step s e).1 = v.next (session s) e)
    (hkey : ∀ s e, P s e → v.presses (m.step s e).2 = true →
      v.carries e = some (session s) ∧ session s ≠ [])
    (es : List ε) (hp : m.AllSteps P m.init es) : v.KeysInSession m es := by
  rintro before e after rfl hpress
  have hsession : session (m.run before) = (v.lastOpened before).getD [] := by
    refine m.events_invariant (P := P)
      (I := fun h s => session s = (v.lastOpened h).getD []) hinit ?_ before
      (m.allSteps_left hp)
    intro h s e hs he
    rw [hnext s e he, hs, v.lastOpened_concat]
  obtain ⟨hcarry, hne⟩ := hkey (m.run before) e ((m.allSteps_append _ _ _ _).mp hp).2.1 hpress
  refine ⟨session (m.run before), hne, ?_, hcarry⟩
  cases hopen : v.lastOpened before with
  | none => rw [hsession, hopen] at hne; exact absurd rfl hne
  | some opened => rw [hsession, hopen]; rfl

end Sessions

/-! ## The bridge -/

def bridgeSessions : SessionEvents Bridge.Event Bridge.Effect where
  opens e := match e.op with
    | some (.opened session) => some session
    | _ => none
  ends e := match e with
    | .disconnect => true
    | _ => false
  carries e := match e.op with
    | some (.control session _ _) => some session
    | some (.text p) => some p.origin
    | _ => none
  presses t := t.any Bridge.Effect.isKey

/-- No control or text with an empty session while no session is open. -/
def BridgeNamed (s : Bridge.State) (e : Bridge.Event) : Prop :=
  bridgeSessions.carries e = some [] → s.activeSession ≠ []

instance (s : Bridge.State) (e : Bridge.Event) : Decidable (BridgeNamed s e) :=
  inferInstanceAs (Decidable (_ → _))

/-- An event changes the bridge's session by opening or ending one only. -/
theorem bridge_next (s : Bridge.State) (e : Bridge.Event) :
    (Bridge.step s e).1.activeSession = bridgeSessions.next s.activeSession e := by
  have hsame : ∀ e : Bridge.Event, (∀ session, e.op ≠ some (.opened session)) →
      e ≠ .disconnect → bridgeSessions.next s.activeSession e = s.activeSession := by
    intro e hop hd
    have hopens : bridgeSessions.opens e = none := by
      simp only [bridgeSessions]
    have hends : bridgeSessions.ends e = false := by
      cases e <;> first | rfl | exact absurd rfl hd
    simp [SessionEvents.next, hopens, hends]
  by_cases hd : e = .disconnect
  · subst hd; rfl
  refine Bridge.step_rule s (Q := fun e r => e ≠ .disconnect →
    r.1.activeSession = bridgeSessions.next s.activeSession e) ?_ ?_ ?_ ?_ ?_ ?_ ?_ e hd
  · intro e effs hop _ hd; rw [hsame e hop hd]
  · intro _; rfl
  · intro h; exact absurd rfl h
  · intro now _; rfl
  · intro _ _ _ session hop _
    simp [SessionEvents.next, bridgeSessions, Bridge.Event.op, hop, Bridge.openSession]
  · intro t₁ t₂ bytes q c hop hd
    rw [hsame _ (by simp [Bridge.Event.op, hop]) hd]
    exact (Bridge.applyControl_frame s q c).1
  · intro t₁ t₂ bytes p hop _ hd
    rw [hsame _ (by simp [Bridge.Event.op, hop]) hd]
    exact Bridge.handleText_session s t₁ t₂ p

/-- A key is pressed only for a control or a text under the session in
force. -/
theorem bridge_key_carries (s : Bridge.State) (e : Bridge.Event) :
    bridgeSessions.presses (Bridge.step s e).2 = true →
      bridgeSessions.carries e = some s.activeSession := by
  refine Bridge.step_rule s (Q := fun e r => bridgeSessions.presses r.2 = true →
    bridgeSessions.carries e = some s.activeSession) ?_ ?_ ?_ ?_ ?_ ?_ ?_ e
  · intro e effs _ hrel hpress
    obtain ⟨x, hx, hkey⟩ := List.any_eq_true.mp hpress
    rw [hrel x hx] at hkey
    cases hkey
  · intro h; cases h
  · intro h; cases h
  · intro now h; cases h
  · intro _ _ _ session _ h; cases h
  · intro _ _ _ q c hop _
    simp [bridgeSessions, Bridge.Event.op, hop]
  · intro _ _ _ p hop hp _
    simp [bridgeSessions, Bridge.Event.op, hop, hp]

/-! ## The router -/

def routerSessions : SessionEvents Router.Event Router.Effect where
  opens e := match e.op with
    | some (.opened session) => some session
    | _ => none
  ends e := match e with
    | .disconnect _ => true
    | _ => false
  carries e := match e.op with
    | some (.control session _ _) => some session
    | some (.text p) => some p.origin
    | _ => none
  presses t := !(Router.pressesOf t).isEmpty

/-- No control or text with an empty session while no session is open,
and no session longer than its variable. -/
def RouterNamed (s : Router.State) (e : Router.Event) : Prop :=
  (routerSessions.carries e = some [] → s.session ≠ []) ∧
  ∀ session ∈ routerSessions.opens e, session.length ≤ Router.bmxSessionMax - 1

instance (s : Router.State) (e : Router.Event) : Decidable (RouterNamed s e) :=
  inferInstanceAs (Decidable (_ ∧ ∀ session ∈ routerSessions.opens e, _))

/-- So it is with the router's, if the session's name fits. -/
theorem router_next {s : Router.State} {e : Router.Event} (h : RouterNamed s e) :
    (Router.step s e).1.session = routerSessions.next s.session e := by
  have hsame : ∀ e : Router.Event, (∀ session, e.op ≠ some (.opened session)) →
      (∀ hid, e ≠ .disconnect hid) → routerSessions.next s.session e = s.session := by
    intro e hop hd
    have hopens : routerSessions.opens e = none := by
      simp only [routerSessions]
    have hends : routerSessions.ends e = false := by
      cases e <;> first | rfl | exact absurd rfl (hd _)
    simp [SessionEvents.next, hopens, hends]
  revert h
  refine Router.step_rule s (Q := fun e r => RouterNamed s e →
    r.1.session = routerSessions.next s.session e) ?_ ?_ ?_ ?_ ?_ ?_ ?_ e
  · intro e r hop hd haside _
    rw [hsame e hop hd]
    exact haside.1.1
  · intro hid _; exact (Router.gapDisconnect_frame s hid).1
  · intro now _; exact (Router.dispatcherTimeout_frame s now).1
  · intro env bytes session hop h
    have hopens : routerSessions.opens (.frame env bytes) = some session := by
      simp [routerSessions, Router.Event.op, hop]
    rw [SessionEvents.next, hopens]
    exact List.take_of_length_le (h.2 session hopens)
  · intro env bytes q c hop _
    rw [hsame _ (by simp [Router.Event.op, hop]) (by simp)]
    exact (Router.applyControl_frame s env q c).1
  · intro env bytes p hop _ _
    rw [hsame _ (by simp [Router.Event.op, hop]) (by simp)]
    exact (Router.handleText_frame s env p).1
  · intro env bytes p hop _ _
    rw [hsame _ (by simp [Router.Event.op, hop]) (by simp)]
    exact (Router.handleWifi_frame s env p).1

/-- A Wi-Fi part presses no key. -/
theorem handleWifi_noReport (s : Router.State) (env : Router.FrameEnv) (p : Router.WifiPart) :
    ∀ x ∈ (Router.handleWifi s env p).2, x.isReport = false := by
  have hcomplete : ∀ s q, (Router.completeWifi s q).2.all (fun x => !x.isReport) = true := by
    intro s q
    unfold Router.completeWifi
    split
    · rfl
    · simp only [Router.sendCommand]
      split <;> rfl
  intro x hx
  unfold Router.handleWifi at hx
  simp only [] at hx
  split at hx
  · rcases List.mem_append.mp hx with hx | hx
    · obtain ⟨m, _, rfl⟩ := List.mem_map.mp hx; rfl
    · obtain rfl := List.mem_singleton.mp hx; rfl
  · obtain ⟨m, _, rfl⟩ := List.mem_map.mp hx; rfl
  · rcases List.mem_append.mp hx with hx | hx
    · obtain ⟨m, _, rfl⟩ := List.mem_map.mp hx; rfl
    · simpa using List.all_eq_true.mp (hcomplete _ _) x hx

/-- A message that presses a key carries the session. -/
theorem router_key_carries (s : Router.State) (e : Router.Event) :
    routerSessions.presses (Router.step s e).2 = true →
      routerSessions.carries e = some s.session := by
  have hquiet : ∀ t : List Router.Effect, (∀ x ∈ t, x.isReport = false ∨ x = .report 0 0) →
      routerSessions.presses t ≠ true := by
    intro t ht
    simp [routerSessions, Router.pressesOf_eq_nil ht]
  refine Router.step_rule s (Q := fun e r => routerSessions.presses r.2 = true →
    routerSessions.carries e = some s.session) ?_ ?_ ?_ ?_ ?_ ?_ ?_ e
  · intro e r _ _ haside hpress
    refine absurd hpress (hquiet _ fun x hx => Or.inl ?_)
    have := haside.2 x hx
    cases x <;> first | rfl | cases this
  · intro hid hpress
    refine absurd hpress (hquiet _ fun x hx => ?_)
    simp only [Router.gapDisconnect, Router.gapDisconnectReset, List.mem_append, List.mem_cons,
      List.not_mem_nil, or_false] at hx
    rcases hx with (rfl | rfl) | hx
    · exact Or.inl rfl
    · exact Or.inl rfl
    · exact Or.inr (Router.releaseAll_reports hid x hx)
  · intro now hpress
    refine absurd hpress (hquiet _ fun x hx => Or.inl ?_)
    unfold Router.dispatcherTimeout at hx
    simp only [] at hx
    split at hx <;> split at hx <;> simp at hx <;> rcases hx with rfl | rfl <;> rfl
  · intro env bytes session _ hpress; cases hpress
  · intro env bytes q c hop _
    simp [routerSessions, Router.Event.op, hop]
  · intro env bytes p hop hp _
    simp [routerSessions, Router.Event.op, hop, hp]
  · intro env bytes p _ _ hpress
    exact absurd hpress (hquiet _ fun x hx => Or.inl (handleWifi_noReport s env p x hx))

/-! ## Both firmwares -/

/-- **No key outside a session.** Along every run in which no control or
text with an empty session arrives while none is open, and on the router
no session of more than 63 bytes is opened, each key is pressed by a
frame that carries the non-empty session of the last `OPEN` since boot
and since the last disconnect. -/
theorem keys_pressed_in_session (es : List Bridge.Event) (fs : List Router.Event)
    (hb : Bridge.receiver.AllSteps BridgeNamed Bridge.receiver.init es)
    (hr : Router.router.AllSteps RouterNamed Router.router.init fs) :
    bridgeSessions.KeysInSession Bridge.receiver es ∧
      routerSessions.KeysInSession Router.router fs := by
  constructor
  · refine bridgeSessions.keysInSession_run Bridge.receiver Bridge.State.activeSession rfl
      (fun s e _ => bridge_next s e) ?_ es hb
    intro s e hnamed hpress
    have hcarry := bridge_key_carries s e hpress
    exact ⟨hcarry, fun hnil => hnamed (hnil ▸ hcarry) hnil⟩
  · refine routerSessions.keysInSession_run Router.router Router.State.session rfl
      (fun s e h => router_next h) ?_ fs hr
    intro s e hnamed hpress
    have hcarry := router_key_carries s e hpress
    exact ⟨hcarry, fun hnil => hnamed.1 (hnil ▸ hcarry) hnil⟩

/-- A run of each firmware that opens a session, presses a key, loses the
connection and is sent the key again. -/
theorem keys_pressed_in_session_reconnect :
    let bridge : List Bridge.Event := [.frame 0 0 (ascii "BMX1|OPEN|s"),
      .frame 0 0 (ascii "BMX1|CTRL|s|1|ENTER"), .disconnect,
      .frame 0 0 (ascii "BMX1|CTRL|s|1|ENTER")]
    let env : Router.FrameEnv := ⟨0, 0, true, [], true, true, true, none⟩
    let router : List Router.Event := [.frame env (ascii "BMX1|OPEN|s"),
      .frame env (ascii "BMX1|CTRL|s|1|ENTER"), .disconnect [],
      .frame env (ascii "BMX1|CTRL|s|1|ENTER")]
    bridgeSessions.KeysInSession Bridge.receiver bridge ∧
      routerSessions.KeysInSession Router.router router :=
  keys_pressed_in_session _ _ (by decide +kernel) (by decide +kernel)

/-- An empty session field presses keys before any `OPEN`: at once on the
bridge, after a `RESUME` on the router. -/
theorem keys_pressed_without_session :
    let env : Router.FrameEnv := ⟨0, 0, true, [], true, true, true, none⟩
    ¬ bridgeSessions.KeysInSession Bridge.receiver [.frame 0 0 (ascii "BMX1|CTRL||1|ENTER")] ∧
    ¬ routerSessions.KeysInSession Router.router [.frame env (ascii "BMX1|CTRL||1|RESUME"),
      .frame env (ascii "BMX1|CTRL||2|ENTER")] := by
  intro env
  constructor
  · intro h
    obtain ⟨_, _, hopen, _⟩ := h [] _ [] rfl (by decide +kernel)
    cases hopen
  · intro h
    obtain ⟨_, _, hopen, _⟩ := h [.frame env (ascii "BMX1|CTRL||1|RESUME")] _ [] rfl
      (by decide +kernel)
    have hnone : routerSessions.lastOpened [.frame env (ascii "BMX1|CTRL||1|RESUME")] = none := by
      decide +kernel
    rw [hnone] at hopen
    cases hopen

end Bootmux.Firmware
