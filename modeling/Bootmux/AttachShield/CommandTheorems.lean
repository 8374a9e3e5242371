/-
Bootmux.AttachShield.CommandTheorems — what the commands of a close leave on
a Mac.

The last command about a route decides whether it is there
(`hasRoute_runAll`), and one that flushes the shield's anchor leaves it empty
(`anchor_runAll`). The commands for services change the current location, so
what they leave depends on the way that the commands take through the
locations (`Itinerary`): in the location that is left current it is the last
word of those that run there (`Leads.services`).

For a route and for the anchor the order of the other commands does not
matter, so one fold over the list gives the last use. For services it does:
a command that switches the location moves all later ones to another set.
`Itinerary` is the list of the locations with the commands that run in each,
and `leads_through` walks it along the commands.

Only the commands of a rollback and of the end of a close are treated
(`Command.undoes`); the others never occur there.
-/
import Bootmux.AttachShield.SessionTheorems

namespace Bootmux.AttachShield

/-- The commands of a close. -/
def Command.undoes : Command → Bool
  | .pfLoadAnchor _ | .routeDelete _ _ none | .createLocation _ => false
  | _ => true

/-! ## What the commands leave -/

/-- What the last command says that says something. -/
def lastWord {α : Type} (word : Command → Option α) (commands : List Command) : Option α :=
  commands.reverse.findSome? word

/-- The last word on something is that of the later commands, if they have
one. -/
theorem lastWord_append {α : Type} (word : Command → Option α) (commands rest : List Command) :
    lastWord word (commands ++ rest) = (lastWord word rest).or (lastWord word commands) := by
  rw [lastWord, List.reverse_append, List.findSome?_append]
  rfl

theorem lastWord_append_singleton {α : Type} (word : Command → Option α)
    (commands : List Command) (command : Command) :
    lastWord word (commands ++ [command]) = (word command).or (lastWord word commands) := by
  rw [lastWord_append]
  cases h : word command <;> simp [lastWord, h]

/-- What the last command about a route does with it. -/
inductive RouteUse where
  | added
  | deleted
  deriving DecidableEq, Repr

def routeUse (dest gateway : String) : Command → Option RouteUse
  | .routeAdd _ d g => if d = dest ∧ g = gateway then some .added else none
  | .routeDelete _ d (some g) => if d = dest ∧ g = gateway then some .deleted else none
  | _ => none

def lastUse (dest gateway : String) : List Command → Option RouteUse :=
  lastWord (routeUse dest gateway)

def HasRoute (mac : Mac) (dest gateway : String) : Prop :=
  ∃ r ∈ mac.routes, r.dest = dest ∧ r.gateway = gateway

/-- A command adds a route, deletes it, or leaves it. -/
theorem hasRoute_apply {command : Command} (hundoes : command.undoes = true) (mac : Mac)
    (dest gateway : String) :
    HasRoute (mac.apply command) dest gateway ↔
      match routeUse dest gateway command with
      | some .added => True
      | some .deleted => False
      | none => HasRoute mac dest gateway := by
  cases command with
  | routeAdd family d g =>
      simp only [HasRoute, Mac.apply, routeUse]
      by_cases hsame : d = dest ∧ g = gateway
      · simp [hsame]
      · rw [if_neg hsame]
        constructor
        · rintro ⟨r, hr, hmatch⟩
          rcases List.mem_append.mp hr with hr | hr
          · exact ⟨r, hr, hmatch⟩
          · rw [List.mem_singleton.mp hr] at hmatch
            exact absurd hmatch hsame
        · rintro ⟨r, hr, hmatch⟩
          exact ⟨r, List.mem_append_left _ hr, hmatch⟩
  | routeDelete family d g =>
      cases g with
      | none => cases hundoes
      | some g =>
          simp only [HasRoute, Mac.apply, routeUse, List.mem_filter, decide_eq_true_eq]
          by_cases hsame : d = dest ∧ g = gateway
          · simp only [if_pos hsame, iff_false]
            rintro ⟨r, ⟨-, hkept⟩, hdest, hgateway⟩
            exact hkept ⟨hdest.trans hsame.1.symm, hgateway.trans hsame.2.symm⟩
          · rw [if_neg hsame]
            constructor
            · rintro ⟨r, ⟨hr, -⟩, hmatch⟩
              exact ⟨r, hr, hmatch⟩
            · rintro ⟨r, hr, hdest, hgateway⟩
              refine ⟨r, ⟨hr, fun hgone => hsame ?_⟩, hdest, hgateway⟩
              exact ⟨hgone.1.symm.trans hdest, hgone.2.symm.trans hgateway⟩
  | pfFlushAnchor anchor =>
      simp only [Mac.apply, routeUse, HasRoute]
      split <;> rfl
  | pfLoadAnchor iface => cases hundoes
  | _ => rfl

/-- The last command about a route decides whether it is there. -/
theorem hasRoute_runAll {commands : List Command}
    (hundoes : ∀ c ∈ commands, c.undoes = true) (mac : Mac) (dest gateway : String) :
    HasRoute (runAll macHost mac commands) dest gateway ↔
      match lastUse dest gateway commands with
      | some .added => True
      | some .deleted => False
      | none => HasRoute mac dest gateway := by
  induction commands using List.reverseRecOn with
  | nil => rfl
  | append_singleton commands command ih =>
      have hlast := hasRoute_apply (hundoes command (by simp)) (runAll macHost mac commands)
        dest gateway
      have hrest := ih fun c hc => hundoes c (List.mem_append_left _ hc)
      rw [runAll_append]
      refine hlast.trans ?_
      rw [lastUse, lastWord_append_singleton]
      cases routeUse dest gateway command with
      | some use => cases use <;> rfl
      | none => exact hrest

/-- Of the commands of a rollback only the flush touches the anchor. -/
theorem anchor_apply {command : Command} (hundoes : command.undoes = true) (mac : Mac) :
    (mac.apply command).anchor = if command = .pfFlushAnchor pfAnchor then [] else mac.anchor := by
  cases command with
  | pfFlushAnchor anchor =>
      simp only [Mac.apply, Command.pfFlushAnchor.injEq]
      split <;> rfl
  | pfLoadAnchor iface => cases hundoes
  | routeDelete family d g => cases g <;> rfl
  | _ => rfl

/-- One flush is enough, wherever it stands. -/
theorem anchor_runAll {commands : List Command} (hundoes : ∀ c ∈ commands, c.undoes = true)
    (mac : Mac) :
    (runAll macHost mac commands).anchor =
      if .pfFlushAnchor pfAnchor ∈ commands then [] else mac.anchor := by
  induction commands using List.reverseRecOn with
  | nil => rfl
  | append_singleton commands command ih =>
      have hlast := anchor_apply (hundoes command (by simp)) (runAll macHost mac commands)
      rw [runAll_append]
      refine hlast.trans ?_
      rw [ih fun c hc => hundoes c (List.mem_append_left _ hc)]
      by_cases hflush : command = .pfFlushAnchor pfAnchor
      · simp [hflush]
      · simp [hflush, Ne.symm hflush]

/-! ## Locations and services -/

/-- What a command does with the services of the location it is run in. -/
def Command.onServices : Command → NetworkSet → NetworkSet
  | .setServiceEnabled service on, set =>
      { set with enabled := Function.update set.enabled service on }
  | .orderServices names, set => { set with order := names }
  | .setDhcp service, set => { set with ipv4 := Function.update set.ipv4 service .dhcp }
  | .setManual service ip subnet router, set =>
      { set with ipv4 := Function.update set.ipv4 service (.manual ip subnet router) }
  | .setV6Automatic service, set =>
      { set with ipv6 := Function.update set.ipv6 service "Automatic" }
  | .setDnsServers service servers, set =>
      { set with dns := Function.update set.dns service servers }
  | .setSearchDomains service domains, set =>
      { set with search := Function.update set.search service domains }
  | _, set => set

def runServices (commands : List Command) (set : NetworkSet) : NetworkSet :=
  commands.foldl (fun set command => command.onServices set) set

theorem runServices_append_singleton (commands : List Command) (command : Command) :
    runServices (commands ++ [command]) = command.onServices ∘ runServices commands := by
  funext set
  exact List.foldl_append

/-- The state that a command sets for a service. -/
def stateWord (service : String) : Command → Option Bool
  | .setServiceEnabled name on => if name = service then some on else none
  | _ => none

/-- The order that a command sets. -/
def orderWord : Command → Option (List String)
  | .orderServices names => some names
  | _ => none

/-- A service is as the last command about it says. -/
theorem enabled_runServices (service : String) (commands : List Command) (set : NetworkSet) :
    (runServices commands set).enabled service =
      (lastWord (stateWord service) commands).getD (set.enabled service) := by
  induction commands using List.reverseRecOn with
  | nil => rfl
  | append_singleton commands command ih =>
      rw [runServices_append_singleton, lastWord_append_singleton]
      cases command with
      | setServiceEnabled name on =>
          by_cases hname : name = service
          · simp [Command.onServices, stateWord, hname]
          · simpa [Command.onServices, stateWord, hname, Function.update_of_ne (Ne.symm hname)]
              using ih
      | _ => exact ih

/-- The order is the last one that was set. -/
theorem order_runServices (commands : List Command) (set : NetworkSet) :
    (runServices commands set).order =
      (lastWord orderWord commands).getD set.order := by
  induction commands using List.reverseRecOn with
  | nil => rfl
  | append_singleton commands command ih =>
      rw [runServices_append_singleton, lastWord_append_singleton]
      cases command with
      | orderServices names => simp [Command.onServices, orderWord]
      | _ => exact ih

/-- The locations that commands lead through: which one they leave current,
which they delete, and what they run in each. `none` is the location that
was current before them. -/
structure Itinerary where
  current : Option String
  deleted : List String
  runs : Option String → List Command

namespace Itinerary

def next (t : Itinerary) : Command → Itinerary
  | .switchToLocation name => { t with current := some name }
  | .deleteLocation name => { t with deleted := name :: t.deleted }
  | command =>
      { t with runs := Function.update t.runs t.current (t.runs t.current ++ [command]) }

/-- The itinerary of commands. -/
def through (commands : List Command) : Itinerary :=
  commands.foldl next ⟨none, [], fun _ => []⟩

/-- The location that is left current has been deleted. -/
def Gone (t : Itinerary) : Prop := ∃ name ∈ t.deleted, t.current = some name

/-- What is run in the location that is left current. -/
def here (t : Itinerary) : List Command := t.runs t.current

/-- What is run in a location, when `start` was current before. -/
def runsIn (t : Itinerary) (start name : String) : List Command :=
  (if name = start then t.runs none else []) ++ t.runs (some name)

/-- A Mac that has come this way. -/
structure Leads (t : Itinerary) (first mac : Mac) : Prop where
  current : mac.current = t.current.getD first.current
  /-- Before the first switch nothing has run in a location by its name. -/
  fresh : t.current = none → ∀ name, t.runs (some name) = []
  gone : ∀ name ∈ t.deleted, mac.locations name = none
  kept : ∀ name ∉ t.deleted, mac.locations name =
    (first.locations name).map (runServices (t.runsIn first.current name))

/-- A command that stays in its location. -/
def stays : Command → Bool
  | .switchToLocation _ | .deleteLocation _ | .createLocation _ => false
  | _ => true

/-- A command that stays changes the set of the current location only. -/
theorem locations_apply {command : Command} (hstays : stays command = true) (mac : Mac) :
    (mac.apply command).current = mac.current ∧
      ∀ name, (mac.apply command).locations name =
        if name = mac.current then (mac.locations name).map command.onServices
        else mac.locations name := by
  have hsame : ∀ mac' : Mac, mac'.current = mac.current → mac'.locations = mac.locations →
      mac'.current = mac.current ∧ ∀ name, mac'.locations name =
        if name = mac.current then (mac.locations name).map id else mac.locations name := by
    intro mac' hcurrent hlocations
    refine ⟨hcurrent, fun name => ?_⟩
    rw [hlocations, Option.map_id, id_eq, ite_self]
  have hset : ∀ f : NetworkSet → NetworkSet, (mac.withServices f).current = mac.current ∧
      ∀ name, (mac.withServices f).locations name =
        if name = mac.current then (mac.locations name).map f else mac.locations name := by
    intro f
    refine ⟨rfl, fun name => ?_⟩
    simp only [Mac.withServices, Function.update_apply]
    split
    · rename_i hname
      rw [hname]
    · rfl
  cases command with
  | setServiceEnabled => exact hset _
  | orderServices => exact hset _
  | setDhcp => exact hset _
  | setManual => exact hset _
  | setV6Automatic => exact hset _
  | setDnsServers => exact hset _
  | setSearchDomains => exact hset _
  | routeDelete family dest gateway => cases gateway <;> exact hsame _ rfl rfl
  | pfFlushAnchor anchor =>
      refine hsame _ ?_ ?_
      · simp only [Mac.apply]
        split <;> rfl
      · simp only [Mac.apply]
        split <;> rfl
  | switchToLocation | deleteLocation | createLocation => cases hstays
  | _ => exact hsame _ rfl rfl

theorem next_of_stays {command : Command} (hstays : stays command = true) (t : Itinerary) :
    t.next command =
      { t with runs := Function.update t.runs t.current (t.runs t.current ++ [command]) } := by
  cases command with
  | switchToLocation | deleteLocation | createLocation => cases hstays
  | _ => rfl

variable {first mac : Mac} {t : Itinerary}

/-- The location that is current gains the command. -/
theorem Leads.runsIn_next {command : Command} (h : t.Leads first mac)
    (hstays : stays command = true) (name : String) :
    (t.next command).runsIn first.current name =
      if name = mac.current then t.runsIn first.current name ++ [command]
      else t.runsIn first.current name := by
  rw [next_of_stays hstays, h.current]
  cases hcurrent : t.current with
  | none =>
      by_cases hname : name = first.current
      · simp [runsIn, hname, h.fresh hcurrent]
      · simp [runsIn, hname]
  | some current =>
      by_cases hname : name = current
      · simp [runsIn, hname]
      · simp [runsIn, hname]

/-- A command in a location is one more command of that location's stay. -/
theorem Leads.stay {command : Command} (h : t.Leads first mac) (hstays : stays command = true) :
    (t.next command).Leads first (mac.apply command) := by
  obtain ⟨hcurrent, hlocations⟩ := locations_apply hstays mac
  have hruns := h.runsIn_next hstays
  rw [next_of_stays hstays] at hruns ⊢
  refine ⟨hcurrent.trans h.current, ?_, ?_, ?_⟩
  · intro hnone name
    have hne : some name ≠ t.current := by simp [show t.current = none from hnone]
    exact (Function.update_of_ne hne _ _).trans (h.fresh hnone name)
  · intro name hgone
    rw [hlocations, h.gone name hgone]
    exact ite_self _
  · intro name hkept
    rw [hlocations, hruns, h.kept name hkept]
    split
    · rw [Option.map_map, runServices_append_singleton]
    · rfl

/-- A command of a rollback goes on with the itinerary. -/
theorem Leads.next {command : Command} (h : t.Leads first mac)
    (hundoes : command.undoes = true) : (t.next command).Leads first (mac.apply command) := by
  cases command with
  | switchToLocation name =>
      refine ⟨rfl, ?_, h.gone, h.kept⟩
      intro hnone
      cases hnone
  | deleteLocation name =>
      refine ⟨h.current, h.fresh, ?_, ?_⟩
      · intro other hother
        by_cases hname : other = name
        · simp [Mac.apply, hname]
        · rcases List.mem_cons.mp hother with heq | hother
          · exact absurd heq hname
          · simpa [Mac.apply, hname] using h.gone other hother
      · intro other hother
        obtain ⟨hname, hother⟩ := not_or.mp (List.mem_cons.not.mp hother)
        have hkept : Function.update mac.locations name none other = mac.locations other :=
          Function.update_of_ne hname _ _
        exact hkept.trans (h.kept other hother)
  | createLocation name => cases hundoes
  | _ => exact h.stay rfl

/-- Commands lead where their itinerary says, through any locations. -/
theorem leads_through {commands : List Command} (hundoes : ∀ c ∈ commands, c.undoes = true)
    (first : Mac) : (through commands).Leads first (runAll macHost first commands) := by
  induction commands using List.reverseRecOn with
  | nil =>
      refine ⟨rfl, fun _ _ => rfl, fun _ h => absurd h List.not_mem_nil, fun name _ => ?_⟩
      have hnone : (through []).runsIn first.current name = [] := by simp [through, runsIn]
      rw [hnone]
      exact (Option.map_id_apply).symm
  | append_singleton commands command ih =>
      have hlast := (ih fun c hc => hundoes c (List.mem_append_left _ hc)).next
        (hundoes command (by simp))
      rw [runAll_append, through, List.foldl_append]
      exact hlast

/-- The commands that run in the location that is left current come last. -/
theorem Leads.runsIn_current (h : t.Leads first mac) (start : String) :
    t.runsIn start (t.current.getD start) =
      (if t.current = some start then t.runs none else []) ++ t.here := by
  cases hcurrent : t.current with
  | none => simp [runsIn, here, hcurrent, h.fresh hcurrent]
  | some current => simp [runsIn, here, hcurrent]

/-- The services of the location that is left current. -/
theorem Leads.services {set : NetworkSet} (h : t.Leads first mac)
    (hset : mac.locations mac.current = some set) :
    ¬t.Gone ∧ ∃ commands, (t.current ≠ some first.current → commands = []) ∧
      ∃ before, first.locations mac.current = some before ∧
        set = runServices (commands ++ t.here) before := by
  have hkept : mac.current ∉ t.deleted := by
    intro hgone
    rw [h.gone _ hgone] at hset
    cases hset
  refine ⟨?_, if t.current = some first.current then t.runs none else [], fun hne => if_neg hne,
    ?_⟩
  · rintro ⟨name, hname, hcurrent⟩
    rw [h.current, hcurrent] at hkept
    exact hkept hname
  rw [h.kept _ hkept] at hset
  obtain ⟨before, hbefore, rfl⟩ := Option.map_eq_some_iff.mp hset
  refine ⟨before, hbefore, ?_⟩
  rw [h.current, h.runsIn_current]

end Itinerary

end Bootmux.AttachShield
