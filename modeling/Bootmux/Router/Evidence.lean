/-
Bootmux.Router.Evidence — whose results the probe counts.

A result of a ping session goes through the management queue without the
session it is of. `probing` is the router of `Bootmux.Router.WifiTask` with
the ping task as a party of its own: a session sends one result
(`BMX_PROBE_COUNT` is 1) and ends. Beside each message stands the session
that sent it, and a session is known by its target and by how many calls of
`tp_set_subnet` came before it. None of this is in the source, and the
router does not read it.
-/
import Bootmux.Router.WifiTask

namespace Bootmux.Router

open Bootmux.Lib

/-- A ping session: its target, and the calls of `tp_set_subnet` before it. -/
structure Launch where
  subnet : Nat
  target : UInt32
  deriving DecidableEq, Repr

/-- The router and who has sent what. `senders` goes with the management
queue; `counted` are the results that were recorded since the last
`tp_set_subnet` while a target was selected, the newest first, and `made`
the last three of them when the target became reachable. -/
structure Probing where
  router : State
  subnets : Nat
  session : Option Launch
  answered : Bool
  senders : List (Option Launch)
  counted : List (Option Launch × Bool)
  made : List (Option Launch × Bool)

def Effect.ping? : Effect → Option UInt32
  | .ping target => some target
  | _ => none

/-- The target of the ping session a step starts. -/
def pingOf (t : List Effect) : Option UInt32 := t.findSome? Effect.ping?

def MgmtEvent.isProbe : MgmtEvent → Bool
  | .probeResult _ => true
  | _ => false

/-- The events at which `wifi_task` calls `tp_set_subnet`. -/
def Event.setsSubnet : Event → Bool
  | .wifiEvent _ _ _ (.staDisconnected _) | .wifiEvent _ _ _ (.gotIp _) => true
  | _ => false

namespace Probing

/-- `tp_record_result` for the first event of the queue, if it is a result. -/
def record (y : Probing) (now : Int) : Probing :=
  match y.router.mgmtEvents, y.senders with
  | .probeResult success :: _, sender :: rest =>
      if tpProbeAllowed y.router.probe then
        let counted := (sender, success) :: y.counted
        let becomes :=
          !y.router.probe.reachable && (tpRecordResult y.router.probe success now).reachable
        { y with
          senders := rest
          counted := counted
          made := if becomes then counted.take tpReachableSuccesses else y.made }
      else { y with senders := rest }
  | _, senders => { y with senders := senders.tail }

/-- What the event does beside the router. -/
def note (y : Probing) (e : Event) : Probing :=
  match e with
  | .mgmt env => y.record env.now
  | e => if e.setsSubnet then { y with subnets := y.subnets + 1, counted := [] } else y

/-- The router goes on as in `r`, and may have started a ping session. -/
def follow (y : Probing) (r : State × List Effect) : Probing :=
  { y with
    router := r.1
    senders := y.senders ++ List.replicate (r.1.mgmtEvents.length - y.senders.length) none
    session :=
      match pingOf r.2 with
      | some target => some ⟨y.subnets, target⟩
      | none => y.session
    answered :=
      match pingOf r.2 with
      | some _ => false
      | none => y.answered }

/-- The selected target, as a session started now would have it. -/
def current (y : Probing) : Option Launch := some ⟨y.subnets, tpSelectTarget y.router.probe⟩

end Probing

def probingStep (y : Probing) : Event → Probing × List Effect
  | .pingResult success =>
      match y.session with
      | none => (y, [])
      | some launch =>
          if y.answered then (y, [])
          else
            let sent := sendMgmt y.router (.probeResult success)
            ({ y with
                router := sent.2
                answered := true
                senders := if sent.1 then y.senders ++ [some launch] else y.senders }, [])
  | .pingEnd =>
      match y.session with
      | none => (y, [])
      | some _ =>
          ({ y with router := (step y.router .pingEnd).1, session := none, answered := false }, [])
  | e => ((y.note e).follow (step y.router e), (step y.router e).2)

def probing : Machine Probing Event Effect where
  init :=
    { router := boot, subnets := 0, session := none, answered := false, senders := []
      counted := [], made := [] }
  step := probingStep

end Bootmux.Router
