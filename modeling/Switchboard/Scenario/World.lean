import Switchboard.Config.Basic
import Switchboard.Gateway.Step
import Switchboard.Client
import Switchboard.Scenario.Correlation
import Switchboard.Scenario.Worker

/-!
# A gateway with its workers and callers

The state of a scenario on a whole gateway. Time moves only when a step says so; between two steps
the gateway and its workers go on until nothing can move (`World.rest`). When time passes, it stops
at every deadline on the way (`World.pass`).
-/

set_option autoImplicit false

namespace Switchboard

/-- The times at which something is to happen in a gateway. -/
def Gateway.timers (g : Gateway) : List Nat :=
  let greetings := g.sessions.filterMap fun s =>
    match s.phase with
    | .greeting deadline => some deadline
    | _ => none
  let deadlines := (g.dispatches.filter fun d => d.progress.isOpen).map (·.deadline)
  let beats := (g.heartbeats.filter (·.pulse = .beating)).map (·.next)
  greetings ++ deadlines ++ beats

/-- The first of its times after now, if it is not after `limit`. -/
def Gateway.nextTimer? (g : Gateway) (limit : Nat) : Option Nat :=
  (g.timers.filter fun t => g.clock < t ∧ t ≤ limit).min?

namespace Scenario

/-- Somebody who waits for something to end. -/
inductive Caller
  | dispatch (id : DispatchId)
  | call (id : DispatchId) (shape : ReplyShape)
  /-- A call that was refused at once. -/
  | refused (cause : CallError)
  /-- Waits for a heartbeat of its own. -/
  | heartbeat (id : HeartbeatId)
  /-- Waits for the gateway to stop, which stops this heartbeat. -/
  | serving (id : HeartbeatId)
  deriving DecidableEq, Repr, Inhabited

/-- What a caller has waited for. -/
inductive Ending
  | dispatch (result : DispatchResult)
  | call (result : Except CallError ReplyValue)
  | stopped
  deriving Repr, Inhabited

/-- A gateway, its workers and callers under their names, and claims on its slots. -/
structure World where
  gateway : Gateway
  workers : Assoc String Worker := []
  callers : Assoc String Caller := []
  claims : Claims := []
  deriving Repr, Inhabited

/-- What a caller has waited for, if it is there. -/
def Caller.ending? (g : Gateway) : Caller → Option Ending
  | .refused cause => some (.call (.error cause))
  | .dispatch id => (result? id).map .dispatch
  | .call id shape => (result? id).map fun result => .call (shape.result result)
  | .heartbeat id | .serving id =>
    match g.heartbeats[id]? with
    | some h => if h.pulse = .stopped then some .stopped else none
    | none => none
where
  /-- The result of a dispatch, if it has one. -/
  result? (id : DispatchId) : Option DispatchResult :=
    match g.dispatches[id]? with
    | some d =>
      match d.progress with
      | .done result => some result
      | _ => none
    | none => none

namespace World

/-- The world after an input to its gateway. -/
def input (w : World) (i : Gateway.Input) : World := { w with gateway := w.gateway.input i }

/-- The bytes on their way to a worker. -/
def buffered (w : World) (id : SessionId) : List UInt8 :=
  match w.gateway.sessions[id]? with
  | some s => s.outbound.buffered
  | none => []

/-- One worker reads what is there for it. -/
def readOne (w : World) (name : String) : World :=
  match w.workers.get? name with
  | none => w
  | some worker =>
    let bytes := w.buffered worker.session
    let (worker, left) := worker.read bytes
    { w with workers := w.workers.insert name worker }.input
      (.consume worker.session (bytes.length - left.length))

/-- The number of bytes that are on their way to workers. -/
def inFlight (w : World) : Nat :=
  total (fun s => s.outbound.buffered.length) w.gateway.sessions

/-- The gateway settles and the workers read, `rounds` times at most, until nothing moves. -/
def restWithin : Nat → World → World
  | 0, w => w
  | rounds + 1, w =>
    let settled := { w with gateway := w.gateway.settle }
    let after := settled.workers.keys.foldl readOne settled
    if after.inFlight < settled.inFlight then restWithin rounds after else after

/-- The number of bytes that the frames of a queue take, those that wait for room included. -/
def queuedBytes (q : Queue DispatchId) : Nat :=
  total (fun e => Wire.bodySize e + Wire.headerSize) (q.frames ++ q.waiting.map (·.2))

/-- A number of rounds after which nothing moves: in every round but the last a worker reads a
byte. -/
def rounds (w : World) : Nat :=
  let g := w.gateway
  let writing := g.sessions |> total fun s =>
    match s.phase with
    | .serving service =>
      match service.sender with
      | .writing rest => rest.length
      | _ => 0
    | _ => 0
  let queues := total queuedBytes g.registry.queues
  let placing := g.dispatches |> total fun d =>
    match d.progress with
    | .placing _ => Wire.bodySize d.request + Wire.headerSize
    | _ => 0
  let keepalives := (g.sessions.length + g.heartbeats.length * g.registry.nodeCount) *
    (Wire.bodySize .keepalive + Wire.headerSize)
  w.inFlight + writing + queues + placing + keepalives + 1

/-- Everything goes on until nothing moves. -/
def rest (w : World) : World := restWithin w.rounds w

/-- Time goes on to `target`, with `stops` stops at most on the way. -/
def passWithin : Nat → World → Nat → World
  | 0, w, _ => w
  | stops + 1, w, target =>
    match w.gateway.nextTimer? target with
    | some time => passWithin stops (w.input (.elapse (time - w.gateway.clock))).rest target
    | none => (w.input (.elapse (target - w.gateway.clock))).rest

/-- Time passes. It stops wherever something is due, and there is at most one stop for every
millisecond. -/
def pass (w : World) (millis : Nat) : World :=
  passWithin (millis + 1) w (w.gateway.clock + millis)

end World

end Scenario

end Switchboard
