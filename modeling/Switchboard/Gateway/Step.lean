import Switchboard.Gateway.Dispatch
import Switchboard.Gateway.Heartbeat
import Switchboard.Total

/-!
# Runs of a gateway

What can happen next in a gateway, one action at a time. An `Input` comes from outside: a worker,
a caller, the clock, the scheduler or the operator. A `Move` is a step that the gateway takes by
itself; a state in which it has none is quiescent. Inputs and moves may come in any order, except
that a session or dispatch finishes what it has begun (`Gateway.isHeldUp`): `Gateway.Reachable` holds
of the states that some run leads to. `Gateway.settle` picks moves until none is left.
-/

set_option autoImplicit false

namespace Switchboard.Gateway

/-- What happens to a gateway from outside. -/
inductive Input
  /-- A worker connects; the gateway can write `buffer` bytes ahead of its reading. -/
  | connect (buffer : Nat)
  /-- A worker sends bytes. -/
  | send (id : SessionId) (bytes : List UInt8)
  /-- A worker closes its writing side. -/
  | closeWrite (id : SessionId)
  /-- Reading on from a worker fails, with an I/O error that has this text. -/
  | failRead (id : SessionId) (text : String)
  /-- A worker reads `count` bytes. -/
  | consume (id : SessionId) (count : Nat)
  /-- A worker closes its reading side. -/
  | closeRead (id : SessionId)
  /-- A caller sends an envelope to a group and waits `timeout` milliseconds. -/
  | dispatch (group : String) (e : Envelope) (timeout : Nat)
  /-- The caller of a dispatch goes away. -/
  | cancel (id : DispatchId)
  /-- The scheduler runs a session without a cause: its sender looks around. -/
  | rouse (id : SessionId)
  /-- Time passes. -/
  | elapse (millis : Nat)
  /-- Sessions and heartbeats are to end. -/
  | shutdown
  | stopSessions
  | startHeartbeat (interval : Nat)
  | stopHeartbeats
  /-- A heartbeat is dropped by the one who started it. -/
  | dropHeartbeat (id : HeartbeatId)
  deriving DecidableEq, Repr, Inhabited

/-- A step that the gateway takes by itself. -/
inductive Move
  | greet (id : SessionId)
  | giveUp (id : SessionId)
  | halt (id : SessionId)
  | receive (id : SessionId)
  | acquire (id : SessionId)
  | retire (id : SessionId)
  | reach (id : SessionId)
  | take (id : SessionId)
  | write (id : SessionId)
  | place (id : DispatchId) (choice : Nat)
  | exhaust (id : DispatchId)
  | moveOn (id : DispatchId)
  | collect (id : DispatchId)
  | expire (id : DispatchId)
  | conclude (id : DispatchId)
  | beat (id : HeartbeatId)
  | stopBeat (id : HeartbeatId)
  | tally (reporter : Reporter)
  | publish (reporter : Reporter)
  deriving DecidableEq, Repr, Inhabited

/-- The session or dispatch that goes on with the move. -/
def Move.reporter? : Move → Option Reporter
  | greet id | giveUp id | halt id | receive id | acquire id | retire id | reach id | take id
  | write id => some (.session id)
  | place id _ | exhaust id | moveOn id | collect id | expire id | conclude id =>
    some (.dispatch id)
  | beat _ | stopBeat _ | tally _ | publish _ => none

/-- A session or dispatch is to set a gauge before it goes on. -/
def isReporting (g : Gateway) (reporter : Reporter) : Bool := (g.reports.get? reporter).isSome

/-- Whoever takes the move is in the middle of something else: it is to set a gauge, or its sender
reaches for its queue. -/
def isHeldUp (g : Gateway) (m : Move) : Bool :=
  match m.reporter? with
  | some (.session id) => g.isReporting (.session id) || (g.isReaching id && m ≠ .take id)
  | some (.dispatch id) => g.isReporting (.dispatch id)
  | none => false

/-- Changes the stream of a session. -/
def onStream (g : Gateway) (id : SessionId) (change : Session → Session) : Gateway :=
  match g.sessions[id]? with
  | some s => g.setSession id (change s)
  | none => g

/-- A worker connects. -/
def connect (g : Gateway) (buffer : Nat) : Gateway :=
  let s : Session :=
    { outbound := { capacity := buffer }
      phase := .greeting (g.clock + g.settings.handshakeMillis) }
  { g with sessions := g.sessions ++ [s] }

/-- The gateway after an input. -/
def input (g : Gateway) : Input → Gateway
  | .connect buffer => g.connect buffer
  | .send id bytes =>
    g.onStream id fun s =>
      if s.inboundTail = .more then { s with inbound := s.inbound ++ bytes } else s
  | .closeWrite id => g.onStream id (·.cutOff .ended)
  | .failRead id text => g.onStream id (·.cutOff (.failed text))
  | .consume id count =>
    g.onStream id fun s =>
      { s with outbound := { s.outbound with buffered := s.outbound.buffered.drop count } }
  | .closeRead id =>
    g.onStream id fun s => { s with outbound := { s.outbound with broken := true } }
  | .dispatch group e timeout => g.dispatch group e timeout
  | .cancel id => if g.isReporting (.dispatch id) then g else (g.cancel id).getD g
  | .rouse id => if g.isHeldUp (.reach id) then g else (g.reach id).getD g
  | .elapse millis => { g with clock := g.clock + millis }
  | .shutdown => { g with stopping := true, beatsStopping := true }
  | .stopSessions => { g with stopping := true }
  | .startHeartbeat interval => g.startBeat interval
  | .stopHeartbeats => { g with beatsStopping := true }
  | .dropHeartbeat id => g.dropBeat id

/-- The gateway after a move, if nothing holds it up. -/
def step? (g : Gateway) : Move → Option Gateway
  | .greet id => g.greet id
  | .giveUp id => g.giveUp id
  | .halt id => g.halt id
  | .receive id => g.receive id
  | .acquire id => g.acquire id
  | .retire id => g.retire id
  | .reach id => if g.hasNext id then g.reach id else none
  | .take id => g.take id
  | .write id => g.write id
  | .place id choice => g.place id choice
  | .exhaust id => g.exhaust id
  | .moveOn id => g.moveOn id
  | .collect id => g.collect id
  | .expire id => g.expire id
  | .conclude id => g.conclude id
  | .beat id => g.beat id
  | .stopBeat id => g.stopBeat id
  | .tally reporter => g.tally reporter
  | .publish reporter => g.publish reporter

/-- The gateway after a move, if it can take it. -/
def move? (g : Gateway) (m : Move) : Option Gateway := if g.isHeldUp m then none else g.step? m

/-- The states that a gateway with these settings can come to. -/
inductive Reachable (s : Settings) : Gateway → Prop
  | start : Reachable s (.start s)
  | input {g : Gateway} (i : Input) : Reachable s g → Reachable s (g.input i)
  | move {g g' : Gateway} (m : Move) : Reachable s g → g.move? m = some g' → Reachable s g'

/-- The gateway can take no step by itself. -/
def Quiescent (g : Gateway) : Prop := ∀ m : Move, g.move? m = none

/-- The moves of a session, in the order in which they are tried. -/
def sessionMoves (id : SessionId) : List Move :=
  [.greet id, .receive id, .retire id, .acquire id, .reach id, .take id, .write id, .halt id,
    .giveUp id]

/-- The moves of a dispatch, in the order in which they are tried. -/
def dispatchMoves (id : DispatchId) : List Move :=
  [.place id 0, .exhaust id, .moveOn id, .collect id, .expire id, .conclude id]

/-- The moves of a heartbeat, in the order in which they are tried. -/
def heartbeatMoves (id : HeartbeatId) : List Move := [.stopBeat id, .beat id]

/-- The moves of whoever is to set a gauge. -/
def reportMoves (reporter : Reporter) : List Move := [.tally reporter, .publish reporter]

/-- Some move for every step that is open. What was begun comes first. -/
def moves (g : Gateway) : List Move :=
  g.reports.keys.flatMap reportMoves ++
    (List.range g.sessions.length).map .take ++
    ((List.range g.sessions.length).filter fun id => (g.sessions[id]?).any (·.isLive)).flatMap
      sessionMoves ++
    ((List.range g.dispatches.length).filter fun id =>
      (g.dispatches[id]?).any fun d => d.progress.isOpen).flatMap dispatchMoves ++
    ((List.range g.heartbeats.length).filter fun id =>
      (g.heartbeats[id]?).any (·.pulse = .beating)).flatMap heartbeatMoves

/-- The first move that can be taken, taken. -/
def advance? (g : Gateway) : Option Gateway := g.moves.findSome? g.move?

/-- Takes moves, `steps` at most, until none can be taken. -/
def settleWithin : Nat → Gateway → Gateway
  | 0, g => g
  | steps + 1, g =>
    match g.advance? with
    | some g' => settleWithin steps g'
    | none => g

/-- A number of moves after which a gateway has settled: every frame that is read takes bytes of
its stream, every frame that is written was queued, and the rest happens a few times for each
session, dispatch and heartbeat. -/
def work (g : Gateway) : Nat :=
  let bytes := total (fun s => s.inbound.length) g.sessions
  let load := total Queue.load g.registry.queues
  let tries := total (fun d => d.attempts + 8) g.dispatches
  let beats := g.heartbeats.length * (g.registry.nodeCount + 1)
  8 * (bytes + load + tries + beats + g.reports.length + 8 * g.sessions.length + 8)

/-- Takes moves until none can be taken. -/
def settle (g : Gateway) : Gateway := settleWithin g.work g

end Switchboard.Gateway
