import Switchboard.Correlation.IdSource
import Switchboard.Correlation.Table
import Switchboard.DispatchError
import Switchboard.Metadata
import Switchboard.Metrics
import Switchboard.Registry
import Switchboard.SessionError

/-!
# The state of a gateway

A gateway holds the streams of its workers, each in a session, and the dispatches of its callers.
Sessions and dispatches are named by the order in which they came and stay in their lists when
they are over. The journal records what happened, latest event first.

A session first waits for a frame (`Phase.greeting`), then serves its node (`Phase.serving`) until
it ends. A serving session reads frames from its worker and, at the same time, runs a sender: the
sender waits for the queue of the node to have no other sender, takes envelopes from it one at a
time and writes each as far as the worker's stream accepts bytes. When a newer connection takes
the node over, the sender lets go of the queue for good, but not in the middle of a frame. It looks
for a takeover first and turns to its queue then, and other sessions may come in between. Where no
queue can be made for a new node, the session breaks down instead of serving.

A dispatch tries the queues of the candidates it saw, waits for room in one that is full, and then
waits for its reply. When its result is certain it still has its correlation id, and gives it back
in a step of its own.

Two gauges show a number that several of them change. Whoever has changed such a number reads it
afterwards and then sets the gauge, in three steps, and others may come in between
(`Gateway.reports`).
-/

set_option autoImplicit false

namespace Switchboard

/-- The numbers a gateway runs with. -/
structure Settings where
  queueCapacity : Nat
  gatewayNumber : UInt16
  /-- The longest body a dispatch accepts. -/
  dispatchLimit : Nat
  /-- The longest body a session reads or writes. -/
  sessionLimit : Nat
  /-- How long a stream may take to send its first frame. -/
  handshakeMillis : Nat
  deriving DecidableEq, Repr, Inhabited

/-- Names a session. -/
abbrev SessionId := Nat

/-- Names a dispatch. -/
abbrev DispatchId := Nat

/-- Names a heartbeat. -/
abbrev HeartbeatId := Nat

/-- The bytes on their way to a worker: the gateway can write ahead of the worker's reading up to
the capacity. -/
structure Pipe where
  capacity : Nat
  buffered : List UInt8 := []
  /-- The worker has closed its reading side. -/
  broken : Bool := false
  deriving DecidableEq, Repr, Inhabited

/-- The number of bytes the pipe takes without waiting. -/
def Pipe.room (p : Pipe) : Nat := p.capacity - p.buffered.length

/-- What the sender of a session does. -/
inductive Sender
  /-- It waits until no other session holds the queue. -/
  | waiting
  /-- It holds the queue and waits for an envelope. -/
  | idle
  /-- It holds the queue, saw no takeover and reaches for the first envelope. -/
  | reaching
  /-- It holds the queue, and these bytes of a frame are still to be written. -/
  | writing (rest : List UInt8)
  /-- A newer connection has the node; the queue was let go. -/
  | retired
  deriving DecidableEq, Repr, Inhabited

/-- The sender holds the queue. -/
def Sender.holds : Sender → Bool
  | idle | reaching | writing _ => true
  | waiting | retired => false

/-- The part a session plays for its node. -/
structure Service where
  identity : Identity
  /-- The key of the connection, which no other connection has. -/
  key : String
  queue : QueueId
  signal : SignalId
  /-- The closing actions have been done. -/
  closed : Bool := false
  sender : Sender := .waiting
  /-- The frame that opened the stream, if it is still to be handled like any other. -/
  first : Option Envelope := none
  deriving DecidableEq, Repr, Inhabited

/-- How far a session has come. -/
inductive Phase
  /-- No frame has come; the session gives up at the deadline. -/
  | greeting (deadline : Nat)
  | serving (service : Service)
  | ended (reason : SessionError)
  /-- No queue could be made for its node: the session broke down and its stream is gone. -/
  | brokenDown
  deriving DecidableEq, Repr, Inhabited

/-- A worker's stream and what the gateway does with it. -/
structure Session where
  /-- Bytes from the worker that were not read yet. -/
  inbound : List UInt8 := []
  /-- What follows these bytes. -/
  inboundTail : Wire.Tail := .more
  outbound : Pipe
  phase : Phase
  deriving DecidableEq, Repr, Inhabited

/-- The session goes on. -/
def Session.isLive (s : Session) : Bool :=
  match s.phase with
  | .greeting _ | .serving _ => true
  | .ended _ | .brokenDown => false

/-- No more bytes come from the worker, only this end, unless they ended before. -/
def Session.cutOff (s : Session) (tail : Wire.Tail) : Session :=
  if s.inboundTail = .more then { s with inboundTail := tail } else s

/-- How far a dispatch has come. -/
inductive Progress
  /-- These candidates are still to be tried. -/
  | placing (left : List Candidate)
  /-- It waits for room in a queue; these candidates are left. -/
  | blocked (queue : QueueId) (left : List Candidate)
  /-- A queue has its envelope. -/
  | awaiting
  /-- Its result is certain. It still has its correlation id. -/
  | resolved (result : DispatchResult)
  | done (result : DispatchResult)
  /-- Its caller has gone away. -/
  | cancelled
  deriving Repr, Inhabited

/-- The dispatch has not returned, and its caller has not gone away. -/
def Progress.isOpen : Progress → Bool
  | .placing _ | .blocked _ _ | .awaiting | .resolved _ => true
  | .done _ | .cancelled => false

/-- The result of the dispatch, once it is certain. -/
def Progress.result? : Progress → Option DispatchResult
  | .resolved result | .done result => some result
  | .placing _ | .blocked _ _ | .awaiting | .cancelled => none

/-- The dispatch does not wait for anything any more. -/
def Progress.isSettled : Progress → Bool
  | .resolved _ | .done _ | .cancelled => true
  | .placing _ | .blocked _ _ | .awaiting => false

/-- A caller's command on its way. -/
structure Dispatch where
  group : String
  /-- The envelope under its correlation id. -/
  request : Envelope
  timeout : Duration
  /-- The time in milliseconds after which the dispatch gives up. -/
  deadline : Nat
  /-- The hold on the correlation id, none if it could not be had. -/
  claim : Option Correlation.Claim
  /-- The number of candidates seen. -/
  attempts : Nat
  progress : Progress
  deriving Repr, Inhabited

/-- What a heartbeat is doing. -/
inductive Pulse
  | beating
  /-- It ended because it was told to. -/
  | stopped
  /-- It ended without notice. -/
  | lost
  deriving DecidableEq, Repr, Inhabited

/-- Puts a keepalive on every queue once in a while. -/
structure Heartbeat where
  interval : Nat
  /-- The time of the next beat. -/
  next : Nat
  pulse : Pulse := .beating
  deriving DecidableEq, Repr, Inhabited

/-- Who put an envelope on a queue. -/
inductive Origin
  | dispatch (id : DispatchId)
  | heartbeat (id : HeartbeatId)
  /-- The close marker of a session. -/
  | closing (id : SessionId)
  deriving DecidableEq, Repr, Inhabited

/-- Who has a gauge to set: a session that of the nodes, a dispatch that of the pending replies. -/
inductive Reporter
  | session (id : SessionId)
  | dispatch (id : DispatchId)
  deriving DecidableEq, Repr, Inhabited

/-- The gauge that it sets. -/
def Reporter.series : Reporter → Series
  | session _ => .nodesRegistered
  | dispatch _ => .correlationsPending

/-- What happens in a gateway. -/
inductive Event
  /-- A dispatch got its correlation id. -/
  | opened (id : DispatchId) (correlation : CorrelationId)
  /-- A queue took an envelope. -/
  | queued (queue : QueueId) (frame : Envelope) (origin : Origin)
  | registered (id : SessionId) (service : Service)
  /-- A session did its closing actions; `current` if it still owned its node. -/
  | closed (id : SessionId) (current : Bool)
  /-- A session read a frame other than the `Register` that opened it. -/
  | received (id : SessionId) (frame : Envelope)
  /-- A frame went to the dispatch with this ticket. -/
  | delivered (ticket : Correlation.Ticket) (frame : Envelope)
  /-- The sender of a session saw no takeover. -/
  | looked (id : SessionId)
  /-- A session took an envelope from its queue. -/
  | taken (id : SessionId) (queue : QueueId) (frame : Envelope)
  /-- A session skipped an envelope it could not write. -/
  | skipped (id : SessionId) (frame : Envelope)
  /-- A session handed bytes to its worker's stream. -/
  | wrote (id : SessionId) (bytes : List UInt8)
  /-- The result of a dispatch became certain. -/
  | resolved (id : DispatchId) (result : DispatchResult)
  /-- A dispatch returned. -/
  | finished (id : DispatchId) (result : DispatchResult)
  /-- The caller of a dispatch went away. -/
  | cancelled (id : DispatchId)
  | ended (id : SessionId) (reason : SessionError)
  | stopped (id : HeartbeatId)
  /-- A number was read that a gauge is to show. -/
  | tallied (reporter : Reporter) (number : Nat)
  /-- A gauge was set. -/
  | published (reporter : Reporter) (number : Nat)
  deriving Repr, Inhabited

/-- The state of a gateway. -/
structure Gateway where
  settings : Settings
  /-- The time in milliseconds. -/
  clock : Nat := 0
  /-- Sessions are to end. -/
  stopping : Bool := false
  /-- Heartbeats are to end. -/
  beatsStopping : Bool := false
  registry : Registry DispatchId
  ids : Correlation.IdSource
  replies : Correlation.Table := {}
  /-- The number of connections that were given a key. -/
  accepted : Nat := 0
  sessions : List Session := []
  dispatches : List Dispatch := []
  heartbeats : List Heartbeat := []
  metrics : Metrics := {}
  /-- Who has still to set a gauge, with the number to show if it was read already. -/
  reports : Assoc Reporter (Option Nat) := []
  journal : List Event := []
  deriving Repr, Inhabited

namespace Gateway

/-- A gateway nobody has connected to. -/
def start (s : Settings) : Gateway :=
  { settings := s
    registry := { capacity := s.queueCapacity }
    ids := { gateway := s.gatewayNumber } }

def setSession (g : Gateway) (id : SessionId) (s : Session) : Gateway :=
  { g with sessions := g.sessions.set id s }

def setDispatch (g : Gateway) (id : DispatchId) (d : Dispatch) : Gateway :=
  { g with dispatches := g.dispatches.set id d }

/-- Writes an event into the journal. -/
def record (g : Gateway) (e : Event) : Gateway := { g with journal := e :: g.journal }

/-- Adds to a counter or gauge. -/
def count (g : Gateway) (s : Series) (amount : Int) : Gateway :=
  { g with metrics := g.metrics.add s amount }

/-- Sets a gauge. -/
def gauge (g : Gateway) (s : Series) (value : Nat) : Gateway :=
  { g with metrics := g.metrics.set s value }

/-- A session or dispatch has changed a number that its gauge shows, and is to set the gauge. -/
def report (g : Gateway) (reporter : Reporter) : Gateway :=
  { g with reports := g.reports.insert reporter none }

/-- The number that a gauge is to show: the registered nodes, or the open slots. -/
def reading (g : Gateway) : Reporter → Nat
  | .session _ => g.registry.nodeCount
  | .dispatch _ => g.replies.size

/-- The number that a gauge is to show is read. -/
def tally (g : Gateway) (reporter : Reporter) : Option Gateway :=
  match g.reports.get? reporter with
  | some none =>
    some ({ g with reports := g.reports.insert reporter (some (g.reading reporter)) }.record
      (.tallied reporter (g.reading reporter)))
  | some (some _) | none => none

/-- The gauge is set to the number that was read. -/
def publish (g : Gateway) (reporter : Reporter) : Option Gateway :=
  match g.reports.get? reporter with
  | some (some number) =>
    some ({ g with reports := g.reports.erase reporter }.gauge reporter.series number
      |>.record (.published reporter number))
  | some none | none => none

/-- Some session holds a queue for sending. -/
def held (g : Gateway) (queue : QueueId) : Bool :=
  g.sessions.any fun s =>
    match s.phase with
    | .serving service => service.queue = queue && service.sender.holds
    | _ => false

/-- A queue is open while a node or a serving session has it. What is on it afterwards is lost. -/
def isOpen (g : Gateway) (queue : QueueId) : Bool :=
  g.registry.owns queue ||
    g.sessions.any fun s =>
      match s.phase with
      | .serving service => service.queue = queue
      | _ => false

end Gateway

end Switchboard
