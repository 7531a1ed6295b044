import Switchboard.Gateway.State

/-!
# The steps of a session

Each definition is one step of one session: it gives the gateway afterwards, or nothing if the
session cannot take the step. `greet`, `giveUp` and `halt` decide about a stream that has not sent
a frame; `receive` reads; `acquire`, `retire`, `reach`, `take` and `write` are the steps of the
sender.
-/

set_option autoImplicit false

namespace Switchboard.Gateway

/-- The session that serves a node with this name, and what it does for the node. -/
def serving? (g : Gateway) (id : SessionId) : Option (Session × Service) :=
  match g.sessions[id]? with
  | some s =>
    match s.phase with
    | .serving service => some (s, service)
    | _ => none
  | none => none

/-- The session that waits for its first frame, and its deadline. -/
def greeting? (g : Gateway) (id : SessionId) : Option (Session × Nat) :=
  match g.sessions[id]? with
  | some s =>
    match s.phase with
    | .greeting deadline => some (s, deadline)
    | _ => none
  | none => none

/-- Puts an envelope on a queue if there is room, without waiting. -/
def offer (g : Gateway) (queue : QueueId) (e : Envelope) (origin : Origin) : Offer × Gateway :=
  match g.registry.offer queue e with
  | (.accepted, registry) => (.accepted, { g with registry }.record (.queued queue e origin))
  | (.full, _) => (.full, g)

/-- Deregisters a connection. If it still owned its node, a close marker goes behind what is on the
node's queue, unless the queue is full. The gauge of the nodes is to be set afterwards. -/
def deregister (g : Gateway) (id : SessionId) (service : Service) : Gateway :=
  match g.registry.deregister service.identity.group service.identity.node service.key with
  | (.removed _, registry) =>
    ({ g with registry }.record (.closed id true)
      |>.offer service.queue .keepalive (.closing id)).2.report (.session id)
  | (.stale _, _) =>
    (g.record (.closed id false)).count .staleDeregistrations 1 |>.report (.session id)

/-- The closing actions of a session, which are done once. -/
def close (g : Gateway) (id : SessionId) (service : Service) : Gateway :=
  if service.closed then g else g.deregister id service

/-- Ends a session that serves a node. -/
def finish (g : Gateway) (id : SessionId) (s : Session) (service : Service)
    (reason : SessionError) : Gateway :=
  (((g.close id service).count .sessionsActive (-1)).count (.sessionsClosed reason.reason) 1
    |>.setSession id { s with phase := .ended reason }).record (.ended id reason)

/-- Ends a session that has not got a frame: nobody else learns of it. -/
def dismiss (g : Gateway) (id : SessionId) (s : Session) (reason : SessionError) : Gateway :=
  (g.setSession id { s with phase := .ended reason }).record (.ended id reason)

/-- The key of a connection: the tag that its worker chose, and a number that no other connection
has. -/
def connectionKey (tag : String) (number : Nat) : String := tag ++ "-" ++ toString number

/-- Who a first frame speaks for: a frame that is no `Register` has the default identity. -/
def firstIdentity (e : Envelope) : Identity :=
  (if e.command = .register then Metadata.ofFrame e else {}).identity

/-- Registers the connection that a first frame opens, `rest` being the bytes behind the frame. A
frame that is no `Register` is handled afterwards. The gauge of the nodes is to be set before the
session does anything else. -/
def enroll (g : Gateway) (id : SessionId) (s : Session) (e : Envelope) (rest : List UInt8) :
    Gateway :=
  let identity := firstIdentity e
  let key := connectionKey identity.connTag (g.accepted + 1)
  let (registration, registry) := g.registry.register identity.group identity.node key
  let service : Service :=
    { identity, key
      queue := registration.queue
      signal := registration.signal
      first := if e.command = .register then none else some e }
  ({ g with registry, accepted := g.accepted + 1 }.report (.session id) |>.count .sessionsActive 1
    |>.setSession id { s with inbound := rest, phase := .serving service }).record
      (.registered id service)

/-- A session breaks down because no queue can be made for its node. Its key is used up. -/
def breakDown (g : Gateway) (id : SessionId) (s : Session) : Gateway :=
  { g with accepted := g.accepted + 1 }.setSession id { s with phase := .brokenDown }

/-- Opens a session for a first frame. -/
def welcome (g : Gateway) (id : SessionId) (s : Session) (e : Envelope) (rest : List UInt8) :
    Gateway :=
  if g.registry.canRegister (firstIdentity e).node then g.enroll id s e rest
  else g.breakDown id s

/-- A stream's first frame is there, or it is clear that none will come. -/
def greet (g : Gateway) (id : SessionId) : Option Gateway := do
  let (s, _) ← g.greeting? id
  match Wire.Frame.next g.settings.sessionLimit s.inbound s.inboundTail with
  | .incomplete => none
  | .finished => some (g.dismiss id s .endOfStream)
  | .failed cause => some (g.dismiss id s (.read cause))
  | .frame e rest => some (g.welcome id s e rest)

/-- The time for the first frame is over. -/
def giveUp (g : Gateway) (id : SessionId) : Option Gateway := do
  let (s, deadline) ← g.greeting? id
  if deadline ≤ g.clock ∧
      Wire.Frame.next g.settings.sessionLimit s.inbound s.inboundTail = .incomplete then
    some (g.dismiss id s (.handshakeTimeout (.ofMillis g.settings.handshakeMillis)))
  else none

/-- The gateway is shutting down. -/
def halt (g : Gateway) (id : SessionId) : Option Gateway :=
  if g.stopping then
    match g.serving? id, g.greeting? id with
    | some (s, service), _ => some (g.finish id s service .shutdown)
    | none, some (s, _) => some (g.dismiss id s .shutdown)
    | none, none => none
  else none

/-- Handles a frame from a worker: a control signal closes the session for new envelopes, anything
else goes to the caller that waits for it. -/
def handle (g : Gateway) (id : SessionId) (s : Session) (service : Service) (e : Envelope) :
    Gateway :=
  let g := g.record (.received id e)
  if e.command.isControl then
    (g.close id service).setSession id
      { s with phase := .serving { service with closed := true } }
  else
    let g := g.setSession id { s with phase := .serving service }
    match g.replies.deliver e with
    | (.delivered ticket, replies) => { g with replies }.record (.delivered ticket e)
    | (.noWaiter, _) => g.count .repliesDropped 1
    | (.unsolicited, _) => g

/-- Reads the next frame of a worker, or the end of its stream. -/
def receive (g : Gateway) (id : SessionId) : Option Gateway := do
  let (s, service) ← g.serving? id
  match service.first with
  | some e => some (g.handle id s { service with first := none } e)
  | none =>
    match Wire.Frame.next g.settings.sessionLimit s.inbound s.inboundTail with
    | .incomplete => none
    | .finished => some (g.finish id s service .endOfStream)
    | .failed cause => some (g.finish id s service (.read cause))
    | .frame e rest => some (g.handle id { s with inbound := rest } service e)

/-- The session with its sender in another state. -/
def setSender (g : Gateway) (id : SessionId) (s : Session) (service : Service)
    (sender : Sender) : Gateway :=
  g.setSession id { s with phase := .serving { service with sender } }

/-- The sender gets hold of the queue. -/
def acquire (g : Gateway) (id : SessionId) : Option Gateway := do
  let (s, service) ← g.serving? id
  if service.sender = .waiting ∧ g.held service.queue = false then
    some (g.setSender id s service .idle)
  else none

/-- A newer connection has the node: the sender lets go of the queue. A frame that is being written
is written out first. -/
def retire (g : Gateway) (id : SessionId) : Option Gateway := do
  let (s, service) ← g.serving? id
  if (service.sender = .waiting ∨ service.sender = .idle) ∧
      g.registry.notified service.signal = true then
    let g := { g with registry := g.registry.takeSignal service.signal }
    some (g.setSender id s service .retired)
  else none

/-- The sender sees no takeover, and reaches for its queue next. -/
def reach (g : Gateway) (id : SessionId) : Option Gateway := do
  let (s, service) ← g.serving? id
  if service.sender = .idle ∧ g.registry.notified service.signal = false then
    some ((g.setSender id s service .reaching).record (.looked id))
  else none

/-- The sender has an envelope to reach for. -/
def hasNext (g : Gateway) (id : SessionId) : Bool :=
  match g.serving? id with
  | some (_, service) => !(g.registry.queue service.queue).frames.isEmpty
  | none => false

/-- The sender reaches for its queue. -/
def isReaching (g : Gateway) (id : SessionId) : Bool :=
  match g.serving? id with
  | some (_, service) => service.sender = .reaching
  | none => false

/-- A dispatch that waited for room got it. -/
def served (g : Gateway) (id : DispatchId) (queue : QueueId) : Gateway :=
  match g.dispatches[id]? with
  | some d =>
    (g.setDispatch id { d with progress := .awaiting }).record
      (.queued queue d.request (.dispatch id))
  | none => g

/-- The dispatch that waited for room in a queue, if there is one, gets it. Its envelope goes on the
queue with the take that frees the room, and not when the dispatch goes on: nobody else can have the
room in between, and the frames in front of the envelope are the same. Of two dispatches that were
let in, the one that goes on first is taken to be the one that waited first, and a caller that goes
away between the two steps is taken to go away after both. -/
def letIn (g : Gateway) (waiting : Option DispatchId) (queue : QueueId) : Gateway :=
  match waiting with
  | some caller => g.served caller queue
  | none => g

/-- The sender that reached for its queue takes the next envelope, whether or not the node was taken
over meanwhile, or finds the queue empty. An envelope that cannot be written is skipped, and the
stream stays in step. -/
def take (g : Gateway) (id : SessionId) : Option Gateway := do
  let (s, service) ← g.serving? id
  if service.sender = .reaching then
    match (g.registry.queue service.queue).pop? with
    | none => some (g.setSender id s service .idle)
    | some taken =>
      let after := ({ g with registry := g.registry.setQueue service.queue taken.queue }.record
        (.taken id service.queue taken.frame)).letIn taken.served service.queue
      match Wire.Frame.encode g.settings.sessionLimit taken.frame with
      | .ok bytes => some (after.setSender id s service (.writing bytes))
      | .error _ =>
        some (((after.setSender id s service .idle).count .framesDropped 1).record
          (.skipped id taken.frame))
  else none

/-- The sender writes as much of a frame as the stream takes. -/
def write (g : Gateway) (id : SessionId) : Option Gateway := do
  let (s, service) ← g.serving? id
  match service.sender with
  | .writing rest =>
    if s.outbound.broken then some (g.finish id s service (.write .brokenPipe))
    else
      let count := min s.outbound.room rest.length
      if count = 0 then none
      else
        let outbound := { s.outbound with buffered := s.outbound.buffered ++ rest.take count }
        let left := rest.drop count
        let sender := if left.isEmpty then .idle else .writing left
        some ((g.setSender id { s with outbound } service sender).record
          (.wrote id (rest.take count)))
  | _ => none

end Switchboard.Gateway
