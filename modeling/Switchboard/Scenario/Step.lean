import Switchboard.Scenario.World

/-!
# Steps of scenarios

What the workers, callers and operators of a scenario do. `World.step` takes a step and gives its
result; afterwards everything has come to rest.
-/

set_option autoImplicit false

namespace Switchboard.Scenario

/-- The frame that a worker replies to. -/
inductive Chosen
  /-- The frame at this place among all it has received. -/
  | place (n : Nat)
  /-- The last one that is no keepalive. -/
  | last
  deriving DecidableEq, Repr, Inhabited

/-- The fields that a reply sets. -/
structure ReplyFields where
  token : Option String := none
  correlationId : Option CorrelationId := none
  signature : Option String := none
  params : Option String := none
  payload : Option (List UInt8) := none
  traceId : Option String := none
  deriving DecidableEq, Repr, Inhabited

/-- A reply with these fields. -/
def ReplyFields.apply (f : ReplyFields) (e : Envelope) : Envelope :=
  { e with
    token := f.token.getD e.token
    correlationId := f.correlationId.getD e.correlationId
    signature := f.signature.getD e.signature
    params := f.params.getD e.params
    payload := f.payload.getD e.payload
    traceId := f.traceId.getD e.traceId }

/-- A step of a scenario. -/
inductive Step
  /-- A worker connects; the gateway can write `buffer` bytes ahead of its reading, and it reads
  everything or only what it is allowed to. -/
  | connect (worker : String) (buffer : Nat) (reads : Bool)
  | send (worker : String) (frames : List Envelope)
  | sendBytes (worker : String) (bytes : List UInt8)
  | reply (worker : String) (chosen : Chosen) (fields : ReplyFields)
  /-- Every worker answers the frames it was not asked to answer before. -/
  | replyAll
  /-- Allows a worker to read more frames. -/
  | allow (worker : String) (frames : Nat)
  | closeWrite (worker : String)
  | closeRead (worker : String)
  | dispatch (caller : String) (group : String) (timeout : Nat) (e : Envelope)
  | call (caller : String) (group : String) (command : Command) (shape : ReplyShape)
    (timeout : Nat) (request : CallRequest)
  /-- A caller goes away. -/
  | cancel (caller : String)
  | pass (millis : Nat)
  | shutdown
  /-- Sessions end, heartbeats go on. -/
  | stopSessions
  /-- The gateway serves, with a heartbeat. -/
  | serve (caller : String) (interval : Nat)
  | heartbeat (caller : String) (interval : Nat)
  | stopHeartbeats
  /-- Puts an envelope on the queue of a node. -/
  | enqueue (node : String) (e : Envelope)
  | register (group node key : String)
  | deregister (group node key : String)
  /-- Hands a frame to the table of slots. -/
  | deliver (e : Envelope)
  | openSlot (slot : String) (id : CorrelationId)
  | dropSlot (slot : String)
  deriving DecidableEq, Repr, Inhabited

/-- The result of a step. -/
inductive StepResult
  | done
  | sent
  /-- The session had ended. -/
  | brokenPipe
  /-- The worker had closed its writing side. -/
  | closed
  | noSuchFrame
  | count (n : Nat)
  | flag (yes : Bool)
  | enqueued (outcome : Offer)
  | noSuchNode
  | deregistered (outcome : Deregistration)
  | delivery (outcome : Correlation.Delivery)
  | failed (cause : DispatchError)
  deriving DecidableEq, Repr, Inhabited

namespace World

/-- Changes a worker. -/
def setWorker (w : World) (name : String) (worker : Worker) : World :=
  { w with workers := w.workers.insert name worker }

/-- A worker writes bytes. -/
def write (w : World) (name : String) (bytes : List UInt8) : StepResult × World :=
  match w.workers.get? name with
  | none => (.closed, w)
  | some worker =>
    if worker.writeClosed then (.closed, w)
    else
      match w.gateway.sessions[worker.session]? with
      | none => (.brokenPipe, w)
      | some s =>
        if s.isLive then (.sent, w.input (.send worker.session bytes)) else (.brokenPipe, w)

/-- The bytes of a frame, whatever its size. -/
def frameBytes (e : Envelope) : List UInt8 :=
  match Wire.Frame.encode (Wire.bodySize e) e with
  | .ok bytes => bytes
  | .error _ => []

/-- A worker writes a reply to a frame. -/
def reply (w : World) (name : String) (chosen : Chosen) (fields : ReplyFields) : StepResult × World :=
  let received := ((w.workers.get? name).map (·.received)).getD []
  let frame := match chosen with
    | .place n => received[n]?
    | .last => (received.filter fun e => e.command ≠ .pong).getLast?
  match frame with
  | none => (.noSuchFrame, w)
  | some e => w.write name (frameBytes (fields.apply (.replyTo e)))

/-- A worker answers what it was not asked to answer before, with the params of each frame. -/
def answer (w : World) (name : String) : Nat × World :=
  match w.workers.get? name with
  | none => (0, w)
  | some worker =>
    let replies := worker.unanswered.map fun e => { Envelope.replyTo e with params := e.params }
    let w := w.setWorker name { worker with answered := worker.received.length }
    (replies.length, replies.foldl (fun w e => (w.write name (frameBytes e)).2) w)

/-- Every worker answers. -/
def answerAll (w : World) : Nat × World :=
  w.workers.keys.foldl (fun (count, w) name =>
    let (answers, w) := w.answer name
    (count + answers, w)) (0, w)

/-- A caller waits. -/
def await (w : World) (name : String) (caller : Caller) : World :=
  { w with callers := w.callers.insert name caller }

/-- A caller goes away, if there is one of this name, and its name is free again. -/
def cancel (w : World) (name : String) : StepResult × World :=
  match w.callers.get? name with
  | none => (.flag false, w)
  | some caller =>
    let w := { w with callers := w.callers.erase name }
    match caller with
    | .dispatch id | .call id _ => (.flag true, w.input (.cancel id))
    | .heartbeat id => (.flag true, w.input (.dropHeartbeat id))
    | .refused _ | .serving _ => (.flag true, w)

/-- Puts an envelope on the queue of a node. -/
def enqueue (w : World) (node : String) (e : Envelope) : StepResult × World :=
  match w.gateway.registry.nodes.get? node with
  | none => (.noSuchNode, w)
  | some entry =>
    let (outcome, registry) := w.gateway.registry.offer entry.queue e
    (.enqueued outcome, { w with gateway := { w.gateway with registry } })

/-- Does what a step says. -/
def act (w : World) : Step → StepResult × World
  | .connect name buffer reads =>
    let worker : Worker :=
      { session := w.gateway.sessions.length, allowance := if reads then none else some 0 }
    (.done, (w.setWorker name worker).input (.connect buffer))
  | .send name frames => w.write name (frames.flatMap frameBytes)
  | .sendBytes name bytes => w.write name bytes
  | .reply name chosen fields => w.reply name chosen fields
  | .replyAll =>
    let (count, w) := w.answerAll
    (.count count, w)
  | .allow name frames =>
    match w.workers.get? name with
    | none => (.done, w)
    | some worker =>
      (.done, w.setWorker name { worker with allowance := worker.allowance.map (· + frames) })
  | .closeWrite name =>
    match w.workers.get? name with
    | none => (.flag false, w)
    | some worker =>
      if worker.writeClosed then (.flag false, w)
      else
        (.flag true, (w.setWorker name { worker with writeClosed := true }).input
          (.closeWrite worker.session))
  | .closeRead name =>
    match w.workers.get? name with
    | none => (.flag false, w)
    | some worker =>
      if worker.readClosed then (.flag false, w)
      else
        (.flag true, (w.setWorker name { worker with readClosed := true }).input
          (.closeRead worker.session))
  | .dispatch name group timeout e =>
    (.done, (w.await name (.dispatch w.gateway.dispatches.length)).input
      (.dispatch group e timeout))
  | .call name group command shape timeout request =>
    match request.prepare command with
    | .error cause => (.done, w.await name (.refused cause))
    | .ok e =>
      (.done, (w.await name (.call w.gateway.dispatches.length shape)).input
        (.dispatch group e timeout))
  | .cancel name => w.cancel name
  | .pass millis => (.done, w.pass millis)
  | .shutdown => (.done, w.input .shutdown)
  | .stopSessions => (.done, w.input .stopSessions)
  | .serve name interval =>
    (.done, (w.await name (.serving w.gateway.heartbeats.length)).input
      (.startHeartbeat interval))
  | .heartbeat name interval =>
    (.done, (w.await name (.heartbeat w.gateway.heartbeats.length)).input
      (.startHeartbeat interval))
  | .stopHeartbeats => (.done, w.input .stopHeartbeats)
  | .enqueue node e => w.enqueue node e
  | .register group node key =>
    let (_, registry) := w.gateway.registry.register group node key
    (.done, { w with gateway := { w.gateway with registry } })
  | .deregister group node key =>
    let (outcome, registry) := w.gateway.registry.deregister group node key
    (.deregistered outcome, { w with gateway := { w.gateway with registry } })
  | .deliver e =>
    let (outcome, replies) := w.gateway.replies.deliver e
    (.delivery outcome, { w with gateway := { w.gateway with replies } })
  | .openSlot name id =>
    match Scenario.openSlot w.gateway.replies w.claims name id with
    | .ok (replies, claims) =>
      (.done, { w with gateway := { w.gateway with replies }, claims })
    | .error cause => (.failed cause, w)
  | .dropSlot name =>
    match Scenario.dropSlot w.gateway.replies w.claims name with
    | none => (.flag false, w)
    | some (replies, claims) =>
      (.flag true, { w with gateway := { w.gateway with replies }, claims })

/-- Takes a step and lets everything come to rest. -/
def step (w : World) (s : Step) : StepResult × World :=
  let (result, w) := w.act s
  (result, w.rest)

end World

end Switchboard.Scenario
