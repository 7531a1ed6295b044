import Switchboard.Registry.Census

/-!
# Scenarios of the registry

The steps register and deregister connections, put envelopes on queues, and take snapshots of the
candidates of a group. Registrations are kept under handles; a queue is open while a node of the
registry or a handle has it.
-/

set_option autoImplicit false

namespace Switchboard.Scenario.Registry

/-- A step of a scenario. -/
inductive Step
  /-- Registers a connection and keeps the registration under a handle, if there is one. -/
  | register (group node key : String) (handle : Option String)
  | deregister (group node key : String)
  | members (group : String)
  | key (node : String)
  /-- Puts an envelope on the queue of a registration. -/
  | enqueue (handle : String) (e : Envelope)
  /-- Asks for the free places of a queue. -/
  | free (handle : String)
  /-- Takes the notification of a takeover, if there is one. -/
  | superseded (handle : String)
  | release (handle : String)
  | snapshot (group : String)
  /-- Puts an envelope on the queue of a candidate of the last snapshot. -/
  | offer (node : String) (e : Envelope)
  deriving DecidableEq, Repr, Inhabited

/-- The outcome of an offer to a candidate. -/
inductive CandidateOffer
  | accepted
  /-- The queue is full, and the offer was given up. -/
  | wouldWait
  | closed
  | notACandidate
  deriving DecidableEq, Repr, Inhabited

/-- The result of a step. -/
inductive Result
  | done
  | deregistered (outcome : Deregistration)
  | members (nodes : List String)
  | key (key : Option String)
  | enqueued (outcome : Offer)
  | free (places : Nat)
  | flag (yes : Bool)
  | snapshot (nodes : Option (List String))
  | offered (outcome : CandidateOffer)
  | noHandle
  deriving DecidableEq, Repr, Inhabited

/-- Where a scenario stands. Nobody waits for room in a queue. -/
structure State where
  registry : Switchboard.Registry Empty
  handles : Assoc String Registration := []
  /-- The candidates of the last snapshot of a group that had some. -/
  candidates : List Candidate := []
  deriving Repr, Inhabited

namespace State

/-- A registration that belongs to a handle, or else a result that says there is none. -/
def withHandle (s : State) (handle : String) (act : Registration → Result × State) :
    Result × State :=
  match s.handles.get? handle with
  | none => (.noHandle, s)
  | some registration => act registration

/-- A queue is open while a node or a handle has it. -/
def isOpen (s : State) (queue : QueueId) : Bool :=
  s.registry.owns queue || s.handles.any fun h => h.2.queue = queue

/-- Offers an envelope to a candidate. -/
def offer (s : State) (node : String) (e : Envelope) : CandidateOffer × State :=
  match s.candidates.find? fun c => c.node = node with
  | none => (.notACandidate, s)
  | some candidate =>
    if !s.isOpen candidate.queue then (.closed, s)
    else
      match s.registry.offer candidate.queue e with
      | (.accepted, registry) => (.accepted, { s with registry })
      | (.full, _) => (.wouldWait, s)

/-- Takes a step. -/
def step (s : State) : Step → Result × State
  | .register group node key handle =>
    let (registration, registry) := s.registry.register group node key
    let handles := match handle with
      | some handle => s.handles.insert handle registration
      | none => s.handles
    (.done, { s with registry, handles })
  | .deregister group node key =>
    let (outcome, registry) := s.registry.deregister group node key
    (.deregistered outcome, { s with registry })
  | .members group => (.members (s.registry.members group), s)
  | .key node => (.key (s.registry.key? node), s)
  | .enqueue handle e =>
    s.withHandle handle fun registration =>
      let (outcome, registry) := s.registry.offer registration.queue e
      (.enqueued outcome, { s with registry })
  | .free handle =>
    s.withHandle handle fun registration =>
      (.free ((s.registry.queue registration.queue).free s.registry.capacity), s)
  | .superseded handle =>
    s.withHandle handle fun registration =>
      (.flag (s.registry.notified registration.signal),
        { s with registry := s.registry.takeSignal registration.signal })
  | .release handle =>
    match s.handles.get? handle with
    | none => (.flag false, s)
    | some _ => (.flag true, { s with handles := s.handles.erase handle })
  | .snapshot group =>
    match s.registry.candidates group with
    | none => (.snapshot none, s)
    | some candidates =>
      (.snapshot (some (candidates.map (·.node))), { s with candidates })
  | .offer node e =>
    let (outcome, s) := s.offer node e
    (.offered outcome, s)

/-- Takes steps, and gives for each its result and the registry afterwards, with the members of
these groups. -/
def run (groups : List String) : State → List Step → List (Result × Census)
  | _, [] => []
  | s, step :: rest =>
    let (result, s) := s.step step
    (result, s.registry.census groups) :: s.run groups rest

/-- A scenario on an empty registry. -/
def start (capacity : Nat) : State := { registry := { capacity } }

end State

end Switchboard.Scenario.Registry
