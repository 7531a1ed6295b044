import Switchboard.Assoc
import Switchboard.Queue

/-!
# The registry of nodes

Which nodes are connected, which group each of them serves, which connection currently owns each
of them, and the outbound queue of each.

A queue belongs to a node and outlives its connections: a connection that registers a node again
takes the queue over, with what is in it. The connection that had the node is told so by a signal
of its own, which stores one notification. Queues and signals are named by the order in which they
were made and are never forgotten, because connections keep them after the registry has dropped
the node.

Main definitions: `Registry.register`, `Registry.deregister`, `Registry.members`,
`Registry.candidates`.
-/

set_option autoImplicit false

namespace Switchboard

/-- Names a queue of a registry. -/
abbrev QueueId := Nat

/-- Names a takeover signal of a registry. -/
abbrev SignalId := Nat

/-- What the registry knows of a node. -/
structure Entry where
  group : String
  /-- The key of the connection that owns the node. -/
  key : String
  queue : QueueId
  /-- Notified when another connection takes the node over. -/
  signal : SignalId
  deriving DecidableEq, Repr, Inhabited

/-- What a connection receives when it registers. -/
structure Registration where
  queue : QueueId
  signal : SignalId
  deriving DecidableEq, Repr, Inhabited

/-- A node that can be tried for a dispatch, as seen at one moment. -/
structure Candidate where
  node : String
  queue : QueueId
  deriving DecidableEq, Repr, Inhabited

/-- The outcome of a deregistration. The members are those of the group afterwards. -/
inductive Deregistration
  | removed (members : List String)
  /-- The connection does not own the node any more; nothing changed. -/
  | stale (members : List String)
  deriving DecidableEq, Repr, Inhabited

/-- The outcome of offering an envelope to a queue. -/
inductive Offer
  | accepted
  | full
  deriving DecidableEq, Repr, Inhabited

/-- The registry. `σ` names the callers that wait for room in a queue. -/
structure Registry (σ : Type) where
  /-- The capacity of every queue. -/
  capacity : Nat
  /-- The members of each group that has any. -/
  groups : Assoc String (List String) := []
  nodes : Assoc String Entry := []
  /-- All queues ever made. -/
  queues : List (Queue σ) := []
  /-- All signals ever made, each with whether it holds a notification. -/
  signals : List Bool := []
  deriving DecidableEq, Repr, Inhabited

namespace Registry

variable {σ : Type}

/-- The groups after a node joined one. -/
def joinGroup (groups : Assoc String (List String)) (group node : String) :
    Assoc String (List String) :=
  let members := (groups.get? group).getD []
  groups.insert group (if node ∈ members then members else members ++ [node])

/-- The groups after a node left one. A group without members goes away. -/
def leaveGroup (groups : Assoc String (List String)) (group node : String) :
    Assoc String (List String) :=
  match groups.get? group with
  | none => groups
  | some members =>
    let rest := members.filter fun m => m ≠ node
    if rest.isEmpty then groups.erase group else groups.insert group rest

/-- The nodes of a group in ascending order. -/
def members (r : Registry σ) (group : String) : List String :=
  ((r.groups.get? group).getD []).mergeSort fun a b => a ≤ b

/-- A group has a node. -/
def hasMembers (r : Registry σ) (group : String) : Bool := (r.groups.get? group).isSome

/-- The key of the connection that owns a node. -/
def key? (r : Registry σ) (node : String) : Option String := (r.nodes.get? node).map (·.key)

/-- The number of registered nodes. -/
def nodeCount (r : Registry σ) : Nat := r.nodes.length

/-- The nodes of a group with their queues, none if the group has no node. -/
def candidates (r : Registry σ) (group : String) : Option (List Candidate) :=
  match r.groups.get? group with
  | none => none
  | some _ =>
    let found := (r.members group).filterMap fun node =>
      (r.nodes.get? node).map fun entry => ⟨node, entry.queue⟩
    if found.isEmpty then none else some found

/-- Every registered node with its queue. -/
def allQueues (r : Registry σ) : List Candidate :=
  r.nodes.map fun (node, entry) => ⟨node, entry.queue⟩

/-- A registered node owns a queue. -/
def owns (r : Registry σ) (queue : QueueId) : Bool :=
  r.nodes.any fun p => p.2.queue = queue

/-- The queue of this name. -/
def queue (r : Registry σ) (id : QueueId) : Queue σ := (r.queues[id]?).getD {}

/-- Replaces a queue. -/
def setQueue (r : Registry σ) (id : QueueId) (q : Queue σ) : Registry σ :=
  { r with queues := r.queues.set id q }

/-- A node can be registered: it has a queue, or one can be made. -/
def canRegister (r : Registry σ) (node : String) : Bool :=
  (r.nodes.get? node).isSome || Queue.isCapacity r.capacity

/-- Adds a node to a group and makes a connection its owner. The node's queue is made when the
node comes and kept while it stays. An owner with another key is notified and the new one gets a
signal of its own; the same key keeps its signal. -/
def register (r : Registry σ) (group node key : String) : Registration × Registry σ :=
  let groups := match r.nodes.get? node with
    | some entry =>
      if entry.group = group then r.groups else leaveGroup r.groups entry.group node
    | none => r.groups
  let groups := joinGroup groups group node
  match r.nodes.get? node with
  | some entry =>
    let sameKey := entry.key = key
    let signal := if sameKey then entry.signal else r.signals.length
    let signals := if sameKey then r.signals else r.signals.set entry.signal true ++ [false]
    (⟨entry.queue, signal⟩,
      { r with
        groups, signals
        nodes := r.nodes.insert node { entry with group, key, signal } })
  | none =>
    let queue := r.queues.length
    let signal := r.signals.length
    (⟨queue, signal⟩,
      { r with
        groups
        queues := r.queues ++ [{}]
        signals := r.signals ++ [false]
        nodes := r.nodes.insert node { group, key, queue, signal } })

/-- Removes a node if the connection still owns it in this group. -/
def deregister (r : Registry σ) (group node key : String) : Deregistration × Registry σ :=
  match r.nodes.get? node with
  | some entry =>
    if entry.key = key ∧ entry.group = group then
      let after :=
        { r with nodes := r.nodes.erase node, groups := leaveGroup r.groups group node }
      (.removed (after.members group), after)
    else (.stale (r.members group), r)
  | none => (.stale (r.members group), r)

/-- A signal holds a notification. -/
def notified (r : Registry σ) (signal : SignalId) : Bool := (r.signals[signal]?).getD false

/-- Takes the notification out of a signal. -/
def takeSignal (r : Registry σ) (signal : SignalId) : Registry σ :=
  { r with signals := r.signals.set signal false }

/-- Puts an envelope on a queue if there is room, without waiting. -/
def offer (r : Registry σ) (id : QueueId) (e : Envelope) : Offer × Registry σ :=
  match (r.queue id).push? r.capacity e with
  | some q => (.accepted, r.setQueue id q)
  | none => (.full, r)

end Registry

end Switchboard
