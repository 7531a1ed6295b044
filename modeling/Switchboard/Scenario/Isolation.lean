import Switchboard.Metadata
import Switchboard.Scenario.Step

/-!
# A gateway that no worker reaches

A gateway serves on a network that carries no stream: the workers try to connect and never appear,
the callers dispatch one after another, and at the end the gateway is shut down.
-/

set_option autoImplicit false

namespace Switchboard.Scenario.Isolation

/-- What an observer sees after a worker has tried to connect. -/
structure Sighting where
  /-- The members of the worker's group. -/
  members : List String
  /-- The key of the connection that owns the worker's node. -/
  key : Option String
  ready : Bool
  deriving DecidableEq, Repr, Inhabited

/-- What an observer sees of the whole. -/
structure Record where
  sightings : List Sighting
  /-- What became of the dispatches. -/
  endings : List (Option Ending)
  /-- The gateway stopped serving. -/
  stopped : Bool
  /-- No node is registered any more. -/
  emptied : Bool
  deriving Repr, Inhabited

/-- What is seen of a worker. -/
def sighting (config : Config) (g : Gateway) (worker : Metadata) : Sighting :=
  let who := worker.identity
  ⟨g.registry.members who.group, g.registry.key? who.node, config.isReady g⟩

/-- How long a caller waits. -/
def patience : Nat := 10000

/-- The name of the caller that serves the gateway. -/
def server : String := "server"

/-- The name of the caller of a dispatch. -/
def caller (n : Nat) : String := "caller " ++ toString n

/-- The dispatches run one after another. -/
def callers (n : Nat) : List (String × Envelope) → List Step
  | [] => []
  | (group, e) :: rest =>
    .dispatch (caller n) group patience e :: .pass patience :: callers (n + 1) rest

/-- The record of a gateway with this configuration. -/
def record (config : Config) (workers : List Metadata) (dispatches : List (String × Envelope)) :
    Except Fault Record := do
  let start : World := { gateway := ← config.gateway }
  let step (w : World) (s : Step) : World := (w.step s).2
  let serving := step start (.serve server config.heartbeatIntervalMs.toNat)
  let called := (callers 0 dispatches).foldl step serving
  let stopped := step called .shutdown
  let ending (name : String) : Option Ending :=
    (stopped.callers.get? name).bind (Caller.ending? stopped.gateway)
  return {
    sightings := workers.map (sighting config serving.gateway)
    endings := (List.range dispatches.length).map fun n => ending (caller n)
    stopped := (ending server).isSome
    emptied := stopped.gateway.registry.nodeCount = 0 }

end Switchboard.Scenario.Isolation
