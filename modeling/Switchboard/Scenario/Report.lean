import Switchboard.Registry.Census
import Switchboard.Scenario.Step

/-!
# Reports on scenarios

What an observer of a scenario sees of a step: its result, the frames that workers received, the
callers that are done, the sessions that ended, and the state afterwards. All but the result is
read off the worlds before and after.
-/

set_option autoImplicit false

namespace Switchboard.Scenario

/-- What an observer sees of a step. -/
structure Report where
  result : StepResult
  /-- The frames each worker received. -/
  frames : List (String × List Envelope)
  /-- The callers that are done. -/
  done : List (String × Ending)
  /-- The workers whose sessions ended. -/
  ended : List (String × SessionError)
  census : Census
  /-- The number of open slots. -/
  pending : Nat
  /-- Every group that the gateway needs has a node. -/
  ready : Bool
  deriving Repr, Inhabited

/-- What an observer asks for: the groups whose members it counts, and those that must have a
node for the gateway to be ready. -/
structure Scope where
  groups : List String := []
  needed : List String := []
  deriving DecidableEq, Repr, Inhabited

/-- The reason why the session of a worker ended, if it did. -/
def Worker.ended? (g : Gateway) (worker : Worker) : Option SessionError :=
  match g.sessions[worker.session]? with
  | some s =>
    match s.phase with
    | .ended reason => some reason
    | _ => none
  | none => none

namespace Report

/-- What is seen of a step with this result from the worlds before and after it. -/
def between (scope : Scope) (result : StepResult) (before after : World) : Report :=
  let received := after.workers.filterMap fun (name, worker) =>
    let seen := match before.workers.get? name with
      | some old => if old.session = worker.session then old.received.length else 0
      | none => 0
    let frames := worker.received.drop seen
    if frames.isEmpty then none else some (name, frames)
  let done := after.callers.filterMap fun (name, caller) =>
    let wasDone := before.callers.get? name = some caller &&
      (caller.ending? before.gateway).isSome
    if wasDone then none else (caller.ending? after.gateway).map fun ending => (name, ending)
  let ended := after.workers.filterMap fun (name, worker) =>
    if (worker.ended? before.gateway).isSome then none
    else (worker.ended? after.gateway).map fun reason => (name, reason)
  { result
    frames := received
    done
    ended
    census := after.gateway.registry.census scope.groups
    pending := after.gateway.replies.size
    ready := scope.needed.all after.gateway.registry.hasMembers }

/-- All frames that workers received, in the order of their correlation ids. -/
def allFrames (r : Report) : List Envelope :=
  (r.frames.flatMap (·.2)).mergeSort fun a b => a.correlationId ≤ b.correlationId

end Report

namespace World

/-- Takes steps, and gives the report of each and the world at the end. -/
def run (scope : Scope) : World → List Step → List Report × World
  | w, [] => ([], w)
  | w, s :: rest =>
    let (result, after) := w.step s
    let (reports, last) := after.run scope rest
    (.between scope result w after :: reports, last)

/-- Takes steps, and gives one report on all of them, with the result of the last. -/
def summary (scope : Scope) (w : World) (steps : List Step) : Report × World :=
  let (result, last) := steps.foldl (fun (_, w) s => w.step s) (StepResult.done, w)
  (.between scope result w last, last)

end World

end Switchboard.Scenario
