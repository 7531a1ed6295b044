import Switchboard.Gateway.State

/-!
# The steps of a dispatch

`dispatch` starts a dispatch: it draws a correlation id, opens its slot, checks the size of the
envelope and looks up the candidates. All this happens before the dispatch waits for the first time,
and counts as one step, which is when the dispatch begins; only the gauge, which others set as well,
is set in steps of its own. `place` tries one of the candidates; which of those left it tries is
open, so any order is possible. `moveOn` leaves a queue that was closed, `collect` takes the
reply, and `expire` gives up at the deadline. Each way to a result makes the result certain
(`resolve`); `conclude` gives back the slot and ends the dispatch, and a frame that comes before it
still finds the slot, although nobody looks for it any more. `cancel` is the caller going away.
-/

set_option autoImplicit false

namespace Switchboard.Gateway

/-- Gives back the place of a dispatch in the queue it waits for. -/
def withdraw (g : Gateway) (id : DispatchId) (d : Dispatch) : Gateway :=
  let registry := match d.progress with
    | .blocked queue _ => g.registry.setQueue queue ((g.registry.queue queue).leave id)
    | _ => g.registry
  { g with registry }

/-- Gives back the slot of a dispatch. -/
def release (g : Gateway) (d : Dispatch) : Gateway :=
  let replies := match d.claim with
    | some claim => g.replies.drop claim
    | none => g.replies
  { g with replies }

/-- The result of a dispatch is certain: it does not wait for anything any more. -/
def resolve (g : Gateway) (id : DispatchId) (d : Dispatch) (result : DispatchResult) : Gateway :=
  ((g.withdraw id d).setDispatch id { d with progress := .resolved result }).record
    (.resolved id result)

/-- Ends a dispatch whose result is certain, and counts it. The gauge of the pending replies is to be
set afterwards. -/
def conclude (g : Gateway) (id : DispatchId) : Option Gateway := do
  let d ← g.dispatches[id]?
  match d.progress with
  | .resolved result =>
    some ((((g.release d).setDispatch id { d with progress := .done result }
      |>.count (.dispatchOutcome d.group result.label) 1
      |>.count (.dispatchDuration d.group result.label) 1).report (.dispatch id)).record
        (.finished id result))
  | _ => none

/-- A caller sends an envelope to a group. Once the slot is open the gauge of the pending replies is
to be set, before the dispatch does anything else. -/
def dispatch (g : Gateway) (group : String) (e : Envelope) (timeout : Nat) : Gateway :=
  let id := g.dispatches.length
  let (correlation, ids) := g.ids.next
  let d : Dispatch :=
    { group
      request := e.stamped correlation
      timeout := .ofMillis timeout
      deadline := g.clock + timeout
      claim := none
      attempts := 0
      progress := .placing [] }
  let g := { g with ids, dispatches := g.dispatches ++ [d] }
  match g.replies.open? correlation with
  | none => g.resolve id d (.error (.collision correlation))
  | some (claim, replies) =>
    let d := { d with claim := some claim }
    let g := ({ g with replies }.report (.dispatch id)).record (.opened id correlation)
    let size := Wire.bodySize d.request
    if g.settings.dispatchLimit < size then
      g.resolve id d (.error (.tooLarge g.settings.dispatchLimit size))
    else
      match g.registry.candidates group with
      | none => g.resolve id d (.error (.groupNotFound group))
      | some candidates =>
        g.setDispatch id
          { d with attempts := candidates.length, progress := .placing candidates }

/-- Tries the candidate at a place among those left: a closed queue is passed over, one with room
takes the envelope, and in a full one the dispatch waits. -/
def place (g : Gateway) (id : DispatchId) (choice : Nat) : Option Gateway := do
  let d ← g.dispatches[id]?
  match d.progress with
  | .placing left =>
    let candidate ← left[choice]?
    let left := left.eraseIdx choice
    if g.isOpen candidate.queue then
      match g.registry.offer candidate.queue d.request with
      | (.accepted, registry) =>
        some (({ g with registry }.setDispatch id { d with progress := .awaiting }).record
          (.queued candidate.queue d.request (.dispatch id)))
      | (.full, registry) =>
        let queue := (registry.queue candidate.queue).join id d.request
        some ({ g with registry := registry.setQueue candidate.queue queue }.setDispatch id
          { d with progress := .blocked candidate.queue left })
    else some (g.setDispatch id { d with progress := .placing left })
  | _ => none

/-- No candidate is left. -/
def exhaust (g : Gateway) (id : DispatchId) : Option Gateway := do
  let d ← g.dispatches[id]?
  match d.progress with
  | .placing [] => some (g.resolve id d (.error (.dispatchFailed d.group d.attempts)))
  | _ => none

/-- The queue in which the dispatch waits was closed: it goes on to the candidates left. -/
def moveOn (g : Gateway) (id : DispatchId) : Option Gateway := do
  let d ← g.dispatches[id]?
  match d.progress with
  | .blocked queue left =>
    if g.isOpen queue then none
    else
      let registry := g.registry.setQueue queue ((g.registry.queue queue).leave id)
      some ({ g with registry }.setDispatch id { d with progress := .placing left })
  | _ => none

/-- What the claim of a dispatch sees. -/
def look (g : Gateway) (d : Dispatch) : Correlation.Look :=
  match d.claim with
  | some claim => g.replies.look claim
  | none => .closed

/-- The reply is there, or it is clear that none will come. -/
def collect (g : Gateway) (id : DispatchId) : Option Gateway := do
  let d ← g.dispatches[id]?
  match d.progress with
  | .awaiting =>
    match g.look d with
    | .reply e => some (g.resolve id d (.ok e))
    | .closed => some (g.resolve id d (.error (.timeout d.timeout)))
    | .pending => none
  | _ => none

/-- The dispatch can only wait, for room or for its reply. -/
def waits (g : Gateway) (d : Dispatch) : Bool :=
  match d.progress with
  | .blocked queue _ => g.isOpen queue
  | .awaiting => g.look d = .pending
  | _ => false

/-- The time for the reply is over: the dispatch has looked once more, and gives up. -/
def expire (g : Gateway) (id : DispatchId) : Option Gateway := do
  let d ← g.dispatches[id]?
  if d.deadline ≤ g.clock ∧ g.waits d = true then
    some (g.resolve id d (.error (.timeout d.timeout)))
  else none

/-- The caller of a dispatch goes away while the dispatch waits. Nothing is counted, and no gauge is
set. -/
def cancel (g : Gateway) (id : DispatchId) : Option Gateway := do
  let d ← g.dispatches[id]?
  if d.progress.isSettled then none
  else
    some ((((g.withdraw id d).release d).setDispatch id { d with progress := .cancelled }).record
      (.cancelled id))

end Switchboard.Gateway
