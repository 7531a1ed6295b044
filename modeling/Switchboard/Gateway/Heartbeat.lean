import Switchboard.Gateway.Session

/-!
# Heartbeats

A heartbeat puts a keepalive on the queue of every registered node once per interval. A full queue
is passed over and counted. The first beat comes one interval after the start. A heartbeat with no
time between its beats is lost at once.
-/

set_option autoImplicit false

namespace Switchboard.Gateway

/-- Offers a keepalive to one queue. -/
def offerKeepalive (id : HeartbeatId) (g : Gateway) (node : Candidate) : Gateway :=
  match g.offer node.queue .keepalive (.heartbeat id) with
  | (.accepted, g) => g
  | (.full, g) => g.count .heartbeatEnqueueFailed 1

/-- Offers a keepalive to every registered node. -/
def beatAll (g : Gateway) (id : HeartbeatId) : Gateway :=
  g.registry.allQueues.foldl (offerKeepalive id) g

/-- A heartbeat that is due beats. The next beat is one interval from now. -/
def beat (g : Gateway) (id : HeartbeatId) : Option Gateway := do
  let h ← g.heartbeats[id]?
  if h.pulse = .beating ∧ h.next ≤ g.clock then
    let g := g.beatAll id
    some { g with heartbeats := g.heartbeats.set id { h with next := g.clock + h.interval } }
  else none

/-- A heartbeat that is to end ends. -/
def stopBeat (g : Gateway) (id : HeartbeatId) : Option Gateway := do
  let h ← g.heartbeats[id]?
  if h.pulse = .beating ∧ g.beatsStopping = true then
    some ({ g with heartbeats := g.heartbeats.set id { h with pulse := .stopped } }.record
      (.stopped id))
  else none

/-- Starts a heartbeat, which is lost at once if its interval is zero. -/
def startBeat (g : Gateway) (interval : Nat) : Gateway :=
  let pulse := if interval = 0 then Pulse.lost else .beating
  { g with heartbeats := g.heartbeats ++ [{ interval, next := g.clock + interval, pulse }] }

/-- A heartbeat ends without notice. -/
def dropBeat (g : Gateway) (id : HeartbeatId) : Gateway :=
  { g with heartbeats := g.heartbeats.modify id fun h => { h with pulse := .lost } }

end Switchboard.Gateway
