import Switchboard.Registry
import Switchboard.Total

/-!
# Counting a registry

What an observer sees of a registry: its nodes with the connections that own them and the number
of envelopes on their queues, and the members of the groups the observer asks about.
-/

set_option autoImplicit false

namespace Switchboard

/-- What an observer sees of a node. -/
structure NodeCount where
  node : String
  /-- The key of the connection that owns the node. -/
  key : String
  /-- The number of envelopes on the node's queue. -/
  queued : Nat
  deriving DecidableEq, Repr, Inhabited

/-- What an observer sees of a registry. -/
structure Census where
  nodes : List NodeCount
  /-- The groups asked about that have members, with these. -/
  groups : List (String × List String)
  deriving DecidableEq, Repr, Inhabited

/-- The number of envelopes on all queues. -/
def Census.queued (c : Census) : Nat := total (·.queued) c.nodes

/-- Counts a registry, and the members of these groups. -/
def Registry.census {σ : Type} (r : Registry σ) (groups : List String) : Census :=
  { nodes := r.nodes.map fun (node, entry) =>
      ⟨node, entry.key, (r.queue entry.queue).frames.length⟩
    groups := (groups.filter r.hasMembers).map fun group => (group, r.members group) }

end Switchboard
