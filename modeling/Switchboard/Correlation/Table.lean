import Switchboard.Envelope

/-!
# Waiting for replies

A caller opens a slot under a correlation id and holds a claim on it. A reply with that id goes to
the claim and takes the slot away. A claim that is dropped takes away whatever slot its id has at
that moment.

Claims of one table are told apart by tickets, which are handed out in order and never twice.
-/

set_option autoImplicit false

namespace Switchboard.Correlation

/-- Tells the claims of a table apart. -/
abbrev Ticket := Nat

/-- A caller's hold on a correlation id. -/
structure Claim where
  id : CorrelationId
  ticket : Ticket
  deriving DecidableEq, Repr, Inhabited

/-- The open slots, each with the ticket of the claim that opened it, and the replies that were
handed over and not collected yet. -/
structure Table where
  slots : List (CorrelationId × Ticket) := []
  replies : List (Ticket × Envelope) := []
  nextTicket : Ticket := 0
  deriving DecidableEq, Repr, Inhabited

/-- What became of a frame that was offered to the table. -/
inductive Delivery
  /-- It went to this claim. -/
  | delivered (ticket : Ticket)
  /-- Nobody waits for it. -/
  | noWaiter
  /-- It carries no correlation id. -/
  | unsolicited
  deriving DecidableEq, Repr, Inhabited

/-- What a claim sees. -/
inductive Look
  | pending
  /-- The slot went away without a reply. -/
  | closed
  | reply (e : Envelope)
  deriving DecidableEq, Repr, Inhabited

namespace Table

/-- The number of open slots. -/
def size (t : Table) : Nat := t.slots.length

/-- The claim that waits under an id. -/
def waiter? (t : Table) (id : CorrelationId) : Option Ticket := t.slots.lookup id

/-- The table without a slot under `id`. -/
def withoutSlot (t : Table) (id : CorrelationId) : Table :=
  { t with slots := t.slots.filter fun slot => slot.1 != id }

/-- Opens a slot. It fails on the id 0 and on an id that has a slot. -/
def open? (t : Table) (id : CorrelationId) : Option (Claim × Table) :=
  if id = noReply || (t.waiter? id).isSome then none
  else
    some (⟨id, t.nextTicket⟩,
      { t with slots := t.slots ++ [(id, t.nextTicket)], nextTicket := t.nextTicket + 1 })

/-- Hands a frame to the claim that waits for it. -/
def deliver (t : Table) (e : Envelope) : Delivery × Table :=
  if e.correlationId = noReply then (.unsolicited, t)
  else
    match t.waiter? e.correlationId with
    | none => (.noWaiter, t)
    | some ticket =>
      (.delivered ticket,
        { t.withoutSlot e.correlationId with replies := t.replies ++ [(ticket, e)] })

/-- What a claim sees at this moment. -/
def look (t : Table) (c : Claim) : Look :=
  match t.replies.lookup c.ticket with
  | some e => .reply e
  | none => if (c.id, c.ticket) ∈ t.slots then .pending else .closed

/-- Drops a claim: the slot under its id goes away, whoever opened it, and so does a reply that
was not collected. -/
def drop (t : Table) (c : Claim) : Table :=
  { t.withoutSlot c.id with replies := t.replies.filter fun r => r.1 != c.ticket }

end Table

end Switchboard.Correlation
