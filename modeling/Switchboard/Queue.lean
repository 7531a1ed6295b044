import Switchboard.Envelope

/-!
# Outbound queues

A queue holds the envelopes that wait to be written to one node, first in first out, up to a
capacity. Callers that find it full may wait for room, first come first served; room that comes
free goes to the first of them at once, so callers wait only while the queue is full.
-/

set_option autoImplicit false

namespace Switchboard

/-- An outbound queue. `σ` names the callers that wait for room. -/
structure Queue (σ : Type) where
  frames : List Envelope := []
  /-- The callers that wait for room, each with its envelope. -/
  waiting : List (σ × Envelope) := []
  deriving DecidableEq, Repr, Inhabited

namespace Queue

variable {σ : Type}

/-- A queue can be made for this many envelopes: for one at least, and for no more than a word of
64 bits counts that keeps three of its bits for marks. -/
def isCapacity (n : Nat) : Bool := 1 ≤ n && n < UInt64.size / 8

/-- The queue has room for one more envelope. -/
def hasRoom (q : Queue σ) (capacity : Nat) : Bool := q.frames.length < capacity

/-- The number of envelopes on a queue and behind it. -/
def load (q : Queue σ) : Nat := q.frames.length + q.waiting.length

/-- The number of envelopes the queue still takes. -/
def free (q : Queue σ) (capacity : Nat) : Nat := capacity - q.frames.length

/-- Appends an envelope if there is room. -/
def push? (q : Queue σ) (capacity : Nat) (e : Envelope) : Option (Queue σ) :=
  if q.hasRoom capacity then some { q with frames := q.frames ++ [e] } else none

/-- Makes a caller wait behind the others. -/
def join (q : Queue σ) (caller : σ) (e : Envelope) : Queue σ :=
  { q with waiting := q.waiting ++ [(caller, e)] }

/-- Takes a caller out of those that wait. -/
def leave [DecidableEq σ] (q : Queue σ) (caller : σ) : Queue σ :=
  { q with waiting := q.waiting.filter fun w => w.1 ≠ caller }

/-- What taking the first envelope gives: the envelope, the caller whose envelope took the room
that came free, and the queue afterwards. -/
structure Taken (σ : Type) where
  frame : Envelope
  served : Option σ
  queue : Queue σ

/-- Takes the first envelope. -/
def pop? (q : Queue σ) : Option (Taken σ) :=
  match q.frames, q.waiting with
  | [], _ => none
  | e :: rest, [] => some ⟨e, none, { q with frames := rest }⟩
  | e :: rest, (caller, next) :: others =>
    some ⟨e, some caller, { frames := rest ++ [next], waiting := others }⟩

end Queue

end Switchboard
