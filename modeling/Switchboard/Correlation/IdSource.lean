import Switchboard.Envelope

/-!
# Correlation ids

An id holds the number of the gateway that issued it in its high 16 bits and a counter in the low
48. The id 0 stands for "no reply" and is never issued.
-/

set_option autoImplicit false

namespace Switchboard.Correlation

/-- The part of an id that counts. -/
def counterMask : UInt64 := 0xFFFFFFFFFFFF

/-- Issues correlation ids: the number of the gateway, and the number of ids drawn so far, which
starts at one and wraps. -/
structure IdSource where
  gateway : UInt16
  counter : UInt64 := 1
  deriving DecidableEq, Repr, Inhabited

namespace IdSource

/-- The id that the counter stands at. -/
def current (s : IdSource) : CorrelationId :=
  (s.gateway.toUInt64 <<< 48) ||| (s.counter &&& counterMask)

def advanced (s : IdSource) : IdSource := { s with counter := s.counter + 1 }

/-- Draws ids, `tries` at most, until one is not 0. -/
def draw : Nat → IdSource → CorrelationId × IdSource
  | 0, s => (s.current, s)
  | tries + 1, s => if s.current = noReply then draw tries s.advanced else (s.current, s.advanced)

/-- The next id. Two tries are enough, because of two counters in a row only one is 0 in its low
48 bits. -/
def next (s : IdSource) : CorrelationId × IdSource := draw 2 s

/-- The next `n` ids. -/
def take : Nat → IdSource → List CorrelationId × IdSource
  | 0, s => ([], s)
  | n + 1, s =>
    let (id, s) := s.next
    let (ids, s) := take n s
    (id :: ids, s)

end IdSource

end Switchboard.Correlation
