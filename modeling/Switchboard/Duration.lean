/-!
# Lengths of time

A duration is a whole number of nanoseconds. It is written in the largest of the units
`s`, `ms`, `µs`, `ns` in which it is at least one, with as many decimals as it needs.
-/

set_option autoImplicit false

namespace Switchboard

/-- A length of time. -/
structure Duration where
  nanos : Nat
  deriving DecidableEq, Repr, Inhabited

namespace Duration

def ofMillis (ms : Nat) : Duration := ⟨ms * 1000000⟩

def ofSecs (secs : Nat) (nanos : Nat) : Duration := ⟨secs * 1000000000 + nanos⟩

/-- The digits of `n` after the point, `width` places, without zeros at the end. -/
def decimals (width n : Nat) : List Char :=
  let digits := (Nat.toDigits 10 n)
  let padded := List.replicate (width - digits.length) '0' ++ digits
  (padded.reverse.dropWhile (· == '0')).reverse

/-- The whole number `n / unit`, and after a point the rest of it in `width` places. -/
def amount (n unit width : Nat) : String :=
  let fraction := decimals width (n % unit)
  toString (n / unit) ++ (if fraction.isEmpty then "" else "." ++ String.ofList fraction)

/-- The text of a duration: the largest unit in which it is at least one. -/
def text (d : Duration) : String :=
  if 1000000000 ≤ d.nanos then amount d.nanos 1000000000 9 ++ "s"
  else if 1000000 ≤ d.nanos then amount d.nanos 1000000 6 ++ "ms"
  else if 1000 ≤ d.nanos then amount d.nanos 1000 3 ++ "µs"
  else toString d.nanos ++ "ns"

end Duration

end Switchboard
