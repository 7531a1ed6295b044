/-!
# Shortest decimals

A finite double is an integer times a power of two, and every real number nearer to it than to
its neighbours reads back as it. `Decimal.shortest` finds the shortest decimal among those, and of
two that are equally short the nearer one. All arithmetic is exact, on natural numbers.
-/

set_option autoImplicit false

namespace Switchboard

/-- A positive decimal `coefficient · 10 ^ exponent`. -/
structure Decimal where
  coefficient : Nat
  exponent : Int
  deriving DecidableEq, Repr, Inhabited

namespace Decimal

/-- A positive double `significand · 2 ^ power`, and whether it starts a binade, so that the
neighbour below is only half as far away. -/
structure Binary where
  significand : Nat
  power : Int
  startsBinade : Bool
  deriving DecidableEq, Repr, Inhabited

/-- The size of a finite double that is not zero. -/
def Binary.ofBits (bits : UInt64) : Binary :=
  let fraction := (bits &&& 0xFFFFFFFFFFFFF).toNat
  let exponent := ((bits >>> 52) &&& 0x7FF).toNat
  if exponent = 0 then ⟨fraction, -1074, false⟩
  else ⟨fraction + Nat.pow 2 52, (exponent : Int) - 1075, fraction = 0 && exponent > 1⟩

/-- A quotient of natural numbers, `numerator / denominator`. -/
structure Ratio where
  numerator : Nat
  denominator : Nat
  deriving DecidableEq, Repr, Inhabited

/-- `n · base ^ exponent` as a quotient. -/
def Ratio.scaled (n base : Nat) (exponent : Int) : Ratio :=
  if 0 ≤ exponent then ⟨n * Nat.pow base exponent.toNat, 1⟩ else ⟨n, Nat.pow base (-exponent).toNat⟩

/-- Whether one quotient is below another. -/
def Ratio.lt (a b : Ratio) : Bool := a.numerator * b.denominator < b.numerator * a.denominator

def Ratio.le (a b : Ratio) : Bool := a.numerator * b.denominator ≤ b.numerator * a.denominator

/-- The middle between a double and the next one above. -/
def Binary.upper (x : Binary) : Ratio := .scaled (2 * x.significand + 1) 2 (x.power - 1)

/-- The middle between a double and the next one below. -/
def Binary.lower (x : Binary) : Ratio :=
  if x.startsBinade then .scaled (4 * x.significand - 1) 2 (x.power - 2)
  else .scaled (2 * x.significand - 1) 2 (x.power - 1)

/-- Whether a decimal reads back as `x`: it lies between the two middles, and on one of them only
if the significand of `x` is even. -/
def Binary.readsBack (x : Binary) (d : Decimal) : Bool :=
  let value := Ratio.scaled d.coefficient 10 d.exponent
  if x.significand % 2 = 0 then x.lower.le value && value.le x.upper
  else x.lower.lt value && value.lt x.upper

/-- Of the decimals `k · 10 ^ exponent`, the one that reads back as `x` and is nearest to it, the
even one if two are. -/
def Binary.onGrid (x : Binary) (exponent : Int) : Option Decimal :=
  let value := Ratio.scaled x.significand 2 x.power
  -- The value in units of the grid.
  let units : Ratio :=
    if 0 ≤ exponent then ⟨value.numerator, value.denominator * Nat.pow 10 exponent.toNat⟩
    else ⟨value.numerator * Nat.pow 10 (-exponent).toNat, value.denominator⟩
  let below := units.numerator / units.denominator
  let twiceRest := 2 * (units.numerator % units.denominator)
  let aboveIsNearer :=
    units.denominator < twiceRest || (units.denominator = twiceRest && below % 2 = 1)
  let order := if aboveIsNearer then [below + 1, below] else [below, below + 1]
  (order.map fun k => (⟨k, exponent⟩ : Decimal)).find? fun d =>
    0 < d.coefficient && x.readsBack d

/-- The number of decimal digits of a natural number. -/
def digitCount (n : Nat) : Nat := (Nat.toDigits 10 n).length

/-- The exponent of the coarsest grid that can hold a decimal near `x`. -/
def Binary.topExponent (x : Binary) : Int :=
  let value := Ratio.scaled x.significand 2 x.power
  (digitCount value.numerator : Int) - digitCount value.denominator + 1

/-- Searches finer and finer grids. -/
def Binary.search (x : Binary) : Nat → Int → Option Decimal
  | 0, _ => none
  | steps + 1, exponent =>
    match x.onGrid exponent with
    | some d => some d
    | none => x.search steps (exponent - 1)

/-- Drops zeros at the end of a coefficient. -/
def trim : Nat → Decimal → Decimal
  | 0, d => d
  | steps + 1, d =>
    if d.coefficient % 10 = 0 && d.coefficient ≠ 0 then
      trim steps ⟨d.coefficient / 10, d.exponent + 1⟩
    else d

/-- The shortest decimal that reads back as the double with these bits, which is finite and not
zero. Seventeen digits always suffice, so the search ends. -/
def shortest (bits : UInt64) : Decimal :=
  let x := Binary.ofBits bits
  let found := (x.search 24 x.topExponent).getD ⟨x.significand, 0⟩
  found.trim 24

end Decimal

end Switchboard
