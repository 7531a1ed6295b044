import Switchboard.Hex

/-!
# What plain scalars stand for

A plain scalar without a tag may be read as nothing, a truth value, an integer or a double; any
other text stands for itself. Integers are written in base ten without needless zeros, or behind
`0x`, `0o` or `0b`.
-/

set_option autoImplicit false

namespace Switchboard.Yaml

/-- What a plain scalar stands for. -/
inductive Literal
  | nothing
  | bool (b : Bool)
  /-- A natural number below `2 ^ 64`. -/
  | natural (n : Nat)
  /-- The number `n` behind a minus sign, at most `2 ^ 63`. -/
  | negative (n : Nat)
  /-- An integer of more than 64 and at most 128 bits. -/
  | tooLarge
  /-- A finite or special double. -/
  | double
  | text
  deriving DecidableEq, Repr, Inhabited

namespace Literal

def isNothing (text : String) : Bool := ["null", "Null", "NULL", "~"].contains text

def bool? (text : String) : Option Bool :=
  if ["true", "True", "TRUE"].contains text then some true
  else if ["false", "False", "FALSE"].contains text then some false
  else none

def isSign (c : Char) : Bool := c = '+' || c = '-'

/-- The text without a sign at its start. -/
def unsignedPart : List Char → List Char
  | c :: rest => if isSign c then rest else c :: rest
  | [] => []

/-- A zero with more digits behind it. -/
def hasLeadingZero (text : List Char) : Bool :=
  match unsignedPart text with
  | '0' :: d :: rest => (d :: rest).all Char.isDigit
  | _ => false

/-- The number that digits of a base stand for. There must be one. -/
def digits? (base : Nat) (ds : List Char) : Option Nat :=
  if ds.isEmpty then none
  else ds.foldlM (fun n d => ((Hex.value? d).filter fun v => v < base).map fun v => n * base + v) 0

/-- The base that two characters announce. -/
def base? : Char → Char → Option Nat
  | '0', 'x' => some 16
  | '0', 'o' => some 8
  | '0', 'b' => some 2
  | _, _ => none

/-- The digits behind an announced base, as a number. -/
def based? : List Char → Option Nat
  | a :: b :: ds => (base? a b).bind fun base => digits? base ds
  | _ => none

/-- The natural number that a text stands for. -/
def natural? (text : List Char) : Option Nat :=
  let rest := match text with
    | '+' :: rest => rest
    | rest => rest
  match based? rest with
  | some n => some n
  | none => if hasLeadingZero text then none else digits? 10 rest

/-- The number behind a minus sign that a text stands for. -/
def negative? : List Char → Option Nat
  | '-' :: rest =>
    match based? rest with
    | some n => some n
    | none => if hasLeadingZero ('-' :: rest) then none else digits? 10 rest
  | _ => none

/-- A decimal with a fraction or an exponent: the digits without the point, and the power of ten
behind them. -/
structure Scientific where
  coefficient : Nat
  exponent : Int
  deriving DecidableEq, Repr, Inhabited

/-- Reads an exponent. -/
def exponent? : List Char → Option Int
  | [] => some 0
  | e :: rest =>
    if e = 'e' || e = 'E' then
      match rest with
      | '-' :: ds => (digits? 10 ds).map fun n => -(n : Int)
      | '+' :: ds => (digits? 10 ds).map fun n => (n : Int)
      | ds => (digits? 10 ds).map fun n => (n : Int)
    else none

/-- Reads a decimal: digits with a point anywhere, and perhaps an exponent. -/
def scientific? (text : List Char) : Option Scientific := do
  let rest := unsignedPart text
  let whole := rest.takeWhile Char.isDigit
  let rest := rest.dropWhile Char.isDigit
  let (fraction, rest) := match rest with
    | '.' :: rest => (rest.takeWhile Char.isDigit, rest.dropWhile Char.isDigit)
    | rest => ([], rest)
  let coefficient ← digits? 10 (whole ++ fraction)
  let exponent ← exponent? rest
  return ⟨coefficient, exponent - fraction.length⟩

/-- The numbers from here on are rounded to infinity: the middle between the largest double and the
power of two above it. -/
def doubleLimit : Nat := (Nat.pow 2 54 - 1) * Nat.pow 2 970

/-- A decimal is not rounded to infinity. -/
def Scientific.isFinite (x : Scientific) : Bool :=
  let size : Int := (Nat.toDigits 10 x.coefficient).length + x.exponent
  if x.coefficient = 0 || size < 0 then true
  else if 400 < size then false
  else if 0 ≤ x.exponent then x.coefficient * Nat.pow 10 x.exponent.toNat < doubleLimit
  else x.coefficient < doubleLimit * Nat.pow 10 (-x.exponent).toNat

/-- A text stands for a double. -/
def isDouble (text : String) : Bool :=
  [".inf", ".Inf", ".INF", "+.inf", "+.Inf", "+.INF", "-.inf", "-.Inf", "-.INF", ".nan", ".NaN",
    ".NAN"].contains text || (scientific? text.toList).any Scientific.isFinite

/-- The integer that a text stands for, `tooLarge` if it has more than 64 bits. -/
def integer? (text : String) : Option Literal :=
  match natural? text.toList, negative? text.toList with
  | some n, _ =>
    if n < UInt64.size then some (natural n)
    else if n < UInt64.size * UInt64.size then some tooLarge else none
  | none, some n =>
    if n ≤ UInt64.size / 2 then some (negative n)
    else if n ≤ UInt64.size * UInt64.size / 2 then some tooLarge else none
  | none, none => none

/-- What a text stands for. -/
def ofText (text : String) : Literal :=
  if text.isEmpty || isNothing text then nothing
  else
    match bool? text, integer? text with
    | some b, _ => bool b
    | none, some integer => integer
    | none, none =>
      if !hasLeadingZero text.toList && isDouble text then double else Literal.text

end Literal

end Switchboard.Yaml
