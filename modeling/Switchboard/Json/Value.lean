import Switchboard.Decimal.Shortest
import Switchboard.Hex

/-!
# JSON values

A value of JSON, with its numbers kept apart by kind: natural numbers and negative integers of 64
bits are exact, all others are doubles. Also the text of a value: compact, members in their order.
-/

set_option autoImplicit false

namespace Switchboard

namespace Json

/-- A number of JSON. -/
inductive Number
  /-- A natural number below `2 ^ 64`. -/
  | natural (n : Nat)
  /-- The negative of `n`, which is positive and at most `2 ^ 63`. -/
  | negative (n : Nat)
  | double (x : Float)
  deriving Repr, Inhabited

end Json

/-- A value of JSON. -/
inductive Json
  | null
  | bool (b : Bool)
  | number (n : Json.Number)
  | string (s : String)
  | array (items : List Json)
  | object (members : List (String × Json))
  deriving Repr, Inhabited

namespace Json

/-- A natural number as a value. -/
def ofNat (n : Nat) : Json := .number (.natural n)

/-- A character inside a quoted text: quotes, backslashes and controls are escaped, everything else
stands for itself. -/
def escapeChar (c : Char) : List Char :=
  if c = '"' then ['\\', '"']
  else if c = '\\' then ['\\', '\\']
  else if c = '\n' then ['\\', 'n']
  else if c = '\r' then ['\\', 'r']
  else if c = '\t' then ['\\', 't']
  else if c = '\x08' then ['\\', 'b']
  else if c = '\x0c' then ['\\', 'f']
  else if c.toNat < 0x20 then
    ['\\', 'u', '0', '0', Hex.digit (c.toNat / 16), Hex.digit (c.toNat % 16)]
  else [c]

/-- A text in quotes. -/
def quote (text : String) : List Char := '"' :: (text.toList.flatMap escapeChar ++ ['"'])

/-- The power of ten behind the digits of a number, always with its sign. -/
def exponentText (e : Int) : List Char :=
  'e' :: (if 0 ≤ e then '+' else '-') :: (toString e.natAbs).toList

/-- The digits of a decimal, positional while its point falls at most five places before the first
digit or at most sixteen behind it. A whole number gets the decimal zero. -/
def decimalText (d : Decimal) : List Char :=
  let digits := Nat.toDigits 10 d.coefficient
  -- The place of the point, counted from the first digit.
  let point : Int := digits.length + d.exponent
  if 0 ≤ d.exponent && point ≤ 16 then
    digits ++ List.replicate d.exponent.toNat '0' ++ ['.', '0']
  else if 0 < point && point ≤ 16 then
    digits.take point.toNat ++ '.' :: digits.drop point.toNat
  else if -5 < point && point ≤ 0 then
    '0' :: '.' :: (List.replicate (-point).toNat '0' ++ digits)
  else
    let exponent := exponentText (point - 1)
    match digits with
    | [digit] => digit :: exponent
    | digit :: rest => digit :: '.' :: (rest ++ exponent)
    | [] => exponent

/-- The text of a double; one that is not finite has none and becomes `null`. -/
def doubleText (x : Float) : List Char :=
  if x.isNaN || x.isInf then "null".toList
  else
    let bits := x.toBits
    let sign := if UInt64.size / 2 ≤ bits.toNat then ['-'] else []
    if x == 0.0 then sign ++ "0.0".toList else sign ++ decimalText (Decimal.shortest bits)

def Number.text : Number → List Char
  | natural n => (toString n).toList
  | negative n => '-' :: (toString n).toList
  | double x => doubleText x

/-- Puts commas between texts. -/
def commaSeparated : List (List Char) → List Char
  | [] => []
  | first :: rest => first ++ rest.flatMap (',' :: ·)

mutual

/-- The compact text of a value. -/
def render : Json → List Char
  | null => "null".toList
  | bool true => "true".toList
  | bool false => "false".toList
  | number n => n.text
  | string s => quote s
  | array items => '[' :: (commaSeparated (renderItems items) ++ [']'])
  | object members => '\x7b' :: (commaSeparated (renderMembers members) ++ ['\x7d'])

def renderItems : List Json → List (List Char)
  | [] => []
  | item :: rest => render item :: renderItems rest

def renderMembers : List (String × Json) → List (List Char)
  | [] => []
  | (key, value) :: rest => (quote key ++ ':' :: render value) :: renderMembers rest

end

/-- The compact text of a value. -/
def text (value : Json) : String := String.ofList value.render

/-- The value under a key, if the value is an object that has it. -/
def get? (value : Json) (key : String) : Option Json :=
  match value with
  | object members => members.lookup key
  | _ => none

mutual

/-- The value with the members of every object in the order of their keys. -/
def sorted : Json → Json
  | array items => .array (sortedItems items)
  | object members => .object ((sortedMembers members).mergeSort fun a b => a.1 ≤ b.1)
  | value => value

def sortedItems : List Json → List Json
  | [] => []
  | item :: rest => item.sorted :: sortedItems rest

def sortedMembers : List (String × Json) → List (String × Json)
  | [] => []
  | (key, value) :: rest => (key, value.sorted) :: sortedMembers rest

end

end Json

end Switchboard
