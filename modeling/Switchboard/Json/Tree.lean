import Switchboard.Hex
import Switchboard.Json.Value

/-!
# JSON texts

The reading of a JSON text in two stages. `Tree.parse` checks the grammar and leaves numbers and
texts as they are written: a number may be out of range and a text may hold half of a surrogate
pair, which is harmless as long as nobody asks for the value. `Tree.value` is the value of a tree,
if it has one, and `Json.parse` puts the two together.
-/

set_option autoImplicit false

namespace Switchboard.Json

/-- A number as it is written. -/
structure Numeral where
  negative : Bool
  /-- The digits before the point, most significant first. -/
  whole : List Char
  /-- The digits behind the point, if there is one. -/
  fraction : Option (List Char)
  /-- The sign and the digits of the exponent, if there is one. -/
  exponent : Option (Bool × List Char)
  deriving DecidableEq, Repr, Inhabited

/-- A JSON text as it is written. A text that pairs its surrogates wrongly is `none`. -/
inductive Tree
  | null
  | bool (b : Bool)
  | number (n : Numeral)
  | string (s : Option String)
  | array (items : List Tree)
  | object (members : List (Option String × Tree))
  deriving Repr, Inhabited

/-- The four blanks of JSON. -/
def isBlank (c : Char) : Bool := c = ' ' || c = '\n' || c = '\t' || c = '\r'

def skipBlanks (text : List Char) : List Char := text.dropWhile isBlank

/-- The number that four hexadecimal digits stand for. -/
def hex4? (a b c d : Char) : Option Nat := Hex.number? [a, b, c, d]

/-- The character that a backslash and a letter stand for. -/
def escaped? : Char → Option Char
  | '"' => some '"'
  | '\\' => some '\\'
  | '/' => some '/'
  | 'b' => some '\x08'
  | 'f' => some '\x0c'
  | 'n' => some '\n'
  | 'r' => some '\r'
  | 't' => some '\t'
  | _ => none

/-- A piece of a quoted text: a character, or a UTF-16 unit given by its number. -/
inductive Piece
  | char (c : Char)
  | unit (n : Nat)
  deriving DecidableEq, Repr, Inhabited

/-- The pieces up to the closing quote, and what follows it. `got` holds the pieces read so far,
last piece first. -/
def pieces (got : List Piece) : List Char → Option (List Piece × List Char)
  | [] => none
  | '"' :: rest => some (got.reverse, rest)
  | '\\' :: 'u' :: a :: b :: c :: d :: rest =>
    match hex4? a b c d with
    | some n => pieces (.unit n :: got) rest
    | none => none
  | '\\' :: c :: rest =>
    match escaped? c with
    | some c => pieces (.char c :: got) rest
    | none => none
  | c :: rest => if c.toNat < 0x20 || c = '\\' then none else pieces (.char c :: got) rest

def isHighSurrogate (n : Nat) : Bool := 0xD800 ≤ n && n ≤ 0xDBFF

def isLowSurrogate (n : Nat) : Bool := 0xDC00 ≤ n && n ≤ 0xDFFF

/-- Joins surrogate pairs. A half of one that stands alone is refused. -/
def joinSurrogates (got : List Char) : List Piece → Option (List Char)
  | [] => some got.reverse
  | .char c :: rest => joinSurrogates (c :: got) rest
  | .unit high :: .unit low :: rest =>
    if isHighSurrogate high then
      if isLowSurrogate low then
        joinSurrogates
          (Char.ofNat (0x10000 + (high - 0xD800) * 0x400 + (low - 0xDC00)) :: got) rest
      else none
    else if isLowSurrogate high then none
    else joinSurrogates (Char.ofNat high :: got) (.unit low :: rest)
  | .unit n :: rest =>
    if isHighSurrogate n || isLowSurrogate n then none
    else joinSurrogates (Char.ofNat n :: got) rest

/-- Reads a text whose opening quote has been read. -/
def quoted (text : List Char) : Option (Option String × List Char) :=
  (pieces [] text).map fun (found, rest) => ((joinSurrogates [] found).map String.ofList, rest)

def isDigit (c : Char) : Bool := '0' ≤ c && c ≤ '9'

/-- Splits digits off the front. -/
def digits (text : List Char) : List Char × List Char :=
  (text.takeWhile isDigit, text.dropWhile isDigit)

/-- Digits, of which there must be one. -/
def someDigits (text : List Char) : Option (List Char × List Char) :=
  if (digits text).1.isEmpty then none else some (digits text)

/-- The part of a numeral behind the point. -/
def fraction : List Char → Option (Option (List Char) × List Char)
  | '.' :: rest => (someDigits rest).map fun (found, rest) => (some found, rest)
  | text => some (none, text)

/-- The exponent of a numeral. -/
def exponent : List Char → Option (Option (Bool × List Char) × List Char)
  | c :: rest =>
    if c = 'e' || c = 'E' then
      match rest with
      | '-' :: rest => (someDigits rest).map fun (found, rest) => (some (true, found), rest)
      | '+' :: rest => (someDigits rest).map fun (found, rest) => (some (false, found), rest)
      | _ => (someDigits rest).map fun (found, rest) => (some (false, found), rest)
    else some (none, c :: rest)
  | [] => some (none, [])

/-- A numeral. A leading zero is followed by no digit. -/
def numeral (text : List Char) : Option (Numeral × List Char) := do
  let (negative, text) := match text with
    | '-' :: rest => (true, rest)
    | _ => (false, text)
  let (whole, text) ← someDigits text
  if whole.head? = some '0' && 1 < whole.length then none
  else
    let (fraction, text) ← fraction text
    let (exponent, text) ← exponent text
    return (⟨negative, whole, fraction, exponent⟩, text)

/-- What follows `word` at the front of a text. -/
def after? : List Char → List Char → Option (List Char)
  | [], text => some text
  | _ :: _, [] => none
  | w :: word, c :: text => if w = c then after? word text else none

namespace Tree

mutual

/-- A value, behind any blanks. Each call within it is given one step less. -/
def value? : Nat → List Char → Option (Tree × List Char)
  | 0, _ => none
  | steps + 1, text =>
    match skipBlanks text with
    | [] => none
    | '"' :: rest => (quoted rest).map fun (s, rest) => (.string s, rest)
    | '[' :: rest =>
      match skipBlanks rest with
      | ']' :: rest => some (.array [], rest)
      | _ => items? steps [] rest
    | '\x7b' :: rest =>
      match skipBlanks rest with
      | '\x7d' :: rest => some (.object [], rest)
      | _ => members? steps [] rest
    | 'n' :: rest => (after? ['u', 'l', 'l'] rest).map fun rest => (.null, rest)
    | 't' :: rest => (after? ['r', 'u', 'e'] rest).map fun rest => (.bool true, rest)
    | 'f' :: rest => (after? ['a', 'l', 's', 'e'] rest).map fun rest => (.bool false, rest)
    | text => (numeral text).map fun (n, rest) => (.number n, rest)

/-- The items of an array up to its bracket. `got` holds those before, last item first. -/
def items? : Nat → List Tree → List Char → Option (Tree × List Char)
  | 0, _, _ => none
  | steps + 1, got, text =>
    match value? steps text with
    | none => none
    | some (item, rest) =>
      match skipBlanks rest with
      | ',' :: rest => items? steps (item :: got) rest
      | ']' :: rest => some (.array (item :: got).reverse, rest)
      | _ => none

/-- The members of an object up to its brace. `got` holds those before, last member first. -/
def members? : Nat → List (Option String × Tree) → List Char → Option (Tree × List Char)
  | 0, _, _ => none
  | steps + 1, got, text =>
    match skipBlanks text with
    | '"' :: rest =>
      match quoted rest with
      | none => none
      | some (key, rest) =>
        match skipBlanks rest with
        | ':' :: rest =>
          match value? steps rest with
          | none => none
          | some (value, rest) =>
            match skipBlanks rest with
            | ',' :: rest => members? steps ((key, value) :: got) rest
            | '\x7d' :: rest => some (.object ((key, value) :: got).reverse, rest)
            | _ => none
        | _ => none
    | _ => none

end

/-- The tree of a text that holds one value, between blanks. Every step of the reading takes at
least one character, so one step for each and two more suffice. -/
def parse (text : String) : Option Tree :=
  let chars := text.toList
  match value? (chars.length + 2) chars with
  | some (tree, rest) => if (skipBlanks rest).isEmpty then some tree else none
  | none => none

end Tree

/-- The number that digits stand for. -/
def ofDigits (ds : List Char) : Nat := ds.foldl (fun n d => 10 * n + (d.toNat - '0'.toNat)) 0

/-- A significand of 64 bits. -/
def wordLimit : Nat := UInt64.size

/-- Takes digits into a significand while it stays within 64 bits. The count tells how many were
taken. -/
def takeDigits (significand : Nat) : List Char → Nat × Nat
  | [] => (significand, 0)
  | d :: rest =>
    let grown := 10 * significand + (d.toNat - '0'.toNat)
    if grown < wordLimit then
      let (final, count) := takeDigits grown rest
      (final, count + 1)
    else (significand, 0)

/-- Scales a double down by powers of ten, 308 places at a time. -/
def scaleDown : Nat → Float → Nat → Float
  | 0, x, _ => x
  | steps + 1, x, places =>
    if places ≤ 308 then x / Float.ofScientific 1 false places
    else if x == 0.0 then x
    else scaleDown steps (x / 1e308) (places - 308)

/-- The double `significand · 10 ^ exponent`, by one rounding of the significand and one of the
scaling. A value beyond the largest double is refused. -/
def scaled? (significand : Nat) (exponent : Int) : Option Float :=
  let x := Float.ofNat significand
  if exponent < 0 then some (scaleDown (exponent.natAbs / 308 + 1) x exponent.natAbs)
  else if exponent ≤ 308 then
    let y := x * Float.ofScientific 1 false exponent.toNat
    if y.isInf then none else some y
  else if x == 0.0 then some x
  else none

/-- The exponents that a numeral may name are cut off here; beyond, the value is zero or out of
range. -/
def exponentLimit : Nat := UInt32.size / 2 - 1

/-- The value of a numeral with a point, an exponent or too many digits: the digits that fit into
64 bits make the significand, the ones behind them count as zeros. -/
def Numeral.double? (n : Numeral) : Option Float :=
  let (significand, taken) := takeDigits 0 n.whole
  let dropped := n.whole.length - taken
  let (significand, places) := takeDigits significand (n.fraction.getD [])
  let shift : Int := (dropped : Int) - places
  let size := match n.exponent with
    | none => scaled? significand shift
    | some (down, ds) =>
      let e := ofDigits ds
      if exponentLimit < e then
        if significand ≠ 0 && !down then none else some 0.0
      else scaled? significand (if down then shift - e else shift + e)
  size.map fun x => if n.negative then -x else x

/-- The value of a numeral: exact if it is an integer of 64 bits, else a double. The integer `-0`
is the double. -/
def Numeral.value? (n : Numeral) : Option Number :=
  let integer := ofDigits n.whole
  if n.fraction.isSome || n.exponent.isSome then n.double?.map .double
  else if n.negative then
    if 0 < integer && integer ≤ UInt64.size / 2 then some (.negative integer)
    else if integer < wordLimit then some (.double (-(Float.ofNat integer)))
    else n.double?.map .double
  else if integer < wordLimit then some (.natural integer)
  else n.double?.map .double

/-- Sets a member, in the place of one with the same key if there is one. -/
def setMember (key : String) (value : Json) :
    List (String × Json) → List (String × Json)
  | [] => [(key, value)]
  | (k, v) :: rest =>
    if k = key then (key, value) :: rest else (k, v) :: setMember key value rest

namespace Tree

mutual

/-- The value of a tree that is nested less deep than `depth`. Of members with one key the last
counts. -/
def value (depth : Nat) : Tree → Option Json
  | null => some .null
  | bool b => some (.bool b)
  | number n => n.value?.map .number
  | string s => s.map .string
  | array items => if depth ≤ 1 then none else (values (depth - 1) items).map .array
  | object members =>
    if depth ≤ 1 then none
    else (memberValues (depth - 1) members).map fun found =>
      .object (found.foldl (fun all (key, v) => setMember key v all) [])

def values (depth : Nat) : List Tree → Option (List Json)
  | [] => some []
  | item :: rest => do
    let item ← item.value depth
    let rest ← values depth rest
    return item :: rest

def memberValues (depth : Nat) : List (Option String × Tree) → Option (List (String × Json))
  | [] => some []
  | (key, item) :: rest => do
    let key ← key
    let item ← item.value depth
    let rest ← memberValues depth rest
    return (key, item) :: rest

end

end Tree

/-- A value is refused if its arrays and objects are nested this deep. -/
def depthLimit : Nat := 128

/-- The value of a JSON text. -/
def parse (text : String) : Option Json := (Tree.parse text).bind (Tree.value depthLimit)

end Switchboard.Json
