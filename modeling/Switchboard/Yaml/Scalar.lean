import Switchboard.Hex
import Switchboard.Yaml.Cursor

/-!
# The texts of YAML scalars

A scalar is written plain, in single or double quotes, or as a block, literal or folded. Each
reader here starts behind what told the style and gives the text and the place behind the scalar.
Where lines are folded, one line break becomes a space, and of several the first is dropped.
-/

set_option autoImplicit false

namespace Switchboard.Yaml

/-- How a scalar is written. -/
inductive Style
  | plain
  | singleQuoted
  | doubleQuoted
  | literal
  | folded
  deriving DecidableEq, Repr, Inhabited

/-- The blanks and line breaks between two words of a scalar. -/
structure Gap where
  /-- The blanks before the first line break. -/
  blanks : List Char := []
  /-- A line break was found. -/
  broken : Bool := false
  first : List Char := []
  /-- The line breaks behind the first. -/
  more : List Char := []
  deriving Repr, Inhabited

namespace Gap

/-- What a gap amounts to in a text. -/
def text (g : Gap) : List Char :=
  if g.broken then
    if g.first = ['\n'] then (if g.more.isEmpty then [' '] else g.more) else g.first ++ g.more
  else g.blanks

/-- Reads a gap, in `steps` steps at most. `floor` is the column before which no tab may stand on
a new line. -/
def scan (floor : Int) : Nat → Gap → Cursor → Option (Gap × Cursor)
  | 0, _, _ => none
  | steps + 1, g, c =>
    match c.peek with
    | none => some (g, c)
    | some x =>
      if isBlank x then
        if g.broken then
          if x = '\t' && (c.column : Int) < floor then none else scan floor steps g (c.skip 1)
        else scan floor steps { g with blanks := g.blanks ++ [x] } (c.skip 1)
      else
        match c.lineBreak with
        | ([], _) => some (g, c)
        | (b, next) =>
          if g.broken then scan floor steps { g with more := g.more ++ b } next
          else scan floor steps { g with blanks := [], broken := true, first := b } next

end Gap

/-! ## Plain scalars -/

namespace Plain

/-- The marks of flow collections, which end a plain scalar inside one. -/
def isFlowMark (c : Char) : Bool :=
  c = ',' || c = '[' || c = ']' || c = '\x7b' || c = '\x7d'

/-- A word of a plain scalar: it ends before a gap, before a colon with a gap behind it, and inside
a flow collection before its marks. There no mark may stand behind a colon. -/
def word (inFlow : Bool) (got : List Char) : List Char → Option (List Char)
  | [] => some got.reverse
  | c :: rest =>
    if isGap (some c) then some got.reverse
    else if inFlow && c = ':' && rest.head?.any (fun next => isFlowMark next || next = '?') then
      none
    else if (c = ':' && isGap rest.head?) || (inFlow && isFlowMark c) then some got.reverse
    else word inFlow (c :: got) rest

/-- What was read of a plain scalar. -/
structure Result where
  text : List Char
  /-- The scalar ended behind a line break. -/
  broken : Bool
  cursor : Cursor

/-- Reads words and the gaps between them, in `steps` steps at most. `got` holds what was read before
the gap in front of the cursor, last character first. -/
def scan (inFlow : Bool) (floor : Int) : Nat → List Char → Gap → Cursor → Option Result
  | 0, _, _, _ => none
  | steps + 1, got, gap, c =>
    if c.atDocumentMarker || c.peek = some '#' then some ⟨got.reverse, gap.broken, c⟩
    else do
      let found ← word inFlow [] c.rest
      if found.isEmpty then return ⟨got.reverse, gap.broken, c⟩
      let got := found.reverse ++ (gap.text.reverse ++ got)
      let c := c.skip found.length
      match c.peek with
      | none => return ⟨got.reverse, false, c⟩
      | some x =>
        if isBlank x || isBreak x then
          let (gap, c) ← Gap.scan floor (steps + 1) {} c
          if !inFlow && (c.column : Int) < floor then return ⟨got.reverse, gap.broken, c⟩
          scan inFlow floor steps got gap c
        else return ⟨got.reverse, false, c⟩

/-- Reads a plain scalar. Its lines must not start before the column `floor`, except in a flow
collection. -/
def read (inFlow : Bool) (floor : Int) (c : Cursor) : Option Result :=
  scan inFlow floor (c.rest.length + 1) [] {} c

end Plain

/-! ## Quoted scalars -/

namespace Quoted

/-- The character that a backslash and a character stand for. -/
def escaped? : Char → Option Char
  | '0' => some '\x00'
  | 'a' => some '\x07'
  | 'b' => some '\x08'
  | 't' | '\t' => some '\t'
  | 'n' => some '\n'
  | 'v' => some '\x0b'
  | 'f' => some '\x0c'
  | 'r' => some '\r'
  | 'e' => some '\x1b'
  | ' ' => some ' '
  | '"' => some '"'
  | '/' => some '/'
  | '\\' => some '\\'
  | 'N' => some '\x85'
  | '_' => some '\xa0'
  | 'L' => some '\u2028'
  | 'P' => some '\u2029'
  | _ => none

/-- The number of hexadecimal digits behind a backslash and this letter. -/
def digitCount? : Char → Option Nat
  | 'x' => some 2
  | 'u' => some 4
  | 'U' => some 8
  | _ => none

/-- The character with a number, if there is one. -/
def character? (n : Nat) : Option Char := if n.isValidChar then some (.ofNat n) else none

/-- What was read up to a gap or to the closing quote. -/
structure Word where
  /-- All that was read, last character first. -/
  got : List Char
  /-- The word ended with an escaped line break. -/
  joined : Bool
  cursor : Cursor

/-- Reads the characters up to a gap or to the closing quote, in `steps` steps at most. `got` holds
those read before, last one first. -/
def word (double : Bool) : Nat → List Char → Cursor → Option Word
  | 0, _, _ => none
  | steps + 1, got, c =>
    match c.rest with
    | [] => some ⟨got, false, c⟩
    | x :: rest =>
      if isGap (some x) then some ⟨got, false, c⟩
      else if !double then
        match x, rest with
        | '\'', '\'' :: _ => word double steps ('\'' :: got) (c.skip 2)
        | '\'', _ => some ⟨got, false, c⟩
        | _, _ => word double steps (x :: got) (c.skip 1)
      else if x = '"' then some ⟨got, false, c⟩
      else if x = '\\' then
        match rest with
        | [] => none
        | e :: digits =>
          if isBreak e then some ⟨got, true, (c.skip 1).lineBreak.2⟩
          else
            match digitCount? e with
            | some count => do
              if digits.length < count then none
              else
                let n ← Hex.number? (digits.take count)
                let value ← character? n
                word double steps (value :: got) (c.skip (2 + count))
            | none => do
              let value ← escaped? e
              word double steps (value :: got) (c.skip 2)
      else word double steps (x :: got) (c.skip 1)

/-- Reads words and gaps up to the closing quote, in `steps` steps at most. `got` holds what was read
before, last character first. -/
def scan (double : Bool) : Nat → List Char → Cursor → Option (List Char × Cursor)
  | 0, _, _ => none
  | steps + 1, got, c =>
    if c.atDocumentMarker || c.rest.isEmpty then none
    else do
      let found ← word double (steps + 1) got c
      let c := found.cursor
      if c.peek = some (if double then '"' else '\'') then
        return (found.got.reverse, c.skip 1)
      let (gap, c) ← Gap.scan 0 (steps + 1) { broken := found.joined } c
      scan double steps (gap.text.reverse ++ found.got) c

/-- Reads a quoted scalar behind its opening quote. -/
def read (double : Bool) (c : Cursor) : Option (List Char × Cursor) :=
  scan double (c.rest.length + 1) [] c

end Quoted

/-! ## Block scalars -/

namespace Block

/-- What becomes of the line breaks at the end of a block. -/
inductive Chomping
  | strip
  | clip
  | keep
  deriving DecidableEq, Repr, Inhabited

/-- The signs behind the mark of a block. -/
structure Header where
  chomping : Chomping := .clip
  /-- The indentation beyond that of the parent, if it is given. -/
  increment : Option Nat := none
  deriving Repr, Inhabited

def chomping? : Option Char → Option Chomping
  | some '+' => some .keep
  | some '-' => some .strip
  | _ => none

/-- Reads an indentation, a digit other than 0; there may be none. -/
def increment? (c : Cursor) : Option (Option Nat × Cursor) :=
  match c.peek with
  | some x =>
    if x.isDigit then
      if x = '0' then none else some (some (x.toNat - '0'.toNat), c.skip 1)
    else some (none, c)
  | none => some (none, c)

/-- Reads the signs: one for the end and one for the indentation, in any order. -/
def header? (c : Cursor) : Option (Header × Cursor) :=
  match chomping? c.peek with
  | some chomping => do
    let (increment, c) ← increment? (c.skip 1)
    return ({ chomping, increment }, c)
  | none => do
    let (increment, c) ← increment? c
    match increment, chomping? c.peek with
    | some _, some chomping => return ({ chomping, increment }, c.skip 1)
    | _, _ => return ({ increment }, c)

/-- The empty lines in front of a line: their breaks, and the widest indentation among them and the
line. -/
structure Margin where
  breaks : List Char
  widest : Nat
  cursor : Cursor

/-- Reads empty lines, `lines` at most. Spaces belong to the indentation up to `indent`, all of
them if it is not known; no tab may stand among them. -/
def margin (indent : Option Nat) : Nat → List Char → Nat → Cursor → Option Margin
  | 0, _, _, _ => none
  | lines + 1, breaks, widest, c =>
    let spaces := c.rest.takeWhile (· = ' ')
    let count := match indent with
      | some n => min spaces.length (n - c.column)
      | none => spaces.length
    let c := c.skip count
    let widest := max widest c.column
    let inside := match indent with
      | some n => c.column < n
      | none => true
    if inside && c.peek = some '\t' then none
    else
      match c.lineBreak with
      | ([], _) => some ⟨breaks, widest, c⟩
      | (b, next) => margin indent lines (breaks ++ b) widest next

/-- How far the reading of a block has come. -/
structure Body where
  /-- What was read, last character first. -/
  got : List Char := []
  /-- The break at the end of the last line. -/
  last : List Char := []
  /-- The breaks of the empty lines behind it. -/
  empty : List Char
  /-- The last line started with a blank. -/
  blank : Bool := false
  cursor : Cursor

/-- Reads lines, `lines` at most. -/
def body (folded : Bool) (indent : Nat) : Nat → Body → Option Body
  | 0, _ => none
  | lines + 1, b =>
    let c := b.cursor
    if c.column ≠ indent || c.rest.isEmpty then some b
    else do
      let blank := c.peek.any isBlank
      let joint :=
        if folded && b.last = ['\n'] && !b.blank && !blank then
          (if b.empty.isEmpty then [' '] else [])
        else b.last
      let (line, c) := c.span fun x => !isBreak x
      let (last, c) := c.lineBreak
      let after ← margin (some indent) (lines + 1) [] 0 c
      body folded indent lines
        { got := (joint ++ b.empty ++ line).reverse ++ b.got
          last, blank
          empty := after.breaks
          cursor := after.cursor }

/-- Reads a block behind its mark. `parent` is the indentation of the collection around it, -1 if
there is none. -/
def read (folded : Bool) (parent : Int) (c : Cursor) : Option (List Char × Cursor) := do
  let (header, c) ← header? c
  let c ← c.endLine?
  let given := header.increment.map fun n => parent.toNat + n
  let start ← margin given (c.rest.length + 1) [] 0 c
  let indent := given.getD (max start.widest (max (parent + 1).toNat 1))
  let b ← body folded indent (start.cursor.rest.length + 1)
    { empty := start.breaks, cursor := start.cursor }
  let tail := match header.chomping with
    | .strip => []
    | .clip => b.last
    | .keep => b.last ++ b.empty
  return (b.got.reverse ++ tail, b.cursor)

end Block

end Switchboard.Yaml
