import Switchboard.Yaml.Scalar
import Switchboard.Yaml.Tag

/-!
# YAML tokens

A YAML text as a list of tokens. Collections in block style are told by indentation: the scanner
keeps the columns at which the open ones begin, and writes a token where one begins and where it
ends.

A key has no mark of its own. Where one may begin, the scanner remembers the place in the list of
tokens (`PossibleKey`), and when a colon follows on the same line, the token `key` is put in at
that place.
-/

set_option autoImplicit false

namespace Switchboard.Yaml

/-- A token of a YAML text. -/
inductive Token
  | directive (d : Directive)
  | documentStart
  | documentEnd
  | blockListStart
  | blockRecordStart
  | blockEnd
  | flowListStart
  | flowListEnd
  | flowRecordStart
  | flowRecordEnd
  /-- The dash in front of an item. -/
  | blockEntry
  /-- The comma between two items. -/
  | flowEntry
  | key
  | value
  | reference (name : String)
  | anchor (name : String)
  | tag (name : TagName)
  | scalar (style : Style) (text : String)
  deriving DecidableEq, Repr, Inhabited

/-- A place at which a key may begin. -/
structure PossibleKey where
  /-- A key has to begin here. -/
  required : Bool
  /-- The number of tokens before the key. -/
  place : Nat
  index : Nat
  line : Nat
  column : Nat
  deriving Repr, Inhabited

/-- Where the scanner stands. -/
structure Scanner where
  cursor : Cursor
  /-- The tokens so far, last one first. -/
  tokens : List Token := []
  /-- The number of the tokens. -/
  count : Nat := 0
  /-- The column of the innermost block collection, -1 if there is none. -/
  indent : Int := -1
  /-- The columns of the block collections around it. -/
  outer : List Int := []
  /-- A key may begin at the cursor. -/
  keyAllowed : Bool := true
  /-- The place at which a key may have begun in the innermost flow collection. -/
  possible : Option PossibleKey := none
  /-- Those in the flow collections around it. -/
  outerPossible : List (Option PossibleKey) := []
  deriving Inhabited

namespace Scanner

/-- The scanner is inside a flow collection. -/
def inFlow (s : Scanner) : Bool := !s.outerPossible.isEmpty

/-- Writes a token. -/
def emit (s : Scanner) (t : Token) : Scanner :=
  { s with tokens := t :: s.tokens, count := s.count + 1 }

/-- Puts a token in behind the first `place` tokens. -/
def insert (s : Scanner) (place : Nat) (t : Token) : Scanner :=
  let later := s.count - place
  { s with
    tokens := s.tokens.take later ++ t :: s.tokens.drop later
    count := s.count + 1 }

/-- Moves the cursor behind `n` characters. -/
def skip (s : Scanner) (n : Nat) : Scanner := { s with cursor := s.cursor.skip n }

/-- Skips blanks, comments and line breaks. A tab may stand where no key may begin, and a byte order
mark at the start of a line. -/
def skipGaps : Nat → Scanner → Scanner
  | 0, s => s
  | lines + 1, s =>
    let start := if s.cursor.column = 0 && s.cursor.peek = some '\ufeff' then s.cursor.skip 1
      else s.cursor
    let tabs := s.inFlow || !s.keyAllowed
    let c := start.skipWhile fun x => x = ' ' || (tabs && x = '\t')
    let c := if c.peek = some '#' then c.skipWhile fun x => !isBreak x else c
    match c.lineBreak with
    | ([], _) => { s with cursor := c }
    | (_, next) => skipGaps lines { s with cursor := next, keyAllowed := !s.inFlow || s.keyAllowed }

/-- A key is not possible any more when its line is over or it is longer than 1024 bytes. -/
def isStale (c : Cursor) (k : PossibleKey) : Bool :=
  k.line < c.line || k.index + 1024 < c.index

/-- The possible key, if it still is one. It fails if a key had to be there. -/
def freshKey? (c : Cursor) (k : Option PossibleKey) : Option (Option PossibleKey) :=
  match k with
  | none => some none
  | some k => if !isStale c k then some (some k) else if k.required then none else some none

/-- Forgets the keys that are not possible any more. -/
def dropStale? (s : Scanner) : Option Scanner := do
  let possible ← freshKey? s.cursor s.possible
  let outerPossible ← s.outerPossible.mapM (freshKey? s.cursor)
  return { s with possible, outerPossible }

/-- Gives up the possible key. It fails if a key has to be there. -/
def forgetKey? (s : Scanner) : Option Scanner :=
  match s.possible with
  | some k => if k.required then none else some { s with possible := none }
  | none => some s

/-- Remembers that a key may begin at the cursor. -/
def noteKey? (s : Scanner) : Option Scanner :=
  if s.keyAllowed then do
    let c := s.cursor
    let k : PossibleKey :=
      { required := !s.inFlow && s.indent = c.column
        place := s.count
        index := c.index
        line := c.line
        column := c.column }
    return { ← s.forgetKey? with possible := some k }
  else some s

/-- Begins a block collection at a column if it is inside the innermost one. Its token is written
behind the first `place` tokens, or at the end. -/
def openBlock (s : Scanner) (column : Nat) (place : Option Nat) (t : Token) : Scanner :=
  if s.inFlow || (column : Int) ≤ s.indent then s
  else
    let s := { s with indent := column, outer := s.indent :: s.outer }
    match place with
    | some place => s.insert place t
    | none => s.emit t

/-- Ends the block collections that begin to the right of a column. -/
def closeBlocks (s : Scanner) (column : Int) : Scanner :=
  if s.inFlow then s else go s.outer s
where
  /-- Goes through the columns of the collections around. -/
  go : List Int → Scanner → Scanner
    | [], s => s
    | outer :: rest, s =>
      if column < s.indent then go rest { s.emit .blockEnd with indent := outer, outer := rest }
      else s

/-- Begins or ends a document, or reads a directive: all block collections end. -/
def atTop? (s : Scanner) : Option Scanner := do
  return { ← (s.closeBlocks (-1)).forgetKey? with keyAllowed := false }

/-- Reads a node mark or a scalar, which may begin a key. -/
def keyed? (s : Scanner) (act : Cursor → Option (Token × Cursor)) : Option Scanner := do
  let s ← s.noteKey?
  let (t, cursor) ← act s.cursor
  return { s with cursor, keyAllowed := false }.emit t

/-- The dash of an item. -/
def blockEntry? (s : Scanner) : Option Scanner := do
  if !s.inFlow && !s.keyAllowed then none
  else
    let s := s.openBlock s.cursor.column none .blockListStart
    return { ← s.forgetKey? with keyAllowed := true }.skip 1 |>.emit .blockEntry

/-- The question mark of a key. -/
def key? (s : Scanner) : Option Scanner := do
  if !s.inFlow && !s.keyAllowed then none
  else
    let s := s.openBlock s.cursor.column none .blockRecordStart
    return { ← s.forgetKey? with keyAllowed := !s.inFlow }.skip 1 |>.emit .key

/-- The colon of a value. What may have begun a key did. -/
def value? (s : Scanner) : Option Scanner :=
  match s.possible with
  | some k =>
    let s := (s.insert k.place .key).openBlock k.column (some k.place) .blockRecordStart
    some ({ s with possible := none, keyAllowed := false }.skip 1 |>.emit .value)
  | none =>
    if !s.inFlow && !s.keyAllowed then none
    else
      let s := s.openBlock s.cursor.column none .blockRecordStart
      some ({ s with keyAllowed := !s.inFlow }.skip 1 |>.emit .value)

/-- The opening mark of a flow collection. -/
def openFlow? (s : Scanner) (t : Token) : Option Scanner := do
  let s ← s.noteKey?
  return { s with
    possible := none
    outerPossible := s.possible :: s.outerPossible
    keyAllowed := true }.skip 1 |>.emit t

/-- The closing mark of a flow collection. -/
def closeFlow? (s : Scanner) (t : Token) : Option Scanner := do
  let s ← s.forgetKey?
  let s := match s.outerPossible with
    | possible :: outerPossible => { s with possible, outerPossible }
    | [] => s
  return { s with keyAllowed := false }.skip 1 |>.emit t

/-- A block scalar. -/
def block? (s : Scanner) (folded : Bool) : Option Scanner := do
  let s ← s.forgetKey?
  let (text, cursor) ← Block.read folded s.indent (s.cursor.skip 1)
  let style := if folded then Style.folded else .literal
  return { s with cursor, keyAllowed := true }.emit (.scalar style (String.ofList text))

/-- A plain scalar. A key may begin behind it if it ended with its line. -/
def plain? (s : Scanner) : Option Scanner := do
  let s ← s.noteKey?
  let found ← Plain.read s.inFlow (s.indent + 1) s.cursor
  return { s with cursor := found.cursor, keyAllowed := found.broken }.emit
    (.scalar .plain (String.ofList found.text))

/-- A quoted scalar behind the opening quote. -/
def quoted (double : Bool) (c : Cursor) : Option (Token × Cursor) := do
  let (text, c) ← Quoted.read double (c.skip 1)
  return (.scalar (if double then .doubleQuoted else .singleQuoted) (String.ofList text), c)

/-- The characters that no plain scalar begins with. -/
def isIndicator (c : Char) : Bool := "-?:,[]\x7b\x7d#&*!|>'\"%@\x60".toList.contains c

/-- A plain scalar may begin with this character, if this one follows. -/
def beginsPlain (inFlow : Bool) (c : Char) (next : Option Char) : Bool :=
  !(isGap (some c) || isIndicator c) || (c = '-' && !next.any isBlank) ||
    (!inFlow && (c = '?' || c = ':') && !isGap next)

/-- Reads the token that begins with a character. -/
def token? (s : Scanner) (x : Char) : Option Scanner :=
  let next := s.cursor.ahead 1
  let marks := s.inFlow || isGap next
  if s.cursor.column = 0 && x = '%' then do
    let s ← s.atTop?
    let (d, cursor) ← Directive.read? (s.cursor.skip 1)
    return { s with cursor }.emit (.directive d)
  else if s.cursor.atMarker '-' then s.atTop?.map fun s => (s.skip 3).emit .documentStart
  else if s.cursor.atMarker '.' then s.atTop?.map fun s => (s.skip 3).emit .documentEnd
  else if x = '[' then s.openFlow? .flowListStart
  else if x = '\x7b' then s.openFlow? .flowRecordStart
  else if x = ']' then s.closeFlow? .flowListEnd
  else if x = '\x7d' then s.closeFlow? .flowRecordEnd
  else if x = ',' then
    s.forgetKey?.map fun s => ({ s with keyAllowed := true }.skip 1).emit .flowEntry
  else if x = '-' && isGap next then s.blockEntry?
  else if x = '?' && marks then s.key?
  else if x = ':' && marks then s.value?
  else if x = '*' then
    s.keyed? fun c => (anchorName? (c.skip 1)).map fun (name, c) => (.reference name, c)
  else if x = '&' then
    s.keyed? fun c => (anchorName? (c.skip 1)).map fun (name, c) => (.anchor name, c)
  else if x = '!' then
    s.keyed? fun c => (TagName.read? s.inFlow c).map fun (name, c) => (.tag name, c)
  else if x = '|' && !s.inFlow then s.block? false
  else if x = '>' && !s.inFlow then s.block? true
  else if x = '\'' then s.keyed? (quoted false)
  else if x = '"' then s.keyed? (quoted true)
  else if beginsPlain s.inFlow x next then s.plain?
  else none

/-- The end of the text. -/
def finish? (s : Scanner) : Option Scanner := s.atTop?

/-- Reads tokens to the end of the text, `steps` at most. -/
def run : Nat → Scanner → Option Scanner
  | 0, _ => none
  | steps + 1, s => do
    let s := s.skipGaps (steps + 1)
    let s ← s.dropStale?
    let s := s.closeBlocks s.cursor.column
    match s.cursor.peek with
    | none => s.finish?
    | some x => run steps (← s.token? x)

end Scanner

/-- The tokens of a text, if it has only allowed characters and can be cut into tokens. -/
def Token.scan (text : String) : Option (List Token) :=
  let chars := text.toList
  if chars.all isAllowed then
    (Scanner.run (chars.length + 1) { cursor := { rest := chars } }).map (·.tokens.reverse)
  else none

end Switchboard.Yaml
