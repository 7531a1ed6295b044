import Switchboard.Total

/-!
# Positions in YAML texts

The characters of YAML by kind, and a cursor: the rest of a text with the line and the column at
which it begins. A line break is a line feed, a carriage return, both together, or one of three
separators outside ASCII.
-/

set_option autoImplicit false

namespace Switchboard.Yaml

/-- The characters that may stand in a YAML text. -/
def isAllowed (c : Char) : Bool :=
  c = '\t' || c = '\n' || c = '\r' || (' ' ≤ c && c ≤ '~') || c = '\x85' ||
    ('\xa0' ≤ c && c ≤ '\ud7ff') || ('\ue000' ≤ c && c ≤ '\ufffd') || 0x10000 ≤ c.toNat

/-- A space or a tab. -/
def isBlank (c : Char) : Bool := c = ' ' || c = '\t'

/-- A character that ends a line. -/
def isBreak (c : Char) : Bool :=
  c = '\r' || c = '\n' || c = '\x85' || c = '\u2028' || c = '\u2029'

/-- A character of a name: an ASCII letter, a digit, `_` or `-`. -/
def isNameChar (c : Char) : Bool := c.isAlphanum || c = '_' || c = '-'

/-- The end of a line or of the text. -/
def isLineEnd : Option Char → Bool
  | none => true
  | some c => isBreak c

/-- A blank, or the end of a line or of the text. -/
def isGap : Option Char → Bool
  | none => true
  | some c => isBlank c || isBreak c

/-- A place in a text. -/
structure Cursor where
  rest : List Char
  /-- The number of bytes before, in UTF-8. -/
  index : Nat := 0
  /-- The number of lines before. -/
  line : Nat := 0
  /-- The number of characters before on the line. -/
  column : Nat := 0
  deriving Repr, Inhabited

namespace Cursor

/-- The character at the cursor. -/
def peek (c : Cursor) : Option Char := c.rest.head?

/-- The character `n` places behind the cursor. -/
def ahead (c : Cursor) (n : Nat) : Option Char := c.rest[n]?

/-- The number of bytes of characters. -/
def byteCount (taken : List Char) : Nat := total Char.utf8Size taken

/-- The cursor behind `n` characters of the line. -/
def skip (c : Cursor) (n : Nat) : Cursor :=
  { c with
    rest := c.rest.drop n
    index := c.index + byteCount (c.rest.take n)
    column := c.column + n }

/-- The cursor behind the characters that satisfy `p`, and these. -/
def span (c : Cursor) (p : Char → Bool) : List Char × Cursor :=
  let taken := c.rest.takeWhile p
  (taken, c.skip taken.length)

def skipWhile (c : Cursor) (p : Char → Bool) : Cursor := (c.span p).2

/-- The cursor at the start of the next line, behind a line break of `n` characters. -/
def nextLine (c : Cursor) (n : Nat) : Cursor :=
  { rest := c.rest.drop n
    index := c.index + byteCount (c.rest.take n)
    line := c.line + 1
    column := 0 }

/-- A line break as it counts in a text, and the cursor behind it; nothing if there is none. -/
def lineBreak (c : Cursor) : List Char × Cursor :=
  match c.rest with
  | '\r' :: '\n' :: _ => (['\n'], c.nextLine 2)
  | b :: _ =>
    if b = '\r' || b = '\n' || b = '\x85' then (['\n'], c.nextLine 1)
    else if isBreak b then ([b], c.nextLine 1)
    else ([], c)
  | [] => ([], c)

/-- The cursor behind the blanks and the comment at the end of a line. -/
def skipComment (c : Cursor) : Cursor :=
  let c := c.skipWhile isBlank
  if c.peek = some '#' then c.skipWhile fun x => !isBreak x else c

/-- The cursor behind blanks, a comment and the line break; nothing if anything else is there. -/
def endLine? (c : Cursor) : Option Cursor :=
  let c := c.skipComment
  if isLineEnd c.peek then some c.lineBreak.2 else none

/-- Three times the same mark at the start of a line, and then a gap. -/
def atMarker (c : Cursor) (mark : Char) : Bool :=
  c.column = 0 && c.rest.take 3 == [mark, mark, mark] && isGap (c.ahead 3)

/-- The start or the end of a document is marked here. -/
def atDocumentMarker (c : Cursor) : Bool := c.atMarker '-' || c.atMarker '.'

end Cursor

end Switchboard.Yaml
