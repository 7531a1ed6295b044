import Switchboard.Hex
import Switchboard.Yaml.Cursor

/-!
# Anchors, tags and directives

The names in YAML texts other than keys: anchors, the tags of nodes, and the two directives, of
which one gives the version and the other the meaning of a tag handle.
-/

set_option autoImplicit false

namespace Switchboard.Yaml

/-- A tag as it is written: the handle says how the suffix is completed. -/
structure TagName where
  handle : List Char
  suffix : List UInt8
  deriving DecidableEq, Repr, Inhabited

/-- A directive in front of a document. -/
inductive Directive
  | version (major minor : Nat)
  /-- Tags with this handle start with these bytes. -/
  | tag (handle : List Char) (start : List UInt8)
  deriving DecidableEq, Repr, Inhabited

/-- Reads the name of an anchor or an alias behind its mark. -/
def anchorName? (c : Cursor) : Option (String × Cursor) :=
  let (name, c) := c.span isNameChar
  let ends := isGap c.peek || c.peek.any fun x => "?:,]\x7d%@\x60".toList.contains x
  if name.isEmpty || !ends then none else some (String.ofList name, c)

namespace TagName

/-- The bytes of ASCII characters. -/
def ascii (text : List Char) : List UInt8 := text.map fun c => .ofNat c.toNat

/-- A character of a tag; in angle brackets there are three more. -/
def isTagChar (verbatim : Bool) (c : Char) : Bool :=
  isNameChar c || ";/?:@&=+$.%!~*'()".toList.contains c ||
    (verbatim && (c = ',' || c = '[' || c = ']'))

/-- The number of bytes of a UTF-8 sequence that begins with this one. -/
def sequenceLength? (b : UInt8) : Option Nat :=
  if b < 0x80 then some 1
  else if b &&& 0xe0 = 0xc0 then some 2
  else if b &&& 0xf0 = 0xe0 then some 3
  else if b &&& 0xf8 = 0xf0 then some 4
  else none

/-- Reads a percent sign and two hexadecimal digits. -/
def escapedByte? : List Char → Option UInt8
  | '%' :: a :: b :: _ => (Hex.number? [a, b]).map .ofNat
  | _ => none

/-- Reads the escaped bytes that continue a UTF-8 sequence. -/
def continuation : Nat → Cursor → Option (List UInt8 × Cursor)
  | 0, c => some ([], c)
  | count + 1, c => do
    let b ← escapedByte? c.rest
    if b &&& 0xc0 ≠ 0x80 then none
    else
      let (later, c) ← continuation count (c.skip 3)
      return (b :: later, c)

/-- Reads the characters of a tag, `steps` at most. -/
def characters (verbatim : Bool) : Nat → Cursor → Option (List UInt8 × Cursor)
  | 0, _ => none
  | steps + 1, c =>
    match c.peek with
    | none => some ([], c)
    | some x =>
      if !isTagChar verbatim x then some ([], c)
      else if x = '%' then do
        let b ← escapedByte? c.rest
        let count ← sequenceLength? b
        let (more, c) ← continuation (count - 1) (c.skip 3)
        let (later, c) ← characters verbatim steps c
        return (b :: more ++ later, c)
      else do
        let (later, c) ← characters verbatim steps (c.skip 1)
        return (ascii [x] ++ later, c)

/-- Reads the characters of a tag that must not be empty. -/
def nonempty? (verbatim : Bool) (c : Cursor) : Option (List UInt8 × Cursor) :=
  (characters verbatim (c.rest.length + 1) c).filter fun found => !found.1.isEmpty

/-- Reads a handle: an exclamation mark and a name, with another mark behind it if it is more than
the start of a tag. -/
def handle? (c : Cursor) : Option (List Char × Cursor) :=
  if c.peek ≠ some '!' then none
  else
    let (name, c) := (c.skip 1).span isNameChar
    if c.peek = some '!' then some ('!' :: (name ++ ['!']), c.skip 1)
    else some ('!' :: name, c)

/-- A handle with a mark at both ends. -/
def isNamed (handle : List Char) : Bool := 1 < handle.length && handle.getLast? = some '!'

/-- What counts of the bytes of a tag: those before the first zero. -/
def beforeZero (bytes : List UInt8) : List UInt8 := bytes.takeWhile (· ≠ 0)

/-- Reads a tag without looking at what follows. -/
def body? (c : Cursor) : Option (TagName × Cursor) :=
  if c.ahead 1 = some '<' then do
    let (suffix, c) ← nonempty? true (c.skip 2)
    if c.peek = some '>' then return (⟨[], beforeZero suffix⟩, c.skip 1) else none
  else do
    let (handle, c) ← handle? c
    if isNamed handle then
      let (suffix, c) ← nonempty? false c
      return (⟨handle, beforeZero suffix⟩, c)
    else
      let (more, c) ← characters false (c.rest.length + 1) c
      let suffix := beforeZero (ascii (handle.drop 1) ++ more)
      return (if suffix.isEmpty then ⟨[], ascii ['!']⟩ else ⟨['!'], suffix⟩, c)

/-- Reads a tag. A gap follows it, or in a flow collection a comma. -/
def read? (inFlow : Bool) (c : Cursor) : Option (TagName × Cursor) :=
  (body? c).filter fun found =>
    isGap found.2.peek || (inFlow && found.2.peek = some ',')

end TagName

namespace Directive

/-- Reads a number of nine digits at most. -/
def number? (c : Cursor) : Option (Nat × Cursor) :=
  let (digits, c) := c.span Char.isDigit
  if digits.isEmpty || 9 < digits.length then none
  else some (digits.foldl (fun n d => n * 10 + (d.toNat - '0'.toNat)) 0, c)

/-- Reads a version. -/
def version? (c : Cursor) : Option (Directive × Cursor) := do
  let (major, c) ← number? (c.skipWhile isBlank)
  if c.peek ≠ some '.' then none
  else
    let (minor, c) ← number? (c.skip 1)
    return (.version major minor, c)

/-- Reads a tag handle and what it stands for. -/
def tag? (c : Cursor) : Option (Directive × Cursor) := do
  let (handle, c) ← TagName.handle? (c.skipWhile isBlank)
  if !(TagName.isNamed handle || handle = ['!']) || !c.peek.any isBlank then none
  else
    let (start, c) ← TagName.nonempty? true (c.skipWhile isBlank)
    if isGap c.peek then return (.tag handle (TagName.beforeZero start), c) else none

/-- Reads a directive behind its percent sign, with its line. -/
def read? (c : Cursor) : Option (Directive × Cursor) := do
  let (name, c) := c.span isNameChar
  if !isGap c.peek then none
  else
    let (directive, c) ←
      if name = "YAML".toList then version? c
      else if name = "TAG".toList then tag? c
      else none
    return (directive, ← c.endLine?)

end Directive

end Switchboard.Yaml
