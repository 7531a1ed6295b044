import Switchboard.Document
import Switchboard.Text.Utf8
import Switchboard.Yaml.Literal
import Switchboard.Yaml.Reading

/-!
# YAML values

The value of a node, read without knowing what is expected of it: plain scalars are read as what
they stand for, and aliases are replaced by their nodes. A node has no value if it is nested too
deep, carries a tag of its own invention, or if too many aliases have been followed.

As a document, a value is strict: a number is no text. A record may be written as a list of its
fields, and a field may be named by its place.
-/

set_option autoImplicit false

namespace Switchboard.Yaml

/-- A value. -/
inductive Value
  | nothing
  | bool (b : Bool)
  | natural (n : Nat)
  /-- The number `n` behind a minus sign. -/
  | negative (n : Nat)
  | double
  | text (s : String)
  | list (items : List Value)
  | record (members : List (Value × Value))
  deriving Repr, Inhabited

/-- The bytes of a tag in the namespace of the standard. -/
def standardTag (name : String) : List UInt8 :=
  TagName.ascii ("tag:yaml.org,2002:" ++ name).toList

/-- A tag of one's own: it starts with an exclamation mark, and the rest of it is a text. -/
def isOwnTag : List UInt8 → Bool
  | 0x21 :: rest => (Text.ofUtf8? rest).isSome
  | _ => false

namespace Value

/-- The value of a literal whose text is `text`. -/
def ofLiteral? (text : String) : Literal → Option Value
  | .nothing => some nothing
  | .bool b => some (bool b)
  | .natural n => some (natural n)
  | .negative n => some (negative n)
  | .tooLarge => none
  | .double => some double
  | .text => some (.text text)

/-- The value of a scalar. -/
def ofScalar? (s : Scalar) : Option Value :=
  match s.tag with
  | none =>
    if s.style = .plain then ofLiteral? s.text (.ofText s.text) else some (.text s.text)
  | some tag =>
    if isOwnTag tag then none
    else if tag = standardTag "bool" then (Literal.bool? s.text).map bool
    else if tag = standardTag "int" then (Literal.integer? s.text).bind (ofLiteral? s.text)
    else if tag = standardTag "float" then
      if Literal.isDouble s.text then some double else none
    else if tag = standardTag "null" then
      if Literal.isNothing s.text then some nothing else none
    else if tag.head? = some 0x21 && s.style = .plain then
      ofLiteral? s.text (.ofText s.text)
    else some (.text s.text)

/-- The tag of a collection must not be of one's own. -/
def checkTag (tag : Option (List UInt8)) : Reading Unit :=
  if tag.any isOwnTag then failure else pure ()

/-- The value of a node whose collections are nested `depth` deep at most. -/
def ofNode (a : Anchors) (depth : Nat) (node : Node) : Reading Value := do
  match ← a.follow node with
  | .nothing | .reference _ => return nothing
  | .scalar s => (ofScalar? s).getM
  | .list tag items =>
    checkTag tag
    match depth with
    | 0 => failure
    | depth + 1 => return list (← items.mapM (ofNode a depth))
  | .record tag members =>
    checkTag tag
    match depth with
    | 0 => failure
    | depth + 1 =>
      return record (← members.mapM fun (key, value) => do
        return (← ofNode a depth key, ← ofNode a depth value))

/-- Collections may be nested this deep. -/
def depthLimit : Nat := 128

/-- The name of a field of a record that a key stands for, if it is a field; a key is a text or a
place. -/
def fieldName? (names : List String) : Value → Option (Option String)
  | text s => some (some s)
  | natural n => some names[n]?
  | _ => none

instance : Document Value Option where
  text
    | text s => some s
    | _ => none
  natural
    | natural n => some n
    | negative 0 => some 0
    | _ => none
  list
    | list items => some items
    | _ => none
  present
    | nothing => some none
    | d => some (some d)
  fields names
    | record members => do
      let named ← members.mapM fun (key, value) =>
        (fieldName? names key).map fun name => name.map fun name => (name, value)
      Fields.ofMembers names (named.filterMap id)
    | list items => Fields.ofItems names items
    | _ => none

end Value

end Switchboard.Yaml
