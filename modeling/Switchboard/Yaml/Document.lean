import Switchboard.Yaml.Value

/-!
# YAML texts as documents

A node is lenient where it is known what is expected of it: any scalar is a text, and a node that
was left out is a list or a record without anything in it.
-/

set_option autoImplicit false

namespace Switchboard.Yaml

/-- Plain, and nothing of it. -/
def Scalar.isEmpty (s : Scalar) : Bool := s.style = .plain && s.text.isEmpty

/-- A scalar stands for the absence of a value. One that is plain and has the tag of nothing must;
with any other tag it does not. -/
def Scalar.isNothing? (s : Scalar) : Option Bool :=
  if s.style ≠ .plain then some false
  else
    match s.tag with
    | none => some (s.text.isEmpty || Literal.isNothing s.text)
    | some tag =>
      if tag ≠ standardTag "null" then some false
      else if Literal.isNothing s.text then some true
      else none

namespace Tree

/-- Another node of the same document. -/
def focus (t : Tree) (node : Node) : Tree := { t with node }

/-- The node, or what it is an alias of. -/
def target (t : Tree) : Reading Node := t.anchors.follow t.node

/-- The text of a scalar. -/
def text (t : Tree) : Reading String := do
  match ← t.target with
  | .scalar s => return s.text
  | _ => failure

/-- The natural number of a scalar that is plain, or literal and marked as an integer. -/
def natural (t : Tree) : Reading Nat := do
  match ← t.target with
  | .scalar s =>
    if s.style = .plain || (s.style = .literal && s.tag = some (standardTag "int")) then
      ((Literal.natural? s.text.toList).filter fun n => n < UInt64.size).getM
    else failure
  | _ => failure

/-- The items of a list. -/
def list (t : Tree) : Reading (List Tree) := do
  match ← t.target with
  | .nothing => return []
  | .scalar s => if s.isEmpty then return [] else failure
  | .list _ items => return items.map t.focus
  | _ => failure

/-- The members of a record, whose keys are texts. -/
def members (t : Tree) : Reading (List (String × Tree)) := do
  match ← t.target with
  | .nothing => return []
  | .scalar s => if s.isEmpty then return [] else failure
  | .record _ members => members.mapM fun (key, value) => do
      return (← (t.focus key).text, t.focus value)
  | _ => failure

/-- What is there, which is no alias any more. -/
def present (t : Tree) : Reading (Option Tree) := do
  match ← t.target with
  | .nothing => return none
  | .scalar s =>
    match s.isNothing? with
    | none => failure
    | some true => return none
    | some false => return some (t.focus (.scalar s))
  | node => return some (t.focus node)

instance : Document Tree Reading where
  text := text
  natural := natural
  list := list
  present := present
  fields names t := do (Fields.ofMembers names (← t.members)).getM

end Tree

end Switchboard.Yaml
