import Switchboard.Yaml.Node

/-!
# Following aliases

Whoever reads a document follows its aliases. Aliases of lists of aliases can make a short document
stand for a huge one, so the number of aliases that a reading of a document may follow is limited
by the size of the document.
-/

set_option autoImplicit false

namespace Switchboard.Yaml

/-- A reading of a document, which may fail. The state is the number of aliases that it may still
follow. -/
abbrev Reading (α : Type) := StateT Nat Option α

/-- The node itself, or the node that it is an alias of. -/
def Anchors.follow (a : Anchors) : Node → Reading Node
  | .reference id => do
    match ← get with
    | 0 => failure
    | left + 1 =>
      set left
      (a.node? id).getM
  | n => return n

/-- The number of aliases that may be followed in a document with this root. -/
def Node.aliasLimit (root : Node) : Nat := 100 * root.size

/-- What a reader makes of a YAML text. -/
def read? {α : Type} (read : Tree → Reading α) (text : String) : Option α :=
  (Tree.parse text).bind fun t => (read t).run' t.node.aliasLimit

end Switchboard.Yaml
