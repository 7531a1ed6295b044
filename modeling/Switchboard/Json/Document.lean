import Switchboard.Document
import Switchboard.Json.Tree

/-!
# JSON texts as documents

A record may be an object or an array. Only what a reader asks for has to have a value.
-/

set_option autoImplicit false

namespace Switchboard.Json.Tree

/-- The members of an object whose keys are all texts. -/
def namedMembers? : Tree → Option (List (String × Tree))
  | object members => members.mapM fun (key, value) => key.map fun key => (key, value)
  | _ => none

instance : Document Tree Option where
  text
    | string s => s
    | _ => none
  natural
    | number n =>
      match n.value? with
      | some (.natural n) => some n
      | _ => none
    | _ => none
  list
    | array items => some items
    | _ => none
  present
    | null => some none
    | d => some (some d)
  fields names
    | object members => (namedMembers? (object members)).bind (Fields.ofMembers names)
    | array items => Fields.ofItems names items
    | _ => none

end Switchboard.Json.Tree

namespace Switchboard.Json

/-- Reads a JSON text by a reader of its tree. -/
def read? {α : Type} (read : Tree → Option α) (text : String) : Option α :=
  (Tree.parse text).bind read

end Switchboard.Json
