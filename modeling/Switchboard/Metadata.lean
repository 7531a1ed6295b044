import Switchboard.Message

/-!
# Connection metadata

A worker opens its stream with a `Register` frame whose params name, in JSON, its node, its group
and a tag for the connection. Each may be absent or empty and then has a default; params that
cannot be read count as empty.
-/

set_option autoImplicit false

namespace Switchboard

/-- What a worker says about its connection. -/
structure Metadata where
  clientId : Option String := none
  group : Option String := none
  conn : Option String := none
  deriving DecidableEq, Repr, Inhabited

/-- Who a connection is registered as. -/
structure Identity where
  node : String
  group : String
  connTag : String
  deriving DecidableEq, Repr, Inhabited

namespace Identity

def defaultNode : String := "default_node"

def defaultGroup : String := "default_group"

def defaultConn : String := "default_conn"

end Identity

namespace Metadata

def fieldNames : List String := ["client_id", "group", "conn"]

/-- The JSON form of metadata, which leaves absent fields out. -/
def toJson (m : Metadata) : Json :=
  .object <| (fieldNames.zip [m.clientId, m.group, m.conn]).filterMap fun (name, value) =>
    value.map fun value => (name, .string value)

/-- The frame that opens a stream. -/
def registerFrame (m : Metadata) : Envelope :=
  { command := .register, params := m.toJson.text }

/-- Reads metadata. -/
def ofJson? (t : Json.Tree) : Option Metadata := do
  let fields ← Document.fields fieldNames t
  let read : Json.Tree → Option (Option String) := Document.optional Document.text
  let clientId ← fields.withDefault 0 none read
  let group ← fields.withDefault 1 none read
  let conn ← fields.withDefault 2 none read
  return { clientId, group, conn }

/-- The metadata in a `Register` frame. -/
def ofFrame (e : Envelope) : Metadata := (Json.read? ofJson? e.params).getD {}

/-- A value that is there and not empty, or else a default. -/
def orDefault (value : Option String) (default : String) : String :=
  (value.filter fun v => v != "").getD default

/-- The identity that metadata stands for. -/
def identity (m : Metadata) : Identity :=
  { node := orDefault m.clientId Identity.defaultNode
    group := orDefault m.group Identity.defaultGroup
    connTag := orDefault m.conn Identity.defaultConn }

end Metadata

end Switchboard
