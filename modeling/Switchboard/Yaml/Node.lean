import Switchboard.Assoc
import Switchboard.Yaml.Token

/-!
# YAML nodes

The nodes of a YAML document, built from its tokens. A node with an anchor can be named again: the
name gets a number, and an alias is the number of its name. The number is the count of the names
known before, so that a name that is given twice may take over the number of another; a number
stands for the last node that began under it.

A text holds one document at most.
-/

set_option autoImplicit false

namespace Switchboard.Yaml

/-- A scalar. -/
structure Scalar where
  tag : Option (List UInt8) := none
  style : Style := .plain
  text : String := ""
  deriving DecidableEq, Repr, Inhabited

/-- A node. -/
inductive Node
  /-- The only node of a text without a document. -/
  | nothing
  | reference (id : Nat)
  | scalar (s : Scalar)
  | list (tag : Option (List UInt8)) (items : List Node)
  | record (tag : Option (List UInt8)) (members : List (Node × Node))
  deriving Repr, Inhabited

namespace Node

/-- An empty plain scalar, which stands where a node is left out. -/
def empty : Node := .scalar {}

mutual

/-- The number of events that a node consists of: collections begin and end. -/
def size : Node → Nat
  | nothing | reference _ | scalar _ => 1
  | list _ items => sizeItems items + 2
  | record _ members => sizeMembers members + 2

def sizeItems : List Node → Nat
  | [] => 0
  | item :: rest => item.size + sizeItems rest

def sizeMembers : List (Node × Node) → Nat
  | [] => 0
  | (key, value) :: rest => key.size + value.size + sizeMembers rest

end

end Node

/-- The anchors of a document. -/
structure Anchors where
  /-- The number of each name. -/
  names : Assoc String Nat := []
  /-- The node that each number stands for, by the order in which the nodes began. -/
  targets : Assoc Nat Nat := []
  /-- How many nodes with anchors have begun. -/
  begun : Nat := 0
  /-- These nodes. -/
  nodes : Assoc Nat Node := []
  deriving Inhabited

namespace Anchors

/-- A node with this name begins. Gives its place among the nodes with anchors. -/
def begin (a : Anchors) (name : String) : Nat × Anchors :=
  let id := a.names.length
  (a.begun,
    { a with
      names := a.names.insert name id
      targets := a.targets.insert id a.begun
      begun := a.begun + 1 })

/-- The node that began at a place is complete. -/
def finish (a : Anchors) (place : Nat) (node : Node) : Anchors :=
  { a with nodes := a.nodes.insert place node }

/-- The node that a number stands for. -/
def node? (a : Anchors) (id : Nat) : Option Node := (a.targets.get? id).bind a.nodes.get?

end Anchors

/-- A document: its root, and the nodes that aliases stand for. -/
structure Tree where
  anchors : Anchors := {}
  node : Node
  deriving Inhabited

/-- What is known while nodes are built. -/
structure Building where
  tokens : List Token
  anchors : Anchors := {}
  /-- The bytes with which the tags of each handle start. -/
  handles : Assoc (List Char) (List UInt8) := []

/-- A step of building, which may fail. -/
abbrev Build (α : Type) := StateT Building Option α

namespace Build

/-- The next token, if there is one. -/
def peek : Build (Option Token) := do return (← get).tokens.head?

/-- Skips a token. -/
def skip : Build Unit := modify fun b => { b with tokens := b.tokens.drop 1 }

/-- Skips a token if it is this one, and tells whether it was. -/
def skipIf (t : Token) : Build Bool := do
  if (← peek) = some t then
    skip
    return true
  else return false

/-- The bytes that a tag stands for. Its handle must be known. -/
def tagBytes (name : TagName) : Build (List UInt8) := do
  if name.handle.isEmpty then return name.suffix
  else
    match (← get).handles.get? name.handle with
    | some start => return start ++ name.suffix
    | none => failure

/-- What may stand in front of a node. -/
structure Properties where
  anchor : Option String := none
  tag : Option TagName := none

/-- Reads an anchor if there is one. -/
def anchor : Build (Option String) := do
  match ← peek with
  | some (.anchor name) => skip; return some name
  | _ => return none

/-- Reads a tag if there is one. -/
def tag : Build (Option TagName) := do
  match ← peek with
  | some (.tag name) => skip; return some name
  | _ => return none

/-- Reads an anchor and a tag in any order. -/
def properties : Build Properties := do
  match ← anchor with
  | some name => return { anchor := some name, tag := ← tag }
  | none =>
    match ← tag with
    | some name => return { anchor := ← anchor, tag := some name }
    | none => return {}

/-- The next token is one of these, or there is none. -/
def atAny (ts : List Token) : Build Bool := do
  match ← peek with
  | none => return true
  | some t => return ts.contains t

mutual

/-- Reads a node. A node of a block may be a block collection, and as the value of a key also a
list whose dashes stand below the key (`flush`). -/
def node : Nat → (inBlock flush : Bool) → Build Node
  | 0, _, _ => failure
  | fuel + 1, inBlock, flush => do
    match ← peek with
    | some (.reference name) =>
      skip
      match (← get).anchors.names.get? name with
      | some id => return .reference id
      | none => failure
    | _ =>
      let found ← properties
      let tag ← found.tag.mapM tagBytes
      match found.anchor with
      | none => content fuel inBlock flush (found.tag.isSome) tag
      | some name =>
        let (place, anchors) := (← get).anchors.begin name
        modify fun b => { b with anchors }
        let result ← content fuel inBlock flush true tag
        modify fun b => { b with anchors := b.anchors.finish place result }
        return result

/-- Reads a node behind its anchor and its tag. If there are any, it may be left out. -/
def content : Nat → (inBlock flush marked : Bool) → Option (List UInt8) → Build Node
  | 0, _, _, _, _ => failure
  | fuel + 1, inBlock, flush, marked, tag => do
    match ← peek with
    | some (.scalar style text) => skip; return .scalar { tag, style, text }
    | some .flowListStart => skip; return .list tag (← flowItems fuel true)
    | some .flowRecordStart => skip; return .record tag (← flowMembers fuel true)
    | some .blockEntry =>
      if flush then return .list tag (← flushItems fuel)
      else if marked then return .scalar { tag }
      else failure
    | some .blockListStart =>
      if inBlock then
        skip
        return .list tag (← blockItems fuel)
      else if marked then return .scalar { tag }
      else failure
    | some .blockRecordStart =>
      if inBlock then
        skip
        return .record tag (← blockMembers fuel)
      else if marked then return .scalar { tag }
      else failure
    | _ => if marked then return .scalar { tag } else failure

/-- Reads a node unless one of these tokens is next, which leave it out. -/
def nodeUnless : Nat → List Token → (inBlock flush : Bool) → Build Node
  | 0, _, _, _ => failure
  | fuel + 1, ts, inBlock, flush => do
    match ← peek with
    | some t => if ts.contains t then return .empty else node fuel inBlock flush
    | none => failure

/-- Reads the items of a block list. -/
def blockItems : Nat → Build (List Node)
  | 0 => failure
  | fuel + 1 => do
    if ← skipIf .blockEntry then
      let item ← nodeUnless fuel [.blockEntry, .blockEnd] true false
      return item :: (← blockItems fuel)
    else if ← skipIf .blockEnd then return []
    else failure

/-- Reads the items of a list whose dashes stand below its key. -/
def flushItems : Nat → Build (List Node)
  | 0 => failure
  | fuel + 1 => do
    if ← skipIf .blockEntry then
      let item ← nodeUnless fuel [.blockEntry, .key, .value, .blockEnd] true false
      return item :: (← flushItems fuel)
    else return []

/-- Reads the members of a block record. -/
def blockMembers : Nat → Build (List (Node × Node))
  | 0 => failure
  | fuel + 1 => do
    if ← skipIf .key then
      let stops := [Token.key, .value, .blockEnd]
      let key ← nodeUnless fuel stops true true
      let value ← if ← skipIf .value then nodeUnless fuel stops true true else pure .empty
      return (key, value) :: (← blockMembers fuel)
    else if ← skipIf .blockEnd then return []
    else failure

/-- Reads the items of a flow list. An item with a key is a record of one member. -/
def flowItems : Nat → (first : Bool) → Build (List Node)
  | 0, _ => failure
  | fuel + 1, first => do
    if ← skipIf .flowListEnd then return []
    else
      if !first then
        if !(← skipIf .flowEntry) then failure
      if ← skipIf .flowListEnd then return []
      else
        let item ← if ← skipIf .key then pair fuel else node fuel false false
        return item :: (← flowItems fuel false)

/-- Reads a record of one member behind its key mark. A key that is left out takes the token behind
it along. -/
def pair : Nat → Build Node
  | 0 => failure
  | fuel + 1 => do
    let key ←
      match ← peek with
      | none => failure
      | some t =>
        if [Token.value, .flowEntry, .flowListEnd].contains t then
          skip
          pure .empty
        else node fuel false false
    let value ← if ← skipIf .value then nodeUnless fuel [.flowEntry, .flowListEnd] false false
      else pure .empty
    return .record none [(key, value)]

/-- Reads the members of a flow record. -/
def flowMembers : Nat → (first : Bool) → Build (List (Node × Node))
  | 0, _ => failure
  | fuel + 1, first => do
    if ← skipIf .flowRecordEnd then return []
    else
      if !first then
        if !(← skipIf .flowEntry) then failure
      if ← skipIf .flowRecordEnd then return []
      else
        let stops := [Token.flowEntry, .flowRecordEnd]
        if ← skipIf .key then
          let key ← nodeUnless fuel (.value :: stops) false false
          let value ← if ← skipIf .value then nodeUnless fuel stops false false else pure .empty
          return (key, value) :: (← flowMembers fuel false)
        else
          let key ← node fuel false false
          return (key, .empty) :: (← flowMembers fuel false)

end

/-- What directives say. -/
structure Declared where
  version : Bool := false
  handles : Assoc (List Char) (List UInt8) := []

/-- Reads directives, each of which may stand once. -/
def directives : Declared → List Token → Option (Declared × List Token)
  | d, .directive (.version major minor) :: rest =>
    if d.version || major ≠ 1 || (minor ≠ 1 && minor ≠ 2) then none
    else directives { d with version := true } rest
  | d, .directive (.tag handle start) :: rest =>
    if (d.handles.get? handle).isSome then none
    else directives { d with handles := d.handles.insert handle start } rest
  | d, ts => some (d, ts)

/-- The handles that need no directive. -/
def standardHandles : Assoc (List Char) (List UInt8) :=
  [(['!'], TagName.ascii ['!']), (['!', '!'], TagName.ascii "tag:yaml.org,2002:".toList)]

/-- Reads the root of a document, which is left out only behind a start mark. -/
def root (marked : Bool) (fuel : Nat) : Build Node := do
  match ← peek with
  | none => if marked then return .empty else failure
  | some (.directive _) | some .documentStart | some .documentEnd =>
    if marked then return .empty else failure
  | some _ => node fuel true false

/-- The document of a list of tokens. Nothing but end marks may follow it. -/
def document (tokens : List Token) : Option Tree := do
  let fuel := 4 * tokens.length + 4
  if tokens.isEmpty then return { node := .nothing }
  let (declared, rest) ← directives {} tokens
  let isMarked := rest.head? = some .documentStart
  if rest.length < tokens.length ∧ !isMarked then failure
  else
    let start : Building :=
      { tokens := if isMarked then rest.drop 1 else rest
        handles := declared.handles ++ standardHandles }
    let (node, last) ← (root isMarked fuel).run start
    if last.tokens.all fun t => t = .documentEnd then return { anchors := last.anchors, node }
    else failure

end Build

/-- The document of a text, if it is well formed. -/
def Tree.parse (text : String) : Option Tree := (Token.scan text).bind Build.document

end Switchboard.Yaml
