/-!
# Documents

Configurations and messages are written in several formats. What their readers need of a document
is the same in all of them: a text, a natural number, a list, nothing, or a record, whose fields
are given by name or, where the format has it, by position. A format says how its documents show
these by an instance of `Document`, and what else reading does: it happens in a monad of the
format, in which it may fail. The readers below are written once.
-/

set_option autoImplicit false

namespace Switchboard

/-- The fields of a record in the order in which its reader names them. -/
structure Fields (δ : Type) where
  values : List (Option δ)
  /-- The record is written as a list of its fields. -/
  positional : Bool
  deriving Inhabited

/-- A monad in which a computation may fail. -/
class Fallible (m : Type → Type) extends Monad m where
  refuse : {α : Type} → m α

instance : Fallible Option where
  refuse := none

instance {σ : Type} {m : Type → Type} [Fallible m] : Fallible (StateT σ m) where
  refuse := fun _ => Fallible.refuse

/-- What a reader can ask of a document of a format whose documents are read in `m`. -/
class Document (δ : Type) (m : outParam (Type → Type)) where
  text : δ → m String
  /-- A natural number below `2 ^ 64`. -/
  natural : δ → m Nat
  list : δ → m (List δ)
  /-- The document that is there, none if it stands for the absence of a value. -/
  present : δ → m (Option δ)
  /-- The fields of a record with these names. -/
  fields : List String → δ → m (Fields δ)

namespace Fields

variable {δ : Type}

/-- The fields of a record written with names. A name of the record may stand once; other names
are skipped. -/
def ofMembers (names : List String) (members : List (String × δ)) : Option (Fields δ) :=
  let found := names.map fun name => (members.filter fun m => m.1 == name).map (·.2)
  if found.all fun values => values.length ≤ 1 then
    some ⟨found.map List.head?, false⟩
  else none

/-- The fields of a record written as a list, which may end early but not be longer. -/
def ofItems (names : List String) (items : List δ) : Option (Fields δ) :=
  if names.length < items.length then none
  else some ⟨items.map some ++ List.replicate (names.length - items.length) none, true⟩

/-- The field at a place. -/
def at? (fields : Fields δ) (place : Nat) : Option δ := (fields.values[place]?).join

section

variable {m : Type → Type} {α : Type}

/-- Reads a field that must be there. -/
def required [Fallible m] (fields : Fields δ) (place : Nat) (read : δ → m α) : m α :=
  match fields.at? place with
  | none => Fallible.refuse
  | some d => read d

/-- Reads a field that has a default. -/
def withDefault [Fallible m] (fields : Fields δ) (place : Nat) (default : α)
    (read : δ → m α) : m α :=
  match fields.at? place with
  | none => pure default
  | some d => read d

end

end Fields

namespace Document

variable {δ : Type} {m : Type → Type} [Document δ m] [Fallible m]

/-- Reads a value that may be absent. -/
def optional {α : Type} (read : δ → m α) (d : δ) : m (Option α) := do
  match ← present d with
  | none => return none
  | some d => return some (← read d)

/-- Reads a natural number below a bound. -/
def below (bound : Nat) (d : δ) : m Nat := do
  let n ← natural d
  if n < bound then return n else Fallible.refuse

/-- Reads a list whose items are all read by `read`. -/
def listOf {α : Type} (read : δ → m α) (d : δ) : m (List α) := do
  (← list d).mapM read

end Document

end Switchboard
