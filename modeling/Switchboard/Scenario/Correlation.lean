import Switchboard.Assoc
import Switchboard.Correlation.IdSource
import Switchboard.Correlation.Table
import Switchboard.DispatchError

/-!
# Scenarios of the correlation table

A scenario is a list of steps that are taken one after another; each is answered by its result.
Here the steps draw ids and work on a table of slots, with the claims kept under names.
-/

set_option autoImplicit false

namespace Switchboard.Scenario

/-- Claims kept under names. -/
abbrev Claims := Assoc String Correlation.Claim

/-- Opens a slot and keeps its claim under a name. A claim that had the name is dropped after
that. -/
def openSlot (table : Correlation.Table) (claims : Claims) (name : String) (id : CorrelationId) :
    Except DispatchError (Correlation.Table × Claims) :=
  match table.open? id with
  | none => .error (.collision id)
  | some (claim, table) =>
    match claims.get? name with
    | none => .ok (table, claims.insert name claim)
    | some old => .ok (table.drop old, claims.insert name claim)

/-- Drops the claim under a name, if there is one. -/
def dropSlot (table : Correlation.Table) (claims : Claims) (name : String) :
    Option (Correlation.Table × Claims) :=
  (claims.get? name).map fun claim => (table.drop claim, claims.erase name)

namespace Correlation

open Switchboard.Correlation

/-- A step of a scenario. -/
inductive Step
  /-- Draws ids. -/
  | next (count : Nat)
  /-- Opens a slot under an id, or under a fresh one. -/
  | openSlot (name : String) (id : Option CorrelationId)
  | deliver (e : Envelope)
  /-- Looks once whether a claim has its reply. -/
  | look (name : String)
  | drop (name : String)
  deriving DecidableEq, Repr, Inhabited

/-- The result of a step. -/
inductive Result
  | ids (ids : List CorrelationId)
  | opened (id : CorrelationId)
  | failed (cause : DispatchError)
  | delivery (outcome : Delivery)
  | noSlot
  | look (seen : Look)
  | dropped (found : Bool)
  deriving DecidableEq, Repr, Inhabited

/-- Where a scenario stands. -/
structure State where
  ids : IdSource
  table : Table := {}
  claims : Claims := []
  deriving DecidableEq, Repr, Inhabited

namespace State

/-- Opens a slot. -/
def openAs (s : State) (name : String) (id : CorrelationId) : Result × State :=
  match openSlot s.table s.claims name id with
  | .ok (table, claims) => (.opened id, { s with table, claims })
  | .error cause => (.failed cause, s)

/-- Takes a step. -/
def step (s : State) : Step → Result × State
  | .next count =>
    let (drawn, ids) := s.ids.take count
    (.ids drawn, { s with ids })
  | .openSlot name (some id) => s.openAs name id
  | .openSlot name none =>
    let (id, ids) := s.ids.next
    { s with ids }.openAs name id
  | .deliver e =>
    let (outcome, table) := s.table.deliver e
    (.delivery outcome, { s with table })
  | .look name =>
    match s.claims.get? name with
    | none => (.noSlot, s)
    | some claim => (.look (s.table.look claim), s)
  | .drop name =>
    match dropSlot s.table s.claims name with
    | none => (.dropped false, s)
    | some (table, claims) => (.dropped true, { s with table, claims })

/-- Takes steps, and gives for each its result and the number of slots afterwards. -/
def run : State → List Step → List (Result × Nat)
  | _, [] => []
  | s, step :: rest =>
    let (result, s) := s.step step
    (result, s.table.size) :: s.run rest

end State

end Correlation

end Switchboard.Scenario
