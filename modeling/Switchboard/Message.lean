import Switchboard.Envelope
import Switchboard.Json.Document

/-!
# Commands and envelopes in JSON

A command is its code. An envelope is an object of its seven fields in the order in which they
travel, the payload a list of numbers; it may also be read from a list of the seven values.
-/

set_option autoImplicit false

namespace Switchboard

/-- The JSON form of a command. -/
def Command.toJson (c : Command) : Json := .string c.toText

/-- Reads a command. -/
def Command.ofJson? (t : Json.Tree) : Option Command := (Document.text t).map .ofText

namespace Envelope

/-- The names of the fields in the order in which they travel. -/
def fieldNames : List String :=
  ["command", "token", "correlation_id", "signature", "params", "payload", "trace_id"]

/-- The JSON form of an envelope. -/
def toJson (e : Envelope) : Json :=
  .object
    [("command", e.command.toJson),
      ("token", .string e.token),
      ("correlation_id", .ofNat e.correlationId.toNat),
      ("signature", .string e.signature),
      ("params", .string e.params),
      ("payload", .array (e.payload.map fun b => .ofNat b.toNat)),
      ("trace_id", .string e.traceId)]

/-- Reads an envelope, of which no field may be left out. -/
def ofJson? (t : Json.Tree) : Option Envelope := do
  let fields ← Document.fields fieldNames t
  let command ← fields.required 0 Command.ofJson?
  let token ← fields.required 1 Document.text
  let id ← fields.required 2 Document.natural
  let signature ← fields.required 3 Document.text
  let params ← fields.required 4 Document.text
  let payload ← fields.required 5 (Document.listOf (Document.below 256))
  let traceId ← fields.required 6 Document.text
  return {
    command, token, signature, params, traceId
    correlationId := .ofNat id
    payload := payload.map .ofNat }

end Envelope

end Switchboard
