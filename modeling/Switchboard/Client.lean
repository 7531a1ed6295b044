import Switchboard.DispatchError
import Switchboard.Message

/-!
# Calls

What a caller outside the gateway uses: a request becomes an envelope, and a reply becomes a value
of the shape the caller asked for. Errors of calls say nothing about nodes, groups or queues.
-/

set_option autoImplicit false

namespace Switchboard

/-- Why a call failed, as its caller is told. -/
inductive CallError
  | system
  | timeout
  | invalidRequest (cause : String)
  | invalidReply
  deriving DecidableEq, Repr, Inhabited

namespace CallError

/-- The kind of an error in reports. -/
def kind : CallError → String
  | system => "System"
  | timeout => "Timeout"
  | invalidRequest _ => "InvalidRequest"
  | invalidReply => "InvalidReply"

def message : CallError → String
  | system => "system error"
  | timeout => "request timed out"
  | invalidRequest cause => "invalid request: " ++ cause
  | invalidReply => "invalid reply"

/-- What a caller is told of a failed dispatch. -/
def ofDispatch : DispatchError → CallError
  | .timeout _ => timeout
  | .tooLarge limit got => invalidRequest s!"request is {got} bytes, the limit is {limit}"
  | .unencodable _ => invalidRequest "request cannot be encoded"
  | .groupNotFound _ | .dispatchFailed _ _ | .collision _ => system

end CallError

/-- What a request carries besides its command. -/
structure CallRequest where
  token : String := ""
  signature : String := ""
  params : String := ""
  payload : List UInt8 := []
  traceId : String := ""
  deriving DecidableEq, Repr, Inhabited

namespace CallRequest

/-- The envelope of a request. -/
def envelope (r : CallRequest) (command : Command) : Envelope :=
  { command
    token := r.token
    signature := r.signature
    params := r.params
    payload := r.payload
    traceId := r.traceId }

/-- The envelope to dispatch for a call, unless its command only manages streams. -/
def prepare (r : CallRequest) (command : Command) : Except CallError Envelope :=
  if command.isLifecycle then
    .error (.invalidRequest s!"command {command} cannot be sent as a request")
  else .ok (r.envelope command)

end CallRequest

/-- How a reply is turned into a value. -/
inductive ReplyShape
  /-- The params are JSON of any kind. -/
  | json
  /-- The params are a JSON record of an id of 32 bits and a name. -/
  | item
  /-- The payload as it is. -/
  | raw
  /-- Only the arrival of the reply counts. -/
  | ack
  deriving DecidableEq, Repr, Inhabited

/-- The value of a reply. -/
inductive ReplyValue
  | json (value : Json)
  | item (id : Nat) (name : String)
  | raw (payload : List UInt8)
  | ack
  deriving Repr, Inhabited

/-- Reads an item. -/
def ReplyValue.item? (t : Json.Tree) : Option ReplyValue := do
  let fields ← Document.fields ["id", "name"] t
  let id ← fields.required 0 (Document.below UInt32.size)
  let name ← fields.required 1 Document.text
  return .item id name

/-- The value of a reply, if it has the shape. -/
def ReplyShape.decode (shape : ReplyShape) (reply : Envelope) : Except CallError ReplyValue :=
  let found := match shape with
    | .json => (Json.parse reply.params).map .json
    | .item => Json.read? ReplyValue.item? reply.params
    | .raw => some (.raw reply.payload)
    | .ack => some .ack
  match found with
  | some value => .ok value
  | none => .error .invalidReply

/-- The result of a call whose dispatch ended. -/
def ReplyShape.result (shape : ReplyShape) : DispatchResult → Except CallError ReplyValue
  | .ok reply => shape.decode reply
  | .error e => .error (.ofDispatch e)

end Switchboard
