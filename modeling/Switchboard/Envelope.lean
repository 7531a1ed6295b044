import Switchboard.Command

/-!
# Envelopes

The unit carried on a worker stream, in both directions.
-/

set_option autoImplicit false

namespace Switchboard

/-- Ties a reply to its request. -/
abbrev CorrelationId := UInt64

/-- The correlation id of a frame that expects no reply. -/
def noReply : CorrelationId := 0

/-- A command or a reply, with everything that travels with it. -/
structure Envelope where
  command : Command
  token : String := ""
  correlationId : CorrelationId := noReply
  signature : String := ""
  params : String := ""
  payload : List UInt8 := []
  traceId : String := ""
  deriving DecidableEq, Repr, Inhabited

namespace Envelope

/-- The keepalive of a stream, which is also the close marker of a session. -/
def keepalive : Envelope := { command := .pong }

/-- An empty reply to `request`: same command, correlation id and trace id. -/
def replyTo (request : Envelope) : Envelope :=
  { command := request.command
    correlationId := request.correlationId
    traceId := request.traceId }

/-- A frame with correlation id 0 expects no reply. -/
def expectsReply (e : Envelope) : Bool := e.correlationId != noReply

/-- The envelope under another correlation id. -/
def stamped (e : Envelope) (id : CorrelationId) : Envelope := { e with correlationId := id }

end Envelope

end Switchboard
