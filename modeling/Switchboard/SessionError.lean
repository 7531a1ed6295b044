import Switchboard.Duration
import Switchboard.Wire.Frame

/-!
# How a session ends

A session has no successful end: the worker is expected to hold its stream open.
-/

set_option autoImplicit false

namespace Switchboard

/-- Why a session ended. -/
inductive SessionError
  /-- The worker closed its stream on a frame boundary. -/
  | endOfStream
  | read (cause : Wire.CodecError)
  | write (cause : Wire.CodecError)
  /-- No frame came within this time of connecting. -/
  | handshakeTimeout (after : Duration)
  /-- The gateway is shutting down. -/
  | shutdown
  deriving DecidableEq, Repr, Inhabited

namespace SessionError

/-- The label under which an ended session is counted. -/
def reason : SessionError → String
  | endOfStream => "end_of_stream"
  | read _ => "read_error"
  | write _ => "write_error"
  | handshakeTimeout _ => "handshake_timeout"
  | shutdown => "shutdown"

/-- The text of an error that has no codec error as its cause. -/
def message : SessionError → Option String
  | endOfStream => some "stream closed by peer"
  | read _ | write _ => none
  | handshakeTimeout after => some s!"no frame received within {after.text} of connecting"
  | shutdown => some "gateway is shutting down"

end SessionError

end Switchboard
