import Switchboard.Duration
import Switchboard.Envelope

/-!
# How a dispatch can fail

The causes for which a dispatch ends without a reply, with their texts.
-/

set_option autoImplicit false

namespace Switchboard

/-- Why a dispatch ended without a reply. -/
inductive DispatchError
  /-- No node serves the group. -/
  | groupNotFound (group : String)
  /-- All queues of the group's nodes were closed. -/
  | dispatchFailed (group : String) (attempts : Nat)
  | timeout (after : Duration)
  | collision (id : CorrelationId)
  | tooLarge (limit got : Nat)
  | unencodable (cause : String)
  deriving DecidableEq, Repr, Inhabited

namespace DispatchError

/-- The kind of an error in reports. -/
def kind : DispatchError → String
  | groupNotFound _ => "GroupNotFound"
  | dispatchFailed _ _ => "DispatchFailed"
  | timeout _ => "Timeout"
  | collision _ => "CorrelationCollision"
  | tooLarge _ _ => "FrameTooLarge"
  | unencodable _ => "Unencodable"

def message : DispatchError → String
  | groupNotFound group => s!"no nodes registered in group {group}"
  | dispatchFailed group attempts =>
    s!"no node in group {group} accepted the command after {attempts} attempts"
  | timeout after => s!"no reply within {after.text}"
  | collision id => s!"correlation id {id.toNat} is already pending"
  | tooLarge limit got => s!"envelope encodes to {got} bytes, the frame limit is {limit}"
  | unencodable cause => s!"envelope cannot be encoded: {cause}"

/-- The label under which an error is counted. -/
def outcome : DispatchError → String
  | groupNotFound _ => "group_not_found"
  | dispatchFailed _ _ => "dispatch_failed"
  | timeout _ => "timeout"
  | collision _ => "collision"
  | tooLarge _ _ => "frame_too_large"
  | unencodable _ => "unencodable"

end DispatchError

/-- The result of a dispatch: the reply or an error. -/
abbrev DispatchResult := Except DispatchError Envelope

/-- The label under which the result of a dispatch is counted. -/
def DispatchResult.label : DispatchResult → String
  | .ok _ => "ok"
  | .error e => e.outcome

end Switchboard
