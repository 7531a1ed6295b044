import Switchboard.Command
import Switchboard.Duration
import Switchboard.Gateway.State

/-!
# The configuration of a gateway

The values a gateway is started with, their defaults, and what makes a configuration valid.
`Config.validate` reports the first fault in a fixed order.
-/

set_option autoImplicit false

namespace Switchboard

/-- Where to listen. -/
structure Listener where
  host : String := "0.0.0.0"
  port : UInt16 := 9090
  deriving DecidableEq, Repr, Inhabited

/-- How long calls may take, in milliseconds, by the class of their command. -/
structure Timeouts where
  standardMs : UInt64 := 12000
  bulkMs : UInt64 := 60000
  transferMs : UInt64 := 600000
  deriving DecidableEq, Repr, Inhabited

/-- The timeout of a class in milliseconds. -/
def Timeouts.millis (t : Timeouts) : TimeoutClass → UInt64
  | .standard => t.standardMs
  | .bulk => t.bulkMs
  | .transfer => t.transferMs

/-- The configuration of a gateway. -/
structure Config where
  /-- Where workers dial in. -/
  listener : Listener := {}
  /-- The groups that must have a worker before the gateway is ready. -/
  groups : List String := ["general", "index", "storage"]
  /-- The capacity of each node's outbound queue. -/
  queueCapacity : UInt64 := 20000
  heartbeatIntervalMs : UInt64 := 5000
  /-- How long a new stream may take to send its first frame. -/
  handshakeTimeoutMs : UInt64 := 10000
  maxFrameBytes : UInt64 := 67108864
  /-- The high bits of every correlation id. Any number will do if it is not set. -/
  instanceId : Option UInt16 := none
  timeouts : Timeouts := {}
  deriving DecidableEq, Repr, Inhabited

/-- What is wrong with a configuration. -/
inductive Fault
  | invalidPort
  | noGroups
  | emptyGroupName
  | duplicateGroup (group : String)
  /-- A number that must not be zero is. -/
  | zero (field : String)
  deriving DecidableEq, Repr, Inhabited

namespace Fault

/-- The kind of a fault in reports. -/
def kind : Fault → String
  | invalidPort => "InvalidPort"
  | noGroups => "NoGroups"
  | emptyGroupName => "EmptyGroupName"
  | duplicateGroup _ => "DuplicateGroup"
  | zero _ => "Zero"

def message : Fault → String
  | invalidPort => "Port cannot be 0"
  | noGroups => "At least one group must be configured"
  | emptyGroupName => "Empty group name"
  | duplicateGroup group => "Duplicate group name: " ++ group
  | zero field => field ++ " must be greater than 0"

end Fault

/-- A number must not be zero. -/
def nonzero (field : String) (n : UInt64) : Except Fault Unit :=
  if n = 0 then .error (.zero field) else .ok ()

def Listener.validate (l : Listener) : Except Fault Unit :=
  if l.port = 0 then .error .invalidPort else .ok ()

/-- Group names are not empty and stand once. `seen` holds the names before. -/
def validateGroups (seen : List String) : List String → Except Fault Unit
  | [] => .ok ()
  | group :: rest =>
    if group = "" then .error .emptyGroupName
    else if group ∈ seen then .error (.duplicateGroup group)
    else validateGroups (group :: seen) rest

def Timeouts.validate (t : Timeouts) : Except Fault Unit := do
  nonzero "timeouts.standard_ms" t.standardMs
  nonzero "timeouts.bulk_ms" t.bulkMs
  nonzero "timeouts.transfer_ms" t.transferMs

namespace Config

/-- The first fault of a configuration, if it has one. -/
def validate (c : Config) : Except Fault Unit := do
  c.listener.validate
  if c.groups.isEmpty then throw .noGroups
  validateGroups [] c.groups
  nonzero "queue_capacity" c.queueCapacity
  nonzero "heartbeat_interval_ms" c.heartbeatIntervalMs
  nonzero "handshake_timeout_ms" c.handshakeTimeoutMs
  nonzero "max_frame_bytes" c.maxFrameBytes
  c.timeouts.validate

/-- The numbers that a gateway with this configuration runs with. -/
def settings (c : Config) : Settings :=
  { queueCapacity := c.queueCapacity.toNat
    gatewayNumber := c.instanceId.getD 0
    dispatchLimit := c.maxFrameBytes.toNat
    sessionLimit := c.maxFrameBytes.toNat
    handshakeMillis := c.handshakeTimeoutMs.toNat }

/-- The gateway of a configuration, if it is valid. -/
def gateway (c : Config) : Except Fault Gateway := do
  c.validate
  return .start c.settings

/-- Every configured group has a node. -/
def isReady (c : Config) (g : Gateway) : Bool := c.groups.all g.registry.hasMembers

end Config

end Switchboard
