import Switchboard.Config.Basic
import Switchboard.Document

/-!
# Reading configurations

The fields of a configuration in a document of any format. Every field but those of a listener
has a default.
-/

set_option autoImplicit false

namespace Switchboard

variable {δ : Type} {m : Type → Type} [Document δ m] [Fallible m]

/-- Reads an unsigned number of 64 bits. -/
def word64 (d : δ) : m UInt64 := return .ofNat (← Document.natural d)

/-- Reads an unsigned number of 16 bits. -/
def word16 (d : δ) : m UInt16 := return .ofNat (← Document.below UInt16.size d)

/-- Reads where to listen. -/
def Listener.ofDocument (d : δ) : m Listener := do
  let fields ← Document.fields ["host", "port"] d
  let host ← fields.required 0 Document.text
  let port ← fields.required 1 word16
  return { host, port }

/-- Reads timeouts. -/
def Timeouts.ofDocument (d : δ) : m Timeouts := do
  let fields ← Document.fields ["standard_ms", "bulk_ms", "transfer_ms"] d
  let standardMs ← fields.withDefault 0 ({} : Timeouts).standardMs word64
  let bulkMs ← fields.withDefault 1 ({} : Timeouts).bulkMs word64
  let transferMs ← fields.withDefault 2 ({} : Timeouts).transferMs word64
  return { standardMs, bulkMs, transferMs }

namespace Config

/-- The names of the fields in their order. -/
def fieldNames : List String :=
  ["listener", "groups", "queue_capacity", "heartbeat_interval_ms", "handshake_timeout_ms",
    "max_frame_bytes", "instance_id", "timeouts"]

/-- Reads a configuration. -/
def ofDocument (d : δ) : m Config := do
  let standard : Config := {}
  let fields ← Document.fields fieldNames d
  let listener ← fields.withDefault 0 standard.listener Listener.ofDocument
  let groups ← fields.withDefault 1 standard.groups (Document.listOf Document.text)
  let queueCapacity ← fields.withDefault 2 standard.queueCapacity word64
  let heartbeatIntervalMs ← fields.withDefault 3 standard.heartbeatIntervalMs word64
  let handshakeTimeoutMs ← fields.withDefault 4 standard.handshakeTimeoutMs word64
  let maxFrameBytes ← fields.withDefault 5 standard.maxFrameBytes word64
  let instanceId ← fields.withDefault 6 none (Document.optional word16)
  let timeouts ← fields.withDefault 7 standard.timeouts Timeouts.ofDocument
  return {
    listener, groups, queueCapacity, heartbeatIntervalMs, handshakeTimeoutMs, maxFrameBytes,
    instanceId, timeouts }

end Config

end Switchboard
