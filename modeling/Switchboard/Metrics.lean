import Switchboard.Assoc

/-!
# Metrics

The metrics of the gateway: what each is called, its kind and its description, and the values
they have. A series is a metric with its labels; only series that were touched have a value. A
histogram is known by the number of its recordings.
-/

set_option autoImplicit false

namespace Switchboard

/-- The kinds of metric. -/
inductive MetricKind
  | counter
  | gauge
  | histogram
  deriving DecidableEq, Repr, Inhabited

def MetricKind.name : MetricKind → String
  | counter => "Counter"
  | gauge => "Gauge"
  | histogram => "Histogram"

/-- A metric. -/
structure Metric where
  name : String
  kind : MetricKind
  description : String
  deriving DecidableEq, Repr, Inhabited

namespace Metric

def dispatchDuration : Metric :=
  ⟨"dispatch.duration", .histogram,
    "Time from dispatch to reply or failure in seconds. Tagged with group, outcome."⟩

def dispatchOutcome : Metric :=
  ⟨"dispatch.outcome", .counter,
    "Number of dispatches. Tagged with group, outcome (ok, timeout, group_not_found, " ++
      "dispatch_failed, collision, frame_too_large, unencodable)."⟩

def correlationsPending : Metric :=
  ⟨"correlations.pending", .gauge, "Number of dispatches currently waiting for a reply"⟩

def repliesDropped : Metric :=
  ⟨"replies.dropped", .counter,
    "Replies that arrived with no caller waiting, usually after a timeout"⟩

def nodesRegistered : Metric :=
  ⟨"nodes.registered", .gauge,
    "Number of node identities currently registered across all groups"⟩

def sessionsActive : Metric :=
  ⟨"sessions.active", .gauge, "Number of open worker streams"⟩

def sessionsClosed : Metric :=
  ⟨"sessions.closed", .counter, "Worker streams that ended. Tagged with reason."⟩

def staleDeregistrations : Metric :=
  ⟨"deregistrations.stale", .counter,
    "Deregistrations ignored because a newer connection owns the node identity"⟩

def heartbeatEnqueueFailed : Metric :=
  ⟨"heartbeat.enqueue_failed", .counter,
    "Keepalives that could not be queued because the node queue was full"⟩

def framesDropped : Metric :=
  ⟨"frames.dropped", .counter,
    "Queued envelopes a session could not encode within the frame limit and skipped"⟩

/-- All metrics, in the order in which they are announced. -/
def all : List Metric :=
  [dispatchDuration, dispatchOutcome, correlationsPending, repliesDropped, nodesRegistered,
    sessionsActive, sessionsClosed, staleDeregistrations, heartbeatEnqueueFailed, framesDropped]

end Metric

/-- A metric with its labels. -/
inductive Series
  | dispatchDuration (group outcome : String)
  | dispatchOutcome (group outcome : String)
  | correlationsPending
  | repliesDropped
  | nodesRegistered
  | sessionsActive
  | sessionsClosed (reason : String)
  | staleDeregistrations
  | heartbeatEnqueueFailed
  | framesDropped
  deriving DecidableEq, Repr, Inhabited

namespace Series

/-- The metric of a series. -/
def metric : Series → Metric
  | dispatchDuration _ _ => .dispatchDuration
  | dispatchOutcome _ _ => .dispatchOutcome
  | correlationsPending => .correlationsPending
  | repliesDropped => .repliesDropped
  | nodesRegistered => .nodesRegistered
  | sessionsActive => .sessionsActive
  | sessionsClosed _ => .sessionsClosed
  | staleDeregistrations => .staleDeregistrations
  | heartbeatEnqueueFailed => .heartbeatEnqueueFailed
  | framesDropped => .framesDropped

/-- The labels of a series in the order of their names. -/
def labels : Series → List (String × String)
  | dispatchDuration group outcome => [("group", group), ("outcome", outcome)]
  | dispatchOutcome group outcome => [("group", group), ("outcome", outcome)]
  | sessionsClosed reason => [("reason", reason)]
  | _ => []

/-- The text of a series: the name of its metric, and in braces its labels. -/
def text (s : Series) : String :=
  if s.labels.isEmpty then s.metric.name
  else
    s.metric.name ++ "\x7b" ++
      ",".intercalate (s.labels.map fun (name, value) => name ++ "=" ++ value) ++ "\x7d"

end Series

/-- The values of the series that were touched. -/
structure Metrics where
  values : Assoc Series Int := []
  deriving DecidableEq, Repr, Inhabited

namespace Metrics

/-- The value of a series, 0 if it was never touched. -/
def value (m : Metrics) (s : Series) : Int := (m.values.get? s).getD 0

/-- Sets a gauge. -/
def set (m : Metrics) (s : Series) (value : Int) : Metrics := ⟨m.values.insert s value⟩

/-- Adds to a counter or a gauge, or records `amount` times in a histogram. -/
def add (m : Metrics) (s : Series) (amount : Int) : Metrics := m.set s (m.value s + amount)

theorem value_set (m : Metrics) (s s' : Series) (value : Int) :
    (m.set s value).value s' = if s = s' then value else m.value s' := by
  unfold set Metrics.value
  rw [Assoc.get?_insert]
  split <;> rfl

theorem value_add (m : Metrics) (s s' : Series) (amount : Int) :
    (m.add s amount).value s' = if s = s' then m.value s' + amount else m.value s' := by
  rw [add, value_set]
  by_cases same : s = s'
  · rw [if_pos same, if_pos same, same]
  · rw [if_neg same, if_neg same]

end Metrics

end Switchboard
