import Switchboard.Config.Reading
import Switchboard.Deployment.Basic
import Switchboard.Text.Utf8
import Switchboard.Yaml.Document

/-!
# Reading deployments

A deployment is written in YAML. Its listener and its gateway are read leniently, as nodes of the
document. Everything else must have a value, and what is known of it is read strictly, from these
values.
-/

set_option autoImplicit false

namespace Switchboard

section

variable {δ : Type} {m : Type → Type} [Document δ m] [Fallible m]

/-- Reads where metrics are sent. -/
def MetricsTarget.ofDocument (d : δ) : m MetricsTarget := do
  let fields ← Document.fields ["statsd_host", "statsd_port"] d
  let host ← fields.required 0 Document.text
  let port ← fields.required 1 word16
  return { host, port }

/-- Reads how to log. In a list of the fields the first must not be left out. -/
def Logging.ofDocument (d : δ) : m Logging := do
  let fields ← Document.fields ["sentry_dsn", "level"] d
  let dsn : δ → m (Option String) := Document.optional Document.text
  let reportsTo ← if fields.positional then fields.required 0 dsn else fields.withDefault 0 none dsn
  let level ← fields.withDefault 1 ({ : Logging }).level Document.text
  return { reportsTo, level }

end

namespace Deployment

/-- The fields that are read leniently. -/
def ownFields : List String := ["admin_listener", "multiplexer"]

/-- The fields that are read strictly. -/
def sharedFields : List String := ["metrics", "logging"]

/-- The values of the other members of a document. One nesting level is that of the document. -/
def others (t : Yaml.Tree) (members : List (String × Yaml.Tree)) :
    Yaml.Reading (List (String × Yaml.Value)) :=
  (members.filter fun m => !ownFields.contains m.1).mapM fun m => do
    return (m.1, ← Yaml.Value.ofNode t.anchors (Yaml.Value.depthLimit - 1) m.2.node)

/-- Reads where metrics go and how to log from the values of members. -/
def telemetry? (members : List (String × Yaml.Value)) :
    Option (Option MetricsTarget × Option Logging) := do
  let shared ← Fields.ofMembers sharedFields members
  let metrics ← shared.withDefault 0 none (Document.optional MetricsTarget.ofDocument)
  let logging ← shared.withDefault 1 none (Document.optional Logging.ofDocument)
  return (metrics, logging)

/-- Reads a deployment. -/
def ofTree (t : Yaml.Tree) : Yaml.Reading Deployment := do
  let members ← t.members
  let own ← Fields.ofMembers ownFields members
  let (metrics, logging) ← telemetry? (← others t members)
  let admin ← own.required 0 Listener.ofDocument
  let gateway ← own.withDefault 1 {} Config.ofDocument
  return { metrics, logging, admin, gateway }

/-- The deployment that a file describes. -/
def ofFile : File → Except DeploymentError Deployment
  | .absent cause => .error (.absent cause)
  | .unreadable => .error .unreadable
  | .bytes content =>
    match (Text.ofUtf8? content).bind (Yaml.read? ofTree) with
    | none => .error .unreadable
    | some d =>
      match d.validate with
      | .error fault => .error (.invalid fault)
      | .ok () => .ok d

end Deployment

end Switchboard
