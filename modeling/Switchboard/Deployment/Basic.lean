import Switchboard.Config.Basic
import Switchboard.Deployment.ReportAddress
import Switchboard.Files
import Switchboard.Text.WhiteSpace

/-!
# Deployments

What a gateway is started with from a file: besides its own configuration, where its metrics go,
how it logs, and where its admin service listens.
-/

set_option autoImplicit false

namespace Switchboard

/-- Where metrics are sent. -/
structure MetricsTarget where
  host : String
  port : UInt16
  deriving DecidableEq, Repr, Inhabited

/-- Why metrics cannot be sent to a target. -/
inductive MetricsError
  | noHost
  | noPort
  deriving DecidableEq, Repr, Inhabited

def MetricsError.message : MetricsError → String
  | noHost => "Empty hostname is not allowed"
  | noPort => "Port number must be nonzero"

/-- What keeps metrics from being sent to a target, if anything does. -/
def MetricsTarget.error? (t : MetricsTarget) : Option MetricsError :=
  if Text.isBlank t.host then some .noHost else if t.port = 0 then some .noPort else none

/-- What is logged, and where errors are reported. -/
structure Logging where
  reportsTo : Option String := none
  level : String := "info"
  deriving DecidableEq, Repr, Inhabited

/-- Errors are reported nowhere, or where reports can be sent. -/
def Logging.canReport (l : Logging) : Bool :=
  l.reportsTo.all fun address => address.isEmpty || ReportAddress.isUsable address

/-- A deployment of a gateway. -/
structure Deployment where
  metrics : Option MetricsTarget := none
  logging : Option Logging := none
  admin : Listener
  gateway : Config := {}
  deriving DecidableEq, Repr, Inhabited

/-- The first fault of a deployment, if it has one. -/
def Deployment.validate (d : Deployment) : Except Fault Unit := do
  d.admin.validate
  d.gateway.validate

/-- Why a file gives no deployment. -/
inductive DeploymentError
  /-- There is no file that can be opened. -/
  | absent (cause : PathError)
  /-- The file describes no deployment. -/
  | unreadable
  | invalid (fault : Fault)
  deriving DecidableEq, Repr, Inhabited

namespace DeploymentError

/-- The kind of an error in reports. -/
def kind : DeploymentError → String
  | absent _ => "LoadError"
  | unreadable => "ParseError"
  | invalid _ => "Invalid"

def message : DeploymentError → String
  | absent cause => "could not load config from file: " ++ cause.message
  | unreadable => "could not parse config: the file describes no deployment"
  | invalid fault => "invalid config: " ++ fault.message

end DeploymentError

end Switchboard
