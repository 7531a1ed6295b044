import Switchboard.Deployment.Reading

/-!
# The command line

`gateway run` serves a deployment and `gateway check-config` only reads it. What a command does is
a function of what it finds under the path of its configuration.
-/

set_option autoImplicit false

namespace Switchboard.CommandLine

/-- What help is about. -/
inductive Topic
  | program
  | run
  | checkConfig
  | help
  deriving DecidableEq, Repr, Inhabited

/-- What the arguments ask for. -/
inductive Request
  | run (path : String)
  | checkConfig (path : String)
  | help (topic : Topic)
  /-- The arguments make no sense. -/
  | misuse
  deriving DecidableEq, Repr, Inhabited

/-- An argument that is an option and no value: a dash with something behind it. -/
def isOption (argument : String) : Bool :=
  match argument.toList with
  | '-' :: _ :: _ => true
  | _ => false

/-- What one argument among the options of a command is. -/
inductive Argument
  | help
  /-- The configuration is the next argument. -/
  | configNext
  | config (path : String)
  | unknown
  deriving DecidableEq, Repr, Inhabited

/-- Reads an argument. A value may be attached to its option. -/
def Argument.ofText (argument : String) : Argument :=
  if argument = "--help" then help
  else if argument = "--config" then configNext
  else
    let longForm := "--config=".toList
    let chars := argument.toList
    if longForm.isPrefixOf chars then config (String.ofList (chars.drop longForm.length))
    else
      match chars with
      | '-' :: 'h' :: _ => help
      | ['-', 'c'] => configNext
      | '-' :: 'c' :: '=' :: value => config (String.ofList value)
      | '-' :: 'c' :: value => config (String.ofList value)
      | _ => unknown

/-- Reads the options of a command up to its end; the path must be given once and not be empty.
Nothing may follow `--`. -/
def options (topic : Topic) (make : String → Request) (found : Option String) :
    List String → Request
  | [] =>
    match found with
    | some path => make path
    | none => .misuse
  | ["--"] =>
    match found with
    | some path => make path
    | none => .misuse
  | "--" :: _ :: _ => .misuse
  | argument :: rest =>
    match Argument.ofText argument with
    | .help => .help topic
    | .unknown => .misuse
    | .config path =>
      if found.isSome || path.isEmpty then .misuse else options topic make (some path) rest
    | .configNext =>
      match rest with
      | path :: rest =>
        if found.isSome || path.isEmpty || isOption path then .misuse
        else options topic make (some path) rest
      | [] => .misuse

/-- Reads the names behind `help`. -/
def helpOn : List String → Request
  | [] => .help .program
  | ["run"] => .help .run
  | ["check-config"] => .help .checkConfig
  | ["help"] => .help .help
  | _ => .misuse

/-- Reads the arguments. -/
def Request.ofArguments : List String → Request
  | "run" :: rest => options .run .run none rest
  | "check-config" :: rest => options .checkConfig .checkConfig none rest
  | "help" :: rest => helpOn rest
  | "--help" :: _ => .help .program
  | argument :: _ =>
    if "-h".toList.isPrefixOf argument.toList then .help .program else .misuse
  | [] => .misuse

/-- What a command leaves behind. -/
structure Outcome where
  code : UInt32
  stdout : String := ""
  stderr : String := ""
  deriving DecidableEq, Repr, Inhabited

/-- What a command does. -/
def Topic.purpose : Topic → String
  | program => "Routes client calls to backend worker nodes"
  | run => "Serve workers and the admin endpoints until interrupted"
  | checkConfig => "Load and validate a configuration file, then exit"
  | help => "Print this message or the help of the given subcommand(s)"

/-- The options of the commands that read a configuration. -/
def configOptions : String :=
  "Options:\n" ++
    "  -c, --config <CONFIG>  Path to the YAML configuration file\n" ++
    "  -h, --help             Print help\n"

/-- How a command is used. -/
def Topic.usage : Topic → String
  | program =>
    "Usage: gateway <COMMAND>\n\n" ++
      "Commands:\n" ++
      "  run           " ++ run.purpose ++ "\n" ++
      "  check-config  " ++ checkConfig.purpose ++ "\n" ++
      "  help          " ++ help.purpose ++ "\n\n" ++
      "Options:\n" ++
      "  -h, --help  Print help\n"
  | run => "Usage: gateway run --config <CONFIG>\n\n" ++ configOptions
  | checkConfig => "Usage: gateway check-config --config <CONFIG>\n\n" ++ configOptions
  | help =>
    "Usage: gateway help [COMMAND]...\n\n" ++
      "Arguments:\n" ++
      "  [COMMAND]...  Print help for the subcommand(s)\n"

/-- The text of the help. -/
def Topic.text (t : Topic) : String := t.purpose ++ "\n\n" ++ t.usage

/-- A command that failed. -/
def failed (cause : String) : Outcome := { code := 1, stderr := "gateway: " ++ cause ++ "\n" }

/-- The text of an error of the machine when a service cannot listen. -/
def bindMessage : String := "I/O error: Cannot assign requested address (os error 99)"

/-- A program that broke down. -/
def brokenDown (cause : String) : Outcome := { code := 101, stderr := cause ++ "\n" }

/-- Serves a deployment on a machine that has none of the addresses. Reports and metrics are set up
first, and without a place for its reports the program breaks down. -/
def serve (d : Deployment) : Outcome :=
  if !d.logging.all Logging.canReport then brokenDown "invalid address for reports"
  else
    match d.metrics.bind MetricsTarget.error? with
    | some e => failed ("could not build statsd exporter: " ++ e.message)
    | none => failed bindMessage

/-- Does what a request asks for. -/
def Request.perform (read : String → File) : Request → Outcome
  | .help topic => { code := 0, stdout := topic.text }
  | .misuse => { code := 2, stderr := Topic.program.text }
  | .checkConfig path =>
    match Deployment.ofFile (read path) with
    | .ok _ => { code := 0, stdout := path ++ ": ok\n" }
    | .error e => failed e.message
  | .run path =>
    match Deployment.ofFile (read path) with
    | .ok d => serve d
    | .error e => failed e.message

/-- The path of the file that a request reads, if it reads one. -/
def Request.path? : Request → Option String
  | .run path | .checkConfig path => some path
  | .help _ | .misuse => none

end Switchboard.CommandLine
