import Switchboard.CommandLine
import Switchboard.Text.Utf8

/-!
# A machine to start the program on

The machine of a rehearsal of the command line: the usual directories, and among them one with the
configuration file. Nothing else on it describes a deployment.
-/

set_option autoImplicit false

namespace Switchboard.Scenario.Machine

/-- The directory of the configuration file. -/
def home : String := "/srv/rehearsal"

/-- The path of the configuration file. -/
def configPath : String := home ++ "/deployment.yaml"

/-- A path under which there is nothing. -/
def missingPath : String := home ++ "/missing.yaml"

/-- An empty directory with a name. -/
def emptyDirectory (name : String) : String × FileTree := (name, .directory [])

/-- A directory of empty files. -/
def directoryOf (name : String) (files : List String) : String × FileTree :=
  (name, .directory (files.map fun file => (file, .file [])))

/-- The files and directories of the machine. -/
def files (config : String) : FileTree :=
  let deployment := FileTree.file (Text.utf8 config)
  .directory <|
    ["bin", "boot", "home", "lib", "lib64", "media", "mnt", "opt", "root", "run", "sbin", "sys",
        "tmp"].map emptyDirectory ++
      [directoryOf "dev" ["null", "stdin"],
        directoryOf "etc" ["group", "hostname", "hosts", "passwd", "resolv.conf"],
        directoryOf "proc" ["cpuinfo", "meminfo", "version"],
        ("srv", .directory [("rehearsal", .directory [("deployment.yaml", deployment)])]),
        ("usr", .directory (["bin", "include", "lib", "local", "sbin", "share", "src"].map
          emptyDirectory)),
        ("var", .directory (["cache", "lib", "log", "tmp"].map emptyDirectory))]

/-- What the program does on the machine with these arguments. -/
def perform (config : String) (arguments : List String) : CommandLine.Outcome :=
  (CommandLine.Request.ofArguments arguments).perform fun path =>
    (files config).read "/home" path

end Switchboard.Scenario.Machine
