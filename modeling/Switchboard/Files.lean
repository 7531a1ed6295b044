/-!
# Files under paths

A tree of directories and files, and what a path leads to in it. A path is a list of names between
slashes. An empty name and `.` stand for the directory itself and `..` for the one above it, so that
every name, an empty one at the end too, needs a directory to be looked up in.
-/

set_option autoImplicit false

namespace Switchboard

/-- Why nothing can be opened under a path. -/
inductive PathError
  | missing
  /-- A name is looked up in a file. -/
  | notDirectory
  /-- A name or the whole path is too long. -/
  | tooLong
  /-- The file may not be opened. -/
  | denied
  deriving DecidableEq, Repr, Inhabited

/-- The text of an error. -/
def PathError.message : PathError → String
  | missing => "No such file or directory (os error 2)"
  | notDirectory => "Not a directory (os error 20)"
  | tooLong => "File name too long (os error 36)"
  | denied => "Permission denied (os error 13)"

/-- What is found under a path where a file is expected. -/
inductive File
  | absent (cause : PathError)
  /-- There is something, but it cannot be read as a file. -/
  | unreadable
  | bytes (content : List UInt8)
  deriving DecidableEq, Repr, Inhabited

/-- A file, or a directory of named files and directories. -/
inductive FileTree
  | file (content : List UInt8)
  | directory (entries : List (String × FileTree))
  deriving Repr, Inhabited

namespace FileTree

/-- A name has at most this many bytes. -/
def nameLimit : Nat := 255

/-- A path has fewer bytes than this. -/
def pathLimit : Nat := 4096

/-- What a list of names leads to from a place below the directories `above`, innermost first. The
root is its own parent. -/
def walk (above : List FileTree) (here : FileTree) : List String → Except PathError FileTree
  | [] => .ok here
  | name :: rest =>
    match here with
    | file _ => .error .notDirectory
    | directory entries =>
      if name = "" || name = "." then walk above here rest
      else if name = ".." then
        match above with
        | [] => walk [] here rest
        | parent :: above => walk above parent rest
      else if nameLimit < name.utf8ByteSize then .error .tooLong
      else
        match entries.lookup name with
        | some next => walk (here :: above) next rest
        | none => .error .missing

/-- The names of a path. -/
def names (path : String) : List String := path.splitOn "/"

/-- What a path leads to. One that starts with a slash starts at the root, any other one at the
directory `current` below the root. -/
def find (root : FileTree) (current : String) (path : String) : Except PathError FileTree :=
  if path = "" then .error .missing
  else if pathLimit ≤ path.utf8ByteSize then .error .tooLong
  else if path.startsWith "/" then walk [] root (names path)
  else walk [] root (names current ++ names path)

/-- What is found under a path when it is opened as a file. -/
def read (root : FileTree) (current : String) (path : String) : File :=
  match root.find current path with
  | .error cause => .absent cause
  | .ok (file content) => .bytes content
  | .ok (directory _) => .unreadable

end FileTree

end Switchboard
