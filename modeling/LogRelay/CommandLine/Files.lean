import LogRelay.Behaviour.Pipe

/-!
# Files

The files that a run of the program can meet.
-/

namespace LogRelay

inductive FileNode where
  | file (content : Bytes)
  | directory
  /-- Something that can be neither read nor written. -/
  | unusable (failure : Failure)
  deriving DecidableEq, Repr

/-- What stands at which path. -/
abbrev Files := List (String × FileNode)

namespace Files

def missing : Failure := .system 2

def notADirectory : Failure := .system 20

def isADirectory : Failure := .system 21

/-- The directory that a path names before its last slash, if it has one. -/
def parent? (path : String) : Option String :=
  match path.toList.reverse.dropWhile (· ≠ '/') with
  | [] => none
  | _ :: rest => some (String.ofList rest.reverse)

/-- Why nothing stands at the path. -/
def absence (files : Files) (path : String) : Failure :=
  match (parent? path).bind (List.lookup · files) with
  | some (.file _) => notADirectory
  | _ => missing

/-- Whether a file can be made there: a path without a slash lies where the
program runs. -/
def canCreate (files : Files) (path : String) : Bool :=
  match parent? path with
  | none => true
  | some parent => List.lookup parent files = some .directory

def read (files : Files) (path : String) : Except Failure Bytes :=
  match List.lookup path files with
  | some (.file content) => .ok content
  | some .directory => .error isADirectory
  | some (.unusable failure) => .error failure
  | none => .error (files.absence path)

/-- The file as a pipe, for reads of that many bytes.  A directory can be opened
and not be read. -/
def openPipe (files : Files) (path : String) (size : Nat) : Except Failure PipeScript :=
  match List.lookup path files with
  | some (.file content) => .ok (PipeScript.ofContent size content)
  | some .directory => .ok [.fail isADirectory]
  | some (.unusable failure) => .error failure
  | none => .error (files.absence path)

/-- Why the file cannot be written, if it cannot. -/
def writeFailure? (files : Files) (path : String) : Option Failure :=
  match List.lookup path files with
  | some (.file _) => none
  | some .directory => some isADirectory
  | some (.unusable failure) => some failure
  | none => if files.canCreate path then none else some (files.absence path)

end Files

end LogRelay
