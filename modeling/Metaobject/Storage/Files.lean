import Metaobject.Storage.Path

/-!
# Files

A tree of directories and files. A file can be written where its directory exists, and directories
can be made as deep as needed, unless a file is in the way or a name is too long. The directories
that were made before one could not be made stay.
-/

namespace Metaobject

/-- What is found under a path. -/
inductive Node (α : Type) where
  | directory
  | file (content : α)

/-- What lies below the starting directory, by the names on the way to it. The starting directory
itself is always there. -/
structure Files (α : Type) where
  nodes : List (List String × Node α)

/-- Why a file or a directory cannot be made. -/
inductive StorageFault where
  | notFound
  | exists
  | notDirectory
  | isDirectory
  | nameTooLong
  | nulInName
deriving DecidableEq

def StorageFault.message : StorageFault → String
  | .notFound => "No such file or directory (os error 2)"
  | .exists => "File exists (os error 17)"
  | .notDirectory => "Not a directory (os error 20)"
  | .isDirectory => "Is a directory (os error 21)"
  | .nameTooLong => "File name too long (os error 36)"
  | .nulInName => "file name contained an unexpected NUL byte"

namespace Files

variable {α : Type}

/-- The longest file name, in bytes. -/
def nameLimit : Nat := 255

/-- The longest path, in bytes. -/
def pathLimit : Nat := 4095

def empty : Files α := ⟨[]⟩

def node? (fs : Files α) : List String → Option (Node α)
  | [] => some .directory
  | place => fs.nodes.lookup place

def put (fs : Files α) (place : List String) (node : Node α) : Files α :=
  ⟨(fs.nodes.filter fun e => e.1 != place) ++ [(place, node)]⟩

/-- Where a way through existing directories leads to, beginning at a place. -/
def walk (fs : Files α) : List String → List Path.Step → Except StorageFault (List String)
  | place, steps =>
      match fs.node? place with
      | none => .error .notFound
      | some (.file _) => .error .notDirectory
      | some .directory =>
          match steps with
          | [] => .ok place
          | .stay :: steps => fs.walk place steps
          | .up :: steps => fs.walk place.dropLast steps
          | .down name :: steps =>
              if name.utf8ByteSize > nameLimit then .error .nameTooLong
              else fs.walk (place ++ [name]) steps

def isDirectory (fs : Files α) (steps : List Path.Step) : Bool := (fs.walk [] steps).isOk

end Files

/-- A change of files, which may fail; what was done before it fails stays done. -/
abbrev FileChange (α : Type) := ExceptT StorageFault (StateM (Files α))

namespace FileChange

variable {α : Type}

def check (path : String) : FileChange α Unit := do
  if path.toList.contains '\x00' then throw .nulInName
  if path.utf8ByteSize > Files.pathLimit then throw .nameTooLong

/-- Makes the directory in which a way ends, in a directory that exists. -/
def makeOne (steps : List Path.Step) : FileChange α Unit := do
  let fs ← get
  match steps.getLast? with
  | some (.down name) =>
      let place ← fs.walk [] steps.dropLast
      if name.utf8ByteSize > Files.nameLimit then throw .nameTooLong
      if (fs.node? (place ++ [name])).isSome then throw .exists
      set (fs.put (place ++ [name]) .directory)
  | _ =>
      let _ ← fs.walk [] steps.dropLast
      throw .exists

/-- Makes the directory in which a way ends, if it is not there yet. -/
def makeMissing (steps : List Path.Step) : FileChange α Unit := do
  try makeOne steps
  catch e => unless e = .exists && (← get).isDirectory steps do throw e

/-- Makes the directory in which a way ends and those in which it lies, as far as they are missing:
where one cannot be made because it has no place yet, the one in which it lies is made first. -/
def makeAll : List Path.Step → FileChange α Unit
  | [] => return
  | s :: way => do
      try makeMissing (s :: way)
      catch
        | .notFound => do
            makeAll (Path.parentSteps (s :: way))
            makeMissing (s :: way)
        | e => throw e
termination_by way => way.length
decreasing_by exact Path.length_parentSteps_lt s way

/-- Makes a directory and those in which it lies, as far as they are missing. -/
def makeDirectories (path : String) : FileChange α Unit := do
  check path
  makeAll (Path.steps path)

/-- Writes a file; its directory must exist. -/
def write (path : String) (content : α) : FileChange α Unit := do
  check path
  let fs ← get
  let steps := Path.steps path
  let place ← fs.walk [] steps.dropLast
  match steps.getLast? with
  | some (.down name) =>
      if Path.endsInSlash path then throw .isDirectory
      if name.utf8ByteSize > Files.nameLimit then throw .nameTooLong
      if let some .directory := fs.node? (place ++ [name]) then throw .isDirectory
      set (fs.put (place ++ [name]) (.file content))
  | _ => throw .isDirectory

end FileChange

namespace Files

variable {α : Type}

def read? (fs : Files α) (path : String) : Option α := do
  guard (path.utf8ByteSize ≤ pathLimit && !Path.endsInSlash path)
  let .down name ← (Path.steps path).getLast? | none
  let place ← (fs.walk [] (Path.steps path).dropLast).toOption
  let .file content ← fs.node? (place ++ [name]) | none
  return content

end Files

end Metaobject
