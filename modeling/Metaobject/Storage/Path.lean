/-!
# Paths

A path is a text with slashes. `join` puts a path behind a directory, `steps` reads off the way
that it takes, and `parent` is the path of the directory in which it ends.
-/

namespace Metaobject.Path

/-- A path that starts at the top, wherever it is used. -/
def isAbsolute (p : String) : Bool := p.toList.head? == some '/'

/-- The path of `p` seen from the directory `dir`. An absolute path stays as it is; otherwise there
is one slash in between, unless the directory is the empty path. -/
def join (dir p : String) : String :=
  if isAbsolute p then p
  else match dir.toList.getLast? with
    | none => p
    | some '/' => dir ++ p
    | some _ => dir ++ "/" ++ p

/-- One step on the way that a path takes. -/
inductive Step where
  /-- To the directory that has been reached, which must be one. -/
  | stay
  | up
  | down (name : String)
deriving DecidableEq

def split : List Char → List (List Char)
  | [] => [[]]
  | c :: cs =>
      if c = '/' then [] :: split cs
      else match split cs with
        | [] => [[c]]
        | s :: ss => (c :: s) :: ss

def parts (p : String) : List String := (split p.toList).map String.ofList

/-- The step for what stands between two slashes, if anything does. -/
def step? (s : String) : Option Step :=
  if s = "" then none
  else if s = "." then some .stay
  else if s = ".." then some .up
  else some (.down s)

def steps (p : String) : List Step := (parts p).filterMap step?

/-- The way to where another way has its last step, apart from steps that stay. -/
def parentSteps (way : List Step) : List Step := (way.filter (· ≠ .stay)).dropLast

theorem length_parentSteps_lt (s : Step) (way : List Step) :
    (parentSteps (s :: way)).length < (s :: way).length := by
  have h : ((s :: way).filter (· ≠ .stay)).length ≤ (s :: way).length := List.length_filter_le _ _
  simp only [parentSteps, List.length_dropLast, List.length_cons] at h ⊢
  omega

/-- The path without its last part that says more than to stay. -/
def parent (p : String) : String :=
  let isIdle (s : String) : Bool := s = "" || s = "."
  let before := (((parts p).reverse.dropWhile isIdle).drop 1).dropWhile isIdle
  "/".intercalate before.reverse

def endsInSlash (p : String) : Bool := p.toList.getLast? == some '/'

end Metaobject.Path
