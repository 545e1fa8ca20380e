import Metaobject.Invoker.Cache

/-!
# A cache that is shared

Several threads may ask a cache for the invoker of one key at the same time. A request then takes
its steps one by one, and the steps of other requests may come between them: it looks the key up,
takes the cell that is entered for the key or enters a new one, and makes the invoker in that cell,
unless another request has done so. One request at a time makes an invoker in a cell, and those that
hold the same cell wait for it. When it fails, the cell is empty again and the next one may try, and
the request that has failed takes the entry of the key away if the cell that is entered is not
filled.
-/

namespace Metaobject

/-- A cell that is filled at most once. -/
inductive OnceCell where
  | empty
  /-- A request makes the invoker. -/
  | running
  | complete (invoker : CompiledInvoker)

def OnceCell.get? : OnceCell → Option CompiledInvoker
  | .complete invoker => some invoker
  | .empty | .running => none

/-- How far a request has come. -/
inductive Stage where
  | idle
  /-- No invoker was kept for the key. -/
  | missed
  | holding (cell : Nat)
  | making (cell : Nat)
  | failed (e : Failure)
  | answered (answer : Except Failure CompiledInvoker)

/-- What the requests for one key share, and how far each has come. -/
structure Sharing where
  /-- The cell that is entered for the key. -/
  entry : Option Nat
  /-- All cells that were ever entered. -/
  cells : List OnceCell
  stage : Nat → Stage
  /-- The requests that ran what makes an invoker, in that order. -/
  runs : List Nat
  /-- The requests that succeeded in making an invoker, each with its cell. -/
  filled : List (Nat × Nat)

namespace Sharing

def initial : Sharing := ⟨none, [], fun _ => .idle, [], []⟩

/-- The invoker that is kept for the key. -/
def kept? (s : Sharing) : Option CompiledInvoker :=
  (s.entry.bind fun c => s.cells[c]?).bind OnceCell.get?

def move (s : Sharing) (i : Nat) (stage : Stage) : Sharing :=
  { s with stage := fun j => if j = i then stage else s.stage j }

/-- The next step of a request; `make` says what comes of making the invoker in each of them. A
request that must wait, or that has been answered, stays where it is. -/
def advance (make : Nat → Except Failure CompiledInvoker) (s : Sharing) (i : Nat) : Sharing :=
  match s.stage i with
  | .idle =>
      match s.kept? with
      | some invoker => s.move i (.answered (.ok invoker))
      | none => s.move i .missed
  | .missed =>
      match s.entry with
      | some c => s.move i (.holding c)
      | none =>
          move { s with
            entry := some s.cells.length
            cells := s.cells ++ [.empty] } i (.holding s.cells.length)
  | .holding c =>
      match s.cells[c]? with
      | some (.complete invoker) => s.move i (.answered (.ok invoker))
      | some .empty =>
          move { s with
            cells := s.cells.set c .running
            runs := s.runs ++ [i] } i (.making c)
      | some .running | none => s
  | .making c =>
      match make i with
      | .ok invoker =>
          move { s with
            cells := s.cells.set c (.complete invoker)
            filled := s.filled ++ [(i, c)] } i (.answered (.ok invoker))
      | .error e => move { s with cells := s.cells.set c .empty } i (.failed e)
  | .failed e =>
      match s.kept? with
      | some _ => s.move i (.answered (.error e))
      | none => move { s with entry := none } i (.answered (.error e))
  | .answered _ => s

/-- The steps of the requests in the order of a schedule. -/
def run (make : Nat → Except Failure CompiledInvoker) (schedule : List Nat) : Sharing :=
  schedule.foldl (advance make) initial

end Sharing

end Metaobject
