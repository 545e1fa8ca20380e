import Metaobject.Failure

/-!
# Log events

Operations report what they do as a list of events. `Logged` is a result together with the events
on the way to it, and `Attempt` is such a result that may be a failure: the events up to the
failure are kept.
-/

namespace Metaobject

/-- How important an event is. -/
inductive Level where
  | error
  | warn
  | info
  | debug
  | trace
deriving DecidableEq

namespace Level

def all : List Level := [.error, .warn, .info, .debug, .trace]

def name : Level → String
  | .error => "ERROR"
  | .warn => "WARN"
  | .info => "INFO"
  | .debug => "DEBUG"
  | .trace => "TRACE"

/-- The place of a level; more important ones have lower numbers. -/
def rank : Level → Nat
  | .error => 1
  | .warn => 2
  | .info => 3
  | .debug => 4
  | .trace => 5

def ofName? (name : String) : Option Level := all.find? fun l => l.name == name

end Level

/-- Something that an operation reports. -/
structure Event where
  level : Level
  text : String
deriving DecidableEq

/-- A result, and what was reported on the way. -/
structure Logged (α : Type) where
  value : α
  events : List Event

namespace Logged

instance : Monad Logged where
  pure a := ⟨a, []⟩
  bind x f := ⟨(f x.value).value, x.events ++ (f x.value).events⟩

def report (level : Level) (text : String) : Logged Unit := ⟨(), [⟨level, text⟩]⟩

@[simp] theorem value_pure {α : Type} (a : α) : (pure a : Logged α).value = a := rfl

@[simp] theorem events_pure {α : Type} (a : α) : (pure a : Logged α).events = [] := rfl

@[simp] theorem value_bind {α β : Type} (x : Logged α) (f : α → Logged β) :
    (x >>= f).value = (f x.value).value := rfl

@[simp] theorem events_bind {α β : Type} (x : Logged α) (f : α → Logged β) :
    (x >>= f).events = x.events ++ (f x.value).events := rfl

instance : LawfulMonad Logged := LawfulMonad.mk' Logged
  (by intro α x; cases x; simp [Functor.map])
  (by intro α β a f; rfl)
  (by intro α β γ x f g; cases x; simp [Bind.bind, List.append_assoc])

end Logged

/-- An operation that reports what it does and may fail. -/
abbrev Attempt := ExceptT Failure Logged

def report (level : Level) (text : String) : Attempt Unit := Logged.report level text

end Metaobject
