import Metaobject.Class.Hierarchy
import Metaobject.Log.Event

/-!
# Registries

A registry knows classes by their names. It starts with the root, it takes every name once, and it
says which types can be assigned to which: identical types, a primitive type and its wrapper, every
reference type to the root, and a defined class to its supertypes.
-/

namespace Metaobject

/-- The classes that have been defined, in the order of their definition. -/
structure Registry where
  classes : List Class

namespace Registry

def initial : Registry := ⟨[Class.root]⟩

def get? (r : Registry) (name : String) : Option Class :=
  r.classes.find? fun c => c.name == name

def contains (r : Registry) (name : String) : Bool := (r.get? name).isSome

def size (r : Registry) : Nat := r.classes.length

def names (r : Registry) : List String :=
  (r.classes.map Class.name).mergeSort fun a b => decide (a ≤ b)

def insert? (r : Registry) (c : Class) : Except Failure Registry :=
  if r.contains c.name then .error (.duplicateClass c.name) else .ok ⟨r.classes ++ [c]⟩

def define (r : Registry) (c : Class) : Attempt Registry := do
  let r ← ExceptT.mk (pure (r.insert? c))
  if c.isSynthetic then report .debug s!"定义生成类: {c.name}"
  else report .info s!"定义类: {c.name}"
  return r

/-- The class of the given name, which must be defined. -/
def require (r : Registry) (name : String) : Except Failure Class :=
  match r.get? name with
  | some c => .ok c
  | none => .error (.classNotFound name)

/-- Whether a value of type `source` may stand where `target` is expected. -/
def isAssignable (r : Registry) (target source : TypeRef) : Bool :=
  target == source || target.boxingEquivalent source ||
    match target with
    | .named t =>
        if t == rootName then source.isReference
        else match source with
          | .named s => (r.get? s).any (Class.isSubtypeOf t)
          | _ => false
    | _ => false

end Registry

end Metaobject
