import Metaobject.Exception
import Metaobject.Value

/-!
# Programs

What the body of a constructor, of a method or of a handler does, as a tree: each node is one use
of the object model, and its children are what the body does with each possible answer. A body can
catch the exceptions of what it calls, so those are answers too.

`Linkage` gives the routine that runs under each label of a class description.
-/

namespace Metaobject

/-- What a body does, step by step. -/
inductive Program where
  | done (result : Value)
  | raise (exception : Exception)
  | record (text : String) (next : Program)
  /-- Reads a field by name; there is no answer when no such field exists. -/
  | getField (target : ObjectRef) (name : String) (next : Option Value → Program)
  /-- Writes a field by name, as far as the type of the field accepts the value. -/
  | setField (target : ObjectRef) (name : String) (value : Value)
      (next : Except Exception Unit → Program)
  /-- Reads the field that the named class declares. -/
  | readSlot (target : ObjectRef) (owner name : String) (next : Option Value → Program)
  /-- Writes the field that the named class declares, whatever its type; the answer is whether
  there is such a field. -/
  | writeSlot (target : ObjectRef) (owner name : String) (value : Value) (next : Bool → Program)
  /-- Binds a handler; the answer is whether none was bound before. -/
  | bindHandler (target : ObjectRef) (handler : ObjectRef → String → List Value → Program)
      (next : Bool → Program)
  /-- Allocates an instance without running a constructor. -/
  | allocate (cls : Class) (next : ObjectRef → Program)
  /-- Runs the constructors of the superclasses of the target, then the given one. -/
  | initialise (target : ObjectRef) (constructor : Constructor) (args : List Value)
      (next : Except Exception Unit → Program)
  | invoke (target : ObjectRef) (method : String) (args : List Value)
      (next : Except Exception Value → Program)

/-- What runs for a call to a proxy: it is given the proxy, the name of the method and the
arguments. -/
abbrev Handler := ObjectRef → String → List Value → Program

/-- What runs under a label: it is given the receiver and the arguments. -/
abbrev Routine := ObjectRef → List Value → Program

abbrev Linkage := Label → Routine

end Metaobject
