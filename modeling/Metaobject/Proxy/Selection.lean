import Metaobject.Class.Hierarchy
import Metaobject.Failure
import Metaobject.Text.Blank

/-!
# Which methods a proxy class intercepts

A proxy class intercepts the methods of its interfaces and the public methods of its superclass, a
signature once. It leaves alone what a class of the superclass chain declares final or synthetic,
and what the root declares, even where an interface declares the same signature.
-/

namespace Metaobject

/-- The methods to intercept, of those given in order; `seen` holds methods whose signatures are
excluded or already taken. -/
def selectUnseen (seen : List Method) : List Method → List Method
  | [] => []
  | m :: ms =>
      if m.isSynthetic || m.isFinal || seen.any (fun n => n.sameSignature m) then
        selectUnseen seen ms
      else m :: selectUnseen (m :: seen) ms

namespace Class

def interfaceTypes (interfaces : List Class) : List Class :=
  interfaces.flatMap fun i => i :: i.allInterfaces

/-- The methods that the classes of the chain below the root declare. -/
def chainMethods (c : Class) : List Method := c.belowRoot.flatMap Class.methods

/-- The methods that could be intercepted, those of the interfaces first. -/
def interceptionCandidates (superclass : Class) (interfaces : List Class) : List Method :=
  (interfaceTypes interfaces).flatMap Class.methods ++
    superclass.chainMethods.filter fun m => m.visibility = .pub

def interceptionBlocked (superclass : Class) : List Method :=
  (superclass.chainMethods.filter fun m => m.isFinal || m.isSynthetic) ++ root.methods

def interceptedMethods (superclass : Class) (interfaces : List Class) : List Method :=
  selectUnseen superclass.interceptionBlocked (superclass.interceptionCandidates interfaces)

end Class

namespace Method

/-- The method of a proxy class that stands for an intercepted one. -/
def forwarding (m : Method) : Method :=
  { m with isFinal := false, isSynthetic := false, body := some .forward }

/-- A method can be intercepted if it has a name and no parameter of type void. -/
def checkInterceptable (className : String) (m : Method) : Except Failure Unit :=
  if Text.isBlank m.name then .error (.compilationFailure className .blankMethodName)
  else if m.params.contains .void then
    .error (.compilationFailure className (.voidParameter m.name m.params))
  else .ok ()

end Method

end Metaobject
