import Metaobject.Class.Basic

/-!
# Superclasses and interfaces

A class inherits from its superclass chain and from the interfaces that the classes of the chain
name, directly or through other interfaces. Both are finite, because a class contains all that it
inherits from.
-/

namespace Metaobject

namespace Class

/-- The class itself, then its superclasses, nearest first. -/
def ancestors : Class → List Class
  | .mk decl none interfaces => [.mk decl none interfaces]
  | .mk decl (some superclass) interfaces =>
      .mk decl (some superclass) interfaces :: superclass.ancestors

mutual

/-- Whether the class, one of its superclasses or one of the interfaces they implement has the
given name. -/
def isSubtypeOf (name : String) : Class → Bool
  | .mk decl superclass interfaces =>
      decl.name == name || anySubtypeOf name interfaces ||
        match superclass with
        | none => false
        | some c => c.isSubtypeOf name

/-- Whether one of the classes is a subtype of the given name. -/
def anySubtypeOf (name : String) : List Class → Bool
  | [] => false
  | c :: cs => c.isSubtypeOf name || anySubtypeOf name cs

end

mutual

/-- Adds the interfaces of the class and of its superclasses to those found so far. -/
def collectInterfaces : Class → List Class → List Class
  | .mk _ superclass interfaces, found =>
      match superclass with
      | none => collectEach interfaces found
      | some c => c.collectInterfaces (collectEach interfaces found)

/-- Adds interfaces, each followed by its own; one whose name has been found is left out together
with all that it leads to. -/
def collectEach : List Class → List Class → List Class
  | [], found => found
  | c :: cs, found =>
      if found.any fun d => d.name == c.name then collectEach cs found
      else collectEach cs (c.collectInterfaces (found ++ [c]))

end

/-- All interfaces that the class implements, each name once, in the order in which they are
declared: an interface comes before those it extends, and the interfaces of a class before those of
its superclass. -/
def allInterfaces (c : Class) : List Class := c.collectInterfaces []

def belowRoot (c : Class) : List Class := c.ancestors.takeWhile fun d => !d.isRoot

end Class

end Metaobject
