import Metaobject.TypeRef

/-!
# Classes

A class describes its members and refers to its superclass and to the interfaces it implements.
Class descriptions are plain immutable data: what a body does is not part of them. A body is given
as a label, and a linkage (`Metaobject.Linkage`) says what runs under each label.

Two classes built at different times are different classes, whatever their names: `Class.id` tells
them apart.
-/

namespace Metaobject

/-- Who may use a member. -/
inductive Visibility where
  | pub
  | prot
  | pack
  | priv
deriving DecidableEq

/-- Classes have instances, interfaces only describe what a class offers. -/
inductive ClassKind where
  | ordinary
  | interface
deriving DecidableEq

abbrev Label := Nat

/-- A constructor: it initialises an instance that has already been allocated. -/
structure Constructor where
  params : List TypeRef
  visibility : Visibility
  /-- The routine to run; `none` does nothing. -/
  body : Option Label
  /-- A routine that takes the place of the whole construction, superclasses included, when the
  constructor is used natively. -/
  native : Option Label
deriving DecidableEq

/-- Routines that read and write a field natively. -/
structure Accessor where
  getter : Label
  setter : Label
deriving DecidableEq

/-- An instance field. -/
structure Field where
  name : String
  type : TypeRef
  visibility : Visibility
  isFinal : Bool
  native : Option Accessor
deriving DecidableEq

/-- What a method does when it is called. -/
inductive MethodBody where
  /-- Runs the routine linked under the label. -/
  | linked (label : Label)
  /-- Answers whether the first argument is the receiver. -/
  | sameObject
  /-- Answers the identity hash of the receiver. -/
  | identityHash
  /-- Answers the class name and the identity hash of the receiver. -/
  | identityText
  /-- Hands the call to the handler bound to the receiver. -/
  | forward
deriving DecidableEq

/-- A method; without a body it is abstract. -/
structure Method where
  name : String
  params : List TypeRef
  returnType : TypeRef
  visibility : Visibility
  isFinal : Bool
  isSynthetic : Bool
  /-- Names of the exceptions that the method declares. -/
  exceptions : List String
  body : Option MethodBody
deriving DecidableEq

/-- What a class declares itself. -/
structure Declaration where
  /-- Tells classes built at different times apart. -/
  id : Nat
  name : String
  kind : ClassKind
  constructors : List Constructor
  fields : List Field
  methods : List Method
  /-- Typed handles may bind members of the class that are not public. -/
  openToHandles : Bool
  synthetic : Bool
deriving DecidableEq

/-- A class or an interface, with all that it inherits from. -/
inductive Class where
  | mk (decl : Declaration) (superclass : Option Class) (interfaces : List Class)

namespace Constructor

/-- A public constructor without parameters that does nothing. -/
def implicit : Constructor := ⟨[], .pub, none, none⟩

def signature (k : Constructor) : String := TypeRef.paramsText k.params

end Constructor

namespace Method

def isAbstract (m : Method) : Bool := m.body.isNone

/-- Same name and same parameter list; such methods override each other. -/
def sameSignature (m n : Method) : Bool := m.name == n.name && m.params == n.params

def signature (m : Method) : String := m.name ++ TypeRef.paramsText m.params

end Method

namespace Class

def decl : Class → Declaration
  | .mk decl _ _ => decl

/-- The direct superclass; the root and interfaces have none. -/
def superclass : Class → Option Class
  | .mk _ superclass _ => superclass

/-- The interfaces that the class names itself, in order. -/
def interfaces : Class → List Class
  | .mk _ _ interfaces => interfaces

def id (c : Class) : Nat := c.decl.id

def name (c : Class) : String := c.decl.name

/-- Whether the class is an ordinary class or an interface. -/
def kind (c : Class) : ClassKind := c.decl.kind

def constructors (c : Class) : List Constructor := c.decl.constructors

def fields (c : Class) : List Field := c.decl.fields

def methods (c : Class) : List Method := c.decl.methods

/-- Whether typed handles may bind members that are not public. -/
def openToHandles (c : Class) : Bool := c.decl.openToHandles

def isSynthetic (c : Class) : Bool := c.decl.synthetic

def isInterface (c : Class) : Bool := c.kind == .interface

def same (c d : Class) : Bool := c.id == d.id

/-- The name without its namespace: what follows the last dot. -/
def simpleName (c : Class) : String :=
  String.ofList (c.name.toList.reverse.takeWhile (· ≠ '.')).reverse

/-- An ordinary class with the root's name and no superclass. -/
def isRoot (c : Class) : Bool :=
  c.name == rootName && c.superclass.isNone && c.kind == .ordinary

def noArgConstructor? (c : Class) : Option Constructor :=
  c.constructors.find? fun k => k.params.isEmpty

/-- The root class. It has one constructor, no fields, and the three methods that every object
answers. -/
def root : Class :=
  .mk
    { id := 0
      name := rootName
      kind := .ordinary
      constructors := [.implicit]
      fields := []
      methods :=
        [ { name := "equals", params := [.root], returnType := .primitive .boolean,
            visibility := .pub, isFinal := false, isSynthetic := false, exceptions := [],
            body := some .sameObject },
          { name := "hashCode", params := [], returnType := .primitive .int,
            visibility := .pub, isFinal := false, isSynthetic := false, exceptions := [],
            body := some .identityHash },
          { name := "toString", params := [], returnType := .string,
            visibility := .pub, isFinal := false, isSynthetic := false, exceptions := [],
            body := some .identityText } ]
      openToHandles := true
      synthetic := false }
    none []

end Class

end Metaobject
