import Metaobject.Primitive

/-!
# Type references

A type reference names the type of a field, a parameter or a result. Built-in types have names of
their own, and every other name refers to a class or an interface. `TypeRef.parse` reads a name and
`TypeRef.text` writes it.
-/

namespace Metaobject

/-- The name of the class at the top of every superclass chain. -/
def rootName : String := "Object"

/-- A reference to a type. -/
inductive TypeRef where
  /-- No value; the result type of a method that answers nothing. -/
  | void
  | primitive (kind : Primitive)
  /-- The wrapper type of a primitive kind. -/
  | boxed (kind : Primitive)
  | string
  /-- A class or an interface, by name. -/
  | named (name : String)
deriving DecidableEq

namespace TypeRef

def root : TypeRef := .named rootName

/-- Reads a type name: the names of the built-in types are reserved, every other text is the name
of a class. -/
def parse (name : String) : TypeRef :=
  if name = "void" then .void
  else if name = "String" then .string
  else match Primitive.ofName? name with
    | some p => .primitive p
    | none => match Primitive.ofWrapperName? name with
      | some p => .boxed p
      | none => .named name

def text : TypeRef → String
  | .void => "void"
  | .primitive p => p.name
  | .boxed p => p.wrapperName
  | .string => "String"
  | .named name => name

def isPrimitive : TypeRef → Bool
  | .primitive _ => true
  | _ => false

def isReference : TypeRef → Bool
  | .boxed _ | .string | .named _ => true
  | _ => false

/-- The root type, by its name. -/
def isRoot : TypeRef → Bool
  | .named name => name == rootName
  | _ => false

/-- A primitive type and its own wrapper type, in either order. -/
def boxingEquivalent : TypeRef → TypeRef → Bool
  | .primitive a, .boxed b => a == b
  | .boxed a, .primitive b => a == b
  | _, _ => false

/-- A parameter list as it is written in signatures, such as `(String, int)`. -/
def paramsText (params : List TypeRef) : String :=
  "(" ++ ", ".intercalate (params.map text) ++ ")"

end TypeRef

end Metaobject
