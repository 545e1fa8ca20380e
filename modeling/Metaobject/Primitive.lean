/-!
# Primitive kinds

The eight primitive kinds of the object model. Each has two names: its own, written for an unboxed
value, and the name of its wrapper type, written for a boxed one.
-/

namespace Metaobject

/-- A primitive kind. -/
inductive Primitive where
  | boolean
  | byte
  | short
  | char
  | int
  | long
  | float
  | double
deriving DecidableEq

namespace Primitive

def all : List Primitive :=
  [.boolean, .byte, .short, .char, .int, .long, .float, .double]

def name : Primitive → String
  | .boolean => "boolean"
  | .byte => "byte"
  | .short => "short"
  | .char => "char"
  | .int => "int"
  | .long => "long"
  | .float => "float"
  | .double => "double"

def wrapperName : Primitive → String
  | .boolean => "Boolean"
  | .byte => "Byte"
  | .short => "Short"
  | .char => "Character"
  | .int => "Integer"
  | .long => "Long"
  | .float => "Float"
  | .double => "Double"

def ofName? (name : String) : Option Primitive :=
  all.find? fun p => p.name == name

def ofWrapperName? (name : String) : Option Primitive :=
  all.find? fun p => p.wrapperName == name

theorem mem_all (p : Primitive) : p ∈ all := by
  cases p <;> decide

@[simp] theorem ofName?_name (p : Primitive) : ofName? p.name = some p := by
  cases p <;> decide

@[simp] theorem ofWrapperName?_wrapperName (p : Primitive) :
    ofWrapperName? p.wrapperName = some p := by
  cases p <;> decide

theorem name_of_ofName? {s : String} {p : Primitive} (h : ofName? s = some p) : p.name = s := by
  simpa using List.find?_some h

theorem wrapperName_of_ofWrapperName? {s : String} {p : Primitive}
    (h : ofWrapperName? s = some p) : p.wrapperName = s := by
  simpa using List.find?_some h

end Primitive

end Metaobject
