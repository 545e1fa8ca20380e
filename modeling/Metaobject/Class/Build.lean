import Metaobject.Class.Hierarchy
import Metaobject.Failure
import Metaobject.Text.Blank

/-!
# Building classes

A class is built from a specification, which is checked first. An ordinary class without a named
superclass extends the root, and one that declares no constructor gets the implicit one. The first
defect found is reported: the name, then the interfaces, then what the kind of class forbids, then
repeated constructors and repeated fields.
-/

namespace Metaobject

/-- What a class is to be built from. -/
structure ClassSpec where
  name : String
  kind : ClassKind
  superclass : Option Class
  interfaces : List Class
  constructors : List Constructor
  fields : List Field
  methods : List Method
  openToHandles : Bool
  synthetic : Bool

/-- The first element that equals an earlier one, where some earlier ones are already given. -/
def firstRepeated? {α : Type} [BEq α] (earlier : List α) : List α → Option α
  | [] => none
  | x :: xs => if earlier.contains x then some x else firstRepeated? (x :: earlier) xs

namespace ClassSpec

def named (name : String) (kind : ClassKind) : ClassSpec :=
  ⟨name, kind, none, [], [], [], [], false, false⟩

def parent (spec : ClassSpec) : Option Class :=
  match spec.kind with
  | .interface => none
  | .ordinary => some (spec.superclass.getD Class.root)

def declared (spec : ClassSpec) : List Constructor :=
  if spec.kind = .ordinary ∧ spec.constructors = [] then [.implicit] else spec.constructors

def defective {α : Type} (spec : ClassSpec) (defect : ClassDefect) : Except Failure α :=
  .error (.invalidMetadata spec.name defect)

def checkName (spec : ClassSpec) : Except Failure Unit :=
  if Text.isBlank spec.name then spec.defective .blankName else .ok ()

def checkInterfaces (spec : ClassSpec) : Except Failure Unit :=
  match spec.interfaces.find? fun i => !i.isInterface with
  | some i => spec.defective (.notInterface i.name)
  | none => .ok ()

/-- An interface has no superclass, no constructors and no fields; the superclass of a class is a
class with a constructor without parameters. -/
def checkKind (spec : ClassSpec) : Except Failure Unit :=
  match spec.kind with
  | .interface =>
      if spec.superclass.isSome then spec.defective .interfaceExtends
      else if !spec.constructors.isEmpty || !spec.fields.isEmpty then
        spec.defective .interfaceMembers
      else .ok ()
  | .ordinary =>
      let superclass := spec.superclass.getD Class.root
      if superclass.isInterface then .error (.invalidSuperclass superclass.name)
      else if superclass.noArgConstructor?.isNone then
        spec.defective (.noDefaultConstructor superclass.name)
      else .ok ()

/-- No two constructors have the same parameters, and no two fields the same name. -/
def checkMembers (spec : ClassSpec) : Except Failure Unit :=
  match firstRepeated? [] (spec.declared.map Constructor.params) with
  | some params => spec.defective (.repeatedConstructor params)
  | none =>
      match firstRepeated? [] (spec.fields.map Field.name) with
      | some name => spec.defective (.repeatedField name)
      | none => .ok ()

/-- Builds a class; `id` is the identity that it gets. -/
def build (spec : ClassSpec) (id : Nat) : Except Failure Class := do
  spec.checkName
  spec.checkInterfaces
  spec.checkKind
  spec.checkMembers
  return .mk
    { id := id
      name := spec.name
      kind := spec.kind
      constructors := spec.declared
      fields := spec.fields
      methods := spec.methods
      openToHandles := spec.openToHandles
      synthetic := spec.synthetic }
    spec.parent spec.interfaces

end ClassSpec

end Metaobject
