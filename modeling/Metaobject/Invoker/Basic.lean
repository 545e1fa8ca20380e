import Metaobject.Execution
import Metaobject.Log.Event

/-!
# Invokers

An invoker constructs instances of a class, or reads and writes a field. There is one kind for each
tier. All of them check before they act: a constructor invoker its arguments, a field invoker the
object first and then the value.
-/

namespace Metaobject

/-- An operation on the heap that reports what it does and may fail. -/
abbrev HeapAttempt := ExceptT Failure (StateT Heap Logged)

namespace HeapAttempt

/-- Runs a body; its exception is the failure. -/
def ofAct {α : Type} (x : Act α) : HeapAttempt α :=
  ExceptT.mk fun h =>
    match x.run.run h with
    | (.ok a, h) => pure (.ok a, h)
    | (.error (.threw e), h) => pure (.error (.invocation e), h)
    | (.error .tooDeep, h) => pure (.error .tooDeep, h)

def ofExcept {α : Type} : Except Failure α → HeapAttempt α
  | .ok a => pure a
  | .error e => throw e

def ofAttempt {α : Type} (x : Attempt α) : HeapAttempt α :=
  ExceptT.mk fun h => x.run >>= fun r => pure (r, h)

def report (level : Level) (text : String) : HeapAttempt Unit :=
  ofAttempt (Metaobject.report level text)

end HeapAttempt

/-- Constructs instances of a class. -/
inductive ConstructorInvoker where
  /-- Runs the native entry of a constructor on a new instance. -/
  | native (owner : Class) (params : List TypeRef) (entry : Label)
  | handle (owner : Class) (constructor : Constructor)
  /-- Looks the constructor up by its parameters at each use. -/
  | reflective (owner : Class) (params : List TypeRef)

namespace ConstructorInvoker

def tier : ConstructorInvoker → Tier
  | .native .. => .native
  | .handle .. => .typedHandle
  | .reflective .. => .reflective

def owner : ConstructorInvoker → Class
  | .native owner _ _ => owner
  | .handle owner _ => owner
  | .reflective owner _ => owner

def params : ConstructorInvoker → List TypeRef
  | .native _ params _ => params
  | .handle _ constructor => constructor.params
  | .reflective _ params => params

def construct (link : Linkage) (depth : Nat) (args : List Value) :
    ConstructorInvoker → HeapAttempt ObjectRef
  | .native owner params entry => do
      HeapAttempt.ofExcept (TypeRef.checkArguments params args)
      HeapAttempt.ofAct do
        let o ← modifyGet fun h => h.allocate owner
        discard (runRoutine link depth entry o args)
        pure o
  | .handle owner k => do
      HeapAttempt.ofExcept (TypeRef.checkArguments k.params args)
      HeapAttempt.ofAct (Metaobject.construct link depth owner k args)
  | .reflective owner params =>
      match owner.constructors.find? fun k => k.params == params with
      | none => throw (.memberNotFound owner.name "<init>")
      | some k => do
          HeapAttempt.report .trace s!"反射调用构造器: {owner.name}.<init>{k.signature}"
          HeapAttempt.ofExcept (TypeRef.checkArguments k.params args)
          HeapAttempt.ofAct (Metaobject.construct link depth owner k args)

end ConstructorInvoker

/-- Reads and writes a field. -/
inductive FieldInvoker where
  /-- Runs the native accessor of a field. -/
  | native (declaring : Class) (name : String) (type : TypeRef) (accessor : Accessor)
  | handle (declaring : Class) (slot : Slot) (type : TypeRef)
  /-- Looks the declaring class up, from the class asked upwards, at each use. -/
  | reflective (owner : Class) (name : String) (type : TypeRef)

namespace FieldInvoker

def tier : FieldInvoker → Tier
  | .native .. => .native
  | .handle .. => .typedHandle
  | .reflective .. => .reflective

def name : FieldInvoker → String
  | .native _ name _ _ => name
  | .handle _ slot _ => slot.name
  | .reflective _ name _ => name

def type : FieldInvoker → TypeRef
  | .native _ _ type _ => type
  | .handle _ _ type => type
  | .reflective _ _ type => type

/-- The slot that a reflective invoker uses on an object. -/
def lookup (owner : Class) (name : String) (target : ObjectRef) : HeapAttempt Slot :=
  match owner.belowRoot.find? fun c => c.fields.any fun f => f.name == name with
  | none => throw (.memberNotFound owner.name name)
  | some declaring => do
      HeapAttempt.ofExcept (declaring.checkTarget target)
      HeapAttempt.report .trace s!"反射访问字段: {declaring.name}.{name}"
      pure ⟨declaring.name, name⟩

def readSlot (target : ObjectRef) (slot : Slot) : HeapAttempt Value := do
  match (← get).readSlot target slot with
  | some v => pure v
  | none => throw (.memberNotFound target.cls.name slot.name)

def writeSlot (target : ObjectRef) (slot : Slot) (v : Value) : HeapAttempt Unit := do
  match (← get).writeSlot target slot v with
  | some h => set h
  | none => throw (.memberNotFound target.cls.name slot.name)

/-- Runs an accessor. An accessor cannot fail: without a value it answers null. -/
def runAccessor (link : Linkage) (depth : Nat) (label : Label) (target : ObjectRef)
    (args : List Value) : HeapAttempt Value :=
  HeapAttempt.ofAct do
    match ← (runRoutine link depth label target args).attempt with
    | .ok v => pure v
    | .error _ => pure .null

def get (link : Linkage) (depth : Nat) (target : ObjectRef) : FieldInvoker → HeapAttempt Value
  | .native declaring _ _ accessor => do
      HeapAttempt.ofExcept (declaring.checkTarget target)
      runAccessor link depth accessor.getter target []
  | .handle declaring slot _ => do
      HeapAttempt.ofExcept (declaring.checkTarget target)
      readSlot target slot
  | .reflective owner name _ => do
      let slot ← lookup owner name target
      readSlot target slot

def set (link : Linkage) (depth : Nat) (target : ObjectRef) (v : Value) :
    FieldInvoker → HeapAttempt Unit
  | .native declaring _ type accessor => do
      HeapAttempt.ofExcept (declaring.checkTarget target)
      HeapAttempt.ofExcept (type.check 1 v)
      discard (runAccessor link depth accessor.setter target [v])
  | .handle declaring slot type => do
      HeapAttempt.ofExcept (declaring.checkTarget target)
      HeapAttempt.ofExcept (type.check 1 v)
      writeSlot target slot v
  | .reflective owner name type => do
      let slot ← lookup owner name target
      HeapAttempt.ofExcept (type.check 1 v)
      writeSlot target slot v

end FieldInvoker

/-- An invoker that has been made. The serial number tells invokers made at different times
apart. -/
inductive CompiledInvoker where
  | constructor (serial : Nat) (invoker : ConstructorInvoker)
  | field (serial : Nat) (invoker : FieldInvoker)

namespace CompiledInvoker

def tier : CompiledInvoker → Tier
  | .constructor _ invoker => invoker.tier
  | .field _ invoker => invoker.tier

/-- The invoker of a constructor, with its serial number. -/
def constructor? : CompiledInvoker → Option (Nat × ConstructorInvoker)
  | .constructor serial invoker => some (serial, invoker)
  | .field .. => none

/-- The invoker of a field, with its serial number. -/
def field? : CompiledInvoker → Option (Nat × FieldInvoker)
  | .constructor .. => none
  | .field serial invoker => some (serial, invoker)

/-- Whether two invokers were made at the same time, and so are the same. -/
def sameArtifact : CompiledInvoker → CompiledInvoker → Bool
  | .constructor a _, .constructor b _ => a == b
  | .field a _, .field b _ => a == b
  | _, _ => false

def text : CompiledInvoker → String
  | .constructor _ invoker =>
      s!"ConstructorInvoker({invoker.owner.name}{TypeRef.paramsText invoker.params}, " ++
        invoker.tier.text ++ ")"
  | .field _ invoker => s!"FieldInvoker({invoker.name}, {invoker.tier.text})"

end CompiledInvoker

end Metaobject
