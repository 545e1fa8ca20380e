import Metaobject.Arguments
import Metaobject.Heap.Basic

/-!
# Running bodies

A program runs on the heap. What it does before it fails stays done. A program may call methods and
constructors, and through them itself, so runs are limited in depth: `tooDeep` says that the limit
was reached, and, other than an exception, no program can catch it.

`perform` is dispatch and initialisation. A call goes to the first method with a body that accepts
the arguments, on the superclass chain from the class of the receiver upwards. An object is
initialised by the constructors without parameters of its superclasses, the root first, and then by
the constructor that was asked for.
-/

namespace Metaobject

/-- Why a run ends without a value. -/
inductive Halt where
  | threw (exception : Exception)
  | tooDeep
deriving DecidableEq

abbrev Act := ExceptT Halt (StateM Heap)

namespace Act

def ofExcept {α : Type} : Except Exception α → Act α
  | .ok a => pure a
  | .error e => throw (.threw e)

def attempt {α : Type} (x : Act α) : Act (Except Exception α) :=
  ExceptT.mk do
    match ← x.run with
    | .ok a => pure (.ok (.ok a))
    | .error (.threw e) => pure (.ok (.error e))
    | .error .tooDeep => pure (.error .tooDeep)

end Act

namespace Class

/-- The method that a call runs, with its body: of the methods that accept the arguments, nearest
class first and in the order declared, the first that is not abstract. -/
def selectMethod? (c : Class) (name : String) (args : List Value) : Option (Method × MethodBody) :=
  c.ancestors.findSome? fun d => d.methods.findSome? fun m =>
    if m.accepts name args then m.body.map fun b => (m, b) else none

/-- Whether the class declares a method that accepts the arguments. -/
def declaresFor (name : String) (args : List Value) (c : Class) : Bool :=
  c.methods.any fun m => m.accepts name args

/-- The exception for a call that no body answers: the method is abstract when some class of the
chain or some interface declares it. -/
def unanswered (c : Class) (name : String) (args : List Value) : Exception :=
  if c.ancestors.any (declaresFor name args) || c.allInterfaces.any (declaresFor name args) then
    .abstractMethod s!"{c.name}.{name}"
  else .noSuchMethod s!"{c.name}.{name}/{args.length}"

/-- The superclasses, the root first. -/
def superclassesFromRoot (c : Class) : List Class := c.ancestors.tail.reverse

end Class

/-- What a body asks for that runs other bodies. -/
inductive Request where
  | invoke (target : ObjectRef) (method : String) (args : List Value)
  | initialise (target : ObjectRef) (constructor : Constructor) (args : List Value)

namespace Program

/-- Runs a program; `perform` answers its requests. -/
def run (perform : Request → Act Value) : Program → Act Value
  | .done v => pure v
  | .raise e => throw (.threw e)
  | .record text next => do
      modify fun h => h.record text
      next.run perform
  | .getField o name next => do
      let v ← modifyGet fun h => (h.getField o name, h)
      (next v).run perform
  | .setField o name v next => do
      let answer ← modifyGet fun h => match h.setField o name v with
        | .ok h => (.ok (), h)
        | .error e => (.error e, h)
      (next answer).run perform
  | .readSlot o owner name next => do
      let v ← modifyGet fun h => (h.readSlot o ⟨owner, name⟩, h)
      (next v).run perform
  | .writeSlot o owner name v next => do
      let found ← modifyGet fun h => match h.writeSlot o ⟨owner, name⟩ v with
        | some h => (true, h)
        | none => (false, h)
      (next found).run perform
  | .bindHandler o handler next => do
      let bound ← modifyGet fun h => match h.bindHandler o handler with
        | .ok h => (true, h)
        | .error _ => (false, h)
      (next bound).run perform
  | .allocate c next => do
      let o ← modifyGet fun h => h.allocate c
      (next o).run perform
  | .initialise o k args next => do
      let answer ← (perform (.initialise o k args)).attempt
      (next (answer.map fun _ => ())).run perform
  | .invoke o method args next => do
      let answer ← (perform (.invoke o method args)).attempt
      (next answer).run perform

end Program

variable (link : Linkage)

def runBody (perform : Request → Act Value) (m : Method) (body : MethodBody) (this : ObjectRef)
    (args : List Value) : Act Value :=
  match body with
  | .linked label => (link label this args).run perform
  | .sameObject => pure (.boolean ((args.head?.bind Value.object?).any fun o => o.same this))
  | .identityHash => pure (.int this.identityHash)
  | .identityText => pure (.str this.identityText)
  | .forward => do
      Act.ofExcept (TypeRef.checkForwarded m.params args)
      match (← get).handler? this with
      | none => throw (.threw (.illegalState s!"代理实例未绑定拦截处理器: {this.cls.name}"))
      | some handler => do
          let result ← (handler this m.name args).run perform
          Act.ofExcept (m.returnType.convertResult result)

def runConstructor (perform : Request → Act Value) (this : ObjectRef) (k : Constructor)
    (args : List Value) : Act Unit :=
  match k.body with
  | none => pure ()
  | some label => discard ((link label this args).run perform)

/-- Runs the constructor without parameters of a superclass. -/
def runDefaultConstructor (perform : Request → Act Value) (this : ObjectRef) (c : Class) :
    Act Unit :=
  match c.noArgConstructor? with
  | some k => runConstructor link perform this k []
  | none => throw (.threw (.noSuchMethod s!"{c.name}.<init>()"))

/-- Answers a request; `perform` answers the requests of the bodies that run for it. -/
def performWith (perform : Request → Act Value) : Request → Act Value
  | .invoke o method args =>
      match o.cls.selectMethod? method args with
      | some (m, body) => runBody link perform m body o args
      | none => throw (.threw (o.cls.unanswered method args))
  | .initialise o k args => do
      o.cls.superclassesFromRoot.forM (runDefaultConstructor link perform o)
      runConstructor link perform o k args
      pure .null

/-- Answers a request. Bodies that run for it may make requests themselves, down to the given
depth. -/
def perform : Nat → Request → Act Value
  | 0 => performWith link fun _ => throw .tooDeep
  | depth + 1 => performWith link (perform depth)

def invoke (depth : Nat) (o : ObjectRef) (method : String) (args : List Value) : Act Value :=
  perform link depth (.invoke o method args)

/-- Runs the constructors of the superclasses of an object, the root first, then the given one. -/
def initialise (depth : Nat) (o : ObjectRef) (k : Constructor) (args : List Value) : Act Unit :=
  discard (perform link depth (.initialise o k args))

/-- Allocates an instance and initialises it. The arguments are not checked. -/
def construct (depth : Nat) (c : Class) (k : Constructor) (args : List Value) : Act ObjectRef := do
  let o ← modifyGet fun h => h.allocate c
  initialise link depth o k args
  pure o

def runRoutine (depth : Nat) (label : Label) (this : ObjectRef) (args : List Value) : Act Value :=
  (link label this args).run (perform link depth)

end Metaobject
