import Metaobject.Cells
import Metaobject.Class.Build
import Metaobject.Proxy.Dump
import Metaobject.Proxy.Selection
import Metaobject.Registry

/-!
# Making proxy classes

A proxy compiler makes the proxy class for a request and defines it in its registry. It makes each
name once: a later request for the same name gets the class that was made before. Requests without
a name share a class when they have the same shape, which is the names of the superclass and of the
interfaces and the way of construction; the class of a new shape gets the next free name.

When a class cannot be made, nothing remains of the attempt but the numbers that were used up.
-/

namespace Metaobject

/-- By what requests without a name are told apart. -/
structure ProxyShape where
  superclass : String
  interfaces : List String
  callSuper : Bool
deriving DecidableEq

def ProxyRequest.shape (q : ProxyRequest) : ProxyShape :=
  ⟨q.base.name, q.interfaces.map Class.name, q.callSuper⟩

/-- A proxy compiler. -/
structure ProxyCompiler where
  /-- What generated names begin with. -/
  space : String
  /-- Where descriptions of the classes made are written, if anywhere. -/
  dumpDir : Option String
  /-- The number for the next generated name. -/
  sequence : Nat
  /-- The classes made, by name. -/
  classes : Cells String ProxyClass
  /-- The names that were given to shapes. -/
  shapes : List (ProxyShape × String)

/-- All that making a proxy class may change. -/
structure Workshop where
  compiler : ProxyCompiler
  registry : Registry
  files : DumpFiles

/-- The least number from `i` on that is not taken, if at most `fuel` numbers are. -/
def leastFree (taken : Nat → Bool) : Nat → Nat → Nat
  | 0, i => i
  | fuel + 1, i => if taken i then leastFree taken fuel (i + 1) else i

namespace ProxyCompiler

def initial (space : String) (dumpDir : Option String) : ProxyCompiler :=
  ⟨space, dumpDir, 0, .empty, []⟩

def get? (pc : ProxyCompiler) (name : String) : Option ProxyClass := pc.classes.get? name

def size (pc : ProxyCompiler) : Nat := pc.classes.filled

def numbered (pc : ProxyCompiler) (base : String) (i : Nat) : String :=
  s!"{pc.space}.{base}$Proxy${i}"

/-- Whether a name is in use, in the registry or for a class that is being made. -/
def isTaken (pc : ProxyCompiler) (registry : Registry) (name : String) : Bool :=
  pc.classes.contains name || registry.contains name

/-- What the generated name of a class is made from: the first interface, if it extends the root,
else the superclass. -/
def baseName (q : ProxyRequest) : String :=
  match q.interfaces.head? with
  | some i => if q.base.isRoot then i.simpleName else q.base.simpleName
  | none => q.base.simpleName

def nextNumber (pc : ProxyCompiler) (registry : Registry) (base : String) : Nat :=
  leastFree (fun i => pc.isTaken registry (pc.numbered base i))
    (pc.classes.size + registry.size) pc.sequence

/-- The name for a request. A request without a name whose shape is new uses up numbers, and its
name is noted. -/
def assignName (pc : ProxyCompiler) (registry : Registry) (q : ProxyRequest) :
    Logged (String × ProxyCompiler) :=
  match q.name with
  | some name => pure (name, pc)
  | none =>
      match pc.shapes.lookup q.shape with
      | some name => pure (name, pc)
      | none => do
          let base := baseName q
          let i := pc.nextNumber registry base
          (List.range' pc.sequence (i - pc.sequence)).forM fun j =>
            Logged.report .debug s!"代理类名已被占用，跳过: {pc.numbered base j}"
          let name := pc.numbered base i
          return (name,
            { pc with sequence := i + 1, shapes := pc.shapes ++ [(q.shape, name)] })

/-- Takes back what was noted for the name of a class that could not be made. -/
def release (pc : ProxyCompiler) (q : ProxyRequest) (name : String) : ProxyCompiler :=
  { pc with
    classes := pc.classes.dropEmpty name
    shapes := match q.name with
      | some _ => pc.shapes
      | none => pc.shapes.filter fun e => !(e.1 == q.shape && e.2 == name) }

def classSpec (q : ProxyRequest) (name : String) (methods : List Method) : ClassSpec where
  name := name
  kind := .ordinary
  superclass := some q.base
  interfaces := q.interfaces
  constructors := [.implicit]
  fields := []
  methods := methods.map Method.forwarding
  openToHandles := true
  synthetic := true

def asCompilation (name : String) : Failure → Failure
  | .invalidMetadata _ cause => .compilationFailure name (.defect cause)
  | e => e

/-- The class for a request, before it is defined. -/
def buildClass (q : ProxyRequest) (name : String) (id : Nat) :
    Except Failure (Class × List Method) := do
  if !(q.base.noArgConstructor?.any fun k => k.visibility ≠ .priv) then
    throw (.compilationFailure name (.superclassConstructor q.base.name))
  let methods := q.base.interceptedMethods q.interfaces
  methods.forM (Method.checkInterceptable name)
  match (classSpec q name methods).build id with
  | .ok c => return (c, methods)
  | .error e => throw (asCompilation name e)

def generate (dumpDir : Option String) (registry : Registry) (files : DumpFiles) (serial : Nat)
    (q : ProxyRequest) (name : String) : Attempt (ProxyClass × Registry × DumpFiles) := do
  report .debug s!"生成代理类: {name} (父类 {q.base.name})"
  let (c, methods) ← ExceptT.mk (pure (buildClass q name serial))
  let registry ← registry.define c
  let proxy : ProxyClass := ⟨serial, c, q, methods.map Method.signature⟩
  let files ← match dumpDir with
    | some dir => ExceptT.lift (ClassDump.write dir proxy files)
    | none => pure files
  report .info s!"代理类生成完成: {name}, 拦截方法数: {proxy.intercepted.length}"
  return (proxy, registry, files)

end ProxyCompiler

namespace Workshop

/-- A request must extend a class and implement interfaces. -/
def checkRequest (q : ProxyRequest) : Except Failure Unit :=
  if q.base.isInterface then .error (.invalidSuperclass q.base.name)
  else match q.interfaces.find? fun i => !i.isInterface with
    | some i => .error (.compilationFailure i.name .targetNotInterface)
    | none => .ok ()

/-- The proxy class for a request, made now or before. The serial number is that of a class that
is made now. -/
def compile (w : Workshop) (serial : Nat) (q : ProxyRequest) :
    Logged (Except Failure ProxyClass × Workshop) :=
  match checkRequest q with
  | .error e => pure (.error e, w)
  | .ok _ => do
      let (name, pc) ← w.compiler.assignName w.registry q
      match pc.classes.get? name with
      | some proxy => return (.ok proxy, { w with compiler := pc })
      | none =>
          let pc := { pc with classes := pc.classes.make name }
          match ← (ProxyCompiler.generate pc.dumpDir w.registry w.files serial q name).run with
          | .ok (proxy, registry, files) =>
              return (.ok proxy,
                ⟨{ pc with classes := pc.classes.fill name proxy }, registry, files⟩)
          | .error e => return (.error e, { w with compiler := pc.release q name })

end Workshop

end Metaobject
