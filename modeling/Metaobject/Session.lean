import Metaobject.Class.Build
import Metaobject.Config.Layers
import Metaobject.Reflector
import Metaobject.Script

/-!
# Sessions

A session holds what operations share: the objects, the linked routines, the registries, caches,
proxy compilers and reflectors that have been made, and the files. Registries, caches, proxy
compilers and reflectors are referred to by numbers, in the order in which they were made. Number
zero of each kind but proxy compilers is there from the start.
-/

namespace Metaobject

/-- A reflector with the numbers of the registries and of the cache that it uses: it defines classes
in `registry` and looks types up in `resolver`. -/
structure ReflectorEntry where
  reflector : Reflector
  registry : Nat
  resolver : Nat
  cache : Nat

/-- All that operations share. -/
structure Session where
  routines : Array Routine
  heap : Heap
  registries : List Registry
  caches : List Cache
  /-- Proxy compilers, each with the number of its registry. -/
  compilers : List (ProxyCompiler × Nat)
  reflectors : List ReflectorEntry
  files : DumpFiles
  /-- The number for the next thing that must be told apart from others. -/
  nextSerial : Nat

abbrev SessionOp := ExceptT Failure (StateT Session Logged)

namespace Session

def depth : Nat := 10000

def directory : String := "<tmp>"

/-- A session with one reflector that is not configured. -/
def initial : Session where
  routines := #[]
  heap := .empty
  registries := [.initial]
  caches := [.empty]
  compilers := []
  reflectors := [⟨(Reflector.create .standard none none).value, 0, 0, 0⟩]
  files := ⟨[([directory], .directory)]⟩
  nextSerial := 1

/-- The routines that labels stand for; one that was never linked answers null. -/
def link (s : Session) : Linkage := fun label => s.routines.getD label fun _ _ => .done .null

def registry (s : Session) (i : Nat) : Registry := s.registries.getD i .initial

def cache (s : Session) (i : Nat) : Cache := s.caches.getD i .empty

/-- The proxy compiler with a number, and the number of its registry. -/
def compiler (s : Session) (i : Nat) : ProxyCompiler × Nat :=
  s.compilers.getD i (.ofSettings .standard, 0)

def reflector (s : Session) (i : Nat) : ReflectorEntry :=
  s.reflectors.getD i ⟨(Reflector.create .standard none none).value, 0, 0, 0⟩

def linkRoutine (s : Session) (r : Routine) : Label × Session :=
  (s.routines.size, { s with routines := s.routines.push r })

/-- Takes the texts that were recorded since they were taken last. -/
def takeRecorded (s : Session) : List String × Session :=
  (s.heap.recorded, { s with heap := { s.heap with recorded := [] } })

end Session

namespace SessionOp

open Session

def fresh : SessionOp Nat :=
  modifyGet fun s => (s.nextSerial, { s with nextSerial := s.nextSerial + 1 })

def ofExcept {α : Type} : Except Failure α → SessionOp α
  | .ok a => pure a
  | .error e => throw e

def ofAttempt {α : Type} (x : Attempt α) : SessionOp α :=
  ExceptT.mk fun s => x.run >>= fun r => pure (r, s)

def ofLogged {α : Type} (x : Logged α) : SessionOp α :=
  ExceptT.mk fun s => x >>= fun a => pure (.ok a, s)

def onHeap {α : Type} (x : Linkage → HeapAttempt α) : SessionOp α :=
  ExceptT.mk fun s => do
    let (r, h) ← (x s.link).run s.heap
    return (r, { s with heap := h })

def execute {α : Type} (x : Linkage → Act α) : SessionOp α :=
  onHeap fun link => HeapAttempt.ofAct (x link)

def build (spec : ClassSpec) : SessionOp Class := do
  let id ← fresh
  ofExcept (spec.build id)

def newRegistry : SessionOp Nat :=
  modifyGet fun s => (s.registries.length, { s with registries := s.registries ++ [.initial] })

def define (registry : Nat) (c : Class) : SessionOp Unit := do
  let r ← ofAttempt (((← get).registry registry).define c)
  modify fun s => { s with registries := s.registries.set registry r }

def newCache : SessionOp Nat :=
  modifyGet fun s => (s.caches.length, { s with caches := s.caches ++ [.empty] })

def compileConstructor (strategies : List Strategy) (m : ConstructorMember) :
    SessionOp (Nat × ConstructorInvoker) := do
  let serial ← fresh
  return (serial, ← ofAttempt (Metaobject.compileConstructor strategies m))

def compileField (strategies : List Strategy) (m : FieldMember) :
    SessionOp (Nat × FieldInvoker) := do
  let serial ← fresh
  return (serial, ← ofAttempt (Metaobject.compileField strategies m))

def onCache {α : Type} (cache : Nat) (x : Cache → Logged (Reply α)) : SessionOp α :=
  ExceptT.mk fun s => do
    let reply ← x (s.cache cache)
    return (reply.answer, { s with caches := s.caches.set cache reply.cache })

/-- The invoker that a cache keeps for a key, or else the one given, or its failure; also whether
that was asked for. -/
def cacheInvoker (cache : Nat) (key : MemberKey) (product : Except Failure CompiledInvoker) :
    SessionOp (Bool × CompiledInvoker) := do
  let made := (((← get).cache cache).get? key).isNone
  return (made, ← onCache cache fun c => c.getOrMake key fun _ => ExceptT.mk (pure product))

def clearCache (cache : Nat) : SessionOp Unit :=
  onCache cache fun c => do return ⟨.ok (), none, ← c.clear⟩

/-- The numbers and lists from which a reflector can be built. -/
structure ReflectorParts where
  settings : Settings
  registry : Option Nat
  cache : Option Nat
  resolver : Option Nat
  strategies : Option (List Strategy)
  allocators : Option (List Allocator)

/-- Adds a reflector that uses the given registries and cache, or new ones. -/
def addReflector (r : Reflector) (parts : ReflectorParts) : SessionOp Nat := do
  let registry ← match parts.registry with
    | some i => pure i
    | none => newRegistry
  let cache ← match parts.cache with
    | some i => pure i
    | none => newCache
  modifyGet fun s =>
    (s.reflectors.length,
      { s with reflectors := s.reflectors ++ [⟨r, registry, parts.resolver.getD registry, cache⟩] })

def createReflector (settings : Settings) : SessionOp Nat := do
  let r ← ofLogged (Reflector.create settings none none)
  addReflector r ⟨settings, none, none, none, none, none⟩

/-- Builds a reflector from its parts. A configuration file takes the place of the settings. -/
def buildReflector (parts : ReflectorParts) (file : Option Config.Source) : SessionOp Nat := do
  let settings ← match file with
    | none => pure parts.settings
    | some source => do
        match ← ofLogged (Config.load source []).run with
        | .ok settings => pure settings
        | .error e => throw (.bootstrapFailed (.loading e))
  let r ← ofAttempt (Reflector.build settings parts.strategies parts.allocators)
  addReflector r parts

def constructorInvoker (i : Nat) (owner : Class) (params : Option (List TypeRef)) :
    SessionOp (Nat × ConstructorInvoker) := do
  let serial ← fresh
  let s ← get
  let entry := s.reflector i
  onCache entry.cache fun c =>
    c.constructorInvoker (s.registry entry.resolver).resolver entry.reflector.strategies serial
      owner params

def fieldInvoker (i : Nat) (owner : Class) (name : String) : SessionOp (Nat × FieldInvoker) := do
  let serial ← fresh
  let s ← get
  let entry := s.reflector i
  onCache entry.cache fun c =>
    c.fieldInvoker (s.registry entry.resolver).resolver entry.reflector.strategies serial owner name

def construct (invoker : ConstructorInvoker) (args : List Value) : SessionOp ObjectRef :=
  onHeap fun link => invoker.construct link depth args

def getField (invoker : FieldInvoker) (o : ObjectRef) : SessionOp Value :=
  onHeap fun link => invoker.get link depth o

def setField (invoker : FieldInvoker) (o : ObjectRef) (v : Value) : SessionOp Unit :=
  onHeap fun link => invoker.set link depth o v

def newCompiler (registry : Nat) (settings : ProxySettings) : SessionOp Nat :=
  modifyGet fun s =>
    (s.compilers.length,
      { s with compilers := s.compilers ++ [(.ofSettings settings, registry)] })

/-- Makes a proxy class with a compiler and a registry, which are both given back. -/
def compileIn (pc : ProxyCompiler) (registry : Nat) (q : ProxyRequest) :
    SessionOp (Except Failure ProxyClass × ProxyCompiler) := do
  let serial ← fresh
  let s ← get
  let (r, w) ← ofLogged ((⟨pc, s.registry registry, s.files⟩ : Workshop).compile serial q)
  modify fun s =>
    { s with registries := s.registries.set registry w.registry, files := w.files }
  return (r, w.compiler)

def compileWith (compiler : Nat) (q : ProxyRequest) : SessionOp ProxyClass := do
  let (pc, registry) := (← get).compiler compiler
  let (r, pc) ← compileIn pc registry q
  modify fun s => { s with compilers := s.compilers.set compiler (pc, registry) }
  ofExcept r

def compileProxy (i : Nat) (q : ProxyRequest) : SessionOp ProxyClass := do
  let entry := (← get).reflector i
  let (r, pc) ← compileIn entry.reflector.proxies entry.registry q
  let entry := { entry with reflector := { entry.reflector with proxies := pc } }
  modify fun s => { s with reflectors := s.reflectors.set i entry }
  ofExcept r

def instantiate (allocators : List Allocator) (p : ProxyClass) (callSuper : Bool)
    (handler : Handler) : SessionOp ProxyInstance :=
  onHeap fun link => Allocator.instantiate link depth allocators p callSuper handler

def createProxy (i : Nat) (q : ProxyRequest) (handler : Handler) : SessionOp ProxyInstance := do
  let p ← compileProxy i q
  instantiate ((← get).reflector i).reflector.allocators p p.callSuper handler

def proxyOf (c : Class) (q : ProxyRequest) (intercepted : List String) : SessionOp ProxyClass := do
  return ⟨← fresh, c, q, intercepted⟩

def bindHandler (o : ObjectRef) (handler : Handler) : SessionOp Unit :=
  onHeap fun _ => Metaobject.bindHandler o handler

def dump (dir : String) (p : ProxyClass) : SessionOp Unit := do
  let files ← ofLogged (ClassDump.write dir p (← get).files)
  modify fun s => { s with files := files }

/-- Makes a file that holds no description, and the directories above it; tells whether that was
possible. -/
def touch (path : String) : SessionOp Bool := do
  let change : FileChange (Option ClassDump) Unit := do
    FileChange.makeDirectories (Path.parent path)
    FileChange.write path none
  let (result, files) := change.run (← get).files
  modify fun s => { s with files := files }
  return result.isOk

end SessionOp

end Metaobject
