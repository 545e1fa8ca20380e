import Metaobject.Cells
import Metaobject.Invoker.Strategy
import Metaobject.Member.Key

/-!
# The invoker cache

The cache keeps the invoker made for a key, so that it is made once. Failures are not kept: the
next request for the key tries again. The cache counts the requests that it answered, those that
made an invoker or tried to, and the trials.
-/

namespace Metaobject

/-- Invokers by key, with counts since the cache was last cleared. -/
structure Cache where
  cells : Cells MemberKey CompiledInvoker
  hits : Nat
  misses : Nat
  compilations : Nat

/-- What a cache tells about itself. -/
structure CacheStats where
  entries : Nat
  hits : Nat
  misses : Nat
  compilations : Nat
deriving DecidableEq

/-- What a request to a cache comes to. -/
structure Reply (α : Type) where
  answer : Except Failure α
  /-- What came of making an invoker, if the request had one made. -/
  made : Option (Except Failure CompiledInvoker)
  cache : Cache

namespace Reply

variable {α β : Type}

def map (f : α → β) (r : Reply α) : Reply β := { r with answer := r.answer.map f }

/-- The reply to who wants an invoker of one kind; an invoker of the other kind is a failure. -/
def ofKind (r : Reply CompiledInvoker) (kind? : CompiledInvoker → Option α) (otherwise : Failure) :
    Reply α :=
  { r with
    answer := r.answer.bind fun invoker => match kind? invoker with
      | some found => .ok found
      | none => .error otherwise }

end Reply

/-- A request for the invoker of a member: what is asked for, and what finds the member and makes the
invoker. The serial number is that of an invoker that is made now. -/
structure InvokerRequest where
  key : MemberKey
  resolver : Resolver
  strategies : List Strategy
  serial : Nat

/-- Finds the member and makes its invoker. -/
def InvokerRequest.make (q : InvokerRequest) : Attempt CompiledInvoker :=
  match q.key with
  | .constructor owner params => do
      let m ← q.resolver.constructor owner params
      return .constructor q.serial (← compileConstructor q.strategies m)
  | .field owner name => do
      let m ← q.resolver.field owner name
      return .field q.serial (← compileField q.strategies m)

namespace Cache

def empty : Cache := ⟨.empty, 0, 0, 0⟩

def get? (c : Cache) (key : MemberKey) : Option CompiledInvoker := c.cells.get? key

def size (c : Cache) : Nat := c.cells.filled

def stats (c : Cache) : CacheStats := ⟨c.size, c.hits, c.misses, c.compilations⟩

/-- The invoker for a key. If none is kept, `make` runs, and its invoker is kept. -/
def getOrMake (c : Cache) (key : MemberKey) (make : Unit → Attempt CompiledInvoker) :
    Logged (Reply CompiledInvoker) :=
  match c.get? key with
  | some invoker => pure ⟨.ok invoker, none, { c with hits := c.hits + 1 }⟩
  | none => do
      let cells := c.cells.make key
      Logged.report .debug s!"编译调用器: {key.text}"
      let result ← (make ()).run
      let cells := match result with
        | .ok invoker => cells.fill key invoker
        | .error _ => cells.dropEmpty key
      return ⟨result, some result, ⟨cells, c.hits, c.misses + 1, c.compilations + 1⟩⟩

def clear (c : Cache) : Logged Cache := do
  Logged.report .debug s!"调用器缓存已清空，移除 {c.cells.size} 个条目"
  return .empty

/-- The constructor invoker of a class for a request, found and made through the cache. -/
def constructorInvoker (c : Cache) (resolver : Resolver) (strategies : List Strategy)
    (serial : Nat) (owner : Class) (params : Option (List TypeRef)) :
    Logged (Reply (Nat × ConstructorInvoker)) := do
  let q : InvokerRequest := ⟨.constructor owner params, resolver, strategies, serial⟩
  let reply ← c.getOrMake q.key fun _ => q.make
  return reply.ofKind CompiledInvoker.constructor?
    (.compilationFailure q.key.text .cachedNoConstructor)

/-- The field invoker of a class for a field name, found and made through the cache. -/
def fieldInvoker (c : Cache) (resolver : Resolver) (strategies : List Strategy) (serial : Nat)
    (owner : Class) (name : String) : Logged (Reply (Nat × FieldInvoker)) := do
  let q : InvokerRequest := ⟨.field owner name, resolver, strategies, serial⟩
  let reply ← c.getOrMake q.key fun _ => q.make
  return reply.ofKind CompiledInvoker.field? (.compilationFailure q.key.text .cachedNoField)

/-- What a request comes to, of whichever kind it is. -/
def request (c : Cache) (q : InvokerRequest) : Reply CompiledInvoker :=
  match q.key with
  | .constructor owner params =>
      (c.constructorInvoker q.resolver q.strategies q.serial owner params).value.map
        fun (n, k) => .constructor n k
  | .field owner name =>
      (c.fieldInvoker q.resolver q.strategies q.serial owner name).value.map
        fun (n, k) => .field n k

end Cache

end Metaobject
