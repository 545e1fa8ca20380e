import Metaobject.Invoker.Basic
import Metaobject.Proxy.Request

/-!
# Proxy instances

An instance of a proxy class is made by running the constructors of the superclass, or by one of
the allocators, which run none. The allocators are tried in order; when all refuse, the
constructors run after all, with a warning. In the end the handler is bound, so that there is no
instance without one. A handler is bound to an object once and for good.
-/

namespace Metaobject

/-- A way to allocate an instance without running a constructor. -/
structure Allocator where
  name : String
  allocate : Class → Heap → Except TierFailure (ObjectRef × Heap)

namespace Allocator

/-- Allocates instances of every class, where that is supported. -/
def raw (supported : Bool) : Allocator where
  name := "unsafe-allocation"
  allocate c h := if supported then .ok (h.allocate c) else .error (.unsupported "raw_allocation")

/-- Allocates instances of classes that are open to handles. -/
def handle (supported : Bool) : Allocator where
  name := "handle-allocation"
  allocate c h :=
    if !supported then .error (.unsupported "handle_allocation")
    else if !c.openToHandles then .error (.inaccessible c.name)
    else .ok (h.allocate c)

def refusing (name : String) (failure : TierFailure) : Allocator where
  name := name
  allocate _ _ := .error failure

end Allocator

/-- The ways of allocation that a reflector is able to use. -/
structure Capabilities where
  rawAllocation : Bool
  handleAllocation : Bool
deriving DecidableEq

namespace Capabilities

def inspect (c : Capabilities) : String :=
  Text.record "RuntimeCapabilities"
    [("raw_allocation", Text.bool c.rawAllocation),
     ("handle_allocation", Text.bool c.handleAllocation)]

/-- The allocators, the most general first. -/
def allocators (c : Capabilities) : List Allocator :=
  [.raw c.rawAllocation, .handle c.handleAllocation]

end Capabilities

def bindHandler (o : ObjectRef) (handler : Handler) : HeapAttempt Unit := do
  match (← get).bindHandler o handler with
  | .ok h => set h
  | .error _ => throw (.handlerAlreadyBound o.cls.name)

namespace Allocator

variable (link : Linkage) (depth : Nat)

/-- Makes an instance by the constructor without parameters. -/
def constructDefault (c : Class) : HeapAttempt ObjectRef :=
  match c.noArgConstructor? with
  | none => throw (.memberNotFound c.name "<init>()")
  | some k => HeapAttempt.ofAct (construct link depth c k [])

/-- Makes an instance by the first allocator that can, or else by the constructor. -/
def firstAllocation (c : Class) : List Allocator → HeapAttempt ObjectRef
  | [] => do
      HeapAttempt.report .warn
        s!"无法跳过构造器分配 {c.name}，将执行父类构造器，构造副作用会发生"
      constructDefault link depth c
  | a :: as => do
      match a.allocate c (← get) with
      | .ok (o, h) =>
          set h
          HeapAttempt.report .debug s!"{a.name} 分配 {c.name} 成功"
          pure o
      | .error e =>
          if e.isUnavailable then
            HeapAttempt.report .debug s!"{a.name} 不可用: {e.message}"
          else
            HeapAttempt.report .warn s!"{a.name} 分配 {c.name} 失败，尝试下一层级: {e.message}"
          firstAllocation c as

/-- Makes an instance of a proxy class and binds the handler to it. -/
def instantiate (allocators : List Allocator) (p : ProxyClass) (callSuper : Bool)
    (handler : Handler) : HeapAttempt ProxyInstance := do
  let o ← if callSuper then constructDefault link depth p.cls
    else firstAllocation link depth p.cls allocators
  bindHandler o handler
  match ProxyInstance.bound? (← get) o p with
  | some i => pure i
  | none => throw (.invocation (.illegalState s!"代理实例未绑定拦截处理器: {p.name}"))

end Allocator

end Metaobject
