import Metaobject.Class.Basic
import Metaobject.Heap.Basic
import Metaobject.Text.Inspect

/-!
# Proxy classes and their requests

A proxy class stands in for a superclass and some interfaces: it hands the calls of their methods
to the handler that is bound to the instance. A request says which proxy class is wanted.
-/

namespace Metaobject

/-- Which proxy class is wanted. -/
structure ProxyRequest where
  /-- The interfaces to implement, in order. -/
  interfaces : List Class
  /-- The class to extend, the root unless named. -/
  superclass : Option Class
  /-- The name of the proxy class; without one, a name is generated. -/
  name : Option String
  /-- Whether the constructors of the superclass run for a new instance. -/
  callSuper : Bool

namespace ProxyRequest

def base (q : ProxyRequest) : Class := q.superclass.getD Class.root

def inspect (q : ProxyRequest) : String :=
  Text.record "ProxyConfig"
    [("interfaces", Text.list (q.interfaces.map fun i => Text.quoted i.name)),
     ("superclass", Text.optional (q.superclass.map fun c => Text.quoted c.name)),
     ("name", Text.optional (q.name.map Text.quoted)),
     ("call_super_constructor", Text.bool q.callSuper)]

end ProxyRequest

/-- A proxy class. The serial number tells proxy classes made at different times apart. -/
structure ProxyClass where
  serial : Nat
  cls : Class
  request : ProxyRequest
  /-- The signatures of the methods that go to the handler. -/
  intercepted : List String

namespace ProxyClass

def name (p : ProxyClass) : String := p.cls.name

/-- Whether the constructors of the superclass run for a new instance. -/
def callSuper (p : ProxyClass) : Bool := p.request.callSuper

end ProxyClass

/-- An instance of a proxy class. -/
structure ProxyInstance where
  object : ObjectRef
  proxy : ProxyClass

/-- An object as an instance of a proxy class, if a handler is bound to it. -/
def ProxyInstance.bound? (h : Heap) (o : ObjectRef) (p : ProxyClass) : Option ProxyInstance :=
  (h.handler? o).map fun _ => ⟨o, p⟩

end Metaobject
