import Metaobject.Config.Settings
import Metaobject.Invoker.Cache
import Metaobject.Proxy.Compiler
import Metaobject.Proxy.Instantiation

/-!
# Reflectors

A reflector brings together what is needed to use classes that become known while a program runs: it
makes and caches invokers, and makes proxy classes and their instances. Registries and caches can be
shared between reflectors, so a reflector does not contain its own but is given them.
-/

namespace Metaobject

def Capabilities.ofSettings (s : AllocationSettings) : Capabilities :=
  ⟨s.rawAllocation, s.handleAllocation⟩

def Capabilities.none : Capabilities := ⟨false, false⟩

namespace Strategy

def ofSettings (s : InvokerSettings) : List Strategy := standard s.nativeTier s.handleTier

def inspectAll (ss : List Strategy) : String :=
  Text.record "InvokerCompiler"
    [("tiers", Text.list (ss.map fun s => match s.tier with
      | .native => "Native"
      | .typedHandle => "TypedHandle"
      | .reflective => "Reflective"))]

end Strategy

def Allocator.inspectAll (as : List Allocator) : String :=
  Text.record "ProxyInstantiator"
    [("allocators", Text.list (as.map fun a => Text.quoted a.name))]

/-- The inspection text of what a cache tells about itself. -/
def CacheStats.inspect (s : CacheStats) : String :=
  Text.record "CacheStats"
    [("entries", toString s.entries), ("hits", toString s.hits),
     ("misses", toString s.misses), ("compilations", toString s.compilations)]

def ProxyCompiler.ofSettings (s : ProxySettings) : ProxyCompiler := .initial s.space s.dumpDir

/-- A reflector, apart from the registries and the cache that it uses. -/
structure Reflector where
  settings : Settings
  strategies : List Strategy
  allocators : List Allocator
  proxies : ProxyCompiler
  capabilities : Capabilities

namespace Reflector

/-- A reflector with the given settings. Strategies and allocators take the place of those that the
settings ask for. -/
def create (s : Settings) (strategies : Option (List Strategy))
    (allocators : Option (List Allocator)) : Logged Reflector := do
  let strategies := strategies.getD (Strategy.ofSettings s.invoker)
  let capabilities := Capabilities.ofSettings s.allocation
  Logged.report .info
    (s!"运行时分配能力: raw_allocation={Text.bool capabilities.rawAllocation}, " ++
      s!"handle_allocation={Text.bool capabilities.handleAllocation}")
  let allocators := allocators.getD capabilities.allocators
  Logged.report .debug
    s!"反射运行时组件: {Strategy.inspectAll strategies}, {Allocator.inspectAll allocators}"
  return ⟨s, strategies, allocators, .ofSettings s.proxy, capabilities⟩

/-- Builds a reflector from settings that must be valid. -/
def build (s : Settings) (strategies : Option (List Strategy))
    (allocators : Option (List Allocator)) : Attempt Reflector := do
  match s.validate with
  | .error e => throw (.bootstrapFailed (.validating e))
  | .ok _ => do
      let r ← ExceptT.lift (create s strategies allocators)
      report .info "反射运行时构建完成"
      return r

/-- The inspection text, given the registry and the cache. -/
def inspect (r : Reflector) (registry : Registry) (cache : Cache) : String :=
  Text.record "ReflectionRuntime"
    [("config", r.settings.inspect),
     ("classes", toString registry.size),
     ("cache", cache.stats.inspect),
     ("proxies", toString r.proxies.size),
     ("capabilities", r.capabilities.inspect)]

end Reflector

end Metaobject
