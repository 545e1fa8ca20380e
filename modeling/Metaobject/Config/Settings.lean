import Metaobject.Failure
import Metaobject.Text.Blank
import Metaobject.Text.Inspect

/-!
# Settings

The settings of a reflector: which tiers make invokers, how proxy classes are named and where their
descriptions go, and which ways of allocation may be used.
-/

namespace Metaobject

/-- Which tiers may make invokers; looking members up is always possible. -/
structure InvokerSettings where
  nativeTier : Bool
  handleTier : Bool
deriving DecidableEq

/-- How proxy classes are made. -/
structure ProxySettings where
  /-- What generated names begin with. -/
  space : String
  /-- Where descriptions of the classes are written, if anywhere. -/
  dumpDir : Option String
deriving DecidableEq

/-- Which ways of allocation may be used. -/
structure AllocationSettings where
  rawAllocation : Bool
  handleAllocation : Bool
deriving DecidableEq

/-- The settings of a reflector. -/
structure Settings where
  invoker : InvokerSettings
  proxy : ProxySettings
  allocation : AllocationSettings
deriving DecidableEq

namespace InvokerSettings

def standard : InvokerSettings := ⟨true, true⟩

def inspect (s : InvokerSettings) : String :=
  Text.record "InvokerConfig"
    [("native_tier", Text.bool s.nativeTier), ("handle_tier", Text.bool s.handleTier)]

end InvokerSettings

namespace ProxySettings

def standard : ProxySettings := ⟨"adsp.proxy", none⟩

def inspect (s : ProxySettings) : String :=
  Text.record "ProxyCompilerConfig"
    [("namespace", Text.quoted s.space),
     ("dump_dir", Text.optional (s.dumpDir.map Text.quoted))]

end ProxySettings

namespace AllocationSettings

def standard : AllocationSettings := ⟨true, true⟩

def inspect (s : AllocationSettings) : String :=
  Text.record "AllocationConfig"
    [("raw_allocation", Text.bool s.rawAllocation),
     ("handle_allocation", Text.bool s.handleAllocation)]

end AllocationSettings

namespace Settings

/-- The settings of a reflector that is not configured. -/
def standard : Settings := ⟨.standard, .standard, .standard⟩

def inspect (s : Settings) : String :=
  Text.record "RuntimeConfig"
    [("invoker", s.invoker.inspect), ("proxy", s.proxy.inspect),
     ("allocation", s.allocation.inspect)]

/-- The namespace must not be blank, nor begin or end with a dot, blanks at the ends aside. -/
def validate (s : Settings) : Except ConfigFailure Unit :=
  let space := Text.trim s.proxy.space.toList
  if space.isEmpty || space.head? == some '.' || space.getLast? == some '.' then
    .error (.invalidNamespace s.proxy.space)
  else .ok ()

end Settings

end Metaobject
