import Metaobject.Invoker.Basic
import Metaobject.Member.Resolution

/-!
# Making invokers

A strategy makes invokers of one tier, or says why it does not. A compiler tries its strategies in
order; the first that succeeds wins, and the reasons of those before it are only reported.
-/

namespace Metaobject

/-- A way to make invokers. -/
structure Strategy where
  tier : Tier
  constructor : ConstructorMember → Except TierFailure ConstructorInvoker
  field : FieldMember → Except TierFailure FieldInvoker

namespace Strategy

def native (enabled : Bool) : Strategy where
  tier := .native
  constructor m :=
    if !enabled then .error (.disabled .native)
    else match m.constructor.native with
      | some entry => .ok (.native m.owner m.params entry)
      | none => .error (.noNativeEntry m.text)
  field m :=
    if !enabled then .error (.disabled .native)
    else match m.field.native with
      | some accessor => .ok (.native m.declaring m.name m.field.type accessor)
      | none => .error (.noNativeEntry m.text)

/-- Whether a handle may be bound to a member of the class. -/
def checkAccess (enabled : Bool) (declaring : Class) (visibility : Visibility) (member : String) :
    Except TierFailure Unit :=
  if !enabled then .error (.disabled .typedHandle)
  else if visibility = .pub || declaring.openToHandles then .ok ()
  else .error (.inaccessible member)

/-- Binds handles to public members, and to all members of classes that are open to handles. The
handle of a field can write, so a final field gets none. -/
def typedHandle (enabled : Bool) : Strategy where
  tier := .typedHandle
  constructor m := do
    checkAccess enabled m.owner m.constructor.visibility m.text
    return .handle m.owner m.constructor
  field m := do
    checkAccess enabled m.declaring m.field.visibility m.text
    if m.field.isFinal then throw (.finalField m.text)
    return .handle m.declaring ⟨m.declaring.name, m.name⟩ m.field.type

/-- Looks members up at each use, whoever may use them. -/
def reflective : Strategy where
  tier := .reflective
  constructor m := .ok (.reflective m.owner m.params)
  field m := .ok (.reflective m.owner m.name m.field.type)

def refusing (tier : Tier) (failure : TierFailure) : Strategy where
  tier := tier
  constructor _ := .error failure
  field _ := .error failure

/-- The strategies of a reflector, where the first two tiers can be switched off. -/
def standard (nativeTier handleTier : Bool) : List Strategy :=
  [native nativeTier, typedHandle handleTier, reflective]

end Strategy

/-- The first success of the strategies; `failed` lists the tiers tried before, with their
reasons. -/
def firstSuccess {α : Type} (target : String) (make : Strategy → Except TierFailure α) :
    List (Tier × TierFailure) → List Strategy → Attempt α
  | failed, [] => throw (.compilationFailure target (.tiers failed))
  | failed, s :: ss =>
      match make s with
      | .ok a => do
          report .debug s!"调用器编译完成: {target} [{s.tier.text}]"
          return a
      | .error e => do
          if e.isUnavailable then
            report .debug s!"{s.tier.text} 层级不适用于 {target}: {e.message}"
          else
            report .warn s!"{s.tier.text} 层级绑定 {target} 失败，回退到下一层级: {e.message}"
          firstSuccess target make (failed ++ [(s.tier, e)]) ss

def compileConstructor (strategies : List Strategy) (m : ConstructorMember) :
    Attempt ConstructorInvoker :=
  firstSuccess m.text (fun s => s.constructor m) [] strategies

def compileField (strategies : List Strategy) (m : FieldMember) : Attempt FieldInvoker :=
  firstSuccess m.text (fun s => s.field m) [] strategies

end Metaobject
