import Metaobject.Class.Basic

/-!
# Member keys

The key under which the invoker of a member is cached: the class asked, and what was asked of it.
Classes are compared by identity, not by name.
-/

namespace Metaobject

/-- What was asked for. -/
inductive MemberKey where
  /-- A constructor for the given types, or for types left open. -/
  | constructor (owner : Class) (params : Option (List TypeRef))
  | field (owner : Class) (name : String)

namespace MemberKey

def owner : MemberKey → Class
  | .constructor owner _ => owner
  | .field owner _ => owner

/-- By what keys are compared: the identity of the class, and what was asked of it. -/
def identity : MemberKey → (Nat × Option (List TypeRef)) ⊕ (Nat × String)
  | .constructor owner params => .inl (owner.id, params)
  | .field owner name => .inr (owner.id, name)

def same (a b : MemberKey) : Bool := decide (a.identity = b.identity)

instance : BEq MemberKey := ⟨same⟩

theorem beq_iff_identity_eq {a b : MemberKey} : (a == b) = true ↔ a.identity = b.identity := by
  simp [BEq.beq, same]

instance : EquivBEq MemberKey where
  rfl := beq_iff_identity_eq.mpr rfl
  symm h := beq_iff_identity_eq.mpr (beq_iff_identity_eq.mp h).symm
  trans h k := beq_iff_identity_eq.mpr ((beq_iff_identity_eq.mp h).trans (beq_iff_identity_eq.mp k))

/-- The key as text; types left open are written as a star. -/
def text : MemberKey → String
  | .constructor owner none => owner.name ++ ".<init>(*)"
  | .constructor owner (some params) => owner.name ++ ".<init>" ++ TypeRef.paramsText params
  | .field owner name => owner.name ++ "." ++ name

end MemberKey

end Metaobject
