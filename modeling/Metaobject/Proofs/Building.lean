import Mathlib.Data.List.Nodup
import Metaobject.Class.Build

/-!
# Classes that are built

A class is built exactly when its specification passes all checks, and it is then the class that the
specification describes. No two constructors of a built class have the same parameters.
-/

namespace Metaobject

theorem firstRepeated?_eq_none_iff {α : Type} [BEq α] [LawfulBEq α] {earlier xs : List α} :
    firstRepeated? earlier xs = none ↔ xs.Nodup ∧ ∀ x ∈ xs, x ∉ earlier := by
  induction xs generalizing earlier with
  | nil => simp [firstRepeated?]
  | cons x xs ih =>
      by_cases hx : x ∈ earlier
      · simp [firstRepeated?, hx]
      · simp only [firstRepeated?, List.contains_eq_mem, hx, decide_false, Bool.false_eq_true,
          if_false, ih, List.mem_cons, not_or, List.nodup_cons, forall_eq_or_imp]
        constructor
        · rintro ⟨hnodup, hnew⟩
          exact ⟨⟨fun hmem => (hnew x hmem).1 rfl, hnodup⟩, not_false, fun y hy => (hnew y hy).2⟩
        · rintro ⟨⟨hmem, hnodup⟩, -, hnew⟩
          exact ⟨hnodup, fun y hy => ⟨fun h => hmem (h ▸ hy), hnew y hy⟩⟩

theorem firstRepeated?_nil_eq_none_iff {α : Type} [BEq α] [LawfulBEq α] (xs : List α) :
    firstRepeated? [] xs = none ↔ xs.Nodup := by
  simp [firstRepeated?_eq_none_iff]

namespace ClassSpec

/-- The class that a specification describes. -/
def described (spec : ClassSpec) (id : Nat) : Class :=
  .mk
    { id := id
      name := spec.name
      kind := spec.kind
      constructors := spec.declared
      fields := spec.fields
      methods := spec.methods
      openToHandles := spec.openToHandles
      synthetic := spec.synthetic }
    spec.parent spec.interfaces

theorem build_eq_ok_iff {spec : ClassSpec} {id : Nat} {c : Class} :
    spec.build id = .ok c ↔
      spec.checkName = .ok () ∧ spec.checkInterfaces = .ok () ∧ spec.checkKind = .ok () ∧
        spec.checkMembers = .ok () ∧ c = spec.described id := by
  simp only [build, bind, Except.bind]
  cases spec.checkName <;> cases spec.checkInterfaces <;> cases spec.checkKind <;>
    cases spec.checkMembers <;> simp [pure, Except.pure, described, eq_comm]

theorem checkMembers_eq_ok_iff {spec : ClassSpec} :
    spec.checkMembers = .ok () ↔
      (spec.declared.map Constructor.params).Nodup ∧ (spec.fields.map Field.name).Nodup := by
  have hconstructors := firstRepeated?_nil_eq_none_iff (spec.declared.map Constructor.params)
  have hfields := firstRepeated?_nil_eq_none_iff (spec.fields.map Field.name)
  unfold checkMembers
  cases hc : firstRepeated? [] (spec.declared.map Constructor.params) <;>
    cases hf : firstRepeated? [] (spec.fields.map Field.name) <;>
      simp_all [defective]

theorem nodup_params_of_build {spec : ClassSpec} {id : Nat} {c : Class}
    (h : spec.build id = .ok c) : (c.constructors.map Constructor.params).Nodup := by
  obtain ⟨-, -, -, hmembers, rfl⟩ := build_eq_ok_iff.mp h
  exact (checkMembers_eq_ok_iff.mp hmembers).1

end ClassSpec

end Metaobject
