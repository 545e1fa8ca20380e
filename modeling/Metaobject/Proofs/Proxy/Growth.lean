import Metaobject.Proofs.Cache.Transparency
import Metaobject.Proofs.Proxy.Atomicity

/-!
# Registries grow

Definitions, those of proxy classes included, only ever add classes to a registry. So what can be
assigned stays assignable, and a request for a member that was answered is answered again: by the
same member where the registry has no part in the choice, and otherwise by the same constructor or
one that is declared before it, because more parameters fit. `Samples.storage` has such a case.
-/

namespace Metaobject

namespace Registry

variable {r r' : Registry}

/-! ## Assignable types -/

theorem Grows.isAssignable (h : r.Grows r') {target source : TypeRef}
    (ha : r.isAssignable target source = true) : r'.isAssignable target source = true := by
  rcases isAssignable_cases ha with rfl | ⟨p, rfl, rfl⟩ | ⟨p, rfl, rfl⟩ | rfl |
    ⟨t, s, c, rfl, rfl, hc, hsub⟩
  · simp [Registry.isAssignable]
  · simp [Registry.isAssignable, TypeRef.boxingEquivalent]
  · simp [Registry.isAssignable, TypeRef.boxingEquivalent]
  · -- what may stand for any object does not depend on the registry
    cases source with
    | named s => simp [Registry.isAssignable, TypeRef.root, TypeRef.isReference]
    | _ => exact ha
  · have hc' : r'.get? s = some c := h hc
    by_cases ht : t = rootName
    · simp [Registry.isAssignable, ht, TypeRef.isReference]
    · simp [Registry.isAssignable, ht, hc', hsub]

theorem Grows.fits (h : r.Grows r') {params requested : List TypeRef}
    (hfits : r.fits params requested = true) : r'.fits params requested = true := by
  rw [fits_iff] at hfits ⊢
  exact hfits.imp fun _ _ ha => h.isAssignable ha

/-! ## Constructors -/

/-- A first hit stays a hit when more elements are accepted, though an earlier one may take its
place. -/
theorem exists_findFinIdx?_le {α : Type} {p p' : α → Bool} {xs : List α} {i : Fin xs.length}
    (h : xs.findFinIdx? p = some i) (hp : ∀ x, p x = true → p' x = true) :
    ∃ j ≤ i, xs.findFinIdx? p' = some j := by
  have hi : p' xs[i] = true := hp _ (List.findFinIdx?_eq_some_iff.mp h).1
  cases hfind : xs.findFinIdx? p' with
  | none => exact absurd hi (by simpa using List.findFinIdx?_eq_none_iff.mp hfind xs[i] (by simp))
  | some j =>
      refine ⟨j, ?_, rfl⟩
      by_contra hij
      exact absurd hi (by simpa using (List.findFinIdx?_eq_some_iff.mp hfind).2 i (by omega))

theorem Grows.matchingConstructor? (h : r.Grows r') {c : Class} {types : List TypeRef}
    {i : Fin c.constructors.length} (hi : r.matchingConstructor? c types = some i) :
    ∃ j ≤ i, r'.matchingConstructor? c types = some j := by
  rw [Registry.matchingConstructor?, Option.or_eq_some_iff] at hi
  rcases hi with hexact | ⟨hnone, hfits⟩
  · exact ⟨i, Fin.le_refl i, by rw [Registry.matchingConstructor?, hexact, Option.some_or]⟩
  · obtain ⟨j, hj, hfits'⟩ := exists_findFinIdx?_le hfits fun _ hk => h.fits hk
    exact ⟨j, hj, by rw [Registry.matchingConstructor?, hnone, hfits', Option.none_or]⟩

theorem Grows.resolveConstructor (h : r.Grows r') {c : Class} {requested : Option (List TypeRef)}
    {m : ConstructorMember} (hm : Attempt.outcome (r.resolveConstructor c requested) = .ok m) :
    ∃ j ≤ m.index, Attempt.outcome (r'.resolveConstructor c requested) = .ok ⟨m.owner, j⟩ := by
  rw [outcome_resolveConstructor] at hm ⊢
  split at hm
  · cases hm
  · rename_i hordinary
    rw [if_neg hordinary]
    obtain ⟨i, hi, rfl⟩ := Attempt.map_eq_ok.mp hm
    cases requested with
    | none => exact ⟨i, Fin.le_refl i, Attempt.map_eq_ok.mpr ⟨i, hi, rfl⟩⟩
    | some types =>
        cases hmatch : r.matchingConstructor? c types with
        | none => simp [hmatch] at hi
        | some k =>
            obtain rfl : k = i := by simpa [hmatch] using hi
            obtain ⟨j, hj, hmatch'⟩ := h.matchingConstructor? hmatch
            exact ⟨j, hj, by simp only [hmatch']; rfl⟩

end Registry

/-! ## Members -/

/-- The second registry answers all that the first one has answered. -/
structure Registry.Refines (r r' : Registry) : Prop where
  get? : r.Grows r'
  root : r.get? rootName = some .root ∧ r'.get? rootName = some .root
  isAssignable : ∀ {target source}, r.isAssignable target source = true →
    r'.isAssignable target source = true
  definite : ∀ {key : MemberKey}, key.Definite → r'.resolve key = r.resolve key
  constructor : ∀ {owner params m}, r.resolve (.constructor owner params) = .ok (.inl m) →
    ∃ j ≤ m.index, r'.resolve (.constructor owner params) = .ok (.inl ⟨m.owner, j⟩)

namespace Registry

variable {r r' : Registry}

theorem Reachable.refines (h : r.Reachable) (h' : r'.Reachable) (hgrows : r.Grows r') :
    r.Refines r' where
  get? := hgrows
  root := ⟨h.get?_root, h'.get?_root⟩
  isAssignable := hgrows.isAssignable
  definite := resolve_of_definite
  constructor hm := by
    obtain ⟨m', hm', hinl⟩ := Attempt.map_eq_ok.mp hm
    obtain rfl := Sum.inl.inj hinl
    obtain ⟨j, hj, hresolved⟩ := hgrows.resolveConstructor hm'
    exact ⟨j, hj, Attempt.map_eq_ok.mpr ⟨_, hresolved, rfl⟩⟩

end Registry

namespace Factory

/-- Whatever a factory is asked for, its registry answers all that it has answered before, and a
definition or a request for a proxy class that fails leaves the registry as it is. -/
theorem registry_refines (files : DumpFiles) (calls more : List Call) :
    ((initial files).run calls).registry.Refines ((initial files).run (calls ++ more)).registry ∧
      (∀ c e, Attempt.outcome (((initial files).run calls).registry.define c) = .error e →
        (initial files).run (calls ++ [.define c]) = (initial files).run calls) ∧
      ∀ i serial q e, (((initial files).run calls).compile i serial q).1 = some (.error e) →
        ((initial files).run (calls ++ [.compile i serial q])).registry =
          ((initial files).run calls).registry := by
  obtain ⟨hsound, -⟩ := (sound_initial files).run calls
  obtain ⟨hmore, hkeeps⟩ := hsound.run more
  refine ⟨?_, fun c e he => ?_, fun i serial q e he => ?_⟩
  · rw [run_append]
    exact hsound.reachable.refines hmore.reachable hkeeps.registry
  · have hstep : ((initial files).run calls).step (.define c) = (initial files).run calls := by
      simp only [step, he]
    rw [run_append]
    exact hstep
  · obtain ⟨⟨n, hleft⟩, -⟩ := hsound.compile_of_error he
    have hregistry : (((initial files).run calls).compile i serial q).2.registry =
        ((initial files).run calls).registry := by
      rw [hleft]
      rfl
    rw [run_append]
    exact hregistry

end Factory

/-! ### A class that is defined after it was asked for -/

namespace Samples

/-- The request gets the constructor for all objects first and the one for repositories later. -/
theorem storage_refined :
    ((Factory.initial ⟨[]⟩).run [.define repository, .define storage]).registry.resolve
        (.constructor storage forSqlRepository) = .ok (.inl ⟨storage, ⟨1, by decide⟩⟩) ∧
      ((Factory.initial ⟨[]⟩).run [.define repository, .define storage, .define sqlRepository,
          .define repository]).registry.resolve (.constructor storage forSqlRepository) =
        .ok (.inl ⟨storage, ⟨0, by decide⟩⟩) ∧
      ∃ j ≤ (⟨1, by decide⟩ : Fin storage.constructors.length),
        ((Factory.initial ⟨[]⟩).run [.define repository, .define storage, .define sqlRepository,
          .define repository]).registry.resolve (.constructor storage forSqlRepository) =
            .ok (.inl ⟨storage, j⟩) := by
  have hbefore : ((Factory.initial ⟨[]⟩).run [.define repository, .define storage]).registry.resolve
      (.constructor storage forSqlRepository) = .ok (.inl ⟨storage, ⟨1, by decide⟩⟩) := rfl
  obtain ⟨hrefines, -⟩ := Factory.registry_refines ⟨[]⟩ [.define repository, .define storage]
    [.define sqlRepository, .define repository]
  exact ⟨hbefore, rfl, hrefines.constructor hbefore⟩

end Samples

end Metaobject
