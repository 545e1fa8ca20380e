import Metaobject.Member.Key
import Metaobject.Member.Resolution
import Metaobject.Proofs.Outcome

/-!
# What registries hold and what requests resolve to

A definition adds one class under a name that was free, and leaves every other name alone. A request
that resolves to a constructor names it exactly or is assignable to its parameters; a request that
resolves to a field names the first declaration along the superclass chain.
-/

namespace Metaobject

namespace Registry

theorem name_of_get? {r : Registry} {name : String} {c : Class} (h : r.get? name = some c) :
    c.name = name := by
  simpa using List.find?_some h

theorem mem_of_get? {r : Registry} {name : String} {c : Class} (h : r.get? name = some c) :
    c ∈ r.classes :=
  List.mem_of_find?_eq_some h

theorem contains_eq_false_iff {r : Registry} {name : String} :
    r.contains name = false ↔ r.get? name = none := by
  simp [contains]

theorem contains_iff_mem {r : Registry} {name : String} :
    r.contains name = true ↔ name ∈ r.classes.map Class.name := by
  simp [contains, get?, List.find?_isSome]

theorem insert?_eq_ok_iff {r r' : Registry} {c : Class} :
    r.insert? c = .ok r' ↔ r.get? c.name = none ∧ r' = ⟨r.classes ++ [c]⟩ := by
  unfold insert?
  by_cases h : r.contains c.name = true
  · have hsome : r.get? c.name ≠ none := by simpa [contains, Option.isSome_iff_ne_none] using h
    simp [h, hsome]
  · have hnone : r.get? c.name = none := contains_eq_false_iff.mp (by simpa using h)
    simp [h, hnone, eq_comm]

theorem get?_of_insert? {r r' : Registry} {c : Class} (h : r.insert? c = .ok r') (name : String) :
    r'.get? name = (r.get? name).or (if c.name = name then some c else none) := by
  obtain ⟨-, rfl⟩ := insert?_eq_ok_iff.mp h
  by_cases hname : c.name = name <;> simp [get?, List.find?_append, hname]

theorem get?_of_insert?_self {r r' : Registry} {c : Class} (h : r.insert? c = .ok r') :
    r'.get? c.name = some c := by
  rw [get?_of_insert? h, (insert?_eq_ok_iff.mp h).1]
  simp

def Grows (r r' : Registry) : Prop :=
  ∀ {name : String} {c : Class}, r.get? name = some c → r'.get? name = some c

theorem grows_of_insert? {r r' : Registry} {c : Class} (h : r.insert? c = .ok r') : r.Grows r' := by
  intro name d hd
  rw [get?_of_insert? h, hd]
  rfl

theorem outcome_define (r : Registry) (c : Class) :
    Attempt.outcome (r.define c) = r.insert? c := by
  unfold define
  rw [Attempt.outcome_bind, Attempt.outcome_mk_pure]
  cases r.insert? c with
  | error e => rfl
  | ok r' =>
      by_cases hsynthetic : c.isSynthetic = true <;>
        simp [Except.bind, Except.map, Attempt.outcome_map, hsynthetic]

/-- The registries that arise from the initial one by definitions. -/
inductive Reachable : Registry → Prop
  | initial : Reachable .initial
  | define {r r' : Registry} {c : Class} : Reachable r → r.insert? c = .ok r' → Reachable r'

/-- The root's name never means another class. -/
theorem Reachable.get?_root {r : Registry} (h : r.Reachable) : r.get? rootName = some .root := by
  induction h with
  | initial => rfl
  | define _ hdefine ih => exact grows_of_insert? hdefine ih

/-! ## Constructors -/

theorem matchingConstructor?_eq_some {r : Registry} {c : Class} {types : List TypeRef}
    {i : Fin c.constructors.length} (h : r.matchingConstructor? c types = some i) :
    c.constructors[i].params = types ∨ r.fits c.constructors[i].params types = true := by
  rw [matchingConstructor?, Option.or_eq_some_iff] at h
  rcases h with h | ⟨-, h⟩
  · exact .inl (by simpa using (List.findFinIdx?_eq_some_iff.mp h).1)
  · exact .inr (List.findFinIdx?_eq_some_iff.mp h).1

theorem outcome_resolveConstructor (r : Registry) (c : Class) (requested : Option (List TypeRef)) :
    Attempt.outcome (r.resolveConstructor c requested) =
      if c.isInterface then .error (.memberNotFound c.name "<init>")
      else (match requested with
        | none => Attempt.outcome c.defaultConstructor
        | some types => match r.matchingConstructor? c types with
          | some i => .ok i
          | none => .error (.memberNotFound c.name s!"<init>{TypeRef.paramsText types}")).map
        fun i => ⟨c, i⟩ := by
  unfold resolveConstructor
  by_cases hinterface : c.isInterface = true
  · rw [if_pos hinterface, if_pos hinterface]
    rfl
  · rw [if_neg hinterface, if_neg hinterface]
    cases requested with
    | none =>
        simp only [Attempt.outcome_bind]
        cases Attempt.outcome c.defaultConstructor <;> rfl
    | some types => cases hmatch : r.matchingConstructor? c types <;>
        simp [hmatch, Except.map, Attempt.outcome_map]

theorem owner_of_resolveConstructor {r : Registry} {c : Class} {requested : Option (List TypeRef)}
    {m : ConstructorMember} (h : Attempt.outcome (r.resolveConstructor c requested) = .ok m) :
    m.owner = c := by
  rw [outcome_resolveConstructor] at h
  split at h
  · cases h
  · obtain ⟨i, -, rfl⟩ := Attempt.map_eq_ok.mp h
    rfl

/-- A constructor that is found for requested types has these parameters, or parameters that the
types fit. -/
theorem params_of_resolveConstructor {r : Registry} {c : Class} {types : List TypeRef}
    {m : ConstructorMember} (h : Attempt.outcome (r.resolveConstructor c (some types)) = .ok m) :
    m.params = types ∨ r.fits m.params types = true := by
  rw [outcome_resolveConstructor] at h
  split at h
  · cases h
  · obtain ⟨i, hi, rfl⟩ := Attempt.map_eq_ok.mp h
    cases hmatch : r.matchingConstructor? c types with
    | none => simp [hmatch] at hi
    | some j =>
        obtain rfl : j = i := by simpa [hmatch] using hi
        exact matchingConstructor?_eq_some hmatch

/-! ## Registries that cannot be told apart -/

variable {r r' : Registry}

theorem isAssignable_congr {source : TypeRef}
    (h : ∀ name, source = .named name → r'.get? name = r.get? name) (target : TypeRef) :
    r'.isAssignable target source = r.isAssignable target source := by
  cases source with
  | named name => simp only [isAssignable, h name rfl]
  | _ => cases target <;> rfl

theorem fits_congr {requested : List TypeRef}
    (h : ∀ name, .named name ∈ requested → r'.get? name = r.get? name) (params : List TypeRef) :
    r'.fits params requested = r.fits params requested := by
  rw [Bool.eq_iff_iff]
  simp only [fits, Bool.and_eq_true, List.all_eq_true]
  refine and_congr_right fun _ => forall₂_congr fun e he => ?_
  have hsource : ∀ name, e.2 = .named name → r'.get? name = r.get? name := by
    intro name hname
    exact h name (hname ▸ (List.of_mem_zip he).2)
  rw [isAssignable_congr hsource]

theorem matchingConstructor?_of_exact {c : Class} {types : List TypeRef}
    (h : ∃ k ∈ c.constructors, k.params = types) :
    r'.matchingConstructor? c types = r.matchingConstructor? c types := by
  obtain ⟨k, hk, hparams⟩ := h
  cases hexact : c.constructors.findFinIdx? fun k => k.params == types with
  | some i => simp [matchingConstructor?, hexact]
  | none =>
      have hdifferent := List.findFinIdx?_eq_none_iff.mp hexact k hk
      simp [hparams] at hdifferent

/-- What a request resolves to depends on the registry only through the classes that it names, and
not at all where a constructor has exactly the requested types. -/
theorem outcome_resolveConstructor_congr {c : Class} {requested : Option (List TypeRef)}
    (h : ∀ types ∈ requested, (∀ k ∈ c.constructors, k.params ≠ types) →
      ∀ name, .named name ∈ types → r'.get? name = r.get? name) :
    Attempt.outcome (r'.resolveConstructor c requested) =
      Attempt.outcome (r.resolveConstructor c requested) := by
  rw [outcome_resolveConstructor, outcome_resolveConstructor]
  cases requested with
  | none => rfl
  | some types =>
      have hmatch : r'.matchingConstructor? c types = r.matchingConstructor? c types := by
        by_cases hexact : ∃ k ∈ c.constructors, k.params = types
        · exact matchingConstructor?_of_exact hexact
        · have hnamed := h types rfl (by simpa using hexact)
          simp only [matchingConstructor?, fits_congr hnamed]
      simp only [hmatch]

end Registry

/-! ## Fields -/

namespace Class

theorem findMember?_eq_some {owner : Class} {name : String} {cs : List Class} {m : FieldMember}
    (h : findMember? owner name cs = some m) :
    m.owner = owner ∧ m.name = name ∧
      cs.find? (fun c => c.fields.any fun f => f.name == name) = some m.declaring := by
  induction cs with
  | nil => simp [findMember?] at h
  | cons c cs ih =>
      rw [findMember?] at h
      cases hfind : c.fields.findFinIdx? fun f => f.name == name with
      | none =>
          have hnone : (c.fields.any fun f => f.name == name) = false := by
            simpa using List.findFinIdx?_eq_none_iff.mp hfind
          rw [hfind] at h
          simpa [hnone] using ih h
      | some i =>
          rw [hfind] at h
          cases h
          have hi : (c.fields[i].name == name) = true := (List.findFinIdx?_eq_some_iff.mp hfind).1
          have hany : (c.fields.any fun f => f.name == name) = true :=
            List.any_eq_true.mpr ⟨_, List.getElem_mem i.isLt, hi⟩
          exact ⟨rfl, beq_iff_eq.mp hi, by simp [hany]⟩

/-- The field that is found has the name asked for, and the class that declares it is the first one
below the root to declare such a field. -/
theorem resolveField_eq_ok {owner : Class} {name : String} {m : FieldMember}
    (h : Attempt.outcome (owner.resolveField name) = .ok m) :
    m.owner = owner ∧ m.name = name ∧
      owner.belowRoot.find? (fun c => c.fields.any fun f => f.name == name) =
        some m.declaring := by
  unfold resolveField at h
  cases hfind : findMember? owner name owner.belowRoot with
  | none => simp [hfind] at h
  | some n =>
      rw [hfind, Attempt.outcome_report_bind, Attempt.outcome_pure] at h
      cases h
      exact findMember?_eq_some hfind

end Class

/-! ## Members -/

/-- What a resolver finds for a key. -/
def Resolver.resolve (resolver : Resolver) :
    MemberKey → Except Failure (ConstructorMember ⊕ FieldMember)
  | .constructor owner params => (Attempt.outcome (resolver.constructor owner params)).map .inl
  | .field owner name => (Attempt.outcome (resolver.field owner name)).map .inr

/-- What the usual resolver finds for a key. -/
def Registry.resolve (r : Registry) (key : MemberKey) :
    Except Failure (ConstructorMember ⊕ FieldMember) :=
  r.resolver.resolve key

namespace MemberKey

/-- The registry has no part in what the key means: a field, a constructor with the types left open,
or one that has exactly the requested types. -/
def Definite : MemberKey → Prop
  | .constructor owner (some types) => ∃ k ∈ owner.constructors, k.params = types
  | .constructor _ none | .field _ _ => True

/-- The key asks for a constructor by types that no constructor has exactly, and the name is one of
these types. -/
def Names : MemberKey → String → Prop
  | .constructor owner (some types), name =>
      (∀ k ∈ owner.constructors, k.params ≠ types) ∧ .named name ∈ types
  | .constructor _ none, _ | .field _ _, _ => False

theorem Definite.not_names {key : MemberKey} (h : key.Definite) (name : String) :
    ¬ key.Names name := by
  cases key with
  | field owner asked => exact not_false
  | constructor owner params =>
      cases params with
      | none => exact not_false
      | some types =>
          rintro ⟨hdifferent, -⟩
          obtain ⟨k, hk, hparams⟩ := h
          exact hdifferent k hk hparams

end MemberKey

namespace Registry

variable {r r' : Registry}

theorem resolve_congr {key : MemberKey}
    (h : ∀ name, key.Names name → r'.get? name = r.get? name) : r'.resolve key = r.resolve key := by
  cases key with
  | field owner name => rfl
  | constructor owner params =>
      refine congrArg (Except.map Sum.inl) (outcome_resolveConstructor_congr ?_)
      intro types htypes hdifferent name hname
      obtain rfl := Option.mem_def.mp htypes
      exact h name ⟨hdifferent, hname⟩

theorem resolve_of_definite {key : MemberKey} (h : key.Definite) : r'.resolve key = r.resolve key :=
  resolve_congr fun name hname => absurd hname (h.not_names name)

end Registry

end Metaobject
