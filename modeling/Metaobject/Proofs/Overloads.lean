import Metaobject.Proofs.Subtyping
import Metaobject.Proofs.Tiers

/-!
# Overloads and arguments agree

A constructor is chosen by the types of a request, before there are arguments, and arguments are
checked against its parameters by what they are when it runs. Where each name means one class, the
two fit together: what the types of the request take, the parameters of the constructor take as
well, apart from null where a wrapper type was asked for and the parameter is primitive.
-/

namespace Metaobject

namespace Registry

theorem isAssignable_cases {r : Registry} {target source : TypeRef}
    (h : r.isAssignable target source = true) :
    target = source ∨ (∃ p, target = .primitive p ∧ source = .boxed p) ∨
      (∃ p, target = .boxed p ∧ source = .primitive p) ∨ target = .root ∨
        ∃ t s c, target = .named t ∧ source = .named s ∧ r.get? s = some c ∧
          c.isSubtypeOf t = true := by
  unfold isAssignable at h
  rw [Bool.or_eq_true, Bool.or_eq_true, beq_iff_eq] at h
  rcases h with (rfl | hboxing) | hnamed
  · exact .inl rfl
  · cases target <;> cases source <;> simp [TypeRef.boxingEquivalent] at hboxing <;>
      simp [hboxing]
  · cases target with
    | named t =>
        by_cases ht : t = rootName
        · exact .inr (.inr (.inr (.inl (congrArg TypeRef.named ht))))
        · cases source with
          | named s =>
              obtain ⟨c, hc, hsub⟩ : ∃ c, r.get? s = some c ∧ c.isSubtypeOf t = true := by
                simpa [ht, Option.any_eq_true] using hnamed
              exact .inr (.inr (.inr (.inr ⟨t, s, c, rfl, rfl, hc, hsub⟩)))
          | _ => simp [ht] at hnamed
    | _ => simp at hnamed

theorem fits_iff {r : Registry} {params requested : List TypeRef} :
    r.fits params requested = true ↔
      List.Forall₂ (fun param type => r.isAssignable param type = true) params requested := by
  rw [List.forall₂_iff_zip]
  simp [fits, List.all_eq_true]

end Registry

section

variable (G : ClassGraph) {r : Registry}

theorem Class.root_isSubtypeOf {name : String} (h : Class.root.isSubtypeOf name = true) :
    name = rootName := by
  have hname : (rootName == name) = true := by
    simpa [Class.root, Class.isSubtypeOf_mk, Class.anySubtypeOf] using h
  exact (beq_iff_eq.mp hname).symm

theorem TypeRef.accepts_of_subtype (hr : r.Reachable) (hclasses : ∀ c ∈ r.classes, G.Mem c)
    {t s : String} {c : Class} {v : Value} (hv : ∀ o, v = .object o → G.Mem o.cls)
    (hc : r.get? s = some c) (hsub : c.isSubtypeOf t = true)
    (h : (TypeRef.named s).accepts v = true) : (TypeRef.named t).accepts v = true := by
  by_cases hs : s = rootName
  · -- the root type takes every value, but only the root type can be meant by its name
    subst hs
    obtain rfl : Class.root = c := Option.some.inj (hr.get?_root.symm.trans hc)
    obtain rfl : t = rootName := Class.root_isSubtypeOf hsub
    simp [TypeRef.accepts]
  · cases v with
    | null => simp [TypeRef.accepts]
    | object o =>
        have hos : o.cls.isSubtypeOf s = true := by
          simpa [TypeRef.accepts, hs, ObjectRef.isInstanceOf] using h
        have hname : c.name = s := Registry.name_of_get? hc
        have hcmem : G.Mem c := hclasses c (Registry.mem_of_get? hc)
        have hot : o.cls.isSubtypeOf t = true :=
          G.isSubtypeOf_trans (hv o rfl) hcmem (hname ▸ hos) hsub
        simp [TypeRef.accepts, ObjectRef.isInstanceOf, hot]
    | _ => simp [TypeRef.accepts, hs] at h

theorem TypeRef.accepts_of_isAssignable (hr : r.Reachable)
    (hclasses : ∀ c ∈ r.classes, G.Mem c) {target source : TypeRef} {v : Value}
    (hv : ∀ o, v = .object o → G.Mem o.cls) (hnull : target.isPrimitive = true → v ≠ .null)
    (hassignable : r.isAssignable target source = true) (h : source.accepts v = true) :
    target.accepts v = true := by
  rcases Registry.isAssignable_cases hassignable with rfl | ⟨p, rfl, rfl⟩ | ⟨p, rfl, rfl⟩ | rfl |
    ⟨t, s, c, rfl, rfl, hc, hsub⟩
  · exact h
  · have hpresent : v.isNull = false := Bool.eq_false_iff.mpr (mt isNull_iff.mp (hnull rfl))
    simpa [TypeRef.accepts, hpresent] using h
  · have hkind : v.primitive? = some p := by simpa [TypeRef.accepts] using h
    simp [TypeRef.accepts, hkind]
  · simp [TypeRef.accepts, TypeRef.root]
  · exact accepts_of_subtype G hr hclasses hv hc hsub h

theorem TypeRef.acceptsAll_of_fits (hr : r.Reachable) (hclasses : ∀ c ∈ r.classes, G.Mem c)
    {params requested : List TypeRef} {args : List Value}
    (hargs : ∀ o, .object o ∈ args → G.Mem o.cls)
    (hnull : ∀ e ∈ params.zip args, e.1.isPrimitive = true → e.2 ≠ .null)
    (hfits : r.fits params requested = true) (h : AcceptsAll requested args) :
    AcceptsAll params args := by
  have hassignable := Registry.fits_iff.mp hfits
  clear hfits
  induction hassignable generalizing args with
  | nil => exact h
  | cons hfirst _ ih =>
      cases h with
      | cons harg hrest =>
          have hzip := List.forall_mem_cons.mp (List.zip_cons_cons ▸ hnull)
          refine .cons ?_ (ih (fun o ho => hargs o (List.mem_cons_of_mem _ ho)) hzip.2 hrest)
          exact accepts_of_isAssignable G hr hclasses (fun o ho => hargs o (ho ▸ List.mem_cons_self))
            hzip.1 hfirst harg

end

/-! ## Construction after the check -/

theorem HeapAttempt.ofAct_ne_mismatch {α : Type} (x : Act α) (heap : Heap) (index : Nat)
    (expected actual : String) :
    (outcome (ofAct x) heap).1 ≠ .error (.argumentTypeMismatch index expected actual) := by
  rw [outcome_ofAct]
  rcases (x.outcome heap).1 with (_ | _) | _ <;> exact nofun

theorem ConstructorInvoker.construct_ne_mismatch {invoker : ConstructorInvoker}
    {args : List Value} (h : TypeRef.checkArguments invoker.params args = .ok ())
    (link : Linkage) (depth : Nat) (heap : Heap) (index : Nat) (expected actual : String) :
    (HeapAttempt.outcome (invoker.construct link depth args) heap).1 ≠
      .error (.argumentTypeMismatch index expected actual) := by
  cases invoker with
  | native owner params entry =>
      simp only [ConstructorInvoker.params] at h
      rw [construct, h, HeapAttempt.outcome_ofExcept_ok_bind]
      exact HeapAttempt.ofAct_ne_mismatch _ _ _ _ _
  | handle owner k =>
      simp only [ConstructorInvoker.params] at h
      rw [construct, h, HeapAttempt.outcome_ofExcept_ok_bind]
      exact HeapAttempt.ofAct_ne_mismatch _ _ _ _ _
  | reflective owner params =>
      simp only [ConstructorInvoker.params] at h
      cases hfind : owner.constructors.find? fun k => k.params == params with
      | none => simp [construct, hfind]
      | some k =>
          have hk : k.params = params := by simpa using List.find?_some hfind
          simp only [construct, hfind]
          rw [HeapAttempt.outcome_report_bind, hk, h, HeapAttempt.outcome_ofExcept_ok_bind]
          exact HeapAttempt.ofAct_ne_mismatch _ _ _ _ _

theorem Strategy.params_of_standard {nativeTier handleTier : Bool} {s : Strategy}
    {m : ConstructorMember} {invoker : ConstructorInvoker}
    (hs : s ∈ Strategy.standard nativeTier handleTier) (h : s.constructor m = .ok invoker) :
    invoker.params = m.params := by
  simp only [Strategy.standard, List.mem_cons, List.not_mem_nil, or_false] at hs
  rcases hs with rfl | rfl | rfl
  · obtain ⟨entry, -, rfl⟩ := Strategy.constructor_of_native h
    rfl
  · rw [Strategy.constructor_of_typedHandle h]
    rfl
  · rw [← Except.ok.inj h]
    rfl

/-- When a request for a constructor succeeds, arguments that the requested types take pass the
check of the constructor that was found, unless one is null where its parameter is primitive, and
no tier reports a mismatch of arguments. -/
theorem Registry.checkArguments_of_resolveConstructor (G : ClassGraph) {r : Registry}
    (hr : r.Reachable) (hclasses : ∀ c ∈ r.classes, G.Mem c) {owner : Class}
    {requested : List TypeRef} {args : List Value} {m : ConstructorMember}
    (hargs : ∀ o, .object o ∈ args → G.Mem o.cls)
    (hresolved : Attempt.outcome (r.resolveConstructor owner (some requested)) = .ok m)
    (hlength : requested.length = args.length)
    (haccepted : ∀ e ∈ requested.zip args, e.1.accepts e.2 = true)
    (hnull : ∀ e ∈ m.params.zip args, e.1.isPrimitive = true → e.2 ≠ .null) :
    TypeRef.checkArguments m.params args = .ok () ∧
      ∀ nativeTier handleTier, ∀ s ∈ Strategy.standard nativeTier handleTier,
        ∀ invoker, s.constructor m = .ok invoker →
          ∀ link depth heap index expected actual,
            (HeapAttempt.outcome (invoker.construct link depth args) heap).1 ≠
              .error (.argumentTypeMismatch index expected actual) := by
  have hrequested : TypeRef.AcceptsAll requested args :=
    TypeRef.acceptsAll_iff_zip.mpr ⟨hlength, haccepted⟩
  have hparams : TypeRef.AcceptsAll m.params args := by
    rcases Registry.params_of_resolveConstructor hresolved with hexact | hfits
    · exact hexact ▸ hrequested
    · exact TypeRef.acceptsAll_of_fits G hr hclasses hargs hnull hfits hrequested
  have hcheck : TypeRef.checkArguments m.params args = .ok () :=
    TypeRef.checkArguments_eq_ok_iff.mpr hparams
  refine ⟨hcheck, fun nativeTier handleTier s hs invoker hinvoker => ?_⟩
  exact ConstructorInvoker.construct_ne_mismatch
    ((Strategy.params_of_standard hs hinvoker).symm ▸ hcheck)

/-! ### A request for a subclass -/

namespace Samples

def repository : Class := (ClassSpec.named "app.Repository" .interface).described 1

def sqlRepository : Class :=
  { ClassSpec.named "app.SqlRepository" .ordinary with
    interfaces := [repository] }.described 2

/-- A subclass, which is not defined in the registry. -/
def cachedRepository : Class :=
  { ClassSpec.named "app.CachedRepository" .ordinary with
    superclass := some sqlRepository }.described 3

/-- A class whose constructor takes what implements the interface, and a number. -/
def service : Class :=
  { ClassSpec.named "app.Service" .ordinary with
    constructors := [⟨[.named "app.Repository", .primitive .int], .pub, none, none⟩] }.described 4

def registry : Registry := ⟨[.root, repository, sqlRepository, service]⟩

theorem reachable_registry : registry.Reachable := by
  have hrepository : Registry.initial.insert? repository = .ok ⟨[.root, repository]⟩ := rfl
  have hsql : Registry.insert? ⟨[.root, repository]⟩ sqlRepository =
    .ok ⟨[.root, repository, sqlRepository]⟩ := rfl
  have hservice : Registry.insert? ⟨[.root, repository, sqlRepository]⟩ service =
    .ok registry := rfl
  exact .define (.define (.define .initial hrepository) hsql) hservice

def classes : List Class := [.root, repository, sqlRepository, cachedRepository, service]

theorem nodup_names : (classes.map Class.name).Nodup := by decide

def graph : ClassGraph where
  Mem c := c ∈ classes
  superclass_mem := by
    intro c s hc hs
    simp only [classes, List.mem_cons, List.not_mem_nil, or_false] at hc
    rcases hc with rfl | rfl | rfl | rfl | rfl <;> cases hs
    · exact .head _
    · exact .tail _ (.tail _ (.head _))
    · exact .head _
  interface_mem := by
    intro c i hc hi
    simp only [classes, List.mem_cons, List.not_mem_nil, or_false] at hc
    rcases hc with rfl | rfl | rfl | rfl | rfl <;> cases hi
    · exact .tail _ (.head _)
    · contradiction
  eq_of_name_eq := fun hc hd h => List.inj_on_of_nodup_map nodup_names hc hd h

theorem service_takes_subclass :
    Attempt.outcome (registry.resolveConstructor service
        (some [.named "app.SqlRepository", .boxed .int])) = .ok ⟨service, ⟨0, by decide⟩⟩ ∧
      TypeRef.checkArguments [.named "app.Repository", .primitive .int]
        [.object ⟨0, cachedRepository⟩, .int 3] = .ok () := by
  have hclasses : ∀ c ∈ registry.classes, graph.Mem c := by
    intro c hc
    simp only [registry, List.mem_cons, List.not_mem_nil, or_false] at hc
    simp only [graph, Samples.classes, List.mem_cons, List.not_mem_nil, or_false]
    tauto
  have hargs : ∀ o, Value.object o ∈ [.object ⟨0, cachedRepository⟩, .int 3] →
      graph.Mem o.cls := by
    intro o ho
    simp only [List.mem_cons, Value.object.injEq, List.not_mem_nil, or_false, reduceCtorEq] at ho
    subst ho
    simp [graph, classes]
  have hresolved : Attempt.outcome (registry.resolveConstructor service
      (some [.named "app.SqlRepository", .boxed .int])) = .ok ⟨service, ⟨0, by decide⟩⟩ := rfl
  have haccepted : ∀ e ∈ [TypeRef.named "app.SqlRepository", .boxed .int].zip
      [Value.object ⟨0, cachedRepository⟩, .int 3], e.1.accepts e.2 = true := by
    simp only [List.zip_cons_cons, List.zip_nil_right, List.forall_mem_cons]
    exact ⟨by decide, by decide, by simp⟩
  have hnull : ∀ e ∈ [TypeRef.named "app.Repository", .primitive .int].zip
      [Value.object ⟨0, cachedRepository⟩, .int 3], e.1.isPrimitive = true → e.2 ≠ .null := by
    simp
  exact ⟨hresolved, (Registry.checkArguments_of_resolveConstructor graph reachable_registry
    hclasses hargs hresolved rfl haccepted hnull).1⟩

end Samples

end Metaobject
