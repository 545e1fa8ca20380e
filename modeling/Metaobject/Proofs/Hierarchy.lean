import Metaobject.Proofs.Heap.Slots
import Metaobject.Proofs.Overloads
import Metaobject.Proofs.Proxy.Generation

/-!
# The class hierarchy

A specification is built exactly when it is admissible. Classes are built from the root upwards, so
what the builder checks of one class and its superclass holds along the whole chain: it ends in the
root, no other class is taken for the root, all superclasses can be constructed without arguments,
and the parameters of a constructor tell it from the others.
-/

namespace Metaobject

theorem Class.isInterface_eq_false_iff {c : Class} : c.isInterface = false ↔ c.kind = .ordinary := by
  cases h : c.kind <;> simp [Class.isInterface, h]

theorem Class.isSome_noArgConstructor?_iff {c : Class} :
    c.noArgConstructor?.isSome = true ↔ ∃ k ∈ c.constructors, k.params = [] := by
  simp [Class.noArgConstructor?, List.find?_isSome]

/-! ## What can be built -/

namespace ClassSpec

/-- What a specification must meet to be built. -/
structure Admissible (spec : ClassSpec) : Prop where
  named : Text.isBlank spec.name = false
  interfaces : ∀ i ∈ spec.interfaces, i.kind = .interface
  interface : spec.kind = .interface →
    spec.superclass = none ∧ spec.constructors = [] ∧ spec.fields = []
  superclass : spec.kind = .ordinary → (spec.superclass.getD .root).kind = .ordinary ∧
    ∃ k ∈ (spec.superclass.getD .root).constructors, k.params = []
  constructors : (spec.constructors.map Constructor.params).Nodup
  fields : (spec.fields.map Field.name).Nodup

variable {spec : ClassSpec}

theorem checkName_eq_ok_iff : spec.checkName = .ok () ↔ Text.isBlank spec.name = false := by
  cases h : Text.isBlank spec.name <;> simp [checkName, defective, h]

theorem checkInterfaces_eq_ok_iff :
    spec.checkInterfaces = .ok () ↔ ∀ i ∈ spec.interfaces, i.kind = .interface := by
  have hnone : spec.interfaces.find? (fun i => !i.isInterface) = none ↔
      ∀ i ∈ spec.interfaces, i.kind = .interface := by
    simp [Class.isInterface]
  rw [← hnone, checkInterfaces]
  cases spec.interfaces.find? fun i => !i.isInterface <;> simp [defective]

theorem checkKind_interface_eq_ok_iff (h : spec.kind = .interface) :
    spec.checkKind = .ok () ↔
      spec.superclass = none ∧ spec.constructors = [] ∧ spec.fields = [] := by
  cases hs : spec.superclass <;> cases hc : spec.constructors <;> cases hf : spec.fields <;>
    simp [checkKind, defective, h, hs, hc, hf]

theorem checkKind_ordinary_eq_ok_iff (h : spec.kind = .ordinary) :
    spec.checkKind = .ok () ↔ (spec.superclass.getD .root).kind = .ordinary ∧
      ∃ k ∈ (spec.superclass.getD .root).constructors, k.params = [] := by
  rw [← Class.isInterface_eq_false_iff, ← Class.isSome_noArgConstructor?_iff, checkKind, h]
  cases hi : (spec.superclass.getD Class.root).isInterface <;>
    cases hk : (spec.superclass.getD Class.root).noArgConstructor? <;>
      simp [hi, hk, defective]

theorem nodup_params_declared_iff :
    (spec.declared.map Constructor.params).Nodup ↔
      (spec.constructors.map Constructor.params).Nodup := by
  unfold declared
  split
  · rename_i h
    simp [h.2]
  · rfl

theorem build_ok_iff {id : Nat} : (∃ c, spec.build id = .ok c) ↔ spec.Admissible := by
  have hbuild : (∃ c, spec.build id = .ok c) ↔ spec.checkName = .ok () ∧
      spec.checkInterfaces = .ok () ∧ spec.checkKind = .ok () ∧ spec.checkMembers = .ok () := by
    simp [build_eq_ok_iff]
  rw [hbuild, checkName_eq_ok_iff, checkInterfaces_eq_ok_iff, checkMembers_eq_ok_iff,
    nodup_params_declared_iff]
  cases hkind : spec.kind with
  | interface =>
      rw [checkKind_interface_eq_ok_iff hkind]
      constructor
      · rintro ⟨hname, hinterfaces, hbare, hconstructors, hfields⟩
        exact ⟨hname, hinterfaces, fun _ => hbare, by simp [hkind], hconstructors, hfields⟩
      · intro h
        exact ⟨h.named, h.interfaces, h.interface hkind, h.constructors, h.fields⟩
  | ordinary =>
      rw [checkKind_ordinary_eq_ok_iff hkind]
      constructor
      · rintro ⟨hname, hinterfaces, hsuperclass, hconstructors, hfields⟩
        exact ⟨hname, hinterfaces, by simp [hkind], fun _ => hsuperclass, hconstructors, hfields⟩
      · intro h
        exact ⟨h.named, h.interfaces, h.superclass hkind, h.constructors, h.fields⟩

end ClassSpec

namespace Class

/-! ## Classes that arise from the root -/

/-- The classes that arise from the root by building, the generated ones included. -/
inductive Built : Class → Prop
  | root : Built root
  | build {spec : ClassSpec} {id : Nat} {c : Class} : (∀ s ∈ spec.superclass, Built s) →
      (∀ i ∈ spec.interfaces, Built i) → spec.build id = .ok c → Built c
  | generate {q : ProxyRequest} {name : String} {id : Nat} {c : Class} {methods : List Method} :
      (∀ s ∈ q.superclass, Built s) → (∀ i ∈ q.interfaces, Built i) →
        ProxyCompiler.buildClass q name id = .ok (c, methods) → Built c

/-- What holds of every class that arises from the root. -/
structure Rooted (c : Class) : Prop where
  /-- The superclass chain of a class ends in the root, which has no superclass. -/
  chain : c.kind = .ordinary → c.ancestors = c.belowRoot ++ [root]
  isRoot_iff : c.isRoot = true ↔ c = root
  constructible : c.kind = .ordinary → c.constructors ≠ []
  superclasses : ∀ d ∈ c.ancestors.tail, d.kind = .ordinary ∧ ∃ k ∈ d.constructors, k.params = []
  interface : c.kind = .interface → c.superclass = none ∧ c.constructors = [] ∧ c.fields = []
  /-- Looking a constructor up by its parameters finds it, at use as well as in every registry. -/
  found : ∀ i : Fin c.constructors.length,
    c.constructors.find? (fun k => k.params == (c.constructors.get i).params) =
        some (c.constructors.get i) ∧
      ∀ r : Registry, Attempt.outcome
        (r.resolveConstructor c (some (c.constructors.get i).params)) = .ok ⟨c, i⟩

variable {c d : Class}

theorem mem_ancestors_iff : d ∈ c.ancestors ↔ d = c ∨ d ∈ c.ancestors.tail := by
  obtain ⟨decl, superclass, interfaces⟩ := c
  cases superclass with
  | none => simp [ancestors_mk_none]
  | some s => simp [ancestors_mk_some]

/-- Where the parameter lists are distinct, the first constructor with given parameters is the only
one. -/
theorem findFinIdx?_params (h : (c.constructors.map Constructor.params).Nodup)
    (i : Fin c.constructors.length) :
    c.constructors.findFinIdx? (fun k => k.params == (c.constructors.get i).params) = some i := by
  rw [List.findFinIdx?_eq_some_iff]
  refine ⟨by simp, fun j hj => ?_⟩
  have hpairwise := List.pairwise_iff_getElem.mp (List.pairwise_map.mp h)
  have hne : c.constructors[j].params ≠ (c.constructors.get i).params :=
    hpairwise j i j.isLt i.isLt hj
  simpa using hne

theorem found_of_nodup (h : (c.constructors.map Constructor.params).Nodup)
    (hinterface : c.kind = .interface → c.constructors = []) (i : Fin c.constructors.length) :
    c.constructors.find? (fun k => k.params == (c.constructors.get i).params) =
        some (c.constructors.get i) ∧
      ∀ r : Registry, Attempt.outcome
        (r.resolveConstructor c (some (c.constructors.get i).params)) = .ok ⟨c, i⟩ := by
  have hindex := findFinIdx?_params h i
  refine ⟨?_, fun r => ?_⟩
  · have hfirst := (List.findFinIdx?_eq_some_iff.mp hindex).2
    rw [List.find?_eq_some_iff_getElem]
    refine ⟨by simp, i, i.isLt, rfl, fun j hj => ?_⟩
    simpa using hfirst ⟨j, by omega⟩ hj
  · have hordinary : c.isInterface = false := by
      rw [isInterface_eq_false_iff]
      cases hkind : c.kind with
      | ordinary => rfl
      | interface =>
          have hlength := congrArg List.length (hinterface hkind)
          exact absurd i.isLt (by simp [hlength])
    have hmatch : r.matchingConstructor? c (c.constructors.get i).params = some i := by
      rw [Registry.matchingConstructor?, hindex]
      rfl
    rw [Registry.outcome_resolveConstructor, hordinary, if_neg Bool.false_ne_true]
    simp only [hmatch]
    rfl

theorem rooted_root : root.Rooted where
  chain _ := by simp [ancestors, root, belowRoot, isRoot, superclass, kind, name, decl]
  isRoot_iff := by simp [root, isRoot, superclass, kind, name, decl]
  constructible _ := by simp [root, constructors, decl]
  superclasses := by simp [root, ancestors]
  interface h := by cases h
  found := found_of_nodup (by simp [root, constructors, decl]) nofun

theorem isRoot_described (spec : ClassSpec) (id : Nat) : (spec.described id).isRoot = false := by
  cases hkind : spec.kind <;>
    simp [isRoot, ClassSpec.described, ClassSpec.parent, kind, superclass, decl, hkind]

/-- An admissible class inherits from its superclass what holds along the chain. -/
theorem rooted_described {spec : ClassSpec} {id : Nat} (h : spec.Admissible)
    (hsuperclass : ∀ s ∈ spec.superclass, s.Rooted) : (spec.described id).Rooted := by
  have hparams : ((spec.described id).constructors.map Constructor.params).Nodup :=
    ClassSpec.nodup_params_declared_iff.mpr h.constructors
  have hroot : (spec.described id).isRoot = true ↔ spec.described id = root := by
    refine ⟨fun hroot => absurd hroot (by simp [isRoot_described]), fun heq => ?_⟩
    exact heq ▸ rooted_root.isRoot_iff.mpr rfl
  cases hkind : spec.kind with
  | interface =>
      have hdescribed : (spec.described id).kind = .interface := hkind
      have hparent : (spec.described id).superclass = none := by
        simp [ClassSpec.described, ClassSpec.parent, superclass, hkind]
      have hdeclared : (spec.described id).constructors = [] := by
        simp [ClassSpec.described, ClassSpec.declared, constructors, decl, hkind,
          (h.interface hkind).2.1]
      have hchain : (spec.described id).ancestors.tail = [] := by
        simp [ClassSpec.described, ClassSpec.parent, hkind, ancestors_mk_none]
      exact
        { chain := by simp [hdescribed]
          isRoot_iff := hroot
          constructible := by simp [hdescribed]
          superclasses := by simp [hchain]
          interface := fun _ => ⟨hparent, hdeclared, (h.interface hkind).2.2⟩
          found := found_of_nodup hparams fun _ => hdeclared }
  | ordinary =>
      obtain ⟨hordinary, hconstructor⟩ := h.superclass hkind
      have hrooted : (spec.superclass.getD root).Rooted := by
        cases hs : spec.superclass with
        | none => exact rooted_root
        | some s => exact hsuperclass s hs
      have hdescribed : (spec.described id).kind = .ordinary := hkind
      have hchain : (spec.described id).ancestors =
          spec.described id :: (spec.superclass.getD root).ancestors :=
        ancestors_of_superclass (by simp [ClassSpec.described, ClassSpec.parent, superclass, hkind])
      have hbelow : (spec.described id).belowRoot =
          spec.described id :: (spec.superclass.getD root).belowRoot := by
        simp [belowRoot, hchain, isRoot_described]
      have hdeclared : spec.declared ≠ [] := by
        unfold ClassSpec.declared
        split
        · simp
        · tauto
      refine
        { chain := fun _ => by rw [hchain, hbelow, hrooted.chain hordinary, List.cons_append]
          isRoot_iff := hroot
          constructible := fun _ => hdeclared
          superclasses := fun d hd => ?_
          interface := by simp [hdescribed]
          found := found_of_nodup hparams (by simp [hdescribed]) }
      rw [hchain, List.tail_cons] at hd
      rcases mem_ancestors_iff.mp hd with rfl | hd
      · exact ⟨hordinary, hconstructor⟩
      · exact hrooted.superclasses d hd

/-! ## The invariant of the hierarchy -/

theorem rooted_base {q : ProxyRequest} (h : ∀ s ∈ q.superclass, s.Rooted) : q.base.Rooted := by
  cases hs : q.superclass with
  | none => simpa [ProxyRequest.base, hs] using rooted_root
  | some s => simpa [ProxyRequest.base, hs] using h s hs

theorem Built.rooted (h : c.Built) : c.Rooted := by
  have hbuilt {spec : ClassSpec} {id : Nat} {c : Class} (hbuild : spec.build id = .ok c)
      (hsuperclass : ∀ s ∈ spec.superclass, s.Rooted) : c.Rooted := by
    have hadmissible := ClassSpec.build_ok_iff.mp ⟨c, hbuild⟩
    obtain ⟨-, -, -, -, rfl⟩ := ClassSpec.build_eq_ok_iff.mp hbuild
    exact rooted_described hadmissible hsuperclass
  induction h with
  | root => exact rooted_root
  | build _ _ hbuild ihsuperclass _ => exact hbuilt hbuild ihsuperclass
  | generate _ _ hgenerate ihsuperclass _ =>
      apply hbuilt (ProxyCompiler.build_of_buildClass hgenerate).2
      rintro s ⟨⟩
      exact rooted_base ihsuperclass

/-- No class has two constructors without parameters, so the first one is all there is. -/
theorem Rooted.noArgConstructor?_eq_some_iff (h : c.Rooted) {k : Constructor} :
    c.noArgConstructor? = some k ↔ k ∈ c.constructors ∧ k.params = [] := by
  have hlookup : c.noArgConstructor? = c.constructors.find? fun j => j.params == [] := by
    rw [noArgConstructor?]
    congr 1
    funext j
    cases j.params <;> rfl
  rw [hlookup]
  refine ⟨fun hfirst => ?_, fun ⟨hk, hparams⟩ => ?_⟩
  · exact ⟨List.mem_of_find?_eq_some hfirst, by simpa using List.find?_some hfirst⟩
  · obtain ⟨i, rfl⟩ := List.get_of_mem hk
    have hfound := (h.found i).1
    rwa [hparams] at hfound

theorem built_of_reaches_root (h : root.Reaches d) : d.Built := by
  rcases reaches_mk_iff.mp h with rfl | ⟨s, hs, -⟩ | ⟨i, hi, -⟩
  · exact .root
  · cases hs
  · cases hi

theorem built_of_reaches_build {spec : ClassSpec} {id : Nat} (hbuild : spec.build id = .ok c)
    (hc : c.Built) (hsuperclass : ∀ s ∈ spec.superclass, s.Reaches d → d.Built)
    (hinterfaces : ∀ i ∈ spec.interfaces, i.Reaches d → d.Built) (h : c.Reaches d) : d.Built := by
  obtain ⟨-, -, -, -, rfl⟩ := ClassSpec.build_eq_ok_iff.mp hbuild
  rcases reaches_mk_iff.mp h with rfl | ⟨p, hp, hpd⟩ | ⟨i, hi, hid⟩
  · exact hc
  · cases hkind : spec.kind with
    | interface => simp [ClassSpec.parent, hkind] at hp
    | ordinary =>
        obtain rfl : spec.superclass.getD root = p := by simpa [ClassSpec.parent, hkind] using hp
        cases hs : spec.superclass with
        | none => exact built_of_reaches_root (by simpa [hs] using hpd)
        | some s => exact hsuperclass s hs (by simpa [hs] using hpd)
  · exact hinterfaces i hi hid

/-- All that a class inherits from arises from the root as the class itself does. -/
theorem Built.of_reaches (h : c.Built) (hreaches : c.Reaches d) : d.Built := by
  induction h with
  | root => exact built_of_reaches_root hreaches
  | build hsuperclass hinterfaces hbuild ihsuperclass ihinterfaces =>
      exact built_of_reaches_build hbuild (.build hsuperclass hinterfaces hbuild) ihsuperclass
        ihinterfaces hreaches
  | @generate q name id c methods hsuperclass hinterfaces hgenerate ihsuperclass ihinterfaces =>
      have hbase : ∀ s ∈ some q.base, s.Reaches d → d.Built := by
        rintro s ⟨⟩ hs
        cases hq : q.superclass with
        | none => exact built_of_reaches_root (by simpa [ProxyRequest.base, hq] using hs)
        | some b => exact ihsuperclass b hq (by simpa [ProxyRequest.base, hq] using hs)
      exact built_of_reaches_build (ProxyCompiler.build_of_buildClass hgenerate).2
        (.generate hsuperclass hinterfaces hgenerate) hbase ihinterfaces hreaches

/-! ## Interfaces and superclasses -/

theorem Built.eq_root_or_build (h : c.Built) :
    c = Class.root ∨ ∃ (spec : ClassSpec) (id : Nat), spec.build id = .ok c := by
  cases h with
  | root => exact .inl rfl
  | build _ _ hbuild => exact .inr ⟨_, _, hbuild⟩
  | generate _ _ hgenerate => exact .inr ⟨_, _, (ProxyCompiler.build_of_buildClass hgenerate).2⟩

theorem Built.nodup_field_names (h : c.Built) : (c.fields.map Field.name).Nodup :=
  Class.nodup_field_names h.eq_root_or_build

theorem Built.kind_of_mem_interfaces (h : c.Built) {i : Class} (hi : i ∈ c.interfaces) :
    i.kind = .interface := by
  rcases h.eq_root_or_build with rfl | ⟨spec, id, hbuild⟩
  · cases hi
  · have hadmissible := ClassSpec.build_ok_iff.mp ⟨c, hbuild⟩
    obtain ⟨-, -, -, -, rfl⟩ := ClassSpec.build_eq_ok_iff.mp hbuild
    exact hadmissible.interfaces i hi

theorem Built.kind_of_reaches (h : c.Built) (hkind : c.kind = .interface) (hd : c.Reaches d) :
    d.kind = .interface := by
  induction hd with
  | refl => exact hkind
  | superclass hs _ _ =>
      rw [(h.rooted.interface hkind).1] at hs
      cases hs
  | interface hi _ ih =>
      exact ih (h.of_reaches (.interface hi (.refl _))) (h.kind_of_mem_interfaces hi)

theorem Built.kind_of_superclass (h : c.Built) {s : Class} (hs : s ∈ c.superclass) :
    s.kind = .ordinary := by
  refine (h.rooted.superclasses s ?_).1
  rw [ancestors_of_superclass hs, List.tail_cons]
  exact mem_ancestors_iff.mpr (.inl rfl)

/-- What is not an interface is inherited from along the superclass chain only. -/
theorem Built.mem_ancestors_of_reaches (h : c.Built) (hd : c.Reaches d)
    (hkind : d.kind = .ordinary) : d ∈ c.ancestors := by
  induction hd with
  | refl => exact mem_ancestors_iff.mpr (.inl rfl)
  | superclass hs _ ih =>
      rw [ancestors_of_superclass hs]
      exact List.mem_cons_of_mem _ (ih (h.of_reaches (.superclass hs (.refl _))) hkind)
  | interface hi hd _ =>
      have hbuilt := h.of_reaches (.interface hi (.refl _))
      cases hkind.symm.trans (hbuilt.kind_of_reaches (h.kind_of_mem_interfaces hi) hd)

end Class

/-- A specification is built exactly when it is admissible. Every class that arises from the root by
building, every generated one, and all that they inherit from have the root at the end of their
superclass chain, are not taken for it, can be constructed as their subclasses need it, and give
each constructor back for its parameters. -/
theorem ClassSpec.build_hierarchy :
    (∀ (spec : ClassSpec) (id : Nat), (∃ c, spec.build id = .ok c) ↔ spec.Admissible) ∧
      ∀ c d : Class, c.Built → c.Reaches d → d.Rooted :=
  ⟨fun _ _ => build_ok_iff, fun _ _ hc hd => (hc.of_reaches hd).rooted⟩

/-! ### A generated class and its superclass -/

namespace Samples

def sqlProxyRequest : ProxyRequest := ⟨[repository], some sqlRepository, none, true⟩

def sqlProxy : Class :=
  (ProxyCompiler.classSpec sqlProxyRequest "adsp.proxy.SqlRepository$Proxy$0"
    (sqlRepository.interceptedMethods [repository])).described 5

theorem built_repository : repository.Built := by
  have hbuild : (ClassSpec.named "app.Repository" .interface).build 1 = .ok repository := rfl
  exact .build (by simp [ClassSpec.named]) (by simp [ClassSpec.named]) hbuild

theorem built_sqlRepository : sqlRepository.Built := by
  have hbuild : ClassSpec.build { ClassSpec.named "app.SqlRepository" .ordinary with
      interfaces := [repository] } 2 = .ok sqlRepository := rfl
  have hinterfaces : ∀ i ∈ [repository], i.Built := by
    simpa using built_repository
  exact .build (by simp [ClassSpec.named]) hinterfaces hbuild

theorem sqlProxy_hierarchy : sqlProxy.Built ∧ sqlProxy.Reaches sqlRepository ∧
    sqlProxy.Rooted ∧ sqlRepository.Rooted := by
  have hgenerate : ProxyCompiler.buildClass sqlProxyRequest
      "adsp.proxy.SqlRepository$Proxy$0" 5 =
        .ok (sqlProxy, sqlRepository.interceptedMethods [repository]) := rfl
  have hsuperclass : ∀ s ∈ sqlProxyRequest.superclass, s.Built := by
    rintro s ⟨⟩
    exact built_sqlRepository
  have hinterfaces : ∀ i ∈ sqlProxyRequest.interfaces, i.Built := by
    simpa [sqlProxyRequest] using built_repository
  have hbuilt : sqlProxy.Built := .generate hsuperclass hinterfaces hgenerate
  have hreaches : sqlProxy.Reaches sqlRepository := .superclass rfl (.refl _)
  exact ⟨hbuilt, hreaches, ClassSpec.build_hierarchy.2 _ _ hbuilt (.refl _),
    ClassSpec.build_hierarchy.2 _ _ hbuilt hreaches⟩

end Samples

end Metaobject
