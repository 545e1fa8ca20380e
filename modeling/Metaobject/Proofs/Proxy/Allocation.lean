import Metaobject.Proofs.Precedence
import Metaobject.Proofs.Proxy.Exclusion
import Metaobject.Proofs.Session.Proxies

/-!
# Instances without construction

A request for an instance without construction gets the object of the first allocator that gives one,
and is a request with construction when all allocators refuse. With the usual allocators, these two
cases are told apart by the capabilities and by whether the class is open to handles. Then what the
routines of the constructors do matters only where the constructors run: there are constructors without
parameters to run, and one of them has a body.
-/

namespace Metaobject

/-! ## The constructors that run -/

namespace Class

/-- The constructors without parameters of a class and its superclasses, the root's first. -/
def defaultConstructors (c : Class) : List Constructor :=
  c.ancestors.reverse.filterMap noArgConstructor?

theorem filterMap_noArgConstructor? {ds : List Class} {js : List Constructor}
    (h : List.Forall₂ (fun d j => d.noArgConstructor? = some j) ds js) :
    ds.filterMap noArgConstructor? = js := by
  induction h with
  | nil => rfl
  | cons hj _ ih => rw [List.filterMap_cons_some hj, ih]

theorem defaultConstructors_eq {c : Class} {js : List Constructor} {k : Constructor}
    (hjs : List.Forall₂ (fun d j => d.noArgConstructor? = some j) c.superclassesFromRoot js)
    (hk : c.noArgConstructor? = some k) : c.defaultConstructors = js ++ [k] := by
  rw [defaultConstructors, ← superclassesFromRoot_append, List.filterMap_append,
    filterMap_noArgConstructor? hjs, List.filterMap_cons_some hk, List.filterMap_nil]

end Class

namespace Program

variable {perform : Request → Act Value} {h : Heap} {link : Linkage} {o : ObjectRef}

theorem inOrder_done {ps : List Program} (hps : ∀ p ∈ ps, p = .done .null) :
    InOrder perform ps h (.ok ()) h := by
  induction ps with
  | nil => exact .finish h
  | cons p ps ih =>
      obtain ⟨rfl, hrest⟩ := List.forall_mem_cons.mp hps
      exact .next rfl (ih hrest)

theorem InOrder.unique {ps : List Program} {r r' : Except Halt Unit} {g g' : Heap}
    (hr : InOrder perform ps h r g) (hr' : InOrder perform ps h r' g') : r = r' ∧ g = g' :=
  Prod.mk.inj ((inOrder_iff.mp hr).symm.trans (inOrder_iff.mp hr'))

/-- When all routines raise an exception, it ends the constructors at the first one with a body. -/
theorem inOrder_raise {ks : List Constructor} {e : Exception} {args : List Value}
    (hlink : link = fun _ _ _ => .raise e) (hks : ∃ k ∈ ks, k.body.isSome = true) :
    InOrder perform (ks.map (Constructor.program link o args)) h (.error (.threw e)) h := by
  induction ks with
  | nil => simp at hks
  | cons k ks ih =>
      rw [List.map_cons]
      cases hbody : k.body with
      | none =>
          have hrest : ∃ j ∈ ks, j.body.isSome = true := by simpa [hbody] using hks
          have hprogram : k.program link o args = .done .null := by rw [Constructor.program, hbody]
          exact hprogram ▸ .next rfl (ih hrest)
      | some label =>
          have hprogram : k.program link o args = .raise e := by
            rw [Constructor.program, hbody, hlink]
          exact hprogram ▸ .fail rfl

end Program

/-! ## New instances -/

/-- The second heap has in addition a new object of the class that is bound to the handler and holds
the default values of its fields. -/
structure Heap.GainsBound (h : Heap) (c : Class) (handler : Handler) (o : ObjectRef) (g : Heap) :
    Prop where
  cls : o.cls = c
  fresh : h.object? o = none
  others : ∀ p : ObjectRef, p.address ≠ o.address → g.object? p = h.object? p
  recorded : g.recorded = h.recorded
  bound : g.handler? o = some handler
  defaults : (c.ancestors.map Class.name).Nodup → ∀ d ∈ c.ancestors, ∀ f ∈ d.fields,
    g.readSlot o ⟨d.name, f.name⟩ = some f.type.defaultValue

theorem Heap.gainsBound_of_bindHandler {h g : Heap} {c : Class} {handler : Handler} (hc : c.Built)
    (hg : (h.allocate c).2.bindHandler (h.allocate c).1 handler = .ok g) :
    h.GainsBound c handler (h.allocate c).1 g := by
  have hgains := h.gains_allocate c
  have hpresent : ((h.allocate c).2.object? (h.allocate c).1).isSome = true := by
    rw [h.object?_allocate]
    rfl
  have hdefaults := Heap.holdsDefaults_of_bindHandler hg
  have hbound := Heap.handler?_of_bindHandler hg hpresent
  obtain ⟨-, rfl⟩ := Heap.bindHandler_eq_ok_iff.mp hg
  refine ⟨rfl, hgains.fresh, fun p hp => ?_, hgains.recorded, hbound, fun hnames d hd f hf => ?_⟩
  · rw [object?_update, if_neg hp.symm, hgains.others p hp]
  · -- a slot that is declared once holds the default value of this declaration
    have hfields : (d.fields.map Field.name).Nodup :=
      (hc.of_reaches (Class.reaches_of_mem_ancestors hd)).nodup_field_names
    obtain ⟨v, hv⟩ := Option.isSome_iff_exists.mp (hdefaults.present d hd f hf)
    obtain ⟨e, he, k, hk, hslot, rfl⟩ := hdefaults.default hv
    obtain ⟨howner, hname⟩ := Slot.mk.inj hslot
    obtain rfl := List.inj_on_of_nodup_map hnames hd he howner
    obtain rfl := List.inj_on_of_nodup_map hfields hf hk hname
    exact hv

/-! ## How an instance is made -/

/-- What is generated from classes that arise from the root arises from it as well. -/
theorem ProxyClass.IsBuilt.built {p : ProxyClass} (hp : p.IsBuilt)
    (hsuperclass : ∀ s ∈ p.request.superclass, s.Built)
    (hinterfaces : ∀ i ∈ p.request.interfaces, i.Built) : p.cls.Built := by
  obtain ⟨name, id, methods, hbuild⟩ := hp
  exact .generate hsuperclass hinterfaces hbuild

/-- One of the allocators is able to make instances of the class. -/
def Capabilities.Allocates (c : Capabilities) (cls : Class) : Prop :=
  c.rawAllocation = true ∨ c.handleAllocation = true ∧ cls.openToHandles = true

instance (c : Capabilities) (cls : Class) : Decidable (c.Allocates cls) :=
  inferInstanceAs (Decidable (_ ∨ _))

theorem Capabilities.any_allocates_iff {c : Capabilities} {cls : Class} :
    c.allocators.any (Allocator.allocates cls) = true ↔ c.Allocates cls := by
  obtain ⟨_ | _, _ | _⟩ := c <;> cases hopen : cls.openToHandles <;>
    simp [allocators, Allocates, Allocator.allocates, Allocator.raw, Allocator.handle, hopen,
      Except.isOk, Except.toBool]

namespace Allocator

variable {p : ProxyClass} {handler : Handler} {h : Heap}

section

variable (link : Linkage) (depth : Nat)

/-- What making an instance with its constructors comes to. Their bodies run on a new object, the
root's first, and the first that fails is the failure; after them, the handler is bound. -/
inductive Constructs (p : ProxyClass) (handler : Handler) (h : Heap) :
    Except Failure ProxyInstance → Heap → Prop
  | failed {e : Halt} {g : Heap}
      (ran : Program.InOrder (nested link depth)
        (p.cls.defaultConstructors.map (Constructor.program link (h.allocate p.cls).1 []))
        (h.allocate p.cls).2 (.error e) g) :
      Constructs p handler h (.error (HeapAttempt.ofHalt e)) g
  | finished {f g : Heap} {r : Except Failure ProxyInstance}
      (ran : Program.InOrder (nested link depth)
        (p.cls.defaultConstructors.map (Constructor.program link (h.allocate p.cls).1 []))
        (h.allocate p.cls).2 (.ok ()) f)
      (bound : HeapAttempt.outcome (finish p handler (h.allocate p.cls).1) f = (r, g)) :
      Constructs p handler h r g

theorem outcome_firstAllocation_of_refused {before as : List Allocator} {c : Class}
    (hbefore : ∀ a ∈ before, ∃ e, a.allocate c h = .error e) :
    HeapAttempt.outcome (firstAllocation link depth c (before ++ as)) h =
      HeapAttempt.outcome (firstAllocation link depth c as) h := by
  induction before with
  | nil => rfl
  | cons a before ih =>
      obtain ⟨⟨e, he⟩, hrest⟩ := List.forall_mem_cons.mp hbefore
      rw [List.cons_append, outcome_firstAllocation_cons, he]
      exact ih hrest

end

variable {link : Linkage} {depth : Nat}

/-- The object of the first allocator that gives one becomes the instance. -/
theorem outcome_instantiate_of_first {before after : List Allocator} {a : Allocator} {o : ObjectRef}
    {g : Heap} (hbefore : ∀ b ∈ before, ∃ e, b.allocate p.cls h = .error e)
    (ha : a.allocate p.cls h = .ok (o, g)) :
    HeapAttempt.outcome (instantiate link depth (before ++ a :: after) p false handler) h =
      HeapAttempt.outcome (finish p handler o) g := by
  rw [outcome_instantiate, making, if_neg Bool.false_ne_true,
    outcome_firstAllocation_of_refused link depth hbefore, outcome_firstAllocation_cons, ha]

theorem outcome_instantiate_of_refused {as : List Allocator}
    (has : ∀ a ∈ as, ∃ e, a.allocate p.cls h = .error e) :
    HeapAttempt.outcome (instantiate link depth as p false handler) h =
      HeapAttempt.outcome (instantiate link depth as p true handler) h := by
  rw [outcome_instantiate, outcome_instantiate,
    outcome_making_of_constructs link depth (.inr has), making, if_pos rfl]

theorem outcome_instantiate_of_missing {as : List Allocator}
    (hnone : p.cls.noArgConstructor? = none) :
    HeapAttempt.outcome (instantiate link depth as p true handler) h =
      (.error (.memberNotFound p.cls.name "<init>()"), h) := by
  rw [outcome_instantiate, making, if_pos rfl, constructDefault, hnone]
  rfl

theorem outcome_instantiate_eq_iff (hp : p.cls.Built) {as : List Allocator}
    (hsome : p.cls.noArgConstructor?.isSome = true) {r : Except Failure ProxyInstance} {g : Heap} :
    HeapAttempt.outcome (instantiate link depth as p true handler) h = (r, g) ↔
      Constructs link depth p handler h r g := by
  obtain ⟨k, hk⟩ := Option.isSome_iff_exists.mp hsome
  obtain ⟨js, hjs⟩ := hp.forall₂_noArgConstructor
  have hdefaults : List.Forall₂ (fun d j => d.noArgConstructor? = some j)
      p.cls.superclassesFromRoot js := hjs.imp fun _ _ hj => hj.1
  have hbodies : p.cls.defaultConstructors = js ++ [k] := Class.defaultConstructors_eq hdefaults hk
  have hmade := HeapAttempt.outcome_ofAct_eq_iff (x := construct link depth p.cls k []) (h := h)
    fun g r => outcome_construct_eq_iff link depth hdefaults
  rw [outcome_instantiate, making, if_pos rfl, constructDefault, hk]
  simp only
  rcases hrun : HeapAttempt.outcome (HeapAttempt.ofAct (construct link depth p.cls k [])) h with
    ⟨made, f⟩
  obtain ⟨ended, rfl, hran⟩ := (hmade f made).mp hrun
  have hlast : [k.program link (h.allocate p.cls).1 []] =
      [k].map (Constructor.program link (h.allocate p.cls).1 []) := rfl
  rw [hlast, ← List.map_append, ← hbodies] at hran
  cases ended with
  | error e =>
      constructor
      · rintro ⟨⟩
        exact .failed hran
      · rintro (⟨hran'⟩ | ⟨hran', -⟩)
        · obtain ⟨⟨⟩, rfl⟩ := hran.unique hran'
          rfl
        · cases (hran.unique hran').1
  | ok u =>
      constructor
      · exact .finished hran
      · rintro (⟨hran'⟩ | ⟨hran', hbound⟩)
        · cases (hran.unique hran').1
        · obtain ⟨-, rfl⟩ := hran.unique hran'
          exact hbound

/-- Constructors that do nothing change nothing. -/
theorem outcome_instantiate_of_idle (hp : p.cls.Built) {as : List Allocator}
    (hsome : p.cls.noArgConstructor?.isSome = true)
    (hidle : ∀ k ∈ p.cls.defaultConstructors,
      k.program link (h.allocate p.cls).1 [] = .done .null) :
    HeapAttempt.outcome (instantiate link depth as p true handler) h =
      HeapAttempt.outcome (finish p handler (h.allocate p.cls).1) (h.allocate p.cls).2 := by
  refine (outcome_instantiate_eq_iff hp hsome).mpr (.finished (Program.inOrder_done ?_) rfl)
  intro q hq
  obtain ⟨k, hk, rfl⟩ := List.mem_map.mp hq
  exact hidle k hk

theorem outcome_firstAllocation_allocators (link : Linkage) (depth : Nat) (c : Capabilities)
    (cls : Class) (h : Heap) :
    HeapAttempt.outcome (firstAllocation link depth cls c.allocators) h =
      if c.Allocates cls then (.ok (h.allocate cls).1, (h.allocate cls).2)
      else HeapAttempt.outcome (constructDefault link depth cls) h := by
  have hplain : ∀ a ∈ c.allocators, a.Plain := fun _ ha => plain_of_capabilities ha
  rw [outcome_firstAllocation link depth hplain]
  simp only [Capabilities.any_allocates_iff]

/-- A handler can be bound to a new object. -/
theorem exists_outcome_finish (p : ProxyClass) (handler : Handler) (h : Heap) :
    ∃ g, (h.allocate p.cls).2.bindHandler (h.allocate p.cls).1 handler = .ok g ∧
      HeapAttempt.outcome (finish p handler (h.allocate p.cls).1) (h.allocate p.cls).2 =
        (.ok ⟨(h.allocate p.cls).1, p⟩, g) := by
  have hpresent : ((h.allocate p.cls).2.object? (h.allocate p.cls).1).isSome = true := by
    rw [h.object?_allocate]
    rfl
  have hbind := Heap.bindHandler_of_free (h.gains_allocate p.cls).unbound handler
  refine ⟨_, hbind, ?_⟩
  simp only [outcome_finish, hbind, Heap.handler?_of_bindHandler hbind hpresent]

/-- With an allocator for the class, there is an instance, whatever the routines are. -/
theorem exists_outcome_instantiate {c : Capabilities} (hc : c.Allocates p.cls) (handler : Handler)
    (h : Heap) :
    ∃ g, (h.allocate p.cls).2.bindHandler (h.allocate p.cls).1 handler = .ok g ∧
      ∀ link depth, HeapAttempt.outcome (instantiate link depth c.allocators p false handler) h =
        (.ok ⟨(h.allocate p.cls).1, p⟩, g) := by
  obtain ⟨g, hbind, hfinish⟩ := exists_outcome_finish p handler h
  refine ⟨g, hbind, fun link depth => ?_⟩
  rw [outcome_instantiate, making, if_neg Bool.false_ne_true, outcome_firstAllocation_allocators,
    if_pos hc]
  exact hfinish

theorem outcome_instantiate_of_not_allocates {c : Capabilities} (hc : ¬ c.Allocates p.cls) :
    HeapAttempt.outcome (instantiate link depth c.allocators p false handler) h =
      HeapAttempt.outcome (instantiate link depth c.allocators p true handler) h := by
  rw [outcome_instantiate, outcome_instantiate, making, making, if_neg Bool.false_ne_true,
    if_pos rfl, outcome_firstAllocation_allocators, if_neg hc]

/-! ## Where the routines matter -/

/-- What a request for an instance without construction comes to depends on what the routines do. -/
def RunsBodies (as : List Allocator) (p : ProxyClass) (handler : Handler) (h : Heap) : Prop :=
  ∃ link link' depth, HeapAttempt.outcome (instantiate link depth as p false handler) h ≠
    HeapAttempt.outcome (instantiate link' depth as p false handler) h

theorem not_runsBodies_of_allocates {c : Capabilities} (hc : c.Allocates p.cls) :
    ¬ RunsBodies c.allocators p handler h := by
  rintro ⟨link, link', depth, hne⟩
  obtain ⟨g, -, hg⟩ := exists_outcome_instantiate hc handler h
  exact hne ((hg link depth).trans (hg link' depth).symm)

/-- The routines matter where the constructors run and have bodies. -/
theorem runsBodies_iff (hp : p.cls.Built) {c : Capabilities} :
    RunsBodies c.allocators p handler h ↔ ¬ c.Allocates p.cls ∧
      p.cls.noArgConstructor?.isSome = true ∧
      ∃ k ∈ p.cls.defaultConstructors, k.body.isSome = true := by
  constructor
  · intro hruns
    have hc : ¬ c.Allocates p.cls := fun hc => not_runsBodies_of_allocates hc hruns
    obtain ⟨link, link', depth, hne⟩ := hruns
    rw [outcome_instantiate_of_not_allocates hc, outcome_instantiate_of_not_allocates hc] at hne
    have hsome : p.cls.noArgConstructor?.isSome = true := by
      by_contra hmissing
      have hnone : p.cls.noArgConstructor? = none := by simpa using hmissing
      exact hne (by rw [outcome_instantiate_of_missing hnone, outcome_instantiate_of_missing hnone])
    refine ⟨hc, hsome, ?_⟩
    by_contra hidle
    have hdone (link : Linkage) : ∀ k ∈ p.cls.defaultConstructors,
        k.program link (h.allocate p.cls).1 [] = .done .null := by
      intro k hk
      cases hbody : k.body with
      | none => rw [Constructor.program, hbody]
      | some label => exact absurd ⟨k, hk, by rw [hbody]; rfl⟩ hidle
    exact hne (by rw [outcome_instantiate_of_idle hp hsome (hdone link),
      outcome_instantiate_of_idle hp hsome (hdone link')])
  · rintro ⟨hc, hsome, hbody⟩
    refine ⟨fun _ _ _ => .done .null, fun _ _ _ => .raise (.illegalState ""), 0, ?_⟩
    obtain ⟨g, -, hfinish⟩ := exists_outcome_finish p handler h
    have hdone : ∀ k ∈ p.cls.defaultConstructors,
        k.program (fun _ _ _ => .done .null) (h.allocate p.cls).1 [] = .done .null := by
      intro k _
      rw [Constructor.program]
      cases k.body <;> rfl
    have hraised : Constructs (fun _ _ _ => .raise (.illegalState "")) 0 p handler h _ _ :=
      .failed (Program.inOrder_raise rfl hbody)
    rw [outcome_instantiate_of_not_allocates hc, outcome_instantiate_of_not_allocates hc,
      outcome_instantiate_of_idle hp hsome hdone, hfinish,
      (outcome_instantiate_eq_iff hp hsome).mpr hraised]
    exact nofun

/-- With the usual allocators, an instance of the class is allocated or constructed, by whether one of
the allocators is able to allocate the class. -/
structure FollowsCapabilities (c : Capabilities) (p : ProxyClass) (handler : Handler) (h : Heap) :
    Prop where
  runsBodies_iff : RunsBodies c.allocators p handler h ↔
    (c.rawAllocation = false ∧ (c.handleAllocation = false ∨ p.cls.openToHandles = false)) ∧
      p.cls.noArgConstructor?.isSome = true ∧
      ∃ k ∈ p.cls.defaultConstructors, k.body.isSome = true
  allocated : c.Allocates p.cls → ∃ o g, h.GainsBound p.cls handler o g ∧ ∀ link depth,
    HeapAttempt.outcome (instantiate link depth c.allocators p false handler) h = (.ok ⟨o, p⟩, g)
  constructed : ¬ c.Allocates p.cls → p.cls.noArgConstructor?.isSome = true → ∀ link depth {r g},
    HeapAttempt.outcome (instantiate link depth c.allocators p false handler) h = (r, g) ↔
      Constructs link depth p handler h r g
  missing : ¬ c.Allocates p.cls → p.cls.noArgConstructor? = none → ∀ link depth,
    HeapAttempt.outcome (instantiate link depth c.allocators p false handler) h =
      (.error (.memberNotFound p.cls.name "<init>()"), h)

/-- A class for which a constructor runs only when both capabilities are off. -/
structure IsOpen (p : ProxyClass) (handler : Handler) (h : Heap) : Prop where
  built : (∀ s ∈ p.request.superclass, s.Built) → (∀ i ∈ p.request.interfaces, i.Built) →
    p.cls.Built
  constructible : p.cls.noArgConstructor?.isSome = true
  allocates_iff : ∀ {c : Capabilities},
    c.Allocates p.cls ↔ c.rawAllocation = true ∨ c.handleAllocation = true
  off : ∀ {c : Capabilities}, RunsBodies c.allocators p handler h →
    c.rawAllocation = false ∧ c.handleAllocation = false

/-- What requests for an instance of the class without construction come to. -/
structure SkipsConstruction (p : ProxyClass) (handler : Handler) (h : Heap) : Prop where
  first : ∀ before a after {o g}, (∀ b ∈ before, ∃ e, b.allocate p.cls h = .error e) →
    a.allocate p.cls h = .ok (o, g) → ∀ link depth,
      HeapAttempt.outcome (instantiate link depth (before ++ a :: after) p false handler) h =
        HeapAttempt.outcome (finish p handler o) g
  refused : ∀ as, (∀ a ∈ as, ∃ e, a.allocate p.cls h = .error e) → ∀ link depth,
    HeapAttempt.outcome (instantiate link depth as p false handler) h =
      HeapAttempt.outcome (instantiate link depth as p true handler) h
  usual : p.cls.Built → ∀ c, FollowsCapabilities c p handler h
  generated : ∀ {files calls i serial q},
    (((Factory.initial files).run calls).compile i serial q).1 = some (.ok p) → IsOpen p handler h

theorem followsCapabilities (c : Capabilities) (hp : p.cls.Built) (handler : Handler) (h : Heap) :
    FollowsCapabilities c p handler h where
  runsBodies_iff := by
    rw [runsBodies_iff hp, Capabilities.Allocates]
    simp only [not_or, not_and, Bool.not_eq_true, imp_iff_not_or]
  allocated hc := by
    obtain ⟨g, hbind, hg⟩ := exists_outcome_instantiate hc handler h
    exact ⟨_, g, Heap.gainsBound_of_bindHandler hp hbind, hg⟩
  constructed hc hsome link depth _ _ := by
    rw [outcome_instantiate_of_not_allocates hc]
    exact outcome_instantiate_eq_iff hp hsome
  missing hc hnone link depth := by
    rw [outcome_instantiate_of_not_allocates hc]
    exact outcome_instantiate_of_missing hnone

theorem isOpen_of_compile {files : DumpFiles} {calls : List Factory.Call} {i serial : Nat}
    {q : ProxyRequest}
    (hq : (((Factory.initial files).run calls).compile i serial q).1 = some (.ok p))
    (handler : Handler) (h : Heap) : IsOpen p handler h := by
  have hmade : p.WellMade := ((Factory.sound_initial files).run calls).1.wellMade_of_compile hq
  have hallocates {c : Capabilities} :
      c.Allocates p.cls ↔ c.rawAllocation = true ∨ c.handleAllocation = true := by
    simp [Capabilities.Allocates, hmade.openToHandles]
  refine ⟨(Factory.isBuilt_of_compile hq).built, by rw [hmade.noArgConstructor?]; rfl, hallocates,
    fun {c} hruns => ?_⟩
  have hc : ¬ c.Allocates p.cls := fun hc => not_runsBodies_of_allocates hc hruns
  simpa [hallocates] using hc

/-- A request for an instance without construction takes the object of the first allocator that gives
one, whatever the routines are, and with none is a request with construction. With the usual
allocators, the object is a new one of the class with default values if one of them is able to
allocate the class. Otherwise the constructors without parameters run, the root's first, or the
request fails because there is none, and then nothing runs. So the routines of constructors matter
only then, and for generated classes only when both capabilities are off. -/
theorem instantiate_without_construction (p : ProxyClass) (handler : Handler) (h : Heap) :
    SkipsConstruction p handler h where
  first _ _ _ _ _ hbefore ha _ _ := outcome_instantiate_of_first hbefore ha
  refused _ has _ _ := outcome_instantiate_of_refused has
  usual hp c := followsCapabilities c hp handler h
  generated hq := isOpen_of_compile hq handler h

end Allocator

/-! ### A class without a constructor to run -/

namespace Samples

def auditedFactory : Factory :=
  (Factory.initial ⟨[]⟩).run [.define audited, .addCompiler "dyn" none]

theorem built_audited : audited.Built :=
  .build (by simp [auditedSpec, ClassSpec.named]) (by simp [auditedSpec, ClassSpec.named])
    (show auditedSpec.build 1 = .ok audited from rfl)

def accountSpec : ClassSpec :=
  { ClassSpec.named "app.Account" .ordinary with
    superclass := some audited
    constructors := [⟨[.primitive .int], .pub, none, none⟩] }

/-- A proxy class made by hand, whose only constructor has a parameter. -/
def accountProxy : ProxyClass := ⟨0, accountSpec.described 2, auditedRequest none false, []⟩

theorem built_accountProxy : accountProxy.cls.Built := by
  refine .build ?_ (by simp [accountSpec, ClassSpec.named])
    (show accountSpec.build 2 = .ok accountProxy.cls from rfl)
  rintro s ⟨⟩
  exact built_audited

/-- A generated class is constructed when both capabilities are off, and only then. The class made by
hand is not constructed even so, although its superclass has a body to run. -/
theorem audited_instances : ∃ p,
    (auditedFactory.compile 0 7 (auditedRequest none false)).1 = some (.ok p) ∧
    (∀ link depth, HeapAttempt.outcome
      (Allocator.instantiate link depth [.raw false, .raw true] p false silent) .empty =
        HeapAttempt.outcome (Allocator.finish p silent ⟨0, p.cls⟩) (Heap.empty.allocate p.cls).2) ∧
    (∀ link depth, HeapAttempt.outcome
      (Allocator.instantiate link depth [.raw false] p false silent) .empty =
        HeapAttempt.outcome (Allocator.instantiate link depth [.raw false] p true silent) .empty) ∧
    (∃ o g, Heap.empty.GainsBound p.cls silent o g ∧ ∀ link depth,
      HeapAttempt.outcome (Allocator.instantiate link depth
        (Capabilities.mk false true).allocators p false silent) .empty = (.ok ⟨o, p⟩, g)) ∧
    Allocator.RunsBodies (Capabilities.mk false false).allocators p silent .empty ∧
    ¬ Allocator.RunsBodies (Capabilities.mk true false).allocators p silent .empty ∧
    ∀ link depth, HeapAttempt.outcome (Allocator.instantiate link depth
      (Capabilities.mk false false).allocators accountProxy false silent) .empty =
        (.error (.memberNotFound "app.Account" "<init>()"), .empty) := by
  obtain ⟨p, hp, hrequest, hconstructors⟩ : ∃ p,
      (auditedFactory.compile 0 7 (auditedRequest none false)).1 = some (.ok p) ∧
        p.request = auditedRequest none false ∧
        p.cls.defaultConstructors = [.implicit, ⟨[], .pub, some 0, none⟩, .implicit] :=
    ⟨_, rfl, rfl, rfl⟩
  have hskips := Allocator.instantiate_without_construction p silent .empty
  have hraw : ∀ a ∈ [Allocator.raw false], ∃ e, a.allocate p.cls .empty = .error e := by
    rintro a (_ | ⟨_, ⟨⟩⟩)
    exact ⟨_, rfl⟩
  have hopen := hskips.generated hp
  have hcls : p.cls.Built := by
    refine hopen.built ?_ (by simp [hrequest, auditedRequest])
    rw [hrequest]
    rintro s ⟨⟩
    exact built_audited
  have hbody : ∃ k ∈ p.cls.defaultConstructors, k.body.isSome = true :=
    ⟨⟨[], .pub, some 0, none⟩, by rw [hconstructors]; simp, rfl⟩
  refine ⟨p, hp, hskips.first [.raw false] (.raw true) [] hraw rfl,
    hskips.refused [.raw false] hraw, ?_, ?_, fun hruns => ?_, fun link depth => ?_⟩
  · exact (hskips.usual hcls ⟨false, true⟩).allocated (hopen.allocates_iff.mpr (.inr rfl))
  · exact (hskips.usual hcls ⟨false, false⟩).runsBodies_iff.mpr
      ⟨⟨rfl, .inl rfl⟩, hopen.constructible, hbody⟩
  · cases (hopen.off hruns).1
  · have hbyHand := Allocator.instantiate_without_construction accountProxy silent .empty
    exact (hbyHand.usual built_accountProxy ⟨false, false⟩).missing (by decide) rfl link depth

/-- With both capabilities off, nothing runs for the class made by hand and there is no object, although
its superclass has a constructor with a body. -/
theorem accountProxy_runs_nothing : accountProxy.cls.Built ∧
    (∃ k ∈ accountProxy.cls.defaultConstructors, k.body.isSome = true) ∧
    ¬ (Allocator.RunsBodies (Capabilities.mk false false).allocators accountProxy silent .empty ↔
      (Capabilities.mk false false).rawAllocation = false ∧
        ((Capabilities.mk false false).handleAllocation = false ∨
          accountProxy.cls.openToHandles = false)) ∧
    ∀ link depth h, HeapAttempt.outcome (Allocator.instantiate link depth
      (Capabilities.mk false false).allocators accountProxy false silent) h =
        (.error (.memberNotFound "app.Account" "<init>()"), h) := by
  refine ⟨built_accountProxy, ⟨⟨[], .pub, some 0, none⟩, ?_, rfl⟩, fun hiff => ?_,
    fun link depth h => rfl⟩
  · have hconstructors : accountProxy.cls.defaultConstructors =
        [.implicit, ⟨[], .pub, some 0, none⟩] := rfl
    rw [hconstructors]
    simp
  · obtain ⟨link, link', depth, hne⟩ := hiff.mpr ⟨rfl, .inl rfl⟩
    exact hne rfl

end Samples

end Metaobject
