import Metaobject.Proofs.Heap.Handlers
import Metaobject.Proofs.Heap.Operations
import Metaobject.Proxy.Compiler

/-!
# Instances are bound to one handler

An instance of a proxy class is made first, which may run constructors, and then bound to the handler.
Whatever runs before that, the result is an instance with this handler, or the binding is refused
because a body has bound the object already, or what has failed before is the failure. Handlers that
were bound before stay bound.
-/

namespace Metaobject

theorem Heap.extends_perform (link : Linkage) (depth : Nat) (r : Request) (h : Heap) :
    h.Extends (Act.outcome (perform link depth r) h).2 := by
  rw [perform_eq_performWith]
  exact (r.through_passes link (Program.through_moments link depth) h).ends

/-- When the constructor of a superclass throws, the initialisation of an object ends with that, and
no constructor below it runs. -/
theorem outcome_initialise_of_throws {link : Linkage} {depth : Nat} {o : ObjectRef} {k : Constructor}
    {args : List Value} {above below : List Class} {c : Class} {h g f : Heap} {e : Exception}
    (hsplit : o.cls.superclassesFromRoot = above ++ c :: below)
    (habove : Act.outcome (above.forM (runDefaultConstructor link (nested link depth) o)) h =
      (.ok (), g))
    (hthrows : Act.outcome (runDefaultConstructor link (nested link depth) o c) g =
      (.error (.threw e), f)) :
    Act.outcome (perform link depth (.initialise o k args)) h = (.error (.threw e), f) := by
  have hchain : Act.outcome
      ((above ++ c :: below).forM (runDefaultConstructor link (nested link depth) o)) h =
        (.error (.threw e), f) := by
    simp only [List.forM_eq_forM, List.forM_append, List.forM_cons] at habove ⊢
    simp only [Act.outcome_bind, habove, hthrows]
  rw [perform_eq_performWith, performWith, hsplit, Act.outcome_bind, hchain]

/-- The moments of a run reach from its start to its end, and in none of them a handler is taken from
an object. -/
structure Program.KeepsHandlers (p : Program) (link : Linkage) (depth : Nat) (h : Heap) : Prop where
  start : (p.moments link depth h).head? = some h
  last : (p.moments link depth h).getLast? = some (Act.outcome (p.run (nested link depth)) h).2
  occurs : ∀ {g}, p.Occurs link depth h g → g ∈ p.moments link depth h
  handlers : (p.moments link depth h).Pairwise fun f g =>
    ∀ o handler, f.handler? o = some handler → g.handler? o = some handler

theorem Program.keepsHandlers (p : Program) (link : Linkage) (depth : Nat) (h : Heap) :
    p.KeepsHandlers link depth h where
  start := p.head?_moments link depth h
  last := p.getLast?_moments link depth h
  occurs hoccurs := hoccurs.mem_moments
  handlers := (p.pairwise_moments link depth h).imp fun hextends _ _ => hextends.handler?

namespace Allocator

variable (link : Linkage) (depth : Nat)

/-- What the allocator gives is on the heap, with all that was there before. -/
def Genuine (a : Allocator) : Prop :=
  ∀ {c h o g}, a.allocate c h = .ok (o, g) → h.Extends g ∧ (g.object? o).isSome = true

theorem Plain.genuine {a : Allocator} (ha : a.Plain) : a.Genuine := by
  intro c h o g hallocate
  rcases ha c with hok | ⟨e, herror⟩
  · rw [hok] at hallocate
    have hextends := h.extends_allocate c
    have hobject := h.object?_allocate c
    rw [Except.ok.inj hallocate] at hextends hobject
    exact ⟨hextends, by rw [hobject]; rfl⟩
  · rw [herror] at hallocate
    cases hallocate

/-- How an instance is made, before its handler is bound. -/
def making (allocators : List Allocator) (p : ProxyClass) (callSuper : Bool) :
    HeapAttempt ObjectRef :=
  if callSuper then constructDefault link depth p.cls
  else firstAllocation link depth p.cls allocators

theorem outcome_constructDefault {c : Class} {k : Constructor} (hk : c.noArgConstructor? = some k)
    (h : Heap) :
    HeapAttempt.outcome (constructDefault link depth c) h =
      match Act.outcome (perform link depth (.initialise (h.allocate c).1 k [])) (h.allocate c).2 with
      | (.ok _, g) => (.ok (h.allocate c).1, g)
      | (.error e, g) => (.error (HeapAttempt.ofHalt e), g) := by
  rw [constructDefault, hk]
  simp only [HeapAttempt.outcome_ofAct, construct, initialise, Act.outcome_bind,
    Act.outcome_modifyGet, Act.outcome_discard]
  rcases Act.outcome (perform link depth (.initialise (h.allocate c).1 k [])) (h.allocate c).2 with
    ⟨e | v, g⟩ <;> rfl

/-- All that making an instance by the constructor can come to: there is no constructor, or the
instance is allocated and the bodies that run extend the heap further. -/
theorem constructDefault_cases (c : Class) (h : Heap) :
    HeapAttempt.outcome (constructDefault link depth c) h =
        (.error (.memberNotFound c.name "<init>()"), h) ∨
      ∃ g, (h.allocate c).2.Extends g ∧
        (HeapAttempt.outcome (constructDefault link depth c) h = (.ok (h.allocate c).1, g) ∨
          ∃ e, HeapAttempt.outcome (constructDefault link depth c) h =
            (.error (HeapAttempt.ofHalt e), g)) := by
  cases hk : c.noArgConstructor? with
  | none =>
      left
      rw [constructDefault, hk]
      rfl
  | some k =>
      right
      have hextends := Heap.extends_perform link depth (.initialise (h.allocate c).1 k [])
        (h.allocate c).2
      rw [outcome_constructDefault link depth hk]
      rcases hrun : Act.outcome (perform link depth (.initialise (h.allocate c).1 k []))
        (h.allocate c).2 with ⟨e | v, g⟩ <;> rw [hrun] at hextends
      · exact ⟨g, hextends, .inr ⟨e, rfl⟩⟩
      · exact ⟨g, hextends, .inl rfl⟩

/-- Either an allocator makes the instance or the constructor does. -/
theorem making_cases (as : List Allocator) (p : ProxyClass) (callSuper : Bool) (h : Heap) :
    HeapAttempt.outcome (making link depth as p callSuper) h =
        HeapAttempt.outcome (constructDefault link depth p.cls) h ∨
      ∃ a ∈ as, ∃ o g, a.allocate p.cls h = .ok (o, g) ∧
        HeapAttempt.outcome (making link depth as p callSuper) h = (.ok o, g) := by
  cases callSuper with
  | true => exact .inl rfl
  | false =>
      -- the first allocator that allocates decides, and those that refuse leave the heap as it is
      induction as with
      | nil => exact .inl rfl
      | cons a as ih =>
          change HeapAttempt.outcome (firstAllocation link depth p.cls (a :: as)) h = _ ∨
            ∃ b ∈ a :: as, ∃ o g, b.allocate p.cls h = .ok (o, g) ∧
              HeapAttempt.outcome (firstAllocation link depth p.cls (a :: as)) h = (.ok o, g)
          rw [outcome_firstAllocation_cons]
          cases hallocate : a.allocate p.cls h with
          | ok made => exact .inr ⟨a, .head _, made.1, made.2, hallocate, rfl⟩
          | error e =>
              refine ih.imp_right ?_
              rintro ⟨b, hb, o, g, hmade⟩
              exact ⟨b, .tail _ hb, o, g, hmade⟩

/-- A constructor runs when it is asked for, and when no allocator can do without. -/
theorem outcome_making_of_constructs {as : List Allocator} {p : ProxyClass} {callSuper : Bool}
    {h : Heap} (hconstructs : callSuper = true ∨ ∀ a ∈ as, ∃ e, a.allocate p.cls h = .error e) :
    HeapAttempt.outcome (making link depth as p callSuper) h =
      HeapAttempt.outcome (constructDefault link depth p.cls) h := by
  rcases hconstructs with rfl | hrefused
  · rfl
  · rcases making_cases link depth as p callSuper h with hmade | ⟨a, ha, o, g, hallocate, -⟩
    · exact hmade
    · obtain ⟨e, he⟩ := hrefused a ha
      rw [he] at hallocate
      cases hallocate

theorem making_ne_alreadyBound {as : List Allocator} {p : ProxyClass} {callSuper : Bool}
    {h g : Heap} {name : String} :
    HeapAttempt.outcome (making link depth as p callSuper) h ≠
      (.error (.handlerAlreadyBound name), g) := by
  intro he
  rcases making_cases link depth as p callSuper h with hmade | ⟨a, ha, o, f, -, hmade⟩ <;>
    rw [hmade] at he
  · rcases constructDefault_cases link depth p.cls h with
      hnone | ⟨f, -, hdone | ⟨_ | _, hfailed⟩⟩
    · rw [hnone] at he
      cases he
    · rw [hdone] at he
      cases he
    · rw [hfailed] at he
      cases he
    · rw [hfailed] at he
      cases he
  · cases he

theorem extends_making {as : List Allocator} (has : ∀ a ∈ as, a.Genuine) (p : ProxyClass)
    (callSuper : Bool) (h : Heap) :
    h.Extends (HeapAttempt.outcome (making link depth as p callSuper) h).2 := by
  rcases making_cases link depth as p callSuper h with hmade | ⟨a, ha, o, g, hallocate, hmade⟩ <;>
    rw [hmade]
  · rcases constructDefault_cases link depth p.cls h with
      hnone | ⟨g, hextends, hdone | ⟨e, hfailed⟩⟩
    · rw [hnone]
      exact .refl h
    · rw [hdone]
      exact (h.extends_allocate p.cls).trans hextends
    · rw [hfailed]
      exact (h.extends_allocate p.cls).trans hextends
  · exact (has a ha hallocate).1

theorem isSome_object?_of_making {as : List Allocator} (has : ∀ a ∈ as, a.Genuine)
    {p : ProxyClass} {callSuper : Bool} {h g : Heap} {o : ObjectRef}
    (ho : HeapAttempt.outcome (making link depth as p callSuper) h = (.ok o, g)) :
    (g.object? o).isSome = true := by
  rcases making_cases link depth as p callSuper h with hmade | ⟨a, ha, o', f, hallocate, hmade⟩ <;>
    rw [hmade] at ho
  · rcases constructDefault_cases link depth p.cls h with
      hnone | ⟨f, hextends, hdone | ⟨e, hfailed⟩⟩
    · rw [hnone] at ho
      cases ho
    · rw [hdone] at ho
      cases ho
      exact hextends.isSome_object? (by rw [h.object?_allocate]; rfl)
    · rw [hfailed] at ho
      cases ho
  · cases ho
    exact (has a ha hallocate).2

/-! ## Instances -/

/-- All that making an instance and binding its handler can come to. -/
inductive Instantiates (allocators : List Allocator) (p : ProxyClass) (callSuper : Bool)
    (handler : Handler) (h : Heap) : Except Failure ProxyInstance → Heap → Prop
  | failed {e : Failure} {g : Heap}
      (made : HeapAttempt.outcome (making link depth allocators p callSuper) h = (.error e, g)) :
      Instantiates allocators p callSuper handler h (.error e) g
  | refused {o : ObjectRef} {g : Heap}
      (made : HeapAttempt.outcome (making link depth allocators p callSuper) h = (.ok o, g))
      (bound : (g.handler? o).isSome = true) :
      Instantiates allocators p callSuper handler h (.error (.handlerAlreadyBound o.cls.name)) g
  | absent {o : ObjectRef} {g f : Heap}
      (made : HeapAttempt.outcome (making link depth allocators p callSuper) h = (.ok o, g))
      (missing : g.object? o = none) (binds : g.bindHandler o handler = .ok f) :
      Instantiates allocators p callSuper handler h
        (.error (.invocation (.illegalState s!"代理实例未绑定拦截处理器: {p.name}"))) f
  | bound {o : ObjectRef} {g f : Heap}
      (made : HeapAttempt.outcome (making link depth allocators p callSuper) h = (.ok o, g))
      (present : (g.object? o).isSome = true) (binds : g.bindHandler o handler = .ok f) :
      Instantiates allocators p callSuper handler h (.ok ⟨o, p⟩) f

variable {link depth} {allocators : List Allocator} {p : ProxyClass} {callSuper : Bool}
  {handler : Handler} {h : Heap}

theorem outcome_instantiate (link : Linkage) (depth : Nat) (allocators : List Allocator)
    (p : ProxyClass) (callSuper : Bool) (handler : Handler) (h : Heap) :
    HeapAttempt.outcome (instantiate link depth allocators p callSuper handler) h =
      match HeapAttempt.outcome (making link depth allocators p callSuper) h with
      | (.ok o, g) => HeapAttempt.outcome (finish p handler o) g
      | (.error e, g) => (.error e, g) := by
  have hsteps : instantiate link depth allocators p callSuper handler =
      making link depth allocators p callSuper >>= finish p handler := by
    rw [instantiate_eq, making]
  rw [hsteps, HeapAttempt.outcome_bind]
  rcases HeapAttempt.outcome (making link depth allocators p callSuper) h with ⟨e | o, g⟩ <;> rfl

theorem instantiates_of_outcome {result : Except Failure ProxyInstance} {f : Heap}
    (hresult : HeapAttempt.outcome (instantiate link depth allocators p callSuper handler) h =
      (result, f)) :
    Instantiates link depth allocators p callSuper handler h result f := by
  rw [outcome_instantiate] at hresult
  rcases hmade : HeapAttempt.outcome (making link depth allocators p callSuper) h with ⟨e | o, g⟩ <;>
    rw [hmade] at hresult
  · cases hresult
    exact .failed hmade
  · simp only [outcome_finish] at hresult
    cases hbind : g.bindHandler o handler with
    | error k =>
        rw [hbind] at hresult
        cases hresult
        exact .refused hmade (Heap.isSome_handler?_of_refused hbind)
    | ok f' =>
        simp only [hbind] at hresult
        cases hobject : g.object? o with
        | none =>
            rw [Heap.handler?_of_missing (Heap.missing_of_bindHandler hbind hobject)] at hresult
            cases hresult
            exact .absent hmade hobject hbind
        | some x =>
            have hpresent : (g.object? o).isSome = true := by rw [hobject]; rfl
            rw [Heap.handler?_of_bindHandler hbind hpresent] at hresult
            cases hresult
            exact .bound hmade hpresent hbind

theorem bound_of_instantiate {i : ProxyInstance} {g : Heap}
    (hi : HeapAttempt.outcome (instantiate link depth allocators p callSuper handler) h =
      (.ok i, g)) :
    i.proxy = p ∧ g.handler? i.object = some handler := by
  cases instantiates_of_outcome hi with
  | bound made present binds => exact ⟨rfl, Heap.handler?_of_bindHandler binds present⟩

/-- The binding is refused exactly when the object that was made has a handler by then. -/
theorem alreadyBound_iff :
    (∃ name g, HeapAttempt.outcome (instantiate link depth allocators p callSuper handler) h =
        (.error (.handlerAlreadyBound name), g)) ↔
      ∃ o g, HeapAttempt.outcome (making link depth allocators p callSuper) h = (.ok o, g) ∧
        (g.handler? o).isSome = true := by
  constructor
  · rintro ⟨name, g, hg⟩
    cases instantiates_of_outcome hg with
    | failed made => exact absurd made (making_ne_alreadyBound link depth)
    | refused made bound => exact ⟨_, _, made, bound⟩
  · rintro ⟨o, g, hmade, hbound⟩
    rcases hresult : HeapAttempt.outcome (instantiate link depth allocators p callSuper handler) h
      with ⟨result, f⟩
    cases instantiates_of_outcome hresult with
    | failed made => cases hmade.symm.trans made
    | refused made bound => exact ⟨_, _, rfl⟩
    | absent made missing binds =>
        cases hmade.symm.trans made
        rw [Heap.handler?_of_missing missing] at hbound
        cases hbound
    | bound made present binds =>
        cases hmade.symm.trans made
        rw [Heap.bindHandler_of_isSome hbound] at binds
        cases binds

/-- Where the object that was made is on the heap and has no handler, it becomes the instance. -/
theorem instantiate_of_free {o : ObjectRef} {g : Heap}
    (hmade : HeapAttempt.outcome (making link depth allocators p callSuper) h = (.ok o, g))
    (ho : (g.object? o).isSome = true) (hfree : g.handler? o = none) :
    ∃ f, HeapAttempt.outcome (instantiate link depth allocators p callSuper handler) h =
      (.ok ⟨o, p⟩, f) := by
  rcases hresult : HeapAttempt.outcome (instantiate link depth allocators p callSuper handler) h
    with ⟨result, f⟩
  cases instantiates_of_outcome hresult with
  | failed made => cases hmade.symm.trans made
  | refused made bound =>
      cases hmade.symm.trans made
      rw [hfree] at bound
      cases bound
  | absent made missing binds =>
      cases hmade.symm.trans made
      rw [missing] at ho
      cases ho
  | bound made present binds =>
      cases hmade.symm.trans made
      exact ⟨f, rfl⟩

/-- An exception of the constructor of a superclass is the failure, whether the constructor was asked
for or no allocator could do without it. -/
theorem instantiate_of_throws {k : Constructor} {above below : List Class} {c : Class} {g f : Heap}
    {e : Exception}
    (hconstructs : callSuper = true ∨ ∀ a ∈ allocators, ∃ d, a.allocate p.cls h = .error d)
    (hk : p.cls.noArgConstructor? = some k)
    (hsplit : p.cls.superclassesFromRoot = above ++ c :: below)
    (habove : Act.outcome
      (above.forM (runDefaultConstructor link (nested link depth) (h.allocate p.cls).1))
      (h.allocate p.cls).2 = (.ok (), g))
    (hthrows : Act.outcome
      (runDefaultConstructor link (nested link depth) (h.allocate p.cls).1 c) g =
        (.error (.threw e), f)) :
    HeapAttempt.outcome (instantiate link depth allocators p callSuper handler) h =
      (.error (.invocation e), f) := by
  rw [outcome_instantiate, outcome_making_of_constructs link depth hconstructs,
    outcome_constructDefault link depth hk, outcome_initialise_of_throws hsplit habove hthrows]
  rfl

theorem extends_instantiate (hallocators : ∀ a ∈ allocators, a.Genuine) :
    h.Extends
      (HeapAttempt.outcome (instantiate link depth allocators p callSuper handler) h).2 := by
  have hmaking := extends_making link depth hallocators p callSuper h
  rcases hresult : HeapAttempt.outcome (instantiate link depth allocators p callSuper handler) h
    with ⟨result, f⟩
  cases instantiates_of_outcome hresult with
  | failed made => rwa [made] at hmaking
  | refused made bound => rwa [made] at hmaking
  | absent made missing binds =>
      rw [made] at hmaking
      exact hmaking.trans (Heap.extends_bindHandler binds)
  | bound made present binds =>
      rw [made] at hmaking
      exact hmaking.trans (Heap.extends_bindHandler binds)

/-! ## Once and for good -/

/-- Binding a handler to an object that has one gives the new one back and changes nothing. -/
structure BindsHandler (link : Linkage) (depth : Nat) (h : Heap) (o : ObjectRef)
    (handler : Handler) : Prop where
  refused : (h.handler? o).isSome = true → h.bindHandler o handler = .error handler
  refused_run : (h.handler? o).isSome = true → ∀ next,
    Act.outcome ((Program.bindHandler o handler next).run (nested link depth)) h =
      Act.outcome ((next false).run (nested link depth)) h
  refused_operation : (h.handler? o).isSome = true →
    HeapAttempt.outcome (bindHandler o handler) h = (.error (.handlerAlreadyBound o.cls.name), h)
  bound : (h.object? o).isSome = true → h.handler? o = none →
    ∃ g, h.bindHandler o handler = .ok g ∧ g.handler? o = some handler

/-- What making an instance for a handler comes to. -/
structure InstantiatesFor (link : Linkage) (depth : Nat) (allocators : List Allocator)
    (p : ProxyClass) (callSuper : Bool) (handler : Handler) (h : Heap) : Prop where
  bound : ∀ {i g}, HeapAttempt.outcome (instantiate link depth allocators p callSuper handler) h =
    (.ok i, g) → i.proxy = p ∧ g.handler? i.object = some handler
  alreadyBound_iff :
    (∃ name g, HeapAttempt.outcome (instantiate link depth allocators p callSuper handler) h =
        (.error (.handlerAlreadyBound name), g)) ↔
      ∃ o g, HeapAttempt.outcome (making link depth allocators p callSuper) h = (.ok o, g) ∧
        (g.handler? o).isSome = true
  throws : ∀ {k above c below g f e},
    (callSuper = true ∨ ∀ a ∈ allocators, ∃ d, a.allocate p.cls h = .error d) →
    p.cls.noArgConstructor? = some k → p.cls.superclassesFromRoot = above ++ c :: below →
    Act.outcome (above.forM (runDefaultConstructor link (nested link depth) (h.allocate p.cls).1))
      (h.allocate p.cls).2 = (.ok (), g) →
    Act.outcome (runDefaultConstructor link (nested link depth) (h.allocate p.cls).1 c) g =
      (.error (.threw e), f) →
    HeapAttempt.outcome (instantiate link depth allocators p callSuper handler) h =
      (.error (.invocation e), f)
  free : (∀ a ∈ allocators, a.Genuine) → ∀ {o g},
    HeapAttempt.outcome (making link depth allocators p callSuper) h = (.ok o, g) →
    g.handler? o = none →
      ∃ f, HeapAttempt.outcome (instantiate link depth allocators p callSuper handler) h =
        (.ok ⟨o, p⟩, f)
  kept : (∀ a ∈ allocators, a.Genuine) → ∀ {o other}, h.handler? o = some other →
    (HeapAttempt.outcome (instantiate link depth allocators p callSuper handler) h).2.handler? o =
      some other

theorem bindsHandler (link : Linkage) (depth : Nat) (h : Heap) (o : ObjectRef) (handler : Handler) :
    BindsHandler link depth h o handler where
  refused hbound := Heap.bindHandler_of_isSome hbound
  refused_run hbound next := by
    rw [Program.run, Act.outcome_bind, Act.outcome_modifyGet, Heap.bindHandler_of_isSome hbound]
  refused_operation hbound := by
    rw [outcome_bindHandler, Heap.bindHandler_of_isSome hbound]
  bound ho hfree := by
    have hbind := Heap.bindHandler_of_free hfree handler
    exact ⟨_, hbind, Heap.handler?_of_bindHandler hbind ho⟩

theorem instantiatesFor (link : Linkage) (depth : Nat) (allocators : List Allocator)
    (p : ProxyClass) (callSuper : Bool) (handler : Handler) (h : Heap) :
    InstantiatesFor link depth allocators p callSuper handler h where
  bound hi := bound_of_instantiate hi
  alreadyBound_iff := alreadyBound_iff
  throws := instantiate_of_throws
  free hallocators _ _ hmade hfree :=
    instantiate_of_free hmade (isSome_object?_of_making link depth hallocators hmade) hfree
  kept hallocators _ _ hbound := (extends_instantiate hallocators).handler? hbound

/-- What is bound with the routines stays bound. -/
structure BindsOnce (link : Linkage) (depth : Nat) : Prop where
  runs : ∀ (p : Program) h, p.KeepsHandlers link depth h
  binds : ∀ h o handler, BindsHandler link depth h o handler
  instances : ∀ allocators p callSuper handler h,
    InstantiatesFor link depth allocators p callSuper handler h

/-- Handlers are bound once and for good. Along a run, whatever its bodies bind, an object that has a
handler keeps it, and binding another one gives that one back and changes nothing. An instance of a
proxy class has the handler that it was made with; making it fails for a handler that is bound already
exactly when a body has bound one to the object by then, and for an exception of the constructor of a
superclass with that exception. -/
theorem handlers_bind_once (link : Linkage) (depth : Nat) : BindsOnce link depth where
  runs p := p.keepsHandlers link depth
  binds := bindsHandler link depth
  instances := instantiatesFor link depth

end Allocator

/-! ### Constructors that bind a handler or throw -/

namespace Samples

/-- What a constructor binds to its own object, and what the object is to be bound to. -/
def ownHandler : Handler := fun _ _ _ => .done (.str "own")

def givenHandler : Handler := fun _ _ _ => .done (.str "given")

/-- Routine 0 binds a handler to its object and does not mind whether that is refused; the others
throw. -/
def meddling : Linkage
  | 0 => fun this _ => .bindHandler this ownHandler fun _ => .done .null
  | _ => fun _ _ => .raise (.illegalState "no instances")

def bodied (label : Label) : Class :=
  { ClassSpec.named "app.Bodied" .ordinary with
    constructors := [⟨[], .pub, some label, none⟩] }.described 1

def bodiedProxy (label : Label) : ProxyClass :=
  ⟨2, (ProxyCompiler.classSpec ⟨[], some (bodied label), none, true⟩ "dyn.Bodied$Proxy$0"
    []).described 2, ⟨[], some (bodied label), none, true⟩, []⟩

/-- The object once its constructor has bound a handler. -/
def meddled : Heap := ⟨[⟨(bodiedProxy 0).cls, [], some ownHandler⟩], []⟩

theorem handlers_bind_once_meddling :
    (∃ name g, HeapAttempt.outcome (Allocator.instantiate meddling 5 [.raw true] (bodiedProxy 0) true
      givenHandler) .empty = (.error (.handlerAlreadyBound name), g)) ∧
    (∃ f, HeapAttempt.outcome (Allocator.instantiate meddling 5 [.raw true] (bodiedProxy 0) false
      givenHandler) .empty = (.ok ⟨⟨0, (bodiedProxy 0).cls⟩, bodiedProxy 0⟩, f) ∧
      f.handler? ⟨0, (bodiedProxy 0).cls⟩ = some givenHandler) ∧
    (∃ f, HeapAttempt.outcome (Allocator.instantiate meddling 5 [] (bodiedProxy 1) false
      givenHandler) .empty = (.error (.invocation (.illegalState "no instances")), f)) ∧
    meddled.bindHandler ⟨0, (bodiedProxy 0).cls⟩ givenHandler = .error givenHandler := by
  have honce := Allocator.handlers_bind_once meddling 5
  have hrefused := (honce.binds meddled ⟨0, (bodiedProxy 0).cls⟩ givenHandler).refused rfl
  have hconstructed := honce.instances [.raw true] (bodiedProxy 0) true givenHandler .empty
  have hallocated := honce.instances [.raw true] (bodiedProxy 0) false givenHandler .empty
  have hfallen := honce.instances [] (bodiedProxy 1) false givenHandler .empty
  have hsplit : (bodiedProxy 1).cls.superclassesFromRoot = [Class.root] ++ bodied 1 :: [] := rfl
  have hraw : ∀ a ∈ [Allocator.raw true], a.Genuine := by
    intro a ha
    obtain rfl := List.mem_singleton.mp ha
    exact (Allocator.plain_raw true).genuine
  refine ⟨hconstructed.alreadyBound_iff.mpr ⟨⟨0, (bodiedProxy 0).cls⟩, meddled, rfl, rfl⟩, ?_, ?_,
    hrefused⟩
  · obtain ⟨f, hf⟩ := hallocated.free hraw (o := ⟨0, (bodiedProxy 0).cls⟩) rfl rfl
    exact ⟨f, hf, (hallocated.bound hf).2⟩
  · exact ⟨_, hfallen.throws (k := .implicit) (.inr (by simp)) rfl hsplit rfl rfl⟩

end Samples

end Metaobject
