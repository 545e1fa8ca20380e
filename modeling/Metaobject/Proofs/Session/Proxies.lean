import Metaobject.Proofs.Proxy.Binding
import Metaobject.Proofs.Session.Soundness

/-!
# How the instances of proxy classes come to be

A request for an instance says whether the constructors of the superclasses are to run. That is what
happens, unless the request names a class that its compiler has made before: then the request by which
the class was made decides. Without constructors, the new object holds the default values and nothing
else has changed; with them, they have run for the new object, the root's first.
-/

namespace Metaobject

/-! ## New objects -/

/-- An object that was only allocated and bound to its handler holds default values. -/
theorem Heap.holdsDefaults_of_bindHandler {h g : Heap} {c : Class} {handler : Handler}
    (hg : (h.allocate c).2.bindHandler (h.allocate c).1 handler = .ok g) :
    g.HoldsDefaults (h.allocate c).1 := by
  obtain ⟨-, rfl⟩ := Heap.bindHandler_eq_ok_iff.mp hg
  refine holdsDefaults_of_readSlot fun slot => ?_
  rw [readSlot, object?_update, if_pos rfl, object?_allocate]
  rfl

/-! ## Which request decides -/

/-- A class that is given for a request was made before under the name of the request, or it is made
for requests that ask for the same way of construction. -/
theorem Workshop.Compiles.found_or_callSuper {w w' : Workshop} {serial : Nat} {q : ProxyRequest}
    {p : ProxyClass} (h : w.Compiles serial q (.ok p) w') (hw : w.compiler.Sound w.registry) :
    q.name.bind w.compiler.get? = some p ∨
      q.name.bind w.compiler.get? = none ∧ p.callSuper = q.callSuper := by
  cases h with
  | known assigned found =>
      cases assigned with
      | named given => exact .inl (by rw [given]; exact found)
      | recorded unnamed known =>
          obtain ⟨p', hp', hshape⟩ := hw.recorded _ known
          obtain rfl : p' = p := Option.some.inj (hp'.symm.trans found)
          exact .inr ⟨by rw [unnamed]; rfl, congrArg ProxyShape.callSuper hshape⟩
      | fresh unnamed unknown free =>
          have hmissing := (ProxyCompiler.get?_of_isTaken free).1
          exact absurd (found.symm.trans hmissing) nofun
  | made assigned missing built defined =>
      refine .inr ⟨?_, rfl⟩
      cases assigned with
      | named given => rwa [given]
      | recorded unnamed known => rw [unnamed]; rfl
      | fresh unnamed unknown free => rw [unnamed]; rfl

theorem Workshop.Compiles.wellMade {w w' : Workshop} {serial : Nat} {q : ProxyRequest}
    {p : ProxyClass} (h : w.Compiles serial q (.ok p) w') (hw : w.compiler.Sound w.registry) :
    p.WellMade :=
  (h.sound hw).wellMade (h.get?_of_ok hw)

/-! ## Instances -/

namespace ProxyClass

theorem WellMade.superclassesFromRoot {p : ProxyClass} (h : p.WellMade) :
    p.cls.superclassesFromRoot = p.request.base.ancestors.reverse := by
  rw [Class.superclassesFromRoot, Class.ancestors_of_superclass h.superclass, List.tail_cons]

theorem WellMade.noArgConstructor? {p : ProxyClass} (h : p.WellMade) :
    p.cls.noArgConstructor? = some .implicit := by
  rw [Class.noArgConstructor?, h.constructors]
  rfl

end ProxyClass

namespace Allocator

variable {link : Linkage} {depth : Nat} {p : ProxyClass} {handler : Handler} {h f : Heap}
  {x : ProxyInstance}

/-- Making an instance by the constructor succeeds only when the constructors of all superclasses
have run for it. -/
theorem making_of_callSuper (hp : p.WellMade) {as : List Allocator} {o : ObjectRef} {g : Heap}
    (hmade : HeapAttempt.outcome (making link depth as p true) h = (.ok o, g)) :
    o = (h.allocate p.cls).1 ∧
      Act.outcome (p.request.base.ancestors.reverse.forM
        (runDefaultConstructor link (nested link depth) o)) (h.allocate p.cls).2 = (.ok (), g) := by
  rw [making, if_pos rfl, outcome_constructDefault link depth hp.noArgConstructor?,
    perform_eq_performWith, performWith, Act.outcome_bind] at hmade
  have hchain : (h.allocate p.cls).1.cls.superclassesFromRoot = p.request.base.ancestors.reverse :=
    hp.superclassesFromRoot
  rw [hchain] at hmade
  rcases hrun : Act.outcome (p.request.base.ancestors.reverse.forM
    (runDefaultConstructor link (nested link depth) (h.allocate p.cls).1)) (h.allocate p.cls).2 with
    ⟨e | u, g'⟩ <;> rw [hrun] at hmade
  · cases hmade
  · -- the constructor of a proxy class itself has no body
    cases hmade
    exact ⟨rfl, hrun⟩

theorem making_of_raw {as : List Allocator} {o : ObjectRef} {g : Heap}
    (hmade : HeapAttempt.outcome (making link depth (raw true :: as) p false) h = (.ok o, g)) :
    o = (h.allocate p.cls).1 ∧ g = (h.allocate p.cls).2 := by
  have hraw : (raw true).allocate p.cls h = .ok (h.allocate p.cls) := rfl
  rw [making, if_neg Bool.false_ne_true, outcome_firstAllocation_cons, hraw] at hmade
  cases hmade
  exact ⟨rfl, rfl⟩

end Allocator

namespace Session

variable {s t : Session} {i : Nat} {q : ProxyRequest}

theorem allocators_withReflector (s : Session) (i : Nat) (w : Workshop) :
    ((s.withReflector i w).reflector i).reflector.allocators =
      (s.reflector i).reflector.allocators := by
  simp only [withReflector, reflector, List.getD_eq_getElem?_getD, List.getElem?_set_self']
  cases s.reflectors[i]? <;> rfl

/-- An instance that a request gives is one of the class that the compiler gives for the request. -/
theorem exists_of_createProxy {handler : Handler} {x : ProxyInstance}
    (hx : (SessionOp.createProxy i q handler).outcome s = (.ok x, t)) :
    ∃ p w, (s.reflectorShop i).Compiles s.nextSerial q (.ok p) w ∧
      HeapAttempt.outcome (Allocator.instantiate s.link depth (s.reflector i).reflector.allocators p
        p.callSuper handler) s.heap = (.ok x, t.heap) := by
  have hw := (s.reflectorShop i).compiles_compile s.nextSerial q
  obtain ⟨p, u, hp, hx⟩ := SessionOp.outcome_bind_eq_ok.mp hx
  rw [outcome_compileProxy] at hp
  obtain ⟨hresult, rfl⟩ := Prod.mk.inj hp
  rw [hresult] at hw
  refine ⟨p, _, hw, ?_⟩
  simp only [SessionOp.outcome_get_bind, SessionOp.instantiate, SessionOp.outcome_onHeap,
    allocators_withReflector] at hx
  obtain ⟨hinstance, rfl⟩ := Prod.mk.inj hx
  exact Prod.ext hinstance rfl

/-- With the usual allocators, an instance that a reflector gives is made as the request by which its
class was made asks for. This is the request itself, or one for the same way of construction, unless
the compiler has made a class before under the name of the request, which is then the class. Without
constructors, the session has a new object with default values that is bound to the handler, whatever
the routines of the constructors are, and is otherwise what the compiler has left. With them, the
constructors of all superclasses have run for the new object, the root's first. -/
theorem constructs_of_createProxy (hs : s.Reachable) {handler : Handler} {x : ProxyInstance}
    (hallocators : (s.reflector i).reflector.allocators =
      (s.reflector i).reflector.capabilities.allocators)
    (hraw : (s.reflector i).reflector.capabilities.rawAllocation = true)
    (hx : (SessionOp.createProxy i q handler).outcome s = (.ok x, t)) :
    (q.name.bind (s.reflector i).reflector.proxies.get? = some x.proxy ∨
      q.name.bind (s.reflector i).reflector.proxies.get? = none ∧
        x.proxy.callSuper = q.callSuper) ∧
    x.proxy.cls.superclass = some x.proxy.request.base ∧
    x.object = (s.heap.allocate x.proxy.cls).1 ∧
    (x.proxy.callSuper = false →
      (s.heap.allocate x.proxy.cls).2.bindHandler x.object handler = .ok t.heap ∧
        t.heap.HoldsDefaults x.object) ∧
    (x.proxy.callSuper = true →
      ∃ g, Act.outcome (x.proxy.cls.superclassesFromRoot.forM
          (runDefaultConstructor s.link (nested s.link depth) x.object))
            (s.heap.allocate x.proxy.cls).2 = (.ok (), g) ∧
        g.bindHandler x.object handler = .ok t.heap) := by
  obtain ⟨-, hpc⟩ := hs.sound.reflector i
  obtain ⟨p, w, hw, hinstance⟩ := exists_of_createProxy hx
  have hdecides := hw.found_or_callSuper hpc
  have hp : p.WellMade := hw.wellMade hpc
  have htried : (s.reflector i).reflector.allocators = [.raw true,
      .handle (s.reflector i).reflector.capabilities.handleAllocation] := by
    rw [hallocators, Capabilities.allocators, hraw]
  rw [htried] at hinstance
  cases Allocator.instantiates_of_outcome hinstance with
  | @bound o g f made present binds =>
      cases hcall : p.callSuper with
      | false =>
          rw [hcall] at made hdecides
          obtain ⟨rfl, rfl⟩ := Allocator.making_of_raw made
          exact ⟨hdecides, hp.superclass, rfl,
            fun _ => ⟨binds, Heap.holdsDefaults_of_bindHandler binds⟩, by simp⟩
      | true =>
          rw [hcall] at made hdecides
          obtain ⟨rfl, hrun⟩ := Allocator.making_of_callSuper hp made
          exact ⟨hdecides, hp.superclass, rfl, by simp,
            fun _ => ⟨g, hp.superclassesFromRoot ▸ hrun, binds⟩⟩

end Session

/-! ### A class that was made for other requests before -/

namespace Samples

/-- A constructor that records its run and marks the object as ready. -/
def readying : Routine := fun this _ =>
  .record "constructed" (.setField this "ready" (.boolean true) fun _ => .done .null)

def auditedSpec : ClassSpec :=
  { ClassSpec.named "app.Audited" .ordinary with
    constructors := [⟨[], .pub, some 0, none⟩]
    fields := [⟨"ready", .primitive .boolean, .pub, false, none⟩] }

def audited : Class := auditedSpec.described 1

def auditedRequest (name : Option String) (callSuper : Bool) : ProxyRequest :=
  ⟨[], some audited, name, callSuper⟩

/-- A session where a class has been made whose instances are constructed. -/
def auditedSession : Session :=
  let s := ((SessionOp.build auditedSpec).outcome (Session.initial.linkRoutine readying).2).2
  ((SessionOp.compileProxy 0 (auditedRequest (some "app.P") true)).outcome s).2

theorem reachable_auditedSession : auditedSession.Reachable := by
  have hlinked : Session.Reachable (Session.initial.linkRoutine readying).2 :=
    .step .initial (.link readying)
  exact .step (.step hlinked (.build auditedSpec)) (.compileProxy 0 _)

def silent : Handler := fun _ _ _ => .done .null

/-- What a request for an instance comes to. -/
def instanceOf (name : Option String) (callSuper : Bool) :
    Except Failure ProxyInstance × Session :=
  (SessionOp.createProxy 0 (auditedRequest name callSuper) silent).outcome auditedSession

/-- A request without construction gets the class of its name, and with it the construction. -/
theorem auditedSession_constructs :
    auditedSession.Reachable ∧
      (auditedSession.reflector 0).reflector.allocators =
        (auditedSession.reflector 0).reflector.capabilities.allocators ∧
      (auditedSession.reflector 0).reflector.capabilities.rawAllocation = true ∧
      ∃ x, (instanceOf (some "app.P") false).1 = .ok x ∧
        (instanceOf (some "app.P") false).2.heap.recorded = ["constructed"] ∧
        (instanceOf (some "app.P") false).2.heap.readSlot x.object ⟨"app.Audited", "ready"⟩ =
          some (.boolean true) ∧
        ¬ (instanceOf (some "app.P") false).2.heap.HoldsDefaults x.object := by
  obtain ⟨x, hx, hread⟩ : ∃ x, (instanceOf (some "app.P") false).1 = .ok x ∧
      (instanceOf (some "app.P") false).2.heap.readSlot x.object ⟨"app.Audited", "ready"⟩ =
        some (.boolean true) := ⟨_, rfl, rfl⟩
  refine ⟨reachable_auditedSession, rfl, rfl, x, hx, rfl, hread, fun hdefaults => ?_⟩
  obtain ⟨-, -, f, -, -, hready⟩ := hdefaults.default hread
  cases htype : f.type with
  | primitive p => cases p <;> simp [htype, TypeRef.defaultValue, Primitive.defaultValue] at hready
  | _ => simp [htype, TypeRef.defaultValue] at hready

/-- Requests without a name are not bound to that class. -/
theorem auditedSession_honours :
    ∃ x y, (instanceOf none false).1 = .ok x ∧ (instanceOf none true).1 = .ok y ∧
      (instanceOf none false).2.heap.HoldsDefaults x.object ∧
      (instanceOf none false).2.heap.recorded = [] ∧
      (∃ g, Act.outcome (y.proxy.cls.superclassesFromRoot.forM (runDefaultConstructor
          auditedSession.link (nested auditedSession.link Session.depth) y.object))
            (auditedSession.heap.allocate y.proxy.cls).2 = (.ok (), g) ∧
        g.bindHandler y.object silent = .ok (instanceOf none true).2.heap) ∧
      (instanceOf none true).2.heap.recorded = ["constructed"] := by
  obtain ⟨x, hx⟩ : ∃ x, (instanceOf none false).1 = .ok x := ⟨_, rfl⟩
  obtain ⟨y, hy⟩ : ∃ y, (instanceOf none true).1 = .ok y := ⟨_, rfl⟩
  have hx' : instanceOf none false = (.ok x, (instanceOf none false).2) := Prod.ext hx rfl
  have hy' : instanceOf none true = (.ok y, (instanceOf none true).2) := Prod.ext hy rfl
  obtain ⟨hdecides, -, -, hbypassed, -⟩ :=
    Session.constructs_of_createProxy reachable_auditedSession rfl rfl hx'
  obtain ⟨hdecides', -, -, -, hconstructed⟩ :=
    Session.constructs_of_createProxy reachable_auditedSession rfl rfl hy'
  have hfalse : x.proxy.callSuper = false := by simpa [auditedRequest] using hdecides
  have htrue : y.proxy.callSuper = true := by simpa [auditedRequest] using hdecides'
  exact ⟨x, y, hx, hy, (hbypassed hfalse).2, rfl, hconstructed htrue, rfl⟩

end Samples

end Metaobject
