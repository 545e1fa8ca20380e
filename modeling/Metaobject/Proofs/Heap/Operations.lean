import Metaobject.Proofs.Heap.Moments
import Metaobject.Proofs.Tiers
import Metaobject.Proxy.Instantiation

/-!
# Operations as bodies perform them

What can be done with classes from outside, a body can do as well: `Program.construct`,
`Program.instantiate` and `Program.setThrough` are the programs for it. They do on the heap what the
operations of the same names do, and they stay within the graph.
-/

namespace Metaobject

/-! ## Programs for operations -/

namespace Program

/-- Allocates an instance and initialises it. -/
def construct (c : Class) (k : Constructor) (args : List Value)
    (next : Except Exception ObjectRef → Program) : Program :=
  .allocate c fun o => .initialise o k args fun answer => next (answer.map fun _ => o)

/-- Makes an instance by the constructor without parameters. -/
def constructDefault (c : Class) (next : Except Failure ObjectRef → Program) : Program :=
  match c.noArgConstructor? with
  | none => next (.error (.memberNotFound c.name "<init>()"))
  | some k => construct c k [] fun answer => next (answer.mapError .invocation)

/-- Binds a handler to an instance that has been made. -/
def bindTo (handler : Handler) (next : Except Failure ObjectRef → Program) :
    Except Failure ObjectRef → Program
  | .error e => next (.error e)
  | .ok o => .bindHandler o handler fun bound =>
      next (if bound then .ok o else .error (.handlerAlreadyBound o.cls.name))

/-- Sets a field through its handle, which makes the same checks as the reflective invoker. -/
def setThrough (m : FieldMember) (o : ObjectRef) (v : Value)
    (next : Except Failure Unit → Program) : Program :=
  match m.declaring.checkTarget o with
  | .error e => next (.error e)
  | .ok _ => match m.field.type.check 1 v with
    | .error e => next (.error e)
    | .ok _ => .writeSlot o m.declaring.name m.name v fun found =>
        next (if found then .ok () else .error (.memberNotFound o.cls.name m.name))

end Program

namespace Allocator

/-- The allocator makes instances of the class. -/
def allocates (c : Class) (a : Allocator) : Bool := (a.allocate c .empty).isOk

/-- The allocator either allocates an instance as the heap does or refuses the class. -/
def Plain (a : Allocator) : Prop :=
  ∀ c, (∀ h, a.allocate c h = .ok (h.allocate c)) ∨ ∃ e, ∀ h, a.allocate c h = .error e

theorem plain_raw (supported : Bool) : (raw supported).Plain := by
  intro c
  cases supported with
  | false => exact .inr ⟨_, fun h => rfl⟩
  | true => exact .inl fun h => rfl

theorem plain_handle (supported : Bool) : (handle supported).Plain := by
  intro c
  cases supported with
  | false => exact .inr ⟨_, fun h => rfl⟩
  | true =>
      cases hopen : c.openToHandles with
      | false => exact .inr ⟨.inaccessible c.name, fun h => by simp [handle, hopen]⟩
      | true => exact .inl fun h => by simp [handle, hopen]

theorem plain_of_capabilities {capabilities : Capabilities} {a : Allocator}
    (h : a ∈ capabilities.allocators) : a.Plain := by
  simp only [Capabilities.allocators, List.mem_cons, List.not_mem_nil, or_false] at h
  rcases h with rfl | rfl
  · exact plain_raw capabilities.rawAllocation
  · exact plain_handle capabilities.handleAllocation

end Allocator

/-- Makes an instance of a proxy class and binds the handler to it. -/
def Program.instantiate (allocators : List Allocator) (p : ProxyClass) (callSuper : Bool)
    (handler : Handler) (next : Except Failure ObjectRef → Program) : Program :=
  if callSuper || !allocators.any (Allocator.allocates p.cls) then
    constructDefault p.cls (bindTo handler next)
  else .allocate p.cls fun o => bindTo handler next (.ok o)

/-! ## They do what the operations do -/

/-- The program does on the heap what the operation does, and goes on with its answer. A run that is
too deep does not go on. -/
def Program.Does {α : Type} (link : Linkage) (depth : Nat)
    (p : (Except Failure α → Program) → Program) (x : HeapAttempt α) : Prop :=
  ∀ next h, Act.outcome ((p next).run (perform link depth)) h =
    match HeapAttempt.outcome x h with
    | (.error .tooDeep, g) => (.error .tooDeep, g)
    | (answer, g) => Act.outcome ((next answer).run (perform link depth)) g

theorem Program.Does.heap {α : Type} {link : Linkage} {depth : Nat}
    {p : (Except Failure α → Program) → Program} {x : HeapAttempt α} (hp : Does link depth p x)
    (h : Heap) :
    (Act.outcome ((p fun _ => .done .null).run (perform link depth)) h).2 =
      (HeapAttempt.outcome x h).2 := by
  rw [hp]
  rcases HeapAttempt.outcome x h with ⟨e | a, g⟩
  · cases e <;> rfl
  · rfl

section Agreement

variable (link : Linkage) (depth : Nat)

theorem Program.does_construct (c : Class) (k : Constructor) (args : List Value) :
    Does link depth (fun next => construct c k args fun answer => next (answer.mapError .invocation))
      (HeapAttempt.ofAct (Metaobject.construct link depth c k args)) := by
  intro next h
  simp only [construct, Program.run, HeapAttempt.outcome_ofAct, Metaobject.construct,
    Metaobject.initialise, Act.outcome_bind, Act.outcome_modifyGet, Act.outcome_discard,
    Act.outcome_attempt]
  rcases (perform link depth (.initialise (h.allocate c).1 k args)).outcome
    (h.allocate c).2 with ⟨(_ | _) | _, _⟩ <;> rfl

theorem Program.does_constructDefault (c : Class) :
    Does link depth (constructDefault c) (Allocator.constructDefault link depth c) := by
  unfold constructDefault Allocator.constructDefault
  cases c.noArgConstructor? with
  | none => exact fun next h => rfl
  | some k => exact does_construct link depth c k []

theorem Program.does_setThrough (m : FieldMember) (o : ObjectRef) (v : Value) :
    Does link depth (setThrough m o v)
      (FieldInvoker.set link depth o v (.handle m.declaring m.slot m.field.type)) := by
  intro next h
  unfold setThrough FieldInvoker.set Class.checkTarget TypeRef.check
  by_cases htarget : o.isInstanceOf m.declaring.name = true
  · by_cases haccepts : m.field.type.accepts v = true
    · simp only [if_pos htarget, if_pos haccepts, HeapAttempt.outcome_ofExcept_ok_bind,
        FieldInvoker.writeSlot, FieldMember.slot, HeapAttempt.outcome_get_bind, Program.run,
        Act.outcome_bind, Act.outcome_modifyGet]
      cases h.writeSlot o ⟨m.declaring.name, m.name⟩ v <;> rfl
    · simp only [if_pos htarget, if_neg haccepts]
      rfl
  · simp only [if_neg htarget]
    rfl

theorem Allocator.outcome_firstAllocation_cons (a : Allocator) (as : List Allocator) (c : Class)
    (h : Heap) :
    HeapAttempt.outcome (firstAllocation link depth c (a :: as)) h =
      match a.allocate c h with
      | .ok (o, g) => (.ok o, g)
      | .error _ => HeapAttempt.outcome (firstAllocation link depth c as) h := by
  rw [firstAllocation, HeapAttempt.outcome_get_bind]
  cases a.allocate c h with
  | ok made => rfl
  | error e =>
      simp only
      split <;> rfl

theorem Allocator.outcome_firstAllocation {as : List Allocator} (has : ∀ a ∈ as, a.Plain)
    (c : Class) (h : Heap) :
    HeapAttempt.outcome (firstAllocation link depth c as) h =
      if as.any (allocates c) then (.ok (h.allocate c).1, (h.allocate c).2)
      else HeapAttempt.outcome (constructDefault link depth c) h := by
  induction as with
  | nil => rfl
  | cons a as ih =>
      obtain ⟨ha, hrest⟩ := List.forall_mem_cons.mp has
      rw [outcome_firstAllocation_cons]
      rcases ha c with hok | ⟨e, herror⟩
      · have hallocates : allocates c a = true := by rw [allocates, hok]; rfl
        rw [hok, List.any_cons, hallocates, Bool.true_or, if_pos rfl]
      · have hallocates : allocates c a = false := by rw [allocates, herror]; rfl
        rw [herror, List.any_cons, hallocates, Bool.false_or, ← ih hrest]

theorem outcome_bindHandler (o : ObjectRef) (handler : Handler) (h : Heap) :
    HeapAttempt.outcome (bindHandler o handler) h =
      match h.bindHandler o handler with
      | .ok g => (.ok (), g)
      | .error _ => (.error (.handlerAlreadyBound o.cls.name), h) := by
  unfold bindHandler
  rw [HeapAttempt.outcome_get_bind]
  cases h.bindHandler o handler <;> rfl

namespace Allocator

/-- What is done with an instance of a proxy class once it is made. -/
def finish (p : ProxyClass) (handler : Handler) (o : ObjectRef) : HeapAttempt ProxyInstance := do
  bindHandler o handler
  match ProxyInstance.bound? (← get) o p with
  | some i => pure i
  | none => throw (.invocation (.illegalState s!"代理实例未绑定拦截处理器: {p.name}"))

theorem instantiate_eq (as : List Allocator) (p : ProxyClass) (callSuper : Bool)
    (handler : Handler) :
    instantiate link depth as p callSuper handler =
      (if callSuper then constructDefault link depth p.cls
        else firstAllocation link depth p.cls as) >>= finish p handler := by
  cases callSuper <;> rfl

theorem outcome_finish (p : ProxyClass) (handler : Handler) (o : ObjectRef) (h : Heap) :
    HeapAttempt.outcome (finish p handler o) h =
      match h.bindHandler o handler with
      | .error _ => (.error (.handlerAlreadyBound o.cls.name), h)
      | .ok g => match g.handler? o with
        | some _ => (.ok ⟨o, p⟩, g)
        | none =>
            (.error (.invocation (.illegalState s!"代理实例未绑定拦截处理器: {p.name}")), g) := by
  rw [finish, HeapAttempt.outcome_bind, outcome_bindHandler]
  cases h.bindHandler o handler with
  | error _ => rfl
  | ok g =>
      simp only [HeapAttempt.outcome_get_bind, ProxyInstance.bound?]
      cases g.handler? o <;> rfl

theorem heap_finish (p : ProxyClass) (handler : Handler) (o : ObjectRef) (h : Heap) :
    (HeapAttempt.outcome (finish p handler o) h).2 =
      (Act.outcome ((Program.bindTo handler (fun _ => .done .null) (.ok o)).run
        (perform link depth)) h).2 := by
  rw [outcome_finish]
  simp only [Program.bindTo, Program.run, Act.outcome_bind, Act.outcome_modifyGet, Act.outcome_pure]
  cases h.bindHandler o handler with
  | error _ => rfl
  | ok g =>
      simp only
      cases g.handler? o <;> rfl

end Allocator

/-- Whatever the instantiation comes to, the program leaves the same heap. -/
theorem Program.heap_instantiate {as : List Allocator} (has : ∀ a ∈ as, a.Plain) (p : ProxyClass)
    (callSuper : Bool) (handler : Handler) (h : Heap) :
    (Act.outcome ((instantiate as p callSuper handler fun _ => .done .null).run
        (perform link depth)) h).2 =
      (HeapAttempt.outcome (Allocator.instantiate link depth as p callSuper handler) h).2 := by
  rw [Allocator.instantiate_eq]
  have hdefault : (Act.outcome ((constructDefault p.cls (bindTo handler fun _ => .done .null)).run
      (perform link depth)) h).2 =
      (HeapAttempt.outcome (Allocator.constructDefault link depth p.cls >>=
        Allocator.finish p handler) h).2 := by
    rw [does_constructDefault, HeapAttempt.outcome_bind]
    rcases HeapAttempt.outcome (Allocator.constructDefault link depth p.cls) h with ⟨e | o, g⟩
    · cases e <;> rfl
    · exact (Allocator.heap_finish link depth p handler o g).symm
  cases callSuper with
  | true => exact hdefault
  | false =>
      have hfirst := Allocator.outcome_firstAllocation link depth has p.cls h
      cases hany : as.any (Allocator.allocates p.cls) with
      | true =>
          rw [hany, if_pos rfl] at hfirst
          rw [if_neg Bool.false_ne_true, HeapAttempt.outcome_bind, hfirst, instantiate, hany]
          exact (Allocator.heap_finish link depth p handler _ _).symm
      | false =>
          rw [hany, if_neg Bool.false_ne_true] at hfirst
          rw [if_neg Bool.false_ne_true, HeapAttempt.outcome_bind, hfirst, instantiate, hany,
            ← HeapAttempt.outcome_bind]
          exact hdefault

end Agreement

/-! ## They stay within the graph -/

/-- The member is what some request for a field of a class of the graph resolves to. -/
def FieldMember.Within (G : FieldGraph) (m : FieldMember) : Prop :=
  ∃ owner name, G.Mem owner ∧ Attempt.outcome (owner.resolveField name) = .ok m

section Within

variable {G : FieldGraph}

theorem FieldMember.Within.find {m : FieldMember} (hm : m.Within G) :
    m.owner.belowRoot.find? (fun c => c.fields.any fun f => f.name == m.name) =
      some m.declaring := by
  obtain ⟨owner, name, -, hresolve⟩ := hm
  obtain ⟨rfl, rfl, hfind⟩ := Class.resolveField_eq_ok hresolve
  exact hfind

theorem FieldMember.Within.declaring {m : FieldMember} (hm : m.Within G) : G.Mem m.declaring := by
  have hbelow : m.declaring ∈ m.owner.belowRoot := List.mem_of_find?_eq_some hm.find
  obtain ⟨owner, name, howner, hresolve⟩ := hm
  obtain ⟨rfl, -, -⟩ := Class.resolveField_eq_ok hresolve
  exact G.mem_of_mem_ancestors howner ((List.takeWhile_sublist _).subset hbelow)

namespace Program

theorem within_construct {c d : Class} (hc : G.Mem c) (hd : G.Mem d) {k : Constructor}
    (hk : k ∈ d.constructors) {args : List Value} (hargs : ∀ v ∈ args, G.Has v)
    {next : Except Exception ObjectRef → Program}
    (hnext : ∀ answer, (∀ o, answer = .ok o → o.cls = c) → (next answer).Within G) :
    (construct c k args next).Within G := by
  refine .allocate hc fun o ho => .initialise (ho ▸ hc) hd hk hargs fun answer => hnext _ ?_
  intro o' ho'
  cases answer with
  | error e => cases ho'
  | ok _ =>
      obtain rfl := Except.ok.inj ho'
      exact ho

theorem within_constructDefault {c : Class} (hc : G.Mem c)
    {next : Except Failure ObjectRef → Program}
    (hnext : ∀ answer, (∀ o, answer = .ok o → o.cls = c) → (next answer).Within G) :
    (constructDefault c next).Within G := by
  unfold constructDefault
  cases hfind : c.noArgConstructor? with
  | none => exact hnext _ nofun
  | some k =>
      have hk : k ∈ c.constructors := List.mem_of_find?_eq_some hfind
      refine within_construct hc hc hk (by simp) fun answer hanswer => hnext _ fun o ho => ?_
      cases answer with
      | error e => cases ho
      | ok o' =>
          obtain rfl := Except.ok.inj ho
          exact hanswer o' rfl

theorem within_bindTo {handler : Handler} (hhandler : handler.Within G) {c : Class}
    {next : Except Failure ObjectRef → Program}
    (hnext : ∀ answer, (∀ o, answer = .ok o → o.cls = c) → (next answer).Within G)
    {made : Except Failure ObjectRef} (hmade : ∀ o, made = .ok o → o.cls = c) :
    (bindTo handler next made).Within G := by
  cases made with
  | error e => exact hnext _ nofun
  | ok o =>
      refine .bindHandler hhandler fun bound => hnext _ fun o' ho' => ?_
      split at ho'
      · exact hmade o' ho'
      · cases ho'

theorem within_instantiate {as : List Allocator} {p : ProxyClass} (hp : G.Mem p.cls)
    (callSuper : Bool) {handler : Handler} (hhandler : handler.Within G)
    {next : Except Failure ObjectRef → Program}
    (hnext : ∀ answer, (∀ o, answer = .ok o → o.cls = p.cls) → (next answer).Within G) :
    (instantiate as p callSuper handler next).Within G := by
  unfold instantiate
  split
  · exact within_constructDefault hp fun made hmade => within_bindTo hhandler hnext hmade
  · refine .allocate hp fun o ho => within_bindTo hhandler hnext fun o' ho' => ?_
    obtain rfl := Except.ok.inj ho'
    exact ho

theorem within_setThrough {m : FieldMember} (hm : m.Within G) (o : ObjectRef) {v : Value}
    (hv : G.Has v) {next : Except Failure Unit → Program}
    (hnext : ∀ answer, (next answer).Within G) : (setThrough m o v next).Within G := by
  unfold setThrough
  split
  · exact hnext _
  · split
    · exact hnext _
    · rename_i hcheck
      have haccepts : m.field.type.accepts v = true := by
        by_contra hrefused
        simp [TypeRef.check, hrefused] at hcheck
      have hfield : m.field ∈ m.declaring.fields := List.getElem_mem m.index.isLt
      exact .writeSlot hm.declaring hfield haccepts hv fun _ => hnext _

end Program

end Within

end Metaobject
