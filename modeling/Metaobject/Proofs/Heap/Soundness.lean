import Metaobject.Proofs.Heap.Operations

/-!
# The heap is type-sound

A run is a list of operations on an empty heap, each of which may fail and may run bodies that perform
such operations themselves. As long as the operations and the bodies stay within a graph of classes,
every heap of the run is typed: the one it leaves, those between its operations, and those that occur
while bodies run.
-/

namespace Metaobject

/-- An operation on the heap from outside. -/
inductive Operation where
  | allocate (c : Class)
  | construct (c : Class) (constructor : Constructor) (args : List Value)
  | initialise (target : ObjectRef) (constructor : Constructor) (args : List Value)
  | setField (target : ObjectRef) (name : String) (value : Value)
  | instantiate (allocators : List Allocator) (proxy : ProxyClass) (callSuper : Bool)
      (handler : Handler)
  /-- Sets a field through the invoker that the strategy makes, if it makes one. -/
  | setThrough (strategy : Strategy) (member : FieldMember) (target : ObjectRef) (value : Value)
  | invoke (target : ObjectRef) (method : String) (args : List Value)

namespace Operation

section Running

variable (link : Linkage) (depth : Nat)

/-- The heap that the operation leaves, however it ends. -/
def after (h : Heap) : Operation → Heap
  | .allocate c => (h.allocate c).2
  | .construct c k args => (Act.outcome (Metaobject.construct link depth c k args) h).2
  | .initialise o k args => (Act.outcome (Metaobject.initialise link depth o k args) h).2
  | .setField o name v => match h.setField o name v with
    | .ok g => g
    | .error _ => h
  | .instantiate allocators p callSuper handler =>
      (HeapAttempt.outcome (Allocator.instantiate link depth allocators p callSuper handler) h).2
  | .setThrough s m o v => match s.field m with
    | .ok invoker => (HeapAttempt.outcome (invoker.set link depth o v) h).2
    | .error _ => h
  | .invoke o method args => (Act.outcome (Metaobject.invoke link depth o method args) h).2

/-- The operation as a body performs it. -/
def body : Operation → Program
  | .allocate c => .allocate c fun _ => .done .null
  | .construct c k args => .construct c k args fun _ => .done .null
  | .initialise o k args => .initialise o k args fun _ => .done .null
  | .setField o name v => .setField o name v fun _ => .done .null
  | .instantiate allocators p callSuper handler =>
      .instantiate allocators p callSuper handler fun _ => .done .null
  | .setThrough s m o v => match s.field m with
    | .ok _ => .setThrough m o v fun _ => .done .null
    | .error _ => .done .null
  | .invoke o method args => .invoke o method args fun _ => .done .null

def run (ops : List Operation) : Heap := ops.foldl (after link depth) .empty

/-- The heap occurs in the run of the operations: at the start or the end of one of them, between
its steps, or while a body runs for it. -/
def OccursIn (ops : List Operation) (g : Heap) : Prop :=
  ∃ before op rest, ops = before ++ op :: rest ∧
    op.body.Occurs link (depth + 1) (run link depth before) g

end Running

/-- The operation is about classes, objects and values of the graph. Fields are set through typed
handles and reflective invokers. -/
def Within (G : FieldGraph) : Operation → Prop
  | .allocate c => G.Mem c
  | .construct c k args => G.Mem c ∧ (∃ d, G.Mem d ∧ k ∈ d.constructors) ∧ ∀ v ∈ args, G.Has v
  | .initialise o k args => (Request.initialise o k args).Within G
  | .setField o _ v => G.Mem o.cls ∧ G.Has v
  | .instantiate allocators p _ handler =>
      (∀ a ∈ allocators, a.Plain) ∧ G.Mem p.cls ∧ handler.Within G
  | .setThrough s m _ v =>
      (s = .reflective ∨ ∃ enabled, s = .typedHandle enabled) ∧ m.Within G ∧ G.Has v
  | .invoke o method args => (Request.invoke o method args).Within G

variable {G : FieldGraph} {link : Linkage} {op : Operation}

theorem within_body (hop : op.Within G) : op.body.Within G := by
  have hend : Program.Within G (.done .null) := .done (G.has_of_object?_eq_none rfl)
  cases op with
  | allocate c => exact .allocate hop fun _ _ => hend
  | construct c k args =>
      obtain ⟨hc, ⟨d, hd, hk⟩, hargs⟩ := hop
      exact Program.within_construct hc hd hk hargs fun _ _ => hend
  | initialise o k args =>
      obtain ⟨ho, ⟨d, hd, hk⟩, hargs⟩ := hop
      exact .initialise ho hd hk hargs fun _ => hend
  | setField o name v => exact .setField hop.1 hop.2 fun _ => hend
  | instantiate allocators p callSuper handler =>
      obtain ⟨-, hp, hhandler⟩ := hop
      exact Program.within_instantiate hp callSuper hhandler fun _ _ => hend
  | setThrough s m o v =>
      obtain ⟨-, hm, hv⟩ := hop
      rw [body]
      cases s.field m with
      | ok invoker => exact Program.within_setThrough hm o hv fun _ => hend
      | error e => exact hend
  | invoke o method args => exact .invoke hop.1 hop.2 fun _ _ => hend

theorem heap_attempt_bind {α : Type} (x : Act α) (v : Value) (h : Heap) :
    (Act.outcome (x.attempt >>= fun _ => pure v) h).2 = (Act.outcome x h).2 := by
  rw [Act.outcome_bind, Act.outcome_attempt]
  rcases Act.outcome x h with ⟨(e | _) | a, g⟩ <;> rfl

/-- As a body performs it, the operation leaves the same heap. -/
theorem Within.heap_body (hop : op.Within G) (depth : Nat) (h : Heap) :
    (Act.outcome (op.body.run (perform link depth)) h).2 = op.after link depth h := by
  cases op with
  | allocate c => rfl
  | construct c k args =>
      calc
        _ = (HeapAttempt.outcome (.ofAct (Metaobject.construct link depth c k args)) h).2 :=
          (Program.does_construct link depth c k args).heap h
        _ = (Act.outcome (Metaobject.construct link depth c k args) h).2 := by
          rw [HeapAttempt.outcome_ofAct]
  | initialise o k args =>
      rw [after, Metaobject.initialise, Act.outcome_discard]
      exact heap_attempt_bind (perform link depth (.initialise o k args)) .null h
  | setField o name v =>
      rw [after, body, Program.run, Act.outcome_bind, Act.outcome_modifyGet]
      cases h.setField o name v <;> rfl
  | instantiate allocators p callSuper handler =>
      exact Program.heap_instantiate link depth hop.1 p callSuper handler h
  | setThrough s m o v =>
      obtain ⟨hs, hm, -⟩ := hop
      rw [after, body]
      cases hi : s.field m with
      | error e => rfl
      | ok i =>
          calc
            _ = (HeapAttempt.outcome (FieldInvoker.set link depth o v
                (.handle m.declaring m.slot m.field.type)) h).2 :=
              (Program.does_setThrough link depth m o v).heap h
            _ = (HeapAttempt.outcome (i.set link depth o v) h).2 := by
              rw [(FieldMember.agree_handle hs hi hm.find link depth o h trivial).2 v]
  | invoke o method args =>
      exact heap_attempt_bind (perform link depth (.invoke o method args)) .null h

variable (hlink : link.Within G)
include hlink

theorem Within.typed_occurs (hop : op.Within G) {depth : Nat} {h g : Heap} (hh : h.Typed G)
    (hoccurs : op.body.Occurs link depth h g) : g.Typed G :=
  hoccurs.typed hlink (within_body hop) hh

theorem Within.typed_after (hop : op.Within G) (depth : Nat) {h : Heap} (hh : h.Typed G) :
    (op.after link depth h).Typed G := by
  rw [← hop.heap_body]
  exact hop.typed_occurs hlink hh (Program.occurs_outcome link (depth + 1) op.body h)

theorem typed_run {ops : List Operation} (hops : ∀ op ∈ ops, op.Within G) (depth : Nat) :
    (run link depth ops).Typed G := by
  unfold run
  have hinvariant : ∀ h : Heap, h.Typed G → (ops.foldl (after link depth) h).Typed G := by
    induction ops with
    | nil => exact fun h hh => hh
    | cons op ops ih =>
        obtain ⟨hop, hrest⟩ := List.forall_mem_cons.mp hops
        exact fun h hh => ih hrest _ (hop.typed_after hlink depth hh)
  exact hinvariant .empty (Heap.typed_empty G)

/-- In a run within a graph of classes, every object of every heap that occurs has exactly the slots
that its class declares, each holds a value that the type of its field accepts, and every declared
field is found by name. -/
theorem run_typeSound {ops : List Operation} (hops : ∀ op ∈ ops, op.Within G) (depth : Nat) :
    (run link depth ops).TypeSound ∧ ∀ g, OccursIn link depth ops g → g.TypeSound := by
  refine ⟨(typed_run hlink hops depth).typeSound, ?_⟩
  rintro g ⟨before, op, rest, rfl, hoccurs⟩
  have hbefore : (run link depth before).Typed G :=
    typed_run hlink (fun o ho => hops o (by simp [ho])) depth
  have hop : op.Within G := hops op (by simp)
  exact (hop.typed_occurs hlink hbefore hoccurs).typeSound

end Operation

/-! ### A run over a shadowed field -/

namespace Samples

/-- A class whose constructor sets the field, which a subclass declares again with another type. -/
def titled : ClassSpec :=
  { ClassSpec.named "app.Titled" .ordinary with
    constructors := [⟨[], .pub, some 0, none⟩]
    fields := [⟨"value", .string, .pub, false, none⟩]
    methods := [⟨"rename", [.string], .void, .pub, false, false, [], some (.linked 1)⟩] }

def numbered : ClassSpec :=
  { ClassSpec.named "app.Numbered" .ordinary with
    superclass := some (titled.described 1)
    constructors := [⟨[.primitive .int], .pub, some 1, none⟩]
    fields := [⟨"value", .primitive .int, .pub, false, none⟩] }

/-- A proxy class of the first one. -/
def titledProxy : ClassSpec :=
  { ClassSpec.named "dyn.Titled$Proxy$0" .ordinary with
    superclass := some (titled.described 1)
    methods := [⟨"rename", [.string], .void, .pub, false, false, [], some .forward⟩]
    synthetic := true }

def valueGraph : FieldGraph where
  Mem c := c ∈ [Class.root, titled.described 1, numbered.described 2, titledProxy.described 3]
  superclass_mem := by
    intro c s hc hs
    simp only [List.mem_cons, List.not_mem_nil, or_false] at hc
    rcases hc with rfl | rfl | rfl | rfl <;> cases hs
    · exact .head _
    · exact .tail _ (.head _)
    · exact .tail _ (.head _)
  interface_mem := by
    intro c i hc hi
    simp only [List.mem_cons, List.not_mem_nil, or_false] at hc
    rcases hc with rfl | rfl | rfl | rfl <;> cases hi
  eq_of_name_eq := by
    intro c d hc hd h
    exact List.inj_on_of_nodup_map (by decide) hc hd h
  built := by
    intro c hc
    simp only [List.mem_cons, List.not_mem_nil, or_false] at hc
    rcases hc with rfl | rfl | rfl | rfl
    · exact .inl rfl
    · exact .inr ⟨titled, 1, rfl⟩
    · exact .inr ⟨numbered, 2, rfl⟩
    · exact .inr ⟨titledProxy, 3, rfl⟩
  not_void := by
    intro c hc
    simp only [List.mem_cons, List.not_mem_nil, or_false] at hc
    rcases hc with rfl | rfl | rfl | rfl <;> decide

/-- The field of the superclass, asked of the superclass. -/
def titleField : FieldMember := ⟨titled.described 1, titled.described 1, ⟨0, by decide⟩⟩

/-- Routine 0 sets the field of the superclass through its handle, the others set the field by
name. -/
def settingValue : Linkage
  | 0 => fun this _ => .setThrough titleField this (.str "untitled") fun _ => .done .null
  | _ => fun this args => .setField this "value" (args.getD 0 .null) fun _ => .done .null

def valueRun : List Operation :=
  [.construct (numbered.described 2) ⟨[.primitive .int], .pub, some 1, none⟩ [.int 7],
    .setField ⟨0, numbered.described 2⟩ "value" (.str "seven"),
    .setThrough .reflective titleField ⟨0, numbered.described 2⟩ (.str "seven"),
    .instantiate [.raw true] ⟨4, titledProxy.described 3, ⟨[], none, none, false⟩, []⟩ false
      (fun this _ args => .setField this "value" (args.getD 0 .null) fun _ => .done .null),
    .invoke ⟨1, titledProxy.described 3⟩ "rename" [.str "renamed"]]

theorem within_titleField : titleField.Within valueGraph :=
  ⟨titled.described 1, "value", .tail _ (.head _), rfl⟩

theorem within_settingValue : settingValue.Within valueGraph := by
  intro label _ this args hthis hargs
  have hend : Program.Within valueGraph (.done .null) :=
    .done (valueGraph.has_of_object?_eq_none rfl)
  cases label with
  | zero =>
      have htext : valueGraph.Has (.str "untitled") := valueGraph.has_of_object?_eq_none rfl
      exact Program.within_setThrough within_titleField this htext fun _ => hend
  | succ _ => exact .setField hthis (valueGraph.has_getD hargs 0) fun _ => hend

theorem within_valueRun : ∀ op ∈ valueRun, op.Within valueGraph := by
  have htext (s : String) : valueGraph.Has (.str s) := valueGraph.has_of_object?_eq_none rfl
  have hnumbered : valueGraph.Mem (numbered.described 2) := .tail _ (.tail _ (.head _))
  have hproxy : valueGraph.Mem (titledProxy.described 3) := .tail _ (.tail _ (.tail _ (.head _)))
  simp only [valueRun, List.forall_mem_cons]
  refine ⟨⟨hnumbered, ⟨_, hnumbered, .head _⟩, ?_⟩, ⟨hnumbered, htext _⟩,
    ⟨.inl rfl, within_titleField, htext _⟩, ⟨?_, hproxy, ?_⟩, ⟨hproxy, ?_⟩, nofun⟩
  · rintro v hv
    obtain rfl := List.mem_singleton.mp hv
    exact valueGraph.has_of_object?_eq_none rfl
  · rintro a ha
    obtain rfl := List.mem_singleton.mp ha
    exact Allocator.plain_raw true
  · intro this name args hthis hargs
    exact .setField hthis (valueGraph.has_getD hargs 0) fun _ =>
      .done (valueGraph.has_of_object?_eq_none rfl)
  · rintro v hv
    obtain rfl := List.mem_singleton.mp hv
    exact htext _

/-- The heap when the constructor of the superclass has run and that of the class itself is about to:
the object is only partly constructed. -/
def partlyConstructed : Heap :=
  ⟨[⟨numbered.described 2,
    [(⟨"app.Numbered", "value"⟩, .int 0), (⟨"app.Titled", "value"⟩, .str "untitled")], none⟩], []⟩

theorem occursIn_partlyConstructed :
    Operation.OccursIn settingValue 5 valueRun partlyConstructed := by
  refine ⟨[], _, _, rfl, .step rfl rfl (.enter rfl (.constructor ?_ rfl) (.start 5 _ _))⟩
  rfl

theorem run_typeSound_valueRun :
    settingValue.Within valueGraph ∧ (∀ op ∈ valueRun, op.Within valueGraph) ∧
      (Operation.run settingValue 5 valueRun).TypeSound ∧ partlyConstructed.TypeSound ∧
      (Operation.run settingValue 5 valueRun).readSlot ⟨0, numbered.described 2⟩
        ⟨"app.Titled", "value"⟩ = some (.str "seven") ∧
      (Operation.run settingValue 5 valueRun).readSlot ⟨0, numbered.described 2⟩
        ⟨"app.Numbered", "value"⟩ = some (.int 7) ∧
      (Operation.run settingValue 5 valueRun).getField ⟨1, titledProxy.described 3⟩ "value" =
        some (.str "renamed") := by
  obtain ⟨hleft, hoccurs⟩ := Operation.run_typeSound within_settingValue within_valueRun 5
  have hpartly : partlyConstructed.TypeSound := hoccurs _ occursIn_partlyConstructed
  exact ⟨within_settingValue, within_valueRun, hleft, hpartly, rfl, rfl, rfl⟩

end Samples

end Metaobject
