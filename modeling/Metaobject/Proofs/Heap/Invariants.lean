import Metaobject.Proofs.Heap.Handlers

/-!
# What the operations keep, all runs keep

Whatever runs, the heap changes by four operations only: a text is recorded, an object is allocated, a
slot is written, or a handler is bound. So a property that these operations keep is kept by every run
of every program, and holds of every heap that arises from the empty one. One such property is that no
object lacks a slot for a field that its class has.
-/

namespace Metaobject

/-! ## Invariants -/

/-- The property is kept by all operations that change the heap. -/
structure Heap.Invariant (P : Heap → Prop) : Prop where
  record : ∀ {h}, P h → ∀ text, P (h.record text)
  allocate : ∀ {h}, P h → ∀ c, P (h.allocate c).2
  writeSlot : ∀ {h o s v g}, P h → h.writeSlot o s v = some g → P g
  bindHandler : ∀ {h o handler g}, P h → h.bindHandler o handler = .ok g → P g

/-- The heaps that arise from the empty one. -/
inductive Heap.Reached : Heap → Prop
  | empty : Reached .empty
  | record {h : Heap} : Reached h → ∀ text, Reached (h.record text)
  | allocate {h : Heap} : Reached h → ∀ c, Reached (h.allocate c).2
  | writeSlot {h : Heap} {o : ObjectRef} {s : Slot} {v : Value} {g : Heap} :
      Reached h → h.writeSlot o s v = some g → Reached g
  | bindHandler {h : Heap} {o : ObjectRef} {handler : Handler} {g : Heap} :
      Reached h → h.bindHandler o handler = .ok g → Reached g

theorem Heap.invariant_reached : Invariant Reached :=
  ⟨.record, .allocate, .writeSlot, .bindHandler⟩

theorem Heap.Reached.of_invariant {P : Heap → Prop} (hP : Invariant P) (hempty : P .empty)
    {h : Heap} (hh : h.Reached) : P h := by
  induction hh with
  | empty => exact hempty
  | record _ text ih => exact hP.record ih text
  | allocate _ c ih => exact hP.allocate ih c
  | writeSlot _ hwrite ih => exact hP.writeSlot ih hwrite
  | bindHandler _ hbind ih => exact hP.bindHandler ih hbind

/-- The computation leaves a heap with the property, however it ends, when it starts on one. -/
def Act.Maintains (P : Heap → Prop) {α : Type} (x : Act α) : Prop :=
  ∀ h, P h → P (outcome x h).2

namespace Act

variable {P : Heap → Prop} {α β : Type}

theorem maintains_pure (a : α) : Maintains P (pure a) := fun _ hh => hh

theorem maintains_throw (e : Halt) : Maintains P (throw e : Act α) := fun _ hh => hh

theorem maintains_modifyGet {f : Heap → α × Heap} (hf : ∀ h, P h → P (f h).2) :
    Maintains P (modifyGet f) := hf

theorem maintains_ofExcept (x : Except Exception α) : Maintains P (ofExcept x) := by
  intro h hh
  rwa [outcome_ofExcept]

theorem maintains_bind {x : Act α} {f : α → Act β} (hx : Maintains P x)
    (hf : ∀ a, Maintains P (f a)) : Maintains P (x >>= f) := by
  intro h hh
  have hleft := hx h hh
  rw [outcome_bind]
  rcases hrun : outcome x h with ⟨e | a, g⟩ <;> rw [hrun] at hleft
  · exact hleft
  · exact hf a g hleft

theorem maintains_attempt {x : Act α} (hx : Maintains P x) : Maintains P x.attempt := by
  intro h hh
  have hleft := hx h hh
  rw [outcome_attempt]
  rcases hrun : outcome x h with ⟨(e | _) | a, g⟩ <;> rwa [hrun] at hleft

theorem maintains_discard {x : Act α} (hx : Maintains P x) : Maintains P (discard x) := by
  intro h hh
  rw [outcome_discard]
  exact hx h hh

theorem maintains_forM {xs : List α} {f : α → Act PUnit} (hf : ∀ x, Maintains P (f x)) :
    Maintains P (xs.forM f) := by
  induction xs with
  | nil => exact maintains_pure _
  | cons x xs ih => exact maintains_bind (hf x) fun _ => ih

end Act

namespace Heap.Invariant

open Act

variable {P : Heap → Prop} (hP : Invariant P)
include hP

theorem setField {h g : Heap} {o : ObjectRef} {name : String} {v : Value} (hh : P h)
    (hset : h.setField o name v = .ok g) : P g := by
  rw [Heap.setField] at hset
  split at hset
  · cases hset
  · simp only at hset
    split at hset
    · obtain rfl := Except.ok.inj hset
      cases hwrite : h.writeSlot o _ v with
      | none => exact hh
      | some g => exact hP.writeSlot hh hwrite
    · cases hset

section Requests

variable {perform : Request → Act Value} (hperform : ∀ r, Maintains P (perform r))
include hperform

theorem maintains_node {p : Program} {n : Program.Node} (hn : p.node? perform = some n) :
    Maintains P n.act := by
  cases p with
  | done v => cases hn
  | raise e => cases hn
  | record text next =>
      cases hn
      exact maintains_modifyGet fun h hh => hP.record hh text
  | getField o name next =>
      cases hn
      exact maintains_modifyGet fun h hh => hh
  | setField o name v next =>
      cases hn
      refine maintains_modifyGet fun h hh => ?_
      cases hset : h.setField o name v with
      | error e => exact hh
      | ok g => exact hP.setField hh hset
  | readSlot o owner name next =>
      cases hn
      exact maintains_modifyGet fun h hh => hh
  | writeSlot o owner name v next =>
      cases hn
      refine maintains_modifyGet fun h hh => ?_
      cases hwrite : h.writeSlot o ⟨owner, name⟩ v with
      | none => exact hh
      | some g => exact hP.writeSlot hh hwrite
  | bindHandler o handler next =>
      cases hn
      refine maintains_modifyGet fun h hh => ?_
      cases hbind : h.bindHandler o handler with
      | error _ => exact hh
      | ok g => exact hP.bindHandler hh hbind
  | allocate c next =>
      cases hn
      exact maintains_modifyGet fun h hh => hP.allocate hh c
  | initialise o k args next =>
      cases hn
      exact maintains_attempt (hperform _)
  | invoke o method args next =>
      cases hn
      exact maintains_attempt (hperform _)

theorem maintains_program (p : Program) : Maintains P (p.run perform) := by
  induction p using Program.node_induction perform with
  | done v => exact maintains_pure v
  | raise e => exact maintains_throw _
  | node p n hn ih =>
      rw [Program.run_of_node hn]
      exact maintains_bind (hP.maintains_node hperform hn) ih

theorem maintains_runBody (link : Linkage) (m : Method) (body : MethodBody) (this : ObjectRef)
    (args : List Value) : Maintains P (runBody link perform m body this args) := by
  cases body with
  | linked label => exact hP.maintains_program hperform _
  | forward =>
      refine maintains_bind (maintains_ofExcept _) fun _ => maintains_bind (fun _ hh => hh) fun g => ?_
      cases g.handler? this with
      | none => exact maintains_throw _
      | some handler =>
          refine maintains_bind (hP.maintains_program hperform _) fun v => ?_
          exact maintains_ofExcept _
  | _ => exact maintains_pure _

theorem maintains_runConstructor (link : Linkage) (this : ObjectRef) (k : Constructor)
    (args : List Value) : Maintains P (runConstructor link perform this k args) := by
  unfold runConstructor
  cases k.body with
  | none => exact maintains_pure _
  | some label => exact maintains_discard (hP.maintains_program hperform _)

theorem maintains_runDefaultConstructor (link : Linkage) (this : ObjectRef) (c : Class) :
    Maintains P (runDefaultConstructor link perform this c) := by
  unfold runDefaultConstructor
  cases c.noArgConstructor? with
  | none => exact maintains_throw _
  | some k => exact hP.maintains_runConstructor hperform link this k []

theorem maintains_performWith (link : Linkage) (r : Request) :
    Maintains P (performWith link perform r) := by
  cases r with
  | invoke o method args =>
      rw [performWith]
      cases o.cls.selectMethod? method args with
      | none => exact maintains_throw _
      | some selected => exact hP.maintains_runBody hperform link _ _ o args
  | initialise o k args =>
      refine maintains_bind (maintains_forM fun c => ?_) fun _ => maintains_bind ?_ fun _ => ?_
      · exact hP.maintains_runDefaultConstructor hperform link o c
      · exact hP.maintains_runConstructor hperform link o k args
      · exact maintains_pure _

end Requests

theorem maintains_perform (link : Linkage) (depth : Nat) (r : Request) :
    Maintains P (perform link depth r) := by
  induction depth generalizing r with
  | zero => exact hP.maintains_performWith (fun _ => maintains_throw _) link r
  | succ depth ih => exact hP.maintains_performWith ih link r

/-- Every run keeps what the operations keep. -/
theorem maintains_run (link : Linkage) (depth : Nat) (p : Program) :
    Maintains P (p.run (perform link depth)) :=
  hP.maintains_program (hP.maintains_perform link depth) p

end Heap.Invariant

/-- A run that starts on a heap that arises from the empty one leaves such a heap. -/
theorem Heap.Reached.run {h : Heap} (hh : h.Reached) (link : Linkage) (depth : Nat) (p : Program) :
    (Act.outcome (p.run (perform link depth)) h).2.Reached :=
  invariant_reached.maintains_run link depth p h hh

/-! ## No slot is missing -/

/-- The object has a slot for every field that the classes of its superclass chain declare. -/
def Object.Complete (x : Object) : Prop :=
  ∀ d ∈ x.cls.ancestors, ∀ f ∈ d.fields, (x.fields.get? ⟨d.name, f.name⟩).isSome = true

def Heap.Complete (h : Heap) : Prop := ∀ x ∈ h.objects, x.Complete

theorem Object.complete_new (c : Class) : Complete ⟨c, Fields.ofClass c, none⟩ :=
  fun _ hd _ hf => Fields.isSome_get?_ofClass hd hf

theorem Object.Complete.replace {x : Object} (hx : x.Complete) (s : Slot) (v : Value) :
    Complete { x with fields := x.fields.replace s v } := by
  intro d hd f hf
  have hslot := hx d hd f hf
  simp only [Fields.get?_replace]
  split
  · rwa [Option.isSome_map]
  · exact hslot

namespace Heap

theorem invariant_complete : Invariant Complete where
  record hh text := hh
  allocate hh c := by
    intro x hx
    rcases List.mem_append.mp hx with hold | hnew
    · exact hh x hold
    · obtain rfl := List.mem_singleton.mp hnew
      exact Object.complete_new c
  writeSlot hh hwrite := by
    obtain ⟨-, rfl⟩ := writeSlot_eq_some_iff.mp hwrite
    exact forall_mem_update hh fun x hx => hx.replace _ _
  bindHandler hh hbind := by
    obtain ⟨-, rfl⟩ := bindHandler_eq_ok_iff.mp hbind
    exact forall_mem_update hh fun x hx => hx

theorem Reached.complete {h : Heap} (hh : h.Reached) : h.Complete :=
  hh.of_invariant invariant_complete (by simp [Heap.Complete, Heap.empty])

end Heap

end Metaobject
