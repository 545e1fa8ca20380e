import Metaobject.Proofs.Heap.Trace

/-!
# Handlers stay bound

Nothing that a run does takes an object away, changes its class or replaces its handler: of any two
heaps that a run passes through, the later one extends the earlier one. So the place of an object's
handler is filled at most once and keeps what it was filled with, whichever body fills it, and a
handler that is refused leaves the heap as it is.
-/

namespace Metaobject

/-! ## Heaps that extend each other -/

/-- The second object has the class of the first one, and its handler if it has one. -/
structure Object.Extends (x y : Object) : Prop where
  cls : y.cls = x.cls
  handler : ∀ {handler}, x.handler = some handler → y.handler = some handler

theorem Object.Extends.refl (x : Object) : x.Extends x := ⟨rfl, id⟩

namespace Heap

/-- Every object of the first heap is on the second one, with its class and with its handler. -/
def Extends (h g : Heap) : Prop :=
  ∀ o x, h.object? o = some x → ∃ y, g.object? o = some y ∧ x.Extends y

namespace Extends

theorem refl (h : Heap) : h.Extends h := fun _ x hx => ⟨x, hx, .refl x⟩

theorem trans {h g f : Heap} (hg : h.Extends g) (hf : g.Extends f) : h.Extends f := by
  intro o x hx
  obtain ⟨y, hy, hxy⟩ := hg o x hx
  obtain ⟨z, hz, hyz⟩ := hf o y hy
  exact ⟨z, hz, hyz.cls.trans hxy.cls, fun hk => hyz.handler (hxy.handler hk)⟩

theorem handler? {h g : Heap} (hg : h.Extends g) {o : ObjectRef} {handler : Handler}
    (ho : h.handler? o = some handler) : g.handler? o = some handler := by
  obtain ⟨x, hx, hk⟩ := Option.bind_eq_some_iff.mp ho
  obtain ⟨y, hy, hxy⟩ := hg o x hx
  exact Option.bind_eq_some_iff.mpr ⟨y, hy, hxy.handler hk⟩

theorem isSome_object? {h g : Heap} (hg : h.Extends g) {o : ObjectRef}
    (ho : (h.object? o).isSome = true) : (g.object? o).isSome = true := by
  obtain ⟨x, hx⟩ := Option.isSome_iff_exists.mp ho
  obtain ⟨y, hy, -⟩ := hg o x hx
  simp [hy]

end Extends

/-! ## Operations -/

variable {h g : Heap} {o : ObjectRef}

theorem object?_update (h : Heap) (o p : ObjectRef) (f : Object → Object) :
    (h.update o f).object? p =
      if o.address = p.address then (h.object? p).map f else h.object? p := by
  rw [object?, update, List.getElem?_modify]
  split <;> simp [object?]

theorem extends_record (h : Heap) (text : String) : h.Extends (h.record text) := .refl h

theorem extends_update {f : Object → Object}
    (hf : ∀ x, h.object? o = some x → x.Extends (f x)) : h.Extends (h.update o f) := by
  intro p x hx
  rw [object?_update]
  split
  · rename_i haddress
    have ho : h.object? o = some x := by rwa [object?, haddress]
    exact ⟨f x, by rw [hx]; rfl, hf x ho⟩
  · exact ⟨x, hx, .refl x⟩

theorem writeSlot_eq_some_iff {s : Slot} {v : Value} :
    h.writeSlot o s v = some g ↔ (h.readSlot o s).isSome = true ∧
      g = h.update o fun x => { x with fields := x.fields.replace s v } := by
  rw [writeSlot]
  cases h.readSlot o s <;> simp [eq_comm]

theorem extends_writeSlot {s : Slot} {v : Value} (hwrite : h.writeSlot o s v = some g) :
    h.Extends g := by
  obtain ⟨-, rfl⟩ := writeSlot_eq_some_iff.mp hwrite
  exact extends_update fun _ _ => ⟨rfl, id⟩

theorem extends_setField {name : String} {v : Value} (hset : h.setField o name v = .ok g) :
    h.Extends g := by
  rw [setField] at hset
  split at hset
  · cases hset
  · simp only at hset
    split at hset
    · obtain rfl := Except.ok.inj hset
      cases hwrite : h.writeSlot o _ v with
      | none => exact .refl h
      | some g => exact extends_writeSlot hwrite
    · cases hset

/-- A handler is bound where there is none, and is refused where there is one. -/
theorem bindHandler_eq_ok_iff {handler : Handler} :
    h.bindHandler o handler = .ok g ↔
      h.handler? o = none ∧ g = h.update o fun x => { x with handler := some handler } := by
  rw [bindHandler]
  cases h.handler? o <;> simp [eq_comm]

theorem bindHandler_of_free (hfree : h.handler? o = none) (handler : Handler) :
    h.bindHandler o handler = .ok (h.update o fun x => { x with handler := some handler }) :=
  bindHandler_eq_ok_iff.mpr ⟨hfree, rfl⟩

theorem bindHandler_of_isSome {handler : Handler} (hbound : (h.handler? o).isSome = true) :
    h.bindHandler o handler = .error handler := by
  obtain ⟨bound, hbound⟩ := Option.isSome_iff_exists.mp hbound
  rw [bindHandler, hbound]

theorem extends_bindHandler {handler : Handler} (hbind : h.bindHandler o handler = .ok g) :
    h.Extends g := by
  obtain ⟨hfree, rfl⟩ := bindHandler_eq_ok_iff.mp hbind
  refine extends_update fun x hx => ⟨rfl, fun hk => ?_⟩
  rw [Heap.handler?, hx, Option.bind_some, hk] at hfree
  cases hfree

theorem handler?_of_bindHandler {handler : Handler} (hbind : h.bindHandler o handler = .ok g)
    (ho : (h.object? o).isSome = true) : g.handler? o = some handler := by
  obtain ⟨-, rfl⟩ := bindHandler_eq_ok_iff.mp hbind
  obtain ⟨x, hx⟩ := Option.isSome_iff_exists.mp ho
  rw [Heap.handler?, object?_update, if_pos rfl, hx]
  rfl

theorem isSome_handler?_of_refused {handler returned : Handler}
    (hrefused : h.bindHandler o handler = .error returned) : (h.handler? o).isSome = true := by
  rw [bindHandler] at hrefused
  cases hbound : h.handler? o with
  | none =>
      rw [hbound] at hrefused
      cases hrefused
  | some bound => rfl

theorem handler?_of_missing (hmissing : h.object? o = none) : h.handler? o = none := by
  rw [Heap.handler?, hmissing]
  rfl

theorem missing_of_bindHandler {handler : Handler} (hbind : h.bindHandler o handler = .ok g)
    (hmissing : h.object? o = none) : g.object? o = none := by
  obtain ⟨-, rfl⟩ := bindHandler_eq_ok_iff.mp hbind
  rw [object?_update, if_pos rfl, hmissing]
  rfl

theorem object?_allocate (h : Heap) (c : Class) :
    (h.allocate c).2.object? (h.allocate c).1 = some ⟨c, Fields.ofClass c, none⟩ := by
  simp [allocate, object?]

theorem extends_allocate (h : Heap) (c : Class) : h.Extends (h.allocate c).2 := by
  intro p x hx
  have hlt : p.address < h.objects.length := (List.getElem?_eq_some_iff.mp hx).1
  refine ⟨x, ?_, .refl x⟩
  rwa [object?, allocate, List.getElem?_append_left hlt]

/-! ## Stretches of a run -/

/-- The heaps, in order, lie between the first one and the last one, and each of them extends those
before it. -/
structure Through (h : Heap) (between : List Heap) (g : Heap) : Prop where
  ends : h.Extends g
  start : ∀ x ∈ between, h.Extends x
  finish : ∀ x ∈ between, x.Extends g
  ordered : between.Pairwise Extends

namespace Through

theorem of_extends (hg : h.Extends g) : h.Through [] g :=
  ⟨hg, by simp, by simp, .nil⟩

theorem append {f : Heap} {before after : List Heap} (hg : h.Through before g)
    (hf : g.Through after f) : h.Through (before ++ after) f := by
  refine ⟨hg.ends.trans hf.ends, ?_, ?_, List.pairwise_append.mpr ⟨hg.ordered, hf.ordered, ?_⟩⟩
  · intro x hx
    rcases List.mem_append.mp hx with hx | hx
    · exact hg.start x hx
    · exact hg.ends.trans (hf.start x hx)
  · intro x hx
    rcases List.mem_append.mp hx with hx | hx
    · exact (hg.finish x hx).trans hf.ends
    · exact hf.finish x hx
  · intro x hx y hy
    exact (hg.finish x hx).trans (hf.start y hy)

theorem from_start {between : List Heap} (hg : h.Through between g) :
    h.Through (h :: between) g := by
  refine ⟨hg.ends, ?_, ?_, .cons hg.start hg.ordered⟩
  · exact List.forall_mem_cons.mpr ⟨.refl h, hg.start⟩
  · exact List.forall_mem_cons.mpr ⟨hg.ends, hg.finish⟩

theorem to_finish (hg : h.Extends g) : h.Through [g] g :=
  ⟨hg, by simpa using hg, by simpa using Extends.refl g, List.pairwise_singleton _ _⟩

end Through

end Heap

/-! ## Programs -/

namespace Program

variable {perform : Request → Act Value} {inside : Request → Heap → List Heap}
  (hinside : ∀ (r : Request) (h : Heap), h.Through (inside r h) (Act.outcome (perform r) h).2)
include hinside

/-- Every operation extends the heap, and so do the heaps inside it, if those of a request do. -/
theorem through_node {p : Program} {n : Node} (hn : p.node? perform = some n) (h : Heap) :
    h.Through (p.request?.elim [] fun r => inside r h) (Act.outcome n.act h).2 := by
  have hattempt (r : Request) : h.Through (inside r h) (Act.outcome (perform r).attempt h).2 := by
    have hr := hinside r h
    rw [Act.outcome_attempt]
    rcases hrun : Act.outcome (perform r) h with ⟨(e | _) | v, g⟩ <;> rwa [hrun] at hr
  cases p with
  | done v => cases hn
  | raise e => cases hn
  | record text next =>
      cases hn
      exact .of_extends (h.extends_record text)
  | getField o name next =>
      cases hn
      exact .of_extends (.refl h)
  | setField o name v next =>
      cases hn
      refine .of_extends ?_
      rw [Act.outcome_modifyGet]
      cases hset : h.setField o name v with
      | error e => exact .refl h
      | ok g => exact Heap.extends_setField hset
  | readSlot o owner name next =>
      cases hn
      exact .of_extends (.refl h)
  | writeSlot o owner name v next =>
      cases hn
      refine .of_extends ?_
      rw [Act.outcome_modifyGet]
      cases hwrite : h.writeSlot o ⟨owner, name⟩ v with
      | none => exact .refl h
      | some g => exact Heap.extends_writeSlot hwrite
  | bindHandler o handler next =>
      cases hn
      refine .of_extends ?_
      rw [Act.outcome_modifyGet]
      cases hbind : h.bindHandler o handler with
      | error e => exact .refl h
      | ok g => exact Heap.extends_bindHandler hbind
  | allocate c next =>
      cases hn
      exact .of_extends (h.extends_allocate c)
  | initialise o k args next =>
      cases hn
      exact hattempt (.initialise o k args)
  | invoke o method args next =>
      cases hn
      exact hattempt (.invoke o method args)

theorem through_passes (p : Program) (h : Heap) :
    h.Through (p.passes perform inside h) (Act.outcome (p.run perform) h).2 := by
  induction p using node_induction perform generalizing h with
  | done v => exact .to_finish (.refl h)
  | raise e => exact .to_finish (.refl h)
  | node p n hn ih =>
      -- the operation leads from `h` to `g`, and the rest of the program on from there
      have hnode := through_node hinside hn h
      rw [passes_of_node hn, run_of_node hn, Act.outcome_bind]
      rcases hact : Act.outcome n.act h with ⟨e | a, g⟩ <;> rw [hact] at hnode
      · exact (hnode.append (.to_finish (.refl g))).from_start
      · exact (hnode.append (ih a g)).from_start

end Program

/-! ## Requests -/

section Requests

variable (link : Linkage) {perform : Request → Act Value} {body : Program → Heap → List Heap}
  (hbody : ∀ (p : Program) (h : Heap), h.Through (body p h) (Act.outcome (p.run perform) h).2)
include hbody

theorem Constructor.through_passes (o : ObjectRef) (k : Constructor) (args : List Value)
    (h : Heap) :
    h.Through (k.passes link body o args h)
      (Act.outcome (runConstructor link perform o k args) h).2 := by
  unfold passes runConstructor
  cases k.body with
  | none => exact .of_extends (.refl h)
  | some label =>
      simp only [Act.outcome_discard]
      exact hbody (link label o args) h

theorem through_runDefaultConstructor (o : ObjectRef) (c : Class) (h : Heap) :
    h.Through (c.noArgConstructor?.elim [] fun k => k.passes link body o [] h)
      (Act.outcome (runDefaultConstructor link perform o c) h).2 := by
  unfold runDefaultConstructor
  cases c.noArgConstructor? with
  | none => exact .of_extends (.refl h)
  | some k => exact k.through_passes link hbody o [] h

theorem through_superclassPasses (o : ObjectRef) (cs : List Class) (h : Heap) :
    h.Through (superclassPasses link perform body o cs h)
      (Act.outcome (cs.forM (runDefaultConstructor link perform o)) h).2 := by
  induction cs generalizing h with
  | nil => exact .of_extends (.refl h)
  | cons c cs ih =>
      have hfirst := through_runDefaultConstructor link hbody o c h
      rw [superclassPasses, List.forM_eq_forM, List.forM_cons, Act.outcome_bind]
      rcases hrun : Act.outcome (runDefaultConstructor link perform o c) h with ⟨e | u, g⟩
      · rw [hrun] at hfirst
        simpa using hfirst
      · rw [hrun] at hfirst
        exact hfirst.append (ih g)

theorem Request.through_passes (r : Request) (h : Heap) :
    h.Through (r.passes link perform body h) (Act.outcome (performWith link perform r) h).2 := by
  cases r with
  | invoke o name args =>
      rw [passes, performWith]
      cases o.cls.selectMethod? name args with
      | none => exact .of_extends (.refl h)
      | some selected =>
          obtain ⟨m, b⟩ := selected
          cases b with
          | linked label => exact hbody (link label o args) h
          | forward =>
              simp only [outcome_runBody_forward]
              cases TypeRef.checkForwarded m.params args with
              | error e => exact .of_extends (.refl h)
              | ok u =>
                  cases h.handler? o with
                  | none => exact .of_extends (.refl h)
                  | some handler =>
                      have hrun := hbody (handler o m.name args) h
                      simp only
                      rcases houtcome : Act.outcome ((handler o m.name args).run perform) h with
                        ⟨e | v, g⟩ <;> rwa [houtcome] at hrun
          | _ => exact .of_extends (.refl h)
  | initialise o k args =>
      have habove := through_superclassPasses link hbody o o.cls.superclassesFromRoot h
      rw [passes, performWith, Act.outcome_bind]
      rcases hrun : Act.outcome
        (o.cls.superclassesFromRoot.forM (runDefaultConstructor link perform o)) h with ⟨e | u, g⟩
      · rw [hrun] at habove
        simpa using habove
      · rw [hrun] at habove
        have hown := k.through_passes link hbody o args g
        refine habove.append ?_
        simp only [Act.outcome_bind]
        rcases hlast : Act.outcome (runConstructor link perform o k args) g with ⟨e | u, f⟩ <;>
          rwa [hlast] at hown

end Requests

/-! ## Runs -/

theorem Program.through_moments (link : Linkage) (depth : Nat) (p : Program) (h : Heap) :
    h.Through (p.moments link depth h) (Act.outcome (p.run (nested link depth)) h).2 := by
  induction depth generalizing p h with
  | zero =>
      -- at depth 0 every request fails before a body runs
      have hnone (r : Request) (h : Heap) : h.Through [] (Act.outcome (nested link 0 r) h).2 :=
        .of_extends (.refl h)
      exact p.through_passes hnone h
  | succ depth ih =>
      refine p.through_passes (fun r h => ?_) h
      rw [nested, perform_eq_performWith]
      exact r.through_passes link ih h

/-- Of any two heaps that a run passes through, the later one extends the earlier one. -/
theorem Program.pairwise_moments (link : Linkage) (depth : Nat) (p : Program) (h : Heap) :
    (p.moments link depth h).Pairwise Heap.Extends :=
  (p.through_moments link depth h).ordered

end Metaobject
