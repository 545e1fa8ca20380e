import Metaobject.Proofs.Heap.Slots

/-!
# Typed heaps

In a graph of classes, an object is typed when it has the slots of its class, each with a value that
the type of its field accepts, and when neither its values nor its handler lead out of the graph. A
program stays within the graph when it uses only classes of the graph and writes a slot directly only
as a field invoker does: to a declared field, with a value that the type of the field accepts. Each
of the operations that such a program is made of keeps all objects typed.
-/

namespace Metaobject

namespace FieldGraph

/-- The value, if it is an object, is an instance of a class of the graph. -/
def Has (G : FieldGraph) (v : Value) : Prop := ∀ o, v = .object o → G.Mem o.cls

theorem has_of_object?_eq_none (G : FieldGraph) {v : Value} (h : v.object? = none) : G.Has v := by
  rintro o rfl
  cases h

theorem has_defaultValue (G : FieldGraph) (t : TypeRef) : G.Has t.defaultValue := by
  refine G.has_of_object?_eq_none ?_
  cases t with
  | primitive p => cases p <;> rfl
  | _ => rfl

theorem has_getD (G : FieldGraph) {args : List Value} (h : ∀ v ∈ args, G.Has v) (i : Nat) :
    G.Has (args.getD i .null) := by
  rw [List.getD_eq_getElem?_getD]
  cases hv : args[i]? with
  | none => exact G.has_of_object?_eq_none rfl
  | some v => exact h v (List.mem_of_getElem? hv)

/-- The value may stand in the slot. -/
def Admits (G : FieldGraph) (e : Slot × Value) : Prop :=
  G.Has e.2 ∧
    ∀ d, G.Mem d → ∀ f ∈ d.fields, e.1 = ⟨d.name, f.name⟩ → f.type.accepts e.2 = true

theorem admits_of_accepts (G : FieldGraph) {d : Class} (hd : G.Mem d) {f : Field}
    (hf : f ∈ d.fields) {v : Value} (hv : G.Has v) (haccepts : f.type.accepts v = true) :
    G.Admits (⟨d.name, f.name⟩, v) := by
  refine ⟨hv, fun e he g hg hslot => ?_⟩
  have htype : f.type = g.type := G.type_eq hd he hf hg hslot
  exact htype ▸ haccepts

end FieldGraph

/-! ## Programs within a graph -/

/-- The program uses only classes of the graph, whatever answers of the graph it gets, and writes
slots as field invokers do. -/
inductive Program.Within (G : FieldGraph) : Program → Prop
  | done {v : Value} : G.Has v → Within G (.done v)
  | raise (e : Exception) : Within G (.raise e)
  | record {text : String} {next : Program} : Within G next → Within G (.record text next)
  | getField {o : ObjectRef} {name : String} {next : Option Value → Program} :
      G.Mem o.cls → (∀ answer, (∀ v, answer = some v → G.Has v) → Within G (next answer)) →
        Within G (.getField o name next)
  | setField {o : ObjectRef} {name : String} {v : Value} {next : Except Exception Unit → Program} :
      G.Mem o.cls → G.Has v → (∀ answer, Within G (next answer)) →
        Within G (.setField o name v next)
  | readSlot {o : ObjectRef} {owner name : String} {next : Option Value → Program} :
      (∀ answer, (∀ v, answer = some v → G.Has v) → Within G (next answer)) →
        Within G (.readSlot o owner name next)
  | writeSlot {o : ObjectRef} {d : Class} {f : Field} {v : Value} {next : Bool → Program} :
      G.Mem d → f ∈ d.fields → f.type.accepts v = true → G.Has v →
        (∀ answer, Within G (next answer)) → Within G (.writeSlot o d.name f.name v next)
  | bindHandler {o : ObjectRef} {handler : Handler} {next : Bool → Program} :
      (∀ this name args, G.Mem this.cls → (∀ v ∈ args, G.Has v) →
        Within G (handler this name args)) →
        (∀ answer, Within G (next answer)) → Within G (.bindHandler o handler next)
  | allocate {c : Class} {next : ObjectRef → Program} :
      G.Mem c → (∀ o, o.cls = c → Within G (next o)) → Within G (.allocate c next)
  | initialise {o : ObjectRef} {c : Class} {k : Constructor} {args : List Value}
      {next : Except Exception Unit → Program} :
      G.Mem o.cls → G.Mem c → k ∈ c.constructors → (∀ v ∈ args, G.Has v) →
        (∀ answer, Within G (next answer)) → Within G (.initialise o k args next)
  | invoke {o : ObjectRef} {method : String} {args : List Value}
      {next : Except Exception Value → Program} :
      G.Mem o.cls → (∀ v ∈ args, G.Has v) →
        (∀ answer, (∀ v, answer = .ok v → G.Has v) → Within G (next answer)) →
          Within G (.invoke o method args next)

def Handler.Within (G : FieldGraph) (handler : Handler) : Prop :=
  ∀ this name args, G.Mem this.cls → (∀ v ∈ args, G.Has v) → (handler this name args).Within G

/-! ## Typed objects -/

structure Object.Typed (G : FieldGraph) (x : Object) : Prop where
  mem : G.Mem x.cls
  slots : x.fields.map Prod.fst = x.cls.declaredSlots
  admits : ∀ e ∈ x.fields, G.Admits e
  handler : ∀ handler, x.handler = some handler → handler.Within G

def Heap.Typed (G : FieldGraph) (h : Heap) : Prop := ∀ x ∈ h.objects, x.Typed G

namespace Fields

theorem map_fst_replace (fs : Fields) (s : Slot) (v : Value) :
    (fs.replace s v).map Prod.fst = fs.map Prod.fst := by
  rw [replace, List.map_map]
  refine List.map_congr_left fun e _ => ?_
  by_cases hs : e.1 = s <;> simp [hs]

theorem mem_replace {fs : Fields} {s : Slot} {v : Value} {e : Slot × Value}
    (h : e ∈ fs.replace s v) : e ∈ fs ∨ e = (s, v) := by
  obtain ⟨old, hold, rfl⟩ := List.mem_map.mp h
  split
  · exact .inr rfl
  · exact .inl hold

theorem mem_of_get? {fs : Fields} {s : Slot} {v : Value} (h : fs.get? s = some v) :
    (s, v) ∈ fs := by
  obtain ⟨before, after, rfl, -⟩ := List.lookup_eq_some_iff.mp h
  simp

end Fields

namespace Object

variable {G : FieldGraph}

theorem typed_new {c : Class} (hc : G.Mem c) : Typed G ⟨c, Fields.ofClass c, none⟩ := by
  have hfields : Fields.ofClass c = Fields.defaults c :=
    Fields.ofClass_eq (G.nodup_declaredSlots hc)
  refine ⟨hc, ?_, ?_, nofun⟩
  · rw [hfields]
    exact Fields.map_fst_defaults c
  · intro e he
    rw [hfields] at he
    obtain ⟨d, hd, hentry⟩ := List.mem_flatMap.mp he
    obtain ⟨f, hf, rfl⟩ := List.mem_map.mp hentry
    have hdmem : G.Mem d := G.mem_of_mem_ancestors hc hd
    exact G.admits_of_accepts hdmem hf (G.has_defaultValue f.type)
      (TypeRef.accepts_defaultValue (G.not_void hdmem f hf))

theorem Typed.replace {x : Object} (hx : x.Typed G) {s : Slot} {v : Value}
    (hadmits : G.Admits (s, v)) : Typed G { x with fields := x.fields.replace s v } := by
  refine ⟨hx.mem, ?_, fun e he => ?_, hx.handler⟩
  · rw [Fields.map_fst_replace]
    exact hx.slots
  · rcases Fields.mem_replace he with hold | rfl
    · exact hx.admits e hold
    · exact hadmits

theorem Typed.bind {x : Object} (hx : x.Typed G) {handler : Handler} (hhandler : handler.Within G) :
    Typed G { x with handler := some handler } := by
  refine ⟨hx.mem, hx.slots, hx.admits, fun bound hbound => ?_⟩
  obtain rfl := Option.some.inj hbound
  exact hhandler

end Object

/-! ## Operations on typed heaps -/

namespace Heap

variable {G : FieldGraph} {h : Heap}

theorem typed_empty (G : FieldGraph) : Heap.empty.Typed G := by
  simp [Typed, empty]

theorem Typed.object (hh : h.Typed G) {o : ObjectRef} {x : Object} (hx : h.object? o = some x) :
    x.Typed G :=
  hh x (List.mem_of_getElem? hx)

theorem Typed.allocate (hh : h.Typed G) {c : Class} (hc : G.Mem c) : (h.allocate c).2.Typed G := by
  intro x hx
  rcases List.mem_append.mp hx with hold | hnew
  · exact hh x hold
  · obtain rfl := List.mem_singleton.mp hnew
    exact Object.typed_new hc

theorem Typed.record (hh : h.Typed G) (text : String) : (h.record text).Typed G := hh

/-- What holds of all objects still holds of all when one is changed to keep it. -/
theorem forall_mem_update {P : Object → Prop} (hh : ∀ x ∈ h.objects, P x) {o : ObjectRef}
    {f : Object → Object} (hf : ∀ x, P x → P (f x)) : ∀ x ∈ (h.update o f).objects, P x := by
  intro x hx
  obtain ⟨i, hi⟩ := List.getElem?_of_mem hx
  rw [Heap.update, List.getElem?_modify] at hi
  obtain ⟨y, hy, rfl⟩ := Option.map_eq_some_iff.mp hi
  have hold : P y := hh y (List.mem_of_getElem? hy)
  split
  · exact hf y hold
  · exact hold

theorem Typed.has_of_readSlot (hh : h.Typed G) {o : ObjectRef} {s : Slot} {v : Value}
    (hv : h.readSlot o s = some v) : G.Has v := by
  obtain ⟨x, hx, hget⟩ := Option.bind_eq_some_iff.mp hv
  exact ((hh.object hx).admits _ (Fields.mem_of_get? hget)).1

theorem Typed.has_of_getField (hh : h.Typed G) {o : ObjectRef} {name : String} {v : Value}
    (hv : h.getField o name = some v) : G.Has v := by
  obtain ⟨s, -, hread⟩ := Option.bind_eq_some_iff.mp hv
  exact hh.has_of_readSlot hread

theorem Typed.writeSlot (hh : h.Typed G) {o : ObjectRef} {s : Slot} {v : Value}
    (hadmits : G.Admits (s, v)) {h' : Heap} (hwrite : h.writeSlot o s v = some h') :
    h'.Typed G := by
  rw [Heap.writeSlot] at hwrite
  split at hwrite
  · obtain rfl := Option.some.inj hwrite
    exact forall_mem_update hh fun x hx => hx.replace hadmits
  · cases hwrite

theorem Typed.setField (hh : h.Typed G) {o : ObjectRef} (ho : G.Mem o.cls) {name : String}
    {v : Value} (hv : G.Has v) {h' : Heap} (hset : h.setField o name v = .ok h') : h'.Typed G := by
  unfold Heap.setField at hset
  split at hset
  · cases hset
  · rename_i d f hfind
    obtain ⟨hd, hf, -⟩ := Class.findField?_eq_some hfind
    simp only at hset
    split at hset
    · rename_i haccepts
      obtain rfl := Except.ok.inj hset
      have hadmits := G.admits_of_accepts (G.mem_of_mem_ancestors ho hd) hf hv haccepts
      cases hwrite : h.writeSlot o ⟨d.name, f.name⟩ v with
      | none => exact hh
      | some h' => exact hh.writeSlot hadmits hwrite
    · cases hset

theorem Typed.handler (hh : h.Typed G) {o : ObjectRef} {handler : Handler}
    (hbound : h.handler? o = some handler) : handler.Within G := by
  obtain ⟨x, hx, hhandler⟩ := Option.bind_eq_some_iff.mp hbound
  exact (hh.object hx).handler handler hhandler

theorem Typed.bindHandler (hh : h.Typed G) {o : ObjectRef} {handler : Handler}
    (hhandler : handler.Within G) {h' : Heap} (hbind : h.bindHandler o handler = .ok h') :
    h'.Typed G := by
  unfold Heap.bindHandler at hbind
  split at hbind
  · cases hbind
  · obtain rfl := Except.ok.inj hbind
    exact forall_mem_update hh fun x hx => hx.bind hhandler

/-! ## What typed heaps promise -/

/-- Every object has exactly the slots that its class declares, each once and with a value that the
type of its field accepts, and finds each of its fields by name. -/
structure TypeSound (h : Heap) : Prop where
  slots : ∀ x ∈ h.objects, x.fields.map Prod.fst = x.cls.declaredSlots ∧ x.cls.declaredSlots.Nodup
  accepted : ∀ o x, h.object? o = some x → ∀ d ∈ x.cls.ancestors, ∀ f ∈ d.fields,
    ∃ v, h.readSlot o ⟨d.name, f.name⟩ = some v ∧ f.type.accepts v = true
  found : ∀ o x, h.object? o = some x → o.cls = x.cls → ∀ d ∈ x.cls.ancestors, ∀ f ∈ d.fields,
    (h.getField o f.name).isSome = true

theorem Typed.exists_accepted (hh : h.Typed G) {o : ObjectRef} {x : Object}
    (hx : h.object? o = some x) {d : Class} (hd : d ∈ x.cls.ancestors) {f : Field}
    (hf : f ∈ d.fields) :
    ∃ v, h.readSlot o ⟨d.name, f.name⟩ = some v ∧ f.type.accepts v = true := by
  have htyped : x.Typed G := hh.object hx
  have hslot : (⟨d.name, f.name⟩ : Slot) ∈ x.fields.map Prod.fst :=
    htyped.slots ▸ mem_declaredSlots_iff.mpr ⟨d, hd, f, hf, rfl⟩
  obtain ⟨v, hv⟩ := Option.ne_none_iff_exists'.mp fun hnone =>
    Fields.get?_eq_none_iff.mp hnone hslot
  have hadmits := htyped.admits _ (Fields.mem_of_get? hv)
  refine ⟨v, ?_, hadmits.2 d (G.mem_of_mem_ancestors htyped.mem hd) f hf rfl⟩
  rw [readSlot, hx]
  exact hv

theorem Typed.typeSound (hh : h.Typed G) : h.TypeSound where
  slots x hx := ⟨(hh x hx).slots, G.nodup_declaredSlots (hh x hx).mem⟩
  accepted _ _ hx _ hd _ hf := hh.exists_accepted hx hd hf
  found o x hx hcls d hd f hf := by
    obtain ⟨e, g, hfind⟩ := Class.exists_findField?_eq_some hd hf
    obtain ⟨he, hg, -⟩ := Class.findField?_eq_some hfind
    obtain ⟨v, hv, -⟩ := hh.exists_accepted hx he hg
    rw [getField, ObjectRef.fieldSlot?, hcls, hfind]
    exact Option.isSome_of_eq_some hv

end Heap

end Metaobject
