import Metaobject.Proofs.Access
import Metaobject.Proofs.Heap.Invariants
import Metaobject.Proofs.Heap.Soundness
import Metaobject.Proofs.Hierarchy

/-!
# Fields that are declared again

A field invoker uses the slot of the class that declares the field for the class it was asked of. By
name, a body uses the slot of the class that declares the field nearest to the object's own class.
Where a subclass declares the field again, these are different slots, and writing one of them leaves
the other as it is.
-/

namespace Metaobject

namespace Class

variable {c d : Class} {name : String}

/-! ## The nearest declaration -/

/-- The class that declares the field that a name means on instances. -/
def nearest? (c : Class) (name : String) : Option Class :=
  c.ancestors.find? fun d => d.fields.any fun f => f.name == name

theorem findField?_eq_some_iff {f : Field} : c.findField? name = some (d, f) ↔
    c.nearest? name = some d ∧ d.fields.find? (fun f => f.name == name) = some f := by
  unfold findField? nearest?
  induction c.ancestors with
  | nil => simp
  | cons e es ih =>
      cases hfind : e.fields.find? fun f => f.name == name with
      | none =>
          have hnone : (e.fields.any fun f => f.name == name) = false := by
            simpa using List.find?_eq_none.mp hfind
          simpa [hfind, hnone] using ih
      | some g =>
          have hg : (g.name == name) = true := List.find?_some (p := fun f : Field => f.name == name) hfind
          have hany : (e.fields.any fun f => f.name == name) = true :=
            List.any_eq_true.mpr ⟨g, List.mem_of_find?_eq_some hfind, hg⟩
          rw [List.findSome?_cons, List.find?_cons, hfind, hany]
          constructor
          · rintro ⟨⟩
            exact ⟨rfl, hfind⟩
          · rintro ⟨⟨⟩, hg⟩
            cases hfind.symm.trans hg
            rfl

theorem exists_field_of_nearest? (h : c.nearest? name = some d) :
    ∃ f, d.fields.find? (fun f => f.name == name) = some f ∧ f.name = name := by
  have hany : (d.fields.any fun f => f.name == name) = true :=
    List.find?_some (p := fun d : Class => d.fields.any fun f => f.name == name) h
  obtain ⟨f, hf⟩ := Option.isSome_iff_exists.mp (List.find?_isSome.mpr (List.any_eq_true.mp hany))
  exact ⟨f, hf, by simpa using List.find?_some hf⟩

/-- The field that is found is the first one of its name in the class that declares it. -/
theorem find?_of_findMember? {owner : Class} {cs : List Class} {m : FieldMember}
    (h : findMember? owner name cs = some m) :
    m.declaring.fields.find? (fun f => f.name == name) = some m.field := by
  induction cs with
  | nil => simp [findMember?] at h
  | cons c cs ih =>
      rw [findMember?] at h
      cases hfind : c.fields.findFinIdx? fun f => f.name == name with
      | none =>
          rw [hfind] at h
          exact ih h
      | some i =>
          rw [hfind] at h
          cases h
          obtain ⟨hi, hfirst⟩ := List.findFinIdx?_eq_some_iff.mp hfind
          refine List.find?_eq_some_iff_getElem.mpr ⟨hi, i, i.isLt, rfl, fun j hj => ?_⟩
          simpa using hfirst ⟨j, by omega⟩ hj

theorem find?_of_resolveField {owner : Class} {m : FieldMember}
    (h : Attempt.outcome (owner.resolveField name) = .ok m) :
    m.declaring.fields.find? (fun f => f.name == name) = some m.field := by
  unfold resolveField at h
  cases hfind : findMember? owner name owner.belowRoot with
  | none => simp [hfind] at h
  | some n =>
      rw [hfind, Attempt.outcome_report_bind, Attempt.outcome_pure] at h
      cases h
      exact find?_of_findMember? hfind

/-- A class that declares fields is inherited from along the superclass chain only. -/
theorem Built.mem_ancestors_of_field (h : c.Built) (hd : c.Reaches d) {f : Field}
    (hf : f ∈ d.fields) : d ∈ c.ancestors := by
  refine h.mem_ancestors_of_reaches hd ?_
  cases hkind : d.kind with
  | ordinary => rfl
  | interface =>
      rw [((h.of_reaches hd).rooted.interface hkind).2.2] at hf
      cases hf

end Class

/-! ## Access by name -/

theorem ObjectRef.fieldSlot?_eq (o : ObjectRef) (name : String) :
    o.fieldSlot? name = (o.cls.nearest? name).map fun d => ⟨d.name, name⟩ := by
  rw [fieldSlot?]
  cases hnearest : o.cls.nearest? name with
  | none =>
      cases hfind : o.cls.findField? name with
      | none => rfl
      | some found =>
          cases hnearest.symm.trans (Class.findField?_eq_some_iff.mp hfind).1
  | some d =>
      obtain ⟨f, hf, rfl⟩ := Class.exists_field_of_nearest? hnearest
      rw [Class.findField?_eq_some_iff.mpr ⟨hnearest, hf⟩]
      rfl

namespace Heap

variable {h g : Heap} {o : ObjectRef} {s : Slot} {v : Value}

theorem setField_of_nearest? {name : String} {d : Class} {f : Field}
    (hd : o.cls.nearest? name = some d)
    (hf : d.fields.find? (fun f => f.name == name) = some f) :
    h.setField o name v = if f.type.accepts v then
        .ok ((h.writeSlot o ⟨d.name, name⟩ v).getD h)
      else .error (.illegalArgument
        s!"无法将 {v.typeName} 赋给字段 {(Slot.mk d.name name).text} ({f.type.text})") := by
  obtain rfl : f.name = name := by simpa using List.find?_some hf
  rw [setField, Class.findField?_eq_some_iff.mpr ⟨hd, hf⟩]

/-! ## Writing one slot -/

/-- The second heap is the first one with the value in the slot of the object. -/
structure Replaces (h : Heap) (o : ObjectRef) (s : Slot) (v : Value) (g : Heap) : Prop where
  written : g.readSlot o s = some v
  slots : ∀ r, r ≠ s → g.readSlot o r = h.readSlot o r
  object : ∀ x, h.object? o = some x → ∃ y, g.object? o = some y ∧ y.cls = x.cls ∧
    y.handler = x.handler ∧ y.fields.map Prod.fst = x.fields.map Prod.fst
  others : ∀ p : ObjectRef, p.address ≠ o.address → g.object? p = h.object? p
  recorded : g.recorded = h.recorded

theorem replaces_of_writeSlot (hwrite : h.writeSlot o s v = some g) : h.Replaces o s v g := by
  obtain ⟨hslot, rfl⟩ := writeSlot_eq_some_iff.mp hwrite
  have hread (r : Slot) : (h.update o fun x => { x with fields := x.fields.replace s v }).readSlot o r =
      if r = s then (h.readSlot o r).map fun _ => v else h.readSlot o r := by
    rw [readSlot, readSlot, object?_update, if_pos rfl]
    cases h.object? o with
    | none => simp
    | some x => exact Fields.get?_replace x.fields s r v
  refine ⟨?_, fun r hr => ?_, fun x hx => ?_, fun p hp => ?_, rfl⟩
  · rw [hread, if_pos rfl]
    obtain ⟨w, hw⟩ := Option.isSome_iff_exists.mp hslot
    rw [hw]
    rfl
  · rw [hread, if_neg hr]
  · refine ⟨{ x with fields := x.fields.replace s v }, ?_, rfl, rfl, Fields.map_fst_replace _ _ _⟩
    rw [object?_update, if_pos rfl, hx]
    rfl
  · rw [object?_update, if_neg (Ne.symm hp)]

theorem exists_replaces (hslot : (h.readSlot o s).isSome = true) (v : Value) :
    ∃ g, h.writeSlot o s v = some g ∧ h.Replaces o s v g := by
  obtain ⟨g, hwrite⟩ : ∃ g, h.writeSlot o s v = some g := ⟨_, writeSlot_eq_some_iff.mpr ⟨hslot, rfl⟩⟩
  exact ⟨g, hwrite, replaces_of_writeSlot hwrite⟩

end Heap

/-! ## The invokers and the names -/

namespace FieldInvoker

variable (link : Linkage) (depth : Nat)

/-- On the object, the invoker reads and writes the slot, whose field has the type. -/
structure Uses (i : FieldInvoker) (o : ObjectRef) (s : Slot) (type : TypeRef) : Prop where
  get : ∀ {h v}, h.readSlot o s = some v →
    HeapAttempt.outcome (i.get link depth o) h = (.ok v, h)
  set : ∀ {h v g}, type.accepts v = true → h.writeSlot o s v = some g →
    HeapAttempt.outcome (i.set link depth o v) h = (.ok (), g)
  refused : ∀ h {v}, type.accepts v = false → HeapAttempt.outcome (i.set link depth o v) h =
    (.error (.argumentTypeMismatch 1 type.text v.typeName), h)

/-- On the object, the invoker does what access by name does. -/
def SharesSlot (i : FieldInvoker) (name : String) (o : ObjectRef) (h : Heap) : Prop :=
  (∀ v, h.getField o name = some v ↔ HeapAttempt.outcome (i.get link depth o) h = (.ok v, h)) ∧
    ∀ v g, h.setField o name v = .ok g ↔
      HeapAttempt.outcome (i.set link depth o v) h = (.ok (), g)

/-- What one of the two writes to the object, the other does not see. -/
def KeepsApart (i : FieldInvoker) (name : String) (o : ObjectRef) (h : Heap) : Prop :=
  (∀ v g, HeapAttempt.outcome (i.set link depth o v) h = (.ok (), g) →
    g.getField o name = h.getField o name) ∧
    ∀ v g, h.setField o name v = .ok g →
      (HeapAttempt.outcome (i.get link depth o) g).1 = (HeapAttempt.outcome (i.get link depth o) h).1

namespace Uses

variable {link depth} {i : FieldInvoker} {o : ObjectRef} {d : Class} {f : Field} {name : String}
  {h : Heap} {s : Slot} {type : TypeRef} {w : Value}

theorem sharesSlot (hi : i.Uses link depth o ⟨d.name, name⟩ f.type)
    (hread : h.readSlot o ⟨d.name, name⟩ = some w) (hd : o.cls.nearest? name = some d)
    (hf : d.fields.find? (fun f => f.name == name) = some f) :
    i.SharesSlot link depth name o h := by
  have hnamed : h.getField o name = some w := by
    rw [Heap.getField, o.fieldSlot?_eq, hd]
    exact hread
  refine ⟨fun v => ?_, fun v g => ?_⟩
  · rw [hnamed, hi.get hread]
    simp
  · rw [Heap.setField_of_nearest? hd hf]
    by_cases haccepts : f.type.accepts v = true
    · obtain ⟨e, hwrite, -⟩ := Heap.exists_replaces (Option.isSome_of_eq_some hread) v
      rw [if_pos haccepts, hi.set haccepts hwrite, hwrite]
      simp
    · rw [if_neg haccepts, hi.refused h (by simpa using haccepts)]
      simp

theorem keepsApart (hi : i.Uses link depth o s type) (hread : h.readSlot o s = some w)
    (hd : o.cls.nearest? name = some d) (hne : (⟨d.name, name⟩ : Slot) ≠ s) :
    i.KeepsApart link depth name o h := by
  refine ⟨fun v g hset => ?_, fun v g hset => ?_⟩
  · by_cases haccepts : type.accepts v = true
    · obtain ⟨e, hwrite, hreplaces⟩ := Heap.exists_replaces (Option.isSome_of_eq_some hread) v
      obtain rfl : e = g := by simpa [hi.set haccepts hwrite] using hset
      rw [Heap.getField, Heap.getField, o.fieldSlot?_eq, hd]
      exact hreplaces.slots _ hne
    · simp [hi.refused h (by simpa using haccepts)] at hset
  · obtain ⟨f, hf, -⟩ := Class.exists_field_of_nearest? hd
    rw [Heap.setField_of_nearest? hd hf] at hset
    split at hset
    · obtain rfl := Except.ok.inj hset
      have hkept : ((h.writeSlot o ⟨d.name, name⟩ v).getD h).readSlot o s = some w := by
        cases hwrite : h.writeSlot o ⟨d.name, name⟩ v with
        | none => exact hread
        | some g => exact ((Heap.replaces_of_writeSlot hwrite).slots s hne.symm).trans hread
      rw [hi.get hkept, hi.get hread]
    · cases hset

end Uses

end FieldInvoker

namespace FieldMember

variable {m : FieldMember} {s : Strategy} {i : FieldInvoker} {o : ObjectRef} {h : Heap}

theorem uses_of_instance (hs : s = .reflective ∨ ∃ enabled, s = .typedHandle enabled)
    (hi : s.field m = .ok i)
    (hfind : m.owner.belowRoot.find? (fun c => c.fields.any fun f => f.name == m.name) =
      some m.declaring) (link : Linkage) (depth : Nat)
    (hinstance : o.isInstanceOf m.declaring.name = true) :
    i.Uses link depth o m.slot m.field.type := by
  have hagree (h : Heap) := agree_handle hs hi hfind link depth o h trivial
  have hhandle (h : Heap) := FieldInvoker.outcome_handle_of_instance link depth m.slot m.field.type h
    hinstance
  constructor
  · intro h v hread
    rw [(hagree h).1, (hhandle h).1, hread]
  · intro h v g haccepts hwrite
    rw [(hagree h).2, (hhandle h).2.1 v haccepts, hwrite]
  · intro h v hrefused
    rw [(hagree h).2, (hhandle h).2.2 v hrefused]

theorem refuses_of_not_instance (hs : s = .reflective ∨ ∃ enabled, s = .typedHandle enabled)
    (hi : s.field m = .ok i)
    (hfind : m.owner.belowRoot.find? (fun c => c.fields.any fun f => f.name == m.name) =
      some m.declaring) (link : Linkage) (depth : Nat)
    (hrefused : o.isInstanceOf m.declaring.name = false) :
    i.Refuses link depth o h (.argumentTypeMismatch 0 m.declaring.name o.cls.name) := by
  obtain ⟨hget, hset⟩ := agree_handle hs hi hfind link depth o h trivial
  obtain ⟨hgetter, hsetter⟩ :=
    FieldInvoker.refuses_handle link depth m.slot m.field.type h hrefused
  exact ⟨hget.trans hgetter, fun v => (hset v).trans (hsetter v)⟩

/-- What the invoker for the field does on an object, and what access by the name of the field has to do
with it. -/
structure AccessesSlot (m : FieldMember) (i : FieldInvoker) (name : String) (link : Linkage)
    (depth : Nat) (o : ObjectRef) (h : Heap) : Prop where
  reads : o.cls.Reaches m.declaring → ∃ v, h.readSlot o m.slot = some v ∧
    HeapAttempt.outcome (i.get link depth o) h = (.ok v, h)
  writes : o.cls.Reaches m.declaring → ∀ {v}, m.field.type.accepts v = true →
    ∃ g, h.Replaces o m.slot v g ∧ HeapAttempt.outcome (i.set link depth o v) h = (.ok (), g) ∧
      HeapAttempt.outcome (i.get link depth o) g = (.ok v, g)
  refuses_value : o.cls.Reaches m.declaring → ∀ {v}, m.field.type.accepts v = false →
    HeapAttempt.outcome (i.set link depth o v) h =
      (.error (.argumentTypeMismatch 1 m.field.type.text v.typeName), h)
  refuses_target : ¬ o.cls.Reaches m.declaring →
    i.Refuses link depth o h (.argumentTypeMismatch 0 m.declaring.name o.cls.name)
  named_iff : o.fieldSlot? name = some m.slot ↔ o.cls.nearest? name = some m.declaring
  shares : o.cls.nearest? name = some m.declaring → i.SharesSlot link depth name o h
  apart : o.cls.Reaches m.declaring → o.cls.nearest? name ≠ some m.declaring →
    ∃ r, o.fieldSlot? name = some r ∧ r ≠ m.slot ∧ i.KeepsApart link depth name o h

/-- For a field that a class of a graph has, the invoker of the typed-handle or of the reflective
strategy uses one slot: that of the class that declares the field for the class it was asked of. On
every instance of the declaring class, reading succeeds, writing a value that the field accepts
changes nothing but this slot, and reading then gives the value; other values are refused. Other
objects are refused, and refusal changes nothing. Access by name uses the same slot exactly when no
class below the declaring one, from the object's class upwards, declares the field again; where one
does, neither access sees what the other writes. -/
theorem accesses_declaring_slot (G : ClassGraph) (hbuilt : ∀ c, G.Mem c → c.Built) {owner : Class}
    (howner : G.Mem owner) {name : String}
    (hm : Attempt.outcome (owner.resolveField name) = .ok m)
    (hs : s = .reflective ∨ ∃ enabled, s = .typedHandle enabled) (hi : s.field m = .ok i)
    (link : Linkage) (depth : Nat) (hh : h.Reached) {x : Object}
    (ho : G.Mem o.cls) (hx : h.object? o = some x) (hcls : x.cls = o.cls) :
    m.AccessesSlot i name link depth o h := by
  have hfield := Class.find?_of_resolveField hm
  obtain ⟨rfl, rfl, hfind⟩ := Class.resolveField_eq_ok hm
  have hmem : m.field ∈ m.declaring.fields := List.mem_of_find?_eq_some hfield
  have hdeclaring : G.Mem m.declaring := by
    have hbelow : m.declaring ∈ m.owner.belowRoot := List.mem_of_find?_eq_some hfind
    exact G.mem_of_mem_ancestors howner ((List.takeWhile_sublist _).subset hbelow)
  have hmember {d : Class} (hd : o.cls.nearest? m.name = some d) : d ∈ o.cls.ancestors :=
    List.mem_of_find?_eq_some hd
  -- in the graph, the class tells the slot
  have hslot {d : Class} (hd : o.cls.nearest? m.name = some d) :
      (⟨d.name, m.name⟩ : Slot) = m.slot ↔ d = m.declaring := by
    refine ⟨fun heq => ?_, fun heq => heq ▸ rfl⟩
    exact G.eq_of_name_eq (G.mem_of_mem_ancestors ho (hmember hd)) hdeclaring (Slot.mk.inj heq).1
  have huses (hreaches : o.cls.Reaches m.declaring) : i.Uses link depth o m.slot m.field.type :=
    uses_of_instance hs hi hfind link depth (Class.isSubtypeOf_iff.mpr ⟨_, hreaches, rfl⟩)
  have hread (hreaches : o.cls.Reaches m.declaring) : ∃ w, h.readSlot o m.slot = some w := by
    have hancestor := (hbuilt _ ho).mem_ancestors_of_field hreaches hmem
    have hcomplete : x.Complete := hh.complete x (List.mem_of_getElem? hx)
    obtain ⟨w, hw⟩ := Option.isSome_iff_exists.mp
      (hcomplete m.declaring (hcls ▸ hancestor) m.field hmem)
    exact ⟨w, by rw [Heap.readSlot, hx]; exact hw⟩
  refine ⟨fun hreaches => ?_, fun hreaches {v} hv => ?_, fun hreaches => (huses hreaches).refused h,
    fun hunrelated => ?_, ?_, fun hnearest => ?_, fun hreaches hnearest => ?_⟩
  · obtain ⟨w, hw⟩ := hread hreaches
    exact ⟨w, hw, (huses hreaches).get hw⟩
  · obtain ⟨w, hw⟩ := hread hreaches
    obtain ⟨g, hwrite, hreplaces⟩ := Heap.exists_replaces (Option.isSome_of_eq_some hw) v
    exact ⟨g, hreplaces, (huses hreaches).set hv hwrite, (huses hreaches).get hreplaces.written⟩
  · refine refuses_of_not_instance hs hi hfind link depth ?_
    rw [ObjectRef.isInstanceOf_eq_false_iff]
    rintro d hd hname
    obtain rfl := G.eq_of_name_eq (G.mem_of_reaches hd ho) hdeclaring hname
    exact hunrelated hd
  · rw [o.fieldSlot?_eq]
    cases hnearest : o.cls.nearest? m.name with
    | none => simp
    | some d => simpa using hslot hnearest
  · have hreaches := Class.reaches_of_mem_ancestors (hmember hnearest)
    obtain ⟨w, hw⟩ := hread hreaches
    exact (huses hreaches).sharesSlot hw hnearest hfield
  · obtain ⟨w, hw⟩ := hread hreaches
    have hancestor := (hbuilt _ ho).mem_ancestors_of_field hreaches hmem
    obtain ⟨d, hd⟩ : ∃ d, o.cls.nearest? m.name = some d := by
      refine Option.isSome_iff_exists.mp (List.find?_isSome.mpr ⟨_, hancestor, ?_⟩)
      exact List.any_eq_true.mpr ⟨m.field, hmem, by simp [name]⟩
    have hne : (⟨d.name, m.name⟩ : Slot) ≠ m.slot := by
      rw [Ne, hslot hd]
      rintro rfl
      exact hnearest hd
    refine ⟨_, ?_, hne, (huses hreaches).keepsApart hw hd hne⟩
    rw [o.fieldSlot?_eq, hd]
    rfl

end FieldMember

/-! ### A field of another type in a subclass -/

namespace Samples

theorem built_of_valueGraph (c : Class) (hc : valueGraph.Mem c) : c.Built := by
  have hsuperclass : ∀ s ∈ some (titled.described 1), s.Built := by
    have htitled : titled.build 1 = .ok (titled.described 1) := rfl
    rintro s ⟨⟩
    exact .build (by rintro s ⟨⟩) (by rintro i ⟨⟩) htitled
  have hnumbered : numbered.build 2 = .ok (numbered.described 2) := rfl
  have hproxy : titledProxy.build 3 = .ok (titledProxy.described 3) := rfl
  rcases List.mem_cons.mp hc with rfl | hc
  · exact .root
  · rcases List.mem_cons.mp hc with rfl | hc
    · exact hsuperclass _ rfl
    · rcases List.mem_pair.mp hc with rfl | rfl
      · exact .build hsuperclass (by rintro i ⟨⟩) hnumbered
      · exact .build hsuperclass (by rintro i ⟨⟩) hproxy

/-- A new instance of the subclass. -/
def numberedHeap : Heap := (Heap.empty.allocate (numbered.described 2)).2

def numberedObject : ObjectRef := ⟨0, numbered.described 2⟩

/-- The invoker for the field of the superclass writes the text into the slot of the superclass. By
name, the number of the subclass is read. -/
theorem titleField_accesses_declaring_slot :
    Attempt.outcome ((titled.described 1).resolveField "value") = .ok titleField ∧
      Strategy.reflective.field titleField = .ok (.reflective (titled.described 1) "value" .string) ∧
      ∃ g, numberedHeap.Replaces numberedObject ⟨"app.Titled", "value"⟩ (.str "new") g ∧
        HeapAttempt.outcome (FieldInvoker.set idle 5 numberedObject (.str "new")
          (.reflective (titled.described 1) "value" .string)) numberedHeap = (.ok (), g) ∧
        HeapAttempt.outcome (FieldInvoker.get idle 5 numberedObject
          (.reflective (titled.described 1) "value" .string)) g = (.ok (.str "new"), g) ∧
        g.getField numberedObject "value" = some (.int 0) ∧
        FieldInvoker.Refuses idle 5 (.reflective (titled.described 1) "value" .string) ⟨0, .root⟩
          (Heap.empty.allocate .root).2 (.argumentTypeMismatch 0 "app.Titled" "Object") := by
  have hm : Attempt.outcome ((titled.described 1).resolveField "value") = .ok titleField := rfl
  have htitled : valueGraph.Mem (titled.described 1) := .tail _ (.head _)
  have hnumbered : valueGraph.Mem (numbered.described 2) := .tail _ (.tail _ (.head _))
  have hreaches : (numbered.described 2).Reaches (titled.described 1) := .superclass rfl (.refl _)
  have hnearest : (numbered.described 2).nearest? "value" ≠ some (titled.described 1) := by
    intro hnearest
    exact absurd (congrArg (Option.map Class.id) hnearest) (by decide)
  have hobject : numberedHeap.object? numberedObject =
      some ⟨numbered.described 2, Fields.ofClass (numbered.described 2), none⟩ := rfl
  have haccess := FieldMember.accesses_declaring_slot valueGraph.toClassGraph built_of_valueGraph
    htitled hm (.inl rfl) rfl idle 5 (.allocate .empty (numbered.described 2)) hnumbered hobject rfl
  obtain ⟨g, hreplaces, hset, hget⟩ := haccess.writes hreaches (v := .str "new") rfl
  obtain ⟨-, -, -, hkeeps, -⟩ := haccess.apart hreaches hnearest
  have hmem : valueGraph.Mem .root := .head _
  have hroot : (Heap.empty.allocate .root).2.object? ⟨0, .root⟩ =
      some ⟨.root, Fields.ofClass .root, none⟩ := rfl
  have hforeign := FieldMember.accesses_declaring_slot valueGraph.toClassGraph built_of_valueGraph
    htitled hm (.inl rfl) rfl idle 5 (.allocate .empty .root) hmem hroot rfl
  refine ⟨hm, rfl, g, hreplaces, hset, hget, (hkeeps _ g hset).trans rfl,
    hforeign.refuses_target ?_⟩
  intro hunrelated
  exact ObjectRef.isInstanceOf_eq_false_iff.mp (by decide) _ hunrelated rfl

end Samples

end Metaobject
