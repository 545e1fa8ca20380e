import Metaobject.Proofs.Subtyping
import Metaobject.Proofs.Tiers

/-!
# Fields are reached by names

A typed handle and the reflective invoker for a field take an object for an instance of the declaring
class when the object's class inherits from some class of that name, and use the slot of the names of
the class and of the field. Where a name means one class, no other object is touched. Where two
classes share a name, the invokers of one reach the objects of the other.
-/

namespace Metaobject

namespace FieldInvoker

variable (link : Linkage) (depth : Nat) {declaring : Class} {o : ObjectRef}

/-- Reading and writing fail, and leave the heap as it is. -/
def Refuses (i : FieldInvoker) (o : ObjectRef) (h : Heap) (e : Failure) : Prop :=
  HeapAttempt.outcome (i.get link depth o) h = (.error e, h) ∧
    ∀ v, HeapAttempt.outcome (i.set link depth o v) h = (.error e, h)

/-- An object that is no instance of the declaring class is neither read nor written. -/
theorem refuses_handle (slot : Slot) (type : TypeRef) (h : Heap)
    (hrefused : o.isInstanceOf declaring.name = false) :
    Refuses link depth (.handle declaring slot type) o h
      (.argumentTypeMismatch 0 declaring.name o.cls.name) := by
  have hcheck : declaring.checkTarget o =
      .error (.argumentTypeMismatch 0 declaring.name o.cls.name) := by
    rw [Class.checkTarget, hrefused]
    rfl
  simp only [Refuses, get, set, hcheck]
  exact ⟨rfl, fun v => rfl⟩

/-- On any other object, the slot is read, or written with a value that the type of the field
accepts. -/
theorem outcome_handle_of_instance (slot : Slot) (type : TypeRef) (h : Heap)
    (hinstance : o.isInstanceOf declaring.name = true) :
    HeapAttempt.outcome (get link depth o (.handle declaring slot type)) h =
        (match h.readSlot o slot with
          | some v => .ok v
          | none => .error (.memberNotFound o.cls.name slot.name), h) ∧
      (∀ v, type.accepts v = true →
        HeapAttempt.outcome (set link depth o v (.handle declaring slot type)) h =
          match h.writeSlot o slot v with
          | some g => (.ok (), g)
          | none => (.error (.memberNotFound o.cls.name slot.name), h)) ∧
      ∀ v, type.accepts v = false →
        HeapAttempt.outcome (set link depth o v (.handle declaring slot type)) h =
          (.error (.argumentTypeMismatch 1 type.text v.typeName), h) := by
  have hcheck : declaring.checkTarget o = .ok () := by rw [Class.checkTarget, if_pos hinstance]
  simp only [get, set, hcheck, HeapAttempt.outcome_ofExcept_ok_bind]
  refine ⟨?_, fun v haccepts => ?_, fun v hrefused => ?_⟩
  · rw [readSlot, HeapAttempt.outcome_get_bind]
    cases h.readSlot o slot <;> rfl
  · rw [TypeRef.check, if_pos haccepts, HeapAttempt.outcome_ofExcept_ok_bind, writeSlot,
      HeapAttempt.outcome_get_bind]
    cases h.writeSlot o slot v <;> rfl
  · rw [TypeRef.check, hrefused]
    rfl

end FieldInvoker

theorem ObjectRef.isInstanceOf_eq_false_iff {o : ObjectRef} {name : String} :
    o.isInstanceOf name = false ↔ ∀ d, o.cls.Reaches d → d.name ≠ name := by
  rw [isInstanceOf, ← Bool.not_eq_true, Class.isSubtypeOf_iff]
  simp

namespace FieldMember

/-- The invokers that the typed-handle and the reflective strategy make for a field refuse exactly
the objects whose class inherits from no class of the declaring class's name, and leave them as they
are. On all others they use the slot of the names, whichever class it belongs to. So they keep to the
instances of the declaring class wherever a name means one class. -/
theorem access_by_name {owner : Class} {name : String} {m : FieldMember}
    (hm : Attempt.outcome (owner.resolveField name) = .ok m) {s : Strategy} {i : FieldInvoker}
    (hs : s = .reflective ∨ ∃ enabled, s = .typedHandle enabled) (hi : s.field m = .ok i)
    (link : Linkage) (depth : Nat) (o : ObjectRef) (h : Heap) :
    ((∀ d, o.cls.Reaches d → d.name ≠ m.declaring.name) →
      i.Refuses link depth o h (.argumentTypeMismatch 0 m.declaring.name o.cls.name)) ∧
    ((∃ d, o.cls.Reaches d ∧ d.name = m.declaring.name) →
      HeapAttempt.outcome (i.get link depth o) h =
          (match h.readSlot o ⟨m.declaring.name, name⟩ with
            | some v => .ok v
            | none => .error (.memberNotFound o.cls.name name), h) ∧
        (∀ v, m.field.type.accepts v = true →
          HeapAttempt.outcome (i.set link depth o v) h =
            match h.writeSlot o ⟨m.declaring.name, name⟩ v with
            | some g => (.ok (), g)
            | none => (.error (.memberNotFound o.cls.name name), h)) ∧
        ∀ v, m.field.type.accepts v = false →
          HeapAttempt.outcome (i.set link depth o v) h =
            (.error (.argumentTypeMismatch 1 m.field.type.text v.typeName), h)) ∧
    ∀ G : ClassGraph, G.Mem o.cls → G.Mem m.declaring → ¬ o.cls.Reaches m.declaring →
      i.Refuses link depth o h (.argumentTypeMismatch 0 m.declaring.name o.cls.name) := by
  obtain ⟨rfl, rfl, hfind⟩ := Class.resolveField_eq_ok hm
  obtain ⟨hget, hset⟩ := agree_handle hs hi hfind link depth o h trivial
  have hrefused (hnames : ∀ d, o.cls.Reaches d → d.name ≠ m.declaring.name) :
      i.Refuses link depth o h (.argumentTypeMismatch 0 m.declaring.name o.cls.name) := by
    obtain ⟨hgetter, hsetter⟩ := FieldInvoker.refuses_handle link depth m.slot m.field.type h
      (ObjectRef.isInstanceOf_eq_false_iff.mpr hnames)
    exact ⟨hget.trans hgetter, fun v => (hset v).trans (hsetter v)⟩
  refine ⟨hrefused, fun hnamed => ?_, fun G ho hdeclaring hunrelated => hrefused ?_⟩
  · obtain ⟨hgetter, haccepted, hmismatch⟩ := FieldInvoker.outcome_handle_of_instance link depth
      m.slot m.field.type h (Class.isSubtypeOf_iff.mpr hnamed)
    exact ⟨hget.trans hgetter, fun v hv => (hset v).trans (haccepted v hv),
      fun v hv => (hset v).trans (hmismatch v hv)⟩
  · rintro d hd hname
    obtain rfl := G.eq_of_name_eq (G.mem_of_reaches hd ho) hdeclaring hname
    exact hunrelated hd

end FieldMember

/-! ### Two classes of one name -/

namespace Samples

def intAged : Class :=
  { ClassSpec.named "app.Person" .ordinary with
    fields := [⟨"age", .primitive .int, .pub, false, none⟩] }.described 1

def longAged : Class :=
  { ClassSpec.named "app.Person" .ordinary with
    fields := [⟨"age", .primitive .long, .pub, false, none⟩] }.described 2

def stranger : Class := (ClassSpec.named "app.Stranger" .ordinary).described 3

def intAge : FieldMember := ⟨intAged, intAged, ⟨0, by decide⟩⟩

/-- An instance of the second class, and one of a class of another name. -/
def people : Heap :=
  ⟨[⟨longAged, [(⟨"app.Person", "age"⟩, .long 0)], none⟩, ⟨stranger, [], none⟩], []⟩

/-- Every body returns at once. -/
def idle : Linkage := fun _ _ _ => .done .null

theorem access_by_name_intAge :
    Attempt.outcome (intAged.resolveField "age") = .ok intAge ∧
      HeapAttempt.outcome
          (FieldInvoker.get idle 5 ⟨0, longAged⟩ (.reflective intAged "age" (.primitive .int)))
          people = (.ok (.long 0), people) ∧
      HeapAttempt.outcome
          (FieldInvoker.get idle 5 ⟨1, stranger⟩ (.reflective intAged "age" (.primitive .int)))
          people = (.error (.argumentTypeMismatch 0 "app.Person" "app.Stranger"), people) := by
  have hm : Attempt.outcome (intAged.resolveField "age") = .ok intAge := rfl
  obtain ⟨-, hlong, -⟩ := FieldMember.access_by_name hm (.inl rfl) rfl idle 5 ⟨0, longAged⟩ people
  obtain ⟨hstranger, -, -⟩ :=
    FieldMember.access_by_name hm (.inl rfl) rfl idle 5 ⟨1, stranger⟩ people
  refine ⟨hm, (hlong ⟨longAged, .refl _, rfl⟩).1, (hstranger ?_).1⟩
  exact ObjectRef.isInstanceOf_eq_false_iff.mp (by decide)

/-- Neither class is on the superclass chain of the other, and yet the invokers for the first one's
field read the instance of the second one and put into its field what the field does not accept. -/
theorem intAge_reaches_longAged :
    intAged.name = longAged.name ∧ intAged ∉ longAged.ancestors ∧ longAged ∉ intAged.ancestors ∧
      ∀ s ∈ [Strategy.typedHandle true, .reflective], ∃ i, s.field intAge = .ok i ∧
        ∀ link depth,
          HeapAttempt.outcome (i.get link depth ⟨0, longAged⟩) people = (.ok (.long 0), people) ∧
          ∃ g, HeapAttempt.outcome (i.set link depth ⟨0, longAged⟩ (.int 5)) people = (.ok (), g) ∧
            g.readSlot ⟨0, longAged⟩ ⟨"app.Person", "age"⟩ = some (.int 5) ∧
            (TypeRef.primitive .long).accepts (.int 5) = false := by
  refine ⟨rfl, ?_, ?_, ?_⟩
  -- classes of one name are told apart by their identities
  · intro hmem
    exact absurd (List.mem_map_of_mem (f := Class.id) hmem) (by decide)
  · intro hmem
    exact absurd (List.mem_map_of_mem (f := Class.id) hmem) (by decide)
  · intro s hs
    rcases List.mem_pair.mp hs with rfl | rfl
    · exact ⟨_, rfl, fun link depth => ⟨rfl, _, rfl, rfl, rfl⟩⟩
    · exact ⟨_, rfl, fun link depth => ⟨rfl, _, rfl, rfl, rfl⟩⟩

end Samples

end Metaobject
