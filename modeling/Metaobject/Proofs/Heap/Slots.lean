import Mathlib.Data.List.Nodup
import Metaobject.Heap.Basic
import Metaobject.Proofs.Building
import Metaobject.Proofs.Subtyping

/-!
# The slots of instances

In a graph of built classes, the classes of a superclass chain have different names, and so have the
fields of one class. An instance gets exactly one slot for each field that a class of its chain
declares, the default value of a field has the type of the field, and the slot that a name means is
one of these slots.
-/

namespace Metaobject

namespace Class

/-- The slots of instances: one for each field that a class of the superclass chain declares. -/
def declaredSlots (c : Class) : List Slot :=
  c.ancestors.flatMap fun d => d.fields.map fun f => ⟨d.name, f.name⟩

/-! ## The superclass chain -/

theorem ancestors_mk_none (decl : Declaration) (interfaces : List Class) :
    (Class.mk decl none interfaces).ancestors = [.mk decl none interfaces] := by
  rw [ancestors]

theorem mem_ancestors_mk_iff {decl : Declaration} {superclass : Option Class}
    {interfaces : List Class} {d : Class} :
    d ∈ (Class.mk decl superclass interfaces).ancestors ↔
      d = .mk decl superclass interfaces ∨ ∃ s ∈ superclass, d ∈ s.ancestors := by
  cases superclass with
  | none => simp [ancestors_mk_none]
  | some s => simp [ancestors_mk_some]

theorem reaches_of_mem_ancestors {c d : Class} (h : d ∈ c.ancestors) : c.Reaches d := by
  induction c using Class.induction with
  | mk decl superclass interfaces hsuperclass _ =>
      rcases mem_ancestors_mk_iff.mp h with rfl | ⟨s, hs, hd⟩
      · exact .refl _
      · exact .superclass hs (hsuperclass s hs hd)

theorem length_ancestors_le {c d : Class} (h : d ∈ c.ancestors) :
    d.ancestors.length ≤ c.ancestors.length := by
  induction c using Class.induction with
  | mk decl superclass interfaces hsuperclass _ =>
      rcases mem_ancestors_mk_iff.mp h with rfl | ⟨s, hs, hd⟩
      · exact Nat.le_refl _
      · have hle := hsuperclass s hs hd
        obtain rfl := Option.mem_def.mp hs
        rw [ancestors_mk_some, List.length_cons]
        omega

theorem not_mem_ancestors_of_superclass {c s : Class} (h : c.superclass = some s) :
    c ∉ s.ancestors := by
  intro hmem
  have hle := length_ancestors_le hmem
  rw [ancestors_of_superclass h, List.length_cons] at hle
  omega

end Class

namespace ClassGraph

variable (G : ClassGraph)

theorem mem_of_mem_ancestors {c d : Class} (hc : G.Mem c) (h : d ∈ c.ancestors) : G.Mem d :=
  G.mem_of_reaches (Class.reaches_of_mem_ancestors h) hc

theorem nodup_ancestor_names {c : Class} (hc : G.Mem c) : (c.ancestors.map Class.name).Nodup := by
  induction c using Class.induction with
  | mk decl superclass interfaces hsuperclass _ =>
      cases superclass with
      | none => simp [Class.ancestors_mk_none]
      | some s =>
          have hs : G.Mem s := G.superclass_mem hc rfl
          rw [Class.ancestors_mk_some, List.map_cons, List.nodup_cons]
          refine ⟨fun hname => ?_, hsuperclass s rfl hs⟩
          -- a superclass of the same name would be the class itself
          obtain ⟨d, hd, hdname⟩ := List.mem_map.mp hname
          have hdmem : G.Mem d := G.mem_of_mem_ancestors hs hd
          obtain rfl : d = .mk decl (some s) interfaces := G.eq_of_name_eq hdmem hc hdname
          exact Class.not_mem_ancestors_of_superclass rfl hd

end ClassGraph

/-! ## Classes with distinct fields -/

namespace Class

theorem nodup_field_names {c : Class}
    (h : c = root ∨ ∃ (spec : ClassSpec) (id : Nat), spec.build id = .ok c) :
    (c.fields.map Field.name).Nodup := by
  rcases h with rfl | ⟨spec, id, hbuild⟩
  · exact .nil
  · obtain ⟨-, -, -, hmembers, rfl⟩ := ClassSpec.build_eq_ok_iff.mp hbuild
    exact (ClassSpec.checkMembers_eq_ok_iff.mp hmembers).2

end Class

/-- A graph of classes as they are built, where no field is declared void. -/
structure FieldGraph extends ClassGraph where
  built : ∀ {c : Class}, Mem c → c = Class.root ∨ ∃ spec id, ClassSpec.build spec id = .ok c
  not_void : ∀ {c : Class}, Mem c → ∀ f ∈ c.fields, f.type ≠ .void

namespace FieldGraph

variable (G : FieldGraph)

theorem nodup_field_names {c : Class} (hc : G.Mem c) : (c.fields.map Field.name).Nodup :=
  Class.nodup_field_names (G.built hc)

theorem nodup_declaredSlots {c : Class} (hc : G.Mem c) : c.declaredSlots.Nodup := by
  refine List.nodup_flatMap.mpr ⟨fun d hd => ?_, ?_⟩
  · have hnames := G.nodup_field_names (G.mem_of_mem_ancestors hc hd)
    have hslots : ((d.fields.map Field.name).map (Slot.mk d.name)).Nodup :=
      hnames.map fun _ _ h => (Slot.mk.inj h).2
    simpa [List.map_map, Function.comp_def] using hslots
  · refine (List.pairwise_map.mp (G.nodup_ancestor_names hc)).imp fun {d e} hne => ?_
    intro slot hd he
    obtain ⟨f, -, rfl⟩ := List.mem_map.mp hd
    obtain ⟨g, -, hslot⟩ := List.mem_map.mp he
    exact hne (Slot.mk.inj hslot).1.symm

/-- A slot tells its field, and so the type of the field. -/
theorem type_eq {c d : Class} (hc : G.Mem c) (hd : G.Mem d) {f g : Field} (hf : f ∈ c.fields)
    (hg : g ∈ d.fields) (h : (⟨c.name, f.name⟩ : Slot) = ⟨d.name, g.name⟩) : f.type = g.type := by
  obtain ⟨howner, hname⟩ := Slot.mk.inj h
  obtain rfl := G.eq_of_name_eq hc hd howner
  rw [List.inj_on_of_nodup_map (G.nodup_field_names hc) hf hg hname]

end FieldGraph

theorem mem_declaredSlots_iff {c : Class} {s : Slot} :
    s ∈ c.declaredSlots ↔ ∃ d ∈ c.ancestors, ∃ f ∈ d.fields, s = ⟨d.name, f.name⟩ := by
  simp only [Class.declaredSlots, List.mem_flatMap, List.mem_map, eq_comm]

/-! ## New instances -/

theorem TypeRef.accepts_defaultValue {t : TypeRef} (h : t ≠ .void) :
    t.accepts t.defaultValue = true := by
  cases t with
  | void => exact absurd rfl h
  | primitive p => cases p <;> rfl
  | boxed p => rfl
  | string => rfl
  | named name => simp [accepts, defaultValue]

namespace Fields

/-- The fields that the classes of the superclass chain declare, with their default values. -/
def defaults (c : Class) : Fields :=
  c.ancestors.flatMap fun d => d.fields.map fun f => (⟨d.name, f.name⟩, f.type.defaultValue)

theorem map_fst_defaults (c : Class) : (defaults c).map Prod.fst = c.declaredSlots := by
  simp [defaults, Class.declaredSlots, List.map_flatMap, Function.comp_def]

theorem get?_eq_none_iff {fs : Fields} {s : Slot} : fs.get? s = none ↔ s ∉ fs.map Prod.fst := by
  simp only [get?, List.lookup_eq_none_iff, List.mem_map, not_exists, not_and, bne_iff_ne]
  exact ⟨fun h e he hs => h e he hs.symm, fun h e he hs => h e he hs.symm⟩

theorem insert_of_not_mem {fs : Fields} {s : Slot} (h : s ∉ fs.map Prod.fst) (v : Value) :
    fs.insert s v = fs ++ [(s, v)] := by
  rw [insert, get?_eq_none_iff.mpr h]
  rfl

theorem foldl_insert {fs es : Fields} (h : ((fs ++ es).map Prod.fst).Nodup) :
    es.foldl (fun fs e => fs.insert e.1 e.2) fs = fs ++ es := by
  induction es generalizing fs with
  | nil => simp
  | cons e es ih =>
      have hnew : e.1 ∉ fs.map Prod.fst := by
        rw [List.map_append, List.nodup_append'] at h
        exact fun hmem => h.2.2 hmem List.mem_cons_self
      rw [List.foldl_cons, insert_of_not_mem hnew, ih (by simpa using h)]
      simp

theorem ofClass_eq_foldl (c : Class) :
    ofClass c = (defaults c).foldl (fun fs e => Fields.insert fs e.1 e.2) [] := by
  simp only [ofClass, defaults, List.foldl_flatMap, List.foldl_map]
  rfl

theorem ofClass_eq {c : Class} (h : c.declaredSlots.Nodup) : ofClass c = defaults c := by
  rw [ofClass_eq_foldl, foldl_insert (by simpa [map_fst_defaults] using h), List.nil_append]

theorem get?_foldl_insert (fs es : Fields) (s : Slot) :
    Fields.get? (es.foldl (fun fs e => Fields.insert fs e.1 e.2) fs) s =
      (es.reverse.lookup s).or (fs.get? s) := by
  induction es generalizing fs with
  | nil => simp
  | cons e es ih =>
      obtain ⟨t, v⟩ := e
      rw [List.foldl_cons, ih, get?_insert, List.reverse_cons, List.lookup_append, Option.or_assoc]
      by_cases hs : s = t
      · simp [hs]
      · have hne : (s == t) = false := by simpa using hs
        simp [hs, hne, List.lookup_cons]

/-- A slot that is declared twice has the default value of its last declaration. -/
theorem get?_ofClass (c : Class) (s : Slot) :
    (ofClass c).get? s = (defaults c).reverse.lookup s := by
  rw [ofClass_eq_foldl, get?_foldl_insert]
  simp [get?]

theorem mem_defaults_iff {c : Class} {s : Slot} {v : Value} :
    (s, v) ∈ defaults c ↔
      ∃ d ∈ c.ancestors, ∃ f ∈ d.fields, s = ⟨d.name, f.name⟩ ∧ v = f.type.defaultValue := by
  simp [defaults, eq_comm]

theorem isSome_get?_ofClass {c d : Class} (hd : d ∈ c.ancestors) {f : Field} (hf : f ∈ d.fields) :
    ((ofClass c).get? ⟨d.name, f.name⟩).isSome = true := by
  have hdeclared : (⟨d.name, f.name⟩, f.type.defaultValue) ∈ defaults c :=
    mem_defaults_iff.mpr ⟨d, hd, f, hf, rfl, rfl⟩
  rw [get?_ofClass, List.lookup_isSome_iff]
  exact ⟨_, List.mem_reverse.mpr hdeclared, by simp⟩

end Fields

/-- All fields that the classes of the object's superclass chain declare hold default values. -/
structure Heap.HoldsDefaults (h : Heap) (o : ObjectRef) : Prop where
  present : ∀ d ∈ o.cls.ancestors, ∀ f ∈ d.fields, (h.readSlot o ⟨d.name, f.name⟩).isSome = true
  default : ∀ {slot v}, h.readSlot o slot = some v →
    ∃ d ∈ o.cls.ancestors, ∃ f ∈ d.fields, slot = ⟨d.name, f.name⟩ ∧ v = f.type.defaultValue

theorem Heap.holdsDefaults_of_readSlot {h : Heap} {o : ObjectRef}
    (hread : ∀ slot, h.readSlot o slot = (Fields.ofClass o.cls).get? slot) : h.HoldsDefaults o := by
  constructor
  · intro d hd f hf
    rw [hread]
    exact Fields.isSome_get?_ofClass hd hf
  · intro slot v hv
    rw [hread, Fields.get?_ofClass] at hv
    obtain ⟨before, after, hsplit, -⟩ := List.lookup_eq_some_iff.mp hv
    have hmem : (slot, v) ∈ (Fields.defaults o.cls).reverse := by simp [hsplit]
    exact Fields.mem_defaults_iff.mp (List.mem_reverse.mp hmem)

/-! ## Finding fields by name -/

namespace Class

theorem findField?_eq_some {c d : Class} {name : String} {f : Field}
    (h : c.findField? name = some (d, f)) : d ∈ c.ancestors ∧ f ∈ d.fields ∧ f.name = name := by
  obtain ⟨e, he, hfound⟩ := List.exists_of_findSome?_eq_some h
  obtain ⟨g, hg, hpair⟩ := Option.map_eq_some_iff.mp hfound
  cases hpair
  exact ⟨he, List.mem_of_find?_eq_some hg, by simpa using List.find?_some hg⟩

theorem exists_findField?_eq_some {c d : Class} (hd : d ∈ c.ancestors) {f : Field}
    (hf : f ∈ d.fields) : ∃ e g, c.findField? f.name = some (e, g) := by
  cases h : c.findField? f.name with
  | some found => exact ⟨found.1, found.2, rfl⟩
  | none =>
      have hnone := List.findSome?_eq_none_iff.mp h d hd
      have hdifferent := List.find?_eq_none.mp (Option.map_eq_none_iff.mp hnone) f hf
      simp at hdifferent

end Class

end Metaobject
