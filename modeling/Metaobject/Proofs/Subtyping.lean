import Metaobject.Class.Hierarchy

/-!
# Subtyping by name

`Class.Reaches` is the relation of a class to all that it inherits from. A class is a subtype of a
name exactly when it reaches a class of that name. Names are not descriptions, so subtyping by name
composes only where a name means one class: in a `ClassGraph`.
-/

namespace Metaobject

namespace Class

/-- What holds of a class as soon as it holds of its superclass and of its interfaces holds of every
class. -/
@[elab_as_elim]
theorem induction {motive : Class → Prop}
    (mk : ∀ decl superclass interfaces, (∀ c ∈ superclass, motive c) →
      (∀ c ∈ interfaces, motive c) → motive (.mk decl superclass interfaces))
    (c : Class) : motive c := by
  refine isSubtypeOf.induct motive (fun cs => ∀ d ∈ cs, motive d) ?_ ?_ ?_ c
  · intro decl superclass interfaces hinterfaces hsuperclass
    refine mk decl superclass interfaces ?_ hinterfaces
    rintro c hc
    cases hc
    exact hsuperclass
  · simp
  · intro c cs hc hcs
    simpa using ⟨hc, hcs⟩

/-- The second class is the first, or the first inherits from it. -/
inductive Reaches : Class → Class → Prop
  | refl (c : Class) : Reaches c c
  | superclass {c s d : Class} : s ∈ c.superclass → Reaches s d → Reaches c d
  | interface {c i d : Class} : i ∈ c.interfaces → Reaches i d → Reaches c d

theorem Reaches.trans {c d e : Class} (hcd : c.Reaches d) (hde : d.Reaches e) : c.Reaches e := by
  induction hcd with
  | refl => exact hde
  | superclass hs _ ih => exact .superclass hs (ih hde)
  | interface hi _ ih => exact .interface hi (ih hde)

theorem reaches_mk_iff {decl : Declaration} {superclass : Option Class} {interfaces : List Class}
    {d : Class} :
    (Class.mk decl superclass interfaces).Reaches d ↔
      d = .mk decl superclass interfaces ∨ (∃ s ∈ superclass, s.Reaches d) ∨
        ∃ i ∈ interfaces, i.Reaches d := by
  constructor
  · intro h
    cases h with
    | refl => exact .inl rfl
    | superclass hs h => exact .inr (.inl ⟨_, hs, h⟩)
    | interface hi h => exact .inr (.inr ⟨_, hi, h⟩)
  · rintro (rfl | ⟨s, hs, h⟩ | ⟨i, hi, h⟩)
    · exact .refl _
    · exact .superclass hs h
    · exact .interface hi h

/-! ## Subtyping is reaching a class of the name -/

theorem anySubtypeOf_iff {name : String} {cs : List Class} :
    anySubtypeOf name cs = true ↔ ∃ c ∈ cs, c.isSubtypeOf name = true := by
  induction cs with
  | nil => simp [anySubtypeOf]
  | cons c cs ih => simp [anySubtypeOf, ih]

theorem isSubtypeOf_mk (name : String) (decl : Declaration) (superclass : Option Class)
    (interfaces : List Class) :
    (Class.mk decl superclass interfaces).isSubtypeOf name =
      (decl.name == name || anySubtypeOf name interfaces ||
        superclass.any (isSubtypeOf name)) := by
  cases superclass <;> simp [isSubtypeOf]

theorem isSubtypeOf_iff {c : Class} {name : String} :
    c.isSubtypeOf name = true ↔ ∃ d, c.Reaches d ∧ d.name = name := by
  induction c using Class.induction with
  | mk decl superclass interfaces hsuperclass hinterfaces =>
      have hany : anySubtypeOf name interfaces = true ↔
          ∃ i ∈ interfaces, ∃ d, i.Reaches d ∧ d.name = name := by
        rw [anySubtypeOf_iff]
        exact exists_congr fun i => and_congr_right fun hi => hinterfaces i hi
      have hchain : superclass.any (isSubtypeOf name) = true ↔
          ∃ s ∈ superclass, ∃ d, s.Reaches d ∧ d.name = name := by
        cases superclass with
        | none => simp
        | some s => simpa using hsuperclass s rfl
      simp only [isSubtypeOf_mk, Bool.or_eq_true, beq_iff_eq, hany, hchain, reaches_mk_iff]
      constructor
      · rintro ((h | ⟨i, hi, d, hd, hname⟩) | ⟨s, hs, d, hd, hname⟩)
        · exact ⟨_, .inl rfl, h⟩
        · exact ⟨d, .inr (.inr ⟨i, hi, hd⟩), hname⟩
        · exact ⟨d, .inr (.inl ⟨s, hs, hd⟩), hname⟩
      · rintro ⟨d, rfl | ⟨s, hs, hd⟩ | ⟨i, hi, hd⟩, hname⟩
        · exact .inl (.inl hname)
        · exact .inr ⟨s, hs, d, hd, hname⟩
        · exact .inl (.inr ⟨i, hi, d, hd, hname⟩)

@[simp] theorem isSubtypeOf_name (c : Class) : c.isSubtypeOf c.name = true :=
  isSubtypeOf_iff.mpr ⟨c, .refl c, rfl⟩

/-! ## The superclass chain -/

theorem ancestors_mk_some (decl : Declaration) (s : Class) (interfaces : List Class) :
    (Class.mk decl (some s) interfaces).ancestors =
      .mk decl (some s) interfaces :: s.ancestors := by
  rw [ancestors]

theorem ancestors_of_superclass {c s : Class} (h : c.superclass = some s) :
    c.ancestors = c :: s.ancestors := by
  obtain ⟨decl, superclass, interfaces⟩ := c
  cases h
  exact ancestors_mk_some decl s interfaces

end Class

/-- Classes together with all that they inherit from, where each name means one class. -/
structure ClassGraph where
  Mem : Class → Prop
  superclass_mem : ∀ {c s : Class}, Mem c → s ∈ c.superclass → Mem s
  interface_mem : ∀ {c i : Class}, Mem c → i ∈ c.interfaces → Mem i
  eq_of_name_eq : ∀ {c d : Class}, Mem c → Mem d → c.name = d.name → c = d

namespace ClassGraph

variable (G : ClassGraph)

theorem mem_of_reaches {c d : Class} (h : c.Reaches d) (hc : G.Mem c) : G.Mem d := by
  induction h with
  | refl => exact hc
  | superclass hs _ ih => exact ih (G.superclass_mem hc hs)
  | interface hi _ ih => exact ih (G.interface_mem hc hi)

theorem reaches_of_isSubtypeOf {c d : Class} (hc : G.Mem c) (hd : G.Mem d)
    (h : c.isSubtypeOf d.name = true) : c.Reaches d := by
  obtain ⟨e, he, hname⟩ := Class.isSubtypeOf_iff.mp h
  obtain rfl : e = d := G.eq_of_name_eq (G.mem_of_reaches he hc) hd hname
  exact he

/-- In a class graph, a class that is a subtype of the name of another inherits all the names of
that other class. -/
theorem isSubtypeOf_trans {c d : Class} {name : String} (hc : G.Mem c) (hd : G.Mem d)
    (hcd : c.isSubtypeOf d.name = true) (h : d.isSubtypeOf name = true) :
    c.isSubtypeOf name = true := by
  obtain ⟨e, hde, hname⟩ := Class.isSubtypeOf_iff.mp h
  exact Class.isSubtypeOf_iff.mpr ⟨e, (G.reaches_of_isSubtypeOf hc hd hcd).trans hde, hname⟩

end ClassGraph

end Metaobject
