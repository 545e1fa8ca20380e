import Metaobject.Proofs.Hierarchy

/-!
# All interfaces of a class

Interfaces are collected depth first, and one that has been found is passed over together with all
that it leads to. In a class graph nothing is lost by that: what it leads to has been found before,
because the links of the graph cannot be followed back. So the interfaces of a class are the first
occurrences in the listing that repeats an interface wherever it is met.
-/

namespace Metaobject

namespace Class

/-! ## Inheritance has no cycles -/

variable {c d e : Class} {cs found : List Class}

theorem sizeOf_lt_of_superclass (h : d ∈ c.superclass) : sizeOf d < sizeOf c := by
  obtain ⟨decl, superclass, interfaces⟩ := c
  obtain rfl : superclass = some d := h
  simp only [mk.sizeOf_spec, Option.some.sizeOf_spec]
  omega

theorem sizeOf_lt_of_interface (h : d ∈ c.interfaces) : sizeOf d < sizeOf c := by
  obtain ⟨decl, superclass, interfaces⟩ := c
  have hlist : sizeOf d < sizeOf interfaces := List.sizeOf_lt_of_mem h
  simp only [mk.sizeOf_spec]
  omega

theorem Reaches.eq_or_sizeOf_lt (h : c.Reaches d) : c = d ∨ sizeOf d < sizeOf c := by
  induction h with
  | refl => exact .inl rfl
  | superclass hs _ ih =>
      have hlt := sizeOf_lt_of_superclass hs
      rcases ih with rfl | ih
      · exact .inr hlt
      · exact .inr (Nat.lt_trans ih hlt)
  | interface hi _ ih =>
      have hlt := sizeOf_lt_of_interface hi
      rcases ih with rfl | ih
      · exact .inr hlt
      · exact .inr (Nat.lt_trans ih hlt)

theorem Reaches.antisymm (hcd : c.Reaches d) (hdc : d.Reaches c) : c = d := by
  rcases hcd.eq_or_sizeOf_lt with h | hlt
  · exact h
  · rcases hdc.eq_or_sizeOf_lt with h | hgt
    · exact h.symm
    · omega

/-- What a class inherits from is the class itself or is named by something that the class inherits
from. -/
theorem Reaches.last_link (h : c.Reaches d) : c = d ∨
    (∃ e, c.Reaches e ∧ d ∈ e.superclass) ∨ ∃ e, c.Reaches e ∧ d ∈ e.interfaces := by
  induction h with
  | refl => exact .inl rfl
  | @superclass c s d hs _ ih =>
      rcases ih with rfl | ⟨e, he, hd⟩ | ⟨e, he, hd⟩
      · exact .inr (.inl ⟨c, .refl c, hs⟩)
      · exact .inr (.inl ⟨e, .superclass hs he, hd⟩)
      · exact .inr (.inr ⟨e, .superclass hs he, hd⟩)
  | @interface c i d hi _ ih =>
      rcases ih with rfl | ⟨e, he, hd⟩ | ⟨e, he, hd⟩
      · exact .inr (.inr ⟨c, .refl c, hi⟩)
      · exact .inr (.inl ⟨e, .interface hi he, hd⟩)
      · exact .inr (.inr ⟨e, .interface hi he, hd⟩)

/-! ## The full listing -/

mutual

/-- The interfaces of the class, each followed by its own, then those of its superclass. An
interface is listed each time it is met. -/
def interfaceListing : Class → List Class
  | .mk _ superclass interfaces =>
      listEach interfaces ++
        match superclass with
        | none => []
        | some c => c.interfaceListing

def listEach : List Class → List Class
  | [] => []
  | c :: cs => c :: c.interfaceListing ++ listEach cs

end

theorem interfaceListing_mk (decl : Declaration) (superclass : Option Class)
    (interfaces : List Class) :
    (Class.mk decl superclass interfaces).interfaceListing =
      listEach interfaces ++ superclass.elim [] interfaceListing := by
  cases superclass <;> rw [interfaceListing] <;> rfl

theorem mem_listEach_iff :
    d ∈ listEach cs ↔ ∃ c ∈ cs, d = c ∨ d ∈ c.interfaceListing := by
  induction cs with
  | nil => simp [listEach]
  | cons c cs ih => simp [listEach, ih, or_assoc]

/-- What is listed is named as an interface by something that the class inherits from. -/
theorem mem_interfaceListing_iff :
    d ∈ c.interfaceListing ↔ ∃ e, c.Reaches e ∧ d ∈ e.interfaces := by
  induction c using Class.induction with
  | mk decl superclass interfaces hsuperclass hinterfaces =>
      have heach : d ∈ listEach interfaces ↔
          d ∈ interfaces ∨ ∃ i ∈ interfaces, ∃ e, i.Reaches e ∧ d ∈ e.interfaces := by
        rw [mem_listEach_iff]
        constructor
        · rintro ⟨i, hi, rfl | hd⟩
          · exact .inl hi
          · exact .inr ⟨i, hi, (hinterfaces i hi).mp hd⟩
        · rintro (hd | ⟨i, hi, hd⟩)
          · exact ⟨d, hd, .inl rfl⟩
          · exact ⟨i, hi, .inr ((hinterfaces i hi).mpr hd)⟩
      have hchain : d ∈ superclass.elim [] interfaceListing ↔
          ∃ s ∈ superclass, ∃ e, s.Reaches e ∧ d ∈ e.interfaces := by
        cases superclass with
        | none => simp
        | some s => simpa using hsuperclass s rfl
      simp only [interfaceListing_mk, List.mem_append, heach, hchain, reaches_mk_iff]
      constructor
      · rintro ((hd | ⟨i, hi, e, he, hd⟩) | ⟨s, hs, e, he, hd⟩)
        · exact ⟨_, .inl rfl, hd⟩
        · exact ⟨e, .inr (.inr ⟨i, hi, he⟩), hd⟩
        · exact ⟨e, .inr (.inl ⟨s, hs, he⟩), hd⟩
      · rintro ⟨e, rfl | ⟨s, hs, he⟩ | ⟨i, hi, he⟩, hd⟩
        · exact .inl (.inl hd)
        · exact .inr ⟨s, hs, e, he, hd⟩
        · exact .inl (.inr ⟨i, hi, e, he, hd⟩)

theorem reaches_of_mem_interfaceListing (h : d ∈ c.interfaceListing) : c.Reaches d := by
  obtain ⟨e, he, hd⟩ := mem_interfaceListing_iff.mp h
  exact he.trans (.interface hd (.refl d))

theorem Reaches.interfaceListing_subset (h : c.Reaches d) :
    d.interfaceListing ⊆ c.interfaceListing := by
  intro e he
  obtain ⟨f, hf, hmem⟩ := mem_interfaceListing_iff.mp he
  exact mem_interfaceListing_iff.mpr ⟨f, h.trans hf, hmem⟩

theorem not_mem_interfaceListing_self (c : Class) : c ∉ c.interfaceListing := by
  intro h
  obtain ⟨e, he, hc⟩ := mem_interfaceListing_iff.mp h
  obtain rfl : c = e := he.antisymm (.interface hc (.refl c))
  exact Nat.lt_irrefl _ (sizeOf_lt_of_interface hc)

theorem listEach_closed (hd : d ∈ listEach cs) : d.interfaceListing ⊆ listEach cs := by
  obtain ⟨c, hc, hdc⟩ := mem_listEach_iff.mp hd
  intro e he
  refine mem_listEach_iff.mpr ⟨c, hc, .inr ?_⟩
  rcases hdc with rfl | hdc
  · exact he
  · exact (reaches_of_mem_interfaceListing hdc).interfaceListing_subset he

theorem cons_interfaceListing_closed (hd : d ∈ c :: c.interfaceListing) :
    d.interfaceListing ⊆ c :: c.interfaceListing := by
  have hlisted : d ∈ listEach [c] := by simpa [listEach] using hd
  simpa [listEach] using listEach_closed hlisted

/-! ## First occurrences -/

/-- Adds a class unless its name has been found. -/
def addUnseen (found : List Class) (c : Class) : List Class :=
  if found.any fun d => d.name == c.name then found else found ++ [c]

theorem addUnseen_of_seen (h : d ∈ found) (hname : d.name = c.name) :
    addUnseen found c = found := by
  rw [addUnseen, if_pos]
  exact List.any_eq_true.mpr ⟨d, h, by simpa using hname⟩

theorem addUnseen_of_new (h : ∀ d ∈ found, d.name ≠ c.name) :
    addUnseen found c = found ++ [c] := by
  rw [addUnseen, if_neg]
  simpa using h

theorem addUnseen_cases (found : List Class) (c : Class) :
    ((∃ d ∈ found, d.name = c.name) ∧ addUnseen found c = found) ∨
      ((∀ d ∈ found, d.name ≠ c.name) ∧ addUnseen found c = found ++ [c]) := by
  by_cases h : ∃ d ∈ found, d.name = c.name
  · obtain ⟨d, hd, hname⟩ := h
    exact .inl ⟨⟨d, hd, hname⟩, addUnseen_of_seen hd hname⟩
  · have hnew : ∀ d ∈ found, d.name ≠ c.name := by simpa using h
    exact .inr ⟨hnew, addUnseen_of_new hnew⟩

theorem nodup_foldl_addUnseen (h : (found.map name).Nodup) :
    ((cs.foldl addUnseen found).map name).Nodup := by
  induction cs generalizing found with
  | nil => exact h
  | cons c cs ih =>
      rw [List.foldl_cons]
      refine ih ?_
      rcases addUnseen_cases found c with ⟨-, heq⟩ | ⟨hnew, heq⟩ <;> rw [heq]
      · exact h
      · rw [List.map_append, List.nodup_append']
        refine ⟨h, by simp, ?_⟩
        simpa using hnew

theorem foldl_addUnseen_eq_eraseDupsBy :
    cs.foldl addUnseen [] = cs.eraseDupsBy fun d e => d.name == e.name := by
  have hloop (found : List Class) : cs.foldl addUnseen found =
      List.eraseDupsBy.loop (fun d e => d.name == e.name) cs found.reverse := by
    induction cs generalizing found with
    | nil => simp [List.eraseDupsBy.loop]
    | cons c cs ih =>
        rw [List.foldl_cons, List.eraseDupsBy.loop, ih]
        rcases addUnseen_cases found c with ⟨⟨d, hd, hname⟩, heq⟩ | ⟨hnew, heq⟩
        · have hany : (found.reverse.any fun e => c.name == e.name) = true :=
            List.any_eq_true.mpr ⟨d, List.mem_reverse.mpr hd, by simp [hname]⟩
          rw [heq, hany]
        · have hany : (found.reverse.any fun e => c.name == e.name) = false := by
            refine List.any_eq_false.mpr fun d hd => ?_
            simpa using (hnew d (List.mem_reverse.mp hd)).symm
          rw [heq, hany, List.reverse_append]
          rfl
  exact hloop []

end Class

/-! ## Passing over what has been found -/

namespace ClassGraph

open Metaobject.Class

variable (G : ClassGraph) {c d : Class} {cs found : List Class}

theorem mem_of_mem_interfaceListing (hc : G.Mem c) (h : d ∈ c.interfaceListing) : G.Mem d :=
  G.mem_of_reaches (reaches_of_mem_interfaceListing h) hc

theorem mem_of_mem_listEach (hcs : ∀ c ∈ cs, G.Mem c) (h : d ∈ listEach cs) : G.Mem d := by
  obtain ⟨c, hc, rfl | hd⟩ := mem_listEach_iff.mp h
  · exact hcs _ hc
  · exact G.mem_of_mem_interfaceListing (hcs c hc) hd

theorem mem_foldl_addUnseen_iff (hfound : ∀ c ∈ found, G.Mem c) (hcs : ∀ c ∈ cs, G.Mem c) :
    d ∈ cs.foldl addUnseen found ↔ d ∈ found ∨ d ∈ cs := by
  induction cs generalizing found with
  | nil => simp
  | cons c cs ih =>
      obtain ⟨hc, hrest⟩ := List.forall_mem_cons.mp hcs
      rw [List.foldl_cons]
      rcases addUnseen_cases found c with ⟨⟨e, he, hname⟩, heq⟩ | ⟨-, heq⟩ <;> rw [heq]
      · -- the class of the same name that has been found is the class itself
        obtain rfl : e = c := G.eq_of_name_eq (hfound e he) hc hname
        rw [ih hfound hrest, List.mem_cons]
        constructor
        · rintro (hd | hd)
          · exact .inl hd
          · exact .inr (.inr hd)
        · rintro (hd | rfl | hd)
          · exact .inl hd
          · exact .inl he
          · exact .inr hd
      · have hadded : ∀ e ∈ found ++ [c], G.Mem e :=
          List.forall_mem_append.mpr ⟨hfound, List.forall_mem_singleton.mpr hc⟩
        rw [ih hadded hrest, List.mem_append, List.mem_singleton, List.mem_cons, or_assoc]

theorem foldl_addUnseen_of_subset (h : cs ⊆ found) : cs.foldl addUnseen found = found := by
  induction cs with
  | nil => rfl
  | cons c cs ih =>
      obtain ⟨hc, hrest⟩ := List.cons_subset.mp h
      rw [List.foldl_cons, addUnseen_of_seen hc rfl, ih hrest]

/-- What has been found and is listed again has had its own listing found as well. -/
structure Settled (found listing : List Class) : Prop where
  mem : ∀ d ∈ found, G.Mem d
  closed : ∀ d ∈ found, d ∈ listing → d.interfaceListing ⊆ found

variable {G}

theorem settled_nil (listing : List Class) : G.Settled [] listing :=
  ⟨by simp, by simp⟩

/-- When a part that contains the listings of its classes has been gone through, the rest of a
settled listing is settled. -/
theorem Settled.advance {part rest : List Class} (h : G.Settled found (part ++ rest))
    (hpart : ∀ c ∈ part, G.Mem c) (hclosed : ∀ d ∈ part, d.interfaceListing ⊆ part) :
    G.Settled (part.foldl addUnseen found) rest := by
  have hmem (e : Class) : e ∈ part.foldl addUnseen found ↔ e ∈ found ∨ e ∈ part :=
    G.mem_foldl_addUnseen_iff h.mem hpart
  constructor
  · intro d hd
    rcases (hmem d).mp hd with hd | hd
    · exact h.mem d hd
    · exact hpart d hd
  · intro d hd hrest e he
    rcases (hmem d).mp hd with hd | hd
    · exact (hmem e).mpr (.inl (h.closed d hd (List.mem_append_right _ hrest) he))
    · exact (hmem e).mpr (.inr (hclosed d hd he))

theorem Settled.mono {part listing : List Class} (h : G.Settled found listing)
    (hpart : part ⊆ listing) : G.Settled found part :=
  ⟨h.mem, fun d hd hlisted => h.closed d hd (hpart hlisted)⟩

/-- A class does not occur in its own listing, so nothing new is asked when it is added. -/
theorem Settled.add (hc : G.Mem c) (h : G.Settled found c.interfaceListing) :
    G.Settled (found ++ [c]) c.interfaceListing := by
  refine ⟨List.forall_mem_append.mpr ⟨h.mem, List.forall_mem_singleton.mpr hc⟩, ?_⟩
  intro d hd hlisted e he
  rcases List.mem_append.mp hd with hd | hd
  · exact List.mem_append_left _ (h.closed d hd hlisted he)
  · obtain rfl := List.mem_singleton.mp hd
    exact absurd hlisted (not_mem_interfaceListing_self d)

/-- Passing over what has been found gives the first occurrences in the full listing. The two parts
follow the recursion, with what has been found general. -/
theorem collectInterfaces_eq_foldl (hc : G.Mem c) (h : G.Settled found c.interfaceListing) :
    c.collectInterfaces found = c.interfaceListing.foldl addUnseen found := by
  refine collectInterfaces.induct
    (fun c found => G.Mem c → G.Settled found c.interfaceListing →
      c.collectInterfaces found = c.interfaceListing.foldl addUnseen found)
    (fun cs found => (∀ c ∈ cs, G.Mem c) → G.Settled found (listEach cs) →
      collectEach cs found = (listEach cs).foldl addUnseen found)
    ?none ?superclass ?nil ?seen ?new c found hc h
  case none =>
    intro decl interfaces found ih hc h
    rw [interfaceListing_mk, Option.elim_none, List.append_nil] at h ⊢
    rw [collectInterfaces]
    exact ih (fun _ => G.interface_mem hc) h
  case superclass =>
    intro decl interfaces found s ihinterfaces ihsuperclass hc h
    have hinterfaces : ∀ i ∈ interfaces, G.Mem i := fun _ => G.interface_mem hc
    rw [interfaceListing_mk, Option.elim_some] at h ⊢
    have hfound := ihinterfaces hinterfaces (h.mono (List.subset_append_left _ _))
    rw [collectInterfaces, List.foldl_append, ← hfound]
    refine ihsuperclass (G.superclass_mem hc rfl) ?_
    rw [hfound]
    exact h.advance (fun _ => G.mem_of_mem_listEach hinterfaces) fun _ => listEach_closed
  case nil =>
    intro found _ _
    rw [collectEach, listEach, List.foldl_nil]
  case seen =>
    intro c cs found hseen ih hcs h
    obtain ⟨hc, hrest⟩ := List.forall_mem_cons.mp hcs
    obtain ⟨d, hd, hname⟩ : ∃ d ∈ found, d.name = c.name := by simpa using hseen
    obtain rfl : d = c := G.eq_of_name_eq (h.mem d hd) hc hname
    -- what the class leads to has been found with it
    have hsubset : d :: d.interfaceListing ⊆ found :=
      List.cons_subset.mpr ⟨hd, h.closed d hd (by simp [listEach])⟩
    have hsame := foldl_addUnseen_of_subset hsubset
    rw [listEach] at h ⊢
    rw [collectEach, if_pos hseen, List.foldl_append, hsame]
    exact ih hrest (h.mono (List.subset_append_right _ _))
  case new =>
    intro c cs found hnew ihlisting ihrest hcs h
    obtain ⟨hc, hrest⟩ := List.forall_mem_cons.mp hcs
    have hadded : addUnseen found c = found ++ [c] := addUnseen_of_new (by simpa using hnew)
    rw [listEach] at h ⊢
    have hsettled : G.Settled found c.interfaceListing :=
      h.mono (List.Subset.trans (List.subset_cons_self _ _) (List.subset_append_left _ _))
    have hfound : c.collectInterfaces (found ++ [c]) =
        (c :: c.interfaceListing).foldl addUnseen found := by
      rw [List.foldl_cons, hadded]
      exact ihlisting hc (hsettled.add hc)
    rw [collectEach, if_neg hnew, List.foldl_append, ← hfound]
    refine ihrest hrest ?_
    rw [hfound]
    have hlisted : ∀ d ∈ c :: c.interfaceListing, G.Mem d :=
      List.forall_mem_cons.mpr ⟨hc, fun _ => G.mem_of_mem_interfaceListing hc⟩
    exact h.advance hlisted fun _ => cons_interfaceListing_closed

variable (G)

theorem mem_allInterfaces_iff (hc : G.Mem c) :
    d ∈ c.allInterfaces ↔ ∃ e, c.Reaches e ∧ d ∈ e.interfaces := by
  rw [allInterfaces, collectInterfaces_eq_foldl hc (settled_nil _), G.mem_foldl_addUnseen_iff
    (by simp) fun _ => G.mem_of_mem_interfaceListing hc, mem_interfaceListing_iff]
  simp

theorem mem_allInterfaces_iff_reaches (hc : G.Mem c) (hbuilt : c.Built) :
    d ∈ c.allInterfaces ↔ c.Reaches d ∧ d ≠ c ∧ d.kind = .interface := by
  rw [G.mem_allInterfaces_iff hc]
  constructor
  · rintro ⟨e, he, hd⟩
    refine ⟨he.trans (.interface hd (.refl d)), ?_, (hbuilt.of_reaches he).kind_of_mem_interfaces hd⟩
    rintro rfl
    exact not_mem_interfaceListing_self d (mem_interfaceListing_iff.mpr ⟨e, he, hd⟩)
  · rintro ⟨hd, hne, hkind⟩
    rcases hd.last_link with rfl | ⟨e, he, hs⟩ | ⟨e, he, hi⟩
    · exact absurd rfl hne
    · cases hkind.symm.trans ((hbuilt.of_reaches he).kind_of_superclass hs)
    · exact ⟨e, he, hi⟩

theorem reaches_iff (hc : G.Mem c) (hbuilt : c.Built) :
    c.Reaches d ↔ d ∈ c.ancestors ∨ d ∈ c.allInterfaces := by
  constructor
  · intro hd
    by_cases hkind : d.kind = .ordinary
    · exact .inl (hbuilt.mem_ancestors_of_reaches hd hkind)
    · by_cases hself : d = c
      · exact .inl (mem_ancestors_iff.mpr (.inl hself))
      · have hinterface : d.kind = .interface := by
          cases h : d.kind with
          | ordinary => exact absurd h hkind
          | interface => rfl
        exact .inr ((G.mem_allInterfaces_iff_reaches hc hbuilt).mpr ⟨hd, hself, hinterface⟩)
  · rintro (hd | hd)
    · exact reaches_of_mem_ancestors hd
    · exact ((G.mem_allInterfaces_iff_reaches hc hbuilt).mp hd).1

/-- A class is a subtype of a name exactly when one of its superclasses, itself included, or one of
its interfaces has the name. All interfaces that it inherits from are listed once, in the order in
which they first occur in the full listing. Subtyping is transitive and antisymmetric along the
classes of the graph. -/
theorem subtyping_by_listing (hc : G.Mem c) (hbuilt : c.Built) :
    (∀ name, c.isSubtypeOf name = true ↔
      ∃ d, (d ∈ c.ancestors ∨ d ∈ c.allInterfaces) ∧ d.name = name) ∧
    (∀ d, d ∈ c.allInterfaces ↔ c.Reaches d ∧ d ≠ c ∧ d.kind = .interface) ∧
    (c.allInterfaces.map Class.name).Nodup ∧
    (c.allInterfaces = c.interfaceListing.eraseDupsBy fun d e => d.name == e.name) ∧
    ∀ d, G.Mem d → c.isSubtypeOf d.name = true →
      (∀ name, d.isSubtypeOf name = true → c.isSubtypeOf name = true) ∧
        (d.isSubtypeOf c.name = true → c = d) := by
  have hlisting : c.allInterfaces = c.interfaceListing.foldl addUnseen [] :=
    collectInterfaces_eq_foldl hc (settled_nil _)
  refine ⟨fun name => ?_, fun d => G.mem_allInterfaces_iff_reaches hc hbuilt, ?_,
    hlisting.trans foldl_addUnseen_eq_eraseDupsBy, fun d hd hsub => ⟨fun name => ?_, fun hback => ?_⟩⟩
  · simp only [isSubtypeOf_iff, G.reaches_iff hc hbuilt]
  · rw [hlisting]
    exact nodup_foldl_addUnseen List.nodup_nil
  · exact G.isSubtypeOf_trans hc hd hsub
  · exact (G.reaches_of_isSubtypeOf hc hd hsub).antisymm (G.reaches_of_isSubtypeOf hd hc hback)

end ClassGraph

/-! ### A diamond of interfaces -/

namespace Samples

def source : Class := (ClassSpec.named "app.Source" .interface).described 1

def reader : Class :=
  { ClassSpec.named "app.Reader" .interface with interfaces := [source] }.described 2

def writer : Class :=
  { ClassSpec.named "app.Writer" .interface with interfaces := [source] }.described 3

def file : Class :=
  { ClassSpec.named "app.File" .ordinary with interfaces := [reader, writer] }.described 4

def journal : Class :=
  { ClassSpec.named "app.Journal" .ordinary with
    superclass := some file, interfaces := [writer] }.described 5

def fileClasses : List Class := [.root, source, reader, writer, file, journal]

def fileGraph : ClassGraph where
  Mem c := c ∈ fileClasses
  superclass_mem := by
    intro c s hc hs
    simp only [fileClasses, List.mem_cons, List.not_mem_nil, or_false] at hc
    rcases hc with rfl | rfl | rfl | rfl | rfl | rfl <;> cases hs
    · exact .head _
    · exact .tail _ (.tail _ (.tail _ (.tail _ (.head _))))
  interface_mem := by
    intro c i hc hi
    have hinterfaces : ∀ c ∈ fileClasses, ∀ i ∈ c.interfaces, i ∈ fileClasses := by
      simp [fileClasses, Class.root, source, reader, writer, file, journal, ClassSpec.described,
        ClassSpec.named, Class.interfaces]
    exact hinterfaces c hc i hi
  eq_of_name_eq := fun hc hd h =>
    List.inj_on_of_nodup_map (by decide : (fileClasses.map Class.name).Nodup) hc hd h

theorem built_journal : journal.Built := by
  have hsource : source.Built := by
    have hbuild : (ClassSpec.named "app.Source" .interface).build 1 = .ok source := rfl
    exact .build (by simp [ClassSpec.named]) (by simp [ClassSpec.named]) hbuild
  have hextends : ∀ i ∈ [source], i.Built := List.forall_mem_singleton.mpr hsource
  have hreader : reader.Built := by
    have hbuild : ClassSpec.build { ClassSpec.named "app.Reader" .interface with
        interfaces := [source] } 2 = .ok reader := rfl
    exact .build (by simp [ClassSpec.named]) hextends hbuild
  have hwriter : writer.Built := by
    have hbuild : ClassSpec.build { ClassSpec.named "app.Writer" .interface with
        interfaces := [source] } 3 = .ok writer := rfl
    exact .build (by simp [ClassSpec.named]) hextends hbuild
  have hfile : file.Built := by
    have hbuild : ClassSpec.build { ClassSpec.named "app.File" .ordinary with
        interfaces := [reader, writer] } 4 = .ok file := rfl
    have hinterfaces : ∀ i ∈ [reader, writer], i.Built := by simp [hreader, hwriter]
    exact .build (by simp [ClassSpec.named]) hinterfaces hbuild
  have hbuild : ClassSpec.build { ClassSpec.named "app.Journal" .ordinary with
      superclass := some file, interfaces := [writer] } 5 = .ok journal := rfl
  have hsuperclass : ∀ s ∈ some file, s.Built := by
    rintro s ⟨⟩
    exact hfile
  exact .build hsuperclass (List.forall_mem_singleton.mpr hwriter) hbuild

/-- The source is reached along three paths and listed once, where it is first met. -/
theorem journal_subtyping : journal.allInterfaces = [writer, source, reader] ∧
    (∀ name, journal.isSubtypeOf name = true ↔ ∃ d,
      (d ∈ [journal, file, .root] ∨ d ∈ [writer, source, reader]) ∧ d.name = name) ∧
    source.isSubtypeOf "app.Journal" = false := by
  have hmem : fileGraph.Mem journal := .tail _ (.tail _ (.tail _ (.tail _ (.tail _ (.head _)))))
  have hsource : fileGraph.Mem source := .tail _ (.head _)
  obtain ⟨hnames, -, -, hlisted, hclasses⟩ := fileGraph.subtyping_by_listing hmem built_journal
  have hinterfaces : journal.allInterfaces = [writer, source, reader] := hlisted.trans rfl
  rw [hinterfaces] at hnames
  refine ⟨hinterfaces, hnames, Bool.eq_false_iff.mpr fun hback => ?_⟩
  have heq : journal = source := (hclasses source hsource (by decide)).2 hback
  exact absurd (congrArg Class.name heq) (by decide)

end Samples

end Metaobject
