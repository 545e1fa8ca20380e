import Mathlib.Data.List.Chain
import Mathlib.Data.List.Induction
import Metaobject.Proofs.Heap.Handlers
import Metaobject.Proofs.Hierarchy

/-!
# The order of construction

A new object holds the default values of its fields before any constructor runs. Then the bodies run
one after the other on it: those of the constructors without parameters, from the root down to the
superclass, and last the one that was asked for. The first body that fails ends the construction with
its failure. That a superclass has no such constructor does not come up, because the builder does not
extend a class without one.
-/

namespace Metaobject

namespace Class

variable {c d s : Class}

/-! ## From the root down -/

/-- The classes lead from the root to the class, each the superclass of the next. -/
structure Above (c : Class) (above : List Class) : Prop where
  starts : (above ++ [c]).head? = some root
  linked : (above ++ [c]).IsChain fun d e => e.superclass = some d

theorem superclassesFromRoot_append (c : Class) :
    c.superclassesFromRoot ++ [c] = c.ancestors.reverse := by
  obtain ⟨decl, _ | s, interfaces⟩ := c
  · simp [superclassesFromRoot, ancestors_mk_none]
  · simp [superclassesFromRoot, ancestors_mk_some]

theorem superclassesFromRoot_of_superclass (h : c.superclass = some s) :
    c.superclassesFromRoot = s.superclassesFromRoot ++ [s] := by
  rw [superclassesFromRoot, ancestors_of_superclass h, List.tail_cons, superclassesFromRoot_append]

theorem nodup_ancestors (c : Class) : c.ancestors.Nodup := by
  induction c using Class.induction with
  | mk decl superclass interfaces hsuperclass _ =>
      cases superclass with
      | none => simp [ancestors_mk_none]
      | some s =>
          rw [ancestors_mk_some, List.nodup_cons]
          exact ⟨not_mem_ancestors_of_superclass rfl, hsuperclass s rfl⟩

theorem isChain_ancestors (c : Class) : c.ancestors.IsChain fun d e => d.superclass = some e := by
  induction c using Class.induction with
  | mk decl superclass interfaces hsuperclass _ =>
      cases superclass with
      | none => simp [ancestors_mk_none]
      | some s =>
          have hs := hsuperclass s rfl
          obtain ⟨e, _ | t, is⟩ := s
          · simp [ancestors_mk_some, ancestors_mk_none, Class.superclass]
          · rw [ancestors_mk_some] at hs
            rw [ancestors_mk_some, ancestors_mk_some]
            exact .cons_cons rfl hs

theorem Above.eq_superclassesFromRoot {above : List Class} (h : c.Above above) :
    above = c.superclassesFromRoot := by
  induction above using List.reverseRecOn generalizing c with
  | nil =>
      obtain rfl : c = root := by simpa using h.starts
      simp [superclassesFromRoot, root, ancestors]
  | append_singleton above s ih =>
      have hlinked := List.isChain_append.mp h.linked
      have hs : c.superclass = some s := by simpa using hlinked.2.2
      have habove : s.Above above := ⟨by simpa using h.starts, hlinked.1⟩
      rw [superclassesFromRoot_of_superclass hs, ih habove]

theorem Rooted.above_superclassesFromRoot (h : c.Rooted) (hordinary : c.kind = .ordinary) :
    c.Above c.superclassesFromRoot := by
  constructor
  · rw [superclassesFromRoot_append, h.chain hordinary]
    simp
  · rw [superclassesFromRoot_append, List.isChain_reverse]
    exact c.isChain_ancestors

/-- A superclass has exactly one constructor without parameters. -/
theorem Rooted.exists_noArgConstructor (h : c.Rooted) (hd : d ∈ c.superclassesFromRoot)
    (hrooted : d.Rooted) : ∃ j, d.noArgConstructor? = some j ∧
      ∀ k, (k ∈ d.constructors ∧ k.params = []) ↔ k = j := by
  obtain ⟨-, hexists⟩ := h.superclasses d (List.mem_reverse.mp hd)
  obtain ⟨j, hj⟩ := Option.isSome_iff_exists.mp (isSome_noArgConstructor?_iff.mpr hexists)
  refine ⟨j, hj, fun k => ?_⟩
  rw [← hrooted.noArgConstructor?_eq_some_iff, hj, Option.some_inj]
  exact eq_comm

theorem Built.forall₂_noArgConstructor (hc : c.Built) : ∃ js : List Constructor,
    List.Forall₂ (fun d j => d.noArgConstructor? = some j ∧
      ∀ k, (k ∈ d.constructors ∧ k.params = []) ↔ k = j) c.superclassesFromRoot js := by
  have hexists (d : Class) (hd : d ∈ c.superclassesFromRoot) := by
    have hreaches : c.Reaches d :=
      reaches_of_mem_ancestors (mem_ancestors_of_mem_superclassesFromRoot hd)
    exact hc.rooted.exists_noArgConstructor hd (hc.of_reaches hreaches).rooted
  have : Nonempty Constructor := ⟨.implicit⟩
  choose! f hf using hexists
  exact ⟨c.superclassesFromRoot.map f,
    List.forall₂_map_right_iff.mpr (List.forall₂_same.mpr hf)⟩

end Class

/-! ## Bodies one after the other -/

namespace Program

/-- The programs run in order, each on the heap that the one before it has left. The first one that
fails is the last one that runs, and the whole sequence ends as it does. -/
inductive InOrder (perform : Request → Act Value) :
    List Program → Heap → Except Halt Unit → Heap → Prop
  | finish (h : Heap) : InOrder perform [] h (.ok ()) h
  | fail {p : Program} {ps : List Program} {h g : Heap} {e : Halt} :
      Act.outcome (p.run perform) h = (.error e, g) → InOrder perform (p :: ps) h (.error e) g
  | next {p : Program} {ps : List Program} {h g f : Heap} {v : Value} {r : Except Halt Unit} :
      Act.outcome (p.run perform) h = (.ok v, g) → InOrder perform ps g r f →
        InOrder perform (p :: ps) h r f

variable {perform : Request → Act Value}

theorem inOrder_iff {ps : List Program} {h g : Heap} {r : Except Halt Unit} :
    InOrder perform ps h r g ↔
      Act.outcome (ps.forM fun p => discard (p.run perform)) h = (r, g) := by
  induction ps generalizing h with
  | nil =>
      constructor
      · rintro ⟨⟩
        rfl
      · rintro ⟨⟩
        exact .finish _
  | cons p ps ih =>
      rw [List.forM_eq_forM] at ih ⊢
      rw [List.forM_cons, Act.outcome_bind, Act.outcome_discard]
      rcases hp : Act.outcome (p.run perform) h with ⟨e | v, f⟩
      · constructor
        · intro hrun
          cases hrun with
          | fail hfail =>
              cases hp.symm.trans hfail
              rfl
          | next hnext _ => cases hp.symm.trans hnext
        · rintro ⟨⟩
          exact .fail hp
      · refine Iff.trans ⟨fun hrun => ?_, fun hrest => .next hp hrest⟩ ih
        cases hrun with
        | fail hfail => cases hp.symm.trans hfail
        | next hnext hrest =>
            cases hp.symm.trans hnext
            exact hrest

end Program

/-- What the body of a constructor does; without a body, nothing. -/
def Constructor.program (link : Linkage) (this : ObjectRef) (args : List Value)
    (k : Constructor) : Program :=
  match k.body with
  | none => .done .null
  | some label => link label this args

section Initialisation

variable (link : Linkage) (depth : Nat)

theorem runConstructor_eq (perform : Request → Act Value) (o : ObjectRef) (k : Constructor)
    (args : List Value) :
    runConstructor link perform o k args =
      discard ((k.program link o args).run perform) := by
  unfold runConstructor Constructor.program
  cases k.body <;> rfl

theorem forM_runDefaultConstructor (perform : Request → Act Value) (o : ObjectRef)
    {ds : List Class} {js : List Constructor}
    (hjs : List.Forall₂ (fun d j => d.noArgConstructor? = some j) ds js) :
    ds.forM (runDefaultConstructor link perform o) =
      (js.map (Constructor.program link o [])).forM fun p => discard (p.run perform) := by
  induction hjs with
  | nil => rfl
  | cons hj _ ih =>
      simp only [List.forM_eq_forM, List.map_cons, List.forM_cons] at ih ⊢
      rw [ih, runDefaultConstructor, hj]
      simp only [runConstructor_eq]

theorem initialise_eq (o : ObjectRef) (k : Constructor) (args : List Value) :
    initialise link depth o k args =
      (o.cls.superclassesFromRoot.forM (runDefaultConstructor link (nested link depth) o) >>=
        fun _ => runConstructor link (nested link depth) o k args) := by
  rw [initialise, perform_eq_performWith, performWith, Functor.discard, LawfulFunctor.map_const,
    Function.comp_apply, map_eq_pure_bind]
  simp

/-- Initialising an object runs the bodies of its constructors in order. -/
theorem outcome_initialise_eq_iff {o : ObjectRef} {js : List Constructor}
    (hjs : List.Forall₂ (fun d j => d.noArgConstructor? = some j) o.cls.superclassesFromRoot js)
    {k : Constructor} {args : List Value} {h g : Heap} {r : Except Halt Unit} :
    Act.outcome (initialise link depth o k args) h = (r, g) ↔
      Program.InOrder (nested link depth)
        (js.map (Constructor.program link o []) ++ [k.program link o args]) h r g := by
  rw [Program.inOrder_iff, initialise_eq, forM_runDefaultConstructor link _ _ hjs, runConstructor_eq]
  simp

/-- The result of a construction is the new object as soon as all bodies have run. -/
theorem outcome_construct_eq_iff {c : Class} {js : List Constructor}
    (hjs : List.Forall₂ (fun d j => d.noArgConstructor? = some j) c.superclassesFromRoot js)
    {k : Constructor} {args : List Value} {h g : Heap} {r : Except Halt ObjectRef} :
    Act.outcome (construct link depth c k args) h = (r, g) ↔
      ∃ ended, r = ended.map (fun _ => (h.allocate c).1) ∧
        Program.InOrder (nested link depth)
          (js.map (Constructor.program link (h.allocate c).1 []) ++
            [k.program link (h.allocate c).1 args]) (h.allocate c).2 ended g := by
  have hinitialise (ended : Except Halt Unit) :
      Act.outcome (initialise link depth (h.allocate c).1 k args) (h.allocate c).2 = (ended, g) ↔
        Program.InOrder (nested link depth)
          (js.map (Constructor.program link (h.allocate c).1 []) ++
            [k.program link (h.allocate c).1 args]) (h.allocate c).2 ended g :=
    outcome_initialise_eq_iff link depth hjs
  simp only [← hinitialise]
  rw [construct, Act.outcome_bind, Act.outcome_modifyGet]
  simp only [Act.outcome_bind]
  rcases Act.outcome (initialise link depth (h.allocate c).1 k args) (h.allocate c).2 with
    ⟨e | u, f⟩
  · constructor
    · rintro ⟨⟩
      exact ⟨.error e, rfl, rfl⟩
    · rintro ⟨ended, rfl, ⟨⟩⟩
      rfl
  · constructor
    · rintro ⟨⟩
      exact ⟨.ok u, rfl, rfl⟩
    · rintro ⟨ended, rfl, ⟨⟩⟩
      rfl

end Initialisation

/-! ## New objects -/

/-- The second heap is the first one with a new object, which has no handler and holds the default
values of its fields. -/
structure Heap.Gains (h : Heap) (o : ObjectRef) (g : Heap) : Prop where
  fresh : h.object? o = none
  others : ∀ p : ObjectRef, p.address ≠ o.address → g.object? p = h.object? p
  recorded : g.recorded = h.recorded
  unbound : g.handler? o = none
  defaults : g.HoldsDefaults o

theorem Heap.gains_allocate (h : Heap) (c : Class) :
    h.Gains (h.allocate c).1 (h.allocate c).2 := by
  refine ⟨?_, fun p hp => ?_, rfl, ?_, ?_⟩
  · simp [object?, allocate]
  · have hne : p.address ≠ h.objects.length := hp
    rw [object?, object?, allocate]
    rcases Nat.lt_or_gt_of_ne hne with hlt | hgt
    · exact List.getElem?_append_left hlt
    · have hbeyond : (h.objects ++ [Object.mk c (Fields.ofClass c) none]).length ≤ p.address := by
        rw [List.length_append, List.length_singleton]
        omega
      rw [List.getElem?_eq_none hbeyond, List.getElem?_eq_none (by omega)]
  · rw [handler?, object?_allocate]
    rfl
  · refine holdsDefaults_of_readSlot fun slot => ?_
    rw [readSlot, object?_allocate]
    rfl

/-- The constructors of a class that arises from the root run in one way only. Each superclass has one
constructor without parameters, so its body is there to run. Construction allocates the object with
the default values of its fields; then the bodies run on it one after the other, those of the
superclasses without arguments and from the root down, each class once, and last the one that was
asked for. The first that fails ends the construction as it does. An object that exists is initialised
by the same bodies on the heap as it is. -/
theorem Class.Built.constructs_from_root {c : Class} (hc : c.Built) (link : Linkage)
    (depth : Nat) :
    ∃ js : List Constructor,
      List.Forall₂ (fun d j => d.noArgConstructor? = some j ∧
        ∀ k, (k ∈ d.constructors ∧ k.params = []) ↔ k = j) c.superclassesFromRoot js ∧
      (c.superclassesFromRoot ++ [c]).Nodup ∧
      (∀ (o : ObjectRef) (k : Constructor) (args : List Value) (h g : Heap) (r : Except Halt Unit),
        o.cls = c → (Act.outcome (initialise link depth o k args) h = (r, g) ↔
          Program.InOrder (nested link depth)
            (js.map (Constructor.program link o []) ++ [k.program link o args]) h r g)) ∧
      ∀ k ∈ c.constructors, (∀ above, c.Above above ↔ above = c.superclassesFromRoot) ∧
        ∀ (args : List Value) (h : Heap), h.Gains (h.allocate c).1 (h.allocate c).2 ∧
          ∀ (g : Heap) (r : Except Halt ObjectRef),
            Act.outcome (construct link depth c k args) h = (r, g) ↔
              ∃ ended, r = ended.map (fun _ => (h.allocate c).1) ∧
                Program.InOrder (nested link depth)
                  (js.map (Constructor.program link (h.allocate c).1 []) ++
                    [k.program link (h.allocate c).1 args]) (h.allocate c).2 ended g := by
  have hrooted := hc.rooted
  obtain ⟨js, hjs⟩ := hc.forall₂_noArgConstructor
  have hruns := hjs.imp fun _ _ hj => hj.1
  refine ⟨js, hjs, ?_, ?_, fun k hk => ⟨fun above => ?_, fun args h => ⟨h.gains_allocate c, ?_⟩⟩⟩
  · rw [superclassesFromRoot_append, List.nodup_reverse]
    exact c.nodup_ancestors
  · rintro o k args h g r rfl
    exact outcome_initialise_eq_iff link depth hruns
  · -- an interface has no constructors
    have hordinary : c.kind = .ordinary := by
      cases hkind : c.kind with
      | ordinary => rfl
      | interface =>
          rw [(hrooted.interface hkind).2.1] at hk
          cases hk
    refine ⟨Above.eq_superclassesFromRoot, ?_⟩
    rintro rfl
    exact hrooted.above_superclassesFromRoot hordinary
  · intro g r
    exact outcome_construct_eq_iff link depth hruns

/-! ### A superclass that fails -/

namespace Samples

def deviceSpec : ClassSpec :=
  { ClassSpec.named "app.Device" .ordinary with constructors := [⟨[], .pub, some 0, none⟩] }

def device : Class := deviceSpec.described 1

def printerSpec : ClassSpec :=
  { ClassSpec.named "app.Printer" .ordinary with
    superclass := some device
    constructors := [⟨[.string], .pub, none, none⟩, ⟨[], .prot, some 1, none⟩] }

def printer : Class := printerSpec.described 2

def plotterSpec : ClassSpec :=
  { ClassSpec.named "app.Plotter" .ordinary with
    superclass := some printer
    constructors := [⟨[.primitive .int], .pub, some 2, none⟩]
    fields := [⟨"pens", .primitive .int, .priv, false, none⟩] }

def plotter : Class := plotterSpec.described 3

theorem built_plotter : plotter.Built := by
  have hdevice : deviceSpec.build 1 = .ok device := rfl
  have hprinter : printerSpec.build 2 = .ok printer := rfl
  have hplotter : plotterSpec.build 3 = .ok plotter := rfl
  have hbuilt : printer.Built := by
    refine .build ?_ (by simp [printerSpec, ClassSpec.named]) hprinter
    rintro s ⟨⟩
    exact .build (by simp [deviceSpec, ClassSpec.named]) (by simp [deviceSpec, ClassSpec.named])
      hdevice
  refine .build ?_ (by simp [plotterSpec, ClassSpec.named]) hplotter
  rintro s ⟨⟩
  exact hbuilt

/-- The constructors of devices and plotters announce themselves; that of printers may fail. -/
def announcing (jam : Option Exception) : Linkage
  | 0, _, _ => .record "device" (.done .null)
  | 1, _, _ => jam.elim (.record "printer" (.done .null)) .raise
  | _, _, _ => .record "plotter" (.done .null)

def plotterConstructor : Constructor := ⟨[.primitive .int], .pub, some 2, none⟩

/-- The construction of a plotter. -/
def plotting (jam : Option Exception) : Except Halt ObjectRef × Heap :=
  Act.outcome (construct (announcing jam) 0 plotter plotterConstructor [.int 4]) .empty

/-- The bodies run from the root down. When that of the printer fails, the device has announced itself
and the plotter does not. -/
theorem plotter_constructs_from_root : plotter.Built ∧ plotter.Above [.root, device, printer] ∧
    (plotting none).2.recorded = ["device", "printer", "plotter"] ∧
    ∃ js : List Constructor, js.map Constructor.body = [none, some 0, some 1] ∧
      ∃ g, g.recorded = ["device"] ∧
        plotting (some (.illegalState "jam")) = (.error (.threw (.illegalState "jam")), g) ∧
        Program.InOrder (nested (announcing (some (.illegalState "jam"))) 0)
          (js.map (Constructor.program (announcing (some (.illegalState "jam"))) ⟨0, plotter⟩ []) ++
            [.record "plotter" (.done .null)])
          (Heap.empty.allocate plotter).2 (.error (.threw (.illegalState "jam"))) g := by
  obtain ⟨js, hjs, -, -, hconstruct⟩ :=
    built_plotter.constructs_from_root (announcing (some (.illegalState "jam"))) 0
  obtain ⟨habove, hruns⟩ := hconstruct plotterConstructor List.mem_cons_self
  have hchain : plotter.superclassesFromRoot = [.root, device, printer] := rfl
  have hbodies : js.map Constructor.body = [none, some 0, some 1] := by
    rw [hchain] at hjs
    rcases hjs with _ | ⟨⟨hroot, -⟩, _ | ⟨⟨hdevice, -⟩, _ | ⟨⟨hprinter, -⟩, _ | _⟩⟩⟩
    cases hroot
    cases hdevice
    cases hprinter
    rfl
  obtain ⟨g, hrun⟩ : ∃ g, plotting (some (.illegalState "jam")) =
      (.error (.threw (.illegalState "jam")), g) := ⟨_, rfl⟩
  obtain ⟨ended, hended, horder⟩ := ((hruns [.int 4] .empty).2 g _).mp hrun
  have hthrew : ended = .error (.threw (.illegalState "jam")) := by
    cases ended <;> cases hended
    rfl
  have hrecorded : g.recorded = ["device"] := by
    have hheap : g = (plotting (some (.illegalState "jam"))).2 := by rw [hrun]
    rw [hheap]
    rfl
  exact ⟨built_plotter, (habove _).mpr hchain.symm, rfl, js, hbodies, g, hrecorded, hrun,
    hthrew ▸ horder⟩

end Samples

end Metaobject
