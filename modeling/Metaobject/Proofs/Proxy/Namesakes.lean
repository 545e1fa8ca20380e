import Metaobject.Proofs.Proxy.Factory

/-!
# Requests that share a class

Requests without a name are told apart by the names of what they ask for, so one that is made after
another of the same shape gets the class of that other. Every shape that a compiler has noted was
that of a request that it was asked for, and the class extends and implements what that request
named. It is what a later request of the shape asks for as long as no two classes of one name are
asked for; where there are two, the first one stays.
-/

namespace Metaobject

/-- The class that was noted for a shape was made for a request without a name that was made. -/
def ProxyCompiler.Remembers (pc : ProxyCompiler) (asked : ProxyRequest → Prop) : Prop :=
  ∀ e ∈ pc.shapes, ∃ p, pc.get? e.2 = some p ∧ p.request.shape = e.1 ∧
    p.request.name = none ∧ asked p.request

namespace Workshop

variable {w w' : Workshop} {serial : Nat} {q : ProxyRequest} {result : Except Failure ProxyClass}
  {asked : ProxyRequest → Prop}

theorem Compiles.remembers (h : w.Compiles serial q result w')
    (hw : w.compiler.Sound w.registry) (hremembers : w.compiler.Remembers asked) (hq : asked q) :
    w'.compiler.Remembers asked := by
  cases h with
  | refused invalid => exact hremembers
  | known assigned found =>
      obtain rfl := ProxyCompiler.Sound.found_of_assigns assigned found
      exact hremembers
  | @made name pc c methods r files assigned missing built defined =>
      have hmissing : w.compiler.get? name = none := by
        rwa [ProxyCompiler.get?, assigned.classes_eq] at missing
      -- a class is loaded under a name that had none, so what was noted before keeps its class
      have hold : ∀ e ∈ w.compiler.shapes, ∃ p,
          (w.compiler.load name ⟨serial, c, q, methods.map Method.signature⟩).get? e.2 = some p ∧
            p.request.shape = e.1 ∧ p.request.name = none ∧ asked p.request := by
        intro e he
        obtain ⟨p, hp, hrest⟩ := hremembers e he
        exact ⟨p, ProxyCompiler.get?_load_of_get? hmissing _ hp, hrest⟩
      rcases hw.missing_of_assigns assigned missing with ⟨-, rfl⟩ | ⟨hunnamed, -, n, rfl⟩
      · exact hold
      · intro e he
        rcases List.mem_append.mp he with he | he
        · exact hold e he
        · obtain rfl := List.mem_singleton.mp he
          exact ⟨_, ProxyCompiler.get?_load_self hmissing _, rfl, hunnamed, hq⟩
  | failed assigned missing =>
      obtain ⟨n, hn⟩ := hw.release_of_assigns assigned missing
      rw [hn]
      exact hremembers

/-- What a request without a name gets was made for it or for an earlier one of its shape. -/
theorem Compiles.request_eq_or_asked {p : ProxyClass} (h : w.Compiles serial q (.ok p) w')
    (hremembers : w.compiler.Remembers asked)
    (hunnamed : q.name = none) :
    p.request = q ∨ p.request.name = none ∧ p.request.shape = q.shape ∧ asked p.request := by
  cases h with
  | @known name pc _ assigned found =>
      right
      have hnoted := assigned.named_or_noted
      obtain rfl := ProxyCompiler.Sound.found_of_assigns assigned found
      rcases hnoted with hnamed | ⟨-, hnoted⟩
      · simp [hunnamed] at hnamed
      · obtain ⟨p', hp', hshape, hname, hasked⟩ := hremembers _ hnoted
        obtain rfl : p = p' := Option.some.inj (found.symm.trans hp')
        exact ⟨hname, hshape, hasked⟩
  | made assigned missing built defined => exact .inl rfl

end Workshop

namespace Factory

theorem remembers_run (files : DumpFiles) (calls : List Call) (i : Nat) (pc : ProxyCompiler)
    (hpc : ((initial files).run calls).compilers[i]? = some pc) :
    pc.Remembers fun q => ∃ serial, .compile i serial q ∈ calls := by
  refine compilers_run (P := fun i pc => pc.Remembers fun q => ∃ serial, .compile i serial q ∈ calls)
    (sound_initial files) (by simp [initial]) calls ?_ ?_ i pc hpc
  · intro i space dumpDir e he
    cases he
  · intro i serial q shop result shop' hcall hsound hshop hremembers
    exact hshop.remembers hsound hremembers ⟨serial, hcall⟩

/-- A request without a name gets a class that was made for it or for an earlier request of the same
compiler that names the same, so it gets what it asked for if those requests asked for the same
classes, and not only for classes of the same names. -/
theorem compile_unnamed {files : DumpFiles} {calls : List Call} {i serial : Nat} {q : ProxyRequest}
    {p : ProxyClass} (hunnamed : q.name = none)
    (hp : (((initial files).run calls).compile i serial q).1 = some (.ok p)) :
    p.cls.superclass = some p.request.base ∧ p.cls.interfaces = p.request.interfaces ∧
      p.request.shape = q.shape ∧
      (p.request = q ∨ p.request.name = none ∧ ∃ s, .compile i s p.request ∈ calls) ∧
      ((∀ s q', .compile i s q' ∈ calls → q'.name = none → q'.shape = q.shape →
          q'.base = q.base ∧ q'.interfaces = q.interfaces) →
        p.cls.superclass = some q.base ∧ p.cls.interfaces = q.interfaces) := by
  obtain ⟨hsound, -⟩ := (sound_initial files).run calls
  obtain ⟨pc, shop, hpc, hshop⟩ := compiles_of_compile hp
  have hcompiler := hsound.compilers pc (List.mem_of_getElem? hpc)
  have hmade : p.WellMade := (hshop.sound hcompiler).wellMade (hshop.get?_of_ok hcompiler)
  refine ⟨hmade.superclass, hmade.interfaces, ?_⟩
  rw [hmade.superclass, hmade.interfaces]
  rcases hshop.request_eq_or_asked (remembers_run files calls i pc hpc) hunnamed with
    rfl | ⟨hname, hshape, s, hasked⟩
  · exact ⟨rfl, .inl rfl, fun _ => ⟨rfl, rfl⟩⟩
  · refine ⟨hshape, .inr ⟨hname, s, hasked⟩, fun hsame => ?_⟩
    obtain ⟨hbase, hinterfaces⟩ := hsame s p.request hasked hname hshape
    exact ⟨congrArg some hbase, hinterfaces⟩

end Factory

/-! ### Two superclasses of one name -/

namespace Samples

def firstBase : Class :=
  { ClassSpec.named "app.Base" .ordinary with
    fields := [⟨"a", .primitive .int, .priv, false, none⟩] }.described 1

def secondBase : Class :=
  { ClassSpec.named "app.Base" .ordinary with
    fields := [⟨"b", .primitive .int, .priv, false, none⟩] }.described 2

def extending (c : Class) : ProxyRequest := ⟨[], some c, none, true⟩

def firstProxy : ProxyClass :=
  ⟨3, (ProxyCompiler.classSpec (extending firstBase) "dyn.Base$Proxy$0" []).described 3,
    extending firstBase, []⟩

theorem compile_unnamed_firstBase :
    (((Factory.initial ⟨[]⟩).run
        [.addCompiler "dyn" none, .compile 0 3 (extending firstBase)]).compile 0 4
          (extending firstBase)).1 = some (.ok firstProxy) ∧
      firstProxy.cls.superclass = some firstBase := by
  have hp : (((Factory.initial ⟨[]⟩).run
      [.addCompiler "dyn" none, .compile 0 3 (extending firstBase)]).compile 0 4
        (extending firstBase)).1 = some (.ok firstProxy) := rfl
  obtain ⟨-, -, -, -, hsame⟩ := Factory.compile_unnamed rfl hp
  refine ⟨hp, (hsame ?_).1⟩
  intro s q' hcall _ _
  obtain ⟨-, -, rfl⟩ : 0 = 0 ∧ s = 3 ∧ q' = extending firstBase := by simpa using hcall
  exact ⟨rfl, rfl⟩

/-- The class that was made for the first superclass is given to a request for the second. -/
theorem secondBase_gets_firstBase :
    ¬ ∀ (files : DumpFiles) (calls : List Factory.Call) (i serial : Nat) (q : ProxyRequest)
        (p : ProxyClass), q.name = none →
      (((Factory.initial files).run calls).compile i serial q).1 = some (.ok p) →
      p.cls.superclass = some q.base ∧ p.cls.interfaces = q.interfaces := by
  intro h
  obtain ⟨hsuper, -⟩ := h ⟨[]⟩ [.addCompiler "dyn" none, .compile 0 3 (extending firstBase)] 0 4
    (extending secondBase) _ rfl rfl
  have hbases : firstBase = secondBase := Option.some.inj hsuper
  exact absurd (congrArg Class.id hbases) (by decide)

end Samples

end Metaobject
