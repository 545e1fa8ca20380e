import Metaobject.Proofs.Hierarchy
import Metaobject.Proofs.Proxy.Atomicity

/-!
# What a request comes to

A request for a proxy class has one of four answers. It is refused when its superclass is an
interface. It cannot be compiled when one of its interfaces is none, or when the class is still to be
made and cannot be. Its class is a duplicate when its own name means another class. Otherwise it is
answered with the class of its name. No other failure of the builder or of the registry gets out.
-/

namespace Metaobject

/-! ## What can be wrong with a class that is to be made -/

/-- No class can be made for the request, whatever name a class without one would get. -/
def ProxyRequest.Faulty (q : ProxyRequest) : Prop :=
  (¬ ∃ k ∈ q.base.constructors, k.params = [] ∧ k.visibility ≠ .priv) ∨
    (∃ m ∈ q.base.interceptedMethods q.interfaces,
      Text.isBlank m.name = true ∨ TypeRef.void ∈ m.params) ∨
    ∃ name, q.name = some name ∧ Text.isBlank name = true

theorem Method.interceptionFault?_eq_none_iff {m : Method} : m.interceptionFault? = none ↔
    ¬ (Text.isBlank m.name = true ∨ TypeRef.void ∈ m.params) := by
  unfold interceptionFault?
  by_cases hblank : Text.isBlank m.name = true
  · simp [hblank]
  · by_cases hvoid : TypeRef.void ∈ m.params <;> simp [hblank, hvoid]

namespace ProxyRequest

variable {q : ProxyRequest}

theorem built_base (h : ∀ s ∈ q.superclass, s.Built) : q.base.Built := by
  cases hs : q.superclass with
  | none => simpa [base, hs] using Class.Built.root
  | some s => simpa [base, hs] using h s hs

theorem fault?_eq_none_iff (hbase : q.base.Built) {name : String}
    (hname : Text.isBlank name = true ↔ ∃ given, q.name = some given ∧ Text.isBlank given = true) :
    q.fault? name = none ↔ ¬ q.Faulty := by
  have hconstructor : (q.base.noArgConstructor?.any fun k => k.visibility ≠ .priv) = true ↔
      ∃ k ∈ q.base.constructors, k.params = [] ∧ k.visibility ≠ .priv := by
    rw [Option.any_eq_true]
    simp [hbase.rooted.noArgConstructor?_eq_some_iff, and_assoc]
  have hmethods :
      (q.base.interceptedMethods q.interfaces).findSome? Method.interceptionFault? = none ↔
        ¬ ∃ m ∈ q.base.interceptedMethods q.interfaces,
          Text.isBlank m.name = true ∨ TypeRef.void ∈ m.params := by
    simp [List.findSome?_eq_none_iff, Method.interceptionFault?_eq_none_iff]
  have hvisible : (if Text.isBlank name then some (CompilationFault.defect .blankName) else none) =
      none ↔ ¬ Text.isBlank name = true := by
    cases Text.isBlank name <;> simp
  rw [fault?, Faulty, ← hname, not_or, not_or, not_not, ← hconstructor]
  by_cases hcallable : (q.base.noArgConstructor?.any fun k => k.visibility ≠ .priv) = true
  · rw [if_pos hcallable, Option.or_eq_none_iff, hmethods, hvisible]
    exact (and_iff_right hcallable).symm
  · rw [if_neg hcallable]
    exact iff_of_false (Option.some_ne_none _) fun h => hcallable h.1

/-- A fault under the name of the request, or under a name that is visible where it has none. -/
theorem exists_fault?_iff (hbase : q.base.Built) {name : String}
    (hname : q.name = some name ∨ q.name = none ∧ Text.isBlank name = false) :
    (∃ cause, q.fault? name = some cause) ↔ q.Faulty := by
  have hblank : Text.isBlank name = true ↔
      ∃ given, q.name = some given ∧ Text.isBlank given = true := by
    rcases hname with hgiven | ⟨hunnamed, hvisible⟩
    · simp [hgiven]
    · simp [hunnamed, hvisible]
  rw [← not_iff_not, ← fault?_eq_none_iff hbase hblank, not_exists]
  exact Option.eq_none_iff_forall_ne_some.symm

end ProxyRequest

/-! ## The four answers -/

namespace ProxyCompiler

variable (pc : ProxyCompiler) (r : Registry) (q : ProxyRequest)

/-- The name of the class for a request, as far as it is settled: the request's own, or the one that
was noted for its shape. -/
def target? : Option String := q.name.or (pc.shapes.lookup q.shape)

/-- One of the interfaces is none, or the class is still to be made and cannot be. -/
def Uncompilable : Prop :=
  (∃ i ∈ q.interfaces, i.kind ≠ .interface) ∨
    (pc.target? q).bind pc.get? = none ∧ q.Faulty

/-- The request's own name means a class that the compiler has not made. -/
def Duplicates : Prop :=
  ∃ name, q.name = some name ∧ pc.get? name = none ∧ r.contains name = true

inductive Answers : Except Failure ProxyClass → Prop
  | refused (interface : q.base.kind = .interface) :
      Answers (.error (.invalidSuperclass q.base.name))
  | uncompilable {target : String} {cause : CompilationFault}
      (ordinary : q.base.kind = .ordinary) (uncompilable : pc.Uncompilable q) :
      Answers (.error (.compilationFailure target cause))
  | duplicate {name : String} (ordinary : q.base.kind = .ordinary)
      (compilable : ¬ pc.Uncompilable q) (duplicates : pc.Duplicates r q)
      (given : q.name = some name) : Answers (.error (.duplicateClass name))
  | made {p : ProxyClass} (ordinary : q.base.kind = .ordinary) (compilable : ¬ pc.Uncompilable q)
      (unique : ¬ pc.Duplicates r q) (named : ∀ name, pc.target? q = some name → p.name = name) :
      Answers (.ok p)

end ProxyCompiler

namespace Workshop

variable {w w' : Workshop} {q : ProxyRequest} {serial : Nat}

theorem checkRequest_cases (q : ProxyRequest) :
    (q.base.kind = .interface ∧ checkRequest q = .error (.invalidSuperclass q.base.name)) ∨
    (q.base.kind = .ordinary ∧ ∃ i ∈ q.interfaces, i.kind ≠ .interface ∧
      checkRequest q = .error (.compilationFailure i.name .targetNotInterface)) ∨
    (q.base.kind = .ordinary ∧ (∀ i ∈ q.interfaces, i.kind = .interface) ∧
      checkRequest q = .ok ()) := by
  cases hkind : q.base.kind with
  | interface =>
      have hbase : q.base.isInterface = true := by simp [Class.isInterface, hkind]
      exact .inl ⟨rfl, by rw [checkRequest, if_pos hbase]⟩
  | ordinary =>
      have hbase : q.base.isInterface = false := Class.isInterface_eq_false_iff.mpr hkind
      right
      rw [checkRequest, hbase, if_neg Bool.false_ne_true]
      cases hfind : q.interfaces.find? fun i => !i.isInterface with
      | some i =>
          have hi : i.kind ≠ .interface := by
            simpa [Class.isInterface] using List.find?_some hfind
          exact .inl ⟨rfl, i, List.mem_of_find?_eq_some hfind, hi, rfl⟩
      | none =>
          refine .inr ⟨rfl, fun i hi => ?_, rfl⟩
          simpa [Class.isInterface] using List.find?_eq_none.mp hfind i hi

theorem Compiles.name_of_target {p : ProxyClass} (h : w.Compiles serial q (.ok p) w')
    (hw : w.compiler.Sound w.registry) {name : String} (hname : w.compiler.target? q = some name) :
    p.name = name := by
  have hsettled : q.name = some name ∨ q.name = none ∧ (q.shape, name) ∈ w.compiler.shapes := by
    rcases Option.or_eq_some_iff.mp hname with hgiven | ⟨hunnamed, hshape⟩
    · exact .inl hgiven
    · exact .inr ⟨hunnamed, ProxyCompiler.mem_shapes_of_lookup hshape⟩
  cases h with
  | known assigned found =>
      obtain ⟨rfl, rfl⟩ := hw.eq_of_assigns assigned hsettled
      exact hw.named found
  | made assigned missing built defined =>
      obtain ⟨rfl, rfl⟩ := hw.eq_of_assigns assigned hsettled
      exact ProxyCompiler.name_of_buildClass built

/-- A request that is answered with a class has nothing wrong with it. -/
theorem not_fails_of_ok {p : ProxyClass} (h : (w.compile serial q).value.1 = .ok p) (e : Failure) :
    ¬ w.Fails q e := by
  intro hfails
  obtain ⟨e', he', -⟩ := hfails.exists_alike serial
  rw [h] at he'
  cases he'

theorem exists_fails_of_faulty (hw : w.compiler.Sound w.registry) (hbase : q.base.Built)
    (hvalid : checkRequest q = .ok ())
    (hmissing : (w.compiler.target? q).bind w.compiler.get? = none) (hfaulty : q.Faulty) :
    ∃ e, w.Fails q e := by
  cases hgiven : q.name with
  | some name =>
      rw [ProxyCompiler.target?, hgiven] at hmissing
      obtain ⟨cause, hfault⟩ := (ProxyRequest.exists_fault?_iff hbase (.inl hgiven)).mpr hfaulty
      exact ⟨_, .named hvalid hgiven hmissing (.inl ⟨cause, hfault, rfl⟩)⟩
  | none =>
      rw [ProxyCompiler.target?, hgiven, Option.none_or] at hmissing
      cases hshape : w.compiler.shapes.lookup q.shape with
      | some name =>
          -- a shape that was noted has its class
          obtain ⟨p, hp, -⟩ := hw.recorded _ (ProxyCompiler.mem_shapes_of_lookup hshape)
          rw [hshape, Option.bind_some, hp] at hmissing
          cases hmissing
      | none =>
          have hvisible := w.compiler.isBlank_numbered (ProxyCompiler.baseName q) 0
          obtain ⟨cause, hfault⟩ :=
            (ProxyRequest.exists_fault?_iff hbase (.inr ⟨hgiven, hvisible⟩)).mpr hfaulty
          exact ⟨_, .unnamed hvalid hgiven hshape hvisible hfault⟩

theorem answers_compile (hw : w.compiler.Sound w.registry) (hbuilt : ∀ s ∈ q.superclass, s.Built)
    (serial : Nat) : w.compiler.Answers w.registry q (w.compile serial q).value.1 := by
  have hbase : q.base.Built := ProxyRequest.built_base hbuilt
  rcases checkRequest_cases q with ⟨hkind, hcheck⟩ | ⟨hkind, i, hi, hne, hcheck⟩ |
    ⟨hkind, hinterfaces, hvalid⟩
  · rw [value_compile, hcheck]
    exact .refused hkind
  · rw [value_compile, hcheck]
    exact .uncompilable hkind (.inl ⟨i, hi, hne⟩)
  · have huncompilable : w.compiler.Uncompilable q ↔
        (w.compiler.target? q).bind w.compiler.get? = none ∧ q.Faulty :=
      or_iff_right fun ⟨i, hi, hne⟩ => hne (hinterfaces i hi)
    cases hresult : (w.compile serial q).value.1 with
    | ok p =>
        have hfails := not_fails_of_ok hresult
        have hcompiles := hresult ▸ compiles_compile w serial q
        refine .made hkind (fun h => ?_) (fun h => ?_) fun name => hcompiles.name_of_target hw
        · obtain ⟨hmissing, hfaulty⟩ := huncompilable.mp h
          obtain ⟨e, he⟩ := exists_fails_of_faulty hw hbase hvalid hmissing hfaulty
          exact hfails e he
        · obtain ⟨name, hgiven, hmissing, hdefined⟩ := h
          cases hfault : q.fault? name with
          | some cause => exact hfails _ (.named hvalid hgiven hmissing (.inl ⟨cause, hfault, rfl⟩))
          | none => exact hfails _ (.named hvalid hgiven hmissing (.inr ⟨hfault, hdefined, rfl⟩))
    | error e =>
        cases fails_of_error hw hresult with
        | refused invalid => cases hvalid.symm.trans invalid
        | @named name e _ given missing fault =>
            have hsettled : (w.compiler.target? q).bind w.compiler.get? = none := by
              rw [ProxyCompiler.target?, given]
              exact missing
            have hfaulty := ProxyRequest.exists_fault?_iff hbase (.inl given)
            rcases fault with ⟨cause, hfault, rfl⟩ | ⟨hnone, hdefined, rfl⟩
            · exact .uncompilable hkind (huncompilable.mpr ⟨hsettled, hfaulty.mp ⟨cause, hfault⟩⟩)
            · refine .duplicate hkind (fun h => ?_) ⟨name, given, missing, hdefined⟩ given
              obtain ⟨cause, hfault⟩ := hfaulty.mpr (huncompilable.mp h).2
              cases hnone.symm.trans hfault
        | @unnamed name cause _ unnamed unknown visible fault =>
            refine .uncompilable hkind (huncompilable.mpr ⟨?_, ?_⟩)
            · rw [ProxyCompiler.target?, unnamed, unknown]
              rfl
            · exact (ProxyRequest.exists_fault?_iff hbase (.inr ⟨unnamed, visible⟩)).mp ⟨_, fault⟩

end Workshop

namespace ProxyCompiler

variable {pc : ProxyCompiler} {r : Registry} {q : ProxyRequest}

theorem Sound.target?_eq_some (h : pc.Sound r) {name : String}
    (hname : q.name = some name ∨ q.name = none ∧ (q.shape, name) ∈ pc.shapes) :
    pc.target? q = some name := by
  rcases hname with hgiven | ⟨hunnamed, hmem⟩
  · rw [target?, hgiven, Option.some_or]
  · rw [target?, hunnamed, Option.none_or]
    cases hshape : pc.shapes.lookup q.shape with
    | none => simpa using List.lookup_eq_none_iff.mp hshape _ hmem
    | some other =>
        have hother := mem_shapes_of_lookup hshape
        exact congrArg some (congrArg Prod.snd (List.inj_on_of_nodup_map h.once hother hmem rfl))

/-- What the answer to a request tells about it: each answer is given under its own condition only. -/
structure Verdict (pc : ProxyCompiler) (r : Registry) (q : ProxyRequest)
    (result : Except Failure ProxyClass) : Prop where
  invalidSuperclass_iff :
    (∃ target, result = .error (.invalidSuperclass target)) ↔ q.base.kind = .interface
  compilationFailure_iff : (∃ target cause, result = .error (.compilationFailure target cause)) ↔
    q.base.kind = .ordinary ∧ pc.Uncompilable q
  duplicateClass_iff : (∃ target, result = .error (.duplicateClass target)) ↔
    q.base.kind = .ordinary ∧ ¬ pc.Uncompilable q ∧ pc.Duplicates r q
  ok_iff : (∃ p, result = .ok p) ↔
    q.base.kind = .ordinary ∧ ¬ pc.Uncompilable q ∧ ¬ pc.Duplicates r q
  /-- There are no other failures, and only a request with a name is a duplicate. -/
  error_cases : ∀ {e}, result = .error e → e = .invalidSuperclass q.base.name ∨
    (∃ target cause, e = .compilationFailure target cause) ∨
      ∃ name, q.name = some name ∧ e = .duplicateClass name

theorem Answers.verdict {result : Except Failure ProxyClass} (h : pc.Answers r q result) :
    pc.Verdict r q result := by
  cases h with
  | refused interface => constructor <;> simp [interface]
  | uncompilable ordinary uncompilable => constructor <;> simp [ordinary, uncompilable]
  | duplicate ordinary compilable duplicates given =>
      constructor <;> simp [ordinary, compilable, duplicates, given]
  | made ordinary compilable unique => constructor <;> simp [ordinary, compilable, unique]

end ProxyCompiler

namespace Factory

/-- A compiler of the factory answers a request, and a class that it answers with has the name that
is given or noted for the request. -/
structure Decides (w : Factory) (i serial : Nat) (pc : ProxyCompiler) (q : ProxyRequest)
    (result : Except Failure ProxyClass) : Prop where
  answer : (w.compile i serial q).1 = some result
  verdict : pc.Verdict w.registry q result
  named : ∀ {p name}, result = .ok p → pc.target? q = some name → p.name = name
  noted : ∀ {p}, result = .ok p → ∃ pc', (w.compile i serial q).2.compilers[i]? = some pc' ∧
    pc'.target? q = some p.name

theorem Sound.decides {w : Factory} (h : w.Sound) {i : Nat} {pc : ProxyCompiler}
    (hpc : w.compilers[i]? = some pc) (serial : Nat) {q : ProxyRequest}
    (hbuilt : ∀ s ∈ q.superclass, s.Built) : ∃ result, w.Decides i serial pc q result := by
  have hcompiler : pc.Sound w.registry := h.compilers pc (List.mem_of_getElem? hpc)
  have hanswers := Workshop.answers_compile (w := ⟨pc, w.registry, w.files⟩) hcompiler hbuilt serial
  have hcompiles := Workshop.compiles_compile ⟨pc, w.registry, w.files⟩ serial q
  refine ⟨_, congrArg Prod.fst (compile_eq hpc serial q), hanswers.verdict, fun hp hname => ?_,
    fun hp => ?_⟩
  · exact (hp ▸ hcompiles).name_of_target hcompiler hname
  · rw [compile_eq hpc]
    have hafter := hcompiles.sound hcompiler
    exact ⟨_, getElem?_set_compiler hpc _,
      hafter.target?_eq_some ((hp ▸ hcompiles).named_or_noted hcompiler)⟩

/-- Whatever a factory has been asked for, each of its compilers answers every request. The superclass
is reported exactly when it is an interface. Otherwise compilation fails exactly when an interface is
none, or when the compiler has no class for the name of the request, or for the one that was noted for
its shape, and the superclass has no constructor without parameters that is not private, a method has
a blank name or a void parameter, or the name that was given is blank. Otherwise the class is a
duplicate exactly when the name that was given is in the registry but not the compiler's. Otherwise
there is a class, under the name that was given or is noted for the shape. No other failure occurs, and
a request without a name is never a duplicate. -/
theorem compile_answers (files : DumpFiles) (calls : List Call) {i : Nat} {pc : ProxyCompiler}
    (hpc : ((initial files).run calls).compilers[i]? = some pc) (serial : Nat) {q : ProxyRequest}
    (hbuilt : ∀ s ∈ q.superclass, s.Built) :
    ∃ result, ((initial files).run calls).Decides i serial pc q result := by
  obtain ⟨hsound, -⟩ := (sound_initial files).run calls
  exact hsound.decides hpc serial hbuilt

end Factory

/-! ### The name of another compiler's class -/

namespace Samples

/-- A request by the name of the class that the first compiler has made. -/
def takenGreeting : ProxyRequest := { greeting with name := some "dyn.Greeter$Proxy$0" }

/-- The second compiler may not take the name. The first one has the class, and so nothing is wrong
with the request there. A method with a void parameter is a fault for both. -/
theorem compile_answers_greetings :
    ∃ pc pc', greetings.compilers[0]? = some pc ∧ greetings.compilers[1]? = some pc' ∧
      ¬ pc.Duplicates greetings.registry takenGreeting ∧
      ¬ pc'.Uncompilable takenGreeting ∧ pc'.Duplicates greetings.registry takenGreeting ∧
      pc'.Uncompilable absorbing := by
  obtain ⟨pc, hpc⟩ : ∃ pc, greetings.compilers[0]? = some pc := ⟨_, rfl⟩
  obtain ⟨pc', hpc'⟩ : ∃ pc', greetings.compilers[1]? = some pc' := ⟨_, rfl⟩
  obtain ⟨p, hmade⟩ : ∃ p, (greetings.compile 0 5 takenGreeting).1 = some (.ok p) := ⟨_, rfl⟩
  have hrefused : (greetings.compile 1 5 takenGreeting).1 =
      some (.error (.duplicateClass "dyn.Greeter$Proxy$0")) := rfl
  have hfailed : (greetings.compile 1 5 absorbing).1 = some (.error
      (.compilationFailure "dyn.Absorber$Proxy$2" (.voidParameter "absorb" [.void]))) := rfl
  obtain ⟨r, hkept⟩ :=
    Factory.compile_answers ⟨[]⟩ greetingCalls hpc 5 (q := takenGreeting) (by rintro s ⟨⟩)
  obtain ⟨r', htaken⟩ :=
    Factory.compile_answers ⟨[]⟩ greetingCalls hpc' 5 (q := takenGreeting) (by rintro s ⟨⟩)
  obtain ⟨f, hfaulty⟩ :=
    Factory.compile_answers ⟨[]⟩ greetingCalls hpc' 5 (q := absorbing) (by rintro s ⟨⟩)
  obtain rfl := Option.some.inj (hmade.symm.trans hkept.answer)
  obtain rfl := Option.some.inj (hrefused.symm.trans htaken.answer)
  obtain rfl := Option.some.inj (hfailed.symm.trans hfaulty.answer)
  obtain ⟨-, -, hunique⟩ := hkept.verdict.ok_iff.mp ⟨p, rfl⟩
  obtain ⟨-, hcompilable, hduplicates⟩ := htaken.verdict.duplicateClass_iff.mp ⟨_, rfl⟩
  obtain ⟨-, huncompilable⟩ := hfaulty.verdict.compilationFailure_iff.mp ⟨_, _, rfl⟩
  exact ⟨pc, pc', hpc, hpc', hunique, hcompilable, hduplicates, huncompilable⟩

end Samples

end Metaobject
