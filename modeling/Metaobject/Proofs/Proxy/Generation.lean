import Metaobject.Proofs.Building
import Metaobject.Proofs.Outcome
import Metaobject.Proofs.Resolution
import Metaobject.Proxy.Compiler

/-!
# Generated classes

The methods that a proxy class intercepts have different signatures, and none of them is final or
synthetic. A class that is generated for a request is open to handles and synthetic, extends the
superclass and implements the interfaces of the request, and each of its methods hands its calls to
the handler.
-/

namespace Metaobject

/-! ## Intercepted methods -/

namespace Method

theorem sameSignature_eq_false_iff {m n : Method} :
    m.sameSignature n = false ↔ (m.name, m.params) ≠ (n.name, n.params) := by
  simp [sameSignature]

end Method

/-- What is selected comes from the methods given, is neither final nor synthetic, and has a
signature that was not seen before. -/
theorem of_mem_selectUnseen {seen ms : List Method} {m : Method} (h : m ∈ selectUnseen seen ms) :
    m ∈ ms ∧ m.isSynthetic = false ∧ m.isFinal = false ∧
      ∀ n ∈ seen, n.sameSignature m = false := by
  induction ms generalizing seen with
  | nil => simp [selectUnseen] at h
  | cons n ns ih =>
      rw [selectUnseen] at h
      split at h
      · obtain ⟨hmem, hrest⟩ := ih h
        exact ⟨List.mem_cons_of_mem _ hmem, hrest⟩
      · rename_i hnew
        rcases List.mem_cons.mp h with rfl | h
        · simp only [Bool.or_eq_true, List.any_eq_true, not_or, not_exists, not_and,
            Bool.not_eq_true] at hnew
          exact ⟨List.mem_cons_self, hnew.1.1, hnew.1.2, hnew.2⟩
        · obtain ⟨hmem, hsynthetic, hfinal, hseen⟩ := ih h
          exact ⟨List.mem_cons_of_mem _ hmem, hsynthetic, hfinal,
            fun k hk => hseen k (List.mem_cons_of_mem _ hk)⟩

theorem pairwise_selectUnseen (seen ms : List Method) :
    (selectUnseen seen ms).Pairwise fun m n => m.sameSignature n = false := by
  induction ms generalizing seen with
  | nil => exact .nil
  | cons m ms ih =>
      rw [selectUnseen]
      split
      · exact ih seen
      · exact .cons (fun n hn => (of_mem_selectUnseen hn).2.2.2 m List.mem_cons_self) (ih _)

theorem nodup_selectUnseen (seen ms : List Method) :
    ((selectUnseen seen ms).map fun m => (m.name, m.params)).Nodup :=
  List.pairwise_map.mpr ((pairwise_selectUnseen seen ms).imp Method.sameSignature_eq_false_iff.mp)

/-! ## The class for a request -/

/-- A proxy class is what its request asks for. -/
structure ProxyClass.WellMade (p : ProxyClass) : Prop where
  synthetic : p.cls.isSynthetic = true
  openToHandles : p.cls.openToHandles = true
  superclass : p.cls.superclass = some p.request.base
  interfaces : p.cls.interfaces = p.request.interfaces
  constructors : p.cls.constructors = [.implicit]
  fields : p.cls.fields = []
  distinct : (p.cls.methods.map fun m => (m.name, m.params)).Nodup
  plain : ∀ m ∈ p.cls.methods, m.isAbstract = false ∧ m.isFinal = false ∧ m.isSynthetic = false
  forwards : ∀ m ∈ p.cls.methods, m.body = some .forward
  intercepted : p.intercepted = p.cls.methods.map Method.signature

namespace ProxyCompiler

theorem build_of_buildClass {q : ProxyRequest} {name : String} {id : Nat} {c : Class}
    {methods : List Method} (h : buildClass q name id = .ok (c, methods)) :
    methods = q.base.interceptedMethods q.interfaces ∧
      (classSpec q name methods).build id = .ok c := by
  simp only [buildClass, bind, Except.bind] at h
  split at h
  · cases h
  · split at h
    · cases h
    · split at h
      · rename_i hbuild
        obtain ⟨rfl, rfl⟩ := Prod.mk.inj (Except.ok.inj h)
        exact ⟨rfl, hbuild⟩
      · cases h

theorem buildClass_eq_ok {q : ProxyRequest} {name : String} {id : Nat} {c : Class}
    {methods : List Method} (h : buildClass q name id = .ok (c, methods)) :
    methods = q.base.interceptedMethods q.interfaces ∧
      c = (classSpec q name methods).described id := by
  obtain ⟨hmethods, hbuild⟩ := build_of_buildClass h
  exact ⟨hmethods, (ClassSpec.build_eq_ok_iff.mp hbuild).2.2.2.2⟩

theorem name_of_buildClass {q : ProxyRequest} {name : String} {id : Nat} {c : Class}
    {methods : List Method} (h : buildClass q name id = .ok (c, methods)) : c.name = name := by
  rw [(buildClass_eq_ok h).2]
  rfl

theorem wellMade_of_buildClass {q : ProxyRequest} {name : String} {id serial : Nat} {c : Class}
    {methods : List Method} (h : buildClass q name id = .ok (c, methods)) :
    ProxyClass.WellMade ⟨serial, c, q, methods.map Method.signature⟩ := by
  obtain ⟨hmethods, rfl⟩ := buildClass_eq_ok h
  have hdeclared : ((classSpec q name methods).described id).methods =
      methods.map Method.forwarding := rfl
  have hmember {m : Method} (hm : m ∈ ((classSpec q name methods).described id).methods) :
      ∃ n : Method, m = n.forwarding := by
    obtain ⟨n, -, rfl⟩ := List.mem_map.mp (hdeclared ▸ hm)
    exact ⟨n, rfl⟩
  refine ⟨rfl, rfl, rfl, rfl, rfl, rfl, ?_, ?_, ?_, ?_⟩
  · rw [hdeclared, List.map_map, hmethods]
    exact nodup_selectUnseen _ _
  · intro m hm
    obtain ⟨n, rfl⟩ := hmember hm
    exact ⟨rfl, rfl, rfl⟩
  · intro m hm
    obtain ⟨n, rfl⟩ := hmember hm
    rfl
  · rw [hdeclared, List.map_map]
    rfl

theorem generate_eq_ok {dumpDir : Option String} {registry registry' : Registry}
    {files files' : DumpFiles} {serial : Nat} {q : ProxyRequest} {name : String} {p : ProxyClass}
    (h : Attempt.outcome (generate dumpDir registry files serial q name) =
      .ok (p, registry', files')) :
    ∃ c methods, buildClass q name serial = .ok (c, methods) ∧
      registry.insert? c = .ok registry' ∧
      p = ⟨serial, c, q, methods.map Method.signature⟩ := by
  unfold generate at h
  rw [Attempt.outcome_report_bind, Attempt.outcome_bind_eq_ok] at h
  obtain ⟨⟨c, methods⟩, hbuild, h⟩ := h
  obtain ⟨r, hdefine, h⟩ := Attempt.outcome_bind_eq_ok.mp h
  rw [Registry.outcome_define] at hdefine
  cases dumpDir <;>
    (obtain ⟨fs, -, h⟩ := Attempt.outcome_bind_eq_ok.mp h
     rw [Attempt.outcome_report_bind, Attempt.outcome_pure] at h
     cases h
     exact ⟨c, methods, hbuild, hdefine, rfl⟩)

end ProxyCompiler

end Metaobject
