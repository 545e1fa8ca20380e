import Metaobject.Proofs.Proxy.Generation

/-!
# Why a proxy class cannot be made

Once the superclass is a class and the interfaces are interfaces, a class is built unless the
superclass has no constructor that it can use, a method cannot be intercepted, or the name is blank.
Which of these it is depends on the name only through whether it is blank, and a class that was built
is refused only by a registry that has its name. Where descriptions are written has no part in it.
-/

namespace Metaobject

/-! ## Faults of a request -/

/-- What is wrong with a method that is to be intercepted. -/
def Method.interceptionFault? (m : Method) : Option CompilationFault :=
  if Text.isBlank m.name then some .blankMethodName
  else if m.params.contains .void then some (.voidParameter m.name m.params)
  else none

/-- Why no class of the name can be built for a request that is valid otherwise. -/
def ProxyRequest.fault? (q : ProxyRequest) (name : String) : Option CompilationFault :=
  if q.base.noArgConstructor?.any fun k => k.visibility ≠ .priv then
    ((q.base.interceptedMethods q.interfaces).findSome? Method.interceptionFault?).or
      (if Text.isBlank name then some (.defect .blankName) else none)
  else some (.superclassConstructor q.base.name)

theorem ProxyRequest.fault?_congr (q : ProxyRequest) {name name' : String}
    (h : Text.isBlank name = Text.isBlank name') : q.fault? name = q.fault? name' := by
  rw [fault?, fault?, h]

theorem Method.forM_checkInterceptable (className : String) (ms : List Method) :
    ms.forM (checkInterceptable className) = match ms.findSome? interceptionFault? with
      | some cause => .error (.compilationFailure className cause)
      | none => .ok () := by
  induction ms with
  | nil => rfl
  | cons m ms ih =>
      have hcheck : checkInterceptable className m = match m.interceptionFault? with
          | some cause => .error (.compilationFailure className cause)
          | none => .ok () := by
        unfold checkInterceptable interceptionFault?
        split
        · rfl
        · split <;> rfl
      have hcons : (m :: ms).forM (checkInterceptable className) =
          checkInterceptable className m >>= fun _ => ms.forM (checkInterceptable className) := rfl
      rw [hcons, hcheck, List.findSome?_cons]
      cases m.interceptionFault? with
      | some cause => rfl
      | none => exact ih

namespace Workshop

theorem checkRequest_eq_ok_iff {q : ProxyRequest} :
    checkRequest q = .ok () ↔
      q.base.isInterface = false ∧ ∀ i ∈ q.interfaces, i.isInterface = true := by
  unfold checkRequest
  by_cases hbase : q.base.isInterface = true
  · simp [hbase]
  · rw [if_neg hbase]
    cases hfind : q.interfaces.find? fun i => !i.isInterface with
    | some i =>
        have hi : i.isInterface = false := by simpa using List.find?_some hfind
        have hmem : i ∈ q.interfaces := List.mem_of_find?_eq_some hfind
        simp only [reduceCtorEq, false_iff, not_and]
        exact fun _ hall => by simp [hall i hmem] at hi
    | none => simpa [hbase] using hfind

end Workshop

namespace ProxyCompiler

/-- For a valid request with a constructor to call, the builder finds nothing wrong but the name. -/
theorem build_classSpec {q : ProxyRequest} (hvalid : Workshop.checkRequest q = .ok ())
    (hconstructor : q.base.noArgConstructor?.isSome = true) (name : String) (methods : List Method)
    (id : Nat) :
    (classSpec q name methods).build id =
      if Text.isBlank name then .error (.invalidMetadata name .blankName)
      else .ok ((classSpec q name methods).described id) := by
  obtain ⟨hbase, hinterfaces⟩ := Workshop.checkRequest_eq_ok_iff.mp hvalid
  by_cases hblank : Text.isBlank name = true
  · have hname : (classSpec q name methods).checkName = .error (.invalidMetadata name .blankName) := by
      simp [ClassSpec.checkName, classSpec, hblank, ClassSpec.defective]
    rw [if_pos hblank, ClassSpec.build, hname]
    rfl
  · rw [if_neg hblank, ClassSpec.build_eq_ok_iff]
    refine ⟨?_, ?_, ?_, rfl, rfl⟩
    · simp [ClassSpec.checkName, classSpec, hblank]
    · have hfind : q.interfaces.find? (fun i => !i.isInterface) = none := by
        simpa using hinterfaces
      simp [ClassSpec.checkInterfaces, classSpec, hfind]
    · have hsome : q.base.noArgConstructor?.isNone = false := by simpa using hconstructor
      simp [ClassSpec.checkKind, classSpec, hbase, hsome]

/-- A class is built for a valid request unless there is a fault, which the failure names together
with the class. -/
theorem buildClass_eq {q : ProxyRequest} (hvalid : Workshop.checkRequest q = .ok ()) (name : String)
    (id : Nat) :
    buildClass q name id = match q.fault? name with
      | some cause => .error (.compilationFailure name cause)
      | none =>
          let methods := q.base.interceptedMethods q.interfaces
          .ok ((classSpec q name methods).described id, methods) := by
  unfold buildClass ProxyRequest.fault?
  -- the constructor is looked for before the methods are checked and the builder sees the name
  by_cases hconstructor : q.base.noArgConstructor?.any (fun k => k.visibility ≠ .priv) = true
  · have hsome : q.base.noArgConstructor?.isSome = true := by
      cases hfind : q.base.noArgConstructor? with
      | none => simp [hfind] at hconstructor
      | some k => rfl
    simp only [hconstructor, Bool.not_true, Bool.false_eq_true, if_false, if_true,
      Method.forM_checkInterceptable, build_classSpec hvalid hsome]
    cases (q.base.interceptedMethods q.interfaces).findSome? Method.interceptionFault? with
    | some cause => rfl
    | none => cases Text.isBlank name <;> rfl
  · simp only [hconstructor, Bool.not_false, if_true, Bool.false_eq_true, if_false]
    rfl

/-! ## What becomes of a request under a name -/

/-- The class for a request, and the registry once the class is defined. -/
def product (registry : Registry) (serial : Nat) (q : ProxyRequest) (name : String) :
    Except Failure (ProxyClass × Registry) := do
  let (c, methods) ← buildClass q name serial
  let r ← registry.insert? c
  return (⟨serial, c, q, methods.map Method.signature⟩, r)

theorem name_of_product {registry : Registry} {serial : Nat} {q : ProxyRequest} {name : String}
    {made : ProxyClass × Registry} (h : product registry serial q name = .ok made) :
    made.1.name = name := by
  unfold product at h
  cases hbuilt : buildClass q name serial with
  | error e => simp [hbuilt, bind, Except.bind] at h
  | ok built =>
      obtain ⟨c, methods⟩ := built
      cases hdefined : registry.insert? c with
      | error e => simp [hbuilt, hdefined, bind, Except.bind] at h
      | ok r =>
          simp only [hbuilt, hdefined, bind, Except.bind, pure, Except.pure, Except.ok.injEq] at h
          subst h
          exact name_of_buildClass hbuilt

/-- The files once a class has been described, as far as that is wanted and possible. -/
def filesAfter (dumpDir : Option String) (files : DumpFiles) (p : ProxyClass) : DumpFiles :=
  match dumpDir with
  | some dir => (ClassDump.write dir p files).value
  | none => files

/-- Describing a class cannot fail. -/
theorem outcome_generate (dumpDir : Option String) (registry : Registry) (files : DumpFiles)
    (serial : Nat) (q : ProxyRequest) (name : String) :
    Attempt.outcome (generate dumpDir registry files serial q name) =
      (product registry serial q name).map fun (p, r) => (p, r, filesAfter dumpDir files p) := by
  unfold generate product
  rw [Attempt.outcome_report_bind, Attempt.outcome_bind, Attempt.outcome_mk_pure]
  rcases buildClass q name serial with e | ⟨c, methods⟩
  · rfl
  · refine (Attempt.outcome_bind (registry.define c) _).trans ?_
    rw [Registry.outcome_define]
    simp only [bind, Except.bind]
    cases registry.insert? c with
    | error e => rfl
    | ok r => cases dumpDir <;> rfl

/-- There is a class unless the request has a fault or the registry has the name. -/
theorem product_eq_error_iff {registry : Registry} {serial : Nat} {q : ProxyRequest}
    (hvalid : Workshop.checkRequest q = .ok ()) {name : String} {e : Failure} :
    product registry serial q name = .error e ↔
      (∃ cause, q.fault? name = some cause ∧ e = .compilationFailure name cause) ∨
        q.fault? name = none ∧ registry.contains name = true ∧ e = .duplicateClass name := by
  rw [product, buildClass_eq hvalid]
  cases q.fault? name with
  | some cause => simp [bind, Except.bind, eq_comm (a := e)]
  | none =>
      have hname (methods : List Method) :
          ((classSpec q name methods).described serial).name = name := rfl
      simp only [bind, Except.bind, Registry.insert?, hname]
      cases registry.contains name with
      | true => simp [eq_comm (a := e)]
      | false => simp [pure, Except.pure]

end ProxyCompiler

end Metaobject
