import Metaobject.Proofs.Proxy.Forwarding

/-!
# Methods that proxies leave alone

A generated class declares no method with the signature of a method of the root, or of a method that
is final or synthetic on the superclass chain. Exclusion goes by signatures and dispatch by
arguments, so an overload with other parameters can still be intercepted and take such a call over.
Where no method of the generated class takes the arguments, the call runs what it would run on an
instance of the superclass.
-/

namespace Metaobject

/-! ## The methods of classes that were built for a request -/

def ProxyClass.IsBuilt (p : ProxyClass) : Prop :=
  ∃ name id methods, ProxyCompiler.buildClass p.request name id = .ok (p.cls, methods)

theorem ProxyClass.IsBuilt.methods_eq {p : ProxyClass} (h : p.IsBuilt) :
    p.cls.methods =
      (p.request.base.interceptedMethods p.request.interfaces).map Method.forwarding := by
  obtain ⟨name, id, methods, hbuild⟩ := h
  obtain ⟨rfl, hcls⟩ := ProxyCompiler.buildClass_eq_ok hbuild
  rw [hcls]
  rfl

theorem ProxyClass.IsBuilt.superclass_eq {p : ProxyClass} (h : p.IsBuilt) :
    p.cls.superclass = some p.request.base := by
  obtain ⟨name, id, methods, hbuild⟩ := h
  have hmade : ProxyClass.WellMade ⟨p.serial, p.cls, p.request, methods.map Method.signature⟩ :=
    ProxyCompiler.wellMade_of_buildClass hbuild
  exact hmade.superclass

def ProxyCompiler.Builds (pc : ProxyCompiler) : Prop :=
  ∀ {name p}, pc.get? name = some p → p.IsBuilt

theorem Workshop.Compiles.builds {w w' : Workshop} {serial : Nat} {q : ProxyRequest}
    {result : Except Failure ProxyClass} (h : w.Compiles serial q result w')
    (hw : w.compiler.Sound w.registry) (hbuilds : w.compiler.Builds) : w'.compiler.Builds := by
  cases h with
  | refused invalid => exact hbuilds
  | known assigned found =>
      obtain rfl := ProxyCompiler.Sound.found_of_assigns assigned found
      exact hbuilds
  | made assigned missing built defined =>
      intro other p hp
      rw [ProxyCompiler.get?_load missing] at hp
      split at hp
      · obtain rfl := Option.some.inj hp
        exact ⟨_, _, _, built⟩
      · rw [ProxyCompiler.get?, assigned.classes_eq] at hp
        exact hbuilds hp
  | failed assigned missing =>
      obtain ⟨n, hn⟩ := hw.release_of_assigns assigned missing
      rw [hn]
      exact hbuilds

namespace Factory

theorem builds_run (files : DumpFiles) (calls : List Call) (i : Nat) (pc : ProxyCompiler)
    (hpc : ((initial files).run calls).compilers[i]? = some pc) : pc.Builds := by
  refine compilers_run (P := fun _ pc => pc.Builds) (sound_initial files) (by simp [initial]) calls
    ?_ ?_ i pc hpc
  · intro i space dumpDir name p hp
    cases hp
  · intro i serial q shop result shop' _ hsound hshop hbuilds
    exact hshop.builds hsound hbuilds

theorem isBuilt_of_compile {files : DumpFiles} {calls : List Call} {i serial : Nat}
    {q : ProxyRequest} {p : ProxyClass}
    (hp : (((initial files).run calls).compile i serial q).1 = some (.ok p)) : p.IsBuilt := by
  obtain ⟨hsound, -⟩ := (sound_initial files).run calls
  obtain ⟨pc, shop, hpc, hshop⟩ := compiles_of_compile hp
  have hcompiler := hsound.compilers pc (List.mem_of_getElem? hpc)
  exact hshop.builds hcompiler (builds_run files calls i pc hpc) (hshop.get?_of_ok hcompiler)

end Factory

/-! ## Excluded methods -/

/-- The method is final or synthetic on the superclass chain, or the root declares it. -/
def Class.Excludes (c : Class) (m : Method) : Prop :=
  (∃ d ∈ c.belowRoot, m ∈ d.methods ∧ (m.isFinal = true ∨ m.isSynthetic = true)) ∨
    m ∈ Class.root.methods

theorem Class.Excludes.mem_blocked {c : Class} {m : Method} (h : c.Excludes m) :
    m ∈ c.interceptionBlocked := by
  rw [interceptionBlocked, List.mem_append]
  rcases h with ⟨d, hd, hm, hkind⟩ | hroot
  · left
    have hchain : m ∈ c.chainMethods := List.mem_flatMap.mpr ⟨d, hd, hm⟩
    simpa [hchain] using hkind
  · exact .inr hroot

theorem ProxyClass.IsBuilt.ne_of_excludes {p : ProxyClass} (h : p.IsBuilt) {m n : Method}
    (hm : p.request.base.Excludes m) (hn : n ∈ p.cls.methods) :
    (n.name, n.params) ≠ (m.name, m.params) := by
  rw [h.methods_eq] at hn
  obtain ⟨k, hk, rfl⟩ := List.mem_map.mp hn
  obtain ⟨-, -, -, hunseen⟩ := of_mem_selectUnseen hk
  have hne := Method.sameSignature_eq_false_iff.mp (hunseen m hm.mem_blocked)
  exact hne.symm

/-- Only methods that are neither final nor synthetic hand their calls to a handler; the methods of
generated classes are such methods. -/
def Class.ForwardsOpenly (c : Class) : Prop :=
  ∀ d ∈ c.belowRoot, ∀ n ∈ d.methods, n.body = some .forward →
    n.isFinal = false ∧ n.isSynthetic = false

theorem Class.Excludes.body_ne_forward {c : Class} {m : Method} (h : c.Excludes m)
    (hopen : c.ForwardsOpenly) : m.body ≠ some .forward := by
  intro hbody
  rcases h with ⟨d, hd, hm, hkind⟩ | hroot
  · obtain ⟨hfinal, hsynthetic⟩ := hopen d hd m hm hbody
    simp [hfinal, hsynthetic] at hkind
  · have hbodies : ∀ n ∈ Class.root.methods, n.body ≠ some .forward := by decide
    exact hbodies m hroot hbody

/-! ## Calls of excluded methods -/

namespace Factory

/-- When a call would run an excluded method on an instance of the superclass, every method of the
generated class by that name has other parameters, and unless one of them takes the arguments as
well, the call runs the excluded method on the proxy too, which does not hand it to the handler. -/
theorem invoke_excluded {files : DumpFiles} {calls : List Call} {i serial : Nat} {q : ProxyRequest}
    {p : ProxyClass} (hp : (((initial files).run calls).compile i serial q).1 = some (.ok p))
    {o : ObjectRef} (ho : o.cls = p.cls) {name : String} {args : List Value} {m : Method}
    {body : MethodBody} (hselect : p.request.base.selectMethod? name args = some (m, body))
    (hexcluded : p.request.base.Excludes m) :
    (∀ n ∈ p.cls.methods, n.name = name → n.params ≠ m.params) ∧
      ((∀ n ∈ p.cls.methods, n.accepts name args = false) →
        (p.request.base.ForwardsOpenly → body ≠ .forward) ∧
        ∀ link depth,
          invoke link depth o name args = runBody link (nested link depth) m body o args) := by
  have hbuilt : p.IsBuilt := isBuilt_of_compile hp
  obtain ⟨haccepts, hbody, -⟩ := Class.selectMethod?_eq_some hselect
  have hname : m.name = name := (Method.accepts_iff.mp haccepts).1
  constructor
  · intro n hn hnname hparams
    refine hbuilt.ne_of_excludes hexcluded hn ?_
    rw [hnname, hname, hparams]
  · intro hrefused
    have hproxy : o.cls.selectMethod? name args = some (m, body) := by
      rw [ho, Class.selectMethod?_of_refused hbuilt.superclass_eq hrefused, hselect]
    refine ⟨?_, fun link depth => invoke_of_select link depth hproxy⟩
    rintro hopen rfl
    exact hexcluded.body_ne_forward hopen hbody

end Factory

/-! ### A final method that an interface declares again, and one that it overloads -/

namespace Samples

def sealing : Method := ⟨"seal", [.string], .string, .pub, true, false, [], some (.linked 0)⟩

def vault : Class := { ClassSpec.named "app.Vault" .ordinary with methods := [sealing] }.described 1

def sealable : Class :=
  { ClassSpec.named "app.Sealable" .interface with
    methods :=
      [⟨"seal", [.string], .string, .pub, false, false, [], none⟩,
        ⟨"seal", [.primitive .int], .string, .pub, false, false, [], none⟩] }.described 2

def vaultRequest : ProxyRequest := ⟨[sealable], some vault, none, true⟩

/-- Only the overload that the superclass does not declare goes to the handler. -/
def vaultProxy : ProxyClass :=
  ⟨3, (ProxyCompiler.classSpec vaultRequest "dyn.Vault$Proxy$0"
    [⟨"seal", [.primitive .int], .string, .pub, false, false, [], none⟩]).described 3,
    vaultRequest, ["seal(int)"]⟩

theorem invoke_vaultProxy :
    invoke (fun _ _ _ => .done (.str "sealed")) 5 ⟨0, vaultProxy.cls⟩ "seal" [.str "x"] =
      runBody (fun _ _ _ => .done (.str "sealed")) (nested (fun _ _ _ => .done (.str "sealed")) 5)
        sealing (.linked 0) ⟨0, vaultProxy.cls⟩ [.str "x"] := by
  have hp : (((Factory.initial ⟨[]⟩).run
      [.define vault, .define sealable, .addCompiler "dyn" none]).compile 0 3 vaultRequest).1 =
        some (.ok vaultProxy) := rfl
  have hselect : vaultProxy.request.base.selectMethod? "seal" [.str "x"] =
      some (sealing, .linked 0) := rfl
  have hexcluded : vaultProxy.request.base.Excludes sealing :=
    .inl ⟨vault, .head _, .head _, .inl rfl⟩
  obtain ⟨-, hbody⟩ :=
    Factory.invoke_excluded hp (o := ⟨0, vaultProxy.cls⟩) rfl hselect hexcluded
  have hrefused : ∀ n ∈ vaultProxy.cls.methods, n.accepts "seal" [.str "x"] = false := by decide
  exact (hbody hrefused).2 _ 5

/-- An interface with a method that is called as one of the root's, but takes texts only. -/
def comparing : Class :=
  { ClassSpec.named "app.Comparing" .interface with
    methods :=
      [⟨"equals", [.string], .primitive .boolean, .pub, false, false, [], none⟩] }.described 1

def comparison : ProxyRequest := ⟨[comparing], none, none, true⟩

def comparisonProxy : ProxyClass :=
  ⟨2, (ProxyCompiler.classSpec comparison "dyn.Comparing$Proxy$0"
    [⟨"equals", [.string], .primitive .boolean, .pub, false, false, [], none⟩]).described 2,
    comparison, ["equals(String)"]⟩

def agreeing : Handler := fun _ _ _ => .done (.boolean true)

def compared : Heap := ⟨[⟨comparisonProxy.cls, [], some agreeing⟩], []⟩

def equality : Method :=
  ⟨"equals", [.root], .primitive .boolean, .pub, false, false, [], some .sameObject⟩

/-- On an instance of the root, the call runs the body of the root, which says no; on the proxy, it
goes to the handler, which says yes. -/
theorem comparisonProxy_takes_over :
    (((Factory.initial ⟨[]⟩).run [.define comparing, .addCompiler "dyn" none]).compile 0 2
        comparison).1 = some (.ok comparisonProxy) ∧
      comparisonProxy.request.base.selectMethod? "equals" [.str "x"] =
        some (equality, .sameObject) ∧
      comparisonProxy.request.base.Excludes equality ∧
      ∀ link depth,
        (runBody link (nested link depth) equality .sameObject ⟨0, comparisonProxy.cls⟩
          [.str "x"]).outcome compared = (.ok (.boolean false), compared) ∧
        (invoke link depth ⟨0, comparisonProxy.cls⟩ "equals" [.str "x"]).outcome compared =
          (.ok (.boolean true), compared) := by
  refine ⟨rfl, rfl, .inr (.head _), fun link depth => ⟨rfl, ?_⟩⟩
  rw [invoke, perform_eq_performWith]
  rfl

end Samples

end Metaobject
