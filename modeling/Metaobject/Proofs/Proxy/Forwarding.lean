import Metaobject.Proofs.Dispatch
import Metaobject.Proofs.Marshaling
import Metaobject.Proofs.Proxy.Factory

/-!
# Calls of proxies go to the handler

A call of an object of a generated class that some method of the class accepts runs the handler once
and nothing else: the handler gets the object, the name and the arguments as they are, and what it
answers is converted to the result type of the first method that accepts. Without a handler, the
call fails and runs nothing. The superclass may be a generated class itself.
-/

namespace Metaobject

variable (link : Linkage)

theorem outcome_invoke_of_select {o : ObjectRef} {name : String} {args : List Value} {m : Method}
    (hm : o.cls.selectMethod? name args = some (m, .forward))
    (haccepts : m.accepts name args = true) (depth : Nat) (heap : Heap) :
    (invoke link depth o name args).outcome heap =
      match heap.handler? o with
      | none =>
          (.error (.threw (.illegalState s!"代理实例未绑定拦截处理器: {o.cls.name}")), heap)
      | some h => match ((h o name args).run (nested link depth)).outcome heap with
        | (.ok v, heap') => ((m.returnType.convertResult v).mapError .threw, heap')
        | (.error e, heap') => (.error e, heap') := by
  obtain ⟨rfl, hargs⟩ := Method.accepts_iff.mp haccepts
  have hcheck : TypeRef.checkForwarded m.params args = .ok () :=
    TypeRef.checkForwarded_eq_ok_iff.mpr hargs
  have hforward := outcome_runBody_forward link (nested link depth) m o args heap
  simp only [hcheck] at hforward
  rw [invoke_of_select link depth hm]
  exact hforward

theorem Class.exists_first_accepting {c : Class} {name : String} {args : List Value}
    (h : ∃ m ∈ c.methods, m.accepts name args = true) :
    ∃ m, c.methods.find? (fun n => n.accepts name args) = some m :=
  Option.isSome_iff_exists.mp (List.find?_isSome.mpr h)

namespace Factory

theorem Sound.wellMade_of_compile {w : Factory} (h : w.Sound) {i serial : Nat} {q : ProxyRequest}
    {p : ProxyClass} (hp : (w.compile i serial q).1 = some (.ok p)) : p.WellMade := by
  obtain ⟨pc, shop, hpc, hshop⟩ := compiles_of_compile hp
  have hsound : pc.Sound w.registry := h.compilers pc (List.mem_of_getElem? hpc)
  exact (hshop.sound hsound).wellMade (hshop.get?_of_ok hsound)

/-- A call of an object of a generated class, when some method of the class accepts it, has the
outcome of one run of the handler that is bound to the object, on the object, the name and the
arguments as they are: an exception is passed on, and a value is converted to the result type of the
first method that accepts. Where no handler is bound, the call fails and the heap stays as it is. -/
theorem invoke_proxy {files : DumpFiles} {calls : List Call} {i serial : Nat} {q : ProxyRequest}
    {p : ProxyClass} (hp : (((initial files).run calls).compile i serial q).1 = some (.ok p))
    {o : ObjectRef} (ho : o.cls = p.cls) {name : String} {args : List Value}
    (haccepts : ∃ m ∈ p.cls.methods, m.accepts name args = true) (link : Linkage) (depth : Nat)
    (heap : Heap) :
    ∃ m, p.cls.methods.find? (fun n => n.accepts name args) = some m ∧
      TypeRef.checkForwarded m.params args = .ok () ∧
      (∀ h, heap.handler? o = some h →
        (∀ e heap', ((h o name args).run (nested link depth)).outcome heap = (.error e, heap') →
          (invoke link depth o name args).outcome heap = (.error e, heap')) ∧
        ∀ v heap', ((h o name args).run (nested link depth)).outcome heap = (.ok v, heap') →
          ∃ r, TypeRef.Converts m.returnType v r ∧
            (invoke link depth o name args).outcome heap = (r.mapError .threw, heap')) ∧
      (heap.handler? o = none → (invoke link depth o name args).outcome heap =
        (.error (.threw (.illegalState s!"代理实例未绑定拦截处理器: {p.name}")), heap)) := by
  have hmade : p.WellMade := ((sound_initial files).run calls).1.wellMade_of_compile hp
  obtain ⟨m, hm⟩ := Class.exists_first_accepting haccepts
  have hselect : o.cls.selectMethod? name args = some (m, .forward) :=
    ho ▸ Class.selectMethod?_of_forwards hmade.superclass hmade.forwards hm
  have hmaccepts : m.accepts name args = true := by simpa using List.find?_some hm
  have houtcome := outcome_invoke_of_select link hselect hmaccepts depth heap
  refine ⟨m, hm, TypeRef.checkForwarded_eq_ok_iff.mpr (Method.accepts_iff.mp hmaccepts).2, ?_, ?_⟩
  · intro h hh
    simp only [hh] at houtcome
    constructor
    · intro e heap' hrun
      rw [houtcome, hrun]
    · intro v heap' hrun
      refine ⟨_, TypeRef.converts_iff.mpr rfl, ?_⟩
      rw [houtcome, hrun]
  · intro hnone
    simpa only [hnone, ho, ProxyClass.name] using houtcome

end Factory

/-! ### A proxy of a proxy -/

namespace Samples

def greet : Method := ⟨"greet", [.string], .string, .pub, false, false, [], some .forward⟩

def greeterProxy : Class :=
  (ProxyCompiler.classSpec greeting "dyn.Greeter$Proxy$0" [greet]).described 2

def regreeting : ProxyRequest := ⟨[], some greeterProxy, none, true⟩

def doubleProxy : ProxyClass :=
  ⟨3, (ProxyCompiler.classSpec regreeting "dyn.Greeter$Proxy$0$Proxy$1" [greet]).described 3,
    regreeting, ["greet(String)"]⟩

def counting : Handler := fun _ _ _ => .done (.int 3)

def greeted : Heap := ⟨[⟨doubleProxy.cls, [], some counting⟩], []⟩

theorem invoke_doubleProxy :
    (invoke (fun _ _ _ => .done .null) 5 ⟨0, doubleProxy.cls⟩ "greet" [.null]).outcome greeted =
      (.error (.threw (.classCast "Integer 无法转换为 String")), greeted) := by
  have hp : (((Factory.initial ⟨[]⟩).run
      [.define greeter, .addCompiler "dyn" none, .compile 0 2 greeting]).compile 0 3
        regreeting).1 = some (.ok doubleProxy) := rfl
  have haccepts : ∃ m ∈ doubleProxy.cls.methods, m.accepts "greet" [.null] = true :=
    ⟨greet, .head _, by decide⟩
  obtain ⟨m, hm, -, hbound, -⟩ :=
    Factory.invoke_proxy hp rfl haccepts (o := ⟨0, doubleProxy.cls⟩)
      (fun _ _ _ => .done .null) 5 greeted
  obtain rfl : greet = m := Option.some.inj hm
  obtain ⟨r, hr, houtcome⟩ := (hbound counting rfl).2 (.int 3) greeted rfl
  rw [houtcome]
  cases hr with
  | kept _ accepted => cases accepted
  | refused => rfl

end Samples

end Metaobject
