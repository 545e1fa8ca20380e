import Metaobject.Invoker.Cache
import Metaobject.Proofs.Proxy.Compilation

/-!
# Several compilers and one registry

A factory has any number of proxy compilers, which define their classes in one registry, and a cache
of invokers. Whatever calls it has answered, successful or not, its compilers are sound, no two of
them have made classes of the same name, and what was made stays.
-/

namespace Metaobject

/-- Proxy compilers that share a registry, and a cache. -/
structure Factory where
  registry : Registry
  files : DumpFiles
  compilers : List ProxyCompiler
  cache : Cache

namespace Factory

def initial (files : DumpFiles) : Factory := ⟨.initial, files, [], .empty⟩

/-- What a factory can be asked for. The compilers are numbered in the order in which they were
added. -/
inductive Call where
  | define (c : Class)
  | addCompiler (space : String) (dumpDir : Option String)
  | compile (compiler serial : Nat) (q : ProxyRequest)
  | invoker (strategies : List Strategy) (serial : Nat) (key : MemberKey)
  | clearCache

def loaded? (w : Factory) (compiler : Nat) (name : String) : Option ProxyClass :=
  w.compilers[compiler]?.bind fun pc => pc.get? name

/-- Makes a proxy class with one of the compilers, if there is one of that number. -/
def compile (w : Factory) (compiler serial : Nat) (q : ProxyRequest) :
    Option (Except Failure ProxyClass) × Factory :=
  match w.compilers[compiler]? with
  | none => (none, w)
  | some pc =>
      let (result, shop) := ((⟨pc, w.registry, w.files⟩ : Workshop).compile serial q).value
      (some result,
        { w with
          registry := shop.registry
          files := shop.files
          compilers := w.compilers.set compiler shop.compiler })

/-- The request for the invoker of a member that is looked up in the registry of the factory. -/
def request (w : Factory) (strategies : List Strategy) (serial : Nat) (key : MemberKey) :
    InvokerRequest :=
  ⟨key, w.registry.resolver, strategies, serial⟩

/-- Answers a call. A class that cannot be defined is left out. -/
def step (w : Factory) : Call → Factory
  | .define c =>
      match Attempt.outcome (w.registry.define c) with
      | .ok r => { w with registry := r }
      | .error _ => w
  | .addCompiler space dumpDir =>
      { w with compilers := w.compilers ++ [.initial space dumpDir] }
  | .compile compiler serial q => (w.compile compiler serial q).2
  | .invoker strategies serial key =>
      { w with cache := (w.cache.request (w.request strategies serial key)).cache }
  | .clearCache => { w with cache := w.cache.clear.value }

def run (w : Factory) (calls : List Call) : Factory := calls.foldl step w

/-- All compilers are sound, and a name belongs to one compiler at most. -/
structure Sound (w : Factory) : Prop where
  reachable : w.registry.Reachable
  compilers : ∀ pc ∈ w.compilers, pc.Sound w.registry
  exclusive : ∀ {i j name p p'},
    w.loaded? i name = some p → w.loaded? j name = some p' → i = j

/-- The second factory still has what the first one has. -/
structure Keeps (w w' : Factory) : Prop where
  registry : w.registry.Grows w'.registry
  loaded : ∀ {i name p}, w.loaded? i name = some p → w'.loaded? i name = some p

theorem Keeps.refl (w : Factory) : w.Keeps w := ⟨id, id⟩

theorem Keeps.trans {w w' w'' : Factory} (h : w.Keeps w') (h' : w'.Keeps w'') : w.Keeps w'' :=
  ⟨fun hc => h'.registry (h.registry hc), fun hp => h'.loaded (h.loaded hp)⟩

theorem loaded?_eq_some {w : Factory} {i : Nat} {name : String} {p : ProxyClass} :
    w.loaded? i name = some p ↔ ∃ pc, w.compilers[i]? = some pc ∧ pc.get? name = some p := by
  simp [loaded?, Option.bind_eq_some_iff]

theorem Sound.of_loaded {w : Factory} (h : w.Sound) {i : Nat} {name : String} {p : ProxyClass}
    (hp : w.loaded? i name = some p) :
    ∃ pc, w.compilers[i]? = some pc ∧ pc.get? name = some p ∧ pc.Sound w.registry := by
  obtain ⟨pc, hpc, hget⟩ := loaded?_eq_some.mp hp
  exact ⟨pc, hpc, hget, h.compilers pc (List.mem_of_getElem? hpc)⟩

theorem Sound.defined {w : Factory} (h : w.Sound) {i : Nat} {name : String} {p : ProxyClass}
    (hp : w.loaded? i name = some p) : w.registry.get? name = some p.cls := by
  obtain ⟨pc, -, hget, hsound⟩ := h.of_loaded hp
  exact hsound.defined hget

theorem compile_eq {w : Factory} {i : Nat} {pc : ProxyCompiler} (h : w.compilers[i]? = some pc)
    (serial : Nat) (q : ProxyRequest) :
    w.compile i serial q =
      (some ((⟨pc, w.registry, w.files⟩ : Workshop).compile serial q).value.1,
        { w with
          registry := ((⟨pc, w.registry, w.files⟩ : Workshop).compile serial q).value.2.registry
          files := ((⟨pc, w.registry, w.files⟩ : Workshop).compile serial q).value.2.files
          compilers := w.compilers.set i
            ((⟨pc, w.registry, w.files⟩ : Workshop).compile serial q).value.2.compiler }) := by
  simp only [compile, h]

theorem compile_of_compiler {w : Factory} {i : Nat} {pc : ProxyCompiler}
    (h : w.compilers[i]? = some pc) (serial : Nat) (q : ProxyRequest) :
    ∃ result shop, Workshop.Compiles ⟨pc, w.registry, w.files⟩ serial q result shop ∧
      w.compile i serial q = (some result,
        { w with
          registry := shop.registry
          files := shop.files
          compilers := w.compilers.set i shop.compiler }) :=
  ⟨_, _, Workshop.compiles_compile ⟨pc, w.registry, w.files⟩ serial q, compile_eq h serial q⟩

/-- A request that was answered was answered by a compiler. -/
theorem compiles_of_compile {w : Factory} {i serial : Nat} {q : ProxyRequest}
    {result : Except Failure ProxyClass} (h : (w.compile i serial q).1 = some result) :
    ∃ pc shop, w.compilers[i]? = some pc ∧
      Workshop.Compiles ⟨pc, w.registry, w.files⟩ serial q result shop := by
  cases hpc : w.compilers[i]? with
  | none => simp [compile, hpc] at h
  | some pc =>
      obtain ⟨answer, shop, hshop, hw'⟩ := compile_of_compiler hpc serial q
      rw [hw'] at h
      obtain rfl : answer = result := Option.some.inj h
      exact ⟨pc, shop, rfl, hshop⟩

theorem loaded?_set {w : Factory} {i : Nat} {pc : ProxyCompiler} (h : w.compilers[i]? = some pc)
    (r : Registry) (files : DumpFiles) (pc' : ProxyCompiler) (j : Nat) (name : String) :
    ({ w with
        registry := r
        files := files
        compilers := w.compilers.set i pc' } : Factory).loaded? j name =
      if j = i then pc'.get? name else w.loaded? j name := by
  obtain ⟨hi, -⟩ := List.getElem?_eq_some_iff.mp h
  by_cases hj : j = i
  · subst hj
    simp [loaded?, hi]
  · simp [loaded?, hj, Ne.symm hj]

/-! ## One call -/

theorem Sound.of_registry {w w' : Factory} (h : w.Sound) (hcompilers : w'.compilers = w.compilers)
    (hgrows : w.registry.Grows w'.registry) (hreachable : w'.registry.Reachable) :
    w'.Sound ∧ w.Keeps w' := by
  have hloaded (i : Nat) (name : String) : w'.loaded? i name = w.loaded? i name := by
    rw [loaded?, loaded?, hcompilers]
  refine ⟨⟨hreachable, ?_, ?_⟩, ⟨hgrows, ?_⟩⟩
  · intro pc hpc
    rw [hcompilers] at hpc
    exact (h.compilers pc hpc).grows hgrows
  · intro i j name p p' hp hp'
    rw [hloaded] at hp hp'
    exact h.exclusive hp hp'
  · intro i name p hp
    rwa [hloaded]

theorem Sound.define {w : Factory} (h : w.Sound) (c : Class) :
    (w.step (.define c)).Sound ∧ w.Keeps (w.step (.define c)) := by
  rw [step, Registry.outcome_define]
  cases hdefine : w.registry.insert? c with
  | error e => exact ⟨h, .refl w⟩
  | ok r =>
      exact h.of_registry rfl (Registry.grows_of_insert? hdefine) (.define h.reachable hdefine)

theorem Sound.addCompiler {w : Factory} (h : w.Sound) (space : String) (dumpDir : Option String) :
    (w.step (.addCompiler space dumpDir)).Sound ∧ w.Keeps (w.step (.addCompiler space dumpDir)) := by
  have hloaded {i : Nat} {name : String} {p : ProxyClass} :
      (w.step (.addCompiler space dumpDir)).loaded? i name = some p ↔
        w.loaded? i name = some p := by
    simp only [loaded?, step, List.getElem?_append]
    split
    · rfl
    · rename_i hi
      have hnone : w.compilers[i]? = none := List.getElem?_eq_none (by omega)
      rw [hnone]
      cases hnew : [ProxyCompiler.initial space dumpDir][i - w.compilers.length]? with
      | none => rfl
      | some pc =>
          obtain rfl := List.mem_singleton.mp (List.mem_of_getElem? hnew)
          simp [ProxyCompiler.initial, ProxyCompiler.get?]
  refine ⟨⟨h.reachable, ?_, ?_⟩, ⟨id, hloaded.mpr⟩⟩
  · intro pc hpc
    rcases List.mem_append.mp hpc with hpc | hpc
    · exact h.compilers pc hpc
    · obtain rfl := List.mem_singleton.mp hpc
      exact ProxyCompiler.sound_initial space dumpDir w.registry
  · intro i j name p p' hp hp'
    exact h.exclusive (hloaded.mp hp) (hloaded.mp hp')

theorem Sound.compile {w : Factory} (h : w.Sound) (i serial : Nat) (q : ProxyRequest) :
    (w.compile i serial q).2.Sound ∧ w.Keeps (w.compile i serial q).2 := by
  cases hpc : w.compilers[i]? with
  | none =>
      have hnothing : w.compile i serial q = (none, w) := by simp only [Factory.compile, hpc]
      rw [hnothing]
      exact ⟨h, .refl w⟩
  | some pc =>
      obtain ⟨result, shop, hshop, hw'⟩ := compile_of_compiler hpc serial q
      have hsound : pc.Sound w.registry := h.compilers pc (List.mem_of_getElem? hpc)
      have hold {name : String} {p : ProxyClass} :
          w.loaded? i name = some p ↔ pc.get? name = some p := by
        simp [loaded?, hpc]
      rw [hw']
      refine ⟨⟨?_, ?_, ?_⟩, ⟨hshop.grows, ?_⟩⟩
      · exact hshop.reachable h.reachable
      · intro d hd
        rcases List.mem_or_eq_of_mem_set hd with hd | rfl
        · exact (h.compilers d hd).grows hshop.grows
        · exact hshop.sound hsound
      · -- a class that is new has a name that was not defined, so no other compiler has made it
        have hnew {j : Nat} {name : String} {p p' : ProxyClass} (hp : shop.compiler.get? name = some p)
            (hp' : w.loaded? j name = some p') : i = j := by
          rcases hshop.get?_or_unknown hsound hp with hp | hunknown
          · exact h.exclusive (hold.mpr hp) hp'
          · exact absurd ((h.defined hp').symm.trans hunknown) nofun
        intro j k name p p' hp hp'
        rw [loaded?_set hpc] at hp hp'
        split at hp <;> split at hp'
        · omega
        · rename_i hj hk
          exact hj.trans (hnew hp hp')
        · rename_i hj hk
          exact (hk.trans (hnew hp' hp)).symm
        · exact h.exclusive hp hp'
      · intro j name p hp
        rw [loaded?_set hpc]
        split
        · subst j
          exact hshop.get?_of_get? hsound (hold.mp hp)
        · exact hp

theorem Sound.step {w : Factory} (h : w.Sound) (call : Call) :
    (w.step call).Sound ∧ w.Keeps (w.step call) := by
  cases call with
  | define c => exact h.define c
  | addCompiler space dumpDir => exact h.addCompiler space dumpDir
  | compile i serial q => exact h.compile i serial q
  | invoker strategies serial key => exact h.of_registry rfl id h.reachable
  | clearCache => exact h.of_registry rfl id h.reachable

/-! ## All calls -/

theorem sound_initial (files : DumpFiles) : (initial files).Sound where
  reachable := .initial
  compilers := by simp [initial]
  exclusive hp := by simp [initial, loaded?] at hp

theorem Sound.run {w : Factory} (h : w.Sound) (calls : List Call) :
    (w.run calls).Sound ∧ w.Keeps (w.run calls) := by
  induction calls generalizing w with
  | nil => exact ⟨h, .refl w⟩
  | cons call calls ih =>
      obtain ⟨hstep, hkeeps⟩ := h.step call
      obtain ⟨hrun, hkeeps'⟩ := ih hstep
      exact ⟨hrun, hkeeps.trans hkeeps'⟩

/-- A property of compilers that holds of new ones and is kept by requests holds of every compiler. -/
theorem compilers_step {P : Nat → ProxyCompiler → Prop} {w : Factory}
    (hw : ∀ i pc, w.compilers[i]? = some pc → P i pc) (call : Call)
    (hinitial : ∀ i space dumpDir, P i (.initial space dumpDir))
    (hcompile : ∀ i serial q pc result shop, call = .compile i serial q →
      w.compilers[i]? = some pc →
      Workshop.Compiles ⟨pc, w.registry, w.files⟩ serial q result shop →
      P i pc → P i shop.compiler) :
    ∀ i pc, (w.step call).compilers[i]? = some pc → P i pc := by
  cases call with
  | define c =>
      rw [step]
      split <;> exact hw
  | addCompiler space dumpDir =>
      intro i pc hpc
      rw [step, List.getElem?_append] at hpc
      split at hpc
      · exact hw i pc hpc
      · obtain rfl := List.mem_singleton.mp (List.mem_of_getElem? hpc)
        exact hinitial i space dumpDir
  | compile i serial q =>
      cases hpc : w.compilers[i]? with
      | none => simpa only [step, compile, hpc] using hw
      | some pc =>
          obtain ⟨result, shop, hshop, hw'⟩ := compile_of_compiler hpc serial q
          intro j other hother
          rw [step, hw', List.getElem?_set] at hother
          split at hother
          · subst j
            split at hother
            · obtain rfl := Option.some.inj hother
              exact hcompile i serial q pc result shop rfl hpc hshop (hw i pc hpc)
            · cases hother
          · exact hw j other hother
  | invoker strategies serial key => exact hw
  | clearCache => exact hw

theorem compilers_run {P : Nat → ProxyCompiler → Prop} {w : Factory} (h : w.Sound)
    (hw : ∀ i pc, w.compilers[i]? = some pc → P i pc) (calls : List Call)
    (hinitial : ∀ i space dumpDir, P i (.initial space dumpDir))
    (hcompile : ∀ i serial q shop result shop', .compile i serial q ∈ calls →
      shop.compiler.Sound shop.registry → Workshop.Compiles shop serial q result shop' →
      P i shop.compiler → P i shop'.compiler) :
    ∀ i pc, (w.run calls).compilers[i]? = some pc → P i pc := by
  induction calls generalizing w with
  | nil => exact hw
  | cons call calls ih =>
      refine ih (h.step call).1 ?_ fun i serial q shop result shop' hcall =>
        hcompile i serial q shop result shop' (List.mem_cons_of_mem _ hcall)
      refine compilers_step hw call hinitial ?_
      rintro i serial q pc result shop' rfl hpc hshop
      exact hcompile i serial q _ result shop' List.mem_cons_self
        (h.compilers pc (List.mem_of_getElem? hpc)) hshop

theorem Sound.compile_of_loaded {w : Factory} (h : w.Sound) {i : Nat} {pc : ProxyCompiler}
    (hpc : w.compilers[i]? = some pc) {name : String} {p : ProxyClass}
    (hp : pc.get? name = some p) {q : ProxyRequest} (hvalid : Workshop.checkRequest q = .ok ())
    (hname : q.name = some name ∨ q.name = none ∧ (q.shape, name) ∈ pc.shapes) (serial : Nat) :
    w.compile i serial q = (some (.ok p), w) := by
  obtain ⟨result, shop, hshop, hw'⟩ := compile_of_compiler hpc serial q
  have hsound : pc.Sound w.registry := h.compilers pc (List.mem_of_getElem? hpc)
  obtain ⟨rfl, rfl⟩ := hshop.of_get? hsound hvalid hp hname
  obtain ⟨hi, rfl⟩ := List.getElem?_eq_some_iff.mp hpc
  rw [hw', List.set_getElem_self]

/-- Whatever a factory has been asked for, its compilers are sound and have given different names to
different shapes, and no two of them have made a class of the same name; what has been made stays as
it is, whatever is asked for afterwards, and is what later requests for it get. -/
theorem run_invariant (files : DumpFiles) (calls : List Call) :
    ((initial files).run calls).Sound ∧
      (∀ pc ∈ ((initial files).run calls).compilers, (pc.shapes.map Prod.snd).Nodup) ∧
      (∀ more, ((initial files).run calls).Keeps ((initial files).run (calls ++ more))) ∧
      ∀ i pc name p, ((initial files).run calls).compilers[i]? = some pc →
        pc.get? name = some p → ∀ q, Workshop.checkRequest q = .ok () →
          (q.name = some name ∨ q.name = none ∧ (q.shape, name) ∈ pc.shapes) →
            ∀ serial, ((initial files).run calls).compile i serial q =
              (some (.ok p), (initial files).run calls) := by
  obtain ⟨hsound, -⟩ := (sound_initial files).run calls
  refine ⟨hsound, fun pc hpc => (hsound.compilers pc hpc).names_nodup, fun more => ?_, ?_⟩
  · rw [run, run, List.foldl_append]
    exact (hsound.run more).2
  · intro i pc name p hpc hp q hvalid hname serial
    exact hsound.compile_of_loaded hpc hp hvalid hname serial

end Factory

/-! ### Two compilers that want the same name -/

namespace Samples

def greeter : Class :=
  { ClassSpec.named "app.Greeter" .interface with
    methods := [⟨"greet", [.string], .string, .pub, false, false, [], none⟩] }.described 1

def greeting : ProxyRequest := ⟨[greeter], none, none, true⟩

/-- Two compilers with the same namespace make a class for the same request, and then one of them
tries to make a class of the name that the other has used. -/
def greetingCalls : List Factory.Call :=
  [.define greeter, .addCompiler "dyn" none, .addCompiler "dyn" none, .compile 0 2 greeting,
    .compile 1 3 greeting, .compile 1 4 { greeting with name := some "dyn.Greeter$Proxy$0" }]

def greetings : Factory := (Factory.initial ⟨[]⟩).run greetingCalls

theorem run_invariant_greetings :
    greetings.Sound ∧ (greetings.loaded? 0 "dyn.Greeter$Proxy$0").isSome = true ∧
      (greetings.loaded? 1 "dyn.Greeter$Proxy$1").isSome = true ∧
      (greetings.loaded? 1 "dyn.Greeter$Proxy$0").isSome = false ∧
      greetings.Keeps (greetings.run [.clearCache]) := by
  obtain ⟨hsound, -, hkeeps, -⟩ := Factory.run_invariant ⟨[]⟩ greetingCalls
  exact ⟨hsound, by decide, by decide, by decide, hkeeps [.clearCache]⟩

end Samples

end Metaobject
