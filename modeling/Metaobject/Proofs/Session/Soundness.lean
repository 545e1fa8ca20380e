import Metaobject.Proofs.Outcome
import Metaobject.Proofs.Proxy.Compilation
import Metaobject.Session

/-!
# Sessions stay sound

Reflectors and proxy compilers share registries. In every session that operations lead to, they refer
to registries that exist, and each proxy compiler agrees with the registry in which it defines its
classes, whatever the others have defined there and whichever operations have failed.
-/

namespace Metaobject

namespace SessionOp

variable {α β : Type}

/-- The result of an operation on a session, or its failure, and the session that it leaves. -/
def outcome (x : SessionOp α) (s : Session) : Except Failure α × Session := (x.run.run s).value

@[simp] theorem outcome_pure (a : α) (s : Session) :
    outcome (pure a) s = (.ok a, s) := rfl

@[simp] theorem outcome_throw (e : Failure) (s : Session) :
    outcome (throw e : SessionOp α) s = (.error e, s) := rfl

theorem outcome_bind (x : SessionOp α) (f : α → SessionOp β) (s : Session) :
    outcome (x >>= f) s = match outcome x s with
      | (.ok a, t) => outcome (f a) t
      | (.error e, t) => (.error e, t) := by
  simp only [outcome, ExceptT.run_bind, StateT.run_bind, Logged.value_bind]
  rcases (x.run.run s).value with ⟨_ | _, _⟩ <;> rfl

theorem outcome_bind_eq_ok {x : SessionOp α} {f : α → SessionOp β} {s t : Session} {b : β} :
    outcome (x >>= f) s = (.ok b, t) ↔
      ∃ a u, outcome x s = (.ok a, u) ∧ outcome (f a) u = (.ok b, t) := by
  rw [outcome_bind]
  rcases outcome x s with ⟨_ | _, _⟩ <;> simp

@[simp] theorem outcome_get_bind (f : Session → SessionOp β) (s : Session) :
    outcome (get >>= f) s = outcome (f s) s := rfl

@[simp] theorem outcome_modify_bind (g : Session → Session) (f : PUnit → SessionOp β)
    (s : Session) : outcome (modify g >>= f) s = outcome (f ()) (g s) := rfl

@[simp] theorem outcome_modifyGet (f : Session → α × Session) (s : Session) :
    outcome (modifyGet f : SessionOp α) s = (.ok (f s).1, (f s).2) := rfl

@[simp] theorem outcome_fresh_bind (f : Nat → SessionOp β) (s : Session) :
    outcome (fresh >>= f) s =
      outcome (f s.nextSerial) { s with nextSerial := s.nextSerial + 1 } := rfl

@[simp] theorem outcome_ofExcept (r : Except Failure α) (s : Session) :
    outcome (ofExcept r) s = (r, s) := by
  cases r <;> rfl

@[simp] theorem outcome_ofAttempt (x : Attempt α) (s : Session) :
    outcome (ofAttempt x) s = (Attempt.outcome x, s) := rfl

@[simp] theorem outcome_ofLogged (x : Logged α) (s : Session) :
    outcome (ofLogged x) s = (.ok x.value, s) := rfl

theorem outcome_onHeap (x : Linkage → HeapAttempt α) (s : Session) :
    outcome (onHeap x) s =
      ((HeapAttempt.outcome (x s.link) s.heap).1,
        { s with heap := (HeapAttempt.outcome (x s.link) s.heap).2 }) := rfl

theorem outcome_onCache (cache : Nat) (x : Cache → Logged (Reply α)) (s : Session) :
    outcome (onCache cache x) s =
      ((x (s.cache cache)).value.answer,
        { s with caches := s.caches.set cache (x (s.cache cache)).value.cache }) := rfl

end SessionOp

/-- The reflector has made no proxy class yet. -/
def Reflector.New (r : Reflector) : Prop := ∃ settings, r.proxies = .ofSettings settings

theorem Reflector.new_create (settings : Settings) (strategies : Option (List Strategy))
    (allocators : Option (List Allocator)) : (create settings strategies allocators).value.New :=
  ⟨settings.proxy, rfl⟩

theorem Reflector.new_of_build {settings : Settings} {strategies : Option (List Strategy)}
    {allocators : Option (List Allocator)} {r : Reflector}
    (h : Attempt.outcome (build settings strategies allocators) = .ok r) : r.New := by
  unfold build at h
  cases hvalid : settings.validate with
  | error e => simp [hvalid] at h
  | ok u =>
      rw [hvalid] at h
      obtain ⟨made, hmade, h⟩ := Attempt.outcome_bind_eq_ok.mp h
      obtain rfl := Except.ok.inj hmade
      rw [Attempt.outcome_report_bind, Attempt.outcome_pure] at h
      obtain rfl := Except.ok.inj h
      exact new_create settings strategies allocators

namespace Session

variable {s t : Session}

/-! ## What a sound session is -/

/-- The second session has the registries, proxy compilers and reflectors of the first one. -/
structure Frames (s t : Session) : Prop where
  registries : t.registries = s.registries
  compilers : t.compilers = s.compilers
  reflectors : t.reflectors = s.reflectors

/-- Reflectors and proxy compilers use registries that exist and agree with them. -/
structure Sound (s : Session) : Prop where
  nonempty : 0 < s.registries.length
  registries : ∀ r ∈ s.registries, r.Reachable
  compilers : ∀ e ∈ s.compilers, e.2 < s.registries.length ∧ e.1.Sound (s.registry e.2)
  reflectors : ∀ e ∈ s.reflectors, e.registry < s.registries.length ∧
    e.reflector.proxies.Sound (s.registry e.registry)

theorem Sound.frames (h : s.Sound) (hst : s.Frames t) : t.Sound := by
  have hregistry : t.registry = s.registry := by
    funext i
    rw [registry, registry, hst.registries]
  obtain ⟨hregistries, hcompilers, hreflectors⟩ := hst
  constructor
  · exact hregistries ▸ h.nonempty
  · exact hregistries ▸ h.registries
  · rw [hcompilers, hregistries, hregistry]
    exact h.compilers
  · rw [hreflectors, hregistries, hregistry]
    exact h.reflectors

theorem Sound.reachable_registry (h : s.Sound) (i : Nat) : (s.registry i).Reachable := by
  rw [registry, List.getD_eq_getElem?_getD]
  cases hi : s.registries[i]? with
  | none => exact .initial
  | some r => exact h.registries r (List.mem_of_getElem? hi)

theorem Sound.compiler (h : s.Sound) (i : Nat) :
    (s.compiler i).2 < s.registries.length ∧
      (s.compiler i).1.Sound (s.registry (s.compiler i).2) := by
  rw [Session.compiler, List.getD_eq_getElem?_getD]
  cases hi : s.compilers[i]? with
  | none => exact ⟨h.nonempty, ProxyCompiler.sound_initial _ _ _⟩
  | some e => exact h.compilers e (List.mem_of_getElem? hi)

theorem Sound.reflector (h : s.Sound) (i : Nat) :
    (s.reflector i).registry < s.registries.length ∧
      (s.reflector i).reflector.proxies.Sound (s.registry (s.reflector i).registry) := by
  rw [Session.reflector, List.getD_eq_getElem?_getD]
  cases hi : s.reflectors[i]? with
  | none => exact ⟨h.nonempty, ProxyCompiler.sound_initial _ _ _⟩
  | some e => exact h.reflectors e (List.mem_of_getElem? hi)

/-! ## Registries that grow -/

/-- Registries may be added and may grow. -/
theorem Sound.registries_grow (h : s.Sound) (hcompilers : t.compilers = s.compilers)
    (hreflectors : t.reflectors = s.reflectors)
    (hlength : s.registries.length ≤ t.registries.length)
    (hreachable : ∀ r ∈ t.registries, r.Reachable)
    (hgrows : ∀ i < s.registries.length, (s.registry i).Grows (t.registry i)) : t.Sound := by
  refine ⟨by have := h.nonempty; omega, hreachable, fun e he => ?_, fun e he => ?_⟩
  · obtain ⟨hlt, hsound⟩ := h.compilers e (hcompilers ▸ he)
    exact ⟨by omega, hsound.grows (hgrows _ hlt)⟩
  · obtain ⟨hlt, hsound⟩ := h.reflectors e (hreflectors ▸ he)
    exact ⟨by omega, hsound.grows (hgrows _ hlt)⟩

/-- A registry that has grown takes its own place. -/
theorem Sound.setRegistry (h : s.Sound) {k : Nat} {r : Registry} (hr : r.Reachable)
    (hgrows : (s.registry k).Grows r) (files : DumpFiles) (serial : Nat) :
    Sound { s with
      registries := s.registries.set k r
      files := files
      nextSerial := serial } := by
  refine h.registries_grow rfl rfl (by simp) ?_ ?_
  · intro r' hr'
    rcases List.mem_or_eq_of_mem_set hr' with hr' | rfl
    · exact h.registries r' hr'
    · exact hr
  · intro i hi
    change (s.registry i).Grows ((s.registries.set k r).getD i .initial)
    rw [List.getD_eq_getElem?_getD, List.getElem?_set]
    split
    · rename_i hki
      subst hki
      rw [if_pos hi]
      exact hgrows
    · rw [← List.getD_eq_getElem?_getD]
      exact id

theorem Sound.newRegistry (h : s.Sound) :
    Sound { s with registries := s.registries ++ [.initial] } := by
  refine h.registries_grow rfl rfl (by simp) ?_ ?_
  · intro r hr
    rcases List.mem_append.mp hr with hr | hr
    · exact h.registries r hr
    · obtain rfl := List.mem_singleton.mp hr
      exact .initial
  · intro i hi
    change (s.registry i).Grows ((s.registries ++ [Registry.initial]).getD i .initial)
    rw [List.getD_eq_getElem?_getD, List.getElem?_append_left hi, ← List.getD_eq_getElem?_getD]
    exact id

/-! ## Proxy classes -/

/-- What one of the proxy compilers of the session works with. -/
def workshop (s : Session) (pc : ProxyCompiler) (registry : Nat) : Workshop :=
  ⟨pc, s.registry registry, s.files⟩

/-- The session once a registry and the files have become those of a workshop. -/
def leaving (s : Session) (w : Workshop) (registry : Nat) : Session :=
  { s with
    registries := s.registries.set registry w.registry
    files := w.files
    nextSerial := s.nextSerial + 1 }

theorem registry_leaving {k : Nat} (hk : k < s.registries.length) (w : Workshop) :
    (s.leaving w k).registry k = w.registry := by
  simp [leaving, registry, hk]

/-- What the proxy compiler of a reflector works with. -/
def reflectorShop (s : Session) (i : Nat) : Workshop :=
  s.workshop (s.reflector i).reflector.proxies (s.reflector i).registry

/-- The session once one of its proxy compilers has worked. -/
def withCompiler (s : Session) (i : Nat) (w : Workshop) : Session :=
  { s.leaving w (s.compiler i).2 with
    compilers := s.compilers.set i (w.compiler, (s.compiler i).2) }

/-- The session once the proxy compiler of a reflector has worked. -/
def withReflector (s : Session) (i : Nat) (w : Workshop) : Session :=
  { s.leaving w (s.reflector i).registry with
    reflectors := s.reflectors.set i { s.reflector i with
      reflector := { (s.reflector i).reflector with proxies := w.compiler } } }

theorem outcome_compileIn (s : Session) (pc : ProxyCompiler) (registry : Nat) (q : ProxyRequest) :
    SessionOp.outcome (SessionOp.compileIn pc registry q) s =
      (.ok (((s.workshop pc registry).compile s.nextSerial q).value.1,
        ((s.workshop pc registry).compile s.nextSerial q).value.2.compiler),
        s.leaving ((s.workshop pc registry).compile s.nextSerial q).value.2 registry) := rfl

theorem outcome_compileWith (s : Session) (i : Nat) (q : ProxyRequest) :
    (SessionOp.compileWith i q).outcome s =
      (((s.workshop (s.compiler i).1 (s.compiler i).2).compile s.nextSerial q).value.1,
        s.withCompiler i
          ((s.workshop (s.compiler i).1 (s.compiler i).2).compile s.nextSerial q).value.2) := by
  simp only [SessionOp.compileWith, SessionOp.outcome_get_bind]
  rw [SessionOp.outcome_bind, outcome_compileIn]
  simp only [SessionOp.outcome_modify_bind, SessionOp.outcome_ofExcept]
  rfl

theorem outcome_compileProxy (s : Session) (i : Nat) (q : ProxyRequest) :
    (SessionOp.compileProxy i q).outcome s =
      (((s.reflectorShop i).compile s.nextSerial q).value.1,
        s.withReflector i ((s.reflectorShop i).compile s.nextSerial q).value.2) := by
  simp only [SessionOp.compileProxy, SessionOp.outcome_get_bind]
  rw [SessionOp.outcome_bind, outcome_compileIn]
  simp only [SessionOp.outcome_modify_bind, SessionOp.outcome_ofExcept]
  rfl

/-- A compiler that has worked with its registry agrees with it, as all others do. -/
theorem Sound.leaving (h : s.Sound) {pc : ProxyCompiler} {k : Nat} (hk : k < s.registries.length)
    (hpc : pc.Sound (s.registry k)) {serial : Nat} {q : ProxyRequest}
    {result : Except Failure ProxyClass} {w : Workshop}
    (hw : (s.workshop pc k).Compiles serial q result w) :
    (s.leaving w k).Sound ∧ w.compiler.Sound ((s.leaving w k).registry k) := by
  refine ⟨h.setRegistry (hw.reachable (h.reachable_registry k)) hw.grows w.files _, ?_⟩
  rw [registry_leaving hk]
  exact hw.sound hpc

theorem Sound.setCompiler (h : s.Sound) {i : Nat} {e : ProxyCompiler × Nat}
    (hk : e.2 < s.registries.length) (he : e.1.Sound (s.registry e.2)) :
    Sound { s with compilers := s.compilers.set i e } := by
  refine ⟨h.nonempty, h.registries, fun e' he' => ?_, h.reflectors⟩
  rcases List.mem_or_eq_of_mem_set he' with he' | rfl
  · exact h.compilers e' he'
  · exact ⟨hk, he⟩

theorem Sound.setReflector (h : s.Sound) {i : Nat} {e : ReflectorEntry}
    (hk : e.registry < s.registries.length) (he : e.reflector.proxies.Sound (s.registry e.registry)) :
    Sound { s with reflectors := s.reflectors.set i e } := by
  refine ⟨h.nonempty, h.registries, h.compilers, fun e' he' => ?_⟩
  rcases List.mem_or_eq_of_mem_set he' with he' | rfl
  · exact h.reflectors e' he'
  · exact ⟨hk, he⟩

theorem Sound.compileWith (h : s.Sound) (i : Nat) (q : ProxyRequest) :
    (SessionOp.outcome (SessionOp.compileWith i q) s).2.Sound := by
  rw [outcome_compileWith]
  obtain ⟨hk, hpc⟩ := h.compiler i
  have hw := (s.workshop (s.compiler i).1 (s.compiler i).2).compiles_compile s.nextSerial q
  obtain ⟨hsound, hcompiler⟩ := h.leaving hk hpc hw
  exact hsound.setCompiler (by simpa [Session.leaving] using hk) hcompiler

theorem Sound.compileProxy (h : s.Sound) (i : Nat) (q : ProxyRequest) :
    (SessionOp.outcome (SessionOp.compileProxy i q) s).2.Sound := by
  rw [outcome_compileProxy]
  obtain ⟨hk, hpc⟩ := h.reflector i
  have hw := (s.reflectorShop i).compiles_compile s.nextSerial q
  obtain ⟨hsound, hcompiler⟩ := h.leaving hk hpc hw
  exact hsound.setReflector (by simpa [Session.leaving] using hk) hcompiler

theorem frames_onHeap {α : Type} (x : Linkage → HeapAttempt α) (s : Session) :
    s.Frames (SessionOp.outcome (SessionOp.onHeap x) s).2 := ⟨rfl, rfl, rfl⟩

theorem Sound.createProxy (h : s.Sound) (i : Nat) (q : ProxyRequest) (handler : Handler) :
    (SessionOp.outcome (SessionOp.createProxy i q handler) s).2.Sound := by
  have hcompiled := h.compileProxy i q
  rw [SessionOp.createProxy, SessionOp.outcome_bind]
  rcases hp : SessionOp.outcome (SessionOp.compileProxy i q) s with ⟨e | p, t⟩ <;>
    rw [hp] at hcompiled
  · exact hcompiled
  · simp only [SessionOp.outcome_get_bind]
    exact hcompiled.frames (frames_onHeap _ t)

/-! ## New compilers and reflectors -/

theorem Sound.addCompiler (h : s.Sound) {k : Nat} (hk : k < s.registries.length)
    (settings : ProxySettings) :
    Sound { s with compilers := s.compilers ++ [(.ofSettings settings, k)] } := by
  refine ⟨h.nonempty, h.registries, fun e he => ?_, h.reflectors⟩
  rcases List.mem_append.mp he with he | he
  · exact h.compilers e he
  · obtain rfl := List.mem_singleton.mp he
    exact ⟨hk, ProxyCompiler.sound_initial _ _ _⟩

theorem Sound.addEntry (h : s.Sound) {e : ReflectorEntry} (he : e.reflector.New)
    (hk : e.registry < s.registries.length) :
    Sound { s with reflectors := s.reflectors ++ [e] } := by
  refine ⟨h.nonempty, h.registries, h.compilers, fun e' he' => ?_⟩
  rcases List.mem_append.mp he' with he' | he'
  · exact h.reflectors e' he'
  · obtain rfl := List.mem_singleton.mp he'
    obtain ⟨settings, hproxies⟩ := he
    exact ⟨hk, hproxies ▸ ProxyCompiler.sound_initial _ _ _⟩

theorem Sound.addReflector (h : s.Sound) {r : Reflector} (hr : r.New)
    {parts : SessionOp.ReflectorParts} (hk : ∀ k ∈ parts.registry, k < s.registries.length) :
    (SessionOp.outcome (SessionOp.addReflector r parts) s).2.Sound := by
  have hnew : s.registries.length < (s.registries ++ [Registry.initial]).length := by simp
  obtain ⟨settings, registry, cache, resolver, strategies, allocators⟩ := parts
  cases registry with
  | some k =>
      have hlt : k < s.registries.length := hk k rfl
      cases cache with
      | some c => exact h.addEntry hr hlt
      | none =>
          have hcached : Sound { s with caches := s.caches ++ [.empty] } :=
            h.frames ⟨rfl, rfl, rfl⟩
          exact hcached.addEntry hr hlt
  | none =>
      cases cache with
      | some c => exact h.newRegistry.addEntry hr hnew
      | none =>
          have hcached : Sound { s with
              registries := s.registries ++ [.initial]
              caches := s.caches ++ [.empty] } :=
            h.newRegistry.frames ⟨rfl, rfl, rfl⟩
          exact hcached.addEntry hr hnew

theorem Sound.createReflector (h : s.Sound) (settings : Settings) :
    (SessionOp.outcome (SessionOp.createReflector settings) s).2.Sound := by
  have hr := Reflector.new_create settings none none
  rw [SessionOp.createReflector, SessionOp.outcome_bind, SessionOp.outcome_ofLogged]
  exact h.addReflector hr (by simp)

theorem Sound.buildReflector (h : s.Sound) {parts : SessionOp.ReflectorParts}
    (hk : ∀ k ∈ parts.registry, k < s.registries.length) (file : Option Config.Source) :
    (SessionOp.outcome (SessionOp.buildReflector parts file) s).2.Sound := by
  have hbuilt (settings : Settings) : (SessionOp.outcome (do
      let r ← SessionOp.ofAttempt (Reflector.build settings parts.strategies parts.allocators)
      SessionOp.addReflector r parts) s).2.Sound := by
    rw [SessionOp.outcome_bind, SessionOp.outcome_ofAttempt]
    cases hr : Attempt.outcome (Reflector.build settings parts.strategies parts.allocators) with
    | error e => exact h
    | ok r => exact h.addReflector (Reflector.new_of_build hr) hk
  cases file with
  | none => exact hbuilt parts.settings
  | some source =>
      rw [SessionOp.buildReflector, SessionOp.outcome_bind, SessionOp.outcome_ofLogged]
      cases hloaded : (Config.load source []).run.value with
      | error e => exact h
      | ok settings => exact hbuilt settings

theorem Sound.define (h : s.Sound) (k : Nat) (c : Class) :
    (SessionOp.outcome (SessionOp.define k c) s).2.Sound := by
  rw [SessionOp.define, SessionOp.outcome_get_bind, SessionOp.outcome_bind,
    SessionOp.outcome_ofAttempt, Registry.outcome_define]
  cases hdefined : (s.registry k).insert? c with
  | error e => exact h
  | ok r =>
      exact h.setRegistry (.define (h.reachable_registry k) hdefined)
        (Registry.grows_of_insert? hdefined) s.files s.nextSerial

/-! ## All operations -/

/-- What one operation, successful or not, can make of a session. A registry that a new compiler or
reflector is given must exist. -/
inductive Step (s : Session) : Session → Prop
  | link (r : Routine) : Step s (s.linkRoutine r).2
  | take : Step s s.takeRecorded.2
  | fresh : Step s (SessionOp.fresh.outcome s).2
  | build (spec : ClassSpec) : Step s ((SessionOp.build spec).outcome s).2
  | newRegistry : Step s (SessionOp.newRegistry.outcome s).2
  | define (k : Nat) (c : Class) : Step s ((SessionOp.define k c).outcome s).2
  | newCache : Step s (SessionOp.newCache.outcome s).2
  | compileConstructor (ss : List Strategy) (m : ConstructorMember) :
      Step s ((SessionOp.compileConstructor ss m).outcome s).2
  | compileField (ss : List Strategy) (m : FieldMember) :
      Step s ((SessionOp.compileField ss m).outcome s).2
  | cacheInvoker (k : Nat) (key : MemberKey) (product : Except Failure CompiledInvoker) :
      Step s ((SessionOp.cacheInvoker k key product).outcome s).2
  | clearCache (k : Nat) : Step s ((SessionOp.clearCache k).outcome s).2
  | createReflector (settings : Settings) :
      Step s ((SessionOp.createReflector settings).outcome s).2
  | buildReflector (parts : SessionOp.ReflectorParts) (file : Option Config.Source)
      (exist : ∀ k ∈ parts.registry, k < s.registries.length) :
      Step s ((SessionOp.buildReflector parts file).outcome s).2
  | constructorInvoker (i : Nat) (owner : Class) (params : Option (List TypeRef)) :
      Step s ((SessionOp.constructorInvoker i owner params).outcome s).2
  | fieldInvoker (i : Nat) (owner : Class) (name : String) :
      Step s ((SessionOp.fieldInvoker i owner name).outcome s).2
  /-- Whatever is done with objects: making them, using their fields and methods, binding handlers. -/
  | onHeap {α : Type} (x : Linkage → HeapAttempt α) : Step s ((SessionOp.onHeap x).outcome s).2
  | newCompiler (k : Nat) (settings : ProxySettings) (exist : k < s.registries.length) :
      Step s ((SessionOp.newCompiler k settings).outcome s).2
  | compileWith (i : Nat) (q : ProxyRequest) : Step s ((SessionOp.compileWith i q).outcome s).2
  | compileProxy (i : Nat) (q : ProxyRequest) : Step s ((SessionOp.compileProxy i q).outcome s).2
  | createProxy (i : Nat) (q : ProxyRequest) (handler : Handler) :
      Step s ((SessionOp.createProxy i q handler).outcome s).2
  | proxyOf (c : Class) (q : ProxyRequest) (intercepted : List String) :
      Step s ((SessionOp.proxyOf c q intercepted).outcome s).2
  | dump (dir : String) (p : ProxyClass) : Step s ((SessionOp.dump dir p).outcome s).2
  | touch (path : String) : Step s ((SessionOp.touch path).outcome s).2

theorem sound_initial : initial.Sound where
  nonempty := Nat.one_pos
  registries := by simp [initial, Registry.Reachable.initial]
  compilers := by simp [initial]
  reflectors := by
    intro e he
    obtain rfl := List.mem_singleton.mp he
    exact ⟨Nat.one_pos, ProxyCompiler.sound_initial _ _ _⟩

theorem Sound.step (h : s.Sound) (hst : s.Step t) : t.Sound := by
  cases hst with
  | newRegistry => exact h.newRegistry
  | define k c => exact h.define k c
  | createReflector settings => exact h.createReflector settings
  | buildReflector parts file hk => exact h.buildReflector hk file
  | newCompiler k settings hk => exact h.addCompiler hk settings
  | compileWith i q => exact h.compileWith i q
  | compileProxy i q => exact h.compileProxy i q
  | createProxy i q handler => exact h.createProxy i q handler
  | build spec =>
      refine h.frames ?_
      rw [SessionOp.build, SessionOp.outcome_fresh_bind, SessionOp.outcome_ofExcept]
      exact ⟨rfl, rfl, rfl⟩
  | compileConstructor ss m =>
      refine h.frames ?_
      rw [SessionOp.compileConstructor, SessionOp.outcome_fresh_bind, SessionOp.outcome_bind,
        SessionOp.outcome_ofAttempt]
      cases Attempt.outcome (Metaobject.compileConstructor ss m) <;> exact ⟨rfl, rfl, rfl⟩
  | compileField ss m =>
      refine h.frames ?_
      rw [SessionOp.compileField, SessionOp.outcome_fresh_bind, SessionOp.outcome_bind,
        SessionOp.outcome_ofAttempt]
      cases Attempt.outcome (Metaobject.compileField ss m) <;> exact ⟨rfl, rfl, rfl⟩
  | cacheInvoker k key product =>
      refine h.frames ?_
      rw [SessionOp.cacheInvoker, SessionOp.outcome_get_bind, SessionOp.outcome_bind,
        SessionOp.outcome_onCache]
      cases ((s.cache k).getOrMake key fun _ => ExceptT.mk (pure product)).value.answer <;>
        exact ⟨rfl, rfl, rfl⟩
  | touch path =>
      refine h.frames ?_
      rw [SessionOp.touch, SessionOp.outcome_get_bind]
      generalize (do
        FileChange.makeDirectories (Path.parent path)
        FileChange.write path none : FileChange (Option ClassDump) Unit) = change
      rcases change.run s.files with ⟨result, files⟩
      exact ⟨rfl, rfl, rfl⟩
  | _ => exact h.frames ⟨rfl, rfl, rfl⟩

/-- The sessions that operations lead to. -/
inductive Reachable : Session → Prop
  | initial : Reachable .initial
  | step {s t : Session} : Reachable s → s.Step t → Reachable t

theorem Reachable.sound (h : s.Reachable) : s.Sound := by
  induction h with
  | initial => exact sound_initial
  | step _ hst ih => exact ih.step hst

end Session

end Metaobject
