import Metaobject.Proofs.Proxy.Growth
import Metaobject.Reflector

/-!
# When requests for invokers fail

The strategies are tried in order. The last one of a reflector's own makes an invoker for every
member, so such a reflector fails only where its resolver does not find the member, and answers with
an invoker of the first tier that is switched on and fits the member. What is kept in the cache is
answered without looking for the member again. Where only the usual resolver has filled the cache,
through registries that have only grown since, a member that is kept is still found, so the cache
makes no difference to which requests fail.
-/

namespace Metaobject

/-! ## The tiers of a reflector -/

/-- The result of trying the strategies in order: the invoker of the first that succeeds, and when
all fail the tiers with their failures, in order. -/
structure TriesInOrder {α : Type} (target : String) (make : Strategy → Except TierFailure α)
    (strategies : List Strategy) (result : Except Failure α) : Prop where
  ok_iff : ∀ {a}, result = .ok a ↔ ∃ before s after, strategies = before ++ s :: after ∧
    (∀ r ∈ before, ∃ e, make r = .error e) ∧ make s = .ok a
  error_iff : ∀ {e}, result = .error e ↔ ∃ failures,
    List.Forall₂ (fun s f => f.1 = s.tier ∧ make s = .error f.2) strategies failures ∧
      e = .compilationFailure target (.tiers failures)

theorem triesInOrder_firstSuccess {α : Type} (target : String)
    (make : Strategy → Except TierFailure α) (strategies : List Strategy) :
    TriesInOrder target make strategies
      (Attempt.outcome (firstSuccess target make [] strategies)) :=
  ⟨outcome_firstSuccess_eq_ok_iff, outcome_firstSuccess_eq_error_iff⟩

/-- Whether handles may be bound to the constructor. -/
def ConstructorMember.bindable (m : ConstructorMember) : Bool :=
  m.constructor.visibility = .pub || m.owner.openToHandles

/-- Whether handles may be bound to the field: they can write. -/
def FieldMember.bindable (m : FieldMember) : Bool :=
  (m.field.visibility = .pub || m.declaring.openToHandles) && !m.field.isFinal

namespace InvokerSettings

/-- The tier for a member, by whether it has a native entry and whether handles may be bound to
it. -/
def tierFor (s : InvokerSettings) (hasEntry bindable : Bool) : Tier :=
  if s.nativeTier && hasEntry then .native
  else if s.handleTier && bindable then .typedHandle
  else .reflective

def memberTier (s : InvokerSettings) : ConstructorMember ⊕ FieldMember → Tier
  | .inl m => s.tierFor m.constructor.native.isSome m.bindable
  | .inr m => s.tierFor m.field.native.isSome m.bindable

end InvokerSettings

namespace Strategy

variable {enabled : Bool}

/-- The strategy makes an invoker of the tier exactly when the condition holds. -/
def MakesWhen {α : Type} (made : Except TierFailure α) (tierOf : α → Tier) (tier : Tier)
    (condition : Bool) : Prop :=
  match made with
  | .ok a => condition = true ∧ tierOf a = tier
  | .error _ => condition = false

theorem makesWhen_native_constructor (m : ConstructorMember) :
    MakesWhen ((native enabled).constructor m) ConstructorInvoker.tier .native
      (enabled && m.constructor.native.isSome) := by
  cases enabled <;> cases hentry : m.constructor.native <;>
    simp [MakesWhen, native, hentry, ConstructorInvoker.tier]

theorem makesWhen_native_field (m : FieldMember) :
    MakesWhen ((native enabled).field m) FieldInvoker.tier .native
      (enabled && m.field.native.isSome) := by
  cases enabled <;> cases hentry : m.field.native <;>
    simp [MakesWhen, native, hentry, FieldInvoker.tier]

theorem checkAccess_eq (declaring : Class) (visibility : Visibility) (member : String) :
    checkAccess enabled declaring visibility member =
      if enabled && (visibility = .pub || declaring.openToHandles) then .ok ()
      else .error (if enabled then .inaccessible member else .disabled .typedHandle) := by
  cases enabled <;> simp [checkAccess]

theorem makesWhen_typedHandle_constructor (m : ConstructorMember) :
    MakesWhen ((typedHandle enabled).constructor m) ConstructorInvoker.tier .typedHandle
      (enabled && m.bindable) := by
  simp only [MakesWhen, typedHandle, checkAccess_eq, ConstructorMember.bindable]
  cases enabled && (m.constructor.visibility = .pub || m.owner.openToHandles)
  · rfl
  · exact ⟨rfl, rfl⟩

theorem makesWhen_typedHandle_field (m : FieldMember) :
    MakesWhen ((typedHandle enabled).field m) FieldInvoker.tier .typedHandle
      (enabled && m.bindable) := by
  simp only [MakesWhen, typedHandle, checkAccess_eq, FieldMember.bindable, ← Bool.and_assoc]
  cases enabled && (m.field.visibility = .pub || m.declaring.openToHandles)
  · rfl
  · cases m.field.isFinal
    · exact ⟨rfl, rfl⟩
    · rfl

/-- The reflective strategy never fails, so the first tier that is switched on and fits makes the
invoker. -/
theorem firstSuccess_ofSettings {α : Type} {target : String}
    {make : Strategy → Except TierFailure α} {tierOf : α → Tier} {s : InvokerSettings}
    {hasEntry bindable : Bool}
    (hnative : MakesWhen (make (native s.nativeTier)) tierOf .native (s.nativeTier && hasEntry))
    (hhandle : MakesWhen (make (typedHandle s.handleTier)) tierOf .typedHandle
      (s.handleTier && bindable))
    (hreflective : MakesWhen (make reflective) tierOf .reflective true) :
    ∃ a, Attempt.outcome (firstSuccess target make [] (ofSettings s)) = .ok a ∧
      tierOf a = s.tierFor hasEntry bindable := by
  unfold ofSettings standard InvokerSettings.tierFor
  cases hn : make (native s.nativeTier) with
  | ok a =>
      rw [hn] at hnative
      exact ⟨a, outcome_firstSuccess_cons_ok hn, by rw [if_pos hnative.1, hnative.2]⟩
  | error e =>
      simp only [MakesWhen, hn] at hnative
      rw [outcome_firstSuccess_cons_error hn, if_neg (by simp [hnative])]
      cases hh : make (typedHandle s.handleTier) with
      | ok a =>
          rw [hh] at hhandle
          exact ⟨a, outcome_firstSuccess_cons_ok hh, by rw [if_pos hhandle.1, hhandle.2]⟩
      | error f =>
          simp only [MakesWhen, hh] at hhandle
          rw [outcome_firstSuccess_cons_error hh, if_neg (by simp [hhandle])]
          cases hr : make reflective with
          | ok a =>
              rw [hr] at hreflective
              exact ⟨a, outcome_firstSuccess_cons_ok hr, hreflective.2⟩
          | error g =>
              rw [hr] at hreflective
              cases hreflective

end Strategy

theorem compileConstructor_ofSettings (s : InvokerSettings) (m : ConstructorMember) :
    ∃ i, Attempt.outcome (compileConstructor (Strategy.ofSettings s) m) = .ok i ∧
      i.tier = s.memberTier (.inl m) :=
  Strategy.firstSuccess_ofSettings (Strategy.makesWhen_native_constructor m)
    (Strategy.makesWhen_typedHandle_constructor m) ⟨rfl, rfl⟩

theorem compileField_ofSettings (s : InvokerSettings) (m : FieldMember) :
    ∃ i, Attempt.outcome (compileField (Strategy.ofSettings s) m) = .ok i ∧
      i.tier = s.memberTier (.inr m) :=
  Strategy.firstSuccess_ofSettings (Strategy.makesWhen_native_field m)
    (Strategy.makesWhen_typedHandle_field m) ⟨rfl, rfl⟩

/-! ## Requests through a cache -/

/-- The request of a reflector with these settings, which tries its own strategies. -/
def InvokerSettings.request (s : InvokerSettings) (resolver : Resolver) (serial : Nat)
    (key : MemberKey) : InvokerRequest :=
  ⟨key, resolver, Strategy.ofSettings s, serial⟩

namespace InvokerRequest

variable {resolver : Resolver} {key : MemberKey} (s : InvokerSettings) (serial : Nat)

/-- A reflector's own strategies make an invoker as soon as the member is found. -/
theorem make_ofSettings_of_resolve {m : ConstructorMember ⊕ FieldMember}
    (h : resolver.resolve key = .ok m) :
    ∃ i, Attempt.outcome (s.request resolver serial key).make = .ok i ∧ i.tier = s.memberTier m := by
  have hmake : Attempt.outcome (s.request resolver serial key).make =
      (s.request resolver serial key).compile m := make_of_resolve h
  rw [hmake]
  cases m with
  | inl m =>
      obtain ⟨i, hi, htier⟩ := compileConstructor_ofSettings s m
      exact ⟨.constructor serial i, Attempt.map_eq_ok.mpr ⟨i, hi, rfl⟩, htier⟩
  | inr m =>
      obtain ⟨i, hi, htier⟩ := compileField_ofSettings s m
      exact ⟨.field serial i, Attempt.map_eq_ok.mpr ⟨i, hi, rfl⟩, htier⟩

theorem make_ofSettings_eq_error_iff {e : Failure} :
    Attempt.outcome (s.request resolver serial key).make = .error e ↔
      resolver.resolve key = .error e := by
  refine ⟨fun h => ?_, fun h => make_of_resolve_error h⟩
  cases hresolve : resolver.resolve key with
  | ok m =>
      obtain ⟨i, hi, -⟩ := make_ofSettings_of_resolve s serial hresolve
      cases h.symm.trans hi
  | error f =>
      have hfailed : Attempt.outcome (s.request resolver serial key).make = .error f :=
        make_of_resolve_error hresolve
      exact congrArg Except.error (Except.error.inj (hfailed.symm.trans h))

end InvokerRequest

namespace Ledger

section Requests

variable {l : Ledger} (h : l.Balanced) {s : InvokerSettings} {resolver : Resolver} {serial : Nat}
  {key : MemberKey}
include h

theorem Balanced.request_eq_error_iff {e : Failure} :
    (l.cache.request (s.request resolver serial key)).answer = .error e ↔
      l.cache.get? key = none ∧ resolver.resolve key = .error e := by
  have hserves := h.serves_request (s.request resolver serial key)
  rw [← InvokerRequest.make_ofSettings_eq_error_iff s serial]
  generalize l.cache.request (s.request resolver serial key) = reply at hserves ⊢
  generalize Attempt.outcome (s.request resolver serial key).make = fresh at hserves ⊢
  have hkey : (s.request resolver serial key).key = key := rfl
  rw [hkey] at hserves
  cases hserves with
  | hit kept => simp [kept]
  | made missing success => simp [success]
  | failed missing failure => simp [missing, failure]

theorem Balanced.request_of_missing {m : ConstructorMember ⊕ FieldMember}
    (hmissing : l.cache.get? key = none) (hresolve : resolver.resolve key = .ok m) :
    ∃ i, (l.cache.request (s.request resolver serial key)).answer = .ok i ∧
      i.tier = s.memberTier m := by
  have hserves := h.serves_request (s.request resolver serial key)
  obtain ⟨i, hmake, htier⟩ := InvokerRequest.make_ofSettings_of_resolve s serial hresolve
  rw [hmake] at hserves
  refine ⟨i, ?_, htier⟩
  generalize l.cache.request (s.request resolver serial key) = reply at hserves ⊢
  cases hserves with
  | hit kept => cases hmissing.symm.trans kept
  | made missing success => exact success.symm
  | failed missing failure => cases failure

end Requests

/-- What is kept was asked for through a resolver that finds the member. -/
theorem exists_resolve_of_kept {calls : List CacheCall} {key : MemberKey}
    (howner : MemberKey.Identify (calls.filterMap CacheCall.key?) key.owner)
    {invoker : CompiledInvoker} (hkept : (empty.run calls).cache.get? key = some invoker) :
    ∃ q, .request q ∈ calls ∧ q.key = key ∧ ∃ m, q.resolver.resolve key = .ok m := by
  obtain ⟨e, he, hkey, hinvoker⟩ := Cells.exists_of_get? hkept
  obtain ⟨q, hq, hqkey, hmake⟩ := (traced_run calls).entries e he invoker hinvoker
  have hasked : q.key ∈ calls.filterMap CacheCall.key? :=
    List.mem_filterMap.mpr ⟨.request q, hq, rfl⟩
  have hsame : q.key = key := howner.eq_of_beq hasked (hqkey ▸ BEq.symm hkey)
  obtain ⟨m, hm, -⟩ := InvokerRequest.make_eq_ok hmake
  exact ⟨q, hq, hsame, m, hsame ▸ hm⟩

/-- Where a registry can be relied on for a key: who asked for the key before looked it up with the
usual resolver, in registries that have no part in what the key means or have grown into this one. -/
def Covers (r : Registry) (calls : List CacheCall) (key : MemberKey) : Prop :=
  ∀ q, .request q ∈ calls → q.key = key →
    ∃ r₀ : Registry, q.resolver = r₀.resolver ∧ (key.Definite ∨ r₀.Grows r)

end Ledger

theorem Registry.Grows.exists_resolve {r r' : Registry} (h : r.Grows r') {key : MemberKey}
    {m : ConstructorMember ⊕ FieldMember} (hm : r.resolve key = .ok m) :
    ∃ m', r'.resolve key = .ok m' := by
  cases key with
  | constructor owner params =>
      obtain ⟨n, hn, -⟩ := Attempt.map_eq_ok.mp hm
      obtain ⟨j, -, hj⟩ := h.resolveConstructor hn
      exact ⟨.inl ⟨n.owner, j⟩, Attempt.map_eq_ok.mpr ⟨_, hj, rfl⟩⟩
  | field owner name => exact ⟨m, hm⟩

theorem Ledger.request_eq_error_iff_of_covers {calls : List CacheCall} {key : MemberKey}
    {r : Registry} (howner : MemberKey.Identify (calls.filterMap CacheCall.key?) key.owner)
    (hcovers : Covers r calls key) (s : InvokerSettings) (serial : Nat) {e : Failure} :
    ((empty.run calls).cache.request (s.request r.resolver serial key)).answer = .error e ↔
      r.resolve key = .error e := by
  rw [(balanced_empty.run calls).request_eq_error_iff]
  refine ⟨And.right, fun hresolve => ⟨?_, hresolve⟩⟩
  rw [Option.eq_none_iff_forall_ne_some]
  intro invoker hkept
  -- what is kept has been found before, so it is found now
  obtain ⟨q, hq, hkey, m, hm⟩ := exists_resolve_of_kept howner hkept
  obtain ⟨r₀, hresolver, hgrown⟩ := hcovers q hq hkey
  rw [hresolver] at hm
  have hfound : ∃ m', r.resolve key = .ok m' := by
    rcases hgrown with hdefinite | hgrows
    · exact ⟨m, (Registry.resolve_of_definite hdefinite).trans hm⟩
    · exact hgrows.exists_resolve hm
  obtain ⟨m', hm'⟩ := hfound
  cases hm'.symm.trans hresolve

/-! ## The requests of a factory -/

namespace Factory

/-- What a call asks of the cache. -/
def cacheCall? (w : Factory) : Call → Option CacheCall
  | .invoker strategies serial key => some (.request (w.request strategies serial key))
  | .clearCache => some .clear
  | .define _ | .addCompiler _ _ | .compile _ _ _ => none

def cacheCalls (w : Factory) : List Call → List CacheCall
  | [] => []
  | call :: calls => (w.cacheCall? call).toList ++ (w.step call).cacheCalls calls

theorem cache_step (w : Factory) {l : Ledger} (hcache : l.cache = w.cache) (call : Call) :
    (l.run (w.cacheCall? call).toList).cache = (w.step call).cache := by
  cases call with
  | define c =>
      have hsame : (w.step (.define c)).cache = w.cache :=
        w.cache_step_of_no_request rfl (by simp)
      exact hcache.trans hsame.symm
  | addCompiler space dumpDir => exact hcache
  | compile i serial q => exact hcache.trans (w.cache_compile i serial q).symm
  | invoker strategies serial key =>
      simp [cacheCall?, Ledger.run, Ledger.step, Ledger.note, step, hcache]
  | clearCache => simp [cacheCall?, Ledger.run, Ledger.step, step, hcache]

theorem cache_run (w : Factory) {l : Ledger} (hcache : l.cache = w.cache) (calls : List Call) :
    (l.run (w.cacheCalls calls)).cache = (w.run calls).cache := by
  induction calls generalizing w l with
  | nil => exact hcache
  | cons call calls ih =>
      have hsplit : l.run (w.cacheCalls (call :: calls)) =
          (l.run (w.cacheCall? call).toList).run ((w.step call).cacheCalls calls) :=
        List.foldl_append
      rw [hsplit]
      exact ih (w.step call) (w.cache_step hcache call)

/-- Each request reaches the cache with the registry of its time, which has grown since. -/
theorem mem_cacheCalls {w : Factory} (h : w.Sound) {calls : List Call} {q : InvokerRequest}
    (hq : .request q ∈ w.cacheCalls calls) :
    q.key ∈ calls.filterMap Call.key? ∧
      ∃ r : Registry, q.resolver = r.resolver ∧ r.Grows (w.run calls).registry := by
  induction calls generalizing w with
  | nil => cases hq
  | cons call calls ih =>
      obtain ⟨hstep, hkeeps⟩ := h.step call
      rcases List.mem_append.mp hq with hq | hq
      · have hcall : w.cacheCall? call = some (.request q) := Option.mem_toList.mp hq
        cases call <;> cases hcall
        exact ⟨List.mem_cons_self, w.registry, rfl, (h.run _).2.registry⟩
      · obtain ⟨hkey, hgrows⟩ := ih hstep hq
        refine ⟨?_, hgrows⟩
        obtain ⟨asked, hasked, hsame⟩ := List.mem_filterMap.mp hkey
        exact List.mem_filterMap.mpr ⟨asked, List.mem_cons_of_mem _ hasked, hsame⟩

theorem request_eq_error_iff_resolve {files : DumpFiles} {calls : List Call} {key : MemberKey}
    (howner : MemberKey.Identify (calls.filterMap Call.key?) key.owner) (s : InvokerSettings)
    (serial : Nat) {e : Failure} :
    (((initial files).run calls).cache.request
        (((initial files).run calls).request (Strategy.ofSettings s) serial key)).answer = .error e ↔
      ((initial files).run calls).registry.resolve key = .error e := by
  have hsound := sound_initial files
  have hcache := cache_run (initial files) (l := Ledger.empty) rfl calls
  rw [← hcache]
  refine Ledger.request_eq_error_iff_of_covers ?_ (fun q hq _ => ?_) s serial
  · intro k hk
    obtain ⟨call, hcall, hkey⟩ := List.mem_filterMap.mp hk
    cases call with
    | clear => cases hkey
    | request q =>
        cases hkey
        exact howner q.key (mem_cacheCalls hsound hcall).1
  · obtain ⟨-, r, hresolver, hgrows⟩ := mem_cacheCalls hsound hq
    exact ⟨r, hresolver, .inr hgrows⟩

end Factory

/-! ## All requests -/

/-- Invokers are made by the first strategy that succeeds. -/
structure CompilesInOrder (strategies : List Strategy) : Prop where
  constructor : ∀ m, TriesInOrder m.text (fun s => s.constructor m) strategies
    (Attempt.outcome (compileConstructor strategies m))
  field : ∀ m, TriesInOrder m.text (fun s => s.field m) strategies
    (Attempt.outcome (compileField strategies m))

/-- What a reflector with these settings answers, whatever its cache has been asked for, by
reflectors with resolvers and strategies of their own. -/
structure InvokerSettings.Answers (s : InvokerSettings) : Prop where
  constructor : ∀ m, ∃ i, Attempt.outcome (compileConstructor (Strategy.ofSettings s) m) = .ok i ∧
    i.tier = s.memberTier (.inl m)
  field : ∀ m, ∃ i, Attempt.outcome (compileField (Strategy.ofSettings s) m) = .ok i ∧
    i.tier = s.memberTier (.inr m)
  error_iff : ∀ (calls : List CacheCall) resolver serial key e,
    ((Ledger.empty.run calls).cache.request (s.request resolver serial key)).answer = .error e ↔
      (Ledger.empty.run calls).cache.get? key = none ∧ resolver.resolve key = .error e
  tier : ∀ (calls : List CacheCall) resolver serial key m,
    (Ledger.empty.run calls).cache.get? key = none → resolver.resolve key = .ok m →
      ∃ i, ((Ledger.empty.run calls).cache.request (s.request resolver serial key)).answer = .ok i ∧
        i.tier = s.memberTier m
  /-- With the usual resolver, in a registry that covers what the cache has been asked for. -/
  covered : ∀ (calls : List CacheCall) (r : Registry) serial key,
    MemberKey.Identify (calls.filterMap CacheCall.key?) key.owner → Ledger.Covers r calls key →
      ∀ e, ((Ledger.empty.run calls).cache.request (s.request r.resolver serial key)).answer =
        .error e ↔ r.resolve key = .error e
  /-- With a cache and a growing registry of its own. -/
  own : ∀ files (calls : List Factory.Call) serial key,
    MemberKey.Identify (calls.filterMap Factory.Call.key?) key.owner →
      ∀ e, (((Factory.initial files).run calls).cache.request
          (((Factory.initial files).run calls).request (Strategy.ofSettings s) serial key)).answer =
        .error e ↔ ((Factory.initial files).run calls).registry.resolve key = .error e

/-- Any strategies are tried in order. The strategies of a reflector make an invoker for every
member, of the first tier that is switched on and fits it. Whatever its cache has been asked for, and
by whom, a reflector fails exactly where nothing is kept for the key and the member is not found, with
the failure of the search, and what it makes has the tier of the member that is found. Where the
registry covers what the cache has been asked for, it fails exactly where the member is not found: so
it does with a cache and a growing registry of its own. -/
theorem InvokerSettings.requests_answered :
    (∀ strategies, CompilesInOrder strategies) ∧ ∀ s : InvokerSettings, s.Answers := by
  refine ⟨fun strategies => ⟨fun m => ?_, fun m => ?_⟩, fun s => ?_⟩
  · exact triesInOrder_firstSuccess m.text (fun s => s.constructor m) strategies
  · exact triesInOrder_firstSuccess m.text (fun s => s.field m) strategies
  have hbalanced (calls : List CacheCall) : (Ledger.empty.run calls).Balanced :=
    Ledger.balanced_empty.run calls
  exact {
    constructor := compileConstructor_ofSettings s
    field := compileField_ofSettings s
    error_iff := fun calls _ _ _ _ => (hbalanced calls).request_eq_error_iff
    tier := fun calls _ _ _ _ => (hbalanced calls).request_of_missing
    covered := fun _ _ serial _ howner hcovers _ =>
      Ledger.request_eq_error_iff_of_covers howner hcovers s serial
    own := fun _ _ serial _ howner _ => Factory.request_eq_error_iff_resolve howner s serial }

/-! ### Caches that others have used -/

namespace Samples

def archive : Class :=
  { ClassSpec.named "app.Archive" .ordinary with
    constructors := [⟨[.named "app.Repository"], .pub, none, none⟩] }.described 6

def archiveKey : MemberKey := .constructor archive forSqlRepository

/-- A registry in which the class that is asked for is defined, and one in which it is not yet. -/
def sqlRegistry : Registry := ⟨[.root, repository, sqlRepository]⟩

def plainRegistry : Registry := ⟨[.root, repository]⟩

/-- A resolver with a rule of its own: every field is called `id`. -/
def aliasing : Resolver := ⟨plainRegistry.resolveConstructor, fun c _ => c.resolveField "id"⟩

/-- A reflector with a strategy of its own asks before the class is defined, and one with a resolver
of its own asks for a field that there is not. -/
def archiveCalls : List CacheCall :=
  [.request ⟨archiveKey, plainRegistry.resolver, [.reflective], 0⟩,
    .request ⟨.field (circle.described 2) "area", aliasing, [.reflective], 1⟩]

def archiveFactory : Factory :=
  (Factory.initial ⟨[]⟩).run [.define repository, .invoker [.reflective] 0 archiveKey]

/-- Requests fail as long as the class is not defined, and no longer when the registry has grown. -/
theorem archive_requests_answered :
    ((Ledger.empty.run archiveCalls).cache.request
        (InvokerSettings.request ⟨true, true⟩ plainRegistry.resolver 2 archiveKey)).answer =
        .error (.memberNotFound "app.Archive" "<init>(app.SqlRepository)") ∧
      (∀ e, ((Ledger.empty.run archiveCalls).cache.request
        (InvokerSettings.request ⟨true, true⟩ sqlRegistry.resolver 2 archiveKey)).answer ≠
          .error e) ∧
      (archiveFactory.cache.request
        (archiveFactory.request (Strategy.ofSettings ⟨true, true⟩) 2 archiveKey)).answer =
        .error (.memberNotFound "app.Archive" "<init>(app.SqlRepository)") := by
  obtain ⟨-, hsettings⟩ := InvokerSettings.requests_answered
  have hanswers := hsettings ⟨true, true⟩
  have hidentify : MemberKey.Identify (archiveCalls.filterMap CacheCall.key?) archive := by
    intro key hkey hid
    rcases List.mem_pair.mp hkey with rfl | rfl
    · rfl
    · cases hid
  have hgrows : plainRegistry.Grows sqlRegistry :=
    Registry.grows_of_insert? (rfl : plainRegistry.insert? sqlRepository = .ok sqlRegistry)
  have hcovers {r : Registry} (h : plainRegistry.Grows r) :
      Ledger.Covers r archiveCalls archiveKey := by
    intro q hq hkey
    rcases List.mem_pair.mp hq with hq | hq <;> cases hq
    · exact ⟨plainRegistry, rfl, .inr h⟩
    · cases hkey
  refine ⟨?_, fun e he => ?_, ?_⟩
  · exact (hanswers.covered archiveCalls plainRegistry 2 archiveKey hidentify (hcovers id) _).mpr rfl
  · have hresolve := (hanswers.covered archiveCalls sqlRegistry 2 archiveKey hidentify
      (hcovers hgrows) e).mp he
    cases hresolve
  · refine (hanswers.own ⟨[]⟩ _ 2 archiveKey ?_ _).mpr rfl
    intro key hkey _
    obtain rfl := List.mem_singleton.mp hkey
    rfl

/-- A reflector whose cache was filled through another registry answers though it does not find the
constructor, and one whose cache was filled through another resolver though it does not find the
field. -/
theorem archive_answered_from_cache :
    Registry.initial.resolve archiveKey =
        .error (.memberNotFound "app.Archive" "<init>(app.SqlRepository)") ∧
      ((Ledger.empty.run [.request ⟨archiveKey, sqlRegistry.resolver, tiers, 0⟩]).cache.request
          (InvokerSettings.request ⟨true, true⟩ Registry.initial.resolver 1 archiveKey)).answer =
        .ok (.constructor 0 (.handle archive ⟨[.named "app.Repository"], .pub, none, none⟩)) ∧
      Registry.initial.resolve (.field (circle.described 2) "area") =
        .error (.memberNotFound "app.Circle" "area") ∧
      ((Ledger.empty.run archiveCalls).cache.request (InvokerSettings.request ⟨true, true⟩
          Registry.initial.resolver 2 (.field (circle.described 2) "area"))).answer =
        .ok (.field 1 (.reflective (circle.described 2) "id" (.primitive .int))) :=
  ⟨rfl, rfl, rfl, rfl⟩

end Samples

end Metaobject
