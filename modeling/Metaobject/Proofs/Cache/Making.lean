import Metaobject.Invoker.Cache
import Metaobject.Proofs.Tiers

/-!
# What a request for an invoker does

What a request makes is what resolving the member and compiling an invoker for it comes to, whichever
resolver and strategies do that. `Cache.Serves` says all that a request can do to a cache: the answer is
what is kept for the key, or an invoker is made, which is then kept, or the making fails and nothing is
kept. The requests for constructors and for fields are such requests, as long as the cache keeps
invokers of the right kind.
-/

namespace Metaobject

/-! ## Why making an invoker fails -/

/-- The failure puts the blame on an invoker of the wrong kind in the cache. -/
def Failure.BlamesCache : Failure → Prop
  | .compilationFailure _ .cachedNoConstructor | .compilationFailure _ .cachedNoField => True
  | _ => False

section FirstSuccess

variable {α : Type} {target : String} {make : Strategy → Except TierFailure α}
  {failed : List (Tier × TierFailure)} {strategies : List Strategy}

theorem outcome_firstSuccess_cons_error {s : Strategy} {e : TierFailure} (h : make s = .error e) :
    Attempt.outcome (firstSuccess target make failed (s :: strategies)) =
      Attempt.outcome (firstSuccess target make (failed ++ [(s.tier, e)]) strategies) := by
  rw [firstSuccess, h]
  by_cases hunavailable : e.isUnavailable = true <;> simp [hunavailable]

theorem outcome_firstSuccess_cons_ok {s : Strategy} {a : α} (h : make s = .ok a) :
    Attempt.outcome (firstSuccess target make failed (s :: strategies)) = .ok a := by
  rw [firstSuccess, h, Attempt.outcome_report_bind, Attempt.outcome_pure]

/-- What comes out is what the first strategy that succeeds makes. -/
theorem outcome_firstSuccess_eq_ok_iff {a : α} :
    Attempt.outcome (firstSuccess target make failed strategies) = .ok a ↔
      ∃ before s after, strategies = before ++ s :: after ∧
        (∀ r ∈ before, ∃ e, make r = .error e) ∧ make s = .ok a := by
  induction strategies generalizing failed with
  | nil => simp [firstSuccess]
  | cons s ss ih =>
      cases hmake : make s with
      | ok b =>
          rw [outcome_firstSuccess_cons_ok hmake, Except.ok.injEq]
          constructor
          · rintro rfl
            exact ⟨[], s, ss, rfl, by simp, hmake⟩
          · rintro ⟨before, r, after, hsplit, hbefore, hr⟩
            rcases List.cons_eq_append_iff.mp hsplit with ⟨rfl, hcons⟩ | ⟨rest, rfl, -⟩
            · obtain ⟨rfl, -⟩ := List.cons.inj hcons
              exact Except.ok.inj (hmake.symm.trans hr)
            · obtain ⟨e, he⟩ := hbefore s List.mem_cons_self
              cases hmake.symm.trans he
      | error e =>
          rw [outcome_firstSuccess_cons_error hmake, ih]
          constructor
          · rintro ⟨before, r, after, rfl, hbefore, hr⟩
            exact ⟨s :: before, r, after, rfl, List.forall_mem_cons.mpr ⟨⟨e, hmake⟩, hbefore⟩, hr⟩
          · rintro ⟨before, r, after, hsplit, hbefore, hr⟩
            rcases List.cons_eq_append_iff.mp hsplit with ⟨rfl, hcons⟩ | ⟨rest, rfl, hrest⟩
            · obtain ⟨rfl, -⟩ := List.cons.inj hcons
              cases hmake.symm.trans hr
            · exact ⟨rest, r, after, hrest, (List.forall_mem_cons.mp hbefore).2, hr⟩

/-- It fails when all strategies fail, and tells their tiers and failures in order. -/
theorem outcome_firstSuccess_eq_error_iff {e : Failure} :
    Attempt.outcome (firstSuccess target make failed strategies) = .error e ↔
      ∃ failures, List.Forall₂ (fun s f => f.1 = s.tier ∧ make s = .error f.2) strategies failures ∧
        e = .compilationFailure target (.tiers (failed ++ failures)) := by
  induction strategies generalizing failed with
  | nil =>
      simp only [firstSuccess, Attempt.outcome_throw, Except.error.injEq, List.forall₂_nil_left_iff,
        exists_eq_left, List.append_nil]
      exact eq_comm
  | cons s ss ih =>
      cases hmake : make s with
      | ok b =>
          rw [outcome_firstSuccess_cons_ok hmake]
          refine ⟨nofun, ?_⟩
          rintro ⟨failures, hall, -⟩
          obtain ⟨f, rest, ⟨-, hf⟩, -, rfl⟩ := List.forall₂_cons_left_iff.mp hall
          cases hmake.symm.trans hf
      | error f =>
          rw [outcome_firstSuccess_cons_error hmake, ih]
          constructor
          · rintro ⟨failures, hall, he⟩
            exact ⟨(s.tier, f) :: failures, .cons ⟨rfl, hmake⟩ hall, by simpa using he⟩
          · rintro ⟨failures, hall, he⟩
            obtain ⟨⟨tier, g⟩, rest, ⟨htier, hg⟩, hrest, rfl⟩ := List.forall₂_cons_left_iff.mp hall
            cases htier
            cases hmake.symm.trans hg
            exact ⟨rest, hrest, by simpa using he⟩

theorem exists_of_firstSuccess_eq_ok {a : α}
    (h : Attempt.outcome (firstSuccess target make failed strategies) = .ok a) :
    ∃ s ∈ strategies, make s = .ok a := by
  obtain ⟨before, s, after, rfl, -, hmade⟩ := outcome_firstSuccess_eq_ok_iff.mp h
  exact ⟨s, List.mem_append_right before List.mem_cons_self, hmade⟩

theorem tiers_of_firstSuccess_eq_error {e : Failure}
    (h : Attempt.outcome (firstSuccess target make failed strategies) = .error e) :
    ∃ failures, e = .compilationFailure target (.tiers failures) := by
  obtain ⟨failures, -, he⟩ := outcome_firstSuccess_eq_error_iff.mp h
  exact ⟨failed ++ failures, he⟩

end FirstSuccess

theorem Class.not_blamesCache_of_defaultConstructor {c : Class} {e : Failure}
    (h : Attempt.outcome c.defaultConstructor = .error e) : ¬ e.BlamesCache := by
  unfold defaultConstructor at h
  split at h
  · cases h
  · split at h
    · cases h
    · split at h <;> (cases h; exact not_false)

theorem Registry.not_blamesCache_of_resolveConstructor {r : Registry} {c : Class}
    {params : Option (List TypeRef)} {e : Failure}
    (h : Attempt.outcome (r.resolveConstructor c params) = .error e) : ¬ e.BlamesCache := by
  rw [outcome_resolveConstructor] at h
  split at h
  · cases h
    exact not_false
  · cases params with
    | none =>
        cases hdefault : Attempt.outcome c.defaultConstructor with
        | ok i => simp [hdefault, Except.map] at h
        | error f =>
            obtain rfl : f = e := by simpa [hdefault, Except.map] using h
            exact Class.not_blamesCache_of_defaultConstructor hdefault
    | some types =>
        cases hmatch : r.matchingConstructor? c types with
        | some i => simp [hmatch, Except.map] at h
        | none =>
            simp only [hmatch, Except.map, Except.error.injEq] at h
            subst h
            exact not_false

theorem Class.not_blamesCache_of_resolveField {c : Class} {name : String} {e : Failure}
    (h : Attempt.outcome (c.resolveField name) = .error e) : ¬ e.BlamesCache := by
  unfold resolveField at h
  cases hfind : c.findMember? name c.belowRoot with
  | some m =>
      rw [hfind, Attempt.outcome_report_bind] at h
      cases h
  | none =>
      rw [hfind, Attempt.outcome_throw] at h
      cases h
      exact not_false

theorem Registry.not_blamesCache_of_resolve {r : Registry} {key : MemberKey} {e : Failure}
    (h : r.resolver.resolve key = .error e) : ¬ e.BlamesCache := by
  cases key with
  | constructor owner params => exact not_blamesCache_of_resolveConstructor (Attempt.map_eq_error.mp h)
  | field owner name => exact Class.not_blamesCache_of_resolveField (Attempt.map_eq_error.mp h)

/-! ## Resolvers and strategies that stay with what they are given -/

/-- What the resolver finds is a constructor of the class that was asked, or has the field name that
was asked for. -/
structure Resolver.Honest (resolver : Resolver) : Prop where
  owner : ∀ {c params m}, Attempt.outcome (resolver.constructor c params) = .ok m → m.owner = c
  name : ∀ {c name m}, Attempt.outcome (resolver.field c name) = .ok m → m.name = name

theorem Registry.honest_resolver (r : Registry) : r.resolver.Honest where
  owner := owner_of_resolveConstructor
  name h := (Class.resolveField_eq_ok h).2.1

/-- The invokers that the strategy makes have the class and the name of the member. -/
structure Strategy.Honest (s : Strategy) : Prop where
  owner : ∀ {m invoker}, s.constructor m = .ok invoker → invoker.owner = m.owner
  name : ∀ {m invoker}, s.field m = .ok invoker → invoker.name = m.name

namespace Strategy

theorem honest_native (enabled : Bool) : (native enabled).Honest where
  owner h := by
    obtain ⟨entry, -, rfl⟩ := constructor_of_native h
    rfl
  name h := by
    obtain ⟨accessor, -, rfl⟩ := field_of_native h
    rfl

theorem honest_typedHandle (enabled : Bool) : (typedHandle enabled).Honest where
  owner h := by
    rw [constructor_of_typedHandle h]
    rfl
  name h := by
    rw [field_of_typedHandle h]
    rfl

theorem honest_reflective : reflective.Honest where
  owner h := by
    rw [← Except.ok.inj h]
    rfl
  name h := by
    rw [← Except.ok.inj h]
    rfl

theorem honest_refusing (tier : Tier) (failure : TierFailure) : (refusing tier failure).Honest where
  owner h := by cases h
  name h := by cases h

theorem honest_of_standard {nativeTier handleTier : Bool} {s : Strategy}
    (h : s ∈ standard nativeTier handleTier) : s.Honest := by
  simp only [standard, List.mem_cons, List.not_mem_nil, or_false] at h
  rcases h with rfl | rfl | rfl
  · exact honest_native nativeTier
  · exact honest_typedHandle handleTier
  · exact honest_reflective

end Strategy

/-! ## What is made for a key -/

namespace MemberKey

/-- The invoker is of the kind that the key asks for. -/
def KindOf : MemberKey → CompiledInvoker → Prop
  | .constructor _ _, invoker => ∃ n k, invoker = .constructor n k
  | .field _ _, invoker => ∃ n k, invoker = .field n k

/-- The invoker constructs instances of the class of the key, or has the field name of the key. -/
def Describes : MemberKey → CompiledInvoker → Prop
  | .constructor owner _, .constructor _ k => k.owner = owner
  | .field _ name, .field _ k => k.name = name
  | _, _ => False

theorem KindOf.congr {a b : MemberKey} (h : (a == b) = true) {invoker : CompiledInvoker}
    (ha : a.KindOf invoker) : b.KindOf invoker := by
  have hidentity := beq_iff_identity_eq.mp h
  cases a <;> cases b <;> first | exact ha | cases hidentity

theorem owner_id_of_beq {a b : MemberKey} (h : (a == b) = true) : a.owner.id = b.owner.id := by
  have hidentity := beq_iff_identity_eq.mp h
  cases a <;> cases b <;> simp_all [identity, owner]

theorem eq_of_beq {a b : MemberKey} (h : (a == b) = true) (howner : a.owner = b.owner) :
    a = b := by
  have hidentity := beq_iff_identity_eq.mp h
  cases a <;> cases b <;> simp_all [identity, owner]

/-- Where the keys have a class of the same identity, they mean this class. -/
def Identify (keys : List MemberKey) (c : Class) : Prop :=
  ∀ key ∈ keys, key.owner.id = c.id → key.owner = c

theorem Identify.eq_of_beq {keys : List MemberKey} {key k : MemberKey}
    (h : Identify keys key.owner) (hk : k ∈ keys) (hbeq : (key == k) = true) : k = key :=
  MemberKey.eq_of_beq (BEq.symm hbeq) (h k hk (owner_id_of_beq (BEq.symm hbeq)))

end MemberKey

/-- What was made, whenever that was. -/
def CompiledInvoker.invoker : CompiledInvoker → ConstructorInvoker ⊕ FieldInvoker
  | .constructor _ k => .inl k
  | .field _ k => .inr k

namespace InvokerRequest

/-- What making an invoker for the member that was found comes to. -/
def compile (q : InvokerRequest) : ConstructorMember ⊕ FieldMember → Except Failure CompiledInvoker
  | .inl m => (Attempt.outcome (compileConstructor q.strategies m)).map (.constructor q.serial)
  | .inr m => (Attempt.outcome (compileField q.strategies m)).map (.field q.serial)

variable {q : InvokerRequest}

theorem outcome_make (q : InvokerRequest) :
    Attempt.outcome q.make = (q.resolver.resolve q.key).bind q.compile := by
  rcases q with ⟨⟨owner, params⟩ | ⟨owner, name⟩, resolver, strategies, serial⟩
  · simp only [make, Attempt.outcome_bind, Resolver.resolve]
    cases Attempt.outcome (resolver.constructor owner params) with
    | error e => rfl
    | ok m =>
        simp only [Except.bind, Except.map, compile, Attempt.outcome_pure]
  · simp only [make, Attempt.outcome_bind, Resolver.resolve]
    cases Attempt.outcome (resolver.field owner name) with
    | error e => rfl
    | ok m =>
        simp only [Except.bind, Except.map, compile, Attempt.outcome_pure]

theorem make_eq_ok {i : CompiledInvoker} (h : Attempt.outcome q.make = .ok i) :
    ∃ m, q.resolver.resolve q.key = .ok m ∧ q.compile m = .ok i := by
  rw [outcome_make] at h
  cases hresolve : q.resolver.resolve q.key with
  | error e => simp [hresolve, Except.bind] at h
  | ok m => exact ⟨m, rfl, by simpa [hresolve, Except.bind] using h⟩

theorem make_of_resolve {m : ConstructorMember ⊕ FieldMember}
    (h : q.resolver.resolve q.key = .ok m) : Attempt.outcome q.make = q.compile m := by
  rw [outcome_make, h]
  rfl

theorem make_of_resolve_error {e : Failure} (h : q.resolver.resolve q.key = .error e) :
    Attempt.outcome q.make = .error e := by
  rw [outcome_make, h]
  rfl

/-- What is made depends on the resolver only through the member that it finds. -/
theorem make_congr {resolver : Resolver}
    (h : resolver.resolve q.key = q.resolver.resolve q.key) :
    Attempt.outcome (InvokerRequest.make { q with resolver := resolver }) =
      Attempt.outcome q.make := by
  rw [outcome_make, outcome_make, ← h]
  rfl

/-- The serial number makes no difference to what is made. -/
theorem map_invoker_make (q : InvokerRequest) (n : Nat) :
    (Attempt.outcome (InvokerRequest.make { q with serial := n })).map CompiledInvoker.invoker =
      (Attempt.outcome q.make).map CompiledInvoker.invoker := by
  rw [outcome_make, outcome_make]
  cases q.resolver.resolve q.key with
  | error e => rfl
  | ok m =>
      rcases m with m | m
      · simp only [Except.bind, compile]
        cases Attempt.outcome (compileConstructor q.strategies m) <;> rfl
      · simp only [Except.bind, compile]
        cases Attempt.outcome (compileField q.strategies m) <;> rfl

theorem kindOf_of_make {i : CompiledInvoker} (h : Attempt.outcome q.make = .ok i) :
    q.key.KindOf i := by
  obtain ⟨m, hm, hi⟩ := make_eq_ok h
  rcases q with ⟨⟨owner, params⟩ | ⟨owner, name⟩, resolver, strategies, serial⟩
  · obtain ⟨n, -, rfl⟩ := Attempt.map_eq_ok.mp hm
    obtain ⟨k, -, rfl⟩ := Attempt.map_eq_ok.mp hi
    exact ⟨serial, k, rfl⟩
  · obtain ⟨n, -, rfl⟩ := Attempt.map_eq_ok.mp hm
    obtain ⟨k, -, rfl⟩ := Attempt.map_eq_ok.mp hi
    exact ⟨serial, k, rfl⟩

theorem describes_of_make (hresolver : q.resolver.Honest) (hstrategies : ∀ s ∈ q.strategies, s.Honest)
    {i : CompiledInvoker} (h : Attempt.outcome q.make = .ok i) : q.key.Describes i := by
  obtain ⟨m, hm, hi⟩ := make_eq_ok h
  rcases q with ⟨⟨owner, params⟩ | ⟨owner, name⟩, resolver, strategies, serial⟩
  · obtain ⟨n, hn, rfl⟩ := Attempt.map_eq_ok.mp hm
    obtain ⟨k, hk, rfl⟩ := Attempt.map_eq_ok.mp hi
    obtain ⟨s, hs, hmade⟩ := exists_of_firstSuccess_eq_ok hk
    exact ((hstrategies s hs).owner hmade).trans (hresolver.owner hn)
  · obtain ⟨n, hn, rfl⟩ := Attempt.map_eq_ok.mp hm
    obtain ⟨k, hk, rfl⟩ := Attempt.map_eq_ok.mp hi
    obtain ⟨s, hs, hmade⟩ := exists_of_firstSuccess_eq_ok hk
    exact ((hstrategies s hs).name hmade).trans (hresolver.name hn)

/-- Compiling fails only with the failures of the strategies. -/
theorem not_blamesCache_of_compile {m : ConstructorMember ⊕ FieldMember} {e : Failure}
    (h : q.compile m = .error e) : ¬ e.BlamesCache := by
  rcases m with m | m <;>
  · obtain ⟨failures, rfl⟩ := tiers_of_firstSuccess_eq_error (Attempt.map_eq_error.mp h)
    exact not_false

/-- Only a resolver can put the blame on the cache. -/
theorem resolve_of_blamesCache {e : Failure} (h : Attempt.outcome q.make = .error e)
    (hblames : e.BlamesCache) : q.resolver.resolve q.key = .error e := by
  cases hresolve : q.resolver.resolve q.key with
  | error f =>
      have hfailed : Attempt.outcome q.make = .error f := make_of_resolve_error hresolve
      exact congrArg Except.error (Except.error.inj (hfailed.symm.trans h))
  | ok m =>
      have hfailed : q.compile m = .error e := (make_of_resolve hresolve).symm.trans h
      exact absurd hblames (not_blamesCache_of_compile hfailed)

end InvokerRequest

/-! ## One request -/

namespace Cache

/-- What a request for a key comes to, where `fresh` is what making an invoker for the key comes
to. -/
inductive Serves (c : Cache) (key : MemberKey) (fresh : Except Failure CompiledInvoker) :
    Reply CompiledInvoker → Prop
  | hit {invoker : CompiledInvoker} (kept : c.get? key = some invoker) :
      Serves c key fresh ⟨.ok invoker, none, { c with hits := c.hits + 1 }⟩
  | made {invoker : CompiledInvoker} (missing : c.get? key = none) (success : fresh = .ok invoker) :
      Serves c key fresh ⟨.ok invoker, some fresh,
        ⟨(c.cells.make key).fill key invoker, c.hits, c.misses + 1, c.compilations + 1⟩⟩
  | failed {e : Failure} (missing : c.get? key = none) (failure : fresh = .error e) :
      Serves c key fresh ⟨.error e, some fresh,
        ⟨(c.cells.make key).dropEmpty key, c.hits, c.misses + 1, c.compilations + 1⟩⟩

theorem value_getOrMake_of_missing {c : Cache} {key : MemberKey} (h : c.get? key = none)
    (make : Unit → Attempt CompiledInvoker) :
    (c.getOrMake key make).value = ⟨Attempt.outcome (make ()), some (Attempt.outcome (make ())),
      ⟨match Attempt.outcome (make ()) with
        | .ok invoker => (c.cells.make key).fill key invoker
        | .error _ => (c.cells.make key).dropEmpty key,
        c.hits, c.misses + 1, c.compilations + 1⟩⟩ := by
  rw [getOrMake, h]
  rfl

theorem serves_getOrMake (c : Cache) (key : MemberKey) (make : Unit → Attempt CompiledInvoker) :
    c.Serves key (Attempt.outcome (make ())) (c.getOrMake key make).value := by
  cases hkept : c.get? key with
  | some invoker =>
      rw [getOrMake, hkept]
      exact .hit hkept
  | none =>
      rw [value_getOrMake_of_missing hkept]
      cases hmake : Attempt.outcome (make ()) with
      | ok invoker => exact .made hkept rfl
      | error e => exact .failed hkept rfl

variable {c : Cache}

theorem Serves.of_ok {key : MemberKey} {fresh : Except Failure CompiledInvoker}
    {reply : Reply CompiledInvoker} (h : c.Serves key fresh reply) {P : CompiledInvoker → Prop}
    (hkept : ∀ invoker, c.get? key = some invoker → P invoker)
    (hfresh : ∀ invoker, fresh = .ok invoker → P invoker) {invoker : CompiledInvoker}
    (hok : reply.answer = .ok invoker) : P invoker := by
  cases h with
  | hit kept =>
      obtain rfl := Except.ok.inj hok
      exact hkept _ kept
  | made missing success =>
      obtain rfl := Except.ok.inj hok
      exact hfresh _ success
  | failed missing failure => cases hok

/-- Taking an invoker out of its wrapping and wrapping it again changes nothing, if it can be taken
out. -/
theorem map_ofKind {α : Type} {reply : Reply CompiledInvoker} {kind? : CompiledInvoker → Option α}
    {wrap : α → CompiledInvoker} (otherwise : Failure)
    (h : ∀ invoker, reply.answer = .ok invoker → ∃ a, kind? invoker = some a ∧ wrap a = invoker) :
    (reply.ofKind kind? otherwise).map wrap = reply := by
  rcases reply with ⟨e | invoker, made, cache⟩
  · rfl
  · obtain ⟨a, hkind, hwrap⟩ := h invoker rfl
    simp [Reply.ofKind, Reply.map, Except.bind, Except.map, hkind, hwrap]

/-- As long as the cache keeps invokers of the kind that the key asks for, the kind of the invoker is
never a reason to fail. -/
theorem request_eq {q : InvokerRequest}
    (hkind : ∀ invoker, c.get? q.key = some invoker → q.key.KindOf invoker) :
    c.request q = (c.getOrMake q.key fun _ => q.make).value := by
  have hserves := c.serves_getOrMake q.key fun _ => q.make
  have hanswer {invoker : CompiledInvoker}
      (hok : (c.getOrMake q.key fun _ => q.make).value.answer = .ok invoker) :
      q.key.KindOf invoker :=
    hserves.of_ok hkind (fun _ => InvokerRequest.kindOf_of_make) hok
  rcases q with ⟨⟨owner, params⟩ | ⟨owner, name⟩, resolver, strategies, serial⟩
  · refine map_ofKind _ fun invoker hok => ?_
    obtain ⟨n, k, rfl⟩ := hanswer hok
    exact ⟨(n, k), rfl, rfl⟩
  · refine map_ofKind _ fun invoker hok => ?_
    obtain ⟨n, k, rfl⟩ := hanswer hok
    exact ⟨(n, k), rfl, rfl⟩

theorem serves_request {q : InvokerRequest}
    (hkind : ∀ invoker, c.get? q.key = some invoker → q.key.KindOf invoker) :
    c.Serves q.key (Attempt.outcome q.make) (c.request q) := by
  rw [request_eq hkind]
  exact c.serves_getOrMake q.key fun _ => q.make

end Cache

end Metaobject
