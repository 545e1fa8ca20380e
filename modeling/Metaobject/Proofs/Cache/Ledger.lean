import Mathlib.Algebra.GroupWithZero.Nat
import Mathlib.Data.List.Dedup
import Mathlib.Data.List.Perm.Basic
import Metaobject.Proofs.Cache.Making

/-!
# The counts of a cache balance

A ledger notes the requests that a cache has answered since it was last cleared. Whatever the
requests are, and whichever of them fail, the counts of the cache are those of the ledger: every
request is a hit or a miss, the misses are the requests that ran what makes an invoker, and the
entries are the keys that a request has succeeded for. The first success for a key is what all later
requests for the key get.
-/

namespace Metaobject

/-! ## Ledgers -/

/-- A request that a cache has answered. -/
structure Served where
  key : MemberKey
  answer : Except Failure CompiledInvoker
  /-- What came of making an invoker, if the request had one made. -/
  made : Option (Except Failure CompiledInvoker)

/-- A cache, with the requests that it has answered since it was last cleared. -/
structure Ledger where
  cache : Cache
  served : List Served

/-- What a cache can be asked for, by reflectors with resolvers and strategies of their own. -/
inductive CacheCall where
  | request (q : InvokerRequest)
  | clear

def CacheCall.key? : CacheCall → Option MemberKey
  | .request q => some q.key
  | .clear => none

namespace Ledger

def empty : Ledger := ⟨.empty, []⟩

def note (l : Ledger) (key : MemberKey) (reply : Reply CompiledInvoker) : Ledger :=
  ⟨reply.cache, l.served ++ [⟨key, reply.answer, reply.made⟩]⟩

/-- Answers a call. -/
def step (l : Ledger) : CacheCall → Ledger
  | .request q => l.note q.key (l.cache.request q)
  | .clear => ⟨l.cache.clear.value, []⟩

def run (l : Ledger) (calls : List CacheCall) : Ledger := calls.foldl step l

/-- The keys of the requests that succeeded. -/
def succeeded (l : Ledger) : List MemberKey :=
  (l.served.filter fun s => s.answer.isOk).map Served.key

/-- What came of making invokers, each time one was made. -/
def makings (l : Ledger) : List (Except Failure CompiledInvoker) := l.served.filterMap Served.made

/-- The counts of the cache are those of the requests, and the cache keeps what they made. -/
structure Balanced (l : Ledger) : Prop where
  requests : l.cache.stats.hits + l.cache.stats.misses = l.served.length
  misses : l.cache.stats.misses = l.makings.length
  compilations : l.cache.stats.compilations = l.cache.stats.misses
  filled : ∀ e ∈ l.cache.cells.entries, e.2.isSome = true
  distinct : (l.cache.cells.entries.map fun e => e.1.identity).Nodup
  kept : ∀ key invoker, l.cache.get? key = some invoker ↔
    ∃ s ∈ l.served, (s.key == key) = true ∧ s.answer = .ok invoker
  /-- After a success, later requests for the key get the same invoker, and make none. -/
  once : l.served.Pairwise fun s t => ∀ invoker, s.answer = .ok invoker →
    (s.key == t.key) = true → t.answer = .ok invoker ∧ t.made = none
  /-- A request fails only when an invoker cannot be made for it: the cache has no failures of its
  own. -/
  reported : ∀ s ∈ l.served, ∀ e, s.answer = .error e ↔ s.made = some (.error e)
  kinds : ∀ e ∈ l.cache.cells.entries, ∀ invoker ∈ e.2, e.1.KindOf invoker

/-- What was made, and what is kept, was made for requests that were asked for. -/
structure Traced (asked : InvokerRequest → Prop) (l : Ledger) : Prop where
  served : ∀ s ∈ l.served, ∀ fresh ∈ s.made,
    ∃ q, asked q ∧ q.key = s.key ∧ Attempt.outcome q.make = fresh
  entries : ∀ e ∈ l.cache.cells.entries, ∀ invoker ∈ e.2,
    ∃ q, asked q ∧ q.key = e.1 ∧ Attempt.outcome q.make = .ok invoker

/-- What a cache that has been asked for the calls comes to. -/
structure Accounts (calls : List CacheCall) (l : Ledger) : Prop where
  balanced : l.Balanced
  entries : l.cache.stats.entries = (l.succeeded.map MemberKey.identity).dedup.length
  traced : l.Traced (.request · ∈ calls)
  /-- No failure says that the cache keeps an invoker of the wrong kind, unless a resolver says so. -/
  blame : ∀ s ∈ l.served, ∀ e, s.answer = .error e → e.BlamesCache →
    ∃ q, .request q ∈ calls ∧ q.key = s.key ∧ q.resolver.resolve q.key = .error e
  blameless : (∀ q, .request q ∈ calls → ∃ r : Registry, q.resolver = r.resolver) →
    ∀ s ∈ l.served, ∀ e, s.answer = .error e → ¬ e.BlamesCache
  describes : (∀ q, .request q ∈ calls → q.resolver.Honest ∧ ∀ s ∈ q.strategies, s.Honest) →
    ∀ e ∈ l.cache.cells.entries, ∀ invoker ∈ e.2, e.1.Describes invoker

end Ledger

/-! ## One request -/

/-- A request adds at most the invoker that was made for it. -/
theorem Cache.Serves.mem_entries {c : Cache} {key : MemberKey}
    {fresh : Except Failure CompiledInvoker} {reply : Reply CompiledInvoker}
    (h : c.Serves key fresh reply) (hfilled : ∀ e ∈ c.cells.entries, e.2.isSome = true)
    {e : MemberKey × Option CompiledInvoker} (he : e ∈ reply.cache.cells.entries) :
    e ∈ c.cells.entries ∨ ∃ invoker, fresh = .ok invoker ∧ e = (key, some invoker) := by
  cases h with
  | hit kept => exact .inl he
  | made missing success =>
      rw [Cells.fill_make (Cells.contains_eq_false hfilled missing)] at he
      rcases List.mem_append.mp he with he | he
      · exact .inl he
      · exact .inr ⟨_, success, List.mem_singleton.mp he⟩
  | failed missing failure =>
      rw [Cells.dropEmpty_make (Cells.contains_eq_false hfilled missing)] at he
      exact .inl he

namespace Ledger

theorem makings_note (l : Ledger) (key : MemberKey) (reply : Reply CompiledInvoker) :
    (l.note key reply).makings = l.makings ++ reply.made.toList := by
  rw [makings, note, List.filterMap_append, makings]
  cases reply.made <;> rfl

theorem balanced_empty : empty.Balanced where
  requests := rfl
  misses := rfl
  compilations := rfl
  filled := by simp [empty, Cache.empty, Cells.empty]
  distinct := by simp [empty, Cache.empty, Cells.empty]
  kept key invoker := by simp [empty, Cache.empty, Cache.get?]
  once := .nil
  reported := by simp [empty]
  kinds := by simp [empty, Cache.empty, Cells.empty]

namespace Balanced

variable {l : Ledger} (h : l.Balanced)
include h

theorem kindOf {key : MemberKey} {invoker : CompiledInvoker}
    (hkept : l.cache.get? key = some invoker) : key.KindOf invoker := by
  obtain ⟨e, he, hkey, hinvoker⟩ := Cells.exists_of_get? hkept
  exact .congr hkey (h.kinds e he invoker hinvoker)

theorem serves_request (q : InvokerRequest) :
    l.cache.Serves q.key (Attempt.outcome q.make) (l.cache.request q) :=
  Cache.serves_request fun _ hkept => h.kindOf hkept

/-- A request that gets what is kept for its key and makes nothing, or finds nothing kept, leaves
successes where they were. -/
theorem once_note {key : MemberKey} {reply : Reply CompiledInvoker}
    (hkept : ∀ invoker, l.cache.get? key = some invoker →
      reply.answer = .ok invoker ∧ reply.made = none) :
    (l.note key reply).served.Pairwise fun s t => ∀ invoker, s.answer = .ok invoker →
      (s.key == t.key) = true → t.answer = .ok invoker ∧ t.made = none := by
  refine List.pairwise_append.mpr ⟨h.once, List.pairwise_singleton _ _, ?_⟩
  intro s hs t ht invoker hok hkey
  obtain rfl := List.mem_singleton.mp ht
  exact hkept invoker ((h.kept key invoker).mpr ⟨s, hs, hkey, hok⟩)

theorem reported_note {key : MemberKey} {reply : Reply CompiledInvoker}
    (hreply : ∀ e, reply.answer = .error e ↔ reply.made = some (.error e)) :
    ∀ s ∈ (l.note key reply).served, ∀ e, s.answer = .error e ↔ s.made = some (.error e) := by
  intro s hs
  rcases List.mem_append.mp hs with hs | hs
  · exact h.reported s hs
  · obtain rfl := List.mem_singleton.mp hs
    exact hreply

theorem requests_note {reply : Reply CompiledInvoker}
    (hcounts : reply.cache.hits + reply.cache.misses = l.cache.hits + l.cache.misses + 1)
    (key : MemberKey) :
    (l.note key reply).cache.stats.hits + (l.note key reply).cache.stats.misses =
      (l.note key reply).served.length := by
  have hrequests := h.requests
  simp only [note, Cache.stats, List.length_append, List.length_singleton] at hrequests ⊢
  omega

theorem misses_note {reply : Reply CompiledInvoker}
    (hmisses : reply.cache.misses = l.cache.misses + reply.made.toList.length) (key : MemberKey) :
    (l.note key reply).cache.stats.misses = (l.note key reply).makings.length := by
  rw [makings_note, List.length_append, ← h.misses]
  exact hmisses

/-- A request that leaves what is kept as it was, and gets nothing that is not kept, goes with the
requests before. -/
theorem kept_note {key : MemberKey} {reply : Reply CompiledInvoker}
    (hget : ∀ key, reply.cache.get? key = l.cache.get? key)
    (hanswer : ∀ invoker, reply.answer = .ok invoker → l.cache.get? key = some invoker)
    (other : MemberKey) (found : CompiledInvoker) :
    (l.note key reply).cache.get? other = some found ↔ ∃ s ∈ (l.note key reply).served,
      (s.key == other) = true ∧ s.answer = .ok found := by
  refine (Eq.congr_left (hget other)).trans ((h.kept other found).trans ?_)
  constructor
  · rintro ⟨s, hs, hs'⟩
    exact ⟨s, List.mem_append_left _ hs, hs'⟩
  · rintro ⟨s, hs, hkey, hok⟩
    rcases List.mem_append.mp hs with hs | hs
    · exact ⟨s, hs, hkey, hok⟩
    · obtain rfl := List.mem_singleton.mp hs
      exact (h.kept other found).mp ((Cells.get?_congr _ hkey).symm.trans (hanswer found hok))

theorem note_hit {key : MemberKey} {invoker : CompiledInvoker}
    (hkept : l.cache.get? key = some invoker) :
    (l.note key ⟨.ok invoker, none, { l.cache with hits := l.cache.hits + 1 }⟩).Balanced where
  requests := h.requests_note (Nat.add_right_comm _ _ _) key
  misses := h.misses_note rfl key
  compilations := h.compilations
  filled := h.filled
  distinct := h.distinct
  kept := h.kept_note (fun _ => rfl) fun found hok => Except.ok.inj hok ▸ hkept
  once := h.once_note fun found hfound => ⟨by rw [Option.some.inj (hkept.symm.trans hfound)], rfl⟩
  reported := h.reported_note (by simp)
  kinds := h.kinds

theorem distinct_made {key : MemberKey} (hmissing : l.cache.get? key = none)
    (invoker : CompiledInvoker) :
    (((l.cache.cells.make key).fill key invoker).entries.map fun e => e.1.identity).Nodup := by
  have hnew : l.cache.cells.contains key = false := Cells.contains_eq_false h.filled hmissing
  have hidentity : key.identity ∉ l.cache.cells.entries.map fun e => e.1.identity := by
    intro hmem
    obtain ⟨e, he, hsame⟩ := List.mem_map.mp hmem
    have hkey : (e.1 == key) = true := MemberKey.beq_iff_identity_eq.mpr hsame
    rw [Cells.key_ne_of_contains hnew e he] at hkey
    cases hkey
  rw [Cells.fill_make hnew invoker]
  simp only [List.map_append, List.map_cons, List.map_nil]
  simpa using h.distinct.concat hidentity

/-- What is made for a key is what is kept for it from then on, and nothing else changes. -/
theorem kept_made {key : MemberKey} (hmissing : l.cache.get? key = none) (invoker : CompiledInvoker)
    (other : MemberKey) (found : CompiledInvoker) :
    ((l.cache.cells.make key).fill key invoker).get? other = some found ↔
      ∃ s ∈ l.served ++ [⟨key, .ok invoker, some (.ok invoker)⟩],
        (s.key == other) = true ∧ s.answer = .ok found := by
  simp only [Cells.get?_fill_make hmissing other invoker, List.mem_append, List.mem_singleton]
  by_cases hkey : (other == key) = true
  · rw [if_pos hkey]
    constructor
    · intro hfound
      obtain rfl := Option.some.inj hfound
      exact ⟨_, .inr rfl, BEq.symm hkey, rfl⟩
    · rintro ⟨s, hs | rfl, hother, hok⟩
      · have hkept := (h.kept key found).mpr ⟨s, hs, BEq.trans hother hkey, hok⟩
        rw [hmissing] at hkept
        cases hkept
      · exact congrArg some (Except.ok.inj hok)
  · rw [if_neg hkey]
    refine (h.kept other found).trans ⟨?_, ?_⟩
    · rintro ⟨s, hs, hs'⟩
      exact ⟨s, .inl hs, hs'⟩
    · rintro ⟨s, hs | rfl, hother, hok⟩
      · exact ⟨s, hs, hother, hok⟩
      · exact absurd (BEq.symm hother) hkey

theorem kinds_made {key : MemberKey} (hmissing : l.cache.get? key = none) {invoker : CompiledInvoker}
    (hkind : key.KindOf invoker) :
    ∀ e ∈ ((l.cache.cells.make key).fill key invoker).entries, ∀ found ∈ e.2, e.1.KindOf found := by
  intro e he found hfound
  rw [Cells.fill_make (Cells.contains_eq_false h.filled hmissing) invoker] at he
  rcases List.mem_append.mp he with he | he
  · exact h.kinds e he found hfound
  · obtain rfl := List.mem_singleton.mp he
    obtain rfl := Option.some.inj hfound
    exact hkind

theorem note_made {key : MemberKey} {invoker : CompiledInvoker}
    (hmissing : l.cache.get? key = none) (hkind : key.KindOf invoker) :
    (l.note key ⟨.ok invoker, some (.ok invoker), ⟨(l.cache.cells.make key).fill key invoker,
      l.cache.hits, l.cache.misses + 1, l.cache.compilations + 1⟩⟩).Balanced where
  requests := h.requests_note rfl key
  misses := h.misses_note rfl key
  compilations := congrArg (· + 1) h.compilations
  filled := Cells.isSome_of_mem_fill_make h.filled (Cells.contains_eq_false h.filled hmissing) invoker
  distinct := h.distinct_made hmissing invoker
  kept := h.kept_made hmissing invoker
  once := h.once_note fun found hfound => by simp [hmissing] at hfound
  reported := h.reported_note (by simp)
  kinds := h.kinds_made hmissing hkind

theorem note_failed {key : MemberKey} (hmissing : l.cache.get? key = none) (e : Failure) :
    (l.note key ⟨.error e, some (.error e), ⟨(l.cache.cells.make key).dropEmpty key, l.cache.hits,
      l.cache.misses + 1, l.cache.compilations + 1⟩⟩).Balanced := by
  have hcells : (l.cache.cells.make key).dropEmpty key = l.cache.cells :=
    Cells.dropEmpty_make (Cells.contains_eq_false h.filled hmissing)
  rw [hcells]
  exact {
    requests := h.requests_note rfl key
    misses := h.misses_note rfl key
    compilations := congrArg (· + 1) h.compilations
    filled := h.filled
    distinct := h.distinct
    kept := h.kept_note (fun _ => rfl) nofun
    once := h.once_note fun found hfound => by simp [hmissing] at hfound
    reported := h.reported_note (by simp)
    kinds := h.kinds }

theorem step (call : CacheCall) : (l.step call).Balanced := by
  cases call with
  | clear => exact balanced_empty
  | request q =>
      have hserves := h.serves_request q
      rw [Ledger.step]
      generalize l.cache.request q = reply at hserves ⊢
      cases hserves with
      | hit kept => exact h.note_hit kept
      | made missing success =>
          rw [success]
          exact h.note_made missing (InvokerRequest.kindOf_of_make success)
      | failed missing failure =>
          rw [failure]
          exact h.note_failed missing _

theorem size_eq : l.cache.size = (l.succeeded.map MemberKey.identity).dedup.length := by
  have hsize : l.cache.size = (l.cache.cells.entries.map fun e => e.1.identity).length := by
    rw [List.length_map]
    exact List.countP_eq_length.mpr h.filled
  rw [hsize]
  refine List.Perm.length_eq ?_
  refine (List.perm_ext_iff_of_nodup h.distinct (List.nodup_dedup _)).mpr fun identity => ?_
  simp only [List.mem_dedup, succeeded, List.map_map, List.mem_map, List.mem_filter]
  constructor
  · rintro ⟨e, he, rfl⟩
    obtain ⟨invoker, hget⟩ := Cells.exists_get?_of_mem h.filled he
    obtain ⟨s, hs, hkey, hok⟩ := (h.kept e.1 invoker).mp hget
    exact ⟨s, ⟨hs, by rw [hok]; rfl⟩, MemberKey.beq_iff_identity_eq.mp hkey⟩
  · rintro ⟨s, ⟨hs, hok⟩, rfl⟩
    cases hanswer : s.answer with
    | error e => simp [hanswer, Except.isOk, Except.toBool] at hok
    | ok invoker =>
        have hget := (h.kept s.key invoker).mpr ⟨s, hs, BEq.rfl, hanswer⟩
        obtain ⟨e, he, hkey, -⟩ := Cells.exists_of_get? hget
        exact ⟨e, he, MemberKey.beq_iff_identity_eq.mp hkey⟩

end Balanced

namespace Traced

variable {asked : InvokerRequest → Prop} {l : Ledger}

theorem of_empty : Traced asked empty where
  served := by simp [empty]
  entries := by simp [empty, Cache.empty, Cells.empty]

/-- A request makes at most what making an invoker for it comes to. -/
theorem step (h : l.Traced asked) (hbalanced : l.Balanced) {call : CacheCall}
    (hcall : ∀ q, call = .request q → asked q) : (l.step call).Traced asked := by
  cases call with
  | clear => exact of_empty
  | request q =>
      have hserves := hbalanced.serves_request q
      have hasked := hcall q rfl
      refine ⟨fun s hs fresh hfresh => ?_, fun e he invoker hinvoker => ?_⟩
      · rcases List.mem_append.mp hs with hs | hs
        · exact h.served s hs fresh hfresh
        · obtain rfl := List.mem_singleton.mp hs
          refine ⟨q, hasked, rfl, ?_⟩
          simp only at hfresh
          generalize l.cache.request q = reply at hserves hfresh
          cases hserves with
          | hit kept => cases hfresh
          | made missing success => exact Option.some.inj hfresh
          | failed missing failure => exact Option.some.inj hfresh
      · rcases hserves.mem_entries hbalanced.filled he with he | ⟨made, hok, rfl⟩
        · exact h.entries e he invoker hinvoker
        · obtain rfl := Option.some.inj hinvoker
          exact ⟨q, hasked, rfl, hok⟩

end Traced

/-! ## All requests -/

theorem Balanced.run {l : Ledger} (h : l.Balanced) (calls : List CacheCall) :
    (l.run calls).Balanced := by
  induction calls generalizing l with
  | nil => exact h
  | cons call calls ih => exact ih (h.step call)

theorem Traced.run {asked : InvokerRequest → Prop} {l : Ledger} (h : l.Traced asked)
    (hbalanced : l.Balanced) {calls : List CacheCall} (hcalls : ∀ q, .request q ∈ calls → asked q) :
    (l.run calls).Traced asked := by
  induction calls generalizing l with
  | nil => exact h
  | cons call calls ih =>
      refine ih (h.step hbalanced ?_) (hbalanced.step call) fun q hq =>
        hcalls q (List.mem_cons_of_mem _ hq)
      rintro q rfl
      exact hcalls q List.mem_cons_self

theorem traced_run (calls : List CacheCall) : (empty.run calls).Traced (.request · ∈ calls) :=
  Traced.of_empty.run balanced_empty fun _ => id

theorem blame_run {calls : List CacheCall} {s : Served} (hs : s ∈ (empty.run calls).served)
    {e : Failure} (herror : s.answer = .error e) (hblames : e.BlamesCache) :
    ∃ q, .request q ∈ calls ∧ q.key = s.key ∧ q.resolver.resolve q.key = .error e := by
  have hmade : s.made = some (.error e) := ((balanced_empty.run calls).reported s hs e).mp herror
  obtain ⟨q, hq, hkey, hmake⟩ := (traced_run calls).served s hs _ hmade
  exact ⟨q, hq, hkey, InvokerRequest.resolve_of_blamesCache hmake hblames⟩

/-- Whatever a cache has been asked for, by whichever reflectors, its counts balance: since it was
last cleared, each request was a hit or a miss, each miss ran what makes an invoker once, and there
is one entry for each key that succeeded. What came of making an invoker for a request is what its
resolver and its strategies come to, so the cache adds no failures. Where these stay with what they are
given, what is kept for a key has the class or the field name of the key. -/
theorem run_balanced (calls : List CacheCall) : (empty.run calls).Accounts calls where
  balanced := balanced_empty.run calls
  entries := (balanced_empty.run calls).size_eq
  traced := traced_run calls
  blame _ hs _ := blame_run hs
  blameless usual s hs e herror hblames := by
    obtain ⟨q, hq, -, hresolve⟩ := blame_run hs herror hblames
    obtain ⟨r, hr⟩ := usual q hq
    exact Registry.not_blamesCache_of_resolve (hr ▸ hresolve) hblames
  describes honest e he i hi := by
    obtain ⟨q, hq, hkey, hmake⟩ := (traced_run calls).entries e he i hi
    obtain ⟨hresolver, hstrategies⟩ := honest q hq
    exact hkey ▸ InvokerRequest.describes_of_make hresolver hstrategies hmake

end Ledger

/-! ### Reflectors with different strategies -/

namespace Samples

/-- The first and the last request fail, the third gets what the second made. -/
def circleCalls : List CacheCall :=
  [.request ⟨.field (circle.described 2) "id", Registry.initial.resolver,
      [.refusing .native (.disabled .native)], 0⟩,
    .request ⟨.field (circle.described 2) "id", Registry.initial.resolver,
      Strategy.standard false true, 1⟩,
    .request ⟨.field (circle.described 2) "id", Registry.initial.resolver, [.reflective], 2⟩,
    .request ⟨.constructor (circle.described 2) (some [.boxed .int]), Registry.initial.resolver,
      Strategy.standard true true, 3⟩,
    .request ⟨.constructor (circle.described 2) (some [.string]), Registry.initial.resolver,
      [.reflective], 4⟩]

theorem run_balanced_circleCalls :
    (Ledger.empty.run circleCalls).cache.stats = ⟨2, 1, 4, 4⟩ ∧
      ((Ledger.empty.run circleCalls).succeeded.map MemberKey.identity).dedup.length = 2 ∧
      (∀ s ∈ (Ledger.empty.run circleCalls).served, ∀ e, s.answer = .error e → ¬ e.BlamesCache) ∧
      ∀ e ∈ (Ledger.empty.run circleCalls).cache.cells.entries, ∀ i ∈ e.2, e.1.Describes i := by
  have haccounts := Ledger.run_balanced circleCalls
  have hstats : (Ledger.empty.run circleCalls).cache.stats = ⟨2, 1, 4, 4⟩ := rfl
  have hcalls : ∀ q, .request q ∈ circleCalls →
      q.resolver = Registry.initial.resolver ∧ ∀ s ∈ q.strategies, s.Honest := by
    intro q hq
    simp only [circleCalls, List.mem_cons, List.not_mem_nil, or_false, CacheCall.request.injEq] at hq
    rcases hq with rfl | rfl | rfl | rfl | rfl <;> refine ⟨rfl, ?_⟩
    · exact List.forall_mem_singleton.mpr (Strategy.honest_refusing _ _)
    · exact fun s => Strategy.honest_of_standard
    · exact List.forall_mem_singleton.mpr Strategy.honest_reflective
    · exact fun s => Strategy.honest_of_standard
    · exact List.forall_mem_singleton.mpr Strategy.honest_reflective
  refine ⟨hstats, ?_, ?_, ?_⟩
  · rw [← haccounts.entries, hstats]
  · exact haccounts.blameless fun q hq => ⟨.initial, (hcalls q hq).1⟩
  · refine haccounts.describes fun q hq => ⟨?_, (hcalls q hq).2⟩
    exact (hcalls q hq).1 ▸ Registry.initial.honest_resolver

end Samples

end Metaobject
