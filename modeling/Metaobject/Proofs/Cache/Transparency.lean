import Mathlib.Data.List.Induction
import Mathlib.Tactic.IntervalCases
import Metaobject.Proofs.Cache.Ledger
import Metaobject.Proofs.Overloads
import Metaobject.Proofs.Proxy.Factory

/-!
# When the cache cannot be noticed

The invoker that is kept for a key was made when the registry knew fewer classes. Fields are found
without the registry, and so are constructors when the types are left open. A request that names
types gets the constructor that it would resolve to now, unless a class that it names has been
defined since the invoker was kept: `Samples.repositoryCalls` is a run where that happens. Apart from
such classes, clearing the cache at any time changes no later answer but the serial numbers.
-/

namespace Metaobject

theorem Registry.Grows.get?_eq {r r' : Registry} (h : r.Grows r') {name : String}
    (hdefined : r'.contains name = true → r.contains name = true) :
    r'.get? name = r.get? name := by
  cases hget : r.get? name with
  | some c => exact h hget
  | none =>
      refine contains_eq_false_iff.mp (Bool.eq_false_iff.mpr fun hnow => ?_)
      have hbefore := hdefined hnow
      rw [contains_eq_false_iff.mpr hget] at hbefore
      cases hbefore

/-! ## What a request leaves in the cache -/

namespace Cache.Serves

variable {c : Cache} {key : MemberKey} {fresh : Except Failure CompiledInvoker}
  {reply : Reply CompiledInvoker}

theorem get?_eq (h : c.Serves key fresh reply)
    (hfilled : ∀ e ∈ c.cells.entries, e.2.isSome = true) (other : MemberKey) :
    reply.cache.get? other =
      if other == key then (c.get? key).or fresh.toOption else c.get? other := by
  cases h with
  | hit kept =>
      by_cases hkey : (other == key) = true
      · rw [if_pos hkey, kept, Option.some_or]
        exact (Cells.get?_congr _ hkey).trans kept
      · rw [if_neg hkey]
        rfl
  | made missing success =>
      rw [missing, success]
      exact Cells.get?_fill_make missing other _
  | failed missing failure =>
      have hcells : (c.cells.make key).dropEmpty key = c.cells :=
        Cells.dropEmpty_make (Cells.contains_eq_false hfilled missing)
      rw [hcells, missing, failure]
      by_cases hkey : (other == key) = true
      · rw [if_pos hkey]
        exact (Cells.get?_congr _ hkey).trans missing
      · rw [if_neg hkey]
        rfl

theorem kept_or_made (h : c.Serves key fresh reply)
    (hfilled : ∀ e ∈ c.cells.entries, e.2.isSome = true) {other : MemberKey}
    {invoker : CompiledInvoker} (hkept : reply.cache.get? other = some invoker) :
    c.get? other = some invoker ∨ (other == key) = true ∧ fresh = .ok invoker := by
  rw [h.get?_eq hfilled] at hkept
  split at hkept
  · rename_i hkey
    rcases Option.or_eq_some_iff.mp hkept with hbefore | ⟨-, hmade⟩
    · exact .inl ((Cells.get?_congr _ hkey).trans hbefore)
    · cases fresh with
      | error e => cases hmade
      | ok made => exact .inr ⟨hkey, congrArg Except.ok (Option.some.inj hmade)⟩
  · exact .inl hkept

/-- Where the kept invoker could be made anew, so could the answer. -/
theorem map_invoker_answer {q : InvokerRequest}
    (h : c.Serves q.key (Attempt.outcome q.make) reply)
    (hkept : ∀ invoker, c.get? q.key = some invoker →
      ∃ n, Attempt.outcome (InvokerRequest.make { q with serial := n }) = .ok invoker) :
    reply.answer.map CompiledInvoker.invoker =
      (Attempt.outcome q.make).map CompiledInvoker.invoker := by
  generalize hfresh : Attempt.outcome q.make = fresh at h
  cases h with
  | hit kept =>
      obtain ⟨n, hn⟩ := hkept _ kept
      rw [← hfresh, ← q.map_invoker_make n, hn]
  | made missing success => rw [success]
  | failed missing failure => rw [failure]

end Cache.Serves

/-! ## The cache of a factory -/

namespace Factory

/-- What a request for an invoker asks for. -/
def Call.key? : Call → Option MemberKey
  | .invoker _ _ key => some key
  | .define _ | .addCompiler _ _ | .compile _ _ _ | .clearCache => none

/-- If the call asks for an invoker, it does so with the given strategies. -/
def Call.By (strategies : List Strategy) : Call → Prop
  | .invoker ss _ _ => ss = strategies
  | .define _ | .addCompiler _ _ | .compile _ _ _ | .clearCache => True

/-- The counts of the cache balance. -/
def Balanced (w : Factory) : Prop := ∃ l : Ledger, l.Balanced ∧ l.cache = w.cache

theorem balanced_initial (files : DumpFiles) : (initial files).Balanced :=
  ⟨.empty, Ledger.balanced_empty, rfl⟩

theorem cache_compile (w : Factory) (i serial : Nat) (q : ProxyRequest) :
    (w.compile i serial q).2.cache = w.cache := by
  unfold compile
  split <;> rfl

theorem cache_step_of_no_request (w : Factory) {call : Call} (hnone : call.key? = none)
    (hcall : call ≠ .clearCache) : (w.step call).cache = w.cache := by
  cases call with
  | define c =>
      rw [step]
      split <;> rfl
  | addCompiler space dumpDir => rfl
  | compile i serial q => exact cache_compile w i serial q
  | clearCache => exact absurd rfl hcall
  | invoker strategies serial key => cases hnone

namespace Balanced

variable {w : Factory} (h : w.Balanced)
include h

theorem filled : ∀ e ∈ w.cache.cells.entries, e.2.isSome = true := by
  obtain ⟨l, hl, hcache⟩ := h
  exact hcache ▸ hl.filled

theorem serves_request (q : InvokerRequest) :
    w.cache.Serves q.key (Attempt.outcome q.make) (w.cache.request q) := by
  obtain ⟨l, hl, hcache⟩ := h
  exact hcache ▸ hl.serves_request q

theorem step (call : Call) : (w.step call).Balanced := by
  obtain ⟨l, hl, hcache⟩ := h
  cases call with
  | define c =>
      refine ⟨l, hl, ?_⟩
      rw [Factory.step]
      split <;> exact hcache
  | addCompiler space dumpDir => exact ⟨l, hl, hcache⟩
  | compile i serial q => exact ⟨l, hl, hcache.trans (cache_compile w i serial q).symm⟩
  | invoker strategies serial key =>
      refine ⟨_, hl.step (.request (w.request strategies serial key)), ?_⟩
      rw [Ledger.step, Ledger.note, hcache, Factory.step]
  | clearCache => exact ⟨.empty, Ledger.balanced_empty, rfl⟩

theorem run (calls : List Call) : (w.run calls).Balanced := by
  induction calls generalizing w with
  | nil => exact h
  | cons call calls ih => exact ih (h.step call)

end Balanced

theorem run_append (w : Factory) (calls more : List Call) :
    w.run (calls ++ more) = (w.run calls).run more := by
  simp [run]

theorem exists_of_key? {strategies : List Strategy} {call : Call} (hby : call.By strategies)
    {key : MemberKey} (hkey : call.key? = some key) :
    ∃ serial, call = .invoker strategies serial key := by
  cases call with
  | invoker ss serial k =>
      obtain rfl : ss = strategies := hby
      cases hkey
      exact ⟨serial, rfl⟩
  | _ => cases hkey

section Kept

variable {files : DumpFiles} {calls : List Call} {strategies : List Strategy}

/-- An invoker that is kept was made at a time since which it has been kept. -/
theorem exists_make_of_kept {key : MemberKey} (hby : ∀ call ∈ calls, call.By strategies)
    (howner : MemberKey.Identify (calls.filterMap Call.key?) key.owner) {invoker : CompiledInvoker}
    (hkept : ((initial files).run calls).cache.get? key = some invoker) :
    ∃ before after serial, calls = before ++ after ∧ .clearCache ∉ after ∧
      (((initial files).run before).cache.get? key).isSome = true ∧
        Attempt.outcome (((initial files).run before).request strategies serial key).make =
          .ok invoker := by
  induction calls using List.reverseRecOn with
  | nil => cases hkept
  | append_singleton calls call ih =>
      obtain ⟨hbys, hbycall⟩ := List.forall_mem_append.mp hby
      rw [List.filterMap_append] at howner
      obtain ⟨howners, hownercall⟩ := List.forall_mem_append.mp howner
      have hlast : (initial files).run (calls ++ [call]) = ((initial files).run calls).step call :=
        run_append _ _ _
      rw [hlast] at hkept
      have hcall : call ≠ .clearCache := by
        rintro rfl
        cases hkept
      -- what was kept before the call was made at a time since which it has been kept
      have hbefore (hget : ((initial files).run calls).cache.get? key = some invoker) :
          ∃ before after serial, calls ++ [call] = before ++ after ∧ .clearCache ∉ after ∧
            (((initial files).run before).cache.get? key).isSome = true ∧
              Attempt.outcome (((initial files).run before).request strategies serial key).make =
                .ok invoker := by
        obtain ⟨before, after, serial, rfl, hclear, hfound, hmake⟩ := ih hbys howners hget
        refine ⟨before, after ++ [call], serial, List.append_assoc _ _ _, ?_, hfound, hmake⟩
        simpa [hclear] using hcall.symm
      cases hasked : call.key? with
      | none =>
          rw [cache_step_of_no_request _ hasked hcall] at hkept
          exact hbefore hkept
      | some k =>
          obtain ⟨serial, rfl⟩ := exists_of_key? (hbycall call List.mem_cons_self) hasked
          have hbalanced := (balanced_initial files).run calls
          have hserves := hbalanced.serves_request
            (((initial files).run calls).request strategies serial k)
          rcases hserves.kept_or_made hbalanced.filled hkept with hget | ⟨hkey, hmade⟩
          · exact hbefore hget
          · obtain rfl := MemberKey.Identify.eq_of_beq hownercall List.mem_cons_self hkey
            refine ⟨calls ++ [.invoker strategies serial k], [], serial, (List.append_nil _).symm,
              List.not_mem_nil, ?_, ?_⟩
            · rw [hlast, hkept]
              rfl
            · rw [hlast]
              exact hmade

/-- Since an invoker has been kept for the key, no class that the key names has been defined. -/
def Settled (files : DumpFiles) (calls : List Call) (key : MemberKey) : Prop :=
  ∀ before after, calls = before ++ after → .clearCache ∉ after →
    (((initial files).run before).cache.get? key).isSome = true →
      ∀ name, key.Names name → ((initial files).run calls).registry.contains name = true →
        ((initial files).run before).registry.contains name = true

theorem settled_of_definite {key : MemberKey} (h : key.Definite) : Settled files calls key :=
  fun _ _ _ _ _ name hname => absurd hname (h.not_names name)

theorem exists_make_of_settled {key : MemberKey} (hsettled : Settled files calls key)
    (hby : ∀ call ∈ calls, call.By strategies)
    (howner : MemberKey.Identify (calls.filterMap Call.key?) key.owner) {invoker : CompiledInvoker}
    (hkept : ((initial files).run calls).cache.get? key = some invoker) :
    ∃ serial,
      Attempt.outcome (((initial files).run calls).request strategies serial key).make =
        .ok invoker := by
  obtain ⟨before, after, serial, hcalls, hclear, hfound, hmake⟩ :=
    exists_make_of_kept hby howner hkept
  refine ⟨serial, ?_⟩
  have hgrows : ((initial files).run before).registry.Grows
      ((initial files).run calls).registry := by
    rw [hcalls, run_append]
    exact (((sound_initial files).run before).1.run after).2.registry
  have hresolve : ((initial files).run calls).registry.resolve key =
      ((initial files).run before).registry.resolve key :=
    Registry.resolve_congr fun name hname =>
      hgrows.get?_eq (hsettled before after hcalls hclear hfound name hname)
  rw [← hmake]
  exact InvokerRequest.make_congr (q := ((initial files).run before).request strategies serial key)
    hresolve

end Kept

/-! ## Clearing the cache -/

/-- The first factory differs from the second in its cache only, and keeps invokers for no more
keys. -/
structure Trails (w' w : Factory) : Prop where
  registry : w'.registry = w.registry
  files : w'.files = w.files
  compilers : w'.compilers = w.compilers
  kept : ∀ {key}, (w'.cache.get? key).isSome = true → (w.cache.get? key).isSome = true

namespace Trails

variable {w' w : Factory} (h : w'.Trails w) (hw' : w'.Balanced) (hw : w.Balanced)
include h

include hw' hw in
theorem step_request (strategies : List Strategy) (serial : Nat) (key : MemberKey) :
    (w'.step (.invoker strategies serial key)).Trails (w.step (.invoker strategies serial key)) := by
  have hserves' := hw'.serves_request (w'.request strategies serial key)
  have hserves := hw.serves_request (w.request strategies serial key)
  have hsame : w'.request strategies serial key = w.request strategies serial key := by
    rw [request, request, h.registry]
  refine ⟨h.registry, h.files, h.compilers, fun {other} hother => ?_⟩
  rw [Factory.step, hserves'.get?_eq hw'.filled, hsame] at hother
  rw [Factory.step, hserves.get?_eq hw.filled]
  split
  · rename_i hkey
    rw [if_pos hkey, Option.isSome_or, Bool.or_eq_true] at hother
    rw [Option.isSome_or, Bool.or_eq_true]
    exact hother.imp_left h.kept
  · rename_i hkey
    rw [if_neg hkey] at hother
    exact h.kept hother

include hw' hw in
theorem step (call : Call) : (w'.step call).Trails (w.step call) := by
  cases call with
  | define c =>
      simp only [Factory.step, h.registry]
      cases Attempt.outcome (w.registry.define c) with
      | ok r => exact ⟨rfl, h.files, h.compilers, h.kept⟩
      | error e => exact h
  | addCompiler space dumpDir =>
      exact ⟨h.registry, h.files, congrArg (· ++ [_]) h.compilers, h.kept⟩
  | compile i serial q =>
      simp only [Factory.step, compile, h.registry, h.files, h.compilers]
      cases w.compilers[i]? with
      | none => exact h
      | some pc => exact ⟨rfl, rfl, rfl, h.kept⟩
  | invoker strategies serial key => exact h.step_request hw' hw strategies serial key
  | clearCache =>
      refine ⟨h.registry, h.files, h.compilers, fun hkept => ?_⟩
      cases hkept

include hw' hw in
theorem run (calls : List Call) : (w'.run calls).Trails (w.run calls) := by
  induction calls generalizing w' w with
  | nil => exact h
  | cons call calls ih => exact ih (h.step hw' hw call) (hw'.step call) (hw.step call)

end Trails

theorem trails_clear (files : DumpFiles) (before after : List Call) :
    ((initial files).run (before ++ .clearCache :: after)).Trails
      ((initial files).run (before ++ after)) := by
  have hw := (balanced_initial files).run before
  have hcleared : (((initial files).run before).step .clearCache).Trails
      ((initial files).run before) := ⟨rfl, rfl, rfl, nofun⟩
  rw [run_append, run_append]
  exact hcleared.run (hw.step .clearCache) hw after

/-- A split of the calls with a cleared cache inserted, with no clearing after the split, comes from
a split of the calls. -/
theorem exists_middle_of_clear {before after b a : List Call}
    (hsplit : before ++ .clearCache :: after = b ++ a) (hclear : .clearCache ∉ a) :
    ∃ middle, b = before ++ .clearCache :: middle ∧ after = middle ++ a := by
  rcases List.append_eq_append_iff.mp hsplit with ⟨rest, rfl, hrest⟩ | ⟨rest, -, rfl⟩
  · cases rest with
    | nil =>
        have hmem : .clearCache ∈ [] ++ a := hrest ▸ List.mem_cons_self
        exact absurd hmem hclear
    | cons first middle =>
        obtain ⟨rfl, rfl⟩ := List.cons.inj hrest
        exact ⟨middle, rfl, rfl⟩
  · exact absurd (List.mem_append_right _ List.mem_cons_self) hclear

theorem Settled.clear {files : DumpFiles} {before after : List Call} {key : MemberKey}
    (h : Settled files (before ++ after) key) :
    Settled files (before ++ .clearCache :: after) key := by
  intro b a hsplit hclear hfound name hname hdefined
  obtain ⟨middle, rfl, rfl⟩ := exists_middle_of_clear hsplit hclear
  have hmiddle := trails_clear files before middle
  have hall := trails_clear files before (middle ++ a)
  rw [hmiddle.registry]
  rw [hall.registry] at hdefined
  exact h (before ++ middle) a (List.append_assoc _ _ _).symm hclear (hmiddle.kept hfound) name
    hname hdefined

/-! ## Answers -/

/-- The answer to a request, without the serial number. -/
def answer (w : Factory) (strategies : List Strategy) (serial : Nat) (key : MemberKey) :
    Except Failure (ConstructorInvoker ⊕ FieldInvoker) :=
  (w.cache.request (w.request strategies serial key)).answer.map CompiledInvoker.invoker

/-- What finding the member and making an invoker for it anew comes to. -/
def anew (w : Factory) (strategies : List Strategy) (serial : Nat) (key : MemberKey) :
    Except Failure (ConstructorInvoker ⊕ FieldInvoker) :=
  (Attempt.outcome (w.request strategies serial key).make).map CompiledInvoker.invoker

/-- The answer to a request after the calls is what would be made anew, and a cleared cache on the
way makes no difference to it. -/
structure Transparent (files : DumpFiles) (calls : List Call) (strategies : List Strategy)
    (serial : Nat) (key : MemberKey) : Prop where
  anew : ((initial files).run calls).answer strategies serial key =
    ((initial files).run calls).anew strategies serial key
  clear : ∀ before after, calls = before ++ after →
    ((initial files).run (before ++ .clearCache :: after)).answer strategies serial key =
      ((initial files).run calls).answer strategies serial key

section Reflector

variable {files : DumpFiles} {calls : List Call} {strategies : List Strategy} {key : MemberKey}

theorem answer_of_settled (hby : ∀ call ∈ calls, call.By strategies)
    (howner : MemberKey.Identify (calls.filterMap Call.key?) key.owner)
    (hsettled : Settled files calls key) (serial : Nat) :
    ((initial files).run calls).answer strategies serial key =
      ((initial files).run calls).anew strategies serial key := by
  have hserves := ((balanced_initial files).run calls).serves_request
    (((initial files).run calls).request strategies serial key)
  exact hserves.map_invoker_answer fun invoker hkept =>
    exists_make_of_settled hsettled hby howner hkept

/-- The answers of a reflector are what it would make anew: for all fields, for constructors with the
types left open or with exactly the types asked for, and for other constructors when none of the
types asked for names a class that has been defined since the answer was first given. With the cache
cleared at any time on the way, the answers are the same but for the serial numbers. -/
theorem cache_transparent (hby : ∀ call ∈ calls, call.By strategies)
    (howner : MemberKey.Identify (calls.filterMap Call.key?) key.owner)
    (hsettled : key.Definite ∨ Settled files calls key) (serial : Nat) :
    Transparent files calls strategies serial key := by
  have hkey : Settled files calls key := hsettled.elim settled_of_definite id
  have hanswer := answer_of_settled hby howner hkey serial
  refine ⟨hanswer, ?_⟩
  rintro before after rfl
  obtain ⟨hbybefore, hbyafter⟩ := List.forall_mem_append.mp hby
  have hbyclear : ∀ call ∈ before ++ .clearCache :: after, call.By strategies :=
    List.forall_mem_append.mpr ⟨hbybefore, List.forall_mem_cons.mpr ⟨trivial, hbyafter⟩⟩
  have hownerclear :
      MemberKey.Identify ((before ++ .clearCache :: after).filterMap Call.key?) key.owner := by
    simpa [List.filterMap_append, List.filterMap_cons, Call.key?] using howner
  rw [hanswer, answer_of_settled hbyclear hownerclear hkey.clear serial, anew, anew, request,
    request, (trails_clear files before after).registry]

end Reflector

end Factory

/-! ### A class that is defined after an invoker was made -/

namespace Samples

/-- A class with a constructor for what implements the interface, and one for all objects. -/
def storage : Class :=
  { ClassSpec.named "app.Storage" .ordinary with
    constructors :=
      [⟨[.named "app.Repository"], .pub, none, none⟩, ⟨[.root], .pub, none, none⟩] }.described 3

def forSqlRepository : Option (List TypeRef) := some [.named "app.SqlRepository"]

def tiers : List Strategy := Strategy.standard true true

def storageKey : MemberKey := .constructor storage forSqlRepository

/-- While the class that the request names is not defined, it is only known to be an object. -/
def repositoryCalls : List Factory.Call :=
  [.define repository, .define storage, .invoker tiers 0 storageKey, .define sqlRepository]

theorem repositoryCalls_keep_overload :
    ((Factory.initial ⟨[]⟩).run repositoryCalls).answer tiers 1 storageKey =
        .ok (.inl (.handle storage ⟨[.root], .pub, none, none⟩)) ∧
      ((Factory.initial ⟨[]⟩).run repositoryCalls).anew tiers 1 storageKey =
        .ok (.inl (.handle storage ⟨[.named "app.Repository"], .pub, none, none⟩)) ∧
      ((Factory.initial ⟨[]⟩).run (repositoryCalls ++ [.clearCache])).answer tiers 1 storageKey =
        .ok (.inl (.handle storage ⟨[.named "app.Repository"], .pub, none, none⟩)) :=
  ⟨rfl, rfl, rfl⟩

/-- The class is defined in time, and another class later. -/
def settledCalls : List Factory.Call :=
  [.define repository, .define sqlRepository, .define storage, .invoker tiers 0 storageKey,
    .define cachedRepository]

theorem settled_settledCalls : Factory.Settled ⟨[]⟩ settledCalls storageKey := by
  intro before after hcalls _ hfound name hname _
  obtain ⟨-, hmem⟩ := hname
  obtain rfl : name = "app.SqlRepository" := by simpa using hmem
  have hbefore : before = settledCalls.take before.length := by simp [hcalls]
  have hlength : before.length ≤ 5 := by
    have htotal := congrArg List.length hcalls
    simp only [settledCalls, List.length_cons, List.length_nil, List.length_append] at htotal
    omega
  rw [hbefore] at hfound ⊢
  clear hbefore hcalls
  generalize before.length = n at hlength hfound ⊢
  interval_cases n
  all_goals first | rfl | cases hfound

theorem cache_transparent_settledCalls :
    ((Factory.initial ⟨[]⟩).run settledCalls).answer tiers 1 storageKey =
        .ok (.inl (.handle storage ⟨[.named "app.Repository"], .pub, none, none⟩)) ∧
      ((Factory.initial ⟨[]⟩).run (settledCalls ++ [.clearCache])).answer tiers 1 storageKey =
        .ok (.inl (.handle storage ⟨[.named "app.Repository"], .pub, none, none⟩)) := by
  have hby : ∀ call ∈ settledCalls, call.By tiers := by
    simp [settledCalls, Factory.Call.By]
  have howner : MemberKey.Identify (settledCalls.filterMap Factory.Call.key?) storageKey.owner := by
    intro key hkey _
    have hsame : storageKey = key := by simpa [settledCalls, Factory.Call.key?] using hkey
    subst hsame
    rfl
  have htransparent :=
    Factory.cache_transparent hby howner (.inr settled_settledCalls) 1
  have hmade : ((Factory.initial ⟨[]⟩).run settledCalls).anew tiers 1 storageKey =
      .ok (.inl (.handle storage ⟨[.named "app.Repository"], .pub, none, none⟩)) := rfl
  refine ⟨htransparent.anew.trans hmade, ?_⟩
  rw [htransparent.clear settledCalls [] (List.append_nil _).symm]
  exact htransparent.anew.trans hmade

end Samples

end Metaobject
