import Mathlib.Order.Bounds.Defs
import Metaobject.Proofs.Proxy.Atomicity

/-!
# Generated names are new

The search for a name ends at the least number from the counter on whose name is free, and leaves the
counter behind it. So a compiler never generates a name twice, and no name that it generates is one
of a class that has been defined, by itself or by another compiler. A name whose class could not be
made is not defined, and a second compiler with the same namespace may generate it again.
-/

namespace Metaobject

/-! ## The search for a number -/

theorem leastFree_le (taken : Nat → Bool) (fuel i : Nat) : leastFree taken fuel i ≤ i + fuel := by
  induction fuel generalizing i with
  | zero => exact Nat.le_refl i
  | succ fuel ih =>
      rw [leastFree]
      split
      · have hrest := ih (i + 1)
        omega
      · omega

theorem taken_of_lt_leastFree {taken : Nat → Bool} {fuel i j : Nat} (hi : i ≤ j)
    (hj : j < leastFree taken fuel i) : taken j = true := by
  induction fuel generalizing i with
  | zero =>
      rw [leastFree] at hj
      omega
  | succ fuel ih =>
      rw [leastFree] at hj
      split at hj
      · rename_i htaken
        rcases Nat.eq_or_lt_of_le hi with rfl | hlt
        · exact htaken
        · exact ih hlt hj
      · omega

/-- The search on a counter of 64 bits: each number that is drawn is counted, and the first one that
is not taken ends the search. The numbers are where it starts, what it finds, and what it leaves. -/
inductive Draws (taken : UInt64 → Bool) : UInt64 → UInt64 → UInt64 → Prop
  | free {i : UInt64} : taken i = false → Draws taken i i (i + 1)
  | skip {i j next : UInt64} : taken i = true → Draws taken (i + 1) j next → Draws taken i j next

/-- As long as the counter does not wrap around, its numbers are those of an unbounded one. -/
theorem draws_of_free {taken : Nat → Bool} {i n : Nat} (hi : i ≤ n) (hfree : taken n = false)
    (htaken : ∀ j, i ≤ j → j < n → taken j = true) (hn : n < UInt64.size) :
    Draws (fun k => taken k.toNat) (.ofNat i) (.ofNat n) (.ofNat (n + 1)) := by
  have hnext (k : Nat) : UInt64.ofNat (k + 1) = UInt64.ofNat k + 1 := UInt64.ofNat_add k 1
  obtain ⟨d, rfl⟩ := Nat.exists_eq_add_of_le hi
  induction d generalizing i with
  | zero =>
      rw [hnext]
      apply Draws.free
      rwa [UInt64.toNat_ofNat_of_lt' (show i < UInt64.size from hn)]
  | succ d ih =>
      apply Draws.skip
      · have hlt : i < UInt64.size := by omega
        rw [UInt64.toNat_ofNat_of_lt' hlt]
        exact htaken i (Nat.le_refl i) (by omega)
      · have hsum : i + (d + 1) = i + 1 + d := by omega
        rw [← hnext, hsum]
        rw [hsum] at hfree hn
        exact ih (by omega) hfree (fun j hj hlt => htaken j (by omega) (by omega)) hn

namespace ProxyCompiler

variable {pc pc' : ProxyCompiler} {r : Registry} {q : ProxyRequest} {name : String}

/-- The number has not been used up, and its name is neither one of the compiler nor in the
registry. -/
def Free (pc : ProxyCompiler) (r : Registry) (base : String) (i : Nat) : Prop :=
  pc.sequence ≤ i ∧ pc.numbered base i ∉ pc.classes.entries.map Prod.fst ∧
    pc.numbered base i ∉ r.classes.map Class.name

theorem isTaken_eq_false_iff : pc.isTaken r name = false ↔
    name ∉ pc.classes.entries.map Prod.fst ∧ name ∉ r.classes.map Class.name := by
  rw [isTaken, Bool.or_eq_false_iff, ← Bool.not_eq_true, ← Bool.not_eq_true,
    Cells.contains_iff_mem, Registry.contains_iff_mem]

theorem isLeast_nextNumber (pc : ProxyCompiler) (r : Registry) (base : String) :
    IsLeast {i | pc.Free r base i} (pc.nextNumber r base) := by
  constructor
  · exact ⟨le_leastFree _ _ _, isTaken_eq_false_iff.mp (pc.isTaken_nextNumber r base)⟩
  · rintro i ⟨hi, hfree⟩
    by_contra hlt
    have htaken := taken_of_lt_leastFree hi (Nat.lt_of_not_le hlt)
    rw [isTaken_eq_false_iff.mpr hfree] at htaken
    cases htaken

theorem draws_nextNumber (pc : ProxyCompiler) (r : Registry) (base : String)
    (h : pc.nextNumber r base < UInt64.size) :
    Draws (fun k => pc.isTaken r (pc.numbered base k.toNat)) (.ofNat pc.sequence)
      (.ofNat (pc.nextNumber r base)) (.ofNat (pc.nextNumber r base + 1)) :=
  @draws_of_free (fun i => pc.isTaken r (pc.numbered base i)) _ _ (le_leastFree _ _ _)
    (pc.isTaken_nextNumber r base) (fun _ => taken_of_lt_leastFree) h

/-- What the search for the number of a name comes to. -/
structure FindsNumber (pc : ProxyCompiler) (r : Registry) (base : String) : Prop where
  least : IsLeast {i | pc.Free r base i} (pc.nextNumber r base)
  bound : pc.nextNumber r base ≤ pc.sequence + (pc.classes.size + r.size)
  draws : pc.nextNumber r base < UInt64.size →
    Draws (fun k => pc.isTaken r (pc.numbered base k.toNat)) (.ofNat pc.sequence)
      (.ofNat (pc.nextNumber r base)) (.ofNat (pc.nextNumber r base + 1))

theorem findsNumber (pc : ProxyCompiler) (r : Registry) (base : String) :
    pc.FindsNumber r base where
  least := pc.isLeast_nextNumber r base
  bound := leastFree_le _ _ _
  draws := pc.draws_nextNumber r base

/-! ## What a name tells -/

/-- What follows the last dollar sign of a generated name is its number. -/
theorem takeWhile_reverse_numbered (pc : ProxyCompiler) (base : String) (i : Nat) :
    (pc.numbered base i).toList.reverse.takeWhile (· ≠ '$') = (Nat.toDigits 10 i).reverse := by
  have hdigits : ∀ c ∈ (Nat.toDigits 10 i).reverse, decide (c ≠ '$') = true := by
    intro c hc
    have hdigit : c.isDigit = true :=
      Nat.isDigit_of_mem_toDigits (by decide) (by decide) (List.mem_reverse.mp hc)
    simp only [decide_eq_true_eq]
    rintro rfl
    cases hdigit
  have hmark : (toString "$Proxy$").toList.reverse = '$' :: (toString "$Proxy").toList.reverse := by
    decide
  have hname : (pc.numbered base i).toList.reverse = (Nat.toDigits 10 i).reverse ++
      '$' :: ((toString "$Proxy").toList.reverse ++ ((toString base).toList.reverse ++
        ((toString ".").toList.reverse ++ (toString pc.space).toList.reverse))) := by
    simp [numbered, hmark]
  rw [hname, List.takeWhile_append_of_pos hdigits]
  simp

/-- Whatever the namespaces and the bases are, names with different numbers differ. -/
theorem number_eq_of_numbered_eq {base base' : String} {i j : Nat}
    (h : pc.numbered base i = pc'.numbered base' j) : i = j := by
  have hdigits : Nat.toDigits 10 i = Nat.toDigits 10 j := by
    apply List.reverse_injective
    rw [← takeWhile_reverse_numbered pc base, ← takeWhile_reverse_numbered pc' base', h]
  simpa using congrArg (fun l => Nat.ofDigitChars 10 l 0) hdigits

/-! ## One request -/

/-- The name that is generated for a request, if one is. -/
def generated? (pc : ProxyCompiler) (r : Registry) (q : ProxyRequest) : Option String :=
  if (Workshop.checkRequest q).isOk ∧ q.name = none ∧ pc.shapes.lookup q.shape = none then
    some (pc.assignName r q).value.1
  else none

/-- The request gets the name with the number that is found, and the counter is left behind it. -/
structure AssignsNumber (pc : ProxyCompiler) (r : Registry) (q : ProxyRequest) : Prop where
  name : (pc.assignName r q).value.1 = pc.numbered (baseName q) (pc.nextNumber r (baseName q))
  sequence : (pc.assignName r q).value.2.sequence = pc.nextNumber r (baseName q) + 1

theorem assignsNumber_of_new (pc : ProxyCompiler) (r : Registry) (hunnamed : q.name = none)
    (h : pc.shapes.lookup q.shape = none) : pc.AssignsNumber r q := by
  constructor <;> (rw [assignName, hunnamed, h]; rfl)

/-- A generated name is the one that is assigned to a valid request, and means no class yet. -/
theorem generated?_eq_some (h : pc.generated? r q = some name) :
    Workshop.checkRequest q = .ok () ∧
      name = pc.numbered (baseName q) (pc.nextNumber r (baseName q)) ∧ r.get? name = none ∧
      ∃ pc', (pc.assignName r q).value = (name, pc') ∧ pc'.get? name = none ∧
        pc'.sequence = pc.nextNumber r (baseName q) + 1 := by
  unfold generated? at h
  split at h
  · rename_i hnew
    obtain ⟨hvalid, hunnamed, hshape⟩ := hnew
    obtain rfl := Option.some.inj h
    obtain ⟨hname, hsequence⟩ := pc.assignsNumber_of_new r hunnamed hshape
    have hfree := pc.isTaken_nextNumber r (baseName q)
    rw [← hname] at hfree
    obtain ⟨hmissing, hundefined⟩ := get?_of_isTaken hfree
    refine ⟨?_, hname, hundefined, _, rfl, ?_, hsequence⟩
    · cases hcheck : Workshop.checkRequest q with
      | error e => simp [hcheck, Except.isOk, Except.toBool] at hvalid
      | ok u => rfl
    · rwa [get?, (pc.assigns_assignName r q).classes_eq]
  · cases h

theorem Assigns.space_eq (h : pc.Assigns r q name pc') : pc'.space = pc.space := by
  cases h <;> rfl

end ProxyCompiler

namespace Workshop

variable {w w' : Workshop} {serial : Nat} {q : ProxyRequest} {name : String}

theorem Compiles.space_eq {result : Except Failure ProxyClass}
    (h : w.Compiles serial q result w') : w'.compiler.space = w.compiler.space := by
  cases h with
  | refused invalid => rfl
  | known assigned found => exact assigned.space_eq
  | made assigned missing built defined => exact assigned.space_eq
  | failed assigned missing => exact assigned.space_eq

/-- A class that is made has the generated name, and a failure to make one is reported for it. -/
theorem answer_of_generated (h : w.compiler.generated? w.registry q = some name) (serial : Nat) :
    (∃ p, (w.compile serial q).value.1 = .ok p ∧ p.name = name) ∨
      ∃ cause, (w.compile serial q).value.1 = .error (.compilationFailure name cause) := by
  obtain ⟨hvalid, -, hundefined, pc, hassigned, hmissing, -⟩ := ProxyCompiler.generated?_eq_some h
  rw [fst_compile_of_missing hvalid hassigned hmissing]
  cases hproduct : ProxyCompiler.product w.registry serial q name with
  | ok made => exact .inl ⟨made.1, rfl, ProxyCompiler.name_of_product hproduct⟩
  | error e =>
      right
      rcases (ProxyCompiler.product_eq_error_iff hvalid).mp hproduct with
        ⟨cause, -, rfl⟩ | ⟨-, hdefined, -⟩
      · exact ⟨cause, rfl⟩
      · rw [Registry.contains_eq_false_iff.mpr hundefined] at hdefined
        cases hdefined

end Workshop

/-! ## All requests -/

/-- A name that was generated: by which compiler, and whether a class was made for it. -/
structure Naming where
  compiler : Nat
  name : String
  made : Bool

namespace Factory

/-- The name that a call generates, if it does. -/
def naming? (w : Factory) : Call → Option Naming
  | .compile i serial q => do
      let pc ← w.compilers[i]?
      let name ← pc.generated? w.registry q
      return ⟨i, name, (w.compile i serial q).1.any Except.isOk⟩
  | _ => none

/-- The names that are generated when the calls are answered one after another. -/
def namings (w : Factory) : List Call → List Naming
  | [] => []
  | call :: calls => (w.naming? call).toList ++ (w.step call).namings calls

/-- The number of the name is behind the counter of its compiler, and the name is defined if a class
was made for it. -/
structure Spent (w : Factory) (n : Naming) : Prop where
  counted : ∃ pc base i, w.compilers[n.compiler]? = some pc ∧ n.name = pc.numbered base i ∧
    i < pc.sequence
  defined : n.made = true → w.registry.contains n.name = true

variable {w : Factory} {call : Call} {n m : Naming}

theorem naming?_eq_some (h : w.naming? call = some n) :
    ∃ serial q pc, call = .compile n.compiler serial q ∧ w.compilers[n.compiler]? = some pc ∧
      pc.generated? w.registry q = some n.name ∧
      n.made = (w.compile n.compiler serial q).1.any Except.isOk := by
  cases call with
  | compile i serial q =>
      obtain ⟨pc, hpc, h⟩ := Option.bind_eq_some_iff.mp h
      obtain ⟨name, hname, h⟩ := Option.bind_eq_some_iff.mp h
      obtain rfl := Option.some.inj h
      exact ⟨serial, q, pc, rfl, hpc, hname, rfl⟩
  | _ => cases h

/-- The answer to a call that generates a name is a class of that name, or a failure to make one. -/
theorem answer_of_naming {i serial : Nat} {q : ProxyRequest}
    (h : w.naming? (.compile i serial q) = some n) :
    (n.made = true ∧ ∃ p, (w.compile i serial q).1 = some (.ok p) ∧ p.name = n.name) ∨
      n.made = false ∧
        ∃ cause, (w.compile i serial q).1 = some (.error (.compilationFailure n.name cause)) := by
  obtain ⟨serial, q, pc, hcall, hpc, hname, hmade⟩ := naming?_eq_some h
  obtain ⟨rfl, rfl, rfl⟩ := Call.compile.inj hcall
  rw [hmade, compile_eq hpc]
  rcases Workshop.answer_of_generated (w := ⟨pc, w.registry, w.files⟩) hname serial with
    ⟨p, hp, hpname⟩ | ⟨cause, hcause⟩
  · exact .inl ⟨by rw [hp]; rfl, p, congrArg some hp, hpname⟩
  · exact .inr ⟨by rw [hcause]; rfl, cause, congrArg some hcause⟩

/-- A compiler keeps its namespace, and its counter never goes back. -/
theorem exists_compiler_step {k : Nat} {pc : ProxyCompiler} (h : w.compilers[k]? = some pc)
    (call : Call) : ∃ pc', (w.step call).compilers[k]? = some pc' ∧ pc'.space = pc.space ∧
      pc.sequence ≤ pc'.sequence := by
  cases call with
  | define c =>
      refine ⟨pc, ?_, rfl, Nat.le_refl _⟩
      rw [step]
      split <;> exact h
  | addCompiler space dumpDir =>
      obtain ⟨hk, -⟩ := List.getElem?_eq_some_iff.mp h
      refine ⟨pc, ?_, rfl, Nat.le_refl _⟩
      rw [step, List.getElem?_append_left hk, h]
  | compile i serial q =>
      rw [step]
      by_cases hi : i = k
      · subst hi
        have hcompiles := Workshop.compiles_compile ⟨pc, w.registry, w.files⟩ serial q
        rw [compile_eq h]
        exact ⟨_, getElem?_set_compiler h _, hcompiles.space_eq,
          Workshop.sequence_le_compile ⟨pc, w.registry, w.files⟩ serial q⟩
      · refine ⟨pc, ?_, rfl, Nat.le_refl _⟩
        cases hother : w.compilers[i]? with
        | none => simpa only [compile, hother] using h
        | some other => rw [compile_eq hother, List.getElem?_set_ne hi, h]
  | invoker strategies serial key => exact ⟨pc, h, rfl, Nat.le_refl _⟩
  | clearCache => exact ⟨pc, h, rfl, Nat.le_refl _⟩

theorem Spent.step (h : w.Spent n) (hw : w.Sound) (call : Call) : (w.step call).Spent n := by
  constructor
  · obtain ⟨pc, base, i, hpc, hname, hi⟩ := h.counted
    obtain ⟨pc', hpc', hspace, hle⟩ := exists_compiler_step hpc call
    refine ⟨pc', base, i, hpc', ?_, Nat.lt_of_lt_of_le hi hle⟩
    rw [hname, ProxyCompiler.numbered, ProxyCompiler.numbered, hspace]
  · intro hmade
    obtain ⟨c, hc⟩ := Option.isSome_iff_exists.mp (h.defined hmade)
    exact Option.isSome_iff_exists.mpr ⟨c, (hw.step call).2.registry hc⟩

theorem spent_of_naming (hw : w.Sound) (h : w.naming? call = some n) : (w.step call).Spent n := by
  obtain ⟨serial, q, pc, rfl, hpc, hname, -⟩ := naming?_eq_some h
  constructor
  · obtain ⟨hvalid, hnumbered, -, pc', hassigned, -, hsequence⟩ :=
      ProxyCompiler.generated?_eq_some hname
    have hcounter := Workshop.sequence_compile (w := ⟨pc, w.registry, w.files⟩) hvalid serial
    have hcompiles := Workshop.compiles_compile ⟨pc, w.registry, w.files⟩ serial q
    rw [hassigned, hsequence] at hcounter
    rw [Factory.step, compile_eq hpc]
    refine ⟨_, ProxyCompiler.baseName q, pc.nextNumber w.registry (ProxyCompiler.baseName q),
      getElem?_set_compiler hpc _, ?_, ?_⟩
    · rw [hnumbered, ProxyCompiler.numbered, ProxyCompiler.numbered, hcompiles.space_eq]
    · rw [hcounter]
      exact Nat.lt_succ_self _
  · intro hmade
    rcases answer_of_naming h with ⟨-, p, hp, hpname⟩ | ⟨hfailed, -⟩
    · have hsound := hw.compilers pc (List.mem_of_getElem? hpc)
      have hcompiles := Workshop.compiles_compile ⟨pc, w.registry, w.files⟩ serial q
      rw [compile_eq hpc] at hp
      rw [Option.some.inj hp] at hcompiles
      have hdefined := (hcompiles.sound hsound).defined (hcompiles.get?_of_ok hsound)
      rw [Factory.step, compile_eq hpc, ← hpname]
      exact Option.isSome_iff_exists.mpr ⟨_, hdefined⟩
    · rw [hmade] at hfailed
      cases hfailed

theorem undefined_of_naming (h : w.naming? call = some n) : w.registry.get? n.name = none := by
  obtain ⟨serial, q, pc, -, -, hname, -⟩ := naming?_eq_some h
  obtain ⟨-, -, hundefined, -⟩ := ProxyCompiler.generated?_eq_some hname
  exact hundefined

/-- A name is generated again by another compiler only, and only if no class was made for it. -/
theorem Spent.eq_of_naming (h : w.Spent n) (hm : w.naming? call = some m)
    (heq : n.name = m.name) : n.compiler ≠ m.compiler ∧ n.made = false := by
  constructor
  · intro hsame
    obtain ⟨serial, q, pc, -, hpc, hname, -⟩ := naming?_eq_some hm
    obtain ⟨-, hnumbered, -⟩ := ProxyCompiler.generated?_eq_some hname
    obtain ⟨pc', base, i, hpc', hspent, hi⟩ := h.counted
    obtain rfl : pc = pc' := Option.some.inj (hpc.symm.trans (hsame ▸ hpc'))
    have hnumber : i = pc.nextNumber w.registry (ProxyCompiler.baseName q) :=
      ProxyCompiler.number_eq_of_numbered_eq (hspent.symm.trans (heq.trans hnumbered))
    have hle : pc.sequence ≤ pc.nextNumber w.registry (ProxyCompiler.baseName q) :=
      le_leastFree _ _ _
    omega
  · rw [Bool.eq_false_iff]
    intro hmade
    have hdefined := h.defined hmade
    rw [heq, Registry.contains_eq_false_iff.mpr (undefined_of_naming hm)] at hdefined
    cases hdefined

theorem Spent.forall_mem_namings (h : w.Spent n) (hw : w.Sound) {calls : List Call} :
    ∀ m ∈ w.namings calls, n.name = m.name → n.compiler ≠ m.compiler ∧ n.made = false := by
  induction calls generalizing w with
  | nil => simp [namings]
  | cons call calls ih =>
      intro m hm heq
      rcases List.mem_append.mp hm with hm | hm
      · exact h.eq_of_naming (Option.mem_toList.mp hm) heq
      · exact ih (h.step hw call) (hw.step call).1 m hm heq

theorem Sound.pairwise_namings (hw : w.Sound) (calls : List Call) :
    (w.namings calls).Pairwise fun n m =>
      n.name = m.name → n.compiler ≠ m.compiler ∧ n.made = false := by
  induction calls generalizing w with
  | nil => exact .nil
  | cons call calls ih =>
      have hrest := ih (hw.step call).1
      cases hcall : w.naming? call with
      | none => simpa [namings, hcall] using hrest
      | some n =>
          have hspent := spent_of_naming hw hcall
          have hnew : ∀ m ∈ (w.step call).namings calls,
              n.name = m.name → n.compiler ≠ m.compiler ∧ n.made = false :=
            hspent.forall_mem_namings (hw.step call).1
          simpa [namings, hcall] using ⟨hnew, hrest⟩

/-- The name that a call has generated is new, and the answer says whether a class was made for it. -/
structure Names (w : Factory) (i serial : Nat) (q : ProxyRequest) (n : Naming) : Prop where
  undefined : w.registry.get? n.name = none
  answer : (n.made = true ∧ ∃ p, (w.compile i serial q).1 = some (.ok p) ∧ p.name = n.name) ∨
    n.made = false ∧ ∃ cause,
      (w.compile i serial q).1 = some (.error (.compilationFailure n.name cause))

/-- The names that are generated for the calls are apart from each other and from those of the classes
that are defined. -/
structure KeepsNamesApart (w : Factory) (calls : List Call) : Prop where
  finds : ∀ (pc : ProxyCompiler) r base, pc.FindsNumber r base
  assigns : ∀ (pc : ProxyCompiler) r q, q.name = none → pc.shapes.lookup q.shape = none →
    pc.AssignsNumber r q
  apart : (w.namings calls).Pairwise fun n m =>
    n.name = m.name → n.compiler ≠ m.compiler ∧ n.made = false
  names : ∀ before i serial q after n, calls = before ++ .compile i serial q :: after →
    (w.run before).naming? (.compile i serial q) = some n → (w.run before).Names i serial q n

/-- The search for a number ends at the least one from the counter on whose name no class of the
compiler and no defined class has, and the counter is left behind it; a counter of 64 bits does the
same unless it wraps around. Of all names that any number of compilers generate for one registry, no
two are the same but those of different compilers where the first one made no class, and none is
defined when it is generated. -/
theorem names_generated (files : DumpFiles) (calls : List Call) :
    (initial files).KeepsNamesApart calls where
  finds := ProxyCompiler.findsNumber
  assigns pc r _ := pc.assignsNumber_of_new r
  apart := (sound_initial files).pairwise_namings calls
  names _ _ _ _ _ _ _ hn := ⟨undefined_of_naming hn, answer_of_naming hn⟩

end Factory

/-! ### Two compilers with one namespace -/

namespace Samples

/-- A compiler of the same namespace that starts anew skips the numbers of both classes. -/
theorem names_generated_greetings :
    (ProxyCompiler.initial "dyn" none).nextNumber greetings.registry "Greeter" = 2 ∧
      Draws (fun k => (ProxyCompiler.initial "dyn" none).isTaken greetings.registry
        ((ProxyCompiler.initial "dyn" none).numbered "Greeter" k.toNat)) 0 2 3 ∧
      ((ProxyCompiler.initial "dyn" none).assignName greetings.registry greeting).value.2.sequence =
        3 ∧
      ((Factory.initial ⟨[]⟩).namings greetingCalls).map Naming.name =
        ["dyn.Greeter$Proxy$0", "dyn.Greeter$Proxy$1"] ∧
      ((Factory.initial ⟨[]⟩).run (greetingCalls.take 4)).registry.get? "dyn.Greeter$Proxy$1" =
        none := by
  have hnames := Factory.names_generated ⟨[]⟩ greetingCalls
  have hnext : (ProxyCompiler.initial "dyn" none).nextNumber greetings.registry "Greeter" = 2 := rfl
  have hdraws := (hnames.finds (.initial "dyn" none) greetings.registry "Greeter").draws
  rw [hnext] at hdraws
  have hassigns := hnames.assigns (.initial "dyn" none) greetings.registry greeting rfl rfl
  have hsecond := hnames.names (greetingCalls.take 4) 1 3 greeting _
    ⟨1, "dyn.Greeter$Proxy$1", true⟩ rfl rfl
  exact ⟨hnext, hdraws (by decide), hassigns.sequence, rfl, hsecond.undefined⟩

/-- No class can be made for the request, so the name that the first compiler has generated for it
stays free. -/
theorem absorbing_named_twice :
    ¬ ∀ (files : DumpFiles) (calls : List Factory.Call),
      (((Factory.initial files).namings calls).map Naming.name).Nodup := by
  intro h
  have hnames : ((Factory.initial ⟨[]⟩).namings
      [.addCompiler "dyn" none, .addCompiler "dyn" none, .compile 0 1 absorbing,
        .compile 1 2 absorbing]).map Naming.name =
      ["dyn.Absorber$Proxy$0", "dyn.Absorber$Proxy$0"] := rfl
  have hnodup := h ⟨[]⟩ [.addCompiler "dyn" none, .addCompiler "dyn" none, .compile 0 1 absorbing,
    .compile 1 2 absorbing]
  rw [hnames] at hnodup
  exact absurd hnodup (by decide)

end Samples

end Metaobject
