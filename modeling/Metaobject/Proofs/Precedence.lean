import Metaobject.Proofs.Heap.Construction

/-!
# Checks come before effects

The invokers of all tiers check what they are given before anything runs. A construction reports a
mismatch exactly when the arguments do not match the parameters, by their number or else at the first
argument that its parameter refuses; setting a field reports first a target and then a value that does
not match. What reports a mismatch has run no routine and changed nothing. What passes the checks is
handed on as it is, and an exception of the bodies that run is the failure of the construction.
-/

namespace Metaobject

/-! ## What is reported -/

namespace TypeRef

/-- The argument at the index is refused, and those before it are accepted. -/
structure RefusedAt (params : List TypeRef) (args : List Value) (i : Nat) (p : TypeRef)
    (a : Value) : Prop where
  param : params[i]? = some p
  arg : args[i]? = some a
  refuses : p.accepts a = false
  least : ∀ j < i, ∀ q b, params[j]? = some q → args[j]? = some b → q.accepts b = true

/-- A mismatch of arguments, with its index: of their number, whatever the arguments are, or of the
first argument that its parameter refuses. -/
inductive Mismatch (params : List TypeRef) (args : List Value) : Nat → String → String → Prop
  | count (differ : params.length ≠ args.length) :
      Mismatch params args (min params.length args.length)
        s!"{params.length} 个参数" s!"{args.length} 个参数"
  | refused {i : Nat} {p : TypeRef} {a : Value} (same : params.length = args.length)
      (first : RefusedAt params args i p a) : Mismatch params args i p.text a.typeName

section

variable {params : List TypeRef} {args : List Value} {i : Nat} {p q : TypeRef} {a b : Value}

theorem refusedAt_cons_zero :
    RefusedAt (q :: params) (b :: args) 0 p a ↔ q = p ∧ b = a ∧ q.accepts b = false := by
  constructor
  · rintro ⟨⟨⟩, ⟨⟩, hrefuses, -⟩
    exact ⟨rfl, rfl, hrefuses⟩
  · rintro ⟨rfl, rfl, hrefuses⟩
    exact ⟨rfl, rfl, hrefuses, by omega⟩

theorem refusedAt_cons_succ :
    RefusedAt (q :: params) (b :: args) (i + 1) p a ↔
      q.accepts b = true ∧ RefusedAt params args i p a := by
  constructor
  · rintro ⟨hp, ha, hrefuses, hleast⟩
    refine ⟨hleast 0 (by omega) q b rfl rfl, hp, ha, hrefuses, fun j hj => ?_⟩
    exact hleast (j + 1) (by omega)
  · rintro ⟨hfirst, hp, ha, hrefuses, hleast⟩
    refine ⟨hp, ha, hrefuses, fun j hj => ?_⟩
    cases j with
    | zero =>
        rintro _ _ ⟨⟩ ⟨⟩
        exact hfirst
    | succ j => exact hleast j (by omega)

theorem firstRefused?_eq_some_iff :
    firstRefused? params args = some (i, p, a) ↔ RefusedAt params args i p a := by
  induction params generalizing args i with
  | nil => exact ⟨nofun, fun h => nomatch h.param⟩
  | cons q ps ih =>
      cases args with
      | nil => exact ⟨nofun, fun h => nomatch h.arg⟩
      | cons b as =>
          rw [firstRefused?]
          cases hfirst : q.accepts b <;> cases i
          · simp [refusedAt_cons_zero, hfirst]
          · simp [refusedAt_cons_succ, hfirst]
          · simp [refusedAt_cons_zero, hfirst]
          · simp [refusedAt_cons_succ, hfirst, ← ih]

theorem checkArguments_eq_mismatch_iff {expected actual : String} :
    checkArguments params args = .error (.argumentTypeMismatch i expected actual) ↔
      Mismatch params args i expected actual := by
  unfold checkArguments
  by_cases hlength : params.length ≠ args.length
  · rw [if_pos hlength]
    constructor
    · rintro ⟨⟩
      exact .count hlength
    · rintro (⟨-⟩ | ⟨hsame, -⟩)
      · rfl
      · exact absurd hsame hlength
  · rw [if_neg hlength]
    constructor
    · intro h
      cases hfirst : firstRefused? params args with
      | none => simp [hfirst] at h
      | some found =>
          rw [hfirst] at h
          cases h
          exact .refused (not_not.mp hlength) (firstRefused?_eq_some_iff.mp hfirst)
    · rintro (⟨hdiffer⟩ | ⟨-, hfirst⟩)
      · exact absurd hdiffer hlength
      · rw [firstRefused?_eq_some_iff.mpr hfirst]

theorem mismatch_of_checkArguments {e : Failure} (h : checkArguments params args = .error e) :
    ∃ i expected actual, e = .argumentTypeMismatch i expected actual := by
  unfold checkArguments at h
  split at h
  · cases h
    exact ⟨_, _, _, rfl⟩
  · split at h
    · cases h
      exact ⟨_, _, _, rfl⟩
    · cases h

/-- Arguments match, or there is a mismatch to report. -/
theorem exists_mismatch_iff :
    (∃ i expected actual, Mismatch params args i expected actual) ↔ ¬ AcceptsAll params args := by
  simp only [← checkArguments_eq_ok_iff, ← checkArguments_eq_mismatch_iff]
  cases hcheck : checkArguments params args with
  | ok u => simp
  | error e =>
      obtain ⟨i, expected, actual, rfl⟩ := mismatch_of_checkArguments hcheck
      simp

end

end TypeRef

/-- A mismatch when a field is set, with its index: of the target, whatever the value is, or of the
value. -/
inductive FieldMember.Mismatch (m : FieldMember) (target : ObjectRef) (v : Value) :
    Nat → String → String → Prop
  | target (outside : target.isInstanceOf m.declaring.name = false) :
      Mismatch m target v 0 m.declaring.name target.cls.name
  | value (inside : target.isInstanceOf m.declaring.name = true)
      (refuses : m.field.type.accepts v = false) :
      Mismatch m target v 1 m.field.type.text v.typeName

/-! ## Checks and what follows them -/

namespace HeapAttempt

/-- The operation reports exactly the mismatches that are stated, and one that it reports comes before
all effects: the heap stays as it is, and no routine has run, because the operation is the same
whatever the routines are. -/
structure ChecksFirst {α : Type} (x : Linkage → Nat → HeapAttempt α)
    (mismatch : Nat → String → String → Prop) : Prop where
  reports_iff : ∀ link depth h {i expected actual},
    (outcome (x link depth) h).1 = .error (.argumentTypeMismatch i expected actual) ↔
      mismatch i expected actual
  unchanged : ∀ link depth h {i expected actual}, mismatch i expected actual →
    outcome (x link depth) h = (.error (.argumentTypeMismatch i expected actual), h)
  idle : ∀ {i expected actual}, mismatch i expected actual →
    ∀ link depth link' depth', x link depth = x link' depth'

variable {α β : Type} {x : Linkage → Nat → HeapAttempt α} {P Q : Nat → String → String → Prop}

theorem checksFirst_of_ne
    (h : ∀ link depth heap i expected actual,
      (outcome (x link depth) heap).1 ≠ .error (.argumentTypeMismatch i expected actual)) :
    ChecksFirst x fun _ _ _ => False where
  reports_iff link depth heap _ _ _ := ⟨h link depth heap _ _ _, False.elim⟩
  unchanged _ _ _ _ _ _ := False.elim
  idle := False.elim

theorem ChecksFirst.congr (hx : ChecksFirst x P)
    (h : ∀ {i expected actual}, P i expected actual ↔ Q i expected actual) : ChecksFirst x Q where
  reports_iff link depth heap _ _ _ := (hx.reports_iff link depth heap).trans h
  unchanged link depth heap _ _ _ hq := hx.unchanged link depth heap (h.mpr hq)
  idle hq := hx.idle (h.mpr hq)

theorem ChecksFirst.report (hx : ChecksFirst x P) (level : Level) (text : String) :
    ChecksFirst (fun link depth => HeapAttempt.report level text >>= fun _ => x link depth) P where
  reports_iff := hx.reports_iff
  unchanged := hx.unchanged
  idle hp link depth link' depth' := by rw [hx.idle hp link depth link' depth']

/-- After a check, what follows is done only if the check passes. -/
theorem checksFirst_check {check : Except Failure Unit}
    (hcheck : ∀ {e}, check = .error e → ∃ i expected actual,
      e = .argumentTypeMismatch i expected actual)
    (hx : check = .ok () → ChecksFirst x Q) :
    ChecksFirst (fun link depth => ofExcept check >>= fun _ => x link depth)
      fun i expected actual => check = .error (.argumentTypeMismatch i expected actual) ∨
        check = .ok () ∧ Q i expected actual := by
  cases hresult : check with
  | ok u => exact (hx hresult).congr (by simp)
  | error e =>
      obtain ⟨i, expected, actual, rfl⟩ := hcheck hresult
      refine ⟨fun link depth h j s t => ⟨?_, ?_⟩, fun link depth h j s t hmismatch => ?_,
        fun _ link depth link' depth' => rfl⟩
      · rintro ⟨⟩
        exact .inl rfl
      · rintro (⟨⟨⟩⟩ | ⟨⟨⟩, -⟩)
        rfl
      · rcases hmismatch with ⟨⟨⟩⟩ | ⟨⟨⟩, -⟩
        rfl

/-- The end of a computation on the heap, as an operation reports it. -/
theorem outcome_ofAct_eq_iff {x : Act α} {ends : Except Halt β → Heap → Prop} {f : β → α} {h : Heap}
    (hx : ∀ g r, x.outcome h = (r, g) ↔ ∃ ended, r = ended.map f ∧ ends ended g) (g : Heap)
    (r : Except Failure α) :
    outcome (ofAct x) h = (r, g) ↔
      ∃ ended, r = (ended.mapError ofHalt).map f ∧ ends ended g := by
  have hmap (ended : Except Halt β) :
      (ended.map f).mapError ofHalt = (ended.mapError ofHalt).map f := by
    cases ended <;> rfl
  rw [outcome_ofAct]
  constructor
  · rintro ⟨⟩
    obtain ⟨ended, hended, hends⟩ := (hx (x.outcome h).2 (x.outcome h).1).mp rfl
    exact ⟨ended, by rw [hended, hmap], hends⟩
  · rintro ⟨ended, rfl, hends⟩
    rw [(hx g _).mpr ⟨ended, rfl, hends⟩, ← hmap]

end HeapAttempt

/-! ## Constructions -/

namespace ConstructorMember

/-- What runs for a construction in a tier, and how its requests are answered: the native entry on the
new object, or the bodies of the constructors without parameters of the superclasses, from the root
down, and then that of the constructor itself. -/
inductive Bodies (m : ConstructorMember) (link : Linkage) (depth : Nat) (o : ObjectRef)
    (args : List Value) : Tier → (Request → Act Value) → List Program → Prop
  | entry {label : Label} (native : m.constructor.native = some label) :
      Bodies m link depth o args .native (perform link depth) [link label o args]
  | constructors {tier : Tier} {js : List Constructor} (plain : tier ≠ .native)
      (defaults : List.Forall₂ (fun d j => d.noArgConstructor? = some j)
        m.owner.superclassesFromRoot js) :
      Bodies m link depth o args tier (nested link depth)
        (js.map (Constructor.program link o []) ++ [m.constructor.program link o args])

/-- The construction runs the bodies and ends as they do. -/
structure Runs (m : ConstructorMember) (invoker : ConstructorInvoker) (args : List Value)
    (link : Linkage) (depth : Nat) (h : Heap) (perform : Request → Act Value)
    (bodies : List Program) : Prop where
  reached : m.Bodies link depth (h.allocate m.owner).1 args invoker.tier perform bodies
  ends_iff : ∀ {g r}, HeapAttempt.outcome (invoker.construct link depth args) h = (r, g) ↔
    ∃ ended, r = (ended.mapError HeapAttempt.ofHalt).map (fun _ => (h.allocate m.owner).1) ∧
      Program.InOrder perform bodies (h.allocate m.owner).2 ended g
  /-- An exception that ends the bodies is the failure of the construction. -/
  throws : ∀ {e g}, Program.InOrder perform bodies (h.allocate m.owner).2 (.error (.threw e)) g →
    HeapAttempt.outcome (invoker.construct link depth args) h = (.error (.invocation e), g)

/-- What a construction does with its arguments: it checks them, and if they match, they reach the
bodies as they are. -/
structure TakesArguments (m : ConstructorMember) (invoker : ConstructorInvoker)
    (args : List Value) : Prop where
  checksFirst : HeapAttempt.ChecksFirst (fun link depth => invoker.construct link depth args)
    (TypeRef.Mismatch m.params args)
  mismatch_iff : (∃ i expected actual, TypeRef.Mismatch m.params args i expected actual) ↔
    ¬ TypeRef.AcceptsAll m.params args
  runs : m.owner.Built → TypeRef.AcceptsAll m.params args → ∀ link depth h,
    ∃ perform bodies, m.Runs invoker args link depth h perform bodies

variable {m : ConstructorMember}

/-- The constructor that is found for the parameters of a member has these parameters. -/
theorem exists_find?_params (m : ConstructorMember) :
    ∃ k, m.owner.constructors.find? (fun k => k.params == m.params) = some k ∧
      k.params = m.params := by
  have hmem : m.constructor ∈ m.owner.constructors := List.getElem_mem m.index.isLt
  have hsome : (m.owner.constructors.find? fun k => k.params == m.params).isSome :=
    List.find?_isSome.mpr ⟨_, hmem, beq_self_eq_true _⟩
  obtain ⟨k, hk⟩ := Option.isSome_iff_exists.mp hsome
  exact ⟨k, hk, by simpa using List.find?_some hk⟩

/-- The invoker of every tier checks the arguments first. -/
theorem checksFirst_construct {nativeTier handleTier : Bool} {s : Strategy}
    (hs : s ∈ Strategy.standard nativeTier handleTier) {invoker : ConstructorInvoker}
    (hinvoker : s.constructor m = .ok invoker) (args : List Value) :
    HeapAttempt.ChecksFirst (fun link depth => invoker.construct link depth args)
      (TypeRef.Mismatch m.params args) := by
  have hchecked {α : Type} (x : Linkage → Nat → Act α) :
      HeapAttempt.ChecksFirst (fun link depth =>
        HeapAttempt.ofExcept (TypeRef.checkArguments m.params args) >>= fun _ =>
          HeapAttempt.ofAct (x link depth)) (TypeRef.Mismatch m.params args) := by
    refine (HeapAttempt.checksFirst_check TypeRef.mismatch_of_checkArguments fun _ =>
      HeapAttempt.checksFirst_of_ne fun link depth heap =>
        HeapAttempt.ofAct_ne_mismatch (x link depth) heap).congr ?_
    simp [TypeRef.checkArguments_eq_mismatch_iff]
  simp only [Strategy.standard, List.mem_cons, List.not_mem_nil, or_false] at hs
  rcases hs with rfl | rfl | rfl
  · obtain ⟨entry, -, rfl⟩ := Strategy.constructor_of_native hinvoker
    exact hchecked fun link depth => ConstructorInvoker.runEntry link depth m.owner entry args
  · rw [Strategy.constructor_of_typedHandle hinvoker]
    exact hchecked fun link depth => construct link depth m.owner m.constructor args
  · obtain rfl := Except.ok.inj hinvoker
    obtain ⟨k, hk, hparams⟩ := m.exists_find?_params
    simp only [ConstructorInvoker.construct, hk, hparams]
    exact (hchecked fun link depth => construct link depth m.owner k args).report _ _

theorem outcome_runEntry_eq_iff (link : Linkage) (depth : Nat) (owner : Class) (entry : Label)
    (args : List Value) (h g : Heap) (r : Except Halt ObjectRef) :
    (ConstructorInvoker.runEntry link depth owner entry args).outcome h = (r, g) ↔
      ∃ ended, r = ended.map (fun _ => (h.allocate owner).1) ∧
        Program.InOrder (perform link depth) [link entry (h.allocate owner).1 args]
          (h.allocate owner).2 ended g := by
  simp only [Program.inOrder_iff, ConstructorInvoker.runEntry, Act.outcome_bind,
    Act.outcome_modifyGet, Act.outcome_discard, runRoutine, List.forM_eq_forM, List.forM_cons,
    List.forM_nil, bind_pure_unit]
  rcases ((link entry (h.allocate owner).1 args).run (perform link depth)).outcome
    (h.allocate owner).2 with ⟨e | v, f⟩
  · constructor
    · rintro ⟨⟩
      exact ⟨.error e, rfl, rfl⟩
    · rintro ⟨ended, rfl, ⟨⟩⟩
      rfl
  · constructor
    · rintro ⟨⟩
      exact ⟨.ok (), rfl, rfl⟩
    · rintro ⟨ended, rfl, ⟨⟩⟩
      rfl

theorem runs_of_ends_iff {invoker : ConstructorInvoker} {args : List Value} {link : Linkage}
    {depth : Nat} {h : Heap} {perform : Request → Act Value} {bodies : List Program}
    (hbodies : m.Bodies link depth (h.allocate m.owner).1 args invoker.tier perform bodies)
    (hends : ∀ g r, HeapAttempt.outcome (invoker.construct link depth args) h = (r, g) ↔
      ∃ ended, r = (ended.mapError HeapAttempt.ofHalt).map (fun _ => (h.allocate m.owner).1) ∧
        Program.InOrder perform bodies (h.allocate m.owner).2 ended g) :
    m.Runs invoker args link depth h perform bodies where
  reached := hbodies
  ends_iff := hends _ _
  throws hthrew := (hends _ _).mpr ⟨_, rfl, hthrew⟩

/-- Arguments that match are handed to the bodies that run, and the construction ends as these do. -/
theorem runs_construct {nativeTier handleTier : Bool} {s : Strategy}
    (hs : s ∈ Strategy.standard nativeTier handleTier) {invoker : ConstructorInvoker}
    (hinvoker : s.constructor m = .ok invoker) (hm : m.owner.Built) {args : List Value}
    (hargs : TypeRef.AcceptsAll m.params args) (link : Linkage) (depth : Nat) (h : Heap) :
    ∃ perform bodies, m.Runs invoker args link depth h perform bodies := by
  have hcheck : TypeRef.checkArguments m.params args = .ok () :=
    TypeRef.checkArguments_eq_ok_iff.mpr hargs
  obtain ⟨js, hjs⟩ := hm.forall₂_noArgConstructor
  have hdefaults : List.Forall₂ (fun d j => d.noArgConstructor? = some j)
      m.owner.superclassesFromRoot js := hjs.imp fun _ _ hj => hj.1
  have hplain := HeapAttempt.outcome_ofAct_eq_iff
    (x := construct link depth m.owner m.constructor args) (h := h) fun g r =>
      outcome_construct_eq_iff link depth hdefaults
  simp only [Strategy.standard, List.mem_cons, List.not_mem_nil, or_false] at hs
  rcases hs with rfl | rfl | rfl
  · obtain ⟨entry, hentry, rfl⟩ := Strategy.constructor_of_native hinvoker
    refine ⟨_, _, runs_of_ends_iff (.entry hentry) ?_⟩
    rw [ConstructorInvoker.construct, hcheck]
    exact HeapAttempt.outcome_ofAct_eq_iff fun g r =>
      outcome_runEntry_eq_iff link depth m.owner entry args h g r
  · obtain rfl := Strategy.constructor_of_typedHandle hinvoker
    refine ⟨_, _, runs_of_ends_iff
      (.constructors (by simp [ConstructorInvoker.tier]) hdefaults) ?_⟩
    have hcheck' : TypeRef.checkArguments m.constructor.params args = .ok () := hcheck
    rw [ConstructorInvoker.construct, hcheck']
    exact hplain
  · obtain rfl := Except.ok.inj hinvoker
    refine ⟨_, _, runs_of_ends_iff
      (.constructors (by simp [ConstructorInvoker.tier]) hdefaults) ?_⟩
    have hfind : m.owner.constructors.find? (fun k => k.params == m.params) = some m.constructor :=
      (hm.rooted.found m.index).1
    have hcheck' : TypeRef.checkArguments m.constructor.params args = .ok () := hcheck
    simp only [ConstructorInvoker.construct, hfind, hcheck']
    exact hplain

end ConstructorMember

/-! ## Setting a field -/

theorem Class.checkTarget_eq_error_iff {declaring : Class} {target : ObjectRef} {e : Failure} :
    declaring.checkTarget target = .error e ↔ target.isInstanceOf declaring.name = false ∧
      e = .argumentTypeMismatch 0 declaring.name target.cls.name := by
  cases h : target.isInstanceOf declaring.name <;> simp [checkTarget, h, eq_comm]

theorem TypeRef.check_eq_error_iff {type : TypeRef} {index : Nat} {v : Value} {e : Failure} :
    type.check index v = .error e ↔ type.accepts v = false ∧
      e = .argumentTypeMismatch index type.text v.typeName := by
  cases h : type.accepts v <;> simp [check, h, eq_comm]

theorem FieldInvoker.runAccessor_ne_mismatch (link : Linkage) (depth : Nat) (label : Label)
    (target : ObjectRef) (args : List Value) (h : Heap) (index : Nat) (expected actual : String) :
    (HeapAttempt.outcome (discard (runAccessor link depth label target args)) h).1 ≠
      .error (.argumentTypeMismatch index expected actual) := by
  intro hmismatch
  rw [HeapAttempt.outcome_discard] at hmismatch
  exact HeapAttempt.ofAct_ne_mismatch _ h index expected actual
    (Attempt.map_eq_error.mp hmismatch)

theorem FieldInvoker.writeSlot_ne_mismatch (target : ObjectRef) (slot : Slot) (v : Value) (h : Heap)
    (index : Nat) (expected actual : String) :
    (HeapAttempt.outcome (writeSlot target slot v) h).1 ≠
      .error (.argumentTypeMismatch index expected actual) := by
  rw [writeSlot, HeapAttempt.outcome_get_bind]
  cases h.writeSlot target slot v <;> rintro ⟨⟩

namespace FieldMember

variable {m : FieldMember} {target : ObjectRef} {v : Value}

theorem mismatch_iff {i : Nat} {expected actual : String} :
    m.Mismatch target v i expected actual ↔
      m.declaring.checkTarget target = .error (.argumentTypeMismatch i expected actual) ∨
        m.declaring.checkTarget target = .ok () ∧
          m.field.type.check 1 v = .error (.argumentTypeMismatch i expected actual) := by
  rw [Class.checkTarget_eq_error_iff, TypeRef.check_eq_error_iff]
  constructor
  · rintro (⟨houtside⟩ | ⟨hinside, hrefuses⟩)
    · exact .inl ⟨houtside, rfl⟩
    · exact .inr ⟨by simp [Class.checkTarget, hinside], hrefuses, rfl⟩
  · rintro (⟨houtside, ⟨⟩⟩ | ⟨hpasses, hrefuses, ⟨⟩⟩)
    · exact .target houtside
    · refine .value ?_ hrefuses
      by_contra houtside
      simp [Class.checkTarget, houtside] at hpasses

/-- The invoker of every tier checks the target first and then the value. -/
theorem checksFirst_set {owner : Class} {name : String}
    (hm : Attempt.outcome (owner.resolveField name) = .ok m) {nativeTier handleTier : Bool}
    {s : Strategy} (hs : s ∈ Strategy.standard nativeTier handleTier) {invoker : FieldInvoker}
    (hinvoker : s.field m = .ok invoker) :
    HeapAttempt.ChecksFirst (fun link depth => invoker.set link depth target v)
      (m.Mismatch target v) := by
  have htarget {e : Failure} (h : m.declaring.checkTarget target = .error e) :
      ∃ i expected actual, e = .argumentTypeMismatch i expected actual :=
    ⟨_, _, _, (Class.checkTarget_eq_error_iff.mp h).2⟩
  have hvalue {x : Linkage → Nat → HeapAttempt Unit}
      (hx : ∀ link depth h i expected actual, (HeapAttempt.outcome (x link depth) h).1 ≠
        .error (.argumentTypeMismatch i expected actual)) :
      HeapAttempt.ChecksFirst
        (fun link depth => HeapAttempt.ofExcept (m.field.type.check 1 v) >>= fun _ => x link depth)
        fun i expected actual =>
          m.field.type.check 1 v = .error (.argumentTypeMismatch i expected actual) := by
    refine (HeapAttempt.checksFirst_check (fun h => ⟨_, _, _, (TypeRef.check_eq_error_iff.mp h).2⟩)
      fun _ => HeapAttempt.checksFirst_of_ne hx).congr ?_
    simp
  simp only [Strategy.standard, List.mem_cons, List.not_mem_nil, or_false] at hs
  rcases hs with rfl | rfl | rfl
  · obtain ⟨accessor, -, rfl⟩ := Strategy.field_of_native hinvoker
    exact (HeapAttempt.checksFirst_check htarget fun _ => hvalue fun link depth =>
      FieldInvoker.runAccessor_ne_mismatch link depth accessor.setter target [v]).congr
        mismatch_iff.symm
  · obtain rfl := Strategy.field_of_typedHandle hinvoker
    exact (HeapAttempt.checksFirst_check htarget fun _ => hvalue fun _ _ =>
      FieldInvoker.writeSlot_ne_mismatch target m.slot v).congr mismatch_iff.symm
  · obtain rfl := Except.ok.inj hinvoker
    obtain ⟨rfl, rfl, hfind⟩ := Class.resolveField_eq_ok hm
    simp only [FieldInvoker.set, FieldInvoker.lookup, hfind, bind_assoc, pure_bind]
    exact (HeapAttempt.checksFirst_check htarget fun _ => (hvalue fun _ _ =>
      FieldInvoker.writeSlot_ne_mismatch target m.slot v).report _ _).congr mismatch_iff.symm

end FieldMember

/-- The invokers that the strategy makes check what they are given before they do anything. -/
structure Strategy.ChecksFirst (s : Strategy) : Prop where
  construct : ∀ {m : ConstructorMember} {invoker : ConstructorInvoker},
    s.constructor m = .ok invoker → ∀ args, m.TakesArguments invoker args
  set : ∀ {owner : Class} {name : String} {m : FieldMember},
    Attempt.outcome (owner.resolveField name) = .ok m → ∀ {invoker : FieldInvoker},
      s.field m = .ok invoker → ∀ target v,
        HeapAttempt.ChecksFirst (fun link depth => invoker.set link depth target v)
          (m.Mismatch target v)

/-- The checks of an invoker come before everything that it does, in each tier. A construction reports
exactly the mismatches of its arguments, and there is one if and only if they do not match; then
nothing has run and nothing has changed. Arguments that match reach the body of the constructor, or
the native entry, as they are, the construction ends as the bodies do, and an exception that ends them
is its failure. A field reports the mismatch of the target before that of the value, and after either
nothing has run and nothing has changed. -/
theorem checks_precede_effects (nativeTier handleTier : Bool) :
    ∀ s ∈ Strategy.standard nativeTier handleTier, s.ChecksFirst := by
  intro s hs
  constructor
  · intro m invoker hinvoker args
    exact {
      checksFirst := m.checksFirst_construct hs hinvoker args
      mismatch_iff := TypeRef.exists_mismatch_iff
      runs := fun hbuilt hargs => m.runs_construct hs hinvoker hbuilt hargs }
  · intro owner name m hm invoker hinvoker target v
    exact FieldMember.checksFirst_set hm hs hinvoker

/-! ### A class with native entries -/

namespace Samples

theorem built_circle : (circle.described 2).Built := by
  refine .build ?_ (by simp [circle, ClassSpec.named]) (show circle.build 2 = .ok _ from rfl)
  rintro s ⟨⟩
  exact .build (by simp [shape, ClassSpec.named]) (by simp [shape, ClassSpec.named])
    (show shape.build 1 = .ok _ from rfl)

/-- Whatever the routines do, a circle is made neither of two numbers nor of a string, and the field
takes neither anything on an object of another class nor a string. When all routines throw, a circle
of one number is refused with what they throw. -/
theorem circle_checks_first :
    (∀ link depth h, HeapAttempt.outcome ((ConstructorInvoker.reflective (circle.described 2)
      [.primitive .int]).construct link depth [.str "r", .int 4]) h =
        (.error (.argumentTypeMismatch 1 "1 个参数" "2 个参数"), h)) ∧
    (∀ link depth h, HeapAttempt.outcome ((ConstructorInvoker.handle (circle.described 2)
      circleConstructor.constructor).construct link depth [.str "r"]) h =
        (.error (.argumentTypeMismatch 0 "int" "String"), h)) ∧
    (∀ e depth h, ∃ g, HeapAttempt.outcome ((ConstructorInvoker.native (circle.described 2)
      [.primitive .int] 2).construct (fun _ _ _ => .raise e) depth [.int 4]) h =
        (.error (.invocation e), g)) ∧
    (∀ link depth h, HeapAttempt.outcome ((FieldInvoker.native (shape.described 1) "id"
      (.primitive .int) ⟨3, 4⟩).set link depth ⟨0, .root⟩ (.str "r")) h =
        (.error (.argumentTypeMismatch 0 "app.Shape" "Object"), h)) ∧
    ∀ link depth h, HeapAttempt.outcome ((FieldInvoker.handle (shape.described 1)
      ⟨"app.Shape", "id"⟩ (.primitive .int)).set link depth ⟨0, circle.described 2⟩ (.str "r")) h =
        (.error (.argumentTypeMismatch 1 "int" "String"), h) := by
  have hchecks := checks_precede_effects true true
  have hnative := hchecks (.native true) (by simp [Strategy.standard])
  have hhandle := hchecks (.typedHandle true) (by simp [Strategy.standard])
  have hreflective := hchecks .reflective (by simp [Strategy.standard])
  have hrefused : TypeRef.RefusedAt [.primitive .int] [.str "r"] 0 (.primitive .int) (.str "r") :=
    ⟨rfl, rfl, rfl, by omega⟩
  have hfield : Attempt.outcome ((circle.described 2).resolveField "id") = .ok circleField := rfl
  refine ⟨fun link depth h => ?_, fun link depth h => ?_, fun e depth h => ?_,
    fun link depth h => ?_, fun link depth h => ?_⟩
  · have htakes := hreflective.construct (m := circleConstructor) rfl [.str "r", .int 4]
    exact htakes.checksFirst.unchanged link depth h (.count (by decide))
  · have htakes := hhandle.construct (m := circleConstructor) rfl [.str "r"]
    exact htakes.checksFirst.unchanged link depth h (.refused rfl hrefused)
  · have htakes := hnative.construct (m := circleConstructor) rfl [.int 4]
    obtain ⟨perform, bodies, hruns⟩ :=
      htakes.runs built_circle (.cons rfl .nil) (fun _ _ _ => .raise e) depth h
    rcases hruns.reached with ⟨⟨⟩⟩ | ⟨hplain, -⟩
    · exact ⟨_, hruns.throws (.fail rfl)⟩
    · exact absurd rfl hplain
  · have hset := hnative.set hfield rfl
    exact (hset ⟨0, .root⟩ (.str "r")).unchanged link depth h (.target rfl)
  · have hset := hhandle.set hfield rfl
    exact (hset ⟨0, circle.described 2⟩ (.str "r")).unchanged link depth h (.value rfl rfl)

end Samples

end Metaobject
