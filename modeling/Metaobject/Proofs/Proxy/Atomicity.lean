import Metaobject.Proofs.Proxy.Factory
import Metaobject.Proofs.Proxy.Faults

/-!
# Requests that fail and requests that are repeated

A request for a proxy class is answered as a whole or not at all. One that fails leaves everything as
it was but the numbers that it used up, and fails in the same way when it is made again. One that
succeeds gets the same class when it is made again, and then changes nothing. Whether it succeeds, and
what it leaves, does not depend on whether its description can be written.
-/

namespace Metaobject

/-! ## Names that are assigned -/

theorem le_leastFree (taken : Nat → Bool) (fuel i : Nat) : i ≤ leastFree taken fuel i := by
  induction fuel generalizing i with
  | zero => exact Nat.le_refl i
  | succ fuel ih =>
      rw [leastFree]
      split
      · exact Nat.le_of_succ_le (ih (i + 1))
      · exact Nat.le_refl i

namespace ProxyCompiler

variable {pc : ProxyCompiler} {r : Registry} {q : ProxyRequest} {name : String}

theorem isBlank_numbered (pc : ProxyCompiler) (base : String) (i : Nat) :
    Text.isBlank (pc.numbered base i) = false := by
  have hpart : '$' ∈ (toString "$Proxy$").toList := by decide
  have hmark : '$' ∈ (pc.numbered base i).toList := by simp [numbered, hpart]
  rw [Text.isBlank, List.all_eq_false]
  exact ⟨'$', hmark, by decide⟩

theorem assignName_of_name (pc : ProxyCompiler) (r : Registry) (h : q.name = some name) :
    (pc.assignName r q).value = (name, pc) := by
  rw [assignName, h]
  rfl

theorem assignName_of_known (pc : ProxyCompiler) (r : Registry) (hunnamed : q.name = none)
    (h : pc.shapes.lookup q.shape = some name) :
    (pc.assignName r q).value = (name, pc) := by
  rw [assignName, hunnamed, h]
  rfl

/-- The number of a name that is assigned for the first time is the next one that is free, and those
before it are used up. -/
theorem assignName_of_unknown (pc : ProxyCompiler) (r : Registry) (hunnamed : q.name = none)
    (h : pc.shapes.lookup q.shape = none) :
    ∃ i, pc.isTaken r (pc.numbered (baseName q) (pc.sequence + i)) = false ∧
      (pc.assignName r q).value = (pc.numbered (baseName q) (pc.sequence + i),
        { pc with
          sequence := pc.sequence + (i + 1)
          shapes := pc.shapes ++ [(q.shape, pc.numbered (baseName q) (pc.sequence + i))] }) := by
  have hle : pc.sequence ≤ pc.nextNumber r (baseName q) := le_leastFree _ _ _
  obtain ⟨i, hi⟩ := Nat.exists_eq_add_of_le hle
  have hfree := pc.isTaken_nextNumber r (baseName q)
  rw [hi] at hfree
  refine ⟨i, hfree, ?_⟩
  rw [assignName, hunnamed, h]
  simp only [Logged.value_bind, Logged.value_pure, hi]
  rfl

theorem sequence_le_assignName (pc : ProxyCompiler) (r : Registry) (q : ProxyRequest) :
    pc.sequence ≤ (pc.assignName r q).value.2.sequence := by
  cases hgiven : q.name with
  | some name => simp [pc.assignName_of_name r hgiven]
  | none =>
      cases hshape : pc.shapes.lookup q.shape with
      | some name => simp [pc.assignName_of_known r hgiven hshape]
      | none =>
          obtain ⟨i, -, hname⟩ := pc.assignName_of_unknown r hgiven hshape
          rw [hname]
          exact Nat.le_add_right _ _

/-- The compiler with another place for its descriptions. -/
def describing (pc : ProxyCompiler) (dumpDir : Option String) : ProxyCompiler :=
  { pc with dumpDir := dumpDir }

theorem assignName_describing (pc : ProxyCompiler) (r : Registry) (q : ProxyRequest)
    (dumpDir : Option String) :
    ((pc.describing dumpDir).assignName r q).value =
      ((pc.assignName r q).value.1, (pc.assignName r q).value.2.describing dumpDir) := by
  cases hgiven : q.name with
  | some name => simp only [assignName_of_name _ _ hgiven]
  | none =>
      cases hshape : pc.shapes.lookup q.shape with
      | some name =>
          have hshape' : (pc.describing dumpDir).shapes.lookup q.shape = some name := hshape
          simp only [assignName_of_known _ _ hgiven hshape, assignName_of_known _ _ hgiven hshape']
      | none =>
          have hshape' : (pc.describing dumpDir).shapes.lookup q.shape = none := hshape
          simp only [assignName, hgiven, hshape, hshape', Logged.value_bind, Logged.value_pure]
          rfl

end ProxyCompiler

/-- The same failure, but for the name of the class that could not be made. -/
inductive Failure.Alike : Failure → Failure → Prop
  | same (e : Failure) : Alike e e
  | compilation (target target' : String) (cause : CompilationFault) :
      Alike (.compilationFailure target cause) (.compilationFailure target' cause)

/-! ## One request as a function of names -/

namespace Workshop

/-- What a compiler has noted when no class could be made under the name. -/
def withdrawn (pc : ProxyCompiler) (q : ProxyRequest) (name : String) : ProxyCompiler :=
  ({ pc with classes := pc.classes.make name } : ProxyCompiler).release q name

theorem value_compile (w : Workshop) (serial : Nat) (q : ProxyRequest) :
    (w.compile serial q).value = match checkRequest q with
      | .error e => (.error e, w)
      | .ok _ =>
          let (name, pc) := (w.compiler.assignName w.registry q).value
          match pc.get? name with
          | some p => (.ok p, { w with compiler := pc })
          | none => match ProxyCompiler.product w.registry serial q name with
            | .error e => (.error e, { w with compiler := withdrawn pc q name })
            | .ok (p, r) =>
                (.ok p, ⟨pc.load name p, r, ProxyCompiler.filesAfter pc.dumpDir w.files p⟩) := by
  unfold compile
  cases checkRequest q with
  | error e => rfl
  | ok u =>
      rcases hname : (w.compiler.assignName w.registry q).value with ⟨name, pc⟩
      simp only [Logged.value_bind, hname, ProxyCompiler.get?]
      cases pc.classes.get? name with
      | some p => rfl
      | none =>
          have hgenerate := ProxyCompiler.outcome_generate pc.dumpDir w.registry w.files serial q name
          simp only [Attempt.outcome] at hgenerate
          simp only [Logged.value_bind, hgenerate]
          rcases ProxyCompiler.product w.registry serial q name with e | ⟨p, r⟩ <;> rfl

variable {w : Workshop} {q : ProxyRequest} {name : String} {pc : ProxyCompiler}

theorem fst_compile_of_missing (hvalid : checkRequest q = .ok ())
    (hassigned : (w.compiler.assignName w.registry q).value = (name, pc))
    (hmissing : pc.get? name = none) (serial : Nat) :
    (w.compile serial q).value.1 =
      (ProxyCompiler.product w.registry serial q name).map Prod.fst := by
  rw [value_compile, hvalid]
  simp only [hassigned, hmissing]
  rcases ProxyCompiler.product w.registry serial q name with e | ⟨p, r⟩ <;> rfl

/-- The numbers of the assigned name are used up, whatever becomes of the class. -/
theorem sequence_compile (hvalid : checkRequest q = .ok ()) (serial : Nat) :
    (w.compile serial q).value.2.compiler.sequence =
      (w.compiler.assignName w.registry q).value.2.sequence := by
  rw [value_compile, hvalid]
  rcases (w.compiler.assignName w.registry q).value with ⟨name, pc⟩
  cases hfound : pc.get? name with
  | some p => simp [hfound]
  | none =>
      cases hproduct : ProxyCompiler.product w.registry serial q name with
      | error e =>
          have hsequence : (withdrawn pc q name).sequence = pc.sequence := rfl
          simp [hfound, hproduct, hsequence]
      | ok made => simp [hfound, hproduct, ProxyCompiler.load]

theorem sequence_le_compile (w : Workshop) (serial : Nat) (q : ProxyRequest) :
    w.compiler.sequence ≤ (w.compile serial q).value.2.compiler.sequence := by
  cases hvalid : checkRequest q with
  | error e =>
      have hsame : (w.compile serial q).value.2 = w := by rw [value_compile, hvalid]
      exact Nat.le_of_eq (congrArg (fun w => w.compiler.sequence) hsame.symm)
  | ok u =>
      rw [sequence_compile hvalid]
      exact w.compiler.sequence_le_assignName w.registry q

/-! ## Failures -/

/-- Why a request fails. The name that would have been generated is left open but for being
visible. -/
inductive Fails (w : Workshop) (q : ProxyRequest) : Failure → Prop
  | refused {e : Failure} (invalid : checkRequest q = .error e) : Fails w q e
  | named {name : String} {e : Failure} (valid : checkRequest q = .ok ())
      (given : q.name = some name) (missing : w.compiler.get? name = none)
      (fault : (∃ cause, q.fault? name = some cause ∧ e = .compilationFailure name cause) ∨
        q.fault? name = none ∧ w.registry.contains name = true ∧ e = .duplicateClass name) :
      Fails w q e
  | unnamed {name : String} {cause : CompilationFault} (valid : checkRequest q = .ok ())
      (unnamed : q.name = none) (unknown : w.compiler.shapes.lookup q.shape = none)
      (visible : Text.isBlank name = false) (fault : q.fault? name = some cause) :
      Fails w q (.compilationFailure name cause)

theorem fails_of_error (hw : w.compiler.Sound w.registry) {serial : Nat} {e : Failure}
    (h : (w.compile serial q).value.1 = .error e) : w.Fails q e := by
  cases hvalid : checkRequest q with
  | error d =>
      rw [value_compile, hvalid] at h
      obtain rfl := Except.error.inj h
      exact .refused hvalid
  | ok u =>
      cases hgiven : q.name with
      | some name =>
          have hassigned := w.compiler.assignName_of_name w.registry hgiven
          cases hmissing : w.compiler.get? name with
          | some p => simp [value_compile, hvalid, hassigned, hmissing] at h
          | none =>
              rw [fst_compile_of_missing hvalid hassigned hmissing, Attempt.map_eq_error,
                ProxyCompiler.product_eq_error_iff hvalid] at h
              exact .named hvalid hgiven hmissing h
      | none =>
          cases hshape : w.compiler.shapes.lookup q.shape with
          | some name =>
              -- a shape that was noted has its class, so the request cannot have failed
              obtain ⟨p, hp, -⟩ := hw.recorded _ (ProxyCompiler.mem_shapes_of_lookup hshape)
              have hassigned := w.compiler.assignName_of_known w.registry hgiven hshape
              simp [value_compile, hvalid, hassigned, hp] at h
          | none =>
              obtain ⟨i, hfree, hassigned⟩ :=
                w.compiler.assignName_of_unknown w.registry hgiven hshape
              obtain ⟨hmissing, hunknown⟩ := ProxyCompiler.get?_of_isTaken hfree
              rw [fst_compile_of_missing hvalid hassigned hmissing, Attempt.map_eq_error,
                ProxyCompiler.product_eq_error_iff hvalid] at h
              rcases h with ⟨cause, hfault, rfl⟩ | ⟨-, hdefined, -⟩
              · exact .unnamed hvalid hgiven hshape (w.compiler.isBlank_numbered _ _) hfault
              · rw [Registry.contains_eq_false_iff.mpr hunknown] at hdefined
                cases hdefined

theorem Fails.exists_alike {e : Failure} (h : w.Fails q e) (serial : Nat) :
    ∃ e', (w.compile serial q).value.1 = .error e' ∧ e.Alike e' := by
  cases h with
  | refused hinvalid => exact ⟨e, by rw [value_compile, hinvalid], .same e⟩
  | named hvalid hgiven hmissing hfault =>
      refine ⟨e, ?_, .same e⟩
      rw [fst_compile_of_missing hvalid (w.compiler.assignName_of_name w.registry hgiven) hmissing,
        Attempt.map_eq_error, ProxyCompiler.product_eq_error_iff hvalid]
      exact hfault
  | @unnamed name cause hvalid hgiven hshape hvisible hfault =>
      obtain ⟨i, hfree, hassigned⟩ := w.compiler.assignName_of_unknown w.registry hgiven hshape
      obtain ⟨hmissing, -⟩ := ProxyCompiler.get?_of_isTaken hfree
      let again := w.compiler.numbered (ProxyCompiler.baseName q) (w.compiler.sequence + i)
      refine ⟨.compilationFailure again cause, ?_, .compilation name again cause⟩
      rw [fst_compile_of_missing hvalid hassigned hmissing, Attempt.map_eq_error,
        ProxyCompiler.product_eq_error_iff hvalid]
      rw [q.fault?_congr (hvisible.trans (w.compiler.isBlank_numbered _ _).symm)] at hfault
      exact .inl ⟨cause, hfault, rfl⟩

/-- A request that fails uses up numbers and changes nothing else, and fails in the same way when it
is made again. -/
theorem compile_of_error (hw : w.compiler.Sound w.registry) {serial : Nat} {e : Failure}
    (h : (w.compile serial q).value.1 = .error e) :
    (∃ n, (w.compile serial q).value.2 =
      { w with compiler := { w.compiler with sequence := w.compiler.sequence + n } }) ∧
      ∀ serial', ∃ e', ((w.compile serial q).value.2.compile serial' q).value.1 = .error e' ∧
        e.Alike e' := by
  obtain ⟨n, hleft⟩ := (h ▸ compiles_compile w serial q).of_error hw
  have hle := w.sequence_le_compile serial q
  rw [hleft] at hle ⊢
  obtain ⟨m, rfl⟩ := Nat.exists_eq_add_of_le hle
  refine ⟨⟨m, rfl⟩, fun serial' => ?_⟩
  -- the numbers have no part in why the request fails
  have hfails :
      Fails { w with compiler := { w.compiler with sequence := w.compiler.sequence + m } } q e := by
    cases fails_of_error hw h with
    | refused hinvalid => exact .refused hinvalid
    | named hvalid hgiven hmissing hfault => exact .named hvalid hgiven hmissing hfault
    | unnamed hvalid hgiven hshape hvisible hfault =>
        exact .unnamed hvalid hgiven hshape hvisible hfault
  exact hfails.exists_alike serial'

/-! ## Successes -/

theorem Compiles.named_or_noted {w' : Workshop} {serial : Nat} {p : ProxyClass}
    (h : w.Compiles serial q (.ok p) w') (hw : w.compiler.Sound w.registry) :
    q.name = some p.name ∨ q.name = none ∧ (q.shape, p.name) ∈ w'.compiler.shapes := by
  cases h with
  | known assigned found =>
      have hnamed := assigned.named_or_noted
      obtain rfl := ProxyCompiler.Sound.found_of_assigns assigned found
      rwa [hw.named found]
  | made assigned missing built defined =>
      rw [ProxyClass.name, ProxyCompiler.name_of_buildClass built]
      exact assigned.named_or_noted

theorem checkRequest_of_ok {serial : Nat} {p : ProxyClass}
    (h : (w.compile serial q).value.1 = .ok p) : checkRequest q = .ok () := by
  cases hvalid : checkRequest q with
  | error e =>
      rw [value_compile, hvalid] at h
      cases h
  | ok u => rfl

/-- The workshop with other files and another place for descriptions. -/
def describing (w : Workshop) (dumpDir : Option String) (files : DumpFiles) : Workshop :=
  ⟨w.compiler.describing dumpDir, w.registry, files⟩

/-- Where a class is described, and whether it can be, matters to the files only. -/
theorem compile_describing (w : Workshop) (serial : Nat) (q : ProxyRequest)
    (dumpDir : Option String) (files : DumpFiles) :
    ∃ files', ((w.describing dumpDir files).compile serial q).value =
      ((w.compile serial q).value.1,
        (w.compile serial q).value.2.describing dumpDir files') := by
  have hassigned := w.compiler.assignName_describing w.registry q dumpDir
  rw [value_compile, value_compile]
  cases checkRequest q with
  | error e => exact ⟨files, rfl⟩
  | ok u =>
      rcases hname : (w.compiler.assignName w.registry q).value with ⟨name, pc⟩
      rw [hname] at hassigned
      have hsame : (pc.describing dumpDir).get? name = pc.get? name := rfl
      simp only [describing, hassigned, hsame]
      cases pc.get? name with
      | some p => exact ⟨files, rfl⟩
      | none =>
          rcases ProxyCompiler.product w.registry serial q name with e | ⟨p, r⟩
          · exact ⟨files, rfl⟩
          · exact ⟨ProxyCompiler.filesAfter dumpDir files p, rfl⟩

end Workshop

/-! ## Requests to a factory -/

namespace Factory

/-- The factory after one of its compilers has used up numbers. -/
def skipping (w : Factory) (i n : Nat) : Factory :=
  { w with compilers := w.compilers.modify i fun pc => { pc with sequence := pc.sequence + n } }

/-- The factory with other files and with another place for the descriptions of one of its
compilers. -/
def describing (w : Factory) (i : Nat) (dumpDir : Option String) (files : DumpFiles) : Factory :=
  { w with files := files, compilers := w.compilers.modify i fun pc => pc.describing dumpDir }

variable {w : Factory} {i : Nat} {pc : ProxyCompiler}

theorem modify_compiler {pcs : List ProxyCompiler} (hpc : pcs[i]? = some pc)
    (f : ProxyCompiler → ProxyCompiler) : pcs.modify i f = pcs.set i (f pc) := by
  have : Inhabited ProxyCompiler := ⟨pc⟩
  rw [List.modify_eq_set, hpc]
  rfl

theorem getElem?_set_compiler (hpc : w.compilers[i]? = some pc) (pc' : ProxyCompiler) :
    (w.compilers.set i pc')[i]? = some pc' := by
  obtain ⟨hi, -⟩ := List.getElem?_eq_some_iff.mp hpc
  exact List.getElem?_set_self hi

/-- The compiler that answered a request answers the next one. -/
theorem compile_compile (hpc : w.compilers[i]? = some pc) (serial serial' : Nat)
    (q : ProxyRequest) :
    ((w.compile i serial q).2.compile i serial' q).1 =
      some (((⟨pc, w.registry, w.files⟩ : Workshop).compile serial q).value.2.compile
        serial' q).value.1 := by
  rw [compile_eq hpc, compile_eq (getElem?_set_compiler hpc _)]

theorem Sound.compile_of_error (h : w.Sound) {serial : Nat} {q : ProxyRequest} {e : Failure}
    (he : (w.compile i serial q).1 = some (.error e)) :
    (∃ n, (w.compile i serial q).2 = w.skipping i n) ∧
      ∀ serial', ∃ e', ((w.compile i serial q).2.compile i serial' q).1 = some (.error e') ∧
        e.Alike e' := by
  obtain ⟨pc, -, hpc, -⟩ := compiles_of_compile he
  have hsound : pc.Sound w.registry := h.compilers pc (List.mem_of_getElem? hpc)
  rw [compile_eq hpc] at he
  obtain ⟨⟨n, hleft⟩, hretry⟩ :=
    Workshop.compile_of_error (w := ⟨pc, w.registry, w.files⟩) hsound (Option.some.inj he)
  refine ⟨⟨n, ?_⟩, fun serial' => ?_⟩
  · rw [compile_eq hpc, hleft, skipping, modify_compiler hpc]
  · obtain ⟨e', he', halike⟩ := hretry serial'
    exact ⟨e', by rw [compile_compile hpc, he'], halike⟩

theorem Sound.compile_of_ok (h : w.Sound) {serial : Nat} {q : ProxyRequest} {p : ProxyClass}
    (hp : (w.compile i serial q).1 = some (.ok p)) (serial' : Nat) :
    (w.compile i serial q).2.compile i serial' q = (some (.ok p), (w.compile i serial q).2) := by
  obtain ⟨pc, -, hpc, -⟩ := compiles_of_compile hp
  have hsound : pc.Sound w.registry := h.compilers pc (List.mem_of_getElem? hpc)
  have hafter : (w.compile i serial q).2.Sound := (h.compile i serial q).1
  rw [compile_eq hpc] at hp hafter ⊢
  have hok := Option.some.inj hp
  have hcompiles := Workshop.compiles_compile ⟨pc, w.registry, w.files⟩ serial q
  rw [hok] at hcompiles
  exact hafter.compile_of_loaded (getElem?_set_compiler hpc _) (hcompiles.get?_of_ok hsound)
    (Workshop.checkRequest_of_ok hok) (hcompiles.named_or_noted hsound) serial'

theorem compile_describing (w : Factory) (i serial : Nat) (q : ProxyRequest)
    (dumpDir : Option String) (files : DumpFiles) :
    ∃ files', (w.describing i dumpDir files).compile i serial q =
      ((w.compile i serial q).1, (w.compile i serial q).2.describing i dumpDir files') := by
  cases hpc : w.compilers[i]? with
  | none =>
      refine ⟨files, ?_⟩
      have hpc' : (w.describing i dumpDir files).compilers[i]? = none := by
        simp [describing, hpc]
      simp only [compile, hpc, hpc']
  | some pc =>
      have hpc' : (w.describing i dumpDir files).compilers[i]? = some (pc.describing dumpDir) := by
        simp [describing, hpc]
      obtain ⟨files', hfiles⟩ :=
        (⟨pc, w.registry, w.files⟩ : Workshop).compile_describing serial q dumpDir files
      refine ⟨files', ?_⟩
      rw [compile_eq hpc, compile_eq hpc']
      -- both factories have the answer of one workshop put in the place of their compiler
      have hshop : (⟨pc.describing dumpDir, w.registry, files⟩ : Workshop) =
          (⟨pc, w.registry, w.files⟩ : Workshop).describing dumpDir files := rfl
      simp only [describing, hshop, hfiles, modify_compiler hpc,
        modify_compiler (getElem?_set_compiler hpc _), List.set_set]
      rfl

/-- Whatever a factory has been asked for, a request that fails changes nothing but the number for
the next name, and fails in the same way when it is made again; a request that succeeds gets the
same class when it is made again, which then changes nothing at all; and wherever classes are
described, and whether they can be, the answer and what it leaves are the same but for the files. -/
theorem compile_atomic (files : DumpFiles) (calls : List Call) (i serial : Nat) (q : ProxyRequest) :
    (∀ e, (((initial files).run calls).compile i serial q).1 = some (.error e) →
      (∃ n, (((initial files).run calls).compile i serial q).2 =
        ((initial files).run calls).skipping i n) ∧
      ∀ serial', ∃ e',
        ((((initial files).run calls).compile i serial q).2.compile i serial' q).1 =
          some (.error e') ∧ e.Alike e') ∧
    (∀ p, (((initial files).run calls).compile i serial q).1 = some (.ok p) →
      ∀ serial', (((initial files).run calls).compile i serial q).2.compile i serial' q =
        (some (.ok p), (((initial files).run calls).compile i serial q).2)) ∧
    ∀ dumpDir files', ∃ files'',
      (((initial files).run calls).describing i dumpDir files').compile i serial q =
        ((((initial files).run calls).compile i serial q).1,
          (((initial files).run calls).compile i serial q).2.describing i dumpDir files'') := by
  obtain ⟨hsound, -⟩ := (sound_initial files).run calls
  exact ⟨fun e he => hsound.compile_of_error he, fun p hp => hsound.compile_of_ok hp,
    fun dumpDir files' => compile_describing _ i serial q dumpDir files'⟩

end Factory

/-! ### A method that cannot be intercepted, and a directory that cannot be made -/

namespace Samples

/-- An interface with a method that takes nothing for an argument. -/
def absorber : Class :=
  { ClassSpec.named "app.Absorber" .interface with
    methods := [⟨"absorb", [.void], .void, .pub, false, false, [], none⟩] }.described 2

def absorbing : ProxyRequest := ⟨[absorber], none, none, true⟩

/-- A file is in the way of the directory for the descriptions. -/
def obstructed : DumpFiles := ⟨[(["dump"], .file none)]⟩

def obstructedCalls : List Factory.Call :=
  [.define greeter, .define absorber, .addCompiler "dyn" (some "dump")]

def obstructedShop : Factory := (Factory.initial obstructed).run obstructedCalls

theorem compile_atomic_obstructed :
    (∃ p, (obstructedShop.compile 0 3 greeting).1 = some (.ok p) ∧
      p.name = "dyn.Greeter$Proxy$0" ∧
      (obstructedShop.compile 0 3 greeting).2.compile 0 4 greeting =
        (some (.ok p), (obstructedShop.compile 0 3 greeting).2)) ∧
    (obstructedShop.compile 0 3 absorbing).1 = some (.error
      (.compilationFailure "dyn.Absorber$Proxy$0" (.voidParameter "absorb" [.void]))) ∧
    ∃ n, (obstructedShop.compile 0 3 absorbing).2 = obstructedShop.skipping 0 n := by
  obtain ⟨-, hagain, -⟩ := Factory.compile_atomic obstructed obstructedCalls 0 3 greeting
  obtain ⟨hfailed, -, -⟩ := Factory.compile_atomic obstructed obstructedCalls 0 3 absorbing
  have hrefused : (obstructedShop.compile 0 3 absorbing).1 = some (.error
      (.compilationFailure "dyn.Absorber$Proxy$0" (.voidParameter "absorb" [.void]))) := rfl
  exact ⟨⟨_, rfl, rfl, hagain _ rfl 4⟩, hrefused, (hfailed _ hrefused).1⟩

end Samples

end Metaobject
