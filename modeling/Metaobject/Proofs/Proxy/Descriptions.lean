import Metaobject.Proofs.Proxy.Exclusion
import Metaobject.Proofs.Proxy.Freshness
import Metaobject.Proofs.Proxy.Verdicts
import Metaobject.Proofs.Storage

/-!
# Where classes are described

The file for the description of a class is found by following the name of the class from the directory
for descriptions, or from the top if the name begins with a slash. So it lies in that directory, under
the name of the class, as long as the name has no slash, and then no description takes the place of
another one. Any name that can be seen can be given to a class, those with slashes included.
-/

namespace Metaobject

/-! ## The file for a class -/

namespace ClassDump

/-- The way to the directory of the file that describes a class. -/
def way (dir name : String) : List Path.Step :=
  (if Path.isAbsolute name then [] else Path.steps dir) ++ Path.front name

def fileName (name : String) : String := Path.base name ++ ".json"

theorem steps_path (dir name : String) :
    Path.steps (path dir name) = way dir name ++ [.down (fileName name)] := by
  have habsolute : Path.isAbsolute (name ++ ".json") = Path.isAbsolute name := by
    rw [Path.isAbsolute, Path.isAbsolute, String.toList_append]
    cases name.toList <;> rfl
  have hsteps : Path.steps (name ++ ".json") = Path.front name ++ [.down (fileName name)] :=
    Path.steps_append (by decide) (by decide)
  rw [path, Path.steps_join, habsolute, hsteps, way, List.append_assoc]

theorem way_of_not_mem {name : String} (h : '/' ∉ name.toList) (dir : String) :
    way dir name = Path.steps dir := by
  rw [way, Path.isAbsolute_of_not_mem h, Path.front_of_not_mem h, if_neg Bool.false_ne_true,
    List.append_nil]

theorem fileName_of_not_mem {name : String} (h : '/' ∉ name.toList) :
    fileName name = name ++ ".json" := by
  rw [fileName, Path.base_of_not_mem h]

theorem steps_path_of_not_mem {name : String} (h : '/' ∉ name.toList) (dir : String) :
    Path.steps (path dir name) = Path.steps dir ++ [.down (name ++ ".json")] := by
  rw [steps_path, way_of_not_mem h, fileName_of_not_mem h]

theorem steps_path_inj {a b : String} (ha : '/' ∉ a.toList) (hb : '/' ∉ b.toList) (dir : String) :
    Path.steps (path dir a) = Path.steps (path dir b) ↔ a = b := by
  rw [steps_path_of_not_mem ha, steps_path_of_not_mem hb]
  simp

/-! ## What describing a class does -/

/-- What describing a class in a directory can come to. The directory cannot be made, or the file
cannot be written; then the files stay as they are. Otherwise the name of the class leads from the
directory to a place, and there is the description, in one file. -/
inductive Describes (dir : String) (p : ProxyClass) (fs : DumpFiles) : DumpFiles → Prop
  | unmade {made : DumpFiles} {e : StorageFault}
      (directory : FileChange.outcome (FileChange.makeDirectories dir) fs = (.error e, made))
      (same : fs.SameFiles made) : Describes dir p fs made
  | unwritten {made : DumpFiles} {e : StorageFault}
      (directory : FileChange.outcome (FileChange.makeDirectories dir) fs = (.ok (), made))
      (same : fs.SameFiles made)
      (refused : FileChange.outcome (FileChange.write (path dir p.name) (some (ofProxy p))) made =
        (.error e, made)) : Describes dir p fs made
  | written {made : DumpFiles} {place : List String}
      (directory : FileChange.outcome (FileChange.makeDirectories dir) fs = (.ok (), made))
      (same : fs.SameFiles made) (leads : made.walk [] (way dir p.name) = .ok place) :
      Describes dir p fs
        (made.put (place ++ [fileName p.name]) (.file (some (ofProxy p))))

theorem describes_write (dir : String) (p : ProxyClass) (fs : DumpFiles) :
    Describes dir p fs (write dir p fs).value := by
  have hkept := FileChange.keepsFiles_makeDirectories dir fs
  have hwrite : (write dir p fs).value = (write? dir p fs).2 := by
    rw [write]
    rcases write? dir p fs with ⟨_ | _, _⟩ <;> rfl
  have hdirectory : (FileChange.makeDirectories dir).run fs =
      FileChange.outcome (FileChange.makeDirectories dir) fs := rfl
  rw [hwrite, write?, hdirectory]
  rcases hmade : FileChange.outcome (FileChange.makeDirectories dir) fs with ⟨e | u, made⟩ <;>
    rw [hmade] at hkept
  · exact .unmade hmade hkept
  · simp only
    have hfile : (FileChange.write (path dir p.name) (some (ofProxy p))).run made =
        FileChange.outcome (FileChange.write (path dir p.name) (some (ofProxy p))) made := rfl
    rw [hfile]
    rcases FileChange.outcome_write_cases (path dir p.name) (some (ofProxy p)) made with
      ⟨e, hfailed⟩ | ⟨place, name, hname, hplace, hwritten⟩
    · rw [hfailed]
      exact .unwritten hmade hkept hfailed
    · rw [steps_path, List.getLast?_concat] at hname
      rw [steps_path, List.dropLast_concat] at hplace
      cases hname
      rw [hwritten]
      exact .written hmade hkept hplace

namespace Describes

variable {dir : String} {p : ProxyClass} {fs fs' : DumpFiles}

/-- Only a file under the name that belongs to the class can change. -/
theorem node?_of_ne (h : Describes dir p fs fs') {place : List String}
    (hplace : place.getLast? ≠ some (fileName p.name)) {content : Option ClassDump} :
    fs'.node? place = some (.file content) ↔ fs.node? place = some (.file content) := by
  cases h with
  | unmade directory same => exact same place content
  | unwritten directory same refused => exact same place content
  | @written made target directory same leads =>
      have hne : place ≠ target ++ [fileName p.name] := by
        rintro rfl
        exact hplace List.getLast?_concat
      rw [Files.node?_put _ (by simp), if_neg hne]
      exact same place content

end Describes

end ClassDump

/-! ## Names that classes can have -/

/-- The request for a class of the name that extends the root and implements nothing. -/
def ProxyRequest.named (name : String) : ProxyRequest := ⟨[], none, some name, true⟩

theorem ProxyCompiler.not_uncompilable_named (pc : ProxyCompiler) {name : String}
    (hvisible : Text.isBlank name = false) : ¬ pc.Uncompilable (.named name) := by
  rintro (⟨i, hi, -⟩ | ⟨-, hconstructor | ⟨m, hm, -⟩ | ⟨given, hgiven, hblank⟩⟩)
  · cases hi
  · exact hconstructor ⟨.implicit, List.mem_cons_self, rfl, by decide⟩
  · have hnone : Class.root.interceptedMethods [] = [] := rfl
    have hbase : (ProxyRequest.named name).base = .root := rfl
    rw [hbase] at hm
    cases hnone ▸ hm
  · cases hgiven
    rw [hvisible] at hblank
    cases hblank

/-- Every name that can be seen and is free can be given to a class. -/
theorem Workshop.exists_compile_named {w : Workshop} (hw : w.compiler.Sound w.registry)
    (serial : Nat) {name : String} (hvisible : Text.isBlank name = false)
    (hfree : w.registry.get? name = none) :
    ∃ p, (w.compile serial (.named name)).value.1 = .ok p ∧ p.name = name := by
  have hunique : ¬ w.compiler.Duplicates w.registry (.named name) := by
    rintro ⟨other, hother, -, hcontains⟩
    cases hother
    rw [Registry.contains_eq_false_iff.mpr hfree] at hcontains
    cases hcontains
  have hanswers := answers_compile (q := .named name) hw (by rintro s ⟨⟩) serial
  obtain ⟨p, hp⟩ :=
    hanswers.verdict.ok_iff.mpr ⟨rfl, w.compiler.not_uncompilable_named hvisible, hunique⟩
  have hcompiles := w.compiles_compile serial (.named name)
  exact ⟨p, hp, (hp ▸ hcompiles).name_of_target hw rfl⟩

/-- The parts of a generated name that are always the same have no slash. -/
theorem ProxyCompiler.slash_mem_numbered (pc : ProxyCompiler) (base : String) (i : Nat) :
    '/' ∈ (pc.numbered base i).toList ↔ '/' ∈ pc.space.toList ∨ '/' ∈ base.toList := by
  have hdigits : '/' ∉ Nat.toDigits 10 i := fun hslash => by
    cases Nat.isDigit_of_mem_toDigits (by decide) (by decide) hslash
  have hname : pc.numbered base i = pc.space ++ "." ++ base ++ "$Proxy$" ++ toString i := rfl
  simp [hname, hdigits]

theorem ProxyClass.IsBuilt.isBlank_name {p : ProxyClass} (hp : p.IsBuilt) :
    Text.isBlank p.name = false := by
  obtain ⟨name, id, methods, hbuild⟩ := hp
  have hadmissible := ClassSpec.build_ok_iff.mp ⟨_, (ProxyCompiler.build_of_buildClass hbuild).2⟩
  rw [ProxyClass.name, ProxyCompiler.name_of_buildClass hbuild]
  exact hadmissible.named

/-! ## The files of a factory -/

theorem ProxyCompiler.Assigns.dumpDir_eq {pc pc' : ProxyCompiler} {r : Registry} {q : ProxyRequest}
    {name : String} (h : pc.Assigns r q name pc') : pc'.dumpDir = pc.dumpDir := by
  cases h <;> rfl

/-- A request changes the files only where it makes a class, which it describes. -/
theorem Workshop.files_compile {w : Workshop} (hw : w.compiler.Sound w.registry) (serial : Nat)
    (q : ProxyRequest) :
    (w.compile serial q).value.2.files = w.files ∨ ∃ p dir,
      (w.compile serial q).value.1 = .ok p ∧ w.compiler.dumpDir = some dir ∧
        w.registry.get? p.name = none ∧
        ClassDump.Describes dir p w.files (w.compile serial q).value.2.files := by
  have hcompiles := w.compiles_compile serial q
  rw [value_compile] at hcompiles ⊢
  cases hvalid : checkRequest q with
  | error e => exact .inl rfl
  | ok u =>
      have hassigned := w.compiler.assigns_assignName w.registry q
      rw [hvalid] at hcompiles
      rcases hname : (w.compiler.assignName w.registry q).value with ⟨name, pc⟩
      rw [hname] at hassigned hcompiles
      simp only at hcompiles ⊢
      cases hfound : pc.get? name with
      | some p => exact .inl rfl
      | none =>
          rw [hfound] at hcompiles
          simp only at hcompiles ⊢
          cases hproduct : ProxyCompiler.product w.registry serial q name with
          | error e => exact .inl rfl
          | ok made =>
              obtain ⟨p, r⟩ := made
              rw [hproduct] at hcompiles
              cases hdir : pc.dumpDir with
              | none => exact .inl (by simp [ProxyCompiler.filesAfter])
              | some dir =>
                  right
                  have hpname : p.name = name := ProxyCompiler.name_of_product hproduct
                  have hmissing : w.compiler.get? p.name = none := by
                    rw [hpname, ProxyCompiler.get?, ← hassigned.classes_eq]
                    exact hfound
                  have hunknown := (hcompiles.get?_or_unknown hw (hcompiles.get?_of_ok hw)).resolve_left
                    (by simp [hmissing])
                  exact ⟨p, dir, rfl, hassigned.dumpDir_eq ▸ hdir, hunknown,
                    ClassDump.describes_write dir p w.files⟩

namespace Factory

theorem Sound.files_compile {w : Factory} (h : w.Sound) (i serial : Nat) (q : ProxyRequest) :
    (w.compile i serial q).2.files = w.files ∨ ∃ pc p dir, w.compilers[i]? = some pc ∧
      (w.compile i serial q).1 = some (.ok p) ∧ (w.compile i serial q).2.loaded? i p.name = some p ∧
      pc.dumpDir = some dir ∧ w.registry.get? p.name = none ∧
      ClassDump.Describes dir p w.files (w.compile i serial q).2.files := by
  cases hpc : w.compilers[i]? with
  | none => exact .inl (by simp [Factory.compile, hpc])
  | some pc =>
      have hsound : pc.Sound w.registry := h.compilers pc (List.mem_of_getElem? hpc)
      have hcompiles := Workshop.compiles_compile ⟨pc, w.registry, w.files⟩ serial q
      rw [compile_eq hpc]
      refine (Workshop.files_compile (w := ⟨pc, w.registry, w.files⟩) hsound serial q).imp_right ?_
      rintro ⟨p, dir, hp, hdir, hunknown, hdescribes⟩
      refine ⟨pc, p, dir, rfl, congrArg some hp, ?_, hdir, hunknown, hdescribes⟩
      exact loaded?_eq_some.mpr ⟨_, getElem?_set_compiler hpc _, (hp ▸ hcompiles).get?_of_ok hsound⟩

theorem files_step_of_no_compile {w : Factory} {call : Call}
    (h : ∀ i serial q, call ≠ .compile i serial q) : (w.step call).files = w.files := by
  cases call with
  | define c =>
      rw [step]
      split <;> rfl
  | compile i serial q => exact absurd rfl (h i serial q)
  | _ => rfl

/-- While the names of classes have no slashes, the description of a class that is there stays. -/
theorem Sound.description_step {w : Factory} (h : w.Sound) (call : Call)
    (hnames : ∀ j name p, (w.step call).loaded? j name = some p → '/' ∉ name.toList)
    {place : List String} {d : ClassDump} (hplace : place.getLast? = some (d.name ++ ".json"))
    (hknown : (w.registry.get? d.name).isSome = true)
    (hd : w.files.node? place = some (.file (some d))) :
    (w.step call).files.node? place = some (.file (some d)) := by
  by_cases hcall : ∃ i serial q, call = .compile i serial q
  · obtain ⟨i, serial, q, rfl⟩ := hcall
    rcases h.files_compile i serial q with hsame | ⟨pc, p, dir, -, -, hp, -, hunknown, hdescribes⟩
    · rw [Factory.step, hsame]
      exact hd
    · refine (hdescribes.node?_of_ne ?_).mpr hd
      rw [hplace, ClassDump.fileName_of_not_mem (hnames i p.name p hp)]
      intro hsame
      have hname : d.name = p.name := by simpa using hsame
      rw [hname, hunknown] at hknown
      cases hknown
  · rw [files_step_of_no_compile fun i serial q he => hcall ⟨i, serial, q, he⟩]
    exact hd

theorem Sound.description_run {w : Factory} (h : w.Sound) (calls : List Call)
    (hnames : ∀ j name p, (w.run calls).loaded? j name = some p → '/' ∉ name.toList)
    {place : List String} {d : ClassDump} (hplace : place.getLast? = some (d.name ++ ".json"))
    (hknown : (w.registry.get? d.name).isSome = true)
    (hd : w.files.node? place = some (.file (some d))) :
    (w.run calls).files.node? place = some (.file (some d)) := by
  induction calls generalizing w with
  | nil => exact hd
  | cons call calls ih =>
      obtain ⟨hstep, hkeeps⟩ := h.step call
      obtain ⟨-, hlater⟩ := hstep.run calls
      obtain ⟨c, hc⟩ := Option.isSome_iff_exists.mp hknown
      refine ih hstep hnames (by rw [hkeeps.registry hc]; rfl) ?_
      exact h.description_step call (fun j name p hp => hnames j name p (hlater.loaded hp)) hplace
        hknown hd

/-- Where the description of a class belongs. -/
structure PlacesDescriptions : Prop where
  steps : ∀ dir name, Path.steps (ClassDump.path dir name) =
    ClassDump.way dir name ++ [.down (ClassDump.fileName name)]
  way : ∀ {name : String}, '/' ∉ name.toList → ∀ dir, ClassDump.way dir name = Path.steps dir
  fileName : ∀ {name : String}, '/' ∉ name.toList → ClassDump.fileName name = name ++ ".json"
  apart_iff : ∀ {a b : String}, '/' ∉ a.toList → '/' ∉ b.toList → ∀ dir,
    (Path.steps (ClassDump.path dir a) = Path.steps (ClassDump.path dir b) ↔ a = b)

/-- What the requests to a compiler do to the names of classes and to their descriptions. -/
structure DescribesFor (w : Factory) (i : Nat) (pc : ProxyCompiler) : Prop where
  named : ∀ serial {name}, Text.isBlank name = false → w.registry.get? name = none →
    ∃ p, (w.compile i serial (.named name)).1 = some (.ok p) ∧ p.name = name
  slash_iff : ∀ {q name}, pc.generated? w.registry q = some name →
    ('/' ∈ name.toList ↔ '/' ∈ pc.space.toList ∨ '/' ∈ (ProxyCompiler.baseName q).toList)
  generated : ∀ {serial q name p}, pc.generated? w.registry q = some name →
    (w.compile i serial q).1 = some (.ok p) → p.name = name
  visible : ∀ {serial q p}, (w.compile i serial q).1 = some (.ok p) → Text.isBlank p.name = false
  files : ∀ serial q, (w.compile i serial q).2.files = w.files ∨ ∃ p dir,
    (w.compile i serial q).1 = some (.ok p) ∧ pc.dumpDir = some dir ∧
      w.registry.get? p.name = none ∧
      ClassDump.Describes dir p w.files (w.compile i serial q).2.files

/-- Where a factory describes its classes, and how long the descriptions stay. -/
structure DescribesInPlace (w : Factory) : Prop where
  places : PlacesDescriptions
  compilers : ∀ {i pc}, w.compilers[i]? = some pc → w.DescribesFor i pc
  stays : ∀ {more}, (∀ j name p, (w.run more).loaded? j name = some p → '/' ∉ name.toList) →
    ∀ {place : List String} {d : ClassDump}, place.getLast? = some (d.name ++ ".json") →
      (w.registry.get? d.name).isSome = true → w.files.node? place = some (.file (some d)) →
        (w.run more).files.node? place = some (.file (some d))

theorem placesDescriptions : PlacesDescriptions where
  steps := ClassDump.steps_path
  way := ClassDump.way_of_not_mem
  fileName := ClassDump.fileName_of_not_mem
  apart_iff := ClassDump.steps_path_inj

theorem name_of_generated {w : Factory} {i serial : Nat} {pc : ProxyCompiler} {q : ProxyRequest}
    {name : String} {p : ProxyClass} (hpc : w.compilers[i]? = some pc)
    (hname : pc.generated? w.registry q = some name)
    (hp : (w.compile i serial q).1 = some (.ok p)) : p.name = name := by
  rw [compile_eq hpc] at hp
  rcases Workshop.answer_of_generated (w := ⟨pc, w.registry, w.files⟩) hname serial with
    ⟨p', hanswer, hp'⟩ | ⟨cause, hanswer⟩
  · obtain rfl : p' = p := by simpa [hanswer] using hp
    exact hp'
  · simp [hanswer] at hp

theorem Sound.exists_compile_named {w : Factory} (h : w.Sound) {i : Nat} {pc : ProxyCompiler}
    (hpc : w.compilers[i]? = some pc) (serial : Nat) {name : String}
    (hvisible : Text.isBlank name = false) (hfree : w.registry.get? name = none) :
    ∃ p, (w.compile i serial (.named name)).1 = some (.ok p) ∧ p.name = name := by
  have hcompiler := h.compilers pc (List.mem_of_getElem? hpc)
  obtain ⟨p, hp, hname⟩ := Workshop.exists_compile_named (w := ⟨pc, w.registry, w.files⟩) hcompiler
    serial hvisible hfree
  rw [compile_eq hpc]
  exact ⟨p, congrArg some hp, hname⟩

theorem describesFor_of_compiler {files : DumpFiles} {calls : List Call} {i : Nat}
    {pc : ProxyCompiler} (hpc : ((initial files).run calls).compilers[i]? = some pc) :
    ((initial files).run calls).DescribesFor i pc := by
  obtain ⟨hsound, -⟩ := (sound_initial files).run calls
  refine ⟨fun serial _ => hsound.exists_compile_named hpc serial, fun hname => ?_,
    name_of_generated hpc, fun hp => (isBuilt_of_compile hp).isBlank_name, fun serial q => ?_⟩
  · obtain ⟨-, hnumbered, -⟩ := ProxyCompiler.generated?_eq_some hname
    exact hnumbered ▸ pc.slash_mem_numbered _ _
  · refine (hsound.files_compile i serial q).imp_right ?_
    rintro ⟨pc', p, dir, hpc', hp, -, hdir, hunknown, hdescribes⟩
    obtain rfl := Option.some.inj (hpc.symm.trans hpc')
    exact ⟨p, dir, hp, hdir, hunknown, hdescribes⟩

/-- Where a class is described. The file is the one to which the name of the class leads, from the
directory for descriptions or from the top. It is the file named after the class that lies directly in
this directory if the name has no slash, and then different classes have different files. But a
compiler gives classes all names that are free and not blank, and a name that it generates has a slash
exactly if its namespace or the simple name in it has one. A request changes the files only where
it makes a class and describes it, and then no file but that one. So a description stays, whatever is
asked for and wherever other compilers describe their classes, as long as the names of the classes have
no slashes. -/
theorem descriptions_in_place (files : DumpFiles) (calls : List Call) :
    ((initial files).run calls).DescribesInPlace where
  places := placesDescriptions
  compilers := describesFor_of_compiler
  stays hnames _ _ hplace hknown hd :=
    ((sound_initial files).run calls).1.description_run _ hnames hplace hknown hd

end Factory

/-! ### Names with slashes -/

namespace Samples

/-- What is asked for to make a compiler and, one after the other, classes of the names. -/
def namedCalls (names : List String) : List Factory.Call :=
  .addCompiler "dyn" (some "dumps") :: names.zipIdx.map fun e => .compile 0 (e.2 + 1) (.named e.1)

/-- The factory in which classes of the names have been made and described. -/
def dumping (names : List String) : Factory := (Factory.initial ⟨[]⟩).run (namedCalls names)

/-- The name of the class that is described in a place. -/
def describedIn (w : Factory) (place : List String) : Option String :=
  match w.files.node? place with
  | some (.file d) => d.map ClassDump.name
  | _ => none

theorem exists_of_describedIn {w : Factory} {place : List String} {name : String}
    (h : describedIn w place = some name) :
    ∃ d, w.files.node? place = some (.file (some d)) ∧ d.name = name := by
  rw [describedIn] at h
  split at h
  · rename_i content hnode
    obtain ⟨d, rfl, hname⟩ := Option.map_eq_some_iff.mp h
    exact ⟨d, hnode, hname⟩
  · cases h

/-- The second name is free too, and the description of the first class stays when a class of that name
is made. -/
theorem descriptions_in_place_dumping :
    Path.steps (ClassDump.path "dumps" "app.P") = Path.steps "dumps" ++ [.down "app.P.json"] ∧
    Path.steps (ClassDump.path "dumps" "app.P") ≠ Path.steps (ClassDump.path "dumps" "app.Q") ∧
    (∃ p, ((dumping ["app.P"]).compile 0 2 (.named "app.Q")).1 = some (.ok p) ∧
      p.name = "app.Q") ∧
    ∃ d, d.name = "app.P" ∧ ((dumping ["app.P"]).run [.compile 0 2 (.named "app.Q")]).files.node?
      ["dumps", "app.P.json"] = some (.file (some d)) := by
  have hdescribes := Factory.descriptions_in_place ⟨[]⟩ (namedCalls ["app.P"])
  refine ⟨?_, ?_, ?_, ?_⟩
  · rw [hdescribes.places.steps, hdescribes.places.way (by decide),
      hdescribes.places.fileName (by decide)]
    rfl
  · intro hsame
    have hnames := (hdescribes.places.apart_iff (by decide) (by decide) "dumps").mp hsame
    exact absurd hnames (by decide)
  · exact (hdescribes.compilers (i := 0) rfl).named 2 (by decide) (by decide +kernel)
  · have hpresent : describedIn (dumping ["app.P"]) ["dumps", "app.P.json"] = some "app.P" := by
      decide +kernel
    obtain ⟨d, hd, hname⟩ := exists_of_describedIn hpresent
    have hnames : ∀ j name p, ((dumping ["app.P"]).run [.compile 0 2 (.named "app.Q")]).loaded? j
        name = some p → '/' ∉ name.toList := by
      intro j name p hp
      have hkeys : ∀ pc ∈ (dumping ["app.P", "app.Q"]).compilers,
          ∀ e ∈ pc.classes.entries, '/' ∉ e.1.toList := by decide +kernel
      obtain ⟨pc, hpc, hget⟩ := Factory.loaded?_eq_some.mp hp
      obtain ⟨e, he, hkey, -⟩ := Cells.exists_of_get? hget
      exact eq_of_beq hkey ▸ hkeys pc (List.mem_of_getElem? hpc) e he
    refine ⟨d, hname, hdescribes.stays hnames ?_ ?_ hd⟩
    · rw [hname]
      rfl
    · rw [hname]
      decide +kernel

/-- A name with a slash is accepted, and then a class takes the place of another one in the directory
for descriptions, or it is described elsewhere. -/
theorem slashes_lead_elsewhere :
    (∀ name ∈ ["app.P", "./app.P", "../app.Q"],
      ((dumping ["app.P", "./app.P", "../app.Q"]).loaded? 0 name).isSome = true) ∧
    describedIn (dumping ["app.P"]) ["dumps", "app.P.json"] = some "app.P" ∧
    describedIn (dumping ["app.P", "./app.P"]) ["dumps", "app.P.json"] = some "./app.P" ∧
    describedIn (dumping ["app.P", "./app.P", "../app.Q"]) ["app.Q.json"] = some "../app.Q" ∧
    ClassDump.path "dumps" "/app.R" = "/app.R.json" := by
  refine ⟨?_, ?_, ?_, ?_, ?_⟩ <;> decide +kernel

end Samples

end Metaobject
