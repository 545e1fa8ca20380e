import Mathlib.Data.List.Basic
import Metaobject.Storage.Files

/-!
# Where a path leads

A path ends with what stands after its last slash, and what stands before leads to the directory in
which it ends. Making directories adds directories only, and writing changes the one file that the path
means, so all other files stay as they are.
-/

namespace Metaobject

/-! ## The parts of a path -/

namespace Path

/-- What stands after the last slash. -/
def base (p : String) : String := (parts p).getLastD ""

/-- The way that the path takes before its last slash. -/
def front (p : String) : List Step := (parts p).dropLast.filterMap step?

theorem split_ne_nil (cs : List Char) : split cs ≠ [] := by
  cases cs with
  | nil => exact List.cons_ne_nil _ _
  | cons c cs =>
      rw [split]
      split
      · exact List.cons_ne_nil _ _
      · split <;> exact List.cons_ne_nil _ _

theorem split_append_slash (xs ys : List Char) :
    split (xs ++ '/' :: ys) = split xs ++ split ys := by
  induction xs with
  | nil => simp [split]
  | cons c xs ih =>
      by_cases hc : c = '/'
      · simp [split, hc, ih]
      · obtain ⟨s, ss, hs⟩ := List.exists_cons_of_ne_nil (split_ne_nil xs)
        simp [split, hc, ih, hs]

theorem split_of_not_mem {cs : List Char} (h : '/' ∉ cs) : split cs = [cs] := by
  induction cs with
  | nil => rfl
  | cons c cs ih =>
      obtain ⟨hc, hcs⟩ := not_or.mp (mt List.mem_cons.mpr h)
      simp [split, Ne.symm hc, ih hcs]

theorem split_append_of_not_mem (xs : List Char) {ys : List Char} (h : '/' ∉ ys) :
    split (xs ++ ys) = (split xs).dropLast ++ [(split xs).getLastD [] ++ ys] := by
  induction xs with
  | nil => simp [split, split_of_not_mem h]
  | cons c xs ih =>
      obtain ⟨s, ss, hs⟩ := List.exists_cons_of_ne_nil (split_ne_nil xs)
      by_cases hc : c = '/'
      · simp [split, hc, ih, hs]
      · cases ss <;> simp_all [split]

theorem parts_append_slash (p q : String) : parts (p ++ "/" ++ q) = parts p ++ parts q := by
  have hlist : (p ++ "/" ++ q).toList = p.toList ++ '/' :: q.toList := by simp
  rw [parts, hlist, split_append_slash, List.map_append, parts, parts]

theorem parts_append {p q : String} (h : '/' ∉ q.toList) :
    parts (p ++ q) = (parts p).dropLast ++ [base p ++ q] := by
  obtain ⟨s, hs⟩ : ∃ s, (split p.toList).getLast? = some s :=
    ⟨_, List.getLast?_eq_some_getLast (split_ne_nil _)⟩
  have hbase : base p = String.ofList s := by
    rw [base, parts, List.getLastD_eq_getLast?, List.getLast?_map, hs]
    rfl
  rw [parts, String.toList_append, split_append_of_not_mem _ h, hbase]
  simp [parts, List.getLastD_eq_getLast?, hs, String.ofList_append]

theorem parts_of_not_mem {p : String} (h : '/' ∉ p.toList) : parts p = [p] := by
  rw [parts, split_of_not_mem h]
  simp

theorem base_of_not_mem {p : String} (h : '/' ∉ p.toList) : base p = p := by
  rw [base, parts_of_not_mem h]
  rfl

theorem front_of_not_mem {p : String} (h : '/' ∉ p.toList) : front p = [] := by
  rw [front, parts_of_not_mem h]
  rfl

theorem isAbsolute_of_not_mem {p : String} (h : '/' ∉ p.toList) : isAbsolute p = false := by
  rw [isAbsolute]
  cases hp : p.toList with
  | nil => rfl
  | cons c cs =>
      rw [hp] at h
      simpa using Ne.symm (not_or.mp (mt List.mem_cons.mpr h)).1

theorem steps_append_slash (p q : String) : steps (p ++ "/" ++ q) = steps p ++ steps q := by
  rw [steps, parts_append_slash, List.filterMap_append, steps, steps]

theorem steps_empty : steps "" = [] := rfl

/-- An absolute path is the way by itself; another one is added to the way of the directory. -/
theorem steps_join (dir p : String) :
    steps (join dir p) = (if isAbsolute p then [] else steps dir) ++ steps p := by
  cases habsolute : isAbsolute p with
  | true => simp [join, habsolute]
  | false =>
      rw [join, habsolute, if_neg Bool.false_ne_true, if_neg Bool.false_ne_true]
      split
      · rename_i hlast
        obtain rfl : dir = "" := by simpa using hlast
        simp [steps_empty]
      · -- the directory ends in a slash already
        rename_i hlast
        obtain ⟨cs, hcs⟩ := List.getLast?_eq_some_iff.mp hlast
        have hdir : dir = String.ofList cs ++ "/" := by
          rw [← String.toList_inj]
          simp [hcs]
        have hsteps : steps dir = steps (String.ofList cs) := by
          have hslash := steps_append_slash (String.ofList cs) ""
          rwa [steps_empty, List.append_nil, String.append_empty, ← hdir] at hslash
        rw [hsteps, hdir, steps_append_slash]
      · exact steps_append_slash dir p

/-- The steps of a file with an extension. -/
theorem steps_append {p q : String} (h : '/' ∉ q.toList) (hlong : 2 < q.length) :
    steps (p ++ q) = front p ++ [.down (base p ++ q)] := by
  have hdown : step? (base p ++ q) = some (.down (base p ++ q)) := by
    have hne {s : String} (hs : s.length ≤ 2) : base p ++ q ≠ s := by
      intro he
      have hlength := congrArg String.length he
      rw [String.length_append] at hlength
      omega
    rw [step?, if_neg (hne (by decide)), if_neg (hne (by decide)), if_neg (hne (by decide))]
  rw [steps, parts_append h, List.filterMap_append, front, List.filterMap_cons_some hdown,
    List.filterMap_nil]

end Path

/-! ## Files -/

namespace Files

variable {α : Type}

/-- Both have the same files with the same contents, whatever the directories are. -/
def SameFiles (fs fs' : Files α) : Prop :=
  ∀ place content, fs'.node? place = some (.file content) ↔ fs.node? place = some (.file content)

theorem SameFiles.refl (fs : Files α) : fs.SameFiles fs := fun _ _ => Iff.rfl

theorem SameFiles.trans {fs fs' fs'' : Files α} (h : fs.SameFiles fs') (h' : fs'.SameFiles fs'') :
    fs.SameFiles fs'' :=
  fun place content => (h' place content).trans (h place content)

theorem lookup_filter (nodes : List (List String × Node α)) (place other : List String) :
    (nodes.filter fun e => e.1 != place).lookup other =
      if other = place then none else nodes.lookup other := by
  induction nodes with
  | nil => simp
  | cons e nodes ih =>
      obtain ⟨i, n⟩ := e
      by_cases hi : i = place
      · have hdropped : ((i, n) :: nodes).filter (fun e => e.1 != place) =
            nodes.filter fun e => e.1 != place := by simp [hi]
        rw [hdropped, ih]
        by_cases ho : other = place
        · simp [ho]
        · have hne : (other == i) = false := beq_false_of_ne (hi ▸ ho)
          simp [ho, List.lookup_cons, hne]
      · by_cases ho : other = i
        · simp [ho, hi]
        · simp [hi, ih, List.lookup_cons, beq_false_of_ne ho]

theorem node?_put (fs : Files α) {place : List String} (hplace : place ≠ []) (node : Node α)
    (other : List String) :
    (fs.put place node).node? other = if other = place then some node else fs.node? other := by
  cases other with
  | nil => rw [if_neg hplace.symm]; rfl
  | cons name names =>
      change List.lookup _ _ = if name :: names = place then some node else fs.nodes.lookup _
      rw [put, List.lookup_append, lookup_filter]
      by_cases hsame : name :: names = place
      · simp [hsame]
      · simp [hsame, List.lookup_cons, beq_false_of_ne hsame]

/-- A directory that is put where nothing was leaves the files as they are. -/
theorem sameFiles_put_directory {fs : Files α} {place : List String} (hplace : place ≠ [])
    (hfree : fs.node? place = none) : fs.SameFiles (fs.put place .directory) := by
  intro other content
  rw [node?_put fs hplace]
  by_cases hother : other = place
  · subst hother
    simp [hfree]
  · rw [if_neg hother]

end Files

namespace FileChange

open Files

variable {α β γ : Type}

/-- The result of a change, or why it fails, and what is there afterwards. -/
def outcome (x : FileChange α β) (fs : Files α) : Except StorageFault β × Files α := x.run.run fs

@[simp] theorem outcome_pure (b : β) (fs : Files α) :
    outcome (pure b) fs = (.ok b, fs) := rfl

@[simp] theorem outcome_throw (e : StorageFault) (fs : Files α) :
    outcome (throw e : FileChange α β) fs = (.error e, fs) := rfl

@[simp] theorem outcome_get_bind (f : Files α → FileChange α β) (fs : Files α) :
    outcome (get >>= f) fs = outcome (f fs) fs := rfl

@[simp] theorem outcome_set (fs' fs : Files α) :
    outcome (set fs' : FileChange α PUnit) fs = (.ok (), fs') := rfl

@[simp] theorem outcome_liftM (x : Except StorageFault β) (fs : Files α) :
    outcome (liftM x : FileChange α β) fs = (x, fs) := by
  cases x <;> rfl

theorem outcome_bind (x : FileChange α β) (f : β → FileChange α γ) (fs : Files α) :
    outcome (x >>= f) fs = match outcome x fs with
      | (.ok b, fs') => outcome (f b) fs'
      | (.error e, fs') => (.error e, fs') := by
  simp only [outcome, ExceptT.run_bind, StateT.run_bind]
  rcases x.run.run fs with ⟨_ | _, _⟩ <;> rfl

theorem outcome_tryCatch (x : FileChange α β) (f : StorageFault → FileChange α β) (fs : Files α) :
    outcome (tryCatch x f) fs = match outcome x fs with
      | (.ok b, fs') => (.ok b, fs')
      | (.error e, fs') => outcome (f e) fs' := by
  change StateT.run (ExceptT.run (ExceptT.tryCatch x f)) fs = _
  rw [ExceptT.tryCatch, ExceptT.run_mk, StateT.run_bind]
  rcases hrun : outcome x fs with ⟨_ | _, _⟩ <;>
    rw [show StateT.run x fs = _ from hrun] <;> rfl

/-- The change leaves the files as they are, whether it fails or not. -/
def KeepsFiles (x : FileChange α β) : Prop := ∀ fs : Files α, fs.SameFiles (outcome x fs).2

theorem keepsFiles_pure (b : β) : KeepsFiles (pure b : FileChange α β) := SameFiles.refl

theorem keepsFiles_throw (e : StorageFault) : KeepsFiles (throw e : FileChange α β) :=
  SameFiles.refl

theorem KeepsFiles.bind {x : FileChange α β} {f : β → FileChange α γ} (hx : KeepsFiles x)
    (hf : ∀ b, KeepsFiles (f b)) : KeepsFiles (x >>= f) := by
  intro fs
  have hfirst := hx fs
  rw [outcome_bind]
  rcases hrun : outcome x fs with ⟨e | b, fs'⟩ <;> rw [hrun] at hfirst
  · exact hfirst
  · exact hfirst.trans (hf b fs')

theorem KeepsFiles.tryCatch {x : FileChange α β} {f : StorageFault → FileChange α β}
    (hx : KeepsFiles x) (hf : ∀ e, KeepsFiles (f e)) : KeepsFiles (tryCatch x f) := by
  intro fs
  have hfirst := hx fs
  rw [outcome_tryCatch]
  rcases hrun : outcome x fs with ⟨e | b, fs'⟩ <;> rw [hrun] at hfirst
  · exact hfirst.trans (hf e fs')
  · exact hfirst

theorem keepsFiles_makeOne (steps : List Path.Step) :
    KeepsFiles (makeOne steps : FileChange α Unit) := by
  intro fs
  rw [makeOne, outcome_get_bind]
  split
  · rename_i name _
    simp only [outcome_bind, outcome_liftM]
    cases fs.walk [] steps.dropLast with
    | error e => exact .refl fs
    | ok place =>
        simp only
        split
        · exact .refl fs
        · split
          · exact .refl fs
          · rename_i hfree
            have hplace : place ++ [name] ≠ [] := by simp
            exact sameFiles_put_directory hplace (by simpa using hfree)
  · simp only [outcome_bind, outcome_liftM]
    cases fs.walk [] steps.dropLast <;> exact .refl fs

theorem keepsFiles_makeMissing (steps : List Path.Step) :
    KeepsFiles (makeMissing steps : FileChange α Unit) := by
  refine (keepsFiles_makeOne steps).tryCatch fun e fs => ?_
  rw [outcome_get_bind]
  split <;> exact .refl fs

theorem keepsFiles_makeAll (way : List Path.Step) :
    KeepsFiles (makeAll way : FileChange α Unit) := by
  induction way using makeAll.induct with
  | case1 =>
      rw [makeAll]
      exact keepsFiles_pure ()
  | case2 s way ih =>
      rw [makeAll]
      refine (keepsFiles_makeMissing _).tryCatch fun e => ?_
      split
      · exact ih.bind fun _ => keepsFiles_makeMissing _
      · exact keepsFiles_throw _

theorem outcome_check (path : String) (fs : Files α) :
    outcome (check path) fs = (.ok (), fs) ∨ ∃ e, outcome (check path) fs = (.error e, fs) := by
  rw [check]
  split
  · exact .inr ⟨_, rfl⟩
  · split
    · exact .inr ⟨_, rfl⟩
    · exact .inl rfl

theorem keepsFiles_makeDirectories (path : String) :
    KeepsFiles (makeDirectories path : FileChange α Unit) := by
  refine KeepsFiles.bind (fun fs => ?_) fun _ => keepsFiles_makeAll _
  rcases outcome_check path fs with h | ⟨e, h⟩ <;> rw [h] <;> exact .refl fs

/-- Writing fails and changes nothing, or it puts the content where the path ends. -/
theorem outcome_write_cases (path : String) (content : α) (fs : Files α) :
    (∃ e, outcome (write path content) fs = (.error e, fs)) ∨
      ∃ place name, (Path.steps path).getLast? = some (.down name) ∧
        fs.walk [] (Path.steps path).dropLast = .ok place ∧
        outcome (write path content) fs =
          (.ok (), fs.put (place ++ [name]) (.file content)) := by
  rw [write, outcome_bind]
  rcases outcome_check path fs with h | ⟨e, h⟩
  · rw [h]
    simp only [outcome_get_bind]
    rw [outcome_bind, outcome_liftM]
    cases hwalk : fs.walk [] (Path.steps path).dropLast with
    | error e => exact .inl ⟨e, rfl⟩
    | ok place =>
        simp only
        split
        · rename_i name hname
          split
          · exact .inl ⟨_, rfl⟩
          · split
            · exact .inl ⟨_, rfl⟩
            · split
              · exact .inl ⟨_, rfl⟩
              · exact .inr ⟨place, name, hname, rfl, rfl⟩
        · exact .inl ⟨_, rfl⟩
  · rw [h]
    exact .inl ⟨e, rfl⟩

end FileChange

end Metaobject
