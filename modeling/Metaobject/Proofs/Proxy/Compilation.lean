import Metaobject.Proofs.Proxy.Generation
import Metaobject.Proofs.Proxy.Naming

/-!
# Proxy compilers stay sound

A sound compiler has a class for every cell and a class of the right shape for every shape that it
has noted; its classes are well made and are those of the registry. `Workshop.Compiles` says all
that one request can do. A request that fails leaves nothing but the numbers that it used up, and
every request leaves a sound compiler sound.
-/

namespace Metaobject

namespace ProxyCompiler

def load (pc : ProxyCompiler) (name : String) (p : ProxyClass) : ProxyCompiler :=
  { pc with classes := (pc.classes.make name).fill name p }

theorem get?_load {pc : ProxyCompiler} {name : String} (h : pc.get? name = none) (p : ProxyClass)
    (other : String) :
    (pc.load name p).get? other = if other = name then some p else pc.get? other := by
  simpa only [get?, load, beq_iff_eq] using Cells.get?_fill_make h other p

theorem get?_load_self {pc : ProxyCompiler} {name : String} (h : pc.get? name = none)
    (p : ProxyClass) : (pc.load name p).get? name = some p := by
  rw [get?_load h, if_pos rfl]

theorem get?_load_of_get? {pc : ProxyCompiler} {name other : String} {o : ProxyClass}
    (h : pc.get? name = none) (p : ProxyClass) (ho : pc.get? other = some o) :
    (pc.load name p).get? other = some o := by
  have hne : other ≠ name := by
    rintro rfl
    simp [h] at ho
  rw [get?_load h, if_neg hne, ho]

theorem get?_of_isTaken {pc : ProxyCompiler} {r : Registry} {name : String}
    (h : pc.isTaken r name = false) : pc.get? name = none ∧ r.get? name = none := by
  rw [isTaken, Bool.or_eq_false_iff, Registry.contains_eq_false_iff] at h
  have hcell : pc.classes.cell? name = none := by simpa [Cells.contains] using h.1
  exact ⟨by simp [get?, Cells.get?, hcell], h.2⟩

theorem Assigns.classes_eq {pc pc' : ProxyCompiler} {r : Registry} {q : ProxyRequest}
    {name : String} (h : pc.Assigns r q name pc') : pc'.classes = pc.classes := by
  cases h <;> rfl

/-- The compiler agrees with the registry, and all that it has noted has been made. -/
structure Sound (pc : ProxyCompiler) (r : Registry) : Prop where
  named : ∀ {name p}, pc.get? name = some p → p.name = name
  defined : ∀ {name p}, pc.get? name = some p → r.get? name = some p.cls
  wellMade : ∀ {name p}, pc.get? name = some p → p.WellMade
  filled : ∀ e ∈ pc.classes.entries, e.2.isSome = true
  recorded : ∀ e ∈ pc.shapes, ∃ p, pc.get? e.2 = some p ∧ p.request.shape = e.1
  once : (pc.shapes.map Prod.fst).Nodup

theorem sound_initial (space : String) (dumpDir : Option String) (r : Registry) :
    (initial space dumpDir).Sound r where
  named h := by cases h
  defined h := by cases h
  wellMade h := by cases h
  filled := by simp [initial, Cells.empty]
  recorded := by simp [initial]
  once := .nil

namespace Sound

variable {pc : ProxyCompiler} {r : Registry}

theorem grows (h : pc.Sound r) {r' : Registry} (hr : r.Grows r') : pc.Sound r' where
  named := h.named
  defined hp := hr (h.defined hp)
  wellMade := h.wellMade
  filled := h.filled
  recorded := h.recorded
  once := h.once

theorem withSequence (h : pc.Sound r) (n : Nat) : { pc with sequence := n }.Sound r :=
  ⟨h.named, h.defined, h.wellMade, h.filled, h.recorded, h.once⟩

theorem names_nodup (h : pc.Sound r) : (pc.shapes.map Prod.snd).Nodup := by
  -- a name has one class, and the class tells the shape that it was made for
  have hshapes := List.pairwise_map.mp h.once
  refine List.pairwise_map.mpr (hshapes.imp_of_mem fun {e f} he hf hne hname => hne ?_)
  obtain ⟨p, hp, hshape⟩ := h.recorded e he
  obtain ⟨p', hp', hshape'⟩ := h.recorded f hf
  obtain rfl : p = p' := Option.some.inj (hp.symm.trans (hname ▸ hp'))
  exact hshape.symm.trans hshape'

theorem contains_eq_false (h : pc.Sound r) {name : String} (hmissing : pc.get? name = none) :
    pc.classes.contains name = false :=
  Cells.contains_eq_false h.filled hmissing

theorem ne_of_recorded (h : pc.Sound r) {name : String} (hmissing : pc.get? name = none)
    {e : ProxyShape × String} (he : e ∈ pc.shapes) : e.2 ≠ name := by
  rintro rfl
  obtain ⟨p, hp, -⟩ := h.recorded e he
  simp [hmissing] at hp

theorem load (h : pc.Sound r) {name : String} (hmissing : pc.get? name = none) {p : ProxyClass}
    (hname : p.name = name) (hdefined : r.get? name = some p.cls) (hmade : p.WellMade) :
    (pc.load name p).Sound r := by
  have hget {other : String} {o : ProxyClass} (ho : (pc.load name p).get? other = some o) :
      (other = name ∧ o = p) ∨ pc.get? other = some o := by
    rw [get?_load hmissing] at ho
    split at ho
    · exact .inl ⟨‹_›, (Option.some.inj ho).symm⟩
    · exact .inr ho
  refine ⟨?_, ?_, ?_, ?_, ?_, h.once⟩
  · intro other o ho
    rcases hget ho with ⟨rfl, rfl⟩ | ho
    · exact hname
    · exact h.named ho
  · intro other o ho
    rcases hget ho with ⟨rfl, rfl⟩ | ho
    · exact hdefined
    · exact h.defined ho
  · intro other o ho
    rcases hget ho with ⟨rfl, rfl⟩ | ho
    · exact hmade
    · exact h.wellMade ho
  · exact Cells.isSome_of_mem_fill_make h.filled (h.contains_eq_false hmissing) p
  · intro e he
    obtain ⟨o, ho, hshape⟩ := h.recorded e he
    exact ⟨o, get?_load_of_get? hmissing p ho, hshape⟩

theorem note (h : pc.Sound r) {name : String} {p : ProxyClass} (hp : pc.get? name = some p)
    (hunknown : ∀ e ∈ pc.shapes, e.1 ≠ p.request.shape) :
    { pc with shapes := pc.shapes ++ [(p.request.shape, name)] }.Sound r := by
  refine ⟨h.named, h.defined, h.wellMade, h.filled, ?_, ?_⟩
  · intro e he
    rcases List.mem_append.mp he with he | he
    · exact h.recorded e he
    · obtain rfl := List.mem_singleton.mp he
      exact ⟨p, hp, rfl⟩
  · rw [List.map_append]
    refine List.Nodup.append h.once (List.nodup_singleton _) ?_
    intro shape hshape hnew
    obtain ⟨e, he, rfl⟩ := List.mem_map.mp hshape
    exact hunknown e he (List.mem_singleton.mp hnew)

theorem missing_of_assigns (h : pc.Sound r) {q : ProxyRequest} {name : String}
    {pc' : ProxyCompiler} (hassigned : pc.Assigns r q name pc') (hmissing : pc'.get? name = none) :
    (q.name = some name ∧ pc' = pc) ∨
      q.name = none ∧ (∀ e ∈ pc.shapes, e.1 ≠ q.shape) ∧
        ∃ n, pc' = { pc with sequence := n, shapes := pc.shapes ++ [(q.shape, name)] } := by
  cases hassigned with
  | named given => exact .inl ⟨given, rfl⟩
  | recorded unnamed known => exact absurd rfl (h.ne_of_recorded hmissing known)
  | fresh unnamed unknown free => exact .inr ⟨unnamed, unknown, _, rfl⟩

theorem found_of_assigns {q : ProxyRequest} {name : String} {pc' : ProxyCompiler} {p : ProxyClass}
    (hassigned : pc.Assigns r q name pc') (hfound : pc'.get? name = some p) : pc' = pc := by
  cases hassigned with
  | named given => rfl
  | recorded unnamed known => rfl
  | fresh unnamed unknown free =>
      have hmissing : pc.get? name = none := (get?_of_isTaken free).1
      exact absurd (hfound.symm.trans hmissing) nofun

/-- A request has no choice of names when it has a name of its own or a shape that was noted. -/
theorem eq_of_assigns (h : pc.Sound r) {q : ProxyRequest} {name other : String}
    {pc' : ProxyCompiler} (hassigned : pc.Assigns r q other pc')
    (hname : q.name = some name ∨ q.name = none ∧ (q.shape, name) ∈ pc.shapes) :
    other = name ∧ pc' = pc := by
  cases hassigned with
  | named given =>
      rcases hname with hname | ⟨hunnamed, -⟩
      · exact ⟨Option.some.inj (given.symm.trans hname), rfl⟩
      · simp [given] at hunnamed
  | recorded unnamed known =>
      rcases hname with hname | ⟨-, hmem⟩
      · simp [unnamed] at hname
      · exact ⟨congrArg Prod.snd (List.inj_on_of_nodup_map h.once known hmem rfl), rfl⟩
  | fresh unnamed unknown free =>
      rcases hname with hname | ⟨-, hmem⟩
      · simp [unnamed] at hname
      · exact absurd rfl (unknown _ hmem)

theorem load_of_assigns (h : pc.Sound r) {q : ProxyRequest} {name : String} {pc' : ProxyCompiler}
    {p : ProxyClass} (hassigned : pc.Assigns r q name pc') (hmissing : pc'.get? name = none)
    {r' : Registry} (hr : r.Grows r') (hname : p.name = name) (hp : r'.get? name = some p.cls)
    (hmade : p.WellMade) (hrequest : p.request = q) : (pc'.load name p).Sound r' := by
  rcases h.missing_of_assigns hassigned hmissing with ⟨-, rfl⟩ | ⟨-, hunknown, n, rfl⟩
  · exact (h.grows hr).load hmissing hname hp hmade
  · -- the class is there before its shape is noted, so that the shape has a class from the start
    subst hrequest
    have hloaded : (pc.load name p).Sound r' := (h.grows hr).load hmissing hname hp hmade
    exact (hloaded.note (get?_load_self hmissing p) hunknown).withSequence n

theorem release_of_assigns (h : pc.Sound r) {q : ProxyRequest} {name : String}
    {pc' : ProxyCompiler} (hassigned : pc.Assigns r q name pc') (hmissing : pc'.get? name = none) :
    ∃ n, ({ pc' with classes := pc'.classes.make name } : ProxyCompiler).release q name =
      { pc with sequence := n } := by
  rcases h.missing_of_assigns hassigned hmissing with ⟨hnamed, rfl⟩ | ⟨hunnamed, hunknown, n, rfl⟩
  · refine ⟨pc'.sequence, ?_⟩
    simp only [release, hnamed, Cells.dropEmpty_make (h.contains_eq_false hmissing)]
  · refine ⟨n, ?_⟩
    have hkept : pc.shapes.filter (fun e => !(e.1 == q.shape && e.2 == name)) = pc.shapes :=
      List.filter_eq_self.mpr fun e he => by simp [hunknown e he]
    have hdropped : [(q.shape, name)].filter (fun e => !(e.1 == q.shape && e.2 == name)) = [] := by
      simp
    simp only [release, hunnamed, Cells.dropEmpty_make (h.contains_eq_false hmissing),
      List.filter_append, hkept, hdropped, List.append_nil]

end Sound

end ProxyCompiler

namespace Workshop

/-- All that a request for a proxy class can come to. -/
inductive Compiles (w : Workshop) (serial : Nat) (q : ProxyRequest) :
    Except Failure ProxyClass → Workshop → Prop
  | refused {e : Failure} (invalid : checkRequest q = .error e) : Compiles w serial q (.error e) w
  | known {name : String} {pc : ProxyCompiler} {p : ProxyClass}
      (assigned : w.compiler.Assigns w.registry q name pc) (found : pc.get? name = some p) :
      Compiles w serial q (.ok p) { w with compiler := pc }
  | made {name : String} {pc : ProxyCompiler} {c : Class} {methods : List Method} {r : Registry}
      {files : DumpFiles} (assigned : w.compiler.Assigns w.registry q name pc)
      (missing : pc.get? name = none)
      (built : ProxyCompiler.buildClass q name serial = .ok (c, methods))
      (defined : w.registry.insert? c = .ok r) :
      Compiles w serial q (.ok ⟨serial, c, q, methods.map Method.signature⟩)
        ⟨pc.load name ⟨serial, c, q, methods.map Method.signature⟩, r, files⟩
  | failed {name : String} {pc : ProxyCompiler} {e : Failure}
      (assigned : w.compiler.Assigns w.registry q name pc) (missing : pc.get? name = none) :
      Compiles w serial q (.error e)
        { w with compiler :=
            ({ pc with classes := pc.classes.make name } : ProxyCompiler).release q name }

theorem compiles_compile (w : Workshop) (serial : Nat) (q : ProxyRequest) :
    w.Compiles serial q (w.compile serial q).value.1 (w.compile serial q).value.2 := by
  unfold compile
  cases hrequest : checkRequest q with
  | error e => exact .refused hrequest
  | ok u =>
      have hassigned := w.compiler.assigns_assignName w.registry q
      rcases hname : (w.compiler.assignName w.registry q).value with ⟨name, pc⟩
      rw [hname] at hassigned
      simp only [Logged.value_bind, hname]
      cases hfound : pc.classes.get? name with
      | some p => exact .known hassigned hfound
      | none =>
          simp only [Logged.value_bind]
          rcases hmade : (ProxyCompiler.generate pc.dumpDir w.registry w.files serial q name).run.value
            with e | ⟨p, r, files⟩
          · exact .failed hassigned hfound
          · obtain ⟨c, methods, hbuilt, hdefined, rfl⟩ := ProxyCompiler.generate_eq_ok hmade
            exact .made hassigned hfound hbuilt hdefined

namespace Compiles

variable {w w' : Workshop} {serial : Nat} {q : ProxyRequest} {result : Except Failure ProxyClass}

theorem grows (h : w.Compiles serial q result w') : w.registry.Grows w'.registry := by
  cases h with
  | made assigned missing built defined => exact Registry.grows_of_insert? defined
  | _ => exact id

theorem reachable (h : w.Compiles serial q result w') (hw : w.registry.Reachable) :
    w'.registry.Reachable := by
  cases h with
  | made assigned missing built defined => exact .define hw defined
  | _ => exact hw

theorem sound (h : w.Compiles serial q result w') (hw : w.compiler.Sound w.registry) :
    w'.compiler.Sound w'.registry := by
  cases h with
  | refused invalid => exact hw
  | known assigned found =>
      obtain rfl := ProxyCompiler.Sound.found_of_assigns assigned found
      exact hw
  | made assigned missing built defined =>
      have hname := ProxyCompiler.name_of_buildClass built
      exact hw.load_of_assigns assigned missing (Registry.grows_of_insert? defined) hname
        (hname ▸ Registry.get?_of_insert?_self defined)
        (ProxyCompiler.wellMade_of_buildClass built) rfl
  | failed assigned missing =>
      obtain ⟨n, hn⟩ := hw.release_of_assigns assigned missing
      rw [hn]
      exact hw.withSequence n

/-- A request that fails leaves nothing but the numbers that it used up. -/
theorem of_error {e : Failure} (h : w.Compiles serial q (.error e) w')
    (hw : w.compiler.Sound w.registry) :
    ∃ n, w' = { w with compiler := { w.compiler with sequence := n } } := by
  cases h with
  | refused invalid => exact ⟨w.compiler.sequence, rfl⟩
  | failed assigned missing =>
      obtain ⟨n, hn⟩ := hw.release_of_assigns assigned missing
      exact ⟨n, by rw [hn]⟩

theorem get?_of_get? (h : w.Compiles serial q result w') (hw : w.compiler.Sound w.registry)
    {name : String} {p : ProxyClass} (hp : w.compiler.get? name = some p) :
    w'.compiler.get? name = some p := by
  cases h with
  | refused invalid => exact hp
  | known assigned found =>
      obtain rfl := ProxyCompiler.Sound.found_of_assigns assigned found
      exact hp
  | made assigned missing built defined =>
      refine ProxyCompiler.get?_load_of_get? missing _ ?_
      rwa [ProxyCompiler.get?, assigned.classes_eq]
  | failed assigned missing =>
      obtain ⟨n, hn⟩ := hw.release_of_assigns assigned missing
      rw [hn]
      exact hp

/-- A class that was not there before the request has a name that the registry did not know. -/
theorem get?_or_unknown (h : w.Compiles serial q result w') (hw : w.compiler.Sound w.registry)
    {name : String} {p : ProxyClass} (hp : w'.compiler.get? name = some p) :
    w.compiler.get? name = some p ∨ w.registry.get? name = none := by
  cases h with
  | refused invalid => exact .inl hp
  | known assigned found =>
      obtain rfl := ProxyCompiler.Sound.found_of_assigns assigned found
      exact .inl hp
  | made assigned missing built defined =>
      rw [ProxyCompiler.get?_load missing] at hp
      split at hp
      · rename_i hname
        have hfree := (Registry.insert?_eq_ok_iff.mp defined).1
        rw [ProxyCompiler.name_of_buildClass built, ← hname] at hfree
        exact .inr hfree
      · left
        rwa [ProxyCompiler.get?, assigned.classes_eq] at hp
  | failed assigned missing =>
      obtain ⟨n, hn⟩ := hw.release_of_assigns assigned missing
      rw [hn] at hp
      exact .inl hp

theorem get?_of_ok {p : ProxyClass} (h : w.Compiles serial q (.ok p) w')
    (hw : w.compiler.Sound w.registry) : w'.compiler.get? p.name = some p := by
  cases h with
  | known assigned found =>
      obtain rfl := ProxyCompiler.Sound.found_of_assigns assigned found
      rw [hw.named found]
      exact found
  | made assigned missing built defined =>
      have hname := ProxyCompiler.name_of_buildClass built
      rw [ProxyClass.name, hname]
      exact ProxyCompiler.get?_load_self missing _

/-- A valid request by the name of a class that has been made, or of the shape of one that was made
for a request without a name, gets that class and changes nothing. -/
theorem of_get? (h : w.Compiles serial q result w') (hw : w.compiler.Sound w.registry)
    (hvalid : checkRequest q = .ok ()) {name : String} {p : ProxyClass}
    (hp : w.compiler.get? name = some p)
    (hname : q.name = some name ∨ q.name = none ∧ (q.shape, name) ∈ w.compiler.shapes) :
    result = .ok p ∧ w' = w := by
  cases h with
  | refused invalid => simp [hvalid] at invalid
  | known assigned found =>
      obtain ⟨rfl, rfl⟩ := hw.eq_of_assigns assigned hname
      exact ⟨congrArg Except.ok (Option.some.inj (found.symm.trans hp)), rfl⟩
  | made assigned missing built defined =>
      obtain ⟨rfl, rfl⟩ := hw.eq_of_assigns assigned hname
      simp [hp] at missing
  | failed assigned missing =>
      obtain ⟨rfl, rfl⟩ := hw.eq_of_assigns assigned hname
      simp [hp] at missing

end Compiles

end Workshop

end Metaobject
