import Mathlib.Data.List.Nodup
import Mathlib.Data.List.Perm.Subperm
import Metaobject.Proofs.Resolution
import Metaobject.Proxy.Compiler

/-!
# Generated names

Names with different numbers differ, and there are more numbers to try than names that can be taken,
so a generated name is always free. `ProxyCompiler.Assigns` says which names a request can be given
and what it changes in the compiler.
-/

namespace Metaobject

/-! ## Free numbers -/

/-- The number that is found is free, unless more numbers in a row are taken than are tried. -/
theorem leastFree_free_or_taken (taken : Nat → Bool) (fuel i : Nat) :
    taken (leastFree taken fuel i) = false ∨ ∀ j ≤ fuel, taken (i + j) = true := by
  induction fuel generalizing i with
  | zero =>
      cases h : taken i with
      | false => exact .inl h
      | true =>
          right
          intro j hj
          obtain rfl : j = 0 := by omega
          exact h
  | succ fuel ih =>
      rw [leastFree]
      by_cases h : taken i = true
      · rw [if_pos h]
        refine (ih (i + 1)).imp_right fun htaken j hj => ?_
        cases j with
        | zero => exact h
        | succ j => simpa [Nat.add_assoc, Nat.add_comm 1 j] using htaken j (by omega)
      · rw [if_neg h]
        exact .inl (by simpa using h)

namespace ProxyCompiler

theorem numbered_injective (pc : ProxyCompiler) (base : String) :
    Function.Injective (pc.numbered base) := by
  intro i j h
  have hdigits : toString i = toString j := by
    simpa [numbered] using h
  have hlist := congrArg (fun s : String => Nat.ofDigitChars 10 s.toList 0) hdigits
  simpa [Nat.toString_eq_ofList_toDigits] using hlist

/-- The names that are taken are as many as there are cells and classes at most, so the number of
the next name is free. -/
theorem isTaken_nextNumber (pc : ProxyCompiler) (r : Registry) (base : String) :
    pc.isTaken r (pc.numbered base (pc.nextNumber r base)) = false := by
  rcases leastFree_free_or_taken (fun i => pc.isTaken r (pc.numbered base i))
    (pc.classes.size + r.size) pc.sequence with hfree | htaken
  · exact hfree
  · -- all names that were tried are taken, but there are not so many that are
    exfalso
    let tried := (List.range (pc.classes.size + r.size + 1)).map fun j =>
      pc.numbered base (pc.sequence + j)
    let used := pc.classes.entries.map Prod.fst ++ r.classes.map Class.name
    have hnodup : tried.Nodup :=
      List.Nodup.map (fun i j hij => Nat.add_left_cancel (pc.numbered_injective base hij))
        List.nodup_range
    have hsub : tried ⊆ used := by
      intro name hname
      obtain ⟨j, hj, rfl⟩ := List.mem_map.mp hname
      have hj' := htaken j (by simpa [Nat.lt_succ_iff] using hj)
      rw [isTaken, Bool.or_eq_true, Cells.contains_iff_mem, Registry.contains_iff_mem] at hj'
      exact List.mem_append.mpr hj'
    have hlength := (hnodup.subperm hsub).length_le
    simp only [tried, used, List.length_map, List.length_range, List.length_append, Cells.size,
      Registry.size] at hlength
    omega

/-! ## Assigned names -/

/-- The name that a request is given, and the compiler after that: a name of its own, the name that
its shape has been given, or a name that is free and is noted. -/
inductive Assigns (pc : ProxyCompiler) (r : Registry) (q : ProxyRequest) :
    String → ProxyCompiler → Prop
  | named {name : String} (given : q.name = some name) : Assigns pc r q name pc
  | recorded {name : String} (unnamed : q.name = none) (known : (q.shape, name) ∈ pc.shapes) :
      Assigns pc r q name pc
  | fresh {name : String} {n : Nat} (unnamed : q.name = none)
      (unknown : ∀ e ∈ pc.shapes, e.1 ≠ q.shape) (free : pc.isTaken r name = false) :
      Assigns pc r q name { pc with sequence := n, shapes := pc.shapes ++ [(q.shape, name)] }

theorem mem_shapes_of_lookup {pc : ProxyCompiler} {q : ProxyRequest} {name : String}
    (h : pc.shapes.lookup q.shape = some name) : (q.shape, name) ∈ pc.shapes := by
  obtain ⟨before, after, hshapes, -⟩ := List.lookup_eq_some_iff.mp h
  simp [hshapes]

theorem assigns_assignName (pc : ProxyCompiler) (r : Registry) (q : ProxyRequest) :
    pc.Assigns r q (pc.assignName r q).value.1 (pc.assignName r q).value.2 := by
  unfold assignName
  cases hname : q.name with
  | some name => exact .named hname
  | none =>
      cases hshape : pc.shapes.lookup q.shape with
      | some name => exact .recorded hname (mem_shapes_of_lookup hshape)
      | none =>
          have hunknown : ∀ e ∈ pc.shapes, e.1 ≠ q.shape := by
            intro e he heq
            simpa [heq] using List.lookup_eq_none_iff.mp hshape e he
          exact .fresh hname hunknown (pc.isTaken_nextNumber r (baseName q))

theorem Assigns.named_or_noted {pc pc' : ProxyCompiler} {r : Registry} {q : ProxyRequest}
    {name : String} (h : pc.Assigns r q name pc') :
    q.name = some name ∨ q.name = none ∧ (q.shape, name) ∈ pc'.shapes := by
  cases h with
  | named given => exact .inl given
  | recorded unnamed known => exact .inr ⟨unnamed, known⟩
  | fresh unnamed unknown free => exact .inr ⟨unnamed, List.mem_append_right _ (.head _)⟩

end ProxyCompiler

end Metaobject
