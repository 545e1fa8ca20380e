import Metaobject.Proofs.Proxy.Generation

/-!
# Which methods are chosen, and in which order

Interfaces and superclasses offer methods, in a fixed order. A signature is chosen when it is offered
and no class of the superclass chain forbids it, the root included; it stands for the first method
that is offered under it, and the chosen methods keep the order in which they are offered.
-/

namespace Metaobject

namespace Method

/-- What tells methods apart. -/
def key (m : Method) : String × List TypeRef := (m.name, m.params)

theorem sameSignature_iff {m n : Method} : m.sameSignature n = true ↔ m.key = n.key := by
  simp [sameSignature, key]

def isPlain (m : Method) : Bool := !m.isFinal && !m.isSynthetic

theorem isPlain_iff {m : Method} :
    m.isPlain = true ↔ m.isFinal = false ∧ m.isSynthetic = false := by
  simp [isPlain]

end Method

/-! ## First occurrences -/

section Selection

variable {seen ms : List Method} {m n : Method}

theorem selectUnseen_cons_of_skipped (h : n.isPlain = false ∨ ∃ k ∈ seen, k.key = n.key) :
    selectUnseen seen (n :: ms) = selectUnseen seen ms := by
  rw [selectUnseen, if_pos]
  rcases h with hplain | ⟨k, hk, hkey⟩
  · cases hfinal : n.isFinal <;> simp_all [Method.isPlain]
  · have hany : (seen.any fun k => k.sameSignature n) = true :=
      List.any_eq_true.mpr ⟨k, hk, Method.sameSignature_iff.mpr hkey⟩
    simp [hany]

theorem selectUnseen_cons_of_new (hplain : n.isPlain = true) (hnew : ∀ k ∈ seen, k.key ≠ n.key) :
    selectUnseen seen (n :: ms) = n :: selectUnseen (n :: seen) ms := by
  obtain ⟨hfinal, hsynthetic⟩ := Method.isPlain_iff.mp hplain
  have hany : (seen.any fun k => k.sameSignature n) = false := by
    refine List.any_eq_false.mpr fun k hk => ?_
    rw [Method.sameSignature_iff]
    exact hnew k hk
  rw [selectUnseen, if_neg (by simp [hfinal, hsynthetic, hany])]

/-- A method is selected when its signature is new and it is the first plain method of its
signature. -/
theorem mem_selectUnseen_iff : m ∈ selectUnseen seen ms ↔
    (∀ k ∈ seen, k.key ≠ m.key) ∧
      (ms.filter Method.isPlain).find? (fun k => k.key = m.key) = some m := by
  induction ms generalizing seen with
  | nil => simp [selectUnseen]
  | cons n ns ih =>
      cases hplain : n.isPlain with
      | false =>
          rw [selectUnseen_cons_of_skipped (.inl hplain), ih,
            List.filter_cons_of_neg (by simp [hplain])]
      | true =>
          rw [List.filter_cons_of_pos hplain]
          by_cases hseen : ∃ k ∈ seen, k.key = n.key
          · rw [selectUnseen_cons_of_skipped (.inr hseen), ih]
            refine and_congr_right fun hnew => ?_
            -- what has been seen does not have a signature that is new
            obtain ⟨k, hk, hkey⟩ := hseen
            have hne : n.key ≠ m.key := hkey ▸ hnew k hk
            rw [List.find?_cons_of_neg (by simpa using hne)]
          · have hnew : ∀ k ∈ seen, k.key ≠ n.key := by simpa using hseen
            rw [selectUnseen_cons_of_new hplain hnew, List.mem_cons, ih, List.forall_mem_cons]
            by_cases hkey : n.key = m.key
            · rw [List.find?_cons_of_pos (by simpa using hkey)]
              constructor
              · rintro (rfl | ⟨⟨hne, -⟩, -⟩)
                · exact ⟨hnew, rfl⟩
                · exact absurd hkey hne
              · rintro ⟨-, hfirst⟩
                exact .inl (Option.some.inj hfirst).symm
            · rw [List.find?_cons_of_neg (by simpa using hkey)]
              constructor
              · rintro (rfl | ⟨⟨-, hrest⟩, hfirst⟩)
                · exact absurd rfl hkey
                · exact ⟨hrest, hfirst⟩
              · rintro ⟨hrest, hfirst⟩
                exact .inr ⟨⟨hkey, hrest⟩, hfirst⟩

/-- The place of the first method with the signature of the given one. -/
def placeOf (ms : List Method) (m : Method) : Nat := ms.findIdx fun k => k.key = m.key

theorem placeOf_cons_of_ne (h : n.key ≠ m.key) : placeOf (n :: ms) m = placeOf ms m + 1 := by
  rw [placeOf, List.findIdx_cons, decide_eq_false h]
  rfl

theorem placeOf_cons_self (n : Method) (ms : List Method) : placeOf (n :: ms) n = 0 := by
  simp [placeOf, List.findIdx_cons]

/-- A method in front that has none of the signatures moves all places by one. -/
theorem pairwise_placeOf_cons {chosen : List Method}
    (hchosen : chosen.Pairwise fun k l => placeOf ms k < placeOf ms l)
    (hne : ∀ k ∈ chosen, n.key ≠ k.key) :
    chosen.Pairwise fun k l => placeOf (n :: ms) k < placeOf (n :: ms) l := by
  refine hchosen.imp_of_mem fun {k l} hk hl hlt => ?_
  rw [placeOf_cons_of_ne (hne k hk), placeOf_cons_of_ne (hne l hl)]
  omega

theorem pairwise_placeOf_selectUnseen : (selectUnseen seen ms).Pairwise fun k l =>
    placeOf (ms.filter Method.isPlain) k < placeOf (ms.filter Method.isPlain) l := by
  induction ms generalizing seen with
  | nil => exact .nil
  | cons n ns ih =>
      cases hplain : n.isPlain with
      | false =>
          rw [selectUnseen_cons_of_skipped (.inl hplain),
            List.filter_cons_of_neg (by simp [hplain])]
          exact ih
      | true =>
          rw [List.filter_cons_of_pos hplain]
          by_cases hseen : ∃ k ∈ seen, k.key = n.key
          · rw [selectUnseen_cons_of_skipped (.inr hseen)]
            refine pairwise_placeOf_cons ih fun k hk => ?_
            obtain ⟨l, hl, hkey⟩ := hseen
            exact hkey ▸ (mem_selectUnseen_iff.mp hk).1 l hl
          · have hnew : ∀ k ∈ seen, k.key ≠ n.key := by simpa using hseen
            rw [selectUnseen_cons_of_new hplain hnew]
            have hne : ∀ k ∈ selectUnseen (n :: seen) ns, n.key ≠ k.key :=
              fun k hk => (mem_selectUnseen_iff.mp hk).1 n List.mem_cons_self
            refine .cons (fun k hk => ?_) (pairwise_placeOf_cons ih hne)
            rw [placeOf_cons_self, placeOf_cons_of_ne (hne k hk)]
            omega

end Selection

namespace Class

variable {superclass : Class} {interfaces : List Class} {m : Method}

/-! ## What is offered -/

/-- The methods that can be chosen, in order: of each interface its own and those of the interfaces
that it leads to, then the public ones of the superclass chain below the root. -/
def offeredMethods (superclass : Class) (interfaces : List Class) : List Method :=
  ((interfaces.flatMap fun i => i.methods ++ i.allInterfaces.flatMap Class.methods) ++
    superclass.belowRoot.flatMap fun d => d.methods.filter fun m => m.visibility = .pub).filter
      Method.isPlain

/-- The method is declared for overriding by an interface, or in public by a class of the chain. -/
structure Offers (superclass : Class) (interfaces : List Class) (m : Method) : Prop where
  isFinal : m.isFinal = false
  isSynthetic : m.isSynthetic = false
  declared : (∃ i ∈ interfaces, m ∈ i.methods ∨ ∃ j ∈ i.allInterfaces, m ∈ j.methods) ∨
    m.visibility = .pub ∧ ∃ d ∈ superclass.belowRoot, m ∈ d.methods

/-- A class of the chain below the root declares a method of the signature that is final or
synthetic. -/
def Forbids (superclass : Class) (key : String × List TypeRef) : Prop :=
  ∃ d ∈ superclass.belowRoot, ∃ m ∈ d.methods,
    (m.isFinal = true ∨ m.isSynthetic = true) ∧ m.key = key

theorem filter_interceptionCandidates (superclass : Class) (interfaces : List Class) :
    (superclass.interceptionCandidates interfaces).filter Method.isPlain =
      superclass.offeredMethods interfaces := by
  simp [interceptionCandidates, interfaceTypes, chainMethods, offeredMethods, List.flatMap_assoc,
    List.filter_flatMap]

theorem mem_offeredMethods_iff :
    m ∈ superclass.offeredMethods interfaces ↔ superclass.Offers interfaces m := by
  have hinterfaces : (m ∈ interfaces.flatMap fun i => i.methods ++ i.allInterfaces.flatMap methods) ↔
      ∃ i ∈ interfaces, m ∈ i.methods ∨ ∃ j ∈ i.allInterfaces, m ∈ j.methods := by
    simp
  have hchain : (m ∈ superclass.belowRoot.flatMap fun d =>
      d.methods.filter fun m => m.visibility = .pub) ↔
        m.visibility = .pub ∧ ∃ d ∈ superclass.belowRoot, m ∈ d.methods := by
    simp only [List.mem_flatMap, List.mem_filter, decide_eq_true_eq]
    exact ⟨fun ⟨d, hd, hm, hpub⟩ => ⟨hpub, d, hd, hm⟩, fun ⟨hpub, d, hd, hm⟩ => ⟨d, hd, hm, hpub⟩⟩
  rw [offeredMethods, List.mem_filter, List.mem_append, hinterfaces, hchain, Method.isPlain_iff]
  exact ⟨fun ⟨hdeclared, hfinal, hsynthetic⟩ => ⟨hfinal, hsynthetic, hdeclared⟩,
    fun h => ⟨h.declared, h.isFinal, h.isSynthetic⟩⟩

theorem forall_interceptionBlocked_iff {key : String × List TypeRef} :
    (∀ k ∈ superclass.interceptionBlocked, k.key ≠ key) ↔
      ¬ superclass.Forbids key ∧ key ∉ root.methods.map Method.key := by
  rw [interceptionBlocked, List.forall_mem_append]
  refine and_congr ⟨fun h hforbids => ?_, fun h k hk hkey => ?_⟩ (by simp)
  · obtain ⟨d, hd, k, hk, hkind, hkey⟩ := hforbids
    have hchain : k ∈ superclass.chainMethods := List.mem_flatMap.mpr ⟨d, hd, hk⟩
    exact h k (List.mem_filter.mpr ⟨hchain, by simpa using hkind⟩) hkey
  · obtain ⟨hchain, hkind⟩ := List.mem_filter.mp hk
    obtain ⟨d, hd, hk⟩ := List.mem_flatMap.mp hchain
    exact h ⟨d, hd, k, hk, by simpa using hkind, hkey⟩

theorem mem_interceptedMethods_iff : m ∈ superclass.interceptedMethods interfaces ↔
    (¬ superclass.Forbids m.key ∧ m.key ∉ root.methods.map Method.key) ∧
      (superclass.offeredMethods interfaces).find? (fun k => k.key = m.key) = some m := by
  rw [interceptedMethods, mem_selectUnseen_iff, filter_interceptionCandidates,
    forall_interceptionBlocked_iff]

/-- The chosen methods have different signatures. A signature is chosen exactly when some method is
offered under it that is neither final nor synthetic, no class of the superclass chain has a final or
synthetic method of it, and the root has none at all. The method that is chosen for it is the first
one offered, in the order of the interfaces, each followed by those that it leads to, and then of the
superclasses, nearest first; and the methods that are chosen stand in this order. -/
theorem interceptedMethods_first_offered (superclass : Class) (interfaces : List Class) :
    ((superclass.interceptedMethods interfaces).map Method.key).Nodup ∧
    (∀ key, key ∈ (superclass.interceptedMethods interfaces).map Method.key ↔
      (∃ m, superclass.Offers interfaces m ∧ m.key = key) ∧ ¬ superclass.Forbids key ∧
        key ∉ root.methods.map Method.key) ∧
    (∀ m, m ∈ superclass.offeredMethods interfaces ↔ superclass.Offers interfaces m) ∧
    (∀ m ∈ superclass.interceptedMethods interfaces,
      (superclass.offeredMethods interfaces).find? (fun k => k.key = m.key) = some m) ∧
    (superclass.interceptedMethods interfaces).Pairwise fun m n =>
      placeOf (superclass.offeredMethods interfaces) m <
        placeOf (superclass.offeredMethods interfaces) n := by
  refine ⟨nodup_selectUnseen _ _, fun key => ⟨fun hkey => ?_, fun ⟨hoffers, hallowed⟩ => ?_⟩,
    fun m => mem_offeredMethods_iff, fun m hm => (mem_interceptedMethods_iff.mp hm).2, ?_⟩
  · obtain ⟨m, hm, rfl⟩ := List.mem_map.mp hkey
    obtain ⟨hallowed, hfirst⟩ := mem_interceptedMethods_iff.mp hm
    have hoffered := mem_offeredMethods_iff.mp (List.mem_of_find?_eq_some hfirst)
    exact ⟨⟨m, hoffered, rfl⟩, hallowed⟩
  · obtain ⟨m, hm, rfl⟩ := hoffers
    -- the first method that is offered under the signature is chosen for it
    have hexists : ((superclass.offeredMethods interfaces).find? fun k => k.key = m.key).isSome :=
      List.find?_isSome.mpr ⟨m, mem_offeredMethods_iff.mpr hm, by simp⟩
    obtain ⟨n, hn⟩ := Option.isSome_iff_exists.mp hexists
    have hkey : n.key = m.key := by simpa using List.find?_some hn
    refine List.mem_map.mpr ⟨n, mem_interceptedMethods_iff.mpr ?_, hkey⟩
    rw [hkey]
    exact ⟨hallowed, hn⟩
  · rw [← filter_interceptionCandidates]
    exact pairwise_placeOf_selectUnseen

end Class

end Metaobject
