import Metaobject.Proofs.Heap.Moments

/-!
# The heaps of a run in order

`Program.moments` lists the heaps that a run passes through: the one before each operation, those in
the bodies that run for a request, in the order in which they run, and the one at the end. It begins
with the heap that the run starts on, ends with the one that it leaves, and has all that occur.
-/

namespace Metaobject

section Bodies

variable (link : Linkage) (perform : Request → Act Value) (body : Program → Heap → List Heap)

/-- The heaps of the body of a constructor. -/
def Constructor.passes (o : ObjectRef) (k : Constructor) (args : List Value) (h : Heap) :
    List Heap :=
  match k.body with
  | none => []
  | some label => body (link label o args) h

/-- The heaps of the bodies of the constructors without parameters of classes, up to the first that
fails. -/
def superclassPasses (o : ObjectRef) : List Class → Heap → List Heap
  | [], _ => []
  | c :: cs, h =>
      (c.noArgConstructor?.elim [] fun k => k.passes link body o [] h) ++
        match Act.outcome (runDefaultConstructor link perform o c) h with
        | (.ok _, g) => superclassPasses o cs g
        | (.error _, _) => []

/-- The heaps of the bodies that run for a request. -/
def Request.passes : Request → Heap → List Heap
  | .invoke o name args, h =>
      match o.cls.selectMethod? name args with
      | some (_, .linked label) => body (link label o args) h
      | some (m, .forward) =>
          match TypeRef.checkForwarded m.params args, h.handler? o with
          | .ok _, some handler => body (handler o m.name args) h
          | _, _ => []
      | _ => []
  | .initialise o k args, h =>
      superclassPasses link perform body o o.cls.superclassesFromRoot h ++
        match Act.outcome (o.cls.superclassesFromRoot.forM (runDefaultConstructor link perform o)) h
          with
        | (.ok _, g) => k.passes link body o args g
        | (.error _, _) => []

end Bodies

/-- The heaps from the end of an operation on: those of what follows it, or the last one. -/
def Act.onward {α : Type} (next : α → Heap → List Heap) : Except Halt α × Heap → List Heap
  | (.ok a, g) => next a g
  | (.error _, g) => [g]

namespace Program

/-- The heaps of a program, given those of the bodies that run for its requests. -/
def passes (perform : Request → Act Value) (inside : Request → Heap → List Heap) :
    Program → Heap → List Heap
  | .done _, h => [h]
  | .raise _, h => [h]
  | .record text next, h => h :: next.passes perform inside (h.record text)
  | .getField o name next, h => h :: (next (h.getField o name)).passes perform inside h
  | .setField o name v next, h => h :: match h.setField o name v with
      | .ok g => (next (.ok ())).passes perform inside g
      | .error e => (next (.error e)).passes perform inside h
  | .readSlot o owner name next, h =>
      h :: (next (h.readSlot o ⟨owner, name⟩)).passes perform inside h
  | .writeSlot o owner name v next, h => h :: match h.writeSlot o ⟨owner, name⟩ v with
      | some g => (next true).passes perform inside g
      | none => (next false).passes perform inside h
  | .bindHandler o handler next, h => h :: match h.bindHandler o handler with
      | .ok g => (next true).passes perform inside g
      | .error _ => (next false).passes perform inside h
  | .allocate c next, h => h :: (next (h.allocate c).1).passes perform inside (h.allocate c).2
  | .initialise o k args next, h => h :: (inside (.initialise o k args) h ++
      Act.onward (fun answer => (next (answer.map fun _ => ())).passes perform inside)
        (Act.outcome (perform (.initialise o k args)).attempt h))
  | .invoke o method args next, h => h :: (inside (.invoke o method args) h ++
      Act.onward (fun answer => (next answer).passes perform inside)
        (Act.outcome (perform (.invoke o method args)).attempt h))

/-- The heaps that a run passes through, in order. -/
def moments (link : Linkage) : Nat → Program → Heap → List Heap
  | 0 => passes (nested link 0) fun _ _ => []
  | depth + 1 =>
      passes (nested link (depth + 1)) (Request.passes link (nested link depth) (moments link depth))

variable {perform : Request → Act Value} {inside : Request → Heap → List Heap}

theorem passes_of_node {p : Program} {n : Node} (hn : p.node? perform = some n) (h : Heap) :
    p.passes perform inside h =
      h :: ((p.request?.elim [] fun r => inside r h) ++
        Act.onward (fun a => (n.next a).passes perform inside) (Act.outcome n.act h)) := by
  cases p with
  | done v => cases hn
  | raise e => cases hn
  | setField o name v next =>
      cases hn
      rw [passes, Act.outcome_modifyGet]
      cases h.setField o name v <;> rfl
  | writeSlot o owner name v next =>
      cases hn
      rw [passes, Act.outcome_modifyGet]
      cases h.writeSlot o ⟨owner, name⟩ v <;> rfl
  | bindHandler o handler next =>
      cases hn
      rw [passes, Act.outcome_modifyGet]
      cases h.bindHandler o handler <;> rfl
  | _ =>
      cases hn
      rfl

/-! ## Beginning and end -/

theorem head?_passes (p : Program) (h : Heap) : (p.passes perform inside h).head? = some h := by
  induction p using node_induction perform with
  | done v => rfl
  | raise e => rfl
  | node p n hn _ => rw [passes_of_node hn, List.head?_cons]

theorem getLast?_passes (p : Program) (h : Heap) :
    (p.passes perform inside h).getLast? = some (Act.outcome (p.run perform) h).2 := by
  induction p using node_induction perform generalizing h with
  | done v => rfl
  | raise e => rfl
  | node p n hn ih =>
      rw [passes_of_node hn, run_of_node hn, Act.outcome_bind]
      rcases Act.outcome n.act h with ⟨e | a, g⟩
      · simp [Act.onward, List.getLast?_cons]
      · simp [Act.onward, List.getLast?_cons, ih a g]

theorem head?_moments (link : Linkage) (depth : Nat) (p : Program) (h : Heap) :
    (p.moments link depth h).head? = some h := by
  cases depth <;> exact p.head?_passes h

theorem getLast?_moments (link : Linkage) (depth : Nat) (p : Program) (h : Heap) :
    (p.moments link depth h).getLast? = some (Act.outcome (p.run (nested link depth)) h).2 := by
  cases depth <;> exact p.getLast?_passes h

end Program

/-! ## All that occurs is listed -/

theorem mem_superclassPasses {link : Linkage} {perform : Request → Act Value}
    {body : Program → Heap → List Heap} {o : ObjectRef} {above below : List Class} {c : Class}
    {j : Constructor} {h g x : Heap}
    (habove : Act.outcome (above.forM (runDefaultConstructor link perform o)) h = (.ok (), g))
    (hfind : c.noArgConstructor? = some j) (hx : x ∈ j.passes link body o [] g) :
    x ∈ superclassPasses link perform body o (above ++ c :: below) h := by
  induction above generalizing h with
  | nil =>
      obtain rfl : h = g := congrArg Prod.snd habove
      simp [superclassPasses, hfind, hx]
  | cons d above ih =>
      rw [List.forM_eq_forM, List.forM_cons, Act.outcome_bind] at habove
      rw [List.cons_append, superclassPasses]
      rcases hrun : Act.outcome (runDefaultConstructor link perform o d) h with ⟨e | u, h'⟩
      · rw [hrun] at habove
        cases habove
      · rw [hrun] at habove
        exact List.mem_append_right _ (ih habove)

theorem Request.Starts.mem_passes {link : Linkage} {perform : Request → Act Value}
    {body : Program → Heap → List Heap} {r : Request} {q : Program} {h g x : Heap}
    (hstarts : r.Starts link perform h q g) (hx : x ∈ body q g) :
    x ∈ r.passes link perform body h := by
  cases hstarts with
  | method hselect =>
      rw [passes, hselect]
      exact hx
  | handler hselect hcheck hhandler =>
      rw [passes, hselect]
      simpa only [hcheck, hhandler] using hx
  | @superclass o k args above below c j label _ hsplit habove hfind hbody =>
      refine List.mem_append_left _ ?_
      rw [hsplit]
      refine mem_superclassPasses habove hfind ?_
      rw [Constructor.passes, hbody]
      exact hx
  | constructor habove hbody =>
      refine List.mem_append_right _ ?_
      rw [habove]
      simpa only [Constructor.passes, hbody] using hx

theorem Program.mem_moments_of_node {link : Linkage} {depth : Nat} {p : Program} {n : Program.Node}
    (hn : p.node? (nested link depth) = some n) {h x : Heap}
    (hx : x ∈ Act.onward (fun a => (n.next a).moments link depth) (Act.outcome n.act h)) :
    x ∈ p.moments link depth h := by
  cases depth <;>
    (rw [moments, passes_of_node hn]
     exact List.mem_cons_of_mem _ (List.mem_append_right _ hx))

theorem Program.Occurs.mem_moments {link : Linkage} {depth : Nat} {p : Program} {h g : Heap}
    (hoccurs : p.Occurs link depth h g) : g ∈ p.moments link depth h := by
  induction hoccurs with
  | start depth p h => exact List.mem_of_head? (p.head?_moments link depth h)
  | halt hn hact =>
      refine mem_moments_of_node hn ?_
      rw [hact]
      exact List.mem_singleton_self _
  | step hn hact _ ih =>
      refine mem_moments_of_node hn ?_
      rw [hact]
      exact ih
  | @enter depth p q r h g g' hrequest hstarts _ ih =>
      -- what occurs in a body is among the heaps inside the request that starts it
      have hinside := hstarts.mem_passes ih
      obtain ⟨n, hn⟩ : ∃ n, p.node? (nested link (depth + 1)) = some n := by
        cases p <;> cases hrequest <;> exact ⟨_, rfl⟩
      rw [moments, passes_of_node hn, hrequest]
      exact List.mem_cons_of_mem _ (List.mem_append_left _ hinside)

end Metaobject
