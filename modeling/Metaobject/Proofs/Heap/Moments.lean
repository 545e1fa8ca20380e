import Metaobject.Proofs.Heap.Running

/-!
# Typed at every moment

A run is more than the heap that it leaves: while it lasts, constructors see objects that are only
partly constructed, and methods and handlers see what their callers have not finished.
`Program.Occurs` relates a program and the heap that it starts on to the heaps before and after each
of its operations, and to those that occur in the bodies that run for its requests. All of them are
typed, however the run ends.
-/

namespace Metaobject

/-! ## Bodies that start -/

/-- On the first heap, answering the request comes to the point where the body starts on the second
heap: the body of a method, the handler of a proxy, or the body of a constructor after those of the
superclasses above. -/
inductive Request.Starts (link : Linkage) (perform : Request → Act Value) (h : Heap) :
    Request → Program → Heap → Prop
  | method {o : ObjectRef} {name : String} {args : List Value} {m : Method} {label : Label} :
      o.cls.selectMethod? name args = some (m, .linked label) →
        Starts link perform h (.invoke o name args) (link label o args) h
  | handler {o : ObjectRef} {name : String} {args : List Value} {m : Method} {handler : Handler} :
      o.cls.selectMethod? name args = some (m, .forward) →
        TypeRef.checkForwarded m.params args = .ok () → h.handler? o = some handler →
          Starts link perform h (.invoke o name args) (handler o m.name args) h
  | superclass {o : ObjectRef} {k : Constructor} {args : List Value} {above below : List Class}
      {c : Class} {j : Constructor} {label : Label} {g : Heap} :
      o.cls.superclassesFromRoot = above ++ c :: below →
        Act.outcome (above.forM (runDefaultConstructor link perform o)) h = (.ok (), g) →
          c.noArgConstructor? = some j → j.body = some label →
            Starts link perform h (.initialise o k args) (link label o []) g
  | constructor {o : ObjectRef} {k : Constructor} {args : List Value} {label : Label} {g : Heap} :
      Act.outcome (o.cls.superclassesFromRoot.forM (runDefaultConstructor link perform o)) h =
          (.ok (), g) →
        k.body = some label → Starts link perform h (.initialise o k args) (link label o args) g

/-- The request that a program starts with. -/
def Program.request? : Program → Option Request
  | .initialise o k args _ => some (.initialise o k args)
  | .invoke o method args _ => some (.invoke o method args)
  | _ => none

/-- While the program runs on the first heap, the second one occurs: at the start, after an operation,
which may also end the run, or inside a body that runs for a request. -/
inductive Program.Occurs (link : Linkage) : Nat → Program → Heap → Heap → Prop
  | start (depth : Nat) (p : Program) (h : Heap) : Occurs link depth p h h
  | halt {depth : Nat} {p : Program} {n : Node} {e : Halt} {h g : Heap} :
      p.node? (nested link depth) = some n → Act.outcome n.act h = (.error e, g) →
        Occurs link depth p h g
  | step {depth : Nat} {p : Program} {n : Node} {a : n.Answer} {h g g' : Heap} :
      p.node? (nested link depth) = some n → Act.outcome n.act h = (.ok a, g) →
        Occurs link depth (n.next a) g g' → Occurs link depth p h g'
  | enter {depth : Nat} {p q : Program} {r : Request} {h g g' : Heap} :
      p.request? = some r → r.Starts link (nested link depth) h q g →
        Occurs link depth q g g' → Occurs link (depth + 1) p h g'

/-- The heap that a run leaves is one that occurs. -/
theorem Program.occurs_outcome (link : Linkage) (depth : Nat) (p : Program) (h : Heap) :
    Occurs link depth p h (Act.outcome (p.run (nested link depth)) h).2 := by
  induction p using Program.node_induction (nested link depth) generalizing h with
  | done v => exact .start depth _ h
  | raise e => exact .start depth _ h
  | node p n hn ih =>
      rw [run_of_node hn, Act.outcome_bind]
      rcases hact : Act.outcome n.act h with ⟨e | a, g⟩
      · exact .halt hn hact
      · exact .step hn hact (ih a g)

/-! ## All of them are typed -/

theorem Program.Within.request {G : FieldGraph} {p : Program} {r : Request} (hp : p.Within G)
    (hr : p.request? = some r) : r.Within G := by
  cases hp with
  | initialise ho hc hk hargs _ =>
      cases hr
      exact ⟨ho, ⟨_, hc, hk⟩, hargs⟩
  | invoke ho hargs _ =>
      cases hr
      exact ⟨ho, hargs⟩
  | _ => cases hr

variable {G : FieldGraph} {link : Linkage} (hlink : link.Within G)
include hlink

theorem Request.Starts.typed {perform : Request → Act Value}
    (hperform : ∀ r, r.Within G → G.Keeps (Act.outcome (perform r)) G.Has) {r : Request}
    {q : Program} {h g : Heap} (hstarts : r.Starts link perform h q g) (hr : r.Within G)
    (hh : h.Typed G) : q.Within G ∧ g.Typed G := by
  cases hstarts with
  | @method o name args m label hselect =>
      obtain ⟨ho, hargs⟩ := hr
      obtain ⟨-, hbody, d, hd, hm⟩ := Class.selectMethod?_eq_some hselect
      exact ⟨hlink label ⟨d, G.mem_of_mem_ancestors ho hd, .inr ⟨m, hm, hbody⟩⟩ o args ho hargs, hh⟩
  | @handler o name args m handler _ _ hhandler =>
      obtain ⟨ho, hargs⟩ := hr
      exact ⟨hh.handler hhandler o m.name args ho hargs, hh⟩
  | @superclass o k args above below c j label g hsplit habove hfind hbody =>
      obtain ⟨ho, -, -⟩ := hr
      have hc : c ∈ o.cls.superclassesFromRoot := by simp [hsplit]
      have hkeeps := keeps_superclasses hlink hperform ho above fun d hd => by simp [hsplit, hd]
      have hg := (hkeeps h hh).1
      rw [habove] at hg
      have hmem : G.Mem c :=
        G.mem_of_mem_ancestors ho (Class.mem_ancestors_of_mem_superclassesFromRoot hc)
      have hj : j ∈ c.constructors := List.mem_of_find?_eq_some hfind
      exact ⟨hlink label ⟨c, hmem, .inl ⟨j, hj, hbody⟩⟩ o [] ho (by simp), hg⟩
  | @constructor o k args label g habove hbody =>
      obtain ⟨ho, ⟨c, hc, hk⟩, hargs⟩ := hr
      have hg := (keeps_superclasses hlink hperform ho _ (fun _ hd => hd) h hh).1
      rw [habove] at hg
      exact ⟨hlink label ⟨c, hc, .inl ⟨k, hk, hbody⟩⟩ o args ho hargs, hg⟩

theorem Program.Occurs.typed {depth : Nat} {p : Program} {h g : Heap}
    (hoccurs : p.Occurs link depth h g) (hp : p.Within G) (hh : h.Typed G) : g.Typed G := by
  induction hoccurs with
  | start => exact hh
  | @halt depth p n e h g hn hact =>
      have hleft := (hp.keeps_node (fun _ => keeps_nested hlink depth) hn h hh).1
      rw [hact] at hleft
      exact hleft
  | @step depth p n a h g g' hn hact _ ih =>
      obtain ⟨hleft, hnext⟩ := hp.keeps_node (fun _ => keeps_nested hlink depth) hn h hh
      rw [hact] at hleft hnext
      exact ih (hnext a rfl) hleft
  | @enter depth p q r h g g' hrequest hstarts _ ih =>
      have hr : r.Within G := hp.request hrequest
      obtain ⟨hq, hg⟩ := hstarts.typed hlink (fun _ => keeps_nested hlink depth) hr hh
      exact ih hq hg

end Metaobject
