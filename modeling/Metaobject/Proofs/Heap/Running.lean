import Metaobject.Proofs.Dispatch
import Metaobject.Proofs.Heap.Typing
import Metaobject.Proofs.Outcome

/-!
# Bodies keep the heap typed

`FieldGraph.Keeps` is what a computation on the heap does for typing: it leaves a typed heap typed,
however it ends, and when it ends with a value, the value is as stated. A program is at its end, or it
is an operation that the rest of the program follows: `Program.node?`. Programs within the graph keep
the heap typed as long as the requests that they make do, and by induction on the depth all requests
do.
-/

namespace Metaobject

/-- The computation leaves a typed heap typed, and ends with a value as stated, if with any. -/
def FieldGraph.Keeps (G : FieldGraph) {ε α : Type} (x : Heap → Except ε α × Heap)
    (post : α → Prop) : Prop :=
  ∀ h, h.Typed G → (x h).2.Typed G ∧ ∀ a, (x h).1 = .ok a → post a

namespace Act

variable {G : FieldGraph} {α β : Type} {P : α → Prop} {Q : β → Prop}

theorem keeps_pure {a : α} (ha : P a) : G.Keeps (outcome (pure a)) P := by
  intro h hh
  refine ⟨hh, fun b hb => ?_⟩
  obtain rfl := Except.ok.inj hb
  exact ha

theorem keeps_throw (e : Halt) : G.Keeps (outcome (throw e : Act α)) P :=
  fun _ hh => ⟨hh, nofun⟩

theorem keeps_bind {x : Act α} {f : α → Act β} (hx : G.Keeps (outcome x) P)
    (hf : ∀ a, P a → G.Keeps (outcome (f a)) Q) : G.Keeps (outcome (x >>= f)) Q := by
  intro h hh
  obtain ⟨hleft, hpost⟩ := hx h hh
  rw [outcome_bind]
  rcases hrun : outcome x h with ⟨e | a, h'⟩
  · rw [hrun] at hleft
    exact ⟨hleft, nofun⟩
  · rw [hrun] at hleft hpost
    exact hf a (hpost a rfl) h' hleft

theorem keeps_attempt {x : Act α} (hx : G.Keeps (outcome x) P) :
    G.Keeps (outcome x.attempt) fun answer => ∀ a, answer = .ok a → P a := by
  intro h hh
  obtain ⟨hleft, hpost⟩ := hx h hh
  rw [outcome_attempt]
  rcases hrun : outcome x h with ⟨(e | _) | a, h'⟩ <;> rw [hrun] at hleft hpost
  · refine ⟨hleft, fun answer hanswer a ha => ?_⟩
    obtain rfl := Except.ok.inj hanswer
    cases ha
  · exact ⟨hleft, nofun⟩
  · refine ⟨hleft, fun answer hanswer b hb => ?_⟩
    obtain rfl := Except.ok.inj hanswer
    obtain rfl := Except.ok.inj hb
    exact hpost a rfl

theorem keeps_modifyGet {f : Heap → α × Heap} (hf : ∀ h, h.Typed G → (f h).2.Typed G ∧ P (f h).1) :
    G.Keeps (outcome (modifyGet f)) P := by
  intro h hh
  obtain ⟨hleft, hpost⟩ := hf h hh
  refine ⟨hleft, fun a ha => ?_⟩
  obtain rfl := Except.ok.inj ha
  exact hpost

theorem keeps_get : G.Keeps (outcome get) (Heap.Typed G) := by
  intro h hh
  refine ⟨hh, fun a ha => ?_⟩
  obtain rfl := Except.ok.inj ha
  exact hh

theorem keeps_ofExcept {x : Except Exception α} (hx : ∀ a, x = .ok a → P a) :
    G.Keeps (outcome (ofExcept x)) P := by
  cases x with
  | error e => exact keeps_throw _
  | ok a => exact keeps_pure (hx a rfl)

theorem keeps_discard {x : Act α} (hx : G.Keeps (outcome x) P) :
    G.Keeps (outcome (discard x)) fun _ => True := by
  intro h hh
  rw [outcome_discard]
  exact ⟨(hx h hh).1, fun _ _ => trivial⟩

theorem keeps_forM {xs : List α} {f : α → Act PUnit}
    (hf : ∀ x ∈ xs, G.Keeps (outcome (f x)) fun _ => True) :
    G.Keeps (outcome (xs.forM f)) fun _ => True := by
  induction xs with
  | nil => exact keeps_pure trivial
  | cons x xs ih =>
      obtain ⟨hfirst, hrest⟩ := List.forall_mem_cons.mp hf
      exact keeps_bind hfirst fun _ _ => ih hrest

end Act

/-! ## Programs as operations with a rest -/

namespace Program

/-- An operation, and the rest of the program for each of its answers. -/
structure Node where
  Answer : Type
  act : Act Answer
  next : Answer → Program

variable (perform : Request → Act Value)

/-- The first operation of a program that is not at its end. -/
def node? : Program → Option Node
  | .done _ => none
  | .raise _ => none
  | .record text next => some ⟨_, modify fun h => h.record text, fun _ => next⟩
  | .getField o name next => some ⟨_, modifyGet fun h => (h.getField o name, h), next⟩
  | .setField o name v next =>
      some ⟨_, modifyGet fun h => match h.setField o name v with
        | .ok h => (.ok (), h)
        | .error e => (.error e, h), next⟩
  | .readSlot o owner name next =>
      some ⟨_, modifyGet fun h => (h.readSlot o ⟨owner, name⟩, h), next⟩
  | .writeSlot o owner name v next =>
      some ⟨_, modifyGet fun h => match h.writeSlot o ⟨owner, name⟩ v with
        | some h => (true, h)
        | none => (false, h), next⟩
  | .bindHandler o handler next =>
      some ⟨_, modifyGet fun h => match h.bindHandler o handler with
        | .ok h => (true, h)
        | .error _ => (false, h), next⟩
  | .allocate c next => some ⟨_, modifyGet fun h => h.allocate c, next⟩
  | .initialise o k args next =>
      some ⟨_, (perform (.initialise o k args)).attempt, fun answer => next (answer.map fun _ => ())⟩
  | .invoke o method args next => some ⟨_, (perform (.invoke o method args)).attempt, next⟩

/-- What holds at the ends, and of a program whenever it holds of all its rests, holds of all
programs. -/
@[elab_as_elim]
theorem node_induction {motive : Program → Prop} (done : ∀ v, motive (.done v))
    (raise : ∀ e, motive (.raise e))
    (node : ∀ p n, p.node? perform = some n → (∀ a, motive (n.next a)) → motive p)
    (p : Program) : motive p := by
  induction p with
  | done v => exact done v
  | raise e => exact raise e
  | record text next ih => exact node _ _ rfl fun _ => ih
  | getField o name next ih => exact node _ _ rfl ih
  | setField o name v next ih => exact node _ _ rfl ih
  | readSlot o owner name next ih => exact node _ _ rfl ih
  | writeSlot o owner name v next ih => exact node _ _ rfl ih
  | bindHandler o handler next _ ih => exact node _ _ rfl ih
  | allocate c next ih => exact node _ _ rfl ih
  | initialise o k args next ih => exact node _ _ rfl fun answer => ih (answer.map fun _ => ())
  | invoke o method args next ih => exact node _ _ rfl ih

variable {perform}

theorem run_of_node {p : Program} {n : Node} (h : p.node? perform = some n) :
    p.run perform = n.act >>= fun a => (n.next a).run perform := by
  cases p <;> cases h <;> rfl

end Program

/-! ## Programs within the graph -/

variable {G : FieldGraph}

/-- The request is about an object and values of the graph. -/
def Request.Within (G : FieldGraph) : Request → Prop
  | .invoke o _ args => G.Mem o.cls ∧ ∀ v ∈ args, G.Has v
  | .initialise o k args =>
      G.Mem o.cls ∧ (∃ c, G.Mem c ∧ k ∈ c.constructors) ∧ ∀ v ∈ args, G.Has v

namespace Program.Within

variable {perform : Request → Act Value}
  (hperform : ∀ r, r.Within G → G.Keeps (Act.outcome (perform r)) G.Has)
include hperform

theorem keeps_node {p : Program} (hp : p.Within G) {n : Node} (hn : p.node? perform = some n) :
    G.Keeps (Act.outcome n.act) fun a => (n.next a).Within G := by
  cases hp with
  | done hv => cases hn
  | raise e => cases hn
  | @record text next hnext =>
      cases hn
      exact Act.keeps_modifyGet fun h hh => ⟨hh.record text, hnext⟩
  | getField ho hnext =>
      cases hn
      exact Act.keeps_modifyGet fun h hh => ⟨hh, hnext _ fun v hv => hh.has_of_getField hv⟩
  | @setField o name v next ho hv hnext =>
      cases hn
      refine Act.keeps_modifyGet fun h hh => ?_
      cases hset : h.setField o name v with
      | error e => exact ⟨hh, hnext _⟩
      | ok h' => exact ⟨hh.setField ho hv hset, hnext _⟩
  | readSlot hnext =>
      cases hn
      exact Act.keeps_modifyGet fun h hh => ⟨hh, hnext _ fun v hv => hh.has_of_readSlot hv⟩
  | @writeSlot o d f v next hd hf haccepts hv hnext =>
      cases hn
      refine Act.keeps_modifyGet fun h hh => ?_
      cases hwrite : h.writeSlot o ⟨d.name, f.name⟩ v with
      | none => exact ⟨hh, hnext _⟩
      | some h' => exact ⟨hh.writeSlot (G.admits_of_accepts hd hf hv haccepts) hwrite, hnext _⟩
  | @bindHandler o handler next hhandler hnext =>
      cases hn
      refine Act.keeps_modifyGet fun h hh => ?_
      cases hbind : h.bindHandler o handler with
      | error _ => exact ⟨hh, hnext _⟩
      | ok h' => exact ⟨hh.bindHandler hhandler hbind, hnext _⟩
  | allocate hc hnext =>
      cases hn
      exact Act.keeps_modifyGet fun h hh => ⟨hh.allocate hc, hnext _ rfl⟩
  | @initialise o c k args next ho hc hk hargs hnext =>
      cases hn
      have hkeeps := Act.keeps_attempt (hperform (.initialise o k args) ⟨ho, ⟨c, hc, hk⟩, hargs⟩)
      exact fun h hh => ⟨(hkeeps h hh).1, fun answer _ => hnext _⟩
  | @invoke o method args next ho hargs hnext =>
      cases hn
      have hkeeps := Act.keeps_attempt (hperform (.invoke o method args) ⟨ho, hargs⟩)
      exact fun h hh => ⟨(hkeeps h hh).1, fun answer ha => hnext _ ((hkeeps h hh).2 answer ha)⟩

theorem keeps_run {p : Program} (hp : p.Within G) :
    G.Keeps (Act.outcome (p.run perform)) G.Has := by
  induction p using Program.node_induction perform with
  | done v =>
      cases hp with
      | done hv => exact Act.keeps_pure hv
  | raise e => exact Act.keeps_throw _
  | node p n hn ih =>
      rw [run_of_node hn]
      exact Act.keeps_bind (hp.keeps_node hperform hn) fun a ha => ih a ha

end Program.Within

/-! ## Requests -/

theorem Class.mem_ancestors_of_mem_superclassesFromRoot {c d : Class}
    (h : d ∈ c.superclassesFromRoot) : d ∈ c.ancestors :=
  List.mem_of_mem_tail (List.mem_reverse.mp h)

/-- The routine is the body of a constructor or of a method of a class of the graph. -/
def FieldGraph.Runs (G : FieldGraph) (label : Label) : Prop :=
  ∃ c, G.Mem c ∧ ((∃ k ∈ c.constructors, k.body = some label) ∨
    ∃ m ∈ c.methods, m.body = some (.linked label))

def Linkage.Within (G : FieldGraph) (link : Linkage) : Prop :=
  ∀ label, G.Runs label → ∀ this args, G.Mem this.cls → (∀ v ∈ args, G.Has v) →
    (link label this args).Within G

theorem FieldGraph.has_of_convertResult {t : TypeRef} {v r : Value} (hv : G.Has v)
    (h : t.convertResult v = .ok r) : G.Has r := by
  have hnull : G.Has .null := G.has_of_object?_eq_none rfl
  have hcase : r = .null ∨ r = v := by
    cases t with
    | void => exact .inl (Except.ok.inj h).symm
    | primitive p =>
        simp only [TypeRef.convertResult] at h
        split at h
        · cases h
        · split at h
          · exact .inr (Except.ok.inj h).symm
          · cases h
    | _ =>
        simp only [TypeRef.convertResult] at h
        split at h
        · exact .inr (Except.ok.inj h).symm
        · cases h
  rcases hcase with rfl | rfl
  · exact hnull
  · exact hv

section Requests

variable {link : Linkage} (hlink : link.Within G) {perform : Request → Act Value}
  (hperform : ∀ r, r.Within G → G.Keeps (Act.outcome (perform r)) G.Has)
include hlink hperform

theorem keeps_runBody {c : Class} (hc : G.Mem c) {m : Method} (hm : m ∈ c.methods)
    {body : MethodBody} (hbody : m.body = some body) {this : ObjectRef} (hthis : G.Mem this.cls)
    {args : List Value} (hargs : ∀ v ∈ args, G.Has v) :
    G.Keeps (Act.outcome (runBody link perform m body this args)) G.Has := by
  cases body with
  | linked label =>
      have hwithin := hlink label ⟨c, hc, .inr ⟨m, hm, hbody⟩⟩ this args hthis hargs
      exact hwithin.keeps_run hperform
  | sameObject => exact Act.keeps_pure (G.has_of_object?_eq_none rfl)
  | identityHash => exact Act.keeps_pure (G.has_of_object?_eq_none rfl)
  | identityText => exact Act.keeps_pure (G.has_of_object?_eq_none rfl)
  | forward =>
      refine Act.keeps_bind (P := fun _ => True) (Act.keeps_ofExcept fun _ _ => trivial) fun _ _ => ?_
      refine Act.keeps_bind Act.keeps_get fun h hh => ?_
      cases hhandler : h.handler? this with
      | none => exact Act.keeps_throw _
      | some handler =>
          have hwithin := hh.handler hhandler this m.name args hthis hargs
          refine Act.keeps_bind (hwithin.keeps_run hperform) fun v hv => ?_
          exact Act.keeps_ofExcept fun r hr => FieldGraph.has_of_convertResult hv hr

theorem keeps_runConstructor {c : Class} (hc : G.Mem c) {k : Constructor} (hk : k ∈ c.constructors)
    {this : ObjectRef} (hthis : G.Mem this.cls) {args : List Value} (hargs : ∀ v ∈ args, G.Has v) :
    G.Keeps (Act.outcome (runConstructor link perform this k args)) fun _ => True := by
  unfold runConstructor
  cases hbody : k.body with
  | none => exact Act.keeps_pure trivial
  | some label =>
      have hwithin := hlink label ⟨c, hc, .inl ⟨k, hk, hbody⟩⟩ this args hthis hargs
      exact Act.keeps_discard (hwithin.keeps_run hperform)

theorem keeps_runDefaultConstructor {c : Class} (hc : G.Mem c) {this : ObjectRef}
    (hthis : G.Mem this.cls) :
    G.Keeps (Act.outcome (runDefaultConstructor link perform this c)) fun _ => True := by
  unfold runDefaultConstructor
  cases hfind : c.noArgConstructor? with
  | none => exact Act.keeps_throw _
  | some k =>
      have hk : k ∈ c.constructors := List.mem_of_find?_eq_some hfind
      exact keeps_runConstructor hlink hperform hc hk hthis (by simp)

theorem keeps_superclasses {o : ObjectRef} (ho : G.Mem o.cls) (cs : List Class)
    (hcs : ∀ c ∈ cs, c ∈ o.cls.superclassesFromRoot) :
    G.Keeps (Act.outcome (cs.forM (runDefaultConstructor link perform o))) fun _ => True := by
  refine Act.keeps_forM fun c hc => ?_
  have hmem : c ∈ o.cls.ancestors := Class.mem_ancestors_of_mem_superclassesFromRoot (hcs c hc)
  exact keeps_runDefaultConstructor hlink hperform (G.mem_of_mem_ancestors ho hmem) ho

theorem keeps_performWith {r : Request} (hr : r.Within G) :
    G.Keeps (Act.outcome (performWith link perform r)) G.Has := by
  cases r with
  | invoke o method args =>
      obtain ⟨ho, hargs⟩ := hr
      rw [performWith]
      cases hselect : o.cls.selectMethod? method args with
      | none => exact Act.keeps_throw _
      | some selected =>
          obtain ⟨m, body⟩ := selected
          obtain ⟨-, hbody, d, hd, hm⟩ := Class.selectMethod?_eq_some hselect
          exact keeps_runBody hlink hperform (G.mem_of_mem_ancestors ho hd) hm hbody ho hargs
  | initialise o k args =>
      obtain ⟨ho, ⟨c, hc, hk⟩, hargs⟩ := hr
      rw [performWith]
      refine Act.keeps_bind (keeps_superclasses hlink hperform ho _ fun _ hd => hd) fun _ _ => ?_
      refine Act.keeps_bind (keeps_runConstructor hlink hperform hc hk ho hargs) fun _ _ => ?_
      exact Act.keeps_pure (G.has_of_object?_eq_none rfl)

end Requests

theorem keeps_perform {link : Linkage} (hlink : link.Within G) (depth : Nat) {r : Request}
    (hr : r.Within G) : G.Keeps (Act.outcome (perform link depth r)) G.Has := by
  induction depth generalizing r with
  | zero => exact keeps_performWith hlink (fun _ _ => Act.keeps_throw _) hr
  | succ depth ih => exact keeps_performWith hlink (fun _ => ih) hr

theorem keeps_nested {link : Linkage} (hlink : link.Within G) (depth : Nat) {r : Request}
    (hr : r.Within G) : G.Keeps (Act.outcome (nested link depth r)) G.Has := by
  cases depth with
  | zero => exact Act.keeps_throw _
  | succ depth => exact keeps_perform hlink depth hr

end Metaobject
