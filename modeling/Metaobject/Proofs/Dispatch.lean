import Metaobject.Proofs.Building
import Metaobject.Proofs.Outcome
import Metaobject.Proofs.Subtyping

/-!
# Which body a call runs

The body that a call runs belongs to a method of the superclass chain that accepts the arguments. The
methods of the class itself come first, and where none of them accepts, the call runs what it would
run on an instance of the superclass. Methods that accept but have no body are passed over, and where
only such methods accept, the call runs nothing. A forwarding method runs the handler of the
receiver. The requests of the bodies that run for a request are answered one level deeper.
-/

namespace Metaobject

namespace Class

variable {c s : Class} {name : String} {args : List Value} {m : Method} {body : MethodBody}

/-- The methods that accept the arguments, in the order in which a call meets them: nearest class
first, and within a class as declared. -/
def accepting (c : Class) (name : String) (args : List Value) : List Method :=
  (c.ancestors.flatMap methods).filter fun m => m.accepts name args

theorem mem_accepting_iff : m ∈ c.accepting name args ↔
    m.accepts name args = true ∧ ∃ d ∈ c.ancestors, m ∈ d.methods := by
  rw [accepting, List.mem_filter, List.mem_flatMap, and_comm]

theorem accepting_of_superclass (hs : c.superclass = some s) : c.accepting name args =
    (c.methods.filter fun m => m.accepts name args) ++ s.accepting name args := by
  rw [accepting, accepting, ancestors_of_superclass hs, List.flatMap_cons, List.filter_append]

theorem any_declaresFor_ancestors_iff :
    c.ancestors.any (declaresFor name args) = true ↔ c.accepting name args ≠ [] := by
  simp only [List.any_eq_true, declaresFor]
  constructor
  · rintro ⟨d, hd, m, hm, haccepts⟩
    exact List.ne_nil_of_mem (mem_accepting_iff.mpr ⟨haccepts, d, hd, hm⟩)
  · intro h
    obtain ⟨m, hm⟩ := List.exists_mem_of_ne_nil _ h
    obtain ⟨haccepts, d, hd, hdeclared⟩ := mem_accepting_iff.mp hm
    exact ⟨d, hd, m, hdeclared, haccepts⟩

theorem selectMethod?_eq_findSome? : c.selectMethod? name args =
    (c.accepting name args).findSome? fun m => m.body.map fun b => (m, b) := by
  symm
  rw [selectMethod?, accepting, ← List.head?_filterMap, List.filterMap_filter,
    List.filterMap_flatMap, List.head?_flatMap]
  simp only [List.head?_filterMap]

theorem selectMethod?_eq_some_iff : c.selectMethod? name args = some (m, body) ↔
    ∃ before after, c.accepting name args = before ++ m :: after ∧
      (∀ n ∈ before, n.body = none) ∧ m.body = some body := by
  rw [selectMethod?_eq_findSome?, List.findSome?_eq_some_iff]
  constructor
  · rintro ⟨before, n, after, hsplit, hn, hbefore⟩
    obtain ⟨b, hbody, hpair⟩ := Option.map_eq_some_iff.mp hn
    cases hpair
    exact ⟨before, after, hsplit, by simpa using hbefore, hbody⟩
  · rintro ⟨before, after, hsplit, hbefore, hbody⟩
    exact ⟨before, m, after, hsplit, by simp [hbody], by simpa using hbefore⟩

theorem selectMethod?_eq_none_iff :
    c.selectMethod? name args = none ↔ ∀ m ∈ c.accepting name args, m.body = none := by
  simp [selectMethod?_eq_findSome?]

theorem selectMethod?_eq_some (h : c.selectMethod? name args = some (m, body)) :
    m.accepts name args = true ∧ m.body = some body ∧ ∃ d ∈ c.ancestors, m ∈ d.methods := by
  obtain ⟨before, after, hsplit, -, hbody⟩ := selectMethod?_eq_some_iff.mp h
  obtain ⟨haccepts, hdeclared⟩ := mem_accepting_iff.mp
    (hsplit ▸ List.mem_append_right before List.mem_cons_self)
  exact ⟨haccepts, hbody, hdeclared⟩

theorem selectMethod?_of_forwards (hs : c.superclass = some s)
    (hforwards : ∀ m ∈ c.methods, m.body = some .forward)
    (hm : c.methods.find? (fun n => n.accepts name args) = some m) :
    c.selectMethod? name args = some (m, .forward) := by
  rw [← List.head?_filter] at hm
  obtain ⟨rest, hrest⟩ := List.head?_eq_some_iff.mp hm
  have hmem : m ∈ c.methods := (List.mem_filter.mp (hrest ▸ List.mem_cons_self)).1
  rw [selectMethod?_eq_some_iff, accepting_of_superclass hs, hrest]
  exact ⟨[], rest ++ s.accepting name args, rfl, by simp, hforwards m hmem⟩

theorem selectMethod?_of_refused (hs : c.superclass = some s)
    (hrefused : ∀ n ∈ c.methods, n.accepts name args = false) :
    c.selectMethod? name args = s.selectMethod? name args := by
  have hnone : (c.methods.filter fun m => m.accepts name args) = [] := by
    simpa using hrefused
  rw [selectMethod?_eq_findSome?, selectMethod?_eq_findSome?, accepting_of_superclass hs, hnone,
    List.nil_append]

end Class

variable (link : Linkage)

/-- What answers the requests of the bodies that run for a request. -/
def nested : Nat → Request → Act Value
  | 0 => fun _ => throw .tooDeep
  | depth + 1 => perform link depth

theorem perform_eq_performWith (depth : Nat) :
    perform link depth = performWith link (nested link depth) := by
  cases depth <;> rfl

theorem invoke_of_select (depth : Nat) {o : ObjectRef} {name : String} {args : List Value}
    {m : Method} {body : MethodBody}
    (h : o.cls.selectMethod? name args = some (m, body)) :
    invoke link depth o name args = runBody link (nested link depth) m body o args := by
  rw [invoke, perform_eq_performWith, performWith, h]

theorem outcome_invoke_of_unanswered (depth : Nat) {o : ObjectRef} {name : String}
    {args : List Value} (h : ∀ m ∈ o.cls.accepting name args, m.body = none) (heap : Heap) :
    Act.outcome (invoke link depth o name args) heap =
      (.error (.threw (o.cls.unanswered name args)), heap) := by
  rw [invoke, perform_eq_performWith, performWith, Class.selectMethod?_eq_none_iff.mpr h]
  rfl

/-- Of the methods that accept the arguments, nearest class first and in the order declared, a call
runs the first that has a body, and passes over those before it that have none. When none has a body,
the call throws and leaves the heap as it is, whatever the linkage: the method is abstract when the
superclass chain or an interface declares one that accepts the arguments, and missing otherwise. -/
theorem invoke_answers (depth : Nat) (o : ObjectRef) (name : String) (args : List Value) :
    (∀ before m after body, o.cls.accepting name args = before ++ m :: after →
      (∀ n ∈ before, n.body = none) → m.body = some body →
        invoke link depth o name args = runBody link (nested link depth) m body o args) ∧
    ((∀ m ∈ o.cls.accepting name args, m.body = none) →
      (o.cls.accepting name args ≠ [] ∨
        ∃ i ∈ o.cls.allInterfaces, ∃ m ∈ i.methods, m.accepts name args = true) → ∀ h,
        Act.outcome (invoke link depth o name args) h =
          (.error (.threw (.abstractMethod s!"{o.cls.name}.{name}")), h)) ∧
    (o.cls.accepting name args = [] →
      (∀ i ∈ o.cls.allInterfaces, ∀ m ∈ i.methods, m.accepts name args = false) → ∀ h,
        Act.outcome (invoke link depth o name args) h =
          (.error (.threw (.noSuchMethod s!"{o.cls.name}.{name}/{args.length}")), h)) := by
  have hinterface : o.cls.allInterfaces.any (Class.declaresFor name args) = true ↔
      ∃ i ∈ o.cls.allInterfaces, ∃ m ∈ i.methods, m.accepts name args = true := by
    simp [Class.declaresFor]
  refine ⟨?_, ?_, ?_⟩
  · intro before m after body hsplit hbefore hbody
    exact invoke_of_select link depth
      (Class.selectMethod?_eq_some_iff.mpr ⟨before, after, hsplit, hbefore, hbody⟩)
  · intro hnone hdeclared h
    rw [outcome_invoke_of_unanswered link depth hnone, Class.unanswered, if_pos]
    rwa [Bool.or_eq_true, Class.any_declaresFor_ancestors_iff, hinterface]
  · intro hnil hinterfaces h
    rw [outcome_invoke_of_unanswered link depth (by simp [hnil]), Class.unanswered, if_neg]
    rw [Bool.or_eq_true, Class.any_declaresFor_ancestors_iff, hinterface]
    rintro (hdeclared | ⟨i, hi, m, hm, haccepts⟩)
    · exact hdeclared hnil
    · simp [hinterfaces i hi m hm] at haccepts

/-! ### A method declared again without a body -/

namespace Samples

def printable : Class :=
  { ClassSpec.named "app.Printable" .interface with
    methods := [⟨"print", [], .void, .pub, false, false, [], none⟩] }.described 1

def report : Class :=
  { ClassSpec.named "app.Report" .ordinary with
    methods := [⟨"describe", [], .string, .pub, false, false, [], some (.linked 0)⟩] }.described 2

/-- A subclass that declares the method of its superclass again, without a body. -/
def draft : Class :=
  { ClassSpec.named "app.Draft" .ordinary with
    superclass := some report
    interfaces := [printable]
    methods := [⟨"describe", [], .string, .pub, false, false, [], none⟩,
      ⟨"length", [], .primitive .int, .pub, false, false, [], none⟩] }.described 3

def describing : Linkage := fun _ _ _ => .record "ran" (.done (.str "report"))

theorem draft_answers :
    Act.outcome (invoke describing 5 ⟨0, draft⟩ "describe" []) Heap.empty =
      (.ok (.str "report"), Heap.empty.record "ran") ∧
    Act.outcome (invoke describing 5 ⟨0, draft⟩ "length" []) Heap.empty =
      (.error (.threw (.abstractMethod "app.Draft.length")), Heap.empty) ∧
    Act.outcome (invoke describing 5 ⟨0, draft⟩ "print" []) Heap.empty =
      (.error (.threw (.abstractMethod "app.Draft.print")), Heap.empty) ∧
    Act.outcome (invoke describing 5 ⟨0, draft⟩ "paint" [.int 3]) Heap.empty =
      (.error (.threw (.noSuchMethod "app.Draft.paint/1")), Heap.empty) := by
  obtain ⟨hdescribe, -, -⟩ := invoke_answers describing 5 ⟨0, draft⟩ "describe" []
  obtain ⟨-, hlength, -⟩ := invoke_answers describing 5 ⟨0, draft⟩ "length" []
  obtain ⟨-, hprint, -⟩ := invoke_answers describing 5 ⟨0, draft⟩ "print" []
  obtain ⟨-, -, hpaint⟩ := invoke_answers describing 5 ⟨0, draft⟩ "paint" [.int 3]
  refine ⟨?_, ?_, ?_, ?_⟩
  · rw [hdescribe [⟨"describe", [], .string, .pub, false, false, [], none⟩] _ _ _ rfl
      (by simp) rfl]
    rfl
  · exact hlength (by decide) (.inl (by decide)) _
  · exact hprint (by decide) (.inr (by decide)) _
  · exact hpaint (by decide) (by decide) _

/-- The first method that accepts the call has no body, and the call runs the next one. -/
theorem draft_runs_inherited :
    ((draft.accepting "describe" []).head?.map Method.body = some none) ∧
      Act.outcome (invoke describing 5 ⟨0, draft⟩ "describe" []) Heap.empty =
        (.ok (.str "report"), Heap.empty.record "ran") :=
  ⟨by decide, rfl⟩

end Samples

theorem outcome_runBody_forward (perform : Request → Act Value) (m : Method) (this : ObjectRef)
    (args : List Value) (h : Heap) :
    Act.outcome (runBody link perform m .forward this args) h =
      match TypeRef.checkForwarded m.params args with
      | .error e => (.error (.threw e), h)
      | .ok _ => match h.handler? this with
        | none =>
            (.error (.threw (.illegalState s!"代理实例未绑定拦截处理器: {this.cls.name}")), h)
        | some handler => match Act.outcome ((handler this m.name args).run perform) h with
          | (.ok v, g) => ((m.returnType.convertResult v).mapError .threw, g)
          | (.error e, g) => (.error e, g) := by
  rw [runBody, Act.outcome_bind, Act.outcome_ofExcept]
  cases TypeRef.checkForwarded m.params args with
  | error e => rfl
  | ok u =>
      change Act.outcome (get >>= _) h = _
      rw [Act.outcome_get_bind]
      cases h.handler? this with
      | none => rfl
      | some handler =>
          simp only [Act.outcome_bind]
          rcases Act.outcome ((handler this m.name args).run perform) h with ⟨e | v, g⟩
          · rfl
          · exact Act.outcome_ofExcept _ _

end Metaobject
