import Metaobject.Invoker.Basic

/-!
# Outcomes

The outcome of an operation is its result, or its failure, without what it reports; an operation on
the heap also has the heap that it leaves. Two operations with the same outcome on every heap cannot
be told apart but by the log.
-/

namespace Metaobject

namespace Attempt

variable {α β : Type}

/-- The result of an attempt, or its failure. -/
def outcome (x : Attempt α) : Except Failure α := x.run.value

@[simp] theorem outcome_pure (a : α) : outcome (pure a) = .ok a := rfl

@[simp] theorem outcome_throw (e : Failure) : outcome (throw e : Attempt α) = .error e := rfl

@[simp] theorem outcome_report (level : Level) (text : String) :
    outcome (report level text) = .ok () := rfl

@[simp] theorem outcome_report_bind (level : Level) (text : String) (f : Unit → Attempt β) :
    outcome (report level text >>= f) = outcome (f ()) := rfl

@[simp] theorem outcome_mk_pure (r : Except Failure α) :
    outcome (ExceptT.mk (pure r) : Attempt α) = r := rfl

theorem outcome_bind (x : Attempt α) (f : α → Attempt β) :
    outcome (x >>= f) = (outcome x).bind fun a => outcome (f a) := by
  simp only [outcome, ExceptT.run_bind, Logged.value_bind]
  cases x.run.value <;> rfl

theorem outcome_bind_eq_ok {x : Attempt α} {f : α → Attempt β} {b : β} :
    outcome (x >>= f) = .ok b ↔ ∃ a, outcome x = .ok a ∧ outcome (f a) = .ok b := by
  rw [outcome_bind]
  cases outcome x <;> simp [Except.bind]

theorem outcome_map (f : α → β) (x : Attempt α) : outcome (f <$> x) = (outcome x).map f := by
  rw [map_eq_pure_bind, outcome_bind]
  cases outcome x <;> rfl

theorem map_eq_ok {f : α → β} {x : Except Failure α} {b : β} :
    x.map f = .ok b ↔ ∃ a, x = .ok a ∧ f a = b := by
  cases x <;> simp [Except.map]

theorem map_eq_error {f : α → β} {x : Except Failure α} {e : Failure} :
    x.map f = .error e ↔ x = .error e := by
  cases x <;> simp [Except.map]

end Attempt

namespace Act

variable {α β : Type}

/-- The value that a computation comes to on a heap, or why it ends without one, and the heap that
it leaves. -/
def outcome (x : Act α) (h : Heap) : Except Halt α × Heap := x.run.run h

@[simp] theorem outcome_pure (a : α) (h : Heap) : outcome (pure a) h = (.ok a, h) := rfl

@[simp] theorem outcome_throw (e : Halt) (h : Heap) :
    outcome (throw e : Act α) h = (.error e, h) := rfl

@[simp] theorem outcome_get_bind (f : Heap → Act β) (h : Heap) :
    outcome (get >>= f) h = outcome (f h) h := rfl

@[simp] theorem outcome_modifyGet (f : Heap → α × Heap) (h : Heap) :
    outcome (modifyGet f : Act α) h = (.ok (f h).1, (f h).2) := rfl

@[simp] theorem outcome_ofExcept (x : Except Exception α) (h : Heap) :
    outcome (ofExcept x) h = (x.mapError .threw, h) := by
  cases x <;> rfl

theorem outcome_bind (x : Act α) (f : α → Act β) (h : Heap) :
    outcome (x >>= f) h = match outcome x h with
      | (.ok a, h') => outcome (f a) h'
      | (.error e, h') => (.error e, h') := by
  simp only [outcome, ExceptT.run_bind, StateT.run_bind]
  rcases x.run.run h with ⟨_ | _, _⟩ <;> rfl

theorem outcome_discard (x : Act α) (h : Heap) :
    outcome (discard x) h = ((outcome x h).1.map fun _ => (), (outcome x h).2) := by
  rw [Functor.discard, LawfulFunctor.map_const, Function.comp_apply, map_eq_pure_bind, outcome_bind]
  rcases outcome x h with ⟨_ | _, _⟩ <;> rfl

theorem outcome_attempt (x : Act α) (h : Heap) :
    outcome (attempt x) h = match outcome x h with
      | (.ok a, h') => (.ok (.ok a), h')
      | (.error (.threw e), h') => (.ok (.error e), h')
      | (.error .tooDeep, h') => (.error .tooDeep, h') := by
  simp only [outcome, attempt, ExceptT.run_mk, StateT.run_bind]
  rcases x.run.run h with ⟨(_ | _) | _, _⟩ <;> rfl

end Act

namespace HeapAttempt

variable {α β : Type}

/-- The result of an operation on a heap, or its failure, and the heap that it leaves. -/
def outcome (x : HeapAttempt α) (h : Heap) : Except Failure α × Heap := (x.run.run h).value

@[simp] theorem outcome_pure (a : α) (h : Heap) : outcome (pure a) h = (.ok a, h) := rfl

@[simp] theorem outcome_throw (e : Failure) (h : Heap) :
    outcome (throw e : HeapAttempt α) h = (.error e, h) := rfl

@[simp] theorem outcome_get_bind (f : Heap → HeapAttempt β) (h : Heap) :
    outcome (get >>= f) h = outcome (f h) h := rfl

@[simp] theorem outcome_set (h' h : Heap) :
    outcome (set h' : HeapAttempt PUnit) h = (.ok (), h') := rfl

@[simp] theorem outcome_report_bind (level : Level) (text : String) (f : Unit → HeapAttempt β)
    (h : Heap) : outcome (report level text >>= f) h = outcome (f ()) h := rfl

@[simp] theorem outcome_ofExcept_ok_bind (a : α) (f : α → HeapAttempt β) (h : Heap) :
    outcome (ofExcept (.ok a) >>= f) h = outcome (f a) h := rfl

def ofHalt : Halt → Failure
  | .threw e => .invocation e
  | .tooDeep => .tooDeep

theorem outcome_ofAct (x : Act α) (h : Heap) :
    outcome (ofAct x) h = ((x.outcome h).1.mapError ofHalt, (x.outcome h).2) := by
  have hrun : outcome (ofAct x) h = (match x.outcome h with
      | (.ok a, h') => pure (.ok a, h')
      | (.error (.threw e), h') => pure (.error (.invocation e), h')
      | (.error .tooDeep, h') => pure (.error .tooDeep, h') :
        Logged (Except Failure α × Heap)).value := rfl
  rw [hrun]
  rcases x.outcome h with ⟨(_ | _) | _, _⟩ <;> rfl

theorem outcome_bind (x : HeapAttempt α) (f : α → HeapAttempt β) (h : Heap) :
    outcome (x >>= f) h = match outcome x h with
      | (.ok a, h') => outcome (f a) h'
      | (.error e, h') => (.error e, h') := by
  simp only [outcome, ExceptT.run_bind, StateT.run_bind, Logged.value_bind]
  rcases (x.run.run h).value with ⟨_ | _, _⟩ <;> rfl

theorem outcome_discard (x : HeapAttempt α) (h : Heap) :
    outcome (discard x) h = ((outcome x h).1.map fun _ => (), (outcome x h).2) := by
  rw [Functor.discard, LawfulFunctor.map_const, Function.comp_apply, map_eq_pure_bind, outcome_bind]
  rcases outcome x h with ⟨_ | _, _⟩ <;> rfl

end HeapAttempt

end Metaobject
