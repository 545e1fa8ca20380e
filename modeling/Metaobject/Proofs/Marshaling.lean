import Mathlib.Data.List.Forall2
import Metaobject.Arguments

/-!
# Which arguments pass

The checks of arguments succeed exactly when there is one argument for each parameter and each
parameter takes its argument. `TypeRef.Converts` says, case by case, what a call answers for each
value that a handler can answer.
-/

namespace Metaobject

namespace TypeRef

/-- There is one argument for each parameter, and each parameter takes its argument. -/
def AcceptsAll (params : List TypeRef) (args : List Value) : Prop :=
  List.Forall₂ (fun type arg => type.accepts arg = true) params args

theorem firstRefused?_eq_none_iff {params : List TypeRef} {args : List Value} :
    firstRefused? params args = none ↔ ∀ e ∈ params.zip args, e.1.accepts e.2 = true := by
  induction params generalizing args with
  | nil => simp [firstRefused?]
  | cons p ps ih =>
      cases args with
      | nil => simp [firstRefused?]
      | cons a as =>
          by_cases h : p.accepts a = true
          · simpa [firstRefused?, h] using ih
          · simp [firstRefused?, h]

theorem acceptsAll_iff_zip {params : List TypeRef} {args : List Value} :
    AcceptsAll params args ↔
      params.length = args.length ∧ ∀ e ∈ params.zip args, e.1.accepts e.2 = true := by
  rw [AcceptsAll, List.forall₂_iff_zip]
  exact and_congr_right fun _ => ⟨fun h e he => h he, fun h _ _ he => h _ he⟩

theorem checkArguments_eq_ok_iff {params : List TypeRef} {args : List Value} :
    checkArguments params args = .ok () ↔ AcceptsAll params args := by
  rw [acceptsAll_iff_zip, ← firstRefused?_eq_none_iff, checkArguments]
  by_cases hlength : params.length = args.length
  · cases hrefused : firstRefused? params args <;> simp [hlength]
  · simp [hlength]

theorem checkForwarded_eq_ok_iff {params : List TypeRef} {args : List Value} :
    checkForwarded params args = .ok () ↔ AcceptsAll params args := by
  rw [acceptsAll_iff_zip, ← firstRefused?_eq_none_iff, checkForwarded]
  by_cases hlength : params.length = args.length
  · cases hrefused : firstRefused? params args <;> simp [hlength]
  · simp [hlength]

/-! ## Results -/

/-- What a call of a method with the given result type answers when the handler answered the
value. -/
inductive Converts : TypeRef → Value → Except Exception Value → Prop
  | void (v : Value) : Converts .void v (.ok .null)
  | unboxed {p : Primitive} {v : Value} (kind : v.primitive? = some p) :
      Converts (.primitive p) v (.ok v)
  | missing (p : Primitive) :
      Converts (.primitive p) .null (.error (.nullPointer s!"处理器为 {p.name} 返回值返回了 null"))
  | wrongKind {p : Primitive} {v : Value} (present : v ≠ .null) (kind : v.primitive? ≠ some p) :
      Converts (.primitive p) v (.error (.classCast s!"{v.typeName} 无法转换为 {p.wrapperName}"))
  | kept {t : TypeRef} {v : Value} (reference : t.isReference = true)
      (accepted : t.accepts v = true) : Converts t v (.ok v)
  | refused {t : TypeRef} {v : Value} (reference : t.isReference = true)
      (refused : t.accepts v = false) :
      Converts t v (.error (.classCast s!"{v.typeName} 无法转换为 {t.text}"))

theorem isNull_iff {v : Value} : v.isNull = true ↔ v = .null := by
  cases v <;> simp [Value.isNull]

theorem convertResult_of_isReference {t : TypeRef} (h : t.isReference = true) (v : Value) :
    t.convertResult v =
      if t.accepts v then .ok v
      else .error (.classCast s!"{v.typeName} 无法转换为 {t.text}") := by
  cases t with
  | void => cases h
  | primitive p => cases h
  | _ => rfl

theorem converts_convertResult (t : TypeRef) (v : Value) : Converts t v (t.convertResult v) := by
  have reference (h : t.isReference = true) : Converts t v (t.convertResult v) := by
    rw [convertResult_of_isReference h]
    by_cases hv : t.accepts v = true
    · simpa [hv] using Converts.kept h hv
    · simpa [hv] using Converts.refused h (by simpa using hv)
  cases t with
  | void => exact .void v
  | primitive p =>
      by_cases hnull : v = .null
      · subst hnull
        exact .missing p
      · have hpresent : v.isNull = false := Bool.eq_false_iff.mpr (mt isNull_iff.mp hnull)
        by_cases hkind : v.primitive? = some p
        · simpa [convertResult, hpresent, hkind] using Converts.unboxed hkind
        · simpa [convertResult, hpresent, hkind] using Converts.wrongKind hnull hkind
  | boxed p => exact reference rfl
  | string => exact reference rfl
  | named name => exact reference rfl

theorem converts_iff {t : TypeRef} {v : Value} {r : Except Exception Value} :
    Converts t v r ↔ t.convertResult v = r := by
  constructor
  · intro h
    cases h with
    | void => rfl
    | unboxed kind =>
        have hpresent : v.isNull = false := by
          cases v with
          | null => cases kind
          | _ => rfl
        simp [convertResult, hpresent, kind]
    | missing => rfl
    | wrongKind present kind =>
        have hpresent : v.isNull = false := Bool.eq_false_iff.mpr (mt isNull_iff.mp present)
        simp [convertResult, hpresent, kind]
    | kept reference accepted => rw [convertResult_of_isReference reference, if_pos accepted]
    | refused reference refused =>
        rw [convertResult_of_isReference reference, refused]
        rfl
  · rintro rfl
    exact converts_convertResult t v

end TypeRef

namespace Method

theorem accepts_iff {m : Method} {name : String} {args : List Value} :
    m.accepts name args = true ↔ m.name = name ∧ TypeRef.AcceptsAll m.params args := by
  simp [accepts, TypeRef.acceptsAll_iff_zip, and_assoc, List.all_eq_true]

end Method

end Metaobject
