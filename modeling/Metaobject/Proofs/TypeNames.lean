import Metaobject.TypeRef

/-!
# The names of types

Reading the text of a type gives the type back, and writing what was read gives the text back. The
one exception is a class that bears the name of a built-in type: its text reads as that type, which
neither is the class nor boxes it. That this cannot happen among the built-in types themselves rests
on their names being distinct, across both tables of names.
-/

namespace Metaobject

namespace TypeRef

/-- The types that are not classes or interfaces. -/
def isBuiltIn : TypeRef → Bool
  | .named _ => false
  | _ => true

/-- The names that no class can be referred to by: those of the built-in types. -/
def reservedNames : List String :=
  ["void", "String"] ++ Primitive.all.map Primitive.name ++ Primitive.all.map Primitive.wrapperName

theorem nodup_reservedNames : reservedNames.Nodup := by decide

theorem mem_reservedNames_iff {s : String} :
    s ∈ reservedNames ↔ ∃ t : TypeRef, t.isBuiltIn = true ∧ t.text = s := by
  simp only [reservedNames, List.mem_append, List.mem_map, List.mem_cons, List.not_mem_nil, or_false]
  constructor
  · rintro (((rfl | rfl) | ⟨p, -, rfl⟩) | ⟨p, -, rfl⟩)
    · exact ⟨.void, rfl, rfl⟩
    · exact ⟨.string, rfl, rfl⟩
    · exact ⟨.primitive p, rfl, rfl⟩
    · exact ⟨.boxed p, rfl, rfl⟩
  · rintro ⟨t, ht, rfl⟩
    cases t with
    | void => exact .inl (.inl (.inl rfl))
    | string => exact .inl (.inl (.inr rfl))
    | primitive p => exact .inl (.inr ⟨p, p.mem_all, rfl⟩)
    | boxed p => exact .inr ⟨p, p.mem_all, rfl⟩
    | named name => cases ht

theorem text_parse (s : String) : (parse s).text = s := by
  unfold parse
  split
  · exact (‹s = "void"›).symm
  · split
    · exact (‹s = "String"›).symm
    · cases hname : Primitive.ofName? s with
      | some p => exact Primitive.name_of_ofName? hname
      | none =>
          cases hwrapper : Primitive.ofWrapperName? s with
          | some p => exact Primitive.wrapperName_of_ofWrapperName? hwrapper
          | none => rfl

theorem parse_text_of_isBuiltIn {t : TypeRef} (h : t.isBuiltIn = true) : parse t.text = t := by
  cases t with
  | void => rfl
  | string => rfl
  | primitive p => cases p <;> rfl
  | boxed p => cases p <;> rfl
  | named name => cases h

theorem isBuiltIn_parse_iff {s : String} : (parse s).isBuiltIn = true ↔ s ∈ reservedNames := by
  rw [mem_reservedNames_iff]
  constructor
  · intro h
    exact ⟨parse s, h, text_parse s⟩
  · rintro ⟨t, ht, rfl⟩
    rwa [parse_text_of_isBuiltIn ht]

theorem parse_eq_named_iff {s : String} : parse s = .named s ↔ s ∉ reservedNames := by
  rw [← isBuiltIn_parse_iff]
  constructor
  · intro h
    rw [h]
    exact Bool.false_ne_true
  · intro h
    -- what is read has the text that it was read from, so a class is the one of that name
    have htext := text_parse s
    cases hparse : parse s with
    | named name =>
        rw [hparse] at htext
        exact congrArg TypeRef.named htext
    | _ => simp [hparse, isBuiltIn] at h

theorem boxingEquivalent_named (t : TypeRef) (name : String) :
    t.boxingEquivalent (.named name) = false ∧ (TypeRef.named name).boxingEquivalent t = false := by
  cases t <;> exact ⟨rfl, rfl⟩

/-- What is read from a text is written as this text, and what is written for a type is read as this
type, unless it is a class whose name is reserved: then a built-in type is read, which is another type
and not boxing equivalent to the class. -/
theorem parse_round_trip : (∀ s, (parse s).text = s) ∧ reservedNames.Nodup ∧
    (∀ t : TypeRef, parse t.text = t ↔ ¬ ∃ name ∈ reservedNames, t = .named name) ∧
    ∀ name ∈ reservedNames,
      (parse (TypeRef.named name).text).isBuiltIn = true ∧ parse name ≠ .named name ∧
        (parse name).boxingEquivalent (.named name) = false ∧
        (TypeRef.named name).boxingEquivalent (parse name) = false := by
  refine ⟨text_parse, nodup_reservedNames, fun t => ?_, fun name hname => ⟨?_, ?_, ?_⟩⟩
  · cases t with
    | named name =>
        rw [text, parse_eq_named_iff]
        simp
    | _ => exact ⟨fun _ => by simp, fun _ => parse_text_of_isBuiltIn rfl⟩
  · exact isBuiltIn_parse_iff.mpr hname
  · exact fun h => parse_eq_named_iff.mp h hname
  · exact boxingEquivalent_named _ name

end TypeRef

/-! ### A class that cannot be told by its text -/

namespace Samples

open TypeRef in
/-- A class with the name of a wrapper type is not found again under its text. -/
theorem parse_round_trip_integer :
    "Integer" ∈ reservedNames ∧ (parse (TypeRef.named "Integer").text).isBuiltIn = true ∧
      parse "Integer" ≠ .named "Integer" ∧ parse (TypeRef.boxed .int).text = .boxed .int := by
  obtain ⟨-, -, hread, hreserved⟩ := parse_round_trip
  have hname : "Integer" ∈ reservedNames := by decide
  obtain ⟨hbuiltIn, hne, -⟩ := hreserved "Integer" hname
  exact ⟨hname, hbuiltIn, hne, (hread (.boxed .int)).mpr (by simp)⟩

end Samples

end Metaobject
