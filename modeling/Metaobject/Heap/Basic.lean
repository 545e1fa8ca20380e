import Metaobject.Program

/-!
# The heap

The heap holds the objects, each with a value for every field that the classes of its superclass
chain declare, and with a place for a handler that is filled at most once. A field is stored under
the class that declares it, so a field that a subclass declares again does not replace it.

The heap also holds the texts that bodies have recorded.
-/

namespace Metaobject

/-- The place of a field: the name of the declaring class and the name of the field. -/
structure Slot where
  owner : String
  name : String
deriving DecidableEq

def Slot.text (s : Slot) : String := s.owner ++ "." ++ s.name

/-- The contents of an object's fields, each slot once. -/
abbrev Fields := List (Slot × Value)

namespace Fields

def get? (fs : Fields) (s : Slot) : Option Value := fs.lookup s

/-- Replaces the content of a slot, which is left out of account when it does not exist. -/
def replace (fs : Fields) (s : Slot) (v : Value) : Fields :=
  fs.map fun e => if e.1 = s then (s, v) else e

/-- Adds a slot, or replaces its content. -/
def insert (fs : Fields) (s : Slot) (v : Value) : Fields :=
  if (fs.get? s).isSome then fs.replace s v else fs ++ [(s, v)]

/-- Replacing changes the content of one slot and adds none. -/
theorem get?_replace (fs : Fields) (s r : Slot) (v : Value) :
    (fs.replace s v).get? r = if r = s then (fs.get? r).map fun _ => v else fs.get? r := by
  induction fs with
  | nil => simp [replace, get?]
  | cons e fs ih =>
      obtain ⟨i, w⟩ := e
      simp only [replace, get?, List.map_cons, List.lookup_cons] at ih ⊢
      by_cases hri : r = i
      · subst hri
        by_cases hrs : r = s <;> simp [hrs]
      · have hne : (r == i) = false := by simpa using hri
        by_cases his : i = s
        · subst his
          simpa [List.lookup_cons, hne, hri] using ih
        · simpa [List.lookup_cons, hne, his] using ih

theorem get?_insert (fs : Fields) (s r : Slot) (v : Value) :
    (fs.insert s v).get? r = if r = s then some v else fs.get? r := by
  unfold insert
  split
  · rename_i h
    rw [get?_replace]
    by_cases hrs : r = s
    · subst hrs
      obtain ⟨w, hw⟩ := Option.isSome_iff_exists.mp h
      simp [hw]
    · simp [hrs]
  · rename_i h
    simp only [get?, Bool.not_eq_true, Option.isSome_eq_false_iff, Option.isNone_iff_eq_none] at h ⊢
    rw [List.lookup_append]
    by_cases hrs : r = s
    · subst hrs
      simp [h]
    · have hne : (r == s) = false := by simpa using hrs
      simp [List.lookup_cons, hne, hrs]

/-- The fields that one class declares, with their default values. -/
def addDeclared (fs : Fields) (c : Class) : Fields :=
  c.fields.foldl (fun fs f => fs.insert ⟨c.name, f.name⟩ f.type.defaultValue) fs

/-- The fields of a new instance: those of the class and of its superclasses, all with their
default values. -/
def ofClass (c : Class) : Fields := c.ancestors.foldl addDeclared []

end Fields

/-- An object on the heap. -/
structure Object where
  cls : Class
  fields : Fields
  handler : Option Handler

/-- The objects by address, and the texts recorded so far. -/
structure Heap where
  objects : List Object
  recorded : List String

namespace Class

/-- The field that a name means on instances of the class: the one that is declared nearest, with
the class that declares it. -/
def findField? (c : Class) (name : String) : Option (Class × Field) :=
  c.ancestors.findSome? fun d => (d.fields.find? fun f => f.name == name).map fun f => (d, f)

end Class

namespace ObjectRef

def fieldSlot? (o : ObjectRef) (name : String) : Option Slot :=
  (o.cls.findField? name).map fun (d, f) => ⟨d.name, f.name⟩

end ObjectRef

namespace Heap

def empty : Heap := ⟨[], []⟩

def object? (h : Heap) (o : ObjectRef) : Option Object := h.objects[o.address]?

def update (h : Heap) (o : ObjectRef) (f : Object → Object) : Heap :=
  { h with objects := h.objects.modify o.address f }

/-- Allocates an instance with default field values and no handler. No constructor runs. -/
def allocate (h : Heap) (c : Class) : ObjectRef × Heap :=
  (⟨h.objects.length, c⟩,
    { h with objects := h.objects ++ [⟨c, Fields.ofClass c, none⟩] })

def record (h : Heap) (text : String) : Heap := { h with recorded := h.recorded ++ [text] }

def readSlot (h : Heap) (o : ObjectRef) (s : Slot) : Option Value :=
  (h.object? o).bind fun x => x.fields.get? s

/-- Writes to a slot that exists, whatever the type of the field. -/
def writeSlot (h : Heap) (o : ObjectRef) (s : Slot) (v : Value) : Option Heap :=
  if (h.readSlot o s).isSome then
    some (h.update o fun x => { x with fields := x.fields.replace s v })
  else none

def getField (h : Heap) (o : ObjectRef) (name : String) : Option Value :=
  (o.fieldSlot? name).bind (h.readSlot o)

/-- Writes a field by name, if the type of the field accepts the value. -/
def setField (h : Heap) (o : ObjectRef) (name : String) (v : Value) : Except Exception Heap :=
  match o.cls.findField? name with
  | none => .error (.noSuchField name)
  | some (d, f) =>
      let slot : Slot := ⟨d.name, f.name⟩
      if f.type.accepts v then .ok ((h.writeSlot o slot v).getD h)
      else .error (.illegalArgument
        s!"无法将 {v.typeName} 赋给字段 {slot.text} ({f.type.text})")

def handler? (h : Heap) (o : ObjectRef) : Option Handler :=
  (h.object? o).bind Object.handler

/-- Binds a handler to an object that has none; otherwise the handler comes back. -/
def bindHandler (h : Heap) (o : ObjectRef) (handler : Handler) : Except Handler Heap :=
  match h.handler? o with
  | some _ => .error handler
  | none => .ok (h.update o fun x => { x with handler := some handler })

/-- The fields of an object by the text of their slots, in order of these texts. -/
def snapshot (h : Heap) (o : ObjectRef) : List (String × Value) :=
  match h.object? o with
  | none => []
  | some x =>
      (x.fields.map fun (s, v) => (s.text, v)).mergeSort fun a b => decide (a.1 ≤ b.1)

end Heap

end Metaobject
