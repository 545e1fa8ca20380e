/-!
# Cells

A table of cells by key. A cell is made empty and is filled at most once; until it is filled, it
can be dropped again.
-/

namespace Metaobject

/-- Cells by key, in the order in which they were made. -/
structure Cells (κ α : Type) where
  entries : List (κ × Option α)

namespace Cells

variable {κ α : Type} [BEq κ]

def empty : Cells κ α := ⟨[]⟩

/-- The cell of a key, which may be empty. -/
def cell? (t : Cells κ α) (k : κ) : Option (Option α) :=
  (t.entries.find? fun e => e.1 == k).map (·.2)

def get? (t : Cells κ α) (k : κ) : Option α := (t.cell? k).join

/-- Whether the key has a cell, be it empty. -/
def contains (t : Cells κ α) (k : κ) : Bool := (t.cell? k).isSome

def make (t : Cells κ α) (k : κ) : Cells κ α :=
  if t.contains k then t else ⟨t.entries ++ [(k, none)]⟩

def fill (t : Cells κ α) (k : κ) (a : α) : Cells κ α :=
  ⟨t.entries.map fun e => (e.1, if e.1 == k then e.2.or (some a) else e.2)⟩

def dropEmpty (t : Cells κ α) (k : κ) : Cells κ α :=
  ⟨t.entries.filter fun e => !(e.1 == k && e.2.isNone)⟩

def filled (t : Cells κ α) : Nat := t.entries.countP fun e => e.2.isSome

def size (t : Cells κ α) : Nat := t.entries.length

/-! ### What the cells hold after each operation -/

@[simp] theorem get?_empty (k : κ) : (empty : Cells κ α).get? k = none := rfl

@[simp] theorem get?_make (t : Cells κ α) (k j : κ) : (t.make k).get? j = t.get? j := by
  unfold make
  split
  · rfl
  · simp only [get?, cell?, List.find?_append]
    cases t.entries.find? fun e => e.1 == j with
    | some e => rfl
    | none => cases h : k == j <;> simp [h]

theorem contains_make_self [ReflBEq κ] (t : Cells κ α) (k : κ) : (t.make k).contains k = true := by
  unfold make
  split
  · assumption
  · simp [contains, cell?, List.find?_append]

/-- Filling makes no cell, and a cell that is filled keeps what it has. -/
theorem cell?_fill [EquivBEq κ] (t : Cells κ α) (k j : κ) (a : α) :
    (t.fill k a).cell? j = (t.cell? j).map fun v => if j == k then v.or (some a) else v := by
  have hkey : (fun e : κ × Option α => e.1 == j) ∘
      (fun e : κ × Option α => (e.1, if e.1 == k then e.2.or (some a) else e.2)) =
      fun e => e.1 == j := rfl
  simp only [cell?, fill, List.find?_map, hkey, Option.map_map]
  cases he : t.entries.find? fun e => e.1 == j with
  | none => rfl
  | some e =>
      have hej : (e.1 == j) = true := by simpa using List.find?_some he
      simp [BEq.congr_left hej]

theorem get?_fill_self [EquivBEq κ] {t : Cells κ α} {k : κ} (h : t.contains k = true) (a : α) :
    (t.fill k a).get? k = (t.get? k).or (some a) := by
  obtain ⟨v, hv⟩ := Option.isSome_iff_exists.mp h
  simp [get?, cell?_fill, hv]

theorem get?_fill_of_ne [EquivBEq κ] (t : Cells κ α) {k j : κ} (h : (j == k) = false) (a : α) :
    (t.fill k a).get? j = t.get? j := by
  simp [get?, cell?_fill, h]

theorem get?_congr [EquivBEq κ] (t : Cells κ α) {j k : κ} (h : (j == k) = true) :
    t.get? j = t.get? k := by
  simp only [get?, cell?, BEq.congr_right h]

theorem get?_fill_make [EquivBEq κ] {t : Cells κ α} {k : κ} (h : t.get? k = none) (j : κ)
    (a : α) : ((t.make k).fill k a).get? j = if j == k then some a else t.get? j := by
  by_cases hj : (j == k) = true
  · rw [if_pos hj, get?_congr _ hj, get?_fill_self (contains_make_self t k), get?_make, h]
    rfl
  · rw [get?_fill_of_ne _ (by simpa using hj), get?_make, if_neg hj]

theorem key_ne_of_contains {t : Cells κ α} {k : κ} (h : t.contains k = false) :
    ∀ e ∈ t.entries, (e.1 == k) = false := by
  simpa [contains, cell?, Option.isSome_eq_false_iff] using h

/-- Making a cell and filling it adds a filled cell. -/
theorem fill_make [ReflBEq κ] {t : Cells κ α} {k : κ} (h : t.contains k = false) (a : α) :
    (t.make k).fill k a = ⟨t.entries ++ [(k, some a)]⟩ := by
  have hkept : t.entries.map (fun e => (e.1, if e.1 == k then e.2.or (some a) else e.2)) =
      t.entries := by
    refine (List.map_congr_left fun e he => ?_).trans (List.map_id t.entries)
    rw [key_ne_of_contains h e he]
    rfl
  rw [make, h, fill]
  simp only [Bool.false_eq_true, if_false, List.map_append, hkept, List.map_cons, List.map_nil,
    beq_self_eq_true, if_true, Option.none_or]

/-- Dropping a cell that was just made undoes the making. -/
theorem dropEmpty_make [ReflBEq κ] {t : Cells κ α} {k : κ} (h : t.contains k = false) :
    (t.make k).dropEmpty k = t := by
  have hkept : t.entries.filter (fun e => !(e.1 == k && e.2.isNone)) = t.entries :=
    List.filter_eq_self.mpr fun e he => by rw [key_ne_of_contains h e he]; rfl
  have hdropped : [(k, (none : Option α))].filter (fun e => !(e.1 == k && e.2.isNone)) = [] := by
    simp
  rw [make, h, dropEmpty]
  simp only [Bool.false_eq_true, if_false, List.filter_append, hkept, hdropped, List.append_nil]

theorem contains_iff_mem [LawfulBEq κ] {t : Cells κ α} {k : κ} :
    t.contains k = true ↔ k ∈ t.entries.map Prod.fst := by
  simp [contains, cell?, List.find?_isSome]

/-- Making a cell and filling it leaves no cell empty where none was. -/
theorem isSome_of_mem_fill_make [ReflBEq κ] {t : Cells κ α} {k : κ}
    (hfilled : ∀ e ∈ t.entries, e.2.isSome = true) (h : t.contains k = false) (a : α) :
    ∀ e ∈ ((t.make k).fill k a).entries, e.2.isSome = true := by
  intro e he
  rw [fill_make h] at he
  rcases List.mem_append.mp he with he | he
  · exact hfilled e he
  · obtain rfl := List.mem_singleton.mp he
    rfl

theorem exists_of_get? {t : Cells κ α} {k : κ} {a : α} (h : t.get? k = some a) :
    ∃ e ∈ t.entries, (e.1 == k) = true ∧ e.2 = some a := by
  cases hfind : t.entries.find? fun e => e.1 == k with
  | none => simp [get?, cell?, hfind] at h
  | some e =>
      have hkey : (e.1 == k) = true := by simpa using List.find?_some hfind
      exact ⟨e, List.mem_of_find?_eq_some hfind, hkey, by simpa [get?, cell?, hfind] using h⟩

/-- Where all cells are filled, a key that has nothing has no cell. -/
theorem contains_eq_false {t : Cells κ α} {k : κ} (hfilled : ∀ e ∈ t.entries, e.2.isSome = true)
    (h : t.get? k = none) : t.contains k = false := by
  cases hfind : t.entries.find? fun e => e.1 == k with
  | none => simp [contains, cell?, hfind]
  | some e =>
      have he : e.2 = none := by simpa [get?, cell?, hfind] using h
      simpa [he] using hfilled e (List.mem_of_find?_eq_some hfind)

theorem exists_get?_of_mem [ReflBEq κ] {t : Cells κ α}
    (hfilled : ∀ e ∈ t.entries, e.2.isSome = true) {e : κ × Option α} (he : e ∈ t.entries) :
    ∃ a, t.get? e.1 = some a := by
  refine Option.ne_none_iff_exists'.mp fun hnone => ?_
  have hdifferent := key_ne_of_contains (contains_eq_false hfilled hnone) e he
  simp at hdifferent

end Cells

end Metaobject
