import Mathlib.Data.List.Induction
import Mathlib.Data.List.Nodup
import Metaobject.Invoker.Sharing

/-!
# Requests at the same time

Whatever the schedule, one request at a time makes an invoker in a cell, a cell is filled at most
once and keeps its invoker, every answer is an invoker that is in a cell, and a request fails only
with what came of its own try.
-/

namespace Metaobject

namespace Sharing

variable {make : Nat → Except Failure CompiledInvoker} {s t : Sharing} {i : Nat}

@[simp] theorem stage_move (s : Sharing) (i j : Nat) (stage : Stage) :
    (s.move i stage).stage j = if j = i then stage else s.stage j := rfl

theorem stage_move_self (s : Sharing) (i : Nat) (stage : Stage) :
    (s.move i stage).stage i = stage := if_pos rfl

@[simp] theorem filled_move (s : Sharing) (i : Nat) (stage : Stage) :
    (s.move i stage).filled = s.filled := rfl

/-! ## One step -/

/-- All that a step of a request can do. -/
inductive Advances (make : Nat → Except Failure CompiledInvoker) (s : Sharing) (i : Nat) :
    Sharing → Prop
  | hit {x : CompiledInvoker} (idle : s.stage i = .idle) (kept : s.kept? = some x) :
      Advances make s i (s.move i (.answered (.ok x)))
  | miss (idle : s.stage i = .idle) (missing : s.kept? = none) :
      Advances make s i (s.move i .missed)
  | join {c : Nat} (missed : s.stage i = .missed) (entered : s.entry = some c) :
      Advances make s i (s.move i (.holding c))
  | enter (missed : s.stage i = .missed) (free : s.entry = none) :
      Advances make s i (move { s with
        entry := some s.cells.length
        cells := s.cells ++ [.empty] } i (.holding s.cells.length))
  | take {c : Nat} {x : CompiledInvoker} (holding : s.stage i = .holding c)
      (complete : s.cells[c]? = some (.complete x)) :
      Advances make s i (s.move i (.answered (.ok x)))
  | begin {c : Nat} (holding : s.stage i = .holding c) (empty : s.cells[c]? = some .empty) :
      Advances make s i (move { s with
        cells := s.cells.set c .running
        runs := s.runs ++ [i] } i (.making c))
  | succeed {c : Nat} {x : CompiledInvoker} (making : s.stage i = .making c)
      (made : make i = .ok x) :
      Advances make s i (move { s with
        cells := s.cells.set c (.complete x)
        filled := s.filled ++ [(i, c)] } i (.answered (.ok x)))
  | fail {c : Nat} {e : Failure} (making : s.stage i = .making c) (failure : make i = .error e) :
      Advances make s i (move { s with cells := s.cells.set c .empty } i (.failed e))
  | leave {e : Failure} {x : CompiledInvoker} (failed : s.stage i = .failed e)
      (kept : s.kept? = some x) : Advances make s i (s.move i (.answered (.error e)))
  | remove {e : Failure} (failed : s.stage i = .failed e) (missing : s.kept? = none) :
      Advances make s i (move { s with entry := none } i (.answered (.error e)))
  | stay : Advances make s i s

theorem advances_advance (make : Nat → Except Failure CompiledInvoker) (s : Sharing) (i : Nat) :
    Advances make s i (s.advance make i) := by
  unfold advance
  cases hstage : s.stage i with
  | idle =>
      cases hkept : s.kept? with
      | some x => exact .hit hstage hkept
      | none => exact .miss hstage hkept
  | missed =>
      cases hentry : s.entry with
      | some c => exact .join hstage hentry
      | none => exact .enter hstage hentry
  | holding c =>
      dsimp only
      cases hcell : s.cells[c]? with
      | none => exact .stay
      | some cell =>
          cases cell with
          | empty => exact .begin hstage hcell
          | running => exact .stay
          | complete x => exact .take hstage hcell
  | making c =>
      cases hmake : make i with
      | ok x => exact .succeed hstage hmake
      | error e => exact .fail hstage hmake
  | failed e =>
      cases hkept : s.kept? with
      | some x => exact .leave hstage hkept
      | none => exact .remove hstage hkept
  | answered answer => exact .stay

/-! ## Cells and what they hold -/

/-- The invoker in a cell. -/
def held? (s : Sharing) (c : Nat) : Option CompiledInvoker := s.cells[c]?.bind OnceCell.get?

theorem kept?_eq_some {x : CompiledInvoker} :
    s.kept? = some x ↔ ∃ c, s.entry = some c ∧ s.held? c = some x := by
  simp [kept?, held?, Option.bind_assoc, Option.bind_eq_some_iff]

theorem held?_of_getElem? {c : Nat} {cell : OnceCell} (h : s.cells[c]? = some cell) :
    s.held? c = cell.get? := by
  rw [held?, h, Option.bind_some]

theorem held?_set {c : Nat} {old : OnceCell} (hold : s.cells[c]? = some old) (cell : OnceCell)
    (d : Nat) :
    ((s.cells.set c cell)[d]?.bind OnceCell.get?) = if d = c then cell.get? else s.held? d := by
  obtain ⟨hc, -⟩ := List.getElem?_eq_some_iff.mp hold
  rw [List.getElem?_set, held?]
  by_cases hd : c = d
  · subst hd
    simp [hc]
  · simp [hd, Ne.symm hd]

/-- A cell that holds nothing may change, the invokers in the others stay. -/
theorem held?_set_of_held {c : Nat} {old : OnceCell} (hold : s.cells[c]? = some old)
    (hnone : old.get? = none) (cell : OnceCell) {d : Nat} {x : CompiledInvoker}
    (hd : s.held? d = some x) : (s.cells.set c cell)[d]?.bind OnceCell.get? = some x := by
  have hne : d ≠ c := by
    rintro rfl
    simp [held?_of_getElem? hold, hnone] at hd
  rw [held?_set hold, if_neg hne, hd]

theorem held?_append (d : Nat) :
    ((s.cells ++ [OnceCell.empty])[d]?.bind OnceCell.get?) = s.held? d := by
  rw [held?, List.getElem?_append]
  split
  · rfl
  · rename_i hd
    rw [List.getElem?_eq_none (by omega : s.cells.length ≤ d)]
    cases hnew : [OnceCell.empty][d - s.cells.length]? with
    | none => rfl
    | some cell =>
        obtain rfl := List.mem_singleton.mp (List.mem_of_getElem? hnew)
        rfl

/-! ## What holds at all times -/

/-- What the stage of a request tells about it and about the cells. -/
def Explains (make : Nat → Except Failure CompiledInvoker) (s : Sharing) (i : Nat) : Stage → Prop
  | .idle => i ∉ s.runs
  | .missed | .holding _ => True
  | .making c => s.cells[c]? = some .running
  | .failed e | .answered (.error e) => make i = .error e
  | .answered (.ok x) => ∃ c, s.held? c = some x

/-- One request at a time makes an invoker in a cell, cells are filled once, and what is in them was
made by the requests that filled them. -/
structure Consistent (make : Nat → Except Failure CompiledInvoker) (s : Sharing) : Prop where
  stages : ∀ i, s.Explains make i (s.stage i)
  alone : ∀ {i j c : Nat}, s.stage i = .making c → s.stage j = .making c → i = j
  filled : ∀ {i c : Nat}, (i, c) ∈ s.filled → ∃ x, make i = .ok x ∧ s.held? c = some x
  held : ∀ {c : Nat} {x : CompiledInvoker}, s.held? c = some x →
    ∃ i, (i, c) ∈ s.filled ∧ make i = .ok x
  once : (s.filled.map Prod.snd).Nodup

theorem Explains.mono {stage : Stage} (h : s.Explains make i stage)
    (hruns : i ∈ t.runs → i ∈ s.runs)
    (hrunning : ∀ c, stage = .making c → t.cells[c]? = some .running)
    (hheld : ∀ {c : Nat} {x : CompiledInvoker}, s.held? c = some x → t.held? c = some x) :
    t.Explains make i stage := by
  cases stage with
  | idle => exact fun hi => h (hruns hi)
  | missed => exact h
  | holding c => exact h
  | making c => exact hrunning c rfl
  | failed e => exact h
  | answered answer =>
      cases answer with
      | error e => exact h
      | ok x =>
          obtain ⟨c, hc⟩ := h
          exact ⟨c, hheld hc⟩

namespace Advances

variable {j : Nat}

theorem stage_of_ne (h : Advances make s i t) (hne : j ≠ i) : t.stage j = s.stage j := by
  cases h with
  | stay => rfl
  | _ => exact if_neg hne

theorem mem_runs_of_ne (h : Advances make s i t) (hne : j ≠ i) (hj : j ∈ t.runs) :
    j ∈ s.runs := by
  cases h with
  | begin holding empty =>
      rcases List.mem_append.mp hj with hj | hj
      · exact hj
      · exact absurd (List.mem_singleton.mp hj) hne
  | _ => exact hj

theorem mem_filled (h : Advances make s i t) {p : Nat × Nat} (hp : p ∈ s.filled) :
    p ∈ t.filled := by
  cases h with
  | succeed making made => exact List.mem_append_left _ hp
  | _ => exact hp

end Advances

namespace Consistent

section Step

variable {c : Nat} {x : CompiledInvoker}

theorem explains (h : Consistent make s) {stage : Stage} (hi : s.stage i = stage) :
    s.Explains make i stage := by
  rw [← hi]
  exact h.stages i

theorem running (h : Consistent make s) (hi : s.stage i = .making c) :
    s.cells[c]? = some .running := h.explains hi

theorem making_step (h : Consistent make s) (hst : Advances make s i t) {j : Nat}
    (hj : s.stage j = .making c) (hne : j ≠ i) : t.cells[c]? = some .running := by
  have hrunning := h.running hj
  -- the cell of a request that ends its try is not that of another request
  have hother {d : Nat} (hi : s.stage i = .making d) : d ≠ c := by
    rintro rfl
    exact hne (h.alone hj hi)
  cases hst with
  | enter missed free =>
      obtain ⟨hlt, -⟩ := List.getElem?_eq_some_iff.mp hrunning
      exact (List.getElem?_append_left hlt).trans hrunning
  | @begin d holding empty =>
      refine (List.getElem?_set_ne ?_).trans hrunning
      rintro rfl
      simp [hrunning] at empty
  | succeed making made => exact (List.getElem?_set_ne (hother making)).trans hrunning
  | fail making failure => exact (List.getElem?_set_ne (hother making)).trans hrunning
  | _ => exact hrunning

theorem held_step (h : Consistent make s) (hst : Advances make s i t)
    (hc : s.held? c = some x) : t.held? c = some x := by
  cases hst with
  | enter missed free => exact (held?_append c).trans hc
  | begin holding empty => exact held?_set_of_held empty rfl _ hc
  | succeed making made => exact held?_set_of_held (h.running making) rfl _ hc
  | fail making failure => exact held?_set_of_held (h.running making) rfl _ hc
  | _ => exact hc

theorem held_of_step (h : Consistent make s) (hst : Advances make s i t)
    (hc : t.held? c = some x) : s.held? c = some x ∨ (i, c) ∈ t.filled ∧ make i = .ok x := by
  -- a cell that is not filled holds nothing afterwards
  have hunfilled {d : Nat} {old cell : OnceCell} (hd : s.cells[d]? = some old)
      (hnone : cell.get? = none)
      (hset : (s.cells.set d cell)[c]?.bind OnceCell.get? = some x) : s.held? c = some x := by
    rw [held?_set hd] at hset
    split at hset
    · simp [hnone] at hset
    · exact hset
  cases hst with
  | enter missed free => exact .inl ((held?_append c).symm.trans hc)
  | begin holding empty => exact .inl (hunfilled empty rfl hc)
  | @succeed d y making made =>
      have hset : (if c = d then some y else s.held? c) = some x :=
        (held?_set (h.running making) _ c).symm.trans hc
      split at hset
      · rename_i hcd
        obtain rfl := Option.some.inj hset
        exact .inr ⟨by simp [hcd], made⟩
      · exact .inl hset
  | fail making failure => exact .inl (hunfilled (h.running making) rfl hc)
  | _ => exact .inl hc

theorem explains_step (h : Consistent make s) (hst : Advances make s i t) :
    t.Explains make i (t.stage i) := by
  cases hst with
  | hit idle kept =>
      obtain ⟨c, -, hc⟩ := kept?_eq_some.mp kept
      rw [stage_move_self]
      exact ⟨c, hc⟩
  | miss idle missing =>
      rw [stage_move_self]
      trivial
  | join missed entered =>
      rw [stage_move_self]
      trivial
  | enter missed free =>
      rw [stage_move_self]
      trivial
  | take holding complete =>
      rw [stage_move_self]
      exact ⟨_, held?_of_getElem? complete⟩
  | begin holding empty =>
      obtain ⟨hlt, -⟩ := List.getElem?_eq_some_iff.mp empty
      rw [stage_move_self]
      exact List.getElem?_set_self hlt
  | @succeed c x making made =>
      rw [stage_move_self]
      exact ⟨c, (held?_set (h.running making) _ c).trans (if_pos rfl)⟩
  | fail making failure =>
      rw [stage_move_self]
      exact failure
  | leave failed kept =>
      rw [stage_move_self]
      exact h.explains failed
  | remove failed missing =>
      rw [stage_move_self]
      exact h.explains failed
  | stay => exact h.stages i

theorem not_making_step (h : Consistent make s) (hst : Advances make s i t)
    (hi : t.stage i = .making c) {j : Nat} (hne : j ≠ i) : s.stage j ≠ .making c := by
  intro hj
  cases hst with
  | begin holding empty =>
      rw [stage_move_self] at hi
      obtain rfl := Stage.making.inj hi
      -- nobody makes an invoker in an empty cell
      have hrunning := h.running hj
      simp [empty] at hrunning
  | stay => exact hne (h.alone hj hi)
  | _ => simp at hi

theorem filled_step (h : Consistent make s) (hst : Advances make s i t) {j : Nat}
    (hj : (j, c) ∈ t.filled) : ∃ x, make j = .ok x ∧ t.held? c = some x := by
  have hbefore (hmem : (j, c) ∈ s.filled) : ∃ x, make j = .ok x ∧ t.held? c = some x := by
    obtain ⟨x, hx, hc⟩ := h.filled hmem
    exact ⟨x, hx, h.held_step hst hc⟩
  cases hst with
  | @succeed d x making made =>
      rcases List.mem_append.mp hj with hmem | hmem
      · exact hbefore hmem
      · obtain ⟨rfl, rfl⟩ := Prod.mk.inj (List.mem_singleton.mp hmem)
        exact ⟨x, made, (held?_set (h.running making) _ _).trans (if_pos rfl)⟩
  | _ => exact hbefore hj

theorem once_step (h : Consistent make s) (hst : Advances make s i t) :
    (t.filled.map Prod.snd).Nodup := by
  cases hst with
  | @succeed c x making made =>
      -- a cell in which an invoker is made has not been filled
      have hnew : c ∉ s.filled.map Prod.snd := by
        intro hmem
        obtain ⟨⟨j, d⟩, hj, rfl⟩ := List.mem_map.mp hmem
        obtain ⟨y, -, hd⟩ := h.filled hj
        rw [held?_of_getElem? (h.running making)] at hd
        cases hd
      rw [filled_move, List.map_append]
      exact List.Nodup.append h.once (List.nodup_singleton c) (by simpa using hnew)
  | _ => exact h.once

end Step

theorem step (h : Consistent make s) (hst : Advances make s i t) : Consistent make t where
  stages j := by
    by_cases hne : j = i
    · subst hne
      exact h.explains_step hst
    · rw [hst.stage_of_ne hne]
      exact (h.stages j).mono (hst.mem_runs_of_ne hne) (fun c hj => h.making_step hst hj hne)
        (h.held_step hst)
  alone {j k c} hj hk := by
    by_cases hji : j = i <;> by_cases hki : k = i
    · exact hji.trans hki.symm
    · subst hji
      rw [hst.stage_of_ne hki] at hk
      exact absurd hk (h.not_making_step hst hj hki)
    · subst hki
      rw [hst.stage_of_ne hji] at hj
      exact absurd hj (h.not_making_step hst hk hji)
    · rw [hst.stage_of_ne hji] at hj
      rw [hst.stage_of_ne hki] at hk
      exact h.alone hj hk
  filled hj := h.filled_step hst hj
  held hc := by
    rcases h.held_of_step hst hc with hbefore | ⟨hmem, hx⟩
    · obtain ⟨j, hj, hx⟩ := h.held hbefore
      exact ⟨j, hst.mem_filled hj, hx⟩
    · exact ⟨_, hmem, hx⟩
  once := h.once_step hst

end Consistent

theorem consistent_initial : Consistent make initial where
  stages i := List.not_mem_nil
  alone hi := by cases hi
  filled hi := by cases hi
  held hc := by simp [initial, held?] at hc
  once := .nil

theorem run_append (make : Nat → Except Failure CompiledInvoker) (before after : List Nat) :
    run make (before ++ after) = after.foldl (advance make) (run make before) := by
  rw [run, List.foldl_append, ← run]

theorem run_concat (make : Nat → Except Failure CompiledInvoker) (schedule : List Nat) (i : Nat) :
    run make (schedule ++ [i]) = (run make schedule).advance make i := by
  rw [run_append, List.foldl_cons, List.foldl_nil]

theorem consistent_run (make : Nat → Except Failure CompiledInvoker) (schedule : List Nat) :
    Consistent make (run make schedule) := by
  induction schedule using List.reverseRecOn with
  | nil => exact consistent_initial
  | append_singleton schedule i ih =>
      rw [run_concat]
      exact ih.step (advances_advance make _ i)

end Sharing

end Metaobject
