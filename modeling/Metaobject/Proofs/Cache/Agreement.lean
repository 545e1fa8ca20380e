import Metaobject.Proofs.Cache.Sharing
import Metaobject.Proofs.Cache.Transparency

/-!
# When requests agree

Requests that come one after the other leave and get what `Cache.getOrMake` tells. Requests that
come at the same time agree on one invoker, which is made once, as long as no request that has
failed takes the entry away from another one that holds its cell. Where that happens, as in `race`,
the other request fills a cell that is entered no longer, and the next request makes a second
invoker. So the requests agree in all schedules only if they all can make the invoker, or none can.
-/

namespace Metaobject

namespace Sharing

variable {make : Nat → Except Failure CompiledInvoker} {s t : Sharing} {i : Nat}

/-! ## One request after the other -/

/-- No request is under way, and the argument is what is kept for the key. -/
inductive Rests (s : Sharing) : Option CompiledInvoker → Prop
  | absent (free : s.entry = none) : Rests s none
  | kept {c : Nat} {x : CompiledInvoker} (entered : s.entry = some c)
      (cell : s.cells[c]? = some (.complete x)) : Rests s (some x)

/-- All the steps of a request, which is alone. -/
def alone (make : Nat → Except Failure CompiledInvoker) (s : Sharing) (i : Nat) : Sharing :=
  (List.replicate 5 i).foldl (advance make) s

theorem alone_of_kept (hidle : s.stage i = .idle) {x : CompiledInvoker} (h : s.Rests (some x)) :
    (s.alone make i).stage i = .answered (.ok x) ∧ (s.alone make i).Rests (some x) := by
  cases h with
  | kept entered cell =>
      have hkept : s.kept? = some x := kept?_eq_some.mpr ⟨_, entered, held?_of_getElem? cell⟩
      have halone : s.alone make i = s.move i (.answered (.ok x)) := by
        simp [alone, List.replicate, advance, hidle, hkept]
      rw [halone]
      exact ⟨stage_move_self s i _, .kept entered cell⟩

theorem alone_of_made (hidle : s.stage i = .idle) (hfree : s.entry = none) {x : CompiledInvoker}
    (hmake : make i = .ok x) : s.alone make i = move { s with
      entry := some s.cells.length
      cells := s.cells ++ [.complete x]
      runs := s.runs ++ [i]
      filled := s.filled ++ [(i, s.cells.length)] } i (.answered (.ok x)) := by
  simp only [alone, List.replicate, List.foldl_cons, List.foldl_nil]
  simp [advance, hidle, kept?, hfree, hmake, move]
  funext j
  by_cases hj : j = i
  · simp [hj]
  · simp [hj]

theorem alone_of_failed (hidle : s.stage i = .idle) (hfree : s.entry = none) {e : Failure}
    (hmake : make i = .error e) : s.alone make i = move { s with
      cells := s.cells ++ [.empty]
      runs := s.runs ++ [i] } i (.answered (.error e)) := by
  simp only [alone, List.replicate, List.foldl_cons, List.foldl_nil]
  simp [advance, hidle, kept?, hfree, hmake, move, OnceCell.get?]
  funext j
  by_cases hj : j = i
  · simp [hj]
  · simp [hj]

theorem alone_of_absent (hidle : s.stage i = .idle) (h : s.Rests none) :
    (s.alone make i).stage i = .answered (make i) ∧ (s.alone make i).Rests (make i).toOption := by
  cases h with
  | absent free =>
      cases hmake : make i with
      | ok x =>
          rw [alone_of_made hidle free hmake]
          exact ⟨stage_move_self _ i _, .kept rfl List.getElem?_concat_length⟩
      | error e =>
          rw [alone_of_failed hidle free hmake]
          exact ⟨stage_move_self _ i _, .absent free⟩

theorem stage_foldl_of_not_mem {schedule : List Nat} {j : Nat} (hj : j ∉ schedule) :
    (schedule.foldl (advance make) s).stage j = s.stage j := by
  induction schedule generalizing s with
  | nil => rfl
  | cons i schedule ih =>
      have hne : j ≠ i := List.ne_of_not_mem_cons hj
      have hrest : j ∉ schedule := List.not_mem_of_not_mem_cons hj
      exact (ih hrest).trans ((advances_advance make s i).stage_of_ne hne)

section Serial

variable {attempt : Nat → Attempt CompiledInvoker} {key : MemberKey}

/-- What comes of making the invoker in each request. -/
def outcomes (attempt : Nat → Attempt CompiledInvoker) (i : Nat) :
    Except Failure CompiledInvoker :=
  Attempt.outcome (attempt i)

/-- The cache after requests for a key, one after the other. -/
def cacheAfter (attempt : Nat → Attempt CompiledInvoker) (key : MemberKey) (order : List Nat) :
    Cache :=
  order.foldl (fun c i => (c.getOrMake key fun _ => attempt i).value.cache) .empty

theorem cacheAfter_concat (order : List Nat) (i : Nat) :
    cacheAfter attempt key (order ++ [i]) =
      ((cacheAfter attempt key order).getOrMake key fun _ => attempt i).value.cache := by
  simp [cacheAfter]

theorem filled_cacheAfter (order : List Nat) :
    ∀ e ∈ (cacheAfter attempt key order).cells.entries, e.2.isSome = true := by
  induction order using List.reverseRecOn with
  | nil => simp [cacheAfter, Cache.empty, Cells.empty]
  | append_singleton order i ih =>
      intro e he
      rw [cacheAfter_concat] at he
      have hserves := (cacheAfter attempt key order).serves_getOrMake key fun _ => attempt i
      rcases hserves.mem_entries ih he with hbefore | ⟨x, -, rfl⟩
      · exact ih e hbefore
      · rfl

theorem rests_alone (hidle : s.stage i = .idle) {order : List Nat}
    (h : s.Rests ((cacheAfter attempt key order).get? key)) :
    (s.alone (outcomes attempt) i).stage i =
        .answered ((cacheAfter attempt key order).getOrMake key fun _ => attempt i).value.answer ∧
      (s.alone (outcomes attempt) i).Rests
        ((cacheAfter attempt key (order ++ [i])).get? key) := by
  have hserves := (cacheAfter attempt key order).serves_getOrMake key fun _ => attempt i
  have hget := hserves.get?_eq (filled_cacheAfter order) key
  rw [if_pos (BEq.refl key)] at hget
  rw [cacheAfter_concat, hget]
  cases hkept : (cacheAfter attempt key order).get? key with
  | some x =>
      rw [hkept] at h
      have hanswer : ((cacheAfter attempt key order).getOrMake key fun _ => attempt i).value.answer =
          .ok x := by
        rw [Cache.getOrMake, hkept]
        rfl
      rw [hanswer]
      exact alone_of_kept hidle h
  | none =>
      rw [hkept] at h
      rw [Cache.value_getOrMake_of_missing hkept]
      exact alone_of_absent hidle h

/-- Where each request ends before the next begins, the cache does the same. -/
theorem run_serial (attempt : Nat → Attempt CompiledInvoker) (key : MemberKey) {order : List Nat}
    (hdistinct : order.Nodup) :
    (run (outcomes attempt) (order.flatMap (List.replicate 5))).Rests
        ((cacheAfter attempt key order).get? key) ∧
      ∀ before i after, order = before ++ i :: after →
        (run (outcomes attempt) (order.flatMap (List.replicate 5))).stage i =
          .answered ((cacheAfter attempt key before).getOrMake key fun _ => attempt i).value.answer := by
  induction order using List.reverseRecOn with
  | nil =>
      refine ⟨.absent rfl, fun before i after h => ?_⟩
      simp at h
  | append_singleton order i ih =>
      obtain ⟨hbefore, -, hnew⟩ := List.nodup_append.mp hdistinct
      have hi : i ∉ order := fun hmem => hnew i hmem i (List.mem_singleton.mpr rfl) rfl
      obtain ⟨hrests, hanswers⟩ := ih hbefore
      have hschedule : (order ++ [i]).flatMap (List.replicate 5) =
          order.flatMap (List.replicate 5) ++ List.replicate 5 i := by simp
      have hidle :
          (run (outcomes attempt) (order.flatMap (List.replicate 5))).stage i = .idle :=
        stage_foldl_of_not_mem (by simp [hi])
      obtain ⟨hanswer, hlast⟩ := rests_alone hidle hrests
      rw [hschedule, run_append]
      refine ⟨hlast, fun before j after h => ?_⟩
      rcases List.eq_nil_or_concat after with rfl | ⟨rest, k, rfl⟩
      · obtain ⟨rfl, hij⟩ := List.append_inj' h rfl
        obtain rfl := (List.cons.inj hij).1
        exact hanswer
      · rw [List.concat_eq_append, ← List.cons_append, ← List.append_assoc] at h
        obtain ⟨rfl, -⟩ := List.append_inj' h rfl
        have hne : j ∉ List.replicate 5 i := by
          intro hmem
          obtain rfl := List.eq_of_mem_replicate hmem
          exact hi (by simp)
        rw [stage_foldl_of_not_mem hne]
        exact hanswers before j rest rfl

end Serial

/-! ## Requests that agree -/

/-- If the step of the request takes the entry away, no request holds the cell or makes an invoker in
it. -/
def LeavesNone (s : Sharing) (i : Nat) : Prop :=
  ∀ e c, s.stage i = .failed e → s.kept? = none → s.entry = some c →
    ∀ j, s.stage j ≠ .holding c ∧ s.stage j ≠ .making c

/-- No entry is taken away from a request that holds its cell. -/
def Orderly (make : Nat → Except Failure CompiledInvoker) : Sharing → List Nat → Prop
  | _, [] => True
  | s, i :: schedule => s.LeavesNone i ∧ Orderly make (s.advance make i) schedule

/-- All requests that succeed get the same invoker, at most one of them succeeds in making it, and a
request that begins after another one has succeeded makes none. -/
structure Agrees (make : Nat → Except Failure CompiledInvoker) (schedule : List Nat) : Prop where
  same : ∀ {i j : Nat} {x y : CompiledInvoker}, (run make schedule).stage i = .answered (.ok x) →
    (run make schedule).stage j = .answered (.ok y) → x = y
  once : (run make schedule).filled.length ≤ 1
  final : ∀ before after, schedule = before ++ after → ∀ i x,
    (run make before).stage i = .answered (.ok x) → ∀ j, (run make before).stage j = .idle →
      j ∉ (run make schedule).runs

/-- A request holds the cell, makes an invoker in it or has filled it. -/
def Uses (s : Sharing) (c : Nat) : Prop :=
  (∃ j, s.stage j = .holding c ∨ s.stage j = .making c) ∨ ∃ j, (j, c) ∈ s.filled

/-- All cells that are used are the one that is entered. -/
def Single (s : Sharing) : Prop := ∀ c, s.Uses c → s.entry = some c

theorem Uses.of_move {stage : Stage} {c : Nat} (h : (s.move i stage).Uses c)
    (hstage : stage = .holding c ∨ stage = .making c → s.Uses c) : s.Uses c := by
  obtain ⟨j, hj⟩ | hfilled := h
  · rw [stage_move] at hj
    split at hj
    · exact hstage hj
    · exact .inl ⟨j, hj⟩
  · exact .inr hfilled

theorem Advances.uses (h : Advances make s i t) {c : Nat} (hc : t.Uses c) :
    s.Uses c ∨ t.entry = some c := by
  cases h with
  | hit idle kept => exact .inl (hc.of_move (by simp))
  | miss idle missing => exact .inl (hc.of_move (by simp))
  | @join d missed entered =>
      by_cases hcd : d = c
      · exact .inr (hcd ▸ entered)
      · exact .inl (hc.of_move (by simp [hcd]))
  | enter missed free =>
      by_cases hcd : s.cells.length = c
      · exact .inr (hcd ▸ rfl)
      · exact .inl (hc.of_move (by simp [hcd]))
  | take holding complete => exact .inl (hc.of_move (by simp))
  | begin holding empty =>
      refine .inl (hc.of_move fun hstage => ?_)
      obtain rfl : _ = c := by simpa using hstage
      exact .inl ⟨i, .inl holding⟩
  | succeed making made =>
      obtain ⟨j, hj⟩ | ⟨j, hj⟩ := hc
      · rw [stage_move] at hj
        split at hj
        · simp at hj
        · exact .inl (.inl ⟨j, hj⟩)
      · rcases List.mem_append.mp hj with hj | hj
        · exact .inl (.inr ⟨j, hj⟩)
        · obtain ⟨-, rfl⟩ := Prod.mk.inj (List.mem_singleton.mp hj)
          exact .inl (.inl ⟨i, .inr making⟩)
  | fail making failure => exact .inl (hc.of_move (by simp))
  | leave failed kept => exact .inl (hc.of_move (by simp))
  | remove failed missing => exact .inl (hc.of_move (by simp))
  | stay => exact .inl hc

namespace Consistent

theorem kept?_of_filled (h : Consistent make s) {j c : Nat} (hj : (j, c) ∈ s.filled)
    (hentry : s.entry = some c) : ∃ x, s.kept? = some x := by
  obtain ⟨x, -, hc⟩ := h.filled hj
  exact ⟨x, kept?_eq_some.mpr ⟨c, hentry, hc⟩⟩

theorem kept?_step (h : Consistent make s) (hst : Advances make s i t) {x : CompiledInvoker}
    (hkept : s.kept? = some x) : t.kept? = some x := by
  obtain ⟨c, hentry, hc⟩ := kept?_eq_some.mp hkept
  refine kept?_eq_some.mpr ⟨c, ?_, h.held_step hst hc⟩
  cases hst with
  | enter missed free => simp [free] at hentry
  | remove failed missing => simp [hkept] at missing
  | _ => exact hentry

end Consistent

namespace Single

theorem step (h : s.Single) (hs : Consistent make s) (hst : Advances make s i t)
    (hleaves : s.LeavesNone i) : t.Single := by
  intro c hc
  rcases hst.uses hc with hbefore | hentry
  · have hentry := h c hbefore
    cases hst with
    | enter missed free => simp [free] at hentry
    | remove failed missing =>
        -- the cell that is taken away is neither held nor filled
        rcases hbefore with ⟨j, hj⟩ | ⟨j, hj⟩
        · obtain ⟨hholding, hmaking⟩ := hleaves _ c failed missing hentry j
          exact absurd hj (not_or.mpr ⟨hholding, hmaking⟩)
        · obtain ⟨x, hkept⟩ := hs.kept?_of_filled hj hentry
          simp [hkept] at missing
    | _ => exact hentry
  · exact hentry

theorem kept?_of_held (h : s.Single) (hs : Consistent make s) {c : Nat} {x : CompiledInvoker}
    (hc : s.held? c = some x) : s.kept? = some x := by
  obtain ⟨j, hj, -⟩ := hs.held hc
  exact kept?_eq_some.mpr ⟨c, h c (.inr ⟨j, hj⟩), hc⟩

theorem kept?_of_answered (h : s.Single) (hs : Consistent make s) {x : CompiledInvoker}
    (hi : s.stage i = .answered (.ok x)) : s.kept? = some x := by
  obtain ⟨c, hc⟩ := hs.explains hi
  exact h.kept?_of_held hs hc

theorem length_filled_le (h : s.Single) (hs : Consistent make s) : s.filled.length ≤ 1 := by
  have hentry {p : Nat × Nat} (hp : p ∈ s.filled) : s.entry = some p.2 := h p.2 (.inr ⟨p.1, hp⟩)
  have honce := hs.once
  rcases hfilled : s.filled with _ | ⟨p, _ | ⟨q, rest⟩⟩
  · simp
  · simp
  · rw [hfilled] at honce hentry
    have hne : p.2 ≠ q.2 := List.ne_of_not_mem_cons (List.nodup_cons.mp honce).1
    have hpq : some p.2 = some q.2 := (hentry (by simp)).symm.trans (hentry (by simp))
    exact absurd (Option.some.inj hpq) hne

/-- When an invoker is kept, no request makes another one. -/
theorem runs_step (h : s.Single) (hst : Advances make s i t) {x : CompiledInvoker}
    (hkept : s.kept? = some x) : t.runs = s.runs := by
  cases hst with
  | @begin c holding empty =>
      have hentry : s.entry = some c := h c (.inl ⟨i, .inl holding⟩)
      obtain ⟨d, hd, hheld⟩ := kept?_eq_some.mp hkept
      obtain rfl : c = d := Option.some.inj (hentry.symm.trans hd)
      rw [held?_of_getElem? empty] at hheld
      cases hheld
  | _ => rfl

theorem foldl (h : s.Single) (hs : Consistent make s) {schedule : List Nat}
    (horderly : Orderly make s schedule) :
    (schedule.foldl (advance make) s).Single := by
  induction schedule generalizing s with
  | nil => exact h
  | cons i schedule ih =>
      obtain ⟨hleaves, hrest⟩ := horderly
      have hst := advances_advance make s i
      exact ih (h.step hs hst hleaves) (hs.step hst) hrest

theorem runs_foldl (h : s.Single) (hs : Consistent make s) {x : CompiledInvoker}
    (hkept : s.kept? = some x) {schedule : List Nat} (horderly : Orderly make s schedule) :
    (schedule.foldl (advance make) s).runs = s.runs := by
  induction schedule generalizing s with
  | nil => rfl
  | cons i schedule ih =>
      obtain ⟨hleaves, hrest⟩ := horderly
      have hst := advances_advance make s i
      have hlater := ih (h.step hs hst hleaves) (hs.step hst) (hs.kept?_step hst hkept) hrest
      exact hlater.trans (h.runs_step hst hkept)

end Single

theorem single_initial : initial.Single := by
  rintro c (⟨j, hj⟩ | ⟨j, hj⟩)
  · simp [initial] at hj
  · simp [initial] at hj

/-- A request leaves no other one when all others have not begun. -/
theorem orderly_replicate (hidle : ∀ j, j ≠ i → s.stage j = .idle) (n : Nat) :
    Orderly make s (List.replicate n i) := by
  induction n generalizing s with
  | zero => trivial
  | succ n ih =>
      refine ⟨fun e c hfailed _ _ j => ?_, ih fun j hne => ?_⟩
      · by_cases hne : j = i
        · simp [hne, hfailed]
        · simp [hidle j hne]
      · exact ((advances_advance make s i).stage_of_ne hne).trans (hidle j hne)

theorem orderly_append {before after : List Nat} :
    Orderly make s (before ++ after) ↔
      Orderly make s before ∧ Orderly make (before.foldl (advance make) s) after := by
  induction before generalizing s with
  | nil => simp [Orderly]
  | cons i before ih => simp only [List.cons_append, Orderly, ih, and_assoc, List.foldl_cons]

theorem agrees_of_orderly {schedule : List Nat} (h : Orderly make initial schedule) :
    Agrees make schedule := by
  have hs := consistent_run make schedule
  have hsingle : (run make schedule).Single := single_initial.foldl consistent_initial h
  constructor
  · intro i j x y hi hj
    have hx := hsingle.kept?_of_answered hs hi
    have hy := hsingle.kept?_of_answered hs hj
    exact Option.some.inj (hx.symm.trans hy)
  · exact hsingle.length_filled_le hs
  · rintro before after rfl i x hi j hj
    obtain ⟨hbefore, hafter⟩ := orderly_append.mp h
    have hmiddle := consistent_run make before
    have hone : (run make before).Single := single_initial.foldl consistent_initial hbefore
    have hruns := hone.runs_foldl hmiddle (hone.kept?_of_answered hmiddle hi) hafter
    rw [run_append, hruns]
    exact hmiddle.explains hj

/-! ## When all schedules are good -/

theorem orderly_of_ok (h : Consistent make s) {schedule : List Nat}
    (hok : ∀ i ∈ schedule, ∃ x, make i = .ok x) : Orderly make s schedule := by
  induction schedule generalizing s with
  | nil => trivial
  | cons i schedule ih =>
      refine ⟨fun e c hfailed => ?_, ih (h.step (advances_advance make s i)) fun j hj => ?_⟩
      · obtain ⟨x, hx⟩ := hok i List.mem_cons_self
        have hcontra : Except.ok x = Except.error e := hx.symm.trans (h.explains hfailed)
        cases hcontra
      · exact hok j (List.mem_cons_of_mem i hj)

theorem agrees_of_error (hfailing : ∀ i, ∃ e, make i = .error e) (schedule : List Nat) :
    Agrees make schedule := by
  have hnone (before : List Nat) {i : Nat} {x : CompiledInvoker} :
      (run make before).stage i ≠ .answered (.ok x) := by
    intro hi
    have hs := consistent_run make before
    obtain ⟨c, hc⟩ := hs.explains hi
    obtain ⟨j, -, hj⟩ := hs.held hc
    obtain ⟨e, he⟩ := hfailing j
    simp [he] at hj
  constructor
  · intro i j x y hi
    exact absurd hi (hnone schedule)
  · cases hfilled : (run make schedule).filled with
    | nil => simp
    | cons p rest =>
        have hp : (p.1, p.2) ∈ (run make schedule).filled := by simp [hfilled]
        obtain ⟨x, hx, -⟩ := (consistent_run make schedule).filled hp
        obtain ⟨e, he⟩ := hfailing p.1
        simp [he] at hx
  · intro before after _ i x hi
    exact absurd hi (hnone before)

/-- The first request fails and takes the entry away while the second one makes the invoker. -/
def race (a b : Nat) : List Nat := [a, b, a, b, a, a, b, a, b]

section Race

variable {a b : Nat} {e : Failure} {x : CompiledInvoker} (ha : make a = .error e)
  (hb : make b = .ok x)
include ha hb

theorem run_race : run make (race a b) =
    ⟨none, [.complete x],
      fun j => if j = b then .answered (.ok x) else if j = a then .answered (.error e) else .idle,
      [a, b], [(b, 0)]⟩ := by
  have hab : a ≠ b := by
    rintro rfl
    simp [ha] at hb
  simp only [run, race, List.foldl_cons, List.foldl_nil]
  simp [advance, initial, kept?, OnceCell.get?, move, ha, hb, hab, hab.symm]
  funext j
  by_cases hjb : j = b
  · simp [hjb]
  · by_cases hja : j = a
    · simp [hja, hab]
    · simp [hja, hjb]

theorem not_agrees_race {d : Nat} (hda : d ≠ a) (hdb : d ≠ b) :
    ¬ Agrees make (race a b ++ [d, d, d]) := by
  intro h
  have hrace := run_race ha hb
  refine h.final (race a b) [d, d, d] rfl b x ?_ d ?_ ?_
  · simp [hrace]
  · simp [hrace, hda, hdb]
  · rw [run_append, hrace]
    simp [advance, kept?, move, hda, hdb]

end Race

/-- In every schedule the cells stay consistent, and in an orderly one the requests agree. They agree
in all schedules only if all tries to make the invoker come to the same, success or failure. -/
theorem run_agrees (make : Nat → Except Failure CompiledInvoker) (schedule : List Nat) :
    Consistent make (run make schedule) ∧
      (Orderly make initial schedule → Agrees make schedule) ∧
      ((∀ other, Agrees make other) ↔
        (∀ i, ∃ x, make i = .ok x) ∨ ∀ i, ∃ e, make i = .error e) := by
  refine ⟨consistent_run make schedule, agrees_of_orderly, fun h => ?_, ?_⟩
  · by_contra hmixed
    obtain ⟨hfails, hsucceeds⟩ := not_or.mp hmixed
    obtain ⟨a, ha⟩ := not_forall.mp hfails
    obtain ⟨b, hb⟩ := not_forall.mp hsucceeds
    cases hmakea : make a with
    | ok x => exact ha ⟨x, hmakea⟩
    | error e =>
        cases hmakeb : make b with
        | error f => exact hb ⟨f, hmakeb⟩
        | ok x =>
            have hother := not_agrees_race hmakea hmakeb
              (by omega : a + b + 1 ≠ a) (by omega : a + b + 1 ≠ b)
            exact hother (h _)
  · rintro (hok | hfailing) other
    · exact agrees_of_orderly (orderly_of_ok consistent_initial fun i _ => hok i)
    · exact agrees_of_error hfailing other

end Sharing

namespace Samples

open Sharing

/-- The first request knows no way to make an invoker, the others do. -/
def circleMakes (i : Nat) : Except Failure CompiledInvoker :=
  Attempt.outcome (InvokerRequest.make ⟨.field (circle.described 2) "id",
    Registry.initial.resolver,
    if i = 0 then [.refusing .native (.disabled .native)] else Strategy.standard true true, i⟩)

theorem race_disagrees :
    (run circleMakes (race 0 1)).stage 1 = .answered (circleMakes 1) ∧
      (run circleMakes (race 0 1)).stage 2 = .idle ∧
      (run circleMakes (race 0 1 ++ List.replicate 5 2)).stage 2 = .answered (circleMakes 2) ∧
      (run circleMakes (race 0 1 ++ List.replicate 5 2)).runs = [0, 1, 2] ∧
      (run circleMakes (race 0 1 ++ List.replicate 5 2)).filled = [(1, 0), (2, 1)] ∧
      (∃ x y, circleMakes 1 = .ok x ∧ circleMakes 2 = .ok y ∧ x ≠ y) ∧
      ¬ Agrees circleMakes (race 0 1 ++ List.replicate 5 2) := by
  have hfilled : (run circleMakes (race 0 1 ++ List.replicate 5 2)).filled = [(1, 0), (2, 1)] := rfl
  refine ⟨rfl, rfl, rfl, rfl, hfilled, ⟨_, _, rfl, rfl, ?_⟩, fun h => ?_⟩
  · intro hsame
    -- the serial numbers tell the invokers apart
    obtain ⟨hserial, -⟩ := CompiledInvoker.field.inj hsame
    cases hserial
  · have honce := h.once
    rw [hfilled] at honce
    exact absurd honce (by decide)

/-- The first request has failed before the others begin. -/
def orderlySchedule : List Nat := List.replicate 5 0 ++ [1, 2, 1, 2, 1, 1, 2]

theorem run_agrees_circleMakes :
    (run circleMakes orderlySchedule).stage 0 = .answered (circleMakes 0) ∧
      (run circleMakes orderlySchedule).stage 1 = .answered (circleMakes 1) ∧
      (run circleMakes orderlySchedule).stage 2 = .answered (circleMakes 1) ∧
      Agrees circleMakes orderlySchedule ∧ ¬ ∀ other, Agrees circleMakes other := by
  obtain ⟨-, hagrees, hall⟩ := run_agrees circleMakes orderlySchedule
  have hmakes {i : Nat} (hi : i ≠ 0) : ∃ x, circleMakes i = .ok x := by
    rw [circleMakes, if_neg hi]
    exact ⟨_, rfl⟩
  have horderly : Orderly circleMakes initial orderlySchedule := by
    refine orderly_append.mpr ⟨orderly_replicate (fun j _ => rfl) 5, ?_⟩
    refine orderly_of_ok (consistent_run circleMakes (List.replicate 5 0)) fun i hi => hmakes ?_
    rintro rfl
    exact absurd hi (by decide)
  refine ⟨rfl, rfl, rfl, hagrees horderly, fun h => ?_⟩
  rcases hall.mp h with hok | hfailing
  · obtain ⟨x, hx⟩ := hok 0
    cases hx
  · obtain ⟨e, he⟩ := hfailing 1
    cases he

end Samples

end Metaobject
