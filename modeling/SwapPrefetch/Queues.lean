/-
Pages on two queues, and the queue of victims.

A replacement scheme keeps its pages on an active and an inactive queue, oldest first. A scan takes
the oldest inactive page and puts it back at the end, promotes it to the active queue or gives it
up; another scan demotes the oldest active page. Whatever a scan decides, a run of such moves loses
and copies no page, the victims stand in the order in which they were given up, and a victim is not
moved again.
-/
import Mathlib.Tactic

set_option autoImplicit false

namespace Lru

variable {ι : Type}

/-- The three queues, oldest first. -/
structure Queues (ι : Type) where
  active : List ι
  inactive : List ι
  eviction : List ι

/-- All pages. -/
def Queues.all (q : Queues ι) : List ι := q.active ++ q.inactive ++ q.eviction

/-- What a scan does with a page. -/
inductive Move (ι : Type) where
  | keep (i : ι)
  | promote (i : ι)
  | evict (i : ι)
  | demote (i : ι)

namespace Move

/-- The page that is moved. -/
def page : Move ι → ι
  | keep i => i
  | promote i => i
  | evict i => i
  | demote i => i

/-- The page that is given up. -/
def victim : Move ι → Option ι
  | evict i => some i
  | _ => none

/-- The page that is promoted. -/
def promoted : Move ι → Option ι
  | promote i => some i
  | _ => none

/-- The move is made by the scan of the inactive queue. -/
def examines : Move ι → Bool
  | demote _ => false
  | _ => true

theorem victim_eq_some {m : Move ι} {i : ι} : m.victim = some i ↔ m = evict i := by
  cases m <;> simp [victim]

/-- What demotions do not have is in the moves of the other scan. -/
theorem filterMap_examines {β : Type} {f : Move ι → Option β} (hf : ∀ i, f (demote i) = none)
    (ms : List (Move ι)) : (ms.filter examines).filterMap f = ms.filterMap f := by
  rw [List.filterMap_filter]
  refine List.filterMap_congr fun m _ => ?_
  cases m with
  | demote i => exact (hf i).symm
  | _ => rfl

end Move

/-- The queues before and after one move. -/
inductive Step : Queues ι → Move ι → Queues ι → Prop
  | keep (i : ι) (a l e : List ι) : Step ⟨a, i :: l, e⟩ (.keep i) ⟨a, l ++ [i], e⟩
  | promote (i : ι) (a l e : List ι) : Step ⟨a, i :: l, e⟩ (.promote i) ⟨a ++ [i], l, e⟩
  | evict (i : ι) (a l e : List ι) : Step ⟨a, i :: l, e⟩ (.evict i) ⟨a, l, e ++ [i]⟩
  | demote (i : ι) (a l e : List ι) : Step ⟨i :: a, l, e⟩ (.demote i) ⟨a, l ++ [i], e⟩

/-- The queues before and after a run of moves. -/
inductive Run : Queues ι → List (Move ι) → Queues ι → Prop
  | nil (q : Queues ι) : Run q [] q
  | cons {q q' q'' : Queues ι} {m : Move ι} {ms : List (Move ι)} (step : Step q m q')
      (run : Run q' ms q'') : Run q (m :: ms) q''

section

variable {q q' q'' : Queues ι} {m : Move ι} {ms ms' : List (Move ι)} {i : ι}

theorem Run.append (h : Run q ms q') (h' : Run q' ms' q'') : Run q (ms ++ ms') q'' := by
  induction h with
  | nil => exact h'
  | cons step _ ih => exact .cons step (ih h')

/-! ## No page is lost or copied -/

theorem Step.perm (h : Step q m q') : q'.all.Perm q.all := by
  cases h with
  | keep i a l e =>
      refine List.Perm.append_right e (List.Perm.append_left a ?_)
      exact List.perm_append_singleton i l
  | promote i a l e =>
      refine List.Perm.append_right e ?_
      rw [List.append_assoc, List.singleton_append]
  | evict i a l e =>
      simp only [Queues.all, List.append_assoc, List.cons_append]
      refine List.Perm.append_left a ?_
      rw [← List.append_assoc]
      exact List.perm_append_singleton i (l ++ e)
  | demote i a l e =>
      refine List.Perm.append_right e ?_
      rw [← List.append_assoc]
      exact List.perm_append_singleton i (a ++ l)

theorem Run.perm (h : Run q ms q') : q'.all.Perm q.all := by
  induction h with
  | nil => rfl
  | cons step _ ih => exact ih.trans step.perm

/-! ## Victims and promoted pages -/

theorem Step.eviction (h : Step q m q') : q'.eviction = q.eviction ++ m.victim.toList := by
  cases h <;> simp [Move.victim]

/-- The victims stand in the order in which they were given up. -/
theorem Run.eviction (h : Run q ms q') : q'.eviction = q.eviction ++ ms.filterMap Move.victim := by
  induction h with
  | nil => simp
  | cons step _ ih =>
      rw [ih, step.eviction, List.append_assoc, List.filterMap_cons]
      rcases hm : Move.victim _ with _ | i
      · rfl
      · rfl

/-- A page is on the active queue because it was there or because it was promoted. -/
theorem Run.active (h : Run q ms q') (hi : i ∈ q'.active) :
    i ∈ q.active ∨ i ∈ ms.filterMap Move.promoted := by
  induction h with
  | nil => exact Or.inl hi
  | @cons q q₁ q₂ m ms step _ ih =>
      rcases ih hi with hi | hi
      · cases step with
        | keep => exact Or.inl hi
        | evict => exact Or.inl hi
        | demote => exact Or.inl (List.mem_cons_of_mem _ hi)
        | promote j a l e =>
            rcases List.mem_append.1 hi with hi | hi
            · exact Or.inl hi
            · rw [List.mem_singleton.1 hi]
              exact Or.inr (List.mem_filterMap.2 ⟨_, List.mem_cons_self, rfl⟩)
      · obtain ⟨m', hm', he⟩ := List.mem_filterMap.1 hi
        exact Or.inr (List.mem_filterMap.2 ⟨m', List.mem_cons_of_mem _ hm', he⟩)

/-! ## Scans of the inactive queue alone -/

theorem Step.inactive_subset (h : Step q m q') (hm : m.examines = true) :
    m.page ∈ q.inactive ∧ ∀ j ∈ q'.inactive, j ∈ q.inactive := by
  cases h with
  | keep i a l e =>
      refine ⟨List.mem_cons_self, fun j hj => ?_⟩
      rcases List.mem_append.1 hj with hj | hj
      · exact List.mem_cons_of_mem i hj
      · rw [List.mem_singleton.1 hj]
        exact List.mem_cons_self
  | promote i a l e => exact ⟨List.mem_cons_self, fun j hj => List.mem_cons_of_mem i hj⟩
  | evict i a l e => exact ⟨List.mem_cons_self, fun j hj => List.mem_cons_of_mem i hj⟩
  | demote i a l e => cases hm

theorem Run.page_inactive (h : Run q ms q') (hms : ∀ m ∈ ms, m.examines = true) :
    ∀ m ∈ ms, m.page ∈ q.inactive := by
  induction h with
  | nil => exact fun m hm => absurd hm List.not_mem_nil
  | @cons q q₁ q₂ m ms step _ ih =>
      have hstep := step.inactive_subset (hms m List.mem_cons_self)
      intro m' hm'
      rcases List.mem_cons.1 hm' with rfl | hm'
      · exact hstep.1
      · exact hstep.2 _ (ih (fun m hm => hms m (List.mem_cons_of_mem _ hm)) m' hm')

/-- A page that is always put back stays on the inactive queue. -/
theorem Run.kept (h : Run q ms q') (hms : ∀ m ∈ ms, m.page = i → m = .keep i)
    (hi : i ∈ q.inactive) : i ∈ q'.inactive := by
  induction h with
  | nil => exact hi
  | @cons q q₁ q₂ m ms step _ ih =>
      refine ih (fun m hm => hms m (List.mem_cons_of_mem _ hm)) ?_
      have hm := hms m List.mem_cons_self
      -- only a move of the page itself could take it off the queue
      cases step with
      | keep j a l e =>
          rcases List.mem_cons.1 hi with rfl | hi
          · exact List.mem_append_right l List.mem_cons_self
          · exact List.mem_append_left [j] hi
      | promote j a l e =>
          rcases List.mem_cons.1 hi with rfl | hi
          · cases hm rfl
          · exact hi
      | evict j a l e =>
          rcases List.mem_cons.1 hi with rfl | hi
          · cases hm rfl
          · exact hi
      | demote j a l e => exact List.mem_append_left [j] hi

/-! ## A victim is not moved again -/

theorem Step.page_mem (h : Step q m q') : m.page ∈ q.active ++ q.inactive := by
  cases h <;> simp [Move.page]

theorem Run.not_moved (h : Run q ms q') (hnodup : q.all.Nodup) (hi : i ∈ q.eviction) :
    ∀ m ∈ ms, m.page ≠ i := by
  induction h with
  | nil => exact fun m hm => absurd hm List.not_mem_nil
  | @cons q q₁ q₂ m ms step _ ih =>
      intro m' hm'
      rcases List.mem_cons.1 hm' with rfl | hm'
      · rintro rfl
        -- the moved page would be on two queues
        exact List.disjoint_of_nodup_append hnodup step.page_mem hi
      · refine ih (step.perm.nodup_iff.2 hnodup) ?_ m' hm'
        rw [step.eviction]
        exact List.mem_append_left _ hi

/-- A victim's last move is the one that gives it up. -/
theorem Run.last_move (h : Run q ms q') (hnodup : q.all.Nodup)
    (hi : i ∈ ms.filterMap Move.victim) :
    ∃ before after, ms = before ++ .evict i :: after ∧ ∀ m ∈ after, m.page ≠ i := by
  induction h with
  | nil => exact absurd hi List.not_mem_nil
  | @cons q q₁ q₂ m ms step run ih =>
      have hnodup₁ := step.perm.nodup_iff.2 hnodup
      by_cases hlater : i ∈ ms.filterMap Move.victim
      · obtain ⟨before, after, rfl, hafter⟩ := ih hnodup₁ hlater
        exact ⟨m :: before, after, rfl, hafter⟩
      · obtain ⟨m', hm', he⟩ := List.mem_filterMap.1 hi
        rcases List.mem_cons.1 hm' with rfl | hm'
        · rw [Move.victim_eq_some] at he
          subst he
          refine ⟨[], ms, rfl, run.not_moved hnodup₁ ?_⟩
          rw [step.eviction]
          exact List.mem_append_right _ List.mem_cons_self
        · exact absurd (List.mem_filterMap.2 ⟨m', hm', he⟩) hlater

end

end Lru
