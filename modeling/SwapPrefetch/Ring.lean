/-
Ring buffers as queues, and runs of a system with total steps.

A ring of capacity `N` keeps its entries in `count` slots from `head` on, modulo `N`. Its
queue is the list of these entries. Writing at the tail of a ring that is not full appends
to the queue, and advancing the head removes the first entry, whatever the other slots hold.

`Meets C run s` says that a run from `s` makes only steps that satisfy `C` in the state
they are made in. An invariant that such steps keep holds at the end of the run.

`execStrict` runs a second version of the steps that may stop with an error. Where an
invariant of the run makes every strict step agree with the total one, the strict run ends
without an error, in the state of the total run.
-/
import Mathlib.Tactic

set_option autoImplicit false

namespace Ring

variable {β : Type} {N : ℕ}

/-- The entries of `n` slots from `head` on. -/
def view (N : ℕ) (slots : ℕ → β) (head : ℕ) : ℕ → List β
  | 0 => []
  | n + 1 => slots (head % N) :: view N slots (head + 1) n

variable {slots slots' : ℕ → β} {head n : ℕ}

/-- Only the slots in the range matter. -/
theorem view_congr {head' : ℕ} (h : ∀ i, i < n → slots ((head + i) % N) = slots' ((head' + i) % N)) :
    view N slots head n = view N slots' head' n := by
  induction n generalizing head head' with
  | zero => rfl
  | succ n ih =>
      have hfirst : slots (head % N) = slots' (head' % N) := h 0 (Nat.succ_pos n)
      have hrest : view N slots (head + 1) n = view N slots' (head' + 1) n := by
        refine ih fun i hi => ?_
        have hstep := h (i + 1) (Nat.succ_lt_succ hi)
        rwa [show head + (i + 1) = head + 1 + i by omega,
          show head' + (i + 1) = head' + 1 + i by omega] at hstep
      rw [view, view, hfirst, hrest]

/-- The head is kept modulo the capacity. -/
theorem view_mod : view N slots (head % N) n = view N slots head n :=
  view_congr fun i _ => by rw [Nat.mod_add_mod]

/-- The last entry of the queue. -/
theorem view_succ : view N slots head (n + 1) = view N slots head n ++ [slots ((head + n) % N)] := by
  induction n generalizing head with
  | zero => simp [view]
  | succ n ih =>
      rw [view, ih, view, List.cons_append, show head + 1 + n = head + (n + 1) by omega]

theorem mem_view {i : ℕ} (hi : i < n) : slots ((head + i) % N) ∈ view N slots head n := by
  induction n generalizing head i with
  | zero => exact absurd hi (Nat.not_lt_zero i)
  | succ n ih =>
      rcases i with _ | i
      · exact List.mem_cons_self
      · have htail : slots ((head + 1 + i) % N) ∈ view N slots (head + 1) n :=
          ih (Nat.lt_of_succ_lt_succ hi)
        rw [show head + (i + 1) = head + 1 + i by omega]
        exact List.mem_cons_of_mem _ htail

/-- Two positions of a ring are different slots. -/
theorem index_inj {i j : ℕ} (hi : i < N) (hj : j < N) (h : (head + i) % N = (head + j) % N) :
    i = j := by
  have hmod : i % N = j % N := Nat.ModEq.add_left_cancel' head h
  rwa [Nat.mod_eq_of_lt hi, Nat.mod_eq_of_lt hj] at hmod

/-- A slot outside the range can be overwritten. -/
theorem view_update {j : ℕ} (hj : j < N) (hn : n ≤ j) (x : β) :
    view N (Function.update slots ((head + j) % N) x) head n = view N slots head n := by
  refine view_congr fun i hi => ?_
  rw [Function.update_of_ne]
  intro he
  have := index_inj (lt_of_lt_of_le hi (le_trans hn hj.le)) hj he
  omega

/-- Writing at the tail of a ring that is not full appends to the queue. -/
theorem view_push (hn : n < N) (x : β) :
    view N (Function.update slots ((head + n) % N) x) head (n + 1) = view N slots head n ++ [x] := by
  rw [view_succ, view_update hn le_rfl, Function.update_self]

/-- Writing at the head and advancing it removes the first entry. -/
theorem view_pop (hn : n < N) (x : β) :
    view N (Function.update slots (head % N) x) (head + 1) n = view N slots (head + 1) n := by
  refine view_congr fun i hi => ?_
  rw [Function.update_of_ne]
  intro he
  have hz : (head + (i + 1)) % N = (head + 0) % N := by
    rw [show head + (i + 1) = head + 1 + i by omega, Nat.add_zero]
    exact he
  have := index_inj (Nat.succ_le_of_lt (lt_of_le_of_lt (Nat.succ_le_of_lt hi) hn)) (by omega) hz
  omega

end Ring

namespace Guarded

variable {σ τ : Type}

/-- Make the steps of a run one after another. -/
def exec (step : τ → σ → σ) (run : List τ) (s : σ) : σ := run.foldl (fun s t => step t s) s

/-- Every step of the run satisfies `C` in the state it is made in. -/
def Meets (step : τ → σ → σ) (C : σ → τ → Prop) : List τ → σ → Prop
  | [], _ => True
  | t :: run, s => C s t ∧ Meets step C run (step t s)

/-- A run meets a guard that can be tested if every step passes the test. -/
def decidableMeets (step : τ → σ → σ) (C : σ → τ → Prop) [∀ s t, Decidable (C s t)] :
    ∀ (run : List τ) (s : σ), Decidable (Meets step C run s)
  | [], _ => isTrue trivial
  | t :: run, s =>
      match (inferInstance : Decidable (C s t)), decidableMeets step C run (step t s) with
      | isTrue h, isTrue h' => isTrue ⟨h, h'⟩
      | isFalse h, _ => isFalse fun hm => h hm.1
      | _, isFalse h' => isFalse fun hm => h' hm.2

instance (step : τ → σ → σ) (C : σ → τ → Prop) [∀ s t, Decidable (C s t)] (run : List τ) (s : σ) :
    Decidable (Meets step C run s) :=
  decidableMeets step C run s

/-- **Guarded runs.** An invariant that the guarded steps keep holds after every run that
meets the guard. -/
theorem exec_invariant {step : τ → σ → σ} {C : σ → τ → Prop} {I : σ → Prop}
    (h : ∀ s t, I s → C s t → I (step t s)) {run : List τ} {s : σ} (hs : I s)
    (hrun : Meets step C run s) : I (exec step run s) := by
  induction run generalizing s with
  | nil => exact hs
  | cons t run ih => exact ih (h s t hs hrun.1) hrun.2

/-- **Runs.** An invariant that every step keeps holds after every run. -/
theorem exec_of_step {step : τ → σ → σ} {I : σ → Prop} (h : ∀ s t, I s → I (step t s))
    (run : List τ) {s : σ} (hs : I s) : I (exec step run s) := by
  induction run generalizing s with
  | nil => exact hs
  | cons t run ih => exact ih (h s t hs)

/-- An invariant that the steps of a kind keep holds after every run of such steps. -/
theorem exec_of_forall {step : τ → σ → σ} {P : τ → Prop} {I : σ → Prop}
    (h : ∀ s t, I s → P t → I (step t s)) {run : List τ} {s : σ} (hs : I s)
    (hrun : ∀ t ∈ run, P t) : I (exec step run s) := by
  induction run generalizing s with
  | nil => exact hs
  | cons t run ih =>
      obtain ⟨ht, hrun⟩ := List.forall_mem_cons.1 hrun
      exact ih (h s t hs ht) hrun

/-- If a property of the state after a step tells that it held before, and that the step met the
guard, then a run that ends with the property met the guard. -/
theorem meets_of_exec {step : τ → σ → σ} {C : σ → τ → Prop} {I P : σ → Prop}
    (hI : ∀ s t, I s → I (step t s)) (h : ∀ s t, I s → P (step t s) → P s ∧ C s t)
    {run : List τ} {s : σ} (hs : I s) (hP : P (exec step run s)) : P s ∧ Meets step C run s := by
  induction run generalizing s with
  | nil => exact ⟨hP, trivial⟩
  | cons t run ih =>
      obtain ⟨hstep, hrun⟩ := ih (hI s t hs) hP
      obtain ⟨hbefore, hguard⟩ := h s t hs hstep
      exact ⟨hbefore, hguard, hrun⟩

/-- **All states of a run.** If `P` holds wherever the invariant does, and the next state has `P`
only if the step meets the guard and the invariant if it does, then `P` holds in all states of
exactly the runs that meet the guard. -/
theorem always_iff_meets {step : τ → σ → σ} {C : σ → τ → Prop} {I P : σ → Prop}
    (hP : ∀ s, I s → P s) (hC : ∀ s t, I s → P (step t s) → C s t)
    (hI : ∀ s t, I s → C s t → I (step t s)) {run : List τ} {s : σ} (hs : I s) :
    (∀ n, P (exec step (run.take n) s)) ↔ Meets step C run s := by
  induction run generalizing s with
  | nil =>
      refine iff_of_true (fun n => ?_) trivial
      rw [List.take_nil]
      exact hP s hs
  | cons t run ih =>
      constructor
      · intro hall
        have hguard := hC s t hs (hall 1)
        exact ⟨hguard, (ih (hI s t hs hguard)).1 fun n => hall (n + 1)⟩
      · rintro ⟨hguard, hrun⟩ n
        cases n with
        | zero => exact hP s hs
        | succ n => exact (ih (hI s t hs hguard)).2 hrun n

/-- The same for a property that holds after a step exactly if the step meets the guard. -/
theorem throughout_iff_meets {step : τ → σ → σ} {C : σ → τ → Prop} {I P : σ → Prop}
    (hI : ∀ s t, I s → I (step t s)) (h : ∀ s t, I s → P s → (P (step t s) ↔ C s t))
    {run : List τ} {s : σ} (hs : I s) (hP : P s) :
    (∀ n, P (exec step (run.take n) s)) ↔ Meets step C run s :=
  always_iff_meets (I := fun s => I s ∧ P s) (fun _ hs => hs.2)
    (fun s t hs => (h s t hs.1 hs.2).1)
    (fun s t hs hguard => ⟨hI s t hs.1, (h s t hs.1 hs.2).2 hguard⟩) ⟨hs, hP⟩

/-- Make the steps of a run one after another, when a step can fail. -/
def execStrict {ε : Type} (strict : τ → σ → Except ε σ) (run : List τ) (s : σ) : Except ε σ :=
  run.foldlM (fun s t => strict t s) s

/-- **Strict runs.** If the strict steps do what the steps do wherever the invariant holds, then no
strict step of a run fails, and the run ends where the other one ends. -/
theorem execStrict_eq_ok {ε : Type} {strict : τ → σ → Except ε σ} {step : τ → σ → σ} {P : τ → Prop}
    {I : σ → Prop} (hstrict : ∀ s t, I s → P t → strict t s = .ok (step t s))
    (hI : ∀ s t, I s → P t → I (step t s)) {run : List τ} {s : σ} (hs : I s)
    (hrun : ∀ t ∈ run, P t) : execStrict strict run s = .ok (exec step run s) := by
  induction run generalizing s with
  | nil => rfl
  | cons t run ih =>
      obtain ⟨ht, hrun⟩ := List.forall_mem_cons.1 hrun
      have hrest := ih (hI s t hs ht) hrun
      rw [execStrict, List.foldlM_cons, hstrict s t hs ht]
      exact hrest

/-- A condition on the steps alone can be added to the guard. -/
theorem Meets.and {step : τ → σ → σ} {C : σ → τ → Prop} {P : τ → Prop} {run : List τ} {s : σ}
    (hrun : Meets step C run s) (hP : ∀ t ∈ run, P t) :
    Meets step (fun s t => P t ∧ C s t) run s := by
  induction run generalizing s with
  | nil => trivial
  | cons t run ih =>
      refine ⟨⟨hP t List.mem_cons_self, hrun.1⟩, ih hrun.2 fun u hu => ?_⟩
      exact hP u (List.mem_cons_of_mem t hu)

end Guarded
