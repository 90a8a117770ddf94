/-
Programs over a memory that may stop at a fault.

A C routine is read as a function of the memory it runs on: it either returns a
value together with the memory it leaves behind, or stops at a failed assertion
(or a loop that can no longer make progress). `StateT` over `Except` is exactly
that, so the combinators are the library's; what is added here is the reasoning
interface:

* `Ends r Q E` says where one run ended -- normally in `Q`, or at a fault in `E`;
* `Sat P m Q E` says it for every start memory in `P`.

`E` is the set of faults that are *allowed*. A routine proved with a small `E`
has every other assertion proved unreachable, which is why it is a parameter
and not `False`: an allocator may run out, but must not corrupt a list.
-/
import Mathlib.Logic.Basic
import Mathlib.Control.Basic

set_option autoImplicit false

/-- A routine over memory `σ` that returns `β` or stops at a fault `ε`. -/
abbrev Prog (ε σ β : Type) : Type := StateT σ (Except ε) β

namespace Prog

variable {ε σ β γ : Type}

/-! ## Running one routine -/

/-- An assertion of the source: stop at the fault `e` unless `c` holds. -/
def check (c : Prop) [Decidable c] (e : ε) : Prog ε σ Unit :=
  if c then pure () else throw e

/-- The condition of an assertion can be rewritten. -/
@[congr] theorem check_congr {c c' : Prop} [Decidable c] [Decidable c'] (h : c = c') (e : ε) :
    (check c e : Prog ε σ Unit) = check c' e := by
  subst h
  congr

@[simp] theorem ok_bind (a : β) (f : β → Except ε γ) : (Except.ok a >>= f) = f a := rfl

@[simp] theorem error_bind (e : ε) (f : β → Except ε γ) :
    ((Except.error e : Except ε β) >>= f) = Except.error e := rfl

@[simp] theorem run_bind (m : Prog ε σ β) (f : β → Prog ε σ γ) (s : σ) :
    (m >>= f).run s = m.run s >>= fun p => (f p.1).run p.2 := rfl

@[simp] theorem run_pure (b : β) (s : σ) : (pure b : Prog ε σ β).run s = .ok (b, s) := rfl

@[simp] theorem run_get (s : σ) : (get : Prog ε σ σ).run s = .ok (s, s) := rfl

@[simp] theorem run_modify (f : σ → σ) (s : σ) : (modify f : Prog ε σ Unit).run s = .ok ((), f s) := rfl

@[simp] theorem run_throw (e : ε) (s : σ) : (throw e : Prog ε σ β).run s = .error e := rfl

@[simp] theorem map_throw (f : β → γ) (e : ε) :
    (f <$> (throw e : Except ε β)) = Except.error e := rfl

@[simp] theorem run_check_pos {c : Prop} [Decidable c] (h : c) (e : ε) (s : σ) :
    (check c e : Prog ε σ Unit).run s = .ok ((), s) := by
  rw [check, if_pos h]
  rfl

theorem run_check_neg {c : Prop} [Decidable c] (h : ¬ c) (e : ε) (s : σ) :
    (check c e : Prog ε σ Unit).run s = .error e := by
  rw [check, if_neg h]
  rfl

@[simp] theorem run_check_false [Decidable False] (e : ε) (s : σ) :
    (check False e : Prog ε σ Unit).run s = .error e :=
  run_check_neg id e s

/-- A routine whose first part is known to return. -/
theorem run_bind_ok {m : Prog ε σ β} {f : β → Prog ε σ γ} {s s' : σ} {a : β}
    (h : m.run s = .ok (a, s')) : (m >>= f).run s = (f a).run s' := by
  rw [run_bind, h, ok_bind]

theorem run_bind_error {m : Prog ε σ β} {f : β → Prog ε σ γ} {s : σ} {e : ε}
    (h : m.run s = .error e) : (m >>= f).run s = .error e := by
  rw [run_bind, h, error_bind]

/-- An assertion that holds is a no-op. -/
theorem run_check_bind {c : Prop} [Decidable c] (h : c) (e : ε) (f : Unit → Prog ε σ γ) (s : σ) :
    ((check c e : Prog ε σ Unit) >>= f).run s = (f ()).run s :=
  run_bind_ok (run_check_pos h e s)

/-- A sequence that returned did so through an intermediate memory. -/
theorem bind_eq_ok {m : Prog ε σ β} {f : β → Prog ε σ γ} {s s'' : σ} {c : γ}
    (h : (m >>= f).run s = .ok (c, s'')) :
    ∃ a s', m.run s = .ok (a, s') ∧ (f a).run s' = .ok (c, s'') := by
  rw [run_bind] at h
  rcases hm : m.run s with e | ⟨a, s'⟩
  · rw [hm, error_bind] at h
    cases h
  · rw [hm, ok_bind] at h
    exact ⟨a, s', rfl, h⟩

/-- A run that got past an assertion met it. -/
theorem check_eq_ok {c : Prop} [Decidable c] {e : ε} {s s' : σ} {u : Unit}
    (h : (check c e : Prog ε σ Unit).run s = .ok (u, s')) : c ∧ s' = s := by
  by_cases hc : c
  · rw [run_check_pos hc] at h
    injection h with h
    injection h with _ h
    exact ⟨hc, h.symm⟩
  · rw [run_check_neg hc] at h
    cases h

/-! ## Where a run ends -/

/-- The run ended in `Q`, or at an allowed fault. -/
def Ends (r : Except ε (β × σ)) (Q : β → σ → Prop) (E : ε → Prop) : Prop :=
  match r with
  | .ok (b, s) => Q b s
  | .error e => E e

/-- From every memory in `P` the routine ends in `Q` or at a fault in `E`. -/
def Sat (P : σ → Prop) (m : Prog ε σ β) (Q : β → σ → Prop) (E : ε → Prop) : Prop :=
  ∀ s, P s → Ends (m.run s) Q E

instance {Q : β → σ → Prop} {E : ε → Prop} [∀ b s, Decidable (Q b s)] [∀ e, Decidable (E e)]
    (r : Except ε (β × σ)) : Decidable (Ends r Q E) :=
  match r with
  | .ok (b, s) => inferInstanceAs (Decidable (Q b s))
  | .error e => inferInstanceAs (Decidable (E e))

theorem Ends.of_ok {r : Except ε (β × σ)} {Q : β → σ → Prop} {E : ε → Prop} {b : β} {s : σ}
    (h : Ends r Q E) (hr : r = .ok (b, s)) : Q b s := by
  rw [hr] at h
  exact h

theorem Ends.of_error {r : Except ε (β × σ)} {Q : β → σ → Prop} {E : ε → Prop} {e : ε}
    (h : Ends r Q E) (hr : r = .error e) : E e := by
  rw [hr] at h
  exact h

theorem Ends.mono {r : Except ε (β × σ)} {Q Q' : β → σ → Prop} {E E' : ε → Prop}
    (h : Ends r Q E) (hQ : ∀ b s, Q b s → Q' b s) (hE : ∀ e, E e → E' e) : Ends r Q' E' := by
  rcases r with e | ⟨b, s⟩
  · exact hE e h
  · exact hQ b s h

theorem Ends.ok {Q : β → σ → Prop} {E : ε → Prop} {b : β} {s : σ} (h : Q b s) :
    Ends (.ok (b, s) : Except ε (β × σ)) Q E := h

/-- A run that is known to return ends wherever its result says. -/
theorem Ends.of_eq {r : Except ε (β × σ)} {Q : β → σ → Prop} {E : ε → Prop} {b : β} {s : σ}
    (hr : r = .ok (b, s)) (h : Q b s) : Ends r Q E := by
  rw [hr]
  exact h

theorem Ends.of_throw {r : Except ε (β × σ)} {Q : β → σ → Prop} {E : ε → Prop} {e : ε}
    (hr : r = .error e) (h : E e) : Ends r Q E := by
  rw [hr]
  exact h

/-- **Sequencing.** Run the first part to its postcondition, then the rest from
any memory that satisfies it; a fault of either part is a fault of the whole. -/
theorem Ends.bind {m : Prog ε σ β} {f : β → Prog ε σ γ} {s : σ} {R : β → σ → Prop}
    {Q : γ → σ → Prop} {E : ε → Prop} (h : Ends (m.run s) R E)
    (hf : ∀ a s', R a s' → Ends ((f a).run s') Q E) : Ends ((m >>= f).run s) Q E := by
  rcases hm : m.run s with e | ⟨a, s'⟩
  · rw [run_bind_error hm]
    exact h.of_error hm
  · rw [run_bind_ok hm]
    exact hf a s' (h.of_ok hm)

/-- Read a field of the memory. -/
theorem Ends.get_bind {f : σ → Prog ε σ γ} {s : σ} {Q : γ → σ → Prop} {E : ε → Prop}
    (h : Ends ((f s).run s) Q E) : Ends (((get : Prog ε σ σ) >>= f).run s) Q E := h

/-- An assertion is passed, or its fault is allowed. -/
theorem Ends.check_bind {c : Prop} [Decidable c] {e : ε} {f : Unit → Prog ε σ γ} {s : σ}
    {Q : γ → σ → Prop} {E : ε → Prop} (he : ¬ c → E e) (h : c → Ends ((f ()).run s) Q E) :
    Ends (((check c e : Prog ε σ Unit) >>= f).run s) Q E := by
  by_cases hc : c
  · rw [run_check_bind hc]
    exact h hc
  · rw [run_bind_error (run_check_neg hc e s)]
    exact he hc

theorem Sat.mono {P P' : σ → Prop} {m : Prog ε σ β} {Q Q' : β → σ → Prop} {E E' : ε → Prop}
    (h : Sat P m Q E) (hP : ∀ s, P' s → P s) (hQ : ∀ b s, Q b s → Q' b s)
    (hE : ∀ e, E e → E' e) : Sat P' m Q' E' :=
  fun s hs => (h s (hP s hs)).mono hQ hE

/-! ## Runs

A run is a list of routines executed one at a time. An invariant that each of
them keeps is kept by the run, and no fault outside `E` is ever reached. -/

/-- Execute the routines of a list one after another. -/
def runs : List (Prog ε σ Unit) → Prog ε σ Unit
  | [] => pure ()
  | m :: ms => m >>= fun _ => runs ms

theorem runs_append (ms ms' : List (Prog ε σ Unit)) :
    runs (ms ++ ms') = (do runs ms; runs ms' : Prog ε σ Unit) := by
  induction ms with
  | nil => rfl
  | cons m ms ih =>
      show (m >>= fun _ => runs (ms ++ ms')) = _
      rw [ih]
      exact (bind_assoc m (fun _ => runs ms) fun _ => runs ms').symm

/-- **The run rule.** -/
theorem Sat.runs {I : σ → Prop} {E : ε → Prop} (ms : List (Prog ε σ Unit))
    (h : ∀ m ∈ ms, Sat I m (fun _ => I) E) : Sat I (runs ms) (fun _ => I) E := by
  induction ms with
  | nil => exact fun s hs => hs
  | cons m ms ih =>
      intro s hs
      refine Ends.bind (h m List.mem_cons_self s hs) (fun _ s' hs' => ?_)
      exact ih (fun m' hm' => h m' (List.mem_cons_of_mem m hm')) s' hs'

/-! ## Evaluating a run -/

/-- The run returned, in a memory that passes the test `f`. -/
def passes (f : σ → Bool) : Except ε (β × σ) → Bool
  | .ok (_, s) => f s
  | .error _ => false

theorem of_passes {f : σ → Bool} {r : Except ε (β × σ)} (h : passes f r = true) :
    ∃ b s, r = .ok (b, s) ∧ f s = true := by
  rcases r with e | ⟨b, s⟩
  · cases h
  · exact ⟨b, s, rfl, h⟩

/-- What a run that can be evaluated passes holds where it ended. -/
theorem passes_ok {f : σ → Bool} {r : Except ε (β × σ)} (h : passes f r = true) {b : β} {s : σ}
    (hr : r = .ok (b, s)) : f s = true := by
  rw [hr] at h
  exact h

end Prog
