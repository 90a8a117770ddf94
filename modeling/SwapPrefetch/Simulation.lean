/-
One routine carries out another on a lower level.

The two levels have memories of their own, `τ` below and `σ` above, and a relation `R` that says when
a memory of the lower level stands for one of the upper level. A simulation runs both side by side:
they return the same value, in related memories, or stop at the same fault. The lower level may also
give up (`none`), when it runs out of something that the upper level does not count, such as
memory of its own; nothing is said about what would have come after that.

`Simulates R m' m Q` has a relation to start from and a relation to end in, so that facts about the
two memories can be carried from one statement to the next. Most statements keep one relation, and
what is worth knowing about the value they return does not depend on the memories: that is
`Stays R φ`.
-/
import Mathlib.Logic.Basic
import SwapPrefetch.Prog

set_option autoImplicit false

namespace Prog

variable {ε σ τ β γ : Type}

/-! ## Two runs -/

/-- Where two runs ended: with the same value in memories of `Q`, at the same fault, or the lower
one gave up. -/
inductive Agree (Q : β → τ → σ → Prop) : Except (Option ε) (β × τ) → Except ε (β × σ) → Prop
  | ok {b : β} {t : τ} {s : σ} : Q b t s → Agree Q (.ok (b, t)) (.ok (b, s))
  | fault (e : ε) : Agree Q (.error (some e)) (.error e)
  | gave_up (r : Except ε (β × σ)) : Agree Q (.error none) r

/-- From memories of `R` the two routines end in memories of `Q`. -/
def Simulates (R : τ → σ → Prop) (m' : Prog (Option ε) τ β) (m : Prog ε σ β)
    (Q : β → τ → σ → Prop) : Prop :=
  ∀ t s, R t s → Agree Q (m'.run t) (m.run s)

/-- The memories are still related, and the value is one of `φ`. -/
def Stays (R : τ → σ → Prop) (φ : β → Prop) (b : β) (t : τ) (s : σ) : Prop := R t s ∧ φ b

/-- Any value. -/
def Any : β → Prop := fun _ => True

theorem Agree.mono {Q Q' : β → τ → σ → Prop} {r' : Except (Option ε) (β × τ)}
    {r : Except ε (β × σ)} (h : Agree Q r' r) (hQ : ∀ b t s, Q b t s → Q' b t s) :
    Agree Q' r' r := by
  cases h with
  | ok h => exact .ok (hQ _ _ _ h)
  | fault e => exact .fault e
  | gave_up r => exact .gave_up r

/-- A run of the lower level that returned is one of the upper level. -/
theorem Agree.of_ok {Q : β → τ → σ → Prop} {r' : Except (Option ε) (β × τ)} {r : Except ε (β × σ)}
    (h : Agree Q r' r) {b : β} {t : τ} (hr' : r' = .ok (b, t)) :
    ∃ s, r = .ok (b, s) ∧ Q b t s := by
  subst hr'
  cases h with
  | ok h => exact ⟨_, rfl, h⟩

/-- A fault of the lower level is one of the upper level. -/
theorem Agree.of_error {Q : β → τ → σ → Prop} {r' : Except (Option ε) (β × τ)}
    {r : Except ε (β × σ)} (h : Agree Q r' r) {e : ε} (hr' : r' = .error (some e)) :
    r = .error e := by
  subst hr'
  cases h with
  | fault => rfl

/-! ## Rules -/

section Rules

variable {R R' : τ → σ → Prop} {φ : β → Prop}

theorem Simulates.mono {m' : Prog (Option ε) τ β} {m : Prog ε σ β} {Q Q' : β → τ → σ → Prop}
    (h : Simulates R m' m Q) (hR : ∀ t s, R' t s → R t s) (hQ : ∀ b t s, Q b t s → Q' b t s) :
    Simulates R' m' m Q' :=
  fun t s hts => (h t s (hR t s hts)).mono hQ

/-- Forget part of what is known. -/
theorem Simulates.weaken {m' : Prog (Option ε) τ β} {m : Prog ε σ β} {Q : β → τ → σ → Prop}
    (h : Simulates R m' m Q) (hR : ∀ t s, R' t s → R t s) : Simulates R' m' m Q :=
  h.mono hR fun _ _ _ => id

theorem Simulates.pure {b : β} (h : φ b) :
    Simulates R (Pure.pure b : Prog (Option ε) τ β) (Pure.pure b : Prog ε σ β) (Stays R φ) :=
  fun _ _ hts => .ok ⟨hts, h⟩

theorem Simulates.throw (e : ε) (Q : β → τ → σ → Prop) :
    Simulates R (MonadExcept.throw (some e) : Prog (Option ε) τ β)
      (MonadExcept.throw e : Prog ε σ β) Q :=
  fun _ _ _ => .fault e

/-- **Sequencing.** -/
theorem Agree.bind {m' : Prog (Option ε) τ β} {m : Prog ε σ β} {f' : β → Prog (Option ε) τ γ}
    {f : β → Prog ε σ γ} {Q : β → τ → σ → Prop} {Q' : γ → τ → σ → Prop} {t : τ} {s : σ}
    (h : Agree Q (m'.run t) (m.run s)) (hf : ∀ b, Simulates (Q b) (f' b) (f b) Q') :
    Agree Q' ((m' >>= f').run t) ((m >>= f).run s) := by
  rcases hr' : m'.run t with (_ | e) | ⟨b, t₁⟩
  · rw [run_bind_error hr']
    exact .gave_up _
  · rw [run_bind_error hr', run_bind_error (h.of_error hr')]
    exact .fault e
  · obtain ⟨s₁, hr, hQ⟩ := h.of_ok hr'
    rw [run_bind_ok hr', run_bind_ok hr]
    exact hf b t₁ s₁ hQ

theorem Simulates.bind {m' : Prog (Option ε) τ β} {m : Prog ε σ β} {f' : β → Prog (Option ε) τ γ}
    {f : β → Prog ε σ γ} {Q : β → τ → σ → Prop} {Q' : γ → τ → σ → Prop} (h : Simulates R m' m Q)
    (hf : ∀ b, Simulates (Q b) (f' b) (f b) Q') : Simulates R (m' >>= f') (m >>= f) Q' :=
  fun t s hts => (h t s hts).bind hf

/-- Sequencing through a relation that does not depend on the value. -/
theorem Simulates.then {m' : Prog (Option ε) τ β} {m : Prog ε σ β} {f' : β → Prog (Option ε) τ γ}
    {f : β → Prog ε σ γ} {Q' : γ → τ → σ → Prop} (h : Simulates R m' m (Stays R' φ))
    (hf : ∀ b, φ b → Simulates R' (f' b) (f b) Q') : Simulates R (m' >>= f') (m >>= f) Q' :=
  h.bind fun b t s hts => hf b hts.2 t s hts.1

theorem Simulates.ite {c : Prop} [Decidable c] {m' n' : Prog (Option ε) τ β} {m n : Prog ε σ β}
    {Q : β → τ → σ → Prop} (hm : c → Simulates R m' m Q) (hn : ¬ c → Simulates R n' n Q) :
    Simulates R (if c then m' else n') (if c then m else n) Q := by
  by_cases hc : c
  · rw [if_pos hc, if_pos hc]
    exact hm hc
  · rw [if_neg hc, if_neg hc]
    exact hn hc

/-- An assertion that both make. -/
theorem Simulates.check {c : Prop} [Decidable c] {e : ε} {f' : Unit → Prog (Option ε) τ γ}
    {f : Unit → Prog ε σ γ} {Q : γ → τ → σ → Prop} (h : c → Simulates R (f' ()) (f ()) Q) :
    Simulates R (Prog.check c (some e) >>= f') (Prog.check c e >>= f) Q := by
  intro t s hts
  by_cases hc : c
  · rw [run_check_bind hc, run_check_bind hc]
    exact h hc t s hts
  · rw [run_bind_error (run_check_neg hc _ t), run_bind_error (run_check_neg hc _ s)]
    exact .fault e

/-- An assertion at the end of both. -/
theorem Simulates.check_end {c : Prop} [Decidable c] {e : ε} :
    Simulates R (Prog.check c (some e)) (Prog.check c e) (Stays R Any) := by
  intro t s hts
  by_cases hc : c
  · rw [run_check_pos hc, run_check_pos hc]
    exact .ok ⟨hts, trivial⟩
  · rw [run_check_neg hc, run_check_neg hc]
    exact .fault e

/-- **Runs.** -/
theorem Simulates.runs {ι : Type} {f' : ι → Prog (Option ε) τ Unit} {f : ι → Prog ε σ Unit}
    (xs : List ι) (h : ∀ x ∈ xs, Simulates R (f' x) (f x) (Stays R Any)) :
    Simulates R (Prog.runs (xs.map f')) (Prog.runs (xs.map f)) (Stays R Any) := by
  induction xs with
  | nil => exact Simulates.pure trivial
  | cons x xs ih =>
      refine (h x List.mem_cons_self).then fun _ _ => ?_
      exact ih fun y hy => h y (List.mem_cons_of_mem x hy)

end Rules

end Prog
