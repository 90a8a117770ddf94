/-
Routines that do not notice a change of the memory.

`Commutes D R m Q`: from every memory in `R`, running `m` after the change `D` does the
same as running `m` and making the change afterwards -- the same value, the same fault. It
is how two routines that do the same steps in another order are compared: the steps that
were moved are the change, and what lies between has to commute with it. The rules follow
the combinators; `Q` is what is known of the value, `R` is kept.
-/
import SwapPrefetch.Prog

set_option autoImplicit false

namespace Prog

variable {ε σ β γ : Type}

/-- The result of a run, with a change made to the memory it leaves. -/
def changed (D : σ → σ) (r : Except ε (β × σ)) : Except ε (β × σ) :=
  r.map fun x => (x.1, D x.2)

@[simp] theorem changed_ok (D : σ → σ) (b : β) (s : σ) :
    changed D (.ok (b, s) : Except ε (β × σ)) = .ok (b, D s) := rfl

@[simp] theorem changed_error (D : σ → σ) (e : ε) :
    changed D (.error e : Except ε (β × σ)) = .error e := rfl

/-- `m` commutes with the change `D` from the memory `s`. -/
structure CommutesAt (D : σ → σ) (R : σ → Prop) (s : σ) (m : Prog ε σ β) (Q : β → Prop) :
    Prop where
  run : m.run (D s) = changed D (m.run s)
  ends : Ends (m.run s) (fun b s' => Q b ∧ R s') fun _ => True

/-- `m` commutes with the change `D` from every memory in `R`. -/
def Commutes (D : σ → σ) (R : σ → Prop) (m : Prog ε σ β) (Q : β → Prop) : Prop :=
  ∀ s, R s → CommutesAt D R s m Q

variable {D : σ → σ} {R : σ → Prop} {Q : β → Prop}

theorem CommutesAt.of_ok {m : Prog ε σ β} {s s' : σ} {b : β} (h : m.run s = .ok (b, s'))
    (hD : m.run (D s) = .ok (b, D s')) (hb : Q b) (hR : R s') : CommutesAt D R s m Q :=
  ⟨by rw [h, hD, changed_ok], by rw [h]; exact ⟨hb, hR⟩⟩

theorem CommutesAt.of_error {m : Prog ε σ β} {s : σ} {e : ε} (h : m.run s = .error e)
    (hD : m.run (D s) = .error e) : CommutesAt D R s m Q :=
  ⟨by rw [h, hD, changed_error], by rw [h]; exact trivial⟩

theorem CommutesAt.bind {m : Prog ε σ β} {f : β → Prog ε σ γ} {Q' : γ → Prop} {s : σ}
    (h : CommutesAt D R s m Q) (hf : ∀ b, Q b → Commutes D R (f b) Q') :
    CommutesAt D R s (m >>= f) Q' := by
  obtain ⟨hrun, hends⟩ := h
  rcases hm : m.run s with e | ⟨b, s'⟩
  · rw [hm, changed_error] at hrun
    exact .of_error (run_bind_error hm) (run_bind_error hrun)
  · rw [hm, changed_ok] at hrun
    rw [hm] at hends
    obtain ⟨hrun', hends'⟩ := hf b hends.1 s' hends.2
    exact ⟨by rw [run_bind_ok hm, run_bind_ok hrun, hrun'], by rw [run_bind_ok hm]; exact hends'⟩

namespace Commutes

theorem bind {m : Prog ε σ β} {f : β → Prog ε σ γ} {Q' : γ → Prop} (h : Commutes D R m Q)
    (hf : ∀ b, Q b → Commutes D R (f b) Q') : Commutes D R (m >>= f) Q' :=
  fun s hs => (h s hs).bind hf

theorem mono {m : Prog ε σ β} {Q' : β → Prop} (h : Commutes D R m Q) (hQ : ∀ b, Q b → Q' b) :
    Commutes D R m Q' :=
  fun s hs => ⟨(h s hs).run, (h s hs).ends.mono (fun b _ hb => ⟨hQ b hb.1, hb.2⟩) fun _ he => he⟩

theorem pure {b : β} (hb : Q b) : Commutes D R (Pure.pure b : Prog ε σ β) Q :=
  fun _ hs => .of_ok rfl rfl hb hs

theorem throw (e : ε) : Commutes D R (MonadExcept.throw e : Prog ε σ β) Q :=
  fun _ _ => .of_error rfl rfl

/-- After an assertion its condition is known. -/
theorem check_bind {c : Prop} [Decidable c] {e : ε} {f : Unit → Prog ε σ β}
    (h : c → Commutes D R (f ()) Q) : Commutes D R ((check c e : Prog ε σ Unit) >>= f) Q := by
  intro s hs
  by_cases hc : c
  · obtain ⟨hrun, hends⟩ := h hc s hs
    exact ⟨by rw [run_check_bind hc, run_check_bind hc, hrun], by
      rw [run_check_bind hc]; exact hends⟩
  · exact .of_error (run_bind_error (run_check_neg hc e s))
      (run_bind_error (run_check_neg hc e (D s)))

theorem check {c : Prop} [Decidable c] {e : ε} {Q : Unit → Prop} (hQ : Q ()) :
    Commutes D R (Prog.check c e : Prog ε σ Unit) Q := by
  intro s hs
  by_cases hc : c
  · exact .of_ok (run_check_pos hc e s) (run_check_pos hc e _) hQ hs
  · exact .of_error (run_check_neg hc e s) (run_check_neg hc e _)

theorem ite {c : Prop} [Decidable c] {m m' : Prog ε σ β} (h : Commutes D R m Q)
    (h' : Commutes D R m' Q) : Commutes D R (if c then m else m') Q := by
  split
  · exact h
  · exact h'

/-- A read that the change does not affect. -/
theorem read {m : Prog ε σ β} (g : σ → β) (hm : ∀ s, m.run s = .ok (g s, s))
    (hg : ∀ s, R s → g (D s) = g s) (hQ : ∀ s, R s → Q (g s)) : Commutes D R m Q :=
  fun s hs => .of_ok (hm s) (by rw [hm, hg s hs]) (hQ s hs) hs

/-- A write that commutes with the change. -/
theorem write {m : Prog ε σ Unit} (f : σ → σ) (hm : ∀ s, m.run s = .ok ((), f s))
    (hf : ∀ s, R s → f (D s) = D (f s)) (hR : ∀ s, R s → R (f s)) {Q : Unit → Prop} (hQ : Q ()) :
    Commutes D R m Q :=
  fun s hs => .of_ok (hm s) (by rw [hm, hf s hs]) hQ (hR s hs)

end Commutes

end Prog
