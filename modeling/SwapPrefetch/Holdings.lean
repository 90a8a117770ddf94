/-
Threads that work on shared objects, each in some capacity: a method for invariants of
interleavings.

A thread that works on an object relies on some of the object's fields, which other threads may
change too. A `Discipline` says, for each capacity in which an object can be held, what the holder
relies on (`Ok`), which capacities may be held of one object at a time (`Free`), and what is true
of every object (`Base`). `Held` says that the holdings of all threads together follow it.

A step of a thread changes one object and one holding. So whether a step keeps `Held` is a question
about capacities and the fields of one object, whatever the other threads are doing. There are four
kinds of steps: to change an object that one holds (`Held.change`), to let go of it
(`Held.release`), to take hold of one (`Held.take`), and to change an object without holding it
(`Held.touch`).
-/
import Mathlib.Data.List.Pairwise
import Mathlib.Data.List.Perm.Basic
import Mathlib.Logic.Function.Basic

set_option autoImplicit false

namespace Holdings

/-- The rules for holding objects with the fields `V` in the capacities `κ`. -/
structure Discipline (κ V : Type) where
  Base : V → Prop
  Ok : κ → V → Prop
  Free : κ → κ → Prop
  symm : ∀ {k k' : κ}, Free k k' → Free k' k

variable {ι κ V : Type} {d : Discipline κ V} {view : ι → V} {held held' : List (ι × κ)}

/-- The holdings of all threads follow the discipline. -/
structure Held (d : Discipline κ V) (view : ι → V) (held : List (ι × κ)) : Prop where
  base : ∀ i, d.Base (view i)
  ok : ∀ x ∈ held, d.Ok x.2 (view x.1)
  apart : held.Pairwise fun x y => x.1 = y.1 → d.Free x.2 y.2

theorem held_nil (h : ∀ i, d.Base (view i)) : Held d view [] :=
  ⟨h, fun _ hx => (nomatch hx), List.Pairwise.nil⟩

/-- The order of the holdings does not matter. -/
theorem Held.perm (h : Held d view held) (hp : held.Perm held') : Held d view held' where
  base := h.base
  ok := fun x hx => h.ok x (hp.mem_iff.2 hx)
  apart := h.apart.perm hp fun hxy he => d.symm (hxy he.symm)

theorem held_cons {i : ι} {k : κ} : Held d view ((i, k) :: held) ↔
    Held d view held ∧ d.Ok k (view i) ∧ ∀ x ∈ held, x.1 = i → d.Free k x.2 := by
  constructor
  · intro h
    obtain ⟨hx, hrest⟩ := List.pairwise_cons.1 h.apart
    refine ⟨⟨h.base, fun x hm => h.ok x (List.mem_cons_of_mem _ hm), hrest⟩,
      h.ok _ List.mem_cons_self, fun x hm he => hx x hm he.symm⟩
  · rintro ⟨h, hok, hfree⟩
    refine ⟨h.base, fun x hm => ?_, List.pairwise_cons.2 ⟨fun x hm he => hfree x hm he.symm, h.apart⟩⟩
    rcases List.mem_cons.1 hm with rfl | hm
    · exact hok
    · exact h.ok x hm

/-- A change of all objects that nobody minds. -/
theorem Held.mono {view' : ι → V} (h : Held d view held) (hbase : ∀ i, d.Base (view' i))
    (hok : ∀ k i, d.Ok k (view i) → d.Ok k (view' i)) : Held d view' held :=
  ⟨hbase, fun x hx => hok x.2 x.1 (h.ok x hx), h.apart⟩

/-- Two holdings of one object go together. -/
theorem Held.free {i : ι} {k k' : κ} (h : Held d view ((i, k) :: held)) (hm : (i, k') ∈ held) :
    d.Free k k' :=
  (held_cons.1 h).2.2 (i, k') hm rfl

variable [DecidableEq ι] {v : V} {i : ι} {k k' : κ}

/-- **A change** of one object that respects all holdings of it. -/
theorem Held.update (h : Held d view held) (hbase : d.Base v)
    (hok : ∀ x ∈ held, x.1 = i → d.Ok x.2 (view i) → d.Ok x.2 v) :
    Held d (Function.update view i v) held := by
  refine ⟨fun j => ?_, fun x hx => ?_, h.apart⟩
  · by_cases hj : j = i
    · rw [hj, Function.update_self]
      exact hbase
    · rw [Function.update_of_ne hj]
      exact h.base j
  · by_cases hj : x.1 = i
    · rw [hj, Function.update_self]
      refine hok x hx hj ?_
      rw [← hj]
      exact h.ok x hx
    · rw [Function.update_of_ne hj]
      exact h.ok x hx

/-- **Touching** an object that one does not hold. -/
theorem Held.touch (h : Held d view held) (hbase : d.Base v)
    (hok : ∀ k, d.Ok k (view i) → d.Ok k v) : Held d (Function.update view i v) held :=
  h.update hbase fun x _ _ => hok x.2

/-- **Taking hold** of an object, and changing it. -/
theorem Held.take (h : Held d view held) (hbase : d.Base v) (hnew : d.Ok k v)
    (hok : ∀ x ∈ held, x.1 = i → d.Ok x.2 (view i) → d.Free k x.2 ∧ d.Ok x.2 v) :
    Held d (Function.update view i v) ((i, k) :: held) := by
  refine held_cons.2 ⟨h.update hbase fun x hx hi ho => (hok x hx hi ho).2, ?_, fun x hx hi => ?_⟩
  · rw [Function.update_self]
    exact hnew
  · refine (hok x hx hi ?_).1
    rw [← hi]
    exact h.ok x hx

/-- **Letting go** of an object, and changing it. -/
theorem Held.release (h : Held d view ((i, k) :: held)) (hbase : d.Base v)
    (hok : ∀ x ∈ held, x.1 = i → d.Free k x.2 → d.Ok x.2 (view i) → d.Ok x.2 v) :
    Held d (Function.update view i v) held := by
  obtain ⟨hrest, -, hfree⟩ := held_cons.1 h
  exact hrest.update hbase fun x hx hi => hok x hx hi (hfree x hx hi)

/-- **Changing** an object that one holds, and the capacity in which one holds it. -/
theorem Held.change (h : Held d view ((i, k) :: held)) (hbase : d.Base v) (hnew : d.Ok k' v)
    (hok : ∀ x ∈ held, x.1 = i → d.Free k x.2 → d.Ok x.2 (view i) →
      d.Free k' x.2 ∧ d.Ok x.2 v) :
    Held d (Function.update view i v) ((i, k') :: held) := by
  obtain ⟨hrest, -, hfree⟩ := held_cons.1 h
  exact hrest.take hbase hnew fun x hx hi ho => hok x hx hi (hfree x hx hi) ho

/-! ## The holdings of all threads -/

omit [DecidableEq ι] in
/-- The holdings of the thread `t` and those of the others. -/
theorem flatMap_perm {τ α : Type} (f : τ → List α) {threads : List τ} {t : ℕ} {pc : τ}
    (ht : threads[t]? = some pc) :
    (threads.flatMap f).Perm (f pc ++ (threads.eraseIdx t).flatMap f) := by
  obtain ⟨hlt, rfl⟩ := List.getElem?_eq_some_iff.1 ht
  have hp := (List.getElem_cons_eraseIdx_perm hlt).symm.flatMap_right f
  rw [List.flatMap_cons] at hp
  exact hp

omit [DecidableEq ι] in
/-- The same after a step of `t`. -/
theorem flatMap_set_perm {τ α : Type} (f : τ → List α) {threads : List τ} {t : ℕ}
    {pc : τ} (ht : threads[t]? = some pc) (pc' : τ) :
    ((threads.set t pc').flatMap f).Perm (f pc' ++ (threads.eraseIdx t).flatMap f) := by
  obtain ⟨hlt, -⟩ := List.getElem?_eq_some_iff.1 ht
  have hp := (List.set_perm_cons_eraseIdx hlt pc').flatMap_right f
  rw [List.flatMap_cons] at hp
  exact hp

omit [DecidableEq ι] in
/-- Two different holdings of one object go together. -/
theorem Held.within (h : Held d view held) (hk : (i, k) ∈ held) (hk' : (i, k') ∈ held)
    (hne : k ≠ k') : d.Free k k' := by
  have : Std.Symm fun x y : ι × κ => x.1 = y.1 → d.Free x.2 y.2 :=
    ⟨fun _ _ hxy he => d.symm (hxy he.symm)⟩
  exact h.apart.forall hk hk' (fun he => hne (congrArg Prod.snd he)) rfl

omit [DecidableEq ι] in
/-- Holdings of one object by two threads go together. -/
theorem Held.across {τ : Type} {f : τ → List (ι × κ)} {threads : List τ} {t t' : ℕ} {pc pc' : τ}
    (h : Held d view (threads.flatMap f)) (ht : threads[t]? = some pc)
    (ht' : threads[t']? = some pc') (hne : t ≠ t') (hk : (i, k) ∈ f pc) (hk' : (i, k') ∈ f pc') :
    d.Free k k' := by
  have hpair := (List.pairwise_append.1 (h.perm (flatMap_perm f ht)).apart).2.2
  refine hpair _ hk _ (List.mem_flatMap.2 ⟨pc', ?_, hk'⟩) rfl
  exact List.mem_eraseIdx_iff_getElem?.2 ⟨t', hne.symm, ht'⟩

end Holdings
