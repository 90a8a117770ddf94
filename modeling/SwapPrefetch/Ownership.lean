/-
Objects that are linked into lists and own places: the two bookkeeping patterns
of an allocator, on their own.

*Lists.* An intrusive list implementation keeps, in each object, a tag that names the
list the object is on. `Linked lists tag` says that tags and lists agree. From it
alone follow the two facts an allocator needs -- no object is on two lists, and no
list holds an object twice -- and each of linking, unlinking and untouched tags keeps it.

*Places.* Every object owns one place and every place is owned: a bijection between
objects and places. Two objects that exchange their places keep it, and nothing
else about them matters. So an allocator that only ever exchanges cannot lose or
duplicate a place, however long it runs.
-/
import Mathlib.Data.Set.Function
import Mathlib.Logic.Equiv.Basic
import Mathlib.Data.List.Nodup

set_option autoImplicit false

namespace Ownership

/-! ## Lists with owner tags -/

section Lists

variable {ι L : Type}

/-- The tag of each object names the list it is on. -/
structure Linked (lists : L → List ι) (tag : ι → Option L) : Prop where
  mem_iff : ∀ l i, i ∈ lists l ↔ tag i = some l
  nodup : ∀ l, (lists l).Nodup

variable {lists : L → List ι} {tag : ι → Option L}

/-- An object is on at most one list. -/
theorem Linked.unique (h : Linked lists tag) {i : ι} {l l' : L} (hl : i ∈ lists l)
    (hl' : i ∈ lists l') : l = l' := by
  have h₁ := (h.mem_iff l i).1 hl
  have h₂ := (h.mem_iff l' i).1 hl'
  exact Option.some.inj (h₁.symm.trans h₂)

theorem Linked.not_mem_of_none (h : Linked lists tag) {i : ι} (hi : tag i = none) (l : L) :
    i ∉ lists l := by
  intro hm
  rw [(h.mem_iff l i).1 hm] at hi
  cases hi

/-- Only the tags matter. -/
theorem Linked.congr (h : Linked lists tag) {tag' : ι → Option L} (ht : ∀ i, tag' i = tag i) :
    Linked lists tag' :=
  ⟨fun l i => by rw [ht]; exact h.mem_iff l i, h.nodup⟩

variable [DecidableEq ι] [DecidableEq L]

/-- Linking an object that is on no list. -/
theorem Linked.link (h : Linked lists tag) {q : L} {i : ι} (hi : tag i = none) :
    Linked (Function.update lists q (lists q ++ [i])) (Function.update tag i (some q)) := by
  constructor
  · intro l j
    rcases eq_or_ne l q with rfl | hl
    · rcases eq_or_ne j i with rfl | hj
      · simp
      · simp [hj, h.mem_iff]
    · rw [Function.update_of_ne hl]
      rcases eq_or_ne j i with rfl | hj
      · simp [h.mem_iff, hi, hl.symm]
      · simp [Function.update_of_ne hj, h.mem_iff]
  · intro l
    rcases eq_or_ne l q with rfl | hl
    · rw [Function.update_self, ← List.concat_eq_append]
      exact List.Nodup.concat (h.not_mem_of_none hi l) (h.nodup l)
    · rw [Function.update_of_ne hl]
      exact h.nodup l

/-- Unlinking an object from its list. -/
theorem Linked.unlink (h : Linked lists tag) {q : L} {i : ι} (hi : tag i = some q) :
    Linked (Function.update lists q ((lists q).erase i)) (Function.update tag i none) := by
  constructor
  · intro l j
    rcases eq_or_ne l q with rfl | hl
    · rw [Function.update_self, (h.nodup l).mem_erase_iff]
      rcases eq_or_ne j i with rfl | hj
      · simp
      · simp [hj, h.mem_iff]
    · rw [Function.update_of_ne hl]
      rcases eq_or_ne j i with rfl | hj
      · simp [h.mem_iff, hi, hl.symm]
      · simp [Function.update_of_ne hj, h.mem_iff]
  · intro l
    rcases eq_or_ne l q with rfl | hl
    · rw [Function.update_self]
      exact (h.nodup l).erase i
    · rw [Function.update_of_ne hl]
      exact h.nodup l

end Lists

/-! ## Places -/

section Places

variable {ι κ : Type} [DecidableEq ι]

theorem swap_mem {s : Set ι} {a b : ι} (ha : a ∈ s) (hb : b ∈ s) {i : ι} (hi : i ∈ s) :
    Equiv.swap a b i ∈ s := by
  by_cases hia : i = a
  · rw [hia, Equiv.swap_apply_left]
    exact hb
  · by_cases hib : i = b
    · rw [hib, Equiv.swap_apply_right]
      exact ha
    · rw [Equiv.swap_apply_of_ne_of_ne hia hib]
      exact hi

/-- **Exchange.** Two objects swap their places and the others keep theirs: every
object still owns one place and every place is still owned. -/
theorem bijOn_exchange {f g : ι → κ} {s : Set ι} {t : Set κ} (h : Set.BijOn f s t) {a b : ι}
    (ha : a ∈ s) (hb : b ∈ s) (hga : g a = f b) (hgb : g b = f a)
    (hg : ∀ i, i ≠ a → i ≠ b → g i = f i) : Set.BijOn g s t := by
  have hswap : Set.BijOn (Equiv.swap a b) s s :=
    ⟨fun i hi => swap_mem ha hb hi, (Equiv.swap a b).injective.injOn,
      fun i hi => ⟨Equiv.swap a b i, swap_mem ha hb hi, Equiv.swap_apply_self a b i⟩⟩
  have hgf : ∀ i, g i = f (Equiv.swap a b i) := by
    intro i
    by_cases hia : i = a
    · rw [hia, Equiv.swap_apply_left, hga]
    · by_cases hib : i = b
      · rw [hib, Equiv.swap_apply_right, hgb]
      · rw [Equiv.swap_apply_of_ne_of_ne hia hib, hg i hia hib]
  exact (h.comp hswap).congr fun i _ => (hgf i).symm

end Places

end Ownership
