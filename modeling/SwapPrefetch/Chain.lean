/-
Chains of pointers.

A singly linked list is a start pointer and a function that leads from each node to the next one;
a doubly linked one is two of them, the second for the reversed sequence. `Chain step start xs`
says that following `step` from `start` visits exactly `xs` and then stops.

The start pointer is the head of the sequence in every chain, so what is left to maintain is
`Linked step xs`: each node points at the head of what stands behind it. Taking a node out or
adding one at the end changes the pointer of one node, the one in front of it. That is one lemma
each, and a doubly linked list uses each of them once per direction.
-/
import Mathlib.Data.List.Basic
import Mathlib.Data.List.Nodup

set_option autoImplicit false

namespace Chains

variable {I : Type} {step step' : I → Option I} {start : Option I} {xs l r : List I} {i : I}

/-- Following `step` from `start` visits exactly the nodes of the list. -/
def Chain (step : I → Option I) : Option I → List I → Prop
  | start, [] => start = none
  | start, i :: xs => start = some i ∧ Chain step (step i) xs

/-- Each node points at the one behind it, the last one at nothing. -/
def Linked (step : I → Option I) : List I → Prop
  | [] => True
  | i :: xs => step i = xs.head? ∧ Linked step xs

theorem chain_iff : Chain step start xs ↔ start = xs.head? ∧ Linked step xs := by
  induction xs generalizing start with
  | nil => exact (and_iff_left trivial).symm
  | cons i xs ih => rw [Chain, Linked, ih, List.head?_cons]

/-- A chain visits one sequence only. -/
theorem Chain.unique {ys : List I} (h : Chain step start xs) (h' : Chain step start ys) :
    xs = ys := by
  induction xs generalizing start ys with
  | nil =>
      cases ys with
      | nil => rfl
      | cons j ys => exact absurd (h'.1.symm.trans h) (Option.some_ne_none j)
  | cons i xs ih =>
      cases ys with
      | nil => exact absurd (h.1.symm.trans h') (Option.some_ne_none i)
      | cons j ys =>
          obtain rfl : i = j := Option.some.inj (h.1.symm.trans h'.1)
          rw [ih h.2 h'.2]

/-- Only the pointers of the nodes themselves matter. -/
theorem Linked.congr (h : Linked step xs) (heq : ∀ j ∈ xs, step' j = step j) :
    Linked step' xs := by
  induction xs with
  | nil => trivial
  | cons j xs ih =>
      exact ⟨(heq j List.mem_cons_self).trans h.1,
        ih h.2 fun k hk => heq k (List.mem_cons_of_mem _ hk)⟩

theorem Linked.tail (h : Linked step (l ++ r)) : Linked step r := by
  induction l with
  | nil => exact h
  | cons j l ih => exact ih h.2

theorem Linked.step_eq (h : Linked step (l ++ i :: r)) : step i = r.head? := h.tail.1

/-- Replacing what stands behind `l`: only the last node of `l` is pointed elsewhere. -/
theorem Linked.splice (h : Linked step (l ++ r)) (hnodup : l.Nodup) {r' : List I}
    (hr' : Linked step' r') (hlast : ∀ j, l.getLast? = some j → step' j = r'.head?)
    (hsame : ∀ j ∈ l, l.getLast? ≠ some j → step' j = step j) : Linked step' (l ++ r') := by
  induction l with
  | nil => exact hr'
  | cons a l ih =>
      rcases l with _ | ⟨b, l⟩
      · exact ⟨hlast a rfl, hr'⟩
      · obtain ⟨ha, hnodup⟩ := List.nodup_cons.1 hnodup
        have hne : (a :: b :: l).getLast? ≠ some a := fun he =>
          ha (List.mem_of_getLast? (List.getLast?_cons_cons.symm.trans he))
        refine ⟨(hsame a List.mem_cons_self hne).trans h.1, ih h.2 hnodup ?_ ?_⟩
        · intro j hj
          exact hlast j (List.getLast?_cons_cons.trans hj)
        · intro j hmem hj
          exact hsame j (List.mem_cons_of_mem _ hmem) fun he =>
            hj (List.getLast?_cons_cons.symm.trans he)

/-- Taking out a node: the one in front of it now points where the node pointed. -/
theorem Linked.remove (h : Linked step (l ++ i :: r)) (hnodup : (l ++ i :: r).Nodup)
    (hlast : ∀ j, l.getLast? = some j → step' j = step i)
    (hsame : ∀ j ∈ l ++ r, l.getLast? ≠ some j → step' j = step j) :
    Linked step' (l ++ r) := by
  obtain ⟨hl, -, hdisj⟩ := List.nodup_append.1 hnodup
  have hi : step i = r.head? := h.step_eq
  have hr : Linked step r := h.tail.2
  refine h.splice hl (hr.congr fun j hj => hsame j (List.mem_append_right _ hj) fun he => ?_) ?_ ?_
  · exact hdisj j (List.mem_of_getLast? he) j (List.mem_cons_of_mem _ hj) rfl
  · intro j hj
    exact (hlast j hj).trans hi
  · intro j hj
    exact hsame j (List.mem_append_left _ hj)

/-- Adding a node at the end: the last one now points at it. -/
theorem Linked.snoc (h : Linked step xs) (hnodup : xs.Nodup)
    (hlast : ∀ j, xs.getLast? = some j → step' j = some i)
    (hsame : ∀ j ∈ xs, xs.getLast? ≠ some j → step' j = step j) (hi : step' i = none) :
    Linked step' (xs ++ [i]) := by
  rw [← List.append_nil xs] at h
  exact h.splice hnodup ⟨hi, trivial⟩ hlast hsame

/-! ## Both directions -/

/-- The nodes are linked forwards by `next` and backwards by `prev`. -/
structure Doubly (next prev : I → Option I) (xs : List I) : Prop where
  forward : Linked next xs
  backward : Linked prev xs.reverse

variable {next next' prev prev' : I → Option I}

theorem doubly_nil : Doubly next prev [] := ⟨trivial, trivial⟩

/-- Read from the other end. -/
theorem Doubly.symm (h : Doubly next prev xs) : Doubly prev next xs.reverse :=
  ⟨h.backward, by rw [List.reverse_reverse]; exact h.forward⟩

theorem Doubly.congr (h : Doubly next prev xs) (hnext : ∀ j ∈ xs, next' j = next j)
    (hprev : ∀ j ∈ xs, prev' j = prev j) : Doubly next' prev' xs :=
  ⟨h.forward.congr hnext, h.backward.congr fun j hj => hprev j (List.mem_reverse.1 hj)⟩

/-- The links of a node. -/
theorem Doubly.links (h : Doubly next prev (l ++ i :: r)) :
    next i = r.head? ∧ prev i = l.getLast? := by
  have hback := h.backward
  rw [List.reverse_append, List.reverse_cons, List.append_assoc, List.singleton_append] at hback
  exact ⟨h.forward.step_eq, hback.step_eq.trans List.head?_reverse⟩

/-- Adding a node at the front: the first one now points back at it. -/
theorem Doubly.push (h : Doubly next prev xs) (hnodup : xs.Nodup) (hi : next' i = xs.head?)
    (hi' : prev' i = none) (hhead : ∀ j, xs.head? = some j → prev' j = some i)
    (hnext : ∀ j ∈ xs, next' j = next j)
    (hprev : ∀ j ∈ xs, xs.head? ≠ some j → prev' j = prev j) : Doubly next' prev' (i :: xs) := by
  refine ⟨⟨hi, h.forward.congr hnext⟩, ?_⟩
  rw [List.reverse_cons]
  refine h.backward.snoc (List.nodup_reverse.2 hnodup) (fun j hj => ?_) (fun j hmem hj => ?_) hi'
  · rw [List.getLast?_reverse] at hj
    exact hhead j hj
  · rw [List.getLast?_reverse] at hj
    exact hprev j (List.mem_reverse.1 hmem) hj

/-- Adding a node at the back. -/
theorem Doubly.append (h : Doubly next prev xs) (hnodup : xs.Nodup) (hi : next' i = none)
    (hi' : prev' i = xs.getLast?) (hlast : ∀ j, xs.getLast? = some j → next' j = some i)
    (hnext : ∀ j ∈ xs, xs.getLast? ≠ some j → next' j = next j)
    (hprev : ∀ j ∈ xs, prev' j = prev j) : Doubly next' prev' (xs ++ [i]) := by
  have hpush : Doubly prev' next' (i :: xs.reverse) := h.symm.push (List.nodup_reverse.2 hnodup)
    (hi'.trans List.head?_reverse.symm) hi
    (fun j hj => hlast j (List.head?_reverse.symm.trans hj))
    (fun j hj => hprev j (List.mem_reverse.1 hj))
    (fun j hj hne => hnext j (List.mem_reverse.1 hj) fun he => hne (List.head?_reverse.trans he))
  have hsymm := hpush.symm
  rw [List.reverse_cons, List.reverse_reverse] at hsymm
  exact hsymm

/-- Taking out a node: its neighbours now point at each other. -/
theorem Doubly.remove (h : Doubly next prev (l ++ i :: r)) (hnodup : (l ++ i :: r).Nodup)
    (hlast : ∀ j, l.getLast? = some j → next' j = next i)
    (hhead : ∀ j, r.head? = some j → prev' j = prev i)
    (hnext : ∀ j ∈ l ++ r, l.getLast? ≠ some j → next' j = next j)
    (hprev : ∀ j ∈ l ++ r, r.head? ≠ some j → prev' j = prev j) : Doubly next' prev' (l ++ r) := by
  refine ⟨h.forward.remove hnodup hlast hnext, ?_⟩
  have hback := h.backward
  have hnodup' := List.nodup_reverse.2 hnodup
  rw [List.reverse_append, List.reverse_cons, List.append_assoc, List.singleton_append]
    at hback hnodup'
  rw [List.reverse_append]
  refine hback.remove hnodup' (fun j hj => ?_) fun j hmem hj => ?_
  · rw [List.getLast?_reverse] at hj
    exact hhead j hj
  · rw [List.getLast?_reverse] at hj
    refine hprev j ?_ hj
    rw [List.mem_append, List.mem_reverse, List.mem_reverse] at hmem
    exact List.mem_append.2 hmem.symm

/-- The links that are left when each neighbour of `i` was given what `i` points at. -/
theorem Doubly.unlink [DecidableEq I] (h : Doubly next prev (l ++ i :: r))
    (hnodup : (l ++ i :: r).Nodup) :
    Doubly (fun j => if prev i = some j then next i else next j)
      (fun j => if next i = some j then prev i else prev j) (l ++ r) := by
  obtain ⟨hnext, hprev⟩ := h.links
  refine h.remove hnodup (fun j hj => ?_) (fun j hj => ?_) (fun j _ hj => ?_) fun j _ hj => ?_
  · exact if_pos (hprev.trans hj)
  · exact if_pos (hnext.trans hj)
  · exact if_neg fun he => hj (hprev.symm.trans he)
  · exact if_neg fun he => hj (hnext.symm.trans he)

end Chains
