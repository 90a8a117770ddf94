/-
The intrusive lists of `src/fifo.c`.

The pages of all lists share one pair of link fields, so a routine that works on one list can
damage another. `Lists` is the memory the routines see: the three fields of each `fifo_list`
and the three link fields of each page. The routines are written statement by statement, with the
source's assertions as faults.

`Refines s A` says that the memory holds the sequences `A`, written from `first` to `last`. The
two kinds of pointer surgery, linking at `first` and unlinking anywhere, are computed once as
whole memories (`pushed`, `unlinked`) and shown to keep `Refines`; `dequeue_fifo` unlinks the
last page and both removals unlink the given one. For each routine there is then one lemma: no
assertion fails, it returns what the sequences say, and the memory holds the new sequences.
-/
import Mathlib.Data.Int.Notation
import Mathlib.Data.List.Nodup
import Mathlib.Logic.Function.Basic
import SwapPrefetch.Chain
import SwapPrefetch.Prog

set_option autoImplicit false

namespace SwapPrefetch.Fifo

open Prog Chains

/-! ## The memory -/

/-- `struct fifo_list`, without its lock. -/
structure FifoList (P : Type) where
  first : Option P := none
  last : Option P := none
  numentries : ℕ := 0

/-- The link fields of `struct user_page`. -/
@[ext] structure PageLinks (L P : Type) where
  next : Option P := none
  prev : Option P := none
  list : Option L := none

/-- All lists and all pages. -/
@[ext] structure Lists (L P : Type) where
  queue : L → FifoList P := fun _ => {}
  page : P → PageLinks L P := fun _ => {}

/-- The assertions of `src/fifo.c`. -/
inductive Fault where
  /-- `entry->prev == NULL` -/
  | entry_prev
  /-- `queue->first->prev == NULL` -/
  | first_prev
  /-- `queue->last == NULL` -/
  | last_null
  /-- `queue->numentries == 0` -/
  | no_entries
  /-- `queue->numentries > 0` -/
  | some_entries
deriving DecidableEq, Repr

variable {L P : Type}

/-- A routine of `src/fifo.c`. -/
abbrev Proc (L P β : Type) : Type := Prog Fault (Lists L P) β

section Routines

variable [DecidableEq L] [DecidableEq P]

/-- Assign to fields of a list. -/
def set_list (list : L) (f : FifoList P → FifoList P) : Proc L P Unit :=
  modify fun s => { s with queue := Function.update s.queue list (f (s.queue list)) }

/-- Assign to fields of a page. -/
def set_page (page : P) (f : PageLinks L P → PageLinks L P) : Proc L P Unit :=
  modify fun s => { s with page := Function.update s.page page (f (s.page page)) }

/-- Assign to fields of the page a pointer leads to, unless it is `NULL`. -/
def set_pointee (page : Option P) (f : PageLinks L P → PageLinks L P) : Proc L P Unit :=
  match page with
  | some page => set_page page f
  | none => pure ()

/-- The fields of a list. -/
def get_list (list : L) : Proc L P (FifoList P) := do
  pure ((← get).queue list)

/-- The fields of a page. -/
def get_page (page : P) : Proc L P (PageLinks L P) := do
  pure ((← get).page page)

/-! ## The routines -/

/-- `enqueue_fifo`. -/
def enqueue_fifo (queue : L) (entry : P) : Proc L P Unit := do
  check ((← get_page entry).prev = none) .entry_prev
  let first := (← get_list queue).first
  set_page entry fun e => { e with next := first }
  match first with
  | some head =>
      check ((← get_page head).prev = none) .first_prev
      set_page head fun e => { e with prev := some entry }
  | none =>
      check ((← get_list queue).last = none) .last_null
      check ((← get_list queue).numentries = 0) .no_entries
      set_list queue fun q => { q with last := some entry }
  set_list queue fun q => { q with first := some entry }
  set_page entry fun e => { e with list := some queue }
  set_list queue fun q => { q with numentries := q.numentries + 1 }

/-- The part of `dequeue_fifo` behind the test for `NULL`; the loop of `dequeue_fifo_vector` has
the same statements. -/
def take_last (queue : L) (ret : P) : Proc L P Unit := do
  let prev := (← get_page ret).prev
  set_list queue fun q => { q with last := prev }
  match (← get_list queue).last with
  | some last => set_page last fun e => { e with next := none }
  | none => set_list queue fun q => { q with first := none }
  set_page ret fun e => { e with prev := none, next := none }
  set_page ret fun e => { e with list := none }
  check (0 < (← get_list queue).numentries) .some_entries
  set_list queue fun q => { q with numentries := q.numentries - 1 }

/-- `dequeue_fifo`. -/
def dequeue_fifo (queue : L) : Proc L P (Option P) := do
  match (← get_list queue).last with
  | none => pure none
  | some ret =>
      take_last queue ret
      pure (some ret)

/-- The loop of `dequeue_fifo_vector`, with `nr_fetch - nr_taken` rounds left. -/
def dequeue_rounds (queue : L) : ℕ → List P → Proc L P (List P)
  | 0, vector => pure vector
  | left + 1, vector => do
      match (← get_list queue).last with
      | none => pure vector
      | some page =>
          take_last queue page
          dequeue_rounds queue left (vector ++ [page])

/-- `dequeue_fifo_vector`: the pages it wrote to `vector`, and how many. -/
def dequeue_fifo_vector (queue : L) (nr_fetch : ℤ) : Proc L P (ℤ × List P) := do
  let vector ← dequeue_rounds queue nr_fetch.toNat []
  pure (vector.length, vector)

/-- The ends of the list move past a page that is about to go. -/
def pass_ends (list : L) (page : P) : Proc L P Unit := do
  if (← get_list list).first = some page then
    let next := (← get_page page).next
    set_list list fun q => { q with first := next }
  if (← get_list list).last = some page then
    let prev := (← get_page page).prev
    set_list list fun q => { q with last := prev }

/-- The pages on both sides of a page that is about to go point at each other. -/
def pass_neighbours (page : P) : Proc L P Unit := do
  let e ← get_page page
  set_pointee e.next fun next => { next with prev := e.prev }
  let e ← get_page page
  set_pointee e.prev fun prev => { prev with next := e.next }

/-- The part of both removals behind the test for an empty list. -/
def unlink_page (list : L) (page : P) : Proc L P Unit := do
  pass_ends list page
  pass_neighbours page
  check (0 < (← get_list list).numentries) .some_entries
  set_list list fun q => { q with numentries := q.numentries - 1 }
  set_page page fun e => { e with next := none }
  set_page page fun e => { e with prev := none }
  set_page page fun e => { e with list := none }

/-- `page_list_remove_page`. -/
def page_list_remove_page (list : L) (page : P) : Proc L P Unit := do
  if (← get_list list).first = none then
    check ((← get_list list).last = none) .last_null
    check ((← get_list list).numentries = 0) .no_entries
  else
    unlink_page list page

/-- `page_list_tryremove_page`; `list` may be `NULL`. -/
def page_list_tryremove_page (list : Option L) (page : P) : Proc L P ℤ := do
  match list with
  | none => pure (-1)
  | some list =>
      if (← get_page page).list ≠ some list then
        pure (-1)
      else if (← get_list list).first = none then
        check ((← get_list list).last = none) .last_null
        check ((← get_list list).numentries = 0) .no_entries
        pure (-1)
      else
        unlink_page list page
        pure 0

end Routines

/-! ## The sequences the memory holds -/

/-- The list `q` holds this sequence, written from `first` to `last`. -/
structure Holds (s : Lists L P) (q : L) (xs : List P) : Prop where
  forward : Chain (fun i => (s.page i).next) (s.queue q).first xs
  backward : Chain (fun i => (s.page i).prev) (s.queue q).last xs.reverse
  numentries : (s.queue q).numentries = xs.length
  member : ∀ i, (s.page i).list = some q ↔ i ∈ xs
  nodup : xs.Nodup

/-- The memory holds these sequences, and the pages on none of them have no links. -/
structure Refines (s : Lists L P) (A : L → List P) : Prop where
  holds : ∀ q, Holds s q (A q)
  loose : ∀ i, (s.page i).list = none → (s.page i).next = none ∧ (s.page i).prev = none

variable {s s' : Lists L P} {A : L → List P} {q q' : L} {i j : P} {xs : List P}

theorem refines_start : Refines ({} : Lists L P) fun _ => [] where
  holds _ := ⟨rfl, rfl, rfl, fun _ => ⟨nofun, nofun⟩, List.nodup_nil⟩
  loose _ _ := ⟨rfl, rfl⟩

namespace Holds

theorem first (h : Holds s q xs) : (s.queue q).first = xs.head? := (chain_iff.1 h.forward).1

theorem last (h : Holds s q xs) : (s.queue q).last = xs.getLast? :=
  (chain_iff.1 h.backward).1.trans List.head?_reverse

theorem next_linked (h : Holds s q xs) : Linked (fun i => (s.page i).next) xs :=
  (chain_iff.1 h.forward).2

theorem prev_linked (h : Holds s q xs) : Linked (fun i => (s.page i).prev) xs.reverse :=
  (chain_iff.1 h.backward).2

theorem of_linked (hfirst : (s.queue q).first = xs.head?) (hlast : (s.queue q).last = xs.getLast?)
    (hnext : Linked (fun i => (s.page i).next) xs)
    (hprev : Linked (fun i => (s.page i).prev) xs.reverse)
    (hnum : (s.queue q).numentries = xs.length)
    (hmember : ∀ i, (s.page i).list = some q ↔ i ∈ xs) (hnodup : xs.Nodup) : Holds s q xs where
  forward := chain_iff.2 ⟨hfirst, hnext⟩
  backward := chain_iff.2 ⟨hlast.trans List.head?_reverse.symm, hprev⟩
  numentries := hnum
  member := hmember
  nodup := hnodup

/-- A list is left alone by a change of other lists and other pages. -/
theorem frame (h : Holds s q xs) (hqueue : s'.queue q = s.queue q)
    (hpage : ∀ j ∈ xs, s'.page j = s.page j)
    (hother : ∀ j, j ∉ xs → (s'.page j).list ≠ some q) : Holds s' q xs := by
  refine of_linked (hqueue ▸ h.first) (hqueue ▸ h.last) ?_ ?_ (hqueue ▸ h.numentries) ?_ h.nodup
  · exact h.next_linked.congr fun j hj => by rw [hpage j hj]
  · exact h.prev_linked.congr fun j hj => by rw [hpage j (List.mem_reverse.1 hj)]
  · intro j
    by_cases hj : j ∈ xs
    · rw [hpage j hj, h.member j]
    · exact iff_of_false (hother j hj) hj

/-- The links of a page that is on a list. -/
theorem links {l r : List P} (h : Holds s q (l ++ i :: r)) :
    (s.page i).next = r.head? ∧ (s.page i).prev = l.getLast? := by
  have hprev := h.prev_linked
  rw [List.reverse_append, List.reverse_cons, List.append_assoc, List.singleton_append] at hprev
  exact ⟨h.next_linked.step_eq, hprev.step_eq.trans List.head?_reverse⟩

/-- The pages on both sides of a page are others. -/
theorem neighbours {l r : List P} (h : Holds s q (l ++ i :: r)) :
    i ∉ l ∧ i ∉ r := by
  have hnodup := h.nodup
  rw [List.nodup_middle, List.nodup_cons, List.mem_append, not_or] at hnodup
  exact hnodup.1

end Holds

namespace Refines

theorem disjoint (h : Refines s A) (hi : i ∈ A q) (hi' : i ∈ A q') : q = q' :=
  Option.some.inj ((((h.holds q).member i).2 hi).symm.trans (((h.holds q').member i).2 hi'))

theorem not_mem (h : Refines s A) (hi : (s.page i).list = none) (q : L) : i ∉ A q := by
  intro hmem
  have hlist := ((h.holds q).member i).2 hmem
  rw [hi] at hlist
  cases hlist

theorem first_ne_none (h : Refines s A) (hi : i ∈ A q) : (s.queue q).first ≠ none := by
  rw [(h.holds q).first]
  intro he
  rw [List.head?_eq_none_iff.1 he] at hi
  cases hi

/-- Only the list `q` has changed. -/
theorem of_update [DecidableEq L] (hq : Holds s' q xs)
    (hframe : ∀ q', q' ≠ q → Holds s' q' (A q'))
    (hloose : ∀ i, (s'.page i).list = none → (s'.page i).next = none ∧ (s'.page i).prev = none) :
    Refines s' (Function.update A q xs) := by
  refine ⟨fun q' => ?_, hloose⟩
  by_cases hqq : q' = q
  · subst hqq
    rw [Function.update_self]
    exact hq
  · rw [Function.update_of_ne hqq]
    exact hframe q' hqq

end Refines

variable [DecidableEq L] [DecidableEq P]

/-! ## Linking at `first` -/

/-- The memory after `enqueue_fifo`. -/
def pushed (s : Lists L P) (q : L) (i : P) : Lists L P where
  queue := Function.update s.queue q
    { first := some i
      last := if (s.queue q).first = none then some i else (s.queue q).last
      numentries := (s.queue q).numentries + 1 }
  page j :=
    if j = i then { next := (s.queue q).first, prev := none, list := some q }
    else { s.page j with prev := if (s.queue q).first = some j then some i else (s.page j).prev }

theorem run_enqueue_fifo (h : Refines s A) (q : L) (hi : (s.page i).list = none) :
    (enqueue_fifo q i).run s = .ok ((), pushed s q i) := by
  have hprev := (h.loose i hi).2
  have hq := h.holds q
  rcases hA : A q with _ | ⟨f, xs⟩
  · rw [hA] at hq
    have hfirst : (s.queue q).first = none := hq.first
    have hlast : (s.queue q).last = none := hq.last
    have hnum : (s.queue q).numentries = 0 := hq.numentries
    have hpushed : pushed s q i
        = { queue := Function.update s.queue q { first := some i, last := some i, numentries := 1 }
            page := Function.update s.page i { list := some q } } := by
      refine Lists.ext (by simp [pushed, hfirst, hnum]) (funext fun j => ?_)
      by_cases hj : j = i
      · simp [pushed, hj, hfirst]
      · simp [pushed, hj, hfirst]
    rw [hpushed]
    simp [enqueue_fifo, get_page, get_list, set_page, set_list, hprev, hfirst, hlast, hnum]
  · rw [hA] at hq
    have hfirst : (s.queue q).first = some f := hq.first
    have hf : (s.page f).prev = none := (hq.links (l := [])).2
    have hne : i ≠ f := by
      rintro rfl
      exact h.not_mem hi q (hA ▸ List.mem_cons_self)
    have hpushed : pushed s q i
        = { queue := Function.update s.queue q
              { s.queue q with first := some i, numentries := (s.queue q).numentries + 1 }
            page := Function.update (Function.update s.page f { s.page f with prev := some i }) i
              { next := some f, list := some q } } := by
      refine Lists.ext (by simp [pushed, hfirst]) (funext fun j => ?_)
      by_cases hj : j = i
      · simp [pushed, hj, hfirst]
      · by_cases hjf : f = j
        · subst hjf
          simp [pushed, hj, hfirst]
        · simp [pushed, hj, hfirst, hjf, Ne.symm hjf]
    rw [hpushed]
    simp [enqueue_fifo, get_page, get_list, set_page, set_list, hprev, hfirst, hf, hne, hne.symm,
      Function.update_comm hne]

theorem pushed_page_self (s : Lists L P) (q : L) (i : P) :
    (pushed s q i).page i = { next := (s.queue q).first, prev := none, list := some q } :=
  if_pos rfl

theorem pushed_page_of_ne (s : Lists L P) (q : L) (hj : j ≠ i) :
    (pushed s q i).page j
      = { s.page j with
          prev := if (s.queue q).first = some j then some i else (s.page j).prev } :=
  if_neg hj

theorem pushed_queue_self (s : Lists L P) (q : L) (i : P) :
    (pushed s q i).queue q
      = { first := some i
          last := if (s.queue q).first = none then some i else (s.queue q).last
          numentries := (s.queue q).numentries + 1 } :=
  Function.update_self _ _ _

theorem pushed_queue_of_ne (s : Lists L P) (i : P) (hq : q' ≠ q) :
    (pushed s q i).queue q' = s.queue q' :=
  Function.update_of_ne hq _ _

theorem Holds.push (h : Holds s q xs) (hi : i ∉ xs) : Holds (pushed s q i) q (i :: xs) := by
  have hpage : ∀ j ∈ xs, (pushed s q i).page j
      = { s.page j with prev := if (s.queue q).first = some j then some i else (s.page j).prev } :=
    fun j hj => pushed_page_of_ne s q fun he => hi (he ▸ hj)
  refine of_linked ?_ ?_ ⟨?_, ?_⟩ ?_ ?_ ?_ (List.nodup_cons.2 ⟨hi, h.nodup⟩)
  · rw [pushed_queue_self]
    rfl
  · rw [pushed_queue_self]
    -- the end moves only if the list was empty
    show (if (s.queue q).first = none then some i else (s.queue q).last) = _
    rw [h.first, h.last]
    rcases xs with _ | ⟨f, xs⟩
    · rfl
    · rw [List.getLast?_cons_cons]
      exact if_neg nofun
  · show ((pushed s q i).page i).next = xs.head?
    rw [pushed_page_self]
    exact h.first
  · exact h.next_linked.congr fun j hj => by rw [hpage j hj]
  · -- the old first page now points back at the new one
    rw [List.reverse_cons]
    refine h.prev_linked.snoc (List.nodup_reverse.2 h.nodup) ?_ ?_ ?_
    · intro j hj
      have hmem := List.mem_reverse.1 (List.mem_of_getLast? hj)
      rw [List.getLast?_reverse, ← h.first] at hj
      show ((pushed s q i).page j).prev = some i
      rw [hpage j hmem]
      exact if_pos hj
    · intro j hmem hj
      rw [List.getLast?_reverse, ← h.first] at hj
      show ((pushed s q i).page j).prev = (s.page j).prev
      rw [hpage j (List.mem_reverse.1 hmem)]
      exact if_neg hj
    · show ((pushed s q i).page i).prev = none
      rw [pushed_page_self]
  · rw [pushed_queue_self, List.length_cons, ← h.numentries]
  · intro j
    by_cases hj : j = i
    · subst hj
      rw [pushed_page_self]
      exact iff_of_true rfl List.mem_cons_self
    · rw [pushed_page_of_ne s q hj, List.mem_cons, or_iff_right hj]
      exact h.member j

/-- **Linking at `first`** puts the page in front of the sequence. -/
theorem Refines.push (h : Refines s A) (q : L) (hi : (s.page i).list = none) :
    Refines (pushed s q i) (Function.update A q (i :: A q)) := by
  have hfirst : ∀ {j}, (s.queue q).first = some j → j ∈ A q := fun {j} hj =>
    List.mem_of_mem_head? ((h.holds q).first.symm.trans hj)
  refine .of_update ((h.holds q).push (h.not_mem hi q)) ?_ ?_
  · intro q' hq
    refine (h.holds q').frame (pushed_queue_of_ne s i hq) ?_ ?_
    · intro j hj
      have hne : j ≠ i := fun he => h.not_mem hi q' (he ▸ hj)
      rw [pushed_page_of_ne s q hne, if_neg fun he => hq (h.disjoint hj (hfirst he))]
    · intro j hj
      by_cases hne : j = i
      · subst hne
        rw [pushed_page_self]
        exact fun he => hq (Option.some.inj he).symm
      · rw [pushed_page_of_ne s q hne]
        exact fun he => hj (((h.holds q').member j).1 he)
  · intro j hlist
    by_cases hj : j = i
    · subst hj
      rw [pushed_page_self] at hlist
      cases hlist
    · rw [pushed_page_of_ne s q hj] at hlist ⊢
      obtain ⟨hnext, hprev⟩ := h.loose j hlist
      refine ⟨hnext, (if_neg fun he => ?_).trans hprev⟩
      exact h.not_mem hlist q (hfirst he)

/-! ## Unlinking -/

/-- The memory after a page is unlinked from a list. -/
def unlinked (s : Lists L P) (q : L) (i : P) : Lists L P where
  queue := Function.update s.queue q
    { first := if (s.queue q).first = some i then (s.page i).next else (s.queue q).first
      last := if (s.queue q).last = some i then (s.page i).prev else (s.queue q).last
      numentries := (s.queue q).numentries - 1 }
  page j :=
    if j = i then {}
    else
      { next := if (s.page i).prev = some j then (s.page i).next else (s.page j).next
        prev := if (s.page i).next = some j then (s.page i).prev else (s.page j).prev
        list := (s.page j).list }

omit [DecidableEq L] [DecidableEq P] in
theorem ok_congr {queue : L → FifoList P} {page page' : P → PageLinks L P}
    (h : ∀ j, page j = page' j) :
    (Except.ok ((), ⟨queue, page⟩) : Except Fault (Unit × Lists L P)) = .ok ((), ⟨queue, page'⟩) := by
  rw [funext h]

theorem run_pass_ends (s : Lists L P) (q : L) (i : P) :
    (pass_ends q i).run s = .ok ((), { s with
      queue := Function.update s.queue q { s.queue q with
        first := if (s.queue q).first = some i then (s.page i).next else (s.queue q).first
        last := if (s.queue q).last = some i then (s.page i).prev else (s.queue q).last } }) := by
  by_cases hfirst : (s.queue q).first = some i
  · by_cases hlast : (s.queue q).last = some i
    · simp [pass_ends, get_page, get_list, set_list, hfirst, hlast]
      rfl
    · simp [pass_ends, get_page, get_list, set_list, hfirst, hlast]
      rfl
  · by_cases hlast : (s.queue q).last = some i
    · simp [pass_ends, get_page, get_list, set_list, hfirst, hlast]
      rfl
    · simp [pass_ends, get_page, get_list, hfirst, hlast]
      rfl

omit [DecidableEq L] in
theorem run_set_pointee (s : Lists L P) (o : Option P) (f : PageLinks L P → PageLinks L P) :
    (set_pointee o f).run s
      = .ok ((), { s with page := fun j => if o = some j then f (s.page j) else s.page j }) := by
  rcases o with _ | p
  · rfl
  · rw [set_pointee, set_page, run_modify]
    refine ok_congr fun j => ?_
    by_cases hj : j = p
    · subst hj
      rw [Function.update_self, if_pos rfl]
    · rw [Function.update_of_ne hj, if_neg fun he => hj (Option.some.inj he).symm]

omit [DecidableEq L] in
theorem run_pass_neighbours (queue : L → FifoList P) {page : P → PageLinks L P}
    (hnext : (page i).next ≠ some i) :
    (pass_neighbours i).run ⟨queue, page⟩ = .ok ((), {
      queue := queue
      page := fun j => { page j with
        next := if (page i).prev = some j then (page i).next else (page j).next
        prev := if (page i).next = some j then (page i).prev else (page j).prev } }) := by
  simp only [pass_neighbours, get_page, run_bind, run_get, ok_bind, run_pure, run_set_pointee,
    if_neg hnext]
  refine ok_congr fun j => ?_
  by_cases hp : (page i).prev = some j
  · by_cases hn : (page i).next = some j
    · simp [hp, hn]
    · simp [hp, hn]
  · by_cases hn : (page i).next = some j
    · simp [hp, hn]
    · simp [hp, hn]

theorem run_unlink_page (hnum : 0 < (s.queue q).numentries) (hnext : (s.page i).next ≠ some i) :
    (unlink_page q i).run s = .ok ((), unlinked s q i) := by
  rw [unlink_page, run_bind_ok (run_pass_ends s q i), run_bind_ok (run_pass_neighbours _ hnext)]
  simp only [get_list, set_list, set_page, run_bind, run_get, ok_bind, run_pure, run_modify,
    Function.update_self, run_check_pos hnum, Function.update_idem]
  refine ok_congr fun j => ?_
  by_cases hj : j = i
  · subst hj
    rw [Function.update_self, if_pos rfl]
  · rw [Function.update_of_ne hj, if_neg hj]

/-- `take_last` unlinks the last page. -/
theorem run_take_last {l : List P} (h : Holds s q (l ++ [i])) :
    (take_last q i).run s = .ok ((), unlinked s q i) := by
  obtain ⟨hnext, hprev⟩ := h.links
  have hnext : (s.page i).next = none := hnext
  have hlast : (s.queue q).last = some i := h.last.trans List.getLast?_concat
  have hnum : 0 < (s.queue q).numentries := by
    rw [h.numentries, List.length_append, List.length_singleton]
    exact Nat.succ_pos _
  rcases List.eq_nil_or_concat' l with rfl | ⟨m, p, rfl⟩
  · have hfirst : (s.queue q).first = some i := h.first
    have hprev : (s.page i).prev = none := hprev
    have hunlinked : unlinked s q i
        = { queue := Function.update s.queue q { numentries := (s.queue q).numentries - 1 }
            page := Function.update s.page i {} } := by
      refine Lists.ext (by simp [unlinked, hfirst, hlast, hnext, hprev]) (funext fun j => ?_)
      by_cases hj : j = i
      · simp [unlinked, hj]
      · simp [unlinked, hj, hnext, hprev]
    rw [hunlinked]
    simp [take_last, get_page, get_list, set_page, set_list, hprev, hnum]
  · have hprev : (s.page i).prev = some p := hprev.trans List.getLast?_concat
    have hi : i ∉ m ++ [p] := h.neighbours.1
    have hfirst : (s.queue q).first ≠ some i := by
      rw [h.first, List.head?_append_of_ne_nil _ (List.append_ne_nil_of_right_ne_nil _ (by simp))]
      exact fun he => hi (List.mem_of_mem_head? he)
    have hunlinked : unlinked s q i
        = { queue := Function.update s.queue q
              { s.queue q with last := some p, numentries := (s.queue q).numentries - 1 }
            page := Function.update (Function.update s.page p { s.page p with next := none })
              i {} } := by
      refine Lists.ext (by simp [unlinked, hfirst, hlast, hprev]) (funext fun j => ?_)
      by_cases hj : j = i
      · simp [unlinked, hj]
      · by_cases hp : p = j
        · subst hp
          simp [unlinked, hj, hnext, hprev]
        · simp [unlinked, hj, hnext, hprev, hp, Ne.symm hp]
    rw [hunlinked]
    simp [take_last, get_page, get_list, set_page, set_list, hprev, hnum]

theorem unlinked_page_self (s : Lists L P) (q : L) (i : P) : (unlinked s q i).page i = {} :=
  if_pos rfl

theorem unlinked_page_of_ne (s : Lists L P) (q : L) (hj : j ≠ i) :
    (unlinked s q i).page j
      = { next := if (s.page i).prev = some j then (s.page i).next else (s.page j).next
          prev := if (s.page i).next = some j then (s.page i).prev else (s.page j).prev
          list := (s.page j).list } :=
  if_neg hj

theorem unlinked_queue_self (s : Lists L P) (q : L) (i : P) :
    (unlinked s q i).queue q
      = { first := if (s.queue q).first = some i then (s.page i).next else (s.queue q).first
          last := if (s.queue q).last = some i then (s.page i).prev else (s.queue q).last
          numentries := (s.queue q).numentries - 1 } :=
  Function.update_self _ _ _

theorem unlinked_queue_of_ne (s : Lists L P) (i : P) (hq : q' ≠ q) :
    (unlinked s q i).queue q' = s.queue q' :=
  Function.update_of_ne hq _ _

theorem Holds.unlink {l r : List P} (h : Holds s q (l ++ i :: r)) :
    Holds (unlinked s q i) q (l ++ r) := by
  obtain ⟨hnext, hprev⟩ := h.links
  obtain ⟨hl, hr⟩ := h.neighbours
  have hne : ∀ j ∈ l ++ r, j ≠ i := by
    rintro j hj rfl
    exact (List.mem_append.1 hj).elim hl hr
  refine of_linked ?_ ?_ ?_ ?_ ?_ ?_ ?_
  · -- the ends of the list move only if the page was there
    rw [unlinked_queue_self]
    show (if (s.queue q).first = some i then (s.page i).next else (s.queue q).first) = _
    rw [h.first, hnext]
    rcases l with _ | ⟨a, l⟩
    · exact if_pos rfl
    · exact if_neg fun he => hl (List.mem_of_mem_head? he)
  · rw [unlinked_queue_self]
    show (if (s.queue q).last = some i then (s.page i).prev else (s.queue q).last) = _
    rw [h.last, hprev]
    rcases List.eq_nil_or_concat' r with rfl | ⟨m, b, rfl⟩
    · rw [List.append_nil]
      exact if_pos List.getLast?_concat
    · rw [← List.append_assoc, List.getLast?_concat, ← List.cons_append, ← List.append_assoc,
        List.getLast?_concat]
      exact if_neg fun he =>
        hr (List.mem_append_right _ (List.mem_singleton.2 (Option.some.inj he).symm))
  · -- the page in front of it now leads to the one behind it
    refine h.next_linked.remove h.nodup ?_ ?_
    · intro j hj
      show ((unlinked s q i).page j).next = (s.page i).next
      rw [unlinked_page_of_ne s q (hne j (List.mem_append_left _ (List.mem_of_getLast? hj)))]
      exact if_pos (hprev.trans hj)
    · intro j hmem hj
      show ((unlinked s q i).page j).next = (s.page j).next
      rw [unlinked_page_of_ne s q (hne j hmem)]
      exact if_neg (hprev ▸ hj)
  · -- the other direction is the same list read backwards
    have hlinked := h.prev_linked
    have hnodup := List.nodup_reverse.2 h.nodup
    rw [List.reverse_append, List.reverse_cons, List.append_assoc, List.singleton_append]
      at hlinked hnodup
    rw [List.reverse_append]
    refine hlinked.remove hnodup ?_ ?_
    · intro j hj
      rw [List.getLast?_reverse] at hj
      show ((unlinked s q i).page j).prev = (s.page i).prev
      rw [unlinked_page_of_ne s q (hne j (List.mem_append_right _ (List.mem_of_mem_head? hj)))]
      exact if_pos (hnext.trans hj)
    · intro j hmem hj
      rw [List.getLast?_reverse] at hj
      rw [← List.reverse_append, List.mem_reverse] at hmem
      show ((unlinked s q i).page j).prev = (s.page j).prev
      rw [unlinked_page_of_ne s q (hne j hmem)]
      exact if_neg (hnext ▸ hj)
  · rw [unlinked_queue_self]
    show (s.queue q).numentries - 1 = _
    rw [h.numentries, List.length_append, List.length_append, List.length_cons]
    omega
  · intro j
    by_cases hj : j = i
    · subst hj
      rw [unlinked_page_self]
      exact iff_of_false nofun fun hmem => hne j hmem rfl
    · rw [unlinked_page_of_ne s q hj]
      refine (h.member j).trans ?_
      rw [List.mem_append, List.mem_append, List.mem_cons, or_iff_right hj]
  · exact h.nodup.sublist (List.Sublist.append_left (List.sublist_cons_self i r) l)

/-- **Unlinking** takes the page out of its sequence. -/
theorem Refines.unlink (h : Refines s A) (hi : i ∈ A q) :
    Refines (unlinked s q i) (Function.update A q ((A q).erase i)) := by
  obtain ⟨l, r, hA⟩ := List.append_of_mem hi
  have hq := h.holds q
  rw [hA] at hq
  obtain ⟨hnext, hprev⟩ := hq.links
  have herase : (A q).erase i = l ++ r := by
    rw [hA, List.erase_append_right _ hq.neighbours.1, List.erase_cons_head]
  -- the pages on both sides are on the same list
  have hnextmem : ∀ {j}, (s.page i).next = some j → j ∈ A q := fun {j} hj => by
    rw [hA]
    exact List.mem_append_right _ (List.mem_cons_of_mem _ (List.mem_of_mem_head? (hnext ▸ hj)))
  have hprevmem : ∀ {j}, (s.page i).prev = some j → j ∈ A q := fun {j} hj => by
    rw [hA]
    exact List.mem_append_left _ (List.mem_of_getLast? (hprev ▸ hj))
  rw [herase]
  refine .of_update hq.unlink ?_ ?_
  · intro q' hqq
    have hne : ∀ {j}, j ∈ A q' → j ≠ i := fun hj he => hqq (h.disjoint hj (he ▸ hi))
    refine (h.holds q').frame (unlinked_queue_of_ne s i hqq) ?_ ?_
    · intro j hj
      rw [unlinked_page_of_ne s q (hne hj), if_neg fun he => hqq (h.disjoint hj (hprevmem he)),
        if_neg fun he => hqq (h.disjoint hj (hnextmem he))]
    · intro j hj
      by_cases hji : j = i
      · subst hji
        rw [unlinked_page_self]
        exact nofun
      · rw [unlinked_page_of_ne s q hji]
        exact fun he => hj (((h.holds q').member j).1 he)
  · intro j hlist
    by_cases hj : j = i
    · subst hj
      rw [unlinked_page_self]
      exact ⟨rfl, rfl⟩
    · rw [unlinked_page_of_ne s q hj] at hlist ⊢
      obtain ⟨hnextj, hprevj⟩ := h.loose j hlist
      exact ⟨(if_neg fun he => h.not_mem hlist q (hprevmem he)).trans hnextj,
        (if_neg fun he => h.not_mem hlist q (hnextmem he)).trans hprevj⟩

/-! ## The operations on sequences -/

namespace Seqs

/-- The oldest element leaves. -/
def dequeue (q : L) (A : L → List P) : Option P × (L → List P) :=
  ((A q).getLast?, Function.update A q (A q).dropLast)

/-- Up to `n` times, the oldest element leaves. -/
def dequeues (q : L) : ℕ → (L → List P) → List P × (L → List P)
  | 0, A => ([], A)
  | n + 1, A =>
      match dequeue q A with
      | (none, _) => ([], A)
      | (some i, A') => (i :: (dequeues q n A').1, (dequeues q n A').2)

/-- The element leaves the sequence if it is on it. -/
def tryremove (q : Option L) (i : P) (A : L → List P) : ℤ × (L → List P) :=
  match q with
  | none => (-1, A)
  | some q => if i ∈ A q then (0, Function.update A q ((A q).erase i)) else (-1, A)

end Seqs

/-! ## What the routines return -/

theorem Refines.enqueue_fifo (h : Refines s A) (q : L) (hi : (s.page i).list = none) :
    ∃ s', (Fifo.enqueue_fifo q i).run s = .ok ((), s') ∧
      Refines s' (Function.update A q (i :: A q)) :=
  ⟨_, run_enqueue_fifo h q hi, h.push q hi⟩

/-- The list is empty if `last` is `NULL`; otherwise its oldest page is unlinked. -/
theorem Refines.take_last (h : Refines s A) (q : L) :
    ((s.queue q).last = none ∧ A q = []) ∨
      ∃ i s', (s.queue q).last = some i ∧ (Fifo.take_last q i).run s = .ok ((), s') ∧
        Seqs.dequeue q A = (some i, Function.update A q (A q).dropLast) ∧
        Refines s' (Function.update A q (A q).dropLast) := by
  have hq := h.holds q
  rcases List.eq_nil_or_concat' (A q) with hA | ⟨l, i, hA⟩
  · exact .inl ⟨by rw [hq.last, hA]; rfl, hA⟩
  · right
    have hmem : i ∈ A q := hA ▸ List.mem_append_right _ List.mem_cons_self
    have hlast : (A q).getLast? = some i := hA ▸ List.getLast?_concat
    rw [hA] at hq
    have herase : (A q).erase i = (A q).dropLast := by
      rw [hA, List.erase_append_right _ hq.neighbours.1, List.erase_cons_head, List.append_nil,
        List.dropLast_concat]
    refine ⟨i, _, hq.last.trans List.getLast?_concat, run_take_last hq, ?_, herase ▸ h.unlink hmem⟩
    rw [Seqs.dequeue, hlast]

theorem Refines.dequeue_fifo (h : Refines s A) (q : L) :
    ∃ s', (Fifo.dequeue_fifo q).run s = .ok ((Seqs.dequeue q A).1, s') ∧
      Refines s' (Seqs.dequeue q A).2 := by
  rcases h.take_last q with ⟨hlast, hA⟩ | ⟨i, s', hlast, hrun, hseq, href⟩
  · have hseq : Seqs.dequeue q A = (none, A) := by
      rw [Seqs.dequeue, hA, List.dropLast_nil, ← hA, Function.update_eq_self, hA]
      rfl
    rw [hseq]
    refine ⟨s, ?_, h⟩
    simp [Fifo.dequeue_fifo, get_list, hlast]
    rfl
  · rw [hseq]
    refine ⟨s', ?_, href⟩
    simp [Fifo.dequeue_fifo, get_list, hlast, hrun]

theorem Refines.dequeue_rounds (h : Refines s A) (q : L) (left : ℕ) (vector : List P) :
    ∃ s', (Fifo.dequeue_rounds q left vector).run s
        = .ok (vector ++ (Seqs.dequeues q left A).1, s') ∧ Refines s' (Seqs.dequeues q left A).2 := by
  induction left generalizing s A vector with
  | zero => exact ⟨s, by rw [Seqs.dequeues, List.append_nil]; rfl, h⟩
  | succ left ih =>
      rcases h.take_last q with ⟨hlast, hA⟩ | ⟨i, s', hlast, hrun, hseq, href⟩
      · have hseq : Seqs.dequeues q (left + 1) A = ([], A) := by
          rw [Seqs.dequeues, Seqs.dequeue, hA]
          rfl
        rw [hseq, List.append_nil]
        refine ⟨s, ?_, h⟩
        simp [Fifo.dequeue_rounds, get_list, hlast]
        rfl
      · obtain ⟨s'', hrest, href'⟩ := ih href (vector ++ [i])
        have hseq' : Seqs.dequeues q (left + 1) A
            = (i :: (Seqs.dequeues q left (Function.update A q (A q).dropLast)).1,
              (Seqs.dequeues q left (Function.update A q (A q).dropLast)).2) := by
          rw [Seqs.dequeues, hseq]
        rw [hseq']
        refine ⟨s'', ?_, href'⟩
        rw [List.append_assoc, List.singleton_append] at hrest
        simp [Fifo.dequeue_rounds, get_list, hlast, hrun, hrest]

theorem Refines.run_unlink (h : Refines s A) (hi : i ∈ A q) :
    ∃ s', (Fifo.unlink_page q i).run s = .ok ((), s') ∧
      Refines s' (Function.update A q ((A q).erase i)) := by
  obtain ⟨l, r, hA⟩ := List.append_of_mem hi
  have hq := h.holds q
  rw [hA] at hq
  have hnum : 0 < (s.queue q).numentries := by
    rw [hq.numentries, List.length_append, List.length_cons]
    omega
  have hnext : (s.page i).next ≠ some i := by
    rw [hq.links.1]
    exact fun he => hq.neighbours.2 (List.mem_of_mem_head? he)
  exact ⟨_, run_unlink_page hnum hnext, h.unlink hi⟩

theorem Refines.page_list_remove_page (h : Refines s A) (hi : (s.page i).list = some q) :
    ∃ s', (Fifo.page_list_remove_page q i).run s = .ok ((), s') ∧
      Refines s' (Function.update A q ((A q).erase i)) := by
  have hmem := ((h.holds q).member i).1 hi
  obtain ⟨s', hrun, href⟩ := h.run_unlink hmem
  refine ⟨s', ?_, href⟩
  simp [Fifo.page_list_remove_page, get_list, h.first_ne_none hmem, hrun]

/-- A page that is not on the given list is left where it is. -/
theorem run_tryremove_of_not_on {list : Option L} (h : ∀ q, list = some q → (s.page i).list ≠ some q) :
    (page_list_tryremove_page list i).run s = .ok (-1, s) := by
  rcases list with _ | q
  · rfl
  · simp [page_list_tryremove_page, get_page, h q rfl]
    rfl

theorem Refines.page_list_tryremove_page (h : Refines s A) (list : Option L) (i : P) :
    ∃ s', (Fifo.page_list_tryremove_page list i).run s = .ok ((Seqs.tryremove list i A).1, s') ∧
      Refines s' (Seqs.tryremove list i A).2 := by
  rcases list with _ | q
  · exact ⟨s, rfl, h⟩
  · have hmember := (h.holds q).member i
    by_cases hi : i ∈ A q
    · obtain ⟨s', hrun, href⟩ := h.run_unlink hi
      rw [Seqs.tryremove, if_pos hi]
      refine ⟨s', ?_, href⟩
      simp [Fifo.page_list_tryremove_page, get_page, get_list, hmember.2 hi, h.first_ne_none hi, hrun]
    · rw [Seqs.tryremove, if_neg hi]
      refine ⟨s, run_tryremove_of_not_on ?_, h⟩
      rintro q' ⟨rfl⟩ hlist
      exact hi (hmember.1 hlist)

end SwapPrefetch.Fifo
