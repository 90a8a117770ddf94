/-
Runs of the list routines, and the lists of the policy.

`seqs` does with plain sequences what the routines of `src/fifo.c` do with pointers. The run
theorem is a simulation by the step lemma `Op.run_refines`: whatever the order of the calls, no
assertion fails, both return the same values, and the memory holds the sequences.

The model of the policy keeps its lists as sequences from `last` to `first`, and the `list` field
of each page beside them. `Mirrors` is the same relation read that way: the list routines of
`Paging.lean` are the ones of `src/fifo.c`, seen through `Refines`.
-/
import Mathlib.Data.List.Dedup
import SwapPrefetch.FifoLinks
import SwapPrefetch.Invariant

set_option autoImplicit false

namespace SwapPrefetch.Fifo

open Prog Chains

variable {L P : Type} [DecidableEq L] [DecidableEq P]

/-! ## Calls -/

/-- A call of a list routine. -/
inductive Op (L P : Type) where
  | enqueue (queue : L) (entry : P)
  | dequeue (queue : L)
  | dequeue_vector (queue : L) (nr_fetch : ℤ)
  | tryremove (list : Option L) (page : P)
  | remove (list : L) (page : P)

/-- What a call returns. -/
inductive Answer (P : Type) where
  | done
  | page (ret : Option P)
  | pages (nr_taken : ℤ) (vector : List P)
  | code (ret : ℤ)
deriving DecidableEq

namespace Op

/-- The routine that is called. -/
def run : Op L P → Proc L P (Answer P)
  | enqueue queue entry => do
      enqueue_fifo queue entry
      pure .done
  | dequeue queue => do
      pure (.page (← dequeue_fifo queue))
  | dequeue_vector queue nr_fetch => do
      let (nr_taken, vector) ← dequeue_fifo_vector queue nr_fetch
      pure (.pages nr_taken vector)
  | tryremove list page => do
      pure (.code (← page_list_tryremove_page list page))
  | remove list page => do
      page_list_remove_page list page
      pure .done

/-- The same call on sequences, written from the newest element to the oldest one. -/
def seq : Op L P → (L → List P) → Answer P × (L → List P)
  | enqueue q i, A => (.done, Function.update A q (i :: A q))
  | dequeue q, A => (.page (Seqs.dequeue q A).1, (Seqs.dequeue q A).2)
  | dequeue_vector q n, A =>
      (.pages (Seqs.dequeues q n.toNat A).1.length (Seqs.dequeues q n.toNat A).1,
        (Seqs.dequeues q n.toNat A).2)
  | tryremove q i, A => (.code (Seqs.tryremove q i A).1, (Seqs.tryremove q i A).2)
  | remove q i, A => (.done, Function.update A q ((A q).erase i))

/-- A page is enqueued when it is on no list, and removed from the list it is on. -/
def Intended : Op L P → Lists L P → Prop
  | enqueue _ entry, s => (s.page entry).list = none
  | remove list page, s => (s.page page).list = some list
  | _, _ => True

/-- **One call** does what it does on sequences. -/
theorem run_refines {s : Lists L P} {A : L → List P} (op : Op L P) (h : Refines s A)
    (hop : op.Intended s) :
    ∃ s', op.run.run s = .ok ((op.seq A).1, s') ∧ Refines s' (op.seq A).2 := by
  cases op with
  | enqueue queue entry =>
      obtain ⟨s', hrun, href⟩ := h.enqueue_fifo queue hop
      exact ⟨s', by rw [run, run_bind_ok hrun]; rfl, href⟩
  | dequeue queue =>
      obtain ⟨s', hrun, href⟩ := h.dequeue_fifo queue
      exact ⟨s', by rw [run, run_bind_ok hrun]; rfl, href⟩
  | dequeue_vector queue nr_fetch =>
      obtain ⟨s', hrun, href⟩ := h.dequeue_rounds queue nr_fetch.toNat []
      refine ⟨s', ?_, href⟩
      rw [run, run_bind_ok (run_bind_ok hrun)]
      rfl
  | tryremove list page =>
      obtain ⟨s', hrun, href⟩ := h.page_list_tryremove_page list page
      exact ⟨s', by rw [run, run_bind_ok hrun]; rfl, href⟩
  | remove list page =>
      obtain ⟨s', hrun, href⟩ := h.page_list_remove_page hop
      exact ⟨s', by rw [run, run_bind_ok hrun]; rfl, href⟩

end Op

/-! ## Runs -/

/-- Make the calls one after another. -/
def exec : List (Op L P) → Proc L P (List (Answer P))
  | [] => pure []
  | op :: ops => do
      let a ← op.run
      let as ← exec ops
      pure (a :: as)

/-- The same calls on sequences. -/
def seqs : List (Op L P) → (L → List P) → List (Answer P) × (L → List P)
  | [], A => ([], A)
  | op :: ops, A => ((op.seq A).1 :: (seqs ops (op.seq A).2).1, (seqs ops (op.seq A).2).2)

/-- Every call is an intended one in the memory it is made in. -/
def Intended : List (Op L P) → Lists L P → Prop
  | [], _ => True
  | op :: ops, s => op.Intended s ∧ Ends (op.run.run s) (fun _ s' => Intended ops s') fun _ => True

instance (op : Op L P) (s : Lists L P) : Decidable (op.Intended s) :=
  match op with
  | .enqueue _ entry => inferInstanceAs (Decidable ((s.page entry).list = none))
  | .dequeue _ | .dequeue_vector _ _ | .tryremove _ _ => isTrue trivial
  | .remove list page => inferInstanceAs (Decidable ((s.page page).list = some list))

/-- A run can be tested call by call. -/
def decidableIntended : (ops : List (Op L P)) → (s : Lists L P) → Decidable (Intended ops s)
  | [], _ => isTrue trivial
  | op :: ops, s =>
      have := decidableIntended ops
      inferInstanceAs (Decidable (op.Intended s ∧
        Ends (op.run.run s) (fun _ s' => Intended ops s') fun _ => True))

instance (ops : List (Op L P)) (s : Lists L P) : Decidable (Intended ops s) :=
  decidableIntended ops s

theorem exec_refines {s : Lists L P} {A : L → List P} {ops : List (Op L P)} (h : Refines s A)
    (hops : Intended ops s) :
    ∃ s', (exec ops).run s = .ok ((seqs ops A).1, s') ∧ Refines s' (seqs ops A).2 := by
  induction ops generalizing s A with
  | nil => exact ⟨s, rfl, h⟩
  | cons op ops ih =>
      obtain ⟨hop, hrest⟩ := hops
      obtain ⟨s', hrun, href⟩ := op.run_refines h hop
      obtain ⟨s'', hrun', href'⟩ := ih href (hrest.of_ok hrun)
      refine ⟨s'', ?_, href'⟩
      rw [exec, run_bind_ok hrun, run_bind_ok hrun']
      rfl

/-- **The lists refine sequences.** From empty lists, calls as they are intended return what the
same calls on sequences return, no assertion fails, and the memory holds the sequences: the chain
from `first` and the reversed chain from `last` are the sequence of the list, `numentries` is its
length, `list` says which list a page is on, and a page on no list has no links. No page is on two
lists, and `page_list_tryremove_page` changes nothing unless the page is on the given list. -/
theorem exec_refines_sequences (ops : List (Op L P)) (h : Intended ops {}) :
    ∃ s, (exec ops).run {} = .ok ((seqs ops fun _ => []).1, s) ∧
      Refines s (seqs ops fun _ => []).2 ∧
      (∀ q q' i, i ∈ (seqs ops fun _ => []).2 q → i ∈ (seqs ops fun _ => []).2 q' → q = q') ∧
      ∀ list i, (∀ q, list = some q → (s.page i).list ≠ some q) →
        (page_list_tryremove_page list i).run s = .ok (-1, s) := by
  obtain ⟨s, hrun, href⟩ := exec_refines refines_start h
  exact ⟨s, hrun, href, fun q q' i hi hi' => href.disjoint hi hi',
    fun list i hlist => run_tryremove_of_not_on hlist⟩

/-- Two lists; a page is taken out of the middle of one and put on the other. -/
theorem exec_refines_sequences_two :
    ∃ s : Lists Bool ℕ,
      (exec [.enqueue false 1, .enqueue false 2, .enqueue false 3, .enqueue true 4,
        .remove false 2, .enqueue true 2, .tryremove (some false) 2, .dequeue false,
        .dequeue_vector true 5]).run {}
        = .ok ([.done, .done, .done, .done, .done, .done, .code (-1), .page (some 1),
          .pages 2 [4, 2]], s) := by
  obtain ⟨s, hrun, -⟩ := exec_refines_sequences (L := Bool) (P := ℕ)
    [.enqueue false 1, .enqueue false 2, .enqueue false 3, .enqueue true 4,
      .remove false 2, .enqueue true 2, .tryremove (some false) 2, .dequeue false,
      .dequeue_vector true 5] (by decide)
  exact ⟨s, hrun⟩

/-! ## The lists of the policy -/

section Policy

variable {α : Type} {s : Lists ListId PageId} {S : State α} {q : ListId} {i : PageId}

/-- The memory holds the lists of the policy, which are written from `last` to `first`. -/
structure Mirrors (s : Lists ListId PageId) (pol : Policy) : Prop where
  linked : pol.WellLinked
  refines : Refines s fun q => (pol.lists q).reverse

theorem Mirrors.list_eq (h : Mirrors s S.pol) (i : PageId) :
    (s.page i).list = (S.pol.page i).list := by
  refine Option.ext fun q => ?_
  exact ((h.refines.holds q).member i).trans (List.mem_reverse.trans (h.linked.mem_iff q i))

theorem Mirrors.enq {s' : Lists ListId PageId} (h : Mirrors s S.pol)
    (hi : (S.pol.page i).list = none)
    (href : Refines s'
      (Function.update (fun q => (S.pol.lists q).reverse) q (i :: (S.pol.lists q).reverse))) :
    Mirrors s' (S.pol.enq q i) := by
  refine ⟨h.linked.enq hi, ?_⟩
  convert href using 1
  funext l
  by_cases hl : l = q
  · subst hl
    rw [Policy.enq_lists_self, Function.update_self, List.reverse_append]
    rfl
  · rw [Policy.enq_lists_ne _ _ hl, Function.update_of_ne hl]

theorem Mirrors.unlink {s' : Lists ListId PageId} (h : Mirrors s S.pol)
    (hi : (S.pol.page i).list = some q)
    (href : Refines s'
      (Function.update (fun q => (S.pol.lists q).reverse) q ((S.pol.lists q).reverse.erase i))) :
    Mirrors s' (S.pol.unlink q i) := by
  refine ⟨h.linked.unlink hi, ?_⟩
  convert href using 1
  funext l
  by_cases hl : l = q
  · subst hl
    have hnodup := h.linked.nodup l
    rw [Policy.unlink_lists_self, Function.update_self, hnodup.erase_eq_filter,
      (List.nodup_reverse.2 hnodup).erase_eq_filter, List.filter_reverse]
  · rw [Policy.unlink_lists_ne _ _ hl, Function.update_of_ne hl]

/-- `enqueue_fifo` of the policy's model is `enqueue_fifo`. -/
theorem Mirrors.enqueue_fifo (h : Mirrors s S.pol) (q : ListId) (hi : (S.pol.page i).list = none) :
    ∃ s' S', (Fifo.enqueue_fifo q i).run s = .ok ((), s') ∧
      (SwapPrefetch.enqueue_fifo q i : SwapPrefetch.Proc α Unit).run S = .ok ((), S') ∧
      Mirrors s' S'.pol := by
  obtain ⟨s', hrun, href⟩ := h.refines.enqueue_fifo q ((h.list_eq i).trans hi)
  exact ⟨s', _, hrun, SwapPrefetch.run_enqueue_fifo hi, h.enq hi href⟩

/-- `dequeue_fifo` of the policy's model is `dequeue_fifo`. -/
theorem Mirrors.dequeue_fifo (h : Mirrors s S.pol) (q : ListId) :
    ∃ ret s' S', (Fifo.dequeue_fifo q).run s = .ok (ret, s') ∧
      (SwapPrefetch.dequeue_fifo q : SwapPrefetch.Proc α (Option PageId)).run S = .ok (ret, S') ∧
      Mirrors s' S'.pol := by
  obtain ⟨s', hrun, href⟩ := h.refines.dequeue_fifo q
  rcases hq : S.pol.lists q with _ | ⟨i, l⟩
  · have hseq : Seqs.dequeue q (fun q => (S.pol.lists q).reverse)
        = (none, fun q => (S.pol.lists q).reverse) := by
      rw [Seqs.dequeue, hq]
      refine Prod.ext rfl (Function.update_eq_self_iff.2 ?_)
      rw [hq]
      rfl
    rw [hseq] at hrun href
    exact ⟨none, s', S, hrun, run_dequeue_fifo_nil hq, h.linked, href⟩
  · have hi : (S.pol.page i).list = some q :=
      (h.linked.mem_iff q i).1 (hq ▸ List.mem_cons_self)
    have hret : (Seqs.dequeue q fun q => (S.pol.lists q).reverse).1 = some i := by
      rw [Seqs.dequeue, hq, List.getLast?_reverse]
      rfl
    have hdrop : (S.pol.lists q).reverse.dropLast = (S.pol.lists q).reverse.erase i := by
      have hnodup := h.linked.nodup q
      rw [hq, List.nodup_cons] at hnodup
      rw [hq, List.reverse_cons, List.dropLast_concat,
        List.erase_append_right _ (fun hmem => hnodup.1 (List.mem_reverse.1 hmem)),
        List.erase_cons_head, List.append_nil]
    rw [hret] at hrun
    refine ⟨some i, s', _, hrun, run_dequeue_fifo_cons hq, h.unlink hi ?_⟩
    rw [← hdrop]
    exact href

/-- `page_list_tryremove_page` of the policy's model is `page_list_tryremove_page`. -/
theorem Mirrors.page_list_tryremove_page (h : Mirrors s S.pol) (list : Option ListId) (i : PageId) :
    ∃ ret s' S', (Fifo.page_list_tryremove_page list i).run s = .ok (ret, s') ∧
      (SwapPrefetch.page_list_tryremove_page list i : SwapPrefetch.Proc α ℤ).run S = .ok (ret, S') ∧
      Mirrors s' S'.pol := by
  obtain ⟨s', hrun, href⟩ := h.refines.page_list_tryremove_page list i
  by_cases hi : ∃ q, list = some q ∧ (S.pol.page i).list = some q
  · obtain ⟨q, rfl, hi⟩ := hi
    have hmem := (h.linked.mem_iff q i).2 hi
    rw [Seqs.tryremove, if_pos (List.mem_reverse.2 hmem)] at hrun href
    exact ⟨0, s', _, hrun, run_tryremove hi hmem, h.unlink hi href⟩
  · have hnot : ∀ q, list = some q → (S.pol.page i).list ≠ some q :=
      fun q hq hlist => hi ⟨q, hq, hlist⟩
    refine ⟨-1, s, S, run_tryremove_of_not_on fun q hq => h.list_eq i ▸ hnot q hq, ?_, h⟩
    rcases list with _ | q
    · rfl
    · rw [SwapPrefetch.page_list_tryremove_page, run_bind_ok (run_get_page S i), if_pos (hnot q rfl)]
      rfl

end Policy

end SwapPrefetch.Fifo
