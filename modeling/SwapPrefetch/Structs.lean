/-
Reading the state after an update, and what the small routines do to it.

Every routine of the library is a sequence of the steps below, so this is the whole
interface the proofs about them use: one equation for each update at each field, and
one equation for each step saying what state it returns. After this file a proof
never unfolds `enqueue_fifo` or `app_turn` again.
-/
import Mathlib.Tactic
import SwapPrefetch.Core

set_option autoImplicit false

namespace SwapPrefetch

open Prog

variable {α : Type}

/-! ## Page structs and lists after an update -/

namespace Policy

variable (P : Policy) (i j : PageId) (f : UserPage → UserPage) (q l : ListId)

@[simp] theorem upd_page_self : (P.upd i f).page i = f (P.page i) := by
  simp only [upd, Function.update_self]

theorem upd_page_ne {i j : PageId} (h : j ≠ i) : (P.upd i f).page j = P.page j := by
  simp only [upd, Function.update_of_ne h]

/-- Assignments to the same struct compose. -/
theorem upd_upd (g : UserPage → UserPage) : (P.upd i f).upd i g = P.upd i fun p => g (f p) := by
  simp only [upd, Function.update_self, Function.update_idem]

@[simp] theorem upd_lists : (P.upd i f).lists = P.lists := by simp only [upd]
@[simp] theorem upd_npages : (P.upd i f).npages = P.npages := by simp only [upd]
@[simp] theorem upd_dramsize : (P.upd i f).dramsize = P.dramsize := by simp only [upd]
@[simp] theorem upd_disksize : (P.upd i f).disksize = P.disksize := by simp only [upd]
@[simp] theorem upd_pages : (P.upd i f).pages = P.pages := by simp only [upd]
@[simp] theorem upd_mem_allocated : (P.upd i f).mem_allocated = P.mem_allocated := by simp only [upd]
@[simp] theorem upd_pages_freed : (P.upd i f).pages_freed = P.pages_freed := by simp only [upd]
@[simp] theorem upd_shrinkage_running : (P.upd i f).shrinkage_running = P.shrinkage_running := by
  simp only [upd]

@[simp] theorem enq_page_self : (P.enq q i).page i = { P.page i with list := some q } := by
  simp only [enq, Function.update_self]

theorem enq_page_ne {i j : PageId} (h : j ≠ i) : (P.enq q i).page j = P.page j := by
  simp only [enq, Function.update_of_ne h]

@[simp] theorem enq_lists_self : (P.enq q i).lists q = P.lists q ++ [i] := by
  simp only [enq, Function.update_self]

theorem enq_lists_ne {q l : ListId} (h : l ≠ q) : (P.enq q i).lists l = P.lists l := by
  simp only [enq, Function.update_of_ne h]

@[simp] theorem enq_npages : (P.enq q i).npages = P.npages := by simp only [enq]
@[simp] theorem enq_dramsize : (P.enq q i).dramsize = P.dramsize := by simp only [enq]
@[simp] theorem enq_disksize : (P.enq q i).disksize = P.disksize := by simp only [enq]
@[simp] theorem enq_pages : (P.enq q i).pages = P.pages := by simp only [enq]
@[simp] theorem enq_mem_allocated : (P.enq q i).mem_allocated = P.mem_allocated := by simp only [enq]
@[simp] theorem enq_pages_freed : (P.enq q i).pages_freed = P.pages_freed := by simp only [enq]
@[simp] theorem enq_shrinkage_running : (P.enq q i).shrinkage_running = P.shrinkage_running := by
  simp only [enq]

@[simp] theorem unlink_page_self : (P.unlink q i).page i = { P.page i with list := none } := by
  simp only [unlink, Function.update_self]

theorem unlink_page_ne {i j : PageId} (h : j ≠ i) : (P.unlink q i).page j = P.page j := by
  simp only [unlink, Function.update_of_ne h]

@[simp] theorem unlink_lists_self : (P.unlink q i).lists q = (P.lists q).erase i := by
  simp only [unlink, Function.update_self]

theorem unlink_lists_ne {q l : ListId} (h : l ≠ q) : (P.unlink q i).lists l = P.lists l := by
  simp only [unlink, Function.update_of_ne h]

@[simp] theorem unlink_npages : (P.unlink q i).npages = P.npages := by simp only [unlink]
@[simp] theorem unlink_dramsize : (P.unlink q i).dramsize = P.dramsize := by simp only [unlink]
@[simp] theorem unlink_disksize : (P.unlink q i).disksize = P.disksize := by simp only [unlink]
@[simp] theorem unlink_pages : (P.unlink q i).pages = P.pages := by simp only [unlink]
@[simp] theorem unlink_mem_allocated : (P.unlink q i).mem_allocated = P.mem_allocated := by
  simp only [unlink]
@[simp] theorem unlink_pages_freed : (P.unlink q i).pages_freed = P.pages_freed := by
  simp only [unlink]
@[simp] theorem unlink_shrinkage_running :
    (P.unlink q i).shrinkage_running = P.shrinkage_running := by simp only [unlink]

@[simp] theorem setIndex_page (va : ℕ) (e : Option PageId) : (P.setIndex va e).page = P.page := by
  simp only [setIndex]

@[simp] theorem setIndex_lists (va : ℕ) (e : Option PageId) : (P.setIndex va e).lists = P.lists := by
  simp only [setIndex]

@[simp] theorem setIndex_npages (va : ℕ) (e : Option PageId) : (P.setIndex va e).npages = P.npages := by
  simp only [setIndex]

@[simp] theorem setIndex_dramsize (va : ℕ) (e : Option PageId) : (P.setIndex va e).dramsize = P.dramsize := by
  simp only [setIndex]

@[simp] theorem setIndex_disksize (va : ℕ) (e : Option PageId) : (P.setIndex va e).disksize = P.disksize := by
  simp only [setIndex]

@[simp] theorem account_page (a b : ℕ) : (P.account a b).page = P.page := by
  simp only [account]

@[simp] theorem account_lists (a b : ℕ) : (P.account a b).lists = P.lists := by
  simp only [account]

@[simp] theorem account_npages (a b : ℕ) : (P.account a b).npages = P.npages := by
  simp only [account]

@[simp] theorem account_dramsize (a b : ℕ) : (P.account a b).dramsize = P.dramsize := by
  simp only [account]

@[simp] theorem account_disksize (a b : ℕ) : (P.account a b).disksize = P.disksize := by
  simp only [account]

@[simp] theorem account_pages (a b : ℕ) : (P.account a b).pages = P.pages := by
  simp only [account]

@[simp] theorem setIndex_pages (va : ℕ) (e : Option PageId) :
    (P.setIndex va e).pages = Function.update P.pages va e := by
  simp only [setIndex]

end Policy

/-! ## What a step returns -/

variable (s : State α) (i : PageId) (q : ListId)

@[simp] theorem run_get_pol : (get_pol : Proc α Policy).run s = .ok (s.pol, s) := rfl

@[simp] theorem run_get_mem : (get_mem : Proc α (Mem α)).run s = .ok (s.mem, s) := rfl

@[simp] theorem run_modify_pol (f : Policy → Policy) :
    (modify_pol f : Proc α Unit).run s = .ok ((), { s with pol := f s.pol }) := rfl

@[simp] theorem run_modify_mem (f : Mem α → Mem α) :
    (modify_mem f).run s = .ok ((), { s with mem := f s.mem }) := rfl

@[simp] theorem run_get_page : (get_page i : Proc α UserPage).run s = .ok (s.pol.page i, s) := rfl

@[simp] theorem run_set_page (f : UserPage → UserPage) :
    (set_page i f : Proc α Unit).run s = .ok ((), { s with pol := s.pol.upd i f }) := rfl

@[simp] theorem run_numentries :
    (numentries q : Proc α ℕ).run s = .ok ((s.pol.lists q).length, s) := rfl

@[simp] theorem run_app_turn :
    (app_turn : Proc α Unit).run s = .ok ((), { s with mem := s.mem.app_turn }) := rfl

@[simp] theorem run_find_page (va : ℕ) :
    (find_page va : Proc α (Option PageId)).run s = .ok (s.pol.pages va, s) := rfl

/-- Linking a struct that is on no list. -/
theorem run_enqueue_fifo {s : State α} {q : ListId} {i : PageId} (h : (s.pol.page i).list = none) :
    (enqueue_fifo q i : Proc α Unit).run s = .ok ((), { s with pol := s.pol.enq q i }) := by
  rw [enqueue_fifo, run_bind_ok (run_get_page s i), run_check_bind h, run_modify_pol]

theorem run_dequeue_fifo_nil {s : State α} {q : ListId} (h : s.pol.lists q = []) :
    (dequeue_fifo q : Proc α (Option PageId)).run s = .ok (none, s) := by
  rw [dequeue_fifo, run_bind_ok (run_get_pol s), h]
  rfl

theorem run_dequeue_fifo_cons {s : State α} {q : ListId} {i : PageId} {l : List PageId}
    (h : s.pol.lists q = i :: l) :
    (dequeue_fifo q : Proc α (Option PageId)).run s
      = .ok (some i, { s with pol := s.pol.unlink q i }) := by
  rw [dequeue_fifo, run_bind_ok (run_get_pol s), h]
  rfl

/-- Removing a struct from the list its `list` field names. -/
theorem run_tryremove {s : State α} {q : ListId} {i : PageId} (hl : (s.pol.page i).list = some q)
    (hq : i ∈ s.pol.lists q) :
    (page_list_tryremove_page (some q) i : Proc α ℤ).run s
      = .ok (0, { s with pol := s.pol.unlink q i }) := by
  have hne : s.pol.lists q ≠ [] := List.ne_nil_of_mem hq
  simp only [page_list_tryremove_page, run_bind, run_get_page, ok_bind, hl, ne_eq,
    not_true_eq_false, if_false, run_get_pol, hne, run_modify_pol, run_pure]

end SwapPrefetch
