/-
Storage errors over whole runs.

The pager is run with every call of the five routines that move pages recorded. The recording
routines are the pager's own, with the calls wrapped in `record` and everything else in `quiet`.
Two facts make the record a faithful one: forgetting it gives the pager back (`Tracks.erases`), and what
is wrapped in `quiet` makes no storage request (`Silent`), so that every outcome a run uses up
belongs to a recorded call.
-/
import Mathlib.Tactic
import SwapPrefetch.Contents
import SwapPrefetch.StorageErrors

set_option autoImplicit false

namespace SwapPrefetch

open Prog

variable {α β γ : Type}

/-! ## Routines that make no storage request -/

/-- The routine uses up no outcome. -/
def Silent (m : Proc α β) : Prop :=
  ∀ s, Ends (m.run s) (fun _ s' => s'.outcomes = s.outcomes) fun _ => True

namespace Silent

theorem pure (b : β) : Silent (Pure.pure b : Proc α β) := fun _ => Ends.ok rfl

theorem throw (e : Fault) : Silent (MonadExcept.throw e : Proc α β) := fun _ => trivial

theorem check (c : Prop) [Decidable c] (e : Fault) : Silent (Prog.check c e : Proc α Unit) :=
  fun _ => ends_check_last rfl

theorem bind {m : Proc α β} {f : β → Proc α γ} (hm : Silent m) (hf : ∀ b, Silent (f b)) :
    Silent (m >>= f) := fun s =>
  Ends.bind (hm s) fun b s₁ h₁ => (hf b s₁).mono (fun _ _ h => h.trans h₁) fun _ he => he

theorem ite {c : Prop} [Decidable c] {m m' : Proc α β} (hm : Silent m) (hm' : Silent m') :
    Silent (if c then m else m') := by
  split
  · exact hm
  · exact hm'

/-- The contents are as they were. -/
theorem of_mem {m : Proc α β} (h : ∀ s, Ends (m.run s) (fun _ s' => s'.mem = s.mem) fun _ => True) :
    Silent m := fun s =>
  (h s).mono (fun _ _ hs => congrArg (fun m => m.env.io_fails) hs) fun _ he => he

theorem get_page (i : PageId) : Silent (SwapPrefetch.get_page i : Proc α UserPage) :=
  fun _ => Ends.ok rfl

theorem get_pol : Silent (SwapPrefetch.get_pol : Proc α Policy) := fun _ => Ends.ok rfl

theorem get_mem : Silent (SwapPrefetch.get_mem : Proc α (Mem α)) := fun _ => Ends.ok rfl

theorem modify_pol (f : Policy → Policy) : Silent (SwapPrefetch.modify_pol f : Proc α Unit) :=
  fun _ => Ends.ok rfl

theorem set_page (i : PageId) (f : UserPage → UserPage) :
    Silent (SwapPrefetch.set_page i f : Proc α Unit) := modify_pol _

theorem numentries (q : ListId) : Silent (SwapPrefetch.numentries q : Proc α ℕ) :=
  fun _ => Ends.ok rfl

theorem find_page (va : ℕ) : Silent (SwapPrefetch.find_page va : Proc α (Option PageId)) :=
  fun _ => Ends.ok rfl

theorem modify_mem {f : Mem α → Mem α} (h : ∀ m, (f m).env.io_fails = m.env.io_fails) :
    Silent (SwapPrefetch.modify_mem f) := fun s => Ends.ok (h s.mem)

theorem app_turn : Silent (SwapPrefetch.app_turn : Proc α Unit) :=
  modify_mem Mem.app_turn_io_fails

theorem enqueue (q : ListId) (i : PageId) : Silent (enqueue_fifo q i : Proc α Unit) :=
  fun _ => ends_enqueue_last rfl

theorem dequeue (q : ListId) : Silent (dequeue_fifo q : Proc α (Option PageId)) :=
  of_mem (ends_dequeue q)

theorem tryremove (list : Option ListId) (i : PageId) :
    Silent (page_list_tryremove_page list i : Proc α ℤ) := of_mem (ends_tryremove list i)

theorem uffdio_copy (va : ℕ) (d : α) : Silent (SwapPrefetch.uffdio_copy va d) := fun s =>
  (ends_uffdio_copy va d s).mono (fun _ _ h => h.2.1) fun _ he => he

theorem pt_get_bits (i : PageId) : Silent (SwapPrefetch.pt_get_bits i : Proc α (Bool × Bool)) := by
  refine app_turn.bind fun _ => (get_page i).bind fun _ => (check _ _).bind fun _ => ?_
  refine get_mem.bind fun m => ?_
  split
  · exact pure _
  · exact pure _

theorem pt_clear_accessed_flag (i : PageId) :
    Silent (SwapPrefetch.pt_clear_accessed_flag i : Proc α Unit) := by
  refine app_turn.bind fun _ => (get_page i).bind fun _ => (check _ _).bind fun _ => ?_
  refine get_mem.bind fun m => ?_
  split
  · exact modify_mem fun _ => rfl
  · exact pure _

theorem extmem_wp_page (i : PageId) (b : Bool) :
    Silent (SwapPrefetch.extmem_wp_page i b : Proc α Unit) := by
  refine app_turn.bind fun _ => (get_page i).bind fun _ => (check _ _).bind fun _ => ?_
  refine (check _ _).bind fun _ => get_mem.bind fun m => ?_
  split
  · exact modify_mem fun _ => rfl
  · exact pure _

end Silent

/-! ### The scans -/

theorem silent_shrink_active_loop (nr_pages left ret : ℕ) :
    Silent (shrink_active_loop nr_pages left ret : Proc α ℕ) := by
  induction left generalizing ret with
  | zero => exact Silent.pure ret
  | succ left ih =>
      refine (Silent.numentries _).bind fun _ => Silent.ite ?_ (Silent.pure _)
      refine (Silent.dequeue _).bind fun page => ?_
      cases page with
      | none => exact Silent.throw _
      | some page =>
          exact (Silent.set_page _ _).bind fun _ => (Silent.enqueue _ _).bind fun _ => ih _

theorem silent_shrink_active_list (nr_pages : ℕ) :
    Silent (shrink_active_list nr_pages : Proc α ℕ) := by
  refine Silent.ite (Silent.pure _) ((Silent.modify_pol _).bind fun _ => ?_)
  refine (Silent.numentries _).bind fun _ => (silent_shrink_active_loop _ _ _).bind fun _ => ?_
  exact (Silent.modify_pol _).bind fun _ => Silent.pure _

theorem silent_shrink_inactive_page (page : PageId) :
    Silent (shrink_inactive_page page : Proc α Bool) := by
  refine (Silent.pt_get_bits _).bind fun bits => Silent.ite ?_ ?_
  · refine (Silent.set_page _ _).bind fun _ => (Silent.pt_clear_accessed_flag _).bind fun _ => ?_
    refine (Silent.get_page _).bind fun _ => Silent.ite ?_ ?_
    · exact (Silent.set_page _ _).bind fun _ => (Silent.enqueue _ _).bind fun _ => Silent.pure _
    · exact (Silent.enqueue _ _).bind fun _ => Silent.pure _
  · exact (Silent.set_page _ _).bind fun _ => (Silent.enqueue _ _).bind fun _ => Silent.pure _

theorem silent_shrink_inactive_loop (nr_pages left ret : ℕ) :
    Silent (shrink_inactive_loop nr_pages left ret : Proc α ℕ) := by
  induction left generalizing ret with
  | zero => exact Silent.pure ret
  | succ left ih =>
      refine (Silent.numentries _).bind fun _ => Silent.ite ?_ (Silent.pure _)
      refine (Silent.dequeue _).bind fun page => ?_
      cases page with
      | none => exact Silent.throw _
      | some page => exact (silent_shrink_inactive_page page).bind fun _ => ih _

theorem silent_shrink_inactive_list (nr_pages : ℕ) :
    Silent (shrink_inactive_list nr_pages : Proc α ℕ) := by
  refine (Silent.numentries _).bind fun _ => (Silent.modify_pol _).bind fun _ => ?_
  refine (silent_shrink_inactive_loop _ _ _).bind fun _ => ?_
  exact (Silent.modify_pol _).bind fun _ => Silent.pure _

theorem silent_direct_allocate_loop (nr_pages to_active to_inactive rounds a b reclaimed : ℕ) :
    Silent (direct_allocate_loop nr_pages to_active to_inactive rounds a b reclaimed :
      Proc α ℕ) := by
  induction rounds generalizing a b reclaimed with
  | zero => exact Silent.pure _
  | succ rounds ih =>
      refine Silent.ite ((silent_shrink_inactive_list _).bind fun _ => Silent.ite ?_ (ih _ _ _))
        (Silent.pure _)
      exact (silent_shrink_active_list _).bind fun _ => ih _ _ _

theorem silent_direct_allocate_page_asynch (nr_pages priority : ℕ) :
    Silent (direct_allocate_page_asynch nr_pages priority : Proc α ℕ) :=
  (Silent.numentries _).bind fun _ => (Silent.numentries _).bind fun _ =>
    silent_direct_allocate_loop _ _ _ _ _ _ _

theorem silent_fetch_free_reclaim (priority : ℕ) :
    Silent (fetch_free_reclaim priority : Proc α ℕ) := by
  refine Silent.get_pol.bind fun _ => Silent.get_pol.bind fun _ => ?_
  refine (Silent.numentries _).bind fun _ => (Silent.numentries _).bind fun _ => ?_
  refine Silent.ite ?_ (Silent.pure _)
  exact (silent_direct_allocate_page_asynch _ _).bind fun _ => Silent.pure _

/-! ### Lists, mappings and batches -/

theorem silent_lrudisk_detach_page (page : PageId) :
    Silent (lrudisk_detach_page page : Proc α Unit) := by
  refine (Silent.get_page _).bind fun _ => (Silent.check _ _).bind fun _ => ?_
  exact (Silent.tryremove _ _).bind fun _ => Silent.check _ _

theorem silent_detach_reserve (page : PageId) (stuck : Fault) :
    Silent (detach_reserve page stuck : Proc α PageId) := Silent.of_mem (ends_detach_reserve _ _)

theorem silent_link_reserve (page freepage : PageId) :
    Silent (link_reserve page freepage : Proc α Unit) := by
  refine (Silent.set_page _ _).bind fun _ => (Silent.set_page _ _).bind fun _ => ?_
  refine (Silent.set_page _ _).bind fun _ => (Silent.enqueue _ _).bind fun _ => ?_
  exact Silent.enqueue _ _

theorem silent_lrudisk_remove_page (page : PageId) :
    Silent (lrudisk_remove_page page : Proc α Unit) := by
  refine (Silent.set_page _ _).bind fun _ => (Silent.get_page _).bind fun _ => ?_
  refine (Silent.tryremove _ _).bind fun _ => (Silent.check _ _).bind fun _ => ?_
  refine (Silent.set_page _ _).bind fun _ => (Silent.get_page _).bind fun _ => ?_
  refine Silent.ite ((Silent.get_page _).bind fun _ => Silent.ite ?_ ?_)
    ((Silent.get_page _).bind fun _ => Silent.ite ?_ ?_)
  · refine (silent_detach_reserve _ _).bind fun _ => (Silent.set_page _ _).bind fun _ => ?_
    refine (Silent.enqueue _ _).bind fun _ => (Silent.set_page _ _).bind fun _ => ?_
    exact (Silent.enqueue _ _).bind fun _ => Silent.set_page _ _
  · exact (Silent.enqueue _ _).bind fun _ => Silent.set_page _ _
  · refine (Silent.set_page _ _).bind fun _ => (Silent.enqueue _ _).bind fun _ => ?_
    exact Silent.set_page _ _
  · exact (Silent.throw _).bind fun _ => Silent.set_page _ _

theorem silent_munmap_page (page_boundry : ℕ) : Silent (munmap_page page_boundry : Proc α Unit) := by
  refine (Silent.find_page _).bind fun page => ?_
  cases page with
  | none => exact Silent.pure _
  | some page =>
      refine (Silent.get_page _).bind fun _ => (Silent.check _ _).bind fun _ => ?_
      refine (Silent.set_page _ _).bind fun _ => ?_
      refine ((Silent.get_page _).bind fun _ => Silent.modify_pol _ : Silent (remove_page page)).bind
        fun _ => ?_
      exact (silent_lrudisk_remove_page page).bind fun _ => Silent.modify_pol _

theorem silent_munmap_loop (left page_boundry : ℕ) :
    Silent (munmap_loop left page_boundry : Proc α Unit) := by
  induction left generalizing page_boundry with
  | zero => exact Silent.pure _
  | succ left ih => exact (silent_munmap_page _).bind fun _ => ih _

theorem silent_extmem_munmap (addr length : ℕ) :
    Silent (extmem_munmap addr length : Proc α Unit) := by
  refine (Silent.check _ _).bind fun _ => (silent_munmap_loop _ _).bind fun _ => ?_
  exact Silent.app_turn.bind fun _ => (Silent.check _ _).bind fun _ => Silent.modify_mem fun _ => rfl

theorem silent_vector_prepare (victims : List PageId) :
    Silent (vector_prepare victims : Proc α (List Victim)) := by
  induction victims with
  | nil => exact Silent.pure _
  | cons victim rest ih =>
      refine (Silent.set_page _ _).bind fun _ => (Silent.get_page _).bind fun _ => ?_
      refine (Silent.extmem_wp_page _ _).bind fun _ => (Silent.pt_get_bits _).bind fun bits => ?_
      exact (Silent.get_page _).bind fun _ => ih.bind fun _ => Silent.pure _

theorem silent_vector_diskpages (vs : List Victim) :
    Silent (vector_diskpages vs : Proc α (List Victim)) := by
  induction vs with
  | nil => exact Silent.pure _
  | cons v rest ih =>
      refine (Silent.get_page _).bind fun _ => Silent.ite ?_ ?_
      · exact (silent_detach_reserve _ _).bind fun _ => ih.bind fun _ => Silent.pure _
      · refine (Silent.dequeue _).bind fun diskpage => ?_
        cases diskpage with
        | none => exact (Silent.throw _).bind fun _ => ih.bind fun _ => Silent.pure _
        | some diskpage =>
            refine (Silent.get_page _).bind fun _ => (Silent.check _ _).bind fun _ => ?_
            exact ih.bind fun _ => Silent.pure _

theorem silent_vector_track (vs : List Victim) : Silent (vector_track vs : Proc α Unit) := by
  induction vs with
  | nil => exact Silent.pure _
  | cons v rest ih =>
      have hend : Silent (do
          check ((← get_page v.page).migrating) .migrating
          check ((← get_page v.page).swapped_out) .swapped_out
          set_page v.page fun p => { p with migrating := false, swapped_out := true }
          vector_track rest : Proc α Unit) := by
        refine (Silent.get_page _).bind fun _ => (Silent.check _ _).bind fun _ => ?_
        refine (Silent.get_page _).bind fun _ => (Silent.check _ _).bind fun _ => ?_
        exact (Silent.set_page _ _).bind fun _ => ih
      refine (Silent.get_page _).bind fun _ => Silent.ite ?_ ?_
      · refine (Silent.set_page _ _).bind fun _ => (Silent.set_page _ _).bind fun _ => ?_
        exact (Silent.enqueue _ _).bind fun _ => (Silent.enqueue _ _).bind fun _ => hend
      · refine (Silent.get_page _).bind fun _ => (Silent.check _ _).bind fun _ => ?_
        refine (Silent.enqueue _ _).bind fun _ => (Silent.set_page _ _).bind fun _ => ?_
        exact (Silent.enqueue _ _).bind fun _ => hend

theorem silent_dequeue_fifo_vector (queue : ListId) (n : ℕ) :
    Silent (dequeue_fifo_vector queue n : Proc α (List PageId)) := by
  induction n with
  | zero => exact Silent.pure _
  | succ n ih =>
      refine (Silent.dequeue _).bind fun page => ?_
      cases page with
      | none => exact Silent.pure _
      | some page => exact ih.bind fun _ => Silent.pure _

/-- The end of `handle_first_fault`, with the frame at hand. -/
def map_first_page (newpage : PageId) (page_boundry : ℕ) : Proc α Unit := do
  match ← find_page page_boundry with
  | some page => do
      lrudisk_put_page_free newpage
      check (¬ (← get_page page).migrating) .hang
  | none => do
      set_page newpage fun p => { p with migrating := true, swapped_out := false }
      check ((← get_page newpage).va = 0) .va_zero
      set_page newpage fun p => { p with va := page_boundry }
      check ((← get_page newpage).va % PAGE_SIZE = 0) .bad_va
      add_page newpage
      check ((← get_page newpage).in_dram) .first_fault_in_dram
      let ret ← uffdio_copy (← get_page newpage).va (← get_mem).page_cache
      check (ret ≠ -1) .uffdio_copy
      set_page newpage fun p => { p with migrating := false, swapped_out := false }
      lrudisk_track_page newpage
      modify_pol fun s => s.account PAGE_SIZE 0

theorem handle_first_fault_eq (fuel page_boundry : ℕ) :
    (handle_first_fault fuel page_boundry : Proc α Unit) = (do
      check (page_boundry ≠ 0) .bad_va
      let newpage ← lrudisk_pagefault fuel
      map_first_page newpage page_boundry) := rfl

theorem silent_map_first_page (newpage : PageId) (page_boundry : ℕ) :
    Silent (map_first_page newpage page_boundry : Proc α Unit) := by
  refine (Silent.find_page _).bind fun page => ?_
  cases page with
  | some page =>
      refine ((Silent.get_page _).bind fun _ => (Silent.check _ _).bind fun _ =>
        (Silent.get_page _).bind fun _ => (Silent.check _ _).bind fun _ => Silent.enqueue _ _ :
        Silent (lrudisk_put_page_free newpage)).bind fun _ => ?_
      exact (Silent.get_page _).bind fun _ => Silent.check _ _
  | none =>
      refine (Silent.set_page _ _).bind fun _ => (Silent.get_page _).bind fun _ => ?_
      refine (Silent.check _ _).bind fun _ => (Silent.set_page _ _).bind fun _ => ?_
      refine (Silent.get_page _).bind fun _ => (Silent.check _ _).bind fun _ => ?_
      refine ((Silent.get_page _).bind fun _ => Silent.get_pol.bind fun _ =>
        (Silent.check _ _).bind fun _ => Silent.modify_pol _ : Silent (add_page newpage)).bind
        fun _ => ?_
      refine (Silent.get_page _).bind fun _ => (Silent.check _ _).bind fun _ => ?_
      refine (Silent.get_page _).bind fun _ => Silent.get_mem.bind fun _ => ?_
      refine (Silent.uffdio_copy _ _).bind fun _ => (Silent.check _ _).bind fun _ => ?_
      refine (Silent.set_page _ _).bind fun _ => ?_
      refine ((Silent.get_page _).bind fun _ => (Silent.check _ _).bind fun _ => Silent.enqueue _ _ :
        Silent (lrudisk_track_page newpage)).bind fun _ => ?_
      exact Silent.modify_pol _

theorem silent_core_migrate_up_async_start (page : PageId) :
    Silent (core_migrate_up_async_start page : Proc α Unit) := by
  refine (Silent.get_page _).bind fun _ => (Silent.check _ _).bind fun _ => ?_
  refine (Silent.get_page _).bind fun _ => Silent.get_pol.bind fun _ => ?_
  exact (Silent.check _ _).bind fun _ => Silent.get_pol.bind fun _ => Silent.check _ _

/-- The asynchronous swap-in maps the buffer and reads nothing. -/
theorem silent_core_migrate_up_async_finish (page : PageId) (dram_offset : ℕ) :
    Silent (core_migrate_up_async_finish page dram_offset : Proc α Unit) := by
  refine (Silent.get_page _).bind fun _ => (Silent.check _ _).bind fun _ => ?_
  refine (Silent.get_page _).bind fun _ => Silent.get_pol.bind fun _ => ?_
  refine (Silent.check _ _).bind fun _ => Silent.get_pol.bind fun _ => ?_
  refine (Silent.check _ _).bind fun _ => Silent.get_pol.bind fun _ => ?_
  refine (Silent.check _ _).bind fun _ => Silent.get_pol.bind fun _ => ?_
  refine (Silent.check _ _).bind fun _ => (Silent.get_page _).bind fun _ => ?_
  refine Silent.get_mem.bind fun _ => (Silent.uffdio_copy _ _).bind fun _ => ?_
  refine (Silent.check _ _).bind fun _ => (Silent.get_page _).bind fun _ => ?_
  exact (Silent.check _ _).bind fun _ => Silent.set_page _ _

theorem silent_handle_wp_fault (page : PageId) :
    Silent (handle_wp_fault page : Proc α Unit) :=
  (Silent.get_page _).bind fun _ => Silent.check _ _

theorem silent_lrudisk_init_loop (in_dram : Bool) (queue : ListId) (left i : ℕ) :
    Silent (lrudisk_init_loop in_dram queue left i : Proc α Unit) := by
  induction left generalizing i with
  | zero => exact Silent.pure _
  | succ left ih =>
      refine (Silent.get_pol.bind fun _ => (Silent.modify_pol _).bind fun _ => Silent.pure _ :
        Silent (alloc_page _)).bind fun _ => ?_
      exact (Silent.enqueue _ _).bind fun _ => (Silent.check _ _).bind fun _ => ih _

theorem silent_lrudisk_init : Silent (lrudisk_init : Proc α Unit) :=
  Silent.get_pol.bind fun _ => (silent_lrudisk_init_loop _ _ _ _).bind fun _ =>
    Silent.get_pol.bind fun _ => silent_lrudisk_init_loop _ _ _ _

namespace Recorded

/-! ## The pager with a record of its calls -/

/-- The pager, and the calls that were made. -/
structure Record (α : Type) where
  pager : State α
  calls : List (Call α) := []

abbrev RProc (α β : Type) : Type := Prog Fault (Record α) β

/-- A routine that is not recorded. -/
def quiet (m : Proc α β) : RProc α β := fun t =>
  (m.run t.pager).map fun x => (x.1, { t with pager := x.2 })

/-- A routine that is. -/
def record (transfer : Transfer) (m : Proc α β) : RProc α β := fun t =>
  (m.run t.pager).map fun x => (x.1, ⟨x.2, t.calls ++ [⟨transfer, t.pager, x.2⟩]⟩)

/-- The loop of `fetch_free_asynch`. -/
def fetch_free_loop : ℕ → ℕ → RProc α PageId
  | 0, _ => throw .hang
  | fuel + 1, priority => do
      if priority = 0 then
        throw .out_of_memory
      else
        match ← quiet (dequeue_fifo .dram_free_list) with
        | some page => pure page
        | none => do
            let priority ← quiet (fetch_free_reclaim priority)
            match ← quiet (dequeue_fifo .eviction_list) with
            | some page => record (.evict_inline page) (fetch_free_evict page)
            | none => fetch_free_loop fuel priority

def fetch_free_asynch (fuel : ℕ) : RProc α PageId :=
  fetch_free_loop fuel 12

def lrudisk_pagefault (fuel : ℕ) : RProc α PageId := do
  let page ← fetch_free_asynch fuel
  quiet (set_page page fun p => { p with migrating := true })
  pure page

def lrudisk_swapin_external (fuel : ℕ) (page : PageId) : RProc α Unit := do
  let file_offset := (← quiet (get_page page)).virtual_offset
  let freepage ← fetch_free_asynch fuel
  check ((← quiet (get_page freepage)).in_dram) .freepage_in_dram
  quiet (lrudisk_detach_page page)
  let offset := (← quiet (get_page freepage)).virtual_offset
  record (.swapin page offset) (extmem_migrate_updisk page offset)
  quiet (set_page freepage fun p =>
    { p with
      virtual_offset := file_offset, in_dram := false, swapped_out := true
      migrating := false })
  quiet (link_reserve page freepage)

def lrudisk_swapin_external_async (fuel : ℕ) (page : PageId) : RProc α Unit := do
  let file_offset := (← quiet (get_page page)).virtual_offset
  quiet (lrudisk_detach_page page)
  if (← quiet (get_page page)).in_dram then
    quiet (set_page page fun p => { p with in_dram := false })
  quiet (core_migrate_up_async_start page)
  let freepage ← fetch_free_asynch fuel
  check ((← quiet (get_page freepage)).in_dram) .freepage_in_dram
  let offset := (← quiet (get_page freepage)).virtual_offset
  quiet (core_migrate_up_async_finish page offset)
  quiet (set_page freepage fun p =>
    { p with
      virtual_offset := file_offset, in_dram := false, swapped_out := true
      migrating := false })
  quiet (link_reserve page freepage)

def page_swapin (fuel : ℕ) (async : Bool) : PageId → RProc α Unit :=
  if async then lrudisk_swapin_external_async fuel else lrudisk_swapin_external fuel

def handle_first_fault (fuel : ℕ) (page_boundry : ℕ) : RProc α Unit := do
  check (page_boundry ≠ 0) .bad_va
  let newpage ← lrudisk_pagefault fuel
  quiet (map_first_page newpage page_boundry)

def major_fault (swapin : PageId → RProc α Unit) (page : PageId) : RProc α Unit := do
  let old_va := (← quiet (get_page page)).va
  check (¬ (← quiet (get_page page)).migrating) .hang
  if (← quiet (get_page page)).swapped_out then
    quiet (set_page page fun p => { p with migrating := true })
    swapin page
    check ((← quiet (get_page page)).va = old_va) .va_changed
    check ((← quiet (get_page page)).va ≠ 0) .bad_va
    check ((← quiet (get_page page)).va % PAGE_SIZE = 0) .bad_va
    quiet (set_page page fun p => { p with swapped_out := false, migrating := false })

def uswap_sig_handler (fuel : ℕ) (swapin : PageId → RProc α Unit) (fault_addr : ℕ) :
    RProc α Unit := do
  let page_boundry := fault_addr - fault_addr % PAGE_SIZE
  match ← quiet (find_page page_boundry) with
  | none => handle_first_fault fuel page_boundry
  | some page =>
      if (← quiet (get_page page)).swapped_out then
        major_fault swapin page
      else
        quiet (handle_wp_fault page)

def prefetch_select (fuel : ℕ) : ℕ → ℕ → RProc α (List (PageId × PageId))
  | 0, _ => pure []
  | left + 1, page_boundry => do
      let page_boundry := (page_boundry + PAGE_SIZE) % 2 ^ 64
      match ← quiet (find_page page_boundry) with
      | none => pure []
      | some page => do
          check ((← quiet (get_page page)).va = page_boundry) .va_changed
          if (← quiet (get_page page)).migrating ∨
              (← quiet (get_page page)).swapped_out = false then
            pure []
          else do
            quiet (set_page page fun p => { p with migrating := true })
            check ((← quiet (get_page page)).va ≠ 0) .bad_va
            quiet (lrudisk_detach_page page)
            let freepage ← lrudisk_pagefault fuel
            let rest ← prefetch_select fuel left page_boundry
            pure ((page, freepage) :: rest)

def core_try_prefetch (fuel : ℕ) (base_boundry : ℕ) : RProc α ℕ := do
  check (base_boundry ≠ 0) .bad_va
  let jobs ← prefetch_select fuel CORE_PREFETCH_RATE base_boundry
  record (.prefetch jobs) (prefetch_pages jobs)

def lrudisk_evictionworker : RProc α Unit := do
  match ← quiet (dequeue_fifo .eviction_list) with
  | none => pure ()
  | some victim => record (.evict victim) (evict_victim victim)

def lrudisk_evictionworker_vector : RProc α Unit := do
  let victims ← quiet (dequeue_fifo_vector .eviction_list EVICT_VECTOR_SIZE)
  let vs ← quiet (vector_prepare victims)
  let vs ← quiet (vector_diskpages vs)
  record (.evict_batch vs) (extmem_migrate_downdisk_vector vs)
  quiet (vector_track vs)

/-- An operation of the pager, or an iteration of the worker that evicts in batches. -/
inductive Act (α : Type) where
  | pager_op (op : Op α)
  | evict_vector

/-- What the pager does. -/
def Act.pager (fuel : ℕ) : Act α → Proc α Unit
  | .pager_op op => op.exec fuel
  | .evict_vector => SwapPrefetch.lrudisk_evictionworker_vector

/-- The same with the record. -/
def Act.exec (fuel : ℕ) : Act α → RProc α Unit
  | .pager_op (.fault addr async buffer) =>
      if addr < PAGE_SIZE then pure ()
      else do
        quiet (modify_mem fun m => { m with buffer_space := buffer })
        uswap_sig_handler fuel (page_swapin fuel async) addr
  | .pager_op (.populate addr) =>
      if addr < PAGE_SIZE then pure ()
      else handle_first_fault fuel (addr - addr % PAGE_SIZE)
  | .pager_op (.try_prefetch base_boundry) =>
      if base_boundry = 0 then pure ()
      else do
        let _ ← core_try_prefetch fuel base_boundry
        pure ()
  | .pager_op .evict => lrudisk_evictionworker
  | .pager_op (.kswapd nr_pages priority) => quiet ((Op.kswapd nr_pages priority).exec fuel)
  | .pager_op (.shrink_active nr_pages) => quiet ((Op.shrink_active nr_pages).exec fuel)
  | .pager_op (.shrink_inactive nr_pages) => quiet ((Op.shrink_inactive nr_pages).exec fuel)
  | .pager_op (.munmap addr length) => quiet ((Op.munmap addr length).exec fuel)
  | .pager_op (.app accesses) => quiet ((Op.app accesses).exec fuel)
  | .evict_vector => lrudisk_evictionworker_vector

/-- A run from `lrudisk_init`. -/
def run (acts : List (ℕ × Act α)) : RProc α Unit := do
  quiet lrudisk_init
  Prog.runs (acts.map fun x => x.2.exec x.1)

/-! ## The record is faithful -/

/-- Every call in the record was made, and the failures among the outcomes of `l` that were used up
are the failures of the calls. -/
structure Accounts (l : List Bool) (t : Record α) : Prop where
  ran : ∀ c ∈ t.calls, c.Ran
  used : ∃ k, t.pager.outcomes = l.drop k ∧
    ((∀ b ∈ l.take k, b = false) ↔ ∀ c ∈ t.calls, c.failed = [])

/-- The recording routine does what the pager's does, and keeps its record. -/
structure Tracks (m : RProc α β) (m' : Proc α β) : Prop where
  erases : ∀ t, (m.run t).map (fun x => (x.1, x.2.pager)) = m'.run t.pager
  keeps : ∀ l t, Accounts l t → Ends (m.run t) (fun _ t' => Accounts l t') fun _ => True

namespace Tracks

theorem pure (b : β) : Tracks (Pure.pure b : RProc α β) (Pure.pure b) :=
  ⟨fun _ => rfl, fun _ _ h => h⟩

theorem throw (e : Fault) : Tracks (MonadExcept.throw e : RProc α β) (MonadExcept.throw e) :=
  ⟨fun _ => rfl, fun _ _ _ => trivial⟩

theorem check (c : Prop) [Decidable c] (e : Fault) :
    Tracks (Prog.check c e : RProc α Unit) (Prog.check c e) := by
  by_cases hc : c
  · rw [Prog.check, Prog.check, if_pos hc, if_pos hc]
    exact pure ()
  · rw [Prog.check, Prog.check, if_neg hc, if_neg hc]
    exact throw e

theorem bind {m : RProc α β} {m' : Proc α β} {f : β → RProc α γ} {f' : β → Proc α γ}
    (hm : Tracks m m') (hf : ∀ b, Tracks (f b) (f' b)) : Tracks (m >>= f) (m' >>= f') := by
  refine ⟨fun t => ?_, fun l t ht => ?_⟩
  · have he := hm.erases t
    rcases hr : m.run t with e | ⟨b, t₁⟩
    · rw [hr] at he
      rw [run_bind_error hr, run_bind_error he.symm]
      rfl
    · rw [hr] at he
      rw [run_bind_ok hr, run_bind_ok he.symm]
      exact (hf b).erases t₁
  · exact Ends.bind (hm.keeps l t ht) fun b t₁ h₁ => (hf b).keeps l t₁ h₁

theorem ite {c : Prop} [Decidable c] {m n : RProc α β} {m' n' : Proc α β} (hm : Tracks m m')
    (hn : Tracks n n') : Tracks (if c then m else n) (if c then m' else n') := by
  split
  · exact hm
  · exact hn

/-- A routine that makes no request. -/
theorem quiet {m : Proc α β} (hm : Silent m) : Tracks (Recorded.quiet m) m := by
  refine ⟨fun t => ?_, fun l t ht => ?_⟩
  · show ((m.run t.pager).map _).map _ = _
    rcases m.run t.pager with e | ⟨b, s⟩ <;> rfl
  · show Ends ((m.run t.pager).map _) _ _
    have hs := hm t.pager
    rcases hr : m.run t.pager with e | ⟨b, s⟩
    · trivial
    · obtain ⟨k, hk, hfails⟩ := ht.used
      exact ⟨ht.ran, k, (hs.of_ok hr).trans hk, hfails⟩

/-- A call. -/
theorem record {m : Proc α β} {transfer : Transfer}
    (hm : ∀ s b s', m.run s = .ok (b, s') → (⟨transfer, s, s'⟩ : Call α).Ran) :
    Tracks (Recorded.record transfer m) m := by
  refine ⟨fun t => ?_, fun l t ht => ?_⟩
  · show ((m.run t.pager).map _).map _ = _
    rcases m.run t.pager with e | ⟨b, s⟩ <;> rfl
  · show Ends ((m.run t.pager).map _) _ _
    rcases hr : m.run t.pager with e | ⟨b, s⟩
    · trivial
    · obtain ⟨k, hk, hfails⟩ := ht.used
      have hran := hm _ _ _ hr
      have hused := Call.used hran
      refine ⟨fun c hc => ?_, k + (transfer.requests t.pager).length, ?_, ?_⟩
      · rcases List.mem_append.1 hc with hc | hc
        · exact ht.ran c hc
        · rw [List.mem_singleton.1 hc]
          exact hran
      · rw [← List.drop_drop, ← hk]
        exact hused
      · have hnew := (⟨transfer, t.pager, s⟩ : Call α).failed_eq_nil_iff
        rw [List.take_add, ← hk]
        simp only [List.forall_mem_append, List.forall_mem_singleton, hfails, hnew]

end Tracks

/-! ### One routine at a time -/

theorem tracks_fetch_free_loop (fuel priority : ℕ) :
    Tracks (fetch_free_loop fuel priority : RProc α PageId)
      (SwapPrefetch.fetch_free_loop fuel priority) := by
  induction fuel generalizing priority with
  | zero => exact Tracks.throw _
  | succ fuel ih =>
      unfold fetch_free_loop SwapPrefetch.fetch_free_loop
      refine Tracks.ite (Tracks.throw _) ?_
      refine (Tracks.quiet (Silent.dequeue _)).bind fun frame => ?_
      cases frame with
      | some page => exact Tracks.pure _
      | none =>
          refine (Tracks.quiet (silent_fetch_free_reclaim _)).bind fun priority => ?_
          refine (Tracks.quiet (Silent.dequeue _)).bind fun victim => ?_
          cases victim with
          | some page => exact Tracks.record fun _ f _ h => ⟨f, h⟩
          | none => exact ih priority

theorem tracks_fetch_free_asynch (fuel : ℕ) :
    Tracks (fetch_free_asynch fuel : RProc α PageId) (SwapPrefetch.fetch_free_asynch fuel) :=
  tracks_fetch_free_loop fuel 12

theorem tracks_lrudisk_pagefault (fuel : ℕ) :
    Tracks (lrudisk_pagefault fuel : RProc α PageId) (SwapPrefetch.lrudisk_pagefault fuel) :=
  (tracks_fetch_free_asynch fuel).bind fun _ =>
    (Tracks.quiet (Silent.set_page _ _)).bind fun _ => Tracks.pure _

theorem tracks_extmem_migrate_updisk (page : PageId) (dram_offset : ℕ) :
    Tracks (record (.swapin page dram_offset) (extmem_migrate_updisk page dram_offset))
      (extmem_migrate_updisk page dram_offset : Proc α Unit) :=
  Tracks.record fun _ _ _ h => h

theorem tracks_extmem_migrate_downdisk_vector (vs : List Victim) :
    Tracks (record (.evict_batch vs) (extmem_migrate_downdisk_vector vs))
      (extmem_migrate_downdisk_vector vs : Proc α Unit) :=
  Tracks.record fun _ _ _ h => h

theorem tracks_lrudisk_swapin_external (fuel : ℕ) (page : PageId) :
    Tracks (lrudisk_swapin_external fuel page : RProc α Unit)
      (SwapPrefetch.lrudisk_swapin_external fuel page) := by
  refine (Tracks.quiet (Silent.get_page _)).bind fun _ => ?_
  refine (tracks_fetch_free_asynch fuel).bind fun freepage => ?_
  refine (Tracks.quiet (Silent.get_page _)).bind fun _ => (Tracks.check _ _).bind fun _ => ?_
  refine (Tracks.quiet (silent_lrudisk_detach_page _)).bind fun _ => ?_
  refine (Tracks.quiet (Silent.get_page _)).bind fun _ => ?_
  refine (tracks_extmem_migrate_updisk page _).bind fun _ => ?_
  refine (Tracks.quiet (Silent.set_page _ _)).bind fun _ => ?_
  exact Tracks.quiet (silent_link_reserve _ _)

theorem tracks_lrudisk_swapin_external_async (fuel : ℕ) (page : PageId) :
    Tracks (lrudisk_swapin_external_async fuel page : RProc α Unit)
      (SwapPrefetch.lrudisk_swapin_external_async fuel page) := by
  refine (Tracks.quiet (Silent.get_page _)).bind fun p => ?_
  refine (Tracks.quiet (silent_lrudisk_detach_page _)).bind fun _ => ?_
  refine (Tracks.quiet (Silent.get_page _)).bind fun q => ?_
  -- the rest of the routine stands behind both branches of the test
  have hrest : Tracks (do
        quiet (core_migrate_up_async_start page)
        let freepage ← fetch_free_asynch fuel
        check ((← quiet (get_page freepage)).in_dram) .freepage_in_dram
        let offset := (← quiet (get_page freepage)).virtual_offset
        quiet (core_migrate_up_async_finish page offset)
        quiet (set_page freepage fun r =>
          { r with
            virtual_offset := p.virtual_offset, in_dram := false, swapped_out := true
            migrating := false })
        quiet (link_reserve page freepage) : RProc α Unit) (do
        core_migrate_up_async_start page
        let freepage ← SwapPrefetch.fetch_free_asynch fuel
        check ((← get_page freepage).in_dram) .freepage_in_dram
        let offset := (← get_page freepage).virtual_offset
        core_migrate_up_async_finish page offset
        set_page freepage fun r =>
          { r with
            virtual_offset := p.virtual_offset, in_dram := false, swapped_out := true
            migrating := false }
        link_reserve page freepage) := by
    refine (Tracks.quiet (silent_core_migrate_up_async_start _)).bind fun _ => ?_
    refine (tracks_fetch_free_asynch fuel).bind fun freepage => ?_
    refine (Tracks.quiet (Silent.get_page _)).bind fun _ => (Tracks.check _ _).bind fun _ => ?_
    refine (Tracks.quiet (Silent.get_page _)).bind fun _ => ?_
    refine (Tracks.quiet (silent_core_migrate_up_async_finish _ _)).bind fun _ => ?_
    refine (Tracks.quiet (Silent.set_page _ _)).bind fun _ => ?_
    exact Tracks.quiet (silent_link_reserve _ _)
  exact Tracks.ite ((Tracks.quiet (Silent.set_page _ _)).bind fun _ => hrest) hrest

theorem tracks_page_swapin (fuel : ℕ) (async : Bool) (page : PageId) :
    Tracks (page_swapin fuel async page : RProc α Unit)
      (SwapPrefetch.page_swapin fuel async page) := by
  cases async with
  | false => exact tracks_lrudisk_swapin_external fuel page
  | true => exact tracks_lrudisk_swapin_external_async fuel page

theorem tracks_handle_first_fault (fuel page_boundry : ℕ) :
    Tracks (handle_first_fault fuel page_boundry : RProc α Unit)
      (SwapPrefetch.handle_first_fault fuel page_boundry) := by
  rw [handle_first_fault_eq]
  refine (Tracks.check _ _).bind fun _ => (tracks_lrudisk_pagefault fuel).bind fun _ => ?_
  exact Tracks.quiet (silent_map_first_page _ _)

theorem tracks_major_fault {swapin : PageId → RProc α Unit} {swapin' : PageId → Proc α Unit}
    (h : ∀ page, Tracks (swapin page) (swapin' page)) (page : PageId) :
    Tracks (major_fault swapin page) (SwapPrefetch.major_fault swapin' page) := by
  refine (Tracks.quiet (Silent.get_page _)).bind fun _ => ?_
  refine (Tracks.quiet (Silent.get_page _)).bind fun _ => (Tracks.check _ _).bind fun _ => ?_
  refine (Tracks.quiet (Silent.get_page _)).bind fun _ => Tracks.ite ?_ (Tracks.pure _)
  refine (Tracks.quiet (Silent.set_page _ _)).bind fun _ => (h page).bind fun _ => ?_
  refine (Tracks.quiet (Silent.get_page _)).bind fun _ => (Tracks.check _ _).bind fun _ => ?_
  refine (Tracks.quiet (Silent.get_page _)).bind fun _ => (Tracks.check _ _).bind fun _ => ?_
  refine (Tracks.quiet (Silent.get_page _)).bind fun _ => (Tracks.check _ _).bind fun _ => ?_
  exact Tracks.quiet (Silent.set_page _ _)

theorem tracks_uswap_sig_handler (fuel : ℕ) {swapin : PageId → RProc α Unit}
    {swapin' : PageId → Proc α Unit} (h : ∀ page, Tracks (swapin page) (swapin' page))
    (fault_addr : ℕ) :
    Tracks (uswap_sig_handler fuel swapin fault_addr)
      (SwapPrefetch.uswap_sig_handler fuel swapin' fault_addr) := by
  refine (Tracks.quiet (Silent.find_page _)).bind fun page => ?_
  cases page with
  | none => exact tracks_handle_first_fault fuel _
  | some page =>
      refine (Tracks.quiet (Silent.get_page _)).bind fun _ => ?_
      exact Tracks.ite (tracks_major_fault h page) (Tracks.quiet (silent_handle_wp_fault page))

theorem tracks_prefetch_select (fuel left page_boundry : ℕ) :
    Tracks (prefetch_select fuel left page_boundry : RProc α (List (PageId × PageId)))
      (SwapPrefetch.prefetch_select fuel left page_boundry) := by
  induction left generalizing page_boundry with
  | zero => exact Tracks.pure _
  | succ left ih =>
      refine (Tracks.quiet (Silent.find_page _)).bind fun page => ?_
      cases page with
      | none => exact Tracks.pure _
      | some page =>
          refine (Tracks.quiet (Silent.get_page _)).bind fun _ => (Tracks.check _ _).bind fun _ => ?_
          refine (Tracks.quiet (Silent.get_page _)).bind fun _ => ?_
          refine (Tracks.quiet (Silent.get_page _)).bind fun _ => Tracks.ite (Tracks.pure _) ?_
          refine (Tracks.quiet (Silent.set_page _ _)).bind fun _ => ?_
          refine (Tracks.quiet (Silent.get_page _)).bind fun _ => (Tracks.check _ _).bind fun _ => ?_
          refine (Tracks.quiet (silent_lrudisk_detach_page _)).bind fun _ => ?_
          refine (tracks_lrudisk_pagefault fuel).bind fun _ => ?_
          exact (ih _).bind fun _ => Tracks.pure _

theorem tracks_core_try_prefetch (fuel base_boundry : ℕ) :
    Tracks (core_try_prefetch fuel base_boundry : RProc α ℕ)
      (SwapPrefetch.core_try_prefetch fuel base_boundry) := by
  refine (Tracks.check _ _).bind fun _ => (tracks_prefetch_select fuel _ _).bind fun jobs => ?_
  exact Tracks.record fun _ n _ h => ⟨n, h⟩

theorem tracks_lrudisk_evictionworker :
    Tracks (lrudisk_evictionworker : RProc α Unit) SwapPrefetch.lrudisk_evictionworker := by
  refine (Tracks.quiet (Silent.dequeue _)).bind fun victim => ?_
  cases victim with
  | none => exact Tracks.pure _
  | some victim => exact Tracks.record fun _ _ _ h => h

theorem tracks_lrudisk_evictionworker_vector :
    Tracks (lrudisk_evictionworker_vector : RProc α Unit)
      SwapPrefetch.lrudisk_evictionworker_vector := by
  refine (Tracks.quiet (silent_dequeue_fifo_vector _ _)).bind fun _ => ?_
  refine (Tracks.quiet (silent_vector_prepare _)).bind fun _ => ?_
  refine (Tracks.quiet (silent_vector_diskpages _)).bind fun vs => ?_
  refine (tracks_extmem_migrate_downdisk_vector vs).bind fun _ => ?_
  exact Tracks.quiet (silent_vector_track _)

/-- An access of the application uses up no outcome. -/
theorem io_fails_accesses (accesses : List (Access α)) (m : Mem α) :
    (accesses.foldl Mem.access m).env.io_fails = m.env.io_fails :=
  (Mem.accesses_appStep accesses m).rest.io_fails

theorem tracks_exec (fuel : ℕ) (act : Act α) : Tracks (act.exec fuel) (act.pager fuel) := by
  cases act with
  | evict_vector => exact tracks_lrudisk_evictionworker_vector
  | pager_op op =>
      cases op with
      | fault addr async buffer =>
          refine Tracks.ite (Tracks.pure _) ?_
          have hbuffer : Silent (modify_mem fun m : Mem α => { m with buffer_space := buffer }) :=
            Silent.modify_mem fun _ => rfl
          refine (Tracks.quiet hbuffer).bind fun _ => ?_
          exact tracks_uswap_sig_handler fuel (tracks_page_swapin fuel async) addr
      | populate addr => exact Tracks.ite (Tracks.pure _) (tracks_handle_first_fault fuel _)
      | try_prefetch base_boundry =>
          refine Tracks.ite (Tracks.pure _) ?_
          exact (tracks_core_try_prefetch fuel base_boundry).bind fun _ => Tracks.pure _
      | evict => exact tracks_lrudisk_evictionworker
      | kswapd nr_pages priority =>
          exact Tracks.quiet ((silent_direct_allocate_page_asynch _ _).bind fun _ => Silent.pure _)
      | shrink_active nr_pages =>
          exact Tracks.quiet ((silent_shrink_active_list _).bind fun _ => Silent.pure _)
      | shrink_inactive nr_pages =>
          exact Tracks.quiet ((silent_shrink_inactive_list _).bind fun _ => Silent.pure _)
      | munmap addr length => exact Tracks.quiet (silent_extmem_munmap _ _)
      | app accesses => exact Tracks.quiet (Silent.modify_mem (io_fails_accesses accesses))

theorem tracks_runs (acts : List (ℕ × Act α)) :
    Tracks (Prog.runs (acts.map fun x => x.2.exec x.1))
      (Prog.runs (acts.map fun x => x.2.pager x.1)) := by
  induction acts with
  | nil => exact Tracks.pure _
  | cons x acts ih => exact (tracks_exec x.1 x.2).bind fun _ => ih

theorem tracks_run (acts : List (ℕ × Act α)) :
    Tracks (run acts) (do lrudisk_init; Prog.runs (acts.map fun x => x.2.pager x.1)) :=
  (Tracks.quiet silent_lrudisk_init).bind fun _ => tracks_runs acts

/-! ## Failures over a run -/

/-- The operations of a run without batched evictions. -/
def ops (acts : List (ℕ × Act α)) : Run α :=
  acts.filterMap fun x =>
    match x.2 with
    | .pager_op op => some (x.1, op)
    | .evict_vector => none

/-- An operation on whose runs the contents are kept while storage does not fail. -/
def Act.Scalar : Act α → Prop
  | .pager_op op => op.Scalar
  | .evict_vector => False

theorem ops_spec {acts : List (ℕ × Act α)} (h : ∀ x ∈ acts, x.2.Scalar) :
    (∀ x ∈ ops acts, x.2.Scalar) ∧
      (acts.map fun x => x.2.pager x.1) = (ops acts).map fun x => x.2.exec x.1 := by
  induction acts with
  | nil => exact ⟨fun _ hx => (nomatch hx), rfl⟩
  | cons x acts ih =>
      obtain ⟨fuel, act⟩ := x
      obtain ⟨hx, hacts⟩ := List.forall_mem_cons.1 h
      obtain ⟨ih₁, ih₂⟩ := ih hacts
      cases act with
      | evict_vector => exact hx.elim
      | pager_op op => exact ⟨List.forall_mem_cons.2 ⟨hx, ih₁⟩, congrArg (_ :: ·) ih₂⟩

/-- A fault on an evicted page maps the bytes the page had when its mapping was dropped. -/
def SeesOwn (s : State α) : Prop :=
  ∀ fuel addr p buffer s', s.pol.pages (boundary addr) = some p →
    (s.pol.page p).swapped_out = true →
    ((Op.fault addr false buffer).exec fuel).run s = .ok ((), s') →
    ∃ e, s'.mem.pte (boundary addr) = some e ∧ s.mem.discarded (boundary addr) = some e.data

/-- The outcomes that a run used up, which began with those of `env` and ended in `s`. -/
def used_up (env : Env α) (s : State α) : List Bool :=
  env.io_fails.take (env.io_fails.length - s.outcomes.length)

theorem Accounts.contained_iff {env : Env α} {t : Record α} (h : Accounts env.io_fails t) :
    (∀ c ∈ t.calls, c.Contained) ↔ ∀ b ∈ used_up env t.pager, b = false := by
  obtain ⟨k, hk, hfails⟩ := h.used
  have htake : used_up env t.pager = env.io_fails.take k := by
    rw [used_up, hk, List.length_drop]
    rcases Nat.lt_or_ge k env.io_fails.length with hlt | hge
    · rw [Nat.sub_sub_self hlt.le]
    · rw [Nat.sub_eq_zero_of_le hge, Nat.sub_zero, List.take_length, List.take_of_length_le hge]
  rw [htake, hfails]
  exact forall₂_congr fun c hc => c.contained_iff (h.ran c hc)

/-- The page at `4096` is written, found cold and evicted. -/
def writeThenEvictActs : List (ℕ × Act ℕ) :=
  [(1, .pager_op (.fault 4096 false 0)), (1, .pager_op (.app [.write 4096 7])),
    (1, .pager_op (.shrink_inactive 1)), (1, .pager_op .evict)]

end Recorded

end SwapPrefetch
