/-
The fault handlers and the mapping calls of `src/core.c`, and the runs of the
pager: sequences of its operations, executed one at a time.

What a major fault does is `major_fault swapin`, for either of the two swap-in
routines of the policy: the code calls `page_swapin_external_async`, with the call
of `page_swapin_external` left beside it in a comment. The lookup in the prefetch
cache that comes before it belongs to `src/pointer_prefetch.c` and has its own
file. A busy wait on `page->migrating` cannot end while no other thread runs.
-/
import SwapPrefetch.DiskLinux

set_option autoImplicit false

namespace SwapPrefetch

open Prog

variable {α : Type}

/-- `CORE_PREFETCH_RATE` (`src/core.h`). -/
abbrev CORE_PREFETCH_RATE : ℕ := 32

/-! ## The page index -/

/-- `find_page` (`src/core.c:154`). -/
def find_page (va : ℕ) : Proc α (Option PageId) := do
  pure ((← get_pol).pages va)

/-- `add_page` (`src/core.c:137`). -/
def add_page (page : PageId) : Proc α Unit := do
  let va := (← get_page page).va
  check ((← get_pol).pages va = none) .add_page
  modify_pol fun s => s.setIndex va (some page)

/-- `remove_page` (`src/core.c:147`). -/
def remove_page (page : PageId) : Proc α Unit := do
  let va := (← get_page page).va
  modify_pol fun s => s.setIndex va none

/-! ## Fault handlers -/

/-- `handle_wp_fault` (`src/core.c:1169`). -/
def handle_wp_fault (page : PageId) : Proc α Unit := do
  check (¬ (← get_page page).migrating) .hang

/-- `handle_first_fault` (`src/core.c:1387`): map a zero page. -/
def handle_first_fault (fuel : ℕ) (page_boundry : ℕ) : Proc α Unit := do
  check (page_boundry ≠ 0) .bad_va
  let newpage ← lrudisk_pagefault fuel
  match ← find_page page_boundry with
  | some page => do
      -- somebody must have done it: put the page back
      lrudisk_put_page_free newpage
      check (¬ (← get_page page).migrating) .hang
  | none => do
      set_page newpage fun p => { p with migrating := true, swapped_out := false }
      check ((← get_page newpage).va = 0) .va_zero
      set_page newpage fun p => { p with va := page_boundry }
      check ((← get_page newpage).va % PAGE_SIZE = 0) .bad_va
      add_page newpage
      check ((← get_page newpage).in_dram) .first_fault_in_dram
      let ret ← uffdio_copy (← get_page newpage).va (← get_mem).page_cache
      check (ret ≠ -1) .uffdio_copy
      set_page newpage fun p => { p with migrating := false, swapped_out := false }
      lrudisk_track_page newpage
      modify_pol fun s => s.account PAGE_SIZE 0

/-- `handle_missing_fault` (`src/core.c:1187`) without the prefetch cache. -/
def major_fault (swapin : PageId → Proc α Unit) (page : PageId) : Proc α Unit := do
  let old_va := (← get_page page).va
  check (¬ (← get_page page).migrating) .hang
  if (← get_page page).swapped_out then
    set_page page fun p => { p with migrating := true }
    swapin page
    check ((← get_page page).va = old_va) .va_changed
    check ((← get_page page).va ≠ 0) .bad_va
    check ((← get_page page).va % PAGE_SIZE = 0) .bad_va
    set_page page fun p => { p with swapped_out := false, migrating := false }

/-- `uswap_sig_handler` (`src/core.c:168`). -/
def uswap_sig_handler (fuel : ℕ) (swapin : PageId → Proc α Unit) (fault_addr : ℕ) :
    Proc α Unit := do
  let page_boundry := fault_addr - fault_addr % PAGE_SIZE
  match ← find_page page_boundry with
  | none => handle_first_fault fuel page_boundry
  | some page =>
      if (← get_page page).swapped_out then
        major_fault swapin page
      else
        handle_wp_fault page

/-! ## Sequential prefetch -/

/-- The first loop of `core_try_prefetch`: claim and detach the evicted pages that
follow `page_boundry`, and get a frame for each. -/
def prefetch_select (fuel : ℕ) : ℕ → ℕ → Proc α (List (PageId × PageId))
  | 0, _ => pure []
  | left + 1, page_boundry => do
      let page_boundry := (page_boundry + PAGE_SIZE) % 2 ^ 64
      match ← find_page page_boundry with
      | none => pure []
      | some page => do
          check ((← get_page page).va = page_boundry) .va_changed
          -- the window ends at the first page that is busy or resident
          if (← get_page page).migrating ∨ (← get_page page).swapped_out = false then
            pure []
          else do
            set_page page fun p => { p with migrating := true }
            check ((← get_page page).va ≠ 0) .bad_va
            -- the page is on no list while a frame is looked for
            lrudisk_detach_page page
            let freepage ← lrudisk_pagefault fuel
            let rest ← prefetch_select fuel left page_boundry
            pure ((page, freepage) :: rest)

/-- The read loop of `core_try_prefetch`, into slot `i` of `prefetch_buffer` on. -/
def prefetch_read : List (PageId × PageId) → ℕ → Proc α Unit
  | [], _ => pure ()
  | (page, _) :: rest, i => do
      let disk_addr_offset := (← get_page page).virtual_offset
      let data ← extmem_disk_read disk_addr_offset ((← get_mem).prefetch_buffer i)
      modify_mem fun m => { m with prefetch_buffer := Function.update m.prefetch_buffer i data }
      prefetch_read rest (i + 1)

/-- The `UFFDIO_COPY` loop of `core_try_prefetch`. A failed copy is only reported. -/
def prefetch_finish : List (PageId × PageId) → ℕ → Proc α ℕ
  | [], finished_jobs => pure finished_jobs
  | (page, freepage) :: rest, finished_jobs => do
      let _ ← uffdio_copy (← get_page page).va ((← get_mem).prefetch_buffer finished_jobs)
      lrudisk_ack_swapin page freepage
      set_page page fun p => { p with in_dram := true }
      set_page page fun p => { p with swapped_out := false, migrating := false }
      prefetch_finish rest (finished_jobs + 1)

/-- `core_try_prefetch` (`src/core.c:1684`). -/
def core_try_prefetch (fuel : ℕ) (base_boundry : ℕ) : Proc α ℕ := do
  check (base_boundry ≠ 0) .bad_va
  let jobs ← prefetch_select fuel CORE_PREFETCH_RATE base_boundry
  prefetch_read jobs 0
  prefetch_finish jobs 0

/-! ## `munmap` -/

/-- One page of `extmem_munmap`. -/
def munmap_page (page_boundry : ℕ) : Proc α Unit := do
  match ← find_page page_boundry with
  | none => pure ()
  | some page => do
      -- the busy wait on a page that is being handled
      check (¬ (← get_page page).migrating) .hang
      set_page page fun p => { p with migrating := true }
      remove_page page
      lrudisk_remove_page page
      -- `mem_allocated -= PAGE_SIZE; pages_freed++`
      modify_pol fun s => s.account (2 ^ 64 - PAGE_SIZE) 1

/-- The loop of `extmem_munmap`, over `left` pages from `page_boundry` on. -/
def munmap_loop : ℕ → ℕ → Proc α Unit
  | 0, _ => pure ()
  | left + 1, page_boundry => do
      munmap_page page_boundry
      munmap_loop left (page_boundry + PAGE_SIZE)

/-- `libc_munmap`: the kernel refuses an unaligned address and an empty or wrapping
range, and otherwise drops every mapping in it. -/
def libc_munmap (addr length : ℕ) : Proc α Unit := do
  app_turn
  check (addr % PAGE_SIZE = 0 ∧ 0 < length ∧ addr + length < 2 ^ 64) .libc_munmap
  modify_mem fun m =>
    { m with pte := fun va => if addr ≤ va ∧ va < addr + length then none else m.pte va }

/-- `extmem_munmap` (`src/core.c:601`). The loop counter is a `uint64_t`: when the end
of the range is in the last page of the address space it wraps and never ends. -/
def extmem_munmap (addr length : ℕ) : Proc α Unit := do
  let stop := (addr + length) % 2 ^ 64
  check (stop ≤ 2 ^ 64 - PAGE_SIZE) .hang
  munmap_loop ((stop - addr + (PAGE_SIZE - 1)) / PAGE_SIZE) addr
  -- the kernel sees the range as it was passed, not rounded to pages
  libc_munmap addr length

/-! ## Runs -/

/-- The operations of the pager, as its callers make them. -/
inductive Op (α : Type) where
  /-- the application touches an address that is not mapped, on a thread whose
  `buffer_space` holds `buffer`; the major-fault path uses the asynchronous swap-in
  or the synchronous one -/
  | fault (addr : ℕ) (async : Bool) (buffer : α)
  /-- one page of `extmem_mmap_populate` -/
  | populate (addr : ℕ)
  /-- `core_try_prefetch` after a major fault -/
  | try_prefetch (base_boundry : ℕ)
  /-- an iteration of an eviction worker -/
  | evict
  /-- an iteration of `lrudisk_synchkswapd` that reclaims -/
  | kswapd (nr_pages priority : ℕ)
  /-- the two scans on their own -/
  | shrink_active (nr_pages : ℕ)
  | shrink_inactive (nr_pages : ℕ)
  /-- `munmap` -/
  | munmap (addr length : ℕ)
  /-- the application runs -/
  | app (accesses : List (Access α))

/-- The swap-in routine a major fault uses. -/
def page_swapin (fuel : ℕ) (async : Bool) : PageId → Proc α Unit :=
  if async then lrudisk_swapin_external_async fuel else lrudisk_swapin_external fuel

/-- Execute one operation. The first page of the address space is never handed out by
`mmap`, so no operation is called for it. -/
def Op.exec (fuel : ℕ) : Op α → Proc α Unit
  | .fault addr async buffer =>
      if addr < PAGE_SIZE then pure ()
      else do
        modify_mem fun m => { m with buffer_space := buffer }
        uswap_sig_handler fuel (page_swapin fuel async) addr
  | .populate addr =>
      if addr < PAGE_SIZE then pure ()
      else handle_first_fault fuel (addr - addr % PAGE_SIZE)
  | .try_prefetch base_boundry =>
      if base_boundry = 0 then pure ()
      else do
        let _ ← core_try_prefetch fuel base_boundry
        pure ()
  | .evict => lrudisk_evictionworker
  | .kswapd nr_pages priority => do
      let _ ← direct_allocate_page_asynch nr_pages priority
      pure ()
  | .shrink_active nr_pages => do
      let _ ← shrink_active_list nr_pages
      pure ()
  | .shrink_inactive nr_pages => do
      let _ ← shrink_inactive_list nr_pages
      pure ()
  | .munmap addr length => extmem_munmap addr length
  | .app accesses => modify_mem fun m => accesses.foldl Mem.access m

/-- A run of the pager: operations, each with the fuel of its frame search. -/
abbrev Run (α : Type) : Type := List (ℕ × Op α)

/-- Execute a run. -/
def Run.exec (r : Run α) : Proc α Unit :=
  Prog.runs (r.map fun x => x.2.exec x.1)

/-- The state before `lrudisk_init`. -/
def State.blank (dramsize disksize : ℕ) (zero : α) (env : Env α) : State α :=
  { pol := { dramsize := dramsize, disksize := disksize }
    mem := { page_cache := zero, buffer_space := zero, prefetch_buffer := fun _ => zero, env := env } }

/-- `s` is reached from `lrudisk_init` by the run `r`. -/
def Reaches (dramsize disksize : ℕ) (zero : α) (env : Env α) (r : Run α) (s : State α) : Prop :=
  (do lrudisk_init; r.exec : Proc α Unit).run (State.blank dramsize disksize zero env) = .ok ((), s)

end SwapPrefetch
