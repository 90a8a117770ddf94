/-
The pager on its own data structures.

`src/core.c` keeps its pages in a uthash table, and `src/storagemanager.c` keeps what was swapped out
on the RDMA server, behind the region table, the pointer codec and the request ring of
`src/storage_rdma.c`. The pager of `Core` sees the first as a function from addresses to structs and
the second as a function from offsets to pages. Here it runs on the two as they are: these are the
routines of `Migrate`, `DiskLinux` and `Core` that look up a page or move one, statement by
statement, on `Machine`. The routines that do neither are those of the pager, on the part of the
memory that is the same (`on_pager`); the page index, the store and the failures of storage requests
in `pager` are not used.

An element of the table is a struct of the policy, or the dummy page that `extmem_init` adds under the
address `0`, which is `none`. It keeps the table from ever becoming empty. The struct is on no list, so
nothing that finds it comes to an end; no caller looks up the address `0`.
-/
import SwapPrefetch.Core
import SwapPrefetch.RdmaStore
import SwapPrefetch.UtHash

set_option autoImplicit false

namespace SwapPrefetch

open Prog

/-- The memory of the pager, its page index, and its store. What the environment adds is the memory
that each addition to the table is granted, and what `CallEnv` says of each storage request. -/
structure Machine where
  pager : State PageData
  pages : UtHash.Hash (Option PageId) := {}
  mallocs : List UtHash.Malloc := []
  store : RdmaStore := RdmaStore.rdma_storage_init
  calls : List CallEnv := []

/-- A routine on the machine. It stops at a fault of the pager, or at the `exit(-1)` of a table that
gets no memory (`none`). -/
abbrev MProc (β : Type) : Type := Prog (Option Fault) Machine β

namespace Machine

variable {β : Type}

/-- Run a routine that uses neither the index nor the store. -/
def on_pager (m : Proc PageData β) : MProc β := fun M =>
  match m.run M.pager with
  | .ok (b, s) => .ok (b, { M with pager := s })
  | .error e => .error (some e)

/-! ## The page index -/

/-- The key of an element: the address in the struct. -/
def key (pol : Policy) : Option PageId → ℕ
  | some page => (pol.page page).va
  | none => 0

/-- Use the table. A walk along a chain that does not end is a hang. -/
def on_index (m : (Option PageId → ℕ) → UtHash.Proc (Option PageId) β) : MProc β := fun M =>
  match (m (key M.pager.pol)).run M.pages with
  | .ok (b, t) => .ok (b, { M with pages := t })
  | .error .exit => .error none
  | .error .hang => .error (some .hang)

/-- What the table is granted during an addition. -/
def next_malloc : MProc UtHash.Malloc := do
  let malloc := (← get).mallocs.headD {}
  modify fun M => { M with mallocs := M.mallocs.tail }
  pure malloc

/-- `find_page` (`src/core.c:154`). -/
def find_page (va : ℕ) : MProc (Option PageId) := do
  match ← on_index fun key => UtHash.HASH_FIND UtHash.hash_va key va with
  | none => pure none
  | some (some page) => pure (some page)
  | some none => throw (some .hang)

/-- The body of `add_page` (`src/core.c:137`), for any element. -/
def add_element (element : Option PageId) : MProc Unit := do
  let p ← on_index fun key => UtHash.HASH_FIND UtHash.hash_va key (key element)
  check (p = none) (some .add_page)
  let malloc ← next_malloc
  on_index fun key => UtHash.HASH_ADD UtHash.hash_va key malloc element

/-- `add_page`. -/
def add_page (page : PageId) : MProc Unit := add_element (some page)

/-- `remove_page` (`src/core.c:147`). -/
def remove_page (page : PageId) : MProc Unit :=
  on_index fun _ => UtHash.HASH_DEL (some page)

/-! ## The store -/

/-- `write_page` (`src/storagemanager.c`), whose return value `extmem_disk_write` drops. -/
def write_page (offset : ℕ) (src : PageData) : MProc Unit :=
  modify fun M =>
    { M with
      store := (M.store.rdma_write_page (M.calls.headD {}) offset src.bytes PAGE_SIZE).2
      calls := M.calls.tail }

/-- `read_page` (`src/storagemanager.c`) into a buffer that holds `dest`; the buffer afterwards. -/
def read_page (offset : ℕ) (dest : PageData) : MProc PageData := do
  let r := (← get).store.rdma_read_page ((← get).calls.headD {}) offset PAGE_SIZE
  modify fun M => { M with store := r.2, calls := M.calls.tail }
  match r.1 with
  | .ok bytes => pure bytes.page
  | .error _ => pure dest

/-- `extmem_disk_write` of the page mapped at `va`. -/
def extmem_disk_write (va : ℕ) (dest : ℕ) : MProc Unit := do
  on_pager app_turn
  match (← on_pager get_mem).pte va with
  | none => throw (some .source_unmapped)
  | some e => write_page dest e.data

/-- `extmem_disk_read`. -/
def extmem_disk_read (src : ℕ) (dest : PageData) : MProc PageData := read_page src dest

/-! ## Migration -/

/-- `extmem_migrate_updisk` (`src/core.c:688`). -/
def extmem_migrate_updisk (page : PageId) (dram_offset : ℕ) : MProc Unit := do
  check (¬ (← on_pager (get_page page)).in_dram) (some .migrate_up_in_dram)
  let disk_addr_offset := (← on_pager (get_page page)).virtual_offset
  check (disk_addr_offset < (← on_pager get_pol).disksize) (some .disk_bound)
  check (dram_offset < (← on_pager get_pol).dramsize) (some .dram_bound)
  let buffer ← extmem_disk_read disk_addr_offset (← on_pager get_mem).buffer_space
  on_pager (modify_mem fun m => { m with buffer_space := buffer })
  let ret ← on_pager (uffdio_copy (← on_pager (get_page page)).va (← on_pager get_mem).buffer_space)
  check (ret ≠ -1) (some .uffdio_copy)
  check ((← on_pager (get_page page)).va % PAGE_SIZE = 0) (some .bad_va)
  on_pager (set_page page fun p => { p with virtual_offset := dram_offset, in_dram := true })

/-- `extmem_migrate_downdisk` (`src/core.c:958`). -/
def extmem_migrate_downdisk (page : PageId) (disk_offset : ℕ) (writeback : Bool) : MProc Unit := do
  on_pager (set_page page fun p => { p with migrating := true })
  check ((← on_pager (get_page page)).in_dram) (some .migrate_down_in_dram)
  let old_addr_offset := (← on_pager (get_page page)).virtual_offset
  check (old_addr_offset < (← on_pager get_pol).dramsize) (some .dram_bound)
  check (old_addr_offset + PAGE_SIZE ≤ (← on_pager get_pol).dramsize) (some .dram_bound)
  check (disk_offset < (← on_pager get_pol).disksize) (some .disk_bound)
  check (disk_offset + PAGE_SIZE ≤ (← on_pager get_pol).disksize) (some .disk_bound)
  -- the policy may decide that writeback is not needed
  if writeback then
    extmem_disk_write (← on_pager (get_page page)).va disk_offset
  on_pager (madvise_dontneed (← on_pager (get_page page)).va)
  on_pager (set_page page fun p => { p with virtual_offset := disk_offset, in_dram := false })
  check ((← on_pager (get_page page)).swapped_out = false) (some .swapped_out)
  on_pager (set_page page fun p => { p with swapped_out := true })
  check ((← on_pager (get_page page)).migrating) (some .migrating)

/-- `lrudisk_migrate_down` (`src/policies/disklinux.c:51`). -/
def lrudisk_migrate_down (page : PageId) (offset : ℕ) (need_wp writeback : Bool) : MProc Unit := do
  on_pager (set_page page fun p => { p with migrating := true })
  -- don't write-protect again if it is done somewhere else
  if need_wp then
    on_pager (extmem_wp_page page true)
  extmem_migrate_downdisk page offset writeback

/-! ## Eviction and frames -/

/-- The body of `lrudisk_evictionworker` once it holds a victim. -/
def evict_victim (victim : PageId) : MProc Unit := do
  -- critical phase, write protect and check the dirty bit
  on_pager (set_page victim fun p => { p with migrating := true })
  on_pager (extmem_wp_page victim true)
  let (_, dirty) ← on_pager (pt_get_bits victim)
  let writeback := dirty || !(← on_pager (get_page victim)).has_reserve
  if (← on_pager (get_page victim)).has_reserve then
    -- the page is already swap backed
    let diskpage ← on_pager (detach_reserve victim .reserve_link)
    let old_offset := (← on_pager (get_page victim)).virtual_offset
    lrudisk_migrate_down victim (← on_pager (get_page diskpage)).virtual_offset false writeback
    on_pager (set_page diskpage fun p =>
      { p with
        virtual_offset := old_offset, in_dram := true, present := false
        has_reserve := false, reserve := none })
    on_pager (set_page victim fun p => { p with has_reserve := false, reserve := none })
    on_pager (enqueue_fifo .dram_free_list diskpage)
    on_pager (enqueue_fifo .disk_active_list victim)
    check ((← on_pager (get_page victim)).migrating) (some .migrating)
    check ((← on_pager (get_page victim)).swapped_out) (some .swapped_out)
    on_pager (set_page victim fun p => { p with migrating := false, swapped_out := true })
  else
    -- first time evicting or reserve deleted, allocate in disk
    match ← on_pager (dequeue_fifo .disk_free_list) with
    | none => throw (some .no_disk_page)
    | some diskpage => do
        check (¬ (← on_pager (get_page diskpage)).present) (some .diskpage_present)
        let old_offset := (← on_pager (get_page victim)).virtual_offset
        lrudisk_migrate_down victim (← on_pager (get_page diskpage)).virtual_offset false writeback
        on_pager (enqueue_fifo .disk_active_list victim)
        on_pager (set_page diskpage fun p =>
          { p with virtual_offset := old_offset, in_dram := true, present := false })
        on_pager (enqueue_fifo .dram_free_list diskpage)
        check ((← on_pager (get_page victim)).migrating) (some .migrating)
        check ((← on_pager (get_page victim)).swapped_out) (some .swapped_out)
        on_pager (set_page victim fun p => { p with migrating := false, swapped_out := true })

/-- One iteration of `lrudisk_evictionworker` (`disklinux.c:485`). -/
def lrudisk_evictionworker : MProc Unit := do
  match ← on_pager (dequeue_fifo .eviction_list) with
  | none => pure ()
  | some victim => evict_victim victim

/-- The inline eviction of `fetch_free_asynch` (`disklinux.c:1024`). -/
def fetch_free_evict (page : PageId) : MProc PageId := do
  on_pager (set_page page fun p => { p with migrating := true })
  on_pager (extmem_wp_page page true)
  let (_, dirty) ← on_pager (pt_get_bits page)
  let writeback := dirty || !(← on_pager (get_page page)).has_reserve
  if (← on_pager (get_page page)).has_reserve then
    let diskpage ← on_pager (detach_reserve page .reserve_link)
    let old_offset := (← on_pager (get_page page)).virtual_offset
    lrudisk_migrate_down page (← on_pager (get_page diskpage)).virtual_offset false writeback
    on_pager (set_page diskpage fun p =>
      { p with
        virtual_offset := old_offset, in_dram := true, present := false
        has_reserve := false, reserve := none })
    on_pager (set_page page fun p => { p with has_reserve := false, reserve := none })
    on_pager (enqueue_fifo .disk_active_list page)
    check ((← on_pager (get_page page)).migrating) (some .migrating)
    check ((← on_pager (get_page page)).swapped_out) (some .swapped_out)
    on_pager (set_page page fun p => { p with migrating := false, swapped_out := true })
    pure diskpage
  else
    match ← on_pager (dequeue_fifo .disk_free_list) with
    | none => throw (some .no_disk_page)
    | some diskpage => do
        check (¬ (← on_pager (get_page diskpage)).present) (some .diskpage_present)
        let old_offset := (← on_pager (get_page page)).virtual_offset
        lrudisk_migrate_down page (← on_pager (get_page diskpage)).virtual_offset true writeback
        check ((← on_pager (get_page page)).swapped_out) (some .swapped_out)
        on_pager (enqueue_fifo .disk_active_list page)
        on_pager (set_page diskpage fun p =>
          { p with virtual_offset := old_offset, in_dram := true, present := false })
        on_pager (set_page page fun p => { p with migrating := false })
        pure diskpage

/-- The loop of `fetch_free_asynch` (`disklinux.c:996`). -/
def fetch_free_loop : ℕ → ℕ → MProc PageId
  | 0, _ => throw (some .hang)
  | fuel + 1, priority => do
      if priority = 0 then
        throw (some .out_of_memory)
      else
        match ← on_pager (dequeue_fifo .dram_free_list) with
        | some page => pure page
        | none => do
            let priority ← on_pager (fetch_free_reclaim priority)
            match ← on_pager (dequeue_fifo .eviction_list) with
            | some page => fetch_free_evict page
            | none => fetch_free_loop fuel priority

/-- `fetch_free_asynch` (`disklinux.c:970`). -/
def fetch_free_asynch (fuel : ℕ) : MProc PageId := fetch_free_loop fuel 12

/-- `lrudisk_pagefault` (`disklinux.c:1124`). -/
def lrudisk_pagefault (fuel : ℕ) : MProc PageId := do
  let page ← fetch_free_asynch fuel
  on_pager (set_page page fun p => { p with migrating := true })
  pure page

/-! ## Swap-in -/

/-- `lrudisk_swapin_external` (`disklinux.c:117`). -/
def lrudisk_swapin_external (fuel : ℕ) (page : PageId) : MProc Unit := do
  let file_offset := (← on_pager (get_page page)).virtual_offset
  let freepage ← fetch_free_asynch fuel
  check ((← on_pager (get_page freepage)).in_dram) (some .freepage_in_dram)
  on_pager (lrudisk_detach_page page)
  let offset := (← on_pager (get_page freepage)).virtual_offset
  extmem_migrate_updisk page offset
  -- now that the new page is in memory release the page in disk
  on_pager (set_page freepage fun p =>
    { p with
      virtual_offset := file_offset, in_dram := false, swapped_out := true
      migrating := false })
  on_pager (link_reserve page freepage)

/-- `lrudisk_swapin_external_async` (`disklinux.c:166`). -/
def lrudisk_swapin_external_async (fuel : ℕ) (page : PageId) : MProc Unit := do
  let file_offset := (← on_pager (get_page page)).virtual_offset
  on_pager (lrudisk_detach_page page)
  -- ensure page state is consistent for async migration
  if (← on_pager (get_page page)).in_dram then
    on_pager (set_page page fun p => { p with in_dram := false })
  on_pager (core_migrate_up_async_start page)
  let freepage ← fetch_free_asynch fuel
  check ((← on_pager (get_page freepage)).in_dram) (some .freepage_in_dram)
  let offset := (← on_pager (get_page freepage)).virtual_offset
  on_pager (core_migrate_up_async_finish page offset)
  -- now that the new page is in memory release the page in disk
  on_pager (set_page freepage fun p =>
    { p with
      virtual_offset := file_offset, in_dram := false, swapped_out := true
      migrating := false })
  on_pager (link_reserve page freepage)

/-- The swap-in routine a major fault uses. -/
def page_swapin (fuel : ℕ) (async : Bool) : PageId → MProc Unit :=
  if async then lrudisk_swapin_external_async fuel else lrudisk_swapin_external fuel

/-! ## Fault handlers -/

/-- `handle_first_fault` (`src/core.c:1387`). -/
def handle_first_fault (fuel : ℕ) (page_boundry : ℕ) : MProc Unit := do
  check (page_boundry ≠ 0) (some .bad_va)
  let newpage ← lrudisk_pagefault fuel
  match ← find_page page_boundry with
  | some page => do
      -- somebody must have done it: put the page back
      on_pager (lrudisk_put_page_free newpage)
      check (¬ (← on_pager (get_page page)).migrating) (some .hang)
  | none => do
      on_pager (set_page newpage fun p => { p with migrating := true, swapped_out := false })
      check ((← on_pager (get_page newpage)).va = 0) (some .va_zero)
      on_pager (set_page newpage fun p => { p with va := page_boundry })
      check ((← on_pager (get_page newpage)).va % PAGE_SIZE = 0) (some .bad_va)
      add_page newpage
      check ((← on_pager (get_page newpage)).in_dram) (some .first_fault_in_dram)
      let ret ← on_pager (uffdio_copy (← on_pager (get_page newpage)).va (← on_pager get_mem).page_cache)
      check (ret ≠ -1) (some .uffdio_copy)
      on_pager (set_page newpage fun p => { p with migrating := false, swapped_out := false })
      on_pager (lrudisk_track_page newpage)
      on_pager (modify_pol fun s => s.account PAGE_SIZE 0)

/-- `handle_missing_fault` (`src/core.c:1187`) without the prefetch cache. -/
def major_fault (swapin : PageId → MProc Unit) (page : PageId) : MProc Unit := do
  let old_va := (← on_pager (get_page page)).va
  check (¬ (← on_pager (get_page page)).migrating) (some .hang)
  if (← on_pager (get_page page)).swapped_out then
    on_pager (set_page page fun p => { p with migrating := true })
    swapin page
    check ((← on_pager (get_page page)).va = old_va) (some .va_changed)
    check ((← on_pager (get_page page)).va ≠ 0) (some .bad_va)
    check ((← on_pager (get_page page)).va % PAGE_SIZE = 0) (some .bad_va)
    on_pager (set_page page fun p => { p with swapped_out := false, migrating := false })

/-- `uswap_sig_handler` (`src/core.c:168`). -/
def uswap_sig_handler (fuel : ℕ) (swapin : PageId → MProc Unit) (fault_addr : ℕ) : MProc Unit := do
  let page_boundry := fault_addr - fault_addr % PAGE_SIZE
  match ← find_page page_boundry with
  | none => handle_first_fault fuel page_boundry
  | some page =>
      if (← on_pager (get_page page)).swapped_out then
        major_fault swapin page
      else
        on_pager (handle_wp_fault page)

/-! ## Sequential prefetch -/

/-- The first loop of `core_try_prefetch`. -/
def prefetch_select (fuel : ℕ) : ℕ → ℕ → MProc (List (PageId × PageId))
  | 0, _ => pure []
  | left + 1, page_boundry => do
      let page_boundry := (page_boundry + PAGE_SIZE) % 2 ^ 64
      match ← find_page page_boundry with
      | none => pure []
      | some page => do
          check ((← on_pager (get_page page)).va = page_boundry) (some .va_changed)
          -- the window ends at the first page that is busy or resident
          if (← on_pager (get_page page)).migrating ∨ (← on_pager (get_page page)).swapped_out = false then
            pure []
          else do
            on_pager (set_page page fun p => { p with migrating := true })
            check ((← on_pager (get_page page)).va ≠ 0) (some .bad_va)
            -- the page is on no list while a frame is looked for
            on_pager (lrudisk_detach_page page)
            let freepage ← lrudisk_pagefault fuel
            let rest ← prefetch_select fuel left page_boundry
            pure ((page, freepage) :: rest)

/-- The read loop of `core_try_prefetch`. -/
def prefetch_read : List (PageId × PageId) → ℕ → MProc Unit
  | [], _ => pure ()
  | (page, _) :: rest, i => do
      let disk_addr_offset := (← on_pager (get_page page)).virtual_offset
      let data ← extmem_disk_read disk_addr_offset ((← on_pager get_mem).prefetch_buffer i)
      on_pager (modify_mem fun m => { m with prefetch_buffer := Function.update m.prefetch_buffer i data })
      prefetch_read rest (i + 1)

/-- `core_try_prefetch` (`src/core.c:1684`). -/
def core_try_prefetch (fuel : ℕ) (base_boundry : ℕ) : MProc ℕ := do
  check (base_boundry ≠ 0) (some .bad_va)
  let jobs ← prefetch_select fuel CORE_PREFETCH_RATE base_boundry
  prefetch_read jobs 0
  on_pager (prefetch_finish jobs 0)

/-! ## `munmap` -/

/-- One page of `extmem_munmap`. -/
def munmap_page (page_boundry : ℕ) : MProc Unit := do
  match ← find_page page_boundry with
  | none => pure ()
  | some page => do
      -- the busy wait on a page that is being handled
      check (¬ (← on_pager (get_page page)).migrating) (some .hang)
      on_pager (set_page page fun p => { p with migrating := true })
      remove_page page
      on_pager (lrudisk_remove_page page)
      -- `mem_allocated -= PAGE_SIZE; pages_freed++`
      on_pager (modify_pol fun s => s.account (2 ^ 64 - PAGE_SIZE) 1)

/-- The loop of `extmem_munmap`. -/
def munmap_loop : ℕ → ℕ → MProc Unit
  | 0, _ => pure ()
  | left + 1, page_boundry => do
      munmap_page page_boundry
      munmap_loop left (page_boundry + PAGE_SIZE)

/-- `extmem_munmap` (`src/core.c:601`). -/
def extmem_munmap (addr length : ℕ) : MProc Unit := do
  let stop := (addr + length) % 2 ^ 64
  check (stop ≤ 2 ^ 64 - PAGE_SIZE) (some .hang)
  munmap_loop ((stop - addr + (PAGE_SIZE - 1)) / PAGE_SIZE) addr
  -- the kernel sees the range as it was passed, not rounded to pages
  on_pager (libc_munmap addr length)

/-! ## Runs -/

/-- Execute one operation. -/
def exec_op (fuel : ℕ) : Op PageData → MProc Unit
  | .fault addr async buffer =>
      if addr < PAGE_SIZE then pure ()
      else do
        on_pager (modify_mem fun m => { m with buffer_space := buffer })
        uswap_sig_handler fuel (page_swapin fuel async) addr
  | .populate addr =>
      if addr < PAGE_SIZE then pure ()
      else handle_first_fault fuel (addr - addr % PAGE_SIZE)
  | .try_prefetch base_boundry =>
      if base_boundry = 0 then pure ()
      else do
        let _ ← core_try_prefetch fuel base_boundry
        pure ()
  | .evict => lrudisk_evictionworker
  | .munmap addr length => extmem_munmap addr length
  -- the scans and the application use neither the index nor the store
  | op => on_pager (op.exec fuel)

/-- Execute a run. -/
def exec_run (r : Run PageData) : MProc Unit := Prog.runs (r.map fun x => exec_op x.1 x.2)

/-- `extmem_init` (`src/core.c:261`): the frames and slots of the policy, and the dummy page. -/
def extmem_init : MProc Unit := do
  on_pager lrudisk_init
  add_element none

/-- The machine before `extmem_init`. -/
def blank (dramsize disksize : ℕ) (zero : PageData) (env : Env PageData)
    (mallocs : List UtHash.Malloc) (calls : List CallEnv) : Machine :=
  { pager := State.blank dramsize disksize zero env, mallocs := mallocs, calls := calls }

end Machine

end SwapPrefetch
