/-
The default policy, `src/policies/disklinux.c`.

A page struct is a role, not a place: whenever a page is brought in or pushed out,
it exchanges its offset with the struct of the frame or the slot it moves to. A
struct that stood for a free frame leaves a swap-in standing for the disk slot the
page came from, and is kept on `disk_reserve_list`, linked with the page both ways,
so that a later eviction of a clean page needs no write.

Loops are structural. A scan loop recurses on what is left of its bound
`nr_pages * 100 - tries`; the retry loop of `fetch_free_asynch` has no bound in the
source and takes fuel. Waking `kswapd` has no effect on the state and is left out,
as are `lrudisk_swapin`, `fetch_free_page`, `lrudisk_allocate_page_critical` and
`direct_allocate_page`, which nothing calls.
-/
import SwapPrefetch.Migrate

set_option autoImplicit false

namespace SwapPrefetch

open Prog

variable {α : Type}

/-- `SWAP_CLUSTER_COUNT` (`src/policies/disklinux.h`). -/
abbrev SWAP_CLUSTER_COUNT : ℕ := 32

/-- `EVICT_VECTOR_SIZE` (`src/policies/disklinux.h`). -/
abbrev EVICT_VECTOR_SIZE : ℕ := 8

/-! ## Reclaim scans -/

/-- The loop of `shrink_active_list`; `left` is `nr_pages * 100 - tries`. -/
def shrink_active_loop (nr_pages : ℕ) : ℕ → ℕ → Proc α ℕ
  | 0, ret => pure ret
  | left + 1, ret => do
      if ret < nr_pages ∧ 0 < (← numentries .active_list) then
        match ← dequeue_fifo .active_list with
        | none => throw .hang
        | some page => do
            set_page page fun p => { p with naccesses := 0 }
            enqueue_fifo .inactive_list page
            shrink_active_loop nr_pages left (ret + 1)
      else
        pure ret

/-- `shrink_active_list` (`disklinux.c:310`). -/
def shrink_active_list (nr_pages : ℕ) : Proc α ℕ := do
  if nr_pages = 0 then
    pure 0
  else do
    modify_pol fun s => { s with shrinkage_running := true }
    let nr_pages := min nr_pages (← numentries .active_list)
    let ret ← shrink_active_loop nr_pages (nr_pages * 100) 0
    modify_pol fun s => { s with shrinkage_running := false }
    pure ret

/-- The body of the loop of `shrink_inactive_list`: whether the page was cold. -/
def shrink_inactive_page (page : PageId) : Proc α Bool := do
  let (accessed, _) ← pt_get_bits page
  if accessed then
    -- page has been accessed, put it back
    set_page page fun p => { p with naccesses := (p.naccesses + 1) % 2 ^ 64 }
    pt_clear_accessed_flag page
    if 1 < (← get_page page).naccesses then
      set_page page fun p => { p with naccesses := 0 }
      enqueue_fifo .active_list page
    else
      enqueue_fifo .inactive_list page
    pure false
  else
    -- found a cold page, put it on the eviction list
    set_page page fun p => { p with naccesses := 0 }
    enqueue_fifo .eviction_list page
    pure true

/-- The loop of `shrink_inactive_list`; `left` is `nr_pages * 100 - tries`. -/
def shrink_inactive_loop (nr_pages : ℕ) : ℕ → ℕ → Proc α ℕ
  | 0, ret => pure ret
  | left + 1, ret => do
      if ret < nr_pages ∧ 0 < (← numentries .inactive_list) then
        match ← dequeue_fifo .inactive_list with
        | none => throw .hang
        | some page => do
            let cold ← shrink_inactive_page page
            shrink_inactive_loop nr_pages left (if cold then ret + 1 else ret)
      else
        pure ret

/-- `shrink_inactive_list` (`disklinux.c:348`). -/
def shrink_inactive_list (nr_pages : ℕ) : Proc α ℕ := do
  let entries ← numentries .inactive_list
  let nr_pages := if nr_pages = 0 ∨ entries < nr_pages then entries else nr_pages
  modify_pol fun s => { s with shrinkage_running := true }
  let ret ← shrink_inactive_loop nr_pages (nr_pages * 100) 0
  modify_pol fun s => { s with shrinkage_running := false }
  pure ret

/-- The loop of `direct_allocate_page_asynch`. Every round scans
`SWAP_CLUSTER_COUNT` more pages, so `to_scan_inactive` rounds are always enough. -/
def direct_allocate_loop (nr_pages to_scan_active to_scan_inactive : ℕ) :
    ℕ → ℕ → ℕ → ℕ → Proc α ℕ
  | 0, _, _, reclaimed => pure reclaimed
  | rounds + 1, nr_scanned_active, nr_scanned_inactive, reclaimed => do
      if nr_scanned_inactive < to_scan_inactive ∧ reclaimed < nr_pages then
        let ret ← shrink_inactive_list SWAP_CLUSTER_COUNT
        let nr_scanned_inactive := nr_scanned_inactive + SWAP_CLUSTER_COUNT
        if nr_scanned_active < to_scan_active then
          let _ ← shrink_active_list SWAP_CLUSTER_COUNT
          direct_allocate_loop nr_pages to_scan_active to_scan_inactive rounds
            (nr_scanned_active + SWAP_CLUSTER_COUNT) nr_scanned_inactive (reclaimed + ret)
        else
          direct_allocate_loop nr_pages to_scan_active to_scan_inactive rounds
            nr_scanned_active nr_scanned_inactive (reclaimed + ret)
      else
        pure reclaimed

/-- `direct_allocate_page_asynch` (`disklinux.c:810`): put some pages in the
evictor's list. -/
def direct_allocate_page_asynch (nr_pages priority : ℕ) : Proc α ℕ := do
  let to_scan_active := (← numentries .active_list) >>> priority
  let to_scan_inactive := (← numentries .inactive_list) >>> priority
  direct_allocate_loop nr_pages to_scan_active to_scan_inactive to_scan_inactive 0 0 0

/-! ## Eviction -/

/-- The block that takes the reserve of a page off `disk_reserve_list`, the same in
the eviction paths and in `lrudisk_remove_page` but for what follows when the
removal fails: `stuck`. -/
def detach_reserve (page : PageId) (stuck : Fault) : Proc α PageId := do
  match (← get_page page).reserve with
  | none => throw .reserve_link
  | some diskpage => do
      check ((← get_page diskpage).reserve = some page) .reserve_link
      let list := (← get_page diskpage).list
      check (list = some .disk_reserve_list) .reserve_link
      let ret ← page_list_tryremove_page list diskpage
      check (ret = 0) stuck
      pure diskpage

/-- The body of `lrudisk_evictionworker` once it holds a victim. -/
def evict_victim (victim : PageId) : Proc α Unit := do
  -- critical phase, write protect and check the dirty bit
  set_page victim fun p => { p with migrating := true }
  extmem_wp_page victim true
  let (_, dirty) ← pt_get_bits victim
  let writeback := dirty || !(← get_page victim).has_reserve
  if (← get_page victim).has_reserve then
    -- the page is already swap backed
    let diskpage ← detach_reserve victim .reserve_link
    let old_offset := (← get_page victim).virtual_offset
    lrudisk_migrate_down victim (← get_page diskpage).virtual_offset false writeback
    set_page diskpage fun p =>
      { p with
        virtual_offset := old_offset, in_dram := true, present := false
        has_reserve := false, reserve := none }
    set_page victim fun p => { p with has_reserve := false, reserve := none }
    enqueue_fifo .dram_free_list diskpage
    enqueue_fifo .disk_active_list victim
    check ((← get_page victim).migrating) .migrating
    check ((← get_page victim).swapped_out) .swapped_out
    set_page victim fun p => { p with migrating := false, swapped_out := true }
  else
    -- first time evicting or reserve deleted, allocate in disk
    match ← dequeue_fifo .disk_free_list with
    | none => throw .no_disk_page
    | some diskpage => do
        check (¬ (← get_page diskpage).present) .diskpage_present
        let old_offset := (← get_page victim).virtual_offset
        lrudisk_migrate_down victim (← get_page diskpage).virtual_offset false writeback
        enqueue_fifo .disk_active_list victim
        set_page diskpage fun p =>
          { p with virtual_offset := old_offset, in_dram := true, present := false }
        enqueue_fifo .dram_free_list diskpage
        check ((← get_page victim).migrating) .migrating
        check ((← get_page victim).swapped_out) .swapped_out
        set_page victim fun p => { p with migrating := false, swapped_out := true }

/-- One iteration of `lrudisk_evictionworker` (`disklinux.c:485`). -/
def lrudisk_evictionworker : Proc α Unit := do
  match ← dequeue_fifo .eviction_list with
  | none => pure ()
  | some victim => evict_victim victim

/-- The first loop of `lrudisk_evictionworker_vector`: write-protect each victim and
read its dirty bit. -/
def vector_prepare : List PageId → Proc α (List Victim)
  | [] => pure []
  | victim :: rest => do
      set_page victim fun p => { p with migrating := true }
      let old_offset := (← get_page victim).virtual_offset
      extmem_wp_page victim true
      let (_, dirty) ← pt_get_bits victim
      let writeback := dirty || !(← get_page victim).has_reserve
      let vs ← vector_prepare rest
      pure ({ page := victim, old_offset := old_offset, writeback := writeback } :: vs)

/-- The second loop: get the needed disk pages. -/
def vector_diskpages : List Victim → Proc α (List Victim)
  | [] => pure []
  | v :: rest => do
      let diskpage ←
        if (← get_page v.page).has_reserve then
          detach_reserve v.page .reserve_link
        else do
          match ← dequeue_fifo .disk_free_list with
          | none => throw .no_disk_page
          | some diskpage => do
              check (¬ (← get_page diskpage).present) .diskpage_present
              pure diskpage
      let vs ← vector_diskpages rest
      pure ({ v with diskpage := diskpage } :: vs)

/-- The third loop: track the pages. -/
def vector_track : List Victim → Proc α Unit
  | [] => pure ()
  | v :: rest => do
      if (← get_page v.page).has_reserve then
        set_page v.diskpage fun p =>
          { p with
            virtual_offset := v.old_offset, in_dram := true, present := false
            has_reserve := false, reserve := none }
        set_page v.page fun p => { p with has_reserve := false, reserve := none }
        enqueue_fifo .dram_free_list v.diskpage
        enqueue_fifo .disk_active_list v.page
      else
        check (¬ (← get_page v.diskpage).present) .diskpage_present
        enqueue_fifo .disk_active_list v.page
        set_page v.diskpage fun p =>
          { p with virtual_offset := v.old_offset, in_dram := true, present := false }
        enqueue_fifo .dram_free_list v.diskpage
      check ((← get_page v.page).migrating) .migrating
      check ((← get_page v.page).swapped_out) .swapped_out
      set_page v.page fun p => { p with migrating := false, swapped_out := true }
      vector_track rest

/-- One iteration of `lrudisk_evictionworker_vector` (`disklinux.c:631`). -/
def lrudisk_evictionworker_vector : Proc α Unit := do
  let victims ← dequeue_fifo_vector .eviction_list EVICT_VECTOR_SIZE
  let vs ← vector_prepare victims
  let vs ← vector_diskpages vs
  extmem_migrate_downdisk_vector vs
  vector_track vs

/-! ## Frames -/

/-- The inline eviction of `fetch_free_asynch` (`disklinux.c:1024`): the frame of the
evicted page goes to the caller and not to `dram_free_list`. -/
def fetch_free_evict (page : PageId) : Proc α PageId := do
  set_page page fun p => { p with migrating := true }
  extmem_wp_page page true
  let (_, dirty) ← pt_get_bits page
  let writeback := dirty || !(← get_page page).has_reserve
  if (← get_page page).has_reserve then
    let diskpage ← detach_reserve page .reserve_link
    let old_offset := (← get_page page).virtual_offset
    lrudisk_migrate_down page (← get_page diskpage).virtual_offset false writeback
    set_page diskpage fun p =>
      { p with
        virtual_offset := old_offset, in_dram := true, present := false
        has_reserve := false, reserve := none }
    set_page page fun p => { p with has_reserve := false, reserve := none }
    enqueue_fifo .disk_active_list page
    check ((← get_page page).migrating) .migrating
    check ((← get_page page).swapped_out) .swapped_out
    set_page page fun p => { p with migrating := false, swapped_out := true }
    pure diskpage
  else
    match ← dequeue_fifo .disk_free_list with
    | none => throw .no_disk_page
    | some diskpage => do
        check (¬ (← get_page diskpage).present) .diskpage_present
        let old_offset := (← get_page page).virtual_offset
        lrudisk_migrate_down page (← get_page diskpage).virtual_offset true writeback
        check ((← get_page page).swapped_out) .swapped_out
        enqueue_fifo .disk_active_list page
        set_page diskpage fun p =>
          { p with virtual_offset := old_offset, in_dram := true, present := false }
        set_page page fun p => { p with migrating := false }
        pure diskpage

/-- The reclaim step of `fetch_free_asynch`: scan when more than half of the frames
are on the two LRU lists, and lower the priority; the new priority. -/
def fetch_free_reclaim (priority : ℕ) : Proc α ℕ := do
  if (← get_pol).shrinkage_running = false ∧
      (← get_pol).dramsize / (PAGE_SIZE * 2) <
        (← numentries .active_list) + (← numentries .inactive_list) then
    let _ ← direct_allocate_page_asynch SWAP_CLUSTER_COUNT priority
    pure (priority - 1)
  else
    pure priority

/-- The loop of `fetch_free_asynch` (`disklinux.c:996`). -/
def fetch_free_loop : ℕ → ℕ → Proc α PageId
  | 0, _ => throw .hang
  | fuel + 1, priority => do
      if priority = 0 then
        throw .out_of_memory
      else
        match ← dequeue_fifo .dram_free_list with
        | some page => pure page
        | none => do
            let priority ← fetch_free_reclaim priority
            match ← dequeue_fifo .eviction_list with
            | some page => fetch_free_evict page
            | none => fetch_free_loop fuel priority

/-- `fetch_free_asynch` (`disklinux.c:970`): get free physical space, a listless
`in_dram` page. -/
def fetch_free_asynch (fuel : ℕ) : Proc α PageId :=
  fetch_free_loop fuel 12

/-- `lrudisk_pagefault` (`disklinux.c:1124`). -/
def lrudisk_pagefault (fuel : ℕ) : Proc α PageId := do
  let page ← fetch_free_asynch fuel
  set_page page fun p => { p with migrating := true }
  pure page

/-- `lrudisk_track_page` (`disklinux.c:1138`). -/
def lrudisk_track_page (page : PageId) : Proc α Unit := do
  check ((← get_page page).list = none) .track_list
  enqueue_fifo .inactive_list page

/-- `lrudisk_put_page_free` (`disklinux.c:1145`). -/
def lrudisk_put_page_free (page : PageId) : Proc α Unit := do
  check ((← get_page page).list = none) .track_list
  check ((← get_page page).va = 0) .va_zero
  enqueue_fifo .dram_free_list page

/-! ## Swap-in -/

/-- `lrudisk_detach_page` (`disklinux.c:1153`). The swap-in routines contain the same
block. -/
def lrudisk_detach_page (page : PageId) : Proc α Unit := do
  let list := (← get_page page).list
  check (list = some .disk_active_list) .list_disk_active
  let ret ← page_list_tryremove_page (some .disk_active_list) page
  check (ret = 0) .list_disk_active

/-- The end of the three swap-in routines: the frame's struct takes over the disk
slot and is kept as a reserve backing of the page. -/
def link_reserve (page freepage : PageId) : Proc α Unit := do
  set_page freepage fun p => { p with reserve := some page }
  set_page page fun p => { p with reserve := some freepage, has_reserve := true }
  set_page freepage fun p => { p with has_reserve := true }
  enqueue_fifo .disk_reserve_list freepage
  enqueue_fifo .inactive_list page

/-- `lrudisk_swapin_external` (`disklinux.c:117`). -/
def lrudisk_swapin_external (fuel : ℕ) (page : PageId) : Proc α Unit := do
  let file_offset := (← get_page page).virtual_offset
  let freepage ← fetch_free_asynch fuel
  check ((← get_page freepage).in_dram) .freepage_in_dram
  lrudisk_detach_page page
  let offset := (← get_page freepage).virtual_offset
  extmem_migrate_updisk page offset
  -- now that the new page is in memory release the page in disk
  set_page freepage fun p =>
    { p with
      virtual_offset := file_offset, in_dram := false, swapped_out := true
      migrating := false }
  link_reserve page freepage

/-- `lrudisk_swapin_external_async` (`disklinux.c:166`): detach the page first, fetch
the frame between the two halves of the transfer. -/
def lrudisk_swapin_external_async (fuel : ℕ) (page : PageId) : Proc α Unit := do
  let file_offset := (← get_page page).virtual_offset
  lrudisk_detach_page page
  -- ensure page state is consistent for async migration
  if (← get_page page).in_dram then
    set_page page fun p => { p with in_dram := false }
  core_migrate_up_async_start page
  let freepage ← fetch_free_asynch fuel
  check ((← get_page freepage).in_dram) .freepage_in_dram
  let offset := (← get_page freepage).virtual_offset
  core_migrate_up_async_finish page offset
  -- now that the new page is in memory release the page in disk
  set_page freepage fun p =>
    { p with
      virtual_offset := file_offset, in_dram := false, swapped_out := true
      migrating := false }
  link_reserve page freepage

/-- `lrudisk_ack_swapin` (`disklinux.c:229`). -/
def lrudisk_ack_swapin (page freepage : PageId) : Proc α Unit := do
  let offset := (← get_page freepage).virtual_offset
  let file_offset := (← get_page page).virtual_offset
  check ((← get_page freepage).in_dram) .freepage_in_dram
  check ((← get_page freepage).list = none) .freepage_list
  check ((← get_page page).swapped_out) .ack_page
  check ((← get_page page).migrating) .ack_page
  check ((← get_page page).list = none) .ack_page
  set_page freepage fun p =>
    { p with
      virtual_offset := file_offset, in_dram := false, swapped_out := true
      migrating := false }
  set_page page fun p => { p with virtual_offset := offset }
  link_reserve page freepage

/-! ## Removal and initialisation -/

/-- `lrudisk_remove_page` (`disklinux.c:1181`). Its first loop waits for a page that
is on no list to be put somewhere, which only another thread can do. -/
def lrudisk_remove_page (page : PageId) : Proc α Unit := do
  set_page page fun p => { p with migrating := true }
  let ret ← page_list_tryremove_page (← get_page page).list page
  check (ret = 0) .hang
  set_page page fun p => { p with present := false, va := 0 }
  if (← get_page page).in_dram then
    -- must remove the swap backing as well
    if (← get_page page).has_reserve then
      let reserve_page ← detach_reserve page .hang
      set_page reserve_page fun p =>
        { p with has_reserve := false, reserve := none, present := false }
      enqueue_fifo .disk_free_list reserve_page
      set_page page fun p => { p with has_reserve := false, reserve := none }
    enqueue_fifo .dram_free_list page
  else if (← get_page page).swapped_out then
    set_page page fun p => { p with reserve := none, has_reserve := false }
    enqueue_fifo .disk_free_list page
  else
    throw .configuration
  set_page page fun p => { p with migrating := false }

/-- `calloc` of a page struct with the fields `lrudisk_init` sets. -/
def alloc_page (p : UserPage) : Proc α PageId := do
  let i := (← get_pol).npages
  modify_pol fun s => { s with npages := i + 1, page := Function.update s.page i p }
  pure i

/-- The two loops of `lrudisk_init`, from counter `i` on; `left` iterations remain.
The counter is an `int`, and its increment is undefined at `INT_MAX`. -/
def lrudisk_init_loop (in_dram : Bool) (queue : ListId) : ℕ → ℕ → Proc α Unit
  | 0, _ => pure ()
  | left + 1, i => do
      let p ← alloc_page
        { virtual_offset := i * PAGE_SIZE, in_dram := in_dram, swapped_out := !in_dram }
      enqueue_fifo queue p
      check (i < 2 ^ 31 - 1) .int_overflow
      lrudisk_init_loop in_dram queue left (i + 1)

/-- `lrudisk_init` (`disklinux.c:1250`). -/
def lrudisk_init : Proc α Unit := do
  lrudisk_init_loop true .dram_free_list ((← get_pol).dramsize / PAGE_SIZE) 0
  lrudisk_init_loop false .disk_free_list ((← get_pol).disksize / PAGE_SIZE) 0

end SwapPrefetch
