/-
The threads of the pager: fault handlers, `kswapd`, eviction workers and `munmap`, interleaved.

`Core` runs one operation at a time. Here each thread is at a point of its program (`Pc`), and a
step of the machine moves one thread from there to the next point (`act`). A step is one list
operation of `src/fifo.c`, one section under `handler_lock` or `allocator_lock`, or one assignment
to a flag of a page struct, with the reads and the page-table calls that come right before it.
Assignments to a struct that is on no list and has no address are made in one step, as are the
assignments to its links and its offset.

Three things are left open, and a step takes them from its label: what an idle thread does next,
whether the prefetch cache serves a fault, and how many turns the reclaim scans make. The scans of
the source stop after a number of turns that depends on the lengths of the lists; here they may
stop after any number. Page contents are left out (`State Unit`). A thread waits for
`allocator_lock` while another one is inside `extmem_munmap`, which holds it throughout.
-/
import SwapPrefetch.Core
import SwapPrefetch.Ring

set_option autoImplicit false

namespace SwapPrefetch

open Prog

/-! ## Where a thread is -/

/-- What a frame is fetched for. -/
inductive Use where
  /-- `lrudisk_swapin_external_async` of a page -/
  | swapin (page : PageId) (file_offset : ℕ)
  /-- a page that `core_try_prefetch` has claimed, after these jobs -/
  | prefetch (page : PageId) (left page_boundry : ℕ) (jobs : List (PageId × PageId))
  /-- `handle_first_fault` -/
  | first (page_boundry : ℕ)
deriving DecidableEq, Repr

/-- Who evicts. -/
inductive Evictor where
  /-- `lrudisk_evictionworker` -/
  | worker
  /-- `lrudisk_evictionworker_vector`, with the victims that are still to be tracked -/
  | vector (rest : List Victim)
  /-- `fetch_free_asynch`, for a caller that needs a frame -/
  | inline (use : Use)
deriving DecidableEq, Repr

/-- The routine evicts for its own caller. -/
def Evictor.isInline : Evictor → Bool
  | .inline _ => true
  | _ => false

/-- An eviction that has its disk page. -/
structure Eviction where
  victim : PageId
  diskpage : PageId
  /-- the disk page is the reserve of the victim -/
  reserved : Bool
  writeback : Bool
  old_offset : ℕ
  disk_offset : ℕ
deriving DecidableEq, Repr

/-- Where a scan puts a page. -/
inductive Scanned where
  | active
  | inactive
  | cold
deriving DecidableEq, Repr

def Scanned.queue : Scanned → ListId
  | .active => .active_list
  | .inactive => .inactive_list
  | .cold => .eviction_list

/-- The rest of a range that is unmapped, from `page_boundry` on. -/
structure Unmap where
  left : ℕ
  page_boundry : ℕ
  addr : ℕ
  length : ℕ
deriving DecidableEq, Repr

/-- The next page. -/
def Unmap.next (u : Unmap) : Unmap :=
  { u with left := u.left - 1, page_boundry := u.page_boundry + PAGE_SIZE }

/-- The point that a thread has reached: what it does next. -/
inductive Pc where
  | idle
  /-- `while (page->migrating);` -/
  | wait (page : PageId)
  -- `handle_missing_fault`
  | claim (page : PageId)
  | lookup (page : PageId)
  | hit_in_dram (page : PageId)
  | hit_swapped_out (page : PageId)
  | hit_migrating (page : PageId)
  | finish_hit (page : PageId)
  | detach (page : PageId)
  | start (page : PageId) (file_offset : ℕ)
  -- `fetch_free_asynch`
  | fetch (use : Use)
  | reclaim (use : Use)
  | inline (use : Use)
  | got (use : Use) (freepage : PageId)
  -- the end of a swap-in; `jobs` are the jobs of `core_try_prefetch` that are left
  | slot (page freepage : PageId) (file_offset : ℕ)
  | link (page freepage : PageId) (jobs : Option (List (PageId × PageId)))
  | enter (page : PageId) (jobs : Option (List (PageId × PageId)))
  | in_dram (page : PageId) (jobs : List (PageId × PageId))
  | finish (page : PageId) (jobs : Option (List (PageId × PageId)))
  -- `core_try_prefetch`
  | select (left page_boundry : ℕ) (jobs : List (PageId × PageId))
  | claim_next (page : PageId) (left page_boundry : ℕ) (jobs : List (PageId × PageId))
  | detach_next (page : PageId) (left page_boundry : ℕ) (jobs : List (PageId × PageId))
  | read (jobs : List (PageId × PageId))
  | copy (jobs : List (PageId × PageId))
  | ack (page freepage : PageId) (jobs : List (PageId × PageId))
  -- the reclaim scans, of `kswapd` or of a thread that needs a frame
  | kswapd
  | examine (page : PageId) (use : Option Use)
  | put (page : PageId) (result : Scanned) (use : Option Use)
  -- an eviction
  | evict (victim : PageId) (who : Evictor)
  | protect (victim : PageId) (who : Evictor)
  | backing (victim : PageId) (writeback : Bool) (who : Evictor)
  | down (victim diskpage : PageId) (reserved writeback : Bool) (who : Evictor)
  | write (e : Eviction) (who : Evictor)
  | out (e : Eviction) (who : Evictor)
  | mark (e : Eviction) (who : Evictor)
  | return_frame (e : Eviction) (who : Evictor)
  | to_disk (e : Eviction) (who : Evictor)
  | evicted (e : Eviction) (who : Evictor)
  | release (e : Eviction) (who : Evictor)
  | settle (e : Eviction) (who : Evictor)
  -- `lrudisk_evictionworker_vector`
  | vector_prepare (victims : List PageId) (done : List Victim)
  | vector_protect (victim : PageId) (old_offset : ℕ) (victims : List PageId) (done : List Victim)
  | vector_diskpages (victims done : List Victim)
  | vector_write (victims : List Victim)
  | vector_mark (victims : List Victim)
  | vector_track (victims : List Victim)
  -- `handle_first_fault`
  | insert (page_boundry : ℕ) (newpage : PageId)
  | put_free (newpage page : PageId)
  | map (newpage : PageId)
  | first_migrating (newpage : PageId)
  | first_swapped_out (newpage : PageId)
  | track (newpage : PageId)
  -- `extmem_munmap`
  | munmap (u : Unmap)
  | unmap_claim (page : PageId) (u : Unmap)
  | unmap_spin (page : PageId) (u : Unmap)
  | unmap_relock (page : PageId) (u : Unmap)
  | remove_index (page : PageId) (u : Unmap)
  | remove_migrating (page : PageId) (u : Unmap)
  | remove_list (page : PageId) (u : Unmap)
  | remove_va (page : PageId) (u : Unmap)
  | remove_backing (page : PageId) (u : Unmap)
  | remove_reserve (page reserve_page : PageId) (u : Unmap)
  | remove_free (page : PageId) (in_dram : Bool) (u : Unmap)
  | remove_done (page : PageId) (u : Unmap)
  | libc_munmap (u : Unmap)
deriving DecidableEq, Repr

/-- What the label of a step says. -/
inductive Choice where
  /-- go on -/
  | go
  /-- the prefetch cache has the page -/
  | hit
  /-- one more turn of a scan -/
  | scan_inactive
  | scan_active
  /-- the priority of a frame search is used up -/
  | give_up
  -- what an idle thread begins
  | fault (fault_addr : ℕ)
  | populate (page_boundry : ℕ)
  | try_prefetch (base_boundry : ℕ)
  | kswapd
  | evictionworker
  | evictionworker_vector
  | munmap (addr length : ℕ)
deriving DecidableEq, Repr

/-! ## The steps -/

namespace Threads

/-- What an idle thread begins. -/
def dispatch : Choice → Proc Unit Pc
  | .fault fault_addr => do
      let page_boundry := fault_addr - fault_addr % PAGE_SIZE
      match ← find_page page_boundry with
      | none => do
          check (page_boundry ≠ 0) .bad_va
          pure (.fetch (.first page_boundry))
      | some page =>
          if (← get_page page).swapped_out then pure (.claim page) else pure (.wait page)
  | .populate page_boundry => do
      check (page_boundry ≠ 0) .bad_va
      pure (.fetch (.first page_boundry))
  | .try_prefetch base_boundry => do
      check (base_boundry ≠ 0) .bad_va
      pure (.select CORE_PREFETCH_RATE base_boundry [])
  | .kswapd => pure .kswapd
  | .evictionworker => do
      match ← dequeue_fifo .eviction_list with
      | none => pure .idle
      | some victim => pure (.evict victim .worker)
  | .evictionworker_vector => do
      let victims ← dequeue_fifo_vector .eviction_list EVICT_VECTOR_SIZE
      pure (.vector_prepare victims [])
  | .munmap addr length => do
      let stop := (addr + length) % 2 ^ 64
      check (stop ≤ 2 ^ 64 - PAGE_SIZE) .hang
      pure (.munmap
        { left := (stop - addr + (PAGE_SIZE - 1)) / PAGE_SIZE, page_boundry := addr, addr := addr
          length := length })
  | _ => pure .idle

def wait (page : PageId) : Proc Unit Pc := do
  if (← get_page page).migrating then pure (.wait page) else pure .idle

/-! ### `handle_missing_fault` (`src/core.c:1187`) -/

/-- Critical section, check no other thread is handling the same page. -/
def claim (page : PageId) : Proc Unit Pc := do
  if (← get_page page).migrating then pure (.wait page)
  else if (← get_page page).swapped_out = false then pure (.wait page)
  else do
    set_page page fun p => { p with migrating := true }
    pure (.lookup page)

/-- `handle_page_fault_with_prefetch`. -/
def lookup (hit : Bool) (page : PageId) : Proc Unit Pc := do
  if hit then
    let ret ← uffdio_copy (← get_page page).va ()
    if ret = -1 then pure (.detach page) else pure (.hit_in_dram page)
  else pure (.detach page)

def hit_in_dram (page : PageId) : Proc Unit Pc := do
  set_page page fun p => { p with in_dram := true }
  pure (.hit_swapped_out page)

def hit_swapped_out (page : PageId) : Proc Unit Pc := do
  set_page page fun p => { p with swapped_out := false }
  pure (.hit_migrating page)

def hit_migrating (page : PageId) : Proc Unit Pc := do
  set_page page fun p => { p with migrating := false }
  pure (.finish_hit page)

/-- The critical section after a hit. It assigns both flags once more. -/
def finish_hit (page : PageId) : Proc Unit Pc := do
  set_page page fun p => { p with swapped_out := false, migrating := false }
  pure .idle

/-! ### `lrudisk_swapin_external_async` (`src/policies/disklinux.c:166`) -/

def detach (page : PageId) : Proc Unit Pc := do
  let file_offset := (← get_page page).virtual_offset
  lrudisk_detach_page page
  pure (.start page file_offset)

def start (page : PageId) (file_offset : ℕ) : Proc Unit Pc := do
  -- ensure page state is consistent for async migration
  if (← get_page page).in_dram then
    set_page page fun p => { p with in_dram := false }
  core_migrate_up_async_start page
  pure (.fetch (.swapin page file_offset))

/-- The frame's struct takes over the disk slot. -/
def slot (page freepage : PageId) (file_offset : ℕ) : Proc Unit Pc := do
  set_page freepage fun p =>
    { p with
      virtual_offset := file_offset, in_dram := false, swapped_out := true
      migrating := false }
  pure (.link page freepage none)

def link (page freepage : PageId) (jobs : Option (List (PageId × PageId))) : Proc Unit Pc := do
  set_page freepage fun p => { p with reserve := some page }
  set_page page fun p => { p with reserve := some freepage, has_reserve := true }
  set_page freepage fun p => { p with has_reserve := true }
  enqueue_fifo .disk_reserve_list freepage
  pure (.enter page jobs)

def enter (page : PageId) (jobs : Option (List (PageId × PageId))) : Proc Unit Pc := do
  enqueue_fifo .inactive_list page
  match jobs with
  | none => pure (.finish page none)
  | some jobs => pure (.in_dram page jobs)

/-- The last critical section of `handle_missing_fault`, and of a job of `core_try_prefetch`. -/
def finish (page : PageId) (jobs : Option (List (PageId × PageId))) : Proc Unit Pc := do
  set_page page fun p => { p with swapped_out := false, migrating := false }
  match jobs with
  | none => pure .idle
  | some jobs => pure (.copy jobs)

/-! ### The reclaim scans (`src/policies/disklinux.c:310`) -/

/-- A scan takes a page off its list. -/
def scan (c : Choice) (use : Option Use) (stop again : Pc) : Proc Unit Pc :=
  match c with
  | .scan_inactive => do
      match ← dequeue_fifo .inactive_list with
      | none => pure again
      | some page => pure (.examine page use)
  | .scan_active => do
      match ← dequeue_fifo .active_list with
      | none => pure again
      | some page => do
          set_page page fun p => { p with naccesses := 0 }
          pure (.put page .inactive use)
  | .give_up => throw .out_of_memory
  | _ => pure stop

/-- Where a scan goes on. -/
def scanning : Option Use → Pc
  | none => .kswapd
  | some use => .reclaim use

def examine (page : PageId) (use : Option Use) : Proc Unit Pc := do
  let (accessed, _) ← pt_get_bits page
  if accessed then
    -- page has been accessed, put it back
    set_page page fun p => { p with naccesses := (p.naccesses + 1) % 2 ^ 64 }
    pt_clear_accessed_flag page
    if 1 < (← get_page page).naccesses then
      set_page page fun p => { p with naccesses := 0 }
      pure (.put page .active use)
    else
      pure (.put page .inactive use)
  else
    -- found a cold page, put it on the eviction list
    set_page page fun p => { p with naccesses := 0 }
    pure (.put page .cold use)

def put (page : PageId) (result : Scanned) (use : Option Use) : Proc Unit Pc := do
  enqueue_fifo result.queue page
  pure (scanning use)

/-! ### `fetch_free_asynch` (`src/policies/disklinux.c:970`) -/

def fetch (use : Use) : Proc Unit Pc := do
  match ← dequeue_fifo .dram_free_list with
  | some page => pure (.got use page)
  | none => pure (.reclaim use)

/-- Try to evict one page by yourself. -/
def evict_inline (use : Use) : Proc Unit Pc := do
  match ← dequeue_fifo .eviction_list with
  | some page => pure (.evict page (.inline use))
  | none => pure (.fetch use)

/-- The caller has its frame. -/
def got (freepage : PageId) : Use → Proc Unit Pc
  | .swapin page file_offset => do
      check ((← get_page freepage).in_dram) .freepage_in_dram
      core_migrate_up_async_finish page (← get_page freepage).virtual_offset
      pure (.slot page freepage file_offset)
  | .prefetch page left page_boundry jobs => do
      -- `lrudisk_pagefault`: protect it from being paged out
      set_page freepage fun p => { p with migrating := true }
      pure (.select left page_boundry (jobs ++ [(page, freepage)]))
  | .first page_boundry => do
      set_page freepage fun p => { p with migrating := true }
      pure (.insert page_boundry freepage)

/-! ### `core_try_prefetch` (`src/core.c:1684`) -/

def select (left page_boundry : ℕ) (jobs : List (PageId × PageId)) : Proc Unit Pc :=
  match left with
  | 0 => pure (.read jobs)
  | left + 1 => do
      let page_boundry := (page_boundry + PAGE_SIZE) % 2 ^ 64
      match ← find_page page_boundry with
      | none => pure (.read jobs)
      | some page => do
          check ((← get_page page).va = page_boundry) .va_changed
          pure (.claim_next page left page_boundry jobs)

/-- Critical section, check no other thread is handling the same page. -/
def claim_next (page : PageId) (left page_boundry : ℕ) (jobs : List (PageId × PageId)) :
    Proc Unit Pc := do
  if (← get_page page).migrating then pure (.read jobs)
  else if (← get_page page).swapped_out = false then pure (.read jobs)
  else if (← get_page page).va ≠ page_boundry then pure (.read jobs)
  else do
    set_page page fun p => { p with migrating := true }
    pure (.detach_next page left page_boundry jobs)

def detach_next (page : PageId) (left page_boundry : ℕ) (jobs : List (PageId × PageId)) :
    Proc Unit Pc := do
  check ((← get_page page).va ≠ 0) .bad_va
  lrudisk_detach_page page
  pure (.fetch (.prefetch page left page_boundry jobs))

def read (jobs : List (PageId × PageId)) : Proc Unit Pc := do
  prefetch_read jobs 0
  pure (.copy jobs)

def copy : List (PageId × PageId) → Proc Unit Pc
  | [] => pure .idle
  | (page, freepage) :: jobs => do
      -- a failed copy is only reported
      let _ ← uffdio_copy (← get_page page).va ()
      pure (.ack page freepage jobs)

/-- `lrudisk_ack_swapin`. -/
def ack (page freepage : PageId) (jobs : List (PageId × PageId)) : Proc Unit Pc := do
  let offset := (← get_page freepage).virtual_offset
  let file_offset := (← get_page page).virtual_offset
  check ((← get_page freepage).in_dram) .freepage_in_dram
  check ((← get_page freepage).list = none) .freepage_list
  check ((← get_page page).swapped_out) .ack_page
  check ((← get_page page).migrating) .ack_page
  check ((← get_page page).list = none) .ack_page
  set_page freepage fun p =>
    { p with
      virtual_offset := file_offset, in_dram := false, swapped_out := true
      migrating := false }
  set_page page fun p => { p with virtual_offset := offset }
  pure (.link page freepage (some jobs))

def in_dram (page : PageId) (jobs : List (PageId × PageId)) : Proc Unit Pc := do
  set_page page fun p => { p with in_dram := true }
  pure (.finish page (some jobs))

/-! ### Evictions (`src/policies/disklinux.c:485`, `:1024`) -/

def evict (victim : PageId) (who : Evictor) : Proc Unit Pc := do
  set_page victim fun p => { p with migrating := true }
  pure (.protect victim who)

/-- Critical phase, write protect and check the dirty bit. -/
def protect (victim : PageId) (who : Evictor) : Proc Unit Pc := do
  extmem_wp_page victim true
  let (_, dirty) ← pt_get_bits victim
  pure (.backing victim (dirty || !(← get_page victim).has_reserve) who)

def backing (victim : PageId) (writeback : Bool) (who : Evictor) : Proc Unit Pc := do
  if (← get_page victim).has_reserve then
    -- the page is already swap backed
    let diskpage ← detach_reserve victim .reserve_link
    pure (.down victim diskpage true writeback who)
  else
    -- first time evicting or reserve deleted, allocate in disk
    match ← dequeue_fifo .disk_free_list with
    | none => throw .no_disk_page
    | some diskpage => do
        check (¬ (← get_page diskpage).present) .diskpage_present
        pure (.down victim diskpage false writeback who)

/-- `lrudisk_migrate_down`. -/
def down (victim diskpage : PageId) (reserved writeback : Bool) (who : Evictor) :
    Proc Unit Pc := do
  let old_offset := (← get_page victim).virtual_offset
  let disk_offset := (← get_page diskpage).virtual_offset
  set_page victim fun p => { p with migrating := true }
  if who.isInline ∧ reserved = false then
    extmem_wp_page victim true
  pure (.write
    { victim := victim, diskpage := diskpage, reserved := reserved, writeback := writeback
      old_offset := old_offset, disk_offset := disk_offset } who)

/-- `extmem_migrate_downdisk` up to its critical section, but for two assignments. -/
def write (e : Eviction) (who : Evictor) : Proc Unit Pc := do
  set_page e.victim fun p => { p with migrating := true }
  check ((← get_page e.victim).in_dram) .migrate_down_in_dram
  let old_addr_offset := (← get_page e.victim).virtual_offset
  check (old_addr_offset < (← get_pol).dramsize) .dram_bound
  check (old_addr_offset + PAGE_SIZE ≤ (← get_pol).dramsize) .dram_bound
  check (e.disk_offset < (← get_pol).disksize) .disk_bound
  check (e.disk_offset + PAGE_SIZE ≤ (← get_pol).disksize) .disk_bound
  if e.writeback then
    extmem_disk_write (← get_page e.victim).va e.disk_offset
  madvise_dontneed (← get_page e.victim).va
  pure (.out e who)

def out (e : Eviction) (who : Evictor) : Proc Unit Pc := do
  set_page e.victim fun p => { p with virtual_offset := e.disk_offset, in_dram := false }
  pure (.mark e who)

/-- The critical section of `extmem_migrate_downdisk`. -/
def mark (e : Eviction) (who : Evictor) : Proc Unit Pc := do
  check ((← get_page e.victim).swapped_out = false) .swapped_out
  set_page e.victim fun p => { p with swapped_out := true }
  check ((← get_page e.victim).migrating) .migrating
  if e.reserved then pure (.return_frame e who) else pure (.to_disk e who)

/-- The disk page takes over the frame. The caller of `fetch_free_asynch` keeps it, the workers
put it on `dram_free_list`. -/
def return_frame (e : Eviction) (who : Evictor) : Proc Unit Pc := do
  if e.reserved then
    set_page e.diskpage fun p =>
      { p with
        virtual_offset := e.old_offset, in_dram := true, present := false
        has_reserve := false, reserve := none }
    set_page e.victim fun p => { p with has_reserve := false, reserve := none }
  else
    set_page e.diskpage fun p =>
      { p with virtual_offset := e.old_offset, in_dram := true, present := false }
  if who.isInline = false then
    enqueue_fifo .dram_free_list e.diskpage
  -- with a reserve the frame comes first, without one the victim
  if e.reserved then pure (.to_disk e who) else pure (.evicted e who)

def to_disk (e : Eviction) (who : Evictor) : Proc Unit Pc := do
  if who.isInline ∧ e.reserved = false then
    check ((← get_page e.victim).swapped_out) .swapped_out
  enqueue_fifo .disk_active_list e.victim
  if e.reserved then pure (.evicted e who) else pure (.return_frame e who)

def evicted (e : Eviction) (who : Evictor) : Proc Unit Pc := do
  if who.isInline ∧ e.reserved = false then pure (.release e who)
  else do
    check ((← get_page e.victim).migrating) .migrating
    check ((← get_page e.victim).swapped_out) .swapped_out
    pure (.release e who)

/-- After an eviction: the worker takes the next victim, the caller of `fetch_free_asynch` has its
frame. -/
def evict_next (diskpage : PageId) : Evictor → Pc
  | .worker => .idle
  | .vector rest => .vector_track rest
  | .inline use => .got use diskpage

def release (e : Eviction) (who : Evictor) : Proc Unit Pc := do
  set_page e.victim fun p => { p with migrating := false }
  if who.isInline ∧ e.reserved = false then pure (evict_next e.diskpage who)
  else pure (.settle e who)

/-- The last assignment of an eviction. The flag has been set before. -/
def settle (e : Eviction) (who : Evictor) : Proc Unit Pc := do
  set_page e.victim fun p => { p with swapped_out := true }
  pure (evict_next e.diskpage who)

/-! ### `lrudisk_evictionworker_vector` (`src/policies/disklinux.c:631`) -/

def vector_prepare (victims : List PageId) (done : List Victim) : Proc Unit Pc :=
  match victims with
  | [] => pure (.vector_diskpages done [])
  | victim :: victims => do
      set_page victim fun p => { p with migrating := true }
      pure (.vector_protect victim (← get_page victim).virtual_offset victims done)

def vector_protect (victim : PageId) (old_offset : ℕ) (victims : List PageId) (done : List Victim) :
    Proc Unit Pc := do
  extmem_wp_page victim true
  let (_, dirty) ← pt_get_bits victim
  let writeback := dirty || !(← get_page victim).has_reserve
  pure (.vector_prepare victims
    (done ++ [{ page := victim, old_offset := old_offset, writeback := writeback }]))

def vector_diskpages (victims done : List Victim) : Proc Unit Pc :=
  match victims with
  | [] => pure (.vector_write done)
  | v :: victims => do
      if (← get_page v.page).has_reserve then
        let diskpage ← detach_reserve v.page .reserve_link
        pure (.vector_diskpages victims (done ++ [{ v with diskpage := diskpage }]))
      else
        match ← dequeue_fifo .disk_free_list with
        | none => throw .no_disk_page
        | some diskpage => do
            check (¬ (← get_page diskpage).present) .diskpage_present
            pure (.vector_diskpages victims (done ++ [{ v with diskpage := diskpage }]))

def vector_write (victims : List Victim) : Proc Unit Pc := do
  downdisk_vector_write victims
  downdisk_vector_discard victims
  pure (.vector_mark victims)

/-- The critical section of `extmem_migrate_downdisk_vector`. -/
def vector_mark (victims : List Victim) : Proc Unit Pc := do
  downdisk_vector_mark victims
  pure (.vector_track victims)

def vector_track : List Victim → Proc Unit Pc
  | [] => pure .idle
  | v :: victims => do
      let e : Eviction :=
        { victim := v.page, diskpage := v.diskpage, reserved := (← get_page v.page).has_reserve
          writeback := v.writeback, old_offset := v.old_offset, disk_offset := 0 }
      if e.reserved then pure (.return_frame e (.vector victims))
      else do
        check (¬ (← get_page v.diskpage).present) .diskpage_present
        pure (.to_disk e (.vector victims))

/-! ### `handle_first_fault` (`src/core.c:1387`) -/

/-- The section under `allocator_lock`. -/
def insert (page_boundry : ℕ) (newpage : PageId) : Proc Unit Pc := do
  match ← find_page page_boundry with
  | some page => pure (.put_free newpage page)
  | none => do
      set_page newpage fun p => { p with migrating := true, swapped_out := false }
      check ((← get_page newpage).va = 0) .va_zero
      set_page newpage fun p => { p with va := page_boundry }
      check ((← get_page newpage).va ≠ 0) .bad_va
      check ((← get_page newpage).va % PAGE_SIZE = 0) .bad_va
      add_page newpage
      pure (.map newpage)

def put_free (newpage page : PageId) : Proc Unit Pc := do
  lrudisk_put_page_free newpage
  pure (.wait page)

def map (newpage : PageId) : Proc Unit Pc := do
  check ((← get_page newpage).in_dram) .first_fault_in_dram
  let ret ← uffdio_copy (← get_page newpage).va ()
  check (ret ≠ -1) .uffdio_copy
  pure (.first_migrating newpage)

def first_migrating (newpage : PageId) : Proc Unit Pc := do
  set_page newpage fun p => { p with migrating := false }
  pure (.first_swapped_out newpage)

def first_swapped_out (newpage : PageId) : Proc Unit Pc := do
  set_page newpage fun p => { p with swapped_out := false }
  pure (.track newpage)

def track (newpage : PageId) : Proc Unit Pc := do
  lrudisk_track_page newpage
  modify_pol fun s => s.account PAGE_SIZE 0
  pure .idle

/-! ### `extmem_munmap` (`src/core.c:601`) and `lrudisk_remove_page` -/

def munmap (u : Unmap) : Proc Unit Pc := do
  if u.left = 0 then pure (.libc_munmap u)
  else
    match ← find_page u.page_boundry with
    | none => pure (.munmap u.next)
    | some page => pure (.unmap_claim page u)

/-- The first critical section. -/
def unmap_claim (page : PageId) (u : Unmap) : Proc Unit Pc := do
  if (← get_page page).migrating then pure (.unmap_spin page u)
  else do
    set_page page fun p => { p with migrating := true }
    pure (.remove_index page u)

def unmap_spin (page : PageId) (u : Unmap) : Proc Unit Pc := do
  if (← get_page page).migrating then pure (.unmap_spin page u) else pure (.unmap_relock page u)

/-- The critical section after the busy wait. It does not look at `migrating` again. -/
def unmap_relock (page : PageId) (u : Unmap) : Proc Unit Pc := do
  set_page page fun p => { p with migrating := true }
  pure (.remove_index page u)

def remove_index (page : PageId) (u : Unmap) : Proc Unit Pc := do
  remove_page page
  pure (.remove_migrating page u)

def remove_migrating (page : PageId) (u : Unmap) : Proc Unit Pc := do
  set_page page fun p => { p with migrating := true }
  pure (.remove_list page u)

/-- The page might actually be on air, then we would wait until it's placed somewhere. -/
def remove_list (page : PageId) (u : Unmap) : Proc Unit Pc := do
  let ret ← page_list_tryremove_page (← get_page page).list page
  if ret = 0 then pure (.remove_va page u) else pure (.remove_list page u)

def remove_va (page : PageId) (u : Unmap) : Proc Unit Pc := do
  set_page page fun p => { p with present := false, va := 0 }
  pure (.remove_backing page u)

def remove_backing (page : PageId) (u : Unmap) : Proc Unit Pc := do
  if (← get_page page).in_dram then
    -- must remove the swap backing as well
    if (← get_page page).has_reserve then
      let reserve_page ← detach_reserve page .hang
      pure (.remove_reserve page reserve_page u)
    else pure (.remove_free page true u)
  else if (← get_page page).swapped_out then
    set_page page fun p => { p with reserve := none, has_reserve := false }
    pure (.remove_free page false u)
  else throw .configuration

def remove_reserve (page reserve_page : PageId) (u : Unmap) : Proc Unit Pc := do
  set_page reserve_page fun p => { p with has_reserve := false, reserve := none, present := false }
  enqueue_fifo .disk_free_list reserve_page
  set_page page fun p => { p with has_reserve := false, reserve := none }
  pure (.remove_free page true u)

def remove_free (page : PageId) (in_dram : Bool) (u : Unmap) : Proc Unit Pc := do
  enqueue_fifo (if in_dram then .dram_free_list else .disk_free_list) page
  pure (.remove_done page u)

def remove_done (page : PageId) (u : Unmap) : Proc Unit Pc := do
  set_page page fun p => { p with migrating := false }
  modify_pol fun s => s.account (2 ^ 64 - PAGE_SIZE) 1
  pure (.munmap u.next)

def unmapped (u : Unmap) : Proc Unit Pc := do
  libc_munmap u.addr u.length
  pure .idle

/-! ## The machine -/

/-- What a thread does at each point. -/
def act (c : Choice) : Pc → Proc Unit Pc
  | .idle => dispatch c
  | .wait page => wait page
  | .claim page => claim page
  | .lookup page => lookup (c = .hit) page
  | .hit_in_dram page => hit_in_dram page
  | .hit_swapped_out page => hit_swapped_out page
  | .hit_migrating page => hit_migrating page
  | .finish_hit page => finish_hit page
  | .detach page => detach page
  | .start page file_offset => start page file_offset
  | .fetch use => fetch use
  | .reclaim use => scan c (some use) (.inline use) (.reclaim use)
  | .inline use => evict_inline use
  | .got use freepage => got freepage use
  | .slot page freepage file_offset => slot page freepage file_offset
  | .link page freepage jobs => link page freepage jobs
  | .enter page jobs => enter page jobs
  | .in_dram page jobs => in_dram page jobs
  | .finish page jobs => finish page jobs
  | .select left page_boundry jobs => select left page_boundry jobs
  | .claim_next page left page_boundry jobs => claim_next page left page_boundry jobs
  | .detach_next page left page_boundry jobs => detach_next page left page_boundry jobs
  | .read jobs => read jobs
  | .copy jobs => copy jobs
  | .ack page freepage jobs => ack page freepage jobs
  | .kswapd => scan c none .idle .kswapd
  | .examine page use => examine page use
  | .put page result use => put page result use
  | .evict victim who => evict victim who
  | .protect victim who => protect victim who
  | .backing victim writeback who => backing victim writeback who
  | .down victim diskpage reserved writeback who => down victim diskpage reserved writeback who
  | .write e who => write e who
  | .out e who => out e who
  | .mark e who => mark e who
  | .return_frame e who => return_frame e who
  | .to_disk e who => to_disk e who
  | .evicted e who => evicted e who
  | .release e who => release e who
  | .settle e who => settle e who
  | .vector_prepare victims done => vector_prepare victims done
  | .vector_protect victim old_offset victims done => vector_protect victim old_offset victims done
  | .vector_diskpages victims done => vector_diskpages victims done
  | .vector_write victims => vector_write victims
  | .vector_mark victims => vector_mark victims
  | .vector_track victims => vector_track victims
  | .insert page_boundry newpage => insert page_boundry newpage
  | .put_free newpage page => put_free newpage page
  | .map newpage => map newpage
  | .first_migrating newpage => first_migrating newpage
  | .first_swapped_out newpage => first_swapped_out newpage
  | .track newpage => track newpage
  | .munmap u => munmap u
  | .unmap_claim page u => unmap_claim page u
  | .unmap_spin page u => unmap_spin page u
  | .unmap_relock page u => unmap_relock page u
  | .remove_index page u => remove_index page u
  | .remove_migrating page u => remove_migrating page u
  | .remove_list page u => remove_list page u
  | .remove_va page u => remove_va page u
  | .remove_backing page u => remove_backing page u
  | .remove_reserve page reserve_page u => remove_reserve page reserve_page u
  | .remove_free page in_dram u => remove_free page in_dram u
  | .remove_done page u => remove_done page u
  | .libc_munmap u => unmapped u

end Threads

/-- The thread is inside `extmem_munmap`, which holds `allocator_lock`. -/
def Pc.inMunmap : Pc → Bool
  | .munmap _ | .unmap_claim _ _ | .unmap_spin _ _ | .unmap_relock _ _ | .remove_index _ _
  | .remove_migrating _ _ | .remove_list _ _ | .remove_va _ _ | .remove_backing _ _
  | .remove_reserve _ _ _ | .remove_free _ _ _ | .remove_done _ _ | .libc_munmap _ => true
  | _ => false

/-- The step begins with `pthread_mutex_lock(&allocator_lock)`. -/
def Pc.locks (c : Choice) : Pc → Bool
  | .idle => match c with
      | .munmap _ _ => true
      | _ => false
  | .insert _ _ => true
  | _ => false

/-- The pages whose `swapped_out` an eviction sets in this step. -/
def Pc.marked : Pc → List PageId
  | .mark e _ => [e.victim]
  | .vector_mark victims => victims.map Victim.page
  | _ => []

/-- The pages that a thread has claimed when it needs a frame. -/
def Use.claims : Use → List PageId
  | .swapin page _ => [page]
  | .prefetch page _ _ jobs => page :: jobs.map Prod.fst
  | .first _ => []

def Evictor.claims : Evictor → List PageId
  | .inline use => use.claims
  | _ => []

/-- The pages that the thread has claimed for a swap-in, up to its last assignment to their
flags. -/
def Pc.claims : Pc → List PageId
  | .lookup page | .hit_in_dram page | .hit_swapped_out page | .hit_migrating page
  | .finish_hit page | .detach page | .start page _ | .slot page _ _ => [page]
  | .fetch use | .reclaim use | .inline use | .got use _ => use.claims
  | .link page _ jobs | .enter page jobs | .finish page jobs =>
      page :: (jobs.getD []).map Prod.fst
  | .in_dram page jobs | .detach_next page _ _ jobs | .ack page _ jobs => page :: jobs.map Prod.fst
  | .select _ _ jobs | .claim_next _ _ _ jobs | .read jobs | .copy jobs => jobs.map Prod.fst
  | .examine _ use | .put _ _ use => (use.map Use.claims).getD []
  | .evict _ who | .protect _ who | .backing _ _ who | .down _ _ _ _ who | .write _ who | .out _ who
  | .mark _ who | .return_frame _ who | .to_disk _ who | .evicted _ who | .release _ who
  | .settle _ who => who.claims
  | _ => []

/-- The threads and the memory they share. -/
structure Threads where
  shared : State Unit
  threads : List Pc
  /-- the assertion at which the process has stopped -/
  fault : Option Fault := none
  /-- ghost: how often an eviction has set `swapped_out` of a page -/
  marks : PageId → ℕ := fun _ => 0
  /-- ghost: the same when a thread last claimed the page for a swap-in -/
  since : ℕ → PageId → ℕ := fun _ _ => 0

/-- A step: which thread makes it, and what is left open. -/
structure Label where
  thread : ℕ
  choice : Choice := .go
deriving DecidableEq, Repr

namespace Threads

/-- The state after a step that ended at `pc'`. -/
def moved (t : ℕ) (pc pc' : Pc) (shared : State Unit) (s : Threads) : Threads :=
  let marks := fun p => s.marks p + pc.marked.count p
  { s with
    shared := shared
    threads := s.threads.set t pc'
    marks := marks
    since := fun t' p => if t' = t ∧ p ∈ pc'.claims ∧ p ∉ pc.claims then marks p else s.since t' p }

/-- One step. After a failed assertion there are none. -/
def step (l : Label) (s : Threads) : Threads :=
  match s.fault, s.threads[l.thread]? with
  | none, some pc =>
      if pc.locks l.choice ∧ s.threads.any Pc.inMunmap then s
      else
        match (act l.choice pc).run s.shared with
        | .ok (pc', shared) => s.moved l.thread pc pc' shared
        | .error e => { s with fault := some e }
  | _, _ => s

/-- `n` idle threads. -/
def idle (shared : State Unit) (n : ℕ) : Threads :=
  { shared := shared, threads := List.replicate n .idle }

/-- The state after a run. -/
def exec (run : List Label) (s : Threads) : Threads := Guarded.exec step run s

end Threads

end SwapPrefetch
