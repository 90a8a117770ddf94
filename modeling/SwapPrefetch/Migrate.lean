/-
Moving one page between DRAM and the store: the migration routines of
`src/core.c`, in the build the Makefile produces (`USWAP_RDMA`, no `USWAP_IOURING`).

The routines here change the page itself -- its offset, its flags and its mapping --
and leave the lists to the policy, which calls them. Timing, statistics and the
`handler_lock` sections are not modelled: the operations run one at a time.
-/
import SwapPrefetch.Paging

set_option autoImplicit false

namespace SwapPrefetch

open Prog

variable {α : Type}

/-! ## Up: from the store to DRAM -/

/-- `extmem_migrate_updisk` (`src/core.c:688`): read the page into the thread's
buffer, map the buffer, and give the page its DRAM offset. -/
def extmem_migrate_updisk (page : PageId) (dram_offset : ℕ) : Proc α Unit := do
  check (¬ (← get_page page).in_dram) .migrate_up_in_dram
  let disk_addr_offset := (← get_page page).virtual_offset
  check (disk_addr_offset < (← get_pol).disksize) .disk_bound
  check (dram_offset < (← get_pol).dramsize) .dram_bound
  let buffer ← extmem_disk_read disk_addr_offset (← get_mem).buffer_space
  modify_mem fun m => { m with buffer_space := buffer }
  let ret ← uffdio_copy (← get_page page).va (← get_mem).buffer_space
  check (ret ≠ -1) .uffdio_copy
  check ((← get_page page).va % PAGE_SIZE = 0) .bad_va
  set_page page fun p => { p with virtual_offset := dram_offset, in_dram := true }

/-- `core_migrate_up_async_start` (`src/core.c:790`). Without io_uring its transfer
branch only logs, so nothing is read here. -/
def core_migrate_up_async_start (page : PageId) : Proc α Unit := do
  check (¬ (← get_page page).in_dram) .migrate_up_in_dram
  let disk_addr_offset := (← get_page page).virtual_offset
  check (disk_addr_offset < (← get_pol).disksize) .disk_bound
  check (disk_addr_offset + PAGE_SIZE ≤ (← get_pol).disksize) .disk_bound

/-- `core_migrate_up_async_finish` (`src/core.c:857`). Without io_uring it does not
read either: what is mapped is whatever the thread's buffer holds. -/
def core_migrate_up_async_finish (page : PageId) (dram_offset : ℕ) : Proc α Unit := do
  check (¬ (← get_page page).in_dram) .migrate_up_in_dram
  let disk_addr_offset := (← get_page page).virtual_offset
  check (disk_addr_offset < (← get_pol).disksize) .disk_bound
  check (disk_addr_offset + PAGE_SIZE ≤ (← get_pol).disksize) .disk_bound
  check (dram_offset < (← get_pol).dramsize) .dram_bound
  check (dram_offset + PAGE_SIZE ≤ (← get_pol).dramsize) .dram_bound
  let ret ← uffdio_copy (← get_page page).va (← get_mem).buffer_space
  check (ret ≠ -1) .uffdio_copy
  check ((← get_page page).va % PAGE_SIZE = 0) .bad_va
  set_page page fun p => { p with virtual_offset := dram_offset, in_dram := true }

/-! ## Down: from DRAM to the store -/

/-- `extmem_migrate_downdisk` (`src/core.c:958`). Its `need_wp` argument is not read. -/
def extmem_migrate_downdisk (page : PageId) (disk_offset : ℕ) (writeback : Bool) :
    Proc α Unit := do
  set_page page fun p => { p with migrating := true }
  check ((← get_page page).in_dram) .migrate_down_in_dram
  let old_addr_offset := (← get_page page).virtual_offset
  check (old_addr_offset < (← get_pol).dramsize) .dram_bound
  check (old_addr_offset + PAGE_SIZE ≤ (← get_pol).dramsize) .dram_bound
  check (disk_offset < (← get_pol).disksize) .disk_bound
  check (disk_offset + PAGE_SIZE ≤ (← get_pol).disksize) .disk_bound
  -- the policy may decide that writeback is not needed
  if writeback then
    extmem_disk_write (← get_page page).va disk_offset
  madvise_dontneed (← get_page page).va
  set_page page fun p => { p with virtual_offset := disk_offset, in_dram := false }
  check ((← get_page page).swapped_out = false) .swapped_out
  set_page page fun p => { p with swapped_out := true }
  check ((← get_page page).migrating) .migrating

/-- `lrudisk_migrate_down` (`src/policies/disklinux.c:51`). -/
def lrudisk_migrate_down (page : PageId) (offset : ℕ) (need_wp writeback : Bool) :
    Proc α Unit := do
  set_page page fun p => { p with migrating := true }
  -- don't write-protect again if it is done somewhere else
  if need_wp then
    extmem_wp_page page true
  extmem_migrate_downdisk page offset writeback

/-- One victim of a batch, with the entries of the worker's parallel arrays. -/
structure Victim where
  page : PageId
  old_offset : ℕ
  writeback : Bool
  diskpage : PageId := 0
deriving DecidableEq, Repr

/-- The write loop of `extmem_migrate_downdisk_vector`. -/
def downdisk_vector_write : List Victim → Proc α Unit
  | [] => pure ()
  | v :: vs => do
      check ((← get_page v.page).in_dram) .migrate_down_in_dram
      if v.writeback then
        let new_addr := (← get_page v.diskpage).virtual_offset
        extmem_disk_write (← get_page v.page).va new_addr
      downdisk_vector_write vs

/-- The `madvise` loop of `extmem_migrate_downdisk_vector`. -/
def downdisk_vector_discard : List Victim → Proc α Unit
  | [] => pure ()
  | v :: vs => do
      madvise_dontneed (← get_page v.page).va
      downdisk_vector_discard vs

/-- The flag loop of `extmem_migrate_downdisk_vector`. -/
def downdisk_vector_mark : List Victim → Proc α Unit
  | [] => pure ()
  | v :: vs => do
      check ((← get_page v.page).swapped_out = false) .swapped_out
      set_page v.page fun p => { p with swapped_out := true }
      check ((← get_page v.page).migrating) .migrating
      downdisk_vector_mark vs

/-- `extmem_migrate_downdisk_vector` (`src/core.c:1048`). Unlike the scalar routine
it assigns neither `virtual_offset` nor `in_dram` of the victims. -/
def extmem_migrate_downdisk_vector (victims : List Victim) : Proc α Unit := do
  downdisk_vector_write victims
  downdisk_vector_discard victims
  downdisk_vector_mark victims

end SwapPrefetch
