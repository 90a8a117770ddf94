/-
The memory the pager runs on: page structs, the policy's lists, the page table
and the swap store.

`struct user_page` (`src/core.h:160`) is one record per struct that `lrudisk_init`
allocates, named by its allocation index. The intrusive lists of `src/fifo.c` are
kept as sequences, **oldest entry first**: `enqueue_fifo` links at `first`, which is
the end of the sequence, and `dequeue_fifo` takes `last`, which is its head. The
`list` field of a struct is kept beside the sequences, because
`page_list_tryremove_page` decides on it.

Three things stand for what is outside the library:

* the page table holds, for each mapped page, its bytes and the three bits the
  code reads or sets (accessed, dirty, write-protected);
* the swap store is a map from disk offset to the bytes last written there; a
  read of an offset that was never written fails, as `rdma_read_page` does;
* `Env` says what the outside does while a routine runs: what the application
  touches at each point where it can run, and which storage requests and which
  `UFFDIO_COPY` calls fail. Every statement is for all of them.

Page contents are of an arbitrary type `α`. The byte layout only matters to the
pointer codec, which has its own file.
-/
import Mathlib.Tactic
import SwapPrefetch.Prog

set_option autoImplicit false

namespace SwapPrefetch

/-- `PAGE_SIZE` (`src/core.h`). -/
abbrev PAGE_SIZE : ℕ := 4096

/-- A page struct, by its allocation index in `lrudisk_init`. -/
abbrev PageId : Type := ℕ

/-- The eight `struct fifo_list` of `src/policies/disklinux.c:18`. -/
inductive ListId where
  | active_list
  | inactive_list
  | disk_active_list
  | disk_written_list
  | dram_free_list
  | disk_free_list
  | disk_reserve_list
  | eviction_list
deriving DecidableEq, Repr

/-- `struct user_page`. `next` and `prev` are in the sequences, `pt` is always
`BASEP` and `hh` is in `State.pages`. -/
structure UserPage where
  va : ℕ := 0
  virtual_offset : ℕ := 0
  in_dram : Bool := false
  swapped_out : Bool := false
  migrating : Bool := false
  has_reserve : Bool := false
  present : Bool := false
  naccesses : ℕ := 0
  reserve : Option PageId := none
  list : Option ListId := none
deriving DecidableEq, Repr

/-- A mapped page: its bytes, and the bits `pt_get_bits` and `extmem_wp_page` see. -/
structure Pte (α : Type) where
  data : α
  accessed : Bool := false
  dirty : Bool := false
  wp : Bool := false
deriving DecidableEq, Repr

/-- One memory access of the application. -/
inductive Access (α : Type) where
  | read (va : ℕ)
  | write (va : ℕ) (data : α)
deriving Repr

/-- What the outside does while the library runs. A list that is used up stands
for no more accesses and no more failures. -/
structure Env (α : Type) where
  turns : List (List (Access α)) := []
  io_fails : List Bool := []
  copy_fails : List Bool := []

/-- The policy's side of the state: the page structs, the lists they are on, the
page index of `src/core.c`, and the two counters `extmem_munmap` updates. -/
structure Policy where
  dramsize : ℕ
  disksize : ℕ
  npages : ℕ := 0
  page : PageId → UserPage := fun _ => {}
  lists : ListId → List PageId := fun _ => []
  pages : ℕ → Option PageId := fun _ => none
  shrinkage_running : Bool := false
  mem_allocated : ℕ := 0
  pages_freed : ℕ := 0

/-- The contents: the page table, the store, the zero page, the two thread-local
buffers and the environment. `discarded` is a ghost: the bytes a page had when its
mapping was last dropped by an eviction. No routine reads it. -/
structure Mem (α : Type) where
  pte : ℕ → Option (Pte α) := fun _ => none
  store : ℕ → Option α := fun _ => none
  page_cache : α
  buffer_space : α
  prefetch_buffer : ℕ → α
  env : Env α := {}
  discarded : ℕ → Option α := fun _ => none

/-- The state of the pager. -/
structure State (α : Type) where
  pol : Policy
  mem : Mem α

/-- The assertions of the modelled routines, and the two ways a routine can fail
to return when no other thread runs. -/
inductive Fault where
  /-- `enqueue_fifo` on a struct that is already linked. -/
  | entry_linked
  /-- `freepage->in_dram == true` in the swap-in routines. -/
  | freepage_in_dram
  /-- `freepage->list == NULL` in `lrudisk_ack_swapin`. -/
  | freepage_list
  /-- `list == &disk_active_list`, or `ret == 0` after it. -/
  | list_disk_active
  /-- `page->swapped_out`, `migrating` or `list` in `lrudisk_ack_swapin`. -/
  | ack_page
  /-- `diskpage != NULL`, `diskpage->reserve == page`, `list == &disk_reserve_list`,
  or `ret == 0` after it. -/
  | reserve_link
  /-- `!diskpage->present`. -/
  | diskpage_present
  /-- `!page->in_dram` in `extmem_migrate_updisk` and the two async halves. -/
  | migrate_up_in_dram
  /-- `page->in_dram` in `extmem_migrate_downdisk`. -/
  | migrate_down_in_dram
  /-- a disk offset against `disksize`. -/
  | disk_bound
  /-- a DRAM offset against `dramsize`. -/
  | dram_bound
  /-- `page->swapped_out == false` before it is set by an eviction, or
  `page->swapped_out == true` after. -/
  | swapped_out
  /-- `page->migrating` at the end of an eviction. -/
  | migrating
  /-- `UFFDIO_COPY` failed where the caller asserts it does not. -/
  | uffdio_copy
  /-- the source page of a write to the store is not mapped. -/
  | source_unmapped
  /-- an address that is `0` or not page aligned. -/
  | bad_va
  /-- `page->va == 0` in `handle_first_fault` and `lrudisk_put_page_free`. -/
  | va_zero
  /-- `p == NULL` in `add_page`. -/
  | add_page
  /-- `page->list == NULL` in `lrudisk_track_page` and `lrudisk_put_page_free`. -/
  | track_list
  /-- `in_dram` in `handle_first_fault`. -/
  | first_fault_in_dram
  /-- `page->va == old_va` around a swap-in. -/
  | va_changed
  /-- "no other configuration" in `lrudisk_remove_page`. -/
  | configuration
  /-- `libc_munmap` failed. -/
  | libc_munmap
  /-- "no disk page found". -/
  | no_disk_page
  /-- "Out of memory" in `fetch_free_asynch`. -/
  | out_of_memory
  /-- a signed loop counter of `lrudisk_init` overflows. -/
  | int_overflow
  /-- a loop that only another thread could end, or the fuel of one ran out. -/
  | hang
deriving DecidableEq, Repr

/-- A routine of the library. -/
abbrev Proc (α β : Type) : Type := Prog Fault (State α) β

open Prog

variable {α : Type}

/-! ## State updates -/

namespace Policy

/-- Assign to fields of one page struct. -/
def upd (s : Policy) (i : PageId) (f : UserPage → UserPage) : Policy :=
  { s with page := Function.update s.page i (f (s.page i)) }

/-- Link `i` at `first` of the list `q`. -/
def enq (s : Policy) (q : ListId) (i : PageId) : Policy :=
  { s with
    lists := Function.update s.lists q (s.lists q ++ [i])
    page := Function.update s.page i { s.page i with list := some q } }

/-- Unlink `i` from the list `q`, wherever it stands. -/
def unlink (s : Policy) (q : ListId) (i : PageId) : Policy :=
  { s with
    lists := Function.update s.lists q ((s.lists q).erase i)
    page := Function.update s.page i { s.page i with list := none } }

/-- Set the page index at `va`. -/
def setIndex (s : Policy) (va : ℕ) (e : Option PageId) : Policy :=
  { s with pages := Function.update s.pages va e }

/-- Add to the counters, which are 64-bit words. -/
def account (s : Policy) (bytes freed : ℕ) : Policy :=
  { s with
    mem_allocated := (s.mem_allocated + bytes) % 2 ^ 64
    pages_freed := (s.pages_freed + freed) % 2 ^ 64 }

end Policy

namespace Mem

/-- Set the page-table entry of `va`. -/
def setPte (m : Mem α) (va : ℕ) (e : Option (Pte α)) : Mem α :=
  { m with pte := Function.update m.pte va e }

/-- One access of the application. A write to a write-protected page, and any
access to an unmapped one, faults and waits: it has no effect here. -/
def access (m : Mem α) : Access α → Mem α
  | .read va =>
      match m.pte va with
      | some e => m.setPte va (some { e with accessed := true })
      | none => m
  | .write va d =>
      match m.pte va with
      | some e =>
          if e.wp then m
          else m.setPte va (some { e with data := d, accessed := true, dirty := true })
      | none => m

/-- The application runs for one turn. -/
def app_turn (m : Mem α) : Mem α :=
  match m.env.turns with
  | [] => m
  | t :: ts => { t.foldl access m with env := { m.env with turns := ts } }

end Mem

/-- Read the policy's side of the state. -/
def get_pol : Proc α Policy := do
  pure (← get).pol

/-- Read the contents. -/
def get_mem : Proc α (Mem α) := do
  pure (← get).mem

/-- Update the policy's side of the state. -/
def modify_pol (f : Policy → Policy) : Proc α Unit :=
  modify fun s => { s with pol := f s.pol }

/-- Update the contents. -/
def modify_mem (f : Mem α → Mem α) : Proc α Unit :=
  modify fun s => { s with mem := f s.mem }

/-! ## Page structs -/

/-- Assign to fields of a page struct. -/
def set_page (i : PageId) (f : UserPage → UserPage) : Proc α Unit :=
  modify_pol fun s => s.upd i f

/-- The fields of a page struct. -/
def get_page (i : PageId) : Proc α UserPage := do
  pure ((← get_pol).page i)

/-! ## `src/fifo.c` -/

/-- `enqueue_fifo`. The source asserts `entry->prev == NULL`; a linked entry would
leave two lists sharing its links, so every linked entry is a fault here. -/
def enqueue_fifo (queue : ListId) (entry : PageId) : Proc α Unit := do
  check ((← get_page entry).list = none) .entry_linked
  modify_pol fun s => s.enq queue entry

/-- `dequeue_fifo`: the oldest entry, or `NULL`. -/
def dequeue_fifo (queue : ListId) : Proc α (Option PageId) := do
  match (← get_pol).lists queue with
  | [] => pure none
  | ret :: _ =>
      modify_pol fun s => s.unlink queue ret
      pure (some ret)

/-- `dequeue_fifo_vector`: up to `nr_fetch` entries, oldest first. -/
def dequeue_fifo_vector (queue : ListId) : ℕ → Proc α (List PageId)
  | 0 => pure []
  | nr_fetch + 1 => do
      match ← dequeue_fifo queue with
      | none => pure []
      | some page => do
          let rest ← dequeue_fifo_vector queue nr_fetch
          pure (page :: rest)

/-- `page_list_tryremove_page`: `0` when the page was on the list, `-1` otherwise. -/
def page_list_tryremove_page (list : Option ListId) (page : PageId) : Proc α ℤ := do
  match list with
  | none => pure (-1)
  | some q =>
      if (← get_page page).list ≠ some q then
        pure (-1)
      else if (← get_pol).lists q = [] then
        pure (-1)
      else do
        modify_pol fun s => s.unlink q page
        pure 0

/-- `numentries`. -/
def numentries (queue : ListId) : Proc α ℕ := do
  pure ((← get_pol).lists queue).length

/-! ## The page table (`src/observability.c`, `extmem_wp_page`, the ioctls)

The application may run before each of these: every one of them begins with a
turn of it, and no other step of the library reads or changes the page table. -/

/-- The application runs. -/
def app_turn : Proc α Unit := modify_mem Mem.app_turn

/-- `pt_get_bits`: the accessed and the dirty bit. -/
def pt_get_bits (page : PageId) : Proc α (Bool × Bool) := do
  app_turn
  let va := (← get_page page).va
  check (va % PAGE_SIZE = 0) .bad_va
  match (← get_mem).pte va with
  | some e => pure (e.accessed, e.dirty)
  | none => pure (false, false)

/-- `pt_clear_accessed_flag`. -/
def pt_clear_accessed_flag (page : PageId) : Proc α Unit := do
  app_turn
  let va := (← get_page page).va
  check (va % PAGE_SIZE = 0) .bad_va
  match (← get_mem).pte va with
  | some e => modify_mem fun m => m.setPte va (some { e with accessed := false })
  | none => pure ()

/-- `extmem_wp_page`. -/
def extmem_wp_page (page : PageId) (protect : Bool) : Proc α Unit := do
  app_turn
  let va := (← get_page page).va
  check (va ≠ 0) .bad_va
  check (va % PAGE_SIZE = 0) .bad_va
  match (← get_mem).pte va with
  | some e => modify_mem fun m => m.setPte va (some { e with wp := protect })
  | none => pure ()

/-- `ioctl(uffd, UFFDIO_COPY)`: map `data` at `va`. It fails on a page that is
already mapped, and whenever the environment says so. -/
def uffdio_copy (va : ℕ) (data : α) : Proc α ℤ := do
  app_turn
  let fails := (← get_mem).env.copy_fails.headD false
  modify_mem fun m => { m with env := { m.env with copy_fails := m.env.copy_fails.tail } }
  if fails ∨ ((← get_mem).pte va).isSome then
    pure (-1)
  else do
    modify_mem fun m => m.setPte va (some { data := data })
    pure 0

/-- `madvise(va, PAGE_SIZE, MADV_DONTNEED)`: drop the mapping. -/
def madvise_dontneed (va : ℕ) : Proc α Unit := do
  app_turn
  match (← get_mem).pte va with
  | some e =>
      modify_mem fun m =>
        { m.setPte va none with discarded := Function.update m.discarded va (some e.data) }
  | none => pure ()

/-! ## The store (`extmem_disk_write`, `extmem_disk_read`)

Both wrappers return nothing: an error of `write_page` or `read_page` is dropped
and leaves the store, or the destination buffer, as it was. -/

/-- Whether the next storage request fails. -/
def io_outcome : Proc α Bool := do
  let fails := (← get_mem).env.io_fails.headD false
  modify_mem fun m => { m with env := { m.env with io_fails := m.env.io_fails.tail } }
  pure fails

/-- `extmem_disk_write` of the page mapped at `va`. -/
def extmem_disk_write (va : ℕ) (dest : ℕ) : Proc α Unit := do
  app_turn
  match (← get_mem).pte va with
  | none => throw .source_unmapped
  | some e =>
      if ← io_outcome then
        pure ()
      else
        modify_mem fun m => { m with store := Function.update m.store dest (some e.data) }

/-- `extmem_disk_read` into a buffer that holds `dest`; the buffer afterwards. -/
def extmem_disk_read (src : ℕ) (dest : α) : Proc α α := do
  if ← io_outcome then
    pure dest
  else
    pure (((← get_mem).store src).getD dest)

end SwapPrefetch
