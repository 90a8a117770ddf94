/-
The pointer prefetcher of `src/pointer_prefetch.c`, and the major fault that consults it.

`async_prefetch_page` copies an evicted page from its slot to a remote buffer of its own and
keeps a record for the address; `handle_page_fault_with_prefetch` maps that copy when the
page is next faulted in. The records are a list with the newest first, and `record` in the
source is always the first one for its address, so it is named by the address here.

The RDMA layer is seen through its outcomes: `Channel` says, for one call, what the
allocations and the requests it makes return. A request that completes has delivered its own
data (`remote` is the memory of the prefetch buffers), and a read below the base of the
remote memory is refused, as `rdma_server_handle_request` does. Calls of `rdma_sim_free` are
recorded and have no other effect: which addresses the allocator hands out is part of
`Channel`. The statistics are left out, and `pointer_prefetch_init` has run.

After a regular swap-in `handle_missing_fault` may go on to call `async_prefetch_page` and
`core_try_prefetch`; these are events of their own here, in any order.
-/
import SwapPrefetch.Core
import SwapPrefetch.RdmaAlloc

set_option autoImplicit false

namespace SwapPrefetch

open Prog

variable {α β : Type}

/-- `prefetch_status_e`. -/
inductive PrefetchStatus where
  | NONE
  | REQUESTED
  | IN_PROGRESS
  | COMPLETED
  | FAILED
deriving DecidableEq, Repr

/-- `prefetch_record_t`. -/
structure PrefetchRecord where
  source_va : ℕ
  target_va : ℕ
  pointer_value : ℕ
  remote_addr : ℕ := 0
  rdma_request_id : ℕ := 0
  status : PrefetchStatus := .REQUESTED
  timestamp : ℕ := 0
deriving DecidableEq, Repr

/-- What the allocations and the requests of one call return. -/
structure Channel where
  /-- `rdma_sim_allocate(PAGE_SIZE)` -/
  allocate : Option ℕ := none
  /-- `malloc` of a record, and of the buffer of a transfer -/
  record_malloc : Bool := true
  temp_malloc : Bool := true
  timestamp : ℕ := 0
  /-- the number of the write to the prefetch buffer, `0` if it is rejected, and whether the
  wait for it succeeds -/
  write_id : ℕ := 1
  write_done : Bool := true
  /-- the same for the read from the prefetch buffer -/
  read_id : ℕ := 1
  read_done : Bool := true

/-- Ghost: a fault that was served from the cache. -/
structure Hit (α : Type) where
  va : ℕ
  data : α
  /-- the bytes the page had when its mapping was last dropped -/
  last_evicted : Option α
deriving DecidableEq

/-- The state of the prefetcher. `hits` is a ghost. -/
structure Prefetcher (α : Type) where
  records : List PrefetchRecord := []
  remote : ℕ → α
  freed : List ℕ := []
  hits : List (Hit α) := []

/-- The pager together with the prefetcher. -/
structure World (α : Type) where
  pager : State α
  prefetcher : Prefetcher α

/-- A routine that may use both. -/
abbrev WProc (α β : Type) : Type := Prog Fault (World α) β

/-- Run a routine of the pager. -/
def on_pager (m : Proc α β) : WProc α β := fun w =>
  (m.run w.pager).map fun x => (x.1, { w with pager := x.2 })

/-- Update the state of the prefetcher. -/
def modify_prefetcher (f : Prefetcher α → Prefetcher α) : WProc α Unit :=
  modify fun w => { w with prefetcher := f w.prefetcher }

/-! ## Records -/

/-- `find_prefetch_record` (`src/pointer_prefetch.c:400`). -/
def find_prefetch_record (target_va : ℕ) : WProc α (Option PrefetchRecord) := do
  pure ((← get).prefetcher.records.find? fun r => r.target_va = target_va)

/-- Assign to fields of the first record for an address. -/
def update_record (target_va : ℕ) (f : PrefetchRecord → PrefetchRecord) :
    List PrefetchRecord → List PrefetchRecord
  | [] => []
  | r :: rest =>
      if r.target_va = target_va then f r :: rest else r :: update_record target_va f rest

/-- Assign to fields of the record for an address. -/
def set_record (target_va : ℕ) (f : PrefetchRecord → PrefetchRecord) : WProc α Unit :=
  modify_prefetcher fun p => { p with records := update_record target_va f p.records }

/-- A call of `rdma_sim_free`. -/
def rdma_free (remote_addr : ℕ) : WProc α Unit :=
  modify_prefetcher fun p => { p with freed := remote_addr :: p.freed }

/-- `add_prefetch_record` (`src/pointer_prefetch.c:411`). -/
def add_prefetch_record (o : Channel) (source_va target_va pointer_value : ℕ) : WProc α ℤ := do
  let record : PrefetchRecord :=
    { source_va := source_va, target_va := target_va, pointer_value := pointer_value
      timestamp := o.timestamp }
  match ← find_prefetch_record target_va with
  | some _ => do
      -- a second record for the address takes the place of the first, buffer and all
      set_record target_va fun _ => record
      pure 0
  | none =>
      if o.record_malloc then do
        modify_prefetcher fun p => { p with records := record :: p.records }
        pure 0
      else
        pure (-1)

/-! ## Prefetching a page -/

/-- `rdma_read_page` of a whole page, with its result: it fails for an offset that was never
written, and whenever the environment says so. -/
def rdma_read_page (virtual_offset : ℕ) : Proc α (Option α) := do
  if ← io_outcome then
    pure none
  else
    pure ((← get_mem).store virtual_offset)

/-- `transfer_to_prefetch_buffer` (`src/pointer_prefetch.c:155`). -/
def transfer_to_prefetch_buffer (o : Channel) (existing_page : PageId)
    (prefetch_dest_remote_addr target_va : ℕ) : WProc α ℤ := do
  if o.temp_malloc = false then
    pure (-1)
  else
    let virtual_offset := (← on_pager (get_page existing_page)).virtual_offset
    match ← on_pager (rdma_read_page virtual_offset) with
    | none => pure (-1)
    | some data => do
        -- assigned before the number is tested, so a rejected write leaves `0` in the record
        set_record target_va fun r => { r with rdma_request_id := o.write_id }
        if o.write_id = 0 then
          pure (-1)
        else do
          -- the write is waited for only by the fault that uses the record
          modify_prefetcher fun p =>
            { p with remote := Function.update p.remote prefetch_dest_remote_addr data }
          set_record target_va fun r => { r with status := .IN_PROGRESS }
          pure 0

/-- The record for a page that cannot be transferred. -/
def refuse_prefetch (target_va prefetch_dest_remote_addr : ℕ) : WProc α Unit := do
  rdma_free prefetch_dest_remote_addr
  set_record target_va fun r => { r with status := .FAILED, remote_addr := 0 }

/-- `async_prefetch_page` (`src/pointer_prefetch.c:191`). -/
def async_prefetch_page (o : Channel) (target_va source_va : ℕ) : WProc α ℤ := do
  let existing_page ← on_pager (find_page target_va)
  let fields ← match existing_page with
    | some page => do pure (some (← on_pager (get_page page)))
    | none => pure none
  -- already present, or another thread is at it
  if fields.any fun p => !p.swapped_out && p.in_dram then
    pure 0
  else if fields.any fun p => p.migrating then
    pure 0
  else
    let record ← find_prefetch_record target_va
    if record.any fun r => r.status = .IN_PROGRESS ∨ r.status = .COMPLETED then
      pure 0
    else
      -- a record that failed before is used again, with a new buffer
      match o.allocate with
      | none => pure (-1)
      | some prefetch_dest_remote_addr => do
          let ret ← if record.isNone then add_prefetch_record o source_va target_va target_va
            else pure 0
          if ret ≠ 0 then do
            rdma_free prefetch_dest_remote_addr
            pure (-1)
          else do
            set_record target_va fun r =>
              { r with remote_addr := prefetch_dest_remote_addr, status := .REQUESTED }
            match existing_page with
            | none => refuse_prefetch target_va prefetch_dest_remote_addr
            | some page =>
                if (← on_pager (get_page page)).swapped_out then
                  -- the buffer stays allocated when the transfer fails
                  if (← transfer_to_prefetch_buffer o page prefetch_dest_remote_addr
                      target_va) ≠ 0 then
                    set_record target_va fun r => { r with status := .FAILED }
                else
                  refuse_prefetch target_va prefetch_dest_remote_addr
            -- the return value is read off the record
            let record ← find_prefetch_record target_va
            pure (if record.any fun r => r.status = .IN_PROGRESS then 0 else -1)

/-! ## Faults -/

/-- `retrieve_prefetched_data_to_local_buffer` (`src/pointer_prefetch.c:285`), into the
`buffer_space` of the thread. A retrieved record keeps its status and loses its buffer. -/
def retrieve_prefetched_data_to_local_buffer (o : Channel) (target_va : ℕ) : WProc α ℤ := do
  set_record target_va fun r =>
    if r.status = .IN_PROGRESS then
      { r with status := if o.write_done then .COMPLETED else .FAILED }
    else r
  match ← find_prefetch_record target_va with
  | none => pure (-1)
  | some record =>
      if record.status = .COMPLETED then
        -- the server refuses an address below the base, such as the `0` of a record used up
        if o.read_id ≠ 0 ∧ o.read_done ∧ SIM_REMOTE_MEMORY_BASE ≤ record.remote_addr then do
          let data := (← get).prefetcher.remote record.remote_addr
          on_pager (modify_mem fun m => { m with buffer_space := data })
          rdma_free record.remote_addr
          set_record target_va fun r => { r with remote_addr := 0 }
          pure 0
        else do
          set_record target_va fun r => { r with status := .FAILED }
          pure (-1)
      else
        pure (-1)

/-- `handle_page_fault_with_prefetch` (`src/pointer_prefetch.c:337`). -/
def handle_page_fault_with_prefetch (o : Channel) (page : PageId) : WProc α ℤ := do
  let va := (← on_pager (get_page page)).va
  let record ← find_prefetch_record va
  if record.any fun r => r.status = .IN_PROGRESS ∨ r.status = .COMPLETED then
    if (← retrieve_prefetched_data_to_local_buffer o va) = 0 then do
      let mem ← on_pager get_mem
      if (← on_pager (uffdio_copy va mem.buffer_space)) = -1 then do
        -- the buffer is gone already: the page has to be fetched from its slot
        set_record va fun r => { r with status := .FAILED }
        pure (-1)
      else do
        on_pager (set_page page fun p =>
          { p with in_dram := true, swapped_out := false, migrating := false })
        modify_prefetcher fun p =>
          { p with hits :=
              { va := va, data := mem.buffer_space, last_evicted := mem.discarded va } :: p.hits }
        pure 0
    else
      pure (-1)
  else
    pure (-1)

/-- The rest of a major fault, once the page is claimed and was not in the cache. -/
def finish_major_fault (swapin : PageId → Proc α Unit) (page : PageId) (old_va : ℕ) :
    Proc α Unit := do
  swapin page
  check ((← get_page page).va = old_va) .va_changed
  check ((← get_page page).va ≠ 0) .bad_va
  check ((← get_page page).va % PAGE_SIZE = 0) .bad_va
  set_page page fun p => { p with swapped_out := false, migrating := false }

/-- `handle_missing_fault` (`src/core.c:1187`). -/
def handle_missing_fault (o : Channel) (swapin : PageId → Proc α Unit) (page : PageId) :
    WProc α Unit := do
  let old_va := (← on_pager (get_page page)).va
  on_pager (do check (¬ (← get_page page).migrating) .hang)
  if (← on_pager (get_page page)).swapped_out then do
    on_pager (set_page page fun p => { p with migrating := true })
    if (← handle_page_fault_with_prefetch o page) = 0 then
      -- the same assignments as at the end of a regular swap-in
      on_pager (set_page page fun p => { p with swapped_out := false, migrating := false })
    else
      on_pager (finish_major_fault swapin page old_va)

/-! ## Runs -/

/-- The operations of the pager and of the prefetcher. -/
inductive Event (α : Type) where
  /-- an operation of the pager; a major fault looks into the cache first -/
  | pager (op : Op α) (o : Channel)
  /-- a call of `async_prefetch_page` -/
  | async_prefetch_page (target_va source_va : ℕ) (o : Channel)

/-- `uswap_sig_handler` (`src/core.c:168`) with the prefetch cache. -/
def uswap_sig_handler_with_prefetch (o : Channel) (fuel : ℕ) (swapin : PageId → Proc α Unit)
    (fault_addr : ℕ) : WProc α Unit := do
  let page_boundry := fault_addr - fault_addr % PAGE_SIZE
  match ← on_pager (find_page page_boundry) with
  | none => on_pager (handle_first_fault fuel page_boundry)
  | some page =>
      if (← on_pager (get_page page)).swapped_out then
        handle_missing_fault o swapin page
      else
        on_pager (handle_wp_fault page)

/-- Execute one event. -/
def Event.exec (fuel : ℕ) : Event α → WProc α Unit
  | .pager (.fault addr async buffer) o =>
      if addr < PAGE_SIZE then pure ()
      else do
        on_pager (modify_mem fun m => { m with buffer_space := buffer })
        uswap_sig_handler_with_prefetch o fuel (page_swapin fuel async) addr
  | .pager op _ => on_pager (op.exec fuel)
  | .async_prefetch_page target_va source_va o => do
      let _ ← SwapPrefetch.async_prefetch_page o target_va source_va
      pure ()

/-- The state before `lrudisk_init`, with no records. -/
def World.blank (dramsize disksize : ℕ) (zero : α) (env : Env α) : World α :=
  { pager := State.blank dramsize disksize zero env, prefetcher := { remote := fun _ => zero } }

/-- Execute a run of events, each with the fuel of its frame search. -/
def exec_events (r : List (ℕ × Event α)) : WProc α Unit :=
  Prog.runs (r.map fun x => x.2.exec x.1)

/-- `w` is reached from `lrudisk_init` by the events of `r`. -/
def WReaches (dramsize disksize : ℕ) (zero : α) (env : Env α) (r : List (ℕ × Event α))
    (w : World α) : Prop :=
  (do on_pager lrudisk_init; exec_events r : WProc α Unit).run
    (World.blank dramsize disksize zero env) = .ok ((), w)

end SwapPrefetch
