/-
What the calls of the pointer prefetcher do to its records and its buffers.

`src/pointer_prefetch.c` updates the status and the buffer of a record separately, in five
functions with many exits. Each call writes at most one record, or drops some. `Writes` says which
one; `async_prefetch_page_cases` and `handle_page_fault_cases` say for every exit what the record is
afterwards and which buffers were released. Everything about runs follows from these two.

The two routines that age records out and clear the list are modelled here too. Their ages are
64-bit differences, so a time before the record's own counts as very old.
-/
import Mathlib.Tactic
import SwapPrefetch.PrefetchHit

set_option autoImplicit false

namespace SwapPrefetch

open Prog

variable {α β : Type}

/-! ## Cleaning up -/

/-- `is_prefetched_page_available` (`src/pointer_prefetch.c:437`). -/
def is_prefetched_page_available (va : ℕ) : WProc α Bool := do
  let record ← find_prefetch_record va
  pure (record.any fun r => r.status = .COMPLETED ∨ r.status = .IN_PROGRESS)

/-- `max_age` of `cleanup_old_prefetch_records`, in microseconds. -/
abbrev max_age : ℕ := 30 * 1000000

/-- `current_time - timestamp`, in 64 bits. -/
def PrefetchRecord.age (r : PrefetchRecord) (current_time : ℕ) : ℕ :=
  (current_time + (2 ^ 64 - r.timestamp % 2 ^ 64)) % 2 ^ 64

/-- Whether `cleanup_old_prefetch_records` removes a record. -/
def PrefetchRecord.remove_record (current_time : ℕ) (r : PrefetchRecord) : Bool :=
  match r.status with
  | .FAILED => true
  | .COMPLETED => max_age < r.age current_time
  | .REQUESTED => max_age < r.age current_time
  | .IN_PROGRESS => max_age * 2 < r.age current_time
  | .NONE => false

/-- The loop of `cleanup_old_prefetch_records`: the records that stay. -/
def sweep (current_time : ℕ) : List PrefetchRecord → WProc α (List PrefetchRecord)
  | [] => pure []
  | current :: rest => do
      if current.remove_record current_time then
        if current.remote_addr ≠ 0 then
          rdma_free current.remote_addr
        sweep current_time rest
      else
        let kept ← sweep current_time rest
        pure (current :: kept)

/-- `cleanup_old_prefetch_records` (`src/pointer_prefetch.c:446`). -/
def cleanup_old_prefetch_records (current_time : ℕ) : WProc α Unit := do
  let kept ← sweep current_time (← get).prefetcher.records
  modify_prefetcher fun p => { p with records := kept }

/-- The loop of `pointer_prefetch_cleanup`. -/
def free_available : List PrefetchRecord → WProc α Unit
  | [] => pure ()
  | current :: rest => do
      if current.status = .IN_PROGRESS ∨ current.status = .COMPLETED then
        if current.remote_addr ≠ 0 then
          rdma_free current.remote_addr
      free_available rest

/-- `pointer_prefetch_cleanup` (`src/pointer_prefetch.c:55`). -/
def pointer_prefetch_cleanup : WProc α Unit := do
  free_available (← get).prefetcher.records
  modify_prefetcher fun p => { p with records := [] }

/-! ## The record of an address -/

section Records

variable {rs rs' l rest : List PrefetchRecord} {r : PrefetchRecord} {va : ℕ}

/-- The record that the routines use for `va` stands between `l` and `rest`. -/
structure Spot (rs : List PrefetchRecord) (va : ℕ) (l : List PrefetchRecord) (r : PrefetchRecord)
    (rest : List PrefetchRecord) : Prop where
  split : rs = l ++ r :: rest
  target : r.target_va = va
  before : ∀ x ∈ l, x.target_va ≠ va

theorem exists_spot (h : (rs.find? fun r => r.target_va = va) = some r) :
    ∃ l rest, Spot rs va l r rest := by
  obtain ⟨htarget, l, rest, hsplit, hbefore⟩ := List.find?_eq_some_iff_append.1 h
  refine ⟨l, rest, hsplit, by simpa using htarget, fun x hx => ?_⟩
  simpa using hbefore x hx

theorem Spot.find (h : Spot rs va l r rest) : (rs.find? fun r => r.target_va = va) = some r := by
  refine List.find?_eq_some_iff_append.2 ⟨by simpa using h.target, l, rest, h.split, ?_⟩
  intro x hx
  simpa using h.before x hx

/-- An assignment to the record. -/
theorem Spot.update (h : Spot rs va l r rest) {f : PrefetchRecord → PrefetchRecord}
    (hf : (f r).target_va = r.target_va) : Spot (update_record va f rs) va l (f r) rest := by
  refine ⟨?_, hf.trans h.target, h.before⟩
  obtain ⟨rfl, htarget, hbefore⟩ := h
  induction l with
  | nil => exact if_pos htarget
  | cons x l ih =>
      have hx : x.target_va ≠ va := hbefore x List.mem_cons_self
      rw [List.cons_append, update_record, if_neg hx, List.cons_append,
        ih fun y hy => hbefore y (List.mem_cons_of_mem _ hy)]

/-- One record is written: an old one is overwritten, or a new one is put in front. -/
structure Writes (rs rs' : List PrefetchRecord) (old : Option PrefetchRecord)
    (new : PrefetchRecord) : Prop where
  split : ∃ l rest, rs = l ++ old.toList ++ rest ∧ rs' = l ++ new :: rest
  target : ∀ r, old = some r → r.target_va = new.target_va
  fresh : old = none → ∀ r ∈ rs, r.target_va ≠ new.target_va

theorem Spot.writes {r' : PrefetchRecord} (h : Spot rs va l r rest) (h' : Spot rs' va l r' rest) :
    Writes rs rs' (some r) r' where
  split := by
    refine ⟨l, rest, ?_, h'.split⟩
    rw [h.split, Option.toList_some, List.append_assoc]
    rfl
  target := by
    rintro x ⟨⟩
    exact h.target.trans h'.target.symm
  fresh := nofun

end Records

/-! ## Prefetching a page -/

/-- `async_prefetch_page` gets as far as asking for a buffer: the page is neither in DRAM nor being
moved, and its record is not available. -/
def World.Asks (w : World α) (target_va : ℕ) : Prop :=
  (∀ p, w.pager.pol.pages target_va = some p →
    ¬ ((w.pager.pol.page p).swapped_out = false ∧ (w.pager.pol.page p).in_dram = true) ∧
      (w.pager.pol.page p).migrating = false) ∧
  ∀ r, w.record target_va = some r → ¬ r.Available

/-- What a call that asks for a buffer and gets this answer does. -/
inductive Prefetched (w w' : World α) (target_va : ℕ) : Option ℕ → Prop
  /-- there is no buffer -/
  | no_buffer (records : w'.prefetcher.records = w.prefetcher.records)
      (freed : w'.prefetcher.freed = w.prefetcher.freed) : Prefetched w w' target_va none
  /-- the new record cannot be allocated -/
  | no_record {a : ℕ} (record : w.record target_va = none)
      (records : w'.prefetcher.records = w.prefetcher.records)
      (freed : w'.prefetcher.freed = a :: w.prefetcher.freed) : Prefetched w w' target_va (some a)
  /-- the record has the buffer, whether the transfer was started or not -/
  | kept {a : ℕ} (new : PrefetchRecord)
      (writes : Writes w.prefetcher.records w'.prefetcher.records (w.record target_va) new)
      (addr : new.remote_addr = a) (freed : w'.prefetcher.freed = w.prefetcher.freed) :
      Prefetched w w' target_va (some a)
  /-- the page cannot be transferred -/
  | refused {a : ℕ} (new : PrefetchRecord)
      (writes : Writes w.prefetcher.records w'.prefetcher.records (w.record target_va) new)
      (addr : new.remote_addr = 0) (status : new.status = .FAILED)
      (freed : w'.prefetcher.freed = a :: w.prefetcher.freed) : Prefetched w w' target_va (some a)

/-! ### The transfer -/

/-- `rdma_read_page` uses up one outcome. -/
theorem run_rdma_read_page (s : State α) (off : ℕ) :
    (rdma_read_page off).run s =
      .ok (if s.mem.env.io_fails.headD false then none else s.mem.store off,
        { s with mem := s.mem.io_done }) := by
  simp only [rdma_read_page, io_outcome, run_bind, run_get_mem, run_modify_mem, ok_bind, run_pure]
  split
  · rfl
  · rfl

/-- The world after a request to the store. -/
def World.io_done (w : World α) : World α :=
  { w with pager := { w.pager with mem := w.pager.mem.io_done } }

/-- The world with other bytes in a buffer. -/
def World.fill (w : World α) (a : ℕ) (data : α) : World α :=
  { w with prefetcher :=
    { w.prefetcher with remote := Function.update w.prefetcher.remote a data } }

/-- What `transfer_to_prefetch_buffer` returns, and what it leaves. -/
inductive Transfers (o : Channel) (page : PageId) (a va : ℕ) (w : World α) : ℤ → World α → Prop
  /-- the temporary page cannot be allocated -/
  | no_page : Transfers o page a va w (-1) w
  /-- the slot cannot be read -/
  | unread : Transfers o page a va w (-1) w.io_done
  /-- the request to write the buffer is refused -/
  | unsent : Transfers o page a va w (-1)
      (w.io_done.setRecord va fun r => { r with rdma_request_id := o.write_id })
  /-- the bytes of the slot are in the buffer -/
  | sent {data : α}
      (slot : w.pager.mem.store (w.pager.pol.page page).virtual_offset = some data) :
      Transfers o page a va w 0
        (((w.io_done.setRecord va fun r => { r with rdma_request_id := o.write_id }).fill a
          data).setRecord va fun r => { r with status := .IN_PROGRESS })

theorem run_transfer (o : Channel) (page : PageId) (a va : ℕ) (w : World α) :
    ∃ ret w', (transfer_to_prefetch_buffer o page a va).run w = .ok (ret, w') ∧
      Transfers o page a va w ret w' := by
  rw [transfer_to_prefetch_buffer]
  by_cases hmalloc : o.temp_malloc = false
  · rw [if_pos hmalloc]
    exact ⟨-1, w, rfl, .no_page⟩
  · rw [if_neg hmalloc, run_bind_ok (run_on_pager (run_get_page _ page)),
      run_bind_ok (run_on_pager (run_rdma_read_page _ _))]
    by_cases hfail : w.pager.mem.env.io_fails.headD false = true
    · simp only [hfail, if_true]
      exact ⟨-1, _, rfl, .unread⟩
    · simp only [if_neg hfail]
      rcases hslot : w.pager.mem.store (w.pager.pol.page page).virtual_offset with _ | data
      · exact ⟨-1, _, rfl, .unread⟩
      · rw [run_bind_ok (run_set_record _ va _)]
        by_cases hzero : o.write_id = 0
        · rw [if_pos hzero]
          exact ⟨-1, _, rfl, .unsent⟩
        · rw [if_neg hzero]
          exact ⟨0, _, rfl, .sent hslot⟩

/-- A transfer, started or not, leaves the record its buffer. -/
theorem Transfers.spot {o : Channel} {page : PageId} {a va : ℕ} {w w' : World α} {ret : ℤ}
    {l rest : List PrefetchRecord} {r : PrefetchRecord} (h : Transfers o page a va w ret w')
    (hs : Spot w.prefetcher.records va l r rest) :
    ∃ r', Spot w'.prefetcher.records va l r' rest ∧ r'.remote_addr = r.remote_addr ∧
      w'.prefetcher.freed = w.prefetcher.freed := by
  cases h with
  | no_page => exact ⟨r, hs, rfl, rfl⟩
  | unread => exact ⟨r, hs, rfl, rfl⟩
  | unsent => exact ⟨_, hs.update rfl, rfl, rfl⟩
  | sent slot =>
      have hid := hs.update (f := fun r => { r with rdma_request_id := o.write_id }) rfl
      exact ⟨_, hid.update rfl, rfl, rfl⟩

/-! ### The buffer -/

/-- The end of `async_prefetch_page`, from the record's new buffer on. -/
def use_buffer (o : Channel) (existing_page : Option PageId) (target_va a : ℕ) : WProc α ℤ := do
  set_record target_va fun r => { r with remote_addr := a, status := .REQUESTED }
  match existing_page with
  | none => refuse_prefetch target_va a
  | some page =>
      if (← on_pager (get_page page)).swapped_out then
        if (← transfer_to_prefetch_buffer o page a target_va) ≠ 0 then
          set_record target_va fun r => { r with status := .FAILED }
      else
        refuse_prefetch target_va a
  let record ← find_prefetch_record target_va
  pure (if record.any fun r => r.status = .IN_PROGRESS then 0 else -1)

/-- `async_prefetch_page` from the lookup of the record on. -/
def request_buffer (o : Channel) (existing_page : Option PageId) (target_va source_va : ℕ) :
    WProc α ℤ := do
  let record ← find_prefetch_record target_va
  if record.any fun r => r.status = .IN_PROGRESS ∨ r.status = .COMPLETED then
    pure 0
  else
    match o.allocate with
    | none => pure (-1)
    | some a => do
        let ret ← if record.isNone then add_prefetch_record o source_va target_va target_va
          else pure 0
        if ret ≠ 0 then do
          rdma_free a
          pure (-1)
        else
          use_buffer o existing_page target_va a

theorem async_prefetch_page_eq (o : Channel) (target_va source_va : ℕ) :
    (async_prefetch_page o target_va source_va : WProc α ℤ) = (do
      let existing_page ← on_pager (find_page target_va)
      let fields ← match existing_page with
        | some page => do pure (some (← on_pager (get_page page)))
        | none => pure none
      if fields.any fun p => !p.swapped_out && p.in_dram then
        pure 0
      else if fields.any fun p => p.migrating then
        pure 0
      else
        request_buffer o existing_page target_va source_va) := rfl

/-- The world in which the record has its new buffer. -/
def World.requested (w : World α) (va a : ℕ) : World α :=
  w.setRecord va fun r => { r with remote_addr := a, status := .REQUESTED }

/-- The world after `refuse_prefetch`. -/
def World.refused (w : World α) (va a : ℕ) : World α :=
  World.setRecord { w with prefetcher := { w.prefetcher with freed := a :: w.prefetcher.freed } } va
    fun r => { r with status := .FAILED, remote_addr := 0 }

theorem run_refuse_prefetch (w : World α) (va a : ℕ) :
    (refuse_prefetch va a).run w = .ok ((), w.refused va a) := rfl

/-- What `use_buffer` leaves. -/
inductive UsesBuffer (o : Channel) (existing_page : Option PageId) (va a : ℕ) (w : World α) :
    World α → Prop
  /-- there is no page, or it is not swapped out -/
  | refused : UsesBuffer o existing_page va a w ((w.requested va a).refused va a)
  /-- the transfer could not be started -/
  | failed {page : PageId} {ret : ℤ} {w' : World α} (existing : existing_page = some page)
      (transfer : Transfers o page a va (w.requested va a) ret w') (ret_ne : ret ≠ 0) :
      UsesBuffer o existing_page va a w (w'.setRecord va fun r => { r with status := .FAILED })
  | sent {page : PageId} {w' : World α} (existing : existing_page = some page)
      (swapped : (w.pager.pol.page page).swapped_out = true)
      (transfer : Transfers o page a va (w.requested va a) 0 w') :
      UsesBuffer o existing_page va a w w'

theorem run_use_buffer (o : Channel) (existing_page : Option PageId) (va a : ℕ) (w : World α) :
    ∃ ret w', (use_buffer o existing_page va a).run w = .ok (ret, w') ∧
      UsesBuffer o existing_page va a w w' := by
  have hset : (set_record va fun r => { r with remote_addr := a, status := .REQUESTED }).run w =
      .ok ((), w.requested va a) := rfl
  rw [use_buffer, run_bind_ok hset]
  rcases existing_page with _ | page
  · rw [run_bind_ok (run_refuse_prefetch _ va a)]
    exact ⟨_, _, rfl, .refused⟩
  · rw [run_bind_ok (run_on_pager (run_get_page _ page))]
    by_cases hswapped : (w.pager.pol.page page).swapped_out = true
    · obtain ⟨ret, w', hrun, htransfer⟩ := run_transfer o page a va (w.requested va a)
      rw [if_pos (show ((w.requested va a).pager.pol.page page).swapped_out = true from hswapped),
        run_bind_ok hrun]
      by_cases hret : ret ≠ 0
      · rw [if_pos hret, run_bind_ok (run_set_record w' va _)]
        exact ⟨_, _, rfl, .failed rfl htransfer hret⟩
      · rw [if_neg hret]
        obtain rfl : ret = 0 := not_not.1 hret
        exact ⟨_, _, rfl, .sent rfl hswapped htransfer⟩
    · rw [if_neg (show ¬ ((w.requested va a).pager.pol.page page).swapped_out = true from hswapped),
        run_bind_ok (run_refuse_prefetch _ va a)]
      exact ⟨_, _, rfl, .refused⟩

/-- The record has the buffer, or it has failed and the buffer was released. -/
theorem UsesBuffer.spot {o : Channel} {existing_page : Option PageId} {va a : ℕ} {w w' : World α}
    {l rest : List PrefetchRecord} {r : PrefetchRecord} (h : UsesBuffer o existing_page va a w w')
    (hs : Spot w.prefetcher.records va l r rest) :
    ∃ r', Spot w'.prefetcher.records va l r' rest ∧
      (r'.remote_addr = a ∧ w'.prefetcher.freed = w.prefetcher.freed ∨
        r'.remote_addr = 0 ∧ r'.status = .FAILED ∧
          w'.prefetcher.freed = a :: w.prefetcher.freed) := by
  have hrequested : Spot (w.requested va a).prefetcher.records va l
      { r with remote_addr := a, status := .REQUESTED } rest := hs.update rfl
  cases h with
  | refused => exact ⟨_, hrequested.update rfl, Or.inr ⟨rfl, rfl, rfl⟩⟩
  | failed existing transfer ret_ne =>
      obtain ⟨r', hs', haddr, hfreed⟩ := transfer.spot hrequested
      exact ⟨{ r' with status := .FAILED }, hs'.update rfl, Or.inl ⟨haddr, hfreed⟩⟩
  | sent existing swapped transfer =>
      obtain ⟨r', hs', haddr, hfreed⟩ := transfer.spot hrequested
      exact ⟨r', hs', Or.inl ⟨haddr, hfreed⟩⟩

theorem Prefetched.of_writes {w w' : World α} {target_va a : ℕ} (new : PrefetchRecord)
    (h : Writes w.prefetcher.records w'.prefetcher.records (w.record target_va) new)
    (hend : new.remote_addr = a ∧ w'.prefetcher.freed = w.prefetcher.freed ∨
      new.remote_addr = 0 ∧ new.status = .FAILED ∧
        w'.prefetcher.freed = a :: w.prefetcher.freed) : Prefetched w w' target_va (some a) := by
  rcases hend with ⟨haddr, hfreed⟩ | ⟨haddr, hstatus, hfreed⟩
  · exact .kept new h haddr hfreed
  · exact .refused new h haddr hstatus hfreed

/-- A new record is put in front, if it can be allocated. -/
theorem run_add_prefetch_record (o : Channel) (source_va target_va pointer_value : ℕ) {w : World α}
    (h : w.record target_va = none) :
    (add_prefetch_record o source_va target_va pointer_value).run w =
      if o.record_malloc then
        .ok (0, { w with prefetcher := { w.prefetcher with records :=
          { source_va := source_va, target_va := target_va, pointer_value := pointer_value
            timestamp := o.timestamp } :: w.prefetcher.records } })
      else .ok (-1, w) := by
  rw [add_prefetch_record, run_bind_ok (run_find_prefetch_record w target_va), h]
  by_cases hmalloc : o.record_malloc = true
  · simp only [if_pos hmalloc]
    rfl
  · simp only [if_neg hmalloc]
    rfl

theorem World.target_ne {w : World α} {va : ℕ} (h : w.record va = none) {r : PrefetchRecord}
    (hr : r ∈ w.prefetcher.records) : r.target_va ≠ va := by
  simpa using List.find?_eq_none.1 h r hr

/-- The world with a new record in front. -/
def World.add_record (w : World α) (new : PrefetchRecord) : World α :=
  { w with prefetcher := { w.prefetcher with records := new :: w.prefetcher.records } }

/-- What `request_buffer` returns, and what it leaves. -/
inductive Requests (o : Channel) (existing_page : Option PageId) (va source_va : ℕ) (w : World α) :
    ℤ → World α → Prop
  /-- the record is available -/
  | available {r : PrefetchRecord} (record : w.record va = some r) (avail : r.Available) :
      Requests o existing_page va source_va w 0 w
  | no_buffer (stale : ∀ r, w.record va = some r → ¬ r.Available) (allocate : o.allocate = none) :
      Requests o existing_page va source_va w (-1) w
  /-- a new record cannot be allocated -/
  | no_record {a : ℕ} (record : w.record va = none) (allocate : o.allocate = some a) :
      Requests o existing_page va source_va w (-1)
        { w with prefetcher := { w.prefetcher with freed := a :: w.prefetcher.freed } }
  /-- a new record gets the buffer -/
  | added {a : ℕ} {ret : ℤ} {w' : World α} (record : w.record va = none)
      (allocate : o.allocate = some a)
      (uses : UsesBuffer o existing_page va a (w.add_record
        { source_va := source_va, target_va := va, pointer_value := va, timestamp := o.timestamp })
        w') : Requests o existing_page va source_va w ret w'
  /-- the old record is overwritten, with its buffer -/
  | reused {a : ℕ} {ret : ℤ} {r : PrefetchRecord} {w' : World α} (record : w.record va = some r)
      (stale : ¬ r.Available) (allocate : o.allocate = some a)
      (uses : UsesBuffer o existing_page va a w w') :
      Requests o existing_page va source_va w ret w'

theorem run_request_buffer (o : Channel) (existing_page : Option PageId) (va source_va : ℕ)
    (w : World α) :
    ∃ ret w', (request_buffer o existing_page va source_va).run w = .ok (ret, w') ∧
      Requests o existing_page va source_va w ret w' := by
  rw [request_buffer, run_bind_ok (run_find_prefetch_record w va)]
  rcases hrec : w.record va with _ | r
  · rw [if_neg (by simp)]
    rcases ha : o.allocate with _ | a
    · refine ⟨-1, w, rfl, .no_buffer (fun r hr => ?_) ha⟩
      exact absurd (hrec.symm.trans hr) (Option.some_ne_none r).symm
    · have hadd := run_add_prefetch_record o source_va va va hrec
      simp only [Option.isNone_none, if_true]
      by_cases hmalloc : o.record_malloc = true
      · rw [if_pos hmalloc] at hadd
        rw [run_bind_ok hadd]
        obtain ⟨ret, w', hrun, huses⟩ := run_use_buffer o existing_page va a (w.add_record
          { source_va := source_va, target_va := va, pointer_value := va
            timestamp := o.timestamp })
        exact ⟨ret, w', hrun, .added hrec ha huses⟩
      · rw [if_neg hmalloc] at hadd
        rw [run_bind_ok hadd]
        exact ⟨-1, _, rfl, .no_record hrec ha⟩
  · by_cases havail : r.Available
    · rw [if_pos (by simpa [PrefetchRecord.Available] using havail)]
      exact ⟨0, w, rfl, .available hrec havail⟩
    · rw [if_neg (by simpa [PrefetchRecord.Available] using havail)]
      rcases ha : o.allocate with _ | a
      · refine ⟨-1, w, rfl, .no_buffer (fun x hx => ?_) ha⟩
        obtain rfl : r = x := Option.some.inj (hrec.symm.trans hx)
        exact havail
      · obtain ⟨ret, w', hrun, huses⟩ := run_use_buffer o existing_page va a w
        exact ⟨ret, w', hrun, .reused hrec havail ha huses⟩

/-- The call stops at a record that is available, or asks for a buffer. -/
theorem Requests.prefetched {o : Channel} {existing_page : Option PageId} {va source_va : ℕ}
    {w w' : World α} {ret : ℤ} (h : Requests o existing_page va source_va w ret w') :
    ((∃ r, w.record va = some r ∧ r.Available) ∧ ret = 0 ∧ w' = w) ∨
      (∀ r, w.record va = some r → ¬ r.Available) ∧ Prefetched w w' va o.allocate := by
  cases h with
  | available record avail => exact Or.inl ⟨⟨_, record, avail⟩, rfl, rfl⟩
  | no_buffer stale allocate =>
      rw [allocate]
      exact Or.inr ⟨stale, .no_buffer rfl rfl⟩
  | no_record record allocate =>
      rw [allocate, record]
      exact Or.inr ⟨fun r hr => absurd hr.symm (Option.some_ne_none r), .no_record record rfl rfl⟩
  | @added a _ _ record allocate uses =>
      rw [allocate, record]
      refine Or.inr ⟨fun r hr => absurd hr.symm (Option.some_ne_none r), ?_⟩
      obtain ⟨r', hspot, hend⟩ := uses.spot (l := [])
        ⟨rfl, rfl, fun _ hx => absurd hx List.not_mem_nil⟩
      refine .of_writes r' ⟨⟨[], _, ?_, hspot.split⟩, ?_, fun _ r hr => ?_⟩ hend
      · rw [record]
        rfl
      · rw [record]
        exact fun r hr => absurd hr.symm (Option.some_ne_none r)
      · rw [hspot.target]
        exact w.target_ne record hr
  | @reused a _ r _ record stale allocate uses =>
      rw [allocate]
      refine Or.inr ⟨fun x hx => ?_, ?_⟩
      · obtain rfl : r = x := Option.some.inj (record.symm.trans hx)
        exact stale
      · obtain ⟨l, rest, hspot⟩ := exists_spot record
        obtain ⟨r', hspot', hend⟩ := uses.spot hspot
        refine .of_writes r' ?_ hend
        rw [record]
        exact hspot.writes hspot'

/-- The two tests of the page. -/
theorem run_async_prefetch_page (o : Channel) {target_va : ℕ} (source_va : ℕ) {w : World α}
    {page : PageId} (hpage : w.pager.pol.pages target_va = some page) :
    (async_prefetch_page o target_va source_va).run w =
      if (w.pager.pol.page page).swapped_out = false ∧ (w.pager.pol.page page).in_dram = true then
        .ok (0, w)
      else if (w.pager.pol.page page).migrating = true then .ok (0, w)
      else (request_buffer o (some page) target_va source_va).run w := by
  rw [async_prefetch_page_eq, run_bind_ok (run_on_pager (run_find_page _ target_va)), hpage]
  show (if ((some (w.pager.pol.page page)).any fun p => !p.swapped_out && p.in_dram) = true then pure 0
    else if ((some (w.pager.pol.page page)).any fun p => p.migrating) = true then pure 0
    else request_buffer o (some page) target_va source_va : WProc α ℤ).run w = _
  have hdram : ((some (w.pager.pol.page page)).any fun p => !p.swapped_out && p.in_dram) = true ↔
      (w.pager.pol.page page).swapped_out = false ∧ (w.pager.pol.page page).in_dram = true := by
    simp
  have hmoved : ((some (w.pager.pol.page page)).any fun p => p.migrating) = true ↔
      (w.pager.pol.page page).migrating = true := by
    simp
  simp only [hdram, hmoved]
  split
  · rfl
  · split
    · rfl
    · rfl

/-- The call stops at a page that is in DRAM or being moved, or requests a buffer. -/
theorem async_prefetch_page_requests (o : Channel) (va source_va : ℕ) (w : World α) :
    (∃ p, w.pager.pol.pages va = some p ∧
        ((w.pager.pol.page p).swapped_out = false ∧ (w.pager.pol.page p).in_dram = true ∨
          (w.pager.pol.page p).migrating = true)) ∧
        (async_prefetch_page o va source_va).run w = .ok (0, w) ∨
      (∀ p, w.pager.pol.pages va = some p →
        ¬ ((w.pager.pol.page p).swapped_out = false ∧ (w.pager.pol.page p).in_dram = true) ∧
          (w.pager.pol.page p).migrating = false) ∧
        ∃ ret w', (async_prefetch_page o va source_va).run w = .ok (ret, w') ∧
          Requests o (w.pager.pol.pages va) va source_va w ret w' := by
  have hrequest := run_request_buffer o (w.pager.pol.pages va) va source_va w
  rcases hpage : w.pager.pol.pages va with _ | page
  · rw [hpage] at hrequest
    rw [async_prefetch_page_eq, run_bind_ok (run_on_pager (run_find_page _ va)), hpage]
    exact Or.inr ⟨fun p hp => absurd hp.symm (Option.some_ne_none p), hrequest⟩
  · rw [hpage] at hrequest
    rw [run_async_prefetch_page o source_va hpage]
    by_cases hdram : (w.pager.pol.page page).swapped_out = false ∧
        (w.pager.pol.page page).in_dram = true
    · rw [if_pos hdram]
      exact Or.inl ⟨⟨page, rfl, Or.inl hdram⟩, rfl⟩
    · rw [if_neg hdram]
      by_cases hmoved : (w.pager.pol.page page).migrating = true
      · rw [if_pos hmoved]
        exact Or.inl ⟨⟨page, rfl, Or.inr hmoved⟩, rfl⟩
      · rw [if_neg hmoved]
        refine Or.inr ⟨fun p hp => ?_, hrequest⟩
        obtain rfl := Option.some.inj hp
        exact ⟨hdram, Bool.eq_false_of_not_eq_true hmoved⟩

/-- **`async_prefetch_page`.** -/
theorem async_prefetch_page_cases (o : Channel) (target_va source_va : ℕ) (w : World α) :
    (¬ w.Asks target_va ∧ (async_prefetch_page o target_va source_va).run w = .ok (0, w)) ∨
      w.Asks target_va ∧ ∃ ret w', (async_prefetch_page o target_va source_va).run w = .ok (ret, w') ∧
        Prefetched w w' target_va o.allocate := by
  rcases async_prefetch_page_requests o target_va source_va w with
    ⟨⟨p, hp, hstays⟩, hrun⟩ | ⟨hpage, ret, w', hrun, hrequests⟩
  · refine Or.inl ⟨fun hasks => ?_, hrun⟩
    obtain ⟨hdram, hmoved⟩ := hasks.1 p hp
    rcases hstays with hin | hmoving
    · exact hdram hin
    · rw [hmoving] at hmoved
      cases hmoved
  · rcases hrequests.prefetched with ⟨⟨r, hr, havail⟩, rfl, rfl⟩ | ⟨hstale, hprefetched⟩
    · exact Or.inl ⟨fun hasks => hasks.2 r hr havail, hrun⟩
    · exact Or.inr ⟨⟨hpage, hstale⟩, ret, w', hrun, hprefetched⟩

/-! ## Faults -/

/-- What a fault at `va` does to the records, and what it returns. -/
inductive Looked (w w' : World α) (va : ℕ) : ℤ → Prop
  /-- there is no record that is available -/
  | none (records : w'.prefetcher.records = w.prefetcher.records)
      (freed : w'.prefetcher.freed = w.prefetcher.freed) : Looked w w' va (-1)
  /-- the copy cannot be retrieved; the buffer stays with the record -/
  | lost (r new : PrefetchRecord) (record : w.record va = some r)
      (writes : Writes w.prefetcher.records w'.prefetcher.records (some r) new)
      (addr : new.remote_addr = r.remote_addr) (status : new.status = .FAILED)
      (freed : w'.prefetcher.freed = w.prefetcher.freed) : Looked w w' va (-1)
  /-- the copy is retrieved, and `UFFDIO_COPY` refuses it -/
  | refused (r new : PrefetchRecord) (record : w.record va = some r) (live : r.Live)
      (writes : Writes w.prefetcher.records w'.prefetcher.records (some r) new)
      (addr : new.remote_addr = 0) (status : new.status = .FAILED)
      (freed : w'.prefetcher.freed = r.remote_addr :: w.prefetcher.freed) : Looked w w' va (-1)
  /-- the copy is mapped; the record keeps its status -/
  | hit (r new : PrefetchRecord) (record : w.record va = some r) (live : r.Live)
      (writes : Writes w.prefetcher.records w'.prefetcher.records (some r) new)
      (addr : new.remote_addr = 0) (status : new.status = .COMPLETED)
      (freed : w'.prefetcher.freed = r.remote_addr :: w.prefetcher.freed) : Looked w w' va 0

/-- Retrieving the copy of a record that is available. -/
theorem Retrieves.spot {o : Channel} {va : ℕ} {r : PrefetchRecord} {w w' : World α} {ret : ℤ}
    {l rest : List PrefetchRecord} (h : Retrieves o va r w ret w')
    (hs : Spot w.prefetcher.records va l r rest) :
    ∃ r', Spot w'.prefetcher.records va l r' rest ∧
      (ret = -1 ∧ r'.remote_addr = r.remote_addr ∧ r'.status = .FAILED ∧
          w'.prefetcher.freed = w.prefetcher.freed ∨
        ret = 0 ∧ SIM_REMOTE_MEMORY_BASE ≤ r.remote_addr ∧ r'.remote_addr = 0 ∧
          r'.status = .COMPLETED ∧
          w'.prefetcher.freed = r.remote_addr :: w.prefetcher.freed) := by
  have hsettled : Spot (w.setRecord va o.settle).prefetcher.records va l (o.settle r) rest :=
    hs.update (o.settle_target r)
  cases h with
  | unwritten status => exact ⟨_, hsettled, Or.inl ⟨rfl, o.settle_addr r, status, rfl⟩⟩
  | unread =>
      exact ⟨{ o.settle r with status := .FAILED }, hsettled.update rfl,
        Or.inl ⟨rfl, o.settle_addr r, rfl, rfl⟩⟩
  | retrieved status base =>
      refine ⟨{ o.settle r with remote_addr := 0 }, hsettled.update rfl,
        Or.inr ⟨rfl, base, rfl, status, ?_⟩⟩
      show (o.settle r).remote_addr :: w.prefetcher.freed = _
      rw [o.settle_addr]

/-- **`handle_page_fault_with_prefetch`.** -/
theorem handle_page_fault_cases (o : Channel) (page : PageId) (w : World α) :
    ∃ ret w', (handle_page_fault_with_prefetch o page).run w = .ok (ret, w') ∧
      Looked w w' (w.pager.pol.page page).va ret := by
  obtain ⟨ret, w', hrun, hconsults⟩ := run_consult o page w
  refine ⟨ret, w', hrun, ?_⟩
  cases hconsults with
  | none unavailable => exact .none rfl rfl
  | lost record avail retrieve =>
      obtain ⟨l, rest, hspot⟩ := exists_spot record
      obtain ⟨r', hspot', ⟨-, haddr, hstatus, hfreed⟩ | ⟨hret, -⟩⟩ := retrieve.spot hspot
      · exact .lost _ r' record (hspot.writes hspot') haddr hstatus hfreed
      · cases hret
  | refused record avail retrieve refuses =>
      obtain ⟨l, rest, hspot⟩ := exists_spot record
      obtain ⟨r', hspot', ⟨hret, -⟩ | ⟨-, hbase, haddr, -, hfreed⟩⟩ := retrieve.spot hspot
      · cases hret
      · have hfail := hspot'.update (f := fun r => { r with status := .FAILED }) rfl
        exact .refused _ _ record ⟨avail, hbase⟩ (hspot.writes hfail) haddr rfl hfreed
  | hit record avail retrieve accepts =>
      obtain ⟨l, rest, hspot⟩ := exists_spot record
      obtain ⟨r', hspot', ⟨hret, -⟩ | ⟨-, hbase, haddr, hstatus, hfreed⟩⟩ := retrieve.spot hspot
      · cases hret
      · exact .hit _ r' record ⟨avail, hbase⟩ (hspot.writes hspot') haddr hstatus hfreed

/-! ## Cleaning up -/

/-- The buffers of some records. -/
def buffers (rs : List PrefetchRecord) : List ℕ :=
  (rs.map PrefetchRecord.remote_addr).filter fun a => a ≠ 0

theorem buffers_append (l r : List PrefetchRecord) : buffers (l ++ r) = buffers l ++ buffers r := by
  rw [buffers, List.map_append, List.filter_append]
  rfl

theorem buffers_cons_zero {r : PrefetchRecord} (rs : List PrefetchRecord) (h : r.remote_addr = 0) :
    buffers (r :: rs) = buffers rs := by
  rw [buffers, List.map_cons, List.filter_cons_of_neg (by simp [h])]
  rfl

theorem buffers_cons_ne {r : PrefetchRecord} (rs : List PrefetchRecord) (h : r.remote_addr ≠ 0) :
    buffers (r :: rs) = r.remote_addr :: buffers rs := by
  rw [buffers, List.map_cons, List.filter_cons_of_pos (by simp [h])]
  rfl

theorem mem_buffers {a : ℕ} {rs : List PrefetchRecord} :
    a ∈ buffers rs ↔ a ≠ 0 ∧ ∃ r ∈ rs, r.remote_addr = a := by
  simp [buffers, and_comm]

/-- The state after some buffers were released, in this order. -/
def World.release (w : World α) (addrs : List ℕ) : World α :=
  { w with prefetcher := { w.prefetcher with freed := addrs.reverse ++ w.prefetcher.freed } }

theorem release_cons (w : World α) (a : ℕ) (addrs : List ℕ) :
    (w.release [a]).release addrs = w.release (a :: addrs) := by
  simp [World.release]

theorem run_sweep (current_time : ℕ) (rs : List PrefetchRecord) (w : World α) :
    (sweep current_time rs).run w =
      .ok (rs.filter fun r => !r.remove_record current_time,
        w.release (buffers (rs.filter fun r => r.remove_record current_time))) := by
  induction rs generalizing w with
  | nil => rfl
  | cons r rs ih =>
      by_cases hremove : r.remove_record current_time = true
      · rw [sweep, if_pos hremove, List.filter_cons_of_neg (by simp [hremove]),
          List.filter_cons_of_pos hremove]
        by_cases haddr : r.remote_addr = 0
        · rw [if_neg (not_not.2 haddr), buffers_cons_zero _ haddr]
          exact ih w
        · rw [if_pos haddr, buffers_cons_ne _ haddr, run_bind_ok (run_rdma_free w r.remote_addr),
            ← release_cons]
          exact ih (w.release [r.remote_addr])
      · rw [sweep, if_neg hremove, List.filter_cons_of_pos (by simpa using hremove),
          List.filter_cons_of_neg hremove, run_bind_ok (ih w)]
        rfl

/-- **`cleanup_old_prefetch_records`** releases the buffers of the records it drops. -/
theorem run_cleanup_old (current_time : ℕ) (w : World α) :
    ∃ w', (cleanup_old_prefetch_records current_time).run w = .ok ((), w') ∧
      w'.prefetcher.records
        = w.prefetcher.records.filter (fun r => !r.remove_record current_time) ∧
      w'.prefetcher.freed = (buffers (w.prefetcher.records.filter
        fun r => r.remove_record current_time)).reverse ++ w.prefetcher.freed := by
  rw [cleanup_old_prefetch_records, run_bind_ok (run_get w), run_bind_ok (run_sweep _ _ w)]
  exact ⟨_, rfl, rfl, rfl⟩

theorem run_free_available (rs : List PrefetchRecord) (w : World α) :
    (free_available rs).run w =
      .ok ((), w.release (buffers (rs.filter fun r => r.Available))) := by
  induction rs generalizing w with
  | nil => rfl
  | cons r rs ih =>
      rw [free_available]
      by_cases havail : r.status = .IN_PROGRESS ∨ r.status = .COMPLETED
      · have hkeep : r.Available := havail
        rw [if_pos havail, List.filter_cons_of_pos (by simpa using hkeep)]
        by_cases haddr : r.remote_addr = 0
        · rw [if_neg (not_not.2 haddr), buffers_cons_zero _ haddr]
          exact ih w
        · rw [if_pos haddr, buffers_cons_ne _ haddr, run_bind_ok (run_rdma_free w r.remote_addr),
            ← release_cons]
          exact ih (w.release [r.remote_addr])
      · have hdrop : ¬ r.Available := havail
        rw [if_neg havail, List.filter_cons_of_neg (by simpa using hdrop)]
        exact ih w

/-- **`pointer_prefetch_cleanup`** releases the buffers of the records that are available. -/
theorem run_pointer_prefetch_cleanup (w : World α) :
    ∃ w', pointer_prefetch_cleanup.run w = .ok ((), w') ∧ w'.prefetcher.records = [] ∧
      w'.prefetcher.freed = (buffers (w.prefetcher.records.filter
        fun r => r.Available)).reverse ++ w.prefetcher.freed := by
  rw [pointer_prefetch_cleanup, run_bind_ok (run_get w), run_bind_ok (run_free_available _ w)]
  exact ⟨_, rfl, rfl, rfl⟩

end SwapPrefetch
