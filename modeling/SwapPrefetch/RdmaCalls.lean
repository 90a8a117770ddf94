/-
Requests of one process that are served before the next one is made.

The calls of `src/storage_rdma.c` submit a request and wait for it. When calls are made one at
a time, the ring is empty between them (`Quiesced`): the server serves the request as the only
one in the ring, and the wait finds its slot, because all slots have different numbers. What
such a call does to the server's memory and blocks is then what `rdma_server_handle_request`
does (`Quiesced.served`).
-/
import Mathlib.Tactic
import SwapPrefetch.RdmaOutcome

set_option autoImplicit false

namespace SwapPrefetch

namespace Rdma

/-- Submit a request, let the server drain the ring, and wait: the number of the request and
what the wait copied, or `none` if one of the two fails. -/
def round_trip (op_type : RdmaOp) (local_addr remote_addr size : ℕ) (data : Option Bytes)
    (split : Bool) (s : Rdma) : Option (ℕ × Option Placed) × Rdma :=
  let (req_id, s) := s.rdma_submit_request 0 op_type local_addr remote_addr size data false
  if req_id = 0 then (none, s)
  else
    let s := s.rdma_server_process_requests fun _ => split
    match s.rdma_wait_poll req_id with
    | some (.ok placed) => (some (req_id, placed), s)
    | _ => (none, s)

/-! ## Between calls -/

/-- Between two calls of the only client: the ring is empty, and all slots are of this client
and have different numbers. -/
structure Quiesced (s : Rdma) : Prop where
  order : s.OrderInv
  numbered : s.Numbered
  distinct : s.Distinct
  owned : ∀ i, (s.requests i).client = 0
  empty : s.count = 0
  up : s.shutdown_requested = false

theorem quiesced_start : Quiesced {} where
  order := orderInv_start
  numbered := ⟨fun _ => Nat.one_pos, fun _ => Or.inl rfl⟩
  distinct := fun _ _ _ _ _ h0 => absurd rfl h0
  owned := fun _ => rfl
  empty := rfl
  up := rfl

variable {s s₂ : Rdma} {req : Request}

/-- The state after the only request of the ring was submitted. -/
structure Sent (s s₂ : Rdma) (req : Request) : Prop where
  alike : Alike s₂ (s.takeId 0)
  key : req.key = (0, s.request_id_counter 0)
  pending : req.status = .PENDING
  up : s₂.shutdown_requested = false

/-- What the server did with a request that it handled alone: its slot is found under its number,
and holds the answer of the handler. -/
structure Handled (s s₀ s' : Rdma) (req : Request) (split : Bool) (id : ℕ) : Prop where
  slot : s'.find_slot id = some s.tail
  address : s'.find_address id = some s.tail
  ok : ∀ answer s₁, rdma_server_handle_request split { req with error_code := none } s₀ =
    .ok (answer, s₁) → s'.requests s.tail = { answer with status := .COMPLETED } ∧
      s'.memory = s₁.memory ∧ s'.blocks = s₁.blocks ∧ s'.page_buffer = s₁.page_buffer
  error : ∀ e, rdma_server_handle_request split { req with error_code := none } s₀ = .error e →
    s'.requests s.tail = { req with error_code := some e, status := .FAILED } ∧
      s'.memory = s₀.memory ∧ s'.blocks = s₀.blocks

/-- Only a shutdown request stops the server. -/
theorem handle_up {split : Bool} {req answer : Request} {s s₁ : Rdma}
    (h : rdma_server_handle_request split req s = .ok (answer, s₁)) (hop : req.op_type ≠ .SHUTDOWN) :
    s₁.shutdown_requested = s.shutdown_requested := by
  unfold rdma_server_handle_request at h
  cases hreq : req.op_type <;> simp only [hreq] at h
  case SHUTDOWN => exact absurd hreq hop
  case FREE => cases h
  case INIT => cases h; rfl
  all_goals
    repeat' split at h
    all_goals cases h
    all_goals rfl

/-- The slot that the next submit fills, when the ring is empty. -/
theorem Quiesced.tail_eq_head (h : s.Quiesced) : s.tail = s.head := by
  have ht := h.order.ring.tail
  rwa [h.empty, Nat.add_zero, Nat.mod_eq_of_lt h.order.ring.head] at ht

theorem Quiesced.free (h : s.Quiesced) : s.count < MAX_RDMA_REQUESTS := by
  rw [h.empty]
  decide

/-- The request is the only one in the ring. -/
structure Alone (s s₀ : Rdma) (req : Request) : Prop where
  order : s₀.OrderInv
  count : s₀.count = 1
  head : s₀.head = s.tail
  slot : s₀.requests s₀.head = req

theorem Quiesced.alone (h : s.Quiesced) (hsent : Sent s s₂ req) :
    Alone s (s₂.enqueue req) req := by
  obtain ⟨hf, hcount⟩ := hsent.alike.filled h.free hsent.key hsent.pending
  have hhead : (s₂.enqueue req).head = s.tail := hf.head.trans h.tail_eq_head.symm
  refine ⟨h.order.submitted (.accepted h.free hsent.key hsent.pending rfl hsent.alike), ?_,
    hhead, ?_⟩
  · rw [hcount, h.empty]
  · rw [hhead, hf.requests, Function.update_self]

/-- The drain is one turn of its loop. -/
theorem Alone.drain {s₀ : Rdma} (h : Alone s s₀ req) (hup : s₀.shutdown_requested = false)
    (split : Bool) :
    s₀.rdma_server_process_requests (fun _ => split) = s₀.process_one split := by
  rw [rdma_server_process_requests, if_neg (by rw [hup]; decide), h.count]
  rfl

/-- What the server makes of the request is what the handler makes of it. -/
theorem Alone.conclude {s₀ : Rdma} (h : Alone s s₀ req) (hpending : req.status = .PENDING)
    (split : Bool) : s₀.process_one split =
      s₀.conclude (rdma_server_handle_request split { req with error_code := none } s₀) := by
  have hserving : s₀.serving = { req with error_code := none } := by
    rw [serving, h.slot]
  rw [← hserving]
  apply process_one_pending
  rw [h.slot]
  exact hpending

/-- The server does not stop. -/
theorem Alone.up {s₀ : Rdma} (h : Alone s s₀ req) (hpending : req.status = .PENDING)
    (hop : req.op_type ≠ .SHUTDOWN) (hup : s₀.shutdown_requested = false) (split : Bool) :
    (s₀.process_one split).shutdown_requested = false := by
  rw [h.conclude hpending]
  rcases hout : rdma_server_handle_request split { req with error_code := none } s₀
    with e | ⟨answer, s₁⟩
  · rw [(conclude_error s₀ e).shutdown_requested]
    exact hup
  · rw [(conclude_ok (handle_serves hout).ring).shutdown_requested, handle_up hout hop]
    exact hup

/-- **Calls.** The server serves the only request of the ring, and the wait finds it. -/
theorem Quiesced.served (h : s.Quiesced) (hsent : Sent s s₂ req) (hop : req.op_type ≠ .SHUTDOWN)
    (split : Bool) :
    let s₀ := s₂.enqueue req
    let s' := s₀.rdma_server_process_requests fun _ => split
    s'.Quiesced ∧ Handled s s₀ s' req split (s.request_id_counter 0) := by
  intro s₀ s'
  have halone := h.alone hsent
  obtain ⟨hf, hcount⟩ := hsent.alike.filled h.free hsent.key hsent.pending
  have hnumbers : s.NumberFree 0 := fun i _ _ => h.owned i
  -- the request is alone in the ring, so the drain loop makes one turn
  have hdrain : s' = s₀.process_one split := halone.drain hsent.up split
  have hpos : 0 < s₀.count := by
    rw [halone.count]
    exact Nat.one_pos
  obtain ⟨answer, ha⟩ := halone.order.process_one_answered split hpos
  rw [← hdrain] at ha
  have hholds : s'.Holds (0, s.request_id_counter 0) s.tail :=
    (hf.holds h.order.ring hcount).answered halone.order.ring ha
  have hdistinct : s'.Distinct := (h.distinct.filled h.numbered hnumbers hf).answered ha
  have hid : s.request_id_counter 0 ≠ 0 := (h.numbered.positive 0).ne'
  have hconclude := halone.conclude hsent.pending split
  rw [← hdrain] at hconclude
  refine ⟨⟨?_, (h.numbered.filled hf).answered ha, hdistinct, fun i => ?_, ?_, ?_⟩, ?_, ?_,
    fun answer s₁ hhandle => ?_, fun e hhandle => ?_⟩
  · rw [hdrain]
    exact halone.order.process_one split hpos
  · have hclient : (s'.requests i).client = (s₀.requests i).client :=
      congrArg Prod.fst (ha.slot_key i)
    rw [hclient, hf.requests]
    by_cases hi : i = s.tail
    · rw [hi, Function.update_self]
      exact congrArg Prod.fst hsent.key
    · rw [Function.update_of_ne hi]
      exact h.owned i
  · rw [ha.count, halone.count]
  · rw [hdrain]
    exact halone.up hsent.pending hop hsent.up split
  · apply hholds.find_slot hdistinct hid
    rw [ha.requests, halone.head, Function.update_self]
    exact ha.status
  · exact hholds.find_address hdistinct hid
  · have hok : Concluded s₁ (s₀.conclude (.ok (answer, s₁))) s₀.head
        { answer with status := .COMPLETED } := conclude_ok (handle_serves hhandle).ring
    rw [← hhandle, ← hconclude, halone.head] at hok
    exact ⟨hok.slot, hok.memory, hok.blocks, hok.page_buffer⟩
  · have herror := s₀.conclude_error e
    rw [← hhandle, ← hconclude, halone.slot, halone.head] at herror
    exact ⟨herror.slot, herror.memory, herror.blocks⟩

/-! ## The requests -/

/-- Submitting a request without data to copy. -/
theorem submit_plain (op_type : RdmaOp) (local_addr remote_addr size : ℕ) (data : Option Bytes)
    (hfree : s.count < MAX_RDMA_REQUESTS) (hdata : data = none ∨ ¬ (op_type = .WRITE ∧ 0 < size)) :
    s.rdma_submit_request 0 op_type local_addr remote_addr size data false =
      (s.request_id_counter 0,
        ((s.takeId 0).noteRead (s.newRequest 0 op_type local_addr remote_addr size data) false).enqueue
          (s.newRequest 0 op_type local_addr remote_addr size data)) := by
  unfold rdma_submit_request
  rw [if_neg (not_le.mpr hfree)]
  rcases data with _ | data
  · rfl
  · have hno : ¬ (op_type = .WRITE ∧ 0 < size) := hdata.resolve_left (Option.some_ne_none data)
    simp only [if_neg hno]
    rfl

/-- Submitting a write that fits into the page buffer. -/
theorem submit_write (local_addr remote_addr : ℕ) {size : ℕ} (data : Bytes)
    (hfree : s.count < MAX_RDMA_REQUESTS) (hpos : 0 < size) (hsize : size ≤ RDMA_PAGE_BUFFER_SIZE) :
    s.rdma_submit_request 0 .WRITE local_addr remote_addr size (some data) false =
      (s.request_id_counter 0,
        ((s.takeId 0).putData data size).enqueue
          { s.newRequest 0 .WRITE local_addr remote_addr size (some data) with
            data_in_shm_buffer := true }) := by
  unfold rdma_submit_request
  rw [if_neg (not_le.mpr hfree)]
  simp only [true_and, if_pos hpos, if_pos hsize]
  rfl

/-- Submitting a write that does not. -/
theorem submit_rejected (local_addr remote_addr : ℕ) {size : ℕ} (data : Bytes)
    (hfree : s.count < MAX_RDMA_REQUESTS) (hsize : RDMA_PAGE_BUFFER_SIZE < size) :
    s.rdma_submit_request 0 .WRITE local_addr remote_addr size (some data) false =
      (0, (s.takeId 0).fill (s.newRequest 0 .WRITE local_addr remote_addr size (some data))) := by
  unfold rdma_submit_request
  rw [if_neg (not_le.mpr hfree)]
  have hpos : 0 < size := lt_trans (by decide) hsize
  simp only [true_and, if_pos hpos, if_neg (not_le.mpr hsize)]
  rfl

theorem Quiesced.number_ne_zero (h : s.Quiesced) : s.request_id_counter 0 ≠ 0 :=
  (h.numbered.positive 0).ne'

/-- The state after a request without data was submitted. -/
theorem Quiesced.sent_plain (h : s.Quiesced) (op_type : RdmaOp) (local_addr remote_addr size : ℕ)
    (data : Option Bytes) :
    Sent s ((s.takeId 0).noteRead (s.newRequest 0 op_type local_addr remote_addr size data) false)
      (s.newRequest 0 op_type local_addr remote_addr size data) := by
  refine ⟨noteRead_alike _ _ _, rfl, rfl, ?_⟩
  unfold noteRead
  split <;> exact h.up

theorem Quiesced.sent_write (h : s.Quiesced) (local_addr remote_addr size : ℕ) (data : Bytes) :
    Sent s ((s.takeId 0).putData data size)
      { s.newRequest 0 .WRITE local_addr remote_addr size (some data) with
        data_in_shm_buffer := true } :=
  ⟨putData_alike _ _ _, rfl, rfl, h.up⟩

/-- The wait for a request whose slot is found. -/
theorem Handled.poll {s₀ s' : Rdma} {split : Bool} {id : ℕ} (h : Handled s s₀ s' req split id) :
    s'.find_request id = some (s'.requests s.tail) := by
  show (s'.find_slot id).map s'.requests = _
  rw [h.slot]
  rfl

/-- A wait that finds a completed request returns `0`. -/
theorem poll_completed {s : Rdma} {id : ℕ} {answer : Request}
    (hfind : s.find_request id = some { answer with status := .COMPLETED })
    (hread : answer.op_type = .READ → answer.size ≤ RDMA_PAGE_BUFFER_SIZE - answer.buffer_offset) :
    ∃ placed, s.rdma_wait_poll id = some (.ok placed) := by
  unfold rdma_wait_poll
  rw [hfind]
  simp only
  split
  case isTrue hr => exact ⟨_, if_pos (hread hr.1)⟩
  case isFalse => exact ⟨none, rfl⟩

theorem poll_failed {s : Rdma} {id : ℕ} {req : Request} {e : Errno}
    (hfind : s.find_request id = some { req with error_code := some e, status := .FAILED }) :
    s.rdma_wait_poll id = some (.error (some e)) := by
  unfold rdma_wait_poll
  rw [hfind]

section Calls

variable {op_type : RdmaOp} {local_addr remote_addr size : ℕ} {data : Option Bytes}

/-- A call whose request the server completes with `answer` in `s₁`. -/
structure Completes (s : Rdma) (r : Option (ℕ × Option Placed) × Rdma) (answer : Request)
    (s₁ : Rdma) : Prop where
  quiesced : r.2.Quiesced
  returned : ∃ placed, r.1 = some (s.request_id_counter 0, placed)
  address : r.2.find_address (s.request_id_counter 0) = some s.tail
  slot : r.2.requests s.tail = { answer with status := .COMPLETED }
  memory : r.2.memory = s₁.memory
  blocks : r.2.blocks = s₁.blocks
  page_buffer : r.2.page_buffer = s₁.page_buffer

/-- A call whose request the server refuses. -/
structure Fails (s : Rdma) (r : Option (ℕ × Option Placed) × Rdma) : Prop where
  quiesced : r.2.Quiesced
  returned : r.1 = none
  memory : r.2.memory = s.memory
  blocks : r.2.blocks = s.blocks

theorem Quiesced.round_trip_ok (h : s.Quiesced) (split : Bool) (hsent : Sent s s₂ req)
    (hsub : s.rdma_submit_request 0 op_type local_addr remote_addr size data false =
      (s.request_id_counter 0, s₂.enqueue req))
    (hop : req.op_type ≠ .SHUTDOWN) {answer : Request} {s₁ : Rdma}
    (hhandle : rdma_server_handle_request split { req with error_code := none } (s₂.enqueue req) =
      .ok (answer, s₁))
    (hread : answer.op_type = .READ → answer.size ≤ RDMA_PAGE_BUFFER_SIZE - answer.buffer_offset) :
    Completes s (s.round_trip op_type local_addr remote_addr size data split) answer s₁ := by
  obtain ⟨hq, hh⟩ := h.served hsent hop split
  obtain ⟨hslot, hmemory, hblocks, hbuffer⟩ := hh.ok answer s₁ hhandle
  have hfind := hh.poll
  rw [hslot] at hfind
  obtain ⟨placed, hpoll⟩ := poll_completed hfind hread
  have hr : s.round_trip op_type local_addr remote_addr size data split =
      (some (s.request_id_counter 0, placed),
        (s₂.enqueue req).rdma_server_process_requests fun _ => split) := by
    unfold round_trip
    rw [hsub]
    simp only [if_neg h.number_ne_zero, hpoll]
  rw [hr]
  exact ⟨hq, ⟨placed, rfl⟩, hh.address, hslot, hmemory, hblocks, hbuffer⟩

theorem Quiesced.round_trip_error (h : s.Quiesced) (split : Bool) (hsent : Sent s s₂ req)
    (hsub : s.rdma_submit_request 0 op_type local_addr remote_addr size data false =
      (s.request_id_counter 0, s₂.enqueue req))
    (hop : req.op_type ≠ .SHUTDOWN) {e : Errno}
    (hhandle : rdma_server_handle_request split { req with error_code := none } (s₂.enqueue req) =
      .error e) :
    Fails s₂ (s.round_trip op_type local_addr remote_addr size data split) := by
  obtain ⟨hq, hh⟩ := h.served hsent hop split
  obtain ⟨hslot, hmemory, hblocks⟩ := hh.error e hhandle
  have hfind := hh.poll
  rw [hslot] at hfind
  have hpoll := poll_failed hfind
  have hr : s.round_trip op_type local_addr remote_addr size data split =
      (none, (s₂.enqueue req).rdma_server_process_requests fun _ => split) := by
    unfold round_trip
    rw [hsub]
    simp only [if_neg h.number_ne_zero, hpoll]
  rw [hr]
  exact ⟨hq, rfl, hmemory, hblocks⟩

end Calls

/-! ## The handler, operation by operation -/

section Handler

variable {split : Bool} {req : Request}

theorem handle_allocate_ok (hop : req.op_type = .ALLOCATE) {addr : ℕ} {blocks : List MemBlock}
    (ha : rdma_sim_allocate split req.size s.blocks = .ok (addr, blocks)) :
    rdma_server_handle_request split req s =
      .ok ({ req with remote_addr := addr }, { s with blocks := blocks }) := by
  unfold rdma_server_handle_request
  simp only [hop, ha]

theorem handle_allocate_error (hop : req.op_type = .ALLOCATE) {e : Errno}
    (ha : rdma_sim_allocate split req.size s.blocks = .error e) :
    rdma_server_handle_request split req s = .error e := by
  unfold rdma_server_handle_request
  simp only [hop, ha]

/-- The offset of an address range that lies in the simulated memory. -/
theorem conceptual_offset_eq {offset : ℕ} (haddr : req.remote_addr = SIM_REMOTE_MEMORY_BASE + offset)
    (hin : offset + req.size ≤ SIM_REMOTE_MEMORY_SIZE) : conceptual_offset req = some offset := by
  unfold conceptual_offset
  simp only [SIM_REMOTE_MEMORY_BASE, SIM_REMOTE_MEMORY_SIZE] at *
  have hoff : (req.remote_addr + 2 ^ 64 - 0x4000000000) % 2 ^ 64 = offset := by omega
  rw [hoff, if_neg (by omega)]

theorem handle_write (hop : req.op_type = .WRITE) (hdata : req.data_in_shm_buffer = true)
    (hpos : 0 < req.size) {offset : ℕ} (hoff : conceptual_offset req = some offset) :
    let memory := memcpy s.memory offset (fun k => s.page_buffer (req.buffer_offset + k)) req.size
    rdma_server_handle_request split req s = .ok (req,
      { s with
        memory := memory
        writes_log := { request := req, stored := fun k => memory (offset + k) } ::
          s.writes_log }) := by
  unfold rdma_server_handle_request
  simp only [hop, hoff]
  rw [if_neg (by simp [hdata, hpos.ne'])]

theorem handle_read (hop : req.op_type = .READ) (hpos : 0 < req.size)
    (hsize : req.size ≤ RDMA_PAGE_BUFFER_SIZE - req.buffer_offset) {offset : ℕ}
    (hoff : conceptual_offset req = some offset) :
    let found : Bytes := fun k => s.memory (offset + k)
    rdma_server_handle_request split req s = .ok (req,
      { s with
        page_buffer := memcpy s.page_buffer req.buffer_offset found req.size
        reads := Function.update s.reads req.key
          ((s.reads req.key).map fun g => { g with served := some found }) }) := by
  unfold rdma_server_handle_request
  simp only [hop, hoff]
  rw [if_neg (by omega)]

end Handler

/-! ## Calls, operation by operation -/

/-- **`RDMA_OP_ALLOCATE`.** The answer is that of the server's allocator. -/
theorem Quiesced.allocate (h : s.Quiesced) (size : ℕ) (split : Bool) :
    (∃ e, rdma_sim_allocate split size s.blocks = .error e ∧
      Fails s (s.round_trip .ALLOCATE 0 0 size none split)) ∨
    ∃ addr blocks answer, rdma_sim_allocate split size s.blocks = .ok (addr, blocks) ∧
      answer.remote_addr = addr ∧
      Completes s (s.round_trip .ALLOCATE 0 0 size none split) answer { s with blocks := blocks } := by
  have hsent := h.sent_plain .ALLOCATE 0 0 size none
  have hsub := submit_plain .ALLOCATE 0 0 size none h.free (Or.inl rfl)
  have hop : (s.newRequest 0 .ALLOCATE 0 0 size none).op_type ≠ .SHUTDOWN := RdmaOp.noConfusion
  rcases ha : rdma_sim_allocate split size s.blocks with e | ⟨addr, blocks⟩
  · have hf := h.round_trip_error split hsent hsub hop (handle_allocate_error rfl ha)
    exact Or.inl ⟨e, rfl, hf.quiesced, hf.returned, hf.memory, hf.blocks⟩
  · have hc := h.round_trip_ok split hsent hsub hop (handle_allocate_ok rfl ha) fun hr => nomatch hr
    exact Or.inr ⟨addr, blocks, _, rfl, rfl, hc.quiesced, hc.returned, hc.address, hc.slot,
      hc.memory, hc.blocks, hc.page_buffer⟩

/-- Copying `size` bytes into the buffer and from there copies the bytes. -/
theorem memcpy_memcpy (memory buffer data : Bytes) (offset size : ℕ) :
    memcpy memory offset (fun k => memcpy buffer 0 data size (0 + k)) size =
      memcpy memory offset data size := by
  funext a
  unfold memcpy
  split
  case isTrue ha =>
    show (if 0 ≤ 0 + (a - offset) ∧ _ then data (0 + (a - offset) - 0) else _) = _
    rw [if_pos (by omega), Nat.zero_add, Nat.sub_zero]
  case isFalse => rfl

/-- **`RDMA_OP_WRITE`** of at most a page into the memory stores the data there. -/
theorem Quiesced.write (h : s.Quiesced) (local_addr : ℕ) {remote_addr size offset : ℕ} (data : Bytes)
    (split : Bool) (haddr : remote_addr = SIM_REMOTE_MEMORY_BASE + offset)
    (hin : offset + size ≤ SIM_REMOTE_MEMORY_SIZE) (hpos : 0 < size)
    (hsize : size ≤ RDMA_PAGE_BUFFER_SIZE) :
    ∃ answer, Completes s (s.round_trip .WRITE local_addr remote_addr size (some data) split) answer
      { s with
        memory := memcpy s.memory offset data size
        page_buffer := memcpy s.page_buffer 0 data size } := by
  have hsent := h.sent_write local_addr remote_addr size data
  have hsub := submit_write local_addr remote_addr data h.free hpos hsize
  have hc := h.round_trip_ok split hsent hsub RdmaOp.noConfusion
    (handle_write rfl rfl hpos (conceptual_offset_eq haddr hin)) fun hr => nomatch hr
  exact ⟨_, hc.quiesced, hc.returned, hc.address, hc.slot,
    hc.memory.trans (memcpy_memcpy ..), hc.blocks, hc.page_buffer⟩

/-- **`RDMA_OP_READ`** of at most a page from the memory puts it into the page buffer. -/
theorem Quiesced.read (h : s.Quiesced) (local_addr : ℕ) {remote_addr size offset : ℕ}
    (split : Bool) (haddr : remote_addr = SIM_REMOTE_MEMORY_BASE + offset)
    (hin : offset + size ≤ SIM_REMOTE_MEMORY_SIZE) (hpos : 0 < size)
    (hsize : size ≤ RDMA_PAGE_BUFFER_SIZE) :
    ∃ answer, Completes s (s.round_trip .READ local_addr remote_addr size none split) answer
      { s with page_buffer := memcpy s.page_buffer 0 (fun k => s.memory (offset + k)) size } := by
  have hsent := h.sent_plain .READ local_addr remote_addr size none
  have hsub := submit_plain .READ local_addr remote_addr size none h.free (Or.inl rfl)
  have hc := h.round_trip_ok split hsent hsub RdmaOp.noConfusion
    (handle_read rfl hpos hsize (conceptual_offset_eq haddr hin)) fun _ => hsize
  exact ⟨_, hc.quiesced, hc.returned, hc.address, hc.slot, hc.memory, hc.blocks, hc.page_buffer⟩

/-! ## Reads and writes of any size -/

/-- Only `RDMA_OP_ALLOCATE` changes the blocks. -/
theorem handle_blocks {split : Bool} {req answer : Request} {s s₁ : Rdma}
    (h : rdma_server_handle_request split req s = .ok (answer, s₁)) (hop : req.op_type ≠ .ALLOCATE) :
    s₁.blocks = s.blocks := by
  unfold rdma_server_handle_request at h
  cases hreq : req.op_type <;> simp only [hreq] at h
  case ALLOCATE => exact absurd hreq hop
  case FREE => cases h
  case INIT => cases h; rfl
  case SHUTDOWN => cases h; rfl
  all_goals
    repeat' split at h
    all_goals cases h
    all_goals rfl

/-- A call with a request that the ring accepts leaves the blocks alone. -/
theorem Quiesced.kept_of_sent (h : s.Quiesced) {op_type : RdmaOp} {local_addr remote_addr size : ℕ}
    {data : Option Bytes} (split : Bool) (hsent : Sent s s₂ req)
    (hsub : s.rdma_submit_request 0 op_type local_addr remote_addr size data false =
      (s.request_id_counter 0, s₂.enqueue req))
    (hop : req.op_type ≠ .SHUTDOWN) (halloc : req.op_type ≠ .ALLOCATE)
    (hblocks : s₂.blocks = s.blocks) :
    (s.round_trip op_type local_addr remote_addr size data split).2.Quiesced ∧
      (s.round_trip op_type local_addr remote_addr size data split).2.blocks = s.blocks := by
  obtain ⟨hq, hh⟩ := h.served hsent hop split
  have hr : (s.round_trip op_type local_addr remote_addr size data split).2 =
      (s₂.enqueue req).rdma_server_process_requests fun _ => split := by
    unfold round_trip
    rw [hsub]
    simp only [if_neg h.number_ne_zero]
    split <;> rfl
  rw [hr]
  refine ⟨hq, ?_⟩
  rcases hhandle : rdma_server_handle_request split { req with error_code := none } (s₂.enqueue req)
    with e | ⟨answer, s₁⟩
  · rw [(hh.error e hhandle).2.2]
    exact hblocks
  · rw [(hh.ok answer s₁ hhandle).2.2.1, handle_blocks hhandle halloc]
    exact hblocks

/-- A write that is too large uses up a number and a slot. -/
theorem Quiesced.rejected (h : s.Quiesced) (local_addr remote_addr size : ℕ) (data : Option Bytes) :
    ((s.takeId 0).fill (s.newRequest 0 .WRITE local_addr remote_addr size data)).Quiesced := by
  have hf : Filled s ((s.takeId 0).fill (s.newRequest 0 .WRITE local_addr remote_addr size data)) 0
      (s.newRequest 0 .WRITE local_addr remote_addr size data) :=
    ⟨h.free, rfl, rfl, rfl, rfl, le_rfl, rfl, rfl⟩
  have hsub : Submitted s 0 .WRITE 0
      ((s.takeId 0).fill (s.newRequest 0 .WRITE local_addr remote_addr size data)) :=
    .rejected h.free rfl rfl
  refine ⟨h.order.submitted hsub,
    h.numbered.filled hf, h.distinct.filled h.numbered (fun i _ _ => h.owned i) hf, fun i => ?_,
    h.empty, h.up⟩
  rw [hf.requests]
  by_cases hi : i = s.tail
  · rw [hi, Function.update_self]
    rfl
  · rw [Function.update_of_ne hi]
    exact h.owned i

/-- Its submit returns `0`, so that nothing is waited for. -/
theorem Quiesced.round_trip_too_large (h : s.Quiesced) (local_addr remote_addr : ℕ) {size : ℕ}
    (data : Bytes) (split : Bool) (hsize : RDMA_PAGE_BUFFER_SIZE < size) :
    s.round_trip .WRITE local_addr remote_addr size (some data) split =
      (none, (s.takeId 0).fill (s.newRequest 0 .WRITE local_addr remote_addr size (some data))) := by
  unfold round_trip
  rw [submit_rejected local_addr remote_addr data h.free hsize]
  rfl

/-- **Reads and writes**, of any size and to any address, leave the blocks of the server alone. -/
theorem Quiesced.read_kept (h : s.Quiesced) (local_addr remote_addr size : ℕ) (split : Bool) :
    (s.round_trip .READ local_addr remote_addr size none split).2.Quiesced ∧
      (s.round_trip .READ local_addr remote_addr size none split).2.blocks = s.blocks :=
  h.kept_of_sent split (h.sent_plain .READ local_addr remote_addr size none)
    (submit_plain .READ local_addr remote_addr size none h.free (Or.inl rfl))
    RdmaOp.noConfusion RdmaOp.noConfusion rfl

theorem Quiesced.write_kept (h : s.Quiesced) (local_addr remote_addr size : ℕ) (data : Bytes)
    (split : Bool) :
    (s.round_trip .WRITE local_addr remote_addr size (some data) split).2.Quiesced ∧
      (s.round_trip .WRITE local_addr remote_addr size (some data) split).2.blocks = s.blocks := by
  rcases Nat.eq_zero_or_pos size with h0 | hpos
  · -- nothing is copied, and the server refuses the request
    exact h.kept_of_sent split (h.sent_plain .WRITE local_addr remote_addr size (some data))
      (submit_plain .WRITE local_addr remote_addr size (some data) h.free (Or.inr (by omega)))
      RdmaOp.noConfusion RdmaOp.noConfusion rfl
  · by_cases hsize : size ≤ RDMA_PAGE_BUFFER_SIZE
    · exact h.kept_of_sent split (h.sent_write local_addr remote_addr size data)
        (submit_write local_addr remote_addr data h.free hpos hsize)
        RdmaOp.noConfusion RdmaOp.noConfusion rfl
    · rw [h.round_trip_too_large local_addr remote_addr data split (not_le.1 hsize)]
      exact ⟨h.rejected local_addr remote_addr size (some data), rfl⟩

/-- **Reads of nothing, or of more than the page buffer**, are refused. -/
theorem Quiesced.read_refused (h : s.Quiesced) (local_addr remote_addr : ℕ) {size : ℕ} (split : Bool)
    (hsize : ¬ (0 < size ∧ size ≤ RDMA_PAGE_BUFFER_SIZE)) :
    Fails s (s.round_trip .READ local_addr remote_addr size none split) := by
  have hhandle : ∀ s₀ : Rdma, rdma_server_handle_request split
      { s.newRequest 0 .READ local_addr remote_addr size none with error_code := none } s₀ =
        .error .EINVAL := by
    intro s₀
    have hbad : size = 0 ∨ RDMA_PAGE_BUFFER_SIZE - 0 < size := by omega
    unfold rdma_server_handle_request
    exact if_pos hbad
  have hf := h.round_trip_error split (h.sent_plain .READ local_addr remote_addr size none)
    (submit_plain .READ local_addr remote_addr size none h.free (Or.inl rfl)) RdmaOp.noConfusion
    (hhandle _)
  exact ⟨hf.quiesced, hf.returned, hf.memory, hf.blocks⟩

/-- **Writes of nothing, or of more than the page buffer**, are refused. -/
theorem Quiesced.write_refused (h : s.Quiesced) (local_addr remote_addr : ℕ) {size : ℕ} (data : Bytes)
    (split : Bool) (hsize : ¬ (0 < size ∧ size ≤ RDMA_PAGE_BUFFER_SIZE)) :
    Fails s (s.round_trip .WRITE local_addr remote_addr size (some data) split) := by
  rcases Nat.eq_zero_or_pos size with rfl | hpos
  · have hhandle : ∀ s₀ : Rdma, rdma_server_handle_request split
        { s.newRequest 0 .WRITE local_addr remote_addr 0 (some data) with error_code := none } s₀ =
          .error .EINVAL := by
      intro s₀
      unfold rdma_server_handle_request
      exact if_pos (Or.inr rfl)
    have hf := h.round_trip_error split (h.sent_plain .WRITE local_addr remote_addr 0 (some data))
      (submit_plain .WRITE local_addr remote_addr 0 (some data) h.free (Or.inr (by omega)))
      RdmaOp.noConfusion (hhandle _)
    exact ⟨hf.quiesced, hf.returned, hf.memory, hf.blocks⟩
  · rw [h.round_trip_too_large local_addr remote_addr data split (by omega)]
    exact ⟨h.rejected local_addr remote_addr size (some data), rfl, rfl, rfl⟩

end Rdma

end SwapPrefetch
