/-
The steps of the RDMA simulation, case by case.

The pending requests are the queue that the ring of `src/rdma_sim.c` holds. Accepting a
request appends to it, the server takes from its front, and a rejected request leaves it
alone. What a submit, a turn of the drain loop and the steps of a reading thread can do to
the state is said once, in `submit_cases`, `process_one_cases`, `wait_cases`, `recopy_cases`
and `give_up_cases`; invariants of runs are proved from these. `conclude` is what a turn of the
drain loop does with the answer of the handler, whichever handler gave it.
-/
import Mathlib.Tactic
import SwapPrefetch.RdmaSim

set_option autoImplicit false

namespace SwapPrefetch

namespace Rdma

/-! ## The pending requests -/

/-- The pending requests, oldest first. -/
def queue (s : Rdma) : List Request := Ring.view MAX_RDMA_REQUESTS s.requests s.head s.count

/-- The indices of the ring. -/
structure RingOk (s : Rdma) : Prop where
  head : s.head < MAX_RDMA_REQUESTS
  count : s.count ≤ MAX_RDMA_REQUESTS
  tail : s.tail = (s.head + s.count) % MAX_RDMA_REQUESTS

/-- Write back the slot at `head` and release it. -/
def advance (s : Rdma) (req : Request) : Rdma :=
  { s with
    requests := Function.update s.requests s.head req
    head := (s.head + 1) % MAX_RDMA_REQUESTS
    count := s.count - 1 }

/-- The counters and the log of a request that was answered: a request that is not pending
is released without an answer. -/
def answered (s : Rdma) (req answer : Request) : Rdma :=
  if req.status = .PENDING then
    { s.noteServed req answer with
      completed_requests := s.completed_requests + (if answer.status = .COMPLETED then 1 else 0)
      failed_requests := s.failed_requests + (if answer.status = .COMPLETED then 0 else 1) }
  else s

variable {s : Rdma}

/-- A rejected request leaves its trace outside the queue. -/
theorem RingOk.queue_fill (h : s.RingOk) (hfree : s.count < MAX_RDMA_REQUESTS) (req : Request) :
    (s.fill req).queue = s.queue := by
  unfold queue fill
  rw [h.tail]
  exact Ring.view_update hfree le_rfl req

theorem RingOk.queue_enqueue (h : s.RingOk) (hfree : s.count < MAX_RDMA_REQUESTS)
    (req : Request) : (s.enqueue req).queue = s.queue ++ [req] := by
  unfold queue enqueue fill
  rw [h.tail]
  exact Ring.view_push hfree req

theorem RingOk.enqueue (h : s.RingOk) (hfree : s.count < MAX_RDMA_REQUESTS) (req : Request) :
    (s.enqueue req).RingOk := by
  refine ⟨h.head, hfree, ?_⟩
  show (s.tail + 1) % MAX_RDMA_REQUESTS = (s.head + (s.count + 1)) % MAX_RDMA_REQUESTS
  rw [h.tail, Nat.mod_add_mod, Nat.add_assoc]

/-- The request at `head` is the first of the queue, whatever is written back for it. -/
theorem RingOk.queue_advance (h : s.RingOk) (hpos : 0 < s.count) (req : Request) :
    s.queue = s.requests s.head :: (s.advance req).queue := by
  obtain ⟨n, hn⟩ : ∃ n, s.count = n + 1 := ⟨s.count - 1, by omega⟩
  have hlt : n < MAX_RDMA_REQUESTS := by have := h.count; omega
  have hpop : Ring.view MAX_RDMA_REQUESTS (Function.update s.requests (s.head % _) req)
      (s.head + 1) n = Ring.view MAX_RDMA_REQUESTS s.requests (s.head + 1) n :=
    Ring.view_pop hlt req
  rw [Nat.mod_eq_of_lt h.head] at hpop
  unfold queue advance
  rw [hn, Ring.view, Nat.mod_eq_of_lt h.head]
  show _ = _ :: Ring.view MAX_RDMA_REQUESTS _ ((s.head + 1) % MAX_RDMA_REQUESTS) (n + 1 - 1)
  rw [Ring.view_mod, Nat.add_sub_cancel, hpop]

theorem RingOk.advance (h : s.RingOk) (hpos : 0 < s.count) (req : Request) :
    (s.advance req).RingOk := by
  refine ⟨Nat.mod_lt _ (by decide), (Nat.sub_le _ _).trans h.count, ?_⟩
  show s.tail = ((s.head + 1) % MAX_RDMA_REQUESTS + (s.count - 1)) % MAX_RDMA_REQUESTS
  rw [h.tail, Nat.mod_add_mod, show s.head + 1 + (s.count - 1) = s.head + s.count by omega]

/-- The rings of two states agree. -/
structure SameRing (s₁ s : Rdma) : Prop where
  requests : s₁.requests = s.requests
  head : s₁.head = s.head
  tail : s₁.tail = s.tail
  count : s₁.count = s.count

theorem SameRing.queue {s₁ : Rdma} (h : SameRing s₁ s) : s₁.queue = s.queue := by
  unfold Rdma.queue
  rw [h.requests, h.head, h.count]

theorem SameRing.ringOk {s₁ : Rdma} (h : SameRing s₁ s) (hs : s.RingOk) : s₁.RingOk := by
  refine ⟨?_, ?_, ?_⟩
  · rw [h.head]
    exact hs.head
  · rw [h.count]
    exact hs.count
  · rw [h.tail, h.head, h.count]
    exact hs.tail

/-! ## What the steps can do -/

/-- A submit that copies its data into the page buffer. -/
def FillsBuffer (s : Rdma) (op_type : RdmaOp) (size : ℕ) (data : Option Bytes) : Prop :=
  s.count < MAX_RDMA_REQUESTS ∧ op_type = .WRITE ∧ data.isSome ∧
    0 < size ∧ size ≤ RDMA_PAGE_BUFFER_SIZE

/-- The next request number of a process is taken. -/
def takeId (s : Rdma) (client : ℕ) : Rdma :=
  { s with request_id_counter :=
      Function.update s.request_id_counter client (s.request_id_counter client + 1) }

/-- The data of a write is copied into the page buffer. -/
def putData (s : Rdma) (data : Bytes) (size : ℕ) : Rdma :=
  { s with page_buffer := memcpy s.page_buffer 0 data size }

theorem takeId_ring (s : Rdma) (client : ℕ) : SameRing (s.takeId client) s :=
  ⟨rfl, rfl, rfl, rfl⟩

theorem putData_ring (s : Rdma) (client : ℕ) (data : Bytes) (size : ℕ) :
    SameRing ((s.takeId client).putData data size) s :=
  ⟨rfl, rfl, rfl, rfl⟩

theorem noteRead_ring (s : Rdma) (client : ℕ) (req : Request) (read_page : Bool) :
    SameRing ((s.takeId client).noteRead req read_page) s := by
  unfold noteRead
  split <;> exact ⟨rfl, rfl, rfl, rfl⟩

@[simp] theorem noteRead_page_buffer (s : Rdma) (req : Request) (read_page : Bool) :
    (s.noteRead req read_page).page_buffer = s.page_buffer := by
  unfold noteRead
  split <;> rfl

@[simp] theorem noteRead_writes_log (s : Rdma) (req : Request) (read_page : Bool) :
    (s.noteRead req read_page).writes_log = s.writes_log := by
  unfold noteRead
  split <;> rfl

/-- The request that a submit writes into its slot, before its data. -/
def newRequest (s : Rdma) (client : ℕ) (op_type : RdmaOp) (local_addr remote_addr size : ℕ)
    (data : Option Bytes) : Request :=
  { request_id := s.request_id_counter client, op_type := op_type, local_addr := local_addr
    remote_addr := remote_addr, size := size, client := client
    payload := data.getD fun _ => 0 }

/-- **Submits.** The ring is full; or the data is too large, and only the slot and the number
are used up; or the data is copied to the page buffer; or there is no data to copy. -/
theorem submit_cases (s : Rdma) (client : ℕ) (op_type : RdmaOp) (local_addr remote_addr size : ℕ)
    (data : Option Bytes) (read_page : Bool) :
    let s' := (s.rdma_submit_request client op_type local_addr remote_addr size data read_page).2
    let req := s.newRequest client op_type local_addr remote_addr size data
    s' = s ∨
    (s.count < MAX_RDMA_REQUESTS ∧ op_type = .WRITE ∧ s' = (s.takeId client).fill req) ∨
    (s.FillsBuffer op_type size data ∧
      s' = ((s.takeId client).putData req.payload size).enqueue
        { req with data_in_shm_buffer := true }) ∨
    (s.count < MAX_RDMA_REQUESTS ∧ s' = ((s.takeId client).noteRead req read_page).enqueue req) := by
  intro s' req
  by_cases hfull : MAX_RDMA_REQUESTS ≤ s.count
  · refine Or.inl ?_
    show (s.rdma_submit_request client op_type local_addr remote_addr size data read_page).2 = s
    rw [rdma_submit_request, if_pos hfull]
  · have hfree : s.count < MAX_RDMA_REQUESTS := not_le.mp hfull
    refine Or.inr ?_
    cases data with
    | none =>
        refine Or.inr (Or.inr ⟨hfree, ?_⟩)
        simp only [s', rdma_submit_request, if_neg hfull]
        rfl
    | some data =>
        -- only a write with data goes through the page buffer
        by_cases hwrite : op_type = .WRITE ∧ 0 < size
        · by_cases hsize : size ≤ RDMA_PAGE_BUFFER_SIZE
          · refine Or.inr (Or.inl ⟨⟨hfree, hwrite.1, rfl, hwrite.2, hsize⟩, ?_⟩)
            simp only [s', rdma_submit_request, if_neg hfull, if_pos hwrite, if_pos hsize]
            rfl
          · refine Or.inl ⟨hfree, hwrite.1, ?_⟩
            simp only [s', rdma_submit_request, if_neg hfull, if_pos hwrite, if_neg hsize]
            rfl
        · refine Or.inr (Or.inr ⟨hfree, ?_⟩)
          simp only [s', rdma_submit_request, if_neg hfull, if_neg hwrite]
          rfl

/-- What the server may change in a slot: the status, the error and the address. -/
structure SameRequest (req' req : Request) : Prop where
  request_id : req'.request_id = req.request_id
  op_type : req'.op_type = req.op_type
  local_addr : req'.local_addr = req.local_addr
  size : req'.size = req.size
  buffer_offset : req'.buffer_offset = req.buffer_offset
  client : req'.client = req.client

theorem SameRequest.key {req' req : Request} (h : SameRequest req' req) : req'.key = req.key := by
  rw [Request.key, Request.key, h.client, h.request_id]

/-- Releasing the slot at `head` leaves the other slots alone. -/
theorem SameRing.advance_of_ne {s₁ : Rdma} (h : SameRing s₁ s) {req' : Request} {i : ℕ}
    (hi : i ≠ s.head) : (s₁.advance req').requests i = s.requests i := by
  show Function.update s₁.requests s₁.head req' i = _
  rw [h.head, Function.update_of_ne hi, h.requests]

theorem SameRing.advance_head {s₁ : Rdma} (h : SameRing s₁ s) {req' : Request} :
    (s₁.advance req').requests s.head = req' := by
  show Function.update s₁.requests s₁.head req' s.head = req'
  rw [h.head, Function.update_self]

/-- After the release every slot still holds its request. -/
theorem SameRing.advance_same {s₁ : Rdma} (h : SameRing s₁ s) {req' : Request}
    (hsame : SameRequest req' (s.requests s.head)) (i : ℕ) :
    SameRequest ((s₁.advance req').requests i) (s.requests i) := by
  by_cases hi : i = s.head
  · rw [hi, h.advance_head]
    exact hsame
  · rw [h.advance_of_ne hi]
    exact ⟨rfl, rfl, rfl, rfl, rfl, rfl⟩

/-- The server answers a request without moving bytes. -/
structure Quiet (s : Rdma) (req : Request) (s₁ : Rdma) (req' : Request) : Prop where
  same : SameRequest req' req
  state : s₁ = { s with blocks := s₁.blocks, shutdown_requested := s₁.shutdown_requested }
  completed : req'.status = .COMPLETED → req.op_type ≠ .READ ∨ req.status = .COMPLETED

/-- The server completes a read. -/
structure ReadServed (s : Rdma) (req : Request) (s₁ : Rdma) (req' : Request) (found : Bytes) :
    Prop where
  same : SameRequest req' req
  read : req.op_type = .READ
  nonempty : 0 < req.size
  state : s₁ =
    { s with
      page_buffer := memcpy s.page_buffer req.buffer_offset found req.size
      reads := Function.update s.reads req.key
        ((s.reads req.key).map fun g => { g with served := some found }) }

/-- The server completes a write. -/
structure WriteServed (s : Rdma) (req : Request) (s₁ : Rdma) (req' : Request) (w : StoredWrite) :
    Prop where
  same : SameRequest req' req
  write : req.op_type = .WRITE
  data : req.data_in_shm_buffer = true
  request : w.request = req
  stored : ∀ k, k < req.size → w.stored k = s.page_buffer (req.buffer_offset + k)
  state : ∃ memory, s₁ = { s with memory := memory, writes_log := w :: s.writes_log }

/-- What serving `req` does, with `req'` written back to its slot. -/
def Serves (s : Rdma) (req : Request) (s₁ : Rdma) (req' : Request) : Prop :=
  Quiet s req s₁ req' ∨ (∃ found, ReadServed s req s₁ req' found) ∨
    ∃ w, WriteServed s req s₁ req' w

/-- A request that the handler accepts. -/
theorem handle_serves {split : Bool} {req req₁ : Request} {s₁ : Rdma}
    (h : rdma_server_handle_request split req s = .ok (req₁, s₁)) :
    Serves s req s₁ { req₁ with status := .COMPLETED } := by
  unfold rdma_server_handle_request at h
  -- only reads and writes touch what is logged
  cases hop : req.op_type <;> simp only [hop] at h
  case READ =>
    split at h
    · exact nomatch h
    · rename_i hsize
      split at h
      · exact nomatch h
      · rename_i offset _
        obtain ⟨rfl, rfl⟩ : req = req₁ ∧ _ = s₁ := by simpa using h
        refine Or.inr (Or.inl ⟨fun k => s.memory (offset + k),
          ⟨rfl, rfl, rfl, rfl, rfl, rfl⟩, hop, ?_, rfl⟩)
        omega
  case WRITE =>
    split at h
    · exact nomatch h
    · rename_i hdata
      split at h
      · exact nomatch h
      · rename_i offset _
        obtain ⟨rfl, rfl⟩ : req = req₁ ∧ _ = s₁ := by simpa using h
        have hfilled : req.data_in_shm_buffer = true := by
          simpa using (not_or.mp hdata).1
        refine Or.inr (Or.inr ⟨_, ⟨rfl, rfl, rfl, rfl, rfl, rfl⟩, hop, hfilled, rfl, ?_, _, rfl⟩)
        intro k hk
        simp only [memcpy]
        rw [if_pos (by omega), Nat.add_sub_cancel_left]
  case ALLOCATE =>
    split at h
    · obtain ⟨rfl, rfl⟩ : _ = req₁ ∧ _ = s₁ := by simpa using h
      exact Or.inl ⟨⟨rfl, hop.symm, rfl, rfl, rfl, rfl⟩, rfl, fun _ => Or.inl (by rw [hop]; decide)⟩
    · exact nomatch h
  case FREE => exact nomatch h
  all_goals
    obtain ⟨rfl, rfl⟩ : req = req₁ ∧ _ = s₁ := by simpa using h
    exact Or.inl ⟨⟨rfl, rfl, rfl, rfl, rfl, rfl⟩, rfl, fun _ => Or.inl (by rw [hop]; decide)⟩

theorem Serves.ring {req req' : Request} {s₁ : Rdma} (h : Serves s req s₁ req') :
    SameRing s₁ s := by
  rcases h with hq | ⟨found, hr⟩ | ⟨w, hw⟩
  · rw [hq.state]
    exact ⟨rfl, rfl, rfl, rfl⟩
  · rw [hr.state]
    exact ⟨rfl, rfl, rfl, rfl⟩
  · obtain ⟨memory, hm⟩ := hw.state
    rw [hm]
    exact ⟨rfl, rfl, rfl, rfl⟩

/-- Counting a request changes nothing but the counters and the log. -/
theorem answered_eq (s : Rdma) (req answer : Request) :
    ∃ completed failed served, s.answered req answer =
      { s with
        completed_requests := completed, failed_requests := failed, served := served } := by
  unfold answered
  split
  · exact ⟨_, _, _, rfl⟩
  · exact ⟨_, _, _, rfl⟩

theorem answered_ring (s : Rdma) (req answer : Request) : SameRing (s.answered req answer) s := by
  obtain ⟨completed, failed, served, he⟩ := s.answered_eq req answer
  rw [he]
  exact ⟨rfl, rfl, rfl, rfl⟩

theorem SameRing.advance {s₁ : Rdma} (h : SameRing s₁ s) (req : Request) :
    SameRing (s₁.advance req) (s.advance req) := by
  unfold Rdma.advance
  refine ⟨?_, ?_, h.tail, ?_⟩
  · simp only [h.requests, h.head]
  · simp only [h.head]
  · simp only [h.count]

/-- The request at `head`, as the handler gets it. -/
def serving (s : Rdma) : Request := { s.requests s.head with error_code := none }

theorem SameRequest.of_serving {req' : Request} (h : SameRequest req' s.serving) :
    SameRequest req' (s.requests s.head) :=
  ⟨h.request_id, h.op_type, h.local_addr, h.size, h.buffer_offset, h.client⟩

/-- One turn of the drain loop for a pending request that the handler accepts. -/
theorem process_one_ok {split : Bool} {answer : Request} {s₁ : Rdma}
    (hpending : (s.requests s.head).status = .PENDING)
    (h : rdma_server_handle_request split s.serving s = .ok (answer, s₁)) :
    s.process_one split = (s₁.answered (s.requests s.head) { answer with status := .COMPLETED }).advance
      { answer with status := .COMPLETED } := by
  have hhead : s₁.head = s.head := (handle_serves h).ring.head
  unfold serving at h
  simp only [process_one, if_pos hpending, h, answered, advance, noteServed, hhead]
  rfl

/-- One turn for a pending request that the handler refuses: the error is noted in the slot, and
nothing else changes. -/
theorem process_one_error {split : Bool} {e : Errno}
    (hpending : (s.requests s.head).status = .PENDING)
    (h : rdma_server_handle_request split s.serving s = .error e) :
    let answer := { s.requests s.head with error_code := some e, status := .FAILED }
    s.process_one split = (s.answered (s.requests s.head) answer).advance answer := by
  unfold serving at h
  simp only [process_one, if_pos hpending, h, answered, advance, noteServed]
  rfl

/-- Answering a request and releasing its slot leaves the memory, the blocks and the buffer as
the handler left them. -/
theorem released_data (s : Rdma) (req answer : Request) :
    ((s.answered req answer).advance answer).memory = s.memory ∧
      ((s.answered req answer).advance answer).blocks = s.blocks ∧
      ((s.answered req answer).advance answer).page_buffer = s.page_buffer ∧
      ((s.answered req answer).advance answer).shutdown_requested = s.shutdown_requested := by
  obtain ⟨completed, failed, served, he⟩ := s.answered_eq req answer
  rw [he]
  exact ⟨rfl, rfl, rfl, rfl⟩

/-- What the drain loop makes of the outcome of the handler. -/
def conclude (s : Rdma) : Except Errno (Request × Rdma) → Rdma
  | .ok (answer, s₁) =>
      let answer := { answer with status := .COMPLETED }
      (s₁.answered (s.requests s.head) answer).advance answer
  | .error e =>
      let answer := { s.requests s.head with error_code := some e, status := .FAILED }
      (s.answered (s.requests s.head) answer).advance answer

/-- One turn of the drain loop for a pending request. -/
theorem process_one_pending (split : Bool) (hpending : (s.requests s.head).status = .PENDING) :
    s.process_one split = s.conclude (rdma_server_handle_request split s.serving s) := by
  rcases hout : rdma_server_handle_request split s.serving s with e | ⟨answer, s₁⟩
  · exact process_one_error hpending hout
  · exact process_one_ok hpending hout

/-- The slot `i` holds the answer, and the rest is as the handler left it in `s₁`. -/
structure Concluded (s₁ s' : Rdma) (i : ℕ) (answer : Request) : Prop where
  slot : s'.requests i = answer
  memory : s'.memory = s₁.memory
  blocks : s'.blocks = s₁.blocks
  page_buffer : s'.page_buffer = s₁.page_buffer
  shutdown_requested : s'.shutdown_requested = s₁.shutdown_requested

theorem concluded_advance {s₁ : Rdma} (hring : SameRing s₁ s) (req answer : Request) :
    Concluded s₁ ((s₁.answered req answer).advance answer) s.head answer := by
  obtain ⟨hmemory, hblocks, hbuffer, hup⟩ := s₁.released_data req answer
  refine ⟨?_, hmemory, hblocks, hbuffer, hup⟩
  rw [← hring.head]
  exact (s₁.answered_ring req answer).advance_head

theorem conclude_ok {answer : Request} {s₁ : Rdma} (hring : SameRing s₁ s) :
    Concluded s₁ (s.conclude (.ok (answer, s₁))) s.head { answer with status := .COMPLETED } :=
  concluded_advance hring _ _

theorem conclude_error (s : Rdma) (e : Errno) :
    Concluded s (s.conclude (.error e)) s.head
      { s.requests s.head with error_code := some e, status := .FAILED } :=
  concluded_advance ⟨rfl, rfl, rfl, rfl⟩ _ _

/-- **The server.** One turn of the drain loop moves no bytes, or completes a read, or
completes a write; then it counts the request and releases the slot. -/
theorem process_one_cases (split : Bool) (s : Rdma) :
    ∃ s₁ req', s.process_one split = (s₁.answered (s.requests s.head) req').advance req' ∧
      Serves s s.serving s₁ req' ∧
      ((s.requests s.head).status = .PENDING → req'.status ≠ .PENDING) := by
  by_cases hpending : (s.requests s.head).status = .PENDING
  · cases hreq : rdma_server_handle_request split s.serving s with
    | error e =>
        exact ⟨s, _, process_one_error hpending hreq,
          Or.inl ⟨⟨rfl, rfl, rfl, rfl, rfl, rfl⟩, rfl, fun h => nomatch h⟩, fun _ h => nomatch h⟩
    | ok r =>
        exact ⟨r.2, _, process_one_ok hpending hreq, handle_serves hreq, fun _ h => nomatch h⟩
  · -- the slot is not pending: it is released as it is
    refine ⟨s, s.requests s.head, ?_, Or.inl ⟨⟨rfl, rfl, rfl, rfl, rfl, rfl⟩, rfl, Or.inr⟩,
      fun h => absurd h hpending⟩
    simp only [process_one, if_neg hpending, answered, advance, Function.update_eq_self]

theorem process_one_count (split : Bool) (s : Rdma) :
    (s.process_one split).count = s.count - 1 := by
  obtain ⟨s₁, req', he, hs, -⟩ := process_one_cases split s
  rw [he]
  show (s₁.answered (s.requests s.head) req').count - 1 = s.count - 1
  rw [(s₁.answered_ring _ _).count, hs.ring.count]

/-- **Drains.** What every turn of the loop keeps, a drain keeps. -/
theorem drain_invariant {I : Rdma → Prop}
    (h : ∀ split s, I s → 0 < s.count → I (s.process_one split)) (split : ℕ → Bool) (hs : I s) :
    I (s.rdma_server_process_requests split) := by
  have loop : ∀ (n : ℕ) (s : Rdma), n ≤ s.count → I s → I (process_loop split n s) := by
    intro n
    induction n with
    | zero => exact fun _ _ hs => hs
    | succ n ih =>
        intro s hn hs
        refine ih _ ?_ (h _ s hs (by omega))
        rw [process_one_count]
        omega
  unfold rdma_server_process_requests
  split
  · exact hs
  · exact loop s.count s le_rfl hs

/-- **Waits.** The thread does not wait, or finds nothing; or its wait fails; or it returns
with what it copied. -/
theorem wait_cases (s : Rdma) (client request_id : ℕ) :
    step (.wait client request_id) s = s ∨
    ∃ g, s.reads (client, request_id) = some g ∧ g.phase = .waiting ∧
      (step (.wait client request_id) s = s.setPhase (client, request_id) .done ∨
        ∃ placed, s.rdma_wait_poll request_id = some (.ok placed) ∧
          step (.wait client request_id) s = (s.noteReturn g placed).setPhase (client, request_id)
            (if g.read_page then .copying else .done)) := by
  simp only [step]
  split
  · rename_i g hg
    by_cases hphase : g.phase = .waiting
    · rw [if_pos hphase]
      unfold wait_step
      split
      · exact Or.inl rfl
      · exact Or.inr ⟨g, hg, hphase, Or.inl rfl⟩
      · rename_i placed hpoll
        exact Or.inr ⟨g, hg, hphase, Or.inr ⟨placed, hpoll, rfl⟩⟩
    · exact Or.inl (if_neg hphase)
  · exact Or.inl rfl

/-- The second copy of `rdma_read_page`, of whatever the buffer holds. -/
theorem recopy_cases (s : Rdma) (client request_id : ℕ) :
    step (.recopy client request_id) s = s ∨
    ∃ g, s.reads (client, request_id) = some g ∧ g.phase = .copying ∧
      step (.recopy client request_id) s =
        (s.noteReturn g (some { local_addr := g.local_addr, size := g.size
                                bytes := s.page_buffer })).setPhase (client, request_id) .done := by
  simp only [step]
  split
  · rename_i g hg
    by_cases hphase : g.phase = .copying
    · rw [if_pos hphase]
      exact Or.inr ⟨g, hg, hphase, rfl⟩
    · exact Or.inl (if_neg hphase)
  · exact Or.inl rfl

theorem give_up_cases (s : Rdma) (client request_id : ℕ) :
    step (.give_up client request_id) s = s ∨
    step (.give_up client request_id) s = s.setPhase (client, request_id) .done := by
  simp only [step]
  split
  · split
    · exact Or.inr rfl
    · exact Or.inl rfl
  · exact Or.inl rfl

end Rdma

end SwapPrefetch
