/-
The RDMA simulation of `src/rdma_sim.c`: clients put requests into a ring in shared memory,
and the server drains it.

A submit and a drain loop hold `queue_mutex`, so each is one step. The completion copy of
`rdma_wait_request` and the second copy of `rdma_read_page` are made outside the lock; each
is a step of its own. All data passes through one `page_buffer`, which has no owner.

What is stored only for the statements is marked as a ghost: what a submitter passed as
data, what the server had at a request's address when it served it, how far the client of a
read has got, and logs of the requests accepted and served, of the writes served and of the
reads returned. No routine reads them.

Request numbers and the three counters are not taken modulo `2 ^ 64`. The other statistics of
the segment are left out, and so are the `initialized` flags: the server is up and the clients
are attached.
-/
import Mathlib.Tactic
import SwapPrefetch.RdmaAlloc
import SwapPrefetch.Ring

set_option autoImplicit false

namespace SwapPrefetch

/-- `MAX_RDMA_REQUESTS`. -/
abbrev MAX_RDMA_REQUESTS : ℕ := 128

/-- `RDMA_PAGE_BUFFER_SIZE`. -/
abbrev RDMA_PAGE_BUFFER_SIZE : ℕ := 4096

/-- `rdma_op_type_e`. -/
inductive RdmaOp where
  | READ
  | WRITE
  | INIT
  | SHUTDOWN
  | ALLOCATE
  | FREE
deriving DecidableEq, Repr

/-- `rdma_req_status_e`. -/
inductive ReqStatus where
  | PENDING
  | PROCESSING
  | COMPLETED
  | FAILED
deriving DecidableEq, Repr

/-- The bytes from an address on. -/
abbrev Bytes : Type := ℕ → UInt8

/-- `memcpy` of `n` bytes from the start of `src` to offset `off` of `dst`. -/
def memcpy (dst : Bytes) (off : ℕ) (src : Bytes) (n : ℕ) : Bytes :=
  fun k => if off ≤ k ∧ k < off + n then src (k - off) else dst k

/-- A request number, with the process that made the request. -/
abbrev Key : Type := ℕ × ℕ

/-- `rdma_request_t`. The fields of the submitter are ghosts. -/
structure Request where
  request_id : ℕ := 0
  op_type : RdmaOp := .READ
  local_addr : ℕ := 0
  remote_addr : ℕ := 0
  size : ℕ := 0
  status : ReqStatus := .PENDING
  error_code : Option Errno := none
  data_in_shm_buffer : Bool := false
  buffer_offset : ℕ := 0
  /-- ghost: the submitting process -/
  client : ℕ := 0
  /-- ghost: the bytes that were passed as `data` -/
  payload : Bytes := fun _ => 0

/-- The ghost name of a request. -/
def Request.key (r : Request) : Key := (r.client, r.request_id)

/-- How far the client of a read has got: `rdma_wait_request` has not returned; it has, and
`rdma_read_page` still copies; or no copy is left to make. -/
inductive ReadPhase where
  | waiting
  | copying
  | done
deriving DecidableEq, Repr

/-- Ghost: an accepted read. -/
structure ReadGhost where
  local_addr : ℕ
  size : ℕ
  /-- submitted by `rdma_read_page`, which copies twice -/
  read_page : Bool
  phase : ReadPhase
  /-- what the server had at the address of the request when it served it -/
  served : Option Bytes

/-- Ghost: a write that the server completed, with the bytes that are at its address. -/
structure StoredWrite where
  request : Request
  stored : Bytes

/-- What the client of a read copied out of the page buffer, and where to. -/
structure Placed where
  local_addr : ℕ
  size : ℕ
  bytes : Bytes

/-- Ghost: a read that returned `0`, with the copy that it made if it made one. -/
structure ReadReturn where
  read : ReadGhost
  placed : Option Placed

/-- `rdma_shm_t`, the counters of the client processes, and the server's memory. -/
structure Rdma where
  requests : ℕ → Request := fun _ => {}
  head : ℕ := 0
  tail : ℕ := 0
  count : ℕ := 0
  shutdown_requested : Bool := false
  total_requests : ℕ := 0
  completed_requests : ℕ := 0
  failed_requests : ℕ := 0
  page_buffer : Bytes := fun _ => 0
  /-- `request_id_counter` of each client process -/
  request_id_counter : ℕ → ℕ := fun _ => 1
  /-- the allocator and the bytes of the simulated memory, by offset -/
  blocks : List MemBlock := init_sim_remote_memory_allocator
  memory : Bytes := fun _ => 0
  /-- ghost: the requests accepted, oldest first -/
  accepted : List Request := []
  /-- ghost: the requests that the server processed, with what it wrote back, oldest first -/
  served : List (Request × Request) := []
  /-- ghosts -/
  reads : Key → Option ReadGhost := fun _ => none
  writes_log : List StoredWrite := []
  returns_log : List ReadReturn := []

namespace Rdma

/-! ## Clients -/

/-- Fill the slot at `tail`. -/
def fill (s : Rdma) (req : Request) : Rdma :=
  { s with requests := Function.update s.requests s.tail req }

/-- Fill the slot at `tail` and make it pending. -/
def enqueue (s : Rdma) (req : Request) : Rdma :=
  { s.fill req with
    tail := (s.tail + 1) % MAX_RDMA_REQUESTS
    count := s.count + 1
    total_requests := s.total_requests + 1
    accepted := s.accepted ++ [req] }

/-- Ghost: a read was accepted. -/
def noteRead (s : Rdma) (req : Request) (read_page : Bool) : Rdma :=
  if req.op_type = .READ then
    { s with
      reads := Function.update s.reads req.key
        (some { local_addr := req.local_addr, size := req.size, read_page := read_page,
                phase := .waiting, served := none }) }
  else s

/-- `rdma_submit_request` (`src/rdma_sim.c:324`) of one process: the request number, or `0`.
Data that is too large is rejected only after the slot has been filled. -/
def rdma_submit_request (client : ℕ) (op_type : RdmaOp) (local_addr remote_addr size : ℕ)
    (data : Option Bytes) (read_page : Bool) (s : Rdma) : ℕ × Rdma :=
  -- a full ring costs no number
  if MAX_RDMA_REQUESTS ≤ s.count then (0, s)
  else
    let req_id := s.request_id_counter client
    let s :=
      { s with request_id_counter := Function.update s.request_id_counter client (req_id + 1) }
    let req : Request :=
      { request_id := req_id, op_type := op_type, local_addr := local_addr
        remote_addr := remote_addr, size := size, client := client
        payload := data.getD fun _ => 0 }
    match data with
    | some data =>
        if op_type = .WRITE ∧ 0 < size then
          if size ≤ RDMA_PAGE_BUFFER_SIZE then
            -- every write goes to the start of the one page buffer
            let s := { s with page_buffer := memcpy s.page_buffer 0 data size }
            (req_id, s.enqueue { req with data_in_shm_buffer := true })
          -- the number is spent, and the slot at `tail` keeps the request as pending
          else (0, s.fill req)
        else (req_id, (s.noteRead req read_page).enqueue req)
    | none => (req_id, (s.noteRead req read_page).enqueue req)

/-! ## The server -/

/-- The offset of a request in the simulated memory, if the request is in bounds. -/
def conceptual_offset (req : Request) : Option ℕ :=
  let offset := (req.remote_addr + 2 ^ 64 - SIM_REMOTE_MEMORY_BASE) % 2 ^ 64
  -- an offset that wrapped is caught by the first test; a sum that wraps would pass the second
  if req.remote_addr < SIM_REMOTE_MEMORY_BASE ∨
      SIM_REMOTE_MEMORY_SIZE < (offset + req.size) % 2 ^ 64 then none
  else some offset

/-- `rdma_server_handle_request` (`src/rdma_sim.c:526`). `split` is the outcome of the
allocation of a split node. -/
def rdma_server_handle_request (split : Bool) (req : Request) (s : Rdma) :
    Except Errno (Request × Rdma) :=
  match req.op_type with
  | .INIT => .ok (req, s)
  | .READ =>
      if req.size = 0 ∨ RDMA_PAGE_BUFFER_SIZE - req.buffer_offset < req.size then .error .EINVAL
      else
        match conceptual_offset req with
        | none => .error .EFAULT
        | some offset =>
            let found : Bytes := fun k => s.memory (offset + k)
            .ok (req,
              { s with
                page_buffer := memcpy s.page_buffer req.buffer_offset found req.size
                reads := Function.update s.reads req.key
                  ((s.reads req.key).map fun g => { g with served := some found }) })
  | .WRITE =>
      -- the size is not compared with the page buffer here; `rdma_submit_request` has done it
      if req.data_in_shm_buffer = false ∨ req.size = 0 then .error .EINVAL
      else
        match conceptual_offset req with
        | none => .error .EFAULT
        | some offset =>
            let memory := memcpy s.memory offset (fun k => s.page_buffer (req.buffer_offset + k))
              req.size
            .ok (req,
              { s with
                memory := memory
                writes_log := { request := req, stored := fun k => memory (offset + k) } ::
                  s.writes_log })
  | .ALLOCATE =>
      match rdma_sim_allocate split req.size s.blocks with
      | .ok (remote_addr, blocks) => .ok ({ req with remote_addr := remote_addr },
          { s with blocks := blocks })
      | .error e => .error e
  -- freeing is left to `rdma_sim_free` in the client process
  | .FREE => .error .ENOSYS
  | .SHUTDOWN => .ok (req, { s with shutdown_requested := true })

/-- Ghost: a request was processed. -/
def noteServed (s : Rdma) (req answer : Request) : Rdma :=
  { s with served := s.served ++ [(req, answer)] }

/-- The body of the drain loop: serve the request at `head`. -/
def process_one (split : Bool) (s : Rdma) : Rdma :=
  let index := s.head
  let req := s.requests index
  let s :=
    if req.status = .PENDING then
      match rdma_server_handle_request split { req with error_code := none } s with
      | .ok (answer, s) =>
          let answer := { answer with status := .COMPLETED }
          { s.noteServed req answer with
            requests := Function.update s.requests index answer
            completed_requests := s.completed_requests + 1 }
      | .error e =>
          let answer := { req with error_code := some e, status := .FAILED }
          { s.noteServed req answer with
            requests := Function.update s.requests index answer
            failed_requests := s.failed_requests + 1 }
    else s
  -- a slot that was not pending is released as well
  { s with head := (index + 1) % MAX_RDMA_REQUESTS, count := s.count - 1 }

/-- The drain loop, for `left` requests. -/
def process_loop (split : ℕ → Bool) : ℕ → Rdma → Rdma
  | 0, s => s
  | left + 1, s => process_loop split left (process_one (split left) s)

/-- One turn of `rdma_server_process_requests` (`src/rdma_sim.c:484`): drain the ring. -/
def rdma_server_process_requests (split : ℕ → Bool) (s : Rdma) : Rdma :=
  if s.shutdown_requested then s else process_loop split s.count s

/-! ## Completion -/

/-- The slot that `rdma_wait_request` finds: the first with this number that is not pending. -/
def find_request (s : Rdma) (request_id : ℕ) : Option Request :=
  ((List.range MAX_RDMA_REQUESTS).find? fun i =>
    (s.requests i).request_id = request_id ∧ (s.requests i).status ≠ .PENDING).map s.requests

/-- What one poll of `rdma_wait_request` (`src/rdma_sim.c:388`) finds: nothing yet, or its
return value, with what it copies to the local buffer if it copies anything. -/
def rdma_wait_poll (request_id : ℕ) (s : Rdma) :
    Option (Except (Option Errno) (Option Placed)) :=
  match s.find_request request_id with
  | none => none
  | some req =>
      match req.status with
      | .COMPLETED =>
          -- destination and size are those of the slot, which need not be the waiter's request
          if req.op_type = .READ ∧ req.local_addr ≠ 0 ∧ 0 < req.size then
            if req.size ≤ RDMA_PAGE_BUFFER_SIZE - req.buffer_offset then
              some (.ok (some
                { local_addr := req.local_addr, size := req.size
                  bytes := fun k => s.page_buffer (req.buffer_offset + k) }))
            else some (.error (some (req.error_code.getD .EMSGSIZE)))
          else some (.ok none)
      | .FAILED => some (.error req.error_code)
      | _ => none

/-! ## Steps -/

/-- The steps of the clients and of the server. -/
inductive Step where
  /-- a thread of `client` submits -/
  | submit (client : ℕ) (op_type : RdmaOp) (local_addr remote_addr size : ℕ)
      (data : Option Bytes) (read_page : Bool)
  /-- the server drains the ring -/
  | drain (split : ℕ → Bool)
  /-- the thread that waits for this read polls -/
  | wait (client request_id : ℕ)
  /-- the second copy of `rdma_read_page` -/
  | recopy (client request_id : ℕ)
  /-- the thread that waits for this read gives up -/
  | give_up (client request_id : ℕ)

/-- Ghost: the client of a read moves on. -/
def setPhase (s : Rdma) (key : Key) (phase : ReadPhase) : Rdma :=
  { s with
    reads := Function.update s.reads key ((s.reads key).map fun g => { g with phase := phase }) }

/-- Ghost: a read returned `0`. -/
def noteReturn (s : Rdma) (g : ReadGhost) (placed : Option Placed) : Rdma :=
  { s with returns_log := { read := g, placed := placed } :: s.returns_log }

/-- A poll of the thread that waits for the read `key`. -/
def wait_step (key : Key) (g : ReadGhost) (s : Rdma) : Rdma :=
  match s.rdma_wait_poll key.2 with
  | none => s
  | some (.error _) => s.setPhase key .done
  | some (.ok placed) =>
      (s.noteReturn g placed).setPhase key (if g.read_page then .copying else .done)

/-- One step. A thread polls until its wait returns, and only `rdma_read_page` copies again;
a step that its thread does not make in this state does nothing. -/
def step : Step → Rdma → Rdma
  | .submit client op_type local_addr remote_addr size data read_page, s =>
      (s.rdma_submit_request client op_type local_addr remote_addr size data read_page).2
  | .drain split, s => s.rdma_server_process_requests split
  | .wait client request_id, s =>
      match s.reads (client, request_id) with
      | some g => if g.phase = .waiting then s.wait_step (client, request_id) g else s
      | none => s
  | .recopy client request_id, s =>
      match s.reads (client, request_id) with
      | some g =>
          if g.phase = .copying then
            (s.noteReturn g (some
              { local_addr := g.local_addr, size := g.size
                bytes := s.page_buffer })).setPhase (client, request_id) .done
          else s
      | none => s
  | .give_up client request_id, s =>
      match s.reads (client, request_id) with
      | some g =>
          if g.phase = .waiting then s.setPhase (client, request_id) .done else s
      | none => s

/-- The state after a run from the start of the server. -/
def exec (run : List Step) : Rdma := Guarded.exec step run {}

end Rdma

end SwapPrefetch
