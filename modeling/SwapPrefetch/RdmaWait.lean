/-
Waiting for a request: what `rdma_wait_request` finds in the slots of the ring.

A client does not take the lock to wait. It scans the slots for its request number, then
reads the slot that it found; `allocate_remote_region` scans once more for the address. Each
of the three is a step, and other clients and the server run between them. A slot is free for
the next submit as soon as its request was served, whether or not its client has looked at it,
and a number is only unique within a process.

`Holds` says that a slot still tells the truth about a request. A slot keeps doing so until it
is overwritten, so a run that overwrites no slot of a request that is still waited for keeps
every outcome (`Kept`). If in addition no slot of another process has the number that a submit
takes, the slots have different numbers (`Distinct`), and a scan finds the request it is for.
-/
import Mathlib.Tactic
import SwapPrefetch.RdmaOrder

set_option autoImplicit false

namespace SwapPrefetch

/-! ## The clients -/

/-- How far the client of a request has got: it scans the slots; it found one; its wait
returned `0` and the address of the block is still to be taken from a slot; or it is done. -/
inductive WaitPhase where
  | searching
  | found (index : ℕ)
  | collecting
  | done
deriving DecidableEq, Repr

/-- The client of an accepted request. -/
structure Waiter where
  op_type : RdmaOp
  phase : WaitPhase
deriving DecidableEq, Repr

/-- Ghost: a wait that returned `0`, with the error code that it reported. -/
structure WaitReturn where
  key : Key
  error_code : Option Errno

/-- The segment and the clients of all processes. -/
structure Clients where
  rdma : Rdma := {}
  waiters : Key → Option Waiter := fun _ => none
  /-- ghost: the waits that returned `0` -/
  returns : List WaitReturn := []
  /-- ghost: the addresses that `allocate_remote_region` took from a slot -/
  addresses : List (Key × ℕ) := []

/-- The index of the slot that `rdma_wait_request` finds (`src/rdma_sim.c:405`). -/
def Rdma.find_slot (s : Rdma) (request_id : ℕ) : Option ℕ :=
  (List.range MAX_RDMA_REQUESTS).find? fun i =>
    (s.requests i).request_id = request_id ∧ (s.requests i).status ≠ .PENDING

/-- The index of the slot that `allocate_remote_region` finds (`src/storage_rdma.c:168`): its
scan does not look at the status. -/
def Rdma.find_address (s : Rdma) (request_id : ℕ) : Option ℕ :=
  (List.range MAX_RDMA_REQUESTS).find? fun i => (s.requests i).request_id = request_id

/-- What `rdma_wait_request` does with the slot that it found. -/
inductive WaitResult where
  | again
  | failed
  | returned (error_code : Option Errno)

/-- The end of a turn of `rdma_wait_request` (`src/rdma_sim.c:423`). -/
def wait_result (req : Request) : WaitResult :=
  match req.status with
  | .COMPLETED =>
      if req.op_type = .READ ∧ req.local_addr ≠ 0 ∧ 0 < req.size ∧
          RDMA_PAGE_BUFFER_SIZE - req.buffer_offset < req.size then .failed
      else .returned req.error_code
  | .FAILED => .failed
  | _ => .again

namespace Clients

/-- The steps of the clients and of the server. -/
inductive Step where
  /-- a thread of `client` submits -/
  | submit (client : ℕ) (op_type : RdmaOp) (local_addr remote_addr size : ℕ) (data : Option Bytes)
  /-- the server drains the ring -/
  | drain (split : ℕ → Bool)
  /-- the client of this request scans the slots -/
  | search (client request_id : ℕ)
  /-- it reads the slot that it found -/
  | read (client request_id : ℕ)
  /-- it takes the address from a slot -/
  | address (client request_id : ℕ)
  /-- its wait times out -/
  | give_up (client request_id : ℕ)

/-- The client of a request moves on. -/
def setPhase (s : Clients) (key : Key) (w : Waiter) (phase : WaitPhase) : Clients :=
  { s with waiters := Function.update s.waiters key (some { w with phase := phase }) }

/-- Read the slot that was found. -/
def read_slot (key : Key) (w : Waiter) (index : ℕ) (s : Clients) : Clients :=
  match wait_result (s.rdma.requests index) with
  | .again => s.setPhase key w .searching
  | .failed => s.setPhase key w .done
  | .returned error_code =>
      { s.setPhase key w (if w.op_type = .ALLOCATE then .collecting else .done) with
        returns := { key := key, error_code := error_code } :: s.returns }

/-- Take the address from a slot. -/
def take_address (key : Key) (w : Waiter) (s : Clients) : Clients :=
  match s.rdma.find_address key.2 with
  | some i =>
      { s.setPhase key w .done with
        addresses := (key, (s.rdma.requests i).remote_addr) :: s.addresses }
  | none => s.setPhase key w .done

/-- One step. A step that its client does not make in this state does nothing. -/
def step : Step → Clients → Clients
  | .submit client op_type local_addr remote_addr size data, s =>
      let (id, rdma) :=
        s.rdma.rdma_submit_request client op_type local_addr remote_addr size data false
      if id = 0 then { s with rdma := rdma }
      else
        { s with
          rdma := rdma
          waiters := Function.update s.waiters (client, id)
            (some { op_type := op_type, phase := .searching }) }
  | .drain split, s => { s with rdma := s.rdma.rdma_server_process_requests split }
  | .search client request_id, s =>
      match s.waiters (client, request_id) with
      | some w =>
          if w.phase = .searching then
            match s.rdma.find_slot request_id with
            | some i => s.setPhase (client, request_id) w (.found i)
            | none => s
          else s
      | none => s
  | .read client request_id, s =>
      match s.waiters (client, request_id) with
      | some w =>
          match w.phase with
          | .found i => s.read_slot (client, request_id) w i
          | _ => s
      | none => s
  | .address client request_id, s =>
      match s.waiters (client, request_id) with
      | some w =>
          if w.phase = .collecting then s.take_address (client, request_id) w else s
      | none => s
  | .give_up client request_id, s =>
      match s.waiters (client, request_id) with
      | some w =>
          if w.phase = .searching then s.setPhase (client, request_id) w .done else s
      | none => s

/-- The state after a run from the start of the server. -/
def exec (run : List Step) : Clients := Guarded.exec step run {}

end Clients

/-- A poll of `rdma_wait_request` in one step is a scan and then a read of what it found. -/
theorem Rdma.rdma_wait_poll_ok_iff (s : Rdma) (request_id : ℕ) :
    (∃ placed, s.rdma_wait_poll request_id = some (.ok placed)) ↔
      ∃ i error_code, s.find_slot request_id = some i ∧
        wait_result (s.requests i) = .returned error_code := by
  have hfind : s.find_request request_id = (s.find_slot request_id).map s.requests := rfl
  unfold rdma_wait_poll
  rw [hfind]
  rcases s.find_slot request_id with _ | i
  · simp
  · simp only [Option.map_some, Option.some.injEq, exists_and_left, exists_eq_left', wait_result]
    generalize s.requests i = req
    cases hstatus : req.status with
    | PENDING => simp
    | PROCESSING => simp
    | FAILED => simp
    | COMPLETED =>
        by_cases hread : req.op_type = .READ ∧ req.local_addr ≠ 0 ∧ 0 < req.size
        · by_cases hsize : req.size ≤ RDMA_PAGE_BUFFER_SIZE - req.buffer_offset
          · simp [hread, hsize, Nat.not_lt_of_le hsize]
          · simp [hread, hsize, not_le.mp hsize]
        · have hno : ¬ (req.op_type = .READ ∧ req.local_addr ≠ 0 ∧ 0 < req.size ∧
              RDMA_PAGE_BUFFER_SIZE - req.buffer_offset < req.size) :=
            fun h => hread ⟨h.1, h.2.1, h.2.2.1⟩
          simp [if_neg hread, if_neg hno]

end SwapPrefetch
