/-
The copies of the RDMA simulation stay inside the page buffer and the simulated memory
(`src/rdma_sim.c:324-591`).

In `RdmaSim` the two memories have no end, and a range test is written with the 64-bit sum that the
code computes. Here the routines that copy are written once more, strictly: a copy that leaves one
of its arrays, and a sum or difference in a range test that is not the exact one, stop the run
(`Violation`). Each strict routine is paired with a lemma that it does what the routine of `RdmaSim`
does; for whole runs that is `copies_in_bounds`.

No routine tests everything. The submitter bounds the size of a write, which the server then takes
for granted (`data_in_shm_buffer`); the server bounds the size of a read and both address ranges.
The offset is computed before the address is compared with the base, so it may wrap, but it is used
only behind that comparison. There the offset is at most `2 ^ 64 - 1 - 2 ^ 38`, and with a size of at
most 4096 the sum cannot wrap. The waiter copies what the slot says without holding the lock, so
its bound is stated for every slot, whoever has filled it; it reads the slot in one step.
-/
import Mathlib.Tactic
import SwapPrefetch.Prog
import SwapPrefetch.RdmaCalls

set_option autoImplicit false

namespace SwapPrefetch

/-! ## Strict arithmetic and copies -/

/-- What a strict routine stops at. -/
inductive Violation where
  | out_of_bounds
  | wraps
deriving DecidableEq, Repr

/-- A sum of two 64-bit words in a range test. -/
def word_add (a b : ℕ) : Except Violation ℕ :=
  if a + b < 2 ^ 64 then .ok (a + b) else .error .wraps

/-- A difference of two 64-bit words in a range test. -/
def word_sub (a b : ℕ) : Except Violation ℕ :=
  if b ≤ a then .ok (a - b) else .error .wraps

/-- Read `n` bytes at an offset of an array of `size` bytes. -/
def read_within (src : Bytes) (size off n : ℕ) : Except Violation Bytes :=
  if off + n ≤ size then .ok fun k => src (off + k) else .error .out_of_bounds

/-- Write `n` bytes at an offset of an array of `size` bytes. -/
def write_within (dst : Bytes) (size off : ℕ) (src : Bytes) (n : ℕ) : Except Violation Bytes :=
  if off + n ≤ size then .ok (memcpy dst off src n) else .error .out_of_bounds

theorem word_add_eq {a b : ℕ} (h : a + b < 2 ^ 64) : word_add a b = .ok (a + b) := if_pos h

theorem word_sub_eq {a b : ℕ} (h : b ≤ a) : word_sub a b = .ok (a - b) := if_pos h

theorem read_within_eq {size off n : ℕ} (src : Bytes) (h : off + n ≤ size) :
    read_within src size off n = .ok fun k => src (off + k) := if_pos h

theorem write_within_eq {size off n : ℕ} (dst src : Bytes) (h : off + n ≤ size) :
    write_within dst size off src n = .ok (memcpy dst off src n) := if_pos h

namespace Rdma

variable {s : Rdma} {req : Request}

/-! ## The strict server -/

/-- The range test of the server. The difference is taken before the test, and used behind it. -/
def conceptual_offset_strict (req : Request) : Except Violation (Option ℕ) :=
  let offset := (req.remote_addr + 2 ^ 64 - SIM_REMOTE_MEMORY_BASE) % 2 ^ 64
  if req.remote_addr < SIM_REMOTE_MEMORY_BASE then .ok none
  else do
    let last ← word_add offset req.size
    if SIM_REMOTE_MEMORY_SIZE < last then pure none else pure (some offset)

/-- `rdma_server_handle_request` (`src/rdma_sim.c:526`), strictly. The operations other than `READ`
and `WRITE` copy nothing. -/
def rdma_server_handle_request_strict (split : Bool) (req : Request) (s : Rdma) :
    Except Violation (Except Errno (Request × Rdma)) :=
  match req.op_type with
  | .READ =>
      if req.size = 0 then .ok (.error .EINVAL)
      else do
        let room ← word_sub RDMA_PAGE_BUFFER_SIZE req.buffer_offset
        if room < req.size then pure (.error .EINVAL)
        else
          match ← conceptual_offset_strict req with
          | none => pure (.error .EFAULT)
          | some offset => do
              let found ← read_within s.memory SIM_REMOTE_MEMORY_SIZE offset req.size
              let page_buffer ← write_within s.page_buffer RDMA_PAGE_BUFFER_SIZE req.buffer_offset
                found req.size
              pure (.ok (req,
                { s with
                  page_buffer := page_buffer
                  reads := Function.update s.reads req.key
                    ((s.reads req.key).map fun g => { g with served := some found }) }))
  | .WRITE =>
      if req.data_in_shm_buffer = false ∨ req.size = 0 then .ok (.error .EINVAL)
      else do
        match ← conceptual_offset_strict req with
        | none => pure (.error .EFAULT)
        | some offset => do
            let data ← read_within s.page_buffer RDMA_PAGE_BUFFER_SIZE req.buffer_offset req.size
            let memory ← write_within s.memory SIM_REMOTE_MEMORY_SIZE offset data req.size
            pure (.ok (req,
              { s with
                memory := memory
                writes_log := { request := req, stored := fun k => memory (offset + k) } ::
                  s.writes_log }))
  | _ => .ok (rdma_server_handle_request split req s)

/-- The body of the drain loop, strictly. A slot that is not pending is released as it is. -/
def process_one_strict (split : Bool) (s : Rdma) : Except Violation Rdma :=
  if (s.requests s.head).status = .PENDING then do
    let outcome ← rdma_server_handle_request_strict split s.serving s
    pure (s.conclude outcome)
  else .ok (s.process_one split)

/-- The drain loop, strictly. -/
def process_loop_strict (split : ℕ → Bool) : ℕ → Rdma → Except Violation Rdma
  | 0, s => .ok s
  | left + 1, s => do
      let s ← process_one_strict (split left) s
      process_loop_strict split left s

/-- One turn of `rdma_server_process_requests`, strictly. -/
def rdma_server_process_requests_strict (split : ℕ → Bool) (s : Rdma) : Except Violation Rdma :=
  if s.shutdown_requested then .ok s else process_loop_strict split s.count s

/-! ## The strict waiter -/

/-- What a poll of `rdma_wait_request` makes of the slot that it found. -/
def poll_slot (req : Request) (s : Rdma) : Option (Except (Option Errno) (Option Placed)) :=
  match req.status with
  | .COMPLETED =>
      if req.op_type = .READ ∧ req.local_addr ≠ 0 ∧ 0 < req.size then
        if req.size ≤ RDMA_PAGE_BUFFER_SIZE - req.buffer_offset then
          some (.ok (some
            { local_addr := req.local_addr, size := req.size
              bytes := fun k => s.page_buffer (req.buffer_offset + k) }))
        else some (.error (some (req.error_code.getD .EMSGSIZE)))
      else some (.ok none)
  | .FAILED => some (.error req.error_code)
  | _ => none

theorem rdma_wait_poll_eq (request_id : ℕ) (s : Rdma) :
    s.rdma_wait_poll request_id = (s.find_request request_id).bind fun req => poll_slot req s := by
  unfold rdma_wait_poll
  rcases s.find_request request_id with _ | req
  · rfl
  · rfl

/-- The same, strictly. The local buffer belongs to the caller, who passed its size. -/
def poll_slot_strict (req : Request) (s : Rdma) :
    Except Violation (Option (Except (Option Errno) (Option Placed))) :=
  match req.status with
  | .COMPLETED =>
      if req.op_type = .READ ∧ req.local_addr ≠ 0 ∧ 0 < req.size then do
        let room ← word_sub RDMA_PAGE_BUFFER_SIZE req.buffer_offset
        if req.size ≤ room then do
          let bytes ← read_within s.page_buffer RDMA_PAGE_BUFFER_SIZE req.buffer_offset req.size
          pure (some (.ok (some
            { local_addr := req.local_addr, size := req.size, bytes := bytes })))
        else pure (some (.error (some (req.error_code.getD .EMSGSIZE))))
      else .ok (some (.ok none))
  | .FAILED => .ok (some (.error req.error_code))
  | _ => .ok none

/-- A poll of `rdma_wait_request` (`src/rdma_sim.c:388`), strictly. -/
def rdma_wait_poll_strict (request_id : ℕ) (s : Rdma) :
    Except Violation (Option (Except (Option Errno) (Option Placed))) :=
  match s.find_request request_id with
  | none => .ok none
  | some req => poll_slot_strict req s

/-- A poll of the thread that waits for the read `key`, strictly. -/
def wait_step_strict (key : Key) (g : ReadGhost) (s : Rdma) : Except Violation Rdma := do
  match ← s.rdma_wait_poll_strict key.2 with
  | none => pure s
  | some (.error _) => pure (s.setPhase key .done)
  | some (.ok placed) =>
      pure ((s.noteReturn g placed).setPhase key (if g.read_page then .copying else .done))

/-- One step, with the server and the waiters strict. The second copy of `rdma_read_page` is made by
another routine, with a size of its own. -/
def step_strict : Step → Rdma → Except Violation Rdma
  | .drain split, s => s.rdma_server_process_requests_strict split
  | .wait client request_id, s =>
      match s.reads (client, request_id) with
      | some g =>
          if g.phase = .waiting then s.wait_step_strict (client, request_id) g else .ok s
      | none => .ok s
  | t, s => .ok (step t s)

/-- A run from the start of the server, strictly. -/
def exec_strict (run : List Step) : Except Violation Rdma := Guarded.execStrict step_strict run {}

/-! ## What a request may ask for -/

/-- What the submitter has established about a request. -/
structure Formed (req : Request) : Prop where
  address : req.remote_addr < 2 ^ 64
  size : req.size < 2 ^ 64
  buffer_offset : req.buffer_offset = 0
  data : req.data_in_shm_buffer = true → req.size ≤ RDMA_PAGE_BUFFER_SIZE

/-- The copy that the request asks for lies inside the page buffer and inside the simulated
memory. -/
def InBounds (req : Request) : Prop :=
  req.buffer_offset + req.size ≤ RDMA_PAGE_BUFFER_SIZE ∧
    SIM_REMOTE_MEMORY_BASE ≤ req.remote_addr ∧
    req.remote_addr + req.size ≤ SIM_REMOTE_MEMORY_BASE + SIM_REMOTE_MEMORY_SIZE

/-- The range test in 64 bits is exact for what fits into the page buffer. -/
theorem conceptual_offset_iff (h : Formed req) (hsize : req.size ≤ RDMA_PAGE_BUFFER_SIZE)
    (offset : ℕ) : conceptual_offset req = some offset ↔
      SIM_REMOTE_MEMORY_BASE + offset = req.remote_addr ∧
        offset + req.size ≤ SIM_REMOTE_MEMORY_SIZE := by
  have hword := h.address
  unfold conceptual_offset
  simp only [SIM_REMOTE_MEMORY_BASE, SIM_REMOTE_MEMORY_SIZE, RDMA_PAGE_BUFFER_SIZE] at *
  split
  case isTrue hout =>
    refine iff_of_false (by simp) ?_
    rintro ⟨haddr, hin⟩
    omega
  case isFalse hin =>
    rw [Option.some_inj]
    constructor
    · rintro rfl
      omega
    · rintro ⟨haddr, -⟩
      omega

theorem conceptual_offset_strict_eq (h : Formed req) (hsize : req.size ≤ RDMA_PAGE_BUFFER_SIZE) :
    conceptual_offset_strict req = .ok (conceptual_offset req) := by
  have hword := h.address
  unfold conceptual_offset_strict conceptual_offset
  by_cases hbase : req.remote_addr < SIM_REMOTE_MEMORY_BASE
  · simp only [if_pos hbase, if_pos (Or.inl hbase)]
  · -- the address is not below the base, so the difference is exact and the sum small
    have hsum : (req.remote_addr + 2 ^ 64 - SIM_REMOTE_MEMORY_BASE) % 2 ^ 64 + req.size < 2 ^ 64 := by
      simp only [SIM_REMOTE_MEMORY_BASE, RDMA_PAGE_BUFFER_SIZE] at *
      omega
    generalize (req.remote_addr + 2 ^ 64 - SIM_REMOTE_MEMORY_BASE) % 2 ^ 64 = offset at hsum ⊢
    dsimp only
    rw [if_neg hbase, word_add_eq hsum, Prog.ok_bind, Nat.mod_eq_of_lt hsum]
    by_cases hlast : SIM_REMOTE_MEMORY_SIZE < offset + req.size
    · rw [if_pos hlast, if_pos (Or.inr hlast)]
      rfl
    · rw [if_neg hlast, if_neg (not_or.2 ⟨hbase, hlast⟩)]
      rfl

/-- **The server copies inside its arrays.** -/
theorem handle_strict_eq (h : Formed req) (split : Bool) (s : Rdma) :
    rdma_server_handle_request_strict split req s =
      .ok (rdma_server_handle_request split req s) := by
  have hstart := h.buffer_offset
  unfold rdma_server_handle_request_strict rdma_server_handle_request
  cases hop : req.op_type with
  | READ =>
      by_cases hzero : req.size = 0
      · simp only [if_pos hzero, if_pos (Or.inl hzero)]
      · have hroom : req.buffer_offset ≤ RDMA_PAGE_BUFFER_SIZE := by
          rw [hstart]
          exact Nat.zero_le _
        simp only [hzero, word_sub_eq hroom, Prog.ok_bind, false_or]
        by_cases hlarge : RDMA_PAGE_BUFFER_SIZE - req.buffer_offset < req.size
        · simp only [if_pos hlarge]
          rfl
        · -- what passes the two tests lies within the buffer and within the memory
          have hsize : req.size ≤ RDMA_PAGE_BUFFER_SIZE := by omega
          simp only [if_neg hlarge, conceptual_offset_strict_eq h hsize, Prog.ok_bind]
          cases hoff : conceptual_offset req with
          | none => rfl
          | some offset =>
              have hmem := ((conceptual_offset_iff h hsize offset).1 hoff).2
              have hbuf : req.buffer_offset + req.size ≤ RDMA_PAGE_BUFFER_SIZE := by omega
              simp only [read_within_eq _ hmem, write_within_eq _ _ hbuf, Prog.ok_bind]
              rfl
  | WRITE =>
      by_cases hnone : req.data_in_shm_buffer = false ∨ req.size = 0
      · simp only [if_pos hnone]
      · -- the submitter has put the data into the buffer, so it fits
        have hdata : req.data_in_shm_buffer = true := by
          simpa using (not_or.1 hnone).1
        have hsize := h.data hdata
        simp only [if_neg hnone, conceptual_offset_strict_eq h hsize, Prog.ok_bind]
        cases hoff : conceptual_offset req with
        | none => rfl
        | some offset =>
            have hmem := ((conceptual_offset_iff h hsize offset).1 hoff).2
            have hbuf : req.buffer_offset + req.size ≤ RDMA_PAGE_BUFFER_SIZE := by omega
            simp only [read_within_eq _ hbuf, write_within_eq _ _ hmem, Prog.ok_bind]
            rfl
  | INIT => rfl
  | SHUTDOWN => rfl
  | ALLOCATE => rfl
  | FREE => rfl

/-- **The waiter copies inside the page buffer**, from whatever slot it has found. -/
theorem poll_slot_strict_eq (hstart : req.buffer_offset = 0) (s : Rdma) :
    poll_slot_strict req s = .ok (poll_slot req s) := by
  have hroom : req.buffer_offset ≤ RDMA_PAGE_BUFFER_SIZE := by
    rw [hstart]
    exact Nat.zero_le _
  unfold poll_slot_strict poll_slot
  cases hstatus : req.status with
  | COMPLETED =>
      by_cases hread : req.op_type = .READ ∧ req.local_addr ≠ 0 ∧ 0 < req.size
      · simp only [if_pos hread, word_sub_eq hroom, Prog.ok_bind]
        by_cases hsize : req.size ≤ RDMA_PAGE_BUFFER_SIZE - req.buffer_offset
        · have hbuf : req.buffer_offset + req.size ≤ RDMA_PAGE_BUFFER_SIZE := by omega
          simp only [if_pos hsize, read_within_eq _ hbuf, Prog.ok_bind]
          rfl
        · simp only [if_neg hsize]
          rfl
      · simp only [if_neg hread]
  | FAILED => rfl
  | PENDING => rfl
  | PROCESSING => rfl

/-! ## What would leave the arrays -/

/-- A request whose copy would leave an array is answered with an error. -/
theorem handle_error_of_not_inBounds (h : Formed req)
    (hop : req.op_type = .READ ∨ req.op_type = .WRITE) (hout : ¬ InBounds req) (split : Bool)
    (s : Rdma) : ∃ e, rdma_server_handle_request split req s = .error e := by
  have hstart := h.buffer_offset
  -- what fits into the buffer lies outside the simulated memory
  have hoffset : req.size ≤ RDMA_PAGE_BUFFER_SIZE → conceptual_offset req = none := by
    intro hsize
    rw [Option.eq_none_iff_forall_ne_some]
    intro offset hoff
    obtain ⟨haddr, hin⟩ := (conceptual_offset_iff h hsize offset).1 hoff
    apply hout
    refine ⟨?_, ?_, ?_⟩
    · omega
    · omega
    · omega
  unfold rdma_server_handle_request
  rcases hop with hop | hop
  · by_cases hrefused : req.size = 0 ∨ RDMA_PAGE_BUFFER_SIZE - req.buffer_offset < req.size
    · exact ⟨.EINVAL, by simp only [hop, if_pos hrefused]⟩
    · have hnone := hoffset (by omega)
      exact ⟨.EFAULT, by simp only [hop, if_neg hrefused, hnone]⟩
  · by_cases hrefused : req.data_in_shm_buffer = false ∨ req.size = 0
    · exact ⟨.EINVAL, by simp only [hop, if_pos hrefused]⟩
    · have hdata : req.data_in_shm_buffer = true := by
        simpa using (not_or.1 hrefused).1
      have hnone := hoffset (h.data hdata)
      exact ⟨.EFAULT, by simp only [hop, if_neg hrefused, hnone]⟩

/-- When its turn comes, the server notes an error in the slot of the request and leaves the page
buffer and the simulated memory as they are. -/
def Refused (req : Request) : Prop :=
  ∀ (split : Bool) (s : Rdma), s.requests s.head = req → ∃ e,
    (s.process_one split).requests s.head = { req with error_code := some e, status := .FAILED } ∧
      (s.process_one split).page_buffer = s.page_buffer ∧
      (s.process_one split).memory = s.memory

theorem Formed.serving (h : Formed req) : Formed { req with error_code := none } :=
  ⟨h.address, h.size, h.buffer_offset, h.data⟩

theorem refused_of_not_inBounds (h : Formed req) (hpending : req.status = .PENDING)
    (hop : req.op_type = .READ ∨ req.op_type = .WRITE) (hout : ¬ InBounds req) : Refused req := by
  intro split s hreq
  have hserving : s.serving = { req with error_code := none } := by
    rw [Rdma.serving, hreq]
  obtain ⟨e, he⟩ := handle_error_of_not_inBounds h.serving hop hout split s
  rw [← hserving] at he
  have hone : s.process_one split = s.conclude (.error e) := by
    rw [← he]
    apply process_one_pending
    rw [hreq]
    exact hpending
  have herror := s.conclude_error e
  rw [← hone, hreq] at herror
  exact ⟨e, herror.slot, herror.page_buffer, herror.memory⟩

/-! ## Runs -/

/-- The addresses and sizes of the step are 64-bit words. -/
def Step.Words : Step → Prop
  | .submit _ _ local_addr remote_addr size _ _ =>
      local_addr < 2 ^ 64 ∧ remote_addr < 2 ^ 64 ∧ size < 2 ^ 64
  | _ => True

instance decidableWords (t : Step) : Decidable t.Words :=
  match t with
  | .submit _ _ local_addr remote_addr size _ _ =>
      inferInstanceAs (Decidable (local_addr < 2 ^ 64 ∧ remote_addr < 2 ^ 64 ∧ size < 2 ^ 64))
  | .drain _ => isTrue trivial
  | .wait _ _ => isTrue trivial
  | .recopy _ _ => isTrue trivial
  | .give_up _ _ => isTrue trivial

/-- The accepted requests are as their submitters made them, and no slot uses another part of the
page buffer than its start. -/
structure CopyInv (s : Rdma) : Prop where
  order : s.OrderInv
  accepted : ∀ req ∈ s.accepted, Formed req
  slots : ∀ i, (s.requests i).buffer_offset = 0

theorem copyInv_start : CopyInv {} :=
  ⟨orderInv_start, fun _ hreq => absurd hreq List.not_mem_nil, fun _ => rfl⟩

/-- The request that the server is about to handle was accepted. -/
theorem CopyInv.head (h : s.CopyInv) (hpos : 0 < s.count) :
    Formed (s.requests s.head) ∧ (s.requests s.head).status = .PENDING := by
  have hqueue := h.order.ring.queue_head hpos
  refine ⟨h.accepted _ ?_, h.order.queue_pending hqueue⟩
  rw [h.order.order]
  exact List.mem_append_right _ hqueue

theorem slots_update {requests : ℕ → Request} (h : ∀ i, (requests i).buffer_offset = 0) {j : ℕ}
    (hreq : req.buffer_offset = 0) (i : ℕ) :
    (Function.update requests j req i).buffer_offset = 0 := by
  by_cases hi : i = j
  · rw [hi, Function.update_self]
    exact hreq
  · rw [Function.update_of_ne hi]
    exact h i

/-- A submit, from the state `s₁` in which its slot is filled. -/
theorem CopyInv.enqueue {s₁ : Rdma} (h : s.CopyInv) (horder : (s₁.enqueue req).OrderInv)
    (hrequests : s₁.requests = s.requests) (haccepted : s₁.accepted = s.accepted)
    (hreq : Formed req) : (s₁.enqueue req).CopyInv := by
  refine ⟨horder, ?_, ?_⟩
  · show ∀ r ∈ s₁.accepted ++ [req], Formed r
    rw [haccepted]
    exact List.forall_mem_append.2 ⟨h.accepted, List.forall_mem_singleton.2 hreq⟩
  · apply slots_update
    · rw [hrequests]
      exact h.slots
    · exact hreq.buffer_offset

theorem CopyInv.submit (h : s.CopyInv) (client : ℕ) (op_type : RdmaOp)
    {local_addr remote_addr size : ℕ} (data : Option Bytes) (read_page : Bool)
    (haddr : remote_addr < 2 ^ 64) (hsize : size < 2 ^ 64) :
    (s.rdma_submit_request client op_type local_addr remote_addr size data read_page).2.CopyInv := by
  have horder := h.order.submit client op_type local_addr remote_addr size data read_page
  rcases s.submit_cases client op_type local_addr remote_addr size data read_page with
    he | ⟨-, -, he⟩ | ⟨hfills, he⟩ | ⟨-, he⟩ <;> rw [he] at horder ⊢
  · exact h
  · exact ⟨horder, h.accepted, slots_update h.slots rfl⟩
  · -- the data was copied into the buffer because it fits
    obtain ⟨-, -, -, -, hfits⟩ := hfills
    exact h.enqueue horder rfl rfl ⟨haddr, hsize, rfl, fun _ => hfits⟩
  · have halike := noteRead_alike (s.takeId client)
      (s.newRequest client op_type local_addr remote_addr size data) read_page
    refine h.enqueue horder halike.requests halike.accepted ⟨haddr, hsize, rfl, fun hdata => ?_⟩
    exact absurd hdata Bool.false_ne_true

theorem CopyInv.process_one (h : s.CopyInv) (split : Bool) (hpos : 0 < s.count) :
    (s.process_one split).CopyInv := by
  obtain ⟨answer, ha⟩ := h.order.process_one_answered split hpos
  refine ⟨h.order.process_one split hpos, ?_, ?_⟩
  · rw [ha.accepted]
    exact h.accepted
  · rw [ha.requests]
    exact slots_update h.slots (ha.same.buffer_offset.trans (h.slots s.head))

/-- The steps of a reading client leave the requests alone. -/
theorem CopyInv.congr {s₂ : Rdma} (h : s.CopyInv) (ha : Alike s₂ s) : s₂.CopyInv := by
  refine ⟨h.order.congr ha, ?_, ?_⟩
  · rw [ha.accepted]
    exact h.accepted
  · rw [ha.requests]
    exact h.slots

theorem CopyInv.step (h : s.CopyInv) {t : Step} (ht : t.Words) : (step t s).CopyInv := by
  cases t with
  | submit client op_type local_addr remote_addr size data read_page =>
      exact h.submit client op_type data read_page ht.2.1 ht.2.2
  | drain split => exact drain_invariant (fun split s hs hpos => hs.process_one split hpos) split h
  | wait client request_id => exact h.congr (wait_alike s client request_id)
  | recopy client request_id => exact h.congr (recopy_alike s client request_id)
  | give_up client request_id => exact h.congr (give_up_alike s client request_id)

/-- One turn of the drain loop. -/
theorem CopyInv.process_one_strict_eq (h : s.CopyInv) (split : Bool) (hpos : 0 < s.count) :
    s.process_one_strict split = .ok (s.process_one split) := by
  obtain ⟨hformed, hpending⟩ := h.head hpos
  have hhandle : rdma_server_handle_request_strict split s.serving s =
      .ok (rdma_server_handle_request split s.serving s) := handle_strict_eq hformed.serving split s
  unfold process_one_strict
  rw [if_pos hpending, hhandle, Prog.ok_bind, process_one_pending split hpending]
  rfl

/-- The drain loop, by induction on the requests that are left; each turn keeps the invariant. -/
theorem CopyInv.process_loop_strict_eq (h : s.CopyInv) (split : ℕ → Bool) {left : ℕ}
    (hleft : left ≤ s.count) : process_loop_strict split left s = .ok (process_loop split left s) := by
  induction left generalizing s with
  | zero => rfl
  | succ left ih =>
      have hpos : 0 < s.count := by omega
      have hcount := process_one_count (split left) s
      rw [process_loop_strict, h.process_one_strict_eq (split left) hpos, Prog.ok_bind]
      exact ih (h.process_one (split left) hpos) (by omega)

theorem CopyInv.poll_strict_eq (h : s.CopyInv) (request_id : ℕ) :
    s.rdma_wait_poll_strict request_id = .ok (s.rdma_wait_poll request_id) := by
  rw [rdma_wait_poll_strict, rdma_wait_poll_eq]
  rcases hfind : s.find_request request_id with _ | req
  · rfl
  · -- what was found is one of the slots
    obtain ⟨i, -, rfl⟩ := Option.map_eq_some_iff.1 hfind
    exact poll_slot_strict_eq (h.slots i) s

theorem CopyInv.step_strict_eq (h : s.CopyInv) (t : Step) :
    step_strict t s = .ok (Rdma.step t s) := by
  cases t with
  | submit client op_type local_addr remote_addr size data read_page => rfl
  | drain split =>
      show s.rdma_server_process_requests_strict split = .ok (s.rdma_server_process_requests split)
      unfold rdma_server_process_requests_strict rdma_server_process_requests
      split
      · rfl
      · exact h.process_loop_strict_eq split le_rfl
  | wait client request_id =>
      simp only [step_strict, Rdma.step]
      rcases s.reads (client, request_id) with _ | g
      · rfl
      · by_cases hphase : g.phase = .waiting
        · simp only [if_pos hphase, wait_step_strict, wait_step, h.poll_strict_eq request_id,
            Prog.ok_bind]
          rcases s.rdma_wait_poll request_id with _ | (e | placed)
          · rfl
          · rfl
          · rfl
        · simp only [if_neg hphase]
  | recopy client request_id => rfl
  | give_up client request_id => rfl

/-- **Request copies stay in bounds.** In every run of submits, drains and waits of any number of
clients, with any 64-bit addresses and sizes: no copy of the server or of a waiter leaves the page
buffer or the simulated memory, and no range test wraps; the same holds of every accepted request
whenever it is handled, and of every slot whenever it is polled; and an accepted read or write whose
copy would leave one of the two is answered with an error, with both unchanged. -/
theorem copies_in_bounds (run : List Step) (h : ∀ t ∈ run, t.Words) :
    exec_strict run = .ok (exec run) ∧
      (∀ req ∈ (exec run).accepted, ∀ (split : Bool) (s : Rdma),
        rdma_server_handle_request_strict split req s =
          .ok (rdma_server_handle_request split req s)) ∧
      (∀ (i : ℕ) (s : Rdma), poll_slot_strict ((exec run).requests i) s =
        .ok (poll_slot ((exec run).requests i) s)) ∧
      ∀ req ∈ (exec run).accepted, req.op_type = .READ ∨ req.op_type = .WRITE →
        ¬ InBounds req → Refused req := by
  have hinv : (exec run).CopyInv :=
    Guarded.exec_of_forall (P := Step.Words) (I := CopyInv) (fun s t hs ht => hs.step ht)
      copyInv_start h
  refine ⟨?_, ?_, ?_, ?_⟩
  · exact Guarded.execStrict_eq_ok (P := Step.Words) (I := CopyInv)
      (fun s t hs _ => hs.step_strict_eq t) (fun s t hs ht => hs.step ht) copyInv_start h
  · intro req hreq split s
    exact handle_strict_eq (hinv.accepted req hreq) split s
  · intro i s
    exact poll_slot_strict_eq (hinv.slots i) s
  · intro req hreq hop hout
    exact refused_of_not_inBounds (hinv.accepted req hreq) (hinv.order.pending req hreq) hop hout

/-- A write of a page, a read of `2 ^ 64 - 1` bytes at the last address, a write across the end of
the simulated memory, and a read of the page. -/
def wildRequests : List Step :=
  [.submit 0 .WRITE 1 0x4000000000 4096 (some fun _ => 7) false, .drain fun _ => true,
    .submit 1 .READ 1 (2 ^ 64 - 1) (2 ^ 64 - 1) none false,
    .submit 1 .WRITE 1 0x403FFFF001 4096 (some fun _ => 8) false,
    .submit 0 .READ 1 0x4000000000 4096 none false, .drain fun _ => true, .wait 0 2]

theorem copies_in_bounds_wildRequests :
    exec_strict wildRequests = .ok (exec wildRequests) ∧
      ∃ req ∈ (exec wildRequests).accepted, ¬ InBounds req ∧ Refused req := by
  obtain ⟨hrun, -, -, hrefused⟩ := copies_in_bounds wildRequests (by decide)
  have haccepted : (exec wildRequests).accepted.map (fun r => (r.op_type, r.size)) =
      [(.WRITE, 4096), (.READ, 2 ^ 64 - 1), (.WRITE, 4096), (.READ, 4096)] := by
    decide +kernel
  have hmem : (RdmaOp.READ, 2 ^ 64 - 1) ∈
      (exec wildRequests).accepted.map fun r => (r.op_type, r.size) := by
    rw [haccepted]
    exact List.mem_cons_of_mem _ List.mem_cons_self
  obtain ⟨req, hreq, he⟩ := List.mem_map.1 hmem
  obtain ⟨hop, hsize⟩ := Prod.mk.inj he
  have hout : ¬ InBounds req := by
    rintro ⟨hbuffer, -, -⟩
    rw [hsize] at hbuffer
    exact absurd (le_trans (Nat.le_add_left _ _) hbuffer) (by decide)
  exact ⟨hrun, req, hreq, hout, hrefused req hreq (Or.inl hop) hout⟩

end Rdma

end SwapPrefetch
