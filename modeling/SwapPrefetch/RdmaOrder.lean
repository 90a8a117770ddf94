/-
The ring of the RDMA simulation processes every accepted request once, in order.

Two logs are kept beside the state: the requests that were accepted and the requests that
the server processed. What is accepted and not yet processed is the queue, so the accepted
requests are always the processed ones followed by the queue. A rejected request that was
too large has already overwritten the slot at `tail`; that slot is outside the queue.
-/
import Mathlib.Tactic
import SwapPrefetch.RdmaSteps

set_option autoImplicit false

namespace SwapPrefetch

namespace Rdma

variable {s s₂ : Rdma}

/-! ## What is logged and counted -/

/-- The rings, the numbers, the logs and the counters of two states agree. -/
structure Alike (s₂ s : Rdma) : Prop extends SameRing s₂ s where
  number : s₂.request_id_counter = s.request_id_counter
  accepted : s₂.accepted = s.accepted
  served : s₂.served = s.served
  total : s₂.total_requests = s.total_requests
  completed : s₂.completed_requests = s.completed_requests
  failed : s₂.failed_requests = s.failed_requests

theorem putData_alike (s : Rdma) (data : Bytes) (size : ℕ) : Alike (s.putData data size) s :=
  ⟨⟨rfl, rfl, rfl, rfl⟩, rfl, rfl, rfl, rfl, rfl, rfl⟩

theorem noteRead_alike (s : Rdma) (req : Request) (read_page : Bool) :
    Alike (s.noteRead req read_page) s := by
  unfold noteRead
  split <;> exact ⟨⟨rfl, rfl, rfl, rfl⟩, rfl, rfl, rfl, rfl, rfl, rfl⟩

theorem Serves.alike {req req' : Request} {s₁ : Rdma} (h : Serves s req s₁ req') :
    Alike s₁ s := by
  rcases h with hq | ⟨found, hr⟩ | ⟨w, hw⟩
  · rw [hq.state]
    exact ⟨⟨rfl, rfl, rfl, rfl⟩, rfl, rfl, rfl, rfl, rfl, rfl⟩
  · rw [hr.state]
    exact ⟨⟨rfl, rfl, rfl, rfl⟩, rfl, rfl, rfl, rfl, rfl, rfl⟩
  · obtain ⟨memory, hm⟩ := hw.state
    rw [hm]
    exact ⟨⟨rfl, rfl, rfl, rfl⟩, rfl, rfl, rfl, rfl, rfl, rfl⟩

/-- The request that is written into the slot at `tail`, and its return value `id`: a full
ring changes nothing; a rejected request takes a number and a slot; an accepted one is put
in the queue. -/
inductive Submitted (s : Rdma) (client : ℕ) (op_type : RdmaOp) : ℕ → Rdma → Prop
  | full : Submitted s client op_type 0 s
  | rejected {req : Request} (free : s.count < MAX_RDMA_REQUESTS)
      (key : req.key = (client, s.request_id_counter client)) (pending : req.status = .PENDING) :
      Submitted s client op_type 0 ((s.takeId client).fill req)
  | accepted {s₂ : Rdma} {req : Request} (free : s.count < MAX_RDMA_REQUESTS)
      (key : req.key = (client, s.request_id_counter client)) (pending : req.status = .PENDING)
      (op : req.op_type = op_type) (alike : Alike s₂ (s.takeId client)) :
      Submitted s client op_type (s.request_id_counter client) (s₂.enqueue req)

/-- **Submits**, as far as the queue goes. -/
theorem submit_submitted (s : Rdma) (client : ℕ) (op_type : RdmaOp)
    (local_addr remote_addr size : ℕ) (data : Option Bytes) (read_page : Bool) :
    let r := s.rdma_submit_request client op_type local_addr remote_addr size data read_page
    Submitted s client op_type r.1 r.2 := by
  intro r
  by_cases hfull : MAX_RDMA_REQUESTS ≤ s.count
  · have hr : r = (0, s) := if_pos hfull
    rw [hr]
    exact .full
  · have hfree : s.count < MAX_RDMA_REQUESTS := not_le.mp hfull
    simp only [r, rdma_submit_request, if_neg hfull]
    cases data with
    | none => exact .accepted hfree rfl rfl rfl (noteRead_alike (s.takeId client) _ read_page)
    | some data =>
        by_cases hwrite : op_type = .WRITE ∧ 0 < size
        · by_cases hsize : size ≤ RDMA_PAGE_BUFFER_SIZE
          · simp only [if_pos hwrite, if_pos hsize]
            exact .accepted hfree rfl rfl rfl (putData_alike (s.takeId client) data size)
          · simp only [if_pos hwrite, if_neg hsize]
            exact .rejected (s := s) hfree rfl rfl
        · simp only [if_neg hwrite]
          exact .accepted hfree rfl rfl rfl (noteRead_alike (s.takeId client) _ read_page)

/-- The steps of a reading client leave the queue alone. -/
theorem wait_alike (s : Rdma) (client request_id : ℕ) :
    Alike (step (.wait client request_id) s) s := by
  rcases wait_cases s client request_id with he | ⟨g, -, -, he | ⟨placed, -, he⟩⟩ <;> rw [he]
  all_goals exact ⟨⟨rfl, rfl, rfl, rfl⟩, rfl, rfl, rfl, rfl, rfl, rfl⟩

theorem recopy_alike (s : Rdma) (client request_id : ℕ) :
    Alike (step (.recopy client request_id) s) s := by
  rcases recopy_cases s client request_id with he | ⟨g, -, -, he⟩ <;> rw [he]
  all_goals exact ⟨⟨rfl, rfl, rfl, rfl⟩, rfl, rfl, rfl, rfl, rfl, rfl⟩

theorem give_up_alike (s : Rdma) (client request_id : ℕ) :
    Alike (step (.give_up client request_id) s) s := by
  rcases give_up_cases s client request_id with he | he <;> rw [he]
  all_goals exact ⟨⟨rfl, rfl, rfl, rfl⟩, rfl, rfl, rfl, rfl, rfl, rfl⟩

/-! ## The invariant -/

/-- The accepted requests are the processed ones followed by the queue, each under a number
of its own, and the counters agree with the logs. -/
structure OrderInv (s : Rdma) : Prop where
  ring : s.RingOk
  order : s.accepted = s.served.map Prod.fst ++ s.queue
  pending : ∀ req ∈ s.accepted, req.status = .PENDING
  taken : ∀ req ∈ s.accepted, req.request_id < s.request_id_counter req.client
  once : (s.accepted.map Request.key).Nodup
  answered : ∀ p ∈ s.served, p.2.status ≠ .PENDING
  total : s.total_requests = s.completed_requests + s.failed_requests + s.count

theorem orderInv_start : OrderInv {} where
  ring := ⟨by decide, by decide, rfl⟩
  order := rfl
  pending := fun _ h => nomatch h
  taken := fun _ h => nomatch h
  once := List.nodup_nil
  answered := fun _ h => nomatch h
  total := rfl

/-- Steps that leave the queue alone. -/
theorem OrderInv.congr (h : s.OrderInv) (ha : Alike s₂ s) : s₂.OrderInv := by
  refine ⟨ha.ringOk h.ring, ?_, ?_, ?_, ?_, ?_, ?_⟩
  · rw [ha.accepted, ha.served, ha.queue]
    exact h.order
  · rw [ha.accepted]
    exact h.pending
  · rw [ha.accepted, ha.number]
    exact h.taken
  · rw [ha.accepted]
    exact h.once
  · rw [ha.served]
    exact h.answered
  · rw [ha.total, ha.completed, ha.failed, ha.count]
    exact h.total

/-- The next number of a process is above those that are taken. -/
theorem OrderInv.takeId (h : s.OrderInv) (client : ℕ) : (s.takeId client).OrderInv := by
  refine ⟨(takeId_ring s client).ringOk h.ring, ?_, h.pending, ?_, h.once, h.answered, h.total⟩
  · rw [(takeId_ring s client).queue]
    exact h.order
  · intro req hreq
    have hlt := h.taken req hreq
    show req.request_id < Function.update s.request_id_counter client _ req.client
    by_cases hc : req.client = client
    · rw [hc, Function.update_self]
      rw [hc] at hlt
      omega
    · rw [Function.update_of_ne hc]
      exact hlt

/-- **A rejected request.** Its slot is behind the queue. -/
theorem OrderInv.fill (h : s.OrderInv) (hfree : s.count < MAX_RDMA_REQUESTS) (req : Request) :
    (s.fill req).OrderInv := by
  refine ⟨⟨h.ring.head, h.ring.count, h.ring.tail⟩, ?_, h.pending, h.taken, h.once, h.answered,
    h.total⟩
  rw [h.ring.queue_fill hfree req]
  exact h.order

/-- **An accepted request** is appended to the queue. Its number was taken just now. -/
theorem OrderInv.enqueue (h : s.OrderInv) (hfree : s.count < MAX_RDMA_REQUESTS) {req : Request}
    (hpending : req.status = .PENDING) (hlt : req.request_id < s.request_id_counter req.client)
    (hnew : ∀ r ∈ s.accepted, r.key ≠ req.key) : (s.enqueue req).OrderInv := by
  have hacc : (s.enqueue req).accepted = s.accepted ++ [req] := rfl
  refine ⟨h.ring.enqueue hfree req, ?_, ?_, ?_, ?_, h.answered, ?_⟩
  · rw [hacc, h.ring.queue_enqueue hfree req, h.order, List.append_assoc]
    rfl
  · rw [hacc]
    intro r hr
    rcases List.mem_append.mp hr with hr | hr
    · exact h.pending r hr
    · rw [List.mem_singleton.mp hr]
      exact hpending
  · rw [hacc]
    intro r hr
    rcases List.mem_append.mp hr with hr | hr
    · exact h.taken r hr
    · rw [List.mem_singleton.mp hr]
      exact hlt
  · rw [hacc, List.map_append, List.nodup_append]
    refine ⟨h.once, List.nodup_singleton _, ?_⟩
    intro k hk k' hk'
    obtain ⟨r, hr, rfl⟩ := List.mem_map.mp hk
    rw [List.map_singleton, List.mem_singleton] at hk'
    rw [hk']
    exact hnew r hr
  · have htotal := h.total
    show s.total_requests + 1 = s.completed_requests + s.failed_requests + (s.count + 1)
    omega

theorem OrderInv.submitted (h : s.OrderInv) {client id : ℕ} {op_type : RdmaOp} {s' : Rdma}
    (hsub : Submitted s client op_type id s') : s'.OrderInv := by
  cases hsub with
  | full => exact h
  | @rejected req hfree _ _ => exact (h.takeId client).fill hfree req
  | @accepted s₂ req hfree hkey hpending _ ha =>
      obtain ⟨hclient, hid⟩ := Prod.mk.inj hkey
      refine ((h.takeId client).congr ha).enqueue (by rw [ha.count]; exact hfree) hpending ?_ ?_
      · rw [hclient, hid, ha.number]
        show _ < Function.update s.request_id_counter client _ client
        rw [Function.update_self]
        omega
      · -- every number that was taken before is smaller
        rw [ha.accepted]
        intro r hr he
        have hlt := h.taken r hr
        rw [hkey] at he
        obtain ⟨hrc, hrid⟩ := Prod.mk.inj he
        rw [hrc, hrid] at hlt
        exact lt_irrefl _ hlt

theorem OrderInv.submit (h : s.OrderInv) (client : ℕ) (op_type : RdmaOp)
    (local_addr remote_addr size : ℕ) (data : Option Bytes) (read_page : Bool) :
    (s.rdma_submit_request client op_type local_addr remote_addr size data read_page).2.OrderInv :=
  h.submitted (submit_submitted s client op_type local_addr remote_addr size data read_page)

/-! ## The drain -/

/-- The counters and the log after a pending request was answered. -/
theorem answered_pending {req : Request} (hreq : req.status = .PENDING) (answer : Request) :
    (s.answered req answer).served = s.served ++ [(req, answer)] ∧
      (s.answered req answer).completed_requests + (s.answered req answer).failed_requests =
        s.completed_requests + s.failed_requests + 1 := by
  rw [answered, if_pos hreq]
  refine ⟨rfl, ?_⟩
  simp only
  split <;> omega

/-- The first request of the queue was answered, and its slot released. -/
structure Answered (s s' : Rdma) (answer : Request) : Prop where
  requests : s'.requests = Function.update s.requests s.head answer
  head : s'.head = (s.head + 1) % MAX_RDMA_REQUESTS
  tail : s'.tail = s.tail
  count : s'.count = s.count - 1
  same : SameRequest answer (s.requests s.head)
  status : answer.status ≠ .PENDING
  accepted : s'.accepted = s.accepted
  served : s'.served = s.served ++ [(s.requests s.head, answer)]
  number : s'.request_id_counter = s.request_id_counter
  total : s'.total_requests = s.total_requests
  counted : s'.completed_requests + s'.failed_requests =
    s.completed_requests + s.failed_requests + 1

theorem RingOk.queue_head (h : s.RingOk) (hpos : 0 < s.count) : s.requests s.head ∈ s.queue := by
  rw [h.queue_advance hpos (s.requests s.head)]
  exact List.mem_cons_self

/-- The requests of the queue are pending. -/
theorem OrderInv.queue_pending (h : s.OrderInv) {req : Request} (hreq : req ∈ s.queue) :
    req.status = .PENDING := by
  refine h.pending req ?_
  rw [h.order]
  exact List.mem_append_right _ hreq

theorem OrderInv.process_one_answered (h : s.OrderInv) (split : Bool) (hpos : 0 < s.count) :
    ∃ answer, Answered s (s.process_one split) answer := by
  obtain ⟨s₁, answer, he, hs, hstatus⟩ := process_one_cases split s
  have hpending := h.queue_pending (h.ring.queue_head hpos)
  have ha := hs.alike
  obtain ⟨hserved, hcount⟩ := answered_pending (s := s₁) hpending answer
  obtain ⟨completed, failed, served, heq⟩ := s₁.answered_eq (s.requests s.head) answer
  have hsame : SameRequest answer (s.requests s.head) := by
    rcases hs with hq | ⟨found, hr⟩ | ⟨w, hw⟩
    · exact hq.same.of_serving
    · exact hr.same.of_serving
    · exact hw.same.of_serving
  refine ⟨answer, ?_⟩
  rw [he]
  refine ⟨?_, ?_, ?_, ?_, hsame, hstatus hpending, ?_, ?_, ?_, ?_, ?_⟩
  · show Function.update (s₁.answered _ answer).requests (s₁.answered _ answer).head answer = _
    rw [heq, ha.requests, ha.head]
  · show ((s₁.answered _ answer).head + 1) % _ = _
    rw [heq, ha.head]
  · show (s₁.answered _ answer).tail = _
    rw [heq, ha.tail]
  · show (s₁.answered _ answer).count - 1 = _
    rw [heq, ha.count]
  · show (s₁.answered _ answer).accepted = _
    rw [heq, ha.accepted]
  · show (s₁.answered _ answer).served = _
    rw [hserved, ha.served]
  · show (s₁.answered _ answer).request_id_counter = _
    rw [heq, ha.number]
  · show (s₁.answered _ answer).total_requests = _
    rw [heq, ha.total]
  · show (s₁.answered _ answer).completed_requests + (s₁.answered _ answer).failed_requests = _
    rw [hcount, ha.completed, ha.failed]

theorem Answered.ring {s' : Rdma} {answer : Request} (h : Answered s s' answer) :
    SameRing s' (s.advance answer) :=
  ⟨h.requests, h.head, h.tail, h.count⟩

/-- **A turn of the drain loop** moves the first request of the queue to the processed ones. -/
theorem OrderInv.process_one (h : s.OrderInv) (split : Bool) (hpos : 0 < s.count) :
    (s.process_one split).OrderInv := by
  obtain ⟨answer, ha⟩ := h.process_one_answered split hpos
  generalize s.process_one split = s' at ha
  refine ⟨ha.ring.ringOk (h.ring.advance hpos answer), ?_, ?_, ?_, ?_, ?_, ?_⟩
  · rw [ha.accepted, ha.served, ha.ring.queue, h.order, h.ring.queue_advance hpos answer,
      List.map_append, List.append_assoc]
    rfl
  · rw [ha.accepted]
    exact h.pending
  · rw [ha.accepted, ha.number]
    exact h.taken
  · rw [ha.accepted]
    exact h.once
  · rw [ha.served]
    intro p hp
    rcases List.mem_append.mp hp with hp | hp
    · exact h.answered p hp
    · rw [List.mem_singleton.mp hp]
      exact ha.status
  · have htotal := h.total
    rw [ha.total, ha.counted, ha.count]
    omega

/-! ## Runs -/

theorem OrderInv.step (h : s.OrderInv) (t : Step) : (step t s).OrderInv := by
  cases t with
  | submit client op_type local_addr remote_addr size data read_page =>
      exact h.submit client op_type local_addr remote_addr size data read_page
  | drain split => exact drain_invariant (fun split s hs hpos => hs.process_one split hpos) split h
  | wait client request_id => exact h.congr (wait_alike s client request_id)
  | recopy client request_id => exact h.congr (recopy_alike s client request_id)
  | give_up client request_id => exact h.congr (give_up_alike s client request_id)

/-- **Order.** After every run of submits and drains of any number of clients: the indices of
the ring are in range and agree; the accepted requests, each under its own process and number,
are the processed ones in order, followed by what the `count` slots from `head` on hold, and
these are pending; and every accepted request is counted once. -/
theorem ring_processes_in_order (run : List Step) :
    (exec run).count ≤ MAX_RDMA_REQUESTS ∧ (exec run).head < MAX_RDMA_REQUESTS ∧
    (exec run).tail < MAX_RDMA_REQUESTS ∧
    (exec run).tail = ((exec run).head + (exec run).count) % MAX_RDMA_REQUESTS ∧
    (exec run).accepted = (exec run).served.map Prod.fst ++ (exec run).queue ∧
    (∀ req ∈ (exec run).queue, req.status = .PENDING) ∧
    ((exec run).accepted.map Request.key).Nodup ∧
    (exec run).total_requests =
      (exec run).completed_requests + (exec run).failed_requests + (exec run).count := by
  have h : (exec run).OrderInv :=
    Guarded.exec_of_step (I := OrderInv) (fun s t hs => hs.step t) run orderInv_start
  refine ⟨h.ring.count, h.ring.head, ?_, h.ring.tail, h.order, fun req hreq => h.queue_pending hreq,
    h.once, h.total⟩
  rw [h.ring.tail]
  exact Nat.mod_lt _ (by decide)

end Rdma

end SwapPrefetch
