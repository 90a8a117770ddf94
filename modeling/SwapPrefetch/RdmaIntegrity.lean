/-
Whose bytes the page buffer of `src/rdma_sim.c` carries.

A write leaves its data in `page_buffer` from its submit until the server serves it. A read
finds its result there from the moment it is served until its client has copied it out. The
buffer is not reserved for either: the next submit or the next request served overwrites it.

For each direction there is a condition on the steps, read off the state in which the step
is made, under which no step overwrites bytes that are still needed. Every run that meets it
keeps the bytes of every write, respectively of every read, and a short run that does not
meet it loses them.
-/
import Mathlib.Tactic
import SwapPrefetch.RdmaSteps

set_option autoImplicit false

namespace SwapPrefetch

/-- The server stored what the submitter passed. -/
def StoredWrite.Faithful (w : StoredWrite) : Prop :=
  ∀ k, k < w.request.size → w.stored k = w.request.payload k

/-- A read returned what the server had at its address when it served it: all of it, at the
local address of the request. -/
def ReadReturn.Faithful (r : ReadReturn) : Prop :=
  ∃ found, r.read.served = some found ∧ (r.read.local_addr ≠ 0 →
    ∃ p, r.placed = some p ∧ p.local_addr = r.read.local_addr ∧ p.size = r.read.size ∧
      ∀ k, k < p.size → p.bytes k = found k)

namespace Rdma

variable {s : Rdma}

/-! ## Writes -/

/-- Data enters the page buffer only while no pending request has data there or will be
answered through it. -/
def WriteAlone (s : Rdma) : Step → Prop
  | .submit _ op_type _ _ size data _ => s.FillsBuffer op_type size data →
      ∀ req ∈ s.queue, req.op_type ≠ .READ ∧ req.data_in_shm_buffer = false
  | _ => True

/-- The data of the pending requests is still in the buffer when its turn comes: no request
with data stands behind a read or behind another request with data. -/
def Intact (page_buffer : Bytes) : List Request → Prop
  | [] => True
  | req :: rest =>
      if req.data_in_shm_buffer = true then
        (∀ k, k < req.size → page_buffer (req.buffer_offset + k) = req.payload k) ∧
          ∀ q ∈ rest, q.data_in_shm_buffer = false
      else if req.op_type = .READ then ∀ q ∈ rest, q.data_in_shm_buffer = false
      else Intact page_buffer rest

variable {page_buffer : Bytes} {l : List Request} {req : Request}

theorem intact_of_no_data (h : ∀ q ∈ l, q.data_in_shm_buffer = false) : Intact page_buffer l := by
  induction l with
  | nil => trivial
  | cons req rest ih =>
      have hrest : ∀ q ∈ rest, q.data_in_shm_buffer = false :=
        fun q hq => h q (List.mem_cons_of_mem req hq)
      unfold Intact
      rw [if_neg (by simp [h req List.mem_cons_self])]
      split
      · exact hrest
      · exact ih hrest

/-- The rest of the queue, if the buffer is left alone. -/
theorem Intact.rest (h : Intact page_buffer (req :: l)) : Intact page_buffer l := by
  unfold Intact at h
  split at h
  · exact intact_of_no_data h.2
  · split at h
    · exact intact_of_no_data h
    · exact h

/-- The data of the first request is in the buffer. -/
theorem Intact.data (h : Intact page_buffer (req :: l)) (hdata : req.data_in_shm_buffer = true) :
    ∀ k, k < req.size → page_buffer (req.buffer_offset + k) = req.payload k := by
  unfold Intact at h
  rw [if_pos hdata] at h
  exact h.1

/-- Behind a read the buffer is not needed any more. -/
theorem Intact.rest_of_read (h : Intact page_buffer (req :: l)) (hread : req.op_type = .READ)
    (page_buffer' : Bytes) : Intact page_buffer' l := by
  unfold Intact at h
  split at h
  · exact intact_of_no_data h.2
  · exact intact_of_no_data (by simpa only [if_pos hread] using h)

theorem Intact.append (h : Intact page_buffer l) (hreq : req.data_in_shm_buffer = false) :
    Intact page_buffer (l ++ [req]) := by
  have hlast : ∀ {rest : List Request}, (∀ q ∈ rest, q.data_in_shm_buffer = false) →
      ∀ q ∈ rest ++ [req], q.data_in_shm_buffer = false := by
    intro rest hrest q hq
    rcases List.mem_append.mp hq with hq | hq
    · exact hrest q hq
    · rwa [List.mem_singleton.mp hq]
  induction l with
  | nil => exact intact_of_no_data (hlast (by simp))
  | cons r rest ih =>
      rw [List.cons_append]
      unfold Intact at h ⊢
      split at h
      · rw [if_pos (by assumption)]
        exact ⟨h.1, hlast h.2⟩
      · rw [if_neg (by assumption)]
        split at h
        · rw [if_pos (by assumption)]
          exact hlast h
        · rw [if_neg (by assumption)]
          exact ih h

theorem intact_append_data (hl : ∀ q ∈ l, q.op_type ≠ .READ ∧ q.data_in_shm_buffer = false)
    (hreq : req.data_in_shm_buffer = true)
    (hbuf : ∀ k, k < req.size → page_buffer (req.buffer_offset + k) = req.payload k) :
    Intact page_buffer (l ++ [req]) := by
  induction l with
  | nil =>
      show Intact page_buffer [req]
      unfold Intact
      rw [if_pos hreq]
      exact ⟨hbuf, by simp⟩
  | cons r rest ih =>
      have hr := hl r List.mem_cons_self
      rw [List.cons_append]
      unfold Intact
      rw [if_neg (by simp [hr.2]), if_neg hr.1]
      exact ih fun q hq => hl q (List.mem_cons_of_mem r hq)

/-- The invariant of the writes. -/
structure WriteInv (s : Rdma) : Prop where
  ring : s.RingOk
  intact : Intact s.page_buffer s.queue
  stored : ∀ w ∈ s.writes_log, w.Faithful

theorem WriteInv.submit (h : s.WriteInv) (client : ℕ) (op_type : RdmaOp)
    (local_addr remote_addr size : ℕ) (data : Option Bytes) (read_page : Bool)
    (halone : s.WriteAlone (.submit client op_type local_addr remote_addr size data read_page)) :
    (s.rdma_submit_request client op_type local_addr remote_addr size data read_page).2.WriteInv := by
  rcases submit_cases s client op_type local_addr remote_addr size data read_page with
    he | ⟨hfree, -, he⟩ | ⟨hfills, he⟩ | ⟨hfree, he⟩ <;> rw [he]
  · exact h
  · have hring := (takeId_ring s client).ringOk h.ring
    refine ⟨⟨hring.head, hring.count, hring.tail⟩, ?_, h.stored⟩
    rw [hring.queue_fill hfree]
    exact h.intact
  · -- the new data is alone in the buffer
    have hsame := putData_ring s client
      (s.newRequest client op_type local_addr remote_addr size data).payload size
    have hring := hsame.ringOk h.ring
    refine ⟨hring.enqueue hfills.1 _, ?_, h.stored⟩
    rw [hring.queue_enqueue hfills.1, hsame.queue]
    refine intact_append_data (halone hfills) rfl fun k hk => ?_
    have hk' : k < size := hk
    show memcpy s.page_buffer 0 (s.newRequest client op_type local_addr remote_addr size
      data).payload size (0 + k) = _
    rw [memcpy, if_pos (by omega), Nat.zero_add, Nat.sub_zero]
  · have hsame := noteRead_ring s client
      (s.newRequest client op_type local_addr remote_addr size data) read_page
    have hring := hsame.ringOk h.ring
    have hcount := hsame.count ▸ hfree
    refine ⟨hring.enqueue hcount _, ?_, ?_⟩
    · rw [hring.queue_enqueue hcount, hsame.queue]
      show Intact (noteRead _ _ _).page_buffer _
      rw [noteRead_page_buffer]
      exact h.intact.append rfl
    · show ∀ w ∈ (noteRead _ _ _).writes_log, w.Faithful
      rw [noteRead_writes_log]
      exact h.stored

/-- The counters and the log play no part. -/
theorem WriteInv.of_counted {r a req' : Request} (h : (s.advance req').WriteInv) :
    ((s.answered r a).advance req').WriteInv := by
  have hring := (s.answered_ring r a).advance req'
  obtain ⟨completed, failed, served, he⟩ := s.answered_eq r a
  refine ⟨hring.ringOk h.ring, ?_, ?_⟩
  · rw [hring.queue, he]
    exact h.intact
  · rw [he]
    exact h.stored

theorem WriteInv.process_one (split : Bool) (h : s.WriteInv) (hpos : 0 < s.count) :
    (s.process_one split).WriteInv := by
  obtain ⟨s₁, req', he, hs, -⟩ := process_one_cases split s
  have hok := hs.ring.ringOk h.ring
  have hpos₁ : 0 < s₁.count := by rwa [hs.ring.count]
  have hqueue : s.queue = s.requests s.head :: (s₁.advance req').queue := by
    rw [← hs.ring.queue, hok.queue_advance hpos₁ req', hs.ring.requests, hs.ring.head]
  have hintact := h.intact
  rw [hqueue] at hintact
  rw [he]
  refine WriteInv.of_counted ?_
  rcases hs with hq | ⟨found, hr⟩ | ⟨w, hw⟩
  · refine ⟨hok.advance hpos₁ _, ?_, ?_⟩
    · show Intact s₁.page_buffer _
      rw [hq.state]
      rw [hq.state] at hintact
      exact hintact.rest
    · show ∀ w ∈ s₁.writes_log, w.Faithful
      rw [hq.state]
      exact h.stored
  · -- a read spoils the buffer, but then no write is behind it in the queue
    refine ⟨hok.advance hpos₁ _, hintact.rest_of_read hr.read _, ?_⟩
    show ∀ w ∈ s₁.writes_log, w.Faithful
    rw [hr.state]
    exact h.stored
  · -- the data of this write is what the buffer holds
    obtain ⟨memory, hm⟩ := hw.state
    refine ⟨hok.advance hpos₁ _, ?_, ?_⟩
    · show Intact s₁.page_buffer _
      rw [hm]
      rw [hm] at hintact
      exact hintact.rest
    · show ∀ w ∈ s₁.writes_log, w.Faithful
      rw [hm]
      intro w' hw'
      rcases List.mem_cons.mp hw' with rfl | hw'
      · intro k hk
        rw [hw.request] at hk ⊢
        rw [hw.stored k hk]
        exact hintact.data hw.data k hk
      · exact h.stored w' hw'

theorem setPhase_writeInv (h : s.WriteInv) (key : Key) (phase : ReadPhase) :
    (s.setPhase key phase).WriteInv :=
  ⟨⟨h.ring.head, h.ring.count, h.ring.tail⟩, h.intact, h.stored⟩

/-- **One step.** A step that meets the condition keeps the invariant. -/
theorem WriteInv.step (h : s.WriteInv) (t : Step) (halone : s.WriteAlone t) :
    (step t s).WriteInv := by
  have hreturn : ∀ (g : ReadGhost) (placed : Option Placed), (s.noteReturn g placed).WriteInv :=
    fun g placed => ⟨⟨h.ring.head, h.ring.count, h.ring.tail⟩, h.intact, h.stored⟩
  cases t with
  | submit client op_type local_addr remote_addr size data read_page =>
      exact h.submit client op_type local_addr remote_addr size data read_page halone
  | drain split => exact drain_invariant (fun split _ h hpos => h.process_one split hpos) split h
  | wait client request_id =>
      rcases wait_cases s client request_id with he | ⟨g, -, -, he | ⟨placed, -, he⟩⟩ <;> rw [he]
      · exact h
      · exact setPhase_writeInv h _ _
      · exact setPhase_writeInv (hreturn g placed) _ _
  | recopy client request_id =>
      rcases recopy_cases s client request_id with he | ⟨g, -, -, he⟩ <;> rw [he]
      · exact h
      · exact setPhase_writeInv (hreturn g _) _ _
  | give_up client request_id =>
      rcases give_up_cases s client request_id with he | he <;> rw [he]
      · exact h
      · exact setPhase_writeInv h _ _

/-- **Write integrity.** In every run in which data is submitted only while no read and no
other data is pending, every write that the server completes stores the bytes that its
submitter passed. -/
theorem writes_faithful_of_alone (run : List Step)
    (halone : Guarded.Meets step WriteAlone run {}) :
    ∀ w ∈ (exec run).writes_log, w.Faithful := by
  have hstart : WriteInv {} := ⟨⟨by decide, by decide, rfl⟩, trivial, fun _ hw => nomatch hw⟩
  exact (Guarded.exec_invariant (fun _ t h hC => h.step t hC) hstart halone).stored

/-- A page-sized write of one repeated byte. -/
def writePage (page : ℕ) (b : UInt8) : Step :=
  .submit 0 .WRITE 1 (SIM_REMOTE_MEMORY_BASE + page * 4096) 4096 (some fun _ => b) false

/-- Two writes are submitted before the server runs. -/
def twoWrites : List Step := [writePage 0 1, writePage 1 2, .drain fun _ => true]

/-- The first of two writes stores the bytes of the second. -/
theorem writes_not_faithful_twoWrites : ¬ ∀ w ∈ (exec twoWrites).writes_log, w.Faithful := by
  intro h
  have hbad : ∃ w ∈ (exec twoWrites).writes_log,
      0 < w.request.size ∧ w.stored 0 ≠ w.request.payload 0 := by decide +kernel
  obtain ⟨w, hw, hsize, hne⟩ := hbad
  exact hne (h w hw 0 hsize)

/-- The same writes, each drained before the next. -/
theorem writes_faithful_drained :
    let run := [writePage 0 1, .drain fun _ => true, writePage 1 2, .drain fun _ => true]
    (exec run).writes_log.length = 2 ∧ ∀ w ∈ (exec run).writes_log, w.Faithful := by
  refine ⟨by decide +kernel, writes_faithful_of_alone _ ⟨?_, trivial, ?_, trivial, trivial⟩⟩
  · exact fun _ req hreq => absurd hreq List.not_mem_nil
  · intro _ req hreq
    have hempty : queue (step (.drain fun _ => true) (step (writePage 0 1) {})) = [] := by
      have hcount : (step (.drain fun _ => true) (step (writePage 0 1) {})).count = 0 := by
        decide +kernel
      rw [queue, hcount, Ring.view]
    rw [hempty] at hreq
    exact absurd hreq List.not_mem_nil

/-! ## Reads -/

/-- No client still has to copy the result of a read that was served. -/
def BufferFree (s : Rdma) : Prop :=
  ∀ key g, s.reads key = some g → g.phase ≠ .done → g.served = none

/-- A drain that does not overwrite a result: it serves no read, or it serves one and no
earlier result is still to be copied. -/
def Drainable (s : Rdma) : Prop :=
  (∀ req ∈ s.queue, req.op_type ≠ .READ) ∨
    s.BufferFree ∧ s.queue.countP (fun req => req.op_type = .READ) ≤ 1

/-- The page buffer changes only while no result in it is needed. -/
def ReadAlone (s : Rdma) : Step → Prop
  | .submit _ op_type _ _ size data _ => s.FillsBuffer op_type size data → s.BufferFree
  | .drain _ => s.Drainable
  | _ => True

/-- The step is made by a thread of this process, or by the server. -/
def Step.OfProcess (process : ℕ) : Step → Prop
  | .submit client _ _ _ _ _ _ => client = process
  | .drain _ => True
  | .wait client _ => client = process
  | .recopy client _ => client = process
  | .give_up client _ => client = process

/-- The slot of an accepted read. -/
structure ReadSlot (req : Request) (g : ReadGhost) : Prop where
  op_type : req.op_type = .READ
  local_addr : req.local_addr = g.local_addr
  size : req.size = g.size
  buffer_offset : req.buffer_offset = 0
  completed : req.status = .COMPLETED → 0 < req.size ∧ ∃ found, g.served = some found

/-- The slot stays the slot of the read while its request stays the same. -/
theorem ReadSlot.of_same {req' : Request} {g : ReadGhost} (h : ReadSlot req g)
    (hsame : SameRequest req' req)
    (hdone : req'.status = .COMPLETED → 0 < req.size ∧ ∃ found, g.served = some found) :
    ReadSlot req' g :=
  ⟨hsame.op_type.trans h.op_type, hsame.local_addr.trans h.local_addr, hsame.size.trans h.size,
    hsame.buffer_offset.trans h.buffer_offset, fun hc => hsame.size ▸ hdone hc⟩

/-- The invariant of the reads of one process. The numbers of a process are not used twice,
so a slot that carries the number of a read is the slot of that read. -/
structure ReadInv (process : ℕ) (s : Rdma) : Prop where
  ring : s.RingOk
  slot_id : ∀ i, (s.requests i).request_id < s.request_id_counter process
  slot_owner : ∀ i, (s.requests i).client = process ∨ (s.requests i).request_id = 0
  known : ∀ key g, s.reads key = some g →
    key.1 = process ∧ 0 < key.2 ∧ key.2 < s.request_id_counter process
  slots : ∀ i g, s.reads (s.requests i).key = some g → ReadSlot (s.requests i) g
  buffer : ∀ key g found, s.reads key = some g → g.phase ≠ .done → g.served = some found →
    ∀ k, k < g.size → s.page_buffer k = found k
  copying : ∀ key g, s.reads key = some g → g.phase = .copying → ∃ found, g.served = some found
  returns : ∀ r ∈ s.returns_log, r.Faithful

variable {process : ℕ}

/-- A new request takes a slot and a number. It may be a read, which is then noted, and it
may change the buffer if no result is needed. -/
theorem ReadInv.put (h : s.ReadInv process) {s' : Rdma} (hring : s'.RingOk)
    (hid : req.request_id = s.request_id_counter process) (hclient : req.client = process)
    (hreq : s'.requests = Function.update s.requests s.tail req)
    (hcounter : s'.request_id_counter process = s.request_id_counter process + 1)
    (hreads : s'.reads = s.reads ∨ ∃ g, s'.reads = Function.update s.reads req.key (some g) ∧
      ReadSlot req g ∧ g.phase = .waiting ∧ g.served = none)
    (hbuf : s'.page_buffer = s.page_buffer ∨ s.BufferFree)
    (hreturns : s'.returns_log = s.returns_log) : s'.ReadInv process := by
  have hkey : req.key = (process, s.request_id_counter process) := by
    rw [Request.key, hclient, hid]
  -- a noted read is an old one, or the new one
  have hold : ∀ key g, s'.reads key = some g → s.reads key = some g ∨
      key = req.key ∧ ReadSlot req g ∧ g.phase = .waiting ∧ g.served = none := by
    intro key g hg
    rcases hreads with he | ⟨g', he, hnew⟩
    · rw [he] at hg
      exact Or.inl hg
    · rw [he] at hg
      by_cases hk : key = req.key
      · subst hk
        rw [Function.update_self, Option.some_inj] at hg
        subst hg
        exact Or.inr ⟨rfl, hnew⟩
      · rw [Function.update_of_ne hk] at hg
        exact Or.inl hg
  refine ⟨hring, ?_, ?_, ?_, ?_, ?_, ?_, hreturns ▸ h.returns⟩
  · intro i
    rw [hreq, hcounter]
    by_cases hi : i = s.tail
    · rw [hi, Function.update_self, hid]
      exact Nat.lt_succ_self _
    · rw [Function.update_of_ne hi]
      exact Nat.lt_succ_of_lt (h.slot_id i)
  · intro i
    rw [hreq]
    by_cases hi : i = s.tail
    · rw [hi, Function.update_self]
      exact Or.inl hclient
    · rw [Function.update_of_ne hi]
      exact h.slot_owner i
  · intro key g hg
    have hpos := h.slot_id 0
    rw [hcounter]
    rcases hold key g hg with hg | ⟨rfl, -⟩
    · obtain ⟨h1, h2, h3⟩ := h.known key g hg
      exact ⟨h1, h2, Nat.lt_succ_of_lt h3⟩
    · rw [hkey]
      exact ⟨rfl, by show 0 < s.request_id_counter process; omega, Nat.lt_succ_self _⟩
  · intro i g hg
    rw [hreq] at hg ⊢
    by_cases hi : i = s.tail
    · rw [hi, Function.update_self] at hg ⊢
      rcases hold _ g hg with hg | ⟨-, hnew, -⟩
      · -- the number is new, so no older read has it
        have hlt := (h.known _ g hg).2.2
        rw [hkey] at hlt
        exact absurd hlt (lt_irrefl _)
      · exact hnew
    · rw [Function.update_of_ne hi] at hg ⊢
      rcases hold _ g hg with hg | ⟨he, -⟩
      · exact h.slots i g hg
      · have hlt := h.slot_id i
        rw [hkey, Request.key, Prod.mk.injEq] at he
        omega
  · intro key g found hg hphase hserved
    rcases hold key g hg with hg | ⟨-, -, -, hnone⟩
    · rcases hbuf with he | hfree
      · rw [he]
        exact h.buffer key g found hg hphase hserved
      · exact absurd ((hfree key g hg hphase).symm.trans hserved) (by simp)
    · exact absurd (hnone.symm.trans hserved) (by simp)
  · intro key g hg hphase
    rcases hold key g hg with hg | ⟨-, -, hwait, -⟩
    · exact h.copying key g hg hphase
    · exact absurd (hwait.symm.trans hphase) (by decide)

theorem ReadInv.submit (h : s.ReadInv process) (op_type : RdmaOp)
    (local_addr remote_addr size : ℕ) (data : Option Bytes) (read_page : Bool)
    (halone : s.ReadAlone (.submit process op_type local_addr remote_addr size data read_page)) :
    (s.rdma_submit_request process op_type local_addr remote_addr size data
      read_page).2.ReadInv process := by
  have hcounter : (s.takeId process).request_id_counter process =
      s.request_id_counter process + 1 := Function.update_self ..
  rcases submit_cases s process op_type local_addr remote_addr size data read_page with
    he | ⟨hfree, -, he⟩ | ⟨hfills, he⟩ | ⟨hfree, he⟩ <;> rw [he]
  · exact h
  · exact h.put ⟨h.ring.head, h.ring.count, h.ring.tail⟩ rfl rfl rfl hcounter (Or.inl rfl)
      (Or.inl rfl) rfl
  · exact h.put ((putData_ring s process _ size).ringOk h.ring |>.enqueue hfills.1 _) rfl rfl rfl
      hcounter (Or.inl rfl) (Or.inr (halone hfills)) rfl
  · have hsame := noteRead_ring s process
      (s.newRequest process op_type local_addr remote_addr size data) read_page
    have hring := (hsame.ringOk h.ring).enqueue (hsame.count ▸ hfree)
      (s.newRequest process op_type local_addr remote_addr size data)
    revert hring
    unfold noteRead
    split
    · rename_i hread
      intro hring
      exact h.put hring rfl rfl rfl hcounter
        (Or.inr ⟨_, rfl, ⟨hread, rfl, rfl, rfl, fun hc => nomatch hc⟩, rfl, rfl⟩) (Or.inl rfl) rfl
    · intro hring
      exact h.put hring rfl rfl rfl hcounter (Or.inl rfl) (Or.inl rfl) rfl

/-- The server releases a slot without touching the reads or the buffer. -/
theorem ReadInv.release (h : s.ReadInv process) {s₁ : Rdma} {req' : Request}
    (hring : SameRing s₁ s) (hpos : 0 < s.count)
    (hcounter : s₁.request_id_counter = s.request_id_counter) (hreads : s₁.reads = s.reads)
    (hbuf : s₁.page_buffer = s.page_buffer) (hreturns : s₁.returns_log = s.returns_log)
    (hsame : SameRequest req' (s.requests s.head))
    (hdone : req'.status = .COMPLETED →
      (s.requests s.head).op_type ≠ .READ ∨ (s.requests s.head).status = .COMPLETED) :
    (s₁.advance req').ReadInv process := by
  have hslot := hring.advance_same hsame
  refine ⟨(hring.ringOk h.ring).advance (hring.count ▸ hpos) _, ?_, ?_, ?_, ?_, ?_, ?_, ?_⟩
  · intro i
    rw [(hslot i).request_id]
    show _ < s₁.request_id_counter process
    rw [hcounter]
    exact h.slot_id i
  · intro i
    rw [(hslot i).request_id, (hslot i).client]
    exact h.slot_owner i
  · show ∀ key g, s₁.reads key = some g → _ ∧ _ ∧ _ < s₁.request_id_counter process
    rw [hreads, hcounter]
    exact h.known
  · intro i g hg
    have hg' : s.reads (s.requests i).key = some g := by
      rw [← hreads, ← (hslot i).key]
      exact hg
    have hold := h.slots i g hg'
    refine hold.of_same (hslot i) fun hc => ?_
    -- only a slot that was completed before carries a completed read
    by_cases hi : i = s.head
    · subst hi
      rw [hring.advance_head] at hc
      rcases hdone hc with hop | hst
      · exact absurd hold.op_type hop
      · exact hold.completed hst
    · rw [hring.advance_of_ne hi] at hc
      exact hold.completed hc
  · intro key g found hg
    rw [show (s₁.advance req').page_buffer = s.page_buffer from hbuf]
    exact h.buffer key g found (hreads ▸ hg)
  · show ∀ key g, s₁.reads key = some g → _
    rw [hreads]
    exact h.copying
  · show ∀ r ∈ s₁.returns_log, r.Faithful
    rw [hreturns]
    exact h.returns

/-- The server answers a read: its result replaces what the buffer held. -/
theorem ReadInv.answer (h : s.ReadInv process) (hpos : 0 < s.count) (hfree : s.BufferFree)
    {s₁ : Rdma} {req' : Request} {found : Bytes}
    (hserved : ReadServed s s.serving s₁ req' found) :
    (s₁.advance req').ReadInv process := by
  have hring : SameRing s₁ s := by
    rw [hserved.state]
    exact ⟨rfl, rfl, rfl, rfl⟩
  have hslot := hring.advance_same hserved.same.of_serving
  -- the noted reads are the old ones, and the read at `head` has its result
  have hold : ∀ key g, (s₁.advance req').reads key = some g → ∃ g₀, s.reads key = some g₀ ∧
      (key = (s.requests s.head).key ∧ g = { g₀ with served := some found } ∨
        key ≠ (s.requests s.head).key ∧ g = g₀) := by
    intro key g hg
    have hg' : Function.update s.reads (s.requests s.head).key
        ((s.reads (s.requests s.head).key).map fun g => { g with served := some found }) key =
          some g := by
      rw [hserved.state] at hg
      exact hg
    by_cases hk : key = (s.requests s.head).key
    · rw [hk, Function.update_self, Option.map_eq_some_iff] at hg'
      obtain ⟨g₀, hg₀, rfl⟩ := hg'
      exact ⟨g₀, hk ▸ hg₀, Or.inl ⟨hk, rfl⟩⟩
    · rw [Function.update_of_ne hk] at hg'
      exact ⟨g, hg', Or.inr ⟨hk, rfl⟩⟩
  have hcounter : (s₁.advance req').request_id_counter = s.request_id_counter := by
    rw [hserved.state]; rfl
  refine ⟨(hring.ringOk h.ring).advance (hring.count ▸ hpos) _, ?_, ?_, ?_, ?_, ?_, ?_, ?_⟩
  · intro i
    rw [(hslot i).request_id, hcounter]
    exact h.slot_id i
  · intro i
    rw [(hslot i).request_id, (hslot i).client]
    exact h.slot_owner i
  · intro key g hg
    obtain ⟨g₀, hg₀, -⟩ := hold key g hg
    rw [hcounter]
    exact h.known key g₀ hg₀
  · intro i g hg
    rw [(hslot i).key] at hg
    obtain ⟨g₀, hg₀, hcase⟩ := hold _ g hg
    have hslot₀ := h.slots i g₀ hg₀
    rcases hcase with ⟨hk, rfl⟩ | ⟨hk, rfl⟩
    · -- this read now has a result, and its size was checked
      refine ⟨(hslot i).op_type.trans hslot₀.op_type, (hslot i).local_addr.trans hslot₀.local_addr,
        (hslot i).size.trans hslot₀.size, (hslot i).buffer_offset.trans hslot₀.buffer_offset,
        fun _ => ⟨?_, found, rfl⟩⟩
      have hsize : (s.requests i).size = (s.requests s.head).size := by
        rw [hslot₀.size, (h.slots s.head g₀ (hk ▸ hg₀)).size]
      rw [(hslot i).size, hsize]
      exact hserved.nonempty
    · refine hslot₀.of_same (hslot i) fun hc => ?_
      have hi : i ≠ s.head := fun hi => hk (by rw [hi])
      rw [hring.advance_of_ne hi] at hc
      exact hslot₀.completed hc
  · intro key g result hg hphase hresult
    obtain ⟨g₀, hg₀, ⟨hk, rfl⟩ | ⟨hk, rfl⟩⟩ := hold key g hg
    · have hslot₀ := h.slots s.head g₀ (hk ▸ hg₀)
      have hfound : found = result := by simpa using hresult
      intro k hlt
      have hbuf : (s₁.advance req').page_buffer =
          memcpy s.page_buffer (s.requests s.head).buffer_offset found (s.requests s.head).size := by
        rw [hserved.state]; rfl
      have hk' : k < (s.requests s.head).size := by
        rw [hslot₀.size]
        exact hlt
      rw [hbuf, hslot₀.buffer_offset, ← hfound, memcpy, if_pos (by omega), Nat.sub_zero]
    · -- no earlier result was needed
      exact absurd ((hfree key g hg₀ hphase).symm.trans hresult) (by simp)
  · intro key g hg hphase
    obtain ⟨g₀, hg₀, ⟨hk, rfl⟩ | ⟨hk, rfl⟩⟩ := hold key g hg
    · exact ⟨found, rfl⟩
    · exact h.copying key g hg₀ hphase
  · show ∀ r ∈ s₁.returns_log, r.Faithful
    rw [hserved.state]
    exact h.returns

theorem ReadInv.of_counted {r a req' : Request}
    (h : (s.advance req').ReadInv process ∧ (s.advance req').Drainable) :
    ((s.answered r a).advance req').ReadInv process ∧
      ((s.answered r a).advance req').Drainable := by
  have hring := (s.answered_ring r a).advance req'
  have hok := hring.ringOk h.1.ring
  have hqueue := hring.queue
  obtain ⟨completed, failed, served, he⟩ := s.answered_eq r a
  rw [he] at hok hqueue ⊢
  refine ⟨⟨hok, h.1.slot_id, h.1.slot_owner, h.1.known, h.1.slots, h.1.buffer, h.1.copying,
    h.1.returns⟩, ?_⟩
  unfold Drainable
  rw [hqueue]
  exact h.2

/-- A turn of the drain loop keeps the invariant, and the rest of the drain is harmless. -/
theorem ReadInv.process_one (split : Bool) (h : s.ReadInv process ∧ s.Drainable)
    (hpos : 0 < s.count) :
    (s.process_one split).ReadInv process ∧ (s.process_one split).Drainable := by
  obtain ⟨h, hdrain⟩ := h
  obtain ⟨s₁, req', he, hs, -⟩ := process_one_cases split s
  have hring := hs.ring
  have hqueue : s.queue = s.requests s.head :: (s₁.advance req').queue := by
    rw [← hring.queue, (hring.ringOk h.ring).queue_advance (hring.count ▸ hpos) req',
      hring.requests, hring.head]
  -- if no noted read changes, fewer pending requests are as harmless
  have hrest : s₁.reads = s.reads → (s₁.advance req').Drainable := by
    intro hreads
    rcases hdrain with hno | ⟨hfree, hone⟩
    · exact Or.inl fun r hr => hno r (hqueue ▸ List.mem_cons_of_mem _ hr)
    · refine Or.inr ⟨?_, ?_⟩
      · show ∀ key g, s₁.reads key = some g → _
        rw [hreads]
        exact hfree
      · rw [hqueue, List.countP_cons] at hone
        omega
  rw [he]
  refine ReadInv.of_counted ?_
  rcases hs with hq | ⟨found, hr⟩ | ⟨w, hw⟩
  · have hreads : s₁.reads = s.reads := by rw [hq.state]
    refine ⟨h.release hring hpos ?_ hreads ?_ ?_ hq.same.of_serving hq.completed,
      hrest hreads⟩ <;> rw [hq.state]
  · have hread : (s.requests s.head).op_type = .READ := hr.read
    rcases hdrain with hno | ⟨hfree, hone⟩
    · exact absurd hread (hno _ (hqueue ▸ List.mem_cons_self))
    · -- this was the only pending read
      refine ⟨h.answer hpos hfree hr, Or.inl fun r hmem hr => ?_⟩
      have hlater : 0 < (s₁.advance req').queue.countP (fun req => req.op_type = .READ) :=
        List.countP_pos_iff.mpr ⟨r, hmem, by simpa using hr⟩
      rw [hqueue, List.countP_cons, if_pos (by simpa using hread)] at hone
      omega
  · obtain ⟨memory, hm⟩ := hw.state
    have hreads : s₁.reads = s.reads := by rw [hm]
    have hop : (s.requests s.head).op_type ≠ .READ := by
      rw [show (s.requests s.head).op_type = .WRITE from hw.write]
      decide
    refine ⟨h.release hring hpos ?_ hreads ?_ ?_ hw.same.of_serving fun _ => Or.inl hop,
      hrest hreads⟩ <;> rw [hm]

/-- A poll that succeeds found a completed slot with this number, and copied the answer of a
read to its local buffer. -/
theorem rdma_wait_poll_ok {request_id : ℕ} {placed : Option Placed}
    (h : s.rdma_wait_poll request_id = some (.ok placed)) :
    ∃ i, (s.requests i).request_id = request_id ∧ (s.requests i).status = .COMPLETED ∧
      ((s.requests i).op_type = .READ → (s.requests i).local_addr ≠ 0 → 0 < (s.requests i).size →
        placed = some
          { local_addr := (s.requests i).local_addr, size := (s.requests i).size
            bytes := fun k => s.page_buffer ((s.requests i).buffer_offset + k) }) := by
  unfold rdma_wait_poll at h
  split at h
  · exact nomatch h
  · rename_i req hfind
    unfold find_request at hfind
    obtain ⟨i, hi, rfl⟩ := Option.map_eq_some_iff.mp hfind
    have hid : (s.requests i).request_id = request_id := by
      have := List.find?_some hi
      simp only [decide_eq_true_eq] at this
      exact this.1
    split at h
    · rename_i hstatus
      refine ⟨i, hid, hstatus, fun hop hlocal hsize => ?_⟩
      rw [if_pos ⟨hop, hlocal, hsize⟩] at h
      split at h
      · simpa using h.symm
      · exact nomatch h
    · exact nomatch h
    · exact nomatch h

/-- A wait of the client of a read finds the slot of that read. -/
theorem ReadInv.slot_of_id (h : s.ReadInv process) {request_id i : ℕ} {g : ReadGhost}
    (hg : s.reads (process, request_id) = some g)
    (hi : (s.requests i).request_id = request_id) : ReadSlot (s.requests i) g := by
  refine h.slots i g ?_
  rcases h.slot_owner i with hclient | hzero
  · rw [Request.key, hclient, hi]
    exact hg
  · have hpos := (h.known _ g hg).2.1
    rw [← hi, hzero] at hpos
    exact absurd hpos (lt_irrefl 0)

/-- The client of a read moves on. It copies again only if the read was served, and it is not
done before only to wait again. -/
theorem ReadInv.setPhase (h : s.ReadInv process) {key : Key} {phase : ReadPhase}
    (hlive : phase ≠ .done → ∀ g, s.reads key = some g → g.phase ≠ .done)
    (hcopy : phase = .copying → ∀ g, s.reads key = some g → ∃ found, g.served = some found) :
    (s.setPhase key phase).ReadInv process := by
  have hold : ∀ key' g, (s.setPhase key phase).reads key' = some g →
      ∃ g₀, s.reads key' = some g₀ ∧
        (key' = key ∧ g = { g₀ with phase := phase } ∨ g = g₀) := by
    intro key' g hg
    have hg' : Function.update s.reads key
        ((s.reads key).map fun g => { g with phase := phase }) key' = some g := hg
    by_cases hk : key' = key
    · rw [hk, Function.update_self, Option.map_eq_some_iff] at hg'
      obtain ⟨g₀, hg₀, rfl⟩ := hg'
      exact ⟨g₀, hk ▸ hg₀, Or.inl ⟨hk, rfl⟩⟩
    · rw [Function.update_of_ne hk] at hg'
      exact ⟨g, hg', Or.inr rfl⟩
  refine ⟨⟨h.ring.head, h.ring.count, h.ring.tail⟩, h.slot_id, h.slot_owner, ?_, ?_, ?_, ?_,
    h.returns⟩
  · intro key' g hg
    obtain ⟨g₀, hg₀, -⟩ := hold key' g hg
    exact h.known key' g₀ hg₀
  · intro i g hg
    obtain ⟨g₀, hg₀, ⟨-, rfl⟩ | rfl⟩ := hold _ g hg
    · have hslot := h.slots i g₀ hg₀
      exact ⟨hslot.op_type, hslot.local_addr, hslot.size, hslot.buffer_offset, hslot.completed⟩
    · exact h.slots i g hg₀
  · intro key' g found hg hphase
    obtain ⟨g₀, hg₀, ⟨rfl, rfl⟩ | rfl⟩ := hold key' g hg
    · exact h.buffer key' g₀ found hg₀ (hlive hphase g₀ hg₀)
    · exact h.buffer key' g found hg₀ hphase
  · intro key' g hg hphase
    obtain ⟨g₀, hg₀, ⟨rfl, rfl⟩ | rfl⟩ := hold key' g hg
    · exact hcopy hphase g₀ hg₀
    · exact h.copying key' g hg₀ hphase

theorem ReadInv.noteReturn (h : s.ReadInv process) {g : ReadGhost} {placed : Option Placed}
    (hfaithful : ReadReturn.Faithful { read := g, placed := placed }) :
    (s.noteReturn g placed).ReadInv process := by
  refine ⟨⟨h.ring.head, h.ring.count, h.ring.tail⟩, h.slot_id, h.slot_owner, h.known, h.slots,
    h.buffer, h.copying, fun r hr => ?_⟩
  rcases List.mem_cons.mp hr with rfl | hr
  · exact hfaithful
  · exact h.returns r hr

theorem ReadInv.wait (h : s.ReadInv process) (request_id : ℕ) :
    (step (.wait process request_id) s).ReadInv process := by
  rcases wait_cases s process request_id with he | ⟨g, hg, hphase, he | ⟨placed, hpoll, he⟩⟩ <;>
    rw [he]
  · exact h
  · exact h.setPhase (fun hne => absurd rfl hne) (fun hc => nomatch hc)
  · obtain ⟨i, hid, hstatus, hplaced⟩ := rdma_wait_poll_ok hpoll
    have hslot := h.slot_of_id hg hid
    obtain ⟨hsize, found, hserved⟩ := hslot.completed hstatus
    have hlive : g.phase ≠ .done := by rw [hphase]; decide
    have hsame : ∀ g', s.reads (process, request_id) = some g' → g' = g := by
      intro g' hg'
      simpa using hg'.symm.trans hg
    refine ReadInv.setPhase (h.noteReturn ⟨found, hserved, fun hlocal => ?_⟩) ?_ ?_
    · -- the buffer still holds the answer, since this client has not copied it yet
      refine ⟨_, hplaced hslot.op_type (hslot.local_addr ▸ hlocal) hsize, hslot.local_addr,
        hslot.size, fun k hk => ?_⟩
      show s.page_buffer ((s.requests i).buffer_offset + k) = found k
      rw [hslot.buffer_offset, Nat.zero_add]
      exact h.buffer _ g found hg hlive hserved k (hslot.size ▸ hk)
    · intro _ g' hg'
      rw [hsame g' hg']
      exact hlive
    · intro _ g' hg'
      rw [hsame g' hg']
      exact ⟨found, hserved⟩

theorem ReadInv.recopy (h : s.ReadInv process) (request_id : ℕ) :
    (step (.recopy process request_id) s).ReadInv process := by
  rcases recopy_cases s process request_id with he | ⟨g, hg, hphase, he⟩ <;> rw [he]
  · exact h
  · obtain ⟨found, hserved⟩ := h.copying _ g hg hphase
    have hlive : g.phase ≠ .done := by rw [hphase]; decide
    refine ReadInv.setPhase (h.noteReturn ⟨found, hserved, fun _ => ?_⟩)
      (fun hne => absurd rfl hne) (fun hc => nomatch hc)
    exact ⟨_, rfl, rfl, rfl, h.buffer _ g found hg hlive hserved⟩

/-- **One step.** A step of the process, or of the server, that meets the condition keeps the
invariant. -/
theorem ReadInv.step (h : s.ReadInv process) (t : Step) (hprocess : t.OfProcess process)
    (halone : s.ReadAlone t) : (step t s).ReadInv process := by
  cases t with
  | submit client op_type local_addr remote_addr size data read_page =>
      obtain rfl : client = process := hprocess
      exact h.submit op_type local_addr remote_addr size data read_page halone
  | drain split =>
      exact (drain_invariant (I := fun s => s.ReadInv process ∧ s.Drainable)
        (fun split _ h hpos => ReadInv.process_one split h hpos) split ⟨h, halone⟩).1
  | wait client request_id =>
      obtain rfl : client = process := hprocess
      exact h.wait request_id
  | recopy client request_id =>
      obtain rfl : client = process := hprocess
      exact h.recopy request_id
  | give_up client request_id =>
      rcases give_up_cases s client request_id with he | he <;> rw [he]
      · exact h
      · exact h.setPhase (fun hne => absurd rfl hne) (fun hc => nomatch hc)

/-- The server starts with no reads. -/
theorem readInv_start (process : ℕ) : ReadInv process {} :=
  ⟨⟨by decide, by decide, rfl⟩, fun _ => Nat.one_pos, fun _ => Or.inr rfl,
    fun _ _ h => (nomatch h), fun _ _ h => (nomatch h), fun _ _ _ h => (nomatch h),
    fun _ _ h => (nomatch h), fun _ h => (nomatch h)⟩

/-- A call of `rdma_read_page` for a whole page. -/
def readPage (page : ℕ) : Step :=
  .submit 0 .READ 1 (SIM_REMOTE_MEMORY_BASE + page * 4096) 4096 none true

/-- Two threads read different pages, and the server answers both before either copies. -/
def twoReads : List Step :=
  [writePage 0 1, .drain fun _ => true, readPage 0, readPage 1, .drain fun _ => true, .wait 0 2]

/-- A read whose two copies are made before anything else is submitted. -/
def collectedRead : List Step :=
  [readPage 0, .drain fun _ => true, .wait 0 1, .recopy 0 1]

end Rdma

end SwapPrefetch
