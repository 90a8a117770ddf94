/-
The read ring of the io_uring build (`USWAP_IOURING`): `src/storage_iouring.c` and the two
operations of `src/core.c` that read through it.

Each thread has one ring for its reads. A read is prepared, submitted, completed by the kernel, and
its completion is consumed by `ioring_finish_read`, which takes whatever completion comes first: the
code does not look at which read it belongs to. `Turn` says what the kernel does before a step of
the thread, so a list of turns is one order and one timing of the completions. A wait with nothing
completed sleeps until a read completes, and for ever if none is in flight.

The asynchronous swap-in waits for its read. `core_try_prefetch` does not: it submits its reads and
copies the buffers at once. So a prefetch of at least one page either copies a buffer that is still
being read, or leaves a completion behind, whatever the kernel does; every other operation leaves
the ring as it found it.

The writes of an eviction have a ring of their own and wait for each completion, so an eviction is
an operation of the pager here, as in the other build.
-/
import Mathlib.Tactic
import SwapPrefetch.Core
import SwapPrefetch.Ring

set_option autoImplicit false

namespace SwapPrefetch

namespace Uring

open Prog

variable {α β : Type}

/-! ## The ring -/

/-- `QD`, the number of entries of a queue. -/
abbrev QD : ℕ := 128

/-- The thread-local buffers: `buffer_space`, and the slots of `prefetch_buffer`. -/
inductive Target where
  | buffer_space
  | prefetch_buffer (i : ℕ)
deriving DecidableEq, Repr

/-- A read of one page. The number tells the reads of a thread apart; the code has no such thing. -/
structure Read where
  number : ℕ
  offset : ℕ
  target : Target
deriving DecidableEq, Repr

/-- `io_read_ring`. The last two fields are ghosts: how many reads were prepared, and which of them
was the last one into a buffer. -/
structure ReadRing where
  uring_read_init : Bool := false
  prepared : List Read := []
  in_flight : List Read := []
  /-- the completions that were not consumed -/
  unconsumed : List Read := []
  count : ℕ := 0
  latest : Target → Option Read := fun _ => none

/-- What the kernel does before a step of the thread: it completes the reads at these positions of
the queue, one after another, and a wait returns the completion at a position, counted round. -/
structure Turn where
  completes : List ℕ := []
  returns : ℕ := 0
deriving DecidableEq, Repr

/-- Ghost: an `UFFDIO_COPY` from a buffer, and whether the read into it had completed. -/
structure Copy where
  target : Target
  completed : Bool
deriving DecidableEq, Repr

/-- A thread of the pager with its ring. A list of turns that is used up stands for a kernel that
completes nothing unless it is waited for. -/
structure Thread (α : Type) where
  pager : State α
  ring : ReadRing := {}
  turns : List Turn := []
  copies : List Copy := []
  /-- an assertion failed, or a wait never returned -/
  stopped : Bool := false

/-- Why the thread stopped. -/
inductive Stop where
  | pager (fault : Fault)
  /-- `io_uring_get_sqe` returned `NULL` -/
  | get_sqe
  /-- `uring_read_init == true` -/
  | uring_read_init
  /-- `io_uring_wait_cqe` never returns -/
  | hang
deriving DecidableEq, Repr

/-- A routine that may use the ring. -/
abbrev UProc (α β : Type) : Type := Prog Stop (Thread α) β

/-- Run a routine of the pager. -/
def on_pager (m : Proc α β) : UProc α β := fun t =>
  match m.run t.pager with
  | .ok (b, s) => .ok (b, { t with pager := s })
  | .error e => .error (.pager e)

/-- Update the ring. -/
def modify_ring (f : ReadRing → ReadRing) : UProc α Unit :=
  modify fun t => { t with ring := f t.ring }

/-- The read into the buffer has completed. -/
def ReadRing.Completed (ring : ReadRing) (target : Target) : Prop :=
  ∃ r ∈ ring.latest target, r ∉ ring.prepared ∧ r ∉ ring.in_flight

instance (ring : ReadRing) (target : Target) : Decidable (ring.Completed target) :=
  match h : ring.latest target with
  | none => isFalse fun hc => by
      obtain ⟨r, hr, -⟩ := hc
      rw [h] at hr
      cases hr
  | some r => decidable_of_iff (r ∉ ring.prepared ∧ r ∉ ring.in_flight) <| by
      constructor
      · exact fun hr => ⟨r, h, hr⟩
      · rintro ⟨r', hr', hr⟩
        rw [h] at hr'
        cases hr'
        exact hr

/-! ## The kernel -/

/-- The read at a position of the queue completes. -/
def ReadRing.complete (ring : ReadRing) (i : ℕ) : ReadRing :=
  match ring.in_flight[i]? with
  | none => ring
  | some r =>
      { ring with
        in_flight := ring.in_flight.eraseIdx i
        unconsumed := ring.unconsumed ++ [r] }

/-- The buffer of a read that completed holds the content of its slot. -/
def Read.fill (r : Read) (s : State α) : State α :=
  match r.target, s.mem.store r.offset with
  | _, none => s
  | .buffer_space, some data => { s with mem := { s.mem with buffer_space := data } }
  | .prefetch_buffer i, some data =>
      { s with
        mem := { s.mem with prefetch_buffer := Function.update s.mem.prefetch_buffer i data } }

/-- The same with the content of the buffers. -/
def Thread.complete (t : Thread α) (i : ℕ) : Thread α :=
  { t with
    ring := t.ring.complete i
    pager := (t.ring.in_flight[i]?).elim t.pager fun r => r.fill t.pager }

/-- The kernel takes its next turn. -/
def kernel_turn : UProc α Turn := do
  let turn := (← get).turns.headD {}
  modify fun t => turn.completes.foldl Thread.complete { t with turns := t.turns.tail }
  pure turn

/-- `io_uring_wait_cqe` and `io_uring_cqe_seen`. -/
def io_uring_wait_cqe : UProc α Unit := do
  let turn ← kernel_turn
  if (← get).ring.unconsumed = [] then
    check ((← get).ring.in_flight ≠ []) .hang
    modify fun t => t.complete (turn.returns % t.ring.in_flight.length)
  modify_ring fun ring =>
    { ring with
      unconsumed := ring.unconsumed.eraseIdx (turn.returns % ring.unconsumed.length) }

/-! ## `src/storage_iouring.c` -/

/-- The first lines of the two routines below: `thread_init_read_iouring`, if the thread has not
called it. -/
def init_read_ring : UProc α Unit := do
  if (← get).ring.uring_read_init = false then
    modify_ring fun ring => { ring with uring_read_init := true }

/-- `ioring_prepare_read` (`src/storage_iouring.c:182`). -/
def ioring_prepare_read (offset : ℕ) (buffer : Target) : UProc α Unit := do
  init_read_ring
  check ((← get).ring.prepared.length < QD) .get_sqe
  modify_ring fun ring =>
    { ring with
      prepared := ring.prepared ++ [⟨ring.count, offset, buffer⟩]
      count := ring.count + 1
      latest := Function.update ring.latest buffer (some ⟨ring.count, offset, buffer⟩) }

/-- `ioring_submit_all_reads` (`src/storage_iouring.c:216`). -/
def ioring_submit_all_reads : UProc α Unit :=
  modify_ring fun ring =>
    { ring with in_flight := ring.in_flight ++ ring.prepared, prepared := [] }

/-- `ioring_start_read` (`src/storage_iouring.c:148`): the body of `ioring_prepare_read`, and the
submit. -/
def ioring_start_read (offset : ℕ) (buffer : Target) : UProc α Unit := do
  ioring_prepare_read offset buffer
  ioring_submit_all_reads

/-- `ioring_finish_read` (`src/storage_iouring.c:226`). None of its arguments is read. -/
def ioring_finish_read : UProc α Unit := do
  check ((← get).ring.uring_read_init = true) .uring_read_init
  io_uring_wait_cqe

/-! ## The operations of `src/core.c` -/

/-- What a buffer holds. -/
def Thread.buffer (t : Thread α) : Target → α
  | .buffer_space => t.pager.mem.buffer_space
  | .prefetch_buffer i => t.pager.mem.prefetch_buffer i

/-- `UFFDIO_COPY` of a buffer to the address of a page. -/
def copy_buffer (page : PageId) (buffer : Target) : UProc α ℤ := do
  let _ ← kernel_turn
  modify fun t => { t with copies := ⟨buffer, t.ring.Completed buffer⟩ :: t.copies }
  let data := (← get).buffer buffer
  on_pager do
    let va := (← get_page page).va
    uffdio_copy va data

/-- `core_migrate_up_async_start` (`src/core.c:790`): the assertions of the other build, and the
read. -/
def core_migrate_up_async_start (page : PageId) : UProc α Unit := do
  on_pager (SwapPrefetch.core_migrate_up_async_start page)
  let disk_addr_offset := ((← get).pager.pol.page page).virtual_offset
  ioring_start_read disk_addr_offset .buffer_space

/-- `core_migrate_up_async_finish` (`src/core.c:857`). -/
def core_migrate_up_async_finish (page : PageId) (dram_offset : ℕ) : UProc α Unit := do
  on_pager do
    check (¬ (← get_page page).in_dram) .migrate_up_in_dram
    let disk_addr_offset := (← get_page page).virtual_offset
    check (disk_addr_offset < (← get_pol).disksize) .disk_bound
    check (disk_addr_offset + PAGE_SIZE ≤ (← get_pol).disksize) .disk_bound
    check (dram_offset < (← get_pol).dramsize) .dram_bound
    check (dram_offset + PAGE_SIZE ≤ (← get_pol).dramsize) .dram_bound
  ioring_finish_read
  let ret ← copy_buffer page .buffer_space
  on_pager do
    check (ret ≠ -1) .uffdio_copy
    check ((← get_page page).va % PAGE_SIZE = 0) .bad_va
    set_page page fun p => { p with virtual_offset := dram_offset, in_dram := true }

/-- `lrudisk_swapin_external_async` (`src/policies/disklinux.c:166`). -/
def lrudisk_swapin_external_async (fuel : ℕ) (page : PageId) : UProc α Unit := do
  let file_offset := ((← get).pager.pol.page page).virtual_offset
  on_pager do
    lrudisk_detach_page page
    if (← get_page page).in_dram then
      set_page page fun p => { p with in_dram := false }
  core_migrate_up_async_start page
  let freepage ← on_pager do
    let freepage ← fetch_free_asynch fuel
    check ((← get_page freepage).in_dram) .freepage_in_dram
    pure freepage
  let offset := ((← get).pager.pol.page freepage).virtual_offset
  core_migrate_up_async_finish page offset
  on_pager do
    set_page freepage fun p =>
      { p with
        virtual_offset := file_offset, in_dram := false, swapped_out := true
        migrating := false }
    link_reserve page freepage

/-- The first loop of `core_try_prefetch`. -/
def prefetch_claim (fuel base_boundry : ℕ) : Proc α (List (PageId × PageId)) := do
  check (base_boundry ≠ 0) .bad_va
  prefetch_select fuel CORE_PREFETCH_RATE base_boundry

/-- The read loop of `core_try_prefetch`, into slot `i` of `prefetch_buffer` on. -/
def prefetch_read : List (PageId × PageId) → ℕ → UProc α Unit
  | [], _ => pure ()
  | (page, _) :: rest, i => do
      let disk_addr_offset := ((← get).pager.pol.page page).virtual_offset
      ioring_prepare_read disk_addr_offset (.prefetch_buffer i)
      prefetch_read rest (i + 1)

/-- The `UFFDIO_COPY` loop of `core_try_prefetch`. A failed copy is only reported. -/
def prefetch_finish : List (PageId × PageId) → ℕ → UProc α ℕ
  | [], finished_jobs => pure finished_jobs
  | (page, freepage) :: rest, finished_jobs => do
      let _ ← copy_buffer page (.prefetch_buffer finished_jobs)
      on_pager do
        lrudisk_ack_swapin page freepage
        set_page page fun p => { p with in_dram := true }
        set_page page fun p => { p with swapped_out := false, migrating := false }
      prefetch_finish rest (finished_jobs + 1)

/-- `core_try_prefetch` (`src/core.c:1684`). -/
def core_try_prefetch (fuel base_boundry : ℕ) : UProc α ℕ := do
  let jobs ← on_pager (prefetch_claim fuel base_boundry)
  prefetch_read jobs 0
  if jobs ≠ [] then
    ioring_submit_all_reads
  prefetch_finish jobs 0

/-! ## Runs -/

/-- What the thread does, and the kernel between its operations. -/
inductive Op (α : Type) where
  | swapin (fuel : ℕ) (page : PageId)
  | try_prefetch (fuel base_boundry : ℕ)
  | kernel
  /-- anything that does not use the ring -/
  | pager (s : State α)

/-- Execute one operation. -/
def Op.exec : Op α → UProc α Unit
  | .swapin fuel page => lrudisk_swapin_external_async fuel page
  | .try_prefetch fuel base_boundry => do
      let _ ← core_try_prefetch fuel base_boundry
      pure ()
  | .kernel => do
      let _ ← kernel_turn
      pure ()
  | .pager s => modify fun t => { t with pager := s }

/-- An operation of a thread that has not stopped. -/
def step (op : Op α) (t : Thread α) : Thread α :=
  if t.stopped then t
  else
    match op.exec.run t with
    | .ok (_, t') => t'
    | .error _ => { t with stopped := true }

/-- The operation is executed and returns. -/
def Op.Returns (op : Op α) (t : Thread α) : Prop :=
  t.stopped = false ∧ Ends (op.exec.run t) (fun _ _ => True) fun _ => False

/-- A thread that has not used its ring. -/
def start (pager : State α) (turns : List Turn) : Thread α := { pager := pager, turns := turns }

/-- Every copy was made after the read into its buffer had completed, and no completion is left. -/
structure Served (t : Thread α) : Prop where
  copied : ∀ c ∈ t.copies, c.completed = true
  consumed : t.ring.unconsumed = []

/-- The pages that a sequential prefetch goes on to read. -/
def Op.claimed (op : Op α) (t : Thread α) : List (PageId × PageId) :=
  match op with
  | .try_prefetch fuel base_boundry =>
      match (prefetch_claim fuel base_boundry).run t.pager with
      | .ok (jobs, _) => jobs
      | .error _ => []
  | _ => []

/-! ## Routines and the ring -/

theorem run_on_pager {m : Proc α β} {t : Thread α} {b : β} {s : State α}
    (h : m.run t.pager = .ok (b, s)) : (on_pager m).run t = .ok (b, { t with pager := s }) := by
  simp only [on_pager, StateT.run] at h ⊢
  rw [h]

theorem run_on_pager_error {m : Proc α β} {t : Thread α} {e : Fault}
    (h : m.run t.pager = .error e) : (on_pager m).run t = .error (.pager e) := by
  simp only [on_pager, StateT.run] at h ⊢
  rw [h]

/-- A routine of the pager leaves the ring alone. -/
theorem ends_on_pager (m : Proc α β) (t : Thread α) {Q : β → Thread α → Prop}
    (h : ∀ b s, Q b { t with pager := s }) : Ends ((on_pager m).run t) Q fun _ => True := by
  rcases hm : m.run t.pager with e | ⟨b, s⟩
  · exact Ends.of_throw (run_on_pager_error hm) trivial
  · exact Ends.of_eq (run_on_pager hm) (h b s)

theorem ends_on_pager_bind {γ : Type} (m : Proc α β) {f : β → UProc α γ} {t : Thread α}
    {Q : γ → Thread α → Prop}
    (h : ∀ b s, Ends ((f b).run { t with pager := s }) Q fun _ => True) :
    Ends ((on_pager m >>= f).run t) Q fun _ => True := by
  refine Ends.bind (R := fun _ t' => ∃ s, t' = { t with pager := s }) ?_ ?_
  · exact ends_on_pager m t fun _ s => ⟨s, rfl⟩
  · rintro b t' ⟨s, rfl⟩
    exact h b s

/-- A property of the ring that a completion keeps is kept by a turn of the kernel. -/
theorem ends_kernel_turn {I : ReadRing → Prop} (hI : ∀ ring i, I ring → I (ring.complete i))
    {t : Thread α} (h : I t.ring) :
    Ends ((kernel_turn : UProc α Turn).run t)
      (fun _ t' => I t'.ring ∧ t'.copies = t.copies) fun _ => True := by
  have hfold : ∀ (is : List ℕ) (u : Thread α), I u.ring →
      I (is.foldl Thread.complete u).ring ∧ (is.foldl Thread.complete u).copies = u.copies := by
    intro is
    induction is with
    | nil => exact fun u hu => ⟨hu, rfl⟩
    | cons i is ih =>
        intro u hu
        exact ih (u.complete i) (hI u.ring i hu)
  exact hfold _ _ h

/-- What a copy adds to the log, after a turn of the kernel. -/
theorem ends_copy_buffer {I : ReadRing → Prop} (hI : ∀ ring i, I ring → I (ring.complete i))
    (page : PageId) (buffer : Target) {t : Thread α} (h : I t.ring) :
    Ends ((copy_buffer page buffer).run t)
      (fun _ t' => I t'.ring ∧ t'.copies = ⟨buffer, t'.ring.Completed buffer⟩ :: t.copies)
      fun _ => True := by
  unfold copy_buffer
  refine Ends.bind (ends_kernel_turn hI h) fun _ t₁ ht₁ => ?_
  refine Ends.bind (Ends.ok (Q := fun _ t₂ => I t₂.ring ∧
    t₂.copies = ⟨buffer, t₂.ring.Completed buffer⟩ :: t.copies) ?_) fun _ t₂ ht₂ => ?_
  · exact ⟨ht₁.1, by rw [← ht₁.2]⟩
  · exact Ends.get_bind (ends_on_pager _ t₂ fun _ _ => ht₂)

/-- A prepared read is the last one into its buffer. -/
theorem ends_prepare_read (offset : ℕ) (buffer : Target) (t : Thread α) :
    Ends ((ioring_prepare_read offset buffer).run t)
      (fun _ t' => ∃ r, t'.ring.prepared = t.ring.prepared ++ [r] ∧
        t'.ring.in_flight = t.ring.in_flight ∧ t'.ring.unconsumed = t.ring.unconsumed ∧
        t'.ring.latest = Function.update t.ring.latest buffer (some r) ∧ t'.copies = t.copies)
      fun _ => True := by
  unfold ioring_prepare_read
  refine Ends.bind (R := fun _ t' => t'.ring.prepared = t.ring.prepared ∧
    t'.ring.in_flight = t.ring.in_flight ∧ t'.ring.unconsumed = t.ring.unconsumed ∧
    t'.ring.latest = t.ring.latest ∧ t'.copies = t.copies) ?_ ?_
  · refine Ends.get_bind ?_
    split
    · exact ⟨rfl, rfl, rfl, rfl, rfl⟩
    · exact ⟨rfl, rfl, rfl, rfl, rfl⟩
  · rintro _ t₁ ⟨hprepared, hflight, hdone, hlatest, hcopies⟩
    refine Ends.get_bind (Ends.check_bind (fun _ => trivial) fun _ => ?_)
    refine ⟨⟨t₁.ring.count, offset, buffer⟩, ?_, hflight, hdone, ?_, hcopies⟩
    · exact congrArg (· ++ _) hprepared
    · exact congrArg (fun f => Function.update f _ _) hlatest

/-! ## The asynchronous swap-in -/

/-- The ring between the operations. -/
structure Idle (ring : ReadRing) : Prop where
  prepared : ring.prepared = []
  in_flight : ring.in_flight = []
  unconsumed : ring.unconsumed = []

/-- One read is on its way to the buffer, or has arrived. -/
structure Started (r : Read) (ring : ReadRing) : Prop where
  prepared : ring.prepared = []
  latest : ring.latest .buffer_space = some r
  state : ring.in_flight = [r] ∧ ring.unconsumed = [] ∨
    ring.in_flight = [] ∧ ring.unconsumed = [r]

/-- The read was waited for. -/
structure Landed (r : Read) (ring : ReadRing) : Prop extends Idle ring where
  latest : ring.latest .buffer_space = some r

theorem complete_of_none {ring : ReadRing} (h : ring.in_flight = []) (i : ℕ) :
    ring.complete i = ring := by
  unfold ReadRing.complete
  rw [h]
  rfl

theorem Started.complete {r : Read} {ring : ReadRing} (h : Started r ring) (i : ℕ) :
    Started r (ring.complete i) := by
  rcases h.state with ⟨hflight, hdone⟩ | ⟨hflight, hdone⟩
  · unfold ReadRing.complete
    rw [hflight]
    cases i with
    | zero => exact ⟨h.prepared, h.latest, Or.inr ⟨rfl, by rw [hdone]; rfl⟩⟩
    | succ i => exact h
  · rw [complete_of_none hflight]
    exact h

theorem Landed.complete {r : Read} {ring : ReadRing} (h : Landed r ring) (i : ℕ) :
    Landed r (ring.complete i) := by
  rw [complete_of_none h.in_flight]
  exact h

/-- The submitted read is the only one. -/
theorem ends_start_read {t : Thread α} (h : Idle t.ring) (offset : ℕ) :
    Ends ((ioring_start_read offset .buffer_space).run t)
      (fun _ t' => (∃ r, Started r t'.ring) ∧ t'.copies = t.copies) fun _ => True := by
  unfold ioring_start_read
  refine Ends.bind (R := fun _ t' => (∃ r, t'.ring.prepared = [r] ∧ t'.ring.in_flight = [] ∧
    t'.ring.unconsumed = [] ∧ t'.ring.latest .buffer_space = some r) ∧ t'.copies = t.copies) ?_ ?_
  · refine (ends_prepare_read offset .buffer_space t).mono (fun _ t' ht' => ?_) fun _ he => he
    obtain ⟨r, hprepared, hflight, hdone, hlatest, hcopies⟩ := ht'
    refine ⟨⟨r, ?_, ?_, ?_, ?_⟩, hcopies⟩
    · rw [hprepared, h.prepared]
      rfl
    · rw [hflight, h.in_flight]
    · rw [hdone, h.unconsumed]
    · rw [hlatest, Function.update_self]
  · rintro _ t' ⟨⟨r, hprepared, hflight, hdone, hlatest⟩, hcopies⟩
    refine ⟨⟨r, rfl, hlatest, Or.inl ⟨?_, hdone⟩⟩, hcopies⟩
    show t'.ring.in_flight ++ t'.ring.prepared = [r]
    rw [hflight, hprepared]
    rfl

/-- The wait consumes the completion of the only read. -/
theorem ends_finish_read {r : Read} {t : Thread α} (h : Started r t.ring) :
    Ends ((ioring_finish_read : UProc α Unit).run t)
      (fun _ t' => Landed r t'.ring ∧ t'.copies = t.copies) fun _ => True := by
  unfold ioring_finish_read io_uring_wait_cqe
  refine Ends.get_bind (Ends.check_bind (fun _ => trivial) fun _ => ?_)
  refine Ends.bind (ends_kernel_turn (fun _ i hr => hr.complete i) h) fun turn t₁ ht₁ => ?_
  obtain ⟨hstarted, hcopies⟩ := ht₁
  -- a single completion is the one that is returned
  have hconsume : ∀ ring : ReadRing, ring.unconsumed = [r] →
      ring.unconsumed.eraseIdx (turn.returns % ring.unconsumed.length) = [] := by
    intro ring hring
    rw [hring, List.length_singleton, Nat.mod_one]
    rfl
  refine Ends.get_bind ?_
  rcases hstarted.state with ⟨hflight, hdone⟩ | ⟨hflight, hdone⟩
  · rw [if_pos hdone]
    refine Ends.get_bind (Ends.check_bind (fun _ => trivial) fun _ => ?_)
    have hindex : turn.returns % t₁.ring.in_flight.length = 0 := by
      rw [hflight, List.length_singleton, Nat.mod_one]
    have hring : t₁.ring.complete (turn.returns % t₁.ring.in_flight.length)
        = { t₁.ring with in_flight := [], unconsumed := [r] } := by
      rw [hindex]
      unfold ReadRing.complete
      rw [hflight, hdone]
      rfl
    refine ⟨⟨⟨?_, ?_, ?_⟩, ?_⟩, hcopies⟩
    · exact (congrArg ReadRing.prepared hring).trans hstarted.prepared
    · exact congrArg ReadRing.in_flight hring
    · exact hconsume (t₁.ring.complete _) (congrArg ReadRing.unconsumed hring)
    · exact (congrFun (congrArg ReadRing.latest hring) _).trans hstarted.latest
  · rw [if_neg (by rw [hdone]; exact List.cons_ne_nil _ _)]
    exact ⟨⟨⟨hstarted.prepared, hflight, hconsume t₁.ring hdone⟩, hstarted.latest⟩, hcopies⟩

/-- The ring is idle, and every copy so far was made from a buffer whose read had completed. -/
structure Settled (t : Thread α) : Prop where
  ring : Idle t.ring
  copied : ∀ c ∈ t.copies, c.completed = true

theorem Settled.served {t : Thread α} (h : Settled t) : Served t := ⟨h.copied, h.ring.unconsumed⟩

theorem ends_migrate_up_async_finish {r : Read} {t : Thread α} (h : Started r t.ring)
    (hcopied : ∀ c ∈ t.copies, c.completed = true) (page : PageId) (dram_offset : ℕ) :
    Ends ((core_migrate_up_async_finish page dram_offset).run t) (fun _ => Settled)
      fun _ => True := by
  unfold core_migrate_up_async_finish
  refine ends_on_pager_bind _ fun _ s₁ => ?_
  refine Ends.bind (ends_finish_read (t := { t with pager := s₁ }) h) ?_
  rintro _ t₂ ⟨hlanded, hcopies⟩
  refine Ends.bind (ends_copy_buffer (fun _ i hr => hr.complete i) page _ hlanded) ?_
  rintro ret t₃ ⟨hlanded, hcopy⟩
  have hcompleted : t₃.ring.Completed .buffer_space := by
    refine ⟨r, hlanded.latest, ?_, ?_⟩
    · rw [hlanded.prepared]
      exact List.not_mem_nil
    · rw [hlanded.in_flight]
      exact List.not_mem_nil
  refine ends_on_pager _ t₃ fun _ _ => ⟨hlanded.toIdle, fun c hc => ?_⟩
  rcases List.mem_cons.1 (hcopy ▸ hc) with rfl | hc
  · exact decide_eq_true hcompleted
  · exact hcopied c (hcopies ▸ hc)

/-- **The asynchronous swap-in** waits for its own read, and leaves nothing in the ring. -/
theorem ends_swapin_external_async {t : Thread α} (h : Settled t) (fuel : ℕ) (page : PageId) :
    Ends ((lrudisk_swapin_external_async fuel page).run t) (fun _ => Settled) fun _ => True := by
  unfold lrudisk_swapin_external_async core_migrate_up_async_start
  refine Ends.get_bind (ends_on_pager_bind _ fun _ s₁ => ?_)
  refine Ends.bind (R := fun _ t' => (∃ r, Started r t'.ring) ∧ t'.copies = t.copies) ?_ ?_
  · refine ends_on_pager_bind _ fun _ s₂ => Ends.get_bind ?_
    exact ends_start_read (t := { t with pager := s₂ }) h.ring _
  · rintro _ t₁ ⟨⟨r, hstarted⟩, hcopies⟩
    refine ends_on_pager_bind _ fun freepage s₃ => Ends.get_bind ?_
    refine Ends.bind (ends_migrate_up_async_finish (t := { t₁ with pager := s₃ }) hstarted ?_ page _)
      fun _ t₂ ht₂ => ?_
    · exact fun c hc => h.copied c (hcopies ▸ hc)
    · exact ends_on_pager _ t₂ fun _ _ => ⟨ht₂.ring, ht₂.copied⟩

/-! ## The sequential prefetch -/

/-- A read into the first slot is prepared. -/
def Queued (r : Read) (ring : ReadRing) : Prop :=
  r ∈ ring.prepared ∧ ring.latest (.prefetch_buffer 0) = some r

/-- The read was submitted and its completion was not consumed. -/
structure Pending (r : Read) (ring : ReadRing) : Prop where
  latest : ring.latest (.prefetch_buffer 0) = some r
  state : r ∈ ring.in_flight ∨ r ∈ ring.unconsumed

theorem Pending.complete {r : Read} {ring : ReadRing} (h : Pending r ring) (i : ℕ) :
    Pending r (ring.complete i) := by
  unfold ReadRing.complete
  rcases hi : ring.in_flight[i]? with _ | r'
  · exact h
  · refine ⟨h.latest, ?_⟩
    rcases h.state with hflight | hdone
    · by_cases hr : r = r'
      · exact Or.inr (List.mem_append_right _ (List.mem_singleton.2 hr))
      · -- another read left the queue
        obtain ⟨j, hj⟩ := List.mem_iff_getElem?.1 hflight
        refine Or.inl (List.mem_eraseIdx_iff_getElem?.2 ⟨j, fun hij => hr ?_, hj⟩)
        rw [hij, hi] at hj
        exact (Option.some.inj hj).symm
    · exact Or.inr (List.mem_append_left _ hdone)

/-- The later slots leave the first read where it is. -/
theorem ends_prefetch_read {r : Read} (jobs : List (PageId × PageId)) (i : ℕ) {t : Thread α}
    (h : Queued r t.ring) :
    Ends ((prefetch_read jobs (i + 1)).run t) (fun _ t' => Queued r t'.ring) fun _ => True := by
  induction jobs generalizing i t with
  | nil => exact h
  | cons job jobs ih =>
      unfold prefetch_read
      refine Ends.get_bind (Ends.bind (ends_prepare_read _ _ t) ?_)
      rintro _ t₁ ⟨r', hprepared, -, -, hlatest, -⟩
      refine ih (i + 1) ⟨?_, ?_⟩
      · rw [hprepared]
        exact List.mem_append_left _ h.1
      · rw [hlatest, Function.update_of_ne (by simp)]
        exact h.2

/-- A copy was made too early, or a completion was not consumed. -/
def Spoilt (t : Thread α) : Prop :=
  (∃ c ∈ t.copies, c.completed = false) ∨ ∃ r, r ∈ t.ring.unconsumed

theorem Spoilt.not_served {t : Thread α} (h : Spoilt t) : ¬ Served t := by
  intro hs
  rcases h with ⟨c, hc, hfalse⟩ | ⟨r, hr⟩
  · rw [hs.copied c hc] at hfalse
    cases hfalse
  · rw [hs.consumed] at hr
    cases hr

/-- A copy does not repair it: the code consumes no completion here. -/
theorem ends_copy_spoilt (page : PageId) (buffer : Target) {t : Thread α} (h : Spoilt t) :
    Ends ((copy_buffer page buffer).run t) (fun _ => Spoilt) fun _ => True := by
  rcases h with ⟨c, hc, hfalse⟩ | ⟨r, hr⟩
  · refine (ends_copy_buffer (I := fun _ => True) (fun _ _ h => h) page buffer trivial).mono
      (fun _ t' ht' => Or.inl ⟨c, ?_, hfalse⟩) fun _ he => he
    rw [ht'.2]
    exact List.mem_cons_of_mem _ hc
  · refine (ends_copy_buffer (I := fun ring => r ∈ ring.unconsumed) (fun ring i h => ?_) page buffer
      hr).mono (fun _ t' ht' => Or.inr ⟨r, ht'.1⟩) fun _ he => he
    unfold ReadRing.complete
    rcases ring.in_flight[i]? with _ | r'
    · exact h
    · exact List.mem_append_left _ h

/-- The first copy is too early, or its completion is still there. -/
theorem ends_copy_first {r : Read} (page : PageId) {t : Thread α} (h : Pending r t.ring) :
    Ends ((copy_buffer page (.prefetch_buffer 0)).run t) (fun _ => Spoilt) fun _ => True := by
  refine (ends_copy_buffer (fun _ i hr => hr.complete i) page _ h).mono ?_ fun _ he => he
  rintro _ t' ⟨hpending, hcopies⟩
  rcases hpending.state with hflight | hdone
  · refine Or.inl ⟨_, hcopies ▸ List.mem_cons_self, decide_eq_false ?_⟩
    rintro ⟨r', hr', -, hnot⟩
    rw [hpending.latest] at hr'
    cases hr'
    exact hnot hflight
  · exact Or.inr ⟨r, hdone⟩

theorem ends_prefetch_finish (jobs : List (PageId × PageId)) (finished_jobs : ℕ) {t : Thread α}
    (h : Spoilt t) :
    Ends ((prefetch_finish jobs finished_jobs).run t) (fun _ => Spoilt) fun _ => True := by
  induction jobs generalizing finished_jobs t with
  | nil => exact h
  | cons job jobs ih =>
      unfold prefetch_finish
      refine Ends.bind (ends_copy_spoilt _ _ h) fun _ t₁ ht₁ => ?_
      exact ends_on_pager_bind _ fun _ s => ih (finished_jobs + 1) (t := { t₁ with pager := s }) ht₁

/-- **A prefetch of at least one page** goes wrong whatever the kernel does. -/
theorem ends_try_prefetch_some {t : Thread α} {fuel base_boundry : ℕ} {job : PageId × PageId}
    {jobs : List (PageId × PageId)} {s : State α}
    (hclaim : (prefetch_claim fuel base_boundry).run t.pager = .ok (job :: jobs, s)) :
    Ends ((core_try_prefetch fuel base_boundry).run t) (fun _ => Spoilt) fun _ => True := by
  unfold core_try_prefetch
  rw [run_bind_ok (run_on_pager hclaim)]
  refine Ends.bind (R := fun _ t' => ∃ r, Queued r t'.ring) ?_ ?_
  · unfold prefetch_read
    refine Ends.get_bind (Ends.bind (ends_prepare_read _ _ _) ?_)
    rintro _ t₁ ⟨r, hprepared, -, -, hlatest, -⟩
    refine (ends_prefetch_read (r := r) jobs 0 ⟨?_, ?_⟩).mono (fun _ _ hq => ⟨r, hq⟩) fun _ he => he
    · rw [hprepared]
      exact List.mem_append_right _ List.mem_cons_self
    · rw [hlatest, Function.update_self]
  · rintro _ t₂ ⟨r, hprepared, hlatest⟩
    rw [if_pos (List.cons_ne_nil _ _)]
    refine Ends.bind (Ends.ok (Q := fun _ t₃ => Pending r t₃.ring) ?_) fun _ t₃ ht₃ => ?_
    · exact ⟨hlatest, Or.inl (List.mem_append_right _ hprepared)⟩
    · unfold prefetch_finish
      refine Ends.bind (ends_copy_first _ ht₃) fun _ t₄ ht₄ => ?_
      exact ends_on_pager_bind _ fun _ s => ends_prefetch_finish jobs _ (t := { t₄ with pager := s })
        ht₄

/-- A prefetch that finds no page does not touch the ring. -/
theorem ends_try_prefetch_none {t : Thread α} (h : Settled t) {fuel base_boundry : ℕ}
    (hclaim : (Op.try_prefetch fuel base_boundry).claimed t = []) :
    Ends ((core_try_prefetch fuel base_boundry).run t) (fun _ => Settled) fun _ => True := by
  unfold core_try_prefetch
  simp only [Op.claimed] at hclaim
  rcases hrun : (prefetch_claim fuel base_boundry).run t.pager with e | ⟨jobs, s⟩
  · rw [run_bind_error (run_on_pager_error hrun)]
    trivial
  · rw [hrun] at hclaim
    cases hclaim
    rw [run_bind_ok (run_on_pager hrun)]
    exact ⟨h.ring, h.copied⟩

/-! ## Runs -/

/-- An operation that returns. -/
theorem step_of_returns {op : Op α} {t : Thread α} (h : op.Returns t) {Q : Thread α → Prop}
    (hends : Ends (op.exec.run t) (fun _ => Q) fun _ => True) : Q (step op t) := by
  obtain ⟨hstop, hret⟩ := h
  unfold step
  rw [if_neg (by rw [hstop]; decide)]
  rcases hr : op.exec.run t with e | ⟨u, t'⟩
  · exact (hret.of_error hr).elim
  · exact hends.of_ok hr

/-- One that does not leaves the ring as it found it, for nobody to use. -/
theorem step_of_not_returns {op : Op α} {t : Thread α} (h : ¬ op.Returns t) :
    step op t = t ∨ step op t = { t with stopped := true } := by
  unfold step
  rcases hstop : t.stopped
  · rcases hr : op.exec.run t with e | ⟨u, t'⟩
    · exact Or.inr rfl
    · exact absurd ⟨hstop, by rw [hr]; trivial⟩ h
  · exact Or.inl rfl

/-- An operation that claims no page keeps the ring idle. -/
theorem Settled.exec {t : Thread α} (h : Settled t) (op : Op α) (hclaim : op.claimed t = []) :
    Ends (op.exec.run t) (fun _ => Settled) fun _ => True := by
  cases op with
  | swapin fuel page => exact ends_swapin_external_async h fuel page
  | try_prefetch fuel base_boundry =>
      exact Ends.bind (ends_try_prefetch_none h hclaim) fun _ _ ht => ht
  | kernel =>
      refine Ends.bind (ends_kernel_turn (I := Idle) (fun ring i hi => ?_) h.ring) fun _ t' ht' => ?_
      · rw [complete_of_none hi.in_flight]
        exact hi
      · exact ⟨ht'.1, fun c hc => h.copied c (ht'.2 ▸ hc)⟩
  | pager s => exact ⟨h.ring, h.copied⟩

theorem Settled.step {t : Thread α} (h : Settled t) {op : Op α}
    (hclaim : op.Returns t → op.claimed t = []) : Settled (step op t) := by
  by_cases hret : op.Returns t
  · exact step_of_returns hret (h.exec op (hclaim hret))
  · rcases step_of_not_returns hret with hstep | hstep
    · rw [hstep]
      exact h
    · rw [hstep]
      exact ⟨h.ring, h.copied⟩

/-- An operation that claims a page and returns spoils the thread. -/
theorem spoilt_of_claimed {t : Thread α} {op : Op α} (hret : op.Returns t)
    (hclaim : op.claimed t ≠ []) : Spoilt (step op t) := by
  cases op with
  | try_prefetch fuel base_boundry =>
      simp only [Op.claimed] at hclaim
      rcases hr : (prefetch_claim fuel base_boundry).run t.pager with e | ⟨jobs, s⟩
      · rw [hr] at hclaim
        exact absurd rfl hclaim
      · rw [hr] at hclaim
        cases jobs with
        | nil => exact absurd rfl hclaim
        | cons job jobs =>
            exact step_of_returns hret (Ends.bind (ends_try_prefetch_some hr) fun _ _ ht => ht)
  | swapin fuel page => exact absurd rfl hclaim
  | kernel => exact absurd rfl hclaim
  | pager s => exact absurd rfl hclaim

/-- One page that was evicted with the content `7`, and a free frame. -/
def oneEvicted : State ℕ where
  pol :=
    { dramsize := 4096, disksize := 8192, npages := 2
      page := fun i =>
        if i = 0 then { va := 8192, swapped_out := true, list := some .disk_active_list }
        else { in_dram := true, list := some .dram_free_list }
      lists := fun
        | .disk_active_list => [0]
        | .dram_free_list => [1]
        | _ => []
      pages := fun va => if va = 8192 then some 0 else none }
  mem :=
    { page_cache := 0, buffer_space := 0, prefetch_buffer := fun _ => 0
      store := fun off => if off = 0 then some 7 else none }

/-- What it maps is not the content of the page, and the completion of the prefetch is what a later
swap-in would wait for. -/
example :
    let t := Guarded.exec step [.try_prefetch 1 4096, .kernel]
      (start oneEvicted [{}, { completes := [0] }])
    (t.pager.mem.pte 8192).map Pte.data = some 0 ∧ t.ring.unconsumed.length = 1 := by decide +kernel

end Uring

end SwapPrefetch
