/-
The buffers of the pointer prefetcher over whole runs.

`Buffers` puts the prefetcher together with the allocator of its buffers: a successful allocation
is one of `rdma_sim_allocate`, and every `rdma_sim_free` of a call is played on the same block list.
Between the calls the pager may do anything to its pages.

`Owned` holds in every run: one record for an address, and the buffers in the records are allocated
and all different. Two things go wrong on top of it, each in exactly one way. A record that looks
available has no buffer, exactly after a hit, which releases the buffer and leaves the status as it
is. A buffer is lost exactly if the record of a failed prefetch is used again, or is still there
when the prefetcher is cleaned up: both overwrite or drop the address without releasing it.
-/
import Mathlib.Tactic
import SwapPrefetch.PrefetchRecords
import SwapPrefetch.RdmaRestore

set_option autoImplicit false

namespace SwapPrefetch

open Prog

variable {α β : Type}

/-! ## Runs -/

/-- A property of the content of an option can be tested. -/
def decidableOfOption {γ : Type} {p : γ → Prop} [DecidablePred p] :
    (o : Option γ) → Decidable (∀ x, o = some x → p x)
  | none => isTrue nofun
  | some x => decidable_of_iff (p x) ⟨fun h _ hy => Option.some.inj hy ▸ h, fun h => h x rfl⟩

instance (w : World α) (target_va : ℕ) : Decidable (w.Asks target_va) :=
  have := decidableOfOption (p := fun p =>
    ¬ ((w.pager.pol.page p).swapped_out = false ∧ (w.pager.pol.page p).in_dram = true) ∧
      (w.pager.pol.page p).migrating = false) (w.pager.pol.pages target_va)
  have := decidableOfOption (p := fun r : PrefetchRecord => ¬ r.Available) (w.record target_va)
  inferInstanceAs (Decidable (_ ∧ _))

/-- The prefetcher and the allocator of its buffers. -/
structure Buffers (α : Type) where
  world : World α
  memory : RemoteMemory := {}
  /-- ghost: the addresses that `async_prefetch_page` got from `rdma_sim_allocate`, newest first -/
  taken : List ℕ := []

namespace Buffers

/-- A call of the prefetcher, or a step of the pager. -/
inductive Call (α : Type) where
  /-- `fails` says that the allocation fails whatever is free, `split` that the node of a rest can
  be allocated -/
  | async_prefetch_page (o : Channel) (fails split : Bool) (target_va source_va : ℕ)
  | handle_page_fault (o : Channel) (page : PageId)
  | cleanup_old (current_time : ℕ)
  /-- pages are faulted in, written, evicted, mapped or unmapped -/
  | pager (s : State α)

/-- The state after a routine; none of the prefetcher's routines stops. -/
def after (m : WProc α β) (w : World α) : World α :=
  match m.run w with
  | .ok (_, w') => w'
  | .error _ => w

/-- The allocator after the releases that a routine made, the oldest first. -/
def released (w w' : World α) (memory : RemoteMemory) : RemoteMemory :=
  (w'.prefetcher.freed.take (w'.prefetcher.freed.length - w.prefetcher.freed.length)).foldr
    (fun a m => (m.free a).2) memory

/-- The answer of `rdma_sim_allocate` in `async_prefetch_page`, if the call gets that far. -/
def allocation (fails split : Bool) (target_va : ℕ) (d : Buffers α) : Option ℕ × RemoteMemory :=
  if d.world.Asks target_va ∧ fails = false then
    match d.memory.allocate PAGE_SIZE split with
    | (.ok a, memory) => (some a, memory)
    | (.error _, memory) => (none, memory)
  else (none, d.memory)

/-- What a call does to the state. -/
def step : Call α → Buffers α → Buffers α
  | .async_prefetch_page o fails split target_va source_va, d =>
      let (a, memory) := d.allocation fails split target_va
      let world := after (SwapPrefetch.async_prefetch_page { o with allocate := a } target_va source_va)
        d.world
      { world := world, memory := released d.world world memory, taken := a.toList ++ d.taken }
  | .handle_page_fault o page, d =>
      let world := after (handle_page_fault_with_prefetch o page) d.world
      { d with world := world, memory := released d.world world d.memory }
  | .cleanup_old current_time, d =>
      let world := after (cleanup_old_prefetch_records current_time) d.world
      { d with world := world, memory := released d.world world d.memory }
  | .pager s, d => { d with world := { d.world with pager := s } }

/-- The state after `pointer_prefetch_cleanup`. -/
def finish (d : Buffers α) : Buffers α :=
  let world := after pointer_prefetch_cleanup d.world
  { d with world := world, memory := released d.world world d.memory }

/-- The prefetcher without records, over some pager and some remote memory. -/
def start (pager : State α) (remote : ℕ → α) : Buffers α :=
  { world := { pager := pager, prefetcher := { remote := remote } } }

/-- The records. -/
def records (d : Buffers α) : List PrefetchRecord := d.world.prefetcher.records

/-- The releases so far, newest first. -/
def freed (d : Buffers α) : List ℕ := d.world.prefetcher.freed

/-- There is one record for an address, and every record that looks available has a buffer, which
is an allocated block and no other record's. -/
structure Consistent (d : Buffers α) : Prop where
  one : (d.records.map PrefetchRecord.target_va).Nodup
  block : ∀ r ∈ d.records, r.Available → ∃ b ∈ live d.memory.blocks, b.addr = r.remote_addr
  own : ∀ r ∈ d.records, r.Available → ∀ r' ∈ d.records, r' ≠ r → r'.remote_addr ≠ r.remote_addr

/-- Each block that was taken was released once or is the buffer of one record. -/
structure Balanced (d : Buffers α) : Prop where
  books : d.taken.Perm (d.freed ++ buffers d.records)
  single : (buffers d.records).Nodup

end Buffers

/-! ## Owners of buffers -/

section Owned

variable {rs rs' : List PrefetchRecord} {memory memory' : RemoteMemory} {old : Option PrefetchRecord}
  {new : PrefetchRecord} {a : ℕ}

theorem buffers_toList_none : buffers (none : Option PrefetchRecord).toList = [] := rfl

theorem buffers_singleton_zero (h : new.remote_addr = 0) : buffers [new] = [] :=
  buffers_cons_zero [] h

theorem buffers_singleton_ne (h : new.remote_addr ≠ 0) : buffers [new] = [new.remote_addr] :=
  buffers_cons_ne [] h

/-- The books of a call that writes one record: it had `before` and has `now`. -/
theorem books_of_written {freed got lost before now others rsOld rsNew : List ℕ}
    (released : List ℕ) (hold : rsOld.Perm (before ++ others)) (hnew : rsNew.Perm (now ++ others))
    (hbalance : (released ++ now ++ lost).Perm (got ++ before)) :
    (released ++ freed ++ rsNew ++ lost).Perm (got ++ (freed ++ rsOld)) := by
  refine List.perm_iff_count.2 fun x => ?_
  have hx := hold.count_eq x
  have hy := hnew.count_eq x
  have hz := hbalance.count_eq x
  simp only [List.count_append] at hx hy hz ⊢
  omega

/-- What a written record does to the buffers. -/
theorem Writes.buffers (h : Writes rs rs' old new) :
    ∃ others, (buffers rs).Perm (buffers old.toList ++ others) ∧
      (buffers rs').Perm (SwapPrefetch.buffers [new] ++ others) := by
  obtain ⟨l, rest, rfl, rfl⟩ := h.split
  refine ⟨SwapPrefetch.buffers l ++ SwapPrefetch.buffers rest, ?_, ?_⟩
  · rw [buffers_append, buffers_append]
    exact (List.perm_append_comm.append_right _).trans (by rw [List.append_assoc])
  · rw [buffers_append, ← List.singleton_append, buffers_append, ← List.append_assoc]
    exact (List.perm_append_comm.append_right _).trans (by rw [List.append_assoc])

theorem Writes.targets (h : Writes rs rs' old new)
    (hrs : (rs.map PrefetchRecord.target_va).Nodup) :
    (rs'.map PrefetchRecord.target_va).Nodup := by
  obtain ⟨l, rest, rfl, rfl⟩ := h.split
  cases old with
  | none =>
      rw [Option.toList_none, List.append_nil] at hrs
      rw [List.map_append, List.map_cons, List.nodup_middle, List.nodup_cons, ← List.map_append]
      refine ⟨fun hmem => ?_, hrs⟩
      obtain ⟨r, hr, hta⟩ := List.mem_map.1 hmem
      exact h.fresh rfl r (by simpa using hr) hta
  | some r =>
      rw [Option.toList_some, List.append_assoc, List.singleton_append, List.map_append,
        List.map_cons, h.target r rfl] at hrs
      rw [List.map_append, List.map_cons]
      exact hrs

/-- There is one record for an address, and the buffers in the records are allocated blocks, all of
them different. -/
structure Owned (rs : List PrefetchRecord) (memory : RemoteMemory) : Prop where
  counted : memory.Counted
  targets : (rs.map PrefetchRecord.target_va).Nodup
  distinct : (buffers rs).Nodup
  allocated : ∀ a ∈ buffers rs, a ∈ (live memory.blocks).map MemBlock.addr

theorem owned_start : Owned [] {} :=
  ⟨RemoteMemory.counted_start, List.nodup_nil, List.nodup_nil, nofun⟩

/-- A new block is no record's buffer. -/
theorem Owned.allocate (h : Owned rs memory) {split : Bool}
    (ha : memory.allocate PAGE_SIZE split = (.ok a, memory')) :
    Owned rs memory' ∧ a ≠ 0 ∧ a ∉ buffers rs ∧ a ∈ (live memory'.blocks).map MemBlock.addr := by
  have hfits : (PAGE_SIZE + 4095) / 4096 * 4096 ≤ 2 ^ 64 - 1 := by decide
  have hcounted : (memory.allocate PAGE_SIZE split).2.Counted := h.counted.allocate hfits
  rw [ha] at hcounted
  unfold RemoteMemory.allocate at ha
  rcases hal : rdma_sim_allocate split PAGE_SIZE memory.blocks with e | ⟨addr, blocks'⟩
  · rw [hal] at ha
    cases ha
  · rw [hal] at ha
    cases ha
    obtain ⟨hlive, hother⟩ := h.counted.blocks.allocated hfits hal
    have hbase := (hcounted.blocks.sound _ (mem_live.1 hlive).1).inRemote.1
    refine ⟨⟨hcounted, h.targets, h.distinct, fun b hb => ?_⟩, ?_, fun hmem => ?_,
      List.mem_map_of_mem hlive⟩
    · obtain ⟨x, hx, rfl⟩ := List.mem_map.1 (h.allocated b hb)
      exact List.mem_map_of_mem (hother x hx).1
    · simp only [SIM_REMOTE_MEMORY_BASE] at hbase
      omega
    · obtain ⟨x, hx, hxa⟩ := List.mem_map.1 (h.allocated a hmem)
      exact (hother x hx).2 hxa

/-- Releasing a block that is no record's buffer. -/
theorem Owned.free (h : Owned rs memory) (ha : a ∉ buffers rs) : Owned rs (memory.free a).2 := by
  refine ⟨h.counted.free a, h.targets, h.distinct, fun b hb => ?_⟩
  have hin := h.allocated b hb
  unfold RemoteMemory.free
  rcases hf : rdma_sim_free a memory.blocks with e | blocks'
  · exact hin
  · obtain ⟨l, x, r, hold, hnew, hxa, -⟩ := rdma_sim_free_live hf
    have hne : b ≠ a := fun he => ha (he ▸ hb)
    rw [hold, List.map_append, List.map_cons, hxa] at hin
    show b ∈ (live blocks').map MemBlock.addr
    rw [hnew, List.map_append]
    simpa [hne] using hin

theorem Owned.foldr_free (h : Owned rs memory) {fs : List ℕ} (hfs : ∀ a ∈ fs, a ∉ buffers rs) :
    Owned rs (fs.foldr (fun a m => (m.free a).2) memory) := by
  induction fs with
  | nil => exact h
  | cons a fs ih =>
      obtain ⟨ha, hfs⟩ := List.forall_mem_cons.1 hfs
      exact (ih hfs).free ha

/-- Writing a record that has no buffer, a new one, or the one it had. -/
theorem Owned.write (h : Owned rs memory) (hw : Writes rs rs' old new)
    (hnew : new.remote_addr = 0 ∨
      new.remote_addr ∉ buffers rs ∧ new.remote_addr ∈ (live memory.blocks).map MemBlock.addr ∨
      ∃ r, old = some r ∧ new.remote_addr = r.remote_addr) : Owned rs' memory := by
  obtain ⟨others, hbefore, hafter⟩ := hw.buffers
  have hnodup := hbefore.nodup_iff.1 h.distinct
  have hothers : ∀ b ∈ others, b ∈ buffers rs := fun b hb =>
    hbefore.mem_iff.2 (List.mem_append_right _ hb)
  suffices hgoal : (buffers [new] ++ others).Nodup ∧
      ∀ b ∈ buffers [new] ++ others, b ∈ (live memory.blocks).map MemBlock.addr from
    ⟨h.counted, hw.targets h.targets, hafter.nodup_iff.2 hgoal.1,
      fun b hb => hgoal.2 b (hafter.mem_iff.1 hb)⟩
  rcases hnew with hzero | ⟨hfresh, hlive⟩ | ⟨r, rfl, hsame⟩
  · rw [buffers_singleton_zero hzero]
    exact ⟨(List.nodup_append.1 hnodup).2.1, fun b hb => h.allocated b (hothers b hb)⟩
  · by_cases hzero : new.remote_addr = 0
    · rw [buffers_singleton_zero hzero]
      exact ⟨(List.nodup_append.1 hnodup).2.1, fun b hb => h.allocated b (hothers b hb)⟩
    · rw [buffers_singleton_ne hzero]
      refine ⟨List.nodup_cons.2 ⟨fun hmem => hfresh (hothers _ hmem),
        (List.nodup_append.1 hnodup).2.1⟩, fun b hb => ?_⟩
      rcases List.mem_cons.1 hb with rfl | hb
      · exact hlive
      · exact h.allocated b (hothers b hb)
  · have heq : buffers [new] = buffers [r] := by
      simp only [buffers, List.map_cons, hsame]
    rw [heq]
    exact ⟨hnodup, fun b hb => h.allocated b (hbefore.mem_iff.2 hb)⟩

/-- Every record that looks available has a buffer. -/
def Filled (rs : List PrefetchRecord) : Prop := ∀ r ∈ rs, r.Available → r.remote_addr ≠ 0

theorem Writes.filled (h : Writes rs rs' old new) (hrs : Filled rs) :
    Filled rs' ↔ (new.Available → new.remote_addr ≠ 0) := by
  obtain ⟨l, rest, rfl, rfl⟩ := h.split
  refine ⟨fun hrs' => hrs' new (List.mem_append_right _ List.mem_cons_self), fun hnew r hr => ?_⟩
  rcases List.mem_append.1 hr with hl | hr
  · exact hrs r (List.mem_append_left _ (List.mem_append_left _ hl))
  · rcases List.mem_cons.1 hr with rfl | hrest
    · exact hnew
    · exact hrs r (List.mem_append_right _ hrest)

theorem not_available_of_failed {r : PrefetchRecord} (h : r.status = .FAILED) : ¬ r.Available := by
  rintro (hs | hs)
  · rw [h] at hs
    cases hs
  · rw [h] at hs
    cases hs

end Owned

/-! ## One call -/

namespace Buffers

variable {d : Buffers α}

/-- The block that a call takes. -/
def got (d : Buffers α) : Call α → List ℕ
  | .async_prefetch_page _ fails split target_va _ => (d.allocation fails split target_va).1.toList
  | _ => []

/-- The buffer that a call overwrites: the record already had one when it got another. -/
def lost (d : Buffers α) : Call α → List ℕ
  | .async_prefetch_page _ fails split target_va _ =>
      if (d.allocation fails split target_va).1 = none then []
      else buffers (d.world.record target_va).toList
  | _ => []

/-- The call is a fault that is served from the cache. -/
def Serves (d : Buffers α) : Call α → Prop
  | .handle_page_fault o page =>
      Ends ((handle_page_fault_with_prefetch o page).run d.world) (fun ret _ => ret = 0)
        fun _ => False
  | _ => False

instance (d : Buffers α) (c : Call α) : Decidable (d.Serves c) :=
  match c with
  | .handle_page_fault o page =>
      inferInstanceAs (Decidable (Ends ((handle_page_fault_with_prefetch o page).run d.world)
        (fun ret _ => ret = 0) fun _ => False))
  | .async_prefetch_page .. | .cleanup_old _ | .pager _ => isFalse id

theorem after_eq {m : WProc α β} {w w' : World α} {b : β} (h : m.run w = .ok (b, w')) :
    after m w = w' := by
  rw [after, h]

theorem released_eq {w w' : World α} (fs : List ℕ)
    (h : w'.prefetcher.freed = fs ++ w.prefetcher.freed) (memory : RemoteMemory) :
    released w w' memory = fs.foldr (fun a m => (m.free a).2) memory := by
  rw [released, h, List.length_append, Nat.add_sub_cancel, List.take_left]

/-- What a call does: it takes `got`, overwrites `lost`, and everything else it takes or has is
released or in a record afterwards. `bare` says that it leaves a record that looks available
without a buffer. -/
structure Effect (d d' : Buffers α) (got lost : List ℕ) (bare : Prop) : Prop where
  owned : Owned d'.records d'.memory
  taken : d'.taken = got ++ d.taken
  books : (d'.freed ++ buffers d'.records ++ lost).Perm (got ++ (d.freed ++ buffers d.records))
  filled : Filled d.records → (Filled d'.records ↔ ¬ bare)

theorem effect_same {d' : Buffers α} (h : Owned d'.records d'.memory)
    (hrecords : d'.records = d.records) (hfreed : d'.freed = d.freed) (htaken : d'.taken = d.taken) :
    Effect d d' [] [] False := by
  refine ⟨h, htaken, ?_, fun hf => ?_⟩
  · rw [hrecords, hfreed, List.append_nil]
    exact List.Perm.refl _
  · rw [hrecords]
    exact iff_of_true hf id

/-- The answer of the allocator. -/
theorem allocation_cases (d : Buffers α) (fails split : Bool) (target_va : ℕ) :
    d.allocation fails split target_va = (none, d.memory) ∨
      ∃ a memory, d.allocation fails split target_va = (some a, memory) ∧ d.world.Asks target_va ∧
        d.memory.allocate PAGE_SIZE split = (.ok a, memory) := by
  unfold allocation
  by_cases hasks : d.world.Asks target_va ∧ fails = false
  · rw [if_pos hasks]
    rcases ha : d.memory.allocate PAGE_SIZE split with ⟨e | a, memory⟩
    · left
      have hsame : memory = d.memory := by
        unfold RemoteMemory.allocate at ha
        split at ha
        · cases ha
        · cases ha
          rfl
      rw [hsame]
    · exact Or.inr ⟨a, memory, rfl, hasks.1, rfl⟩
  · rw [if_neg hasks]
    exact Or.inl rfl

/-- **Prefetching a page.** -/
theorem effect_async (h : Owned d.records d.memory) (o : Channel) (fails split : Bool)
    (target_va source_va : ℕ) :
    Effect d (step (.async_prefetch_page o fails split target_va source_va) d)
      (d.got (.async_prefetch_page o fails split target_va source_va))
      (d.lost (.async_prefetch_page o fails split target_va source_va)) False := by
  rcases d.allocation_cases fails split target_va with hal | ⟨a, memory, hal, hasks, ha⟩
  · -- no block is taken
    simp only [step, got, lost, hal, if_true, Option.toList_none]
    rcases async_prefetch_page_cases { o with allocate := none } target_va source_va d.world with
      ⟨-, hrun⟩ | ⟨-, ret, w', hrun, hpre⟩
    · rw [after_eq hrun, released_eq [] rfl]
      exact effect_same h rfl rfl rfl
    · cases hpre with
      | no_buffer hrecords hfreed =>
          rw [after_eq hrun, released_eq [] hfreed]
          refine effect_same ?_ hrecords hfreed rfl
          show Owned w'.prefetcher.records d.memory
          rw [hrecords]
          exact h
  · -- a block `a` is taken, and the exits differ in what becomes of it
    simp only [step, got, lost, hal, Option.toList_some]
    rw [if_neg nofun]
    obtain ⟨howned, hzero, hfresh, hlive⟩ := h.allocate ha
    rcases async_prefetch_page_cases { o with allocate := some a } target_va source_va d.world with
      ⟨hno, -⟩ | ⟨-, ret, w', hrun, hpre⟩
    · exact absurd hasks hno
    · rw [after_eq hrun]
      cases hpre with
      | no_record hrec hrecords hfreed =>
          rw [released_eq [a] hfreed, hrec]
          refine ⟨?_, rfl, ?_, fun hf => ?_⟩
          · show Owned w'.prefetcher.records _
            rw [hrecords]
            exact howned.free hfresh
          · simp only [freed, records, hfreed, hrecords, buffers_toList_none, List.append_nil]
            exact List.Perm.refl _
          · simp only [records, hrecords]
            exact iff_of_true hf id
      | kept new hw haddr hfreed =>
          rw [released_eq [] hfreed]
          obtain ⟨others, hbefore, hafter⟩ := hw.buffers
          rw [buffers_singleton_ne (haddr ▸ hzero), haddr] at hafter
          refine ⟨howned.write hw (Or.inr (Or.inl (haddr ▸ ⟨hfresh, hlive⟩))), rfl, ?_, fun hf => ?_⟩
          · simp only [freed, records, hfreed]
            exact books_of_written [] hbefore hafter (List.Perm.refl _)
          · exact (hw.filled hf).trans (iff_of_true (fun _ => haddr ▸ hzero) id)
      | refused new hw haddr hstatus hfreed =>
          rw [released_eq [a] hfreed]
          obtain ⟨others, hbefore, hafter⟩ := hw.buffers
          rw [buffers_singleton_zero haddr] at hafter
          have hrs' := howned.write hw (Or.inl haddr)
          refine ⟨hrs'.free fun hmem => ?_, rfl, ?_, fun hf => ?_⟩
          · exact hfresh (hbefore.mem_iff.2 (List.mem_append_right _ (hafter.mem_iff.1 hmem)))
          · simp only [freed, records, hfreed]
            exact books_of_written [a] hbefore hafter (List.Perm.refl _)
          · exact (hw.filled hf).trans
              (iff_of_true (fun havail => absurd havail (not_available_of_failed hstatus)) id)

/-- A copy that was retrieved: the buffer is released, and the record has none. -/
theorem effect_retrieved (h : Owned d.records d.memory) {w' : World α} {r new : PrefetchRecord}
    (hlive : r.Live) (hw : Writes d.world.prefetcher.records w'.prefetcher.records (some r) new)
    (haddr : new.remote_addr = 0)
    (hfreed : w'.prefetcher.freed = r.remote_addr :: d.world.prefetcher.freed) :
    Owned w'.prefetcher.records (released d.world w' d.memory) ∧
      (w'.prefetcher.freed ++ buffers w'.prefetcher.records ++ []).Perm
        ([] ++ (d.freed ++ buffers d.records)) := by
  have hne : r.remote_addr ≠ 0 := by
    have hbase := hlive.2
    simp only [SIM_REMOTE_MEMORY_BASE] at hbase
    omega
  obtain ⟨others, hbefore, hafter⟩ := hw.buffers
  rw [Option.toList_some, buffers_singleton_ne hne] at hbefore
  rw [buffers_singleton_zero haddr] at hafter
  rw [released_eq [r.remote_addr] hfreed]
  constructor
  · refine (h.write hw (Or.inl haddr)).free fun hmem => ?_
    have hnodup := hbefore.nodup_iff.1 h.distinct
    exact (List.nodup_cons.1 hnodup).1 (hafter.mem_iff.1 hmem)
  · rw [hfreed]
    exact books_of_written [r.remote_addr] hbefore hafter (List.Perm.refl _)

/-- **A fault.** -/
theorem effect_fault (h : Owned d.records d.memory) (o : Channel) (page : PageId) :
    Effect d (step (.handle_page_fault o page) d) [] [] (d.Serves (.handle_page_fault o page)) := by
  obtain ⟨ret, w', hrun, hlooked⟩ := handle_page_fault_cases o page d.world
  have hserves : d.Serves (.handle_page_fault o page) ↔ ret = 0 := by
    simp only [Serves, hrun]
    rfl
  simp only [step, after_eq hrun]
  rw [hserves]
  cases hlooked with
  | none hrecords hfreed =>
      rw [released_eq [] hfreed]
      have hsame : Effect d { d with world := w' } [] [] False :=
        effect_same (show Owned w'.prefetcher.records _ from hrecords ▸ h) hrecords hfreed rfl
      exact ⟨hsame.owned, hsame.taken, hsame.books,
        fun hf => (hsame.filled hf).trans (iff_of_true id (by decide))⟩
  | lost r new hrec hw haddr hstatus hfreed =>
      rw [released_eq [] hfreed]
      obtain ⟨others, hbefore, hafter⟩ := hw.buffers
      have hsame : buffers [new] = buffers (some r).toList := by
        simp only [buffers, Option.toList_some, List.map_cons, haddr]
      rw [hsame] at hafter
      refine ⟨h.write hw (Or.inr (Or.inr ⟨r, rfl, haddr⟩)), rfl, ?_, fun hf => ?_⟩
      · simp only [freed, records, hfreed]
        exact books_of_written [] hbefore hafter (by rw [List.append_nil])
      · exact (hw.filled hf).trans
          (iff_of_true (fun havail => absurd havail (not_available_of_failed hstatus)) (by decide))
  | refused r new hrec hlive hw haddr hstatus hfreed =>
      obtain ⟨howned, hbooks⟩ := effect_retrieved h hlive hw haddr hfreed
      refine ⟨howned, rfl, hbooks, fun hf => (hw.filled hf).trans (iff_of_true ?_ (by decide))⟩
      exact fun havail => absurd havail (not_available_of_failed hstatus)
  | hit r new hrec hlive hw haddr hstatus hfreed =>
      obtain ⟨howned, hbooks⟩ := effect_retrieved h hlive hw haddr hfreed
      refine ⟨howned, rfl, hbooks, fun hf => (hw.filled hf).trans (iff_of_false ?_ (by decide))⟩
      exact fun hfull => hfull (Or.inr hstatus) haddr

/-- The buffers of the records that pass a test, and of the others. -/
theorem buffers_filter_perm (rs : List PrefetchRecord) (p : PrefetchRecord → Bool) :
    (buffers rs).Perm (buffers (rs.filter p) ++ buffers (rs.filter fun r => !p r)) := by
  rw [← buffers_append]
  exact ((List.filter_append_perm p rs).symm.map _).filter _

/-- Some records are dropped and their buffers released. -/
theorem effect_dropped (h : Owned d.records d.memory) {w' : World α} (p : PrefetchRecord → Bool)
    (hrecords : w'.prefetcher.records = d.world.prefetcher.records.filter fun r => !p r)
    (hfreed : w'.prefetcher.freed
      = (buffers (d.world.prefetcher.records.filter p)).reverse ++ d.world.prefetcher.freed) :
    Effect d { d with world := w', memory := released d.world w' d.memory } [] [] False := by
  have hperm := buffers_filter_perm d.records p
  have hnodup := hperm.nodup_iff.1 h.distinct
  refine ⟨?_, rfl, ?_, fun hf => iff_of_true ?_ id⟩
  · show Owned w'.prefetcher.records (released d.world w' d.memory)
    rw [released_eq _ hfreed, hrecords]
    have hkept : Owned (d.records.filter fun r => !p r) d.memory :=
      ⟨h.counted, h.targets.sublist (List.filter_sublist.map _), (List.nodup_append.1 hnodup).2.1,
        fun a ha => h.allocated a (hperm.mem_iff.2 (List.mem_append_right _ ha))⟩
    refine hkept.foldr_free fun a ha hmem => ?_
    exact (List.nodup_append.1 hnodup).2.2 a (List.mem_reverse.1 ha) a hmem rfl
  · simp only [freed, records, hfreed, hrecords]
    have hkept : (buffers (d.world.prefetcher.records.filter fun r => !p r)).Perm
        ([] ++ buffers (d.world.prefetcher.records.filter fun r => !p r)) := List.Perm.refl _
    refine books_of_written _ hperm hkept ?_
    rw [List.append_nil, List.append_nil]
    exact List.reverse_perm _
  · simp only [records, hrecords]
    exact fun r hr => hf r (List.mem_filter.1 hr).1

/-- **Every call.** -/
theorem step_effect (h : Owned d.records d.memory) (c : Call α) :
    Effect d (step c d) (d.got c) (d.lost c) (d.Serves c) := by
  cases c with
  | async_prefetch_page o fails split target_va source_va =>
      exact effect_async h o fails split target_va source_va
  | handle_page_fault o page => exact effect_fault h o page
  | cleanup_old current_time =>
      obtain ⟨w', hrun, hrecords, hfreed⟩ := run_cleanup_old current_time d.world
      simp only [step, after_eq hrun]
      exact effect_dropped h _ hrecords hfreed
  | pager s => exact effect_same h rfl rfl rfl

/-! ## Records that look available -/

theorem consistent_iff_filled (h : Owned d.records d.memory) :
    d.Consistent ↔ Filled d.records := by
  constructor
  · intro hc r hr havail hzero
    obtain ⟨b, hb, haddr⟩ := hc.block r hr havail
    have hbase := (h.counted.blocks.sound b (mem_live.1 hb).1).inRemote.1
    simp only [SIM_REMOTE_MEMORY_BASE] at hbase
    omega
  · intro hf
    refine ⟨h.targets, fun r hr havail => ?_, fun r hr havail r' hr' hne haddr => hne ?_⟩
    · exact List.mem_map.1 (h.allocated _ (mem_buffers.2 ⟨hf r hr havail, r, hr, rfl⟩))
    · have hzero := hf r hr havail
      have hdistinct := h.distinct
      rw [buffers, List.filter_map] at hdistinct
      refine List.inj_on_of_nodup_map hdistinct ?_ ?_ haddr
      · exact List.mem_filter.2 ⟨hr', by simpa [haddr] using hzero⟩
      · exact List.mem_filter.2 ⟨hr, by simpa using hzero⟩

theorem balanced_iff_books (h : Owned d.records d.memory) :
    d.Balanced ↔ d.taken.Perm (d.freed ++ buffers d.records) :=
  ⟨fun hb => hb.books, fun hb => ⟨hb, h.distinct⟩⟩

/-- The books stay balanced exactly if no buffer is overwritten. -/
theorem balanced_step_iff (h : Owned d.records d.memory) (hd : d.Balanced) (c : Call α) :
    (step c d).Balanced ↔ d.lost c = [] := by
  have heffect := step_effect h c
  rw [balanced_iff_books heffect.owned, heffect.taken]
  have hall : (d.got c ++ d.taken).Perm
      ((step c d).freed ++ buffers (step c d).records ++ d.lost c) :=
    (hd.books.append_left _).trans heffect.books.symm
  constructor
  · intro hb
    have hlen := (hb.symm.trans hall).length_eq
    simp only [List.length_append] at hlen
    exact List.length_eq_zero_iff.1 (by omega)
  · intro hlost
    rw [hlost, List.append_nil] at hall
    exact hall

/-- Balanced books are settled by the final cleanup exactly if only records that look available
have a buffer. -/
theorem finish_settles_iff (hd : d.Balanced) :
    ((finish d).records = [] ∧ (finish d).taken.Perm (finish d).freed) ↔
      ∀ r ∈ d.records, r.remote_addr ≠ 0 → r.Available := by
  obtain ⟨w', hrun, hrecords, hfreed⟩ := run_pointer_prefetch_cleanup d.world
  simp only [finish, after_eq hrun, records, freed, hrecords, hfreed, true_and]
  have hsplit := buffers_filter_perm d.records fun r => r.Available
  -- what the cleanup leaves out
  have hrest : buffers (d.records.filter fun r => !decide r.Available) = [] ↔
      ∀ r ∈ d.records, r.remote_addr ≠ 0 → r.Available := by
    rw [List.eq_nil_iff_forall_not_mem]
    constructor
    · intro hnone r hr hne
      by_contra havail
      exact hnone r.remote_addr
        (mem_buffers.2 ⟨hne, r, List.mem_filter.2 ⟨hr, by simpa using havail⟩, rfl⟩)
    · intro hall a ha
      obtain ⟨hne, r, hr, rfl⟩ := mem_buffers.1 ha
      obtain ⟨hr, havail⟩ := List.mem_filter.1 hr
      exact absurd (hall r hr hne) (by simpa using havail)
  refine Iff.trans ?_ hrest
  have hbooks := hd.books.trans (hsplit.append_left d.freed)
  constructor
  · intro hperm
    have hlen := (hbooks.symm.trans hperm).length_eq
    simp only [List.length_append, List.length_reverse, freed, records] at hlen
    exact List.length_eq_zero_iff.1 (by simp only [records]; omega)
  · intro hnil
    rw [hnil, List.append_nil] at hbooks
    exact hbooks.trans (List.perm_append_comm.trans ((List.reverse_perm _).symm.append_right _))

/-- **The books are balanced in all states, and all blocks are released in the end**, of exactly
the runs in which no call overwrites a buffer and only records that look available still have
one at the final cleanup. -/
theorem balanced_iff_none_lost (pager : State α) (remote : ℕ → α) (calls : List (Call α)) :
    ((∀ n, (Guarded.exec step (calls.take n) (start pager remote)).Balanced) ∧
      (finish (Guarded.exec step calls (start pager remote))).records = [] ∧
      (finish (Guarded.exec step calls (start pager remote))).taken.Perm
        (finish (Guarded.exec step calls (start pager remote))).freed) ↔
    Guarded.Meets step (fun d c => d.lost c = []) calls (start pager remote) ∧
      ∀ r ∈ (Guarded.exec step calls (start pager remote)).records, r.remote_addr ≠ 0 →
        r.Available := by
  have hstart : (start pager remote).Balanced := ⟨List.Perm.refl _, List.nodup_nil⟩
  have hall : (∀ n, (Guarded.exec step (calls.take n) (start pager remote)).Balanced) ↔
      Guarded.Meets step (fun d c => d.lost c = []) calls (start pager remote) :=
    Guarded.throughout_iff_meets (I := fun d : Buffers α => Owned d.records d.memory)
      (fun d c h => (step_effect h c).owned) (fun d c h hd => balanced_step_iff h hd c) owned_start
      hstart
  rw [← hall]
  refine and_congr_right fun hbalanced => finish_settles_iff ?_
  have hend := hbalanced calls.length
  rw [List.take_length] at hend
  exact hend

/-! ## Where they fail -/

/-- One page that was evicted with the content `7`. -/
def evictedPage : State ℕ where
  pol :=
    { dramsize := 4096, disksize := 8192, npages := 2
      page := fun i => if i = 0 then { va := 8192, swapped_out := true } else {}
      pages := fun va => if va = 8192 then some 0 else none }
  mem :=
    { page_cache := 0, buffer_space := 0, prefetch_buffer := fun _ => 0
      store := fun off => if off = 0 then some 7 else none }

/-- The first transfer of the page is refused, and the second call overwrites the buffer. -/
theorem not_balanced_retry :
    ¬ (Guarded.exec step [.async_prefetch_page { write_id := 0 } false true 8192 4096,
      .async_prefetch_page {} false true 8192 4096] (start evictedPage fun _ => 0)).Balanced := by
  intro h
  have hlen := h.books.length_eq
  revert hlen
  decide +kernel

/-- A refused transfer is also enough: the final cleanup passes over its record. -/
example :
    let d := finish (Guarded.exec step [.async_prefetch_page { write_id := 0 } false true 8192 4096]
      (start evictedPage fun _ => 0))
    d.taken = [SIM_REMOTE_MEMORY_BASE] ∧ d.freed = [] ∧ d.records = [] := by decide +kernel

end Buffers

end SwapPrefetch
