/-
A fault that is served from the prefetch cache, against a regular swap-in.

What `handle_page_fault_with_prefetch` can do is said once, in `consult_cases`: it misses and
leaves the pager's structs alone, or it maps the bytes of a live record. Either way the
record of the page is used up.

On a hit the routine sets three flags of the page and nothing else. The page keeps its disk
slot as its offset and stays on `disk_active_list`; no frame is taken for it, so it is
resident without owning memory that the policy knows of.
-/
import Mathlib.Tactic
import SwapPrefetch.PointerPrefetch
import SwapPrefetch.Runs

set_option autoImplicit false

namespace SwapPrefetch

open Prog

variable {α β : Type}

/-! ## Routines of the pager -/

theorem run_on_pager {m : Proc α β} {w : World α} {b : β} {s : State α}
    (h : m.run w.pager = .ok (b, s)) : (on_pager m).run w = .ok (b, { w with pager := s }) := by
  show (m.run w.pager).map _ = _
  rw [h]
  rfl

theorem run_on_pager_error {m : Proc α β} {w : World α} {e : Fault}
    (h : m.run w.pager = .error e) : (on_pager m).run w = .error e := by
  show (m.run w.pager).map _ = _
  rw [h]
  rfl

theorem on_pager_eq_ok {m : Proc α β} {w w' : World α} {b : β}
    (h : (on_pager m).run w = .ok (b, w')) :
    ∃ s, m.run w.pager = .ok (b, s) ∧ w' = { w with pager := s } := by
  rcases hm : m.run w.pager with e | ⟨b', s⟩
  · rw [run_on_pager_error hm] at h
    exact nomatch h
  · rw [run_on_pager hm] at h
    cases h
    exact ⟨s, rfl, rfl⟩

/-! ## Records -/

/-- The record that the routines use for an address. -/
def World.record (w : World α) (va : ℕ) : Option PrefetchRecord :=
  w.prefetcher.records.find? fun r => r.target_va = va

/-- The status that `handle_page_fault_with_prefetch` acts on. -/
def PrefetchRecord.Available (r : PrefetchRecord) : Prop :=
  r.status = .IN_PROGRESS ∨ r.status = .COMPLETED

/-- A record whose copy can still be mapped: it is available and has its buffer. -/
def PrefetchRecord.Live (r : PrefetchRecord) : Prop :=
  r.Available ∧ SIM_REMOTE_MEMORY_BASE ≤ r.remote_addr

instance (r : PrefetchRecord) : Decidable r.Available := inferInstanceAs (Decidable (_ ∨ _))

instance (r : PrefetchRecord) : Decidable r.Live := inferInstanceAs (Decidable (_ ∧ _))

section Records

variable {f : PrefetchRecord → PrefetchRecord} {va a : ℕ} {rs : List PrefetchRecord}

theorem find_update_record_self (hf : ∀ r, (f r).target_va = r.target_va) :
    (update_record va f rs).find? (fun r => r.target_va = va) =
      (rs.find? fun r => r.target_va = va).map f := by
  induction rs with
  | nil => rfl
  | cons r rest ih =>
      unfold update_record
      by_cases hr : r.target_va = va
      · rw [if_pos hr, List.find?_cons_of_pos (by simpa using (hf r).trans hr),
          List.find?_cons_of_pos (by simpa using hr), Option.map_some]
      · rw [if_neg hr, List.find?_cons_of_neg (by simpa using hr),
          List.find?_cons_of_neg (by simpa using hr), ih]

theorem find_update_record_ne (hf : ∀ r, (f r).target_va = r.target_va) (ha : a ≠ va) :
    (update_record va f rs).find? (fun r => r.target_va = a) =
      rs.find? fun r => r.target_va = a := by
  induction rs with
  | nil => rfl
  | cons r rest ih =>
      unfold update_record
      by_cases hr : r.target_va = va
      · have hra : ¬ r.target_va = a := fun h => ha (h.symm.trans hr)
        rw [if_pos hr, List.find?_cons_of_neg (by simpa [hf r] using hra),
          List.find?_cons_of_neg (by simpa using hra)]
      · rw [if_neg hr]
        by_cases hra : r.target_va = a
        · rw [List.find?_cons_of_pos (by simpa using hra),
            List.find?_cons_of_pos (by simpa using hra)]
        · rw [List.find?_cons_of_neg (by simpa using hra),
            List.find?_cons_of_neg (by simpa using hra), ih]

end Records

/-- The world after an assignment to the record for `va`. -/
def World.setRecord (w : World α) (va : ℕ) (f : PrefetchRecord → PrefetchRecord) : World α :=
  { w with prefetcher :=
      { w.prefetcher with records := update_record va f w.prefetcher.records } }

@[simp] theorem run_set_record (w : World α) (va : ℕ) (f : PrefetchRecord → PrefetchRecord) :
    (set_record va f).run w = .ok ((), w.setRecord va f) := rfl

@[simp] theorem run_find_prefetch_record (w : World α) (va : ℕ) :
    (find_prefetch_record va).run w = .ok (w.record va, w) := rfl

@[simp] theorem run_rdma_free (w : World α) (addr : ℕ) :
    (rdma_free addr).run w = .ok ((), { w with prefetcher :=
      { w.prefetcher with freed := addr :: w.prefetcher.freed } }) := rfl

theorem World.record_setRecord_self {w : World α} {va : ℕ} {f : PrefetchRecord → PrefetchRecord}
    (hf : ∀ r, (f r).target_va = r.target_va) : (w.setRecord va f).record va = (w.record va).map f :=
  find_update_record_self hf

theorem World.record_setRecord_ne {w : World α} {va a : ℕ} {f : PrefetchRecord → PrefetchRecord}
    (hf : ∀ r, (f r).target_va = r.target_va) (ha : a ≠ va) :
    (w.setRecord va f).record a = w.record a :=
  find_update_record_ne hf ha

/-! ## Looking into the cache -/

/-- The record for `va` was used up; the other records, the buffers and the hits are as they
were. -/
structure UsedUp (w w' : World α) (va : ℕ) : Prop where
  others : ∀ a, a ≠ va → w'.record a = w.record a
  dead : ∀ r, w'.record va = some r → ¬ r.Live
  remote : w'.prefetcher.remote = w.prefetcher.remote
  hits : w'.prefetcher.hits = w.prefetcher.hits

/-- The pager with the bytes of a prefetch buffer in the buffer of the thread. -/
def State.retrieved (s : State α) (d : α) : State α :=
  { s with mem := { s.mem with buffer_space := d } }

/-- The record once the wait for its write is over. -/
def Channel.settle (o : Channel) (r : PrefetchRecord) : PrefetchRecord :=
  if r.status = .IN_PROGRESS then
    { r with status := if o.write_done then .COMPLETED else .FAILED }
  else r

theorem Channel.settle_target (o : Channel) (r : PrefetchRecord) :
    (o.settle r).target_va = r.target_va := by
  unfold Channel.settle
  split
  · rfl
  · rfl

theorem Channel.settle_addr (o : Channel) (r : PrefetchRecord) :
    (o.settle r).remote_addr = r.remote_addr := by
  unfold Channel.settle
  split
  · rfl
  · rfl

theorem Channel.settle_status (o : Channel) {r : PrefetchRecord} (h : r.Available) :
    (o.settle r).status = .COMPLETED ∨ (o.settle r).status = .FAILED := by
  unfold Channel.settle
  rcases h with hprogress | hdone
  · rw [if_pos hprogress]
    by_cases hwrite : o.write_done = true
    · exact Or.inl (if_pos hwrite)
    · exact Or.inr (if_neg hwrite)
  · rw [if_neg (by rw [hdone]; decide)]
    exact Or.inl hdone

/-- A record that has failed, or has no buffer, has no copy to map. -/
theorem PrefetchRecord.not_live_of_failed {r : PrefetchRecord} (h : r.status = .FAILED) :
    ¬ r.Live := by
  rintro ⟨havail, -⟩
  unfold PrefetchRecord.Available at havail
  rw [h] at havail
  simp at havail

theorem PrefetchRecord.not_live_of_zero {r : PrefetchRecord} (h : r.remote_addr = 0) : ¬ r.Live := by
  rintro ⟨-, hbase⟩
  rw [h] at hbase
  exact absurd hbase (by decide)

/-- What is set for the record is what is found. -/
theorem World.of_record_setRecord {w : World α} {va : ℕ} {f : PrefetchRecord → PrefetchRecord}
    {r : PrefetchRecord} (hr : (w.setRecord va f).record va = some r)
    (hf : ∀ r, (f r).target_va = r.target_va) : ∃ r₀, f r₀ = r := by
  rw [World.record_setRecord_self hf] at hr
  obtain ⟨r₀, -, h⟩ := Option.map_eq_some_iff.1 hr
  exact ⟨r₀, h⟩

/-- The world in which the bytes of a record are in the buffer of the thread, and its prefetch
buffer is given back. -/
def World.retrieved (w : World α) (va : ℕ) (r : PrefetchRecord) : World α :=
  World.setRecord
    { pager := w.pager.retrieved (w.prefetcher.remote r.remote_addr)
      prefetcher := { w.prefetcher with freed := r.remote_addr :: w.prefetcher.freed } } va
    fun r => { r with remote_addr := 0 }

/-- What the retrieval of an available record returns, and what it leaves. -/
inductive Retrieves (o : Channel) (va : ℕ) (r : PrefetchRecord) (w : World α) : ℤ → World α → Prop
  /-- the write of the buffer did not succeed -/
  | unwritten (status : (o.settle r).status = .FAILED) :
      Retrieves o va r w (-1) (w.setRecord va o.settle)
  /-- the buffer cannot be read -/
  | unread : Retrieves o va r w (-1)
      ((w.setRecord va o.settle).setRecord va fun r => { r with status := .FAILED })
  | retrieved (status : (o.settle r).status = .COMPLETED)
      (base : SIM_REMOTE_MEMORY_BASE ≤ r.remote_addr) :
      Retrieves o va r w 0 ((w.setRecord va o.settle).retrieved va (o.settle r))

/-- **Retrieval.** -/
theorem run_retrieve (o : Channel) {w : World α} {va : ℕ} {r : PrefetchRecord}
    (hr : w.record va = some r) (havail : r.Available) :
    ∃ ret w', (retrieve_prefetched_data_to_local_buffer o va).run w = .ok (ret, w') ∧
      Retrieves o va r w ret w' := by
  have hself : (w.setRecord va o.settle).record va = some (o.settle r) := by
    rw [World.record_setRecord_self o.settle_target, hr, Option.map_some]
  have hset : (set_record va fun r =>
      if r.status = .IN_PROGRESS then
        { r with status := if o.write_done then .COMPLETED else .FAILED }
      else r).run w = .ok ((), w.setRecord va o.settle) := rfl
  rw [retrieve_prefetched_data_to_local_buffer, run_bind_ok hset,
    run_bind_ok (run_find_prefetch_record _ va), hself]
  rcases o.settle_status havail with hdone | hfailed
  · simp only [if_pos hdone]
    by_cases hread : o.read_id ≠ 0 ∧ o.read_done ∧
        SIM_REMOTE_MEMORY_BASE ≤ (o.settle r).remote_addr
    · rw [if_pos hread]
      exact ⟨0, _, rfl, .retrieved hdone (o.settle_addr r ▸ hread.2.2)⟩
    · rw [if_neg hread]
      exact ⟨-1, _, rfl, .unread⟩
  · have hne : ¬ (o.settle r).status = .COMPLETED := by
      rw [hfailed]
      decide
    simp only [if_neg hne]
    exact ⟨-1, _, rfl, .unwritten hfailed⟩

/-- It leaves the pager alone, or puts the bytes of a live record into the buffer of the thread. -/
theorem Retrieves.pager {o : Channel} {va : ℕ} {r : PrefetchRecord} {w w' : World α} {ret : ℤ}
    (h : Retrieves o va r w ret w') :
    ret = -1 ∧ w'.pager = w.pager ∨ ret = 0 ∧ SIM_REMOTE_MEMORY_BASE ≤ r.remote_addr ∧
      w'.pager = w.pager.retrieved (w.prefetcher.remote r.remote_addr) := by
  cases h with
  | unwritten status => exact Or.inl ⟨rfl, rfl⟩
  | unread => exact Or.inl ⟨rfl, rfl⟩
  | retrieved status base =>
      refine Or.inr ⟨rfl, base, ?_⟩
      show w.pager.retrieved (w.prefetcher.remote (o.settle r).remote_addr) = _
      rw [o.settle_addr]

/-- The record is used up, whether its bytes were retrieved or not. -/
theorem Retrieves.usedUp {o : Channel} {va : ℕ} {r : PrefetchRecord} {w w' : World α} {ret : ℤ}
    (h : Retrieves o va r w ret w') (hr : w.record va = some r) : UsedUp w w' va := by
  have hself : (w.setRecord va o.settle).record va = some (o.settle r) := by
    rw [World.record_setRecord_self o.settle_target, hr, Option.map_some]
  have hne : ∀ a, a ≠ va → (w.setRecord va o.settle).record a = w.record a :=
    fun a ha => World.record_setRecord_ne o.settle_target ha
  cases h with
  | unwritten status =>
      refine ⟨hne, fun r' hr' => PrefetchRecord.not_live_of_failed ?_, rfl, rfl⟩
      rw [hself, Option.some_inj] at hr'
      rw [← hr']
      exact status
  | unread =>
      refine ⟨fun a ha => ?_, fun r' hr' => PrefetchRecord.not_live_of_failed ?_, rfl, rfl⟩
      · exact (World.record_setRecord_ne (f := fun r => { r with status := .FAILED })
          (fun _ => rfl) ha).trans (hne a ha)
      · obtain ⟨r₀, rfl⟩ := World.of_record_setRecord hr' fun _ => rfl
        rfl
  | retrieved status base =>
      refine ⟨fun a ha => ?_, fun r' hr' => PrefetchRecord.not_live_of_zero ?_, rfl, rfl⟩
      · exact (World.record_setRecord_ne (f := fun r => { r with remote_addr := 0 })
          (fun _ => rfl) ha).trans (hne a ha)
      · obtain ⟨r₀, rfl⟩ := World.of_record_setRecord hr' fun _ => rfl
        rfl

/-- A lookup that does not serve the fault. The pager's structs are untouched; if the bytes
were retrieved and `UFFDIO_COPY` refused them, they are still in the buffer of the thread. -/
structure Missed (w w' : World α) (va : ℕ) : Prop where
  used : UsedUp w w' va
  pager : w'.pager = w.pager ∨ ∃ r, w.record va = some r ∧ r.Live ∧
    w'.pager = { w.pager with mem :=
      { w.pager.mem with buffer_space := w.prefetcher.remote r.remote_addr }.copy_failed }

/-- The flags that a hit sets. -/
def UserPage.served (p : UserPage) : UserPage :=
  { p with in_dram := true, swapped_out := false, migrating := false }

/-- A lookup that serves the fault: the bytes of a live record are mapped, and three flags of
the page are set. -/
structure HitServed (w w' : World α) (page : PageId) (r : PrefetchRecord) : Prop where
  record : w.record (w.pager.pol.page page).va = some r
  live : r.Live
  others : ∀ a, a ≠ (w.pager.pol.page page).va → w'.record a = w.record a
  dead : ∀ r', w'.record (w.pager.pol.page page).va = some r' → ¬ r'.Live
  remote : w'.prefetcher.remote = w.prefetcher.remote
  hits : w'.prefetcher.hits =
    { va := (w.pager.pol.page page).va, data := w.prefetcher.remote r.remote_addr
      last_evicted := w.pager.mem.discarded (w.pager.pol.page page).va } :: w.prefetcher.hits
  unmapped : ¬ { w.pager.mem with buffer_space := w.prefetcher.remote r.remote_addr }.copy_refused
    (w.pager.pol.page page).va
  pol : w'.pager.pol = w.pager.pol.upd page UserPage.served
  mem : w'.pager.mem =
    { w.pager.mem with buffer_space := w.prefetcher.remote r.remote_addr }.copied
      (w.pager.pol.page page).va (w.prefetcher.remote r.remote_addr)

/-- What `handle_page_fault_with_prefetch` returns for the page at `va`, and what it leaves. -/
inductive Consults (o : Channel) (page : PageId) (va : ℕ) (w : World α) : ℤ → World α → Prop
  /-- there is no record that is available -/
  | none (unavailable : ∀ r, w.record va = some r → ¬ r.Available) : Consults o page va w (-1) w
  /-- the copy cannot be retrieved -/
  | lost {r : PrefetchRecord} {w' : World α} (record : w.record va = some r) (avail : r.Available)
      (retrieve : Retrieves o va r w (-1) w') : Consults o page va w (-1) w'
  /-- `UFFDIO_COPY` refuses the copy -/
  | refused {r : PrefetchRecord} {w' : World α} (record : w.record va = some r)
      (avail : r.Available) (retrieve : Retrieves o va r w 0 w')
      (refuses : w'.pager.mem.copy_refused va) :
      Consults o page va w (-1)
        (World.setRecord { w' with pager := { w'.pager with mem := w'.pager.mem.copy_failed } } va
          fun r => { r with status := .FAILED })
  | hit {r : PrefetchRecord} {w' : World α} (record : w.record va = some r) (avail : r.Available)
      (retrieve : Retrieves o va r w 0 w') (accepts : ¬ w'.pager.mem.copy_refused va) :
      Consults o page va w 0
        { pager :=
            { pol := w'.pager.pol.upd page UserPage.served
              mem := w'.pager.mem.copied va w'.pager.mem.buffer_space }
          prefetcher :=
            { w'.prefetcher with
              hits := { va := va, data := w'.pager.mem.buffer_space
                        last_evicted := w'.pager.mem.discarded va } :: w'.prefetcher.hits } }

/-- **Looking into the cache.** -/
theorem run_consult (o : Channel) (page : PageId) (w : World α) :
    ∃ ret w', (handle_page_fault_with_prefetch o page).run w = .ok (ret, w') ∧
      Consults o page (w.pager.pol.page page).va w ret w' := by
  rw [handle_page_fault_with_prefetch, run_bind_ok (run_on_pager (run_get_page _ page)),
    run_bind_ok (run_find_prefetch_record w _)]
  generalize hva : (w.pager.pol.page page).va = va
  by_cases hany : ((w.record va).any fun r => r.status = .IN_PROGRESS ∨ r.status = .COMPLETED)
  swap
  · rw [if_neg hany]
    refine ⟨-1, w, rfl, .none fun r hr havail => hany ?_⟩
    rw [hr]
    simpa [PrefetchRecord.Available] using havail
  rw [if_pos hany]
  obtain ⟨r, hr, havail⟩ : ∃ r, w.record va = some r ∧ r.Available := by
    rcases hrec : w.record va with _ | r
    · rw [hrec] at hany
      cases hany
    · rw [hrec] at hany
      exact ⟨r, rfl, by simpa [PrefetchRecord.Available] using hany⟩
  obtain ⟨ret, w₁, hrun, hret⟩ := run_retrieve o hr havail
  rw [run_bind_ok hrun]
  rcases hret.pager with ⟨rfl, -⟩ | ⟨rfl, -, -⟩
  · rw [if_neg (by decide)]
    exact ⟨-1, w₁, rfl, .lost hr havail hret⟩
  · rw [if_pos rfl, run_bind_ok (run_on_pager (run_get_mem _))]
    have hcopy := run_uffdio_copy (s := w₁.pager) va w₁.pager.mem.buffer_space
    by_cases hrefused : w₁.pager.mem.copy_refused va
    · rw [if_pos hrefused] at hcopy
      rw [run_bind_ok (run_on_pager hcopy), if_pos rfl]
      exact ⟨-1, _, rfl, .refused hr havail hret hrefused⟩
    · rw [if_neg hrefused] at hcopy
      rw [run_bind_ok (run_on_pager hcopy), if_neg (by decide)]
      exact ⟨0, _, rfl, .hit hr havail hret hrefused⟩

/-- **Misses and hits.** -/
theorem consult_cases (o : Channel) (page : PageId) (w : World α) :
    (∃ w', (handle_page_fault_with_prefetch o page).run w = .ok (-1, w') ∧
      Missed w w' (w.pager.pol.page page).va) ∨
    ∃ r w', (handle_page_fault_with_prefetch o page).run w = .ok (0, w') ∧
      HitServed w w' page r := by
  obtain ⟨ret, w', hrun, hconsults⟩ := run_consult o page w
  -- the exits of the routine: no record, a copy that cannot be fetched, one that cannot be
  -- mapped, and a hit
  cases hconsults with
  | none unavailable =>
      refine Or.inl ⟨w, hrun, ⟨fun _ _ => rfl, fun r hr hlive => ?_, rfl, rfl⟩, Or.inl rfl⟩
      exact unavailable r hr hlive.1
  | lost record avail retrieve =>
      rcases retrieve.pager with ⟨-, hpager⟩ | ⟨hret, -⟩
      · exact Or.inl ⟨_, hrun, retrieve.usedUp record, Or.inl hpager⟩
      · cases hret
  | @refused r w₁ record avail retrieve refuses =>
      rcases retrieve.pager with ⟨hret, -⟩ | ⟨-, hbase, hpager⟩
      · cases hret
      · have hused := retrieve.usedUp record
        refine Or.inl ⟨_, hrun, ⟨fun a ha => ?_, fun r' hr' => ?_, hused.remote, hused.hits⟩,
          Or.inr ⟨r, record, ⟨avail, hbase⟩, ?_⟩⟩
        · exact (World.record_setRecord_ne (f := fun r => { r with status := .FAILED })
            (fun _ => rfl) ha).trans (hused.others a ha)
        · obtain ⟨r₀, rfl⟩ := World.of_record_setRecord hr' fun _ => rfl
          exact PrefetchRecord.not_live_of_failed rfl
        · show { w₁.pager with mem := w₁.pager.mem.copy_failed } = _
          rw [hpager]
          rfl
  | @hit r w₁ record avail retrieve accepts =>
      rcases retrieve.pager with ⟨hret, -⟩ | ⟨-, hbase, hpager⟩
      · cases hret
      · have hused := retrieve.usedUp record
        have hmem : w₁.pager.mem =
            { w.pager.mem with buffer_space := w.prefetcher.remote r.remote_addr } := by
          rw [hpager]
          rfl
        refine Or.inr ⟨r, _, hrun, record, ⟨avail, hbase⟩, hused.others, hused.dead, hused.remote,
          ?_, ?_, ?_, ?_⟩
        · show _ :: w₁.prefetcher.hits = _
          rw [hmem, hused.hits]
        · rw [← hmem]
          exact accepts
        · show w₁.pager.pol.upd page UserPage.served = _
          rw [hpager]
          rfl
        · show w₁.pager.mem.copied _ w₁.pager.mem.buffer_space = _
          rw [hmem]

/-! ## After a hit -/

/-- The page `p`, evicted in `P`, is in `P'` as a regular swap-in leaves it: it owns a frame
that no other struct in DRAM has, it can be evicted again, and its slot is kept or free. -/
structure LikeSwapin (P P' : Policy) (p : PageId) : Prop where
  in_dram : (P'.page p).in_dram = true
  frame : (P'.page p).virtual_offset + PAGE_SIZE ≤ P'.dramsize
  own : ∀ j, j < P'.npages → j ≠ p → (P'.page j).in_dram = true →
    (P'.page j).virtual_offset ≠ (P'.page p).virtual_offset
  off : p ∉ P'.lists .disk_active_list
  on : p ∈ P'.lists .inactive_list
  slot : ∃ d, (d ∈ P'.lists .disk_reserve_list ∨ d ∈ P'.lists .disk_free_list) ∧
    (P'.page d).virtual_offset = (P.page p).virtual_offset

/-- The page is claimed by the fault handler. -/
def World.claim (w : World α) (p : PageId) : World α :=
  { w with pager := { w.pager with pol := w.pager.pol.upd p fun q => { q with migrating := true } } }

/-- A major fault begins with the claim and the lookup. -/
theorem run_handle_missing_fault {o : Channel} {swapin : PageId → Proc α Unit} {w w₁ : World α}
    {p : PageId} {ret : ℤ} (hm : (w.pager.pol.page p).migrating = false)
    (hsw : (w.pager.pol.page p).swapped_out = true)
    (hrun : (handle_page_fault_with_prefetch o p).run (w.claim p) = .ok (ret, w₁)) :
    (handle_missing_fault o swapin p).run w =
      (if ret = 0 then
        on_pager (set_page p fun q => { q with swapped_out := false, migrating := false })
      else on_pager (finish_major_fault swapin p (w.pager.pol.page p).va) : WProc α Unit).run w₁ := by
  have hcheck : (do check (¬ (← get_page p).migrating) .hang : Proc α Unit).run w.pager =
      .ok ((), w.pager) := by
    rw [run_bind_ok (run_get_page _ p)]
    exact run_check_pos (by simp [hm]) _ _
  rw [handle_missing_fault, run_bind_ok (run_on_pager (run_get_page _ p)),
    run_bind_ok (run_on_pager hcheck), run_bind_ok (run_on_pager (run_get_page _ p)), if_pos hsw,
    run_bind_ok (run_on_pager (run_set_page _ p _))]
  exact run_bind_ok hrun

/-- **A hit bypasses the policy.** In every state, for every evicted page that the fault
handler serves from the cache: the lists are as they were, the page keeps its disk slot as
its offset while it is marked as in DRAM, and it is not as a regular swap-in leaves it. -/
theorem hit_never_like_swapin (o : Channel) (swapin : PageId → Proc α Unit) {w w₁ : World α}
    {p : PageId} (hl : p ∈ w.pager.pol.lists .disk_active_list)
    (hm : (w.pager.pol.page p).migrating = false)
    (hsw : (w.pager.pol.page p).swapped_out = true)
    (hhit : (handle_page_fault_with_prefetch o p).run (w.claim p) = .ok (0, w₁)) :
    ∃ w', (handle_missing_fault o swapin p).run w = .ok ((), w') ∧
      w'.pager.pol.lists = w.pager.pol.lists ∧
      w'.pager.pol.page p =
        { w.pager.pol.page p with in_dram := true, swapped_out := false, migrating := false } ∧
      ¬ LikeSwapin w.pager.pol w'.pager.pol p := by
  obtain ⟨w₂, hmiss, -⟩ | ⟨r, w₂, hrun, hserved⟩ := consult_cases o p (w.claim p)
  · rw [hhit] at hmiss
    exact absurd (congrArg (fun r => r.map Prod.fst) hmiss) (by simp [Except.map])
  · rw [hhit] at hrun
    cases hrun
    have hpol : w₁.pager.pol =
        (w.pager.pol.upd p fun q => { q with migrating := true }).upd p UserPage.served :=
      hserved.pol
    let w' : World α :=
      { w₁ with pager := { w₁.pager with pol := w₁.pager.pol.upd p fun q =>
        { q with swapped_out := false, migrating := false } } }
    have hfault : (handle_missing_fault o swapin p).run w = .ok ((), w') := by
      rw [run_handle_missing_fault hm hsw hhit, if_pos rfl]
      exact run_on_pager (run_set_page _ p _)
    have hlists : w'.pager.pol.lists = w.pager.pol.lists := by
      simp only [w', hpol]
      rfl
    refine ⟨w', hfault, hlists, ?_, fun hlike => hlike.off ?_⟩
    · simp only [w', hpol, Policy.upd_page_self, UserPage.served]
    · rw [hlists]
      exact hl

/-- One frame: a page is evicted and prefetched, and another one takes the frame. -/
def prefetchThenReuse : List (ℕ × Event ℕ) :=
  [(1, .pager (.fault 8192 false 0) {}), (1, .pager (.app [.write 8192 7]) {}),
    (1, .pager (.shrink_inactive 1) {}), (1, .pager .evict {}),
    (1, .async_prefetch_page 8192 4096 { allocate := some SIM_REMOTE_MEMORY_BASE }),
    (1, .pager (.fault 4096 false 0) {})]

/-- The number of live pages marked as in DRAM. -/
def residents (P : Policy) : ℕ :=
  ((List.range P.npages).filter fun i => (P.page i).in_dram && (P.page i).va != 0).length

theorem prefetchThenReuse_evaluates : passes (fun w : World ℕ =>
    decide (0 ∈ w.pager.pol.lists .disk_active_list ∧ (w.pager.pol.page 0).migrating = false ∧
      (w.pager.pol.page 0).swapped_out = true ∧ (w.pager.pol.page 0).va = 8192) &&
    (passes (fun _ => true)
        ((do check ((← handle_page_fault_with_prefetch {} 0) = 0) .hang : WProc ℕ Unit).run
          (w.claim 0)) &&
      passes (fun w' => decide (0 ∈ w'.pager.pol.lists .disk_active_list ∧
          w'.pager.pol.dramsize / PAGE_SIZE < residents w'.pager.pol))
        ((handle_missing_fault {} (page_swapin 1 false) 0).run w)))
    ((do on_pager lrudisk_init; exec_events prefetchThenReuse : WProc ℕ Unit).run
      (World.blank 4096 8192 0 {})) = true := by decide +kernel

/-- With one frame, a hit beside a resident page leaves two pages in DRAM. -/
theorem hit_not_like_swapin_prefetchThenReuse :
    ∃ w w' : World ℕ, WReaches 4096 8192 0 {} prefetchThenReuse w ∧
      (∃ w₁, (handle_page_fault_with_prefetch {} 0).run (w.claim 0) = .ok (0, w₁)) ∧
      (handle_missing_fault {} (page_swapin 1 false) 0).run w = .ok ((), w') ∧
      ¬ LikeSwapin w.pager.pol w'.pager.pol 0 ∧
      w'.pager.pol.dramsize / PAGE_SIZE < residents w'.pager.pol := by
  obtain ⟨⟨⟩, w, hw, ht⟩ := of_passes prefetchThenReuse_evaluates
  simp only [Bool.and_eq_true, decide_eq_true_eq] at ht
  obtain ⟨-, hzero, hfault⟩ := ht
  obtain ⟨⟨⟩, w₂, hw₂, -⟩ := of_passes hzero
  obtain ⟨ret, w₁, hrun, hret⟩ := bind_eq_ok hw₂
  obtain ⟨rfl, -⟩ := check_eq_ok hret
  obtain ⟨⟨⟩, w', hw', hafter⟩ := of_passes hfault
  rw [decide_eq_true_eq] at hafter
  exact ⟨w, w', hw, ⟨w₁, hrun⟩, hw', fun hlike => hlike.off hafter.1, hafter.2⟩

theorem hit_never_like_swapin_prefetchThenReuse :
    ∃ w w' : World ℕ, WReaches 4096 8192 0 {} prefetchThenReuse w ∧
      (handle_missing_fault {} (page_swapin 1 false) 0).run w = .ok ((), w') ∧
      ¬ LikeSwapin w.pager.pol w'.pager.pol 0 := by
  obtain ⟨⟨⟩, w, hw, ht⟩ := of_passes prefetchThenReuse_evaluates
  simp only [Bool.and_eq_true, decide_eq_true_eq] at ht
  obtain ⟨⟨hl, hm, hsw, -⟩, hzero, -⟩ := ht
  obtain ⟨⟨⟩, w₂, hw₂, -⟩ := of_passes hzero
  obtain ⟨ret, w₁, hrun, hret⟩ := bind_eq_ok hw₂
  obtain ⟨rfl, -⟩ := check_eq_ok hret
  obtain ⟨w', hw', -, -, hnot⟩ := hit_never_like_swapin {} (page_swapin 1 false) hl hm hsw hrun
  exact ⟨w, w', hw, hw', hnot⟩

end SwapPrefetch
