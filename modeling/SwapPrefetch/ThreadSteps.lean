/-
One step of a thread: it keeps the rules for holding page structs.

`Fine rest m s` says that the step `m` from `s` leads to a point whose holdings, together with the
holdings `rest` of the other threads, follow the rules, or stops at an assertion other than
`swapped_out == false`. There is one rule of this kind for each primitive, and from these one
lemma for each point of the programs.
-/
import Mathlib.Tactic
import SwapPrefetch.PageHoldings

set_option autoImplicit false

namespace SwapPrefetch

open Prog Holdings

variable {β γ : Type} {P : Policy} {M : Mem Unit} {i p : PageId} {q : ListId}
  {rest : List (PageId × Hold)}

/-! ## Routines that only read, or only change the page table -/

/-- The routine leaves the structs and the lists alone. -/
def MemOnly (m : Proc Unit β) : Prop :=
  ∀ s, Ends (m.run s) (fun _ s' => s'.pol = s.pol) (· ≠ .swapped_out)

theorem MemOnly.bind {m : Proc Unit β} {k : β → Proc Unit γ} (hm : MemOnly m)
    (hk : ∀ b, MemOnly (k b)) : MemOnly (m >>= k) := fun s =>
  Ends.bind (hm s) fun b s' hs => (hk b s').mono (fun _ _ h => h.trans hs) fun _ => id

theorem memOnly_pure (b : β) : MemOnly (pure b : Proc Unit β) := fun _ => rfl

theorem memOnly_throw {e : Fault} (he : e ≠ .swapped_out) : MemOnly (throw e : Proc Unit β) :=
  fun _ => he

theorem memOnly_check {c : Prop} [Decidable c] {e : Fault} (he : e ≠ .swapped_out) :
    MemOnly (check c e) := fun s => by
  by_cases hc : c
  · rw [run_check_pos hc]
    exact rfl
  · rw [run_check_neg hc]
    exact he

theorem memOnly_get_page (i : PageId) : MemOnly (get_page i) := fun _ => rfl

theorem memOnly_get_pol : MemOnly get_pol := fun _ => rfl

theorem memOnly_get_mem : MemOnly get_mem := fun _ => rfl

theorem memOnly_modify_mem (f : Mem Unit → Mem Unit) : MemOnly (modify_mem f) := fun _ => rfl

theorem memOnly_ite {c : Prop} [Decidable c] {m m' : Proc Unit β} (h : MemOnly m)
    (h' : MemOnly m') : MemOnly (if c then m else m') := by
  split
  · exact h
  · exact h'

theorem memOnly_app_turn : MemOnly app_turn := fun _ => rfl

theorem memOnly_pt_get_bits (i : PageId) : MemOnly (pt_get_bits i) := by
  refine memOnly_app_turn.bind fun _ => (memOnly_get_page i).bind fun x =>
    (memOnly_check Fault.noConfusion).bind fun _ => memOnly_get_mem.bind fun m => ?_
  split
  · exact memOnly_pure _
  · exact memOnly_pure _

theorem memOnly_pt_clear_accessed_flag (i : PageId) : MemOnly (pt_clear_accessed_flag i) := by
  refine memOnly_app_turn.bind fun _ => (memOnly_get_page i).bind fun x =>
    (memOnly_check Fault.noConfusion).bind fun _ => memOnly_get_mem.bind fun m => ?_
  split
  · exact memOnly_modify_mem _
  · exact memOnly_pure _

theorem memOnly_extmem_wp_page (i : PageId) (b : Bool) : MemOnly (extmem_wp_page i b) := by
  refine memOnly_app_turn.bind fun _ => (memOnly_get_page i).bind fun x =>
    (memOnly_check Fault.noConfusion).bind fun _ => (memOnly_check Fault.noConfusion).bind fun _ =>
    memOnly_get_mem.bind fun m => ?_
  split
  · exact memOnly_modify_mem _
  · exact memOnly_pure _

theorem memOnly_uffdio_copy (va : ℕ) : MemOnly (uffdio_copy va ()) := by
  refine memOnly_app_turn.bind fun _ => memOnly_get_mem.bind fun m =>
    (memOnly_modify_mem _).bind fun _ => memOnly_get_mem.bind fun m => memOnly_ite (memOnly_pure _) ?_
  exact (memOnly_modify_mem _).bind fun _ => memOnly_pure _

theorem memOnly_madvise_dontneed (va : ℕ) : MemOnly (madvise_dontneed va) := by
  refine memOnly_app_turn.bind fun _ => memOnly_get_mem.bind fun m => ?_
  split
  · exact memOnly_modify_mem _
  · exact memOnly_pure _

theorem memOnly_io_outcome : MemOnly io_outcome :=
  memOnly_get_mem.bind fun _ => (memOnly_modify_mem _).bind fun _ => memOnly_pure _

theorem memOnly_extmem_disk_write (va dest : ℕ) : MemOnly (extmem_disk_write va dest) := by
  refine memOnly_app_turn.bind fun _ => memOnly_get_mem.bind fun m => ?_
  split
  · exact memOnly_throw Fault.noConfusion
  · exact memOnly_io_outcome.bind fun _ => memOnly_ite (memOnly_pure _) (memOnly_modify_mem _)

theorem memOnly_extmem_disk_read (src : ℕ) (dest : Unit) : MemOnly (extmem_disk_read src dest) :=
  memOnly_io_outcome.bind fun _ => memOnly_ite (memOnly_pure _)
    (memOnly_get_mem.bind fun _ => memOnly_pure _)

theorem memOnly_prefetch_read (jobs : List (PageId × PageId)) (n : ℕ) :
    MemOnly (prefetch_read jobs n) := by
  induction jobs generalizing n with
  | nil => exact memOnly_pure _
  | cons j jobs ih =>
      exact (memOnly_get_page _).bind fun _ => memOnly_get_mem.bind fun _ =>
        (memOnly_extmem_disk_read _ _).bind fun _ => (memOnly_modify_mem _).bind fun _ => ih _

theorem memOnly_vector_write (victims : List Victim) : MemOnly (downdisk_vector_write victims) := by
  induction victims with
  | nil => exact memOnly_pure _
  | cons v victims ih =>
      refine (memOnly_get_page _).bind fun _ => (memOnly_check Fault.noConfusion).bind fun _ => ?_
      split
      · exact (memOnly_get_page _).bind fun _ => (memOnly_get_page _).bind fun _ =>
          (memOnly_extmem_disk_write _ _).bind fun _ => ih
      · exact ih

theorem memOnly_vector_discard (victims : List Victim) :
    MemOnly (downdisk_vector_discard victims) := by
  induction victims with
  | nil => exact memOnly_pure _
  | cons v victims ih =>
      exact (memOnly_get_page _).bind fun _ => (memOnly_madvise_dontneed _).bind fun _ => ih

theorem memOnly_libc_munmap (addr length : ℕ) : MemOnly (libc_munmap addr length) :=
  memOnly_app_turn.bind fun _ => (memOnly_check Fault.noConfusion).bind fun _ =>
    memOnly_modify_mem _

theorem memOnly_async_start (i : PageId) : MemOnly (core_migrate_up_async_start i) :=
  (memOnly_get_page _).bind fun _ => (memOnly_check Fault.noConfusion).bind fun _ =>
    (memOnly_get_page _).bind fun _ => memOnly_get_pol.bind fun _ =>
    (memOnly_check Fault.noConfusion).bind fun _ => memOnly_get_pol.bind fun _ =>
    memOnly_check Fault.noConfusion

/-! ## The primitives -/

/-- The step leads to a point that goes with the other threads. -/
def Fine (rest : List (PageId × Hold)) (m : Proc Unit Pc) (s : State Unit) : Prop :=
  Ends (m.run s) (fun pc s' => Good s'.pol (pc.held ++ rest)) (· ≠ .swapped_out)

namespace Fine

variable {k : β → Proc Unit Pc}

theorem pure {pc : Pc} (h : Good P (pc.held ++ rest)) : Fine rest (Pure.pure pc) ⟨P, M⟩ := h

theorem throw {e : Fault} (he : e ≠ .swapped_out) : Fine rest (MonadExcept.throw e) ⟨P, M⟩ := he

theorem mem {m : Proc Unit β} (hm : MemOnly m) (hk : ∀ b M', Fine rest (k b) ⟨P, M'⟩) :
    Fine rest (m >>= k) ⟨P, M⟩ := by
  refine Ends.bind (hm ⟨P, M⟩) fun b s' hs => ?_
  obtain ⟨P', M'⟩ := s'
  cases hs
  exact hk b M'

theorem get_page {k : UserPage → Proc Unit Pc} (hk : Fine rest (k (P.page i)) ⟨P, M⟩) :
    Fine rest (SwapPrefetch.get_page i >>= k) ⟨P, M⟩ := hk

theorem get_pol {k : Policy → Proc Unit Pc} (hk : Fine rest (k P) ⟨P, M⟩) :
    Fine rest (SwapPrefetch.get_pol >>= k) ⟨P, M⟩ := hk

theorem find_page {k : Option PageId → Proc Unit Pc} {va : ℕ}
    (hk : Fine rest (k (P.pages va)) ⟨P, M⟩) :
    Fine rest (SwapPrefetch.find_page va >>= k) ⟨P, M⟩ := hk

theorem set_page {k : Unit → Proc Unit Pc} {f : UserPage → UserPage}
    (hk : Fine rest (k ()) ⟨P.upd i f, M⟩) :
    Fine rest (SwapPrefetch.set_page i f >>= k) ⟨P, M⟩ := hk

theorem modify_pol {k : Unit → Proc Unit Pc} {f : Policy → Policy}
    (hk : Fine rest (k ()) ⟨f P, M⟩) :
    Fine rest (SwapPrefetch.modify_pol f >>= k) ⟨P, M⟩ := hk

theorem check {k : Unit → Proc Unit Pc} {c : Prop} [Decidable c] {e : Fault}
    (he : c ∨ e ≠ .swapped_out) (hk : c → Fine rest (k ()) ⟨P, M⟩) :
    Fine rest (Prog.check c e >>= k) ⟨P, M⟩ := by
  unfold Fine
  by_cases hc : c
  · rw [run_check_bind hc]
    exact hk hc
  · rw [run_bind_error (run_check_neg hc e _)]
    exact he.resolve_left hc

theorem enqueue_fifo {k : Unit → Proc Unit Pc}
    (hk : (P.face i).list = none → Fine rest (k ()) ⟨P.enq q i, M⟩) :
    Fine rest (SwapPrefetch.enqueue_fifo q i >>= k) ⟨P, M⟩ := by
  unfold SwapPrefetch.enqueue_fifo
  simp only [bind_assoc]
  exact Fine.get_page (Fine.check (Or.inr Fault.noConfusion) hk)

theorem dequeue_fifo (hl : P.Tidy) {k : Option PageId → Proc Unit Pc}
    (hnone : Fine rest (k none) ⟨P, M⟩)
    (hsome : ∀ i, (P.face i).list = some q → (P.lists q).head? = some i →
      Fine rest (k (some i)) ⟨P.unlink q i, M⟩) :
    Fine rest (SwapPrefetch.dequeue_fifo q >>= k) ⟨P, M⟩ := by
  unfold Fine
  rcases hq : P.lists q with _ | ⟨i, l⟩
  · rw [run_bind_ok (run_dequeue_fifo_nil hq)]
    exact hnone
  · rw [run_bind_ok (run_dequeue_fifo_cons hq)]
    refine hsome i ((hl.linked.mem_iff q i).1 ?_) ?_
    · rw [hq]
      exact List.mem_cons_self
    · rw [hq]
      rfl

/-- `page_list_tryremove_page` with the list that the struct is on. -/
theorem tryremove (hl : P.Tidy) {k : ℤ → Proc Unit Pc} {l : Option ListId}
    (hnone : ∀ ret, ret ≠ 0 → Fine rest (k ret) ⟨P, M⟩)
    (hsome : ∀ q, l = some q → (P.face i).list = some q →
      Fine rest (k 0) ⟨P.unlink q i, M⟩) :
    Fine rest (page_list_tryremove_page l i >>= k) ⟨P, M⟩ := by
  rcases l with _ | q
  · exact hnone (-1) (by decide)
  · by_cases hi : (P.page i).list = some q
    · unfold Fine
      rw [run_bind_ok (run_tryremove hi ((hl.linked.mem_iff q i).2 hi))]
      exact hsome q rfl hi
    · have hrun : (page_list_tryremove_page (some q) i : Proc Unit ℤ).run ⟨P, M⟩ =
          .ok (-1, ⟨P, M⟩) := by
        simp only [page_list_tryremove_page, run_bind, run_get_page, ok_bind, ne_eq, hi,
          not_false_eq_true, if_true, run_pure]
      unfold Fine
      rw [run_bind_ok hrun]
      exact hnone (-1) (by decide)

theorem detach_page (hl : P.Tidy) {k : Unit → Proc Unit Pc}
    (hk : (P.face i).list = some .disk_active_list →
      Fine rest (k ()) ⟨P.unlink .disk_active_list i, M⟩) :
    Fine rest (lrudisk_detach_page i >>= k) ⟨P, M⟩ := by
  unfold lrudisk_detach_page
  simp only [bind_assoc]
  refine Fine.get_page (Fine.check (Or.inr Fault.noConfusion) fun _ => Fine.tryremove hl ?_ ?_)
  · exact fun ret hret => Fine.check (Or.inr Fault.noConfusion) fun h => absurd h hret
  · intro q hq hi
    cases hq
    exact Fine.check (Or.inr Fault.noConfusion) fun _ => hk hi

theorem detach_reserve (hl : P.Tidy) {k : PageId → Proc Unit Pc} {stuck : Fault}
    (hs : stuck ≠ .swapped_out)
    (hk : ∀ d, (P.face d).list = some .disk_reserve_list →
      Fine rest (k d) ⟨P.unlink .disk_reserve_list d, M⟩) :
    Fine rest (SwapPrefetch.detach_reserve i stuck >>= k) ⟨P, M⟩ := by
  unfold SwapPrefetch.detach_reserve
  simp only [bind_assoc]
  refine Fine.get_page ?_
  rcases (P.page i).reserve with _ | d
  · exact Fine.throw Fault.noConfusion
  · simp only [bind_assoc, pure_bind]
    refine Fine.get_page (Fine.check (Or.inr Fault.noConfusion) fun _ => Fine.get_page ?_)
    refine Fine.check (Or.inr Fault.noConfusion) fun hlist => Fine.tryremove hl ?_ ?_
    · exact fun ret hret => Fine.check (Or.inr hs) fun h => absurd h hret
    · intro q hq hi
      rw [hlist] at hq
      cases hq
      exact Fine.check (Or.inr hs) fun _ => hk d hi

end Fine

/-! ## Faults -/

namespace Threads

variable {who : Evictor} {use : Use} {e : Eviction} {jobs : List (PageId × PageId)} {u : Unmap}

theorem wait_fine (h : Good P rest) : Fine rest (wait p) ⟨P, M⟩ := by
  refine Fine.get_page ?_
  split
  · exact Fine.pure h
  · exact Fine.pure h

theorem claim_fine (h : Good P ((p, .known) :: rest)) : Fine rest (claim p) ⟨P, M⟩ := by
  refine Fine.get_page ?_
  split
  · exact Fine.pure h.tail
  case isFalse hm =>
    refine Fine.get_page ?_
    split
    · exact Fine.pure h.tail
    case isFalse hs =>
      refine Fine.set_page (Fine.pure ?_)
      exact h.tail.claim h.ok (eq_true_of_ne_false hs) (eq_false_of_ne_true hm)

theorem lookup_fine (hit : Bool) (h : Good P ((p, .claimed) :: rest)) :
    Fine rest (lookup hit p) ⟨P, M⟩ := by
  unfold lookup
  split
  · refine Fine.get_page (Fine.mem (memOnly_uffdio_copy _) fun ret M' => ?_)
    split
    · exact Fine.pure h
    · exact Fine.pure h
  · exact Fine.pure h

theorem hit_in_dram_fine (h : Good P ((p, .claimed) :: rest)) :
    Fine rest (hit_in_dram p) ⟨P, M⟩ :=
  Fine.set_page (Fine.pure (h.upd p fun _ => rfl))

theorem hit_swapped_out_fine (h : Good P ((p, .claimed) :: rest)) (hno : (p, .stale) ∉ rest) :
    Fine rest (hit_swapped_out p) ⟨P, M⟩ := by
  obtain ⟨hva, hlru, hs, hm⟩ := h.ok
  refine Fine.set_page (Fine.pure ?_)
  exact h.change_alone (Or.inl rfl) hno (Changes.upd P p rfl rfl) ((h.base p).reflag hlru _ _)
    ⟨hva, hlru, rfl, hm⟩

theorem hit_migrating_fine (h : Good P ((p, .leaving) :: rest)) :
    Fine rest (hit_migrating p) ⟨P, M⟩ := by
  obtain ⟨hva, hlru, hs, hm⟩ := h.ok
  refine Fine.set_page (Fine.pure ?_)
  exact h.change_sole (by decide) (Changes.upd P p rfl rfl) ((h.base p).reflag hlru _ _)
    ⟨hva, hlru, hs⟩

theorem finish_hit_fine (h : Good P ((p, .trailing) :: rest)) :
    Fine rest (finish_hit p) ⟨P, M⟩ := by
  obtain ⟨hva, hlru, hs⟩ := h.ok
  refine Fine.set_page (Fine.pure ?_)
  exact h.release_sole (by decide) (Changes.upd P p rfl rfl) ((h.base p).reflag hlru _ _)

/-! ## Swap-ins -/

/-- A claimed page comes off `disk_active_list`. -/
theorem good_detach (h : Good P ((p, .claimed) :: rest))
    (hl : (P.face p).list = some .disk_active_list) :
    Good (P.unlink .disk_active_list p) ((p, .claimed) :: rest) := by
  obtain ⟨hva, -, hs, hm⟩ := h.ok
  exact h.change_claimed (Or.inl rfl) (Or.inl rfl) (Changes.unlink hl) (Face.base_none rfl)
    ⟨hva, Face.not_lru_none rfl, hs, hm⟩

theorem detach_fine (h : Good P ((p, .claimed) :: rest)) : Fine rest (detach p) ⟨P, M⟩ :=
  Fine.get_page (Fine.detach_page h.tidy fun hl => Fine.pure (good_detach h hl))

theorem start_fine {file_offset : ℕ} (h : Good P ((p, .claimed) :: rest)) :
    Fine rest (start p file_offset) ⟨P, M⟩ := by
  refine Fine.get_page ?_
  split
  · exact Fine.set_page (Fine.mem (memOnly_async_start p) fun _ _ =>
      Fine.pure (h.upd p fun _ => rfl))
  · exact Fine.mem (memOnly_async_start p) fun _ _ => Fine.pure h

/-- A struct in a capacity that relies on its address and its list alone. -/
theorem good_frame {f : UserPage → UserPage} (h : Good P ((i, .frame) :: rest))
    (hl : (f (P.page i)).list = (P.page i).list) (hva : (f (P.page i)).va = (P.page i).va) :
    Good (P.upd i f) ((i, .frame) :: rest) := by
  obtain ⟨h0, hnil⟩ := h.ok
  exact h.change_sole (by decide) (Changes.upd P i hl hva) (Face.base_none (hl.trans hnil))
    ⟨hva.trans h0, hl.trans hnil⟩

/-- A struct is put on a list of free frames, free slots or reserves. -/
theorem good_put (h : Good P ((i, .frame) :: rest)) (hl : (P.face i).list = none)
    (hs : q.spare = true) : Good (P.enq q i) rest :=
  h.release_sole (by decide) (Changes.enq q hl) (Face.base_spare rfl hs h.ok.1)

theorem fetch_fine (h : Good P (use.held ++ rest))
    (hno : ∀ i, (P.lists .dram_free_list).head? = some i → (i, .freed) ∉ use.held ++ rest) :
    Fine rest (fetch use) ⟨P, M⟩ := by
  refine Fine.dequeue_fifo h.tidy (Fine.pure h) fun i hl hi => Fine.pure ?_
  exact h.take_frame hl rfl fun hm => absurd hm (hno i hi)

theorem jobsHeld_append (jobs : List (PageId × PageId)) (page freepage : PageId) :
    jobsHeld (jobs ++ [(page, freepage)]) = jobsHeld jobs ++ [(page, .claimed), (freepage, .frame)] := by
  unfold jobsHeld
  rw [List.flatMap_append]
  rfl

theorem got_fine (freepage : PageId) (h : Good P ((freepage, .frame) :: use.held ++ rest)) :
    Fine rest (got freepage use) ⟨P, M⟩ := by
  cases use with
  | swapin page file_offset =>
      refine Fine.get_page (Fine.check (Or.inr Fault.noConfusion) fun _ => Fine.get_page ?_)
      unfold core_migrate_up_async_finish
      simp only [bind_assoc]
      refine Fine.get_page (Fine.check (Or.inr Fault.noConfusion) fun _ => Fine.get_page ?_)
      refine Fine.get_pol (Fine.check (Or.inr Fault.noConfusion) fun _ => Fine.get_pol ?_)
      refine Fine.check (Or.inr Fault.noConfusion) fun _ => Fine.get_pol ?_
      refine Fine.check (Or.inr Fault.noConfusion) fun _ => Fine.get_pol ?_
      refine Fine.check (Or.inr Fault.noConfusion) fun _ => Fine.get_page ?_
      refine Fine.mem memOnly_get_mem fun m M' => Fine.mem (memOnly_uffdio_copy _) fun _ M'' => ?_
      refine Fine.check (Or.inr Fault.noConfusion) fun _ => Fine.get_page ?_
      refine Fine.check (Or.inr Fault.noConfusion) fun _ => Fine.set_page (Fine.pure ?_)
      exact h.upd page fun _ => rfl
  | prefetch page left page_boundry jobs =>
      refine Fine.set_page (Fine.pure ?_)
      refine (good_frame h rfl rfl).perm ?_
      -- the new job goes to the end of the list
      show List.Perm _ (jobsHeld (jobs ++ [(page, freepage)]) ++ rest)
      rw [jobsHeld_append, List.append_assoc]
      exact (List.Perm.swap _ _ _).trans
        (List.perm_append_comm_assoc [(page, Hold.claimed), (freepage, Hold.frame)] _ _)
  | first page_boundry =>
      exact Fine.set_page (Fine.pure (good_frame h rfl rfl))

theorem slot_fine {page freepage : PageId} {file_offset : ℕ}
    (h : Good P ((freepage, .frame) :: (page, .claimed) :: rest)) :
    Fine rest (slot page freepage file_offset) ⟨P, M⟩ :=
  Fine.set_page (Fine.pure (good_frame h rfl rfl))

theorem link_fine {page freepage : PageId} {jobs : Option (List (PageId × PageId))}
    (h : Good P ((freepage, .frame) :: (page, .claimed) :: jobsHeld (jobs.getD []) ++ rest)) :
    Fine rest (link page freepage jobs) ⟨P, M⟩ := by
  refine Fine.set_page (Fine.set_page (Fine.set_page (Fine.enqueue_fifo fun hl => Fine.pure ?_)))
  have h₁ := h.upd freepage (f := fun p => { p with reserve := some page }) fun _ => rfl
  have h₂ := h₁.upd page
    (f := fun p => { p with reserve := some freepage, has_reserve := true }) fun _ => rfl
  have h₃ := h₂.upd freepage (f := fun p => { p with has_reserve := true }) fun _ => rfl
  exact good_put h₃ hl rfl

theorem enter_fine {jobs : Option (List (PageId × PageId))}
    (h : Good P ((p, .claimed) :: jobsHeld (jobs.getD []) ++ rest)) :
    Fine rest (enter p jobs) ⟨P, M⟩ := by
  obtain ⟨hva, -, hs, hm⟩ := h.ok
  refine Fine.enqueue_fifo fun hl => ?_
  have h' : Good _ ((p, .entered) :: jobsHeld (jobs.getD []) ++ rest) :=
    h.change_claimed (Or.inl rfl) (Or.inr rfl) (Changes.enq .inactive_list hl)
      (Face.base_entering rfl hva hm) ⟨hva, rfl, hs, hm⟩
  cases jobs with
  | none => exact Fine.pure h'
  | some jobs => exact Fine.pure h'

theorem in_dram_fine (h : Good P ((p, .entered) :: jobsHeld jobs ++ rest)) :
    Fine rest (in_dram p jobs) ⟨P, M⟩ :=
  Fine.set_page (Fine.pure (h.upd p fun _ => rfl))

theorem finish_fine {jobs : Option (List (PageId × PageId))}
    (h : Good P ((p, .entered) :: jobsHeld (jobs.getD []) ++ rest))
    (hno : (p, .stale) ∉ jobsHeld (jobs.getD []) ++ rest) : Fine rest (finish p jobs) ⟨P, M⟩ := by
  obtain ⟨hva, hl, -, -⟩ := h.ok
  refine Fine.set_page ?_
  have h' := h.release_alone (Or.inr rfl) hno
    (Changes.upd P p (f := fun p => { p with swapped_out := false, migrating := false }) rfl rfl)
    (Face.base_lru hl rfl hva rfl)
  cases jobs with
  | none => exact Fine.pure h'
  | some jobs => exact Fine.pure h'

/-! ## Prefetches -/

theorem select_fine {left page_boundry : ℕ} (h : Good P (jobsHeld jobs ++ rest)) :
    Fine rest (select left page_boundry jobs) ⟨P, M⟩ := by
  cases left with
  | zero => exact Fine.pure h
  | succ left =>
      refine Fine.find_page ?_
      split
      · exact Fine.pure h
      case h_2 page hpage =>
        exact Fine.get_page (Fine.check (Or.inr Fault.noConfusion) fun _ =>
          Fine.pure (h.know hpage))

theorem claim_next_fine {left page_boundry : ℕ}
    (h : Good P ((p, .known) :: jobsHeld jobs ++ rest)) :
    Fine rest (claim_next p left page_boundry jobs) ⟨P, M⟩ := by
  refine Fine.get_page ?_
  split
  · exact Fine.pure h.tail
  case isFalse hm =>
    refine Fine.get_page ?_
    split
    · exact Fine.pure h.tail
    case isFalse hs =>
      refine Fine.get_page ?_
      split
      · exact Fine.pure h.tail
      · refine Fine.set_page (Fine.pure ?_)
        exact h.tail.claim h.ok (eq_true_of_ne_false hs) (eq_false_of_ne_true hm)

theorem detach_next_fine {left page_boundry : ℕ}
    (h : Good P ((p, .claimed) :: jobsHeld jobs ++ rest)) :
    Fine rest (detach_next p left page_boundry jobs) ⟨P, M⟩ :=
  Fine.get_page (Fine.check (Or.inr Fault.noConfusion) fun _ =>
    Fine.detach_page h.tidy fun hl => Fine.pure (good_detach h hl))

theorem read_fine (h : Good P (jobsHeld jobs ++ rest)) : Fine rest (read jobs) ⟨P, M⟩ :=
  Fine.mem (memOnly_prefetch_read jobs 0) fun _ _ => Fine.pure h

theorem copy_fine (h : Good P (jobsHeld jobs ++ rest)) : Fine rest (copy jobs) ⟨P, M⟩ := by
  cases jobs with
  | nil => exact Fine.pure h
  | cons j jobs =>
      exact Fine.get_page (Fine.mem (memOnly_uffdio_copy _) fun _ _ => Fine.pure h.swap)

theorem ack_fine {page freepage : PageId}
    (h : Good P ((freepage, .frame) :: (page, .claimed) :: jobsHeld jobs ++ rest)) :
    Fine rest (ack page freepage jobs) ⟨P, M⟩ := by
  refine Fine.get_page (Fine.get_page (Fine.get_page ?_))
  refine Fine.check (Or.inr Fault.noConfusion) fun _ => Fine.get_page ?_
  refine Fine.check (Or.inr Fault.noConfusion) fun _ => Fine.get_page ?_
  refine Fine.check (Or.inr Fault.noConfusion) fun _ => Fine.get_page ?_
  refine Fine.check (Or.inr Fault.noConfusion) fun _ => Fine.get_page ?_
  refine Fine.check (Or.inr Fault.noConfusion) fun _ => Fine.set_page (Fine.set_page (Fine.pure ?_))
  exact (good_frame h rfl rfl).upd page fun _ => rfl

/-! ## Scans -/

theorem scanning_held (use : Option Use) : (scanning use).held = (use.map Use.held).getD [] := by
  cases use with
  | none => rfl
  | some use => rfl

/-- **A scan** takes a page that is not migrating. -/
theorem scan_fine {c : Choice} (use : Option Use) {stop again : Pc}
    (h : Good P ((use.map Use.held).getD [] ++ rest))
    (hstop : stop.held = (use.map Use.held).getD []) (hagain : again.held = (use.map Use.held).getD [])
    (hinactive : c = .scan_inactive → ∀ i, (P.lists .inactive_list).head? = some i →
      (P.face i).migrating = false)
    (hactive : c = .scan_active → ∀ i, (P.lists .active_list).head? = some i →
      (P.face i).migrating = false) : Fine rest (scan c use stop again) ⟨P, M⟩ := by
  rw [← hagain] at h
  unfold scan
  split
  · refine Fine.dequeue_fifo h.tidy (Fine.pure h) fun i hl hi => Fine.pure ?_
    rw [hagain] at h
    exact h.take_page hl rfl (hinactive rfl i hi) (Or.inl rfl)
  · refine Fine.dequeue_fifo h.tidy (Fine.pure h) fun i hl hi => Fine.set_page (Fine.pure ?_)
    rw [hagain] at h
    exact (h.take_page hl rfl (hactive rfl i hi) (Or.inl rfl)).upd i fun _ => rfl
  · exact Fine.throw Fault.noConfusion
  · rw [hagain, ← hstop] at h
    exact Fine.pure h

theorem examine_fine {use : Option Use}
    (h : Good P ((p, .loose) :: (use.map Use.held).getD [] ++ rest)) :
    Fine rest (examine p use) ⟨P, M⟩ := by
  refine Fine.mem (memOnly_pt_get_bits p) fun bits M' => ?_
  split
  split
  · have h₁ := h.upd p (f := fun p => { p with naccesses := (p.naccesses + 1) % 2 ^ 64 })
      fun _ => rfl
    refine Fine.set_page (Fine.mem (memOnly_pt_clear_accessed_flag p) fun _ _ => Fine.get_page ?_)
    split
    · exact Fine.set_page (Fine.pure (h₁.upd p fun _ => rfl))
    · exact Fine.pure h₁
  · exact Fine.set_page (Fine.pure (h.upd p fun _ => rfl))

theorem lru_queue (result : Scanned) : result.queue.lru = true := by
  cases result <;> rfl

/-- A page goes back to a list of resident pages. -/
theorem good_track (h : Good P ((p, .loose) :: rest)) (hl : (P.face p).list = none)
    (hq : q.lru = true) : Good (P.enq q p) rest := by
  obtain ⟨hva, -, hs⟩ := h.ok
  refine h.release (Changes.enq q hl) (Face.base_lru rfl hq hva hs) fun k₂ hne _ hf ho => ?_
  -- only `munmap` can have claimed the page, and it does not mind the list
  rcases Hold.eq_removing hf hne with rfl | rfl <;> exact ho

theorem put_fine {result : Scanned} {use : Option Use}
    (h : Good P ((p, .loose) :: (use.map Use.held).getD [] ++ rest)) :
    Fine rest (put p result use) ⟨P, M⟩ := by
  refine Fine.enqueue_fifo fun hl => Fine.pure ?_
  rw [scanning_held]
  exact good_track h hl (lru_queue result)

/-! ## Evictions -/

theorem evict_inline_fine (h : Good P (use.held ++ rest))
    (hcold : ∀ i, (P.lists .eviction_list).head? = some i → (P.face i).migrating = false) :
    Fine rest (evict_inline use) ⟨P, M⟩ := by
  refine Fine.dequeue_fifo h.tidy (Fine.pure h) fun i hl hi => Fine.pure ?_
  exact h.take_page hl rfl (hcold i hi) (Or.inr rfl)

theorem good_evict (h : Good P ((p, .taken) :: rest)) :
    Good (P.upd p fun p => { p with migrating := true }) ((p, .busy) :: rest) := by
  obtain ⟨hva, hl, hs⟩ := h.ok
  exact h.change_sole (by decide) (Changes.upd P p rfl rfl) (Face.base_none hl) ⟨hva, hl, hs, rfl⟩

theorem evict_fine (h : Good P ((p, .taken) :: who.held ++ rest)) : Fine rest (evict p who) ⟨P, M⟩ :=
  Fine.set_page (Fine.pure (good_evict h))

theorem protect_fine (h : Good P ((p, .busy) :: who.held ++ rest)) :
    Fine rest (protect p who) ⟨P, M⟩ := by
  refine Fine.mem (memOnly_extmem_wp_page p true) fun _ _ => ?_
  refine Fine.mem (memOnly_pt_get_bits p) fun bits _ => ?_
  exact Fine.get_page (Fine.pure h)

theorem backing_fine {writeback : Bool} (h : Good P ((p, .busy) :: who.held ++ rest))
    (hno : ∀ i, (P.lists .disk_free_list).head? = some i →
      (i, .freed) ∉ (p, .busy) :: who.held ++ rest) :
    Fine rest (backing p writeback who) ⟨P, M⟩ := by
  refine Fine.get_page ?_
  split
  · refine Fine.detach_reserve h.tidy Fault.noConfusion fun d hd => Fine.pure ?_
    exact (h.take_frame hd rfl fun _ => rfl).swap
  · refine Fine.dequeue_fifo h.tidy (Fine.throw Fault.noConfusion) fun d hd hi => ?_
    refine Fine.get_page (Fine.check (Or.inr Fault.noConfusion) fun _ => Fine.pure ?_)
    exact (h.take_frame hd rfl fun hm => absurd hm (hno d hi)).swap

/-- A page that is being evicted is marked as migrating once more. -/
theorem good_busy (h : Good P ((p, .busy) :: rest)) :
    Good (P.upd p fun p => { p with migrating := true }) ((p, .busy) :: rest) := by
  obtain ⟨hva, hl, hs, -⟩ := h.ok
  exact h.change_sole (by decide) (Changes.upd P p rfl rfl) (Face.base_none hl) ⟨hva, hl, hs, rfl⟩

theorem down_fine {diskpage : PageId} {reserved writeback : Bool}
    (h : Good P ((p, .busy) :: (diskpage, .frame) :: who.held ++ rest)) :
    Fine rest (down p diskpage reserved writeback who) ⟨P, M⟩ := by
  refine Fine.get_page (Fine.get_page (Fine.set_page ?_))
  split
  · exact Fine.mem (memOnly_extmem_wp_page p true) fun _ _ => Fine.pure (good_busy h)
  · exact Fine.pure (good_busy h)

theorem write_fine (h : Good P ((e.victim, .busy) :: (e.diskpage, .frame) :: who.held ++ rest)) :
    Fine rest (write e who) ⟨P, M⟩ := by
  have h' := good_busy h
  refine Fine.set_page (Fine.get_page ?_)
  refine Fine.check (Or.inr Fault.noConfusion) fun _ => Fine.get_page (Fine.get_pol ?_)
  refine Fine.check (Or.inr Fault.noConfusion) fun _ => Fine.get_pol ?_
  refine Fine.check (Or.inr Fault.noConfusion) fun _ => Fine.get_pol ?_
  refine Fine.check (Or.inr Fault.noConfusion) fun _ => Fine.get_pol ?_
  refine Fine.check (Or.inr Fault.noConfusion) fun _ => ?_
  split
  · exact Fine.get_page (Fine.mem (memOnly_extmem_disk_write _ _) fun _ _ => Fine.get_page
      (Fine.mem (memOnly_madvise_dontneed _) fun _ _ => Fine.pure h'))
  · exact Fine.get_page (Fine.mem (memOnly_madvise_dontneed _) fun _ _ => Fine.pure h')

theorem out_fine (h : Good P ((e.victim, .busy) :: (e.diskpage, .frame) :: who.held ++ rest)) :
    Fine rest (out e who) ⟨P, M⟩ :=
  Fine.set_page (Fine.pure (h.upd e.victim fun _ => rfl))

/-- An eviction sets `swapped_out`. -/
theorem good_mark (h : Good P ((p, .busy) :: rest)) :
    Good (P.upd p fun p => { p with swapped_out := true }) ((p, .marked) :: rest) := by
  obtain ⟨hva, hl, -, hm⟩ := h.ok
  exact h.change_sole (by decide) (Changes.upd P p rfl rfl) (Face.base_none hl)
    ⟨hva, Face.not_lru_none hl, rfl, hm⟩

/-- **The assertion of an eviction holds.** -/
theorem mark_fine (h : Good P ((e.victim, .busy) :: (e.diskpage, .frame) :: who.held ++ rest)) :
    Fine rest (mark e who) ⟨P, M⟩ := by
  refine Fine.get_page (Fine.check (Or.inl h.ok.2.2.1) fun _ => Fine.set_page (Fine.get_page ?_))
  refine Fine.check (Or.inr Fault.noConfusion) fun _ => ?_
  split
  · exact Fine.pure (good_mark h)
  case isFalse hr =>
    refine Fine.pure ?_
    show Good _ ((e.victim, .marked) ::
      (spareHeld (!e.reserved || who.isInline) e.diskpage ++ who.held) ++ rest)
    rw [eq_false_of_ne_true hr]
    exact good_mark h

/-- The frame goes to `dram_free_list`, or stays with the caller of `fetch_free_asynch`. -/
theorem hand_back_fine {pc : Pc}
    (h : Good P ((e.victim, .marked) :: (e.diskpage, .frame) :: who.held ++ rest))
    (hpc : pc.held = (e.victim, .marked) :: (spareHeld who.isInline e.diskpage ++ who.held)) :
    Fine rest (if who.isInline = false then do
      enqueue_fifo .dram_free_list e.diskpage
      pure pc else pure pc) ⟨P, M⟩ := by
  cases hin : who.isInline with
  | true =>
      rw [hin] at hpc
      rw [if_neg Bool.noConfusion]
      refine Fine.pure ?_
      rw [hpc]
      exact h
  | false =>
      rw [hin] at hpc
      rw [if_pos rfl]
      refine Fine.enqueue_fifo fun hl => Fine.pure ?_
      rw [hpc]
      exact good_put (q := .dram_free_list) h.swap hl rfl

theorem return_frame_fine
    (h : Good P ((e.victim, .marked) :: (e.diskpage, .frame) :: who.held ++ rest)) :
    Fine rest (return_frame e who) ⟨P, M⟩ := by
  unfold return_frame
  split
  case isTrue hr =>
    refine Fine.set_page (Fine.set_page (hand_back_fine ?_ ?_))
    · exact (h.upd e.diskpage fun _ => rfl).upd e.victim fun _ => rfl
    · simp only [Pc.held, hr, Bool.not_true, Bool.false_or]
  · exact Fine.set_page (hand_back_fine (h.upd e.diskpage fun _ => rfl) rfl)

/-- The victim goes to `disk_active_list`. -/
theorem good_to_disk (h : Good P ((p, .marked) :: rest)) (hl : (P.face p).list = none) :
    Good (P.enq .disk_active_list p) ((p, .marked) :: rest) := by
  obtain ⟨hva, -, hs, hm⟩ := h.ok
  exact h.change_sole (by decide) (Changes.enq .disk_active_list hl) (Face.base_disk rfl hva)
    ⟨hva, Face.not_lru rfl rfl, hs, hm⟩

theorem to_disk_fine (h : Good P ((e.victim, .marked) ::
      (spareHeld (!e.reserved || who.isInline) e.diskpage ++ who.held) ++ rest)) :
    Fine rest (to_disk e who) ⟨P, M⟩ := by
  have hs : (P.page e.victim).swapped_out = true := h.ok.2.2.1
  unfold to_disk
  cases hr : e.reserved with
  | true =>
      rw [hr] at h
      rw [if_neg fun hc => Bool.noConfusion hc.2]
      exact Fine.enqueue_fifo fun hl => Fine.pure (good_to_disk h hl)
  | false =>
      rw [hr] at h
      by_cases hin : who.isInline = true ∧ false = false
      · rw [if_pos hin]
        refine Fine.get_page (Fine.check (Or.inl hs) fun _ => ?_)
        exact Fine.enqueue_fifo fun hl => Fine.pure (good_to_disk h hl)
      · rw [if_neg hin]
        exact Fine.enqueue_fifo fun hl => Fine.pure (good_to_disk h hl)

theorem evicted_fine
    (h : Good P ((e.victim, .marked) :: (spareHeld who.isInline e.diskpage ++ who.held) ++ rest)) :
    Fine rest (evicted e who) ⟨P, M⟩ := by
  unfold evicted
  split
  · exact Fine.pure h
  · refine Fine.get_page (Fine.check (Or.inr Fault.noConfusion) fun _ => Fine.get_page ?_)
    exact Fine.check (Or.inl h.ok.2.2.1) fun _ => Fine.pure h

theorem evict_next_held (diskpage : PageId) (who : Evictor) :
    (evict_next diskpage who).held = spareHeld who.isInline diskpage ++ who.held := by
  cases who with
  | worker => rfl
  | vector victims => rfl
  | inline use => rfl

theorem release_fine
    (h : Good P ((e.victim, .marked) :: (spareHeld who.isInline e.diskpage ++ who.held) ++ rest)) :
    Fine rest (release e who) ⟨P, M⟩ := by
  obtain ⟨hva, hlru, hs, -⟩ := h.ok
  have hc := Changes.upd P e.victim (f := fun p => { p with migrating := false }) rfl rfl
  have hbase := (h.base e.victim).reflag hlru (P.face e.victim).swapped_out false
  refine Fine.set_page ?_
  split
  · refine Fine.pure ?_
    rw [evict_next_held]
    exact h.release_sole (by decide) hc hbase
  · exact Fine.pure (h.change_sole (by decide) hc hbase ⟨hva, hs⟩)

/-- The last assignment changes nothing. -/
theorem settle_fine
    (h : Good P ((e.victim, .stale) :: (spareHeld who.isInline e.diskpage ++ who.held) ++ rest)) :
    Fine rest (settle e who) ⟨P, M⟩ := by
  refine Fine.set_page (Fine.pure ?_)
  rw [evict_next_held]
  refine h.tail.upd e.victim fun b => ?_
  have hs : (P.page e.victim).swapped_out = true := h.ok.2
  unfold UserPage.face
  rw [hs]

/-! ## Batches -/

/-- The victims that have come off the list. -/
theorem dequeue_vector_ends (q : ListId) (hq : q.lru = true) (n : ℕ) :
    ∀ {P : Policy} {M : Mem Unit} {rest : List (PageId × Hold)}, Good P rest →
      (∀ i ∈ (P.lists q).take n, (P.face i).migrating = false) →
      Ends ((dequeue_fifo_vector q n).run ⟨P, M⟩)
        (fun victims s' => Good s'.pol (victims.map (·, .taken) ++ rest)) (· ≠ .swapped_out) := by
  induction n with
  | zero => exact fun h _ => h
  | succ n ih =>
      intro P M rest h hmig
      unfold dequeue_fifo_vector
      rcases hl : P.lists q with _ | ⟨i, l⟩
      · rw [run_bind_ok (run_dequeue_fifo_nil hl)]
        exact h
      · rw [run_bind_ok (run_dequeue_fifo_cons hl)]
        rw [hl, List.take_succ_cons] at hmig
        obtain ⟨hi, hmig⟩ := List.forall_mem_cons.1 hmig
        have hon : (P.face i).list = some q :=
          (h.tidy.linked.mem_iff q i).1 (by rw [hl]; exact List.mem_cons_self)
        have h' := h.take_page hon hq hi (Or.inr rfl)
        have hl' : (P.unlink q i).lists q = l := by
          simp [Policy.unlink, hl]
        have hface : ∀ j, ((P.unlink q i).face j).migrating = (P.face j).migrating := by
          intro j
          rw [(Changes.unlink hon).face]
          by_cases hj : j = i
          · rw [hj, Function.update_self]
          · rw [Function.update_of_ne hj]
        refine Ends.bind (ih h' fun j hj => ?_) fun victims s' hs => ?_
        · rw [hl'] at hj
          rw [hface]
          exact hmig j hj
        · exact hs.perm List.perm_middle

theorem vector_prepare_fine {victims : List PageId} {done : List Victim}
    (h : Good P ((victims.map (·, .taken) ++ done.map fun v => (v.page, .busy)) ++ rest)) :
    Fine rest (vector_prepare victims done) ⟨P, M⟩ := by
  cases victims with
  | nil =>
      refine Fine.pure ?_
      show Good P ((done.map fun v => (v.page, .busy)) ++ [] ++ rest)
      rw [List.append_nil]
      exact h
  | cons victim victims => exact Fine.set_page (Fine.get_page (Fine.pure (good_evict h)))

theorem vector_protect_fine {old_offset : ℕ} {victims : List PageId} {done : List Victim}
    (h : Good P ((p, .busy) ::
      (victims.map (·, .taken) ++ done.map fun v => (v.page, .busy)) ++ rest)) :
    Fine rest (vector_protect p old_offset victims done) ⟨P, M⟩ := by
  refine Fine.mem (memOnly_extmem_wp_page p true) fun _ _ => ?_
  refine Fine.mem (memOnly_pt_get_bits p) fun bits _ => Fine.get_page (Fine.pure (h.perm ?_))
  simp only [Pc.held, List.map_append, List.map_cons, List.map_nil, List.append_assoc,
    List.cons_append, List.nil_append]
  exact List.perm_middle.symm.trans (List.Perm.append_left _ List.perm_middle.symm)

theorem victimsHeld_append (k : Hold) (victims : List Victim) (v : Victim) :
    victimsHeld k (victims ++ [v]) = victimsHeld k victims ++ [(v.page, k), (v.diskpage, .frame)] := by
  unfold victimsHeld
  rw [List.flatMap_append]
  rfl

/-- A victim has got its disk page. -/
theorem good_diskpage {v : Victim} {victims done : List Victim} {d : PageId}
    (h : Good P ((d, .frame) ::
      (((v :: victims).map fun v => (v.page, .busy)) ++ victimsHeld .busy done ++ rest))) :
    Good P ((Pc.vector_diskpages victims (done ++ [{ v with diskpage := d }])).held ++ rest) := by
  refine h.perm ?_
  simp only [Pc.held, victimsHeld_append, List.map_cons, List.append_assoc, List.cons_append]
  refine (List.Perm.swap _ _ _).trans ?_
  refine (List.perm_append_comm_assoc [(v.page, Hold.busy), (d, Hold.frame)] _ _).trans ?_
  exact List.Perm.append_left _ (List.perm_append_comm_assoc [(v.page, Hold.busy), (d, Hold.frame)] _ _)

theorem vector_diskpages_fine {victims done : List Victim}
    (h : Good P (((victims.map fun v => (v.page, .busy)) ++ victimsHeld .busy done) ++ rest))
    (hno : ∀ i, (P.lists .disk_free_list).head? = some i →
      (i, .freed) ∉ ((victims.map fun v => (v.page, .busy)) ++ victimsHeld .busy done) ++ rest) :
    Fine rest (vector_diskpages victims done) ⟨P, M⟩ := by
  cases victims with
  | nil => exact Fine.pure h
  | cons v victims =>
      refine Fine.get_page ?_
      split
      · refine Fine.detach_reserve h.tidy Fault.noConfusion fun d hd => Fine.pure ?_
        exact good_diskpage (h.take_frame hd rfl fun _ => rfl)
      · refine Fine.dequeue_fifo h.tidy (Fine.throw Fault.noConfusion) fun d hd hi => ?_
        refine Fine.get_page (Fine.check (Or.inr Fault.noConfusion) fun _ => Fine.pure ?_)
        exact good_diskpage (h.take_frame hd rfl fun hm => absurd hm (hno d hi))

theorem vector_write_fine {victims : List Victim} (h : Good P (victimsHeld .busy victims ++ rest)) :
    Fine rest (vector_write victims) ⟨P, M⟩ :=
  Fine.mem (memOnly_vector_write victims) fun _ _ =>
    Fine.mem (memOnly_vector_discard victims) fun _ _ => Fine.pure h

/-- **The assertions of a batch hold.** -/
theorem vector_mark_ends (victims : List Victim) :
    ∀ {P : Policy} {rest : List (PageId × Hold)}, Good P (victimsHeld .busy victims ++ rest) →
      Ends ((downdisk_vector_mark victims).run ⟨P, M⟩)
        (fun _ s' => Good s'.pol (victimsHeld .marked victims ++ rest)) (· ≠ .swapped_out) := by
  induction victims with
  | nil => exact fun h => h
  | cons v victims ih =>
      intro P rest h
      have hs : (P.page v.page).swapped_out = false := h.ok.2.2.1
      have h' := good_mark h
      unfold downdisk_vector_mark
      rw [run_bind_ok (run_get_page _ _), run_check_bind hs, run_bind_ok (run_set_page _ _ _),
        run_bind_ok (run_get_page _ _)]
      refine Ends.check_bind (fun _ => Fault.noConfusion) fun _ => ?_
      -- the victim and its disk page wait at the end of the list
      have hp : ((v.page, Hold.marked) :: (v.diskpage, .frame) :: (victimsHeld .busy victims ++ rest)).Perm
          (victimsHeld .busy victims ++ ((v.page, .marked) :: (v.diskpage, .frame) :: rest)) :=
        List.perm_append_comm_assoc [(v.page, Hold.marked), (v.diskpage, Hold.frame)] _ _
      refine (ih (h'.perm hp)).mono (fun _ s' hs' => ?_) fun _ => id
      exact hs'.perm (List.perm_append_comm_assoc _ [(v.page, Hold.marked), (v.diskpage, Hold.frame)] _)

theorem vector_mark_fine {victims : List Victim} (h : Good P (victimsHeld .busy victims ++ rest)) :
    Fine rest (vector_mark victims) ⟨P, M⟩ :=
  Ends.bind (vector_mark_ends victims h) fun _ _ hs => hs

theorem vector_track_fine {victims : List Victim} (h : Good P (victimsHeld .marked victims ++ rest)) :
    Fine rest (vector_track victims) ⟨P, M⟩ := by
  cases victims with
  | nil => exact Fine.pure h
  | cons v victims =>
      refine Fine.get_page ?_
      cases hr : (P.page v.page).has_reserve with
      | true => exact Fine.pure h
      | false =>
          exact Fine.get_page (Fine.check (Or.inr Fault.noConfusion) fun _ => Fine.pure h)

/-! ## First faults -/

theorem insert_fine {page_boundry : ℕ} (h : Good P ((p, .frame) :: rest)) :
    Fine rest (insert page_boundry p) ⟨P, M⟩ := by
  refine Fine.find_page ?_
  split
  · exact Fine.pure h
  case h_2 hnone =>
    refine Fine.set_page (Fine.get_page (Fine.check (Or.inr Fault.noConfusion) fun _ => ?_))
    refine Fine.set_page (Fine.get_page (Fine.check (Or.inr Fault.noConfusion) fun hva => ?_))
    refine Fine.get_page (Fine.check (Or.inr Fault.noConfusion) fun _ => ?_)
    unfold add_page
    simp only [bind_assoc]
    refine Fine.get_page (Fine.get_pol (Fine.check (Or.inr Fault.noConfusion) fun _ => ?_))
    refine Fine.modify_pol (Fine.pure ?_)
    simp only [Policy.upd, Function.update_self, Function.update_idem] at hva ⊢
    exact h.insert hva hnone rfl rfl rfl rfl rfl rfl rfl

theorem put_free_fine {page : PageId} (h : Good P ((p, .frame) :: rest)) :
    Fine rest (put_free p page) ⟨P, M⟩ := by
  unfold put_free lrudisk_put_page_free
  simp only [bind_assoc]
  refine Fine.get_page (Fine.check (Or.inr Fault.noConfusion) fun _ => Fine.get_page ?_)
  refine Fine.check (Or.inr Fault.noConfusion) fun _ => Fine.enqueue_fifo fun hl => Fine.pure ?_
  exact good_put h hl rfl

theorem map_fine (h : Good P ((p, .fresh) :: rest)) : Fine rest (map p) ⟨P, M⟩ := by
  refine Fine.get_page (Fine.check (Or.inr Fault.noConfusion) fun _ => Fine.get_page ?_)
  refine Fine.mem (memOnly_uffdio_copy _) fun _ _ => ?_
  exact Fine.check (Or.inr Fault.noConfusion) fun _ => Fine.pure h

theorem first_migrating_fine (h : Good P ((p, .fresh) :: rest)) :
    Fine rest (first_migrating p) ⟨P, M⟩ := by
  obtain ⟨hva, hl, hs, -⟩ := h.ok
  refine Fine.set_page (Fine.pure ?_)
  exact h.change_sole (by decide) (Changes.upd P p rfl rfl) (Face.base_none hl) ⟨hva, hl, hs⟩

theorem first_swapped_out_fine (h : Good P ((p, .loose) :: rest)) :
    Fine rest (first_swapped_out p) ⟨P, M⟩ := by
  refine Fine.set_page (Fine.pure (h.upd p fun b => ?_))
  have hs : (P.page p).swapped_out = false := h.ok.2.2
  unfold UserPage.face
  rw [hs]

theorem track_fine (h : Good P ((p, .loose) :: rest)) : Fine rest (track p) ⟨P, M⟩ := by
  unfold track lrudisk_track_page
  simp only [bind_assoc]
  refine Fine.get_page (Fine.check (Or.inr Fault.noConfusion) fun _ => ?_)
  refine Fine.enqueue_fifo fun hl => Fine.modify_pol (Fine.pure ?_)
  exact (good_track h hl rfl).same (Same.account _ _ _)

/-! ## Removals -/

theorem munmap_fine (h : Good P rest) : Fine rest (munmap u) ⟨P, M⟩ := by
  unfold munmap
  split
  · exact Fine.pure h
  · refine Fine.find_page ?_
    split
    · exact Fine.pure h
    case h_2 page hpage => exact Fine.pure (h.know hpage)

/-- The page is not migrating, and nobody is about to assign its flags: no eviction has taken it,
none has its last assignment left, and neither has a hit of the prefetch cache. -/
def AtRest (P : Policy) (held : List (PageId × Hold)) (p : PageId) : Prop :=
  (P.page p).migrating = false ∧ (p, .taken) ∉ held ∧ (p, .stale) ∉ held ∧ (p, .trailing) ∉ held

instance (P : Policy) (held : List (PageId × Hold)) (p : PageId) : Decidable (AtRest P held p) :=
  inferInstanceAs (Decidable (_ ∧ _ ∧ _ ∧ _))

theorem AtRest.unmap (hrest : AtRest P ((p, .known) :: rest) p) (h : Good P ((p, .known) :: rest)) :
    Good (P.upd p fun p => { p with migrating := true }) ((p, .removing) :: rest) := by
  obtain ⟨hm, htaken, hstale, htrail⟩ := hrest
  exact h.tail.unmap h.ok hm (fun hx => htaken (List.mem_cons_of_mem _ hx))
    (fun hx => hstale (List.mem_cons_of_mem _ hx)) fun hx => htrail (List.mem_cons_of_mem _ hx)

theorem unmap_claim_fine (h : Good P ((p, .known) :: rest))
    (hrest : (P.page p).migrating = false → AtRest P ((p, .known) :: rest) p) :
    Fine rest (unmap_claim p u) ⟨P, M⟩ := by
  refine Fine.get_page ?_
  split
  · exact Fine.pure h
  case isFalse hm =>
    exact Fine.set_page (Fine.pure ((hrest (eq_false_of_ne_true hm)).unmap h))

theorem unmap_spin_fine (h : Good P ((p, .known) :: rest)) : Fine rest (unmap_spin p u) ⟨P, M⟩ := by
  refine Fine.get_page ?_
  split
  · exact Fine.pure h
  · exact Fine.pure h

theorem unmap_relock_fine (h : Good P ((p, .known) :: rest))
    (hrest : AtRest P ((p, .known) :: rest) p) : Fine rest (unmap_relock p u) ⟨P, M⟩ :=
  Fine.set_page (Fine.pure (hrest.unmap h))

theorem remove_index_fine (h : Good P ((p, .removing) :: rest)) :
    Fine rest (remove_index p u) ⟨P, M⟩ := by
  unfold remove_index remove_page
  simp only [bind_assoc]
  exact Fine.get_page (Fine.modify_pol (Fine.pure h.unindex))

theorem remove_migrating_fine (h : Good P ((p, .unindexed) :: rest)) :
    Fine rest (remove_migrating p u) ⟨P, M⟩ := by
  refine Fine.set_page (Fine.pure (h.upd p fun b => ?_))
  have hm : (P.page p).migrating = true := h.ok.2.1
  unfold UserPage.face
  rw [hm]

theorem remove_list_fine (h : Good P ((p, .unindexed) :: rest)) :
    Fine rest (remove_list p u) ⟨P, M⟩ := by
  obtain ⟨hva, hm, hx⟩ := h.ok
  refine Fine.get_page (Fine.tryremove h.tidy (fun ret hret => ?_) fun q _ hl => ?_)
  · rw [if_neg hret]
    exact Fine.pure h
  · refine Fine.pure (h.change (Changes.unlink hl) (Face.base_none rfl) ⟨hva, hm, hx, rfl⟩
      fun k₂ hne _ hf ho => ?_)
    -- a page that is on a list is not in the hands of a scan
    rw [Hold.eq_loose (Or.inr rfl) hf hne] at ho
    exact absurd (hl.symm.trans ho.2.1) nofun

theorem remove_va_fine (h : Good P ((p, .removed) :: rest)) (hno : (p, .known) ∉ rest) :
    Fine rest (remove_va p u) ⟨P, M⟩ :=
  Fine.set_page (Fine.pure (h.clear hno rfl rfl))

theorem remove_backing_fine (h : Good P ((p, .cleared) :: rest)) :
    Fine rest (remove_backing p u) ⟨P, M⟩ := by
  refine Fine.get_page ?_
  split
  · refine Fine.get_page ?_
    split
    · refine Fine.detach_reserve h.tidy Fault.noConfusion fun d hd => Fine.pure ?_
      exact h.take_frame hd rfl fun _ => rfl
    · exact Fine.pure h
  · refine Fine.get_page ?_
    split
    · exact Fine.set_page (Fine.pure (h.upd p fun _ => rfl))
    · exact Fine.throw Fault.noConfusion

theorem remove_reserve_fine {reserve_page : PageId}
    (h : Good P ((reserve_page, .frame) :: (p, .cleared) :: rest)) :
    Fine rest (remove_reserve p reserve_page u) ⟨P, M⟩ := by
  refine Fine.set_page (Fine.enqueue_fifo fun hl => Fine.set_page (Fine.pure ?_))
  exact (good_put (h.upd reserve_page fun _ => rfl) hl rfl).upd p fun _ => rfl

theorem remove_free_fine {in_dram : Bool} (h : Good P ((p, .cleared) :: rest)) :
    Fine rest (remove_free p in_dram u) ⟨P, M⟩ := by
  refine Fine.enqueue_fifo fun hl => Fine.pure ?_
  cases in_dram with
  | true =>
      exact h.change_sole (by decide) (Changes.enq .dram_free_list hl)
        (Face.base_spare rfl rfl h.ok.1) (Or.inl rfl)
  | false =>
      exact h.change_sole (by decide) (Changes.enq .disk_free_list hl)
        (Face.base_spare rfl rfl h.ok.1) (Or.inr rfl)

theorem remove_done_fine (h : Good P ((p, .freed) :: rest)) :
    Fine rest (remove_done p u) ⟨P, M⟩ := by
  have hbase : Face.Base { P.face p with migrating := false } := by
    rcases h.ok with hl | hl
    · exact Face.base_spare hl rfl ((h.base p).spare _ hl rfl)
    · exact Face.base_spare hl rfl ((h.base p).spare _ hl rfl)
  have hc := Changes.upd P p (f := fun p => { p with migrating := false }) rfl rfl
  refine Fine.set_page (Fine.modify_pol (Fine.pure ?_))
  exact (h.release_sole (by decide) hc hbase).same (Same.account _ _ _)

theorem unmapped_fine (h : Good P rest) : Fine rest (unmapped u) ⟨P, M⟩ :=
  Fine.mem (memOnly_libc_munmap _ _) fun _ _ => Fine.pure h

end Threads

end SwapPrefetch
