/-
The asynchronous swap-in against the synchronous one.

The two routines do the same steps in another order: the synchronous one searches a frame
and then detaches the page from `disk_active_list`, the asynchronous one detaches it first.
The search neither reads the struct of a page that is parked there nor counts that list, so
it commutes with the detaching (`fetch_free_asynch_skips`), and both routines reach the same
state before the transfer.

They differ in the transfer. Without io_uring no half of the asynchronous one reads the
store, so what it maps is the buffer of the thread.
-/
import Mathlib.Tactic
import SwapPrefetch.Commute
import SwapPrefetch.Runs

set_option autoImplicit false

namespace SwapPrefetch

open Prog

variable {α : Type}

/-! ## Taking a parked page off its list -/

/-- Take `p` off `disk_active_list`. -/
def State.detach (p : PageId) (s : State α) : State α :=
  { s with pol := s.pol.unlink .disk_active_list p }

/-- `p` is on `disk_active_list` and on no other list. -/
structure Parked (p : PageId) (s : State α) : Prop where
  list : (s.pol.page p).list = some .disk_active_list
  mem : p ∈ s.pol.lists .disk_active_list
  others : ∀ q, q ≠ .disk_active_list → p ∉ s.pol.lists q

theorem Inv.parked {s : State α} (h : Inv s.pol) {p : PageId}
    (hl : (s.pol.page p).list = some .disk_active_list) : Parked p s := by
  refine ⟨hl, (h.mem_iff _ _).2 hl, fun q hq hm => hq ?_⟩
  exact Option.some.inj ((h.list_of_mem hm).symm.trans hl)

namespace Policy

variable (P : Policy) {i p : PageId} (q q' : ListId)

theorem upd_unlink (h : i ≠ p) (f : UserPage → UserPage) :
    (P.unlink q p).upd i f = (P.upd i f).unlink q p := by
  simp only [upd, unlink, Function.update_of_ne h, Function.update_of_ne h.symm,
    Function.update_comm h]

theorem enq_unlink (h : i ≠ p) (hp : p ∈ P.lists q') :
    (P.unlink q' p).enq q i = (P.enq q i).unlink q' p := by
  have hlists : Function.update (Function.update P.lists q' ((P.lists q').erase p)) q
        (Function.update P.lists q' ((P.lists q').erase p) q ++ [i])
      = Function.update (Function.update P.lists q (P.lists q ++ [i])) q'
        ((Function.update P.lists q (P.lists q ++ [i]) q').erase p) := by
    rcases eq_or_ne q q' with rfl | hq
    · simp [List.erase_append_left _ hp]
    · rw [Function.update_of_ne hq, Function.update_of_ne hq.symm, Function.update_comm hq]
  simp only [enq, unlink, hlists, Function.update_of_ne h, Function.update_of_ne h.symm,
    Function.update_comm h]

theorem unlink_unlink (h : i ≠ p) :
    (P.unlink q' p).unlink q i = (P.unlink q i).unlink q' p := by
  have hlists : Function.update (Function.update P.lists q' ((P.lists q').erase p)) q
        ((Function.update P.lists q' ((P.lists q').erase p) q).erase i)
      = Function.update (Function.update P.lists q ((P.lists q).erase i)) q'
        ((Function.update P.lists q ((P.lists q).erase i) q').erase p) := by
    rcases eq_or_ne q q' with rfl | hq
    · simp [List.erase_comm]
    · rw [Function.update_of_ne hq, Function.update_of_ne hq.symm, Function.update_comm hq]
  simp only [unlink, hlists, Function.update_of_ne h, Function.update_of_ne h.symm,
    Function.update_comm h]

end Policy

namespace Parked

variable {p i : PageId} {s : State α}

theorem upd (h : Parked p s) (hi : i ≠ p) (f : UserPage → UserPage) :
    Parked p { s with pol := s.pol.upd i f } :=
  ⟨by rw [Policy.upd_page_ne _ _ hi.symm]; exact h.list, h.mem, h.others⟩

theorem enq (h : Parked p s) (hi : i ≠ p) (q : ListId) :
    Parked p { s with pol := s.pol.enq q i } := by
  refine ⟨by rw [Policy.enq_page_ne _ _ hi.symm]; exact h.list, ?_, fun q' hq' => ?_⟩
  · rcases eq_or_ne .disk_active_list q with rfl | hq
    · simp [h.mem]
    · rw [Policy.enq_lists_ne _ _ hq]
      exact h.mem
  · rcases eq_or_ne q' q with rfl | hq
    · simp [h.others q' hq', hi.symm]
    · rw [Policy.enq_lists_ne _ _ hq]
      exact h.others q' hq'

theorem unlink (h : Parked p s) (hi : i ≠ p) (q : ListId) :
    Parked p { s with pol := s.pol.unlink q i } := by
  refine ⟨by rw [Policy.unlink_page_ne _ _ hi.symm]; exact h.list, ?_, fun q' hq' => ?_⟩
  · rcases eq_or_ne .disk_active_list q with rfl | hq
    · simpa [List.mem_erase_of_ne hi.symm] using h.mem
    · rw [Policy.unlink_lists_ne _ _ hq]
      exact h.mem
  · rcases eq_or_ne q' q with rfl | hq
    · simpa [List.mem_erase_of_ne hi.symm] using h.others q' hq'
    · rw [Policy.unlink_lists_ne _ _ hq]
      exact h.others q' hq'

end Parked

/-! ## Routines that do not notice -/

/-- `m` does the same whether or not the parked page `p` has been detached. -/
abbrev Skips {β : Type} (p : PageId) (m : Proc α β) (Q : β → Prop) : Prop :=
  Commutes (State.detach p) (Parked p) m Q

section Primitives

variable {p : PageId} {β : Type} {Q : β → Prop}

theorem skips_get_page {i : PageId} (hi : i ≠ p) :
    Skips p (get_page i : Proc α UserPage) fun _ => True :=
  Commutes.read (fun s => s.pol.page i) (fun s => run_get_page s i)
    (fun s _ => Policy.unlink_page_ne s.pol _ hi) fun _ _ => trivial

theorem skips_set_page {i : PageId} (hi : i ≠ p) (f : UserPage → UserPage) :
    Skips p (set_page i f : Proc α Unit) fun _ => True :=
  Commutes.write (fun s => { s with pol := s.pol.upd i f }) (fun s => run_set_page s i f)
    (fun s _ => by simp only [State.detach, Policy.upd_unlink _ _ hi]) (fun _ h => h.upd hi f)
    trivial

theorem skips_modify_mem (f : Mem α → Mem α) : Skips p (modify_mem f) fun _ => True := by
  refine Commutes.write (fun s => { s with mem := f s.mem }) (fun s => run_modify_mem s f)
    ?_ ?_ trivial
  · exact fun _ _ => rfl
  · exact fun _ h => ⟨h.list, h.mem, h.others⟩

theorem skips_get_mem : Skips p (get_mem : Proc α (Mem α)) fun _ => True :=
  Commutes.read (fun s => s.mem) run_get_mem (fun _ _ => rfl) fun _ _ => trivial

/-- A field of the policy that is not about structs or lists. -/
theorem skips_get_pol {f : Policy → Proc α β} (hf : ∀ P, f (P.unlink .disk_active_list p) = f P)
    (h : ∀ P, Skips p (f P) Q) : Skips p (get_pol >>= f) Q := by
  intro s hs
  obtain ⟨hrun, hends⟩ := h s.pol s hs
  refine ⟨?_, hends⟩
  rw [run_bind_ok (run_get_pol _), run_bind_ok (run_get_pol _)]
  exact (congrArg (fun m => m.run (State.detach p s)) (hf s.pol)).trans hrun

theorem skips_numentries {q : ListId} (hq : q ≠ .disk_active_list) :
    Skips p (numentries q : Proc α ℕ) fun _ => True :=
  Commutes.read (fun s => (s.pol.lists q).length) (fun s => run_numentries s q)
    (fun s _ => by simp only [State.detach, Policy.unlink_lists_ne _ _ hq]) fun _ _ => trivial

theorem skips_enqueue_fifo {i : PageId} (hi : i ≠ p) (q : ListId) :
    Skips p (enqueue_fifo q i : Proc α Unit) fun _ => True := by
  refine (skips_get_page hi).bind fun _ _ => Commutes.check_bind fun _ => ?_
  exact Commutes.write (fun s : State α => { s with pol := s.pol.enq q i }) (fun _ => rfl)
    (fun s hs => by simp only [State.detach, Policy.enq_unlink _ _ _ hi hs.mem])
    (fun _ h => h.enq hi q) trivial

theorem skips_unlink {i : PageId} (hi : i ≠ p) (q : ListId) :
    Skips p (modify_pol fun s => s.unlink q i : Proc α Unit) fun _ => True :=
  Commutes.write (fun s : State α => { s with pol := s.pol.unlink q i }) (fun _ => rfl)
    (fun s _ => by simp only [State.detach, Policy.unlink_unlink _ _ _ hi])
    (fun _ h => h.unlink hi q) trivial

theorem skips_dequeue_fifo {q : ListId} (hq : q ≠ .disk_active_list) :
    Skips p (dequeue_fifo q : Proc α (Option PageId)) fun r => ∀ i, r = some i → i ≠ p := by
  intro s hs
  have hD : (s.detach p).pol.lists q = s.pol.lists q := Policy.unlink_lists_ne _ _ hq
  rcases hl : s.pol.lists q with _ | ⟨i, rest⟩
  · exact .of_ok (run_dequeue_fifo_nil hl) (run_dequeue_fifo_nil (hD.trans hl))
      (fun i hi => (nomatch hi)) hs
  · have hi : i ≠ p := by
      rintro rfl
      exact hs.others q hq (by simp [hl])
    refine .of_ok (run_dequeue_fifo_cons hl) ?_ (fun j hj => Option.some.inj hj ▸ hi)
      (hs.unlink hi q)
    rw [run_dequeue_fifo_cons (hD.trans hl)]
    simp only [State.detach, Policy.unlink_unlink _ _ _ hi]

/-- The block that takes a reserve off its list: a parked page is never the reserve. -/
theorem skips_detach_reserve {v : PageId} (hv : v ≠ p) (stuck : Fault) :
    Skips p (detach_reserve v stuck : Proc α PageId) fun d => d ≠ p := by
  refine (skips_get_page hv).bind fun x _ => ?_
  rcases x.reserve with _ | d
  · exact Commutes.throw _
  · intro s hs
    rcases eq_or_ne d p with rfl | hd
    · -- the list of the parked page is asserted to be another one
      by_cases hback : (s.pol.page d).reserve = some v
      · refine .of_error (e := .reserve_link) ?_ ?_ <;> simp [State.detach, hback, hs.list]
      · refine .of_error (e := .reserve_link) ?_ ?_ <;> simp [State.detach, hback]
    · refine ((skips_get_page hd).bind fun y _ => Commutes.check_bind fun _ =>
        (skips_get_page hd).bind fun z _ => Commutes.check_bind fun hz => ?_) s hs
      simp only [hz]
      refine Commutes.bind (Q := fun _ => True) ((skips_get_page hd).bind fun w _ =>
        Commutes.ite (Commutes.pure trivial) ?_) fun ret _ => Commutes.check_bind fun _ =>
        Commutes.pure hd
      refine skips_get_pol (fun P => ?_) fun P => Commutes.ite (Commutes.pure trivial) ?_
      · simp only [Policy.unlink_lists_ne P p
          (show ListId.disk_reserve_list ≠ .disk_active_list by decide)]
      · exact (skips_unlink hd _).bind fun _ _ => Commutes.pure trivial

end Primitives

/-! ## The page table and the store -/

section Contents

variable {p i : PageId}

theorem skips_app_turn : Skips p (app_turn : Proc α Unit) fun _ => True := skips_modify_mem _

theorem skips_pt_get_bits (hi : i ≠ p) :
    Skips p (pt_get_bits i : Proc α (Bool × Bool)) fun _ => True := by
  refine skips_app_turn.bind fun _ _ => (skips_get_page hi).bind fun x _ =>
    Commutes.check_bind fun _ => skips_get_mem.bind fun m _ => ?_
  rcases m.pte x.va with _ | e <;> exact Commutes.pure trivial

theorem skips_pt_clear_accessed_flag (hi : i ≠ p) :
    Skips p (pt_clear_accessed_flag i : Proc α Unit) fun _ => True := by
  refine skips_app_turn.bind fun _ _ => (skips_get_page hi).bind fun x _ =>
    Commutes.check_bind fun _ => skips_get_mem.bind fun m _ => ?_
  rcases m.pte x.va with _ | e
  · exact Commutes.pure trivial
  · exact skips_modify_mem _

theorem skips_extmem_wp_page (hi : i ≠ p) (b : Bool) :
    Skips p (extmem_wp_page i b : Proc α Unit) fun _ => True := by
  refine skips_app_turn.bind fun _ _ => (skips_get_page hi).bind fun x _ =>
    Commutes.check_bind fun _ => Commutes.check_bind fun _ => skips_get_mem.bind fun m _ => ?_
  rcases m.pte x.va with _ | e
  · exact Commutes.pure trivial
  · exact skips_modify_mem _

theorem skips_madvise_dontneed (va : ℕ) :
    Skips p (madvise_dontneed va : Proc α Unit) fun _ => True := by
  refine skips_app_turn.bind fun _ _ => skips_get_mem.bind fun m _ => ?_
  rcases m.pte va with _ | e
  · exact Commutes.pure trivial
  · exact skips_modify_mem _

theorem skips_extmem_disk_write (va dest : ℕ) :
    Skips p (extmem_disk_write va dest : Proc α Unit) fun _ => True := by
  refine skips_app_turn.bind fun _ _ => skips_get_mem.bind fun m _ => ?_
  rcases m.pte va with _ | e
  · exact Commutes.throw _
  · refine Commutes.bind (Q := fun _ => True) (skips_get_mem.bind fun m _ =>
      (skips_modify_mem _).bind fun _ _ => Commutes.pure trivial) fun fails _ => ?_
    exact Commutes.ite (Commutes.pure trivial) (skips_modify_mem _)

end Contents

/-! ## The search for a frame -/

section Search

variable {p i : PageId}

theorem skips_shrinkage_running (b : Bool) :
    Skips p (modify_pol fun s => { s with shrinkage_running := b } : Proc α Unit)
      fun _ => True := by
  refine Commutes.write (fun s => { s with pol := { s.pol with shrinkage_running := b } })
    (fun s => run_modify_pol s _) ?_ ?_ trivial
  · exact fun _ _ => rfl
  · exact fun _ h => ⟨h.list, h.mem, h.others⟩

theorem skips_shrink_active_loop (nr_pages left ret : ℕ) :
    Skips p (shrink_active_loop nr_pages left ret : Proc α ℕ) fun _ => True := by
  induction left generalizing ret with
  | zero => exact Commutes.pure trivial
  | succ left ih =>
      refine (skips_numentries (by decide)).bind fun n _ => Commutes.ite ?_ (Commutes.pure trivial)
      refine (skips_dequeue_fifo (by decide)).bind fun r hr => ?_
      rcases r with _ | i
      · exact Commutes.throw _
      · have hi := hr i rfl
        exact (skips_set_page hi _).bind fun _ _ => (skips_enqueue_fifo hi _).bind fun _ _ =>
          ih (ret + 1)

theorem skips_shrink_active_list (nr_pages : ℕ) :
    Skips p (shrink_active_list nr_pages : Proc α ℕ) fun _ => True := by
  refine Commutes.ite (Commutes.pure trivial) ?_
  refine (skips_shrinkage_running true).bind fun _ _ =>
    (skips_numentries (by decide)).bind fun n _ =>
    (skips_shrink_active_loop _ _ _).bind fun _ _ => ?_
  exact (skips_shrinkage_running false).bind fun _ _ => Commutes.pure trivial

theorem skips_shrink_inactive_page (hi : i ≠ p) :
    Skips p (shrink_inactive_page i : Proc α Bool) fun _ => True := by
  refine (skips_pt_get_bits hi).bind fun bits _ => ?_
  refine Commutes.ite ?_ ?_
  · refine (skips_set_page hi _).bind fun _ _ => (skips_pt_clear_accessed_flag hi).bind fun _ _ =>
      (skips_get_page hi).bind fun x _ => Commutes.ite ?_ ?_
    · exact (skips_set_page hi _).bind fun _ _ => (skips_enqueue_fifo hi _).bind fun _ _ =>
        Commutes.pure trivial
    · exact (skips_enqueue_fifo hi _).bind fun _ _ => Commutes.pure trivial
  · exact (skips_set_page hi _).bind fun _ _ => (skips_enqueue_fifo hi _).bind fun _ _ =>
      Commutes.pure trivial

theorem skips_shrink_inactive_loop (nr_pages left ret : ℕ) :
    Skips p (shrink_inactive_loop nr_pages left ret : Proc α ℕ) fun _ => True := by
  induction left generalizing ret with
  | zero => exact Commutes.pure trivial
  | succ left ih =>
      refine (skips_numentries (by decide)).bind fun n _ => Commutes.ite ?_ (Commutes.pure trivial)
      refine (skips_dequeue_fifo (by decide)).bind fun r hr => ?_
      rcases r with _ | i
      · exact Commutes.throw _
      · exact (skips_shrink_inactive_page (hr i rfl)).bind fun cold _ => ih _

theorem skips_shrink_inactive_list (nr_pages : ℕ) :
    Skips p (shrink_inactive_list nr_pages : Proc α ℕ) fun _ => True := by
  refine (skips_numentries (by decide)).bind fun n _ =>
    (skips_shrinkage_running true).bind fun _ _ =>
    (skips_shrink_inactive_loop _ _ _).bind fun _ _ => ?_
  exact (skips_shrinkage_running false).bind fun _ _ => Commutes.pure trivial

theorem skips_direct_allocate_loop (nr_pages act inact rounds a b reclaimed : ℕ) :
    Skips p (direct_allocate_loop nr_pages act inact rounds a b reclaimed : Proc α ℕ)
      fun _ => True := by
  induction rounds generalizing a b reclaimed with
  | zero => exact Commutes.pure trivial
  | succ rounds ih =>
      refine Commutes.ite ?_ (Commutes.pure trivial)
      refine (skips_shrink_inactive_list _).bind fun ret _ => Commutes.ite ?_ (ih _ _ _)
      exact (skips_shrink_active_list _).bind fun _ _ => ih _ _ _

theorem skips_direct_allocate_page_asynch (nr_pages priority : ℕ) :
    Skips p (direct_allocate_page_asynch nr_pages priority : Proc α ℕ) fun _ => True :=
  (skips_numentries (by decide)).bind fun _ _ => (skips_numentries (by decide)).bind fun _ _ =>
    skips_direct_allocate_loop _ _ _ _ _ _ _

theorem skips_extmem_migrate_downdisk (hi : i ≠ p) (offset : ℕ) (writeback : Bool) :
    Skips p (extmem_migrate_downdisk i offset writeback : Proc α Unit) fun _ => True := by
  refine (skips_set_page hi _).bind fun _ _ => (skips_get_page hi).bind fun x _ =>
    Commutes.check_bind fun _ => (skips_get_page hi).bind fun y _ =>
    skips_get_pol (fun _ => rfl) fun P => Commutes.check_bind fun _ =>
    skips_get_pol (fun _ => rfl) fun P => Commutes.check_bind fun _ =>
    skips_get_pol (fun _ => rfl) fun P => Commutes.check_bind fun _ =>
    skips_get_pol (fun _ => rfl) fun P => Commutes.check_bind fun _ => ?_
  -- the same steps follow whether or not the page is written back
  have hrest : Skips p (do
      madvise_dontneed (← get_page i).va
      set_page i fun x => { x with virtual_offset := offset, in_dram := false }
      check ((← get_page i).swapped_out = false) .swapped_out
      set_page i fun x => { x with swapped_out := true }
      check ((← get_page i).migrating) .migrating : Proc α Unit) fun _ => True :=
    (skips_get_page hi).bind fun _ _ => (skips_madvise_dontneed _).bind fun _ _ =>
      (skips_set_page hi _).bind fun _ _ => (skips_get_page hi).bind fun _ _ =>
      Commutes.check_bind fun _ => (skips_set_page hi _).bind fun _ _ =>
      (skips_get_page hi).bind fun _ _ => Commutes.check trivial
  refine Commutes.ite ?_ hrest
  exact (skips_get_page hi).bind fun _ _ => (skips_extmem_disk_write _ _).bind fun _ _ => hrest

theorem skips_lrudisk_migrate_down (hi : i ≠ p) (offset : ℕ) (need_wp writeback : Bool) :
    Skips p (lrudisk_migrate_down i offset need_wp writeback : Proc α Unit) fun _ => True := by
  refine (skips_set_page hi _).bind fun _ _ => Commutes.ite ?_
    (skips_extmem_migrate_downdisk hi offset writeback)
  exact (skips_extmem_wp_page hi true).bind fun _ _ =>
    skips_extmem_migrate_downdisk hi offset writeback

theorem skips_fetch_free_evict (hi : i ≠ p) :
    Skips p (fetch_free_evict i : Proc α PageId) fun _ => True := by
  refine (skips_set_page hi _).bind fun _ _ => (skips_extmem_wp_page hi true).bind fun _ _ =>
    (skips_pt_get_bits hi).bind fun bits _ => (skips_get_page hi).bind fun x _ =>
    (skips_get_page hi).bind fun y _ => Commutes.ite ?_ ?_
  · refine (skips_detach_reserve hi _).bind fun d hd => ?_
    exact (skips_get_page hi).bind fun _ _ => (skips_get_page hd).bind fun _ _ =>
      (skips_lrudisk_migrate_down hi _ _ _).bind fun _ _ => (skips_set_page hd _).bind fun _ _ =>
      (skips_set_page hi _).bind fun _ _ => (skips_enqueue_fifo hi _).bind fun _ _ =>
      (skips_get_page hi).bind fun _ _ => Commutes.check_bind fun _ =>
      (skips_get_page hi).bind fun _ _ => Commutes.check_bind fun _ =>
      (skips_set_page hi _).bind fun _ _ => Commutes.pure trivial
  · refine (skips_dequeue_fifo (by decide)).bind fun r hr => ?_
    rcases r with _ | d
    · exact Commutes.throw _
    · have hd := hr d rfl
      exact (skips_get_page hd).bind fun _ _ => Commutes.check_bind fun _ =>
        (skips_get_page hi).bind fun _ _ => (skips_get_page hd).bind fun _ _ =>
        (skips_lrudisk_migrate_down hi _ _ _).bind fun _ _ => (skips_get_page hi).bind fun _ _ =>
        Commutes.check_bind fun _ => (skips_enqueue_fifo hi _).bind fun _ _ =>
        (skips_set_page hd _).bind fun _ _ => (skips_set_page hi _).bind fun _ _ =>
        Commutes.pure trivial

theorem skips_fetch_free_reclaim (priority : ℕ) :
    Skips p (fetch_free_reclaim priority : Proc α ℕ) fun _ => True := by
  refine skips_get_pol (fun _ => rfl) fun _ => skips_get_pol (fun _ => rfl) fun _ =>
    (skips_numentries (by decide)).bind fun _ _ => (skips_numentries (by decide)).bind fun _ _ =>
    Commutes.ite ?_ (Commutes.pure trivial)
  exact (skips_direct_allocate_page_asynch _ _).bind fun _ _ => Commutes.pure trivial

theorem skips_fetch_free_loop (fuel priority : ℕ) :
    Skips p (fetch_free_loop fuel priority : Proc α PageId) fun _ => True := by
  induction fuel generalizing priority with
  | zero => exact Commutes.throw _
  | succ fuel ih =>
      refine Commutes.ite (Commutes.throw _) ?_
      refine (skips_dequeue_fifo (by decide)).bind fun r _ => ?_
      rcases r with _ | f
      · refine (skips_fetch_free_reclaim priority).bind fun priority _ =>
          (skips_dequeue_fifo (by decide)).bind fun r hr => ?_
        rcases r with _ | v
        · exact ih priority
        · exact skips_fetch_free_evict (hr v rfl)
      · exact Commutes.pure trivial

/-- **The search for a frame does not notice that a parked page is detached.** -/
theorem fetch_free_asynch_skips (fuel : ℕ) :
    Skips p (fetch_free_asynch fuel : Proc α PageId) fun _ => True :=
  skips_fetch_free_loop fuel 12

end Search

/-! ## The two routines -/

/-- The two swap-ins of `p` agree from `s`: both return, they leave the same structs and,
up to their order, the same lists, and both map the bytes that the store has at the disk
offset of the page. -/
def SwapinsAgree (fuel : ℕ) (s : State α) (p : PageId) : Prop :=
  ∃ s₁ s₂ d, (lrudisk_swapin_external fuel p).run s = .ok ((), s₁) ∧
    (lrudisk_swapin_external_async fuel p).run s = .ok ((), s₂) ∧
    (∀ i, s₂.pol.page i = s₁.pol.page i) ∧ (∀ l, (s₂.pol.lists l).Perm (s₁.pol.lists l)) ∧
    s.mem.store (s.pol.page p).virtual_offset = some d ∧
    s₁.mem.pte (s.pol.page p).va = some { data := d } ∧
    s₂.mem.pte (s.pol.page p).va = some { data := d }

/-- The two routines, compared: they fail alike, or they leave the same policy and differ
in the bytes. -/
theorem swapins_compared (fuel : ℕ) {s : State α} {p : PageId} (h : Inv s.pol)
    (hl : (s.pol.page p).list = some .disk_active_list) :
    (∃ e, (lrudisk_swapin_external fuel p).run s = .error e ∧
      (lrudisk_swapin_external_async fuel p).run s = .error e) ∨
    ∃ s₁ s₂ : State α, (lrudisk_swapin_external fuel p).run s = .ok ((), s₁) ∧
      (lrudisk_swapin_external_async fuel p).run s = .ok ((), s₂) ∧ s₂.pol = s₁.pol ∧
      s₂.mem.pte (s.pol.page p).va = some { data := s.mem.buffer_space } ∧
      ∃ failed : Bool, s₁.mem.pte (s.pol.page p).va = some
        { data := if failed then s.mem.buffer_space
            else (s.mem.store (s.pol.page p).virtual_offset).getD s.mem.buffer_space } := by
  have hr := h.role_of_list hl rfl
  obtain ⟨hin, hva⟩ := UserPage.role_evicted.1 hr
  -- the search runs the same way whether or not the page was detached before it
  have hskip := (fetch_free_asynch_skips fuel s (h.parked hl)).run
  have hfetch := fetch_free_asynch_ends fuel s h
  have hfetch' := fetch_free_asynch_ends fuel (s.detach p) (h.unlink hl (by rw [hr]; decide))
  rcases hrun : (fetch_free_asynch fuel).run s with e | ⟨f, s₁⟩
  · rw [hrun, changed_error] at hskip
    refine Or.inl ⟨e, ?_, run_lrudisk_swapin_external_async_error h hl hskip⟩
    rw [lrudisk_swapin_external, run_bind_ok (run_get_page _ _), run_bind_error hrun]
  · rw [hrun, changed_ok] at hskip
    have hf := hfetch.of_ok hrun
    have hf' := hfetch'.of_ok hskip
    have hsync := run_lrudisk_swapin_external h hl hf hrun
    have hasync := run_lrudisk_swapin_external_async h hl hf' hskip
    by_cases hc : s₁.mem.copy_refused (s.pol.page p).va
    · rw [if_pos hc] at hsync
      rw [if_pos (show (s₁.detach p).mem.copy_refused _ from hc)] at hasync
      exact Or.inl ⟨_, hsync, hasync⟩
    · rw [if_neg hc] at hsync
      rw [if_neg (show ¬ (s₁.detach p).mem.copy_refused _ from hc)] at hasync
      refine Or.inr ⟨_, _, hsync, hasync, rfl, ?_, s₁.mem.env.io_fails.headD false, ?_⟩
      · rw [← hf.step.buffer_space]
        exact (Mem.copied_spec _ _ _).entry
      · -- the evictions of the search wrote to other slots
        rw [← hf.step.buffer_space,
          ← hf.step.store p (h.lt_of_list hl) hr (Or.inr hl)]
        exact (Mem.copied_spec _ _ _).entry

/-- **The asynchronous swap-in agrees with the synchronous one exactly when the buffer
already holds the bytes.** The two routines fail alike; and when they return, they agree
if and only if the buffer of the thread had the store's content of the page before the
call. -/
theorem async_swapin_agrees_iff (fuel : ℕ) {s : State α} {p : PageId} (h : Inv s.pol)
    (hl : (s.pol.page p).list = some .disk_active_list) :
    (∀ e, (lrudisk_swapin_external fuel p).run s = .error e ↔
      (lrudisk_swapin_external_async fuel p).run s = .error e) ∧
    ((∃ s₁, (lrudisk_swapin_external fuel p).run s = .ok ((), s₁)) →
      (SwapinsAgree fuel s p ↔
        s.mem.store (s.pol.page p).virtual_offset = some s.mem.buffer_space)) := by
  rcases swapins_compared fuel h hl with ⟨e, hsync, hasync⟩ |
    ⟨s₁, s₂, hsync, hasync, hpol, hmap₂, failed, hmap₁⟩
  · refine ⟨fun e' => by rw [hsync, hasync], ?_⟩
    rintro ⟨s₁, hs₁⟩
    rw [hsync] at hs₁
    cases hs₁
  · refine ⟨fun e' => by rw [hsync, hasync]; exact ⟨fun he => (nomatch he), fun he => (nomatch he)⟩,
      fun _ => ⟨?_, fun hbuf => ?_⟩⟩
    · rintro ⟨t₁, t₂, d, _, ht₂, _, _, hstore, _, hd⟩
      rw [hasync] at ht₂
      cases ht₂
      rw [hmap₂] at hd
      cases hd
      exact hstore
    · refine ⟨s₁, s₂, s.mem.buffer_space, hsync, hasync, fun i => by rw [hpol],
        fun l => by rw [hpol], hbuf, ?_, hmap₂⟩
      rw [hmap₁, hbuf, Option.getD_some, ite_self]

/-- The page that `writeThenEvict` evicts: the store has `7`, the buffer `0`, and both
routines return; so does the synchronous one when the buffer has `7`. -/
theorem writeThenEvict_evaluates : passes (fun s =>
    decide ((s.pol.page 0).list = some .disk_active_list ∧ (s.pol.page 0).virtual_offset = 0 ∧
      (s.pol.page 0).va = 4096 ∧ s.mem.store 0 = some 7) &&
      (passes (fun t => decide (t.mem.pte 4096 = some { data := 7 }))
          ((lrudisk_swapin_external 1 0).run s) &&
        (passes (fun t => decide (t.mem.pte 4096 = some { data := 0 }))
          ((lrudisk_swapin_external_async 1 0).run s) &&
        passes (fun _ => true) ((lrudisk_swapin_external 1 0).run
          { s with mem := { s.mem with buffer_space := 7 } }))))
    ((do lrudisk_init; Run.exec writeThenEvict : Proc ℕ Unit).run (State.blank 4096 8192 0 {}))
      = true := by decide +kernel

theorem async_swapin_disagrees_writeThenEvict :
    ∃ s s₁ s₂ : State ℕ, Reaches 4096 8192 0 {} writeThenEvict s ∧ Inv s.pol ∧
      (s.pol.page 0).list = some .disk_active_list ∧
      s.mem.store (s.pol.page 0).virtual_offset = some 7 ∧
      (lrudisk_swapin_external 1 0).run s = .ok ((), s₁) ∧
      (lrudisk_swapin_external_async 1 0).run s = .ok ((), s₂) ∧
      s₁.mem.pte (s.pol.page 0).va = some { data := 7 } ∧
      s₂.mem.pte (s.pol.page 0).va = some { data := 0 } ∧ ¬ SwapinsAgree 1 s 0 := by
  obtain ⟨⟨⟩, s, hs, ht⟩ := of_passes writeThenEvict_evaluates
  simp only [Bool.and_eq_true, decide_eq_true_eq] at ht
  obtain ⟨⟨hl, hoff, hva, hstore⟩, hsync, hasync, _⟩ := ht
  obtain ⟨⟨⟩, s₁, hs₁, h₁⟩ := of_passes hsync
  obtain ⟨⟨⟩, s₂, hs₂, h₂⟩ := of_passes hasync
  rw [decide_eq_true_eq] at h₁ h₂
  refine ⟨s, s₁, s₂, hs, (Reaches.idle (r := writeThenEvict) hs).1.inv, hl, by rw [hoff, hstore],
    hs₁, hs₂, by rw [hva]; exact h₁, by rw [hva]; exact h₂, ?_⟩
  rintro ⟨t₁, t₂, d, _, ht₂, _, _, hd, _, hmap⟩
  rw [hs₂] at ht₂
  cases ht₂
  rw [hoff, hstore] at hd
  rw [hva, h₂, ← Option.some.inj hd] at hmap
  exact absurd hmap (by decide)

theorem async_swapin_agrees_iff_writeThenEvict :
    ∃ s : State ℕ, Inv s.pol ∧ (s.pol.page 0).list = some .disk_active_list ∧
      s.mem.store (s.pol.page 0).virtual_offset = some s.mem.buffer_space ∧
      SwapinsAgree 1 s 0 := by
  obtain ⟨⟨⟩, s, hs, ht⟩ := of_passes writeThenEvict_evaluates
  simp only [Bool.and_eq_true, decide_eq_true_eq] at ht
  obtain ⟨⟨hl, hoff, _, hstore⟩, _, _, hret⟩ := ht
  obtain ⟨⟨⟩, s₁, hs₁, _⟩ := of_passes hret
  have hinv := (Reaches.idle (r := writeThenEvict) hs).1.inv
  let t : State ℕ := { s with mem := { s.mem with buffer_space := 7 } }
  have hbuf : t.mem.store (t.pol.page 0).virtual_offset = some t.mem.buffer_space := by
    simp only [t, hoff, hstore]
  exact ⟨t, hinv, hl, hbuf, ((async_swapin_agrees_iff 1 (s := t) hinv hl).2 ⟨s₁, hs₁⟩).2 hbuf⟩

end SwapPrefetch
