/-
The end of the search for a frame (`disklinux.c:996-1121`).

The loop of `fetch_free_asynch` is left with a frame or when the priority is used up. The priority
goes down only in a round that reclaims, and a round reclaims only if more than half of the frames
are on the two LRU lists. A frame that is neither free nor on a list counts for neither, and
`core_try_prefetch` holds such frames while it searches for the next one. If no list has anything to
offer, a round changes nothing and the next one is the same.
-/
import SwapPrefetch.ColdScans
import SwapPrefetch.Conservation

set_option autoImplicit false

namespace SwapPrefetch

open Prog

variable {α : Type}

/-! ## Rounds -/

/-- The loop is left after finitely many rounds. -/
def SearchEnds (s : State α) : Prop := ∃ fuel, (fetch_free_asynch fuel).run s ≠ .error .hang

/-- A round reclaims. -/
def Reclaimable (P : Policy) : Prop :=
  P.shrinkage_running = false ∧ P.dramsize / (PAGE_SIZE * 2) <
    (P.lists .active_list).length + (P.lists .inactive_list).length

/-- A round has something to do: there is a free frame, a page to evict or enough to reclaim. -/
def Progresses (P : Policy) : Prop :=
  P.lists .dram_free_list ≠ [] ∨ P.lists .eviction_list ≠ [] ∨ Reclaimable P

instance (P : Policy) : Decidable (Reclaimable P) := inferInstanceAs (Decidable (_ ∧ _))

instance (P : Policy) : Decidable (Progresses P) := inferInstanceAs (Decidable (_ ∨ _ ∨ _))

variable {s : State α}

theorem run_fetch_free_reclaim_idle (h : ¬ Reclaimable s.pol) (priority : ℕ) :
    (fetch_free_reclaim priority).run s = .ok (priority, s) := by
  unfold Reclaimable at h
  rw [fetch_free_reclaim, run_bind_ok (run_get_pol _), run_bind_ok (run_get_pol _),
    run_bind_ok (run_numentries _ _), run_bind_ok (run_numentries _ _), if_neg h]
  rfl

/-- A round that reclaims lowers the priority, and moves pages between the lists only. -/
theorem run_fetch_free_reclaim_scan (hi : Inv s.pol) (h : Reclaimable s.pol) (priority : ℕ) :
    ∃ t s', (fetch_free_reclaim priority).run s = .ok (priority - 1, s') ∧ Inv s'.pol ∧
      ScansTo s t s' ∧ s'.pol.dramsize = s.pol.dramsize ∧ s'.pol.shrinkage_running = false := by
  obtain ⟨ret, s', hrun, hscan, -, -, hflag⟩ := direct_allocate_loop_scans SWAP_CLUSTER_COUNT
    ((s.pol.lists .active_list).length >>> priority)
    ((s.pol.lists .inactive_list).length >>> priority)
    ((s.pol.lists .inactive_list).length >>> priority) 0 0 0 s hi.listed (Nat.zero_le _)
  have hdirect : (direct_allocate_page_asynch SWAP_CLUSTER_COUNT priority).run s =
      .ok (ret, s') := by
    rw [direct_allocate_page_asynch, run_bind_ok (run_numentries _ _),
      run_bind_ok (run_numentries _ _)]
    exact hrun
  have hreclaimed := (direct_allocate_page_asynch_ends _ _ s hi).of_ok hdirect
  refine ⟨_, s', ?_, hreclaimed.inv, hscan, hreclaimed.step.fixed.dramsize, hflag h.1⟩
  unfold Reclaimable at h
  rw [fetch_free_reclaim, run_bind_ok (run_get_pol _), run_bind_ok (run_get_pol _),
    run_bind_ok (run_numentries _ _), run_bind_ok (run_numentries _ _), if_pos h,
    run_bind_ok hdirect]
  rfl

/-- **A round without progress** leaves the state and the priority as they are. -/
theorem fetch_free_loop_spins (h : ¬ Progresses s.pol) {priority : ℕ} (hpriority : priority ≠ 0)
    (fuel : ℕ) : (fetch_free_loop fuel priority).run s = .error .hang := by
  obtain ⟨hfree, heviction, hreclaim⟩ : s.pol.lists .dram_free_list = [] ∧
      s.pol.lists .eviction_list = [] ∧ ¬ Reclaimable s.pol := by
    unfold Progresses at h
    push Not at h
    exact h
  induction fuel with
  | zero => rfl
  | succ fuel ih =>
      rw [fetch_free_loop, if_neg hpriority, run_bind_ok (run_dequeue_fifo_nil hfree),
        run_bind_ok (run_fetch_free_reclaim_idle hreclaim priority),
        run_bind_ok (run_dequeue_fifo_nil heviction)]
      exact ih

/-- Reclaiming leaves something to do: what is not queued for eviction is still on the two lists. -/
theorem ScansTo.progresses {s' : State α} {t : List (Exam α)} (h : Listed s.pol)
    (hscan : ScansTo s t s') (hreclaim : Reclaimable s.pol)
    (hsize : s'.pol.dramsize = s.pol.dramsize) (hflag : s'.pol.shrinkage_running = false)
    (hnone : s'.pol.lists .eviction_list = []) : Reclaimable s'.pol := by
  have hout := hscan.reclaims h rfl
  have hold : s.pol.lists .eviction_list = [] := by
    have horder := hout.order
    rw [hnone] at horder
    exact (List.append_eq_nil_iff.1 horder.symm).1
  have hlength := hout.union.length_eq
  simp only [Lru.Queues.all, Policy.lru, hnone, hold, List.append_nil, List.length_append]
    at hlength
  refine ⟨hflag, ?_⟩
  rw [hsize, hlength]
  exact hreclaim.2

/-- The eviction that the loop makes ends. -/
theorem fetch_free_evict_stops (h : Inv s.pol) {v : PageId} {rest : List PageId}
    (hq : s.pol.lists .eviction_list = v :: rest) :
    Ends ((fetch_free_evict v).run { s with pol := s.pol.unlink .eviction_list v })
      (fun _ _ => True) fun e => e ≠ .hang := by
  have hl : (s.pol.page v).list = some .eviction_list := h.list_of_mem (by simp [hq])
  have hr := h.role_of_list hl rfl
  have hr' : ((s.pol.unlink .eviction_list v).page v).role = .resident := by
    rw [Policy.unlink_page_self]
    exact hr
  refine (fetch_free_evict_ends (s := { s with pol := s.pol.unlink .eviction_list v })
    (h.unlink hl (by rw [hr]; decide)) (h.lt_of_list hl) hr' (by simp)).mono
    (fun _ _ _ => trivial) fun _ he => he.2

/-- **Progress.** One round more than the priority is enough. -/
theorem fetch_free_loop_stops (priority : ℕ) (h : Inv s.pol) (hprogress : Progresses s.pol) :
    Ends ((fetch_free_loop (priority + 1) priority).run s) (fun _ _ => True) fun e => e ≠ .hang := by
  induction priority generalizing s with
  | zero =>
      rw [fetch_free_loop, if_pos rfl]
      exact Fault.noConfusion
  | succ priority ih =>
      rw [fetch_free_loop, if_neg (Nat.succ_ne_zero priority)]
      rcases hq : s.pol.lists .dram_free_list with _ | ⟨f, rest⟩
      · rw [run_bind_ok (run_dequeue_fifo_nil hq)]
        by_cases hreclaim : Reclaimable s.pol
        · obtain ⟨t, s', hrun, hi, hscan, hsize, hflag⟩ :=
            run_fetch_free_reclaim_scan h hreclaim (priority + 1)
          rw [run_bind_ok hrun]
          rcases hev : s'.pol.lists .eviction_list with _ | ⟨v, rest⟩
          · rw [run_bind_ok (run_dequeue_fifo_nil hev)]
            exact ih hi (Or.inr (Or.inr (hscan.progresses h.listed hreclaim hsize hflag hev)))
          · rw [run_bind_ok (run_dequeue_fifo_cons hev)]
            exact fetch_free_evict_stops hi hev
        · -- the page to evict was there before
          rw [run_bind_ok (run_fetch_free_reclaim_idle hreclaim _)]
          have hne := (hprogress.resolve_left (not_not.2 hq)).resolve_right hreclaim
          obtain ⟨v, rest, hev⟩ := List.exists_cons_of_ne_nil hne
          rw [run_bind_ok (run_dequeue_fifo_cons hev)]
          exact fetch_free_evict_stops h hev
      · rw [run_bind_ok (run_dequeue_fifo_cons hq)]
        exact trivial

/-- **The search ends exactly if its first round has something to do.** The invariant of the policy
holds in every state in which the search is called, whatever frames and pages the caller holds. -/
theorem search_ends_iff_progresses (s : State α) (h : Inv s.pol) :
    SearchEnds s ↔ Progresses s.pol := by
  constructor
  · rintro ⟨fuel, hfuel⟩
    by_contra hno
    exact hfuel (fetch_free_loop_spins hno (by decide) fuel)
  · intro hprogress
    refine ⟨13, fun herror => ?_⟩
    exact (fetch_free_loop_stops 12 h hprogress).of_error herror rfl

/-! ## The searches of a sequential prefetch -/

/-- The states in which `core_try_prefetch` calls the search, once for each page that it claims; the
arguments are those of its first loop. -/
def search_states (fuel : ℕ) : ℕ → ℕ → State α → List (State α)
  | 0, _, _ => []
  | left + 1, page_boundry, s =>
      let page_boundry := (page_boundry + PAGE_SIZE) % 2 ^ 64
      match s.pol.pages page_boundry with
      | none => []
      | some page =>
          if (s.pol.page page).migrating ∨ (s.pol.page page).swapped_out = false then []
          else
            match (lrudisk_detach_page page).run
                ⟨s.pol.upd page fun p => { p with migrating := true }, s.mem⟩ with
            | .error _ => []
            | .ok (_, s) =>
                s :: match (lrudisk_pagefault fuel).run s with
                  | .error _ => []
                  | .ok (_, s) => search_states fuel left page_boundry s

/-- The invariant holds in these states. -/
theorem Busy.search_states {jobs : List (PageId × PageId)} (fuel left b : ℕ)
    (h : Busy s.pol jobs) : ∀ s' ∈ search_states fuel left b s, Inv s'.pol := by
  induction left generalizing b s jobs with
  | zero => exact fun s' hs' => absurd hs' List.not_mem_nil
  | succ left ih =>
      intro s' hs'
      rw [SwapPrefetch.search_states] at hs'
      rcases hb : s.pol.pages ((b + PAGE_SIZE) % 2 ^ 64) with _ | p
      · simp only [hb] at hs'
        exact absurd hs' List.not_mem_nil
      · simp only [hb] at hs'
        split at hs'
        · exact absurd hs' List.not_mem_nil
        · next hc =>
            simp only [not_or, Bool.not_eq_true, Bool.not_eq_false] at hc
            have hl := h.list_of_swapped hb hc.1 hc.2
            obtain ⟨hdet, hd⟩ := h.run_claim hb hl
            rw [hdet] at hs'
            rcases List.mem_cons.1 hs' with rfl | hs'
            · exact hd
            · rcases hf : (lrudisk_pagefault fuel).run
                ⟨(s.pol.upd p fun q => { q with migrating := true }).unlink .disk_active_list p,
                  s.mem⟩ with e | ⟨f, s₂⟩
              · simp only [hf] at hs'
                exact absurd hs' List.not_mem_nil
              · simp only [hf] at hs'
                obtain ⟨s₁, hfetched, rfl⟩ := (lrudisk_pagefault_ends fuel hd).of_ok hf
                have hclaim := Selected.claim h (h.live hb).2.1 hl hfetched
                exact ih _ hclaim.busy s' hs'

/-- Two pages are evicted and the only frame is free. -/
def twoEvicted : Run ℕ :=
  [(1, .fault 8192 false 0), (1, .shrink_inactive 1), (1, .evict),
    (1, .fault 12288 false 0), (1, .shrink_inactive 1), (1, .evict)]

theorem search_ends_iff_progresses_twoEvicted :
    ∃ s, Reaches 4096 8192 (0 : ℕ) {} twoEvicted s ∧ Inv s.pol ∧
      (SearchEnds s ↔ Progresses s.pol) := by
  have heval : passes (fun _ => true) ((do lrudisk_init; twoEvicted.exec : Proc ℕ Unit).run
      (State.blank 4096 8192 0 {})) = true := by
    decide +kernel
  obtain ⟨⟨⟩, s, hs, -⟩ := of_passes heval
  have hreach : Reaches 4096 8192 (0 : ℕ) {} twoEvicted s := hs
  exact ⟨s, hreach, hreach.idle.1.inv, search_ends_iff_progresses s hreach.idle.1.inv⟩

/-- A prefetch from the page at 4096 takes the frame for the page at 8192, and searches for ever for
one for the page at 12288. -/
theorem not_search_ends_heldFrame :
    ¬ ∀ s, Reaches 4096 8192 (0 : ℕ) {} twoEvicted s →
      ∀ s' ∈ search_states 1 CORE_PREFETCH_RATE 4096 s, SearchEnds s' := by
  intro hall
  have heval : passes (fun s => (search_states 1 CORE_PREFETCH_RATE 4096 s).any fun s' =>
      decide (¬ Progresses s'.pol)) ((do lrudisk_init; twoEvicted.exec : Proc ℕ Unit).run
      (State.blank 4096 8192 0 {})) = true := by
    decide +kernel
  obtain ⟨⟨⟩, s, hs, hany⟩ := of_passes heval
  obtain ⟨s', hs', hno⟩ := List.any_eq_true.1 hany
  obtain ⟨fuel, hfuel⟩ := hall s hs s' hs'
  exact hfuel (fetch_free_loop_spins (of_decide_eq_true hno) (by decide) fuel)

end SwapPrefetch
