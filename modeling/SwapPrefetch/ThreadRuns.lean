/-
Runs of the threads in which everyone keeps the rules for page structs.

`Orderly` is the condition on a step. It has two parts that concern every run: a page that is
taken off `active_list`, `inactive_list` or `eviction_list` is not migrating, and `swapped_out` is
not cleared while an eviction of the page has its last assignment before it. The source does not
see to either. The other three parts only concern runs with `munmap`.

`act_fine` says that a step which meets the condition keeps the rules, whatever the other threads
are doing, and `Safe` is the invariant of the runs whose steps all meet it.
-/
import Mathlib.Tactic
import SwapPrefetch.Handlers
import SwapPrefetch.ThreadSteps

set_option autoImplicit false

namespace SwapPrefetch

open Prog Holdings

variable {P : Policy} {M : Mem Unit} {c : Choice} {pc : Pc} {all rest : List (PageId × Hold)}

/-! ## The condition on a step -/

/-- The pages that the step takes off a list of resident pages. -/
def Pc.takes (c : Choice) (P : Policy) : Pc → List PageId
  | .idle =>
      match c with
      | .evictionworker => (P.lists .eviction_list).take 1
      | .evictionworker_vector => (P.lists .eviction_list).take EVICT_VECTOR_SIZE
      | _ => []
  | .inline _ => (P.lists .eviction_list).take 1
  | .reclaim _ | .kswapd =>
      match c with
      | .scan_inactive => (P.lists .inactive_list).take 1
      | .scan_active => (P.lists .active_list).take 1
      | _ => []
  | _ => []

/-- The page whose `swapped_out` a handler clears. -/
def Pc.clears : Pc → Option PageId
  | .hit_swapped_out page => some page
  | .finish page _ => some page
  | _ => none

/-- The page that `munmap` claims. -/
def Pc.unmaps (P : Policy) : Pc → Option PageId
  | .unmap_claim page _ => if (P.page page).migrating then none else some page
  | .unmap_relock page _ => some page
  | _ => none

/-- The page whose address `munmap` clears. -/
def Pc.forgets : Pc → Option PageId
  | .remove_va page _ => some page
  | _ => none

/-- The free struct that the step takes. -/
def Pc.reuses (P : Policy) : Pc → Option PageId
  | .fetch _ => (P.lists .dram_free_list).head?
  | .backing _ _ _ => (P.lists .disk_free_list).head?
  | .vector_diskpages _ _ => (P.lists .disk_free_list).head?
  | _ => none

/-- The condition on a step of a thread at `pc`, when all threads together hold `held`. -/
structure Pc.Orderly (c : Choice) (pc : Pc) (P : Policy) (held : List (PageId × Hold)) : Prop where
  /-- no page that is migrating is taken off a list of resident pages -/
  takes : ∀ p ∈ pc.takes c P, (P.page p).migrating = false
  /-- `swapped_out` is cleared after the last assignment of an eviction -/
  clears : ∀ p ∈ pc.clears, (p, .stale) ∉ held
  /-- `munmap` claims a page that is at rest -/
  unmaps : ∀ p ∈ pc.unmaps P, Threads.AtRest P held p
  /-- `munmap` clears the address of a page that no other thread is about to claim -/
  forgets : ∀ p ∈ pc.forgets, (p, .known) ∉ held
  /-- a struct is used again after the last assignment of `munmap` -/
  reuses : ∀ p ∈ pc.reuses P, (p, .freed) ∉ held

instance (c : Choice) (pc : Pc) (P : Policy) (held : List (PageId × Hold)) :
    Decidable (pc.Orderly c P held) :=
  decidable_of_iff
    ((∀ p ∈ pc.takes c P, (P.page p).migrating = false) ∧ (∀ p ∈ pc.clears, (p, .stale) ∉ held) ∧
      (∀ p ∈ pc.unmaps P, Threads.AtRest P held p) ∧ (∀ p ∈ pc.forgets, (p, .known) ∉ held) ∧
      ∀ p ∈ pc.reuses P, (p, .freed) ∉ held)
    ⟨fun ⟨h₁, h₂, h₃, h₄, h₅⟩ => ⟨h₁, h₂, h₃, h₄, h₅⟩,
      fun h => ⟨h.takes, h.clears, h.unmaps, h.forgets, h.reuses⟩⟩

theorem Pc.Orderly.perm {all' : List (PageId × Hold)} (h : pc.Orderly c P all)
    (hp : all.Perm all') : pc.Orderly c P all' := by
  refine ⟨h.takes, fun p hm => ?_, fun p hm => ?_, fun p hm => ?_, fun p hm => ?_⟩
  · rw [← hp.mem_iff]
    exact h.clears p hm
  · obtain ⟨hmig, htaken, hstale, htrail⟩ := h.unmaps p hm
    rw [hp.mem_iff] at htaken hstale htrail
    exact ⟨hmig, htaken, hstale, htrail⟩
  · rw [← hp.mem_iff]
    exact h.forgets p hm
  · rw [← hp.mem_iff]
    exact h.reuses p hm

/-! ## One step -/

namespace Threads

/-- The first struct of a list that a step takes. -/
theorem mem_take_one {l : List PageId} {i : PageId} (hi : l.head? = some i) : i ∈ l.take 1 :=
  List.mem_of_mem_head? (by rw [List.head?_take]; exact hi)

theorem dispatch_fine (h : Good P rest) (hg : Pc.idle.Orderly c P rest) :
    Fine rest (dispatch c) ⟨P, M⟩ := by
  cases c with
  | fault fault_addr =>
      refine Fine.find_page ?_
      split
      · exact Fine.check (Or.inr Fault.noConfusion) fun _ => Fine.pure h
      case h_2 page hpage =>
        refine Fine.get_page ?_
        split
        · exact Fine.pure (h.know hpage)
        · exact Fine.pure h
  | populate page_boundry => exact Fine.check (Or.inr Fault.noConfusion) fun _ => Fine.pure h
  | try_prefetch base_boundry => exact Fine.check (Or.inr Fault.noConfusion) fun _ => Fine.pure h
  | evictionworker =>
      refine Fine.dequeue_fifo h.tidy (Fine.pure h) fun i hl hi => Fine.pure ?_
      exact h.take_page hl rfl (hg.takes i (mem_take_one hi)) (Or.inr rfl)
  | evictionworker_vector =>
      refine Ends.bind (dequeue_vector_ends .eviction_list rfl _ h hg.takes) fun victims s' hs => ?_
      show Good s'.pol (victims.map (·, .taken) ++ [] ++ rest)
      rw [List.append_nil]
      exact hs
  | munmap addr length => exact Fine.check (Or.inr Fault.noConfusion) fun _ => Fine.pure h
  | kswapd => exact Fine.pure h
  | go => exact Fine.pure h
  | hit => exact Fine.pure h
  | scan_inactive => exact Fine.pure h
  | scan_active => exact Fine.pure h
  | give_up => exact Fine.pure h

/-- **One step** of a thread keeps the rules. -/
theorem act_fine (h : Good P (pc.held ++ rest)) (hg : pc.Orderly c P (pc.held ++ rest)) :
    Fine rest (act c pc) ⟨P, M⟩ := by
  cases pc with
  | idle => exact dispatch_fine h hg
  | wait page => exact wait_fine h
  | claim page => exact claim_fine h
  | lookup page => exact lookup_fine _ h
  | hit_in_dram page => exact hit_in_dram_fine h
  | hit_swapped_out page =>
      exact hit_swapped_out_fine h fun hm => hg.clears page rfl (List.mem_cons_of_mem _ hm)
  | hit_migrating page => exact hit_migrating_fine h
  | finish_hit page => exact finish_hit_fine h
  | detach page => exact detach_fine h
  | start page file_offset => exact start_fine h
  | fetch use => exact fetch_fine h hg.reuses
  | reclaim use =>
      refine scan_fine (some use) h rfl rfl (fun hc i hi => ?_) fun hc i hi => ?_
      · subst hc
        exact hg.takes i (mem_take_one hi)
      · subst hc
        exact hg.takes i (mem_take_one hi)
  | inline use => exact evict_inline_fine h fun i hi => hg.takes i (mem_take_one hi)
  | got use freepage => exact got_fine freepage h
  | slot page freepage file_offset => exact slot_fine h
  | link page freepage jobs => exact link_fine h
  | enter page jobs => exact enter_fine h
  | in_dram page jobs => exact in_dram_fine h
  | finish page jobs =>
      exact finish_fine h fun hm => hg.clears page rfl (List.mem_cons_of_mem _ hm)
  | select left page_boundry jobs => exact select_fine h
  | claim_next page left page_boundry jobs => exact claim_next_fine h
  | detach_next page left page_boundry jobs => exact detach_next_fine h
  | read jobs => exact read_fine h
  | copy jobs => exact copy_fine h
  | ack page freepage jobs => exact ack_fine h
  | kswapd =>
      refine scan_fine none h rfl rfl (fun hc i hi => ?_) fun hc i hi => ?_
      · subst hc
        exact hg.takes i (mem_take_one hi)
      · subst hc
        exact hg.takes i (mem_take_one hi)
  | examine page use => exact examine_fine h
  | put page result use => exact put_fine h
  | evict victim who => exact evict_fine h
  | protect victim who => exact protect_fine h
  | backing victim writeback who => exact backing_fine h hg.reuses
  | down victim diskpage reserved writeback who => exact down_fine h
  | write e who => exact write_fine h
  | out e who => exact out_fine h
  | mark e who => exact mark_fine h
  | return_frame e who => exact return_frame_fine h
  | to_disk e who => exact to_disk_fine h
  | evicted e who => exact evicted_fine h
  | release e who => exact release_fine h
  | settle e who => exact settle_fine h
  | vector_prepare victims done => exact vector_prepare_fine h
  | vector_protect victim old_offset victims done => exact vector_protect_fine h
  | vector_diskpages victims done => exact vector_diskpages_fine h hg.reuses
  | vector_write victims => exact vector_write_fine h
  | vector_mark victims => exact vector_mark_fine h
  | vector_track victims => exact vector_track_fine h
  | insert page_boundry newpage => exact insert_fine h
  | put_free newpage page => exact put_free_fine h
  | map newpage => exact map_fine h
  | first_migrating newpage => exact first_migrating_fine h
  | first_swapped_out newpage => exact first_swapped_out_fine h
  | track newpage => exact track_fine h
  | munmap u => exact munmap_fine h
  | unmap_claim page u =>
      refine unmap_claim_fine h fun hm => hg.unmaps page ?_
      show page ∈ if (P.page page).migrating then none else some page
      rw [hm]
      exact rfl
  | unmap_spin page u => exact unmap_spin_fine h
  | unmap_relock page u => exact unmap_relock_fine h (hg.unmaps page rfl)
  | remove_index page u => exact remove_index_fine h
  | remove_migrating page u => exact remove_migrating_fine h
  | remove_list page u => exact remove_list_fine h
  | remove_va page u =>
      exact remove_va_fine h fun hm => hg.forgets page rfl (List.mem_cons_of_mem _ hm)
  | remove_backing page u => exact remove_backing_fine h
  | remove_reserve page reserve_page u => exact remove_reserve_fine h
  | remove_free page in_dram u => exact remove_free_fine h
  | remove_done page u => exact remove_done_fine h
  | libc_munmap u => exact unmapped_fine h

/-! ## Runs -/

/-- What all threads together hold. -/
def held (s : Threads) : List (PageId × Hold) := s.threads.flatMap Pc.held

/-- The step is one that keeps the rules. -/
def Orderly (s : Threads) (l : Label) : Prop :=
  ∀ pc ∈ s.threads[l.thread]?, pc.Orderly l.choice s.shared.pol s.held

instance (s : Threads) (l : Label) : Decidable (s.Orderly l) :=
  inferInstanceAs (Decidable (∀ pc ∈ s.threads[l.thread]?, _))

/-- All threads keep the rules, and no eviction has stopped at its assertion. -/
structure Safe (s : Threads) : Prop where
  fault : s.fault ≠ some .swapped_out
  good : Good s.shared.pol s.held

/-- Structs that are at rest are held by nobody. -/
theorem good_of_idle (h : Idle P) : Good P [] := by
  refine ⟨⟨h.inv.linked, fun va i hi => ((h.index va i).1 hi).2⟩, Holdings.held_nil fun i => ?_⟩
  rcases hl : (P.page i).list with _ | l
  · exact Face.base_none hl
  · have hi := h.inv.lt_of_list hl
    have hok := h.inv.struct i hi
    have hrole := hok.on_list l hl
    cases l with
    | dram_free_list =>
        exact Face.base_spare hl rfl (UserPage.role_frame.1 (Option.some.inj hrole).symm).2
    | disk_free_list =>
        exact Face.base_spare hl rfl (UserPage.role_slot.1 (Option.some.inj hrole).symm).2.1
    | disk_reserve_list =>
        exact Face.base_spare hl rfl (UserPage.role_backing.1 (Option.some.inj hrole).symm).2.1
    | disk_active_list =>
        exact Face.base_disk hl (UserPage.role_evicted.1 (Option.some.inj hrole).symm).2
    | disk_written_list => cases hrole
    | _ =>
        have hres := (Option.some.inj hrole).symm
        exact Face.base_lru hl rfl (UserPage.role_resident.1 hres).2 (hok.not_swapped hres)

theorem held_idle (shared : State Unit) (n : ℕ) : (idle shared n).held = [] := by
  unfold held idle
  rw [List.flatMap_eq_nil_iff]
  intro pc hpc
  rw [List.eq_of_mem_replicate hpc]
  rfl

theorem safe_idle {shared : State Unit} (h : Idle shared.pol) (n : ℕ) : Safe (idle shared n) := by
  refine ⟨nofun, ?_⟩
  rw [held_idle]
  exact good_of_idle h

/-- A step of the machine: nothing, a step of one thread, or a stop at an assertion. -/
theorem step_cases (l : Label) (s : Threads) :
    step l s = s ∨ ∃ pc, s.fault = none ∧ s.threads[l.thread]? = some pc ∧
      ((∃ pc' shared, (act l.choice pc).run s.shared = .ok (pc', shared) ∧
          step l s = s.moved l.thread pc pc' shared) ∨
        ∃ e, (act l.choice pc).run s.shared = .error e ∧ step l s = { s with fault := some e }) := by
  unfold step
  split
  case h_1 pc hf hpc =>
    split
    · exact Or.inl rfl
    · refine Or.inr ⟨pc, hf, hpc, ?_⟩
      split
      case h_1 pc' shared hrun => exact Or.inl ⟨pc', shared, hrun, rfl⟩
      case h_2 e hrun => exact Or.inr ⟨e, hrun, rfl⟩
  · exact Or.inl rfl

/-- **Orderly steps** keep the rules. -/
theorem step_safe {s : Threads} {l : Label} (h : Safe s) (hg : s.Orderly l) :
    Safe (step l s) := by
  rcases step_cases l s with he | ⟨pc, hf, hpc, hrun⟩
  · rw [he]
    exact h
  · have hperm := flatMap_perm Pc.held hpc
    have hfine := act_fine (M := s.shared.mem) (h.good.perm hperm) ((hg pc hpc).perm hperm)
    rcases hrun with ⟨pc', shared, hrun, he⟩ | ⟨e, hrun, he⟩
    · rw [he]
      refine ⟨h.fault, ?_⟩
      exact (hfine.of_ok hrun).perm (flatMap_set_perm Pc.held hpc pc').symm
    · rw [he]
      refine ⟨fun hfault => ?_, h.good⟩
      exact hfine.of_error hrun (Option.some.inj hfault)

/-- **Orderly runs** keep the rules. -/
theorem exec_safe {shared : State Unit} (h : Idle shared.pol) (n : ℕ) {run : List Label}
    (hrun : Guarded.Meets step Orderly run (idle shared n)) : Safe (exec run (idle shared n)) :=
  Guarded.exec_invariant (I := Safe) (fun _ _ hs hg => step_safe hs hg) (safe_idle h n) hrun

end Threads

end SwapPrefetch
