/-
Claims of pages: who works on a page that a thread has claimed by setting `migrating`.

A fault handler and `core_try_prefetch` claim an evicted page, and `munmap` any page, under
`handler_lock`; the evictions set and clear the same flag without the lock. Two properties of all
interleavings are meant to hold.

`Undisturbed`: no eviction starts on a page that is being brought in. It fails because the page is
put on `inactive_list` before its flags are reset, and the scans do not look at `migrating`. It
also fails because an eviction clears `migrating` before its last assignment to `swapped_out`,
which can come after the next swap-in.

`Exclusive`: a page is claimed by one thread at a time. It fails because `munmap`, when it has seen
the flag cleared, takes the lock again and sets the flag without another look.

Both hold in the runs whose steps keep the rules for page structs.
-/
import Mathlib.Tactic
import SwapPrefetch.Runs
import SwapPrefetch.ThreadRuns

set_option autoImplicit false

namespace SwapPrefetch

open Prog Holdings

/-! ## Evictions and removals in progress -/

/-- The victims of a batch that are still to be tracked. -/
def Evictor.evicts : Evictor → List PageId
  | .vector rest => rest.map Victim.page
  | _ => []

/-- The pages that the thread is evicting, from `eviction_list` up to the step that clears
`migrating`. -/
def Pc.evicts : Pc → List PageId
  | .evict victim who | .protect victim who | .backing victim _ who | .down victim _ _ _ who =>
      victim :: who.evicts
  | .write e who | .out e who | .mark e who | .return_frame e who | .to_disk e who | .evicted e who
  | .release e who => e.victim :: who.evicts
  | .settle _ who => who.evicts
  | .vector_prepare victims done => victims ++ done.map Victim.page
  | .vector_protect victim _ victims done => victim :: (victims ++ done.map Victim.page)
  | .vector_diskpages victims done => victims.map Victim.page ++ done.map Victim.page
  | .vector_write victims | .vector_mark victims | .vector_track victims => victims.map Victim.page
  | _ => []

/-- The page that `munmap` has claimed, up to the step that clears `migrating`. -/
def Pc.unmapping : Pc → List PageId
  | .remove_index page _ | .remove_migrating page _ | .remove_list page _ | .remove_va page _
  | .remove_backing page _ | .remove_reserve page _ _ | .remove_free page _ _
  | .remove_done page _ => [page]
  | _ => []

/-- The pages that the thread has claimed. -/
def Pc.claimed (pc : Pc) : List PageId := pc.claims ++ pc.unmapping

variable {pc : Pc} {p : PageId}

/-- The capacities of a page that is being brought in. -/
def Hold.swapin : List Hold := [.claimed, .entered, .leaving, .trailing]

/-- The capacities of a page that is being evicted. -/
def Hold.evict : List Hold := [.taken, .busy, .marked]

/-- The capacities of a page that is being removed. -/
def Hold.unmap : List Hold := [.removing, .unindexed, .removed, .cleared, .freed]

theorem mem_jobsHeld {jobs : List (PageId × PageId)} (h : p ∈ jobs.map Prod.fst) :
    (p, .claimed) ∈ jobsHeld jobs := by
  obtain ⟨j, hj, rfl⟩ := List.mem_map.1 h
  exact List.mem_flatMap.2 ⟨j, hj, List.mem_cons_self⟩

theorem mem_victimsHeld {k : Hold} {victims : List Victim} (h : p ∈ victims.map Victim.page) :
    (p, k) ∈ victimsHeld k victims := by
  obtain ⟨v, hv, rfl⟩ := List.mem_map.1 h
  exact List.mem_flatMap.2 ⟨v, hv, List.mem_cons_self⟩

theorem Use.mem_claims {use : Use} (h : p ∈ use.claims) : (p, .claimed) ∈ use.held := by
  cases use with
  | swapin page file_offset =>
      rw [List.mem_singleton.1 h]
      exact List.mem_cons_self
  | prefetch page left page_boundry jobs =>
      rcases List.mem_cons.1 h with rfl | h
      · exact List.mem_cons_self
      · exact List.mem_cons_of_mem _ (mem_jobsHeld h)
  | first page_boundry => cases h

theorem mem_claims_scan {use : Option Use} (h : p ∈ (use.map Use.claims).getD []) :
    (p, .claimed) ∈ (use.map Use.held).getD [] := by
  cases use with
  | none => cases h
  | some use => exact Use.mem_claims h

theorem Evictor.mem_claims {who : Evictor} (h : p ∈ who.claims) : (p, .claimed) ∈ who.held := by
  cases who with
  | inline use => exact Use.mem_claims h
  | _ => cases h

theorem Evictor.mem_evicts {who : Evictor} (h : p ∈ who.evicts) : (p, .marked) ∈ who.held := by
  cases who with
  | vector rest => exact mem_victimsHeld h
  | _ => cases h

/-- The page that a swap-in works on, before the jobs that are left. -/
theorem mem_claims_cons {k : Hold} {page : PageId} {jobs : List (PageId × PageId)}
    (hk : k ∈ Hold.swapin) (h : p ∈ page :: jobs.map Prod.fst) :
    ∃ k' ∈ Hold.swapin, (p, k') ∈ (page, k) :: jobsHeld jobs := by
  rcases List.mem_cons.1 h with rfl | h
  · exact ⟨k, hk, List.mem_cons_self⟩
  · exact ⟨.claimed, by decide, List.mem_cons_of_mem _ (mem_jobsHeld h)⟩

theorem mem_claims_one {k : Hold} {page : PageId} (hk : k ∈ Hold.swapin) (h : p ∈ [page]) :
    ∃ k' ∈ Hold.swapin, (p, k') ∈ [(page, k)] := by
  rw [List.mem_singleton.1 h]
  exact ⟨k, hk, List.mem_singleton.2 rfl⟩

theorem mem_held_cons {ks : List Hold} {x : PageId × Hold} {l : List (PageId × Hold)}
    (h : ∃ k ∈ ks, (p, k) ∈ l) : ∃ k ∈ ks, (p, k) ∈ x :: l := by
  obtain ⟨k, hk, hm⟩ := h
  exact ⟨k, hk, List.mem_cons_of_mem x hm⟩

/-- A claimed page is held in one of the capacities of a swap-in. -/
theorem Pc.mem_claims (h : p ∈ pc.claims) : ∃ k ∈ Hold.swapin, (p, k) ∈ pc.held := by
  have hwho : ∀ {who : Evictor}, p ∈ who.claims → ∃ k ∈ Hold.swapin, (p, k) ∈ who.held :=
    fun hm => ⟨.claimed, by decide, Evictor.mem_claims hm⟩
  have huse : ∀ {use : Use}, p ∈ use.claims → ∃ k ∈ Hold.swapin, (p, k) ∈ use.held :=
    fun hm => ⟨.claimed, by decide, Use.mem_claims hm⟩
  have hskip : ∀ {who : Evictor} {l : List (PageId × Hold)}, p ∈ who.claims →
      ∃ k ∈ Hold.swapin, (p, k) ∈ l ++ who.held :=
    fun hm => ⟨.claimed, by decide, List.mem_append_right _ (Evictor.mem_claims hm)⟩
  -- every claim stands beside the page in what the thread holds at this point
  cases pc with
  | lookup page => exact mem_claims_one (by decide) h
  | hit_in_dram page => exact mem_claims_one (by decide) h
  | hit_swapped_out page => exact mem_claims_one (by decide) h
  | hit_migrating page => exact mem_claims_one (by decide) h
  | finish_hit page => exact mem_claims_one (by decide) h
  | detach page => exact mem_claims_one (by decide) h
  | start page file_offset => exact mem_claims_one (by decide) h
  | fetch use => exact huse h
  | reclaim use => exact huse h
  | inline use => exact huse h
  | got use freepage => exact mem_held_cons (huse h)
  | slot page freepage file_offset =>
      exact mem_held_cons (mem_claims_one (by decide) h)
  | link page freepage jobs => exact mem_held_cons (mem_claims_cons (by decide) h)
  | enter page jobs => exact mem_claims_cons (by decide) h
  | in_dram page jobs => exact mem_claims_cons (by decide) h
  | finish page jobs => exact mem_claims_cons (by decide) h
  | select left page_boundry jobs => exact ⟨.claimed, by decide, mem_jobsHeld h⟩
  | claim_next page left page_boundry jobs =>
      exact mem_held_cons ⟨.claimed, by decide, mem_jobsHeld h⟩
  | detach_next page left page_boundry jobs => exact mem_claims_cons (by decide) h
  | read jobs => exact ⟨.claimed, by decide, mem_jobsHeld h⟩
  | copy jobs => exact ⟨.claimed, by decide, mem_jobsHeld h⟩
  | ack page freepage jobs => exact mem_held_cons (mem_claims_cons (by decide) h)
  | examine page use => exact mem_held_cons ⟨.claimed, by decide, mem_claims_scan h⟩
  | put page result use => exact mem_held_cons ⟨.claimed, by decide, mem_claims_scan h⟩
  | evict victim who => exact mem_held_cons (hwho h)
  | protect victim who => exact mem_held_cons (hwho h)
  | backing victim writeback who => exact mem_held_cons (hwho h)
  | down victim diskpage reserved writeback who => exact mem_held_cons (mem_held_cons (hwho h))
  | write e who => exact mem_held_cons (mem_held_cons (hwho h))
  | out e who => exact mem_held_cons (mem_held_cons (hwho h))
  | mark e who => exact mem_held_cons (mem_held_cons (hwho h))
  | return_frame e who => exact mem_held_cons (mem_held_cons (hwho h))
  | to_disk e who => exact mem_held_cons (hskip h)
  | evicted e who => exact mem_held_cons (hskip h)
  | release e who => exact mem_held_cons (hskip h)
  | settle e who => exact mem_held_cons (hskip h)
  | _ => exact absurd h List.not_mem_nil

/-- The page that an eviction works on, before the victims that are left. -/
theorem mem_evicts_cons {k : Hold} {page : PageId} {who : Evictor} {l : List (PageId × Hold)}
    (hk : k ∈ Hold.evict) (h : p ∈ page :: who.evicts) :
    ∃ k' ∈ Hold.evict, (p, k') ∈ (page, k) :: (l ++ who.held) := by
  rcases List.mem_cons.1 h with rfl | h
  · exact ⟨k, hk, List.mem_cons_self⟩
  · exact ⟨.marked, by decide,
      List.mem_cons_of_mem _ (List.mem_append_right _ (Evictor.mem_evicts h))⟩

theorem mem_batch {k : Hold} {victims : List Victim} (h : p ∈ victims.map Victim.page) :
    (p, k) ∈ victims.map fun v => (v.page, k) := by
  obtain ⟨v, hv, rfl⟩ := List.mem_map.1 h
  exact List.mem_map.2 ⟨v, hv, rfl⟩

/-- The victims of a batch that is being prepared. -/
theorem mem_prepare {victims : List PageId} {done : List Victim}
    (h : p ∈ victims ++ done.map Victim.page) :
    ∃ k ∈ Hold.evict, (p, k) ∈ victims.map (·, Hold.taken) ++ done.map fun v => (v.page, .busy) := by
  rcases List.mem_append.1 h with h | h
  · exact ⟨.taken, by decide, List.mem_append_left _ (List.mem_map.2 ⟨p, h, rfl⟩)⟩
  · exact ⟨.busy, by decide, List.mem_append_right _ (mem_batch h)⟩

/-- A page that is being evicted is held in one of the capacities of an eviction. -/
theorem Pc.mem_evicts (h : p ∈ pc.evicts) : ∃ k ∈ Hold.evict, (p, k) ∈ pc.held := by
  cases pc with
  | evict victim who => exact mem_evicts_cons (l := []) (by decide) h
  | protect victim who => exact mem_evicts_cons (l := []) (by decide) h
  | backing victim writeback who => exact mem_evicts_cons (l := []) (by decide) h
  | down victim diskpage reserved writeback who =>
      exact mem_evicts_cons (l := [(diskpage, .frame)]) (by decide) h
  | write e who => exact mem_evicts_cons (l := [(e.diskpage, .frame)]) (by decide) h
  | out e who => exact mem_evicts_cons (l := [(e.diskpage, .frame)]) (by decide) h
  | mark e who => exact mem_evicts_cons (l := [(e.diskpage, .frame)]) (by decide) h
  | return_frame e who => exact mem_evicts_cons (l := [(e.diskpage, .frame)]) (by decide) h
  | to_disk e who => exact mem_evicts_cons (by decide) h
  | evicted e who => exact mem_evicts_cons (by decide) h
  | release e who => exact mem_evicts_cons (by decide) h
  | settle e who =>
      exact mem_held_cons ⟨.marked, by decide, List.mem_append_right _ (Evictor.mem_evicts h)⟩
  | vector_prepare victims done => exact mem_prepare h
  | vector_protect victim old_offset victims done =>
      rcases List.mem_cons.1 h with rfl | h
      · exact ⟨.busy, by decide, List.mem_cons_self⟩
      · exact mem_held_cons (mem_prepare h)
  | vector_diskpages victims done =>
      rcases List.mem_append.1 h with h | h
      · exact ⟨.busy, by decide, List.mem_append_left _ (mem_batch h)⟩
      · exact ⟨.busy, by decide, List.mem_append_right _ (mem_victimsHeld h)⟩
  | vector_write victims => exact ⟨.busy, by decide, mem_victimsHeld h⟩
  | vector_mark victims => exact ⟨.busy, by decide, mem_victimsHeld h⟩
  | vector_track victims => exact ⟨.marked, by decide, mem_victimsHeld h⟩
  | _ => exact absurd h List.not_mem_nil

/-- A page whose `swapped_out` a step sets is being evicted by the thread. -/
theorem Pc.mem_marked (h : p ∈ pc.marked) : (p, .busy) ∈ pc.held := by
  cases pc with
  | mark e who =>
      rw [List.mem_singleton.1 h]
      exact List.mem_cons_self
  | vector_mark victims => exact mem_victimsHeld h
  | _ => exact absurd h List.not_mem_nil

/-- A page that `munmap` removes is held in one of the capacities of a removal. -/
theorem Pc.mem_unmapping (h : p ∈ pc.unmapping) : ∃ k ∈ Hold.unmap, (p, k) ∈ pc.held := by
  have hone : ∀ {k : Hold} {page : PageId}, k ∈ Hold.unmap → p ∈ [page] →
      ∃ k' ∈ Hold.unmap, (p, k') ∈ [(page, k)] := by
    intro k page hk hm
    rw [List.mem_singleton.1 hm]
    exact ⟨k, hk, List.mem_singleton.2 rfl⟩
  cases pc with
  | remove_index page u => exact hone (by decide) h
  | remove_migrating page u => exact hone (by decide) h
  | remove_list page u => exact hone (by decide) h
  | remove_va page u => exact hone (by decide) h
  | remove_backing page u => exact hone (by decide) h
  | remove_reserve page reserve_page u => exact mem_held_cons (hone (by decide) h)
  | remove_free page in_dram u => exact hone (by decide) h
  | remove_done page u => exact hone (by decide) h
  | _ => exact absurd h List.not_mem_nil

/-! ## Pages that are being brought in -/

namespace Threads

/-- No eviction starts on a page between the moment a thread claims it for a swap-in and its last
assignment to the flags; no eviction sets `swapped_out` in between; and none stops at its
assertion. -/
structure Undisturbed (s : Threads) : Prop where
  apart : ∀ pc ∈ s.threads, ∀ pc' ∈ s.threads, ∀ p ∈ pc.claims, p ∉ pc'.evicts
  unmarked : ∀ t pc, s.threads[t]? = some pc → ∀ p ∈ pc.claims, s.marks p = s.since t p
  asserted : s.fault ≠ some .swapped_out

/-- The step takes no page that is migrating off a list of resident pages, and clears `swapped_out`
of no page whose eviction has its last assignment left. No thread is inside `munmap`. -/
def Settled (s : Threads) (l : Label) : Prop :=
  (∀ pc ∈ s.threads, pc.inMunmap = false) ∧
    ∀ pc ∈ s.threads[l.thread]?,
      (∀ p ∈ pc.takes l.choice s.shared.pol, (s.shared.pol.page p).migrating = false) ∧
        ∀ p ∈ pc.clears, (p, .stale) ∉ s.held

instance (s : Threads) (l : Label) : Decidable (s.Settled l) :=
  inferInstanceAs (Decidable (_ ∧ _))

variable {s : Threads} {l : Label}

theorem mem_held {k : Hold} (hpc : pc ∈ s.threads) (h : (p, k) ∈ pc.held) : (p, k) ∈ s.held :=
  List.mem_flatMap.2 ⟨pc, hpc, h⟩

/-- Only `munmap` holds structs that it has freed. -/
theorem inMunmap_of_freed (h : (p, .freed) ∈ pc.held) : pc.inMunmap = true := by
  have hjobs : ∀ jobs, (p, Hold.freed) ∉ jobsHeld jobs := by
    simp [jobsHeld]
  have hvictims : ∀ k victims, k ≠ .freed → (p, Hold.freed) ∉ victimsHeld k victims := by
    intro k victims hk
    simp [victimsHeld, hk.symm]
  have huse : ∀ use : Use, (p, Hold.freed) ∉ use.held := by
    intro use
    cases use <;> simp [Use.held, hjobs]
  have hscan : ∀ use : Option Use, (p, Hold.freed) ∉ (use.map Use.held).getD [] := by
    intro use
    cases use <;> simp [huse]
  have hwho : ∀ who : Evictor, (p, Hold.freed) ∉ who.held := by
    intro who
    cases who <;> simp [Evictor.held, hvictims, huse]
  have hspare : ∀ b d, (p, Hold.freed) ∉ spareHeld b d := by
    intro b d
    cases b <;> simp [spareHeld]
  cases pc <;> first
    | rfl
    | simp [Pc.held, hjobs, hvictims, huse, hscan, hwho, hspare] at h

/-- While nobody is inside `munmap`, the other conditions are empty. -/
theorem Settled.orderly (h : s.Settled l) : s.Orderly l := by
  obtain ⟨hout, hstep⟩ := h
  intro pc hpc
  have hpc' : pc.inMunmap = false := hout pc (List.mem_of_getElem? hpc)
  obtain ⟨htakes, hclears⟩ := hstep pc hpc
  refine ⟨htakes, hclears, fun p hp => ?_, fun p hp => ?_, fun p hp hm => ?_⟩
  · cases pc with
    | unmap_claim page u => cases hpc'
    | unmap_relock page u => cases hpc'
    | _ => cases hp
  · cases pc with
    | remove_va page u => cases hpc'
    | _ => cases hp
  · obtain ⟨pc', hin, hm⟩ := List.mem_flatMap.1 hm
    exact Bool.false_ne_true ((hout pc' hin).symm.trans (inMunmap_of_freed hm))

/-- The capacities of swap-ins and of evictions do not go together. -/
theorem not_free_swapin_evict {k k' : Hold} (hk : k ∈ Hold.swapin) (hk' : k' ∈ Hold.evict) :
    k ≠ k' ∧ ¬ k.Free k' := by
  cases k <;> first | exact absurd hk (by decide) | skip
  all_goals cases k' <;> first | exact absurd hk' (by decide) | exact ⟨nofun, id⟩

/-- **A page that is being brought in is not being evicted.** -/
theorem Safe.apart (h : Safe s) {pc' : Pc} (hpc : pc ∈ s.threads) (hpc' : pc' ∈ s.threads)
    (hp : p ∈ pc.claims) : p ∉ pc'.evicts := by
  intro hp'
  obtain ⟨k, hk, hm⟩ := Pc.mem_claims hp
  obtain ⟨k', hk', hm'⟩ := Pc.mem_evicts hp'
  obtain ⟨hne, hfree⟩ := not_free_swapin_evict hk hk'
  exact hfree (h.good.held.within (mem_held hpc hm) (mem_held hpc' hm') hne)

/-- An eviction sets the flag of no page that is being brought in. -/
theorem Safe.not_marked (h : Safe s) {pc' : Pc} (hpc : pc ∈ s.threads) (hpc' : pc' ∈ s.threads)
    (hp : p ∈ pc.claims) : pc'.marked.count p = 0 := by
  refine List.count_eq_zero.2 fun hp' => ?_
  obtain ⟨k, hk, hm⟩ := Pc.mem_claims hp
  obtain ⟨hne, hfree⟩ := not_free_swapin_evict hk (by decide : Hold.busy ∈ Hold.evict)
  exact hfree (h.good.held.within (mem_held hpc hm) (mem_held hpc' (Pc.mem_marked hp')) hne)

/-- No eviction has set the flag of a page since a thread claimed it. -/
def Unmarked (s : Threads) : Prop :=
  ∀ t pc, s.threads[t]? = some pc → ∀ p ∈ pc.claims, s.marks p = s.since t p

theorem step_unmarked (h : Safe s) (hu : Unmarked s) (l : Label) : Unmarked (step l s) := by
  rcases step_cases l s with he | ⟨pc, -, hpc, ⟨pc', shared, -, he⟩ | ⟨e, -, he⟩⟩
  · rw [he]
    exact hu
  · rw [he]
    have hin : pc ∈ s.threads := List.mem_of_getElem? hpc
    intro t pc'' hpc'' p hp
    simp only [moved] at hpc'' ⊢
    by_cases ht : t = l.thread
    · subst ht
      obtain ⟨hlt, -⟩ := List.getElem?_eq_some_iff.1 hpc
      rw [List.getElem?_set_self hlt] at hpc''
      cases hpc''
      by_cases hold : p ∈ pc.claims
      · rw [if_neg fun hc => hc.2.2 hold, h.not_marked hin hin hold, Nat.add_zero]
        exact hu _ pc hpc p hold
      · rw [if_pos ⟨rfl, hp, hold⟩]
    · rw [List.getElem?_set_ne (Ne.symm ht)] at hpc''
      rw [if_neg fun hc => ht hc.1, h.not_marked (List.mem_of_getElem? hpc'') hin hp, Nat.add_zero]
      exact hu t pc'' hpc'' p hp
  · rw [he]
    exact hu

/-- **Swap-ins are undisturbed** in the runs in which no thread is inside `munmap`, no page that is
migrating is taken off a list of resident pages, and `swapped_out` is not cleared while an eviction
of the page has its last assignment left. -/
theorem undisturbed_of_settled {shared : State Unit} (hidle : Idle shared.pol) (n : ℕ)
    {run : List Label} (hrun : Guarded.Meets step Settled run (idle shared n)) :
    Undisturbed (exec run (idle shared n)) := by
  have hstart : Unmarked (idle shared n) := by
    intro t pc hpc p hp
    rw [List.eq_of_mem_replicate (List.mem_of_getElem? hpc)] at hp
    cases hp
  obtain ⟨hsafe, hu⟩ := Guarded.exec_invariant (I := fun s => Safe s ∧ Unmarked s)
    (fun s l hs hg => ⟨step_safe hs.1 hg.orderly, step_unmarked hs.1 hs.2 l⟩)
    ⟨safe_idle hidle n, hstart⟩ hrun
  exact ⟨fun pc hpc pc' hpc' p hp => hsafe.apart hpc hpc' hp, hu, hsafe.fault⟩

/-- `n` steps of a thread without a choice. -/
def go (thread n : ℕ) : List Label := List.replicate n { thread := thread }

/-- The page at `4096` is mapped, found cold and evicted. -/
def evictedPage : Run Unit := [(1, .fault 4096 false ()), (1, .shrink_inactive 1), (1, .evict)]

/-- A handler brings the page in, up to its last section. -/
def bringIn (thread : ℕ) : List Label := { thread := thread, choice := .fault 4096 } :: go thread 9

/-- `kswapd` finds the first page of `inactive_list` cold. -/
def scanOnce (thread : ℕ) : List Label :=
  { thread := thread, choice := .kswapd } :: { thread := thread, choice := .scan_inactive } ::
    go thread 2

/-- An eviction worker evicts the first page of `eviction_list`, up to its critical section. -/
def evictOnce (thread : ℕ) : List Label :=
  { thread := thread, choice := .evictionworker } :: go thread 7

theorem undisturbed_bringIn : ∃ shared, Reaches 4096 8192 () {} evictedPage shared ∧
    (shared.pol.page 0).swapped_out = true ∧
    Undisturbed (exec (bringIn 0 ++ go 0 1 ++ scanOnce 1 ++ evictOnce 2) (idle shared 3)) := by
  have heval : passes (fun shared => decide ((shared.pol.page 0).swapped_out = true ∧
      Guarded.Meets step Settled (bringIn 0 ++ go 0 1 ++ scanOnce 1 ++ evictOnce 2)
        (idle shared 3)))
      ((do lrudisk_init; Run.exec evictedPage : Proc Unit Unit).run
        (State.blank 4096 8192 () {})) = true := by decide +kernel
  obtain ⟨⟨⟩, shared, hreach, ht⟩ := of_passes heval
  obtain ⟨hout, hrun⟩ := of_decide_eq_true ht
  exact ⟨shared, hreach, hout, undisturbed_of_settled (Reaches.idle hreach).1 3 hrun⟩

/-- The page is scanned and evicted while its handler still has the flags to reset. -/
theorem not_undisturbed_earlyScan : ∃ shared, Reaches 4096 8192 () {} evictedPage shared ∧
    (exec (bringIn 0 ++ scanOnce 1 ++ evictOnce 2) (idle shared 3)).fault = some .swapped_out ∧
    ¬ Undisturbed (exec (bringIn 0 ++ scanOnce 1 ++ evictOnce 2) (idle shared 3)) := by
  have heval : passes (fun shared => decide
      ((exec (bringIn 0 ++ scanOnce 1 ++ evictOnce 2) (idle shared 3)).fault = some .swapped_out))
      ((do lrudisk_init; Run.exec evictedPage : Proc Unit Unit).run
        (State.blank 4096 8192 () {})) = true := by decide +kernel
  obtain ⟨⟨⟩, shared, hreach, ht⟩ := of_passes heval
  have hfault := of_decide_eq_true ht
  exact ⟨shared, hreach, hfault, fun h => h.asserted hfault⟩

-- The other defect: the last assignment of an eviction comes after the next swap-in, and the
-- eviction after that stops at the assertion.
example : passes (fun shared => decide
    ((exec ({ thread := 0, choice := .evictionworker } :: go 0 11 ++ bringIn 1 ++ go 1 1 ++ go 0 1 ++
      scanOnce 2 ++ evictOnce 1) (idle shared 3)).fault = some .swapped_out))
    ((do lrudisk_init; Run.exec [(1, .fault 4096 false ()), (1, .shrink_inactive 1)] :
      Proc Unit Unit).run (State.blank 4096 8192 () {})) = true := by decide +kernel

/-! ## Exclusive claims -/

/-- No two threads have claimed the same page. -/
def Exclusive (s : Threads) : Prop :=
  ∀ (t t' : ℕ) (pc pc' : Pc), t ≠ t' → s.threads[t]? = some pc → s.threads[t']? = some pc' →
    ∀ p ∈ pc.claimed, p ∉ pc'.claimed

/-- The capacities of claims do not go together. -/
theorem not_free_claimed {k k' : Hold} (hk : k ∈ Hold.swapin ++ Hold.unmap)
    (hk' : k' ∈ Hold.swapin ++ Hold.unmap) : ¬ k.Free k' := by
  cases k <;> first | exact absurd hk (by decide) | skip
  all_goals cases k' <;> first | exact absurd hk' (by decide) | exact id

theorem mem_claimed (h : p ∈ pc.claimed) :
    ∃ k ∈ Hold.swapin ++ Hold.unmap, (p, k) ∈ pc.held := by
  rcases List.mem_append.1 h with h | h
  · obtain ⟨k, hk, hm⟩ := Pc.mem_claims h
    exact ⟨k, List.mem_append_left _ hk, hm⟩
  · obtain ⟨k, hk, hm⟩ := Pc.mem_unmapping h
    exact ⟨k, List.mem_append_right _ hk, hm⟩

/-- **Claims are exclusive** in the runs whose steps keep the rules for page structs: above all,
`munmap` claims a page only when it is not migrating and nobody is about to assign its flags. -/
theorem exclusive_of_orderly {shared : State Unit} (hidle : Idle shared.pol) (n : ℕ)
    {run : List Label} (hrun : Guarded.Meets step Orderly run (idle shared n)) :
    Exclusive (exec run (idle shared n)) := by
  have hsafe := exec_safe hidle n hrun
  intro t t' pc pc' hne hpc hpc' p hp hp'
  obtain ⟨k, hk, hm⟩ := mem_claimed hp
  obtain ⟨k', hk', hm'⟩ := mem_claimed hp'
  exact not_free_claimed hk hk' (hsafe.good.held.across hpc hpc' hne hm hm')

/-- The page at `4096` is mapped and found cold. -/
def coldPage : Run Unit := [(1, .fault 4096 false ()), (1, .shrink_inactive 1)]

/-- A worker evicts the page. Meanwhile `munmap` finds it migrating and waits. -/
def unmapWaits : List Label :=
  { thread := 0, choice := .evictionworker } :: go 0 1 ++
    { thread := 1, choice := .munmap 4096 4096 } :: go 1 2 ++ go 0 11 ++ go 1 1

/-- A handler claims the page. -/
def claimPage : List Label := { thread := 2, choice := .fault 4096 } :: go 2 1

theorem exclusive_unmapWaits : ∃ shared, Reaches 4096 8192 () {} coldPage shared ∧
    Exclusive (exec (unmapWaits ++ go 1 1) (idle shared 3)) := by
  have heval : passes (fun shared => decide
      (Guarded.Meets step Orderly (unmapWaits ++ go 1 1) (idle shared 3)))
      ((do lrudisk_init; Run.exec coldPage : Proc Unit Unit).run
        (State.blank 4096 8192 () {})) = true := by decide +kernel
  obtain ⟨⟨⟩, shared, hreach, ht⟩ := of_passes heval
  exact ⟨shared, hreach, exclusive_of_orderly (Reaches.idle hreach).1 3 (of_decide_eq_true ht)⟩

/-- When the eviction is over a handler claims the page, and `munmap` sets the flag once more. -/
theorem not_exclusive_relock : ∃ shared, Reaches 4096 8192 () {} coldPage shared ∧
    ¬ Exclusive (exec (unmapWaits ++ claimPage ++ go 1 1) (idle shared 3)) := by
  have heval : passes (fun shared => decide
      ((exec (unmapWaits ++ claimPage ++ go 1 1) (idle shared 3)).threads =
        [.idle, .remove_index 0 { left := 1, page_boundry := 4096, addr := 4096, length := 4096 },
          .lookup 0]))
      ((do lrudisk_init; Run.exec coldPage : Proc Unit Unit).run
        (State.blank 4096 8192 () {})) = true := by decide +kernel
  obtain ⟨⟨⟩, shared, hreach, ht⟩ := of_passes heval
  have hthreads := of_decide_eq_true ht
  refine ⟨shared, hreach, fun h => ?_⟩
  refine h 1 2 (.remove_index 0 { left := 1, page_boundry := 4096, addr := 4096, length := 4096 })
    (.lookup 0) (by decide) ?_ ?_ 0 (by decide) (by decide)
  · rw [hthreads]
    rfl
  · rw [hthreads]
    rfl

end Threads

end SwapPrefetch
