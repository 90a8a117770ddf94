/-
Failed copies of a sequential prefetch (`src/core.c:1838-1881`).

The last loop of `core_try_prefetch` maps each page that was read, acknowledges its swap-in and
counts it. A failed `UFFDIO_COPY` is only reported: the page is acknowledged and counted all the
same, so it ends as resident without a mapping, and the next access to it is taken for a
write-protection fault. This holds in every state, for every pattern of failures.
-/
import SwapPrefetch.StorageErrors

set_option autoImplicit false

namespace SwapPrefetch

open Prog

variable {α : Type}

/-! ## Copies -/

/-- A copy that the loop made: the page, the frame that it holds for the page, and whether the copy
failed. -/
structure Copy where
  page : PageId
  freepage : PageId
  failed : Bool

/-- The copies that `prefetch_finish` makes; the arguments are its own. -/
def finish_copies : List (PageId × PageId) → ℕ → State α → List Copy
  | [], _, _ => []
  | (page, freepage) :: rest, finished_jobs, s =>
      match (uffdio_copy (s.pol.page page).va (s.mem.prefetch_buffer finished_jobs)).run s with
      | .error _ => []
      | .ok (ret, s) =>
          ⟨page, freepage, ret == -1⟩ ::
            match (do
                lrudisk_ack_swapin page freepage
                set_page page fun p => { p with in_dram := true }
                set_page page fun p => { p with swapped_out := false, migrating := false } :
                  Proc α Unit).run s with
            | .error _ => []
            | .ok (_, s) => finish_copies rest (finished_jobs + 1) s

/-- The copies that `core_try_prefetch` makes. -/
def prefetch_copies (fuel base_boundry : ℕ) (s : State α) : List Copy :=
  match (prefetch_select fuel CORE_PREFETCH_RATE base_boundry).run s with
  | .error _ => []
  | .ok (jobs, s) =>
      match (prefetch_read jobs 0).run s with
      | .error _ => []
      | .ok (_, s) => finish_copies jobs 0 s

/-- A run of the loop that returns makes one copy for each page, and counts them all. -/
theorem finish_copies_spec {jobs : List (PageId × PageId)} {n k : ℕ} {s s' : State α}
    (hrun : (prefetch_finish jobs n).run s = .ok (k, s')) :
    (finish_copies jobs n s).map Copy.page = jobs.map Prod.fst ∧
      k = n + (finish_copies jobs n s).length := by
  induction jobs generalizing n s with
  | nil =>
      cases hrun
      exact ⟨rfl, rfl⟩
  | cons j jobs ih =>
      obtain ⟨p, f⟩ := j
      rw [prefetch_finish, run_bind_ok (run_get_page _ _), run_bind_ok (run_get_mem _)] at hrun
      obtain ⟨ret, s₁, hcopy, hrun⟩ := bind_eq_ok hrun
      obtain ⟨_, s₂, hack, hrun⟩ := bind_eq_ok hrun
      rw [run_bind_ok (run_set_page _ _ _), run_bind_ok (run_set_page _ _ _)] at hrun
      -- the acknowledgement and the assignments are one step of the copies
      let s₃ : State α := ⟨(s₂.pol.upd p fun p => { p with in_dram := true }).upd p
        fun p => { p with swapped_out := false, migrating := false }, s₂.mem⟩
      have hrest : (prefetch_finish jobs (n + 1)).run s₃ = .ok (k, s') := hrun
      have hbody : (do
          lrudisk_ack_swapin p f
          set_page p fun p => { p with in_dram := true }
          set_page p fun p => { p with swapped_out := false, migrating := false } :
            Proc α Unit).run s₁ = .ok ((), s₃) := by
        rw [run_bind_ok hack, run_bind_ok (run_set_page _ _ _)]
        exact run_set_page _ _ _
      obtain ⟨hpages, hcount⟩ := ih hrest
      simp only [finish_copies, hcopy, hbody]
      refine ⟨?_, ?_⟩
      · rw [List.map_cons, List.map_cons, hpages]
      · rw [List.length_cons, hcount]
        omega

/-! ## Failed copies -/

/-- **The failed copies are contained**: their pages are left swapped out, their frames are free,
and they are not counted. A later access to such a page is a major fault, since it is marked as
swapped out. -/
structure CopiesContained (s : State α) (copies : List Copy) (count : ℕ) (s' : State α) :
    Prop where
  swapped_out : ∀ c ∈ copies, c.failed = true → (s'.pol.page c.page).swapped_out = true ∧
    (s'.pol.page c.page).in_dram = false ∧ c.page ∈ s'.pol.lists .disk_active_list ∧
    (s'.pol.page c.page).virtual_offset = (s.pol.page c.page).virtual_offset
  frame : ∀ c ∈ copies, c.failed = true → c.freepage ∈ s'.pol.lists .dram_free_list
  count : count = (copies.filter fun c => !c.failed).length

/-- **The failed copies of a prefetch are contained exactly if there are none.** -/
theorem copies_contained_iff_none_failed {s s' : State α} {fuel base k : ℕ}
    (hrun : (core_try_prefetch fuel base).run s = .ok (k, s')) :
    CopiesContained s (prefetch_copies fuel base s) k s' ↔
      ∀ c ∈ prefetch_copies fuel base s, c.failed = false := by
  obtain ⟨_, s₀, hcheck, hrun⟩ := bind_eq_ok hrun
  obtain ⟨jobs, s₁, hselect, hrun⟩ := bind_eq_ok hrun
  obtain ⟨_, s₂, hread, hfinish⟩ := bind_eq_ok hrun
  obtain rfl : s₀ = s := (check_eq_ok hcheck).2
  have hcopies : prefetch_copies fuel base s₀ = finish_copies jobs 0 s₂ := by
    simp only [prefetch_copies, hselect, hread]
  obtain ⟨hpages, hcount⟩ := finish_copies_spec hfinish
  have hin := ((prefetch_finish_in jobs 0 s₂).of_ok hfinish).1
  rw [hcopies]
  rw [Nat.zero_add] at hcount
  constructor
  · intro h c hc
    by_contra hfailed
    rw [Bool.not_eq_false] at hfailed
    -- the page of the failed copy was acknowledged like the others
    have hmem : c.page ∈ jobs.map Prod.fst := by
      rw [← hpages]
      exact List.mem_map_of_mem hc
    obtain ⟨j, hj, hpage⟩ := List.mem_map.1 hmem
    have hout := (h.swapped_out c hc hfailed).2.1
    rw [← hpage, show (s'.pol.page j.1).in_dram = true from hin j hj] at hout
    cases hout
  · intro hnone
    refine ⟨fun c hc hfailed => ?_, fun c hc hfailed => ?_, ?_⟩
    · rw [hnone c hc] at hfailed
      cases hfailed
    · rw [hnone c hc] at hfailed
      cases hfailed
    · rw [List.filter_eq_self.2 fun c hc => by rw [hnone c hc]; rfl]
      exact hcount

/-- The page at 8192 is evicted; its copy by a prefetch fails if the second outcome says so. -/
def oneEvicted : Run ℕ := [(1, .fault 8192 false 0), (1, .shrink_inactive 1), (1, .evict)]

theorem copies_contained_iff_none_failed_oneEvicted :
    ∃ s k s', Reaches 4096 8192 (0 : ℕ) {} oneEvicted s ∧
      (core_try_prefetch 1 4096).run s = .ok (k, s') ∧
      (CopiesContained s (prefetch_copies 1 4096 s) k s' ↔
        ∀ c ∈ prefetch_copies 1 4096 s, c.failed = false) := by
  have heval : passes (fun s => passes (fun _ => true) ((core_try_prefetch 1 4096).run s))
      ((do lrudisk_init; oneEvicted.exec : Proc ℕ Unit).run (State.blank 4096 8192 0 {})) =
        true := by
    decide +kernel
  obtain ⟨⟨⟩, s, hs, hprefetch⟩ := of_passes heval
  obtain ⟨k, s', hrun, -⟩ := of_passes hprefetch
  exact ⟨s, k, s', hs, hrun, copies_contained_iff_none_failed hrun⟩

/-- The copy of the page at 8192 fails, and the page ends in DRAM without a mapping. -/
theorem not_copies_contained_failedCopy :
    ¬ ∀ s k s', Reaches 4096 8192 (0 : ℕ) { copy_fails := [false, true] } oneEvicted s →
      (core_try_prefetch 1 4096).run s = .ok (k, s') →
        CopiesContained s (prefetch_copies 1 4096 s) k s' := by
  intro hall
  have heval : passes (fun s => (prefetch_copies 1 4096 s).any (fun c => c.failed && c.page == 0) &&
      passes (fun s' => (s'.pol.page 0).in_dram) ((core_try_prefetch 1 4096).run s))
      ((do lrudisk_init; oneEvicted.exec : Proc ℕ Unit).run
        (State.blank 4096 8192 0 { copy_fails := [false, true] })) = true := by
    decide +kernel
  obtain ⟨⟨⟩, s, hs, htest⟩ := of_passes heval
  obtain ⟨hany, hprefetch⟩ := Bool.and_eq_true_iff.1 htest
  obtain ⟨k, s', hrun, hin⟩ := of_passes hprefetch
  obtain ⟨c, hc, hfailed⟩ := List.any_eq_true.1 hany
  obtain ⟨hfailed, hpage⟩ := Bool.and_eq_true_iff.1 hfailed
  have hout := ((hall s k s' hs hrun).swapped_out c hc hfailed).2.1
  rw [eq_of_beq hpage, hin] at hout
  cases hout

end SwapPrefetch
