/-
Sequential prefetch and the contents of pages (`src/core.c:1684-1885`).

While no copy fails, `core_try_prefetch` is a swap-in of several pages at once: the first loop claims
them and finds their frames, the second reads each slot into an element of `prefetch_buffer`, and the
third maps each element at the page that it was read for. The elements are counted alike in the last
two, so every page is mapped with the bytes of its own slot.
-/
import Mathlib.Tactic
import SwapPrefetch.Contents
import SwapPrefetch.PrefetchCopies

set_option autoImplicit false

namespace SwapPrefetch

open Prog

variable {α : Type}

/-! ## The loops -/

/-- **Reads** put the bytes of each slot into its element of the buffer. -/
theorem prefetch_read_data (jobs : List (PageId × PageId)) (i : ℕ) {s s' : State α}
    (hio : s.mem.env.io_fails = []) (hrun : (prefetch_read jobs i).run s = .ok ((), s')) :
    s'.pol = s.pol ∧ s'.mem.pte = s.mem.pte ∧ s'.mem.store = s.mem.store ∧
      s'.mem.discarded = s.mem.discarded ∧ s'.mem.env.io_fails = [] ∧
      (∀ k, k < i → s'.mem.prefetch_buffer k = s.mem.prefetch_buffer k) ∧
      ∀ k j c, jobs[k]? = some j → s.mem.store (s.pol.page j.1).virtual_offset = some c →
        s'.mem.prefetch_buffer (i + k) = c := by
  induction jobs generalizing i s with
  | nil =>
      cases hrun
      refine ⟨rfl, rfl, rfl, rfl, hio, fun _ _ => rfl, fun k j c hj => ?_⟩
      rw [List.getElem?_nil] at hj
      cases hj
  | cons j jobs ih =>
      obtain ⟨p, f⟩ := j
      -- induction on the jobs: this turn fills the element `i`, the later ones those behind it
      let d := s.mem.disk_read (s.pol.page p).virtual_offset (s.mem.prefetch_buffer i)
      let s₁ : State α := ⟨s.pol, { s.mem.io_done with
        prefetch_buffer := Function.update s.mem.io_done.prefetch_buffer i d }⟩
      have hio₁ : s₁.mem.env.io_fails = [] := by
        show s.mem.env.io_fails.tail = []
        rw [hio]
        rfl
      rw [prefetch_read, run_bind_ok (run_get_page _ _), run_bind_ok (run_get_mem _),
        run_bind_ok (run_extmem_disk_read _ _ _), run_bind_ok (run_modify_mem _ _)] at hrun
      obtain ⟨hpol, hpte, hstore, hdis, hio', hbefore, hread⟩ := ih (i + 1) hio₁ hrun
      refine ⟨hpol, hpte, hstore, hdis, hio', fun k hk => ?_, fun k j c hj hc => ?_⟩
      · rw [hbefore k (Nat.lt_succ_of_lt hk)]
        exact Function.update_of_ne hk.ne _ _
      · rcases k with _ | k
        · -- this element is not written again
          have hpage : (p, f) = j := Option.some.inj hj
          rw [← hpage] at hc
          rw [hbefore (i + 0) (Nat.lt_succ_self i)]
          show Function.update s.mem.io_done.prefetch_buffer i d i = c
          rw [Function.update_self]
          show (if s.mem.env.io_fails.headD false then _ else (s.mem.store _).getD _) = c
          rw [hio, hc]
          rfl
        · have hnext := hread k j c hj hc
          rw [Nat.add_right_comm] at hnext
          exact hnext

/-- Clearing the flags of a page that was brought in changes nothing. -/
theorem SwapinTo.settled {P P' : Policy} {p f : PageId} (e : SwapinTo P P' p f) :
    P'.upd p UserPage.settled = P' := by
  have hpage : UserPage.settled (P'.page p) = P'.page p := by
    rw [e.page_p]
    rfl
  unfold Policy.upd
  rw [hpage, Function.update_eq_self]

/-- **Copies** map each page with its own element of the buffer. -/
theorem prefetch_finish_data (jobs : List (PageId × PageId)) (n : ℕ) {k : ℕ} {s s' : State α}
    (h : Busy s.pol jobs) (hd : DataOk s)
    (hbuffer : ∀ k j, jobs[k]? = some j →
      s.mem.store (s.pol.page j.1).virtual_offset = some (s.mem.prefetch_buffer (n + k)))
    (hcopies : ∀ c ∈ finish_copies jobs n s, c.failed = false)
    (hrun : (prefetch_finish jobs n).run s = .ok (k, s')) : DataOk s' := by
  induction jobs generalizing n s with
  | nil =>
      cases hrun
      exact hd
  | cons j jobs ih =>
      obtain ⟨p, f⟩ := j
      obtain ⟨hp, _, hpr, _⟩ := h.page p f List.mem_cons_self
      obtain ⟨_, _, hfr⟩ := h.frame p f List.mem_cons_self
      have hcopy := run_uffdio_copy (s := s) (s.pol.page p).va (s.mem.prefetch_buffer n)
      by_cases hrefused : s.mem.copy_refused (s.pol.page p).va
      · -- the first copy would have failed
        rw [if_pos hrefused] at hcopy
        simp only [finish_copies, hcopy] at hcopies
        exact absurd (hcopies _ List.mem_cons_self) (by simp)
      · rw [if_neg hrefused] at hcopy
        let m₁ := s.mem.copied (s.pol.page p).va (s.mem.prefetch_buffer n)
        obtain ⟨P', hack, e⟩ := run_ack (s := ⟨s.pol, m₁⟩) h
        have hspec := s.mem.copied_spec (s.pol.page p).va (s.mem.prefetch_buffer n)
        have hmapped : MappedTo s ⟨P', m₁⟩ p f (s.mem.prefetch_buffer n) := by
          refine ⟨?_, ?_, hspec, (hd.evicted p hp hpr).1⟩
          · show SwapinTo s.pol (P'.upd p UserPage.settled) p f
            rw [e.settled]
            exact e
          · show (P'.page p).va = _
            rw [e.page_p]
        have hd₁ : DataOk ⟨P', m₁⟩ := by
          have hmap := hd.mapped h.inv hp hpr hfr hmapped (hbuffer 0 (p, f) rfl)
          simp only [e.settled] at hmap
          exact hmap
        simp only [finish_copies, hcopy] at hcopies
        rw [show (⟨s.pol, m₁⟩ : State α) = { s with mem := m₁ } from rfl] at hack
        simp only [m₁] at hack
        simp only [hack] at hcopies
        rw [prefetch_finish, run_bind_ok (run_get_page _ _), run_bind_ok (run_get_mem _),
          run_bind_ok hcopy] at hrun
        have hrest : (prefetch_finish jobs (n + 1)).run ⟨P', m₁⟩ = .ok (k, s') := by
          have := run_bind_ok (f := fun _ => prefetch_finish jobs (n + 1)) hack
          simp only [bind_assoc] at this
          exact this.symm.trans hrun
        refine ih (n + 1) (h.settle e) hd₁ (fun k j hj => ?_)
          (fun c hc => hcopies c (List.mem_cons_of_mem _ hc)) hrest
        -- the pages that are still to be copied are as they were
        have hmem : j ∈ jobs := List.mem_of_getElem? hj
        have hdist := h.distinct
        simp only [held_cons, List.nodup_cons, List.mem_cons, not_or] at hdist
        have hheld : j.1 ∈ held jobs := List.mem_flatMap.2 ⟨j, hmem, by simp⟩
        have hjp : j.1 ≠ p := fun heq => hdist.1.2 (heq ▸ hheld)
        have hjf : j.1 ≠ f := fun heq => hdist.2.1 (heq ▸ hheld)
        have hold := hbuffer (k + 1) j hj
        have hbuf : m₁.prefetch_buffer = s.mem.prefetch_buffer :=
          s.mem.app_turn_appStep.rest.prefetch_buffer
        show m₁.store (P'.page j.1).virtual_offset = some (m₁.prefetch_buffer (n + 1 + k))
        rw [e.page_ne j.1 hjp hjf, hspec.store, hbuf, hold, Nat.add_assoc, Nat.add_comm 1 k]

/-- **Sequential prefetch keeps the contents** when none of its copies fails. -/
theorem core_try_prefetch_data {s s' : State α} {fuel base k : ℕ} (h : Idle s.pol) (hd : DataOk s)
    (hcopies : ∀ c ∈ prefetch_copies fuel base s, c.failed = false)
    (hrun : (core_try_prefetch fuel base).run s = .ok (k, s')) : DataOk s' := by
  obtain ⟨_, s₀, hcheck, hrun⟩ := bind_eq_ok hrun
  obtain ⟨jobs, s₁, hselect, hrun⟩ := bind_eq_ok hrun
  obtain ⟨_, s₂, hread, hfinish⟩ := bind_eq_ok hrun
  obtain rfl : s₀ = s := (check_eq_ok hcheck).2
  have hselected := (prefetch_select_ends fuel CORE_PREFETCH_RATE base s₀ [] h).of_ok hselect
  have hbusy := hselected.busy
  have hd₁ := hselected.data hd
  obtain ⟨hpol, hpte, hstore, hdis, hio, -, hbuffer⟩ := prefetch_read_data jobs 0 hd₁.io hread
  have hd₂ : DataOk s₂ := by
    refine ⟨hio, ?_, ?_⟩
    · rw [hpol, hpte, hstore]
      exact hd₁.resident
    · rw [hpol, hpte, hstore, hdis]
      exact hd₁.evicted
  have hbusy₂ : Busy s₂.pol jobs := by
    rw [hpol]
    exact hbusy
  simp only [prefetch_copies, hselect, hread] at hcopies
  refine prefetch_finish_data jobs 0 hbusy₂ hd₂ (fun k j hj => ?_) hcopies hfinish
  -- the page is evicted, so its slot holds its bytes
  obtain ⟨hp, _, hpr, _⟩ := hbusy.page j.1 j.2 (List.mem_of_getElem? hj)
  obtain ⟨_, c, hc, _⟩ := hd₁.evicted j.1 hp hpr
  rw [hpol, hstore, hc, hbuffer k j c hj hc]

end SwapPrefetch
