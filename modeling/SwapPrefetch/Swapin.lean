/-
Swap-in: the synchronous routine, the asynchronous one, and the acknowledgement of a
sequential prefetch.

All three end in the same exchange (`SwapinTo`): the page takes the frame's DRAM
offset, and the frame's struct takes the page's disk slot and is linked to the page as
its reserve. They differ in when the page leaves `disk_active_list`, and in what is
mapped: the synchronous routine maps what it reads from the slot, the asynchronous one
maps what the thread's buffer holds.
-/
import Mathlib.Tactic
import SwapPrefetch.Reclaim

set_option autoImplicit false

namespace SwapPrefetch

open Prog

variable {α : Type}

/-! ## The steps of a swap-in -/

/-- Taking an evicted page off `disk_active_list`. -/
theorem run_lrudisk_detach_page {s : State α} (h : Inv s.pol) {p : PageId}
    (hl : (s.pol.page p).list = some .disk_active_list) :
    (lrudisk_detach_page p).run s
      = .ok ((), { s with pol := s.pol.unlink .disk_active_list p }) := by
  have hrun := run_tryremove (s := s) hl ((h.mem_iff _ _).2 hl)
  simp [lrudisk_detach_page, hl, hrun]

/-- The memory after a synchronous read and copy. -/
def Mem.read_in (m : Mem α) (va off : ℕ) : Mem α :=
  { m.io_done with buffer_space := m.disk_read off m.buffer_space }.copied va
    (m.disk_read off m.buffer_space)

/-- `extmem_migrate_updisk` within the bounds. -/
theorem run_extmem_migrate_updisk {s : State α} {p : PageId} {o : ℕ}
    (hin : (s.pol.page p).in_dram = false)
    (hdisk : (s.pol.page p).virtual_offset + PAGE_SIZE ≤ s.pol.disksize)
    (hdram : o + PAGE_SIZE ≤ s.pol.dramsize) (hal : (s.pol.page p).va % PAGE_SIZE = 0) :
    (extmem_migrate_updisk p o).run s =
      if s.mem.copy_refused (s.pol.page p).va then .error .uffdio_copy
      else .ok ((),
        { pol := s.pol.upd p fun q => { q with virtual_offset := o, in_dram := true }
          mem := s.mem.read_in (s.pol.page p).va (s.pol.page p).virtual_offset }) := by
  have h₁ : (s.pol.page p).virtual_offset < s.pol.disksize := by
    simp only [PAGE_SIZE] at hdisk
    omega
  have h₂ : o < s.pol.dramsize := by
    simp only [PAGE_SIZE] at hdram
    omega
  split
  case isTrue hc =>
    rw [← Mem.copy_refused_read s.mem
      (s.mem.disk_read (s.pol.page p).virtual_offset s.mem.buffer_space)] at hc
    simp [extmem_migrate_updisk, run_extmem_disk_read, run_uffdio_copy, hin, h₁, h₂, hc]
  case isFalse hc =>
    rw [← Mem.copy_refused_read s.mem
      (s.mem.disk_read (s.pol.page p).virtual_offset s.mem.buffer_space)] at hc
    simp [extmem_migrate_updisk, run_extmem_disk_read, run_uffdio_copy, Mem.read_in, hin, h₁, h₂,
      hc, hal]

/-- `core_migrate_up_async_start` only checks. -/
theorem run_core_migrate_up_async_start {s : State α} {p : PageId}
    (hin : (s.pol.page p).in_dram = false)
    (hdisk : (s.pol.page p).virtual_offset + PAGE_SIZE ≤ s.pol.disksize) :
    (core_migrate_up_async_start p).run s = .ok ((), s) := by
  have h₁ : (s.pol.page p).virtual_offset < s.pol.disksize := by
    simp only [PAGE_SIZE] at hdisk
    omega
  simp [core_migrate_up_async_start, hin, h₁, hdisk]

/-- `core_migrate_up_async_finish` maps the thread's buffer as it is. -/
theorem run_core_migrate_up_async_finish {s : State α} {p : PageId} {o : ℕ}
    (hin : (s.pol.page p).in_dram = false)
    (hdisk : (s.pol.page p).virtual_offset + PAGE_SIZE ≤ s.pol.disksize)
    (hdram : o + PAGE_SIZE ≤ s.pol.dramsize) (hal : (s.pol.page p).va % PAGE_SIZE = 0) :
    (core_migrate_up_async_finish p o).run s =
      if s.mem.copy_refused (s.pol.page p).va then .error .uffdio_copy
      else .ok ((),
        { pol := s.pol.upd p fun q => { q with virtual_offset := o, in_dram := true }
          mem := s.mem.copied (s.pol.page p).va s.mem.buffer_space }) := by
  have h₁ : (s.pol.page p).virtual_offset < s.pol.disksize := by
    simp only [PAGE_SIZE] at hdisk
    omega
  have h₂ : o < s.pol.dramsize := by
    simp only [PAGE_SIZE] at hdram
    omega
  split
  case isTrue hc =>
    simp [core_migrate_up_async_finish, run_uffdio_copy, hin, h₁, h₂, hc, hdisk, hdram]
  case isFalse hc =>
    simp [core_migrate_up_async_finish, run_uffdio_copy, hin, h₁, h₂, hc, hal, hdisk, hdram]

/-- The policy's state after `link_reserve`. -/
def Policy.link_reserve (P : Policy) (p f : PageId) : Policy :=
  ((((P.upd f fun q => { q with reserve := some p }).upd p fun q =>
    { q with reserve := some f, has_reserve := true }).upd f fun q =>
    { q with has_reserve := true }).enq .disk_reserve_list f).enq .inactive_list p

theorem run_link_reserve {s : State α} {p f : PageId} (hpf : p ≠ f)
    (hp : (s.pol.page p).list = none) (hf : (s.pol.page f).list = none) :
    (link_reserve p f).run s = .ok ((), { s with pol := s.pol.link_reserve p f }) := by
  let P := ((s.pol.upd f fun q => { q with reserve := some p }).upd p fun q =>
    { q with reserve := some f, has_reserve := true }).upd f fun q => { q with has_reserve := true }
  have h₁ := run_enqueue_fifo (s := ⟨P, s.mem⟩) (q := .disk_reserve_list) (i := f)
    (by simp [P, Policy.upd_page_ne, hpf.symm, hf])
  have h₂ := run_enqueue_fifo (s := ⟨P.enq .disk_reserve_list f, s.mem⟩) (q := .inactive_list)
    (i := p) (by simp [P, Policy.upd_page_ne, Policy.enq_page_ne, hpf, hp])
  simp only [P] at h₁ h₂
  simp [link_reserve, Policy.link_reserve, h₁, h₂]

section LinkReserve

variable {P : Policy} {p f : PageId}

theorem Policy.link_reserve_page_p (hpf : p ≠ f) :
    (P.link_reserve p f).page p =
      { P.page p with
        reserve := some f, has_reserve := true, list := some .inactive_list } := by
  simp [Policy.link_reserve, Policy.upd_page_ne, Policy.enq_page_ne, hpf]

theorem Policy.link_reserve_page_f (hpf : p ≠ f) :
    (P.link_reserve p f).page f =
      { P.page f with
        reserve := some p, has_reserve := true, list := some .disk_reserve_list } := by
  simp [Policy.link_reserve, Policy.upd_page_ne, Policy.enq_page_ne, hpf.symm]

theorem Policy.link_reserve_page_ne {i : PageId} (hip : i ≠ p) (hif : i ≠ f) :
    (P.link_reserve p f).page i = P.page i := by
  simp [Policy.link_reserve, Policy.upd_page_ne, Policy.enq_page_ne, hip, hif]

theorem Policy.link_reserve_linked (h : P.WellLinked) (hpf : p ≠ f)
    (hp : (P.page p).list = none) (hf : (P.page f).list = none) :
    (P.link_reserve p f).WellLinked := by
  refine Policy.WellLinked.enq (Policy.WellLinked.enq (((h.upd rfl).upd rfl).upd rfl) ?_) ?_
  · simp [Policy.upd_page_ne, hpf.symm, hf]
  · simp [Policy.upd_page_ne, Policy.enq_page_ne, hpf, hp]

end LinkReserve

/-- The end of the swap-in routines, from the state `s` in which the page has been
mapped: give the frame's struct the slot at `off`, and link the two. -/
def State.release (s : State α) (p f : PageId) (off : ℕ) : State α :=
  { s with
    pol := (s.pol.upd f fun q =>
      { q with
        virtual_offset := off, in_dram := false, swapped_out := true
        migrating := false }).link_reserve p f }

theorem run_release {s : State α} {p f : PageId} {off : ℕ} (hpf : p ≠ f)
    (hp : (s.pol.page p).list = none) (hf : (s.pol.page f).list = none) :
    (do
      set_page f fun q =>
        { q with
          virtual_offset := off, in_dram := false, swapped_out := true
          migrating := false }
      link_reserve p f : Proc α Unit).run s = .ok ((), s.release p f off) := by
  rw [run_bind_ok (run_set_page _ _ _), run_link_reserve hpf]
  · rfl
  · simp [Policy.upd_page_ne, hpf, hp]
  · simp [hf]

/-! ## The swap-in routines -/

/-- The struct of a page once its fault handler is done with it. -/
def UserPage.settled (p : UserPage) : UserPage := { p with swapped_out := false, migrating := false }

/-- From the state `s₁` in which the frame `f` was found, the page `p` was brought in
with the bytes `d`; its handler still has to clear two flags. -/
structure MappedTo (s₁ s' : State α) (p f : PageId) (d : α) : Prop where
  pol : SwapinTo s₁.pol (s'.pol.upd p UserPage.settled) p f
  va : (s'.pol.page p).va = (s₁.pol.page p).va
  mem : MappedIn s₁.mem s'.mem (s₁.pol.page p).va d
  unmapped : s₁.mem.pte (s₁.pol.page p).va = none

/-- The last steps of both routines, from the policy state `Q` in which the page has
been detached. -/
theorem MappedTo.of_release {s₁ : State α} {p f : PageId} {d : α} {Q : Policy} {n : Mem α}
    (hpf : p ≠ f) (hfix : Fixed s₁.pol Q) (hlinked : Q.WellLinked)
    (hp : Q.page p = { s₁.pol.page p with list := none })
    (hne : ∀ i, i ≠ p → Q.page i = s₁.pol.page i) (hf : (s₁.pol.page f).list = none)
    (hm : MappedIn s₁.mem n (s₁.pol.page p).va d)
    (hun : s₁.mem.pte (s₁.pol.page p).va = none) :
    MappedTo s₁
      (State.release
        { pol := Q.upd p fun q =>
            { q with virtual_offset := (s₁.pol.page f).virtual_offset, in_dram := true }
          mem := n } p f (s₁.pol.page p).virtual_offset) p f d := by
  have hf' : Q.page f = s₁.pol.page f := hne f hpf.symm
  refine ⟨⟨?_, ?_, ?_, ?_, fun i hip hif => ?_⟩, ?_, hm, hun⟩
  · refine (hfix.trans ⟨?_, ?_, ?_, ?_⟩ : Fixed s₁.pol _) <;>
      simp [State.release, Policy.link_reserve]
  · refine Policy.WellLinked.upd (Policy.link_reserve_linked ((hlinked.upd rfl).upd rfl) hpf
      ?_ ?_) rfl
    · simp [Policy.upd_page_ne, hpf, hp]
    · simp [Policy.upd_page_ne, hpf.symm, hf', hf]
  · simp [State.release, Policy.link_reserve_page_p hpf, Policy.upd_page_ne, hpf, hp,
      UserPage.settled]
  · simp [State.release, Policy.link_reserve_page_f hpf, Policy.upd_page_ne, hpf.symm, hf']
  · simp [State.release, Policy.link_reserve_page_ne hip hif, Policy.upd_page_ne, hip, hif,
      hne i hip]
  · simp [State.release, Policy.link_reserve_page_p hpf, Policy.upd_page_ne, hpf, hp]

/-- A found frame is not the page it was found for. -/
theorem Fetched.ne {s s₁ : State α} {p f : PageId} (h : Fetched s s₁ f)
    (hr : (s.pol.page p).va ≠ 0) : p ≠ f := by
  rintro rfl
  have := (UserPage.role_frame.1 h.frame).2
  rw [h.step.va] at this
  exact hr this

/-- The state both routines end in, from the state `s` in which the frame `f` was found
and the page is on no list: the contents are `m`. -/
def State.brought_in (s : State α) (p f : PageId) (m : Mem α) : State α :=
  State.release
    { pol := s.pol.upd p fun q =>
        { q with virtual_offset := (s.pol.page f).virtual_offset, in_dram := true }
      mem := m } p f (s.pol.page p).virtual_offset

/-- `lrudisk_swapin_external` once the frame is found: the copy is refused, or the page is
brought in. -/
theorem run_lrudisk_swapin_external {fuel : ℕ} {s s₁ : State α} {p f : PageId} (h : Inv s.pol)
    (hl : (s.pol.page p).list = some .disk_active_list) (hf : Fetched s s₁ f)
    (hrun : (fetch_free_asynch fuel).run s = .ok (f, s₁)) :
    (lrudisk_swapin_external fuel p).run s =
      if s₁.mem.copy_refused (s.pol.page p).va then .error .uffdio_copy
      else .ok ((), State.brought_in { s₁ with pol := s₁.pol.unlink .disk_active_list p } p f
        (s₁.mem.read_in (s.pol.page p).va (s.pol.page p).virtual_offset)) := by
  obtain ⟨hin, hva⟩ := UserPage.role_evicted.1 (h.role_of_list hl rfl)
  -- the page has not moved while the frame was searched
  have hp₁ : s₁.pol.page p = s.pol.page p := hf.step.evicted p hl
  have hl₁ : (s₁.pol.page p).list = some .disk_active_list := by rw [hp₁]; exact hl
  have hpf : p ≠ f := hf.ne hva
  have hlt := hf.inv.lt_of_list hl₁
  have hdisk := hf.inv.disk_bound hlt (by rw [hp₁]; exact hin)
  have hfin := (UserPage.role_frame.1 hf.frame).1
  have hdram := hf.inv.dram_bound hf.lt hfin
  rw [lrudisk_swapin_external, run_bind_ok (run_get_page _ _), run_bind_ok hrun,
    run_bind_ok (run_get_page _ _), run_check_bind hfin,
    run_bind_ok (run_lrudisk_detach_page hf.inv hl₁), run_bind_ok (run_get_page _ _),
    Policy.unlink_page_ne _ _ hpf.symm, ← hp₁]
  have hup := run_extmem_migrate_updisk (p := p) (o := (s₁.pol.page f).virtual_offset)
    (s := { s₁ with pol := s₁.pol.unlink .disk_active_list p })
    (by rw [Policy.unlink_page_self, hp₁]; exact hin)
    (by rw [Policy.unlink_page_self]; exact hdisk) hdram
    (by rw [Policy.unlink_page_self]; exact (hf.inv.struct p hlt).aligned)
  rw [Policy.unlink_page_self] at hup
  split at hup
  case isTrue hc => rw [run_bind_error hup, if_pos hc]
  case isFalse hc =>
    rw [run_bind_ok hup, if_neg hc, run_release hpf]
    · simp [State.brought_in, Policy.unlink_page_ne, hpf.symm]
    · simp
    · rw [Policy.upd_page_ne _ _ hpf.symm, Policy.unlink_page_ne _ _ hpf.symm]
      exact hf.loose

/-- **The synchronous swap-in** maps the page's slot of the store. -/
theorem lrudisk_swapin_external_ends (fuel : ℕ) {s : State α} {p : PageId} (h : Inv s.pol)
    (hl : (s.pol.page p).list = some .disk_active_list) :
    Ends ((lrudisk_swapin_external fuel p).run s)
      (fun _ s' => ∃ s₁ f, Fetched s s₁ f ∧ s'.mem.page_cache = s₁.mem.page_cache ∧
        MappedTo s₁ s' p f
          (s₁.mem.disk_read (s.pol.page p).virtual_offset s₁.mem.buffer_space))
      (Short s.pol) := by
  have hfetch := fetch_free_asynch_ends fuel s h
  rcases hrun : (fetch_free_asynch fuel).run s with e | ⟨f, s₁⟩
  · refine Ends.of_throw ?_ (hfetch.of_error hrun)
    rw [lrudisk_swapin_external, run_bind_ok (run_get_page _ _), run_bind_error hrun]
  · have hf := hfetch.of_ok hrun
    have hva := (UserPage.role_evicted.1 (h.role_of_list hl rfl)).2
    have hp₁ : s₁.pol.page p = s.pol.page p := hf.step.evicted p hl
    have hl₁ : (s₁.pol.page p).list = some .disk_active_list := by rw [hp₁]; exact hl
    have hpf : p ≠ f := hf.ne hva
    rw [run_lrudisk_swapin_external h hl hf hrun, ← hp₁]
    split
    case isTrue => exact calm_uffdio_copy.short _
    case isFalse hc =>
      refine ⟨s₁, f, hf, Mem.copied_page_cache _ _ _, ?_⟩
      have hmapped := MappedTo.of_release (d := s₁.mem.disk_read (s₁.pol.page p).virtual_offset
          s₁.mem.buffer_space) (n := s₁.mem.read_in (s₁.pol.page p).va
          (s₁.pol.page p).virtual_offset) hpf ⟨by simp, by simp, by simp, by simp⟩
        (hf.inv.linked.unlink hl₁) (Policy.unlink_page_self _ _ _)
        (fun i hi => Policy.unlink_page_ne _ _ hi) hf.loose ?_ (Mem.unmapped_of_not_refused hc)
      · simpa [State.brought_in, Policy.unlink_page_ne, hpf.symm] using hmapped
      · have hcopy := Mem.copied_spec
          { s₁.mem.io_done with
            buffer_space := s₁.mem.disk_read (s₁.pol.page p).virtual_offset s₁.mem.buffer_space }
          (s₁.pol.page p).va (s₁.mem.disk_read (s₁.pol.page p).virtual_offset s₁.mem.buffer_space)
        refine ⟨hcopy.others, hcopy.entry, hcopy.store, hcopy.discarded, fun hio => ?_⟩
        exact hcopy.io_fails (by simp [Mem.io_done, hio])

/-- The first half of the asynchronous transfer, called on a page taken off its list. -/
theorem Inv.run_async_start {s : State α} {p : PageId} (h : Inv s.pol)
    (hl : (s.pol.page p).list = some .disk_active_list) :
    (core_migrate_up_async_start p).run { s with pol := s.pol.unlink .disk_active_list p }
      = .ok ((), { s with pol := s.pol.unlink .disk_active_list p }) := by
  have hin := (UserPage.role_evicted.1 (h.role_of_list hl rfl)).1
  refine run_core_migrate_up_async_start (s := { s with pol := s.pol.unlink .disk_active_list p })
    ?_ ?_
  · rw [Policy.unlink_page_self]
    exact hin
  · rw [Policy.unlink_page_self]
    exact h.disk_bound (h.lt_of_list hl) hin

/-- What comes before the search in the asynchronous routine does not fail. -/
theorem run_lrudisk_swapin_external_async_error {fuel : ℕ} {s : State α} {p : PageId} {e : Fault}
    (h : Inv s.pol) (hl : (s.pol.page p).list = some .disk_active_list)
    (hrun : (fetch_free_asynch fuel).run { s with pol := s.pol.unlink .disk_active_list p }
      = .error e) :
    (lrudisk_swapin_external_async fuel p).run s = .error e := by
  have hin := (UserPage.role_evicted.1 (h.role_of_list hl rfl)).1
  rw [lrudisk_swapin_external_async, run_bind_ok (run_get_page _ _),
    run_bind_ok (run_lrudisk_detach_page h hl), run_bind_ok (run_get_page _ _), if_neg
      (by rw [Policy.unlink_page_self]; simp [hin]), run_bind_ok (h.run_async_start hl),
    run_bind_error hrun]

/-- `lrudisk_swapin_external_async` once the frame is found: the copy is refused, or the
page is brought in with what the buffer holds. -/
theorem run_lrudisk_swapin_external_async {fuel : ℕ} {s s₁ : State α} {p f : PageId}
    (h : Inv s.pol) (hl : (s.pol.page p).list = some .disk_active_list)
    (hf : Fetched { s with pol := s.pol.unlink .disk_active_list p } s₁ f)
    (hrun : (fetch_free_asynch fuel).run { s with pol := s.pol.unlink .disk_active_list p }
      = .ok (f, s₁)) :
    (lrudisk_swapin_external_async fuel p).run s =
      if s₁.mem.copy_refused (s.pol.page p).va then .error .uffdio_copy
      else .ok ((), s₁.brought_in p f (s₁.mem.copied (s.pol.page p).va s₁.mem.buffer_space)) := by
  obtain ⟨hin, hva⟩ := UserPage.role_evicted.1 (h.role_of_list hl rfl)
  have hp₁ : s₁.pol.page p = { s.pol.page p with list := none } := by
    rw [hf.step.held p (by simp), Policy.unlink_page_self]
  have hpf : p ≠ f := hf.ne (by rw [Policy.unlink_page_self]; exact hva)
  have hlt₁ : p < s₁.pol.npages := by
    rw [hf.step.fixed.npages]
    exact h.lt_of_list hl
  have hdisk₁ := hf.inv.disk_bound hlt₁ (by rw [hp₁]; exact hin)
  have hfin := (UserPage.role_frame.1 hf.frame).1
  have hfinish := run_core_migrate_up_async_finish (p := p)
    (o := (s₁.pol.page f).virtual_offset) (s := s₁) (by rw [hp₁]; exact hin) hdisk₁
    (hf.inv.dram_bound hf.lt hfin) (hf.inv.struct p hlt₁).aligned
  have hva₁ : (s₁.pol.page p).va = (s.pol.page p).va := by rw [hp₁]
  rw [hva₁] at hfinish
  rw [lrudisk_swapin_external_async, run_bind_ok (run_get_page _ _),
    run_bind_ok (run_lrudisk_detach_page h hl), run_bind_ok (run_get_page _ _), if_neg
      (by rw [Policy.unlink_page_self]; simp [hin]), run_bind_ok (h.run_async_start hl),
    run_bind_ok hrun, run_bind_ok (run_get_page _ _), run_check_bind hfin,
    run_bind_ok (run_get_page _ _)]
  split at hfinish
  case isTrue hc => rw [run_bind_error hfinish, if_pos hc]
  case isFalse hc =>
    rw [run_bind_ok hfinish, if_neg hc, run_release hpf]
    · simp [State.brought_in, hp₁]
    · simp [hp₁]
    · rw [Policy.upd_page_ne _ _ hpf.symm]
      exact hf.loose

/-- **The asynchronous swap-in** maps what the thread's buffer held when it was called. -/
theorem lrudisk_swapin_external_async_ends (fuel : ℕ) {s : State α} {p : PageId} (h : Inv s.pol)
    (hl : (s.pol.page p).list = some .disk_active_list) :
    Ends ((lrudisk_swapin_external_async fuel p).run s)
      (fun _ s' => ∃ s₁ f,
        Fetched { s with pol := s.pol.unlink .disk_active_list p } s₁ f ∧
        s'.mem.page_cache = s₁.mem.page_cache ∧ MappedTo s₁ s' p f s.mem.buffer_space) (Short s.pol) := by
  have hr := h.role_of_list hl rfl
  obtain ⟨hin, hva⟩ := UserPage.role_evicted.1 hr
  have hfetch := fetch_free_asynch_ends fuel
    { s with pol := s.pol.unlink .disk_active_list p } (h.unlink hl (by rw [hr]; decide))
  rcases hrun : (fetch_free_asynch fuel).run { s with pol := s.pol.unlink .disk_active_list p }
    with e | ⟨f, s₁⟩
  · refine Ends.of_throw (run_lrudisk_swapin_external_async_error h hl hrun) ?_
    exact (hfetch.of_error hrun).of_roomy fun hroomy => hroomy.unlink (by rw [hr]; decide)
  · have hf := hfetch.of_ok hrun
    have hp₁ : s₁.pol.page p = { s.pol.page p with list := none } := by
      rw [hf.step.held p (by simp), Policy.unlink_page_self]
    have hpf : p ≠ f := hf.ne (by rw [Policy.unlink_page_self]; exact hva)
    have hva₁ : (s.pol.page p).va = (s₁.pol.page p).va := by rw [hp₁]
    have hbuf : s.mem.buffer_space = s₁.mem.buffer_space := hf.step.buffer_space.symm
    rw [run_lrudisk_swapin_external_async h hl hf hrun, hva₁, hbuf]
    split
    case isTrue => exact calm_uffdio_copy.short _
    case isFalse hc =>
      refine ⟨s₁, f, hf, Mem.copied_page_cache _ _ _, ?_⟩
      exact MappedTo.of_release hpf (Fixed.refl _) hf.inv.linked (by rw [hp₁])
        (fun _ _ => rfl) hf.loose (Mem.copied_spec _ _ _) (Mem.unmapped_of_not_refused hc)

/-- **A swap-in of the right bytes keeps the contents.** The page is clean, and its
bytes are in the slot that now backs it. -/
theorem DataOk.mapped {s₁ s' : State α} {p f : PageId} {d : α} (h : Inv s₁.pol)
    (hdata : DataOk s₁) (hp : p < s₁.pol.npages) (hrp : (s₁.pol.page p).role = .evicted)
    (hrf : (s₁.pol.page f).role = .frame) (e : MappedTo s₁ s' p f d)
    (hd : s₁.mem.store (s₁.pol.page p).virtual_offset = some d) :
    DataOk { s' with pol := s'.pol.upd p UserPage.settled } := by
  obtain ⟨hpin, hpva⟩ := UserPage.role_evicted.1 hrp
  obtain ⟨hfin, hfva⟩ := UserPage.role_frame.1 hrf
  have hn := e.pol.fixed.npages
  have hrf' : ((s'.pol.upd p UserPage.settled).page f).role = .backing :=
    UserPage.role_backing.2 (by rw [e.pol.page_f]; exact ⟨rfl, hfva, rfl⟩)
  have hva : ∀ i, i < s₁.pol.npages → i ≠ p → (s₁.pol.page i).va ≠ 0 →
      (s₁.pol.page i).va ≠ (s₁.pol.page p).va := fun i hi hip h0 heq =>
    hip (h.va_inj i p hi hp heq h0)
  constructor
  · exact e.mem.io_fails hdata.io
  · intro i hi hri
    have hi : i < s₁.pol.npages := hn ▸ hi
    have hif : i ≠ f := fun hif => by rw [hif, hrf'] at hri; cases hri
    by_cases hip : i = p
    · -- the page itself: it is clean, and its reserve is the slot it was read from
      rw [hip, e.pol.page_p]
      refine ⟨_, e.mem.entry, fun r hres _ => ?_⟩
      rw [← Option.some.inj hres, e.pol.page_f]
      exact (congrFun e.mem.store _).trans hd
    · rw [e.pol.page_ne i hip hif] at hri ⊢
      obtain ⟨x, hx, hback⟩ := hdata.resident i hi hri
      obtain ⟨x', hx', ht⟩ := (e.mem.others _
        (hva i hi hip (UserPage.role_resident.1 hri).2)).2 x hx
      refine ⟨x', hx', fun r hres hclean => ?_⟩
      have hslot := h.reserveOf_resident hi hri hres
      have hrp' : r ≠ p := (hslot.ne_of_role (by rw [hrp]; decide)).symm
      have hrf'' : r ≠ f := (hslot.ne_of_role (by rw [hrf]; decide)).symm
      rw [e.pol.page_ne r hrp' hrf'', e.mem.store, (ht.clean hclean).1]
      exact hback r hres (ht.clean hclean).2
  · intro i hi hri
    have hi : i < s₁.pol.npages := hn ▸ hi
    have hif : i ≠ f := fun hif => by rw [hif, hrf'] at hri; cases hri
    -- the page has left the evicted ones, and the frame never was one
    have hip : i ≠ p := fun hip => by
      rw [hip, e.pol.page_p] at hri
      cases (UserPage.role_evicted.1 hri).1
    rw [e.pol.page_ne i hip hif] at hri ⊢
    obtain ⟨hnone, c, hc, hdis⟩ := hdata.evicted i hi hri
    rw [e.mem.store, e.mem.discarded]
    exact ⟨(e.mem.others _ (hva i hi hip (UserPage.role_evicted.1 hri).2)).1 hnone, c, hc, hdis⟩

end SwapPrefetch
