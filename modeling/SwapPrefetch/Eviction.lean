/-
Eviction, on one page: the worker's iteration and the inline eviction of
`fetch_free_asynch`.

Both take a resident page that is on no list, find it a slot -- its reserve, or a free
one -- and exchange places with it. The two branches of each routine, and the two
routines, assign in different orders; `EvictTo` and `Mem.evict` say what they have in
common. Of the assertions on the way only the ones about resources can fail: the disk
can be full, and a page whose mapping was lost cannot be written.
-/
import Mathlib.Tactic
import SwapPrefetch.Memory
import SwapPrefetch.Slots

set_option autoImplicit false

namespace SwapPrefetch

open Prog

variable {α : Type}

/-- The faults that do not say that the policy's state is corrupt: no memory or no
disk left, a failed system call, or a wait that needs another thread. -/
def Resource : Fault → Prop
  | .no_disk_page => True
  | .out_of_memory => True
  | .hang => True
  | .uffdio_copy => True
  | .source_unmapped => True
  | .libc_munmap => True
  | _ => False

/-- The faults of a routine that takes no disk slot. -/
def Calm (e : Fault) : Prop := Resource e ∧ e ≠ .no_disk_page

/-- The faults of a routine that may evict, called in `P`: it can lack a disk slot only if `P` is
not roomy. -/
def Short (P : Policy) (e : Fault) : Prop := Resource e ∧ (e = .no_disk_page → ¬ Roomy P)

theorem calm_source_unmapped : Calm .source_unmapped := ⟨trivial, nofun⟩

theorem calm_uffdio_copy : Calm .uffdio_copy := ⟨trivial, nofun⟩

theorem calm_out_of_memory : Calm .out_of_memory := ⟨trivial, nofun⟩

theorem calm_hang : Calm .hang := ⟨trivial, nofun⟩

theorem calm_libc_munmap : Calm .libc_munmap := ⟨trivial, nofun⟩

theorem Calm.short {e : Fault} (h : Calm e) (P : Policy) : Short P e :=
  ⟨h.1, fun he => absurd he h.2⟩

theorem Short.of_roomy {P P' : Policy} {e : Fault} (h : Short P' e) (hr : Roomy P → Roomy P') :
    Short P e :=
  ⟨h.1, fun he hP => h.2 he (hr hP)⟩

/-! ## Moving the page down -/

/-- The struct of a page that was moved down to `off`. -/
def UserPage.moved_down (p : UserPage) (off : ℕ) : UserPage :=
  { p with migrating := true, virtual_offset := off, in_dram := false, swapped_out := true }

/-- `extmem_migrate_downdisk` on a resident page, within the bounds. -/
theorem run_extmem_migrate_downdisk {s : State α} {v : PageId} {off : ℕ} (wb : Bool)
    (hin : (s.pol.page v).in_dram = true) (hsw : (s.pol.page v).swapped_out = false)
    (hdram : (s.pol.page v).virtual_offset + PAGE_SIZE ≤ s.pol.dramsize)
    (hdisk : off + PAGE_SIZE ≤ s.pol.disksize) :
    (extmem_migrate_downdisk v off wb).run s = .error .source_unmapped ∨
      (extmem_migrate_downdisk v off wb).run s = .ok ((),
        { pol := s.pol.upd v fun p => p.moved_down off
          mem := s.mem.migrate_down (s.pol.page v).va off false wb }) := by
  have h₁ : (s.pol.page v).virtual_offset < s.pol.dramsize := by
    simp only [PAGE_SIZE] at hdram
    omega
  have h₂ : off < s.pol.disksize := by
    simp only [PAGE_SIZE] at hdisk
    omega
  cases wb
  · right
    simp [extmem_migrate_downdisk, Mem.migrate_down, run_madvise_dontneed, Policy.upd_upd,
      UserPage.moved_down, hin, hsw, hdram, hdisk, h₁, h₂]
  · rcases he : s.mem.app_turn.pte (s.pol.page v).va with _ | e
    · left
      simp [extmem_migrate_downdisk, run_extmem_disk_write, hin, hdram, hdisk, h₁, h₂, he]
    · right
      simp [extmem_migrate_downdisk, Mem.migrate_down, Mem.write_back, run_extmem_disk_write,
        run_madvise_dontneed, Policy.upd_upd, UserPage.moved_down, hin, hsw, hdram, hdisk, h₁,
        h₂, he]

/-- `lrudisk_migrate_down`, with and without a second write protection. -/
theorem run_lrudisk_migrate_down {s : State α} {v : PageId} {o : ℕ} (need_wp wb : Bool)
    (hin : (s.pol.page v).in_dram = true) (hsw : (s.pol.page v).swapped_out = false)
    (hdram : (s.pol.page v).virtual_offset + PAGE_SIZE ≤ s.pol.dramsize)
    (hdisk : o + PAGE_SIZE ≤ s.pol.disksize) (hva : (s.pol.page v).va ≠ 0)
    (hal : (s.pol.page v).va % PAGE_SIZE = 0) :
    (lrudisk_migrate_down v o need_wp wb).run s = .error .source_unmapped ∨
      (lrudisk_migrate_down v o need_wp wb).run s = .ok ((),
        { pol := s.pol.upd v fun p => p.moved_down o
          mem := s.mem.migrate_down (s.pol.page v).va o need_wp wb }) := by
  -- the state in which `extmem_migrate_downdisk` is called
  let s₁ : State α :=
    { pol := s.pol.upd v fun p => { p with migrating := true }
      mem := if need_wp then s.mem.app_turn.protect (s.pol.page v).va true else s.mem }
  have hcall : (lrudisk_migrate_down v o need_wp wb).run s
      = (extmem_migrate_downdisk v o wb).run s₁ := by
    cases need_wp <;> simp [lrudisk_migrate_down, run_extmem_wp_page, hva, hal, s₁]
  have hdown := run_extmem_migrate_downdisk (s := s₁) (v := v) wb (by simp [s₁, hin])
    (by simp [s₁, hsw]) (by simpa [s₁] using hdram) (by simpa [s₁] using hdisk)
  rw [hcall]
  refine hdown.imp id fun h => ?_
  rw [h]
  simp [s₁, Policy.upd_upd, UserPage.moved_down, Mem.migrate_down]

/-- Taking the reserve of a page off its list, when the links are as asserted. -/
theorem run_detach_reserve {s : State α} {v d : PageId} (stuck : Fault)
    (hres : (s.pol.page v).reserve = some d) (hback : (s.pol.page d).reserve = some v)
    (hlist : (s.pol.page d).list = some .disk_reserve_list)
    (hmem : d ∈ s.pol.lists .disk_reserve_list) :
    (detach_reserve v stuck).run s
      = .ok (d, { s with pol := s.pol.unlink .disk_reserve_list d }) := by
  simp [detach_reserve, hres, hback, hlist, run_tryremove hlist hmem]

/-- The links of a resident page are as asserted. -/
theorem Inv.detach_reserve {s : State α} (h : Inv s.pol) {v d : PageId} (stuck : Fault)
    (hv : v < s.pol.npages) (hr : (s.pol.page v).role = .resident)
    (hres : (s.pol.page v).reserve = some d) :
    (detach_reserve v stuck).run s
      = .ok (d, { s with pol := s.pol.unlink .disk_reserve_list d }) := by
  have hd := h.reserveOf_resident hv hr hres
  exact run_detach_reserve stuck hres hd.back hd.listed ((h.mem_iff _ _).2 hd.listed)

/-! ## The two eviction routines -/

/-- What an eviction of `v` left: the slot `d` it went to, and the contents. -/
structure Evicted (s s' : State α) (v d : PageId) (l : Option ListId) : Prop where
  lt : d < s.pol.npages
  slot : EvictSlot s.pol v d
  listed : (s.pol.page d).list = some .disk_reserve_list ∨ (s.pol.page d).list = some .disk_free_list
  pol : EvictTo s.pol s'.pol v d l
  mem : EvictMem s.mem s'.mem (s.pol.page v).va (s.pol.page d).virtual_offset
    (s.pol.page v).has_reserve

/-- The state in which an eviction of `v` has read the dirty bit. -/
def State.freeze (s : State α) (v : PageId) : State α :=
  { pol := s.pol.upd v fun p => { p with migrating := true }
    mem := s.mem.freeze (s.pol.page v).va }

/-- The common beginning of the eviction routines. -/
theorem run_freeze {β : Type} {s : State α} {v : PageId} (hva : (s.pol.page v).va ≠ 0)
    (hal : (s.pol.page v).va % PAGE_SIZE = 0) (k : Bool × Bool → Proc α β) :
    (do
      set_page v fun p => { p with migrating := true }
      extmem_wp_page v true
      let bits ← pt_get_bits v
      k bits : Proc α β).run s
      = (k ((s.mem.freeze (s.pol.page v).va).bits (s.pol.page v).va)).run (s.freeze v) := by
  simp [run_extmem_wp_page, run_pt_get_bits, hva, hal, State.freeze, Mem.freeze]

@[simp] theorem State.freeze_page_self (s : State α) (v : PageId) :
    (s.freeze v).pol.page v = { s.pol.page v with migrating := true } := by
  simp [freeze]

@[simp] theorem State.freeze_page_ne (s : State α) {v i : PageId} (hi : i ≠ v) :
    (s.freeze v).pol.page i = s.pol.page i := by
  simp [freeze, Policy.upd_page_ne _ _ hi]

@[simp] theorem State.freeze_lists (s : State α) (v : PageId) :
    (s.freeze v).pol.lists = s.pol.lists :=
  Policy.upd_lists _ _ _

theorem Inv.freeze {s : State α} (h : Inv s.pol) {v : PageId} (hv : v < s.pol.npages) :
    Inv (s.freeze v).pol :=
  h.upd hv (f := fun p => { p with migrating := true }) (m := true)
    (n := (s.pol.page v).naccesses) rfl

/-- The state in which `v` has been moved down to the slot `d`, taken from the list `q`. -/
def State.moved_down (s : State α) (v d : PageId) (q : ListId) (need_wp : Bool) : State α :=
  { pol := ((s.freeze v).pol.unlink q d).upd v fun p => p.moved_down (s.pol.page d).virtual_offset
    mem := s.mem.evict (s.pol.page v).va (s.pol.page d).virtual_offset need_wp
      (s.pol.page v).has_reserve }

section MovedDown

variable {s : State α} {v d : PageId} {q : ListId} {w : Bool}

theorem State.moved_down_page_v (hvd : v ≠ d) :
    (s.moved_down v d q w).pol.page v
      = (s.pol.page v).moved_down (s.pol.page d).virtual_offset := by
  simp [moved_down, Policy.unlink_page_ne _ _ hvd, UserPage.moved_down]

theorem State.moved_down_page_d (hvd : v ≠ d) :
    (s.moved_down v d q w).pol.page d = { s.pol.page d with list := none } := by
  simp [moved_down, Policy.upd_page_ne _ _ hvd.symm, hvd.symm]

theorem State.moved_down_page_ne {i : PageId} (hiv : i ≠ v) (hid : i ≠ d) :
    (s.moved_down v d q w).pol.page i = s.pol.page i := by
  simp [moved_down, Policy.upd_page_ne _ _ hiv, Policy.unlink_page_ne _ _ hid, hiv]

theorem State.moved_down_linked (h : Inv s.pol) (hv : v < s.pol.npages) (hvd : v ≠ d)
    (hd : (s.pol.page d).list = some q) : (s.moved_down v d q w).pol.WellLinked := by
  refine Policy.WellLinked.upd ((h.freeze hv).linked.unlink ?_) rfl
  rw [s.freeze_page_ne hvd.symm]
  exact hd

/-- The common middle of the eviction routines. -/
theorem run_moved_down (h : Inv s.pol) (hv : v < s.pol.npages)
    (hr : (s.pol.page v).role = .resident) (hd : d < s.pol.npages)
    (hdin : (s.pol.page d).in_dram = false) (wb : Bool)
    (hwb : wb = (((s.mem.freeze (s.pol.page v).va).bits (s.pol.page v).va).2 ||
      !(s.pol.page v).has_reserve)) :
    (lrudisk_migrate_down v (s.pol.page d).virtual_offset w wb).run
          ⟨(s.freeze v).pol.unlink q d, (s.freeze v).mem⟩ = .error .source_unmapped ∨
      (lrudisk_migrate_down v (s.pol.page d).virtual_offset w wb).run
          ⟨(s.freeze v).pol.unlink q d, (s.freeze v).mem⟩
        = .ok ((), s.moved_down v d q w) := by
  obtain ⟨hin, hva⟩ := UserPage.role_resident.1 hr
  have hvd : v ≠ d := by
    rintro rfl
    rw [hin] at hdin
    cases hdin
  have hpage : ((s.freeze v).pol.unlink q d).page v = { s.pol.page v with migrating := true } := by
    rw [Policy.unlink_page_ne _ _ hvd, s.freeze_page_self]
  have hdown := run_lrudisk_migrate_down (v := v) (o := (s.pol.page d).virtual_offset)
    (s := ⟨(s.freeze v).pol.unlink q d, (s.freeze v).mem⟩) w wb (by rw [hpage]; exact hin)
    (by rw [hpage]; exact (h.struct v hv).not_swapped hr)
    (by rw [hpage]; exact h.dram_bound hv hin) (h.disk_bound hd hdin)
    (by rw [hpage]; exact hva) (by rw [hpage]; exact (h.struct v hv).aligned)
  rw [hpage, hwb] at hdown
  rw [hwb]
  exact hdown

/-- The assignments after the migration, in whatever order, complete an eviction. -/
theorem Evicted.of_moved_down {s' : State α} {l : Option ListId} (hd : d < s.pol.npages)
    (hvd : v ≠ d) (hs : EvictSlot s.pol v d)
    (hdl : (s.pol.page d).list = some .disk_reserve_list ∨
      (s.pol.page d).list = some .disk_free_list)
    (hfix : Fixed (s.moved_down v d q w).pol s'.pol) (hlink : s'.pol.WellLinked)
    (hpv : s'.pol.page v =
      { (s.moved_down v d q w).pol.page v with
        migrating := false, has_reserve := false, reserve := none
        list := some .disk_active_list })
    (hpd : s'.pol.page d =
      { (s.moved_down v d q w).pol.page d with
        virtual_offset := (s.pol.page v).virtual_offset, in_dram := true, present := false
        has_reserve := false, reserve := none, list := l })
    (hne : ∀ i, i ≠ v → i ≠ d → s'.pol.page i = (s.moved_down v d q w).pol.page i)
    (hmem : s'.mem = (s.moved_down v d q w).mem) : Evicted s s' v d l := by
  rw [State.moved_down_page_v hvd] at hpv
  rw [State.moved_down_page_d hvd] at hpd
  refine ⟨hd, hs, hdl, ⟨⟨hfix.1, hfix.2, hfix.3, hfix.4⟩, hlink, hpv, hpd, fun i hiv hid => ?_⟩, ?_⟩
  · rw [hne i hiv hid, State.moved_down_page_ne hiv hid]
  · rw [hmem]
    exact Mem.evict_spec _ _ _ _ _

end MovedDown

/-- The policy's state once a page with a reserve is back in its slot `d`, and neither struct
names the other. -/
def State.returned (s : State α) (v d : PageId) : Policy :=
  ((s.moved_down v d .disk_reserve_list false).pol.upd d fun p =>
    { p with
      virtual_offset := (s.pol.page v).virtual_offset, in_dram := true, present := false
      has_reserve := false, reserve := none }).upd v fun p =>
    { p with has_reserve := false, reserve := none }

section Returned

variable {s : State α} {v d : PageId}

theorem State.returned_page_v (hvd : v ≠ d) :
    (s.returned v d).page v =
      { (s.moved_down v d .disk_reserve_list false).pol.page v with
        has_reserve := false, reserve := none } := by
  simp [returned, Policy.upd_page_ne _ _ hvd]

theorem State.returned_page_d (hvd : v ≠ d) :
    (s.returned v d).page d =
      { (s.moved_down v d .disk_reserve_list false).pol.page d with
        virtual_offset := (s.pol.page v).virtual_offset, in_dram := true, present := false
        has_reserve := false, reserve := none } := by
  simp [returned, Policy.upd_page_ne _ _ hvd.symm]

theorem State.returned_page_ne {i : PageId} (hiv : i ≠ v) (hid : i ≠ d) :
    (s.returned v d).page i = (s.moved_down v d .disk_reserve_list false).pol.page i := by
  simp [returned, Policy.upd_page_ne _ _ hiv, Policy.upd_page_ne _ _ hid]

theorem State.returned_fixed (s : State α) (v d : PageId) :
    Fixed (s.moved_down v d .disk_reserve_list false).pol (s.returned v d) := by
  constructor <;> simp [returned]

theorem State.returned_linked (h : Inv s.pol) (hv : v < s.pol.npages) (hvd : v ≠ d)
    (hd : (s.pol.page d).list = some .disk_reserve_list) : (s.returned v d).WellLinked :=
  ((State.moved_down_linked h hv hvd hd).upd rfl).upd rfl

end Returned

/-- What a struct at the head of `disk_free_list` is. -/
theorem Inv.free_slot {P : Policy} (h : Inv P) {v d : PageId} {rest : List PageId}
    (hr : (P.page v).role = .resident) (hfree : P.lists .disk_free_list = d :: rest) :
    d < P.npages ∧ v ≠ d ∧ (P.page d).in_dram = false ∧ (P.page d).present = false ∧
      (P.page d).list = some .disk_free_list ∧ (P.page d).role = .slot ∧
      (P.page d).reserve = none ∧ (P.page d).has_reserve = false := by
  have hdl : (P.page d).list = some .disk_free_list := h.list_of_mem (by simp [hfree])
  have hslot := h.role_of_list hdl rfl
  have hd := h.lt_of_list hdl
  have hres := h.reserve_eq_none hd (by simp [hslot]) (by simp [hslot])
  refine ⟨hd, ?_, (UserPage.role_slot.1 hslot).1, (h.struct d hd).present, hdl, hslot, hres,
    h.has_reserve_eq_false hd hres⟩
  rintro rfl
  rw [hr] at hslot
  cases hslot

section Routines

variable {s : State α} {v : PageId}

/-- The inline eviction of a page without a reserve takes a free slot. -/
theorem fetch_free_evict_free_slot (h : Inv s.pol) (hv : v < s.pol.npages)
    (hr : (s.pol.page v).role = .resident) (hl : (s.pol.page v).list = none)
    (hres : (s.pol.page v).reserve = none) :
    Ends ((fetch_free_evict v).run s) (fun d s' => Evicted s s' v d none)
      (fun e => Short s.pol e ∧ e ≠ .hang) := by
  rw [fetch_free_evict, run_freeze (UserPage.role_resident.1 hr).2 (h.struct v hv).aligned]
  have hflag := h.has_reserve_eq_false hv hres
  rcases hfree : s.pol.lists .disk_free_list with _ | ⟨d, rest⟩
  · have hdeq := run_dequeue_fifo_nil (s := s.freeze v) (q := .disk_free_list) (by simp [hfree])
    refine Ends.of_throw (e := .no_disk_page) ?_ ⟨⟨trivial, fun _ hroomy => ?_⟩, by decide⟩
    · simp [hflag, hdeq]
    · exact h.free_slot_of_roomy hroomy hv hr hres hfree
  · obtain ⟨hd, hvd, hdin, hpres, hdl, hslot, hdres, hdflag⟩ := h.free_slot hr hfree
    have hdeq := run_dequeue_fifo_cons (s := s.freeze v) (q := .disk_free_list) (i := d)
      (l := rest) (by simp [hfree])
    rcases run_moved_down (q := .disk_free_list) (w := true) h hv hr hd hdin true
      (by simp [hflag]) with hdown | hdown
    · refine Ends.of_throw (e := .source_unmapped) ?_
        ⟨calm_source_unmapped.short _, by decide⟩
      simp [hflag, hdeq, hdown, hpres, Policy.unlink_page_ne, hvd, hvd.symm]
    · have hlv : ((s.moved_down v d .disk_free_list true).pol.page v).list = none := by
        rw [State.moved_down_page_v hvd]
        exact hl
      refine Ends.of_eq (b := d)
        (s := ⟨(((s.moved_down v d .disk_free_list true).pol.enq .disk_active_list v).upd d
          fun p => { p with
            virtual_offset := (s.pol.page v).virtual_offset, in_dram := true
            present := false }).upd v fun p => { p with migrating := false },
          (s.moved_down v d .disk_free_list true).mem⟩) ?_ ?_
      · simp [hflag, hdeq, hdown, hpres, run_enqueue_fifo hlv, Policy.unlink_page_ne,
          State.moved_down_page_v, UserPage.moved_down, hvd, hvd.symm]
      · refine Evicted.of_moved_down (q := .disk_free_list) (w := true) hd hvd
          (Or.inr ⟨hres, hslot⟩) (Or.inr hdl) ⟨by simp, by simp, by simp, by simp⟩ ?_ ?_ ?_
          (fun i hiv hid => ?_) rfl
        · exact ((Policy.WellLinked.enq (State.moved_down_linked h hv hvd hdl) hlv).upd
            rfl).upd rfl
        · simp [Policy.upd_page_ne, hvd, State.moved_down_page_v, UserPage.moved_down, hres,
            hflag]
        · simp [Policy.upd_page_ne, Policy.enq_page_ne, hvd.symm, hvd, State.moved_down_page_d,
            hdres, hdflag]
        · simp [Policy.upd_page_ne, Policy.enq_page_ne, hiv, hid]

/-- With a reserve, the page goes back to its slot. -/
theorem fetch_free_evict_reserve (h : Inv s.pol) (hv : v < s.pol.npages)
    (hr : (s.pol.page v).role = .resident) (hl : (s.pol.page v).list = none)
    {d : PageId} (hres : (s.pol.page v).reserve = some d) :
    Ends ((fetch_free_evict v).run s) (fun d s' => Evicted s s' v d none)
      (fun e => Short s.pol e ∧ e ≠ .hang) := by
  rw [fetch_free_evict, run_freeze (UserPage.role_resident.1 hr).2 (h.struct v hv).aligned]
  have hslot := h.reserveOf_resident hv hr hres
  have hvd := hslot.ne
  have hd := hslot.lt
  have hdl := hslot.listed
  have hflag := hslot.flag
  have hdet := (h.freeze hv).detach_reserve .reserve_link (v := v) (d := d) hv
    (by rw [s.freeze_page_self]; exact hr) (by rw [s.freeze_page_self]; exact hres)
  rcases run_moved_down (q := .disk_reserve_list) (w := false) h hv hr hd hslot.in_dram
    ((s.mem.freeze (s.pol.page v).va).bits (s.pol.page v).va).2 (by simp [hflag])
    with hdown | hdown
  · refine Ends.of_throw (e := .source_unmapped) ?_
        ⟨calm_source_unmapped.short _, by decide⟩
    simp [hflag, hdet, hdown, Policy.unlink_page_ne, hvd, hvd.symm]
  · -- the assignments to the two structs come before the page is linked
    have hlv : ((s.returned v d).page v).list = none := by
      rw [State.returned_page_v hvd, State.moved_down_page_v hvd]
      exact hl
    have henq := run_enqueue_fifo (q := .disk_active_list)
      (s := ⟨s.returned v d, (s.moved_down v d .disk_reserve_list false).mem⟩) hlv
    refine Ends.of_eq (b := d)
      (s := ⟨((s.returned v d).enq .disk_active_list v).upd v fun p =>
          { p with migrating := false, swapped_out := true },
        (s.moved_down v d .disk_reserve_list false).mem⟩) ?_ ?_
    · unfold State.returned at henq ⊢
      simp [hflag, hdet, hdown, henq, Policy.unlink_page_ne, Policy.upd_page_ne,
        State.moved_down_page_v, UserPage.moved_down, hvd, hvd.symm]
    · refine Evicted.of_moved_down (q := .disk_reserve_list) (w := false) hd hvd
        (Or.inl hres) (Or.inl hdl)
        ((s.returned_fixed v d).trans ⟨by simp, by simp, by simp, by simp⟩)
        ((Policy.WellLinked.enq (State.returned_linked h hv hvd hdl) hlv).upd rfl) ?_ ?_
        (fun i hiv hid => ?_) rfl
      · simp [State.returned_page_v hvd, State.moved_down_page_v hvd, UserPage.moved_down]
      · simp [Policy.upd_page_ne, Policy.enq_page_ne, hvd.symm, State.returned_page_d hvd,
          State.moved_down_page_d hvd]
      · simp [Policy.upd_page_ne, Policy.enq_page_ne, hiv, State.returned_page_ne hiv hid]

/-- **The inline eviction** of `fetch_free_asynch`: the frame goes to the caller. -/
theorem fetch_free_evict_ends (h : Inv s.pol) (hv : v < s.pol.npages)
    (hr : (s.pol.page v).role = .resident) (hl : (s.pol.page v).list = none) :
    Ends ((fetch_free_evict v).run s) (fun d s' => Evicted s s' v d none)
      (fun e => Short s.pol e ∧ e ≠ .hang) := by
  rcases hres : (s.pol.page v).reserve with _ | d
  · exact fetch_free_evict_free_slot h hv hr hl hres
  · exact fetch_free_evict_reserve h hv hr hl hres

/-- The worker's eviction of a page without a reserve. -/
theorem evict_victim_free_slot (h : Inv s.pol) (hv : v < s.pol.npages)
    (hr : (s.pol.page v).role = .resident) (hl : (s.pol.page v).list = none)
    (hres : (s.pol.page v).reserve = none) :
    Ends ((evict_victim v).run s) (fun _ s' => ∃ d, Evicted s s' v d (some .dram_free_list))
      (Short s.pol) := by
  rw [evict_victim, run_freeze (UserPage.role_resident.1 hr).2 (h.struct v hv).aligned]
  have hflag := h.has_reserve_eq_false hv hres
  rcases hfree : s.pol.lists .disk_free_list with _ | ⟨d, rest⟩
  · have hdeq := run_dequeue_fifo_nil (s := s.freeze v) (q := .disk_free_list) (by simp [hfree])
    refine Ends.of_throw (e := .no_disk_page) ?_ ⟨trivial, fun _ hroomy => ?_⟩
    · simp [hflag, hdeq]
    · exact h.free_slot_of_roomy hroomy hv hr hres hfree
  · obtain ⟨hd, hvd, hdin, hpres, hdl, hslot, hdres, hdflag⟩ := h.free_slot hr hfree
    have hdeq := run_dequeue_fifo_cons (s := s.freeze v) (q := .disk_free_list) (i := d)
      (l := rest) (by simp [hfree])
    rcases run_moved_down (q := .disk_free_list) (w := false) h hv hr hd hdin true
      (by simp [hflag]) with hdown | hdown
    · refine Ends.of_throw (e := .source_unmapped) ?_ (calm_source_unmapped.short _)
      simp [hflag, hdeq, hdown, hpres, Policy.unlink_page_ne, hvd, hvd.symm]
    · have hlv : ((s.moved_down v d .disk_free_list false).pol.page v).list = none := by
        rw [State.moved_down_page_v hvd]
        exact hl
      let P := ((s.moved_down v d .disk_free_list false).pol.enq .disk_active_list v).upd d
        fun p => { p with
          virtual_offset := (s.pol.page v).virtual_offset, in_dram := true, present := false }
      have hld : (P.page d).list = none := by
        simp [P, Policy.enq_page_ne, hvd.symm, State.moved_down_page_d hvd]
      have henq := run_enqueue_fifo (s := ⟨P, (s.moved_down v d .disk_free_list false).mem⟩)
        (q := .dram_free_list) hld
      refine Ends.of_eq (b := ())
        (s := ⟨(P.enq .dram_free_list d).upd v fun p =>
            { p with migrating := false, swapped_out := true },
          (s.moved_down v d .disk_free_list false).mem⟩) ?_ ⟨d, ?_⟩
      · simp only [P] at henq
        simp [P, hflag, hdeq, hdown, hpres, run_enqueue_fifo hlv, henq, Policy.unlink_page_ne,
          Policy.upd_page_ne, Policy.enq_page_ne, State.moved_down_page_v, UserPage.moved_down,
          hvd, hvd.symm]
      · refine Evicted.of_moved_down (q := .disk_free_list) (w := false) hd hvd
          (Or.inr ⟨hres, hslot⟩) (Or.inr hdl)
          ⟨by simp [P], by simp [P], by simp [P], by simp [P]⟩ ?_ ?_ ?_ (fun i hiv hid => ?_) rfl
        · exact (Policy.WellLinked.enq ((Policy.WellLinked.enq
            (State.moved_down_linked h hv hvd hdl) hlv).upd rfl) hld).upd rfl
        · simp [P, Policy.upd_page_ne, Policy.enq_page_ne, hvd, State.moved_down_page_v,
            UserPage.moved_down, hres, hflag]
        · simp [P, Policy.upd_page_ne, Policy.enq_page_ne, hvd.symm, hvd,
            State.moved_down_page_d, hdres, hdflag]
        · simp [P, Policy.upd_page_ne, Policy.enq_page_ne, hiv, hid]

/-- The worker's eviction of a page with a reserve. -/
theorem evict_victim_reserve (h : Inv s.pol) (hv : v < s.pol.npages)
    (hr : (s.pol.page v).role = .resident) (hl : (s.pol.page v).list = none)
    {d : PageId} (hres : (s.pol.page v).reserve = some d) :
    Ends ((evict_victim v).run s) (fun _ s' => ∃ d, Evicted s s' v d (some .dram_free_list))
      (Short s.pol) := by
  rw [evict_victim, run_freeze (UserPage.role_resident.1 hr).2 (h.struct v hv).aligned]
  have hslot := h.reserveOf_resident hv hr hres
  have hvd := hslot.ne
  have hd := hslot.lt
  have hdl := hslot.listed
  have hflag := hslot.flag
  have hdet := (h.freeze hv).detach_reserve .reserve_link (v := v) (d := d) hv
    (by rw [s.freeze_page_self]; exact hr) (by rw [s.freeze_page_self]; exact hres)
  rcases run_moved_down (q := .disk_reserve_list) (w := false) h hv hr hd hslot.in_dram
    ((s.mem.freeze (s.pol.page v).va).bits (s.pol.page v).va).2 (by simp [hflag])
    with hdown | hdown
  · refine Ends.of_throw (e := .source_unmapped) ?_ (calm_source_unmapped.short _)
    simp [hflag, hdet, hdown, Policy.unlink_page_ne, hvd, hvd.symm]
  · have hld : ((s.returned v d).page d).list = none := by
      rw [State.returned_page_d hvd, State.moved_down_page_d hvd]
    have hlv : (((s.returned v d).enq .dram_free_list d).page v).list = none := by
      rw [Policy.enq_page_ne _ _ hvd, State.returned_page_v hvd, State.moved_down_page_v hvd]
      exact hl
    have henq := run_enqueue_fifo (q := .dram_free_list)
      (s := ⟨s.returned v d, (s.moved_down v d .disk_reserve_list false).mem⟩) hld
    have henq' := run_enqueue_fifo (q := .disk_active_list)
      (s := ⟨(s.returned v d).enq .dram_free_list d,
        (s.moved_down v d .disk_reserve_list false).mem⟩) hlv
    refine Ends.of_eq (b := ())
      (s := ⟨(((s.returned v d).enq .dram_free_list d).enq .disk_active_list v).upd v fun p =>
          { p with migrating := false, swapped_out := true },
        (s.moved_down v d .disk_reserve_list false).mem⟩) ?_ ⟨d, ?_⟩
    · unfold State.returned at henq henq' ⊢
      simp [hflag, hdet, hdown, henq, henq', Policy.unlink_page_ne, Policy.upd_page_ne,
        Policy.enq_page_ne, State.moved_down_page_v, UserPage.moved_down, hvd, hvd.symm]
    · refine Evicted.of_moved_down (q := .disk_reserve_list) (w := false) hd hvd
        (Or.inl hres) (Or.inl hdl)
        ((s.returned_fixed v d).trans ⟨by simp, by simp, by simp, by simp⟩)
        ((Policy.WellLinked.enq (Policy.WellLinked.enq (State.returned_linked h hv hvd hdl) hld)
          hlv).upd rfl) ?_ ?_ (fun i hiv hid => ?_) rfl
      · simp [Policy.enq_page_ne, hvd, State.returned_page_v hvd, State.moved_down_page_v hvd,
          UserPage.moved_down]
      · simp [Policy.upd_page_ne, Policy.enq_page_ne, hvd.symm, State.returned_page_d hvd,
          State.moved_down_page_d hvd]
      · simp [Policy.upd_page_ne, Policy.enq_page_ne, hiv, hid, State.returned_page_ne hiv hid]

/-- **The worker's eviction**: the frame goes to `dram_free_list`. -/
theorem evict_victim_ends (h : Inv s.pol) (hv : v < s.pol.npages)
    (hr : (s.pol.page v).role = .resident) (hl : (s.pol.page v).list = none) :
    Ends ((evict_victim v).run s) (fun _ s' => ∃ d, Evicted s s' v d (some .dram_free_list))
      (Short s.pol) := by
  rcases hres : (s.pol.page v).reserve with _ | d
  · exact evict_victim_free_slot h hv hr hl hres
  · exact evict_victim_reserve h hv hr hl hres

end Routines

end SwapPrefetch
