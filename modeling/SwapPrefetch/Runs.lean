/-
Sequential prefetch, `munmap`, initialisation, and runs of any length.

`munmap` removes the pages of its range one at a time; `Removed` says what one removal leaves,
with or without a reserve. The first loop of `core_try_prefetch` claims pages one at a time;
`Selected` says what the turns so far have claimed. `lrudisk_init` fills the free lists, and from
there every operation ends in an idle state again or in one of the faults that are listed.
-/
import Mathlib.Tactic
import SwapPrefetch.Handlers

set_option autoImplicit false

namespace SwapPrefetch

open Prog

variable {α : Type}

/-! ## Removal -/

/-- The policy after `lrudisk_remove_page` has taken the page off its list and cleared it. -/
def Policy.taken (P : Policy) (q : ListId) (p : PageId) : Policy :=
  ((P.upd p fun x => { x with migrating := true }).unlink q p).upd p fun x =>
    { x with present := false, va := 0 }

/-- `lrudisk_remove_page` returns, and gives the page back. -/
def RemovesPage (s : State α) (p : PageId) : Prop :=
  ∃ P', (lrudisk_remove_page p).run s = .ok ((), { s with pol := P' }) ∧ Freed s.pol P' p ∧
    P'.mem_allocated = s.pol.mem_allocated ∧ P'.pages_freed = s.pol.pages_freed

section RemovePage

variable {s : State α} {p : PageId} {q : ListId}

theorem Policy.taken_self (P : Policy) (q : ListId) (p : PageId) : (P.taken q p).page p =
    { P.page p with migrating := true, list := none, present := false, va := 0 } := by
  simp [Policy.taken]

theorem Policy.taken_ne (P : Policy) (q : ListId) {i : PageId} (hi : i ≠ p) :
    (P.taken q p).page i = P.page i := by
  simp [Policy.taken, Policy.upd_page_ne, Policy.unlink_page_ne, hi]

theorem Inv.taken_linked {P : Policy} (h : Inv P) (hl : (P.page p).list = some q) :
    (P.taken q p).WellLinked :=
  Policy.WellLinked.upd ((h.linked.upd rfl).unlink (by simp [hl])) rfl

/-- The page is found on its list. -/
theorem Inv.run_tryremove_marked (h : Inv s.pol) (hl : (s.pol.page p).list = some q) :
    (page_list_tryremove_page (some q) p).run
      ⟨s.pol.upd p fun x => { x with migrating := true }, s.mem⟩ =
      .ok (0, ⟨(s.pol.upd p fun x => { x with migrating := true }).unlink q p, s.mem⟩) :=
  run_tryremove (by simp [hl]) ((h.mem_iff _ _).2 hl)

/-- A page in DRAM without a reserve: its frame is free again. -/
theorem removes_without_reserve (h : Inv s.pol) (hl : (s.pol.page p).list = some q)
    (hin : (s.pol.page p).in_dram = true) (hres : (s.pol.page p).reserve = none) :
    RemovesPage s p := by
  have hflag := h.has_reserve_eq_false (h.lt_of_list hl) hres
  have hrem := h.run_tryremove_marked hl
  have hlist : ((s.pol.taken q p).page p).list = none := by rw [Policy.taken_self]
  have henq := run_enqueue_fifo (s := ⟨s.pol.taken q p, s.mem⟩) (q := .dram_free_list) hlist
  refine ⟨((s.pol.taken q p).enq .dram_free_list p).upd p fun x => { x with migrating := false },
    ?_, ?_, by simp [Policy.taken], by simp [Policy.taken]⟩
  · simp only [Policy.taken] at henq
    simp [lrudisk_remove_page, hrem, hl, hin, hflag, henq, Policy.taken]
  · refine ⟨⟨by simp [Policy.taken], by simp [Policy.taken], by simp [Policy.taken],
      by simp [Policy.taken]⟩, ((h.taken_linked hl).enq hlist).upd rfl, ?_, fun r hr => ?_,
      fun i hi _ => ?_⟩
    · simp [Policy.taken_self, hin, hflag, hres]
    · rw [hres] at hr
      cases hr
    · simp [Policy.upd_page_ne, Policy.enq_page_ne, hi, Policy.taken_ne]

/-- A page in DRAM with a reserve: its frame and the slot are free again. -/
theorem removes_with_reserve (h : Inv s.pol) (hl : (s.pol.page p).list = some q)
    (hr : (s.pol.page p).role = .resident) {r : PageId} (hres : (s.pol.page p).reserve = some r) :
    RemovesPage s p := by
  have hslot := h.reserveOf_resident (h.lt_of_list hl) hr hres
  have hin := (UserPage.role_resident.1 hr).1
  have hpr := hslot.ne
  have hflag := hslot.flag
  have hrem := h.run_tryremove_marked hl
  have hlinked := h.taken_linked hl
  -- the reserve is as it was when the page has been cleared
  have hr₁ : (s.pol.taken q p).page r = s.pol.page r := Policy.taken_ne _ _ hpr.symm
  have hrl : ((s.pol.taken q p).page r).list = some .disk_reserve_list := by
    rw [hr₁]
    exact hslot.listed
  have hdet := run_detach_reserve (s := ⟨s.pol.taken q p, s.mem⟩) (v := p) (d := r) .hang
    (by rw [Policy.taken_self]; exact hres) (by rw [hr₁]; exact hslot.back) hrl
    ((hlinked.mem_iff _ _).2 hrl)
  let P₂ := ((s.pol.taken q p).unlink .disk_reserve_list r).upd r fun x =>
    { x with has_reserve := false, reserve := none, present := false }
  let P₃ := (P₂.enq .disk_free_list r).upd p fun x => { x with has_reserve := false, reserve := none }
  have hl₂ : (P₂.page r).list = none := by simp [P₂]
  have hl₃ : (P₃.page p).list = none := by
    simp [P₃, P₂, Policy.upd_page_ne, Policy.enq_page_ne, Policy.unlink_page_ne, hpr,
      Policy.taken_self]
  have hlinked₂ : P₂.WellLinked := Policy.WellLinked.upd (hlinked.unlink hrl) rfl
  have henq₂ := run_enqueue_fifo (s := ⟨P₂, s.mem⟩) (q := .disk_free_list) hl₂
  have henq₃ := run_enqueue_fifo (s := ⟨P₃, s.mem⟩) (q := .dram_free_list) hl₃
  refine ⟨(P₃.enq .dram_free_list p).upd p fun x => { x with migrating := false }, ?_, ?_,
    by simp [P₂, P₃, Policy.taken], by simp [P₂, P₃, Policy.taken]⟩
  · simp only [Policy.taken] at hdet
    simp only [P₂, P₃, Policy.taken] at henq₂ henq₃
    simp [lrudisk_remove_page, hrem, hl, hin, hflag, hdet, henq₂, henq₃, P₂, P₃, Policy.taken]
  · refine ⟨⟨by simp [P₂, P₃, Policy.taken], by simp [P₂, P₃, Policy.taken],
      by simp [P₂, P₃, Policy.taken], by simp [P₂, P₃, Policy.taken]⟩,
      (Policy.WellLinked.enq ((hlinked₂.enq hl₂).upd rfl) hl₃).upd rfl, ?_, fun r' hr' => ?_,
      fun i hi hir => ?_⟩
    · simp [P₃, P₂, Policy.upd_page_ne, Policy.enq_page_ne, Policy.unlink_page_ne, hpr,
        Policy.taken_self, hin]
    · rw [hres] at hr'
      rw [← Option.some.inj hr']
      simp [P₃, P₂, Policy.upd_page_ne, Policy.enq_page_ne, hpr.symm, hr₁]
    · have hir' : i ≠ r := fun heq => hir (heq ▸ hres)
      simp [P₃, P₂, Policy.upd_page_ne, Policy.enq_page_ne, Policy.unlink_page_ne, hi, hir',
        Policy.taken_ne]

/-- An evicted page: its slot is free again. -/
theorem removes_evicted (h : Inv s.pol) (hl : (s.pol.page p).list = some q)
    (hr : (s.pol.page p).role = .evicted) : RemovesPage s p := by
  have hp := h.lt_of_list hl
  have hin := (UserPage.role_evicted.1 hr).1
  have hsw := (h.struct p hp).swapped hin
  have hres := h.reserve_eq_none hp (by rw [hr]; decide) (by rw [hr]; decide)
  have hrem := h.run_tryremove_marked hl
  let P₂ := (s.pol.taken q p).upd p fun x => { x with reserve := none, has_reserve := false }
  have hl₂ : (P₂.page p).list = none := by simp [P₂, Policy.taken_self]
  have henq := run_enqueue_fifo (s := ⟨P₂, s.mem⟩) (q := .disk_free_list) hl₂
  refine ⟨(P₂.enq .disk_free_list p).upd p fun x => { x with migrating := false }, ?_, ?_,
    by simp [P₂, Policy.taken], by simp [P₂, Policy.taken]⟩
  · simp only [P₂, Policy.taken] at henq
    simp [lrudisk_remove_page, hrem, hl, hin, hsw, henq, P₂, Policy.taken]
  · refine ⟨⟨by simp [P₂, Policy.taken], by simp [P₂, Policy.taken], by simp [P₂, Policy.taken],
      by simp [P₂, Policy.taken]⟩,
      (Policy.WellLinked.enq ((h.taken_linked hl).upd rfl) hl₂).upd rfl, ?_, fun r hr' => ?_,
      fun i hi _ => ?_⟩
    · simp [P₂, Policy.taken_self, hin]
    · rw [hres] at hr'
      cases hr'
    · simp [P₂, Policy.upd_page_ne, Policy.enq_page_ne, hi, Policy.taken_ne]

/-- `lrudisk_remove_page` on a live page that is on a list: it returns, and no assertion
on its way fails. -/
theorem run_lrudisk_remove_page (h : Inv s.pol) (hl : (s.pol.page p).list = some q)
    (hr : (s.pol.page p).role = .resident ∨ (s.pol.page p).role = .evicted) :
    ∃ P', (lrudisk_remove_page p).run s = .ok ((), { s with pol := P' }) ∧ Freed s.pol P' p ∧
      P'.mem_allocated = s.pol.mem_allocated ∧ P'.pages_freed = s.pol.pages_freed := by
  rcases hr with hr | hr
  · rcases hres : (s.pol.page p).reserve with _ | r
    · exact removes_without_reserve h hl (UserPage.role_resident.1 hr).1 hres
    · exact removes_with_reserve h hl hr hres
  · exact removes_evicted h hl hr

end RemovePage

/-! ## `munmap` -/

/-- The struct of a page that was removed: a free frame or a free slot. -/
def UserPage.released (p : UserPage) : UserPage :=
  { p with
    va := 0, present := false, migrating := false, has_reserve := false, reserve := none
    list := some (if p.in_dram then .dram_free_list else .disk_free_list) }

/-- The struct of a backing slot whose page was removed: a free slot. -/
def UserPage.unbacked (p : UserPage) : UserPage :=
  { p with
    has_reserve := false, reserve := none, present := false, list := some .disk_free_list }

/-- The page `p` that the index finds at `b` was removed: it and its reserve are given back, and
nothing else changes. -/
structure Removed (P P' : Policy) (p : PageId) (b : ℕ) : Prop where
  inv : Inv P'
  npages : P'.npages = P.npages
  dramsize : P'.dramsize = P.dramsize
  disksize : P'.disksize = P.disksize
  index : P'.pages = Function.update P.pages b none
  page : P'.page p = (P.page p).released
  reserve : ∀ r, (P.page p).reserve = some r → P'.page r = (P.page r).unbacked
  other : ∀ i, i ≠ p → (P.page p).reserve ≠ some i → P'.page i = P.page i

section Removal

variable {P P' : Policy} {p : PageId} {b : ℕ}

/-- The role of a page that the index finds. -/
theorem Busy.role_of_index (h : Idle P) (hb : P.pages b = some p) :
    (P.page p).role = .resident ∨ (P.page p).role = .evicted := by
  obtain ⟨-, hva, hb0⟩ := h.live hb
  rw [← hva] at hb0
  rcases hd : (P.page p).in_dram with _ | _
  · exact Or.inr (UserPage.role_evicted.2 ⟨hd, hb0⟩)
  · exact Or.inl (UserPage.role_resident.2 ⟨hd, hb0⟩)

/-- The counters play no part. -/
theorem Busy.account {jobs : List (PageId × PageId)} (h : Busy P jobs) (bytes freed : ℕ) :
    Busy (P.account bytes freed) jobs :=
  ⟨h.inv.account bytes freed, h.index, h.quiet, h.page, h.frame, h.distinct⟩

theorem DataOk.account {m : Mem α} (h : DataOk ⟨P, m⟩) (bytes freed : ℕ) :
    DataOk ⟨P.account bytes freed, m⟩ :=
  ⟨h.io, h.resident, h.evicted⟩

/-- `munmap` marks the page and takes it out of the index before it removes it. -/
theorem Inv.marked (h : Inv P) (hp : p < P.npages) (b : ℕ) :
    Inv ((P.upd p fun x => { x with migrating := true }).setIndex b none) :=
  (h.upd hp (f := fun x => { x with migrating := true }) (m := true)
    (n := (P.page p).naccesses) rfl).setIndex b none

theorem Freed.removed (h : Idle P) (hb : P.pages b = some p)
    (e : Freed ((P.upd p fun x => { x with migrating := true }).setIndex b none) P' p) :
    Removed P P' p b := by
  obtain ⟨hp, hva, hb0⟩ := h.live hb
  set P₀ := (P.upd p fun x => { x with migrating := true }).setIndex b none
  have hp₀ : P₀.page p = { P.page p with migrating := true } := by simp [P₀]
  have hne₀ : ∀ i, i ≠ p → P₀.page i = P.page i := fun i hi => by
    simp [P₀, Policy.upd_page_ne, hi]
  have hres : (P₀.page p).reserve = (P.page p).reserve := by rw [hp₀]
  have hrole : (P₀.page p).role = .resident ∨ (P₀.page p).role = .evicted := by
    rw [hp₀]
    exact h.role_of_index hb
  refine ⟨e.inv (h.inv.marked hp b) hp hrole, ?_, ?_, ?_, ?_, ?_, fun r hr => ?_,
    fun i hi hir => ?_⟩
  · rw [e.fixed.npages]
    simp [P₀]
  · rw [e.fixed.dramsize]
    simp [P₀]
  · rw [e.fixed.disksize]
    simp [P₀]
  · rw [e.fixed.pages]
    simp [P₀]
  · rw [e.page_p, hp₀]
    rfl
  · have hslot := h.inv.reserveOf hp (hva.symm ▸ hb0) hr
    rw [e.page_r r (hres.trans hr), hne₀ r hslot.ne.symm]
    rfl
  · rw [e.page_ne i hi (fun hc => hir (hres.symm.trans hc)), hne₀ i hi]

namespace Removed

theorem gone (e : Removed P P' p b) : (P'.page p).va = 0 := by
  rw [e.page]
  rfl

theorem va_ne (e : Removed P P' p b) {i : PageId} (hi : i ≠ p) :
    (P'.page i).va = (P.page i).va := by
  by_cases hir : (P.page p).reserve = some i
  · rw [e.reserve i hir]
    rfl
  · rw [e.other i hi hir]

/-- A page that is live afterwards is another one, and did not change. -/
theorem live (e : Removed P P' p b) (h : Idle P) (hb : P.pages b = some p) {i : PageId}
    (h0 : (P'.page i).va ≠ 0) : i ≠ p ∧ P'.page i = P.page i := by
  obtain ⟨hp, hva, hb0⟩ := h.live hb
  have hip : i ≠ p := by
    rintro rfl
    exact h0 e.gone
  refine ⟨hip, e.other i hip fun hres => h0 ?_⟩
  rw [e.va_ne hip]
  exact (h.inv.reserveOf hp (hva.symm ▸ hb0) hres).va

theorem indexOk (e : Removed P P' p b) (h : Idle P) (hb : P.pages b = some p) : IndexOk P' := by
  obtain ⟨hp, hva, hb0⟩ := h.live hb
  intro a i
  rw [e.index, e.npages]
  rcases eq_or_ne a b with rfl | hab
  · rw [Function.update_self]
    refine ⟨fun hc => absurd hc (Option.some_ne_none i).symm, ?_⟩
    -- only `p` had this address
    rintro ⟨hi, hia, h0⟩
    obtain ⟨hip, hsame⟩ := e.live h hb (hia.symm ▸ h0)
    rw [hsame] at hia
    exact absurd (h.inv.va_inj i p hi hp (hia.trans hva.symm) (hia.symm ▸ h0)) hip
  · rw [Function.update_of_ne hab, h.index]
    rcases eq_or_ne i p with rfl | hip
    · rw [e.gone, hva]
      constructor
      · rintro ⟨-, hba, -⟩
        exact absurd hba.symm hab
      · rintro ⟨-, h0, h0'⟩
        exact absurd h0.symm h0'
    · rw [e.va_ne hip]

theorem idle (e : Removed P P' p b) (h : Idle P) (hb : P.pages b = some p) : Idle P' := by
  refine idle_of e.inv (e.indexOk h hb) fun i hi => ⟨?_, fun h0 => ?_⟩
  · -- what was given back is on a free list
    rcases eq_or_ne i p with rfl | hip
    · rw [e.page]
      exact Option.some_ne_none _
    · by_cases hir : (P.page p).reserve = some i
      · rw [e.reserve i hir]
        exact Option.some_ne_none _
      · rw [e.other i hip hir]
        exact (h.quiet i (e.npages ▸ hi) (by simp)).1
  · have hsame := (e.live h hb h0).2
    rw [hsame] at h0 ⊢
    exact (h.quiet i (e.npages ▸ hi) (by simp)).2 h0

/-- A page that is left keeps its place, and so does its reserve. -/
theorem dataOk {m : Mem α} (e : Removed P P' p b) (h : Idle P) (hb : P.pages b = some p)
    (hd : DataOk ⟨P, m⟩) : DataOk ⟨P', m⟩ := by
  obtain ⟨hp, hva, hb0⟩ := h.live hb
  constructor
  · exact hd.io
  · intro i hi hri
    have hi : i < P.npages := e.npages ▸ hi
    obtain ⟨hip, hsame⟩ := e.live h hb (UserPage.role_resident.1 hri).2
    change P'.page i = P.page i at hsame
    simp only [hsame] at hri ⊢
    obtain ⟨x, hx, hbk⟩ := hd.resident i hi hri
    refine ⟨x, hx, fun r hr hclean => ?_⟩
    have hslot := h.inv.reserveOf_resident hi hri hr
    have hrp : r ≠ p := by
      rintro rfl
      exact hb0 (hva.symm.trans hslot.va)
    have hrr : (P.page p).reserve ≠ some r := fun hc =>
      hip (hslot.unique (h.inv.reserveOf hp (hva.symm ▸ hb0) hc)).symm
    simp only [e.other r hrp hrr]
    exact hbk r hr hclean
  · intro i hi hri
    have hi : i < P.npages := e.npages ▸ hi
    obtain ⟨-, hsame⟩ := e.live h hb (UserPage.role_evicted.1 hri).2
    change P'.page i = P.page i at hsame
    simp only [hsame] at hri ⊢
    exact hd.evicted i hi hri

end Removed

end Removal

/-- Pages were removed, and nothing else happened. -/
structure Unmapped (s s' : State α) (T : ℕ → Prop) : Prop where
  idle : Idle s'.pol
  size : SameSize s.pol s'.pol
  mem : s'.mem = s.mem
  data : DataOk s → DataOk s'
  gone : ∀ a, T a → s'.pol.pages a = none
  away : ∀ a c, ¬ T a → EvictedAt s a c → EvictedAt s' a c
  rest : ∀ a, ¬ T a → s'.pol.pages a = s.pol.pages a

/-- No page is added. -/
theorem Unmapped.only {s s' : State α} {T : ℕ → Prop} (h : Unmapped s s' T) {a : ℕ}
    (ha : s.pol.pages a = none) : s'.pol.pages a = none := by
  by_cases hT : T a
  · exact h.gone a hT
  · rw [h.rest a hT, ha]

/-- The page that the index finds at `b` is removed. -/
theorem Unmapped.of_removed {s : State α} {P' : Policy} {p : PageId} {b : ℕ} (h : Idle s.pol)
    (hb : s.pol.pages b = some p) (e : Removed s.pol P' p b) :
    Unmapped s ⟨P'.account (2 ^ 64 - PAGE_SIZE) 1, s.mem⟩ fun a => a = b := by
  have hidle := e.idle h hb
  have hrest : ∀ a, a ≠ b → P'.pages a = s.pol.pages a := fun a ha => by
    rw [e.index, Function.update_of_ne ha]
  refine ⟨hidle.account _ _, ⟨?_, ?_⟩, rfl, fun hd => (e.dataOk h hb hd).account _ _, fun a ha => ?_,
    fun a c ha hat => ?_, fun a ha => ?_⟩
  · rw [Policy.account_dramsize, e.dramsize]
  · rw [Policy.account_disksize, e.disksize]
  · rw [Policy.account_pages, e.index, ha, Function.update_self]
  · -- an evicted page at another address is another page
    obtain ⟨q, hq, hrq, hnone, hdis⟩ := hat
    have hfound : P'.pages a = some q := (hrest a ha).trans hq
    obtain ⟨-, hqa, hq0⟩ := hidle.live hfound
    have hsame := (e.live h hb (hqa.symm ▸ hq0)).2
    refine ⟨q, ?_, ?_, hnone, hdis⟩
    · rw [Policy.account_pages]
      exact hfound
    · rw [Policy.account_page, hsame]
      exact hrq
  · rw [Policy.account_pages, hrest a ha]

/-- `munmap` of a page that the index finds. -/
theorem run_munmap_page_some {s : State α} (h : Idle s.pol) {b : ℕ} {p : PageId}
    (hb : s.pol.pages b = some p) :
    ∃ P', (munmap_page b).run s = .ok ((), ⟨P'.account (2 ^ 64 - PAGE_SIZE) 1, s.mem⟩) ∧
      Freed ((s.pol.upd p fun x => { x with migrating := true }).setIndex b none) P' p ∧
      P'.mem_allocated = s.pol.mem_allocated ∧ P'.pages_freed = s.pol.pages_freed := by
  obtain ⟨hp, hva, hb0⟩ := h.live hb
  obtain ⟨hlist, hmig⟩ := h.quiet p hp (by simp)
  obtain ⟨q, hq⟩ := Option.ne_none_iff_exists'.1 hlist
  have hr := h.role_of_index hb
  obtain ⟨P', hrun, e, hcounters⟩ := run_lrudisk_remove_page (p := p) (q := q)
    (s := ⟨(s.pol.upd p fun x => { x with migrating := true }).setIndex b none, s.mem⟩)
    (h.inv.marked hp b)
    (by simp [hq]) (by rw [Policy.setIndex_page, Policy.upd_page_self]; exact hr)
  refine ⟨P', ?_, e, hcounters⟩
  have hmig' : (s.pol.page p).migrating = false := hmig (by rw [hva]; exact hb0)
  simp [munmap_page, remove_page, hb, hmig', hva, hrun]

theorem run_munmap_page_none {s : State α} {b : ℕ} (hb : s.pol.pages b = none) :
    (munmap_page b).run s = .ok ((), s) := by
  rw [munmap_page, run_bind_ok (run_find_page _ _), hb]
  rfl

/-- One page of `extmem_munmap` always returns. -/
theorem run_munmap_page {s : State α} (h : Idle s.pol) (b : ℕ) :
    ∃ s', (munmap_page b).run s = .ok ((), s') ∧ Unmapped s s' fun a => a = b := by
  rcases hb : s.pol.pages b with _ | p
  · exact ⟨s, run_munmap_page_none hb, h, SameSize.refl _, rfl, id,
      fun a ha => by rw [ha]; exact hb, fun _ _ _ hat => hat, fun _ _ => rfl⟩
  · obtain ⟨P', hrun, e, -⟩ := run_munmap_page_some h hb
    exact ⟨_, hrun, Unmapped.of_removed h hb (e.removed h hb)⟩

/-- The addresses of `left` pages from `b` on. -/
def Pages (b left : ℕ) (a : ℕ) : Prop := ∃ k, k < left ∧ a = b + k * PAGE_SIZE

theorem run_munmap_loop (left b : ℕ) (s : State α) (h : Idle s.pol) :
    ∃ s', (munmap_loop left b).run s = .ok ((), s') ∧ Unmapped s s' (Pages b left) := by
  induction left generalizing b s with
  | zero =>
      exact ⟨s, rfl, h, SameSize.refl _, rfl, id, fun a ⟨k, hk, _⟩ => absurd hk (Nat.not_lt_zero k),
        fun _ _ _ hat => hat, fun _ _ => rfl⟩
  | succ left ih =>
      obtain ⟨s₁, hrun₁, h₁⟩ := run_munmap_page h b
      obtain ⟨s₂, hrun₂, h₂⟩ := ih (b + PAGE_SIZE) s₁ h₁.idle
      refine ⟨s₂, ?_, h₂.idle, h₁.size.trans h₂.size, h₂.mem.trans h₁.mem, fun hd => h₂.data (h₁.data hd), ?_, ?_,
        fun a ha => ?_⟩
      · rw [munmap_loop, run_bind_ok hrun₁, hrun₂]
      · rintro a ⟨k, hk, rfl⟩
        rcases k with _ | k
        · exact h₂.only (h₁.gone _ (by omega))
        · refine h₂.gone _ ⟨k, by omega, ?_⟩
          simp only [PAGE_SIZE]
          omega
      · intro a c ha hat
        refine h₂.away a c (fun ⟨k, hk, hak⟩ => ha ⟨k + 1, by omega, ?_⟩)
          (h₁.away a c (fun hab => ha ⟨0, by omega, by rw [hab]; omega⟩) hat)
        rw [hak]
        simp only [PAGE_SIZE]
        omega
      · rw [h₂.rest a fun ⟨k, hk, hak⟩ => ha ⟨k + 1, by omega, by
            rw [hak]
            simp only [PAGE_SIZE]
            omega⟩]
        exact h₁.rest a fun hab => ha ⟨0, by omega, by rw [hab]; omega⟩

/-- What a `munmap` did to the index. -/
structure Dropped (s s' : State α) (addr length : ℕ) : Prop where
  gone : ∀ a, addr ≤ a → a < addr + length → s'.pol.pages a = none
  rest : ∀ a, ¬ (addr ≤ a ∧ a < addr + length) → s'.pol.pages a = s.pol.pages a
  page_cache : s'.mem.page_cache = s.mem.page_cache

/-- **`munmap`.** The pages in the range are removed; the rest is as it was. -/
theorem extmem_munmap_ends {s : State α} (h : Idle s.pol) (addr length : ℕ) :
    Ends ((extmem_munmap addr length).run s)
      (fun _ s' => Served s s' True (fun a => addr ≤ a ∧ a < addr + length) ∧
        Dropped s s' addr length) Calm := by
  rw [extmem_munmap]
  refine Ends.check_bind (fun _ => calm_hang) fun hstop => ?_
  obtain ⟨s₁, hrun, h₁⟩ := run_munmap_loop
    (((addr + length) % 2 ^ 64 - addr + (PAGE_SIZE - 1)) / PAGE_SIZE) addr s h
  rw [run_bind_ok hrun, libc_munmap, run_bind_ok (run_app_turn _)]
  refine Ends.check_bind (fun _ => calm_libc_munmap) fun hrange => ?_
  obtain ⟨haddr, hlen, hfit⟩ := hrange
  have happ := s₁.mem.app_turn_appStep
  -- an aligned address in the range was visited by the loop
  have hgone : ∀ i, i < s₁.pol.npages → (s₁.pol.page i).va ≠ 0 →
      ¬ (addr ≤ (s₁.pol.page i).va ∧ (s₁.pol.page i).va < addr + length) := by
    rintro i hi h0 ⟨hlo, hhi⟩
    have hal := (h₁.idle.inv.struct i hi).aligned
    have hidx := (h₁.idle.index _ i).2 ⟨hi, rfl, h0⟩
    rw [h₁.gone] at hidx
    · cases hidx
    · refine ⟨((s₁.pol.page i).va - addr) / PAGE_SIZE, ?_, ?_⟩ <;>
        simp only [PAGE_SIZE] at * <;> omega
  have hin : ∀ a, Pages addr (((addr + length) % 2 ^ 64 - addr + (PAGE_SIZE - 1)) / PAGE_SIZE) a →
      addr ≤ a ∧ a < addr + length := by
    rintro a ⟨k, hk, rfl⟩
    simp only [PAGE_SIZE] at *
    omega
  refine ⟨⟨h₁.idle, h₁.size, fun _ hd => ?_, fun a c ha hat => ?_⟩,
    fun a hlo hhi => ?_, fun a ha => h₁.rest a fun hp => ha (hin a hp),
    happ.rest.page_cache.trans (congrArg Mem.page_cache h₁.mem)⟩
  · have hd₁ := (h₁.data hd).app (t := ⟨s₁.pol, s₁.mem.app_turn⟩) rfl
      (fun _ => ⟨rfl, rfl, rfl, rfl⟩) happ
    refine ⟨hd₁.io, fun i hi hr => ?_, fun i hi hr => ?_⟩
    · obtain ⟨x, hx, hback⟩ := hd₁.resident i hi hr
      refine ⟨x, ?_, hback⟩
      simp only [if_neg (hgone i hi (UserPage.role_resident.1 hr).2)]
      exact hx
    · obtain ⟨hnone, hrest⟩ := hd₁.evicted i hi hr
      refine ⟨?_, hrest⟩
      simp only [if_neg (hgone i hi (UserPage.role_evicted.1 hr).2)]
      exact hnone
  · have hat₁ : EvictedAt s₁ a c := h₁.away a c (fun hp => ha (hin a hp)) hat
    obtain ⟨q, hq, hr, hnone, hdis⟩ := hat₁
    refine ⟨q, hq, hr, ?_, ?_⟩
    · simp only [if_neg ha]
      exact (happ.entry a).1 hnone
    · exact (congrFun happ.rest.discarded a).trans hdis
  · rcases hp : s₁.pol.pages a with _ | i
    · rfl
    · obtain ⟨hi, rfl, h0⟩ := h₁.idle.live hp
      exact absurd ⟨hlo, hhi⟩ (hgone i hi h0)

/-! ## Sequential prefetch -/

/-- The addresses of the `n` pages after `b`, in a 64-bit address space. -/
def Window (b n a : ℕ) : Prop := ∃ k, 1 ≤ k ∧ k ≤ n ∧ a = (b + k * PAGE_SIZE) % 2 ^ 64

theorem Window.next {b n a : ℕ} (h : Window ((b + PAGE_SIZE) % 2 ^ 64) n a) :
    Window b (n + 1) a := by
  obtain ⟨k, hk, hkn, rfl⟩ := h
  refine ⟨k + 1, by omega, by omega, ?_⟩
  simp only [PAGE_SIZE]
  omega

theorem Window.le {b n m a : ℕ} (h : Window b n a) (hn : n ≤ m) : Window b m a := by
  obtain ⟨k, hk, hkn, ha⟩ := h
  exact ⟨k, hk, hkn.trans hn, ha⟩

theorem Window.head (b n : ℕ) : Window b (n + 1) ((b + PAGE_SIZE) % 2 ^ 64) :=
  ⟨1, le_refl 1, by omega, by rw [Nat.one_mul]⟩

/-- Marking a frame that the handler holds. -/
theorem Busy.mark_frame {P : Policy} {jobs : List (PageId × PageId)} {p f : PageId}
    (h : Busy P jobs) (hj : (p, f) ∈ jobs) :
    Busy (P.upd f fun q => { q with migrating := true }) jobs := by
  obtain ⟨hf, hfl, hfr⟩ := h.frame p f hj
  have hheld : f ∈ held jobs := List.mem_flatMap.2 ⟨_, hj, by simp⟩
  have hpage : (P.upd f fun q => { q with migrating := true }).page f
      = { P.page f with migrating := true } := by simp
  have hne : ∀ i, i ≠ f → (P.upd f fun q => { q with migrating := true }).page i = P.page i :=
    fun i hi => Policy.upd_page_ne _ _ hi
  constructor
  · exact h.inv.upd hf (f := fun q => { q with migrating := true }) (m := true)
      (n := (P.page f).naccesses) rfl
  · refine h.index.congr ⟨by simp, by simp, by simp, by simp⟩ fun i => ?_
    rcases eq_or_ne i f with rfl | hi
    · rw [hpage]
    · rw [hne i hi]
  · intro i hi hni
    rw [hne i fun heq => hni (heq ▸ hheld)]
    exact h.quiet i hi hni
  · intro p' f' hj'
    have hpf : p' ≠ f := fun heq => by
      have := (h.page p' f' hj').2.2.1
      rw [heq, hfr] at this
      cases this
    rw [hne p' hpf]
    exact h.page p' f' hj'
  · intro p' f' hj'
    rcases eq_or_ne f' f with rfl | hff
    · rw [hpage]
      exact ⟨hf, hfl, hfr⟩
    · rw [hne f' hff]
      exact h.frame p' f' hj'
  · exact h.distinct

/-- A swapped-out page that is not marked is not held, so it is on its list. -/
theorem Busy.list_of_swapped {P : Policy} {jobs : List (PageId × PageId)} {b : ℕ} {p : PageId}
    (h : Busy P jobs) (hb : P.pages b = some p) (hmig : (P.page p).migrating = false)
    (hsw : (P.page p).swapped_out = true) : (P.page p).list = some .disk_active_list := by
  obtain ⟨hp, hva, h0⟩ := h.live hb
  have hni : p ∉ held jobs := fun hm => by
    obtain ⟨⟨p', f'⟩, hj, hm⟩ := List.mem_flatMap.1 hm
    rcases List.mem_cons.1 hm with rfl | hm
    · rw [(h.page _ _ hj).2.2.2] at hmig
      cases hmig
    · have hpf : p = f' := List.mem_singleton.1 hm
      have hf0 := (UserPage.role_frame.1 (h.frame _ _ hj).2.2).2
      rw [← hpf, hva] at hf0
      exact h0 hf0
  exact h.swapped_list hp (by rw [hva]; exact h0) (h.quiet p hp hni).1 hsw

/-- The detachment of a page that was marked. -/
theorem Busy.run_claim {s : State α} {jobs : List (PageId × PageId)} {b : ℕ} {p : PageId}
    (h : Busy s.pol jobs) (hb : s.pol.pages b = some p)
    (hl : (s.pol.page p).list = some .disk_active_list) :
    (lrudisk_detach_page p).run ⟨s.pol.upd p fun q => { q with migrating := true }, s.mem⟩ =
        .ok ((), ⟨(s.pol.upd p fun q => { q with migrating := true }).unlink .disk_active_list p,
          s.mem⟩) ∧
      Inv ((s.pol.upd p fun q => { q with migrating := true }).unlink .disk_active_list p) := by
  have hr := h.inv.role_of_list hl rfl
  have h₀ : Inv (s.pol.upd p fun q => { q with migrating := true }) :=
    h.inv.upd (h.live hb).1 (f := fun q => { q with migrating := true }) (m := true)
      (n := (s.pol.page p).naccesses) rfl
  refine ⟨run_lrudisk_detach_page (p := p)
    (s := ⟨s.pol.upd p fun q => { q with migrating := true }, s.mem⟩) h₀ (by simp [hl]), ?_⟩
  exact h₀.unlink (by simp [hl]) (by rw [Policy.upd_page_self]; exact hr ▸ by decide)

/-- Taking a struct off its list moves no bytes. -/
theorem DataOk.unlink {s : State α} (h : DataOk s) (q : ListId) (p : PageId) :
    DataOk ⟨s.pol.unlink q p, s.mem⟩ := by
  refine h.app (by simp) (fun i => ?_) (AppStep.refl _)
  rcases eq_or_ne i p with rfl | hi
  · rw [Policy.unlink_page_self]
    exact ⟨rfl, rfl, rfl, rfl⟩
  · rw [Policy.unlink_page_ne _ _ hi]
    exact ⟨rfl, rfl, rfl, rfl⟩

/-- From `s` to `s'` the first loop of `core_try_prefetch` has added the jobs `new`, whose pages
are among the `n` after `b`. The pages elsewhere are where they were, and the contents are right
if they were. -/
structure Selected (s s' : State α) (jobs new : List (PageId × PageId)) (b n : ℕ) : Prop where
  busy : Busy s'.pol (jobs ++ new)
  window : ∀ p f, (p, f) ∈ new → Window b n (s'.pol.page p).va
  va : ∀ i, (s'.pol.page i).va = (s.pol.page i).va
  fixed : Fixed s.pol s'.pol
  page_cache : s'.mem.page_cache = s.mem.page_cache
  away : ∀ a c, ¬ Window b n a → EvictedAt s a c → EvictedAt s' a c
  data : DataOk s → DataOk s'

section Selected

variable {s s' s'' : State α} {jobs rest : List (PageId × PageId)} {p f : PageId} {b n : ℕ}

theorem Selected.stop (h : Busy s.pol jobs) (b n : ℕ) : Selected s s jobs [] b n := by
  refine ⟨?_, fun _ _ hj => absurd hj List.not_mem_nil, fun _ => rfl, Fixed.refl _, rfl,
    fun _ _ _ hat => hat, id⟩
  rw [List.append_nil]
  exact h

/-- One turn of the loop claims the page after `b`. -/
theorem Selected.claim {s₁ : State α} (h : Busy s.pol jobs)
    (hva : (s.pol.page p).va = (b + PAGE_SIZE) % 2 ^ 64)
    (hl : (s.pol.page p).list = some .disk_active_list)
    (hf : Fetched ⟨(s.pol.upd p fun q => { q with migrating := true }).unlink .disk_active_list p,
      s.mem⟩ s₁ f) :
    Selected s ⟨s₁.pol.upd f fun q => { q with migrating := true }, s₁.mem⟩ jobs [(p, f)] b 1 := by
  have c := Claimed.of_detach_fetch h.inv hl hf
  have hvas : ∀ i, ((s₁.pol.upd f fun q => { q with migrating := true }).page i).va
      = (s.pol.page i).va := by
    intro i
    rw [← c.va]
    rcases eq_or_ne i f with rfl | hi
    · rw [Policy.upd_page_self]
    · rw [Policy.upd_page_ne _ _ hi]
  refine ⟨(h.claim hl c).mark_frame (p := p) (f := f) (by simp), fun p' f' hj => ?_, hvas,
    c.fixed.trans ⟨by simp, by simp, by simp, by simp⟩, hf.step.page_cache,
    fun a c' ha hat => ?_, fun hd => ?_⟩
  · obtain ⟨rfl, rfl⟩ := Prod.mk.inj (List.mem_singleton.1 hj)
    rw [hvas, hva]
    exact Window.head b 0
  · have hav : a ≠ (s.pol.page p).va := by
      intro heq
      rw [heq, hva] at ha
      exact ha (Window.head b 0)
    have hat₁ : EvictedAt s₁ a c' := by
      refine hat.claim h c hav hf.step.unmapped fun i hip hi => ?_
      rw [hf.step.evicted i (by
        rw [Policy.unlink_page_ne _ _ hip, Policy.upd_page_ne _ _ hip]
        exact hi), Policy.unlink_page_ne _ _ hip, Policy.upd_page_ne _ _ hip]
    -- the page that holds `a` is evicted, hence it is not the frame
    obtain ⟨q, hq, hrq, hrest⟩ := hat₁
    refine ⟨q, hq, ?_, hrest⟩
    rcases eq_or_ne q f with rfl | hqf
    · rw [hf.frame] at hrq
      cases hrq
    · rw [Policy.upd_page_ne _ _ hqf]
      exact hrq
  · -- the search evicts pages, which keeps the contents; the claim itself moves no bytes
    have hd₁ : DataOk s₁ := hf.step.data (DataOk.unlink (Step.mark s p hd) .disk_active_list p)
    exact Step.mark s₁ f hd₁

/-- A turn of the loop, and the turns after it. -/
theorem Selected.cons (h : Selected s s' jobs [(p, f)] b 1)
    (h' : Selected s' s'' (jobs ++ [(p, f)]) rest ((b + PAGE_SIZE) % 2 ^ 64) n) :
    Selected s s'' jobs ((p, f) :: rest) b (n + 1) := by
  refine ⟨?_, fun p' f' hj => ?_, fun i => (h'.va i).trans (h.va i), h.fixed.trans h'.fixed,
    h'.page_cache.trans h.page_cache, fun a c ha hat => ?_, fun hd => h'.data (h.data hd)⟩
  · have hbusy := h'.busy
    rw [List.append_assoc] at hbusy
    exact hbusy
  · rcases List.mem_cons.1 hj with hj | hj
    · have hfirst := h.window p' f' (List.mem_singleton.2 hj)
      rw [← h'.va] at hfirst
      exact hfirst.le (Nat.le_add_left 1 n)
    · exact (h'.window p' f' hj).next
  · refine h'.away a c (fun hw => ha hw.next) (h.away a c (fun hw => ha ?_) hat)
    exact hw.le (Nat.le_add_left 1 n)

end Selected

/-- The first loop of `core_try_prefetch` claims pages of the window. -/
theorem prefetch_select_ends (fuel left b : ℕ) (s : State α) (jobs : List (PageId × PageId))
    (h : Busy s.pol jobs) :
    Ends ((prefetch_select fuel left b).run s)
      (fun new s' => Selected s s' jobs new b left) (Short s.pol) := by
  induction left generalizing b s jobs with
  | zero => exact Ends.ok (Selected.stop h b 0)
  | succ left ih =>
      rw [prefetch_select, run_bind_ok (run_find_page _ _)]
      rcases hb : s.pol.pages ((b + PAGE_SIZE) % 2 ^ 64) with _ | p
      · exact Ends.ok (Selected.stop h b _)
      · obtain ⟨hp, hva, h0⟩ := h.live hb
        rw [run_bind_ok (run_get_page _ _), run_check_bind hva, run_bind_ok (run_get_page _ _),
          run_bind_ok (run_get_page _ _)]
        split
        case isTrue => exact Ends.ok (Selected.stop h b _)
        case isFalse hc =>
          simp only [not_or, Bool.not_eq_true, Bool.not_eq_false] at hc
          obtain ⟨hmig, hsw⟩ := hc
          have hl := h.list_of_swapped hb hmig hsw
          obtain ⟨hdet, hd⟩ := h.run_claim hb hl
          have hr := h.inv.role_of_list hl rfl
          rw [run_bind_ok (run_set_page _ _ _), run_bind_ok (run_get_page _ _),
            run_check_bind (by simpa using hva ▸ h0), run_bind_ok hdet]
          refine Ends.bind ((lrudisk_pagefault_ends fuel hd).mono (fun _ _ hs => hs) fun _ he =>
            he.of_roomy fun hroomy => (hroomy.mark p).unlink ?_) ?_
          · rw [Policy.upd_page_self]
            exact hr ▸ by decide
          rintro f s₂ ⟨s₁, hf, rfl⟩
          have hclaim := Selected.claim h hva hl hf
          refine Ends.bind ((ih _ _ _ hclaim.busy).mono (fun _ _ hs => hs) fun _ he =>
            he.of_roomy (hclaim.busy.roomy_of hclaim.fixed hclaim.va)) fun rest s' hrest => ?_
          exact Ends.ok (hclaim.cons hrest)

/-- The read loop only fills the prefetch buffer. -/
theorem run_prefetch_read (jobs : List (PageId × PageId)) (i : ℕ) (s : State α) :
    ∃ m', (prefetch_read jobs i).run s = .ok ((), ⟨s.pol, m'⟩) ∧ m'.pte = s.mem.pte ∧
      m'.page_cache = s.mem.page_cache ∧ m'.discarded = s.mem.discarded := by
  induction jobs generalizing i s with
  | nil => exact ⟨s.mem, rfl, rfl, rfl, rfl⟩
  | cons j jobs ih =>
      obtain ⟨p, f⟩ := j
      let d := s.mem.disk_read (s.pol.page p).virtual_offset (s.mem.prefetch_buffer i)
      obtain ⟨m', hrun, hpte, hzero, hdis⟩ := ih (i + 1) ⟨s.pol,
        { s.mem.io_done with prefetch_buffer := Function.update s.mem.io_done.prefetch_buffer i d }⟩
      refine ⟨m', ?_, hpte, hzero, hdis⟩
      rw [prefetch_read, run_bind_ok (run_get_page _ _), run_bind_ok (run_get_mem _),
        run_bind_ok (run_extmem_disk_read _ _ _), run_bind_ok (run_modify_mem _ _)]
      exact hrun

/-- The acknowledgement of one prefetched page, and the assignments after it. -/
theorem run_ack {s : State α} {p f : PageId} {jobs : List (PageId × PageId)}
    (h : Busy s.pol ((p, f) :: jobs)) :
    ∃ P', (do
        lrudisk_ack_swapin p f
        set_page p fun q => { q with in_dram := true }
        set_page p fun q => { q with swapped_out := false, migrating := false } : Proc α Unit).run s
        = .ok ((), ⟨P', s.mem⟩) ∧ SwapinTo s.pol P' p f := by
  obtain ⟨hp, hpl, hpr, hpm⟩ := h.page p f List.mem_cons_self
  obtain ⟨hf, hfl, hfr⟩ := h.frame p f List.mem_cons_self
  obtain ⟨hpin, hpva⟩ := UserPage.role_evicted.1 hpr
  have hfin := (UserPage.role_frame.1 hfr).1
  have hsw := (h.inv.struct p hp).swapped hpin
  have hpf : p ≠ f := fun heq => by
    rw [heq, hfr] at hpr
    cases hpr
  let P₁ := (s.pol.upd f fun q =>
    { q with
      virtual_offset := (s.pol.page p).virtual_offset, in_dram := false, swapped_out := true
      migrating := false }).upd p fun q =>
    { q with virtual_offset := (s.pol.page f).virtual_offset }
  have hl₁ : (P₁.page p).list = none := by simp [P₁, Policy.upd_page_ne, hpf, hpl]
  have hl₁' : (P₁.page f).list = none := by simp [P₁, Policy.upd_page_ne, hpf.symm, hfl]
  have hlink := run_link_reserve (s := ⟨P₁, s.mem⟩) hpf hl₁ hl₁'
  refine ⟨((P₁.link_reserve p f).upd p fun q => { q with in_dram := true }).upd p fun q =>
    { q with swapped_out := false, migrating := false }, ?_, ?_⟩
  · simp only [P₁] at hlink
    simp [lrudisk_ack_swapin, hpl, hfl, hfin, hsw, hpm, hlink, P₁]
  · refine ⟨⟨?_, ?_, ?_, ?_⟩, ?_, ?_, ?_, fun i hip hif => ?_⟩
    · simp [Policy.link_reserve, P₁]
    · simp [Policy.link_reserve, P₁]
    · simp [Policy.link_reserve, P₁]
    · simp [Policy.link_reserve, P₁]
    · exact ((Policy.link_reserve_linked ((h.inv.linked.upd rfl).upd rfl) hpf hl₁ hl₁').upd
        rfl).upd rfl
    · simp [Policy.link_reserve_page_p hpf, P₁, Policy.upd_page_ne, hpf]
    · simp [Policy.link_reserve_page_f hpf, P₁, Policy.upd_page_ne, hpf.symm]
    · simp [Policy.link_reserve_page_ne hip hif, P₁, Policy.upd_page_ne, hip, hif]

/-- The last loop of `core_try_prefetch` settles every pair. -/
theorem run_prefetch_finish (jobs : List (PageId × PageId)) (n : ℕ) (s : State α)
    (h : Busy s.pol jobs) :
    ∃ k s', (prefetch_finish jobs n).run s = .ok (k, s') ∧ Idle s'.pol ∧ Fixed s.pol s'.pol ∧
      s'.mem.page_cache = s.mem.page_cache ∧ ∀ a c, (∀ p f, (p, f) ∈ jobs → a ≠ (s.pol.page p).va) → EvictedAt s a c →
        EvictedAt s' a c := by
  induction jobs generalizing n s with
  | nil => exact ⟨n, s, rfl, h, Fixed.refl _, rfl, fun _ _ _ hat => hat⟩
  | cons j jobs ih =>
      obtain ⟨p, f⟩ := j
      -- the copy may fail; it is only reported
      obtain ⟨ret, m₁, hcopy, hentry, hdis, hzero₁⟩ : ∃ ret m₁,
          (uffdio_copy (s.pol.page p).va (s.mem.prefetch_buffer n)).run s
            = .ok (ret, { s with mem := m₁ }) ∧
          (∀ a, a ≠ (s.pol.page p).va → s.mem.pte a = none → m₁.pte a = none) ∧
          m₁.discarded = s.mem.discarded ∧ m₁.page_cache = s.mem.page_cache := by
        rw [run_uffdio_copy]
        split
        · exact ⟨_, _, rfl, fun a _ hnone => (s.mem.copy_failed_appStep a).1 hnone,
            s.mem.app_turn_appStep.rest.discarded, s.mem.app_turn_appStep.rest.page_cache⟩
        · have hspec := s.mem.copied_spec (s.pol.page p).va (s.mem.prefetch_buffer n)
          exact ⟨_, _, rfl, fun a ha hnone => (hspec.others a ha).1 hnone, hspec.discarded,
            Mem.copied_page_cache _ _ _⟩
      obtain ⟨P', hack, e⟩ := run_ack (s := ⟨s.pol, m₁⟩) h
      obtain ⟨k, s', hrun, hidle, hfixed, hzero, haway⟩ := ih (n + 1) ⟨P', m₁⟩ (h.settle e)
      refine ⟨k, s', ?_, hidle, e.fixed.trans hfixed, hzero.trans hzero₁, fun a c ha hat => ?_⟩
      · rw [prefetch_finish, run_bind_ok (run_get_page _ _), run_bind_ok (run_get_mem _),
          run_bind_ok hcopy]
        have hassoc : ∀ g : Proc α ℕ, (do
            lrudisk_ack_swapin p f
            set_page p fun q => { q with in_dram := true }
            set_page p fun q => { q with swapped_out := false, migrating := false }
            g).run ⟨s.pol, m₁⟩ = g.run ⟨P', m₁⟩ := by
          intro g
          have := run_bind_ok (f := fun _ => g) hack
          simpa only [bind_assoc] using this
        rw [hassoc]
        exact hrun
      · have hap := ha p f List.mem_cons_self
        refine haway a c (fun p' f' hj => ?_)
          (hat.settle h (t := ⟨P', m₁⟩) e (hentry a hap) hdis hap)
        have hp' := (h.settle e).page p' f' hj
        have hne : p' ≠ p ∧ p' ≠ f := by
          have hdist := h.distinct
          simp only [held_cons, List.nodup_cons, List.mem_cons, not_or] at hdist
          have hm : p' ∈ held jobs := List.mem_flatMap.2 ⟨_, hj, by simp⟩
          exact ⟨fun heq => hdist.1.2 (heq ▸ hm), fun heq => hdist.2.1 (heq ▸ hm)⟩
        rw [e.page_ne p' hne.1 hne.2]
        exact ha p' f' (List.mem_cons_of_mem _ hj)

/-- **Sequential prefetch.** -/
theorem core_try_prefetch_ends (fuel : ℕ) {s : State α} {base : ℕ} (h : Idle s.pol)
    (hbase : base ≠ 0) :
    Ends ((core_try_prefetch fuel base).run s)
      (fun _ s' => Served s s' False (Window base CORE_PREFETCH_RATE) ∧ Fixed s.pol s'.pol ∧
        s'.mem.page_cache = s.mem.page_cache) (Short s.pol) := by
  rw [core_try_prefetch, run_check_bind hbase]
  refine Ends.bind (prefetch_select_ends fuel CORE_PREFETCH_RATE base s [] h) ?_
  intro jobs s₁ hsel
  obtain ⟨m₂, hread, hpte, hzero₂, hdis⟩ := run_prefetch_read jobs 0 s₁
  obtain ⟨k, s', hrun, hidle, hfixed', hzero', haway'⟩ :=
    run_prefetch_finish jobs 0 ⟨s₁.pol, m₂⟩ hsel.busy
  rw [run_bind_ok hread]
  have hall := hsel.fixed.trans hfixed'
  refine Ends.of_eq hrun ⟨⟨hidle, hall.sameSize, fun hf => hf.elim, fun a c ha hat => ?_⟩, hall,
    hzero'.trans (hzero₂.trans hsel.page_cache)⟩
  refine haway' a c (fun p f hj heq => ha (heq ▸ hsel.window p f hj)) ?_
  obtain ⟨q, hq, hr, hnone, hc⟩ := hsel.away a c ha hat
  exact ⟨q, hq, hr, by rw [hpte]; exact hnone, by rw [hdis]; exact hc⟩

/-! ## Initialisation -/

/-- The struct that `lrudisk_init` allocates for the page `k` of DRAM or of the disk. -/
def UserPage.initial (in_dram : Bool) (q : ListId) (k : ℕ) : UserPage :=
  { virtual_offset := k * PAGE_SIZE, in_dram := in_dram, swapped_out := !in_dram, list := some q }

/-- What one loop of `lrudisk_init` adds: `left` structs, from page `i` on. -/
structure Allocated (s s' : State α) (in_dram : Bool) (q : ListId) (left i : ℕ) : Prop where
  mem : s'.mem = s.mem
  dramsize : s'.pol.dramsize = s.pol.dramsize
  disksize : s'.pol.disksize = s.pol.disksize
  pages : s'.pol.pages = s.pol.pages
  npages : s'.pol.npages = s.pol.npages + left
  linked : s'.pol.WellLinked
  old : ∀ j, j < s.pol.npages → s'.pol.page j = s.pol.page j
  new : ∀ k, k < left → s'.pol.page (s.pol.npages + k) = UserPage.initial in_dram q (i + k)
  fresh : ∀ j, s'.pol.npages ≤ j → s'.pol.page j = {}
  counted : i + left < 2 ^ 31

theorem lrudisk_init_loop_ends (in_dram : Bool) (q : ListId) (left i : ℕ) (s : State α)
    (hlinked : s.pol.WellLinked) (hfresh : ∀ j, s.pol.npages ≤ j → s.pol.page j = {})
    (hi : i < 2 ^ 31) :
    Ends ((lrudisk_init_loop in_dram q left i).run s)
      (fun _ s' => Allocated s s' in_dram q left i)
      (fun e => e = .int_overflow ∧ 2 ^ 31 ≤ i + left) := by
  induction left generalizing i s with
  | zero =>
      exact Ends.ok ⟨rfl, rfl, rfl, rfl, rfl, hlinked, fun _ _ => rfl,
        fun k hk => absurd hk (Nat.not_lt_zero k), hfresh, hi⟩
  | succ left ih =>
      -- induction on the pages left: the struct `n` is new, and the loop goes on behind it
      let n := s.pol.npages
      let P₁ : Policy := { s.pol with
        npages := n + 1
        page := Function.update s.pol.page n
          { virtual_offset := i * PAGE_SIZE, in_dram := in_dram, swapped_out := !in_dram } }
      have hl₁ : P₁.WellLinked := by
        refine Ownership.Linked.congr hlinked fun j => ?_
        rcases eq_or_ne j n with rfl | hj
        · simp [P₁, hfresh n (le_refl n)]
        · simp [P₁, hj]
      have henq := run_enqueue_fifo (s := ⟨P₁, s.mem⟩) (q := q) (i := n) (by simp [P₁])
      have hself : (P₁.enq q n).page n = UserPage.initial in_dram q i := by
        simp [P₁, UserPage.initial]
      have hne : ∀ j, j ≠ n → (P₁.enq q n).page j = s.pol.page j := fun j hj => by
        simp [P₁, Policy.enq_page_ne, hj]
      rw [lrudisk_init_loop]
      refine Ends.bind (R := fun j s₁ => j = n ∧ s₁ = ⟨P₁, s.mem⟩) (Ends.ok ⟨rfl, rfl⟩) ?_
      rintro _ _ ⟨rfl, rfl⟩
      rw [run_bind_ok henq]
      refine Ends.check_bind (fun hi => ⟨rfl, by omega⟩) fun hnext => ?_
      refine (ih (i + 1) ⟨P₁.enq q n, s.mem⟩ (hl₁.enq (by simp [P₁])) (fun j hj => ?_)
        (by omega)).mono (fun _ s' a => ?_) fun _ he => ⟨he.1, by omega⟩
      · have hj' : n + 1 ≤ j := by simpa [P₁] using hj
        rw [hne j (by omega)]
        exact hfresh j (by omega)
      · have hn : s'.pol.npages = n + 1 + left := by simpa [P₁] using a.npages
        refine ⟨a.mem, a.dramsize.trans (by simp [P₁]), a.disksize.trans (by simp [P₁]),
          a.pages.trans (by simp [P₁]), by omega, a.linked, fun j hj => ?_, fun k hk => ?_, a.fresh,
          by have := a.counted; omega⟩
        · rw [a.old j (by simp [P₁]; omega), hne j (by omega)]
        · rcases k with _ | k
          · rw [a.old (s.pol.npages + 0) (by simp [P₁, n])]
            exact hself
          · have := a.new k (by omega)
            simp only [Policy.enq_npages, P₁] at this
            rw [show s.pol.npages + (k + 1) = n + 1 + k by omega, this]
            congr 1
            omega

/-- The policy that `lrudisk_init` sets up: the structs of the frames, then those of the
slots, each at the offset of its own page. -/
structure Initial (P : Policy) : Prop where
  linked : P.WellLinked
  npages : P.npages = P.dramsize / PAGE_SIZE + P.disksize / PAGE_SIZE
  frame : ∀ k, k < P.dramsize / PAGE_SIZE → P.page k = UserPage.initial true .dram_free_list k
  slot : ∀ k, k < P.disksize / PAGE_SIZE →
    P.page (P.dramsize / PAGE_SIZE + k) = UserPage.initial false .disk_free_list k
  fresh : ∀ j, P.npages ≤ j → P.page j = {}
  pages : P.pages = fun _ => none
  counted : P.dramsize / PAGE_SIZE < 2 ^ 31 ∧ P.disksize / PAGE_SIZE < 2 ^ 31

namespace Initial

variable {P : Policy}

/-- Every struct is the struct of a frame or of a slot. -/
theorem cases (h : Initial P) {i : PageId} (hi : i < P.npages) :
    (i < P.dramsize / PAGE_SIZE ∧ P.page i = UserPage.initial true .dram_free_list i) ∨
      ∃ k, k < P.disksize / PAGE_SIZE ∧ i = P.dramsize / PAGE_SIZE + k ∧
        P.page i = UserPage.initial false .disk_free_list k := by
  rw [h.npages] at hi
  by_cases hlt : i < P.dramsize / PAGE_SIZE
  · exact Or.inl ⟨hlt, h.frame i hlt⟩
  · obtain ⟨k, rfl⟩ := Nat.exists_eq_add_of_le (Nat.le_of_not_lt hlt)
    have hk := Nat.add_lt_add_iff_left.1 hi
    exact Or.inr ⟨k, hk, rfl, h.slot k hk⟩

theorem va (h : Initial P) (i : PageId) : (P.page i).va = 0 := by
  by_cases hi : i < P.npages
  · rcases h.cases hi with ⟨_, hp⟩ | ⟨k, _, _, hp⟩ <;> rw [hp] <;> rfl
  · rw [h.fresh i (Nat.le_of_not_lt hi)]

theorem place (h : Initial P) :
    Set.BijOn (fun i => (P.page i).place) { i | i < P.npages } (places P.dramsize P.disksize) := by
  refine ⟨fun i hi => ?_, fun i hi j hj hij => ?_, ?_⟩
  · rcases h.cases hi with ⟨hlt, hp⟩ | ⟨k, hk, _, hp⟩
    · exact ⟨i, by simp [hp, UserPage.place, UserPage.initial],
        by simpa [hp, UserPage.place, UserPage.initial] using hlt⟩
    · exact ⟨k, by simp [hp, UserPage.place, UserPage.initial],
        by simpa [hp, UserPage.place, UserPage.initial] using hk⟩
  · rcases h.cases hi with ⟨_, hp⟩ | ⟨k, _, rfl, hp⟩ <;>
      rcases h.cases hj with ⟨_, hp'⟩ | ⟨k', _, rfl, hp'⟩ <;>
      simp_all [UserPage.place, UserPage.initial]
  · rintro ⟨d, o⟩ ⟨k, rfl, hk⟩
    cases d
    · refine ⟨P.dramsize / PAGE_SIZE + k, ?_, ?_⟩
      · change _ < P.npages
        rw [h.npages]
        exact Nat.add_lt_add_left (by simpa using hk) _
      · simp only [UserPage.place, h.slot k (by simpa using hk), UserPage.initial]
    · refine ⟨k, ?_, ?_⟩
      · change k < P.npages
        rw [h.npages]
        exact Nat.lt_add_right _ (by simpa using hk)
      · simp only [UserPage.place, h.frame k (by simpa using hk), UserPage.initial]

/-- The initial state is at rest, and has no live pages. -/
theorem idle (h : Initial P) : Idle P := by
  refine idle_of ⟨h.linked, fun i hi => ?_, fun i hi => ?_, h.place, fun i j _ _ _ h0 => ?_⟩
    (fun a i => ?_) fun i hi => ?_
  · by_contra hge
    rw [h.fresh i (Nat.le_of_not_lt hge)] at hi
    exact hi rfl
  · rcases h.cases hi with ⟨_, hp⟩ | ⟨k, _, _, hp⟩ <;>
      constructor <;> simp [hp, UserPage.initial, UserPage.role, ListId.role]
  · exact absurd (h.va i) h0
  · rw [h.pages]
    refine ⟨fun hc => absurd hc.symm (Option.some_ne_none i), ?_⟩
    rintro ⟨_, ha, h0⟩
    exact absurd ((h.va i).symm.trans ha).symm h0
  · refine ⟨?_, fun h0 => absurd (h.va i) h0⟩
    rcases h.cases hi with ⟨_, hp⟩ | ⟨k, _, _, hp⟩ <;> simp [hp, UserPage.initial]

end Initial

/-- **Initialisation.** -/
theorem lrudisk_init_ends (dramsize disksize : ℕ) (zero : α) (env : Env α) :
    Ends (lrudisk_init.run (State.blank dramsize disksize zero env))
      (fun _ s => Initial s.pol ∧ s.pol.dramsize = dramsize ∧ s.pol.disksize = disksize ∧
        s.mem = (State.blank dramsize disksize zero env).mem)
      (fun e => e = .int_overflow ∧
        (2 ^ 31 ≤ dramsize / PAGE_SIZE ∨ 2 ^ 31 ≤ disksize / PAGE_SIZE)) := by
  have hlinked₀ : (State.blank dramsize disksize zero env).pol.WellLinked :=
    ⟨fun l i => by simp [State.blank], fun l => by simp [State.blank]⟩
  rw [lrudisk_init, run_bind_ok (run_get_pol _)]
  refine Ends.bind ((lrudisk_init_loop_ends true .dram_free_list _ 0 _ hlinked₀
    (fun _ _ => rfl) (by decide)).mono (fun _ _ a => a) fun _ he => ⟨he.1, Or.inl ?_⟩) ?_
  · have hover := he.2
    rw [Nat.zero_add] at hover
    exact hover
  intro _ s₁ a
  rw [run_bind_ok (run_get_pol _)]
  refine (lrudisk_init_loop_ends false .disk_free_list _ 0 s₁ a.linked a.fresh (by decide)).mono
    (fun _ s b => ?_) fun _ he => ⟨he.1, Or.inr ?_⟩
  swap
  · have hover := he.2
    rw [Nat.zero_add, a.disksize] at hover
    exact hover
  -- the second loop has left the structs of the first one as they were
  have hdram : s.pol.dramsize = dramsize := b.dramsize.trans a.dramsize
  have hdisk : s.pol.disksize = disksize := b.disksize.trans a.disksize
  have hnd : s₁.pol.npages = dramsize / PAGE_SIZE := by
    simpa [State.blank] using a.npages
  refine ⟨⟨b.linked, ?_, fun k hk => ?_, fun k hk => ?_, b.fresh, b.pages.trans a.pages, ?_⟩, hdram,
    hdisk, b.mem.trans a.mem⟩
  · rw [b.npages, hnd, a.disksize, hdram, hdisk]
    rfl
  · rw [hdram] at hk
    have hnew := a.new k hk
    simp only [State.blank, Nat.zero_add] at hnew
    rw [b.old k (by omega), hnew]
  · rw [hdisk] at hk
    have hnew := b.new k (by rw [a.disksize]; exact hk)
    rw [hnd, Nat.zero_add] at hnew
    rw [hdram]
    exact hnew
  · have hcount₁ := a.counted
    have hcount₂ := b.counted
    rw [Nat.zero_add] at hcount₁ hcount₂
    rw [hdram, hdisk]
    rw [a.disksize] at hcount₂
    exact ⟨hcount₁, hcount₂⟩

/-! ## Operations and runs -/

/-- The page a fault address belongs to. -/
def boundary (addr : ℕ) : ℕ := addr - addr % PAGE_SIZE

theorem boundary_aligned (addr : ℕ) : boundary addr % PAGE_SIZE = 0 := by
  simp only [boundary, PAGE_SIZE]
  omega

theorem boundary_ne_zero {addr : ℕ} (h : ¬ addr < PAGE_SIZE) : boundary addr ≠ 0 := by
  simp only [boundary, PAGE_SIZE] at *
  omega

/-- The operations of the scalar path with the synchronous swap-in. -/
def Op.Scalar : Op α → Prop
  | .fault _ async _ => async = false
  | .try_prefetch _ => False
  | _ => True

/-- The pages an operation is about. -/
def Op.targets : Op α → ℕ → Prop
  | .fault addr _ _, a => a = boundary addr
  | .try_prefetch base, a => Window base CORE_PREFETCH_RATE a
  | .munmap addr length, a => addr ≤ a ∧ a < addr + length
  | _, _ => False

/-- The contents without the buffer of the thread. -/
theorem DataOk.of_buffer {s : State α} (h : DataOk s) (b : α) :
    DataOk { s with mem := { s.mem with buffer_space := b } } :=
  ⟨h.io, h.resident, h.evicted⟩

/-- The handler on an address whose page is not in the index. -/
theorem run_uswap_sig_handler_new (fuel : ℕ) (swapin : PageId → Proc α Unit) {s : State α}
    {addr : ℕ} (hb : s.pol.pages (boundary addr) = none) :
    (uswap_sig_handler fuel swapin addr).run s =
      (handle_first_fault fuel (boundary addr)).run s := by
  rw [boundary] at hb ⊢
  rw [uswap_sig_handler, run_bind_ok (run_find_page _ _)]
  simp only [hb]

/-- The handler on an address whose page is in the index. -/
theorem run_uswap_sig_handler_tracked (fuel : ℕ) (swapin : PageId → Proc α Unit) {s : State α}
    {addr : ℕ} {p : PageId} (hb : s.pol.pages (boundary addr) = some p) :
    (uswap_sig_handler fuel swapin addr).run s =
      (if (s.pol.page p).swapped_out then major_fault swapin p else handle_wp_fault p).run s := by
  rw [boundary] at hb
  rw [uswap_sig_handler, run_bind_ok (run_find_page _ _)]
  simp only [hb]
  rw [run_bind_ok (run_get_page _ _)]

/-- A write-protect fault on a page at rest only looks at it. -/
theorem run_handle_wp_fault {s : State α} {p : PageId} (hmig : (s.pol.page p).migrating = false) :
    (handle_wp_fault p).run s = .ok ((), s) := by
  rw [handle_wp_fault, run_bind_ok (run_get_page _ _)]
  exact run_check_pos (by simp [hmig]) _ _

/-- **Faults.** -/
theorem uswap_sig_handler_ends (fuel : ℕ) (async : Bool) {s : State α} {addr : ℕ} (h : Idle s.pol)
    (haddr : ¬ addr < PAGE_SIZE) :
    Ends ((uswap_sig_handler fuel (page_swapin fuel async) addr).run s)
      (fun _ s' => Served s s' (async = false) fun a => a = boundary addr) (Short s.pol) := by
  rcases hb : s.pol.pages (boundary addr) with _ | p
  · rw [run_uswap_sig_handler_new fuel _ hb]
    refine (handle_first_fault_ends fuel h (boundary_ne_zero haddr) (boundary_aligned addr)).mono
      (fun _ s' hs => ?_) fun _ he => he
    exact ⟨hs.1.idle, hs.1.size, fun _ => hs.1.data trivial, fun a c _ => hs.1.away a c id⟩
  · obtain ⟨hp, hva, h0⟩ := h.live hb
    rw [run_uswap_sig_handler_tracked fuel _ hb]
    split
    case isTrue hsw =>
      refine (major_fault_ends fuel async h hp (by rw [hva]; exact h0) hsw).mono
        (fun _ s' hs => ?_) fun _ he => he
      exact ⟨hs.1.idle, hs.1.fixed.sameSize, hs.1.data,
        fun a c ha => hs.1.away a c (by rw [hva]; exact ha)⟩
    case isFalse =>
      have hmig := (h.quiet p hp (by simp)).2 (by rw [hva]; exact h0)
      exact Ends.of_eq (run_handle_wp_fault hmig)
        ⟨h, SameSize.refl _, fun _ hd => hd, fun _ _ _ hat => hat⟩

/-- A fault on an evicted page is a major fault. -/
theorem run_fault_evicted (fuel : ℕ) (async : Bool) (buffer : α) {s : State α} {addr : ℕ}
    {p : PageId} (h : Idle s.pol) (hp : s.pol.pages (boundary addr) = some p)
    (hsw : (s.pol.page p).swapped_out = true) :
    ((Op.fault addr async buffer).exec fuel).run s =
      (major_fault (page_swapin fuel async) p).run
        { s with mem := { s.mem with buffer_space := buffer } } := by
  have haddr : ¬ addr < PAGE_SIZE := fun hlt =>
    (h.live hp).2.2 (by simp [boundary, Nat.mod_eq_of_lt hlt])
  have hp' : (State.mk s.pol { s.mem with buffer_space := buffer }).pol.pages (boundary addr)
      = some p := hp
  rw [Op.exec, if_neg haddr, run_bind_ok (run_modify_mem _ _),
    run_uswap_sig_handler_tracked fuel _ hp', if_pos hsw]

/-- **One operation.** From a state at rest to a state at rest; no assertion fails but
those about resources; the evicted pages it is not about keep their bytes. -/
theorem Op.exec_ends (fuel : ℕ) (op : Op α) {s : State α} (h : Idle s.pol) :
    Ends ((op.exec fuel).run s) (fun _ s' => Served s s' op.Scalar op.targets)
      (Short s.pol) := by
  have hweak : ∀ {s' : State α}, Served s s' True (fun _ => False) →
      ∀ {K : Prop} {T : ℕ → Prop}, Served s s' K T := fun hs _ _ =>
    ⟨hs.idle, hs.size, fun _ => hs.data trivial, fun a c _ => hs.away a c id⟩
  have hskip : ∀ {K : Prop} {T : ℕ → Prop}, Served s s K T := fun {_ _} =>
    ⟨h, SameSize.refl _, fun _ hd => hd, fun _ _ _ hat => hat⟩
  have hscan : ∀ {m : Proc α Unit}, Ends (m.run s) (fun _ s' => Reclaimed s s') Calm →
      ∀ {K : Prop} {T : ℕ → Prop}, Ends (m.run s) (fun _ s' => Served s s' K T) (Short s.pol) :=
    fun hm _ _ => hm.mono (fun _ _ r => hweak (r.served h)) fun _ he => he.short _
  cases op with
  | fault addr async buffer =>
      rw [Op.exec]
      split
      · exact Ends.ok hskip
      case isFalse haddr =>
        rw [run_bind_ok (run_modify_mem _ _)]
        refine (uswap_sig_handler_ends fuel async (s := ⟨s.pol, { s.mem with buffer_space := buffer }⟩)
          h haddr).mono (fun _ s' hs => ?_) fun _ he => he
        exact ⟨hs.idle, hs.size, fun hk hd => hs.data hk (hd.of_buffer buffer),
          fun a c ha hat => hs.away a c ha hat⟩
  | populate addr =>
      rw [Op.exec]
      split
      · exact Ends.ok hskip
      case isFalse haddr =>
        exact (handle_first_fault_ends fuel h (boundary_ne_zero haddr) (boundary_aligned addr)).mono
          (fun _ _ hs => hweak hs.1) fun _ he => he
  | try_prefetch base =>
      rw [Op.exec]
      split
      · exact Ends.ok hskip
      case isFalse hbase =>
        exact Ends.bind (core_try_prefetch_ends fuel h hbase) fun _ _ hs => hs.1
  | evict => exact (lrudisk_evictionworker_ends h.inv).mono (fun _ _ r => hweak (r.served h)) fun _ he => he
  | kswapd nr_pages priority =>
      refine hscan ?_
      exact Ends.bind (direct_allocate_page_asynch_ends nr_pages priority s h.inv) fun _ _ r => r
  | shrink_active nr_pages =>
      refine hscan ?_
      exact Ends.bind (shrink_active_list_ends nr_pages s h.inv) fun _ _ r => r
  | shrink_inactive nr_pages =>
      refine hscan ?_
      exact Ends.bind (shrink_inactive_list_ends nr_pages s h.inv) fun _ _ r => r
  | munmap addr length =>
      exact (extmem_munmap_ends h addr length).mono (fun _ _ hs => hs.1) fun _ he => he.short _
  | app accesses =>
      have happ := Mem.accesses_appStep accesses s.mem
      refine Ends.of_eq (b := ()) (s := ⟨s.pol, accesses.foldl Mem.access s.mem⟩) rfl
        ⟨h, SameSize.refl _, fun _ hd => hd.app rfl (fun _ => ⟨rfl, rfl, rfl, rfl⟩) happ,
          fun a c _ hat => ?_⟩
      obtain ⟨q, hq, hr, hnone, hdis⟩ := hat
      exact ⟨q, hq, hr, (happ.entry a).1 hnone, (congrFun happ.rest.discarded a).trans hdis⟩

/-- **The run rule.** What every operation of a run keeps, the run keeps. -/
theorem Run.exec_sat {I : State α → Prop} (r : Run α)
    (h : ∀ x ∈ r, Sat I (x.2.exec x.1) (fun _ => I) Resource) :
    Sat I r.exec (fun _ => I) Resource := by
  refine Sat.runs _ fun m hm => ?_
  obtain ⟨x, hx, rfl⟩ := List.mem_map.1 hm
  exact h x hx

/-- A run that goes on. -/
theorem Reaches.snoc {dramsize disksize : ℕ} {zero : α} {env : Env α} {r : Run α} {s s' : State α}
    (h : Reaches dramsize disksize zero env r s) {x : ℕ × Op α}
    (hx : (x.2.exec x.1).run s = .ok ((), s')) :
    Reaches dramsize disksize zero env (r ++ [x]) s' := by
  obtain ⟨_, s₀, hinit, hrun⟩ := bind_eq_ok h
  have hlast : (Prog.runs [x.2.exec x.1] : Proc α Unit).run s = .ok ((), s') := by
    show (x.2.exec x.1 >>= fun _ => pure ()).run s = _
    rw [run_bind_ok hx]
    rfl
  show (lrudisk_init >>= fun _ => Run.exec (r ++ [x])).run _ = _
  rw [run_bind_ok hinit, Run.exec, List.map_append, runs_append]
  exact (run_bind_ok hrun).trans hlast

/-- Every state a run reaches is at rest, with the sizes it started with. -/
theorem Reaches.idle {dramsize disksize : ℕ} {zero : α} {env : Env α} {r : Run α} {s : State α}
    (h : Reaches dramsize disksize zero env r s) :
    Idle s.pol ∧ s.pol.dramsize = dramsize ∧ s.pol.disksize = disksize := by
  obtain ⟨_, s₀, hinit, hrun⟩ := bind_eq_ok h
  obtain ⟨h₀, hdram, hdisk, _⟩ := (lrudisk_init_ends dramsize disksize zero env).of_ok hinit
  refine (Run.exec_sat (I := fun s => Idle s.pol ∧ s.pol.dramsize = dramsize ∧
    s.pol.disksize = disksize) r ?_ s₀ ⟨h₀.idle, hdram, hdisk⟩).of_ok hrun
  rintro x _ s ⟨hidle, hs₁, hs₂⟩
  exact (Op.exec_ends x.1 x.2 hidle).mono
    (fun _ s' hs => ⟨hs.idle, hs.size.1.trans hs₁, hs.size.2.trans hs₂⟩) fun _ he => he.1

/-- A run of scalar operations keeps the contents right while storage does not fail. -/
theorem Reaches.data {dramsize disksize : ℕ} {zero : α} {env : Env α} {r : Run α} {s : State α}
    (h : Reaches dramsize disksize zero env r s) (hr : ∀ x ∈ r, x.2.Scalar)
    (hio : env.io_fails = []) : DataOk s := by
  obtain ⟨_, s₀, hinit, hrun⟩ := bind_eq_ok h
  obtain ⟨h₀, _, _, hmem⟩ := (lrudisk_init_ends dramsize disksize zero env).of_ok hinit
  have hdata₀ : DataOk s₀ := by
    refine ⟨by rw [hmem]; exact hio, fun i _ hr => ?_, fun i _ hr => ?_⟩
    · exact absurd (h₀.va i) (UserPage.role_resident.1 hr).2
    · exact absurd (h₀.va i) (UserPage.role_evicted.1 hr).2
  refine ((Run.exec_sat (I := fun s => Idle s.pol ∧ DataOk s) r ?_ s₀ ⟨h₀.idle, hdata₀⟩).of_ok
    hrun).2
  rintro x hx s ⟨hidle, hd⟩
  exact (Op.exec_ends x.1 x.2 hidle).mono (fun _ s' hs => ⟨hs.idle, hs.data (hr x hx) hd⟩)
    fun _ he => he.1

/-- A run stops at no assertion but those about resources, or at the counter of
`lrudisk_init` when there are too many pages for it. -/
theorem run_faults (dramsize disksize : ℕ) (zero : α) (env : Env α) (r : Run α) :
    Ends ((do lrudisk_init; r.exec : Proc α Unit).run (State.blank dramsize disksize zero env))
      (fun _ _ => True) (fun e => Resource e ∨ e = .int_overflow) := by
  refine Ends.bind ((lrudisk_init_ends dramsize disksize zero env).mono (fun _ _ hs => hs.1.idle)
    fun _ he => Or.inr he.1) fun _ s hs => ?_
  refine (Run.exec_sat (I := fun s : State α => Idle s.pol) r (fun x _ s hs => ?_) s hs).mono
    (fun _ _ _ => trivial) fun _ he => Or.inl he
  exact (Op.exec_ends x.1 x.2 hs).mono (fun _ _ hs' => hs'.idle) fun _ he => he.1

/-- A short run: the page at `4096` is mapped, written, found cold and evicted. -/
def writeThenEvict : Run ℕ :=
  [(1, .fault 4096 false 0), (1, .app [.write 4096 7]), (1, .shrink_inactive 1), (1, .evict)]

end SwapPrefetch
