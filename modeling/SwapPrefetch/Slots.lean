/-
When a disk slot can be found.

The disk is divided among the evicted pages, the reserves of resident pages and the free slots.
The first two belong to different live pages, and a resident page without a reserve has neither.
So as long as the live pages are not more than the slots, such a page finds a free slot, and if
every free slot is listed, it finds one on `disk_free_list`.
-/
import Mathlib.Tactic
import SwapPrefetch.Invariant

set_option autoImplicit false

namespace SwapPrefetch

/-- The pages that are tracked: structs with an address. -/
def Policy.live (P : Policy) : Finset PageId :=
  (Finset.range P.npages).filter fun i => (P.page i).va ≠ 0

/-- The structs that own a slot of the disk. -/
def Policy.disk (P : Policy) : Finset PageId :=
  (Finset.range P.npages).filter fun i => (P.page i).in_dram = false

/-- Every free slot is listed, and the live pages fit on the disk. -/
structure Roomy (P : Policy) : Prop where
  listed : ∀ i, i < P.npages → (P.page i).role = .slot → (P.page i).list ≠ none
  fits : P.live.card ≤ P.disksize / PAGE_SIZE

/-- The page that a slot holds or backs. -/
def Policy.owner (P : Policy) (i : PageId) : PageId :=
  if (P.page i).va ≠ 0 then i else ((P.page i).reserve).getD i

theorem ListId.role_slot {l : ListId} (h : l.role = some .slot) : l = .disk_free_list := by
  cases l <;> simp_all [ListId.role]

namespace Inv

variable {P : Policy} {i j v : PageId}

theorem slots_le_disk (h : Inv P) : P.disksize / PAGE_SIZE ≤ P.disk.card := by
  have hsurj : Set.SurjOn (fun i => (P.page i).virtual_offset / PAGE_SIZE) P.disk
      (Finset.range (P.disksize / PAGE_SIZE)) := by
    intro k hk
    have hk : k < P.disksize / PAGE_SIZE := Finset.mem_range.1 hk
    obtain ⟨i, hi, hplace⟩ := h.place.surjOn
      (show (false, k * PAGE_SIZE) ∈ places P.dramsize P.disksize from ⟨k, rfl, by simpa using hk⟩)
    obtain ⟨hdram, hoff⟩ := Prod.mk.inj hplace
    refine ⟨i, Finset.mem_filter.2 ⟨Finset.mem_range.2 hi, hdram⟩, ?_⟩
    simp only [hoff]
    exact Nat.mul_div_cancel k (by decide)
  simpa using Finset.card_le_card_of_surjOn _ hsurj

/-- A slot that is not free holds a page or backs a resident one. -/
theorem owner_spec (h : Inv P) (hi : i < P.npages) (hdisk : (P.page i).in_dram = false)
    (hslot : (P.page i).role ≠ .slot) :
    (P.page i).va ≠ 0 ∧ P.owner i = i ∨
      (P.page i).va = 0 ∧ P.owner i < P.npages ∧ (P.page (P.owner i)).role = .resident ∧
        (P.page (P.owner i)).reserve = some i := by
  by_cases hva : (P.page i).va = 0
  · right
    have hflag : (P.page i).has_reserve = true := by
      by_contra hno
      exact hslot (UserPage.role_slot.2 ⟨hdisk, hva, Bool.eq_false_of_not_eq_true hno⟩)
    have hback : (P.page i).role = .backing := UserPage.role_backing.2 ⟨hdisk, hva, hflag⟩
    rw [(h.struct i hi).reserve_flag] at hflag
    obtain ⟨p, hp⟩ := Option.isSome_iff_exists.1 hflag
    have howner : P.owner i = p := by simp [Policy.owner, hva, hp]
    obtain ⟨hlt, hres, hroles⟩ := (h.struct i hi).link p hp
    rw [howner]
    refine ⟨hva, hlt, ?_, hres⟩
    rcases hroles with ⟨hr, -⟩ | ⟨-, hr⟩
    · rw [hback] at hr
      cases hr
    · exact hr
  · exact Or.inl ⟨hva, by simp [Policy.owner, hva]⟩

/-- **A page without a slot finds one.** -/
theorem free_slot_of_roomy (h : Inv P) (hroomy : Roomy P) (hv : v < P.npages)
    (hr : (P.page v).role = .resident) (hres : (P.page v).reserve = none) :
    P.lists .disk_free_list ≠ [] := by
  intro hempty
  have hnone : ∀ i ∈ P.disk, i < P.npages ∧ (P.page i).in_dram = false ∧
      (P.page i).role ≠ .slot := by
    intro i hi
    obtain ⟨hlt, hdisk⟩ := Finset.mem_filter.1 hi
    refine ⟨Finset.mem_range.1 hlt, hdisk, fun hslot => ?_⟩
    obtain ⟨l, hl⟩ := Option.ne_none_iff_exists'.1 (hroomy.listed i (Finset.mem_range.1 hlt) hslot)
    have hrole := (h.struct i (Finset.mem_range.1 hlt)).on_list l hl
    rw [hslot] at hrole
    rw [ListId.role_slot hrole] at hl
    have hmem := (h.mem_iff _ _).2 hl
    rw [hempty] at hmem
    cases hmem
  obtain ⟨hvdram, hvva⟩ := UserPage.role_resident.1 hr
  -- the slots belong to live pages other than `v`, each to its own
  have hmaps : ∀ i ∈ P.disk, P.owner i ∈ P.live.erase v := by
    intro i hi
    obtain ⟨hlt, hdisk, hslot⟩ := hnone i hi
    rcases h.owner_spec hlt hdisk hslot with ⟨hva, howner⟩ | ⟨-, holt, hor, hores⟩
    · rw [howner]
      refine Finset.mem_erase.2 ⟨?_, Finset.mem_filter.2 ⟨Finset.mem_range.2 hlt, hva⟩⟩
      rintro rfl
      rw [hvdram] at hdisk
      cases hdisk
    · refine Finset.mem_erase.2 ⟨?_, Finset.mem_filter.2
        ⟨Finset.mem_range.2 holt, (UserPage.role_resident.1 hor).2⟩⟩
      intro hov
      rw [hov, hres] at hores
      cases hores
  have hinj : Set.InjOn P.owner P.disk := by
    intro i hi j hj heq
    obtain ⟨hilt, hidisk, hislot⟩ := hnone i hi
    obtain ⟨hjlt, hjdisk, hjslot⟩ := hnone j hj
    rcases h.owner_spec hilt hidisk hislot with ⟨-, hio⟩ | ⟨-, -, hir, hires⟩ <;>
      rcases h.owner_spec hjlt hjdisk hjslot with ⟨-, hjo⟩ | ⟨-, -, hjr, hjres⟩
    · exact hio.symm.trans (heq.trans hjo)
    · rw [← heq, hio] at hjr
      rw [(UserPage.role_resident.1 hjr).1] at hidisk
      cases hidisk
    · rw [heq, hjo] at hir
      rw [(UserPage.role_resident.1 hir).1] at hjdisk
      cases hjdisk
    · rw [heq, hjres] at hires
      exact (Option.some.inj hires).symm
  have hcard := Finset.card_le_card_of_injOn P.owner hmaps hinj
  have hvlive : v ∈ P.live := Finset.mem_filter.2 ⟨Finset.mem_range.2 hv, hvva⟩
  rw [Finset.card_erase_of_mem hvlive] at hcard
  have hpos := Finset.card_pos.2 ⟨v, hvlive⟩
  have hslots := h.slots_le_disk
  have hfits := hroomy.fits
  omega

end Inv

/-! ## What keeps it -/

/-- Addresses and the structs on no list are as before. -/
theorem Roomy.of_kept {P P' : Policy} (h : Roomy P) (hn : P'.npages = P.npages)
    (hsize : P'.disksize = P.disksize) (hva : ∀ i, (P'.page i).va = (P.page i).va)
    (hkept : ∀ i, i < P.npages → (P'.page i).role = .slot → (P'.page i).list = none →
      (P.page i).role = .slot ∧ (P.page i).list = none) : Roomy P' := by
  refine ⟨fun i hi hslot hnone => ?_, ?_⟩
  · rw [hn] at hi
    obtain ⟨hslot, hnone⟩ := hkept i hi hslot hnone
    exact h.listed i hi hslot hnone
  · have hlive : P'.live = P.live := by
      simp only [Policy.live, hn, hva]
    rw [hlive, hsize]
    exact h.fits

/-- Marking a struct. -/
theorem Roomy.mark {P : Policy} (h : Roomy P) (v : PageId) :
    Roomy (P.upd v fun p => { p with migrating := true }) := by
  refine h.of_kept rfl rfl (fun i => ?_) fun i _ hslot hnone => ?_
  · by_cases hi : i = v
    · rw [hi, Policy.upd_page_self]
    · rw [Policy.upd_page_ne _ _ hi]
  · by_cases hi : i = v
    · rw [hi, Policy.upd_page_self] at hslot hnone
      exact hi ▸ ⟨hslot, hnone⟩
    · rw [Policy.upd_page_ne _ _ hi] at hslot hnone
      exact ⟨hslot, hnone⟩

/-- Taking a struct that is no slot off its list. -/
theorem Roomy.unlink {P : Policy} {v : PageId} {q : ListId} (h : Roomy P)
    (hv : (P.page v).role ≠ .slot) : Roomy (P.unlink q v) := by
  refine h.of_kept rfl rfl (fun i => ?_) fun i _ hslot hnone => ?_
  · by_cases hi : i = v
    · rw [hi, Policy.unlink_page_self]
    · rw [Policy.unlink_page_ne _ _ hi]
  · have hi : i ≠ v := by
      rintro rfl
      rw [Policy.unlink_page_self] at hslot
      exact hv hslot
    rw [Policy.unlink_page_ne _ _ hi] at hslot hnone
    exact ⟨hslot, hnone⟩

end SwapPrefetch
