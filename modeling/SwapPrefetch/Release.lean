/-
What `munmap` gives back (`src/core.c:601-665`, `disklinux.c:1181-1247`).

A page in the range is resident, with or without a backing slot, or evicted. Its struct becomes a
free frame or a free slot, the struct of its backing slot becomes a free slot, and no other struct
changes. One page of the loop does this for one address; what it freed is not touched by the later
ones, because no struct names it as its reserve any more.

The loop counter is compared with the end of the range. If that lies in the last page of the address
space, the counter wraps before it gets there and the loop does not end.
-/
import SwapPrefetch.Runs

set_option autoImplicit false

namespace SwapPrefetch

open Prog

variable {α : Type}

/-! ## Structs that are given back -/

/-- The struct is that of a page at one of the addresses `T`. -/
def Policy.LiveIn (P : Policy) (T : ℕ → Prop) (i : PageId) : Prop :=
  i < P.npages ∧ (P.page i).va ≠ 0 ∧ T (P.page i).va

/-- **The pages at the addresses `T` were given back, and nothing else.** -/
structure Released (P P' : Policy) (T : ℕ → Prop) : Prop where
  npages : P'.npages = P.npages
  page : ∀ i, P.LiveIn T i → P'.page i = (P.page i).released
  reserve : ∀ i r, P.LiveIn T i → (P.page i).reserve = some r → P'.page r = (P.page r).unbacked
  other : ∀ i, ¬ P.LiveIn T i → (∀ j, P.LiveIn T j → (P.page j).reserve ≠ some i) →
    P'.page i = P.page i
  /-- the two counters are 64-bit words -/
  mem_allocated : (P'.mem_allocated + PAGE_SIZE * { i | P.LiveIn T i }.ncard) % 2 ^ 64 =
    P.mem_allocated % 2 ^ 64
  pages_freed : P'.pages_freed % 2 ^ 64 =
    (P.pages_freed + { i | P.LiveIn T i }.ncard) % 2 ^ 64

section

variable {P P₁ P₂ : Policy} {T T₁ T₂ : ℕ → Prop} {i : PageId}

/-- No page is at these addresses. -/
theorem Released.of_empty (h : ∀ i, ¬ P.LiveIn T i) : Released P P T := by
  have hcard : { i | P.LiveIn T i }.ncard = 0 := by
    rw [Set.eq_empty_of_forall_notMem (s := { i | P.LiveIn T i }) h, Set.ncard_empty]
  refine ⟨rfl, fun i hi => absurd hi (h i), fun i _ hi => absurd hi (h i), fun _ _ _ => rfl, ?_, ?_⟩
  · rw [hcard, Nat.mul_zero, Nat.add_zero]
  · rw [hcard, Nat.add_zero]

/-- A struct that has an address afterwards did not change. -/
theorem Released.page_of_va (h : Inv P) (hr : Released P P₁ T) (hva : (P₁.page i).va ≠ 0) :
    ¬ P.LiveIn T i ∧ P₁.page i = P.page i := by
  have hlive : ¬ P.LiveIn T i := by
    intro hi
    rw [hr.page i hi] at hva
    exact hva rfl
  refine ⟨hlive, hr.other i hlive fun j hj hres => hva ?_⟩
  rw [hr.reserve j i hj hres]
  exact (h.reserveOf hj.1 hj.2.1 hres).va

/-- A page at another address does not change. -/
theorem Released.page_of_not (h : Inv P) (hr : Released P P₁ T) (hva : (P.page i).va ≠ 0)
    (hi : ¬ P.LiveIn T i) : P₁.page i = P.page i :=
  hr.other i hi fun _ hj hres => hva (h.reserveOf hj.1 hj.2.1 hres).va

/-- **One part of the range after the other.** -/
theorem Released.trans (h : Inv P) (h₁ : Inv P₁) (hr₁ : Released P P₁ T₁)
    (hr₂ : Released P₁ P₂ T₂) (hdisjoint : ∀ a, T₁ a → ¬ T₂ a) :
    Released P P₂ fun a => T₁ a ∨ T₂ a := by
  -- the pages of the second part are those that were there at first
  have hlive₂ : ∀ i, P₁.LiveIn T₂ i ↔ P.LiveIn T₂ i := by
    intro i
    constructor
    · rintro ⟨hi, hva, hT⟩
      have hsame := (hr₁.page_of_va h hva).2
      exact ⟨hr₁.npages ▸ hi, hsame ▸ hva, hsame ▸ hT⟩
    · rintro ⟨hi, hva, hT⟩
      have hsame := hr₁.page_of_not h hva fun hl => hdisjoint _ hl.2.2 hT
      exact ⟨hr₁.npages.symm ▸ hi, hsame.symm ▸ hva, hsame.symm ▸ hT⟩
  have hsame₂ : ∀ i, P.LiveIn T₂ i → P₁.page i = P.page i := fun i hi =>
    hr₁.page_of_not h hi.2.1 fun hl => hdisjoint _ hl.2.2 hi.2.2
  have hor : ∀ i, P.LiveIn (fun a => T₁ a ∨ T₂ a) i ↔ P.LiveIn T₁ i ∨ P.LiveIn T₂ i := by
    intro i
    unfold Policy.LiveIn
    tauto
  -- what the first part freed is not touched by the second
  have hfreed : ∀ i, (P₁.page i).va = 0 → (P₁.page i).reserve = none → P₂.page i = P₁.page i := by
    intro i hva hres
    refine hr₂.other i (fun hl => hl.2.1 hva) fun j hj hjr => ?_
    rw [(h₁.reserveOf hj.1 hj.2.1 hjr).back] at hres
    cases hres
  have hcard : { i | P.LiveIn (fun a => T₁ a ∨ T₂ a) i }.ncard =
      { i | P.LiveIn T₁ i }.ncard + { i | P₁.LiveIn T₂ i }.ncard := by
    have hfinite : ∀ T, { i | P.LiveIn T i }.Finite := fun T =>
      (Set.finite_Iio P.npages).subset fun i hi => hi.1
    simp only [hlive₂, hor]
    refine Set.ncard_union_eq ?_ (hfinite T₁) (hfinite T₂)
    exact Set.disjoint_left.2 fun i hi hi' => hdisjoint _ hi.2.2 hi'.2.2
  refine ⟨hr₂.npages.trans hr₁.npages, fun i hi => ?_, fun i r hi hres => ?_, fun i hi hother => ?_,
    ?_, ?_⟩
  · rcases (hor i).1 hi with hi | hi
    · have hpage := hr₁.page i hi
      rw [hfreed i (by rw [hpage]; rfl) (by rw [hpage]; rfl), hpage]
    · rw [hr₂.page i ((hlive₂ i).2 hi), hsame₂ i hi]
  · rcases (hor i).1 hi with hi | hi
    · have hpage := hr₁.reserve i r hi hres
      have hva := (h.reserveOf hi.1 hi.2.1 hres).va
      rw [hfreed r (by rw [hpage]; exact hva) (by rw [hpage]; rfl), hpage]
    · rw [hr₂.reserve i r ((hlive₂ i).2 hi) (by rw [hsame₂ i hi]; exact hres)]
      -- the slot backs only this page, so the first part has left it alone
      have hslot := h.reserveOf hi.1 hi.2.1 hres
      rw [hr₁.other r (fun hl => hl.2.1 hslot.va) fun j hj hjr => ?_]
      rw [hslot.unique (h.reserveOf hj.1 hj.2.1 hjr)] at hj
      exact hdisjoint _ hj.2.2 hi.2.2
  · rw [hor, not_or] at hi
    rw [← hr₁.other i hi.1 fun j hj => hother j ((hor j).2 (Or.inl hj))]
    refine hr₂.other i (fun hl => hi.2 ((hlive₂ i).1 hl)) fun j hj hjr => ?_
    have hj' := (hlive₂ j).1 hj
    rw [hsame₂ j hj'] at hjr
    exact hother j ((hor j).2 (Or.inr hj')) hjr
  · have hm₁ := hr₁.mem_allocated
    have hm₂ := hr₂.mem_allocated
    rw [hcard]
    simp only [PAGE_SIZE] at *
    omega
  · have hf₁ := hr₁.pages_freed
    have hf₂ := hr₂.pages_freed
    rw [hcard]
    omega

end

/-! ## The loop -/

/-- One page of the loop. -/
theorem run_munmap_page_releases {s s' : State α} (h : Idle s.pol) {b : ℕ}
    (hrun : (munmap_page b).run s = .ok ((), s')) : Released s.pol s'.pol fun a => a = b := by
  rcases hb : s.pol.pages b with _ | p
  · rw [run_munmap_page_none hb] at hrun
    cases hrun
    refine Released.of_empty fun i hi => ?_
    obtain ⟨hlt, hva, hT⟩ := hi
    rw [(h.index b i).2 ⟨hlt, hT, hT ▸ hva⟩] at hb
    cases hb
  · obtain ⟨P', hrun', e, hmem, hfreed⟩ := run_munmap_page_some h hb
    rw [hrun] at hrun'
    cases hrun'
    obtain ⟨hp, hva, hb0⟩ := h.live hb
    have hremoved := e.removed h hb
    have honly : ∀ i, s.pol.LiveIn (fun a => a = b) i ↔ i = p := by
      intro i
      constructor
      · rintro ⟨hi, h0, hT⟩
        exact h.inv.va_inj i p hi hp (hT.trans hva.symm) h0
      · rintro rfl
        exact ⟨hp, hva.symm ▸ hb0, hva⟩
    have hcard : { i | s.pol.LiveIn (fun a => a = b) i }.ncard = 1 := by
      simp only [honly, Set.ofPred_eq_eq_singleton, Set.ncard_singleton]
    refine ⟨?_, fun i hi => ?_, fun i r hi hres => ?_, fun i hi hother => ?_, ?_, ?_⟩
    · rw [Policy.account_npages, hremoved.npages]
    · rw [(honly i).1 hi, Policy.account_page, hremoved.page]
    · rw [(honly i).1 hi] at hres
      rw [Policy.account_page, hremoved.reserve r hres]
    · have hip : i ≠ p := fun heq => hi ((honly i).2 heq)
      rw [Policy.account_page, hremoved.other i hip (hother p ((honly p).2 rfl))]
    · rw [hcard]
      show ((P'.mem_allocated + (2 ^ 64 - PAGE_SIZE)) % 2 ^ 64 + PAGE_SIZE * 1) % 2 ^ 64 = _
      rw [hmem]
      simp only [PAGE_SIZE]
      omega
    · rw [hcard]
      show (P'.pages_freed + 1) % 2 ^ 64 % 2 ^ 64 = _
      rw [hfreed, Nat.mod_mod]

theorem run_munmap_loop_releases (left b : ℕ) (s : State α) (h : Idle s.pol) :
    ∃ s', (munmap_loop left b).run s = .ok ((), s') ∧ Released s.pol s'.pol (Pages b left) := by
  induction left generalizing b s with
  | zero =>
      refine ⟨s, rfl, Released.of_empty fun i hi => ?_⟩
      obtain ⟨k, hk, -⟩ := hi.2.2
      exact absurd hk (Nat.not_lt_zero k)
  | succ left ih =>
      obtain ⟨s₁, hrun₁, h₁⟩ := run_munmap_page h b
      obtain ⟨s₂, hrun₂, hr₂⟩ := ih (b + PAGE_SIZE) s₁ h₁.idle
      refine ⟨s₂, ?_, ?_⟩
      · rw [munmap_loop, run_bind_ok hrun₁]
        exact hrun₂
      · have hr := (run_munmap_page_releases h hrun₁).trans h.inv h₁.idle.inv hr₂ ?_
        · have hpages : (fun a => a = b ∨ Pages (b + PAGE_SIZE) left a) = Pages b (left + 1) := by
            funext a
            refine propext ⟨?_, ?_⟩
            · rintro (rfl | ⟨k, hk, rfl⟩)
              · exact ⟨0, by omega, by omega⟩
              · refine ⟨k + 1, by omega, ?_⟩
                simp only [PAGE_SIZE]
                omega
            · rintro ⟨k, hk, rfl⟩
              rcases k with _ | k
              · exact Or.inl (by omega)
              · refine Or.inr ⟨k, by omega, ?_⟩
                simp only [PAGE_SIZE]
                omega
          rw [hpages] at hr
          exact hr
        · rintro a rfl ⟨k, -, hk⟩
          simp only [PAGE_SIZE] at hk
          omega

/-! ## The range -/

/-- **`munmap` releases exactly its range.** -/
structure Releases (s s' : State α) (addr length : ℕ) : Prop where
  /-- no page of the range is in the index or on a list -/
  index : ∀ a, addr ≤ a → a < addr + length → s'.pol.pages a = none
  lists : ∀ q, ∀ i ∈ s'.pol.lists q,
    ¬ (addr ≤ (s'.pol.page i).va ∧ (s'.pol.page i).va < addr + length)
  /-- the frame or slot of a page of the range is free -/
  frame : ∀ i, s.pol.LiveIn (fun a => addr ≤ a ∧ a < addr + length) i →
    (s.pol.page i).in_dram = true → i ∈ s'.pol.lists .dram_free_list
  slot : ∀ i, s.pol.LiveIn (fun a => addr ≤ a ∧ a < addr + length) i →
    (s.pol.page i).in_dram = false → i ∈ s'.pol.lists .disk_free_list
  reserve : ∀ i r, s.pol.LiveIn (fun a => addr ≤ a ∧ a < addr + length) i →
    (s.pol.page i).reserve = some r → r ∈ s'.pol.lists .disk_free_list
  /-- with address zero, without a reserve and at the same place -/
  clear : ∀ i, s.pol.LiveIn (fun a => addr ≤ a ∧ a < addr + length) i →
    ∀ j, j = i ∨ (s.pol.page i).reserve = some j →
      (s'.pol.page j).va = 0 ∧ (s'.pol.page j).reserve = none ∧
        (s'.pol.page j).has_reserve = false ∧ (s'.pol.page j).in_dram = (s.pol.page j).in_dram ∧
        (s'.pol.page j).virtual_offset = (s.pol.page j).virtual_offset
  /-- every other struct is as it was, and so is the rest of the index -/
  outside : ∀ i, ¬ s.pol.LiveIn (fun a => addr ≤ a ∧ a < addr + length) i →
    (∀ j, s.pol.LiveIn (fun a => addr ≤ a ∧ a < addr + length) j →
      (s.pol.page j).reserve ≠ some i) → s'.pol.page i = s.pol.page i
  rest : ∀ a, ¬ (addr ≤ a ∧ a < addr + length) → s'.pol.pages a = s.pol.pages a
  /-- the counters are 64-bit words -/
  mem_allocated : (s'.pol.mem_allocated + PAGE_SIZE *
      { i | s.pol.LiveIn (fun a => addr ≤ a ∧ a < addr + length) i }.ncard) % 2 ^ 64 =
    s.pol.mem_allocated % 2 ^ 64
  pages_freed : s'.pol.pages_freed % 2 ^ 64 = (s.pol.pages_freed +
    { i | s.pol.LiveIn (fun a => addr ≤ a ∧ a < addr + length) i }.ncard) % 2 ^ 64

/-- The pages of an aligned range are those that the loop visits. -/
theorem Idle.liveIn_iff {P : Policy} (h : Idle P) {addr length left : ℕ}
    (haddr : addr % PAGE_SIZE = 0) (hleft : left = (length + (PAGE_SIZE - 1)) / PAGE_SIZE)
    (i : PageId) :
    P.LiveIn (fun a => addr ≤ a ∧ a < addr + length) i ↔ P.LiveIn (Pages addr left) i := by
  refine and_congr_right fun hi => and_congr_right fun _ => ?_
  have hal := (h.inv.struct i hi).aligned
  constructor
  · rintro ⟨hlo, hhi⟩
    refine ⟨((P.page i).va - addr) / PAGE_SIZE, ?_, ?_⟩ <;> simp only [PAGE_SIZE] at * <;> omega
  · rintro ⟨k, hk, hva⟩
    simp only [PAGE_SIZE] at *
    omega

/-- `munmap` when the end of the range is not in the last page. -/
theorem run_extmem_munmap {s : State α} (h : Idle s.pol) {addr length : ℕ}
    (haddr : addr % PAGE_SIZE = 0) (hlen : 0 < length) (hend : addr + length ≤ 2 ^ 64 - PAGE_SIZE) :
    ∃ s', (extmem_munmap addr length).run s = .ok ((), s') ∧ Idle s'.pol ∧
      Dropped s s' addr length ∧
      Released s.pol s'.pol (Pages addr ((length + (PAGE_SIZE - 1)) / PAGE_SIZE)) := by
  have hstop : (addr + length) % 2 ^ 64 = addr + length := by
    refine Nat.mod_eq_of_lt ?_
    simp only [PAGE_SIZE] at hend
    omega
  have hleft : (addr + length) % 2 ^ 64 - addr = length := by
    rw [hstop, Nat.add_sub_cancel_left]
  obtain ⟨s₁, hrun, hreleased⟩ := run_munmap_loop_releases
    ((length + (PAGE_SIZE - 1)) / PAGE_SIZE) addr s h
  have hmunmap : (extmem_munmap addr length).run s = .ok ((), { s₁ with mem :=
      { s₁.mem.app_turn with pte := fun va =>
        if addr ≤ va ∧ va < addr + length then none else s₁.mem.app_turn.pte va } }) := by
    rw [extmem_munmap, run_check_bind (by rw [hstop]; exact hend), hleft, run_bind_ok hrun,
      libc_munmap, run_bind_ok (run_app_turn _), run_check_bind ⟨haddr, hlen, by omega⟩]
    rfl
  obtain ⟨hserved, hdropped⟩ := (extmem_munmap_ends h addr length).of_ok hmunmap
  exact ⟨_, hmunmap, hserved.idle, hdropped, hreleased⟩

/-- The loop does not end when the end of the range is in the last page. -/
theorem run_extmem_munmap_wraps {s : State α} {addr length : ℕ} (hfit : addr + length < 2 ^ 64)
    (hend : ¬ addr + length ≤ 2 ^ 64 - PAGE_SIZE) :
    (extmem_munmap addr length).run s = .error .hang := by
  rw [extmem_munmap, Nat.mod_eq_of_lt hfit]
  exact run_bind_error (run_check_neg hend _ _)

/-- **`munmap` of an aligned range releases exactly the range unless its end lies in the last page of
the address space.** The kernel refuses an empty range. -/
theorem munmap_releases_iff {s : State α} (h : Idle s.pol) {addr length : ℕ}
    (haddr : addr % PAGE_SIZE = 0) (h0 : addr ≠ 0) (hlen : 0 < length)
    (hfit : addr + length < 2 ^ 64) :
    (∃ s', (extmem_munmap addr length).run s = .ok ((), s') ∧ Releases s s' addr length) ↔
      addr + length ≤ 2 ^ 64 - PAGE_SIZE := by
  constructor
  · rintro ⟨s', hrun, -⟩
    by_contra hend
    rw [run_extmem_munmap_wraps hfit hend] at hrun
    cases hrun
  · intro hend
    obtain ⟨s', hrun, hidle, hdropped, hr⟩ := run_extmem_munmap h haddr hlen hend
    have hlive : ∀ i, s.pol.LiveIn (fun a => addr ≤ a ∧ a < addr + length) i ↔
        s.pol.LiveIn (Pages addr ((length + (PAGE_SIZE - 1)) / PAGE_SIZE)) i :=
      h.liveIn_iff haddr rfl
    have hlinked := hidle.inv.linked
    refine ⟨s', hrun, hdropped.gone, fun q i hi hin => ?_, fun i hi hd => ?_, fun i hi hd => ?_,
      fun i r hi hres => ?_, fun i hi j hj => ?_, fun i hi hother => ?_, hdropped.rest, ?_, ?_⟩
    · -- a struct with an address in the range would be in the index
      have hlt := hidle.inv.lt_of_list (hidle.inv.list_of_mem hi)
      have hne : (s'.pol.page i).va ≠ 0 := by omega
      have hidx := (hidle.index _ i).2 ⟨hlt, rfl, hne⟩
      rw [hdropped.gone _ hin.1 hin.2] at hidx
      cases hidx
    · refine (hlinked.mem_iff _ _).2 ?_
      rw [hr.page i ((hlive i).1 hi), UserPage.released, hd]
      rfl
    · refine (hlinked.mem_iff _ _).2 ?_
      rw [hr.page i ((hlive i).1 hi), UserPage.released, hd]
      rfl
    · refine (hlinked.mem_iff _ _).2 ?_
      rw [hr.reserve i r ((hlive i).1 hi) hres]
      rfl
    · rcases hj with rfl | hres
      · rw [hr.page j ((hlive j).1 hi)]
        exact ⟨rfl, rfl, rfl, rfl, rfl⟩
      · rw [hr.reserve i j ((hlive i).1 hi) hres]
        exact ⟨(h.inv.reserveOf hi.1 hi.2.1 hres).va, rfl, rfl, rfl, rfl⟩
    · exact hr.other i (fun hl => hi ((hlive i).2 hl)) fun j hj => hother j ((hlive j).2 hj)
    · simp only [hlive]
      exact hr.mem_allocated
    · simp only [hlive]
      exact hr.pages_freed

theorem munmap_releases_iff_onePage :
    ∃ s, Reaches 4096 8192 (0 : ℕ) {} [(1, .fault 4096 false 0)] s ∧ Idle s.pol ∧
      ((∃ s', (extmem_munmap 4096 4096).run s = .ok ((), s') ∧ Releases s s' 4096 4096) ↔
        4096 + 4096 ≤ 2 ^ 64 - PAGE_SIZE) := by
  have heval : passes (fun _ => true) ((do lrudisk_init; Run.exec [(1, .fault 4096 false 0)] :
      Proc ℕ Unit).run (State.blank 4096 8192 0 {})) = true := by
    decide +kernel
  obtain ⟨⟨⟩, s, hs, -⟩ := of_passes heval
  have hreach : Reaches 4096 8192 (0 : ℕ) {} [(1, .fault 4096 false 0)] s := hs
  exact ⟨s, hreach, hreach.idle.1, munmap_releases_iff hreach.idle.1 (by decide) (by decide)
    (by decide) (by decide)⟩

/-- With no page at all, `munmap` of one byte of the last page does not end. -/
theorem not_releases_lastPage : ¬ ∀ s, Reaches 4096 8192 (0 : ℕ) {} [] s →
    ∃ s', (extmem_munmap (2 ^ 64 - 4096) 1).run s = .ok ((), s') ∧
      Releases s s' (2 ^ 64 - 4096) 1 := by
  intro hall
  have heval : passes (fun _ => true) ((do lrudisk_init; Run.exec [] : Proc ℕ Unit).run
      (State.blank 4096 8192 0 {})) = true := by
    decide +kernel
  obtain ⟨⟨⟩, s, hs, -⟩ := of_passes heval
  obtain ⟨s', hrun, -⟩ := hall s hs
  rw [run_extmem_munmap_wraps (by decide) (by decide)] at hrun
  cases hrun

end SwapPrefetch
