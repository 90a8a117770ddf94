/-
What every reachable state of the policy satisfies: frames and slots are conserved,
reserve links are a perfect matching, and the page index, the flags and the lists say
the same about every page.

All of it is read off `Idle`. Conservation is the bijection between structs and places;
it is why the offset assertions of the migration routines cannot fail. The matching is
what the eviction paths and `lrudisk_remove_page` assert link by link before they
follow a reserve. The agreement is what the handlers of `src/core.c` and the policy
assert of each other's fields.
-/
import Mathlib.Tactic
import SwapPrefetch.Runs

set_option autoImplicit false

namespace SwapPrefetch

open Prog

variable {α : Type}

/-! ## Frames and slots -/

/-- The structs that stand for memory of one kind, DRAM (`true`) or disk (`false`). -/
def structsOf (P : Policy) (in_dram : Bool) : Set PageId :=
  { i | i < P.npages ∧ (P.page i).in_dram = in_dram }

/-- The offsets `0, 4096, ...` of the whole pages of a memory of `size` bytes. -/
def offsetsOf (size : ℕ) : Set ℕ := { o | ∃ k, k < size / PAGE_SIZE ∧ o = k * PAGE_SIZE }

/-- The structs of each kind own the offsets of that kind, each exactly once. -/
theorem Inv.bijOn_offsets {P : Policy} (h : Inv P) (in_dram : Bool) :
    Set.BijOn (fun i => (P.page i).virtual_offset) (structsOf P in_dram)
      (offsetsOf (if in_dram then P.dramsize else P.disksize)) := by
  refine ⟨?_, ?_, ?_⟩
  · rintro i ⟨hi, hd⟩
    obtain ⟨k, hk, hlt⟩ := h.place.mapsTo hi
    simp only [UserPage.place, hd] at hk hlt
    exact ⟨k, hlt, hk⟩
  · rintro i ⟨hi, hdi⟩ j ⟨hj, hdj⟩ hij
    exact h.place.injOn hi hj (Prod.ext (hdi.trans hdj.symm) hij)
  · rintro o ⟨k, hk, rfl⟩
    obtain ⟨i, hi, hp⟩ := h.place.surjOn
      (show (in_dram, k * PAGE_SIZE) ∈ places P.dramsize P.disksize from ⟨k, rfl, hk⟩)
    obtain ⟨hd, ho⟩ := Prod.mk.inj hp
    exact ⟨i, ⟨hi, hd⟩, ho⟩

/-- **Conservation.** In every state a run reaches from `lrudisk_init`, the structs with
`in_dram` own the DRAM offsets and the others the disk offsets, each exactly once, and
every struct is on at most one list; and no run stops at a bound assertion. -/
theorem frames_and_slots_conserved (dramsize disksize : ℕ) (zero : α) (env : Env α) (r : Run α) :
    (∀ s, Reaches dramsize disksize zero env r s →
      Set.BijOn (fun i => (s.pol.page i).virtual_offset) (structsOf s.pol true)
          (offsetsOf dramsize) ∧
        Set.BijOn (fun i => (s.pol.page i).virtual_offset) (structsOf s.pol false)
          (offsetsOf disksize) ∧
        (∀ l, (s.pol.lists l).Nodup) ∧
        ∀ i l l', i ∈ s.pol.lists l → i ∈ s.pol.lists l' → l = l') ∧
      (do lrudisk_init; r.exec : Proc α Unit).run (State.blank dramsize disksize zero env)
        ≠ .error .dram_bound ∧
      (do lrudisk_init; r.exec : Proc α Unit).run (State.blank dramsize disksize zero env)
        ≠ .error .disk_bound := by
  refine ⟨fun s hs => ?_, fun he => ?_, fun he => ?_⟩
  · obtain ⟨hidle, hdram, hdisk⟩ := hs.idle
    have h₁ := hidle.inv.bijOn_offsets true
    have h₂ := hidle.inv.bijOn_offsets false
    simp only [if_true, hdram] at h₁
    simp only [Bool.false_eq_true, if_false, hdisk] at h₂
    exact ⟨h₁, h₂, hidle.inv.linked.nodup, fun i l l' hl hl' => hidle.inv.linked.unique hl hl'⟩
  · rcases (run_faults dramsize disksize zero env r).of_error he with hr | hr
    · exact hr
    · cases hr
  · rcases (run_faults dramsize disksize zero env r).of_error he with hr | hr
    · exact hr
    · cases hr

/-- `lrudisk_init` returns whenever its counters can count the pages. -/
theorem reaches_initial {dramsize disksize : ℕ} (zero : α) (env : Env α)
    (hdram : dramsize / PAGE_SIZE < 2 ^ 31) (hdisk : disksize / PAGE_SIZE < 2 ^ 31) :
    ∃ s, Reaches dramsize disksize zero env [] s := by
  have hends := lrudisk_init_ends dramsize disksize zero env
  rcases hrun : lrudisk_init.run (State.blank dramsize disksize zero env) with e | ⟨_, s⟩
  · rcases (hends.of_error hrun).2 with h | h
    · exact absurd h (Nat.not_le_of_lt hdram)
    · exact absurd h (Nat.not_le_of_lt hdisk)
  · exact ⟨s, run_bind_ok hrun⟩

/-! ## Reserve links -/

/-- `r` is a slot kept as the backing of `p`. -/
structure Backs (P : Policy) (r p : PageId) : Prop where
  lt : r < P.npages
  link : (P.page p).reserve = some r
  back : (P.page r).reserve = some p
  flag : (P.page r).has_reserve = true
  on_disk : (P.page r).in_dram = false
  unused : (P.page r).va = 0
  listed : r ∈ P.lists .disk_reserve_list

theorem Inv.backs_of_list {P : Policy} (h : Inv P) {r : PageId}
    (hr : r ∈ P.lists .disk_reserve_list) :
    ∃ p, p < P.npages ∧ (P.page p).role = .resident ∧ Backs P r p := by
  have hl := h.list_of_mem hr
  have hlt := h.lt_of_list hl
  obtain ⟨hin, hva, hflag⟩ := UserPage.role_backing.1 (h.role_of_list hl rfl)
  have hsome := (h.struct r hlt).reserve_flag
  rw [hflag] at hsome
  obtain ⟨p, hp⟩ := Option.isSome_iff_exists.1 hsome.symm
  obtain ⟨hplt, hback, ⟨hres, _⟩ | ⟨_, hres⟩⟩ := (h.struct r hlt).link p hp
  · rw [h.role_of_list hl rfl] at hres
    cases hres
  · exact ⟨p, hplt, hres, hlt, hback, hp, hflag, hin, hva, hr⟩

theorem Inv.backs_of_reserve {P : Policy} (h : Inv P) {p : PageId} (hp : p < P.npages)
    (hva : (P.page p).va ≠ 0) (hflag : (P.page p).has_reserve = true) : ∃ r, Backs P r p := by
  have hsome := (h.struct p hp).reserve_flag
  rw [hflag] at hsome
  obtain ⟨r, hr⟩ := Option.isSome_iff_exists.1 hsome.symm
  have hres := h.reserveOf hp hva hr
  obtain ⟨hin, hrva, hrflag⟩ := UserPage.role_backing.1 hres.role
  exact ⟨r, hres.lt, hr, hres.back, hrflag, hin, hrva, (h.mem_iff _ _).2 hres.listed⟩

/-- **Reserve links.** In every state a run reaches from `lrudisk_init`: a live page has a
reserve exactly when it is linked with a backing slot on `disk_reserve_list`; every struct
on that list backs exactly one page, which is in DRAM; an evicted page has none. So no
run stops at an assertion about a reserve. -/
theorem reserve_links_match (dramsize disksize : ℕ) (zero : α) (env : Env α) (r : Run α) :
    (∀ s, Reaches dramsize disksize zero env r s →
      (∀ p, p < s.pol.npages →
        ((s.pol.page p).has_reserve = true ∧ (s.pol.page p).va ≠ 0 ↔ ∃ b, Backs s.pol b p)) ∧
        (∀ b, b ∈ s.pol.lists .disk_reserve_list →
          ∃! p, p < s.pol.npages ∧ (s.pol.page p).in_dram = true ∧ Backs s.pol b p) ∧
        (∀ p, p ∈ s.pol.lists .disk_active_list →
          (s.pol.page p).has_reserve = false ∧ (s.pol.page p).reserve = none) ∧
        ∀ p, p < s.pol.npages → (s.pol.page p).va ≠ 0 → (s.pol.page p).in_dram = false →
          (s.pol.page p).reserve = none) ∧
      (do lrudisk_init; r.exec : Proc α Unit).run (State.blank dramsize disksize zero env)
        ≠ .error .reserve_link := by
  refine ⟨fun s hs => ?_, fun he => ?_⟩
  · have h := hs.idle.1.inv
    -- an evicted page is neither resident nor a backing slot
    have hnone : ∀ p, p < s.pol.npages → (s.pol.page p).role = .evicted →
        (s.pol.page p).reserve = none := fun p hp hr =>
      h.reserve_eq_none hp (by rw [hr]; decide) (by rw [hr]; decide)
    refine ⟨fun p hp => ⟨fun ⟨hflag, hva⟩ => h.backs_of_reserve hp hva hflag, ?_⟩, fun b hb => ?_,
      fun p hp => ?_, fun p hp hva hin => hnone p hp (UserPage.role_evicted.2 ⟨hin, hva⟩)⟩
    · rintro ⟨b, hb⟩
      obtain ⟨q, _, hres, hq⟩ := h.backs_of_list hb.listed
      have hpq : p = q := Option.some.inj (hb.back.symm.trans hq.back)
      rw [hpq]
      refine ⟨?_, (UserPage.role_resident.1 hres).2⟩
      rw [(h.struct q (hpq ▸ hp)).reserve_flag, hq.link]
      rfl
    · obtain ⟨p, hp, hres, hback⟩ := h.backs_of_list hb
      refine ⟨p, ⟨hp, (UserPage.role_resident.1 hres).1, hback⟩, fun q hq => ?_⟩
      exact Option.some.inj (hq.2.2.back.symm.trans hback.back)
    · have hl := h.list_of_mem hp
      have hlt := h.lt_of_list hl
      have hres := hnone p hlt (h.role_of_list hl rfl)
      exact ⟨h.has_reserve_eq_false hlt hres, hres⟩
  · rcases (run_faults dramsize disksize zero env r).of_error he with hr | hr
    · exact hr
    · cases hr

/-! ## Disk slots -/

/-- An operation in a state at rest lacks a disk slot only if the live pages do not fit. -/
theorem Op.exec_finds_slot (fuel : ℕ) (op : Op α) {s : State α} (h : Idle s.pol)
    (hfits : s.pol.live.card ≤ s.pol.disksize / PAGE_SIZE) :
    (op.exec fuel).run s ≠ .error .no_disk_page := by
  intro he
  exact ((op.exec_ends fuel h).of_error he).2 rfl ⟨fun _ hi hslot => h.listed hi hslot, hfits⟩

/-- **Disk slots.** In a run in which the live pages fit on the disk whenever an operation begins,
every eviction finds the slot it needs. -/
theorem disk_slots_suffice {dramsize disksize : ℕ} {zero : α} {env : Env α} {r : Run α}
    (h : ∀ n s, Reaches dramsize disksize zero env (r.take n) s →
      s.pol.live.card ≤ disksize / PAGE_SIZE) :
    (do lrudisk_init; r.exec : Proc α Unit).run (State.blank dramsize disksize zero env)
      ≠ .error .no_disk_page := by
  have hrest : ∀ (rest done : Run α) (s : State α), r = done ++ rest →
      Reaches dramsize disksize zero env done s → rest.exec.run s ≠ .error .no_disk_page := by
    intro rest
    induction rest with
    | nil => exact fun _ _ _ _ he => nomatch he
    | cons x rest ih =>
        intro done s hr hs
        obtain ⟨hidle, -, hsize⟩ := hs.idle
        have hfits := h done.length s (by rw [hr, List.take_left]; exact hs)
        show (x.2.exec x.1 >>= fun _ => Run.exec rest).run s ≠ _
        rcases hx : (x.2.exec x.1).run s with e | ⟨⟨⟩, s'⟩
        · rw [run_bind_error hx]
          intro he
          cases he
          exact Op.exec_finds_slot x.1 x.2 hidle (hsize ▸ hfits) hx
        · rw [run_bind_ok hx]
          exact ih (done ++ [x]) s' (by rw [hr, List.append_assoc]; rfl) (hs.snoc hx)
  have hinit := lrudisk_init_ends dramsize disksize zero env
  rcases hr : lrudisk_init.run (State.blank dramsize disksize zero env) with e | ⟨⟨⟩, s₀⟩
  · rw [run_bind_error hr]
    intro he
    cases he
    cases (hinit.of_error hr).1
  · rw [run_bind_ok hr]
    refine hrest r [] s₀ rfl ?_
    show (lrudisk_init >>= fun _ => Run.exec []).run _ = _
    rw [run_bind_ok hr]
    rfl

/-- Two pages share one frame: the second one evicts the first. -/
def twoPages : Run ℕ :=
  [(1, .fault 4096 false 0), (1, .shrink_inactive 1), (1, .fault 8192 false 0)]

theorem disk_slots_suffice_twoPages :
    (do lrudisk_init; twoPages.exec : Proc ℕ Unit).run (State.blank 4096 8192 0 {})
      ≠ .error .no_disk_page := by
  refine disk_slots_suffice fun n s hs => ?_
  have htest : ∀ n < 4, passes (fun s => decide (s.pol.live.card ≤ 8192 / PAGE_SIZE))
      ((do lrudisk_init; Run.exec (twoPages.take n) : Proc ℕ Unit).run
        (State.blank 4096 8192 0 {})) = true := by decide +kernel
  have htake : twoPages.take n = twoPages.take (min n 3) := by
    rw [← List.take_take, List.take_of_length_le (i := 3) (by decide)]
  rw [htake] at hs
  exact of_decide_eq_true (passes_ok (htest (min n 3) (by omega)) hs)

/-! ## The index, the flags and the lists -/

/-- The structs on the three lists of pages in DRAM. -/
def Policy.OnDram (P : Policy) (p : PageId) : Prop :=
  p ∈ P.lists .active_list ∨ p ∈ P.lists .inactive_list ∨ p ∈ P.lists .eviction_list

/-- The structs on the three lists of unused frames and slots. -/
def Policy.OnSpare (P : Policy) (p : PageId) : Prop :=
  p ∈ P.lists .dram_free_list ∨ p ∈ P.lists .disk_free_list ∨ p ∈ P.lists .disk_reserve_list

section Agreement

variable {P : Policy} {p : PageId}

theorem Inv.resident_of_onDram (h : Inv P) (hp : P.OnDram p) :
    p < P.npages ∧ (P.page p).role = .resident := by
  rcases hp with hp | hp | hp
  all_goals exact ⟨h.lt_of_list (h.list_of_mem hp), h.role_of_list (h.list_of_mem hp) rfl⟩

theorem Inv.evicted_of_mem (h : Inv P) (hp : p ∈ P.lists .disk_active_list) :
    p < P.npages ∧ (P.page p).role = .evicted :=
  ⟨h.lt_of_list (h.list_of_mem hp), h.role_of_list (h.list_of_mem hp) rfl⟩

theorem Inv.va_of_onSpare (h : Inv P) (hp : P.OnSpare p) : (P.page p).va = 0 := by
  rcases hp with hp | hp | hp
  · exact (UserPage.role_frame.1 (h.role_of_list (h.list_of_mem hp) rfl)).2
  · exact (UserPage.role_slot.1 (h.role_of_list (h.list_of_mem hp) rfl)).2.1
  · exact (UserPage.role_backing.1 (h.role_of_list (h.list_of_mem hp) rfl)).2.1

/-- Between operations every live page is on the list its flags say. -/
theorem Busy.live_iff (h : Idle P) (hp : p < P.npages) :
    (P.page p).va ≠ 0 ↔ P.OnDram p ∨ p ∈ P.lists .disk_active_list := by
  constructor
  · intro hva
    obtain ⟨l, hl⟩ := Option.ne_none_iff_exists'.1 (h.quiet p hp (by simp)).1
    have hmem : p ∈ P.lists l := (h.inv.mem_iff l p).2 hl
    -- the role of a live page leaves four lists
    have hrole := (h.inv.struct p hp).on_list l hl
    cases l with
    | active_list => exact Or.inl (Or.inl hmem)
    | inactive_list => exact Or.inl (Or.inr (Or.inl hmem))
    | eviction_list => exact Or.inl (Or.inr (Or.inr hmem))
    | disk_active_list => exact Or.inr hmem
    | disk_written_list => exact nomatch hrole
    | dram_free_list => exact absurd (h.inv.va_of_onSpare (Or.inl hmem)) hva
    | disk_free_list => exact absurd (h.inv.va_of_onSpare (Or.inr (Or.inl hmem))) hva
    | disk_reserve_list => exact absurd (h.inv.va_of_onSpare (Or.inr (Or.inr hmem))) hva
  · rintro (hd | hd)
    · exact (UserPage.role_resident.1 (h.inv.resident_of_onDram hd).2).2
    · exact (UserPage.role_evicted.1 (h.inv.evicted_of_mem hd).2).2

end Agreement

/-- **Agreement.** In every state a run reaches from `lrudisk_init`: `find_page` finds
exactly the page of an address, and there is at most one; the live pages are those on the
three lists of DRAM pages, in DRAM and not swapped out, and those on `disk_active_list`,
swapped out and not in DRAM; none of them is migrating; the structs on the other lists have
no address. So no run stops at an assertion about an address, the index or a list. -/
theorem index_flags_lists_agree (dramsize disksize : ℕ) (zero : α) (env : Env α) (r : Run α) :
    (∀ s, Reaches dramsize disksize zero env r s →
      (∀ va p, va ≠ 0 → ((find_page va).run s = .ok (some p, s) ↔
        p < s.pol.npages ∧ (s.pol.page p).va = va)) ∧
      (∀ p q, p < s.pol.npages → q < s.pol.npages → (s.pol.page p).va = (s.pol.page q).va →
        (s.pol.page p).va ≠ 0 → p = q) ∧
      (∀ p, p < s.pol.npages →
        ((s.pol.page p).va ≠ 0 ↔ s.pol.OnDram p ∨ p ∈ s.pol.lists .disk_active_list)) ∧
      (∀ p, s.pol.OnDram p → (s.pol.page p).in_dram = true ∧
        (s.pol.page p).swapped_out = false ∧ (s.pol.page p).migrating = false) ∧
      (∀ p, p ∈ s.pol.lists .disk_active_list → (s.pol.page p).in_dram = false ∧
        (s.pol.page p).swapped_out = true ∧ (s.pol.page p).migrating = false) ∧
      ∀ p, s.pol.OnSpare p → (s.pol.page p).va = 0) ∧
    ∀ e, e = .va_zero ∨ e = .add_page ∨ e = .list_disk_active ∨ e = .configuration →
      (do lrudisk_init; r.exec : Proc α Unit).run (State.blank dramsize disksize zero env)
        ≠ .error e := by
  refine ⟨fun s hs => ?_, fun e he herr => ?_⟩
  · obtain ⟨h, -, -⟩ := hs.idle
    have hquiet : ∀ p, p < s.pol.npages → (s.pol.page p).va ≠ 0 →
        (s.pol.page p).migrating = false := fun p hp => (h.quiet p hp (by simp)).2
    refine ⟨fun va p hva => ?_, h.inv.va_inj, fun p hp => h.live_iff hp, fun p hp => ?_,
      fun p hp => ?_, fun p hp => h.inv.va_of_onSpare hp⟩
    · rw [run_find_page, Except.ok.injEq, Prod.mk.injEq, and_iff_left rfl, h.index va p,
        and_iff_left hva]
    · obtain ⟨hlt, hrole⟩ := h.inv.resident_of_onDram hp
      obtain ⟨hin, hva⟩ := UserPage.role_resident.1 hrole
      exact ⟨hin, (h.inv.struct p hlt).not_swapped hrole, hquiet p hlt hva⟩
    · obtain ⟨hlt, hrole⟩ := h.inv.evicted_of_mem hp
      obtain ⟨hin, hva⟩ := UserPage.role_evicted.1 hrole
      exact ⟨hin, (h.inv.struct p hlt).swapped hin, hquiet p hlt hva⟩
  · rcases (run_faults dramsize disksize zero env r).of_error herr with hr | hr
    · rcases he with rfl | rfl | rfl | rfl <;> exact hr
    · rcases he with rfl | rfl | rfl | rfl <;> cases hr

end SwapPrefetch
