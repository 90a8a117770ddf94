/-
The invariant of the policy: what every page struct is, and what it owns.

A struct of `src/policies/disklinux.c` plays one of five roles, which its fields
determine: a free frame, a free slot, a slot kept as the backing of a resident page,
a resident page, an evicted page. `Inv` says that

* the lists hold the structs of the right roles, and the `list` fields agree with them;
* the reserve links pair the backing slots with resident pages, both ways;
* the structs own the DRAM frames and the disk slots, each exactly once.

A routine moves few structs at a time, so preservation is proved once, in
`Inv.of_touched`: it is enough to look at the structs that changed, as long as they
are closed under reserve links. Everything else in the file is that lemma at the
moves the policy makes: linking, unlinking, eviction, swap-in, first use, removal.
-/
import Mathlib.Tactic
import SwapPrefetch.Ownership
import SwapPrefetch.Structs

set_option autoImplicit false

namespace SwapPrefetch

open Ownership

/-! ## Roles -/

/-- What a page struct stands for. -/
inductive Role where
  | frame
  | slot
  | backing
  | resident
  | evicted
deriving DecidableEq, Repr

/-- The role of a struct. -/
def UserPage.role (p : UserPage) : Role :=
  if p.in_dram then
    if p.va = 0 then .frame else .resident
  else if p.va ≠ 0 then .evicted
  else if p.has_reserve then .backing
  else .slot

/-- The role of the structs on a list. Nothing is ever put on `disk_written_list`. -/
def ListId.role : ListId → Option Role
  | .active_list => some .resident
  | .inactive_list => some .resident
  | .eviction_list => some .resident
  | .disk_active_list => some .evicted
  | .dram_free_list => some .frame
  | .disk_free_list => some .slot
  | .disk_reserve_list => some .backing
  | .disk_written_list => none

/-- The memory a struct owns: a DRAM offset or a disk offset. -/
def UserPage.place (p : UserPage) : Bool × ℕ := (p.in_dram, p.virtual_offset)

/-- The frames `0, 4096, ...` of DRAM and the slots `0, 4096, ...` of the disk. -/
def places (dramsize disksize : ℕ) : Set (Bool × ℕ) :=
  { x | ∃ k, x.2 = k * PAGE_SIZE ∧ k < (if x.1 then dramsize else disksize) / PAGE_SIZE }

namespace UserPage

variable {p : UserPage}

theorem role_frame : p.role = .frame ↔ p.in_dram = true ∧ p.va = 0 := by
  unfold role; grind

theorem role_resident : p.role = .resident ↔ p.in_dram = true ∧ p.va ≠ 0 := by
  unfold role; grind

theorem role_evicted : p.role = .evicted ↔ p.in_dram = false ∧ p.va ≠ 0 := by
  unfold role; grind

theorem role_backing :
    p.role = .backing ↔ p.in_dram = false ∧ p.va = 0 ∧ p.has_reserve = true := by
  unfold role; grind

theorem role_slot : p.role = .slot ↔ p.in_dram = false ∧ p.va = 0 ∧ p.has_reserve = false := by
  unfold role; grind

end UserPage

theorem ListId.role_backing {l : ListId} (h : l.role = some .backing) : l = .disk_reserve_list := by
  cases l <;> simp_all [ListId.role]

theorem ListId.role_evicted {l : ListId} (h : l.role = some .evicted) : l = .disk_active_list := by
  cases l <;> simp_all [ListId.role]

/-! ## The invariant -/

/-- The `list` fields and the lists agree. -/
def Policy.WellLinked (P : Policy) : Prop := Linked P.lists fun i => (P.page i).list

/-- One struct is as its role requires. -/
structure StructOk (P : Policy) (i : PageId) : Prop where
  on_list : ∀ l, (P.page i).list = some l → l.role = some (P.page i).role
  not_swapped : (P.page i).role = .resident → (P.page i).swapped_out = false
  swapped : (P.page i).in_dram = false → (P.page i).swapped_out = true
  present : (P.page i).present = false
  reserve_flag : (P.page i).has_reserve = (P.page i).reserve.isSome
  link : ∀ j, (P.page i).reserve = some j → j < P.npages ∧ (P.page j).reserve = some i ∧
    ((P.page i).role = .resident ∧ (P.page j).role = .backing ∨
      (P.page i).role = .backing ∧ (P.page j).role = .resident)
  backing_listed : (P.page i).role = .backing → (P.page i).list = some .disk_reserve_list
  aligned : (P.page i).va % PAGE_SIZE = 0

/-- The invariant of the policy. Structs on no list are in the hands of the routine
that is running. -/
structure Inv (P : Policy) : Prop where
  linked : P.WellLinked
  bounded : ∀ i, (P.page i).list ≠ none → i < P.npages
  struct : ∀ i, i < P.npages → StructOk P i
  place : Set.BijOn (fun i => (P.page i).place) { i | i < P.npages } (places P.dramsize P.disksize)
  va_inj : ∀ i j, i < P.npages → j < P.npages → (P.page i).va = (P.page j).va →
    (P.page i).va ≠ 0 → i = j

/-- What the reserve `r` of a page `p` is: a slot on `disk_reserve_list` that names the page. -/
structure ReserveOf (P : Policy) (p r : PageId) : Prop where
  lt : r < P.npages
  back : (P.page r).reserve = some p
  role : (P.page r).role = .backing
  listed : (P.page r).list = some .disk_reserve_list
  flag : (P.page p).has_reserve = true
  resident : (P.page p).role = .resident

namespace ReserveOf

variable {P : Policy} {p r : PageId}

theorem in_dram (h : ReserveOf P p r) : (P.page r).in_dram = false :=
  (UserPage.role_backing.1 h.role).1

theorem va (h : ReserveOf P p r) : (P.page r).va = 0 := (UserPage.role_backing.1 h.role).2.1

/-- A slot with another role is another slot. -/
theorem ne_of_role (h : ReserveOf P p r) {i : PageId} (hi : (P.page i).role ≠ .backing) : i ≠ r := by
  rintro rfl
  exact hi h.role

theorem ne (h : ReserveOf P p r) : p ≠ r := by
  apply h.ne_of_role
  rw [h.resident]
  decide

/-- A slot backs one page. -/
theorem unique (h : ReserveOf P p r) {i : PageId} (hi : ReserveOf P i r) : i = p :=
  Option.some.inj (hi.back.symm.trans h.back)

end ReserveOf

namespace Inv

variable {P : Policy}

theorem mem_iff (h : Inv P) (l : ListId) (i : PageId) :
    i ∈ P.lists l ↔ (P.page i).list = some l :=
  h.linked.mem_iff l i

theorem lt_of_list (h : Inv P) {i : PageId} {l : ListId} (hl : (P.page i).list = some l) :
    i < P.npages :=
  h.bounded i (by rw [hl]; exact Option.some_ne_none l)

theorem list_of_mem (h : Inv P) {i : PageId} {l : ListId} (hm : i ∈ P.lists l) :
    (P.page i).list = some l :=
  (h.mem_iff l i).1 hm

/-- The role of a struct is the role of the list it is on. -/
theorem role_of_list (h : Inv P) {i : PageId} {l : ListId} {r : Role}
    (hl : (P.page i).list = some l) (hr : l.role = some r) : (P.page i).role = r := by
  have hrole := (h.struct i (h.lt_of_list hl)).on_list l hl
  rw [hr] at hrole
  exact (Option.some.inj hrole).symm

/-- A struct with a reserve is a resident page or a backing slot. -/
theorem reserve_eq_none (h : Inv P) {i : PageId} (hi : i < P.npages)
    (h₁ : (P.page i).role ≠ .resident) (h₂ : (P.page i).role ≠ .backing) :
    (P.page i).reserve = none := by
  rcases hr : (P.page i).reserve with _ | j
  · rfl
  · rcases ((h.struct i hi).link j hr).2.2 with ⟨hres, _⟩ | ⟨hback, _⟩
    · exact absurd hres h₁
    · exact absurd hback h₂

/-- The reserve of a page with an address. -/
theorem reserveOf (h : Inv P) {p r : PageId} (hp : p < P.npages) (hva : (P.page p).va ≠ 0)
    (hr : (P.page p).reserve = some r) : ReserveOf P p r := by
  obtain ⟨hlt, hback, hroles⟩ := (h.struct p hp).link r hr
  have hnot : (P.page p).role ≠ .backing := fun hrole => hva (UserPage.role_backing.1 hrole).2.1
  obtain ⟨hres, hrole⟩ := hroles.resolve_right fun hc => hnot hc.1
  refine ⟨hlt, hback, hrole, (h.struct r hlt).backing_listed hrole, ?_, hres⟩
  rw [(h.struct p hp).reserve_flag, hr]
  rfl

/-- The reserve of a page in DRAM. -/
theorem reserveOf_resident (h : Inv P) {p r : PageId} (hp : p < P.npages)
    (hres : (P.page p).role = .resident) (hr : (P.page p).reserve = some r) : ReserveOf P p r :=
  h.reserveOf hp (UserPage.role_resident.1 hres).2 hr

theorem has_reserve_eq_false (h : Inv P) {i : PageId} (hi : i < P.npages)
    (hr : (P.page i).reserve = none) : (P.page i).has_reserve = false := by
  rw [(h.struct i hi).reserve_flag, hr]
  rfl

/-- The bounds that the migration routines assert. -/
theorem dram_bound (h : Inv P) {i : PageId} (hi : i < P.npages) (hd : (P.page i).in_dram = true) :
    (P.page i).virtual_offset + PAGE_SIZE ≤ P.dramsize := by
  obtain ⟨k, hk, hlt⟩ := h.place.mapsTo hi
  simp only [UserPage.place, hd, if_true] at hk hlt
  have := Nat.div_mul_le_self P.dramsize PAGE_SIZE
  have := Nat.mul_le_mul_right PAGE_SIZE hlt
  simp only [PAGE_SIZE] at *
  omega

theorem disk_bound (h : Inv P) {i : PageId} (hi : i < P.npages) (hd : (P.page i).in_dram = false) :
    (P.page i).virtual_offset + PAGE_SIZE ≤ P.disksize := by
  obtain ⟨k, hk, hlt⟩ := h.place.mapsTo hi
  simp only [UserPage.place, hd, Bool.false_eq_true, if_false] at hk hlt
  have := Nat.div_mul_le_self P.disksize PAGE_SIZE
  have := Nat.mul_le_mul_right PAGE_SIZE hlt
  simp only [PAGE_SIZE] at *
  omega

/-- No two structs own the same disk slot. -/
theorem disk_offset_inj (h : Inv P) {i j : PageId} (hi : i < P.npages) (hj : j < P.npages)
    (hdi : (P.page i).in_dram = false) (hdj : (P.page j).in_dram = false)
    (ho : (P.page i).virtual_offset = (P.page j).virtual_offset) : i = j :=
  h.place.injOn hi hj (by simp only [UserPage.place, hdi, hdj, ho])

end Inv

/-! ## Local changes -/

namespace Policy.WellLinked

variable {P : Policy}

theorem upd (h : P.WellLinked) {i : PageId} {f : UserPage → UserPage}
    (hf : (f (P.page i)).list = (P.page i).list) : (P.upd i f).WellLinked := by
  refine Linked.congr h fun j => ?_
  rcases eq_or_ne j i with rfl | hj
  · rw [Policy.upd_page_self, hf]
  · rw [Policy.upd_page_ne _ _ hj]

theorem enq (h : P.WellLinked) {q : ListId} {i : PageId} (hi : (P.page i).list = none) :
    (P.enq q i).WellLinked := by
  refine Linked.congr (Linked.link h hi) fun j => ?_
  rcases eq_or_ne j i with rfl | hj
  · rw [Policy.enq_page_self, Function.update_self]
  · rw [Policy.enq_page_ne _ _ hj, Function.update_of_ne hj]

theorem unlink (h : P.WellLinked) {q : ListId} {i : PageId} (hi : (P.page i).list = some q) :
    (P.unlink q i).WellLinked := by
  refine Linked.congr (Linked.unlink h hi) fun j => ?_
  rcases eq_or_ne j i with rfl | hj
  · rw [Policy.unlink_page_self, Function.update_self]
  · rw [Policy.unlink_page_ne _ _ hj, Function.update_of_ne hj]

theorem setIndex (h : P.WellLinked) {va : ℕ} {e : Option PageId} : (P.setIndex va e).WellLinked := h

theorem account (h : P.WellLinked) {a b : ℕ} : (P.account a b).WellLinked := h

end Policy.WellLinked

/-- A struct none of whose fields changed, and whose partner kept its link and its
role, is still as its role requires. -/
theorem StructOk.congr {P P' : Policy} {i : PageId} (h : StructOk P i) (hn : P'.npages = P.npages)
    (hi : P'.page i = P.page i)
    (hj : ∀ j, (P.page i).reserve = some j →
      (P'.page j).reserve = (P.page j).reserve ∧ (P'.page j).role = (P.page j).role) :
    StructOk P' i := by
  obtain ⟨h₁, h₂, h₃, h₄, h₅, h₆, h₇, h₈⟩ := h
  constructor <;> rw [hi]
  · exact h₁
  · exact h₂
  · exact h₃
  · exact h₄
  · exact h₅
  · intro j hr
    rw [hn, (hj j hr).1, (hj j hr).2]
    exact h₆ j hr
  · exact h₇
  · exact h₈

/-- **Preservation by locality.** Only the structs in `T` changed, and each of them
either has its reserve in `T` too or kept its link and its role. Then the invariant
only has to be shown for them. -/
theorem Inv.of_touched {P P' : Policy} (h : Inv P) (T : PageId → Prop)
    (hn : P'.npages = P.npages) (hd : P'.dramsize = P.dramsize) (hk : P'.disksize = P.disksize)
    (hlinked : P'.WellLinked) (hsame : ∀ i, ¬ T i → P'.page i = P.page i)
    (hlt : ∀ i, T i → i < P.npages)
    (hclosed : ∀ i, T i → (∀ j, (P.page i).reserve = some j → T j) ∨
      (P'.page i).reserve = (P.page i).reserve ∧ (P'.page i).role = (P.page i).role)
    (hok : ∀ i, T i → StructOk P' i)
    (hplace : Set.BijOn (fun i => (P'.page i).place) { i | i < P.npages }
      (places P.dramsize P.disksize))
    (hva : ∀ i j, i < P.npages → j < P.npages → (P'.page i).va = (P'.page j).va →
      (P'.page i).va ≠ 0 → i = j) : Inv P' := by
  constructor
  · exact hlinked
  · intro i hi
    rw [hn]
    by_cases hT : T i
    · exact hlt i hT
    · rw [hsame i hT] at hi
      exact h.bounded i hi
  · intro i hi
    rw [hn] at hi
    by_cases hT : T i
    · exact hok i hT
    · refine (h.struct i hi).congr hn (hsame i hT) fun j hr => ?_
      by_cases hTj : T j
      · rcases hclosed j hTj with hin | hkept
        · -- a link into `T` would come back out of it
          exact absurd (hin i ((h.struct i hi).link j hr).2.1) hT
        · exact hkept
      · rw [hsame j hTj]
        exact ⟨rfl, rfl⟩
  · rw [hn, hd, hk]
    exact hplace
  · rw [hn]
    exact hva

/-- Places and addresses that are read off unchanged fields. -/
theorem Inv.place_congr {P P' : Policy} (h : Inv P)
    (hp : ∀ i, (P'.page i).place = (P.page i).place) :
    Set.BijOn (fun i => (P'.page i).place) { i | i < P.npages } (places P.dramsize P.disksize) :=
  h.place.congr fun i _ => (hp i).symm

/-- Addresses stay distinct when each struct keeps its own or gives it up. -/
theorem Inv.va_inj_of {P P' : Policy} (h : Inv P)
    (hv : ∀ i, (P'.page i).va ≠ 0 → (P'.page i).va = (P.page i).va) (i j : PageId)
    (hi : i < P.npages) (hj : j < P.npages) (he : (P'.page i).va = (P'.page j).va)
    (h0 : (P'.page i).va ≠ 0) : i = j := by
  have h0j : (P'.page j).va ≠ 0 := he ▸ h0
  refine h.va_inj i j hi hj ?_ ?_
  · rw [← hv i h0, ← hv j h0j, he]
  · rw [← hv i h0]
    exact h0

/-! ## Moves that keep every role -/

/-- One struct changes its list, and its bookkeeping fields, only. -/
theorem Inv.of_one {P P' : Policy} (h : Inv P) {i : PageId} (hi : i < P.npages)
    (hn : P'.npages = P.npages) (hd : P'.dramsize = P.dramsize) (hk : P'.disksize = P.disksize)
    (hlinked : P'.WellLinked) (hsame : ∀ j, j ≠ i → P'.page j = P.page j)
    {l : Option ListId} {m : Bool} {n : ℕ}
    (hp : P'.page i = { P.page i with list := l, migrating := m, naccesses := n })
    (hl : ∀ q, l = some q → q.role = some (P.page i).role)
    (hb : (P.page i).role = .backing → l = some .disk_reserve_list) : Inv P' := by
  have hrole : ∀ j, (P'.page j).role = (P.page j).role := by
    intro j
    rcases eq_or_ne j i with rfl | hj
    · rw [hp]
      rfl
    · rw [hsame j hj]
  have hres : ∀ j, (P'.page j).reserve = (P.page j).reserve := by
    intro j
    rcases eq_or_ne j i with rfl | hj
    · rw [hp]
    · rw [hsame j hj]
  refine h.of_touched (fun j => j = i) hn hd hk hlinked hsame (fun j hj => hj ▸ hi)
    (fun j hj => Or.inr ⟨hres j, hrole j⟩) ?_ (h.place_congr fun j => ?_)
    (h.va_inj_of fun j _ => ?_)
  · rintro j rfl
    -- only the two clauses about the list are new
    obtain ⟨_, h₂, h₃, h₄, h₅, h₆, _, h₈⟩ := h.struct j hi
    constructor
    · rw [hrole, hp]
      exact hl
    · rw [hrole, hp]
      exact h₂
    · rw [hp]
      exact h₃
    · rw [hp]
      exact h₄
    · rw [hp]
      exact h₅
    · intro k hr
      rw [hres] at hr
      rw [hn, hres, hrole, hrole]
      exact h₆ k hr
    · rw [hrole, hp]
      exact hb
    · rw [hp]
      exact h₈
  · rcases eq_or_ne j i with rfl | hj
    · rw [hp]
      rfl
    · rw [hsame j hj]
  · rcases eq_or_ne j i with rfl | hj
    · rw [hp]
    · rw [hsame j hj]

/-- Taking a struct off its list. -/
theorem Inv.unlink {P : Policy} (h : Inv P) {q : ListId} {i : PageId}
    (hl : (P.page i).list = some q) (hr : (P.page i).role ≠ .backing) : Inv (P.unlink q i) :=
  h.of_one (h.lt_of_list hl) rfl rfl rfl (h.linked.unlink hl)
    (fun _ hj => P.unlink_page_ne q hj) (P.unlink_page_self i q) (fun _ hq => nomatch hq)
    (fun hb => absurd hb hr)

/-- Putting a struct on a list of its role. -/
theorem Inv.enq {P : Policy} (h : Inv P) {q : ListId} {i : PageId} (hi : i < P.npages)
    (hl : (P.page i).list = none) (hr : q.role = some (P.page i).role) : Inv (P.enq q i) := by
  refine h.of_one hi rfl rfl rfl (h.linked.enq hl) (fun _ hj => P.enq_page_ne q hj)
    (P.enq_page_self i q) ?_ ?_
  · intro q' hq
    rw [← Option.some.inj hq]
    exact hr
  · intro hb
    rw [hb] at hr
    rw [ListId.role_backing hr]

/-- Assigning to the bookkeeping fields. -/
theorem Inv.upd {P : Policy} (h : Inv P) {i : PageId} (hi : i < P.npages)
    {f : UserPage → UserPage} {m : Bool} {n : ℕ}
    (hf : f (P.page i) = { P.page i with migrating := m, naccesses := n }) : Inv (P.upd i f) := by
  have hlist : (f (P.page i)).list = (P.page i).list := by rw [hf]
  refine h.of_one (l := (P.page i).list) (m := m) (n := n) hi rfl rfl rfl (h.linked.upd hlist)
    (fun _ hj => P.upd_page_ne f hj) ?_ (h.struct i hi).on_list (h.struct i hi).backing_listed
  rw [P.upd_page_self, hf]

/-- The page index and the counters are not part of the invariant. -/
theorem Inv.setIndex {P : Policy} (h : Inv P) (va : ℕ) (e : Option PageId) : Inv (P.setIndex va e) :=
  ⟨h.linked.setIndex, h.bounded, fun i hi => (h.struct i hi).congr rfl rfl fun _ _ => ⟨rfl, rfl⟩,
    h.place, h.va_inj⟩

theorem Inv.account {P : Policy} (h : Inv P) (a b : ℕ) : Inv (P.account a b) :=
  ⟨h.linked.account, h.bounded, fun i hi => (h.struct i hi).congr rfl rfl fun _ _ => ⟨rfl, rfl⟩,
    h.place, h.va_inj⟩

/-! ## Moves that change roles

Each move is described by what it does to the structs it touches, so that the
different routines (and the different orders in which they assign) that perform the
same move share one preservation lemma. -/

/-- The parts of the policy's state that no paging routine assigns. -/
structure Fixed (P P' : Policy) : Prop where
  npages : P'.npages = P.npages
  dramsize : P'.dramsize = P.dramsize
  disksize : P'.disksize = P.disksize
  pages : P'.pages = P.pages

theorem Fixed.refl (P : Policy) : Fixed P P := ⟨rfl, rfl, rfl, rfl⟩

theorem Fixed.trans {P P' P'' : Policy} (h : Fixed P P') (h' : Fixed P' P'') : Fixed P P'' :=
  ⟨h'.1.trans h.1, h'.2.trans h.2, h'.3.trans h.3, h'.4.trans h.4⟩

/-- Eviction of `v` to the slot of `d`: they exchange places, `d` becomes a frame and
goes to the list `l`, or to the caller. -/
structure EvictTo (P P' : Policy) (v d : PageId) (l : Option ListId) : Prop where
  fixed : Fixed P P'
  linked : P'.WellLinked
  page_v : P'.page v =
    { P.page v with
      virtual_offset := (P.page d).virtual_offset, in_dram := false, swapped_out := true
      migrating := false, has_reserve := false, reserve := none, list := some .disk_active_list }
  page_d : P'.page d =
    { P.page d with
      virtual_offset := (P.page v).virtual_offset, in_dram := true, present := false
      has_reserve := false, reserve := none, list := l }
  page_ne : ∀ i, i ≠ v → i ≠ d → P'.page i = P.page i

/-- The slot an eviction may use: the reserve of the page, or a free one if it has none. -/
def EvictSlot (P : Policy) (v d : PageId) : Prop :=
  (P.page v).reserve = some d ∨ (P.page v).reserve = none ∧ (P.page d).role = .slot

theorem EvictSlot.disk {P : Policy} (h : Inv P) {v d : PageId} (hv : v < P.npages)
    (hd : d < P.npages) (hr : (P.page v).role = .resident) (hs : EvictSlot P v d) :
    (P.page d).in_dram = false ∧ (P.page d).va = 0 ∧
      ((P.page d).reserve = some v ∨ (P.page d).reserve = none) := by
  rcases hs with hres | ⟨_, hslot⟩
  · have hd := h.reserveOf_resident hv hr hres
    exact ⟨hd.in_dram, hd.va, Or.inl hd.back⟩
  · refine ⟨(UserPage.role_slot.1 hslot).1, (UserPage.role_slot.1 hslot).2.1, Or.inr ?_⟩
    exact h.reserve_eq_none hd (by rw [hslot]; decide) (by rw [hslot]; decide)

theorem EvictTo.inv {P P' : Policy} {v d : PageId} {l : Option ListId} (h : Inv P)
    (e : EvictTo P P' v d l) (hv : v < P.npages) (hd : d < P.npages)
    (hr : (P.page v).role = .resident) (hs : EvictSlot P v d)
    (hl : l = none ∨ l = some .dram_free_list) : Inv P' := by
  obtain ⟨hdin, hdva, hdres⟩ := hs.disk h hv hd hr
  obtain ⟨hvin, hvva⟩ := UserPage.role_resident.1 hr
  have hne : v ≠ d := fun heq => by rw [heq, hdva] at hvva; exact hvva rfl
  have hrv : (P'.page v).role = .evicted := UserPage.role_evicted.2 (by rw [e.page_v]; exact ⟨rfl, hvva⟩)
  have hrd : (P'.page d).role = .frame := UserPage.role_frame.2 (by rw [e.page_d]; exact ⟨rfl, hdva⟩)
  refine h.of_touched (fun i => i = v ∨ i = d) e.fixed.npages e.fixed.dramsize e.fixed.disksize
    e.linked (fun i hi => e.page_ne i (fun hi' => hi (Or.inl hi')) fun hi' => hi (Or.inr hi'))
    ?_ ?_ ?_ ?_ (h.va_inj_of ?_)
  · rintro i (rfl | rfl)
    · exact hv
    · exact hd
  · -- the reserve of `v` is `d` or nothing, and the other way round
    rintro i (rfl | rfl) <;> refine Or.inl fun j hj => ?_
    · rcases hs with hres | ⟨hres, _⟩
      · exact Or.inr (Option.some.inj (hj.symm.trans hres))
      · rw [hres] at hj
        cases hj
    · rcases hdres with hres | hres
      · exact Or.inl (Option.some.inj (hj.symm.trans hres))
      · rw [hres] at hj
        cases hj
  · rintro i (rfl | rfl)
    · obtain ⟨_, _, _, h₄, _, _, _, h₈⟩ := h.struct i hv
      constructor <;> try rw [hrv]
      all_goals simp_all [e.page_v, ListId.role]
    · obtain ⟨_, _, _, _, _, _, _, h₈⟩ := h.struct i hd
      constructor <;> try rw [hrd]
      all_goals rcases hl with rfl | rfl <;> simp_all [e.page_d, ListId.role]
  · refine bijOn_exchange h.place hv hd ?_ ?_ fun i hi hi' => by simp only [e.page_ne i hi hi']
    · simp only [UserPage.place, e.page_v, hdin]
    · simp only [UserPage.place, e.page_d, hvin]
  · intro i _
    by_cases hiv : i = v
    · rw [hiv, e.page_v]
    · by_cases hid : i = d
      · rw [hid, e.page_d]
      · rw [e.page_ne i hiv hid]

/-- Swap-in of `p` to the frame of `f`: they exchange places, and `f` stays behind as
the backing of `p`. -/
structure SwapinTo (P P' : Policy) (p f : PageId) : Prop where
  fixed : Fixed P P'
  linked : P'.WellLinked
  page_p : P'.page p =
    { P.page p with
      virtual_offset := (P.page f).virtual_offset, in_dram := true, swapped_out := false
      migrating := false, has_reserve := true, reserve := some f, list := some .inactive_list }
  page_f : P'.page f =
    { P.page f with
      virtual_offset := (P.page p).virtual_offset, in_dram := false, swapped_out := true
      migrating := false, has_reserve := true, reserve := some p
      list := some .disk_reserve_list }
  page_ne : ∀ i, i ≠ p → i ≠ f → P'.page i = P.page i

theorem SwapinTo.inv {P P' : Policy} {p f : PageId} (h : Inv P) (e : SwapinTo P P' p f)
    (hp : p < P.npages) (hf : f < P.npages) (hrp : (P.page p).role = .evicted)
    (hrf : (P.page f).role = .frame) : Inv P' := by
  obtain ⟨hpin, hpva⟩ := UserPage.role_evicted.1 hrp
  obtain ⟨hfin, hfva⟩ := UserPage.role_frame.1 hrf
  have hpres := h.reserve_eq_none hp (by rw [hrp]; decide) (by rw [hrp]; decide)
  have hfres := h.reserve_eq_none hf (by rw [hrf]; decide) (by rw [hrf]; decide)
  have hrp' : (P'.page p).role = .resident :=
    UserPage.role_resident.2 (by rw [e.page_p]; exact ⟨rfl, hpva⟩)
  have hrf' : (P'.page f).role = .backing :=
    UserPage.role_backing.2 (by rw [e.page_f]; exact ⟨rfl, hfva, rfl⟩)
  refine h.of_touched (fun i => i = p ∨ i = f) e.fixed.npages e.fixed.dramsize e.fixed.disksize
    e.linked (fun i hi => e.page_ne i (fun hi' => hi (Or.inl hi')) fun hi' => hi (Or.inr hi'))
    ?_ ?_ ?_ ?_ (h.va_inj_of ?_)
  · rintro i (rfl | rfl)
    · exact hp
    · exact hf
  · rintro i (rfl | rfl) <;> refine Or.inl fun j hj => ?_
    · rw [hpres] at hj
      cases hj
    · rw [hfres] at hj
      cases hj
  · rintro i (rfl | rfl)
    · obtain ⟨_, _, _, h₄, _, _, _, h₈⟩ := h.struct i hp
      have hn := e.fixed.npages
      constructor <;> try rw [hrp']
      all_goals simp_all [e.page_p, e.page_f, ListId.role]
    · obtain ⟨_, _, _, h₄, _, _, _, h₈⟩ := h.struct i hf
      have hn := e.fixed.npages
      constructor <;> try rw [hrf']
      all_goals simp_all [e.page_p, e.page_f, ListId.role]
  · refine bijOn_exchange h.place hp hf ?_ ?_ fun i hi hi' => by simp only [e.page_ne i hi hi']
    · simp only [UserPage.place, e.page_p, hfin]
    · simp only [UserPage.place, e.page_f, hpin]
  · intro i _
    by_cases hip : i = p
    · rw [hip, e.page_p]
    · by_cases hif : i = f
      · rw [hif, e.page_f]
      · rw [e.page_ne i hip hif]

/-- First use of the frame `f`, by the page at `va`. -/
structure FirstUse (P P' : Policy) (f : PageId) (va : ℕ) : Prop where
  npages : P'.npages = P.npages
  dramsize : P'.dramsize = P.dramsize
  disksize : P'.disksize = P.disksize
  linked : P'.WellLinked
  page_f : P'.page f =
    { P.page f with
      va := va, swapped_out := false, migrating := false, list := some .inactive_list }
  page_ne : ∀ i, i ≠ f → P'.page i = P.page i

theorem FirstUse.inv {P P' : Policy} {f : PageId} {va : ℕ} (h : Inv P) (e : FirstUse P P' f va)
    (hf : f < P.npages) (hrf : (P.page f).role = .frame) (hva : va ≠ 0)
    (hal : va % PAGE_SIZE = 0) (hfresh : ∀ i, i < P.npages → (P.page i).va ≠ va) : Inv P' := by
  obtain ⟨hfin, hfva⟩ := UserPage.role_frame.1 hrf
  have hfres := h.reserve_eq_none hf (by rw [hrf]; decide) (by rw [hrf]; decide)
  have hrf' : (P'.page f).role = .resident :=
    UserPage.role_resident.2 (by rw [e.page_f]; exact ⟨hfin, hva⟩)
  refine h.of_touched (fun i => i = f) e.npages e.dramsize e.disksize e.linked e.page_ne
    (fun i hi => hi ▸ hf) ?_ ?_ (h.place_congr fun i => ?_) ?_
  · rintro i rfl
    refine Or.inl fun j hj => ?_
    rw [hfres] at hj
    cases hj
  · rintro i rfl
    obtain ⟨_, _, _, h₄, h₅, _, _, _⟩ := h.struct i hf
    constructor <;> try rw [hrf']
    all_goals simp_all [e.page_f, ListId.role]
  · rcases eq_or_ne i f with rfl | hi
    · rw [e.page_f]
      rfl
    · rw [e.page_ne i hi]
  · -- the address is new, so it cannot meet an old one
    intro i j hi hj he h0
    rcases eq_or_ne i f with rfl | hif
    · rcases eq_or_ne j i with rfl | hji
      · rfl
      · rw [e.page_f, e.page_ne j hji] at he
        exact absurd he.symm (hfresh j hj)
    · rcases eq_or_ne j f with rfl | hjf
      · rw [e.page_f, e.page_ne i hif] at he
        exact absurd he (hfresh i hi)
      · rw [e.page_ne i hif] at he h0
        rw [e.page_ne j hjf] at he
        exact h.va_inj i j hi hj he h0

/-- Removal of the page `p`: its frame or slot becomes free, and so does its backing. -/
structure Freed (P P' : Policy) (p : PageId) : Prop where
  fixed : Fixed P P'
  linked : P'.WellLinked
  page_p : P'.page p =
    { P.page p with
      va := 0, present := false, migrating := false, has_reserve := false, reserve := none
      list := some (if (P.page p).in_dram then .dram_free_list else .disk_free_list) }
  page_r : ∀ r, (P.page p).reserve = some r → P'.page r =
    { P.page r with
      has_reserve := false, reserve := none, present := false, list := some .disk_free_list }
  page_ne : ∀ i, i ≠ p → (P.page p).reserve ≠ some i → P'.page i = P.page i

theorem Freed.inv {P P' : Policy} {p : PageId} (h : Inv P) (e : Freed P P' p) (hp : p < P.npages)
    (hrole : (P.page p).role = .resident ∨ (P.page p).role = .evicted) : Inv P' := by
  have hpva : (P.page p).va ≠ 0 := by
    rcases hrole with hr | hr
    · exact (UserPage.role_resident.1 hr).2
    · exact (UserPage.role_evicted.1 hr).2
  have hback : ∀ r, (P.page p).reserve = some r → ReserveOf P p r := fun r => h.reserveOf hp hpva
  -- two structs change: the page, and its reserve if it has one
  refine h.of_touched (fun i => i = p ∨ (P.page p).reserve = some i) e.fixed.npages
    e.fixed.dramsize e.fixed.disksize e.linked
    (fun i hi => e.page_ne i (fun hi' => hi (Or.inl hi')) fun hi' => hi (Or.inr hi'))
    ?_ ?_ ?_ (h.place_congr fun i => ?_) (h.va_inj_of fun i h0 => ?_)
  · rintro i (rfl | hi)
    · exact hp
    · exact (hback i hi).lt
  · rintro i (rfl | hi) <;> refine Or.inl fun j hj => ?_
    · exact Or.inr hj
    · exact Or.inl (Option.some.inj (hj.symm.trans (hback i hi).back))
  · rintro i (rfl | hi)
    · obtain ⟨_, _, h₃, _, _, _, _, _⟩ := h.struct i hp
      have hr' : (P'.page i).role = if (P.page i).in_dram then .frame else .slot := by
        rw [e.page_p]
        simp [UserPage.role]
      constructor <;> try rw [hr']
      all_goals rcases hd : (P.page i).in_dram <;> simp_all [e.page_p, ListId.role]
    · have hin := (hback i hi).in_dram
      have hva := (hback i hi).va
      obtain ⟨_, _, h₃, _, _, _, _, _⟩ := h.struct i (hback i hi).lt
      have hr' : (P'.page i).role = .slot :=
        UserPage.role_slot.2 (by rw [e.page_r i hi]; exact ⟨hin, hva, rfl⟩)
      constructor <;> try rw [hr']
      all_goals simp_all [e.page_r i hi, ListId.role]
  · rcases eq_or_ne i p with rfl | hi
    · rw [e.page_p]
      rfl
    · by_cases hr : (P.page p).reserve = some i
      · rw [e.page_r i hr]
        rfl
      · rw [e.page_ne i hi hr]
  · rcases eq_or_ne i p with rfl | hi
    · rw [e.page_p] at h0
      exact absurd rfl h0
    · by_cases hr : (P.page p).reserve = some i
      · rw [e.page_r i hr]
      · rw [e.page_ne i hi hr]

end SwapPrefetch
