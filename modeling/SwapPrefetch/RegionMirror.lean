/-
The translator's regions and the regions of the page store (`src/storage_rdma.c:126-193`,
`397-451`).

The store's table is a map from offsets to blocks (`lookup`): no two entries in use have the same
offset (`Keyed`), and every step of `rdma_write_page` changes one entry (`Keyed.entry`). A write of
a page registers its block with the translator. Nothing takes a region out of the translator again,
although two steps take one out of the table: a region of another size is given up for a new one,
and in a full table the oldest entry is recycled. The regions agree as long as neither happens to an
offset that is registered.
-/
import Mathlib.Tactic
import SwapPrefetch.PointerInverse
import SwapPrefetch.TwoAllocators

set_option autoImplicit false

namespace SwapPrefetch

namespace RdmaStore

variable {s s' : RdmaStore} {env : CallEnv} {off size : ℕ}

/-! ## The table as a map -/

/-- The size and the block of an offset. -/
def lookup (s : RdmaStore) (off : ℕ) : Option (ℕ × ℕ) :=
  (s.find_remote_region off).map fun i =>
    ((s.remote_regions i).size, (s.remote_regions i).remote_addr)

/-- No two entries in use have the same offset, and all lie below `num_remote_regions`. -/
structure Keyed (s : RdmaStore) : Prop where
  bound : s.num_remote_regions ≤ MAX_REMOTE_REGIONS
  index : ∀ i, (s.remote_regions i).in_use = true → i < s.num_remote_regions
  offsets : ∀ i j, (s.remote_regions i).in_use = true → (s.remote_regions j).in_use = true →
    (s.remote_regions i).virtual_offset = (s.remote_regions j).virtual_offset → i = j

theorem keyed_start : Keyed rdma_storage_init where
  bound := Nat.zero_le _
  index := fun _ hi => absurd hi Bool.false_ne_true
  offsets := fun _ _ hi => absurd hi Bool.false_ne_true

theorem Keyed.indexed (h : s.Keyed) : s.Indexed := h.index

theorem Keyed.find_eq_some (h : s.Keyed) {i : ℕ} :
    s.find_remote_region off = some i ↔ s.Serves i off :=
  h.indexed.find_unique fun i j hi hj => h.offsets i j hi.1 hj.1 (hi.2.trans hj.2.symm)

theorem Keyed.lookup_eq_some (h : s.Keyed) {x : ℕ × ℕ} :
    s.lookup off = some x ↔ ∃ i, (s.remote_regions i).in_use = true ∧
      (s.remote_regions i).virtual_offset = off ∧
      ((s.remote_regions i).size, (s.remote_regions i).remote_addr) = x := by
  rw [lookup, Option.map_eq_some_iff]
  constructor
  · rintro ⟨i, hi, hx⟩
    obtain ⟨hused, hoff⟩ := h.find_eq_some.1 hi
    exact ⟨i, hused, hoff, hx⟩
  · rintro ⟨i, hused, hoff, hx⟩
    exact ⟨i, h.find_eq_some.2 ⟨hused, hoff⟩, hx⟩

theorem lookup_eq_none : s.lookup off = none ↔ s.find_remote_region off = none :=
  Option.map_eq_none_iff

/-- The table is still keyed once an entry is set whose offset no other entry has. -/
theorem Keyed.set_entry (h : s.Keyed) {i : ℕ} {region : RemoteRegion}
    (hregions : s'.remote_regions = Function.update s.remote_regions i region)
    (hnum : s.num_remote_regions ≤ s'.num_remote_regions)
    (hbound : s'.num_remote_regions ≤ MAX_REMOTE_REGIONS)
    (hi : region.in_use = true → i < s'.num_remote_regions)
    (hoff : region.in_use = true → ∀ j, j ≠ i → (s.remote_regions j).in_use = true →
      (s.remote_regions j).virtual_offset ≠ region.virtual_offset) : s'.Keyed := by
  have hself : s'.remote_regions i = region := by rw [hregions, Function.update_self]
  have hother : ∀ j, j ≠ i → s'.remote_regions j = s.remote_regions j := by
    intro j hj
    rw [hregions, Function.update_of_ne hj]
  refine ⟨hbound, fun j hj => ?_, fun j k hj hk he => ?_⟩
  · by_cases hji : j = i
    · rw [hji, hself] at hj
      rw [hji]
      exact hi hj
    · rw [hother j hji] at hj
      exact lt_of_lt_of_le (h.index j hj) hnum
  · by_cases hji : j = i
    · by_cases hki : k = i
      · rw [hji, hki]
      · rw [hji, hself] at hj he
        rw [hother k hki] at hk he
        exact absurd he.symm (hoff hj k hki hk)
    · rw [hother j hji] at hj he
      by_cases hki : k = i
      · rw [hki, hself] at hk he
        exact absurd he (hoff hk j hji hj)
      · rw [hother k hki] at hk he
        exact h.offsets j k hj hk he

/-- What the offsets are mapped to, once the entry `i` of a keyed table is set. -/
theorem Keyed.lookup_set_entry (h : s.Keyed) (h' : s'.Keyed) {i : ℕ} {region : RemoteRegion}
    (hregions : s'.remote_regions = Function.update s.remote_regions i region) (o : ℕ) :
    s'.lookup o =
      if region.in_use = true ∧ region.virtual_offset = o then
        some (region.size, region.remote_addr)
      else if (s.remote_regions i).in_use = true ∧ (s.remote_regions i).virtual_offset = o then none
      else s.lookup o := by
  have hself : s'.remote_regions i = region := by rw [hregions, Function.update_self]
  have hother : ∀ j, j ≠ i → s'.remote_regions j = s.remote_regions j := by
    intro j hj
    rw [hregions, Function.update_of_ne hj]
  refine Option.ext fun x => ?_
  rw [h'.lookup_eq_some]
  split
  case isTrue hnew =>
    rw [Option.some.injEq]
    constructor
    · rintro ⟨j, hused, hjoff, hx⟩
      obtain rfl : i = j := h'.offsets i j (by rw [hself]; exact hnew.1) hused
        (by rw [hself, hjoff]; exact hnew.2)
      rw [hself] at hx
      exact hx
    · intro hx
      refine ⟨i, ?_⟩
      rw [hself]
      exact ⟨hnew.1, hnew.2, hx⟩
  case isFalse hnot =>
    have hne : ∀ {j}, (s'.remote_regions j).in_use = true →
        (s'.remote_regions j).virtual_offset = o → j ≠ i := by
      rintro j hused hjoff rfl
      rw [hself] at hused hjoff
      exact hnot ⟨hused, hjoff⟩
    split
    case isTrue hold =>
      -- the entry was the only one with its offset
      refine iff_of_false ?_ (Option.some_ne_none x).symm
      rintro ⟨j, hused, hjoff, -⟩
      have hji := hne hused hjoff
      rw [hother j hji] at hused hjoff
      exact hji (h.offsets j i hused hold.1 (hjoff.trans hold.2.symm))
    case isFalse hnone =>
      rw [h.lookup_eq_some]
      constructor
      · rintro ⟨j, hused, hjoff, hx⟩
        have hji := hne hused hjoff
        rw [hother j hji] at hused hjoff hx
        exact ⟨j, hused, hjoff, hx⟩
      · rintro ⟨j, hused, hjoff, hx⟩
        have hji : j ≠ i := by
          rintro rfl
          exact hnone ⟨hused, hjoff⟩
        rw [← hother j hji] at hused hjoff hx
        exact ⟨j, hused, hjoff, hx⟩

/-- **One entry changes.** The offset that it had loses its region, and the offset that it gets
has the new one. -/
theorem Keyed.entry (h : s.Keyed) {i : ℕ} {region : RemoteRegion}
    (hregions : s'.remote_regions = Function.update s.remote_regions i region)
    (hnum : s.num_remote_regions ≤ s'.num_remote_regions)
    (hbound : s'.num_remote_regions ≤ MAX_REMOTE_REGIONS)
    (hi : region.in_use = true → i < s'.num_remote_regions)
    (hoff : region.in_use = true → ∀ j, j ≠ i → (s.remote_regions j).in_use = true →
      (s.remote_regions j).virtual_offset ≠ region.virtual_offset) :
    s'.Keyed ∧ ∀ o, s'.lookup o =
      if region.in_use = true ∧ region.virtual_offset = o then
        some (region.size, region.remote_addr)
      else if (s.remote_regions i).in_use = true ∧ (s.remote_regions i).virtual_offset = o then none
      else s.lookup o := by
  have hkeyed := h.set_entry hregions hnum hbound hi hoff
  exact ⟨hkeyed, h.lookup_set_entry hkeyed hregions⟩

theorem SameTable.keyed (h : SameTable s s') (hk : s.Keyed) : s'.Keyed := by
  refine ⟨?_, ?_, ?_⟩
  · rw [h.num]
    exact hk.bound
  · rw [h.num, h.regions]
    exact hk.index
  · rw [h.regions]
    exact hk.offsets

theorem SameTable.lookup (h : SameTable s s') : s'.lookup off = s.lookup off := by
  unfold RdmaStore.lookup
  rw [h.find, h.regions]

theorem Keyed.touch (h : s.Keyed) (i now : ℕ) :
    (s.touch i now).Keyed ∧ ∀ o, (s.touch i now).lookup o = s.lookup o := by
  have hregions : (s.touch i now).remote_regions = Function.update s.remote_regions i
      { s.remote_regions i with last_access := now } := rfl
  obtain ⟨hkeyed, hlookup⟩ := h.entry hregions le_rfl h.bound (h.index i)
    fun hused j hj hjused he => hj (h.offsets j i hjused hused he)
  refine ⟨hkeyed, fun o => ?_⟩
  rw [hlookup o]
  split
  case isTrue hnew =>
    exact (h.lookup_eq_some.2 ⟨i, hnew.1, hnew.2, rfl⟩).symm
  case isFalse => rfl

/-! ## New regions -/

/-- **`allocate_remote_region`** fails and leaves the table alone, or fills the entry. -/
theorem allocate_table (env : CallEnv) (off size : ℕ) (s : RdmaStore) :
    ((s.allocate_remote_region env off size).1 = none ∧
        SameTable s (s.allocate_remote_region env off size).2) ∨
      ∃ i addr, (s.allocate_remote_region env off size).1 = some i ∧
        s.free_index.or s.oldest_index = some i ∧
        (s.allocate_remote_region env off size).2.remote_regions =
          Function.update s.remote_regions i (new_region env off size addr) ∧
        (s.allocate_remote_region env off size).2.num_remote_regions =
          max s.num_remote_regions (i + 1) ∧
        (s.allocate_remote_region env off size).2.translator = s.translator := by
  rcases s.allocate_cases env off size with hr | ⟨i, s₁, rdma, hclaim, hr | ⟨addr, hr⟩⟩
  · rw [hr]
    exact Or.inl ⟨rfl, rfl, rfl, rfl⟩
  · obtain ⟨-, hsame, -⟩ := claim_index_some hclaim
    rw [hr]
    exact Or.inl ⟨rfl, hsame.regions, hsame.num, hsame.translator⟩
  · obtain ⟨hindex, hsame, -⟩ := claim_index_some hclaim
    rw [hr]
    refine Or.inr ⟨i, addr, rfl, hindex, ?_, ?_, hsame.translator⟩
    · show Function.update s₁.remote_regions i _ = _
      rw [hsame.regions]
    · show max s₁.num_remote_regions (i + 1) = _
      rw [hsame.num]

/-- A new region for an offset that has none. -/
theorem Keyed.allocated (h : s.Keyed) {i addr : ℕ} (hnew : s.find_remote_region off = none)
    (hindex : s.free_index.or s.oldest_index = some i)
    (hregions : s'.remote_regions =
      Function.update s.remote_regions i (new_region env off size addr))
    (hnum : s'.num_remote_regions = max s.num_remote_regions (i + 1)) :
    s'.Keyed ∧ s'.lookup off = some (size, addr) ∧ ∀ o, o ≠ off → s'.lookup o =
      if s.free_index = none ∧ s.oldest_index = some i ∧ (s.remote_regions i).virtual_offset = o
      then none else s.lookup o := by
  have hlt := h.indexed.entry_lt h.bound hindex
  have hbound := h.bound
  have hother : ∀ j, j ≠ i → (s.remote_regions j).in_use = true →
      (s.remote_regions j).virtual_offset ≠ off := by
    intro j _ hused he
    rw [h.find_eq_some.2 ⟨hused, he⟩] at hnew
    cases hnew
  obtain ⟨hkeyed, hlookup⟩ := h.entry hregions (by omega) (by omega) (fun _ => by omega)
    fun _ => hother
  refine ⟨hkeyed, ?_, fun o ho => ?_⟩
  · rw [hlookup off, if_pos ⟨rfl, rfl⟩]
    rfl
  · rw [hlookup o, if_neg fun hoff => ho hoff.2.symm]
    -- the entry was in use exactly if it is the recycled one
    refine if_congr ?_ rfl rfl
    rcases Option.or_eq_some_iff.1 hindex with hfree | ⟨hfull, hold⟩
    · rw [(free_index_spec hfree).2.1, hfree]
      simp
    · rw [oldest_index_used hold, hfull, hold]
      simp

/-! ## Writes -/

/-- The offset whose region `rdma_write_page` recycles for a new one. -/
def recycled (env : CallEnv) (off size : ℕ) (s : RdmaStore) : Option ℕ :=
  if s.find_remote_region off = none ∧ s.free_index = none ∧
      (s.allocate_remote_region env off size).1 ≠ none then
    s.oldest_index.map fun i => (s.remote_regions i).virtual_offset
  else none

/-- The offset has a region of another size. -/
def Resizes (s : RdmaStore) (off size : ℕ) : Prop := ∃ x ∈ s.lookup off, x.1 ≠ size

instance (s : RdmaStore) (off size : ℕ) : Decidable (s.Resizes off size) :=
  inferInstanceAs (Decidable (∃ x ∈ s.lookup off, x.1 ≠ size))

theorem Keyed.given_up (h : s.Keyed) {i : ℕ} (hfind : s.find_remote_region off = some i) :
    (s.given_up i).Keyed ∧ (s.given_up i).find_remote_region off = none ∧
      (s.given_up i).free_index ≠ none ∧
      ∀ o, o ≠ off → (s.given_up i).lookup o = s.lookup o := by
  obtain ⟨hused, hoff⟩ := h.find_eq_some.1 hfind
  have hnum := s.given_up_num i
  obtain ⟨hkeyed, hlookup⟩ := h.entry (s.given_up_regions i) hnum.ge (hnum.trans_le h.bound)
    (fun hu => absurd hu Bool.false_ne_true) fun hu => absurd hu Bool.false_ne_true
  refine ⟨hkeyed, ?_, fun hfull => ?_, fun o ho => ?_⟩
  · rw [← lookup_eq_none, hlookup off, if_neg fun hu => absurd hu.1 Bool.false_ne_true,
      if_pos ⟨hused, hoff⟩]
  · obtain ⟨k, hfree, -⟩ := s.free_index_given_up (lt_of_lt_of_le (h.index i hused) h.bound)
    rw [hfree] at hfull
    cases hfull
  · rw [hlookup o, if_neg fun hu => absurd hu.1 Bool.false_ne_true,
      if_neg fun hu => ho (hu.2.symm.trans hoff)]

/-- The regions after `write_region`. -/
structure Chose (env : CallEnv) (off size : ℕ) (s : RdmaStore) (r : Option ℕ × RdmaStore) :
    Prop where
  keyed : r.2.Keyed
  translator : r.2.translator = s.translator
  chosen : ∀ i, r.1 = some i → r.2.lookup off = some (size, (r.2.remote_regions i).remote_addr)
  refused : r.1 = none → r.2.lookup off = none ∧ ∀ addr, s.lookup off ≠ some (size, addr)
  other : ∀ o, o ≠ off → r.2.lookup o = if s.recycled env off size = some o then none else s.lookup o

theorem recycled_eq_none (h : s.find_remote_region off ≠ none) : s.recycled env off size = none :=
  if_neg fun hr => h hr.1

/-- **The region of a write.** -/
theorem Keyed.write_region (h : s.Keyed) (env : CallEnv) (off size : ℕ) :
    Chose env off size s (s.write_region env off size) := by
  rcases hfind : s.find_remote_region off with _ | i
  · -- the offset has no region: one is allocated for it
    rcases s.allocate_table env off size with
      ⟨hnone, hsame⟩ | ⟨i, addr, hsome, hindex, hregions, hnum, ht⟩
    · have hrec : s.recycled env off size = none := if_neg fun hr => hr.2.2 hnone
      rw [write_region_new hfind]
      refine ⟨hsame.keyed h, hsame.translator, fun i hi => ?_, fun _ => ?_, fun o _ => ?_⟩
      · rw [hnone] at hi
        cases hi
      · have hnew : s.lookup off = none := lookup_eq_none.2 hfind
        refine ⟨hsame.lookup.trans hnew, fun addr ha => ?_⟩
        rw [hnew] at ha
        cases ha
      · rw [hsame.lookup, hrec, if_neg (Option.some_ne_none o).symm]
    · obtain ⟨hkeyed, hlookup, hother⟩ := h.allocated hfind hindex hregions hnum
      rw [write_region_new hfind]
      refine ⟨hkeyed, ht, fun j hj => ?_, fun hn => ?_, fun o ho => ?_⟩
      · rw [hsome] at hj
        rw [← Option.some.inj hj, hregions, Function.update_self]
        exact hlookup
      · rw [hsome] at hn
        cases hn
      · rw [hother o ho]
        refine if_congr ?_ rfl rfl
        -- only an entry that was recycled had an offset to lose
        rcases Option.or_eq_some_iff.1 hindex with hfree | ⟨hfull, hold⟩
        · have hrec : s.recycled env off size = none := if_neg fun hr => by
            rw [hfree] at hr
            exact Option.some_ne_none i hr.2.1
          rw [hrec, hfree]
          simp
        · have hrec : s.recycled env off size = some (s.remote_regions i).virtual_offset := by
            rw [recycled, if_pos ⟨hfind, hfull, by rw [hsome]; exact Option.some_ne_none i⟩, hold]
            rfl
          rw [hrec, hfull, hold]
          simp
  · -- the offset has a region, which is kept or given up
    have hrec : s.recycled env off size = none :=
      recycled_eq_none (by rw [hfind]; exact Option.some_ne_none i)
    by_cases hsize : (s.remote_regions i).size = size
    · rw [write_region_found hfind hsize]
      refine ⟨h, rfl, fun j hj => ?_, fun hn => ?_, fun o _ => ?_⟩
      · rw [← Option.some.inj hj, RdmaStore.lookup, hfind, Option.map_some, hsize]
      · cases hn
      · rw [hrec, if_neg (Option.some_ne_none o).symm]
    · -- the entry that was given up is free, so nothing is recycled
      rw [write_region_resized hfind hsize]
      obtain ⟨hkeyed₁, hfind₁, hroom, hother₁⟩ := h.given_up hfind
      have htranslator : (s.given_up i).translator = s.translator :=
        (s.library_free_sameTable _).translator
      rcases (s.given_up i).allocate_table env off size with
        ⟨hnone, hsame⟩ | ⟨k, addr, hsome, hindex, hregions, hnum, ht⟩
      · refine ⟨hsame.keyed hkeyed₁, hsame.translator.trans htranslator, fun j hj => ?_,
          fun _ => ?_, fun o ho => ?_⟩
        · rw [hnone] at hj
          cases hj
        · refine ⟨hsame.lookup.trans (lookup_eq_none.2 hfind₁), fun addr ha => hsize ?_⟩
          rw [RdmaStore.lookup, hfind] at ha
          exact (Prod.mk.inj (Option.some.inj ha)).1
        · rw [hsame.lookup, hother₁ o ho, hrec, if_neg (Option.some_ne_none o).symm]
      · obtain ⟨hkeyed, hlookup, hother⟩ := hkeyed₁.allocated hfind₁ hindex hregions hnum
        refine ⟨hkeyed, ht.trans htranslator, fun j hj => ?_, fun hn => ?_, fun o ho => ?_⟩
        · rw [hsome] at hj
          rw [← Option.some.inj hj, hregions, Function.update_self]
          exact hlookup
        · rw [hsome] at hn
          cases hn
        · rw [hother o ho, if_neg fun hfull => hroom hfull.1, hother₁ o ho, hrec,
            if_neg (Option.some_ne_none o).symm]

/-- The table and the translator after a write. -/
structure Wrote (env : CallEnv) (off size : ℕ) (s s' : RdmaStore) : Prop where
  keyed : s'.Keyed
  /-- the region of the offset, and what is registered for it -/
  region : (∃ addr, s'.lookup off = some (size, addr) ∧ s'.translator =
      if size = PAGE_SIZE then Translator.step (.register env.node off size addr) s.translator
      else s.translator) ∨
    (∀ addr, s.lookup off ≠ some (size, addr)) ∧ s'.lookup off = none ∧
      s'.translator = s.translator
  other : ∀ o, o ≠ off → s'.lookup o = if s.recycled env off size = some o then none else s.lookup o

/-- **Writes.** -/
theorem Keyed.write (h : s.Keyed) (env : CallEnv) (off : ℕ) (src : Bytes) (size : ℕ) :
    Wrote env off size s (s.rdma_write_page env off src size).2 := by
  have hr := h.write_region env off size
  unfold rdma_write_page
  rcases hw : s.write_region env off size with ⟨_ | i, s₁⟩
  · rw [hw] at hr
    exact ⟨hr.keyed, Or.inr ⟨(hr.refused rfl).2, (hr.refused rfl).1, hr.translator⟩, hr.other⟩
  · rw [hw] at hr
    obtain ⟨hkeyed, hlookup⟩ := hr.keyed.touch i env.now
    obtain ⟨written, hs⟩ := (s₁.touch i env.now).send_page_eq env off
      (s₁.remote_regions i).remote_addr src size
    show Wrote env off size s ((s₁.touch i env.now).send_page _ _ _ _ _).2
    -- the table after the write is that of the touched state
    rw [hs]
    refine ⟨⟨hkeyed.bound, hkeyed.index, hkeyed.offsets⟩,
      Or.inl ⟨(s₁.remote_regions i).remote_addr, ?_, ?_⟩, fun o ho => ?_⟩
    · exact (hlookup off).trans (hr.chosen i rfl)
    · rw [← hr.translator]
      rfl
    · exact (hlookup o).trans (hr.other o ho)

/-! ## Registered regions -/

/-- Every active region of the translator is a region of the table that is in use, with the same
size and the same block. -/
def Mirrors (s : RdmaStore) : Prop :=
  ∀ r ∈ s.translator.regions, r.active = true → ∃ i, i < MAX_REMOTE_REGIONS ∧
    (s.remote_regions i).in_use = true ∧ (s.remote_regions i).virtual_offset = r.local_base ∧
    (s.remote_regions i).size = r.size ∧ (s.remote_regions i).remote_addr = r.remote_base

/-- The offset is registered with the translator. -/
def Registered (s : RdmaStore) (off : ℕ) : Prop :=
  ∃ r ∈ s.translator.regions, r.local_base = off

/-- The write takes a registered offset's region: it gives up the region of the offset because of
its size, or recycles that of another offset. -/
def Orphans (env : CallEnv) (off size : ℕ) (s : RdmaStore) : Prop :=
  s.Resizes off size ∧ s.Registered off ∨ ∃ o, s.recycled env off size = some o ∧ s.Registered o

/-- What holds whether or not the regions agree. -/
structure Filing (s : RdmaStore) : Prop where
  keyed : s.Keyed
  filed : s.translator.Filed
  pages : ∀ r ∈ s.translator.regions, r.size = PAGE_SIZE

theorem filing_start : Filing rdma_storage_init :=
  ⟨keyed_start, Translator.filed_start, fun _ hr => absurd hr List.not_mem_nil⟩

theorem Filing.mirrors_iff (h : s.Filing) : s.Mirrors ↔
    ∀ r ∈ s.translator.regions, s.lookup r.local_base = some (PAGE_SIZE, r.remote_base) := by
  refine forall₂_congr fun r hr => ?_
  have hactive : r.active = true := by
    rw [h.filed.regions r hr]
    rfl
  rw [h.keyed.lookup_eq_some, ← h.pages r hr]
  constructor
  · intro hm
    obtain ⟨i, -, hused, hoff, hsize, haddr⟩ := hm hactive
    exact ⟨i, hused, hoff, by rw [hsize, haddr]⟩
  · rintro ⟨i, hused, hoff, hx⟩ -
    obtain ⟨hsize, haddr⟩ := Prod.mk.inj hx
    exact ⟨i, lt_of_lt_of_le (h.keyed.index i hused) h.keyed.bound, hused, hoff, hsize, haddr⟩

/-- The translator after a write. -/
theorem Filing.write (h : s.Filing) (hw : Wrote env off size s s') : s'.Filing := by
  rcases hw.region with ⟨addr, -, ht⟩ | ⟨-, -, ht⟩
  · by_cases hsize : size = PAGE_SIZE
    · rw [if_pos hsize] at ht
      refine ⟨hw.keyed, by rw [ht]; exact h.filed.step _, fun r hr => ?_⟩
      rw [ht] at hr
      rcases h.filed.of_mem_register hr with rfl | ⟨hr, -⟩
      · exact hsize
      · exact h.pages r hr
    · rw [if_neg hsize] at ht
      exact ⟨hw.keyed, ht ▸ h.filed, ht ▸ h.pages⟩
  · exact ⟨hw.keyed, ht ▸ h.filed, ht ▸ h.pages⟩

/-- **A write that orphans no region** keeps the regions in agreement. -/
theorem Filing.mirrors (h : s.Filing) (hm : s.Mirrors) (hw : Wrote env off size s s')
    (hno : ¬ s.Orphans env off size) : s'.Mirrors := by
  rw [(h.write hw).mirrors_iff]
  rw [h.mirrors_iff] at hm
  -- the registered regions of other offsets are where they were
  have hother : ∀ r ∈ s.translator.regions, r.local_base ≠ off →
      s'.lookup r.local_base = some (PAGE_SIZE, r.remote_base) := by
    intro r hr hne
    rw [hw.other _ hne, if_neg fun hrec => hno (Or.inr ⟨_, hrec, r, hr, rfl⟩)]
    exact hm r hr
  -- a registered offset keeps its region, because the size is that of a page
  have hself : ∀ r ∈ s.translator.regions, r.local_base = off → size = PAGE_SIZE := by
    intro r hr hbase
    by_contra hne
    have hl := hm r hr
    rw [hbase] at hl
    exact hno (Or.inl ⟨⟨_, hl, fun he => hne he.symm⟩, r, hr, hbase⟩)
  intro r hr
  rcases hw.region with ⟨addr, hl, ht⟩ | ⟨hnew, -, ht⟩
  · by_cases hsize : size = PAGE_SIZE
    · rw [ht, if_pos hsize] at hr
      rcases h.filed.of_mem_register hr with rfl | ⟨hr, hne⟩
      · rw [hsize] at hl
        exact hl
      · exact hother r hr hne
    · rw [ht, if_neg hsize] at hr
      exact hother r hr fun hbase => hsize (hself r hr hbase)
  · rw [ht] at hr
    refine hother r hr fun hbase => hnew r.remote_base ?_
    rw [← hbase, hself r hr hbase]
    exact hm r hr

/-- **A write that orphans a region** leaves it registered without one. -/
theorem Filing.not_mirrors (h : s.Filing) (hm : s.Mirrors) (hw : Wrote env off size s s')
    (hor : s.Orphans env off size) : ¬ s'.Mirrors := by
  rw [(h.write hw).mirrors_iff]
  rw [h.mirrors_iff] at hm
  intro hm'
  rcases hor with ⟨⟨x, hx, hne⟩, r, hr, hbase⟩ | ⟨o, hrec, r, hr, hbase⟩
  · -- the size is not that of a page, so nothing is registered over the region
    have hl := hm r hr
    rw [hbase, hx] at hl
    have hpage : size ≠ PAGE_SIZE := fun he => hne (by rw [Option.some.inj hl, he])
    rcases hw.region with ⟨addr, hl', ht⟩ | ⟨-, hl', ht⟩
    · rw [if_neg hpage] at ht
      have hafter := hm' r (by rw [ht]; exact hr)
      rw [hbase, hl'] at hafter
      exact hpage (Prod.mk.inj (Option.some.inj hafter)).1
    · have hafter := hm' r (by rw [ht]; exact hr)
      rw [hbase, hl'] at hafter
      cases hafter
  · -- the recycled offset is another one, and its region is gone
    have hoff : r.local_base ≠ off := by
      intro he
      have hl := hm r hr
      by_cases hfind : s.find_remote_region off = none
      · rw [he, lookup_eq_none.2 hfind] at hl
        cases hl
      · rw [recycled_eq_none hfind] at hrec
        cases hrec
    have hkept : r ∈ s'.translator.regions := by
      rcases hw.region with ⟨addr, -, ht⟩ | ⟨-, -, ht⟩
      · rw [ht]
        split
        · exact h.filed.mem_register hr hoff
        · exact hr
      · rw [ht]
        exact hr
    have hafter := hm' r hkept
    rw [hw.other _ hoff, hbase, if_pos hrec] at hafter
    cases hafter

/-! ## Runs -/

/-- The arguments of a call of `rdma_write_page`, and what the libraries answer in it. -/
structure Write where
  env : CallEnv
  virtual_offset : ℕ
  src : Bytes
  size : ℕ

/-- The state after the call. -/
def write (w : Write) (s : RdmaStore) : RdmaStore :=
  (s.rdma_write_page w.env w.virtual_offset w.src w.size).2

theorem Filing.step {s : RdmaStore} (h : s.Filing) (w : Write) :
    (RdmaStore.write w s).Filing :=
  h.write (h.keyed.write w.env w.virtual_offset w.src w.size)

theorem filing_run (run : List Write) : Filing (Guarded.exec write run rdma_storage_init) :=
  Guarded.exec_of_step (fun _ w h => h.step w) run filing_start

/-- **The registered regions agree with the table in every state of a run of writes exactly if no
write of the run takes the region of a registered offset.** -/
theorem mirrors_iff_none_orphaned (run : List Write) :
    (∀ n, Mirrors (Guarded.exec write (run.take n) rdma_storage_init)) ↔
      Guarded.Meets write (fun s w => ¬ s.Orphans w.env w.virtual_offset w.size) run
        rdma_storage_init := by
  refine Guarded.throughout_iff_meets (I := Filing) (fun _ w h => h.step w) (fun s w hs hm => ?_)
    filing_start fun r hr => absurd hr List.not_mem_nil
  have hw := hs.keyed.write w.env w.virtual_offset w.src w.size
  constructor
  · intro hm' hor
    exact hs.not_mirrors hm hw hor hm'
  · intro hno
    exact hs.mirrors hm hw hno

/-- A page is written at offset 4096, then 100 bytes at the same offset: the region of the page is
freed and its block given to the smaller one, but the page stays registered. -/
theorem not_mirrors_resizedOffset : ¬ ∀ n, Mirrors (Guarded.exec write
    (List.take n [⟨{}, 4096, fun _ => 0, PAGE_SIZE⟩, ⟨{}, 4096, fun _ => 0, 100⟩])
    rdma_storage_init) := by
  intro hall
  have hm := hall 2
  have hf := filing_run [⟨{}, 4096, fun _ => 0, PAGE_SIZE⟩, ⟨{}, 4096, fun _ => 0, 100⟩]
  rw [List.take_of_length_le (by decide), hf.mirrors_iff] at hm
  revert hm
  decide +kernel

end RdmaStore

end SwapPrefetch
