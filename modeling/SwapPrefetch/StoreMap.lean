/-
The page store as a map from swap offsets to pages.

The store is faithful if a read yields the page of the last write to its offset, and fails if
there was none. What a region of the table holds is always right (`MapInv.stored`): regions have
blocks of their own, and a new block is written before the call returns. But the table has 65536
entries and recycles one when all are in use, so the offset of that entry is lost. Hence the
store is faithful exactly as long as no more than 65536 different offsets were written.
-/
import Mathlib.Tactic
import SwapPrefetch.RdmaBlocks
import SwapPrefetch.RegionTable

set_option autoImplicit false

namespace SwapPrefetch

/-- The page that a write sends to the server. -/
def Written.stored (w : Written) : PageData :=
  converted (convert_pointers_for_remote_storage w.translator w.page w.virtual_offset)

namespace RdmaStore

variable {s s' : RdmaStore} {env : CallEnv} {off : ℕ}

/-! ## The table -/

/-- The block of a region. -/
def blockOf (s : RdmaStore) (i : ℕ) : MemBlock :=
  { addr := (s.remote_regions i).remote_addr, size := PAGE_SIZE, free := false }

/-- The entries in use come first. Each has an offset and a block of its own. -/
structure Table (s : RdmaStore) : Prop where
  quiesced : s.rdma.Quiesced
  blocks : Represents s.rdma.blocks
  library : s.sim_remote_memory_blocks = []
  bound : s.num_remote_regions ≤ MAX_REMOTE_REGIONS
  used : ∀ i, (s.remote_regions i).in_use = true ↔ i < s.num_remote_regions
  size : ∀ i, i < s.num_remote_regions → (s.remote_regions i).size = PAGE_SIZE
  offsets : ∀ i j, i < s.num_remote_regions → j < s.num_remote_regions →
    (s.remote_regions i).virtual_offset = (s.remote_regions j).virtual_offset → i = j
  block : ∀ i, i < s.num_remote_regions → s.blockOf i ∈ live s.rdma.blocks
  addrs : ∀ i j, i < s.num_remote_regions → j < s.num_remote_regions →
    (s.remote_regions i).remote_addr = (s.remote_regions j).remote_addr → i = j

/-- The store starts with an empty ring and a server that has allocated nothing. -/
theorem init_rdma : rdma_storage_init.rdma.Quiesced ∧
    rdma_storage_init.rdma.blocks = init_sim_remote_memory_allocator := by
  have hq := Rdma.quiesced_start
  have hc := hq.round_trip_ok true (hq.sent_plain .INIT 0 0 0 none)
    (Rdma.submit_plain .INIT 0 0 0 none hq.free (Or.inl rfl)) RdmaOp.noConfusion rfl
    fun hr => nomatch hr
  exact ⟨hc.quiesced, hc.blocks⟩

theorem table_start : Table rdma_storage_init := by
  refine ⟨init_rdma.1, ?_, rfl, Nat.zero_le _, fun i => ?_, ?_, ?_, ?_, ?_⟩
  · rw [init_rdma.2]
    exact represents_init
  · exact iff_of_false Bool.false_ne_true (Nat.not_lt_zero i)
  · exact fun i hi => absurd hi (Nat.not_lt_zero i)
  · exact fun i _ hi => absurd hi (Nat.not_lt_zero i)
  · exact fun i hi => absurd hi (Nat.not_lt_zero i)
  · exact fun i _ hi => absurd hi (Nat.not_lt_zero i)

theorem Table.indexed (h : s.Table) : s.Indexed := fun i hi => (h.used i).1 hi

/-- The scan for an offset. -/
theorem Table.find_remote_region (h : s.Table) {i : ℕ} :
    s.find_remote_region off = some i ↔
      i < s.num_remote_regions ∧ (s.remote_regions i).virtual_offset = off := by
  rw [h.indexed.find_unique]
  · unfold Serves
    rw [h.used i]
  · intro i j hi hj
    exact h.offsets i j (h.indexed i hi.1) (h.indexed j hj.1) (hi.2.trans hj.2.symm)

theorem Table.find_none (h : s.Table) (hfind : s.find_remote_region off = none) {i : ℕ}
    (hi : i < s.num_remote_regions) : (s.remote_regions i).virtual_offset ≠ off := by
  intro he
  exact h.indexed.find_eq_none.1 hfind i ⟨(h.used i).2 hi, he⟩

/-- A table that is not full has a free entry behind the others, and a full one has none. -/
theorem Table.free_index (h : s.Table) (hroom : s.num_remote_regions < MAX_REMOTE_REGIONS) :
    s.free_index = some s.num_remote_regions := by
  have hbehind : (s.remote_regions s.num_remote_regions).in_use ≠ true :=
    mt (h.used _).1 (lt_irrefl _)
  rcases hfree : s.free_index with _ | i
  · exact absurd (free_index_eq_none.1 hfree _ hroom) hbehind
  · obtain ⟨-, hunused, hfirst⟩ := free_index_spec hfree
    rcases lt_trichotomy i s.num_remote_regions with hlt | rfl | hlt
    · rw [(h.used i).2 hlt] at hunused
      cases hunused
    · rfl
    · exact absurd (hfirst _ hlt) hbehind

theorem Table.free_index_full (h : s.Table) (hfull : s.num_remote_regions = MAX_REMOTE_REGIONS) :
    s.free_index = none := by
  refine free_index_eq_none.2 fun i hi => (h.used i).2 ?_
  rw [hfull]
  exact hi

/-- A new region gets the entry behind the others, or, in a full table, the oldest one. -/
theorem Table.claim_index (h : s.Table) :
    (s.claim_index = none ∧ s.num_remote_regions = MAX_REMOTE_REGIONS ∧ s.oldest_index = none) ∨
      ∃ i freed, s.claim_index = some (i, { s with freed := freed }) ∧
        (i = s.num_remote_regions ∧ s.num_remote_regions < MAX_REMOTE_REGIONS ∨
          i < s.num_remote_regions ∧ s.num_remote_regions = MAX_REMOTE_REGIONS) := by
  rcases hclaim : s.claim_index with _ | ⟨i, s₁⟩
  · have hnone := claim_index_none hclaim
    rw [Option.or_eq_none_iff] at hnone
    refine Or.inl ⟨rfl, ?_, hnone.2⟩
    refine (lt_or_eq_of_le h.bound).resolve_left fun hroom => ?_
    rw [h.free_index hroom] at hnone
    cases hnone.1
  · obtain ⟨freed, rfl⟩ := claim_index_freed h.library hclaim
    refine Or.inr ⟨i, freed, rfl, ?_⟩
    rcases lt_or_eq_of_le h.bound with hroom | hfull
    · have hi := (claim_index_some hclaim).1
      rw [h.free_index hroom, Option.some_or] at hi
      exact Or.inl ⟨(Option.some.inj hi).symm, hroom⟩
    · have hi := (claim_index_some hclaim).1
      rw [h.free_index_full hfull, Option.none_or] at hi
      exact Or.inr ⟨h.indexed i (oldest_index_used hi), hfull⟩

/-! ## New regions -/

/-- Another state of the server, in which all allocated blocks still are. -/
theorem Table.of_rdma (h : s.Table) {rdma : Rdma} (hq : rdma.Quiesced)
    (hb : Represents rdma.blocks) (hlive : ∀ b ∈ live s.rdma.blocks, b ∈ live rdma.blocks)
    (freed : List LibraryFree) : Table { s with rdma := rdma, freed := freed } :=
  ⟨hq, hb, h.library, h.bound, h.used, h.size, h.offsets, fun i hi => hlive _ (h.block i hi),
    h.addrs⟩

theorem lt_place {i : ℕ} (hi : i ≤ s.num_remote_regions) (region : RemoteRegion) (j : ℕ) :
    j < (s.place i region).num_remote_regions ↔ j = i ∨ j ≠ i ∧ j < s.num_remote_regions := by
  show j < max s.num_remote_regions (i + 1) ↔ _
  omega

/-- A value that no region had before. -/
theorem place_inj {i : ℕ} {region : RemoteRegion} (hi : i ≤ s.num_remote_regions)
    (f : RemoteRegion → ℕ)
    (hold : ∀ j k, j < s.num_remote_regions → k < s.num_remote_regions →
      f (s.remote_regions j) = f (s.remote_regions k) → j = k)
    (hnew : ∀ j, j < s.num_remote_regions → f (s.remote_regions j) ≠ f region) :
    ∀ j k, j < (s.place i region).num_remote_regions →
      k < (s.place i region).num_remote_regions →
      f ((s.place i region).remote_regions j) = f ((s.place i region).remote_regions k) →
      j = k := by
  intro j k hj hk
  rcases (lt_place hi region j).1 hj with hji | ⟨hji, hj⟩ <;>
    rcases (lt_place hi region k).1 hk with hki | ⟨hki, hk⟩
  · exact fun _ => hji.trans hki.symm
  · rw [hji, place_self, place_ne s region hki]
    exact fun he => absurd he.symm (hnew k hk)
  · rw [hki, place_self, place_ne s region hji]
    exact fun he => absurd he (hnew j hj)
  · rw [place_ne s region hji, place_ne s region hki]
    exact hold j k hj hk

/-- **A new region** with a block of its own keeps the table in order. -/
theorem Table.place (h : s.Table) {i : ℕ} {region : RemoteRegion}
    (hi : i ≤ s.num_remote_regions) (hmax : i < MAX_REMOTE_REGIONS)
    (huse : region.in_use = true) (hsize : region.size = PAGE_SIZE)
    (hoff : ∀ j, j < s.num_remote_regions →
      (s.remote_regions j).virtual_offset ≠ region.virtual_offset)
    (haddr : ∀ j, j < s.num_remote_regions →
      (s.remote_regions j).remote_addr ≠ region.remote_addr)
    (hblock : { addr := region.remote_addr, size := PAGE_SIZE, free := false } ∈
      live s.rdma.blocks) : (s.place i region).Table := by
  have hbound := h.bound
  refine ⟨h.quiesced, h.blocks, h.library, ?_, fun j => ?_, fun j hj => ?_,
    place_inj hi RemoteRegion.virtual_offset h.offsets hoff, fun j hj => ?_,
    place_inj hi RemoteRegion.remote_addr h.addrs haddr⟩
  · show max s.num_remote_regions (i + 1) ≤ _
    omega
  · rw [lt_place hi]
    by_cases hji : j = i
    · rw [hji, place_self]
      exact iff_of_true huse (Or.inl rfl)
    · rw [place_ne s region hji, h.used j]
      exact ⟨fun hj => Or.inr ⟨hji, hj⟩, fun hj => (hj.resolve_left hji).2⟩
  · rcases (lt_place hi region j).1 hj with rfl | ⟨hji, hj⟩
    · rw [place_self]
      exact hsize
    · rw [place_ne s region hji]
      exact h.size j hj
  · unfold blockOf
    rcases (lt_place hi region j).1 hj with rfl | ⟨hji, hj⟩
    · rw [place_self]
      exact hblock
    · rw [place_ne s region hji]
      exact h.block j hj

/-- The table and what the store holds stay. -/
structure Untouched (s s' : RdmaStore) : Prop where
  table : s'.Table
  regions : s'.remote_regions = s.remote_regions
  num : s'.num_remote_regions = s.num_remote_regions
  memory : s'.rdma.memory = s.rdma.memory
  written : s'.written = s.written

/-- No region can be found for a new offset: the server has no block, or the table is full and
no entry is older than the end of time. -/
def Refused (env : CallEnv) (s : RdmaStore) : Prop :=
  (∃ e, rdma_sim_allocate env.split PAGE_SIZE s.rdma.blocks = .error e) ∨
    s.num_remote_regions = MAX_REMOTE_REGIONS ∧ s.oldest_index = none

/-- The entry `i` is the region of `off`; the others are as they were. Unless the table was full
and had no region of `off`, no offset has lost its region. -/
structure Chosen (env : CallEnv) (s s' : RdmaStore) (off i : ℕ) : Prop where
  table : s'.Table
  index : i < s'.num_remote_regions
  offset : (s'.remote_regions i).virtual_offset = off
  others : ∀ j, j ≠ i → j < s'.num_remote_regions →
    j < s.num_remote_regions ∧ s'.remote_regions j = s.remote_regions j
  memory : s'.rdma.memory = s.rdma.memory
  written : s'.written = s.written
  blocks : s'.rdma.blocks = s.rdma.blocks ∨
    ∃ addr, rdma_sim_allocate env.split PAGE_SIZE s.rdma.blocks = .ok (addr, s'.rdma.blocks)
  kept : (∀ j, j < s.num_remote_regions → ∃ k, k < s'.num_remote_regions ∧
      (s'.remote_regions k).virtual_offset = (s.remote_regions j).virtual_offset) ∨
    s.num_remote_regions = MAX_REMOTE_REGIONS ∧
      ∀ j, j < s.num_remote_regions → (s.remote_regions j).virtual_offset ≠ off

theorem page_fits : (PAGE_SIZE + 4095) / 4096 * 4096 ≤ 2 ^ 64 - 1 := by decide

theorem round_up_page : round_up PAGE_SIZE = PAGE_SIZE := by decide

/-- Placing a new region is choosing its entry. -/
theorem Table.chosen_place (h : s.Table) {i : ℕ} (region : RemoteRegion)
    (hi : i = s.num_remote_regions ∧ s.num_remote_regions < MAX_REMOTE_REGIONS ∨
      i < s.num_remote_regions ∧ s.num_remote_regions = MAX_REMOTE_REGIONS)
    (huse : region.in_use = true) (hsize : region.size = PAGE_SIZE)
    (hoff : ∀ j, j < s.num_remote_regions →
      (s.remote_regions j).virtual_offset ≠ region.virtual_offset)
    (haddr : ∀ j, j < s.num_remote_regions →
      (s.remote_regions j).remote_addr ≠ region.remote_addr)
    (hblock : { addr := region.remote_addr, size := PAGE_SIZE, free := false } ∈
      live s.rdma.blocks) : Chosen env s (s.place i region) region.virtual_offset i := by
  have hle : i ≤ s.num_remote_regions := by omega
  refine ⟨h.place hle (by omega) huse hsize hoff haddr hblock, (lt_place hle region i).2 (Or.inl rfl),
    by rw [place_self], fun j hji hj => ?_, rfl, rfl, Or.inl rfl, ?_⟩
  · exact ⟨(((lt_place hle region j).1 hj).resolve_left hji).2, place_ne s region hji⟩
  · rcases hi with ⟨rfl, -⟩ | ⟨-, hfull⟩
    · refine Or.inl fun j hj => ⟨j, (lt_place hle region j).2 (Or.inr ⟨hj.ne, hj⟩), ?_⟩
      rw [place_ne s region hj.ne]
    · exact Or.inr ⟨hfull, hoff⟩

/-- **`allocate_remote_region`** for an offset that has no region. -/
theorem Table.allocate_remote_region (h : s.Table) (env : CallEnv)
    (hnew : ∀ j, j < s.num_remote_regions → (s.remote_regions j).virtual_offset ≠ off) :
    let r := s.allocate_remote_region env off PAGE_SIZE
    r.1 = none ∧ s.Refused env ∧ Untouched s r.2 ∨ ∃ i, r.1 = some i ∧ Chosen env s r.2 off i := by
  intro r
  rcases h.claim_index with ⟨hclaim, hold⟩ | ⟨i, freed, hclaim, hi⟩
  · have hr : r = (none, s) := allocate_unclaimed hclaim
    rw [hr]
    exact Or.inl ⟨rfl, Or.inr hold, h, rfl, rfl, rfl, rfl⟩
  · have hin : ∀ b ∈ s.rdma.blocks, b.InRemote := fun b hb => (h.blocks.sound b hb).inRemote
    rcases allocate_claimed hclaim h.quiesced hin env off PAGE_SIZE with
      ⟨e, rdma, he, hq, hblocks, hmemory, hr⟩ | ⟨addr, rdma, ha, hq, hmemory, hr⟩
    · -- the server has no block: nothing changes
      have hr : r = _ := hr
      rw [hr]
      refine Or.inl ⟨rfl, Or.inl ⟨e, he⟩, h.of_rdma hq ?_ ?_ freed, rfl, rfl, hmemory, rfl⟩
      · rw [hblocks]
        exact h.blocks
      · rw [hblocks]
        exact fun b hb => hb
    · obtain ⟨hlive, hother⟩ := h.blocks.allocated page_fits ha
      rw [round_up_page] at hlive
      have htable := h.of_rdma hq (h.blocks.rdma_sim_allocate page_fits ha)
        (fun b hb => (hother b hb).1) freed
      have hch : Chosen env _ _ off i := htable.chosen_place (new_region env off PAGE_SIZE addr)
        hi rfl rfl hnew (fun j hj => (hother _ (h.block j hj)).2) hlive
      have hr : r = _ := hr
      rw [hr]
      exact Or.inr ⟨i, rfl, hch.table, hch.index, hch.offset, hch.others, hmemory, rfl,
        Or.inr ⟨addr, ha⟩, hch.kept⟩

/-- **The region of a write.** -/
theorem Table.write_region (h : s.Table) (env : CallEnv) (off : ℕ) :
    let r := s.write_region env off PAGE_SIZE
    r.1 = none ∧ s.Refused env ∧ Untouched s r.2 ∨ ∃ i, r.1 = some i ∧ Chosen env s r.2 off i := by
  rcases hfind : s.find_remote_region off with _ | i
  · rw [write_region_new hfind]
    exact h.allocate_remote_region env fun j hj => h.find_none hfind hj
  · obtain ⟨hi, hoff⟩ := h.find_remote_region.1 hfind
    rw [write_region_found hfind (h.size i hi)]
    exact Or.inr ⟨i, rfl, h, hi, hoff, fun j _ hj => ⟨hj, rfl⟩, rfl, rfl, Or.inl rfl,
      Or.inl fun j hj => ⟨j, hj, rfl⟩⟩

theorem touch_rdma (s : RdmaStore) (i now : ℕ) : (s.touch i now).rdma = s.rdma := rfl

theorem Table.touch (h : s.Table) (i now : ℕ) : (s.touch i now).Table := by
  refine ⟨h.quiesced, h.blocks, h.library, h.bound, fun j => ?_, fun j hj => ?_,
    fun j k hj hk => ?_, fun j hj => ?_, fun j k hj hk => ?_⟩
  · rw [touch_used]
    exact h.used j
  · rw [touch_field RemoteRegion.size fun _ => rfl]
    exact h.size j hj
  · rw [touch_offset, touch_offset]
    exact h.offsets j k hj hk
  · unfold blockOf
    rw [touch_addr]
    exact h.block j hj
  · rw [touch_addr, touch_addr]
    exact h.addrs j k hj hk

/-! ## Pages in the memory of the server -/

/-- The last write to an offset. -/
def lastWrite (s : RdmaStore) (off : ℕ) : Option Written :=
  s.written.find? fun w => w.virtual_offset = off

theorem lastWrite_spec {w : Written} (h : s.lastWrite off = some w) :
    w ∈ s.written ∧ w.virtual_offset = off := by
  refine ⟨List.mem_of_find?_eq_some h, ?_⟩
  have hp := List.find?_some h
  simpa using hp

/-- Where the block of a region begins in the memory of the server. -/
def base (s : RdmaStore) (i : ℕ) : ℕ := (s.remote_regions i).remote_addr - SIM_REMOTE_MEMORY_BASE

theorem touch_base (s : RdmaStore) (i now j : ℕ) : (s.touch i now).base j = s.base j := by
  unfold RdmaStore.base
  rw [touch_addr]

/-- The block of a region holds what was last written to its offset. -/
def Stored (s : RdmaStore) (i : ℕ) : Prop :=
  ∃ w, s.lastWrite (s.remote_regions i).virtual_offset = some w ∧
    ∀ k, k < PAGE_SIZE → s.rdma.memory (s.base i + k) = w.stored.bytes k

theorem page_bytes (page : PageData) : page.bytes.page = page := by
  funext k
  exact dif_pos k.isLt

/-- The block of a region lies in the memory of the server. -/
theorem Table.base (h : s.Table) {i : ℕ} (hi : i < s.num_remote_regions) :
    (s.remote_regions i).remote_addr = SIM_REMOTE_MEMORY_BASE + s.base i ∧
      s.base i + PAGE_SIZE ≤ SIM_REMOTE_MEMORY_SIZE := by
  obtain ⟨hlo, hhi⟩ := (h.blocks.sound _ (mem_live.1 (h.block i hi)).1).inRemote
  unfold RdmaStore.base
  simp only [blockOf] at hlo hhi
  omega

/-- The blocks of two regions have no byte in common. -/
theorem Table.disjoint (h : s.Table) {i j : ℕ} (hi : i < s.num_remote_regions)
    (hj : j < s.num_remote_regions) (hne : i ≠ j) :
    s.base i + PAGE_SIZE ≤ s.base j ∨ s.base j + PAGE_SIZE ≤ s.base i := by
  have hblocks : s.blockOf i ≠ s.blockOf j := fun he =>
    hne (h.addrs i j hi hj (congrArg MemBlock.addr he))
  have hdis := h.blocks.disjoint (mem_live.1 (h.block i hi)).1 (mem_live.1 (h.block j hj)).1 hblocks
  have hbi := (h.base hi).1
  have hbj := (h.base hj).1
  simp only [MemBlock.Disjoint, blockOf] at hdis
  omega

/-- **The write of a page** to the block of a region succeeds. -/
theorem Table.send_page (h : s.Table) (env : CallEnv) {i : ℕ} (hi : i < s.num_remote_regions)
    (off : ℕ) (page : PageData) :
    ∃ w rdma, w.virtual_offset = off ∧ w.page = page ∧
      s.send_page env off (s.remote_regions i).remote_addr page.bytes PAGE_SIZE =
        (.ok (), { s with translator := w.translator, rdma := rdma, written := w :: s.written }) ∧
      rdma.Quiesced ∧ rdma.blocks = s.rdma.blocks ∧
      rdma.memory = memcpy s.rdma.memory (s.base i) w.stored.bytes PAGE_SIZE := by
  have ht := s.register_eq env off PAGE_SIZE (s.remote_regions i).remote_addr
  rw [if_pos rfl] at ht
  set t := registered env off PAGE_SIZE (s.remote_regions i).remote_addr s.translator
  obtain ⟨haddr, hin⟩ := h.base hi
  obtain ⟨answer, hc⟩ := h.quiesced.write 1
    (converted (convert_pointers_for_remote_storage t page off)).bytes env.split haddr hin
    (Nat.succ_pos _) le_rfl
  obtain ⟨placed, hret⟩ := hc.returned
  refine ⟨⟨off, page, t⟩, _, rfl, rfl, ?_, hc.quiesced, hc.blocks, ?_⟩
  · unfold RdmaStore.send_page
    simp only [if_pos, ht, page_bytes, hret]
  · rw [hc.memory, Written.stored]

/-! ## The invariant -/

/-- The offsets that were written. -/
def offsets (s : RdmaStore) : Finset ℕ := (s.written.map Written.virtual_offset).toFinset

theorem mem_offsets : off ∈ s.offsets ↔ ∃ w ∈ s.written, w.virtual_offset = off := by
  rw [offsets, List.mem_toFinset, List.mem_map]

/-- Every region holds what was last written to its offset. Every offset that was written has a
region, unless there are more offsets than entries. -/
structure MapInv (s : RdmaStore) : Prop extends Table s where
  stored : ∀ i, i < s.num_remote_regions → s.Stored i
  covered : (∀ w ∈ s.written, ∃ i, i < s.num_remote_regions ∧
      (s.remote_regions i).virtual_offset = w.virtual_offset) ∨
    MAX_REMOTE_REGIONS < s.offsets.card

theorem mapInv_start : MapInv rdma_storage_init where
  toTable := table_start
  stored := fun i hi => absurd hi (Nat.not_lt_zero i)
  covered := Or.inl fun _ hw => nomatch hw

/-- A region only depends on its offset, its block, the memory and the writes. -/
theorem Stored.congr {i : ℕ} (h : s.Stored i)
    (hoff : (s'.remote_regions i).virtual_offset = (s.remote_regions i).virtual_offset)
    (haddr : (s'.remote_regions i).remote_addr = (s.remote_regions i).remote_addr)
    (hmemory : s'.rdma.memory = s.rdma.memory) (hwritten : s'.written = s.written) :
    s'.Stored i := by
  unfold Stored lastWrite RdmaStore.base
  rw [hoff, haddr, hmemory, hwritten]
  exact h

theorem MapInv.untouched (h : s.MapInv) (hu : Untouched s s') : s'.MapInv := by
  refine ⟨hu.table, fun i hi => ?_, ?_⟩
  · rw [hu.num] at hi
    exact (h.stored i hi).congr (by rw [hu.regions]) (by rw [hu.regions]) hu.memory hu.written
  · unfold RdmaStore.offsets
    rw [hu.written, hu.num, hu.regions]
    exact h.covered

/-- The state after a page was sent to the block of a region. -/
def sent (s : RdmaStore) (w : Written) (rdma : Rdma) : RdmaStore :=
  { s with translator := w.translator, rdma := rdma, written := w :: s.written }

theorem lastWrite_sent_self (s : RdmaStore) (w : Written) (rdma : Rdma) :
    (s.sent w rdma).lastWrite w.virtual_offset = some w :=
  List.find?_cons_of_pos (decide_eq_true rfl)

theorem lastWrite_sent_ne (s : RdmaStore) {w : Written} (rdma : Rdma) (hne : w.virtual_offset ≠ off) :
    (s.sent w rdma).lastWrite off = s.lastWrite off :=
  List.find?_cons_of_neg (mt of_decide_eq_true hne)

/-- **The page that was sent** is stored in its region, and the other regions keep theirs. -/
theorem Table.sent_stored (h : s.Table) {i : ℕ} (hi : i < s.num_remote_regions) {w : Written}
    (hw : (s.remote_regions i).virtual_offset = w.virtual_offset) {rdma : Rdma}
    (hmemory : rdma.memory = memcpy s.rdma.memory (s.base i) w.stored.bytes PAGE_SIZE)
    (hothers : ∀ j, j ≠ i → j < s.num_remote_regions → s.Stored j) :
    ∀ j, j < s.num_remote_regions → (s.sent w rdma).Stored j := by
  intro j hj
  by_cases hji : j = i
  · rw [hji]
    refine ⟨w, ?_, fun k hk => ?_⟩
    · show (s.sent w rdma).lastWrite (s.remote_regions i).virtual_offset = some w
      rw [hw, lastWrite_sent_self]
    · show rdma.memory (s.base i + k) = _
      rw [hmemory, memcpy, if_pos (by omega), Nat.add_sub_cancel_left]
  · obtain ⟨w', hlast, hbytes⟩ := hothers j hji hj
    have hne : w.virtual_offset ≠ (s.remote_regions j).virtual_offset := fun he =>
      hji (h.offsets j i hj hi (he.symm.trans hw.symm))
    refine ⟨w', (s.lastWrite_sent_ne rdma hne).trans hlast, fun k hk => ?_⟩
    -- the page went to another block
    have hdis := h.disjoint hi hj (Ne.symm hji)
    show rdma.memory (s.base j + k) = _
    rw [hmemory, memcpy, if_neg (by omega)]
    exact hbytes k hk

/-- The regions of a full table account for as many offsets. -/
theorem MapInv.full_card (h : s.MapInv) (hfull : s.num_remote_regions = MAX_REMOTE_REGIONS) :
    MAX_REMOTE_REGIONS ≤ s.offsets.card := by
  have hsub : (Finset.range s.num_remote_regions).image
      (fun i => (s.remote_regions i).virtual_offset) ⊆ s.offsets := by
    intro off hoff
    obtain ⟨i, hi, rfl⟩ := Finset.mem_image.1 hoff
    obtain ⟨w, hlast, -⟩ := h.stored i (Finset.mem_range.1 hi)
    exact mem_offsets.2 ⟨w, lastWrite_spec hlast⟩
  have hcard : ((Finset.range s.num_remote_regions).image
      (fun i => (s.remote_regions i).virtual_offset)).card = s.num_remote_regions := by
    rw [Finset.card_image_of_injOn, Finset.card_range]
    intro i hi j hj he
    exact h.offsets i j (by simpa using hi) (by simpa using hj) he
  rw [← hfull, ← hcard]
  exact Finset.card_le_card hsub

/-- A write to a new offset is counted, and a write to a known one is not. -/
theorem offsets_sent (s : RdmaStore) (w : Written) (rdma : Rdma) :
    (s.sent w rdma).offsets = insert w.virtual_offset s.offsets := by
  unfold RdmaStore.offsets sent
  rw [List.map_cons, List.toFinset_cons]

/-- What a write does: nothing, or it sends its page to the region of its offset. -/
theorem MapInv.write_cases (h : s.MapInv) (env : CallEnv) (off : ℕ) (page : PageData) :
    let r := s.rdma_write_page env off page.bytes PAGE_SIZE
    r.1 = .error (some .ENOMEM) ∧ s.Refused env ∧ Untouched s r.2 ∨
    ∃ s₁ i w rdma, Chosen env s s₁ off i ∧ w.virtual_offset = off ∧ w.page = page ∧
      r = (.ok (), (s₁.touch i env.now).sent w rdma) ∧ rdma.Quiesced ∧
      rdma.blocks = s₁.rdma.blocks ∧
      rdma.memory = memcpy s₁.rdma.memory (s₁.base i) w.stored.bytes PAGE_SIZE := by
  intro r
  rcases h.toTable.write_region env off with ⟨hnone, href, hu⟩ | ⟨i, hsome, hch⟩
  · have hr : r = (.error (some .ENOMEM), (s.write_region env off PAGE_SIZE).2) := by
      simp only [r, rdma_write_page]
      rw [← Prod.eta (s.write_region env off PAGE_SIZE), hnone]
    rw [hr]
    exact Or.inl ⟨rfl, href, hu⟩
  · generalize hs₁ : (s.write_region env off PAGE_SIZE).2 = s₁ at hch
    have hr : r = (s₁.touch i env.now).send_page env off
        ((s₁.touch i env.now).remote_regions i).remote_addr page.bytes PAGE_SIZE := by
      rw [touch_addr]
      simp only [r, rdma_write_page]
      rw [← Prod.eta (s.write_region env off PAGE_SIZE), hsome, hs₁]
      rfl
    obtain ⟨w, rdma, hoff, hpage, hsend, hq, hb, hm⟩ :=
      (hch.table.touch i env.now).send_page env hch.index off page
    refine Or.inr ⟨s₁, i, w, rdma, hch, hoff, hpage, hr.trans hsend, hq, hb, ?_⟩
    rw [touch_base] at hm
    exact hm

/-- **Writes** keep the invariant: a page that loses its region makes one offset too many. -/
theorem MapInv.write (h : s.MapInv) (env : CallEnv) (off : ℕ) (page : PageData) :
    (s.rdma_write_page env off page.bytes PAGE_SIZE).2.MapInv := by
  rcases h.write_cases env off page with ⟨-, -, hu⟩ | ⟨s₁, i, w, rdma, hch, hoff, -, hr, hq, hb, hm⟩
  · exact h.untouched hu
  · rw [hr]
    have htable := hch.table.touch i env.now
    have hoffset : ∀ j, ((s₁.touch i env.now).remote_regions j).virtual_offset =
        (s₁.remote_regions j).virtual_offset := s₁.touch_offset i env.now
    -- the other entries store what they stored before the call
    have hothers : ∀ j, j ≠ i → j < s₁.num_remote_regions → (s₁.touch i env.now).Stored j := by
      intro j hji hj
      obtain ⟨hlt, hsame⟩ := hch.others j hji hj
      refine (h.stored j hlt).congr ?_ ?_ hch.memory hch.written
      · rw [hoffset, hsame]
      · rw [touch_addr, hsame]
    have hmem : rdma.memory = memcpy (s₁.touch i env.now).rdma.memory
        ((s₁.touch i env.now).base i) w.stored.bytes PAGE_SIZE := by
      rw [touch_rdma, touch_base]
      exact hm
    refine ⟨?_, ?_, ?_⟩
    · have hof := htable.of_rdma hq (by rw [hb]; exact htable.blocks) (by rw [hb]; exact fun b hb => hb)
        s₁.freed
      exact ⟨hof.quiesced, hof.blocks, hof.library, hof.bound, hof.used, hof.size, hof.offsets,
        hof.block, hof.addrs⟩
    · refine htable.sent_stored hch.index ?_ hmem hothers
      rw [hoffset, hch.offset, hoff]
    · rw [offsets_sent]
      have hsame : (s₁.touch i env.now).offsets = s.offsets := by
        show (s₁.written.map _).toFinset = _
        rw [hch.written]
        rfl
      rw [hsame, hoff]
      rcases h.covered with hcov | hmany
      · rcases hch.kept with hkept | ⟨hfull, hnew⟩
        · -- no offset was lost, so every page written still has its entry
          refine Or.inl fun w' hw' => ?_
          rcases List.mem_cons.1 hw' with rfl | hw'
          · exact ⟨i, hch.index, by rw [hoff, ← hch.offset]; exact hoffset i⟩
          · have hw' : w' ∈ s.written := by
              rw [← hch.written]
              exact hw'
            obtain ⟨j, hj, hjoff⟩ := hcov w' hw'
            obtain ⟨k, hk, hkoff⟩ := hkept j hj
            exact ⟨k, hk, (hoffset k).trans (hkoff.trans hjoff)⟩
        · -- the table was full, and the offset is new
          refine Or.inr ?_
          have hnot : off ∉ s.offsets := by
            intro hmem
            obtain ⟨w', hw', he⟩ := mem_offsets.1 hmem
            obtain ⟨j, hj, hjoff⟩ := hcov w' hw'
            exact hnew j hj (hjoff.trans he)
          rw [Finset.card_insert_of_notMem hnot]
          have hcard := h.full_card hfull
          omega
      · exact Or.inr (lt_of_lt_of_le hmany (Finset.card_le_card (Finset.subset_insert _ _)))

/-! ## Reads -/

/-- What the store should yield: the page as the codec gives it back. -/
def yields (t : Translator) (w : Written) : PageData :=
  converted (convert_pointers_from_remote_storage t w.stored w.virtual_offset)

theorem read_eq_ok {i : ℕ} (hfind : s.find_remote_region off = some i) {r : ℕ × Option Placed}
    (hret : (s.rdma.round_trip .READ 1 (s.remote_regions i).remote_addr PAGE_SIZE none
      env.split).1 = some r) :
    s.rdma_read_page env off PAGE_SIZE =
      (.ok (converted (convert_pointers_from_remote_storage s.translator
          (Bytes.page (s.rdma.round_trip .READ 1 (s.remote_regions i).remote_addr PAGE_SIZE none
            env.split).2.page_buffer) off)).bytes,
        { s.touch i env.now with
          rdma := (s.rdma.round_trip .READ 1 (s.remote_regions i).remote_addr PAGE_SIZE none
            env.split).2 }) := by
  unfold rdma_read_page RdmaStore.touch setRegion
  simp only [hfind, hret, if_pos]

/-- **Reads** of an offset that has a region yield the page that was last written. -/
theorem MapInv.read_page (h : s.MapInv) (env : CallEnv) {i : ℕ} (hi : i < s.num_remote_regions)
    (hoff : (s.remote_regions i).virtual_offset = off) :
    ∃ w rdma, s.lastWrite off = some w ∧
      s.rdma_read_page env off PAGE_SIZE =
        (.ok (yields s.translator w).bytes, { s.touch i env.now with rdma := rdma }) ∧
      rdma.Quiesced ∧ rdma.blocks = s.rdma.blocks ∧ rdma.memory = s.rdma.memory := by
  obtain ⟨w, hlast, hbytes⟩ := h.stored i hi
  rw [hoff] at hlast
  obtain ⟨-, hw⟩ := lastWrite_spec hlast
  obtain ⟨haddr, hin⟩ := h.toTable.base hi
  obtain ⟨answer, hc⟩ := h.quiesced.read 1 env.split haddr hin (Nat.succ_pos _) le_rfl
  obtain ⟨placed, hret⟩ := hc.returned
  have hpage : Bytes.page (s.rdma.round_trip .READ 1 (s.remote_regions i).remote_addr PAGE_SIZE none
      env.split).2.page_buffer = w.stored := by
    funext k
    show (s.rdma.round_trip _ _ _ _ _ _).2.page_buffer k = _
    rw [hc.page_buffer]
    have hk := hbytes k k.isLt
    simp only [memcpy, Nat.zero_le, Nat.zero_add, true_and, if_pos k.isLt, Nat.sub_zero]
    rw [hk, PageData.bytes, dif_pos k.isLt]
  refine ⟨w, _, hlast, ?_, hc.quiesced, hc.blocks, hc.memory⟩
  have hfind := h.toTable.find_remote_region.2 ⟨hi, hoff⟩
  rw [read_eq_ok hfind hret, hpage, yields, hw]

theorem MapInv.read (h : s.MapInv) (env : CallEnv) (off : ℕ) :
    (s.rdma_read_page env off PAGE_SIZE).2.MapInv := by
  rcases hfind : s.find_remote_region off with _ | i
  · rw [read_eq_error hfind]
    exact h
  · obtain ⟨hi, hoff⟩ := h.toTable.find_remote_region.1 hfind
    obtain ⟨w, rdma, -, hr, hq, hb, hm⟩ := h.read_page env hi hoff
    rw [hr]
    have htable := (h.toTable.touch i env.now).of_rdma hq (by rw [hb]; exact h.blocks)
      (by rw [hb]; exact fun b hb => hb) s.freed
    refine ⟨htable, fun j hj => ?_, h.covered.imp_left fun hcov w hw => ?_⟩
    · exact (h.stored j hj).congr (s.touch_offset i env.now j) (s.touch_addr i env.now j) hm rfl
    · obtain ⟨j, hj, hjoff⟩ := hcov w hw
      exact ⟨j, hj, (s.touch_offset i env.now j).trans hjoff⟩

theorem MapInv.step (h : s.MapInv) (c : Call) : (step c s).MapInv := by
  cases c with
  | write env off page => exact h.write env off page
  | read env off => exact h.read env off

theorem exec_mapInv (calls : List Call) : (exec calls).MapInv :=
  Guarded.exec_of_step (I := MapInv) (fun _ c h => h.step c) calls mapInv_start

/-! ## The store as a map -/

/-- A read returns `0` exactly for the offsets that were written, and yields the page of the last
write to its offset, as the codec gives it back. -/
def Faithful (s : RdmaStore) : Prop :=
  ∀ env off,
    match s.lastWrite off with
    | none => ∀ bytes, (s.rdma_read_page env off PAGE_SIZE).1 ≠ .ok bytes
    | some w => (s.rdma_read_page env off PAGE_SIZE).1 = .ok (yields s.translator w).bytes

/-- The store is faithful if all offsets that were written have a region. -/
theorem MapInv.faithful (h : s.MapInv) (hcov : ∀ w ∈ s.written, ∃ i, i < s.num_remote_regions ∧
    (s.remote_regions i).virtual_offset = w.virtual_offset) : s.Faithful := by
  intro env off
  rcases hfind : s.find_remote_region off with _ | i
  · rcases hlast : s.lastWrite off with _ | w
    · intro bytes
      rw [read_eq_error hfind]
      exact fun he => nomatch he
    · obtain ⟨hw, hoff⟩ := lastWrite_spec hlast
      obtain ⟨i, hi, hvo⟩ := hcov w hw
      exact absurd (hvo.trans hoff) (h.toTable.find_none hfind hi)
  · obtain ⟨hi, hoff⟩ := h.toTable.find_remote_region.1 hfind
    obtain ⟨w, rdma, hlast, hr, -⟩ := h.read_page env hi hoff
    rw [hlast]
    show (s.rdma_read_page env off PAGE_SIZE).1 = _
    rw [hr]

/-- With more offsets than entries, one of them has no region, and a read of it fails. -/
theorem MapInv.not_faithful (h : s.MapInv) (hcard : MAX_REMOTE_REGIONS < s.offsets.card) :
    ¬ s.Faithful := by
  have hregions : ((Finset.range s.num_remote_regions).image
      fun i => (s.remote_regions i).virtual_offset).card < s.offsets.card := by
    refine lt_of_le_of_lt Finset.card_image_le ?_
    rw [Finset.card_range]
    exact lt_of_le_of_lt h.bound hcard
  obtain ⟨off, hoff, hnot⟩ := Finset.exists_mem_notMem_of_card_lt_card hregions
  obtain ⟨w, hw, hwoff⟩ := mem_offsets.1 hoff
  have hfind : s.find_remote_region off = none := by
    rcases hfind : s.find_remote_region off with _ | i
    · rfl
    · obtain ⟨hi, hvo⟩ := h.toTable.find_remote_region.1 hfind
      exact absurd (Finset.mem_image.2 ⟨i, Finset.mem_range.2 hi, hvo⟩) hnot
  intro hf
  have hread := hf {} off
  rcases hlast : s.lastWrite off with _ | w'
  · -- the offset was written
    have hnone := List.find?_eq_none.1 hlast w hw
    simp [hwoff] at hnone
  · rw [hlast] at hread
    have hread : (s.rdma_read_page {} off PAGE_SIZE).1 = _ := hread
    rw [read_eq_error hfind] at hread
    cases hread

/-- **The store is a faithful map exactly as long as no more offsets were written than the table
has entries.** -/
theorem store_faithful_iff (calls : List Call) :
    (exec calls).Faithful ↔ (exec calls).offsets.card ≤ MAX_REMOTE_REGIONS := by
  have h := exec_mapInv calls
  constructor
  · intro hf
    by_contra hcard
    exact h.not_faithful (not_le.1 hcard) hf
  · intro hcard
    exact h.faithful (h.covered.resolve_right (not_lt.2 hcard))

/-! ## A run that fills the table -/

/-- An entry whose time is not the end of time is found by the search for the oldest. -/
theorem oldest_index_isSome (hyoung : ∀ i, i < s.num_remote_regions →
      (s.remote_regions i).last_access < UINT64_MAX)
    (h : s.Table) (hpos : 0 < s.num_remote_regions) : s.oldest_index ≠ none := by
  -- once an entry was found, one stays found
  have hfold : ∀ (l : List ℕ) (oldest : ℕ × Option ℕ), oldest.2 ≠ none →
      (l.foldl s.older oldest).2 ≠ none := by
    intro l
    induction l with
    | nil => exact fun _ ho => ho
    | cons j l ih =>
        intro oldest ho
        refine ih (s.older oldest j) ?_
        rcases s.older_cases oldest j with he | ⟨-, he⟩
        · rw [he]
          exact ho
        · rw [he]
          exact Option.some_ne_none j
  obtain ⟨n, hn⟩ : ∃ n, s.num_remote_regions = n + 1 := ⟨s.num_remote_regions - 1, by omega⟩
  unfold RdmaStore.oldest_index
  rw [hn, List.range'_succ, List.foldl_cons]
  refine hfold _ _ ?_
  rw [older, if_pos ⟨(h.used 0).2 hpos, hyoung 0 hpos⟩]
  exact Option.some_ne_none 0

/-- The pages that the memory of the server has room for. -/
abbrev REMOTE_PAGES : ℕ := 262144

/-- The server's blocks account for its whole memory, and at most `n` pages are allocated. -/
structure Ample (n : ℕ) (s : RdmaStore) : Prop where
  young : ∀ i, i < s.num_remote_regions → (s.remote_regions i).last_access < UINT64_MAX
  whole : blockBytes s.rdma.blocks = SIM_REMOTE_MEMORY_SIZE
  used : liveBytes s.rdma.blocks ≤ 4096 * n

/-- With memory left, a write is not refused. -/
theorem Ample.not_refused {n : ℕ} (h : Ample n s) (ht : s.Table) (hn : n < REMOTE_PAGES) :
    ¬ s.Refused env := by
  rintro (⟨e, he⟩ | ⟨hfull, hold⟩)
  · have hroom : liveBytes s.rdma.blocks < blockBytes s.rdma.blocks := by
      have hused := h.used
      have hsize : SIM_REMOTE_MEMORY_SIZE = 4096 * REMOTE_PAGES := by norm_num
      rw [h.whole, hsize]
      omega
    obtain ⟨r, hr⟩ := ht.blocks.allocate_page round_up_page (by decide) env.split hroom
    rw [hr] at he
    cases he
  · refine oldest_index_isSome h.young ht ?_ hold
    rw [hfull]
    decide

/-- **A write with memory left** succeeds, and takes a page at most. -/
theorem Ample.write {n : ℕ} (h : Ample n s) (hs : s.MapInv) (hn : n < REMOTE_PAGES) (off : ℕ)
    (page : PageData) :
    let s' := step (.write {} off page) s
    Ample (n + 1) s' ∧
      s'.written.map Written.virtual_offset = off :: s.written.map Written.virtual_offset := by
  intro s'
  have hs' : s' = (s.rdma_write_page {} off page.bytes PAGE_SIZE).2 := rfl
  rcases hs.write_cases {} off page with
    ⟨-, href, -⟩ | ⟨s₁, i, w, rdma, hch, hoff, -, hr, -, hb, -⟩
  · -- fewer pages were written than the memory has, so no call is refused
    exact absurd href (h.not_refused hs.toTable hn)
  · rw [hs', hr]
    refine ⟨⟨fun j hj => ?_, ?_, ?_⟩, ?_⟩
    · show (Function.update s₁.remote_regions i _ j).last_access < _
      by_cases hji : j = i
      · rw [hji, Function.update_self]
        show 0 < UINT64_MAX
        norm_num
      · obtain ⟨hlt, hsame⟩ := hch.others j hji hj
        rw [Function.update_of_ne hji, hsame]
        exact h.young j hlt
    · show blockBytes rdma.blocks = _
      rw [hb]
      rcases hch.blocks with he | ⟨addr, ha⟩
      · rw [he]
        exact h.whole
      · rw [blockBytes_allocate_walk (rdma_sim_allocate_eq_ok ha)]
        exact h.whole
    · show liveBytes rdma.blocks ≤ _
      rw [hb]
      have hused := h.used
      rcases hch.blocks with he | ⟨addr, ha⟩
      · rw [he]
        omega
      · have hpage : round_up PAGE_SIZE = 4096 := round_up_page
        rw [liveBytes_allocate ha, hpage]
        omega
    · show (w :: s₁.written).map _ = _
      rw [List.map_cons, hoff, hch.written]

/-- Writes of a page to offsets. -/
def writes (page : PageData) (offs : List ℕ) : List Call := offs.map fun off => .write {} off page

/-- **While there is memory left**, all writes succeed. -/
theorem Ample.writes {page : PageData} {offs : List ℕ} {n : ℕ} (h : Ample n s) (hs : s.MapInv)
    (hn : n + offs.length ≤ REMOTE_PAGES) :
    (Guarded.exec step (writes page offs) s).written.map Written.virtual_offset =
      offs.reverse ++ s.written.map Written.virtual_offset := by
  induction offs generalizing s n with
  | nil => rfl
  | cons off offs ih =>
      rw [List.length_cons] at hn
      obtain ⟨ha, hw⟩ := h.write hs (by omega) off page
      have hrest := ih ha (hs.step (.write {} off page)) (by omega)
      show (Guarded.exec step (RdmaStore.writes page offs) (step (.write {} off page) s)).written.map _
        = _
      rw [hrest, hw, List.reverse_cons, List.append_assoc]
      rfl

theorem ample_start : Ample 0 rdma_storage_init := by
  refine ⟨fun i hi => absurd hi (Nat.not_lt_zero i), ?_, ?_⟩
  · rw [init_rdma.2]
    decide
  · rw [init_rdma.2]
    decide

/-- One page more than the table has entries. -/
def overfull : List Call :=
  writes (fun _ => 0) ((List.range (MAX_REMOTE_REGIONS + 1)).map (· * PAGE_SIZE))

/-- Writing one page too many loses one of the others. -/
theorem store_not_faithful_overfull : ¬ (exec overfull).Faithful := by
  have hnodup : ((List.range (MAX_REMOTE_REGIONS + 1)).map (· * PAGE_SIZE)).Nodup :=
    (List.nodup_range).map fun a b hab => Nat.eq_of_mul_eq_mul_right (by decide) hab
  have hwritten : (exec overfull).written.map Written.virtual_offset =
      ((List.range (MAX_REMOTE_REGIONS + 1)).map (· * PAGE_SIZE)).reverse ++ [] := by
    refine ample_start.writes mapInv_start ?_
    rw [List.length_map, List.length_range]
    decide
  refine (exec_mapInv overfull).not_faithful ?_
  unfold RdmaStore.offsets
  rw [hwritten, List.append_nil, List.toFinset_card_of_nodup (List.nodup_reverse.2 hnodup),
    List.length_reverse, List.length_map, List.length_range]
  exact Nat.lt_succ_self _

end RdmaStore

end SwapPrefetch
