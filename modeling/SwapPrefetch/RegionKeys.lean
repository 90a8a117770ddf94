/-
The keys of the region table (`src/storage_rdma.c:117-193`, `314-331`).

A region is looked up by its offset, and the first entry that matches is taken. `rdma_write_page`
makes a region only for an offset that has none, so its regions have offsets of their own. The
other way to get a region, `rdma_allocate_page_offset`, makes one for the offset `0` each time and
returns that offset, which the header calls unique.

`Keys` is what holds as long as this does no harm: every call of `rdma_allocate_page_offset` that
succeeds is the first one and finds no region at the offset `0`. The sizes may be any for which the
server's rounding does not wrap; beyond that the server hands out a block without bytes, and the
next one begins at the same address.
-/
import Mathlib.Tactic
import SwapPrefetch.StoreMap

set_option autoImplicit false

namespace SwapPrefetch

namespace RdmaStore

variable {s s' : RdmaStore} {env : CallEnv} {off size i j : ℕ}

/-! ## The regions in use -/

/-- The regions in use have offsets and blocks of their own. -/
structure Keys (s : RdmaStore) : Prop where
  quiesced : s.rdma.Quiesced
  blocks : Represents s.rdma.blocks
  library : s.sim_remote_memory_blocks = []
  bound : s.num_remote_regions ≤ MAX_REMOTE_REGIONS
  index : ∀ i, (s.remote_regions i).in_use = true → i < s.num_remote_regions
  offsets : ∀ i j, (s.remote_regions i).in_use = true → (s.remote_regions j).in_use = true →
    (s.remote_regions i).virtual_offset = (s.remote_regions j).virtual_offset → i = j
  block : ∀ i, (s.remote_regions i).in_use = true →
    ∃ b ∈ live s.rdma.blocks, b.addr = (s.remote_regions i).remote_addr
  addrs : ∀ i j, (s.remote_regions i).in_use = true → (s.remote_regions j).in_use = true →
    (s.remote_regions i).remote_addr = (s.remote_regions j).remote_addr → i = j

theorem keys_start : Keys rdma_storage_init where
  quiesced := init_rdma.1
  blocks := by
    rw [init_rdma.2]
    exact represents_init
  library := rfl
  bound := Nat.zero_le _
  index := nofun
  offsets := nofun
  block := nofun
  addrs := nofun

theorem Keys.indexed (h : s.Keys) : s.Indexed := h.index

/-- An offset without a region has no entry in use. -/
theorem Keys.find_none (h : s.Keys) (hfind : s.find_remote_region off = none)
    (hi : (s.remote_regions i).in_use = true) : (s.remote_regions i).virtual_offset ≠ off := by
  intro hoff
  exact h.indexed.find_eq_none.1 hfind i ⟨hi, hoff⟩

/-! ## Steps that keep the keys -/

/-- Steps that leave the blocks and the keys alone. -/
theorem Keys.unchanged (h : s.Keys) (hq : s'.rdma.Quiesced)
    (hb : s'.rdma.blocks = s.rdma.blocks)
    (hlib : s'.sim_remote_memory_blocks = s.sim_remote_memory_blocks)
    (hnum : s'.num_remote_regions = s.num_remote_regions)
    (huse : ∀ i, (s'.remote_regions i).in_use = (s.remote_regions i).in_use)
    (hoff : ∀ i, (s'.remote_regions i).virtual_offset = (s.remote_regions i).virtual_offset)
    (haddr : ∀ i, (s'.remote_regions i).remote_addr = (s.remote_regions i).remote_addr) :
    s'.Keys := by
  refine ⟨hq, ?_, hlib.trans h.library, ?_, fun i hi => ?_, fun i j hi hj => ?_, fun i hi => ?_,
    fun i j hi hj => ?_⟩
  · rw [hb]
    exact h.blocks
  · rw [hnum]
    exact h.bound
  · rw [huse] at hi
    rw [hnum]
    exact h.index i hi
  · rw [huse] at hi hj
    rw [hoff, hoff]
    exact h.offsets i j hi hj
  · rw [huse] at hi
    rw [hb, haddr]
    exact h.block i hi
  · rw [huse] at hi hj
    rw [haddr, haddr]
    exact h.addrs i j hi hj

theorem Keys.touch (h : s.Keys) (i now : ℕ) : (s.touch i now).Keys :=
  h.unchanged h.quiesced rfl rfl rfl (s.touch_used i now) (s.touch_offset i now) (s.touch_addr i now)

/-- A region that is given up. -/
theorem Keys.give_up (h : s.Keys) (i : ℕ) : (s.given_up i).Keys := by
  have hfree := library_free_eq h.library (s.remote_regions i).remote_addr
  have hrdma : (s.given_up i).rdma = s.rdma := s.library_free_rdma _
  refine ⟨?_, ?_, ?_, ?_, fun j hj => ?_, fun j k hj hk => ?_, fun j hj => ?_, fun j k hj hk => ?_⟩
  · rw [hrdma]
    exact h.quiesced
  · rw [hrdma]
    exact h.blocks
  · exact (congrArg RdmaStore.sim_remote_memory_blocks hfree).trans h.library
  · rw [given_up_num]
    exact h.bound
  -- the entries in use afterwards were in use, and are as they were
  · have hsame := (given_up_used hj).2
    rw [hsame] at hj
    rw [given_up_num]
    exact h.index j hj
  · have hsame := (given_up_used hj).2
    have hsame' := (given_up_used hk).2
    rw [hsame] at hj ⊢
    rw [hsame'] at hk ⊢
    exact h.offsets j k hj hk
  · have hsame := (given_up_used hj).2
    rw [hsame] at hj ⊢
    rw [hrdma]
    exact h.block j hj
  · have hsame := (given_up_used hj).2
    have hsame' := (given_up_used hk).2
    rw [hsame] at hj ⊢
    rw [hsame'] at hk ⊢
    exact h.addrs j k hj hk

/-- **A new region** with an offset and a block of its own. -/
theorem Keys.place (h : s.Keys) {region : RemoteRegion} (hi : i < MAX_REMOTE_REGIONS)
    (hoff : ∀ j, j ≠ i → (s.remote_regions j).in_use = true →
      (s.remote_regions j).virtual_offset ≠ region.virtual_offset)
    (haddr : ∀ j, (s.remote_regions j).in_use = true →
      (s.remote_regions j).remote_addr ≠ region.remote_addr)
    (hblock : ∃ b ∈ live s.rdma.blocks, b.addr = region.remote_addr) :
    (s.place i region).Keys := by
  have hbound := h.bound
  have hnum : (s.place i region).num_remote_regions = max s.num_remote_regions (i + 1) := rfl
  refine ⟨h.quiesced, h.blocks, h.library, by omega, fun j hj => ?_, fun j k hj hk => ?_,
    fun j hj => ?_, fun j k hj hk => ?_⟩
  · by_cases hji : j = i
    · omega
    · rw [place_ne s region hji] at hj
      have hlt := h.index j hj
      omega
  · by_cases hji : j = i
    · by_cases hki : k = i
      · exact fun _ => hji.trans hki.symm
      · rw [place_ne s region hki] at hk ⊢
        rw [hji, place_self]
        exact fun he => absurd he.symm (hoff k hki hk)
    · rw [place_ne s region hji] at hj ⊢
      by_cases hki : k = i
      · rw [hki, place_self]
        exact fun he => absurd he (hoff j hji hj)
      · rw [place_ne s region hki] at hk ⊢
        exact h.offsets j k hj hk
  · by_cases hji : j = i
    · rw [hji, place_self]
      exact hblock
    · rw [place_ne s region hji] at hj ⊢
      exact h.block j hj
  · by_cases hji : j = i
    · by_cases hki : k = i
      · exact fun _ => hji.trans hki.symm
      · rw [place_ne s region hki] at hk ⊢
        rw [hji, place_self]
        exact fun he => absurd he.symm (haddr k hk)
    · rw [place_ne s region hji] at hj ⊢
      by_cases hki : k = i
      · rw [hki, place_self]
        exact fun he => absurd he (haddr j hj)
      · rw [place_ne s region hki] at hk ⊢
        exact h.addrs j k hj hk

/-- The server's rounding of the size does not wrap. -/
def SizeFits (size : ℕ) : Prop := (size + 4095) / 4096 * 4096 ≤ 2 ^ 64 - 1

instance (size : ℕ) : Decidable (SizeFits size) :=
  inferInstanceAs (Decidable ((size + 4095) / 4096 * 4096 ≤ 2 ^ 64 - 1))

/-- **`allocate_remote_region`** keeps the keys if it fails, or if no other region has the offset. -/
theorem Keys.allocate_remote_region (h : s.Keys) (env : CallEnv) (off : ℕ) (hfits : SizeFits size) :
    ((s.allocate_remote_region env off size).1 = none ∧
        (s.allocate_remote_region env off size).2.Keys) ∨
      ∃ i, (s.allocate_remote_region env off size).1 = some i ∧
        ((s.allocate_remote_region env off size).2.remote_regions i).virtual_offset = off ∧
        ((s.allocate_remote_region env off size).2.remote_regions i).size = size ∧
        ((∀ j, j ≠ i → (s.remote_regions j).in_use = true →
            (s.remote_regions j).virtual_offset ≠ off) →
          (s.allocate_remote_region env off size).2.Keys) := by
  rcases hclaim : s.claim_index with _ | ⟨i, s₁⟩
  · rw [allocate_unclaimed hclaim]
    exact Or.inl ⟨rfl, h⟩
  · have hi := h.indexed.entry_lt h.bound (claim_index_some hclaim).1
    obtain ⟨freed, rfl⟩ := claim_index_freed h.library hclaim
    have hin : ∀ b ∈ s.rdma.blocks, b.InRemote := fun b hb => (h.blocks.sound b hb).inRemote
    rcases allocate_claimed hclaim h.quiesced hin env off size with
      ⟨e, rdma, -, hq, hblocks, -, hr⟩ | ⟨addr, rdma, ha, hq, -, hr⟩
    · rw [hr]
      exact Or.inl ⟨rfl, h.unchanged hq hblocks rfl rfl (fun _ => rfl) (fun _ => rfl) fun _ => rfl⟩
    · rw [hr]
      obtain ⟨hlive, hother⟩ := h.blocks.allocated hfits ha
      -- the table before the new region, with the block already allocated
      have hkeys : Keys { s with rdma := rdma, freed := freed } := by
        refine ⟨hq, h.blocks.rdma_sim_allocate hfits ha, h.library, h.bound, h.index, h.offsets,
          fun j hj => ?_, h.addrs⟩
        obtain ⟨b, hb, hbaddr⟩ := h.block j hj
        exact ⟨b, (hother b hb).1, hbaddr⟩
      refine Or.inr ⟨i, rfl, by rw [place_self]; rfl, by rw [place_self]; rfl, fun hnew => ?_⟩
      refine hkeys.place hi hnew (fun j hj => ?_)
        ⟨{ addr := addr, size := round_up size, free := false }, hlive, rfl⟩
      obtain ⟨b, hb, hbaddr⟩ := h.block j hj
      exact hbaddr ▸ (hother b hb).2

/-- **The region of a write.** -/
theorem Keys.write_region (h : s.Keys) (env : CallEnv) (off : ℕ) (hfits : SizeFits size) :
    (s.write_region env off size).2.Keys := by
  rcases hfind : s.find_remote_region off with _ | i
  · rw [write_region_new hfind]
    rcases h.allocate_remote_region env off hfits with ⟨-, hkeys⟩ | ⟨i, -, -, -, hkeys⟩
    · exact hkeys
    · exact hkeys fun j _ hj => h.find_none hfind hj
  · by_cases hi : (s.remote_regions i).size = size
    · rw [write_region_found hfind hi]
      exact h
    · rw [write_region_resized hfind hi]
      obtain ⟨hused, hoff⟩ := serves_of_find hfind
      rcases (h.give_up i).allocate_remote_region env off hfits with ⟨-, hkeys⟩ | ⟨k, -, -, -, hkeys⟩
      · exact hkeys
      · -- the only region of the offset is given up before the new one is made
        refine hkeys fun j _ hj => ?_
        obtain ⟨hji, hsame⟩ := given_up_used hj
        rw [hsame] at hj ⊢
        exact fun he => hji (h.offsets j i hj hused (he.trans hoff.symm))

theorem Keys.send_page (h : s.Keys) (env : CallEnv) (off remote_addr : ℕ) (src : Bytes)
    (size : ℕ) : (s.send_page env off remote_addr src size).2.Keys := by
  obtain ⟨written, hr⟩ := s.send_page_eq env off remote_addr src size
  obtain ⟨hq, hb⟩ := h.quiesced.write_kept 1 remote_addr size
    (encoded (registered env off size remote_addr s.translator) off src size) env.split
  rw [hr]
  exact h.unchanged hq hb rfl rfl (fun _ => rfl) (fun _ => rfl) fun _ => rfl

/-- **Writes.** -/
theorem Keys.write (h : s.Keys) (env : CallEnv) (off : ℕ) (src : Bytes) (hfits : SizeFits size) :
    (s.rdma_write_page env off src size).2.Keys := by
  have hm := h.write_region env off hfits
  unfold rdma_write_page
  rcases hr : s.write_region env off size with ⟨_ | i, s₁⟩
  · rw [hr] at hm
    exact hm
  · rw [hr] at hm
    exact (hm.touch i env.now).send_page env off _ src size

/-- **Reads.** -/
theorem Keys.read (h : s.Keys) (env : CallEnv) (off size : ℕ) :
    (s.rdma_read_page env off size).2.Keys := by
  rcases hfind : s.find_remote_region off with _ | i
  · rw [read_eq_error hfind]
    exact h
  · obtain ⟨hq, hb⟩ := h.quiesced.read_kept 1 (s.remote_regions i).remote_addr size env.split
    rw [read_state hfind]
    exact (h.touch i env.now).unchanged hq hb rfl rfl (fun _ => rfl) (fun _ => rfl) fun _ => rfl

/-- **`rdma_allocate_page_offset`** returns `0` if it succeeds. -/
theorem Keys.allocate_page_offset (h : s.Keys) (env : CallEnv) (hfits : SizeFits size) :
    ((s.rdma_allocate_page_offset env size).1 = UINT64_MAX ∧
        (s.rdma_allocate_page_offset env size).2.Keys) ∨
      (s.rdma_allocate_page_offset env size).1 = 0 ∧
        (s.find_remote_region 0 = none → (s.rdma_allocate_page_offset env size).2.Keys) := by
  unfold rdma_allocate_page_offset
  rcases h.allocate_remote_region env 0 hfits with ⟨hnone, hkeys⟩ | ⟨i, hsome, hoff, -, hkeys⟩
  · rcases hr : s.allocate_remote_region env 0 size with ⟨_ | i, s₁⟩
    · rw [hr] at hkeys
      exact Or.inl ⟨rfl, hkeys⟩
    · rw [hr] at hnone
      cases hnone
  · rcases hr : s.allocate_remote_region env 0 size with ⟨_ | k, s₁⟩
    · rw [hr] at hsome
      cases hsome
    · rw [hr] at hsome hoff hkeys
      cases hsome
      exact Or.inr ⟨hoff, fun hfind => hkeys fun j _ hj => h.find_none hfind hj⟩

end RdmaStore

/-! ## Runs -/

/-- The store, and the offsets that `rdma_allocate_page_offset` returned. -/
structure KeyedStore where
  store : RdmaStore := RdmaStore.rdma_storage_init
  returned : List ℕ := []

namespace KeyedStore

open RdmaStore

/-- A call of one of the three routines. -/
inductive Call where
  | write (env : CallEnv) (virtual_offset : ℕ) (src : Bytes) (size : ℕ)
  | read (env : CallEnv) (virtual_offset size : ℕ)
  | allocate_page_offset (env : CallEnv) (size : ℕ)

/-- What a call does to the state. -/
def step : Call → KeyedStore → KeyedStore
  | .write env virtual_offset src size, k =>
      { k with store := (k.store.rdma_write_page env virtual_offset src size).2 }
  | .read env virtual_offset size, k =>
      { k with store := (k.store.rdma_read_page env virtual_offset size).2 }
  | .allocate_page_offset env size, k =>
      let (offset, store) := k.store.rdma_allocate_page_offset env size
      { store := store
        returned := if offset = UINT64_MAX then k.returned else offset :: k.returned }

/-- The state after a sequence of calls. -/
def exec (calls : List Call) : KeyedStore := Guarded.exec step calls {}

/-- The entries in use have different offsets and different addresses and lie below
`num_remote_regions`, and no offset was returned twice. -/
structure Unique (k : KeyedStore) : Prop where
  offsets : ∀ i j, (k.store.remote_regions i).in_use = true →
    (k.store.remote_regions j).in_use = true → i ≠ j →
    (k.store.remote_regions i).virtual_offset ≠ (k.store.remote_regions j).virtual_offset
  addrs : ∀ i j, (k.store.remote_regions i).in_use = true →
    (k.store.remote_regions j).in_use = true → i ≠ j →
    (k.store.remote_regions i).remote_addr ≠ (k.store.remote_regions j).remote_addr
  index : ∀ i, (k.store.remote_regions i).in_use = true → i < k.store.num_remote_regions
  returned : k.returned.Nodup

/-- No size wraps, and `rdma_allocate_page_offset` fails, or is called for the first time and
while no region has the offset `0`. -/
def Apart (k : KeyedStore) : Call → Prop
  | .write _ _ _ size => SizeFits size
  | .read _ _ _ => True
  | .allocate_page_offset env size =>
      SizeFits size ∧ ((k.store.rdma_allocate_page_offset env size).1 = UINT64_MAX ∨
        k.returned = [] ∧ k.store.find_remote_region 0 = none)

instance (k : KeyedStore) (c : Call) : Decidable (k.Apart c) :=
  match c with
  | .write _ _ _ size => inferInstanceAs (Decidable (SizeFits size))
  | .read _ _ _ => isTrue trivial
  | .allocate_page_offset env size =>
      inferInstanceAs (Decidable (SizeFits size ∧
        ((k.store.rdma_allocate_page_offset env size).1 = UINT64_MAX ∨
          k.returned = [] ∧ k.store.find_remote_region 0 = none)))

/-- What such runs keep. -/
structure Inv (k : KeyedStore) : Prop where
  keys : k.store.Keys
  returned : k.returned.Nodup

theorem Inv.unique {k : KeyedStore} (h : k.Inv) : k.Unique where
  offsets i j hi hj hne he := hne (h.keys.offsets i j hi hj he)
  addrs i j hi hj hne he := hne (h.keys.addrs i j hi hj he)
  index := h.keys.index
  returned := h.returned

theorem Inv.step {k : KeyedStore} (h : k.Inv) {c : Call} (hc : k.Apart c) : (step c k).Inv := by
  cases c with
  | write env off src size => exact ⟨h.keys.write env off src hc, h.returned⟩
  | read env off size => exact ⟨h.keys.read env off size, h.returned⟩
  | allocate_page_offset env size =>
      obtain ⟨hfits, hfirst⟩ := hc
      have hne : (0 : ℕ) ≠ UINT64_MAX := by decide
      simp only [KeyedStore.step]
      rcases h.keys.allocate_page_offset env hfits with ⟨hfail, hkeys⟩ | ⟨hzero, hkeys⟩
      · rw [if_pos hfail]
        exact ⟨hkeys, h.returned⟩
      · have hok : (k.store.rdma_allocate_page_offset env size).1 ≠ UINT64_MAX := hzero ▸ hne
        obtain ⟨hnone, hfind⟩ := hfirst.resolve_left hok
        rw [if_neg hok, hnone]
        exact ⟨hkeys hfind, List.nodup_singleton _⟩

/-- A size that wraps: the first region gets a block without bytes, and the next region begins at
the same address. -/
example :
    let k := exec [.write {} 4096 (fun _ => 1) UINT64_MAX, .write {} 8192 (fun _ => 2) PAGE_SIZE]
    (k.store.remote_regions 0).in_use = true ∧ (k.store.remote_regions 1).in_use = true ∧
      (k.store.remote_regions 0).remote_addr = (k.store.remote_regions 1).remote_addr := by
  decide +kernel

end KeyedStore

end SwapPrefetch
