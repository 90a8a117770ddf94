/-
The region table of the page store (`src/storage_rdma.c:117-193`, `333-451`).

The routines of the store look up an entry, take one for a new region, give one up and note the time
in one. This file says what each of them does to the table, whatever the table holds; the invariants
of the other files (offsets of their own, blocks of their own, addresses that came from the server)
are then about one entry that changes.

A region is looked up by a scan of the entries below `num_remote_regions`, and the first one that
serves the offset is taken. All that this needs is that no entry beyond is in use (`Indexed`).
-/
import Mathlib.Tactic
import SwapPrefetch.PointerInverse
import SwapPrefetch.RdmaAlloc
import SwapPrefetch.RdmaStore

set_option autoImplicit false

namespace SwapPrefetch

namespace RdmaStore

variable {s s' : RdmaStore} {env : CallEnv} {off size i : ℕ}

/-! ## Lookups -/

/-- The entry is in use for the offset. -/
def Serves (s : RdmaStore) (i off : ℕ) : Prop :=
  (s.remote_regions i).in_use = true ∧ (s.remote_regions i).virtual_offset = off

/-- The entries in use lie below `num_remote_regions`. -/
def Indexed (s : RdmaStore) : Prop :=
  ∀ i, (s.remote_regions i).in_use = true → i < s.num_remote_regions

/-- An entry that was found serves the offset. -/
theorem serves_of_find (hfind : s.find_remote_region off = some i) : s.Serves i off := by
  have hfound := List.find?_some hfind
  rw [decide_eq_true_eq] at hfound
  exact hfound

/-- The region of an offset is the first one that serves it. -/
theorem Indexed.find_eq_some (h : s.Indexed) :
    s.find_remote_region off = some i ↔ s.Serves i off ∧ ∀ j, j < i → ¬ s.Serves j off := by
  unfold RdmaStore.find_remote_region
  rw [List.find?_range'_eq_some, List.mem_range'_1, decide_eq_true_eq]
  constructor
  · rintro ⟨hi, -, hfirst⟩
    refine ⟨hi, fun j hj hserves => ?_⟩
    have hno := hfirst j (Nat.zero_le j) hj
    simp only [Bool.not_eq_true', decide_eq_false_iff_not] at hno
    exact hno hserves
  · rintro ⟨hi, hfirst⟩
    have hlt := h i hi.1
    refine ⟨hi, ⟨Nat.zero_le i, by omega⟩, fun j _ hj => ?_⟩
    simp only [Bool.not_eq_true', decide_eq_false_iff_not]
    exact hfirst j hj

theorem Indexed.find_eq_none (h : s.Indexed) :
    s.find_remote_region off = none ↔ ∀ i, ¬ s.Serves i off := by
  unfold RdmaStore.find_remote_region
  rw [List.find?_eq_none]
  constructor
  · intro hnone i hserves
    have hlt := h i hserves.1
    exact hnone i (by rw [List.mem_range'_1]; omega) (decide_eq_true hserves)
  · intro hnone i _ hi
    rw [decide_eq_true_eq] at hi
    exact hnone i hi

/-- Where at most one entry serves the offset, that is the one that is found. -/
theorem Indexed.find_unique (h : s.Indexed)
    (hunique : ∀ i j, s.Serves i off → s.Serves j off → i = j) :
    s.find_remote_region off = some i ↔ s.Serves i off := by
  rw [h.find_eq_some]
  constructor
  · rintro ⟨hi, -⟩
    exact hi
  · intro hi
    exact ⟨hi, fun j hj hserves => hj.ne (hunique j i hserves hi)⟩

/-! ## Entries for new regions -/

/-- The first entry that is not in use. -/
theorem free_index_spec (hi : s.free_index = some i) :
    i < MAX_REMOTE_REGIONS ∧ (s.remote_regions i).in_use = false ∧
      ∀ j, j < i → (s.remote_regions j).in_use = true := by
  unfold RdmaStore.free_index at hi
  rw [List.find?_range'_eq_some, List.mem_range'_1, decide_eq_true_eq] at hi
  obtain ⟨hunused, hmem, hfirst⟩ := hi
  refine ⟨by omega, hunused, fun j hj => ?_⟩
  have hno := hfirst j (Nat.zero_le j) hj
  simpa using hno

theorem free_index_eq_none :
    s.free_index = none ↔ ∀ i, i < MAX_REMOTE_REGIONS → (s.remote_regions i).in_use = true := by
  unfold RdmaStore.free_index
  rw [List.find?_eq_none]
  constructor
  · intro hnone i hi
    have hno := hnone i (by rw [List.mem_range'_1]; omega)
    simpa using hno
  · intro hall i hi
    rw [List.mem_range'_1] at hi
    simp [hall i (by omega)]

/-- A turn of the search for the oldest entry. -/
theorem older_cases (s : RdmaStore) (oldest : ℕ × Option ℕ) (i : ℕ) :
    s.older oldest i = oldest ∨
      (s.remote_regions i).in_use = true ∧ (s.older oldest i).2 = some i := by
  unfold older
  split
  case isTrue hold => exact Or.inr ⟨hold.1, rfl⟩
  case isFalse => exact Or.inl rfl

/-- The entry that is recycled is in use. -/
theorem oldest_index_used (hi : s.oldest_index = some i) : (s.remote_regions i).in_use = true := by
  have hfold : ∀ (l : List ℕ) (oldest : ℕ × Option ℕ),
      (∀ i, oldest.2 = some i → (s.remote_regions i).in_use = true) →
      ∀ i, (l.foldl s.older oldest).2 = some i → (s.remote_regions i).in_use = true := by
    intro l
    induction l with
    | nil => exact fun _ ho => ho
    | cons j l ih =>
        intro oldest ho
        refine ih (s.older oldest j) fun i hi => ?_
        rcases s.older_cases oldest j with he | ⟨hused, he⟩
        · rw [he] at hi
          exact ho i hi
        · rw [he] at hi
          rw [← Option.some.inj hi]
          exact hused
  exact hfold _ _ (fun i hi => by cases hi) i hi

/-- The entry for a new region is one of the table. -/
theorem Indexed.entry_lt (h : s.Indexed) (hbound : s.num_remote_regions ≤ MAX_REMOTE_REGIONS)
    (hi : s.free_index.or s.oldest_index = some i) : i < MAX_REMOTE_REGIONS := by
  rcases Option.or_eq_some_iff.1 hi with hfree | ⟨-, hold⟩
  · exact (free_index_spec hfree).1
  · exact lt_of_lt_of_le (h i (oldest_index_used hold)) hbound

/-! ## Releases in the library -/

/-- The table and the translator are as they were. -/
structure SameTable (s s' : RdmaStore) : Prop where
  regions : s'.remote_regions = s.remote_regions
  num : s'.num_remote_regions = s.num_remote_regions
  translator : s'.translator = s.translator

theorem SameTable.find (h : SameTable s s') :
    s'.find_remote_region off = s.find_remote_region off := by
  unfold RdmaStore.find_remote_region
  rw [h.num, h.regions]

theorem library_free_sameTable (s : RdmaStore) (remote_addr : ℕ) :
    SameTable s (s.library_free remote_addr) := by
  unfold RdmaStore.library_free
  split
  · exact ⟨rfl, rfl, rfl⟩
  · exact ⟨rfl, rfl, rfl⟩

theorem library_free_rdma (s : RdmaStore) (addr : ℕ) : (s.library_free addr).rdma = s.rdma := by
  unfold RdmaStore.library_free
  split
  · rfl
  · rfl

/-- The library has no blocks to release. -/
theorem library_free_eq (h : s.sim_remote_memory_blocks = []) (remote_addr : ℕ) :
    s.library_free remote_addr =
      { s with
        freed := { remote_addr := remote_addr, obtained := s.obtained.contains remote_addr
                   server := s.rdma.blocks } :: s.freed } := by
  have hfail : rdma_sim_free remote_addr s.sim_remote_memory_blocks = .error .EINVAL := by
    rw [h]
    rfl
  simp only [RdmaStore.library_free, hfail]

/-- The entry that `claim_index` yields, and the state that it leaves. -/
theorem claim_index_cases (s : RdmaStore) :
    (s.claim_index = none ∧ s.free_index.or s.oldest_index = none) ∨
      ∃ i s₁, s.claim_index = some (i, s₁) ∧ s.free_index.or s.oldest_index = some i ∧
        (s₁ = s ∨ s₁ = s.library_free (s.remote_regions i).remote_addr) := by
  unfold RdmaStore.claim_index
  rcases hfree : s.free_index with _ | i
  · rcases hold : s.oldest_index with _ | i
    · exact Or.inl ⟨rfl, rfl⟩
    · exact Or.inr ⟨i, _, rfl, rfl, Or.inr rfl⟩
  · exact Or.inr ⟨i, s, rfl, rfl, Or.inl rfl⟩

theorem claim_index_none (hclaim : s.claim_index = none) :
    s.free_index.or s.oldest_index = none := by
  rcases s.claim_index_cases with ⟨-, hnone⟩ | ⟨i, s₁, hsome, -, -⟩
  · exact hnone
  · rw [hclaim] at hsome
    cases hsome

theorem claim_index_some {s₁ : RdmaStore} (hclaim : s.claim_index = some (i, s₁)) :
    s.free_index.or s.oldest_index = some i ∧ SameTable s s₁ ∧ s₁.rdma = s.rdma := by
  rcases s.claim_index_cases with ⟨hnone, -⟩ | ⟨k, s₂, hsome, hindex, hs₂⟩
  · rw [hclaim] at hnone
    cases hnone
  · rw [hclaim] at hsome
    cases hsome
    refine ⟨hindex, ?_⟩
    rcases hs₂ with rfl | rfl
    · exact ⟨⟨rfl, rfl, rfl⟩, rfl⟩
    · exact ⟨s.library_free_sameTable _, s.library_free_rdma _⟩

/-- With an empty list in the library, only the log of releases differs. -/
theorem claim_index_freed (h : s.sim_remote_memory_blocks = []) {s₁ : RdmaStore}
    (hclaim : s.claim_index = some (i, s₁)) : ∃ freed, s₁ = { s with freed := freed } := by
  rcases s.claim_index_cases with ⟨hnone, -⟩ | ⟨k, s₂, hsome, -, hs₂⟩
  · rw [hclaim] at hnone
    cases hnone
  · rw [hclaim] at hsome
    cases hsome
    rcases hs₂ with rfl | rfl
    · exact ⟨s₁.freed, rfl⟩
    · exact ⟨_, library_free_eq h _⟩

/-! ## One entry changes -/

/-- The state with a new region in the entry `i`. -/
def place (s : RdmaStore) (i : ℕ) (region : RemoteRegion) : RdmaStore :=
  { s.setRegion i region with
    num_remote_regions := max s.num_remote_regions (i + 1)
    obtained := region.remote_addr :: s.obtained }

theorem place_self (s : RdmaStore) (i : ℕ) (region : RemoteRegion) :
    (s.place i region).remote_regions i = region :=
  Function.update_self ..

theorem place_ne (s : RdmaStore) {i j : ℕ} (region : RemoteRegion) (hj : j ≠ i) :
    (s.place i region).remote_regions j = s.remote_regions j :=
  Function.update_of_ne hj ..

/-- The state with another time for an entry. -/
def touch (s : RdmaStore) (i now : ℕ) : RdmaStore :=
  s.setRegion i { s.remote_regions i with last_access := now }

/-- Only the time of the entry changes. -/
theorem touch_field {β : Type} (f : RemoteRegion → β) {now : ℕ}
    (hf : ∀ r : RemoteRegion, f { r with last_access := now } = f r) (s : RdmaStore) (i j : ℕ) :
    f ((s.touch i now).remote_regions j) = f (s.remote_regions j) := by
  show f (Function.update s.remote_regions i _ j) = _
  by_cases hj : j = i
  · rw [hj, Function.update_self, hf]
  · rw [Function.update_of_ne hj]

theorem touch_used (s : RdmaStore) (i now j : ℕ) :
    ((s.touch i now).remote_regions j).in_use = (s.remote_regions j).in_use :=
  touch_field RemoteRegion.in_use (fun _ => rfl) s i j

theorem touch_offset (s : RdmaStore) (i now j : ℕ) :
    ((s.touch i now).remote_regions j).virtual_offset = (s.remote_regions j).virtual_offset :=
  touch_field RemoteRegion.virtual_offset (fun _ => rfl) s i j

theorem touch_addr (s : RdmaStore) (i now j : ℕ) :
    ((s.touch i now).remote_regions j).remote_addr = (s.remote_regions j).remote_addr :=
  touch_field RemoteRegion.remote_addr (fun _ => rfl) s i j

/-- The state after a region was given up. -/
def given_up (s : RdmaStore) (i : ℕ) : RdmaStore :=
  (s.library_free (s.remote_regions i).remote_addr).setRegion i
    { s.remote_regions i with in_use := false }

theorem given_up_regions (s : RdmaStore) (i : ℕ) : (s.given_up i).remote_regions =
    Function.update s.remote_regions i { s.remote_regions i with in_use := false } := by
  show Function.update (s.library_free _).remote_regions i _ = _
  rw [(s.library_free_sameTable _).regions]

theorem given_up_num (s : RdmaStore) (i : ℕ) :
    (s.given_up i).num_remote_regions = s.num_remote_regions :=
  (s.library_free_sameTable _).num

/-- The entries in use afterwards are others, and as they were. -/
theorem given_up_used {j : ℕ} (hj : ((s.given_up i).remote_regions j).in_use = true) :
    j ≠ i ∧ (s.given_up i).remote_regions j = s.remote_regions j := by
  rw [given_up_regions] at hj ⊢
  by_cases hji : j = i
  · rw [hji, Function.update_self] at hj
    cases hj
  · exact ⟨hji, Function.update_of_ne hji _ _⟩

theorem given_up_unused (s : RdmaStore) (i : ℕ) :
    ((s.given_up i).remote_regions i).in_use = false := by
  rw [given_up_regions, Function.update_self]

/-- The entry of a region that is given up is the first free one, or comes after it. -/
theorem free_index_given_up (s : RdmaStore) (hi : i < MAX_REMOTE_REGIONS) :
    ∃ k, (s.given_up i).free_index = some k ∧ k ≤ i := by
  have hunused := s.given_up_unused i
  rcases hfree : (s.given_up i).free_index with _ | k
  · rw [free_index_eq_none.1 hfree i hi] at hunused
    cases hunused
  · refine ⟨k, rfl, ?_⟩
    by_contra hk
    rw [(free_index_spec hfree).2.2 i (not_le.1 hk)] at hunused
    cases hunused

/-! ## New regions -/

/-- The region that `allocate_remote_region` makes. -/
def new_region (env : CallEnv) (off size addr : ℕ) : RemoteRegion :=
  { virtual_offset := off, remote_addr := addr, size := size, in_use := true
    last_access := env.now }

theorem allocate_eq_none (hclaim : s.claim_index = some (i, s'))
    (hr : (s'.rdma.round_trip .ALLOCATE 0 0 size none env.split).1 = none) :
    s.allocate_remote_region env off size =
      (none, { s' with rdma := (s'.rdma.round_trip .ALLOCATE 0 0 size none env.split).2 }) := by
  simp only [RdmaStore.allocate_remote_region, hclaim, hr]

theorem allocate_eq_some {id k addr : ℕ} {placed : Option Placed}
    (hclaim : s.claim_index = some (i, s'))
    (hr : (s'.rdma.round_trip .ALLOCATE 0 0 size none env.split).1 = some (id, placed))
    (hfind : (s'.rdma.round_trip .ALLOCATE 0 0 size none env.split).2.find_address id = some k)
    (haddr : ((s'.rdma.round_trip .ALLOCATE 0 0 size none env.split).2.requests k).remote_addr =
      addr) (h0 : addr ≠ 0) :
    s.allocate_remote_region env off size =
      (some i, ({ s' with
        rdma := (s'.rdma.round_trip .ALLOCATE 0 0 size none env.split).2 } : RdmaStore).place i
          (new_region env off size addr)) := by
  simp only [RdmaStore.allocate_remote_region, hclaim, hr, hfind, haddr, if_neg h0]
  rfl

theorem allocate_unclaimed (hclaim : s.claim_index = none) :
    s.allocate_remote_region env off size = (none, s) := by
  simp only [RdmaStore.allocate_remote_region, hclaim]

/-- **`allocate_remote_region`**, whatever the channel does: it fails and leaves the table alone,
or places a new region. -/
theorem allocate_cases (env : CallEnv) (off size : ℕ) (s : RdmaStore) :
    s.allocate_remote_region env off size = (none, s) ∨
      ∃ i s₁ rdma, s.claim_index = some (i, s₁) ∧
        (s.allocate_remote_region env off size = (none, { s₁ with rdma := rdma }) ∨
          ∃ addr, s.allocate_remote_region env off size =
            (some i, ({ s₁ with rdma := rdma } : RdmaStore).place i
              (new_region env off size addr))) := by
  rcases hclaim : s.claim_index with _ | ⟨i, s₁⟩
  · exact Or.inl (allocate_unclaimed hclaim)
  · refine Or.inr ⟨i, s₁, (s₁.rdma.round_trip .ALLOCATE 0 0 size none env.split).2, rfl, ?_⟩
    rcases hret : (s₁.rdma.round_trip .ALLOCATE 0 0 size none env.split).1 with _ | ⟨id, placed⟩
    · exact Or.inl (allocate_eq_none hclaim hret)
    · rcases hfind : (s₁.rdma.round_trip .ALLOCATE 0 0 size none env.split).2.find_address id
        with _ | k
      · left
        simp only [RdmaStore.allocate_remote_region, hclaim, hret, hfind, if_true]
      · obtain ⟨addr, haddr⟩ : ∃ addr, ((s₁.rdma.round_trip .ALLOCATE 0 0 size none
            env.split).2.requests k).remote_addr = addr := ⟨_, rfl⟩
        by_cases h0 : addr = 0
        · left
          simp only [RdmaStore.allocate_remote_region, hclaim, hret, hfind, haddr, h0, if_true]
        · exact Or.inr ⟨addr, allocate_eq_some hclaim hret hfind haddr h0⟩

/-- A new region has the size that was asked for. -/
theorem allocate_size (hi : (s.allocate_remote_region env off size).1 = some i) :
    ((s.allocate_remote_region env off size).2.remote_regions i).size = size := by
  rcases s.allocate_cases env off size with hr | ⟨k, s₁, rdma, -, hr | ⟨addr, hr⟩⟩
  · rw [hr] at hi
    cases hi
  · rw [hr] at hi
    cases hi
  · rw [hr] at hi ⊢
    cases hi
    rw [place_self]
    rfl

/-- **`allocate_remote_region`** between calls: the server has no block for the region, or the
region gets the block that the server allocated. -/
theorem allocate_claimed {s₁ : RdmaStore} (hclaim : s.claim_index = some (i, s₁))
    (hq : s₁.rdma.Quiesced) (hin : ∀ b ∈ s₁.rdma.blocks, b.InRemote) (env : CallEnv)
    (off size : ℕ) :
    (∃ e rdma, rdma_sim_allocate env.split size s₁.rdma.blocks = .error e ∧ rdma.Quiesced ∧
        rdma.blocks = s₁.rdma.blocks ∧ rdma.memory = s₁.rdma.memory ∧
        s.allocate_remote_region env off size = (none, { s₁ with rdma := rdma })) ∨
      ∃ addr rdma, rdma_sim_allocate env.split size s₁.rdma.blocks = .ok (addr, rdma.blocks) ∧
        rdma.Quiesced ∧ rdma.memory = s₁.rdma.memory ∧
        s.allocate_remote_region env off size =
          (some i, ({ s₁ with rdma := rdma } : RdmaStore).place i
            (new_region env off size addr)) := by
  rcases hq.allocate size env.split with ⟨e, he, hf⟩ | ⟨addr, blocks, answer, ha, haddr, hc⟩
  · exact Or.inl ⟨e, _, he, hf.quiesced, hf.blocks, hf.memory, allocate_eq_none hclaim hf.returned⟩
  · have h0 : addr ≠ 0 := by
      have hlo := (allocate_walk_inRemote hin (rdma_sim_allocate_eq_ok ha)).1.1
      simp only [SIM_REMOTE_MEMORY_BASE] at hlo
      omega
    obtain ⟨placed, hret⟩ := hc.returned
    have hslot : ((s₁.rdma.round_trip .ALLOCATE 0 0 size none env.split).2.requests
        s₁.rdma.tail).remote_addr = addr := by
      rw [hc.slot]
      exact haddr
    refine Or.inr ⟨addr, _, ?_, hc.quiesced, hc.memory,
      allocate_eq_some hclaim hret hc.address hslot h0⟩
    rw [hc.blocks]
    exact ha

/-! ## The region of a write -/

theorem write_region_found (hfind : s.find_remote_region off = some i)
    (hsize : (s.remote_regions i).size = size) : s.write_region env off size = (some i, s) := by
  simp only [RdmaStore.write_region, hfind, hsize, if_true]

theorem write_region_resized (hfind : s.find_remote_region off = some i)
    (hsize : (s.remote_regions i).size ≠ size) :
    s.write_region env off size = (s.given_up i).allocate_remote_region env off size := by
  simp only [RdmaStore.write_region, hfind, if_neg hsize]
  rfl

theorem write_region_new (hfind : s.find_remote_region off = none) :
    s.write_region env off size = s.allocate_remote_region env off size := by
  simp only [RdmaStore.write_region, hfind]
  rcases hr : s.allocate_remote_region env off size with ⟨_ | i, s₁⟩
  · rfl
  · -- the new region has the right size
    have hsize : (s₁.remote_regions i).size = size := by
      have hnew := allocate_size (s := s) (i := i) (congrArg Prod.fst hr)
      rw [hr] at hnew
      exact hnew
    simp only [hsize, if_true]

/-! ## Sending and reading -/

/-- The bytes that are sent for a page. -/
def encoded (t : Translator) (off : ℕ) (src : Bytes) (size : ℕ) : Bytes :=
  if size = PAGE_SIZE then (converted (convert_pointers_for_remote_storage t src.page off)).bytes
  else src

/-- The translator after the region of a page was registered. -/
def registered (env : CallEnv) (off size addr : ℕ) (t : Translator) : Translator :=
  if size = PAGE_SIZE then Translator.step (.register env.node off size addr) t else t

theorem register_eq (s : RdmaStore) (env : CallEnv) (off size addr : ℕ) :
    (if size = PAGE_SIZE then s.register env off size addr else s) =
      { s with translator := registered env off size addr s.translator } := by
  unfold registered
  split
  · rcases hr : register_address_region env.node off size addr s.translator with e | t
    · simp only [RdmaStore.register, Translator.step, hr]
    · simp only [RdmaStore.register, Translator.step, hr]
  · rfl

/-- **`send_page`** changes the translator, the channel and the log. -/
theorem send_page_eq (s : RdmaStore) (env : CallEnv) (off addr : ℕ) (src : Bytes) (size : ℕ) :
    ∃ written, (s.send_page env off addr src size).2 =
      { s with
        translator := registered env off size addr s.translator
        rdma := (s.rdma.round_trip .WRITE 1 addr size (some
          (encoded (registered env off size addr s.translator) off src size)) env.split).2
        written := written } := by
  unfold RdmaStore.send_page
  simp only [register_eq]
  rw [← encoded]
  split
  · exact ⟨s.written, rfl⟩
  · exact ⟨_, rfl⟩

/-- A read of an offset without a region fails. -/
theorem read_eq_error (hfind : s.find_remote_region off = none) (size : ℕ) :
    s.rdma_read_page env off size = (.error (some .EFAULT), s) := by
  simp only [rdma_read_page, hfind]

/-- **`rdma_read_page`** notes the time and changes the channel. -/
theorem read_state (hfind : s.find_remote_region off = some i) (env : CallEnv) (size : ℕ) :
    (s.rdma_read_page env off size).2 =
      { s.touch i env.now with
        rdma := (s.rdma.round_trip .READ 1 (s.remote_regions i).remote_addr size none
          env.split).2 } := by
  unfold rdma_read_page
  simp only [hfind]
  split
  · rfl
  · split
    · rfl
    · rfl

end RdmaStore

end SwapPrefetch
