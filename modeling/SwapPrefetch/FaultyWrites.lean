/-
The calls of the page store when requests fail (`src/storage_rdma.c:126-193`, `388-472`).

`rdma_write_page` can fail at six places: no entry of a full table can be recycled, the request
for a block is not accepted or not answered in time, the buffer for the converted page cannot be
allocated, or one of the two happens to the request that carries the page. The calls of
`SwapPrefetch.RdmaStore` are restated with these faults (`WriteFaults`); without any they are those
calls (`try_write_page_prompt`). A request whose wait has given up is still served.

What such a call does to the table does not depend on the bytes of the server: `choice` is the
entry that is written to and the table with it, and `Tried` says what the call adds to that.
`Paged` holds in every run, also when `rdma_allocate_page_offset` has made several regions for one
offset, or the rounding of a size has wrapped to `0`.
-/
import Mathlib.Tactic
import SwapPrefetch.RegionMirror

set_option autoImplicit false

namespace SwapPrefetch

/-! ## Requests that fail -/

/-- How a request ends for its client: it is served and waited for, its submit returns `0`, or it
is served after its wait has given up. -/
inductive Delivery where
  | prompt
  | refused
  | late
deriving DecidableEq, Repr

/-- What can fail in a call of `rdma_write_page`. -/
structure WriteFaults where
  /-- the request for a block -/
  allocate : Delivery := .prompt
  /-- the buffer for the converted page can be allocated -/
  malloc : Bool := true
  /-- the request that carries the page -/
  write : Delivery := .prompt

namespace Rdma

/-- `round_trip` with a fault. -/
def deliver (d : Delivery) (op_type : RdmaOp) (local_addr remote_addr size : ℕ)
    (data : Option Bytes) (split : Bool) (s : Rdma) : Option (ℕ × Option Placed) × Rdma :=
  match d with
  | .prompt => s.round_trip op_type local_addr remote_addr size data split
  | .refused => (none, s)
  | .late => (none, (s.round_trip op_type local_addr remote_addr size data split).2)

/-- The request of a page reaches the memory of the server. -/
def Stores (d : Delivery) (size : ℕ) : Prop :=
  d ≠ .refused ∧ 0 < size ∧ size ≤ RDMA_PAGE_BUFFER_SIZE

instance (d : Delivery) (size : ℕ) : Decidable (Stores d size) :=
  inferInstanceAs (Decidable (d ≠ .refused ∧ 0 < size ∧ size ≤ RDMA_PAGE_BUFFER_SIZE))

variable {s : Rdma}

/-- The address that a request for a block brings back. -/
def granted (d : Delivery) (split : Bool) (size : ℕ) (blocks : List MemBlock) : Option ℕ :=
  match d, rdma_sim_allocate split size blocks with
  | .prompt, .ok (addr, _) => some addr
  | _, _ => none

/-- Steps of the server's allocator. -/
def Allocated (blocks blocks' : List MemBlock) : Prop :=
  blocks' = blocks ∨ ∃ split size addr, rdma_sim_allocate split size blocks = .ok (addr, blocks')

/-- **Requests for a block.** -/
theorem Quiesced.deliver_allocate (h : s.Quiesced) (d : Delivery) (size : ℕ) (split : Bool) :
    let r := s.deliver d .ALLOCATE 0 0 size none split
    r.2.Quiesced ∧ r.2.memory = s.memory ∧ Allocated s.blocks r.2.blocks ∧
      (granted d split size s.blocks = none ∧ r.1 = none ∨
        ∃ id placed addr k, granted d split size s.blocks = some addr ∧ r.1 = some (id, placed) ∧
          r.2.find_address id = some k ∧ (r.2.requests k).remote_addr = addr) := by
  intro r
  rcases h.allocate size split with ⟨e, he, hf⟩ | ⟨addr, blocks, answer, ha, haddr, hc⟩
  · have hnone : granted d split size s.blocks = none := by
      cases d <;> simp only [granted, he]
    cases d with
    | prompt => exact ⟨hf.quiesced, hf.memory, Or.inl hf.blocks, Or.inl ⟨hnone, hf.returned⟩⟩
    | refused => exact ⟨h, rfl, Or.inl rfl, Or.inl ⟨hnone, rfl⟩⟩
    | late => exact ⟨hf.quiesced, hf.memory, Or.inl hf.blocks, Or.inl ⟨hnone, rfl⟩⟩
  · have hblocks : Allocated s.blocks (s.round_trip .ALLOCATE 0 0 size none split).2.blocks := by
      rw [hc.blocks]
      exact Or.inr ⟨split, size, addr, ha⟩
    cases d with
    | prompt =>
        obtain ⟨placed, hret⟩ := hc.returned
        refine ⟨hc.quiesced, hc.memory, hblocks, Or.inr ⟨_, placed, addr, _, ?_, hret, hc.address, ?_⟩⟩
        · simp only [granted, ha]
        · show ((s.round_trip .ALLOCATE 0 0 size none split).2.requests s.tail).remote_addr = addr
          rw [hc.slot]
          exact haddr
    | refused => exact ⟨h, rfl, Or.inl rfl, Or.inl ⟨rfl, rfl⟩⟩
    | late => exact ⟨hc.quiesced, hc.memory, hblocks, Or.inl ⟨rfl, rfl⟩⟩

/-- **Requests that carry a page.** -/
theorem Quiesced.deliver_write (h : s.Quiesced) (d : Delivery) {remote_addr offset : ℕ} (size : ℕ)
    (data : Bytes) (split : Bool) (haddr : remote_addr = SIM_REMOTE_MEMORY_BASE + offset)
    (hin : offset + PAGE_SIZE ≤ SIM_REMOTE_MEMORY_SIZE) :
    let r := s.deliver d .WRITE 1 remote_addr size (some data) split
    r.2.Quiesced ∧ r.2.blocks = s.blocks ∧
      r.2.memory = (if Stores d size then memcpy s.memory offset data size else s.memory) ∧
      (r.1 ≠ none ↔ d = .prompt ∧ 0 < size ∧ size ≤ RDMA_PAGE_BUFFER_SIZE) := by
  intro r
  by_cases hsize : 0 < size ∧ size ≤ RDMA_PAGE_BUFFER_SIZE
  · obtain ⟨answer, hc⟩ := h.write 1 data split haddr
      (le_trans (Nat.add_le_add_left hsize.2 _) hin) hsize.1 hsize.2
    cases d with
    | prompt =>
        obtain ⟨placed, hret⟩ := hc.returned
        refine ⟨hc.quiesced, hc.blocks, ?_, ?_⟩
        · rw [if_pos ⟨Delivery.noConfusion, hsize⟩]
          exact hc.memory
        · refine iff_of_true ?_ ⟨rfl, hsize⟩
          show (s.round_trip .WRITE 1 remote_addr size (some data) split).1 ≠ none
          rw [hret]
          exact Option.some_ne_none _
    | refused =>
        refine ⟨h, rfl, ?_, iff_of_false (fun hn => hn rfl) fun hd => Delivery.noConfusion hd.1⟩
        rw [if_neg fun hs => hs.1 rfl]
        rfl
    | late =>
        refine ⟨hc.quiesced, hc.blocks, ?_,
          iff_of_false (fun hn => hn rfl) fun hd => Delivery.noConfusion hd.1⟩
        rw [if_pos ⟨Delivery.noConfusion, hsize⟩]
        exact hc.memory
  · have hf := h.write_refused 1 remote_addr data split hsize
    rw [if_neg fun hs => hsize hs.2]
    cases d with
    | prompt =>
        exact ⟨hf.quiesced, hf.blocks, hf.memory,
          iff_of_false (fun hn => hn hf.returned) fun hd => hsize hd.2⟩
    | refused => exact ⟨h, rfl, rfl, iff_of_false (fun hn => hn rfl) fun hd => hsize hd.2⟩
    | late =>
        exact ⟨hf.quiesced, hf.blocks, hf.memory,
          iff_of_false (fun hn => hn rfl) fun hd => hsize hd.2⟩

end Rdma

/-! ## Blocks with room for a page -/

/-- Every block lies in the memory. The free ones have room for a page. -/
def Spacious (blocks : List MemBlock) : Prop :=
  ∀ b ∈ blocks, b.InRemote ∧ PAGE_SIZE ∣ b.size ∧ (b.free = true → 0 < b.size)

/-- A page of the memory begins at the address. -/
def PageAt (addr : ℕ) : Prop :=
  SIM_REMOTE_MEMORY_BASE ≤ addr ∧ addr + PAGE_SIZE ≤ SIM_REMOTE_MEMORY_BASE + SIM_REMOTE_MEMORY_SIZE

theorem PageAt.offset {addr : ℕ} (h : PageAt addr) :
    addr = SIM_REMOTE_MEMORY_BASE + (addr - SIM_REMOTE_MEMORY_BASE) ∧
      addr - SIM_REMOTE_MEMORY_BASE + PAGE_SIZE ≤ SIM_REMOTE_MEMORY_SIZE := by
  obtain ⟨hlow, hhigh⟩ := h
  omega

theorem spacious_start : Spacious init_sim_remote_memory_allocator :=
  List.forall_mem_singleton.2 ⟨⟨le_rfl, le_rfl⟩, by decide, fun _ => by decide⟩

/-- **Allocations** take a block that had room for a page, even if the size wraps to `0`. -/
theorem Spacious.walk {split : Bool} {size addr : ℕ} {blocks blocks' : List MemBlock}
    (h : Spacious blocks) (hsize : PAGE_SIZE ∣ size)
    (ha : allocate_walk split size blocks = some (addr, blocks')) : PageAt addr ∧ Spacious blocks' := by
  induction blocks generalizing blocks' with
  | nil => cases ha
  | cons current rest ih =>
      obtain ⟨hc, hrest⟩ := List.forall_mem_cons.1 h
      rw [allocate_walk] at ha
      split at ha
      case isTrue hfit =>
        obtain ⟨rfl, rfl⟩ := Prod.mk.inj (Option.some.inj ha)
        obtain ⟨⟨hlow, hhigh⟩, hdvd, hpos⟩ := hc
        have hroom := Nat.le_of_dvd (hpos hfit.1) hdvd
        refine ⟨⟨hlow, by omega⟩, List.forall_mem_cons.2 ⟨⟨⟨hlow, ?_⟩, hsize, ?_⟩, ?_⟩⟩
        · exact le_trans (Nat.add_le_add_left hfit.2 _) hhigh
        · exact fun hf => absurd hf Bool.false_ne_true
        · split
          case isTrue hsplit =>
            refine List.forall_mem_cons.2 ⟨⟨⟨?_, ?_⟩, Nat.dvd_sub hdvd hsize, fun _ => ?_⟩, hrest⟩
            · exact le_trans hlow (Nat.le_add_right _ _)
            · simp only
              omega
            · simp only
              omega
          case isFalse => exact hrest
      case isFalse =>
        obtain ⟨r, hr, he⟩ := Option.map_eq_some_iff.1 ha
        obtain ⟨rfl, rfl⟩ := Prod.mk.inj he
        obtain ⟨hpage, hrest'⟩ := ih hrest hr
        exact ⟨hpage, List.forall_mem_cons.2 ⟨hc, hrest'⟩⟩

theorem Spacious.allocate {split : Bool} {size addr : ℕ} {blocks blocks' : List MemBlock}
    (h : Spacious blocks) (ha : rdma_sim_allocate split size blocks = .ok (addr, blocks')) :
    PageAt addr ∧ Spacious blocks' :=
  h.walk (Dvd.intro_left _ rfl) (rdma_sim_allocate_eq_ok ha)

theorem Spacious.allocated {blocks blocks' : List MemBlock} (h : Spacious blocks)
    (ha : Rdma.Allocated blocks blocks') : Spacious blocks' := by
  rcases ha with rfl | ⟨split, size, addr, ha⟩
  · exact h
  · exact (h.allocate ha).2

theorem Spacious.granted {d : Delivery} {split : Bool} {size addr : ℕ} {blocks : List MemBlock}
    (h : Spacious blocks) (hg : Rdma.granted d split size blocks = some addr) : PageAt addr := by
  cases d with
  | prompt =>
      rcases ha : rdma_sim_allocate split size blocks with e | ⟨addr', blocks'⟩
      · simp only [Rdma.granted, ha] at hg
        cases hg
      · simp only [Rdma.granted, ha] at hg
        cases hg
        exact (h.allocate ha).1
  | refused => cases hg
  | late => cases hg

namespace RdmaStore

variable {s s' : RdmaStore} {env : CallEnv} {off size : ℕ}

/-! ## Calls with faults -/

/-- `allocate_remote_region` with a fault. -/
def try_allocate_remote_region (d : Delivery) (env : CallEnv) (key_virtual_offset size : ℕ)
    (s : RdmaStore) : Option ℕ × RdmaStore :=
  match s.claim_index with
  | none => (none, s)
  | some (index, s) =>
      let r := s.rdma.deliver d .ALLOCATE 0 0 size none env.split
      let s := { s with rdma := r.2 }
      match r.1 with
      | none => (none, s)
      | some (req_id, _) =>
          let remote_addr :=
            match s.rdma.find_address req_id with
            | some i => (s.rdma.requests i).remote_addr
            | none => 0
          if remote_addr = 0 then (none, s)
          else
            let s := s.setRegion index
              { virtual_offset := key_virtual_offset, remote_addr := remote_addr, size := size
                in_use := true, last_access := env.now }
            (some index,
              { s with
                num_remote_regions := max s.num_remote_regions (index + 1)
                obtained := remote_addr :: s.obtained })

/-- `write_region` with a fault. At most one request for a block is made: a region that was just
made has the size that was asked for. -/
def try_write_region (d : Delivery) (env : CallEnv) (virtual_offset size : ℕ) (s : RdmaStore) :
    Option ℕ × RdmaStore :=
  let r :=
    match s.find_remote_region virtual_offset with
    | some i => (some i, s)
    | none => s.try_allocate_remote_region d env virtual_offset size
  match r with
  | (none, s) => (none, s)
  | (some i, s) =>
      let region := s.remote_regions i
      if region.size = size then (some i, s)
      else
        let s := s.library_free region.remote_addr
        let s := s.setRegion i { region with in_use := false }
        s.try_allocate_remote_region d env virtual_offset size

/-- `send_page` with a fault. -/
def try_send_page (d : Delivery) (env : CallEnv) (virtual_offset remote_addr : ℕ) (src : Bytes)
    (size : ℕ) (s : RdmaStore) : Except (Option Errno) Unit × RdmaStore :=
  let s := if size = PAGE_SIZE then s.register env virtual_offset size remote_addr else s
  let data :=
    if size = PAGE_SIZE then
      (converted (convert_pointers_for_remote_storage s.translator src.page virtual_offset)).bytes
    else src
  let r := s.rdma.deliver d .WRITE 1 remote_addr size (some data) env.split
  let s := { s with rdma := r.2 }
  match r.1 with
  | none => (.error none, s)
  | some _ =>
      (.ok (),
        { s with
          written := { virtual_offset := virtual_offset, page := src.page
                       translator := s.translator } :: s.written })

/-- `rdma_write_page` (`src/storage_rdma.c:388`) with faults. -/
def try_write_page (f : WriteFaults) (env : CallEnv) (virtual_offset : ℕ) (src : Bytes) (size : ℕ)
    (s : RdmaStore) : Except (Option Errno) Unit × RdmaStore :=
  match s.try_write_region f.allocate env virtual_offset size with
  | (none, s) => (.error (some .ENOMEM), s)
  | (some i, s) =>
      let region := { s.remote_regions i with last_access := env.now }
      let s := s.setRegion i region
      if f.malloc = false then (.error (some .ENOMEM), s)
      else s.try_send_page f.write env virtual_offset region.remote_addr src size

/-- **Without faults** this is the call of `SwapPrefetch.RdmaStore`. -/
theorem try_write_page_prompt (env : CallEnv) (off : ℕ) (src : Bytes) (size : ℕ) (s : RdmaStore) :
    s.try_write_page {} env off src size = s.rdma_write_page env off src size := rfl

/-! ## The region of an offset -/

/-- The block of an offset. -/
def block (s : RdmaStore) (off : ℕ) : Option ℕ :=
  (s.find_remote_region off).map fun i => (s.remote_regions i).remote_addr

/-- What holds in every run: the entries in use lie below `num_remote_regions`, and a page of the
server's memory begins at the address of each. -/
structure Paged (s : RdmaStore) : Prop where
  quiesced : s.rdma.Quiesced
  spacious : Spacious s.rdma.blocks
  bound : s.num_remote_regions ≤ MAX_REMOTE_REGIONS
  index : ∀ i, (s.remote_regions i).in_use = true → i < s.num_remote_regions
  page : ∀ i, (s.remote_regions i).in_use = true → PageAt (s.remote_regions i).remote_addr

theorem Paged.indexed (h : s.Paged) : s.Indexed := h.index

theorem Paged.block_page (h : s.Paged) {addr : ℕ} (hb : s.block off = some addr) : PageAt addr := by
  obtain ⟨i, hi, rfl⟩ := Option.map_eq_some_iff.1 hb
  exact h.page i (h.indexed.find_eq_some.1 hi).1.1

/-! ## The choice of a region -/

/-- The entry and the block of a new region. -/
def obtains (d : Delivery) (env : CallEnv) (size : ℕ) (s : RdmaStore) : Option (ℕ × ℕ) :=
  match s.free_index.or s.oldest_index, Rdma.granted d env.split size s.rdma.blocks with
  | some i, some addr => some (i, addr)
  | _, _ => none

/-- The table with a new region. -/
def filled (env : CallEnv) (off size : ℕ) (s : RdmaStore) : Option (ℕ × ℕ) → RdmaStore
  | none => s
  | some (i, addr) =>
      s.place i { virtual_offset := off, remote_addr := addr, size := size, in_use := true
                  last_access := env.now }

/-- What `allocate_remote_region` does to the table. -/
def renewed (d : Delivery) (env : CallEnv) (off size : ℕ) (s : RdmaStore) : Option ℕ × RdmaStore :=
  ((s.obtains d env size).map Prod.fst, s.filled env off size (s.obtains d env size))

/-- What `write_region` does to the table. -/
def choice (d : Delivery) (env : CallEnv) (off size : ℕ) (s : RdmaStore) : Option ℕ × RdmaStore :=
  match s.find_remote_region off with
  | none => s.renewed d env off size
  | some i =>
      if (s.remote_regions i).size = size then (some i, s)
      else (s.given_up i).renewed d env off size

variable {d : Delivery}

theorem renewed_cases (d : Delivery) (env : CallEnv) (off size : ℕ) (s : RdmaStore) :
    (s.obtains d env size = none ∧ s.renewed d env off size = (none, s)) ∨
      ∃ i addr, s.obtains d env size = some (i, addr) ∧
        s.free_index.or s.oldest_index = some i ∧
        Rdma.granted d env.split size s.rdma.blocks = some addr ∧
        s.renewed d env off size = (some i, s.place i
          { virtual_offset := off, remote_addr := addr, size := size, in_use := true
            last_access := env.now }) := by
  unfold renewed
  rcases hi : s.free_index.or s.oldest_index with _ | i
  · have hnone : s.obtains d env size = none := by simp only [obtains, hi]
    rw [hnone]
    exact Or.inl ⟨rfl, rfl⟩
  · rcases ha : Rdma.granted d env.split size s.rdma.blocks with _ | addr
    · have hnone : s.obtains d env size = none := by simp only [obtains, hi, ha]
      rw [hnone]
      exact Or.inl ⟨rfl, rfl⟩
    · have hsome : s.obtains d env size = some (i, addr) := by simp only [obtains, hi, ha]
      rw [hsome]
      exact Or.inr ⟨i, addr, rfl, rfl, rfl, rfl⟩

theorem choice_new (hfind : s.find_remote_region off = none) :
    s.choice d env off size = s.renewed d env off size := by
  simp only [choice, hfind]

theorem choice_found {i : ℕ} (hfind : s.find_remote_region off = some i)
    (hsize : (s.remote_regions i).size = size) : s.choice d env off size = (some i, s) := by
  simp only [choice, hfind, hsize, if_true]

theorem choice_resized {i : ℕ} (hfind : s.find_remote_region off = some i)
    (hsize : (s.remote_regions i).size ≠ size) :
    s.choice d env off size = (s.given_up i).renewed d env off size := by
  simp only [choice, hfind, if_neg hsize]

/-! ### The pages of the table -/

theorem Paged.of_table (h : s.Paged) (hregions : s'.remote_regions = s.remote_regions)
    (hnum : s'.num_remote_regions = s.num_remote_regions) (hq : s'.rdma.Quiesced)
    (hspacious : Spacious s'.rdma.blocks) : s'.Paged := by
  refine ⟨hq, hspacious, ?_, ?_, ?_⟩
  · rw [hnum]
    exact h.bound
  · rw [hnum, hregions]
    exact h.index
  · rw [hregions]
    exact h.page

/-- One entry changes. -/
theorem Paged.entry (h : s.Paged) {i : ℕ} {region : RemoteRegion} (hrdma : s'.rdma = s.rdma)
    (hregions : s'.remote_regions = Function.update s.remote_regions i region)
    (hnum : s.num_remote_regions ≤ s'.num_remote_regions)
    (hbound : s'.num_remote_regions ≤ MAX_REMOTE_REGIONS)
    (hi : region.in_use = true → i < s'.num_remote_regions ∧ PageAt region.remote_addr) :
    s'.Paged := by
  have hentry : ∀ j, (s'.remote_regions j).in_use = true →
      j < s'.num_remote_regions ∧ PageAt (s'.remote_regions j).remote_addr := by
    intro j hj
    by_cases hji : j = i
    · rw [hregions, hji, Function.update_self] at hj ⊢
      exact hi hj
    · rw [hregions, Function.update_of_ne hji] at hj ⊢
      exact ⟨lt_of_lt_of_le (h.index j hj) hnum, h.page j hj⟩
  refine ⟨?_, ?_, hbound, fun j hj => (hentry j hj).1, fun j hj => (hentry j hj).2⟩
  · rw [hrdma]
    exact h.quiesced
  · rw [hrdma]
    exact h.spacious

theorem Paged.touch (h : s.Paged) (i now : ℕ) : (s.touch i now).Paged :=
  h.entry rfl rfl le_rfl h.bound fun hi => ⟨h.index i hi, h.page i hi⟩

theorem Paged.given_up (h : s.Paged) (i : ℕ) : (s.given_up i).Paged := by
  have hnum := s.given_up_num i
  refine h.entry (s.library_free_rdma _) (s.given_up_regions i) hnum.ge (hnum.trans_le h.bound) ?_
  exact fun hi => absurd hi Bool.false_ne_true

theorem Paged.renewed (h : s.Paged) (d : Delivery) (env : CallEnv) (off size : ℕ) :
    (s.renewed d env off size).2.Paged := by
  rcases s.renewed_cases d env off size with ⟨-, hr⟩ | ⟨i, addr, -, hi, ha, hr⟩
  · rw [hr]
    exact h
  · rw [hr]
    have hlt := h.indexed.entry_lt h.bound hi
    refine h.entry rfl rfl (Nat.le_max_left _ _) (max_le h.bound hlt) fun _ => ⟨?_, ?_⟩
    · exact lt_of_lt_of_le (Nat.lt_succ_self i) (Nat.le_max_right _ _)
    · exact h.spacious.granted ha

theorem Paged.choice (h : s.Paged) (d : Delivery) (env : CallEnv) (off size : ℕ) :
    (s.choice d env off size).2.Paged := by
  rcases hfind : s.find_remote_region off with _ | i
  · rw [choice_new hfind]
    exact h.renewed d env off size
  · by_cases hsize : (s.remote_regions i).size = size
    · rw [choice_found hfind hsize]
      exact h
    · rw [choice_resized hfind hsize]
      exact (h.given_up i).renewed d env off size

/-! ### The blocks of the offsets -/

/-- The block of an offset, when the same entries serve it. -/
theorem Paged.block_congr (h : s.Paged) (h' : s'.Paged) {o : ℕ}
    (hserves : ∀ i, s'.Serves i o ↔ s.Serves i o)
    (haddr : ∀ i, s.Serves i o →
      (s'.remote_regions i).remote_addr = (s.remote_regions i).remote_addr) :
    s'.block o = s.block o := by
  unfold RdmaStore.block
  rcases hfind : s.find_remote_region o with _ | i
  · have hnone : s'.find_remote_region o = none :=
      h'.indexed.find_eq_none.2 fun i hi => h.indexed.find_eq_none.1 hfind i ((hserves i).1 hi)
    rw [hnone]
    rfl
  · obtain ⟨hi, hfirst⟩ := h.indexed.find_eq_some.1 hfind
    have hsome : s'.find_remote_region o = some i :=
      h'.indexed.find_eq_some.2 ⟨(hserves i).2 hi, fun j hj hs => hfirst j hj ((hserves j).1 hs)⟩
    rw [hsome, Option.map_some, Option.map_some, haddr i hi]

/-- A change of an entry that does not serve the offset, before or after. -/
theorem Paged.block_other (h : s.Paged) (h' : s'.Paged) {i o : ℕ} {region : RemoteRegion}
    (hregions : s'.remote_regions = Function.update s.remote_regions i region)
    (hbefore : ¬ s.Serves i o) (hafter : ¬ (region.in_use = true ∧ region.virtual_offset = o)) :
    s'.block o = s.block o := by
  have hne : ∀ j, j ≠ i → s'.remote_regions j = s.remote_regions j := by
    intro j hj
    rw [hregions, Function.update_of_ne hj]
  refine h.block_congr h' (fun j => ?_) fun j hj => ?_
  · by_cases hji : j = i
    · rw [hji]
      refine iff_of_false (fun hs => hafter ?_) hbefore
      unfold Serves at hs
      rw [hregions, Function.update_self] at hs
      exact hs
    · unfold Serves
      rw [hne j hji]
  · have hji : j ≠ i := by
      rintro rfl
      exact hbefore hj
    rw [hne j hji]

theorem Paged.block_touch (h : s.Paged) (i now o : ℕ) : (s.touch i now).block o = s.block o := by
  refine h.block_congr (h.touch i now) (fun j => ?_) fun j _ => s.touch_addr i now j
  unfold Serves
  rw [touch_used, touch_offset]

/-- A new region is found under its offset, if no earlier entry serves that. -/
theorem Paged.find_renewed (h : s.Paged) {i : ℕ} (hi : (s.renewed d env off size).1 = some i)
    (hfirst : ∀ j, j < i → ¬ s.Serves j off) :
    (s.renewed d env off size).2.find_remote_region off = some i := by
  have h' := h.renewed d env off size
  rcases s.renewed_cases d env off size with ⟨-, hr⟩ | ⟨k, addr, -, -, -, hr⟩
  · rw [hr] at hi
    cases hi
  · rw [hr] at hi h' ⊢
    cases hi
    refine h'.indexed.find_eq_some.2 ⟨?_, fun j hj hs => hfirst j hj ?_⟩
    · unfold Serves
      rw [place_self]
      exact ⟨rfl, rfl⟩
    · unfold Serves at hs
      rw [place_ne s _ (Nat.ne_of_lt hj)] at hs
      exact hs

/-- **The region that was chosen** is the one that a read finds. -/
theorem Paged.find_choice (h : s.Paged) {i : ℕ} (hi : (s.choice d env off size).1 = some i) :
    (s.choice d env off size).2.find_remote_region off = some i := by
  rcases hfind : s.find_remote_region off with _ | i₀
  · rw [choice_new hfind] at hi ⊢
    exact h.find_renewed hi fun j _ => h.indexed.find_eq_none.1 hfind j
  · by_cases hsize : (s.remote_regions i₀).size = size
    · rw [choice_found hfind hsize] at hi ⊢
      cases hi
      exact hfind
    · obtain ⟨hserves, hfirst⟩ := h.indexed.find_eq_some.1 hfind
      obtain ⟨k, hfree, hk⟩ :=
        s.free_index_given_up (lt_of_lt_of_le (h.index i₀ hserves.1) h.bound)
      rw [choice_resized hfind hsize] at hi ⊢
      refine (h.given_up i₀).find_renewed hi fun j hj hs => ?_
      -- the new region takes an entry up to that of the old one, which was the first
      have hik : i = k := by
        rcases (s.given_up i₀).renewed_cases d env off size with ⟨-, hr⟩ | ⟨k', addr, -, hk', -, hr⟩
        · rw [hr] at hi
          cases hi
        · rw [hr] at hi
          cases hi
          rw [hfree, Option.some_or] at hk'
          exact (Option.some.inj hk').symm
      have hji : j ≠ i₀ := by omega
      unfold Serves at hs
      rw [given_up_regions, Function.update_of_ne hji] at hs
      exact hfirst j (by omega) hs

/-- The offset has the block that it had, or still none. -/
def KeepsBlock (d : Delivery) (env : CallEnv) (off size : ℕ) (s : RdmaStore) : Prop :=
  (s.choice d env off size).2.block off = s.block off

/-- **Offsets without a region** keep it that way exactly if no region is made. -/
theorem Paged.keepsBlock_new (h : s.Paged) (hfind : s.find_remote_region off = none) :
    s.KeepsBlock d env off size ↔ (s.choice d env off size).1 = none := by
  have hnone : s.block off = none := Option.map_eq_none_iff.2 hfind
  unfold KeepsBlock
  rw [hnone]
  constructor
  · intro hb
    rcases hi : (s.choice d env off size).1 with _ | i
    · rfl
    · rw [block, h.find_choice hi] at hb
      cases hb
  · intro hi
    rw [choice_new hfind] at hi ⊢
    rcases s.renewed_cases d env off size with ⟨-, hr⟩ | ⟨i, addr, -, -, -, hr⟩
    · rw [hr]
      exact hnone
    · rw [hr] at hi
      cases hi

/-- If the offset keeps its block, all offsets do: an entry is recycled only for an offset that had
no region. -/
theorem Paged.block_choice (h : s.Paged) (hkeeps : s.KeepsBlock d env off size) (o : ℕ) :
    (s.choice d env off size).2.block o = s.block o := by
  by_cases ho : o = off
  · rw [ho]
    exact hkeeps
  · rcases hfind : s.find_remote_region off with _ | i
    · have hnone := (h.keepsBlock_new hfind).1 hkeeps
      rw [choice_new hfind] at hnone ⊢
      rcases s.renewed_cases d env off size with ⟨-, hr⟩ | ⟨i, addr, -, -, -, hr⟩
      · rw [hr]
      · rw [hr] at hnone
        cases hnone
    · by_cases hsize : (s.remote_regions i).size = size
      · rw [choice_found hfind hsize]
      · obtain ⟨hserves, -⟩ := h.indexed.find_eq_some.1 hfind
        obtain ⟨k, hfree, -⟩ :=
          s.free_index_given_up (lt_of_lt_of_le (h.index i hserves.1) h.bound)
        have hunused := (free_index_spec hfree).2.1
        have hgone : (s.given_up i).block o = s.block o := by
          refine h.block_other (h.given_up i) (s.given_up_regions i) ?_ ?_
          · exact fun hs => ho (hs.2.symm.trans hserves.2)
          · exact fun hs => absurd hs.1 Bool.false_ne_true
        have h₁ := (h.given_up i).renewed d env off size
        rw [choice_resized hfind hsize]
        rcases (s.given_up i).renewed_cases d env off size with ⟨-, hr⟩ | ⟨k', addr, -, hk', -, hr⟩
        · rw [hr]
          exact hgone
        · rw [hr] at h₁ ⊢
          rw [hfree, Option.some_or] at hk'
          obtain rfl := Option.some.inj hk'
          refine ((h.given_up i).block_other h₁ rfl ?_ ?_).trans hgone
          · intro hs
            rw [hs.1] at hunused
            cases hunused
          · exact fun hs => ho hs.2.symm

/-! ## The calls -/

/-- A call that returned `r` did to the table what `c` says, and nothing to the bytes. -/
structure Settled (s : RdmaStore) (c r : Option ℕ × RdmaStore) : Prop where
  index : r.1 = c.1
  table : SameTable c.2 r.2
  quiesced : r.2.rdma.Quiesced
  spacious : Spacious r.2.rdma.blocks
  memory : r.2.rdma.memory = s.rdma.memory

/-- **`allocate_remote_region`.** -/
theorem Paged.try_allocate (h : s.Paged) (d : Delivery) (env : CallEnv) (off size : ℕ) :
    Settled s (s.renewed d env off size) (s.try_allocate_remote_region d env off size) := by
  rcases hclaim : s.claim_index with _ | ⟨i, s₁⟩
  · -- no entry can be had, so nothing is asked of the server
    have hnone : s.obtains d env size = none := by
      simp only [obtains, claim_index_none hclaim]
    have hr : s.try_allocate_remote_region d env off size = (none, s) := by
      simp only [try_allocate_remote_region, hclaim]
    rw [hr, RdmaStore.renewed, hnone]
    exact ⟨rfl, ⟨rfl, rfl, rfl⟩, h.quiesced, h.spacious, rfl⟩
  · obtain ⟨hi, hsame, hrdma⟩ := claim_index_some hclaim
    obtain ⟨hq, hmemory, hallocated, hanswer⟩ :=
      h.quiesced.deliver_allocate d size env.split
    have hspacious := h.spacious.allocated hallocated
    rw [← hrdma] at hq hmemory hspacious hanswer
    rcases hanswer with ⟨hnone, hret⟩ | ⟨id, placed, addr, k, hsome, hret, hfind, haddr⟩
    · have hob : s.obtains d env size = none := by
        simp only [obtains, hi, ← hrdma, hnone]
      have hr : s.try_allocate_remote_region d env off size = (none,
          { s₁ with rdma := (s₁.rdma.deliver d .ALLOCATE 0 0 size none env.split).2 }) := by
        simp only [try_allocate_remote_region, hclaim, hret]
      rw [hr, RdmaStore.renewed, hob]
      exact ⟨rfl, ⟨hsame.regions, hsame.num, hsame.translator⟩, hq, hspacious,
        hmemory.trans (by rw [hrdma])⟩
    · have hob : s.obtains d env size = some (i, addr) := by
        simp only [obtains, hi, ← hrdma, hsome]
      -- a block lies in the simulated memory, so its address passes the test for `0`
      have h0 : addr ≠ 0 := by
        have hpage := (h.spacious.granted (hrdma ▸ hsome)).1
        simp only [SIM_REMOTE_MEMORY_BASE] at hpage
        omega
      have hr : s.try_allocate_remote_region d env off size = (some i,
          ({ s₁ with
            rdma := (s₁.rdma.deliver d .ALLOCATE 0 0 size none env.split).2 } : RdmaStore).place i
              { virtual_offset := off, remote_addr := addr, size := size, in_use := true
                last_access := env.now }) := by
        simp only [try_allocate_remote_region, hclaim, hret, hfind, haddr, if_neg h0]
        rfl
      rw [hr, RdmaStore.renewed, hob]
      refine ⟨rfl, ⟨?_, ?_, hsame.translator⟩, hq, hspacious, hmemory.trans (by rw [hrdma])⟩
      · show Function.update s₁.remote_regions i _ = Function.update s.remote_regions i _
        rw [hsame.regions]
      · show max s₁.num_remote_regions (i + 1) = max s.num_remote_regions (i + 1)
        rw [hsame.num]

/-- **The region of a write.** -/
theorem Paged.try_write_region (h : s.Paged) (d : Delivery) (env : CallEnv) (off size : ℕ) :
    Settled s (s.choice d env off size) (s.try_write_region d env off size) := by
  rcases hfind : s.find_remote_region off with _ | i
  · have ha := h.try_allocate d env off size
    rw [choice_new hfind]
    unfold RdmaStore.try_write_region
    simp only [hfind]
    rcases hr : s.try_allocate_remote_region d env off size with ⟨_ | i, s₁⟩
    · rw [hr] at ha
      exact ha
    · rw [hr] at ha
      -- the region that was just made has the size that was asked for
      have hsize : (s₁.remote_regions i).size = size := by
        have hindex := ha.index
        have hregions := ha.table.regions
        rcases s.renewed_cases d env off size with ⟨-, hn⟩ | ⟨k, addr, -, -, -, hn⟩
        · rw [hn] at hindex
          cases hindex
        · rw [hn] at hindex hregions
          cases hindex
          rw [hregions, place_self]
      simp only [hsize, if_true]
      exact ha
  · by_cases hsize : (s.remote_regions i).size = size
    · have hr : s.try_write_region d env off size = (some i, s) := by
        simp only [RdmaStore.try_write_region, hfind, hsize, if_true]
      rw [hr, choice_found hfind hsize]
      exact ⟨rfl, ⟨rfl, rfl, rfl⟩, h.quiesced, h.spacious, rfl⟩
    · have hr : s.try_write_region d env off size =
          (s.given_up i).try_allocate_remote_region d env off size := by
        simp only [RdmaStore.try_write_region, hfind, if_neg hsize]
        rfl
      have ha := (h.given_up i).try_allocate d env off size
      rw [hr, choice_resized hfind hsize]
      refine ⟨ha.index, ha.table, ha.quiesced, ha.spacious, ha.memory.trans ?_⟩
      exact congrArg Rdma.memory (s.library_free_rdma _)

/-- The end of a write, at the block `addr`. -/
structure Delivered (d : Delivery) (env : CallEnv) (off addr : ℕ) (src : Bytes) (size : ℕ)
    (s : RdmaStore) (r : Except (Option Errno) Unit × RdmaStore) : Prop where
  regions : r.2.remote_regions = s.remote_regions
  num : r.2.num_remote_regions = s.num_remote_regions
  quiesced : r.2.rdma.Quiesced
  spacious : Spacious r.2.rdma.blocks
  translator : r.2.translator = registered env off size addr s.translator
  memory : r.2.rdma.memory =
    if Rdma.Stores d size then
      memcpy s.rdma.memory (addr - SIM_REMOTE_MEMORY_BASE)
        (encoded (registered env off size addr s.translator) off src size) size
    else s.rdma.memory
  ok : r.1 = .ok () ↔ d = .prompt ∧ 0 < size ∧ size ≤ RDMA_PAGE_BUFFER_SIZE

/-- **`send_page`.** -/
theorem Paged.try_send_page (h : s.Paged) (d : Delivery) (env : CallEnv) (off : ℕ) {addr : ℕ}
    (hpage : PageAt addr) (src : Bytes) (size : ℕ) :
    Delivered d env off addr src size s (s.try_send_page d env off addr src size) := by
  obtain ⟨haddr, hin⟩ := hpage.offset
  obtain ⟨hq, hblocks, hmemory, hret⟩ := h.quiesced.deliver_write d size
    (encoded (registered env off size addr s.translator) off src size) env.split haddr hin
  have hspacious := h.spacious
  rw [← hblocks] at hspacious
  unfold RdmaStore.try_send_page
  simp only [register_eq]
  rw [← encoded]
  rcases hr : (s.rdma.deliver d .WRITE 1 addr size (some (encoded (registered env off size addr
    s.translator) off src size)) env.split).1 with _ | answer
  · refine ⟨rfl, rfl, hq, hspacious, rfl, hmemory, iff_of_false (fun hok => ?_) fun hd => ?_⟩
    · cases hok
    · exact hret.2 hd hr
  · refine ⟨rfl, rfl, hq, hspacious, rfl, hmemory, iff_of_true rfl (hret.1 ?_)⟩
    rw [hr]
    exact Option.some_ne_none answer

/-- The call returns `0`. -/
def Accepts (f : WriteFaults) (env : CallEnv) (off size : ℕ) (s : RdmaStore) : Prop :=
  (s.choice f.allocate env off size).1 ≠ none ∧ f.malloc = true ∧ f.write = .prompt ∧ 0 < size ∧
    size ≤ RDMA_PAGE_BUFFER_SIZE

/-- What a call of `rdma_write_page` did. -/
structure Tried (f : WriteFaults) (env : CallEnv) (off : ℕ) (src : Bytes) (size : ℕ) (s : RdmaStore)
    (r : Except (Option Errno) Unit × RdmaStore) : Prop where
  paged : r.2.Paged
  block : ∀ o, r.2.block o = (s.choice f.allocate env off size).2.block o
  ok : r.1 = .ok () ↔ s.Accepts f env off size
  /-- the page was not sent -/
  unsent : (s.choice f.allocate env off size).1 = none ∨ f.malloc = false →
    r.2.translator = s.translator ∧ r.2.rdma.memory = s.rdma.memory
  /-- it was sent to the block of the offset -/
  sent : ∀ addr, (s.choice f.allocate env off size).1 ≠ none → f.malloc = true →
    (s.choice f.allocate env off size).2.block off = some addr →
    r.2.translator = registered env off size addr s.translator ∧
    r.2.rdma.memory =
      if Rdma.Stores f.write size then
        memcpy s.rdma.memory (addr - SIM_REMOTE_MEMORY_BASE)
          (encoded (registered env off size addr s.translator) off src size) size
      else s.rdma.memory

theorem block_of_table (hregions : s'.remote_regions = s.remote_regions)
    (hnum : s'.num_remote_regions = s.num_remote_regions) (o : ℕ) : s'.block o = s.block o := by
  unfold RdmaStore.block RdmaStore.find_remote_region
  rw [hregions, hnum]

theorem choice_translator (d : Delivery) (env : CallEnv) (off size : ℕ) (s : RdmaStore) :
    (s.choice d env off size).2.translator = s.translator := by
  have hrenewed : ∀ s₁ : RdmaStore, (s₁.renewed d env off size).2.translator = s₁.translator := by
    intro s₁
    rcases s₁.renewed_cases d env off size with ⟨-, hr⟩ | ⟨i, addr, -, -, -, hr⟩
    · rw [hr]
    · rw [hr]
      rfl
  rcases hfind : s.find_remote_region off with _ | i
  · rw [choice_new hfind, hrenewed]
  · by_cases hsize : (s.remote_regions i).size = size
    · rw [choice_found hfind hsize]
    · rw [choice_resized hfind hsize, hrenewed]
      exact (s.library_free_sameTable _).translator

/-- **`rdma_write_page`.** -/
theorem Paged.try_write_page (h : s.Paged) (f : WriteFaults) (env : CallEnv) (off : ℕ) (src : Bytes)
    (size : ℕ) : Tried f env off src size s (s.try_write_page f env off src size) := by
  have hw := h.try_write_region f.allocate env off size
  have hchoice := h.choice f.allocate env off size
  have htranslator := s.choice_translator f.allocate env off size
  unfold RdmaStore.try_write_page
  rcases hr : s.try_write_region f.allocate env off size with ⟨_ | i, s₁⟩
  · -- no region: the call ends before the page is encoded
    rw [hr] at hw
    have hnone := hw.index.symm
    refine ⟨hchoice.of_table hw.table.regions hw.table.num hw.quiesced hw.spacious,
      block_of_table hw.table.regions hw.table.num, iff_of_false (fun hok => ?_) ?_, fun _ => ?_, ?_⟩
    · cases hok
    · exact fun ha => ha.1 hnone
    · exact ⟨hw.table.translator.trans htranslator, hw.memory⟩
    · exact fun addr hsome => absurd hnone hsome
  · rw [hr] at hw
    have hsome : (s.choice f.allocate env off size).1 = some i := hw.index.symm
    have hpaged : s₁.Paged := hchoice.of_table hw.table.regions hw.table.num hw.quiesced hw.spacious
    have hblock : ∀ o, (s₁.touch i env.now).block o = (s.choice f.allocate env off size).2.block o :=
      fun o => (hpaged.block_touch i env.now o).trans
        (block_of_table hw.table.regions hw.table.num o)
    have htrans : s₁.translator = s.translator := hw.table.translator.trans htranslator
    have hne : (s.choice f.allocate env off size).1 ≠ none := by
      rw [hsome]
      exact Option.some_ne_none i
    by_cases hm : f.malloc = false
    · -- the region stays even though the conversion buffer could not be had
      simp only [hm, if_true]
      refine ⟨hpaged.touch i env.now, hblock, iff_of_false (fun hok => ?_) fun ha => ?_,
        fun _ => ⟨htrans, hw.memory⟩, fun addr _ hm' => ?_⟩
      · cases hok
      · rw [ha.2.1] at hm
        cases hm
      · rw [hm'] at hm
        cases hm
    · have hmalloc : f.malloc = true := Bool.eq_true_of_not_eq_false hm
      have hfound : (s.choice f.allocate env off size).2.block off =
          some (s₁.remote_regions i).remote_addr := by
        rw [RdmaStore.block, h.find_choice hsome, Option.map_some, hw.table.regions]
      have hd := (hpaged.touch i env.now).try_send_page f.write env off
        (hchoice.block_page hfound) src size
      simp only [if_neg hm]
      refine ⟨?_, fun o => ?_, ?_, fun hor => ?_, fun addr _ _ hb => ?_⟩
      · exact (hpaged.touch i env.now).of_table hd.regions hd.num hd.quiesced hd.spacious
      · exact (block_of_table hd.regions hd.num o).trans (hblock o)
      · refine hd.ok.trans ⟨fun hp => ⟨hne, hmalloc, hp⟩, fun ha => ha.2.2⟩
      · rcases hor with hn | hm'
        · exact absurd hn hne
        · exact absurd hm' hm
      · rw [hfound] at hb
        cases hb
        refine ⟨hd.translator.trans ?_, hd.memory.trans ?_⟩
        · rw [← htrans]
          rfl
        · rw [← htrans, ← hw.memory]
          rfl

end RdmaStore

end SwapPrefetch
