/-
When the server's allocator fails, and what a failed split costs (`src/rdma_sim.c:84-157`).

`rdma_sim_allocate` looks at one block at a time. That it fails only if no run of unallocated bytes
is long enough rests on two facts about the block list: it has no hole, and no free block ends where
another one begins (`Whole`). A maximal run of unallocated bytes is then exactly a free block
(`Whole.maximalRun_iff`), and the first block that fits is the lowest one.

Both facts can be lost. A size above `2 ^ 64 - 4096` is rounded to `0`: the block that is handed out
has no bytes and keeps two free neighbours apart. And if the node of the rest cannot be allocated,
the rest is cut off all the same and belongs to no block from then on.
-/
import Mathlib.Tactic
import SwapPrefetch.RdmaRestore

set_option autoImplicit false

namespace SwapPrefetch

namespace RemoteMemory

variable {m : RemoteMemory} {a n x : ℕ}

/-! ## Runs of unallocated bytes -/

/-- The byte lies in the region and in no allocated block. -/
def Unallocated (m : RemoteMemory) (x : ℕ) : Prop :=
  SIM_REMOTE_MEMORY_BASE ≤ x ∧ x < SIM_REMOTE_MEMORY_BASE + SIM_REMOTE_MEMORY_SIZE ∧
    ∀ b ∈ m.blocks, b.free = false → ¬ (b.addr ≤ x ∧ x < b.addr + b.size)

/-- The `n` bytes from `a` on are not allocated. -/
def FreeRun (m : RemoteMemory) (a n : ℕ) : Prop :=
  ∀ x, a ≤ x → x < a + n → m.Unallocated x

/-- They are not part of a longer run. -/
structure MaximalRun (m : RemoteMemory) (a n : ℕ) : Prop where
  nonempty : 0 < n
  run : m.FreeRun a n
  first : ∀ x, x + 1 = a → ¬ m.Unallocated x
  last : ¬ m.Unallocated (a + n)

theorem tiles_cover {lo hi : ℕ} {blocks : List MemBlock} (h : Tiles lo hi blocks) (hlo : lo ≤ x)
    (hhi : x < hi) : ∃ b ∈ blocks, b.addr ≤ x ∧ x < b.addr + b.size := by
  induction blocks generalizing lo with
  | nil =>
      obtain rfl : lo = hi := h
      omega
  | cons b rest ih =>
      obtain ⟨rfl, hrest⟩ := h
      by_cases hx : x < b.addr + b.size
      · exact ⟨b, List.mem_cons_self, hlo, hx⟩
      · obtain ⟨c, hc, hin⟩ := ih hrest (not_lt.1 hx)
        exact ⟨c, List.mem_cons_of_mem b hc, hin⟩

/-- Blocks with a byte in common are equal. -/
theorem Whole.eq_of_mem (h : m.Whole) {b c : MemBlock} (hb : b ∈ m.blocks) (hc : c ∈ m.blocks)
    (hbx : b.addr ≤ x ∧ x < b.addr + b.size) (hcx : c.addr ≤ x ∧ x < c.addr + c.size) : b = c := by
  by_contra hne
  rcases h.counted.blocks.disjoint hb hc hne with hdis | hdis
  · omega
  · omega

/-- A byte is not allocated if and only if it lies in a free block. -/
theorem Whole.unallocated_iff (h : m.Whole) :
    m.Unallocated x ↔ ∃ b ∈ m.blocks, b.free = true ∧ b.addr ≤ x ∧ x < b.addr + b.size := by
  constructor
  · rintro ⟨hlo, hhi, hnone⟩
    obtain ⟨b, hb, hin⟩ := tiles_cover h.tiles hlo hhi
    refine ⟨b, hb, ?_, hin⟩
    by_contra hused
    exact hnone b hb (eq_false_of_ne_true hused) hin
  · rintro ⟨b, hb, hfree, hin⟩
    have hregion := (h.counted.blocks.sound b hb).inRemote
    unfold MemBlock.InRemote at hregion
    refine ⟨by omega, by omega, fun c hc hused hcx => ?_⟩
    rw [h.eq_of_mem hb hc hin hcx, hused] at hfree
    cases hfree

/-- Of two blocks one comes first. -/
theorem Whole.before_or (h : m.Whole) {b c : MemBlock} (hb : b ∈ m.blocks) (hc : c ∈ m.blocks)
    (hne : b ≠ c) : b.Before c ∨ c.Before b := by
  have hsymm : Std.Symm fun p q : MemBlock => p.Before q ∨ q.Before p := ⟨fun _ _ hpq => hpq.symm⟩
  have hor : m.blocks.Pairwise fun p q => p.Before q ∨ q.Before p :=
    h.counted.blocks.order.imp fun hpq => Or.inl hpq
  exact hor.forall hb hc hne

/-- No free block begins where a free block ends. -/
theorem Whole.apart (h : m.Whole) {b c : MemBlock} (hb : b ∈ m.blocks) (hc : c ∈ m.blocks)
    (hbf : b.free = true) (hcf : c.free = true) : b.addr + b.size ≠ c.addr := by
  intro htouch
  have hbpos := (h.counted.blocks.sound b hb).nonempty
  have hcpos := (h.counted.blocks.sound c hc).nonempty
  have hne : b ≠ c := by
    rintro rfl
    omega
  rcases h.before_or hb hc hne with hbc | hcb
  · exact hbc.2 ⟨hbf, hcf, htouch⟩
  · have hle := hcb.1
    omega

/-- **A run of unallocated bytes lies in one free block.** -/
theorem Whole.run_in_block (h : m.Whole) (hn : 0 < n) (hrun : m.FreeRun a n) :
    ∃ b ∈ m.blocks, b.free = true ∧ b.addr ≤ a ∧ a + n ≤ b.addr + b.size := by
  obtain ⟨b, hb, hfree, hlo, hhi⟩ := h.unallocated_iff.1 (hrun a le_rfl (by omega))
  refine ⟨b, hb, hfree, hlo, ?_⟩
  by_contra hlong
  -- the first byte behind the block is in the run, so another free block begins there
  obtain ⟨c, hc, hcfree, hclo, hchi⟩ :=
    h.unallocated_iff.1 (hrun (b.addr + b.size) (by omega) (by omega))
  have hne : b ≠ c := by
    rintro rfl
    omega
  have htouch := h.apart hb hc hfree hcfree
  rcases h.before_or hb hc hne with hbc | hcb
  · have hle := hbc.1
    omega
  · have hle := hcb.1
    omega

/-- **The maximal runs are the free blocks.** -/
theorem Whole.maximalRun_iff (h : m.Whole) :
    m.MaximalRun a n ↔ { addr := a, size := n, free := true } ∈ m.blocks := by
  constructor
  · rintro ⟨hpos, hrun, hfirst, hlast⟩
    obtain ⟨⟨addr, size, free⟩, hb, rfl, hlo, hhi⟩ := h.run_in_block hpos hrun
    simp only at hlo hhi
    -- the block has no byte on either side of the run, which would be unallocated too
    have haddr : addr = a := by
      by_contra hne
      refine hfirst (a - 1) (by omega) (h.unallocated_iff.2 ⟨_, hb, rfl, ?_, ?_⟩)
      · show addr ≤ a - 1
        omega
      · show a - 1 < addr + size
        omega
    have hsize : size = n := by
      by_contra hne
      refine hlast (h.unallocated_iff.2 ⟨_, hb, rfl, ?_, ?_⟩)
      · show addr ≤ a + n
        omega
      · show a + n < addr + size
        omega
    rw [← haddr, ← hsize]
    exact hb
  · intro hb
    have hpos := (h.counted.blocks.sound _ hb).nonempty
    simp only at hpos
    refine ⟨hpos, fun x hlo hhi => h.unallocated_iff.2 ⟨_, hb, rfl, hlo, hhi⟩, fun x hx hun => ?_,
      fun hun => ?_⟩
    · -- the free block with the byte before the run ends where the run begins
      obtain ⟨c, hc, hcfree, hclo, hchi⟩ := h.unallocated_iff.1 hun
      have htouch := h.apart hc hb hcfree rfl
      have hne : c ≠ { addr := a, size := n, free := true } := by
        rintro rfl
        simp only at hclo
        omega
      rcases h.before_or hc hb hne with hcb | hbc
      · have hle := hcb.1
        simp only at hle htouch
        omega
      · have hle := hbc.1
        simp only at hle
        omega
    · obtain ⟨c, hc, hcfree, hclo, hchi⟩ := h.unallocated_iff.1 hun
      have htouch := h.apart hb hc rfl hcfree
      have hne : c ≠ { addr := a, size := n, free := true } := by
        rintro rfl
        simp only at hchi
        omega
      rcases h.before_or hc hb hne with hcb | hbc
      · have hle := hcb.1
        simp only at hle
        omega
      · have hle := hbc.1
        simp only at hle htouch
        omega

/-! ## When an allocation fails -/

/-- The lowest address at which a maximal run of at least `size` bytes starts. -/
def LowestFit (m : RemoteMemory) (size remote_addr : ℕ) : Prop :=
  IsLeast { a | ∃ n, size ≤ n ∧ m.MaximalRun a n } remote_addr

/-- The walk stops at the lowest maximal run that is long enough. -/
theorem Whole.allocate_walk_lowest (h : m.Whole) {split : Bool} {size addr : ℕ}
    {blocks' : List MemBlock} (ha : allocate_walk split size m.blocks = some (addr, blocks')) :
    m.LowestFit size addr := by
  obtain ⟨before, current, rest, hsplit, hbefore, hfree, hfit, rfl, -⟩ := allocate_walk_spec ha
  have hmem : current ∈ m.blocks := by
    rw [hsplit]
    exact List.mem_append_right _ List.mem_cons_self
  refine ⟨⟨current.size, hfit, h.maximalRun_iff.2 ?_⟩, ?_⟩
  · rw [← hfree]
    exact hmem
  · rintro a ⟨n, hn, hmax⟩
    have hb := h.maximalRun_iff.1 hmax
    have horder := h.counted.blocks.order
    rw [hsplit] at hb horder
    -- the blocks before the first that fits are allocated or too small
    rcases List.mem_append.1 hb with hb | hb
    · exact absurd ⟨rfl, hn⟩ (hbefore _ hb)
    · rcases List.mem_cons.1 hb with rfl | hb
      · exact le_rfl
      · obtain ⟨-, hcurrent, -⟩ := List.pairwise_append.1 horder
        have hle := ((List.pairwise_cons.1 hcurrent).1 _ hb).1
        simp only at hle
        omega

/-- The walk fails only if no run is long enough. -/
theorem Whole.allocate_walk_none (h : m.Whole) {split : Bool} {size : ℕ} (hpos : 0 < size)
    (ha : allocate_walk split size m.blocks = none) : ¬ ∃ a, m.FreeRun a size := by
  rintro ⟨a, hrun⟩
  obtain ⟨b, hb, hfree, hlo, hhi⟩ := h.run_in_block hpos hrun
  have hsmall := SwapPrefetch.allocate_walk_none ha b hb hfree
  omega

/-- `rdma_sim_allocate` fails exactly if no run of unallocated bytes has the rounded size, and
otherwise returns the lowest address at which a maximal run of that size starts. -/
structure Exact (m : RemoteMemory) (size : ℕ) : Prop where
  fails : (m.allocate size true).1 = .error .ENOMEM ↔ ¬ ∃ a, m.FreeRun a (round_up size)
  returns : ∀ remote_addr, (m.allocate size true).1 = .ok remote_addr ↔
    m.LowestFit (round_up size) remote_addr

theorem Whole.exact (h : m.Whole) {size : ℕ} (hpos : 1 ≤ size)
    (hfits : (Call.allocate size true).Fits) : m.Exact size := by
  have hround : 0 < round_up size := lt_of_lt_of_le hpos (le_round_up hfits)
  rcases ha : allocate_walk true (round_up size) m.blocks with _ | ⟨addr, blocks'⟩
  · have hresult : (m.allocate size true).1 = .error .ENOMEM := by
      rw [RemoteMemory.allocate, rdma_sim_allocate, if_neg (Nat.one_le_iff_ne_zero.1 hpos), ha]
    have hnone := h.allocate_walk_none hround ha
    refine ⟨iff_of_true hresult hnone, fun remote_addr => ?_⟩
    rw [hresult]
    refine iff_of_false (fun he => ?_) fun hleast => ?_
    · cases he
    · obtain ⟨n, hn, hmax⟩ := hleast.1
      exact hnone ⟨remote_addr, fun x hlo hhi => hmax.run x hlo (by omega)⟩
  · have hresult : (m.allocate size true).1 = .ok addr := by
      rw [RemoteMemory.allocate, rdma_sim_allocate, if_neg (Nat.one_le_iff_ne_zero.1 hpos), ha]
    have hleast := h.allocate_walk_lowest ha
    obtain ⟨n, hn, hmax⟩ := hleast.1
    have hrun : ∃ a, m.FreeRun a (round_up size) :=
      ⟨addr, fun x hlo hhi => hmax.run x hlo (by omega)⟩
    rw [← not_not (a := ∃ a, m.FreeRun a (round_up size))] at hrun
    refine ⟨iff_of_false (fun he => ?_) hrun, fun remote_addr => ?_⟩
    · rw [hresult] at he
      cases he
    · rw [hresult]
      constructor
      · intro he
        rw [← Except.ok.inj he]
        exact hleast
      · intro hleast'
        rw [hleast.unique hleast']

/-- **Allocation fails only when it must**, in every state that is reached by calls whose sizes do
not wrap when they are rounded up. -/
theorem allocation_exact (calls : List Call) (h : ∀ c ∈ calls, c.Fits ∧ c.Splits) (size : ℕ)
    (hpos : 1 ≤ size) (hfits : (Call.allocate size true).Fits) : (exec calls).Exact size :=
  (exec_whole h).exact hpos hfits

/-- Two blocks are allocated and the first one is freed. -/
theorem allocation_exact_hole :
    (exec [.allocate 4096 true, .allocate 4096 true, .free 0x4000000000]).Exact 8192 :=
  allocation_exact _ (by decide) 8192 (by decide) (by decide)

/-- A block of one page, a block whose size wraps to `0`, and the page is freed: the whole region
is unallocated, and no allocation of it succeeds. -/
theorem not_exact_wrappedSize :
    ¬ (exec [.allocate 4096 true, .allocate (2 ^ 64 - 1) true, .free 0x4000000000]).Exact
      SIM_REMOTE_MEMORY_SIZE := by
  intro h
  have hblocks : (exec [.allocate 4096 true, .allocate (2 ^ 64 - 1) true,
      .free 0x4000000000]).blocks =
      [{ addr := 0x4000000000, size := 4096, free := true },
        { addr := 0x4000001000, size := 0, free := false },
        { addr := 0x4000001000, size := 1024 * 1024 * 1024 - 4096, free := true }] := by
    decide +kernel
  have hfails : ((exec [.allocate 4096 true, .allocate (2 ^ 64 - 1) true,
      .free 0x4000000000]).allocate SIM_REMOTE_MEMORY_SIZE true).1 = .error .ENOMEM := by
    decide +kernel
  refine h.fails.1 hfails ⟨SIM_REMOTE_MEMORY_BASE, fun x hlo hhi => ⟨hlo, hhi, ?_⟩⟩
  rw [hblocks]
  intro b hb hused hin
  rcases List.mem_cons.1 hb with rfl | hb
  · cases hused
  · rcases List.mem_cons.1 hb with rfl | hb
    · simp only at hin
      omega
    · rw [List.mem_singleton.1 hb] at hused
      cases hused

/-! ## Failed splits -/

/-- The block from which an allocation of `size` bytes is cut. -/
def first_fit (size : ℕ) (blocks : List MemBlock) : Option MemBlock :=
  blocks.find? fun b => b.free ∧ size ≤ b.size

/-- The call cuts a block, and the node of the rest cannot be allocated. -/
def LosesRest (m : RemoteMemory) : Call → Prop
  | .allocate size split => size ≠ 0 ∧ split = false ∧
      ∃ current ∈ first_fit (round_up size) m.blocks, round_up size < current.size
  | .free _ => False

instance (m : RemoteMemory) (c : Call) : Decidable (m.LosesRest c) :=
  match c with
  | .allocate size split =>
      inferInstanceAs (Decidable (size ≠ 0 ∧ split = false ∧
        ∃ current ∈ first_fit (round_up size) m.blocks, round_up size < current.size))
  | .free _ => isFalse id

/-- The blocks fill the region, and no two free ones are neighbours. Blocks may be empty. -/
structure Packed (m : RemoteMemory) : Prop where
  tiles : Tiles SIM_REMOTE_MEMORY_BASE (SIM_REMOTE_MEMORY_BASE + SIM_REMOTE_MEMORY_SIZE) m.blocks
  apart : m.blocks.IsChain fun a b => ¬ (a.free = true ∧ b.free = true)

theorem packed_start : Packed {} := ⟨⟨rfl, rfl⟩, List.isChain_singleton _⟩

/-- Merging looks at the neighbour, which touches the block if the list has no hole. -/
theorem isChain_merge {lo hi : ℕ} {c : MemBlock} {rest : List MemBlock}
    (ht : Tiles lo hi (c :: rest)) (h : rest.IsChain fun a b => ¬ (a.free = true ∧ b.free = true)) :
    (merge c rest).IsChain fun a b => ¬ (a.free = true ∧ b.free = true) := by
  rcases rest with _ | ⟨next, rest⟩
  · exact List.isChain_singleton c
  · obtain ⟨rfl, htouch, -⟩ := ht
    rw [merge]
    split
    case isTrue hm =>
      -- the merged block is free like the neighbour that it replaces
      rcases rest with _ | ⟨b, rest⟩
      · exact List.isChain_singleton _
      · obtain ⟨hnb, hrest⟩ := List.isChain_cons_cons.1 h
        exact List.isChain_cons_cons.2 ⟨fun hf => hnb ⟨hm.2.1, hf.2⟩, hrest⟩
    case isFalse hno =>
      exact List.isChain_cons_cons.2 ⟨fun hf => hno ⟨hf.1, hf.2, htouch.symm⟩, h⟩

theorem isChain_rejoin {lo hi : ℕ} {before blocks : List MemBlock}
    (ht : Tiles lo hi (before ++ blocks))
    (hbefore : before.IsChain fun a b => ¬ (a.free = true ∧ b.free = true))
    (h : blocks.IsChain fun a b => ¬ (a.free = true ∧ b.free = true)) :
    (rejoin before blocks).IsChain fun a b => ¬ (a.free = true ∧ b.free = true) := by
  induction before generalizing lo with
  | nil => exact h
  | cons a before ih =>
      rcases before with _ | ⟨b, before⟩
      · exact isChain_merge ht h
      · obtain ⟨hab, hrest⟩ := List.isChain_cons_cons.1 hbefore
        have hjoined := ih ht.2 hrest
        obtain ⟨first, others, he, -, hfree⟩ := rejoin_eq_cons b before blocks
        rw [rejoin, he]
        rw [he] at hjoined
        refine List.isChain_cons_cons.2 ⟨?_, hjoined⟩
        rw [hfree]
        exact hab

theorem Packed.free (h : m.Packed) (remote_addr : ℕ) : (m.free remote_addr).2.Packed := by
  unfold RemoteMemory.free rdma_sim_free
  rcases hf : free_walk remote_addr none m.blocks with _ | blocks'
  · exact h
  · refine ⟨h.tiles.free_walk hf, ?_⟩
    obtain ⟨before, current, rest, hsplit, -, -, -, rfl⟩ := free_walk_spec hf
    have htiles := h.tiles
    have hchain := h.apart
    rw [hsplit] at htiles hchain
    obtain ⟨hbefore, hcurrent, -⟩ := List.isChain_append.1 hchain
    obtain ⟨mid, htbefore, htcurrent⟩ := tiles_append.1 htiles
    have htfreed : Tiles mid (SIM_REMOTE_MEMORY_BASE + SIM_REMOTE_MEMORY_SIZE)
        ({ current with free := true } :: rest) := htcurrent
    exact isChain_rejoin (tiles_append.2 ⟨mid, htbefore, htfreed.merge⟩) hbefore
      (isChain_merge htfreed hcurrent.tail)

/-- The first block that fits, and what stands before it. -/
theorem first_fit_eq_some {size : ℕ} {blocks : List MemBlock} {current : MemBlock} :
    first_fit size blocks = some current ↔ ∃ before rest, blocks = before ++ current :: rest ∧
      (∀ b ∈ before, ¬ (b.free = true ∧ size ≤ b.size)) ∧ current.free = true ∧
      size ≤ current.size := by
  rw [first_fit, List.find?_eq_some_iff_append]
  simp only [decide_eq_true_eq, Bool.not_eq_true', decide_eq_false_iff_not]
  constructor
  · rintro ⟨hfit, before, rest, hsplit, hbefore⟩
    exact ⟨before, rest, hsplit, hbefore, hfit⟩
  · rintro ⟨before, rest, hsplit, hbefore, hfit⟩
    exact ⟨hfit, before, rest, hsplit, hbefore⟩

/-- The walk stops at the first block that fits. -/
theorem allocate_walk_append {split : Bool} {size : ℕ} {before rest : List MemBlock}
    {current : MemBlock} (hbefore : ∀ b ∈ before, ¬ (b.free = true ∧ size ≤ b.size))
    (hfree : current.free = true) (hfit : size ≤ current.size) :
    allocate_walk split size (before ++ current :: rest) = some (current.addr, before ++
      { addr := current.addr, size := size, free := false } ::
        (leftover split size current ++ rest)) := by
  induction before with
  | nil =>
      rw [List.nil_append, allocate_walk, if_pos ⟨hfree, hfit⟩]
      unfold leftover
      split <;> rfl
  | cons b before ih =>
      obtain ⟨hb, hbefore⟩ := List.forall_mem_cons.1 hbefore
      rw [List.cons_append, allocate_walk, if_neg hb, ih hbefore]
      rfl

/-- What the calls do to the bytes of the blocks. -/
theorem blockBytes_append (l r : List MemBlock) :
    blockBytes (l ++ r) = blockBytes l + blockBytes r := by
  rw [blockBytes, List.map_append, List.sum_append]
  rfl

theorem blockBytes_cons (b : MemBlock) (blocks : List MemBlock) :
    blockBytes (b :: blocks) = b.size + blockBytes blocks := by
  rw [blockBytes, List.map_cons, List.sum_cons]
  rfl

theorem blockBytes_tiles {lo hi : ℕ} {blocks : List MemBlock} (h : Tiles lo hi blocks) :
    lo + blockBytes blocks = hi := by
  induction blocks generalizing lo with
  | nil => exact h
  | cons b rest ih =>
      have hrest := ih h.2
      rw [blockBytes_cons]
      omega

/-- A block that is cut stays apart from its neighbours: the part handed out is allocated, and the
rest is followed by what followed the block. -/
theorem isChain_cut {split : Bool} {size : ℕ} {before rest : List MemBlock} {current : MemBlock}
    (h : (before ++ current :: rest).IsChain fun a b => ¬ (a.free = true ∧ b.free = true))
    (hfree : current.free = true) :
    (before ++ { addr := current.addr, size := size, free := false } ::
      (leftover split size current ++ rest)).IsChain
        fun a b => ¬ (a.free = true ∧ b.free = true) := by
  obtain ⟨hbefore, hcurrent, -⟩ := List.isChain_append.1 h
  have hrest : (leftover split size current ++ rest).IsChain
      fun a b => ¬ (a.free = true ∧ b.free = true) := by
    unfold leftover
    split
    · rcases rest with _ | ⟨b, rest⟩
      · exact List.isChain_singleton _
      · obtain ⟨hcb, hrest⟩ := List.isChain_cons_cons.1 hcurrent
        exact List.isChain_cons_cons.2 ⟨fun hf => hcb ⟨hfree, hf.2⟩, hrest⟩
    · exact hcurrent.tail
  refine List.isChain_append.2 ⟨hbefore, ?_, ?_⟩
  · rcases hl : leftover split size current ++ rest with _ | ⟨b, rest'⟩
    · exact List.isChain_singleton _
    · rw [hl] at hrest
      exact List.isChain_cons_cons.2 ⟨fun hf => Bool.false_ne_true hf.1, hrest⟩
  · rintro x - y hy
    obtain rfl := Option.some.inj hy
    exact fun hf => Bool.false_ne_true hf.2

/-- An allocation that does not lose the rest of its block. -/
theorem Packed.allocate (h : m.Packed) {size : ℕ} {split : Bool}
    (hkeeps : ¬ m.LosesRest (.allocate size split)) : (m.allocate size split).2.Packed := by
  unfold RemoteMemory.allocate
  rcases ha : rdma_sim_allocate split size m.blocks with e | ⟨addr, blocks'⟩
  · exact h
  · have h0 : size ≠ 0 := by
      intro h0
      rw [rdma_sim_allocate, if_pos h0] at ha
      cases ha
    obtain ⟨before, current, rest, hsplit, hbefore, hfree, hfit, rfl, rfl⟩ :=
      allocate_walk_spec (rdma_sim_allocate_eq_ok ha)
    -- the rest of the block is kept, or there is none: the list is the one after a split
    have hleft : leftover split (round_up size) current = leftover true (round_up size) current := by
      cases split with
      | true => rfl
      | false =>
          have hexact : ¬ round_up size < current.size := fun hlt =>
            hkeeps ⟨h0, rfl, current,
              first_fit_eq_some.2 ⟨before, rest, hsplit, hbefore, hfree, hfit⟩, hlt⟩
          simp [leftover, hexact]
    have htiles := h.tiles
    have hchain := h.apart
    rw [hsplit] at htiles hchain
    rw [hleft]
    exact ⟨htiles.allocate_walk (allocate_walk_append hbefore hfree hfit),
      isChain_cut hchain hfree⟩

/-- An allocation that does leaves fewer bytes in the blocks. -/
theorem blockBytes_of_losesRest {size : ℕ} {split : Bool}
    (h : m.LosesRest (.allocate size split)) :
    blockBytes (m.allocate size split).2.blocks < blockBytes m.blocks := by
  obtain ⟨h0, rfl, current, hfirst, hlt⟩ := h
  obtain ⟨before, rest, hsplit, hbefore, hfree, hfit⟩ := first_fit_eq_some.1 hfirst
  have hlost : leftover false (round_up size) current = [] := by simp [leftover]
  have hwalk : allocate_walk false (round_up size) (before ++ current :: rest) = _ :=
    allocate_walk_append hbefore hfree hfit
  rw [hlost, List.nil_append, ← hsplit] at hwalk
  have hresult : (m.allocate size false).2.blocks = before ++
      { addr := current.addr, size := round_up size, free := false } :: rest := by
    rw [RemoteMemory.allocate, rdma_sim_allocate, if_neg h0, hwalk]
  rw [hresult, hsplit, blockBytes_append, blockBytes_append, blockBytes_cons, blockBytes_cons]
  show blockBytes before + (round_up size + blockBytes rest) < _
  omega

/-- The blocks have the bytes of the whole region, and once all allocated blocks are freed, in
whatever order, the whole region can be allocated again. -/
structure Kept (m : RemoteMemory) : Prop where
  bytes : blockBytes m.blocks = SIM_REMOTE_MEMORY_SIZE
  restored : ∀ order : List ℕ, order.Perm ((live m.blocks).map MemBlock.addr) → ∀ split,
    ((Guarded.exec step (order.map Call.free) m).allocate SIM_REMOTE_MEMORY_SIZE split).1 =
      .ok SIM_REMOTE_MEMORY_BASE

/-- A list without allocated blocks is the initial one. -/
theorem Packed.blocks_eq (h : m.Packed) (hlive : live m.blocks = []) :
    m.blocks = init_sim_remote_memory_allocator := by
  have hfree : ∀ b ∈ m.blocks, b.free = true := by
    intro b hb
    by_contra hused
    have hmem : b ∈ live m.blocks := mem_live.2 ⟨hb, eq_false_of_ne_true hused⟩
    rw [hlive] at hmem
    exact absurd hmem List.not_mem_nil
  have htiles := h.tiles
  have hchain := h.apart
  rcases hblocks : m.blocks with _ | ⟨⟨addr, size, free⟩, _ | ⟨c, rest⟩⟩
  · rw [hblocks] at htiles
    have hempty : SIM_REMOTE_MEMORY_BASE = SIM_REMOTE_MEMORY_BASE + SIM_REMOTE_MEMORY_SIZE := htiles
    exact absurd hempty (by decide)
  · rw [hblocks] at htiles hfree
    obtain ⟨haddr, hend⟩ := htiles
    have hsize : size = SIM_REMOTE_MEMORY_SIZE := Nat.add_left_cancel hend
    have hf : free = true := hfree _ List.mem_cons_self
    rw [init_sim_remote_memory_allocator, hsize, hf, ← haddr]
  · rw [hblocks] at hchain hfree
    obtain ⟨hb, hrest⟩ := List.forall_mem_cons.1 hfree
    exact absurd ⟨hb, hrest c List.mem_cons_self⟩ (List.isChain_cons_cons.1 hchain).1

/-- Freeing all allocated blocks. -/
theorem Packed.free_all {order : List ℕ} (h : m.Packed)
    (horder : order.Perm ((live m.blocks).map MemBlock.addr)) :
    (Guarded.exec step (order.map Call.free) m).blocks = init_sim_remote_memory_allocator :=
  (exec_free (I := Packed) (fun _ remote_addr hm => hm.free remote_addr) h order).blocks_eq
    (live_free_all horder)

theorem Packed.kept (h : m.Packed) : m.Kept := by
  refine ⟨Nat.add_left_cancel (blockBytes_tiles h.tiles), fun order horder split => ?_⟩
  rw [RemoteMemory.allocate, h.free_all horder]
  cases split with
  | true => rfl
  | false => rfl

/-- **Failed splits.** In all states of a run of allocations and releases, of any sizes and any
addresses, the blocks have the bytes of the region, and freeing all of them makes the whole region
available again, if and only if no call cuts a block whose rest cannot get a node. -/
theorem kept_iff_no_rest_lost (calls : List Call) :
    (∀ n, (exec (calls.take n)).Kept) ↔
      Guarded.Meets step (fun m c => ¬ m.LosesRest c) calls {} := by
  refine Guarded.always_iff_meets (I := Packed) (fun _ hm => hm.kept) (fun m c hm hkept => ?_)
    (fun m c hm hc => ?_) packed_start
  · intro hlost
    cases c with
    | allocate size split =>
        have hless := blockBytes_of_losesRest hlost
        have hbytes : blockBytes (m.allocate size split).2.blocks = _ := hkept.bytes
        rw [hbytes, hm.kept.bytes] at hless
        exact absurd hless (lt_irrefl _)
    | free remote_addr => exact hlost
  · cases c with
    | allocate size split => exact hm.allocate hc
    | free remote_addr => exact hm.free remote_addr

/-- The rest of the first block cannot get a node: all but one page of the region is lost. -/
theorem not_kept_failedSplit : ¬ ∀ n, (exec ([Call.allocate 4096 false].take n)).Kept := by
  intro h
  have hbytes : blockBytes (exec ([Call.allocate 4096 false].take 1)).blocks = 4096 := by
    decide +kernel
  exact absurd (hbytes.symm.trans (h 1).bytes) (by decide)

end RemoteMemory

end SwapPrefetch
