/-
The server's block allocator (`src/rdma_sim.c:20-157`).

The block list is a sequence in list order. An address is a number; the code's addresses
are `uint64_t`, and no sum in the walks can wrap, because all blocks lie in the simulated
memory (`InRemote`, kept by both routines). Only the rounding of the requested size can.
-/
import Mathlib.Tactic

set_option autoImplicit false

namespace SwapPrefetch

/-- The `errno` values the RDMA simulation returns. -/
inductive Errno where
  | EINVAL
  | ENOTCONN
  | ENOMEM
  | EFAULT
  | ENOSYS
  | ENOENT
  | EMSGSIZE
  | ETIMEDOUT
deriving DecidableEq, Repr

/-- `SIM_REMOTE_MEMORY_SIZE`. -/
abbrev SIM_REMOTE_MEMORY_SIZE : ℕ := 1024 * 1024 * 1024

/-- `SIM_REMOTE_MEMORY_ALIGN`. -/
abbrev SIM_REMOTE_MEMORY_ALIGN : ℕ := 4096

/-- The conceptual address of the first byte of the server's memory. -/
abbrev SIM_REMOTE_MEMORY_BASE : ℕ := 0x4000000000

/-- `mem_block_t`. -/
structure MemBlock where
  addr : ℕ
  size : ℕ
  free : Bool
deriving DecidableEq, Repr

/-- `init_sim_remote_memory_allocator` (`src/rdma_sim.c:45`). -/
def init_sim_remote_memory_allocator : List MemBlock :=
  [{ addr := SIM_REMOTE_MEMORY_BASE, size := SIM_REMOTE_MEMORY_SIZE, free := true }]

/-! ## Allocation -/

/-- The walk of `rdma_sim_allocate`: take the first free block that is large enough, and
split it if the node of the rest can be allocated (`split`). -/
def allocate_walk (split : Bool) (size : ℕ) : List MemBlock → Option (ℕ × List MemBlock)
  | [] => none
  | current :: rest =>
      if current.free ∧ size ≤ current.size then
        let rest :=
          if size < current.size ∧ split then
            { addr := current.addr + size, size := current.size - size, free := true } :: rest
          else rest
        some (current.addr, { current with size := size, free := false } :: rest)
      else
        (allocate_walk split size rest).map fun r => (r.1, current :: r.2)

/-- The size rounded up to `SIM_REMOTE_MEMORY_ALIGN`, in 64 bits. -/
def round_up (size : ℕ) : ℕ :=
  (size + (SIM_REMOTE_MEMORY_ALIGN - 1)) % 2 ^ 64 / SIM_REMOTE_MEMORY_ALIGN * SIM_REMOTE_MEMORY_ALIGN

/-- `rdma_sim_allocate` (`src/rdma_sim.c:84`) in the server. -/
def rdma_sim_allocate (split : Bool) (size : ℕ) (blocks : List MemBlock) :
    Except Errno (ℕ × List MemBlock) :=
  if size = 0 then .error .EINVAL
  else
    match allocate_walk split (round_up size) blocks with
    | some r => .ok r
    | none => .error .ENOMEM

/-! ## Release -/

/-- Merge a block with the next one, when both are free and adjacent. -/
def merge (current : MemBlock) : List MemBlock → List MemBlock
  | [] => [current]
  | next :: rest =>
      if current.free ∧ next.free ∧ current.addr + current.size = next.addr then
        { current with size := current.size + next.size } :: rest
      else current :: next :: rest

/-- The walk of `rdma_sim_free`, behind the block `prev`. -/
def free_walk (remote_addr : ℕ) : Option MemBlock → List MemBlock → Option (List MemBlock)
  | _, [] => none
  | prev, current :: rest =>
      if current.free = false ∧ current.addr = remote_addr then
        let blocks := merge { current with free := true } rest
        match prev with
        | some prev => some (merge prev blocks)
        | none => some blocks
      else
        (free_walk remote_addr (some current) rest).map fun blocks => prev.toList ++ blocks

/-- `rdma_sim_free` (`src/rdma_sim.c:119`) in the server. -/
def rdma_sim_free (remote_addr : ℕ) (blocks : List MemBlock) : Except Errno (List MemBlock) :=
  match free_walk remote_addr none blocks with
  | some blocks => .ok blocks
  | none => .error .EINVAL

/-! ## Where blocks lie -/

/-- The block lies in the simulated memory. -/
def MemBlock.InRemote (b : MemBlock) : Prop :=
  SIM_REMOTE_MEMORY_BASE ≤ b.addr ∧
    b.addr + b.size ≤ SIM_REMOTE_MEMORY_BASE + SIM_REMOTE_MEMORY_SIZE

/-- An allocated block lies in the simulated memory, and so do the blocks that are left. -/
theorem allocate_walk_inRemote {split : Bool} {size addr : ℕ} {blocks blocks' : List MemBlock}
    (h : ∀ b ∈ blocks, b.InRemote) (ha : allocate_walk split size blocks = some (addr, blocks')) :
    MemBlock.InRemote { addr := addr, size := size, free := false } ∧
      ∀ b ∈ blocks', b.InRemote := by
  induction blocks generalizing blocks' with
  | nil => cases ha
  | cons current rest ih =>
      obtain ⟨hc, hrest⟩ := List.forall_mem_cons.1 h
      rw [allocate_walk] at ha
      split at ha
      case isTrue hfit =>
        obtain ⟨rfl, rfl⟩ := Prod.mk.inj (Option.some.inj ha)
        have htaken : MemBlock.InRemote { addr := current.addr, size := size, free := false } :=
          ⟨hc.1, le_trans (Nat.add_le_add_left hfit.2 _) hc.2⟩
        refine ⟨htaken, List.forall_mem_cons.2 ⟨htaken, ?_⟩⟩
        split
        case isTrue hsplit =>
          refine List.forall_mem_cons.2 ⟨⟨le_trans hc.1 (Nat.le_add_right _ _), ?_⟩, hrest⟩
          have hend := hc.2
          simp only
          omega
        case isFalse => exact hrest
      case isFalse =>
        obtain ⟨r, hr, he⟩ := Option.map_eq_some_iff.1 ha
        obtain ⟨rfl, rfl⟩ := Prod.mk.inj he
        obtain ⟨htaken, hrest'⟩ := ih hrest hr
        exact ⟨htaken, List.forall_mem_cons.2 ⟨hc, hrest'⟩⟩

theorem merge_inRemote {c : MemBlock} {rest : List MemBlock} (hc : c.InRemote)
    (h : ∀ b ∈ rest, b.InRemote) : ∀ b ∈ merge c rest, b.InRemote := by
  rcases rest with _ | ⟨next, rest⟩
  · exact List.forall_mem_singleton.2 hc
  · obtain ⟨hn, hrest⟩ := List.forall_mem_cons.1 h
    rw [merge]
    split
    case isTrue hm =>
      refine List.forall_mem_cons.2 ⟨⟨hc.1, ?_⟩, hrest⟩
      have hend := hn.2
      simp only
      omega
    case isFalse => exact List.forall_mem_cons.2 ⟨hc, h⟩

theorem free_walk_inRemote {remote_addr : ℕ} {o : Option MemBlock}
    {blocks blocks' : List MemBlock} (hp : ∀ b ∈ o, b.InRemote)
    (h : ∀ b ∈ blocks, b.InRemote) (hf : free_walk remote_addr o blocks = some blocks') :
    ∀ b ∈ blocks', b.InRemote := by
  induction blocks generalizing o blocks' with
  | nil => cases hf
  | cons current rest ih =>
      obtain ⟨hc, hrest⟩ := List.forall_mem_cons.1 h
      rw [free_walk] at hf
      split at hf
      case isTrue =>
        have hm := merge_inRemote (c := { current with free := true }) hc hrest
        rcases o with _ | prev
        · cases hf
          exact hm
        · cases hf
          exact merge_inRemote (hp prev rfl) hm
      case isFalse =>
        obtain ⟨bs, hbs, rfl⟩ := Option.map_eq_some_iff.1 hf
        have hrest' := ih (o := some current) (fun b hb => Option.some.inj hb ▸ hc) hrest hbs
        intro b hb
        rcases List.mem_append.1 hb with hb | hb
        · exact hp b (Option.mem_toList.1 hb)
        · exact hrest' b hb

/-! ## Runs of the allocator -/

/-- The block lists that the server's allocator can reach. -/
inductive AllocReaches : List MemBlock → Prop
  | init : AllocReaches init_sim_remote_memory_allocator
  | allocate {blocks blocks' : List MemBlock} {split : Bool} {size addr : ℕ} :
      AllocReaches blocks → rdma_sim_allocate split size blocks = .ok (addr, blocks') →
      AllocReaches blocks'
  | free {blocks blocks' : List MemBlock} {remote_addr : ℕ} :
      AllocReaches blocks → rdma_sim_free remote_addr blocks = .ok blocks' → AllocReaches blocks'

theorem rdma_sim_allocate_eq_ok {split : Bool} {size addr : ℕ} {blocks blocks' : List MemBlock}
    (h : rdma_sim_allocate split size blocks = .ok (addr, blocks')) :
    allocate_walk split (round_up size) blocks = some (addr, blocks') := by
  rw [rdma_sim_allocate] at h
  split at h
  · cases h
  · split at h
    case h_1 r hr =>
      cases h
      exact hr
    case h_2 => cases h

/-- Every block of a reachable list lies in the simulated memory. -/
theorem AllocReaches.inRemote {blocks : List MemBlock} (h : AllocReaches blocks) :
    ∀ b ∈ blocks, b.InRemote := by
  induction h with
  | init => exact List.forall_mem_singleton.2 ⟨le_refl _, le_refl _⟩
  | allocate _ ha ih => exact (allocate_walk_inRemote ih (rdma_sim_allocate_eq_ok ha)).2
  | @free blocks _ remote_addr _ hf ih =>
      rw [rdma_sim_free] at hf
      split at hf
      case h_1 bs hbs =>
        cases hf
        exact free_walk_inRemote (by simp) ih hbs
      case h_2 => cases hf

/-- `remote_addr` is a block of `size` bytes that the server's allocator returned. -/
def AllocReturned (size remote_addr : ℕ) : Prop :=
  ∃ blocks blocks' split, AllocReaches blocks ∧
    rdma_sim_allocate split size blocks = .ok (remote_addr, blocks')

/-- A block of one page lies in the simulated memory. -/
theorem AllocReturned.page_inRemote {remote_addr : ℕ} (h : AllocReturned 4096 remote_addr) :
    SIM_REMOTE_MEMORY_BASE ≤ remote_addr ∧
      remote_addr + 4096 ≤ SIM_REMOTE_MEMORY_BASE + SIM_REMOTE_MEMORY_SIZE := by
  obtain ⟨blocks, blocks', split, hb, ha⟩ := h
  exact (allocate_walk_inRemote hb.inRemote (rdma_sim_allocate_eq_ok ha)).1

end SwapPrefetch
