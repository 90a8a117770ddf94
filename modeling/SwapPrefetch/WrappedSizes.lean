/-
Which sizes the server's allocator can be asked for (`src/rdma_sim.c:84-117`).

`rdma_sim_allocate` takes any `size_t` and rounds it up in 64 bits before it compares anything. The
mask is an `int`; it is sign-extended, so the low twelve bits are cleared and nothing else. For the
last 4095 sizes, those above `2 ^ 64 - 4096`, the sum wraps and the rounded size is `0`. Every free
block is large enough for that: the call returns `0` and hands out a block without bytes. Up to
`2 ^ 64 - 4096` the rounded size is at least the requested one, and a size that is larger than the
region fits into no block.

The earlier calls may have had any sizes too, so the block list can hold empty blocks, and
`Represents` is not available here. What such calls do not break is `Laid`: blocks lie in the
region, each behind the blocks that stand before it in the list.
-/
import Mathlib.Tactic
import SwapPrefetch.RdmaBlocks

set_option autoImplicit false

namespace SwapPrefetch

/-! ## The layout of the block list -/

/-- `b` begins behind `a`. -/
def MemBlock.Precedes (a b : MemBlock) : Prop := a.addr + a.size ≤ b.addr

/-- The blocks lie in the simulated memory, in list order. They may be empty. -/
structure Laid (blocks : List MemBlock) : Prop where
  inside : ∀ b ∈ blocks, b.InRemote
  order : blocks.Pairwise MemBlock.Precedes

theorem laid_init : Laid init_sim_remote_memory_allocator where
  inside := List.forall_mem_singleton.2 ⟨le_refl _, le_refl _⟩
  order := List.pairwise_singleton _ _

/-- No block is larger than the region. -/
theorem Laid.size_le {blocks : List MemBlock} (h : Laid blocks) {b : MemBlock} (hb : b ∈ blocks) :
    b.size ≤ SIM_REMOTE_MEMORY_SIZE := by
  obtain ⟨hlo, hhi⟩ := h.inside b hb
  omega

/-- The part that is handed out and the part that is left lie where the free block lay. -/
theorem pairwise_cut {split : Bool} {size : ℕ} {before rest : List MemBlock} {current : MemBlock}
    (h : (before ++ current :: rest).Pairwise MemBlock.Precedes) (hfit : size ≤ current.size) :
    (before ++ { addr := current.addr, size := size, free := false } ::
      (leftover split size current ++ rest)).Pairwise MemBlock.Precedes := by
  obtain ⟨hbefore, hcurrent, hlr⟩ := List.pairwise_append.1 h
  obtain ⟨hnext, hrest⟩ := List.pairwise_cons.1 hcurrent
  have hafter : (leftover split size current ++ rest).Pairwise MemBlock.Precedes := by
    apply List.pairwise_append.2
    refine ⟨(leftover_pairwise split size current).imp fun hab => hab.1, hrest, ?_⟩
    intro a ha b hb
    obtain ⟨-, hend, -⟩ := mem_leftover ha
    show a.addr + a.size ≤ b.addr
    rw [hend]
    exact hnext b hb
  apply List.pairwise_append.2
  refine ⟨hbefore, List.pairwise_cons.2 ⟨?_, hafter⟩, ?_⟩
  · intro x hx
    show current.addr + size ≤ x.addr
    rcases List.mem_append.1 hx with hx | hx
    · exact (mem_leftover hx).1.ge
    · have hle : current.addr + current.size ≤ x.addr := hnext x hx
      omega
  · intro a ha x hx
    have hac : a.addr + a.size ≤ current.addr := hlr a ha current List.mem_cons_self
    rcases List.mem_cons.1 hx with rfl | hx
    · exact hac
    · rcases List.mem_append.1 hx with hx | hx
      · obtain ⟨haddr, -, -⟩ := mem_leftover hx
        show a.addr + a.size ≤ x.addr
        omega
      · exact hlr a ha x (List.mem_cons_of_mem current hx)

theorem pairwise_merge {c : MemBlock} {rest : List MemBlock}
    (h : (c :: rest).Pairwise MemBlock.Precedes) :
    (merge c rest).Pairwise MemBlock.Precedes := by
  rcases rest with _ | ⟨next, rest⟩
  · exact h
  · rw [merge]
    split
    case isTrue hm =>
      obtain ⟨hnext, hrest⟩ := List.pairwise_cons.1 (List.pairwise_cons.1 h).2
      refine List.pairwise_cons.2 ⟨fun b hb => ?_, hrest⟩
      -- the joined block ends where the second of the two ended
      have hle : next.addr + next.size ≤ b.addr := hnext b hb
      show c.addr + (c.size + next.size) ≤ b.addr
      omega
    case isFalse => exact h

theorem rejoin_le {lo : ℕ} {before blocks : List MemBlock} (hbefore : ∀ b ∈ before, lo ≤ b.addr)
    (h : ∀ b ∈ blocks, lo ≤ b.addr) : ∀ b ∈ rejoin before blocks, lo ≤ b.addr := by
  induction before with
  | nil => exact h
  | cons a before ih =>
      obtain ⟨ha, hbefore⟩ := List.forall_mem_cons.1 hbefore
      rcases before with _ | ⟨b, before⟩
      · exact merge_le ha h
      · exact List.forall_mem_cons.2 ⟨ha, ih hbefore⟩

theorem pairwise_rejoin {before blocks : List MemBlock}
    (h : (before ++ blocks).Pairwise MemBlock.Precedes) :
    (rejoin before blocks).Pairwise MemBlock.Precedes := by
  induction before with
  | nil => exact h
  | cons a before ih =>
      rcases before with _ | ⟨b, before⟩
      · exact pairwise_merge h
      · obtain ⟨ha, hrest⟩ := List.pairwise_cons.1 h
        refine List.pairwise_cons.2 ⟨?_, ih hrest⟩
        -- joining moves no block to a lower address
        obtain ⟨hbefore, hblocks⟩ := List.forall_mem_append.1 ha
        exact rejoin_le hbefore hblocks

/-- **Allocation** keeps the layout, whatever size it looks for. -/
theorem Laid.allocate_walk {split : Bool} {size addr : ℕ} {blocks blocks' : List MemBlock}
    (h : Laid blocks) (ha : allocate_walk split size blocks = some (addr, blocks')) :
    Laid blocks' := by
  refine ⟨(allocate_walk_inRemote h.inside ha).2, ?_⟩
  obtain ⟨before, current, rest, rfl, -, -, hfit, rfl, rfl⟩ := allocate_walk_spec ha
  exact pairwise_cut h.order hfit

/-- **Release** keeps it too. -/
theorem Laid.free_walk {remote_addr : ℕ} {blocks blocks' : List MemBlock} (h : Laid blocks)
    (hf : free_walk remote_addr none blocks = some blocks') : Laid blocks' := by
  refine ⟨free_walk_inRemote (by simp) h.inside hf, ?_⟩
  obtain ⟨before, current, rest, rfl, -, -, -, rfl⟩ := free_walk_spec hf
  obtain ⟨hbefore, hcurrent, hlr⟩ := List.pairwise_append.1 h.order
  obtain ⟨hnext, hrest⟩ := List.pairwise_cons.1 hcurrent
  have hfreed : ({ current with free := true } :: rest).Pairwise MemBlock.Precedes :=
    List.pairwise_cons.2 ⟨hnext, hrest⟩
  apply pairwise_rejoin
  refine List.pairwise_append.2 ⟨hbefore, pairwise_merge hfreed, fun a ha => ?_⟩
  exact merge_le (hlr a ha current List.mem_cons_self)
    fun b hb => hlr a ha b (List.mem_cons_of_mem current hb)

namespace RemoteMemory

variable {m : RemoteMemory} {size : ℕ}

theorem allocate_laid (h : Laid m.blocks) (size : ℕ) (split : Bool) :
    Laid (m.allocate size split).2.blocks := by
  unfold RemoteMemory.allocate
  rcases ha : rdma_sim_allocate split size m.blocks with e | ⟨addr, blocks'⟩
  · exact h
  · exact h.allocate_walk (rdma_sim_allocate_eq_ok ha)

theorem free_laid (h : Laid m.blocks) (remote_addr : ℕ) :
    Laid (m.free remote_addr).2.blocks := by
  unfold RemoteMemory.free rdma_sim_free
  rcases hf : free_walk remote_addr none m.blocks with _ | blocks'
  · exact h
  · exact h.free_walk hf

theorem step_laid (h : Laid m.blocks) (c : Call) : Laid (step c m).blocks := by
  cases c with
  | allocate size split => exact allocate_laid h size split
  | free remote_addr => exact free_laid h remote_addr

/-- The blocks are laid out after every sequence of calls, of any sizes. -/
theorem exec_laid (calls : List Call) : Laid (exec calls).blocks :=
  Guarded.exec_of_step (I := fun m : RemoteMemory => Laid m.blocks)
    (fun _ c hm => step_laid hm c) calls laid_init

/-! ## What a request is entitled to -/

/-- `b` is the block that a call marked as allocated: up to it the two lists agree, and at its
place the old list has a free block. -/
structure Marks (blocks blocks' before : List MemBlock) (b : MemBlock) (after : List MemBlock) :
    Prop where
  found : ∃ current rest, blocks = before ++ current :: rest ∧ current.free = true
  marked : blocks' = before ++ b :: after
  used : b.free = false

/-- The block that was marked begins at the address that was returned, has at least `size` bytes
and shares none with any other block. -/
def Grants (m : RemoteMemory) (size remote_addr : ℕ) (m' : RemoteMemory) : Prop :=
  ∃ before b after, Marks m.blocks m'.blocks before b after ∧ b.addr = remote_addr ∧
    size ≤ b.size ∧ ∀ other ∈ before ++ after, other.Disjoint b

/-- What a caller of `rdma_sim_allocate` relies on: a request that succeeds is granted, and one for
more than the whole region fails with `ENOMEM`. -/
structure Honours (m : RemoteMemory) (size : ℕ) : Prop where
  granted : ∀ split remote_addr, (m.allocate size split).1 = .ok remote_addr →
    m.Grants size remote_addr (m.allocate size split).2
  refused : SIM_REMOTE_MEMORY_SIZE < size → ∀ split, (m.allocate size split).1 = .error .ENOMEM

/-- A size above `2 ^ 64 - 4096` is rounded to `0`. -/
theorem round_up_wrapped (hlo : 2 ^ 64 - 4096 < size) (hhi : size < 2 ^ 64) : round_up size = 0 := by
  unfold round_up SIM_REMOTE_MEMORY_ALIGN
  omega

/-- Every other size is rounded up. -/
theorem le_round_up_of_le (h : size ≤ 2 ^ 64 - 4096) : size ≤ round_up size := by
  apply le_round_up
  omega

/-- What the walk decides, the call returns. -/
theorem allocate_eq_of_walk_none {split : Bool} (h0 : size ≠ 0)
    (h : allocate_walk split (round_up size) m.blocks = none) :
    (m.allocate size split).1 = .error .ENOMEM := by
  rw [RemoteMemory.allocate, rdma_sim_allocate, if_neg h0, h]

theorem walk_none_of_allocate_eq {split : Bool}
    (h : (m.allocate size split).1 = .error .ENOMEM) :
    allocate_walk split (round_up size) m.blocks = none := by
  rcases hwalk : allocate_walk split (round_up size) m.blocks with _ | r
  · rfl
  · rw [RemoteMemory.allocate, rdma_sim_allocate] at h
    split at h
    case h_1 => cases h
    case h_2 e he =>
      by_cases h0 : size = 0
      · rw [if_pos h0] at he
        cases he
        cases h
      · rw [if_neg h0, hwalk] at he
        cases he

/-- The block that the walk marks lies apart from the others; it has the rounded size. -/
theorem grants_of_laid (h : Laid m.blocks) {split : Bool} {remote_addr : ℕ}
    (hround : size ≤ round_up size) (ha : (m.allocate size split).1 = .ok remote_addr) :
    m.Grants size remote_addr (m.allocate size split).2 := by
  unfold RemoteMemory.allocate at ha ⊢
  rcases hal : rdma_sim_allocate split size m.blocks with e | ⟨addr, blocks'⟩ <;> rw [hal] at ha
  · cases ha
  · obtain rfl : addr = remote_addr := Except.ok.inj ha
    have hwalk := rdma_sim_allocate_eq_ok hal
    have hlaid := h.allocate_walk hwalk
    obtain ⟨before, current, rest, hblocks, -, hfree, -, -, rfl⟩ := allocate_walk_spec hwalk
    refine ⟨before, _, _, ⟨⟨current, rest, hblocks, hfree⟩, rfl, rfl⟩, rfl, hround, ?_⟩
    obtain ⟨-, hmarked, hlr⟩ := List.pairwise_append.1 hlaid.order
    intro other hother
    rcases List.mem_append.1 hother with hother | hother
    · exact Or.inl (hlr other hother _ List.mem_cons_self)
    · exact Or.inr ((List.pairwise_cons.1 hmarked).1 other hother)

/-- A size that does not wrap is honoured. -/
theorem honours_of_laid (h : Laid m.blocks) (hsize : size ≤ 2 ^ 64 - 4096) : m.Honours size := by
  have hround := le_round_up_of_le hsize
  refine ⟨fun split remote_addr ha => grants_of_laid h hround ha, fun hlarge split => ?_⟩
  apply allocate_eq_of_walk_none (by omega)
  rcases hwalk : allocate_walk split (round_up size) m.blocks with _ | ⟨addr, blocks'⟩
  · rfl
  · -- the walk would have found a block that is larger than the region
    obtain ⟨before, current, rest, hblocks, -, -, hfit, -, -⟩ := allocate_walk_spec hwalk
    have hmem : current ∈ m.blocks := by
      rw [hblocks]
      exact List.mem_append_right before List.mem_cons_self
    have hle := h.size_le hmem
    omega

/-- A request is refused when no block is free. -/
theorem honours_of_none_free (h : ∀ b ∈ m.blocks, b.free = false) (hsize : 2 ^ 64 - 4096 < size) :
    m.Honours size := by
  have hnone : ∀ split, (m.allocate size split).1 = .error .ENOMEM := by
    intro split
    apply allocate_eq_of_walk_none (by omega)
    rcases hwalk : allocate_walk split (round_up size) m.blocks with _ | ⟨addr, blocks'⟩
    · rfl
    · obtain ⟨before, current, rest, hblocks, -, hfree, -, -, -⟩ := allocate_walk_spec hwalk
      have hused : current.free = false := by
        apply h
        rw [hblocks]
        exact List.mem_append_right before List.mem_cons_self
      rw [hused] at hfree
      cases hfree
  refine ⟨fun split remote_addr ha => ?_, fun _ => hnone⟩
  rw [hnone split] at ha
  cases ha

/-- A size that wraps is not honoured while a block is free. -/
theorem Honours.none_free (h : m.Honours size) (hlo : 2 ^ 64 - 4096 < size)
    (hhi : size < 2 ^ 64) : ∀ b ∈ m.blocks, b.free = false := by
  intro b hb
  have hlarge : SIM_REMOTE_MEMORY_SIZE < size := lt_trans (by decide) hlo
  have hwalk := walk_none_of_allocate_eq (h.refused hlarge true)
  rw [round_up_wrapped hlo hhi] at hwalk
  by_contra hused
  have hsmall := allocate_walk_none hwalk b hb (eq_true_of_ne_false hused)
  exact Nat.not_lt_zero _ hsmall

/-- **Rounding.** In every state that calls of any sizes reach, and for every `size_t`: a request
that succeeds gets a block of its own with at least the requested bytes, and one that is larger than
the region fails, if and only if the size does not wrap when it is rounded up, or no block is free
anyway. -/
theorem honours_iff_not_wrapped (calls : List Call) (size : ℕ) (hsize : size < 2 ^ 64) :
    (exec calls).Honours size ↔
      size ≤ 2 ^ 64 - 4096 ∨ ∀ b ∈ (exec calls).blocks, b.free = false := by
  rcases Nat.lt_or_ge (2 ^ 64 - 4096) size with hwraps | hfits
  · constructor
    · intro h
      exact Or.inr (h.none_free hwraps hsize)
    · rintro (hle | hused)
      · exact absurd hwraps (not_lt.2 hle)
      · exact honours_of_none_free hused hwraps
  · exact iff_of_true (honours_of_laid (exec_laid calls) hfits) (Or.inl hfits)

/-- The largest size that does not wrap, in a state that a wrapped one has been in. -/
theorem honours_largestUnwrapped :
    (exec [.allocate 4096 true, .allocate (2 ^ 64 - 1) true]).Honours (2 ^ 64 - 4096) :=
  (honours_iff_not_wrapped _ (2 ^ 64 - 4096) (by decide)).2 (Or.inl le_rfl)

/-- The first request asks for `2 ^ 64 - 1` bytes. It succeeds, and the block it gets has none. -/
theorem not_honours_largestSize :
    ((exec []).allocate (2 ^ 64 - 1) true).1 = .ok SIM_REMOTE_MEMORY_BASE ∧
      (∀ b ∈ ((exec []).allocate (2 ^ 64 - 1) true).2.blocks, b.free = false → b.size = 0) ∧
      ¬ (exec []).Honours (2 ^ 64 - 1) := by
  have hresult : ((exec []).allocate (2 ^ 64 - 1) true).1 = .ok SIM_REMOTE_MEMORY_BASE := by
    decide +kernel
  refine ⟨hresult, by decide +kernel, fun h => ?_⟩
  rw [h.refused (by decide) true] at hresult
  cases hresult

end RemoteMemory

end SwapPrefetch
