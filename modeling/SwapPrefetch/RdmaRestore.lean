/-
Freeing blocks restores the server's allocator (`src/rdma_sim.c:84-157`).

If the rest of every block that is cut can be split off, the blocks fill the simulated memory
without a hole (`Tiles`). No two neighbours are both free (`Represents`), so the block list is the
only one with its allocated blocks: `fill` computes it from them. Two states of the allocator with
the same allocated blocks are therefore equal, and every question about the block list becomes one
about the allocated blocks.
-/
import Mathlib.Tactic
import SwapPrefetch.RdmaBlocks

set_option autoImplicit false

namespace SwapPrefetch

variable {lo hi : ℕ} {blocks blocks' : List MemBlock}

/-! ## Block lists without holes -/

/-- The blocks lie one behind the other and fill the memory from `lo` to `hi`. -/
def Tiles : ℕ → ℕ → List MemBlock → Prop
  | lo, hi, [] => lo = hi
  | lo, hi, b :: rest => b.addr = lo ∧ Tiles (lo + b.size) hi rest

theorem tiles_append {l r : List MemBlock} :
    Tiles lo hi (l ++ r) ↔ ∃ mid, Tiles lo mid l ∧ Tiles mid hi r := by
  induction l generalizing lo with
  | nil =>
      refine ⟨fun h => ⟨lo, rfl, h⟩, ?_⟩
      rintro ⟨mid, hl, hr⟩
      obtain rfl : lo = mid := hl
      exact hr
  | cons b l ih =>
      rw [List.cons_append, Tiles, ih]
      constructor
      · rintro ⟨hb, mid, hl, hr⟩
        exact ⟨mid, ⟨hb, hl⟩, hr⟩
      · rintro ⟨mid, ⟨hb, hl⟩, hr⟩
        exact ⟨hb, mid, hl, hr⟩

theorem Tiles.merge {c : MemBlock} {rest : List MemBlock} (h : Tiles lo hi (c :: rest)) :
    Tiles lo hi (merge c rest) := by
  rcases rest with _ | ⟨next, rest⟩
  · exact h
  · rw [SwapPrefetch.merge]
    split
    · obtain ⟨hc, -, hrest⟩ := h
      refine ⟨hc, ?_⟩
      rw [Nat.add_assoc] at hrest
      exact hrest
    · exact h

theorem Tiles.rejoin {before : List MemBlock} (h : Tiles lo hi (before ++ blocks)) :
    Tiles lo hi (rejoin before blocks) := by
  induction before generalizing lo with
  | nil => exact h
  | cons a before ih =>
      rcases before with _ | ⟨b, before⟩
      · exact h.merge
      · obtain ⟨ha, hrest⟩ := h
        exact ⟨ha, ih hrest⟩

/-- Cutting a block leaves no hole if its rest is split off. -/
theorem Tiles.allocate_walk {size addr : ℕ} (h : Tiles lo hi blocks)
    (ha : allocate_walk true size blocks = some (addr, blocks')) : Tiles lo hi blocks' := by
  obtain ⟨before, current, rest, rfl, -, -, hsize, rfl, rfl⟩ := allocate_walk_spec ha
  obtain ⟨mid, hbefore, hcurrent, hrest⟩ := tiles_append.1 h
  refine tiles_append.2 ⟨mid, hbefore, hcurrent, ?_⟩
  unfold leftover
  split
  · refine ⟨by rw [hcurrent], ?_⟩
    have hend : mid + size + (current.size - size) = mid + current.size := by omega
    show Tiles (mid + size + (current.size - size)) hi rest
    rw [hend]
    exact hrest
  case isFalse hno =>
    have hexact : size = current.size := by
      by_contra hne
      exact hno ⟨lt_of_le_of_ne hsize hne, rfl⟩
    show Tiles (mid + size) hi rest
    rw [hexact]
    exact hrest

theorem Tiles.free_walk {remote_addr : ℕ} (h : Tiles lo hi blocks)
    (hf : free_walk remote_addr none blocks = some blocks') : Tiles lo hi blocks' := by
  obtain ⟨before, current, rest, rfl, -, -, -, rfl⟩ := free_walk_spec hf
  obtain ⟨mid, hbefore, hrest⟩ := tiles_append.1 h
  have hmerged : Tiles mid hi (SwapPrefetch.merge { current with free := true } rest) :=
    Tiles.merge (c := { current with free := true }) hrest
  exact Tiles.rejoin (tiles_append.2 ⟨mid, hbefore, hmerged⟩)

/-! ## The allocated blocks determine the block list -/

/-- The free block from `lo` to `hi`, if there is room for one. -/
def gap (lo hi : ℕ) : List MemBlock :=
  if lo < hi then [{ addr := lo, size := hi - lo, free := true }] else []

/-- The block list with these allocated blocks. -/
def fill : ℕ → ℕ → List MemBlock → List MemBlock
  | lo, hi, [] => gap lo hi
  | lo, hi, b :: rest => gap lo b.addr ++ b :: fill (b.addr + b.size) hi rest

theorem gap_self (lo : ℕ) : gap lo lo = [] := if_neg (lt_irrefl lo)

theorem gap_block {b : MemBlock} (hfree : b.free = true) (hpos : 0 < b.size) :
    gap b.addr (b.addr + b.size) = [b] := by
  rw [gap, if_pos (Nat.lt_add_of_pos_right hpos), Nat.add_sub_cancel_left, ← hfree]

/-- **The block list is determined** by its allocated blocks. -/
theorem eq_fill_live (h : Represents blocks) (ht : Tiles lo hi blocks) :
    blocks = fill lo hi (live blocks) := by
  induction blocks generalizing lo with
  | nil =>
      obtain rfl : lo = hi := ht
      exact (gap_self lo).symm
  | cons b rest ih =>
      obtain ⟨rfl, hrest⟩ := ht
      have hfill := ih h.of_cons hrest
      cases hb : b.free with
      | false =>
          rw [live_cons_used rest hb, fill, gap_self, List.nil_append, ← hfill]
      | true =>
          have hpos := (h.sound b List.mem_cons_self).nonempty
          rw [live_cons_free rest hb]
          rcases rest with _ | ⟨c, rest⟩
          · obtain rfl : b.addr + b.size = hi := hrest
            exact (gap_block hb hpos).symm
          · -- the block behind a free one is allocated
            obtain ⟨hc, -⟩ := hrest
            have hused : c.free = false := by
              refine eq_false_of_ne_true fun hfree => ?_
              exact ((List.pairwise_cons.1 h.order).1 c List.mem_cons_self).2 ⟨hb, hfree, hc.symm⟩
            rw [live_cons_used rest hused, fill, hc, gap_self, List.nil_append] at hfill
            rw [live_cons_used rest hused, fill, hc, gap_block hb hpos, ← hfill]
            rfl

/-- A block that is allocated can be released. -/
theorem free_walk_isSome {remote_addr : ℕ} {o : Option MemBlock}
    (h : remote_addr ∈ (live blocks).map MemBlock.addr) :
    ∃ blocks', free_walk remote_addr o blocks = some blocks' := by
  induction blocks generalizing o with
  | nil => cases h
  | cons current rest ih =>
      rw [free_walk]
      split
      · rcases o with _ | prev
        · exact ⟨_, rfl⟩
        · exact ⟨_, rfl⟩
      case isFalse hno =>
        have hrest : remote_addr ∈ (live rest).map MemBlock.addr := by
          obtain ⟨b, hb, haddr⟩ := List.mem_map.1 h
          obtain ⟨hmem, hfree⟩ := mem_live.1 hb
          rcases List.mem_cons.1 hmem with rfl | hmem
          · exact absurd ⟨hfree, haddr⟩ hno
          · exact List.mem_map.2 ⟨b, mem_live.2 ⟨hmem, hfree⟩, haddr⟩
        obtain ⟨blocks', hbs⟩ := ih (o := some current) hrest
        exact ⟨_, by rw [hbs]; rfl⟩

/-! ## The states of the allocator -/

namespace RemoteMemory

variable {m m' : RemoteMemory}

/-- The node of a rest can be allocated. -/
def Call.Splits : Call → Prop
  | .allocate _ split => split = true
  | .free _ => True

instance (c : Call) : Decidable c.Splits :=
  match c with
  | .allocate _ split => inferInstanceAs (Decidable (split = true))
  | .free _ => isTrue trivial

/-- The block list has no hole, and the counter is exact. -/
structure Whole (m : RemoteMemory) : Prop where
  counted : m.Counted
  tiles : Tiles SIM_REMOTE_MEMORY_BASE (SIM_REMOTE_MEMORY_BASE + SIM_REMOTE_MEMORY_SIZE) m.blocks

theorem whole_start : Whole {} := ⟨counted_start, rfl, rfl⟩

theorem Whole.allocate (h : m.Whole) {size : ℕ} (hfits : (Call.allocate size true).Fits) :
    (m.allocate size true).2.Whole := by
  refine ⟨h.counted.allocate hfits, ?_⟩
  unfold RemoteMemory.allocate
  rcases ha : rdma_sim_allocate true size m.blocks with e | ⟨addr, blocks'⟩
  · exact h.tiles
  · exact h.tiles.allocate_walk (rdma_sim_allocate_eq_ok ha)

theorem Whole.free (h : m.Whole) (remote_addr : ℕ) : (m.free remote_addr).2.Whole := by
  refine ⟨h.counted.free remote_addr, ?_⟩
  unfold RemoteMemory.free rdma_sim_free
  rcases hf : free_walk remote_addr none m.blocks with _ | blocks'
  · exact h.tiles
  · exact h.tiles.free_walk hf

theorem Whole.step (h : m.Whole) {c : Call} (hc : c.Fits ∧ c.Splits) : (step c m).Whole := by
  cases c with
  | allocate size split =>
      obtain ⟨hfits, rfl⟩ := hc
      exact h.allocate hfits
  | free remote_addr => exact h.free remote_addr

/-- The state after a sequence of calls. -/
theorem exec_whole {calls : List Call} (h : ∀ c ∈ calls, c.Fits ∧ c.Splits) : (exec calls).Whole :=
  Guarded.exec_of_forall (P := fun c => c.Fits ∧ c.Splits) (I := Whole)
    (fun _ _ hm hc => hm.step hc) whole_start h

/-- **Two states with the same allocated blocks are equal.** -/
theorem Whole.ext (h : m.Whole) (h' : m'.Whole) (hlive : live m.blocks = live m'.blocks) : m = m' := by
  obtain ⟨blocks, used⟩ := m
  obtain ⟨blocks', used'⟩ := m'
  have hblocks : blocks = blocks' := by
    have he := eq_fill_live h.counted.blocks h.tiles
    rw [hlive] at he
    exact he.trans (eq_fill_live h'.counted.blocks h'.tiles).symm
  subst hblocks
  have hused : used = used' := h.counted.used.trans h'.counted.used.symm
  rw [hused]

/-- Releasing an allocated block takes it off the allocated blocks. -/
theorem free_live {remote_addr : ℕ} (h : remote_addr ∈ (live m.blocks).map MemBlock.addr) :
    (m.free remote_addr).1 = .ok () ∧ ∃ l b r, live m.blocks = l ++ b :: r ∧ b.addr = remote_addr ∧
      live (m.free remote_addr).2.blocks = l ++ r := by
  obtain ⟨blocks', hwalk⟩ := free_walk_isSome (o := none) h
  have hf : rdma_sim_free remote_addr m.blocks = .ok blocks' := by
    rw [rdma_sim_free, hwalk]
  obtain ⟨l, b, r, hold, hnew, haddr, -⟩ := rdma_sim_free_live hf
  unfold RemoteMemory.free
  rw [hf]
  exact ⟨rfl, l, b, r, hold, haddr, hnew⟩

/-- Releasing all allocated blocks, in any order, leaves none. -/
theorem live_free_all {order : List ℕ} (horder : order.Perm ((live m.blocks).map MemBlock.addr)) :
    live (Guarded.exec RemoteMemory.step (order.map Call.free) m).blocks = [] := by
  induction order generalizing m with
  | nil =>
      have hlive : live m.blocks = [] := by simpa using horder.symm
      exact hlive
  | cons remote_addr order ih =>
      have hmem : remote_addr ∈ (live m.blocks).map MemBlock.addr :=
        horder.mem_iff.1 List.mem_cons_self
      obtain ⟨-, l, b, r, hold, haddr, hnew⟩ := free_live hmem
      refine ih ?_
      rw [hold, List.map_append, List.map_cons, haddr] at horder
      show order.Perm ((live (m.free remote_addr).2.blocks).map MemBlock.addr)
      rw [hnew, List.map_append]
      exact (horder.trans List.perm_middle).cons_inv

/-- What every release keeps holds after a sequence of releases. -/
theorem exec_free {I : RemoteMemory → Prop} (h : ∀ m remote_addr, I m → I (m.free remote_addr).2)
    (hm : I m) (order : List ℕ) : I (Guarded.exec RemoteMemory.step (order.map Call.free) m) := by
  refine Guarded.exec_of_forall (P := fun c => ∃ remote_addr, c = Call.free remote_addr) ?_ hm ?_
  · rintro m _ hm ⟨remote_addr, rfl⟩
    exact h m remote_addr hm
  · intro c hc
    obtain ⟨remote_addr, -, rfl⟩ := List.mem_map.1 hc
    exact ⟨remote_addr, rfl⟩

/-- **Releasing all allocated blocks** restores the initial state. -/
theorem Whole.free_all {order : List ℕ} (h : m.Whole)
    (horder : order.Perm ((live m.blocks).map MemBlock.addr)) :
    Guarded.exec RemoteMemory.step (order.map Call.free) m = {} :=
  (exec_free (I := Whole) (fun _ remote_addr hm => hm.free remote_addr) h order).ext whole_start
    ((live_free_all horder).trans rfl)

/-- **Releasing the block just allocated** restores the state. -/
theorem Whole.free_allocate (h : m.Whole) {size remote_addr : ℕ}
    (hfits : (Call.allocate size true).Fits)
    (ha : (m.allocate size true).1 = .ok remote_addr) :
    ((m.allocate size true).2.free remote_addr).1 = .ok () ∧
      ((m.allocate size true).2.free remote_addr).2 = m := by
  have hwhole := h.allocate hfits
  have hwhole' := hwhole.free remote_addr
  unfold RemoteMemory.allocate at ha hwhole hwhole' ⊢
  rcases hal : rdma_sim_allocate true size m.blocks with e | ⟨addr, blocks'⟩
  · rw [hal] at ha
    cases ha
  · rw [hal] at ha hwhole hwhole'
    obtain rfl : addr = remote_addr := Except.ok.inj ha
    obtain ⟨l, r, hold, hnew⟩ := rdma_sim_allocate_live hal
    obtain ⟨-, hfresh⟩ := h.counted.blocks.allocated hfits hal
    have hmem : addr ∈ (live blocks').map MemBlock.addr := by
      rw [hnew, List.map_append]
      exact List.mem_append_right _ List.mem_cons_self
    obtain ⟨hok, l', b, r', hold', haddr, hnew'⟩ := free_live (m := ⟨blocks', _⟩) hmem
    refine ⟨hok, hwhole'.ext h ?_⟩
    -- no other allocated block begins at this address, so the block taken off is the new one
    have hother : ∀ x ∈ l ++ r, x ≠ b := by
      rintro x hx rfl
      exact (hfresh x (hold ▸ hx)).2 haddr
    have hsplit := hnew.symm.trans hold'
    rw [List.append_cons_inj_of_notMem (fun hb => hother b (List.mem_append_left _ hb) rfl)
      (fun hb => hother b (List.mem_append_right _ hb) rfl)] at hsplit
    rw [hold, hsplit.1, hsplit.2.2]
    exact hnew'

/-- **Freeing restores the allocator.** After calls whose sizes do not wrap and whose nodes can be
allocated, freeing the allocated blocks in any order leaves the single free block of one gigabyte,
and freeing the block just allocated gives the state from before the allocation. -/
theorem exec_restored (calls : List Call) (h : ∀ c ∈ calls, c.Fits ∧ c.Splits) :
    (∀ order : List ℕ, order.Perm ((live (exec calls).blocks).map MemBlock.addr) →
      (exec (calls ++ order.map Call.free)).blocks
          = [{ addr := 0x4000000000, size := 1024 * 1024 * 1024, free := true }] ∧
        (exec (calls ++ order.map Call.free)).remote_memory_used = 0) ∧
    ∀ size remote_addr, (Call.allocate size true).Fits →
      ((exec calls).allocate size true).1 = .ok remote_addr →
      ((exec calls).allocate size true).2.free remote_addr = (.ok (), exec calls) := by
  have hwhole := exec_whole h
  refine ⟨fun order horder => ?_, fun size remote_addr hfits ha => ?_⟩
  · have hrun : exec (calls ++ order.map Call.free) = {} := by
      rw [exec, Guarded.exec, List.foldl_append]
      exact hwhole.free_all horder
    rw [hrun]
    exact ⟨rfl, rfl⟩
  · obtain ⟨hok, hstate⟩ := hwhole.free_allocate hfits ha
    exact Prod.ext hok hstate

/-- Three blocks are allocated and the middle one is freed; the last one is freed before the
first. -/
theorem exec_restored_three :
    (exec [.allocate 4096 true, .allocate 1 true, .allocate 8192 true, .free 0x4000001000,
        .free 0x4000002000, .free 0x4000000000]).blocks
      = [{ addr := 0x4000000000, size := 1024 * 1024 * 1024, free := true }] :=
  ((exec_restored [.allocate 4096 true, .allocate 1 true, .allocate 8192 true,
      .free 0x4000001000] (by decide)).1 [0x4000002000, 0x4000000000] (by decide +kernel)).1

end RemoteMemory

end SwapPrefetch
