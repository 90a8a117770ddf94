/-
The representation invariant of the server's block allocator.

`rdma_sim_allocate` and `rdma_sim_free` change the block list in three ways: a free block is
cut, a block becomes free, and two free neighbours are joined. The walks are first described by
the place where they stop (`allocate_walk_spec`, `free_walk_spec`); the invariant (`Represents`)
then only has to survive the three changes at that place. The list is ordered by `Before`, which
says at once that blocks are disjoint, ascending, and that no free block ends where another free
block begins. As blocks are not empty, it is enough to look at neighbours to keep it.

The counter `remote_memory_used` is a 64-bit word. It is the exact sum of the sizes of the
allocated blocks, because these are disjoint parts of one region of 1 GiB.
-/
import Mathlib.Tactic
import SwapPrefetch.RdmaAlloc
import SwapPrefetch.Ring

set_option autoImplicit false

namespace SwapPrefetch

/-! ## Where the walks stop -/

/-- The part of a free block that is left when `size` bytes were cut off and the node of the
rest could be allocated. -/
def leftover (split : Bool) (size : ℕ) (current : MemBlock) : List MemBlock :=
  if size < current.size ∧ split then
    [{ addr := current.addr + size, size := current.size - size, free := true }]
  else []

/-- `rdma_sim_allocate` takes its block from the first free block that is large enough. -/
theorem allocate_walk_spec {split : Bool} {size addr : ℕ} {blocks blocks' : List MemBlock}
    (h : allocate_walk split size blocks = some (addr, blocks')) :
    ∃ before current rest, blocks = before ++ current :: rest ∧
      (∀ b ∈ before, ¬ (b.free = true ∧ size ≤ b.size)) ∧ current.free = true ∧
      size ≤ current.size ∧ addr = current.addr ∧
      blocks' = before ++
        { addr := addr, size := size, free := false } :: (leftover split size current ++ rest) := by
  induction blocks generalizing blocks' with
  | nil => cases h
  | cons current rest ih =>
      rw [allocate_walk] at h
      split at h
      case isTrue hfit =>
        obtain ⟨rfl, rfl⟩ := Prod.mk.inj (Option.some.inj h)
        refine ⟨[], current, rest, rfl, fun _ hb => absurd hb List.not_mem_nil, hfit.1, hfit.2, rfl,
          ?_⟩
        unfold leftover
        split <;> rfl
      case isFalse hno =>
        obtain ⟨r, hr, he⟩ := Option.map_eq_some_iff.1 h
        obtain ⟨rfl, rfl⟩ := Prod.mk.inj he
        obtain ⟨before, found, rest', rfl, hbefore, hfree, hsize, haddr, hblocks⟩ := ih hr
        exact ⟨current :: before, found, rest', rfl, List.forall_mem_cons.2 ⟨hno, hbefore⟩, hfree,
          hsize, haddr, by rw [hblocks]; rfl⟩

/-- The end of `rdma_sim_free`: the last block of the first part is merged with the block that
follows it. -/
def rejoin : List MemBlock → List MemBlock → List MemBlock
  | [], blocks => blocks
  | [prev], blocks => merge prev blocks
  | a :: b :: before, blocks => a :: rejoin (b :: before) blocks

/-- `rdma_sim_free` stops at the first allocated block that begins at the address. -/
theorem free_walk_spec {remote_addr : ℕ} {o : Option MemBlock} {blocks blocks' : List MemBlock}
    (h : free_walk remote_addr o blocks = some blocks') :
    ∃ before current rest, blocks = before ++ current :: rest ∧
      (∀ b ∈ before, ¬ (b.free = false ∧ b.addr = remote_addr)) ∧
      current.free = false ∧ current.addr = remote_addr ∧
      blocks' = rejoin (o.toList ++ before) (merge { current with free := true } rest) := by
  induction blocks generalizing o blocks' with
  | nil => cases h
  | cons current rest ih =>
      rw [free_walk] at h
      split at h
      case isTrue hfound =>
        refine ⟨[], current, rest, rfl, fun _ hb => absurd hb List.not_mem_nil, hfound.1, hfound.2, ?_⟩
        rcases o with _ | prev
        · exact (Option.some.inj h).symm
        · exact (Option.some.inj h).symm
      case isFalse hno =>
        obtain ⟨bs, hbs, rfl⟩ := Option.map_eq_some_iff.1 h
        obtain ⟨before, found, rest', rfl, hbefore, hfree, haddr, rfl⟩ := ih hbs
        refine ⟨current :: before, found, rest', rfl, List.forall_mem_cons.2 ⟨hno, hbefore⟩, hfree,
          haddr, ?_⟩
        rcases o with _ | prev <;> rfl

/-- The size of the block that `rdma_sim_free` stops at. -/
def released (remote_addr : ℕ) (blocks : List MemBlock) : ℕ :=
  ((blocks.find? fun b => b.free = false ∧ b.addr = remote_addr).map MemBlock.size).getD 0

theorem released_eq {remote_addr : ℕ} {before rest : List MemBlock} {current : MemBlock}
    (hbefore : ∀ b ∈ before, ¬ (b.free = false ∧ b.addr = remote_addr))
    (hfree : current.free = false) (haddr : current.addr = remote_addr) :
    released remote_addr (before ++ current :: rest) = current.size := by
  have hnone : before.find? (fun b => b.free = false ∧ b.addr = remote_addr) = none := by
    refine List.find?_eq_none.mpr fun b hb => ?_
    simpa using hbefore b hb
  rw [released, List.find?_append, hnone]
  simp [hfree, haddr]

/-! ## The allocated blocks -/

/-- The blocks that are allocated. -/
def live (blocks : List MemBlock) : List MemBlock := blocks.filter fun b => b.free = false

theorem mem_live {blocks : List MemBlock} {b : MemBlock} :
    b ∈ live blocks ↔ b ∈ blocks ∧ b.free = false := by
  rw [live, List.mem_filter, decide_eq_true_eq]

theorem live_append (l r : List MemBlock) : live (l ++ r) = live l ++ live r :=
  List.filter_append l r

theorem live_cons_free {b : MemBlock} (blocks : List MemBlock) (h : b.free = true) :
    live (b :: blocks) = live blocks := by
  rw [live, List.filter_cons_of_neg (by rw [h]; decide)]
  rfl

theorem live_cons_used {b : MemBlock} (blocks : List MemBlock) (h : b.free = false) :
    live (b :: blocks) = b :: live blocks :=
  List.filter_cons_of_pos (by rw [h]; decide)

theorem live_leftover (split : Bool) (size : ℕ) (current : MemBlock) :
    live (leftover split size current) = [] := by
  unfold leftover
  split <;> rfl

/-- Merging joins free blocks only. -/
theorem live_merge (c : MemBlock) (rest : List MemBlock) : live (merge c rest) = live (c :: rest) := by
  rcases rest with _ | ⟨next, rest⟩
  · rfl
  · rw [merge]
    split
    case isTrue hm =>
      rw [live_cons_free (b := { c with size := c.size + next.size }) rest hm.1,
        live_cons_free (next :: rest) hm.1, live_cons_free rest hm.2.1]
    case isFalse => rfl

theorem live_rejoin (before blocks : List MemBlock) :
    live (rejoin before blocks) = live before ++ live blocks := by
  induction before with
  | nil => rfl
  | cons a before ih =>
      rcases before with _ | ⟨b, before⟩
      · rw [rejoin, live_merge, ← live_append]
        rfl
      · rw [rejoin, ← List.singleton_append, live_append, ih, ← List.append_assoc, ← live_append]
        rfl

/-- The allocated bytes. -/
def liveBytes (blocks : List MemBlock) : ℕ := ((live blocks).map MemBlock.size).sum

/-! ## The invariant -/

/-- `b` begins behind `a`, and not right behind it if both are free. -/
def MemBlock.Before (a b : MemBlock) : Prop :=
  a.addr + a.size ≤ b.addr ∧ ¬ (a.free = true ∧ b.free = true ∧ a.addr + a.size = b.addr)

/-- The two blocks have no byte in common. -/
def MemBlock.Disjoint (a b : MemBlock) : Prop :=
  a.addr + a.size ≤ b.addr ∨ b.addr + b.size ≤ a.addr

instance : Std.Symm MemBlock.Disjoint := ⟨fun _ _ h => h.symm⟩

/-- The block is not empty, is aligned and lies in the simulated memory. -/
structure MemBlock.Sound (b : MemBlock) : Prop where
  nonempty : 0 < b.size
  addr_aligned : SIM_REMOTE_MEMORY_ALIGN ∣ b.addr
  size_aligned : SIM_REMOTE_MEMORY_ALIGN ∣ b.size
  inRemote : b.InRemote

/-- The block list represents a division of the simulated memory. -/
structure Represents (blocks : List MemBlock) : Prop where
  sound : ∀ b ∈ blocks, b.Sound
  order : blocks.Pairwise MemBlock.Before

theorem represents_init : Represents init_sim_remote_memory_allocator where
  sound := List.forall_mem_singleton.2 ⟨by decide, by decide, by decide, le_refl _, le_refl _⟩
  order := List.pairwise_singleton _ _

theorem Represents.of_cons {b : MemBlock} {rest : List MemBlock} (h : Represents (b :: rest)) :
    Represents rest :=
  ⟨(List.forall_mem_cons.1 h.sound).2, (List.pairwise_cons.1 h.order).2⟩

theorem Represents.cons {b : MemBlock} {rest : List MemBlock} (hb : b.Sound)
    (hbefore : ∀ x ∈ rest, b.Before x) (h : Represents rest) : Represents (b :: rest) :=
  ⟨List.forall_mem_cons.2 ⟨hb, h.sound⟩, List.pairwise_cons.2 ⟨hbefore, h.order⟩⟩

/-- What holds of the two parts of a list. -/
theorem represents_append {l r : List MemBlock} :
    Represents (l ++ r) ↔ Represents l ∧ Represents r ∧ ∀ a ∈ l, ∀ b ∈ r, a.Before b := by
  constructor
  · intro h
    obtain ⟨hl, hr, hlr⟩ := List.pairwise_append.1 h.order
    obtain ⟨hsl, hsr⟩ := List.forall_mem_append.1 h.sound
    exact ⟨⟨hsl, hl⟩, ⟨hsr, hr⟩, hlr⟩
  · rintro ⟨hl, hr, hlr⟩
    exact ⟨List.forall_mem_append.2 ⟨hl.sound, hr.sound⟩,
      List.pairwise_append.2 ⟨hl.order, hr.order, hlr⟩⟩

/-! ## Cutting a block -/

theorem leftover_sound {split : Bool} {size : ℕ} {current : MemBlock} (hc : current.Sound)
    (hsize : SIM_REMOTE_MEMORY_ALIGN ∣ size) : ∀ b ∈ leftover split size current, b.Sound := by
  unfold leftover
  split
  case isTrue hlt =>
    have hin := hc.inRemote
    unfold MemBlock.InRemote at hin
    refine List.forall_mem_singleton.2 ⟨?_, ?_, ?_, ?_, ?_⟩
    · exact Nat.sub_pos_of_lt hlt.1
    · exact Nat.dvd_add hc.addr_aligned hsize
    · exact Nat.dvd_sub hc.size_aligned hsize
    · show _ ≤ current.addr + size
      omega
    · show current.addr + size + (current.size - size) ≤ _
      omega
  case isFalse => exact fun _ hb => nomatch hb

theorem mem_leftover {split : Bool} {size : ℕ} {current b : MemBlock}
    (h : b ∈ leftover split size current) :
    b.addr = current.addr + size ∧ b.addr + b.size = current.addr + current.size ∧
      b.free = true := by
  unfold leftover at h
  split at h
  case isTrue hlt =>
    rw [List.mem_singleton.1 h]
    refine ⟨rfl, ?_, rfl⟩
    show current.addr + size + (current.size - size) = _
    omega
  case isFalse => cases h

theorem leftover_pairwise (split : Bool) (size : ℕ) (current : MemBlock) :
    (leftover split size current).Pairwise MemBlock.Before := by
  unfold leftover
  split
  · exact List.pairwise_singleton _ _
  · exact List.Pairwise.nil

/-- **Allocation keeps the invariant.** -/
theorem Represents.allocate_walk {split : Bool} {size addr : ℕ} {blocks blocks' : List MemBlock}
    (h : Represents blocks) (hpos : 0 < size) (hsize : SIM_REMOTE_MEMORY_ALIGN ∣ size)
    (ha : allocate_walk split size blocks = some (addr, blocks')) : Represents blocks' := by
  obtain ⟨before, current, rest, rfl, -, hfree, hfit, rfl, rfl⟩ := allocate_walk_spec ha
  obtain ⟨hbefore, hcurrent, hlr⟩ := represents_append.1 h
  have hc : current.Sound := hcurrent.sound current List.mem_cons_self
  have hnext : ∀ b ∈ rest, current.Before b := (List.pairwise_cons.1 hcurrent.order).1
  have hin := hc.inRemote
  unfold MemBlock.InRemote at hin
  have htaken : MemBlock.Sound { addr := current.addr, size := size, free := false } :=
    ⟨hpos, hc.addr_aligned, hsize, hin.1, show current.addr + size ≤ _ by omega⟩
  refine represents_append.2 ⟨hbefore, Represents.cons htaken ?_ ?_, ?_⟩
  · intro x hx
    refine ⟨?_, fun hf => nomatch hf.1⟩
    show current.addr + size ≤ x.addr
    rcases List.mem_append.1 hx with hx | hx
    · exact (mem_leftover hx).1.ge
    · have hb := (hnext x hx).1
      omega
  · -- the rest of the block ends where the block ended, and was free like it
    refine represents_append.2 ⟨⟨leftover_sound hc hsize, leftover_pairwise ..⟩, hcurrent.of_cons, ?_⟩
    intro a hal b hb
    obtain ⟨-, hend, -⟩ := mem_leftover hal
    unfold MemBlock.Before
    rw [hend]
    exact ⟨(hnext b hb).1, fun hf => (hnext b hb).2 ⟨hfree, hf.2⟩⟩
  · intro a hal x hx
    have hac := hlr a hal current List.mem_cons_self
    rcases List.mem_cons.1 hx with rfl | hx
    · exact ⟨hac.1, fun hf => nomatch hf.2.1⟩
    · rcases List.mem_append.1 hx with hx | hx
      · obtain ⟨haddr, -, -⟩ := mem_leftover hx
        have hle := hac.1
        unfold MemBlock.Before
        rw [haddr]
        exact ⟨by omega, fun hf => by omega⟩
      · exact hlr a hal x (List.mem_cons_of_mem _ hx)

/-! ## Joining blocks -/

theorem merge_eq_cons (c : MemBlock) (rest : List MemBlock) :
    ∃ h t, merge c rest = h :: t ∧ h.addr = c.addr ∧ h.free = c.free := by
  rcases rest with _ | ⟨next, rest⟩
  · exact ⟨c, [], rfl, rfl, rfl⟩
  · rw [merge]
    split
    · exact ⟨_, _, rfl, rfl, rfl⟩
    · exact ⟨_, _, rfl, rfl, rfl⟩

theorem rejoin_eq_cons (c : MemBlock) (before blocks : List MemBlock) :
    ∃ h t, rejoin (c :: before) blocks = h :: t ∧ h.addr = c.addr ∧ h.free = c.free := by
  rcases before with _ | ⟨b, before⟩
  · exact merge_eq_cons c blocks
  · exact ⟨c, _, rfl, rfl, rfl⟩

/-- Merging a block with what follows it gives an ordered list, if the block ends before all of
it: whether it touches a free neighbour does not matter. -/
theorem Represents.merge {c : MemBlock} {rest : List MemBlock} (h : Represents rest)
    (hc : c.Sound) (hend : ∀ b ∈ rest, c.addr + c.size ≤ b.addr) : Represents (merge c rest) := by
  rcases rest with _ | ⟨next, rest⟩
  · exact Represents.cons hc (fun _ hb => nomatch hb) h
  · have hn : next.Sound := h.sound next List.mem_cons_self
    have hnext : ∀ b ∈ rest, next.Before b := (List.pairwise_cons.1 h.order).1
    have hle : c.addr + c.size ≤ next.addr := hend next List.mem_cons_self
    have hpos := hn.nonempty
    have hcin := hc.inRemote
    have hnin := hn.inRemote
    unfold MemBlock.InRemote at hcin hnin
    rw [SwapPrefetch.merge]
    split
    case isTrue hm =>
      have hsum : c.addr + (c.size + next.size) = next.addr + next.size := by omega
      refine Represents.cons ⟨?_, hc.addr_aligned, ?_, hcin.1, ?_⟩ ?_ h.of_cons
      · exact Nat.add_pos_left hc.nonempty _
      · exact Nat.dvd_add hc.size_aligned hn.size_aligned
      · show c.addr + (c.size + next.size) ≤ _
        omega
      · intro b hb
        unfold MemBlock.Before
        show c.addr + (c.size + next.size) ≤ b.addr ∧
          ¬ (c.free = true ∧ b.free = true ∧ c.addr + (c.size + next.size) = b.addr)
        rw [hsum]
        exact ⟨(hnext b hb).1, fun hf => (hnext b hb).2 ⟨hm.2.1, hf.2⟩⟩
    case isFalse hm =>
      refine Represents.cons hc ?_ h
      intro b hb
      rcases List.mem_cons.1 hb with rfl | hb
      · exact ⟨hle, fun hf => hm hf⟩
      · -- the neighbour lies between the two and is not empty
        have hb := (hnext b hb).1
        exact ⟨by omega, fun hf => by omega⟩

theorem Represents.rejoin {before blocks : List MemBlock} (hbefore : Represents before)
    (h : Represents blocks) (hend : ∀ a ∈ before, ∀ b ∈ blocks, a.addr + a.size ≤ b.addr) :
    Represents (rejoin before blocks) := by
  induction before with
  | nil => exact h
  | cons a before ih =>
      obtain ⟨hea, heb⟩ := List.forall_mem_cons.1 hend
      have ha : a.Sound := hbefore.sound a List.mem_cons_self
      rcases before with _ | ⟨b, before⟩
      · exact h.merge ha hea
      · have hrest := ih hbefore.of_cons heb
        have hab : a.Before b := (List.pairwise_cons.1 hbefore.order).1 b List.mem_cons_self
        refine Represents.cons ha ?_ hrest
        -- the first block behind `a` begins where `b` began and is free if `b` was; the others
        -- lie behind it
        obtain ⟨first, others, he, haddr, hfree⟩ := rejoin_eq_cons b before blocks
        rw [he] at hrest ⊢
        have hfirst : a.Before first := by
          unfold MemBlock.Before
          rw [haddr, hfree]
          exact hab
        intro x hx
        rcases List.mem_cons.1 hx with rfl | hx
        · exact hfirst
        · have hpos := (hrest.sound first List.mem_cons_self).nonempty
          have hfx := ((List.pairwise_cons.1 hrest.order).1 x hx).1
          have hle := hfirst.1
          exact ⟨by omega, fun hf => by omega⟩

theorem merge_le {lo : ℕ} {c : MemBlock} {rest : List MemBlock} (hc : lo ≤ c.addr)
    (h : ∀ b ∈ rest, lo ≤ b.addr) : ∀ b ∈ merge c rest, lo ≤ b.addr := by
  rcases rest with _ | ⟨next, rest⟩
  · exact List.forall_mem_singleton.2 hc
  · rw [merge]
    split
    · exact List.forall_mem_cons.2 ⟨hc, (List.forall_mem_cons.1 h).2⟩
    · exact List.forall_mem_cons.2 ⟨hc, h⟩

/-- **Release keeps the invariant.** -/
theorem Represents.free_walk {remote_addr : ℕ} {blocks blocks' : List MemBlock}
    (h : Represents blocks) (hf : free_walk remote_addr none blocks = some blocks') :
    Represents blocks' := by
  obtain ⟨before, current, rest, rfl, -, -, -, rfl⟩ := free_walk_spec hf
  obtain ⟨hbefore, hcurrent, hlr⟩ := represents_append.1 h
  have hc := hcurrent.sound current List.mem_cons_self
  have hfreed : MemBlock.Sound { current with free := true } :=
    ⟨hc.nonempty, hc.addr_aligned, hc.size_aligned, hc.inRemote⟩
  have hnext := (List.pairwise_cons.1 hcurrent.order).1
  refine Represents.rejoin hbefore (hcurrent.of_cons.merge hfreed fun b hb => (hnext b hb).1) ?_
  intro a ha
  exact merge_le (hlr a ha current List.mem_cons_self).1
    fun b hb => (hlr a ha b (List.mem_cons_of_mem _ hb)).1

/-! ## The counter -/

/-- Disjoint blocks of a region are together no larger than the region. -/
theorem sum_size_le {lo hi : ℕ} {blocks : List MemBlock} (hle : lo ≤ hi)
    (hin : ∀ b ∈ blocks, lo ≤ b.addr ∧ b.addr + b.size ≤ hi)
    (hord : blocks.Pairwise fun a b => a.addr + a.size ≤ b.addr) :
    lo + (blocks.map MemBlock.size).sum ≤ hi := by
  induction blocks generalizing lo with
  | nil => simpa using hle
  | cons b rest ih =>
      obtain ⟨hb, hrest⟩ := List.forall_mem_cons.1 hin
      obtain ⟨hbr, hord⟩ := List.pairwise_cons.1 hord
      have hsum := ih hb.2 (fun x hx => ⟨hbr x hx, (hrest x hx).2⟩) hord
      rw [List.map_cons, List.sum_cons]
      omega

theorem Represents.liveBytes_le {blocks : List MemBlock} (h : Represents blocks) :
    liveBytes blocks ≤ SIM_REMOTE_MEMORY_SIZE := by
  have hsub : List.Sublist (live blocks) blocks := List.filter_sublist
  have hsum : SIM_REMOTE_MEMORY_BASE + ((live blocks).map MemBlock.size).sum ≤
      SIM_REMOTE_MEMORY_BASE + SIM_REMOTE_MEMORY_SIZE :=
    sum_size_le (Nat.le_add_right _ _) (fun b hb => (h.sound b (hsub.subset hb)).inRemote)
      ((h.order.sublist hsub).imp fun hab => hab.1)
  unfold liveBytes
  omega

/-- The counter does not wrap. -/
theorem Represents.liveBytes_lt {blocks : List MemBlock} (h : Represents blocks) :
    liveBytes blocks < 2 ^ 64 :=
  lt_of_le_of_lt h.liveBytes_le (by decide)

/-! ## When an allocation succeeds -/

/-- The bytes of all blocks. A failed split loses some. -/
def blockBytes (blocks : List MemBlock) : ℕ := (blocks.map MemBlock.size).sum

/-- The walk fails only if every free block is too small. -/
theorem allocate_walk_none {split : Bool} {size : ℕ} {blocks : List MemBlock}
    (h : allocate_walk split size blocks = none) : ∀ b ∈ blocks, b.free = true → b.size < size := by
  induction blocks with
  | nil => exact fun _ hb => nomatch hb
  | cons current rest ih =>
      rw [allocate_walk] at h
      split at h
      · cases h
      · rename_i hno
        refine List.forall_mem_cons.2 ⟨fun hfree => ?_, ih (Option.map_eq_none_iff.1 h)⟩
        exact not_le.1 fun hle => hno ⟨hfree, hle⟩

theorem blockBytes_allocate_walk {size addr : ℕ} {blocks blocks' : List MemBlock}
    (h : allocate_walk true size blocks = some (addr, blocks')) :
    blockBytes blocks' = blockBytes blocks := by
  obtain ⟨before, current, rest, rfl, -, -, hfit, -, rfl⟩ := allocate_walk_spec h
  have hrest : size + ((leftover true size current).map MemBlock.size).sum = current.size := by
    unfold leftover
    split
    case isTrue hlt => simpa using Nat.add_sub_cancel' hfit
    case isFalse hge =>
      have heq : size = current.size := by
        have hnot : ¬ size < current.size := fun hlt => hge ⟨hlt, rfl⟩
        omega
      simpa using heq
  unfold blockBytes
  simp only [List.map_append, List.map_cons, List.sum_append, List.sum_cons]
  omega

/-- A page can be allocated while the blocks account for the whole memory and not all of it is
allocated. -/
theorem Represents.allocate_page {blocks : List MemBlock} (h : Represents blocks) {size : ℕ}
    (hsize : round_up size = SIM_REMOTE_MEMORY_ALIGN) (h0 : size ≠ 0) (split : Bool)
    (hroom : liveBytes blocks < blockBytes blocks) :
    ∃ r, rdma_sim_allocate split size blocks = .ok r := by
  unfold rdma_sim_allocate
  rw [if_neg h0, hsize]
  rcases hwalk : SwapPrefetch.allocate_walk split SIM_REMOTE_MEMORY_ALIGN blocks with _ | r
  · -- a free block has at least a page
    have hused : ∀ b ∈ blocks, b.free = false := by
      intro b hb
      rcases hfree : b.free with _ | _
      · rfl
      · have hlt := allocate_walk_none hwalk b hb hfree
        have hle := Nat.le_of_dvd (h.sound b hb).nonempty (h.sound b hb).size_aligned
        omega
    have hall : live blocks = blocks := List.filter_eq_self.2 fun b hb => by simp [hused b hb]
    rw [liveBytes, hall, blockBytes] at hroom
    exact absurd hroom (lt_irrefl _)
  · exact ⟨r, rfl⟩

/-! ## Runs of the allocator with its counter -/

/-- The state of the server's allocator: its blocks, and the counter in the segment. -/
structure RemoteMemory where
  blocks : List MemBlock := init_sim_remote_memory_allocator
  remote_memory_used : ℕ := 0
deriving DecidableEq

namespace RemoteMemory

/-- A call of one of the two routines; `split` says whether the node of a rest can be
allocated. -/
inductive Call where
  | allocate (size : ℕ) (split : Bool)
  | free (remote_addr : ℕ)

/-- `rdma_sim_allocate` with its counter (`src/rdma_sim.c:109`). -/
def allocate (size : ℕ) (split : Bool) (m : RemoteMemory) : Except Errno ℕ × RemoteMemory :=
  match rdma_sim_allocate split size m.blocks with
  | .ok (remote_addr, blocks) =>
      (.ok remote_addr,
        { blocks := blocks
          remote_memory_used := (m.remote_memory_used + round_up size) % 2 ^ 64 })
  | .error e => (.error e, m)

/-- `rdma_sim_free` with its counter (`src/rdma_sim.c:129`). -/
def free (remote_addr : ℕ) (m : RemoteMemory) : Except Errno Unit × RemoteMemory :=
  match rdma_sim_free remote_addr m.blocks with
  | .ok blocks =>
      (.ok (),
        { blocks := blocks
          remote_memory_used :=
            (m.remote_memory_used + (2 ^ 64 - released remote_addr m.blocks)) % 2 ^ 64 })
  | .error e => (.error e, m)

/-- What a call does to the state. -/
def step : Call → RemoteMemory → RemoteMemory
  | .allocate size split, m => (m.allocate size split).2
  | .free remote_addr, m => (m.free remote_addr).2

/-- The state after a sequence of calls from `init_sim_remote_memory_allocator`. -/
def exec (calls : List Call) : RemoteMemory := Guarded.exec step calls {}

/-- The size, rounded up to a multiple of 4096, is a 64-bit number. -/
def Call.Fits : Call → Prop
  | .allocate size _ => (size + 4095) / 4096 * 4096 ≤ 2 ^ 64 - 1
  | .free _ => True

instance (c : Call) : Decidable c.Fits :=
  match c with
  | .allocate size _ => inferInstanceAs (Decidable ((size + 4095) / 4096 * 4096 ≤ 2 ^ 64 - 1))
  | .free _ => isTrue trivial

/-- The blocks represent a division of the memory, and the counter is exact. -/
structure Counted (m : RemoteMemory) : Prop where
  blocks : Represents m.blocks
  used : m.remote_memory_used = liveBytes m.blocks

end RemoteMemory

theorem round_up_aligned (size : ℕ) : SIM_REMOTE_MEMORY_ALIGN ∣ round_up size :=
  Nat.dvd_mul_left _ _

/-- A size that fits is rounded up as it should be. -/
theorem le_round_up {size : ℕ} (h : (size + 4095) / 4096 * 4096 ≤ 2 ^ 64 - 1) :
    size ≤ round_up size := by
  unfold round_up SIM_REMOTE_MEMORY_ALIGN
  omega

/-- What a successful `rdma_sim_allocate` does to the allocated blocks. -/
theorem rdma_sim_allocate_live {split : Bool} {size addr : ℕ} {blocks blocks' : List MemBlock}
    (h : rdma_sim_allocate split size blocks = .ok (addr, blocks')) :
    ∃ l r, live blocks = l ++ r ∧
      live blocks' = l ++ { addr := addr, size := round_up size, free := false } :: r := by
  obtain ⟨before, current, rest, rfl, -, hfree, -, -, rfl⟩ :=
    allocate_walk_spec (rdma_sim_allocate_eq_ok h)
  refine ⟨live before, live rest, ?_, ?_⟩
  · rw [live_append, live_cons_free rest hfree]
  · rw [live_append, live_cons_used _ rfl, live_append, live_leftover, List.nil_append]

theorem mem_live_allocate {split : Bool} {size addr : ℕ} {blocks blocks' : List MemBlock}
    (h : rdma_sim_allocate split size blocks = .ok (addr, blocks')) {b : MemBlock} :
    b ∈ live blocks' ↔ b = { addr := addr, size := round_up size, free := false } ∨
      b ∈ live blocks := by
  obtain ⟨l, r, hold, hnew⟩ := rdma_sim_allocate_live h
  rw [hold, hnew, List.mem_append, List.mem_append, List.mem_cons]
  exact or_left_comm

theorem liveBytes_allocate {split : Bool} {size addr : ℕ} {blocks blocks' : List MemBlock}
    (h : rdma_sim_allocate split size blocks = .ok (addr, blocks')) :
    liveBytes blocks' = liveBytes blocks + round_up size := by
  obtain ⟨l, r, hold, hnew⟩ := rdma_sim_allocate_live h
  rw [liveBytes, liveBytes, hnew, hold]
  simp only [List.map_append, List.map_cons, List.sum_append, List.sum_cons]
  omega

/-- What a successful `rdma_sim_free` does to the allocated blocks. -/
theorem rdma_sim_free_live {remote_addr : ℕ} {blocks blocks' : List MemBlock}
    (h : rdma_sim_free remote_addr blocks = .ok blocks') :
    ∃ l b r, live blocks = l ++ b :: r ∧ live blocks' = l ++ r ∧ b.addr = remote_addr ∧
      released remote_addr blocks = b.size := by
  unfold rdma_sim_free at h
  split at h
  case h_1 bs hbs =>
    cases h
    obtain ⟨before, current, rest, rfl, hbefore, hfree, haddr, rfl⟩ := free_walk_spec hbs
    refine ⟨live before, current, live rest, ?_, ?_, haddr, released_eq hbefore hfree haddr⟩
    · rw [live_append, live_cons_used rest hfree]
    · rw [live_rejoin, live_merge, live_cons_free (b := { current with free := true }) rest rfl]
      rfl
  case h_2 => cases h

theorem Represents.rdma_sim_allocate {split : Bool} {size addr : ℕ}
    {blocks blocks' : List MemBlock} (h : Represents blocks)
    (hfits : (size + 4095) / 4096 * 4096 ≤ 2 ^ 64 - 1)
    (ha : rdma_sim_allocate split size blocks = .ok (addr, blocks')) : Represents blocks' := by
  have hpos : 0 < size := by
    refine Nat.pos_of_ne_zero fun h0 => ?_
    rw [SwapPrefetch.rdma_sim_allocate, if_pos h0] at ha
    cases ha
  exact h.allocate_walk (lt_of_lt_of_le hpos (le_round_up hfits)) (round_up_aligned size)
    (rdma_sim_allocate_eq_ok ha)

/-- Different blocks have no byte in common. -/
theorem Represents.disjoint {blocks : List MemBlock} (h : Represents blocks) {a b : MemBlock}
    (ha : a ∈ blocks) (hb : b ∈ blocks) (hne : a ≠ b) : a.Disjoint b := by
  have hdis : blocks.Pairwise MemBlock.Disjoint := h.order.imp fun hab => Or.inl hab.1
  exact hdis.forall ha hb hne

/-- An allocation leaves the allocated blocks alone, and its block begins where none of them
does. -/
theorem Represents.allocated {split : Bool} {size addr : ℕ} {blocks blocks' : List MemBlock}
    (h : Represents blocks) (hfits : (size + 4095) / 4096 * 4096 ≤ 2 ^ 64 - 1)
    (ha : SwapPrefetch.rdma_sim_allocate split size blocks = .ok (addr, blocks')) :
    { addr := addr, size := round_up size, free := false } ∈ live blocks' ∧
      ∀ b ∈ live blocks, b ∈ live blocks' ∧ b.addr ≠ addr := by
  have hrep := h.rdma_sim_allocate hfits ha
  obtain ⟨l, r, hold, hnew⟩ := rdma_sim_allocate_live ha
  have horder : (live blocks').Pairwise MemBlock.Before := hrep.order.sublist List.filter_sublist
  rw [hnew] at horder
  obtain ⟨-, hright, hleft⟩ := List.pairwise_append.1 horder
  have hmem : { addr := addr, size := round_up size, free := false } ∈ live blocks' :=
    (mem_live_allocate ha).2 (Or.inl rfl)
  have hpos := (hrep.sound _ (mem_live.1 hmem).1).nonempty
  refine ⟨hmem, fun b hb => ⟨(mem_live_allocate ha).2 (Or.inr hb), ?_⟩⟩
  have hbpos := (h.sound b (mem_live.1 hb).1).nonempty
  rw [hold] at hb
  rcases List.mem_append.1 hb with hl | hr
  · have hle := (hleft b hl _ List.mem_cons_self).1
    simp only at hle
    omega
  · have hle := ((List.pairwise_cons.1 hright).1 b hr).1
    simp only at hle hpos
    omega

theorem Represents.rdma_sim_free {remote_addr : ℕ} {blocks blocks' : List MemBlock}
    (h : Represents blocks) (hf : rdma_sim_free remote_addr blocks = .ok blocks') :
    Represents blocks' := by
  unfold SwapPrefetch.rdma_sim_free at hf
  split at hf
  case h_1 bs hbs =>
    cases hf
    exact h.free_walk hbs
  case h_2 => cases hf

namespace RemoteMemory

variable {m : RemoteMemory}

theorem counted_start : Counted {} := ⟨represents_init, rfl⟩

theorem Counted.allocate (h : m.Counted) {size : ℕ} {split : Bool}
    (hfits : (Call.allocate size split).Fits) : (m.allocate size split).2.Counted := by
  unfold RemoteMemory.allocate
  rcases ha : rdma_sim_allocate split size m.blocks with e | ⟨addr, blocks'⟩
  · exact h
  · have hrep := h.blocks.rdma_sim_allocate hfits ha
    refine ⟨hrep, ?_⟩
    have hsum := liveBytes_allocate ha
    show (m.remote_memory_used + round_up size) % 2 ^ 64 = liveBytes blocks'
    rw [h.used, ← hsum, Nat.mod_eq_of_lt hrep.liveBytes_lt]

theorem Counted.free (h : m.Counted) (remote_addr : ℕ) : (m.free remote_addr).2.Counted := by
  unfold RemoteMemory.free
  rcases hf : rdma_sim_free remote_addr m.blocks with e | blocks'
  · exact h
  · refine ⟨h.blocks.rdma_sim_free hf, ?_⟩
    obtain ⟨l, b, r, hold, hnew, -, hreleased⟩ := rdma_sim_free_live hf
    have hsum : liveBytes m.blocks = liveBytes blocks' + b.size := by
      rw [liveBytes, liveBytes, hnew, hold]
      simp only [List.map_append, List.map_cons, List.sum_append, List.sum_cons]
      omega
    have hlt := h.blocks.liveBytes_lt
    show (m.remote_memory_used + (2 ^ 64 - released remote_addr m.blocks)) % 2 ^ 64 =
      liveBytes blocks'
    rw [h.used, hreleased]
    omega

theorem Counted.step (h : m.Counted) {c : Call} (hc : c.Fits) : (step c m).Counted := by
  cases c with
  | allocate size split => exact h.allocate hc
  | free remote_addr => exact h.free remote_addr

/-- The counter and the block list are right after every sequence of calls. -/
theorem exec_counted {calls : List Call} (h : ∀ c ∈ calls, c.Fits) : (exec calls).Counted :=
  Guarded.exec_of_forall (P := Call.Fits) (I := Counted) (fun _ _ hm hc => hm.step hc)
    counted_start h

/-- The block list is strictly ascending, its blocks are not empty, aligned, disjoint and inside
the region, no free block ends where the next block begins if that is free too, and the counter
is the sum of the sizes of the allocated blocks. -/
structure WellFormed (m : RemoteMemory) : Prop where
  ascending : m.blocks.Pairwise fun a b => a.addr < b.addr
  nonempty : ∀ b ∈ m.blocks, 0 < b.size
  aligned : ∀ b ∈ m.blocks, SIM_REMOTE_MEMORY_ALIGN ∣ b.addr ∧ SIM_REMOTE_MEMORY_ALIGN ∣ b.size
  disjoint : m.blocks.Pairwise fun a b => a.addr + a.size ≤ b.addr
  inside : ∀ b ∈ m.blocks, b.InRemote
  apart : m.blocks.IsChain fun a b =>
    ¬ (a.free = true ∧ b.free = true ∧ a.addr + a.size = b.addr)
  used : m.remote_memory_used =
    ((m.blocks.filter fun b => b.free = false).map MemBlock.size).sum

theorem Counted.wellFormed (h : m.Counted) : m.WellFormed where
  ascending := by
    refine List.Pairwise.imp_of_mem (fun {a b} ha _ hab => ?_) h.blocks.order
    have hpos := (h.blocks.sound a ha).nonempty
    have hle := hab.1
    omega
  nonempty := fun b hb => (h.blocks.sound b hb).nonempty
  aligned := fun b hb => ⟨(h.blocks.sound b hb).addr_aligned, (h.blocks.sound b hb).size_aligned⟩
  disjoint := h.blocks.order.imp fun hab => hab.1
  inside := fun b hb => (h.blocks.sound b hb).inRemote
  apart := (h.blocks.order.imp fun hab => hab.2).isChain
  used := h.used

/-- A successful allocation returns the start of a block of at least the requested size. Every
other block that is allocated then was allocated before, and has no byte in common with it. -/
def Allocates (m : RemoteMemory) (size remote_addr : ℕ) (m' : RemoteMemory) : Prop :=
  ∃ b ∈ m'.blocks, b.free = false ∧ b.addr = remote_addr ∧ size ≤ b.size ∧
    ∀ other ∈ m'.blocks, other.free = false → other ≠ b → other ∈ m.blocks ∧ other.Disjoint b

theorem Counted.allocates (h : m.Counted) {size remote_addr : ℕ} {split : Bool}
    (hfits : (Call.allocate size split).Fits)
    (ha : (m.allocate size split).1 = .ok remote_addr) :
    m.Allocates size remote_addr (m.allocate size split).2 := by
  unfold RemoteMemory.allocate at ha ⊢
  rcases hal : rdma_sim_allocate split size m.blocks with e | ⟨addr, blocks'⟩ <;> rw [hal] at ha
  · cases ha
  · obtain rfl : addr = remote_addr := Except.ok.inj ha
    have hrep : Represents blocks' := h.blocks.rdma_sim_allocate hfits hal
    obtain ⟨hb, -⟩ := h.blocks.allocated hfits hal
    refine ⟨_, (mem_live.1 hb).1, rfl, rfl, le_round_up hfits, fun other hother hfree hne => ?_⟩
    refine ⟨?_, hrep.disjoint hother (mem_live.1 hb).1 hne⟩
    have hmem : other ∈ live blocks' := mem_live.2 ⟨hother, hfree⟩
    exact (mem_live.1 (((mem_live_allocate hal).1 hmem).resolve_left hne)).1

/-- **The representation of the block allocator.** After every sequence of allocations and
releases, of any sizes and any addresses, whether or not the rest of a block could be split off:
the block list and the counter are well formed, the next successful allocation returns a block
of its own, and the next call changes nothing if it fails. -/
theorem allocator_wellFormed {calls : List Call} (h : ∀ c ∈ calls, c.Fits) :
    (exec calls).WellFormed ∧
      (∀ size split remote_addr, (Call.allocate size split).Fits →
        ((exec calls).allocate size split).1 = .ok remote_addr →
        (exec calls).Allocates size remote_addr ((exec calls).allocate size split).2) ∧
      (∀ size split e, ((exec calls).allocate size split).1 = .error e →
        ((exec calls).allocate size split).2 = exec calls) ∧
      ∀ remote_addr e, ((exec calls).free remote_addr).1 = .error e →
        ((exec calls).free remote_addr).2 = exec calls := by
  have hc := exec_counted h
  refine ⟨hc.wellFormed, fun _ _ _ hfits ha => hc.allocates hfits ha, fun size split e he => ?_,
    fun remote_addr e he => ?_⟩
  · unfold RemoteMemory.allocate at he ⊢
    split at he
    · cases he
    · rfl
  · unfold RemoteMemory.free at he ⊢
    split at he
    · cases he
    · rfl

/-- Three blocks are cut, one of them without its rest; one is released, then once more and at an
address inside a block. -/
def cutAndReleased : List Call :=
  [.allocate 1 true, .allocate 8192 true, .allocate 4097 false, .free 0x4000001000,
    .free 0x4000001000, .free 0x4000000800]

theorem allocator_wellFormed_cutAndReleased :
    (∀ c ∈ cutAndReleased, c.Fits) ∧ (exec cutAndReleased).WellFormed ∧
      (exec cutAndReleased).remote_memory_used = 12288 := by
  have hfits : ∀ c ∈ cutAndReleased, c.Fits := by decide
  exact ⟨hfits, (allocator_wellFormed hfits).1, by decide +kernel⟩

end RemoteMemory

end SwapPrefetch
