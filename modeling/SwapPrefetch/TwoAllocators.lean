/-
The allocator of the library and the allocator of the server.

`rdma_sim_allocate` and `rdma_sim_free` work on static variables. The server calls
`init_sim_remote_memory_allocator`; the library does not, so its block list is empty: each of its
allocations fails with `ENOMEM`, and each of its releases with `EINVAL`. The store takes its blocks
from the server by `RDMA_OP_ALLOCATE` requests and releases them in the library, and the pointer
prefetcher takes its buffers from the library.

The two sides agree (`Agrees`) exactly after the runs that use neither: no block that came from the
server is released, and no buffer is asked for while the server has a block for it
(`agrees_iff_keeps`). A region that is recycled or changes its size leaks its block.
-/
import Mathlib.Tactic
import SwapPrefetch.StoreMap

set_option autoImplicit false

namespace SwapPrefetch

/-! ## The library process -/

/-- The library: its store, and the buffers of the pointer prefetcher. -/
structure Library where
  store : RdmaStore := RdmaStore.rdma_storage_init
  /-- the buffers that `async_prefetch_page` got and that were not released -/
  prefetch_buffers : List ℕ := []
  /-- ghost: the sizes for which `rdma_sim_allocate` returned `ENOMEM` in the library, each with
  the blocks that the server had then -/
  refused : List (ℕ × List MemBlock) := []

namespace Library

/-- A call in the library that uses the allocators. -/
inductive Call where
  | write (env : CallEnv) (virtual_offset : ℕ) (src : Bytes) (size : ℕ)
  | read (env : CallEnv) (virtual_offset size : ℕ)
  | allocate_page_offset (env : CallEnv) (size : ℕ)
  /-- `rdma_sim_allocate` of `async_prefetch_page` (`src/pointer_prefetch.c:217`) -/
  | allocate (size : ℕ) (split : Bool)
  /-- `rdma_sim_free` of any address, as of a prefetch buffer (`src/pointer_prefetch.c:322`) -/
  | free (remote_addr : ℕ)

/-- `rdma_sim_allocate` in the library: it works on the library's own list. -/
def library_allocate (size : ℕ) (split : Bool) (l : Library) : Except Errno ℕ × Library :=
  match rdma_sim_allocate split size l.store.sim_remote_memory_blocks with
  | .ok (remote_addr, blocks) =>
      (.ok remote_addr,
        { l with
          store := { l.store with sim_remote_memory_blocks := blocks }
          prefetch_buffers := remote_addr :: l.prefetch_buffers })
  | .error .ENOMEM =>
      (.error .ENOMEM, { l with refused := (size, l.store.rdma.blocks) :: l.refused })
  | .error e => (.error e, l)

/-- What a call does to the state. -/
def step : Call → Library → Library
  | .write env virtual_offset src size, l =>
      { l with store := (l.store.rdma_write_page env virtual_offset src size).2 }
  | .read env virtual_offset size, l =>
      { l with store := (l.store.rdma_read_page env virtual_offset size).2 }
  | .allocate_page_offset env size, l =>
      { l with store := (l.store.rdma_allocate_page_offset env size).2 }
  | .allocate size split, l => (l.library_allocate size split).2
  | .free remote_addr, l =>
      { l with
        store := l.store.library_free remote_addr
        prefetch_buffers := l.prefetch_buffers.erase remote_addr }

/-- The state after a sequence of calls. -/
def exec (calls : List Call) : Library := Guarded.exec step calls {}

/-- The two allocators agree: a block from the server that the library released is free at the
server after the call; the server will not hand out a buffer of the library; `ENOMEM` means that
the server has no free block of that size; and the server's allocated blocks are those of the
regions in use and the buffers. -/
structure Agrees (l : Library) : Prop where
  freed : ∀ e ∈ l.store.freed, e.obtained = true → ∀ b ∈ live e.server, b.addr ≠ e.remote_addr
  reserved : ∀ a ∈ l.prefetch_buffers, ∃ b ∈ live l.store.rdma.blocks, b.addr = a
  refused : ∀ e ∈ l.refused, ∀ b ∈ e.2, b.free = true → b.size < round_up e.1
  owners : ∀ a, (∃ b ∈ live l.store.rdma.blocks, b.addr = a) ↔
    (∃ i, i < MAX_REMOTE_REGIONS ∧ (l.store.remote_regions i).in_use = true ∧
      (l.store.remote_regions i).remote_addr = a) ∨ a ∈ l.prefetch_buffers

end Library

/-! ## What the store does to the blocks -/

/-- A block that came from the server was released in the library, and the server still has it. -/
def LibraryFree.Lost (e : LibraryFree) : Prop :=
  e.obtained = true ∧ ∃ b ∈ live e.server, b.addr = e.remote_addr

namespace RdmaStore

variable {s s' s₁ : RdmaStore} {env : CallEnv} {off size : ℕ}

/-- What holds in every run: the library's list is empty, the allocated blocks of the server are
those that its answers named, and regions in use have such blocks. -/
structure Shared (s : RdmaStore) : Prop where
  quiesced : s.rdma.Quiesced
  inRemote : ∀ b ∈ s.rdma.blocks, b.InRemote
  library : s.sim_remote_memory_blocks = []
  obtained : ∀ a, a ∈ s.obtained ↔ ∃ b ∈ live s.rdma.blocks, b.addr = a
  regions : ∀ i, (s.remote_regions i).in_use = true → (s.remote_regions i).remote_addr ∈ s.obtained

/-- Every block that came from the server belongs to a region in use. -/
def Held (s : RdmaStore) : Prop :=
  ∀ a ∈ s.obtained, ∃ i, i < MAX_REMOTE_REGIONS ∧ (s.remote_regions i).in_use = true ∧
    (s.remote_regions i).remote_addr = a

/-- A block was lost. -/
def Loses (s : RdmaStore) : Prop := ∃ e ∈ s.freed, e.Lost

/-- A step that loses a block if `leak` holds, and none otherwise. -/
structure Moves (s s' : RdmaStore) (leak : Prop) : Prop where
  shared : s'.Shared
  before : s.Loses → s'.Loses
  lost : leak → s'.Loses
  kept : ¬ leak → (s'.Loses → s.Loses) ∧ (s.Held → s'.Held)

theorem Shared.moves_self (h : s.Shared) {leak : Prop} (hno : ¬ leak) : Moves s s leak :=
  ⟨h, id, fun hl => absurd hl hno, fun _ => ⟨id, id⟩⟩

/-- A step that loses nothing may follow. -/
theorem Moves.quiet {leak : Prop} (h : Moves s s₁ leak) (h' : Moves s₁ s' False) :
    Moves s s' leak := by
  obtain ⟨hloses, hheld⟩ := h'.kept id
  refine ⟨h'.shared, fun hs => h'.before (h.before hs), fun hl => h'.before (h.lost hl),
    fun hno => ?_⟩
  exact ⟨fun hs => (h.kept hno).1 (hloses hs), fun hs => hheld ((h.kept hno).2 hs)⟩

/-- What was lost stays lost. -/
theorem Moves.after {leak leak' : Prop} (hl : leak) (h : Moves s s₁ leak) (h' : Moves s₁ s' leak') :
    Moves s s' leak :=
  ⟨h'.shared, fun hs => h'.before (h.before hs), fun _ => h'.before (h.lost hl),
    fun hno => absurd hl hno⟩

/-- Steps that leave the blocks, the logs and the owners of the regions alone. -/
theorem Shared.unchanged (h : s.Shared) (hq : s'.rdma.Quiesced)
    (hb : s'.rdma.blocks = s.rdma.blocks)
    (hlib : s'.sim_remote_memory_blocks = s.sim_remote_memory_blocks)
    (hob : s'.obtained = s.obtained) (hf : s'.freed = s.freed)
    (huse : ∀ i, (s'.remote_regions i).in_use = (s.remote_regions i).in_use)
    (haddr : ∀ i, (s'.remote_regions i).remote_addr = (s.remote_regions i).remote_addr) :
    Moves s s' False := by
  have hloses : s'.Loses ↔ s.Loses := by
    unfold Loses
    rw [hf]
  refine ⟨⟨hq, ?_, hlib.trans h.library, ?_, ?_⟩, hloses.2, False.elim, fun _ => ⟨hloses.1, ?_⟩⟩
  · rw [hb]
    exact h.inRemote
  · rw [hob, hb]
    exact h.obtained
  · intro i hi
    rw [hob, haddr]
    exact h.regions i (by rw [← huse]; exact hi)
  · unfold Held
    rw [hob]
    intro hs a ha
    obtain ⟨i, hi, hu, hadd⟩ := hs a ha
    exact ⟨i, hi, (huse i).trans hu, (haddr i).trans hadd⟩

theorem Shared.touch (h : s.Shared) (i now : ℕ) : Moves s (s.touch i now) False :=
  h.unchanged h.quiesced rfl rfl rfl rfl (s.touch_used i now) (s.touch_addr i now)

/-- **The release of a block in the library** loses it if it came from the server. -/
theorem Shared.library_free (h : s.Shared) (a : ℕ) :
    Moves s (s.library_free a) (a ∈ s.obtained) := by
  rw [library_free_eq h.library]
  refine ⟨⟨h.quiesced, h.inRemote, h.library, h.obtained, h.regions⟩, ?_, fun ha => ?_,
    fun ha => ⟨?_, id⟩⟩
  · rintro ⟨e, he, hlost⟩
    exact ⟨e, List.mem_cons_of_mem _ he, hlost⟩
  · exact ⟨_, List.mem_cons_self, by simpa using ha, (h.obtained a).1 ha⟩
  · rintro ⟨e, he, hlost⟩
    rcases List.mem_cons.1 he with rfl | he
    · exact absurd (by simpa using hlost.1) ha
    · exact ⟨e, he, hlost⟩

/-- All entries are in use, and one of them can be recycled. -/
def Recycles (s : RdmaStore) : Prop := s.free_index = none ∧ s.oldest_index ≠ none

/-- The entry for a new region: it was not in use, or its block is lost. -/
theorem Shared.claim_index (h : s.Shared) :
    s.claim_index = none ∧ ¬ s.Recycles ∨
      ∃ i s₁, s.claim_index = some (i, s₁) ∧ Moves s s₁ s.Recycles ∧ (¬ s.Recycles →
        i < MAX_REMOTE_REGIONS ∧ (s₁.remote_regions i).in_use = false) := by
  unfold RdmaStore.claim_index Recycles
  rcases hfree : s.free_index with _ | i
  · rcases hold : s.oldest_index with _ | i
    · exact Or.inl ⟨rfl, fun hr => hr.2 rfl⟩
    · -- the recycled entry is in use, so its block came from the server
      have hin := h.regions i (oldest_index_used hold)
      have hm := h.library_free (s.remote_regions i).remote_addr
      refine Or.inr ⟨i, _, rfl, ⟨hm.shared, hm.before, fun _ => hm.lost hin, ?_⟩, ?_⟩
      · exact fun hno => absurd ⟨rfl, Option.some_ne_none i⟩ hno
      · exact fun hno => absurd ⟨rfl, Option.some_ne_none i⟩ hno
  · have hno : ¬ (some i = none ∧ s.oldest_index ≠ none) := fun hr => absurd hr.1 (Option.some_ne_none i)
    obtain ⟨hlt, hunused, -⟩ := free_index_spec hfree
    exact Or.inr ⟨i, s, rfl, h.moves_self hno, fun _ => ⟨hlt, hunused⟩⟩

/-- **A new region** with the block that the server returned. -/
theorem Shared.place (h : s.Shared) (i : ℕ) (region : RemoteRegion) {split : Bool} {addr : ℕ}
    {rdma : Rdma} (hq : rdma.Quiesced)
    (ha : rdma_sim_allocate split size s.rdma.blocks = .ok (addr, rdma.blocks))
    (huse : region.in_use = true) (hregion : region.remote_addr = addr) :
    (({ s with rdma := rdma } : RdmaStore).place i region).Shared ∧
      (i < MAX_REMOTE_REGIONS → (s.remote_regions i).in_use = false → s.Held →
        (({ s with rdma := rdma } : RdmaStore).place i region).Held) := by
  have hobtained : (({ s with rdma := rdma } : RdmaStore).place i region).obtained =
      addr :: s.obtained := by
    rw [← hregion]
    rfl
  refine ⟨⟨hq, (allocate_walk_inRemote h.inRemote (rdma_sim_allocate_eq_ok ha)).2, h.library,
    fun a => ?_, fun j hj => ?_⟩, fun hi hunused hheld a hmem => ?_⟩
  · rw [hobtained, List.mem_cons, h.obtained a]
    show _ ↔ ∃ b ∈ live rdma.blocks, b.addr = a
    simp only [mem_live_allocate ha, exists_eq_or_imp, eq_comm]
  · rw [hobtained]
    by_cases hji : j = i
    · rw [hji, place_self, hregion]
      exact List.mem_cons_self
    · rw [place_ne _ region hji] at hj ⊢
      exact List.mem_cons_of_mem _ (h.regions j hj)
  · rw [hobtained] at hmem
    rcases List.mem_cons.1 hmem with rfl | hmem
    · exact ⟨i, hi, by rw [place_self]; exact huse, by rw [place_self]; exact hregion⟩
    · obtain ⟨j, hj, hused, haddr⟩ := hheld a hmem
      -- the new region does not take the entry of another
      have hji : j ≠ i := by
        rintro rfl
        rw [hused] at hunused
        cases hunused
      refine ⟨j, hj, ?_, ?_⟩
      · rw [place_ne _ region hji]
        exact hused
      · rw [place_ne _ region hji]
        exact haddr

/-- **`allocate_remote_region`** loses a block exactly if it recycles an entry. -/
theorem Shared.allocate_remote_region (h : s.Shared) (env : CallEnv) (off size : ℕ) :
    Moves s (s.allocate_remote_region env off size).2 s.Recycles := by
  rcases h.claim_index with ⟨hclaim, hno⟩ | ⟨i, s₁, hclaim, hm, hunused⟩
  · rw [allocate_unclaimed hclaim]
    exact h.moves_self hno
  · have hs₁ := hm.shared
    rcases allocate_claimed hclaim hs₁.quiesced hs₁.inRemote env off size with
      ⟨e, rdma, -, hq, hblocks, -, hr⟩ | ⟨addr, rdma, ha, hq, -, hr⟩
    · rw [hr]
      exact hm.quiet (hs₁.unchanged hq hblocks rfl rfl rfl (fun _ => rfl) fun _ => rfl)
    · rw [hr]
      obtain ⟨hshared, hheld⟩ := hs₁.place i (new_region env off size addr) hq ha rfl rfl
      refine ⟨hshared, hm.before, hm.lost, fun hno => ⟨(hm.kept hno).1, fun hs => ?_⟩⟩
      exact hheld (hunused hno).1 (hunused hno).2 ((hm.kept hno).2 hs)

/-- A write that gives up a region: that of its offset if the size is another one, or a recycled
one. -/
def Leaks (off size : ℕ) (s : RdmaStore) : Prop :=
  match s.find_remote_region off with
  | some i => (s.remote_regions i).size ≠ size
  | none => s.Recycles

/-- A region that is given up loses its block. -/
theorem Shared.give_up (h : s.Shared) {i : ℕ} (hi : (s.remote_regions i).in_use = true) :
    Moves s (s.given_up i) True := by
  have hm := h.library_free (s.remote_regions i).remote_addr
  have hobtained : (s.given_up i).obtained = s.obtained := by
    show (s.library_free _).obtained = _
    rw [library_free_eq h.library]
  have hs := hm.shared
  refine ⟨⟨hs.quiesced, hs.inRemote, hs.library, hs.obtained, fun j hj => ?_⟩, hm.before,
    fun _ => hm.lost (h.regions i hi), fun hno => absurd trivial hno⟩
  have hsame := (given_up_used hj).2
  rw [hsame] at hj ⊢
  rw [hobtained]
  exact h.regions j hj

/-- **The region of a write.** -/
theorem Shared.write_region (h : s.Shared) (env : CallEnv) (off size : ℕ) :
    Moves s (s.write_region env off size).2 (s.Leaks off size) := by
  unfold Leaks
  rcases hfind : s.find_remote_region off with _ | i
  · rw [write_region_new hfind]
    exact h.allocate_remote_region env off size
  · by_cases hi : (s.remote_regions i).size = size
    · rw [write_region_found hfind hi]
      exact h.moves_self fun hne => hne hi
    · rw [write_region_resized hfind hi]
      have hm := h.give_up (serves_of_find hfind).1
      have hafter := hm.after trivial (hm.shared.allocate_remote_region env off size)
      exact ⟨hafter.shared, hafter.before, fun _ => hafter.lost trivial, fun hno => absurd hi hno⟩

/-- Sending a page keeps all blocks. -/
theorem Shared.send_page (h : s.Shared) (env : CallEnv) (off remote_addr : ℕ) (src : Bytes)
    (size : ℕ) : Moves s (s.send_page env off remote_addr src size).2 False := by
  obtain ⟨written, hr⟩ := s.send_page_eq env off remote_addr src size
  obtain ⟨hq, hb⟩ := h.quiesced.write_kept 1 remote_addr size
    (encoded (registered env off size remote_addr s.translator) off src size) env.split
  rw [hr]
  exact h.unchanged hq hb rfl rfl rfl (fun _ => rfl) fun _ => rfl

/-- **Writes.** -/
theorem Shared.write (h : s.Shared) (env : CallEnv) (off : ℕ) (src : Bytes) (size : ℕ) :
    Moves s (s.rdma_write_page env off src size).2 (s.Leaks off size) := by
  have hm := h.write_region env off size
  unfold rdma_write_page
  rcases hr : s.write_region env off size with ⟨_ | i, s₁⟩
  · rw [hr] at hm
    exact hm
  · rw [hr] at hm
    have ht := hm.quiet (hm.shared.touch i env.now)
    exact ht.quiet (ht.shared.send_page env off _ src size)

/-- **Reads.** -/
theorem Shared.read (h : s.Shared) (env : CallEnv) (off size : ℕ) :
    Moves s (s.rdma_read_page env off size).2 False := by
  rcases hfind : s.find_remote_region off with _ | i
  · rw [read_eq_error hfind]
    exact h.moves_self id
  · have ht := h.touch i env.now
    obtain ⟨hq, hb⟩ := h.quiesced.read_kept 1 (s.remote_regions i).remote_addr size env.split
    rw [read_state hfind]
    exact ht.quiet (ht.shared.unchanged hq hb rfl rfl rfl (fun _ => rfl) fun _ => rfl)

theorem Shared.allocate_page_offset (h : s.Shared) (env : CallEnv) (size : ℕ) :
    Moves s (s.rdma_allocate_page_offset env size).2 s.Recycles := by
  have hm := h.allocate_remote_region env 0 size
  unfold rdma_allocate_page_offset
  rcases hr : s.allocate_remote_region env 0 size with ⟨_ | i, s₁⟩
  · rw [hr] at hm
    exact hm
  · rw [hr] at hm
    exact hm

theorem shared_start : Shared rdma_storage_init := by
  refine ⟨init_rdma.1, ?_, rfl, fun a => ?_, fun i hi => absurd hi Bool.false_ne_true⟩
  · rw [init_rdma.2]
    exact fun b hb => (represents_init.sound b hb).inRemote
  · rw [init_rdma.2]
    refine iff_of_false (fun ha => nomatch ha) ?_
    rintro ⟨b, hb, -⟩
    exact nomatch hb

end RdmaStore

/-! ## The two processes -/

namespace Library

/-- The call uses no allocator of the library that the server does not see: no region is recycled
or changes its size, no block of the server is released, and no buffer is asked for while the
server has a block for it. -/
def Keeps (l : Library) : Call → Prop
  | .write _ off _ size => ¬ l.store.Leaks off size
  | .read _ _ _ => True
  | .allocate_page_offset _ _ => ¬ l.store.Recycles
  | .allocate size _ =>
      size = 0 ∨ ∀ b ∈ l.store.rdma.blocks, b.free = true → b.size < round_up size
  | .free remote_addr => remote_addr ∉ l.store.obtained

/-- No block is lost, and no buffer was refused that the server had a block for. -/
structure Sound (l : Library) : Prop where
  kept : ¬ l.store.Loses
  refused : ∀ e ∈ l.refused, ∀ b ∈ e.2, b.free = true → b.size < round_up e.1

/-- What holds in every run. -/
structure Inv (l : Library) : Prop where
  shared : l.store.Shared
  buffers : l.prefetch_buffers = []

/-- What a call does, if it does no harm exactly under the condition `kept`. -/
structure Effect (l l' : Library) (kept : Prop) : Prop where
  inv : l'.Inv
  sound : l'.Sound ↔ l.Sound ∧ kept
  held : kept → l.store.Held → l'.store.Held

variable {l : Library}

theorem Inv.of_moves (h : l.Inv) {s' : RdmaStore} {leak : Prop}
    (hm : RdmaStore.Moves l.store s' leak) : Effect l { l with store := s' } (¬ leak) := by
  refine ⟨⟨hm.shared, h.buffers⟩, ?_, fun hno => (hm.kept hno).2⟩
  constructor
  · intro hs
    exact ⟨⟨fun hl => hs.kept (hm.before hl), hs.refused⟩, fun hl => hs.kept (hm.lost hl)⟩
  · rintro ⟨hs, hno⟩
    exact ⟨fun hl => hs.kept ((hm.kept hno).1 hl), hs.refused⟩

/-- The library has no block to hand out. -/
theorem rdma_sim_allocate_nil (split : Bool) (size : ℕ) :
    rdma_sim_allocate split size [] = .error (if size = 0 then .EINVAL else .ENOMEM) := by
  unfold rdma_sim_allocate
  split
  · rfl
  · rfl

/-- **The allocation of a prefetch buffer** fails. -/
theorem Inv.allocate (h : l.Inv) (size : ℕ) (split : Bool) :
    Effect l (l.library_allocate size split).2
      (size = 0 ∨ ∀ b ∈ l.store.rdma.blocks, b.free = true → b.size < round_up size) := by
  have hfail := rdma_sim_allocate_nil split size
  rw [← h.shared.library] at hfail
  by_cases h0 : size = 0
  · rw [if_pos h0] at hfail
    have hr : (l.library_allocate size split).2 = l := by
      simp only [library_allocate, hfail]
    rw [hr]
    exact ⟨h, ⟨fun hs => ⟨hs, Or.inl h0⟩, fun hs => hs.1⟩, fun _ => id⟩
  · rw [if_neg h0] at hfail
    have hr : (l.library_allocate size split).2 =
        { l with refused := (size, l.store.rdma.blocks) :: l.refused } := by
      simp only [library_allocate, hfail]
    rw [hr]
    refine ⟨⟨h.shared, h.buffers⟩, ?_, fun _ => id⟩
    constructor
    · intro hs
      obtain ⟨hnew, hold⟩ := List.forall_mem_cons.1 hs.refused
      exact ⟨⟨hs.kept, hold⟩, Or.inr hnew⟩
    · rintro ⟨hs, hsize⟩
      exact ⟨hs.kept, List.forall_mem_cons.2 ⟨hsize.resolve_left h0, hs.refused⟩⟩

/-- **One call.** -/
theorem Inv.step (h : l.Inv) (c : Call) : Effect l (step c l) (l.Keeps c) := by
  cases c with
  | write env off src size => exact h.of_moves (h.shared.write env off src size)
  | read env off size =>
      obtain ⟨hinv, hsound, hheld⟩ := h.of_moves (h.shared.read env off size)
      rw [not_false_iff] at hsound
      exact ⟨hinv, hsound, fun _ => hheld id⟩
  | allocate_page_offset env size => exact h.of_moves (h.shared.allocate_page_offset env size)
  | allocate size split => exact h.allocate size split
  | free remote_addr =>
      have he := h.of_moves (h.shared.library_free remote_addr)
      have hbuffers : l.prefetch_buffers.erase remote_addr = l.prefetch_buffers := by
        rw [h.buffers]
        rfl
      show Effect l { l with
        store := l.store.library_free remote_addr
        prefetch_buffers := l.prefetch_buffers.erase remote_addr } _
      rw [hbuffers]
      exact he

theorem inv_start : Inv {} := ⟨RdmaStore.shared_start, rfl⟩

theorem sound_start : Sound {} := by
  refine ⟨?_, fun _ he => nomatch he⟩
  rintro ⟨e, he, -⟩
  exact nomatch he

/-- Where the two allocators agree, nothing was lost. -/
theorem Agrees.sound (h : l.Agrees) : l.Sound := by
  refine ⟨?_, h.refused⟩
  rintro ⟨e, he, hobtained, b, hb, haddr⟩
  exact h.freed e he hobtained b hb haddr

/-- Where nothing was lost and each block has its region, the two allocators agree. -/
theorem Sound.agrees (h : l.Sound) (hinv : l.Inv) (hheld : l.store.Held) : l.Agrees := by
  refine ⟨fun e he hobtained b hb haddr => h.kept ⟨e, he, hobtained, b, hb, haddr⟩, ?_, h.refused,
    fun a => ?_⟩
  · rw [hinv.buffers]
    exact fun a ha => nomatch ha
  · rw [← hinv.shared.obtained, hinv.buffers]
    constructor
    · exact fun ha => Or.inl (hheld a ha)
    · rintro (⟨i, -, hused, rfl⟩ | ha)
      · exact hinv.shared.regions i hused
      · exact nomatch ha

/-- **The two allocators agree exactly after the runs that use only the one of the server.** -/
theorem agrees_iff_keeps (calls : List Call) :
    (exec calls).Agrees ↔ Guarded.Meets step Keeps calls {} := by
  constructor
  · intro ha
    have hrun := Guarded.meets_of_exec (I := Inv) (P := Sound) (C := Keeps)
      (fun l c h => (h.step c).inv) (fun l c h hs => (h.step c).sound.1 hs) inv_start ha.sound
    exact hrun.2
  · intro hrun
    have hend := Guarded.exec_invariant (I := fun l => l.Inv ∧ l.Sound ∧ l.store.Held)
      (fun l c h hk => ⟨(h.1.step c).inv, (h.1.step c).sound.2 ⟨h.2.1, hk⟩,
        (h.1.step c).held hk h.2.2⟩)
      ⟨inv_start, sound_start, fun a ha => nomatch ha⟩ hrun
    exact hend.2.1.agrees hend.1 hend.2.2

/-- The first prefetch of the library: it asks for a page and gets `ENOMEM`, although the server
has a gigabyte of free memory. -/
theorem not_agrees_firstPrefetch : ¬ (exec [.allocate PAGE_SIZE true]).Agrees := by
  intro h
  have hsound : (step (.allocate PAGE_SIZE true) {}).Sound := h.sound
  obtain ⟨-, hkeeps⟩ := (inv_start.allocate PAGE_SIZE true).sound.1 hsound
  have hblocks : ({} : Library).store.rdma.blocks = init_sim_remote_memory_allocator :=
    RdmaStore.init_rdma.2
  rw [hblocks] at hkeeps
  rcases hkeeps with h0 | hsmall
  · exact absurd h0 (by decide)
  · exact absurd (hsmall _ List.mem_cons_self rfl) (by decide)

end Library

end SwapPrefetch
