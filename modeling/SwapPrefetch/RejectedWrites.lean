/-
What a write that fails leaves behind (`src/storage_rdma.c:333-472`).

A read of an offset sees its block, the bytes there, and the translator that decodes them. A failed
call of `rdma_write_page` can change each of them: it may have made a region for an offset that had
none, or have given up the one that it had; the server may have stored the page although the wait
for it gave up; and the region that was registered for the page may decode the last word of another
one. `Harmless` says that none of this happened. An offset that had a region of another size then
still has a block at the same address, which happens if the size of the old one had wrapped to `0`.
-/
import Mathlib.Tactic
import SwapPrefetch.FaultyWrites

set_option autoImplicit false

namespace SwapPrefetch

namespace RdmaStore

variable {s s' : RdmaStore} {f : WriteFaults} {env : CallEnv} {off size : ℕ}

/-! ## What a read sees -/

/-- Two results of reading `size` bytes. -/
def SameRead (size : ℕ) : Except (Option Errno) Bytes → Except (Option Errno) Bytes → Prop
  | .ok bytes, .ok bytes' => ∀ k, k < size → bytes k = bytes' k
  | .error e, .error e' => e = e'
  | _, _ => False

/-- Every read gives the same result. -/
def SameReads (s s' : RdmaStore) : Prop :=
  ∀ env off size, SameRead size (s.rdma_read_page env off size).1 (s'.rdma_read_page env off size).1

/-- The bytes of a page in the server's memory. -/
def stored (s : RdmaStore) (addr : ℕ) : Bytes :=
  fun k => s.rdma.memory (addr - SIM_REMOTE_MEMORY_BASE + k)

/-- What a read of the block of an offset tells. -/
def told (s : RdmaStore) (addr off size : ℕ) : Bytes :=
  if size = PAGE_SIZE then
    (converted (convert_pointers_from_remote_storage s.translator (s.stored addr).page off)).bytes
  else s.stored addr

theorem told_page (s : RdmaStore) (addr off : ℕ) : s.told addr off PAGE_SIZE =
    (converted (convert_pointers_from_remote_storage s.translator (s.stored addr).page off)).bytes :=
  if_pos rfl

/-- What is read from the page buffer, before the conversion. -/
theorem memcpy_start (buffer data : Bytes) {k n : ℕ} (hk : k < n) : memcpy buffer 0 data n k = data k := by
  unfold memcpy
  rw [if_pos (by omega), Nat.sub_zero]

/-- **`rdma_read_page`** of an offset with a block. -/
theorem Paged.read (h : s.Paged) (env : CallEnv) {addr : ℕ} (hb : s.block off = some addr)
    (hpos : 0 < size) (hsize : size ≤ PAGE_SIZE) :
    ∃ bytes, (s.rdma_read_page env off size).1 = .ok bytes ∧
      ∀ k, k < size → bytes k = s.told addr off size k := by
  obtain ⟨haddr, hin⟩ := (h.block_page hb).offset
  obtain ⟨i, hi, rfl⟩ := Option.map_eq_some_iff.1 hb
  obtain ⟨answer, hc⟩ := h.quiesced.read 1 env.split haddr
    (le_trans (Nat.add_le_add_left hsize _) hin) hpos hsize
  obtain ⟨placed, hret⟩ := hc.returned
  -- the page buffer holds the bytes of the block
  have hbuffer : ∀ k, k < size → (s.rdma.round_trip .READ 1 (s.remote_regions i).remote_addr size
      none env.split).2.page_buffer k = s.stored (s.remote_regions i).remote_addr k := by
    intro k hk
    rw [hc.page_buffer]
    exact memcpy_start s.rdma.page_buffer (s.stored (s.remote_regions i).remote_addr) hk
  unfold rdma_read_page RdmaStore.told
  simp only [hi, setRegion, hret]
  by_cases hfull : size = PAGE_SIZE
  · subst hfull
    rw [if_pos rfl, if_pos rfl]
    refine ⟨_, rfl, fun k _ => ?_⟩
    have hpage : (s.rdma.round_trip .READ 1 (s.remote_regions i).remote_addr PAGE_SIZE none
        env.split).2.page_buffer.page = (s.stored (s.remote_regions i).remote_addr).page :=
      funext fun k => hbuffer k k.isLt
    rw [hpage]
  · rw [if_neg hfull, if_neg hfull]
    exact ⟨_, rfl, hbuffer⟩

/-- A read of nothing, or of more than a page, fails once the region is found. -/
theorem Paged.read_size (h : s.Paged) (env : CallEnv) {addr : ℕ} (hb : s.block off = some addr)
    (hsize : ¬ (0 < size ∧ size ≤ PAGE_SIZE)) :
    (s.rdma_read_page env off size).1 = .error none := by
  obtain ⟨i, hi, rfl⟩ := Option.map_eq_some_iff.1 hb
  have hf := h.quiesced.read_refused 1 (s.remote_regions i).remote_addr env.split hsize
  unfold rdma_read_page
  simp only [hi, setRegion, hf.returned]

theorem read_unknown (env : CallEnv) (hb : s.block off = none) (size : ℕ) :
    (s.rdma_read_page env off size).1 = .error (some .EFAULT) := by
  rw [read_eq_error (Option.map_eq_none_iff.1 hb)]

/-- Every page decodes in the same way. -/
def DecodesAlike (t t' : Translator) : Prop :=
  ∀ page off, converted (convert_pointers_from_remote_storage t page off) =
    converted (convert_pointers_from_remote_storage t' page off)

/-- **Reads agree** when the blocks, their bytes and the decoding do. -/
theorem Paged.sameReads (h : s.Paged) (h' : s'.Paged) (hblock : ∀ o, s'.block o = s.block o)
    (hmemory : s'.rdma.memory = s.rdma.memory) (hdecode : DecodesAlike s.translator s'.translator) :
    SameReads s s' := by
  have hstored : s'.stored = s.stored := by
    unfold RdmaStore.stored
    rw [hmemory]
  have htold : s'.told = s.told := by
    funext addr off size
    unfold RdmaStore.told
    rw [hstored, hdecode]
  intro env off size
  rcases hb : s.block off with _ | addr
  · rw [read_unknown env hb, read_unknown env ((hblock off).trans hb)]
    rfl
  · have hb' := (hblock off).trans hb
    by_cases hsize : 0 < size ∧ size ≤ PAGE_SIZE
    · obtain ⟨bytes, hr, htells⟩ := h.read env hb hsize.1 hsize.2
      obtain ⟨bytes', hr', htells'⟩ := h'.read env hb' hsize.1 hsize.2
      rw [hr, hr']
      intro k hk
      rw [htells k hk, htells' k hk, htold]
    · rw [h.read_size env hb hsize, h'.read_size env hb' hsize]
      rfl

/-- Reads that agree find a block for the same offsets. -/
theorem SameReads.block (hsame : SameReads s s') (h : s.Paged) (h' : s'.Paged) :
    (s.block off = none ↔ s'.block off = none) := by
  have hr := hsame {} off 1
  rcases hb : s.block off with _ | addr
  · rcases hb' : s'.block off with _ | addr'
    · exact Iff.rfl
    · obtain ⟨bytes, hok, -⟩ := h'.read {} hb' Nat.one_pos (by decide)
      rw [read_unknown {} hb, hok] at hr
      exact hr.elim
  · rcases hb' : s'.block off with _ | addr'
    · obtain ⟨bytes, hok, -⟩ := h.read {} hb Nat.one_pos (by decide)
      rw [read_unknown {} hb', hok] at hr
      exact hr.elim
    · exact iff_of_false (Option.some_ne_none addr) (Option.some_ne_none addr')

/-- Reads that agree tell the same. -/
theorem SameReads.told (hsame : SameReads s s') (h : s.Paged) (h' : s'.Paged) {addr addr' : ℕ}
    (hb : s.block off = some addr) (hb' : s'.block off = some addr') (hpos : 0 < size)
    (hsize : size ≤ PAGE_SIZE) {k : ℕ} (hk : k < size) :
    s.told addr off size k = s'.told addr' off size k := by
  have hr := hsame {} off size
  obtain ⟨bytes, hok, htells⟩ := h.read {} hb hpos hsize
  obtain ⟨bytes', hok', htells'⟩ := h'.read {} hb' hpos hsize
  rw [hok, hok'] at hr
  rw [← htells k hk, ← htells' k hk]
  exact hr k hk
/-! ## Failed writes -/

/-- The store over a server with other bytes. -/
def withMemory (memory : Bytes) (s : RdmaStore) : RdmaStore :=
  { s with rdma := { s.rdma with memory := memory } }

/-- A call of `rdma_write_page` that fails changes nothing that can be read, whatever the pages
hold. -/
def Unseen (f : WriteFaults) (env : CallEnv) (off size : ℕ) (s : RdmaStore) : Prop :=
  ∀ memory src, ((s.withMemory memory).try_write_page f env off src size).1 ≠ .ok () →
    SameReads (s.withMemory memory) ((s.withMemory memory).try_write_page f env off src size).2

/-- The page is sent. -/
def Sends (f : WriteFaults) (env : CallEnv) (off size : ℕ) (s : RdmaStore) : Prop :=
  (s.choice f.allocate env off size).1 ≠ none ∧ f.malloc = true

/-- The offset has the block that it had, or still none. If the page was sent, it was not stored,
and its region decodes no page differently. -/
structure Harmless (f : WriteFaults) (env : CallEnv) (off size : ℕ) (s : RdmaStore) : Prop where
  block : s.KeepsBlock f.allocate env off size
  stored : s.Sends f env off size → ¬ Rdma.Stores f.write size
  decode : s.Sends f env off size → ∀ addr, s.block off = some addr →
    DecodesAlike s.translator (registered env off size addr s.translator)

theorem Paged.withMemory (h : s.Paged) (memory : Bytes) : (s.withMemory memory).Paged := by
  obtain ⟨ho, hn, hdistinct, howned, hempty, hup⟩ := h.quiesced
  refine ⟨⟨?_, ⟨hn.positive, hn.slot⟩, hdistinct, howned, hempty, hup⟩, h.spacious, h.bound, h.index,
    h.page⟩
  exact ⟨⟨ho.ring.head, ho.ring.count, ho.ring.tail⟩, ho.order, ho.pending, ho.taken, ho.once,
    ho.answered, ho.total⟩

/-! ### The choice does not depend on the bytes -/

theorem given_up_withMemory (memory : Bytes) (s : RdmaStore) (i : ℕ) :
    (s.withMemory memory).given_up i = (s.given_up i).withMemory memory := by
  unfold RdmaStore.given_up RdmaStore.library_free
  rcases hfree : rdma_sim_free (s.remote_regions i).remote_addr s.sim_remote_memory_blocks
    with e | blocks
  · have hfree' : rdma_sim_free ((s.withMemory memory).remote_regions i).remote_addr
        (s.withMemory memory).sim_remote_memory_blocks = .error e := hfree
    simp only [hfree']
    rfl
  · have hfree' : rdma_sim_free ((s.withMemory memory).remote_regions i).remote_addr
        (s.withMemory memory).sim_remote_memory_blocks = .ok blocks := hfree
    simp only [hfree']
    rfl

theorem renewed_withMemory (memory : Bytes) (d : Delivery) (env : CallEnv) (off size : ℕ)
    (s : RdmaStore) : (s.withMemory memory).renewed d env off size =
      ((s.renewed d env off size).1, (s.renewed d env off size).2.withMemory memory) := by
  have hobtains : (s.withMemory memory).obtains d env size = s.obtains d env size := rfl
  unfold RdmaStore.renewed
  rw [hobtains]
  rcases s.obtains d env size with _ | ⟨i, addr⟩
  · rfl
  · rfl

theorem choice_withMemory (memory : Bytes) (d : Delivery) (env : CallEnv) (off size : ℕ)
    (s : RdmaStore) : (s.withMemory memory).choice d env off size =
      ((s.choice d env off size).1, (s.choice d env off size).2.withMemory memory) := by
  have hfound : (s.withMemory memory).find_remote_region off = s.find_remote_region off := rfl
  rcases hfind : s.find_remote_region off with _ | i
  · rw [choice_new hfind, choice_new (hfound.trans hfind), renewed_withMemory]
  · by_cases hsize : (s.remote_regions i).size = size
    · rw [choice_found hfind hsize, choice_found (hfound.trans hfind) hsize]
    · rw [choice_resized hfind hsize, choice_resized (hfound.trans hfind) hsize,
        given_up_withMemory, renewed_withMemory]

/-- The call over other bytes, in terms of the choice that is made over the given ones. -/
theorem Paged.try_withMemory (h : s.Paged) (f : WriteFaults) (env : CallEnv) (off size : ℕ)
    (memory src : Bytes) :
    let r := (s.withMemory memory).try_write_page f env off src size
    r.2.Paged ∧ (∀ o, r.2.block o = (s.choice f.allocate env off size).2.block o) ∧
      (r.1 = .ok () ↔ s.Accepts f env off size) ∧
      (¬ s.Sends f env off size → r.2.translator = s.translator ∧ r.2.rdma.memory = memory) ∧
      ∀ addr, s.Sends f env off size →
        (s.choice f.allocate env off size).2.block off = some addr →
        r.2.translator = registered env off size addr s.translator ∧
        r.2.rdma.memory =
          if Rdma.Stores f.write size then
            memcpy memory (addr - SIM_REMOTE_MEMORY_BASE)
              (encoded (registered env off size addr s.translator) off src size) size
          else memory := by
  intro r
  obtain ⟨hpaged, hblock, hok, hunsent, hsent⟩ :=
    (h.withMemory memory).try_write_page f env off src size
  have hchoice := s.choice_withMemory memory f.allocate env off size
  unfold Accepts at hok
  rw [hchoice] at hblock hok hunsent hsent
  refine ⟨hpaged, hblock, hok, fun hno => hunsent ?_, fun addr hsends hb => ?_⟩
  · rcases hi : (s.choice f.allocate env off size).1 with _ | i
    · exact Or.inl rfl
    · refine Or.inr (Bool.eq_false_of_not_eq_true fun hm => hno ⟨?_, hm⟩)
      rw [hi]
      exact Option.some_ne_none i
  · exact hsent addr hsends.1 hsends.2 hb

/-! ### Pages that show a change -/

/-- A page of zeros is sent as it is. -/
theorem encoded_zero (t : Translator) (off size : ℕ) : encoded t off (fun _ => 0) size = fun _ => 0 := by
  unfold encoded
  split
  · have hpointer : PageData.pointer (Bytes.page fun _ => 0) = 0 := by decide
    have hpage : converted (convert_pointers_for_remote_storage t (Bytes.page fun _ => 0) off) =
        Bytes.page fun _ => 0 := by
      unfold convert_pointers_for_remote_storage convert_pointers
      simp only [hpointer, if_true]
      rfl
    rw [hpage]
    funext k
    unfold PageData.bytes
    split
    · rfl
    · rfl
  · rfl

theorem memcpy_zero (dst : Bytes) (off n k : ℕ) :
    memcpy dst off (fun _ => 0) n k = if off ≤ k ∧ k < off + n then 0 else dst k := rfl

/-- The byte at an address is `1`, and all others are `0`. -/
def probe (addr : ℕ) : Bytes := fun k => if k = addr - SIM_REMOTE_MEMORY_BASE then 1 else 0

theorem probe_self (addr : ℕ) : probe addr (addr - SIM_REMOTE_MEMORY_BASE) = 1 := if_pos rfl

theorem told_one (s : RdmaStore) (addr off : ℕ) :
    s.told addr off 1 0 = s.rdma.memory (addr - SIM_REMOTE_MEMORY_BASE) := by
  rw [RdmaStore.told, if_neg (by decide), stored, Nat.add_zero]

/-- A page that is sent goes to the block of the offset. -/
theorem Paged.sends_block (h : s.Paged) (hsends : s.Sends f env off size) :
    ∃ addr, (s.choice f.allocate env off size).2.block off = some addr := by
  rcases hi : (s.choice f.allocate env off size).1 with _ | i
  · exact absurd hi hsends.1
  · rw [RdmaStore.block, h.find_choice hi]
    exact ⟨_, rfl⟩

/-- **An offset with a block** still has it after a failed call that is not seen, and the page was
not stored. -/
theorem Unseen.block (hunseen : s.Unseen f env off size) (h : s.Paged)
    (hno : ¬ s.Accepts f env off size) {addr : ℕ} (hb : s.block off = some addr) :
    (s.choice f.allocate env off size).2.block off = some addr ∧
      (s.Sends f env off size → ¬ Rdma.Stores f.write size) := by
  -- try the call on a memory that has a `1` at the block and `0` elsewhere, with a page of zeros
  obtain ⟨hpaged, hblock, hok, hunsent, hsent⟩ :=
    h.try_withMemory f env off size (probe addr) fun _ => 0
  have hsame := hunseen (probe addr) (fun _ => 0) fun hr => hno (hok.1 hr)
  have hs := h.withMemory (probe addr)
  have hb₀ : (s.withMemory (probe addr)).block off = some addr := hb
  rcases hb' : ((s.withMemory (probe addr)).try_write_page f env off (fun _ => 0) size).2.block off
    with _ | addr'
  · rw [(hsame.block hs hpaged).2 hb'] at hb₀
    cases hb₀
  · -- the first byte of the block is still `1`
    have hbyte := hsame.told hs hpaged hb₀ hb' Nat.one_pos (by decide) Nat.one_pos
    have hprobe : (s.withMemory (probe addr)).rdma.memory = probe addr := rfl
    rw [told_one, told_one, hprobe, probe_self] at hbyte
    have hone := hbyte.symm
    rw [hblock off] at hb'
    have hnot : s.Sends f env off size → ¬ Rdma.Stores f.write size := by
      intro hsends hstores
      rw [(hsent addr' hsends hb').2, if_pos hstores, encoded_zero, memcpy_zero,
        if_pos ⟨le_rfl, Nat.lt_add_of_pos_right hstores.2.1⟩] at hone
      cases hone
    have hmemory : ((s.withMemory (probe addr)).try_write_page f env off (fun _ => 0)
        size).2.rdma.memory = probe addr := by
      by_cases hsends : s.Sends f env off size
      · rw [(hsent addr' hsends hb').2, if_neg (hnot hsends)]
      · exact (hunsent hsends).2
    refine ⟨?_, hnot⟩
    rw [hmemory] at hone
    have heq : addr' - SIM_REMOTE_MEMORY_BASE = addr - SIM_REMOTE_MEMORY_BASE := by
      by_contra hne
      rw [probe, if_neg hne] at hone
      cases hone
    have hlow := (h.block_page hb).1
    have hlow' := ((h.choice f.allocate env off size).block_page hb').1
    have hsameAddr : addr' = addr := by omega
    rw [hb', hsameAddr]

/-- **The block is kept** by a failed call that is not seen. -/
theorem Unseen.keepsBlock (hunseen : s.Unseen f env off size) (h : s.Paged)
    (hno : ¬ s.Accepts f env off size) : s.KeepsBlock f.allocate env off size := by
  unfold KeepsBlock
  rcases hb : s.block off with _ | addr
  · obtain ⟨hpaged, hblock, hok, -, -⟩ := h.try_withMemory f env off size (fun _ => 0) fun _ => 0
    have hsame := hunseen (fun _ => 0) (fun _ => 0) fun hr => hno (hok.1 hr)
    rw [← hblock off]
    exact (hsame.block (h.withMemory fun _ => 0) hpaged).1 hb
  · exact (hunseen.block h hno hb).1

/-- **The page decodes as before** after a failed call that is not seen. -/
theorem Unseen.decode (hunseen : s.Unseen f env off size) (h : s.Paged)
    (hno : ¬ s.Accepts f env off size) (hsends : s.Sends f env off size) {addr : ℕ}
    (hb : s.block off = some addr) :
    DecodesAlike s.translator (registered env off size addr s.translator) := by
  obtain ⟨hb', hnot⟩ := hunseen.block h hno hb
  by_cases hsize : size = PAGE_SIZE
  · intro page o
    -- put the page into the block
    obtain ⟨memory, hmem⟩ : ∃ memory : Bytes,
        memory = memcpy (fun _ => 0) (addr - SIM_REMOTE_MEMORY_BASE) page.bytes PAGE_SIZE := ⟨_, rfl⟩
    obtain ⟨hpaged, hblock, hok, -, hsent⟩ := h.try_withMemory f env off size memory fun _ => 0
    obtain ⟨htranslator, hmemory⟩ := hsent addr hsends hb'
    rw [if_neg (hnot hsends)] at hmemory
    have hsame := hunseen memory (fun _ => 0) fun hr => hno (hok.1 hr)
    have hpage : ∀ s₁ : RdmaStore, s₁.rdma.memory = memory → (s₁.stored addr).page = page := by
      intro s₁ hs₁
      funext k
      show s₁.rdma.memory (addr - SIM_REMOTE_MEMORY_BASE + k) = page k
      have hk := k.isLt
      rw [hs₁, hmem, memcpy, if_pos (by omega), Nat.add_sub_cancel_left, PageData.bytes, dif_pos hk]
    funext k
    have hbyte := hsame.told (h.withMemory memory) hpaged hb ((hblock off).trans hb')
      (by decide) le_rfl k.isLt
    rw [told_page, told_page, hpage _ rfl, hpage _ hmemory, htranslator, PageData.bytes,
      PageData.bytes, dif_pos k.isLt, dif_pos k.isLt] at hbyte
    exact hbyte
  · rw [registered, if_neg hsize]
    exact fun _ _ => rfl

/-- **Failed writes** are not seen exactly if they are harmless. -/
theorem Paged.unseen_iff (h : s.Paged) :
    s.Unseen f env off size ↔ s.Accepts f env off size ∨ s.Harmless f env off size := by
  constructor
  · intro hunseen
    by_cases hno : s.Accepts f env off size
    · exact Or.inl hno
    · have hkeeps := hunseen.keepsBlock h hno
      refine Or.inr ⟨hkeeps, fun hsends => ?_, fun hsends addr hb => hunseen.decode h hno hsends hb⟩
      obtain ⟨addr, hb⟩ := h.sends_block hsends
      exact (hunseen.block h hno (hkeeps.symm.trans hb)).2 hsends
  · intro hor memory src hfailed
    obtain ⟨hpaged, hblock, hok, hunsent, hsent⟩ := h.try_withMemory f env off size memory src
    rcases hor with haccepts | hharmless
    · exact absurd (hok.2 haccepts) hfailed
    · have hsame : ∀ o, ((s.withMemory memory).try_write_page f env off src size).2.block o =
          (s.withMemory memory).block o :=
        fun o => (hblock o).trans (h.block_choice hharmless.block o)
      by_cases hsends : s.Sends f env off size
      · obtain ⟨addr, hb⟩ := h.sends_block hsends
        obtain ⟨htranslator, hmemory⟩ := hsent addr hsends hb
        rw [if_neg (hharmless.stored hsends)] at hmemory
        refine (h.withMemory memory).sameReads hpaged hsame hmemory ?_
        rw [htranslator]
        exact hharmless.decode hsends addr (hharmless.block.symm.trans hb)
      · obtain ⟨htranslator, hmemory⟩ := hunsent hsends
        refine (h.withMemory memory).sameReads hpaged hsame hmemory ?_
        rw [htranslator]
        exact fun _ _ => rfl

/-! ## Runs -/

/-- A call of one of the routines of the store, with the faults that it meets. -/
inductive FaultyCall where
  | write (f : WriteFaults) (env : CallEnv) (virtual_offset : ℕ) (src : Bytes) (size : ℕ)
  | read (env : CallEnv) (virtual_offset size : ℕ)
  | allocate_page_offset (d : Delivery) (env : CallEnv) (size : ℕ)

/-- What a call does to the state. -/
def try_step : FaultyCall → RdmaStore → RdmaStore
  | .write f env virtual_offset src size, s => (s.try_write_page f env virtual_offset src size).2
  | .read env virtual_offset size, s => (s.rdma_read_page env virtual_offset size).2
  | .allocate_page_offset d env size, s => (s.try_allocate_remote_region d env 0 size).2

/-- The state after a sequence of calls. -/
def try_exec (calls : List FaultyCall) : RdmaStore := Guarded.exec try_step calls rdma_storage_init

theorem paged_start : Paged rdma_storage_init where
  quiesced := init_rdma.1
  spacious := by
    rw [init_rdma.2]
    exact spacious_start
  bound := Nat.zero_le _
  index := fun _ hi => absurd hi Bool.false_ne_true
  page := fun _ hi => absurd hi Bool.false_ne_true

theorem Paged.read_paged (h : s.Paged) (env : CallEnv) (off size : ℕ) :
    (s.rdma_read_page env off size).2.Paged := by
  rcases hfind : s.find_remote_region off with _ | i
  · rw [read_eq_error hfind]
    exact h
  · obtain ⟨hq, hblocks⟩ :=
      h.quiesced.read_kept 1 (s.remote_regions i).remote_addr size env.split
    have hspacious := h.spacious
    rw [← hblocks] at hspacious
    rw [read_state hfind]
    exact (h.touch i env.now).of_table rfl rfl hq hspacious

theorem Paged.step (h : s.Paged) (c : FaultyCall) : (try_step c s).Paged := by
  cases c with
  | write f env off src size => exact (h.try_write_page f env off src size).paged
  | read env off size => exact h.read_paged env off size
  | allocate_page_offset d env size =>
      have ha := h.try_allocate d env 0 size
      exact (h.renewed d env 0 size).of_table ha.table.regions ha.table.num ha.quiesced ha.spacious

theorem paged_exec (calls : List FaultyCall) : (try_exec calls).Paged :=
  Guarded.exec_of_step (fun _ c h => h.step c) calls paged_start

/-- **Failed writes.** Whatever the table holds and wherever the call fails, nothing readable has
changed exactly if the offset kept its block, the page was not stored, and no page decodes
differently. -/
theorem unseen_iff_harmless (calls : List FaultyCall) (f : WriteFaults) (env : CallEnv)
    (off size : ℕ) : (try_exec calls).Unseen f env off size ↔
      (try_exec calls).Accepts f env off size ∨ (try_exec calls).Harmless f env off size :=
  (paged_exec calls).unseen_iff

/-- The first byte of two reads. -/
theorem SameRead.first {r r' : Except (Option Errno) Bytes} (h : SameRead size r r')
    (hpos : 0 < size) : r.toOption.map (fun b => b 0) = r'.toOption.map fun b => b 0 := by
  rcases r with e | bytes
  · rcases r' with e' | bytes'
    · rfl
    · exact h.elim
  · rcases r' with e' | bytes'
    · exact h.elim
    · exact congrArg some (h 0 hpos)

/-- A page was written. A write of two pages to its offset fails, because the request is too large,
and afterwards the page is gone: the offset has a block that was never written. -/
theorem not_unseen_twoPages : ¬ ∀ (calls : List FaultyCall) (f : WriteFaults) (env : CallEnv)
    (off size : ℕ), (try_exec calls).Unseen f env off size := by
  intro hall
  have hsame := hall [.write {} {} 0 (fun _ => 7) PAGE_SIZE] {} {} 0 (2 * PAGE_SIZE)
    (fun k => if k < PAGE_SIZE then 7 else 0) (fun _ => 9)
    (fun hr => absurd (congrArg Except.toOption hr) (by decide +kernel))
  have hfirst := (hsame {} 0 1).first Nat.one_pos
  exact absurd hfirst (by decide +kernel)

end RdmaStore

end SwapPrefetch
