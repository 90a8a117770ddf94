/-
What the RDMA store is for: a map from offsets to pages.

The pager of `Core` swaps pages to a function from offsets to pages that never fails. `Backed n d
store` says that the store `d` of `src/storage_rdma.c` stands for such a function, for the offsets of a
swap space of `n` bytes. It does as long as there are no more slots than the table has entries: then
no entry is ever recycled, the server has memory for every slot, and no request is refused. What
comes back is what was written, if the codec leaves it alone (`Plain`): the word at the end of the
page must not look like a pointer of either kind.
-/
import Mathlib.Tactic
import SwapPrefetch.RegionMirror
import SwapPrefetch.StoreMap

set_option autoImplicit false

namespace SwapPrefetch

/-! ## Pages that the codec leaves alone -/

/-- The last word of the page is in neither window. -/
def Plain (page : PageData) : Prop := ¬ LocalWindow page.pointer ∧ ¬ RemoteWindow page.pointer

instance (page : PageData) : Decidable (Plain page) := by
  unfold Plain LocalWindow RemoteWindow
  infer_instance

/-- The windows of the translator are the fixed ones. -/
structure Translator.Windows (t : Translator) : Prop where
  initialized : t.initialized = true
  local_window : t.local_heap_base = 0x7f0000000000 ∧ t.local_heap_end = 0x7fffffffffffffff
  remote_window : t.remote_heap_base = 0x2000000000 ∧ t.remote_heap_end = 0x3fffffffff

theorem Translator.Windows.step {t : Translator} (h : t.Windows) (node : Bool)
    (local_base size remote_base : ℕ) :
    (Translator.step (.register node local_base size remote_base) t).Windows := by
  unfold Translator.step
  rcases hr : register_address_region node local_base size remote_base t with e | t'
  · simp only [hr]
    exact h
  · obtain ⟨regions, rfl, -⟩ := register_address_region_spec hr
    simp only [hr]
    exact ⟨h.initialized, h.local_window, h.remote_window⟩

/-- A word that is not taken for a pointer stays. -/
theorem convert_pointers_skips {valid : ℕ → Bool} {page : PageData}
    (h : page.pointer ≠ 0 → valid page.pointer = false) (convert : ℕ → Option ℕ) :
    (convert_pointers valid convert page).2 = page := by
  have hword : convertWord valid convert page.pointer = page.pointer := by
    unfold convertWord
    by_cases h0 : page.pointer = 0
    · rw [if_pos h0, h0]
    · rw [if_neg h0, h h0]
      exact if_neg Bool.false_ne_true
  rw [convert_pointers_eq, hword, page.setPointer_pointer]

theorem Plain.for_remote {page : PageData} (h : Plain page) {t : Translator} (ht : t.Windows)
    (va : ℕ) : (convert_pointers_for_remote_storage t page va).2 = page := by
  refine convert_pointers_skips (fun h0 => ?_) _
  rw [is_valid_local_pointer, if_neg h0, if_neg (by simp [ht.initialized]), ht.local_window.1,
    ht.local_window.2]
  exact decide_eq_false h.1

theorem Plain.from_remote {page : PageData} (h : Plain page) {t : Translator} (ht : t.Windows)
    (va : ℕ) : (convert_pointers_from_remote_storage t page va).2 = page := by
  refine convert_pointers_skips (fun h0 => ?_) _
  rw [is_valid_remote_pointer, if_neg h0, if_neg (by simp [ht.initialized]), ht.remote_window.1,
    ht.remote_window.2]
  exact decide_eq_false h.2

namespace RdmaStore

variable {s : RdmaStore} {env : CallEnv} {off n : ℕ} {page : PageData}

/-! ## The relation -/

/-- A slot of a swap space of `n` bytes. -/
def IsSlot (n off : ℕ) : Prop := off % PAGE_SIZE = 0 ∧ off < n

/-- There are no more slots than the table has entries. -/
theorem card_slots {t : Finset ℕ} (hn : n ≤ MAX_REMOTE_REGIONS * PAGE_SIZE)
    (ht : ∀ off ∈ t, IsSlot n off) : t.card ≤ MAX_REMOTE_REGIONS := by
  have hsub : t ⊆ (Finset.range MAX_REMOTE_REGIONS).image (· * PAGE_SIZE) := by
    intro off hoff
    obtain ⟨hal, hlt⟩ := ht off hoff
    refine Finset.mem_image.2 ⟨off / PAGE_SIZE, Finset.mem_range.2 ?_, ?_⟩
    · exact Nat.div_lt_of_lt_mul (by rw [Nat.mul_comm]; exact lt_of_lt_of_le hlt hn)
    · exact Nat.div_mul_cancel (Nat.dvd_of_mod_eq_zero hal)
  refine (Finset.card_le_card hsub).trans (Finset.card_image_le.trans ?_)
  rw [Finset.card_range]

/-- The store stands for the function `store`. -/
structure Backed (n : ℕ) (s : RdmaStore) (store : ℕ → Option PageData) : Prop where
  inv : s.MapInv
  windows : s.translator.Windows
  slots : ∀ w ∈ s.written, IsSlot n w.virtual_offset
  plain : ∀ w ∈ s.written, Plain w.page ∧ w.translator.Windows
  whole : blockBytes s.rdma.blocks = SIM_REMOTE_MEMORY_SIZE
  used : liveBytes s.rdma.blocks ≤ 4096 * s.num_remote_regions
  pages : ∀ off, store off = (s.lastWrite off).map Written.page

theorem backed_start (n : ℕ) : Backed n rdma_storage_init fun _ => none where
  inv := mapInv_start
  windows := ⟨rfl, ⟨rfl, rfl⟩, ⟨rfl, rfl⟩⟩
  slots := fun _ hw => nomatch hw
  plain := fun _ hw => nomatch hw
  whole := ample_start.whole
  used := ample_start.used
  pages := fun _ => rfl

variable {store : ℕ → Option PageData}

theorem Backed.isSlot (h : Backed n s store) : ∀ o ∈ s.offsets, IsSlot n o := by
  intro o ho
  obtain ⟨w, hw, rfl⟩ := mem_offsets.1 ho
  exact h.slots w hw

/-- What was written has a region. -/
theorem Backed.covered (h : Backed n s store) (hn : n ≤ MAX_REMOTE_REGIONS * PAGE_SIZE) :
    ∀ w ∈ s.written, ∃ i, i < s.num_remote_regions ∧
      (s.remote_regions i).virtual_offset = w.virtual_offset :=
  h.inv.covered.resolve_right (not_lt.2 (card_slots hn h.isSlot))

/-- The table has an entry for every slot. -/
theorem Backed.room (h : Backed n s store) (hn : n ≤ MAX_REMOTE_REGIONS * PAGE_SIZE)
    (hoff : IsSlot n off) (hfind : s.find_remote_region off = none) :
    s.num_remote_regions < MAX_REMOTE_REGIONS := by
  by_contra hfull
  have hfull : s.num_remote_regions = MAX_REMOTE_REGIONS :=
    le_antisymm h.inv.bound (not_lt.1 hfull)
  -- a full table has an entry for as many offsets as there are slots, and `off` would be one more
  have hnew : off ∉ s.offsets := by
    intro hin
    obtain ⟨w, hw, rfl⟩ := mem_offsets.1 hin
    obtain ⟨i, hi, hio⟩ := h.covered hn w hw
    exact h.inv.find_none hfind hi hio
  have hcard := card_slots (t := insert off s.offsets) hn
    (Finset.forall_mem_insert _ _ _ |>.2 ⟨hoff, h.isSlot⟩)
  rw [Finset.card_insert_of_notMem hnew] at hcard
  have hmax := h.inv.full_card hfull
  omega

/-- The server has memory left while the table has entries left. -/
theorem Backed.not_refused (h : Backed n s store) (hroom : s.num_remote_regions < MAX_REMOTE_REGIONS) :
    ¬ s.Refused env := by
  rintro (⟨e, he⟩ | ⟨hfull, -⟩)
  · have hlive : liveBytes s.rdma.blocks < blockBytes s.rdma.blocks := by
      have hused := h.used
      have hsize : 4096 * MAX_REMOTE_REGIONS < SIM_REMOTE_MEMORY_SIZE := by norm_num
      rw [h.whole]
      omega
    obtain ⟨r, hr⟩ := h.inv.blocks.allocate_page round_up_page (by decide) env.split hlive
    rw [hr] at he
    cases he
  · exact absurd hfull hroom.ne

/-- The entry for a write, and what it takes of the server's memory. -/
structure Entered (env : CallEnv) (s s₁ : RdmaStore) (off i : ℕ) : Prop where
  chosen : Chosen env s s₁ off i
  translator : s₁.translator = s.translator
  whole : blockBytes s₁.rdma.blocks = blockBytes s.rdma.blocks
  used : liveBytes s₁.rdma.blocks + 4096 * s.num_remote_regions ≤
    liveBytes s.rdma.blocks + 4096 * s₁.num_remote_regions

/-- **The region of a write** to a slot is found. -/
theorem Backed.write_region (h : Backed n s store) (hn : n ≤ MAX_REMOTE_REGIONS * PAGE_SIZE)
    (hoff : IsSlot n off) (henv : env.split = true) :
    ∃ i s₁, s.write_region env off PAGE_SIZE = (some i, s₁) ∧ Entered env s s₁ off i := by
  rcases hfind : s.find_remote_region off with _ | i
  · -- a new region: the table has room, so it grows by one entry
    have hroom := h.room hn hoff hfind
    rw [write_region_new hfind]
    rcases h.inv.allocate_remote_region env fun j hj => h.inv.find_none hfind hj with
      ⟨-, href, -⟩ | ⟨i, hi, hch⟩
    · exact absurd href (h.not_refused hroom)
    · rcases s.allocate_table env off PAGE_SIZE with ⟨hnone, -⟩ | ⟨j, addr, -, hindex, -, hnum, htr⟩
      · rw [hi] at hnone
        cases hnone
      · rw [h.inv.free_index hroom, Option.some_or] at hindex
        cases hindex
        refine ⟨i, _, Prod.ext hi rfl, hch, htr, ?_, ?_⟩
        · rcases hch.blocks with he | ⟨addr, ha⟩
          · rw [he]
          · rw [henv] at ha
            exact blockBytes_allocate_walk (rdma_sim_allocate_eq_ok ha)
        · have hpage : round_up PAGE_SIZE = 4096 := round_up_page
          rw [hnum, max_eq_right (Nat.le_succ _)]
          rcases hch.blocks with he | ⟨addr, ha⟩
          · rw [he]
            omega
          · rw [liveBytes_allocate ha, hpage]
            omega
  · obtain ⟨hi, hvo⟩ := h.inv.find_remote_region.1 hfind
    refine ⟨i, s, write_region_found hfind (h.inv.size i hi), ⟨h.inv.toTable, hi, hvo,
      fun j _ hj => ⟨hj, rfl⟩, rfl, rfl, Or.inl rfl, Or.inl fun j hj => ⟨j, hj, rfl⟩⟩, rfl, rfl, le_rfl⟩

theorem MapInv.keyed (h : s.MapInv) : s.Keyed :=
  ⟨h.bound, h.indexed, fun i j hi hj => h.offsets i j (h.indexed i hi) (h.indexed j hj)⟩

/-- The windows stay what they are. -/
theorem windows_write (h : s.MapInv) (ht : s.translator.Windows) (env : CallEnv) (off : ℕ)
    (page : PageData) : (s.rdma_write_page env off page.bytes PAGE_SIZE).2.translator.Windows := by
  rcases (h.keyed.write env off page.bytes PAGE_SIZE).region with ⟨addr, -, he⟩ | ⟨-, -, he⟩
  · rw [he, if_pos rfl]
    exact ht.step env.node off PAGE_SIZE addr
  · rw [he]
    exact ht

/-- **A write** to a slot succeeds. -/
theorem Backed.write (h : Backed n s store) (hn : n ≤ MAX_REMOTE_REGIONS * PAGE_SIZE)
    (hoff : IsSlot n off) (hpage : Plain page) (henv : env.split = true) :
    (s.rdma_write_page env off page.bytes PAGE_SIZE).1 = .ok () ∧
      Backed n (s.rdma_write_page env off page.bytes PAGE_SIZE).2
        (Function.update store off (some page)) := by
  have hinv := h.inv.write env off page
  have hwin := windows_write h.inv h.windows env off page
  obtain ⟨i, s₁, hregion, he⟩ := h.write_region hn hoff henv
  have hr : s.rdma_write_page env off page.bytes PAGE_SIZE = (s₁.touch i env.now).send_page env off
      ((s₁.touch i env.now).remote_regions i).remote_addr page.bytes PAGE_SIZE := by
    rw [touch_addr]
    simp only [rdma_write_page, hregion]
    rfl
  obtain ⟨w, rdma, hwoff, hwpage, hsend, -, hblocks, -⟩ :=
    (he.chosen.table.touch i env.now).send_page env he.chosen.index off page
  rw [hr, hsend] at hinv hwin ⊢
  have hwritten : ∀ w' ∈ w :: s₁.written, w' = w ∨ w' ∈ s.written := by
    rw [he.chosen.written]
    exact fun w' hw' => List.mem_cons.1 hw'
  refine ⟨rfl, hinv, hwin, fun w' hw' => ?_, fun w' hw' => ?_, ?_, ?_, fun o => ?_⟩
  · rcases hwritten w' hw' with rfl | hw'
    · exact hwoff ▸ hoff
    · exact h.slots w' hw'
  · rcases hwritten w' hw' with rfl | hw'
    · exact ⟨hwpage ▸ hpage, hwin⟩
    · exact h.plain w' hw'
  · show blockBytes rdma.blocks = _
    rw [hblocks]
    exact he.whole.trans h.whole
  · show liveBytes rdma.blocks ≤ 4096 * s₁.num_remote_regions
    rw [hblocks]
    have hused := h.used
    have hmore := he.used
    show liveBytes s₁.rdma.blocks ≤ _
    omega
  · show _ = (List.find? (fun w' => decide (w'.virtual_offset = o)) (w :: s₁.written)).map Written.page
    rw [he.chosen.written]
    by_cases ho : o = off
    · subst ho
      have hd : decide (w.virtual_offset = o) = true := decide_eq_true hwoff
      rw [Function.update_self, List.find?_cons, hd, Option.map_some, hwpage]
    · have hd : decide (w.virtual_offset = o) = false :=
        decide_eq_false fun hd => ho (hd.symm.trans hwoff)
      rw [Function.update_of_ne ho, h.pages o, List.find?_cons, hd, lastWrite]

/-- The codec leaves a plain page as it is. -/
theorem yields_plain {w : Written} (h : Plain w.page) (hw : w.translator.Windows) {t : Translator}
    (ht : t.Windows) : yields t w = w.page := by
  rw [yields, Written.stored, converted, converted, h.for_remote hw, h.from_remote ht]

/-- **A read** yields what was written, and fails for an offset that was not. -/
theorem Backed.read (h : Backed n s store) (hn : n ≤ MAX_REMOTE_REGIONS * PAGE_SIZE)
    (env : CallEnv) (off : ℕ) :
    (s.rdma_read_page env off PAGE_SIZE).1 =
        (match store off with
        | some page => .ok page.bytes
        | none => .error (some .EFAULT)) ∧
      Backed n (s.rdma_read_page env off PAGE_SIZE).2 store := by
  have hinv := h.inv.read env off
  rcases hfind : s.find_remote_region off with _ | i
  · have hnone : s.lastWrite off = none := by
      rcases hlast : s.lastWrite off with _ | w
      · rfl
      · obtain ⟨hw, hwoff⟩ := lastWrite_spec hlast
        obtain ⟨i, hi, hio⟩ := h.covered hn w hw
        exact absurd (hio.trans hwoff) (h.inv.find_none hfind hi)
    have hstore : store off = none := by rw [h.pages, hnone, Option.map_none]
    rw [read_eq_error hfind, hstore]
    exact ⟨rfl, h⟩
  · obtain ⟨hi, hio⟩ := h.inv.find_remote_region.1 hfind
    obtain ⟨w, rdma, hlast, hr, -, hblocks, -⟩ := h.inv.read_page env hi hio
    obtain ⟨hplain, hwin⟩ := h.plain w (lastWrite_spec hlast).1
    have hstore : store off = some w.page := by rw [h.pages, hlast, Option.map_some]
    rw [hr] at hinv ⊢
    rw [hstore, yields_plain hplain hwin h.windows]
    refine ⟨rfl, hinv, h.windows, h.slots, h.plain, ?_, ?_, h.pages⟩
    · exact (congrArg blockBytes hblocks).trans h.whole
    · exact (congrArg liveBytes hblocks).trans_le h.used

end RdmaStore

end SwapPrefetch
