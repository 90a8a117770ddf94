/-
The page codec of the remote store: `convert_pointers_for_remote_storage` and
`convert_pointers_from_remote_storage` (`src/pointer_prefetch.c:519-582`).

Both rewrite the last word of a page. The encoder takes every word in the local window for
a pointer, the decoder every word in the remote window. No word of either window survives.
The server's blocks start above the remote window, so a lookup of the encoder that succeeds
leads to a word that the decoder does not recognise, and no lookup of the decoder succeeds;
a lookup that fails overwrites the word with `0`.
-/
import Mathlib.Tactic
import SwapPrefetch.AddressTranslation
import SwapPrefetch.Words

set_option autoImplicit false

namespace SwapPrefetch

open Words

/-- The bytes of a page. -/
abbrev PageData : Type := Fin PAGE_SIZE → UInt8

/-- `POINTER_OFFSET_FROM_END` (`src/include/pointer_prefetch.h`). -/
abbrev POINTER_OFFSET_FROM_END : ℕ := 8

/-- The word at the end of a page. -/
def PageData.pointer (page : PageData) : ℕ := load page (PAGE_SIZE - POINTER_OFFSET_FROM_END)

/-- Overwrite the word at the end of a page. -/
def PageData.setPointer (page : PageData) (w : ℕ) : PageData :=
  store page (PAGE_SIZE - POINTER_OFFSET_FROM_END) w

/-- What the two conversions share: a word that `valid` takes for a pointer is converted,
or overwritten with `0` if that fails. The return value and the page. -/
def convert_pointers (valid : ℕ → Bool) (convert : ℕ → Option ℕ) (page_data : PageData) :
    ℤ × PageData :=
  let pointer := page_data.pointer
  if pointer = 0 then (0, page_data)
  else if valid pointer then
    match convert pointer with
    | some converted => (0, page_data.setPointer converted)
    | none => (-1, page_data.setPointer 0)
  else (0, page_data)

/-- `convert_pointers_for_remote_storage` (`src/pointer_prefetch.c:519`). The address of the
page is only logged. -/
def convert_pointers_for_remote_storage (t : Translator) (page_data : PageData)
    (_page_va : ℕ) : ℤ × PageData :=
  convert_pointers (is_valid_local_pointer t) (convert_local_to_remote_pointer t) page_data

/-- `convert_pointers_from_remote_storage` (`src/pointer_prefetch.c:551`). -/
def convert_pointers_from_remote_storage (t : Translator) (page_data : PageData)
    (_page_va : ℕ) : ℤ × PageData :=
  convert_pointers (is_valid_remote_pointer t) (convert_remote_to_local_pointer t) page_data

/-! ## Words and pages -/

theorem PageData.pointer_lt (page : PageData) : page.pointer < 2 ^ 64 := load_lt _ _

theorem PageData.pointer_setPointer (page : PageData) {w : ℕ} (hw : w < 2 ^ 64) :
    (page.setPointer w).pointer = w :=
  load_store page (by decide) hw

theorem PageData.setPointer_pointer (page : PageData) : page.setPointer page.pointer = page :=
  store_load page

theorem PageData.setPointer_setPointer (page : PageData) (w w' : ℕ) :
    (page.setPointer w).setPointer w' = page.setPointer w' :=
  store_store page w w'

theorem PageData.setPointer_eq_self_iff (page : PageData) {w : ℕ} (hw : w < 2 ^ 64) :
    page.setPointer w = page ↔ page.pointer = w :=
  store_eq_self_iff page (by decide) hw

/-- What a conversion does to the last word. -/
def convertWord (valid : ℕ → Bool) (convert : ℕ → Option ℕ) (w : ℕ) : ℕ :=
  if w = 0 then 0 else if valid w then (convert w).getD 0 else w

/-- A conversion rewrites the last word and nothing else. -/
theorem convert_pointers_eq (valid : ℕ → Bool) (convert : ℕ → Option ℕ) (page : PageData) :
    (convert_pointers valid convert page).2
      = page.setPointer (convertWord valid convert page.pointer) := by
  simp only [convert_pointers, convertWord]
  by_cases h0 : page.pointer = 0
  · rw [if_pos h0, if_pos h0, ← h0]
    exact page.setPointer_pointer.symm
  · rw [if_neg h0, if_neg h0]
    by_cases hv : valid page.pointer = true
    · rw [if_pos hv, if_pos hv]
      rcases convert page.pointer with _ | q <;> rfl
    · rw [if_neg hv, if_neg hv]
      exact page.setPointer_pointer.symm

/-! ## The windows -/

/-- The words that `is_valid_local_pointer` takes for pointers. -/
def LocalWindow (w : ℕ) : Prop := 0x7f0000000000 ≤ w ∧ w < 0x7fffffffffffffff

/-- The words that `is_valid_remote_pointer` takes for pointers. -/
def RemoteWindow (w : ℕ) : Prop := 0x2000000000 ≤ w ∧ w < 0x3fffffffff

section Translators

variable {t : Translator}

theorem Translator.Ok.valid_local (h : t.Ok) {w : ℕ} (h0 : w ≠ 0) :
    is_valid_local_pointer t w = true ↔ LocalWindow w := by
  rw [is_valid_local_pointer, if_neg h0, if_neg (by simp [h.initialized]), h.local_window.1,
    h.local_window.2, decide_eq_true_eq, LocalWindow]

theorem Translator.Ok.valid_remote (h : t.Ok) {w : ℕ} (h0 : w ≠ 0) :
    is_valid_remote_pointer t w = true ↔ RemoteWindow w := by
  rw [is_valid_remote_pointer, if_neg h0, if_neg (by simp [h.initialized]), h.remote_window.1,
    h.remote_window.2, decide_eq_true_eq, RemoteWindow]

/-- The encoder keeps a word that is not in the local window. Any other becomes `0`, or a
word in the memory of the server. -/
theorem Translator.Ok.encode (h : t.Ok) (w : ℕ) :
    let e := convertWord (is_valid_local_pointer t) (convert_local_to_remote_pointer t) w
    ¬ LocalWindow w ∧ e = w ∨
      LocalWindow w ∧ (e = 0 ∨ SIM_REMOTE_MEMORY_BASE ≤ e ∧
        e < SIM_REMOTE_MEMORY_BASE + SIM_REMOTE_MEMORY_SIZE) := by
  intro e
  by_cases h0 : w = 0
  · refine Or.inl ⟨?_, by simp [e, convertWord, h0]⟩
    rw [LocalWindow, h0]
    omega
  · by_cases hw : LocalWindow w
    · refine Or.inr ⟨hw, ?_⟩
      have he : e = (convert_local_to_remote_pointer t w).getD 0 := by
        simp only [e, convertWord, if_neg h0, if_pos ((h.valid_local h0).2 hw)]
      rw [he]
      rcases hc : convert_local_to_remote_pointer t w with _ | q
      · exact Or.inl rfl
      · exact Or.inr (h.convert_local h0 hc)
    · refine Or.inl ⟨hw, ?_⟩
      simp only [e, convertWord, if_neg h0, if_neg (fun hv => hw ((h.valid_local h0).1 hv))]

/-- The decoder keeps a word that is not in the remote window, and overwrites any other. -/
theorem Translator.Ok.decode (h : t.Ok) (w : ℕ) :
    let d := convertWord (is_valid_remote_pointer t) (convert_remote_to_local_pointer t) w
    ¬ RemoteWindow w ∧ d = w ∨ RemoteWindow w ∧ d = 0 := by
  intro d
  by_cases h0 : w = 0
  · refine Or.inl ⟨?_, by simp [d, convertWord, h0]⟩
    rw [RemoteWindow, h0]
    omega
  · by_cases hw : RemoteWindow w
    · refine Or.inr ⟨hw, ?_⟩
      have hlt : w < SIM_REMOTE_MEMORY_BASE := lt_trans hw.2 (by decide)
      simp only [d, convertWord, if_neg h0, if_pos ((h.valid_remote h0).2 hw),
        h.convert_remote h0 hlt, Option.getD_none]
    · refine Or.inl ⟨hw, ?_⟩
      simp only [d, convertWord, if_neg h0, if_neg (fun hv => hw ((h.valid_remote h0).1 hv))]

end Translators

/-- The word that comes back through the store. -/
theorem decode_encode_iff {t t' : Translator} (h : t.Ok) (h' : t'.Ok) (w : ℕ) :
    convertWord (is_valid_remote_pointer t') (convert_remote_to_local_pointer t')
        (convertWord (is_valid_local_pointer t) (convert_local_to_remote_pointer t) w) = w ↔
      ¬ LocalWindow w ∧ ¬ RemoteWindow w := by
  rcases h.encode w with ⟨hl, he⟩ | ⟨hl, he⟩
  · rw [he]
    rcases h'.decode w with ⟨hr, hd⟩ | ⟨hr, hd⟩
    · exact iff_of_true hd ⟨hl, hr⟩
    · refine iff_of_false (fun hw => ?_) fun hn => hn.2 hr
      rw [hd] at hw
      rw [RemoteWindow] at hr
      omega
  · refine iff_of_false (fun hw => ?_) fun hn => hn.1 hl
    generalize convertWord (is_valid_local_pointer t) (convert_local_to_remote_pointer t) w = e
      at he hw
    simp only [LocalWindow, SIM_REMOTE_MEMORY_BASE, SIM_REMOTE_MEMORY_SIZE] at hl he
    rcases h'.decode e with ⟨_, hd⟩ | ⟨_, hd⟩
    · rw [hd] at hw
      omega
    · rw [hd] at hw
      omega

/-- **The codec round-trips exactly the pages whose last word is in neither window.** The
decoding translator may have more regions than the encoding one. -/
theorem codec_round_trips_iff {disksize : ℕ} {t t' : Translator}
    (h : TranslatorReaches disksize t) (h' : TranslatorReaches disksize t') (page : PageData)
    (virtual_offset : ℕ) :
    (convert_pointers_from_remote_storage t'
        (convert_pointers_for_remote_storage t page virtual_offset).2 virtual_offset).2 = page ↔
      ¬ LocalWindow page.pointer ∧ ¬ RemoteWindow page.pointer := by
  have henc : convertWord (is_valid_local_pointer t) (convert_local_to_remote_pointer t)
      page.pointer < 2 ^ 64 := by
    have hw := page.pointer_lt
    rcases h.ok.encode page.pointer with ⟨_, he⟩ | ⟨_, he | ⟨_, he⟩⟩
    · rw [he]
      exact hw
    · rw [he]
      decide
    · exact lt_trans he (by decide)
  rw [convert_pointers_from_remote_storage, convert_pointers_for_remote_storage,
    convert_pointers_eq, convert_pointers_eq, page.pointer_setPointer henc,
    page.setPointer_setPointer, page.setPointer_eq_self_iff, eq_comm, decode_encode_iff h.ok h'.ok]
  rcases h'.ok.decode (convertWord (is_valid_local_pointer t) (convert_local_to_remote_pointer t)
    page.pointer) with ⟨_, hd⟩ | ⟨_, hd⟩
  · rw [hd]
    exact henc
  · rw [hd]
    decide

/-- A page of zeros with a pointer into the local window at its end. -/
def pointerPage : PageData := PageData.setPointer (fun _ => 0) 0x7f0000001000

/-- The page's own slot is registered, as `rdma_write_page` does before it encodes. -/
def oneRegion : Translator :=
  { address_translator_init {} with regions := [AddressRegion.of 0 PAGE_SIZE SIM_REMOTE_MEMORY_BASE] }

theorem oneRegion_reaches {disksize : ℕ} (h : 0 < disksize) :
    TranslatorReaches disksize oneRegion := by
  have hblock : AllocReturned PAGE_SIZE SIM_REMOTE_MEMORY_BASE :=
    ⟨init_sim_remote_memory_allocator, _, true, AllocReaches.init, rfl⟩
  have hreg : register_address_region true 0 PAGE_SIZE SIM_REMOTE_MEMORY_BASE
      (address_translator_init {}) = .ok oneRegion := rfl
  exact TranslatorReaches.register TranslatorReaches.init rfl h hblock hreg

theorem codec_loses_pointerPage :
    TranslatorReaches 4096 oneRegion ∧
      (convert_pointers_from_remote_storage oneRegion
        (convert_pointers_for_remote_storage oneRegion pointerPage 0).2 0).2 ≠ pointerPage := by
  refine ⟨oneRegion_reaches (by decide), fun he => ?_⟩
  have hp : pointerPage.pointer = 0x7f0000001000 := PageData.pointer_setPointer _ (by decide)
  have henc : convertWord (is_valid_local_pointer oneRegion)
      (convert_local_to_remote_pointer oneRegion) 0x7f0000001000 = 0 := by decide
  have hdec : convertWord (is_valid_remote_pointer oneRegion)
      (convert_remote_to_local_pointer oneRegion) 0 = 0 := by decide
  rw [convert_pointers_from_remote_storage, convert_pointers_for_remote_storage,
    convert_pointers_eq, convert_pointers_eq, hp, henc,
    PageData.pointer_setPointer _ (by decide), hdec] at he
  have hz := congrArg PageData.pointer he
  rw [PageData.pointer_setPointer _ (by decide), hp] at hz
  exact absurd hz (by decide)

theorem codec_round_trips_small :
    (convert_pointers_from_remote_storage oneRegion
      (convert_pointers_for_remote_storage oneRegion (PageData.setPointer (fun _ => 0) 5) 0).2 0).2
      = PageData.setPointer (fun _ => 0) 5 := by
  have hreach : TranslatorReaches 4096 oneRegion := oneRegion_reaches (by decide)
  refine (codec_round_trips_iff hreach hreach _ 0).2 ?_
  rw [PageData.pointer_setPointer _ (by decide), LocalWindow, RemoteWindow]
  decide

end SwapPrefetch
