/-
The pointer translator of `src/address_translation.c`.

Regions are kept in list order, newest first. Addresses are 64-bit: every sum the code
computes is taken modulo `2 ^ 64`. The two conversions are one walk over the regions, from
one side's range to the other side's base.
-/
import Mathlib.Tactic
import SwapPrefetch.Paging
import SwapPrefetch.RdmaAlloc

set_option autoImplicit false

namespace SwapPrefetch

/-- `address_region_t`. -/
structure AddressRegion where
  local_base : ℕ
  local_end : ℕ
  remote_base : ℕ
  size : ℕ
  active : Bool
deriving DecidableEq, Repr

/-- `address_translator_t`. -/
structure Translator where
  regions : List AddressRegion := []
  local_heap_base : ℕ := 0
  local_heap_end : ℕ := 0
  remote_heap_base : ℕ := 0
  remote_heap_end : ℕ := 0
  initialized : Bool := false
deriving DecidableEq, Repr

/-- `address_translator_init` (`src/address_translation.c:14`). -/
def address_translator_init (t : Translator) : Translator :=
  if t.initialized then t
  else
    { regions := []
      local_heap_base := 0x7f0000000000
      local_heap_end := 0x7fffffffffffffff
      remote_heap_base := 0x2000000000
      remote_heap_end := 0x3fffffffff
      initialized := true }

/-! ## Regions -/

/-- The region that `register_address_region` describes. -/
def AddressRegion.of (local_base size remote_base : ℕ) : AddressRegion :=
  { local_base := local_base, local_end := (local_base + size) % 2 ^ 64
    remote_base := remote_base, size := size, active := true }

/-- The walk of `register_address_region`: overwrite the first region with this base. -/
def update_region (r : AddressRegion) : List AddressRegion → Option (List AddressRegion)
  | [] => none
  | current :: rest =>
      if current.local_base = r.local_base then some (r :: rest)
      else (update_region r rest).map fun rest => current :: rest

/-- `register_address_region` (`src/address_translation.c:63`). `node` says whether the
node of a new region can be allocated. -/
def register_address_region (node : Bool) (local_base size remote_base : ℕ) (t : Translator) :
    Except Errno Translator :=
  let r := AddressRegion.of local_base size remote_base
  if t.initialized = false then .error .ENOTCONN
  else
    match update_region r t.regions with
    | some regions => .ok { t with regions := regions }
    | none => if node then .ok { t with regions := r :: t.regions } else .error .ENOMEM

/-- The walk of `unregister_address_region`. -/
def remove_region (local_base : ℕ) : List AddressRegion → Option (List AddressRegion)
  | [] => none
  | current :: rest =>
      if current.local_base = local_base then some rest
      else (remove_region local_base rest).map fun rest => current :: rest

/-- `unregister_address_region` (`src/address_translation.c:108`). -/
def unregister_address_region (local_base : ℕ) (t : Translator) : Except Errno Translator :=
  if t.initialized = false then .error .ENOTCONN
  else
    match remove_region local_base t.regions with
    | some regions => .ok { t with regions := regions }
    | none => .error .ENOENT

/-! ## Conversion -/

/-- The walk of the two conversions: the first active region whose range, from `base` to
`limit`, contains the pointer; the result is at the same distance from `target`. -/
def convert_walk (base limit target : AddressRegion → ℕ) (pointer : ℕ) :
    List AddressRegion → Option ℕ
  | [] => none
  | current :: rest =>
      if current.active ∧ base current ≤ pointer ∧ pointer < limit current then
        some ((target current + (pointer - base current)) % 2 ^ 64)
      else convert_walk base limit target pointer rest

/-- What the two conversions share; `none` is a result that is not `valid`. -/
def convert_pointer (base limit target : AddressRegion → ℕ) (t : Translator) (pointer : ℕ) :
    Option ℕ :=
  if pointer = 0 then some 0
  else if t.initialized = false then none
  else convert_walk base limit target pointer t.regions

/-- `convert_local_to_remote_pointer` (`src/address_translation.c:138`). -/
def convert_local_to_remote_pointer (t : Translator) (local_pointer : ℕ) : Option ℕ :=
  convert_pointer (fun r => r.local_base) (fun r => r.local_end) (fun r => r.remote_base) t
    local_pointer

/-- `convert_remote_to_local_pointer` (`src/address_translation.c:180`). -/
def convert_remote_to_local_pointer (t : Translator) (remote_pointer : ℕ) : Option ℕ :=
  convert_pointer (fun r => r.remote_base) (fun r => (r.remote_base + r.size) % 2 ^ 64)
    (fun r => r.local_base) t remote_pointer

/-- `is_valid_local_pointer` (`src/address_translation.c:222`). -/
def is_valid_local_pointer (t : Translator) (pointer : ℕ) : Bool :=
  if pointer = 0 then true
  else if t.initialized = false then false
  else decide (t.local_heap_base ≤ pointer ∧ pointer < t.local_heap_end)

/-- `is_valid_remote_pointer` (`src/address_translation.c:230`). -/
def is_valid_remote_pointer (t : Translator) (pointer : ℕ) : Bool :=
  if pointer = 0 then true
  else if t.initialized = false then false
  else decide (t.remote_heap_base ≤ pointer ∧ pointer < t.remote_heap_end)

/-! ## The translator of the storage layer -/

/-- The translators that `address_translator_init` and the calls of `rdma_write_page` reach:
a region is a page-aligned swap offset below `disksize`, with a block of the server. -/
inductive TranslatorReaches (disksize : ℕ) : Translator → Prop
  | init : TranslatorReaches disksize (address_translator_init {})
  | register {t t' : Translator} {node : Bool} {local_base remote_base : ℕ} :
      TranslatorReaches disksize t → local_base % PAGE_SIZE = 0 → local_base < disksize →
      AllocReturned PAGE_SIZE remote_base →
      register_address_region node local_base PAGE_SIZE remote_base t = .ok t' →
      TranslatorReaches disksize t'

/-- What holds of such a translator: the fixed windows, and where its regions lead. -/
structure Translator.Ok (t : Translator) : Prop where
  initialized : t.initialized = true
  local_window : t.local_heap_base = 0x7f0000000000 ∧ t.local_heap_end = 0x7fffffffffffffff
  remote_window : t.remote_heap_base = 0x2000000000 ∧ t.remote_heap_end = 0x3fffffffff
  region : ∀ r ∈ t.regions, r.size = PAGE_SIZE ∧ r.local_end = (r.local_base + PAGE_SIZE) % 2 ^ 64 ∧
    SIM_REMOTE_MEMORY_BASE ≤ r.remote_base ∧
    r.remote_base + PAGE_SIZE ≤ SIM_REMOTE_MEMORY_BASE + SIM_REMOTE_MEMORY_SIZE

theorem mem_update_region {r : AddressRegion} {regions regions' : List AddressRegion}
    (h : update_region r regions = some regions') {q : AddressRegion} (hq : q ∈ regions') :
    q = r ∨ q ∈ regions := by
  induction regions generalizing regions' with
  | nil => cases h
  | cons current rest ih =>
      rw [update_region] at h
      split at h
      · cases h
        exact (List.mem_cons.1 hq).imp_right (List.mem_cons_of_mem _)
      · obtain ⟨bs, hbs, rfl⟩ := Option.map_eq_some_iff.1 h
        rcases List.mem_cons.1 hq with rfl | hq
        · exact Or.inr (List.mem_cons_self)
        · exact (ih hbs hq).imp_right (List.mem_cons_of_mem _)

/-- Registering adds one region at most. -/
theorem register_address_region_spec {node : Bool} {local_base size remote_base : ℕ}
    {t t' : Translator}
    (h : register_address_region node local_base size remote_base t = .ok t') :
    ∃ regions, t' = { t with regions := regions } ∧
      ∀ q ∈ regions, q = AddressRegion.of local_base size remote_base ∨ q ∈ t.regions := by
  simp only [register_address_region] at h
  split at h
  · cases h
  · split at h
    case h_1 regions hr =>
      cases h
      exact ⟨regions, rfl, fun q hq => mem_update_region hr hq⟩
    case h_2 =>
      split at h
      · cases h
        exact ⟨_, rfl, fun q hq => List.mem_cons.1 hq⟩
      · cases h

theorem TranslatorReaches.ok {disksize : ℕ} {t : Translator} (h : TranslatorReaches disksize t) :
    t.Ok := by
  induction h with
  | init => exact ⟨rfl, ⟨rfl, rfl⟩, ⟨rfl, rfl⟩, fun r hr => (nomatch hr)⟩
  | register _ _ _ hblock hreg ih =>
      obtain ⟨regions, rfl, hregions⟩ := register_address_region_spec hreg
      refine ⟨ih.initialized, ih.local_window, ih.remote_window, fun q hq => ?_⟩
      rcases hregions q hq with rfl | hq
      · exact ⟨rfl, rfl, hblock.page_inRemote⟩
      · exact ih.region q hq

/-- A converted pointer comes from a region that contains the pointer. -/
theorem convert_walk_eq_some {base limit target : AddressRegion → ℕ} {pointer q : ℕ}
    {regions : List AddressRegion} (h : convert_walk base limit target pointer regions = some q) :
    ∃ r ∈ regions, base r ≤ pointer ∧ pointer < limit r ∧
      q = (target r + (pointer - base r)) % 2 ^ 64 := by
  induction regions with
  | nil => cases h
  | cons current rest ih =>
      rw [convert_walk] at h
      split at h
      case isTrue hr =>
        exact ⟨current, List.mem_cons_self, hr.2.1, hr.2.2, (Option.some.inj h).symm⟩
      case isFalse =>
        obtain ⟨r, hr, hspec⟩ := ih h
        exact ⟨r, List.mem_cons_of_mem _ hr, hspec⟩

/-- A local pointer is converted into the memory of the server. -/
theorem Translator.Ok.convert_local {t : Translator} (h : t.Ok) {pointer q : ℕ}
    (h0 : pointer ≠ 0) (hq : convert_local_to_remote_pointer t pointer = some q) :
    SIM_REMOTE_MEMORY_BASE ≤ q ∧ q < SIM_REMOTE_MEMORY_BASE + SIM_REMOTE_MEMORY_SIZE := by
  rw [convert_local_to_remote_pointer, convert_pointer, if_neg h0, if_neg (by simp [h.initialized])]
    at hq
  obtain ⟨r, hr, hbase, hlimit, rfl⟩ := convert_walk_eq_some hq
  obtain ⟨_, hend, hlo, hhi⟩ := h.region r hr
  simp only [PAGE_SIZE, SIM_REMOTE_MEMORY_BASE, SIM_REMOTE_MEMORY_SIZE] at *
  omega

/-- No pointer below the memory of the server is converted back. -/
theorem Translator.Ok.convert_remote {t : Translator} (h : t.Ok) {pointer : ℕ}
    (h0 : pointer ≠ 0) (hlt : pointer < SIM_REMOTE_MEMORY_BASE) :
    convert_remote_to_local_pointer t pointer = none := by
  rw [convert_remote_to_local_pointer, convert_pointer, if_neg h0, if_neg (by simp [h.initialized])]
  rcases hc : convert_walk (fun r => r.remote_base) (fun r => (r.remote_base + r.size) % 2 ^ 64)
    (fun r => r.local_base) pointer t.regions with _ | q
  · rfl
  · obtain ⟨r, hr, hbase, _, _⟩ := convert_walk_eq_some hc
    exact absurd (le_trans (h.region r hr).2.2.1 hbase) (Nat.not_le_of_lt hlt)

end SwapPrefetch
