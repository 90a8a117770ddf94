/-
Swap keeps page contents on the scalar path.

`Reaches.data` carries the joint invariant through whole runs: a resident page that is
clean and has a reserve has its bytes in the slot of the reserve, and an evicted page has
in its slot the bytes it had when its mapping was dropped. What remains is to read the
three consequences off it: a swap-in maps those bytes, an eviction may skip the write
back, and no slot serves two pages.
-/
import Mathlib.Tactic
import SwapPrefetch.Runs

set_option autoImplicit false

namespace SwapPrefetch

open Prog

variable {α : Type}

/-! ## Disk slots of live pages -/

/-- The struct whose slot a live page uses: its own once it is evicted, and that of its
reserve while it is in DRAM. -/
def slotStruct (P : Policy) (p : PageId) : Option PageId :=
  if (P.page p).in_dram then (P.page p).reserve else some p

/-- The disk slot a live page uses, if it uses one. -/
def disk_slot (P : Policy) (p : PageId) : Option ℕ :=
  (slotStruct P p).map fun i => (P.page i).virtual_offset

/-- The slot of a live page belongs to a struct on disk that leads back to the page. -/
theorem Inv.slotStruct_spec {P : Policy} (h : Inv P) {p i : PageId} (hp : p < P.npages)
    (hva : (P.page p).va ≠ 0) (hi : slotStruct P p = some i) :
    i < P.npages ∧ (P.page i).in_dram = false ∧
      (i = p ∨ (P.page i).va = 0 ∧ (P.page i).reserve = some p) := by
  rw [slotStruct] at hi
  split at hi
  case isTrue hin =>
    have hres := h.reserveOf hp hva hi
    exact ⟨hres.lt, hres.in_dram, Or.inr ⟨hres.va, hres.back⟩⟩
  case isFalse hin =>
    cases hi
    exact ⟨hp, by simpa using hin, Or.inl rfl⟩

/-- No two live pages use the same slot. -/
theorem Inv.disk_slot_inj {P : Policy} (h : Inv P) {p q : PageId} {o : ℕ} (hp : p < P.npages)
    (hq : q < P.npages) (hvp : (P.page p).va ≠ 0) (hvq : (P.page q).va ≠ 0)
    (hop : disk_slot P p = some o) (hoq : disk_slot P q = some o) : p = q := by
  obtain ⟨i, hi, rfl⟩ := Option.map_eq_some_iff.1 hop
  obtain ⟨j, hj, hij⟩ := Option.map_eq_some_iff.1 hoq
  obtain ⟨hilt, hidisk, hi'⟩ := h.slotStruct_spec hp hvp hi
  obtain ⟨hjlt, hjdisk, hj'⟩ := h.slotStruct_spec hq hvq hj
  have hji : j = i := h.disk_offset_inj hjlt hilt hjdisk hidisk hij
  subst hji
  rcases hi' with rfl | ⟨hvi, hri⟩ <;> rcases hj' with rfl | ⟨hvj, hrj⟩
  · rfl
  · exact absurd hvj hvp
  · exact absurd hvi hvq
  · exact Option.some.inj (hri.symm.trans hrj)

/-! ## Swap-ins -/

/-- A fault on an evicted page maps the bytes the page had when its mapping was dropped. -/
theorem DataOk.swapin {s s' : State α} (hd : DataOk s) (h : Idle s.pol) {fuel addr : ℕ}
    {p : PageId} {buffer : α} (hp : s.pol.pages (boundary addr) = some p)
    (hsw : (s.pol.page p).swapped_out = true)
    (hrun : ((Op.fault addr false buffer).exec fuel).run s = .ok ((), s')) :
    ∃ e, s'.mem.pte (boundary addr) = some e ∧
      s.mem.discarded (boundary addr) = some e.data := by
  obtain ⟨hlt, hva, h0⟩ := h.live hp
  rw [run_fault_evicted fuel false buffer h hp hsw] at hrun
  let s₀ : State α := { s with mem := { s.mem with buffer_space := buffer } }
  have hs := (major_fault_ends fuel false (s := s₀) h hlt (by rw [hva]; exact h0) hsw).of_ok hrun |>.1
  obtain ⟨d, hmap, hdata, _⟩ := hs.mapped
  rw [← hva]
  exact ⟨_, hmap, hdata rfl (hd.of_buffer buffer)⟩

/-- **Swap keeps contents.** In every state that a run of scalar operations reaches, while
no storage request fails: a fault on an evicted page maps the bytes the page had when its
mapping was dropped; the reserve of a clean page holds its bytes; and no two live pages use
the same disk slot. The application runs between the operations and at every point inside
them where it can (`Env.turns`). -/
theorem swap_keeps_contents {dramsize disksize : ℕ} {zero : α} {env : Env α} {r : Run α}
    {s : State α} (hio : env.io_fails = []) (hr : ∀ x ∈ r, x.2.Scalar)
    (hs : Reaches dramsize disksize zero env r s) :
    (∀ fuel addr p buffer s', s.pol.pages (boundary addr) = some p →
        (s.pol.page p).swapped_out = true →
        ((Op.fault addr false buffer).exec fuel).run s = .ok ((), s') →
        ∃ e, s'.mem.pte (boundary addr) = some e ∧
          s.mem.discarded (boundary addr) = some e.data) ∧
      (∀ p b e, p < s.pol.npages → (s.pol.page p).va ≠ 0 → (s.pol.page p).in_dram = true →
        (s.pol.page p).reserve = some b → s.mem.pte (s.pol.page p).va = some e →
        e.dirty = false → s.mem.store (s.pol.page b).virtual_offset = some e.data) ∧
      ∀ p q o, p < s.pol.npages → q < s.pol.npages → (s.pol.page p).va ≠ 0 →
        (s.pol.page q).va ≠ 0 → disk_slot s.pol p = some o → disk_slot s.pol q = some o →
        p = q := by
  have hidle := hs.idle.1
  have hdata := hs.data hr hio
  refine ⟨fun fuel addr p buffer s' hp hsw hrun => hdata.swapin hidle hp hsw hrun,
    fun p b e hp hva hin hb he hclean => ?_,
    fun p q o hp hq hvp hvq hop hoq => hidle.inv.disk_slot_inj hp hq hvp hvq hop hoq⟩
  obtain ⟨e', he', hback⟩ := hdata.resident p hp (UserPage.role_resident.2 ⟨hin, hva⟩)
  cases he.symm.trans he'
  exact hback b hb hclean

theorem swap_keeps_contents_writeThenEvict :
    ∃ s s' e, Reaches 4096 8192 0 {} writeThenEvict s ∧
      ((Op.fault 4096 false 0).exec 1).run s = .ok ((), s') ∧ s'.mem.pte 4096 = some e ∧
      s.mem.discarded 4096 = some e.data ∧ e.data = 7 := by
  have heval : passes (fun s => decide (s.pol.pages 4096 = some 0 ∧
      (s.pol.page 0).swapped_out = true ∧ s.mem.discarded 4096 = some 7) &&
      passes (fun _ => true) (((Op.fault 4096 false 0).exec 1).run s))
      ((do lrudisk_init; Run.exec writeThenEvict : Proc ℕ Unit).run
        (State.blank 4096 8192 0 {})) = true := by decide +kernel
  obtain ⟨⟨⟩, s, hs, ht⟩ := of_passes heval
  rw [Bool.and_eq_true, decide_eq_true_eq] at ht
  obtain ⟨⟨hp, hsw, hlast⟩, hf⟩ := ht
  obtain ⟨⟨⟩, s', hs', _⟩ := of_passes hf
  have hr : ∀ x ∈ writeThenEvict, x.2.Scalar := by
    simp [writeThenEvict, Op.Scalar]
  obtain ⟨e, he, hd⟩ := (swap_keeps_contents rfl hr hs).1 1 4096 0 0 s' hp hsw hs'
  exact ⟨s, s', e, hs, hs', he, hd, Option.some.inj (hd.symm.trans hlast)⟩

end SwapPrefetch
