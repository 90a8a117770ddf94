/-
The page table and the store as the routines see them.

The application runs at any point, so a routine never knows an entry exactly: it
knows it up to what an application can do to it. That is `Touched`. A page that is
write-protected keeps its bytes and its dirty bit; a page that is clean at the end was
clean, with the same bytes, at the beginning. Those two facts are all that eviction
relies on.

The rest of the file gives each page-table step as a function on `Mem`, and ends with
what one whole eviction does (`Mem.evict`): the bytes that are dropped from the page
table are the bytes that are in the slot afterwards, written now or left there
by the write that last filled it.
-/
import Mathlib.Tactic
import SwapPrefetch.Structs

set_option autoImplicit false

namespace SwapPrefetch

open Prog

variable {α : Type}

/-! ## What the application can do -/

/-- One entry, before and after the application ran. -/
structure Touched (e e' : Pte α) : Prop where
  wp : e'.wp = e.wp
  blocked : e.wp = true → e'.data = e.data ∧ e'.dirty = e.dirty
  clean : e'.dirty = false → e'.data = e.data ∧ e.dirty = false

theorem Touched.refl (e : Pte α) : Touched e e :=
  ⟨rfl, fun _ => ⟨rfl, rfl⟩, fun h => ⟨rfl, h⟩⟩

theorem Touched.trans {e e' e'' : Pte α} (h : Touched e e') (h' : Touched e' e'') :
    Touched e e'' := by
  refine ⟨h'.wp.trans h.wp, fun hwp => ?_, fun hd => ?_⟩
  · obtain ⟨hdata, hdirty⟩ := h'.blocked (h.wp.trans hwp)
    exact ⟨hdata.trans (h.blocked hwp).1, hdirty.trans (h.blocked hwp).2⟩
  · obtain ⟨hdata, hclean⟩ := h'.clean hd
    exact ⟨hdata.trans (h.clean hclean).1, (h.clean hclean).2⟩

/-- Entries are touched, and neither appear nor go away. -/
def EntryStep (a b : Option (Pte α)) : Prop :=
  (a = none → b = none) ∧ ∀ e, a = some e → ∃ e', b = some e' ∧ Touched e e'

theorem EntryStep.refl (a : Option (Pte α)) : EntryStep a a :=
  ⟨id, fun e he => ⟨e, he, Touched.refl e⟩⟩

theorem EntryStep.trans {a b c : Option (Pte α)} (h : EntryStep a b) (h' : EntryStep b c) :
    EntryStep a c := by
  refine ⟨fun ha => h'.1 (h.1 ha), fun e he => ?_⟩
  obtain ⟨e', he', ht⟩ := h.2 e he
  obtain ⟨e'', he'', ht'⟩ := h'.2 e' he'
  exact ⟨e'', he'', ht.trans ht'⟩

theorem EntryStep.of_touched {e e' : Pte α} (h : Touched e e') :
    EntryStep (some e) (some e') :=
  ⟨fun hn => (nomatch hn), fun _ he => ⟨e', rfl, Option.some.inj he ▸ h⟩⟩

/-- The parts of the contents that no application access changes. -/
structure SameRest (m m' : Mem α) : Prop where
  store : m'.store = m.store
  page_cache : m'.page_cache = m.page_cache
  buffer_space : m'.buffer_space = m.buffer_space
  prefetch_buffer : m'.prefetch_buffer = m.prefetch_buffer
  discarded : m'.discarded = m.discarded
  io_fails : m'.env.io_fails = m.env.io_fails
  copy_fails : m'.env.copy_fails = m.env.copy_fails

theorem SameRest.refl (m : Mem α) : SameRest m m := ⟨rfl, rfl, rfl, rfl, rfl, rfl, rfl⟩

theorem SameRest.trans {m m' m'' : Mem α} (h : SameRest m m') (h' : SameRest m' m'') :
    SameRest m m'' :=
  ⟨h'.1.trans h.1, h'.2.trans h.2, h'.3.trans h.3, h'.4.trans h.4, h'.5.trans h.5,
    h'.6.trans h.6, h'.7.trans h.7⟩

/-- The application ran. -/
structure AppStep (m m' : Mem α) : Prop where
  entry : ∀ va, EntryStep (m.pte va) (m'.pte va)
  rest : SameRest m m'

theorem AppStep.refl (m : Mem α) : AppStep m m := ⟨fun _ => EntryStep.refl _, SameRest.refl m⟩

theorem AppStep.trans {m m' m'' : Mem α} (h : AppStep m m') (h' : AppStep m' m'') :
    AppStep m m'' :=
  ⟨fun va => (h.entry va).trans (h'.entry va), h.rest.trans h'.rest⟩

namespace Mem

variable (m : Mem α) (va a : ℕ)

@[simp] theorem setPte_self (e : Option (Pte α)) : (m.setPte va e).pte va = e := by
  simp only [setPte, Function.update_self]

theorem setPte_ne {va a : ℕ} (h : a ≠ va) (e : Option (Pte α)) :
    (m.setPte va e).pte a = m.pte a := by
  simp only [setPte, Function.update_of_ne h]

theorem setPte_rest (e : Option (Pte α)) : SameRest m (m.setPte va e) :=
  ⟨rfl, rfl, rfl, rfl, rfl, rfl, rfl⟩

/-- Replacing an entry by one the application could have left there. -/
theorem setPte_appStep {m : Mem α} {va : ℕ} {e e' : Pte α} (he : m.pte va = some e)
    (ht : Touched e e') : AppStep m (m.setPte va (some e')) := by
  refine ⟨fun a => ?_, m.setPte_rest va _⟩
  rcases eq_or_ne a va with rfl | ha
  · rw [setPte_self, he]
    exact EntryStep.of_touched ht
  · rw [m.setPte_ne ha]
    exact EntryStep.refl _

theorem access_appStep (x : Access α) : AppStep m (m.access x) := by
  rcases x with va | ⟨va, d⟩
  · rcases he : m.pte va with _ | e
    · simp only [access, he]
      exact AppStep.refl m
    · simp only [access, he]
      exact setPte_appStep he ⟨rfl, fun _ => ⟨rfl, rfl⟩, fun h => ⟨rfl, h⟩⟩
  · rcases he : m.pte va with _ | e
    · simp only [access, he]
      exact AppStep.refl m
    · simp only [access, he]
      by_cases hwp : e.wp = true
      · rw [if_pos hwp]
        exact AppStep.refl m
      · -- a write: it is not blocked, and it leaves the page dirty
        rw [if_neg hwp]
        exact setPte_appStep he ⟨rfl, fun h => absurd h hwp, fun h => nomatch h⟩

theorem accesses_appStep (xs : List (Access α)) (m : Mem α) : AppStep m (xs.foldl access m) := by
  induction xs generalizing m with
  | nil => exact AppStep.refl m
  | cons x xs ih => exact (m.access_appStep x).trans (ih (m.access x))

/-- A turn of the application, whatever it does in it. -/
theorem app_turn_appStep : AppStep m m.app_turn := by
  unfold app_turn
  rcases m.env.turns with _ | ⟨t, ts⟩
  · exact AppStep.refl m
  · have h := accesses_appStep t m
    exact ⟨h.entry, ⟨h.rest.store, h.rest.page_cache, h.rest.buffer_space,
      h.rest.prefetch_buffer, h.rest.discarded, rfl, rfl⟩⟩

/-- What the application does depends on the page table only. -/
theorem access_pte_congr {m m' : Mem α} (h : m.pte = m'.pte) (x : Access α) :
    (m.access x).pte = (m'.access x).pte := by
  rcases x with va | ⟨va, d⟩
  · simp only [access, h]
    rcases m'.pte va with _ | e
    · exact h
    · simp only [setPte, h]
  · simp only [access, h]
    rcases m'.pte va with _ | e
    · exact h
    · by_cases hwp : e.wp = true
      · simp only [hwp, if_true]
        exact h
      · simp only [hwp, setPte, h, Bool.false_eq_true, if_false]

theorem accesses_pte_congr (xs : List (Access α)) {m m' : Mem α} (h : m.pte = m'.pte) :
    (xs.foldl access m).pte = (xs.foldl access m').pte := by
  induction xs generalizing m m' with
  | nil => exact h
  | cons x xs ih => exact ih (access_pte_congr h x)

theorem app_turn_pte_congr {m m' : Mem α} (h : m.pte = m'.pte) (ht : m.env.turns = m'.env.turns) :
    m.app_turn.pte = m'.app_turn.pte := by
  simp only [app_turn, ht]
  rcases m'.env.turns with _ | ⟨t, ts⟩
  · exact h
  · exact accesses_pte_congr t h

/-! ## The page-table steps as functions -/

/-- What `extmem_wp_page` does once the application has run. -/
def protect (b : Bool) : Mem α :=
  match m.pte va with
  | some e => m.setPte va (some { e with wp := b })
  | none => m

/-- What `pt_clear_accessed_flag` does once the application has run. -/
def clear_accessed : Mem α :=
  match m.pte va with
  | some e => m.setPte va (some { e with accessed := false })
  | none => m

/-- The bits that `pt_get_bits` returns once the application has run. -/
def bits : Bool × Bool :=
  match m.pte va with
  | some e => (e.accessed, e.dirty)
  | none => (false, false)

/-- What `madvise` does once the application has run. -/
def discard : Mem α :=
  match m.pte va with
  | some e =>
      { m.setPte va none with discarded := Function.update m.discarded va (some e.data) }
  | none => m

/-- What a storage write of `d` does, failed or not. -/
def disk_write (dest : ℕ) (d : α) : Mem α :=
  let m' := { m with env := { m.env with io_fails := m.env.io_fails.tail } }
  if m.env.io_fails.headD false then m'
  else { m' with store := Function.update m.store dest (some d) }

end Mem

variable (s : State α) (i : PageId)

theorem run_extmem_wp_page (b : Bool) (h0 : (s.pol.page i).va ≠ 0)
    (hal : (s.pol.page i).va % PAGE_SIZE = 0) :
    (extmem_wp_page i b).run s
      = .ok ((), { s with mem := s.mem.app_turn.protect (s.pol.page i).va b }) := by
  rw [extmem_wp_page, run_bind_ok (run_app_turn s), run_bind_ok (run_get_page _ i),
    run_check_bind h0, run_check_bind hal, run_bind_ok (run_get_mem _), Mem.protect]
  rcases s.mem.app_turn.pte (s.pol.page i).va with _ | e <;> rfl

theorem run_pt_get_bits (hal : (s.pol.page i).va % PAGE_SIZE = 0) :
    (pt_get_bits i).run s
      = .ok (s.mem.app_turn.bits (s.pol.page i).va, { s with mem := s.mem.app_turn }) := by
  rw [pt_get_bits, run_bind_ok (run_app_turn s), run_bind_ok (run_get_page _ i),
    run_check_bind hal, run_bind_ok (run_get_mem _), Mem.bits]
  rcases s.mem.app_turn.pte (s.pol.page i).va with _ | e <;> rfl

theorem run_pt_clear_accessed_flag (hal : (s.pol.page i).va % PAGE_SIZE = 0) :
    (pt_clear_accessed_flag i).run s
      = .ok ((), { s with mem := s.mem.app_turn.clear_accessed (s.pol.page i).va }) := by
  rw [pt_clear_accessed_flag, run_bind_ok (run_app_turn s), run_bind_ok (run_get_page _ i),
    run_check_bind hal, run_bind_ok (run_get_mem _), Mem.clear_accessed]
  rcases s.mem.app_turn.pte (s.pol.page i).va with _ | e <;> rfl

theorem run_madvise_dontneed (va : ℕ) :
    (madvise_dontneed va).run s = .ok ((), { s with mem := s.mem.app_turn.discard va }) := by
  rw [madvise_dontneed, run_bind_ok (run_app_turn s), run_bind_ok (run_get_mem _), Mem.discard]
  rcases s.mem.app_turn.pte va with _ | e <;> rfl

theorem run_extmem_disk_write (va dest : ℕ) :
    (extmem_disk_write va dest).run s
      = match s.mem.app_turn.pte va with
        | none => .error .source_unmapped
        | some e => .ok ((), { s with mem := s.mem.app_turn.disk_write dest e.data }) := by
  rw [extmem_disk_write, run_bind_ok (run_app_turn s), run_bind_ok (run_get_mem _)]
  rcases s.mem.app_turn.pte va with _ | e
  · rfl
  · simp only [io_outcome, Mem.disk_write, run_bind, run_get_mem, run_modify_mem, ok_bind, run_pure]
    cases s.mem.app_turn.env.io_fails.headD false <;> rfl

/-! ## One eviction

From the moment the page is write-protected its bytes and its dirty bit are frozen,
so the bit that is read is the bit that counts, and the bytes that are written are the
bytes that are dropped. -/

/-- `m'` holds, at `va`, a protected copy of the entry `e` (or nothing), and is
otherwise what the application could have made of `m`. -/
structure Frozen (m m' : Mem α) (va : ℕ) (x : Option (Pte α)) : Prop where
  others : ∀ a, a ≠ va → EntryStep (m.pte a) (m'.pte a)
  rest : SameRest m m'
  before : EntryStep (m.pte va) x
  absent : x = none → m'.pte va = none
  held : ∀ e, x = some e → ∃ e', m'.pte va = some e' ∧ e'.wp = true ∧ e'.data = e.data ∧
    e'.dirty = e.dirty

theorem Frozen.app {m m' m'' : Mem α} {va : ℕ} {x : Option (Pte α)} (h : Frozen m m' va x)
    (h' : AppStep m' m'') : Frozen m m'' va x := by
  refine ⟨fun a ha => (h.others a ha).trans (h'.entry a), h.rest.trans h'.rest, h.before,
    fun hx => (h'.entry va).1 (h.absent hx), fun e he => ?_⟩
  obtain ⟨e', he', hwp, hdata, hdirty⟩ := h.held e he
  obtain ⟨e'', he'', ht⟩ := (h'.entry va).2 e' he'
  obtain ⟨hd, hb⟩ := ht.blocked hwp
  exact ⟨e'', he'', ht.wp.trans hwp, hd.trans hdata, hb.trans hdirty⟩

theorem Frozen.bits {m m' : Mem α} {va : ℕ} {e : Pte α} (h : Frozen m m' va (some e)) :
    (m'.bits va).2 = e.dirty := by
  obtain ⟨e', he', _, _, hdirty⟩ := h.held e rfl
  simp only [Mem.bits, he', hdirty]

/-- Write protection freezes the entry the application left. -/
theorem Frozen.protect (m : Mem α) (va : ℕ) :
    Frozen m (m.app_turn.protect va true) va (m.app_turn.pte va) := by
  have happ := m.app_turn_appStep
  rcases he : m.app_turn.pte va with _ | e
  · have hp : m.app_turn.protect va true = m.app_turn := by simp only [Mem.protect, he]
    rw [hp]
    exact ⟨fun a _ => happ.entry a, happ.rest, he ▸ happ.entry va, fun _ => he,
      fun e h => (nomatch h)⟩
  · have hp : m.app_turn.protect va true = m.app_turn.setPte va (some { e with wp := true }) := by
      simp only [Mem.protect, he]
    rw [hp]
    refine ⟨fun a ha => ?_, happ.rest.trans (m.app_turn.setPte_rest va _), he ▸ happ.entry va,
      fun h => (nomatch h), fun e' h => ?_⟩
    · rw [m.app_turn.setPte_ne ha]
      exact happ.entry a
    · cases h
      exact ⟨_, m.app_turn.setPte_self va _, rfl, rfl, rfl⟩

/-- Protecting a second time changes nothing that matters. -/
theorem Frozen.reprotect {m m' : Mem α} {va : ℕ} {x : Option (Pte α)} (h : Frozen m m' va x) :
    Frozen m (m'.protect va true) va x := by
  rcases he : m'.pte va with _ | e
  · have hp : m'.protect va true = m' := by simp only [Mem.protect, he]
    rw [hp]
    exact h
  · have hp : m'.protect va true = m'.setPte va (some { e with wp := true }) := by
      simp only [Mem.protect, he]
    rw [hp]
    refine ⟨fun a ha => ?_, h.rest.trans (m'.setPte_rest va _), h.before, fun hx => ?_,
      fun e₀ hx => ?_⟩
    · rw [m'.setPte_ne ha]
      exact h.others a ha
    · rw [h.absent hx] at he
      cases he
    · obtain ⟨e', he', _, hdata, hdirty⟩ := h.held e₀ hx
      rw [he'] at he
      cases he
      exact ⟨_, m'.setPte_self va _, rfl, hdata, hdirty⟩

namespace Mem

/-- The memory at the end of the write, from the memory before it. -/
def write_back (m : Mem α) (va off : ℕ) : Mem α :=
  match m.app_turn.pte va with
  | some e => m.app_turn.disk_write off e.data
  | none => m

/-- The memory when the dirty bit has been read. -/
def freeze (m : Mem α) (va : ℕ) : Mem α := (m.app_turn.protect va true).app_turn

/-- The memory after a migration down of the page at `va` to the slot at `off`. -/
def migrate_down (m : Mem α) (va off : ℕ) (need_wp writeback : Bool) : Mem α :=
  let m₁ := if need_wp then m.app_turn.protect va true else m
  let m₂ := if writeback then m₁.write_back va off else m₁
  m₂.app_turn.discard va

/-- The memory after an eviction of the page at `va` to the slot at `off`. -/
def evict (m : Mem α) (va off : ℕ) (need_wp has_reserve : Bool) : Mem α :=
  (m.freeze va).migrate_down va off need_wp (((m.freeze va).bits va).2 || !has_reserve)

end Mem

/-- What an eviction did to the contents. -/
structure EvictMem (m m' : Mem α) (va off : ℕ) (has_reserve : Bool) : Prop where
  others : ∀ a, a ≠ va → EntryStep (m.pte a) (m'.pte a)
  unmapped : m'.pte va = none
  store_ne : ∀ o, o ≠ off → m'.store o = m.store o
  discarded_ne : ∀ a, a ≠ va → m'.discarded a = m.discarded a
  was_unmapped : m.pte va = none → m'.discarded va = m.discarded va
  page_cache : m'.page_cache = m.page_cache
  buffer_space : m'.buffer_space = m.buffer_space
  prefetch_buffer : m'.prefetch_buffer = m.prefetch_buffer
  copy_fails : m'.env.copy_fails = m.env.copy_fails
  io_fails : m.env.io_fails = [] → m'.env.io_fails = []
  /-- the entry `e₁` that write protection froze, and where its bytes are now -/
  entry : ∀ e, m.pte va = some e → ∃ e₁, Touched e e₁ ∧ m'.discarded va = some e₁.data ∧
    (m.env.io_fails = [] → m'.store off =
      if e₁.dirty || !has_reserve then some e₁.data else m.store off)

theorem Mem.disk_write_pte (m : Mem α) (off : ℕ) (d : α) : (m.disk_write off d).pte = m.pte := by
  unfold Mem.disk_write
  split <;> rfl

/-- Writing to the store on both sides keeps the relation. -/
theorem Frozen.disk_write {m m' : Mem α} {va : ℕ} {x : Option (Pte α)} (h : Frozen m m' va x)
    (off : ℕ) (d : α) : Frozen (m.disk_write off d) (m'.disk_write off d) va x := by
  have hrest : SameRest (m.disk_write off d) (m'.disk_write off d) := by
    unfold Mem.disk_write
    rw [h.rest.io_fails]
    split
    · exact ⟨h.rest.store, h.rest.page_cache, h.rest.buffer_space, h.rest.prefetch_buffer,
        h.rest.discarded, rfl, h.rest.copy_fails⟩
    · exact ⟨by simp only [h.rest.store], h.rest.page_cache, h.rest.buffer_space,
        h.rest.prefetch_buffer, h.rest.discarded, rfl, h.rest.copy_fails⟩
  constructor
  · rw [m.disk_write_pte, m'.disk_write_pte]
    exact h.others
  · exact hrest
  · rw [m.disk_write_pte]
    exact h.before
  · rw [m'.disk_write_pte]
    exact h.absent
  · rw [m'.disk_write_pte]
    exact h.held

/-- The end of an eviction: the frozen bytes are the bytes that are dropped. -/
theorem Frozen.discard {m m' : Mem α} {va : ℕ} {x : Option (Pte α)} (h : Frozen m m' va x) :
    (∀ a, a ≠ va → EntryStep (m.pte a) ((m'.app_turn.discard va).pte a)) ∧
      (m'.app_turn.discard va).pte va = none ∧
      SameRest { m with discarded := (x.elim m.discarded fun e =>
        Function.update m.discarded va (some e.data)) } (m'.app_turn.discard va) := by
  have h' := h.app m'.app_turn_appStep
  rcases x with _ | e
  · have hd : m'.app_turn.discard va = m'.app_turn := by simp only [Mem.discard, h'.absent rfl]
    rw [hd]
    exact ⟨h'.others, h'.absent rfl, h'.rest⟩
  · obtain ⟨e', he', _, hdata, _⟩ := h'.held e rfl
    have hd : m'.app_turn.discard va = { m'.app_turn.setPte va none with
        discarded := Function.update m'.app_turn.discarded va (some e'.data) } := by
      simp only [Mem.discard, he']
    rw [hd]
    refine ⟨fun a ha => ?_, m'.app_turn.setPte_self va none, ?_⟩
    · have hp : (m'.app_turn.setPte va none).pte a = m'.app_turn.pte a :=
        m'.app_turn.setPte_ne ha none
      exact hp ▸ h'.others a ha
    · exact ⟨h'.rest.store, h'.rest.page_cache, h'.rest.buffer_space, h'.rest.prefetch_buffer,
        by simp only [h'.rest.discarded, hdata, Option.elim_some], h'.rest.io_fails,
        h'.rest.copy_fails⟩

/-- The write of a frozen page writes the frozen bytes. -/
theorem Frozen.write_back {m m' : Mem α} {va : ℕ} {x : Option (Pte α)} (h : Frozen m m' va x)
    (off : ℕ) :
    Frozen (x.elim m fun e => m.disk_write off e.data) (m'.write_back va off) va x := by
  have h' := h.app m'.app_turn_appStep
  rcases x with _ | e
  · have hw : m'.write_back va off = m' := by simp only [Mem.write_back, h'.absent rfl]
    rw [hw]
    exact h
  · obtain ⟨e', he', _, hdata, _⟩ := h'.held e rfl
    have hw : m'.write_back va off = m'.app_turn.disk_write off e.data := by
      simp only [Mem.write_back, he', hdata]
    rw [hw]
    exact h'.disk_write off e.data

/-- Writing to the store changes one slot, and uses up one outcome. -/
theorem Mem.disk_write_spec (m : Mem α) (off : ℕ) (d : α) :
    SameRest { m with
      store := (m.disk_write off d).store
      env := { m.env with io_fails := m.env.io_fails.tail } } (m.disk_write off d) ∧
      (∀ o, o ≠ off → (m.disk_write off d).store o = m.store o) ∧
      (m.env.io_fails = [] → (m.disk_write off d).store off = some d) := by
  unfold Mem.disk_write
  split
  · rename_i hf
    refine ⟨⟨rfl, rfl, rfl, rfl, rfl, rfl, rfl⟩, fun _ _ => rfl, fun h => ?_⟩
    rw [h] at hf
    cases hf
  · exact ⟨⟨rfl, rfl, rfl, rfl, rfl, rfl, rfl⟩, fun o ho => Function.update_of_ne ho _ _,
      fun _ => Function.update_self _ _ _⟩

/-- An eviction that found the bytes in the slot already. -/
theorem Frozen.evict_clean {m m' : Mem α} {va : ℕ} {x : Option (Pte α)} (h : Frozen m m' va x)
    (off : ℕ) (has_reserve : Bool) (hx : ∀ e, x = some e → (e.dirty || !has_reserve) = false) :
    EvictMem m (m'.app_turn.discard va) va off has_reserve := by
  obtain ⟨hothers, hun, hrest⟩ := h.discard
  constructor
  · exact hothers
  · exact hun
  · exact fun o _ => congrFun hrest.store o
  · intro a ha
    rw [hrest.discarded]
    rcases x with _ | e
    · rfl
    · exact Function.update_of_ne ha _ _
  · intro hn
    rw [hrest.discarded, h.before.1 hn]
    rfl
  · exact hrest.page_cache
  · exact hrest.buffer_space
  · exact hrest.prefetch_buffer
  · exact hrest.copy_fails
  · exact fun hio => hrest.io_fails.trans hio
  · intro e he
    obtain ⟨e₁, hx₁, ht⟩ := h.before.2 e he
    refine ⟨e₁, ht, ?_, fun _ => ?_⟩
    · rw [hrest.discarded, hx₁]
      exact Function.update_self _ _ _
    · rw [hx e₁ hx₁, hrest.store]
      rfl

/-- An eviction that wrote the bytes. -/
theorem Frozen.evict_write {m m' : Mem α} {va off : ℕ} {x : Option (Pte α)}
    (h : Frozen (x.elim m fun e => m.disk_write off e.data) m' va x) (has_reserve : Bool)
    (hx : ∀ e, x = some e → (e.dirty || !has_reserve) = true) :
    EvictMem m (m'.app_turn.discard va) va off has_reserve := by
  rcases x with _ | e₁
  · -- nothing was mapped, so nothing was written either
    refine { h.evict_clean off has_reserve (fun e he => (nomatch he)) with entry := fun e he => ?_ }
    obtain ⟨_, hx₁, _⟩ := h.before.2 e he
    cases hx₁
  · obtain ⟨hothers, hun, hrest⟩ := h.discard
    simp only [Option.elim_some] at hothers hrest
    obtain ⟨hw, hne, hself⟩ := m.disk_write_spec off e₁.data
    have hbefore := h.before
    simp only [Option.elim_some, Mem.disk_write_pte] at hothers hbefore
    constructor
    · exact hothers
    · exact hun
    · exact fun o ho => (congrFun hrest.store o).trans (hne o ho)
    · intro a ha
      rw [hrest.discarded]
      exact (Function.update_of_ne ha _ _).trans (congrFun hw.discarded a)
    · intro hn
      cases hbefore.1 hn
    · exact hrest.page_cache.trans hw.page_cache
    · exact hrest.buffer_space.trans hw.buffer_space
    · exact hrest.prefetch_buffer.trans hw.prefetch_buffer
    · exact hrest.copy_fails.trans hw.copy_fails
    · intro hio
      rw [hrest.io_fails]
      refine hw.io_fails.trans ?_
      simp only [hio, List.tail_nil]
    · intro e he
      obtain ⟨e₂, hx₂, ht⟩ := hbefore.2 e he
      cases hx₂
      refine ⟨e₁, ht, ?_, fun hio => ?_⟩
      · rw [hrest.discarded]
        exact Function.update_self _ _ _
      · rw [hx e₁ rfl, if_pos rfl, hrest.store]
        exact hself hio

/-- **Eviction.** Whatever the application does in between, the bytes that leave the
page table are the ones that write protection froze, and they are in the slot
unless the page was clean and had a reserve. -/
theorem Mem.evict_spec (m : Mem α) (va off : ℕ) (need_wp has_reserve : Bool) :
    EvictMem m (m.evict va off need_wp has_reserve) va off has_reserve := by
  have hfreeze : Frozen m (m.freeze va) va (m.app_turn.pte va) :=
    (Frozen.protect m va).app (Mem.app_turn_appStep _)
  have hagain : Frozen m (if need_wp then (m.freeze va).app_turn.protect va true else m.freeze va)
      va (m.app_turn.pte va) := by
    cases need_wp
    · exact hfreeze
    · exact (hfreeze.app (Mem.app_turn_appStep _)).reprotect
  have hbits : ∀ e, m.app_turn.pte va = some e → ((m.freeze va).bits va).2 = e.dirty :=
    fun e he => (he ▸ hfreeze).bits
  unfold Mem.evict Mem.migrate_down
  rcases hwb : (((m.freeze va).bits va).2 || !has_reserve) with _ | _
  · refine hagain.evict_clean off has_reserve fun e he => ?_
    rw [← hbits e he]
    exact hwb
  · refine (hagain.write_back off).evict_write has_reserve fun e he => ?_
    rw [← hbits e he]
    exact hwb

/-! ## One mapping -/

namespace Mem

/-- `UFFDIO_COPY` at `va` fails: the environment says so, or the page is mapped. -/
def copy_refused (m : Mem α) (va : ℕ) : Prop :=
  m.app_turn.env.copy_fails.headD false = true ∨ (m.app_turn.pte va).isSome = true

instance (m : Mem α) (va : ℕ) : Decidable (m.copy_refused va) :=
  inferInstanceAs (Decidable (_ ∨ _))

/-- The memory after a failed copy. -/
def copy_failed (m : Mem α) : Mem α :=
  { m.app_turn with
    env := { m.app_turn.env with copy_fails := m.app_turn.env.copy_fails.tail } }

/-- The memory after a copy of `d`. -/
def copied (m : Mem α) (va : ℕ) (d : α) : Mem α := m.copy_failed.setPte va (some { data := d })

/-- The buffer after a read of the slot at `off`, failed or not. -/
def disk_read (m : Mem α) (off : ℕ) (dest : α) : α :=
  if m.env.io_fails.headD false then dest else (m.store off).getD dest

/-- The memory after a read, which only uses up one outcome. -/
def io_done (m : Mem α) : Mem α :=
  { m with env := { m.env with io_fails := m.env.io_fails.tail } }

/-- A read into the buffer does not decide whether the copy is refused. -/
theorem copy_refused_read (m : Mem α) (b : α) (va : ℕ) :
    { m.io_done with buffer_space := b }.copy_refused va ↔ m.copy_refused va := by
  have hpte : { m.io_done with buffer_space := b }.app_turn.pte = m.app_turn.pte :=
    app_turn_pte_congr rfl rfl
  have hfails := ({ m.io_done with buffer_space := b }.app_turn_appStep).rest.copy_fails
  rw [copy_refused, copy_refused, hpte, hfails, m.app_turn_appStep.rest.copy_fails]
  rfl

end Mem

theorem run_uffdio_copy (va : ℕ) (d : α) :
    (uffdio_copy va d).run s =
      if s.mem.copy_refused va then .ok (-1, { s with mem := s.mem.copy_failed })
      else .ok (0, { s with mem := s.mem.copied va d }) := by
  simp only [uffdio_copy, run_bind, run_app_turn, run_get_mem, run_modify_mem, ok_bind]
  by_cases h : s.mem.copy_refused va
  · rw [if_pos h]
    rw [if_pos (by simpa [Mem.copy_refused] using h)]
    rfl
  · rw [if_neg h]
    rw [if_neg (by simpa [Mem.copy_refused] using h)]
    rfl

theorem run_extmem_disk_read (src : ℕ) (dest : α) :
    (extmem_disk_read src dest).run s
      = .ok (s.mem.disk_read src dest, { s with mem := s.mem.io_done }) := by
  simp only [extmem_disk_read, io_outcome, run_bind, run_get_mem, run_modify_mem, ok_bind,
    run_pure, Mem.disk_read, Mem.io_done]
  cases s.mem.env.io_fails.headD false <;> rfl

theorem Mem.copy_failed_appStep (m : Mem α) (va : ℕ) : EntryStep (m.pte va) (m.copy_failed.pte va) :=
  m.app_turn_appStep.entry va

/-- What mapping `d` at `va` did to the contents. -/
structure MappedIn (m m' : Mem α) (va : ℕ) (d : α) : Prop where
  others : ∀ a, a ≠ va → EntryStep (m.pte a) (m'.pte a)
  entry : m'.pte va = some { data := d }
  store : m'.store = m.store
  discarded : m'.discarded = m.discarded
  io_fails : m.env.io_fails = [] → m'.env.io_fails = []

theorem Mem.copied_spec (m : Mem α) (va : ℕ) (d : α) : MappedIn m (m.copied va d) va d := by
  have happ := m.app_turn_appStep
  refine ⟨fun a ha => ?_, Mem.setPte_self _ va _, happ.rest.store, happ.rest.discarded,
    fun h => happ.rest.io_fails.trans h⟩
  unfold Mem.copied
  rw [Mem.setPte_ne _ ha]
  exact m.copy_failed_appStep a

theorem Mem.copied_page_cache (m : Mem α) (va : ℕ) (d : α) :
    (m.copied va d).page_cache = m.page_cache :=
  m.app_turn_appStep.rest.page_cache

/-- A copy that was not refused found the page unmapped. -/
theorem Mem.unmapped_of_not_refused {m : Mem α} {va : ℕ} (h : ¬ m.copy_refused va) :
    m.pte va = none := by
  rcases he : m.pte va with _ | e
  · rfl
  · obtain ⟨e', he', _⟩ := (m.app_turn_appStep.entry va).2 e he
    exact absurd (Or.inr (by rw [he']; rfl)) h

end SwapPrefetch
