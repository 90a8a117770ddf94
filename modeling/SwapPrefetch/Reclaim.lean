/-
Reclaim: the two scans, and the search for a free frame.

`DataOk` is the joint invariant of the policy and the contents. A clean resident page
with a reserve has its bytes in the reserve's slot, and the slot of an evicted page
holds the bytes it had when its mapping was dropped. It is what makes skipping a
write sound, and it is about the structs' links as much as about the store.

`Step s s'` is everything a routine that reclaims can have done from the view of its
caller: structs the caller holds, and pages that were evicted before, are untouched,
and `DataOk` is kept. It is reflexive and transitive, so the loops of the source need
only the step of one iteration.
-/
import Mathlib.Tactic
import SwapPrefetch.Eviction

set_option autoImplicit false

namespace SwapPrefetch

open Prog

variable {α : Type}

/-! ## Structs and contents together -/

/-- The bytes of every page are where its struct says. -/
structure DataOk (s : State α) : Prop where
  io : s.mem.env.io_fails = []
  resident : ∀ i, i < s.pol.npages → (s.pol.page i).role = .resident →
    ∃ e, s.mem.pte (s.pol.page i).va = some e ∧
      ∀ r, (s.pol.page i).reserve = some r → e.dirty = false →
        s.mem.store (s.pol.page r).virtual_offset = some e.data
  evicted : ∀ i, i < s.pol.npages → (s.pol.page i).role = .evicted →
    s.mem.pte (s.pol.page i).va = none ∧
      ∃ c, s.mem.store (s.pol.page i).virtual_offset = some c ∧
        s.mem.discarded (s.pol.page i).va = some c

/-- The application ran, and structs only changed their lists. -/
theorem DataOk.app {s t : State α} (h : DataOk s) (hn : t.pol.npages = s.pol.npages)
    (hp : ∀ i, (t.pol.page i).role = (s.pol.page i).role ∧
      (t.pol.page i).va = (s.pol.page i).va ∧
      (t.pol.page i).reserve = (s.pol.page i).reserve ∧
      (t.pol.page i).virtual_offset = (s.pol.page i).virtual_offset)
    (hm : AppStep s.mem t.mem) : DataOk t := by
  constructor
  · rw [hm.rest.io_fails]
    exact h.io
  · intro i hi hr
    rw [hn] at hi
    rw [(hp i).1] at hr
    obtain ⟨e, he, hback⟩ := h.resident i hi hr
    obtain ⟨e', he', ht⟩ := (hm.entry _).2 e he
    refine ⟨e', by rw [(hp i).2.1]; exact he', fun r hres hclean => ?_⟩
    rw [(hp i).2.2.1] at hres
    obtain ⟨hdata, hdirty⟩ := ht.clean hclean
    rw [(hp r).2.2.2, hm.rest.store, hdata]
    exact hback r hres hdirty
  · intro i hi hr
    rw [hn] at hi
    rw [(hp i).1] at hr
    obtain ⟨hnone, c, hc, hdis⟩ := h.evicted i hi hr
    rw [(hp i).2.1, (hp i).2.2.2, hm.rest.store, hm.rest.discarded]
    exact ⟨(hm.entry _).1 hnone, c, hc, hdis⟩

/-- **An eviction keeps the contents.** The page's own bytes are in its slot, written
now if the page was dirty or had no slot, and by the earlier write if not; every other
page keeps its slot, because no two structs own the same one. -/
theorem DataOk.evict {s s' : State α} {v d : PageId} {l : Option ListId} (h : Inv s.pol)
    (hdata : DataOk s) (hv : v < s.pol.npages) (hr : (s.pol.page v).role = .resident)
    (e : Evicted s s' v d l) : DataOk s' := by
  obtain ⟨hdin, hdva, hdres⟩ := e.slot.disk h hv e.lt hr
  obtain ⟨hvin, hvva⟩ := UserPage.role_resident.1 hr
  have hrv : (s'.pol.page v).role = .evicted :=
    UserPage.role_evicted.2 (by rw [e.pol.page_v]; exact ⟨rfl, hvva⟩)
  have hrd : (s'.pol.page d).role = .frame :=
    UserPage.role_frame.2 (by rw [e.pol.page_d]; exact ⟨rfl, hdva⟩)
  have hn := e.pol.fixed.npages
  constructor
  · exact e.mem.io_fails hdata.io
  · intro i hi hri
    rw [hn] at hi
    have hiv : i ≠ v := fun hiv => by rw [hiv, hrv] at hri; cases hri
    have hid : i ≠ d := fun hid => by rw [hid, hrd] at hri; cases hri
    rw [e.pol.page_ne i hiv hid] at hri ⊢
    obtain ⟨x, hx, hback⟩ := hdata.resident i hi hri
    have hva : (s.pol.page i).va ≠ (s.pol.page v).va := fun heq =>
      hiv (h.va_inj i v hi hv heq (heq ▸ hvva))
    obtain ⟨x', hx', ht⟩ := (e.mem.others _ hva).2 x hx
    refine ⟨x', hx', fun r hres hclean => ?_⟩
    -- the reserve of another page is another slot
    have hslot := h.reserveOf_resident hi hri hres
    have hrv' : r ≠ v := (hslot.ne_of_role (by rw [hr]; decide)).symm
    have hrd' : r ≠ d := by
      rintro rfl
      rcases hdres with hd | hd
      · exact hiv (Option.some.inj (hslot.back.symm.trans hd))
      · rw [hslot.back] at hd
        cases hd
    have hoff : (s.pol.page r).virtual_offset ≠ (s.pol.page d).virtual_offset := fun heq =>
      hrd' (h.disk_offset_inj hslot.lt e.lt hslot.in_dram hdin heq)
    rw [e.pol.page_ne r hrv' hrd', e.mem.store_ne _ hoff, (ht.clean hclean).1]
    exact hback r hres (ht.clean hclean).2
  · intro i hi hri
    rw [hn] at hi
    have hid : i ≠ d := fun hid => by rw [hid, hrd] at hri; cases hri
    by_cases hiv : i = v
    · -- the victim itself
      obtain ⟨x, hx, hback⟩ := hdata.resident v hv hr
      obtain ⟨x₁, ht, hdis, hstore⟩ := e.mem.entry x hx
      rw [hiv, e.pol.page_v]
      refine ⟨e.mem.unmapped, x₁.data, ?_, hdis⟩
      change s'.mem.store (s.pol.page d).virtual_offset = some x₁.data
      rw [hstore hdata.io]
      rcases hwb : (x₁.dirty || !(s.pol.page v).has_reserve) with _ | _
      · obtain ⟨hclean, hflag⟩ := Bool.or_eq_false_iff.1 hwb
        have hres : (s.pol.page v).reserve = some d := by
          rcases e.slot with hres | ⟨hres, _⟩
          · exact hres
          · rw [h.has_reserve_eq_false hv hres] at hflag
            cases hflag
        rw [(ht.clean hclean).1]
        exact hback d hres (ht.clean hclean).2
      · rfl
    · rw [e.pol.page_ne i hiv hid] at hri ⊢
      obtain ⟨hnone, c, hc, hdis⟩ := hdata.evicted i hi hri
      obtain ⟨hiin, hiva⟩ := UserPage.role_evicted.1 hri
      have hva : (s.pol.page i).va ≠ (s.pol.page v).va := fun heq =>
        hiv (h.va_inj i v hi hv heq hiva)
      have hoff : (s.pol.page i).virtual_offset ≠ (s.pol.page d).virtual_offset := fun heq =>
        hid (h.disk_offset_inj hi e.lt hiin hdin heq)
      rw [e.mem.store_ne _ hoff, e.mem.discarded_ne _ hva]
      exact ⟨(e.mem.others _ hva).1 hnone, c, hc, hdis⟩

/-! ## What a caller sees of a reclaim -/

/-- The effect of a reclaiming routine on what its caller knows. -/
structure Step (s s' : State α) : Prop where
  fixed : Fixed s.pol s'.pol
  va : ∀ i, (s'.pol.page i).va = (s.pol.page i).va
  held : ∀ i, (s.pol.page i).list = none → s'.pol.page i = s.pol.page i
  evicted : ∀ i, (s.pol.page i).list = some .disk_active_list → s'.pol.page i = s.pol.page i
  migrating : ∀ i, (s'.pol.page i).migrating = true → (s.pol.page i).migrating = true
  page_cache : s'.mem.page_cache = s.mem.page_cache
  buffer_space : s'.mem.buffer_space = s.mem.buffer_space
  prefetch_buffer : s'.mem.prefetch_buffer = s.mem.prefetch_buffer
  copy_fails : s'.mem.env.copy_fails = s.mem.env.copy_fails
  unmapped : ∀ va, s.mem.pte va = none →
    s'.mem.pte va = none ∧ s'.mem.discarded va = s.mem.discarded va
  store : ∀ i, i < s.pol.npages → (s.pol.page i).role = .evicted →
    (s.pol.page i).list = none ∨ (s.pol.page i).list = some .disk_active_list →
    s'.mem.store (s.pol.page i).virtual_offset = s.mem.store (s.pol.page i).virtual_offset
  data : DataOk s → DataOk s'

theorem Step.refl (s : State α) : Step s s :=
  ⟨Fixed.refl _, fun _ => rfl, fun _ _ => rfl, fun _ _ => rfl, fun _ h => h, rfl, rfl, rfl, rfl,
    fun _ h => ⟨h, rfl⟩, fun _ _ _ _ => rfl, id⟩

theorem Step.trans {s s' s'' : State α} (h : Step s s') (h' : Step s' s'') : Step s s'' := by
  constructor
  · exact h.fixed.trans h'.fixed
  · exact fun i => (h'.va i).trans (h.va i)
  · intro i hi
    have hi' := h.held i hi
    rw [h'.held i (by rw [hi']; exact hi), hi']
  · intro i hi
    have hi' := h.evicted i hi
    rw [h'.evicted i (by rw [hi']; exact hi), hi']
  · exact fun i hi => h.migrating i (h'.migrating i hi)
  · exact h'.page_cache.trans h.page_cache
  · exact h'.buffer_space.trans h.buffer_space
  · exact h'.prefetch_buffer.trans h.prefetch_buffer
  · exact h'.copy_fails.trans h.copy_fails
  · intro va hva
    obtain ⟨hp, hd⟩ := h.unmapped va hva
    obtain ⟨hp', hd'⟩ := h'.unmapped va hp
    exact ⟨hp', hd'.trans hd⟩
  · intro i hi hr hl
    have hi' : s'.pol.page i = s.pol.page i := hl.elim (h.held i) (h.evicted i)
    have h₂ := h'.store i (by rw [h.fixed.npages]; exact hi)
    rw [hi'] at h₂
    rw [h₂ hr hl, h.store i hi hr hl]
  · exact fun hd => h'.data (h.data hd)

/-- A scan: the invariant holds, and no struct was taken off the lists. -/
structure Reclaimed (s s' : State α) : Prop where
  inv : Inv s'.pol
  step : Step s s'
  kept : ∀ i, (s'.pol.page i).list = none → (s.pol.page i).list = none

theorem Reclaimed.refl {s : State α} (h : Inv s.pol) : Reclaimed s s :=
  ⟨h, Step.refl s, fun _ hi => hi⟩

theorem Reclaimed.trans {s s' s'' : State α} (h : Reclaimed s s') (h' : Reclaimed s' s'') :
    Reclaimed s s'' :=
  ⟨h'.inv, h.step.trans h'.step, fun i hi => h.kept i (h'.kept i hi)⟩

/-- A scan leaves a roomy policy roomy: a slot that is on no list was on none before. -/
theorem Reclaimed.roomy {s s' : State α} (h : Reclaimed s s') (hroomy : Roomy s.pol) :
    Roomy s'.pol := by
  refine hroomy.of_kept h.step.fixed.npages h.step.fixed.disksize h.step.va
    fun i _ hslot hnone => ?_
  have hbefore := h.kept i hnone
  rw [h.step.held i hbefore] at hslot
  exact ⟨hslot, hbefore⟩

/-- The flag that stops two scans from running at once is not part of the invariant. -/
theorem Reclaimed.shrinkage_running {s : State α} (h : Inv s.pol) (b : Bool) :
    Reclaimed s { s with pol := { s.pol with shrinkage_running := b } } := by
  have hinv : Inv { s.pol with shrinkage_running := b } :=
    ⟨h.linked, h.bounded, fun i hi => (h.struct i hi).congr rfl rfl fun _ _ => ⟨rfl, rfl⟩,
      h.place, h.va_inj⟩
  refine ⟨hinv, ?_, fun _ hi => hi⟩
  exact ⟨⟨rfl, rfl, rfl, rfl⟩, fun _ => rfl, fun _ _ => rfl, fun _ _ => rfl, fun _ hi => hi, rfl,
    rfl, rfl, rfl, fun _ hva => ⟨hva, rfl⟩, fun _ _ _ _ => rfl,
    fun hd => hd.app rfl (fun _ => ⟨rfl, rfl, rfl, rfl⟩) (AppStep.refl _)⟩

/-- One iteration of a scan moves a resident page from one list to another, while the
application runs. -/
theorem Reclaimed.requeue {s : State α} (h : Inv s.pol) {i : PageId} {q r : ListId}
    {f : UserPage → UserPage} {n : ℕ} {m' : Mem α} (hl : (s.pol.page i).list = some q)
    (hq : q.role = some .resident) (hq' : r.role = some .resident)
    (hf : f { s.pol.page i with list := none } =
      { s.pol.page i with list := none, naccesses := n }) (hm : AppStep s.mem m') :
    Reclaimed s ⟨((s.pol.unlink q i).upd i f).enq r i, m'⟩ := by
  have hr := h.role_of_list hl hq
  have hi := h.lt_of_list hl
  have hpage : (((s.pol.unlink q i).upd i f).enq r i).page i
      = { s.pol.page i with list := some r, naccesses := n } := by
    rw [Policy.enq_page_self, Policy.upd_page_self, Policy.unlink_page_self, hf]
  have hsame : ∀ j, j ≠ i → (((s.pol.unlink q i).upd i f).enq r i).page j = s.pol.page j := by
    intro j hj
    rw [Policy.enq_page_ne _ _ hj, Policy.upd_page_ne _ _ hj, Policy.unlink_page_ne _ _ hj]
  have hlinked : (((s.pol.unlink q i).upd i f).enq r i).WellLinked := by
    refine Policy.WellLinked.enq (Policy.WellLinked.upd (h.linked.unlink hl) ?_) ?_
    · rw [Policy.unlink_page_self, hf]
    · rw [Policy.upd_page_self, Policy.unlink_page_self, hf]
  constructor
  · refine h.of_one hi (by simp) (by simp) (by simp) hlinked hsame
      (l := some r) (m := (s.pol.page i).migrating) (n := n) hpage ?_ ?_
    · intro p hp
      rw [← Option.some.inj hp, hr]
      exact hq'
    · intro hb
      rw [hr] at hb
      cases hb
  · have hfix : Fixed s.pol (((s.pol.unlink q i).upd i f).enq r i) :=
      ⟨by simp, by simp, by simp, by simp⟩
    refine ⟨hfix, fun j => ?_, fun j hj => hsame j ?_, fun j hj => hsame j ?_, fun j hj => ?_,
      hm.rest.page_cache, hm.rest.buffer_space, hm.rest.prefetch_buffer, hm.rest.copy_fails,
      fun va hva => ⟨(hm.entry va).1 hva, congrFun hm.rest.discarded va⟩,
      fun _ _ _ _ => congrFun hm.rest.store _, fun hd => hd.app hfix.npages (fun j => ?_) hm⟩
    · rcases eq_or_ne j i with rfl | hj
      · rw [hpage]
      · rw [hsame j hj]
    · rintro rfl
      rw [hl] at hj
      cases hj
    · rintro rfl
      rw [hl] at hj
      -- an evicted page is on no list of resident ones
      cases hj
      cases hq
    · rcases eq_or_ne j i with rfl | hji
      · rw [hpage] at hj
        exact hj
      · rw [hsame j hji] at hj
        exact hj
    · rcases eq_or_ne j i with rfl | hj
      · rw [hpage]
        exact ⟨rfl, rfl, rfl, rfl⟩
      · rw [hsame j hj]
        exact ⟨rfl, rfl, rfl, rfl⟩
  · intro j hj
    rcases eq_or_ne j i with rfl | hji
    · rw [hpage] at hj
      cases hj
    · rw [hsame j hji] at hj
      exact hj

/-! ## The scans -/

theorem Mem.clear_accessed_appStep (m : Mem α) (va : ℕ) : AppStep m (m.clear_accessed va) := by
  unfold Mem.clear_accessed
  rcases he : m.pte va with _ | e
  · exact AppStep.refl m
  · exact Mem.setPte_appStep he ⟨rfl, fun _ => ⟨rfl, rfl⟩, fun h => ⟨rfl, h⟩⟩

theorem shrink_active_loop_ends (nr_pages left ret : ℕ) (s : State α) (h : Inv s.pol) :
    Ends ((shrink_active_loop nr_pages left ret).run s) (fun _ s' => Reclaimed s s') Calm := by
  induction left generalizing ret s with
  | zero => exact Reclaimed.refl h
  | succ left ih =>
      rw [shrink_active_loop, run_bind_ok (run_numentries s _)]
      split
      case isFalse => exact Reclaimed.refl h
      case isTrue hc =>
        rcases hq : s.pol.lists .active_list with _ | ⟨i, rest⟩
        · simp [hq] at hc
        · have hl : (s.pol.page i).list = some .active_list := h.list_of_mem (by simp [hq])
          have hstep := Reclaimed.requeue h hl rfl (r := .inactive_list)
            (f := fun p => { p with naccesses := 0 }) (n := 0) rfl rfl (AppStep.refl _)
          rw [run_bind_ok (run_dequeue_fifo_cons hq), run_bind_ok (run_set_page _ _ _),
            run_bind_ok (run_enqueue_fifo (by simp))]
          exact (ih (ret + 1) _ hstep.inv).mono (fun _ _ hs' => hstep.trans hs') fun _ he => he

section

variable {s : State α} {i : PageId} (hal : (s.pol.page i).va % PAGE_SIZE = 0)
include hal

/-- A page that was not accessed goes to the eviction list. -/
theorem run_shrink_inactive_page_cold
    (hcold : (s.mem.app_turn.bits (s.pol.page i).va).1 = false) :
    (shrink_inactive_page i).run { s with pol := s.pol.unlink .inactive_list i } =
      .ok (true, ⟨((s.pol.unlink .inactive_list i).upd i fun p => { p with naccesses := 0 }).enq
        .eviction_list i, s.mem.app_turn⟩) := by
  have hbits := run_pt_get_bits { s with pol := s.pol.unlink .inactive_list i } i
    (by simpa using hal)
  have hrun := run_enqueue_fifo (q := .eviction_list) (i := i)
    (s := ⟨(s.pol.unlink .inactive_list i).upd i fun p => { p with naccesses := 0 },
      s.mem.app_turn⟩) (by simp)
  simp [shrink_inactive_page, hbits, hcold, hrun]

/-- A page that was accessed, but not often enough, goes back to the inactive list. -/
theorem run_shrink_inactive_page_warm
    (hbit : (s.mem.app_turn.bits (s.pol.page i).va).1 = true)
    (hwarm : ¬ 1 < ((s.pol.page i).naccesses + 1) % 2 ^ 64) :
    (shrink_inactive_page i).run { s with pol := s.pol.unlink .inactive_list i } =
      .ok (false, ⟨((s.pol.unlink .inactive_list i).upd i fun p =>
          { p with naccesses := (p.naccesses + 1) % 2 ^ 64 }).enq .inactive_list i,
        s.mem.app_turn.app_turn.clear_accessed (s.pol.page i).va⟩) := by
  have hbits := run_pt_get_bits { s with pol := s.pol.unlink .inactive_list i } i
    (by simpa using hal)
  have hclear := run_pt_clear_accessed_flag (i := i)
    ⟨(s.pol.unlink .inactive_list i).upd i fun p =>
        { p with naccesses := (p.naccesses + 1) % 2 ^ 64 }, s.mem.app_turn⟩ (by simpa using hal)
  have hrun := run_enqueue_fifo (q := .inactive_list) (i := i)
    (s := ⟨(s.pol.unlink .inactive_list i).upd i fun p =>
        { p with naccesses := (p.naccesses + 1) % 2 ^ 64 },
      s.mem.app_turn.app_turn.clear_accessed (s.pol.page i).va⟩) (by simp)
  simp [shrink_inactive_page, hbits, hbit, hclear, hwarm, hrun, -Nat.reducePow]

/-- A page that was accessed again goes to the active list. -/
theorem run_shrink_inactive_page_hot
    (hbit : (s.mem.app_turn.bits (s.pol.page i).va).1 = true)
    (hhot : 1 < ((s.pol.page i).naccesses + 1) % 2 ^ 64) :
    (shrink_inactive_page i).run { s with pol := s.pol.unlink .inactive_list i } =
      .ok (false, ⟨((s.pol.unlink .inactive_list i).upd i fun p => { p with naccesses := 0 }).enq
          .active_list i,
        s.mem.app_turn.app_turn.clear_accessed (s.pol.page i).va⟩) := by
  have hbits := run_pt_get_bits { s with pol := s.pol.unlink .inactive_list i } i
    (by simpa using hal)
  have hclear := run_pt_clear_accessed_flag (i := i)
    ⟨(s.pol.unlink .inactive_list i).upd i fun p =>
        { p with naccesses := (p.naccesses + 1) % 2 ^ 64 }, s.mem.app_turn⟩ (by simpa using hal)
  have hrun := run_enqueue_fifo (q := .active_list) (i := i)
    (s := ⟨(s.pol.unlink .inactive_list i).upd i fun p => { p with naccesses := 0 },
      s.mem.app_turn.app_turn.clear_accessed (s.pol.page i).va⟩) (by simp)
  simp [shrink_inactive_page, hbits, hbit, hclear, hhot, Policy.upd_upd, hrun, -Nat.reducePow]

end

/-- One page of the inactive scan goes to the active list, back to the inactive list,
or to the eviction list. -/
theorem shrink_inactive_page_ends {s : State α} (h : Inv s.pol) {i : PageId}
    (hl : (s.pol.page i).list = some .inactive_list) :
    Ends ((shrink_inactive_page i).run { s with pol := s.pol.unlink .inactive_list i })
      (fun _ s' => Reclaimed s s') Calm := by
  have hal := (h.struct i (h.lt_of_list hl)).aligned
  have happ := s.mem.app_turn_appStep
  have happ' := happ.trans ((Mem.app_turn_appStep _).trans
    (Mem.clear_accessed_appStep s.mem.app_turn.app_turn (s.pol.page i).va))
  cases hb : (s.mem.app_turn.bits (s.pol.page i).va).1
  case false =>
    exact Ends.of_eq (run_shrink_inactive_page_cold hal hb)
      (Reclaimed.requeue h hl rfl (r := .eviction_list) (n := 0) rfl rfl happ)
  case true =>
    by_cases hhot : 1 < ((s.pol.page i).naccesses + 1) % 2 ^ 64
    · exact Ends.of_eq (run_shrink_inactive_page_hot hal hb hhot)
        (Reclaimed.requeue h hl rfl (r := .active_list) (n := 0) rfl rfl happ')
    · exact Ends.of_eq (run_shrink_inactive_page_warm hal hb hhot)
        (Reclaimed.requeue h hl rfl (r := .inactive_list)
          (n := ((s.pol.page i).naccesses + 1) % 2 ^ 64)
          rfl rfl happ')

/-- One look of the scan. -/
theorem run_shrink_inactive_loop_cons {nr_pages left ret : ℕ} {s s' : State α} {i : PageId}
    {rest : List PageId} {cold : Bool} (hret : ret < nr_pages)
    (hq : s.pol.lists .inactive_list = i :: rest)
    (hpage : (shrink_inactive_page i).run { s with pol := s.pol.unlink .inactive_list i } =
      .ok (cold, s')) :
    (shrink_inactive_loop nr_pages (left + 1) ret).run s =
      (shrink_inactive_loop nr_pages left (if cold then ret + 1 else ret)).run s' := by
  rw [shrink_inactive_loop, run_bind_ok (run_numentries s _), if_pos ⟨hret, by simp [hq]⟩,
    run_bind_ok (run_dequeue_fifo_cons hq)]
  exact run_bind_ok hpage

theorem run_shrink_inactive_loop_nil {nr_pages left ret : ℕ} {s : State α}
    (hq : s.pol.lists .inactive_list = []) :
    (shrink_inactive_loop nr_pages left ret).run s = .ok (ret, s) := by
  cases left with
  | zero => rfl
  | succ left =>
      rw [shrink_inactive_loop, run_bind_ok (run_numentries s _), if_neg (by simp [hq])]
      rfl

theorem shrink_inactive_loop_ends (nr_pages left ret : ℕ) (s : State α) (h : Inv s.pol) :
    Ends ((shrink_inactive_loop nr_pages left ret).run s) (fun _ s' => Reclaimed s s')
      Calm := by
  induction left generalizing ret s with
  | zero => exact Reclaimed.refl h
  | succ left ih =>
      rw [shrink_inactive_loop, run_bind_ok (run_numentries s _)]
      split
      case isFalse => exact Reclaimed.refl h
      case isTrue hc =>
        rcases hq : s.pol.lists .inactive_list with _ | ⟨i, rest⟩
        · simp [hq] at hc
        · have hl : (s.pol.page i).list = some .inactive_list := h.list_of_mem (by simp [hq])
          rw [run_bind_ok (run_dequeue_fifo_cons hq)]
          refine Ends.bind (shrink_inactive_page_ends h hl) fun cold s' hs' => ?_
          exact (ih _ s' hs'.inv).mono (fun _ _ hs'' => hs'.trans hs'') fun _ he => he

theorem shrink_active_list_ends (nr_pages : ℕ) (s : State α) (h : Inv s.pol) :
    Ends ((shrink_active_list nr_pages).run s) (fun _ s' => Reclaimed s s') Calm := by
  rw [shrink_active_list]
  split
  · exact Reclaimed.refl h
  · have hset := Reclaimed.shrinkage_running h true
    rw [run_bind_ok (run_modify_pol _ _), run_bind_ok (run_numentries _ _)]
    refine Ends.bind (shrink_active_loop_ends _ _ _ _ hset.inv) fun ret s' hs' => ?_
    rw [run_bind_ok (run_modify_pol _ _)]
    exact (hset.trans hs').trans (Reclaimed.shrinkage_running hs'.inv false)

theorem shrink_inactive_list_ends (nr_pages : ℕ) (s : State α) (h : Inv s.pol) :
    Ends ((shrink_inactive_list nr_pages).run s) (fun _ s' => Reclaimed s s') Calm := by
  have hset := Reclaimed.shrinkage_running h true
  rw [shrink_inactive_list, run_bind_ok (run_numentries _ _), run_bind_ok (run_modify_pol _ _)]
  refine Ends.bind (shrink_inactive_loop_ends _ _ _ _ hset.inv) fun ret s' hs' => ?_
  rw [run_bind_ok (run_modify_pol _ _)]
  exact (hset.trans hs').trans (Reclaimed.shrinkage_running hs'.inv false)

theorem direct_allocate_loop_ends (nr_pages to_active to_inactive rounds a b r : ℕ) (s : State α)
    (h : Inv s.pol) :
    Ends ((direct_allocate_loop nr_pages to_active to_inactive rounds a b r).run s)
      (fun _ s' => Reclaimed s s') Calm := by
  induction rounds generalizing a b r s with
  | zero => exact Reclaimed.refl h
  | succ rounds ih =>
      rw [direct_allocate_loop]
      split
      case isFalse => exact Reclaimed.refl h
      case isTrue =>
        refine Ends.bind (shrink_inactive_list_ends _ s h) fun ret s' hs' => ?_
        split
        · refine Ends.bind (shrink_active_list_ends _ s' hs'.inv) fun _ s'' hs'' => ?_
          exact (ih _ _ _ s'' hs''.inv).mono (fun _ _ h3 => (hs'.trans hs'').trans h3)
            fun _ he => he
        · exact (ih _ _ _ s' hs'.inv).mono (fun _ _ h3 => hs'.trans h3) fun _ he => he

theorem direct_allocate_page_asynch_ends (nr_pages priority : ℕ) (s : State α) (h : Inv s.pol) :
    Ends ((direct_allocate_page_asynch nr_pages priority).run s) (fun _ s' => Reclaimed s s')
      Calm := by
  rw [direct_allocate_page_asynch, run_bind_ok (run_numentries _ _),
    run_bind_ok (run_numentries _ _)]
  exact direct_allocate_loop_ends _ _ _ _ _ _ _ s h

/-! ## Evictions, for the caller -/

/-- Taking a struct off a list, for its caller: nothing else moved. -/
theorem Step.unlink {s : State α} {i : PageId} {q : ListId}
    (hl : (s.pol.page i).list = some q) (hq : q ≠ .disk_active_list) :
    Step s { s with pol := s.pol.unlink q i } := by
  have hsame : ∀ j, j ≠ i → (s.pol.unlink q i).page j = s.pol.page j :=
    fun j hj => Policy.unlink_page_ne _ _ hj
  refine ⟨⟨by simp, by simp, by simp, by simp⟩, fun j => ?_, fun j hj => hsame j ?_,
    fun j hj => hsame j ?_, fun j hj => ?_, rfl, rfl, rfl, rfl, fun _ hva => ⟨hva, rfl⟩,
    fun _ _ _ _ => rfl, fun hd => hd.app (by simp) (fun j => ?_) (AppStep.refl _)⟩
  · rcases eq_or_ne j i with rfl | hj
    · simp
    · rw [hsame j hj]
  · rintro rfl
    rw [hl] at hj
    cases hj
  · rintro rfl
    rw [hl] at hj
    exact hq (Option.some.inj hj)
  · rcases eq_or_ne j i with rfl | hji
    · simpa using hj
    · rw [hsame j hji] at hj
      exact hj
  · rcases eq_or_ne j i with rfl | hj
    · rw [Policy.unlink_page_self]
      exact ⟨rfl, rfl, rfl, rfl⟩
    · rw [hsame j hj]
      exact ⟨rfl, rfl, rfl, rfl⟩

/-- The structs after the eviction of `v`, which its caller took off `eviction_list`, to the slot
`d`: the two have exchanged their places, and `d` is on the list `l`. -/
structure SwappedOut (P P' : Policy) (v d : PageId) (l : Option ListId) : Prop where
  in_dram : (P.page d).in_dram = false
  slot_va : (P.page d).va = 0
  victim : (P.page v).list = some .eviction_list
  slot : (P.page d).list = some .disk_reserve_list ∨ (P.page d).list = some .disk_free_list
  page_v : P'.page v =
    { P.page v with
      virtual_offset := (P.page d).virtual_offset, in_dram := false, swapped_out := true
      migrating := false, has_reserve := false, reserve := none, list := some .disk_active_list }
  page_d : P'.page d =
    { P.page d with
      virtual_offset := (P.page v).virtual_offset, in_dram := true, present := false
      has_reserve := false, reserve := none, list := l }
  page_ne : ∀ i, i ≠ v → i ≠ d → P'.page i = P.page i

theorem Evicted.swappedOut {s s' : State α} {v d : PageId} {l : Option ListId} (h : Inv s.pol)
    (hl : (s.pol.page v).list = some .eviction_list)
    (e : Evicted { s with pol := s.pol.unlink .eviction_list v } s' v d l) :
    SwappedOut s.pol s'.pol v d l := by
  have hr := h.role_of_list hl rfl
  have hr₁ : ((s.pol.unlink .eviction_list v).page v).role = .resident := by
    rw [Policy.unlink_page_self]
    exact hr
  obtain ⟨hdin, hdva, _⟩ := e.slot.disk (h.unlink hl (by rw [hr]; decide)) (h.lt_of_list hl) e.lt hr₁
  have hvd : d ≠ v := by
    rintro rfl
    rw [Policy.unlink_page_self] at hdin
    rw [(UserPage.role_resident.1 hr).1] at hdin
    cases hdin
  have hpd : (s.pol.unlink .eviction_list v).page d = s.pol.page d := Policy.unlink_page_ne _ _ hvd
  have hslot := e.listed
  have hpv' := e.pol.page_v
  have hpd' := e.pol.page_d
  rw [hpd] at hdin hdva hslot hpd'
  rw [hpd, Policy.unlink_page_self] at hpv'
  rw [Policy.unlink_page_self] at hpd'
  exact ⟨hdin, hdva, hl, hslot, hpv', hpd', fun i hiv hid =>
    (e.pol.page_ne i hiv hid).trans (Policy.unlink_page_ne _ _ hiv)⟩

section SwappedOut

variable {P P' : Policy} {v d i : PageId} {l : Option ListId}

theorem SwappedOut.va (e : SwappedOut P P' v d l) (i : PageId) :
    (P'.page i).va = (P.page i).va := by
  by_cases hiv : i = v
  · rw [hiv, e.page_v]
  · by_cases hid : i = d
    · rw [hid, e.page_d]
    · rw [e.page_ne i hiv hid]

/-- Only a page on the list of the victims or on one of the two lists of slots changes. -/
theorem SwappedOut.kept (e : SwappedOut P P' v d l) (hv : (P.page i).list ≠ some .eviction_list)
    (hres : (P.page i).list ≠ some .disk_reserve_list)
    (hfree : (P.page i).list ≠ some .disk_free_list) : P'.page i = P.page i := by
  refine e.page_ne i ?_ ?_
  · rintro rfl
    exact hv e.victim
  · rintro rfl
    exact e.slot.elim hres hfree

theorem SwappedOut.migrating (e : SwappedOut P P' v d l) (i : PageId)
    (hi : (P'.page i).migrating = true) : (P.page i).migrating = true := by
  by_cases hiv : i = v
  · rw [hiv, e.page_v] at hi
    cases hi
  · by_cases hid : i = d
    · rw [hid, e.page_d] at hi
      rw [hid]
      exact hi
    · rw [e.page_ne i hiv hid] at hi
      exact hi

/-- The eviction holds no page but the frame. -/
theorem SwappedOut.unlinked (e : SwappedOut P P' v d l) (hid : i ≠ d)
    (hi : (P'.page i).list = none) : (P.page i).list = none := by
  by_cases hiv : i = v
  · rw [hiv, e.page_v] at hi
    cases hi
  · rw [e.page_ne i hiv hid] at hi
    exact hi

theorem SwappedOut.slot_listed (e : SwappedOut P P' v d l) : (P.page d).list ≠ none := by
  rcases e.slot with hd | hd
  all_goals
    rw [hd]
    exact Option.some_ne_none _

theorem SwappedOut.frame (e : SwappedOut P P' v d l) : (P'.page d).role = .frame := by
  rw [e.page_d]
  exact UserPage.role_frame.2 ⟨rfl, e.slot_va⟩

end SwappedOut

/-- The eviction of a page that its caller took off `eviction_list`. -/
theorem Evicted.step {s s' : State α} {v d : PageId} {l : Option ListId} (h : Inv s.pol)
    (hl : (s.pol.page v).list = some .eviction_list)
    (e : Evicted { s with pol := s.pol.unlink .eviction_list v } s' v d l)
    (hd : l = none ∨ l = some .dram_free_list) :
    Inv s'.pol ∧ Step s s' ∧ (s.pol.page d).list ≠ none ∧ (s'.pol.page d).role = .frame ∧
      (s'.pol.page d).list = l ∧
      ∀ i, i ≠ d → (s'.pol.page i).list = none → (s.pol.page i).list = none := by
  have hr := h.role_of_list hl rfl
  have hv := h.lt_of_list hl
  have hout := e.swappedOut h hl
  have hun := Step.unlink hl (by decide)
  have h₁ : Inv (s.pol.unlink .eviction_list v) := h.unlink hl (by rw [hr]; decide)
  have hr₁ : ((s.pol.unlink .eviction_list v).page v).role = .resident := by
    rw [Policy.unlink_page_self]
    exact hr
  refine ⟨e.pol.inv h₁ hv e.lt hr₁ e.slot hd, ?_, hout.slot_listed, hout.frame,
    by rw [hout.page_d], fun i hid hi => hout.unlinked hid hi⟩
  constructor
  · exact hun.fixed.trans e.pol.fixed
  · exact hout.va
  · exact fun i hi => hout.kept (by rw [hi]; decide) (by rw [hi]; decide) (by rw [hi]; decide)
  · exact fun i hi => hout.kept (by rw [hi]; decide) (by rw [hi]; decide) (by rw [hi]; decide)
  · exact hout.migrating
  · exact e.mem.page_cache
  · exact e.mem.buffer_space
  · exact e.mem.prefetch_buffer
  · exact e.mem.copy_fails
  · intro va hva
    by_cases heq : va = ((s.pol.unlink .eviction_list v).page v).va
    · rw [heq] at hva ⊢
      exact ⟨e.mem.unmapped, e.mem.was_unmapped hva⟩
    · exact ⟨(e.mem.others va heq).1 hva, e.mem.discarded_ne va heq⟩
  · -- two disk structs at one offset would be the same, and the slot has no address
    intro i hi hri _
    obtain ⟨hiin, hiva⟩ := UserPage.role_evicted.1 hri
    have hpd : (s.pol.unlink .eviction_list v).page d = s.pol.page d := by
      refine Policy.unlink_page_ne _ _ ?_
      rintro rfl
      rcases hout.slot with hd | hd <;> rw [hl] at hd <;> cases hd
    refine e.mem.store_ne _ fun ho => hiva ?_
    rw [hpd] at ho
    rw [h.disk_offset_inj hi e.lt hiin hout.in_dram ho]
    exact hout.slot_va
  · exact fun hdata => (hun.data hdata).evict h₁ hv hr₁ e

/-- One iteration of the eviction worker. -/
theorem lrudisk_evictionworker_ends {s : State α} (h : Inv s.pol) :
    Ends (lrudisk_evictionworker.run s) (fun _ s' => Reclaimed s s') (Short s.pol) := by
  rcases hq : s.pol.lists .eviction_list with _ | ⟨v, rest⟩
  · rw [lrudisk_evictionworker, run_bind_ok (run_dequeue_fifo_nil hq)]
    exact Reclaimed.refl h
  · have hl : (s.pol.page v).list = some .eviction_list := h.list_of_mem (by simp [hq])
    have hr := h.role_of_list hl rfl
    rw [lrudisk_evictionworker, run_bind_ok (run_dequeue_fifo_cons hq)]
    refine Ends.mono (evict_victim_ends (h.unlink hl (by rw [hr]; decide)) (h.lt_of_list hl)
      (by rw [Policy.unlink_page_self]; exact hr) (by simp)) ?_
      fun _ he => he.of_roomy fun hroomy => hroomy.unlink (by rw [hr]; decide)
    rintro _ s' ⟨d, e⟩
    obtain ⟨hinv, hstep, _, _, hld, hkept⟩ := e.step h hl (Or.inr rfl)
    refine ⟨hinv, hstep, fun i hi => hkept i ?_ hi⟩
    rintro rfl
    rw [hld] at hi
    cases hi

/-! ## The search for a frame -/

/-- What `fetch_free_asynch` returned: a frame that is on no list. -/
structure Fetched (s s' : State α) (f : PageId) : Prop where
  inv : Inv s'.pol
  step : Step s s'
  lt : f < s'.pol.npages
  frame : (s'.pol.page f).role = .frame
  loose : (s'.pol.page f).list = none
  was_listed : (s.pol.page f).list ≠ none
  kept : ∀ i, i ≠ f → (s'.pol.page i).list = none → (s.pol.page i).list = none

theorem Reclaimed.fetched {s s' s'' : State α} {f : PageId} (h : Reclaimed s s')
    (h' : Fetched s' s'' f) : Fetched s s'' f := by
  refine ⟨h'.inv, h.step.trans h'.step, h'.lt, h'.frame, h'.loose, fun hf => ?_,
    fun i hif hi => h.kept i (h'.kept i hif hi)⟩
  -- a struct held by the caller cannot be the one that was found
  have hsame := h.step.held f hf
  exact h'.was_listed (by rw [hsame]; exact hf)

theorem fetch_free_reclaim_ends (priority : ℕ) (s : State α) (h : Inv s.pol) :
    Ends ((fetch_free_reclaim priority).run s) (fun _ s' => Reclaimed s s') Calm := by
  rw [fetch_free_reclaim, run_bind_ok (run_get_pol _), run_bind_ok (run_get_pol _),
    run_bind_ok (run_numentries _ _), run_bind_ok (run_numentries _ _)]
  split
  · exact Ends.bind (direct_allocate_page_asynch_ends _ _ s h) fun _ s' hs' => hs'
  · exact Reclaimed.refl h

theorem fetch_free_loop_ends (fuel priority : ℕ) (s : State α) (h : Inv s.pol) :
    Ends ((fetch_free_loop fuel priority).run s) (fun f s' => Fetched s s' f)
      (Short s.pol) := by
  induction fuel generalizing priority s with
  | zero => exact calm_hang.short _
  | succ fuel ih =>
      rw [fetch_free_loop]
      split
      · exact calm_out_of_memory.short _
      · -- a round takes a free frame, or reclaims and evicts a victim inline, or goes on
        rcases hq : s.pol.lists .dram_free_list with _ | ⟨f, rest⟩
        · rw [run_bind_ok (run_dequeue_fifo_nil hq)]
          refine Ends.bind ((fetch_free_reclaim_ends priority s h).mono (fun _ _ hs => hs)
            fun _ he => he.short _) fun priority' s' hs' => ?_
          rcases hev : s'.pol.lists .eviction_list with _ | ⟨v, rest⟩
          · rw [run_bind_ok (run_dequeue_fifo_nil hev)]
            exact (ih priority' s' hs'.inv).mono (fun _ _ hf => hs'.fetched hf)
              fun _ he => he.of_roomy hs'.roomy
          · have hl : (s'.pol.page v).list = some .eviction_list :=
              hs'.inv.list_of_mem (by simp [hev])
            have hr := hs'.inv.role_of_list hl rfl
            rw [run_bind_ok (run_dequeue_fifo_cons hev)]
            refine Ends.mono (fetch_free_evict_ends (hs'.inv.unlink hl (by rw [hr]; decide))
              (hs'.inv.lt_of_list hl) (by rw [Policy.unlink_page_self]; exact hr) (by simp)) ?_
              fun _ he => he.1.of_roomy fun hroomy =>
                (hs'.roomy hroomy).unlink (by rw [hr]; decide)
            intro d s'' e
            obtain ⟨hinv, hstep, hwas, hframe, hld, hkept⟩ := e.step hs'.inv hl (Or.inl rfl)
            exact hs'.fetched ⟨hinv, hstep, e.pol.fixed.npages ▸ e.lt, hframe, hld, hwas, hkept⟩
        · have hl : (s.pol.page f).list = some .dram_free_list := h.list_of_mem (by simp [hq])
          have hr := h.role_of_list hl rfl
          rw [run_bind_ok (run_dequeue_fifo_cons hq)]
          refine ⟨h.unlink hl (by rw [hr]; decide), Step.unlink hl (by decide), h.lt_of_list hl,
            by rw [Policy.unlink_page_self]; exact hr, by simp, by simp [hl], fun i hif hi => ?_⟩
          rw [Policy.unlink_page_ne _ _ hif] at hi
          exact hi

/-- **The search for a frame.** It returns a frame that was listed, which is now on no
list, and has touched nothing its caller holds; or it runs out of memory. -/
theorem fetch_free_asynch_ends (fuel : ℕ) (s : State α) (h : Inv s.pol) :
    Ends ((fetch_free_asynch fuel).run s) (fun f s' => Fetched s s' f) (Short s.pol) :=
  fetch_free_loop_ends fuel 12 s h

end SwapPrefetch
