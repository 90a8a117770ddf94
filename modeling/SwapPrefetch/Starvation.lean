/-
The search for a frame starves.

`fetch_free_asynch` scans `numentries >> priority` pages of the inactive list, for the priorities
from `12` to `1`. A list of one page is never scanned, and active pages are demoted only while
the inactive list is scanned. So with no free frame and no page on the eviction list, and at most
one inactive page, all twelve rounds do nothing and the search ends at "Out of memory", however
many active pages and free slots there are.

Such a state is reached at every size of DRAM: touch a page on a new frame, let the scan find it
accessed twice, and go on with the next frame until the last one is on the active list.
-/
import Mathlib.Tactic
import SwapPrefetch.Conservation

set_option autoImplicit false

namespace SwapPrefetch

open Prog

variable {α : Type}

/-! ## Rounds that do nothing -/

section

variable {s : State α} (hinactive : (s.pol.lists .inactive_list).length ≤ 1)
include hinactive

/-- The budget of a scan is zero. -/
theorem run_direct_allocate_short (nr_pages : ℕ) {priority : ℕ} (hpriority : priority ≠ 0) :
    (direct_allocate_page_asynch nr_pages priority).run s = .ok (0, s) := by
  have hzero : (s.pol.lists .inactive_list).length >>> priority = 0 := by
    rw [Nat.shiftRight_eq_div_pow]
    refine Nat.div_eq_of_lt (lt_of_le_of_lt hinactive ?_)
    exact Nat.one_lt_two_pow hpriority
  rw [direct_allocate_page_asynch, run_bind_ok (run_numentries _ _),
    run_bind_ok (run_numentries _ _), hzero]
  rfl

theorem run_fetch_free_reclaim_short {priority : ℕ} (hpriority : priority ≠ 0) :
    ∃ priority', (fetch_free_reclaim priority).run s = .ok (priority', s) := by
  rw [fetch_free_reclaim, run_bind_ok (run_get_pol _), run_bind_ok (run_get_pol _),
    run_bind_ok (run_numentries _ _), run_bind_ok (run_numentries _ _)]
  split
  · exact ⟨priority - 1, run_bind_ok (run_direct_allocate_short hinactive _ hpriority)⟩
  · exact ⟨priority, rfl⟩

/-- **Starvation.** The search does not return. -/
theorem fetch_free_loop_starves (hfree : s.pol.lists .dram_free_list = [])
    (heviction : s.pol.lists .eviction_list = []) (fuel priority : ℕ) :
    Ends ((fetch_free_loop fuel priority).run s) (fun _ _ => False)
      fun e => e = .out_of_memory ∨ e = .hang := by
  induction fuel generalizing priority with
  | zero => exact Or.inr rfl
  | succ fuel ih =>
      rw [fetch_free_loop]
      split
      · exact Or.inl rfl
      case isFalse hpriority =>
        obtain ⟨priority', hreclaim⟩ := run_fetch_free_reclaim_short hinactive hpriority
        rw [run_bind_ok (run_dequeue_fifo_nil hfree), run_bind_ok hreclaim,
          run_bind_ok (run_dequeue_fifo_nil heviction)]
        exact ih priority'

end

/-! ## A page that is accessed while it is scanned -/

/-- One look of the scan at an accessed page, at the page table. -/
def Mem.looked (m : Mem α) (va : ℕ) : Mem α := m.app_turn.app_turn.clear_accessed va

/-- The application reads the page before the scan reads its bit, and does nothing after. -/
structure Mem.Looked (m m' : Mem α) (va : ℕ) (ts : List (List (Access α))) : Prop where
  seen : (m.app_turn.bits va).1 = true
  entry : ∃ e, m'.pte va = some e
  others : ∀ a, a ≠ va → m'.pte a = m.pte a
  turns : m'.env.turns = ts
  copy_fails : m'.env.copy_fails = m.env.copy_fails

theorem Mem.looked_spec {m : Mem α} {va : ℕ} {ts : List (List (Access α))} {e : Pte α}
    (he : m.pte va = some e) (hturns : m.env.turns = [.read va] :: [] :: ts) :
    Mem.Looked m (m.looked va) va ts := by
  have h₁ : m.app_turn = { m.setPte va (some { e with accessed := true }) with
      env := { m.env with turns := [] :: ts } } := by
    simp [Mem.app_turn, hturns, Mem.access, he]
  have h₂ : m.app_turn.app_turn = { m.setPte va (some { e with accessed := true }) with
      env := { m.env with turns := ts } } := by
    rw [h₁]
    simp [Mem.app_turn]
  refine ⟨?_, ⟨{ e with accessed := false }, ?_⟩, fun a ha => ?_, ?_, ?_⟩
  · rw [h₁]
    simp [Mem.bits, Mem.setPte]
  all_goals
    rw [Mem.looked, h₂]
    simp [Mem.clear_accessed, Mem.setPte, Function.update_of_ne, *]

/-- **Promotion.** A page that is alone on the inactive list and read before each look goes to the
active list. -/
theorem run_shrink_inactive_promotes {s : State α} {f : PageId} (ts : List (List (Access α)))
    (hinactive : s.pol.lists .inactive_list = [f]) (hnew : (s.pol.page f).naccesses = 0)
    (hal : (s.pol.page f).va % PAGE_SIZE = 0) (hpte : ∃ e, s.mem.pte (s.pol.page f).va = some e)
    (hturns : s.mem.env.turns =
      [.read (s.pol.page f).va] :: [] :: [.read (s.pol.page f).va] :: [] :: ts) :
    ∃ s', ((Op.shrink_inactive 0).exec 1).run s = .ok ((), s') ∧
      s'.pol.lists .inactive_list = [] ∧
      s'.pol.lists .active_list = s.pol.lists .active_list ++ [f] ∧
      (∀ q, q ≠ .inactive_list → q ≠ .active_list → s'.pol.lists q = s.pol.lists q) ∧
      (∀ i, i ≠ f → s'.pol.page i = s.pol.page i) ∧ s'.pol.pages = s.pol.pages ∧
      (∀ a, a ≠ (s.pol.page f).va → s'.mem.pte a = s.mem.pte a) ∧ s'.mem.env.turns = ts ∧
      s'.mem.env.copy_fails = s.mem.env.copy_fails := by
  set va := (s.pol.page f).va with hva
  obtain ⟨e, he⟩ := hpte
  have hlook₁ := Mem.looked_spec he hturns
  obtain ⟨e₁, he₁⟩ := hlook₁.entry
  have hlook₂ := Mem.looked_spec he₁ hlook₁.turns
  -- the state in which the scan runs, and those after the two looks
  let s₀ : State α := { s with pol := { s.pol with shrinkage_running := true } }
  let s₁ : State α := ⟨((s₀.pol.unlink .inactive_list f).upd f fun p =>
    { p with naccesses := (p.naccesses + 1) % 2 ^ 64 }).enq .inactive_list f, s.mem.looked va⟩
  let s₂ : State α := ⟨((s₁.pol.unlink .inactive_list f).upd f fun p =>
    { p with naccesses := 0 }).enq .active_list f, (s.mem.looked va).looked va⟩
  have hva₁ : (s₁.pol.page f).va = va := by simp [s₁, s₀, va]
  have hfirst : (shrink_inactive_page f).run { s₀ with pol := s₀.pol.unlink .inactive_list f } =
      .ok (false, s₁) := 
        run_shrink_inactive_page_warm (s := s₀) hal hlook₁.seen (by rw [hnew]; decide)
  have hq₁ : s₁.pol.lists .inactive_list = [f] := by simp [s₁, s₀, hinactive]
  have hsecond : (shrink_inactive_page f).run { s₁ with pol := s₁.pol.unlink .inactive_list f } =
      .ok (false, s₂) := by
    have hrun := run_shrink_inactive_page_hot (s := s₁) (i := f) (by rw [hva₁]; exact hal)
      (by rw [hva₁]; exact hlook₂.seen) (by simp [s₁, s₀, hnew])
    rw [hva₁] at hrun
    exact hrun
  have hq₂ : s₂.pol.lists .inactive_list = [] := by
    simp [s₂, Policy.enq_lists_ne, hq₁]
  have hloop : (shrink_inactive_loop 1 100 0).run s₀ = .ok (0, s₂) := by
    have hlook : (shrink_inactive_loop 1 (99 + 1) 0).run s₀ =
        (shrink_inactive_loop 1 (98 + 1) 0).run s₁ :=
      run_shrink_inactive_loop_cons (s := s₀) Nat.one_pos hinactive hfirst
    have hlook' : (shrink_inactive_loop 1 (98 + 1) 0).run s₁ =
        (shrink_inactive_loop 1 98 0).run s₂ :=
      run_shrink_inactive_loop_cons Nat.one_pos hq₁ hsecond
    rw [hlook, hlook']
    exact run_shrink_inactive_loop_nil hq₂
  refine ⟨{ s₂ with pol := { s₂.pol with shrinkage_running := false } }, ?_, hq₂, ?_,
    fun q hq hq' => ?_, fun i hi => ?_, ?_, fun a ha => ?_, hlook₂.turns,
    hlook₂.copy_fails.trans hlook₁.copy_fails⟩
  · have hlist : (shrink_inactive_list 0).run s =
        .ok (0, { s₂ with pol := { s₂.pol with shrinkage_running := false } }) := by
      rw [shrink_inactive_list, run_bind_ok (run_numentries _ _), hinactive,
        run_bind_ok (run_modify_pol _ _)]
      exact run_bind_ok hloop
    exact run_bind_ok hlist
  · simp [s₂, s₁, s₀, Policy.unlink_lists_ne, Policy.enq_lists_ne]
  · simp [s₂, s₁, s₀, Policy.unlink_lists_ne, Policy.enq_lists_ne, hq, hq']
  · simp [s₂, s₁, s₀, Policy.unlink_page_ne, Policy.enq_page_ne, Policy.upd_page_ne, hi]
  · simp [s₂, s₁, s₀]
  · exact (hlook₂.others a ha).trans (hlook₁.others a ha)

/-! ## One more active page -/

/-- A free frame is taken at once. -/
theorem run_fetch_free_cons (fuel : ℕ) {s : State α} {f : PageId} {rest : List PageId}
    (hq : s.pol.lists .dram_free_list = f :: rest) :
    (fetch_free_asynch (fuel + 1)).run s =
      .ok (f, { s with pol := s.pol.unlink .dram_free_list f }) := by
  rw [fetch_free_asynch, fetch_free_loop, if_neg (by decide),
    run_bind_ok (run_dequeue_fifo_cons hq)]
  rfl

/-- What the application does while the page at `va` is mapped and scanned. -/
def readTwice (va : ℕ) : List (List (Access α)) := [[], [.read va], [], [.read va], []]

/-- All pages that were touched are active, and the structs on `frames` are new. The addresses
from `va` on were not touched. -/
structure Promoted (frames : List PageId) (va : ℕ) (ts : List (List (Access α)))
    (s : State α) : Prop where
  free : s.pol.lists .dram_free_list = frames
  inactive : s.pol.lists .inactive_list = []
  eviction : s.pol.lists .eviction_list = []
  slots : s.pol.lists .disk_free_list ≠ []
  new : ∀ i ∈ frames, (s.pol.page i).naccesses = 0
  untouched : ∀ a, va ≤ a → s.pol.pages a = none ∧ s.mem.pte a = none
  turns : s.mem.env.turns = ts
  copy_fails : s.mem.env.copy_fails = []

/-- The state after the first fault at `va`, which took the frame `f`. -/
def State.touched (s : State α) (f : PageId) (va : ℕ) (zero : α) : State α :=
  { pol := (((s.pol.unlink .dram_free_list f).use_frame f va).enq .inactive_list f).account
      PAGE_SIZE 0
    mem := { s.mem with buffer_space := zero }.copied va s.mem.page_cache }

section Touched

variable {s : State α} {f : PageId} {frames : List PageId} {va : ℕ} {ts : List (List (Access α))}

theorem State.touched_va (s : State α) (f : PageId) (va : ℕ) (zero : α) :
    ((s.touched f va zero).pol.page f).va = va := by
  simp [touched, Policy.use_frame_page_self]

/-- The first of the turns passes while the page is mapped. -/
theorem Promoted.app_turn (zero : α) (h : Promoted (f :: frames) va (readTwice va ++ ts) s) :
    { s.mem with buffer_space := zero }.app_turn =
      { s.mem with
        buffer_space := zero
        env := { s.mem.env with turns := [.read va] :: [] :: [.read va] :: [] :: ts } } := by
  simp [Mem.app_turn, h.turns, readTwice]

/-- The fault. -/
theorem Promoted.run_fault (zero : α) (hidle : Idle s.pol) (hva : PAGE_SIZE ≤ va)
    (hal : va % PAGE_SIZE = 0) (h : Promoted (f :: frames) va (readTwice va ++ ts) s) :
    ((Op.fault va false zero).exec 1).run s = .ok ((), s.touched f va zero) := by
  have hb : boundary va = va := by rw [boundary, hal, Nat.sub_zero]
  have hl : (s.pol.page f).list = some .dram_free_list :=
    hidle.inv.list_of_mem (by simp [h.free])
  have hrefused : ¬ { s.mem with buffer_space := zero }.copy_refused va := by
    rw [Mem.copy_refused, h.app_turn]
    simp [h.copy_fails, (h.untouched va le_rfl).2]
  have hnew : (State.mk s.pol { s.mem with buffer_space := zero }).pol.pages (boundary va)
      = none := by
    rw [hb]
    exact (h.untouched va le_rfl).1
  have hfetch := run_fetch_free_cons 0
    (s := ⟨s.pol, { s.mem with buffer_space := zero }⟩) h.free
  have hva0 : va ≠ 0 := by
    simp only [PAGE_SIZE] at hva
    omega
  have hframe : ((s.pol.unlink .dram_free_list f).page f).role = .frame := by
    rw [Policy.unlink_page_self]
    exact hidle.inv.role_of_list hl rfl
  have hfirst := run_first_fault_new hva0 hal hfetch hframe (by simp)
    (by simpa using (h.untouched va le_rfl).1) hrefused
  rw [Op.exec, if_neg (not_lt.2 hva), run_bind_ok (run_modify_mem _ _),
    run_uswap_sig_handler_new 1 _ hnew, hb]
  exact hfirst

/-- The fault maps only the page at `va`. -/
theorem Promoted.touched_pte (zero : α) (h : Promoted (f :: frames) va (readTwice va ++ ts) s)
    {a : ℕ} (ha : a ≠ va) : (s.touched f va zero).mem.pte a = s.mem.pte a := by
  simp only [State.touched, Mem.copied, Mem.setPte_ne _ ha, Mem.copy_failed, h.app_turn]

/-- The scan finds the page, which was read before each of its two looks, and promotes it. -/
theorem Promoted.run_scan (zero : α) (hal : va % PAGE_SIZE = 0)
    (h : Promoted (f :: frames) va (readTwice va ++ ts) s) (hfresh : f ∉ frames) :
    ∃ s', ((Op.shrink_inactive 0).exec 1).run (s.touched f va zero) = .ok ((), s') ∧
      Promoted frames (va + PAGE_SIZE) ts s' ∧ s'.pol.lists .active_list ≠ [] := by
  have hva₁ := s.touched_va f va zero
  have hscan := run_shrink_inactive_promotes (s := s.touched f va zero) (f := f) ts ?_ ?_ ?_ ?_ ?_
  · obtain ⟨s', hrun, hinactive, hactive, hlists, hpage, hpages, hentry, hturns, hcopy⟩ := hscan
    rw [hva₁] at hentry
    refine ⟨s', hrun, ⟨?_, hinactive, ?_, ?_, fun i hi => ?_, fun a ha => ?_, hturns, ?_⟩, ?_⟩
    · rw [hlists _ (by decide) (by decide)]
      simp [State.touched, Policy.use_frame, Policy.enq_lists_ne, h.free]
    · rw [hlists _ (by decide) (by decide)]
      simp [State.touched, Policy.use_frame, Policy.enq_lists_ne, Policy.unlink_lists_ne,
        h.eviction]
    · rw [hlists _ (by decide) (by decide)]
      simpa [State.touched, Policy.use_frame, Policy.enq_lists_ne, Policy.unlink_lists_ne]
        using h.slots
    · have hif : i ≠ f := fun hif => hfresh (hif ▸ hi)
      rw [hpage i hif]
      simpa [State.touched, Policy.use_frame, Policy.enq_page_ne, Policy.upd_page_ne,
        Policy.unlink_page_ne, hif] using h.new i (List.mem_cons_of_mem f hi)
    · have hne : a ≠ va := by simp only [PAGE_SIZE] at ha; omega
      obtain ⟨hindex, hnone⟩ := h.untouched a (by omega)
      rw [hpages, hentry a hne, h.touched_pte zero hne]
      exact ⟨by simp [State.touched, Policy.use_frame, Function.update_of_ne hne, hindex], hnone⟩
    · rw [hcopy]
      simp [State.touched, Mem.copied, Mem.setPte, Mem.copy_failed, h.app_turn, h.copy_fails]
    · rw [hactive]
      simp
  · simp [State.touched, Policy.use_frame, Policy.unlink_lists_ne, h.inactive]
  · simpa [State.touched, Policy.use_frame] using h.new f List.mem_cons_self
  · rw [hva₁]
    exact hal
  · rw [hva₁]
    exact ⟨_, (Mem.copied_spec _ _ _).entry⟩
  · rw [hva₁]
    simp [State.touched, Mem.copied, Mem.setPte, Mem.copy_failed, h.app_turn]

/-- **One cycle.** The page at `va` gets the next frame and is promoted. -/
theorem Promoted.cycle (zero : α) (hidle : Idle s.pol) (hva : PAGE_SIZE ≤ va)
    (hal : va % PAGE_SIZE = 0) (h : Promoted (f :: frames) va (readTwice va ++ ts) s) :
    ∃ s₁ s', ((Op.fault va false zero).exec 1).run s = .ok ((), s₁) ∧
      ((Op.shrink_inactive 0).exec 1).run s₁ = .ok ((), s') ∧
      Promoted frames (va + PAGE_SIZE) ts s' ∧ s'.pol.lists .active_list ≠ [] := by
  have hnodup := hidle.inv.linked.nodup .dram_free_list
  rw [h.free] at hnodup
  obtain ⟨s', hrun, hs'⟩ := h.run_scan zero hal (List.nodup_cons.1 hnodup).1
  exact ⟨_, s', h.run_fault zero hidle hva hal, hrun, hs'⟩

end Touched

/-- The turns of the application while `n` pages from `va` on are touched. -/
def readAll : ℕ → ℕ → List (List (Access α))
  | 0, _ => []
  | n + 1, va => readTwice va ++ readAll n (va + PAGE_SIZE)

/-- **All frames.** Cycle by cycle, every frame gets an active page. -/
theorem Promoted.fill {dramsize disksize : ℕ} {zero : α} {env : Env α} {frames : List PageId}
    {va : ℕ} {r : Run α} {s : State α} (hs : Reaches dramsize disksize zero env r s)
    (hva : PAGE_SIZE ≤ va) (hal : va % PAGE_SIZE = 0)
    (h : Promoted frames va (readAll frames.length va) s)
    (hactive : frames ≠ [] ∨ s.pol.lists .active_list ≠ []) :
    ∃ r' s' va', Reaches dramsize disksize zero env r' s' ∧ Promoted [] va' [] s' ∧
      s'.pol.lists .active_list ≠ [] := by
  induction frames generalizing va r s with
  | nil => exact ⟨r, s, va, hs, h, hactive.resolve_left fun hne => hne rfl⟩
  | cons f frames ih =>
      obtain ⟨s₁, s', hfault, hscan, hnext, hne⟩ := h.cycle zero hs.idle.1 hva hal
      refine ih ((hs.snoc (x := (1, .fault va false zero)) hfault).snoc
        (x := (1, .shrink_inactive 0)) hscan) (le_trans hva (Nat.le_add_right _ _)) ?_ hnext
        (Or.inr hne)
      rw [Nat.add_mod_right]
      exact hal

/-- After `lrudisk_init` nothing was touched. -/
theorem Initial.promoted {s : State α} (h : Initial s.pol) (hslots : 0 < s.pol.disksize / PAGE_SIZE)
    (hmem : ∀ a, s.mem.pte a = none) (hcopy : s.mem.env.copy_fails = []) :
    Promoted (s.pol.lists .dram_free_list) PAGE_SIZE s.mem.env.turns s ∧
      (s.pol.lists .dram_free_list).length = s.pol.dramsize / PAGE_SIZE := by
  have hinv := h.idle.inv
  have hrole : ∀ q : ListId, q.role = some .resident → s.pol.lists q = [] := by
    intro q hq
    refine List.eq_nil_iff_forall_not_mem.2 fun i hi => ?_
    exact (UserPage.role_resident.1 (hinv.role_of_list (hinv.list_of_mem hi) hq)).2 (h.va i)
  have hfree : ∀ i, i ∈ s.pol.lists .dram_free_list ↔ i < s.pol.dramsize / PAGE_SIZE := by
    intro i
    rw [hinv.mem_iff]
    refine ⟨fun hl => ?_, fun hi => by rw [h.frame i hi]; rfl⟩
    rcases h.cases (hinv.lt_of_list hl) with ⟨hi, _⟩ | ⟨k, _, _, hp⟩
    · exact hi
    · rw [hp] at hl
      cases hl
  refine ⟨⟨rfl, hrole _ rfl, hrole _ rfl, ?_, fun i hi => ?_, fun a _ => ⟨?_, hmem a⟩, rfl, hcopy⟩,
    ?_⟩
  · refine List.ne_nil_of_mem (a := s.pol.dramsize / PAGE_SIZE + 0) ((hinv.mem_iff _ _).2 ?_)
    rw [h.slot 0 hslots]
    rfl
  · rw [h.frame i ((hfree i).1 hi)]
    rfl
  · rw [h.pages]
  · have hset : (s.pol.lists .dram_free_list).toFinset = Finset.range (s.pol.dramsize / PAGE_SIZE) := by
      ext i
      rw [List.mem_toFinset, hfree, Finset.mem_range]
    rw [← List.toFinset_card_of_nodup (h.linked.nodup _), hset, Finset.card_range]

/-! ## Where the search succeeds -/

/-- A page can be freed: it is on one of the lists of the scans and a slot is free, or it has its
own; and the application does not run any more. -/
structure Freeable (s : State α) : Prop where
  quiet : s.mem.env.turns = []
  page : ∃ p, s.pol.OnDram p ∧
    (s.pol.lists .disk_free_list ≠ [] ∨ (s.pol.page p).has_reserve = true)

/-- Wherever a page can be freed, `fetch_free_asynch` returns a frame. -/
def FindsFrame (dramsize disksize : ℕ) (zero : α) : Prop :=
  ∀ (env : Env α) (r : Run α) (s : State α), Reaches dramsize disksize zero env r s → Freeable s →
    ∃ fuel f s', (fetch_free_asynch fuel).run s = .ok (f, s')

/-- A struct of either kind needs memory of that kind. -/
theorem Inv.size_pos {P : Policy} (h : Inv P) {i : PageId} (hi : i < P.npages) :
    0 < (if (P.page i).in_dram then P.dramsize else P.disksize) / PAGE_SIZE := by
  obtain ⟨k, hk, _⟩ := (h.bijOn_offsets (P.page i).in_dram).mapsTo ⟨hi, rfl⟩
  exact Nat.zero_lt_of_lt hk

/-- A page that can be freed takes a frame and a slot. -/
theorem Freeable.sizes {s : State α} (hs : Freeable s) (h : Inv s.pol) :
    0 < s.pol.dramsize / PAGE_SIZE ∧ 0 < s.pol.disksize / PAGE_SIZE := by
  obtain ⟨p, hp, hslot⟩ := hs.page
  obtain ⟨hlt, hr⟩ := h.resident_of_onDram hp
  obtain ⟨hin, hva⟩ := UserPage.role_resident.1 hr
  have hframe := h.size_pos hlt
  rw [hin] at hframe
  refine ⟨hframe, ?_⟩
  rcases hslot with hfree | hflag
  · obtain ⟨d, hd⟩ := List.exists_mem_of_ne_nil _ hfree
    have hl := h.list_of_mem hd
    have hslot := h.size_pos (h.lt_of_list hl)
    rw [(UserPage.role_slot.1 (h.role_of_list hl rfl)).1] at hslot
    exact hslot
  · obtain ⟨d, hd⟩ := h.backs_of_reserve hlt hva hflag
    have hslot := h.size_pos hd.lt
    rw [hd.on_disk] at hslot
    exact hslot

/-- One page on one frame: the inactive list is too short for every round. -/
def onePage : Run ℕ := [(1, .fault 4096 false 0)]

-- thirteen rounds are enough to get to the assertion
example : Ends ((do lrudisk_init; Run.exec onePage; fetch_free_asynch 13 : Proc ℕ PageId).run
    (State.blank 4096 8192 0 {})) (fun _ _ => False) (fun e => e = .out_of_memory) := by
  decide +kernel

end SwapPrefetch
