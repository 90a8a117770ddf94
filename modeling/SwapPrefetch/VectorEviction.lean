/-
Batched eviction (`lrudisk_evictionworker_vector`) against one-by-one eviction.

The batch goes through its victims in six loops. Each loop either applies one update to
the struct of every victim (`Phase`), or takes a slot for it, so the result of the batch is
a composition of updates, victim by victim (`Batched`). No assertion of it can fail.

The result is not the scalar one. `extmem_migrate_downdisk` gives the page its disk offset
and clears `in_dram`; in the batch nobody does. The victim keeps the offset of the frame
that the batch hands out again, so two structs own one frame from then on.
-/
import Mathlib.Tactic
import SwapPrefetch.Reclaim
import SwapPrefetch.Runs

set_option autoImplicit false

namespace SwapPrefetch

open Prog Ownership

variable {α : Type}

/-! ## One update for every victim -/

/-- The structs `ids` were updated by `f`, and no other struct. -/
structure Phase (ids : List PageId) (f : UserPage → UserPage) (P P' : Policy) : Prop where
  page : ∀ i ∈ ids, P'.page i = f (P.page i)
  others : ∀ i, i ∉ ids → P'.page i = P.page i

theorem Phase.nil (f : UserPage → UserPage) (P : Policy) : Phase [] f P P :=
  ⟨fun _ hi => (nomatch hi), fun _ _ => rfl⟩

theorem Phase.cons {v : PageId} {ids : List PageId} {f : UserPage → UserPage} {P P₁ P' : Policy}
    (hv : v ∉ ids) (h₁ : Phase [v] f P P₁) (h : Phase ids f P₁ P') : Phase (v :: ids) f P P' := by
  constructor
  · intro i hi
    rcases List.mem_cons.1 hi with rfl | hi
    · rw [h.others i hv, h₁.page i (by simp)]
    · have hne : i ≠ v := fun he => hv (he ▸ hi)
      rw [h.page i hi, h₁.others i (by simpa using hne)]
  · intro i hi
    simp only [List.mem_cons, not_or] at hi
    rw [h.others i hi.2, h₁.others i (by simpa using hi.1)]

theorem Phase.upd (P : Policy) (v : PageId) (f : UserPage → UserPage) :
    Phase [v] f P (P.upd v f) :=
  ⟨fun i hi => by rw [List.mem_singleton.1 hi, Policy.upd_page_self],
    fun i hi => Policy.upd_page_ne _ _ (by simpa using hi)⟩

theorem Phase.unlink (P : Policy) (q : ListId) (v : PageId) :
    Phase [v] (fun p => { p with list := none }) P (P.unlink q v) :=
  ⟨fun i hi => by rw [List.mem_singleton.1 hi, Policy.unlink_page_self],
    fun i hi => Policy.unlink_page_ne _ _ (by simpa using hi)⟩

/-! ## The loops of the batch -/

/-- `dequeue_fifo_vector` takes the oldest victims off the list. -/
theorem run_dequeue_fifo_vector (n : ℕ) {s : State α} (h : Inv s.pol) :
    ∃ P, (dequeue_fifo_vector .eviction_list n).run s
        = .ok ((s.pol.lists .eviction_list).take n, { s with pol := P }) ∧
      Inv P ∧ Fixed s.pol P ∧
      Phase ((s.pol.lists .eviction_list).take n) (fun p => { p with list := none }) s.pol P := by
  induction n generalizing s with
  | zero => exact ⟨s.pol, rfl, h, Fixed.refl _, Phase.nil _ _⟩
  | succ n ih =>
      rcases hq : s.pol.lists .eviction_list with _ | ⟨v, rest⟩
      · refine ⟨s.pol, ?_, h, Fixed.refl _, Phase.nil _ _⟩
        rw [dequeue_fifo_vector, run_bind_ok (run_dequeue_fifo_nil hq)]
        rfl
      · have hl : (s.pol.page v).list = some .eviction_list := h.list_of_mem (by simp [hq])
        have hr := h.role_of_list hl rfl
        have hnd := h.linked.nodup .eviction_list
        rw [hq, List.nodup_cons] at hnd
        obtain ⟨P, hrun, hinv, hfix, hph⟩ := ih (s := { s with pol := s.pol.unlink .eviction_list v })
          (h.unlink hl (by rw [hr]; decide))
        have hrest : (s.pol.unlink .eviction_list v).lists .eviction_list = rest := by
          simp [Policy.unlink, hq]
        simp only [hrest] at hrun hph
        refine ⟨P, ?_, hinv, Fixed.trans ⟨by simp, by simp, by simp, by simp⟩ hfix, ?_⟩
        · rw [dequeue_fifo_vector, run_bind_ok (run_dequeue_fifo_cons hq), run_bind_ok hrun]
          rfl
        · exact Phase.cons (fun hm => hnd.1 (List.mem_of_mem_take hm)) (Phase.unlink _ _ _) hph

/-- The first loop: every victim is marked, and nothing else changes in the policy. -/
theorem vector_prepare_ends {ids : List PageId} {s : State α} (hnd : ids.Nodup)
    (hva : ∀ v ∈ ids, (s.pol.page v).va ≠ 0 ∧ (s.pol.page v).va % PAGE_SIZE = 0) :
    Ends ((vector_prepare ids).run s)
      (fun vs s' => vs.map Victim.page = ids ∧
        (∀ v ∈ vs, v.old_offset = (s.pol.page v.page).virtual_offset) ∧
        s'.pol.lists = s.pol.lists ∧
        Phase ids (fun p => { p with migrating := true }) s.pol s'.pol) (fun _ => False) := by
  induction ids generalizing s with
  | nil => exact ⟨rfl, fun _ hv => (nomatch hv), rfl, Phase.nil _ _⟩
  | cons v ids ih =>
      rw [List.nodup_cons] at hnd
      obtain ⟨h0, hal⟩ := hva v (by simp)
      have hne : ∀ u ∈ ids, u ≠ v := fun u hu he => hnd.1 (he ▸ hu)
      have hstep : (vector_prepare (v :: ids)).run s = (do
          let vs ← vector_prepare ids
          pure ({ page := v, old_offset := (s.pol.page v).virtual_offset
                  writeback := ((s.mem.freeze (s.pol.page v).va).bits (s.pol.page v).va).2 ||
                    !(s.pol.page v).has_reserve } :: vs) : Proc α (List Victim)).run
          (s.freeze v) := by
        simp [vector_prepare, run_extmem_wp_page, run_pt_get_bits, h0, hal, State.freeze, Mem.freeze]
      rw [hstep]
      refine Ends.bind (ih (s := s.freeze v) hnd.2 fun u hu => ?_) fun vs s' h => ?_
      · rw [State.freeze_page_ne _ (hne u hu)]
        exact hva u (List.mem_cons_of_mem v hu)
      · obtain ⟨hmap, hold, hlists, hph⟩ := h
        refine ⟨by rw [List.map_cons, hmap], fun u hu => ?_, hlists.trans (by simp [State.freeze]),
          Phase.cons hnd.1 (Phase.upd _ _ _) hph⟩
        rcases List.mem_cons.1 hu with rfl | hu
        · rfl
        · rw [hold u hu, State.freeze_page_ne _ (hne _ (hmap ▸ List.mem_map_of_mem hu))]

/-- What the slot loop needs to know about the victims `ids` it has not served yet. -/
structure SlotsReady (P : Policy) (ids : List PageId) : Prop where
  linked : P.WellLinked
  loose : ∀ v ∈ ids, (P.page v).list = none
  flag : ∀ v ∈ ids, (P.page v).has_reserve = (P.page v).reserve.isSome
  link : ∀ v ∈ ids, ∀ d, (P.page v).reserve = some d →
    (P.page d).reserve = some v ∧ (P.page d).list = some .disk_reserve_list
  present : ∀ i, (P.page i).list ≠ none → (P.page i).present = false

/-- Taking a slot for one victim leaves the others ready. -/
theorem SlotsReady.unlink {P : Policy} {ids : List PageId} {v d : PageId} {q : ListId}
    (h : SlotsReady P (v :: ids)) (hv : v ∉ ids) (hl : (P.page d).list = some q)
    (hd : (P.page v).reserve = some d ∨ q = .disk_free_list) :
    SlotsReady (P.unlink q d) ids := by
  have hsub : ∀ u ∈ ids, u ∈ v :: ids := fun u hu => List.mem_cons_of_mem v hu
  have hne : ∀ u ∈ ids, u ≠ d := by
    rintro u hu rfl
    rw [h.loose u (hsub u hu)] at hl
    cases hl
  refine ⟨h.linked.unlink hl, fun u hu => ?_, fun u hu => ?_, fun u hu e he => ?_, fun i hi => ?_⟩
  · rw [Policy.unlink_page_ne _ _ (hne u hu)]
    exact h.loose u (hsub u hu)
  · rw [Policy.unlink_page_ne _ _ (hne u hu)]
    exact h.flag u (hsub u hu)
  · rw [Policy.unlink_page_ne _ _ (hne u hu)] at he
    obtain ⟨hback, hlist⟩ := h.link u (hsub u hu) e he
    have hed : e ≠ d := by
      rintro rfl
      rcases hd with hd | rfl
      · have hback' := (h.link v (by simp) e hd).1
        exact hv (Option.some.inj (hback.symm.trans hback') ▸ hu)
      · rw [hl] at hlist
        cases hlist
    rw [Policy.unlink_page_ne _ _ hed]
    exact ⟨hback, hlist⟩
  · have hid : i ≠ d := by
      rintro rfl
      simp at hi
    rw [Policy.unlink_page_ne _ _ hid] at hi ⊢
    exact h.present i hi

/-- The victims `ws` are the victims `vs` with a slot each: the reserve of the page, or a
struct from `disk_free_list` if it has none. The slots have left their lists. -/
structure Slotted (P P' : Policy) (vs ws : List Victim) : Prop where
  page : ws.map Victim.page = vs.map Victim.page
  old_offset : ∀ w ∈ ws, ∃ v ∈ vs, v.page = w.page ∧ v.old_offset = w.old_offset
  nodup : (ws.map Victim.diskpage).Nodup
  slot : ∀ w ∈ ws, (P.page w.diskpage).list ≠ none ∧
    ((P.page w.page).reserve = some w.diskpage ∨
      (P.page w.page).reserve = none ∧ (P.page w.diskpage).list = some .disk_free_list)
  phase : Phase (ws.map Victim.diskpage) (fun p => { p with list := none }) P P'

/-- One turn of the second loop: the victim `v` gets the slot `d`, taken off its list `q`. -/
theorem Slotted.cons {P P' : Policy} {v : Victim} {vs ws : List Victim} {q : ListId} {d : PageId}
    (h : SlotsReady P (v.page :: vs.map Victim.page)) (hl : (P.page d).list = some q)
    (hd : (P.page v.page).reserve = some d ∨
      (P.page v.page).reserve = none ∧ q = .disk_free_list)
    (hws : Slotted (P.unlink q d) P' vs ws) :
    Slotted P P' (v :: vs) ({ v with diskpage := d } :: ws) := by
  -- `d` is on no list any more, so it is neither a later slot nor a later victim
  have hdw : ∀ w ∈ ws, w.diskpage ≠ d := by
    intro w hw he
    refine (hws.slot w hw).1 ?_
    rw [he, Policy.unlink_page_self]
  have hpw : ∀ w ∈ ws, w.page ≠ d := by
    intro w hw he
    have hm : w.page ∈ vs.map Victim.page := hws.page ▸ List.mem_map_of_mem hw
    rw [← he, h.loose _ (List.mem_cons_of_mem _ hm)] at hl
    cases hl
  have hdmem : d ∉ ws.map Victim.diskpage := by
    intro hm
    obtain ⟨w, hw, he⟩ := List.mem_map.1 hm
    exact hdw w hw he
  refine ⟨by simp [hws.page], fun w hw => ?_, ?_, fun w hw => ?_, ?_⟩
  · rcases List.mem_cons.1 hw with rfl | hw
    · exact ⟨v, by simp, rfl, rfl⟩
    · obtain ⟨u, hu, he⟩ := hws.old_offset w hw
      exact ⟨u, List.mem_cons_of_mem v hu, he⟩
  · rw [List.map_cons, List.nodup_cons]
    exact ⟨hdmem, hws.nodup⟩
  · rcases List.mem_cons.1 hw with rfl | hw
    · refine ⟨by rw [hl]; simp, hd.imp_right fun hd => ⟨hd.1, ?_⟩⟩
      rw [hl, hd.2]
    · have hw' := hws.slot w hw
      rw [Policy.unlink_page_ne _ _ (hdw w hw), Policy.unlink_page_ne _ _ (hpw w hw)] at hw'
      exact hw'
  · exact Phase.cons hdmem (Phase.unlink _ _ _) hws.phase

/-- The second loop: every victim gets its own slot, its reserve if it has one. -/
theorem vector_diskpages_ends {vs : List Victim} {s : State α}
    (hnd : (vs.map Victim.page).Nodup) (h : SlotsReady s.pol (vs.map Victim.page)) :
    Ends ((vector_diskpages vs).run s)
      (fun ws s' => Slotted s.pol s'.pol vs ws) (fun e => e = .no_disk_page) := by
  induction vs generalizing s with
  | nil => exact ⟨rfl, fun _ hv => (nomatch hv), List.nodup_nil, fun _ hv => (nomatch hv),
      Phase.nil _ _⟩
  | cons v vs ih =>
      rw [List.map_cons] at hnd h
      rw [List.nodup_cons] at hnd
      -- the rest of the loop, once `v` has the slot `d`
      have hrest : ∀ q d, (s.pol.page d).list = some q →
          ((s.pol.page v.page).reserve = some d ∨
            (s.pol.page v.page).reserve = none ∧ q = .disk_free_list) →
          Ends ((do
              let ws ← vector_diskpages vs
              pure ({ v with diskpage := d } :: ws) : Proc α (List Victim)).run
              { s with pol := s.pol.unlink q d })
            (fun ws s' => Slotted s.pol s'.pol (v :: vs) ws) (fun e => e = .no_disk_page) := by
        intro q d hl hd
        refine Ends.bind (ih (s := { s with pol := s.pol.unlink q d }) hnd.2
          (h.unlink hnd.1 hl (hd.imp_right And.right))) fun ws s' hws => ?_
        exact Slotted.cons h hl hd hws
      rcases hres : (s.pol.page v.page).reserve with _ | d
      · have hflag : (s.pol.page v.page).has_reserve = false := by
          rw [h.flag v.page (by simp), hres]
          rfl
        rcases hfree : s.pol.lists .disk_free_list with _ | ⟨d, rest⟩
        · refine Ends.of_throw (e := .no_disk_page) ?_ rfl
          simp [vector_diskpages, hflag, run_dequeue_fifo_nil hfree]
        · have hl : (s.pol.page d).list = some .disk_free_list :=
            (h.linked.mem_iff _ _).1 (by simp [hfree])
          have hpres := h.present d (by rw [hl]; simp)
          convert hrest .disk_free_list d hl (Or.inr ⟨hres, rfl⟩) using 1
          simp [vector_diskpages, hflag, run_dequeue_fifo_cons hfree, hpres]
      · have hflag : (s.pol.page v.page).has_reserve = true := by
          rw [h.flag v.page (by simp), hres]
          rfl
        obtain ⟨hback, hl⟩ := h.link v.page (by simp) d hres
        convert hrest .disk_reserve_list d hl (Or.inl hres) using 1
        simp [vector_diskpages, hflag,
          run_detach_reserve .reserve_link hres hback hl ((h.linked.mem_iff _ _).2 hl)]

/-- The write loop checks the victims, and changes only contents. -/
theorem downdisk_vector_write_ends {vs : List Victim} {s : State α}
    (h : ∀ v ∈ vs, (s.pol.page v.page).in_dram = true) :
    Ends ((downdisk_vector_write vs).run s) (fun _ s' => s'.pol = s.pol) Resource := by
  induction vs generalizing s with
  | nil => exact rfl
  | cons v vs ih =>
      have hv := h v (by simp)
      have hrest : ∀ m : Mem α, Ends ((downdisk_vector_write vs).run { s with mem := m })
          (fun _ s' => s'.pol = s.pol) Resource := fun m =>
        ih (s := { s with mem := m }) fun u hu => h u (List.mem_cons_of_mem v hu)
      rcases hw : v.writeback
      · convert hrest s.mem using 1
        simp [downdisk_vector_write, hv, hw]
      · rcases he : s.mem.app_turn.pte (s.pol.page v.page).va with _ | e
        · refine Ends.of_throw (e := .source_unmapped) ?_ trivial
          simp [downdisk_vector_write, hv, hw, run_extmem_disk_write, he]
        · convert hrest (s.mem.app_turn.disk_write (s.pol.page v.diskpage).virtual_offset e.data)
            using 1
          simp [downdisk_vector_write, hv, hw, run_extmem_disk_write, he]

theorem run_downdisk_vector_discard (vs : List Victim) (s : State α) :
    ∃ m, (downdisk_vector_discard vs).run s = .ok ((), { s with mem := m }) := by
  induction vs generalizing s with
  | nil => exact ⟨s.mem, rfl⟩
  | cons v vs ih =>
      obtain ⟨m, hm⟩ := ih { s with mem := s.mem.app_turn.discard (s.pol.page v.page).va }
      exact ⟨m, by simp [downdisk_vector_discard, run_madvise_dontneed, hm]⟩

/-- The flag loop marks every victim as swapped out. -/
theorem run_downdisk_vector_mark {vs : List Victim} {s : State α}
    (hnd : (vs.map Victim.page).Nodup)
    (h : ∀ v ∈ vs, (s.pol.page v.page).swapped_out = false ∧
      (s.pol.page v.page).migrating = true) :
    ∃ P, (downdisk_vector_mark vs).run s = .ok ((), { s with pol := P }) ∧
      Phase (vs.map Victim.page) (fun p => { p with swapped_out := true }) s.pol P := by
  induction vs generalizing s with
  | nil => exact ⟨s.pol, rfl, Phase.nil _ _⟩
  | cons v vs ih =>
      rw [List.map_cons, List.nodup_cons] at hnd
      obtain ⟨hsw, hmig⟩ := h v (by simp)
      let P₁ := s.pol.upd v.page fun p => { p with swapped_out := true }
      have hvs : ∀ u ∈ vs, (P₁.page u.page).swapped_out = false ∧
          (P₁.page u.page).migrating = true := by
        intro u hu
        have hne : u.page ≠ v.page := fun he => hnd.1 (he ▸ List.mem_map_of_mem hu)
        simp only [P₁, Policy.upd_page_ne _ _ hne]
        exact h u (List.mem_cons_of_mem v hu)
      obtain ⟨P, hrun, hph⟩ := ih (s := { s with pol := P₁ }) hnd.2 hvs
      refine ⟨P, ?_, Phase.cons hnd.1 (Phase.upd _ _ _) hph⟩
      simp [downdisk_vector_mark, hsw, hmig, P₁, ← hrun]

/-- `extmem_migrate_downdisk_vector` marks the victims, and assigns nothing else. -/
theorem extmem_migrate_downdisk_vector_ends {vs : List Victim} {s : State α}
    (hnd : (vs.map Victim.page).Nodup)
    (h : ∀ v ∈ vs, (s.pol.page v.page).in_dram = true ∧
      (s.pol.page v.page).swapped_out = false ∧ (s.pol.page v.page).migrating = true) :
    Ends ((extmem_migrate_downdisk_vector vs).run s) (fun _ s' =>
      Phase (vs.map Victim.page) (fun p => { p with swapped_out := true }) s.pol s'.pol)
      Resource := by
  refine Ends.bind (downdisk_vector_write_ends fun v hv => (h v hv).1) fun _ s₁ hs₁ => ?_
  obtain ⟨m, hm⟩ := run_downdisk_vector_discard vs s₁
  obtain ⟨P, hP, hph⟩ := run_downdisk_vector_mark (s := { s₁ with mem := m }) hnd (by
    simp only [hs₁]
    exact fun v hv => (h v hv).2)
  rw [run_bind_ok hm]
  refine Ends.of_eq hP ?_
  rw [← hs₁]
  exact hph

/-- What the batch leaves of a victim. Its offset and `in_dram` are as they were. -/
def UserPage.batch_evicted (p : UserPage) : UserPage :=
  { p with
    swapped_out := true, migrating := false, has_reserve := false, reserve := none
    list := some .disk_active_list }

/-- The struct of a slot, after it became the frame at `offset`. -/
def UserPage.batch_frame (p : UserPage) (offset : ℕ) : UserPage :=
  { p with
    virtual_offset := offset, in_dram := true, present := false, has_reserve := false
    reserve := none, list := some .dram_free_list }

/-- The structs of a batch. -/
def structs (vs : List Victim) : List PageId := vs.flatMap fun v => [v.page, v.diskpage]

/-- What a batch did to the structs of its victims and of their slots. -/
structure Batched (P P' : Policy) (vs : List Victim) : Prop where
  victim : ∀ v ∈ vs, P'.page v.page = (P.page v.page).batch_evicted
  frame : ∀ v ∈ vs, P'.page v.diskpage = (P.page v.diskpage).batch_frame v.old_offset
  others : ∀ i, i ∉ structs vs → P'.page i = P.page i

/-- What the last loop asserts about a victim and its slot. -/
structure Trackable (P : Policy) (v : Victim) : Prop where
  victim_loose : (P.page v.page).list = none
  slot_loose : (P.page v.diskpage).list = none
  migrating : (P.page v.page).migrating = true
  swapped_out : (P.page v.page).swapped_out = true
  present : (P.page v.diskpage).present = false
  unlinked : (P.page v.page).has_reserve = false →
    (P.page v.page).reserve = none ∧ (P.page v.diskpage).has_reserve = false ∧
      (P.page v.diskpage).reserve = none

/-- One iteration of the last loop. -/
theorem run_vector_track_cons {v : Victim} {s : State α} (hne : v.page ≠ v.diskpage)
    (h : Trackable s.pol v) :
    ∃ P, (∀ vs, (vector_track (v :: vs)).run s = (vector_track vs).run { s with pol := P }) ∧
      P.page v.page = (s.pol.page v.page).batch_evicted ∧
      P.page v.diskpage = (s.pol.page v.diskpage).batch_frame v.old_offset ∧
      ∀ i, i ≠ v.page → i ≠ v.diskpage → P.page i = s.pol.page i := by
  obtain ⟨hlv, hld, hmig, hsw, hpres, hun⟩ := h
  rcases hres : (s.pol.page v.page).has_reserve
  · -- a free slot: the victim is linked before the frame
    obtain ⟨hvr, hdf, hdr⟩ := hun hres
    let P := ((s.pol.enq .disk_active_list v.page).upd v.diskpage fun p =>
      { p with virtual_offset := v.old_offset, in_dram := true, present := false }).enq
        .dram_free_list v.diskpage
    refine ⟨P.upd v.page fun p => { p with migrating := false, swapped_out := true }, fun vs => ?_,
      ?_, ?_, fun i hiv hid => ?_⟩
    · have h₁ := run_enqueue_fifo (s := s) (q := .disk_active_list) hlv
      have h₂ := run_enqueue_fifo (q := .dram_free_list) (i := v.diskpage)
        (s := { s with pol := (s.pol.enq .disk_active_list v.page).upd v.diskpage fun p =>
          { p with virtual_offset := v.old_offset, in_dram := true, present := false } })
        (by simp [Policy.enq_page_ne, hne.symm, hld])
      simp [vector_track, hres, hpres, h₁, h₂, P, Policy.upd_page_ne, Policy.enq_page_ne, hne,
        hmig, hsw]
    · simp [P, Policy.upd_page_ne, Policy.enq_page_ne, hne, UserPage.batch_evicted, hres, hvr]
    · simp [P, Policy.upd_page_ne, Policy.enq_page_ne, hne.symm, UserPage.batch_frame, hdf, hdr]
    · simp [P, Policy.upd_page_ne, Policy.enq_page_ne, hiv, hid]
  · -- a reserve: the two structs are taken apart first, and the frame is linked before the victim
    let P := (((s.pol.upd v.diskpage fun p =>
      { p with
        virtual_offset := v.old_offset, in_dram := true, present := false
        has_reserve := false, reserve := none }).upd v.page fun p =>
          { p with has_reserve := false, reserve := none }).enq .dram_free_list v.diskpage).enq
        .disk_active_list v.page
    refine ⟨P.upd v.page fun p => { p with migrating := false, swapped_out := true }, fun vs => ?_,
      ?_, ?_, fun i hiv hid => ?_⟩
    · let Q := (s.pol.upd v.diskpage fun p =>
        { p with
          virtual_offset := v.old_offset, in_dram := true, present := false
          has_reserve := false, reserve := none }).upd v.page fun p =>
            { p with has_reserve := false, reserve := none }
      have h₁ := run_enqueue_fifo (q := .dram_free_list) (i := v.diskpage)
        (s := { s with pol := Q }) (by simp [Q, Policy.upd_page_ne, hne.symm, hld])
      have h₂ := run_enqueue_fifo (q := .disk_active_list) (i := v.page)
        (s := { s with pol := Q.enq .dram_free_list v.diskpage })
        (by simp [Q, Policy.upd_page_ne, Policy.enq_page_ne, hne, hlv])
      simp only [Q] at h₁ h₂
      simp [vector_track, hres, h₁, h₂, P, Policy.upd_page_ne, Policy.enq_page_ne, hne, hmig, hsw]
    · simp [P, Policy.upd_page_ne, Policy.enq_page_ne, hne, UserPage.batch_evicted]
    · simp [P, Policy.upd_page_ne, Policy.enq_page_ne, hne.symm, UserPage.batch_frame]
    · simp [P, Policy.upd_page_ne, Policy.enq_page_ne, hiv, hid]

theorem page_mem_structs {v : Victim} {vs : List Victim} (h : v ∈ vs) : v.page ∈ structs vs :=
  List.mem_flatMap.2 ⟨v, h, by simp⟩

theorem diskpage_mem_structs {v : Victim} {vs : List Victim} (h : v ∈ vs) :
    v.diskpage ∈ structs vs :=
  List.mem_flatMap.2 ⟨v, h, by simp⟩

/-- The last loop. -/
theorem run_vector_track {vs : List Victim} {s : State α} (hnd : (structs vs).Nodup)
    (h : ∀ v ∈ vs, Trackable s.pol v) :
    ∃ P, (vector_track vs).run s = .ok ((), { s with pol := P }) ∧ Batched s.pol P vs := by
  induction vs generalizing s with
  | nil => exact ⟨s.pol, rfl, fun _ hv => (nomatch hv), fun _ hv => (nomatch hv), fun _ _ => rfl⟩
  | cons v vs ih =>
      have hcons : structs (v :: vs) = v.page :: v.diskpage :: structs vs := by simp [structs]
      rw [hcons, List.nodup_cons, List.nodup_cons, List.mem_cons, not_or] at hnd
      obtain ⟨⟨hne, hv⟩, hd, hnd⟩ := hnd
      obtain ⟨P₁, hrun₁, hpv, hpd, hoth⟩ := run_vector_track_cons hne (h v (by simp))
      -- the structs of the other victims are not touched
      have hkeep : ∀ i ∈ structs vs, P₁.page i = s.pol.page i := fun i hi =>
        hoth i (fun he => hv (he ▸ hi)) (fun he => hd (he ▸ hi))
      have htrack : ∀ u ∈ vs, Trackable P₁ u := by
        intro u hu
        have hu' := h u (List.mem_cons_of_mem v hu)
        constructor <;>
          simp only [hkeep _ (page_mem_structs hu), hkeep _ (diskpage_mem_structs hu)]
        exacts [hu'.victim_loose, hu'.slot_loose, hu'.migrating, hu'.swapped_out, hu'.present,
          hu'.unlinked]
      obtain ⟨P, hrun, hb⟩ := ih (s := { s with pol := P₁ }) hnd htrack
      refine ⟨P, (hrun₁ vs).trans hrun, fun u hu => ?_, fun u hu => ?_, fun i hi => ?_⟩
      · rcases List.mem_cons.1 hu with rfl | hu
        · rw [hb.others _ hv, hpv]
        · rw [hb.victim u hu, hkeep _ (page_mem_structs hu)]
      · rcases List.mem_cons.1 hu with rfl | hu
        · rw [hb.others _ hd, hpd]
        · rw [hb.frame u hu, hkeep _ (diskpage_mem_structs hu)]
      · rw [hcons, List.mem_cons, List.mem_cons, not_or, not_or] at hi
        rw [hb.others i hi.2.2, hoth i hi.1 hi.2.1]

/-! ## The batch -/

theorem structs_nodup {vs : List Victim} (hp : (vs.map Victim.page).Nodup)
    (hd : (vs.map Victim.diskpage).Nodup)
    (hne : ∀ v ∈ vs, ∀ w ∈ vs, v.page ≠ w.diskpage) : (structs vs).Nodup := by
  induction vs with
  | nil => exact List.nodup_nil
  | cons v vs ih =>
      have hcons : structs (v :: vs) = v.page :: v.diskpage :: structs vs := by simp [structs]
      rw [List.map_cons, List.nodup_cons] at hp hd
      have hstep : ∀ i, i ∈ structs vs → ∃ w ∈ vs, i = w.page ∨ i = w.diskpage := by
        intro i hi
        simpa [structs] using hi
      rw [hcons, List.nodup_cons, List.nodup_cons, List.mem_cons, not_or]
      refine ⟨⟨hne v (by simp) v (by simp), fun hm => ?_⟩, fun hm => ?_, ih hp.2 hd.2 fun u hu w hw =>
        hne u (List.mem_cons_of_mem v hu) w (List.mem_cons_of_mem v hw)⟩
      · obtain ⟨w, hw, he | he⟩ := hstep _ hm
        · exact hp.1 (he ▸ List.mem_map_of_mem hw)
        · exact hne v (by simp) w (List.mem_cons_of_mem v hw) he
      · obtain ⟨w, hw, he | he⟩ := hstep _ hm
        · exact hne w (List.mem_cons_of_mem v hw) v (by simp) he.symm
        · exact hd.1 (he ▸ List.mem_map_of_mem hw)

/-- The victims after the first loop are ready for the second. -/
theorem Inv.slotsReady {P P₁ P₂ : Policy} {ids : List PageId} (h : Inv P₁)
    (hres : ∀ v ∈ ids, v < P₁.npages ∧ (P₁.page v).role = .resident)
    (h₁ : Phase ids (fun p => { p with list := none }) P P₁) (hlists : P₂.lists = P₁.lists)
    (h₂ : Phase ids (fun p => { p with migrating := true }) P₁ P₂) : SlotsReady P₂ ids := by
  have hlist : ∀ i, (P₂.page i).list = (P₁.page i).list := by
    intro i
    by_cases hi : i ∈ ids
    · rw [h₂.page i hi]
    · rw [h₂.others i hi]
  refine ⟨?_, fun v hv => ?_, fun v hv => ?_, fun v hv d hd => ?_, fun i hi => ?_⟩
  · rw [Policy.WellLinked, hlists]
    exact Linked.congr h.linked hlist
  · rw [hlist, h₁.page v hv]
  · rw [h₂.page v hv]
    exact (h.struct v (hres v hv).1).reserve_flag
  · rw [h₂.page v hv] at hd
    have hslot := h.reserveOf_resident (hres v hv).1 (hres v hv).2 hd
    have hdids : d ∉ ids := fun hm => hslot.ne_of_role (by rw [(hres d hm).2]; decide) rfl
    rw [h₂.others d hdids]
    exact ⟨hslot.back, hslot.listed⟩
  · rw [hlist] at hi
    have hpres := (h.struct i (h.bounded i hi)).present
    by_cases hm : i ∈ ids
    · rw [h₂.page i hm]
      exact hpres
    · rw [h₂.others i hm]
      exact hpres

/-- The structs of a batch before the last loop. -/
structure Prepared (P P' : Policy) (vs : List Victim) : Prop where
  victim : ∀ v ∈ vs, P'.page v.page =
    { P.page v.page with swapped_out := true, migrating := true, list := none }
  slot : ∀ v ∈ vs, P'.page v.diskpage = { P.page v.diskpage with list := none }
  others : ∀ i, i ∉ structs vs → P'.page i = P.page i

theorem Prepared.trackable {P P' : Policy} {vs : List Victim} (h : Inv P) (hp : Prepared P P' vs)
    (hslot : ∀ v ∈ vs, v.page < P.npages ∧ v.diskpage < P.npages ∧
      EvictSlot P v.page v.diskpage) : ∀ v ∈ vs, Trackable P' v := by
  intro v hv
  obtain ⟨hvlt, hdlt, hs⟩ := hslot v hv
  constructor <;> simp only [hp.victim v hv, hp.slot v hv]
  · exact (h.struct _ hdlt).present
  · intro hflag
    rcases hs with hs | ⟨hs, hrole⟩
    · rw [(h.struct _ hvlt).reserve_flag, hs] at hflag
      cases hflag
    · have hdr := h.reserve_eq_none hdlt (by rw [hrole]; decide) (by rw [hrole]; decide)
      exact ⟨hs, h.has_reserve_eq_false hdlt hdr, hdr⟩

theorem Prepared.batched {P P' P'' : Policy} {vs : List Victim} (hp : Prepared P P' vs)
    (hb : Batched P' P'' vs) : Batched P P'' vs := by
  refine ⟨fun v hv => ?_, fun v hv => ?_, fun i hi => ?_⟩
  · rw [hb.victim v hv, hp.victim v hv]
    rfl
  · rw [hb.frame v hv, hp.slot v hv]
    rfl
  · rw [hb.others i hi, hp.others i hi]

/-- The loops before the last one, composed. -/
theorem Slotted.prepared {P P₁ P₂ P₃ P₄ : Policy} {vs ws : List Victim} {ids : List PageId}
    (hids : ws.map Victim.page = ids) (hd : ∀ w ∈ ws, w.diskpage ∉ ids)
    (h₁ : Phase ids (fun p => { p with list := none }) P P₁)
    (h₂ : Phase ids (fun p => { p with migrating := true }) P₁ P₂) (h₃ : Slotted P₂ P₃ vs ws)
    (h₄ : Phase ids (fun p => { p with swapped_out := true }) P₃ P₄) : Prepared P P₄ ws := by
  have hp : ∀ w ∈ ws, w.page ∈ ids := fun w hw => hids ▸ List.mem_map_of_mem hw
  have hdp : ∀ i ∈ ids, i ∉ ws.map Victim.diskpage := by
    intro i hi hm
    obtain ⟨w, hw, rfl⟩ := List.mem_map.1 hm
    exact hd w hw hi
  refine ⟨fun w hw => ?_, fun w hw => ?_, fun i hi => ?_⟩
  · rw [h₄.page _ (hp w hw), h₃.phase.others _ (hdp _ (hp w hw)), h₂.page _ (hp w hw),
      h₁.page _ (hp w hw)]
  · rw [h₄.others _ (hd w hw), h₃.phase.page _ (List.mem_map_of_mem hw), h₂.others _ (hd w hw),
      h₁.others _ (hd w hw)]
  · have hi₁ : i ∉ ids := by
      rw [← hids]
      intro hm
      obtain ⟨w, hw, rfl⟩ := List.mem_map.1 hm
      exact hi (page_mem_structs hw)
    have hi₂ : i ∉ ws.map Victim.diskpage := by
      intro hm
      obtain ⟨w, hw, rfl⟩ := List.mem_map.1 hm
      exact hi (diskpage_mem_structs hw)
    rw [h₄.others i hi₁, h₃.phase.others i hi₂, h₂.others i hi₁, h₁.others i hi₁]

/-- **The batch.** From a state that satisfies the invariant no assertion fails, and every
victim of the batch gets a slot of its own and ends as `batch_evicted`. -/
theorem lrudisk_evictionworker_vector_ends {s : State α} (h : Inv s.pol) :
    Ends (lrudisk_evictionworker_vector.run s)
      (fun _ s' => ∃ vs : List Victim,
        vs.map Victim.page = (s.pol.lists .eviction_list).take EVICT_VECTOR_SIZE ∧
        (structs vs).Nodup ∧
        (∀ v ∈ vs, v.old_offset = (s.pol.page v.page).virtual_offset ∧
          EvictSlot s.pol v.page v.diskpage) ∧
        Batched s.pol s'.pol vs) Resource := by
  set ids := (s.pol.lists .eviction_list).take EVICT_VECTOR_SIZE with hids
  have hnd : ids.Nodup := (h.linked.nodup _).sublist (List.take_sublist _ _)
  obtain ⟨P₁, hrun₁, hinv₁, hfix₁, hph₁⟩ := run_dequeue_fifo_vector EVICT_VECTOR_SIZE h
  have hres : ∀ v ∈ ids, v < s.pol.npages ∧ (s.pol.page v).role = .resident := by
    intro v hv
    have hl := h.list_of_mem (List.mem_of_mem_take hv)
    exact ⟨h.lt_of_list hl, h.role_of_list hl rfl⟩
  have hres₁ : ∀ v ∈ ids, v < P₁.npages ∧ (P₁.page v).role = .resident := by
    intro v hv
    rw [hfix₁.npages, hph₁.page v hv]
    exact hres v hv
  rw [lrudisk_evictionworker_vector, run_bind_ok hrun₁]
  refine Ends.bind ((vector_prepare_ends (s := { s with pol := P₁ }) hnd fun v hv =>
    ⟨(UserPage.role_resident.1 (hres₁ v hv).2).2, (hinv₁.struct v (hres₁ v hv).1).aligned⟩).mono
    (fun _ _ hQ => hQ) fun _ he => he.elim) ?_
  rintro vs s₂ ⟨hvs, hold, hlists, hph₂⟩
  refine Ends.bind ((vector_diskpages_ends (hvs ▸ hnd)
    (hvs ▸ hinv₁.slotsReady hres₁ hph₁ hlists hph₂)).mono (fun _ _ hQ => hQ)
    fun _ he => he ▸ trivial) ?_
  intro ws s₃ hws
  have hwids : ws.map Victim.page = ids := hws.page.trans hvs
  have hp : ∀ w ∈ ws, w.page ∈ ids := fun w hw => hwids ▸ List.mem_map_of_mem hw
  -- a slot was on a list, a victim is on none
  have hd : ∀ w ∈ ws, w.diskpage ∉ ids := fun w hw hm =>
    (hws.slot w hw).1 ((hinv₁.slotsReady hres₁ hph₁ hlists hph₂).loose _ hm)
  have hd₂ : ∀ w ∈ ws, s₂.pol.page w.diskpage = s.pol.page w.diskpage := fun w hw => by
    rw [hph₂.others _ (hd w hw), hph₁.others _ (hd w hw)]
  have hp₂ : ∀ i ∈ ids, s₂.pol.page i =
      { s.pol.page i with migrating := true, list := none } := fun i hi => by
    rw [hph₂.page i hi, hph₁.page i hi]
  have hp₃ : ∀ w ∈ ws, s₃.pol.page w.page = s₂.pol.page w.page := by
    intro w hw
    refine hws.phase.others _ fun hm => ?_
    obtain ⟨u, hu, he⟩ := List.mem_map.1 hm
    exact hd u hu (he ▸ hp w hw)
  have hslot : ∀ w ∈ ws, w.page < s.pol.npages ∧ w.diskpage < s.pol.npages ∧
      EvictSlot s.pol w.page w.diskpage := by
    intro w hw
    have hs := hws.slot w hw
    rw [hd₂ w hw, hp₂ _ (hp w hw)] at hs
    refine ⟨(hres _ (hp w hw)).1, h.bounded _ hs.1, hs.2.imp_right fun hs => ⟨hs.1, ?_⟩⟩
    exact h.role_of_list hs.2 rfl
  refine Ends.bind (extmem_migrate_downdisk_vector_ends (hwids ▸ hnd) fun w hw => ?_) ?_
  · rw [hp₃ w hw, hp₂ _ (hp w hw)]
    obtain ⟨hlt, hrole⟩ := hres _ (hp w hw)
    exact ⟨(UserPage.role_resident.1 hrole).1, (h.struct _ hlt).not_swapped hrole, rfl⟩
  · intro _ s₄ hph₄
    have hprep := hws.prepared hwids hd hph₁ hph₂ (hwids ▸ hph₄)
    have hstructs : (structs ws).Nodup := structs_nodup (hwids ▸ hnd) hws.nodup
      fun v hv w hw he => hd w hw (he ▸ hp v hv)
    obtain ⟨P, hrun, hb⟩ := run_vector_track hstructs (hprep.trackable h hslot)
    refine Ends.of_eq hrun ⟨ws, hwids, hstructs, fun w hw => ⟨?_, (hslot w hw).2.2⟩,
      hprep.batched hb⟩
    obtain ⟨v, hv, hpage, ho⟩ := hws.old_offset w hw
    rw [← ho, hold v hv, hpage, hph₁.page _ (hp w hw)]

/-- A batch leaves two owners of every frame it frees: the victim, which still carries its
offset, and the struct that is on `dram_free_list` with it. -/
theorem vector_eviction_duplicates_frame {s : State α} (h : Inv s.pol) :
    Ends (lrudisk_evictionworker_vector.run s) (fun _ s' =>
      ∀ v ∈ (s.pol.lists .eviction_list).take EVICT_VECTOR_SIZE, ∃ d, d ≠ v ∧
        (s'.pol.page d).list = some .dram_free_list ∧
        (s'.pol.page v).list = some .disk_active_list ∧
        (s'.pol.page d).place = (s'.pol.page v).place) Resource := by
  refine (lrudisk_evictionworker_vector_ends h).mono ?_ fun _ he => he
  rintro _ s' ⟨vs, hvs, hnd, hslot, hb⟩ v hv
  have hr := h.role_of_list (h.list_of_mem (List.mem_of_mem_take hv)) rfl
  rw [← hvs] at hv
  obtain ⟨w, hw, rfl⟩ := List.mem_map.1 hv
  refine ⟨w.diskpage, fun he => ?_, ?_, ?_, ?_⟩
  · have hpair := (List.nodup_flatMap.1 hnd).1 w hw
    simp [he] at hpair
  · rw [hb.frame w hw]
    rfl
  · rw [hb.victim w hw]
    rfl
  · rw [hb.victim w hw, hb.frame w hw]
    simp [UserPage.place, UserPage.batch_evicted, UserPage.batch_frame, (hslot w hw).1,
      (UserPage.role_resident.1 hr).1]

/-! ## Against one-by-one eviction -/

/-- Two states that the two workers are meant to leave alike: the store, the fields of every
struct, and the members of every list. -/
structure SameOutcome (s s' : State α) : Prop where
  store : s.mem.store = s'.mem.store
  page : ∀ i, (s.pol.page i).virtual_offset = (s'.pol.page i).virtual_offset ∧
    (s.pol.page i).in_dram = (s'.pol.page i).in_dram ∧
    (s.pol.page i).swapped_out = (s'.pol.page i).swapped_out ∧
    (s.pol.page i).migrating = (s'.pol.page i).migrating ∧
    (s.pol.page i).has_reserve = (s'.pol.page i).has_reserve ∧
    (s.pol.page i).reserve = (s'.pol.page i).reserve
  lists : ∀ l i, i ∈ s.pol.lists l ↔ i ∈ s'.pol.lists l

/-- `n` iterations of `lrudisk_evictionworker`. -/
def evictionworker_iterations (n : ℕ) : Proc α Unit :=
  Prog.runs (List.replicate n lrudisk_evictionworker)

/-- Further iterations do not touch a page that is evicted. -/
theorem evictionworker_iterations_ends (n : ℕ) {s : State α} (h : Inv s.pol) {v : PageId}
    (hl : (s.pol.page v).list = some .disk_active_list) :
    Ends ((evictionworker_iterations n).run s) (fun _ s' => s'.pol.page v = s.pol.page v)
      Resource := by
  have hsat : Sat (fun t : State α => Inv t.pol ∧ t.pol.page v = s.pol.page v)
      (evictionworker_iterations n) (fun _ t => Inv t.pol ∧ t.pol.page v = s.pol.page v)
      Resource := by
    refine Sat.runs _ fun m hm t ht => ?_
    rw [List.eq_of_mem_replicate hm]
    refine (lrudisk_evictionworker_ends ht.1).mono (fun _ t' ht' => ⟨ht'.inv, ?_⟩) fun _ he => he.1
    rw [ht'.step.evicted v (by rw [ht.2]; exact hl), ht.2]
  exact (hsat s ⟨h, rfl⟩).mono (fun _ _ ht => ht.2) fun _ he => he

/-- One-by-one eviction clears `in_dram` of the oldest victim. -/
theorem evictionworker_iterations_head {n : ℕ} {s : State α} (h : Inv s.pol) {v : PageId}
    {rest : List PageId} (hq : s.pol.lists .eviction_list = v :: rest) :
    Ends ((evictionworker_iterations (n + 1)).run s) (fun _ s' => (s'.pol.page v).in_dram = false)
      Resource := by
  have hl : (s.pol.page v).list = some .eviction_list := h.list_of_mem (by simp [hq])
  have hr := h.role_of_list hl rfl
  have hfirst : Ends (lrudisk_evictionworker.run s) (fun _ s' => Inv s'.pol ∧
      (s'.pol.page v).in_dram = false ∧ (s'.pol.page v).list = some .disk_active_list)
      Resource := by
    rw [lrudisk_evictionworker, run_bind_ok (run_dequeue_fifo_cons hq)]
    refine Ends.mono (evict_victim_ends (h.unlink hl (by rw [hr]; decide)) (h.lt_of_list hl)
      (by rw [Policy.unlink_page_self]; exact hr) (by simp)) ?_ fun _ he => he.1
    rintro _ s' ⟨d, e⟩
    refine ⟨(e.step h hl (Or.inr rfl)).1, ?_, ?_⟩ <;> rw [e.pol.page_v]
  refine Ends.bind hfirst fun _ s₁ hs₁ => ?_
  refine (evictionworker_iterations_ends n hs₁.1 hs₁.2.2).mono (fun _ s' hs' => ?_) fun _ he => he
  rw [hs']
  exact hs₁.2.1

/-- **Batched eviction never agrees with one-by-one eviction.** From every state that
satisfies the invariant, with `n ≥ 1` victims in the batch, one iteration of the vector
worker and `n` iterations of the scalar worker do not end in the same state. -/
theorem vector_eviction_never_agrees {s : State α} (h : Inv s.pol) {n : ℕ}
    (hn : n = ((s.pol.lists .eviction_list).take EVICT_VECTOR_SIZE).length) (hpos : 1 ≤ n) :
    ¬ ∃ s₁ s₂, lrudisk_evictionworker_vector.run s = .ok ((), s₁) ∧
      (evictionworker_iterations n).run s = .ok ((), s₂) ∧ SameOutcome s₁ s₂ := by
  rintro ⟨s₁, s₂, hvector, hscalar, hsame⟩
  rcases hq : s.pol.lists .eviction_list with _ | ⟨v, rest⟩
  · rw [hn, hq] at hpos
    simp at hpos
  · obtain ⟨n, rfl⟩ := Nat.exists_eq_add_of_le' hpos
    have hscalar' := (evictionworker_iterations_head h hq).of_ok hscalar
    obtain ⟨vs, hvs, _, _, hb⟩ := (lrudisk_evictionworker_vector_ends h).of_ok hvector
    have hv : v ∈ vs.map Victim.page := by
      rw [hvs, hq]
      simp [EVICT_VECTOR_SIZE]
    obtain ⟨w, hw, rfl⟩ := List.mem_map.1 hv
    have hr := h.role_of_list (h.list_of_mem (l := .eviction_list) (i := w.page) (by simp [hq])) rfl
    have hin := (hsame.page w.page).2.1
    rw [hscalar', hb.victim w hw] at hin
    exact absurd ((UserPage.role_resident.1 hr).1.symm.trans hin) (by decide)

/-- One page, mapped and found cold: the batch has one victim. -/
def oneVictim : Run ℕ := [(1, .fault 4096 false 0), (1, .shrink_inactive 1)]

/-- Both workers return from the state that `oneVictim` reaches. -/
theorem oneVictim_evaluates : passes (fun s =>
    decide (s.pol.lists .eviction_list = [0]) &&
      (passes (fun t => (t.pol.page 0).in_dram) (lrudisk_evictionworker_vector.run s) &&
        passes (fun t => !(t.pol.page 0).in_dram) ((evictionworker_iterations 1).run s)))
    ((do lrudisk_init; Run.exec oneVictim : Proc ℕ Unit).run (State.blank 4096 8192 0 {}))
      = true := by decide +kernel

theorem vector_eviction_disagrees_oneVictim :
    ∃ s s₁ s₂ : State ℕ, Reaches 4096 8192 0 {} oneVictim s ∧ Inv s.pol ∧
      s.pol.lists .eviction_list = [0] ∧ lrudisk_evictionworker_vector.run s = .ok ((), s₁) ∧
      (evictionworker_iterations 1).run s = .ok ((), s₂) ∧ (s₁.pol.page 0).in_dram = true ∧
      (s₂.pol.page 0).in_dram = false ∧ ¬ SameOutcome s₁ s₂ := by
  obtain ⟨⟨⟩, s, hs, ht⟩ := of_passes oneVictim_evaluates
  rw [Bool.and_eq_true, Bool.and_eq_true, decide_eq_true_eq] at ht
  obtain ⟨hq, hv, hsc⟩ := ht
  obtain ⟨⟨⟩, s₁, hs₁, hin₁⟩ := of_passes hv
  obtain ⟨⟨⟩, s₂, hs₂, hin₂⟩ := of_passes hsc
  rw [Bool.not_eq_true'] at hin₂
  have hidle := (Reaches.idle (r := oneVictim) hs).1
  refine ⟨s, s₁, s₂, hs, hidle.inv, hq, hs₁, hs₂, hin₁, hin₂, fun hsame => ?_⟩
  have hin := (hsame.page 0).2.1
  rw [hin₁, hin₂] at hin
  cases hin

theorem vector_eviction_never_agrees_oneVictim :
    ∃ s : State ℕ, Inv s.pol ∧ s.pol.lists .eviction_list = [0] ∧
      ¬ ∃ s₁ s₂, lrudisk_evictionworker_vector.run s = .ok ((), s₁) ∧
        (evictionworker_iterations 1).run s = .ok ((), s₂) ∧ SameOutcome s₁ s₂ := by
  obtain ⟨⟨⟩, s, hs, ht⟩ := of_passes oneVictim_evaluates
  rw [Bool.and_eq_true, decide_eq_true_eq] at ht
  have hidle := (Reaches.idle (r := oneVictim) hs).1
  exact ⟨s, hidle.inv, ht.1, vector_eviction_never_agrees hidle.inv (by rw [ht.1]; rfl) le_rfl⟩

end SwapPrefetch
