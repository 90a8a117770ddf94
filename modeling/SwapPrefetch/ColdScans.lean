/-
The reclaim scans of the default policy (`disklinux.c:310-410`, `810-856`).

A scan of the inactive list looks at the oldest page. If its accessed bit is set, the bit is cleared
and the page goes back, or to the active list when it was seen often enough; otherwise it goes to
the eviction list. The application runs between the looks, so nothing is known about the bits that
the scan will read. `examinations` is what it reads: each page with the state in which it is looked
at. Whatever the bits are, every look is one move of `Queues.lean`, and the results about the scans
are those about runs of moves.
-/
import SwapPrefetch.Queues
import SwapPrefetch.Reclaim

set_option autoImplicit false

namespace SwapPrefetch

open Prog

variable {α : Type}

namespace Policy

/-! ## The lists of resident pages -/

/-- The three lists of resident pages. -/
def lru (P : Policy) : Lru.Queues PageId where
  active := P.lists .active_list
  inactive := P.lists .inactive_list
  eviction := P.lists .eviction_list

/-- Move a page from the list `q` to the end of the list `r`. -/
def requeue (P : Policy) (q r : ListId) (i : PageId) (f : UserPage → UserPage) : Policy :=
  ((P.unlink q i).upd i f).enq r i

variable {P : Policy} {q r : ListId} {i j : PageId} {f : UserPage → UserPage} {rest : List PageId}

theorem requeue_page_ne (h : j ≠ i) : (P.requeue q r i f).page j = P.page j := by
  rw [requeue, enq_page_ne _ _ h, upd_page_ne _ _ h, unlink_page_ne _ _ h]

theorem requeue_page_self :
    (P.requeue q r i f).page i = { f { P.page i with list := none } with list := some r } := by
  rw [requeue, enq_page_self, upd_page_self, unlink_page_self]

theorem requeue_lists (hq : P.lists q = i :: rest) (l : ListId) :
    (P.requeue q r i f).lists l =
      (if l = q then rest else P.lists l) ++ if l = r then [i] else [] := by
  have hunlink : ((P.unlink q i).upd i f).lists l = if l = q then rest else P.lists l := by
    rw [upd_lists]
    split
    · next h => rw [h, unlink_lists_self, hq, List.erase_cons_head]
    · next h => rw [unlink_lists_ne _ _ h]
  rw [requeue, ← hunlink]
  split
  · next h => rw [h, enq_lists_self]
  · next h => rw [enq_lists_ne _ _ h, List.append_nil]

theorem requeue_lru_keep (hq : P.lists .inactive_list = i :: rest) : Lru.Step P.lru (.keep i)
    (P.requeue .inactive_list .inactive_list i f).lru := by
  simp only [lru, requeue_lists hq, hq, if_true, reduceCtorEq, if_false, List.append_nil]
  exact .keep ..

theorem requeue_lru_promote (hq : P.lists .inactive_list = i :: rest) : Lru.Step P.lru (.promote i)
    (P.requeue .inactive_list .active_list i f).lru := by
  simp only [lru, requeue_lists hq, hq, if_true, reduceCtorEq, if_false, List.append_nil]
  exact .promote ..

theorem requeue_lru_evict (hq : P.lists .inactive_list = i :: rest) : Lru.Step P.lru (.evict i)
    (P.requeue .inactive_list .eviction_list i f).lru := by
  simp only [lru, requeue_lists hq, hq, if_true, reduceCtorEq, if_false, List.append_nil]
  exact .evict ..

theorem requeue_lru_demote (hq : P.lists .active_list = i :: rest) : Lru.Step P.lru (.demote i)
    (P.requeue .active_list .inactive_list i f).lru := by
  simp only [lru, requeue_lists hq, hq, if_true, reduceCtorEq, if_false, List.append_nil]
  exact .demote ..

theorem WellLinked.requeue (h : P.WellLinked) (hq : P.lists q = i :: rest)
    (hf : ∀ p, (f p).list = p.list) : (P.requeue q r i f).WellLinked := by
  have hi : (P.page i).list = some q :=
    (h.mem_iff q i).1 (by rw [hq]; exact List.mem_cons_self)
  refine WellLinked.enq (WellLinked.upd (h.unlink hi) (hf _)) ?_
  rw [upd_page_self, hf, unlink_page_self]

/-- A struct is on one list at most, and once. -/
theorem WellLinked.lru_nodup (h : P.WellLinked) : P.lru.all.Nodup := by
  have hdisjoint : ∀ {l l' : ListId}, l ≠ l' → List.Disjoint (P.lists l) (P.lists l') :=
    fun hne _ hl hl' => hne (h.unique hl hl')
  refine ((h.nodup _).append (h.nodup _) (hdisjoint (by decide))).append (h.nodup _) ?_
  rw [List.disjoint_append_left]
  exact ⟨hdisjoint (by decide), hdisjoint (by decide)⟩

end Policy

/-- **The list invariant of a scan.** The `list` fields agree with the lists, and the addresses
that are looked up in the page table are those of pages. -/
structure Listed (P : Policy) : Prop where
  linked : P.WellLinked
  aligned : ∀ i ∈ P.lists .active_list ++ P.lists .inactive_list, (P.page i).va % PAGE_SIZE = 0

theorem Inv.listed {P : Policy} (h : Inv P) : Listed P := by
  refine ⟨h.linked, fun i hi => ?_⟩
  rcases List.mem_append.1 hi with hi | hi
  · exact (h.struct i (h.lt_of_list (h.list_of_mem hi))).aligned
  · exact (h.struct i (h.lt_of_list (h.list_of_mem hi))).aligned

theorem Listed.requeue {P : Policy} {q r : ListId} {i : PageId} {f : UserPage → UserPage}
    {rest : List PageId} (h : Listed P) (hq : P.lists q = i :: rest)
    (hscan : q = .active_list ∨ q = .inactive_list)
    (hf : ∀ p, (f p).list = p.list ∧ (f p).va = p.va) : Listed (P.requeue q r i f) := by
  refine ⟨h.linked.requeue hq fun p => (hf p).1, fun j hj => ?_⟩
  have hi : (P.page i).va % PAGE_SIZE = 0 := by
    refine h.aligned i (List.mem_append.2 ?_)
    rcases hscan with rfl | rfl
    · exact Or.inl (by rw [hq]; exact List.mem_cons_self)
    · exact Or.inr (by rw [hq]; exact List.mem_cons_self)
  rcases eq_or_ne j i with rfl | hne
  · rw [Policy.requeue_page_self]
    show (f _).va % PAGE_SIZE = 0
    rw [(hf _).2]
    exact hi
  · rw [Policy.requeue_page_ne hne]
    -- another struct is on a list it was on before
    have hold : ∀ l, j ∈ (P.requeue q r i f).lists l → j ∈ P.lists l := by
      intro l hl
      rw [Policy.requeue_lists hq] at hl
      rcases List.mem_append.1 hl with hl | hl
      · split at hl
        · next h => rw [h, hq]; exact List.mem_cons_of_mem _ hl
        · exact hl
      · split at hl
        · exact absurd (List.mem_singleton.1 hl) hne
        · exact absurd hl List.not_mem_nil
    refine h.aligned j (List.mem_append.2 ?_)
    exact (List.mem_append.1 hj).imp (hold _) (hold _)

/-! ## Looks -/

/-- A page that a scan looks at, taken off its list, and the state in which it does. -/
structure Exam (α : Type) where
  page : PageId
  state : State α

namespace Exam

variable (e : Exam α)

/-- The accessed bit that `pt_get_bits` reads. -/
def accessed : Bool := (e.state.mem.app_turn.bits (e.state.pol.page e.page).va).1

/-- The count before the look. -/
def naccesses : ℕ := (e.state.pol.page e.page).naccesses

/-- The accessed bit was set and has raised the count above one. -/
def promotes : Bool := e.accessed && decide (1 < (e.naccesses + 1) % 2 ^ 64)

/-- Where the page goes. -/
def move : Lru.Move PageId :=
  if e.accessed then if e.promotes then .promote e.page else .keep e.page else .evict e.page

theorem move_page : e.move.page = e.page := by
  unfold move
  split
  · split
    · rfl
    · rfl
  · rfl

theorem move_victim : e.move.victim = if !e.accessed then some e.page else none := by
  unfold move
  cases e.accessed
  · rfl
  · cases e.promotes
    · rfl
    · rfl

theorem move_promoted : e.move.promoted = if e.promotes then some e.page else none := by
  unfold move
  rcases hp : e.promotes with _ | _
  · cases e.accessed
    · rfl
    · rfl
  · have ha : e.accessed = true := (Bool.and_eq_true_iff.1 hp).1
    rw [ha]
    rfl

theorem move_eq_evict {i : PageId} (h : e.move = .evict i) : e.page = i ∧ e.accessed = false := by
  have hv := e.move_victim
  rw [h] at hv
  cases ha : e.accessed with
  | false =>
      rw [ha] at hv
      exact ⟨(Option.some.inj hv).symm, rfl⟩
  | true =>
      rw [ha] at hv
      cases hv

theorem move_examines : e.move.examines = true := by
  unfold move
  split
  · split
    · rfl
    · rfl
  · rfl

end Exam

/-- The pages that were found cold, in this order. -/
def cold (t : List (Exam α)) : List PageId := (t.filter fun e => !e.accessed).map Exam.page

/-- The pages that were seen often enough, in this order. -/
def promoted (t : List (Exam α)) : List PageId := (t.filter Exam.promotes).map Exam.page

theorem cold_append (t t' : List (Exam α)) : cold (t ++ t') = cold t ++ cold t' := by
  rw [cold, List.filter_append, List.map_append]
  rfl

theorem length_cold_cons (e : Exam α) (t : List (Exam α)) :
    (cold (e :: t)).length = (cold t).length + if (!e.accessed) = true then 1 else 0 := by
  rw [cold, List.filter_cons]
  split
  · rfl
  · rfl

theorem filterMap_victim (t : List (Exam α)) :
    (t.map Exam.move).filterMap Lru.Move.victim = cold t := by
  rw [List.filterMap_map, cold, ← List.filterMap_eq_map, List.filterMap_filter]
  exact List.filterMap_congr fun e _ => e.move_victim

theorem filterMap_promoted (t : List (Exam α)) :
    (t.map Exam.move).filterMap Lru.Move.promoted = promoted t := by
  rw [List.filterMap_map, promoted, ← List.filterMap_eq_map, List.filterMap_filter]
  exact List.filterMap_congr fun e _ => e.move_promoted

/-- **The looks of a scan** of the inactive list whose loop has the body `body`; the arguments are
those of the loop. -/
def examinations (body : PageId → Proc α Bool) (nr_pages : ℕ) : ℕ → ℕ → State α → List (Exam α)
  | 0, _, _ => []
  | left + 1, ret, s =>
      if ret < nr_pages then
        match s.pol.lists .inactive_list with
        | [] => []
        | page :: _ =>
            let s := { s with pol := s.pol.unlink .inactive_list page }
            ⟨page, s⟩ ::
              match (body page).run s with
              | .ok (cold, s) => examinations body nr_pages left (if cold then ret + 1 else ret) s
              | .error _ => []
      else []

theorem examinations_cons {body : PageId → Proc α Bool} {nr_pages left ret : ℕ} {s s' : State α}
    {i : PageId} {rest : List PageId} {cold : Bool} (hret : ret < nr_pages)
    (hq : s.pol.lists .inactive_list = i :: rest)
    (hbody : (body i).run { s with pol := s.pol.unlink .inactive_list i } = .ok (cold, s')) :
    examinations body nr_pages (left + 1) ret s =
      ⟨i, { s with pol := s.pol.unlink .inactive_list i }⟩ ::
        examinations body nr_pages left (if cold then ret + 1 else ret) s' := by
  rw [examinations, if_pos hret, hq]
  simp only [hbody]

theorem examinations_stop {body : PageId → Proc α Bool} {nr_pages left ret : ℕ} {s : State α}
    (h : ¬ (ret < nr_pages ∧ s.pol.lists .inactive_list ≠ [])) :
    examinations body nr_pages left ret s = [] := by
  cases left with
  | zero => rfl
  | succ left =>
      rw [examinations]
      split
      · next hret =>
          rcases hq : s.pol.lists .inactive_list with _ | ⟨i, rest⟩
          · rfl
          · exact absurd ⟨hret, by rw [hq]; exact List.cons_ne_nil i rest⟩ h
      · rfl

/-- The looks of `shrink_inactive_list`. -/
def inactive_examinations (nr_pages : ℕ) (s : State α) : List (Exam α) :=
  let entries := (s.pol.lists .inactive_list).length
  let nr_pages := if nr_pages = 0 ∨ entries < nr_pages then entries else nr_pages
  examinations shrink_inactive_page nr_pages (nr_pages * 100) 0
    { s with pol := { s.pol with shrinkage_running := true } }

/-- The looks of the loop of `direct_allocate_page_asynch`. -/
def direct_examinations (nr_pages to_scan_active to_scan_inactive : ℕ) :
    ℕ → ℕ → ℕ → ℕ → State α → List (Exam α)
  | 0, _, _, _, _ => []
  | rounds + 1, nr_scanned_active, nr_scanned_inactive, reclaimed, s =>
      if nr_scanned_inactive < to_scan_inactive ∧ reclaimed < nr_pages then
        match (shrink_inactive_list SWAP_CLUSTER_COUNT).run s with
        | .error _ => []
        | .ok (ret, s₁) =>
            inactive_examinations SWAP_CLUSTER_COUNT s ++
              if nr_scanned_active < to_scan_active then
                match (shrink_active_list SWAP_CLUSTER_COUNT).run s₁ with
                | .error _ => []
                | .ok (_, s₂) =>
                    direct_examinations nr_pages to_scan_active to_scan_inactive rounds
                      (nr_scanned_active + SWAP_CLUSTER_COUNT)
                      (nr_scanned_inactive + SWAP_CLUSTER_COUNT) (reclaimed + ret) s₂
              else
                direct_examinations nr_pages to_scan_active to_scan_inactive rounds
                  nr_scanned_active (nr_scanned_inactive + SWAP_CLUSTER_COUNT) (reclaimed + ret) s₁
      else []

/-- **One look.** -/
theorem Listed.examine {s : State α} (h : Listed s.pol) {i : PageId} {rest : List PageId}
    (hq : s.pol.lists .inactive_list = i :: rest) {e : Exam α}
    (he : e = ⟨i, { s with pol := s.pol.unlink .inactive_list i }⟩) :
    ∃ s', (shrink_inactive_page i).run e.state = .ok (!e.accessed, s') ∧ Listed s'.pol ∧
      Lru.Step s.pol.lru e.move s'.pol.lru ∧ (∀ j, j ≠ i → s'.pol.page j = s.pol.page j) ∧
      (e.accessed = false → (s'.pol.page i).naccesses = 0) := by
  have hal := h.aligned i (List.mem_append_right _ (by rw [hq]; exact List.mem_cons_self))
  have hacc : e.accessed = (s.mem.app_turn.bits (s.pol.page i).va).1 := by
    subst he
    simp [Exam.accessed]
  have hcount : e.naccesses = (s.pol.page i).naccesses := by
    subst he
    simp [Exam.naccesses]
  have hstate : e.state = { s with pol := s.pol.unlink .inactive_list i } := by rw [he]
  have hpage : e.page = i := by rw [he]
  have hlisted : ∀ (r : ListId) (f : UserPage → UserPage),
      (∀ p, (f p).list = p.list ∧ (f p).va = p.va) →
        Listed (s.pol.requeue .inactive_list r i f) :=
    fun _ _ hf => h.requeue hq (Or.inr rfl) hf
  rw [hstate]
  -- the bit that was read decides between eviction and the two lists of resident pages
  cases ha : e.accessed with
  | false =>
      have hmove : e.move = .evict i := by simp [Exam.move, ha, hpage]
      refine ⟨⟨s.pol.requeue .inactive_list .eviction_list i fun p => { p with naccesses := 0 },
        s.mem.app_turn⟩, run_shrink_inactive_page_cold hal (hacc.symm.trans ha),
        hlisted _ _ fun _ => ⟨rfl, rfl⟩, ?_, fun j hj => Policy.requeue_page_ne hj, fun _ => ?_⟩
      · rw [hmove]
        exact Policy.requeue_lru_evict hq
      · rw [Policy.requeue_page_self]
  | true =>
      by_cases hhot : 1 < ((s.pol.page i).naccesses + 1) % 2 ^ 64
      · have hmove : e.move = .promote i := by
          simp [Exam.move, Exam.promotes, ha, hpage, hcount, hhot, -Nat.reducePow]
        refine ⟨⟨s.pol.requeue .inactive_list .active_list i fun p => { p with naccesses := 0 },
          s.mem.app_turn.app_turn.clear_accessed (s.pol.page i).va⟩,
          run_shrink_inactive_page_hot hal (hacc.symm.trans ha) hhot,
          hlisted _ _ fun _ => ⟨rfl, rfl⟩, ?_, fun j hj => Policy.requeue_page_ne hj,
          fun hf => absurd hf.symm Bool.false_ne_true⟩
        rw [hmove]
        exact Policy.requeue_lru_promote hq
      · have hmove : e.move = .keep i := by
          simp [Exam.move, Exam.promotes, ha, hpage, hcount, hhot, -Nat.reducePow]
        refine ⟨⟨s.pol.requeue .inactive_list .inactive_list i fun p =>
            { p with naccesses := (p.naccesses + 1) % 2 ^ 64 },
          s.mem.app_turn.app_turn.clear_accessed (s.pol.page i).va⟩,
          run_shrink_inactive_page_warm hal (hacc.symm.trans ha) hhot,
          hlisted _ _ fun _ => ⟨rfl, rfl⟩, ?_, fun j hj => Policy.requeue_page_ne hj,
          fun hf => absurd hf.symm Bool.false_ne_true⟩
        rw [hmove]
        exact Policy.requeue_lru_keep hq

/-! ## Scans -/

/-- **What a scan does** from one state to another: its looks are the moves that it makes with
inactive pages, and the count of a page is zero when it goes to the eviction list. -/
structure ScansTo (s : State α) (t : List (Exam α)) (s' : State α) : Prop where
  listed : Listed s'.pol
  moves : ∃ ms, Lru.Run s.pol.lru ms s'.pol.lru ∧
    ms.filter Lru.Move.examines = t.map Exam.move
  queued : ∀ i ∈ s'.pol.lists .eviction_list,
    i ∈ s.pol.lists .eviction_list ∧ s'.pol.page i = s.pol.page i ∨
      (s'.pol.page i).naccesses = 0

namespace ScansTo

variable {s s₁ s' : State α} {t t' : List (Exam α)}

theorem refl (h : Listed s.pol) : ScansTo s [] s :=
  ⟨h, ⟨[], .nil _, rfl⟩, fun _ hi => Or.inl ⟨hi, rfl⟩⟩

theorem trans (h : ScansTo s t s₁) (h' : ScansTo s₁ t' s') : ScansTo s (t ++ t') s' := by
  obtain ⟨ms, hrun, hms⟩ := h.moves
  obtain ⟨ms', hrun', hms'⟩ := h'.moves
  refine ⟨h'.listed, ⟨ms ++ ms', hrun.append hrun', ?_⟩, fun i hi => ?_⟩
  · rw [List.filter_append, List.map_append, hms, hms']
  · rcases h'.queued i hi with ⟨hi, hsame⟩ | hzero
    · rw [hsame]
      exact h.queued i hi
    · exact Or.inr hzero

theorem running (h : Listed s.pol) (b : Bool) :
    ScansTo s [] { s with pol := { s.pol with shrinkage_running := b } } :=
  ⟨⟨h.linked, h.aligned⟩, ⟨[], .nil _, rfl⟩, fun _ hi => Or.inl ⟨hi, rfl⟩⟩

/-- One move of a page to the end of a list. -/
theorem single {i : PageId} {m : Lru.Move PageId} (hlinked : s.pol.WellLinked)
    (h : Listed s'.pol) (hstep : Lru.Step s.pol.lru m s'.pol.lru) (hpage : m.page = i)
    (hm : [m].filter Lru.Move.examines = t.map Exam.move)
    (hother : ∀ j, j ≠ i → s'.pol.page j = s.pol.page j)
    (hzero : m.victim = some i → (s'.pol.page i).naccesses = 0) : ScansTo s t s' := by
  refine ⟨h, ⟨[m], .cons hstep (.nil _), hm⟩, fun j hj => ?_⟩
  have hev : j ∈ s.pol.lists .eviction_list ++ m.victim.toList := by
    rw [show s.pol.lists .eviction_list = s.pol.lru.eviction from rfl, ← hstep.eviction]
    exact hj
  rcases List.mem_append.1 hev with hj | hj
  · -- a page that was queued before is not the one that is moved
    refine Or.inl ⟨hj, hother j ?_⟩
    rintro rfl
    exact List.disjoint_of_nodup_append hlinked.lru_nodup (hpage ▸ hstep.page_mem) hj
  · have hv : m.victim = some j := Option.mem_toList.1 hj
    have hji : j = i := by
      rw [Lru.Move.victim_eq_some] at hv
      rw [← hpage, hv]
      rfl
    rw [hji] at hv ⊢
    exact Or.inr (hzero hv)

theorem examine (h : Listed s.pol) {i : PageId} {rest : List PageId}
    (hq : s.pol.lists .inactive_list = i :: rest) {e : Exam α}
    (he : e = ⟨i, { s with pol := s.pol.unlink .inactive_list i }⟩) :
    ∃ s', (shrink_inactive_page i).run e.state = .ok (!e.accessed, s') ∧ ScansTo s [e] s' := by
  obtain ⟨s', hrun, hlisted, hstep, hother, hzero⟩ := h.examine hq he
  have hpage : e.page = i := by rw [he]
  refine ⟨s', hrun, single h.linked hlisted hstep (e.move_page.trans hpage) ?_ hother fun hv => ?_⟩
  · rw [List.filter_cons, if_pos e.move_examines]
    rfl
  · rw [Lru.Move.victim_eq_some] at hv
    exact hzero (e.move_eq_evict hv).2

end ScansTo

/-- **The loop of `shrink_inactive_list`** returns, and counts the pages that it finds cold. -/
theorem shrink_inactive_loop_scans (nr_pages left ret : ℕ) (s : State α) (h : Listed s.pol)
    (hret : ret ≤ nr_pages) :
    ∃ ret' s', (shrink_inactive_loop nr_pages left ret).run s = .ok (ret', s') ∧
      ScansTo s (examinations shrink_inactive_page nr_pages left ret s) s' ∧
      ret' = ret + (cold (examinations shrink_inactive_page nr_pages left ret s)).length ∧
      ret' ≤ nr_pages := by
  induction left generalizing ret s with
  | zero => exact ⟨ret, s, rfl, .refl h, rfl, hret⟩
  | succ left ih =>
      by_cases hgo : ret < nr_pages ∧ s.pol.lists .inactive_list ≠ []
      · obtain ⟨i, rest, hq⟩ := List.exists_cons_of_ne_nil hgo.2
        obtain ⟨s₁, hrun, hscan⟩ := ScansTo.examine h hq rfl
        set e : Exam α := ⟨i, { s with pol := s.pol.unlink .inactive_list i }⟩
        have hret₁ : (if (!e.accessed) = true then ret + 1 else ret) ≤ nr_pages := by
          split
          · exact hgo.1
          · exact hret
        obtain ⟨ret', s', hloop, hscan', hcount, hle⟩ := ih _ s₁ hscan.listed hret₁
        refine ⟨ret', s', ?_, ?_, ?_, hle⟩
        · rw [run_shrink_inactive_loop_cons hgo.1 hq hrun]
          exact hloop
        · rw [examinations_cons hgo.1 hq hrun]
          exact hscan.trans hscan'
        · rw [examinations_cons hgo.1 hq hrun, hcount, length_cold_cons]
          split <;> omega
      · refine ⟨ret, s, ?_, ?_, ?_, hret⟩
        · rw [shrink_inactive_loop, run_bind_ok (run_numentries s _), if_neg fun hc => hgo ?_]
          · rfl
          · exact ⟨hc.1, List.ne_nil_of_length_pos hc.2⟩
        · rw [examinations_stop hgo]
          exact .refl h
        · rw [examinations_stop hgo]
          rfl

theorem shrink_inactive_list_scans (nr_pages : ℕ) (s : State α) (h : Listed s.pol) :
    ∃ ret s', (shrink_inactive_list nr_pages).run s = .ok (ret, s') ∧
      ScansTo s (inactive_examinations nr_pages s) s' ∧
      ret = (cold (inactive_examinations nr_pages s)).length ∧ (nr_pages ≠ 0 → ret ≤ nr_pages) ∧
      s'.pol.shrinkage_running = false := by
  have hset := ScansTo.running h true
  obtain ⟨ret, s', hrun, hscan, hcount, hle⟩ := shrink_inactive_loop_scans
    (if nr_pages = 0 ∨ (s.pol.lists .inactive_list).length < nr_pages then
      (s.pol.lists .inactive_list).length else nr_pages) _ 0 _ hset.listed (Nat.zero_le _)
  refine ⟨ret, { s' with pol := { s'.pol with shrinkage_running := false } }, ?_, ?_, ?_, ?_, rfl⟩
  · rw [shrink_inactive_list, run_bind_ok (run_numentries _ _), run_bind_ok (run_modify_pol _ _),
      run_bind_ok hrun]
    rfl
  · have hall := (hset.trans hscan).trans (ScansTo.running hscan.listed false)
    rw [List.nil_append, List.append_nil] at hall
    exact hall
  · rw [Nat.zero_add] at hcount
    exact hcount
  · intro hne
    refine hle.trans ?_
    split
    · next hc => exact (hc.resolve_left hne).le
    · exact Nat.le_refl _

/-- **Demotions.** -/
theorem shrink_active_loop_scans (nr_pages left ret : ℕ) (s : State α) (h : Listed s.pol) :
    ∃ ret' s', (shrink_active_loop nr_pages left ret).run s = .ok (ret', s') ∧
      ScansTo s [] s' := by
  induction left generalizing ret s with
  | zero => exact ⟨ret, s, rfl, .refl h⟩
  | succ left ih =>
      rw [shrink_active_loop, run_bind_ok (run_numentries s _)]
      split
      case isFalse => exact ⟨ret, s, rfl, .refl h⟩
      case isTrue hc =>
        obtain ⟨i, rest, hq⟩ := List.exists_cons_of_ne_nil (List.ne_nil_of_length_pos hc.2)
        have hlisted := h.requeue (r := .inactive_list)
          (f := fun p => { p with naccesses := 0 }) hq (Or.inl rfl) fun _ => ⟨rfl, rfl⟩
        have hscan : ScansTo s [] ⟨s.pol.requeue .active_list .inactive_list i
            fun p => { p with naccesses := 0 }, s.mem⟩ := by
          refine ScansTo.single h.linked hlisted (Policy.requeue_lru_demote hq) rfl rfl
            (fun j hj => Policy.requeue_page_ne hj) fun hv => ?_
          cases hv
        obtain ⟨ret', s', hloop, hscan'⟩ := ih (ret + 1) ⟨_, s.mem⟩ hlisted
        refine ⟨ret', s', ?_, hscan.trans hscan'⟩
        rw [run_bind_ok (run_dequeue_fifo_cons hq), run_bind_ok (run_set_page _ _ _),
          run_bind_ok (run_enqueue_fifo (by simp))]
        exact hloop

theorem shrink_active_list_scans (nr_pages : ℕ) (s : State α) (h : Listed s.pol) :
    ∃ ret s', (shrink_active_list nr_pages).run s = .ok (ret, s') ∧ ScansTo s [] s' ∧
      (s.pol.shrinkage_running = false → s'.pol.shrinkage_running = false) := by
  rw [shrink_active_list]
  split
  · exact ⟨0, s, rfl, .refl h, id⟩
  · have hset := ScansTo.running h true
    rw [run_bind_ok (run_modify_pol _ _), run_bind_ok (run_numentries _ _)]
    obtain ⟨ret, s', hrun, hscan⟩ := shrink_active_loop_scans _ _ 0 _ hset.listed
    refine ⟨ret, { s' with pol := { s'.pol with shrinkage_running := false } }, ?_,
      (hset.trans hscan).trans (ScansTo.running hscan.listed false), fun _ => rfl⟩
    rw [run_bind_ok hrun]
    rfl

/-- **The loop of `direct_allocate_page_asynch`.** A round adds at most `SWAP_CLUSTER_COUNT` pages
to fewer than `nr_pages`. -/
theorem direct_allocate_loop_scans (nr_pages ta ti rounds a b r : ℕ) (s : State α)
    (h : Listed s.pol) (hr : r ≤ nr_pages + 31) :
    ∃ ret s', (direct_allocate_loop nr_pages ta ti rounds a b r).run s = .ok (ret, s') ∧
      ScansTo s (direct_examinations nr_pages ta ti rounds a b r s) s' ∧
      ret = r + (cold (direct_examinations nr_pages ta ti rounds a b r s)).length ∧
      ret ≤ nr_pages + 31 ∧
      (s.pol.shrinkage_running = false → s'.pol.shrinkage_running = false) := by
  induction rounds generalizing a b r s with
  | zero => exact ⟨r, s, rfl, .refl h, rfl, hr, id⟩
  | succ rounds ih =>
      rw [direct_allocate_loop, direct_examinations]
      split
      case isFalse => exact ⟨r, s, rfl, .refl h, rfl, hr, id⟩
      case isTrue hc =>
        obtain ⟨ret, s₁, hrun, hscan, hcount, hle, hflag⟩ := shrink_inactive_list_scans
          SWAP_CLUSTER_COUNT s h
        have hle := hle (by decide)
        have hr₁ : r + ret ≤ nr_pages + 31 := by
          have := hc.2
          simp only [SWAP_CLUSTER_COUNT] at hle
          omega
        rw [run_bind_ok hrun]
        simp only [hrun, cold_append, List.length_append]
        by_cases ha : a < ta
        · obtain ⟨n, s₂, hrun₂, hscan₂, hflag₂⟩ :=
            shrink_active_list_scans SWAP_CLUSTER_COUNT s₁ hscan.listed
          obtain ⟨ret', s', hloop, hscan', hcount', hle', hflag'⟩ := ih (a + SWAP_CLUSTER_COUNT)
            (b + SWAP_CLUSTER_COUNT) (r + ret) s₂ hscan₂.listed hr₁
          simp only [if_pos ha, hrun₂, run_bind_ok hrun₂]
          exact ⟨ret', s', hloop, hscan.trans (hscan₂.trans hscan'), by omega, hle',
            fun _ => hflag' (hflag₂ hflag)⟩
        · obtain ⟨ret', s', hloop, hscan', hcount', hle', hflag'⟩ := ih a (b + SWAP_CLUSTER_COUNT) (r + ret)
            s₁ hscan.listed hr₁
          simp only [if_neg ha]
          exact ⟨ret', s', hloop, hscan.trans hscan', by omega, hle', fun _ => hflag' hflag⟩

/-- The rounds that the loop is given are enough: with more of them it does the same. -/
theorem direct_allocate_loop_rounds (nr_pages ta ti : ℕ) {rounds b : ℕ} (a r extra : ℕ)
    (h : ti ≤ b + rounds) :
    (direct_allocate_loop nr_pages ta ti (rounds + extra) a b r : Proc α ℕ) =
      direct_allocate_loop nr_pages ta ti rounds a b r := by
  induction rounds generalizing a b r with
  | zero =>
      cases extra with
      | zero => rfl
      | succ extra =>
          have hdone : ¬ (b < ti ∧ r < nr_pages) := fun hc => by omega
          simp only [direct_allocate_loop, if_neg hdone]
  | succ rounds ih =>
      have hnext : ti ≤ b + SWAP_CLUSTER_COUNT + rounds := by
        simp only [SWAP_CLUSTER_COUNT]
        omega
      rw [Nat.add_right_comm, direct_allocate_loop, direct_allocate_loop]
      simp only [ih _ _ hnext]

/-! ## The pages that are given up -/

/-- **The outcome of a scan** with the looks `t`, from one state to another, that returns `ret`. -/
structure Reclaims (s : State α) (t : List (Exam α)) (ret : ℕ) (s' : State α) : Prop where
  /-- the lists of resident pages have the same pages as before -/
  union : s'.pol.lru.all.Perm s.pol.lru.all
  /-- pages are queued for eviction in the order in which they were found cold -/
  order : s'.pol.lists .eviction_list = s.pol.lists .eviction_list ++ cold t
  count : ret = (cold t).length
  /-- the accessed bit of such a page was clear at the last look at it, and its count is zero -/
  clear : ∀ i ∈ cold t, (∃ before e after, t = before ++ e :: after ∧ e.page = i ∧
    e.accessed = false ∧ ∀ e' ∈ after, e'.page ≠ i) ∧ (s'.pol.page i).naccesses = 0
  /-- a page becomes active if an accessed bit has raised its count above one -/
  active : ∀ i ∈ s'.pol.lists .active_list, i ∈ s.pol.lists .active_list ∨ i ∈ promoted t

theorem ScansTo.reclaims {s s' : State α} {t : List (Exam α)} {ret : ℕ} (h : Listed s.pol)
    (hs : ScansTo s t s') (hret : ret = (cold t).length) : Reclaims s t ret s' := by
  obtain ⟨ms, hrun, hms⟩ := hs.moves
  have hvictims : ms.filterMap Lru.Move.victim = cold t := by
    rw [← Lru.Move.filterMap_examines (fun _ => rfl), hms, filterMap_victim]
  have horder : s'.pol.lists .eviction_list = s.pol.lists .eviction_list ++ cold t := by
    rw [← hvictims]
    exact hrun.eviction
  refine ⟨hrun.perm, horder, hret, fun i hi => ⟨?_, ?_⟩, fun i hi => ?_⟩
  · rw [← hvictims] at hi
    -- the last move of a cold page is its eviction, and the moves are the examinations in order
    obtain ⟨before, after, hsplit, hafter⟩ := hrun.last_move h.linked.lru_nodup hi
    rw [hsplit, List.filter_append, List.filter_cons,
      if_pos (show (Lru.Move.evict i).examines = true from rfl)] at hms
    obtain ⟨t₁, t₂, ht, -, h₂⟩ := List.map_eq_append_iff.1 hms.symm
    obtain ⟨e, t₃, ht₂, he, h₃⟩ := List.map_eq_cons_iff.1 h₂
    obtain ⟨hpage, hclear⟩ := e.move_eq_evict he
    refine ⟨t₁, e, t₃, by rw [ht, ht₂], hpage, hclear, fun e' he' => ?_⟩
    have hmem : e'.move ∈ after.filter Lru.Move.examines := by
      rw [← h₃]
      exact List.mem_map_of_mem he'
    rw [← e'.move_page]
    exact hafter _ (List.mem_of_mem_filter hmem)
  · have hmem : i ∈ s'.pol.lists .eviction_list := by
      rw [horder]
      exact List.mem_append_right _ hi
    rcases hs.queued i hmem with ⟨hold, -⟩ | hzero
    · -- it would be on the list twice
      have hnodup := hs.listed.linked.nodup .eviction_list
      rw [horder] at hnodup
      exact absurd hi (List.disjoint_of_nodup_append hnodup hold)
    · exact hzero
  · rcases hrun.active hi with hi | hi
    · exact Or.inl hi
    · rw [← Lru.Move.filterMap_examines (fun _ => rfl), hms, filterMap_promoted] at hi
      exact Or.inr hi

/-- The looks of `direct_allocate_page_asynch`. -/
def reclaim_examinations (nr_pages priority : ℕ) (s : State α) : List (Exam α) :=
  let to_scan_active := (s.pol.lists .active_list).length >>> priority
  let to_scan_inactive := (s.pol.lists .inactive_list).length >>> priority
  direct_examinations nr_pages to_scan_active to_scan_inactive to_scan_inactive 0 0 0 s

/-- **The two scans return, conserve the pages and give up only cold ones.** The loop of
`direct_allocate_page_asynch` ends by its own condition: any larger number of rounds gives the same
run. -/
theorem scans_give_up_cold (s : State α) (h : Listed s.pol) :
    (∀ n, ∃ ret s', (shrink_inactive_list n).run s = .ok (ret, s') ∧
      Reclaims s (inactive_examinations n s) ret s') ∧
    ∀ nr priority, ∃ ret s', (direct_allocate_page_asynch nr priority).run s = .ok (ret, s') ∧
      Reclaims s (reclaim_examinations nr priority s) ret s' ∧ (1 ≤ nr → ret ≤ nr + 31) ∧
      ∀ extra, (direct_allocate_loop nr ((s.pol.lists .active_list).length >>> priority)
        ((s.pol.lists .inactive_list).length >>> priority)
        ((s.pol.lists .inactive_list).length >>> priority + extra) 0 0 0).run s =
          .ok (ret, s') := by
  constructor
  · intro n
    obtain ⟨ret, s', hrun, hscan, hcount, -, -⟩ := shrink_inactive_list_scans n s h
    exact ⟨ret, s', hrun, hscan.reclaims h hcount⟩
  · intro nr priority
    obtain ⟨ret, s', hrun, hscan, hcount, hle, -⟩ := direct_allocate_loop_scans nr
      ((s.pol.lists .active_list).length >>> priority)
      ((s.pol.lists .inactive_list).length >>> priority)
      ((s.pol.lists .inactive_list).length >>> priority) 0 0 0 s h (Nat.zero_le _)
    rw [Nat.zero_add] at hcount
    refine ⟨ret, s', ?_, hscan.reclaims h hcount, fun _ => hle, fun extra => ?_⟩
    · rw [direct_allocate_page_asynch, run_bind_ok (run_numentries _ _),
        run_bind_ok (run_numentries _ _)]
      exact hrun
    · rw [direct_allocate_loop_rounds _ _ _ _ _ _ (Nat.le_add_left _ _)]
      exact hrun

/-- Two pages on the inactive list, the second of which the application reads. -/
def twoInactive : State Unit where
  pol :=
    (((({ dramsize := 8192, disksize := 8192, npages := 2 } : Policy).upd 0 fun p =>
      { p with va := 4096, in_dram := true }).upd 1 fun p =>
      { p with va := 8192, in_dram := true }).enq .inactive_list 0).enq .inactive_list 1
  mem :=
    { pte := fun _ => some { data := () }
      page_cache := (), buffer_space := (), prefetch_buffer := fun _ => ()
      env := { turns := [[.read 8192]] } }

theorem listed_twoInactive : Listed twoInactive.pol := by
  constructor
  · refine Policy.WellLinked.enq (Policy.WellLinked.enq (Policy.WellLinked.upd
      (Policy.WellLinked.upd ?_ rfl) rfl) (by decide)) (by decide)
    exact ⟨fun l i => by simp, fun l => List.nodup_nil⟩
  · decide +kernel

theorem scans_give_up_cold_twoInactive : Listed twoInactive.pol ∧
    ∃ ret s', (shrink_inactive_list 0).run twoInactive = .ok (ret, s') ∧
      Reclaims twoInactive (inactive_examinations 0 twoInactive) ret s' :=
  ⟨listed_twoInactive, (scans_give_up_cold twoInactive listed_twoInactive).1 0⟩

end SwapPrefetch
