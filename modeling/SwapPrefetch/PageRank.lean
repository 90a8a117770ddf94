/-
The inactive scan of the PageRank policy (`src/policies/pageRank.c:320-415`).

The policy remembers the page of the last swap-in, `safe_to_free`, and a scan gives up the pages
outside a window around it without looking at their accessed bits. Pages inside go back to the end
of the list that the scan takes them from, so it is the bound on the tries that ends a scan which
finds only such pages. The two tests of the window are strict and the page in its middle passes
neither: the page that was swapped in last is given up like one that is far away.
-/
import SwapPrefetch.ColdScans

set_option autoImplicit false

namespace SwapPrefetch

namespace PageRank

open Prog

variable {α : Type}

/-! ## The scan -/

/-- `PR_WINDOW_SIZE` (`pageRank.h:23`), the value of `pagerank_window_size`. -/
abbrev PR_WINDOW_SIZE : ℕ := 128 * 1024 * 1024

/-- The condition that keeps a page on the inactive list. -/
def in_window (safe_to_free va : ℕ) : Bool :=
  va < safe_to_free && safe_to_free - va < 32 * 4096 * 4096 ||
    va > safe_to_free && va - safe_to_free < PR_WINDOW_SIZE + 512 * 4096

/-- The body of the loop when there is a page that is safe to free: whether the page was moved. -/
def shrink_inactive_safe_page (safe_to_free : ℕ) (page : PageId) : Proc α Bool := do
  if !in_window safe_to_free (← get_page page).va then
    enqueue_fifo .eviction_list page
    pure true
  else
    enqueue_fifo .inactive_list page
    pure false

/-- The loop when there is a page that is safe to free; `left` is `nr_pages * 100 - tries`. -/
def shrink_inactive_safe_loop (safe_to_free nr_pages : ℕ) : ℕ → ℕ → Proc α ℕ
  | 0, ret => pure ret
  | left + 1, ret => do
      if ret < nr_pages ∧ 0 < (← numentries .inactive_list) then
        match ← dequeue_fifo .inactive_list with
        | none => throw .hang
        | some page => do
            let moved ← shrink_inactive_safe_page safe_to_free page
            shrink_inactive_safe_loop safe_to_free nr_pages left (if moved then ret + 1 else ret)
      else
        pure ret

/-- `shrink_inactive_list` (`pageRank.c:320`). Before the first swap-in it is the scan of the
default policy. -/
def shrink_inactive_list (safe_to_free nr_pages : ℕ) : Proc α ℕ := do
  let entries ← numentries .inactive_list
  let nr_pages := if nr_pages = 0 ∨ entries < nr_pages then entries else nr_pages
  modify_pol fun s => { s with shrinkage_running := true }
  let ret ←
    if safe_to_free = 0 then shrink_inactive_loop nr_pages (nr_pages * 100) 0
    else shrink_inactive_safe_loop safe_to_free nr_pages (nr_pages * 100) 0
  modify_pol fun s => { s with shrinkage_running := false }
  pure ret

/-- The looks of the scan. -/
def safe_examinations (safe_to_free nr_pages : ℕ) (s : State α) : List (Exam α) :=
  let entries := (s.pol.lists .inactive_list).length
  let nr_pages := if nr_pages = 0 ∨ entries < nr_pages then entries else nr_pages
  examinations (shrink_inactive_safe_page safe_to_free) nr_pages (nr_pages * 100) 0
    { s with pol := { s.pol with shrinkage_running := true } }

/-! ## Moves -/

/-- Where a page at `va` goes. -/
def verdict (safe_to_free : ℕ) (P : Policy) (i : PageId) : Lru.Move PageId :=
  if in_window safe_to_free (P.page i).va then .keep i else .evict i

theorem verdict_page (safe_to_free : ℕ) (P : Policy) (i : PageId) :
    (verdict safe_to_free P i).page = i := by
  unfold verdict
  split
  · rfl
  · rfl

theorem verdict_examines (safe_to_free : ℕ) (P : Policy) (i : PageId) :
    (verdict safe_to_free P i).examines = true := by
  unfold verdict
  split
  · rfl
  · rfl

/-- **What the scan does** from one state to another. -/
structure Swept (safe_to_free : ℕ) (s : State α) (t : List (Exam α)) (s' : State α) : Prop where
  linked : s'.pol.WellLinked
  va : ∀ i, (s'.pol.page i).va = (s.pol.page i).va
  run : Lru.Run s.pol.lru (t.map fun e => verdict safe_to_free s.pol e.page) s'.pol.lru

variable {safe_to_free : ℕ} {s s₁ s' : State α} {t t' : List (Exam α)}

theorem Swept.refl (h : s.pol.WellLinked) : Swept safe_to_free s [] s :=
  ⟨h, fun _ => rfl, .nil _⟩

theorem Swept.trans (h : Swept safe_to_free s t s₁) (h' : Swept safe_to_free s₁ t' s') :
    Swept safe_to_free s (t ++ t') s' := by
  refine ⟨h'.linked, fun i => (h'.va i).trans (h.va i), ?_⟩
  have hsame : ∀ i, verdict safe_to_free s₁.pol i = verdict safe_to_free s.pol i := by
    intro i
    rw [verdict, h.va i]
    rfl
  rw [List.map_append]
  refine h.run.append ?_
  have hrun := h'.run
  simp only [hsame] at hrun
  exact hrun

theorem Swept.running (safe_to_free : ℕ) (h : s.pol.WellLinked) (b : Bool) :
    Swept safe_to_free s [] { s with pol := { s.pol with shrinkage_running := b } } :=
  ⟨h, fun _ => rfl, .nil _⟩

/-- **One look.** -/
theorem Swept.examine (safe_to_free : ℕ) (h : s.pol.WellLinked) {i : PageId} {rest : List PageId}
    (hq : s.pol.lists .inactive_list = i :: rest) :
    ∃ moved s', (shrink_inactive_safe_page safe_to_free i).run
        { s with pol := s.pol.unlink .inactive_list i } = .ok (moved, s') ∧
      Swept safe_to_free s [⟨i, { s with pol := s.pol.unlink .inactive_list i }⟩] s' := by
  -- neither branch changes the struct
  have hid : ∀ P : Policy, P.upd i id = P := fun P => by
    rw [Policy.upd, id, Function.update_eq_self]
  have hsame : ∀ r : ListId,
      (s.pol.unlink .inactive_list i).enq r i = s.pol.requeue .inactive_list r i id :=
    fun r => by rw [Policy.requeue, hid]
  have hva : ∀ (r : ListId) (j : PageId),
      ((s.pol.requeue .inactive_list r i id).page j).va = (s.pol.page j).va := by
    intro r j
    rcases eq_or_ne j i with rfl | hj
    · rw [Policy.requeue_page_self]
      rfl
    · rw [Policy.requeue_page_ne hj]
  have hlinked : ∀ r : ListId, (s.pol.requeue .inactive_list r i id).WellLinked :=
    fun r => h.requeue hq fun _ => rfl
  have henq : ∀ r : ListId, (enqueue_fifo r i).run { s with pol := s.pol.unlink .inactive_list i } =
      .ok ((), ⟨s.pol.requeue .inactive_list r i id, s.mem⟩) := fun r => by
    rw [run_enqueue_fifo (by simp), ← hsame]
  rw [shrink_inactive_safe_page, run_bind_ok (run_get_page _ _)]
  have hread : ((s.pol.unlink .inactive_list i).page i).va = (s.pol.page i).va := by simp
  cases hw : in_window safe_to_free (s.pol.page i).va with
  | true =>
      refine ⟨false, ⟨s.pol.requeue .inactive_list .inactive_list i id, s.mem⟩, ?_, hlinked _,
        hva _, .cons ?_ (.nil _)⟩
      · rw [hread, hw, if_neg (by decide), run_bind_ok (henq _)]
        rfl
      · show Lru.Step s.pol.lru (verdict safe_to_free s.pol i) _
        rw [verdict, if_pos hw]
        exact Policy.requeue_lru_keep hq
  | false =>
      refine ⟨true, ⟨s.pol.requeue .inactive_list .eviction_list i id, s.mem⟩, ?_, hlinked _,
        hva _, .cons ?_ (.nil _)⟩
      · rw [hread, hw, if_pos (by decide), run_bind_ok (henq _)]
        rfl
      · show Lru.Step s.pol.lru (verdict safe_to_free s.pol i) _
        rw [verdict, hw, if_neg Bool.false_ne_true]
        exact Policy.requeue_lru_evict hq

theorem shrink_inactive_safe_loop_sweeps (safe_to_free nr_pages left ret : ℕ) (s : State α)
    (h : s.pol.WellLinked) :
    ∃ ret' s', (shrink_inactive_safe_loop safe_to_free nr_pages left ret).run s = .ok (ret', s') ∧
      Swept safe_to_free s
        (examinations (shrink_inactive_safe_page safe_to_free) nr_pages left ret s) s' := by
  induction left generalizing ret s with
  | zero => exact ⟨ret, s, rfl, .refl h⟩
  | succ left ih =>
      rw [shrink_inactive_safe_loop, run_bind_ok (run_numentries s _)]
      by_cases hgo : ret < nr_pages ∧ s.pol.lists .inactive_list ≠ []
      · obtain ⟨i, rest, hq⟩ := List.exists_cons_of_ne_nil hgo.2
        obtain ⟨moved, s₁, hrun, hswept⟩ := Swept.examine safe_to_free h hq
        obtain ⟨ret', s', hloop, hswept'⟩ := ih (if moved then ret + 1 else ret) s₁ hswept.linked
        refine ⟨ret', s', ?_, ?_⟩
        · rw [if_pos ⟨hgo.1, List.length_pos_of_ne_nil hgo.2⟩,
            run_bind_ok (run_dequeue_fifo_cons hq)]
          exact (run_bind_ok hrun).trans hloop
        · rw [examinations_cons hgo.1 hq hrun]
          exact hswept.trans hswept'
      · refine ⟨ret, s, ?_, ?_⟩
        · rw [if_neg fun hc => hgo ⟨hc.1, List.ne_nil_of_length_pos hc.2⟩]
          rfl
        · rw [examinations_stop hgo]
          exact .refl h

theorem shrink_inactive_list_sweeps (hsafe : safe_to_free ≠ 0) (nr_pages : ℕ) (s : State α)
    (h : s.pol.WellLinked) :
    ∃ ret s', (shrink_inactive_list safe_to_free nr_pages).run s = .ok (ret, s') ∧
      Swept safe_to_free s (safe_examinations safe_to_free nr_pages s) s' := by
  have hset := Swept.running safe_to_free h true
  obtain ⟨ret, s', hrun, hswept⟩ := shrink_inactive_safe_loop_sweeps safe_to_free
    (if nr_pages = 0 ∨ (s.pol.lists .inactive_list).length < nr_pages then
      (s.pol.lists .inactive_list).length else nr_pages) _ 0 _ hset.linked
  refine ⟨ret, { s' with pol := { s'.pol with shrinkage_running := false } }, ?_, ?_⟩
  · rw [shrink_inactive_list, run_bind_ok (run_numentries _ _), run_bind_ok (run_modify_pol _ _),
      if_neg hsafe, run_bind_ok hrun]
    rfl
  · have hall := (hset.trans hswept).trans (Swept.running safe_to_free hswept.linked false)
    rw [List.nil_append, List.append_nil] at hall
    exact hall

/-! ## The protection window -/

/-- The addresses that are meant to stay: less than 512 MiB below `safe_to_free`, the page itself,
and less than the window and 2 MiB above. -/
def Protected (safe_to_free va : ℕ) : Prop :=
  va < safe_to_free ∧ safe_to_free - va < 32 * 4096 * 4096 ∨ va = safe_to_free ∨
    safe_to_free < va ∧ va - safe_to_free < PR_WINDOW_SIZE + 512 * 4096

instance (safe_to_free va : ℕ) : Decidable (Protected safe_to_free va) :=
  inferInstanceAs (Decidable (_ ∨ _ ∨ _))

/-- The code's test leaves out the page itself. -/
theorem protected_iff (safe_to_free va : ℕ) :
    Protected safe_to_free va ↔ in_window safe_to_free va = true ∨ va = safe_to_free := by
  unfold Protected in_window
  simp only [Bool.or_eq_true, Bool.and_eq_true, decide_eq_true_eq, gt_iff_lt]
  tauto

theorem in_window_self (safe_to_free : ℕ) : in_window safe_to_free safe_to_free = false := by
  unfold in_window
  simp

/-- **The window is respected** by a scan with the looks `t`. -/
structure Protects (safe_to_free : ℕ) (s : State α) (t : List (Exam α)) (s' : State α) :
    Prop where
  /-- no protected page is queued for eviction -/
  spared : ∀ i ∈ s'.pol.lists .eviction_list, i ∉ s.pol.lists .eviction_list →
    ¬ Protected safe_to_free (s.pol.page i).va
  outside : ∀ e ∈ t, ¬ Protected safe_to_free (s.pol.page e.page).va →
    e.page ∈ s'.pol.lists .eviction_list
  inside : ∀ e ∈ t, Protected safe_to_free (s.pol.page e.page).va →
    e.page ∈ s'.pol.lists .inactive_list
  union : s'.pol.lru.all.Perm s.pol.lru.all

theorem Swept.eviction (h : Swept safe_to_free s t s') {i : PageId} :
    i ∈ s'.pol.lists .eviction_list ↔ i ∈ s.pol.lists .eviction_list ∨
      ∃ e ∈ t, e.page = i ∧ in_window safe_to_free (s.pol.page i).va = false := by
  have hev : s'.pol.lists .eviction_list = s.pol.lists .eviction_list ++
      (t.map fun e => verdict safe_to_free s.pol e.page).filterMap Lru.Move.victim := h.run.eviction
  rw [hev, List.mem_append, List.filterMap_map, List.mem_filterMap]
  refine or_congr_right (exists_congr fun e => and_congr_right fun _ => ?_)
  rw [Function.comp_apply, Lru.Move.victim_eq_some, verdict]
  constructor
  · intro he
    split at he
    · cases he
    · next hw =>
        cases he
        exact ⟨rfl, Bool.eq_false_iff.2 hw⟩
  · rintro ⟨rfl, hw⟩
    rw [hw, if_neg Bool.false_ne_true]

theorem Swept.inactive_of_mem (h : Swept safe_to_free s t s') {e : Exam α} (he : e ∈ t) :
    e.page ∈ s.pol.lists .inactive_list := by
  have hm := h.run.page_inactive (fun m hm => ?_) _ (List.mem_map_of_mem he)
  · rw [verdict_page] at hm
    exact hm
  · obtain ⟨e', -, rfl⟩ := List.mem_map.1 hm
    exact verdict_examines _ _ _

/-- **The scan returns, and it respects the window exactly if it does not look at the page
`safe_to_free` itself.** -/
theorem protects_iff_centre_not_examined (s : State α) (h : s.pol.WellLinked)
    (hsafe : safe_to_free ≠ 0) (n : ℕ) :
    ∃ ret s', (shrink_inactive_list safe_to_free n).run s = .ok (ret, s') ∧
      (Protects safe_to_free s (safe_examinations safe_to_free n s) s' ↔
        ∀ e ∈ safe_examinations safe_to_free n s, (s.pol.page e.page).va ≠ safe_to_free) := by
  obtain ⟨ret, s', hrun, hswept⟩ := shrink_inactive_list_sweeps hsafe n s h
  refine ⟨ret, s', hrun, ?_, ?_⟩
  · intro hp e he hcentre
    have hwindow : in_window safe_to_free (s.pol.page e.page).va = false := by
      rw [hcentre]
      exact in_window_self safe_to_free
    refine hp.spared e.page (hswept.eviction.2 (Or.inr ⟨e, he, rfl, hwindow⟩)) (fun hev => ?_)
      ((protected_iff _ _).2 (Or.inr hcentre))
    exact ListId.noConfusion (h.unique (hswept.inactive_of_mem he) hev)
  · intro hcentre
    refine ⟨fun i hi hnew => ?_, fun e he hout => ?_, fun e he hin => ?_, hswept.run.perm⟩
    · obtain ⟨e, he, rfl, hw⟩ := (hswept.eviction.1 hi).resolve_left hnew
      rw [protected_iff, hw]
      exact not_or.2 ⟨Bool.false_ne_true, hcentre e he⟩
    · rw [protected_iff, not_or] at hout
      exact hswept.eviction.2 (Or.inr ⟨e, he, rfl, Bool.eq_false_iff.2 hout.1⟩)
    · have hw := ((protected_iff _ _).1 hin).resolve_right (hcentre e he)
      refine hswept.run.kept (fun m hm hpage => ?_) (hswept.inactive_of_mem he)
      obtain ⟨e', -, rfl⟩ := List.mem_map.1 hm
      rw [verdict_page] at hpage
      rw [hpage, verdict, if_pos hw]

/-- With two pages on the list, a window around a page that is on none is respected. -/
theorem protects_iff_centre_not_examined_farPage : twoInactive.pol.WellLinked ∧
    ∃ ret s', (shrink_inactive_list (2 ^ 40) 2).run twoInactive = .ok (ret, s') ∧
      (Protects (2 ^ 40) twoInactive (safe_examinations (2 ^ 40) 2 twoInactive) s' ↔
        ∀ e ∈ safe_examinations (2 ^ 40) 2 twoInactive,
          (twoInactive.pol.page e.page).va ≠ 2 ^ 40) :=
  ⟨listed_twoInactive.linked,
    protects_iff_centre_not_examined twoInactive listed_twoInactive.linked (by decide) 2⟩

/-- The page at 4096 was swapped in last, and a scan for one page gives it up. -/
theorem not_protects_lastSwappedIn : ¬ ∃ ret s',
    (shrink_inactive_list 4096 1).run twoInactive = .ok (ret, s') ∧
      Protects 4096 twoInactive (safe_examinations 4096 1 twoInactive) s' := by
  rintro ⟨ret, s', hrun, hp⟩
  have heval : passes (fun s => decide (0 ∈ s.pol.lists .eviction_list))
      ((shrink_inactive_list 4096 1).run twoInactive) = true := by
    decide +kernel
  have hmem := of_decide_eq_true (passes_ok heval hrun)
  exact hp.spared 0 hmem (by decide +kernel) (by decide +kernel)

end PageRank

end SwapPrefetch
