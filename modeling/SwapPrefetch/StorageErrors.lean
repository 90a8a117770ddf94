/-
Storage errors: `extmem_disk_write` and `extmem_disk_read` of `src/core.c` return nothing.

An error of `write_page` or `read_page` ends in these two wrappers, and the five routines that move
a page between DRAM and the store go on as if the request had succeeded: the scalar and the inline
eviction, the batched one, the synchronous swap-in and the sequential prefetch. Each of them is
looked at in an arbitrary state, since nothing but its own code decides what it does after the
request: whenever it returns, the page is evicted, or is marked as in DRAM.

A failed request is contained if its page is left as it was. So the failures of a call are
contained exactly if there are none.
-/
import Mathlib.Tactic
import SwapPrefetch.Runs

set_option autoImplicit false

namespace SwapPrefetch

open Prog

variable {α β γ : Type}

/-! ## After an eviction -/

/-- The outcomes of storage requests that are still to come. -/
def State.outcomes (s : State α) : List Bool := s.mem.env.io_fails

/-- The page is evicted: marked so, and not mapped. -/
def Out (v : PageId) (s : State α) : Prop :=
  (s.pol.page v).swapped_out = true ∧ s.mem.pte (s.pol.page v).va = none

/-- The page is evicted, and `o` are the outcomes that are left. -/
structure Gone (v : PageId) (o : List Bool) (s : State α) : Prop where
  out : Out v s
  outcomes : s.outcomes = o

/-- The outcomes that are left after an eviction with or without a write. -/
def State.after_write (s : State α) (writeback : Bool) : List Bool :=
  if writeback then s.outcomes.tail else s.outcomes

theorem Ends.run_bind {m : Proc α β} {f : β → Proc α γ} {s s' : State α} {b : β}
    {Q : γ → State α → Prop} {E : Fault → Prop} (h : m.run s = .ok (b, s'))
    (hf : Ends ((f b).run s') Q E) : Ends ((m >>= f).run s) Q E := by
  rw [run_bind_ok h]
  exact hf

section

variable {s : State α} {Q : β → State α → Prop}

/-- An assertion about a struct, of which only the passing is of interest. -/
theorem ends_check_page {i : PageId} {c : UserPage → Prop} [DecidablePred c] {e : Fault}
    {f : Unit → Proc α β} (h : Ends ((f ()).run s) Q fun _ => True) :
    Ends ((get_page i >>= fun p => check (c p) e >>= f).run s) Q fun _ => True :=
  Ends.run_bind (run_get_page _ _) (Ends.check_bind (fun _ => trivial) fun _ => h)

theorem ends_check_last {c : Prop} [Decidable c] {e : Fault} {R : Unit → State α → Prop}
    (h : R () s) : Ends ((check c e : Proc α Unit).run s) R fun _ => True := by
  by_cases hc : c
  · exact Ends.of_eq (run_check_pos hc e s) h
  · exact Ends.of_throw (run_check_neg hc e s) trivial

theorem ends_check_pol {c : Policy → Prop} [DecidablePred c] {e : Fault} {f : Unit → Proc α β}
    (h : Ends ((f ()).run s) Q fun _ => True) :
    Ends ((get_pol >>= fun P => check (c P) e >>= f).run s) Q fun _ => True :=
  Ends.run_bind (run_get_pol _) (Ends.check_bind (fun _ => trivial) fun _ => h)

end

theorem Mem.app_turn_io_fails (m : Mem α) : m.app_turn.env.io_fails = m.env.io_fails :=
  m.app_turn_appStep.rest.io_fails

theorem Mem.discard_spec (m : Mem α) (va : ℕ) :
    (m.discard va).pte va = none ∧ (m.discard va).env.io_fails = m.env.io_fails := by
  unfold Mem.discard
  rcases he : m.pte va with _ | e
  · exact ⟨he, rfl⟩
  · exact ⟨Mem.setPte_self _ _ _, rfl⟩

theorem Mem.discard_none {m : Mem α} {va a : ℕ} (h : m.pte a = none) :
    (m.discard va).pte a = none := by
  unfold Mem.discard
  rcases he : m.pte va with _ | e
  · exact h
  · rcases eq_or_ne a va with rfl | hne
    · exact Mem.setPte_self _ _ _
    · exact (Mem.setPte_ne _ hne _).trans h

/-- The end of `extmem_migrate_downdisk`. -/
theorem ends_discard (v : PageId) (offset : ℕ) (s : State α) :
    Ends ((do
      madvise_dontneed (← get_page v).va
      set_page v fun p => { p with virtual_offset := offset, in_dram := false }
      check ((← get_page v).swapped_out = false) .swapped_out
      set_page v fun p => { p with swapped_out := true }
      check ((← get_page v).migrating) .migrating : Proc α Unit).run s)
      (fun _ s' => Gone v s.outcomes s') fun _ => True := by
  obtain ⟨hgone, hio⟩ := s.mem.app_turn.discard_spec (s.pol.page v).va
  refine Ends.run_bind (run_get_page _ _) (Ends.run_bind (run_madvise_dontneed _ _) ?_)
  refine Ends.run_bind (run_set_page _ _ _) (ends_check_page ?_)
  refine Ends.run_bind (run_set_page _ _ _) (Ends.run_bind (run_get_page _ _) ?_)
  refine ends_check_last ⟨⟨by simp, ?_⟩, hio.trans s.mem.app_turn_io_fails⟩
  simpa using hgone

theorem ends_disk_write (va dest : ℕ) (s : State α) :
    Ends ((extmem_disk_write va dest).run s)
      (fun _ s' => s'.pol = s.pol ∧ s'.outcomes = s.outcomes.tail) fun _ => True := by
  rw [run_extmem_disk_write]
  split
  · trivial
  · refine ⟨rfl, ?_⟩
    simp only [State.outcomes, Mem.disk_write]
    split <;> simp [Mem.app_turn_io_fails]

/-- `extmem_migrate_downdisk` drops the page and marks it whatever became of the write. -/
theorem extmem_migrate_downdisk_out (v : PageId) (offset : ℕ) (writeback : Bool) (s : State α) :
    Ends ((extmem_migrate_downdisk v offset writeback).run s)
      (fun _ s' => Gone v (s.after_write writeback) s') fun _ => True := by
  rw [extmem_migrate_downdisk]
  refine Ends.run_bind (run_set_page _ _ _) (ends_check_page ?_)
  refine Ends.run_bind (run_get_page _ _) (ends_check_pol (ends_check_pol ?_))
  refine ends_check_pol (ends_check_pol ?_)
  cases writeback with
  | false => exact ends_discard v offset _
  | true =>
      refine Ends.run_bind (run_get_page _ _) ?_
      refine Ends.bind (ends_disk_write _ _ _) fun _ s' hs => ?_
      exact (ends_discard v offset s').mono (fun _ _ h => ⟨h.out, h.outcomes.trans hs.2⟩)
        fun _ he => he

theorem ends_extmem_wp_page (v : PageId) (protect : Bool) (s : State α) :
    Ends ((extmem_wp_page v protect).run s)
      (fun _ s' => (s.pol.page v).va % PAGE_SIZE = 0 ∧
        s' = { s with mem := s.mem.app_turn.protect (s.pol.page v).va protect })
      fun _ => True := by
  by_cases h0 : (s.pol.page v).va = 0
  · refine Ends.of_throw (e := .bad_va) ?_ trivial
    simp [extmem_wp_page, h0]
  · by_cases hal : (s.pol.page v).va % PAGE_SIZE = 0
    · exact Ends.of_eq (run_extmem_wp_page s v protect h0 hal) ⟨hal, rfl⟩
    · refine Ends.of_throw (e := .bad_va) ?_ trivial
      simp [extmem_wp_page, h0, run_check_neg hal]

theorem Mem.protect_io_fails (m : Mem α) (va : ℕ) (b : Bool) :
    (m.protect va b).env.io_fails = m.env.io_fails := by
  unfold Mem.protect
  split <;> rfl

theorem lrudisk_migrate_down_out (v : PageId) (offset : ℕ) (need_wp writeback : Bool)
    (s : State α) :
    Ends ((lrudisk_migrate_down v offset need_wp writeback).run s)
      (fun _ s' => Gone v (s.after_write writeback) s') fun _ => True := by
  rw [lrudisk_migrate_down]
  refine Ends.run_bind (run_set_page _ _ _) ?_
  cases need_wp with
  | false => exact extmem_migrate_downdisk_out v offset writeback _
  | true =>
      refine Ends.bind (ends_extmem_wp_page v true _) ?_
      rintro _ _ ⟨_, rfl⟩
      have hio : ((s.mem.app_turn).protect (s.pol.page v).va true).env.io_fails
          = s.mem.env.io_fails := by rw [Mem.protect_io_fails, Mem.app_turn_io_fails]
      refine (extmem_migrate_downdisk_out v offset writeback _).mono (fun _ _ h => ?_) fun _ he => he
      simp only [State.after_write, State.outcomes, Policy.upd_page_self, hio] at h ⊢
      exact h

/-- The beginning of the two eviction routines, in any state. -/
theorem ends_freeze {s : State α} {v : PageId} {k : Bool × Bool → Proc α β}
    {Q : β → State α → Prop}
    (h : Ends ((k ((s.mem.freeze (s.pol.page v).va).bits (s.pol.page v).va)).run (s.freeze v)) Q
      fun _ => True) :
    Ends ((do
      set_page v fun p => { p with migrating := true }
      extmem_wp_page v true
      let bits ← pt_get_bits v
      k bits : Proc α β).run s) Q fun _ => True := by
  refine Ends.run_bind (run_set_page _ _ _) (Ends.bind (ends_extmem_wp_page v true _) ?_)
  rintro _ _ ⟨hal, rfl⟩
  refine Ends.run_bind (run_pt_get_bits _ _ hal) ?_
  simpa [State.freeze, Mem.freeze] using h

/-! ## The two scalar evictions -/

/-- Assignments that leave `va` and do not clear `swapped_out` keep a page evicted. -/
theorem Gone.upd {v i : PageId} {o : List Bool} {s : State α} (h : Gone v o s)
    {f : UserPage → UserPage}
    (hf : ∀ p, (f p).va = p.va ∧ (p.swapped_out = true → (f p).swapped_out = true)) :
    Gone v o { s with pol := s.pol.upd i f } := by
  refine ⟨?_, h.outcomes⟩
  unfold Out
  rcases eq_or_ne v i with rfl | hne
  · rw [Policy.upd_page_self, (hf _).1]
    exact ⟨(hf _).2 h.out.1, h.out.2⟩
  · rw [Policy.upd_page_ne _ _ hne]
    exact h.out

theorem Gone.enq {v i : PageId} {o : List Bool} {q : ListId} {s : State α} (h : Gone v o s) :
    Gone v o { s with pol := s.pol.enq q i } := by
  refine ⟨?_, h.outcomes⟩
  unfold Out
  rcases eq_or_ne v i with rfl | hne
  · rw [Policy.enq_page_self]
    exact h.out
  · rw [Policy.enq_page_ne _ _ hne]
    exact h.out

/-- Linking a struct, for the caller. -/
theorem ends_enqueue {q : ListId} {i : PageId} {s : State α} {f : Unit → Proc α β}
    {Q : β → State α → Prop}
    (h : Ends ((f ()).run { s with pol := s.pol.enq q i }) Q fun _ => True) :
    Ends ((enqueue_fifo q i >>= f).run s) Q fun _ => True := by
  by_cases hl : (s.pol.page i).list = none
  · exact Ends.run_bind (run_enqueue_fifo hl) h
  · rw [run_bind_error (e := .entry_linked)]
    · trivial
    · simp [enqueue_fifo, run_check_neg hl]

theorem ends_enqueue_last {q : ListId} {i : PageId} {s : State α} {R : Unit → State α → Prop}
    (h : R () { s with pol := s.pol.enq q i }) :
    Ends ((enqueue_fifo q i : Proc α Unit).run s) R fun _ => True := by
  by_cases hl : (s.pol.page i).list = none
  · exact Ends.of_eq (run_enqueue_fifo hl) h
  · refine Ends.of_throw (e := .entry_linked) ?_ trivial
    simp [enqueue_fifo, run_check_neg hl]

theorem ends_tryremove (list : Option ListId) (i : PageId) (s : State α) :
    Ends ((page_list_tryremove_page list i).run s) (fun _ s' => s'.mem = s.mem) fun _ => True := by
  cases list with
  | none => exact Ends.ok rfl
  | some q =>
      refine Ends.run_bind (run_get_page _ _) ?_
      split
      · exact Ends.ok rfl
      · refine Ends.run_bind (run_get_pol _) ?_
        split
        · exact Ends.ok rfl
        · exact Ends.ok rfl

/-- Taking the reserve off its list leaves the contents alone. -/
theorem ends_detach_reserve (v : PageId) (stuck : Fault) (s : State α) :
    Ends ((detach_reserve v stuck).run s) (fun _ s' => s'.mem = s.mem) fun _ => True := by
  rw [detach_reserve]
  refine Ends.run_bind (run_get_page _ _) ?_
  split
  · trivial
  · refine ends_check_page (Ends.run_bind (run_get_page _ _) ?_)
    refine Ends.check_bind (fun _ => trivial) fun _ => ?_
    refine Ends.bind (ends_tryremove _ _ s) fun ret s' hs' => ?_
    exact Ends.check_bind (fun _ => trivial) fun _ => Ends.ok hs'

theorem ends_dequeue (q : ListId) (s : State α) :
    Ends ((dequeue_fifo q : Proc α (Option PageId)).run s) (fun _ s' => s'.mem = s.mem)
      fun _ => True := by
  rcases hq : s.pol.lists q with _ | ⟨i, rest⟩
  · exact Ends.of_eq (run_dequeue_fifo_nil hq) rfl
  · exact Ends.of_eq (run_dequeue_fifo_cons hq) rfl

/-- Whether an eviction from this state writes the page back. -/
def State.writeback (s : State α) (v : PageId) : Bool :=
  ((s.mem.freeze (s.pol.page v).va).bits (s.pol.page v).va).2 || !(s.pol.page v).has_reserve

theorem Mem.freeze_io_fails (m : Mem α) (va : ℕ) : (m.freeze va).env.io_fails = m.env.io_fails := by
  rw [Mem.freeze, Mem.app_turn_io_fails, Mem.protect_io_fails, Mem.app_turn_io_fails]

section

variable (v : PageId) (s : State α)

/-- The migration in the two routines, from a state with the contents of the frozen one. -/
theorem ends_migrate_frozen {s₁ : State α} (hs : s₁.mem = (s.freeze v).mem) (offset : ℕ)
    (need_wp : Bool) :
    Ends ((lrudisk_migrate_down v offset need_wp (s.writeback v)).run s₁)
      (fun _ s' => Gone v (s.after_write (s.writeback v)) s') fun _ => True := by
  have hio : s₁.outcomes = s.outcomes := by
    rw [State.outcomes, hs]
    exact s.mem.freeze_io_fails _
  have hout := lrudisk_migrate_down_out v offset need_wp (s.writeback v) s₁
  simp only [State.after_write, hio] at hout
  exact hout

/-- **Scalar eviction.** If it returns, the page is evicted; it makes one request if the page is
to be written back. -/
theorem evict_victim_gone :
    Ends ((evict_victim v).run s) (fun _ s' => Gone v (s.after_write (s.writeback v)) s')
      fun _ => True := by
  rw [evict_victim]
  refine ends_freeze ?_
  refine Ends.run_bind (run_get_page _ _) (Ends.run_bind (run_get_page _ _) ?_)
  simp only [State.freeze_page_self]
  split
  · refine Ends.bind (ends_detach_reserve v .reserve_link _) fun d s₁ hs₁ => ?_
    refine Ends.run_bind (run_get_page _ _) (Ends.run_bind (run_get_page _ _) ?_)
    refine Ends.bind (ends_migrate_frozen v s hs₁ _ false) fun _ s₂ hgone => ?_
    refine Ends.run_bind (run_set_page _ _ _) (Ends.run_bind (run_set_page _ _ _) ?_)
    refine ends_enqueue (ends_enqueue (ends_check_page (ends_check_page ?_)))
    refine Ends.of_eq (run_set_page _ _ _) (Gone.upd (Gone.enq (Gone.enq (Gone.upd (Gone.upd hgone
      ?_) ?_))) ?_) <;> exact fun p => ⟨rfl, fun h => by first | exact h | rfl⟩
  · refine Ends.bind (ends_dequeue .disk_free_list _) fun d s₁ hs₁ => ?_
    cases d with
    | none => trivial
    | some d =>
        refine ends_check_page (Ends.run_bind (run_get_page _ _) (Ends.run_bind (run_get_page _ _) ?_))
        refine Ends.bind (ends_migrate_frozen v s hs₁ _ false) fun _ s₂ hgone => ?_
        refine ends_enqueue (Ends.run_bind (run_set_page _ _ _) ?_)
        refine ends_enqueue (ends_check_page (ends_check_page ?_))
        refine Ends.of_eq (run_set_page _ _ _) (Gone.upd (Gone.enq (Gone.upd (Gone.enq hgone)
          ?_)) ?_) <;> exact fun p => ⟨rfl, fun h => by first | exact h | rfl⟩

/-- **Inline eviction.** The same for the eviction in `fetch_free_asynch`. -/
theorem fetch_free_evict_gone :
    Ends ((fetch_free_evict v).run s) (fun _ s' => Gone v (s.after_write (s.writeback v)) s')
      fun _ => True := by
  rw [fetch_free_evict]
  refine ends_freeze ?_
  refine Ends.run_bind (run_get_page _ _) (Ends.run_bind (run_get_page _ _) ?_)
  simp only [State.freeze_page_self]
  split
  · refine Ends.bind (ends_detach_reserve v .reserve_link _) fun d s₁ hs₁ => ?_
    refine Ends.run_bind (run_get_page _ _) (Ends.run_bind (run_get_page _ _) ?_)
    refine Ends.bind (ends_migrate_frozen v s hs₁ _ false) fun _ s₂ hgone => ?_
    refine Ends.run_bind (run_set_page _ _ _) (Ends.run_bind (run_set_page _ _ _) ?_)
    refine ends_enqueue (ends_check_page (ends_check_page ?_))
    refine Ends.run_bind (run_set_page _ _ _) (Ends.ok (Gone.upd (Gone.enq (Gone.upd (Gone.upd hgone
      ?_) ?_)) ?_)) <;> exact fun p => ⟨rfl, fun h => by first | exact h | rfl⟩
  · refine Ends.bind (ends_dequeue .disk_free_list _) fun d s₁ hs₁ => ?_
    cases d with
    | none => trivial
    | some d =>
        refine ends_check_page (Ends.run_bind (run_get_page _ _) (Ends.run_bind (run_get_page _ _) ?_))
        refine Ends.bind (ends_migrate_frozen v s hs₁ _ true) fun _ s₂ hgone => ?_
        refine ends_check_page (ends_enqueue ?_)
        refine Ends.run_bind (run_set_page _ _ _) (Ends.run_bind (run_set_page _ _ _) ?_)
        refine Ends.ok (Gone.upd (Gone.upd (Gone.enq hgone) ?_) ?_) <;>
          exact fun p => ⟨rfl, fun h => h⟩

end

/-! ## The batched eviction -/

/-- The write loop makes one request for each victim to be written back. -/
theorem downdisk_vector_write_used (vs : List Victim) (s : State α) :
    Ends ((downdisk_vector_write vs).run s)
      (fun _ s' => s'.outcomes = s.outcomes.drop (vs.countP Victim.writeback)) fun _ => True := by
  induction vs generalizing s with
  | nil => exact Ends.ok rfl
  | cons v vs ih =>
      rw [downdisk_vector_write]
      refine ends_check_page ?_
      cases hwb : v.writeback with
      | false =>
          rw [List.countP_cons_of_neg (by simp [hwb])]
          exact ih s
      | true =>
          rw [List.countP_cons_of_pos hwb]
          refine Ends.run_bind (run_get_page _ _) (Ends.run_bind (run_get_page _ _) ?_)
          refine Ends.bind (ends_disk_write _ _ s) fun _ s₁ hs₁ => ?_
          refine (ih s₁).mono (fun _ s' hs' => ?_) fun _ he => he
          rw [hs', hs₁.2, List.drop_tail, Nat.add_comm]

/-- The `madvise` loop drops every victim. -/
theorem downdisk_vector_discard_gone (vs : List Victim) (s : State α) :
    Ends ((downdisk_vector_discard vs).run s)
      (fun _ s' => s'.pol = s.pol ∧ s'.outcomes = s.outcomes ∧
        (∀ a, s.mem.pte a = none → s'.mem.pte a = none) ∧
        ∀ v ∈ vs, s'.mem.pte (s.pol.page v.page).va = none) fun _ => True := by
  induction vs generalizing s with
  | nil => exact Ends.ok ⟨rfl, rfl, fun _ h => h, fun _ hv => (nomatch hv)⟩
  | cons v vs ih =>
      rw [downdisk_vector_discard]
      refine Ends.run_bind (run_get_page _ _) (Ends.run_bind (run_madvise_dontneed _ _) ?_)
      obtain ⟨hgone, hio⟩ := s.mem.app_turn.discard_spec (s.pol.page v.page).va
      refine (ih _).mono (fun _ s' hs' => ?_) fun _ he => he
      obtain ⟨hpol, hout, hkeep, hall⟩ := hs'
      refine ⟨hpol, hout.trans (hio.trans s.mem.app_turn_io_fails), fun a ha => hkeep a ?_, ?_⟩
      · exact Mem.discard_none ((s.mem.app_turn_appStep.entry a).1 ha)
      · rintro w hw
        rcases List.mem_cons.1 hw with rfl | hw
        · exact hkeep _ hgone
        · exact hall w hw

/-- The flag loop marks every victim. -/
theorem downdisk_vector_mark_out (vs : List Victim) (s : State α) :
    Ends ((downdisk_vector_mark vs).run s)
      (fun _ s' => s'.mem = s.mem ∧ (∀ i, (s'.pol.page i).va = (s.pol.page i).va) ∧
        (∀ i, (s.pol.page i).swapped_out = true → (s'.pol.page i).swapped_out = true) ∧
        ∀ v ∈ vs, (s'.pol.page v.page).swapped_out = true) fun _ => True := by
  induction vs generalizing s with
  | nil => exact Ends.ok ⟨rfl, fun _ => rfl, fun _ h => h, fun _ hv => (nomatch hv)⟩
  | cons v vs ih =>
      rw [downdisk_vector_mark]
      refine ends_check_page (Ends.run_bind (run_set_page _ _ _) (ends_check_page ?_))
      refine (ih _).mono (fun _ s' hs' => ?_) fun _ he => he
      obtain ⟨hmem, hva, hkeep, hall⟩ := hs'
      refine ⟨hmem, fun i => (hva i).trans ?_, fun i hi => hkeep i ?_, fun w hw => ?_⟩
      · rcases eq_or_ne i v.page with rfl | hne
        · simp
        · simp [Policy.upd_page_ne, hne]
      · rcases eq_or_ne i v.page with rfl | hne
        · simp
        · simpa [Policy.upd_page_ne, hne] using hi
      · rcases List.mem_cons.1 hw with rfl | hw
        · exact hkeep _ (by simp)
        · exact hall w hw

/-- **Batched eviction.** If it returns, every victim is evicted. -/
theorem extmem_migrate_downdisk_vector_gone (vs : List Victim) (s : State α) :
    Ends ((extmem_migrate_downdisk_vector vs).run s)
      (fun _ s' => (∀ v ∈ vs, Out v.page s') ∧
        s'.outcomes = s.outcomes.drop (vs.countP Victim.writeback)) fun _ => True := by
  rw [extmem_migrate_downdisk_vector]
  refine Ends.bind (downdisk_vector_write_used vs s) fun _ s₁ h₁ => ?_
  refine Ends.bind (downdisk_vector_discard_gone vs s₁) ?_
  rintro _ s₂ ⟨hpol, hout, _, hgone⟩
  refine (downdisk_vector_mark_out vs s₂).mono ?_ fun _ he => he
  rintro _ s₃ ⟨hmem, hva, _, hmarked⟩
  refine ⟨fun v hv => ⟨hmarked v hv, ?_⟩, ?_⟩
  · rw [hmem, hva, hpol]
    exact hgone v hv
  · rw [State.outcomes, hmem]
    exact hout.trans h₁

/-! ## Swap-in and prefetch -/

/-- The page is marked as in DRAM. -/
def In (p : PageId) (s : State α) : Prop := (s.pol.page p).in_dram = true

theorem ends_uffdio_copy (va : ℕ) (d : α) (s : State α) :
    Ends ((uffdio_copy va d).run s)
      (fun ret s' => s'.pol = s.pol ∧ s'.outcomes = s.outcomes ∧
        (ret ≠ -1 → s'.mem.pte va = some { data := d })) fun _ => True := by
  rw [run_uffdio_copy]
  split
  · exact ⟨rfl, s.mem.app_turn_io_fails, fun h => absurd rfl h⟩
  · exact ⟨rfl, s.mem.app_turn_io_fails, fun _ => (Mem.copied_spec _ _ _).entry⟩

/-- **Swap-in.** If it returns, the page is in DRAM whatever became of the read. -/
theorem extmem_migrate_updisk_in (p : PageId) (dram_offset : ℕ) (s : State α) :
    Ends ((extmem_migrate_updisk p dram_offset).run s)
      (fun _ s' => In p s' ∧ s'.outcomes = s.outcomes.tail) fun _ => True := by
  rw [extmem_migrate_updisk]
  refine ends_check_page (Ends.run_bind (run_get_page _ _) (ends_check_pol (ends_check_pol ?_)))
  refine Ends.run_bind (run_get_mem _) (Ends.run_bind (run_extmem_disk_read _ _ _) ?_)
  refine Ends.run_bind (run_modify_mem _ _) (Ends.run_bind (run_get_page _ _)
    (Ends.run_bind (run_get_mem _) ?_))
  refine Ends.bind (ends_uffdio_copy _ _ _) fun ret s₁ h₁ => ?_
  refine Ends.check_bind (fun _ => trivial) fun _ => ends_check_page ?_
  exact Ends.of_eq (run_set_page _ _ _) ⟨by simp [In], h₁.2.1⟩

/-- The read loop makes one request for each page. -/
theorem prefetch_read_used (jobs : List (PageId × PageId)) (i : ℕ) (s : State α) :
    Ends ((prefetch_read jobs i).run s)
      (fun _ s' => s'.outcomes = s.outcomes.drop jobs.length) fun _ => True := by
  induction jobs generalizing i s with
  | nil => exact Ends.ok rfl
  | cons j jobs ih =>
      rw [prefetch_read]
      refine Ends.run_bind (run_get_page _ _) (Ends.run_bind (run_get_mem _) ?_)
      refine Ends.run_bind (run_extmem_disk_read _ _ _) (Ends.run_bind (run_modify_mem _ _) ?_)
      refine (ih (i + 1) _).mono (fun _ s' hs' => ?_) fun _ he => he
      have hstep : s'.outcomes = s.outcomes.tail.drop jobs.length := hs'
      rw [hstep, List.drop_tail, List.length_cons]

/-- `lrudisk_ack_swapin` does not touch a struct that is on a list, and puts the page on one. -/
theorem ends_ack_swapin (p f : PageId) (s : State α) :
    Ends ((lrudisk_ack_swapin p f).run s)
      (fun _ s' => s'.mem = s.mem ∧ (s'.pol.page p).list ≠ none ∧
        ∀ i, (s.pol.page i).list ≠ none → i ≠ p ∧ s'.pol.page i = s.pol.page i) fun _ => True := by
  rw [lrudisk_ack_swapin]
  refine Ends.run_bind (run_get_page _ _) (Ends.run_bind (run_get_page _ _) (ends_check_page ?_))
  refine Ends.run_bind (run_get_page _ _) (Ends.check_bind (fun _ => trivial) fun hf => ?_)
  refine ends_check_page (ends_check_page ?_)
  refine Ends.run_bind (run_get_page _ _) (Ends.check_bind (fun _ => trivial) fun hp => ?_)
  refine Ends.run_bind (run_set_page _ _ _) (Ends.run_bind (run_set_page _ _ _) ?_)
  rw [link_reserve]
  refine Ends.run_bind (run_set_page _ _ _) (Ends.run_bind (run_set_page _ _ _)
    (Ends.run_bind (run_set_page _ _ _) (ends_enqueue (ends_enqueue_last ?_))))
  refine ⟨rfl, by simp, fun i hi => ?_⟩
  have hip : i ≠ p := fun he => hi (he ▸ hp)
  have hif : i ≠ f := fun he => hi (he ▸ hf)
  exact ⟨hip, by simp [Policy.enq_page_ne, Policy.upd_page_ne, hip, hif]⟩

/-- The copy loop marks every page, and leaves the structs that are on lists alone. -/
theorem prefetch_finish_in (jobs : List (PageId × PageId)) (n : ℕ) (s : State α) :
    Ends ((prefetch_finish jobs n).run s)
      (fun _ s' => (∀ j ∈ jobs, In j.1 s') ∧ s'.outcomes = s.outcomes ∧
        ∀ i, (s.pol.page i).list ≠ none → s'.pol.page i = s.pol.page i) fun _ => True := by
  induction jobs generalizing n s with
  | nil => exact Ends.ok ⟨fun _ hj => (nomatch hj), rfl, fun _ _ => rfl⟩
  | cons j jobs ih =>
      obtain ⟨p, f⟩ := j
      rw [prefetch_finish]
      refine Ends.run_bind (run_get_page _ _) (Ends.run_bind (run_get_mem _) ?_)
      refine Ends.bind (ends_uffdio_copy _ _ s) ?_
      rintro _ s₁ ⟨hpol, hout, _⟩
      refine Ends.bind (ends_ack_swapin p f s₁) ?_
      rintro _ s₂ ⟨hmem, hlist, hkeep⟩
      refine Ends.run_bind (run_set_page _ _ _) (Ends.run_bind (run_set_page _ _ _) ?_)
      refine (ih (n + 1) _).mono ?_ fun _ he => he
      rintro _ s' ⟨hall, hout', hkeep'⟩
      refine ⟨fun j hj => ?_, ?_, fun i hi => ?_⟩
      · rcases List.mem_cons.1 hj with rfl | hj
        · -- the page is on a list by now, so the rest of the loop does not touch it
          have hp := hkeep' p (by simpa using hlist)
          simp [In, hp]
        · exact hall j hj
      · rw [hout', ← hout]
        exact congrArg (fun m => m.env.io_fails) hmem
      · obtain ⟨hip, hsame⟩ := hkeep i (by rw [hpol]; exact hi)
        have hlist' : (s₂.pol.page i).list ≠ none := by
          rw [hsame, hpol]
          exact hi
        rw [hkeep' i (by simpa [Policy.upd_page_ne, hip] using hlist')]
        simp [Policy.upd_page_ne, hip, hsame, hpol]

/-- The two loops of `core_try_prefetch` that move pages. -/
def prefetch_pages (jobs : List (PageId × PageId)) : Proc α ℕ := do
  prefetch_read jobs 0
  prefetch_finish jobs 0

/-- **Prefetch.** If it returns, every page it selected is in DRAM. -/
theorem prefetch_pages_in (jobs : List (PageId × PageId)) (s : State α) :
    Ends ((prefetch_pages jobs).run s)
      (fun _ s' => (∀ j ∈ jobs, In j.1 s') ∧ s'.outcomes = s.outcomes.drop jobs.length)
      fun _ => True := by
  rw [prefetch_pages]
  refine Ends.bind (prefetch_read_used jobs 0 s) fun _ s₁ h₁ => ?_
  exact (prefetch_finish_in jobs 0 s₁).mono (fun _ _ h => ⟨h.1, h.2.1.trans h₁⟩) fun _ he => he

/-! ## Calls and their requests -/

/-- One of the routines that move pages, with its arguments. -/
inductive Transfer where
  /-- the body of `lrudisk_evictionworker` -/
  | evict (victim : PageId)
  /-- the eviction in `fetch_free_asynch` -/
  | evict_inline (page : PageId)
  /-- `extmem_migrate_downdisk_vector` -/
  | evict_batch (victims : List Victim)
  /-- `extmem_migrate_updisk` -/
  | swapin (page : PageId) (dram_offset : ℕ)
  /-- the reads and copies of `core_try_prefetch` -/
  | prefetch (jobs : List (PageId × PageId))

/-- The pages for which a call makes a storage request, in the order of the requests. -/
def Transfer.requests (s : State α) : Transfer → List PageId
  | .evict victim => if s.writeback victim then [victim] else []
  | .evict_inline page => if s.writeback page then [page] else []
  | .evict_batch victims => (victims.filter Victim.writeback).map Victim.page
  | .swapin page _ => [page]
  | .prefetch jobs => jobs.map Prod.fst

/-- The pages whose request fails. -/
def Transfer.failed (s : State α) (t : Transfer) : List PageId :=
  ((t.requests s).zip s.outcomes).filterMap fun x => if x.2 then some x.1 else none

/-- A page whose write failed is resident with its bytes, and not marked; a page whose read failed
is neither mapped nor marked. -/
def Transfer.Leaves (s s' : State α) (p : PageId) : Transfer → Prop
  | .evict _ | .evict_inline _ | .evict_batch _ =>
      (∃ e e', s.mem.pte (s.pol.page p).va = some e ∧ s'.mem.pte (s.pol.page p).va = some e' ∧
        Touched e e') ∧ (s'.pol.page p).swapped_out = false
  | .swapin _ _ | .prefetch _ =>
      s'.mem.pte (s.pol.page p).va = none ∧ (s'.pol.page p).in_dram = false

/-- A call that was made, with the states before and after. -/
structure Call (α : Type) where
  transfer : Transfer
  before : State α
  after : State α

namespace Call

/-- The routine went from the one state to the other. -/
def Ran (c : Call α) : Prop :=
  match c.transfer with
  | .evict victim => (evict_victim victim).run c.before = .ok ((), c.after)
  | .evict_inline page => ∃ f, (fetch_free_evict page).run c.before = .ok (f, c.after)
  | .evict_batch victims =>
      (extmem_migrate_downdisk_vector victims).run c.before = .ok ((), c.after)
  | .swapin page dram_offset =>
      (extmem_migrate_updisk page dram_offset).run c.before = .ok ((), c.after)
  | .prefetch jobs => ∃ n, (prefetch_pages jobs).run c.before = .ok (n, c.after)

/-- The pages whose request failed in the call. -/
def failed (c : Call α) : List PageId := c.transfer.failed c.before

/-- The call contained the failures of its requests. -/
def Contained (c : Call α) : Prop :=
  ∀ p ∈ c.failed, c.transfer.Leaves c.before c.after p

theorem mem_requests_of_failed {c : Call α} {p : PageId} (h : p ∈ c.failed) :
    p ∈ c.transfer.requests c.before := by
  obtain ⟨⟨q, b⟩, hq, hb⟩ := List.mem_filterMap.1 h
  cases b with
  | false => cases hb
  | true =>
      obtain rfl : q = p := Option.some.inj hb
      exact (List.of_mem_zip hq).1

/-- No page of a request is left as it was. -/
theorem not_leaves {c : Call α} (h : c.Ran) {p : PageId} (hp : p ∈ c.transfer.requests c.before) :
    ¬ c.transfer.Leaves c.before c.after p := by
  obtain ⟨t, s, s'⟩ := c
  cases t with
  | evict v =>
      obtain rfl : p = v := by
        simp only [Transfer.requests] at hp
        split at hp <;> simp_all
      rintro ⟨_, hout⟩
      rw [((evict_victim_gone p s).of_ok h).out.1] at hout
      cases hout
  | evict_inline v =>
      obtain rfl : p = v := by
        simp only [Transfer.requests] at hp
        split at hp <;> simp_all
      obtain ⟨f, hrun⟩ := h
      rintro ⟨_, hout⟩
      rw [((fetch_free_evict_gone p s).of_ok hrun).out.1] at hout
      cases hout
  | evict_batch vs =>
      obtain ⟨v, hv, rfl⟩ := List.mem_map.1 hp
      rintro ⟨_, hout⟩
      have hgone := ((extmem_migrate_downdisk_vector_gone vs s).of_ok h).1 v (List.mem_filter.1 hv).1
      rw [hgone.1] at hout
      cases hout
  | swapin q offset =>
      obtain rfl : p = q := List.mem_singleton.1 hp
      rintro ⟨_, hin⟩
      have hmarked : (s'.pol.page p).in_dram = true := ((extmem_migrate_updisk_in p offset s).of_ok h).1
      rw [hmarked] at hin
      cases hin
  | prefetch jobs =>
      obtain ⟨j, hj, rfl⟩ := List.mem_map.1 hp
      obtain ⟨n, hrun⟩ := h
      rintro ⟨_, hin⟩
      have hmarked : (s'.pol.page j.1).in_dram = true := ((prefetch_pages_in jobs s).of_ok hrun).1 j hj
      rw [hmarked] at hin
      cases hin

/-- **Failures of a call.** They are contained exactly if there are none. -/
theorem contained_iff {c : Call α} (h : c.Ran) : c.Contained ↔ c.failed = [] := by
  constructor
  · intro hc
    refine List.eq_nil_iff_forall_not_mem.2 fun p hp => ?_
    exact not_leaves h (mem_requests_of_failed hp) (hc p hp)
  · intro hnone p hp
    rw [hnone] at hp
    cases hp

/-- A call uses up one outcome for each request. -/
theorem used {c : Call α} (h : c.Ran) :
    c.after.outcomes = c.before.outcomes.drop (c.transfer.requests c.before).length := by
  obtain ⟨t, s, s'⟩ := c
  have hwrite : ∀ v, s.after_write (s.writeback v) =
      s.outcomes.drop (if s.writeback v then [v] else []).length := by
    intro v
    cases hwb : s.writeback v <;> simp [State.after_write]
  cases t with
  | evict v => exact ((evict_victim_gone v s).of_ok h).outcomes.trans (hwrite v)
  | evict_inline v =>
      obtain ⟨f, hrun⟩ := h
      exact ((fetch_free_evict_gone v s).of_ok hrun).outcomes.trans (hwrite v)
  | evict_batch vs =>
      rw [((extmem_migrate_downdisk_vector_gone vs s).of_ok h).2]
      simp [Transfer.requests, List.countP_eq_length_filter]
  | swapin q offset =>
      rw [((extmem_migrate_updisk_in q offset s).of_ok h).2]
      simp [Transfer.requests]
  | prefetch jobs =>
      obtain ⟨n, hrun⟩ := h
      rw [((prefetch_pages_in jobs s).of_ok hrun).2]
      simp [Transfer.requests]

/-- A request of the call failed if one of the outcomes it used up is a failure. -/
theorem failed_eq_nil_iff (c : Call α) :
    c.failed = [] ↔
      ∀ b ∈ c.before.outcomes.take (c.transfer.requests c.before).length, b = false := by
  rw [failed, Transfer.failed]
  generalize c.transfer.requests c.before = pages
  generalize c.before.outcomes = outcomes
  induction pages generalizing outcomes with
  | nil => simp
  | cons p pages ih =>
      cases outcomes with
      | nil => simp
      | cons b outcomes => cases b <;> simp [ih]

end Call

end SwapPrefetch
