/-
No interleaving of the threads loses a page struct.

The threads of the pager hand structs to one another over its lists, and between two lists a struct is
in the hands of the thread that took it off the first. `Pc.carries` says which structs those are at
each point of a program. `Carries C m D` is the rule for a routine: it is entrusted with the structs
of `C`, and what it returns says which structs it is entrusted with then. Whatever other threads do,
a struct that is on no list is one that some thread carries, and the `list` fields agree with the
lists. Nothing is asked of the schedule: races that break other promises of the pager break an
assertion of `enqueue_fifo` at most, and not this.
-/
import Mathlib.Tactic
import SwapPrefetch.PageClaims

set_option autoImplicit false

namespace SwapPrefetch

open Prog

variable {β γ : Type}

/-! ## The rule -/

/-- The lists and their structs agree, and a struct on no list is carried. -/
structure Conserved (n : ℕ) (carried : List PageId) (P : Policy) : Prop where
  linked : P.WellLinked
  npages : P.npages = n
  off : ∀ i, i < n → (P.page i).list = none → i ∈ carried

theorem Conserved.mono {n : ℕ} {C D : List PageId} {P : Policy} (h : Conserved n C P) (hCD : C ⊆ D) :
    Conserved n D P :=
  ⟨h.linked, h.npages, fun i hi hl => hCD (h.off i hi hl)⟩

/-- From carrying `C` the routine gets to carrying `D b`, and nothing else goes off the lists. -/
def Carries (C : List PageId) (m : Proc Unit β) (D : β → List PageId) : Prop :=
  ∀ n rest s, Conserved n (C ++ rest) s.pol →
    Ends (m.run s) (fun b s' => Conserved n (D b ++ rest) s'.pol) fun _ => True

namespace Carries

variable {C : List PageId} {D : β → List PageId} {E : γ → List PageId} {i : PageId}

theorem pure {b : β} (h : C ⊆ D b) : Carries C (Pure.pure b) D := fun _ _ _ hs =>
  hs.mono (List.append_subset.2 ⟨fun _ hx => List.mem_append_left _ (h hx),
    fun _ hx => List.mem_append_right _ hx⟩)

theorem throw (e : Fault) : Carries C (MonadExcept.throw e : Proc Unit β) D := fun _ _ _ _ => trivial

/-- **Sequencing.** -/
theorem bind {m : Proc Unit β} {k : β → Proc Unit γ} (hm : Carries C m D)
    (hk : ∀ b, Carries (D b) (k b) E) : Carries C (m >>= k) E := fun n rest s hs =>
  Ends.bind (hm n rest s hs) fun b s' hs' => hk b n rest s' hs'

theorem ite {c : Prop} [Decidable c] {m m' : Proc Unit β} (h : c → Carries C m D)
    (h' : ¬ c → Carries C m' D) : Carries C (if c then m else m') D := by
  split
  · exact h ‹c›
  · exact h' ‹¬ c›

theorem check (c : Prop) [Decidable c] (e : Fault) :
    Carries C (Prog.check c e) fun _ => C := by
  intro n rest s hs
  by_cases hc : c
  · rw [run_check_pos hc]
    exact hs
  · rw [run_check_neg hc]
    trivial

/-- A routine that leaves structs and lists alone. -/
theorem mem {m : Proc Unit β} (hm : MemOnly m) : Carries C m fun _ => C := by
  intro n rest s hs
  refine (hm s).mono (fun _ s' hpol => ?_) fun _ _ => trivial
  rw [hpol]
  exact hs

/-! ### Structs and lists -/

/-- Assignments to a struct, but not to its list. -/
theorem set_page {f : UserPage → UserPage} (hf : ∀ p, (f p).list = p.list) :
    Carries C (SwapPrefetch.set_page i f) fun _ => C := by
  intro n rest s hs
  have hlist : ∀ j, ((s.pol.upd i f).page j).list = (s.pol.page j).list := by
    intro j
    show (Function.update s.pol.page i _ j).list = _
    by_cases hj : j = i
    · rw [hj, Function.update_self, hf]
    · rw [Function.update_of_ne hj]
  exact Ends.ok ⟨hs.linked.upd (hf _), hs.npages, fun j hj hl => hs.off j hj ((hlist j).symm.trans hl)⟩

/-- Anything but structs and lists. -/
theorem modify_pol {f : Policy → Policy} (hp : ∀ P, (f P).page = P.page)
    (hl : ∀ P, (f P).lists = P.lists) (hn : ∀ P, (f P).npages = P.npages) :
    Carries C (SwapPrefetch.modify_pol f) fun _ => C := by
  intro n rest s hs
  refine Ends.ok ⟨?_, (hn _).trans hs.npages, fun j hj hnone => hs.off j hj ?_⟩
  · show Ownership.Linked (f s.pol).lists fun i => ((f s.pol).page i).list
    rw [hp, hl]
    exact hs.linked
  · rw [← hp s.pol]
    exact hnone

/-- A struct that is put on a list need not be carried any more. -/
theorem enqueue (q : ListId) (i : PageId) :
    Carries (i :: C) (enqueue_fifo q i) fun _ => C := by
  intro n rest s hs
  by_cases hi : (s.pol.page i).list = none
  · have hrun : (enqueue_fifo q i : Proc Unit Unit).run s = .ok ((), ⟨s.pol.enq q i, s.mem⟩) :=
      run_enqueue_fifo hi
    rw [hrun]
    refine Ends.ok ⟨hs.linked.enq hi, hs.npages, fun j hj hl => ?_⟩
    have hl : (Function.update s.pol.page i { s.pol.page i with list := some q } j).list = none := hl
    by_cases hji : j = i
    · rw [hji, Function.update_self] at hl
      cases hl
    · rw [Function.update_of_ne hji] at hl
      exact (List.mem_cons.1 (hs.off j hj hl)).resolve_left hji
  · rw [enqueue_fifo, run_bind_ok (run_get_page s i), run_bind_error (run_check_neg hi _ _)]
    trivial

/-! ### Before other statements -/

theorem reads {k : UserPage → Proc Unit γ} (hk : ∀ p, Carries C (k p) E) :
    Carries C (get_page i >>= k) E :=
  (mem (memOnly_get_page i)).bind hk

theorem requires {c : Prop} [Decidable c] {e : Fault} {k : Unit → Proc Unit γ}
    (hk : Carries C (k ()) E) : Carries C (Prog.check c e >>= k) E :=
  (check c e).bind fun _ => hk

/-- An assertion about a struct. -/
theorem asserts {c : UserPage → Prop} [∀ p, Decidable (c p)] {e : Fault} {k : Unit → Proc Unit γ}
    (hk : Carries C (k ()) E) : Carries C (get_page i >>= fun p => Prog.check (c p) e >>= k) E :=
  reads fun _ => requires hk

/-- An assertion about the sizes. -/
theorem bounds {c : Policy → Prop} [∀ P, Decidable (c P)] {e : Fault} {k : Unit → Proc Unit γ}
    (hk : Carries C (k ()) E) : Carries C (get_pol >>= fun P => Prog.check (c P) e >>= k) E :=
  (mem memOnly_get_pol).bind fun _ => requires hk

theorem assigns {f : UserPage → UserPage} {k : Unit → Proc Unit γ} (hk : Carries C (k ()) E)
    (hf : ∀ p, (f p).list = p.list) : Carries C (SwapPrefetch.set_page i f >>= k) E :=
  (set_page hf).bind fun _ => hk

theorem skips {m : Proc Unit β} {k : β → Proc Unit γ} (hm : MemOnly m)
    (hk : ∀ b, Carries C (k b) E) : Carries C (m >>= k) E :=
  (mem hm).bind hk

/-- What is unlinked is carried. -/
theorem unlinked {n : ℕ} {rest : List PageId} {P : Policy} {q : ListId} (hs : Conserved n rest P)
    (hi : (P.page i).list = some q) : Conserved n (i :: rest) (P.unlink q i) := by
  refine ⟨hs.linked.unlink hi, hs.npages, fun j hj hl => ?_⟩
  have hl : (Function.update P.page i { P.page i with list := none } j).list = none := hl
  by_cases hji : j = i
  · rw [hji]
    exact List.mem_cons_self
  · rw [Function.update_of_ne hji] at hl
    exact List.mem_cons_of_mem i (hs.off j hj hl)

theorem dequeue (q : ListId) : Carries C (dequeue_fifo q) fun r => r.toList ++ C := by
  intro n rest s hs
  rcases hq : s.pol.lists q with _ | ⟨i, l⟩
  · rw [run_dequeue_fifo_nil hq]
    exact hs
  · rw [run_dequeue_fifo_cons hq]
    refine unlinked hs ((hs.linked.mem_iff q i).1 ?_)
    rw [hq]
    exact List.mem_cons_self

theorem dequeue_vector (q : ListId) (nr_fetch : ℕ) :
    Carries C (dequeue_fifo_vector q nr_fetch) fun l => l ++ C := by
  induction nr_fetch generalizing C with
  | zero => exact pure (List.Subset.refl _)
  | succ nr_fetch ih =>
      refine (dequeue q).bind fun r => ?_
      cases r with
      | none => exact pure (List.Subset.refl _)
      | some page =>
          refine ih.bind fun l => pure ?_
          intro x hx
          simp only [Option.toList_some, List.mem_append, List.mem_cons, List.not_mem_nil,
            or_false] at hx ⊢
          tauto

theorem tryremove (l : Option ListId) (i : PageId) :
    Carries C (page_list_tryremove_page l i) fun ret => if ret = 0 then i :: C else C := by
  cases l with
  | none => exact pure (List.Subset.refl _)
  | some q =>
      intro n rest s hs
      by_cases hi : (s.pol.page i).list = some q
      · rw [run_tryremove hi ((hs.linked.mem_iff q i).2 hi)]
        exact unlinked hs hi
      · have hrun : (page_list_tryremove_page (some q) i : Proc Unit ℤ).run s = .ok (-1, s) := by
          simp only [page_list_tryremove_page, run_bind, run_get_page, ok_bind, ne_eq, hi,
            not_false_eq_true, if_true, run_pure]
        rw [hrun]
        exact hs

/-- The removal has to succeed. -/
theorem tryremove_check (l : Option ListId) (i : PageId) (e : Fault) {k : Unit → Proc Unit β}
    (hk : Carries (i :: C) (k ()) D) :
    Carries C (page_list_tryremove_page l i >>= fun ret => Prog.check (ret = 0) e >>= k) D := by
  refine (tryremove l i).bind fun ret => ?_
  by_cases hret : ret = 0
  · rw [if_pos hret]
    exact requires hk
  · rw [if_neg hret]
    intro n rest s _
    rw [run_bind_error (run_check_neg hret e s)]
    trivial

theorem detach_page (i : PageId) : Carries C (lrudisk_detach_page i) fun _ => i :: C := by
  refine asserts ((tryremove _ i).bind fun ret n rest s hs => ?_)
  by_cases hret : ret = 0
  · rw [if_pos hret] at hs
    rw [run_check_pos hret]
    exact hs
  · rw [run_check_neg hret]
    trivial

theorem detach_reserve (i : PageId) (stuck : Fault) :
    Carries C (SwapPrefetch.detach_reserve i stuck) fun d => d :: C := by
  refine reads fun p => ?_
  cases p.reserve with
  | none => exact throw _
  | some d =>
      exact asserts (reads fun _ => requires (tryremove_check _ d stuck (pure (List.Subset.refl _))))

end Carries

/-! ## What a thread carries -/

/-- The pages and the frames of the jobs of `core_try_prefetch`. -/
def jobsCarried (jobs : List (PageId × PageId)) : List PageId := jobs.flatMap fun j => [j.1, j.2]

/-- The victims of a batch and their disk pages. -/
def victimsCarried (victims : List Victim) : List PageId :=
  victims.flatMap fun v => [v.page, v.diskpage]

def Use.carries : Use → List PageId
  | .swapin page _ => [page]
  | .prefetch page _ _ jobs => page :: jobsCarried jobs
  | .first _ => []

def Evictor.carries : Evictor → List PageId
  | .worker => []
  | .vector rest => victimsCarried rest
  | .inline use => use.carries

/-- The disk page of an eviction, while the evictor has it. -/
def spareCarried (b : Bool) (diskpage : PageId) : List PageId := if b then [diskpage] else []

/-- The structs that a thread has taken off a list and not yet put on one. -/
def Pc.carries : Pc → List PageId
  | .start page _ => [page]
  | .fetch use | .reclaim use | .inline use => use.carries
  | .got use freepage => freepage :: use.carries
  | .slot page freepage _ => [freepage, page]
  | .link page freepage jobs => freepage :: page :: jobsCarried (jobs.getD [])
  | .enter page jobs => page :: jobsCarried (jobs.getD [])
  | .in_dram _ jobs => jobsCarried jobs
  | .finish _ jobs => jobsCarried (jobs.getD [])
  | .select _ _ jobs | .claim_next _ _ _ jobs | .detach_next _ _ _ jobs | .read jobs
  | .copy jobs => jobsCarried jobs
  | .ack page freepage jobs => freepage :: page :: jobsCarried jobs
  | .examine page use | .put page _ use => page :: (use.map Use.carries).getD []
  | .evict victim who | .protect victim who | .backing victim _ who => victim :: who.carries
  | .down victim diskpage _ _ who => victim :: diskpage :: who.carries
  | .write e who | .out e who | .mark e who => e.victim :: e.diskpage :: who.carries
  -- with a reserve the frame is put back first, without one the victim
  | .return_frame e who => e.diskpage :: (spareCarried e.reserved e.victim ++ who.carries)
  | .to_disk e who =>
      e.victim :: (spareCarried (!e.reserved || who.isInline) e.diskpage ++ who.carries)
  | .evicted e who | .release e who | .settle e who =>
      spareCarried who.isInline e.diskpage ++ who.carries
  | .vector_prepare victims done => victims ++ done.map Victim.page
  | .vector_protect victim _ victims done => victim :: (victims ++ done.map Victim.page)
  | .vector_diskpages victims done => victims.map Victim.page ++ victimsCarried done
  | .vector_write victims | .vector_mark victims | .vector_track victims => victimsCarried victims
  | .insert _ newpage | .put_free newpage _ | .map newpage | .first_migrating newpage
  | .first_swapped_out newpage | .track newpage => [newpage]
  | .remove_va page _ | .remove_backing page _ | .remove_free page _ _ => [page]
  | .remove_reserve page reserve_page _ => [reserve_page, page]
  | _ => []

/-! ## One step -/

namespace Threads

open Carries (reads asserts requires bounds assigns skips)

variable {who : Evictor} {e : Eviction} {u : Unmap} {jobs : List (PageId × PageId)}
  {C : List PageId}

theorem carries_find (va : ℕ) : Carries C (find_page va) fun _ => C :=
  Carries.mem fun _ => rfl

theorem carries_account (bytes freed : ℕ) :
    Carries C (modify_pol fun s => s.account bytes freed) fun _ => C :=
  Carries.modify_pol (fun _ => rfl) (fun _ => rfl) fun _ => rfl

/-- The end of a step that keeps what it carries. -/
theorem keeps {pc : Pc} (h : pc.carries = C) : Carries C (pure pc) Pc.carries :=
  Carries.pure (h ▸ List.Subset.refl _)

/-- A look at a struct, after which the step may be over. -/
theorem stops {i : PageId} {c : UserPage → Prop} [∀ p, Decidable (c p)] {pc : Pc} {m : Proc Unit Pc}
    (h : pc.carries = C) (hm : Carries C m Pc.carries) :
    Carries C (get_page i >>= fun p => if c p then pure pc else m) Pc.carries :=
  reads fun _ => Carries.ite (fun _ => keeps h) fun _ => hm

theorem dispatch_carries (c : Choice) : Carries [] (dispatch c) Pc.carries := by
  cases c with
  | fault fault_addr =>
      refine (carries_find _).bind fun r => ?_
      cases r with
      | none => exact requires (keeps rfl)
      | some page => exact stops rfl (keeps rfl)
  | populate _ | try_prefetch _ | munmap _ _ => exact requires (keeps rfl)
  | evictionworker =>
      refine (Carries.dequeue _).bind fun r => ?_
      cases r with
      | none => exact keeps rfl
      | some victim => exact keeps rfl
  | evictionworker_vector => exact (Carries.dequeue_vector _ _).bind fun _ => keeps rfl
  | kswapd | go | hit | scan_inactive | scan_active | give_up => exact keeps rfl

/-! ### Swap-ins -/

theorem async_finish_carries (page : PageId) (dram_offset : ℕ) :
    Carries C (core_migrate_up_async_finish page dram_offset) fun _ => C := by
  refine asserts (reads fun _ => bounds (bounds (bounds (bounds ?_))))
  refine reads fun _ => skips memOnly_get_mem fun _ => skips (memOnly_uffdio_copy _) fun _ => ?_
  exact requires (asserts (Carries.set_page fun _ => rfl))

theorem got_carries (use : Use) (freepage : PageId) :
    Carries (freepage :: use.carries) (got freepage use) Pc.carries := by
  cases use with
  | swapin page file_offset =>
      refine asserts (reads fun _ => ?_)
      exact (async_finish_carries _ _).bind fun _ => keeps rfl
  | prefetch page left page_boundry jobs =>
      refine assigns (Carries.pure ?_) fun _ => rfl
      show freepage :: page :: jobsCarried jobs ⊆ jobsCarried (jobs ++ [(page, freepage)])
      rw [jobsCarried, jobsCarried, List.flatMap_append, List.flatMap_singleton]
      intro x hx
      simp only [List.mem_cons, List.mem_append, List.not_mem_nil, or_false] at hx ⊢
      tauto
  | first page_boundry => exact assigns (keeps rfl) fun _ => rfl

/-! ### Scans and frames -/

theorem scanning_carries (use : Option Use) :
    (scanning use).carries = (use.map Use.carries).getD [] := by
  cases use with
  | none => rfl
  | some use => rfl

theorem scan_carries (c : Choice) (use : Option Use) {stop again : Pc}
    (hstop : stop.carries = (use.map Use.carries).getD [])
    (hagain : again.carries = (use.map Use.carries).getD []) :
    Carries ((use.map Use.carries).getD []) (scan c use stop again) Pc.carries := by
  unfold scan
  split
  · refine (Carries.dequeue _).bind fun r => ?_
    cases r with
    | none => exact keeps hagain
    | some page => exact keeps rfl
  · refine (Carries.dequeue _).bind fun r => ?_
    cases r with
    | none => exact keeps hagain
    | some page => exact assigns (keeps rfl) fun _ => rfl
  · exact Carries.throw _
  · exact keeps hstop

/-- A frame or a victim is looked for. -/
theorem carries_take {q : ListId} {f : PageId → Pc} {again : Pc} (hf : ∀ i, (f i).carries = i :: C)
    (hagain : again.carries = C) :
    Carries C (do match ← dequeue_fifo q with
                  | some page => pure (f page)
                  | none => pure again) Pc.carries := by
  refine (Carries.dequeue _).bind fun r => ?_
  cases r with
  | none => exact keeps hagain
  | some page => exact keeps (hf page)

/-! ### Evictions -/

theorem backing_carries (victim : PageId) (writeback : Bool) :
    Carries (victim :: who.carries) (backing victim writeback who) Pc.carries := by
  have hswap : ∀ d, d :: victim :: who.carries ⊆ victim :: d :: who.carries := fun d x hx =>
    (List.Perm.swap victim d who.carries).mem_iff.1 hx
  refine reads fun _ => Carries.ite (fun _ => ?_) fun _ => ?_
  · exact (Carries.detach_reserve _ _).bind fun d => Carries.pure (hswap d)
  · refine (Carries.dequeue _).bind fun r => ?_
    cases r with
    | none => exact Carries.throw _
    | some d => exact asserts (Carries.pure (hswap d))

theorem write_carries (e : Eviction) (who : Evictor) :
    Carries (e.victim :: e.diskpage :: who.carries) (write e who) Pc.carries := by
  have hend : Carries (e.victim :: e.diskpage :: who.carries) (do
      madvise_dontneed (← get_page e.victim).va
      pure (Pc.out e who)) Pc.carries :=
    reads fun _ => skips (memOnly_madvise_dontneed _) fun _ => keeps rfl
  refine assigns (asserts (reads fun _ => bounds (bounds (bounds (bounds ?_))))) fun _ => rfl
  refine Carries.ite (fun _ => ?_) fun _ => hend
  exact reads fun _ => skips (memOnly_extmem_disk_write _ _) fun _ => hend

/-- The victim is put on a list first if its slot is new, and its frame if there is a reserve. -/
theorem mark_carries (e : Eviction) (who : Evictor) :
    Carries (e.victim :: e.diskpage :: who.carries) (mark e who) Pc.carries := by
  refine asserts (assigns (asserts (Carries.ite (fun h => ?_) fun h => ?_)) fun _ => rfl)
  · refine Carries.pure fun x hx => ?_
    simp only [Pc.carries, spareCarried, h, if_true, List.mem_cons, List.cons_append,
      List.nil_append] at hx ⊢
    tauto
  · refine Carries.pure fun x hx => ?_
    simp only [Pc.carries, spareCarried, h, Bool.not_false, Bool.true_or, if_true, List.mem_cons,
      List.cons_append, List.nil_append] at hx ⊢
    exact hx

/-- Whether the frame is kept, and what comes next. -/
theorem carries_after_frame (e : Eviction) (who : Evictor)
    (hC : C ⊆ spareCarried who.isInline e.diskpage ++ (spareCarried e.reserved e.victim ++ who.carries)) :
    Carries C (if e.reserved then pure (Pc.to_disk e who) else pure (Pc.evicted e who)) Pc.carries := by
  refine Carries.ite (fun h => Carries.pure fun x hx => ?_) fun h => Carries.pure fun x hx => ?_
  · have hx := hC hx
    simp only [h, spareCarried, if_true, List.mem_append, List.mem_cons, List.not_mem_nil,
      or_false] at hx
    simp only [Pc.carries, h, Bool.not_true, Bool.false_or, spareCarried, List.mem_cons,
      List.mem_append]
    tauto
  · have hx := hC hx
    simpa only [Pc.carries, h, spareCarried, Bool.false_eq_true, if_false, List.nil_append] using hx

theorem return_frame_carries (e : Eviction) (who : Evictor) :
    Carries (e.diskpage :: (spareCarried e.reserved e.victim ++ who.carries)) (return_frame e who)
      Pc.carries := by
  -- the workers put the frame on a list, the caller of `fetch_free_asynch` keeps it
  have hend : Carries (e.diskpage :: (spareCarried e.reserved e.victim ++ who.carries)) (do
      if who.isInline = false then
        enqueue_fifo .dram_free_list e.diskpage
      if e.reserved then pure (Pc.to_disk e who) else pure (.evicted e who)) Pc.carries := by
    refine Carries.ite (fun h => ?_) fun h => ?_
    · refine (Carries.enqueue _ _).bind fun _ => carries_after_frame e who ?_
      exact List.subset_append_right _ _
    · refine carries_after_frame e who ?_
      rw [eq_true_of_ne_false h]
      exact List.Subset.refl _
  refine Carries.ite (fun _ => ?_) fun _ => assigns hend fun _ => rfl
  exact assigns (assigns hend fun _ => rfl) fun _ => rfl

theorem to_disk_carries (e : Eviction) (who : Evictor) :
    Carries (e.victim :: (spareCarried (!e.reserved || who.isInline) e.diskpage ++ who.carries))
      (to_disk e who) Pc.carries := by
  refine have hend := ?_; Carries.ite (fun _ => asserts hend) fun _ => hend
  refine (Carries.enqueue _ _).bind fun _ => Carries.ite (fun h => ?_) fun h => ?_
  · refine keeps ?_
    rw [h]
    rfl
  · refine Carries.pure ?_
    simp [Pc.carries, h, spareCarried]

theorem evict_next_carries (e : Eviction) (who : Evictor) :
    (evict_next e.diskpage who).carries = spareCarried who.isInline e.diskpage ++ who.carries := by
  cases who with
  | worker => rfl
  | vector rest => rfl
  | inline use => rfl

/-! ### Batches -/

theorem vector_protect_carries (victim : PageId) (old_offset : ℕ) (victims : List PageId)
    (done : List Victim) :
    Carries (victim :: (victims ++ done.map Victim.page))
      (vector_protect victim old_offset victims done) Pc.carries := by
  refine skips (memOnly_extmem_wp_page _ _) fun _ => ?_
  refine skips (memOnly_pt_get_bits _) fun bits => reads fun _ => Carries.pure ?_
  intro x hx
  simp only [Pc.carries, List.map_append, List.map_cons, List.map_nil, List.mem_append,
    List.mem_cons, List.not_mem_nil, or_false] at hx ⊢
  tauto

theorem vector_diskpages_carries (victims done : List Victim) :
    Carries (victims.map Victim.page ++ victimsCarried done) (vector_diskpages victims done)
      Pc.carries := by
  cases victims with
  | nil => exact keeps rfl
  | cons v victims =>
      have hnext : ∀ d, d :: (v.page :: victims.map Victim.page ++ victimsCarried done) ⊆
          (Pc.vector_diskpages victims (done ++ [{ v with diskpage := d }])).carries := by
        intro d x hx
        simp only [Pc.carries, victimsCarried, List.flatMap_append, List.flatMap_singleton,
          List.mem_append, List.mem_cons, List.cons_append, List.not_mem_nil, or_false] at hx ⊢
        tauto
      refine reads fun _ => Carries.ite (fun _ => ?_) fun _ => ?_
      · exact (Carries.detach_reserve _ _).bind fun d => Carries.pure (hnext d)
      · refine (Carries.dequeue _).bind fun r => ?_
        cases r with
        | none => exact Carries.throw _
        | some d => exact asserts (Carries.pure (hnext d))

theorem downdisk_vector_mark_carries (victims : List Victim) :
    Carries C (downdisk_vector_mark victims) fun _ => C := by
  induction victims with
  | nil => exact Carries.pure (List.Subset.refl _)
  | cons v victims ih => exact asserts (assigns (asserts ih) fun _ => rfl)

theorem vector_track_carries (victims : List Victim) :
    Carries (victimsCarried victims) (vector_track victims) Pc.carries := by
  cases victims with
  | nil => exact keeps rfl
  | cons v victims =>
      refine reads fun p => Carries.ite (fun h => Carries.pure ?_) fun h => ?_
      · have h : p.has_reserve = true := h
        intro x hx
        simp only [victimsCarried, List.flatMap_cons, Pc.carries, spareCarried, h, if_true,
          Evictor.carries, List.cons_append, List.nil_append, List.mem_cons] at hx ⊢
        tauto
      · have h : p.has_reserve = false := eq_false_of_ne_true h
        refine asserts (Carries.pure ?_)
        intro x hx
        simpa only [victimsCarried, List.flatMap_cons, Pc.carries, spareCarried, h, Bool.not_false,
          Bool.true_or, if_true, Evictor.carries, List.cons_append, List.nil_append] using hx

/-! ### Every point -/

/-- **One step** of a thread, at any point and whatever the memory is like. -/
theorem act_carries (c : Choice) (pc : Pc) : Carries pc.carries (act c pc) Pc.carries := by
  cases pc with
  | idle => exact dispatch_carries c
  | wait page | unmap_spin page u =>
      exact stops rfl (keeps rfl)
  | claim page =>
      refine stops rfl (stops rfl ?_)
      exact assigns (keeps rfl) fun _ => rfl
  | lookup page =>
      refine Carries.ite (fun _ => ?_) fun _ => keeps rfl
      refine reads fun _ => skips (memOnly_uffdio_copy _) fun _ => ?_
      exact Carries.ite (fun _ => keeps rfl) fun _ => keeps rfl
  -- one assignment to a flag, an offset or an address
  | hit_in_dram _ | hit_swapped_out _ | hit_migrating _ | finish_hit _ | slot _ _ _ | in_dram _ _
  | evict _ _ | out _ _ | first_migrating _ | first_swapped_out _ | unmap_relock _ _
  | remove_migrating _ _ | remove_va _ _ => exact assigns (keeps rfl) fun _ => rfl
  | detach page => exact reads fun _ => (Carries.detach_page page).bind fun _ => keeps rfl
  | start page file_offset =>
      have hstart : Carries [page] (do core_migrate_up_async_start page
                                       pure (Pc.fetch (.swapin page file_offset))) Pc.carries :=
        skips (memOnly_async_start page) fun _ => keeps rfl
      refine reads fun _ => Carries.ite (fun _ => ?_) fun _ => hstart
      exact assigns hstart fun _ => rfl
  | fetch use => exact carries_take (fun _ => rfl) rfl
  | reclaim use => exact scan_carries c (some use) rfl rfl
  | inline use => exact carries_take (fun _ => rfl) rfl
  | got use freepage => exact got_carries use freepage
  -- the struct of the frame is linked as the reserve, then the page goes on its list
  | link page freepage jobs =>
      refine assigns (assigns (assigns ?_ fun _ => rfl) fun _ => rfl) fun _ => rfl
      exact (Carries.enqueue _ _).bind fun _ => keeps rfl
  | enter page jobs =>
      refine (Carries.enqueue _ _).bind fun _ => ?_
      cases jobs with
      | none => exact keeps rfl
      | some jobs => exact keeps rfl
  | finish page jobs =>
      refine assigns ?_ fun _ => rfl
      cases jobs with
      | none => exact keeps rfl
      | some jobs => exact keeps rfl
  | select left page_boundry jobs =>
      cases left with
      | zero => exact keeps rfl
      | succ left =>
          refine (carries_find _).bind fun r => ?_
          cases r with
          | none => exact keeps rfl
          | some page => exact asserts (keeps rfl)
  | claim_next page left page_boundry jobs =>
      refine stops rfl (stops rfl (stops rfl ?_))
      exact assigns (keeps rfl) fun _ => rfl
  | detach_next page left page_boundry jobs =>
      exact asserts ((Carries.detach_page page).bind fun _ => keeps rfl)
  | read jobs => exact skips (memOnly_prefetch_read jobs 0) fun _ => keeps rfl
  -- `ack` names the frame of the first job before its page
  | copy jobs =>
      cases jobs with
      | nil => exact keeps rfl
      | cons j jobs =>
          refine reads fun _ => skips (memOnly_uffdio_copy _) fun _ => Carries.pure ?_
          exact fun x hx => (List.Perm.swap j.1 j.2 (jobsCarried jobs)).mem_iff.2 hx
  | ack page freepage jobs =>
      refine reads fun _ => reads fun _ => asserts (asserts (asserts (asserts (asserts ?_))))
      exact assigns (assigns (keeps rfl) fun _ => rfl) fun _ => rfl
  | kswapd => exact scan_carries c none rfl rfl
  | examine page use =>
      refine skips (memOnly_pt_get_bits page) fun bits => Carries.ite (fun _ => ?_) fun _ => ?_
      · refine assigns (skips (memOnly_pt_clear_accessed_flag page) fun _ => ?_) fun _ => rfl
        refine reads fun _ => Carries.ite (fun _ => ?_) fun _ => keeps rfl
        exact assigns (keeps rfl) fun _ => rfl
      · exact assigns (keeps rfl) fun _ => rfl
  | put page result use =>
      exact (Carries.enqueue _ _).bind fun _ => keeps (scanning_carries use)
  | protect victim who =>
      refine skips (memOnly_extmem_wp_page _ _) fun _ => ?_
      exact skips (memOnly_pt_get_bits _) fun _ => reads fun _ => keeps rfl
  | backing victim writeback who => exact backing_carries victim writeback
  | down victim diskpage reserved writeback who =>
      refine reads fun _ => reads fun _ => assigns ?_ fun _ => rfl
      refine Carries.ite (fun _ => ?_) fun _ => keeps rfl
      exact skips (memOnly_extmem_wp_page _ _) fun _ => keeps rfl
  | write e who => exact write_carries e who
  | mark e who => exact mark_carries e who
  | return_frame e who => exact return_frame_carries e who
  | to_disk e who => exact to_disk_carries e who
  | evicted e who => exact Carries.ite (fun _ => keeps rfl) fun _ => asserts (asserts (keeps rfl))
  | release e who =>
      refine assigns (Carries.ite (fun _ => ?_) fun _ => keeps rfl) fun _ => rfl
      exact keeps (evict_next_carries e who)
  | settle e who => exact assigns (keeps (evict_next_carries e who)) fun _ => rfl
  | vector_prepare victims done =>
      cases victims with
      | nil => exact keeps (List.append_nil _)
      | cons victim victims => exact assigns (reads fun _ => keeps rfl) fun _ => rfl
  | vector_protect victim old_offset victims done =>
      exact vector_protect_carries victim old_offset victims done
  | vector_diskpages victims done => exact vector_diskpages_carries victims done
  | vector_write victims =>
      exact skips (memOnly_vector_write victims) fun _ =>
        skips (memOnly_vector_discard victims) fun _ => keeps rfl
  | vector_mark victims => exact (downdisk_vector_mark_carries victims).bind fun _ => keeps rfl
  | vector_track victims => exact vector_track_carries victims
  | insert page_boundry newpage =>
      refine (carries_find _).bind fun r => ?_
      cases r with
      | some page => exact keeps rfl
      | none =>
          refine assigns (asserts (assigns (asserts (asserts ?_)) fun _ => rfl)) fun _ => rfl
          have hadd : Carries [newpage] (add_page newpage) fun _ => [newpage] :=
            reads fun _ => bounds (Carries.modify_pol (fun _ => rfl) (fun _ => rfl) fun _ => rfl)
          exact hadd.bind fun _ => keeps rfl
  | put_free newpage page =>
      have hput : Carries [newpage] (lrudisk_put_page_free newpage) fun _ => [] :=
        asserts (asserts (Carries.enqueue _ _))
      exact hput.bind fun _ => keeps rfl
  | map newpage =>
      refine asserts (reads fun _ => skips (memOnly_uffdio_copy _) fun _ => ?_)
      exact requires (keeps rfl)
  | track newpage =>
      have htrack : Carries [newpage] (lrudisk_track_page newpage) fun _ => [] :=
        asserts (Carries.enqueue _ _)
      exact htrack.bind fun _ => (carries_account _ _).bind fun _ => keeps rfl
  | munmap u =>
      refine Carries.ite (fun _ => keeps rfl) fun _ => (carries_find _).bind fun r => ?_
      cases r with
      | none => exact keeps rfl
      | some page => exact keeps rfl
  | unmap_claim page u =>
      refine stops rfl ?_
      exact assigns (keeps rfl) fun _ => rfl
  | remove_index page u =>
      have hremove : Carries [] (remove_page page) fun _ => [] :=
        reads fun _ => Carries.modify_pol (fun _ => rfl) (fun _ => rfl) fun _ => rfl
      exact hremove.bind fun _ => keeps rfl
  -- the loop goes round until the removal succeeds, and the page is carried only then
  | remove_list page u =>
      refine reads fun _ => (Carries.tryremove _ _).bind fun ret => ?_
      refine Carries.ite (fun h => keeps ?_) fun h => keeps ?_
      · exact (if_pos h).symm
      · exact (if_neg h).symm
  -- a page in DRAM may have a reserve, which is then carried too
  | remove_backing page u =>
      refine reads fun _ => Carries.ite (fun _ => ?_) fun _ => ?_
      · refine reads fun _ => Carries.ite (fun _ => ?_) fun _ => keeps rfl
        exact (Carries.detach_reserve _ _).bind fun _ => keeps rfl
      · refine reads fun _ => Carries.ite (fun _ => ?_) fun _ => Carries.throw _
        exact assigns (keeps rfl) fun _ => rfl
  | remove_reserve page reserve_page u =>
      refine assigns ((Carries.enqueue _ _).bind fun _ => ?_) fun _ => rfl
      exact assigns (keeps rfl) fun _ => rfl
  | remove_free page in_dram u => exact (Carries.enqueue _ _).bind fun _ => keeps rfl
  | remove_done page u =>
      exact assigns ((carries_account _ _).bind fun _ => keeps rfl) fun _ => rfl
  | libc_munmap u => exact skips (memOnly_libc_munmap _ _) fun _ => keeps rfl

/-! ## Runs -/

/-- What all threads together carry. -/
def carried (s : Threads) : List PageId := s.threads.flatMap Pc.carries

/-- **A step**, of any thread. -/
theorem step_conserved {n : ℕ} {s : Threads} (h : Conserved n s.carried s.shared.pol) (l : Label) :
    Conserved n (step l s).carried (step l s).shared.pol := by
  rcases step_cases l s with he | ⟨pc, hf, hpc, ⟨pc', shared, hrun, he⟩ | ⟨e, hrun, he⟩⟩
  · rw [he]
    exact h
  · rw [he]
    have hbefore := h.mono (Holdings.flatMap_perm Pc.carries hpc).subset
    have hafter := (act_carries l.choice pc n _ s.shared hbefore).of_ok hrun
    exact hafter.mono (Holdings.flatMap_set_perm Pc.carries hpc pc').symm.subset
  · rw [he]
    exact h

/-- Where the `n` structs are: the lists agree with the `list` fields and hold nothing twice, and a
struct is on exactly one list, or on none and in the hands of a thread. -/
structure Accounted (n : ℕ) (s : Threads) : Prop where
  linked : ∀ q i, i ∈ s.shared.pol.lists q ↔ (s.shared.pol.page i).list = some q
  nodup : ∀ q, (s.shared.pol.lists q).Nodup
  placed : ∀ i < n, (∃! q, i ∈ s.shared.pol.lists q) ∨
    (∀ q, i ∉ s.shared.pol.lists q) ∧ ∃ pc ∈ s.threads, i ∈ pc.carries

theorem Conserved.accounted {n : ℕ} {s : Threads} (h : Conserved n s.carried s.shared.pol) :
    Accounted n s where
  linked := h.linked.mem_iff
  nodup := h.linked.nodup
  placed := fun i hi => by
    rcases hl : (s.shared.pol.page i).list with _ | q
    · exact Or.inr ⟨h.linked.not_mem_of_none hl, List.mem_flatMap.1 (h.off i hi hl)⟩
    · have hq := (h.linked.mem_iff q i).2 hl
      exact Or.inl ⟨q, hq, fun q' hq' => h.linked.unique hq' hq⟩

end Threads

end SwapPrefetch
