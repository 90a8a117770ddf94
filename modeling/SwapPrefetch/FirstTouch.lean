/-
First touches: threads that call `handle_first_fault` at the same time.

A thread takes a frame before it looks into the page index, so a thread that finds the page there
has to put its frame back. Each frame that was free at the start is at one place at any time
(`Place`): on `dram_free_list`, in the hands of a thread, or on `inactive_list` as a new page. A
step moves one frame from one place to another, and that is all there is to the counting: no frame
is lost, and none has two owners.

Threads that lost the race wait until the page is not migrating. The thread that inserted it has
no more than three steps to the assignment that ends the wait, so the calls can always be completed.
-/
import Mathlib.Tactic
import SwapPrefetch.Runs
import SwapPrefetch.ThreadRuns

set_option autoImplicit false

namespace SwapPrefetch

open Prog Holdings

/-! ## Where a frame is -/

/-- Where a frame is that was free at the start. -/
inductive Place where
  /-- on `dram_free_list` -/
  | free
  /-- in the hands of a thread, without an address -/
  | frame
  /-- in the hands of a thread, in the index -/
  | fresh
  /-- the same, not migrating any more -/
  | loose
  /-- on `inactive_list` -/
  | placed
deriving DecidableEq, Repr

/-- What is true of a frame at a place. The addresses of new pages satisfy `A`. -/
def Place.Ok (A : ℕ → Prop) (x : UserPage) : Place → Prop
  | .free => x.list = some .dram_free_list ∧ x.in_dram = true ∧ x.va = 0
  | .frame => x.list = none ∧ x.in_dram = true ∧ x.va = 0
  | .fresh => x.list = none ∧ x.in_dram = true ∧ A x.va ∧ x.swapped_out = false
  | .loose => x.list = none ∧ x.in_dram = true ∧ A x.va ∧ x.swapped_out = false ∧ x.migrating = false
  | .placed => x.list = some .inactive_list ∧ x.in_dram = true ∧ A x.va ∧ x.swapped_out = false ∧
      x.migrating = false

/-- Every frame has one place. -/
def frameRules (A : ℕ → Prop) : Discipline Place UserPage where
  Base := fun _ => True
  Ok := fun k x => k.Ok A x
  Free := fun _ _ => False
  symm := id

/-- The frame that a thread has. -/
def Pc.frames : Pc → List (PageId × Place)
  | .got (.first _) freepage => [(freepage, .frame)]
  | .insert _ newpage => [(newpage, .frame)]
  | .put_free newpage _ => [(newpage, .frame)]
  | .map newpage => [(newpage, .fresh)]
  | .first_migrating newpage => [(newpage, .fresh)]
  | .first_swapped_out newpage => [(newpage, .loose)]
  | .track newpage => [(newpage, .loose)]
  | _ => []

/-- All frames with their places: the free ones, those of the threads, and the new pages. -/
def allFrames (P : Policy) (threads : List Pc) (new : List PageId) : List (PageId × Place) :=
  (P.lists .dram_free_list).map (·, .free) ++ (threads.flatMap Pc.frames ++ new.map (·, .placed))

/-- The thread handles a first fault at `va`. -/
def Pc.At (P : Policy) (va : ℕ) : Pc → Prop
  | .fetch (.first page_boundry) => page_boundry = va
  | .got (.first page_boundry) _ => page_boundry = va
  | .insert page_boundry _ => page_boundry = va
  | .put_free _ page => P.pages va = some page
  | .wait page => P.pages va = some page
  | .map newpage => P.pages va = some newpage
  | .first_migrating newpage => P.pages va = some newpage
  | .first_swapped_out newpage => P.pages va = some newpage
  | .track newpage => P.pages va = some newpage
  | .idle => ∃ page, P.pages va = some page
  | _ => False

/-- The thread still has to take its frame. -/
def Pc.fetches : Pc → Bool
  | .fetch _ => true
  | _ => false

/-- An upper bound for the steps that a thread has left, waits apart. -/
def Pc.rank : Pc → ℕ
  | .fetch _ => 8
  | .got _ _ => 7
  | .insert _ _ => 6
  | .map _ => 4
  | .first_migrating _ => 3
  | .put_free _ _ => 2
  | .first_swapped_out _ => 2
  | .track _ => 1
  | .wait _ => 1
  | _ => 0

/-! ## The invariant -/

/-- The addresses of new pages. -/
def NewAddr (P₀ : Policy) (addrs : List ℕ) (va : ℕ) : Prop :=
  va ∈ addrs ∧ P₀.pages va = none ∧ va ≠ 0

/-- From `P₀`, threads handle first faults at `addrs`; the pages `new` are on `inactive_list`. -/
structure Touch (P₀ : Policy) (addrs : List ℕ) (P : Policy) (threads : List Pc)
    (new : List PageId) : Prop where
  linked : P.WellLinked
  npages : P.npages = P₀.npages
  index : IndexOk P
  grown : ∀ va i, P₀.pages va = some i → P.pages va = some i
  inactive : P.lists .inactive_list = P₀.lists .inactive_list ++ new
  held : Held (frameRules (NewAddr P₀ addrs)) P.page (allFrames P threads new)
  frames : ((allFrames P threads new).map Prod.fst).Perm (P₀.lists .dram_free_list)
  others : ∀ i, i ∉ P₀.lists .dram_free_list → P.page i = P₀.page i
  length : threads.length = addrs.length
  program : ∀ (t va : ℕ) (pc : Pc), addrs[t]? = some va → threads[t]? = some pc → pc.At P va
  enough : threads.countP Pc.fetches ≤ (P.lists .dram_free_list).length

variable {P₀ P P' : Policy} {addrs : List ℕ} {threads : List Pc} {new new' : List PageId}
  {t : ℕ} {pc pc' : Pc} {i : PageId} {k k' : Place} {R : List (PageId × Place)} {x : UserPage}

/-- The index only grows, so the other threads stay where they are. -/
theorem Pc.At.mono {va : ℕ} (h : pc.At P va)
    (hp : ∀ va i, P.pages va = some i → P'.pages va = some i) : pc.At P' va := by
  cases pc with
  | idle =>
      obtain ⟨page, hpage⟩ := h
      exact ⟨page, hp va page hpage⟩
  | wait page => exact hp va page h
  | put_free newpage page => exact hp va page h
  | map newpage => exact hp va newpage h
  | first_migrating newpage => exact hp va newpage h
  | first_swapped_out newpage => exact hp va newpage h
  | track newpage => exact hp va newpage h
  | fetch use => cases use <;> exact h
  | got use freepage => cases use <;> exact h
  | insert page_boundry newpage => exact h
  | _ => exact h.elim

/-- The frames with that of the thread `t` in front. -/
theorem allFrames_perm (P : Policy) (new : List PageId) (ht : threads[t]? = some pc) :
    (allFrames P threads new).Perm
      (pc.frames ++ ((P.lists .dram_free_list).map (·, .free) ++
        ((threads.eraseIdx t).flatMap Pc.frames ++ new.map (·, .placed)))) := by
  unfold allFrames
  refine (List.Perm.append_left _ ((flatMap_perm Pc.frames ht).append_right _)).trans ?_
  rw [List.append_assoc]
  exact List.perm_append_comm_assoc _ _ _

theorem allFrames_set_perm (P : Policy) (new : List PageId) (ht : threads[t]? = some pc) (pc' : Pc) :
    (allFrames P (threads.set t pc') new).Perm
      (pc'.frames ++ ((P.lists .dram_free_list).map (·, .free) ++
        ((threads.eraseIdx t).flatMap Pc.frames ++ new.map (·, .placed)))) := by
  unfold allFrames
  refine (List.Perm.append_left _ ((flatMap_set_perm Pc.frames ht pc').append_right _)).trans ?_
  rw [List.append_assoc]
  exact List.perm_append_comm_assoc _ _ _

/-- How many threads still have to take a frame. -/
theorem countP_set_add (ht : threads[t]? = some pc) (pc' : Pc) (f : Pc → Bool) :
    (threads.set t pc').countP f + (if f pc then 1 else 0) =
      threads.countP f + (if f pc' then 1 else 0) := by
  obtain ⟨hlt, rfl⟩ := List.getElem?_eq_some_iff.1 ht
  have hget := (List.getElem_cons_eraseIdx_perm hlt).countP_eq f
  have hset := (List.set_perm_cons_eraseIdx hlt pc').countP_eq f
  rw [List.countP_cons] at hget hset
  omega

/-- The program points after a step of `t`. -/
theorem Touch.program_set (h : Touch P₀ addrs P threads new) (ht : threads[t]? = some pc)
    (hpages : ∀ va i, P.pages va = some i → P'.pages va = some i)
    (hat : ∀ va, pc.At P va → pc'.At P' va) :
    ∀ (u va : ℕ) (q : Pc), addrs[u]? = some va → (threads.set t pc')[u]? = some q → q.At P' va := by
  intro u va q hva hq
  by_cases hu : u = t
  · subst hu
    obtain ⟨hlt, -⟩ := List.getElem?_eq_some_iff.1 ht
    rw [List.getElem?_set_self hlt] at hq
    cases hq
    exact hat va (h.program u va pc hva ht)
  · rw [List.getElem?_set_ne (Ne.symm hu)] at hq
    exact (h.program u va q hva hq).mono hpages

/-- **A frame changes its place.** -/
theorem Touch.move (h : Touch P₀ addrs P threads new) (ht : threads[t]? = some pc)
    (hall : (allFrames P threads new).Perm ((i, k) :: R))
    (hall' : (allFrames P' (threads.set t pc') new').Perm ((i, k') :: R))
    (hpage : P'.page = Function.update P.page i x)
    (hok : k'.Ok (NewAddr P₀ addrs) x)
    (hlinked : P'.WellLinked) (hn : P'.npages = P.npages) (hindex : IndexOk P')
    (hpages : ∀ va i, P.pages va = some i → P'.pages va = some i)
    (hinactive : P'.lists .inactive_list = P₀.lists .inactive_list ++ new')
    (hat : ∀ va, pc.At P va → pc'.At P' va)
    (henough : (threads.set t pc').countP Pc.fetches ≤ (P'.lists .dram_free_list).length) :
    Touch P₀ addrs P' (threads.set t pc') new' := by
  have hmem : i ∈ P₀.lists .dram_free_list := by
    refine h.frames.mem_iff.1 (List.mem_map.2 ⟨(i, k), ?_, rfl⟩)
    exact hall.mem_iff.2 List.mem_cons_self
  refine ⟨hlinked, hn.trans h.npages, hindex, fun va j hj => hpages va j (h.grown va j hj), hinactive,
    ?_, ?_, fun j hj => ?_, ?_, h.program_set ht hpages hat, henough⟩
  · rw [hpage]
    refine Held.perm ?_ hall'.symm
    exact (h.held.perm hall).change trivial hok fun _ _ _ hf => hf.elim
  · exact ((hall'.map Prod.fst).trans (hall.map Prod.fst).symm).trans h.frames
  · have hji : j ≠ i := fun he => hj (he ▸ hmem)
    rw [hpage, Function.update_of_ne hji]
    exact h.others j hj
  · rw [List.length_set]
    exact h.length

/-- A step that changes no struct and no list. -/
theorem Touch.stay (h : Touch P₀ addrs P threads new) (ht : threads[t]? = some pc)
    (hframes : pc'.frames = pc.frames) (hat : ∀ va, pc.At P va → pc'.At P va)
    (hfetch : pc'.fetches = false) : Touch P₀ addrs P (threads.set t pc') new := by
  have hall : (allFrames P (threads.set t pc') new).Perm (allFrames P threads new) := by
    refine (allFrames_set_perm P new ht pc').trans ?_
    rw [hframes]
    exact (allFrames_perm P new ht).symm
  refine ⟨h.linked, h.npages, h.index, h.grown, h.inactive, h.held.perm hall.symm,
    (hall.map Prod.fst).trans h.frames, h.others, ?_, h.program_set ht (fun _ _ => id) hat, ?_⟩
  · rw [List.length_set]
    exact h.length
  · have hcount := countP_set_add ht pc' Pc.fetches
    rw [hfetch] at hcount
    have := h.enough
    simp only [Bool.false_eq_true, if_false] at hcount
    omega

/-- What is true of the frame that a thread has. -/
theorem Touch.own (h : Touch P₀ addrs P threads new) (ht : threads[t]? = some pc)
    (hpc : pc.frames = [(i, k)]) : k.Ok (NewAddr P₀ addrs) (P.page i) := by
  have hall := allFrames_perm P new ht
  rw [hpc] at hall
  exact (Holdings.held_cons.1 (h.held.perm hall)).2.1

/-- The thread still has to take its frame neither before nor after the step. -/
theorem Touch.enough_set (h : Touch P₀ addrs P threads new) (ht : threads[t]? = some pc)
    (hpc : pc.fetches = false) (hpc' : pc'.fetches = false) {n : ℕ}
    (hn : (P.lists .dram_free_list).length ≤ n) : (threads.set t pc').countP Pc.fetches ≤ n := by
  have hcount := countP_set_add ht pc' Pc.fetches
  rw [hpc, hpc'] at hcount
  exact (Nat.add_right_cancel hcount).le.trans (h.enough.trans hn)

/-- **An assignment** to fields of the frame that a thread has. -/
theorem Touch.upd (f : UserPage → UserPage) (h : Touch P₀ addrs P threads new) (pc' : Pc)
    (ht : threads[t]? = some pc) (hpc : pc.frames = [(i, k)]) (hpc' : pc'.frames = [(i, k')])
    (hl : (f (P.page i)).list = (P.page i).list) (hva : (f (P.page i)).va = (P.page i).va)
    (hok : k.Ok (NewAddr P₀ addrs) (P.page i) → k'.Ok (NewAddr P₀ addrs) (f (P.page i)))
    (hat : ∀ va, pc.At P va → pc'.At P va) (hfetch : pc.fetches = false)
    (hfetch' : pc'.fetches = false) : Touch P₀ addrs (P.upd i f) (threads.set t pc') new := by
  have hall := allFrames_perm P new ht
  rw [hpc] at hall
  have hall' := allFrames_set_perm (P.upd i f) new ht pc'
  rw [hpc'] at hall'
  refine h.move ht hall hall' rfl (hok (h.own ht hpc)) (h.linked.upd hl) rfl
    (h.index.of_va rfl rfl fun j => ?_) (fun _ _ => id) h.inactive
    (fun va ha => (hat va ha).mono fun _ _ => id) (h.enough_set ht hfetch hfetch' le_rfl)
  by_cases hj : j = i
  · simp only [Policy.upd, hj, Function.update_self, hva]
  · simp only [Policy.upd, Function.update_of_ne hj]

/-- The addresses after linking a struct. -/
theorem va_enq (P : Policy) (q : ListId) (i j : PageId) :
    ((P.enq q i).page j).va = (P.page j).va := by
  by_cases hj : j = i
  · simp only [Policy.enq, hj, Function.update_self]
  · simp only [Policy.enq, Function.update_of_ne hj]

theorem va_unlink (P : Policy) (q : ListId) (i j : PageId) :
    ((P.unlink q i).page j).va = (P.page j).va := by
  by_cases hj : j = i
  · simp only [Policy.unlink, hj, Function.update_self]
  · simp only [Policy.unlink, Function.update_of_ne hj]

/-- The counters do not matter. -/
theorem linked_account (h : P.WellLinked) (a b : ℕ) : (P.account a b).WellLinked := h

theorem index_account (h : IndexOk P) (a b : ℕ) : IndexOk (P.account a b) := h

/-! ## The steps -/

/-- What a step leads to: the invariant, and progress unless the thread is done or waits for a page
that is migrating. -/
def TouchStep (P₀ : Policy) (addrs : List ℕ) (P : Policy) (threads : List Pc) (t : ℕ) (pc pc' : Pc)
    (s : State Unit) : Prop :=
  (∃ new, Touch P₀ addrs s.pol (threads.set t pc') new) ∧
    (pc'.rank < pc.rank ∨ pc = .idle ∨ ∃ page, pc = .wait page ∧ (P.page page).migrating = true)

namespace Threads

variable {M : Mem Unit} {va : ℕ} {f page : PageId}

theorem fetch_touch (h : Touch P₀ addrs P threads new)
    (ht : threads[t]? = some (.fetch (.first va))) :
    Ends ((fetch (.first va)).run ⟨P, M⟩) (TouchStep P₀ addrs P threads t (.fetch (.first va)))
      (· = .uffdio_copy) := by
  -- the thread is one of those for which there are enough frames
  have hcount : 0 < threads.countP Pc.fetches :=
    List.countP_pos_iff.2 ⟨_, List.mem_of_getElem? ht, rfl⟩
  have henough := h.enough
  rcases hl : P.lists .dram_free_list with _ | ⟨i, l⟩
  · rw [hl] at henough
    exact absurd (hcount.trans_le henough) (by decide)
  · have hi : (P.page i).list = some .dram_free_list :=
      (h.linked.mem_iff _ _).1 (by rw [hl]; exact List.mem_cons_self)
    have hl' : (P.unlink .dram_free_list i).lists .dram_free_list = l := by
      simp [Policy.unlink, hl]
    have hall : (allFrames P threads new).Perm ((i, .free) ::
        (l.map (·, .free) ++ ((threads.eraseIdx t).flatMap Pc.frames ++ new.map (·, .placed)))) := by
      have hperm := allFrames_perm P new ht
      rw [hl] at hperm
      exact hperm
    have hall' := allFrames_set_perm (P.unlink .dram_free_list i) new ht (.got (.first va) i)
    rw [hl'] at hall'
    have hfree := (Holdings.held_cons.1 (h.held.perm hall)).2.1
    unfold fetch
    rw [run_bind_ok (run_dequeue_fifo_cons hl)]
    refine ⟨⟨new, h.move ht hall hall' rfl ⟨rfl, hfree.2.1, hfree.2.2⟩ (h.linked.unlink hi) rfl
      (h.index.of_va rfl rfl (va_unlink P _ i)) (fun _ _ => id) h.inactive (fun _ => id) ?_⟩,
      Or.inl (Nat.lt_succ_self 7)⟩
    have hset := countP_set_add ht (.got (.first va) i) Pc.fetches
    rw [hl, List.length_cons] at henough
    rw [hl']
    simp only [Pc.fetches, if_true, Bool.false_eq_true, if_false] at hset
    omega

theorem got_touch (h : Touch P₀ addrs P threads new)
    (ht : threads[t]? = some (.got (.first va) f)) :
    Ends ((got f (.first va)).run ⟨P, M⟩) (TouchStep P₀ addrs P threads t (.got (.first va) f))
      (· = .uffdio_copy) :=
  ⟨⟨new, h.upd (fun p => { p with migrating := true }) (.insert va f) ht rfl rfl rfl rfl id
    (fun _ => id) rfl rfl⟩, Or.inl (Nat.lt_succ_self 6)⟩

theorem run_insert_none (hpage : P.pages va = none) (h0 : (P.page f).va = 0) (hne : va ≠ 0)
    (halign : va % PAGE_SIZE = 0) :
    (insert va f).run ⟨P, M⟩ = .ok (.map f,
      ⟨((P.upd f fun p => { p with migrating := true, swapped_out := false }).upd f fun p =>
        { p with va := va }).setIndex va (some f), M⟩) := by
  simp [Threads.insert, find_page, hpage, add_page, Policy.upd, h0, hne, halign, Policy.setIndex]

theorem run_insert_some (hpage : P.pages va = some page) :
    (insert va f).run ⟨P, M⟩ = .ok (.put_free f page, ⟨P, M⟩) := by
  have hfind : (find_page va).run (⟨P, M⟩ : State Unit) = .ok (some page, ⟨P, M⟩) := by
    simp [find_page, hpage]
  exact run_bind_ok hfind

/-- **The section under `allocator_lock`**: its assertions hold. -/
theorem insert_touch (h : Touch P₀ addrs P threads new) (ht : threads[t]? = some (.insert va f))
    (hva : addrs[t]? = some va) (hne : va ≠ 0) (halign : va % PAGE_SIZE = 0)
    (hlt : ∀ i ∈ P₀.lists .dram_free_list, i < P₀.npages) :
    Ends ((insert va f).run ⟨P, M⟩) (TouchStep P₀ addrs P threads t (.insert va f))
      (· = .uffdio_copy) := by
  obtain ⟨hnil, hdram, h0⟩ := h.own ht rfl
  have hall := allFrames_perm P new ht
  rcases hpage : P.pages va with _ | page
  · -- the page is new
    have hnew : P₀.pages va = none := by
      rcases h₀ : P₀.pages va with _ | j
      · rfl
      · rw [h.grown va j h₀] at hpage
        cases hpage
    have hf : f < P.npages := by
      rw [h.npages]
      refine hlt f (h.frames.mem_iff.1 (List.mem_map.2 ⟨(f, .frame), ?_, rfl⟩))
      exact hall.mem_iff.2 List.mem_cons_self
    let P' := ((P.upd f fun p => { p with migrating := true, swapped_out := false }).upd f fun p =>
      { p with va := va }).setIndex va (some f)
    have hpage' : P'.page = Function.update P.page f
        { P.page f with migrating := true, swapped_out := false, va := va } := by
      simp only [P', Policy.setIndex, Policy.upd, Function.update_self, Function.update_idem]
    have hpages' : P'.pages = Function.update P.pages va (some f) := rfl
    have hall' := allFrames_set_perm P' new ht (.map f)
    have hgrow : ∀ a i, P.pages a = some i → P'.pages a = some i := by
      intro a i hi
      have hav : a ≠ va := fun he => by rw [he, hpage] at hi; cases hi
      rw [hpages', Function.update_of_ne hav]
      exact hi
    have hindex : IndexOk P' := by
      refine h.index.insert hne hpage hf h0 hpages' rfl ?_ fun i hif => ?_
      · rw [hpage', Function.update_self]
      · rw [hpage', Function.update_of_ne hif]
    have hlinked : P'.WellLinked :=
      (h.linked.upd (f := fun p => { p with migrating := true, swapped_out := false }) rfl).upd
        (f := fun p => { p with va := va }) rfl
    rw [run_insert_none hpage h0 hne halign]
    refine ⟨⟨new, h.move ht hall hall' hpage' ⟨hnil, hdram, ⟨List.mem_of_getElem? hva, hnew, hne⟩, rfl⟩
      hlinked rfl hindex hgrow h.inactive (fun a ha => ?_) (h.enough_set ht rfl rfl le_rfl)⟩,
      Or.inl (by simp only [Pc.rank]; omega)⟩
    rw [← (show va = a from ha)]
    exact Function.update_self _ _ _
  · -- somebody has inserted it
    rw [run_insert_some hpage]
    refine ⟨⟨new, h.stay ht rfl (fun a ha => ?_) rfl⟩, Or.inl (by simp only [Pc.rank]; omega)⟩
    rw [← (show va = a from ha)]
    exact hpage

/-- **A thread that lost the race** puts its frame back: the assertions hold. -/
theorem put_free_touch (h : Touch P₀ addrs P threads new)
    (ht : threads[t]? = some (.put_free f page)) :
    Ends ((put_free f page).run ⟨P, M⟩) (TouchStep P₀ addrs P threads t (.put_free f page))
      (· = .uffdio_copy) := by
  obtain ⟨hnil, hdram, h0⟩ := h.own ht rfl
  have hrun : (put_free f page).run ⟨P, M⟩ = .ok (.wait page, ⟨P.enq .dram_free_list f, M⟩) := by
    simp [put_free, lrudisk_put_page_free, enqueue_fifo, hnil, h0]
  have hl : (P.enq .dram_free_list f).lists .dram_free_list = P.lists .dram_free_list ++ [f] := by
    simp [Policy.enq]
  have hall := allFrames_perm P new ht
  have hall' : (allFrames (P.enq .dram_free_list f) (threads.set t (.wait page)) new).Perm
      ((f, .free) :: ((P.lists .dram_free_list).map (·, .free) ++
        ((threads.eraseIdx t).flatMap Pc.frames ++ new.map (·, .placed)))) := by
    have hperm := allFrames_set_perm (P.enq .dram_free_list f) new ht (.wait page)
    rw [hl, List.map_append, List.append_assoc] at hperm
    exact hperm.trans List.perm_middle
  rw [hrun]
  refine ⟨⟨new, h.move ht hall hall' rfl ⟨rfl, hdram, h0⟩ (h.linked.enq hnil) rfl
    (h.index.of_va rfl rfl (va_enq P _ f)) (fun _ _ => id) ?_ (fun _ => id)
    (h.enough_set ht rfl rfl ?_)⟩, Or.inl (Nat.lt_succ_self 1)⟩
  · exact h.inactive
  · rw [hl, List.length_append]
    exact Nat.le_add_right _ _

theorem map_touch (h : Touch P₀ addrs P threads new) (ht : threads[t]? = some (.map f)) :
    Ends ((map f).run ⟨P, M⟩) (TouchStep P₀ addrs P threads t (.map f)) (· = .uffdio_copy) := by
  have hdram : (P.page f).in_dram = true := (h.own ht rfl).2.1
  unfold map
  rw [run_bind_ok (run_get_page _ _), run_check_bind hdram, run_bind_ok (run_get_page _ _)]
  rw [run_bind, run_uffdio_copy]
  split
  · rw [ok_bind]
    exact Ends.check_bind (fun _ => rfl) fun hret => absurd rfl hret
  · rw [ok_bind]
    refine Ends.check_bind (fun _ => rfl) fun _ => ?_
    exact ⟨⟨new, h.stay ht rfl (fun _ => id) rfl⟩, Or.inl (Nat.lt_succ_self 3)⟩

theorem first_migrating_touch (h : Touch P₀ addrs P threads new)
    (ht : threads[t]? = some (.first_migrating f)) :
    Ends ((first_migrating f).run ⟨P, M⟩) (TouchStep P₀ addrs P threads t (.first_migrating f))
      (· = .uffdio_copy) :=
  ⟨⟨new, h.upd (fun p => { p with migrating := false }) (.first_swapped_out f) ht rfl rfl rfl rfl
    (fun hok => ⟨hok.1, hok.2.1, hok.2.2.1, hok.2.2.2, rfl⟩) (fun _ => id) rfl rfl⟩,
    Or.inl (Nat.lt_succ_self 2)⟩

theorem first_swapped_out_touch (h : Touch P₀ addrs P threads new)
    (ht : threads[t]? = some (.first_swapped_out f)) :
    Ends ((first_swapped_out f).run ⟨P, M⟩)
      (TouchStep P₀ addrs P threads t (.first_swapped_out f)) (· = .uffdio_copy) :=
  ⟨⟨new, h.upd (fun p => { p with swapped_out := false }) (.track f) ht rfl rfl rfl rfl
    (fun hok => ⟨hok.1, hok.2.1, hok.2.2.1, rfl, hok.2.2.2.2⟩) (fun _ => id) rfl rfl⟩,
    Or.inl (Nat.lt_succ_self 1)⟩

theorem track_touch (h : Touch P₀ addrs P threads new) (ht : threads[t]? = some (.track f)) :
    Ends ((track f).run ⟨P, M⟩) (TouchStep P₀ addrs P threads t (.track f)) (· = .uffdio_copy) := by
  obtain ⟨hnil, hdram, haddr, hs, hm⟩ := h.own ht rfl
  have hrun : (track f).run ⟨P, M⟩ =
      .ok (.idle, ⟨(P.enq .inactive_list f).account PAGE_SIZE 0, M⟩) := by
    simp [track, lrudisk_track_page, enqueue_fifo, hnil]
  have hall := allFrames_perm P new ht
  have hall' : (allFrames ((P.enq .inactive_list f).account PAGE_SIZE 0) (threads.set t .idle)
      (new ++ [f])).Perm ((f, .placed) :: ((P.lists .dram_free_list).map (·, .free) ++
        ((threads.eraseIdx t).flatMap Pc.frames ++ new.map (·, .placed)))) := by
    have hperm := allFrames_set_perm ((P.enq .inactive_list f).account PAGE_SIZE 0) (new ++ [f]) ht
      .idle
    rw [List.map_append, ← List.append_assoc, ← List.append_assoc, ← List.append_assoc] at hperm
    refine hperm.trans ((List.perm_append_singleton _ _).trans (List.Perm.cons _ ?_))
    rw [List.append_assoc, List.append_assoc]
    exact List.Perm.refl _
  have hinactive : (P.enq .inactive_list f).lists .inactive_list =
      P₀.lists .inactive_list ++ (new ++ [f]) := by
    rw [← List.append_assoc, ← h.inactive]
    simp [Policy.enq]
  have hindex : IndexOk (P.enq .inactive_list f) := h.index.of_va rfl rfl (va_enq P _ f)
  rw [hrun]
  exact ⟨⟨new ++ [f], h.move ht hall hall' rfl ⟨rfl, hdram, haddr, hs, hm⟩
    (linked_account (h.linked.enq hnil) _ _) rfl (index_account hindex _ _) (fun _ _ => id) hinactive (fun a ha => ⟨f, ha⟩) (h.enough_set ht rfl rfl le_rfl)⟩,
    Or.inl (Nat.lt_succ_self 0)⟩

theorem wait_touch (h : Touch P₀ addrs P threads new) (ht : threads[t]? = some (.wait page)) :
    Ends ((wait page).run ⟨P, M⟩) (TouchStep P₀ addrs P threads t (.wait page))
      (· = .uffdio_copy) := by
  unfold wait
  rw [run_bind_ok (run_get_page _ _)]
  split
  case isTrue hm =>
    exact ⟨⟨new, h.stay ht rfl (fun _ => id) rfl⟩, Or.inr (Or.inr ⟨page, rfl, hm⟩)⟩
  · exact ⟨⟨new, h.stay ht rfl (fun a ha => ⟨page, ha⟩) rfl⟩, Or.inl (Nat.lt_succ_self 0)⟩

/-- **One step** of a thread. -/
theorem act_touch (h : Touch P₀ addrs P threads new) (ht : threads[t]? = some pc)
    (haddr : ∀ va ∈ addrs, va ≠ 0 ∧ va % PAGE_SIZE = 0)
    (hlt : ∀ i ∈ P₀.lists .dram_free_list, i < P₀.npages) :
    Ends ((act .go pc).run ⟨P, M⟩) (TouchStep P₀ addrs P threads t pc) (· = .uffdio_copy) := by
  have hlen : t < addrs.length := by
    rw [← h.length]
    exact (List.getElem?_eq_some_iff.1 ht).1
  have hva : addrs[t]? = some addrs[t] := List.getElem?_eq_getElem hlen
  have hat := h.program t addrs[t] pc hva ht
  cases pc with
  | idle => exact ⟨⟨new, h.stay ht rfl (fun _ => id) rfl⟩, Or.inr (Or.inl rfl)⟩
  | wait page => exact wait_touch h ht
  | fetch use =>
      cases use with
      | first page_boundry => exact fetch_touch h ht
      | _ => exact hat.elim
  | got use freepage =>
      cases use with
      | first page_boundry => exact got_touch h ht
      | _ => exact hat.elim
  | insert page_boundry newpage =>
      obtain rfl : page_boundry = addrs[t] := hat
      obtain ⟨hne, halign⟩ := haddr _ (List.mem_of_getElem? hva)
      exact insert_touch h ht hva hne halign hlt
  | put_free newpage page => exact put_free_touch h ht
  | map newpage => exact map_touch h ht
  | first_migrating newpage => exact first_migrating_touch h ht
  | first_swapped_out newpage => exact first_swapped_out_touch h ht
  | track newpage => exact track_touch h ht
  | _ => exact hat.elim

/-! ## Runs -/

/-- Each thread is about to take a frame for the first fault at its address. -/
def touching (shared : State Unit) (addrs : List ℕ) : Threads :=
  { shared := shared, threads := addrs.map fun va => .fetch (.first va) }

/-- The steps of `run`: whose turn it is. -/
def turns (run : List ℕ) : List Label := run.map fun t => { thread := t }

/-- Every call has returned. -/
def Finished (s : Threads) : Prop := ∀ pc ∈ s.threads, pc = .idle

/-- The threads handle their faults, and only `UFFDIO_COPY` can have stopped them. -/
def Touching (P₀ : Policy) (addrs : List ℕ) (s : Threads) : Prop :=
  (s.fault = none ∨ s.fault = some .uffdio_copy) ∧
    ∃ new, Touch P₀ addrs s.shared.pol s.threads new

variable {shared : State Unit} {s : Threads}

theorem touch_start (hidle : Idle shared.pol)
    (hfree : addrs.length ≤ (shared.pol.lists .dram_free_list).length) :
    Touch shared.pol addrs shared.pol (touching shared addrs).threads [] := by
  have hno : (touching shared addrs).threads.flatMap Pc.frames = [] := by
    rw [List.flatMap_eq_nil_iff]
    intro pc hpc
    obtain ⟨va, -, rfl⟩ := List.mem_map.1 hpc
    rfl
  have hall : allFrames shared.pol (touching shared addrs).threads [] =
      (shared.pol.lists .dram_free_list).map (·, .free) := by
    rw [allFrames, hno]
    exact List.append_nil _
  refine ⟨hidle.inv.linked, rfl, hidle.index, fun _ _ => id, (List.append_nil _).symm, ?_, ?_,
    fun _ _ => rfl, List.length_map _, fun t va pc hva hpc => ?_, ?_⟩
  · rw [hall]
    refine ⟨fun _ => trivial, fun x hx => ?_, ?_⟩
    · obtain ⟨i, hi, rfl⟩ := List.mem_map.1 hx
      have hlist := hidle.inv.list_of_mem hi
      exact ⟨hlist, UserPage.role_frame.1 (hidle.inv.role_of_list hlist rfl)⟩
    · refine List.pairwise_map.2 (List.Pairwise.imp ?_ (hidle.inv.linked.nodup .dram_free_list))
      exact fun hne he => hne he
  · rw [hall, List.map_map]
    exact (List.map_id _).symm ▸ List.Perm.refl _
  · rw [touching, List.getElem?_map, hva] at hpc
    cases hpc
    exact rfl
  · refine (List.countP_le_length).trans ?_
    rw [touching, List.length_map]
    exact hfree

/-- Steps that are not free to choose never wait for `allocator_lock`: nobody is in `munmap`. -/
theorem not_inMunmap (h : Touch P₀ addrs P threads new) : threads.any Pc.inMunmap = false := by
  rw [List.any_eq_false]
  intro pc hpc
  obtain ⟨t, hlt, rfl⟩ := List.getElem_of_mem hpc
  have hlen : t < addrs.length := h.length ▸ hlt
  have hat := h.program t addrs[t] _ (List.getElem?_eq_getElem hlen) (List.getElem?_eq_getElem hlt)
  generalize threads[t] = pc at hat
  cases pc <;> first | exact Bool.false_ne_true | exact hat.elim

/-- **One step** of the machine: it keeps the invariant, and unless the thread is done or waits for
a page that is migrating, it leaves fewer steps to be made. -/
theorem step_touching (h : Touching P₀ addrs s)
    (haddr : ∀ va ∈ addrs, va ≠ 0 ∧ va % PAGE_SIZE = 0)
    (hlt : ∀ i ∈ P₀.lists .dram_free_list, i < P₀.npages) (t : ℕ) :
    Touching P₀ addrs (step { thread := t } s) ∧
      (s.fault = none → ∀ pc, s.threads[t]? = some pc → pc ≠ .idle →
        (∀ page, pc = .wait page → (s.shared.pol.page page).migrating = false) →
        (step { thread := t } s).fault = some .uffdio_copy ∨
          ((step { thread := t } s).threads.map Pc.rank).sum < (s.threads.map Pc.rank).sum) := by
  obtain ⟨hfault, new, htouch⟩ := h
  rcases hf : s.fault with _ | e
  · rcases hpc : s.threads[t]? with _ | pc
    · have hstep : step { thread := t } s = s := by
        simp only [step, hf, hpc]
      rw [hstep]
      exact ⟨⟨hfault, new, htouch⟩, fun _ pc hpc' => (nomatch hpc')⟩
    · have hact := act_touch (M := s.shared.mem) htouch hpc haddr hlt
      -- nobody is in `munmap`, so the lock is free
      have hfree : ¬ (pc.locks .go = true ∧ s.threads.any Pc.inMunmap = true) := by
        rw [not_inMunmap htouch]
        exact fun hc => Bool.false_ne_true hc.2
      rcases hrun : (act .go pc).run s.shared with e | ⟨pc', shared⟩
      · have hstep : step { thread := t } s = { s with fault := some e } := by
          simp only [step, hf, hpc, if_neg hfree, hrun]
        obtain rfl : e = .uffdio_copy := hact.of_error hrun
        rw [hstep]
        exact ⟨⟨Or.inr rfl, new, htouch⟩, fun _ _ _ _ _ => Or.inl rfl⟩
      · have hstep : step { thread := t } s = s.moved t pc pc' shared := by
          simp only [step, hf, hpc, if_neg hfree, hrun]
        obtain ⟨⟨new', htouch'⟩, hrank⟩ := hact.of_ok hrun
        rw [hstep]
        refine ⟨⟨Or.inl hf, new', htouch'⟩, fun _ q hq hne hwait => Or.inr ?_⟩
        obtain rfl : pc = q := Option.some.inj hq
        have hless : pc'.rank < pc.rank := by
          rcases hrank with hrank | hrank | ⟨page, hp, hm⟩
          · exact hrank
          · exact absurd hrank hne
          · exact absurd ((hwait page hp).symm.trans hm) Bool.false_ne_true
        -- one thread has a smaller rank, the others keep theirs
        obtain ⟨hlt', hget⟩ := List.getElem?_eq_some_iff.1 hpc
        have hset := ((List.set_perm_cons_eraseIdx hlt' pc').map Pc.rank).sum_eq
        have hold := ((List.getElem_cons_eraseIdx_perm hlt').map Pc.rank).sum_eq
        rw [List.map_cons, List.sum_cons] at hset hold
        rw [hget] at hold
        show ((s.threads.set t pc').map Pc.rank).sum < _
        omega
  · have hstep : step { thread := t } s = s := by
      simp only [step, hf]
    rw [hstep]
    exact ⟨⟨hf ▸ hfault, new, htouch⟩, fun hn => (nomatch hn)⟩

/-- The runs keep the invariant. -/
theorem exec_touching (h : Touching P₀ addrs s)
    (haddr : ∀ va ∈ addrs, va ≠ 0 ∧ va % PAGE_SIZE = 0)
    (hlt : ∀ i ∈ P₀.lists .dram_free_list, i < P₀.npages) (run : List ℕ) :
    Touching P₀ addrs (exec (turns run) s) := by
  refine Guarded.exec_of_forall (P := fun l => ∃ t, l = { thread := t }) (fun s l hs hl => ?_) h ?_
  · obtain ⟨t, rfl⟩ := hl
    exact (step_touching hs haddr hlt t).1
  · intro l hl
    obtain ⟨t, -, rfl⟩ := List.mem_map.1 hl
    exact ⟨t, rfl⟩

/-! ## Where the pages are -/

/-- A frame of the start with an address is in the hands of a thread or a new page. -/
theorem place_cases (h : Touch P₀ addrs P threads new) (hi : i ∈ P₀.lists .dram_free_list) :
    (P.page i).va = 0 ∨ (∃ pc ∈ threads, ∃ k, (i, k) ∈ pc.frames ∧
        k.Ok (NewAddr P₀ addrs) (P.page i)) ∨
      i ∈ new ∧ Place.placed.Ok (NewAddr P₀ addrs) (P.page i) := by
  obtain ⟨⟨j, k⟩, hm, rfl⟩ := List.mem_map.1 (h.frames.mem_iff.2 hi)
  have hok : k.Ok (NewAddr P₀ addrs) (P.page j) := h.held.ok (j, k) hm
  rcases List.mem_append.1 hm with hm | hm
  · obtain ⟨i, -, he⟩ := List.mem_map.1 hm
    cases he
    exact Or.inl hok.2.2
  · rcases List.mem_append.1 hm with hm | hm
    · obtain ⟨pc, hpc, hm⟩ := List.mem_flatMap.1 hm
      exact Or.inr (Or.inl ⟨pc, hpc, k, hm, hok⟩)
    · obtain ⟨i, hnew, he⟩ := List.mem_map.1 hm
      cases he
      exact Or.inr (Or.inr ⟨hnew, hok⟩)

/-- A page that is migrating is being mapped by a thread. -/
theorem exists_fresh (h : Touch P₀ addrs P threads new) (hidle : Idle P₀)
    (hpage : P.pages va = some page) (hm : (P.page page).migrating = true) :
    ∃ pc ∈ threads, (page, .fresh) ∈ pc.frames := by
  obtain ⟨hlt, hva, hne⟩ := (h.index va page).1 hpage
  by_cases hi : page ∈ P₀.lists .dram_free_list
  · rcases place_cases h hi with h0 | ⟨pc, hpc, k, hk, hok⟩ | ⟨-, hok⟩
    · exact absurd (hva.symm.trans h0) hne
    · cases k with
      | fresh => exact ⟨pc, hpc, hk⟩
      | free => exact absurd (hva.symm.trans hok.2.2) hne
      | frame => exact absurd (hva.symm.trans hok.2.2) hne
      | loose => exact absurd (hok.2.2.2.2.symm.trans hm) Bool.false_ne_true
      | placed => exact absurd (hok.2.2.2.2.symm.trans hm) Bool.false_ne_true
    · exact absurd (hok.2.2.2.2.symm.trans hm) Bool.false_ne_true
  · -- the other pages are at rest
    rw [h.others page hi] at hva hm
    rw [h.npages] at hlt
    have hrest := (hidle.quiet page hlt List.not_mem_nil).2 (by rw [hva]; exact hne)
    exact absurd (hrest.symm.trans hm) Bool.false_ne_true

/-- A thread that maps a new page neither waits nor is done. -/
theorem not_wait_of_fresh (h : (page, Place.fresh) ∈ pc.frames) :
    pc ≠ .idle ∧ ∀ q, pc ≠ .wait q := by
  cases pc with
  | idle => cases h
  | wait q => cases h
  | _ => exact ⟨nofun, nofun⟩

/-- **While a call has not returned**, some thread can make progress. -/
theorem exists_progress (h : Touching P₀ addrs s) (hidle : Idle P₀)
    (haddr : ∀ va ∈ addrs, va ≠ 0 ∧ va % PAGE_SIZE = 0)
    (hlt : ∀ i ∈ P₀.lists .dram_free_list, i < P₀.npages) (hf : s.fault = none)
    (hnot : ¬ Finished s) : ∃ t, (step { thread := t } s).fault = some .uffdio_copy ∨
      ((step { thread := t } s).threads.map Pc.rank).sum < (s.threads.map Pc.rank).sum := by
  obtain ⟨pc, hpc, hne⟩ : ∃ pc ∈ s.threads, pc ≠ .idle := by
    by_contra hno
    exact hnot fun pc hpc => by_contra fun hne => hno ⟨pc, hpc, hne⟩
  by_cases hwait : ∀ page, pc = .wait page → (s.shared.pol.page page).migrating = false
  · obtain ⟨t, ht⟩ := List.mem_iff_getElem?.1 hpc
    exact ⟨t, (step_touching h haddr hlt t).2 hf pc ht hne hwait⟩
  · -- it waits for a page that another thread is mapping
    obtain ⟨hfault, new, htouch⟩ := h
    simp only [not_forall] at hwait
    obtain ⟨page, rfl, hm⟩ := hwait
    obtain ⟨t, ht⟩ := List.mem_iff_getElem?.1 hpc
    have hlen : t < addrs.length := htouch.length ▸ (List.getElem?_eq_some_iff.1 ht).1
    have hat := htouch.program t addrs[t] _ (List.getElem?_eq_getElem hlen) ht
    obtain ⟨pc', hpc', hfresh⟩ := exists_fresh htouch hidle hat (eq_true_of_ne_false hm)
    obtain ⟨u, hu⟩ := List.mem_iff_getElem?.1 hpc'
    obtain ⟨hne', hnw⟩ := not_wait_of_fresh hfresh
    exact ⟨u, (step_touching ⟨hfault, new, htouch⟩ haddr hlt u).2 hf pc' hu hne'
      fun q hq => absurd hq (hnw q)⟩

/-- **The calls can be completed** from every state, or `UFFDIO_COPY` fails. -/
theorem exists_completion (h : Touching P₀ addrs s) (hidle : Idle P₀)
    (haddr : ∀ va ∈ addrs, va ≠ 0 ∧ va % PAGE_SIZE = 0)
    (hlt : ∀ i ∈ P₀.lists .dram_free_list, i < P₀.npages) :
    ∃ run, Finished (exec (turns run) s) ∨ (exec (turns run) s).fault = some .uffdio_copy := by
  -- the induction is on the number of steps that are left
  induction hn : (s.threads.map Pc.rank).sum using Nat.strong_induction_on generalizing s with
  | _ n ih =>
      rcases h.1 with hf | hf
      · by_cases hfin : Finished s
        · exact ⟨[], Or.inl hfin⟩
        · obtain ⟨t, hstop | hless⟩ := exists_progress h hidle haddr hlt hf hfin
          · exact ⟨[t], Or.inr hstop⟩
          · obtain ⟨run, hrun⟩ := ih _ (hn ▸ hless) (step_touching h haddr hlt t).1 rfl
            exact ⟨t :: run, hrun⟩
      · exact ⟨[], Or.inr hf⟩

/-! ## First touches -/

/-- What is to hold while threads handle first faults at `addrs`, from `P₀` on. -/
structure FirstTouched (P₀ : Policy) (addrs : List ℕ) (s : Threads) : Prop where
  /-- no assertion fails but that on the return value of `UFFDIO_COPY` -/
  asserted : s.fault = none ∨ s.fault = some .uffdio_copy
  /-- every frame that was free is free, or in the hands of one thread, or a new page -/
  frames : ∃ new, s.shared.pol.lists .inactive_list = P₀.lists .inactive_list ++ new ∧
    (P₀.lists .dram_free_list).Perm (s.shared.pol.lists .dram_free_list ++
      ((s.threads.flatMap Pc.frames).map Prod.fst ++ new)) ∧
    (s.shared.pol.lists .dram_free_list ++
      ((s.threads.flatMap Pc.frames).map Prod.fst ++ new)).Nodup ∧
    ∀ i ∈ new, NewAddr P₀ addrs (s.shared.pol.page i).va
  /-- when all calls have returned, no thread has a frame, and each address has one page, which is
  on a list: on `inactive_list` if it is new -/
  tracked : Finished s → s.threads.flatMap Pc.frames = [] ∧ ∀ va ∈ addrs,
    ∃ i, s.shared.pol.pages va = some i ∧ (s.shared.pol.page i).list ≠ none ∧
      (P₀.pages va = none → (s.shared.pol.page i).list = some .inactive_list) ∧
      ∀ j, j < s.shared.pol.npages → ((s.shared.pol.page j).va = va ↔ j = i)
  /-- the calls can be completed -/
  completes : ∃ run, Finished (exec (turns run) s) ∨
    (exec (turns run) s).fault = some .uffdio_copy

theorem tracked_of_finished (h : Touch P₀ addrs P threads new) (hidle : Idle P₀)
    (hfin : ∀ pc ∈ threads, pc = .idle) (hva : va ∈ addrs) :
    ∃ i, P.pages va = some i ∧ (P.page i).list ≠ none ∧
      (P₀.pages va = none → (P.page i).list = some .inactive_list) ∧
      ∀ j, j < P.npages → ((P.page j).va = va ↔ j = i) := by
  obtain ⟨t, ht⟩ := List.mem_iff_getElem?.1 hva
  have hlen : t < threads.length := h.length ▸ (List.getElem?_eq_some_iff.1 ht).1
  have hat := h.program t va _ ht (List.getElem?_eq_getElem hlen)
  rw [hfin _ (List.getElem_mem hlen)] at hat
  obtain ⟨i, hi⟩ := hat
  obtain ⟨hlt, hiva, hne⟩ := (h.index va i).1 hi
  refine ⟨i, hi, ?_, ?_, fun j hj => ⟨fun hjva => ?_, fun he => he ▸ hiva⟩⟩
  · by_cases hfree : i ∈ P₀.lists .dram_free_list
    · rcases place_cases h hfree with h0 | ⟨pc, hpc, k, hk, -⟩ | ⟨-, hok⟩
      · exact absurd (hiva.symm.trans h0) hne
      · rw [hfin pc hpc] at hk
        cases hk
      · rw [hok.1]
        exact Option.some_ne_none _
    · rw [h.others i hfree]
      rw [h.npages] at hlt
      exact (hidle.quiet i hlt List.not_mem_nil).1
  · intro hnone
    by_cases hfree : i ∈ P₀.lists .dram_free_list
    · rcases place_cases h hfree with h0 | ⟨pc, hpc, k, hk, -⟩ | ⟨-, hok⟩
      · exact absurd (hiva.symm.trans h0) hne
      · rw [hfin pc hpc] at hk
        cases hk
      · exact hok.1
    · -- a page that was there before is in the index
      rw [h.others i hfree] at hiva
      rw [h.npages] at hlt
      rw [(hidle.index va i).2 ⟨hlt, hiva, hne⟩] at hnone
      cases hnone
  · exact Option.some.inj (((h.index va j).2 ⟨hj, hjva, hne⟩).symm.trans hi)

/-- **First touches.** However the calls are interleaved, with a free frame for each of them. -/
theorem first_touches (hidle : Idle shared.pol)
    (haddr : ∀ va ∈ addrs, va ≠ 0 ∧ va % PAGE_SIZE = 0)
    (hfree : addrs.length ≤ (shared.pol.lists .dram_free_list).length) (run : List ℕ) :
    FirstTouched shared.pol addrs (exec (turns run) (touching shared addrs)) := by
  have hlt : ∀ i ∈ shared.pol.lists .dram_free_list, i < shared.pol.npages :=
    fun i hi => hidle.inv.lt_of_list (hidle.inv.list_of_mem hi)
  have h := exec_touching (s := touching shared addrs) ⟨Or.inl rfl, [], touch_start hidle hfree⟩
    haddr hlt run
  obtain ⟨hfault, new, htouch⟩ := h
  have hmap : (allFrames (exec (turns run) (touching shared addrs)).shared.pol
      (exec (turns run) (touching shared addrs)).threads new).map Prod.fst =
      (exec (turns run) (touching shared addrs)).shared.pol.lists .dram_free_list ++
        (((exec (turns run) (touching shared addrs)).threads.flatMap Pc.frames).map Prod.fst ++
          new) := by
    simp [allFrames, Function.comp_def]
  have hperm := htouch.frames.symm
  rw [hmap] at hperm
  refine ⟨hfault, ⟨new, htouch.inactive, hperm, ?_, fun i hi => ?_⟩, fun hfin => ⟨?_, fun va hva =>
    tracked_of_finished htouch hidle hfin hva⟩, exists_completion ⟨hfault, new, htouch⟩ hidle haddr hlt⟩
  · exact hperm.nodup_iff.1 (hidle.inv.linked.nodup .dram_free_list)
  · have hin : (i, Place.placed) ∈ allFrames (exec (turns run) (touching shared addrs)).shared.pol
        (exec (turns run) (touching shared addrs)).threads new :=
      List.mem_append_right _ (List.mem_append_right _ (List.mem_map.2 ⟨i, hi, rfl⟩))
    exact (htouch.held.ok _ hin).2.2.1
  · rw [List.flatMap_eq_nil_iff]
    intro pc hpc
    rw [hfin pc hpc]
    rfl

/-- Two threads touch the same page. -/
theorem first_touches_race : ∃ shared, Reaches 8192 8192 () {} [] shared ∧
    FirstTouched shared.pol [4096, 4096]
      (exec (turns [0, 1, 0, 1, 1, 0, 1, 0, 1, 1, 1, 0]) (touching shared [4096, 4096])) ∧
    Finished (exec (turns [0, 1, 0, 1, 1, 0, 1, 0, 1, 1, 1, 0]) (touching shared [4096, 4096])) := by
  have heval : passes (fun shared => decide (2 ≤ (shared.pol.lists .dram_free_list).length ∧
      (exec (turns [0, 1, 0, 1, 1, 0, 1, 0, 1, 1, 1, 0]) (touching shared [4096, 4096])).threads =
        [.idle, .idle]))
      ((do lrudisk_init; Run.exec [] : Proc Unit Unit).run (State.blank 8192 8192 () {})) = true := by
    decide +kernel
  obtain ⟨⟨⟩, shared, hreach, ht⟩ := of_passes heval
  obtain ⟨hfree, hfin⟩ := of_decide_eq_true ht
  have hlen : [4096, 4096].length ≤ (shared.pol.lists .dram_free_list).length := hfree
  refine ⟨shared, hreach, first_touches (Reaches.idle hreach).1 (by decide) hlen _, ?_⟩
  intro pc hpc
  rw [hfin] at hpc
  simpa using hpc

end Threads

end SwapPrefetch
