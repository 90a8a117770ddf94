/-
The pager on its own data structures does what the pager of `Core` does.

`Rel n` says when a machine stands for a memory of the pager with `n` bytes of swap space: the memory
without the index and the store is the same, the uthash table is the index with the dummy page added
to it, and the RDMA store holds the pages of the store. Every routine of `Machine` is run beside the
routine of the pager it spells out, and a run beside a run. What remains of the difference is one
outcome: the table may fail to get memory, and then the process exits.

The store is a function of the offsets as long as nothing is in its way: the swap space is not larger
than the region table, the server can always split a block, and the pages hold no pointer that the
codec would rewrite.
-/
import SwapPrefetch.Contents
import SwapPrefetch.Machine
import SwapPrefetch.Quiet
import SwapPrefetch.StoreBacking
import SwapPrefetch.UtHashRuns

set_option autoImplicit false

namespace SwapPrefetch.Machine

open Prog

variable {β γ : Type} {n : ℕ} {M : Machine} {s : State PageData}

/-! ## The relation -/

/-- What the table maps addresses to, for an index. -/
def index_map (pages : ℕ → Option PageId) (va : ℕ) : Option (Option PageId) :=
  if va = 0 then some none else (pages va).map some

theorem index_map_some {pages : ℕ → Option PageId} (h0 : pages 0 = none) {va : ℕ} {i : PageId} :
    index_map pages va = some (some i) ↔ pages va = some i := by
  unfold index_map
  split
  case isTrue h =>
    subst h
    rw [h0]
    exact iff_of_false nofun nofun
  case isFalse => simp

/-- The machine stands for a memory of the pager. -/
structure Rel (n : ℕ) (M : Machine) (s : State PageData) : Prop where
  pager : M.pager = s.hide
  index : UtHash.Represents UtHash.hash_va (index_map s.pol.pages) ⟨M.pages, key s.pol⟩
  zero : s.pol.pages 0 = none
  aligned : ∀ i, (s.pol.page i).Aligned
  data : DataIn Plain s.mem
  disksize : s.pol.disksize = n
  io_fails : s.mem.env.io_fails = []
  backed : RdmaStore.Backed n M.store s.mem.store
  calls : ∀ env ∈ M.calls, env.split = true

/-- An indexed struct has the address it is indexed under. -/
theorem Rel.va (h : Rel n M s) {va : ℕ} {i : PageId} (hi : s.pol.pages va = some i) :
    (s.pol.page i).va = va := by
  obtain ⟨items, -, hmap⟩ := h.index
  exact ((hmap va (some i)).1 ((index_map_some h.zero).2 hi)).2

theorem Rel.kept (h : Rel n M s) {X : Set PageId} : Kept Plain X s s :=
  ⟨h.aligned, h.data, rfl, fun _ _ => rfl, rfl, rfl, rfl⟩

/-! ## Statements that use neither -/

theorem run_on_pager {m : Proc PageData β} {b : β} {t : State PageData}
    (h : m.run M.pager = .ok (b, t)) :
    (Machine.on_pager m).run M = .ok (b, { M with pager := t }) := by
  show Machine.on_pager m M = _
  simp only [Machine.on_pager, h]

theorem run_on_pager_error {m : Proc PageData β} {e : Fault} (h : m.run M.pager = .error e) :
    (Machine.on_pager m).run M = .error (some e) := by
  show Machine.on_pager m M = _
  simp only [Machine.on_pager, h]

/-- A quiet routine that returns does so on both levels. -/
theorem Rel.returns (h : Rel n M s) {X : Set PageId} {φ : β → Prop} {m : Proc PageData β}
    (hm : Quiet Plain X φ m) (hX : ∀ i ∈ X, ∀ va, s.pol.pages va ≠ some i) {b : β}
    {t : State PageData} (hr : m.run s = .ok (b, t)) :
    (Machine.on_pager m).run M = .ok (b, { M with pager := t.hide }) ∧
      Rel n { M with pager := t.hide } t ∧ φ b ∧ Kept Plain X s t := by
  obtain ⟨hhide, hφ, hkept⟩ := hm.run_ok h.kept hr
  refine ⟨?_, ⟨rfl, ?_, ?_, hkept.aligned, hkept.data, ?_, ?_, ?_, h.calls⟩, hφ, hkept⟩
  · exact run_on_pager (h.pager ▸ hhide)
  · rw [hkept.pages]
    refine h.index.rekey fun va element he => ?_
    cases element with
    | none => rfl
    | some i =>
        refine hkept.va i fun hi => ?_
        exact hX i hi va ((index_map_some h.zero).1 he)
  · rw [hkept.pages]
    exact h.zero
  · exact hkept.disksize.trans h.disksize
  · exact hkept.io_fails.trans h.io_fails
  · rw [hkept.store]
    exact h.backed

/-- A quiet routine is the same on both levels. -/
theorem Rel.on_pager (h : Rel n M s) {X : Set PageId} {φ : β → Prop} {m : Proc PageData β}
    (hm : Quiet Plain X φ m) (hX : ∀ i ∈ X, ∀ va, s.pol.pages va ≠ some i) :
    Agree (fun b M' s' => Rel n M' s' ∧ φ b ∧ Kept Plain X s s') ((Machine.on_pager m).run M) (m.run s) := by
  rcases hr : m.run s with e | ⟨b, t⟩
  · rw [run_on_pager_error (h.pager ▸ hm.run_error h.kept hr)]
    exact .fault e
  · obtain ⟨hrun, hrel⟩ := h.returns hm hX hr
    rw [hrun]
    exact .ok hrel

/-- The routine of the machine does what the pager's does. -/
abbrev Matches (n : ℕ) (m' : MProc β) (m : Proc PageData β) : Prop :=
  Simulates (Rel n) m' m (Stays (Rel n) Any)

theorem sim_quiet {φ : β → Prop} {m : Proc PageData β} (hm : Quiet Plain ∅ φ m) :
    Simulates (Rel n) (on_pager m) m (Stays (Rel n) φ) :=
  fun _ _ h => (h.on_pager hm fun _ hi => hi.elim).mono fun _ _ _ h' => ⟨h'.1, h'.2.1⟩

/-- Read the policy's side. -/
theorem sim_get_pol {f' : Policy → MProc β} {f : Policy → Proc PageData β}
    {Q : β → Machine → State PageData → Prop}
    (h : ∀ p : Policy, p.disksize = n → Simulates (Rel n) (f' p.hide) (f p) Q) :
    Simulates (Rel n) (on_pager get_pol >>= f') (get_pol >>= f) Q := by
  intro M s hrel
  have hrun : (on_pager get_pol >>= f').run M = (f' s.pol.hide).run M := by
    show (f' M.pager.pol).run M = _
    rw [hrel.pager]
    rfl
  rw [hrun]
  exact h s.pol hrel.disksize M s hrel

/-- Read the contents. -/
theorem sim_get_mem {f' : Mem PageData → MProc β} {f : Mem PageData → Proc PageData β}
    {Q : β → Machine → State PageData → Prop}
    (h : ∀ m : Mem PageData, DataIn Plain m → Simulates (Rel n) (f' m.hide) (f m) Q) :
    Simulates (Rel n) (on_pager get_mem >>= f') (get_mem >>= f) Q := by
  intro M s hrel
  have hrun : (on_pager get_mem >>= f').run M = (f' s.mem.hide).run M := by
    show (f' M.pager.mem).run M = _
    rw [hrel.pager]
    rfl
  rw [hrun]
  exact h s.mem hrel.data M s hrel

/-- Assignments to fields of a struct, before other statements. -/
theorem sim_set {i : PageId} {f : UserPage → UserPage} {g' : Unit → MProc β}
    {g : Unit → Proc PageData β} {Q : β → Machine → State PageData → Prop}
    (hg : Simulates (Rel n) (g' ()) (g ()) Q) (hva : ∀ p, (f p).va = p.va)
    (hal : ∀ p, p.Aligned → (f p).Aligned) :
    Simulates (Rel n) (on_pager (set_page i f) >>= g') (set_page i f >>= g) Q :=
  (sim_quiet (Quiet.set_page i (Or.inr hva) hal)).then fun _ _ => hg

/-- Assignments that touch neither the address nor the offset, before other statements. -/
theorem sim_mark {i : PageId} {f : UserPage → UserPage} {g' : Unit → MProc β}
    {g : Unit → Proc PageData β} {Q : β → Machine → State PageData → Prop}
    (hg : Simulates (Rel n) (g' ()) (g ()) Q)
    (hf : ∀ p, (f p).va = p.va ∧ (f p).virtual_offset = p.virtual_offset) :
    Simulates (Rel n) (on_pager (set_page i f) >>= g') (set_page i f >>= g) Q :=
  sim_set hg (fun p => (hf p).1) fun p hp => (congrArg (· % PAGE_SIZE) (hf p).2).trans hp

/-- An assignment to flags, at the end. -/
theorem sim_mark_end {i : PageId} {f : UserPage → UserPage}
    (hf : ∀ p, (f p).va = p.va ∧ (f p).virtual_offset = p.virtual_offset) :
    Matches n (on_pager (set_page i f)) (set_page i f) :=
  sim_quiet (Quiet.mark_page i (fun p => (hf p).1) fun p => (hf p).2)

/-- A read of a struct, under any relation. -/
theorem sim_read {R : Machine → State PageData → Prop} (hR : ∀ M s, R M s → Rel n M s) (i : PageId) :
    Simulates R (on_pager (get_page i)) (get_page i) fun p M s => R M s ∧ p = s.pol.page i := by
  intro M s h
  have hrun : (on_pager (get_page i)).run M = .ok (s.pol.page i, M) := by
    show Except.ok (M.pager.pol.page i, M) = _
    rw [(hR M s h).pager]
    rfl
  rw [hrun]
  exact .ok ⟨h, rfl⟩

theorem sim_get_page (i : PageId) :
    Simulates (Rel n) (on_pager (get_page i)) (get_page i) (Stays (Rel n) UserPage.Aligned) :=
  sim_quiet (Quiet.get_page i)

/-- A read of a struct, before other statements. -/
theorem sim_reads {i : PageId} {f' : UserPage → MProc β} {f : UserPage → Proc PageData β}
    {Q : β → Machine → State PageData → Prop} (h : ∀ p, Simulates (Rel n) (f' p) (f p) Q) :
    Simulates (Rel n) (on_pager (get_page i) >>= f') (get_page i >>= f) Q :=
  (sim_get_page i).then fun p _ => h p

/-- An assertion about a struct, before other statements. -/
theorem sim_asserts {i : PageId} {c : UserPage → Prop} [∀ p, Decidable (c p)] {e : Fault}
    {f' : Unit → MProc β} {f : Unit → Proc PageData β} {Q : β → Machine → State PageData → Prop}
    (h : Simulates (Rel n) (f' ()) (f ()) Q) :
    Simulates (Rel n) (on_pager (get_page i) >>= fun p => check (c p) (some e) >>= f')
      (get_page i >>= fun p => check (c p) e >>= f) Q :=
  sim_reads fun _ => Simulates.check fun _ => h

/-! ## The page index -/

/-- A use of the table. -/
theorem run_on_index (M : Machine) (m : (Option PageId → ℕ) → UtHash.Proc (Option PageId) β) {b : β}
    {t : UtHash.Hash (Option PageId)} (h : (m (key M.pager.pol)).run M.pages = .ok (b, t)) :
    (on_index m).run M = .ok (b, { M with pages := t }) := by
  show on_index m M = _
  simp only [on_index, h]

theorem run_on_index_exit (M : Machine) (m : (Option PageId → ℕ) → UtHash.Proc (Option PageId) β)
    (h : (m (key M.pager.pol)).run M.pages = .error .exit) :
    (on_index m).run M = .error none := by
  show on_index m M = _
  simp only [on_index, h]

/-- The keys on both levels. -/
theorem Rel.key (h : Rel n M s) : Machine.key M.pager.pol = Machine.key s.pol := by
  rw [h.pager]
  rfl

/-- A lookup in the table. -/
theorem Rel.lookup (h : Rel n M s) (va : ℕ) :
    (on_index fun key => UtHash.HASH_FIND UtHash.hash_va key va).run M =
      .ok (index_map s.pol.pages va, M) := by
  refine run_on_index M _ ?_
  rw [h.key]
  exact h.index.find va

/-- A lookup answers as the index does. -/
theorem Rel.finds (h : Rel n M s) {va : ℕ} (hva : va ≠ 0) :
    (find_page va).run M = .ok (s.pol.pages va, M) := by
  rw [find_page, run_bind_ok (h.lookup va), index_map, if_neg hva]
  cases s.pol.pages va with
  | none => rfl
  | some i => rfl

theorem sim_find_page {va : ℕ} (hva : va ≠ 0) :
    Simulates (Rel n) (find_page va) (SwapPrefetch.find_page va)
      fun r M s => Rel n M s ∧ s.pol.pages va = r := by
  intro M s h
  have hupper : (SwapPrefetch.find_page va : Proc PageData _).run s = .ok (s.pol.pages va, s) := rfl
  rw [hupper, h.finds hva]
  exact .ok ⟨h, rfl⟩

/-- A struct that is found is in the index. -/
theorem Rel.found (h : Rel n M s) {va : ℕ} {page : PageId} {M₁ : Machine}
    (hfind : (find_page va).run M = .ok (some page, M₁)) : s.pol.pages va = some page := by
  by_cases hva : va = 0
  · have hlookup := h.lookup va
    rw [index_map, if_pos hva] at hlookup
    rw [find_page, run_bind_ok hlookup] at hfind
    cases hfind
  · rw [h.finds hva] at hfind
    injection hfind with hfind
    exact congrArg Prod.fst hfind

/-- A change of the index at one address. -/
theorem index_map_update {pages : ℕ → Option PageId} {va : ℕ} (hva : va ≠ 0) (e : Option PageId) :
    index_map (Function.update pages va e) = Function.update (index_map pages) va (e.map some) := by
  funext a
  by_cases ha : a = va
  · subst ha
    rw [Function.update_self, index_map, if_neg hva, Function.update_self]
  · rw [Function.update_of_ne ha, index_map, index_map, Function.update_of_ne ha]

/-- The index changes, and the table with it. -/
theorem Rel.setIndex (h : Rel n M s) {va : ℕ} (hva : va ≠ 0) (e : Option PageId)
    {t : UtHash.Hash (Option PageId)} (mallocs : List UtHash.Malloc)
    (ht : UtHash.Represents UtHash.hash_va (index_map (Function.update s.pol.pages va e))
      ⟨t, Machine.key s.pol⟩) :
    Rel n { M with pages := t, mallocs := mallocs } { s with pol := s.pol.setIndex va e } where
  pager := h.pager
  index := ht
  zero := (Function.update_of_ne hva.symm _ _).trans h.zero
  aligned := h.aligned
  data := h.data
  disksize := h.disksize
  io_fails := h.io_fails
  backed := h.backed
  calls := h.calls

/-- An element is added to the table, or there is no memory for it. -/
theorem add_element_cases {I : ℕ → Option (Option PageId)} {element : Option PageId}
    (h : UtHash.Represents UtHash.hash_va I ⟨M.pages, Machine.key M.pager.pol⟩)
    (hk : I (Machine.key M.pager.pol element) = none) (he : ∀ va, I va ≠ some element) :
    (add_element element).run M = .error none ∨
      ∃ t, (add_element element).run M =
          .ok ((), { M with pages := t, mallocs := M.mallocs.tail }) ∧
        UtHash.Represents UtHash.hash_va
          (Function.update I (Machine.key M.pager.pol element) (some element))
          ⟨t, Machine.key M.pager.pol⟩ := by
  have hfind := run_on_index M (fun key => UtHash.HASH_FIND UtHash.hash_va key (key element))
    ((h.find _).trans (by rw [hk]))
  have hmalloc : ∀ f : UtHash.Malloc → MProc Unit, (next_malloc >>= f).run M =
      (f (M.mallocs.headD {})).run { M with mallocs := M.mallocs.tail } := fun _ => rfl
  rw [add_element, run_bind_ok hfind, run_check_bind rfl, hmalloc]
  have hadd := h.add (M.mallocs.headD {}) hk he
  rcases hr : (UtHash.HASH_ADD UtHash.hash_va (Machine.key M.pager.pol) (M.mallocs.headD {})
      element).run M.pages with e | ⟨u, t⟩
  · obtain rfl := hadd.of_error hr
    exact Or.inl (run_on_index_exit _ _ hr)
  · exact Or.inr ⟨t, run_on_index _ _ hr, hadd.of_ok hr⟩

/-- The struct is not in the index, and has an address to be indexed under. -/
def New (n : ℕ) (page : PageId) (M : Machine) (s : State PageData) : Prop :=
  Rel n M s ∧ (∀ va, s.pol.pages va ≠ some page) ∧ (s.pol.page page).va ≠ 0

/-- A struct without an address is given one. -/
theorem sim_set_va {page : PageId} {va : ℕ} (hva : va ≠ 0) :
    Simulates (fun M s => Rel n M s ∧ (s.pol.page page).va = 0)
      (on_pager (set_page page fun p => { p with va := va })) (set_page page fun p => { p with va := va })
      (Stays (New n page) Any) := by
  rintro M s ⟨h, hp⟩
  -- a struct with the address `0` is not in the index
  have hnew : ∀ a, s.pol.pages a ≠ some page := by
    intro a ha
    have h0 := (h.va ha).symm.trans hp
    rw [h0, h.zero] at ha
    cases ha
  have hquiet : Quiet Plain {page} Any (set_page page fun p => { p with va := va }) :=
    Quiet.set_page page (Or.inl rfl) fun _ hal => hal
  have hupper : (set_page page fun p => { p with va := va } : Proc PageData Unit).run s =
      .ok ((), { s with pol := s.pol.upd page fun p => { p with va := va } }) := rfl
  obtain ⟨hrun, hrel, -, -⟩ := h.returns hquiet (fun i hi => hi ▸ hnew) hupper
  rw [hrun, hupper]
  refine .ok ⟨⟨hrel, hnew, ?_⟩, trivial⟩
  show (Function.update s.pol.page page _ page).va ≠ 0
  rw [Function.update_self]
  exact hva

theorem sim_add_page (page : PageId) :
    Simulates (New n page) (add_page page) (SwapPrefetch.add_page page) (Stays (Rel n) Any) := by
  rintro M s ⟨h, hnew, hva⟩
  have hupper : (SwapPrefetch.add_page page : Proc PageData Unit).run s =
      (do check (s.pol.pages (s.pol.page page).va = none) .add_page
          modify_pol fun p => p.setIndex (s.pol.page page).va (some page) : Proc PageData Unit).run s :=
    rfl
  rw [hupper, add_page]
  have hkey : Machine.key M.pager.pol (some page) = (s.pol.page page).va := by
    rw [h.key]
    rfl
  have hat : index_map s.pol.pages (s.pol.page page).va =
      (s.pol.pages (s.pol.page page).va).map some := if_neg hva
  rcases hp : s.pol.pages (s.pol.page page).va with _ | i
  · rw [run_check_bind rfl]
    rw [hp, ← hkey] at hat
    have hindex := h.index
    rw [← h.key] at hindex
    rcases add_element_cases hindex hat fun va he => hnew va ((index_map_some h.zero).1 he) with
      hrun | ⟨t, hrun, ht⟩
    · rw [hrun]
      exact .gave_up _
    · rw [hrun]
      refine .ok ⟨h.setIndex hva (some page) M.mallocs.tail ?_, trivial⟩
      rw [index_map_update hva]
      rw [h.key] at ht
      exact ht
  · have hfind : (on_index fun key => UtHash.HASH_FIND UtHash.hash_va key (key (some page))).run M =
        .ok (index_map s.pol.pages (s.pol.page page).va, M) := by
      refine run_on_index M _ ?_
      rw [h.key]
      exact h.index.find _
    rw [hat, hp] at hfind
    rw [add_element, run_bind_ok hfind, run_bind_error (run_check_neg nofun _ _),
      run_bind_error (run_check_neg nofun _ _)]
    exact .fault _

/-- The struct is in no index. -/
def Gone (n : ℕ) (page : PageId) (M : Machine) (s : State PageData) : Prop :=
  Rel n M s ∧ ∀ va, s.pol.pages va ≠ some page

theorem sim_remove_page {page : PageId} {va : ℕ} (hva : va ≠ 0) :
    Simulates (fun M s => Rel n M s ∧ s.pol.pages va = some page) (remove_page page)
      (SwapPrefetch.remove_page page) fun _ => Gone n page := by
  rintro M s ⟨h, hp⟩
  have hpage := h.va hp
  have hupper : (SwapPrefetch.remove_page page : Proc PageData Unit).run s =
      .ok ((), { s with pol := s.pol.setIndex va none }) := by
    rw [← hpage]
    rfl
  obtain ⟨t, hrun, ht⟩ := h.index.del ((index_map_some h.zero).2 hp)
  rw [hupper, remove_page, run_on_index M _ hrun]
  -- the table has no other entry for the struct, because an entry stands under the struct's address
  have honly : ∀ a, s.pol.pages a = some page ↔ a = va := fun a =>
    ⟨fun ha => (h.va ha).symm.trans hpage, fun ha => ha ▸ hp⟩
  refine .ok ⟨h.setIndex hva none M.mallocs ?_, fun a ha => ?_⟩
  · rw [index_map_update hva]
    convert ht using 1
    funext a
    by_cases ha : a = va
    · rw [if_pos ((index_map_some h.zero).2 ((honly a).2 ha)), ha, Function.update_self]
      rfl
    · rw [if_neg fun he => ha ((honly a).1 ((index_map_some h.zero).1 he)), Function.update_of_ne ha]
  · have ha : Function.update s.pol.pages va none a = some page := ha
    by_cases hav : a = va
    · rw [hav, Function.update_self] at ha
      cases ha
    · rw [Function.update_of_ne hav] at ha
      exact hav ((honly a).1 ha)

/-! ## The store -/

theorem Rel.split (h : Rel n M s) : (M.calls.headD {}).split = true := by
  rcases hc : M.calls with _ | ⟨env, rest⟩
  · rfl
  · exact h.calls env (hc ▸ List.mem_cons_self)

theorem Rel.calls_tail (h : Rel n M s) : ∀ env ∈ M.calls.tail, env.split = true :=
  fun env henv => h.calls env (List.mem_of_mem_tail henv)

/-- No storage request fails. -/
theorem Rel.io_outcome (h : Rel n M s) : (SwapPrefetch.io_outcome : Proc PageData Bool).run s =
    .ok (false, s) := by
  have hio := h.io_fails
  obtain ⟨pol, ⟨pte, store, page_cache, buffer_space, prefetch_buffer, ⟨turns, io_fails, copy_fails⟩,
    discarded⟩⟩ := s
  obtain rfl : io_fails = [] := hio
  rfl

theorem sim_write_page (hn : n ≤ MAX_REMOTE_REGIONS * PAGE_SIZE) {dest : ℕ}
    (hdest : RdmaStore.IsSlot n dest) {d : PageData} (hd : Plain d) :
    Simulates (Rel n) (write_page dest d)
      (SwapPrefetch.io_outcome >>= fun fails => if fails then pure () else
        modify_mem fun m => { m with store := Function.update m.store dest (some d) })
      (Stays (Rel n) Any) := by
  intro M s h
  obtain ⟨-, hbacked⟩ := h.backed.write hn hdest hd h.split
  rw [run_bind_ok h.io_outcome]
  refine .ok ⟨⟨h.pager, h.index, h.zero, h.aligned, ?_, h.disksize, h.io_fails, hbacked,
    h.calls_tail⟩, trivial⟩
  exact ⟨h.data.entries, h.data.page_cache, h.data.buffer_space, h.data.prefetch_buffer, h.data.turns⟩

theorem sim_extmem_disk_write (hn : n ≤ MAX_REMOTE_REGIONS * PAGE_SIZE) (va : ℕ) {dest : ℕ}
    (hdest : RdmaStore.IsSlot n dest) :
    Matches n (extmem_disk_write va dest) (SwapPrefetch.extmem_disk_write va dest) := by
  refine (sim_quiet Quiet.app_turn).then fun _ _ => sim_get_mem fun m hm => ?_
  rw [show m.hide.pte = m.pte from rfl]
  rcases he : m.pte va with _ | e
  · exact Simulates.throw _ _
  · exact sim_write_page hn hdest (hm.entries va e he)

/-- What the store holds is plain. -/
theorem Rel.stored (h : Rel n M s) {off : ℕ} {d : PageData} (hd : s.mem.store off = some d) :
    Plain d := by
  rw [h.backed.pages] at hd
  obtain ⟨w, hw, rfl⟩ := Option.map_eq_some_iff.1 hd
  exact (h.backed.plain w (RdmaStore.lastWrite_spec hw).1).1

/-- A request that leaves the pages as they are. -/
theorem Rel.served (h : Rel n M s) {store : RdmaStore} (hs : RdmaStore.Backed n store s.mem.store) :
    Rel n { M with store := store, calls := M.calls.tail } s :=
  ⟨h.pager, h.index, h.zero, h.aligned, h.data, h.disksize, h.io_fails, hs, h.calls_tail⟩

/-- A read returns what the store holds, and leaves it as it is. -/
theorem Rel.read (h : Rel n M s) (hn : n ≤ MAX_REMOTE_REGIONS * PAGE_SIZE) (src : ℕ)
    (dest : PageData) :
    ∃ M₁, (extmem_disk_read src dest).run M = .ok ((s.mem.store src).getD dest, M₁) ∧ Rel n M₁ s := by
  obtain ⟨hread, hbacked⟩ := h.backed.read hn (M.calls.headD {}) src
  refine ⟨_, ?_, h.served hbacked⟩
  simp only [extmem_disk_read, read_page, run_bind, run_get, run_modify, ok_bind, hread]
  rcases s.mem.store src with _ | d
  · rfl
  · have hpage : d.bytes.page = d := funext fun k => dif_pos k.isLt
    show Except.ok (d.bytes.page, _) = _
    rw [hpage]
    rfl

theorem sim_extmem_disk_read (hn : n ≤ MAX_REMOTE_REGIONS * PAGE_SIZE) (src : ℕ) {dest : PageData}
    (hdest : Plain dest) :
    Simulates (Rel n) (extmem_disk_read src dest) (SwapPrefetch.extmem_disk_read src dest)
      (Stays (Rel n) Plain) := by
  intro M s h
  obtain ⟨M₁, hlower, h₁⟩ := h.read hn src dest
  have hupper : (SwapPrefetch.extmem_disk_read src dest).run s =
      .ok ((s.mem.store src).getD dest, s) := by
    rw [SwapPrefetch.extmem_disk_read, run_bind_ok h.io_outcome]
    rfl
  rw [hlower, hupper]
  refine .ok ⟨h₁, ?_⟩
  rcases hd : s.mem.store src with _ | d
  · exact hdest
  · exact h.stored hd

/-! ## Migration -/

/-- The buffer of the thread is filled. -/
theorem sim_set_buffer {buffer : PageData} (hbuffer : Plain buffer) :
    Matches n (on_pager (modify_mem fun m => { m with buffer_space := buffer }))
      (modify_mem fun m => { m with buffer_space := buffer }) :=
  sim_quiet (Quiet.modify_mem (fun _ => rfl) (fun _ => rfl) (fun _ => rfl) fun _ h =>
    ⟨h.entries, h.page_cache, hbuffer, h.prefetch_buffer, h.turns⟩)

section Routines

variable (hn : n ≤ MAX_REMOTE_REGIONS * PAGE_SIZE)
include hn

theorem sim_extmem_migrate_updisk (page : PageId) {dram_offset : ℕ}
    (hoff : dram_offset % PAGE_SIZE = 0) :
    Matches n (extmem_migrate_updisk page dram_offset)
      (SwapPrefetch.extmem_migrate_updisk page dram_offset) := by
  refine sim_asserts (sim_reads fun _ => sim_get_pol fun _ _ => Simulates.check fun _ => ?_)
  refine sim_get_pol fun _ _ => Simulates.check fun _ => sim_get_mem fun m hm => ?_
  refine (sim_extmem_disk_read hn _ hm.buffer_space).then fun buffer hbuffer => ?_
  refine (sim_set_buffer hbuffer).then fun _ _ => sim_reads fun _ => sim_get_mem fun m hm => ?_
  refine (sim_quiet (Quiet.uffdio_copy _ hm.buffer_space)).then fun _ _ => ?_
  refine Simulates.check fun _ => sim_asserts ?_
  exact sim_quiet (Quiet.set_page _ (Or.inr fun _ => rfl) fun _ _ => hoff)

theorem sim_extmem_migrate_downdisk (page : PageId) {disk_offset : ℕ}
    (hoff : disk_offset % PAGE_SIZE = 0) (writeback : Bool) :
    Matches n (extmem_migrate_downdisk page disk_offset writeback)
      (SwapPrefetch.extmem_migrate_downdisk page disk_offset writeback) := by
  refine sim_mark (sim_asserts (sim_reads fun _ => ?_)) fun _ => ⟨rfl, rfl⟩
  refine sim_get_pol fun _ _ => Simulates.check fun _ => ?_
  refine sim_get_pol fun _ _ => Simulates.check fun _ => ?_
  refine sim_get_pol fun p hp => Simulates.check fun hbound => ?_
  refine sim_get_pol fun _ _ => Simulates.check fun _ => ?_
  have hslot : RdmaStore.IsSlot n disk_offset := ⟨hoff, hp ▸ hbound⟩
  -- what follows the write is the same whether the page is written or not
  refine have hrest := ?rest; Simulates.ite (fun _ => sim_reads fun _ =>
    (sim_extmem_disk_write hn _ hslot).then fun _ _ => hrest) fun _ => hrest
  refine sim_reads fun _ => (sim_quiet (Quiet.madvise_dontneed _)).then fun _ _ => ?_
  refine sim_set (sim_asserts (sim_mark ?_ fun _ => ⟨rfl, rfl⟩)) (fun _ => rfl) fun _ _ => hoff
  exact sim_reads fun _ => Simulates.check_end

theorem sim_lrudisk_migrate_down (page : PageId) {offset : ℕ} (hoff : offset % PAGE_SIZE = 0)
    (need_wp writeback : Bool) :
    Matches n (lrudisk_migrate_down page offset need_wp writeback)
      (SwapPrefetch.lrudisk_migrate_down page offset need_wp writeback) := by
  have hdown := sim_extmem_migrate_downdisk hn page hoff writeback
  refine sim_mark (Simulates.ite (fun _ => ?_) fun _ => hdown) fun _ => ⟨rfl, rfl⟩
  exact (sim_quiet (Quiet.extmem_wp_page _ _)).then fun _ _ => hdown

/-! ## Eviction and frames -/

theorem sim_evict_victim (victim : PageId) :
    Matches n (evict_victim victim) (SwapPrefetch.evict_victim victim) := by
  refine sim_mark ((sim_quiet (Quiet.extmem_wp_page _ _)).then fun _ _ => ?_) fun _ => ⟨rfl, rfl⟩
  refine (sim_quiet (Quiet.pt_get_bits _)).then fun bits _ => sim_reads fun _ => sim_reads fun _ => ?_
  refine Simulates.ite (fun _ => ?_) fun _ => ?_
  · refine (sim_quiet (Quiet.detach_reserve _ _)).then fun diskpage _ => ?_
    refine (sim_get_page _).then fun old hold => (sim_get_page _).then fun slot hslot => ?_
    refine (sim_lrudisk_migrate_down hn _ hslot _ _).then fun _ _ => ?_
    refine sim_set (sim_mark ?_ fun _ => ⟨rfl, rfl⟩) (fun _ => rfl) fun _ _ => hold
    refine (sim_quiet (Quiet.enqueue _ _)).then fun _ _ => ?_
    refine (sim_quiet (Quiet.enqueue _ _)).then fun _ _ => ?_
    exact sim_asserts (sim_asserts (sim_mark_end fun _ => ⟨rfl, rfl⟩))
  · refine (sim_quiet (Quiet.dequeue _)).then fun diskpage _ => ?_
    cases diskpage with
    | none => exact Simulates.throw _ _
    | some diskpage =>
        refine sim_asserts ((sim_get_page _).then fun old hold => (sim_get_page _).then fun slot hslot => ?_)
        refine (sim_lrudisk_migrate_down hn _ hslot _ _).then fun _ _ => ?_
        refine (sim_quiet (Quiet.enqueue _ _)).then fun _ _ => sim_set ?_ (fun _ => rfl) fun _ _ => hold
        refine (sim_quiet (Quiet.enqueue _ _)).then fun _ _ => ?_
        exact sim_asserts (sim_asserts (sim_mark_end fun _ => ⟨rfl, rfl⟩))

theorem sim_lrudisk_evictionworker :
    Matches n lrudisk_evictionworker SwapPrefetch.lrudisk_evictionworker := by
  refine (sim_quiet (Quiet.dequeue _)).then fun victim _ => ?_
  cases victim with
  | none => exact Simulates.pure trivial
  | some victim => exact sim_evict_victim hn victim

theorem sim_fetch_free_evict (page : PageId) :
    Matches n (fetch_free_evict page) (SwapPrefetch.fetch_free_evict page) := by
  refine sim_mark ((sim_quiet (Quiet.extmem_wp_page _ _)).then fun _ _ => ?_) fun _ => ⟨rfl, rfl⟩
  refine (sim_quiet (Quiet.pt_get_bits _)).then fun bits _ => sim_reads fun _ => sim_reads fun _ => ?_
  refine Simulates.ite (fun _ => ?_) fun _ => ?_
  · refine (sim_quiet (Quiet.detach_reserve _ _)).then fun diskpage _ => ?_
    refine (sim_get_page _).then fun old hold => (sim_get_page _).then fun slot hslot => ?_
    refine (sim_lrudisk_migrate_down hn _ hslot _ _).then fun _ _ => ?_
    refine sim_set (sim_mark ?_ fun _ => ⟨rfl, rfl⟩) (fun _ => rfl) fun _ _ => hold
    refine (sim_quiet (Quiet.enqueue _ _)).then fun _ _ => ?_
    exact sim_asserts (sim_asserts (sim_mark (Simulates.pure trivial) fun _ => ⟨rfl, rfl⟩))
  · refine (sim_quiet (Quiet.dequeue _)).then fun diskpage _ => ?_
    cases diskpage with
    | none => exact Simulates.throw _ _
    | some diskpage =>
        refine sim_asserts ((sim_get_page _).then fun old hold => (sim_get_page _).then fun slot hslot => ?_)
        refine (sim_lrudisk_migrate_down hn _ hslot _ _).then fun _ _ => sim_asserts ?_
        refine (sim_quiet (Quiet.enqueue _ _)).then fun _ _ => sim_set ?_ (fun _ => rfl) fun _ _ => hold
        exact sim_mark (Simulates.pure trivial) fun _ => ⟨rfl, rfl⟩

/-- The loop, by induction on its fuel. -/
theorem sim_fetch_free_loop (fuel priority : ℕ) :
    Matches n (fetch_free_loop fuel priority) (SwapPrefetch.fetch_free_loop fuel priority) := by
  induction fuel generalizing priority with
  | zero => exact Simulates.throw _ _
  | succ fuel ih =>
      refine Simulates.ite (fun _ => Simulates.throw _ _) fun _ => ?_
      refine (sim_quiet (Quiet.dequeue _)).then fun page _ => ?_
      cases page with
      | some page => exact Simulates.pure trivial
      | none =>
          refine (sim_quiet (Quiet.fetch_free_reclaim _)).then fun priority _ => ?_
          refine (sim_quiet (Quiet.dequeue _)).then fun page _ => ?_
          cases page with
          | some page => exact sim_fetch_free_evict hn page
          | none => exact ih priority

theorem sim_fetch_free_asynch (fuel : ℕ) :
    Matches n (fetch_free_asynch fuel) (SwapPrefetch.fetch_free_asynch fuel) :=
  sim_fetch_free_loop hn fuel 12

theorem sim_lrudisk_pagefault (fuel : ℕ) :
    Matches n (lrudisk_pagefault fuel) (SwapPrefetch.lrudisk_pagefault fuel) :=
  (sim_fetch_free_asynch hn fuel).then fun _ _ =>
    sim_mark (Simulates.pure trivial) fun _ => ⟨rfl, rfl⟩

/-! ## Swap-in -/

theorem sim_lrudisk_swapin_external (fuel : ℕ) (page : PageId) :
    Matches n (lrudisk_swapin_external fuel page)
      (SwapPrefetch.lrudisk_swapin_external fuel page) := by
  refine (sim_get_page _).then fun file hfile => (sim_fetch_free_asynch hn fuel).then fun freepage _ => ?_
  refine sim_asserts ((sim_quiet (Quiet.lrudisk_detach_page _)).then fun _ _ => ?_)
  refine (sim_get_page _).then fun frame hframe => ?_
  refine (sim_extmem_migrate_updisk hn _ hframe).then fun _ _ => ?_
  refine (sim_quiet (Quiet.release _ hfile)).then fun _ _ => ?_
  exact sim_quiet (Quiet.link_reserve _ _)

theorem sim_lrudisk_swapin_external_async (fuel : ℕ) (page : PageId) :
    Matches n (lrudisk_swapin_external_async fuel page)
      (SwapPrefetch.lrudisk_swapin_external_async fuel page) := by
  refine (sim_get_page _).then fun file hfile => ?_
  refine (sim_quiet (Quiet.lrudisk_detach_page _)).then fun _ _ => sim_reads fun _ => ?_
  refine have hrest := ?rest; Simulates.ite (fun _ => sim_mark hrest fun _ => ⟨rfl, rfl⟩)
    fun _ => hrest
  refine (sim_quiet (Quiet.core_migrate_up_async_start _)).then fun _ _ => ?_
  refine (sim_fetch_free_asynch hn fuel).then fun freepage _ => ?_
  refine sim_asserts ((sim_get_page _).then fun frame hframe => ?_)
  refine (sim_quiet (Quiet.core_migrate_up_async_finish _ hframe)).then fun _ _ => ?_
  refine (sim_quiet (Quiet.release _ hfile)).then fun _ _ => ?_
  exact sim_quiet (Quiet.link_reserve _ _)

theorem sim_page_swapin (fuel : ℕ) (async : Bool) (page : PageId) :
    Matches n (page_swapin fuel async page) (SwapPrefetch.page_swapin fuel async page) := by
  cases async with
  | true => exact sim_lrudisk_swapin_external_async hn fuel page
  | false => exact sim_lrudisk_swapin_external hn fuel page

/-! ## Fault handlers -/

theorem sim_handle_first_fault (fuel page_boundry : ℕ) :
    Matches n (handle_first_fault fuel page_boundry)
      (SwapPrefetch.handle_first_fault fuel page_boundry) := by
  refine Simulates.check fun h0 => (sim_lrudisk_pagefault hn fuel).then fun newpage _ => ?_
  refine (sim_find_page h0).bind fun found => Simulates.weaken ?_ fun _ _ h => h.1
  cases found with
  | some page =>
      refine (sim_quiet (Quiet.lrudisk_put_page_free _)).then fun _ _ => ?_
      exact sim_reads fun _ => Simulates.check_end
  | none =>
      refine sim_mark ?_ fun _ => ⟨rfl, rfl⟩
      refine (sim_read (fun _ _ h => h) newpage).bind fun p => Simulates.check fun hp => ?_
      refine Simulates.then (Simulates.weaken (sim_set_va h0) fun _ _ h => ⟨h.1, h.2 ▸ hp⟩) fun _ _ => ?_
      refine (sim_read (fun _ _ h => h.1) newpage).bind fun q => Simulates.weaken ?_ fun _ _ h => h.1
      refine Simulates.check fun _ => (sim_add_page newpage).then fun _ _ => sim_asserts ?_
      refine sim_reads fun _ => sim_get_mem fun m hm => ?_
      refine (sim_quiet (Quiet.uffdio_copy _ hm.page_cache)).then fun _ _ => Simulates.check fun _ => ?_
      refine sim_mark ?_ fun _ => ⟨rfl, rfl⟩
      refine (sim_quiet (Quiet.lrudisk_track_page _)).then fun _ _ => ?_
      exact sim_quiet (Quiet.account _ _)

theorem sim_major_fault (fuel : ℕ) (async : Bool) (page : PageId) :
    Matches n (major_fault (page_swapin fuel async) page)
      (SwapPrefetch.major_fault (SwapPrefetch.page_swapin fuel async) page) := by
  refine sim_reads fun _ => sim_asserts (sim_reads fun _ => ?_)
  refine Simulates.ite (fun _ => sim_mark ?_ fun _ => ⟨rfl, rfl⟩) fun _ => Simulates.pure trivial
  refine (sim_page_swapin hn fuel async page).then fun _ _ => ?_
  exact sim_asserts (sim_asserts (sim_asserts (sim_mark_end fun _ => ⟨rfl, rfl⟩)))

theorem sim_uswap_sig_handler (fuel : ℕ) (async : Bool) {fault_addr : ℕ}
    (h0 : fault_addr - fault_addr % PAGE_SIZE ≠ 0) :
    Matches n (uswap_sig_handler fuel (page_swapin fuel async) fault_addr)
      (SwapPrefetch.uswap_sig_handler fuel (SwapPrefetch.page_swapin fuel async) fault_addr) := by
  refine (sim_find_page h0).bind fun found => Simulates.weaken ?_ fun _ _ h => h.1
  cases found with
  | none => exact sim_handle_first_fault hn fuel _
  | some page =>
      refine sim_reads fun _ => Simulates.ite (fun _ => ?_) fun _ => ?_
      · exact sim_major_fault hn fuel async page
      · exact sim_quiet (Quiet.reads fun _ => Quiet.check _ _)

/-! ## Sequential prefetch -/

/-- The window does not reach the end of the address space. -/
theorem sim_prefetch_select (fuel left : ℕ) {page_boundry : ℕ}
    (hend : page_boundry + left * PAGE_SIZE < 2 ^ 64) :
    Matches n (prefetch_select fuel left page_boundry)
      (SwapPrefetch.prefetch_select fuel left page_boundry) := by
  induction left generalizing page_boundry with
  | zero => exact Simulates.pure trivial
  | succ left ih =>
      rw [Nat.succ_mul] at hend
      have hlt : page_boundry + PAGE_SIZE < 2 ^ 64 :=
        lt_of_le_of_lt (Nat.add_le_add_left (Nat.le_add_left _ _) _) hend
      have hnext := Nat.mod_eq_of_lt hlt
      have h0 : (page_boundry + PAGE_SIZE) % 2 ^ 64 ≠ 0 := by
        rw [hnext]
        exact Nat.ne_of_gt (Nat.lt_of_lt_of_le (by decide) (Nat.le_add_left _ _))
      refine (sim_find_page h0).bind fun found => Simulates.weaken ?_ fun _ _ h => h.1
      cases found with
      | none => exact Simulates.pure trivial
      | some page =>
          refine sim_asserts (sim_reads fun _ => sim_reads fun _ => ?_)
          refine Simulates.ite (fun _ => Simulates.pure trivial) fun _ => ?_
          refine sim_mark (sim_asserts ?_) fun _ => ⟨rfl, rfl⟩
          refine (sim_quiet (Quiet.lrudisk_detach_page _)).then fun _ _ => ?_
          refine (sim_lrudisk_pagefault hn fuel).then fun _ _ => ?_
          exact (ih (by rw [hnext]; omega)).then fun _ _ => Simulates.pure trivial

theorem sim_prefetch_read (jobs : List (PageId × PageId)) (i : ℕ) :
    Matches n (prefetch_read jobs i) (SwapPrefetch.prefetch_read jobs i) := by
  induction jobs generalizing i with
  | nil => exact Simulates.pure trivial
  | cons job rest ih =>
      refine sim_reads fun _ => sim_get_mem fun m hm => ?_
      refine (sim_extmem_disk_read hn _ (hm.prefetch_buffer i)).then fun data hdata => ?_
      have hset : Quiet Plain ∅ Any (modify_mem fun m : Mem PageData =>
          { m with prefetch_buffer := Function.update m.prefetch_buffer i data }) := by
        refine Quiet.modify_mem (fun _ => rfl) (fun _ => rfl) (fun _ => rfl) fun m h => ?_
        refine ⟨h.entries, h.page_cache, h.buffer_space, fun j => ?_, h.turns⟩
        show Plain (Function.update m.prefetch_buffer i data j)
        by_cases hj : j = i
        · rw [hj, Function.update_self]
          exact hdata
        · rw [Function.update_of_ne hj]
          exact h.prefetch_buffer j
      exact (sim_quiet hset).then fun _ _ => ih _

theorem sim_core_try_prefetch (fuel : ℕ) {base_boundry : ℕ}
    (hend : base_boundry + CORE_PREFETCH_RATE * PAGE_SIZE < 2 ^ 64) :
    Matches n (core_try_prefetch fuel base_boundry)
      (SwapPrefetch.core_try_prefetch fuel base_boundry) := by
  refine Simulates.check fun _ => (sim_prefetch_select hn fuel _ hend).then fun jobs _ => ?_
  refine (sim_prefetch_read hn jobs 0).then fun _ _ => ?_
  exact sim_quiet (Quiet.prefetch_finish _ _)

omit hn

/-! ## `munmap` -/

theorem sim_munmap_page {page_boundry : ℕ} (h0 : page_boundry ≠ 0) :
    Matches n (munmap_page page_boundry) (SwapPrefetch.munmap_page page_boundry) := by
  refine (sim_find_page h0).bind fun found => ?_
  cases found with
  | none => exact Simulates.weaken (Simulates.pure trivial) fun _ _ h => h.1
  | some page =>
      refine (sim_read (fun _ _ h => h.1) page).bind fun _ => Simulates.weaken ?_ fun _ _ h => h.1
      refine Simulates.check fun _ => ?_
      -- the struct stays in the index until `remove_page`
      have hmark : Quiet Plain ∅ Any (set_page page fun p => { p with migrating := true }) :=
        Quiet.mark_page _ (fun _ => rfl) fun _ => rfl
      refine Simulates.bind (Q := fun _ M s => Rel n M s ∧ s.pol.pages page_boundry = some page) ?_
        fun _ => ?_
      · rintro M s ⟨h, hp⟩
        refine (h.on_pager hmark fun _ hi => hi.elim).mono fun _ _ s' h' => ⟨h'.1, ?_⟩
        rw [h'.2.2.pages]
        exact hp
      refine (sim_remove_page h0).bind fun _ => ?_
      refine Simulates.bind (Q := fun _ => Rel n) ?_ fun _ => sim_quiet (Quiet.account _ _)
      rintro M s ⟨h, hgone⟩
      refine (h.on_pager (Quiet.lrudisk_remove_page page) fun i hi => hi ▸ hgone).mono ?_
      exact fun _ _ _ h' => h'.1

theorem sim_munmap_loop (left : ℕ) {page_boundry : ℕ} (h0 : page_boundry ≠ 0) :
    Matches n (munmap_loop left page_boundry) (SwapPrefetch.munmap_loop left page_boundry) := by
  induction left generalizing page_boundry with
  | zero => exact Simulates.pure trivial
  | succ left ih => exact (sim_munmap_page h0).then fun _ _ => ih (Nat.ne_of_gt (by omega))

theorem sim_extmem_munmap {addr : ℕ} (length : ℕ) (h0 : addr ≠ 0) :
    Matches n (extmem_munmap addr length) (SwapPrefetch.extmem_munmap addr length) := by
  refine Simulates.check fun _ => (sim_munmap_loop _ h0).then fun _ _ => ?_
  exact sim_quiet (Quiet.libc_munmap _ _)

/-! ## Runs -/

/-- What is asked of an operation: what the application writes is plain, a window does not reach the
end of the address space, and nothing is unmapped from the address `0` on. -/
def Sane : Op PageData → Prop
  | .fault _ _ buffer => Plain buffer
  | .try_prefetch base_boundry => base_boundry + CORE_PREFETCH_RATE * PAGE_SIZE < 2 ^ 64
  | .munmap addr _ => addr ≠ 0
  | .app accesses => ∀ va d, Access.write va d ∈ accesses → Plain d
  | _ => True

/-- The page of an address above the first page. -/
theorem boundry_ne_zero {addr : ℕ} (h : ¬ addr < PAGE_SIZE) : addr - addr % PAGE_SIZE ≠ 0 := by
  have hmod := Nat.mod_lt addr (show 0 < PAGE_SIZE by decide)
  omega

include hn in
/-- **One operation.** -/
theorem sim_exec_op (fuel : ℕ) {op : Op PageData} (hop : Sane op) :
    Matches n (exec_op fuel op) (op.exec fuel) := by
  cases op with
  | fault addr async buffer =>
      refine Simulates.ite (fun _ => Simulates.pure trivial) fun haddr => ?_
      refine (sim_set_buffer hop).then fun _ _ => ?_
      exact sim_uswap_sig_handler hn fuel async (boundry_ne_zero haddr)
  | populate addr =>
      refine Simulates.ite (fun _ => Simulates.pure trivial) fun _ => ?_
      exact sim_handle_first_fault hn fuel _
  | try_prefetch base_boundry =>
      refine Simulates.ite (fun _ => Simulates.pure trivial) fun _ => ?_
      exact (sim_core_try_prefetch hn fuel hop).then fun _ _ => Simulates.pure trivial
  | evict => exact sim_lrudisk_evictionworker hn
  | kswapd nr_pages priority =>
      exact sim_quiet ((Quiet.direct_allocate_page_asynch _ _).bind fun _ _ => Quiet.done)
  | shrink_active nr_pages =>
      exact sim_quiet ((Quiet.shrink_active_list _).bind fun _ _ => Quiet.done)
  | shrink_inactive nr_pages =>
      exact sim_quiet ((Quiet.shrink_inactive_list _).bind fun _ _ => Quiet.done)
  | munmap addr length => exact sim_extmem_munmap length hop
  | app accesses =>
      refine sim_quiet (Quiet.modify_mem (Mem.accesses_hide accesses)
        (fun m => (m.accesses_appStep accesses).rest.store)
        (fun m => (m.accesses_appStep accesses).rest.io_fails) fun _ h => h.accesses accesses hop)

end Routines

/-! ## Initialisation -/

/-- What a run starts from, with what is asked of it: there is an entry of the region table for every
slot, no storage request fails for a reason of its own, the server can split blocks, and the
application writes pages that the codec leaves alone. -/
structure Setup where
  dramsize : ℕ
  disksize : ℕ
  zero : PageData
  env : Env PageData
  mallocs : List UtHash.Malloc
  calls : List CallEnv
  fits : disksize ≤ MAX_REMOTE_REGIONS * PAGE_SIZE
  plain : Plain zero
  turns : ∀ t ∈ env.turns, ∀ va d, Access.write va d ∈ t → Plain d
  io_fails : env.io_fails = []
  split : ∀ call ∈ calls, call.split = true

namespace Setup

variable (c : Setup)

/-- The run on the machine. -/
def machine (r : Run PageData) : Except (Option Fault) (Unit × Machine) :=
  (do extmem_init; exec_run r : MProc Unit).run
    (blank c.dramsize c.disksize c.zero c.env c.mallocs c.calls)

/-- The run of the pager. -/
def pager (r : Run PageData) : Except Fault (Unit × State PageData) :=
  (do lrudisk_init; r.exec : Proc PageData Unit).run
    (State.blank c.dramsize c.disksize c.zero c.env)

theorem kept {X : Set PageId} : Kept Plain X (State.blank c.dramsize c.disksize c.zero c.env)
    (State.blank c.dramsize c.disksize c.zero c.env) :=
  ⟨fun _ => rfl, ⟨nofun, c.plain, c.plain, fun _ => c.plain, c.turns⟩, rfl, fun _ _ => rfl, rfl, rfl, rfl⟩

theorem hide_blank : (State.blank c.dramsize c.disksize c.zero c.env).hide =
    State.blank c.dramsize c.disksize c.zero c.env := by
  rcases henv : c.env with ⟨turns, io_fails, copy_fails⟩
  obtain rfl : io_fails = [] := by
    have hio := c.io_fails
    rw [henv] at hio
    exact hio
  rfl

/-- With the dummy page alone, the table is the empty index. -/
theorem index_map_dummy :
    Function.update (fun _ : ℕ => none) 0 (some none) = index_map fun _ => none := by
  funext va
  by_cases hva : va = 0
  · subst hva
    rfl
  · rw [index_map, if_neg hva, Function.update_of_ne hva]
    rfl

/-- **Initialisation.** -/
theorem extmem_init_agree :
    Agree (fun _ => Rel c.disksize)
      (extmem_init.run (blank c.dramsize c.disksize c.zero c.env c.mallocs c.calls))
      ((lrudisk_init : Proc PageData Unit).run
        (State.blank c.dramsize c.disksize c.zero c.env)) := by
  rcases hr : (lrudisk_init : Proc PageData Unit).run (State.blank c.dramsize c.disksize c.zero c.env)
    with e | ⟨⟨⟩, t⟩
  · rw [extmem_init, run_bind_error (run_on_pager_error hr)]
    exact .fault e
  · obtain ⟨hhide, -, hkept⟩ := Quiet.lrudisk_init.run_ok c.kept hr
    rw [c.hide_blank] at hhide
    have hself : t.hide = t := by
      rw [hhide] at hr
      injection hr with hr
      exact congrArg Prod.snd hr
    have hpages : t.pol.pages = fun _ => none := hkept.pages
    rw [extmem_init, run_bind_ok (run_on_pager hr)]
    have hdummy := @add_element_cases { blank c.dramsize c.disksize c.zero c.env c.mallocs c.calls with
      pager := t } (fun _ => none) none (UtHash.represents_start _ _) rfl nofun
    rcases hdummy with hrun | ⟨tbl, hrun, htbl⟩
    · rw [hrun]
      exact .gave_up _
    · rw [hrun]
      refine .ok ⟨hself.symm, ?_, ?_, hkept.aligned, hkept.data, hkept.disksize, hkept.io_fails.trans c.io_fails, ?_,
        c.split⟩
      · rw [hpages, ← index_map_dummy]
        exact htbl
      · rw [hpages]
      · rw [hkept.store]
        exact RdmaStore.backed_start _

/-- A run on the machine and the run of the pager. -/
theorem agree {r : Run PageData} (hr : ∀ x ∈ r, Sane x.2) :
    Agree (fun _ => Rel c.disksize) (c.machine r) (c.pager r) := by
  refine c.extmem_init_agree.bind fun _ => ?_
  have hop : ∀ x ∈ r, Simulates (Rel c.disksize) (exec_op x.1 x.2) (x.2.exec x.1)
      (Stays (Rel c.disksize) Any) := fun x hx => sim_exec_op c.fits x.1 (hr x hx)
  exact (Simulates.runs r hop).mono (fun _ _ h => h) fun _ _ _ h => h.1

/-- What the machine reached, the pager reached. -/
theorem reaches {r : Run PageData} (hr : ∀ x ∈ r, Sane x.2) {M : Machine}
    (hM : c.machine r = .ok ((), M)) :
    ∃ s, Reaches c.dramsize c.disksize c.zero c.env r s ∧ Rel c.disksize M s :=
  (c.agree hr).of_ok hM

end Setup

/-- A page of zeros, and one that starts with `7`. -/
def zeroPage : PageData := fun _ => 0

@[inherit_doc zeroPage] def sevenPage : PageData := fun k => if k.val = 0 then 7 else 0

/-- One frame and two slots. -/
def small : Setup where
  dramsize := 4096
  disksize := 8192
  zero := zeroPage
  env := {}
  mallocs := []
  calls := []
  fits := by decide
  plain := by decide
  turns := nofun
  io_fails := rfl
  split := nofun

/-- A page is touched, written to and evicted. -/
def swapOut : Run PageData :=
  [(1, .fault 4096 false zeroPage), (1, .app [.write 4096 sevenPage]), (1, .shrink_inactive 1),
    (1, .evict)]

theorem swapOut_sane : ∀ x ∈ swapOut, Sane x.2 ∧ x.2.Scalar := by
  have hwrite : ∀ va d, Access.write va d ∈ [Access.write 4096 sevenPage] → Plain d := by
    intro va d hd
    cases List.mem_singleton.1 hd
    decide
  intro x hx
  simp only [swapOut, List.mem_cons, List.not_mem_nil, or_false] at hx
  rcases hx with rfl | rfl | rfl | rfl
  · exact ⟨small.plain, rfl⟩
  · exact ⟨hwrite, trivial⟩
  · exact ⟨trivial, trivial⟩
  · exact ⟨trivial, trivial⟩

end SwapPrefetch.Machine
