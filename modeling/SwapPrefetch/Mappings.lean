/-
Fresh mappings: `extmem_mmap` and `extmem_munmap` of `src/core.c`, over whole runs.

The kernel is seen through its answers. Without `MAP_FIXED` it places a mapping in a free range;
with it, it replaces whatever is mapped there. `Space` keeps the pages that are mapped, and as a
ghost the pages that were accessed since they were mapped.

The page index of the library should hold exactly the accessed pages: then the first access to a
page of a new mapping is a first fault and reads zeros. `extmem_munmap` drops the pages of its
range from the index, and `extmem_mmap` drops nothing. So the index is right in exactly the runs
in which no mapping is placed over a page that was accessed.
-/
import Mathlib.Tactic
import SwapPrefetch.Ring
import SwapPrefetch.Runs

set_option autoImplicit false

namespace SwapPrefetch

open Prog

variable {α β : Type}

/-! ## The operations of the pager and the index -/

/-- The page that an operation accesses for the application. -/
def Op.accesses : Op α → Option ℕ
  | .fault addr _ _ => if addr < PAGE_SIZE then none else some (boundary addr)
  | .populate addr => if addr < PAGE_SIZE then none else some (boundary addr)
  | _ => none

/-- The pages that an operation unmaps. -/
def Op.unmaps : Op α → ℕ → Bool
  | .munmap addr length, a => decide (addr ≤ a ∧ a < addr + length)
  | _, _ => false

/-- What the index holds after an operation; the zero page is as before. -/
structure Op.Indexed (op : Op α) (s s' : State α) : Prop where
  index : ∀ a, s'.pol.pages a ≠ none ↔
    (s.pol.pages a ≠ none ∨ op.accesses = some a) ∧ op.unmaps a = false
  page_cache : s'.mem.page_cache = s.mem.page_cache

section

variable {op : Op α} {s s' : State α} {b : ℕ}

/-- An operation that leaves the index alone. -/
theorem Op.indexed_of_same (hop : op.accesses = none) (hunmaps : ∀ a, op.unmaps a = false)
    (hpages : s'.pol.pages = s.pol.pages) (hzero : s'.mem.page_cache = s.mem.page_cache) :
    op.Indexed s s' := by
  refine ⟨fun a => ?_, hzero⟩
  rw [hpages, hop]
  exact ⟨fun hp => ⟨Or.inl hp, hunmaps a⟩, fun hp => hp.1.resolve_right (Option.some_ne_none a).symm⟩

/-- A first fault adds its page. -/
theorem FirstFault.indexed (h : FirstFault s s' b) (hop : op.accesses = some b)
    (hunmaps : ∀ a, op.unmaps a = false) : op.Indexed s s' := by
  refine ⟨fun a => ?_, h.page_cache⟩
  rw [hop]
  by_cases hab : a = b
  · exact iff_of_true (hab ▸ h.tracked) ⟨Or.inr (congrArg some hab.symm), hunmaps a⟩
  · rw [h.others a hab]
    refine ⟨fun hp => ⟨Or.inl hp, hunmaps a⟩, fun hp => hp.1.resolve_right fun hba => ?_⟩
    exact hab (Option.some.inj hba).symm

/-- A fault on a page that is tracked changes nothing. -/
theorem Op.indexed_of_tracked (hop : op.accesses = some b) (hunmaps : ∀ a, op.unmaps a = false)
    (hb : s.pol.pages b ≠ none) (hpages : s'.pol.pages = s.pol.pages)
    (hzero : s'.mem.page_cache = s.mem.page_cache) : op.Indexed s s' := by
  refine ⟨fun a => ?_, hzero⟩
  rw [hpages, hop]
  refine ⟨fun hp => ⟨Or.inl hp, hunmaps a⟩, fun hp => hp.1.elim id fun hba => ?_⟩
  rw [← Option.some.inj hba]
  exact hb

end

/-- A fault leaves the index with the page at the address. -/
theorem uswap_sig_handler_indexed (fuel : ℕ) (async : Bool) (buffer : α) {s : State α} {addr : ℕ}
    (h : Idle s.pol) (haddr : ¬ addr < PAGE_SIZE) :
    Ends ((uswap_sig_handler fuel (page_swapin fuel async) addr).run s)
      (fun _ s' => (Op.fault addr async buffer).Indexed s s') fun _ => True := by
  have hop : (Op.fault addr async buffer).accesses = some (boundary addr) := if_neg haddr
  rcases hb : s.pol.pages (boundary addr) with _ | p
  · rw [run_uswap_sig_handler_new fuel _ hb]
    exact (handle_first_fault_ends fuel h (boundary_ne_zero haddr) (boundary_aligned addr)).mono
      (fun _ s' hs => hs.2.indexed hop fun _ => rfl) fun _ _ => trivial
  · obtain ⟨hp, hva, h0⟩ := h.live hb
    have htracked : s.pol.pages (boundary addr) ≠ none := by
      rw [hb]
      exact Option.some_ne_none p
    rw [run_uswap_sig_handler_tracked fuel _ hb]
    split
    case isTrue hsw =>
      exact (major_fault_ends fuel async h hp (by rw [hva]; exact h0) hsw).mono
        (fun _ s' hs => Op.indexed_of_tracked hop (fun _ => rfl) htracked hs.1.fixed.pages hs.2)
        fun _ _ => trivial
    case isFalse =>
      have hmig := (h.quiet p hp (by simp)).2 (by rw [hva]; exact h0)
      exact Ends.of_eq (run_handle_wp_fault hmig)
        (Op.indexed_of_tracked hop (fun _ => rfl) htracked rfl rfl)

/-- **One operation and the index.** -/
theorem Op.exec_indexed (fuel : ℕ) (op : Op α) {s : State α} (h : Idle s.pol) :
    Ends ((op.exec fuel).run s) (fun _ s' => op.Indexed s s') fun _ => True := by
  have hscan : ∀ {m : Proc α Unit} {E : Fault → Prop} {op : Op α}, op.accesses = none →
      (∀ a, op.unmaps a = false) → Ends (m.run s) (fun _ s' => Reclaimed s s') E →
      Ends (m.run s) (fun _ s' => op.Indexed s s') fun _ => True :=
    fun hop hunmaps hm => hm.mono (fun _ _ r => Op.indexed_of_same hop hunmaps r.step.fixed.pages
      r.step.page_cache) fun _ _ => trivial
  cases op with
  | fault addr async buffer =>
      rw [Op.exec]
      split
      case isTrue hlow => exact Ends.ok (Op.indexed_of_same (if_pos hlow) (fun _ => rfl) rfl rfl)
      case isFalse haddr =>
        rw [run_bind_ok (run_modify_mem _ _)]
        exact (uswap_sig_handler_indexed fuel async buffer
          (s := ⟨s.pol, { s.mem with buffer_space := buffer }⟩) h haddr).mono
          (fun _ s' hs => ⟨hs.index, hs.page_cache⟩) fun _ _ => trivial
  | populate addr =>
      rw [Op.exec]
      split
      case isTrue hlow => exact Ends.ok (Op.indexed_of_same (if_pos hlow) (fun _ => rfl) rfl rfl)
      case isFalse haddr =>
        exact (handle_first_fault_ends fuel h (boundary_ne_zero haddr) (boundary_aligned addr)).mono
          (fun _ s' hs => hs.2.indexed (if_neg haddr) fun _ => rfl) fun _ _ => trivial
  | try_prefetch base =>
      rw [Op.exec]
      split
      · exact Ends.ok (Op.indexed_of_same rfl (fun _ => rfl) rfl rfl)
      case isFalse hbase =>
        refine Ends.bind ((core_try_prefetch_ends fuel h hbase).mono (fun _ _ hs => hs)
          fun _ _ => trivial) fun _ s' hs => ?_
        exact Op.indexed_of_same rfl (fun _ => rfl) hs.2.1.pages hs.2.2
  | evict => exact hscan rfl (fun _ => rfl) (lrudisk_evictionworker_ends h.inv)
  | kswapd nr_pages priority =>
      refine hscan rfl (fun _ => rfl) (E := Calm) ?_
      exact Ends.bind (direct_allocate_page_asynch_ends nr_pages priority s h.inv) fun _ _ r => r
  | shrink_active nr_pages =>
      refine hscan rfl (fun _ => rfl) (E := Calm) ?_
      exact Ends.bind (shrink_active_list_ends nr_pages s h.inv) fun _ _ r => r
  | shrink_inactive nr_pages =>
      refine hscan rfl (fun _ => rfl) (E := Calm) ?_
      exact Ends.bind (shrink_inactive_list_ends nr_pages s h.inv) fun _ _ r => r
  | munmap addr length =>
      refine (extmem_munmap_ends h addr length).mono (fun _ s' hs => ⟨fun a => ?_, hs.2.page_cache⟩)
        fun _ _ => trivial
      simp only [Op.accesses, Op.unmaps, decide_eq_false_iff_not]
      by_cases ha : addr ≤ a ∧ a < addr + length
      · exact iff_of_false (fun hp => hp (hs.2.gone a ha.1 ha.2)) fun hp => hp.2 ha
      · rw [hs.2.rest a ha]
        exact ⟨fun hp => ⟨Or.inl hp, ha⟩, fun hp => hp.1.resolve_right (Option.some_ne_none a).symm⟩
  | app accesses =>
      exact Ends.of_eq (b := ()) (s := ⟨s.pol, accesses.foldl Mem.access s.mem⟩) rfl
        (Op.indexed_of_same rfl (fun _ => rfl) rfl
          (Mem.accesses_appStep accesses s.mem).rest.page_cache)

namespace Mapping

/-! ## The address space -/

/-- The pager, the pages that are mapped, and those that were accessed since they were. The
process is gone once an assertion has failed. -/
structure Space (α : Type) where
  pager : State α
  mapped : ℕ → Bool := fun _ => false
  accessed : ℕ → Bool := fun _ => false
  stopped : Bool := false

/-- The assertions of `extmem_mmap`, and those of the pager. -/
inductive Stop where
  | pager (e : Fault)
  | length
  | mmap
  | uffdio_register
deriving DecidableEq

abbrev MProc (α β : Type) : Type := Prog Stop (Space α) β

/-- A routine of the pager. -/
def on_pager (m : Proc α β) : MProc α β := fun sp =>
  match m.run sp.pager with
  | .ok (b, s) => .ok (b, { sp with pager := s })
  | .error e => .error (.pager e)

/-! ## Flags of `mmap` -/

def MAP_SHARED : BitVec 32 := 0x01
def MAP_PRIVATE : BitVec 32 := 0x02
def MAP_FIXED : BitVec 32 := 0x10
def MAP_ANONYMOUS : BitVec 32 := 0x20
def MAP_NORESERVE : BitVec 32 := 0x4000
def MAP_POPULATE : BitVec 32 := 0x8000
def MAP_HUGETLB : BitVec 32 := 0x40000
def MAP_FIXED_NOREPLACE : BitVec 32 := 0x100000

/-- `(flags & m) == m`. -/
def has (flags m : BitVec 32) : Bool := flags &&& m == m

/-- The flags of a private anonymous mapping. -/
def private_flags (flags : BitVec 32) : BitVec 32 :=
  let flags := if has flags MAP_SHARED then flags &&& ~~~MAP_SHARED ||| MAP_PRIVATE else flags
  let flags := flags ||| MAP_NORESERVE
  flags ||| MAP_ANONYMOUS

/-- Without `MAP_POPULATE` and `MAP_HUGETLB`. -/
def plain_flags (flags : BitVec 32) : BitVec 32 :=
  let flags := if has flags MAP_POPULATE then flags &&& ~~~MAP_POPULATE else flags
  if has flags MAP_HUGETLB then flags &&& ~~~MAP_HUGETLB else flags

/-! ## `extmem_mmap` -/

/-- `PAGE_ROUND_UP`, on a `size_t`. -/
def PAGE_ROUND_UP (x : ℕ) : ℕ := (x + (PAGE_SIZE - 1)) % 2 ^ 64 / PAGE_SIZE * PAGE_SIZE

/-- Where the kernel can place a mapping: with `MAP_FIXED` at the address asked for, whatever is
there, and otherwise where nothing is mapped. -/
def Placed (sp : Space α) (addr length : ℕ) (flags : BitVec 32) (p : ℕ) : Prop :=
  0 < length ∧ p % PAGE_SIZE = 0 ∧ PAGE_SIZE ≤ p ∧ p + length < 2 ^ 64 ∧
  (has flags MAP_FIXED ∨ has flags MAP_FIXED_NOREPLACE → p = addr) ∧
  (¬ has flags MAP_FIXED ∨ has flags MAP_FIXED_NOREPLACE →
    ∀ k < length / PAGE_SIZE, sp.mapped (p + k * PAGE_SIZE) = false)

instance (sp : Space α) (addr length : ℕ) (flags : BitVec 32) (p : ℕ) :
    Decidable (Placed sp addr length flags p) := by
  unfold Placed
  infer_instance

/-- A new mapping at `p`: the frames of what was mapped there are gone. -/
def Space.place (sp : Space α) (p length : ℕ) : Space α :=
  { sp with
    pager := { sp.pager with mem := { sp.pager.mem with pte := fun va =>
      if p ≤ va ∧ va < p + length then none else sp.pager.mem.pte va } }
    mapped := fun a => decide (p ≤ a ∧ a < p + length) || sp.mapped a
    accessed := fun a => !decide (p ≤ a ∧ a < p + length) && sp.accessed a }

/-- `libc_mmap`. The kernel refuses, or answers with an address it can choose. -/
def libc_mmap (answer : Option ℕ) (addr length : ℕ) (flags : BitVec 32) : MProc α ℕ := do
  on_pager app_turn
  match answer with
  | none => throw .mmap
  | some p => do
      check (Placed (← get) addr length flags p) .mmap
      modify fun sp => sp.place p length
      pure p

/-- The loop of `extmem_mmap_populate`, over `left` pages from `page_boundry` on. -/
def populate_loop (fuel : ℕ) : ℕ → ℕ → Proc α Unit
  | 0, _ => pure ()
  | left + 1, page_boundry => do
      handle_first_fault fuel page_boundry
      populate_loop fuel left (page_boundry + PAGE_SIZE)

/-- `extmem_mmap_populate` (`src/core.c:485`). The pages it maps count as accessed. -/
def extmem_mmap_populate (fuel addr length : ℕ) : MProc α Unit := do
  check (addr ≠ 0) .mmap
  check (length ≠ 0) .length
  let stop := (addr + length) % 2 ^ 64
  -- the loop counter wraps in the last page, as in `extmem_munmap`
  check (stop ≤ 2 ^ 64 - PAGE_SIZE) (.pager .hang)
  on_pager (populate_loop fuel ((stop - addr + (PAGE_SIZE - 1)) / PAGE_SIZE) addr)
  modify fun sp => { sp with
    accessed := fun a =>
      decide (a % PAGE_SIZE = 0 ∧ addr ≤ a ∧ a < addr + length) || sp.accessed a }

/-- `extmem_mmap` (`src/core.c:517`), for an answer of the kernel to `mmap` and to the
registration with `userfaultfd`. -/
def extmem_mmap (answer : Option ℕ) (registers : Bool) (fuel addr length : ℕ)
    (flags : BitVec 32) : MProc α ℕ := do
  check (length ≠ 0) .length
  let flags := private_flags flags
  let need_populate := has flags MAP_POPULATE
  let flags := plain_flags flags
  let length := PAGE_ROUND_UP length
  let p ← libc_mmap answer addr length flags
  check (registers = true) .uffdio_register
  let _ ← (if need_populate then extmem_mmap_populate fuel p length else pure () : MProc α Unit)
  pure p

/-! ## Runs -/

/-- What the application and the pager do. -/
inductive Call (α : Type) where
  | mmap (answer : Option ℕ) (registers : Bool) (fuel addr length : ℕ) (flags : BitVec 32)
  | pager (fuel : ℕ) (op : Op α)

/-- An operation of the pager. Only a page that is mapped can be accessed. -/
def operate (fuel : ℕ) (op : Op α) : MProc α Unit := do
  if op.accesses.all (← get).mapped then do
    on_pager (op.exec fuel)
    modify fun sp => { sp with
      mapped := fun a => sp.mapped a && !op.unmaps a
      accessed := fun a => (sp.accessed a || op.accesses == some a) && !op.unmaps a }
  else pure ()

def Call.exec : Call α → MProc α Unit
  | .mmap answer registers fuel addr length flags => do
      let _ ← extmem_mmap answer registers fuel addr length flags
      pure ()
  | .pager fuel op => operate fuel op

/-- Make a call. -/
def step (c : Call α) (sp : Space α) : Space α :=
  if sp.stopped then sp
  else match c.exec.run sp with
    | .ok (_, sp') => sp'
    | .error _ => { sp with stopped := true }

/-- The process after `lrudisk_init`, with nothing mapped. -/
def start (dramsize disksize : ℕ) (zero : α) (env : Env α) : Space α :=
  match lrudisk_init.run (State.blank dramsize disksize zero env) with
  | .ok (_, s) => { pager := s }
  | .error _ => { pager := State.blank dramsize disksize zero env, stopped := true }

/-! ## First accesses -/

/-- An access to the address is a first fault, and maps zeros. -/
structure FirstAccess (zero : α) (s : State α) (addr : ℕ) : Prop where
  untracked : s.pol.pages (boundary addr) = none
  handler : ∀ fuel async buffer, ((Op.fault addr async buffer).exec fuel).run s =
    (handle_first_fault fuel (boundary addr)).run
      { s with mem := { s.mem with buffer_space := buffer } }
  zeros : ∀ fuel async buffer, Ends (((Op.fault addr async buffer).exec fuel).run s)
    (fun _ s' => s'.mem.pte (boundary addr) = some { data := zero }) Resource

/-- Every page that is mapped and was not accessed yet is to be mapped with zeros. -/
def Fresh (zero : α) (sp : Space α) : Prop :=
  sp.stopped = false → ∀ addr, sp.mapped (boundary addr) = true →
    sp.accessed (boundary addr) = false → FirstAccess zero sp.pager addr

/-- The call replaces a mapping of the page by one that is not populated. -/
def Call.Replaces : Call α → ℕ → Prop
  | .mmap answer _ _ _ length flags, a => has flags MAP_FIXED = true ∧
      has flags MAP_POPULATE = false ∧
      ∃ p ∈ answer, p ≤ a ∧ a < p + PAGE_ROUND_UP length
  | .pager _ _, _ => False

/-- A call that returns replaces no page that was accessed. -/
def Spares (sp : Space α) (c : Call α) : Prop :=
  (step c sp).stopped = false → ∀ a, c.Replaces a → sp.accessed a = false

/-- The index holds the pages that were accessed. -/
structure Tracked (zero : α) (sp : Space α) : Prop where
  idle : Idle sp.pager.pol
  zeros : sp.pager.mem.page_cache = zero
  index : ∀ a, sp.pager.pol.pages a ≠ none ↔ sp.accessed a = true
  within : ∀ a, sp.accessed a = true → sp.mapped a = true
  high : ∀ a, sp.mapped a = true → PAGE_SIZE ≤ a

theorem Tracked.aligned {zero : α} {sp : Space α} (h : Tracked zero sp) {a : ℕ}
    (ha : sp.accessed a = true) : a % PAGE_SIZE = 0 := by
  rcases hp : sp.pager.pol.pages a with _ | i
  · exact absurd hp ((h.index a).2 ha)
  · obtain ⟨hi, rfl, _⟩ := h.idle.live hp
    exact (h.idle.inv.struct i hi).aligned

theorem boundary_of_aligned {a : ℕ} (h : a % PAGE_SIZE = 0) : boundary a = a := by
  rw [boundary, h, Nat.sub_zero]

/-- If the index holds the accessed pages, the others are fresh. -/
theorem Tracked.fresh {zero : α} {sp : Space α} (h : Tracked zero sp) : Fresh zero sp := by
  intro _ addr hmapped hnew
  have hnone : sp.pager.pol.pages (boundary addr) = none := by
    by_contra hp
    rw [(h.index _).1 hp] at hnew
    cases hnew
  have haddr : ¬ addr < PAGE_SIZE := by
    have := h.high _ hmapped
    have : boundary addr ≤ addr := Nat.sub_le _ _
    omega
  have hhandler : ∀ fuel async buffer, ((Op.fault addr async buffer).exec fuel).run sp.pager =
      (handle_first_fault fuel (boundary addr)).run
        { sp.pager with mem := { sp.pager.mem with buffer_space := buffer } } := by
    intro fuel async buffer
    rw [Op.exec, if_neg haddr, run_bind_ok (run_modify_mem _ _)]
    exact run_uswap_sig_handler_new fuel _ hnone
  refine ⟨hnone, hhandler, fun fuel async buffer => ?_⟩
  rw [hhandler]
  refine (handle_first_fault_ends fuel
    (s := ⟨sp.pager.pol, { sp.pager.mem with buffer_space := buffer }⟩) h.idle
    (boundary_ne_zero haddr) (boundary_aligned addr)).mono (fun _ s' hs => ?_) fun _ he => he.1
  rw [hs.2.zero hnone]
  exact congrArg (fun d => some ({ data := d } : Pte α)) h.zeros

/-! ## What a call does -/

theorem ends_on_pager {m : Proc α β} {sp : Space α} {R : β → State α → Prop} {E : Fault → Prop}
    {Q : β → Space α → Prop} (h : Ends (m.run sp.pager) R E)
    (hQ : ∀ b s, R b s → Q b { sp with pager := s }) :
    Ends ((on_pager m).run sp) Q fun _ => True := by
  rcases hm : m.run sp.pager with e | ⟨b, s⟩
  · refine Ends.of_throw (e := Stop.pager e) ?_ trivial
    simp only [on_pager, StateT.run] at hm ⊢
    rw [hm]
  · refine Ends.of_eq (b := b) (s := { sp with pager := s }) ?_ (hQ b s (h.of_ok hm))
    simp only [on_pager, StateT.run] at hm ⊢
    rw [hm]

theorem has_twoPow (flags : BitVec 32) {i : ℕ} (hi : i < 32) :
    has flags (BitVec.twoPow 32 i) = flags.getLsbD i := by
  rw [has, BitVec.and_twoPow]
  cases h : flags.getLsbD i with
  | true => simp
  | false =>
      simp only [Bool.false_eq_true, if_false, beq_eq_false_iff_ne, ne_eq]
      intro h0
      have := congrArg (fun x => x.getLsbD i) h0
      simp [hi] at this

/-- The changes of `extmem_mmap` to the flags are not about `MAP_FIXED`. -/
theorem has_fixed (flags : BitVec 32) :
    has (plain_flags (private_flags flags)) MAP_FIXED = has flags MAP_FIXED := by
  have hbit : MAP_FIXED = BitVec.twoPow 32 4 := by decide
  rw [hbit, has_twoPow _ (by decide), has_twoPow _ (by decide), plain_flags, private_flags]
  split <;> split <;> split <;>
    simp [MAP_SHARED, MAP_PRIVATE, MAP_NORESERVE, MAP_ANONYMOUS, MAP_POPULATE, MAP_HUGETLB]

theorem has_populate (flags : BitVec 32) :
    has (private_flags flags) MAP_POPULATE = has flags MAP_POPULATE := by
  have hbit : MAP_POPULATE = BitVec.twoPow 32 15 := by decide
  rw [hbit, has_twoPow _ (by decide), has_twoPow _ (by decide), private_flags]
  split <;> simp [MAP_SHARED, MAP_PRIVATE, MAP_NORESERVE, MAP_ANONYMOUS]

/-- The pages of a range, from an aligned address on. -/
theorem pages_iff {p length a : ℕ} (hp : p % PAGE_SIZE = 0) (hlength : length % PAGE_SIZE = 0) :
    Pages p (length / PAGE_SIZE) a ↔ a % PAGE_SIZE = 0 ∧ p ≤ a ∧ a < p + length := by
  constructor
  · rintro ⟨k, hk, rfl⟩
    simp only [PAGE_SIZE] at *
    omega
  · rintro ⟨ha, hlo, hhi⟩
    refine ⟨(a - p) / PAGE_SIZE, ?_, ?_⟩ <;> simp only [PAGE_SIZE] at * <;> omega

/-- Populating adds the pages of the range to the index. -/
theorem populate_loop_ends (fuel left b : ℕ) (s : State α) (h : Idle s.pol) (hb : b ≠ 0)
    (hal : b % PAGE_SIZE = 0) :
    Ends ((populate_loop fuel left b).run s)
      (fun _ s' => Idle s'.pol ∧ s'.mem.page_cache = s.mem.page_cache ∧
        ∀ a, s'.pol.pages a ≠ none ↔ s.pol.pages a ≠ none ∨ Pages b left a) fun _ => True := by
  induction left generalizing b s with
  | zero =>
      refine Ends.ok ⟨h, rfl, fun a => ⟨Or.inl, fun hp => hp.resolve_right ?_⟩⟩
      rintro ⟨k, hk, _⟩
      exact absurd hk (Nat.not_lt_zero k)
  | succ left ih =>
      rw [populate_loop]
      refine Ends.bind ((handle_first_fault_ends fuel h hb hal).mono (fun _ _ hs => hs)
        fun _ _ => trivial) fun _ s₁ h₁ => ?_
      refine (ih (b + PAGE_SIZE) s₁ h₁.1.idle (by simp only [PAGE_SIZE]; omega)
        (by simp only [PAGE_SIZE] at *; omega)).mono ?_ fun _ he => he
      rintro _ s₂ ⟨hidle, hzero, hindex⟩
      refine ⟨hidle, hzero.trans h₁.2.page_cache, fun a => (hindex a).trans ?_⟩
      have hfirst : Pages b (left + 1) a ↔ a = b ∨ Pages (b + PAGE_SIZE) left a := by
        constructor
        · rintro ⟨k, hk, rfl⟩
          rcases k with _ | k
          · exact Or.inl (by omega)
          · exact Or.inr ⟨k, by omega, by simp only [PAGE_SIZE]; omega⟩
        · rintro (rfl | ⟨k, hk, rfl⟩)
          · exact ⟨0, by omega, by omega⟩
          · exact ⟨k + 1, by omega, by simp only [PAGE_SIZE]; omega⟩
      rw [hfirst]
      by_cases hab : a = b
      · exact iff_of_true (Or.inl (hab ▸ h₁.2.tracked)) (Or.inr (Or.inl hab))
      · rw [h₁.2.others a hab]
        simp [hab]

/-- What a new mapping at `p` is. -/
structure Made (sp sp' : Space α) (p length : ℕ) (fixed populate : Bool) : Prop where
  idle : Idle sp'.pager.pol
  page_cache : sp'.pager.mem.page_cache = sp.pager.mem.page_cache
  low : PAGE_SIZE ≤ p
  unused : fixed = false → ∀ a, a % PAGE_SIZE = 0 → p ≤ a → a < p + length → sp.mapped a = false
  index : ∀ a, sp'.pager.pol.pages a ≠ none ↔ sp.pager.pol.pages a ≠ none ∨
    (populate = true ∧ a % PAGE_SIZE = 0 ∧ p ≤ a ∧ a < p + length)
  mapped : ∀ a, sp'.mapped a = true ↔ (p ≤ a ∧ a < p + length) ∨ sp.mapped a = true
  accessed : ∀ a, sp'.accessed a = true ↔ (¬ (p ≤ a ∧ a < p + length) ∧ sp.accessed a = true) ∨
    (populate = true ∧ a % PAGE_SIZE = 0 ∧ p ≤ a ∧ a < p + length)

theorem libc_mmap_ends (answer : Option ℕ) (addr : ℕ) {length : ℕ} (flags : BitVec 32)
    (hlength : length % PAGE_SIZE = 0) {sp : Space α} (h : Idle sp.pager.pol) :
    Ends ((libc_mmap answer addr length flags).run sp)
      (fun p sp' => answer = some p ∧ 0 < length ∧ p % PAGE_SIZE = 0 ∧ p + length < 2 ^ 64 ∧
        Made sp sp' p length (has flags MAP_FIXED) false) fun _ => True := by
  unfold libc_mmap
  refine Ends.bind (ends_on_pager (R := fun _ s => s = ⟨sp.pager.pol, sp.pager.mem.app_turn⟩)
    (E := fun _ => False) (Ends.of_eq (run_app_turn _) rfl)
    (Q := fun _ sp₁ => sp₁ = { sp with pager := ⟨sp.pager.pol, sp.pager.mem.app_turn⟩ })
    fun _ s hs => by rw [hs]) ?_
  rintro _ _ rfl
  rcases answer with _ | p
  · exact trivial
  · refine Ends.get_bind (Ends.check_bind (fun _ => trivial) fun hplaced => ?_)
    obtain ⟨hpos, hp, hlow, hfit, _, hfree⟩ := hplaced
    refine Ends.ok ⟨rfl, hpos, hp, hfit, h, sp.pager.mem.app_turn_appStep.rest.page_cache, hlow,
      fun hfixed a ha hlo hhi => ?_, fun a => by simp [Space.place], fun a => by simp [Space.place],
      fun a => ?_⟩
    · obtain ⟨k, hk, rfl⟩ := (pages_iff hp hlength).2 ⟨ha, hlo, hhi⟩
      exact hfree (Or.inl (by simp [hfixed])) k hk
    · simp only [Space.place, Bool.and_eq_true, Bool.not_eq_true', decide_eq_false_iff_not,
        Bool.false_eq_true, false_and, or_false]

/-- Populating a new mapping. -/
theorem Made.populate {sp sp₁ : Space α} {p length : ℕ} {fixed : Bool} (fuel : ℕ)
    (h : Made sp sp₁ p length fixed false) (hp : p % PAGE_SIZE = 0)
    (hlength : length % PAGE_SIZE = 0) (hfit : p + length < 2 ^ 64) :
    Ends ((extmem_mmap_populate fuel p length).run sp₁)
      (fun _ sp' => Made sp sp' p length fixed true) fun _ => True := by
  rw [extmem_mmap_populate]
  refine Ends.check_bind (fun _ => trivial) fun hp0 => ?_
  refine Ends.check_bind (fun _ => trivial) fun _ => ?_
  refine Ends.check_bind (fun _ => trivial) fun _ => ?_
  have hcount : ((p + length) % 2 ^ 64 - p + (PAGE_SIZE - 1)) / PAGE_SIZE = length / PAGE_SIZE := by
    rw [Nat.mod_eq_of_lt hfit]
    simp only [PAGE_SIZE] at *
    omega
  rw [hcount]
  refine Ends.bind (R := fun _ sp₂ => ∃ s, sp₂ = { sp₁ with pager := s } ∧ Idle s.pol ∧
    s.mem.page_cache = sp₁.pager.mem.page_cache ∧ ∀ a, s.pol.pages a ≠ none ↔
      sp₁.pager.pol.pages a ≠ none ∨ Pages p (length / PAGE_SIZE) a)
    (ends_on_pager (populate_loop_ends fuel _ p sp₁.pager h.idle hp0 hp)
      fun _ s hs => ⟨s, rfl, hs⟩) ?_
  rintro _ _ ⟨s, rfl, hidle, hzero, hindex⟩
  refine Ends.ok ⟨hidle, hzero.trans h.page_cache, h.low, h.unused, fun a => ?_, h.mapped,
    fun a => ?_⟩
  · rw [hindex, pages_iff hp hlength, h.index]
    simp
  · simp only [Bool.or_eq_true, decide_eq_true_eq, h.accessed]
    simp [or_comm]

/-- **`extmem_mmap`.** -/
theorem extmem_mmap_ends (answer : Option ℕ) (registers : Bool) (fuel addr length : ℕ)
    (flags : BitVec 32) {sp : Space α} (h : Idle sp.pager.pol) :
    Ends ((extmem_mmap answer registers fuel addr length flags).run sp)
      (fun p sp' => answer = some p ∧ Made sp sp' p (PAGE_ROUND_UP length)
        (has flags MAP_FIXED) (has flags MAP_POPULATE)) fun _ => True := by
  have hlength : PAGE_ROUND_UP length % PAGE_SIZE = 0 := by
    rw [PAGE_ROUND_UP, Nat.mul_mod_left]
  rw [extmem_mmap]
  refine Ends.check_bind (fun _ => trivial) fun _ => ?_
  refine Ends.bind (libc_mmap_ends answer addr _ hlength h) ?_
  rintro p sp₁ ⟨hanswer, _, hp, hfit, hmade⟩
  rw [has_fixed] at hmade
  refine Ends.check_bind (fun _ => trivial) fun _ => ?_
  rw [has_populate]
  cases hpop : has flags MAP_POPULATE with
  | false => exact Ends.ok ⟨hanswer, hmade⟩
  | true =>
      exact Ends.bind (hmade.populate fuel hp hlength hfit) fun _ sp' hs => Ends.ok ⟨hanswer, hs⟩

/-- A new mapping over no accessed page, or one that is populated, keeps the index right. -/
theorem Made.tracked {zero : α} {sp sp' : Space α} {p length : ℕ} {fixed populate : Bool}
    (h : Made sp sp' p length fixed populate) (hsp : Tracked zero sp)
    (hspare : fixed = true → populate = false → ∀ a, p ≤ a → a < p + length →
      sp.accessed a = false) : Tracked zero sp' := by
  -- pages of the range were accessed only in a mapping that is replaced
  have hclear : populate = false → ∀ a, p ≤ a → a < p + length → sp.accessed a = false := by
    intro hpop a hlo hhi
    cases hfixed : fixed with
    | true => exact hspare hfixed hpop a hlo hhi
    | false =>
        by_contra hacc
        have hacc := eq_true_of_ne_false hacc
        have := hsp.within a hacc
        rw [h.unused hfixed a (hsp.aligned hacc) hlo hhi] at this
        cases this
  refine ⟨h.idle, h.page_cache.trans hsp.zeros, fun a => ?_, fun a ha => ?_, fun a ha => ?_⟩
  · rw [h.index, hsp.index, h.accessed]
    by_cases hin : p ≤ a ∧ a < p + length
    · cases hpop : populate with
      | false => simp [hclear hpop a hin.1 hin.2, hin]
      | true =>
          have : sp.accessed a = true → a % PAGE_SIZE = 0 := hsp.aligned
          simp only [hin, and_self, and_true, not_true, false_and, false_or, true_and]
          exact ⟨fun ho => ho.elim this id, Or.inr⟩
    · simp [hin]
  · rw [h.mapped]
    rcases (h.accessed a).1 ha with ⟨_, hacc⟩ | ⟨_, _, hin⟩
    · exact Or.inr (hsp.within a hacc)
    · exact Or.inl hin
  · rcases (h.mapped a).1 ha with hin | hmapped
    · exact le_trans h.low hin.1
    · exact hsp.high a hmapped

/-- An operation of the pager keeps the index right. -/
theorem operate_ends {zero : α} (fuel : ℕ) (op : Op α) {sp : Space α} (h : Tracked zero sp) :
    Ends ((operate fuel op).run sp) (fun _ sp' => Tracked zero sp') fun _ => True := by
  rw [operate]
  refine Ends.get_bind ?_
  split
  case isFalse => exact Ends.ok h
  case isTrue hmapped =>
    have hexec : Ends ((op.exec fuel).run sp.pager)
        (fun _ s' => Idle s'.pol ∧ op.Indexed sp.pager s') fun _ => True := by
      have hends := Op.exec_ends fuel op h.idle
      have hindexed := Op.exec_indexed fuel op h.idle
      rcases hr : (op.exec fuel).run sp.pager with e | ⟨b, s'⟩
      · exact trivial
      · exact ⟨(hends.of_ok hr).idle, hindexed.of_ok hr⟩
    refine Ends.bind (R := fun _ sp' => ∃ s, sp' = { sp with pager := s } ∧ Idle s.pol ∧
      op.Indexed sp.pager s) (ends_on_pager hexec fun _ s hs => ⟨s, rfl, hs⟩) ?_
    rintro _ _ ⟨s, rfl, hidle, hindexed⟩
    refine Ends.ok ⟨hidle, hindexed.page_cache.trans h.zeros, fun a => ?_, fun a ha => ?_,
      fun a ha => ?_⟩
    · rw [hindexed.index, h.index]
      simp
    · simp only [Bool.and_eq_true, Bool.or_eq_true, beq_iff_eq] at ha ⊢
      refine ⟨ha.1.elim (h.within a) fun hop => ?_, ha.2⟩
      rw [hop] at hmapped
      exact hmapped
    · simp only [Bool.and_eq_true] at ha
      exact h.high a ha.1

/-- What a call that returned did. -/
structure Called (zero : α) (c : Call α) (sp sp' : Space α) : Prop where
  /-- a page that was replaced counts as new, and its place in the index is as it was -/
  replaced : ∀ a, c.Replaces a → sp'.mapped a = true ∧ sp'.accessed a = false ∧
    (sp'.pager.pol.pages a = none ↔ sp.pager.pol.pages a = none)
  tracked : (∀ a, c.Replaces a → sp.accessed a = false) → Tracked zero sp'

theorem Call.exec_ends {zero : α} (c : Call α) {sp : Space α} (h : Tracked zero sp) :
    Ends (c.exec.run sp) (fun _ sp' => Called zero c sp sp') fun _ => True := by
  cases c with
  | mmap answer registers fuel addr length flags =>
      refine Ends.bind (extmem_mmap_ends answer registers fuel addr length flags h.idle) ?_
      rintro p sp' ⟨rfl, hmade⟩
      refine Ends.ok ⟨?_, fun hspare => hmade.tracked h fun hfixed hpop a hlo hhi => ?_⟩
      · rintro a ⟨_, hpop, q, hq, hlo, hhi⟩
        obtain rfl := Option.mem_some_iff.1 hq
        have hnot : ¬ sp'.pager.pol.pages a ≠ none ↔ ¬ sp.pager.pol.pages a ≠ none := by
          rw [hmade.index, hpop]
          simp
        refine ⟨(hmade.mapped a).2 (Or.inl ⟨hlo, hhi⟩), ?_, by simpa using hnot⟩
        refine eq_false_of_ne_true fun hacc => ?_
        rcases (hmade.accessed a).1 hacc with ⟨hout, _⟩ | ⟨hin, _⟩
        · exact hout ⟨hlo, hhi⟩
        · rw [hpop] at hin
          cases hin
      · exact hspare a ⟨hfixed, hpop, p, rfl, hlo, hhi⟩
  | pager fuel op =>
      exact (operate_ends fuel op h).mono (fun _ sp' hs => ⟨fun _ => False.elim, fun _ => hs⟩)
        fun _ he => he

/-- A call after which the process goes on. -/
theorem step_called {zero : α} {c : Call α} {sp : Space α}
    (hsp : sp.stopped = false → Tracked zero sp) (h : (step c sp).stopped = false) :
    Tracked zero sp ∧ Called zero c sp (step c sp) := by
  have hrunning : sp.stopped = false := by
    cases hs : sp.stopped with
    | false => rfl
    | true =>
        rw [step, if_pos hs, hs] at h
        cases h
  have htracked := hsp hrunning
  have hends := c.exec_ends htracked
  rw [step, if_neg (by simp [hrunning])] at h ⊢
  rcases hr : c.exec.run sp with e | ⟨_, sp'⟩
  · rw [hr] at h
    cases h
  · exact ⟨htracked, hends.of_ok hr⟩

/-- After `lrudisk_init` the index is empty, and nothing is mapped. -/
theorem start_tracked (dramsize disksize : ℕ) (zero : α) (env : Env α)
    (h : (start dramsize disksize zero env).stopped = false) :
    Tracked zero (start dramsize disksize zero env) := by
  have hinit := lrudisk_init_ends dramsize disksize zero env
  rw [start] at h ⊢
  rcases hr : lrudisk_init.run (State.blank dramsize disksize zero env) with e | ⟨_, s⟩
  · rw [hr] at h
    cases h
  · obtain ⟨hs, _, _, hmem⟩ := hinit.of_ok hr
    refine ⟨hs.idle, by rw [hmem]; rfl, fun a => ?_, nofun, nofun⟩
    refine iff_of_false (fun hp => ?_) nofun
    rcases hpa : s.pol.pages a with _ | i
    · exact hp hpa
    · obtain ⟨_, rfl, h0⟩ := hs.idle.live hpa
      exact h0 (hs.va i)

/-- **Fresh mappings.** Throughout a run of `mmap`, `munmap`, faults and evictions, every page that
is mapped and was not accessed since is untracked, and is mapped with zeros by `handle_first_fault`
when it is, exactly if no `mmap` with `MAP_FIXED` replaces a page that was accessed. -/
theorem fresh_iff_none_replaced (dramsize disksize : ℕ) (zero : α) (env : Env α)
    (calls : List (Call α)) :
    (∀ n, Fresh zero (Guarded.exec step (calls.take n) (start dramsize disksize zero env))) ↔
      Guarded.Meets step Spares calls (start dramsize disksize zero env) := by
  have hguard : ∀ (sp : Space α) (c : Call α), (sp.stopped = false → Tracked zero sp) →
      Fresh zero (step c sp) → Spares sp c := by
    intro sp c hsp hfresh hgo a ha
    obtain ⟨htracked, hcalled⟩ := step_called hsp hgo
    obtain ⟨hmapped, hnew, hindex⟩ := hcalled.replaced a ha
    by_contra hacc
    have hacc := eq_true_of_ne_false hacc
    have hal := boundary_of_aligned (htracked.aligned hacc)
    rw [← hal] at hmapped hnew
    have hnone := (hfresh hgo a hmapped hnew).untracked
    rw [hal, hindex] at hnone
    exact (htracked.index a).2 hacc hnone
  exact Guarded.always_iff_meets (I := fun sp => sp.stopped = false → Tracked zero sp)
    (fun sp hsp hrunning => (hsp hrunning).fresh hrunning) hguard
    (fun sp c hsp hspares hgo => (step_called hsp hgo).2.tracked (hspares hgo))
    (start_tracked dramsize disksize zero env)

/-- A page is accessed, and its mapping is replaced. -/
def remapped : List (Call ℕ) :=
  [.mmap (some 8192) true 1 0 4096 (MAP_PRIVATE ||| MAP_ANONYMOUS),
    .pager 1 (.fault 8192 false 0),
    .mmap (some 8192) true 1 8192 4096 (MAP_PRIVATE ||| MAP_ANONYMOUS ||| MAP_FIXED)]

/-- The page of the new mapping is still in the index. -/
theorem not_fresh_remapped :
    ¬ ∀ n, Fresh 0 (Guarded.exec step (remapped.take n) (start 8192 8192 0 {})) := by
  intro h
  have hstate : let sp := Guarded.exec step (remapped.take 3) (start 8192 8192 0 {})
      sp.stopped = false ∧ sp.mapped 8192 = true ∧ sp.accessed 8192 = false ∧
        sp.pager.pol.pages 8192 = some 0 := by
    decide +kernel
  obtain ⟨hgo, hmapped, hnew, htracked⟩ := hstate
  have hnone := (h 3 hgo 8192 hmapped hnew).untracked
  rw [show boundary 8192 = 8192 from rfl, htracked] at hnone
  cases hnone

end Mapping

end SwapPrefetch
