/-
The routines of the pager that use neither the page index nor the store.

Such a routine does the same on a memory whose index and store are blank (`State.hide`), and leaves
both alone, along with the addresses in the structs that the index leads to. That is `Quiet`, and it
is read off the statements of a routine one by one, with the rules of `Commute`. Two more facts are
kept on the way, because what is written to the store depends on them: the offsets in the structs are
multiples of the page size, and the pages that the memory holds are all of a kind `P`.

A routine may change the addresses in the structs of a set `X`, if none of them is in the index.
-/
import Mathlib.Tactic
import SwapPrefetch.Commute
import SwapPrefetch.Core
import SwapPrefetch.Memory
import SwapPrefetch.Simulation

set_option autoImplicit false

namespace SwapPrefetch

open Prog

variable {α β γ : Type}

/-! ## Blanking -/

/-- The policy's side without the index. -/
def Policy.hide (p : Policy) : Policy := { p with pages := fun _ => none }

/-- The contents without the store. -/
def Mem.hide (m : Mem α) : Mem α :=
  { m with store := fun _ => none, env := { m.env with io_fails := [] } }

/-- The memory without the index and the store. -/
def State.hide (s : State α) : State α := { pol := s.pol.hide, mem := s.mem.hide }

/-- The offset of a struct is a multiple of the page size. -/
def UserPage.Aligned (p : UserPage) : Prop := p.virtual_offset % PAGE_SIZE = 0

/-- The pages in the memory, and those the application is going to write, are in `P`. -/
structure DataIn (P : α → Prop) (m : Mem α) : Prop where
  entries : ∀ va e, m.pte va = some e → P e.data
  page_cache : P m.page_cache
  buffer_space : P m.buffer_space
  prefetch_buffer : ∀ i, P (m.prefetch_buffer i)
  turns : ∀ t ∈ m.env.turns, ∀ va d, Access.write va d ∈ t → P d

/-- What is kept since `s`: the offsets are aligned and the pages are in `P`, and the index, the store
and the addresses are as they were. -/
structure Kept (P : α → Prop) (X : Set PageId) (s t : State α) : Prop where
  aligned : ∀ i, (t.pol.page i).Aligned
  data : DataIn P t.mem
  pages : t.pol.pages = s.pol.pages
  va : ∀ i, i ∉ X → (t.pol.page i).va = (s.pol.page i).va
  disksize : t.pol.disksize = s.pol.disksize
  store : t.mem.store = s.mem.store
  io_fails : t.mem.env.io_fails = s.mem.env.io_fails

/-- The routine commutes with the blanking, and keeps what it must not touch. The value it returns is
one of `φ`. -/
def Quiet (P : α → Prop) (X : Set PageId) (φ : β → Prop) (m : Proc α β) : Prop :=
  ∀ s, Commutes State.hide (Kept P X s) m φ

variable {P : α → Prop} {X : Set PageId}

/-! ### The application -/

theorem Mem.access_hide (m : Mem α) (a : Access α) : m.hide.access a = (m.access a).hide := by
  unfold access
  cases a with
  | read va =>
      dsimp only [hide]
      split <;> rfl
  | write va d =>
      dsimp only [hide]
      split
      · split <;> rfl
      · rfl

theorem Mem.accesses_hide (as : List (Access α)) (m : Mem α) :
    as.foldl access m.hide = (as.foldl access m).hide := by
  induction as generalizing m with
  | nil => rfl
  | cons a as ih =>
      rw [List.foldl_cons, List.foldl_cons, access_hide]
      exact ih _

theorem Mem.app_turn_hide (m : Mem α) : m.hide.app_turn = m.app_turn.hide := by
  unfold app_turn
  dsimp only [hide]
  split
  case h_1 => rfl
  case h_2 t ts _ =>
    show ({ List.foldl access m.hide t with env := _ } : Mem α) = _
    rw [accesses_hide]
    rfl

theorem DataIn.setPte {m : Mem α} (h : DataIn P m) (va : ℕ) {e : Option (Pte α)}
    (he : ∀ e', e = some e' → P e'.data) : DataIn P (m.setPte va e) := by
  refine ⟨fun a e' ha => ?_, h.page_cache, h.buffer_space, h.prefetch_buffer, h.turns⟩
  by_cases hav : a = va
  · subst hav
    rw [Mem.setPte_self] at ha
    exact he e' ha
  · rw [Mem.setPte_ne m hav] at ha
    exact h.entries a e' ha

theorem DataIn.access {m : Mem α} (h : DataIn P m) (a : Access α)
    (ha : ∀ va d, a = .write va d → P d) : DataIn P (m.access a) := by
  cases a with
  | read va =>
      rcases hm : m.pte va with _ | e
      · simp only [Mem.access, hm]
        exact h
      · simp only [Mem.access, hm]
        refine h.setPte va ?_
        rintro _ ⟨⟩
        exact h.entries va e hm
  | write va d =>
      rcases hm : m.pte va with _ | e
      · simp only [Mem.access, hm]
        exact h
      · simp only [Mem.access, hm]
        split
        · exact h
        · refine h.setPte va ?_
          rintro _ ⟨⟩
          exact ha va d rfl

theorem DataIn.accesses {m : Mem α} (h : DataIn P m) (as : List (Access α))
    (has : ∀ va d, Access.write va d ∈ as → P d) : DataIn P (as.foldl Mem.access m) := by
  induction as generalizing m with
  | nil => exact h
  | cons a as ih =>
      refine ih (h.access a fun va d he => has va d ?_) fun va d hd =>
        has va d (List.mem_cons_of_mem a hd)
      rw [he]
      exact List.mem_cons_self

theorem DataIn.app_turn {m : Mem α} (h : DataIn P m) : DataIn P m.app_turn := by
  rcases hm : m.env.turns with _ | ⟨t, ts⟩
  · simp only [Mem.app_turn, hm]
    exact h
  · simp only [Mem.app_turn, hm]
    have hturns := h.turns
    rw [hm] at hturns
    have ht := h.accesses t (hturns t List.mem_cons_self)
    exact ⟨ht.entries, ht.page_cache, ht.buffer_space, ht.prefetch_buffer,
      fun t' ht' => hturns t' (List.mem_cons_of_mem t ht')⟩

namespace Quiet

/-! ### Rules -/

theorem run_ok {φ : β → Prop} {m : Proc α β} (hm : Quiet P X φ m) {s t : State α} {b : β}
    (hs : Kept P X s s) (hr : m.run s = .ok (b, t)) :
    m.run s.hide = .ok (b, t.hide) ∧ φ b ∧ Kept P X s t := by
  obtain ⟨hrun, hends⟩ := hm s s hs
  exact ⟨by rw [hrun, hr, changed_ok], hends.of_ok hr⟩

theorem run_error {φ : β → Prop} {m : Proc α β} (hm : Quiet P X φ m) {s : State α} {e : Fault}
    (hs : Kept P X s s) (hr : m.run s = .error e) : m.run s.hide = .error e := by
  rw [(hm s s hs).run, hr, changed_error]

theorem done {b : β} : Quiet P X Any (Pure.pure b : Proc α β) := fun _ => Commutes.pure trivial

theorem throw {φ : β → Prop} (e : Fault) : Quiet P X φ (MonadExcept.throw e : Proc α β) :=
  fun _ => Commutes.throw e

theorem bind {φ : β → Prop} {ψ : γ → Prop} {m : Proc α β} {f : β → Proc α γ} (hm : Quiet P X φ m)
    (hf : ∀ b, φ b → Quiet P X ψ (f b)) : Quiet P X ψ (m >>= f) :=
  fun s => (hm s).bind fun b hb => hf b hb s

theorem ite {φ : β → Prop} {c : Prop} [Decidable c] {m m' : Proc α β} (hm : Quiet P X φ m)
    (hm' : Quiet P X φ m') : Quiet P X φ (if c then m else m') :=
  fun s => (hm s).ite (hm' s)

theorem check (c : Prop) [Decidable c] (e : Fault) : Quiet P X Any (Prog.check c e : Proc α Unit) :=
  fun _ => Commutes.check trivial

/-- An assertion, before other statements. -/
theorem requires {φ : β → Prop} {c : Prop} [Decidable c] {e : Fault} {k : Unit → Proc α β}
    (hk : Quiet P X φ (k ())) : Quiet P X φ (Prog.check c e >>= k) :=
  fun s => Commutes.check_bind fun _ => hk s

/-- What a routine reads of the policy's side is not the index. -/
theorem get_pol_bind {φ : β → Prop} {f : Policy → Proc α β} (hhide : ∀ p, f p.hide = f p)
    (hf : ∀ p, Quiet P X φ (f p)) : Quiet P X φ (SwapPrefetch.get_pol >>= f) := by
  intro s₀ s hs
  obtain ⟨hrun, hends⟩ := hf s.pol s₀ s hs
  exact ⟨(congrArg (fun m => m.run s.hide) (hhide s.pol)).trans hrun, hends⟩

/-- What a routine reads of the contents is not the store. -/
theorem get_mem_bind {φ : β → Prop} {f : Mem α → Proc α β} (hhide : ∀ m, f m.hide = f m)
    (hf : ∀ m, DataIn P m → Quiet P X φ (f m)) : Quiet P X φ (SwapPrefetch.get_mem >>= f) := by
  intro s₀ s hs
  obtain ⟨hrun, hends⟩ := hf s.mem hs.data s₀ s hs
  exact ⟨(congrArg (fun m => m.run s.hide) (hhide s.mem)).trans hrun, hends⟩

/-- An assignment on the policy's side. -/
theorem modify_pol {f : Policy → Policy} (hhide : ∀ p, f p.hide = (f p).hide)
    (hpages : ∀ p, (f p).pages = p.pages) (hsize : ∀ p, (f p).disksize = p.disksize)
    (hva : ∀ p i, i ∉ X → ((f p).page i).va = (p.page i).va)
    (haligned : ∀ p, (∀ i, (p.page i).Aligned) → ∀ i, ((f p).page i).Aligned) :
    Quiet P X Any (SwapPrefetch.modify_pol f : Proc α Unit) := by
  refine fun s₀ => Commutes.write (fun s : State α => { s with pol := f s.pol }) (fun _ => rfl)
    (fun s _ => congrArg (fun p => (⟨p, s.mem.hide⟩ : State α)) (hhide s.pol)) (fun s h => ?_) trivial
  exact ⟨haligned _ h.aligned, h.data, (hpages _).trans h.pages,
    fun i hi => (hva _ i hi).trans (h.va i hi), (hsize _).trans h.disksize, h.store, h.io_fails⟩

/-- An assignment to the contents. -/
theorem modify_mem {f : Mem α → Mem α} (hhide : ∀ m, f m.hide = (f m).hide)
    (hstore : ∀ m, (f m).store = m.store) (hfails : ∀ m, (f m).env.io_fails = m.env.io_fails)
    (hdata : ∀ m, DataIn P m → DataIn P (f m)) :
    Quiet P X Any (SwapPrefetch.modify_mem f) := by
  refine fun s₀ => Commutes.write (fun s : State α => { s with mem := f s.mem }) (fun _ => rfl)
    (fun s _ => congrArg (fun m => (⟨s.pol.hide, m⟩ : State α)) (hhide s.mem)) (fun s h => ?_) trivial
  exact ⟨h.aligned, hdata _ h.data, h.pages, h.va, h.disksize, (hstore _).trans h.store,
    (hfails _).trans h.io_fails⟩

/-! ### Structs and lists -/

theorem get_page (i : PageId) : Quiet P X UserPage.Aligned (SwapPrefetch.get_page i : Proc α UserPage) :=
  fun _ => Commutes.read (fun s => s.pol.page i) (fun _ => rfl) (fun _ _ => rfl) fun _ h => h.aligned i

/-- A read, before other statements. -/
theorem reads {i : PageId} {φ : β → Prop} {k : UserPage → Proc α β}
    (hk : ∀ p, Quiet P X φ (k p)) : Quiet P X φ (SwapPrefetch.get_page i >>= k) :=
  (get_page i).bind fun p _ => hk p

/-- An assertion about a struct, before other statements. -/
theorem asserts {i : PageId} {φ : β → Prop} {c : UserPage → Prop} [∀ p, Decidable (c p)] {e : Fault}
    {k : Unit → Proc α β} (hk : Quiet P X φ (k ())) :
    Quiet P X φ (SwapPrefetch.get_page i >>= fun p => Prog.check (c p) e >>= k) :=
  reads fun _ => requires hk

/-- An assertion about the sizes, before other statements. -/
theorem bounds {φ : β → Prop} {c : Policy → Prop} [∀ p, Decidable (c p)] {e : Fault}
    {k : Unit → Proc α β} (hk : Quiet P X φ (k ()))
    (hhide : ∀ p, (Prog.check (c p.hide) e : Proc α Unit) = Prog.check (c p) e) :
    Quiet P X φ (SwapPrefetch.get_pol >>= fun p => Prog.check (c p) e >>= k) :=
  get_pol_bind (fun p => congrArg (· >>= k) (hhide p)) fun _ => requires hk

/-- A change of one struct, and of lists. -/
theorem update {f : Policy → Policy} (i : PageId) {g : UserPage → UserPage}
    (hhide : ∀ p, f p.hide = (f p).hide) (hpages : ∀ p, (f p).pages = p.pages)
    (hsize : ∀ p, (f p).disksize = p.disksize)
    (hpage : ∀ p, (f p).page = Function.update p.page i (g (p.page i)))
    (hva : i ∈ X ∨ ∀ p, (g p).va = p.va) (hal : ∀ p, p.Aligned → (g p).Aligned) :
    Quiet P X Any (SwapPrefetch.modify_pol f : Proc α Unit) := by
  refine modify_pol hhide hpages hsize (fun p j hj => ?_) fun p hp j => ?_
  · rw [hpage]
    by_cases hji : j = i
    · subst hji
      rw [Function.update_self]
      exact hva.resolve_left hj _
    · rw [Function.update_of_ne hji]
  · rw [hpage]
    by_cases hji : j = i
    · subst hji
      rw [Function.update_self]
      exact hal _ (hp j)
    · rw [Function.update_of_ne hji]
      exact hp j

/-- Assignments to fields of a struct. -/
theorem set_page (i : PageId) {f : UserPage → UserPage}
    (hva : i ∈ X ∨ ∀ p, (f p).va = p.va) (hal : ∀ p, p.Aligned → (f p).Aligned) :
    Quiet P X Any (SwapPrefetch.set_page i f : Proc α Unit) :=
  update i (fun _ => rfl) (fun _ => rfl) (fun _ => rfl) (fun _ => rfl) hva hal

/-- Assignments that touch neither the address nor the offset. -/
theorem mark_page (i : PageId) {f : UserPage → UserPage} (hva : ∀ p, (f p).va = p.va)
    (hoff : ∀ p, (f p).virtual_offset = p.virtual_offset) :
    Quiet P X Any (SwapPrefetch.set_page i f : Proc α Unit) :=
  set_page i (Or.inr hva) fun p hp => (congrArg (· % PAGE_SIZE) (hoff p)).trans hp

/-- The same, before other statements. -/
theorem mark {i : PageId} {f : UserPage → UserPage} {φ : β → Prop} {rest : Unit → Proc α β}
    (hrest : Quiet P X φ (rest ()))
    (hf : ∀ p, (f p).va = p.va ∧ (f p).virtual_offset = p.virtual_offset) :
    Quiet P X φ (SwapPrefetch.set_page i f >>= rest) :=
  (mark_page i (fun p => (hf p).1) fun p => (hf p).2).bind fun _ _ => hrest

theorem numentries (q : ListId) : Quiet P X Any (SwapPrefetch.numentries q : Proc α ℕ) :=
  fun _ => Commutes.read (fun s => (s.pol.lists q).length) (fun _ => rfl) (fun _ _ => rfl)
    fun _ _ => trivial

theorem enqueue (q : ListId) (i : PageId) : Quiet P X Any (enqueue_fifo q i : Proc α Unit) := by
  refine asserts <| ?_
  exact update i (g := fun p => { p with list := some q }) (fun _ => rfl) (fun _ => rfl)
    (fun _ => rfl) (fun _ => rfl) (Or.inr fun _ => rfl) fun _ hp => hp

theorem unlink (q : ListId) (i : PageId) :
    Quiet P X Any (SwapPrefetch.modify_pol fun s => s.unlink q i : Proc α Unit) :=
  update i (g := fun p => { p with list := none }) (fun _ => rfl) (fun _ => rfl) (fun _ => rfl)
    (fun _ => rfl) (Or.inr fun _ => rfl) fun _ hp => hp

theorem dequeue (q : ListId) : Quiet P X Any (dequeue_fifo q : Proc α (Option PageId)) := by
  refine get_pol_bind (fun _ => rfl) fun p => ?_
  split
  · exact done
  · exact (unlink q _).bind fun _ _ => done

theorem tryremove (list : Option ListId) (i : PageId) :
    Quiet P X Any (page_list_tryremove_page list i : Proc α ℤ) := by
  cases list with
  | none => exact done
  | some q =>
      refine reads fun _ => ite done ?_
      refine get_pol_bind (fun _ => rfl) fun _ => ite done ?_
      exact (unlink q i).bind fun _ _ => done

/-! ### The page table -/

theorem app_turn : Quiet P X Any (SwapPrefetch.app_turn : Proc α Unit) :=
  modify_mem Mem.app_turn_hide (fun m => m.app_turn_appStep.rest.store)
    (fun m => m.app_turn_appStep.rest.io_fails) fun _ h => h.app_turn

/-- An entry is replaced by one with a page of `P`. -/
theorem set_pte (va : ℕ) {e : Option (Pte α)} (he : ∀ e', e = some e' → P e'.data) :
    Quiet P X Any (SwapPrefetch.modify_mem fun m => m.setPte va e) :=
  modify_mem (fun _ => rfl) (fun _ => rfl) (fun _ => rfl) fun _ h => h.setPte va he

/-- An entry that is there is given other bits. -/
theorem set_bits {m : Mem α} (hm : DataIn P m) (va : ℕ) (f : Pte α → Pte α)
    (hf : ∀ e, (f e).data = e.data) :
    Quiet P X Any (match m.pte va with
      | some e => SwapPrefetch.modify_mem fun m => m.setPte va (some (f e))
      | none => Pure.pure () : Proc α Unit) := by
  rcases he : m.pte va with _ | e
  · exact done
  · refine set_pte va ?_
    rintro _ ⟨⟩
    rw [hf]
    exact hm.entries va e he

theorem pt_get_bits (i : PageId) :
    Quiet P X Any (SwapPrefetch.pt_get_bits i : Proc α (Bool × Bool)) := by
  refine app_turn.bind fun _ _ => reads fun _ => requires (get_mem_bind (fun _ => rfl) fun m _ => ?_)
  split
  · exact done
  · exact done

theorem pt_clear_accessed_flag (i : PageId) :
    Quiet P X Any (SwapPrefetch.pt_clear_accessed_flag i : Proc α Unit) := by
  refine app_turn.bind fun _ _ => reads fun _ => requires ?_
  exact get_mem_bind (fun _ => rfl) fun m hm => set_bits hm _ _ fun _ => rfl

theorem extmem_wp_page (i : PageId) (b : Bool) :
    Quiet P X Any (SwapPrefetch.extmem_wp_page i b : Proc α Unit) := by
  refine app_turn.bind fun _ _ => reads fun _ => requires (requires ?_)
  exact get_mem_bind (fun _ => rfl) fun m hm => set_bits hm _ _ fun _ => rfl

theorem uffdio_copy (va : ℕ) {d : α} (hd : P d) : Quiet P X Any (SwapPrefetch.uffdio_copy va d) := by
  have houtcome : Quiet P X Any (SwapPrefetch.modify_mem fun m : Mem α =>
      { m with env := { m.env with copy_fails := m.env.copy_fails.tail } }) :=
    modify_mem (fun _ => rfl) (fun _ => rfl) (fun _ => rfl) fun _ h =>
      ⟨h.entries, h.page_cache, h.buffer_space, h.prefetch_buffer, h.turns⟩
  refine app_turn.bind fun _ _ => get_mem_bind (fun _ => rfl) fun m _ => ?_
  refine houtcome.bind fun _ _ => ?_
  refine get_mem_bind (fun _ => rfl) fun m' _ => ite done ?_
  refine (set_pte va ?_).bind fun _ _ => done
  rintro _ ⟨⟩
  exact hd

theorem madvise_dontneed (va : ℕ) : Quiet P X Any (SwapPrefetch.madvise_dontneed va : Proc α Unit) := by
  refine app_turn.bind fun _ _ => get_mem_bind (fun _ => rfl) fun m _ => ?_
  split
  · refine modify_mem (fun _ => rfl) (fun _ => rfl) (fun _ => rfl) fun m h => ?_
    have hset := h.setPte va (e := none) nofun
    exact ⟨hset.entries, hset.page_cache, hset.buffer_space, hset.prefetch_buffer, hset.turns⟩
  · exact done

/-! ### The scans -/

theorem running (b : Bool) :
    Quiet P X Any (SwapPrefetch.modify_pol fun s => { s with shrinkage_running := b } : Proc α Unit) :=
  modify_pol (fun _ => rfl) (fun _ => rfl) (fun _ => rfl) (fun _ _ _ => rfl) fun _ h => h

theorem shrink_active_loop (nr_pages left ret : ℕ) :
    Quiet P X Any (SwapPrefetch.shrink_active_loop nr_pages left ret : Proc α ℕ) := by
  induction left generalizing ret with
  | zero => exact done
  | succ left ih =>
      refine (numentries _).bind fun _ _ => ite ?_ done
      refine (dequeue _).bind fun page _ => ?_
      cases page with
      | none => exact throw _
      | some page =>
          exact mark ((enqueue _ _).bind fun _ _ => ih _) fun _ => ⟨rfl, rfl⟩

theorem shrink_active_list (nr_pages : ℕ) :
    Quiet P X Any (SwapPrefetch.shrink_active_list nr_pages : Proc α ℕ) := by
  refine ite done ((running _).bind fun _ _ => ?_)
  refine (numentries _).bind fun _ _ => (shrink_active_loop _ _ _).bind fun _ _ => ?_
  exact (running _).bind fun _ _ => done

theorem shrink_inactive_page (page : PageId) :
    Quiet P X Any (SwapPrefetch.shrink_inactive_page page : Proc α Bool) := by
  refine (pt_get_bits _).bind fun bits _ => ite ?_ ?_
  · refine mark ?_ fun _ => ⟨rfl, rfl⟩
    refine (pt_clear_accessed_flag _).bind fun _ _ => ?_
    refine reads fun _ => ite ?_ ?_
    · exact mark ((enqueue _ _).bind fun _ _ => done) fun _ => ⟨rfl, rfl⟩
    · exact (enqueue _ _).bind fun _ _ => done
  · exact mark ((enqueue _ _).bind fun _ _ => done) fun _ => ⟨rfl, rfl⟩

theorem shrink_inactive_loop (nr_pages left ret : ℕ) :
    Quiet P X Any (SwapPrefetch.shrink_inactive_loop nr_pages left ret : Proc α ℕ) := by
  induction left generalizing ret with
  | zero => exact done
  | succ left ih =>
      refine (numentries _).bind fun _ _ => ite ?_ done
      refine (dequeue _).bind fun page _ => ?_
      cases page with
      | none => exact throw _
      | some page => exact (shrink_inactive_page page).bind fun _ _ => ih _

theorem shrink_inactive_list (nr_pages : ℕ) :
    Quiet P X Any (SwapPrefetch.shrink_inactive_list nr_pages : Proc α ℕ) := by
  refine (numentries _).bind fun _ _ => (running _).bind fun _ _ => ?_
  refine (shrink_inactive_loop _ _ _).bind fun _ _ => ?_
  exact (running _).bind fun _ _ => done

theorem direct_allocate_loop (nr_pages to_active to_inactive rounds a b reclaimed : ℕ) :
    Quiet P X Any (SwapPrefetch.direct_allocate_loop nr_pages to_active to_inactive rounds a b reclaimed :
      Proc α ℕ) := by
  induction rounds generalizing a b reclaimed with
  | zero => exact done
  | succ rounds ih =>
      refine ite ?_ done
      refine (shrink_inactive_list _).bind fun _ _ => ite ?_ (ih _ _ _)
      exact (shrink_active_list _).bind fun _ _ => ih _ _ _

theorem direct_allocate_page_asynch (nr_pages priority : ℕ) :
    Quiet P X Any (SwapPrefetch.direct_allocate_page_asynch nr_pages priority : Proc α ℕ) :=
  (numentries _).bind fun _ _ => (numentries _).bind fun _ _ =>
    direct_allocate_loop _ _ _ _ _ _ _

theorem fetch_free_reclaim (priority : ℕ) :
    Quiet P X Any (SwapPrefetch.fetch_free_reclaim priority : Proc α ℕ) := by
  refine get_pol_bind (fun _ => rfl) fun _ => get_pol_bind (fun _ => rfl) fun _ => ?_
  refine (numentries _).bind fun _ _ => (numentries _).bind fun _ _ => ?_
  refine ite ?_ done
  exact (direct_allocate_page_asynch _ _).bind fun _ _ => done

/-! ### Frames, slots and reserves -/

theorem detach_reserve (page : PageId) (stuck : Fault) :
    Quiet P X Any (SwapPrefetch.detach_reserve page stuck : Proc α PageId) := by
  refine reads fun p => ?_
  cases p.reserve with
  | none => exact throw _
  | some diskpage =>
      refine asserts (reads fun _ => requires ?_)
      exact (tryremove _ _).bind fun _ _ => requires done

theorem lrudisk_detach_page (page : PageId) :
    Quiet P X Any (SwapPrefetch.lrudisk_detach_page page : Proc α Unit) := by
  refine asserts ((tryremove _ _).bind fun _ _ => ?_)
  exact check _ _

theorem link_reserve (page freepage : PageId) :
    Quiet P X Any (SwapPrefetch.link_reserve page freepage : Proc α Unit) := by
  refine mark (mark (mark ?_ fun _ => ⟨rfl, rfl⟩) fun _ => ⟨rfl, rfl⟩) fun _ => ⟨rfl, rfl⟩
  exact (enqueue _ _).bind fun _ _ => enqueue _ _

theorem lrudisk_track_page (page : PageId) :
    Quiet P X Any (SwapPrefetch.lrudisk_track_page page : Proc α Unit) :=
  asserts (enqueue _ _)

theorem lrudisk_put_page_free (page : PageId) :
    Quiet P X Any (SwapPrefetch.lrudisk_put_page_free page : Proc α Unit) :=
  asserts (asserts (enqueue _ _))

/-- The struct of a frame takes over a slot. -/
theorem release (i : PageId) {offset : ℕ} (h : offset % PAGE_SIZE = 0) :
    Quiet P X Any (SwapPrefetch.set_page i fun p =>
      { p with
        virtual_offset := offset, in_dram := false, swapped_out := true
        migrating := false } : Proc α Unit) :=
  set_page i (Or.inr fun _ => rfl) fun _ _ => h

theorem lrudisk_ack_swapin (page freepage : PageId) :
    Quiet P X Any (SwapPrefetch.lrudisk_ack_swapin page freepage : Proc α Unit) := by
  refine (get_page _).bind fun f hf => (get_page _).bind fun p hp => ?_
  refine asserts (asserts (asserts (asserts (asserts ((release _ hp).bind fun _ _ => ?_)))))
  exact bind (set_page _ (Or.inr fun _ => rfl) fun _ _ => hf) fun _ _ => link_reserve _ _

theorem core_migrate_up_async_start (page : PageId) :
    Quiet P X Any (SwapPrefetch.core_migrate_up_async_start page : Proc α Unit) := by
  refine asserts (reads fun _ => bounds ?_ fun _ => rfl)
  exact get_pol_bind (fun _ => rfl) fun _ => check _ _

theorem core_migrate_up_async_finish (page : PageId) {dram_offset : ℕ}
    (h : dram_offset % PAGE_SIZE = 0) :
    Quiet P X Any (SwapPrefetch.core_migrate_up_async_finish page dram_offset : Proc α Unit) := by
  refine asserts (reads fun _ => bounds (bounds (bounds (bounds ?_ fun _ => rfl) fun _ => rfl)
    fun _ => rfl) fun _ => rfl)
  refine reads fun _ => get_mem_bind (fun _ => rfl) fun m hm => ?_
  refine (uffdio_copy _ hm.buffer_space).bind fun _ _ => requires (asserts ?_)
  exact set_page _ (Or.inr fun _ => rfl) fun _ _ => h

theorem prefetch_finish (jobs : List (PageId × PageId)) (n : ℕ) :
    Quiet P X Any (SwapPrefetch.prefetch_finish jobs n : Proc α ℕ) := by
  induction jobs generalizing n with
  | nil => exact done
  | cons job rest ih =>
      refine reads fun _ => get_mem_bind (fun _ => rfl) fun m hm => ?_
      refine (uffdio_copy _ (hm.prefetch_buffer n)).bind fun _ _ => ?_
      refine (lrudisk_ack_swapin _ _).bind fun _ _ => ?_
      exact mark (mark (ih _) fun _ => ⟨rfl, rfl⟩) fun _ => ⟨rfl, rfl⟩

/-! ### Removal -/

theorem account (bytes freed : ℕ) :
    Quiet P X Any (SwapPrefetch.modify_pol fun s => s.account bytes freed : Proc α Unit) :=
  modify_pol (fun _ => rfl) (fun _ => rfl) (fun _ => rfl) (fun _ _ _ => rfl) fun _ h => h

/-- The struct that is removed loses its address. -/
theorem lrudisk_remove_page (page : PageId) :
    Quiet P {page} Any (SwapPrefetch.lrudisk_remove_page page : Proc α Unit) := by
  have hend : Quiet P {page} Any (SwapPrefetch.set_page page fun p => { p with migrating := false } :
      Proc α Unit) := mark_page _ (fun _ => rfl) fun _ => rfl
  refine mark ?_ fun _ => ⟨rfl, rfl⟩
  refine reads fun _ => (tryremove _ _).bind fun _ _ => ?_
  refine requires (bind (set_page page (Or.inl rfl) fun _ hp => hp) fun _ _ => ?_)
  refine reads fun _ => ite ?_ ?_
  · refine reads fun _ => ite ?_ ?_
    · refine (detach_reserve _ _).bind fun _ _ => ?_
      refine mark ?_ fun _ => ⟨rfl, rfl⟩
      refine (enqueue _ _).bind fun _ _ => ?_
      refine mark ?_ fun _ => ⟨rfl, rfl⟩
      exact (enqueue _ _).bind fun _ _ => hend
    · exact (enqueue _ _).bind fun _ _ => hend
  · refine reads fun _ => ite ?_ ?_
    · exact mark ((enqueue _ _).bind fun _ _ => hend) fun _ => ⟨rfl, rfl⟩
    · exact (throw (φ := Any) _).bind fun _ _ => hend

theorem libc_munmap (addr length : ℕ) :
    Quiet P X Any (SwapPrefetch.libc_munmap addr length : Proc α Unit) := by
  refine app_turn.bind fun _ _ => requires ?_
  refine modify_mem (fun _ => rfl) (fun _ => rfl) (fun _ => rfl) fun m h => ?_
  refine ⟨fun va e he => ?_, h.page_cache, h.buffer_space, h.prefetch_buffer, h.turns⟩
  have he : (if addr ≤ va ∧ va < addr + length then none else m.pte va) = some e := he
  split at he
  · cases he
  · exact h.entries va e he

/-! ### Initialisation -/

theorem lrudisk_init_loop (in_dram : Bool) (queue : ListId) (left i : ℕ) :
    Quiet P Set.univ Any (SwapPrefetch.lrudisk_init_loop in_dram queue left i : Proc α Unit) := by
  induction left generalizing i with
  | zero => exact done
  | succ left ih =>
      have halloc : Quiet P Set.univ Any (alloc_page
          { virtual_offset := i * PAGE_SIZE, in_dram := in_dram, swapped_out := !in_dram } :
          Proc α PageId) := by
        refine get_pol_bind (fun _ => rfl) fun p =>
          bind (φ := Any) ?_ fun _ _ => done
        refine modify_pol (fun _ => rfl) (fun _ => rfl) (fun _ => rfl)
          (fun _ _ hj => (hj trivial).elim) fun q hq j => ?_
        by_cases hj : j = p.npages
        · subst hj
          show (Function.update q.page _ _ _).Aligned
          rw [Function.update_self]
          exact Nat.mul_mod_left i PAGE_SIZE
        · show (Function.update q.page _ _ _).Aligned
          rw [Function.update_of_ne hj]
          exact hq j
      exact halloc.bind fun _ _ => (enqueue _ _).bind fun _ _ => requires (ih _)

theorem lrudisk_init : Quiet P Set.univ Any (SwapPrefetch.lrudisk_init : Proc α Unit) := by
  refine get_pol_bind (fun _ => rfl) fun _ => (lrudisk_init_loop _ _ _ _).bind fun _ _ => ?_
  exact get_pol_bind (fun _ => rfl) fun _ => lrudisk_init_loop _ _ _ _

end Quiet

end SwapPrefetch
