/-
The handlers of `src/core.c`, and whole runs.

Between operations the policy is `Idle`: the invariant holds, the page index knows
exactly the live pages, every struct is on a list and no live page is marked as
migrating. Inside an operation some structs are in the handler's hands; `Busy P jobs`
is the same statement with the pairs of page and frame that are (`core_try_prefetch`
holds up to 32 pairs at a time). `Idle` is `Busy` with no pairs.

Each handler is proved to lead from `Idle` to `Idle`, with no assertion failing
on the way but those about resources. A run is a list of operations, so every
reachable state is `Idle`.
-/
import Mathlib.Tactic
import SwapPrefetch.Swapin

set_option autoImplicit false

namespace SwapPrefetch

open Prog

variable {α : Type}

/-! ## States between and within operations -/

/-- The structs in the hands of a handler. -/
def held (jobs : List (PageId × PageId)) : List PageId := jobs.flatMap fun j => [j.1, j.2]

@[simp] theorem held_nil : held [] = [] := rfl

@[simp] theorem held_cons (p f : PageId) (jobs : List (PageId × PageId)) :
    held ((p, f) :: jobs) = p :: f :: held jobs := rfl

@[simp] theorem held_append (jobs jobs' : List (PageId × PageId)) :
    held (jobs ++ jobs') = held jobs ++ held jobs' := List.flatMap_append

/-- The page index holds exactly the live pages. -/
def IndexOk (P : Policy) : Prop :=
  ∀ va i, P.pages va = some i ↔ i < P.npages ∧ (P.page i).va = va ∧ va ≠ 0

/-- A handler holds the pages and frames of `jobs`; the rest of the policy is at rest. -/
structure Busy (P : Policy) (jobs : List (PageId × PageId)) : Prop where
  inv : Inv P
  index : IndexOk P
  quiet : ∀ i, i < P.npages → i ∉ held jobs →
    (P.page i).list ≠ none ∧ ((P.page i).va ≠ 0 → (P.page i).migrating = false)
  page : ∀ p f, (p, f) ∈ jobs → p < P.npages ∧ (P.page p).list = none ∧
    (P.page p).role = .evicted ∧ (P.page p).migrating = true
  frame : ∀ p f, (p, f) ∈ jobs → f < P.npages ∧ (P.page f).list = none ∧ (P.page f).role = .frame
  distinct : (held jobs).Nodup

/-- The policy between operations. -/
abbrev Idle (P : Policy) : Prop := Busy P []

/-- A policy in which no handler holds anything. -/
theorem idle_of {P : Policy} (hinv : Inv P) (hindex : IndexOk P)
    (hquiet : ∀ i, i < P.npages →
      (P.page i).list ≠ none ∧ ((P.page i).va ≠ 0 → (P.page i).migrating = false)) : Idle P :=
  ⟨hinv, hindex, fun i hi _ => hquiet i hi, fun _ _ hj => absurd hj List.not_mem_nil,
    fun _ _ hj => absurd hj List.not_mem_nil, List.nodup_nil⟩

/-- What a handler holds is no slot. -/
theorem Busy.listed {P : Policy} {jobs : List (PageId × PageId)} (h : Busy P jobs) {i : PageId}
    (hi : i < P.npages) (hslot : (P.page i).role = .slot) : (P.page i).list ≠ none := by
  refine (h.quiet i hi fun hheld => ?_).1
  obtain ⟨⟨p, f⟩, hj, hm⟩ := List.mem_flatMap.1 hheld
  rcases List.mem_cons.1 hm with rfl | hm
  · rw [(h.page _ _ hj).2.2.1] at hslot
    cases hslot
  · rw [List.mem_singleton.1 hm, (h.frame _ _ hj).2.2] at hslot
    cases hslot

/-- A policy in which a handler is busy is as roomy as it was before. -/
theorem Busy.roomy_of {P P' : Policy} {jobs : List (PageId × PageId)} (h : Busy P' jobs)
    (hfix : Fixed P P') (hva : ∀ i, (P'.page i).va = (P.page i).va) (hroomy : Roomy P) :
    Roomy P' :=
  hroomy.of_kept hfix.npages hfix.disksize hva fun _ hi hslot hnone =>
    absurd hnone (h.listed (hfix.npages ▸ hi) hslot)

section IndexOk

variable {P P' : Policy} {f : PageId} {b : ℕ}

/-- The index after assignments to fields other than the address. -/
theorem IndexOk.of_va (h : IndexOk P) (hp : P'.pages = P.pages) (hn : P'.npages = P.npages)
    (hva : ∀ i, (P'.page i).va = (P.page i).va) : IndexOk P' := by
  intro va i
  rw [hp, hn, hva]
  exact h va i

/-- The index after steps that change neither the index nor an address. -/
theorem IndexOk.congr (h : IndexOk P) (hfix : Fixed P P')
    (hva : ∀ i, (P'.page i).va = (P.page i).va) : IndexOk P' :=
  h.of_va hfix.pages hfix.npages hva

/-- No page is at an address that the index does not know. -/
theorem IndexOk.va_ne (h : IndexOk P) (hb : b ≠ 0) (hnew : P.pages b = none) {i : PageId}
    (hi : i < P.npages) : (P.page i).va ≠ b := by
  intro heq
  have hfound := (h b i).2 ⟨hi, heq, hb⟩
  rw [hnew] at hfound
  cases hfound

/-- The index after a frame got an address that no page had, and was entered under it. -/
theorem IndexOk.insert (h : IndexOk P) (hb : b ≠ 0) (hnew : P.pages b = none)
    (hf : f < P.npages) (h0 : (P.page f).va = 0)
    (hp : P'.pages = Function.update P.pages b (some f)) (hn : P'.npages = P.npages)
    (hva : (P'.page f).va = b) (hne : ∀ i, i ≠ f → (P'.page i).va = (P.page i).va) :
    IndexOk P' := by
  intro a i
  rw [hp, hn]
  rcases eq_or_ne a b with rfl | hab
  · rw [Function.update_self]
    constructor
    · intro hi
      rw [← Option.some.inj hi]
      exact ⟨hf, hva, hb⟩
    · rintro ⟨hi, hia, -⟩
      rcases eq_or_ne i f with rfl | hif
      · rfl
      · rw [hne i hif] at hia
        exact absurd hia (h.va_ne hb hnew hi)
  · rw [Function.update_of_ne hab, h a i]
    rcases eq_or_ne i f with rfl | hif
    · -- the frame had no address, and now has another one
      rw [hva, h0]
      constructor
      · rintro ⟨-, ha, ha'⟩
        exact absurd ha.symm ha'
      · rintro ⟨-, hba, -⟩
        exact absurd hba.symm hab
    · rw [hne i hif]

end IndexOk

/-- From `P`, the page `p` was marked and detached, and the frame `f` was found. -/
structure Claimed (P P₁ : Policy) (p f : PageId) : Prop where
  inv : Inv P₁
  fixed : Fixed P P₁
  va : ∀ i, (P₁.page i).va = (P.page i).va
  page_p : P₁.page p = { P.page p with migrating := true, list := none }
  ne : p ≠ f
  lt : f < P.npages
  frame : (P₁.page f).role = .frame
  loose : (P₁.page f).list = none
  was_listed : (P.page f).list ≠ none
  held : ∀ i, i ≠ p → (P.page i).list = none → P₁.page i = P.page i
  kept : ∀ i, i ≠ p → i ≠ f → (P₁.page i).list = none → (P.page i).list = none
  migrating : ∀ i, i ≠ p → (P₁.page i).migrating = true → (P.page i).migrating = true

/-- Detach first, search afterwards: the asynchronous swap-in and the prefetch. -/
theorem Claimed.of_detach_fetch {s s₁ : State α} {p f : PageId} (h : Inv s.pol)
    (hl : (s.pol.page p).list = some .disk_active_list)
    (hf : Fetched ⟨(s.pol.upd p fun q => { q with migrating := true }).unlink .disk_active_list p,
      s.mem⟩ s₁ f) : Claimed s.pol s₁.pol p f := by
  have hva := (UserPage.role_evicted.1 (h.role_of_list hl rfl)).2
  have hpage : ((s.pol.upd p fun q => { q with migrating := true }).unlink .disk_active_list p).page p
      = { s.pol.page p with migrating := true, list := none } := by
    rw [Policy.unlink_page_self, Policy.upd_page_self]
  have hne : ∀ i, i ≠ p → ((s.pol.upd p fun q => { q with migrating := true }).unlink
      .disk_active_list p).page i = s.pol.page i := fun i hi => by
    rw [Policy.unlink_page_ne _ _ hi, Policy.upd_page_ne _ _ hi]
  have hpf : p ≠ f := hf.ne (by rw [hpage]; exact hva)
  have hfix := hf.step.fixed
  constructor
  · exact hf.inv
  · exact ⟨by rw [hfix.npages]; simp, by rw [hfix.dramsize]; simp, by rw [hfix.disksize]; simp,
      by rw [hfix.pages]; simp⟩
  · intro i
    rw [hf.step.va]
    by_cases hip : i = p
    · rw [hip, hpage]
    · rw [hne i hip]
  · rw [hf.step.held p (by rw [hpage]), hpage]
  · exact hpf
  · have := hf.lt
    rw [hfix.npages] at this
    simpa using this
  · exact hf.frame
  · exact hf.loose
  · have := hf.was_listed
    rw [hne f hpf.symm] at this
    exact this
  · intro i hip hi
    rw [← hne i hip] at hi
    rw [hf.step.held i hi, hne i hip]
  · intro i hip hif hi
    have := hf.kept i hif hi
    rw [hne i hip] at this
    exact this
  · intro i hip hi
    have := hf.step.migrating i hi
    rw [hne i hip] at this
    exact this

/-- Search first, detach afterwards: the synchronous swap-in. -/
theorem Claimed.of_fetch_detach {s s₁ : State α} {p f : PageId} (h : Inv s.pol)
    (hl : (s.pol.page p).list = some .disk_active_list)
    (hf : Fetched ⟨s.pol.upd p fun q => { q with migrating := true }, s.mem⟩ s₁ f) :
    Claimed s.pol (s₁.pol.unlink .disk_active_list p) p f := by
  have hr := h.role_of_list hl rfl
  have hva := (UserPage.role_evicted.1 hr).2
  have hpf : p ≠ f := hf.ne (by rw [Policy.upd_page_self]; exact hva)
  -- the search leaves an evicted page on its list alone
  have hp₁ : s₁.pol.page p = { s.pol.page p with migrating := true } := by
    rw [hf.step.evicted p (by rw [Policy.upd_page_self]; exact hl), Policy.upd_page_self]
  have hne : ∀ i, i ≠ p → (s.pol.upd p fun q => { q with migrating := true }).page i = s.pol.page i :=
    fun i hi => Policy.upd_page_ne _ _ hi
  have hne₁ : ∀ i, i ≠ p → (s₁.pol.unlink .disk_active_list p).page i = s₁.pol.page i :=
    fun i hi => Policy.unlink_page_ne _ _ hi
  have hl₁ : (s₁.pol.page p).list = some .disk_active_list := by rw [hp₁]; exact hl
  have hfix := hf.step.fixed
  constructor
  · exact hf.inv.unlink hl₁ (by rw [hf.inv.role_of_list hl₁ rfl]; decide)
  · exact ⟨by simp [hfix.npages], by simp [hfix.dramsize], by simp [hfix.disksize],
      by simp [hfix.pages]⟩
  · intro i
    by_cases hip : i = p
    · rw [hip, Policy.unlink_page_self, hp₁]
    · rw [hne₁ i hip, hf.step.va, hne i hip]
  · rw [Policy.unlink_page_self, hp₁]
  · exact hpf
  · have := hf.lt
    rw [hfix.npages] at this
    simpa using this
  · rw [hne₁ f hpf.symm]
    exact hf.frame
  · rw [hne₁ f hpf.symm]
    exact hf.loose
  · have := hf.was_listed
    rw [hne f hpf.symm] at this
    exact this
  · intro i hip hi
    rw [← hne i hip] at hi
    rw [hne₁ i hip, hf.step.held i hi, hne i hip]
  · intro i hip hif hi
    rw [hne₁ i hip] at hi
    have := hf.kept i hif hi
    rw [hne i hip] at this
    exact this
  · intro i hip hi
    rw [hne₁ i hip] at hi
    have := hf.step.migrating i hi
    rw [hne i hip] at this
    exact this

namespace Busy

variable {P : Policy} {jobs : List (PageId × PageId)}

theorem held_list (h : Busy P jobs) {i : PageId} (hi : i ∈ held jobs) :
    i < P.npages ∧ (P.page i).list = none := by
  obtain ⟨⟨p, f⟩, hj, hi⟩ := List.mem_flatMap.1 hi
  rcases List.mem_cons.1 hi with rfl | hi
  · exact ⟨(h.page _ _ hj).1, (h.page _ _ hj).2.1⟩
  · rw [List.mem_singleton.1 hi]
    exact ⟨(h.frame _ _ hj).1, (h.frame _ _ hj).2.1⟩

/-- A live page that the index finds, and that no handler holds, is on a list. -/
theorem live (h : Busy P jobs) {va : ℕ} {i : PageId} (hi : P.pages va = some i) :
    i < P.npages ∧ (P.page i).va = va ∧ va ≠ 0 :=
  (h.index va i).1 hi

/-- A listed page that is swapped out is on `disk_active_list`. -/
theorem swapped_list (h : Busy P jobs) {i : PageId} (hi : i < P.npages) (hva : (P.page i).va ≠ 0)
    (hl : (P.page i).list ≠ none) (hsw : (P.page i).swapped_out = true) :
    (P.page i).list = some .disk_active_list := by
  have hr : (P.page i).role = .evicted := by
    rcases hd : (P.page i).in_dram with _ | _
    · exact UserPage.role_evicted.2 ⟨hd, hva⟩
    · have := (h.inv.struct i hi).not_swapped (UserPage.role_resident.2 ⟨hd, hva⟩)
      rw [hsw] at this
      cases this
  obtain ⟨l, hl⟩ := Option.ne_none_iff_exists'.1 hl
  have := (h.inv.struct i hi).on_list l hl
  rw [hr] at this
  rw [hl, ListId.role_evicted this]

/-- An evicted page that no handler holds is on `disk_active_list`. -/
theorem evicted_list (h : Busy P jobs) {i : PageId} (hi : i < P.npages) (hni : i ∉ held jobs)
    (hr : (P.page i).role = .evicted) : (P.page i).list = some .disk_active_list := by
  obtain ⟨hin, hva⟩ := UserPage.role_evicted.1 hr
  exact h.swapped_list hi hva (h.quiet i hi hni).1 ((h.inv.struct i hi).swapped hin)

/-- **Claim.** The page `p` was claimed and the frame `f` found for it: the handler
now holds one more pair. -/
theorem claim {P₁ : Policy} {p f : PageId} (h : Busy P jobs)
    (hl : (P.page p).list = some .disk_active_list) (c : Claimed P P₁ p f) :
    Busy P₁ (jobs ++ [(p, f)]) := by
  have hr := h.inv.role_of_list hl rfl
  have hlt := h.inv.lt_of_list hl
  have hn := c.fixed.npages
  have hpn : p ∉ held jobs := fun hm => by
    rw [(h.held_list hm).2] at hl
    cases hl
  -- what is in the hands of the handler already is not touched
  have hold : ∀ i, i ∈ held jobs → i ≠ p ∧ i ≠ f ∧ P₁.page i = P.page i := by
    intro i hi
    have hip : i ≠ p := fun heq => hpn (heq ▸ hi)
    have hnone := (h.held_list hi).2
    refine ⟨hip, ?_, c.held i hip hnone⟩
    rintro rfl
    exact c.was_listed hnone
  constructor
  · exact c.inv
  · exact h.index.congr c.fixed c.va
  · intro i hi hni
    rw [hn] at hi
    simp only [held_append, held_cons, held_nil, List.mem_append, List.mem_cons,
      List.not_mem_nil, or_false, not_or] at hni
    obtain ⟨hnj, hip, hif⟩ := hni
    obtain ⟨hlist, hmig⟩ := h.quiet i hi hnj
    refine ⟨fun hnone => hlist (c.kept i hip hif hnone), fun hva' => ?_⟩
    rcases hm : (P₁.page i).migrating with _ | _
    · rfl
    · have := c.migrating i hip hm
      rw [c.va] at hva'
      rw [hmig hva'] at this
      cases this
  · intro p' f' hj
    rcases List.mem_append.1 hj with hj | hj
    · have hmem : p' ∈ held jobs := List.mem_flatMap.2 ⟨_, hj, by simp⟩
      rw [(hold p' hmem).2.2, hn]
      exact h.page p' f' hj
    · obtain ⟨rfl, rfl⟩ := Prod.mk.inj (List.mem_singleton.1 hj)
      rw [hn, c.page_p]
      exact ⟨hlt, rfl, hr, rfl⟩
  · intro p' f' hj
    rcases List.mem_append.1 hj with hj | hj
    · have hmem : f' ∈ held jobs := List.mem_flatMap.2 ⟨_, hj, by simp⟩
      rw [(hold f' hmem).2.2, hn]
      exact h.frame p' f' hj
    · obtain ⟨rfl, rfl⟩ := Prod.mk.inj (List.mem_singleton.1 hj)
      exact ⟨hn ▸ c.lt, c.loose, c.frame⟩
  · rw [held_append]
    refine List.nodup_append.2 ⟨h.distinct, by simp [c.ne], fun i hi j hj => ?_⟩
    rintro rfl
    obtain ⟨hip, hif, _⟩ := hold i hi
    simp only [held_cons, held_nil, List.mem_cons, List.not_mem_nil, or_false] at hj
    exact hj.elim hip hif

/-- **Settle.** The first pair is brought in: the handler holds one pair less. -/
theorem settle {P' : Policy} {p f : PageId} (h : Busy P ((p, f) :: jobs))
    (e : SwapinTo P P' p f) : Busy P' jobs := by
  obtain ⟨hp, _, hrp, _⟩ := h.page p f List.mem_cons_self
  obtain ⟨hf, _, hrf⟩ := h.frame p f List.mem_cons_self
  have hdist := h.distinct
  simp only [held_cons, List.nodup_cons, List.mem_cons, not_or] at hdist
  obtain ⟨⟨hpf, hpj⟩, hfj, hnd⟩ := hdist
  have hfva := (UserPage.role_frame.1 hrf).2
  have hother : ∀ i, i ∈ held jobs → P'.page i = P.page i := fun i hi =>
    e.page_ne i (fun heq => hpj (heq ▸ hi)) fun heq => hfj (heq ▸ hi)
  have hva : ∀ i, (P'.page i).va = (P.page i).va := by
    intro i
    by_cases hip : i = p
    · rw [hip, e.page_p]
    · by_cases hif : i = f
      · rw [hif, e.page_f]
      · rw [e.page_ne i hip hif]
  constructor
  · exact e.inv h.inv hp hf hrp hrf
  · exact h.index.congr e.fixed hva
  · intro i hi hni
    rw [e.fixed.npages] at hi
    by_cases hip : i = p
    · rw [hip, e.page_p]
      exact ⟨fun hn => (nomatch hn), fun _ => rfl⟩
    · by_cases hif : i = f
      · rw [hif, e.page_f]
        exact ⟨fun hn => (nomatch hn), fun _ => rfl⟩
      · rw [e.page_ne i hip hif]
        exact h.quiet i hi (by simp [hip, hif, hni])
  · intro p' f' hj
    rw [hother p' (List.mem_flatMap.2 ⟨_, hj, by simp⟩), e.fixed.npages]
    exact h.page p' f' (List.mem_cons_of_mem _ hj)
  · intro p' f' hj
    rw [hother f' (List.mem_flatMap.2 ⟨_, hj, by simp⟩), e.fixed.npages]
    exact h.frame p' f' (List.mem_cons_of_mem _ hj)
  · exact hnd

end Busy

/-! ## Evicted pages that an operation is not about -/

/-- The page at `a` is evicted, and `c` are the bytes it had. -/
def EvictedAt (s : State α) (a : ℕ) (c : α) : Prop :=
  ∃ p, s.pol.pages a = some p ∧ (s.pol.page p).role = .evicted ∧ s.mem.pte a = none ∧
    s.mem.discarded a = some c

/-- Claiming a page and finding a frame for it leaves the other evicted pages alone. -/
theorem EvictedAt.claim {s : State α} {P₁ : Policy} {m₁ : Mem α} {p f : PageId}
    {jobs : List (PageId × PageId)} {a : ℕ} {c : α} (h : Busy s.pol jobs)
    (hc : Claimed s.pol P₁ p f) (ha : a ≠ (s.pol.page p).va)
    (hmem : ∀ a, s.mem.pte a = none → m₁.pte a = none ∧ m₁.discarded a = s.mem.discarded a)
    (hsame : ∀ i, i ≠ p → (s.pol.page i).list = some .disk_active_list →
      P₁.page i = s.pol.page i) (hat : EvictedAt s a c) : EvictedAt ⟨P₁, m₁⟩ a c := by
  obtain ⟨q, hq, hr, hnone, hdis⟩ := hat
  obtain ⟨hlt, hva, _⟩ := h.live hq
  have hqp : q ≠ p := fun heq => ha (by rw [← hva, heq])
  have hq₁ : P₁.page q = s.pol.page q := by
    by_cases hm : q ∈ held jobs
    · exact hc.held q hqp (h.held_list hm).2
    · exact hsame q hqp (h.evicted_list hlt hm hr)
  refine ⟨q, by rw [hc.fixed.pages]; exact hq, by rw [hq₁]; exact hr, (hmem a hnone).1, ?_⟩
  rw [(hmem a hnone).2]
  exact hdis

/-- Bringing a page in leaves the other evicted pages alone. -/
theorem EvictedAt.settle {s t : State α} {p f : PageId} {jobs : List (PageId × PageId)} {a : ℕ}
    {c : α} (h : Busy s.pol ((p, f) :: jobs)) (e : SwapinTo s.pol t.pol p f)
    (hm : s.mem.pte a = none → t.mem.pte a = none) (hdis : t.mem.discarded = s.mem.discarded)
    (ha : a ≠ (s.pol.page p).va) (hat : EvictedAt s a c) : EvictedAt t a c := by
  obtain ⟨q, hq, hr, hnone, hc⟩ := hat
  obtain ⟨_, hva, _⟩ := h.live hq
  have hqp : q ≠ p := fun heq => ha (by rw [← hva, heq])
  have hqf : q ≠ f := fun heq => by
    rw [heq, (h.frame p f List.mem_cons_self).2.2] at hr
    cases hr
  refine ⟨q, by rw [e.fixed.pages]; exact hq, by rw [e.page_ne q hqp hqf]; exact hr, hm hnone, ?_⟩
  rw [hdis]
  exact hc

/-! ## Major faults -/

/-- What a major fault on the page `p` left. -/
structure SwappedIn (s s' : State α) (p : PageId) (async : Bool) : Prop where
  idle : Idle s'.pol
  fixed : Fixed s.pol s'.pol
  va : ∀ i, (s'.pol.page i).va = (s.pol.page i).va
  resident : (s'.pol.page p).role = .resident
  mapped : ∃ d, s'.mem.pte (s.pol.page p).va = some { data := d } ∧
    (async = false → DataOk s → s.mem.discarded (s.pol.page p).va = some d) ∧
    (async = true → d = s.mem.buffer_space)
  away : ∀ a c, a ≠ (s.pol.page p).va → EvictedAt s a c → EvictedAt s' a c
  data : async = false → DataOk s → DataOk s'

/-- Marking a page changes no contents. -/
theorem Step.mark (s : State α) (p : PageId) :
    DataOk s → DataOk ⟨s.pol.upd p fun q => { q with migrating := true }, s.mem⟩ := by
  refine fun hd => hd.app (by simp) (fun i => ?_) (AppStep.refl _)
  rcases eq_or_ne i p with rfl | hi
  · rw [Policy.upd_page_self]
    exact ⟨rfl, rfl, rfl, rfl⟩
  · rw [Policy.upd_page_ne _ _ hi]
    exact ⟨rfl, rfl, rfl, rfl⟩

theorem SwapinTo.of_unlink {P P' : Policy} {p f : PageId} {q : ListId} (hpf : p ≠ f)
    (e : SwapinTo P P' p f) : SwapinTo (P.unlink q p) P' p f := by
  obtain ⟨⟨h₁, h₂, h₃, h₄⟩, hlinked, hp, hf, hne⟩ := e
  refine ⟨⟨by simp [h₁], by simp [h₂], by simp [h₃], by simp [h₄]⟩, hlinked, ?_, ?_,
    fun i hip hif => ?_⟩
  · rw [Policy.unlink_page_self, Policy.unlink_page_ne _ _ hpf.symm, hp]
  · rw [Policy.unlink_page_self, Policy.unlink_page_ne _ _ hpf.symm, hf]
  · rw [Policy.unlink_page_ne _ _ hip, hne i hip hif]

/-- The synchronous routine, called as a fault handler calls it. -/
theorem SwappedIn.of_sync {s s₁ t : State α} {p f : PageId} (h : Idle s.pol)
    (hl : (s.pol.page p).list = some .disk_active_list)
    (hf : Fetched ⟨s.pol.upd p fun q => { q with migrating := true }, s.mem⟩ s₁ f)
    (e : MappedTo s₁ t p f (s₁.mem.disk_read (s.pol.page p).virtual_offset s₁.mem.buffer_space)) :
    SwappedIn s { t with pol := t.pol.upd p UserPage.settled } p false := by
  have c := Claimed.of_fetch_detach h.inv hl hf
  have hr := h.inv.role_of_list hl rfl
  have hp := h.inv.lt_of_list hl
  have hl₁ : (s₁.pol.page p).list = some .disk_active_list := by
    rw [hf.step.evicted p (by rw [Policy.upd_page_self]; exact hl), Policy.upd_page_self]
    exact hl
  have hoff : (s₁.pol.page p).virtual_offset = (s.pol.page p).virtual_offset := by
    rw [hf.step.evicted p (by rw [Policy.upd_page_self]; exact hl), Policy.upd_page_self]
  have hrp := hf.inv.role_of_list hl₁ rfl
  have hva₁ : (s₁.pol.page p).va = (s.pol.page p).va := by
    have := c.va p
    rw [Policy.unlink_page_self] at this
    exact this
  -- what the slot holds when it is read
  have hread : DataOk s₁ → s₁.mem.store (s₁.pol.page p).virtual_offset =
      some (s₁.mem.disk_read (s.pol.page p).virtual_offset s₁.mem.buffer_space) ∧
      s₁.mem.discarded (s₁.pol.page p).va =
        some (s₁.mem.disk_read (s.pol.page p).virtual_offset s₁.mem.buffer_space) := by
    intro hd
    obtain ⟨_, c, hc, hdis⟩ := hd.evicted p (hf.inv.lt_of_list hl₁) hrp
    have hval : s₁.mem.disk_read (s.pol.page p).virtual_offset s₁.mem.buffer_space = c := by
      rw [← hoff]
      simp [Mem.disk_read, hd.io, hc]
    rw [hval]
    exact ⟨hc, hdis⟩
  have hdata₁ : DataOk s → DataOk s₁ := fun hd => hf.step.data (Step.mark s p hd)
  refine ⟨(h.claim hl c).settle (e.pol.of_unlink c.ne), ?_, fun i => ?_, ?_,
    ⟨s₁.mem.disk_read (s.pol.page p).virtual_offset s₁.mem.buffer_space, ?_, fun _ hd => ?_,
      fun hc => absurd hc Bool.false_ne_true⟩, fun a c' ha hat => ?_, fun _ hd => ?_⟩
  · exact c.fixed.trans (e.pol.of_unlink c.ne).fixed
  · by_cases hip : i = p
    · rw [hip, e.pol.page_p, ← hva₁]
    · by_cases hif : i = f
      · rw [hif, e.pol.page_f, ← c.va f, Policy.unlink_page_ne _ _ c.ne.symm]
      · rw [e.pol.page_ne i hip hif, ← c.va i, Policy.unlink_page_ne _ _ hip]
  · refine UserPage.role_resident.2 ?_
    rw [e.pol.page_p]
    exact ⟨rfl, (UserPage.role_evicted.1 hrp).2⟩
  · rw [← hva₁]
    exact e.mem.entry
  · have hun : s.mem.pte (s.pol.page p).va = none := (hd.evicted p hp hr).1
    rw [← (hf.step.unmapped _ hun).2, ← hva₁]
    exact (hread (hdata₁ hd)).2
  · have hat₁ : EvictedAt ⟨s₁.pol.unlink .disk_active_list p, s₁.mem⟩ a c' := by
      refine hat.claim h c ha hf.step.unmapped fun i hip hi => ?_
      rw [Policy.unlink_page_ne _ _ hip, hf.step.evicted i
        (by rw [Policy.upd_page_ne _ _ hip]; exact hi), Policy.upd_page_ne _ _ hip]
    have hm := (e.mem.others a (by rw [hva₁]; exact ha)).1
    refine EvictedAt.settle (s := ⟨s₁.pol.unlink .disk_active_list p, s₁.mem⟩)
      (t := ⟨t.pol.upd p UserPage.settled, t.mem⟩) (h.claim hl c) (e.pol.of_unlink c.ne) hm
      e.mem.discarded ?_ hat₁
    rw [c.va]
    exact ha
  · exact (hdata₁ hd).mapped hf.inv (hf.inv.lt_of_list hl₁) hrp hf.frame e (hread (hdata₁ hd)).1

/-- The asynchronous routine, called as a fault handler calls it. -/
theorem SwappedIn.of_async {s s₁ t : State α} {p f : PageId} (h : Idle s.pol)
    (hl : (s.pol.page p).list = some .disk_active_list)
    (hf : Fetched ⟨(s.pol.upd p fun q => { q with migrating := true }).unlink .disk_active_list p,
      s.mem⟩ s₁ f) (e : MappedTo s₁ t p f s.mem.buffer_space) :
    SwappedIn s { t with pol := t.pol.upd p UserPage.settled } p true := by
  have c := Claimed.of_detach_fetch h.inv hl hf
  have hr := h.inv.role_of_list hl rfl
  have hva₁ := c.va p
  refine ⟨(h.claim hl c).settle e.pol, c.fixed.trans e.pol.fixed, fun i => ?_, ?_,
    ⟨s.mem.buffer_space, ?_, fun hc => (nomatch hc), fun _ => rfl⟩, fun a c' ha hat => ?_,
    fun hc => (nomatch hc)⟩
  · by_cases hip : i = p
    · rw [hip, e.pol.page_p, ← c.va p]
    · by_cases hif : i = f
      · rw [hif, e.pol.page_f, ← c.va f]
      · rw [e.pol.page_ne i hip hif, ← c.va i]
  · refine UserPage.role_resident.2 ?_
    rw [e.pol.page_p, c.page_p]
    exact ⟨rfl, (UserPage.role_evicted.1 hr).2⟩
  · rw [← hva₁]
    exact e.mem.entry
  · have hat₁ : EvictedAt s₁ a c' := by
      refine hat.claim h c ha hf.step.unmapped fun i hip hi => ?_
      rw [hf.step.evicted i (by rw [Policy.unlink_page_ne _ _ hip, Policy.upd_page_ne _ _ hip]
                                exact hi), Policy.unlink_page_ne _ _ hip, Policy.upd_page_ne _ _ hip]
    have ha₁ : a ≠ (s₁.pol.page p).va := by rw [hva₁]; exact ha
    exact hat₁.settle (h.claim hl c) (t := ⟨t.pol.upd p UserPage.settled, t.mem⟩) e.pol
      (e.mem.others a ha₁).1 e.mem.discarded ha₁

/-- **Major faults**, with either swap-in routine. -/
theorem major_fault_ends (fuel : ℕ) (async : Bool) {s : State α} {p : PageId} (h : Idle s.pol)
    (hp : p < s.pol.npages) (hva : (s.pol.page p).va ≠ 0)
    (hsw : (s.pol.page p).swapped_out = true) :
    Ends ((major_fault (page_swapin fuel async) p).run s) (fun _ s' => SwappedIn s s' p async ∧
      s'.mem.page_cache = s.mem.page_cache) (Short s.pol) := by
  obtain ⟨hlist, hmig⟩ := h.quiet p hp (by simp)
  have hl := h.swapped_list hp hva hlist hsw
  have hal := (h.inv.struct p hp).aligned
  let s₀ : State α := ⟨s.pol.upd p fun q => { q with migrating := true }, s.mem⟩
  have h₀ : Inv s₀.pol := h.inv.upd hp (f := fun q => { q with migrating := true }) (m := true)
    (n := (s.pol.page p).naccesses) rfl
  have hl₀ : (s₀.pol.page p).list = some .disk_active_list := by
    simp only [s₀, Policy.upd_page_self]
    exact hl
  rw [major_fault, run_bind_ok (run_get_page _ _), run_bind_ok (run_get_page _ _),
    run_check_bind (by simp [hmig hva]), run_bind_ok (run_get_page _ _), if_pos hsw,
    run_bind_ok (run_set_page _ _ _)]
  -- the flags are cleared when the routine returns
  have hend : ∀ t : State α, (t.pol.page p).va = (s.pol.page p).va →
      (do
        check ((← get_page p).va = (s.pol.page p).va) .va_changed
        check ((← get_page p).va ≠ 0) .bad_va
        check ((← get_page p).va % PAGE_SIZE = 0) .bad_va
        set_page p fun q => { q with swapped_out := false, migrating := false } : Proc α Unit).run t
      = .ok ((), { t with pol := t.pol.upd p UserPage.settled }) := by
    intro t ht
    simp [ht, hva, hal]
    rfl
  cases async
  case false =>
    refine Ends.bind ((lrudisk_swapin_external_ends fuel (s := s₀) (p := p) h₀ hl₀).mono
      (fun _ _ ht => ht) fun _ he => he.of_roomy fun hroomy => hroomy.mark p) ?_
    rintro _ t ⟨s₁, f, hf, hzero, e⟩
    refine Ends.of_eq (hend t ?_)
      ⟨SwappedIn.of_sync h hl hf ?_, hzero.trans hf.step.page_cache⟩
    · rw [e.va, hf.step.va]
      simp [s₀]
    · simpa [s₀] using e
  case true =>
    refine Ends.bind ((lrudisk_swapin_external_async_ends fuel (s := s₀) (p := p) h₀ hl₀).mono
      (fun _ _ ht => ht) fun _ he => he.of_roomy fun hroomy => hroomy.mark p) ?_
    rintro _ t ⟨s₁, f, hf, hzero, e⟩
    refine Ends.of_eq (hend t ?_)
      ⟨SwappedIn.of_async h hl hf e, hzero.trans hf.step.page_cache⟩
    rw [e.va, hf.step.va]
    simp [s₀]

/-! ## First faults and scans -/

/-- The two sizes are set once. -/
def SameSize (P P' : Policy) : Prop := P'.dramsize = P.dramsize ∧ P'.disksize = P.disksize

theorem SameSize.refl (P : Policy) : SameSize P P := ⟨rfl, rfl⟩

theorem SameSize.trans {P P' P'' : Policy} (h : SameSize P P') (h' : SameSize P' P'') :
    SameSize P P'' :=
  ⟨h'.1.trans h.1, h'.2.trans h.2⟩

theorem Fixed.sameSize {P P' : Policy} (h : Fixed P P') : SameSize P P' := ⟨h.dramsize, h.disksize⟩

/-- An operation that left the evicted pages outside `T` as they were, and that keeps
the contents right if it is one of those (`K`) that do. -/
structure Served (s s' : State α) (K : Prop) (T : ℕ → Prop) : Prop where
  idle : Idle s'.pol
  size : SameSize s.pol s'.pol
  data : K → DataOk s → DataOk s'
  away : ∀ a c, ¬ T a → EvictedAt s a c → EvictedAt s' a c

/-- A reclaim that took nothing off the lists. -/
theorem Reclaimed.served {s s' : State α} (h : Idle s.pol) (r : Reclaimed s s') :
    Served s s' True fun _ => False := by
  have hn := r.step.fixed.npages
  refine ⟨idle_of r.inv (h.index.congr r.step.fixed r.step.va) fun i hi => ?_,
    r.step.fixed.sameSize, fun _ => r.step.data, fun a c _ hat => ?_⟩
  · rw [hn] at hi
    obtain ⟨hlist, hmig⟩ := h.quiet i hi (by simp)
    refine ⟨fun hnone => hlist (r.kept i hnone), fun hva => ?_⟩
    rw [r.step.va] at hva
    rcases hm : (s'.pol.page i).migrating with _ | _
    · rfl
    · have := r.step.migrating i hm
      rw [hmig hva] at this
      cases this
  · obtain ⟨q, hq, hr, hnone, hdis⟩ := hat
    have hl := h.evicted_list (h.live hq).1 (by simp) hr
    obtain ⟨hnone', hdis'⟩ := r.step.unmapped a hnone
    exact ⟨q, by rw [r.step.fixed.pages]; exact hq, by rw [r.step.evicted q hl]; exact hr, hnone',
      hdis'.trans hdis⟩

/-- The structs that a found frame `f` leaves at rest. -/
theorem Fetched.quiet {s s₁ : State α} {f : PageId} (h : Idle s.pol) (hf : Fetched s s₁ f)
    {i : PageId} (hi : i < s.pol.npages) (hif : i ≠ f) :
    (s₁.pol.page i).list ≠ none ∧ ((s₁.pol.page i).va ≠ 0 → (s₁.pol.page i).migrating = false) := by
  obtain ⟨hlist, hmig⟩ := h.quiet i hi (by simp)
  refine ⟨fun hnone => hlist (hf.kept i hif hnone), fun hva => ?_⟩
  rw [hf.step.va] at hva
  rcases hm : (s₁.pol.page i).migrating with _ | _
  · rfl
  · have := hf.step.migrating i hm
    rw [hmig hva] at this
    cases this

/-- Finding a frame leaves the evicted pages alone. -/
theorem Fetched.away {s s₁ : State α} {f : PageId} (h : Idle s.pol) (hf : Fetched s s₁ f) {q : PageId}
    {a : ℕ} (hq : s.pol.pages a = some q) (hr : (s.pol.page q).role = .evicted) :
    s₁.pol.page q = s.pol.page q ∧ q ≠ f := by
  have hl := h.evicted_list (h.live hq).1 (by simp) hr
  have hsame := hf.step.evicted q hl
  refine ⟨hsame, ?_⟩
  rintro rfl
  have := hf.frame
  rw [hsame, hr] at this
  cases this

/-- The frame is not needed after all, and is put back. -/
theorem Fetched.put_back {s s₁ : State α} {f : PageId} (h : Idle s.pol) (hf : Fetched s s₁ f) :
    Served s ⟨(s₁.pol.upd f fun q => { q with migrating := true }).enq .dram_free_list f, s₁.mem⟩
      True fun _ => False := by
  have hfix := hf.step.fixed
  have hpage : ((s₁.pol.upd f fun q => { q with migrating := true }).enq .dram_free_list f).page f
      = { s₁.pol.page f with migrating := true, list := some .dram_free_list } := by simp
  have hne : ∀ i, i ≠ f → ((s₁.pol.upd f fun q => { q with migrating := true }).enq
      .dram_free_list f).page i = s₁.pol.page i := fun i hi => by
    rw [Policy.enq_page_ne _ _ hi, Policy.upd_page_ne _ _ hi]
  have hva : ∀ i, (((s₁.pol.upd f fun q => { q with migrating := true }).enq .dram_free_list
      f).page i).va = (s.pol.page i).va := by
    intro i
    rw [← hf.step.va]
    rcases eq_or_ne i f with rfl | hi
    · rw [hpage]
    · rw [hne i hi]
  have hfix' : Fixed s.pol ((s₁.pol.upd f fun q => { q with migrating := true }).enq
      .dram_free_list f) :=
    ⟨by simp [hfix.npages], by simp [hfix.dramsize], by simp [hfix.disksize], by simp [hfix.pages]⟩
  refine ⟨idle_of ?_ (h.index.congr hfix' hva) fun i hi => ?_, hfix'.sameSize, fun _ hd => ?_,
    fun a c _ hat => ?_⟩
  · refine Inv.enq (hf.inv.upd hf.lt (f := fun q => { q with migrating := true }) (m := true)
      (n := (s₁.pol.page f).naccesses) rfl) hf.lt ?_ ?_
    · simp [hf.loose]
    · rw [Policy.upd_page_self]
      exact congrArg some hf.frame.symm
  · rw [hfix'.npages] at hi
    rcases eq_or_ne i f with rfl | hif
    · rw [hpage]
      exact ⟨fun hn => (nomatch hn), fun h0 => absurd (UserPage.role_frame.1 hf.frame).2 h0⟩
    · rw [hne i hif]
      exact hf.quiet h hi hif
  · refine (hf.step.data hd).app (by simp) (fun i => ?_) (AppStep.refl _)
    rcases eq_or_ne i f with rfl | hi
    · rw [hpage]
      exact ⟨rfl, rfl, rfl, rfl⟩
    · rw [hne i hi]
      exact ⟨rfl, rfl, rfl, rfl⟩
  · obtain ⟨q, hq, hr, hnone, hdis⟩ := hat
    obtain ⟨hsame, hqf⟩ := hf.away h hq hr
    obtain ⟨hnone', hdis'⟩ := hf.step.unmapped a hnone
    exact ⟨q, by rw [hfix'.pages]; exact hq, by rw [hne q hqf, hsame]; exact hr, hnone',
      hdis'.trans hdis⟩

section FirstUse

variable {s s₁ s' : State α} {f : PageId} {b : ℕ} {d : α}

theorem Fetched.reserve_eq_none (hf : Fetched s s₁ f) : (s₁.pol.page f).reserve = none :=
  hf.inv.reserve_eq_none hf.lt (by rw [hf.frame]; decide) (by rw [hf.frame]; decide)

/-- The page is entered into the index. -/
theorem Fetched.first_indexOk (h : Idle s.pol) (hf : Fetched s s₁ f) (hb : b ≠ 0)
    (hnew : s.pol.pages b = none) (e : FirstUse s₁.pol s'.pol f b)
    (hpages : s'.pol.pages = Function.update s₁.pol.pages b (some f)) : IndexOk s'.pol := by
  have hfix := hf.step.fixed
  refine (h.index.congr hfix hf.step.va).insert hb (by rw [hfix.pages]; exact hnew) hf.lt
    (UserPage.role_frame.1 hf.frame).2 hpages e.npages (by rw [e.page_f]) fun i hif => ?_
  rw [e.page_ne i hif]

/-- The new page is mapped, and the others keep their bytes. -/
theorem Fetched.first_data (h : Idle s.pol) (hf : Fetched s s₁ f) (hb : b ≠ 0)
    (hnew : s.pol.pages b = none) (e : FirstUse s₁.pol s'.pol f b) (hm : MappedIn s₁.mem s'.mem b d)
    (hd : DataOk s₁) : DataOk s' := by
  have hfres := hf.reserve_eq_none
  have hother : ∀ i, i < s₁.pol.npages → (s₁.pol.page i).va ≠ b := fun i hi => by
    rw [hf.step.va]
    exact h.index.va_ne hb hnew (hf.step.fixed.npages ▸ hi)
  have hrf : (s'.pol.page f).role = .resident := UserPage.role_resident.2 (by
    rw [e.page_f]
    exact ⟨(UserPage.role_frame.1 hf.frame).1, hb⟩)
  constructor
  · exact hm.io_fails hd.io
  · intro i hi hri
    rw [e.npages] at hi
    rcases eq_or_ne i f with rfl | hif
    · rw [e.page_f]
      refine ⟨_, hm.entry, fun r hres => ?_⟩
      rw [hfres] at hres
      cases hres
    · rw [e.page_ne i hif] at hri ⊢
      obtain ⟨x, hx, hback⟩ := hd.resident i hi hri
      obtain ⟨x', hx', ht⟩ := (hm.others _ (hother i hi)).2 x hx
      refine ⟨x', hx', fun r hres hclean => ?_⟩
      have hslot := hf.inv.reserveOf_resident hi hri hres
      have hrf' : r ≠ f := (hslot.ne_of_role (by rw [hf.frame]; decide)).symm
      rw [e.page_ne r hrf', hm.store, (ht.clean hclean).1]
      exact hback r hres (ht.clean hclean).2
  · intro i hi hri
    rw [e.npages] at hi
    have hif : i ≠ f := fun hif => by rw [hif, hrf] at hri; cases hri
    rw [e.page_ne i hif] at hri ⊢
    obtain ⟨hnone, c, hc, hdis⟩ := hd.evicted i hi hri
    rw [hm.store, hm.discarded]
    exact ⟨(hm.others _ (hother i hi)).1 hnone, c, hc, hdis⟩

/-- The frame is used for a new page at `b`, which is mapped with the bytes `d`. -/
theorem Fetched.first_use (h : Idle s.pol) (hf : Fetched s s₁ f) (hb : b ≠ 0)
    (hal : b % PAGE_SIZE = 0) (hnew : s.pol.pages b = none) (e : FirstUse s₁.pol s'.pol f b)
    (hpages : s'.pol.pages = Function.update s₁.pol.pages b (some f))
    (hm : MappedIn s₁.mem s'.mem b d) : Served s s' True fun _ => False := by
  have hfix := hf.step.fixed
  have hn : s'.pol.npages = s.pol.npages := e.npages.trans hfix.npages
  refine ⟨idle_of ?_ (hf.first_indexOk h hb hnew e hpages) fun i hi => ?_,
    hfix.sameSize.trans ⟨e.dramsize, e.disksize⟩,
    fun _ hd => hf.first_data h hb hnew e hm (hf.step.data hd), fun a c _ hat => ?_⟩
  · refine e.inv hf.inv hf.lt hf.frame hb hal fun i hi => ?_
    rw [hf.step.va]
    exact h.index.va_ne hb hnew (hfix.npages ▸ hi)
  · rw [hn] at hi
    rcases eq_or_ne i f with rfl | hif
    · rw [e.page_f]
      exact ⟨Option.some_ne_none _, fun _ => rfl⟩
    · rw [e.page_ne i hif]
      exact hf.quiet h hi hif
  · obtain ⟨q, hq, hr, hnone, hdis⟩ := hat
    obtain ⟨hsame, hqf⟩ := hf.away h hq hr
    obtain ⟨hnone', hdis'⟩ := hf.step.unmapped a hnone
    have hab : a ≠ b := fun hab => by
      rw [hab, hnew] at hq
      cases hq
    refine ⟨q, ?_, by rw [e.page_ne q hqf, hsame]; exact hr, (hm.others a hab).1 hnone', ?_⟩
    · rw [hpages, Function.update_of_ne hab, hfix.pages]
      exact hq
    · rw [hm.discarded]
      exact hdis'.trans hdis

end FirstUse

theorem lrudisk_pagefault_ends (fuel : ℕ) {s : State α} (h : Inv s.pol) :
    Ends ((lrudisk_pagefault fuel).run s)
      (fun f s' => ∃ s₁, Fetched s s₁ f ∧
        s' = ⟨s₁.pol.upd f fun p => { p with migrating := true }, s₁.mem⟩) (Short s.pol) := by
  rw [lrudisk_pagefault]
  refine Ends.bind (fetch_free_asynch_ends fuel s h) fun f s₁ hf => ?_
  exact Ends.of_eq (by simp) ⟨s₁, hf, rfl⟩

/-- The policy's state when the frame `f` has become the page at `b`, and is mapped. -/
def Policy.use_frame (P : Policy) (f : PageId) (b : ℕ) : Policy :=
  ((P.upd f fun p => { p with migrating := true, swapped_out := false, va := b }).setIndex b
    (some f)).upd f fun p => { p with migrating := false, swapped_out := false }

theorem Policy.use_frame_page_self {P : Policy} {f : PageId} {b : ℕ} :
    (P.use_frame f b).page f =
      { P.page f with va := b, swapped_out := false, migrating := false } := by
  simp [Policy.use_frame]

theorem Policy.first_use_spec {P : Policy} (h : P.WellLinked) {f : PageId} {b : ℕ}
    (hl : (P.page f).list = none) :
    FirstUse P (((P.use_frame f b).enq .inactive_list f).account PAGE_SIZE 0) f b := by
  have hused : (P.use_frame f b).WellLinked := (h.upd rfl).setIndex.upd rfl
  have hlinked : (((P.use_frame f b).enq .inactive_list f).account PAGE_SIZE 0).WellLinked :=
    (hused.enq (by rw [Policy.use_frame_page_self]; exact hl)).account
  refine ⟨by simp [Policy.use_frame], by simp [Policy.use_frame], by simp [Policy.use_frame],
    hlinked, ?_, fun i hi => ?_⟩
  · simp [Policy.use_frame_page_self]
  · simp [Policy.use_frame, Policy.upd_page_ne, Policy.enq_page_ne, hi]

/-- A first fault that got the frame `f`, on a page that nobody mapped in the meantime. -/
theorem run_first_fault_new {fuel b : ℕ} {s s₁ : State α} {f : PageId} (hb : b ≠ 0)
    (hal : b % PAGE_SIZE = 0) (hfetch : (fetch_free_asynch fuel).run s = .ok (f, s₁))
    (hframe : (s₁.pol.page f).role = .frame) (hloose : (s₁.pol.page f).list = none)
    (hnew : s₁.pol.pages b = none) (hc : ¬ s₁.mem.copy_refused b) :
    (handle_first_fault fuel b).run s = .ok ((),
      ⟨((s₁.pol.use_frame f b).enq .inactive_list f).account PAGE_SIZE 0,
        s₁.mem.copied b s₁.mem.page_cache⟩) := by
  obtain ⟨hfin, hfva⟩ := UserPage.role_frame.1 hframe
  have henq := run_enqueue_fifo (q := .inactive_list) (i := f)
    (s := ⟨s₁.pol.use_frame f b, s₁.mem.copied b s₁.mem.page_cache⟩)
    (by rw [Policy.use_frame_page_self]; exact hloose)
  simp only [Policy.use_frame] at henq
  rw [handle_first_fault, run_check_bind hb, lrudisk_pagefault]
  simp [hfetch, add_page, run_uffdio_copy, lrudisk_track_page, Policy.use_frame, Policy.upd_upd,
    hfva, hfin, hal, hnew, hc, hloose, henq]

/-- The page at `b` is tracked afterwards, and mapped with zeros if it was not before. -/
structure FirstFault (s s' : State α) (b : ℕ) : Prop where
  others : ∀ a, a ≠ b → s'.pol.pages a = s.pol.pages a
  tracked : s'.pol.pages b ≠ none
  zero : s.pol.pages b = none → s'.mem.pte b = some { data := s.mem.page_cache }
  page_cache : s'.mem.page_cache = s.mem.page_cache

/-- **First faults.** -/
theorem handle_first_fault_ends (fuel : ℕ) {s : State α} {b : ℕ} (h : Idle s.pol) (hb : b ≠ 0)
    (hal : b % PAGE_SIZE = 0) :
    Ends ((handle_first_fault fuel b).run s)
      (fun _ s' => Served s s' True (fun _ => False) ∧ FirstFault s s' b) (Short s.pol) := by
  have hends := fetch_free_asynch_ends fuel s h.inv
  rcases hfetch : (fetch_free_asynch fuel).run s with e | ⟨f, s₁⟩
  · refine Ends.of_throw (e := e) ?_ (hends.of_error hfetch)
    rw [handle_first_fault, run_check_bind hb, lrudisk_pagefault,
      run_bind_error (run_bind_error hfetch)]
  -- the frame is taken before the index is looked up
  have hf := hends.of_ok hfetch
  obtain ⟨hfin, hfva⟩ := UserPage.role_frame.1 hf.frame
  rcases hpage : s.pol.pages b with _ | p
  · -- a new page
    have hnew : s₁.pol.pages b = none := by rw [hf.step.fixed.pages]; exact hpage
    by_cases hc : s₁.mem.copy_refused b
    · refine Ends.of_throw (e := .uffdio_copy) ?_ (calm_uffdio_copy.short _)
      rw [handle_first_fault, run_check_bind hb, lrudisk_pagefault]
      simp [hfetch, add_page, run_uffdio_copy, Policy.upd_upd, hfva, hfin, hal, hnew, hc]
    · have hpages : (((s₁.pol.use_frame f b).enq .inactive_list f).account PAGE_SIZE 0).pages
          = Function.update s₁.pol.pages b (some f) := by simp [Policy.use_frame]
      refine Ends.of_eq (run_first_fault_new hb hal hfetch hf.frame hf.loose hnew hc)
        ⟨hf.first_use h hb hal hpage (Policy.first_use_spec hf.inv.linked hf.loose) hpages
          (Mem.copied_spec _ _ _), fun a hab => ?_, ?_, fun _ => ?_, ?_⟩
      · rw [hpages, Function.update_of_ne hab, hf.step.fixed.pages]
      · rw [hpages, Function.update_self]
        exact Option.some_ne_none f
      · rw [← hf.step.page_cache]
        exact (Mem.copied_spec _ _ _).entry
      · exact (Mem.copied_page_cache _ _ _).trans hf.step.page_cache
  · -- somebody was faster
    obtain ⟨hlt, hva, _⟩ := h.live hpage
    have hpf : p ≠ f := by
      rintro rfl
      rw [hf.step.va, hva] at hfva
      exact hb hfva
    have hmig : (s₁.pol.page p).migrating = false := by
      refine (hf.quiet h hlt hpf).2 ?_
      rw [hf.step.va, hva]
      exact hb
    have henq := run_enqueue_fifo (q := .dram_free_list) (i := f)
      (s := ⟨s₁.pol.upd f fun p => { p with migrating := true }, s₁.mem⟩) (by simp [hf.loose])
    refine Ends.of_eq (b := ()) ?_ ⟨hf.put_back h, fun a _ => ?_, ?_, fun hnone => ?_,
      hf.step.page_cache⟩
    · have hseen : s₁.pol.pages b = some p := by rw [hf.step.fixed.pages]; exact hpage
      rw [handle_first_fault, run_check_bind hb, lrudisk_pagefault]
      simp [hfetch, hseen, lrudisk_put_page_free, hf.loose, hfva, henq, Policy.upd_page_ne,
        Policy.enq_page_ne, hpf, hmig]
    · simp [hf.step.fixed.pages]
    · simp [hf.step.fixed.pages, hpage]
    · rw [hpage] at hnone
      cases hnone

end SwapPrefetch
