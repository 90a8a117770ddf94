/-
Coherence of the prefetch cache (`src/pointer_prefetch.c:191-398`).

A record keeps a copy of an evicted page. The copy is the right one as long as the page stays
evicted, and a major fault uses the record up, whether it is served from the cache or not. Three
things come between: a sequential prefetch brings the page in and leaves the record, `munmap`
drops the page and leaves the record, and after a hit the page is in no state that the policy knows
(see `hit_never_like_swapin`).

Up to the first hit the pager is at rest between the events, and every live record is that of a
page that is still evicted (`Cached`). After it, the run goes on with further hits, prefetches and
accesses of the application, which drop no mapping (`Coherent`).
-/
import Mathlib.Tactic
import SwapPrefetch.PrefetchRecords
import SwapPrefetch.PrefetchedContents

set_option autoImplicit false

namespace SwapPrefetch

open Prog

variable {α : Type}

/-! ## What holds between the events -/

/-- Every live record is that of an evicted page, and its buffer holds the bytes of the page. -/
def Cached (w : World α) : Prop :=
  ∀ va r, w.record va = some r → r.Live →
    EvictedAt w.pager va (w.prefetcher.remote r.remote_addr)

/-- The hits so far were right, and those to come will be: the slot of a page that is swapped out
and the buffer of a live record hold what was last evicted. Until the first hit the pager is at rest
and its contents are right. -/
structure Coherent (w : World α) : Prop where
  hits : ∀ h ∈ w.prefetcher.hits, h.last_evicted = some h.data
  slots : ∀ va p, w.pager.pol.pages va = some p → (w.pager.pol.page p).swapped_out = true →
    ∃ c, w.pager.mem.store (w.pager.pol.page p).virtual_offset = some c ∧
      w.pager.mem.discarded va = some c
  copies : ∀ va r, w.record va = some r → r.Live →
    w.pager.mem.discarded va = some (w.prefetcher.remote r.remote_addr)
  rest : w.prefetcher.hits = [] → Idle w.pager.pol ∧ DataOk w.pager ∧ Cached w

/-- A page at rest that is swapped out is evicted. -/
theorem Busy.evicted_of_swapped {P : Policy} {va : ℕ} {p : PageId} (h : Idle P)
    (hp : P.pages va = some p) (hsw : (P.page p).swapped_out = true) :
    (P.page p).role = .evicted := by
  obtain ⟨hlt, hva, h0⟩ := h.live hp
  have hl := h.swapped_list hlt (by rw [hva]; exact h0) (h.quiet p hlt (by simp)).1 hsw
  exact h.inv.role_of_list hl rfl

/-- Until the first hit, everything follows from the state at rest. -/
theorem Coherent.of_rest {w : World α} (hhits : w.prefetcher.hits = []) (h : Idle w.pager.pol)
    (hd : DataOk w.pager) (hcached : Cached w) : Coherent w where
  hits := by
    rw [hhits]
    exact fun _ hh => absurd hh List.not_mem_nil
  slots := by
    intro va p hp hsw
    obtain ⟨hlt, hva, -⟩ := h.live hp
    obtain ⟨-, c, hstore, hdis⟩ := hd.evicted p hlt (h.evicted_of_swapped hp hsw)
    rw [hva] at hdis
    exact ⟨c, hstore, hdis⟩
  copies := by
    intro va r hr hlive
    obtain ⟨p, -, -, -, hdis⟩ := hcached va r hr hlive
    exact hdis
  rest := fun _ => ⟨h, hd, hcached⟩

/-! ## Operations of the pager -/

/-- An operation that is not about the pages of live records. -/
def World.Spares (w : World α) (T : ℕ → Prop) : Prop :=
  ∀ r ∈ w.prefetcher.records, r.Live → ¬ T r.target_va

theorem World.record_mem {w : World α} {va : ℕ} {r : PrefetchRecord} (h : w.record va = some r) :
    r ∈ w.prefetcher.records ∧ r.target_va = va := by
  refine ⟨List.mem_of_find?_eq_some h, ?_⟩
  have htarget := List.find?_some h
  rw [decide_eq_true_eq] at htarget
  exact htarget

/-- **An operation of the pager** that leaves the evicted pages outside `T` as they were. -/
theorem Coherent.served {w : World α} {s' : State α} {K : Prop} {T : ℕ → Prop} (h : Coherent w)
    (hhits : w.prefetcher.hits = []) (hs : Served w.pager s' K T) (hd : DataOk s')
    (hspares : w.Spares T) : Coherent { w with pager := s' } := by
  obtain ⟨-, -, hcached⟩ := h.rest hhits
  refine Coherent.of_rest hhits hs.idle hd fun va r hr hlive => ?_
  obtain ⟨hmem, htarget⟩ := World.record_mem (show w.record va = some r from hr)
  refine hs.away va _ ?_ (hcached va r hr hlive)
  rw [← htarget]
  exact hspares r hmem hlive

/-- The bytes of the thread's buffer do not matter. -/
theorem Coherent.buffer {w : World α} (h : Coherent w) (b : α) :
    Coherent { w with pager := w.pager.retrieved b } := by
  refine ⟨h.hits, h.slots, h.copies, fun hhits => ?_⟩
  obtain ⟨hidle, hd, hcached⟩ := h.rest hhits
  exact ⟨hidle, hd.of_buffer b, hcached⟩

/-- The application runs. -/
theorem Coherent.app {w : World α} (h : Coherent w) {m : Mem α} (happ : AppStep w.pager.mem m) :
    Coherent { w with pager := ⟨w.pager.pol, m⟩ } := by
  refine ⟨h.hits, fun va p hp hsw => ?_, fun va r hr hlive => ?_, fun hhits => ?_⟩
  · obtain ⟨c, hstore, hdis⟩ := h.slots va p hp hsw
    refine ⟨c, ?_, ?_⟩
    · rw [← hstore]
      exact congrFun happ.rest.store _
    · rw [← hdis]
      exact congrFun happ.rest.discarded _
  · rw [← h.copies va r hr hlive]
    exact congrFun happ.rest.discarded _
  · obtain ⟨hidle, hd, hcached⟩ := h.rest hhits
    refine ⟨hidle, hd.app rfl (fun _ => ⟨rfl, rfl, rfl, rfl⟩) happ, fun va r hr hlive => ?_⟩
    obtain ⟨p, hp, hrole, hnone, hdis⟩ := hcached va r hr hlive
    refine ⟨p, hp, hrole, (happ.entry va).1 hnone, ?_⟩
    rw [← hdis]
    exact congrFun happ.rest.discarded _

/-! ## Faults -/

/-- A copy that fails changes no contents. -/
theorem DataOk.copy_failed {s : State α} (h : DataOk s) : DataOk ⟨s.pol, s.mem.copy_failed⟩ := by
  have happ : DataOk ⟨s.pol, s.mem.app_turn⟩ :=
    h.app rfl (fun _ => ⟨rfl, rfl, rfl, rfl⟩) s.mem.app_turn_appStep
  exact ⟨happ.io, happ.resident, happ.evicted⟩

theorem EvictedAt.copy_failed {s : State α} {a : ℕ} {c : α} (h : EvictedAt s a c) :
    EvictedAt ⟨s.pol, s.mem.copy_failed⟩ a c := by
  obtain ⟨p, hp, hrole, hnone, hdis⟩ := h
  refine ⟨p, hp, hrole, (s.mem.copy_failed_appStep a).1 hnone, ?_⟩
  rw [← hdis]
  exact congrFun s.mem.app_turn_appStep.rest.discarded a

/-- What is left of a major fault after a miss is a major fault of the pager. -/
theorem run_finish_major_fault (swapin : PageId → Proc α Unit) {P : Policy} (m : Mem α) {p : PageId}
    (hm : (P.page p).migrating = false) (hsw : (P.page p).swapped_out = true) :
    (finish_major_fault swapin p (P.page p).va).run
        ⟨P.upd p fun q => { q with migrating := true }, m⟩ = (major_fault swapin p).run ⟨P, m⟩ := by
  rw [major_fault, run_bind_ok (run_get_page _ _), run_bind_ok (run_get_page _ _),
    run_check_bind (by simp [hm]), run_bind_ok (run_get_page _ _), if_pos hsw,
    run_bind_ok (run_set_page _ _ _)]
  rfl

/-- The pager after a miss, without the mark on the page: the contents are as right as they were. -/
structure MissLeaves (w w' : World α) (p : PageId) : Prop where
  pol : w'.pager.pol = w.pager.pol.upd p fun q => { q with migrating := true }
  data : DataOk w.pager → DataOk ⟨w.pager.pol, w'.pager.mem⟩
  away : ∀ a c, EvictedAt w.pager a c → EvictedAt ⟨w.pager.pol, w'.pager.mem⟩ a c

theorem Missed.leaves {w w' : World α} {p : PageId} {va : ℕ} (h : Missed (w.claim p) w' va) :
    MissLeaves w w' p := by
  rcases h.pager with hpager | ⟨r, -, -, hpager⟩
  · constructor
    · rw [hpager]
      rfl
    · rw [hpager]
      exact fun hd => hd
    · rw [hpager]
      exact fun _ _ hat => hat
  · constructor
    · rw [hpager]
      rfl
    · rw [hpager]
      exact fun hd => (hd.of_buffer (w.prefetcher.remote r.remote_addr)).copy_failed
    · intro a c hat
      rw [hpager]
      have hat' : EvictedAt (w.pager.retrieved (w.prefetcher.remote r.remote_addr)) a c := hat
      exact hat'.copy_failed

/-- **A miss** is followed by a regular swap-in, and leaves no live record of the page. -/
theorem Coherent.miss {w w' w'' : World α} (h : Coherent w) (hhits : w.prefetcher.hits = [])
    {va fuel : ℕ} {p : PageId} (hp : w.pager.pol.pages va = some p)
    (hsw : (w.pager.pol.page p).swapped_out = true)
    (hmiss : Missed (w.claim p) w' (w.pager.pol.page p).va)
    (hrun : (on_pager (finish_major_fault (page_swapin fuel false) p
      (w.pager.pol.page p).va)).run w' = .ok ((), w'')) : Coherent w'' := by
  obtain ⟨hidle, hd, hcached⟩ := h.rest hhits
  obtain ⟨hlt, hva, h0⟩ := hidle.live hp
  have hmig := (hidle.quiet p hlt (by simp)).2 (by rw [hva]; exact h0)
  have hleaves := hmiss.leaves
  obtain ⟨s'', hfinish, rfl⟩ := on_pager_eq_ok hrun
  have hstate : w'.pager =
      ⟨w.pager.pol.upd p fun q => { q with migrating := true }, w'.pager.mem⟩ := by
    rw [← hleaves.pol]
  rw [hstate, run_finish_major_fault _ _ hmig hsw] at hfinish
  obtain ⟨hin, -⟩ := (major_fault_ends fuel false (s := ⟨w.pager.pol, w'.pager.mem⟩) hidle hlt
    (by rw [hva]; exact h0) hsw).of_ok hfinish
  refine Coherent.of_rest (hmiss.used.hits.trans hhits) hin.idle (hin.data rfl (hleaves.data hd)) ?_
  intro a r hr hlive
  -- the record of the page itself was used up
  have hne : a ≠ (w.pager.pol.page p).va := by
    rintro rfl
    exact hmiss.used.dead r hr hlive
  have hold : w.record a = some r := (hmiss.used.others a hne).symm.trans hr
  have hremote : w'.prefetcher.remote = w.prefetcher.remote := hmiss.used.remote
  show EvictedAt s'' a (w'.prefetcher.remote r.remote_addr)
  rw [hremote]
  exact hin.away a _ hne (hleaves.away a _ (hcached a r hold hlive))

/-- **A hit** is right, and so are those that follow. -/
theorem Coherent.hit {w w' w'' : World α} (h : Coherent w) {p : PageId} {r : PrefetchRecord}
    (hhit : HitServed (w.claim p) w' p r)
    (hrun : (on_pager (set_page p fun q => { q with swapped_out := false, migrating := false })).run
      w' = .ok ((), w'')) : Coherent w'' := by
  obtain ⟨s'', hset, rfl⟩ := on_pager_eq_ok hrun
  rw [run_set_page] at hset
  cases hset
  have hspec := Mem.copied_spec { w.pager.mem with
    buffer_space := w.prefetcher.remote r.remote_addr } ((w.claim p).pager.pol.page p).va
      (w.prefetcher.remote r.remote_addr)
  have hmem : w'.pager.mem = _ := hhit.mem
  have hstore : w'.pager.mem.store = w.pager.mem.store := by
    rw [hmem]
    exact hspec.store
  have hdis : w'.pager.mem.discarded = w.pager.mem.discarded := by
    rw [hmem]
    exact hspec.discarded
  -- the copy is right because the record was live
  have hright : w.pager.mem.discarded ((w.claim p).pager.pol.page p).va =
      some (w.prefetcher.remote r.remote_addr) := h.copies _ r hhit.record hhit.live
  refine ⟨?_, fun va q hq hsw => ?_, fun va r' hr' hlive => ?_, fun hhits => ?_⟩
  · intro hh hmem
    rw [show _ = w'.prefetcher.hits from rfl, hhit.hits, List.mem_cons] at hmem
    rcases hmem with rfl | hmem
    · exact hright
    · exact h.hits hh hmem
  · -- the page of the hit is not swapped out any more, and the others are as they were
    have hqp : q ≠ p := by
      rintro rfl
      rw [Policy.upd_page_self] at hsw
      cases hsw
    have hpages : w.pager.pol.pages va = some q := by
      rw [← hq, Policy.upd_pages, hhit.pol, Policy.upd_pages]
      rfl
    have hpage : w'.pager.pol.page q = w.pager.pol.page q := by
      rw [hhit.pol, Policy.upd_page_ne _ _ hqp]
      exact Policy.upd_page_ne w.pager.pol (fun q => { q with migrating := true }) hqp
    rw [Policy.upd_page_ne _ _ hqp, hpage] at hsw
    show ∃ c, w'.pager.mem.store _ = some c ∧ w'.pager.mem.discarded va = some c
    rw [Policy.upd_page_ne _ _ hqp, hpage, hstore, hdis]
    exact h.slots va q hpages hsw
  · -- the record of the page is used up, the others are as they were
    have hne : va ≠ ((w.claim p).pager.pol.page p).va := by
      rintro rfl
      exact hhit.dead r' hr' hlive
    have hold : w.record va = some r' := (hhit.others va hne).symm.trans hr'
    show w'.pager.mem.discarded va = some (w'.prefetcher.remote r'.remote_addr)
    rw [hdis, hhit.remote]
    exact h.copies va r' hold hlive
  · rw [show _ = w'.prefetcher.hits from rfl, hhit.hits] at hhits
    cases hhits

/-- The lookup for a page that is being claimed succeeds. -/
def World.lookup_hits (o : Channel) (p : PageId) (w : World α) : Bool :=
  match (handle_page_fault_with_prefetch o p).run (w.claim p) with
  | .ok (ret, _) => ret = 0
  | .error _ => false

/-- A fault that needs no swap-in: the page is not swapped out, or it is in the cache. -/
def World.FromCache (o : Channel) (addr : ℕ) (w : World α) : Prop :=
  ∃ p ∈ w.pager.pol.pages (boundary addr),
    (w.pager.pol.page p).swapped_out = false ∨ w.lookup_hits o p = true

/-- A page that is being moved makes the handler wait. -/
theorem handle_missing_fault_unmarked {o : Channel} {swapin : PageId → Proc α Unit} {w w' : World α}
    {p : PageId} (hrun : (handle_missing_fault o swapin p).run w = .ok ((), w')) :
    (w.pager.pol.page p).migrating = false := by
  rw [handle_missing_fault, run_bind_ok (run_on_pager (run_get_page _ p))] at hrun
  obtain ⟨_, w₁, hcheck, -⟩ := bind_eq_ok hrun
  obtain ⟨s₁, hcheck, -⟩ := on_pager_eq_ok hcheck
  rw [run_bind_ok (run_get_page _ p)] at hcheck
  have hnot := (check_eq_ok hcheck).1
  rw [Bool.not_eq_true] at hnot
  exact hnot

/-- **Major faults.** -/
theorem Coherent.major {w w'' : World α} (h : Coherent w) {o : Channel} {va fuel : ℕ} {p : PageId}
    (hp : w.pager.pol.pages va = some p) (hsw : (w.pager.pol.page p).swapped_out = true)
    (hguard : w.prefetcher.hits = [] ∨ w.lookup_hits o p = true)
    (hrun : (handle_missing_fault o (page_swapin fuel false) p).run w = .ok ((), w'')) :
    Coherent w'' := by
  have hm := handle_missing_fault_unmarked hrun
  have hva : ((w.claim p).pager.pol.page p).va = (w.pager.pol.page p).va := by
    have hclaim : (w.claim p).pager.pol =
        w.pager.pol.upd p fun q => { q with migrating := true } := rfl
    rw [hclaim, Policy.upd_page_self]
  rcases consult_cases o p (w.claim p) with ⟨w', hlookup, hmiss⟩ | ⟨r, w', hlookup, hhit⟩
  · have hhits : w.prefetcher.hits = [] := by
      rcases hguard with hnone | hcache
      · exact hnone
      · rw [World.lookup_hits, hlookup] at hcache
        cases hcache
    rw [run_handle_missing_fault hm hsw hlookup, if_neg (by decide)] at hrun
    rw [hva] at hmiss
    exact h.miss hhits hp hsw hmiss hrun
  · rw [run_handle_missing_fault hm hsw hlookup, if_pos rfl] at hrun
    exact h.hit hhit hrun

/-- **Faults.** -/
theorem Coherent.handler {w w'' : World α} (h : Coherent w) {o : Channel} {fuel addr : ℕ}
    (haddr : ¬ addr < PAGE_SIZE) (hguard : w.prefetcher.hits = [] ∨ w.FromCache o addr)
    (hrun : (uswap_sig_handler_with_prefetch o fuel (page_swapin fuel false) addr).run w =
      .ok ((), w'')) : Coherent w'' := by
  rw [uswap_sig_handler_with_prefetch, run_bind_ok (run_on_pager (run_find_page _ _))] at hrun
  rcases hb : w.pager.pol.pages (boundary addr) with _ | p
  · have hhits : w.prefetcher.hits = [] := by
      rcases hguard with hnone | ⟨p, hp, -⟩
      · exact hnone
      · rw [hb] at hp
        cases hp
    rw [show w.pager.pol.pages (addr - addr % PAGE_SIZE) = none from hb] at hrun
    obtain ⟨hidle, hd, -⟩ := h.rest hhits
    obtain ⟨s', hfirst, rfl⟩ := on_pager_eq_ok hrun
    have hs := ((handle_first_fault_ends fuel hidle (boundary_ne_zero haddr)
      (boundary_aligned addr)).of_ok hfirst).1
    exact h.served hhits hs (hs.data trivial hd) fun _ _ _ hf => hf
  · rw [show w.pager.pol.pages (addr - addr % PAGE_SIZE) = some p from hb] at hrun
    simp only at hrun
    rw [run_bind_ok (run_on_pager (run_get_page _ p))] at hrun
    by_cases hsw : (w.pager.pol.page p).swapped_out = true
    · rw [if_pos hsw] at hrun
      refine h.major hb hsw (hguard.imp_right ?_) hrun
      rintro ⟨q, hq, hcache⟩
      obtain rfl : p = q := Option.some.inj (hb.symm.trans hq)
      exact hcache.resolve_left fun hno => by rw [hsw] at hno; cases hno
    · -- the page is mapped, and the handler only waits until it is not being moved
      rw [if_neg hsw] at hrun
      obtain ⟨s', hwait, rfl⟩ := on_pager_eq_ok hrun
      rw [handle_wp_fault, run_bind_ok (run_get_page _ p)] at hwait
      obtain ⟨-, rfl⟩ := check_eq_ok hwait
      exact h

/-! ## Prefetches -/

/-- The buffer that the call allocates is not that of a live record. -/
def World.Fresh (o : Channel) (w : World α) : Prop :=
  ∀ a ∈ o.allocate, ∀ r ∈ w.prefetcher.records, r.Live → r.remote_addr ≠ a

/-- Only the record for `va`, the buffers and the outcomes of requests changed. -/
structure Aside (va : ℕ) (w w' : World α) : Prop where
  pol : w'.pager.pol = w.pager.pol
  pte : w'.pager.mem.pte = w.pager.mem.pte
  store : w'.pager.mem.store = w.pager.mem.store
  discarded : w'.pager.mem.discarded = w.pager.mem.discarded
  io_fails : w.pager.mem.env.io_fails = [] → w'.pager.mem.env.io_fails = []
  hits : w'.prefetcher.hits = w.prefetcher.hits
  others : ∀ a, a ≠ va → w'.record a = w.record a

theorem Aside.refl (va : ℕ) (w : World α) : Aside va w w :=
  ⟨rfl, rfl, rfl, rfl, id, rfl, fun _ _ => rfl⟩

theorem Aside.trans {va : ℕ} {w w' w'' : World α} (h : Aside va w w') (h' : Aside va w' w'') :
    Aside va w w'' :=
  ⟨h'.pol.trans h.pol, h'.pte.trans h.pte, h'.store.trans h.store, h'.discarded.trans h.discarded,
    fun hio => h'.io_fails (h.io_fails hio), h'.hits.trans h.hits,
    fun a ha => (h'.others a ha).trans (h.others a ha)⟩

theorem Aside.setRecord {f : PrefetchRecord → PrefetchRecord} {va : ℕ} (w : World α)
    (hf : ∀ r, (f r).target_va = r.target_va) : Aside va w (w.setRecord va f) :=
  ⟨rfl, rfl, rfl, rfl, id, rfl, fun _ ha => World.record_setRecord_ne hf ha⟩

/-- What `async_prefetch_page` did: if the record for `va` is live and new, its buffer holds what
was in the slot of the page, which is swapped out. -/
structure CopyMade (o : Channel) (va : ℕ) (w w' : World α) : Prop extends Aside va w w' where
  remote : ∀ a, o.allocate ≠ some a → w'.prefetcher.remote a = w.prefetcher.remote a
  live : ∀ r, w'.record va = some r → r.Live →
    (w.record va = some r ∧ w'.prefetcher.remote = w.prefetcher.remote) ∨
      ∃ p, w.pager.pol.pages va = some p ∧ (w.pager.pol.page p).swapped_out = true ∧
        w.pager.mem.store (w.pager.pol.page p).virtual_offset =
          some (w'.prefetcher.remote r.remote_addr)

/-- **A prefetch** with a fresh buffer. -/
theorem Coherent.copied {w w' : World α} {o : Channel} {va : ℕ} (h : Coherent w)
    (hfresh : w.Fresh o) (e : CopyMade o va w w') : Coherent w' := by
  -- the buffers of the other live records are as they were
  have hkept : ∀ a r, w.record a = some r → r.Live →
      w'.prefetcher.remote r.remote_addr = w.prefetcher.remote r.remote_addr := by
    intro a r hr hlive
    refine e.remote _ fun ha => ?_
    exact hfresh _ ha r (World.record_mem hr).1 hlive rfl
  refine ⟨?_, ?_, fun a r hr hlive => ?_, fun hhits => ?_⟩
  · rw [e.hits]
    exact h.hits
  · rw [e.pol, e.store, e.discarded]
    exact h.slots
  · rw [e.discarded]
    by_cases ha : a = va
    · subst ha
      rcases e.live r hr hlive with ⟨hold, hremote⟩ | ⟨p, hp, hsw, hstore⟩
      · rw [hremote]
        exact h.copies a r hold hlive
      · obtain ⟨c, hc, hdis⟩ := h.slots a p hp hsw
        rw [hdis, ← hc, hstore]
    · have hold : w.record a = some r := (e.others a ha).symm.trans hr
      rw [hkept a r hold hlive]
      exact h.copies a r hold hlive
  · rw [e.hits] at hhits
    obtain ⟨hidle, hd, hcached⟩ := h.rest hhits
    have hidle' : Idle w'.pager.pol := by
      rw [e.pol]
      exact hidle
    have hat : ∀ a c, EvictedAt w.pager a c → EvictedAt w'.pager a c := by
      rintro a c ⟨p, hp, hrole, hnone, hdis⟩
      exact ⟨p, by rw [e.pol]; exact hp, by rw [e.pol]; exact hrole, by rw [e.pte]; exact hnone,
        by rw [e.discarded]; exact hdis⟩
    refine ⟨hidle', ⟨e.io_fails hd.io, ?_, ?_⟩, fun a r hr hlive => hat a _ ?_⟩
    · rw [e.pol, e.pte, e.store]
      exact hd.resident
    · rw [e.pol, e.pte, e.store, e.discarded]
      exact hd.evicted
    · by_cases ha : a = va
      · subst ha
        rcases e.live r hr hlive with ⟨hold, hremote⟩ | ⟨p, hp, hsw, hstore⟩
        · rw [hremote]
          exact hcached a r hold hlive
        · obtain ⟨hlt, hva, -⟩ := hidle.live hp
          have hrole := hidle.evicted_of_swapped hp hsw
          obtain ⟨hnone, c, hc, hdis⟩ := hd.evicted p hlt hrole
          rw [hva] at hnone hdis
          refine ⟨p, hp, hrole, hnone, ?_⟩
          rw [hdis, ← hc, hstore]
      · have hold : w.record a = some r := (e.others a ha).symm.trans hr
        rw [hkept a r hold hlive]
        exact hcached a r hold hlive

/-! ### The calls -/

theorem Aside.io_done (va : ℕ) (w : World α) : Aside va w w.io_done := by
  refine ⟨rfl, rfl, rfl, rfl, fun hio => ?_, rfl, fun _ _ => rfl⟩
  show w.pager.mem.env.io_fails.tail = []
  rw [hio]
  rfl

theorem Aside.fill (va : ℕ) (w : World α) (a : ℕ) (data : α) : Aside va w (w.fill a data) :=
  ⟨rfl, rfl, rfl, rfl, id, rfl, fun _ _ => rfl⟩

/-- **A transfer** changes the record and the buffer only. -/
theorem Transfers.aside {o : Channel} {page : PageId} {a va : ℕ} {w w' : World α} {ret : ℤ}
    (h : Transfers o page a va w ret w') : Aside va w w' := by
  have hdone := Aside.io_done va w
  cases h with
  | no_page => exact .refl va w
  | unread => exact hdone
  | unsent => exact hdone.trans (.setRecord _ fun _ => rfl)
  | @sent data slot =>
      have hnoted : Aside va w
          (w.io_done.setRecord va fun r => { r with rdma_request_id := o.write_id }) :=
        hdone.trans (.setRecord _ fun _ => rfl)
      exact (hnoted.trans (.fill va _ a data)).trans (.setRecord _ fun _ => rfl)

/-- One that fails leaves the buffers alone. -/
theorem Transfers.remote_of_failed {o : Channel} {page : PageId} {a va : ℕ} {w w' : World α}
    {ret : ℤ} (h : Transfers o page a va w ret w') (hret : ret ≠ 0) :
    w'.prefetcher.remote = w.prefetcher.remote := by
  cases h with
  | no_page => rfl
  | unread => rfl
  | unsent => rfl
  | sent slot => exact absurd rfl hret

/-- One that succeeds has put the bytes of the slot into the buffer. -/
theorem Transfers.remote_of_sent {o : Channel} {page : PageId} {a va : ℕ} {w w' : World α}
    (h : Transfers o page a va w 0 w') :
    ∃ data, w.pager.mem.store (w.pager.pol.page page).virtual_offset = some data ∧
      w'.prefetcher.remote = Function.update w.prefetcher.remote a data := by
  cases h with
  | sent slot => exact ⟨_, slot, rfl⟩

/-- The record keeps its buffer. -/
theorem Transfers.record {o : Channel} {page : PageId} {a va : ℕ} {w w' : World α} {ret : ℤ}
    (h : Transfers o page a va w ret w') {r r' : PrefetchRecord} (hr : w.record va = some r)
    (hr' : w'.record va = some r') : r'.remote_addr = r.remote_addr := by
  obtain ⟨l, rest, hspot⟩ := exists_spot hr
  obtain ⟨r₁, hspot₁, haddr, -⟩ := h.spot hspot
  obtain rfl : r₁ = r' := Option.some.inj (hspot₁.find.symm.trans hr')
  exact haddr

/-- What is left of the record for `va` when no copy was made. -/
theorem CopyMade.of_dead {o : Channel} {va : ℕ} {w w' : World α} (h : Aside va w w')
    (hremote : w'.prefetcher.remote = w.prefetcher.remote)
    (hdead : ∀ r, w'.record va = some r → ¬ r.Live) : CopyMade o va w w' :=
  ⟨h, fun a _ => congrFun hremote a, fun r hr hlive => absurd hlive (hdead r hr)⟩

/-- A call that stops early makes no copy. -/
theorem CopyMade.refl (o : Channel) (va : ℕ) (w : World α) : CopyMade o va w w :=
  ⟨.refl va w, fun _ _ => rfl, fun _ hr _ => Or.inl ⟨hr, rfl⟩⟩

/-- **The end of `async_prefetch_page`**, for the page at `va`. -/
theorem UsesBuffer.copyMade {o : Channel} {va a : ℕ} {w w' : World α} {r : PrefetchRecord}
    (h : UsesBuffer o (w.pager.pol.pages va) va a w w') (ha : o.allocate = some a)
    (hr : w.record va = some r) : CopyMade o va w w' := by
  have hrequested : Aside va w (w.requested va a) := .setRecord w fun _ => rfl
  cases h with
  | refused =>
      refine .of_dead ?_ rfl fun r' hr' => PrefetchRecord.not_live_of_failed ?_
      · have hfreed : Aside va w { w.requested va a with prefetcher :=
            { (w.requested va a).prefetcher with
              freed := a :: (w.requested va a).prefetcher.freed } } :=
          hrequested.trans ⟨rfl, rfl, rfl, rfl, id, rfl, fun _ _ => rfl⟩
        exact hfreed.trans (.setRecord _ fun _ => rfl)
      · obtain ⟨r₀, rfl⟩ := World.of_record_setRecord hr' fun _ => rfl
        rfl
  | failed existing transfer ret_ne =>
      refine .of_dead ((hrequested.trans transfer.aside).trans (.setRecord _ fun _ => rfl))
        (transfer.remote_of_failed ret_ne) fun r' hr' => PrefetchRecord.not_live_of_failed ?_
      obtain ⟨r₀, rfl⟩ := World.of_record_setRecord hr' fun _ => rfl
      rfl
  | @sent page _ existing swapped transfer =>
      obtain ⟨data, hslot, hremote⟩ := transfer.remote_of_sent
      refine ⟨hrequested.trans transfer.aside, fun b hb => ?_,
        fun r' hr' _ => Or.inr ⟨page, existing, swapped, ?_⟩⟩
      · have hba : b ≠ a := fun hab => hb (hab ▸ ha)
        rw [hremote, Function.update_of_ne hba]
        rfl
      · -- the record has the buffer that was filled
        have hnew : (w.requested va a).record va =
            some { r with remote_addr := a, status := .REQUESTED } := by
          rw [World.requested, World.record_setRecord_self, hr]
          · rfl
          · exact fun _ => rfl
        rw [hremote, transfer.record hnew hr', Function.update_self]
        exact hslot

/-- **`request_buffer`.** -/
theorem Requests.copyMade {o : Channel} {va source_va : ℕ} {w w' : World α} {ret : ℤ}
    (h : Requests o (w.pager.pol.pages va) va source_va w ret w') : CopyMade o va w w' := by
  cases h with
  | available record avail => exact .refl o va w
  | no_buffer stale allocate => exact .refl o va w
  | no_record record allocate =>
      refine .of_dead ⟨rfl, rfl, rfl, rfl, id, rfl, fun _ _ => rfl⟩ rfl fun r hr => ?_
      exact absurd (record.symm.trans hr) (Option.some_ne_none r).symm
  | @added a _ _ record allocate uses =>
      -- the copy is made for the new record, which is the first of the list
      let new : PrefetchRecord :=
        { source_va := source_va, target_va := va, pointer_value := va, timestamp := o.timestamp }
      have hnew : (w.add_record new).record va = some new :=
        List.find?_cons_of_pos (by simp [new])
      have haside : Aside va w (w.add_record new) := by
        refine ⟨rfl, rfl, rfl, rfl, id, rfl, fun b hb => ?_⟩
        exact List.find?_cons_of_neg (by simpa [new] using hb.symm)
      have hmade := uses.copyMade allocate hnew
      refine ⟨haside.trans hmade.toAside, hmade.remote, fun r hr hlive => ?_⟩
      rcases hmade.live r hr hlive with ⟨hold, -⟩ | hcopy
      · obtain rfl : new = r := Option.some.inj (hnew.symm.trans hold)
        exact absurd hlive (by simp [PrefetchRecord.Live, new])
      · exact Or.inr hcopy
  | reused record stale allocate uses => exact uses.copyMade allocate record

/-- **`async_prefetch_page`.** -/
theorem async_prefetch_page_copies (o : Channel) (va source_va : ℕ) (w : World α) :
    ∃ ret w', (async_prefetch_page o va source_va).run w = .ok (ret, w') ∧ CopyMade o va w w' := by
  rcases async_prefetch_page_requests o va source_va w with ⟨-, hrun⟩ | ⟨-, ret, w', hrun, hrequests⟩
  · exact ⟨0, w, hrun, .refl o va w⟩
  · exact ⟨ret, w', hrun, hrequests.copyMade⟩

/-! ## Orderly runs -/

/-- What an event may do. A fault swaps in synchronously; an operation of the pager drops or brings
in no page that has a live record, and a sequential prefetch copies without failure; a new buffer is
not in use. After the first hit, only the cache, the prefetches and the application go on. -/
def Event.Orderly (fuel : ℕ) (w : World α) : Event α → Prop
  | .pager (.fault addr async buffer) o =>
      async = false ∧ (w.prefetcher.hits = [] ∨
        World.FromCache o addr { w with pager := w.pager.retrieved buffer })
  | .pager (.app _) _ => True
  | .pager (.try_prefetch base) _ =>
      w.prefetcher.hits = [] ∧ w.Spares (Window base CORE_PREFETCH_RATE) ∧
        ∀ c ∈ prefetch_copies fuel base w.pager, c.failed = false
  | .pager op _ => w.prefetcher.hits = [] ∧ w.Spares op.targets
  | .async_prefetch_page _ _ o => w.Fresh o

/-- **An operation of the pager** but for faults and sequential prefetches. -/
theorem Coherent.op {w w' : World α} (h : Coherent w) {fuel : ℕ} (op : Op α) (hscalar : op.Scalar)
    (hhits : w.prefetcher.hits = []) (hspares : w.Spares op.targets)
    (hrun : (on_pager (op.exec fuel)).run w = .ok ((), w')) : Coherent w' := by
  obtain ⟨s', hexec, rfl⟩ := on_pager_eq_ok hrun
  obtain ⟨hidle, hd, -⟩ := h.rest hhits
  have hs := (Op.exec_ends fuel op hidle).of_ok hexec
  exact h.served hhits hs (hs.data hscalar hd) hspares

/-- **A sequential prefetch.** -/
theorem Coherent.try_prefetch {w w' : World α} (h : Coherent w) {fuel base : ℕ}
    (hhits : w.prefetcher.hits = []) (hspares : w.Spares (Window base CORE_PREFETCH_RATE))
    (hcopies : ∀ c ∈ prefetch_copies fuel base w.pager, c.failed = false)
    (hrun : (on_pager (Op.exec fuel (.try_prefetch base))).run w = .ok ((), w')) : Coherent w' := by
  obtain ⟨s', hexec, rfl⟩ := on_pager_eq_ok hrun
  obtain ⟨hidle, hd, -⟩ := h.rest hhits
  have hs := (Op.exec_ends fuel (.try_prefetch base) hidle).of_ok hexec
  refine h.served hhits hs ?_ hspares
  rw [Op.exec] at hexec
  by_cases hbase : base = 0
  · rw [if_pos hbase] at hexec
    cases hexec
    exact hd
  · rw [if_neg hbase] at hexec
    obtain ⟨k, s₁, hprefetch, hpure⟩ := bind_eq_ok hexec
    cases hpure
    exact core_try_prefetch_data hidle hd hcopies hprefetch

/-- **One event.** -/
theorem Coherent.event {w w' : World α} (h : Coherent w) {fuel : ℕ} {e : Event α}
    (horderly : e.Orderly fuel w) (hrun : (e.exec fuel).run w = .ok ((), w')) : Coherent w' := by
  cases e with
  | async_prefetch_page va source_va o =>
      obtain ⟨ret, w₁, hcopy, hmade⟩ := async_prefetch_page_copies o va source_va w
      rw [Event.exec, run_bind_ok hcopy] at hrun
      cases hrun
      exact h.copied horderly hmade
  | pager op o =>
      cases op with
      | fault addr async buffer =>
          obtain ⟨rfl, hguard⟩ := horderly
          rw [Event.exec] at hrun
          by_cases haddr : addr < PAGE_SIZE
          · rw [if_pos haddr] at hrun
            cases hrun
            exact h
          · rw [if_neg haddr, run_bind_ok (run_on_pager (run_modify_mem _ _))] at hrun
            exact (h.buffer buffer).handler haddr hguard hrun
      | app accesses =>
          obtain ⟨s', hexec, rfl⟩ := on_pager_eq_ok (show (on_pager _).run w = _ from hrun)
          rw [Op.exec, run_modify_mem] at hexec
          cases hexec
          exact h.app (Mem.accesses_appStep accesses w.pager.mem)
      | try_prefetch base => exact h.try_prefetch horderly.1 horderly.2.1 horderly.2.2 hrun
      | populate addr =>
          exact h.op (.populate addr) trivial horderly.1 horderly.2 hrun
      | evict => exact h.op .evict trivial horderly.1 horderly.2 hrun
      | kswapd nr_pages priority =>
          exact h.op (.kswapd nr_pages priority) trivial horderly.1 horderly.2 hrun
      | shrink_active nr_pages =>
          exact h.op (.shrink_active nr_pages) trivial horderly.1 horderly.2 hrun
      | shrink_inactive nr_pages =>
          exact h.op (.shrink_inactive nr_pages) trivial horderly.1 horderly.2 hrun
      | munmap addr length =>
          exact h.op (.munmap addr length) trivial horderly.1 horderly.2 hrun

/-- The state in which a computation returns. -/
def final {β : Type} (m : WProc α β) (w : World α) : Option (World α) :=
  (m.run w).toOption.map Prod.snd

theorem mem_final {β : Type} {m : WProc α β} {w w' : World α} {b : β} (h : m.run w = .ok (b, w')) :
    w' ∈ final m w := by
  rw [final, h]
  rfl

/-- Every event of a run is orderly in the state it starts from. -/
def OrderlyFrom : List (ℕ × Event α) → World α → Prop
  | [], _ => True
  | x :: r, w => x.2.Orderly x.1 w ∧ ∀ w' ∈ final (x.2.exec x.1) w, OrderlyFrom r w'

/-- **A run of events.** -/
theorem Coherent.run (r : List (ℕ × Event α)) {w w' : World α} (h : Coherent w)
    (horderly : OrderlyFrom r w) (hrun : (exec_events r).run w = .ok ((), w')) : Coherent w' := by
  induction r generalizing w with
  | nil =>
      cases hrun
      exact h
  | cons x r ih =>
      obtain ⟨⟨⟩, w₁, hfirst, hrest⟩ := bind_eq_ok (show (x.2.exec x.1 >>= fun _ =>
        exec_events r).run w = _ from hrun)
      exact ih (h.event horderly.1 hfirst) (horderly.2 w₁ (mem_final hfirst)) hrest

/-- **The first state.** -/
theorem Coherent.init {dramsize disksize : ℕ} {zero : α} {env : Env α} {w : World α}
    (hio : env.io_fails = [])
    (hinit : (on_pager lrudisk_init).run (World.blank dramsize disksize zero env) = .ok ((), w)) :
    Coherent w := by
  obtain ⟨s, hstart, rfl⟩ := on_pager_eq_ok hinit
  obtain ⟨h₀, -, -, hmem⟩ := (lrudisk_init_ends dramsize disksize zero env).of_ok hstart
  refine Coherent.of_rest rfl h₀.idle ⟨?_, fun i _ hr => ?_, fun i _ hr => ?_⟩ fun va r hr => ?_
  · show s.mem.env.io_fails = []
    rw [hmem]
    exact hio
  · exact absurd (h₀.va i) (UserPage.role_resident.1 hr).2
  · exact absurd (h₀.va i) (UserPage.role_evicted.1 hr).2
  · exact absurd hr.symm (Option.some_ne_none r)

instance (b n a : ℕ) : Decidable (Window b n a) :=
  decidable_of_iff (∃ k ∈ List.range' 1 n, a = (b + k * PAGE_SIZE) % 2 ^ 64)
    (exists_congr fun k => by rw [List.mem_range'_1, and_assoc, Nat.add_comm 1 n, Nat.lt_succ_iff])

instance (op : Op α) : DecidablePred op.targets := fun a =>
  match op with
  | .fault addr _ _ => inferInstanceAs (Decidable (a = boundary addr))
  | .try_prefetch base => inferInstanceAs (Decidable (Window base CORE_PREFETCH_RATE a))
  | .munmap addr length => inferInstanceAs (Decidable (addr ≤ a ∧ a < addr + length))
  | .populate _ => isFalse id
  | .evict => isFalse id
  | .kswapd _ _ => isFalse id
  | .shrink_active _ => isFalse id
  | .shrink_inactive _ => isFalse id
  | .app _ => isFalse id

instance (w : World α) (T : ℕ → Prop) [DecidablePred T] : Decidable (w.Spares T) :=
  inferInstanceAs (Decidable (∀ r ∈ w.prefetcher.records, r.Live → ¬ T r.target_va))

instance (o : Channel) (addr : ℕ) (w : World α) : Decidable (w.FromCache o addr) :=
  inferInstanceAs (Decidable (∃ p ∈ _, _ ∨ _))

instance (o : Channel) (w : World α) : Decidable (w.Fresh o) :=
  inferInstanceAs (Decidable (∀ a ∈ o.allocate, ∀ r ∈ w.prefetcher.records,
    r.Live → r.remote_addr ≠ a))

instance decidableEventOrderly (fuel : ℕ) (w : World α) (e : Event α) :
    Decidable (e.Orderly fuel w) :=
  match e with
  | .pager (.fault _ _ _) _ => inferInstanceAs (Decidable (_ ∧ (_ ∨ World.FromCache _ _ _)))
  | .pager (.try_prefetch base) _ =>
      inferInstanceAs (Decidable (_ ∧ World.Spares _ _ ∧
        ∀ c ∈ prefetch_copies fuel base w.pager, c.failed = false))
  | .pager (.app _) _ => isTrue trivial
  | .pager (.populate _) _ => inferInstanceAs (Decidable (_ ∧ World.Spares _ _))
  | .pager .evict _ => inferInstanceAs (Decidable (_ ∧ World.Spares _ _))
  | .pager (.kswapd _ _) _ => inferInstanceAs (Decidable (_ ∧ World.Spares _ _))
  | .pager (.shrink_active _) _ => inferInstanceAs (Decidable (_ ∧ World.Spares _ _))
  | .pager (.shrink_inactive _) _ => inferInstanceAs (Decidable (_ ∧ World.Spares _ _))
  | .pager (.munmap _ _) _ => inferInstanceAs (Decidable (_ ∧ World.Spares _ _))
  | .async_prefetch_page _ _ _ => inferInstanceAs (Decidable (World.Fresh _ _))

instance decidableOrderlyFrom :
    ∀ (r : List (ℕ × Event α)) (w : World α), Decidable (OrderlyFrom r w)
  | [], _ => isTrue trivial
  | x :: r, w =>
      have := decidableOrderlyFrom r
      inferInstanceAs (Decidable (x.2.Orderly x.1 w ∧
        ∀ w' ∈ final (x.2.exec x.1) w, OrderlyFrom r w'))

/-- A page is evicted with `7` and prefetched, and a fault finds it in the cache. -/
def evictThenHit : List (ℕ × Event ℕ) :=
  [(1, .pager (.fault 8192 false 0) {}), (1, .pager (.app [.write 8192 7]) {}),
    (1, .pager (.shrink_inactive 1) {}), (1, .pager .evict {}),
    (1, .async_prefetch_page 8192 4096 { allocate := some SIM_REMOTE_MEMORY_BASE }),
    (1, .pager (.fault 8192 false 0) {})]

theorem evictThenHit_evaluates : passes (fun w : World ℕ =>
    decide (w.prefetcher.hits.map (fun h => h.data) = [7]))
    ((do on_pager lrudisk_init; exec_events evictThenHit : WProc ℕ Unit).run
      (World.blank 4096 8192 0 {})) = true := by decide +kernel

theorem evictThenHit_orderly :
    ∀ w₀ ∈ final (on_pager lrudisk_init) (World.blank 4096 8192 (0 : ℕ) {}),
      OrderlyFrom evictThenHit w₀ := by decide +kernel

/-- The page is unmapped after it was prefetched. The same address is mapped anew, overwritten with
`9` and evicted again, and the record is still there. -/
def remappedAfterPrefetch : List (ℕ × Event ℕ) :=
  [(1, .pager (.fault 8192 false 0) {}), (1, .pager (.app [.write 8192 7]) {}),
    (1, .pager (.shrink_inactive 1) {}), (1, .pager .evict {}),
    (1, .async_prefetch_page 8192 4096 { allocate := some SIM_REMOTE_MEMORY_BASE }),
    (1, .pager (.munmap 8192 4096) {}), (1, .pager (.fault 8192 false 0) {}),
    (1, .pager (.app [.write 8192 9]) {}), (1, .pager (.shrink_inactive 1) {}),
    (1, .pager .evict {}), (1, .pager (.fault 8192 false 0) {})]

theorem remappedAfterPrefetch_evaluates : passes (fun w : World ℕ =>
    decide (w.prefetcher.hits.map (fun h => (h.data, h.last_evicted)) = [(7, some 9)]))
    ((do on_pager lrudisk_init; exec_events remappedAfterPrefetch : WProc ℕ Unit).run
      (World.blank 4096 8192 0 {})) = true := by decide +kernel

end SwapPrefetch
