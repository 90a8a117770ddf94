/-
What the threads of the pager rely on while they work on a page struct.

Four fields of a struct decide who may work on it: its address, its list and the flags
`swapped_out` and `migrating`; to these comes whether the page index has the struct (`Face`). A
thread holds a struct in one of several capacities (`Hold`), each of which relies on some of these
fields. Few of them go together: a thread that has only looked a page up does not mind what others
do with it; the last assignment of an eviction may still be outstanding (`stale`) when the page is
claimed again; and `munmap` may claim a page that a scan is about to put back on a list.

`Pc.held` lists what a thread holds at each point of its program, and `Good` says that all threads
together follow these rules.
-/
import Mathlib.Tactic
import SwapPrefetch.Holdings
import SwapPrefetch.Invariant
import SwapPrefetch.Threads

set_option autoImplicit false

namespace SwapPrefetch

open Prog Holdings

/-! ## Faces -/

/-- What decides who may work on a struct. -/
structure Face where
  va : ℕ
  list : Option ListId
  swapped_out : Bool
  migrating : Bool
  /-- the page index has the struct under its address -/
  indexed : Bool

def UserPage.face (p : UserPage) (indexed : Bool) : Face :=
  ⟨p.va, p.list, p.swapped_out, p.migrating, indexed⟩

def Policy.face (P : Policy) (i : PageId) : Face :=
  (P.page i).face (P.pages (P.page i).va = some i)

/-- The lists of resident pages. -/
def ListId.lru : ListId → Bool
  | .active_list => true
  | .inactive_list => true
  | .eviction_list => true
  | _ => false

/-- The lists of free frames, free slots and reserves. -/
def ListId.spare : ListId → Bool
  | .dram_free_list => true
  | .disk_free_list => true
  | .disk_reserve_list => true
  | _ => false

/-- The struct is on a list of resident pages. -/
def Face.Lru (f : Face) : Prop := ∃ l, f.list = some l ∧ l.lru = true

/-- What holds of every struct. A page on `inactive_list` may still be on its way in. -/
structure Face.Base (f : Face) : Prop where
  spare : ∀ l, f.list = some l → l.spare = true → f.va = 0
  mapped : ∀ l, f.list = some l → l.lru = true ∨ l = .disk_active_list → f.va ≠ 0
  resident : ∀ l, f.list = some l → l = .active_list ∨ l = .eviction_list → f.swapped_out = false
  inactive : f.list = some .inactive_list → f.swapped_out = false ∨ f.migrating = true

/-! ## Capacities -/

/-- The capacity in which a thread holds a struct. -/
inductive Hold where
  /-- a resident page that was taken off its list, for a scan or a first fault -/
  | loose
  /-- the same, for an eviction -/
  | taken
  /-- a page that is being evicted, marked as migrating -/
  | busy
  /-- the same, with `swapped_out` set -/
  | marked
  /-- a page that is evicted, but for the last assignment -/
  | stale
  /-- a page that was looked up to be claimed -/
  | known
  /-- an evicted page that is claimed for a swap-in -/
  | claimed
  /-- the same, back on `inactive_list` -/
  | entered
  /-- a page that the prefetch cache served, with `migrating` still set -/
  | leaving
  /-- the same with `migrating` cleared, before the last section -/
  | trailing
  /-- a struct without an address -/
  | frame
  /-- a new page, marked as migrating -/
  | fresh
  /-- a page that `munmap` has claimed -/
  | removing
  /-- the same, off the index -/
  | unindexed
  /-- the same, off its list -/
  | removed
  /-- the same, without an address -/
  | cleared
  /-- a struct that `munmap` has freed, but for the last assignment -/
  | freed
deriving DecidableEq, Repr

/-- What the holder relies on. -/
def Hold.Ok (f : Face) : Hold → Prop
  | .loose => f.va ≠ 0 ∧ f.list = none ∧ f.swapped_out = false
  | .taken => f.va ≠ 0 ∧ f.list = none ∧ f.swapped_out = false
  | .busy => f.va ≠ 0 ∧ f.list = none ∧ f.swapped_out = false ∧ f.migrating = true
  | .marked => f.va ≠ 0 ∧ ¬ f.Lru ∧ f.swapped_out = true ∧ f.migrating = true
  | .stale => f.va ≠ 0 ∧ f.swapped_out = true
  | .known => f.va ≠ 0
  | .claimed => f.va ≠ 0 ∧ ¬ f.Lru ∧ f.swapped_out = true ∧ f.migrating = true
  | .entered => f.va ≠ 0 ∧ f.list = some .inactive_list ∧ f.swapped_out = true ∧ f.migrating = true
  | .leaving => f.va ≠ 0 ∧ ¬ f.Lru ∧ f.swapped_out = false ∧ f.migrating = true
  | .trailing => f.va ≠ 0 ∧ ¬ f.Lru ∧ f.swapped_out = false
  | .frame => f.va = 0 ∧ f.list = none
  | .fresh => f.va ≠ 0 ∧ f.list = none ∧ f.swapped_out = false ∧ f.migrating = true
  | .removing => f.va ≠ 0 ∧ f.migrating = true
  | .unindexed => f.va ≠ 0 ∧ f.migrating = true ∧ f.indexed = false
  | .removed => f.va ≠ 0 ∧ f.migrating = true ∧ f.indexed = false ∧ f.list = none
  | .cleared => f.va = 0 ∧ f.list = none
  | .freed => f.list = some .dram_free_list ∨ f.list = some .disk_free_list

/-- The capacities that go together. -/
def Hold.Free : Hold → Hold → Prop
  | .known, _ => True
  | _, .known => True
  | .stale, .claimed => True
  | .claimed, .stale => True
  | .stale, .entered => True
  | .entered, .stale => True
  | .loose, .removing => True
  | .removing, .loose => True
  | .loose, .unindexed => True
  | .unindexed, .loose => True
  | _, _ => False

theorem Hold.free_symm {k k' : Hold} (h : k.Free k') : k'.Free k := by
  cases k <;> cases k' <;> exact h

theorem Hold.free_known (k : Hold) : k.Free .known := by
  cases k <;> trivial

/-- A capacity that goes with no other but `known`. -/
def Hold.Sole (k : Hold) : Prop :=
  k ∉ [Hold.loose, .stale, .known, .claimed, .entered, .removing, .unindexed]

instance (k : Hold) : Decidable k.Sole := inferInstanceAs (Decidable (_ ∉ _))

theorem Hold.Sole.eq_known {k k' : Hold} (h : k.Sole) (hf : k.Free k') : k' = .known := by
  cases k <;> cases k' <;> first | rfl | exact hf.elim | exact absurd (by decide) h

/-- A claimed page may be `stale`. -/
theorem Hold.eq_stale {k k' : Hold} (hk : k = .claimed ∨ k = .entered) (hf : k.Free k')
    (hne : k' ≠ .known) : k' = .stale := by
  rcases hk with rfl | rfl <;> cases k' <;> first | rfl | exact hf.elim | exact absurd rfl hne

/-- A page that `munmap` has claimed may be `loose`. -/
theorem Hold.eq_loose {k k' : Hold} (hk : k = .removing ∨ k = .unindexed) (hf : k.Free k')
    (hne : k' ≠ .known) : k' = .loose := by
  rcases hk with rfl | rfl <;> cases k' <;> first | rfl | exact hf.elim | exact absurd rfl hne

theorem Hold.eq_removing {k : Hold} (hf : Hold.loose.Free k) (hne : k ≠ .known) :
    k = .removing ∨ k = .unindexed := by
  cases k <;> first | exact Or.inl rfl | exact Or.inr rfl | exact hf.elim | exact absurd rfl hne

/-- The rules for page structs. -/
def pageRules : Discipline Hold Face where
  Base := Face.Base
  Ok := fun k f => k.Ok f
  Free := Hold.Free
  symm := Hold.free_symm

/-! ## What a thread holds -/

/-- The pages and the frames of the jobs of `core_try_prefetch`. -/
def jobsHeld (jobs : List (PageId × PageId)) : List (PageId × Hold) :=
  jobs.flatMap fun j => [(j.1, .claimed), (j.2, .frame)]

def Use.held : Use → List (PageId × Hold)
  | .swapin page _ => [(page, .claimed)]
  | .prefetch page _ _ jobs => (page, .claimed) :: jobsHeld jobs
  | .first _ => []

/-- The victims of a batch and their disk pages. -/
def victimsHeld (k : Hold) (victims : List Victim) : List (PageId × Hold) :=
  victims.flatMap fun v => [(v.page, k), (v.diskpage, .frame)]

def Evictor.held : Evictor → List (PageId × Hold)
  | .worker => []
  | .vector rest => victimsHeld .marked rest
  | .inline use => use.held

/-- The disk page of an eviction, while the evictor has it. -/
def spareHeld (b : Bool) (diskpage : PageId) : List (PageId × Hold) :=
  if b then [(diskpage, .frame)] else []

/-- What a thread holds. -/
def Pc.held : Pc → List (PageId × Hold)
  | .claim page => [(page, .known)]
  | .lookup page => [(page, .claimed)]
  | .hit_in_dram page => [(page, .claimed)]
  | .hit_swapped_out page => [(page, .claimed)]
  | .hit_migrating page => [(page, .leaving)]
  | .finish_hit page => [(page, .trailing)]
  | .detach page => [(page, .claimed)]
  | .start page _ => [(page, .claimed)]
  | .fetch use => use.held
  | .reclaim use => use.held
  | .inline use => use.held
  | .got use freepage => (freepage, .frame) :: use.held
  | .slot page freepage _ => [(freepage, .frame), (page, .claimed)]
  | .link page freepage jobs => (freepage, .frame) :: (page, .claimed) :: jobsHeld (jobs.getD [])
  | .enter page jobs => (page, .claimed) :: jobsHeld (jobs.getD [])
  | .in_dram page jobs => (page, .entered) :: jobsHeld jobs
  | .finish page jobs => (page, .entered) :: jobsHeld (jobs.getD [])
  | .select _ _ jobs => jobsHeld jobs
  | .claim_next page _ _ jobs => (page, .known) :: jobsHeld jobs
  | .detach_next page _ _ jobs => (page, .claimed) :: jobsHeld jobs
  | .read jobs => jobsHeld jobs
  | .copy jobs => jobsHeld jobs
  | .ack page freepage jobs => (freepage, .frame) :: (page, .claimed) :: jobsHeld jobs
  | .examine page use => (page, .loose) :: (use.map Use.held).getD []
  | .put page _ use => (page, .loose) :: (use.map Use.held).getD []
  | .evict victim who => (victim, .taken) :: who.held
  | .protect victim who => (victim, .busy) :: who.held
  | .backing victim _ who => (victim, .busy) :: who.held
  | .down victim diskpage _ _ who => (victim, .busy) :: (diskpage, .frame) :: who.held
  | .write e who => (e.victim, .busy) :: (e.diskpage, .frame) :: who.held
  | .out e who => (e.victim, .busy) :: (e.diskpage, .frame) :: who.held
  | .mark e who => (e.victim, .busy) :: (e.diskpage, .frame) :: who.held
  | .return_frame e who => (e.victim, .marked) :: (e.diskpage, .frame) :: who.held
  | .to_disk e who =>
      (e.victim, .marked) :: (spareHeld (!e.reserved || who.isInline) e.diskpage ++ who.held)
  | .evicted e who => (e.victim, .marked) :: (spareHeld who.isInline e.diskpage ++ who.held)
  | .release e who => (e.victim, .marked) :: (spareHeld who.isInline e.diskpage ++ who.held)
  | .settle e who => (e.victim, .stale) :: (spareHeld who.isInline e.diskpage ++ who.held)
  | .vector_prepare victims done =>
      victims.map (·, .taken) ++ done.map fun v => (v.page, .busy)
  | .vector_protect victim _ victims done =>
      (victim, .busy) :: (victims.map (·, .taken) ++ done.map fun v => (v.page, .busy))
  | .vector_diskpages victims done =>
      (victims.map fun v => (v.page, .busy)) ++ victimsHeld .busy done
  | .vector_write victims => victimsHeld .busy victims
  | .vector_mark victims => victimsHeld .busy victims
  | .vector_track victims => victimsHeld .marked victims
  | .insert _ newpage => [(newpage, .frame)]
  | .put_free newpage _ => [(newpage, .frame)]
  | .map newpage => [(newpage, .fresh)]
  | .first_migrating newpage => [(newpage, .fresh)]
  | .first_swapped_out newpage => [(newpage, .loose)]
  | .track newpage => [(newpage, .loose)]
  | .unmap_claim page _ => [(page, .known)]
  | .unmap_spin page _ => [(page, .known)]
  | .unmap_relock page _ => [(page, .known)]
  | .remove_index page _ => [(page, .removing)]
  | .remove_migrating page _ => [(page, .unindexed)]
  | .remove_list page _ => [(page, .unindexed)]
  | .remove_va page _ => [(page, .removed)]
  | .remove_backing page _ => [(page, .cleared)]
  | .remove_reserve page reserve_page _ => [(reserve_page, .frame), (page, .cleared)]
  | .remove_free page _ _ => [(page, .cleared)]
  | .remove_done page _ => [(page, .freed)]
  | _ => []

/-! ## All threads -/

/-- The lists agree with the structs, and the index has structs under their addresses. -/
structure Policy.Tidy (P : Policy) : Prop where
  linked : P.WellLinked
  index : ∀ va i, P.pages va = some i → (P.page i).va = va ∧ va ≠ 0

/-- The structs and their lists, and what all threads hold. -/
structure Good (P : Policy) (held : List (PageId × Hold)) : Prop where
  tidy : P.Tidy
  held : Held pageRules P.face held

/-- Faces and lists are as before. -/
structure Same (P P' : Policy) : Prop where
  tidy : P.Tidy → P'.Tidy
  face : P'.face = P.face

/-- The face of one struct has changed, but not its address. -/
structure Changes (P P' : Policy) (i : PageId) (v : Face) : Prop where
  tidy : P.Tidy → P'.Tidy
  face : P'.face = Function.update P.face i v
  va : v.va = (P.face i).va

variable {P P' P₁ : Policy} {i : PageId} {q : ListId} {x : UserPage} {f : UserPage → UserPage}
  {v : Face} {k k' : Hold} {held rest : List (PageId × Hold)}

/-- The index after a change of one struct that keeps its address. -/
theorem Policy.index_of_page (h : ∀ va i, P.pages va = some i → (P.page i).va = va ∧ va ≠ 0)
    (hp : P'.page = Function.update P.page i x) (hx : P'.pages = P.pages)
    (hva : x.va = (P.page i).va) :
    ∀ va j, P'.pages va = some j → (P'.page j).va = va ∧ va ≠ 0 := by
  intro va j hj
  rw [hx] at hj
  rw [hp]
  by_cases hji : j = i
  · rw [hji, Function.update_self, hva, ← hji]
    exact h va j hj
  · rw [Function.update_of_ne hji]
    exact h va j hj

/-- The faces after a change of one struct that keeps its address. -/
theorem Policy.face_of_page (hp : P'.page = Function.update P.page i x) (hx : P'.pages = P.pages)
    (hva : x.va = (P.page i).va) :
    P'.face = Function.update P.face i (x.face (P.face i).indexed) := by
  funext j
  unfold Policy.face
  by_cases hj : j = i
  · rw [hj, hp, hx, Function.update_self, Function.update_self, hva]
    rfl
  · rw [hp, hx, Function.update_of_ne hj, Function.update_of_ne hj]

/-- Assignments to fields other than the list and the address. -/
theorem Changes.upd (P : Policy) (i : PageId) (hl : (f (P.page i)).list = (P.page i).list)
    (hva : (f (P.page i)).va = (P.page i).va) :
    Changes P (P.upd i f) i ((f (P.page i)).face (P.face i).indexed) :=
  ⟨fun h => ⟨h.linked.upd hl, Policy.index_of_page h.index rfl rfl hva⟩,
    Policy.face_of_page rfl rfl hva, hva⟩

/-- Linking a struct. -/
theorem Changes.enq (q : ListId) (hi : (P.face i).list = none) :
    Changes P (P.enq q i) i { P.face i with list := some q } :=
  ⟨fun h => ⟨h.linked.enq hi, Policy.index_of_page h.index rfl rfl rfl⟩,
    Policy.face_of_page (x := { P.page i with list := some q }) rfl rfl rfl, rfl⟩

/-- Unlinking a struct. -/
theorem Changes.unlink (hi : (P.face i).list = some q) :
    Changes P (P.unlink q i) i { P.face i with list := none } :=
  ⟨fun h => ⟨h.linked.unlink hi, Policy.index_of_page h.index rfl rfl rfl⟩,
    Policy.face_of_page (x := { P.page i with list := none }) rfl rfl rfl, rfl⟩

/-- Assignments that leave the face as it is. -/
theorem Same.upd (P : Policy) (i : PageId)
    (hf : ∀ b, (f (P.page i)).face b = (P.page i).face b) : Same P (P.upd i f) := by
  have hl : (f (P.page i)).list = (P.page i).list := congrArg Face.list (hf true)
  have hva : (f (P.page i)).va = (P.page i).va := congrArg Face.va (hf true)
  obtain ⟨htidy, hface, -⟩ := Changes.upd P i hl hva
  refine ⟨htidy, ?_⟩
  rw [hface, hf]
  exact Function.update_eq_self i P.face

theorem Same.account (P : Policy) (a b : ℕ) : Same P (P.account a b) :=
  ⟨fun h => ⟨h.linked, h.index⟩, rfl⟩

theorem Good.same (h : Good P held) (hs : Same P P') : Good P' held :=
  ⟨hs.tidy h.tidy, by rw [hs.face]; exact h.held⟩

theorem Good.perm {held' : List (PageId × Hold)} (h : Good P held) (hp : held.Perm held') :
    Good P held' :=
  ⟨h.tidy, h.held.perm hp⟩

theorem Good.swap {a b : PageId × Hold} (h : Good P (a :: b :: rest)) : Good P (b :: a :: rest) :=
  h.perm (List.Perm.swap b a rest)

/-- What the holder of a struct relies on. -/
theorem Good.ok (h : Good P ((i, k) :: rest)) : k.Ok (P.face i) := (Holdings.held_cons.1 h.held).2.1

theorem Good.base (h : Good P held) (i : PageId) : (P.face i).Base := h.held.base i

theorem Good.tail (h : Good P ((i, k) :: rest)) : Good P rest := ⟨h.tidy, (Holdings.held_cons.1 h.held).1⟩

/-- **A step on a struct that the thread holds.** Who only looked the struct up does not mind. -/
theorem Good.change (h : Good P ((i, k) :: rest)) (hc : Changes P P' i v) (hbase : v.Base)
    (hok : k'.Ok v)
    (hfree : ∀ k₂, k₂ ≠ .known → (i, k₂) ∈ rest → k.Free k₂ → k₂.Ok (P.face i) →
      k'.Free k₂ ∧ k₂.Ok v) :
    Good P' ((i, k') :: rest) := by
  refine ⟨hc.tidy h.tidy, ?_⟩
  rw [hc.face]
  refine h.held.change hbase hok ?_
  rintro ⟨j, k₂⟩ hx rfl hf ho
  by_cases hk : k₂ = .known
  · subst hk
    refine ⟨k'.free_known, ?_⟩
    show v.va ≠ 0
    rw [hc.va]
    exact ho
  · exact hfree k₂ hk hx hf ho

/-- **A step that lets go of a struct.** -/
theorem Good.release (h : Good P ((i, k) :: rest)) (hc : Changes P P' i v) (hbase : v.Base)
    (hfree : ∀ k₂, k₂ ≠ .known → (i, k₂) ∈ rest → k.Free k₂ → k₂.Ok (P.face i) → k₂.Ok v) :
    Good P' rest := by
  refine ⟨hc.tidy h.tidy, ?_⟩
  rw [hc.face]
  refine h.held.release hbase ?_
  rintro ⟨j, k₂⟩ hx rfl hf ho
  by_cases hk : k₂ = .known
  · subst hk
    show v.va ≠ 0
    rw [hc.va]
    exact ho
  · exact hfree k₂ hk hx hf ho

/-- **A step that takes hold of a struct.** -/
theorem Good.take (h : Good P rest) (hc : Changes P P' i v) (hbase : v.Base) (hok : k.Ok v)
    (hfree : ∀ k₂, k₂ ≠ .known → (i, k₂) ∈ rest → k₂.Ok (P.face i) → k.Free k₂ ∧ k₂.Ok v) :
    Good P' ((i, k) :: rest) := by
  refine ⟨hc.tidy h.tidy, ?_⟩
  rw [hc.face]
  refine h.held.take hbase hok ?_
  rintro ⟨j, k₂⟩ hx rfl ho
  by_cases hk : k₂ = .known
  · subst hk
    refine ⟨k.free_known, ?_⟩
    show v.va ≠ 0
    rw [hc.va]
    exact ho
  · exact hfree k₂ hk hx ho

/-- A struct that is held in a capacity of its own is the thread's alone. -/
theorem Good.change_sole (h : Good P ((i, k) :: rest)) (hk : k.Sole) (hc : Changes P P' i v)
    (hbase : v.Base) (hok : k'.Ok v) : Good P' ((i, k') :: rest) :=
  h.change hc hbase hok fun _ hne _ hf => absurd (hk.eq_known hf) hne

theorem Good.release_sole (h : Good P ((i, k) :: rest)) (hk : k.Sole) (hc : Changes P P' i v)
    (hbase : v.Base) : Good P' rest :=
  h.release hc hbase fun _ hne _ hf => absurd (hk.eq_known hf) hne

/-- A page that is claimed may also be `stale`, which only relies on `swapped_out`. -/
theorem Good.change_claimed (h : Good P ((i, k) :: rest)) (hk : k = .claimed ∨ k = .entered)
    (hk' : k' = .claimed ∨ k' = .entered) (hc : Changes P P' i v) (hbase : v.Base) (hok : k'.Ok v) :
    Good P' ((i, k') :: rest) := by
  refine h.change hc hbase hok fun k₂ hne _ hf _ => ?_
  obtain rfl := Hold.eq_stale hk hf hne
  rcases hk' with rfl | rfl
  · exact ⟨trivial, hok.1, hok.2.2.1⟩
  · exact ⟨trivial, hok.1, hok.2.2.1⟩

/-- A claimed page whose eviction is over is the thread's alone. -/
theorem Good.change_alone (h : Good P ((i, k) :: rest)) (hk : k = .claimed ∨ k = .entered)
    (hno : (i, .stale) ∉ rest) (hc : Changes P P' i v) (hbase : v.Base) (hok : k'.Ok v) :
    Good P' ((i, k') :: rest) := by
  refine h.change hc hbase hok fun k₂ hne hm hf _ => absurd hm ?_
  rw [Hold.eq_stale hk hf hne]
  exact hno

theorem Good.release_alone (h : Good P ((i, k) :: rest)) (hk : k = .claimed ∨ k = .entered)
    (hno : (i, .stale) ∉ rest) (hc : Changes P P' i v) (hbase : v.Base) : Good P' rest := by
  refine h.release hc hbase fun k₂ hne hm hf _ => absurd hm ?_
  rw [Hold.eq_stale hk hf hne]
  exact hno

/-- An assignment that leaves the face as it is. -/
theorem Good.upd (h : Good P held) (i : PageId)
    (hf : ∀ b, (f (P.page i)).face b = (P.page i).face b) : Good (P.upd i f) held :=
  h.same (Same.upd P i hf)

/-- A page that is looked up. -/
theorem Good.know (h : Good P held) {va : ℕ} (hi : P.pages va = some i) :
    Good P ((i, .known) :: held) := by
  obtain ⟨hva, hne⟩ := h.tidy.index va i hi
  refine ⟨h.tidy, Holdings.held_cons.2 ⟨h.held, ?_, fun _ _ _ => trivial⟩⟩
  show (P.page i).va ≠ 0
  rw [hva]
  exact hne

/-! ## What holds of every struct -/

variable {f : Face} {l : ListId}

theorem Face.base_none (h : f.list = none) : f.Base := by
  refine ⟨fun l hl => ?_, fun l hl => ?_, fun l hl => ?_, fun hl => ?_⟩ <;>
    · rw [h] at hl
      cases hl

theorem Face.base_spare (hl : f.list = some l) (hs : l.spare = true) (h0 : f.va = 0) : f.Base := by
  refine ⟨fun _ _ _ => h0, fun l' hl' hm => ?_, fun l' hl' hm => ?_, fun hl' => ?_⟩ <;>
    rw [hl] at hl' <;> cases hl'
  · cases l <;> simp [ListId.spare, ListId.lru] at hs hm
  · cases l <;> simp [ListId.spare] at hs hm
  · cases hs

theorem Face.base_disk (hl : f.list = some .disk_active_list) (hv : f.va ≠ 0) : f.Base := by
  refine ⟨fun l' hl' hs => ?_, fun _ _ _ => hv, fun l' hl' hm => ?_, fun hl' => ?_⟩ <;>
    rw [hl] at hl' <;> cases hl'
  · cases hs
  · rcases hm with hm | hm <;> cases hm

theorem Face.base_lru (hl : f.list = some l) (hlru : l.lru = true) (hv : f.va ≠ 0)
    (hs : f.swapped_out = false) : f.Base := by
  refine ⟨fun l' hl' hsp => ?_, fun _ _ _ => hv, fun _ _ _ => hs, fun _ => Or.inl hs⟩
  rw [hl] at hl'
  cases hl'
  cases l <;> simp [ListId.spare, ListId.lru] at hlru hsp

theorem Face.base_entering (hl : f.list = some .inactive_list) (hv : f.va ≠ 0)
    (hm : f.migrating = true) : f.Base := by
  refine ⟨fun l' hl' hs => ?_, fun _ _ _ => hv, fun l' hl' hm' => ?_, fun _ => Or.inr hm⟩ <;>
    rw [hl] at hl' <;> cases hl'
  · cases hs
  · rcases hm' with hm' | hm' <;> cases hm'

/-- Off the lists of resident pages, the flags are free. -/
theorem Face.Base.reflag (h : f.Base) (hl : ¬ f.Lru) (a b : Bool) :
    Face.Base { f with swapped_out := a, migrating := b } := by
  refine ⟨h.spare, h.mapped, fun l hl' hm => absurd ⟨l, hl', ?_⟩ hl, fun hl' => absurd ⟨_, hl', rfl⟩ hl⟩
  rcases hm with rfl | rfl <;> rfl

/-- Any page may be marked as migrating. -/
theorem Face.Base.migrate (h : f.Base) : Face.Base { f with migrating := true } :=
  ⟨h.spare, h.mapped, h.resident, fun _ => Or.inr rfl⟩

theorem Face.not_lru_none (h : f.list = none) : ¬ f.Lru := by
  rintro ⟨l, hl, -⟩
  rw [h] at hl
  cases hl

theorem Face.not_lru (hl : f.list = some l) (h : l.lru = false) : ¬ f.Lru := by
  rintro ⟨l', hl', ht⟩
  rw [hl] at hl'
  cases hl'
  rw [h] at ht
  cases ht

/-- An evicted page that is not migrating is on no list of resident pages. -/
theorem Face.Base.evicted (h : f.Base) (hs : f.swapped_out = true) (hm : f.migrating = false) :
    ¬ f.Lru := by
  rintro ⟨l, hl, hlru⟩
  cases l <;> try exact absurd hlru Bool.false_ne_true
  · exact absurd (h.resident _ hl (Or.inl rfl)) (by rw [hs]; exact Bool.true_eq_false_eq_False)
  · rcases h.inactive hl with hf | ht
    · rw [hs] at hf
      cases hf
    · rw [hm] at ht
      cases ht
  · exact absurd (h.resident _ hl (Or.inr rfl)) (by rw [hs]; exact Bool.true_eq_false_eq_False)

/-! ## Taking structs off their lists -/

/-- **A struct off a free list** is held by nobody else, if `munmap` is done with it. -/
theorem Good.take_frame (h : Good P rest) (hl : (P.face i).list = some l) (hs : l.spare = true)
    (hno : (i, .freed) ∈ rest → l = .disk_reserve_list) :
    Good (P.unlink l i) ((i, .frame) :: rest) := by
  have h0 := (h.base i).spare l hl hs
  refine h.take (Changes.unlink hl) (Face.base_none rfl) ⟨h0, rfl⟩ fun k₂ hne hm ho => ?_
  exfalso
  cases k₂ with
  | freed =>
      rw [hno hm] at hl
      rcases ho with ho | ho <;> · rw [hl] at ho; cases ho
  | frame | cleared =>
      rw [ho.2] at hl
      cases hl
  | known => exact hne rfl
  | _ => exact ho.1 h0

/-- **A page off a list of resident pages** is held by nobody else, if it is not migrating. -/
theorem Good.take_page (h : Good P rest) (hl : (P.face i).list = some l) (hlru : l.lru = true)
    (hmig : (P.face i).migrating = false) (hk : k = .loose ∨ k = .taken) :
    Good (P.unlink l i) ((i, k) :: rest) := by
  have hb := h.base i
  have hva := hb.mapped l hl (Or.inl hlru)
  have hs : (P.face i).swapped_out = false := by
    cases l <;> try exact absurd hlru Bool.false_ne_true
    · exact hb.resident _ hl (Or.inl rfl)
    · exact (hb.inactive hl).resolve_right (by rw [hmig]; exact Bool.false_ne_true)
    · exact hb.resident _ hl (Or.inr rfl)
  have hok : k.Ok { P.face i with list := none } := by
    rcases hk with rfl | rfl <;> exact ⟨hva, rfl, hs⟩
  refine h.take (Changes.unlink hl) (Face.base_none rfl) hok fun k₂ hne _ ho => ?_
  exfalso
  have hLru : (P.face i).Lru := ⟨l, hl, hlru⟩
  cases k₂ with
  | known => exact hne rfl
  | loose | taken => rw [ho.2.1] at hl; cases hl
  | busy | fresh => rw [ho.2.1] at hl; cases hl
  | marked | claimed | leaving | trailing => exact ho.2.1 hLru
  | stale => exact Bool.false_ne_true (hs.symm.trans ho.2)
  | entered => exact Bool.false_ne_true (hs.symm.trans ho.2.2.1)
  | frame | cleared => exact hva ho.1
  | removing => exact Bool.false_ne_true (hmig.symm.trans ho.2)
  | unindexed | removed => exact Bool.false_ne_true (hmig.symm.trans ho.2.1)
  | freed => rcases ho with ho | ho <;> · rw [ho] at hl; cases hl; cases hlru

/-- **A claim for a swap-in**: only the last assignment of an eviction may be outstanding. -/
theorem Good.claim (h : Good P rest) (hva : (P.face i).va ≠ 0)
    (hs : (P.face i).swapped_out = true) (hm : (P.face i).migrating = false) :
    Good (P.upd i fun p => { p with migrating := true }) ((i, .claimed) :: rest) := by
  have hlru := (h.base i).evicted hs hm
  refine h.take (Changes.upd P i rfl rfl) (h.base i).migrate ⟨hva, hlru, hs, rfl⟩
    fun k₂ hne _ ho => ?_
  cases k₂ with
  | known => exact absurd rfl hne
  | stale => exact ⟨trivial, ho⟩
  | loose | taken | trailing => exact absurd (ho.2.2.symm.trans hs) Bool.false_ne_true
  | busy | fresh | leaving => exact absurd (ho.2.2.1.symm.trans hs) Bool.false_ne_true
  | marked | claimed | entered => exact absurd (hm.symm.trans ho.2.2.2) Bool.false_ne_true
  | frame | cleared => exact absurd ho.1 hva
  | removing => exact absurd (hm.symm.trans ho.2) Bool.false_ne_true
  | unindexed | removed => exact absurd (hm.symm.trans ho.2.1) Bool.false_ne_true
  | freed =>
      rcases ho with ho | ho
      · exact absurd ((h.base i).spare _ ho rfl) hva
      · exact absurd ((h.base i).spare _ ho rfl) hva

/-- **A claim of `munmap`**: a page that is not migrating, and whose flags nobody is about to
assign. -/
theorem Good.unmap (h : Good P rest) (hva : (P.face i).va ≠ 0) (hm : (P.face i).migrating = false)
    (htaken : (i, .taken) ∉ rest) (hstale : (i, .stale) ∉ rest) (htrail : (i, .trailing) ∉ rest) :
    Good (P.upd i fun p => { p with migrating := true }) ((i, .removing) :: rest) := by
  refine h.take (Changes.upd P i rfl rfl) (h.base i).migrate ⟨hva, rfl⟩ fun k₂ hne hx ho => ?_
  cases k₂ with
  | known => exact absurd rfl hne
  | loose => exact ⟨trivial, ho⟩
  | taken => exact absurd hx htaken
  | stale => exact absurd hx hstale
  | trailing => exact absurd hx htrail
  | busy | fresh | marked | claimed | entered | leaving =>
      exact absurd (hm.symm.trans ho.2.2.2) Bool.false_ne_true
  | frame | cleared => exact absurd ho.1 hva
  | removing => exact absurd (hm.symm.trans ho.2) Bool.false_ne_true
  | unindexed | removed => exact absurd (hm.symm.trans ho.2.1) Bool.false_ne_true
  | freed =>
      rcases ho with ho | ho
      · exact absurd ((h.base i).spare _ ho rfl) hva
      · exact absurd ((h.base i).spare _ ho rfl) hva

/-! ## Changes of addresses and of the index -/

/-- **A first fault** gives a frame an address and enters it into the index. -/
theorem Good.insert (h : Good P ((i, .frame) :: rest)) {va : ℕ} (hva : va ≠ 0)
    (hnone : P.pages va = none) (hp : P'.page = Function.update P.page i x)
    (hx : P'.pages = Function.update P.pages va (some i)) (hl : P'.lists = P.lists)
    (hxva : x.va = va) (hlist : x.list = (P.page i).list) (hs : x.swapped_out = false)
    (hm : x.migrating = true) : Good P' ((i, .fresh) :: rest) := by
  obtain ⟨h0, hnil⟩ := h.ok
  -- a struct without an address is not in the index
  have hout : ∀ va', P.pages va' ≠ some i := fun va' hi =>
    (h.tidy.index va' i hi).2 ((h.tidy.index va' i hi).1.symm.trans h0)
  have hface : P'.face = Function.update P.face i (x.face true) := by
    funext j
    unfold Policy.face
    by_cases hj : j = i
    · rw [hj, hp, hx, Function.update_self, Function.update_self, hxva, Function.update_self]
      simp
    · rw [hp, hx, Function.update_of_ne hj, Function.update_of_ne hj]
      by_cases hv : (P.page j).va = va
      · rw [hv, Function.update_self, hnone]
        simp [Ne.symm hj]
      · rw [Function.update_of_ne hv]
  refine ⟨⟨?_, fun va' j hj => ?_⟩, ?_⟩
  · have hlinked := h.tidy.linked.upd (f := fun _ => x) hlist
    unfold Policy.WellLinked
    rw [hp, hl]
    exact hlinked
  · rw [hx] at hj
    rw [hp]
    by_cases hv : va' = va
    · rw [hv, Function.update_self] at hj
      cases hj
      rw [Function.update_self, hxva, hv]
      exact ⟨rfl, hva⟩
    · rw [Function.update_of_ne hv] at hj
      have hji : j ≠ i := fun he => hout va' (he ▸ hj)
      rw [Function.update_of_ne hji]
      exact h.tidy.index va' j hj
  · rw [hface]
    refine h.held.change (Face.base_none (hlist.trans hnil)) ⟨?_, hlist.trans hnil, hs, hm⟩ ?_
    · show x.va ≠ 0
      rw [hxva]
      exact hva
    · rintro ⟨j, k₂⟩ hx rfl hf ho
      obtain rfl : k₂ = .known := Hold.Sole.eq_known (by decide) hf
      exact absurd h0 ho

/-- **`munmap` deletes the index entry.** -/
theorem Good.unindex (h : Good P ((i, .removing) :: rest)) :
    Good (P.setIndex (P.page i).va none) ((i, .unindexed) :: rest) := by
  have hface : ∀ j, (P.setIndex (P.page i).va none).face j = P.face j ∨
      (P.setIndex (P.page i).va none).face j = { P.face j with indexed := false } := by
    intro j
    by_cases hv : (P.page j).va = (P.page i).va
    · right
      simp [Policy.face, Policy.setIndex, hv, UserPage.face]
    · left
      simp [Policy.face, Policy.setIndex, hv]
  have hi : ((P.setIndex (P.page i).va none).face i).indexed = false := by
    simp [Policy.face, Policy.setIndex, UserPage.face]
  -- nobody relies on a struct being in the index
  have hall : Held pageRules (P.setIndex (P.page i).va none).face ((i, .removing) :: rest) := by
    refine h.held.mono (fun j => ?_) fun k j ho => ?_
    · rcases hface j with he | he
      · rw [he]
        exact h.base j
      · rw [he]
        exact ⟨(h.base j).spare, (h.base j).mapped, (h.base j).resident, (h.base j).inactive⟩
    · rcases hface j with he | he
      · rw [he]
        exact ho
      · rw [he]
        cases k with
        | unindexed => exact ⟨ho.1, ho.2.1, rfl⟩
        | removed => exact ⟨ho.1, ho.2.1, rfl, ho.2.2.2⟩
        | _ => exact ho
  obtain ⟨hrest, hok, hfree⟩ := Holdings.held_cons.1 hall
  refine ⟨⟨h.tidy.linked, fun va j hj => ?_⟩, Holdings.held_cons.2 ⟨hrest, ⟨hok.1, hok.2, hi⟩, ?_⟩⟩
  · by_cases hv : va = (P.page i).va
    · simp [Policy.setIndex, hv] at hj
    · simp only [Policy.setIndex, Function.update_of_ne hv] at hj
      exact h.tidy.index va j hj
  · rintro ⟨j, k⟩ hy he
    by_cases hk : k = .known
    · rw [hk]
      exact Hold.free_known .unindexed
    · rw [Hold.eq_loose (Or.inl rfl) (hfree _ hy he) hk]
      trivial

/-- **`munmap` clears the address**, when no other thread has looked the page up. -/
theorem Good.clear {f : UserPage → UserPage} (h : Good P ((i, .removed) :: rest))
    (hno : (i, .known) ∉ rest) (hva : (f (P.page i)).va = 0) (hlist : (f (P.page i)).list = (P.page i).list) :
    Good (P.upd i f) ((i, .cleared) :: rest) := by
  obtain ⟨hne, -, hindex, hnil⟩ := h.ok
  have hout : ∀ va, P.pages va ≠ some i := by
    intro va hi
    have hin : P.pages (P.page i).va = some i := by
      rw [(h.tidy.index va i hi).1]
      exact hi
    exact of_decide_eq_false hindex hin
  have h0 : P.pages 0 ≠ some i := hout 0
  have hface : (P.upd i f).face = Function.update P.face i ((f (P.page i)).face false) := by
    funext j
    unfold Policy.face Policy.upd
    by_cases hj : j = i
    · subst hj
      simp only [Function.update_self, hva, h0, decide_false]
    · simp only [Function.update_of_ne hj]
  refine ⟨⟨h.tidy.linked.upd hlist, fun va j hj => ?_⟩, ?_⟩
  · have hji : j ≠ i := fun he => hout va (he ▸ hj)
    simp only [Policy.upd, Function.update_of_ne hji]
    exact h.tidy.index va j hj
  · rw [hface]
    refine h.held.change (Face.base_none (hlist.trans hnil)) ⟨hva, hlist.trans hnil⟩ ?_
    rintro ⟨j, k₂⟩ hx rfl hf -
    obtain rfl : k₂ = .known := Hold.Sole.eq_known (by decide) hf
    exact absurd hx hno

end SwapPrefetch
