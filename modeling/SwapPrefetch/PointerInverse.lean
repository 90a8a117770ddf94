/-
The two conversions of the pointer translator are inverse to each other
(`src/address_translation.c:63-220`).

Both conversions take the first region of a list whose range contains the pointer. The list has at
most one region for each local base (`Filed`): registering overwrites the region of a base in place
and unregistering takes it out. Where the ranges of one side are disjoint, the region found is the
only one (`convert_walk_eq`), so going to the other side and back ends in the same region
(`convert_walk_back`).

The end of a range is a 64-bit sum. A range that reaches `2 ^ 64` has wrapped: its stored
`local_end` is `0`.
-/
import Mathlib.Tactic
import SwapPrefetch.AddressTranslation
import SwapPrefetch.Ring

set_option autoImplicit false

namespace SwapPrefetch

/-! ## The walks over the regions -/

/-- The first region with the base of `r` is overwritten. -/
theorem update_region_eq_some {r : AddressRegion} {regions regions' : List AddressRegion}
    (h : update_region r regions = some regions') :
    ∃ before old rest, regions = before ++ old :: rest ∧ old.local_base = r.local_base ∧
      regions' = before ++ r :: rest := by
  induction regions generalizing regions' with
  | nil => cases h
  | cons current rest ih =>
      rw [update_region] at h
      split at h
      case isTrue hbase =>
        exact ⟨[], current, rest, rfl, hbase, (Option.some.inj h).symm⟩
      case isFalse =>
        obtain ⟨regions', hrest, rfl⟩ := Option.map_eq_some_iff.1 h
        obtain ⟨before, old, rest', rfl, hbase, rfl⟩ := ih hrest
        exact ⟨current :: before, old, rest', rfl, hbase, rfl⟩

theorem update_region_eq_none {r : AddressRegion} {regions : List AddressRegion} :
    update_region r regions = none ↔ ∀ q ∈ regions, q.local_base ≠ r.local_base := by
  induction regions with
  | nil => exact iff_of_true rfl fun _ hq => absurd hq List.not_mem_nil
  | cons current rest ih =>
      rw [update_region, List.forall_mem_cons]
      split
      case isTrue hbase =>
        exact iff_of_false (Option.some_ne_none _) fun hall => hall.1 hbase
      case isFalse hbase => rw [Option.map_eq_none_iff, ih, and_iff_right hbase]

/-- The first region with the base is taken out. -/
theorem remove_region_eq_some {local_base : ℕ} {regions regions' : List AddressRegion}
    (h : remove_region local_base regions = some regions') :
    ∃ before old rest, regions = before ++ old :: rest ∧ old.local_base = local_base ∧
      regions' = before ++ rest := by
  induction regions generalizing regions' with
  | nil => cases h
  | cons current rest ih =>
      rw [remove_region] at h
      split at h
      case isTrue hbase =>
        exact ⟨[], current, rest, rfl, hbase, (Option.some.inj h).symm⟩
      case isFalse =>
        obtain ⟨regions', hrest, rfl⟩ := Option.map_eq_some_iff.1 h
        obtain ⟨before, old, rest', rfl, hbase, rfl⟩ := ih hrest
        exact ⟨current :: before, old, rest', rfl, hbase, rfl⟩

section Conversion

variable {base limit target limit' : AddressRegion → ℕ} {pointer q : ℕ}
  {regions : List AddressRegion}

/-- Where no two ranges have the pointer in common, the walk ends at the region that has it. -/
theorem convert_walk_eq
    (hdis : regions.Pairwise fun a b => ¬ ((base a ≤ pointer ∧ pointer < limit a) ∧
      (base b ≤ pointer ∧ pointer < limit b)))
    {r : AddressRegion} (hr : r ∈ regions) (hactive : r.active = true)
    (hin : base r ≤ pointer ∧ pointer < limit r) :
    convert_walk base limit target pointer regions
      = some ((target r + (pointer - base r)) % 2 ^ 64) := by
  induction regions with
  | nil => exact absurd hr List.not_mem_nil
  | cons current rest ih =>
      obtain ⟨hcurrent, hrest⟩ := List.pairwise_cons.1 hdis
      rw [convert_walk]
      rcases List.mem_cons.1 hr with rfl | hr
      · rw [if_pos ⟨hactive, hin⟩]
      · rw [if_neg fun hc => hcurrent r hr ⟨hc.2, hin⟩]
        exact ih hrest hr

/-- **There and back.** If the other side's ranges are disjoint and do not wrap, converting a
converted pointer gives the pointer. -/
theorem convert_walk_back
    (hrange : ∀ r ∈ regions, r.active = true ∧ limit r = base r + r.size ∧
      limit' r = target r + r.size ∧ limit r < 2 ^ 64 ∧ limit' r < 2 ^ 64)
    (hdis : ∀ x, regions.Pairwise fun a b => ¬ ((target a ≤ x ∧ x < limit' a) ∧
      (target b ≤ x ∧ x < limit' b)))
    (h : convert_walk base limit target pointer regions = some q) :
    convert_walk target limit' base q regions = some pointer := by
  obtain ⟨r, hr, hbase, hlimit, rfl⟩ := convert_walk_eq_some h
  obtain ⟨hactive, hend, hend', hfits, hfits'⟩ := hrange r hr
  have hq : (target r + (pointer - base r)) % 2 ^ 64 = target r + (pointer - base r) :=
    Nat.mod_eq_of_lt (by omega)
  rw [hq, convert_walk_eq (hdis _) hr hactive ⟨by omega, by omega⟩, Nat.add_sub_cancel_left,
    Nat.add_sub_cancel' hbase, Nat.mod_eq_of_lt (by omega)]

end Conversion

/-! ## Runs of the translator -/

namespace Translator

/-- A call of one of the two routines; `node` says whether the node of a new region can be
allocated. -/
inductive Call where
  | register (node : Bool) (local_base size remote_base : ℕ)
  | unregister (local_base : ℕ)

/-- What a call does to the translator. A call that fails leaves it alone. -/
def step (c : Call) (t : Translator) : Translator :=
  let result :=
    match c with
    | .register node local_base size remote_base =>
        register_address_region node local_base size remote_base t
    | .unregister local_base => unregister_address_region local_base t
  match result with
  | .ok t' => t'
  | .error _ => t

/-- The translator after a sequence of calls from `address_translator_init`. -/
def exec (calls : List Call) : Translator := Guarded.exec step calls (address_translator_init {})

/-- Each region is as it was registered last, and no two have the same base. -/
structure Filed (t : Translator) : Prop where
  initialized : t.initialized = true
  regions : ∀ r ∈ t.regions, r = AddressRegion.of r.local_base r.size r.remote_base
  bases : (t.regions.map AddressRegion.local_base).Nodup

theorem filed_start : Filed (address_translator_init {}) :=
  ⟨rfl, fun _ hr => absurd hr List.not_mem_nil, List.nodup_nil⟩

variable {t : Translator}

/-- **Registering** overwrites the region of the base in place, adds a region for a base without
one, or fails. -/
theorem Filed.register (h : t.Filed) (node : Bool) (local_base size remote_base : ℕ) :
    (∃ before old rest, t.regions = before ++ old :: rest ∧ old.local_base = local_base ∧
        register_address_region node local_base size remote_base t = .ok { t with
          regions := before ++ AddressRegion.of local_base size remote_base :: rest }) ∨
      (∀ r ∈ t.regions, r.local_base ≠ local_base) ∧
        (register_address_region node local_base size remote_base t = .ok { t with
            regions := AddressRegion.of local_base size remote_base :: t.regions } ∨
          register_address_region node local_base size remote_base t = .error .ENOMEM) := by
  unfold register_address_region
  simp only [h.initialized, Bool.true_eq_false, if_false]
  rcases hu : update_region (AddressRegion.of local_base size remote_base) t.regions with _ | regions
  · refine Or.inr ⟨update_region_eq_none.1 hu, ?_⟩
    cases node with
    | true => exact Or.inl rfl
    | false => exact Or.inr rfl
  · obtain ⟨before, old, rest, hsplit, hbase, rfl⟩ := update_region_eq_some hu
    exact Or.inl ⟨before, old, rest, hsplit, hbase, rfl⟩

theorem Filed.step (h : t.Filed) (c : Call) : (step c t).Filed := by
  cases c with
  | register node local_base size remote_base =>
      unfold Translator.step
      rcases h.register node local_base size remote_base with
        ⟨before, old, rest, hsplit, hbase, hok⟩ | ⟨hnew, hok | herror⟩
      · -- an update keeps the base, hence the bases stay distinct
        simp only [hok]
        have hregions := h.regions
        have hbases := h.bases
        rw [hsplit] at hregions hbases
        obtain ⟨hbefore, hold⟩ := List.forall_mem_append.1 hregions
        refine ⟨h.initialized, List.forall_mem_append.2 ⟨hbefore, List.forall_mem_cons.2 ⟨rfl, ?_⟩⟩,
          ?_⟩
        · exact (List.forall_mem_cons.1 hold).2
        · rw [List.map_append, List.map_cons, hbase] at hbases
          rw [List.map_append, List.map_cons]
          exact hbases
      · simp only [hok]
        refine ⟨h.initialized, List.forall_mem_cons.2 ⟨rfl, h.regions⟩, ?_⟩
        rw [List.map_cons, List.nodup_cons]
        refine ⟨fun hmem => ?_, h.bases⟩
        obtain ⟨r, hr, hbase⟩ := List.mem_map.1 hmem
        exact hnew r hr hbase
      · simp only [herror]
        exact h
  | unregister local_base =>
      unfold Translator.step
      rcases hr : remove_region local_base t.regions with _ | regions
      · have herror : unregister_address_region local_base t = .error .ENOENT := by
          simp [unregister_address_region, h.initialized, hr]
        simp only [herror]
        exact h
      · have hok : unregister_address_region local_base t = .ok { t with regions := regions } := by
          simp [unregister_address_region, h.initialized, hr]
        simp only [hok]
        obtain ⟨before, old, rest, hsplit, -, rfl⟩ := remove_region_eq_some hr
        have hsub : List.Sublist (before ++ rest) t.regions := by
          rw [hsplit]
          exact List.Sublist.append_left (List.sublist_cons_self old rest) before
        exact ⟨h.initialized, fun r hr => h.regions r (hsub.subset hr),
          h.bases.sublist (hsub.map AddressRegion.local_base)⟩

/-- The regions of other bases stay when one is registered. -/
theorem Filed.mem_register (h : t.Filed) {node : Bool} {local_base size remote_base : ℕ}
    {r : AddressRegion} (hr : r ∈ t.regions) (hbase : r.local_base ≠ local_base) :
    r ∈ (Translator.step (.register node local_base size remote_base) t).regions := by
  unfold Translator.step
  rcases h.register node local_base size remote_base with
    ⟨before, old, rest, hsplit, hold, hok⟩ | ⟨-, hok | herror⟩
  · simp only [hok]
    rw [hsplit] at hr
    rcases List.mem_append.1 hr with hr | hr
    · exact List.mem_append_left _ hr
    · rcases List.mem_cons.1 hr with rfl | hr
      · exact absurd hold hbase
      · exact List.mem_append_right _ (List.mem_cons_of_mem _ hr)
  · simp only [hok]
    exact List.mem_cons_of_mem _ hr
  · simp only [herror]
    exact hr

/-- A region is the one just registered, or was there and has another base. -/
theorem Filed.of_mem_register (h : t.Filed) {node : Bool} {local_base size remote_base : ℕ}
    {r : AddressRegion}
    (hr : r ∈ (Translator.step (.register node local_base size remote_base) t).regions) :
    r = AddressRegion.of local_base size remote_base ∨
      r ∈ t.regions ∧ r.local_base ≠ local_base := by
  unfold Translator.step at hr
  rcases h.register node local_base size remote_base with
    ⟨before, old, rest, hsplit, hold, hok⟩ | ⟨hnew, hok | herror⟩
  · simp only [hok] at hr
    -- no other region has the base of the one that was overwritten
    have hbases := h.bases
    rw [hsplit, List.map_append, List.map_cons, List.nodup_middle, List.nodup_cons, hold,
      ← List.map_append] at hbases
    have hother : ∀ q ∈ before ++ rest, q ∈ t.regions ∧ q.local_base ≠ local_base := by
      intro q hq
      refine ⟨?_, fun he => hbases.1 (List.mem_map.2 ⟨q, hq, he⟩)⟩
      rw [hsplit]
      rcases List.mem_append.1 hq with hq | hq
      · exact List.mem_append_left _ hq
      · exact List.mem_append_right _ (List.mem_cons_of_mem _ hq)
    rcases List.mem_append.1 hr with hr | hr
    · exact Or.inr (hother r (List.mem_append_left _ hr))
    · rcases List.mem_cons.1 hr with rfl | hr
      · exact Or.inl rfl
      · exact Or.inr (hother r (List.mem_append_right _ hr))
  · simp only [hok] at hr
    rcases List.mem_cons.1 hr with rfl | hr
    · exact Or.inl rfl
    · exact Or.inr ⟨hr, hnew r hr⟩
  · simp only [herror] at hr
    exact Or.inr ⟨hr, hnew r hr⟩

theorem exec_filed (calls : List Call) : (exec calls).Filed :=
  Guarded.exec_of_step (fun _ c ht => ht.step c) calls filed_start

end Translator

/-! ## Separate ranges -/

/-- The pointer lies in the local range of the region. -/
def AddressRegion.HasLocal (r : AddressRegion) (p : ℕ) : Prop :=
  r.local_base ≤ p ∧ p < r.local_base + r.size

/-- The pointer lies in the remote range of the region. -/
def AddressRegion.HasRemote (r : AddressRegion) (q : ℕ) : Prop :=
  r.remote_base ≤ q ∧ q < r.remote_base + r.size

namespace Translator

/-- The local ranges are disjoint, the remote ranges are disjoint and do not begin at `0`, and no
range wraps. -/
structure Separate (t : Translator) : Prop where
  locals : t.regions.Pairwise fun a b => ∀ p, ¬ (a.HasLocal p ∧ b.HasLocal p)
  remotes : t.regions.Pairwise fun a b => ∀ q, ¬ (a.HasRemote q ∧ b.HasRemote q)
  remote_base : ∀ r ∈ t.regions, r.remote_base ≠ 0
  local_fits : ∀ r ∈ t.regions, r.local_base + r.size < 2 ^ 64
  remote_fits : ∀ r ∈ t.regions, r.remote_base + r.size < 2 ^ 64

variable {t : Translator} {p q : ℕ}

/-- The two limits that the walks compare with, for a range that does not wrap. -/
theorem Filed.limits (h : t.Filed) (hs : t.Separate) {r : AddressRegion} (hr : r ∈ t.regions) :
    r.active = true ∧ r.local_end = r.local_base + r.size ∧
      (r.remote_base + r.size) % 2 ^ 64 = r.remote_base + r.size := by
  have hfile := h.regions r hr
  refine ⟨?_, ?_, Nat.mod_eq_of_lt (hs.remote_fits r hr)⟩
  · rw [hfile]
    rfl
  · rw [hfile]
    exact Nat.mod_eq_of_lt (hs.local_fits r hr)

/-- Local pointers with a region. -/
theorem Filed.convert_local_iff (h : t.Filed) (hs : t.Separate) (hp : p ≠ 0) :
    (convert_local_to_remote_pointer t p).isSome = true ↔ ∃ r ∈ t.regions, r.HasLocal p := by
  rw [convert_local_to_remote_pointer, convert_pointer, if_neg hp, if_neg (by simp [h.initialized])]
  constructor
  · intro hsome
    obtain ⟨q, hq⟩ := Option.isSome_iff_exists.1 hsome
    obtain ⟨r, hr, hbase, hlimit, -⟩ := convert_walk_eq_some hq
    rw [(h.limits hs hr).2.1] at hlimit
    exact ⟨r, hr, hbase, hlimit⟩
  · rintro ⟨r, hr, hbase, hlimit⟩
    obtain ⟨hactive, hend, -⟩ := h.limits hs hr
    refine Option.isSome_iff_exists.2 ⟨_, convert_walk_eq ?_ hr hactive ⟨hbase, hend ▸ hlimit⟩⟩
    refine List.Pairwise.imp_of_mem (fun {a b} ha hb hab hboth => ?_) hs.locals
    rw [(h.limits hs ha).2.1, (h.limits hs hb).2.1] at hboth
    exact hab p hboth

/-- Remote pointers with a region. -/
theorem Filed.convert_remote_iff (h : t.Filed) (hs : t.Separate) (hq : q ≠ 0) :
    (convert_remote_to_local_pointer t q).isSome = true ↔ ∃ r ∈ t.regions, r.HasRemote q := by
  rw [convert_remote_to_local_pointer, convert_pointer, if_neg hq, if_neg (by simp [h.initialized])]
  constructor
  · intro hsome
    obtain ⟨p, hp⟩ := Option.isSome_iff_exists.1 hsome
    obtain ⟨r, hr, hbase, hlimit, -⟩ := convert_walk_eq_some hp
    rw [(h.limits hs hr).2.2] at hlimit
    exact ⟨r, hr, hbase, hlimit⟩
  · rintro ⟨r, hr, hbase, hlimit⟩
    obtain ⟨hactive, -, hend⟩ := h.limits hs hr
    have hlimit' : q < (r.remote_base + r.size) % 2 ^ 64 := by
      rw [hend]
      exact hlimit
    refine Option.isSome_iff_exists.2 ⟨_, convert_walk_eq ?_ hr hactive ⟨hbase, hlimit'⟩⟩
    refine List.Pairwise.imp_of_mem (fun {a b} ha hb hab hboth => ?_) hs.remotes
    rw [(h.limits hs ha).2.2, (h.limits hs hb).2.2] at hboth
    exact hab q hboth

/-- To the remote side and back. -/
theorem Filed.local_back (h : t.Filed) (hs : t.Separate) (hp : p ≠ 0)
    (hc : convert_local_to_remote_pointer t p = some q) :
    convert_remote_to_local_pointer t q = some p := by
  rw [convert_local_to_remote_pointer, convert_pointer, if_neg hp,
    if_neg (by simp [h.initialized])] at hc
  have hq : q ≠ 0 := by
    obtain ⟨r, hr, hbase, hlimit, rfl⟩ := convert_walk_eq_some hc
    have hne := hs.remote_base r hr
    have hfits := hs.remote_fits r hr
    rw [(h.limits hs hr).2.1] at hlimit
    rw [Nat.mod_eq_of_lt (by omega)]
    omega
  rw [convert_remote_to_local_pointer, convert_pointer, if_neg hq,
    if_neg (by simp [h.initialized])]
  refine convert_walk_back (fun r hr => ?_) (fun x => ?_) hc
  · obtain ⟨hactive, hend, hend'⟩ := h.limits hs hr
    exact ⟨hactive, hend, hend', hend ▸ hs.local_fits r hr, Nat.mod_lt _ (by decide)⟩
  · refine List.Pairwise.imp_of_mem (fun {a b} ha hb hab hboth => ?_) hs.remotes
    rw [(h.limits hs ha).2.2, (h.limits hs hb).2.2] at hboth
    exact hab x hboth

/-- To the local side and back, unless the local pointer is null. -/
theorem Filed.remote_back (h : t.Filed) (hs : t.Separate) (hq : q ≠ 0) (hp : p ≠ 0)
    (hc : convert_remote_to_local_pointer t q = some p) :
    convert_local_to_remote_pointer t p = some q := by
  rw [convert_remote_to_local_pointer, convert_pointer, if_neg hq,
    if_neg (by simp [h.initialized])] at hc
  rw [convert_local_to_remote_pointer, convert_pointer, if_neg hp,
    if_neg (by simp [h.initialized])]
  refine convert_walk_back (fun r hr => ?_) (fun x => ?_) hc
  · obtain ⟨hactive, hend, hend'⟩ := h.limits hs hr
    exact ⟨hactive, hend', hend, Nat.mod_lt _ (by decide), hend ▸ hs.local_fits r hr⟩
  · refine List.Pairwise.imp_of_mem (fun {a b} ha hb hab hboth => ?_) hs.locals
    rw [(h.limits hs ha).2.1, (h.limits hs hb).2.1] at hboth
    exact hab x hboth

/-- **The conversions are inverse to each other**, after every sequence of calls that leaves
separate ranges. -/
theorem conversions_inverse (calls : List Call) (h : (exec calls).Separate) :
    (∀ p, p ≠ 0 →
      ((convert_local_to_remote_pointer (exec calls) p).isSome = true ↔
        ∃ r ∈ (exec calls).regions, r.HasLocal p) ∧
      ∀ q, convert_local_to_remote_pointer (exec calls) p = some q →
        convert_remote_to_local_pointer (exec calls) q = some p) ∧
    (∀ q, q ≠ 0 →
      ((convert_remote_to_local_pointer (exec calls) q).isSome = true ↔
        ∃ r ∈ (exec calls).regions, r.HasRemote q) ∧
      ∀ p, convert_remote_to_local_pointer (exec calls) q = some p → p ≠ 0 →
        convert_local_to_remote_pointer (exec calls) p = some q) ∧
    ((exec calls).regions.map AddressRegion.local_base).Nodup ∧
    ∀ node local_base size remote_base, (∃ r ∈ (exec calls).regions, r.local_base = local_base) →
      ∃ before old rest, (exec calls).regions = before ++ old :: rest ∧
        old.local_base = local_base ∧
        register_address_region node local_base size remote_base (exec calls) = .ok
          { exec calls with
            regions := before ++ AddressRegion.of local_base size remote_base :: rest } := by
  have hf := exec_filed calls
  refine ⟨fun p hp => ⟨hf.convert_local_iff h hp, fun q hq => hf.local_back h hp hq⟩,
    fun q hq => ⟨hf.convert_remote_iff h hq, fun p hp hp0 => hf.remote_back h hq hp0 hp⟩,
    hf.bases, ?_⟩
  rintro node local_base size remote_base ⟨r, hr, hbase⟩
  rcases hf.register node local_base size remote_base with hold | ⟨hnew, -⟩
  · exact hold
  · exact absurd hbase (hnew r hr)

/-- Two pages with their blocks; one of them is registered again with another block, and a third is
registered and taken out. -/
def registeredTwice : List Call :=
  [.register true 0 4096 0x4000000000, .register true 8192 4096 0x4000001000,
    .register true 0 4096 0x4000002000, .register true 4096 4096 0x4000000000, .unregister 4096]

theorem conversions_inverse_registeredTwice :
    (exec registeredTwice).Separate ∧
      convert_local_to_remote_pointer (exec registeredTwice) 8200 = some 0x4000001008 ∧
      convert_remote_to_local_pointer (exec registeredTwice) 0x4000001008 = some 8200 := by
  have hregions : (exec registeredTwice).regions =
      [AddressRegion.of 8192 4096 0x4000001000, AddressRegion.of 0 4096 0x4000002000] := by
    decide +kernel
  have hs : (exec registeredTwice).Separate := by
    constructor
    all_goals rw [hregions]
    all_goals simp [AddressRegion.HasLocal, AddressRegion.HasRemote, AddressRegion.of]
    all_goals omega
  have hconvert : convert_local_to_remote_pointer (exec registeredTwice) 8200
      = some 0x4000001008 := by decide +kernel
  exact ⟨hs, hconvert, ((conversions_inverse registeredTwice hs).1 8200 (by decide)).2 _ hconvert⟩

end Translator

end SwapPrefetch
