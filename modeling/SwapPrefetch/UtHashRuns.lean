/-
The hash table of `src/uthash.h` is a finite map.

`Holds hash s items` says that the memory `s` is a table with these elements, in the order they were
added: they are linked both ways from `head` to `tail`, and every bucket has a chain of exactly the
elements whose hashes belong there (`Spread`). The two pairs of links of a handle never meet,
so the list of all elements and the chains are kept apart (`Order`, `Filed`).

An expansion moves the elements one at a time. While it runs, those that were moved are spread over
the new buckets, and the others still have the links of the old ones; that is the whole invariant of
its two loops.
-/
import Mathlib.Tactic
import SwapPrefetch.Chain
import SwapPrefetch.UtHash

set_option autoImplicit false

namespace SwapPrefetch.UtHash

open Prog Chains

variable {E K : Type}

/-! ## What a table holds -/

/-- The chain of a bucket. -/
structure Chained (buckets : ℕ → Bucket E) (hh : E → Handle E) (b : ℕ) (xs : List E) : Prop where
  head : (buckets b).hh_head = xs.head?
  links : Doubly (fun e => (hh e).hh_next) (fun e => (hh e).hh_prev) xs
  count : (buckets b).count = xs.length
  nodup : xs.Nodup

/-- The elements in `D` are spread over `n` buckets, each in the one of its hash. -/
def Spread (buckets : ℕ → Bucket E) (hh : E → Handle E) (n : ℕ) (D : E → Prop) : Prop :=
  ∀ b < n, ∃ xs, Chained buckets hh b xs ∧ ∀ e, e ∈ xs ↔ D e ∧ (hh e).hashv % n = b

/-- The list of all elements. -/
structure Order (s : Hash E) (items : List E) : Prop where
  head : s.head = items.head?
  tail : s.tbl.tail = items.getLast?
  links : Doubly (fun e => (s.hh e).next) (fun e => (s.hh e).prev) items
  nodup : items.Nodup

/-- The buckets. -/
structure Filed (hash : E → ℕ) (s : Hash E) (items : List E) : Prop where
  size : s.tbl.num_buckets = 2 ^ s.tbl.log2_num_buckets ∧ s.tbl.log2_num_buckets ≤ 31
  num_items : s.tbl.num_items = items.length
  hashv : ∀ e ∈ items, (s.hh e).hashv = hash e
  spread : Spread s.tbl.buckets s.hh s.tbl.num_buckets (· ∈ items)

/-- The table holds these elements, oldest first. -/
def Holds (hash : E → ℕ) (s : Hash E) (items : List E) : Prop :=
  (items = [] ∧ s.head = none) ∨ (items ≠ [] ∧ Order s items ∧ Filed hash s items)

variable {buckets buckets' : ℕ → Bucket E} {hh hh' : E → Handle E} {n b : ℕ} {D : E → Prop}
  {s s' : Hash E} {items xs : List E} {hash : E → ℕ} {e : E}

theorem holds_start : Holds hash ({} : Hash E) [] := Or.inl ⟨rfl, rfl⟩

theorem Holds.nodup (h : Holds hash s items) : items.Nodup := by
  rcases h with ⟨rfl, -⟩ | ⟨-, ho, -⟩
  · exact List.nodup_nil
  · exact ho.nodup

/-- The bucket of a hash, for a number of buckets that is a power of two. -/
theorem hash_to_bkt {k : ℕ} (hk : k ≤ 31) (v : ℕ) : HASH_TO_BKT v (2 ^ k) = v % 2 ^ k := by
  have hpos : 0 < 2 ^ k := Nat.two_pow_pos k
  have hlt : 2 ^ k ≤ 2 ^ 31 := Nat.pow_le_pow_right (by decide) hk
  have hmask : (2 ^ k + (2 ^ 32 - 1)) % 2 ^ 32 = 2 ^ k - 1 := by
    have hsum : 2 ^ k + (2 ^ 32 - 1) = (2 ^ k - 1) + 2 ^ 32 := by omega
    rw [hsum, Nat.add_mod_right]
    exact Nat.mod_eq_of_lt (by omega)
  unfold HASH_TO_BKT
  rw [hmask, Nat.and_two_pow_sub_one_eq_mod]

theorem Filed.to_bkt (h : Filed hash s items) (v : ℕ) :
    HASH_TO_BKT v s.tbl.num_buckets = v % s.tbl.num_buckets := by
  rw [h.size.1]
  exact hash_to_bkt h.size.2 v

theorem Filed.bkt_lt (h : Filed hash s items) (v : ℕ) :
    v % s.tbl.num_buckets < s.tbl.num_buckets := by
  rw [h.size.1]
  exact Nat.mod_lt v (Nat.two_pow_pos _)

/-! ### Changes elsewhere -/

theorem Chained.congr (h : Chained buckets hh b xs) (hb : buckets' b = buckets b)
    (hnext : ∀ a ∈ xs, (hh' a).hh_next = (hh a).hh_next)
    (hprev : ∀ a ∈ xs, (hh' a).hh_prev = (hh a).hh_prev) : Chained buckets' hh' b xs := by
  refine ⟨?_, h.links.congr hnext hprev, ?_, h.nodup⟩
  · rw [hb]
    exact h.head
  · rw [hb]
    exact h.count

/-- The chains are left alone by a change of the other links. -/
theorem Spread.congr (h : Spread buckets hh n D)
    (hnext : ∀ a, D a → (hh' a).hh_next = (hh a).hh_next)
    (hprev : ∀ a, D a → (hh' a).hh_prev = (hh a).hh_prev)
    (hhash : ∀ a, D a → (hh' a).hashv = (hh a).hashv) : Spread buckets hh' n D := by
  intro b hb
  obtain ⟨xs, hchain, hmem⟩ := h b hb
  refine ⟨xs, hchain.congr rfl (fun a ha => hnext a ((hmem a).1 ha).1)
    fun a ha => hprev a ((hmem a).1 ha).1, fun a => ?_⟩
  rw [hmem a]
  refine and_congr_right fun ha => ?_
  rw [hhash a ha]

/-- The list of all elements is as it was. -/
structure SameOrder (s s' : Hash E) : Prop where
  head : s'.head = s.head
  tail : s'.tbl.tail = s.tbl.tail
  next : ∀ a, (s'.hh a).next = (s.hh a).next
  prev : ∀ a, (s'.hh a).prev = (s.hh a).prev

theorem SameOrder.trans {s'' : Hash E} (h : SameOrder s s') (h' : SameOrder s' s'') :
    SameOrder s s'' where
  head := h'.head.trans h.head
  tail := h'.tail.trans h.tail
  next a := (h'.next a).trans (h.next a)
  prev a := (h'.prev a).trans (h.prev a)

theorem Order.congr (h : Order s items) (hs : SameOrder s s') : Order s' items where
  head := hs.head.trans h.head
  tail := hs.tail.trans h.tail
  links := h.links.congr (fun a _ => hs.next a) fun a _ => hs.prev a
  nodup := h.nodup

/-- The buckets are left alone by a change of the other list. -/
theorem Filed.congr (h : Filed hash s items) (htbl : s'.tbl = { s.tbl with tail := s'.tbl.tail })
    (hnext : ∀ a ∈ items, (s'.hh a).hh_next = (s.hh a).hh_next)
    (hprev : ∀ a ∈ items, (s'.hh a).hh_prev = (s.hh a).hh_prev)
    (hhash : ∀ a ∈ items, (s'.hh a).hashv = (s.hh a).hashv) : Filed hash s' items := by
  refine ⟨?_, ?_, fun a ha => (hhash a ha).trans (h.hashv a ha), ?_⟩
  · rw [htbl]
    exact h.size
  · rw [htbl]
    exact h.num_items
  · rw [htbl]
    exact h.spread.congr hnext hprev hhash

/-- The head of a bucket is one of the elements. -/
theorem Spread.head_ne (h : Spread buckets hh n D) (hbn : b < n) (he : ¬ D e) :
    (buckets b).hh_head ≠ some e := by
  obtain ⟨xs, hchain, hmem⟩ := h b hbn
  rw [hchain.head]
  exact fun heq => he ((hmem e).1 (List.mem_of_mem_head? heq)).1

/-- One bucket changes, and the links of no element of another. -/
theorem Spread.replace {D' : E → Prop} (h : Spread buckets hh n D) (hchain : Chained buckets' hh' b xs)
    (hxs : ∀ e, e ∈ xs ↔ D' e ∧ (hh' e).hashv % n = b)
    (hother : ∀ c, c ≠ b → buckets' c = buckets c) (hhash : ∀ a, (hh' a).hashv = (hh a).hashv)
    (hlinks : ∀ a, D a → (hh a).hashv % n ≠ b →
      (hh' a).hh_next = (hh a).hh_next ∧ (hh' a).hh_prev = (hh a).hh_prev)
    (hD : ∀ a, (hh a).hashv % n ≠ b → (D' a ↔ D a)) : Spread buckets' hh' n D' := by
  intro c hc
  by_cases hcb : c = b
  · subst hcb
    exact ⟨xs, hchain, hxs⟩
  · obtain ⟨ys, hys, hmem⟩ := h c hc
    have hkeep : ∀ a ∈ ys, _ := fun a ha =>
      hlinks a ((hmem a).1 ha).1 fun he => hcb (((hmem a).1 ha).2.symm.trans he)
    refine ⟨ys, hys.congr (hother c hcb) (fun a ha => (hkeep a ha).1) (fun a ha => (hkeep a ha).2),
      fun a => ?_⟩
    rw [hmem a, hhash a]
    exact and_congr_left fun hac => (hD a fun he => hcb (hac.symm.trans he)).symm

/-! ### Expansions -/

/-- While an expansion runs: the elements in `D` are in the new buckets, the others have their old
handles, and the fields outside the chains are as they were. -/
structure Moved (hh : E → Handle E) (n : ℕ) (x : Expansion E) (D : E → Prop) : Prop where
  spread : Spread x.new_buckets x.hh n D
  rest : ∀ a, ¬ D a → x.hh a = hh a
  same : ∀ a, (x.hh a).next = (hh a).next ∧ (x.hh a).prev = (hh a).prev ∧
    (x.hh a).hashv = (hh a).hashv

theorem Moved.congr {x : Expansion E} {D' : E → Prop} (h : Moved hh n x D)
    (hD : ∀ a, D' a ↔ D a) : Moved hh n x D' := by
  have heq : D' = D := funext fun a => propext (hD a)
  rw [heq]
  exact h

variable [DecidableEq E] [DecidableEq K]

/-! ### Assignments -/

theorem assign_apply (p : Option E) (f : Handle E → Handle E) (a : E) :
    assign p f hh a = if p = some a then f (hh a) else hh a := by
  cases p with
  | none => exact (if_neg nofun).symm
  | some c =>
      by_cases hca : c = a
      · subst hca
        rw [if_pos rfl]
        exact Function.update_self ..
      · rw [if_neg fun he => hca (Option.some.inj he)]
        exact Function.update_of_ne (fun he => hca he.symm) ..

/-! ## Linking at the head of a chain -/

/-- The handles after `e` was linked in front of `head`. -/
def pushed (hh : E → Handle E) (head : Option E) (e : E) : E → Handle E := fun a =>
  if a = e then { hh e with hh_prev := none, hh_next := head }
  else { hh a with hh_prev := if head = some a then some e else (hh a).hh_prev }

theorem pushed_self (head : Option E) :
    pushed hh head e e = { hh e with hh_prev := none, hh_next := head } := if_pos rfl

theorem pushed_ne {a : E} (head : Option E) (ha : a ≠ e) : pushed hh head e a =
    { hh a with hh_prev := if head = some a then some e else (hh a).hh_prev } := if_neg ha

/-- What the other fields are. -/
theorem pushed_same (head : Option E) (a : E) : (pushed hh head e a).next = (hh a).next ∧
    (pushed hh head e a).prev = (hh a).prev ∧ (pushed hh head e a).hashv = (hh a).hashv := by
  by_cases ha : a = e
  · subst ha
    rw [pushed_self]
    exact ⟨rfl, rfl, rfl⟩
  · rw [pushed_ne head ha]
    exact ⟨rfl, rfl, rfl⟩

/-- The assignments of the macros; they write the two links of `e` in different orders. -/
theorem assign_pushed {head : Option E} (h : head ≠ some e) {f g : Handle E → Handle E}
    (hfg : g (f (hh e)) = { hh e with hh_prev := none, hh_next := head }) :
    assign head (fun a => { a with hh_prev := some e }) (assign (some e) g (assign (some e) f hh)) =
      pushed hh head e := by
  funext a
  simp only [assign_apply]
  by_cases ha : a = e
  · subst ha
    rw [if_neg h, if_pos rfl, if_pos rfl, pushed_self, hfg]
  · rw [if_neg fun he => ha (Option.some.inj he).symm, if_neg fun he => ha (Option.some.inj he).symm,
      pushed_ne head ha]
    split
    · rfl
    · rfl

/-- **Linking a new element** into the bucket of its hash. -/
theorem Spread.push (h : Spread buckets hh n D) (he : ¬ D e) (hb : (hh e).hashv % n = b)
    (hbn : b < n) (hhead : (buckets' b).hh_head = some e)
    (hcount : (buckets' b).count = (buckets b).count + 1)
    (hother : ∀ c, c ≠ b → buckets' c = buckets c) :
    Spread buckets' (pushed hh (buckets b).hh_head e) n fun a => D a ∨ a = e := by
  obtain ⟨xs, hchain, hmem⟩ := h b hbn
  have hexs : e ∉ xs := fun hin => he ((hmem e).1 hin).1
  have hne : ∀ a, D a → a ≠ e := fun a ha hae => he (hae ▸ ha)
  have hin : ∀ a ∈ xs, a ≠ e := fun a ha => hne a ((hmem a).1 ha).1
  refine h.replace (show Chained _ _ _ (e :: xs) from
      ⟨hhead, ?_, ?_, List.nodup_cons.2 ⟨hexs, hchain.nodup⟩⟩) (fun a => ?_)
    hother (fun a => (pushed_same _ a).2.2) (fun a ha hab => ?_) fun a hab => ?_
  · rw [hchain.head]
    refine hchain.links.push hchain.nodup ?_ ?_ (fun a ha => ?_) (fun a ha => ?_) fun a ha hne' => ?_
    · show (pushed hh xs.head? e e).hh_next = _
      rw [pushed_self]
    · show (pushed hh xs.head? e e).hh_prev = _
      rw [pushed_self]
    · show (pushed hh xs.head? e a).hh_prev = _
      rw [pushed_ne _ (hin a (List.mem_of_mem_head? ha))]
      exact if_pos ha
    · show (pushed hh xs.head? e a).hh_next = _
      rw [pushed_ne _ (hin a ha)]
    · show (pushed hh xs.head? e a).hh_prev = _
      rw [pushed_ne _ (hin a ha)]
      exact if_neg hne'
  · rw [hcount, hchain.count, List.length_cons]
  · rw [(pushed_same _ a).2.2, List.mem_cons, hmem a, or_and_right, or_comm]
    exact or_congr_right ⟨fun hae => ⟨hae, hae ▸ hb⟩, And.left⟩
  · -- the old head is in the bucket of `e`
    rw [pushed_ne _ (hne a ha)]
    refine ⟨rfl, if_neg fun heq => hab ?_⟩
    rw [hchain.head] at heq
    exact ((hmem a).1 (List.mem_of_mem_head? heq)).2
  · exact or_iff_left fun hae => hab (hae ▸ hb)

/-! ## Expansion -/

/-- **One element** is moved. -/
theorem Moved.move {x : Expansion E} {k : ℕ} (h : Moved hh (2 ^ (k + 1)) x D) (ideal : ℕ)
    (hk : k + 1 ≤ 31) (he : ¬ D e) :
    Moved hh (2 ^ (k + 1)) (x.move (2 ^ k) ideal e) fun a => D a ∨ a = e := by
  have hdouble : 2 ^ k * 2 % 2 ^ 32 = 2 ^ (k + 1) := by
    rw [← pow_succ]
    exact Nat.mod_eq_of_lt (Nat.pow_lt_pow_right (by decide) (by omega))
  set b := (x.hh e).hashv % 2 ^ (k + 1) with hb
  have hbn : b < 2 ^ (k + 1) := Nat.mod_lt _ (Nat.two_pow_pos _)
  have hbkt : HASH_TO_BKT (x.hh e).hashv (2 ^ k * 2 % 2 ^ 32) = b := by
    rw [hdouble, hash_to_bkt hk]
  have hhead := h.spread.head_ne hbn he
  have hhh : (x.move (2 ^ k) ideal e).hh = pushed x.hh (x.new_buckets b).hh_head e := by
    unfold Expansion.move
    rw [hbkt]
    exact assign_pushed hhead rfl
  have hbuckets : ((x.move (2 ^ k) ideal e).new_buckets b).hh_head = some e ∧
      ((x.move (2 ^ k) ideal e).new_buckets b).count = (x.new_buckets b).count + 1 ∧
      ∀ c, c ≠ b → (x.move (2 ^ k) ideal e).new_buckets c = x.new_buckets c := by
    unfold Expansion.move
    rw [hbkt]
    refine ⟨?_, ?_, fun c hc => ?_⟩
    · show (Function.update x.new_buckets b _ b).hh_head = _
      rw [Function.update_self]
    · show (Function.update x.new_buckets b _ b).count = _
      rw [Function.update_self]
    · exact Function.update_of_ne hc ..
  refine ⟨?_, fun a ha => ?_, fun a => ?_⟩
  · rw [hhh]
    exact h.spread.push he hb.symm hbn hbuckets.1 hbuckets.2.1 hbuckets.2.2
  · -- what was not moved is neither `e` nor the head of a new bucket
    obtain ⟨haD, hae⟩ := not_or.1 ha
    rw [hhh, pushed_ne _ hae, if_neg (h.spread.head_ne hbn haD)]
    exact h.rest a haD
  · rw [hhh]
    obtain ⟨hnext, hprev, hhash⟩ := @pushed_same E x.hh e _ (x.new_buckets b).hh_head a
    obtain ⟨hnext', hprev', hhash'⟩ := h.same a
    exact ⟨hnext.trans hnext', hprev.trans hprev', hhash.trans hhash'⟩

/-- **The inner loop** moves the chain of a bucket. -/
theorem Moved.walk {x : Expansion E} {k rounds : ℕ} (h : Moved hh (2 ^ (k + 1)) x D) (ideal : ℕ)
    (hk : k + 1 ≤ 31) (hlinked : Linked (fun e => (hh e).hh_next) xs) (hnodup : xs.Nodup)
    (hxs : ∀ a ∈ xs, ¬ D a) (hlen : xs.length ≤ rounds) :
    ∃ x', x.walk (2 ^ k) ideal rounds xs.head? = .ok x' ∧
      Moved hh (2 ^ (k + 1)) x' fun a => D a ∨ a ∈ xs := by
  induction xs generalizing x D rounds with
  | nil =>
      refine ⟨x, by cases rounds <;> rfl, h.congr fun a => ?_⟩
      exact or_iff_left List.not_mem_nil
  | cons e xs ih =>
      obtain ⟨rounds, rfl⟩ : ∃ r, rounds = r + 1 := ⟨rounds - 1, by rw [List.length_cons] at hlen; omega⟩
      obtain ⟨hexs, hnodup⟩ := List.nodup_cons.1 hnodup
      have he : ¬ D e := hxs e List.mem_cons_self
      have hnext : (x.hh e).hh_next = xs.head? := by
        rw [h.rest e he]
        exact hlinked.1
      obtain ⟨x', hrun, hmoved⟩ := ih (h.move ideal hk he) hlinked.2 hnodup
        (fun a ha => not_or.2 ⟨hxs a (List.mem_cons_of_mem _ ha), fun hae => hexs (hae ▸ ha)⟩)
        (Nat.le_of_succ_le_succ hlen)
      refine ⟨x', ?_, hmoved.congr fun a => ?_⟩
      · show Expansion.walk (2 ^ k) ideal rounds (x.hh e).hh_next _ = _
        rw [hnext]
        exact hrun
      · rw [List.mem_cons, or_assoc]

/-- **The outer loop** moves the chains of the buckets from `bkt_i` on. -/
theorem Moved.sweep {x : Expansion E} {tbl : Table E} {k ideal left bkt_i : ℕ}
    {D₀ : E → Prop} (h : Moved hh (2 ^ (k + 1)) x D) (hk : k + 1 ≤ 31)
    (hsize : tbl.num_buckets = 2 ^ k) (hold : Spread tbl.buckets hh (2 ^ k) D₀)
    (hitems : ∀ b < 2 ^ k, (tbl.buckets b).count ≤ tbl.num_items)
    (hD : ∀ a, D a ↔ D₀ a ∧ (hh a).hashv % 2 ^ k < bkt_i) (hleft : bkt_i + left = 2 ^ k) :
    ∃ x', x.sweep tbl ideal left bkt_i = .ok x' ∧ Moved hh (2 ^ (k + 1)) x' D₀ := by
  induction left generalizing x bkt_i D with
  | zero =>
      refine ⟨x, rfl, h.congr fun a => ?_⟩
      rw [hD a, show bkt_i = 2 ^ k from hleft]
      exact ⟨fun ha => ⟨ha, Nat.mod_lt _ (Nat.two_pow_pos k)⟩, And.left⟩
  | succ left ih =>
      have hlt : bkt_i < 2 ^ k := by omega
      obtain ⟨xs, hchain, hmem⟩ := hold bkt_i hlt
      obtain ⟨x₁, hrun, hmoved⟩ := h.walk ideal hk hchain.links.forward hchain.nodup
        (fun a ha hDa => absurd ((hmem a).1 ha).2 (Nat.ne_of_lt ((hD a).1 hDa).2))
        (hchain.count ▸ hitems bkt_i hlt)
      have hD' : ∀ a, (D a ∨ a ∈ xs) ↔ D₀ a ∧ (hh a).hashv % 2 ^ k < bkt_i + 1 := by
        intro a
        rw [hD a, hmem a, ← and_or_left, Nat.lt_succ_iff_lt_or_eq]
      obtain ⟨x', hrest, hall⟩ := ih hmoved hD' (by omega)
      refine ⟨x', ?_, hall⟩
      unfold Expansion.sweep
      rw [hsize, hchain.head, hrun]
      exact hrest

omit [DecidableEq E] in
/-- No chain is longer than the list of all elements. -/
theorem Spread.count_le (h : Spread buckets hh n (· ∈ items)) (hbn : b < n) :
    (buckets b).count ≤ items.length := by
  obtain ⟨xs, hchain, hmem⟩ := h b hbn
  rw [hchain.count]
  exact (hchain.nodup.subperm fun a ha => ((hmem a).1 ha).1).length_le

/-- **An expansion** keeps the elements. -/
theorem Filed.expand (h : Filed hash s items) (malloc : Malloc) :
    Ends ((HASH_EXPAND_BUCKETS malloc).run s)
      (fun _ s' => Filed hash s' items ∧ SameOrder s s') (· = .exit) := by
  obtain ⟨hsize, hlog⟩ := h.size
  set k := s.tbl.log2_num_buckets with hk
  refine Ends.get_bind ?_
  refine Ends.check_bind (fun _ => rfl) fun hgrant => ?_
  -- what the allocator grants has less than `2 ^ 32` buckets
  have hk31 : k + 1 ≤ 31 := by
    have hbound := malloc.bounded _ hgrant
    rw [hsize] at hbound
    have hpow : 2 ^ (k + 1) < 2 ^ 32 := by
      rw [pow_succ]
      unfold SIZEOF_BUCKET at hbound
      omega
    exact Nat.le_of_lt_succ ((Nat.pow_lt_pow_iff_right (by decide)).1 hpow)
  have hspread := h.spread
  rw [hsize] at hspread
  have hstart : Moved s.hh (2 ^ (k + 1)) { hh := s.hh } fun _ => False := by
    refine ⟨fun b _ => ⟨[], ⟨rfl, doubly_nil, rfl, List.nodup_nil⟩, fun a => ?_⟩, fun _ _ => rfl,
      fun _ => ⟨rfl, rfl, rfl⟩⟩
    exact iff_of_false List.not_mem_nil fun ha => ha.1
  obtain ⟨x, hrun, hmoved⟩ : ∃ x, Expansion.sweep s.tbl s.tbl.ideal s.tbl.num_buckets 0
      { hh := s.hh } = .ok x ∧ Moved s.hh (2 ^ (k + 1)) x (· ∈ items) :=
    hstart.sweep hk31 hsize hspread (fun b hb => h.num_items ▸ hspread.count_le hb)
      (fun a => (iff_of_false id fun ha => absurd ha.2 (Nat.not_lt_zero _)))
      ((Nat.zero_add _).trans hsize)
  have hnum : s.tbl.num_buckets * 2 % 2 ^ 32 = 2 ^ (k + 1) := by
    rw [hsize, ← pow_succ]
    exact Nat.mod_eq_of_lt (Nat.pow_lt_pow_right (by decide) (by omega))
  refine Ends.get_bind ?_
  rw [hrun]
  refine Ends.ok ⟨⟨⟨hnum, hk31⟩, h.num_items,
      fun a ha => (hmoved.same a).2.2.trans (h.hashv a ha), ?_⟩,
    ⟨rfl, rfl, fun a => (hmoved.same a).1, fun a => (hmoved.same a).2.1⟩⟩
  show Spread x.new_buckets x.hh (s.tbl.num_buckets * 2 % 2 ^ 32) (· ∈ items)
  rw [hnum]
  exact hmoved.spread

/-! ## Adding an element -/

/-- The memory in which `HASH_ADD_TO_BKT` asks whether to expand. -/
def entered (s : Hash E) (b : ℕ) (add : E) : Hash E :=
  let counted := Function.update s.tbl.buckets b
    { s.tbl.buckets b with count := (s.tbl.buckets b).count + 1 }
  let head := (counted b).hh_head
  { s with
    tbl := { s.tbl with
      num_items := s.tbl.num_items + 1
      buckets := Function.update counted b { counted b with hh_head := some add } }
    hh := assign head (fun h => { h with hh_prev := some add })
      (assign (some add) (fun h => { h with hh_prev := none })
        (assign (some add) (fun h => { h with hh_next := head }) s.hh)) }

theorem entered_hh {add : E} (h : (s.tbl.buckets b).hh_head ≠ some add) :
    (entered s b add).hh = pushed s.hh (s.tbl.buckets b).hh_head add := by
  unfold entered
  simp only [Function.update_self]
  exact assign_pushed h rfl

theorem Filed.enter (h : Filed hash s items) {add : E} (hadd : add ∉ items)
    (hv : (s.hh add).hashv = hash add) (hb : hash add % s.tbl.num_buckets = b) :
    Filed hash (entered s b add) (items ++ [add]) ∧ SameOrder s (entered s b add) := by
  have hbn : b < s.tbl.num_buckets := hb ▸ h.bkt_lt (hash add)
  have hhh := entered_hh (h.spread.head_ne hbn hadd)
  have hsame := @pushed_same E s.hh add _ (s.tbl.buckets b).hh_head
  refine ⟨⟨h.size, ?_, fun a ha => ?_, ?_⟩, rfl, rfl, fun a => ?_, fun a => ?_⟩
  · rw [List.length_append, ← h.num_items]
    rfl
  · rw [hhh, (hsame a).2.2]
    rcases List.mem_append.1 ha with ha | ha
    · exact h.hashv a ha
    · rw [List.mem_singleton.1 ha]
      exact hv
  · have hmem : (· ∈ items ++ [add]) = fun a => a ∈ items ∨ a = add := by
      funext a
      rw [List.mem_append, List.mem_singleton]
    rw [hhh, hmem]
    refine h.spread.push hadd (by rw [hv]; exact hb) hbn ?_ ?_ fun c hc => ?_
    · simp only [entered, Function.update_self]
    · simp only [entered, Function.update_self]
    · simp only [entered, Function.update_of_ne hc]
  · rw [hhh, (hsame a).1]
  · rw [hhh, (hsame a).2.1]

/-- **Filing a new element**: it is linked into its bucket, which may start an expansion. -/
theorem Filed.add (h : Filed hash s items) (malloc : Malloc) {add : E} (hadd : add ∉ items)
    (hv : (s.hh add).hashv = hash add) :
    Ends ((HASH_ADD_TO_TABLE malloc (hash add) add).run s)
      (fun _ s' => Filed hash s' (items ++ [add]) ∧ SameOrder s s') (· = .exit) := by
  set b := hash add % s.tbl.num_buckets with hb
  obtain ⟨hfiled, hsame⟩ := h.enter hadd hv hb.symm
  have hbkt : HASH_TO_BKT (hash add) s.tbl.num_buckets = b := h.to_bkt _
  have hrun : (HASH_ADD_TO_TABLE malloc (hash add) add).run s =
      (if (((entered s b add).tbl.buckets b).expand_mult + 1) * HASH_BKT_CAPACITY_THRESH ≤
            ((entered s b add).tbl.buckets b).count ∧ (entered s b add).tbl.noexpand = false then
        HASH_EXPAND_BUCKETS malloc else pure ()).run (entered s b add) := by
    rw [← hbkt]
    rfl
  rw [hrun]
  split
  · refine (hfiled.expand malloc).mono (fun _ s' hs' => ?_) fun _ => id
    exact ⟨hs'.1, hsame.trans hs'.2⟩
  · exact Ends.ok ⟨hfiled, hsame⟩

/-- The memory after `HASH_APPEND_LIST`. -/
def appended (s : Hash E) (add : E) : Hash E :=
  { s with
    tbl := { s.tbl with tail := some add }
    hh := assign s.tbl.tail (fun h => { h with next := some add })
      (assign (some add) (fun h => { h with prev := s.tbl.tail })
        (assign (some add) (fun h => { h with next := none }) s.hh)) }

theorem append_run (s : Hash E) (add : E) :
    (HASH_APPEND_LIST add).run s = .ok ((), appended s add) := rfl

theorem appended_same (s : Hash E) (add a : E) :
    ((appended s add).hh a).hh_next = (s.hh a).hh_next ∧
      ((appended s add).hh a).hh_prev = (s.hh a).hh_prev ∧
      ((appended s add).hh a).hashv = (s.hh a).hashv := by
  simp only [appended, assign_apply]
  refine ⟨?_, ?_, ?_⟩ <;> grind

/-- **A new element** becomes the last. -/
theorem Order.append (h : Order s items) (hne : items ≠ []) {add : E} (hadd : add ∉ items) :
    Order (appended s add) (items ++ [add]) := by
  have htail : ∀ a, s.tbl.tail = some a → a ≠ add := by
    rintro a ha rfl
    exact hadd (List.mem_of_getLast? (h.tail ▸ ha))
  have hmem : ∀ a ∈ items, a ≠ add := fun a ha hae => hadd (hae ▸ ha)
  refine ⟨?_, ?_, ?_, ?_⟩
  · rw [List.head?_append_of_ne_nil _ hne]
    exact h.head
  · rw [List.getLast?_concat]
    rfl
  · refine h.links.append h.nodup ?_ ?_ (fun a ha => ?_) (fun a ha hlast => ?_) fun a ha => ?_
    all_goals simp only [appended, assign_apply, ← h.tail] at *
    all_goals grind
  · exact List.nodup_append.2 ⟨h.nodup, List.nodup_singleton _, by grind⟩

/-- The table that `HASH_MAKE_TABLE` makes for its first element. -/
def made (head : E) : Table E :=
  { tail := some head
    num_buckets := HASH_INITIAL_NUM_BUCKETS
    log2_num_buckets := HASH_INITIAL_NUM_BUCKETS_LOG2 }

omit [DecidableEq E] in
theorem make_table (malloc : Malloc) (head : E) (s : Hash E) :
    Ends ((HASH_MAKE_TABLE malloc head).run s) (fun _ s' => s' = { s with tbl := made head })
      (· = .exit) := by
  refine Ends.check_bind (fun _ => rfl) fun _ => ?_
  refine Ends.check_bind (fun _ => rfl) fun _ => ?_
  exact Ends.ok rfl

omit [DecidableEq E] in
theorem filed_made (hash : E → ℕ) (head : E) (hh : E → Handle E) :
    Filed hash { head := some head, tbl := made head, hh := hh } [] := by
  refine ⟨⟨?_, ?_⟩, rfl, nofun, fun b _ => ⟨[], ⟨rfl, doubly_nil, rfl, List.nodup_nil⟩, fun a => ?_⟩⟩
  · show HASH_INITIAL_NUM_BUCKETS = 2 ^ HASH_INITIAL_NUM_BUCKETS_LOG2
    decide
  · show HASH_INITIAL_NUM_BUCKETS_LOG2 ≤ 31
    decide
  · exact iff_of_false List.not_mem_nil fun ha => List.not_mem_nil ha.1

/-- The memory with the hash of the new element. -/
def hashed (s : Hash E) (add : E) (hashval : ℕ) : Hash E :=
  { s with hh := assign (some add) (fun h => { h with hashv := hashval }) s.hh }

theorem hashed_ne {add a : E} (v : ℕ) (ha : a ≠ add) : (hashed s add v).hh a = s.hh a := by
  unfold hashed
  simp only [assign_apply]
  exact if_neg fun he => ha (Option.some.inj he).symm

theorem hashed_self (s : Hash E) (add : E) (v : ℕ) :
    (hashed s add v).hh add = { s.hh add with hashv := v } := by
  unfold hashed
  simp only [assign_apply, if_true]

theorem hashed_same (s : Hash E) (add : E) (v : ℕ) : SameOrder s (hashed s add v) := by
  refine ⟨rfl, rfl, fun a => ?_, fun a => ?_⟩
  all_goals
    by_cases ha : a = add
    · rw [ha, hashed_self]
    · rw [hashed_ne v ha]

omit [DecidableEq K] in
/-- The first element makes the table. -/
theorem add_run_none (hash : K → ℕ) (key : E → K) (malloc : Malloc) (add : E)
    (h : s.head = none) : (HASH_ADD hash key malloc add).run s = (do
      HASH_MAKE_TABLE malloc add
      set_head (some add)
      HASH_ADD_TO_TABLE malloc (hash (key add)) add : Proc E Unit).run
        { s with hh := assign (some add) (fun h => { h with prev := none })
                  (assign (some add) (fun h => { h with next := none })
                    (hashed s add (hash (key add))).hh) } := by
  obtain ⟨head, tbl, hh⟩ := s
  cases h
  unfold HASH_ADD
  dsimp only
  generalize HASH_ADD_TO_TABLE malloc (hash (key add)) add = file
  generalize HASH_MAKE_TABLE malloc add = make
  rfl

omit [DecidableEq K] in
/-- The others are appended. -/
theorem add_run_some (hash : K → ℕ) (key : E → K) (malloc : Malloc) (add : E) {x : E}
    (h : s.head = some x) : (HASH_ADD hash key malloc add).run s =
      (HASH_ADD_TO_TABLE malloc (hash (key add)) add).run
        (appended (hashed s add (hash (key add))) add) := by
  have hset : (set_hh add fun h => { h with hashv := hash (key add) }).run s =
      .ok ((), hashed s add (hash (key add))) := rfl
  have hhead : (hashed s add (hash (key add))).head = some x := h
  unfold HASH_ADD
  refine (run_bind_ok hset).trans ?_
  refine (run_bind_ok (run_get _)).trans ?_
  rw [hhead]
  exact run_bind_ok (append_run _ add)

omit [DecidableEq K] in
/-- **`HASH_ADD`** of an element that is not in the table. -/
theorem Holds.add {hash : K → ℕ} {key : E → K}
    (h : Holds (fun e => hash (key e)) s items) (malloc : Malloc) {add : E} (hadd : add ∉ items) :
    Ends ((HASH_ADD hash key malloc add).run s)
      (fun _ s' => Holds (fun e => hash (key e)) s' (items ++ [add])) (· = .exit) := by
  set s₀ := hashed s add (hash (key add)) with hs₀
  have hv : (s₀.hh add).hashv = hash (key add) := by rw [hs₀, hashed_self]
  -- what is left once the element is in the list of all elements
  have hfile : ∀ s₁, Order s₁ (items ++ [add]) → Filed (fun e => hash (key e)) s₁ items →
      (s₁.hh add).hashv = hash (key add) →
      Ends ((HASH_ADD_TO_TABLE malloc (hash (key add)) add).run s₁)
        (fun _ s' => Holds (fun e => hash (key e)) s' (items ++ [add])) (· = .exit) := by
    intro s₁ horder hfiled hv
    refine (hfiled.add malloc hadd hv).mono (fun _ s' hs' => ?_) fun _ => id
    exact Or.inr ⟨List.append_ne_nil_of_right_ne_nil _ (List.cons_ne_nil _ _),
      horder.congr hs'.2, hs'.1⟩
  rcases h with ⟨rfl, hhead⟩ | ⟨hitems, horder, hfiled⟩
  · rw [add_run_none hash key malloc add hhead]
    refine Ends.bind (make_table malloc add _) fun _ s₁ hs₁ => ?_
    subst hs₁
    refine hfile _ ⟨rfl, rfl, ⟨⟨?_, trivial⟩, ?_, trivial⟩, List.nodup_singleton _⟩
      (filed_made _ add _) ?_
    all_goals simp only [assign_apply, if_true]
    · rfl
    · rfl
    · exact hv
  · obtain ⟨x, hx⟩ : ∃ x, s.head = some x := by
      rw [horder.head]
      exact Option.ne_none_iff_exists'.1 fun he => hitems (List.head?_eq_none_iff.1 he)
    rw [add_run_some hash key malloc add hx]
    have hold : ∀ a ∈ items, s₀.hh a = s.hh a := fun a ha =>
      hashed_ne _ fun hae => hadd (hae ▸ ha)
    refine hfile _ ((horder.congr (hashed_same s add _)).append hitems hadd) ?_ ?_
    · refine hfiled.congr rfl (fun a ha => ?_) (fun a ha => ?_) fun a ha => ?_
      · rw [(appended_same s₀ add a).1, hold a ha]
      · rw [(appended_same s₀ add a).2.1, hold a ha]
      · rw [(appended_same s₀ add a).2.2, hold a ha]
    · rw [(appended_same s₀ add add).2.2]
      exact hv

/-! ## Looking up a key -/

omit [DecidableEq E] in
/-- Two lists have the same first hit if they have the same hits and there is at most one. -/
theorem find_eq_find {p q : E → Bool} {xs ys : List E}
    (hiff : ∀ a, (a ∈ xs ∧ p a = true) ↔ (a ∈ ys ∧ q a = true))
    (huniq : ∀ a ∈ ys, ∀ b ∈ ys, q a = true → q b = true → a = b) : xs.find? p = ys.find? q := by
  rcases hy : ys.find? q with _ | a
  · refine List.find?_eq_none.2 fun b hb hp => ?_
    obtain ⟨hb', hq⟩ := (hiff b).1 ⟨hb, hp⟩
    exact List.find?_eq_none.1 hy b hb' hq
  · have ha := List.mem_of_find?_eq_some hy
    have hq := List.find?_some hy
    obtain ⟨hxs, hp⟩ := (hiff a).2 ⟨ha, hq⟩
    rcases hx : xs.find? p with _ | b
    · exact absurd hp (List.find?_eq_none.1 hx a hxs)
    · obtain ⟨hb, hqb⟩ := (hiff b).1 ⟨List.mem_of_find?_eq_some hx, List.find?_some hx⟩
      rw [huniq b hb a ha hqb hq]

omit [DecidableEq E] in
/-- **The walk** along a chain stops at the first element with the hash and the key. -/
theorem find_in_bkt (key : E → K) (k : K) (v : ℕ) {rounds : ℕ}
    (hlinked : Linked (fun e => (s.hh e).hh_next) xs) (hlen : xs.length ≤ rounds) :
    (HASH_FIND_IN_BKT key k v rounds xs.head?).run s =
      .ok (xs.find? fun e => decide ((s.hh e).hashv = v ∧ key e = k), s) := by
  induction xs generalizing rounds with
  | nil => cases rounds <;> rfl
  | cons e xs ih =>
      obtain ⟨rounds, rfl⟩ : ∃ r, rounds = r + 1 := ⟨rounds - 1, by rw [List.length_cons] at hlen; omega⟩
      rw [List.find?_cons]
      show (if (s.hh e).hashv = v ∧ key e = k then pure (some e)
        else HASH_FIND_IN_BKT key k v rounds (s.hh e).hh_next : Proc E (Option E)).run s = _
      by_cases hit : (s.hh e).hashv = v ∧ key e = k
      · rw [if_pos hit, decide_eq_true hit]
        rfl
      · rw [if_neg hit, decide_eq_false hit, show (s.hh e).hh_next = xs.head? from hlinked.1]
        exact ih hlinked.2 (Nat.le_of_succ_le_succ hlen)

omit [DecidableEq E] in
/-- **`HASH_FIND`** returns the element with the key, if there is one. -/
theorem Holds.find {hash : K → ℕ} {key : E → K} (h : Holds (fun e => hash (key e)) s items)
    (hkeys : ∀ a ∈ items, ∀ b ∈ items, key a = key b → a = b) (k : K) :
    (HASH_FIND hash key k).run s = .ok (items.find? fun e => decide (key e = k), s) := by
  rcases h with ⟨rfl, hhead⟩ | ⟨hitems, horder, hfiled⟩
  · obtain ⟨head, tbl, hh⟩ := s
    cases hhead
    rfl
  · have hbn := hfiled.bkt_lt (hash k)
    obtain ⟨xs, hchain, hmem⟩ := hfiled.spread _ hbn
    have hrun : (HASH_FIND hash key k).run s =
        (HASH_FIND_IN_BKT key k (hash k) s.tbl.num_items xs.head?).run s := by
      rw [← hchain.head, ← hfiled.to_bkt]
      obtain ⟨x, hx⟩ : ∃ x, s.head = some x := by
        rw [horder.head]
        exact Option.ne_none_iff_exists'.1 fun he => hitems (List.head?_eq_none_iff.1 he)
      obtain ⟨head, tbl, hh⟩ := s
      cases hx
      rfl
    have hlen : xs.length ≤ s.tbl.num_items := by
      rw [← hchain.count, hfiled.num_items]
      exact hfiled.spread.count_le hbn
    rw [hrun, find_in_bkt key k (hash k) hchain.links.forward hlen]
    refine congrArg (fun r => Except.ok (r, s)) (find_eq_find (fun a => ?_) fun a ha b hb hka hkb => ?_)
    · rw [hmem a, decide_eq_true_iff, decide_eq_true_iff]
      constructor
      · rintro ⟨⟨ha, -⟩, -, hka⟩
        exact ⟨ha, hka⟩
      · rintro ⟨ha, rfl⟩
        exact ⟨⟨ha, congrArg (· % _) (hfiled.hashv a ha)⟩, hfiled.hashv a ha, rfl⟩
    · exact hkeys a ha b hb ((of_decide_eq_true hka).trans (of_decide_eq_true hkb).symm)

/-! ## Deleting an element -/

/-- The handles after `e` was taken out of its chain. -/
def unlinked (hh : E → Handle E) (e : E) : E → Handle E := fun a =>
  { hh a with
    hh_next := if (hh e).hh_prev = some a then (hh e).hh_next else (hh a).hh_next
    hh_prev := if (hh e).hh_next = some a then (hh e).hh_prev else (hh a).hh_prev }

/-- **Taking an element out** of its bucket. -/
theorem Spread.unlink (h : Spread buckets hh n D) (he : D e) (hb : (hh e).hashv % n = b)
    (hbn : b < n)
    (hhead : (buckets' b).hh_head =
      if (buckets b).hh_head = some e then (hh e).hh_next else (buckets b).hh_head)
    (hcount : (buckets' b).count = (buckets b).count - 1)
    (hother : ∀ c, c ≠ b → buckets' c = buckets c) :
    Spread buckets' (unlinked hh e) n fun a => D a ∧ a ≠ e := by
  obtain ⟨ys, hchain, hmem⟩ := h b hbn
  obtain ⟨l, r, rfl⟩ := List.append_of_mem ((hmem e).2 ⟨he, hb⟩)
  obtain ⟨hnext, hprev⟩ := hchain.links.links
  obtain ⟨hel, hrest⟩ := List.nodup_cons.1 (List.nodup_middle.1 hchain.nodup)
  have hiff : ∀ a, a ∈ l ++ r ↔ a ∈ l ++ e :: r ∧ a ≠ e := by
    intro a
    simp only [List.mem_append, List.mem_cons] at hel ⊢
    constructor
    · exact fun ha => ⟨ha.imp_right Or.inr, fun hae => hel (hae ▸ ha)⟩
    · rintro ⟨ha | ha | ha, hne⟩
      · exact Or.inl ha
      · exact absurd ha hne
      · exact Or.inr ha
  refine h.replace ⟨?_, hchain.links.unlink hchain.nodup, ?_, hrest⟩ (fun a => ?_) hother
    (fun _ => rfl) (fun a ha hab => ?_) fun a hab => ?_
  · rw [hhead, hchain.head, hnext]
    cases l with
    | nil => exact if_pos rfl
    | cons d l =>
        refine if_neg fun hd => hel ?_
        rw [← Option.some.inj hd]
        exact List.mem_cons_self
  · rw [hcount, hchain.count, List.length_append, List.length_append, List.length_cons]
    omega
  · rw [hiff a, hmem a]
    exact and_right_comm
  · -- the neighbours of `e` are in its bucket
    have hout : a ∉ l ++ e :: r := fun hin => hab ((hmem a).1 hin).2
    refine ⟨if_neg fun hp => hout ?_, if_neg fun hn => hout ?_⟩
    · rw [hprev] at hp
      exact List.mem_append_left _ (List.mem_of_getLast? hp)
    · rw [hnext] at hn
      exact List.mem_append_right _ (List.mem_cons_of_mem _ (List.mem_of_mem_head? hn))
  · exact and_iff_left fun hae => hab (hae ▸ hb)

/-- The memory after `HASH_DEL_IN_BKT` and the count of the elements. -/
def dropped (s : Hash E) (b : ℕ) (del : E) : Hash E :=
  let counted := Function.update s.tbl.buckets b
    { s.tbl.buckets b with count := (s.tbl.buckets b).count - 1 }
  let hh := assign (s.hh del).hh_prev (fun h => { h with hh_next := (s.hh del).hh_next }) s.hh
  { s with
    tbl := { s.tbl with
      num_items := s.tbl.num_items - 1
      buckets := Function.update counted b (if (counted b).hh_head = some del then
        { counted b with hh_head := (s.hh del).hh_next } else counted b) }
    hh := assign (hh del).hh_next (fun h => { h with hh_prev := (hh del).hh_prev }) hh }

theorem dropped_hh {del : E} (h : (s.hh del).hh_prev ≠ some del) :
    (dropped s b del).hh = unlinked s.hh del := by
  have hself : assign (s.hh del).hh_prev (fun h => { h with hh_next := (s.hh del).hh_next }) s.hh del =
      s.hh del := by
    rw [assign_apply]
    exact if_neg h
  funext a
  unfold dropped unlinked
  dsimp only
  rw [hself, assign_apply, assign_apply]
  split <;> split <;> rfl

/-- **Taking an element out** of the buckets. -/
theorem Filed.drop (h : Filed hash s items) {del : E} (hdel : del ∈ items) (hnodup : items.Nodup)
    (hb : hash del % s.tbl.num_buckets = b) :
    Filed hash (dropped s b del) (items.erase del) ∧ SameOrder s (dropped s b del) := by
  have hbn : b < s.tbl.num_buckets := hb ▸ h.bkt_lt (hash del)
  have hv : (s.hh del).hashv % s.tbl.num_buckets = b := by rw [h.hashv del hdel, hb]
  have hself : (s.hh del).hh_prev ≠ some del := by
    obtain ⟨xs, hchain, hmem⟩ := h.spread b hbn
    obtain ⟨l, r, rfl⟩ := List.append_of_mem ((hmem del).2 ⟨hdel, hv⟩)
    rw [hchain.links.links.2]
    intro hlast
    have hin := List.mem_append_left r (List.mem_of_getLast? hlast)
    exact (List.nodup_cons.1 (List.nodup_middle.1 hchain.nodup)).1 hin
  have hhh : (dropped s b del).hh = unlinked s.hh del := dropped_hh hself
  refine ⟨⟨h.size, ?_, fun a ha => ?_, ?_⟩, rfl, rfl, fun a => ?_, fun a => ?_⟩
  · show s.tbl.num_items - 1 = _
    rw [List.length_erase_of_mem hdel, h.num_items]
  · rw [hhh]
    exact h.hashv a (List.mem_of_mem_erase ha)
  · have hmem : (· ∈ items.erase del) = fun a => a ∈ items ∧ a ≠ del := by
      funext a
      rw [hnodup.mem_erase_iff, and_comm]
    rw [hhh, hmem]
    refine h.spread.unlink hdel hv hbn ?_ ?_ fun c hc => ?_
    · simp only [dropped, Function.update_self]
      split <;> rfl
    · simp only [dropped, Function.update_self]
      split <;> rfl
    · simp only [dropped, Function.update_of_ne hc]
  · rw [hhh]
    rfl
  · rw [hhh]
    rfl

/-- The memory in which `HASH_DEL` goes on to the bucket. -/
def unhooked (s : Hash E) (del : E) : Hash E :=
  { head := if (s.hh del).prev = none then (s.hh del).next else s.head
    tbl := if s.tbl.tail = some del then { s.tbl with tail := (s.hh del).prev } else s.tbl
    hh := assign (s.hh del).next (fun h => { h with prev := (s.hh del).prev })
      (assign (s.hh del).prev (fun h => { h with next := (s.hh del).next }) s.hh) }

theorem unhooked_hh (s : Hash E) (del a : E) : (unhooked s del).hh a =
    { s.hh a with
      next := if (s.hh del).prev = some a then (s.hh del).next else (s.hh a).next
      prev := if (s.hh del).next = some a then (s.hh del).prev else (s.hh a).prev } := by
  unfold unhooked
  dsimp only
  rw [assign_apply, assign_apply]
  split <;> split <;> rfl

/-- **Taking an element out** of the list of all elements. -/
theorem Order.unhook (h : Order s items) {del : E} (hdel : del ∈ items) :
    Order (unhooked s del) (items.erase del) := by
  obtain ⟨l, r, rfl⟩ := List.append_of_mem hdel
  obtain ⟨hnext, hprev⟩ := h.links.links
  obtain ⟨hel, hrest⟩ := List.nodup_cons.1 (List.nodup_middle.1 h.nodup)
  have hl : del ∉ l := fun hin => hel (List.mem_append_left r hin)
  have herase : (l ++ del :: r).erase del = l ++ r := by
    rw [List.erase_append_right _ hl, List.erase_cons_head]
  rw [herase]
  refine ⟨?_, ?_, ?_, hrest⟩
  · show (if (s.hh del).prev = none then (s.hh del).next else s.head) = _
    rw [hprev, hnext, h.head]
    cases l with
    | nil => exact if_pos rfl
    | cons d l => exact if_neg fun he => absurd (List.getLast?_eq_none_iff.1 he) (List.cons_ne_nil d l)
  · show (if s.tbl.tail = some del then { s.tbl with tail := (s.hh del).prev } else s.tbl).tail = _
    rw [hprev, h.tail]
    cases r with
    | nil =>
        rw [List.getLast?_concat, if_pos rfl, List.append_nil]
    | cons d r =>
        have hlast : (l ++ del :: d :: r).getLast? = (d :: r).getLast? := by
          rw [List.getLast?_append_of_ne_nil _ (List.cons_ne_nil _ _), List.getLast?_cons_cons]
        rw [hlast, if_neg, h.tail, hlast, List.getLast?_append_of_ne_nil _ (List.cons_ne_nil d r)]
        exact fun he => hel (List.mem_append_right l (List.mem_of_getLast? he))
  · refine (h.links.unlink h.nodup).congr (fun a _ => ?_) fun a _ => ?_
    · rw [unhooked_hh]
    · rw [unhooked_hh]

theorem del_in_bkt_run (s : Hash E) (b : ℕ) (del : E) :
    (HASH_DEL_IN_BKT b del >>= fun _ =>
      set_tbl fun t => { t with num_items := t.num_items - 1 }).run s =
        .ok ((), dropped s b del) := rfl

theorem del_run {del : E} (h : ¬ ((s.hh del).prev = none ∧ (s.hh del).next = none)) :
    (HASH_DEL del).run s =
      .ok ((), dropped (unhooked s del)
        (HASH_TO_BKT ((unhooked s del).hh del).hashv (unhooked s del).tbl.num_buckets) del) := by
  have hhook : (HASH_DEL del).run s = (do
      let hh ← get_hh del
      HASH_DEL_IN_BKT (HASH_TO_BKT hh.hashv (← get_tbl).num_buckets) del
      set_tbl fun t => { t with num_items := t.num_items - 1 } : Proc E Unit).run
        (unhooked s del) := by
    unfold HASH_DEL unhooked
    -- the kernel must not compute with the mask
    generalize HASH_TO_BKT = to_bkt
    refine (run_bind_ok (show (get_hh del).run s = .ok (s.hh del, s) from rfl)).trans ?_
    rw [if_neg h]
    rcases hprev : (s.hh del).prev with _ | p
    · rfl
    · rw [if_neg (Option.some_ne_none p)]
      rfl
  have hget : (get_hh del).run (unhooked s del) =
      .ok ((unhooked s del).hh del, unhooked s del) := rfl
  have htbl : (get_tbl).run (unhooked s del) = .ok ((unhooked s del).tbl, unhooked s del) := rfl
  rw [hhook, run_bind_ok hget, run_bind_ok htbl]
  exact del_in_bkt_run _ _ del

/-- **`HASH_DEL`** of an element of the table. -/
theorem Holds.del (h : Holds hash s items) {del : E} (hdel : del ∈ items) :
    ∃ s', (HASH_DEL del).run s = .ok ((), s') ∧ Holds hash s' (items.erase del) := by
  rcases h with ⟨rfl, -⟩ | ⟨-, horder, hfiled⟩
  · exact absurd hdel List.not_mem_nil
  obtain ⟨l, r, hitems⟩ := List.append_of_mem hdel
  have herase : items.erase del = l ++ r := by
    have hnodup := horder.nodup
    rw [hitems] at hnodup ⊢
    have hl : del ∉ l := fun hin =>
      (List.nodup_cons.1 (List.nodup_middle.1 hnodup)).1 (List.mem_append_left r hin)
    rw [List.erase_append_right _ hl, List.erase_cons_head]
  have hnone : ((s.hh del).prev = none ∧ (s.hh del).next = none) ↔ l ++ r = [] := by
    have hlinks := horder.links
    rw [hitems] at hlinks
    rw [hlinks.links.1, hlinks.links.2, List.getLast?_eq_none_iff, List.head?_eq_none_iff,
      List.append_eq_nil_iff]
  by_cases hlast : (s.hh del).prev = none ∧ (s.hh del).next = none
  · refine ⟨{ s with head := none }, ?_, Or.inl ⟨?_, rfl⟩⟩
    · refine (run_bind_ok (show (get_hh del).run s = .ok (s.hh del, s) from rfl)).trans ?_
      rw [if_pos hlast]
      rfl
    · rw [herase]
      exact hnone.1 hlast
  · have hfiled' : Filed hash (unhooked s del) items := by
      refine hfiled.congr ?_ (fun a _ => ?_) (fun a _ => ?_) fun a _ => ?_
      · unfold unhooked
        dsimp only
        split <;> rfl
      all_goals rw [unhooked_hh]
    have hhash : ((unhooked s del).hh del).hashv = hash del := hfiled'.hashv del hdel
    obtain ⟨hdropped, hsame⟩ := hfiled'.drop hdel horder.nodup rfl
    refine ⟨_, del_run hlast, Or.inr ⟨fun hnil => hlast (hnone.2 (herase ▸ hnil)), ?_⟩⟩
    rw [hhash, hfiled'.to_bkt]
    exact ⟨(horder.unhook hdel).congr hsame, hdropped⟩

/-! ## Every run

The key of an element is a field of the element. It is assigned before the element is added and is
left alone while it is in the table; an element that was deleted can be added again under another
key. -/

/-- The table, and the keys in the elements. -/
structure Client (E K : Type) where
  tbl : Hash E := {}
  key : E → K

/-- A use of the table. -/
inductive Call (E K : Type) where
  | find (k : K)
  | add (k : K) (e : E) (malloc : Malloc)
  | del (e : E)

/-- What a call does. Only a lookup has an answer. -/
def Call.exec (hash : K → ℕ) : Call E K → Prog Stop (Client E K) (Option E)
  | .find k => fun c =>
      ((HASH_FIND hash c.key k).run c.tbl).map fun r => (r.1, { c with tbl := r.2 })
  | .add k e malloc => fun c =>
      let key := Function.update c.key e k
      ((HASH_ADD hash key malloc e).run c.tbl).map fun r => (none, { tbl := r.2, key := key })
  | .del e => fun c => ((HASH_DEL e).run c.tbl).map fun r => (none, { c with tbl := r.2 })

/-- The calls, one after another, with their answers. -/
def exec_calls (hash : K → ℕ) : List (Call E K) → Prog Stop (Client E K) (List (Option E))
  | [] => pure []
  | c :: cs => do
      let answer ← c.exec hash
      let answers ← exec_calls hash cs
      pure (answer :: answers)

/-- What a map answers. -/
def Call.answer (M : K → Option E) : Call E K → Option E
  | .find k => M k
  | _ => none

/-- What a map becomes. -/
def Call.effect (M : K → Option E) : Call E K → K → Option E
  | .find _ => M
  | .add k e _ => Function.update M k (some e)
  | .del e => fun k => if M k = some e then none else M k

/-- The key that is added is new, and so is the element; what is deleted is there. -/
def Call.Proper (M : K → Option E) : Call E K → Prop
  | .find _ => True
  | .add k e _ => M k = none ∧ ∀ k', M k' ≠ some e
  | .del e => ∃ k, M k = some e

/-- The calls are proper, each on the map that the calls before it leave. -/
def Proper : (K → Option E) → List (Call E K) → Prop
  | _, [] => True
  | M, c :: cs => c.Proper M ∧ Proper (c.effect M) cs

/-- The answers of a map. -/
def map_answers : (K → Option E) → List (Call E K) → List (Option E)
  | _, [] => []
  | M, c :: cs => c.answer M :: map_answers (c.effect M) cs

/-- The map after the calls. -/
def map_after (M : K → Option E) (cs : List (Call E K)) : K → Option E :=
  cs.foldl Call.effect M

/-- The table of the client is the map `M`, in some order. -/
def Represents (hash : K → ℕ) (M : K → Option E) (c : Client E K) : Prop :=
  ∃ items, Holds (fun e => hash (c.key e)) c.tbl items ∧
    ∀ k e, M k = some e ↔ e ∈ items ∧ c.key e = k

variable {M : K → Option E} {hash : K → ℕ}

omit [DecidableEq E] in
/-- The keys matter for the elements of the table only. -/
theorem Holds.congr {hash hash' : E → ℕ} (h : Holds hash s items)
    (heq : ∀ e ∈ items, hash' e = hash e) : Holds hash' s items := by
  refine h.imp_right fun ⟨hne, ho, hf⟩ => ⟨hne, ho, hf.size, hf.num_items, fun e he => ?_, hf.spread⟩
  rw [heq e he]
  exact hf.hashv e he

omit [DecidableEq E] in
/-- What is found among the elements is what the map has. -/
theorem find_items {key : E → K} (hM : ∀ k e, M k = some e ↔ e ∈ items ∧ key e = k) (k : K) :
    items.find? (fun e => decide (key e = k)) = M k := by
  rcases hfind : items.find? fun e => decide (key e = k) with _ | e
  · rcases hk : M k with _ | e
    · rfl
    · obtain ⟨he, hke⟩ := (hM k e).1 hk
      exact absurd (decide_eq_true hke) (List.find?_eq_none.1 hfind e he)
  · have hke := List.find?_some hfind
    exact ((hM k e).2 ⟨List.mem_of_find?_eq_some hfind, of_decide_eq_true hke⟩).symm

omit [DecidableEq E] [DecidableEq K] in
/-- The keys in the elements of the table are different. -/
theorem keys_inj {key : E → K} (hM : ∀ k e, M k = some e ↔ e ∈ items ∧ key e = k) :
    ∀ a ∈ items, ∀ b ∈ items, key a = key b → a = b := by
  intro a ha b hb hab
  have hMa := (hM _ a).2 ⟨ha, hab⟩
  rw [(hM _ b).2 ⟨hb, rfl⟩] at hMa
  exact (Option.some.inj hMa).symm

omit [DecidableEq E] [DecidableEq K] in
/-- No table is the empty map. -/
theorem represents_start (hash : K → ℕ) (key : E → K) :
    Represents hash (fun _ => none) ({ key := key } : Client E K) :=
  ⟨[], holds_start, fun _ _ => iff_of_false nofun fun he => List.not_mem_nil he.1⟩

omit [DecidableEq E] in
/-- **A lookup.** -/
theorem Represents.find {c : Client E K} (h : Represents hash M c) (k : K) :
    (HASH_FIND hash c.key k).run c.tbl = .ok (M k, c.tbl) := by
  obtain ⟨items, hholds, hM⟩ := h
  rw [hholds.find (keys_inj hM) k, find_items hM]

omit [DecidableEq E] [DecidableEq K] in
/-- **Keys that change** in elements outside of the table do not matter. -/
theorem Represents.rekey {c : Client E K} (h : Represents hash M c) {key : E → K}
    (hkey : ∀ k e, M k = some e → key e = c.key e) : Represents hash M { c with key := key } := by
  obtain ⟨items, hholds, hM⟩ := h
  have hin : ∀ e ∈ items, key e = c.key e := fun e he => hkey (c.key e) e ((hM _ e).2 ⟨he, rfl⟩)
  refine ⟨items, hholds.congr fun e he => congrArg hash (hin e he), fun k e => ?_⟩
  rw [hM]
  refine and_congr_right fun he => ?_
  show c.key e = k ↔ key e = k
  rw [hin e he]

/-- **An addition** of a new element with a new key. -/
theorem Represents.add {c : Client E K} (h : Represents hash M c) (malloc : Malloc) {e : E}
    (hk : M (c.key e) = none) (he : ∀ k, M k ≠ some e) :
    Ends ((HASH_ADD hash c.key malloc e).run c.tbl)
      (fun _ t => Represents hash (Function.update M (c.key e) (some e)) { c with tbl := t })
      (· = .exit) := by
  obtain ⟨items, hholds, hM⟩ := h
  have hnew : e ∉ items := fun hin => he _ ((hM _ e).2 ⟨hin, rfl⟩)
  refine (hholds.add malloc hnew).mono (fun _ t ht => ⟨items ++ [e], ht, fun k a => ?_⟩) fun _ => id
  rw [List.mem_append, List.mem_singleton]
  by_cases hkk : k = c.key e
  · subst hkk
    rw [Function.update_self]
    constructor
    · rintro ⟨⟩
      exact ⟨Or.inr rfl, rfl⟩
    · rintro ⟨ha | rfl, hka⟩
      · -- the key was new
        rw [(hM _ a).2 ⟨ha, hka⟩] at hk
        cases hk
      · rfl
  · rw [Function.update_of_ne hkk, hM]
    constructor
    · exact fun ha => ⟨Or.inl ha.1, ha.2⟩
    · rintro ⟨ha | rfl, hka⟩
      · exact ⟨ha, hka⟩
      · exact absurd hka.symm hkk

omit [DecidableEq K] in
/-- **A deletion** of an element of the table. -/
theorem Represents.del {c : Client E K} (h : Represents hash M c) {k : K} {e : E}
    (hk : M k = some e) :
    ∃ t, (HASH_DEL e).run c.tbl = .ok ((), t) ∧
      Represents hash (fun k => if M k = some e then none else M k) { c with tbl := t } := by
  obtain ⟨items, hholds, hM⟩ := h
  obtain ⟨t, hrun, ht⟩ := hholds.del ((hM k e).1 hk).1
  refine ⟨t, hrun, items.erase e, ht, fun k' a => ?_⟩
  show (if M k' = some e then none else M k') = some a ↔ a ∈ items.erase e ∧ c.key a = k'
  rw [hholds.nodup.mem_erase_iff]
  by_cases hke : M k' = some e
  · rw [if_pos hke]
    refine iff_of_false nofun fun ⟨⟨hae, ha⟩, hka⟩ => hae ?_
    exact Option.some.inj (((hM k' a).2 ⟨ha, hka⟩).symm.trans hke)
  · rw [if_neg hke, hM]
    refine ⟨fun ⟨ha, hka⟩ => ⟨⟨?_, ha⟩, hka⟩, fun ⟨⟨_, ha⟩, hka⟩ => ⟨ha, hka⟩⟩
    rintro rfl
    exact hke ((hM k' a).2 ⟨ha, hka⟩)

/-- **One call** answers as the map does and leaves its table representing what the map becomes. -/
theorem Represents.exec {c : Client E K} (h : Represents hash M c) (call : Call E K)
    (hproper : call.Proper M) :
    Ends ((call.exec hash).run c)
      (fun answer c' => answer = call.answer M ∧ Represents hash (call.effect M) c')
      (· = .exit) := by
  cases call with
  | find k =>
      show Ends (((HASH_FIND hash c.key k).run c.tbl).map _) _ _
      rw [h.find k]
      exact Ends.ok ⟨rfl, h⟩
  | add k e malloc =>
      obtain ⟨hk, he⟩ := hproper
      have hself : Function.update c.key e k e = k := Function.update_self ..
      have hset : Represents hash M { c with key := Function.update c.key e k } := by
        refine h.rekey fun k' a ha => Function.update_of_ne ?_ ..
        rintro rfl
        exact he k' ha
      have hadd := hset.add malloc ((congrArg M hself).trans hk) he
      show Ends (((HASH_ADD hash (Function.update c.key e k) malloc e).run c.tbl).map _) _ _
      rcases hr : (HASH_ADD hash (Function.update c.key e k) malloc e).run c.tbl with x | ⟨⟨⟩, t⟩
      · exact hadd.of_error hr
      · have ht : Represents hash (Function.update M (Function.update c.key e k e) (some e))
            ⟨t, Function.update c.key e k⟩ := hadd.of_ok hr
        rw [hself] at ht
        exact Ends.ok ⟨rfl, ht⟩
  | del e =>
      obtain ⟨k, hk⟩ := hproper
      obtain ⟨t, hrun, ht⟩ := h.del hk
      show Ends (((HASH_DEL e).run c.tbl).map _) _ _
      rw [hrun]
      exact Ends.ok ⟨rfl, ht⟩

/-- The calls, from any table. -/
theorem Represents.exec_calls {c : Client E K} (h : Represents hash M c) (calls : List (Call E K))
    (hproper : Proper M calls) :
    Ends ((exec_calls hash calls).run c)
      (fun answers c' => answers = map_answers M calls ∧ Represents hash (map_after M calls) c')
      (· = .exit) := by
  induction calls generalizing M c with
  | nil => exact Ends.ok ⟨rfl, h⟩
  | cons call calls ih =>
      refine Ends.bind (h.exec call hproper.1) ?_
      rintro answer c₁ ⟨rfl, h₁⟩
      refine Ends.bind (ih h₁ hproper.2) ?_
      rintro answers c₂ ⟨rfl, h₂⟩
      exact Ends.ok ⟨rfl, h₂⟩

/-- **The table is a finite map**: whatever is added, looked up and deleted, the lookups are answered
as a map answers them, over every expansion and with chains, links and counts intact. Only an
allocation that fails ends the run early. -/
theorem exec_calls_map (hash : K → ℕ) (calls : List (Call E K)) (key : E → K)
    (hproper : Proper (fun _ => none) calls) :
    (exec_calls hash calls).run { key := key } = .error .exit ∨
      ∃ c, (exec_calls hash calls).run { key := key } =
          .ok (map_answers (fun _ => none) calls, c) ∧
        Represents hash (map_after (fun _ => none) calls) c := by
  have hends := (represents_start hash key).exec_calls calls hproper
  rcases hrun : (exec_calls hash calls).run { key := key } with e | ⟨answers, c⟩
  · rw [hends.of_error hrun]
    exact Or.inl rfl
  · obtain ⟨rfl, hc⟩ := hends.of_ok hrun
    exact Or.inr ⟨c, rfl, hc⟩

/-- Page 0 is added, deleted and added again under another address. -/
def sample_calls : List (Call (Fin 2) (Fin 8)) :=
  [.add 3 0 {}, .add 5 1 {}, .find 3, .del 0, .find 3, .add 4 0 {}, .find 4, .find 5]

theorem exec_calls_map_sample : Proper (fun _ => none) sample_calls ∧
    ((exec_calls (fun k : Fin 8 => hash_va k) sample_calls).run { key := fun _ => 0 } =
        .error .exit ∨
      ∃ c, (exec_calls (fun k : Fin 8 => hash_va k) sample_calls).run { key := fun _ => 0 } =
          .ok ([none, none, some 0, none, none, none, some 0, some 1], c) ∧
        Represents (fun k : Fin 8 => hash_va k) (map_after (fun _ => none) sample_calls) c) := by
  have hproper : Proper (fun _ => none) sample_calls := by
    simp only [sample_calls, Proper, Call.Proper]
    decide
  have hanswers : map_answers (fun _ => none) sample_calls =
      [none, none, some 0, none, none, none, some 0, some 1] := by
    decide
  have h := exec_calls_map (fun k : Fin 8 => hash_va k) sample_calls (fun _ => 0) hproper
  rw [hanswers] at h
  exact ⟨hproper, h⟩

end SwapPrefetch.UtHash
