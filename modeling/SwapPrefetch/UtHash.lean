/-
The hash table of `src/uthash.h`, which holds the page index of `src/core.c`.

A table is threaded through the elements themselves. Each has a handle with two pairs of links: one
for the list of all elements in the order they were added, one for the chain of its bucket. The
key is not in the handle: `hh.key` points into the element, so the bytes that a lookup compares are
those the element has at that time, and `hashv` is the hash of those it had when it was added.
The macros below are given the keys of all elements (`key`) for that reason.

A bucket whose chain reaches ten times its `expand_mult + 1` doubles the number of buckets and moves
every element to its new bucket. Two expansions in a row that leave more than half of the elements
behind the ideal place in their chains turn expansion off.

`Malloc` is what `libc_malloc` grants during a call; a request it refuses ends the process
(`uthash_fatal`). It grants no 64 GiB at once, which is what `2 ^ 32` buckets take. The counts of
elements are not taken modulo `2 ^ 32`. A walk along a chain is given one round for each element.
There is one table, and `hh.tbl`, `hho`, `keylen` and `signature` are constants of it.
-/
import Mathlib.Tactic
import SwapPrefetch.Prog

set_option autoImplicit false

namespace SwapPrefetch.UtHash

open Prog

/-! ## The table -/

/-- `HASH_INITIAL_NUM_BUCKETS`. -/
abbrev HASH_INITIAL_NUM_BUCKETS : ℕ := 2097152

/-- `HASH_INITIAL_NUM_BUCKETS_LOG2`. -/
abbrev HASH_INITIAL_NUM_BUCKETS_LOG2 : ℕ := 21

/-- `HASH_BKT_CAPACITY_THRESH`. -/
abbrev HASH_BKT_CAPACITY_THRESH : ℕ := 10

/-- `sizeof(UT_hash_table)`. -/
abbrev SIZEOF_TABLE : ℕ := 64

/-- `sizeof(struct UT_hash_bucket)`. -/
abbrev SIZEOF_BUCKET : ℕ := 16

/-- `UT_hash_handle`. A handle is named by its element. -/
structure Handle (E : Type) where
  prev : Option E := none
  next : Option E := none
  hh_prev : Option E := none
  hh_next : Option E := none
  hashv : ℕ := 0

/-- `UT_hash_bucket`. -/
structure Bucket (E : Type) where
  hh_head : Option E := none
  count : ℕ := 0
  expand_mult : ℕ := 0

/-- `UT_hash_table`. -/
structure Table (E : Type) where
  buckets : ℕ → Bucket E := fun _ => {}
  num_buckets : ℕ := 0
  log2_num_buckets : ℕ := 0
  num_items : ℕ := 0
  tail : Option E := none
  ideal_chain_maxlen : ℕ := 0
  nonideal_items : ℕ := 0
  ineff_expands : ℕ := 0
  noexpand : Bool := false

/-- The head pointer, the table it leads to, and the handles of all elements. Without a head there
is no table, and the fields of `tbl` mean nothing. -/
structure Hash (E : Type) where
  head : Option E := none
  tbl : Table E := {}
  hh : E → Handle E := fun _ => {}

theorem lt_of_granted (size : ℕ) (h : decide (size < 2 ^ 36) = true) : size < 2 ^ 36 :=
  of_decide_eq_true h

/-- What the allocator grants. -/
structure Malloc where
  grants : ℕ → Bool := fun size => size < 2 ^ 36
  bounded : ∀ size, grants size = true → size < 2 ^ 36 := by
    exact SwapPrefetch.UtHash.lt_of_granted

/-- How a macro can fail to come to its end. -/
inductive Stop where
  /-- `exit(-1)` of `uthash_fatal` -/
  | exit
  /-- a walk along a chain has gone more rounds than there are elements -/
  | hang
deriving DecidableEq, Repr

/-- A macro. -/
abbrev Proc (E β : Type) : Type := Prog Stop (Hash E) β

variable {E K : Type} [DecidableEq E] [DecidableEq K]

/-! ## Assignments -/

/-- The handles after an assignment through a pointer, unless it is `NULL`. -/
def assign (e : Option E) (f : Handle E → Handle E) (hh : E → Handle E) : E → Handle E :=
  match e with
  | some e => Function.update hh e (f (hh e))
  | none => hh

/-- Assign to fields of the handle a pointer leads to, unless it is `NULL`. -/
def set_pointee (e : Option E) (f : Handle E → Handle E) : Proc E Unit :=
  modify fun s => { s with hh := assign e f s.hh }

/-- Assign to fields of a handle. -/
def set_hh (e : E) (f : Handle E → Handle E) : Proc E Unit := set_pointee (some e) f

/-- Assign to fields of the table. -/
def set_tbl (f : Table E → Table E) : Proc E Unit :=
  modify fun s => { s with tbl := f s.tbl }

/-- Assign to fields of a bucket. -/
def set_bucket (bkt : ℕ) (f : Bucket E → Bucket E) : Proc E Unit :=
  set_tbl fun t => { t with buckets := Function.update t.buckets bkt (f (t.buckets bkt)) }

/-- Assign to the head pointer. -/
def set_head (e : Option E) : Proc E Unit :=
  modify fun s => { s with head := e }

/-- The fields of a handle. -/
def get_hh (e : E) : Proc E (Handle E) := do
  pure ((← get).hh e)

/-- The fields of the table. -/
def get_tbl : Proc E (Table E) := do
  pure (← get).tbl

/-! ## Buckets -/

/-- `HASH_TO_BKT`, on 32-bit words. -/
def HASH_TO_BKT (hashv num_bkts : ℕ) : ℕ :=
  hashv &&& (num_bkts + (2 ^ 32 - 1)) % 2 ^ 32

/-- `HASH_FIND_IN_BKT` from an element of the chain on. -/
def HASH_FIND_IN_BKT (key : E → K) (k : K) (hashval : ℕ) : ℕ → Option E → Proc E (Option E)
  | _, none => pure none
  | 0, some _ => throw .hang
  | rounds + 1, some out => do
      let hh ← get_hh out
      -- the hash first: the keys are compared only for elements with the same one
      if hh.hashv = hashval ∧ key out = k then pure (some out)
      else HASH_FIND_IN_BKT key k hashval rounds hh.hh_next

/-- `HASH_FIND`. -/
def HASH_FIND (hash : K → ℕ) (key : E → K) (k : K) : Proc E (Option E) := do
  match (← get).head with
  | none => pure none
  | some _ => do
      let tbl ← get_tbl
      let bkt := HASH_TO_BKT (hash k) tbl.num_buckets
      HASH_FIND_IN_BKT key k (hash k) tbl.num_items (tbl.buckets bkt).hh_head

/-! ### Expansion -/

/-- What `HASH_EXPAND_BUCKETS` works on: the new buckets, the handles, and the count of the elements
behind the ideal place. -/
structure Expansion (E : Type) where
  new_buckets : ℕ → Bucket E := fun _ => {}
  hh : E → Handle E
  nonideal_items : ℕ := 0

/-- The body of the inner loop: link an element at the head of its new bucket. `num_buckets` is the
number of the old buckets. -/
def Expansion.move (num_buckets ideal_chain_maxlen : ℕ) (thh : E) (x : Expansion E) :
    Expansion E :=
  let bkt := HASH_TO_BKT (x.hh thh).hashv (num_buckets * 2 % 2 ^ 32)
  let newbkt := x.new_buckets bkt
  let count := newbkt.count + 1
  let nonideal := ideal_chain_maxlen < count
  -- the threshold of a bucket that is already overused is raised
  let expand_mult :=
    if nonideal ∧ newbkt.expand_mult * ideal_chain_maxlen < count then newbkt.expand_mult + 1
    else newbkt.expand_mult
  let hh := assign (some thh) (fun h => { h with hh_prev := none }) x.hh
  let hh := assign (some thh) (fun h => { h with hh_next := newbkt.hh_head }) hh
  let hh := assign newbkt.hh_head (fun h => { h with hh_prev := some thh }) hh
  { new_buckets := Function.update x.new_buckets bkt
      { hh_head := some thh, count := count, expand_mult := expand_mult }
    hh := hh
    nonideal_items := if nonideal then x.nonideal_items + 1 else x.nonideal_items }

/-- The inner loop, along the chain of an old bucket. -/
def Expansion.walk (num_buckets ideal_chain_maxlen : ℕ) :
    ℕ → Option E → Expansion E → Except Stop (Expansion E)
  | _, none, x => .ok x
  | 0, some _, _ => .error .hang
  | rounds + 1, some thh, x =>
      -- the next element is read before the handle is linked elsewhere
      let hh_nxt := (x.hh thh).hh_next
      walk num_buckets ideal_chain_maxlen rounds hh_nxt
        (x.move num_buckets ideal_chain_maxlen thh)

/-- The outer loop, over the old buckets from `bkt_i` on. -/
def Expansion.sweep (tbl : Table E) (ideal_chain_maxlen : ℕ) :
    ℕ → ℕ → Expansion E → Except Stop (Expansion E)
  | 0, _, x => .ok x
  | left + 1, bkt_i, x =>
      match x.walk tbl.num_buckets ideal_chain_maxlen tbl.num_items
          (tbl.buckets bkt_i).hh_head with
      | .ok x => sweep tbl ideal_chain_maxlen left (bkt_i + 1) x
      | .error e => .error e

/-- `ideal_chain_maxlen` of a table that is about to double its buckets. -/
def Table.ideal (tbl : Table E) : ℕ :=
  tbl.num_items >>> (tbl.log2_num_buckets + 1) +
    if tbl.num_items &&& (tbl.num_buckets * 2 % 2 ^ 32 + (2 ^ 32 - 1)) % 2 ^ 32 ≠ 0 then 1 else 0

/-- `HASH_EXPAND_BUCKETS`. -/
def HASH_EXPAND_BUCKETS (malloc : Malloc) : Proc E Unit := do
  let tbl ← get_tbl
  check (malloc.grants (2 * tbl.num_buckets * SIZEOF_BUCKET) = true) .exit
  let x ← match Expansion.sweep tbl tbl.ideal tbl.num_buckets 0 { hh := (← get).hh } with
    | .ok x => pure x
    | .error e => throw e
  let ineff_expands :=
    if tbl.num_items >>> 1 < x.nonideal_items then tbl.ineff_expands + 1 else 0
  modify fun s => { s with hh := x.hh }
  set_tbl fun t =>
    { t with
      buckets := x.new_buckets
      num_buckets := t.num_buckets * 2 % 2 ^ 32
      log2_num_buckets := t.log2_num_buckets + 1
      ideal_chain_maxlen := tbl.ideal
      nonideal_items := x.nonideal_items
      ineff_expands := ineff_expands
      noexpand := t.noexpand || decide (1 < ineff_expands) }

/-! ### Elements of a bucket -/

/-- `HASH_ADD_TO_BKT`. -/
def HASH_ADD_TO_BKT (malloc : Malloc) (bkt : ℕ) (add : E) : Proc E Unit := do
  set_bucket bkt fun b => { b with count := b.count + 1 }
  let hh_head := ((← get_tbl).buckets bkt).hh_head
  set_hh add fun h => { h with hh_next := hh_head }
  set_hh add fun h => { h with hh_prev := none }
  set_pointee hh_head fun h => { h with hh_prev := some add }
  set_bucket bkt fun b => { b with hh_head := some add }
  let tbl ← get_tbl
  if ((tbl.buckets bkt).expand_mult + 1) * HASH_BKT_CAPACITY_THRESH ≤ (tbl.buckets bkt).count ∧
      tbl.noexpand = false then
    HASH_EXPAND_BUCKETS malloc

/-- `HASH_DEL_IN_BKT`. -/
def HASH_DEL_IN_BKT (bkt : ℕ) (del : E) : Proc E Unit := do
  set_bucket bkt fun b => { b with count := b.count - 1 }
  let hh ← get_hh del
  set_bucket bkt fun b => if b.hh_head = some del then { b with hh_head := hh.hh_next } else b
  set_pointee hh.hh_prev fun h => { h with hh_next := hh.hh_next }
  let hh ← get_hh del
  set_pointee hh.hh_next fun h => { h with hh_prev := hh.hh_prev }

/-! ## The list of all elements -/

/-- `HASH_MAKE_TABLE`. -/
def HASH_MAKE_TABLE (malloc : Malloc) (head : E) : Proc E Unit := do
  check (malloc.grants SIZEOF_TABLE = true) .exit
  check (malloc.grants (HASH_INITIAL_NUM_BUCKETS * SIZEOF_BUCKET) = true) .exit
  set_tbl fun _ =>
    { tail := some head
      num_buckets := HASH_INITIAL_NUM_BUCKETS
      log2_num_buckets := HASH_INITIAL_NUM_BUCKETS_LOG2 }

/-- `HASH_APPEND_LIST`. -/
def HASH_APPEND_LIST (add : E) : Proc E Unit := do
  set_hh add fun h => { h with next := none }
  let tail := (← get_tbl).tail
  set_hh add fun h => { h with prev := tail }
  set_pointee tail fun h => { h with next := some add }
  set_tbl fun t => { t with tail := some add }

/-- `HASH_ADD_TO_TABLE`. -/
def HASH_ADD_TO_TABLE (malloc : Malloc) (hashval : ℕ) (add : E) : Proc E Unit := do
  set_tbl fun t => { t with num_items := t.num_items + 1 }
  HASH_ADD_TO_BKT malloc (HASH_TO_BKT hashval (← get_tbl).num_buckets) add

/-- `HASH_ADD`. -/
def HASH_ADD (hash : K → ℕ) (key : E → K) (malloc : Malloc) (add : E) : Proc E Unit := do
  let hashval := hash (key add)
  set_hh add fun h => { h with hashv := hashval }
  match (← get).head with
  | none => do
      set_hh add fun h => { h with next := none }
      set_hh add fun h => { h with prev := none }
      HASH_MAKE_TABLE malloc add
      set_head (some add)
  | some _ => HASH_APPEND_LIST add
  HASH_ADD_TO_TABLE malloc hashval add

/-- `HASH_DEL`. -/
def HASH_DEL (del : E) : Proc E Unit := do
  let hh ← get_hh del
  if hh.prev = none ∧ hh.next = none then
    -- the last element takes the table with it
    set_head none
  else do
    set_tbl fun t => if t.tail = some del then { t with tail := hh.prev } else t
    match hh.prev with
    | some prev => set_hh prev fun h => { h with next := hh.next }
    | none => set_head hh.next
    set_pointee hh.next fun h => { h with prev := hh.prev }
    let hh ← get_hh del
    HASH_DEL_IN_BKT (HASH_TO_BKT hh.hashv (← get_tbl).num_buckets) del
    set_tbl fun t => { t with num_items := t.num_items - 1 }

/-! ## The hash function -/

/-- The three words that `HASH_JEN` mixes. -/
structure Jen where
  i : UInt32
  j : UInt32
  hashv : UInt32
deriving DecidableEq, Repr

/-- `HASH_JEN_MIX`. -/
def HASH_JEN_MIX (x : Jen) : Jen :=
  let a := x.i
  let b := x.j
  let c := x.hashv
  let a := (a - b - c) ^^^ (c >>> 13)
  let b := (b - c - a) ^^^ (a <<< 8)
  let c := (c - a - b) ^^^ (b >>> 13)
  let a := (a - b - c) ^^^ (c >>> 12)
  let b := (b - c - a) ^^^ (a <<< 16)
  let c := (c - a - b) ^^^ (b >>> 5)
  let a := (a - b - c) ^^^ (c >>> 3)
  let b := (b - c - a) ^^^ (a <<< 10)
  let c := (c - a - b) ^^^ (b >>> 15)
  { i := a, j := b, hashv := c }

/-- A byte of the key, shifted; a key that has no such byte adds nothing. -/
def Jen.byte (key : List UInt8) (at_ : ℕ) (shift : UInt32) : UInt32 :=
  (key.getD at_ 0).toUInt32 <<< shift

/-- Four bytes of the key from `at_` on. -/
def Jen.word (key : List UInt8) (at_ : ℕ) : UInt32 :=
  byte key at_ 0 + byte key (at_ + 1) 8 + byte key (at_ + 2) 16 + byte key (at_ + 3) 24

/-- The loop of `HASH_JEN` over the blocks of twelve bytes, and what is left of the key. -/
def Jen.blocks : ℕ → List UInt8 → Jen → Jen × List UInt8
  | 0, key, x => (x, key)
  | n + 1, key, x =>
      blocks n (key.drop 12) (HASH_JEN_MIX
        { i := x.i + word key 0, j := x.j + word key 4, hashv := x.hashv + word key 8 })

/-- `HASH_JEN`. -/
def HASH_JEN (key : List UInt8) : UInt32 :=
  let start : Jen := { i := 0x9e3779b9, j := 0x9e3779b9, hashv := 0xfeedbeef }
  let (x, rest) := Jen.blocks (key.length / 12) key start
  -- the first byte of `hashv` is reserved for the length
  let hashv := x.hashv + UInt32.ofNat key.length +
    (Jen.byte rest 10 24 + Jen.byte rest 9 16 + Jen.byte rest 8 8)
  (HASH_JEN_MIX { i := x.i + Jen.word rest 0, j := x.j + Jen.word rest 4, hashv := hashv }).hashv

/-- The bytes of a `uint64_t` in memory. -/
def uint64_bytes (n : ℕ) : List UInt8 :=
  (List.range 8).map fun k => UInt8.ofNat (n / 256 ^ k)

/-- `HASH_FCN` of an address. -/
def hash_va (va : ℕ) : ℕ := (HASH_JEN (uint64_bytes va)).toNat

end SwapPrefetch.UtHash
