/-
Little-endian words in byte buffers.

`value b n` is the number that the bytes `b 0, ..., b (n - 1)` stand for, and `byte w i` is
byte `i` of `w`; they are inverse to each other. `load` and `store` are the two accesses of
a `uint64_t *` into a buffer of any size.
-/
import Mathlib.Tactic

set_option autoImplicit false

namespace Words

/-! ## Bytes of a number -/

/-- The number that the first `n` bytes stand for. -/
def value (b : ℕ → UInt8) : ℕ → ℕ
  | 0 => 0
  | n + 1 => value b n + (b n).toNat * 256 ^ n

/-- Byte `i` of `w`. -/
def byte (w i : ℕ) : UInt8 := UInt8.ofNat (w / 256 ^ i)

theorem value_lt (b : ℕ → UInt8) (n : ℕ) : value b n < 256 ^ n := by
  induction n with
  | zero => simp [value]
  | succ n ih =>
      have hb : (b n).toNat ≤ 255 := Nat.le_of_lt_succ (b n).toNat_lt
      have hmul : (b n).toNat * 256 ^ n ≤ 255 * 256 ^ n := Nat.mul_le_mul_right _ hb
      rw [value, pow_succ]
      omega

theorem toNat_byte (w i : ℕ) : (byte w i).toNat = w / 256 ^ i % 256 := by
  simp [byte]

/-- The bytes of `w` stand for `w`, as far as they reach. -/
theorem value_byte (w n : ℕ) : value (byte w) n = w % 256 ^ n := by
  induction n with
  | zero => simp [value, Nat.mod_one]
  | succ n ih =>
      rw [value, ih, toNat_byte, pow_succ, Nat.mod_mul, Nat.mul_comm]

/-- The number that bytes stand for has these bytes. -/
theorem byte_value (b : ℕ → UInt8) {n i : ℕ} (hi : i < n) : byte (value b n) i = b i := by
  induction n with
  | zero => exact absurd hi (Nat.not_lt_zero i)
  | succ n ih =>
      have hpos : 0 < 256 ^ i := Nat.pow_pos (by decide)
      apply UInt8.toNat_inj.1
      rw [toNat_byte, value]
      rcases Nat.lt_succ_iff_lt_or_eq.1 hi with hlt | rfl
      · -- the new byte is above byte `i`
        obtain ⟨k, rfl⟩ := Nat.exists_eq_add_of_lt hlt
        have hsplit : (b (i + k + 1)).toNat * 256 ^ (i + k + 1)
            = 256 ^ i * (256 * ((b (i + k + 1)).toNat * 256 ^ k)) := by ring
        rw [hsplit, Nat.add_mul_div_left _ _ hpos, Nat.add_mul_mod_self_left, ← toNat_byte, ih hlt]
      · rw [Nat.add_mul_div_right _ _ hpos, Nat.div_eq_of_lt (value_lt b i), Nat.zero_add,
          Nat.mod_eq_of_lt (b i).toNat_lt]

/-! ## Words in a buffer -/

section Buffer

variable {n : ℕ} (p : Fin n → UInt8) (off : ℕ)

/-- Byte `k` of a buffer. -/
def peek (k : ℕ) : UInt8 := if h : k < n then p ⟨k, h⟩ else 0

/-- The 64-bit word at `off`. -/
def load : ℕ := value (fun i => peek p (off + i)) 8

/-- The buffer with the 64-bit word `w` at `off`. -/
def store (w : ℕ) : Fin n → UInt8 :=
  fun k => if off ≤ k.val ∧ k.val < off + 8 then byte w (k.val - off) else p k

theorem load_lt : load p off < 2 ^ 64 := value_lt _ 8

variable {off}

theorem value_congr {b b' : ℕ → UInt8} {m : ℕ} (h : ∀ i, i < m → b i = b' i) :
    value b m = value b' m := by
  induction m with
  | zero => rfl
  | succ m ih => rw [value, value, ih fun i hi => h i (by omega), h m (by omega)]

theorem load_store (h : off + 8 ≤ n) {w : ℕ} (hw : w < 2 ^ 64) : load (store p off w) off = w := by
  have hb : ∀ i, i < 8 → peek (store p off w) (off + i) = byte w i := by
    intro i hi
    rw [peek, dif_pos (by omega), store]
    simp only
    rw [if_pos ⟨by omega, by omega⟩, Nat.add_sub_cancel_left]
  rw [load, value_congr hb, value_byte]
  exact Nat.mod_eq_of_lt hw

/-- Storing the word that is there changes nothing. -/
theorem store_load : store p off (load p off) = p := by
  funext k
  rw [store]
  by_cases hk : off ≤ k.val ∧ k.val < off + 8
  · rw [if_pos hk, load, byte_value _ (by omega), Nat.add_sub_cancel' hk.1, peek, dif_pos k.isLt]
  · rw [if_neg hk]

theorem store_eq_self_iff (h : off + 8 ≤ n) {w : ℕ} (hw : w < 2 ^ 64) :
    store p off w = p ↔ load p off = w := by
  constructor
  · intro he
    rw [← he, load_store p h hw]
  · rintro rfl
    exact store_load p

theorem store_store (w w' : ℕ) : store (store p off w) off w' = store p off w' := by
  funext k
  simp only [store]
  split
  · rfl
  · rfl

end Buffer

end Words
