import Mathlib.Data.Nat.Digits.Defs

/-!
# Little-endian bytes

A word of `8 * n` bits and its `n` bytes, least significant first. The two directions undo
each other (`ofBytes_toBytes`, `toBytes_ofBytes`), so equal words have equal bytes and a
string of the right length is the bytes of exactly one word.
-/

set_option autoImplicit false

namespace Foundation.LittleEndian

/-- The number a string of bytes denotes, least significant byte first. -/
def value (bytes : List (BitVec 8)) : ℕ := Nat.ofDigits 256 (bytes.map BitVec.toNat)

/-- The `n` low bytes of a number, least significant byte first. -/
def digits : ℕ → ℕ → List (BitVec 8)
  | 0, _ => []
  | n + 1, v => BitVec.ofNat 8 v :: digits n (v / 256)

/-- The bytes of a word of `n` bytes. -/
def toBytes (n : ℕ) (a : BitVec (8 * n)) : List (BitVec 8) := digits n a.toNat

/-- The word of `n` bytes a string denotes. -/
def ofBytes (n : ℕ) (bytes : List (BitVec 8)) : BitVec (8 * n) := BitVec.ofNat _ (value bytes)

@[simp] theorem value_nil : value [] = 0 := rfl

theorem value_cons (byte : BitVec 8) (bytes : List (BitVec 8)) :
    value (byte :: bytes) = byte.toNat + 256 * value bytes :=
  Nat.ofDigits_cons

@[simp] theorem length_digits (n v : ℕ) : (digits n v).length = n := by
  induction n generalizing v with
  | zero => rfl
  | succ n ih => simp only [digits, List.length_cons, ih]

@[simp] theorem length_toBytes (n : ℕ) (a : BitVec (8 * n)) : (toBytes n a).length = n :=
  length_digits n _

theorem value_digits (n v : ℕ) : value (digits n v) = v % 256 ^ n := by
  induction n generalizing v with
  | zero => simp only [digits, value_nil, pow_zero, Nat.mod_one]
  | succ n ih =>
      rw [digits, value_cons, ih, BitVec.toNat_ofNat, pow_succ' 256]
      exact Nat.mod_mul.symm

theorem value_lt (bytes : List (BitVec 8)) : value bytes < 256 ^ bytes.length := by
  have small : ∀ digit ∈ bytes.map BitVec.toNat, digit < 256 := by
    simp only [List.mem_map]
    rintro _ ⟨byte, -, rfl⟩
    exact byte.isLt
  simpa [value] using Nat.ofDigits_lt_base_pow_length (by decide) small

theorem digits_value (bytes : List (BitVec 8)) : digits bytes.length (value bytes) = bytes := by
  induction bytes with
  | nil => rfl
  | cons byte bytes ih =>
      have low : BitVec.ofNat 8 (value (byte :: bytes)) = byte := by
        refine BitVec.eq_of_toNat_eq ?_
        have := byte.isLt
        rw [BitVec.toNat_ofNat, value_cons]
        omega
      have high : value (byte :: bytes) / 256 = value bytes := by
        have := byte.isLt
        rw [value_cons]
        omega
      rw [List.length_cons, digits, low, high, ih]

theorem two_pow_eight_mul (n : ℕ) : 2 ^ (8 * n) = 256 ^ n := by
  rw [pow_mul]
  rfl

/-- Reading the bytes of a word gives the word back. -/
@[simp] theorem ofBytes_toBytes (n : ℕ) (a : BitVec (8 * n)) : ofBytes n (toBytes n a) = a := by
  refine BitVec.eq_of_toNat_eq ?_
  rw [ofBytes, BitVec.toNat_ofNat, toBytes, value_digits, two_pow_eight_mul, Nat.mod_mod,
    ← two_pow_eight_mul, Nat.mod_eq_of_lt a.isLt]

/-- The bytes of the word read from a string of the right length are that string. -/
theorem toBytes_ofBytes {n : ℕ} {bytes : List (BitVec 8)} (length : bytes.length = n) :
    toBytes n (ofBytes n bytes) = bytes := by
  subst length
  rw [toBytes, ofBytes, BitVec.toNat_ofNat, two_pow_eight_mul, Nat.mod_eq_of_lt (value_lt bytes),
    digits_value]

end Foundation.LittleEndian
