import Mathlib.Data.Nat.Log
import Mathlib.Tactic.Linarith
import Mathlib.Tactic.Ring

/-!
# Rounding a natural number to significant bits

`nearest n k` is `n / 2 ^ k` rounded to the nearest natural number, a tie going to the even
one. Keeping the `p` leading bits of `n` this way gives `toSignificant p n`, the value a
binary floating-point format with `p` bits of precision stores for `n`.

A number is stored unchanged exactly when the bits dropped are zero
(`toSignificant_eq_iff`), and is otherwise off by at most half of the last bit kept
(`toSignificant_le`).
-/

set_option autoImplicit false

namespace Foundation.Rounding

variable {n k p : ℕ}

/-- `n / 2 ^ k` rounded to the nearest natural number, ties to even. -/
def nearest (n k : ℕ) : ℕ :=
  if 2 * (n % 2 ^ k) < 2 ^ k ∨ 2 * (n % 2 ^ k) = 2 ^ k ∧ n / 2 ^ k % 2 = 0 then n / 2 ^ k
  else n / 2 ^ k + 1

theorem div_le_nearest (n k : ℕ) : n / 2 ^ k ≤ nearest n k := by
  unfold nearest
  split <;> omega

theorem nearest_le_div_succ (n k : ℕ) : nearest n k ≤ n / 2 ^ k + 1 := by
  unfold nearest
  split <;> omega

/-- Rounding goes up by at most half a unit. -/
theorem two_mul_nearest_le (n k : ℕ) : 2 * (nearest n k * 2 ^ k) ≤ 2 * n + 2 ^ k := by
  have division := Nat.div_add_mod n (2 ^ k)
  unfold nearest
  split
  · nlinarith only [division, Nat.zero_le (n % 2 ^ k), Nat.zero_le (2 ^ k)]
  · rename_i up
    have half : 2 ^ k ≤ 2 * (n % 2 ^ k) := by omega
    nlinarith only [division, half]

/-- Rounding to a multiple changes nothing exactly on the multiples. -/
theorem nearest_mul_eq_iff : nearest n k * 2 ^ k = n ↔ 2 ^ k ∣ n := by
  constructor
  · intro kept
    exact ⟨nearest n k, by rw [Nat.mul_comm, kept]⟩
  · intro divides
    have none_left : n % 2 ^ k = 0 := Nat.mod_eq_zero_of_dvd divides
    have down : nearest n k = n / 2 ^ k := by
      simp [nearest, none_left]
    rw [down, Nat.div_mul_cancel divides]

/-- The number of low bits of `n` beyond its `p` leading ones. -/
def dropped (p n : ℕ) : ℕ := n.log2 + 1 - p

/-- `n` rounded to its `p` leading bits. -/
def toSignificant (p n : ℕ) : ℕ := nearest n (dropped p n) * 2 ^ dropped p n

/-- **A number survives rounding exactly when the dropped bits are zero.** -/
theorem toSignificant_eq_iff : toSignificant p n = n ↔ 2 ^ dropped p n ∣ n :=
  nearest_mul_eq_iff

/-- A number of at most `p` bits has nothing to drop. -/
theorem dropped_eq_zero (small : n < 2 ^ p) (pos : 0 < p) : dropped p n = 0 := by
  rcases Nat.eq_zero_or_pos n with rfl | positive
  · simp only [dropped, Nat.log2_zero]
    omega
  · have bits : n.log2 < p := (Nat.log2_lt positive.ne').mpr small
    simp only [dropped]
    omega

theorem toSignificant_of_lt (small : n < 2 ^ p) (pos : 0 < p) : toSignificant p n = n := by
  rw [toSignificant_eq_iff, dropped_eq_zero small pos, pow_zero]
  exact one_dvd n

/-- The leading `p + 1` bits of a number that has as many. -/
theorem leading_bits (positive : n ≠ 0) (bits : p ≤ n.log2) :
    2 ^ p ≤ n / 2 ^ (n.log2 - p) ∧ n / 2 ^ (n.log2 - p) < 2 ^ (p + 1) := by
  constructor
  · rw [Nat.le_div_iff_mul_le (by positivity), ← pow_add, Nat.add_sub_of_le bits]
    exact Nat.log2_self_le positive
  · rw [Nat.div_lt_iff_lt_mul (by positivity), ← pow_add,
      show p + 1 + (n.log2 - p) = n.log2 + 1 by omega]
    exact Nat.lt_log2_self

/-- Rounding to `p + 1` bits goes up by at most one part in `2 ^ (p + 1)`. -/
theorem toSignificant_le (n p : ℕ) :
    2 ^ (p + 1) * toSignificant (p + 1) n ≤ (2 ^ (p + 1) + 1) * n := by
  by_cases small : n < 2 ^ (p + 1)
  · rw [toSignificant_of_lt small (by omega)]
    exact Nat.mul_le_mul_right n (by omega)
  · have positive : n ≠ 0 := by
      rintro rfl
      exact small (by positivity)
    have bits : p + 1 ≤ n.log2 := (Nat.le_log2 positive).mpr (by omega)
    have kept := (leading_bits positive (show p ≤ n.log2 by omega)).1
    have same : n.log2 + 1 - (p + 1) = n.log2 - p := by omega
    rw [toSignificant, dropped, same]
    have error := two_mul_nearest_le n (n.log2 - p)
    have unit : 2 ^ p * 2 ^ (n.log2 - p) ≤ n :=
      (Nat.mul_le_mul_right _ kept).trans (Nat.div_mul_le_self n _)
    calc 2 ^ (p + 1) * (nearest n (n.log2 - p) * 2 ^ (n.log2 - p))
        = 2 ^ p * (2 * (nearest n (n.log2 - p) * 2 ^ (n.log2 - p))) := by ring
      _ ≤ 2 ^ p * (2 * n + 2 ^ (n.log2 - p)) := Nat.mul_le_mul_left _ error
      _ = 2 ^ (p + 1) * n + 2 ^ p * 2 ^ (n.log2 - p) := by ring
      _ ≤ 2 ^ (p + 1) * n + n := Nat.add_le_add_left unit _
      _ = (2 ^ (p + 1) + 1) * n := by ring

end Foundation.Rounding
