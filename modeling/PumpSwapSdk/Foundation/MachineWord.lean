import Mathlib.Algebra.Order.Floor.Div
import Mathlib.Data.Nat.Cast.Order.Basic

/-!
# Fixed-width words read as natural numbers

A machine word of `w` bits is a `BitVec w`. Its own `+`, `*` and `/` wrap, so a
word operation that saturates, widens, narrows or rounds up is written here, with
one lemma that says which natural number it denotes.

The lemmas are simp lemmas: a goal about words becomes a goal about `toNat` of the
inputs, with `min` where an operation saturates and truncated subtraction where it
stops at zero (`toNat_saturatingAdd`, `toNat_saturatingSub`). A product or a sum of two
words taken at twice their width is the exact one (`toNat_widen_mul_widen`,
`toNat_widen_add_widen`).
-/

set_option autoImplicit false

namespace Foundation.MachineWord

variable {w v : Nat}

/-- The largest word of a width. -/
def maxValue (w : Nat) : BitVec w := BitVec.allOnes w

@[simp] theorem toNat_maxValue : (maxValue w).toNat = 2 ^ w - 1 := BitVec.toNat_allOnes

theorem toNat_le_max (a : BitVec w) : a.toNat ≤ 2 ^ w - 1 := Nat.le_sub_one_of_lt a.isLt

/-! ## Saturating arithmetic -/

/-- Addition that stops at the largest word. -/
def saturatingAdd (a b : BitVec w) : BitVec w :=
  if a.toNat + b.toNat < 2 ^ w then a + b else maxValue w

@[simp] theorem toNat_saturatingAdd (a b : BitVec w) :
    (saturatingAdd a b).toNat = min (a.toNat + b.toNat) (2 ^ w - 1) := by
  unfold saturatingAdd
  split
  · rename_i fits
    rw [BitVec.toNat_add_of_lt fits]
    omega
  · rw [toNat_maxValue]
    omega

/-- Subtraction that stops at zero. -/
def saturatingSub (a b : BitVec w) : BitVec w :=
  if b.toNat ≤ a.toNat then a - b else 0

@[simp] theorem toNat_saturatingSub (a b : BitVec w) :
    (saturatingSub a b).toNat = a.toNat - b.toNat := by
  unfold saturatingSub
  split
  · rename_i le
    exact BitVec.toNat_sub_of_le (BitVec.le_def.mpr le)
  · simp only [BitVec.ofNat_eq_ofNat, BitVec.toNat_ofNat, Nat.zero_mod]
    omega

/-- Subtraction that reports a result below zero. -/
def checkedSub (a b : BitVec w) : Option (BitVec w) :=
  if b.toNat ≤ a.toNat then some (a - b) else none

theorem checkedSub_eq_some_iff {a b c : BitVec w} :
    checkedSub a b = some c ↔ b.toNat ≤ a.toNat ∧ c.toNat = a.toNat - b.toNat := by
  unfold checkedSub
  split
  · rename_i le
    have exact_sub : (a - b).toNat = a.toNat - b.toNat :=
      BitVec.toNat_sub_of_le (BitVec.le_def.mpr le)
    simp only [Option.some.injEq, le, true_and, ← exact_sub, BitVec.toNat_inj, eq_comm]
  · rename_i above
    simp only [reduceCtorEq, above, false_and]

theorem checkedSub_eq_none_iff {a b : BitVec w} :
    checkedSub a b = none ↔ a.toNat < b.toNat := by
  unfold checkedSub
  split
  · rename_i le
    simp only [reduceCtorEq, false_iff, Nat.not_lt, le]
  · rename_i above
    simp only [true_iff]
    omega

/-! ## Checked arithmetic -/

/-- Addition that reports a result past the largest word. -/
def checkedAdd (a b : BitVec w) : Option (BitVec w) :=
  if a.toNat + b.toNat < 2 ^ w then some (a + b) else none

theorem checkedAdd_of_lt {a b : BitVec w} (fits : a.toNat + b.toNat < 2 ^ w) :
    checkedAdd a b = some (a + b) := if_pos fits

/-- A sum that fits does not saturate. -/
theorem saturatingAdd_of_lt {a b : BitVec w} (fits : a.toNat + b.toNat < 2 ^ w) :
    saturatingAdd a b = a + b := if_pos fits

/-- Multiplication that reports a result past the largest word. -/
def checkedMul (a b : BitVec w) : Option (BitVec w) :=
  if a.toNat * b.toNat < 2 ^ w then some (a * b) else none

theorem checkedMul_of_lt {a b : BitVec w} (fits : a.toNat * b.toNat < 2 ^ w) :
    checkedMul a b = some (a * b) := if_pos fits

/-- Division that reports a zero divisor. -/
def checkedDiv (a b : BitVec w) : Option (BitVec w) := if b = 0 then none else some (a / b)

theorem checkedDiv_of_ne {a b : BitVec w} (divisor : b ≠ 0) : checkedDiv a b = some (a / b) :=
  if_neg divisor

/-! ## Signed addition -/

/-- Signed addition that stops at the least and the greatest signed word. -/
def saturatingAddSigned (a b : BitVec w) : BitVec w :=
  BitVec.ofInt w (max (-2 ^ (w - 1)) (min (a.toInt + b.toInt) (2 ^ (w - 1) - 1)))

@[simp] theorem toInt_saturatingAddSigned (pos : 0 < w) (a b : BitVec w) :
    (saturatingAddSigned a b).toInt =
      max (-2 ^ (w - 1)) (min (a.toInt + b.toInt) (2 ^ (w - 1) - 1)) := by
  have half : (0 : Int) < 2 ^ (w - 1) := Int.pow_pos (by decide)
  exact BitVec.toInt_ofInt_eq_self pos (by omega) (by omega)

/-! ## Changing width -/

/-- The same number in a wider word. -/
def widen (v : Nat) (a : BitVec w) : BitVec v := a.setWidth v

theorem toNat_widen (a : BitVec w) (le : w ≤ v) : (widen v a).toNat = a.toNat :=
  BitVec.toNat_setWidth_of_le le

/-- A word is not negative in a wider one. -/
theorem toInt_widen (a : BitVec w) (lt : w < v) : (widen v a).toInt = a.toNat := by
  have wide := toNat_widen a lt.le
  have fits : 2 * (widen v a).toNat < 2 ^ v :=
    calc 2 * (widen v a).toNat < 2 * 2 ^ w := by
          have := a.isLt
          omega
      _ = 2 ^ (w + 1) := (pow_succ' 2 w).symm
      _ ≤ 2 ^ v := Nat.pow_le_pow_right (by decide) lt
  rw [BitVec.toInt_eq_toNat_of_lt fits, wide]

/-- A product of two words taken in a word wide enough for both is exact. -/
theorem toNat_widen_mul_widen (a b : BitVec w) (wide : w + w ≤ v) :
    (widen v a * widen v b).toNat = a.toNat * b.toNat := by
  have fits : a.toNat * b.toNat < 2 ^ v :=
    calc a.toNat * b.toNat < 2 ^ w * 2 ^ w := Nat.mul_lt_mul'' a.isLt b.isLt
      _ = 2 ^ (w + w) := (pow_add 2 w w).symm
      _ ≤ 2 ^ v := Nat.pow_le_pow_right (by decide) wide
  rw [BitVec.toNat_mul, toNat_widen a (by omega), toNat_widen b (by omega), Nat.mod_eq_of_lt fits]

/-- A sum of two words taken in a wider word is exact. -/
theorem toNat_widen_add_widen (a b : BitVec w) (wide : w < v) :
    (widen v a + widen v b).toNat = a.toNat + b.toNat := by
  have fits : a.toNat + b.toNat < 2 ^ v :=
    calc a.toNat + b.toNat < 2 ^ w + 2 ^ w := Nat.add_lt_add a.isLt b.isLt
      _ = 2 ^ (w + 1) := by rw [pow_succ, Nat.mul_two]
      _ ≤ 2 ^ v := Nat.pow_le_pow_right (by decide) wide
  rw [BitVec.toNat_add, toNat_widen a (by omega), toNat_widen b (by omega), Nat.mod_eq_of_lt fits]

/-- A signed word that is not negative narrows to the same number, when it fits. -/
theorem toNat_setWidth_of_toInt {a : BitVec w} (nonneg : 0 ≤ a.toInt) (fits : a.toInt < 2 ^ v) :
    (a.setWidth v).toNat = a.toInt.toNat := by
  have same : (a.toNat : Int) = a.toInt := by
    have word := a.isLt
    rw [BitVec.toInt_eq_toNat_cond] at nonneg ⊢
    split
    · rfl
    · omega
  have small : a.toNat < 2 ^ v := by
    rw [← same] at fits
    exact_mod_cast fits
  rw [BitVec.toNat_setWidth, Nat.mod_eq_of_lt small, ← same, Int.toNat_natCast]

/-- The same number in a narrower word, when it fits. -/
def tryFrom (v : Nat) (a : BitVec w) : Option (BitVec v) :=
  if a.toNat < 2 ^ v then some (a.setWidth v) else none

/-- Narrowing a number that fits takes no fallback. -/
theorem tryFrom_of_lt {a : BitVec w} (fits : a.toNat < 2 ^ v) (fallback : BitVec v) :
    tryFrom v a = some ((tryFrom v a).getD fallback) := by
  rw [tryFrom, if_pos fits, Option.getD_some]

/-- Narrowing that falls back to the largest word keeps the smaller of the two. -/
@[simp] theorem toNat_tryFrom_getD_max (a : BitVec w) :
    ((tryFrom v a).getD (maxValue v)).toNat = min a.toNat (2 ^ v - 1) := by
  unfold tryFrom
  split
  · rename_i fits
    rw [Option.getD_some, BitVec.toNat_setWidth, Nat.mod_eq_of_lt fits]
    omega
  · rw [Option.getD_none, toNat_maxValue]
    omega

/-! ## Division rounded up -/

/-- Division rounded up: the quotient, and one more when a remainder is left. -/
def divCeil (a b : BitVec w) : BitVec w :=
  if (a % b).toNat = 0 then a / b else a / b + 1

/-- Ceiling division is the quotient, and one more when a remainder is left. -/
theorem ceilDiv_eq_div_add {m n : Nat} (pos : 0 < n) :
    m ⌈/⌉ n = if m % n = 0 then m / n else m / n + 1 := by
  have division := Nat.div_add_mod m n
  have remainder := Nat.mod_lt m pos
  split
  · rename_i divides
    refine le_antisymm ((ceilDiv_le_iff_le_mul pos).mpr (by omega)) ?_
    have covered : m ≤ n * (m ⌈/⌉ n) := le_smul_ceilDiv pos
    exact Nat.div_le_of_le_mul covered
  · rename_i rest
    refine le_antisymm ((ceilDiv_le_iff_le_mul pos).mpr ?_) ?_
    · rw [Nat.mul_add]
      omega
    · have covered : m ≤ n * (m ⌈/⌉ n) := le_smul_ceilDiv pos
      by_contra below
      have : n * (m ⌈/⌉ n) ≤ n * (m / n) := Nat.mul_le_mul_left n (by omega)
      omega

/-- Ceiling division covers the dividend, and by less than one divisor too much. -/
theorem ceilDiv_bounds (m : Nat) {n : Nat} (pos : 0 < n) :
    m ≤ n * (m ⌈/⌉ n) ∧ n * (m ⌈/⌉ n) < m + n := by
  refine ⟨le_smul_ceilDiv pos, ?_⟩
  have division := Nat.div_add_mod m n
  rw [ceilDiv_eq_div_add pos]
  split
  · omega
  · rw [Nat.mul_add]
    omega

/-- A remainder forces the divisor past one, so the quotient leaves room for the carry. -/
theorem quotient_add_one_lt {a b : BitVec w} (pos : 0 < b.toNat) (rest : (a % b).toNat ≠ 0) :
    (1 : BitVec w).toNat = 1 ∧ (a / b).toNat + 1 < 2 ^ w := by
  have divisor : 2 ≤ b.toNat := by
    by_contra small
    have one : b.toNat = 1 := by omega
    rw [BitVec.toNat_umod, one, Nat.mod_one] at rest
    exact rest rfl
  have one_fits : 1 < 2 ^ w := lt_of_lt_of_le divisor b.isLt.le
  refine ⟨?_, ?_⟩
  · rw [BitVec.ofNat_eq_ofNat, BitVec.toNat_ofNat, Nat.mod_eq_of_lt one_fits]
  · have half : a.toNat / b.toNat ≤ a.toNat / 2 := Nat.div_le_div_left divisor (by decide)
    have bound := a.isLt
    have bound' := b.isLt
    rw [BitVec.toNat_udiv]
    omega

@[simp] theorem toNat_divCeil (a b : BitVec w) (pos : 0 < b.toNat) :
    (divCeil a b).toNat = a.toNat ⌈/⌉ b.toNat := by
  unfold divCeil
  rw [ceilDiv_eq_div_add pos, ← BitVec.toNat_umod, ← BitVec.toNat_udiv]
  split
  · rfl
  · rename_i rest
    obtain ⟨one, room⟩ := quotient_add_one_lt pos rest
    rw [BitVec.toNat_add, one, Nat.mod_eq_of_lt room]

/-- Division rounded up that reports a zero divisor, and a carry past the largest word. -/
def checkedDivCeil (a b : BitVec w) : Option (BitVec w) := do
  let quotient ← checkedDiv a b
  if (a % b).toNat = 0 then some quotient else checkedAdd quotient 1

/-- Division rounded up never carries past the largest word. -/
theorem checkedDivCeil_of_ne {a b : BitVec w} (divisor : b ≠ 0) :
    checkedDivCeil a b = some (divCeil a b) := by
  have pos : 0 < b.toNat := Nat.pos_of_ne_zero fun zero => divisor (BitVec.eq_of_toNat_eq zero)
  rw [checkedDivCeil, checkedDiv_of_ne divisor, divCeil]
  simp only [Option.bind_eq_bind, Option.bind_some]
  split
  · rfl
  · rename_i rest
    obtain ⟨one, room⟩ := quotient_add_one_lt pos rest
    exact checkedAdd_of_lt (by omega)

end Foundation.MachineWord
