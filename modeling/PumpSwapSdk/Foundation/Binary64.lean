import Mathlib
import PumpSwapSdk.Foundation.Rounding

/-!
# Words through binary64

A 64-bit word converted to a double and back is rounded to 53 significant bits and then
clamped to the word range. The conversions here are the logical model that Lean's `Float`
comes with; `floor` and `ceil`, which that model leaves out, are written on its unpacked
form.

`Denotes x n` says that the double `x` is exactly the natural number `n`. Converting a word
denotes the rounded word (`denotes_ofWord`), multiplying by one and rounding to an integer
keep what is denoted (`Denotes.mul_one`, `Denotes.floor`, `Denotes.ceil`), and converting
back reads it off, clamped (`Denotes.toWord`).
-/

set_option autoImplicit false

namespace Foundation.Binary64

open Float.Model Float.Model.UnpackedFloat Float.Model.UnpackedFloat.ExtendedMantissa
open Foundation.Rounding

/-! ## Operations -/

/-- A word as a double, to nearest, ties to even. -/
def ofWord (a : BitVec 64) : Float := (UInt64.ofBitVec a).toFloat

/-- A double as a word: truncated, clamped, and zero for a NaN. -/
def toWord (x : Float) : BitVec 64 := x.toUInt64.toBitVec

/-- The double with a given unpacked form. -/
def ofUnpacked (x : UnpackedFloat) : Float := .ofModel (Float.Model.pack x)

/-- A double brought to an integral value: `rule` rounds the quotient of the mantissa and a
power of two, which is the magnitude of a double with a negative exponent. -/
def toIntegral (rule : Sign → ℕ → ℕ → ℕ) (x : Float) : Float :=
  match x.toModel.unpack with
  | .finite s m e _ =>
      if 0 ≤ e then x
      else ofUnpacked (UnpackedFloat.round Format.binary64 s (rule s m (2 ^ (-e).toNat)) 0)
  | _ => x

/-- The quotient of magnitudes, rounded towards zero. -/
def quotientDown (m d : ℕ) : ℕ := m / d

/-- The quotient of magnitudes, rounded away from zero. -/
def quotientUp (m d : ℕ) : ℕ := (m + (d - 1)) / d

/-- The largest integral double not above. -/
def floor : Float → Float :=
  toIntegral fun
    | .positive => quotientDown
    | .negative => quotientUp

/-- The smallest integral double not below. -/
def ceil : Float → Float :=
  toIntegral fun
    | .positive => quotientUp
    | .negative => quotientDown

/-- The nearest integral double, ties away from zero. -/
def round : Float → Float :=
  toIntegral fun _ m d => (2 * m + d) / (2 * d)

/-- The larger double; a NaN yields to a number. -/
def maxNum (x y : Float) : Float :=
  if x.isNaN then y else if y.isNaN then x else if x < y then y else x

/-- The smaller double; a NaN yields to a number. -/
def minNum (x y : Float) : Float :=
  if x.isNaN then y else if y.isNaN then x else if y < x then y else x

/-- A double kept between two others; a NaN stays one. -/
def clamp (x low high : Float) : Float :=
  let raised := if x < low then low else x
  if high < raised then high else raised

/-! ## Rounding a mantissa -/

/-- Shifting an exact mantissa right keeps the round bit and the sticky bit. -/
theorem shiftRight_exact (m k : ℕ) :
    (ofMantissaAndAccuracy m .exact) >>> k =
      ⟨m / 2 ^ k, decide (2 ^ k ≤ 2 * (m % 2 ^ k)), decide (2 * (m % 2 ^ k) % 2 ^ k ≠ 0)⟩ := by
  induction k with
  | zero =>
      simp [HShiftRight.hShiftRight, Nat.repeat, ofMantissaAndAccuracy, Nat.mod_one]
  | succ k ih =>
      change shiftRightOne ((ofMantissaAndAccuracy m .exact) >>> k) = _
      rw [ih]
      have split : m % 2 ^ (k + 1) = m % 2 ^ k + 2 ^ k * (m / 2 ^ k % 2) := Nat.mod_pow_succ
      have low : m % 2 ^ k < 2 ^ k := Nat.mod_lt _ (by positivity)
      have double : 2 * (m % 2 ^ (k + 1)) % 2 ^ (k + 1) = 2 * (m % 2 ^ k) := by
        rw [pow_succ', Nat.mul_mod_mul_left, ← pow_succ', split, Nat.add_mul_mod_self_left,
          Nat.mod_eq_of_lt low]
      rw [double, split, pow_succ]
      simp only [shiftRightOne, ExtendedMantissa.mk.injEq, Nat.div_div_eq_div_mul]
      refine ⟨trivial, ?_, ?_⟩
      · rcases Nat.mod_two_eq_zero_or_one (m / 2 ^ k) with bit | bit
        · simp only [bit, bne_self_eq_false, Nat.mul_zero, Nat.add_zero, false_eq_decide_iff]
          omega
        · simp only [bit, Nat.mul_one]
          simp
          omega
      · by_cases rest : m % 2 ^ k = 0
        · simp [rest]
        · by_cases half : 2 ^ k ≤ 2 * (m % 2 ^ k)
          · simp [half, rest]
          · have small : 2 * (m % 2 ^ k) % 2 ^ k = 2 * (m % 2 ^ k) := Nat.mod_eq_of_lt (by omega)
            simp [small, rest]

/-- The model rounds an exact mantissa to nearest, ties to even. -/
theorem roundedMantissa_shiftRight (m k : ℕ) :
    ((ofMantissaAndAccuracy m .exact) >>> k).roundedMantissa = nearest m k := by
  rw [shiftRight_exact]
  have low : m % 2 ^ k < 2 ^ k := Nat.mod_lt _ (by positivity)
  by_cases half : 2 ^ k ≤ 2 * (m % 2 ^ k)
  · rw [decide_eq_true half]
    have wrapped : 2 * (m % 2 ^ k) % 2 ^ k = 2 * (m % 2 ^ k) - 2 ^ k := by
      rw [Nat.mod_eq_sub_mod half, Nat.mod_eq_of_lt (by omega)]
    by_cases tie : 2 * (m % 2 ^ k) = 2 ^ k
    · rw [decide_eq_false (by omega)]
      rcases Nat.mod_two_eq_zero_or_one (m / 2 ^ k) with even | odd
      · simp [roundedMantissa, accuracy, Accuracy.roundToNearestEven, nearest, tie, even]
      · simp [roundedMantissa, accuracy, Accuracy.roundToNearestEven, nearest, tie, odd]
    · rw [decide_eq_true (by omega)]
      have not_below : ¬ 2 * (m % 2 ^ k) < 2 ^ k := by omega
      simp [roundedMantissa, accuracy, Accuracy.roundToNearestEven, nearest, tie, not_below]
  · rw [decide_eq_false half]
    have below : 2 * (m % 2 ^ k) < 2 ^ k := by omega
    by_cases rest : 2 * (m % 2 ^ k) % 2 ^ k = 0
    · rw [decide_eq_false (by omega)]
      simp [roundedMantissa, accuracy, Accuracy.roundToNearestEven, nearest, below]
    · rw [decide_eq_true rest]
      simp [roundedMantissa, accuracy, Accuracy.roundToNearestEven, nearest, below]

/-- Shifting to an exponent that is already reached changes nothing. -/
theorem shiftToTargetExponent_of_le (m : ℕ) (e : ℤ)
    (reached : Format.binary64.targetExponent (totalExponent m e) ≤ e) :
    shiftToTargetExponent Format.binary64 m e .exact = (⟨m, false, false⟩, e) := by
  have none : (Format.binary64.targetExponent (totalExponent m e) - e).toNat = 0 := by omega
  simp [shiftToTargetExponent, shiftToExponent, none, HShiftRight.hShiftRight, Nat.repeat,
    ofMantissaAndAccuracy]

/-- The exponent a normal double of a given size has. -/
theorem targetExponent_eq {m : ℕ} {e : ℤ} (normal : -1074 ≤ e + m.log2 - 52) :
    Format.binary64.targetExponent (totalExponent m e) = e + m.log2 - 52 := by
  simp only [Format.targetExponent, totalExponent, Format.mantissaBits, Format.minExponent]
  norm_num
  omega

/-- Rounding is two shifts with a rounded mantissa between them. -/
theorem roundWithAccuracy_of_shifts (s : Sign) {m : ℕ} {e e₁ e₂ : ℤ}
    {em₁ em₂ : ExtendedMantissa}
    (first : shiftToTargetExponent Format.binary64 m e .exact = (em₁, e₁))
    (second : shiftToTargetExponent Format.binary64 em₁.roundedMantissa e₁ .exact = (em₂, e₂))
    (pos : 0 < em₂.mantissa) :
    roundWithAccuracy Format.binary64 s m e .exact = .finite s em₂.mantissa e₂ pos := by
  simp [roundWithAccuracy, first, second, pos.ne']

/-- A mantissa of at least 53 bits is rounded to 53; a carry out of the top bit moves the
exponent. -/
theorem roundWithAccuracy_of_wide (s : Sign) {m : ℕ} {e : ℤ} (wide : 52 ≤ m.log2)
    (normal : -1074 ≤ e + (m.log2 - 52 : ℕ)) :
    ∃ m' e' pos, roundWithAccuracy Format.binary64 s m e .exact = .finite s m' e' pos ∧
      2 ^ 52 ≤ m' ∧ m' < 2 ^ 53 ∧
      (m' = nearest m (m.log2 - 52) ∧ e' = e + (m.log2 - 52 : ℕ) ∨
        nearest m (m.log2 - 52) = 2 ^ 53 ∧ m' = 2 ^ 52 ∧ e' = e + (m.log2 - 52 : ℕ) + 1) := by
  have positive : m ≠ 0 := by
    rintro rfl
    simp only [Nat.log2_zero] at wide
    omega
  obtain ⟨least, most⟩ := leading_bits positive wide
  have rounded_least := least.trans (div_le_nearest m (m.log2 - 52))
  have rounded_most := nearest_le_div_succ m (m.log2 - 52)
  have target := targetExponent_eq (m := m) (e := e) (by omega)
  have amount : (Format.binary64.targetExponent (totalExponent m e) - e).toNat =
      m.log2 - 52 := by omega
  have first : shiftToTargetExponent Format.binary64 m e .exact =
      ((ofMantissaAndAccuracy m .exact) >>> (m.log2 - 52), e + (m.log2 - 52 : ℕ)) := by
    simp only [shiftToTargetExponent, shiftToExponent, amount]
  by_cases carry : nearest m (m.log2 - 52) = 2 ^ 53
  · have target' := targetExponent_eq (m := 2 ^ 53) (e := e + (m.log2 - 52 : ℕ))
      (by rw [Nat.log2_two_pow]; omega)
    rw [Nat.log2_two_pow] at target'
    have one : (Format.binary64.targetExponent
        (totalExponent (2 ^ 53) (e + (m.log2 - 52 : ℕ))) - (e + (m.log2 - 52 : ℕ))).toNat = 1 := by
      omega
    have second : shiftToTargetExponent Format.binary64
        ((ofMantissaAndAccuracy m .exact) >>> (m.log2 - 52)).roundedMantissa
        (e + (m.log2 - 52 : ℕ)) .exact =
        ((ofMantissaAndAccuracy (2 ^ 53) .exact) >>> 1, e + (m.log2 - 52 : ℕ) + 1) := by
      rw [roundedMantissa_shiftRight, carry]
      simp only [shiftToTargetExponent, shiftToExponent, one, Nat.cast_one]
    exact ⟨2 ^ 52, e + (m.log2 - 52 : ℕ) + 1, by decide,
      roundWithAccuracy_of_shifts s first second (by rw [shiftRight_exact]; decide),
      le_rfl, by decide, .inr ⟨carry, rfl, rfl⟩⟩
  · have bits : (nearest m (m.log2 - 52)).log2 = 52 := by
      rw [Nat.log2_eq_iff (by omega)]
      omega
    have second : shiftToTargetExponent Format.binary64
        ((ofMantissaAndAccuracy m .exact) >>> (m.log2 - 52)).roundedMantissa
        (e + (m.log2 - 52 : ℕ)) .exact =
        (⟨nearest m (m.log2 - 52), false, false⟩, e + (m.log2 - 52 : ℕ)) := by
      rw [roundedMantissa_shiftRight]
      exact shiftToTargetExponent_of_le _ _ (by rw [targetExponent_eq (by omega)]; omega)
    have pos : 0 < nearest m (m.log2 - 52) := by omega
    exact ⟨nearest m (m.log2 - 52), e + (m.log2 - 52 : ℕ), pos,
      roundWithAccuracy_of_shifts s first second pos, rounded_least, by omega, .inl ⟨rfl, rfl⟩⟩

/-! ## Normal doubles -/

/-- The double is the positive number `m * 2 ^ e`, with a full mantissa. -/
structure Normal (x : Float) (m : ℕ) (e : ℤ) : Prop where
  least : 2 ^ 52 ≤ m
  most : m < 2 ^ 53
  small : -1074 ≤ e
  large : e ≤ 971
  eq : x = ofUnpacked (.finite .positive m e (by omega))

theorem Normal.pos {x : Float} {m : ℕ} {e : ℤ} (normal : Normal x m e) : 0 < m :=
  lt_of_lt_of_le (by decide) normal.least

/-- Putting the implicit bit back restores a full mantissa. -/
theorem toNat_implicit_bit {m : ℕ} (least : 2 ^ 52 ≤ m) (most : m < 2 ^ 53) :
    (1#1 ++ BitVec.ofNat 52 m).toNat = m := by
  rw [BitVec.toNat_append, ← Nat.shiftLeft_add_eq_or_of_lt (BitVec.isLt _)]
  simp only [Nat.shiftLeft_eq, BitVec.toNat_ofNat]
  omega

/-- Unpacking undoes packing on normal numbers. -/
theorem unpack_pack_finite (s : Sign) {m : ℕ} {e : ℤ} (pos : 0 < m) (least : 2 ^ 52 ≤ m)
    (most : m < 2 ^ 53) (small : -1074 ≤ e) (large : e ≤ 971) :
    UnpackedFloat.unpack Format.binary64 (UnpackedFloat.pack Format.binary64 (.finite s m e pos)) =
      .finite s m e pos := by
  have bits : m.log2 = 52 := by
    rw [Nat.log2_eq_iff (by omega)]
    omega
  obtain ⟨biased, rfl⟩ : ∃ biased : ℕ, e = (biased : ℤ) - 1075 :=
    ⟨(e + 1075).toNat, by omega⟩
  have field : ((biased : ℤ) - 1075 + (Format.binary64.exponentBias : ℤ) +
      (Format.binary64.mantissaBitsWithoutImplicit : ℤ)).toNat = biased := by
    simp only [Format.exponentBias]
    norm_num
    omega
  have packed : UnpackedFloat.pack Format.binary64 (.finite s m ((biased : ℤ) - 1075) pos) =
      packComponents Format.binary64 s (BitVec.ofNat 11 biased) (BitVec.ofNat 52 m) := by
    simp only [UnpackedFloat.pack, field, bits]
    rw [if_neg (by omega), if_pos (by rfl)]
  have exponent_nat : (BitVec.ofNat 11 biased).toNat = biased := by
    rw [BitVec.toNat_ofNat, Nat.mod_eq_of_lt (by omega)]
  -- The exponent field is neither all ones nor zero, so the number is read back as normal.
  have not_special : BitVec.ofNat 11 biased ≠ -1#11 := by
    intro special
    have ones : biased = 2047 := by rw [← exponent_nat, special]; rfl
    omega
  have not_zero : BitVec.ofNat 11 biased ≠ 0#11 := by
    intro zero
    have none : biased = 0 := by rw [← exponent_nat, zero]; rfl
    omega
  rw [packed]
  simp only [UnpackedFloat.unpack, unpackMantissa_packComponents, unpackExponent_packComponents,
    unpackSign_packComponents, Sign.ofBitVec_toBitVec, not_special, not_zero, if_false,
    toNat_implicit_bit least most, exponent_nat]
  rfl

theorem Normal.unpack {x : Float} {m : ℕ} {e : ℤ} (normal : Normal x m e) :
    x.toModel.unpack = .finite .positive m e normal.pos := by
  obtain ⟨least, most, small, large, rfl⟩ := normal
  exact unpack_pack_finite _ _ least most small large

/-! ## Reading a double as a word -/

/-- The integral part of a positive double, by its mantissa and exponent. -/
theorem floor_value (m : ℕ) (e : ℤ) :
    ⌊(m : ℚ) * 2 ^ e⌋₊ = m * 2 ^ e.toNat / 2 ^ (-e).toNat := by
  rcases le_or_gt 0 e with whole | fractional
  · obtain ⟨k, rfl⟩ := Int.eq_ofNat_of_zero_le whole
    have none : (-(k : ℤ)).toNat = 0 := by omega
    rw [none, Int.toNat_natCast, pow_zero, Nat.div_one, zpow_natCast]
    exact_mod_cast Nat.floor_natCast (R := ℚ) (m * 2 ^ k)
  · obtain ⟨k, rfl⟩ : ∃ k : ℕ, e = -k := ⟨(-e).toNat, by omega⟩
    have none : (-(k : ℤ)).toNat = 0 := by omega
    rw [none, neg_neg, Int.toNat_natCast, pow_zero, Nat.mul_one, zpow_neg, zpow_natCast,
      ← div_eq_mul_inv]
    exact_mod_cast Nat.floor_div_eq_div (K := ℚ) m (2 ^ k)

/-- Truncating a positive double drops the bits below the unit. -/
theorem roundToInt_positive (m : ℕ) (e : ℤ) :
    roundToInt .positive m e = (⌊(m : ℚ) * 2 ^ e⌋₊ : ℤ) := by
  have shifts : (0 - (e - e.toNat)).toNat = (-e).toNat := by omega
  simp only [roundToInt, decreaseExponent, shiftToExponent, Int.sub_zero, shifts,
    shiftRight_exact, Sign.apply, floor_value, Nat.shiftLeft_eq]

theorem Normal.toWord {x : Float} {m : ℕ} {e : ℤ} (normal : Normal x m e) :
    (Binary64.toWord x).toNat = min ⌊(m : ℚ) * 2 ^ e⌋₊ (2 ^ 64 - 1) := by
  simp only [Binary64.toWord, Float.toUInt64, Float.Model.toUInt64, normal.unpack,
    UnpackedFloat.toUInt64, UnpackedFloat.toInt, roundToInt_positive, Int.toNat_natCast,
    UInt64.toNat_toBitVec, UInt64.ofNatClamp]
  split
  · rename_i fits
    rw [UInt64.toNat_ofNatLT]
    have : UInt64.size = 2 ^ 64 := rfl
    omega
  · rename_i beyond
    have : UInt64.size = 2 ^ 64 := rfl
    rw [UInt64.toNat_ofNatLT]
    omega

/-! ## Rounded results -/

/-- A rounded positive number is the number kept to 53 bits. -/
theorem normal_roundWithAccuracy {m : ℕ} {e : ℤ} (wide : 52 ≤ m.log2)
    (small : -1074 ≤ e + (m.log2 - 52 : ℕ)) (large : e + (m.log2 - 52 : ℕ) + 1 ≤ 971) :
    ∃ m' e', Normal (ofUnpacked (roundWithAccuracy Format.binary64 .positive m e .exact)) m' e' ∧
      (m' : ℚ) * 2 ^ e' = toSignificant 53 m * 2 ^ e := by
  have same : dropped 53 m = m.log2 - 52 := by
    simp only [dropped]
    omega
  obtain ⟨m', e', pos, rounded, least, most, kept | carried⟩ :=
    roundWithAccuracy_of_wide .positive wide small
  · obtain ⟨rfl, rfl⟩ := kept
    refine ⟨_, _, ⟨least, most, small, by omega, by rw [rounded]⟩, ?_⟩
    rw [toSignificant, same, zpow_add₀ two_ne_zero, zpow_natCast]
    push_cast
    ring
  · obtain ⟨full, rfl, rfl⟩ := carried
    refine ⟨_, _, ⟨least, most, by omega, large, by rw [rounded]⟩, ?_⟩
    rw [toSignificant, same, full, zpow_add₀ two_ne_zero, zpow_add₀ two_ne_zero, zpow_natCast]
    push_cast
    ring

/-- A product of two positive doubles is the exact product kept to 53 bits. -/
theorem Normal.mul_eq {x y : Float} {m₁ m₂ : ℕ} {e₁ e₂ : ℤ} (left : Normal x m₁ e₁)
    (right : Normal y m₂ e₂) :
    x * y =
      ofUnpacked (roundWithAccuracy Format.binary64 .positive (m₁ * m₂) (e₁ + e₂) .exact) := by
  change Float.ofModel
    (Float.Model.pack (UnpackedFloat.mul _ x.toModel.unpack y.toModel.unpack)) = _
  rw [left.unpack, right.unpack]
  rfl

theorem Normal.mul_comm {x y : Float} {m₁ m₂ : ℕ} {e₁ e₂ : ℤ} (left : Normal x m₁ e₁)
    (right : Normal y m₂ e₂) : x * y = y * x := by
  rw [left.mul_eq right, right.mul_eq left, Nat.mul_comm, Int.add_comm]

/-- The size of a product of full mantissas. -/
theorem log2_mul {m₁ m₂ : ℕ} (left : 2 ^ 52 ≤ m₁ ∧ m₁ < 2 ^ 53)
    (right : 2 ^ 52 ≤ m₂ ∧ m₂ < 2 ^ 53) :
    104 ≤ (m₁ * m₂).log2 ∧ (m₁ * m₂).log2 < 106 := by
  have least : 2 ^ 52 * 2 ^ 52 ≤ m₁ * m₂ := Nat.mul_le_mul left.1 right.1
  have most : m₁ * m₂ < 2 ^ 53 * 2 ^ 53 := Nat.mul_lt_mul'' left.2 right.2
  have nonzero : m₁ * m₂ ≠ 0 := by omega
  exact ⟨(Nat.le_log2 nonzero).mpr (by omega), (Nat.log2_lt nonzero).mpr (by omega)⟩

theorem Normal.mul {x y : Float} {m₁ m₂ : ℕ} {e₁ e₂ : ℤ} (left : Normal x m₁ e₁)
    (right : Normal y m₂ e₂) (small : -1074 ≤ e₁ + e₂ + 52) (large : e₁ + e₂ + 54 ≤ 971) :
    ∃ m e, Normal (x * y) m e ∧ (m : ℚ) * 2 ^ e = toSignificant 53 (m₁ * m₂) * 2 ^ (e₁ + e₂) := by
  obtain ⟨least, most⟩ := log2_mul ⟨left.least, left.most⟩ ⟨right.least, right.most⟩
  rw [left.mul_eq right]
  exact normal_roundWithAccuracy (by omega) (by omega) (by omega)

/-- The double one. -/
theorem normal_one : Normal 1.0 (2 ^ 52) (-52) :=
  ⟨le_rfl, by decide, by decide, by decide, by decide +kernel⟩

/-- **Multiplying by one changes no double.** -/
theorem Normal.mul_one {x : Float} {m : ℕ} {e : ℤ} (normal : Normal x m e) : x * 1.0 = x := by
  have size : (m * 2 ^ 52).log2 = 104 := by
    have least := normal.least
    have most := normal.most
    rw [Nat.log2_eq_iff (by omega)]
    omega
  have kept : nearest (m * 2 ^ 52) 52 = m := by
    have exact_multiple := nearest_mul_eq_iff.mpr (Nat.dvd_mul_left (2 ^ 52) m)
    exact Nat.eq_of_mul_eq_mul_right (by decide) exact_multiple
  obtain ⟨m', e', pos, rounded, -, -, same | carried⟩ :=
    roundWithAccuracy_of_wide .positive (m := m * 2 ^ 52) (e := e + -52) (by omega)
      (by have := normal.small; omega)
  · rw [size, kept] at same
    obtain ⟨rfl, rfl⟩ := same
    rw [normal.mul_eq normal_one, rounded, normal.eq]
    congr 2
    omega
  · rw [size, kept] at carried
    have := normal.most
    omega

/-! ## Doubles that are natural numbers -/

/-- The double is exactly a natural number. -/
def Denotes (x : Float) (n : ℕ) : Prop :=
  x = 0.0 ∧ n = 0 ∨ ∃ m e, Normal x m e ∧ (m : ℚ) * 2 ^ e = n

/-- Shifting left keeps the leading bits and adds zeros. -/
theorem log2_mul_pow {n k : ℕ} (nonzero : n ≠ 0) : (n * 2 ^ k).log2 = n.log2 + k := by
  have least := Nat.log2_self_le nonzero
  have most := Nat.lt_log2_self (n := n)
  have scaled : n * 2 ^ k ≠ 0 := by positivity
  rw [Nat.log2_eq_iff scaled]
  constructor
  · rw [pow_add]
    exact Nat.mul_le_mul_right _ least
  · rw [show n.log2 + k + 1 = n.log2 + 1 + k by omega, pow_add]
    exact Nat.mul_lt_mul_of_pos_right most (by positivity)

/-- What each operation gives at zero. -/
theorem at_zero :
    ofUnpacked (UnpackedFloat.round Format.binary64 .positive 0 0) = 0.0 ∧
      ofUnpacked (UnpackedFloat.normalize Format.binary64 ((0 : ℕ) : ℤ) 0 .positive) = 0.0 ∧
      (Binary64.toWord 0.0).toNat = 0 ∧ (0.0 : Float) * 1.0 = 0.0 ∧ (1.0 : Float) * 0.0 = 0.0 ∧
      Binary64.floor 0.0 = 0.0 ∧ Binary64.ceil 0.0 = 0.0 ∧ maxNum 0.0 0.0 = 0.0 ∧
      (0.0 : Float).isNaN = false := by
  decide +kernel

/-- A natural number becomes the number kept to 53 bits. -/
theorem denotes_round {n : ℕ} (fits : n.log2 < 1000) :
    Denotes (ofUnpacked (UnpackedFloat.round Format.binary64 .positive n 0))
      (toSignificant 53 n) := by
  rcases Nat.eq_zero_or_pos n with rfl | pos
  · exact .inl ⟨at_zero.1, by decide⟩
  have target := targetExponent_eq (m := n) (e := 0) (by omega)
  have amount : (0 - Format.binary64.targetExponent (totalExponent n 0)).toNat = 52 - n.log2 := by
    omega
  have size := log2_mul_pow (k := 52 - n.log2) pos.ne'
  obtain ⟨m, e, normal, value⟩ := normal_roundWithAccuracy (m := n * 2 ^ (52 - n.log2))
    (e := 0 - (52 - n.log2 : ℕ)) (by omega) (by omega) (by omega)
  refine .inr ⟨m, e, ?_, ?_⟩
  · simp only [UnpackedFloat.round, decreaseExponent, amount, Nat.shiftLeft_eq]
    exact normal
  · rw [value]
    rcases le_or_gt 52 n.log2 with wide | narrow
    · have none : 52 - n.log2 = 0 := by omega
      simp [none]
    · have small : n < 2 ^ 53 := (Nat.log2_lt pos.ne').mp (by omega)
      have small' : n * 2 ^ (52 - n.log2) < 2 ^ 53 :=
        (Nat.log2_lt (by positivity)).mp (by omega)
      rw [toSignificant_of_lt small (by decide), toSignificant_of_lt small' (by decide)]
      push_cast
      rw [zero_sub, zpow_neg, zpow_natCast, mul_assoc,
        mul_inv_cancel₀ (by positivity), mul_one]

/-- **A word becomes the word kept to 53 bits.** -/
theorem denotes_ofWord (a : BitVec 64) : Denotes (ofWord a) (toSignificant 53 a.toNat) := by
  have unfolded : ofWord a =
      ofUnpacked (UnpackedFloat.normalize Format.binary64 (a.toNat : ℤ) 0 .positive) := rfl
  rw [unfolded]
  rcases Nat.eq_zero_or_pos a.toNat with zero | pos
  · rw [zero]
    exact .inl ⟨at_zero.2.1, by decide⟩
  · have positive : compare (a.toNat : ℤ) 0 = .gt := compare_gt_iff_gt.mpr (by omega)
    have bits : a.toNat.log2 < 64 := (Nat.log2_lt pos.ne').mpr a.isLt
    simp only [UnpackedFloat.normalize, positive, Int.toNat_natCast]
    exact denotes_round (by omega)

/-- **Reading a natural number back clamps it.** -/
theorem Denotes.toWord {x : Float} {n : ℕ} (denotes : Denotes x n) :
    (Binary64.toWord x).toNat = min n (2 ^ 64 - 1) := by
  rcases denotes with ⟨rfl, rfl⟩ | ⟨m, e, normal, value⟩
  · simp only [at_zero, Nat.zero_min]
  · rw [normal.toWord, value, Nat.floor_natCast]

theorem Denotes.mul_one {x : Float} {n : ℕ} (denotes : Denotes x n) : x * 1.0 = x := by
  rcases denotes with ⟨rfl, -⟩ | ⟨m, e, normal, -⟩
  · simp only [at_zero]
  · exact normal.mul_one

theorem Denotes.one_mul {x : Float} {n : ℕ} (denotes : Denotes x n) : 1.0 * x = x := by
  rcases denotes with ⟨rfl, -⟩ | ⟨m, e, normal, -⟩
  · simp only [at_zero]
  · rw [normal_one.mul_comm normal, normal.mul_one]

/-- A natural number that fits the mantissa becomes itself. -/
theorem denotes_round_of_lt {n : ℕ} (small : n < 2 ^ 53) :
    Denotes (ofUnpacked (UnpackedFloat.round Format.binary64 .positive n 0)) n := by
  have bits : n.log2 ≤ 52 := by
    rcases Nat.eq_zero_or_pos n with rfl | pos
    · decide
    · have := (Nat.log2_lt pos.ne').mpr small
      omega
  have rounded := denotes_round (n := n) (by omega)
  rwa [toSignificant_of_lt small (by decide)] at rounded

/-! ## Integral doubles -/

/-- Rounding down a positive double denotes its integral part. -/
theorem Normal.floor {x : Float} {m : ℕ} {e : ℤ} (normal : Normal x m e) :
    Denotes (Binary64.floor x) ⌊(m : ℚ) * 2 ^ e⌋₊ := by
  simp only [Binary64.floor, toIntegral, normal.unpack]
  split
  · rename_i whole
    obtain ⟨k, rfl⟩ := Int.eq_ofNat_of_zero_le whole
    refine .inr ⟨m, k, normal, ?_⟩
    rw [zpow_natCast]
    exact_mod_cast (congrArg (Nat.cast (R := ℚ)) (Nat.floor_natCast (R := ℚ) (m * 2 ^ k))).symm
  · rename_i fractional
    have none : e.toNat = 0 := by omega
    rw [floor_value, none, pow_zero, Nat.mul_one]
    exact denotes_round_of_lt ((Nat.div_le_self _ _).trans_lt normal.most)

theorem Denotes.floor {x : Float} {n : ℕ} (denotes : Denotes x n) :
    Denotes (Binary64.floor x) n := by
  rcases denotes with ⟨rfl, rfl⟩ | ⟨m, e, normal, value⟩
  · exact .inl ⟨by simp only [at_zero], rfl⟩
  · have floored := normal.floor
    rwa [value, Nat.floor_natCast] at floored

theorem Denotes.ceil {x : Float} {n : ℕ} (denotes : Denotes x n) :
    Denotes (Binary64.ceil x) n := by
  rcases denotes with ⟨rfl, rfl⟩ | ⟨m, e, normal, value⟩
  · exact .inl ⟨by simp only [at_zero], rfl⟩
  · simp only [Binary64.ceil, toIntegral, normal.unpack]
    split
    · exact .inr ⟨m, e, normal, value⟩
    · rename_i fractional
      obtain ⟨k, rfl⟩ : ∃ k : ℕ, e = -k := ⟨(-e).toNat, by omega⟩
      have scaled : m = n * 2 ^ k := by
        rw [zpow_neg, zpow_natCast, ← div_eq_mul_inv, div_eq_iff (by positivity)] at value
        exact_mod_cast value
      have power : 0 < 2 ^ k := by positivity
      have up : quotientUp m (2 ^ k) = n := by
        rw [quotientUp, scaled, Nat.mul_comm, Nat.mul_add_div power,
          Nat.div_eq_of_lt (by omega), Nat.add_zero]
      rw [neg_neg, Int.toNat_natCast, up]
      have le : n ≤ m := by
        rw [scaled]
        exact Nat.le_mul_of_pos_right n power
      exact denotes_round_of_lt (lt_of_le_of_lt le normal.most)

/-- A natural number is not below zero. -/
theorem Denotes.maxNum_zero {x : Float} {n : ℕ} (denotes : Denotes x n) : maxNum x 0.0 = x := by
  rcases denotes with ⟨rfl, -⟩ | ⟨m, e, normal, -⟩
  · simp only [at_zero]
  · have number : x.isNaN = false := by
      simp only [Float.isNaN, Float.Model.isNaN, normal.unpack, UnpackedFloat.isNaN]
    have zero_number : (0.0 : Float).isNaN = false := by simp only [at_zero]
    have zero_form : (0.0 : Float).toModel.unpack = .zero .positive := rfl
    have not_below : ¬ x < 0.0 := by
      change ¬ decide ((x.toModel.unpack.lt (0.0 : Float).toModel.unpack) = true) = true
      rw [normal.unpack, zero_form]
      simp [UnpackedFloat.lt, UnpackedFloat.compare]
    rw [maxNum, number, zero_number, if_neg not_below]
    rfl

/-! ## Scaling a word down -/

/-- The exponent of a double that is a positive natural number of at most `k` bits. -/
theorem Normal.exponent_bounds {x : Float} {m n k : ℕ} {e : ℤ} (normal : Normal x m e)
    (value : (m : ℚ) * 2 ^ e = n) (pos : 0 < n) (bound : n ≤ 2 ^ k) :
    -53 < e ∧ e + 52 ≤ k := by
  have power : (0 : ℚ) < 2 ^ e := by positivity
  constructor
  · have most : (m : ℚ) < 2 ^ (53 : ℤ) := by exact_mod_cast normal.most
    have one : (1 : ℚ) ≤ m * 2 ^ e := by
      rw [value]
      exact_mod_cast pos
    have scaled : (2 : ℚ) ^ (0 : ℤ) < 2 ^ (53 + e) := by
      rw [zpow_zero, zpow_add₀ two_ne_zero]
      exact one.trans_lt (mul_lt_mul_of_pos_right most power)
    have := (zpow_lt_zpow_iff_right₀ (by norm_num : (1 : ℚ) < 2)).mp scaled
    omega
  · have least : (2 : ℚ) ^ (52 : ℤ) ≤ m := by exact_mod_cast normal.least
    have bounded : (m : ℚ) * 2 ^ e ≤ 2 ^ (k : ℤ) := by
      rw [value]
      exact_mod_cast bound
    have scaled : (2 : ℚ) ^ (52 + e) ≤ 2 ^ (k : ℤ) := by
      rw [zpow_add₀ two_ne_zero]
      exact (mul_le_mul_of_nonneg_right least power.le).trans bounded
    have := (zpow_le_zpow_iff_right₀ (by norm_num : (1 : ℚ) < 2)).mp scaled
    omega

/-- A word keeps its size, up to the carry out of its top bit. -/
theorem toSignificant_word_le (a : BitVec 64) : toSignificant 53 a.toNat ≤ 2 ^ 65 := by
  have rounded : 2 ^ 53 * toSignificant 53 a.toNat ≤ (2 ^ 53 + 1) * a.toNat :=
    toSignificant_le a.toNat 52
  have bound := a.isLt
  omega

/-- A word multiplied by a factor far enough below one, and rounded down, does not grow: the
factor outweighs the two roundings. -/
theorem toWord_floor_mul_le (a : BitVec 64) {f : Float} {m : ℕ} {e : ℤ} (factor : Normal f m e)
    (small : -900 ≤ e) (large : e ≤ 0) (below : (2 ^ 53 + 1) ^ 2 * ((m : ℚ) * 2 ^ e) ≤ 2 ^ 106) :
    (toWord (maxNum (floor (ofWord a * f)) 0.0)).toNat ≤ a.toNat := by
  rcases denotes_ofWord a with ⟨zero, -⟩ | ⟨m₁, e₁, normal, value⟩
  · have product : (0.0 : Float) * f = 0.0 := by
      change Float.ofModel (Float.Model.pack
        (UnpackedFloat.mul _ (0.0 : Float).toModel.unpack f.toModel.unpack)) = _
      rw [factor.unpack]
      rfl
    have nothing : (toWord (maxNum (floor (0.0 : Float)) 0.0)).toNat = 0 := by
      simp only [at_zero]
    rw [zero, product, nothing]
    exact Nat.zero_le _
  · have pos : 0 < toSignificant 53 a.toNat := by
      have positive : (0 : ℚ) < m₁ * 2 ^ e₁ := by
        have := normal.pos
        positivity
      rw [value] at positive
      exact_mod_cast positive
    obtain ⟨least, most⟩ := normal.exponent_bounds value pos (toSignificant_word_le a)
    obtain ⟨m₂, e₂, scaled, size⟩ := normal.mul factor (by omega) (by omega)
    have floored := scaled.floor
    rw [floored.maxNum_zero, floored.toWord]
    refine (min_le_left _ _).trans (Nat.floor_le_of_le ?_)
    have product_up :
        (2 ^ 53 : ℚ) * toSignificant 53 (m₁ * m) ≤ (2 ^ 53 + 1) * (m₁ * m : ℕ) := by
      exact_mod_cast toSignificant_le (m₁ * m) 52
    have word_up : (2 ^ 53 : ℚ) * toSignificant 53 a.toNat ≤ (2 ^ 53 + 1) * a.toNat := by
      exact_mod_cast toSignificant_le a.toNat 52
    have power : (0 : ℚ) ≤ 2 ^ (e₁ + e) := by positivity
    have exact_product : ((m₁ * m : ℕ) : ℚ) * 2 ^ (e₁ + e) =
        toSignificant 53 a.toNat * (m * 2 ^ e) := by
      rw [← value, zpow_add₀ two_ne_zero]
      push_cast
      ring
    have factor_nonneg : (0 : ℚ) ≤ m * 2 ^ e := by positivity
    have bounded : (2 ^ 106 : ℚ) * (toSignificant 53 (m₁ * m) * 2 ^ (e₁ + e)) ≤
        2 ^ 106 * a.toNat :=
      calc (2 ^ 106 : ℚ) * (toSignificant 53 (m₁ * m) * 2 ^ (e₁ + e))
          = 2 ^ 53 * (2 ^ 53 * toSignificant 53 (m₁ * m) * 2 ^ (e₁ + e)) := by ring
        _ ≤ 2 ^ 53 * ((2 ^ 53 + 1) * (m₁ * m : ℕ) * 2 ^ (e₁ + e)) :=
            mul_le_mul_of_nonneg_left (mul_le_mul_of_nonneg_right product_up power) (by positivity)
        _ = (2 ^ 53 + 1) * (2 ^ 53 * toSignificant 53 a.toNat * (m * 2 ^ e)) := by
            rw [mul_assoc (2 ^ 53 + 1 : ℚ), exact_product]
            ring
        _ ≤ (2 ^ 53 + 1) * ((2 ^ 53 + 1) * a.toNat * (m * 2 ^ e)) :=
            mul_le_mul_of_nonneg_left (mul_le_mul_of_nonneg_right word_up factor_nonneg)
              (by positivity)
        _ = (2 ^ 53 + 1) ^ 2 * (m * 2 ^ e) * a.toNat := by ring
        _ ≤ 2 ^ 106 * a.toNat := mul_le_mul_of_nonneg_right below (by positivity)
    rw [size]
    exact le_of_mul_le_mul_left bounded (by positivity)

end Foundation.Binary64
