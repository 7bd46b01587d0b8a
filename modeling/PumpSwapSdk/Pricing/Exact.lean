import PumpSwapSdk.Foundation.ConstantProduct
import PumpSwapSdk.Math

/-!
# What the quotes compute

The curve steps and the quotes, read as natural numbers. An exact-input step never saturates
(`toNat_constantProductOut`). An exact-output step is refused exactly when it would drain
the reserve (`constantProductIn_eq_some_iff`), and a quote built on it saturates at the
largest word.
-/

set_option autoImplicit false

namespace PumpSwapSdk

open Foundation.ConstantProduct
open Foundation.MachineWord

variable {b B Q X Y : U64} {fees : Fees} {slippage : Float}

/-! ## The curve steps -/

/-- The exact-input step is the curve's, whatever the reserves. -/
theorem toNat_constantProductOut (a X Y : U64) :
    (constantProductOut a X Y).toNat = outGiven a.toNat X.toNat Y.toNat := by
  have denominator := toNat_widen_add_widen X a (v := 128) (by decide)
  have numerator := toNat_widen_mul_widen Y a (v := 128) (by decide)
  unfold constantProductOut
  dsimp only
  split
  · rename_i zero
    have empty : X.toNat + a.toNat = 0 := by
      rw [← denominator, zero]
      rfl
    rw [outGiven, empty, Nat.div_zero]
    rfl
  · rw [u64Max, toNat_tryFrom_getD_max, BitVec.toNat_udiv, numerator, denominator]
    have bounded : outGiven a.toNat X.toNat Y.toNat ≤ Y.toNat := outGiven_le
    have := toNat_le_max Y
    rw [outGiven] at bounded ⊢
    omega

/-- The exact-output step is refused exactly when it would drain the reserve. -/
theorem constantProductIn_eq_some_iff {z : U64} :
    constantProductIn b X Y = some z ↔
      b.toNat < Y.toNat ∧ z.toNat = min (inFor b.toNat X.toNat Y.toNat) (2 ^ 64 - 1) := by
  have numerator := toNat_widen_mul_widen X b (v := 128) (by decide)
  unfold constantProductIn
  cases checked : checkedSub Y b with
  | none =>
      have above := checkedSub_eq_none_iff.mp checked
      simp only [Option.bind_eq_bind, Option.bind_none, reduceCtorEq, false_iff, not_and]
      omega
  | some rest =>
      obtain ⟨le, exact_rest⟩ := checkedSub_eq_some_iff.mp checked
      simp only [Option.bind_eq_bind, Option.bind_some]
      split
      · rename_i zero
        have drained : rest.toNat = 0 := by
          rw [zero]
          rfl
        simp only [reduceCtorEq, false_iff, not_and]
        omega
      · rename_i left
        have pos : 0 < rest.toNat := by
          rcases Nat.eq_zero_or_pos rest.toNat with zero | pos
          · exact absurd (BitVec.eq_of_toNat_eq zero) left
          · exact pos
        have wide : (widen 128 rest).toNat = rest.toNat := toNat_widen rest (by decide)
        rw [Option.some.injEq, ← BitVec.toNat_inj, u64Max, toNat_tryFrom_getD_max,
          toNat_divCeil _ _ (by omega), numerator, wide, exact_rest, ← inFor]
        constructor
        · intro same
          exact ⟨by omega, same.symm⟩
        · rintro ⟨-, same⟩
          exact same.symm

theorem constantProductIn_isSome_iff : (constantProductIn b X Y).isSome ↔ b.toNat < Y.toNat := by
  constructor
  · intro some
    obtain ⟨z, step⟩ := Option.isSome_iff_exists.mp some
    exact (constantProductIn_eq_some_iff.mp step).1
  · intro below
    refine Option.isSome_iff_exists.mpr
      ⟨BitVec.ofNat 64 (min (inFor b.toNat X.toNat Y.toNat) (2 ^ 64 - 1)), ?_⟩
    refine constantProductIn_eq_some_iff.mpr ⟨below, ?_⟩
    rw [BitVec.toNat_ofNat, Nat.mod_eq_of_lt (by omega)]

/-! ## Selling -/

theorem toNat_quoteSell_gross (b B Q : U64) (fees : Fees) (slippage : Float) :
    (quoteSell b B Q fees slippage).grossAmountOut.toNat = outGiven b.toNat B.toNat Q.toNat :=
  toNat_constantProductOut b B Q

theorem toNat_quoteSell_amountOut (b B Q : U64) (fees : Fees) (slippage : Float) :
    (quoteSell b B Q fees slippage).amountOut.toNat =
      outGiven b.toNat B.toNat Q.toNat - fees.charge (outGiven b.toNat B.toNat Q.toNat) := by
  have gross := toNat_constantProductOut b B Q
  have := toNat_le_max (constantProductOut b B Q)
  simp only [quoteSell, toNat_saturatingSub, Fees.toNat_feeOn, gross]
  omega

/-! ## Buying for an exact spend -/

/-- The amount fees are charged on: the spend divided out of the fee-inclusive rate. -/
def charged (fees : Fees) (q : ℕ) : ℕ := q * 10_000 / (10_000 + fees.totalBps.toNat)

/-- What reaches the curve: the spend less the fee, less one unit. -/
def curveInput (fees : Fees) (q : ℕ) : ℕ := q - fees.charge (charged fees q) - 1

theorem charged_le (fees : Fees) (n : ℕ) : charged fees n ≤ n := by
  refine Nat.div_le_of_le_mul ?_
  nlinarith only [Nat.zero_le (n * fees.totalBps.toNat)]

/-- Dividing the fee out of a spend, up to one unit. -/
theorem charged_bounds (fees : Fees) (q : ℕ) :
    charged fees q * (10_000 + fees.totalBps.toNat) ≤ q * 10_000 ∧
      q * 10_000 < (charged fees q + 1) * (10_000 + fees.totalBps.toNat) := by
  have division := Nat.div_add_mod (q * 10_000) (10_000 + fees.totalBps.toNat)
  have remainder := Nat.mod_lt (q * 10_000) (show 0 < 10_000 + fees.totalBps.toNat by omega)
  refine ⟨Nat.div_mul_le_self _ _, ?_⟩
  rw [charged]
  nlinarith only [division, remainder]

/-- Dividing the fee out of a word neither overflows nor saturates. -/
theorem toNat_charged (fees : Fees) (q : U64) :
    ((tryFrom 64 (widen 128 q * 10_000 / (10_000 + widen 128 fees.totalBps))).getD u64Max).toNat =
      charged fees q.toNat := by
  have ten_thousand : (10_000 : U128).toNat = 10_000 := by decide
  have wide_q : (widen 128 q).toNat = q.toNat := toNat_widen q (by decide)
  have wide_bps : (widen 128 fees.totalBps).toNat = fees.totalBps.toNat :=
    toNat_widen _ (by decide)
  have bound := q.isLt
  have bps_bound := fees.totalBps.isLt
  have numerator : (widen 128 q * 10_000).toNat = q.toNat * 10_000 := by
    rw [BitVec.toNat_mul, wide_q, ten_thousand, Nat.mod_eq_of_lt (by omega)]
  have denominator : (10_000 + widen 128 fees.totalBps).toNat = 10_000 + fees.totalBps.toNat := by
    rw [BitVec.toNat_add, wide_bps, ten_thousand, Nat.mod_eq_of_lt (by omega)]
  rw [u64Max, toNat_tryFrom_getD_max, BitVec.toNat_udiv, numerator, denominator, ← charged]
  have := charged_le fees q.toNat
  omega

theorem toNat_quoteBuyExactQuoteIn_fee (q B Q : U64) (fees : Fees) (slippage : Float) :
    (quoteBuyExactQuoteIn q B Q fees slippage).fee.toNat =
      min (fees.charge (charged fees q.toNat)) (2 ^ 64 - 1) := by
  simp only [quoteBuyExactQuoteIn, Fees.toNat_feeOn, toNat_charged]

theorem toNat_quoteBuyExactQuoteIn_amountOut (q B Q : U64) (fees : Fees) (slippage : Float) :
    (quoteBuyExactQuoteIn q B Q fees slippage).amountOut.toNat =
      outGiven (curveInput fees q.toNat) Q.toNat B.toNat := by
  have one : (1 : U64).toNat = 1 := rfl
  have := q.isLt
  simp only [quoteBuyExactQuoteIn, toNat_constantProductOut, toNat_saturatingSub,
    Fees.toNat_feeOn, toNat_charged, one, curveInput]
  congr 1
  omega

/-! ## Buying an exact output -/

/-- **The exact-output quote.** It exists exactly below the reserve, and its amounts are the
curve's cost and that cost with its fee, each kept to a word. -/
theorem quoteBuyExactBaseOut_eq_some {r : BuyExactOutQuote}
    (quoted : quoteBuyExactBaseOut b B Q fees slippage = some r) :
    b.toNat < B.toNat ∧
      r.quoteAmountIn.toNat = min (inFor b.toNat Q.toNat B.toNat) (2 ^ 64 - 1) ∧
      r.totalQuoteIn.toNat =
        min (r.quoteAmountIn.toNat + fees.charge r.quoteAmountIn.toNat) (2 ^ 64 - 1) := by
  cases step : constantProductIn b Q B with
  | none =>
      simp [quoteBuyExactBaseOut, step] at quoted
  | some z =>
      obtain ⟨below, cost⟩ := constantProductIn_eq_some_iff.mp step
      simp only [quoteBuyExactBaseOut, step, Option.bind_eq_bind, Option.bind_some,
        Option.some.injEq] at quoted
      subst quoted
      refine ⟨below, cost, ?_⟩
      simp only [toNat_saturatingAdd, Fees.toNat_feeOn]
      omega

theorem quoteBuyExactBaseOut_isSome_iff (b B Q : U64) (fees : Fees) (slippage : Float) :
    (quoteBuyExactBaseOut b B Q fees slippage).isSome ↔ b.toNat < B.toNat := by
  rw [← constantProductIn_isSome_iff (X := Q)]
  cases step : constantProductIn b Q B with
  | none => simp [quoteBuyExactBaseOut, step]
  | some z => simp [quoteBuyExactBaseOut, step]

/-! ## The market cap -/

/-- The market cap is the exact quotient, nothing when the base reserve is empty. -/
theorem toNat_marketCapLamports (S B Q : U64) :
    (marketCapLamports S B Q).toNat = S.toNat * Q.toNat / B.toNat := by
  unfold marketCapLamports
  split
  · rename_i empty
    rw [empty]
    exact (Nat.div_zero _).symm
  · rw [BitVec.toNat_udiv, toNat_widen_mul_widen S Q (by decide), toNat_widen B (by decide)]

end PumpSwapSdk
