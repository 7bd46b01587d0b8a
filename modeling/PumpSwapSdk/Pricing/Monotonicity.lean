import PumpSwapSdk.Pricing.FeeRounding
import PumpSwapSdk.Util

/-!
# Which way the quotes move

The curve's outputs move with what is paid and with the reserve they are paid from, and against
the reserve they are paid into. After fees this holds up to two units only, since a larger
amount can be charged three units more (`quotes_move_up_to_rounding`).

A pool's virtual reserves join the quote side. Left out while they are positive, a buy is
quoted too much and the gross of a sale too little.
-/

set_option autoImplicit false

namespace PumpSwapSdk

open Foundation
open Foundation.ConstantProduct (outGiven outGiven_mono outGiven_anti)
open Foundation.MachineWord

variable {b b' q q' B B' Q Q' : U64} {fees : Fees} {slippage slippage' : Float} {pool : PoolInfo}

/-! ## Selling -/

/-- A larger amount, on a larger quote reserve, pays no less on the curve. -/
theorem quoteSell_gross_mono (sold : b ≤ b') (stocked : Q ≤ Q') :
    (quoteSell b B Q fees slippage).grossAmountOut ≤
      (quoteSell b' B Q' fees slippage').grossAmountOut := by
  rw [BitVec.le_def, toNat_quoteSell_gross, toNat_quoteSell_gross]
  exact outGiven_mono sold stocked

/-- A larger base reserve pays no more. -/
theorem quoteSell_gross_anti (held : B ≤ B') :
    (quoteSell b B' Q fees slippage).grossAmountOut ≤
      (quoteSell b B Q fees slippage').grossAmountOut := by
  rw [BitVec.le_def, toNat_quoteSell_gross, toNat_quoteSell_gross]
  exact outGiven_anti held

/-- A larger gross leaves at most two units less. -/
theorem quoteSell_amountOut_mono (modest : fees.totalBps.toNat ≤ 10_000) (sold : b ≤ b')
    (stocked : Q ≤ Q') :
    (quoteSell b B Q fees slippage).amountOut.toNat ≤
      (quoteSell b' B Q' fees slippage').amountOut.toNat + 2 := by
  rw [toNat_quoteSell_amountOut, toNat_quoteSell_amountOut]
  exact Fees.net_le_net_add_two modest (outGiven_mono sold stocked)

/-! ## Buying for an exact spend -/

theorem charged_mono (fees : Fees) {n m : ℕ} (le : n ≤ m) : charged fees n ≤ charged fees m :=
  Nat.div_le_div_right (Nat.mul_le_mul_right _ le)

/-- The charged amount grows no faster than the spend. -/
theorem charged_add_le (fees : Fees) (n more : ℕ) :
    charged fees (n + more) ≤ charged fees n + more := by
  have divisor : 0 < 10_000 + fees.totalBps.toNat := by omega
  calc charged fees (n + more)
      ≤ (n * 10_000 + more * (10_000 + fees.totalBps.toNat)) / (10_000 + fees.totalBps.toNat) := by
        refine Nat.div_le_div_right ?_
        rw [Nat.add_mul, Nat.mul_add]
        omega
    _ = charged fees n + more := Nat.add_mul_div_right _ _ divisor

/-- The fee on a larger spend is larger by at most the difference and two units. -/
theorem charge_charged_add_le (modest : fees.totalBps.toNat ≤ 10_000) {n m : ℕ} (le : n ≤ m) :
    fees.charge (charged fees m) + n ≤ fees.charge (charged fees n) + m + 2 := by
  obtain ⟨more, rfl⟩ := Nat.exists_eq_add_of_le le
  obtain ⟨step, split⟩ := Nat.exists_eq_add_of_le (charged_mono fees le)
  have slower := charged_add_le fees n more
  have joined := SplitCharge.charge_add_le fees.parts (show 0 < 10_000 by decide)
    (charged fees n) step
  rw [← split, ← Fees.charge_eq_split, ← Fees.charge_eq_split, ← Fees.charge_eq_split] at joined
  have rest := Fees.charge_le_add_two modest step
  omega

/-- A larger spend leaves at most two units less after its fee. -/
theorem quoteBuyExactQuoteIn_net_mono (modest : fees.totalBps.toNat ≤ 10_000) (spent : q ≤ q') :
    q.toNat - (quoteBuyExactQuoteIn q B Q fees slippage).fee.toNat ≤
      q'.toNat - (quoteBuyExactQuoteIn q' B' Q' fees slippage').fee.toNat + 2 := by
  have difference := charge_charged_add_le modest (BitVec.le_def.mp spent)
  have word := toNat_le_max q'
  rw [BitVec.le_def] at spent
  rw [toNat_quoteBuyExactQuoteIn_fee, toNat_quoteBuyExactQuoteIn_fee]
  omega

/-- A larger quote reserve buys no more. -/
theorem quoteBuyExactQuoteIn_amountOut_anti (held : Q ≤ Q') :
    (quoteBuyExactQuoteIn q B Q' fees slippage).amountOut ≤
      (quoteBuyExactQuoteIn q B Q fees slippage').amountOut := by
  rw [BitVec.le_def, toNat_quoteBuyExactQuoteIn_amountOut, toNat_quoteBuyExactQuoteIn_amountOut]
  exact outGiven_anti held

/-- A larger base reserve buys no less. -/
theorem quoteBuyExactQuoteIn_amountOut_mono (stocked : B ≤ B') :
    (quoteBuyExactQuoteIn q B Q fees slippage).amountOut ≤
      (quoteBuyExactQuoteIn q B' Q fees slippage').amountOut := by
  rw [BitVec.le_def, toNat_quoteBuyExactQuoteIn_amountOut, toNat_quoteBuyExactQuoteIn_amountOut]
  exact outGiven_mono le_rfl stocked

/-! ## Virtual reserves -/

/-- Positive virtual reserves never lower the quote side. -/
theorem le_effectiveReserves (positive : 0 < pool.virtualQuoteReserves.toInt) (B Q : U64) :
    Q ≤ (pool.effectiveReserves B Q).2 := by
  have word := Q.isLt
  rw [BitVec.le_def, (pool.toNat_effectiveReserves B Q).2, PoolInfo.effectiveQuote]
  omega

/-- **The quotes move in the right direction up to the rounding of the fees**, and leaving out
positive virtual reserves quotes too much for a buy and too little for the gross of a sale. -/
theorem quotes_move_up_to_rounding (fees : Fees) (modest : fees.totalBps ≤ 10_000)
    (slippage slippage' : Float) :
    (∀ b b' B Q Q' : U64, b ≤ b' → Q ≤ Q' →
      (quoteSell b B Q fees slippage).grossAmountOut ≤
          (quoteSell b' B Q' fees slippage').grossAmountOut ∧
        (quoteSell b B Q fees slippage).amountOut.toNat ≤
          (quoteSell b' B Q' fees slippage').amountOut.toNat + 2) ∧
    (∀ b B B' Q : U64, B ≤ B' →
      (quoteSell b B' Q fees slippage).grossAmountOut ≤
        (quoteSell b B Q fees slippage').grossAmountOut) ∧
    (∀ q q' B B' Q Q' : U64, q ≤ q' →
      q.toNat - (quoteBuyExactQuoteIn q B Q fees slippage).fee.toNat ≤
        q'.toNat - (quoteBuyExactQuoteIn q' B' Q' fees slippage').fee.toNat + 2) ∧
    (∀ q B Q Q' : U64, Q ≤ Q' →
      (quoteBuyExactQuoteIn q B Q' fees slippage).amountOut ≤
        (quoteBuyExactQuoteIn q B Q fees slippage').amountOut) ∧
    (∀ q B B' Q : U64, B ≤ B' →
      (quoteBuyExactQuoteIn q B Q fees slippage).amountOut ≤
        (quoteBuyExactQuoteIn q B' Q fees slippage').amountOut) ∧
    ∀ (pool : PoolInfo) (b q B Q : U64), 0 < pool.virtualQuoteReserves.toInt →
      let reserves := pool.effectiveReserves B Q
      (quoteBuyExactQuoteIn q reserves.1 reserves.2 fees slippage).amountOut ≤
          (quoteBuyExactQuoteIn q B Q fees slippage').amountOut ∧
        (quoteSell b B Q fees slippage).grossAmountOut ≤
          (quoteSell b reserves.1 reserves.2 fees slippage').grossAmountOut := by
  have modest := Fees.toNat_totalBps_le modest
  refine ⟨?_, ?_, ?_, ?_, ?_, ?_⟩
  · intro b b' B Q Q' sold stocked
    exact ⟨quoteSell_gross_mono sold stocked, quoteSell_amountOut_mono modest sold stocked⟩
  · intro b B B' Q held
    exact quoteSell_gross_anti held
  · intro q q' B B' Q Q' spent
    exact quoteBuyExactQuoteIn_net_mono modest spent
  · intro q B Q Q' held
    exact quoteBuyExactQuoteIn_amountOut_anti held
  · intro q B B' Q stocked
    exact quoteBuyExactQuoteIn_amountOut_mono stocked
  · intro pool b q B Q positive
    have more := le_effectiveReserves positive B Q
    exact ⟨quoteBuyExactQuoteIn_amountOut_anti more, quoteSell_gross_mono (BitVec.le_refl b) more⟩

/-- Selling 334 units instead of 331 on a base reserve of one leaves two units less, and the
recorded coin's virtual reserves lower what a spend buys. -/
theorem quotes_move_up_to_rounding_recorded :
    let reserves := Recorded.laterPool.effectiveReserves 1_000_000_000 80_000_000
    let fees : Fees := ⟨10, 10, 10⟩
    (quoteSell 331 1 1_004 fees 0.0).amountOut.toNat = 997 ∧
      997 ≤ (quoteSell 334 1 1_004 fees 0.0).amountOut.toNat + 2 ∧
      (quoteBuyExactQuoteIn 1_000_000 reserves.1 reserves.2 fees 0.0).amountOut ≤
        (quoteBuyExactQuoteIn 1_000_000 1_000_000_000 80_000_000 fees 0.0).amountOut := by
  intro reserves fees
  have moved := quotes_move_up_to_rounding fees (by decide) 0.0 0.0
  obtain ⟨sale, -, -, -, -, missing⟩ := moved
  have less := (sale 331 334 1 1_004 1_004 (by decide) (by decide)).2
  have paid : (quoteSell 331 1 1_004 fees 0.0).amountOut.toNat = 997 := by decide +kernel
  rw [paid] at less
  exact ⟨paid, less, (missing Recorded.laterPool 331 1_000_000 1_000_000_000 80_000_000
    (by decide +kernel)).1⟩

end PumpSwapSdk
