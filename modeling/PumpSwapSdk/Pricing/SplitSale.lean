import PumpSwapSdk.Pricing.FeeRounding

/-!
# Selling in parts

A sale split into parts sells each part on the reserves that the parts before it left. On the
curve the parts together return no more than the whole. After fees they can return more: a part
small enough is eaten up by its own fee, and the rest is charged as if it had not been sold.
The gain is at most two units (`split_sale_gains_at_most_two`).
-/

set_option autoImplicit false

namespace PumpSwapSdk

open Foundation
open Foundation.ConstantProduct (outGiven outGiven_le outputs sum_outputs_le)

variable {fees : Fees} {slippage : Float} {B Q : U64} {amounts : List U64}

/-- Sells amounts one after another. Each is priced on the current reserves, then joins the
base reserve, and the curve's output leaves the quote reserve. -/
def sellInTurn (fees : Fees) (slippage : Float) (B Q : U64) : List U64 → List SwapQuote
  | [] => []
  | a :: amounts =>
      let quote := quoteSell a B Q fees slippage
      quote :: sellInTurn fees slippage (B + a) (Q - quote.grossAmountOut) amounts

/-- The sum of amounts, over unbounded integers. -/
def totalAmount (amounts : List U64) : ℕ := (amounts.map BitVec.toNat).sum

/-- The gross outputs are the curve's, as long as the base reserve stays a word. -/
theorem gross_sellInTurn (fits : B.toNat + totalAmount amounts ≤ 2 ^ 64 - 1) :
    (sellInTurn fees slippage B Q amounts).map (fun quote => quote.grossAmountOut.toNat) =
      outputs B.toNat Q.toNat (amounts.map BitVec.toNat) := by
  induction amounts generalizing B Q with
  | nil => rfl
  | cons a amounts ih =>
      rw [totalAmount, List.map_cons, List.sum_cons, ← totalAmount] at fits
      have gross := toNat_quoteSell_gross a B Q fees slippage
      have base : (B + a).toNat = B.toNat + a.toNat := BitVec.toNat_add_of_lt (by omega)
      have quote : (Q - (quoteSell a B Q fees slippage).grossAmountOut).toNat =
          Q.toNat - outGiven a.toNat B.toNat Q.toNat := by
        have paid : (quoteSell a B Q fees slippage).grossAmountOut ≤ Q := by
          rw [BitVec.le_def, gross]
          exact outGiven_le
        rw [BitVec.toNat_sub_of_le paid, gross]
      simp only [sellInTurn, List.map_cons, outputs]
      rw [gross, ih (by omega), base, quote]

/-- What each part leaves after its fee. -/
theorem amountOut_sellInTurn :
    (sellInTurn fees slippage B Q amounts).map (fun quote => quote.amountOut.toNat) =
      ((sellInTurn fees slippage B Q amounts).map
        fun quote => quote.grossAmountOut.toNat).map fun gross => gross - fees.charge gross := by
  induction amounts generalizing B Q with
  | nil => rfl
  | cons a amounts ih =>
      have left := toNat_quoteSell_amountOut a B Q fees slippage
      rw [← toNat_quoteSell_gross a B Q fees slippage] at left
      simp only [sellInTurn, List.map_cons]
      rw [left, ih]

/-- **Splitting a sale never gains more than two units.** The parts together return no more
than the whole on the curve, and at most two units more after fees. -/
theorem split_sale_gains_at_most_two (B Q : U64) (fees : Fees) (slippage slippage' : Float)
    (amounts : List U64) (modest : fees.totalBps ≤ 10_000)
    (fits : B.toNat + totalAmount amounts ≤ u64Max.toNat) :
    let parts := sellInTurn fees slippage B Q amounts
    let whole := quoteSell (BitVec.ofNat 64 (totalAmount amounts)) B Q fees slippage'
    (parts.map fun quote => quote.grossAmountOut.toNat).sum ≤ whole.grossAmountOut.toNat ∧
      (parts.map fun quote => quote.amountOut.toNat).sum ≤ whole.amountOut.toNat + 2 := by
  have modest := Fees.toNat_totalBps_le modest
  rw [toNat_u64Max] at fits
  dsimp only
  have total : (BitVec.ofNat 64 (totalAmount amounts)).toNat = totalAmount amounts := by
    rw [BitVec.toNat_ofNat, Nat.mod_eq_of_lt (by omega)]
  have gross : ((sellInTurn fees slippage B Q amounts).map
      fun quote => quote.grossAmountOut.toNat).sum ≤
        (quoteSell (BitVec.ofNat 64 (totalAmount amounts)) B Q fees
          slippage').grossAmountOut.toNat := by
    rw [gross_sellInTurn fits, toNat_quoteSell_gross, total]
    exact sum_outputs_le _
  refine ⟨gross, ?_⟩
  rw [amountOut_sellInTurn, toNat_quoteSell_amountOut,
    ← toNat_quoteSell_gross _ B Q fees slippage']
  exact Fees.sum_net_le_add_two modest gross

/-- Selling 331 units and then 3 on a base reserve of one leaves two units more than selling
334, at three rates of ten basis points. -/
theorem split_sale_gains_at_most_two_dust :
    let parts := sellInTurn ⟨10, 10, 10⟩ 0.0 1 1_004 [331, 3]
    let whole := quoteSell 334 1 1_004 ⟨10, 10, 10⟩ 0.0
    (parts.map fun quote => quote.amountOut.toNat).sum = 997 ∧
      (parts.map fun quote => quote.amountOut.toNat).sum ≤ whole.amountOut.toNat + 2 ∧
      whole.amountOut.toNat = 995 := by
  refine ⟨by decide +kernel, ?_, by decide +kernel⟩
  exact (split_sale_gains_at_most_two 1 1_004 ⟨10, 10, 10⟩ 0.0 0.0 [331, 3] (by decide)
    (by decide)).2

end PumpSwapSdk
