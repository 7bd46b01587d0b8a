import PumpSwapSdk.Pricing.Exact

/-!
# The two ways of pricing a buy agree

An exact-quote-in buy divides the fee out of the spend and feeds the curve what is left; an
exact-base-out buy puts the fee on top of the curve's cost. Up to a combined rate of one
hundred percent, what the first leaves for the curve is at most what it charges fees on, so
that the fee on the curve's input is covered by the fee already set aside (`curveInput_pays`).
The other way round, an input whose fee the spend covers is at most three units more
(`paid_input_le`).
-/

set_option autoImplicit false

namespace PumpSwapSdk

open Foundation.ConstantProduct
open Foundation.MachineWord
open Foundation.Binary64 (Normal clamp toWord_floor_mul_le)

variable {fees : Fees} {n q x : ℕ}

/-! ## The two fee calculations -/

/-- **What reaches the curve is at most what fees are charged on.** -/
theorem curveInput_le_charged (modest : fees.totalBps.toNat ≤ 10_000) :
    curveInput fees q ≤ charged fees q := by
  obtain ⟨-, quotient_above⟩ := charged_bounds fees q
  have covered := (Fees.charge_bounds fees (charged fees q)).1
  rw [← Fees.totalBps_eq_rate modest] at covered
  simp only [curveInput]
  by_contra above
  have spent : charged fees q + fees.charge (charged fees q) + 2 ≤ q := by omega
  nlinarith only [quotient_above, covered, spent, modest]

/-- **The spend pays for what it feeds to the curve**, with the fee put on top. -/
theorem curveInput_pays (modest : fees.totalBps.toNat ≤ 10_000) :
    curveInput fees q + fees.charge (curveInput fees q) ≤ q := by
  have less := Fees.charge_mono fees (curveInput_le_charged (q := q) modest)
  rcases Nat.eq_zero_or_pos (curveInput fees q) with zero | positive
  · rw [zero, Fees.charge_zero]
    exact Nat.zero_le q
  · simp only [curveInput] at positive less ⊢
    omega

/-- **An input the spend covers with its fee** is at most three units above what the spend
feeds to the curve. -/
theorem paid_input_le (modest : fees.totalBps.toNat ≤ 10_000) (paid : x + fees.charge x ≤ q) :
    x ≤ curveInput fees q + 3 := by
  obtain ⟨quotient_below, -⟩ := charged_bounds fees q
  have covered := (Fees.charge_bounds fees x).1
  have rounded := (Fees.charge_bounds fees (charged fees q)).2
  rw [← Fees.totalBps_eq_rate modest] at covered rounded
  have le_charged : x ≤ charged fees q := by
    refine (Nat.le_div_iff_mul_le (by omega)).mpr ?_
    nlinarith only [paid, covered]
  have left : charged fees q + fees.charge (charged fees q) < q + 3 := by
    nlinarith only [quotient_below, rounded]
  simp only [curveInput]
  omega

/-! ## The two quotes -/

variable {b B Q : U64}

/-- An output the curve gives for what a spend feeds it can be bought with the spend. -/
theorem total_le_of_le_output {q : U64} (slippage : Float) (modest : fees.totalBps.toNat ≤ 10_000)
    (funded : 0 < Q.toNat) (stocked : 0 < B.toNat)
    (within : b.toNat ≤ outGiven (curveInput fees q.toNat) Q.toNat B.toNat) :
    ∃ r, quoteBuyExactBaseOut b B Q fees slippage = some r ∧ r.totalQuoteIn.toNat ≤ q.toNat := by
  have below : b.toNat < B.toNat := within.trans_lt (outGiven_lt funded stocked)
  obtain ⟨r, quoted⟩ := Option.isSome_iff_exists.mp
    ((quoteBuyExactBaseOut_isSome_iff b B Q fees slippage).mpr below)
  obtain ⟨-, cost, total⟩ := quoteBuyExactBaseOut_eq_some quoted
  have affordable : r.quoteAmountIn.toNat ≤ curveInput fees q.toNat := by
    have := (le_outGiven_iff funded below).mp within
    omega
  have fee_affordable := Fees.charge_mono fees affordable
  have pays := curveInput_pays (q := q.toNat) modest
  exact ⟨r, quoted, by omega⟩

/-- The factor of the default slippage. -/
theorem normal_defaultSlippage_factor :
    Normal (clamp (1.0 - defaultSlippage) 0.0 1.0) 8962163258467287 (-53) :=
  ⟨by norm_num, by norm_num, by norm_num, by norm_num, by decide +kernel⟩

/-- The default slippage never raises an amount. -/
theorem applySlippage_defaultSlippage_le (a : U64) : applySlippage a defaultSlippage ≤ a :=
  BitVec.le_def.mpr
    (toWord_floor_mul_le a normal_defaultSlippage_factor (by norm_num) (by norm_num)
      (by norm_num))

/-- **The two ways of pricing a buy agree.** Whatever an exact-quote-in quote promises, and
less, costs at most the spend when it is priced as an exact output. In particular so does the
minimum at the client's default slippage, which its `buy` asks for. The promise is nearly the
most: no output that costs at most the spend exceeds what three more units would buy. -/
theorem buy_quotes_agree (q B Q : U64) (fees : Fees) (slippage slippage' : Float)
    (below_max : q < u64Max) (stocked : 1 ≤ B) (funded : 1 ≤ Q) (modest : fees.totalBps ≤ 10_000) :
    let quote := quoteBuyExactQuoteIn q B Q fees slippage
    let c := q.toNat - quote.fee.toNat - 1
    (∀ b ≤ quote.amountOut, ∃ r, quoteBuyExactBaseOut b B Q fees slippage' = some r ∧
        r.totalQuoteIn ≤ q) ∧
      (quoteBuyExactQuoteIn q B Q fees defaultSlippage).minAmountOut ≤ quote.amountOut ∧
      ∀ b r, quoteBuyExactBaseOut b B Q fees slippage' = some r → r.totalQuoteIn ≤ q →
        b.toNat ≤ B.toNat * (c + 3) / (Q.toNat + (c + 3)) := by
  have one : (1 : U64).toNat = 1 := rfl
  have modest := Fees.toNat_totalBps_le modest
  rw [BitVec.le_def, one] at stocked funded
  rw [BitVec.lt_def, toNat_u64Max] at below_max
  dsimp only
  have input : q.toNat - (quoteBuyExactQuoteIn q B Q fees slippage).fee.toNat - 1 =
      curveInput fees q.toNat := by
    rw [toNat_quoteBuyExactQuoteIn_fee, curveInput]
    omega
  refine ⟨?_, ?_, ?_⟩
  · intro b within
    rw [BitVec.le_def, toNat_quoteBuyExactQuoteIn_amountOut] at within
    obtain ⟨r, quoted, paid⟩ := total_le_of_le_output slippage' modest funded
      stocked within
    exact ⟨r, quoted, BitVec.le_def.mpr paid⟩
  · have minimum : (quoteBuyExactQuoteIn q B Q fees defaultSlippage).minAmountOut =
        applySlippage (quoteBuyExactQuoteIn q B Q fees slippage).amountOut defaultSlippage := by
      simp only [quoteBuyExactQuoteIn]
    rw [minimum]
    exact applySlippage_defaultSlippage_le _
  · intro b r quoted paid
    rw [BitVec.le_def] at paid
    obtain ⟨below, cost, total⟩ := quoteBuyExactBaseOut_eq_some quoted
    have near : r.quoteAmountIn.toNat ≤ curveInput fees q.toNat + 3 :=
      paid_input_le modest (by omega)
    rw [input, ← outGiven]
    exact (le_outGiven_iff funded below).mpr (by omega)

/-- A spend of a thousand promises 1986 units of a small pool, and pays for them. -/
theorem buy_quotes_agree_thousand :
    (quoteBuyExactQuoteIn 1_000 1_000_000 500_000 ⟨20, 5, 5⟩ 0.0).amountOut = 1_986 ∧
      ∃ r, quoteBuyExactBaseOut 1_986 1_000_000 500_000 ⟨20, 5, 5⟩ 0.0 = some r ∧
        r.totalQuoteIn ≤ 1_000 := by
  have priced :
      (quoteBuyExactQuoteIn 1_000 1_000_000 500_000 ⟨20, 5, 5⟩ 0.0).amountOut = 1_986 := by
    decide +kernel
  exact ⟨priced, (buy_quotes_agree 1_000 1_000_000 500_000 ⟨20, 5, 5⟩ 0.0 0.0 (by decide)
    (by decide) (by decide) (by decide)).1 1_986 (by rw [priced]; decide)⟩

end PumpSwapSdk
