import PumpSwapSdk.Pricing.FeeRounding

/-!
# Pricing in fixed width

The quotes and the market cap are written a second time with every operation checked: a
product, a sum or a rounded-up quotient that does not fit, a narrowing that would fall back to
the largest word and a sum that would saturate all fail. Below one hundred percent of fees the
checked versions never fail, so they return what the code returns, and that is the documented
formulas over unbounded integers (`fixed_width_pricing_is_exact`).
-/

set_option autoImplicit false

namespace PumpSwapSdk

open Foundation.ConstantProduct (outGiven outGiven_le)
open Foundation.MachineWord

/-! ## Checked pricing -/

namespace Checked

def ceilDivBps (amount bps : U64) : Option U64 := do
  let numerator ← checkedMul (widen 128 amount) (widen 128 bps)
  tryFrom 64 (← checkedDivCeil numerator 10_000)

def totalBps (fees : Fees) : Option U64 := do
  checkedAdd (← checkedAdd fees.lpFeeBps fees.protocolFeeBps) fees.creatorFeeBps

def feeOn (fees : Fees) (amount : U64) : Option U64 := do
  let components ← [fees.lpFeeBps, fees.protocolFeeBps, fees.creatorFeeBps].mapM fun bps =>
    ceilDivBps amount bps
  components.foldlM checkedAdd 0

def constantProductOut (amountIn reserveIn reserveOut : U64) : Option U64 := do
  let numerator ← checkedMul (widen 128 reserveOut) (widen 128 amountIn)
  let denominator ← checkedAdd (widen 128 reserveIn) (widen 128 amountIn)
  if denominator = 0 then some 0
  else tryFrom 64 (← checkedDiv numerator denominator)

def quoteSell (baseAmountIn baseReserve quoteReserve : U64) (fees : Fees) (slippage : Float) :
    Option SwapQuote := do
  let gross ← constantProductOut baseAmountIn baseReserve quoteReserve
  let fee ← feeOn fees gross
  let amountOut := saturatingSub gross fee
  some
    { grossAmountOut := gross
      fee
      amountOut
      minAmountOut := applySlippage amountOut slippage }

def quoteBuyExactQuoteIn (quoteAmountIn baseReserve quoteReserve : U64) (fees : Fees)
    (slippage : Float) : Option SwapQuote := do
  let denominator ← checkedAdd 10_000 (widen 128 (← totalBps fees))
  let numerator ← checkedMul (widen 128 quoteAmountIn) 10_000
  let charged ← tryFrom 64 (← checkedDiv numerator denominator)
  let fee ← feeOn fees charged
  let net := saturatingSub quoteAmountIn fee
  let curveIn := saturatingSub net 1
  let amountOut ← constantProductOut curveIn quoteReserve baseReserve
  some
    { grossAmountOut := amountOut
      fee
      amountOut
      minAmountOut := applySlippage amountOut slippage }

def marketCapLamports (baseSupply baseReserve quoteReserve : U64) : Option U128 :=
  if baseReserve = 0 then some 0
  else do
    let product ← checkedMul (widen 128 baseSupply) (widen 128 quoteReserve)
    checkedDiv product (widen 128 baseReserve)

end Checked

/-! ## Nothing fails -/

section Steps

variable {fees : Fees} {a b : U64}

theorem widen_mul_fits (a b : U64) : (widen 128 a).toNat * (widen 128 b).toNat < 2 ^ 128 := by
  rw [toNat_widen a (by decide), toNat_widen b (by decide)]
  calc a.toNat * b.toNat < 2 ^ 64 * 2 ^ 64 := Nat.mul_lt_mul'' a.isLt b.isLt
    _ = 2 ^ 128 := by decide

theorem widen_add_fits (a b : U64) : (widen 128 a).toNat + (widen 128 b).toNat < 2 ^ 128 := by
  have := a.isLt
  have := b.isLt
  rw [toNat_widen a (by decide), toNat_widen b (by decide)]
  omega

/-- The fee on a word is a word. -/
theorem charge_lt (modest : fees.totalBps.toNat < 10_000) (amount : U64) :
    fees.charge amount.toNat < 2 ^ 64 := by
  have bound := Fees.mul_charge_le modest.le amount.toNat
  have part : amount.toNat * fees.totalBps.toNat ≤ amount.toNat * 9_999 :=
    Nat.mul_le_mul_left _ (by omega)
  have := amount.isLt
  omega

theorem toNat_feeOn_of_modest (modest : fees.totalBps.toNat < 10_000) (amount : U64) :
    (fees.feeOn amount).toNat = fees.charge amount.toNat := by
  have := charge_lt modest amount
  rw [Fees.toNat_feeOn]
  omega

theorem checked_totalBps (modest : fees.totalBps.toNat < 10_000) :
    Checked.totalBps fees = some fees.totalBps := by
  have rate := Fees.totalBps_eq_rate modest.le
  rw [rate, Fees.rate] at modest
  have first : fees.lpFeeBps.toNat + fees.protocolFeeBps.toNat < 2 ^ 64 := by omega
  have both : (fees.lpFeeBps + fees.protocolFeeBps).toNat =
      fees.lpFeeBps.toNat + fees.protocolFeeBps.toNat := BitVec.toNat_add_of_lt first
  rw [Checked.totalBps, checkedAdd_of_lt first, Option.bind_eq_bind, Option.bind_some,
    checkedAdd_of_lt (by omega), Fees.totalBps, saturatingAdd_of_lt first,
    saturatingAdd_of_lt (by omega)]

/-- A share that is a word is taken without a fallback. -/
theorem checked_ceilDivBps (fits : (a.toNat * b.toNat) ⌈/⌉ 10_000 < 2 ^ 64) :
    Checked.ceilDivBps a b = some (ceilDivBps a b) ∧
      (ceilDivBps a b).toNat = (a.toNat * b.toNat) ⌈/⌉ 10_000 := by
  have divisor : (10_000 : U128).toNat = 10_000 := by decide
  have narrow : (divCeil (widen 128 a * widen 128 b) 10_000).toNat < 2 ^ 64 := by
    rw [toNat_divCeil _ _ (by decide), toNat_widen_mul_widen _ _ (by decide), divisor]
    exact fits
  refine ⟨?_, ?_⟩
  · rw [Checked.ceilDivBps, checkedMul_of_lt (widen_mul_fits a b), Option.bind_eq_bind,
      Option.bind_some, checkedDivCeil_of_ne (by decide), Option.bind_some]
    exact tryFrom_of_lt narrow u64Max
  · rw [toNat_ceilDivBps]
    omega

/-- The three components are words, and so are their sums. -/
theorem checked_feeOn (modest : fees.totalBps.toNat < 10_000) (amount : U64) :
    Checked.feeOn fees amount = some (fees.feeOn amount) := by
  have bound := charge_lt modest amount
  rw [Fees.charge] at bound
  obtain ⟨lp, lp_exact⟩ := checked_ceilDivBps (a := amount) (b := fees.lpFeeBps) (by omega)
  obtain ⟨protocol, protocol_exact⟩ :=
    checked_ceilDivBps (a := amount) (b := fees.protocolFeeBps) (by omega)
  obtain ⟨creator, creator_exact⟩ :=
    checked_ceilDivBps (a := amount) (b := fees.creatorFeeBps) (by omega)
  have zero : (0 : U64).toNat = 0 := rfl
  have add (a b : U64) (fits : a.toNat + b.toNat < 2 ^ 64) :
      checkedAdd a b = some (saturatingAdd a b) := by
    rw [checkedAdd_of_lt fits, saturatingAdd_of_lt fits]
  simp only [Checked.feeOn, List.mapM_cons, List.mapM_nil, lp, protocol, creator,
    Option.pure_def, Option.bind_eq_bind, Option.bind_some, List.foldlM_cons, List.foldlM_nil]
  rw [add _ _ (by omega), Option.bind_some, add _ _ (by rw [toNat_saturatingAdd]; omega),
    Option.bind_some, add _ _ (by simp only [toNat_saturatingAdd]; omega), Option.bind_some]
  rfl

/-- The curve's exact-input step is a word, whatever the reserves. -/
theorem checked_constantProductOut (a X Y : U64) :
    Checked.constantProductOut a X Y = some (constantProductOut a X Y) := by
  rw [Checked.constantProductOut, checkedMul_of_lt (widen_mul_fits Y a),
    checkedAdd_of_lt (widen_add_fits X a), constantProductOut]
  simp only [Option.bind_eq_bind, Option.bind_some]
  split
  · rfl
  · rename_i some
    have narrow : (widen 128 Y * widen 128 a / (widen 128 X + widen 128 a)).toNat < 2 ^ 64 := by
      rw [BitVec.toNat_udiv, toNat_widen_mul_widen Y a (by decide),
        toNat_widen_add_widen X a (by decide), ← outGiven]
      exact lt_of_le_of_lt outGiven_le Y.isLt
    rw [checkedDiv_of_ne some, Option.bind_some]
    exact tryFrom_of_lt narrow u64Max

end Steps

section Quotes

variable {fees : Fees} {slippage : Float}

theorem checked_quoteSell (modest : fees.totalBps.toNat < 10_000) (b B Q : U64) :
    Checked.quoteSell b B Q fees slippage = some (quoteSell b B Q fees slippage) := by
  rw [Checked.quoteSell, checked_constantProductOut, Option.bind_eq_bind, Option.bind_some,
    checked_feeOn modest]
  rfl

theorem checked_quoteBuyExactQuoteIn (modest : fees.totalBps.toNat < 10_000) (q B Q : U64) :
    Checked.quoteBuyExactQuoteIn q B Q fees slippage =
      some (quoteBuyExactQuoteIn q B Q fees slippage) := by
  have ten_thousand : (10_000 : U128).toNat = 10_000 := by decide
  have wide_q : (widen 128 q).toNat = q.toNat := toNat_widen q (by decide)
  have wide_bps : (widen 128 fees.totalBps).toNat = fees.totalBps.toNat :=
    toNat_widen _ (by decide)
  have word := q.isLt
  have sum : (10_000 : U128).toNat + (widen 128 fees.totalBps).toNat < 2 ^ 128 := by omega
  have product : (widen 128 q).toNat * (10_000 : U128).toNat < 2 ^ 128 := by
    rw [wide_q, ten_thousand]
    omega
  have denominator : (10_000 + widen 128 fees.totalBps).toNat = 10_000 + fees.totalBps.toNat := by
    rw [BitVec.toNat_add_of_lt sum, ten_thousand, wide_bps]
  have divisor : (10_000 + widen 128 fees.totalBps : U128) ≠ 0 := by
    intro zero
    rw [zero] at denominator
    have none : (0 : U128).toNat = 0 := rfl
    omega
  have narrow : (widen 128 q * 10_000 / (10_000 + widen 128 fees.totalBps)).toNat < 2 ^ 64 := by
    rw [BitVec.toNat_udiv, BitVec.toNat_mul, Nat.mod_eq_of_lt product, wide_q, ten_thousand,
      denominator, ← charged]
    exact lt_of_le_of_lt (charged_le fees q.toNat) word
  simp only [Checked.quoteBuyExactQuoteIn, checked_totalBps modest, checkedAdd_of_lt sum,
    checkedMul_of_lt product, checkedDiv_of_ne divisor, Option.bind_eq_bind, Option.bind_some]
  rw [tryFrom_of_lt narrow u64Max, Option.bind_some, checked_feeOn modest, Option.bind_some,
    checked_constantProductOut]
  rfl

theorem checked_marketCapLamports (S B Q : U64) :
    Checked.marketCapLamports S B Q = some (marketCapLamports S B Q) := by
  unfold Checked.marketCapLamports marketCapLamports
  split
  · rfl
  · rename_i held
    have divisor : widen 128 B ≠ 0 := by
      intro zero
      refine held (BitVec.eq_of_toNat_eq ?_)
      rw [← toNat_widen B (show 64 ≤ 128 by decide), zero]
      rfl
    rw [checkedMul_of_lt (widen_mul_fits S Q), Option.bind_eq_bind, Option.bind_some]
    exact checkedDiv_of_ne divisor

end Quotes

/-! ## The documented formulas -/

namespace Documented

/-- `floor(quote_reserve * base_in / (base_reserve + base_in))`. -/
def gross (b B Q : ℕ) : ℕ := Q * b / (B + b)

/-- `ceil(x*lp/1e4) + ceil(x*protocol/1e4) + ceil(x*creator/1e4)`. -/
def fee (fees : Fees) (x : ℕ) : ℕ :=
  (x * fees.lpFeeBps.toNat) ⌈/⌉ 10_000 + (x * fees.protocolFeeBps.toNat) ⌈/⌉ 10_000 +
    (x * fees.creatorFeeBps.toNat) ⌈/⌉ 10_000

/-- `gross - ceil(gross*lp/1e4) - ceil(gross*protocol/1e4) - ceil(gross*creator/1e4)`. -/
def sellOut (fees : Fees) (gross : ℕ) : ℕ :=
  gross - (gross * fees.lpFeeBps.toNat) ⌈/⌉ 10_000 -
    (gross * fees.protocolFeeBps.toNat) ⌈/⌉ 10_000 - (gross * fees.creatorFeeBps.toNat) ⌈/⌉ 10_000

/-- `floor(quote_in * 10_000 / (10_000 + total_bps))`. -/
def charged (fees : Fees) (q : ℕ) : ℕ :=
  q * 10_000 /
    (10_000 + (fees.lpFeeBps.toNat + fees.protocolFeeBps.toNat + fees.creatorFeeBps.toNat))

/-- `floor(base_reserve * (net - 1) / (quote_reserve + net - 1))`. -/
def buyOut (net B Q : ℕ) : ℕ := B * (net - 1) / (Q + net - 1)

/-- `base_mint_supply * effective_quote_reserve / base_reserve`, zero on an empty reserve. -/
def marketCap (S B Q : ℕ) : ℕ := if B = 0 then 0 else S * Q / B

end Documented

section Formulas

variable {fees : Fees} {slippage : Float}

/-- Taking one unit off before or after the reserve is added makes no difference: without a
unit to take off there is nothing to divide. -/
theorem buyOut_eq_outGiven (net B Q : ℕ) : Documented.buyOut net B Q = outGiven (net - 1) Q B := by
  rcases Nat.eq_zero_or_pos net with rfl | some
  · rw [Documented.buyOut, Nat.zero_sub, Nat.mul_zero, Nat.zero_div,
      Foundation.ConstantProduct.outGiven_zero]
  · rw [Documented.buyOut, outGiven, Nat.add_sub_assoc some]

theorem quoteSell_documented (modest : fees.totalBps.toNat < 10_000) (b B Q : U64) :
    (quoteSell b B Q fees slippage).grossAmountOut.toNat =
        Documented.gross b.toNat B.toNat Q.toNat ∧
      (quoteSell b B Q fees slippage).fee.toNat =
        Documented.fee fees (Documented.gross b.toNat B.toNat Q.toNat) ∧
      (quoteSell b B Q fees slippage).amountOut.toNat =
        Documented.sellOut fees (Documented.gross b.toNat B.toNat Q.toNat) := by
  have gross := toNat_quoteSell_gross b B Q fees slippage
  refine ⟨gross, ?_, ?_⟩
  · exact (toNat_feeOn_of_modest modest _).trans (congrArg fees.charge gross)
  · rw [toNat_quoteSell_amountOut, Fees.charge, ← Nat.sub_sub, ← Nat.sub_sub]
    rfl

theorem quoteBuyExactQuoteIn_documented (modest : fees.totalBps.toNat < 10_000) (q B Q : U64)
    (slippage : Float) :
    (quoteBuyExactQuoteIn q B Q fees slippage).fee.toNat =
        Documented.fee fees (Documented.charged fees q.toNat) ∧
      (quoteBuyExactQuoteIn q B Q fees slippage).amountOut.toNat =
        Documented.buyOut (q.toNat - Documented.fee fees (Documented.charged fees q.toNat))
          B.toNat Q.toNat := by
  have taxed : Documented.charged fees q.toNat = charged fees q.toNat := by
    rw [charged, Fees.totalBps_eq_rate modest.le]
    rfl
  rw [taxed]
  refine ⟨?_, ?_⟩
  · have word := (charge_lt modest (BitVec.ofNat 64 (charged fees q.toNat)))
    have below := lt_of_le_of_lt (charged_le fees q.toNat) q.isLt
    rw [BitVec.toNat_ofNat, Nat.mod_eq_of_lt below] at word
    rw [toNat_quoteBuyExactQuoteIn_fee, Nat.min_eq_left (by omega)]
    rfl
  · rw [toNat_quoteBuyExactQuoteIn_amountOut, buyOut_eq_outGiven]
    rfl

theorem marketCapLamports_documented (S B Q : U64) :
    (marketCapLamports S B Q).toNat = Documented.marketCap S.toNat B.toNat Q.toNat := by
  rw [toNat_marketCapLamports, Documented.marketCap]
  split
  · rename_i empty
    rw [empty, Nat.div_zero]
  · rfl

end Formulas

/-- **Fixed-width pricing equals the documented formulas.** Below one hundred percent of fees no
operation overflows, no narrowing falls back and no sum saturates, and the results are the
formulas over unbounded integers. -/
theorem fixed_width_pricing_is_exact (fees : Fees) (slippage : Float)
    (modest : fees.totalBps < 10_000) :
    (∀ b B Q : U64,
      let gross := Documented.gross b.toNat B.toNat Q.toNat
      let quote := quoteSell b B Q fees slippage
      Checked.quoteSell b B Q fees slippage = some quote ∧
        quote.grossAmountOut.toNat = gross ∧ quote.fee.toNat = Documented.fee fees gross ∧
        quote.amountOut.toNat = Documented.sellOut fees gross) ∧
    (∀ q B Q : U64,
      let fee := Documented.fee fees (Documented.charged fees q.toNat)
      let out := Documented.buyOut (q.toNat - fee) B.toNat Q.toNat
      let quote := quoteBuyExactQuoteIn q B Q fees slippage
      Checked.quoteBuyExactQuoteIn q B Q fees slippage = some quote ∧
        quote.grossAmountOut.toNat = out ∧ quote.fee.toNat = fee ∧ quote.amountOut.toNat = out) ∧
    ∀ S B Q : U64,
      Checked.marketCapLamports S B Q = some (marketCapLamports S B Q) ∧
        (marketCapLamports S B Q).toNat = Documented.marketCap S.toNat B.toNat Q.toNat := by
  have rate : (10_000 : U64).toNat = 10_000 := by decide
  rw [BitVec.lt_def, rate] at modest
  refine ⟨?_, ?_, ?_⟩
  · intro b B Q
    exact ⟨checked_quoteSell modest b B Q, quoteSell_documented modest b B Q⟩
  · intro q B Q
    obtain ⟨fee, out⟩ := quoteBuyExactQuoteIn_documented modest q B Q slippage
    exact ⟨checked_quoteBuyExactQuoteIn modest q B Q, out, fee, out⟩
  · intro S B Q
    exact ⟨checked_marketCapLamports S B Q, marketCapLamports_documented S B Q⟩

/-- Selling the largest word into two reserves of the largest word. -/
theorem fixed_width_pricing_is_exact_largest :
    (quoteSell u64Max u64Max u64Max ⟨20, 5, 9_974⟩ 0.0).amountOut.toNat =
      Documented.sellOut ⟨20, 5, 9_974⟩ 9_223_372_036_854_775_807 := by
  have sold := ((fixed_width_pricing_is_exact ⟨20, 5, 9_974⟩ 0.0 (by decide)).1
    u64Max u64Max u64Max).2.2.2
  have gross : Documented.gross u64Max.toNat u64Max.toNat u64Max.toNat =
      9_223_372_036_854_775_807 := by decide +kernel
  rw [gross] at sold
  exact sold

end PumpSwapSdk
