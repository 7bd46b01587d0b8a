import PumpSwapSdk.Foundation.SplitCharge
import PumpSwapSdk.Pricing.Exact

/-!
# How far rounding raises the fee

The three components of a fee are rounded up separately. The fee is at least the rounded-up
share of the combined rate, and each component past the first adds at most one unit
(`fee_split_overcharges_by_components`).

Dust can be charged more than it is worth, and then the quotes stop at zero. Where the fee is
covered, a sale's fee and output make up what the curve gave, and a buy's fee and curve input
make up the spend but for one unit; elsewhere the fee is off by two units or one
(`quotes_conserve_covered_value`).
-/

set_option autoImplicit false

namespace PumpSwapSdk

open Foundation Foundation.MachineWord

namespace Fees

variable {fees : Fees} {n m : ℕ}

/-! ## The fee as a split charge -/

/-- The rates of the three components. -/
def parts (fees : Fees) : List ℕ :=
  [fees.lpFeeBps.toNat, fees.protocolFeeBps.toNat, fees.creatorFeeBps.toNat]

/-- How many components are not zero. -/
def components (fees : Fees) : ℕ :=
  [fees.lpFeeBps, fees.protocolFeeBps, fees.creatorFeeBps].countP (· ≠ 0)

/-- The rounded-up share of the combined rate. -/
def combined (fees : Fees) (n : ℕ) : ℕ := (n * fees.totalBps.toNat) ⌈/⌉ 10_000

theorem sum_parts (fees : Fees) : fees.parts.sum = fees.rate := by
  simp only [parts, List.sum_cons, List.sum_nil, rate]
  omega

theorem charge_eq_split (fees : Fees) (n : ℕ) :
    fees.charge n = SplitCharge.charge 10_000 fees.parts n := by
  simp only [charge, parts, SplitCharge.charge_cons, SplitCharge.charge_nil, SplitCharge.share]
  omega

theorem active_parts (fees : Fees) : SplitCharge.active fees.parts = fees.components := by
  have same (bps : U64) : (0 < bps.toNat) ↔ bps ≠ 0 := by
    rw [Nat.pos_iff_ne_zero, Ne, Ne, ← BitVec.toNat_inj]
    rfl
  simp only [SplitCharge.active, parts, components, List.countP_cons, List.countP_nil,
    decide_eq_true_eq, same]

theorem components_le (fees : Fees) : fees.components ≤ 3 := List.countP_le_length

theorem components_eq_zero_iff : fees.components = 0 ↔ fees.rate = 0 := by
  rw [← active_parts, ← sum_parts, SplitCharge.active, List.countP_eq_zero, List.sum_eq_zero_iff]
  simp only [decide_eq_true_eq, Nat.not_lt, Nat.le_zero]

/-- No component, no fee. -/
theorem charge_eq_zero (none : fees.components = 0) (n : ℕ) : fees.charge n = 0 := by
  have bound := SplitCharge.mul_charge_add_active_le fees.parts
    (show 0 < 10_000 by decide) n
  rw [active_parts, none, sum_parts, components_eq_zero_iff.mp none, ← charge_eq_split] at bound
  omega

/-- The fee covers the share of the combined rate. -/
theorem combined_le_charge (modest : fees.totalBps.toNat ≤ 10_000) (n : ℕ) :
    fees.combined n ≤ fees.charge n := by
  rw [combined, totalBps_eq_rate modest, ← sum_parts, charge_eq_split]
  exact SplitCharge.combined_le_charge (by decide) n

/-- Each component past the first adds at most one unit. -/
theorem charge_le_combined (modest : fees.totalBps.toNat ≤ 10_000) (n : ℕ) :
    fees.charge n ≤ fees.combined n + (fees.components - 1) := by
  rw [combined, totalBps_eq_rate modest, ← sum_parts, charge_eq_split, ← active_parts]
  exact SplitCharge.charge_le_combined _ (by decide) n

theorem sum_parts_le (modest : fees.totalBps.toNat ≤ 10_000) : fees.parts.sum ≤ 10_000 := by
  rw [sum_parts, ← totalBps_eq_rate modest]
  exact modest

/-- A fee of at most one hundred percent takes at most two units more than there is. -/
theorem charge_le_add_two (modest : fees.totalBps.toNat ≤ 10_000) (n : ℕ) :
    fees.charge n ≤ n + 2 := by
  have bound := SplitCharge.charge_le_add (by decide) (sum_parts_le modest) n
  rw [active_parts, ← charge_eq_split] at bound
  have := fees.components_le
  omega

theorem net_eq_split (fees : Fees) (n : ℕ) :
    n - fees.charge n = SplitCharge.net 10_000 fees.parts n := by
  rw [charge_eq_split, SplitCharge.net]

/-- A larger amount leaves at most two units less. -/
theorem net_le_net_add_two (modest : fees.totalBps.toNat ≤ 10_000) (le : n ≤ m) :
    n - fees.charge n ≤ m - fees.charge m + 2 := by
  have bound := SplitCharge.net_le_net_add (by decide) (sum_parts_le modest) le
  rw [active_parts, ← net_eq_split, ← net_eq_split] at bound
  have := fees.components_le
  omega

/-- Amounts charged separately leave at most two units more than their sum. -/
theorem sum_net_le_add_two (modest : fees.totalBps.toNat ≤ 10_000) {amounts : List ℕ}
    (within : amounts.sum ≤ m) :
    (amounts.map fun n => n - fees.charge n).sum ≤ m - fees.charge m + 2 := by
  have same : (fun n => n - fees.charge n) = SplitCharge.net 10_000 fees.parts := by
    funext n
    exact fees.net_eq_split n
  have bound := SplitCharge.sum_net_le (by decide) (sum_parts_le modest) within
  rw [active_parts, ← net_eq_split, ← same] at bound
  have := fees.components_le
  omega

/-- The fee, up to one unit a component. -/
theorem mul_charge_le (modest : fees.totalBps.toNat ≤ 10_000) (n : ℕ) :
    10_000 * fees.charge n ≤ n * fees.totalBps.toNat + 29_997 := by
  have bound := SplitCharge.mul_charge_add_active_le fees.parts
    (show 0 < 10_000 by decide) n
  rw [active_parts, sum_parts, ← charge_eq_split, ← totalBps_eq_rate modest] at bound
  have := fees.components_le
  omega

/-- The fee does not saturate short of the two largest words. -/
theorem toNat_feeOn_of_lt (modest : fees.totalBps.toNat ≤ 10_000) {amount : U64}
    (below : amount.toNat < 2 ^ 64 - 2) : (fees.feeOn amount).toNat = fees.charge amount.toNat := by
  have := charge_le_add_two modest amount.toNat
  rw [toNat_feeOn]
  omega

end Fees

/-! ## The rounding contract -/

/-- **Rounding each component up separately costs at most one unit per extra component**, over
all fees of at most one hundred percent, and both bounds are reached with three components. -/
theorem fee_split_overcharges_by_components (fees : Fees) (amount : U64)
    (modest : fees.totalBps ≤ 10_000) (below : amount < u64Max - 1) :
    (fees.components = 0 → fees.feeOn amount = 0) ∧
    (fees.components ≠ 0 →
      fees.combined amount.toNat ≤ (fees.feeOn amount).toNat ∧
        (fees.feeOn amount).toNat ≤ fees.combined amount.toNat + (fees.components - 1)) ∧
    (∃ (fees : Fees) (amount : U64), fees.totalBps ≤ 10_000 ∧ amount < u64Max - 1 ∧
      fees.components = 3 ∧ (fees.feeOn amount).toNat = fees.combined amount.toNat) ∧
    ∃ (fees : Fees) (amount : U64), fees.totalBps ≤ 10_000 ∧ amount < u64Max - 1 ∧
      fees.components = 3 ∧ (fees.feeOn amount).toNat = fees.combined amount.toNat + (3 - 1) := by
  have last : (u64Max - 1).toNat = 2 ^ 64 - 2 := by decide
  have modest := Fees.toNat_totalBps_le modest
  rw [BitVec.lt_def, last] at below
  have fee := Fees.toNat_feeOn_of_lt modest below
  refine ⟨?_, ?_, ?_, ?_⟩
  · intro none
    refine BitVec.eq_of_toNat_eq ?_
    rw [fee, Fees.charge_eq_zero none]
    rfl
  · intro _
    rw [fee]
    exact ⟨Fees.combined_le_charge modest _, Fees.charge_le_combined modest _⟩
  · exact ⟨⟨10, 10, 10⟩, 10_000, by decide +kernel⟩
  · exact ⟨⟨10, 10, 10⟩, 1, by decide +kernel⟩

/-- On a thousand units, 20, 5 and 5 basis points come to between 3 and 5 units. -/
theorem fee_split_overcharges_by_components_thousand :
    3 ≤ ((⟨20, 5, 5⟩ : Fees).feeOn 1_000).toNat ∧ ((⟨20, 5, 5⟩ : Fees).feeOn 1_000).toNat ≤ 5 :=
  (fee_split_overcharges_by_components ⟨20, 5, 5⟩ 1_000 (by decide) (by decide)).2.1 (by decide)

/-! ## Conservation -/

/-- What a buy for an exact spend feeds to the curve: the spend less its fee, less one unit. -/
def fedToCurve (quoteAmountIn : U64) (quote : SwapQuote) : U64 :=
  saturatingSub (saturatingSub quoteAmountIn quote.fee) 1

section Dust

variable {fees : Fees} {n q : ℕ}

/-- A fee is covered once the amount's untaxed part comes to two units. -/
theorem charge_le_of_untaxed (modest : fees.totalBps.toNat ≤ 10_000)
    (untaxed : 20_000 ≤ n * (10_000 - fees.totalBps.toNat)) : fees.charge n ≤ n := by
  have bound := Fees.mul_charge_le modest n
  rw [Nat.mul_sub] at untaxed
  omega

/-- **A spend that does not cover its own fee** is between two and four units, and the fee is
at most one unit more. -/
theorem charge_charged_of_eaten (modest : fees.totalBps.toNat ≤ 10_000)
    (eaten : q ≤ fees.charge (charged fees q)) (some : 1 ≤ q) :
    2 ≤ q ∧ q ≤ 4 ∧ fees.charge (charged fees q) ≤ q + 1 := by
  have divided := (charged_bounds fees q).1
  have divided' := (charged_bounds fees q).2
  have rounded := Fees.mul_charge_le modest (charged fees q)
  -- Without a rate, or without an amount to apply it to, there is no fee.
  have rated : 1 ≤ fees.totalBps.toNat := by
    by_contra unrated
    have zero : fees.rate = 0 := by
      rw [← Fees.totalBps_eq_rate modest]
      omega
    have free := Fees.charge_eq_zero (Fees.components_eq_zero_iff.mpr zero) (charged fees q)
    omega
  have applied : 1 ≤ charged fees q := by
    by_contra nothing
    have zero : charged fees q = 0 := by omega
    rw [zero, Fees.charge_zero] at eaten
    omega
  generalize fees.charge (charged fees q) = fee at *
  generalize charged fees q = c at *
  generalize fees.totalBps.toNat = rate at *
  have part : rate ≤ c * rate := Nat.le_mul_of_pos_left rate applied
  have within : c * rate ≤ c * 10_000 := Nat.mul_le_mul_left c modest
  rw [Nat.mul_add] at divided
  have few : c ≤ 2 := by omega
  have little : c * rate ≤ 20_000 := by omega
  omega

end Dust

section Quotes

variable {b q B Q : U64} {fees : Fees} {slippage : Float}

theorem toNat_quoteSell_fee (b B Q : U64) (fees : Fees) (slippage : Float) :
    (quoteSell b B Q fees slippage).fee.toNat =
      min (fees.charge (quoteSell b B Q fees slippage).grossAmountOut.toNat) (2 ^ 64 - 1) :=
  Fees.toNat_feeOn fees _

theorem toNat_fedToCurve (q : U64) (quote : SwapQuote) :
    (fedToCurve q quote).toNat = q.toNat - quote.fee.toNat - 1 := by
  have one : (1 : U64).toNat = 1 := rfl
  simp only [fedToCurve, toNat_saturatingSub, one]

theorem quoteBuyExactQuoteIn_amountOut (q B Q : U64) (fees : Fees) (slippage : Float) :
    (quoteBuyExactQuoteIn q B Q fees slippage).amountOut =
      constantProductOut (fedToCurve q (quoteBuyExactQuoteIn q B Q fees slippage)) Q B := by
  simp only [quoteBuyExactQuoteIn, fedToCurve]

/-- A sale's output and fee make up what the curve gave, if that covers the fee. -/
theorem quoteSell_conserves (covered : (quoteSell b B Q fees slippage).fee ≤
      (quoteSell b B Q fees slippage).grossAmountOut) :
    (quoteSell b B Q fees slippage).amountOut.toNat + (quoteSell b B Q fees slippage).fee.toNat =
      (quoteSell b B Q fees slippage).grossAmountOut.toNat := by
  have left := toNat_quoteSell_amountOut b B Q fees slippage
  have taken := toNat_quoteSell_fee b B Q fees slippage
  have word := toNat_le_max (quoteSell b B Q fees slippage).grossAmountOut
  rw [← toNat_quoteSell_gross b B Q fees slippage] at left
  rw [BitVec.le_def] at covered
  omega

/-- A sale that does not cover its fee pays nothing, and is of dust or at a rate near one hundred
percent. -/
theorem quoteSell_of_eaten (modest : fees.totalBps.toNat ≤ 10_000)
    (eaten : (quoteSell b B Q fees slippage).grossAmountOut <
      (quoteSell b B Q fees slippage).fee) :
    (quoteSell b B Q fees slippage).amountOut = 0 ∧
      (quoteSell b B Q fees slippage).fee.toNat ≤
        (quoteSell b B Q fees slippage).grossAmountOut.toNat + 2 ∧
      (quoteSell b B Q fees slippage).grossAmountOut.toNat * (10_000 - fees.totalBps.toNat) <
        20_000 := by
  have left := toNat_quoteSell_amountOut b B Q fees slippage
  have taken := toNat_quoteSell_fee b B Q fees slippage
  have two_more := Fees.charge_le_add_two modest
    (quoteSell b B Q fees slippage).grossAmountOut.toNat
  rw [← toNat_quoteSell_gross b B Q fees slippage] at left
  rw [BitVec.lt_def] at eaten
  refine ⟨BitVec.eq_of_toNat_eq ?_, by omega, ?_⟩
  · rw [left, BitVec.ofNat_eq_ofNat, BitVec.toNat_ofNat, Nat.zero_mod]
    omega
  · by_contra untaxed
    have := charge_le_of_untaxed modest (Nat.not_lt.mp untaxed)
    omega

/-- A buy's fee, its curve input and one unit make up the spend, if that covers the fee. -/
theorem quoteBuyExactQuoteIn_conserves
    (covered : (quoteBuyExactQuoteIn q B Q fees slippage).fee < q) :
    q.toNat = (quoteBuyExactQuoteIn q B Q fees slippage).fee.toNat + 1 +
      (fedToCurve q (quoteBuyExactQuoteIn q B Q fees slippage)).toNat := by
  rw [toNat_fedToCurve]
  rw [BitVec.lt_def] at covered
  omega

/-- A spend that does not cover its fee feeds nothing to the curve, and is of two to four
units. -/
theorem quoteBuyExactQuoteIn_of_eaten (modest : fees.totalBps.toNat ≤ 10_000)
    (some : 1 ≤ q.toNat) (eaten : q ≤ (quoteBuyExactQuoteIn q B Q fees slippage).fee) :
    fedToCurve q (quoteBuyExactQuoteIn q B Q fees slippage) = 0 ∧
      (quoteBuyExactQuoteIn q B Q fees slippage).fee.toNat ≤ q.toNat + 1 ∧
      2 ≤ q.toNat ∧ q.toNat ≤ 4 := by
  have taken := toNat_quoteBuyExactQuoteIn_fee q B Q fees slippage
  rw [BitVec.le_def] at eaten
  have dust := charge_charged_of_eaten (q := q.toNat) modest (by omega) some
  refine ⟨BitVec.eq_of_toNat_eq ?_, by omega, dust.1, dust.2.1⟩
  rw [toNat_fedToCurve, BitVec.ofNat_eq_ofNat, BitVec.toNat_ofNat, Nat.zero_mod]
  omega

end Quotes

/-- **The quotes conserve value where the fee is covered.** A sale's output and fee make up
what the curve gave, and a buy's fee, its curve input and one unit make up the spend. A fee that
exceeds the amount it is taken from leaves nothing: this takes a sale of dust, or a rate near one
hundred percent, or a spend of two to four units, and it exceeds it by at most two units or
one. -/
theorem quotes_conserve_covered_value (b q B Q : U64) (fees : Fees) (slippage : Float)
    (modest : fees.totalBps ≤ 10_000) (some : 1 ≤ q) :
    let sale := quoteSell b B Q fees slippage
    let buy := quoteBuyExactQuoteIn q B Q fees slippage
    (sale.fee ≤ sale.grossAmountOut →
      sale.amountOut.toNat + sale.fee.toNat = sale.grossAmountOut.toNat) ∧
    (sale.grossAmountOut < sale.fee →
      sale.amountOut = 0 ∧ sale.fee.toNat ≤ sale.grossAmountOut.toNat + 2 ∧
        sale.grossAmountOut.toNat * (10_000 - fees.totalBps.toNat) < 20_000) ∧
    buy.amountOut = constantProductOut (fedToCurve q buy) Q B ∧
    (buy.fee < q → q.toNat = buy.fee.toNat + 1 + (fedToCurve q buy).toNat) ∧
    (q ≤ buy.fee → fedToCurve q buy = 0 ∧ buy.fee.toNat ≤ q.toNat + 1 ∧
      2 ≤ q.toNat ∧ q.toNat ≤ 4) := by
  have one : (1 : U64).toNat = 1 := rfl
  have modest := Fees.toNat_totalBps_le modest
  rw [BitVec.le_def, one] at some
  exact ⟨quoteSell_conserves, quoteSell_of_eaten modest,
    quoteBuyExactQuoteIn_amountOut q B Q fees slippage, quoteBuyExactQuoteIn_conserves,
    quoteBuyExactQuoteIn_of_eaten modest some⟩

/-- Selling into a thousand units, and spending a thousand, the parts add up. -/
theorem quotes_conserve_covered_value_thousand :
    (quoteSell 2_000 1_000_000 500_000 ⟨20, 5, 5⟩ 0.0).amountOut.toNat +
        (quoteSell 2_000 1_000_000 500_000 ⟨20, 5, 5⟩ 0.0).fee.toNat = 998 ∧
      1_000 = (quoteBuyExactQuoteIn 1_000 1_000_000 500_000 ⟨20, 5, 5⟩ 0.0).fee.toNat + 1 +
        (fedToCurve 1_000 (quoteBuyExactQuoteIn 1_000 1_000_000 500_000 ⟨20, 5, 5⟩ 0.0)).toNat := by
  obtain ⟨sale, -, -, buy, -⟩ := quotes_conserve_covered_value 2_000 1_000 1_000_000 500_000
    ⟨20, 5, 5⟩ 0.0 (by decide) (by decide)
  have gross : (quoteSell 2_000 1_000_000 500_000 ⟨20, 5, 5⟩ 0.0).grossAmountOut.toNat = 998 := by
    decide +kernel
  exact ⟨(sale (by decide +kernel)).trans gross, buy (by decide +kernel)⟩

/-- The three components of a fee on one unit come to three units, and on a spend of two units
too. -/
theorem quotes_lose_dust :
    (¬ ∀ (b B Q : U64) (fees : Fees) (slippage : Float), fees.totalBps ≤ 10_000 →
      (quoteSell b B Q fees slippage).amountOut.toNat + (quoteSell b B Q fees slippage).fee.toNat =
        (quoteSell b B Q fees slippage).grossAmountOut.toNat) ∧
    ¬ ∀ (q B Q : U64) (fees : Fees) (slippage : Float), fees.totalBps ≤ 10_000 → 1 ≤ q →
      q.toNat = (quoteBuyExactQuoteIn q B Q fees slippage).fee.toNat + 1 +
        (fedToCurve q (quoteBuyExactQuoteIn q B Q fees slippage)).toNat := by
  constructor
  · intro conserved
    exact absurd (conserved 1 1 2 ⟨20, 5, 5⟩ 0.0 (by decide)) (by decide +kernel)
  · intro conserved
    exact absurd (conserved 2 1_000 1_000 ⟨20, 5, 5⟩ 0.0 (by decide) (by decide))
      (by decide +kernel)

end PumpSwapSdk
