import PumpSwapSdk.Pricing.Exact

/-!
# Buying an exact output

The exact-output step is the inverse bound of the exact-input one: an input buys an output
exactly when it is at least the quoted cost (`le_constantProductOut_iff`), and one unit less
buys less. The quote built on it is right as long as nothing saturates
(`exact_output_quote_is_right_iff`): where the cost and its fee fit a word and there is
something to buy with, the curve delivers the output for the quoted input and the total is
the exact sum. Elsewhere the quote is returned all the same.
-/

set_option autoImplicit false

namespace PumpSwapSdk

open Foundation.ConstantProduct
open Foundation.MachineWord

variable {out x z B Q : U64}

/-! ## The inverse bound -/

/-- **Below the largest word, an input buys an output exactly when it covers the cost.** -/
theorem le_constantProductOut_iff (funded : 0 < Q.toNat)
    (step : constantProductIn out Q B = some z) (below_max : x.toNat < 2 ^ 64 - 1) :
    out ≤ constantProductOut x Q B ↔ z ≤ x := by
  obtain ⟨below, cost⟩ := constantProductIn_eq_some_iff.mp step
  rw [BitVec.le_def, BitVec.le_def, toNat_constantProductOut, le_outGiven_iff funded below, cost]
  omega

/-- **The exact-output curve step is the exact inverse bound of the exact-input one**, and
the quoted input is the least that buys the output. -/
theorem exact_output_cost_is_least (out B Q : U64) (funded : 1 ≤ Q) (below : out < B) :
    ∃ z, constantProductIn out Q B = some z ∧
      (∀ x < u64Max, out ≤ constantProductOut x Q B ↔ z ≤ x) ∧
      ∀ fees slippage, ∃ r, quoteBuyExactBaseOut out B Q fees slippage = some r ∧
        r.quoteAmountIn = z ∧ ∀ x < r.quoteAmountIn, constantProductOut x Q B < out := by
  have one : (1 : U64).toNat = 1 := rfl
  rw [BitVec.le_def, one] at funded
  rw [BitVec.lt_def] at below
  obtain ⟨z, step⟩ := Option.isSome_iff_exists.mp (constantProductIn_isSome_iff (X := Q).mpr below)
  have bound (x : U64) (small : x < u64Max) : out ≤ constantProductOut x Q B ↔ z ≤ x := by
    rw [BitVec.lt_def, toNat_u64Max] at small
    exact le_constantProductOut_iff funded step small
  refine ⟨z, step, bound, fun fees slippage => ?_⟩
  obtain ⟨r, quoted⟩ := Option.isSome_iff_exists.mp
    ((quoteBuyExactBaseOut_isSome_iff _ _ Q fees slippage).mpr below)
  have input : r.quoteAmountIn = z := by
    refine BitVec.eq_of_toNat_eq ?_
    rw [(quoteBuyExactBaseOut_eq_some quoted).2.1, (constantProductIn_eq_some_iff.mp step).2]
  refine ⟨r, quoted, input, fun x less => ?_⟩
  rw [input] at less
  have small : x < u64Max := by
    have := toNat_le_max z
    rw [BitVec.lt_def] at less ⊢
    rw [toNat_u64Max]
    omega
  exact BitVec.not_le.mp fun enough => absurd ((bound x small).mp enough) (BitVec.not_le.mpr less)

/-- Buying 9 of 1000 base from 500 quote costs 5, and 4 buys only 7. -/
theorem exact_output_cost_is_least_nine :
    constantProductIn 9 500 1000 = some 5 ∧ constantProductOut 4 500 1000 < 9 := by
  obtain ⟨z, step, -, quotes⟩ :=
    exact_output_cost_is_least 9 1000 500 (by decide) (by decide)
  have cost : constantProductIn 9 500 1000 = some 5 := by decide +kernel
  obtain rfl : z = 5 := Option.some.inj (step.symm.trans cost)
  obtain ⟨r, -, input, less⟩ := quotes Fees.default 0.0
  exact ⟨step, less 4 (by rw [input]; decide)⟩

/-! ## When the quote is right -/

/-- The curve delivers the output for the quoted input, and the total is the input with the
three fees, over unbounded integers. -/
def BuyExactOutQuote.Right (r : BuyExactOutQuote) (out B Q : U64) (fees : Fees) : Prop :=
  out ≤ constantProductOut r.quoteAmountIn Q B ∧
    r.totalQuoteIn.toNat = r.quoteAmountIn.toNat +
      ((r.quoteAmountIn.toNat * fees.lpFeeBps.toNat) ⌈/⌉ 10_000 +
        (r.quoteAmountIn.toNat * fees.protocolFeeBps.toNat) ⌈/⌉ 10_000 +
        (r.quoteAmountIn.toNat * fees.creatorFeeBps.toNat) ⌈/⌉ 10_000)

/-- The cost of an output, over unbounded integers. -/
def exactCost (out B Q : U64) : ℕ := (Q.toNat * out.toNat) ⌈/⌉ (B.toNat - out.toNat)

/-- The inputs the exact-output quote can price: something is there to buy with, or nothing
is bought, and the cost with its fees fits a word. -/
def Priceable (out B Q : U64) (fees : Fees) : Prop :=
  (out = 0 ∨ 0 < Q) ∧ exactCost out B Q + fees.charge (exactCost out B Q) ≤ 2 ^ 64 - 1

/-- Whether the curve delivers the output for its cost kept to a word. -/
theorem covers_iff {out B Q : ℕ} (below : out < B) :
    out ≤ outGiven (min (inFor out Q B) (2 ^ 64 - 1)) Q B ↔
      (out = 0 ∨ 0 < Q) ∧ inFor out Q B ≤ 2 ^ 64 - 1 := by
  rcases Nat.eq_zero_or_pos out with rfl | positive
  · simp
  · rcases Nat.eq_zero_or_pos Q with rfl | funded
    · -- An empty quote reserve asks for nothing and pays nothing.
      have free : inFor out 0 B = 0 := by simp only [inFor, Nat.zero_mul, zero_ceilDiv]
      simp only [free, Nat.zero_min, outGiven_zero]
      omega
    · rw [le_outGiven_iff funded below]
      omega

/-- **An exact-output quote is right exactly on the inputs that can be priced.** -/
theorem exact_output_quote_is_right_iff (out B Q : U64) (fees : Fees) (slippage : Float) :
    (∀ r, quoteBuyExactBaseOut out B Q fees slippage = some r → r.Right out B Q fees) ↔
      B ≤ out ∨ Priceable out B Q fees := by
  have zero : (0 : U64).toNat = 0 := rfl
  rw [Priceable, ← BitVec.toNat_inj, BitVec.lt_def, BitVec.le_def, zero]
  rcases Nat.lt_or_ge out.toNat B.toNat with below | drained
  · obtain ⟨r, quoted⟩ := Option.isSome_iff_exists.mp
      ((quoteBuyExactBaseOut_isSome_iff _ _ Q fees slippage).mpr below)
    obtain ⟨-, cost, total⟩ := quoteBuyExactBaseOut_eq_some quoted
    have covers := covers_iff (Q := Q.toNat) below
    have right : r.Right out B Q fees ↔
        ((out.toNat = 0 ∨ 0 < Q.toNat) ∧ exactCost out B Q ≤ 2 ^ 64 - 1) ∧
          r.quoteAmountIn.toNat + fees.charge r.quoteAmountIn.toNat ≤ 2 ^ 64 - 1 := by
      rw [BuyExactOutQuote.Right, BitVec.le_def, toNat_constantProductOut, cost, covers, ← cost,
        total]
      refine and_congr Iff.rfl ?_
      simp only [Fees.charge]
      omega
    have only : (∀ s, quoteBuyExactBaseOut out B Q fees slippage = some s →
        s.Right out B Q fees) ↔ r.Right out B Q fees := by
      constructor
      · exact fun all => all r quoted
      · intro right s quoted'
        obtain rfl := Option.some.inj (quoted.symm.trans quoted')
        exact right
    rw [only, right]
    have same : exactCost out B Q ≤ 2 ^ 64 - 1 → r.quoteAmountIn.toNat = exactCost out B Q := by
      intro fits
      rw [cost]
      exact Nat.min_eq_left fits
    constructor
    · rintro ⟨⟨something, fits⟩, room⟩
      rw [same fits] at room
      exact .inr ⟨something, room⟩
    · rintro (drained | ⟨something, room⟩)
      · omega
      · have fits : exactCost out B Q ≤ 2 ^ 64 - 1 := by omega
        rw [same fits]
        exact ⟨⟨something, fits⟩, room⟩
  · refine iff_of_true ?_ (.inl drained)
    intro r quoted
    have below := (quoteBuyExactBaseOut_eq_some quoted).1
    omega

/-- With an empty quote reserve the quote asks for nothing, and nothing buys the output. Near
the drain of a large one it asks for the largest word, which buys half the output. -/
theorem exact_output_quote_is_wrong :
    (¬ ∀ r, quoteBuyExactBaseOut 1 2 0 Fees.default 0.0 = some r →
      r.Right 1 2 0 Fees.default) ∧
    ¬ ∀ r, quoteBuyExactBaseOut 9_999 10_000 u64Max Fees.default 0.0 = some r →
      r.Right 9_999 10_000 u64Max Fees.default := by
  constructor
  · intro right
    obtain ⟨r, quoted⟩ := Option.isSome_iff_exists.mp
      ((quoteBuyExactBaseOut_isSome_iff 1 2 0 Fees.default 0.0).mpr (by decide))
    have free : r.quoteAmountIn = 0 := by
      refine BitVec.eq_of_toNat_eq ?_
      rw [(quoteBuyExactBaseOut_eq_some quoted).2.1]
      decide +kernel
    have bought := (right r quoted).1
    rw [free] at bought
    exact absurd bought (by decide +kernel)
  · intro right
    obtain ⟨r, quoted⟩ := Option.isSome_iff_exists.mp
      ((quoteBuyExactBaseOut_isSome_iff 9_999 10_000 u64Max Fees.default 0.0).mpr (by decide))
    have saturated : r.quoteAmountIn = u64Max := by
      refine BitVec.eq_of_toNat_eq ?_
      rw [(quoteBuyExactBaseOut_eq_some quoted).2.1]
      decide +kernel
    have bought := (right r quoted).1
    rw [saturated] at bought
    exact absurd bought (by decide +kernel)

end PumpSwapSdk
