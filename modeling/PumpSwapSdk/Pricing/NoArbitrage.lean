import PumpSwapSdk.Foundation.Exchange
import PumpSwapSdk.Pricing.Exact

/-!
# No free money from quoted trades

A trader deals with one pool at the SDK's quotes. Each trade is priced on the current
effective reserves, with any fees; where the program keeps a fee is left open, so the pool
may retain any part of it. Every trade is fair (`Trade.fair`): it creates neither asset, and
it does not lower the product of the reserves. Hence no sequence of trades makes money
(`no_trading_run_makes_money`).
-/

set_option autoImplicit false

namespace PumpSwapSdk

open Foundation.ConstantProduct
open Foundation.Exchange
open Foundation.MachineWord

/-- The pool's effective reserves, and what the trader has gained or lost so far. -/
structure Market where
  baseReserve : U64
  quoteReserve : U64
  traderBase : ℤ
  traderQuote : ℤ

namespace Market

/-- A market as the holdings of a two-asset exchange. -/
def holdings (m : Market) : Holdings ℤ where
  poolBase := m.baseReserve.toNat
  poolQuote := m.quoteReserve.toNat
  traderBase := m.traderBase
  traderQuote := m.traderQuote

/-- The product of the reserves. -/
def product (m : Market) : ℕ := m.baseReserve.toNat * m.quoteReserve.toNat

/-- Both reserves are positive. -/
def Funded (m : Market) : Prop := 0 < m.baseReserve.toNat ∧ 0 < m.quoteReserve.toNat

theorem product_holdings (m : Market) : m.holdings.product = (m.product : ℤ) :=
  (Nat.cast_mul _ _).symm

theorem funded_holdings {m : Market} : m.holdings.Funded ↔ m.Funded := by
  constructor
  · rintro ⟨base, quote⟩
    exact ⟨Int.natCast_pos.mp base, Int.natCast_pos.mp quote⟩
  · rintro ⟨base, quote⟩
    exact ⟨Int.natCast_pos.mpr base, Int.natCast_pos.mpr quote⟩

/-- Fairness of a change, over the natural numbers of the reserves. -/
theorem fair_of_nat {m m' : Market}
    (base : m'.traderBase + m'.baseReserve.toNat ≤ m.traderBase + m.baseReserve.toNat)
    (quote : m'.traderQuote + m'.quoteReserve.toNat ≤ m.traderQuote + m.quoteReserve.toNat)
    (product : m.product ≤ m'.product) : Holdings.Fair m.holdings m'.holdings where
  base_le := base
  quote_le := quote
  product_le := by
    rw [product_holdings, product_holdings]
    exact_mod_cast product

end Market

/-- One trade at a quoted price. The new reserves are words, so a trade that would not fit
them is not taken. -/
inductive Trade : Market → Market → Prop where
  /-- The pool pays out at least what the trader is credited and at most the curve's output. -/
  | sell {m : Market} (b : U64) (fees : Fees) (slippage : Float) {quote : SwapQuote} {g : ℕ}
      {base' quote' : U64}
      (quoted : quote = quoteSell b m.baseReserve m.quoteReserve fees slippage)
      (least : quote.amountOut.toNat ≤ g) (most : g ≤ quote.grossAmountOut.toNat)
      (base_fits : base'.toNat = m.baseReserve.toNat + b.toNat)
      (quote_fits : quote'.toNat + g = m.quoteReserve.toNat) :
      Trade m ⟨base', quote', m.traderBase - b.toNat, m.traderQuote + quote.amountOut.toNat⟩
  /-- The pool keeps at least the curve's input and at most the whole spend. -/
  | buyExactQuoteIn {m : Market} (q : U64) (fees : Fees) (slippage : Float) {quote : SwapQuote}
      {x : ℕ} {base' quote' : U64}
      (quoted : quote = quoteBuyExactQuoteIn q m.baseReserve m.quoteReserve fees slippage)
      (least : q.toNat - quote.fee.toNat - 1 ≤ x) (most : x ≤ q.toNat)
      (base_fits : base'.toNat + quote.amountOut.toNat = m.baseReserve.toNat)
      (quote_fits : quote'.toNat = m.quoteReserve.toNat + x) :
      Trade m ⟨base', quote', m.traderBase + quote.amountOut.toNat, m.traderQuote - q.toNat⟩
  /-- The pool keeps at least the curve's input and at most what the trader pays. -/
  | buy {m : Market} (b : U64) (fees : Fees) (slippage : Float) {quote : BuyExactOutQuote}
      {x : ℕ} {base' quote' : U64}
      (quoted : quoteBuyExactBaseOut b m.baseReserve m.quoteReserve fees slippage = some quote)
      (least : quote.quoteAmountIn.toNat ≤ x) (most : x ≤ quote.totalQuoteIn.toNat)
      (base_fits : base'.toNat + b.toNat = m.baseReserve.toNat)
      (quote_fits : quote'.toNat = m.quoteReserve.toNat + x) :
      Trade m ⟨base', quote', m.traderBase + b.toNat, m.traderQuote - quote.totalQuoteIn.toNat⟩

/-- **Every quoted trade is fair.** -/
theorem Trade.fair ⦃m m' : Market⦄ (funded : m.holdings.Funded) (trade : Trade m m') :
    Holdings.Fair m.holdings m'.holdings := by
  obtain ⟨base_pos, quote_pos⟩ := Market.funded_holdings.mp funded
  cases trade with
  | @sell b fees slippage quote g base' quote' quoted least most base_fits quote_fits =>
      subst quoted
      rw [toNat_quoteSell_gross] at most
      have kept := product_le_of_outGiven (z := b.toNat) (by omega) le_rfl most
      refine Market.fair_of_nat (by dsimp only; omega) (by dsimp only; omega) ?_
      have left : quote'.toNat = m.quoteReserve.toNat - g := by omega
      rw [Market.product, Market.product, base_fits, left]
      exact kept
  | @buyExactQuoteIn q fees slippage quote x base' quote' quoted least most base_fits quote_fits =>
      subst quoted
      rw [toNat_quoteBuyExactQuoteIn_amountOut] at base_fits
      rw [toNat_quoteBuyExactQuoteIn_fee] at least
      have fed : curveInput fees q.toNat ≤ x := by
        have := q.isLt
        simp only [curveInput]
        omega
      have kept := product_le_of_outGiven (X := m.quoteReserve.toNat)
        (Y := m.baseReserve.toNat) (by omega) fed le_rfl
      refine Market.fair_of_nat ?_ (by dsimp only; omega) ?_
      · dsimp only
        rw [toNat_quoteBuyExactQuoteIn_amountOut]
        omega
      · have left : base'.toNat = m.baseReserve.toNat -
            outGiven (curveInput fees q.toNat) m.quoteReserve.toNat m.baseReserve.toNat := by
          omega
        rw [Market.product, Market.product, quote_fits, left, Nat.mul_comm,
          Nat.mul_comm (_ - _)]
        exact kept
  | @buy b fees slippage quote x base' quote' quoted least most base_fits quote_fits =>
      obtain ⟨below, cost, -⟩ := quoteBuyExactBaseOut_eq_some quoted
      -- A saturated cost cannot be paid: the quote reserve would not fit a word.
      have paid : inFor b.toNat m.quoteReserve.toNat m.baseReserve.toNat ≤ x := by
        have := quote'.isLt
        omega
      have kept := product_le_of_inFor below paid
      refine Market.fair_of_nat (by dsimp only; omega) (by dsimp only; omega) ?_
      have left : base'.toNat = m.baseReserve.toNat - b.toNat := by omega
      rw [Market.product, Market.product, quote_fits, left, Nat.mul_comm, Nat.mul_comm (_ - _)]
      exact kept

/-- Any number of trades, in any order. -/
abbrev Trades : Market → Market → Prop := Relation.ReflTransGen Trade

/-- Runs of trades are fair, and never empty the pool. -/
theorem Trades.fair {m m' : Market} (funded : m.Funded) (run : Trades m m') :
    Holdings.Fair m.holdings m'.holdings ∧ m'.holdings.Funded :=
  fair_of_run (fun _ => ⟨Int.natCast_nonneg _, Int.natCast_nonneg _⟩) Trade.fair
    (Market.funded_holdings.mpr funded) run

/-- **No sequence of quoted trades makes money out of a pool**: the product of the reserves
never falls on the way, and the trader never ends with no less of one asset and strictly more
of the other. -/
theorem no_trading_run_makes_money {start finish : Market} (funded : start.Funded)
    (run : Trades start finish) :
    (∀ middle, Trades start middle → Trades middle finish → middle.product ≤ finish.product) ∧
      ¬ (start.traderBase ≤ finish.traderBase ∧ start.traderQuote < finish.traderQuote) ∧
      ¬ (start.traderQuote ≤ finish.traderQuote ∧ start.traderBase < finish.traderBase) := by
  obtain ⟨fair, open_still⟩ := Trades.fair funded run
  have open_first := Market.funded_holdings.mpr funded
  refine ⟨?_, ?_, ?_⟩
  · intro middle earlier later
    obtain ⟨-, funded_middle⟩ := Trades.fair funded earlier
    have grown := (Trades.fair (Market.funded_holdings.mp funded_middle) later).1.product_le
    rw [Market.product_holdings, Market.product_holdings] at grown
    exact_mod_cast grown
  · rintro ⟨base, quote⟩
    exact no_gain_in_quote fair open_first open_still base quote
  · rintro ⟨quote, base⟩
    exact no_gain_in_base fair open_first open_still quote base

/-- A run that sells ten base and spends the proceeds again. -/
theorem no_trading_run_makes_money_round_trip :
    (⟨1000, 1000, 0, 0⟩ : Market).product ≤ (⟨1008, 997, -8, 0⟩ : Market).product := by
  have sold : Trade ⟨1000, 1000, 0, 0⟩ ⟨1010, 991, -10, 6⟩ := by
    have credited : (quoteSell 10 1000 1000 ⟨20, 5, 5⟩ 0.0).amountOut.toNat = 6 := by
      decide +kernel
    have trade := @Trade.sell ⟨1000, 1000, 0, 0⟩ 10 ⟨20, 5, 5⟩ 0.0 _ 9 1010 991 rfl
      (by decide +kernel) (by decide +kernel) (by decide +kernel) (by decide +kernel)
    dsimp only at trade
    rw [credited] at trade
    exact trade
  have bought : Trade ⟨1010, 991, -10, 6⟩ ⟨1008, 997, -8, 0⟩ := by
    have received : (quoteBuyExactQuoteIn 6 1010 991 ⟨20, 5, 5⟩ 0.0).amountOut.toNat = 2 := by
      decide +kernel
    have trade := @Trade.buyExactQuoteIn ⟨1010, 991, -10, 6⟩ 6 ⟨20, 5, 5⟩ 0.0 _ 6 1008 997 rfl
      (by decide +kernel) (by decide +kernel) (by decide +kernel) (by decide +kernel)
    dsimp only at trade
    rw [received] at trade
    exact trade
  have funded : Market.Funded ⟨1000, 1000, 0, 0⟩ := ⟨by decide, by decide⟩
  have run := Relation.ReflTransGen.refl.tail sold |>.tail bought
  exact (no_trading_run_makes_money funded run).1 _ .refl run

end PumpSwapSdk
