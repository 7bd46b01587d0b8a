import PumpSwapSdk.Foundation.Binary64
import PumpSwapSdk.State.Fees
import PumpSwapSdk.State.Pool

/-!
# Swap pricing

The curve steps and the three quotes. Products are taken in 128 bits, so that no
intermediate result overflows; a result too large for a word saturates. Slippage is applied
in floating point.
-/

set_option autoImplicit false

namespace PumpSwapSdk

open Foundation
open Foundation.MachineWord

/-! ## The curve -/

/-- Constant-product output with no fee accounting, in floating point. -/
def calcAmountOut (amountIn reserveIn reserveOut : U64) (slippage : Float) : U64 :=
  let amountIn := Binary64.ofWord amountIn
  let reserveIn := Binary64.ofWord reserveIn
  let reserveOut := Binary64.ofWord reserveOut
  let product := reserveIn * reserveOut
  let newInReserve := reserveIn + amountIn
  let newOutReserve := product / newInReserve + 1.0
  let result := (reserveOut - newOutReserve) * (1.0 - slippage)
  Binary64.toWord (Binary64.round (Binary64.maxNum result 0.0))

/-- `floor(reserve_out * amount_in / (reserve_in + amount_in))`. -/
def constantProductOut (amountIn reserveIn reserveOut : U64) : U64 :=
  let numerator := widen 128 reserveOut * widen 128 amountIn
  let denominator := widen 128 reserveIn + widen 128 amountIn
  if denominator = 0 then 0
  else (tryFrom 64 (numerator / denominator)).getD u64Max

/-- `ceil(reserve_in * amount_out / (reserve_out - amount_out))`, or `none` when the amount
would drain the reserve. -/
def constantProductIn (amountOut reserveIn reserveOut : U64) : Option U64 := do
  let remaining ← checkedSub reserveOut amountOut
  if remaining = 0 then none
  else
    let numerator := widen 128 reserveIn * widen 128 amountOut
    some ((tryFrom 64 (divCeil numerator (widen 128 remaining))).getD u64Max)

def applySlippage (amount : U64) (slippage : Float) : U64 :=
  let factor := Binary64.clamp (1.0 - slippage) 0.0 1.0
  Binary64.toWord (Binary64.maxNum (Binary64.floor (Binary64.ofWord amount * factor)) 0.0)

/-! ## Quotes -/

/-- A swap priced for an exact input. -/
structure SwapQuote where
  grossAmountOut : U64
  fee : U64
  amountOut : U64
  minAmountOut : U64
deriving DecidableEq

/-- A swap priced for an exact base output. -/
structure BuyExactOutQuote where
  quoteAmountIn : U64
  fee : U64
  totalQuoteIn : U64
  maxQuoteIn : U64
deriving DecidableEq

/-- Prices a `sell`: exact base in, minimum quote out. -/
def quoteSell (baseAmountIn baseReserve quoteReserve : U64) (fees : Fees) (slippage : Float) :
    SwapQuote :=
  let gross := constantProductOut baseAmountIn baseReserve quoteReserve
  let fee := fees.feeOn gross
  let amountOut := saturatingSub gross fee
  { grossAmountOut := gross
    fee
    amountOut
    minAmountOut := applySlippage amountOut slippage }

/-- Prices a `buy_exact_quote_in`: exact quote spent, minimum base out. The curve is fed one
unit less than what the fee leaves. -/
def quoteBuyExactQuoteIn (quoteAmountIn baseReserve quoteReserve : U64) (fees : Fees)
    (slippage : Float) : SwapQuote :=
  let denominator : U128 := 10_000 + widen 128 fees.totalBps
  let charged := (tryFrom 64 (widen 128 quoteAmountIn * 10_000 / denominator)).getD u64Max
  let fee := fees.feeOn charged
  let net := saturatingSub quoteAmountIn fee
  let curveIn := saturatingSub net 1
  let amountOut := constantProductOut curveIn quoteReserve baseReserve
  { grossAmountOut := amountOut
    fee
    amountOut
    minAmountOut := applySlippage amountOut slippage }

/-- Prices a `buy`: exact base out, capped quote in. -/
def quoteBuyExactBaseOut (baseAmountOut baseReserve quoteReserve : U64) (fees : Fees)
    (slippage : Float) : Option BuyExactOutQuote := do
  let quoteAmountIn ← constantProductIn baseAmountOut quoteReserve baseReserve
  let fee := fees.feeOn quoteAmountIn
  let totalQuoteIn := saturatingAdd quoteAmountIn fee
  let u32Max := Binary64.ofWord (widen 64 (maxValue 32))
  let factor := Binary64.minNum (1.0 + Binary64.maxNum slippage 0.0) u32Max
  let maxQuoteIn := Binary64.toWord (Binary64.ceil (Binary64.ofWord totalQuoteIn * factor))
  some { quoteAmountIn, fee, totalQuoteIn, maxQuoteIn }

/-- Quotes spending exactly `solIn` lamports, on either pool orientation. -/
def tokenBuyQuote (solIn : U64) (reserves : U64 × U64) (pool : PoolInfo) (fees : Fees)
    (slippage : Float) : SwapQuote :=
  let (baseReserve, quoteReserve) := pool.effectiveReserves reserves.1 reserves.2
  if pool.solIsBase then quoteSell solIn baseReserve quoteReserve fees slippage
  else quoteBuyExactQuoteIn solIn baseReserve quoteReserve fees slippage

/-- Quotes selling exactly `tokensIn` tokens, on either pool orientation. -/
def tokenSellQuote (tokensIn : U64) (reserves : U64 × U64) (pool : PoolInfo) (fees : Fees)
    (slippage : Float) : SwapQuote :=
  let (baseReserve, quoteReserve) := pool.effectiveReserves reserves.1 reserves.2
  if pool.solIsBase then quoteBuyExactQuoteIn tokensIn baseReserve quoteReserve fees slippage
  else quoteSell tokensIn baseReserve quoteReserve fees slippage

/-- The least number of tokens that lamports buy. -/
def Math.buyAmountOut (amountIn : U64) (reserves : U64 × U64) (pool : PoolInfo) (fees : Fees)
    (slippage : Float) : U64 :=
  (tokenBuyQuote amountIn reserves pool fees slippage).minAmountOut

/-- The least number of lamports that tokens sell for. -/
def Math.sellAmountOut (amountIn : U64) (reserves : U64 × U64) (pool : PoolInfo) (fees : Fees)
    (slippage : Float) : U64 :=
  (tokenSellQuote amountIn reserves pool fees slippage).minAmountOut

/-! ## Fee selection -/

/-- The pool's market cap in lamports. -/
def marketCapLamports (baseSupply baseReserve quoteReserve : U64) : U128 :=
  if baseReserve = 0 then 0
  else widen 128 baseSupply * widen 128 quoteReserve / widen 128 baseReserve

/-- Whether the fee program prices this pool off the market-cap ladder. -/
def isTieredFeePool (pool : PoolInfo) : Bool := pool.coinCreator ≠ Pubkey.default

/-- Whether the SDK can reproduce the fee the program will charge. -/
def canQuoteFees (pool : PoolInfo) : Bool :=
  !isTieredFeePool pool || pool.quoteMint = wrappedSolMint

end PumpSwapSdk
