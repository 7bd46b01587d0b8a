import PumpSwapSdk.Client.Swap

/-!
# Liquidity transactions

The creation of a WSOL-quoted pool, deposits into one, and withdrawals of a fraction of the LP
balance, by the instructions of the transaction the client signs.
-/

set_option autoImplicit false

namespace PumpSwapSdk

open Foundation

variable (crates : Crates) (rpc : Rpc)

/-- Creates a WSOL-quoted pool whose vaults are its associated token accounts, the base vault
under the given token program. -/
def createWsolPoolWithOptions (index : U16) (baseAmountIn quoteAmountIn : U64)
    (coinCreator baseMint baseTokenProgram : Pubkey) (isMayhemMode isCashbackCoin : Bool)
    (wallet : Pubkey) : Result (List Ix) := do
  let pool := (calcPoolPdaWithIndex crates index wallet baseMint wrappedSolMint).1
  let baseAta := crates.getAssociatedTokenAddressWithProgramId wallet baseMint baseTokenProgram
  let wsolAta := crates.getAssociatedTokenAddress wallet wrappedSolMint
  let poolBaseAta := crates.getAssociatedTokenAddressWithProgramId pool baseMint baseTokenProgram
  let poolQuoteAta := crates.getAssociatedTokenAddress pool wrappedSolMint
  let createIx ← createPoolInstructionWithOptions crates index baseAmountIn quoteAmountIn
    isMayhemMode isCashbackCoin pool wallet coinCreator baseMint wrappedSolMint baseAta wsolAta
    poolBaseAta poolQuoteAta baseTokenProgram SplToken.id
  let syncing ← syncNative crates SplToken.id wsolAta
  let closing ← splTokenCloseAccount crates SplToken.id wsolAta wallet wallet
  .ok
    [.createAssociatedTokenAccountIdempotent wallet wallet wrappedSolMint SplToken.id,
      .transfer wallet wsolAta quoteAmountIn,
      syncing,
      .createAssociatedTokenAccountIdempotent wallet pool baseMint baseTokenProgram,
      .createAssociatedTokenAccountIdempotent wallet pool wrappedSolMint SplToken.id,
      .own createIx,
      closing]

/-- Creates a WSOL-quoted pool of a mint of the classic token program. -/
def createWsolPool (baseAmountIn quoteAmountIn : U64) (coinCreator baseMint wallet : Pubkey) :
    Result (List Ix) :=
  createWsolPoolWithOptions crates 0 baseAmountIn quoteAmountIn coinCreator baseMint SplToken.id
    false false wallet

/-- A fraction of an LP balance. -/
def lpTokenAmount (lpTokenPercent : Float) (balance : U64) : U64 :=
  Binary64.toWord (lpTokenPercent * Binary64.ofWord balance)

/-- Withdraws a fraction of the wallet's LP tokens from a WSOL-quoted pool. -/
def withdrawFromWsolPool (pool baseMint wallet : Pubkey) (lpTokenPercent : Float)
    (minBaseAmountOut minQuoteAmountOut : U64) : Result (List Ix) := do
  let baseAta := crates.getAssociatedTokenAddress wallet baseMint
  let wsolAta := crates.getAssociatedTokenAddress wallet wrappedSolMint
  let lpMint := (calcLpMintPda crates pool).1
  let userPoolTokenAccount := (calcUserPoolTokenAccount crates wallet lpMint).1
  let lpBalance ← rpc.getTokenAccountBalance userPoolTokenAccount
  let balance ← parseU64 lpBalance
  if balance = 0 then
    bail "Zero LP token balance"
  else do
    let withdrawIx ← withdrawInstruction crates pool wallet baseMint baseAta wsolAta
      (lpTokenAmount lpTokenPercent balance) minBaseAmountOut minQuoteAmountOut
    let closing ← splTokenCloseAccount crates SplToken.id wsolAta wallet wallet
    .ok
      [.createAssociatedTokenAccountIdempotent wallet wallet baseMint SplToken.id,
        .createAssociatedTokenAccountIdempotent wallet wallet wrappedSolMint SplToken.id,
        .own withdrawIx,
        closing]

/-- Deposits into a WSOL-quoted pool, wrapping as much as the deposit may take. -/
def depositIntoWsolPool (poolInfo : PoolInfo) (wallet : Pubkey)
    (lpTokenAmountOut maxBaseAmountIn maxQuoteAmountIn : U64) : Result (List Ix) := do
  let baseAta := crates.getAssociatedTokenAddressWithProgramId wallet poolInfo.baseMint
    poolInfo.baseTokenProgram
  let wsolAta := crates.getAssociatedTokenAddress wallet wrappedSolMint
  let userLpAta := (calcUserPoolTokenAccount crates wallet poolInfo.lpMint).1
  let depositIx ← makeDepositInstruction lpTokenAmountOut maxBaseAmountIn maxQuoteAmountIn
    poolInfo wallet baseAta wsolAta userLpAta
  let extension ← maybeExtendPoolIx poolInfo wallet
  let syncing ← syncNative crates SplToken.id wsolAta
  let closing ← splTokenCloseAccount crates SplToken.id wsolAta wallet wallet
  .ok (extension.toList ++
    [.createAssociatedTokenAccountIdempotent wallet wallet poolInfo.baseMint
        poolInfo.baseTokenProgram,
      .createAssociatedTokenAccountIdempotent wallet wallet wrappedSolMint SplToken.id,
      .transfer wallet wsolAta maxQuoteAmountIn,
      syncing,
      .createAssociatedTokenAccountIdempotent wallet wallet poolInfo.lpMint SplToken2022.id,
      .own depositIx,
      closing])

end PumpSwapSdk
