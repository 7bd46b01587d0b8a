import PumpSwapSdk.Client.Payout
import PumpSwapSdk.Client.Swap

/-!
# Stale pools

The client's quotes and trades read the pool again before they price anything. Of the pool
the caller holds they use its identity only: the addresses and token programs, which do not
change (`fetchPoolSnapshot_eq_of_identity`). Two callers whose pools have one identity get the
same quotes and the same transactions, however old their pools are
(`trades_ignore_stale_state`).
-/

set_option autoImplicit false

namespace PumpSwapSdk

/-- What the caller's pool supplies to a snapshot. -/
structure PoolIdentity where
  pool : Pubkey
  poolBaseTokenAccount : Pubkey
  poolQuoteTokenAccount : Pubkey
  baseTokenProgram : Pubkey
  quoteTokenProgram : Pubkey
deriving DecidableEq

/-- The part of a pool that does not change. -/
def PoolInfo.identity (pool : PoolInfo) : PoolIdentity where
  pool := pool.pool
  poolBaseTokenAccount := pool.poolBaseTokenAccount
  poolQuoteTokenAccount := pool.poolQuoteTokenAccount
  baseTokenProgram := pool.baseTokenProgram
  quoteTokenProgram := pool.quoteTokenProgram

variable {crates : Crates} {choices : Choices} {rpc : Rpc} {p p' : PoolInfo}

/-- **A snapshot depends on the pool's identity only.** -/
theorem fetchPoolSnapshot_eq_of_identity (same : p.identity = p'.identity) :
    fetchPoolSnapshot crates rpc p = fetchPoolSnapshot crates rpc p' := by
  obtain ⟨pool, base, quote, baseProgram, quoteProgram⟩ := PoolIdentity.mk.inj same
  simp only [fetchPoolSnapshot, pool, base, quote, baseProgram, quoteProgram]

/-! ## Each use of a snapshot -/

theorem quoteTokenBuy_eq_of_identity (same : p.identity = p'.identity) (solIn : U64)
    (slippage : Float) :
    quoteTokenBuy crates rpc solIn p slippage = quoteTokenBuy crates rpc solIn p' slippage := by
  unfold quoteTokenBuy
  rw [fetchPoolSnapshot_eq_of_identity same]

theorem quoteTokenSell_eq_of_identity (same : p.identity = p'.identity) (tokensIn : U64)
    (slippage : Float) :
    quoteTokenSell crates rpc tokensIn p slippage =
      quoteTokenSell crates rpc tokensIn p' slippage := by
  unfold quoteTokenSell
  rw [fetchPoolSnapshot_eq_of_identity same]

theorem buyAmountOut_eq_of_identity (same : p.identity = p'.identity) (amountIn : U64) :
    buyAmountOut crates rpc amountIn p = buyAmountOut crates rpc amountIn p' := by
  unfold buyAmountOut
  rw [fetchPoolSnapshot_eq_of_identity same]

theorem sellAmountOut_eq_of_identity (same : p.identity = p'.identity) (amountIn : U64) :
    sellAmountOut crates rpc amountIn p = sellAmountOut crates rpc amountIn p' := by
  unfold sellAmountOut
  rw [fetchPoolSnapshot_eq_of_identity same]

/-! ## Quotes and trades -/

/-- **Quotes and trades do not depend on how stale the caller's pool is.** Two pools with the
same addresses and token programs give the same quotes, and the same transactions under the
same random choices, or fail alike. -/
theorem trades_ignore_stale_state (crates : Crates) (choices : Choices) (rpc : Rpc)
    (p p' : PoolInfo) (pool : p.pool = p'.pool)
    (base_vault : p.poolBaseTokenAccount = p'.poolBaseTokenAccount)
    (quote_vault : p.poolQuoteTokenAccount = p'.poolQuoteTokenAccount)
    (base_program : p.baseTokenProgram = p'.baseTokenProgram)
    (quote_program : p.quoteTokenProgram = p'.quoteTokenProgram) :
    (∀ solIn slippage,
      quoteTokenBuy crates rpc solIn p slippage = quoteTokenBuy crates rpc solIn p' slippage) ∧
    (∀ tokensIn slippage,
      quoteTokenSell crates rpc tokensIn p slippage =
        quoteTokenSell crates rpc tokensIn p' slippage) ∧
    (∀ amountIn payer,
      buy crates choices rpc amountIn p payer = buy crates choices rpc amountIn p' payer) ∧
    (∀ amountIn payer,
      sell crates choices rpc amountIn p payer = sell crates choices rpc amountIn p' payer) ∧
    (∀ amountIn keypair,
      simulateBuy crates choices rpc p amountIn keypair =
        simulateBuy crates choices rpc p' amountIn keypair) ∧
    ∀ amountIn keypair,
      simulateSell crates choices rpc p amountIn keypair =
        simulateSell crates choices rpc p' amountIn keypair := by
  have same : p.identity = p'.identity := by
    simp only [PoolInfo.identity, pool, base_vault, quote_vault, base_program, quote_program]
  refine ⟨fun solIn slippage => quoteTokenBuy_eq_of_identity same solIn slippage,
    fun tokensIn slippage => quoteTokenSell_eq_of_identity same tokensIn slippage,
    ?_, ?_, ?_, ?_⟩
  · intro amountIn payer
    simp only [buy, buyAmountOut_eq_of_identity same]
  · intro amountIn payer
    simp only [sell, sellAmountOut_eq_of_identity same]
  · intro amountIn keypair
    simp only [simulateBuy, buyAmountOut_eq_of_identity same]
  · intro amountIn keypair
    simp only [simulateSell, sellAmountOut_eq_of_identity same]

/-! ## The recorded coin's node -/

namespace Recorded

/-- A token account or a mint that stores an amount at an offset. -/
def amountAccount (offset : ℕ) (amount : U64) : Account :=
  ⟨List.replicate offset 0 ++ Foundation.LittleEndian.toBytes 8 amount, SplToken.id⟩

/-- A node that knows the pool, its vaults, the base mint and a ladder of one tier. -/
def poolNode : Rpc :=
  { node none none with
    getMultipleAccounts := fun keys =>
      if keys.length = 3 then
        .ok [some (poolAccount sharingConfig), some (amountAccount 64 1_000_000_000),
          some (amountAccount 64 80_000_000)]
      else
        let ladder : FeeConfig :=
          ⟨0, shareholder, ⟨20, 5, 0⟩, [⟨0, ⟨2, 93, 30⟩⟩], []⟩
        .ok [some ⟨ladder.encode, feeProgram⟩, some (amountAccount 36 1_000_000_000_000)] }

end Recorded

/-- The old pool is quoted as the later one. -/
theorem trades_ignore_stale_state_recorded :
    ∃ quote, quoteTokenBuy Recorded.crates Recorded.poolNode 1_000_000 Recorded.oldPool
        defaultSlippage = .ok quote ∧
      quoteTokenBuy Recorded.crates Recorded.poolNode 1_000_000 Recorded.laterPool
        defaultSlippage = .ok quote := by
  obtain ⟨quote, quoted⟩ := isOk_iff.mp (show (quoteTokenBuy Recorded.crates Recorded.poolNode
    1_000_000 Recorded.oldPool defaultSlippage).isOk by decide +kernel)
  have same := (trades_ignore_stale_state Recorded.crates ⟨List.Vector.replicate 32 0, 0, 0, 0⟩
    Recorded.poolNode Recorded.oldPool Recorded.laterPool rfl rfl rfl rfl rfl).1 1_000_000
      defaultSlippage
  exact ⟨quote, quoted, same ▸ quoted⟩

end PumpSwapSdk
