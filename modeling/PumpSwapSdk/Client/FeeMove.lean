import PumpSwapSdk.Client.Payout

/-!
# What a payout moves

The programs dispatch on an instruction's tag and find their accounts by position.
`Instruction.feeMove` reads a creator-fee instruction the same way: which accounts it pays out
of and into. For each builder there is one lemma that says what its instruction moves.
-/

set_option autoImplicit false

namespace PumpSwapSdk

/-- A movement of creator fees. A vault that holds quote tokens does so in `vaultAta`. -/
inductive FeeMove where
  /-- From a curve into pump.fun's creator vault. -/
  | sweepCurve (curve vault vaultAta : Pubkey)
  /-- From a pool into pump-amm's creator vault. -/
  | sweepPool (pool vaultAta : Pubkey)
  /-- From pump-amm's creator vault into pump.fun's. -/
  | transfer (drained vault : Pubkey) (vaultAta : Option Pubkey)
  /-- From pump.fun's creator vault to the shareholders. -/
  | distribute (curve vault : Pubkey) (vaultAta : Option Pubkey)
deriving DecidableEq

namespace Instruction

/-- What a creator-fee instruction moves, by its program, its tag and its accounts. -/
def feeMove (ix : Instruction) : Option FeeMove :=
  if ix.programId = pumpfunProgram then
    if ix.data = sweepCreatorFeeTag then do
      some (.sweepCurve (← ix.key 7) (← ix.key 9) (← ix.key 10))
    else if ix.data.take 8 = distributeCreatorFeesTag then do
      some (.distribute (← ix.key 1) (← ix.key 3) none)
    else if ix.data.take 8 = distributeCreatorFeesV2Tag then do
      some (.distribute (← ix.key 2) (← ix.key 4) (some (← ix.key 8)))
    else none
  else if ix.programId = pumpSwapProgramId then
    if ix.data = sweepCreatorFeeTag then do
      some (.sweepPool (← ix.key 2) (← ix.key 7))
    else if ix.data = transferCreatorFeesToPumpTag then do
      some (.transfer (← ix.key 6) (← ix.key 7) none)
    else if ix.data = transferCreatorFeesToPumpV2Tag then do
      some (.transfer (← ix.key 7) (← ix.key 8) (some (← ix.key 9)))
    else none
  else none

end Instruction

theorem pumpSwapProgramId_ne_pumpfunProgram : pumpSwapProgramId ≠ pumpfunProgram := by
  decide +kernel

variable {crates : Crates} {ix : Instruction}
variable {payer mint creator quoteMint quoteTokenProgram : Pubkey}

/-! ## The builders' instructions -/

theorem feeMove_sweepCurve
    (built : sweepBondingCurveCreatorFeeInstruction crates payer mint creator quoteMint
      quoteTokenProgram = .ok ix) :
    ix.feeMove = some (.sweepCurve (bondingCurvePda crates mint)
      (pumpCreatorVaultPda crates creator)
      (findCoinCreatorVaultAta crates (pumpCreatorVaultPda crates creator) quoteTokenProgram
        quoteMint)) := by
  obtain rfl := Except.ok.inj built
  simp [Instruction.feeMove, Instruction.key]

theorem feeMove_sweepPool {pool : PoolInfo}
    (built : sweepPoolCreatorFeeInstruction crates payer pool = .ok ix) :
    ix.feeMove = some (.sweepPool pool.pool
      (findCoinCreatorVaultAta crates (findCoinCreatorVaultAuthority crates pool.coinCreator)
        pool.quoteTokenProgram pool.quoteMint)) := by
  obtain rfl := Except.ok.inj built
  simp [Instruction.feeMove, Instruction.key, pumpSwapProgramId_ne_pumpfunProgram]

theorem feeMove_transfer
    (built : transferCreatorFeesToPumpInstruction crates creator = .ok ix) :
    ix.feeMove = some (.transfer
      (findCoinCreatorVaultAta crates (findCoinCreatorVaultAuthority crates creator) SplToken.id
        wrappedSolMint)
      (pumpCreatorVaultPda crates creator) none) := by
  obtain rfl := Except.ok.inj built
  simp [Instruction.feeMove, Instruction.key, pumpSwapProgramId_ne_pumpfunProgram,
    sweepCreatorFeeTag, transferCreatorFeesToPumpTag]

theorem feeMove_transferV2
    (built : transferCreatorFeesToPumpV2Instruction crates payer creator quoteMint
      quoteTokenProgram = .ok ix) :
    ix.feeMove = some (.transfer
      (findCoinCreatorVaultAta crates (findCoinCreatorVaultAuthority crates creator)
        quoteTokenProgram quoteMint)
      (pumpCreatorVaultPda crates creator)
      (some (findCoinCreatorVaultAta crates (pumpCreatorVaultPda crates creator)
        quoteTokenProgram quoteMint))) := by
  obtain rfl := Except.ok.inj built
  simp [Instruction.feeMove, Instruction.key, pumpSwapProgramId_ne_pumpfunProgram,
    sweepCreatorFeeTag, transferCreatorFeesToPumpTag,
    transferCreatorFeesToPumpV2Tag]

theorem feeMove_distribute {shareholders : List Pubkey}
    (built : distributeCreatorFeesInstruction crates mint shareholders = .ok ix) :
    ix.feeMove = some (.distribute (bondingCurvePda crates mint)
      (pumpCreatorVaultPda crates (sharingConfigPda crates mint)) none) := by
  obtain rfl := Except.ok.inj built
  simp [Instruction.feeMove, Instruction.key, sweepCreatorFeeTag, distributeCreatorFeesTag]

theorem feeMove_distributeV2 {initializeAta : Bool} {shareholders : List Pubkey}
    (built : distributeCreatorFeesV2Instruction crates payer mint quoteMint quoteTokenProgram
      initializeAta shareholders = .ok ix) :
    ix.feeMove = some (.distribute (bondingCurvePda crates mint)
      (pumpCreatorVaultPda crates (sharingConfigPda crates mint))
      (some (findCoinCreatorVaultAta crates
        (pumpCreatorVaultPda crates (sharingConfigPda crates mint)) quoteTokenProgram
        quoteMint))) := by
  obtain rfl := Except.ok.inj built
  simp [Instruction.feeMove, Instruction.key, sweepCreatorFeeTag, distributeCreatorFeesTag,
    distributeCreatorFeesV2Tag]

end PumpSwapSdk
