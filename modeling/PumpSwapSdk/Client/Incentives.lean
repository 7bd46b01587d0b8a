import PumpSwapSdk.Client.Swap

/-!
# Cashback and incentives

What the client does with volume accumulators: it pays out cashback and token incentives, and
creates, synchronises and closes accumulators.
-/

set_option autoImplicit false

namespace PumpSwapSdk

variable (crates : Crates)

/-- Pays out the payer's cashback. -/
def claimCashback (quoteMint quoteTokenProgram payer : Pubkey) : Result (List Ix) := do
  let ix ← makeClaimCashbackInstruction crates payer quoteMint quoteTokenProgram
  .ok [.own ix]

/-- Pays out a user's token incentives, from the account that the global accumulator owns. -/
def buildClaimTokenIncentivesIxs (user payer mint tokenProgram : Pubkey)
    (createUserAta : Bool) : Result (List Ix) := do
  let userTokenAccount := crates.getAssociatedTokenAddressWithProgramId user mint tokenProgram
  let creation : List Ix :=
    if createUserAta then
      [.createAssociatedTokenAccountIdempotent payer user mint tokenProgram]
    else []
  let globalIncentiveTokenAccount := crates.getAssociatedTokenAddressWithProgramId
    globalVolumeAccumulator mint tokenProgram
  let claim ← makeClaimTokenIncentivesInstruction crates user payer mint tokenProgram
    userTokenAccount globalIncentiveTokenAccount
  .ok (creation ++ [.own claim])

def buildExtendAccountIx (account user : Pubkey) : Result Instruction :=
  makeExtendAccountInstruction account user

def buildInitUserVolumeAccumulatorIx (payer user : Pubkey) : Result Instruction :=
  makeInitUserVolumeAccumulatorInstruction crates payer user

def buildSyncUserVolumeAccumulatorIx (user : Pubkey) : Result Instruction :=
  makeSyncUserVolumeAccumulatorInstruction crates user

def buildCloseUserVolumeAccumulatorIx (user : Pubkey) : Result Instruction :=
  makeCloseUserVolumeAccumulatorInstruction crates user

end PumpSwapSdk
