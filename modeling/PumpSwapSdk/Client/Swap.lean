import PumpSwapSdk.Client.Rpc
import PumpSwapSdk.Instruction

/-!
# Swap transactions

The instruction sequences of the five swap builders, and the client methods that price a trade
against live state and submit it. A sequence opens a fresh WSOL account, swaps through it and
closes it. A method stands here for the instructions of the transaction it signs.
-/

set_option autoImplicit false

namespace PumpSwapSdk

/-- An instruction of a transaction: one of the SDK's own, or the call that builds it in
another crate. -/
inductive Ix where
  | own (instruction : Instruction)
  | setComputeUnitLimit (units : U32)
  | setComputeUnitPrice (microLamports : U64)
  | createAccountWithSeed (fromPubkey toPubkey base : Pubkey) (seed : String)
      (lamports space : U64) (owner : Pubkey)
  | initializeAccount (tokenProgram account mint owner : Pubkey)
  | createAssociatedTokenAccountIdempotent (funder wallet mint tokenProgram : Pubkey)
  | closeAccount (tokenProgram account destination owner : Pubkey)
  | transfer (fromPubkey toPubkey : Pubkey) (lamports : U64)
  | syncNative (tokenProgram account : Pubkey)
deriving DecidableEq

variable (crates : Crates) (choices : Choices) (rpc : Rpc)

/-! ## Instructions of the token crate -/

def initializeAccount (tokenProgram account mint owner : Pubkey) : Result Ix := do
  crates.checkProgramAccount tokenProgram
  .ok (.initializeAccount tokenProgram account mint owner)

def splTokenCloseAccount (tokenProgram account destination owner : Pubkey) : Result Ix := do
  crates.checkProgramAccount tokenProgram
  .ok (.closeAccount tokenProgram account destination owner)

def syncNative (tokenProgram account : Pubkey) : Result Ix := do
  crates.checkProgramAccount tokenProgram
  .ok (.syncNative tokenProgram account)

/-- A token account and, if asked for, the instruction that creates it. -/
def createAtaTokenOrNotWithProgram (payer mint owner tokenProgram : Pubkey) (create : Bool) :
    Pubkey × Option Ix :=
  let tokenAcc := crates.getAssociatedTokenAddressWithProgramId owner mint tokenProgram
  if create then
    (tokenAcc, some (.createAssociatedTokenAccountIdempotent payer owner mint tokenProgram))
  else (tokenAcc, none)

/-- A token account under the classic token program and, if asked for, the instruction that creates
it. -/
def createAtaTokenOrNot (payer mint owner : Pubkey) (create : Bool) : Pubkey × Option Ix :=
  createAtaTokenOrNotWithProgram crates payer mint owner SplToken.id create

/-! ## Swap sequences -/

/-- The extension of a pool account of an older layout. -/
def maybeExtendPoolIx (poolInfo : PoolInfo) (payer : Pubkey) : Result (Option Ix) :=
  if poolInfo.poolAccountDataLen < poolAccountNewSize then do
    let ix ← makeExtendAccountInstruction poolInfo.pool payer
    .ok (some (.own ix))
  else .ok none

/-- There is no extension, or it is `extend_account` for the pool. -/
theorem maybeExtendPoolIx_eq_ok {poolInfo : PoolInfo} {payer : Pubkey} {extension : Option Ix}
    (extended : maybeExtendPoolIx poolInfo payer = .ok extension) :
    extension = none ∨ ∃ ix, makeExtendAccountInstruction poolInfo.pool payer = .ok ix ∧
      extension = some (.own ix) := by
  unfold maybeExtendPoolIx at extended
  split at extended
  · obtain ⟨ix, made, returned⟩ := bind_eq_ok_iff.mp extended
    exact Or.inr ⟨ix, made, (Except.ok.inj returned).symm⟩
  · exact Or.inl (Except.ok.inj extended).symm

/-- The user's base and quote accounts: the WSOL account stands on the SOL side. -/
def userAccounts (poolInfo : PoolInfo) (wsolAcc ata : Pubkey) : Pubkey × Pubkey :=
  if poolInfo.solIsBase then (wsolAcc, ata) else (ata, wsolAcc)

/-- The lamports of the WSOL account: the rent, and what the swap spends from the account. -/
def wsolFunding (minRentExempt : U64) (spent : Option U64) : Result U64 :=
  match spent with
  | some amount => addU64 crates minRentExempt amount
  | none => .ok minRentExempt

/-- The closing of the token account, if asked for. -/
def closeAtaIxs (poolInfo : PoolInfo) (ata payer : Pubkey) (closeAta : Bool) :
    Result (List Ix) :=
  if closeAta then do
    let ix ← splTokenCloseAccount crates poolInfo.tokenProgram ata payer payer
    .ok [ix]
  else .ok []

/-- The sequence the five builders share: extend the pool, open a WSOL account that holds the
rent and `spent`, create the token account if asked to, swap, close the WSOL account and, if
asked to, the token account. -/
def swapSequence (poolInfo : PoolInfo) (payer : Pubkey) (spent : Option U64)
    (createAta closeAta : Bool)
    (swapIx : (userBaseAcc userQuoteAcc : Pubkey) → Result Instruction) :
    Result (List Ix) := do
  let extension ← maybeExtendPoolIx poolInfo payer
  let (wsolAcc, seed) ← genPubkeyWithSeed crates choices payer
  let span := SplToken.accountLen
  let minRentExempt := crates.minimumBalance span
  let wsolLamports ← wsolFunding crates minRentExempt spent
  let opening ← initializeAccount crates SplToken.id wsolAcc wrappedSolMint payer
  let (ata, ataIx) := createAtaTokenOrNotWithProgram crates payer poolInfo.tokenMint payer
    poolInfo.tokenProgram createAta
  let (userBaseAcc, userQuoteAcc) := userAccounts poolInfo wsolAcc ata
  let swap ← swapIx userBaseAcc userQuoteAcc
  let closeWsol ← splTokenCloseAccount crates SplToken.id wsolAcc payer payer
  let closing ← closeAtaIxs crates poolInfo ata payer closeAta
  .ok (extension.toList ++
    [.createAccountWithSeed payer wsolAcc payer seed wsolLamports (BitVec.ofNat 64 span)
        SplToken.id,
      opening] ++
    ataIx.toList ++ [.own swap, closeWsol] ++ closing)

/-- The user's account of the traded token. -/
def tokenAta (poolInfo : PoolInfo) (payer : Pubkey) : Pubkey :=
  crates.getAssociatedTokenAddressWithProgramId payer poolInfo.tokenMint poolInfo.tokenProgram

/-- Created or not, the account of the traded token is the user's. -/
theorem createAta_eq_tokenAta (poolInfo : PoolInfo) (payer : Pubkey) (createAta : Bool) :
    (createAtaTokenOrNotWithProgram crates payer poolInfo.tokenMint payer poolInfo.tokenProgram
      createAta).1 = tokenAta crates poolInfo payer := by
  cases createAta with
  | false => rfl
  | true => rfl

/-- What a sequence does before it swaps. -/
def openingIxs (poolInfo : PoolInfo) (payer : Pubkey) (createAta : Bool) (extension : Option Ix)
    (wsolAcc : Pubkey) (seed : String) (lamports : U64) : List Ix :=
  extension.toList ++
    [.createAccountWithSeed payer wsolAcc payer seed lamports
        (BitVec.ofNat 64 SplToken.accountLen) SplToken.id,
      .initializeAccount SplToken.id wsolAcc wrappedSolMint payer] ++
    (createAtaTokenOrNotWithProgram crates payer poolInfo.tokenMint payer poolInfo.tokenProgram
      createAta).2.toList

/-- **What a built sequence consists of.** -/
theorem swapSequence_eq_ok {crates : Crates} {choices : Choices} {poolInfo : PoolInfo}
    {payer : Pubkey} {spent : Option U64} {createAta closeAta : Bool}
    {swapIx : Pubkey → Pubkey → Result Instruction} {instructions : List Ix}
    (built : swapSequence crates choices poolInfo payer spent createAta closeAta swapIx =
      .ok instructions) :
    ∃ extension wsolAcc seed lamports swap closing,
      maybeExtendPoolIx poolInfo payer = .ok extension ∧
      genPubkeyWithSeed crates choices payer = .ok (wsolAcc, seed) ∧
      wsolFunding crates (crates.minimumBalance SplToken.accountLen) spent = .ok lamports ∧
      swapIx (userAccounts poolInfo wsolAcc (tokenAta crates poolInfo payer)).1
        (userAccounts poolInfo wsolAcc (tokenAta crates poolInfo payer)).2 = .ok swap ∧
      closeAtaIxs crates poolInfo (tokenAta crates poolInfo payer) payer closeAta = .ok closing ∧
      instructions =
        openingIxs crates poolInfo payer createAta extension wsolAcc seed lamports ++
          .own swap :: .closeAccount SplToken.id wsolAcc payer payer :: closing := by
  simp only [swapSequence, initializeAccount, splTokenCloseAccount, bind_eq_ok_iff,
    Except.ok.injEq, createAta_eq_tokenAta] at built
  obtain ⟨extension, extended, ⟨wsolAcc, seed⟩, fresh, lamports, funded, _, ⟨_, _, rfl⟩, swap,
    swapped, _, ⟨_, _, rfl⟩, closing, closed, rfl⟩ := built
  refine ⟨extension, wsolAcc, seed, lamports, swap, closing, extended, fresh, funded, swapped,
    closed, ?_⟩
  simp [openingIxs]

/-- A buy of an exact base amount. The WSOL account is funded when WSOL is the quote. -/
def buildBuyIxs (baseAmountOut maxQuoteAmountIn : U64) (trackVolume : Bool)
    (poolInfo : PoolInfo) (payer : Pubkey) (createAta : Bool) : Result (List Ix) :=
  swapSequence crates choices poolInfo payer
    (if poolInfo.solIsBase then none else some maxQuoteAmountIn) createAta false
    (makeBuyInstruction crates choices baseAmountOut maxQuoteAmountIn trackVolume poolInfo payer)

/-- A buy for an exact quote amount. -/
def buildBuyExactQuoteInIxs (spendableQuoteIn minBaseAmountOut : U64) (trackVolume : Bool)
    (poolInfo : PoolInfo) (payer : Pubkey) (createAta : Bool) : Result (List Ix) :=
  swapSequence crates choices poolInfo payer
    (if poolInfo.solIsBase then none else some spendableQuoteIn) createAta false
    (makeBuyExactQuoteInInstruction crates choices spendableQuoteIn minBaseAmountOut trackVolume
      poolInfo payer)

/-- A sell of an exact base amount. The WSOL account is funded when WSOL is the base. -/
def buildSellIxs (baseAmountIn minQuoteAmountOut : U64) (poolInfo : PoolInfo)
    (payer : Pubkey) (closeSplAcc : Bool) : Result (List Ix) :=
  swapSequence crates choices poolInfo payer
    (if poolInfo.solIsBase then some baseAmountIn else none) false closeSplAcc
    (makeSellInstruction crates choices baseAmountIn minQuoteAmountOut poolInfo payer)

/-- Buys the traded token with SOL on either pool orientation. -/
def buildTokenBuyIxs (solIn minTokensOut : U64) (trackVolume : Bool) (poolInfo : PoolInfo)
    (payer : Pubkey) (createAta : Bool) : Result (List Ix) :=
  swapSequence crates choices poolInfo payer (some solIn) createAta false
    (if poolInfo.solIsBase then
      makeSellInstruction crates choices solIn minTokensOut poolInfo payer
    else
      makeBuyExactQuoteInInstruction crates choices solIn minTokensOut trackVolume poolInfo payer)

/-- Sells the traded token for SOL on either pool orientation. -/
def buildTokenSellIxs (tokensIn minSolOut : U64) (poolInfo : PoolInfo) (payer : Pubkey)
    (closeTokenAta : Bool) : Result (List Ix) :=
  swapSequence crates choices poolInfo payer none false closeTokenAta
    (if poolInfo.solIsBase then
      makeBuyExactQuoteInInstruction crates choices tokensIn minSolOut false poolInfo payer
    else
      makeSellInstruction crates choices tokensIn minSolOut poolInfo payer)

/-! ## Trades -/

/-- The compute budget of a submitted swap. -/
def swapBudget : List Ix := [.setComputeUnitLimit 1_000_000, .setComputeUnitPrice 100_000]

/-- The minimum base amount that a quote amount buys on live state, and the current pool. -/
def buyAmountOut (amountIn : U64) (poolInfo : PoolInfo) : Result (PoolInfo × U64) := do
  let (poolInfo, (baseReserve, quoteReserve)) ← fetchPoolSnapshot crates rpc poolInfo
  let fees ← fetchPoolFees crates rpc poolInfo baseReserve quoteReserve
  let (base, quote) := poolInfo.effectiveReserves baseReserve quoteReserve
  .ok (poolInfo, (quoteBuyExactQuoteIn amountIn base quote fees defaultSlippage).minAmountOut)

/-- The minimum quote amount that a base amount sells for on live state, and the current
pool. -/
def sellAmountOut (amountIn : U64) (poolInfo : PoolInfo) : Result (PoolInfo × U64) := do
  let (poolInfo, (baseReserve, quoteReserve)) ← fetchPoolSnapshot crates rpc poolInfo
  let fees ← fetchPoolFees crates rpc poolInfo baseReserve quoteReserve
  let (base, quote) := poolInfo.effectiveReserves baseReserve quoteReserve
  .ok (poolInfo, (quoteSell amountIn base quote fees defaultSlippage).minAmountOut)

/-- Submits a buy. -/
def buy (amountIn : U64) (poolInfo : PoolInfo) (payer : Pubkey) : Result (List Ix) := do
  let (poolInfo, amountOut) ← buyAmountOut crates rpc amountIn poolInfo
  let instructions ← buildBuyIxs crates choices amountOut amountIn true poolInfo payer false
  .ok (swapBudget ++ instructions)

/-- Submits a buy for an exact quote amount, with the minimum the caller gives. -/
def buyExactQuoteIn (spendableQuoteIn minBaseAmountOut : U64) (poolInfo : PoolInfo)
    (payer : Pubkey) : Result (List Ix) := do
  let instructions ← buildBuyExactQuoteInIxs crates choices spendableQuoteIn minBaseAmountOut true
    poolInfo payer false
  .ok (swapBudget ++ instructions)

/-- Submits a sell. -/
def sell (amountIn : U64) (poolInfo : PoolInfo) (payer : Pubkey) : Result (List Ix) := do
  let (poolInfo, amountOut) ← sellAmountOut crates rpc amountIn poolInfo
  let instructions ← buildSellIxs crates choices amountIn amountOut poolInfo payer true
  .ok (swapBudget ++ instructions)

/-- Simulates a buy. -/
def simulateBuy (poolInfo : PoolInfo) (amountIn : U64) (keypair : Pubkey) :
    Result (List Ix) := do
  let (poolInfo, baseAmountOut) ← buyAmountOut crates rpc amountIn poolInfo
  buildBuyIxs crates choices baseAmountOut amountIn true poolInfo keypair true

/-- Simulates a buy for an exact quote amount. -/
def simulateBuyExactQuoteIn (spendableQuoteIn minBaseAmountOut : U64) (poolInfo : PoolInfo)
    (keypair : Pubkey) : Result (List Ix) :=
  buildBuyExactQuoteInIxs crates choices spendableQuoteIn minBaseAmountOut true poolInfo keypair
    true

/-- Simulates a sell. -/
def simulateSell (poolInfo : PoolInfo) (amountIn : U64) (keypair : Pubkey) :
    Result (List Ix) := do
  let (poolInfo, amountOut) ← sellAmountOut crates rpc amountIn poolInfo
  buildSellIxs crates choices amountIn amountOut poolInfo keypair true

end PumpSwapSdk
