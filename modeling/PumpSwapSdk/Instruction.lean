import PumpSwapSdk.Util

/-!
# Instructions

The instructions the SDK builds: program, accounts in order, and data. The builders derive
every account they are not given.
-/

set_option autoImplicit false

namespace PumpSwapSdk

open Foundation.LittleEndian

structure AccountMeta where
  pubkey : Pubkey
  isSigner : Bool
  isWritable : Bool
deriving DecidableEq

namespace AccountMeta

/-- A writable account. -/
def new (pubkey : Pubkey) (isSigner : Bool) : AccountMeta := ⟨pubkey, isSigner, true⟩

def newReadonly (pubkey : Pubkey) (isSigner : Bool) : AccountMeta := ⟨pubkey, isSigner, false⟩

@[simp] theorem pubkey_new (key : Pubkey) (isSigner : Bool) : (new key isSigner).pubkey = key := rfl

@[simp] theorem pubkey_newReadonly (key : Pubkey) (isSigner : Bool) :
    (newReadonly key isSigner).pubkey = key := rfl

end AccountMeta

structure Instruction where
  programId : Pubkey
  accounts : List AccountMeta
  data : List U8
deriving DecidableEq

namespace Instruction

/-- The account at a position. -/
def key (ix : Instruction) (position : ℕ) : Option Pubkey :=
  ix.accounts[position]?.map AccountMeta.pubkey

end Instruction

/-! ## Instruction data -/

/-- `flag as u8`. -/
def flagByte (flag : Bool) : U8 := if flag then 1 else 0

structure BuyInstruction where
  baseAmountOut : U64
  maxQuoteAmountIn : U64
  trackVolume : Bool

namespace BuyInstruction

def discriminator : List U8 := [102, 6, 61, 18, 1, 218, 235, 234]

def toVec (args : BuyInstruction) : List U8 :=
  discriminator ++ toBytes 8 args.baseAmountOut ++ toBytes 8 args.maxQuoteAmountIn ++
    [flagByte args.trackVolume]

end BuyInstruction

structure BuyExactQuoteInInstruction where
  spendableQuoteIn : U64
  minBaseAmountOut : U64
  trackVolume : Bool

namespace BuyExactQuoteInInstruction

def discriminator : List U8 := [198, 46, 21, 82, 180, 217, 232, 112]

def toVec (args : BuyExactQuoteInInstruction) : List U8 :=
  discriminator ++ toBytes 8 args.spendableQuoteIn ++ toBytes 8 args.minBaseAmountOut ++
    [flagByte args.trackVolume]

end BuyExactQuoteInInstruction

structure SellInstruction where
  baseAmountIn : U64
  minQuoteAmountOut : U64

namespace SellInstruction

def discriminator : List U8 := [51, 230, 133, 164, 1, 127, 131, 173]

def toVec (args : SellInstruction) : List U8 :=
  discriminator ++ toBytes 8 args.baseAmountIn ++ toBytes 8 args.minQuoteAmountOut

@[simp] theorem take_toVec (args : SellInstruction) : args.toVec.take 8 = discriminator := rfl

end SellInstruction

structure DepositInstruction where
  lpTokenAmountOut : U64
  maxBaseAmountIn : U64
  maxQuoteAmountIn : U64

namespace DepositInstruction

def discriminator : List U8 := [242, 35, 198, 137, 82, 225, 242, 182]

def toVec (args : DepositInstruction) : List U8 :=
  discriminator ++ toBytes 8 args.lpTokenAmountOut ++ toBytes 8 args.maxBaseAmountIn ++
    toBytes 8 args.maxQuoteAmountIn

@[simp] theorem take_toVec (args : DepositInstruction) : args.toVec.take 8 = discriminator := rfl

end DepositInstruction

/-- Data of `claim_cashback`, which takes no arguments. -/
def ClaimCashbackInstruction.discriminator : List U8 := [37, 58, 35, 126, 190, 53, 228, 197]

structure CreatePoolInstruction where
  index : U16
  baseAmountIn : U64
  quoteAmountIn : U64
  coinCreator : Pubkey
  isMayhemMode : Bool
  isCashbackCoin : Bool

namespace CreatePoolInstruction

def discriminator : List U8 := [233, 146, 209, 142, 207, 104, 64, 188]

def toVec (args : CreatePoolInstruction) : List U8 :=
  discriminator ++ toBytes 2 args.index ++ toBytes 8 args.baseAmountIn ++
    toBytes 8 args.quoteAmountIn ++ args.coinCreator.bytes ++
    [flagByte args.isMayhemMode, flagByte args.isCashbackCoin]

@[simp] theorem take_toVec (args : CreatePoolInstruction) : args.toVec.take 8 = discriminator := rfl

end CreatePoolInstruction

structure WithdrawInstruction where
  lpTokenAmountIn : U64
  minBaseAmountOut : U64
  minQuoteAmountOut : U64

namespace WithdrawInstruction

def discriminator : List U8 := [183, 18, 70, 156, 148, 109, 161, 34]

def toVec (args : WithdrawInstruction) : List U8 :=
  discriminator ++ toBytes 8 args.lpTokenAmountIn ++ toBytes 8 args.minBaseAmountOut ++
    toBytes 8 args.minQuoteAmountOut

@[simp] theorem take_toVec (args : WithdrawInstruction) : args.toVec.take 8 = discriminator := rfl

end WithdrawInstruction

/-- Tag of `sweep_creator_fee`, which both programs have. -/
def sweepCreatorFeeTag : List U8 := [32, 246, 191, 52, 8, 201, 73, 186]

/-- Tag of `transfer_creator_fees_to_pump`. -/
def transferCreatorFeesToPumpTag : List U8 := [139, 52, 134, 85, 228, 229, 108, 241]

/-- Tag of `transfer_creator_fees_to_pump_v2`. -/
def transferCreatorFeesToPumpV2Tag : List U8 := [1, 33, 78, 185, 33, 67, 44, 92]

/-- Tag of `distribute_creator_fees`. -/
def distributeCreatorFeesTag : List U8 := [165, 114, 103, 0, 121, 206, 247, 81]

/-- Tag of `distribute_creator_fees_v2`. -/
def distributeCreatorFeesV2Tag : List U8 := [255, 203, 19, 79, 244, 68, 8, 159]

variable (crates : Crates) (choices : Choices)

/-! ## Swaps -/

inductive SwapKind where
  | buy
  | sell
deriving DecidableEq

/-- The trailing accounts of a swap: cashback accounts if the pool pays cashback, the v2 pool
address if it has a coin creator, and a buyback recipient. -/
def swapRemainingAccounts (poolInfo : PoolInfo) (user : Pubkey) (isSell : Bool) :
    List AccountMeta :=
  let cashback :=
    if poolInfo.isCashbackCoin then
      let cashbackAta := userVolumeAccumulatorQuoteAta crates user poolInfo.quoteMint
        poolInfo.quoteTokenProgram
      .new cashbackAta false ::
        if isSell then [.new (findUserVolAccumulator crates user) false] else []
    else []
  let creator :=
    if poolInfo.coinCreator ≠ Pubkey.default then
      [.newReadonly (poolV2Pda crates poolInfo.baseMint) false]
    else []
  let buybackRecipient := pickBuybackFeeRecipient choices
  let buybackRecipientTa := crates.getAssociatedTokenAddressWithProgramId buybackRecipient
    poolInfo.quoteMint poolInfo.quoteTokenProgram
  cashback ++ creator ++ [.newReadonly buybackRecipient false, .new buybackRecipientTa false]

/-- The accounts of a swap. A buy also passes the volume accumulators. -/
def swapAccounts (poolInfo : PoolInfo)
    (user userBaseTokenAccount userQuoteTokenAccount : Pubkey) (kind : SwapKind) :
    List AccountMeta :=
  let protocolFeeRecipient := pickProtocolFeeRecipientForPool choices poolInfo.isMayhemMode
  let protocolFeeRecipientTa := crates.getAssociatedTokenAddressWithProgramId
    protocolFeeRecipient poolInfo.quoteMint poolInfo.quoteTokenProgram
  let creatorVaultAuthority := findCoinCreatorVaultAuthority crates poolInfo.coinCreator
  let creatorVaultAta := findCoinCreatorVaultAta crates creatorVaultAuthority
    poolInfo.quoteTokenProgram poolInfo.quoteMint
  let feeConfig := feeConfigPda crates
  [.new poolInfo.pool false,
    .new user true,
    .newReadonly globalConfig false,
    .newReadonly poolInfo.baseMint false,
    .newReadonly poolInfo.quoteMint false,
    .new userBaseTokenAccount false,
    .new userQuoteTokenAccount false,
    .new poolInfo.poolBaseTokenAccount false,
    .new poolInfo.poolQuoteTokenAccount false,
    .newReadonly protocolFeeRecipient false,
    .new protocolFeeRecipientTa false,
    .newReadonly poolInfo.baseTokenProgram false,
    .newReadonly poolInfo.quoteTokenProgram false,
    .newReadonly SystemProgram.id false,
    .newReadonly SplAssociatedTokenAccount.id false,
    .newReadonly eventAuthority false,
    .newReadonly pumpSwapProgramId false,
    .new creatorVaultAta false,
    .newReadonly creatorVaultAuthority false] ++
  (if kind = .buy then
    [.newReadonly globalVolumeAccumulator false,
      .new (findUserVolAccumulator crates user) false]
  else []) ++
  [.newReadonly feeConfig false, .newReadonly feeProgram false] ++
  swapRemainingAccounts crates choices poolInfo user (kind = .sell)

/-- `buy`: an exact base amount out, for at most a quote amount in. -/
def makeBuyInstruction (baseAmountOut maxQuoteAmountIn : U64) (trackVolume : Bool)
    (poolInfo : PoolInfo) (user userBaseTokenAccount userQuoteTokenAccount : Pubkey) :
    Result Instruction :=
  .ok
    { programId := pumpSwapProgramId
      accounts := swapAccounts crates choices poolInfo user userBaseTokenAccount
        userQuoteTokenAccount .buy
      data := BuyInstruction.toVec ⟨baseAmountOut, maxQuoteAmountIn, trackVolume⟩ }

/-- `buy_exact_quote_in`: an exact quote amount in, for at least a base amount out. -/
def makeBuyExactQuoteInInstruction (spendableQuoteIn minBaseAmountOut : U64)
    (trackVolume : Bool) (poolInfo : PoolInfo)
    (user userBaseTokenAccount userQuoteTokenAccount : Pubkey) : Result Instruction :=
  .ok
    { programId := pumpSwapProgramId
      accounts := swapAccounts crates choices poolInfo user userBaseTokenAccount
        userQuoteTokenAccount .buy
      data := BuyExactQuoteInInstruction.toVec ⟨spendableQuoteIn, minBaseAmountOut, trackVolume⟩ }

/-- `sell`: an exact base amount in, for at least a quote amount out. -/
def makeSellInstruction (baseAmountIn minQuoteAmountOut : U64) (poolInfo : PoolInfo)
    (user userBaseTokenAccount userQuoteTokenAccount : Pubkey) : Result Instruction :=
  .ok
    { programId := pumpSwapProgramId
      accounts := swapAccounts crates choices poolInfo user userBaseTokenAccount
        userQuoteTokenAccount .sell
      data := SellInstruction.toVec ⟨baseAmountIn, minQuoteAmountOut⟩ }

/-- `extend_account`, for a pool account of an older layout. -/
def makeExtendAccountInstruction (account user : Pubkey) : Result Instruction :=
  .ok
    { programId := pumpSwapProgramId
      accounts :=
        [.new account false,
          .newReadonly user true,
          .newReadonly SystemProgram.id false,
          .newReadonly eventAuthority false,
          .newReadonly pumpSwapProgramId false]
      data := [234, 102, 194, 203, 150, 72, 62, 229] }

/-! ## Volume accumulators -/

/-- Pays a user's cashback from the accumulator's quote account. The user does not sign: anyone
may have it paid out. -/
def makeClaimCashbackInstruction (user quoteMint quoteTokenProgram : Pubkey) :
    Result Instruction :=
  let userVolumeAccumulator := findUserVolAccumulator crates user
  let userVolumeAccumulatorQuoteTa := crates.getAssociatedTokenAddressWithProgramId
    userVolumeAccumulator quoteMint quoteTokenProgram
  let userQuoteTa := crates.getAssociatedTokenAddressWithProgramId user quoteMint
    quoteTokenProgram
  .ok
    { programId := pumpSwapProgramId
      accounts :=
        [.new user false,
          .new userVolumeAccumulator false,
          .newReadonly quoteMint false,
          .newReadonly quoteTokenProgram false,
          .new userVolumeAccumulatorQuoteTa false,
          .new userQuoteTa false,
          .newReadonly SystemProgram.id false,
          .newReadonly eventAuthority false,
          .newReadonly pumpSwapProgramId false]
      data := ClaimCashbackInstruction.discriminator }

def makeInitUserVolumeAccumulatorInstruction (payer user : Pubkey) : Result Instruction :=
  .ok
    { programId := pumpSwapProgramId
      accounts :=
        [.new payer true,
          .newReadonly user false,
          .new (findUserVolAccumulator crates user) false,
          .newReadonly SystemProgram.id false,
          .newReadonly eventAuthority false,
          .newReadonly pumpSwapProgramId false]
      data := [94, 6, 202, 115, 255, 96, 232, 183] }

def makeSyncUserVolumeAccumulatorInstruction (user : Pubkey) : Result Instruction :=
  .ok
    { programId := pumpSwapProgramId
      accounts :=
        [.newReadonly user false,
          .newReadonly globalVolumeAccumulator false,
          .new (findUserVolAccumulator crates user) false,
          .newReadonly eventAuthority false,
          .newReadonly pumpSwapProgramId false]
      data := [86, 31, 192, 87, 163, 87, 79, 238] }

/-- The user's own signature closes an accumulator. -/
def makeCloseUserVolumeAccumulatorInstruction (user : Pubkey) : Result Instruction :=
  .ok
    { programId := pumpSwapProgramId
      accounts :=
        [.new user true,
          .new (findUserVolAccumulator crates user) false,
          .newReadonly eventAuthority false,
          .newReadonly pumpSwapProgramId false]
      data := [249, 69, 164, 218, 150, 103, 84, 138] }

def makeClaimTokenIncentivesInstruction
    (user payer mint tokenProgram userTokenAccount globalIncentiveTokenAccount : Pubkey) :
    Result Instruction :=
  .ok
    { programId := pumpSwapProgramId
      accounts :=
        [.newReadonly user false,
          .new userTokenAccount false,
          .newReadonly globalVolumeAccumulator false,
          .new globalIncentiveTokenAccount false,
          .new (findUserVolAccumulator crates user) false,
          .newReadonly mint false,
          .newReadonly tokenProgram false,
          .newReadonly SystemProgram.id false,
          .newReadonly SplAssociatedTokenAccount.id false,
          .newReadonly eventAuthority false,
          .newReadonly pumpSwapProgramId false,
          .new payer true]
      data := [16, 4, 71, 28, 204, 1, 40, 27] }

/-! ## Liquidity -/

def makeDepositInstruction (lpTokenAmountOut maxBaseAmountIn maxQuoteAmountIn : U64)
    (poolInfo : PoolInfo)
    (user userBaseTokenAccount userQuoteTokenAccount userPoolTokenAccount : Pubkey) :
    Result Instruction :=
  .ok
    { programId := pumpSwapProgramId
      accounts :=
        [.new poolInfo.pool false,
          .newReadonly globalConfig false,
          .newReadonly user true,
          .newReadonly poolInfo.baseMint false,
          .newReadonly poolInfo.quoteMint false,
          .new poolInfo.lpMint false,
          .new userBaseTokenAccount false,
          .new userQuoteTokenAccount false,
          .new userPoolTokenAccount false,
          .new poolInfo.poolBaseTokenAccount false,
          .new poolInfo.poolQuoteTokenAccount false,
          .newReadonly SplToken.id false,
          .newReadonly SplToken2022.id false,
          .newReadonly eventAuthority false,
          .newReadonly pumpSwapProgramId false]
      data := DepositInstruction.toVec ⟨lpTokenAmountOut, maxBaseAmountIn, maxQuoteAmountIn⟩ }

/-- `create_pool`, with the token programs of both mints. -/
def createPoolInstructionWithOptions (index : U16) (baseAmountIn quoteAmountIn : U64)
    (isMayhemMode isCashbackCoin : Bool)
    (pool creator coinCreator baseMint quoteMint userBaseTokenAccount userQuoteTokenAccount
      poolBaseTokenAccount poolQuoteTokenAccount baseTokenProgram quoteTokenProgram : Pubkey) :
    Result Instruction :=
  let lpMint := (calcLpMintPda crates pool).1
  .ok
    { programId := pumpSwapProgramId
      accounts :=
        [.new pool false,
          .newReadonly globalConfig false,
          .new creator true,
          .newReadonly baseMint false,
          .newReadonly quoteMint false,
          .new lpMint false,
          .new userBaseTokenAccount false,
          .new userQuoteTokenAccount false,
          .new (calcUserPoolTokenAccount crates creator lpMint).1 false,
          .new poolBaseTokenAccount false,
          .new poolQuoteTokenAccount false,
          .newReadonly SystemProgram.id false,
          .newReadonly SplToken2022.id false,
          .newReadonly baseTokenProgram false,
          .newReadonly quoteTokenProgram false,
          .newReadonly SplAssociatedTokenAccount.id false,
          .newReadonly eventAuthority false,
          .newReadonly pumpSwapProgramId false]
      data := CreatePoolInstruction.toVec
        ⟨index, baseAmountIn, quoteAmountIn, coinCreator, isMayhemMode, isCashbackCoin⟩ }

/-- `create_pool` of index 0, for two mints of the classic token program. -/
def createPoolInstruction (baseAmountIn quoteAmountIn : U64)
    (pool creator coinCreator baseMint quoteMint userBaseTokenAccount userQuoteTokenAccount
      poolBaseTokenAccount poolQuoteTokenAccount : Pubkey) : Result Instruction :=
  createPoolInstructionWithOptions crates 0 baseAmountIn quoteAmountIn false false pool creator
    coinCreator baseMint quoteMint userBaseTokenAccount userQuoteTokenAccount poolBaseTokenAccount
    poolQuoteTokenAccount SplToken.id SplToken.id

/-- `withdraw`, from a WSOL-quoted pool. -/
def withdrawInstruction (pool user baseMint baseAta quoteAta : Pubkey)
    (lpTokenAmountIn minBaseAmountOut minQuoteAmountOut : U64) : Result Instruction :=
  let lpMint := (calcLpMintPda crates pool).1
  let userPoolTokenAccount := (calcUserPoolTokenAccount crates user lpMint).1
  let poolBaseAta := crates.getAssociatedTokenAddress pool baseMint
  let poolQuoteAta := crates.getAssociatedTokenAddress pool wrappedSolMint
  .ok
    { programId := pumpSwapProgramId
      accounts :=
        [.new pool false,
          .newReadonly globalConfig false,
          .newReadonly user true,
          .newReadonly baseMint false,
          .newReadonly wrappedSolMint false,
          .new lpMint false,
          .new baseAta false,
          .new quoteAta false,
          .new userPoolTokenAccount false,
          .new poolBaseAta false,
          .new poolQuoteAta false,
          .newReadonly SplToken.id false,
          .newReadonly SplToken2022.id false,
          .newReadonly eventAuthority false,
          .newReadonly pumpSwapProgramId false]
      data := WithdrawInstruction.toVec ⟨lpTokenAmountIn, minBaseAmountOut, minQuoteAmountOut⟩ }

/-! ## Creator fees -/

/-- Tag of `migrate_pool_coin_creator`. -/
def migratePoolCoinCreatorTag : List U8 := [208, 8, 159, 4, 74, 175, 16, 58]

/-- Makes the coin's sharing config the coin creator of an existing pool. -/
def migratePoolCoinCreatorInstruction (pool baseMint : Pubkey) : Result Instruction :=
  .ok
    { programId := pumpSwapProgramId
      accounts :=
        [.new pool false,
          .newReadonly (sharingConfigPda crates baseMint) false,
          .newReadonly eventAuthority false,
          .newReadonly pumpSwapProgramId false]
      data := migratePoolCoinCreatorTag }

/-- Fills in the coin creator of a pool from before there was one, as the coin's curve has it. -/
def setCoinCreatorInstruction (pool baseMint : Pubkey) : Result Instruction :=
  .ok
    { programId := pumpSwapProgramId
      accounts :=
        [.new pool false,
          .newReadonly (tokenMetadataPda crates baseMint) false,
          .newReadonly (bondingCurvePda crates baseMint) false,
          .newReadonly eventAuthority false,
          .newReadonly pumpSwapProgramId false]
      data := [210, 149, 128, 45, 188, 58, 78, 175] }

/-- Moves creator fees from pump-amm's creator vault to pump.fun's, as lamports. -/
def transferCreatorFeesToPumpInstruction (coinCreator : Pubkey) : Result Instruction :=
  let coinCreatorVaultAuthority := findCoinCreatorVaultAuthority crates coinCreator
  let coinCreatorVaultAta := findCoinCreatorVaultAta crates coinCreatorVaultAuthority
    SplToken.id wrappedSolMint
  .ok
    { programId := pumpSwapProgramId
      accounts :=
        [.newReadonly wrappedSolMint false,
          .newReadonly SplToken.id false,
          .newReadonly SystemProgram.id false,
          .newReadonly SplAssociatedTokenAccount.id false,
          .newReadonly coinCreator false,
          .new coinCreatorVaultAuthority false,
          .new coinCreatorVaultAta false,
          .new (pumpCreatorVaultPda crates coinCreator) false,
          .newReadonly eventAuthority false,
          .newReadonly pumpSwapProgramId false]
      data := transferCreatorFeesToPumpTag }

/-- Moves creator fees in any quote mint from pump-amm's creator vault into the quote account of
pump.fun's. -/
def transferCreatorFeesToPumpV2Instruction
    (payer coinCreator quoteMint quoteTokenProgram : Pubkey) : Result Instruction :=
  let coinCreatorVaultAuthority := findCoinCreatorVaultAuthority crates coinCreator
  let coinCreatorVaultAta := findCoinCreatorVaultAta crates coinCreatorVaultAuthority
    quoteTokenProgram quoteMint
  let pumpCreatorVault := pumpCreatorVaultPda crates coinCreator
  let pumpCreatorVaultAta := findCoinCreatorVaultAta crates pumpCreatorVault quoteTokenProgram
    quoteMint
  .ok
    { programId := pumpSwapProgramId
      accounts :=
        [.new payer true,
          .newReadonly quoteMint false,
          .newReadonly quoteTokenProgram false,
          .newReadonly SystemProgram.id false,
          .newReadonly SplAssociatedTokenAccount.id false,
          .newReadonly coinCreator false,
          .new coinCreatorVaultAuthority false,
          .new coinCreatorVaultAta false,
          .new pumpCreatorVault false,
          .new pumpCreatorVaultAta false,
          .newReadonly eventAuthority false,
          .newReadonly pumpSwapProgramId false]
      data := transferCreatorFeesToPumpV2Tag }

/-- Pays the creator fees waiting in a pool into the coin creator's vault. -/
def sweepPoolCreatorFeeInstruction (payer : Pubkey) (pool : PoolInfo) : Result Instruction :=
  let recipient := findCoinCreatorVaultAuthority crates pool.coinCreator
  .ok
    { programId := pumpSwapProgramId
      accounts :=
        [.new payer true,
          .newReadonly globalConfig false,
          .new pool.pool false,
          .newReadonly pool.quoteMint false,
          .newReadonly pool.quoteTokenProgram false,
          .new pool.poolQuoteTokenAccount false,
          .newReadonly recipient false,
          .new (findCoinCreatorVaultAta crates recipient pool.quoteTokenProgram pool.quoteMint)
            false,
          .newReadonly SystemProgram.id false,
          .newReadonly SplAssociatedTokenAccount.id false,
          .newReadonly eventAuthority false,
          .newReadonly pumpSwapProgramId false]
      data := sweepCreatorFeeTag }

/-- Pays the creator fee waiting on a bonding curve into the creator's pump.fun vault. -/
def sweepBondingCurveCreatorFeeInstruction
    (payer mint creator quoteMint quoteTokenProgram : Pubkey) : Result Instruction :=
  let bondingCurve := bondingCurvePda crates mint
  let recipient := pumpCreatorVaultPda crates creator
  .ok
    { programId := pumpfunProgram
      accounts :=
        [.new payer true,
          .newReadonly pumpfunGlobal false,
          .newReadonly mint false,
          .newReadonly quoteMint false,
          .newReadonly quoteTokenProgram false,
          .newReadonly SplAssociatedTokenAccount.id false,
          .newReadonly SystemProgram.id false,
          .new bondingCurve false,
          .new (findCoinCreatorVaultAta crates bondingCurve quoteTokenProgram quoteMint) false,
          .new recipient false,
          .new (findCoinCreatorVaultAta crates recipient quoteTokenProgram quoteMint) false,
          .newReadonly pumpfunEventAuthority false,
          .newReadonly pumpfunProgram false]
      data := sweepCreatorFeeTag }

/-- Pays a coin's creator fees out of pump.fun's creator vault to the shareholders, as
lamports. -/
def distributeCreatorFeesInstruction (mint : Pubkey) (shareholders : List Pubkey) :
    Result Instruction :=
  let sharingConfig := sharingConfigPda crates mint
  .ok
    { programId := pumpfunProgram
      accounts :=
        [.newReadonly mint false,
          .newReadonly (bondingCurvePda crates mint) false,
          .newReadonly sharingConfig false,
          .new (pumpCreatorVaultPda crates sharingConfig) false,
          .newReadonly SystemProgram.id false,
          .newReadonly pumpfunEventAuthority false,
          .newReadonly pumpfunProgram false] ++
        shareholders.map fun holder => .new holder false
      data := distributeCreatorFeesTag }

/-- Pays a coin's creator fees in any quote mint out of pump.fun's creator vault to the
shareholders, in quote tokens. -/
def distributeCreatorFeesV2Instruction (payer mint quoteMint quoteTokenProgram : Pubkey)
    (initializeAta : Bool) (shareholders : List Pubkey) : Result Instruction :=
  let sharingConfig := sharingConfigPda crates mint
  let creatorVault := pumpCreatorVaultPda crates sharingConfig
  .ok
    { programId := pumpfunProgram
      accounts :=
        [.new payer true,
          .newReadonly mint false,
          .newReadonly (bondingCurvePda crates mint) false,
          .newReadonly sharingConfig false,
          .new creatorVault false,
          .newReadonly SystemProgram.id false,
          .newReadonly pumpfunEventAuthority false,
          .newReadonly pumpfunProgram false,
          .new (findCoinCreatorVaultAta crates creatorVault quoteTokenProgram quoteMint) false,
          .newReadonly quoteMint false,
          .newReadonly quoteTokenProgram false,
          .newReadonly SplAssociatedTokenAccount.id false] ++
        shareholders.map fun holder => .new holder false
      data := distributeCreatorFeesV2Tag ++ [flagByte initializeAta] }

/-- Collects what is in a single creator's vault. -/
def makeCollectCoinCreatorFeeInstruction
    (coinCreator quoteMint quoteTokenProgram coinCreatorTokenAccount : Pubkey) :
    Result Instruction :=
  let coinCreatorVaultAuthority := findCoinCreatorVaultAuthority crates coinCreator
  let coinCreatorVaultAta := findCoinCreatorVaultAta crates coinCreatorVaultAuthority
    quoteTokenProgram quoteMint
  .ok
    { programId := pumpSwapProgramId
      accounts :=
        [.newReadonly quoteMint false,
          .newReadonly quoteTokenProgram false,
          .newReadonly coinCreator false,
          .newReadonly coinCreatorVaultAuthority false,
          .new coinCreatorVaultAta false,
          .new coinCreatorTokenAccount false,
          .newReadonly eventAuthority false,
          .newReadonly pumpSwapProgramId false]
      data := [160, 57, 89, 42, 181, 139, 43, 66] }

end PumpSwapSdk
