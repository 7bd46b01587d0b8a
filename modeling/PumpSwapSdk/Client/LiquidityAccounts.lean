import PumpSwapSdk.Client.Liquidity
import PumpSwapSdk.Client.Payout

/-!
# The accounts of deposits and withdrawals

A deposit names the accounts under the token programs that the pool records. A withdrawal is
given the pool's address and its base mint only, and derives every account under the classic token
program.

The two name the same accounts exactly when the base mint is one of the classic program
(`withdraw_names_deposit_accounts_iff`). On a pool of a Token-2022 mint, which
`createWsolPoolWithOptions` creates and deposits accept, a withdrawal names a base account of the
user and a base vault that do not hold the tokens.
-/

set_option autoImplicit false

namespace PumpSwapSdk

/-! ## Named accounts -/

/-- The LP mint, the user's three token accounts and the pool's two vaults. -/
structure LiquidityAccounts where
  lpMint : Pubkey
  userBase : Pubkey
  userQuote : Pubkey
  userLp : Pubkey
  poolBase : Pubkey
  poolQuote : Pubkey
deriving DecidableEq

/-- What an instruction with the given tag names: deposits, withdrawals and creations of pools
list these accounts at the same positions. -/
def Ix.liquidityAccounts (tag : List U8) : Ix → Option LiquidityAccounts
  | .own ix =>
      if ix.programId = pumpSwapProgramId ∧ ix.data.take 8 = tag then do
        let lpMint ← ix.key 5
        let userBase ← ix.key 6
        let userQuote ← ix.key 7
        let userLp ← ix.key 8
        let poolBase ← ix.key 9
        let poolQuote ← ix.key 10
        some ⟨lpMint, userBase, userQuote, userLp, poolBase, poolQuote⟩
      else none
  | _ => none

/-- Each transaction has one such instruction, and the two name the same accounts. -/
def SameAccounts (depositIxs withdrawIxs : List Ix) : Prop :=
  ∃ accounts,
    depositIxs.filterMap (Ix.liquidityAccounts DepositInstruction.discriminator) = [accounts] ∧
    withdrawIxs.filterMap (Ix.liquidityAccounts WithdrawInstruction.discriminator) = [accounts]

/-! ## Pools as they are created -/

/-- The accounts of a WSOL-quoted pool and a user, the base ones under a given token program. -/
def PoolInfo.accountsUnder (crates : Crates) (pool : PoolInfo) (wallet tokenProgram : Pubkey) :
    LiquidityAccounts where
  lpMint := (calcLpMintPda crates pool.pool).1
  userBase := crates.getAssociatedTokenAddressWithProgramId wallet pool.baseMint tokenProgram
  userQuote := crates.getAssociatedTokenAddress wallet wrappedSolMint
  userLp := (calcUserPoolTokenAccount crates wallet (calcLpMintPda crates pool.pool).1).1
  poolBase := crates.getAssociatedTokenAddressWithProgramId pool.pool pool.baseMint tokenProgram
  poolQuote := crates.getAssociatedTokenAddress pool.pool wrappedSolMint

/-- A WSOL-quoted pool whose vaults are its associated token accounts, under each mint's own token
program, and whose LP mint is the derived one. -/
structure PoolInfo.AsCreated (crates : Crates) (pool : PoolInfo) : Prop where
  quoteMint : pool.quoteMint = wrappedSolMint
  quoteTokenProgram : pool.quoteTokenProgram = SplToken.id
  lpMint : pool.lpMint = (calcLpMintPda crates pool.pool).1
  baseVault : pool.poolBaseTokenAccount =
    crates.getAssociatedTokenAddressWithProgramId pool.pool pool.baseMint pool.baseTokenProgram
  quoteVault : pool.poolQuoteTokenAccount =
    crates.getAssociatedTokenAddressWithProgramId pool.pool pool.quoteMint pool.quoteTokenProgram

/-- Derivations that tell their inputs apart. There are fewer addresses than inputs, so that each
input is told apart for fixed others. -/
structure Crates.Separates (crates : Crates) : Prop where
  owners : ∀ mint tokenProgram, Function.Injective fun owner =>
    crates.getAssociatedTokenAddressWithProgramId owner mint tokenProgram
  mints : ∀ owner tokenProgram, Function.Injective fun mint =>
    crates.getAssociatedTokenAddressWithProgramId owner mint tokenProgram
  tokenPrograms : ∀ owner mint, Function.Injective fun tokenProgram =>
    crates.getAssociatedTokenAddressWithProgramId owner mint tokenProgram
  pools : Function.Injective fun pool => (calcLpMintPda crates pool).1
  lpHolders : ∀ lpMint, Function.Injective fun creator =>
    (calcUserPoolTokenAccount crates creator lpMint).1
  lpMints : ∀ creator, Function.Injective fun lpMint =>
    (calcUserPoolTokenAccount crates creator lpMint).1

variable {crates : Crates} {rpc : Rpc} {poolInfo : PoolInfo} {wallet : Pubkey}
variable {depositIxs withdrawIxs createIxs : List Ix}

/-- Token programs are told apart by the accounts they derive. -/
theorem PoolInfo.accountsUnder_eq_iff (separates : crates.Separates) (poolInfo : PoolInfo)
    (wallet : Pubkey) {tokenProgram otherProgram : Pubkey} :
    poolInfo.accountsUnder crates wallet tokenProgram =
      poolInfo.accountsUnder crates wallet otherProgram ↔ tokenProgram = otherProgram := by
  constructor
  · intro same
    exact separates.tokenPrograms wallet poolInfo.baseMint
      (congrArg LiquidityAccounts.userBase same)
  · rintro rfl
    rfl

/-! ## What the three transactions name -/

/-- A pool is created with the accounts under the base mint's token program. -/
theorem create_names {index : U16} {baseAmountIn quoteAmountIn : U64} {coinCreator : Pubkey}
    {isMayhemMode isCashbackCoin : Bool}
    (derived : poolInfo.pool =
      (calcPoolPdaWithIndex crates index wallet poolInfo.baseMint wrappedSolMint).1)
    (built : createWsolPoolWithOptions crates index baseAmountIn quoteAmountIn coinCreator
      poolInfo.baseMint poolInfo.baseTokenProgram isMayhemMode isCashbackCoin wallet =
        .ok createIxs) :
    createIxs.filterMap (Ix.liquidityAccounts CreatePoolInstruction.discriminator) =
      [poolInfo.accountsUnder crates wallet poolInfo.baseTokenProgram] := by
  simp only [createWsolPoolWithOptions, createPoolInstructionWithOptions, syncNative,
    splTokenCloseAccount, bind_eq_ok_iff, Except.ok.injEq] at built
  obtain ⟨_, rfl, _, ⟨_, _, rfl⟩, _, ⟨_, _, rfl⟩, rfl⟩ := built
  simp only [Ix.liquidityAccounts, CreatePoolInstruction.take_toVec, and_self, if_true,
    List.filterMap_cons, List.filterMap_nil, ← derived]
  rfl

/-- A deposit names the accounts under the base mint's token program. -/
theorem deposit_names {lpTokenAmountOut maxBaseAmountIn maxQuoteAmountIn : U64}
    (created : poolInfo.AsCreated crates)
    (built : depositIntoWsolPool crates poolInfo wallet lpTokenAmountOut maxBaseAmountIn
      maxQuoteAmountIn = .ok depositIxs) :
    depositIxs.filterMap (Ix.liquidityAccounts DepositInstruction.discriminator) =
      [poolInfo.accountsUnder crates wallet poolInfo.baseTokenProgram] := by
  simp only [depositIntoWsolPool, makeDepositInstruction, syncNative, splTokenCloseAccount,
    bind_eq_ok_iff, Except.ok.injEq] at built
  obtain ⟨_, rfl, extension, extended, _, ⟨_, _, rfl⟩, _, ⟨_, _, rfl⟩, rfl⟩ := built
  have early : extension.toList.filterMap
      (Ix.liquidityAccounts DepositInstruction.discriminator) = [] := by
    rcases maybeExtendPoolIx_eq_ok extended with rfl | ⟨ix, made, rfl⟩
    · rfl
    · obtain rfl := Except.ok.inj made
      simp [Ix.liquidityAccounts, DepositInstruction.discriminator]
  rw [List.filterMap_append, early, List.nil_append]
  simp only [Ix.liquidityAccounts, DepositInstruction.take_toVec, and_self, if_true,
    List.filterMap_cons, List.filterMap_nil, created.lpMint, created.baseVault,
    created.quoteVault, created.quoteMint, created.quoteTokenProgram]
  rfl

/-- A withdrawal names the accounts under the classic token program, whatever the base mint's. -/
theorem withdraw_names {lpTokenPercent : Float} {minBaseAmountOut minQuoteAmountOut : U64}
    (built : withdrawFromWsolPool crates rpc poolInfo.pool poolInfo.baseMint wallet lpTokenPercent
      minBaseAmountOut minQuoteAmountOut = .ok withdrawIxs) :
    withdrawIxs.filterMap (Ix.liquidityAccounts WithdrawInstruction.discriminator) =
      [poolInfo.accountsUnder crates wallet SplToken.id] := by
  obtain ⟨_, _, built⟩ := bind_eq_ok_iff.mp built
  obtain ⟨balance, _, built⟩ := bind_eq_ok_iff.mp built
  split at built
  · cases built
  · simp only [withdrawInstruction, splTokenCloseAccount, bind_eq_ok_iff, Except.ok.injEq] at built
    obtain ⟨_, rfl, _, ⟨_, _, rfl⟩, rfl⟩ := built
    simp only [Ix.liquidityAccounts, WithdrawInstruction.take_toVec, and_self, if_true,
      List.filterMap_cons, List.filterMap_nil]
    rfl

/-! ## Agreement -/

/-- **When a withdrawal names the accounts of a deposit.** On a pool as it is created, the two
transactions name the same accounts exactly when the base mint is one of the classic token
program. -/
theorem withdraw_names_deposit_accounts_iff (crates : Crates) (rpc : Rpc) (poolInfo : PoolInfo)
    (wallet : Pubkey) (lpTokenAmountOut maxBaseAmountIn maxQuoteAmountIn : U64)
    (lpTokenPercent : Float) (minBaseAmountOut minQuoteAmountOut : U64)
    (depositIxs withdrawIxs : List Ix) (separates : crates.Separates)
    (created : poolInfo.AsCreated crates)
    (deposits : depositIntoWsolPool crates poolInfo wallet lpTokenAmountOut maxBaseAmountIn
      maxQuoteAmountIn = .ok depositIxs)
    (withdraws : withdrawFromWsolPool crates rpc poolInfo.pool poolInfo.baseMint wallet
      lpTokenPercent minBaseAmountOut minQuoteAmountOut = .ok withdrawIxs) :
    SameAccounts depositIxs withdrawIxs ↔ poolInfo.baseTokenProgram = SplToken.id := by
  rw [SameAccounts, deposit_names created deposits, withdraw_names withdraws,
    ← PoolInfo.accountsUnder_eq_iff separates poolInfo wallet]
  constructor
  · rintro ⟨accounts, deposited, withdrawn⟩
    exact (List.cons.inj deposited).1.trans (List.cons.inj withdrawn).1.symm
  · intro same
    exact ⟨_, rfl, congrArg (fun accounts => [accounts]) same.symm⟩

namespace Recorded

/-- The sum of the seeds that are addresses. -/
def xorSeeds (seeds : List (List U8)) : Pubkey :=
  seeds.foldr (fun seed key =>
    if length_eq : seed.length = 32 then Pubkey.xor ⟨seed, length_eq⟩ key else key)
    Pubkey.default

/-- Derivations that add their inputs up. -/
def addingCrates : Crates :=
  { Recorded.crates with
    findProgramAddress := fun seeds _ => (xorSeeds seeds, 255)
    getAssociatedTokenAddressWithProgramId := fun owner mint tokenProgram =>
      owner.xor (mint.xor tokenProgram) }

theorem addingCrates_separates : addingCrates.Separates where
  owners := fun _ _ => Pubkey.xor_injective _
  mints := fun _ tokenProgram =>
    (Pubkey.xor_injective_right _).comp (Pubkey.xor_injective tokenProgram)
  tokenPrograms := fun _ mint =>
    (Pubkey.xor_injective_right _).comp (Pubkey.xor_injective_right mint)
  pools := by
    have lpMint (pool : Pubkey) :
        (calcLpMintPda addingCrates pool).1 = pool.xor Pubkey.default := by
      simp only [calcLpMintPda, addingCrates, xorSeeds, List.foldr_cons, List.foldr_nil,
        pool.length_eq, dite_true]
      rfl
    simp only [lpMint]
    exact Pubkey.xor_injective _
  lpHolders := by
    intro lpMint
    simp only [calcUserPoolTokenAccount, addingCrates, xorSeeds, List.foldr_cons, List.foldr_nil,
      Pubkey.length_eq, dite_true]
    exact Pubkey.xor_injective _
  lpMints := by
    intro creator
    simp only [calcUserPoolTokenAccount, addingCrates, xorSeeds, List.foldr_cons, List.foldr_nil,
      Pubkey.length_eq, dite_true]
    exact (Pubkey.xor_injective_right creator).comp
      ((Pubkey.xor_injective_right SplToken2022.id).comp (Pubkey.xor_injective Pubkey.default))

/-- The recorded pool as it is created for a base mint of the given token program. -/
def createdPool (tokenProgram : Pubkey) : PoolInfo :=
  { laterPool with
    lpMint := (calcLpMintPda addingCrates pool).1
    poolBaseTokenAccount :=
      addingCrates.getAssociatedTokenAddressWithProgramId pool mint tokenProgram
    poolQuoteTokenAccount := addingCrates.getAssociatedTokenAddress pool wrappedSolMint
    baseTokenProgram := tokenProgram }

theorem createdPool_asCreated (tokenProgram : Pubkey) :
    (createdPool tokenProgram).AsCreated addingCrates :=
  ⟨rfl, rfl, rfl, rfl, rfl⟩

/-- A node that reports an LP balance. -/
def holderNode : Rpc :=
  { Recorded.node none none with getTokenAccountBalance := fun _ => .ok "10" }

/-- Both transactions are built for a pool of either token program. -/
theorem both_built (tokenProgram : Pubkey) :
    ∃ depositIxs withdrawIxs,
      depositIntoWsolPool addingCrates (createdPool tokenProgram) shareholder 1 2 3 =
        .ok depositIxs ∧
      withdrawFromWsolPool addingCrates holderNode (createdPool tokenProgram).pool
        (createdPool tokenProgram).baseMint shareholder 1.0 0 0 = .ok withdrawIxs := by
  have extended : maybeExtendPoolIx (createdPool tokenProgram) shareholder = .ok none :=
    if_neg (by simp only [createdPool, laterPool]; decide)
  have accepted : addingCrates.checkProgramAccount SplToken.id = .ok () := by
    simp only [addingCrates, crates, if_true]
  have deposited : (depositIntoWsolPool addingCrates (createdPool tokenProgram) shareholder 1 2
      3).isOk := by
    simp only [depositIntoWsolPool, makeDepositInstruction, extended, syncNative,
      splTokenCloseAccount, accepted, Bind.bind, Except.bind, Except.isOk, Except.toBool]
  have withdrawn : (withdrawFromWsolPool addingCrates holderNode pool mint shareholder 1.0 0
      0).isOk := by
    decide +kernel
  obtain ⟨depositIxs, deposits⟩ := isOk_iff.mp deposited
  obtain ⟨withdrawIxs, withdraws⟩ := isOk_iff.mp withdrawn
  exact ⟨depositIxs, withdrawIxs, deposits, withdraws⟩

end Recorded

/-- On a pool of a classic mint the two agree. -/
theorem withdraw_names_deposit_accounts_iff_classic :
    ∃ depositIxs withdrawIxs,
      depositIntoWsolPool Recorded.addingCrates (Recorded.createdPool SplToken.id)
        Recorded.shareholder 1 2 3 = .ok depositIxs ∧
      SameAccounts depositIxs withdrawIxs := by
  obtain ⟨depositIxs, withdrawIxs, deposits, withdraws⟩ := Recorded.both_built SplToken.id
  exact ⟨depositIxs, withdrawIxs, deposits, (withdraw_names_deposit_accounts_iff
    Recorded.addingCrates Recorded.holderNode (Recorded.createdPool SplToken.id)
    Recorded.shareholder 1 2 3 1.0 0 0 depositIxs withdrawIxs Recorded.addingCrates_separates
    (Recorded.createdPool_asCreated SplToken.id) deposits withdraws).mpr rfl⟩

/-- On a pool of a Token-2022 mint a withdrawal names other accounts than the deposit. -/
theorem withdraw_misses_deposit_accounts :
    ¬ ∀ (crates : Crates) (rpc : Rpc) (poolInfo : PoolInfo) (wallet : Pubkey)
        (lpTokenAmountOut maxBaseAmountIn maxQuoteAmountIn : U64) (lpTokenPercent : Float)
        (minBaseAmountOut minQuoteAmountOut : U64) (depositIxs withdrawIxs : List Ix),
      crates.Separates → poolInfo.AsCreated crates →
      depositIntoWsolPool crates poolInfo wallet lpTokenAmountOut maxBaseAmountIn
        maxQuoteAmountIn = .ok depositIxs →
      withdrawFromWsolPool crates rpc poolInfo.pool poolInfo.baseMint wallet lpTokenPercent
        minBaseAmountOut minQuoteAmountOut = .ok withdrawIxs →
      SameAccounts depositIxs withdrawIxs := by
  intro same
  obtain ⟨depositIxs, withdrawIxs, deposits, withdraws⟩ := Recorded.both_built SplToken2022.id
  have created := Recorded.createdPool_asCreated SplToken2022.id
  obtain ⟨accounts, deposited, withdrawn⟩ := same _ _ _ _ _ _ _ _ _ _ _ _
    Recorded.addingCrates_separates created deposits withdraws
  rw [deposit_names created deposits] at deposited
  rw [withdraw_names withdraws] at withdrawn
  have programs := (PoolInfo.accountsUnder_eq_iff Recorded.addingCrates_separates _ _).mp
    ((List.cons.inj deposited).1.trans (List.cons.inj withdrawn).1.symm)
  exact absurd programs (show ¬ SplToken2022.id = SplToken.id by decide +kernel)

end PumpSwapSdk
