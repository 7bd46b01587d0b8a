import PumpSwapSdk.Client.Swap

/-!
# The user accounts of a built swap

A swap instruction takes the user's base and quote accounts at positions 5 and 6. The builders
pass a fresh WSOL account and the account of the traded token, and orient them by whether WSOL
is the base. With WSOL on one side, as on every ladder-priced pool whose fees can be quoted,
they are accounts of the pool's two mints (`swap_accounts_match_mints`). On a pool without WSOL
the WSOL account is passed as the quote account all the same.
-/

set_option autoImplicit false

namespace PumpSwapSdk

variable {crates : Crates} {choices : Choices} {poolInfo : PoolInfo} {payer : Pubkey}

/-! ## Swap instructions -/

/-- An instruction of pump-amm that swaps. -/
def Instruction.isSwap (ix : Instruction) : Bool :=
  ix.programId = pumpSwapProgramId &&
    [BuyInstruction.discriminator, BuyExactQuoteInInstruction.discriminator,
      SellInstruction.discriminator].contains (ix.data.take 8)

/-- A swap instruction over the user's base and quote accounts. -/
structure SwapsThrough (swap : Instruction) (userBaseAcc userQuoteAcc : Pubkey) : Prop where
  isSwap : swap.isSwap
  base : swap.key 5 = some userBaseAcc
  quote : swap.key 6 = some userQuoteAcc

section Builders

variable {userBaseAcc userQuoteAcc : Pubkey} {swap : Instruction}
variable {extension : Option Ix} {wsolAcc : Pubkey} {seed : String} {lamports : U64}
variable {createAta : Bool}

theorem swapsThrough_buy {baseAmountOut maxQuoteAmountIn : U64} {trackVolume : Bool}
    (built : makeBuyInstruction crates choices baseAmountOut maxQuoteAmountIn trackVolume poolInfo
      payer userBaseAcc userQuoteAcc = .ok swap) : SwapsThrough swap userBaseAcc userQuoteAcc := by
  obtain rfl := Except.ok.inj built
  exact ⟨by simp [Instruction.isSwap, BuyInstruction.toVec, BuyInstruction.discriminator], rfl, rfl⟩

theorem swapsThrough_buyExactQuoteIn {spendableQuoteIn minBaseAmountOut : U64}
    {trackVolume : Bool}
    (built : makeBuyExactQuoteInInstruction crates choices spendableQuoteIn minBaseAmountOut
      trackVolume poolInfo payer userBaseAcc userQuoteAcc = .ok swap) :
    SwapsThrough swap userBaseAcc userQuoteAcc := by
  obtain rfl := Except.ok.inj built
  exact ⟨by simp [Instruction.isSwap, BuyExactQuoteInInstruction.toVec,
    BuyExactQuoteInInstruction.discriminator], rfl, rfl⟩

theorem swapsThrough_sell {baseAmountIn minQuoteAmountOut : U64}
    (built : makeSellInstruction crates choices baseAmountIn minQuoteAmountOut poolInfo payer
      userBaseAcc userQuoteAcc = .ok swap) : SwapsThrough swap userBaseAcc userQuoteAcc := by
  obtain rfl := Except.ok.inj built
  exact ⟨by simp [Instruction.isSwap, SellInstruction.toVec, SellInstruction.discriminator],
    rfl, rfl⟩

/-- The extension of a pool account is not a swap. -/
theorem mem_extension {ix : Ix} (extended : maybeExtendPoolIx poolInfo payer = .ok extension)
    (member : ix ∈ extension.toList) : ∃ other, ix = .own other ∧ ¬ other.isSwap := by
  rw [Option.mem_toList] at member
  subst member
  rcases maybeExtendPoolIx_eq_ok extended with absent | ⟨other, built, returned⟩
  · cases absent
  · refine ⟨other, Option.some.inj returned, ?_⟩
    obtain rfl := Except.ok.inj built
    simp [Instruction.isSwap, BuyInstruction.discriminator,
      BuyExactQuoteInInstruction.discriminator, SellInstruction.discriminator]

/-- Before the swap a sequence extends the pool, opens the WSOL account and creates the token
account. -/
theorem mem_opening {ix : Ix} (extended : maybeExtendPoolIx poolInfo payer = .ok extension)
    (member : ix ∈ openingIxs crates poolInfo payer createAta extension wsolAcc seed lamports) :
    (∃ other, ix = .own other ∧ ¬ other.isSwap) ∨
      ix = .createAccountWithSeed payer wsolAcc payer seed lamports
        (BitVec.ofNat 64 SplToken.accountLen) SplToken.id ∨
      ix = .initializeAccount SplToken.id wsolAcc wrappedSolMint payer ∨
      ix = .createAssociatedTokenAccountIdempotent payer payer poolInfo.tokenMint
        poolInfo.tokenProgram := by
  rcases List.mem_append.mp member with early | creation
  · rcases List.mem_append.mp early with extends_pool | opened
    · exact Or.inl (mem_extension extended extends_pool)
    · simp only [List.mem_cons, List.not_mem_nil, or_false] at opened
      exact Or.inr (opened.imp_right Or.inl)
  · cases createAta with
    | false => simp [createAtaTokenOrNotWithProgram] at creation
    | true =>
        refine Or.inr (Or.inr (Or.inr ?_))
        simpa [createAtaTokenOrNotWithProgram] using creation

/-- The WSOL account is initialised before the swap. -/
theorem initializeAccount_mem_opening :
    Ix.initializeAccount SplToken.id wsolAcc wrappedSolMint payer ∈
      openingIxs crates poolInfo payer createAta extension wsolAcc seed lamports := by
  simp [openingIxs]

/-- At its end a sequence closes the token account, if it does anything. -/
theorem mem_closing {ix : Ix} {ata : Pubkey} {closeAta : Bool} {closing : List Ix}
    (closed : closeAtaIxs crates poolInfo ata payer closeAta = .ok closing)
    (member : ix ∈ closing) : ix = .closeAccount poolInfo.tokenProgram ata payer payer := by
  unfold closeAtaIxs splTokenCloseAccount at closed
  split at closed
  · simp only [bind_eq_ok_iff, Except.ok.injEq] at closed
    obtain ⟨_, ⟨_, _, rfl⟩, rfl⟩ := closed
    exact List.mem_singleton.mp member
  · obtain rfl := Except.ok.inj closed
    exact absurd member List.not_mem_nil

end Builders

/-! ## The five builders -/

/-- A call of one of the five swap builders. -/
inductive SwapCall where
  | buy (baseAmountOut maxQuoteAmountIn : U64) (trackVolume createAta : Bool)
  | buyExactQuoteIn (spendableQuoteIn minBaseAmountOut : U64) (trackVolume createAta : Bool)
  | sell (baseAmountIn minQuoteAmountOut : U64) (closeSplAcc : Bool)
  | tokenBuy (solIn minTokensOut : U64) (trackVolume createAta : Bool)
  | tokenSell (tokensIn minSolOut : U64) (closeTokenAta : Bool)
deriving DecidableEq

/-- What the call returns. -/
def SwapCall.build (crates : Crates) (choices : Choices) (poolInfo : PoolInfo) (payer : Pubkey) :
    SwapCall → Result (List Ix)
  | .buy baseAmountOut maxQuoteAmountIn trackVolume createAta =>
      buildBuyIxs crates choices baseAmountOut maxQuoteAmountIn trackVolume poolInfo payer createAta
  | .buyExactQuoteIn spendableQuoteIn minBaseAmountOut trackVolume createAta =>
      buildBuyExactQuoteInIxs crates choices spendableQuoteIn minBaseAmountOut trackVolume poolInfo
        payer createAta
  | .sell baseAmountIn minQuoteAmountOut closeSplAcc =>
      buildSellIxs crates choices baseAmountIn minQuoteAmountOut poolInfo payer closeSplAcc
  | .tokenBuy solIn minTokensOut trackVolume createAta =>
      buildTokenBuyIxs crates choices solIn minTokensOut trackVolume poolInfo payer createAta
  | .tokenSell tokensIn minSolOut closeTokenAta =>
      buildTokenSellIxs crates choices tokensIn minSolOut poolInfo payer closeTokenAta

/-- Every builder runs the shared sequence around a swap over the accounts it is given. -/
theorem SwapCall.build_eq_sequence (crates : Crates) (choices : Choices) (poolInfo : PoolInfo)
    (payer : Pubkey) (call : SwapCall) :
    ∃ spent createAta closeAta swapIx,
      call.build crates choices poolInfo payer =
          swapSequence crates choices poolInfo payer spent createAta closeAta swapIx ∧
        ∀ userBaseAcc userQuoteAcc swap, swapIx userBaseAcc userQuoteAcc = .ok swap →
          SwapsThrough swap userBaseAcc userQuoteAcc := by
  cases call with
  | buy baseAmountOut maxQuoteAmountIn trackVolume createAta =>
      simp only [build, buildBuyIxs]
      exact ⟨_, _, _, _, rfl, fun _ _ _ built => swapsThrough_buy built⟩
  | buyExactQuoteIn spendableQuoteIn minBaseAmountOut trackVolume createAta =>
      simp only [build, buildBuyExactQuoteInIxs]
      exact ⟨_, _, _, _, rfl, fun _ _ _ built => swapsThrough_buyExactQuoteIn built⟩
  | sell baseAmountIn minQuoteAmountOut closeSplAcc =>
      simp only [build, buildSellIxs]
      exact ⟨_, _, _, _, rfl, fun _ _ _ built => swapsThrough_sell built⟩
  | tokenBuy solIn minTokensOut trackVolume createAta =>
      simp only [build, buildTokenBuyIxs]
      refine ⟨_, _, _, _, rfl, fun _ _ _ built => ?_⟩
      split at built
      · exact swapsThrough_sell built
      · exact swapsThrough_buyExactQuoteIn built
  | tokenSell tokensIn minSolOut closeTokenAta =>
      simp only [build, buildTokenSellIxs]
      refine ⟨_, _, _, _, rfl, fun _ _ _ built => ?_⟩
      split at built
      · exact swapsThrough_buyExactQuoteIn built
      · exact swapsThrough_sell built

/-! ## Typing -/

/-- An address is a token account of a mint once the instructions have run: they initialise it
for the mint, or it is derived as the owner's account for it. -/
def TokenAccountOf (crates : Crates) (instructions : List Ix) (owner mint tokenProgram : Pubkey)
    (key : Pubkey) : Prop :=
  Ix.initializeAccount SplToken.id key mint owner ∈ instructions ∨
    key = crates.getAssociatedTokenAddressWithProgramId owner mint tokenProgram

/-- The instructions hold exactly one swap, and it takes an account of the base mint at position
5 and one of the quote mint at position 6. -/
def TypedSwap (crates : Crates) (poolInfo : PoolInfo) (payer : Pubkey) (instructions : List Ix) :
    Prop :=
  ∃ before swap after, instructions = before ++ .own swap :: after ∧ swap.isSwap ∧
    (∀ other, Ix.own other ∈ before ++ after → ¬ other.isSwap) ∧
    ∃ userBaseAcc userQuoteAcc,
      swap.key 5 = some userBaseAcc ∧ swap.key 6 = some userQuoteAcc ∧
      TokenAccountOf crates before payer poolInfo.baseMint poolInfo.baseTokenProgram
        userBaseAcc ∧
      TokenAccountOf crates before payer poolInfo.quoteMint poolInfo.quoteTokenProgram
        userQuoteAcc

/-- The one swap is whichever swap the instructions hold. -/
theorem TypedSwap.quote_of_mem {instructions : List Ix} {swap : Instruction} {key : Pubkey}
    (typed : TypedSwap crates poolInfo payer instructions) (member : Ix.own swap ∈ instructions)
    (isSwap : swap.isSwap) (quote : swap.key 6 = some key) :
    TokenAccountOf crates instructions payer poolInfo.quoteMint poolInfo.quoteTokenProgram key := by
  obtain ⟨before, only, after, rfl, -, others, _, account, -, quote', -, typed⟩ := typed
  have same : swap = only := by
    by_contra other
    refine others swap ?_ isSwap
    simpa [other] using member
  rw [same, quote', Option.some.injEq] at quote
  subst quote
  exact typed.imp (List.mem_append_left _) id

/-- A pool with WSOL on a side orients its accounts by its mints. -/
theorem userAccounts_typed {instructions : List Ix} {wsolAcc : Pubkey}
    (sided : poolInfo.baseMint = wrappedSolMint ∨ poolInfo.quoteMint = wrappedSolMint)
    (opened : Ix.initializeAccount SplToken.id wsolAcc wrappedSolMint payer ∈ instructions) :
    TokenAccountOf crates instructions payer poolInfo.baseMint poolInfo.baseTokenProgram
        (userAccounts poolInfo wsolAcc (tokenAta crates poolInfo payer)).1 ∧
      TokenAccountOf crates instructions payer poolInfo.quoteMint poolInfo.quoteTokenProgram
        (userAccounts poolInfo wsolAcc (tokenAta crates poolInfo payer)).2 := by
  by_cases base : poolInfo.baseMint = wrappedSolMint
  · have oriented : poolInfo.solIsBase = true := decide_eq_true base
    simp only [userAccounts, tokenAta, PoolInfo.tokenMint, PoolInfo.tokenProgram,
      PoolInfo.tokenSide, oriented, if_true]
    rw [base]
    exact ⟨Or.inl opened, Or.inr rfl⟩
  · have oriented : poolInfo.solIsBase = false := decide_eq_false base
    have quote := sided.resolve_left base
    simp only [userAccounts, tokenAta, PoolInfo.tokenMint, PoolInfo.tokenProgram,
      PoolInfo.tokenSide, oriented, Bool.false_eq_true, if_false]
    rw [quote]
    exact ⟨Or.inr rfl, Or.inl opened⟩

/-- A ladder-priced pool whose fees can be quoted is quoted in WSOL. -/
theorem quoteMint_of_canQuoteFees (quotable : canQuoteFees poolInfo)
    (tiered : poolInfo.coinCreator ≠ Pubkey.default) : poolInfo.quoteMint = wrappedSolMint := by
  simpa [canQuoteFees, isTieredFeePool, tiered] using quotable

/-- **A built swap takes accounts of the pool's mints.** On a pool whose fees can be quoted and
that has a coin creator or WSOL on a side, each builder's sequence holds exactly one swap, its
account 5 is a token account of the base mint and its account 6 one of the quote mint, and the
WSOL account is initialised before the swap. -/
theorem swap_accounts_match_mints (crates : Crates) (choices : Choices) (call : SwapCall)
    (poolInfo : PoolInfo) (payer : Pubkey) (instructions : List Ix)
    (quotable : canQuoteFees poolInfo)
    (sided : poolInfo.coinCreator ≠ Pubkey.default ∨ poolInfo.baseMint = wrappedSolMint ∨
      poolInfo.quoteMint = wrappedSolMint)
    (built : call.build crates choices poolInfo payer = .ok instructions) :
    TypedSwap crates poolInfo payer instructions := by
  have sided : poolInfo.baseMint = wrappedSolMint ∨ poolInfo.quoteMint = wrappedSolMint :=
    sided.elim (fun tiered => Or.inr (quoteMint_of_canQuoteFees quotable tiered)) id
  obtain ⟨spent, createAta, closeAta, swapIx, shared, through⟩ :=
    call.build_eq_sequence crates choices poolInfo payer
  rw [shared] at built
  obtain ⟨extension, wsolAcc, seed, lamports, swap, closing, extended, -, -, swapped, closed,
    rfl⟩ := swapSequence_eq_ok built
  obtain ⟨isSwap, base, quote⟩ := through _ _ swap swapped
  refine ⟨_, swap, _, rfl, isSwap, ?_, _, _, base, quote,
    userAccounts_typed sided initializeAccount_mem_opening⟩
  intro other member
  rcases List.mem_append.mp member with opening | ending
  · rcases mem_opening extended opening with ⟨_, same, other⟩ | same | same | same
    · cases same
      exact other
    · cases same
    · cases same
    · cases same
  · rcases List.mem_cons.mp ending with same | closes
    · cases same
    · cases mem_closing closed closes

namespace Recorded

/-- The recorded derivations, with a fresh account that is no token account's address. -/
def freshCrates : Crates :=
  { Recorded.crates with createWithSeed := fun _ _ _ => .ok poolAuthority }

/-- A pool of two other mints, without a coin creator. -/
def unpairedPool : PoolInfo :=
  { oldPool with quoteMint := bondingCurve, coinCreator := Pubkey.default }

def firstChoices : Choices := ⟨List.Vector.replicate 32 0, 0, 0, 0⟩

end Recorded

/-- A sell of the recorded coin takes accounts of its mint and of WSOL. -/
theorem swap_accounts_match_mints_recorded :
    ∃ instructions, (SwapCall.sell 5 0 true).build Recorded.freshCrates Recorded.firstChoices
        Recorded.laterPool Recorded.shareholder = .ok instructions ∧
      TypedSwap Recorded.freshCrates Recorded.laterPool Recorded.shareholder instructions := by
  obtain ⟨instructions, built⟩ := isOk_iff.mp (show ((SwapCall.sell 5 0 true).build
    Recorded.freshCrates Recorded.firstChoices Recorded.laterPool Recorded.shareholder).isOk by
      decide +kernel)
  exact ⟨instructions, built, swap_accounts_match_mints Recorded.freshCrates Recorded.firstChoices
    (.sell 5 0 true) Recorded.laterPool Recorded.shareholder instructions
    (by simp [canQuoteFees, Recorded.laterPool, Recorded.oldPool]) (Or.inr (Or.inr rfl)) built⟩

/-- On a pool of two other mints, whose flat fees can be quoted, the WSOL account stands in for
the quote account. -/
theorem swap_accounts_miss_quote_mint :
    ¬ ∀ (crates : Crates) (choices : Choices) (call : SwapCall) (poolInfo : PoolInfo)
        (payer : Pubkey) (instructions : List Ix), canQuoteFees poolInfo →
      call.build crates choices poolInfo payer = .ok instructions →
        TypedSwap crates poolInfo payer instructions := by
  intro typed
  obtain ⟨instructions, built⟩ := isOk_iff.mp (show ((SwapCall.sell 5 0 false).build
    Recorded.freshCrates Recorded.firstChoices Recorded.unpairedPool Recorded.shareholder).isOk by
      decide +kernel)
  have typed := typed _ _ _ _ _ instructions
    (by simp [canQuoteFees, isTieredFeePool, Recorded.unpairedPool]) built
  simp only [SwapCall.build, buildSellIxs] at built
  obtain ⟨extension, wsolAcc, seed, lamports, swap, closing, extended, fresh, -, swapped, closed,
    rfl⟩ := swapSequence_eq_ok built
  have oriented : Recorded.unpairedPool.solIsBase = false := by decide +kernel
  have other : Recorded.bondingCurve ≠ wrappedSolMint := by decide +kernel
  have account : wsolAcc = Recorded.poolAuthority := by
    simp only [genPubkeyWithSeed, bind_eq_ok_iff, Except.ok.injEq, Prod.mk.injEq] at fresh
    obtain ⟨_, derived, rfl, -⟩ := fresh
    exact (Except.ok.inj derived).symm
  simp only [userAccounts, oriented, Bool.false_eq_true, if_false] at swapped
  obtain ⟨isSwap, -, quote⟩ := swapsThrough_sell swapped
  rcases typed.quote_of_mem (List.mem_append_right _ List.mem_cons_self) isSwap quote with
    opened | derived
  · -- The only account the sequence initialises is for the WSOL mint.
    rcases List.mem_append.mp opened with opening | ending
    · rcases mem_opening extended opening with ⟨_, same, -⟩ | same | same | same
      · cases same
      · cases same
      · exact other (Ix.initializeAccount.inj same).2.2.1
      · cases same
    · rcases List.mem_cons.mp ending with same | ending
      · cases same
      · rcases List.mem_cons.mp ending with same | closes
        · cases same
        · cases mem_closing closed closes
  · rw [account] at derived
    exact absurd derived (by decide +kernel)

end PumpSwapSdk
