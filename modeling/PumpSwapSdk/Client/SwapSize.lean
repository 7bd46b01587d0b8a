import PumpSwapSdk.Client.Funding
import PumpSwapSdk.Client.Transaction

/-!
# Which swaps fit into a transaction

A submitted swap carries its compute budget, the opening and the closing of its WSOL account and
up to twenty-seven accounts. A pool adds to that: cashback and a coin creator add accounts, another
token program than the classic one adds an address, and an account of an older layout an
instruction. `swapTransaction_size` is the exact size. A buy has room for any of these but not for a
cashback pool with a coin creator whose token is under another program or whose account is of an
older layout (`submitted_swap_fits_iff`).
-/

set_option autoImplicit false

namespace PumpSwapSdk

open Foundation.LittleEndian

variable {crates : Crates} {choices : Choices} {poolInfo : PoolInfo} {payer wsolAcc : Pubkey}
variable {assemble : Ix → Instruction}

/-! ## Addresses -/

/-- A pool with WSOL on a side, under the classic token program. -/
def WsolSided (poolInfo : PoolInfo) : Prop :=
  poolInfo.baseMint = wrappedSolMint ∧ poolInfo.baseTokenProgram = SplToken.id ∨
    poolInfo.baseMint ≠ wrappedSolMint ∧ poolInfo.quoteMint = wrappedSolMint ∧
      poolInfo.quoteTokenProgram = SplToken.id

/-- What every swap names but its payer. -/
def coreAddresses (crates : Crates) (choices : Choices) (poolInfo : PoolInfo)
    (payer wsolAcc : Pubkey) : List Pubkey :=
  let protocolFeeRecipient := pickProtocolFeeRecipientForPool choices poolInfo.isMayhemMode
  let creatorVaultAuthority := findCoinCreatorVaultAuthority crates poolInfo.coinCreator
  let buybackRecipient := pickBuybackFeeRecipient choices
  [SystemProgram.id, SplToken.id, wrappedSolMint, wsolAcc, poolInfo.pool, globalConfig,
    poolInfo.tokenMint, tokenAta crates poolInfo payer, poolInfo.poolBaseTokenAccount,
    poolInfo.poolQuoteTokenAccount, protocolFeeRecipient,
    crates.getAssociatedTokenAddressWithProgramId protocolFeeRecipient poolInfo.quoteMint
      poolInfo.quoteTokenProgram,
    SplAssociatedTokenAccount.id, eventAuthority, pumpSwapProgramId,
    findCoinCreatorVaultAta crates creatorVaultAuthority poolInfo.quoteTokenProgram
      poolInfo.quoteMint,
    creatorVaultAuthority, feeConfigPda crates, feeProgram, buybackRecipient,
    crates.getAssociatedTokenAddressWithProgramId buybackRecipient poolInfo.quoteMint
      poolInfo.quoteTokenProgram]

/-- The program of the traded token, where it is not the classic one. -/
def programAddresses (poolInfo : PoolInfo) : List Pubkey :=
  if poolInfo.tokenProgram = SplToken.id then [] else [poolInfo.tokenProgram]

/-- The volume accumulators, which a buy names. -/
def volumeAddresses (crates : Crates) (payer : Pubkey) : SwapKind → List Pubkey
  | .buy => [globalVolumeAccumulator, findUserVolAccumulator crates payer]
  | .sell => []

/-- What a cashback pool adds. -/
def cashbackAddresses (crates : Crates) (poolInfo : PoolInfo) (payer : Pubkey) (kind : SwapKind) :
    List Pubkey :=
  if poolInfo.isCashbackCoin then
    userVolumeAccumulatorQuoteAta crates payer poolInfo.quoteMint poolInfo.quoteTokenProgram ::
      match kind with
      | .buy => []
      | .sell => [findUserVolAccumulator crates payer]
  else []

/-- What a coin creator adds. -/
def creatorAddresses (crates : Crates) (poolInfo : PoolInfo) : List Pubkey :=
  if poolInfo.coinCreator = Pubkey.default then [] else [poolV2Pda crates poolInfo.baseMint]

/-- The addresses of a submitted swap but its payer. -/
def swapAddresses (crates : Crates) (choices : Choices) (poolInfo : PoolInfo)
    (payer wsolAcc : Pubkey) (kind : SwapKind) : List Pubkey :=
  [computeBudgetId, rentSysvarId] ++ coreAddresses crates choices poolInfo payer wsolAcc ++
    programAddresses poolInfo ++ volumeAddresses crates payer kind ++
    cashbackAddresses crates poolInfo payer kind ++ creatorAddresses crates poolInfo

/-! ## Instructions -/

variable {kind : SwapKind} {data : List U8}

/-- The swap. -/
def swapOf (crates : Crates) (choices : Choices) (poolInfo : PoolInfo) (payer wsolAcc : Pubkey)
    (kind : SwapKind) (data : List U8) : Instruction :=
  let accounts := userAccounts poolInfo wsolAcc (tokenAta crates poolInfo payer)
  ⟨pumpSwapProgramId,
    swapAccounts crates choices poolInfo payer accounts.1 accounts.2 kind, data⟩

theorem tokenProgram_mem (poolInfo : PoolInfo) :
    poolInfo.tokenProgram = SplToken.id ∨ poolInfo.tokenProgram ∈ programAddresses poolInfo := by
  unfold programAddresses
  split
  · rename_i classic
    exact Or.inl classic
  · exact Or.inr (List.mem_singleton.mpr rfl)

/-- Which side is which. -/
theorem WsolSided.sides (sided : WsolSided poolInfo) (wsolAcc ata : Pubkey) :
    (poolInfo.baseMint = wrappedSolMint ∧ poolInfo.quoteMint = poolInfo.tokenMint ∧
      poolInfo.baseTokenProgram = SplToken.id ∧
      poolInfo.quoteTokenProgram = poolInfo.tokenProgram ∧
      userAccounts poolInfo wsolAcc ata = (wsolAcc, ata)) ∨
    poolInfo.baseMint = poolInfo.tokenMint ∧ poolInfo.quoteMint = wrappedSolMint ∧
      poolInfo.baseTokenProgram = poolInfo.tokenProgram ∧
      poolInfo.quoteTokenProgram = SplToken.id ∧
      userAccounts poolInfo wsolAcc ata = (ata, wsolAcc) := by
  rcases sided with ⟨base, classic⟩ | ⟨base, quote, classic⟩
  · have oriented : poolInfo.solIsBase = true := decide_eq_true base
    refine Or.inl ⟨base, ?_, classic, ?_, ?_⟩
    · simp [PoolInfo.tokenMint, PoolInfo.tokenSide, oriented]
    · simp [PoolInfo.tokenProgram, PoolInfo.tokenSide, oriented]
    · simp [userAccounts, oriented]
  · have oriented : poolInfo.solIsBase = false := decide_eq_false base
    refine Or.inr ⟨?_, quote, ?_, classic, ?_⟩
    · simp [PoolInfo.tokenMint, PoolInfo.tokenSide, oriented]
    · simp [PoolInfo.tokenProgram, PoolInfo.tokenSide, oriented]
    · simp [userAccounts, oriented]

/-- The trailing accounts name what cashback and a coin creator add, and a buyback recipient. -/
theorem keys_remaining (crates : Crates) (choices : Choices) (poolInfo : PoolInfo)
    (payer : Pubkey) (kind : SwapKind) :
    (swapRemainingAccounts crates choices poolInfo payer (kind = .sell)).map AccountMeta.pubkey =
      cashbackAddresses crates poolInfo payer kind ++ creatorAddresses crates poolInfo ++
        [pickBuybackFeeRecipient choices,
          crates.getAssociatedTokenAddressWithProgramId (pickBuybackFeeRecipient choices)
            poolInfo.quoteMint poolInfo.quoteTokenProgram] := by
  have cashback : (if poolInfo.isCashbackCoin then
        AccountMeta.new (userVolumeAccumulatorQuoteAta crates payer poolInfo.quoteMint
          poolInfo.quoteTokenProgram) false ::
          if decide (kind = .sell) = true then
            [AccountMeta.new (findUserVolAccumulator crates payer) false] else []
      else []).map AccountMeta.pubkey = cashbackAddresses crates poolInfo payer kind := by
    unfold cashbackAddresses
    cases poolInfo.isCashbackCoin with
    | false => rfl
    | true =>
        cases kind with
        | buy => rfl
        | sell => rfl
  have creator : (if poolInfo.coinCreator ≠ Pubkey.default then
        [AccountMeta.newReadonly (poolV2Pda crates poolInfo.baseMint) false]
      else []).map AccountMeta.pubkey = creatorAddresses crates poolInfo := by
    unfold creatorAddresses
    by_cases creator : poolInfo.coinCreator = Pubkey.default
    · simp [creator]
    · simp [creator]
  rw [swapRemainingAccounts, List.map_append, List.map_append, cashback, creator]
  rfl

/-- The addresses of a swap, in order. -/
theorem keys_swapOf :
    (swapOf crates choices poolInfo payer wsolAcc kind data).keys =
      [poolInfo.pool, payer, globalConfig, poolInfo.baseMint, poolInfo.quoteMint,
        (userAccounts poolInfo wsolAcc (tokenAta crates poolInfo payer)).1,
        (userAccounts poolInfo wsolAcc (tokenAta crates poolInfo payer)).2,
        poolInfo.poolBaseTokenAccount, poolInfo.poolQuoteTokenAccount,
        pickProtocolFeeRecipientForPool choices poolInfo.isMayhemMode,
        crates.getAssociatedTokenAddressWithProgramId
          (pickProtocolFeeRecipientForPool choices poolInfo.isMayhemMode) poolInfo.quoteMint
          poolInfo.quoteTokenProgram,
        poolInfo.baseTokenProgram, poolInfo.quoteTokenProgram, SystemProgram.id,
        SplAssociatedTokenAccount.id, eventAuthority, pumpSwapProgramId,
        findCoinCreatorVaultAta crates (findCoinCreatorVaultAuthority crates poolInfo.coinCreator)
          poolInfo.quoteTokenProgram poolInfo.quoteMint,
        findCoinCreatorVaultAuthority crates poolInfo.coinCreator] ++
      volumeAddresses crates payer kind ++ [feeConfigPda crates, feeProgram] ++
      (cashbackAddresses crates poolInfo payer kind ++ creatorAddresses crates poolInfo ++
        [pickBuybackFeeRecipient choices,
          crates.getAssociatedTokenAddressWithProgramId (pickBuybackFeeRecipient choices)
            poolInfo.quoteMint poolInfo.quoteTokenProgram]) ++ [pumpSwapProgramId] := by
  have volume : (if kind = .buy then
        [AccountMeta.newReadonly globalVolumeAccumulator false,
          AccountMeta.new (findUserVolAccumulator crates payer) false]
      else []).map AccountMeta.pubkey = volumeAddresses crates payer kind := by
    cases kind with
    | buy => rfl
    | sell => rfl
  rw [Instruction.keys, swapOf, swapAccounts, List.map_append, List.map_append, List.map_append,
    volume, keys_remaining]
  rfl

/-- The traded token's program is named. -/
theorem tokenProgram_mem_addresses (crates : Crates) (choices : Choices) (poolInfo : PoolInfo)
    (payer wsolAcc : Pubkey) (kind : SwapKind) :
    poolInfo.tokenProgram ∈ payer :: swapAddresses crates choices poolInfo payer wsolAcc kind := by
  rcases tokenProgram_mem poolInfo with classic | other
  · simp [classic, swapAddresses, coreAddresses]
  · simp [other, swapAddresses]

/-- A swap names no address but its payer's and those counted. -/
theorem namesOnly_swap (sided : WsolSided poolInfo) :
    NamesOnly (payer :: swapAddresses crates choices poolInfo payer wsolAcc kind)
      [swapOf crates choices poolInfo payer wsolAcc kind data] := by
  have sides := sided.sides wsolAcc (tokenAta crates poolInfo payer)
  have program := tokenProgram_mem_addresses crates choices poolInfo payer wsolAcc kind
  rw [namesOnly_singleton, keys_swapOf]
  simp only [List.append_subset]
  refine ⟨⟨⟨⟨?_, ?_⟩, ?_⟩, ⟨?_, ?_⟩, ?_⟩, ?_⟩
  · rcases sides with ⟨base, quote, baseProgram, quoteProgram, accounts⟩ |
        ⟨base, quote, baseProgram, quoteProgram, accounts⟩
    · simp only [List.cons_subset, List.nil_subset, baseProgram, quoteProgram, program, and_true]
      simp only [swapAddresses, coreAddresses, List.mem_append, List.mem_cons, base, quote,
        quoteProgram, accounts, true_or, or_true, and_true]
    · simp only [List.cons_subset, List.nil_subset, baseProgram, quoteProgram, program, and_true]
      simp only [swapAddresses, coreAddresses, List.mem_append, List.mem_cons, base, quote,
        quoteProgram, accounts, true_or, or_true, and_true]
  · intro key member
    simp [swapAddresses, member]
  · simp [swapAddresses, coreAddresses]
  · intro key member
    simp [swapAddresses, member]
  · intro key member
    simp [swapAddresses, member]
  · simp [swapAddresses, coreAddresses]
  · simp [swapAddresses, coreAddresses]

/-- A swap names all that are counted but those of the budget and of the opening of the WSOL
account. -/
theorem namesAll_swap (sided : WsolSided poolInfo) :
    NamesAll (coreAddresses crates choices poolInfo payer wsolAcc ++ programAddresses poolInfo ++
        volumeAddresses crates payer kind ++ cashbackAddresses crates poolInfo payer kind ++
        creatorAddresses crates poolInfo)
      [swapOf crates choices poolInfo payer wsolAcc kind data] := by
  have sides := sided.sides wsolAcc (tokenAta crates poolInfo payer)
  rw [namesAll_singleton, keys_swapOf]
  simp only [List.append_subset]
  refine ⟨⟨⟨⟨?_, ?_⟩, ?_⟩, ?_⟩, ?_⟩
  · rcases sides with ⟨base, quote, baseProgram, quoteProgram, accounts⟩ |
        ⟨base, quote, baseProgram, quoteProgram, accounts⟩
    · simp only [coreAddresses, List.cons_subset, List.nil_subset, List.mem_append, List.mem_cons,
        base, quote, baseProgram, quoteProgram, accounts, true_or, or_true, and_true]
    · simp only [coreAddresses, List.cons_subset, List.nil_subset, List.mem_append, List.mem_cons,
        base, quote, baseProgram, quoteProgram, accounts, true_or, or_true, and_true]
  · unfold programAddresses
    split
    · exact List.nil_subset _
    · rcases sides with ⟨-, -, -, quoteProgram, -⟩ | ⟨-, -, baseProgram, -, -⟩
      · simp [quoteProgram]
      · simp [baseProgram]
  · intro key member
    simp [member]
  · intro key member
    simp [member]
  · intro key member
    simp [member]

/-- The size of the data of a swap. -/
def SwapKind.dataLength : SwapKind → ℕ
  | .buy => 25
  | .sell => 24

/-- What the swap adds. -/
theorem adds_swap (sided : WsolSided poolInfo) (length : data.length = kind.dataLength) :
    Adds payer (swapAddresses crates choices poolInfo payer wsolAcc kind)
      [swapOf crates choices poolInfo payer wsolAcc kind data]
      (coreAddresses crates choices poolInfo payer wsolAcc ++ programAddresses poolInfo ++
        volumeAddresses crates payer kind ++ cashbackAddresses crates poolInfo payer kind ++
        creatorAddresses crates poolInfo)
      (26 + kind.dataLength + (volumeAddresses crates payer kind).length +
        (cashbackAddresses crates poolInfo payer kind).length +
        (creatorAddresses crates poolInfo).length) where
  signed := List.forall_mem_singleton.mpr signedBy_swapAccounts
  only := namesOnly_swap sided
  names := namesAll_swap sided
  size := by
    rw [instructionsSize_cons, instructionsSize_nil, Instruction.size_eq_keys, keys_swapOf, swapOf,
      length]
    simp only [List.length_append, List.length_cons, List.length_nil]
    omega

/-- The opening of the WSOL account. -/
theorem adds_create (assembles : Assembles crates assemble) {seed : String} (lamports space : U64)
    (short : seed.utf8ByteSize = 32) :
    Adds payer (swapAddresses crates choices poolInfo payer wsolAcc kind)
      [assemble (.createAccountWithSeed payer wsolAcc payer seed lamports space SplToken.id)] []
      129 := by
  obtain ⟨data, length, same⟩ :=
    assembles.createAccountWithSeed payer wsolAcc seed lamports space SplToken.id
  rw [same]
  constructor
  · simp [Instruction.SignedBy]
  · simp [NamesOnly, Instruction.keys, swapAddresses, coreAddresses]
  · exact List.forall_mem_nil _
  · simp [Instruction.size, length, short]

theorem adds_opening (assembles : Assembles crates assemble) :
    Adds payer (swapAddresses crates choices poolInfo payer wsolAcc kind)
      [assemble (.initializeAccount SplToken.id wsolAcc wrappedSolMint payer)] [rentSysvarId]
      8 := by
  obtain ⟨data, length, same⟩ :=
    assembles.initializeAccount SplToken.id wsolAcc wrappedSolMint payer
  rw [same]
  constructor
  · simp [Instruction.SignedBy]
  · simp [NamesOnly, Instruction.keys, swapAddresses, coreAddresses]
  · simp [NamesAll, Instruction.keys]
  · simp [Instruction.size, length]

/-- The closing of an account that is the swap's. -/
theorem adds_close (assembles : Assembles crates assemble) {account program : Pubkey}
    (held : account ∈ coreAddresses crates choices poolInfo payer wsolAcc)
    (run : program ∈ payer :: swapAddresses crates choices poolInfo payer wsolAcc kind) :
    Adds payer (swapAddresses crates choices poolInfo payer wsolAcc kind)
      [assemble (.closeAccount program account payer payer)] [] 7 := by
  obtain ⟨data, length, same⟩ := assembles.closeAccount program account payer payer
  rw [same]
  constructor
  · simp [Instruction.SignedBy]
  · have listed : account ∈ payer :: swapAddresses crates choices poolInfo payer wsolAcc kind := by
      simp [swapAddresses, held]
    rw [namesOnly_singleton]
    simp only [Instruction.keys, List.map_cons, List.map_nil, List.cons_append, List.nil_append,
      List.cons_subset, List.nil_subset, and_true]
    exact ⟨listed, List.mem_cons_self, List.mem_cons_self, run⟩
  · exact List.forall_mem_nil _
  · simp [Instruction.size, length]

theorem adds_closeWsol (assembles : Assembles crates assemble) :
    Adds payer (swapAddresses crates choices poolInfo payer wsolAcc kind)
      [assemble (.closeAccount SplToken.id wsolAcc payer payer)] [] 7 := by
  apply adds_close assembles
  · simp [coreAddresses]
  · simp [swapAddresses, coreAddresses]

/-! ## The size of a submitted swap -/

/-- Whether the pool account is of an older layout. -/
def PoolInfo.isOld (poolInfo : PoolInfo) : Bool := poolInfo.poolAccountDataLen < poolAccountNewSize

theorem adds_extension {extension : Option Ix} (assembles : Assembles crates assemble)
    (extended : maybeExtendPoolIx poolInfo payer = .ok extension) :
    Adds payer (swapAddresses crates choices poolInfo payer wsolAcc kind)
      (extension.toList.map assemble) [] (if poolInfo.isOld then 16 else 0) := by
  unfold maybeExtendPoolIx at extended
  unfold PoolInfo.isOld
  split at extended
  · rename_i old
    obtain ⟨ix, made, returned⟩ := bind_eq_ok_iff.mp extended
    obtain rfl := Except.ok.inj made
    obtain rfl := Except.ok.inj returned
    simp only [decide_eq_true old, if_true, Option.toList_some, List.map_cons, List.map_nil,
      assembles.own]
    constructor
    · simp [Instruction.SignedBy]
    · simp [NamesOnly, Instruction.keys, swapAddresses, coreAddresses]
    · exact List.forall_mem_nil _
    · simp [Instruction.size]
  · rename_i current
    obtain rfl := Except.ok.inj extended
    rw [decide_eq_false current]
    exact Adds.nil

theorem adds_createAta (assembles : Assembles crates assemble) (createAta : Bool) :
    Adds payer (swapAddresses crates choices poolInfo payer wsolAcc kind)
      ((createAtaTokenOrNotWithProgram crates payer poolInfo.tokenMint payer poolInfo.tokenProgram
        createAta).2.toList.map assemble) [] (if createAta then 10 else 0) := by
  cases createAta with
  | false => exact Adds.nil
  | true =>
      obtain ⟨data, length, same⟩ := assembles.createAssociatedTokenAccountIdempotent payer payer
        poolInfo.tokenMint poolInfo.tokenProgram
      simp only [createAtaTokenOrNotWithProgram, if_true, Option.toList_some, List.map_cons,
        List.map_nil, same]
      constructor
      · simp [Instruction.SignedBy]
      · rw [namesOnly_singleton]
        simp only [Instruction.keys, List.map_cons, List.map_nil, List.cons_append,
          List.nil_append, List.cons_subset, List.nil_subset, and_true]
        refine ⟨List.mem_cons_self, ?_, List.mem_cons_self, ?_, ?_,
          tokenProgram_mem_addresses _ _ _ _ _ _, ?_⟩
        all_goals simp [swapAddresses, coreAddresses, tokenAta]
      · exact List.forall_mem_nil _
      · simp [Instruction.size, length]

theorem adds_closing (assembles : Assembles crates assemble) {closeAta : Bool}
    {closing : List Ix}
    (closed : closeAtaIxs crates poolInfo (tokenAta crates poolInfo payer) payer closeAta =
      .ok closing) :
    Adds payer (swapAddresses crates choices poolInfo payer wsolAcc kind)
      (closing.map assemble) [] (if closeAta then 7 else 0) := by
  unfold closeAtaIxs splTokenCloseAccount at closed
  cases closeAta with
  | false =>
      obtain rfl := Except.ok.inj closed
      exact Adds.nil
  | true =>
      simp only [if_true, bind_eq_ok_iff, Except.ok.injEq] at closed
      obtain ⟨_, ⟨_, _, rfl⟩, rfl⟩ := closed
      apply adds_close assembles _ (tokenProgram_mem_addresses _ _ _ _ _ _)
      simp [coreAddresses]

namespace SwapCall

/-- Which way the call swaps: those oriented by the token sell where WSOL is the base. -/
def swapKind (poolInfo : PoolInfo) : SwapCall → SwapKind
  | .buy _ _ _ _ => .buy
  | .buyExactQuoteIn _ _ _ _ => .buy
  | .sell _ _ _ => .sell
  | .tokenBuy _ _ _ _ => if poolInfo.solIsBase then .sell else .buy
  | .tokenSell _ _ _ => if poolInfo.solIsBase then .buy else .sell

/-- What each builder swaps with. -/
theorem build_eq (crates : Crates) (choices : Choices) (poolInfo : PoolInfo) (payer : Pubkey)
    (call : SwapCall) :
    ∃ spent swapIx,
      call.build crates choices poolInfo payer = swapSequence crates choices poolInfo payer spent
        call.createsTokenAccount call.closesTokenAccount swapIx ∧
      ∀ wsolAcc swap, swapIx (userAccounts poolInfo wsolAcc (tokenAta crates poolInfo payer)).1
          (userAccounts poolInfo wsolAcc (tokenAta crates poolInfo payer)).2 = .ok swap →
        ∃ data, data.length = (call.swapKind poolInfo).dataLength ∧
          swap = swapOf crates choices poolInfo payer wsolAcc (call.swapKind poolInfo) data := by
  cases call with
  | buy baseAmountOut maxQuoteAmountIn trackVolume createAta =>
      simp only [build, buildBuyIxs]
      refine ⟨_, _, rfl, ?_⟩
      intro wsolAcc swap made
      exact ⟨_, rfl, (Except.ok.inj made).symm⟩
  | buyExactQuoteIn spendableQuoteIn minBaseAmountOut trackVolume createAta =>
      simp only [build, buildBuyExactQuoteInIxs]
      refine ⟨_, _, rfl, ?_⟩
      intro wsolAcc swap made
      exact ⟨_, rfl, (Except.ok.inj made).symm⟩
  | sell baseAmountIn minQuoteAmountOut closeSplAcc =>
      simp only [build, buildSellIxs]
      refine ⟨_, _, rfl, ?_⟩
      intro wsolAcc swap made
      exact ⟨_, rfl, (Except.ok.inj made).symm⟩
  | tokenBuy solIn minTokensOut trackVolume createAta =>
      simp only [build, buildTokenBuyIxs]
      refine ⟨_, _, rfl, ?_⟩
      intro wsolAcc swap made
      cases oriented : poolInfo.solIsBase with
      | true =>
          simp only [swapKind, oriented, if_true] at made ⊢
          exact ⟨_, rfl, (Except.ok.inj made).symm⟩
      | false =>
          simp only [swapKind, oriented, Bool.false_eq_true, if_false] at made ⊢
          exact ⟨_, rfl, (Except.ok.inj made).symm⟩
  | tokenSell tokensIn minSolOut closeTokenAta =>
      simp only [build, buildTokenSellIxs]
      refine ⟨_, _, rfl, ?_⟩
      intro wsolAcc swap made
      cases oriented : poolInfo.solIsBase with
      | true =>
          simp only [swapKind, oriented, if_true] at made ⊢
          exact ⟨_, rfl, (Except.ok.inj made).symm⟩
      | false =>
          simp only [swapKind, oriented, Bool.false_eq_true, if_false] at made ⊢
          exact ⟨_, rfl, (Except.ok.inj made).symm⟩

/-- The size of a call's submitted transaction. -/
def size (poolInfo : PoolInfo) (call : SwapCall) : ℕ :=
  (match call.swapKind poolInfo with
    | .buy => 1_151 + if poolInfo.isCashbackCoin then 33 else 0
    | .sell => 1_084 + if poolInfo.isCashbackCoin then 66 else 0) +
  (if poolInfo.coinCreator = Pubkey.default then 0 else 33) +
  (if poolInfo.tokenProgram = SplToken.id then 0 else 32) +
  (if poolInfo.isOld then 16 else 0) + (if call.createsTokenAccount then 10 else 0) +
  if call.closesTokenAccount then 7 else 0

theorem size_le (poolInfo : PoolInfo) (call : SwapCall) :
    call.size poolInfo ≤ match call.swapKind poolInfo with | .buy => 1_282 | .sell => 1_248 := by
  unfold size
  cases call.swapKind poolInfo <;> simp only <;> split_ifs <;> omega

end SwapCall

/-- The transaction of a submitted swap. -/
def swapTransaction (assemble : Ix → Instruction) (instructions : List Ix) : List Instruction :=
  (swapBudget ++ instructions).map assemble

/-- The lengths of what a pool adds. -/
theorem length_volumeAddresses (crates : Crates) (payer : Pubkey) (kind : SwapKind) :
    (volumeAddresses crates payer kind).length = match kind with | .buy => 2 | .sell => 0 := by
  cases kind <;> rfl

theorem length_cashbackAddresses (crates : Crates) (poolInfo : PoolInfo) (payer : Pubkey)
    (kind : SwapKind) :
    (cashbackAddresses crates poolInfo payer kind).length =
      if poolInfo.isCashbackCoin then match kind with | .buy => 1 | .sell => 2 else 0 := by
  unfold cashbackAddresses
  cases poolInfo.isCashbackCoin <;> cases kind <;> rfl

theorem length_creatorAddresses (crates : Crates) (poolInfo : PoolInfo) :
    (creatorAddresses crates poolInfo).length =
      if poolInfo.coinCreator = Pubkey.default then 0 else 1 := by
  unfold creatorAddresses
  split <;> rfl

theorem length_programAddresses (poolInfo : PoolInfo) :
    (programAddresses poolInfo).length =
      if poolInfo.tokenProgram = SplToken.id then 0 else 1 := by
  unfold programAddresses
  split <;> rfl

theorem length_swapAddresses :
    (swapAddresses crates choices poolInfo payer wsolAcc kind).length =
      23 + (programAddresses poolInfo).length + (volumeAddresses crates payer kind).length +
        (cashbackAddresses crates poolInfo payer kind).length +
        (creatorAddresses crates poolInfo).length := by
  simp only [swapAddresses, coreAddresses, List.length_append, List.length_cons, List.length_nil]

/-- Everything a submitted swap adds. -/
theorem adds_swapTransaction {call : SwapCall} {instructions : List Ix} {seed : String}
    (assembles : Assembles crates assemble) (sided : WsolSided poolInfo)
    (fresh : genPubkeyWithSeed crates choices payer = .ok (wsolAcc, seed))
    (short : seed.utf8ByteSize = 32)
    (built : call.build crates choices poolInfo payer = .ok instructions) :
    ∃ names added, swapAddresses crates choices poolInfo payer wsolAcc (call.swapKind poolInfo) ⊆
        names ∧
      134 + 32 * (swapAddresses crates choices poolInfo payer wsolAcc
        (call.swapKind poolInfo)).length + added = call.size poolInfo ∧
      (∀ ix ∈ swapTransaction assemble instructions, ix.Short) ∧
      Adds payer (swapAddresses crates choices poolInfo payer wsolAcc (call.swapKind poolInfo))
        (swapTransaction assemble instructions) names added := by
  obtain ⟨spent, swapIx, same, swaps⟩ := call.build_eq crates choices poolInfo payer
  rw [same] at built
  obtain ⟨extension, account, text, lamports, swap, closing, extended, opened, -, swapped, closed,
    rfl⟩ := swapSequence_eq_ok built
  obtain ⟨rfl, rfl⟩ := Prod.mk.inj (Except.ok.inj (fresh.symm.trans opened))
  obtain ⟨data, length, rfl⟩ := swaps _ _ swapped
  have shape : swapTransaction assemble
        (openingIxs crates poolInfo payer call.createsTokenAccount extension wsolAcc seed
            lamports ++
          .own (swapOf crates choices poolInfo payer wsolAcc (call.swapKind poolInfo) data) ::
            .closeAccount SplToken.id wsolAcc payer payer :: closing) =
      [assemble (.setComputeUnitLimit 1_000_000), assemble (.setComputeUnitPrice 100_000)] ++
        (extension.toList.map assemble ++
        ([assemble (.createAccountWithSeed payer wsolAcc payer seed lamports
            (BitVec.ofNat 64 SplToken.accountLen) SplToken.id)] ++
        ([assemble (.initializeAccount SplToken.id wsolAcc wrappedSolMint payer)] ++
        ((createAtaTokenOrNotWithProgram crates payer poolInfo.tokenMint payer
            poolInfo.tokenProgram call.createsTokenAccount).2.toList.map assemble ++
        ([swapOf crates choices poolInfo payer wsolAcc (call.swapKind poolInfo) data] ++
        ([assemble (.closeAccount SplToken.id wsolAcc payer payer)] ++
          closing.map assemble)))))) := by
    simp only [swapTransaction, swapBudget, openingIxs, List.map_append, List.map_cons,
      assembles.own, List.cons_append, List.nil_append, List.append_assoc]
  set all := swapAddresses crates choices poolInfo payer wsolAcc (call.swapKind poolInfo)
  have budget : Adds payer all _ _ 20 :=
    adds_budget assembles 1_000_000 100_000 List.mem_cons_self
  have extends_pool : Adds payer all _ [] _ := adds_extension assembles extended
  have create : Adds payer all _ [] 129 :=
    adds_create assembles lamports (BitVec.ofNat 64 SplToken.accountLen) short
  have opens : Adds payer all _ [rentSysvarId] 8 := adds_opening assembles
  have createAta : Adds payer all _ [] _ := adds_createAta assembles call.createsTokenAccount
  have swap : Adds payer all _ _ _ := adds_swap sided length
  have closeWsol : Adds payer all _ [] 7 := adds_closeWsol assembles
  have close : Adds payer all _ [] _ := adds_closing assembles closed
  have volume := length_volumeAddresses crates payer (call.swapKind poolInfo)
  have cashback := length_cashbackAddresses crates poolInfo payer (call.swapKind poolInfo)
  have creator := length_creatorAddresses crates poolInfo
  have program := length_programAddresses poolInfo
  rw [shape]
  refine ⟨_, _, ?_, ?_, ?_, budget.append (extends_pool.append (create.append (opens.append
    (createAta.append (swap.append (closeWsol.append close))))))⟩
  · simp only [all, swapAddresses, List.nil_append, List.append_nil, List.cons_append,
      List.append_assoc]
    exact List.Subset.refl _
  · rw [length_swapAddresses, SwapCall.size, volume, cashback, creator, program]
    cases call.swapKind poolInfo <;> simp only [SwapKind.dataLength] <;> split_ifs <;> omega
  · simp only [List.forall_mem_append]
    refine ⟨budget.short (by decide), extends_pool.short ?_, create.short (by decide),
      opens.short (by decide), createAta.short ?_, swap.short ?_, closeWsol.short (by decide),
      close.short ?_⟩
    · split <;> decide
    · split <;> decide
    · rw [volume, cashback, creator]
      cases call.swapKind poolInfo <;> simp only [SwapKind.dataLength] <;> split_ifs <;> decide
    · split <;> decide

/-- **The exact size of a submitted swap.** It is at most what its pool and its call add up to, and
exactly that where no address occurs in two roles. -/
theorem swapTransaction_size {call : SwapCall} {instructions : List Ix} {seed : String}
    (assembles : Assembles crates assemble) (sided : WsolSided poolInfo)
    (fresh : genPubkeyWithSeed crates choices payer = .ok (wsolAcc, seed))
    (short : seed.utf8ByteSize = 32)
    (built : call.build crates choices poolInfo payer = .ok instructions) :
    transactionSize payer (swapTransaction assemble instructions) ≤ call.size poolInfo ∧
      ((payer :: swapAddresses crates choices poolInfo payer wsolAcc
          (call.swapKind poolInfo)).Nodup →
        transactionSize payer (swapTransaction assemble instructions) = call.size poolInfo) := by
  obtain ⟨names, added, needed, total, shorts, adds⟩ :=
    adds_swapTransaction assembles sided fresh short built
  have bounded := call.size_le poolInfo
  have small : added < 384 := by
    rw [length_swapAddresses, length_volumeAddresses] at total
    cases kind : call.swapKind poolInfo with
    | buy =>
        simp only [kind] at total bounded
        omega
    | sell =>
        simp only [kind] at total bounded
        omega
  have narrow : (swapAddresses crates choices poolInfo payer wsolAcc
      (call.swapKind poolInfo)).length < 127 := by
    cases kind : call.swapKind poolInfo with
    | buy =>
        simp only [kind] at total bounded
        omega
    | sell =>
        simp only [kind] at total bounded
        omega
  have most := adds.transactionSize_le shorts small narrow
  refine ⟨by omega, fun distinct => ?_⟩
  have least := adds.le_transactionSize needed distinct
  omega

/-! ## The client's trades -/

/-- A base-58 text of an address is at least as long as the address. -/
def Crates.EncodesLong (crates : Crates) : Prop :=
  ∀ bytes : List U8, bytes.length = 32 → 32 ≤ (crates.bs58Encode bytes).toList.length

theorem utf8ByteSize_ofList {chars : List Char} (ascii : ∀ c ∈ chars, c.utf8Size = 1) :
    (String.ofList chars).utf8ByteSize = chars.length := by
  rw [← String.size_toByteArray, String.toByteArray_ofList, List.utf8Encode]
  simp only [List.size_toByteArray, List.length_flatMap, String.length_utf8EncodeChar]
  rw [List.map_congr_left ascii, List.map_const', List.sum_replicate, smul_eq_mul, mul_one]

theorem utf8Size_of_mem_base58Alphabet {c : Char} (member : c ∈ base58Alphabet) :
    c.utf8Size = 1 := by
  have ascii : base58Alphabet.all (fun c => c.toNat ≤ 127) = true := by decide +kernel
  rw [Char.utf8Size, if_pos]
  exact of_decide_eq_true (List.all_eq_true.mp ascii c member)

/-- The seed of a fresh account is of 32 characters. -/
theorem seed_size {seed : String} (documented : crates.Documented) (long : crates.EncodesLong)
    (fresh : genPubkeyWithSeed crates choices payer = .ok (wsolAcc, seed)) :
    seed.utf8ByteSize = 32 := by
  obtain ⟨account, derived, returned⟩ := bind_eq_ok_iff.mp fresh
  obtain ⟨rfl, rfl⟩ := Prod.mk.inj (Except.ok.inj returned)
  rw [utf8ByteSize_ofList]
  · rw [List.length_take, Nat.min_eq_left]
    exact long _ (by simp)
  · intro c member
    exact utf8Size_of_mem_base58Alphabet (documented.encodes _ c (List.mem_of_mem_take member))

/-- A call of one of the methods that submit a swap. -/
inductive SubmittedSwap where
  | buy (amountIn : U64) (poolInfo : PoolInfo)
  | buyExactQuoteIn (spendableQuoteIn minBaseAmountOut : U64) (poolInfo : PoolInfo)
  | sell (amountIn : U64) (poolInfo : PoolInfo)

namespace SubmittedSwap

def submission : SubmittedSwap → Submission
  | .buy amountIn poolInfo => .buy amountIn poolInfo
  | .buyExactQuoteIn spendableQuoteIn minBaseAmountOut poolInfo =>
      .buyExactQuoteIn spendableQuoteIn minBaseAmountOut poolInfo
  | .sell amountIn poolInfo => .sell amountIn poolInfo

/-- The pool it swaps in, as it reads it, and the swap. -/
def plan (crates : Crates) (rpc : Rpc) : SubmittedSwap → Result (PoolInfo × SwapCall)
  | .buy amountIn poolInfo => do
      let (poolInfo, amountOut) ← buyAmountOut crates rpc amountIn poolInfo
      .ok (poolInfo, .buy amountOut amountIn true false)
  | .buyExactQuoteIn spendableQuoteIn minBaseAmountOut poolInfo =>
      .ok (poolInfo, .buyExactQuoteIn spendableQuoteIn minBaseAmountOut true false)
  | .sell amountIn poolInfo => do
      let (poolInfo, amountOut) ← sellAmountOut crates rpc amountIn poolInfo
      .ok (poolInfo, .sell amountIn amountOut true)

/-- Its instructions are the budget and those of its swap. -/
theorem instructions_eq_ok {rpc : Rpc} {swap : SubmittedSwap} {call : SwapCall} {list : List Ix}
    (planned : swap.plan crates rpc = .ok (poolInfo, call))
    (built : swap.submission.instructions crates choices rpc payer = .ok list) :
    ∃ instructions, call.build crates choices poolInfo payer = .ok instructions ∧
      list = swapBudget ++ instructions := by
  cases swap with
  | buy amountIn pool =>
      obtain ⟨⟨current, amountOut⟩, quoted, returned⟩ := bind_eq_ok_iff.mp planned
      obtain ⟨rfl, rfl⟩ := Prod.mk.inj (Except.ok.inj returned)
      simp only [submission, Submission.instructions, PumpSwapSdk.buy, bind_eq_ok_iff,
        Except.ok.injEq] at built
      obtain ⟨read, again, instructions, made, rfl⟩ := built
      obtain rfl := Except.ok.inj (quoted.symm.trans again)
      exact ⟨instructions, made, rfl⟩
  | buyExactQuoteIn spendableQuoteIn minBaseAmountOut pool =>
      obtain ⟨rfl, rfl⟩ := Prod.mk.inj (Except.ok.inj planned)
      simp only [submission, Submission.instructions, PumpSwapSdk.buyExactQuoteIn, bind_eq_ok_iff,
        Except.ok.injEq] at built
      obtain ⟨instructions, made, rfl⟩ := built
      exact ⟨instructions, made, rfl⟩
  | sell amountIn pool =>
      obtain ⟨⟨current, amountOut⟩, quoted, returned⟩ := bind_eq_ok_iff.mp planned
      obtain ⟨rfl, rfl⟩ := Prod.mk.inj (Except.ok.inj returned)
      simp only [submission, Submission.instructions, PumpSwapSdk.sell, bind_eq_ok_iff,
        Except.ok.injEq] at built
      obtain ⟨read, again, instructions, made, rfl⟩ := built
      obtain rfl := Except.ok.inj (quoted.symm.trans again)
      exact ⟨instructions, made, rfl⟩

/-- A pool that leaves no room for a buy: it pays cashback and a coin creator, and its token is
under another program than the classic one or its account of an older layout. -/
def Crowded (poolInfo : PoolInfo) : Prop :=
  poolInfo.isCashbackCoin ∧ poolInfo.coinCreator ≠ Pubkey.default ∧
    (poolInfo.tokenProgram ≠ SplToken.id ∨ poolInfo.isOld)

/-- Whether a swap in a pool fits: a sell always does. -/
def Fits (poolInfo : PoolInfo) : SubmittedSwap → Prop
  | .buy _ _ => ¬ Crowded poolInfo
  | .buyExactQuoteIn _ _ _ => ¬ Crowded poolInfo
  | .sell _ _ => True

end SubmittedSwap

/-- Only an account of the classic program is closed. -/
theorem SwapCall.tokenProgram_of_closes {call : SwapCall} {instructions : List Ix}
    (documented : crates.Documented) (closes : call.closesTokenAccount = true)
    (built : call.build crates choices poolInfo payer = .ok instructions) :
    poolInfo.tokenProgram = SplToken.id := by
  obtain ⟨spent, swapIx, same, -⟩ := call.build_eq crates choices poolInfo payer
  rw [same, closes] at built
  obtain ⟨_, _, _, _, _, closing, -, -, -, -, closed, -⟩ := swapSequence_eq_ok built
  by_contra other
  obtain ⟨message, refused⟩ := documented.refuses _ other
  simp [closeAtaIxs, splTokenCloseAccount, refused, bind_eq_ok_iff] at closed

/-- A sell fits if its token account is of the classic program. -/
theorem SwapCall.size_le_of_closed {call : SwapCall} (sells : call.swapKind poolInfo = .sell)
    (creates : call.createsTokenAccount = false) (classic : poolInfo.tokenProgram = SplToken.id) :
    call.size poolInfo ≤ packetDataSize := by
  unfold size packetDataSize
  simp only [sells, creates, classic, if_true, Bool.false_eq_true, if_false]
  split_ifs <;> decide

/-- A buy into an account that exists fits exactly where its pool is not crowded. -/
theorem SwapCall.size_le_iff {call : SwapCall} (buys : call.swapKind poolInfo = .buy)
    (creates : call.createsTokenAccount = false) (closes : call.closesTokenAccount = false) :
    call.size poolInfo ≤ packetDataSize ↔ ¬ SubmittedSwap.Crowded poolInfo := by
  unfold size packetDataSize SubmittedSwap.Crowded
  simp only [buys, creates, closes, Bool.false_eq_true, if_false]
  cases poolInfo.isCashbackCoin <;> cases poolInfo.isOld <;>
    by_cases creator : poolInfo.coinCreator = Pubkey.default <;>
    by_cases classic : poolInfo.tokenProgram = SplToken.id <;> simp [creator, classic]

/-- **Which submitted swaps fit.** A sell always fits into a transaction, and a buy does unless its
pool is crowded; where no address occurs in two roles, it does only then. -/
theorem submitted_swap_fits_iff (crates : Crates) (choices : Choices) (rpc : Rpc)
    (payer wsolAcc : Pubkey) (seed : String) (assemble : Ix → Instruction) (swap : SubmittedSwap)
    (poolInfo : PoolInfo) (call : SwapCall) (list : List Ix)
    (assembles : Assembles crates assemble) (documented : crates.Documented)
    (long : crates.EncodesLong) (sided : WsolSided poolInfo)
    (planned : swap.plan crates rpc = .ok (poolInfo, call))
    (fresh : genPubkeyWithSeed crates choices payer = .ok (wsolAcc, seed))
    (built : swap.submission.instructions crates choices rpc payer = .ok list) :
    (swap.Fits poolInfo → transactionSize payer (list.map assemble) ≤ packetDataSize) ∧
    ((payer :: swapAddresses crates choices poolInfo payer wsolAcc
        (call.swapKind poolInfo)).Nodup →
      (transactionSize payer (list.map assemble) ≤ packetDataSize ↔ swap.Fits poolInfo)) := by
  obtain ⟨instructions, made, rfl⟩ := SubmittedSwap.instructions_eq_ok planned built
  obtain ⟨most, exactly⟩ := swapTransaction_size assembles sided fresh
    (seed_size documented long fresh) made
  rw [swapTransaction] at most exactly
  have limit : call.size poolInfo ≤ packetDataSize ↔ swap.Fits poolInfo := by
    cases swap with
    | buy amountIn pool =>
        obtain ⟨_, _, returned⟩ := bind_eq_ok_iff.mp planned
        obtain ⟨rfl, rfl⟩ := Prod.mk.inj (Except.ok.inj returned)
        exact SwapCall.size_le_iff rfl rfl rfl
    | buyExactQuoteIn spendableQuoteIn minBaseAmountOut pool =>
        obtain ⟨rfl, rfl⟩ := Prod.mk.inj (Except.ok.inj planned)
        exact SwapCall.size_le_iff rfl rfl rfl
    | sell amountIn pool =>
        obtain ⟨_, _, returned⟩ := bind_eq_ok_iff.mp planned
        obtain ⟨rfl, rfl⟩ := Prod.mk.inj (Except.ok.inj returned)
        have classic := SwapCall.tokenProgram_of_closes documented rfl made
        exact iff_of_true (SwapCall.size_le_of_closed rfl rfl classic) trivial
  constructor
  · intro fits
    exact most.trans (limit.mpr fits)
  · intro distinct
    rw [exactly distinct, limit]

namespace Recorded

/-- An address that is read off the bytes it is derived from. -/
def mixed (inputs : List (List U8)) : Pubkey :=
  Pubkey.ofNat (inputs.flatten.foldl (fun n byte => (n * 65_537 + byte.toNat + 1) % 2 ^ 256) 1)

/-- Derivations that tell the addresses of a swap apart. -/
def mixingCrates : Crates :=
  { Recorded.seededCrates true with
    findProgramAddress := fun seeds program => (mixed (program.bytes :: seeds), 255)
    getAssociatedTokenAddressWithProgramId := fun owner mint tokenProgram =>
      mixed [owner.bytes, mint.bytes, tokenProgram.bytes]
    createWithSeed := fun _ _ _ => .ok (repeated 20) }

/-- A cashback pool with a coin creator, whose account is of an older layout. -/
def crowdedCashbackPool : PoolInfo :=
  { oldPool with
    pool := repeated 21
    baseMint := repeated 22
    poolBaseTokenAccount := repeated 23
    poolQuoteTokenAccount := repeated 24
    coinCreator := repeated 25
    isCashbackCoin := true }

end Recorded

/-- A buy in the crowded pool does not fit. -/
theorem submitted_swap_fits_iff_recorded :
    ∃ list, (SubmittedSwap.buyExactQuoteIn 5 1 Recorded.crowdedCashbackPool).submission.instructions
        Recorded.mixingCrates Recorded.firstChoices (Recorded.node none none)
        (Recorded.repeated 26) = .ok list ∧
      ¬ transactionSize (Recorded.repeated 26)
        (list.map (assembled Recorded.mixingCrates)) ≤ packetDataSize := by
  have documented : Recorded.mixingCrates.Documented := by
    obtain ⟨encodes, -, accepts, refuses⟩ := Recorded.seededCrates_documented true
    have checks : Recorded.mixingCrates.checkProgramAccount =
        (Recorded.seededCrates true).checkProgramAccount := rfl
    refine ⟨encodes, ?_, ?_, ?_⟩
    · intro base seed _ _
      exact ⟨Recorded.repeated 20, by simp only [Recorded.mixingCrates]⟩
    · rw [checks, accepts]
    · rw [checks]
      exact refuses
  have long : Recorded.mixingCrates.EncodesLong := by
    intro bytes length
    simp [Recorded.mixingCrates, Recorded.seededCrates, length]
  have sided : WsolSided Recorded.crowdedCashbackPool :=
    Or.inr ⟨by decide +kernel, rfl, rfl⟩
  obtain ⟨list, built⟩ := isOk_iff.mp (show ((SubmittedSwap.buyExactQuoteIn 5 1
    Recorded.crowdedCashbackPool).submission.instructions Recorded.mixingCrates
    Recorded.firstChoices (Recorded.node none none) (Recorded.repeated 26)).isOk by
    decide +kernel)
  refine ⟨list, built, ?_⟩
  obtain ⟨wsolAcc, seed, fresh⟩ := documented.fresh Recorded.firstChoices (Recorded.repeated 26)
  obtain rfl : Recorded.repeated 20 = wsolAcc := by
    simp only [genPubkeyWithSeed, Recorded.mixingCrates, bind_eq_ok_iff, Except.ok.injEq] at fresh
    obtain ⟨_, rfl, same⟩ := fresh
    exact (Prod.mk.inj same).1
  rw [(submitted_swap_fits_iff _ _ _ _ _ _ _ _ _ _ _ (assembled_assembles _) documented long sided
    rfl fresh built).2 (by decide +kernel)]
  exact fun roomy => roomy ⟨rfl, by decide +kernel, Or.inr (by decide +kernel)⟩

end PumpSwapSdk
