import PumpSwapSdk.Client.Settlement
import PumpSwapSdk.Client.SwapLedger

/-!
# What the swap builders swap

Each of the five builders funds the WSOL account with what its swap spends of WSOL, and its swap
instruction spends the side of the pool that the call spends. On a chain of which the documentation
holds, what pump-amm fills is within the terms of the call, on the user's accounts and on the ledger
of token accounts alike (`SwapCall.build_eq_traded`).
-/

set_option autoImplicit false

namespace PumpSwapSdk

variable {crates : Crates} {choices : Choices} {chain : Chain} {poolInfo : PoolInfo}
variable {payer wsolAcc ata : Pubkey} {call : SwapCall}

/-! ## The sides of a pool -/

/-- The user's accounts of a swap that spends one side of a pool, spent first: the WSOL account
stands on the SOL side. -/
def PoolInfo.legs (pool : PoolInfo) (wsolAcc ata : Pubkey) (spentSide : TokenSide) : Leg × Leg :=
  if spentSide = pool.wsolSide then (⟨wsolAcc, wrappedSolMint⟩, ⟨ata, pool.tokenMint⟩)
  else (⟨ata, pool.tokenMint⟩, ⟨wsolAcc, wrappedSolMint⟩)

/-- They are the accounts that the builders name for the base and the quote mint. -/
theorem legs_eq (sided : poolInfo.OneSided) (wsolAcc ata : Pubkey) (spentSide : TokenSide) :
    poolInfo.legs wsolAcc ata spentSide =
      let base : Leg := ⟨(userAccounts poolInfo wsolAcc ata).1, poolInfo.baseMint⟩
      let quote : Leg := ⟨(userAccounts poolInfo wsolAcc ata).2, poolInfo.quoteMint⟩
      match spentSide with
      | .base => (base, quote)
      | .quote => (quote, base) := by
  have quote := sided.quoteMint_eq_iff
  cases oriented : poolInfo.solIsBase with
  | true =>
      have base : poolInfo.baseMint = wrappedSolMint := of_decide_eq_true oriented
      cases spentSide with
      | base => simp [PoolInfo.legs, poolInfo.wsolSide_eq, userAccounts, PoolInfo.tokenMint,
          PoolInfo.tokenSide, oriented, base]
      | quote => simp [PoolInfo.legs, poolInfo.wsolSide_eq, userAccounts, PoolInfo.tokenMint,
          PoolInfo.tokenSide, oriented, base]
  | false =>
      have quote_is := quote.mpr oriented
      cases spentSide with
      | base => simp [PoolInfo.legs, poolInfo.wsolSide_eq, userAccounts, PoolInfo.tokenMint,
          PoolInfo.tokenSide, oriented, quote_is]
      | quote => simp [PoolInfo.legs, poolInfo.wsolSide_eq, userAccounts, PoolInfo.tokenMint,
          PoolInfo.tokenSide, oriented, quote_is]

/-- What is spent of WSOL by a swap that spends the quote. -/
theorem spent_quote (poolInfo : PoolInfo) (amount : U64) :
    (if TokenSide.quote = poolInfo.wsolSide then some amount else none) =
      if poolInfo.solIsBase then none else some amount := by
  rw [poolInfo.wsolSide_eq]
  cases poolInfo.solIsBase with
  | true => rfl
  | false => rfl

/-- What is spent of WSOL by a swap that spends the base. -/
theorem spent_base (poolInfo : PoolInfo) (amount : U64) :
    (if TokenSide.base = poolInfo.wsolSide then some amount else none) =
      if poolInfo.solIsBase then some amount else none := by
  rw [poolInfo.wsolSide_eq]
  cases poolInfo.solIsBase with
  | true => rfl
  | false => rfl

/-! ## Instructions -/

/-- The amount of a swap that the pool prices: what a `buy` costs, and what the others yield. -/
def SwapCall.priced (fill : Fill) : SwapCall → U64
  | .buy _ _ _ _ => fill.spent
  | _ => fill.received

/-- What the instruction of a call trades on a chain: one side of a pool, within the terms of the
call, and on the ledger of token accounts too. -/
structure TradesFor (crates : Crates) (chain : Chain) (pool : PoolInfo) (payer wsolAcc ata : Pubkey)
    (call : SwapCall) (spentSide : TokenSide) (ix : Instruction) : Prop where
  isSwap : ix.isSwap
  executes : ∀ bank, chain.execute bank (.own ix) = (chain.swap ix).bind fun fill =>
    fill.apply payer (pool.legs wsolAcc ata spentSide).1 (pool.legs wsolAcc ata spentSide).2 bank
  allows : ∀ fill, chain.swap ix = some fill → call.Allows pool fill
  follows : ∀ fill, chain.swap ix = some fill →
    FollowsLedger crates chain payer (call.priced fill) (.own ix)

section Instructions

variable {ix : Instruction} {first second : U64} {trackVolume : Bool}
variable (documented : chain.Documented crates) (sided : poolInfo.OneSided)

include documented sided

theorem trades_buy {createAta : Bool}
    (built : makeBuyInstruction crates choices first second trackVolume poolInfo payer
      (userAccounts poolInfo wsolAcc ata).1 (userAccounts poolInfo wsolAcc ata).2 = .ok ix) :
    TradesFor crates chain poolInfo payer wsolAcc ata (.buy first second trackVolume createAta)
      .quote ix where
  isSwap := (swapsThrough_buy built).isSwap
  executes := by
    intro bank
    rw [documented.buys _ _ _ _ _ _ _ (swapOver_buy built), legs_eq sided]
  allows := by
    intro fill filled
    obtain ⟨bounded, all⟩ := documented.buy_terms _ _ _ _ _ _ (swapOver_buy built) fill filled
    exact ⟨bounded, BitVec.le_of_eq all.symm, Bool.noConfusion⟩
  follows := by
    intro fill filled
    exact follows_buy documented (swapsThrough_buy built).isSwap filled (swapOver_buy built)

theorem trades_buyExactQuoteIn
    (built : makeBuyExactQuoteInInstruction crates choices first second trackVolume poolInfo payer
      (userAccounts poolInfo wsolAcc ata).1 (userAccounts poolInfo wsolAcc ata).2 = .ok ix)
    (stated : call.spentAmount = first) (least : call.minReceived = second)
    (priced : ∀ fill, call.priced fill = fill.received) :
    TradesFor crates chain poolInfo payer wsolAcc ata call .quote ix where
  isSwap := (swapsThrough_buyExactQuoteIn built).isSwap
  executes := by
    intro bank
    rw [documented.buys_exact_quote_in _ _ _ _ _ _ _ (swapOver_buyExactQuoteIn built),
      legs_eq sided]
  allows := by
    intro fill filled
    obtain ⟨positive, spent, received⟩ :=
      documented.buy_exact_quote_in_terms _ _ _ _ _ _ (swapOver_buyExactQuoteIn built) fill filled
    subst stated least
    exact ⟨BitVec.le_of_eq spent, received, fun _ => positive⟩
  follows := by
    intro fill filled
    rw [priced]
    exact follows_buyExactQuoteIn documented (swapsThrough_buyExactQuoteIn built).isSwap filled
      (swapOver_buyExactQuoteIn built)

theorem trades_sell
    (built : makeSellInstruction crates choices first second poolInfo payer
      (userAccounts poolInfo wsolAcc ata).1 (userAccounts poolInfo wsolAcc ata).2 = .ok ix)
    (stated : call.spentAmount = first) (least : call.minReceived = second)
    (priced : ∀ fill, call.priced fill = fill.received)
    (free : call.needsMinimum poolInfo = false) :
    TradesFor crates chain poolInfo payer wsolAcc ata call .base ix where
  isSwap := (swapsThrough_sell built).isSwap
  executes := by
    intro bank
    rw [documented.sells _ _ _ _ _ _ _ (swapOver_sell built), legs_eq sided]
  allows := by
    intro fill filled
    obtain ⟨spent, received⟩ :=
      documented.sell_terms _ _ _ _ _ _ (swapOver_sell built) fill filled
    subst stated least
    exact ⟨BitVec.le_of_eq spent, received, by simp [free]⟩
  follows := by
    intro fill filled
    rw [priced]
    exact follows_sell documented (swapsThrough_sell built).isSwap filled (swapOver_sell built)

end Instructions

/-! ## Builders -/

/-- **What each builder swaps.** It funds the WSOL account with what it spends of WSOL, and its
swap spends the side that the call spends. -/
theorem SwapCall.build_eq_traded (documented : chain.Documented crates) (choices : Choices)
    (payer : Pubkey) (call : SwapCall) (sided : poolInfo.OneSided) :
    ∃ swapIx,
      call.build crates choices poolInfo payer = swapSequence crates choices poolInfo payer
        (if call.spentSide poolInfo = poolInfo.wsolSide then some call.spentAmount else none)
        call.createsTokenAccount call.closesTokenAccount swapIx ∧
      ∀ wsolAcc ata ix, swapIx (userAccounts poolInfo wsolAcc ata).1
          (userAccounts poolInfo wsolAcc ata).2 = .ok ix →
        TradesFor crates chain poolInfo payer wsolAcc ata call (call.spentSide poolInfo) ix := by
  have side := poolInfo.wsolSide_eq
  have other : poolInfo.tokenSide = if poolInfo.solIsBase then .quote else .base := rfl
  cases call with
  | buy baseAmountOut maxQuoteAmountIn trackVolume createAta =>
      rw [build, buildBuyIxs, spentSide, spent_quote]
      exact ⟨_, rfl, fun wsolAcc ata ix built => trades_buy documented sided built⟩
  | buyExactQuoteIn spendableQuoteIn minBaseAmountOut trackVolume createAta =>
      rw [build, buildBuyExactQuoteInIxs, spentSide, spent_quote]
      exact ⟨_, rfl, fun wsolAcc ata ix built =>
        trades_buyExactQuoteIn documented sided built rfl rfl fun _ => rfl⟩
  | sell baseAmountIn minQuoteAmountOut closeSplAcc =>
      rw [build, buildSellIxs, spentSide, spent_base]
      exact ⟨_, rfl, fun wsolAcc ata ix built =>
        trades_sell documented sided built rfl rfl (fun _ => rfl) rfl⟩
  | tokenBuy solIn minTokensOut trackVolume createAta =>
      rw [build, buildTokenBuyIxs, spentSide, if_pos rfl]
      refine ⟨_, rfl, ?_⟩
      intro wsolAcc ata ix built
      cases oriented : poolInfo.solIsBase with
      | true =>
          simp only [oriented, if_true] at built side
          rw [side]
          exact trades_sell documented sided built rfl rfl (fun _ => rfl)
            (by simp [needsMinimum, oriented])
      | false =>
          simp only [oriented, Bool.false_eq_true, if_false] at built side
          rw [side]
          exact trades_buyExactQuoteIn documented sided built rfl rfl fun _ => rfl
  | tokenSell tokensIn minSolOut closeTokenAta =>
      rw [build, buildTokenSellIxs, spentSide, if_neg poolInfo.tokenSide_ne_wsolSide]
      refine ⟨_, rfl, ?_⟩
      intro wsolAcc ata ix built
      cases oriented : poolInfo.solIsBase with
      | true =>
          simp only [oriented, if_true] at built other
          rw [other]
          exact trades_buyExactQuoteIn documented sided built rfl rfl fun _ => rfl
      | false =>
          simp only [oriented, Bool.false_eq_true, if_false] at built other
          rw [other]
          exact trades_sell documented sided built rfl rfl (fun _ => rfl)
            (by simp [needsMinimum, oriented])

/-! ## What a built sequence tells -/

theorem eq_ok_of_toOption {α : Type} {result : Result α} {a : α}
    (returned : result.toOption = some a) : result = .ok a := by
  cases result with
  | error fault => cases returned
  | ok b => exact congrArg Except.ok (Option.some.inj returned)

/-- The fresh account is that of its seed. -/
theorem createWithSeed_of_fresh {seed : String}
    (fresh : genPubkeyWithSeed crates choices payer = .ok (wsolAcc, seed)) :
    crates.createWithSeed payer seed SplToken.id = .ok wsolAcc := by
  simp only [genPubkeyWithSeed, bind_eq_ok_iff, Except.ok.injEq, Prod.mk.injEq] at fresh
  obtain ⟨_, derived, rfl, rfl⟩ := fresh
  exact derived

/-- The token crate serves the classic program. -/
theorem served_of_sequence {spent : Option U64} {createAta closeAta : Bool}
    {swapIx : Pubkey → Pubkey → Result Instruction} {instructions : List Ix}
    (built : swapSequence crates choices poolInfo payer spent createAta closeAta swapIx =
      .ok instructions) : crates.checkProgramAccount SplToken.id = .ok () := by
  simp only [swapSequence, initializeAccount, bind_eq_ok_iff] at built
  obtain ⟨_, -, _, -, _, -, _, ⟨_, served, -⟩, -⟩ := built
  exact served

end PumpSwapSdk
