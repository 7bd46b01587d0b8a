import PumpSwapSdk.Client.Swap
import PumpSwapSdk.State.Format

/-!
# Creator fee payouts

A fee-sharing coin is paid out by one transaction: sweeps of the fees that wait on the coin's
curve and in its pool, a transfer from pump-amm's creator vault to pump.fun's, and a
distribution to the shareholders. A coin with a single creator collects its fees directly.
-/

set_option autoImplicit false

namespace PumpSwapSdk

variable (crates : Crates) (rpc : Rpc)

/-! ## Sweeps -/

/-- What the curve read says is waiting; an absent account has nothing waiting. -/
def curveFee (curve : Option Account) : Result U64 :=
  match curve with
  | some account => bondingCurveCreatorFee account.data
  | none => .ok 0

/-- The sweep of a coin's curve, left out for a graduated coin with nothing waiting there. -/
def curveSweepIxs (payer tokenMint quoteMint quoteTokenProgram : Pubkey)
    (graduatedPool : Option Account) (curveFee : U64) : Result (List Instruction) :=
  if graduatedPool.isNone ∨ 0 < curveFee then do
    let ix ← sweepBondingCurveCreatorFeeInstruction crates payer tokenMint
      (sharingConfigPda crates tokenMint) quoteMint quoteTokenProgram
    .ok [ix]
  else .ok []

/-- The sweep of a graduated coin's pool. -/
def poolSweepIxs (payer pool quoteTokenProgram : Pubkey) (graduatedPool : Option Account) :
    Result (List Instruction) :=
  match graduatedPool with
  | some account => do
      let pool ← PoolInfo.fromAccountData pool account.data quoteTokenProgram quoteTokenProgram
      let ix ← sweepPoolCreatorFeeInstruction crates payer pool
      .ok [ix]
  | none => .ok []

/-- The sweeps of a coin's waiting fees. -/
def buildCreatorFeeSweepIxs (payer tokenMint quoteMint quoteTokenProgram : Pubkey) :
    Result (List Instruction) := do
  let pool := canonicalPoolPda crates tokenMint quoteMint
  let accounts ← rpc.getMultipleAccounts [bondingCurvePda crates tokenMint, pool]
  let fee ← curveFee (← accountAt accounts 0)
  let graduatedPool ← accountAt accounts 1
  let curveSweep ← curveSweepIxs crates payer tokenMint quoteMint quoteTokenProgram
    graduatedPool fee
  let poolSweep ← poolSweepIxs crates payer pool quoteTokenProgram graduatedPool
  .ok (curveSweep ++ poolSweep)

/-! ## Payouts -/

/-- A config's status as `{:?}` shows it. -/
def ConfigStatus.debug : ConfigStatus → String
  | .paused => "Paused"
  | .active => "Active"

/-- The shareholders of a coin, in stored order, if it has an active sharing config. -/
def activeShareholders (tokenMint : Pubkey) : Result (List Pubkey) := do
  let key := crates.display tokenMint
  match ← fetchSharingConfig crates rpc tokenMint with
  | none =>
      let configKey := crates.display (sharingConfigPda crates tokenMint)
      bail (s!"{key} has no SharingConfig at {configKey}; its creator fees are not split, " ++
        "collect them with build_collect_pool_creator_fee_ixs")
  | some config =>
      if !config.isActive then
        let status := config.status.debug
        bail s!"SharingConfig for {key} is {status}; pump.fun rejects a payout from it"
      else .ok (config.shareholders.map Shareholder.address)

/-- The WSOL payout of a fee-sharing coin. -/
def buildCreatorFeeWithdrawIxs (payer tokenMint : Pubkey) : Result (List Instruction) := do
  let shareholders ← activeShareholders crates rpc tokenMint
  let sweeps ← buildCreatorFeeSweepIxs crates rpc payer tokenMint wrappedSolMint SplToken.id
  let transfer ← transferCreatorFeesToPumpInstruction crates (sharingConfigPda crates tokenMint)
  let distribute ← distributeCreatorFeesInstruction crates tokenMint shareholders
  .ok (sweeps ++ [transfer, distribute])

/-- The payout of a coin quoted in anything. -/
def buildCreatorFeeWithdrawIxsV2 (payer tokenMint quoteMint quoteTokenProgram : Pubkey)
    (initializeShareholderAtas : Bool) : Result (List Instruction) := do
  let shareholders ← activeShareholders crates rpc tokenMint
  let sweeps ← buildCreatorFeeSweepIxs crates rpc payer tokenMint quoteMint quoteTokenProgram
  let transfer ← transferCreatorFeesToPumpV2Instruction crates payer
    (sharingConfigPda crates tokenMint) quoteMint quoteTokenProgram
  let distribute ← distributeCreatorFeesV2Instruction crates payer tokenMint quoteMint
    quoteTokenProgram initializeShareholderAtas shareholders
  .ok (sweeps ++ [transfer, distribute])

/-- Submits the WSOL payout of a fee-sharing coin. -/
def withdrawCreatorFees (admin tokenMint : Pubkey) : Result (List Ix) := do
  let instructions ← buildCreatorFeeWithdrawIxs crates rpc admin tokenMint
  .ok ([.setComputeUnitLimit 500_000, .setComputeUnitPrice 50_000] ++ instructions.map .own)

/-! ## Collections -/

/-- Collects what is in a creator's vault. -/
def buildCollectCoinCreatorFeeIxs (coinCreator payer quoteMint quoteTokenProgram : Pubkey)
    (createCoinCreatorAta : Bool) : Result (List Ix) := do
  let coinCreatorTokenAccount := crates.getAssociatedTokenAddressWithProgramId coinCreator
    quoteMint quoteTokenProgram
  let creation : List Ix :=
    if createCoinCreatorAta then
      [.createAssociatedTokenAccountIdempotent payer coinCreator quoteMint quoteTokenProgram]
    else []
  let collect ← makeCollectCoinCreatorFeeInstruction crates coinCreator quoteMint
    quoteTokenProgram coinCreatorTokenAccount
  .ok (creation ++ [.own collect])

/-- Collects a pool's creator fees, after a sweep of what waits there. A pool that pays a split is
refused. -/
def buildCollectPoolCreatorFeeIxs (pool : PoolInfo) (payer : Pubkey)
    (createCoinCreatorAta : Bool) : Result (List Ix) :=
  if (pool.feeSharingConfig crates).isSome then
    let key := crates.display pool.pool
    bail (s!"pool {key} pays creator fees through a SharingConfig, which pump-amm rejects " ++
      "here; use build_creator_fee_withdraw_ixs")
  else do
    let sweep ← sweepPoolCreatorFeeInstruction crates payer pool
    let collection ← buildCollectCoinCreatorFeeIxs crates pool.coinCreator payer pool.quoteMint
      pool.quoteTokenProgram createCoinCreatorAta
    .ok (.own sweep :: collection)

/-! ## What the builders return -/

variable {crates rpc}

theorem accountAt_eq_ok {accounts : List (Option Account)} {index : ℕ} {found : Option Account}
    (present : accountAt accounts index = .ok found) : accounts[index]? = some found := by
  unfold accountAt at present
  split at present
  · rename_i account here
    rw [here, Except.ok.inj present]
  · cases present

/-- A curve sweep is built unless the pool was read and no fee was, and a pool sweep exactly
when the pool was read. -/
theorem buildCreatorFeeSweepIxs_eq_ok
    {payer tokenMint quoteMint quoteTokenProgram : Pubkey} {sweeps : List Instruction}
    (built : buildCreatorFeeSweepIxs crates rpc payer tokenMint quoteMint quoteTokenProgram =
      .ok sweeps) :
    ∃ accounts curve graduatedPool fee curveSweep poolSweep,
      rpc.getMultipleAccounts
          [bondingCurvePda crates tokenMint, canonicalPoolPda crates tokenMint quoteMint] =
        .ok accounts ∧
      accounts[0]? = some curve ∧ accounts[1]? = some graduatedPool ∧ curveFee curve = .ok fee ∧
      (graduatedPool.isSome ∧ fee = 0 ∧ curveSweep = [] ∨
        ∃ ix, sweepBondingCurveCreatorFeeInstruction crates payer tokenMint
            (sharingConfigPda crates tokenMint) quoteMint quoteTokenProgram = .ok ix ∧
          curveSweep = [ix]) ∧
      (graduatedPool = none ∧ poolSweep = [] ∨
        ∃ account pool ix, graduatedPool = some account ∧
          PoolInfo.fromAccountData (canonicalPoolPda crates tokenMint quoteMint) account.data
            quoteTokenProgram quoteTokenProgram = .ok pool ∧
          sweepPoolCreatorFeeInstruction crates payer pool = .ok ix ∧ poolSweep = [ix]) ∧
      sweeps = curveSweep ++ poolSweep := by
  obtain ⟨accounts, answered, built⟩ := bind_eq_ok_iff.mp built
  obtain ⟨curve, first, built⟩ := bind_eq_ok_iff.mp built
  obtain ⟨fee, read, built⟩ := bind_eq_ok_iff.mp built
  obtain ⟨graduatedPool, second, built⟩ := bind_eq_ok_iff.mp built
  obtain ⟨curveSweep, curve_built, built⟩ := bind_eq_ok_iff.mp built
  obtain ⟨poolSweep, pool_built, built⟩ := bind_eq_ok_iff.mp built
  refine ⟨accounts, curve, graduatedPool, fee, curveSweep, poolSweep, answered,
    accountAt_eq_ok first, accountAt_eq_ok second, read, ?_, ?_, (Except.ok.inj built).symm⟩
  · unfold curveSweepIxs at curve_built
    split at curve_built
    · obtain ⟨ix, swept, listed⟩ := bind_eq_ok_iff.mp curve_built
      exact .inr ⟨ix, swept, (Except.ok.inj listed).symm⟩
    · rename_i skipped
      obtain ⟨graduated, no_fee⟩ := not_or.mp skipped
      refine .inl ⟨Option.isSome_iff_ne_none.mpr (by simpa using graduated), ?_,
        (Except.ok.inj curve_built).symm⟩
      exact BitVec.le_zero_iff.mp (BitVec.not_lt.mp no_fee)
  · cases graduatedPool with
    | none => exact .inl ⟨rfl, (Except.ok.inj pool_built).symm⟩
    | some account =>
        obtain ⟨pool, decoded, pool_built⟩ := bind_eq_ok_iff.mp pool_built
        obtain ⟨ix, swept, listed⟩ := bind_eq_ok_iff.mp pool_built
        exact .inr ⟨account, pool, ix, rfl, decoded, swept, (Except.ok.inj listed).symm⟩

theorem buildCreatorFeeWithdrawIxs_eq_ok {payer tokenMint : Pubkey} {list : List Instruction}
    (built : buildCreatorFeeWithdrawIxs crates rpc payer tokenMint = .ok list) :
    ∃ shareholders sweeps transfer distribute,
      activeShareholders crates rpc tokenMint = .ok shareholders ∧
      buildCreatorFeeSweepIxs crates rpc payer tokenMint wrappedSolMint SplToken.id =
        .ok sweeps ∧
      transferCreatorFeesToPumpInstruction crates (sharingConfigPda crates tokenMint) =
        .ok transfer ∧
      distributeCreatorFeesInstruction crates tokenMint shareholders = .ok distribute ∧
      list = sweeps ++ [transfer, distribute] := by
  obtain ⟨shareholders, active, built⟩ := bind_eq_ok_iff.mp built
  obtain ⟨sweeps, swept, built⟩ := bind_eq_ok_iff.mp built
  obtain ⟨transfer, transferred, built⟩ := bind_eq_ok_iff.mp built
  obtain ⟨distribute, distributed, built⟩ := bind_eq_ok_iff.mp built
  exact ⟨shareholders, sweeps, transfer, distribute, active, swept, transferred, distributed,
    (Except.ok.inj built).symm⟩

theorem buildCreatorFeeWithdrawIxsV2_eq_ok
    {payer tokenMint quoteMint quoteTokenProgram : Pubkey} {initializeShareholderAtas : Bool}
    {list : List Instruction}
    (built : buildCreatorFeeWithdrawIxsV2 crates rpc payer tokenMint quoteMint quoteTokenProgram
      initializeShareholderAtas = .ok list) :
    ∃ shareholders sweeps transfer distribute,
      activeShareholders crates rpc tokenMint = .ok shareholders ∧
      buildCreatorFeeSweepIxs crates rpc payer tokenMint quoteMint quoteTokenProgram =
        .ok sweeps ∧
      transferCreatorFeesToPumpV2Instruction crates payer (sharingConfigPda crates tokenMint)
        quoteMint quoteTokenProgram = .ok transfer ∧
      distributeCreatorFeesV2Instruction crates payer tokenMint quoteMint quoteTokenProgram
        initializeShareholderAtas shareholders = .ok distribute ∧
      list = sweeps ++ [transfer, distribute] := by
  obtain ⟨shareholders, active, built⟩ := bind_eq_ok_iff.mp built
  obtain ⟨sweeps, swept, built⟩ := bind_eq_ok_iff.mp built
  obtain ⟨transfer, transferred, built⟩ := bind_eq_ok_iff.mp built
  obtain ⟨distribute, distributed, built⟩ := bind_eq_ok_iff.mp built
  exact ⟨shareholders, sweeps, transfer, distribute, active, swept, transferred, distributed,
    (Except.ok.inj built).symm⟩

/-! ## The recorded coin's chain -/

namespace Recorded

/-- An active split with one shareholder. -/
def config : SharingConfig where
  bump := 253
  version := 1
  status := .active
  mint := mint
  admin := shareholder
  adminRevoked := true
  shareholders := [⟨shareholder, 10_000⟩]

/-- A pool account of the coin, quoted in WSOL, with a given coin creator. -/
def poolAccount (coinCreator : Pubkey) : Account where
  data := List.replicate 11 0 ++ poolAuthority.bytes ++ mint.bytes ++ wrappedSolMint.bytes ++
    List.replicate 104 0 ++ coinCreator.bytes ++ [0, 0]
  owner := pumpSwapProgramId

/-- A node that knows the coin's sharing config, and what is given of its curve and pool. -/
def node (curve graduatedPool : Option Account) : Rpc where
  getAccountData := fun _ => bail "AccountNotFound"
  getMultipleAccounts := fun keys =>
    if keys = [bondingCurve, pool] then .ok [curve, graduatedPool]
    else .ok (keys.map fun _ => none)
  getAccountWithCommitment := fun key =>
    if key = sharingConfig then .ok (some ⟨config.encode, feeProgram⟩) else .ok none
  getTokenAccountBalance := fun _ => bail "could not find account"

end Recorded

/-- The node answers for the coin's curve and pool with what it was given. -/
theorem Recorded.node_answers (curve graduatedPool : Option Account) :
    (Recorded.node curve graduatedPool).getMultipleAccounts
        [bondingCurvePda Recorded.crates Recorded.mint,
          canonicalPoolPda Recorded.crates Recorded.mint wrappedSolMint] =
      .ok [curve, graduatedPool] := by
  have keys : [bondingCurvePda Recorded.crates Recorded.mint,
      canonicalPoolPda Recorded.crates Recorded.mint wrappedSolMint] =
      [Recorded.bondingCurve, Recorded.pool] := by decide +kernel
  rw [keys]
  simp only [Recorded.node, if_true]

/-- The split's payout is built for a pool that pays it. -/
theorem Recorded.builds :
    ∃ list, buildCreatorFeeWithdrawIxs Recorded.crates
      (Recorded.node none (some (Recorded.poolAccount Recorded.sharingConfig)))
      Recorded.shareholder Recorded.mint = .ok list :=
  isOk_iff.mp (by decide +kernel)

end PumpSwapSdk
