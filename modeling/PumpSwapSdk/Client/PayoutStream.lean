import PumpSwapSdk.Client.FeeMove

/-!
# The payout as one stream of money

The instructions of a payout name their vaults independently. They move one stream when what
the pool sweep fills is what the transfer drains, and what the transfer and the curve sweep
fill is what the distribution pays out of (`OneStream`).

All but the pool sweep derive their vaults from the coin's sharing config; the pool sweep goes
by the coin creator that the pool stores. So the stream is connected exactly when there is no
pool or its stored coin creator is the sharing config (`payout_moves_one_stream_iff`). A pool
that was not repointed at the split has another creator, and its fees stay behind. The
collection of a single creator's fees does check whom the pool pays
(`collection_drains_what_it_sweeps`).
-/

set_option autoImplicit false

namespace PumpSwapSdk

/-! ## Connected movements -/

/-- The movements of an instruction list, in order. -/
def feeMoves (list : List Instruction) : List FeeMove := list.filterMap Instruction.feeMove

/-- A movement belongs to the stream that drains one account into a vault, and pays out of
it. -/
def FeeMove.FlowsThrough (drained vault : Pubkey) (vaultAta : Option Pubkey) : FeeMove → Prop
  | .sweepPool _ into => into = drained
  | .sweepCurve _ into intoAta => into = vault ∧ ∀ ata ∈ vaultAta, intoAta = ata
  | .transfer outOf into intoAta => outOf = drained ∧ into = vault ∧ intoAta = vaultAta
  | .distribute _ outOf outOfAta => outOf = vault ∧ outOfAta = vaultAta

/-- An instruction list transfers and distributes, and all its movements are one stream. -/
def OneStream (list : List Instruction) : Prop :=
  ∃ drained vault vaultAta curve,
    FeeMove.transfer drained vault vaultAta ∈ feeMoves list ∧
    FeeMove.distribute curve vault vaultAta ∈ feeMoves list ∧
    ∀ move ∈ feeMoves list, move.FlowsThrough drained vault vaultAta

/-- Sweeps before a transfer and a distribution from the filled vault make one stream exactly
when they flow into it. -/
theorem oneStream_iff {sweeps : List Instruction} {transfer distribute : Instruction}
    {drained vault curve : Pubkey} {vaultAta : Option Pubkey}
    (transfers : transfer.feeMove = some (.transfer drained vault vaultAta))
    (distributes : distribute.feeMove = some (.distribute curve vault vaultAta)) :
    OneStream (sweeps ++ [transfer, distribute]) ↔
      ∀ move ∈ feeMoves sweeps, move.FlowsThrough drained vault vaultAta := by
  have moves : feeMoves (sweeps ++ [transfer, distribute]) =
      feeMoves sweeps ++ [.transfer drained vault vaultAta, .distribute curve vault vaultAta] := by
    simp [feeMoves, transfers, distributes]
  rw [OneStream, moves]
  constructor
  · rintro ⟨drained', vault', vaultAta', -, -, -, all⟩ move swept
    obtain ⟨rfl, rfl, rfl⟩ : drained = drained' ∧ vault = vault' ∧ vaultAta = vaultAta' :=
      all (.transfer drained vault vaultAta) (by simp)
    exact all move (List.mem_append_left _ swept)
  · intro swept
    refine ⟨drained, vault, vaultAta, curve, by simp, by simp, ?_⟩
    intro move listed
    rcases List.mem_append.mp listed with sweep | last
    · exact swept move sweep
    · obtain rfl | rfl : move = .transfer drained vault vaultAta ∨
          move = .distribute curve vault vaultAta := by simpa using last
      · exact ⟨rfl, rfl, rfl⟩
      · exact ⟨rfl, rfl⟩

/-! ## The sweeps -/

variable {crates : Crates} {rpc : Rpc}
variable {payer tokenMint quoteMint quoteTokenProgram : Pubkey}

/-- The account that holds a creator's quote tokens in pump-amm. -/
def creatorVaultAta (crates : Crates) (quoteTokenProgram quoteMint creator : Pubkey) : Pubkey :=
  findCoinCreatorVaultAta crates (findCoinCreatorVaultAuthority crates creator)
    quoteTokenProgram quoteMint

/-- Two creators have different vaults, and so different vault accounts. -/
theorem creatorVaultAta_injective
    (vaults_differ : Function.Injective (findCoinCreatorVaultAuthority crates))
    (accounts_differ : ∀ mint tokenProgram, Function.Injective fun owner =>
      crates.getAssociatedTokenAddressWithProgramId owner mint tokenProgram) :
    Function.Injective (creatorVaultAta crates quoteTokenProgram quoteMint) :=
  (accounts_differ quoteMint quoteTokenProgram).comp vaults_differ

/-- The sweeps flow into the payout exactly when the stored creator's vault is the one it
drains. -/
theorem sweeps_flow_iff {curve pool : Option Account} {sweeps : List Instruction}
    {vaultAta : Option Pubkey}
    (answered : rpc.getMultipleAccounts
      [bondingCurvePda crates tokenMint, canonicalPoolPda crates tokenMint quoteMint] =
        .ok [curve, pool])
    (quoted : ∀ account ∈ pool, (PoolInfo.stored account.data).quoteMint = quoteMint)
    (same_ata : ∀ ata ∈ vaultAta, findCoinCreatorVaultAta crates
      (pumpCreatorVaultPda crates (sharingConfigPda crates tokenMint)) quoteTokenProgram
      quoteMint = ata)
    (built : buildCreatorFeeSweepIxs crates rpc payer tokenMint quoteMint quoteTokenProgram =
      .ok sweeps) :
    (∀ move ∈ feeMoves sweeps, move.FlowsThrough
        (creatorVaultAta crates quoteTokenProgram quoteMint (sharingConfigPda crates tokenMint))
        (pumpCreatorVaultPda crates (sharingConfigPda crates tokenMint)) vaultAta) ↔
      ∀ account ∈ pool,
        creatorVaultAta crates quoteTokenProgram quoteMint
            (PoolInfo.stored account.data).coinCreator =
          creatorVaultAta crates quoteTokenProgram quoteMint
            (sharingConfigPda crates tokenMint) := by
  obtain ⟨accounts, _, graduatedPool, fee, curveSweep, poolSweep, read, -, second, -, curve_built,
    pool_built, rfl⟩ := buildCreatorFeeSweepIxs_eq_ok built
  obtain rfl := Except.ok.inj (answered.symm.trans read)
  obtain rfl : pool = graduatedPool := Option.some.inj second
  have curve_flows : ∀ move ∈ feeMoves curveSweep, move.FlowsThrough
      (creatorVaultAta crates quoteTokenProgram quoteMint (sharingConfigPda crates tokenMint))
      (pumpCreatorVaultPda crates (sharingConfigPda crates tokenMint)) vaultAta := by
    rcases curve_built with ⟨-, -, rfl⟩ | ⟨ix, swept, rfl⟩
    · intro move none
      cases none
    · intro move only
      rw [feeMoves, List.filterMap_cons_some (feeMove_sweepCurve swept)] at only
      obtain rfl := List.mem_singleton.mp only
      exact ⟨rfl, same_ata⟩
  have split : feeMoves (curveSweep ++ poolSweep) = feeMoves curveSweep ++ feeMoves poolSweep :=
    List.filterMap_append
  simp only [split, List.mem_append, or_imp, forall_and]
  rw [and_iff_right curve_flows]
  rcases pool_built with ⟨rfl, rfl⟩ | ⟨account, p, ix, rfl, decoded, swept, rfl⟩
  · simp [feeMoves]
  · obtain ⟨-, mint, creator, program⟩ := PoolInfo.fromAccountData_eq_ok decoded
    have pool_move : feeMoves [ix] = [.sweepPool p.pool
        (creatorVaultAta crates quoteTokenProgram quoteMint
          (PoolInfo.stored account.data).coinCreator)] := by
      rw [feeMoves, List.filterMap_cons_some (feeMove_sweepPool swept), List.filterMap_nil,
        program, mint, creator, quoted account rfl, creatorVaultAta]
    simp [pool_move, FeeMove.FlowsThrough]

/-! ## The payouts -/

section Injective

variable (vaults_differ : Function.Injective (findCoinCreatorVaultAuthority crates))
variable (accounts_differ : ∀ mint tokenProgram, Function.Injective fun owner =>
  crates.getAssociatedTokenAddressWithProgramId owner mint tokenProgram)

include vaults_differ accounts_differ

theorem buildCreatorFeeWithdrawIxs_oneStream_iff {curve pool : Option Account}
    {list : List Instruction}
    (answered : rpc.getMultipleAccounts
      [bondingCurvePda crates tokenMint, canonicalPoolPda crates tokenMint wrappedSolMint] =
        .ok [curve, pool])
    (quoted : ∀ account ∈ pool, (PoolInfo.stored account.data).quoteMint = wrappedSolMint)
    (built : buildCreatorFeeWithdrawIxs crates rpc payer tokenMint = .ok list) :
    OneStream list ↔ ∀ account ∈ pool,
      (PoolInfo.stored account.data).coinCreator = sharingConfigPda crates tokenMint := by
  obtain ⟨_, sweeps, transfer, distribute, -, swept, transferred, distributed, rfl⟩ :=
    buildCreatorFeeWithdrawIxs_eq_ok built
  rw [oneStream_iff (feeMove_transfer transferred) (feeMove_distribute distributed),
    ← creatorVaultAta, sweeps_flow_iff answered quoted
      (fun _ found => absurd found (Option.not_mem_none _)) swept]
  exact forall₂_congr fun account _ =>
    (creatorVaultAta_injective vaults_differ accounts_differ).eq_iff

theorem buildCreatorFeeWithdrawIxsV2_oneStream_iff {initializeShareholderAtas : Bool}
    {curve pool : Option Account} {list : List Instruction}
    (answered : rpc.getMultipleAccounts
      [bondingCurvePda crates tokenMint, canonicalPoolPda crates tokenMint quoteMint] =
        .ok [curve, pool])
    (quoted : ∀ account ∈ pool, (PoolInfo.stored account.data).quoteMint = quoteMint)
    (built : buildCreatorFeeWithdrawIxsV2 crates rpc payer tokenMint quoteMint
      quoteTokenProgram initializeShareholderAtas = .ok list) :
    OneStream list ↔ ∀ account ∈ pool,
      (PoolInfo.stored account.data).coinCreator = sharingConfigPda crates tokenMint := by
  obtain ⟨_, sweeps, transfer, distribute, -, swept, transferred, distributed, rfl⟩ :=
    buildCreatorFeeWithdrawIxsV2_eq_ok built
  rw [oneStream_iff (feeMove_transferV2 transferred) (feeMove_distributeV2 distributed),
    ← creatorVaultAta, sweeps_flow_iff answered quoted (fun _ found => Option.some.inj found)
      swept]
  exact forall₂_congr fun account _ =>
    (creatorVaultAta_injective vaults_differ accounts_differ).eq_iff

end Injective

/-- **A payout moves one stream exactly when the pool pays the split**: when there is no pool,
or the coin creator it stores is the coin's sharing config. Derivations of different creators
are assumed to differ. -/
theorem payout_moves_one_stream_iff (crates : Crates) (rpc : Rpc)
    (payer tokenMint quoteMint quoteTokenProgram : Pubkey) (initializeShareholderAtas : Bool)
    (curve pool : Option Account)
    (vaults_differ : Function.Injective (findCoinCreatorVaultAuthority crates))
    (accounts_differ : ∀ mint tokenProgram, Function.Injective fun owner =>
      crates.getAssociatedTokenAddressWithProgramId owner mint tokenProgram)
    (answered : rpc.getMultipleAccounts
      [bondingCurvePda crates tokenMint, canonicalPoolPda crates tokenMint quoteMint] =
        .ok [curve, pool])
    (quoted : ∀ account ∈ pool, (PoolInfo.stored account.data).quoteMint = quoteMint) :
    (∀ list, quoteMint = wrappedSolMint →
      buildCreatorFeeWithdrawIxs crates rpc payer tokenMint = .ok list →
      (OneStream list ↔ ∀ account ∈ pool,
        (PoolInfo.stored account.data).coinCreator = sharingConfigPda crates tokenMint)) ∧
    ∀ list, buildCreatorFeeWithdrawIxsV2 crates rpc payer tokenMint quoteMint quoteTokenProgram
        initializeShareholderAtas = .ok list →
      (OneStream list ↔ ∀ account ∈ pool,
        (PoolInfo.stored account.data).coinCreator = sharingConfigPda crates tokenMint) := by
  constructor
  · rintro list rfl built
    exact buildCreatorFeeWithdrawIxs_oneStream_iff vaults_differ accounts_differ answered quoted
      built
  · intro list built
    exact buildCreatorFeeWithdrawIxsV2_oneStream_iff vaults_differ accounts_differ answered
      quoted built

/-! ## Collections -/

/-- **A collection drains what it sweeps**: the pool's stored creator is the one it collects
for, and it is built only where that creator is not a split. -/
theorem collection_drains_what_it_sweeps {pool : PoolInfo} {createCoinCreatorAta : Bool}
    {ixs : List Ix}
    (built : buildCollectPoolCreatorFeeIxs crates pool payer createCoinCreatorAta = .ok ixs) :
    pool.coinCreator ≠ sharingConfigPda crates pool.baseMint ∧
      ∃ sweep creation collect, ixs = .own sweep :: (creation ++ [.own collect]) ∧
        sweep.feeMove = some (.sweepPool pool.pool
          (creatorVaultAta crates pool.quoteTokenProgram pool.quoteMint pool.coinCreator)) ∧
        collect.key 4 = some
          (creatorVaultAta crates pool.quoteTokenProgram pool.quoteMint pool.coinCreator) := by
  unfold buildCollectPoolCreatorFeeIxs at built
  split at built
  · cases built
  · rename_i no_split
    constructor
    · intro split
      exact no_split (by rw [PoolInfo.feeSharingConfig, if_pos split, Option.isSome_some])
    · obtain ⟨sweep, swept, built⟩ := bind_eq_ok_iff.mp built
      obtain ⟨collection, collected, built⟩ := bind_eq_ok_iff.mp built
      obtain ⟨collect, made, collected⟩ := bind_eq_ok_iff.mp collected
      obtain rfl := Except.ok.inj built
      obtain rfl := Except.ok.inj collected
      obtain rfl := Except.ok.inj made
      exact ⟨sweep, _, _, rfl, feeMove_sweepPool swept, rfl⟩

/-! ## The recorded coin -/

theorem Recorded.vaults_differ :
    Function.Injective (findCoinCreatorVaultAuthority Recorded.crates) := by
  intro a b same
  have shifted (key : Pubkey) : findCoinCreatorVaultAuthority Recorded.crates key =
      key.xor (Recorded.shift (ascii "creator_vault")) := by
    simp only [findCoinCreatorVaultAuthority, Recorded.crates, key.length_eq, dif_pos]
  exact Pubkey.xor_injective _ (by rwa [shifted, shifted] at same)

theorem Recorded.accounts_differ (mint tokenProgram : Pubkey) : Function.Injective fun owner =>
    Recorded.crates.getAssociatedTokenAddressWithProgramId owner mint tokenProgram :=
  Pubkey.xor_injective _

/-- The recorded coin's pool pays the split, and its payout is one stream. -/
theorem payout_moves_one_stream_recorded :
    ∃ list, buildCreatorFeeWithdrawIxs Recorded.crates
        (Recorded.node none (some (Recorded.poolAccount Recorded.sharingConfig)))
        Recorded.shareholder Recorded.mint = .ok list ∧ OneStream list := by
  obtain ⟨list, built⟩ := Recorded.builds
  refine ⟨list, built, ((payout_moves_one_stream_iff Recorded.crates _ Recorded.shareholder
    Recorded.mint wrappedSolMint SplToken.id true none
    (some (Recorded.poolAccount Recorded.sharingConfig)) Recorded.vaults_differ
    Recorded.accounts_differ (Recorded.node_answers none _) ?_).1 list rfl built).mpr ?_⟩
  · rintro _ ⟨⟩
    decide +kernel
  · rintro _ ⟨⟩
    decide +kernel

/-- Before its pool is repointed, the coin's payout sweeps into a vault it does not drain. -/
theorem payout_leaves_fees_behind :
    ¬ ∀ (crates : Crates) (rpc : Rpc) (payer tokenMint : Pubkey) (curve : Option Account)
      (pool : Account) (list : List Instruction),
      Function.Injective (findCoinCreatorVaultAuthority crates) →
      (∀ mint tokenProgram, Function.Injective fun owner =>
        crates.getAssociatedTokenAddressWithProgramId owner mint tokenProgram) →
      rpc.getMultipleAccounts
          [bondingCurvePda crates tokenMint, canonicalPoolPda crates tokenMint wrappedSolMint] =
        .ok [curve, some pool] →
      (PoolInfo.stored pool.data).quoteMint = wrappedSolMint →
      buildCreatorFeeWithdrawIxs crates rpc payer tokenMint = .ok list → OneStream list := by
  intro connected
  have answered := Recorded.node_answers none (some (Recorded.poolAccount Recorded.shareholder))
  have quoted : (PoolInfo.stored (Recorded.poolAccount Recorded.shareholder).data).quoteMint =
      wrappedSolMint := by decide +kernel
  obtain ⟨list, built⟩ := isOk_iff.mp (show (buildCreatorFeeWithdrawIxs Recorded.crates
    (Recorded.node none (some (Recorded.poolAccount Recorded.shareholder)))
    Recorded.shareholder Recorded.mint).isOk by decide +kernel)
  have stream := connected _ _ _ _ _ _ list Recorded.vaults_differ Recorded.accounts_differ
    answered quoted built
  have pays_split := (buildCreatorFeeWithdrawIxs_oneStream_iff Recorded.vaults_differ
    Recorded.accounts_differ answered (by rintro _ ⟨⟩; exact quoted) built).mp stream _ rfl
  exact absurd pays_split (by decide +kernel)

end PumpSwapSdk
