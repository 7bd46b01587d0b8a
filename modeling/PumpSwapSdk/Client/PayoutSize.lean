import PumpSwapSdk.Client.PayoutList
import PumpSwapSdk.Client.Transaction

/-!
# How many shareholders a payout has room for

pump.fun accepts a distribution only behind the sweeps of its own transaction, so a payout has to
fit into one. Every instruction derives its accounts from the same coin, and most of them occur in
several instructions but are listed once. `payout_fits_iff` counts what is left: both sweeps leave
room for nine shareholders, one leaves room for the ten that a sharing config allows. A pool that
still stores another coin creator is swept into that creator's vault, and both sweeps leave room
for seven.
-/

set_option autoImplicit false

namespace PumpSwapSdk

variable {crates : Crates} {rpc : Rpc} {payer tokenMint : Pubkey}
variable {assemble : Ix → Instruction}

/-- The transaction of a payout, which opens with a limit and a price of its compute units. -/
def payoutTransaction (assemble : Ix → Instruction) (units : U32) (microLamports : U64)
    (payout : List Instruction) : List Instruction :=
  assemble (.setComputeUnitLimit units) :: assemble (.setComputeUnitPrice microLamports) :: payout

namespace PayoutCall

/-! ## Addresses -/

def quoteMint : PayoutCall → Pubkey
  | .legacy => wrappedSolMint
  | .v2 quoteMint _ _ => quoteMint

def quoteTokenProgram : PayoutCall → Pubkey
  | .legacy => SplToken.id
  | .v2 _ quoteTokenProgram _ => quoteTokenProgram

def isV2 : PayoutCall → Bool
  | .legacy => false
  | .v2 _ _ _ => true

/-- What every payout of a coin names but its payer. -/
def commonAddresses (crates : Crates) (tokenMint : Pubkey) (call : PayoutCall) : List Pubkey :=
  let sharingConfig := sharingConfigPda crates tokenMint
  let vaultAuthority := findCoinCreatorVaultAuthority crates sharingConfig
  [pumpSwapProgramId, pumpfunProgram, eventAuthority, pumpfunEventAuthority, SystemProgram.id,
    SplAssociatedTokenAccount.id, call.quoteTokenProgram, call.quoteMint, tokenMint,
    bondingCurvePda crates tokenMint, sharingConfig, vaultAuthority,
    findCoinCreatorVaultAta crates vaultAuthority call.quoteTokenProgram call.quoteMint,
    pumpCreatorVaultPda crates sharingConfig]

/-- The quote account of pump.fun's vault, which the curve sweep and both `v2` instructions
name. -/
def vaultAddresses (crates : Crates) (tokenMint : Pubkey) (call : PayoutCall)
    (curveSwept : Bool) : List Pubkey :=
  if call.isV2 || curveSwept then
    [findCoinCreatorVaultAta crates (pumpCreatorVaultPda crates (sharingConfigPda crates tokenMint))
      call.quoteTokenProgram call.quoteMint]
  else []

/-- What only the curve sweep names. -/
def curveAddresses (crates : Crates) (tokenMint : Pubkey) (call : PayoutCall)
    (curveSwept : Bool) : List Pubkey :=
  if curveSwept then
    [pumpfunGlobal, findCoinCreatorVaultAta crates (bondingCurvePda crates tokenMint)
      call.quoteTokenProgram call.quoteMint]
  else []

/-- Whether a pool account stores another coin creator than the sharing config. -/
def paysElsewhere (crates : Crates) (tokenMint : Pubkey) (account : Account) : Bool :=
  (PoolInfo.stored account.data).coinCreator ≠ sharingConfigPda crates tokenMint

/-- The vault of another coin creator. -/
def creatorAddresses (crates : Crates) (tokenMint : Pubkey) (call : PayoutCall)
    (account : Account) : List Pubkey :=
  if paysElsewhere crates tokenMint account then
    let recipient :=
      findCoinCreatorVaultAuthority crates (PoolInfo.stored account.data).coinCreator
    [recipient, findCoinCreatorVaultAta crates recipient call.quoteTokenProgram call.quoteMint]
  else []

/-- What only the pool sweep names. -/
def poolAddresses (crates : Crates) (tokenMint : Pubkey) (call : PayoutCall)
    (pool : Option Account) : List Pubkey :=
  match pool with
  | none => []
  | some account => [globalConfig, canonicalPoolPda crates tokenMint call.quoteMint,
      (PoolInfo.stored account.data).poolQuoteTokenAccount] ++
        call.creatorAddresses crates tokenMint account

/-- The addresses of a payout's transaction but its payer. -/
def addresses (crates : Crates) (tokenMint : Pubkey) (call : PayoutCall) (curveSwept : Bool)
    (pool : Option Account) (shareholders : List Pubkey) : List Pubkey :=
  computeBudgetId :: (call.commonAddresses crates tokenMint ++
    call.vaultAddresses crates tokenMint curveSwept ++
    call.curveAddresses crates tokenMint curveSwept ++ call.poolAddresses crates tokenMint pool ++
    shareholders)

/-- Whether the curve is swept: a fee waits there, or there is no pool. -/
def sweepsCurve (pool : Option Account) (fee : U64) : Bool := pool.isNone || 0 < fee

/-! ## Instructions -/

variable {call : PayoutCall} {curve pool : Option Account} {fee : U64} {list : List Instruction}
variable {shareholders : List Pubkey} {units : U32} {microLamports : U64}

/-- What the node answered for a payout. A pool stores the quote mint that its address is derived
from. -/
structure Answers (crates : Crates) (rpc : Rpc) (tokenMint : Pubkey) (call : PayoutCall)
    (shareholders : List Pubkey) (fee : U64) (pool : Option Account) : Prop where
  active : activeShareholders crates rpc tokenMint = .ok shareholders
  answered : ∃ curve, rpc.getMultipleAccounts
    [bondingCurvePda crates tokenMint, canonicalPoolPda crates tokenMint call.quoteMint] =
      .ok [curve, pool] ∧ curveFee curve = .ok fee
  quoted : ∀ account ∈ pool, (PoolInfo.stored account.data).quoteMint = call.quoteMint

/-- The sweeps of a payout. -/
theorem sweeps_of_answers (answers : Answers crates rpc tokenMint call shareholders fee pool)
    {sweeps : List Instruction}
    (built : buildCreatorFeeSweepIxs crates rpc payer tokenMint call.quoteMint
      call.quoteTokenProgram = .ok sweeps) :
    ∃ curveSweep poolSweep, sweeps = curveSweep ++ poolSweep ∧
      (if sweepsCurve pool fee then ∃ ix, curveSweep = [ix] ∧
        sweepBondingCurveCreatorFeeInstruction crates payer tokenMint
          (sharingConfigPda crates tokenMint) call.quoteMint call.quoteTokenProgram = .ok ix
      else curveSweep = []) ∧
      match pool with
      | none => poolSweep = []
      | some account => ∃ p ix, poolSweep = [ix] ∧ sweepPoolCreatorFeeInstruction crates payer p =
          .ok ix ∧ p.pool = canonicalPoolPda crates tokenMint call.quoteMint ∧
          p.quoteMint = call.quoteMint ∧ p.quoteTokenProgram = call.quoteTokenProgram ∧
          p.coinCreator = (PoolInfo.stored account.data).coinCreator ∧
          p.poolQuoteTokenAccount = (PoolInfo.stored account.data).poolQuoteTokenAccount := by
  obtain ⟨curve, answered, waiting⟩ := answers.answered
  obtain ⟨_, read, built⟩ := bind_eq_ok_iff.mp built
  obtain rfl := Except.ok.inj (answered.symm.trans read)
  obtain ⟨_, first, built⟩ := bind_eq_ok_iff.mp built
  obtain rfl := Except.ok.inj first
  obtain ⟨_, waits, built⟩ := bind_eq_ok_iff.mp built
  obtain rfl := Except.ok.inj (waiting.symm.trans waits)
  obtain ⟨graduatedPool, second, built⟩ := bind_eq_ok_iff.mp built
  obtain rfl : pool = graduatedPool := Except.ok.inj second
  obtain ⟨curveSweep, curve_built, built⟩ := bind_eq_ok_iff.mp built
  obtain ⟨poolSweep, pool_built, built⟩ := bind_eq_ok_iff.mp built
  refine ⟨curveSweep, poolSweep, (Except.ok.inj built).symm, ?_, ?_⟩
  · unfold curveSweepIxs at curve_built
    simp only [sweepsCurve, Bool.or_eq_true, decide_eq_true_eq]
    split at curve_built
    · rename_i sweeps
      obtain ⟨ix, swept, listed⟩ := bind_eq_ok_iff.mp curve_built
      rw [if_pos sweeps]
      exact ⟨ix, (Except.ok.inj listed).symm, swept⟩
    · rename_i skips
      rw [if_neg skips]
      exact (Except.ok.inj curve_built).symm
  · cases pool with
    | none => exact (Except.ok.inj pool_built).symm
    | some account =>
        obtain ⟨p, decoded, pool_built⟩ := bind_eq_ok_iff.mp pool_built
        obtain ⟨ix, swept, listed⟩ := bind_eq_ok_iff.mp pool_built
        obtain ⟨place, mint, creator, program⟩ := PoolInfo.fromAccountData_eq_ok decoded
        exact ⟨p, ix, (Except.ok.inj listed).symm, swept, place,
          mint.trans (answers.quoted account rfl), program, creator,
          PoolInfo.fromAccountData_poolQuoteTokenAccount decoded⟩

/-- The last two instructions of a payout. -/
def Ends (crates : Crates) (payer tokenMint : Pubkey) (shareholders : List Pubkey)
    (transfer distribute : Instruction) : PayoutCall → Prop
  | .legacy =>
      transferCreatorFeesToPumpInstruction crates (sharingConfigPda crates tokenMint) =
        .ok transfer ∧
      distributeCreatorFeesInstruction crates tokenMint shareholders = .ok distribute
  | .v2 quoteMint quoteTokenProgram initializeShareholderAtas =>
      transferCreatorFeesToPumpV2Instruction crates payer (sharingConfigPda crates tokenMint)
        quoteMint quoteTokenProgram = .ok transfer ∧
      distributeCreatorFeesV2Instruction crates payer tokenMint quoteMint quoteTokenProgram
        initializeShareholderAtas shareholders = .ok distribute

/-- The instructions of a payout. -/
theorem build_of_answers (answers : Answers crates rpc tokenMint call shareholders fee pool)
    (built : call.build crates rpc payer tokenMint = .ok list) :
    ∃ sweeps transfer distribute, list = sweeps ++ [transfer, distribute] ∧
      buildCreatorFeeSweepIxs crates rpc payer tokenMint call.quoteMint call.quoteTokenProgram =
        .ok sweeps ∧
      call.Ends crates payer tokenMint shareholders transfer distribute := by
  cases call with
  | legacy =>
      obtain ⟨listed, sweeps, transfer, distribute, active, swept, transferred, distributed, rfl⟩ :=
        buildCreatorFeeWithdrawIxs_eq_ok built
      obtain rfl := Except.ok.inj (answers.active.symm.trans active)
      exact ⟨sweeps, transfer, distribute, rfl, swept, transferred, distributed⟩
  | v2 quoteMint quoteTokenProgram initializeShareholderAtas =>
      obtain ⟨listed, sweeps, transfer, distribute, active, swept, transferred, distributed, rfl⟩ :=
        buildCreatorFeeWithdrawIxsV2_eq_ok built
      obtain rfl := Except.ok.inj (answers.active.symm.trans active)
      exact ⟨sweeps, transfer, distribute, rfl, swept, transferred, distributed⟩

/-! ## Counting -/

/-- The sweep of the curve. -/
theorem adds_curveSweep {ix : Instruction}
    (built : sweepBondingCurveCreatorFeeInstruction crates payer tokenMint
      (sharingConfigPda crates tokenMint) call.quoteMint call.quoteTokenProgram = .ok ix) :
    Adds payer (call.addresses crates tokenMint true pool shareholders) [ix]
      (call.vaultAddresses crates tokenMint true ++ call.curveAddresses crates tokenMint true)
      24 := by
  obtain rfl := Except.ok.inj built
  constructor
  · simp [Instruction.SignedBy]
  · simp [NamesOnly, Instruction.keys, addresses, commonAddresses, vaultAddresses, curveAddresses]
  · simp [NamesAll, Instruction.keys, vaultAddresses, curveAddresses]
  · simp [Instruction.size, sweepCreatorFeeTag]

/-- The sweep of a pool, into the vault of the creator that it stores. -/
theorem adds_poolSweep {curveSwept : Bool} {account : Account} {p : PoolInfo} {ix : Instruction}
    (built : sweepPoolCreatorFeeInstruction crates payer p = .ok ix)
    (same : p.pool = canonicalPoolPda crates tokenMint call.quoteMint ∧
      p.quoteMint = call.quoteMint ∧ p.quoteTokenProgram = call.quoteTokenProgram ∧
      p.coinCreator = (PoolInfo.stored account.data).coinCreator ∧
      p.poolQuoteTokenAccount = (PoolInfo.stored account.data).poolQuoteTokenAccount) :
    Adds payer (call.addresses crates tokenMint curveSwept (some account) shareholders) [ix]
      (call.poolAddresses crates tokenMint (some account)) 23 := by
  obtain rfl := Except.ok.inj built
  constructor
  · simp [Instruction.SignedBy]
  · by_cases elsewhere : (PoolInfo.stored account.data).coinCreator =
        sharingConfigPda crates tokenMint
    · simp [NamesOnly, Instruction.keys, addresses, commonAddresses, poolAddresses,
        creatorAddresses, paysElsewhere, elsewhere, same]
    · simp [NamesOnly, Instruction.keys, addresses, commonAddresses, poolAddresses,
        creatorAddresses, paysElsewhere, elsewhere, same]
  · by_cases elsewhere : (PoolInfo.stored account.data).coinCreator =
        sharingConfigPda crates tokenMint
    · simp [NamesAll, Instruction.keys, poolAddresses, creatorAddresses, paysElsewhere, elsewhere,
        same]
    · simp [NamesAll, Instruction.keys, poolAddresses, creatorAddresses, paysElsewhere, elsewhere,
        same]
  · simp [Instruction.size, sweepCreatorFeeTag]

/-- A distribution names what its fixed accounts name and the shareholders. -/
theorem mem_keys_distribution {program key : Pubkey} {fixed : List AccountMeta} {data : List U8} :
    key ∈ (Instruction.mk program (fixed ++ shareholders.map fun holder => .new holder false)
        data).keys ↔
      key ∈ (Instruction.mk program fixed data).keys ∨ key ∈ shareholders := by
  simp only [mem_keys_iff, List.mem_append, List.mem_map]
  constructor
  · rintro (⟨account, inside | ⟨holder, member, rfl⟩, same⟩ | same)
    · exact Or.inl (Or.inl ⟨account, inside, same⟩)
    · exact Or.inr (same ▸ member)
    · exact Or.inl (Or.inr same)
  · rintro ((⟨account, inside, same⟩ | same) | member)
    · exact Or.inl ⟨account, Or.inl inside, same⟩
    · exact Or.inr same
    · exact Or.inl ⟨.new key false, Or.inr ⟨key, member, rfl⟩, rfl⟩

theorem keys_distribution_subset {program : Pubkey} {fixed : List AccountMeta} {data : List U8}
    {all : List Pubkey} (named : (Instruction.mk program fixed data).keys ⊆ all)
    (held : shareholders ⊆ all) :
    (Instruction.mk program (fixed ++ shareholders.map fun holder => .new holder false)
      data).keys ⊆ all := by
  intro key member
  rcases mem_keys_distribution.mp member with inside | holder
  · exact named inside
  · exact held holder

/-- The size of the last two instructions. -/
def endingSize (call : PayoutCall) (holders : ℕ) : ℕ := (if call.isV2 then 47 else 39) + holders

/-- The transfer and the distribution. -/
theorem adds_ending {curveSwept : Bool} {transfer distribute : Instruction}
    (built : call.Ends crates payer tokenMint shareholders transfer distribute) :
    Adds payer (call.addresses crates tokenMint curveSwept pool shareholders) [transfer, distribute]
      (call.commonAddresses crates tokenMint ++ call.vaultAddresses crates tokenMint false ++
        shareholders) (call.endingSize shareholders.length) := by
  have held : shareholders ⊆
      payer :: call.addresses crates tokenMint curveSwept pool shareholders := by
    intro holder member
    simp [addresses, member]
  cases call with
  | legacy =>
      obtain ⟨transferred, distributed⟩ := built
      obtain rfl := Except.ok.inj transferred
      obtain rfl := Except.ok.inj distributed
      constructor
      · simp [Instruction.SignedBy]
      · refine List.forall_mem_cons.mpr ⟨?_, List.forall_mem_singleton.mpr ?_⟩
        · simp [Instruction.keys, addresses, commonAddresses, PayoutCall.quoteMint,
            PayoutCall.quoteTokenProgram]
        · apply keys_distribution_subset _ held
          simp [Instruction.keys, addresses, commonAddresses]
      · refine List.forall_mem_append.mpr ⟨?_, ?_⟩
        · simp [Instruction.keys, commonAddresses, vaultAddresses, isV2, PayoutCall.quoteMint,
            PayoutCall.quoteTokenProgram]
        · intro holder member
          exact ⟨_, List.mem_cons_of_mem _ List.mem_cons_self,
            mem_keys_distribution.mpr (Or.inr member)⟩
      · simp [Instruction.size, endingSize, isV2, transferCreatorFeesToPumpTag,
          distributeCreatorFeesTag]
        omega
  | v2 quoteMint quoteTokenProgram initializeShareholderAtas =>
      obtain ⟨transferred, distributed⟩ := built
      obtain rfl := Except.ok.inj transferred
      obtain rfl := Except.ok.inj distributed
      constructor
      · simp [Instruction.SignedBy]
      · refine List.forall_mem_cons.mpr ⟨?_, List.forall_mem_singleton.mpr ?_⟩
        · simp [Instruction.keys, addresses, commonAddresses, vaultAddresses, isV2,
            PayoutCall.quoteMint, PayoutCall.quoteTokenProgram]
        · apply keys_distribution_subset _ held
          simp [Instruction.keys, addresses, commonAddresses, vaultAddresses, isV2,
            PayoutCall.quoteMint, PayoutCall.quoteTokenProgram]
      · refine List.forall_mem_append.mpr ⟨?_, ?_⟩
        · simp [Instruction.keys, commonAddresses, vaultAddresses, isV2, PayoutCall.quoteMint,
            PayoutCall.quoteTokenProgram]
        · intro holder member
          exact ⟨_, List.mem_cons_of_mem _ List.mem_cons_self,
            mem_keys_distribution.mpr (Or.inr member)⟩
      · simp [Instruction.size, endingSize, isV2, transferCreatorFeesToPumpV2Tag,
          distributeCreatorFeesV2Tag]
        omega

/-- Everything a payout's transaction adds. -/
theorem adds_payout (assembles : Assembles crates assemble)
    (answers : Answers crates rpc tokenMint call shareholders fee pool)
    (built : call.build crates rpc payer tokenMint = .ok list) (units : U32)
    (microLamports : U64) :
    ∃ names, call.addresses crates tokenMint (sweepsCurve pool fee) pool shareholders ⊆ names ∧
      Adds payer (call.addresses crates tokenMint (sweepsCurve pool fee) pool shareholders)
        (payoutTransaction assemble units microLamports list) names
        (20 + ((if sweepsCurve pool fee then 24 else 0) + (if pool.isSome then 23 else 0) +
          call.endingSize shareholders.length)) := by
  obtain ⟨sweeps, transfer, distribute, rfl, swept, ends⟩ := build_of_answers answers built
  obtain ⟨curveSweep, poolSweep, rfl, curve_built, pool_built⟩ := sweeps_of_answers answers swept
  have curve_adds : Adds payer
      (call.addresses crates tokenMint (sweepsCurve pool fee) pool shareholders) curveSweep
      (if sweepsCurve pool fee then call.vaultAddresses crates tokenMint true ++
        call.curveAddresses crates tokenMint true else [])
      (if sweepsCurve pool fee then 24 else 0) := by
    cases sweeps : sweepsCurve pool fee with
    | false =>
        rw [sweeps] at curve_built
        obtain rfl : curveSweep = [] := curve_built
        exact Adds.nil
    | true =>
        rw [sweeps] at curve_built
        obtain ⟨ix, rfl, curve_swept⟩ := curve_built
        exact adds_curveSweep curve_swept
  have pool_adds : Adds payer
      (call.addresses crates tokenMint (sweepsCurve pool fee) pool shareholders) poolSweep
      (call.poolAddresses crates tokenMint pool) (if pool.isSome then 23 else 0) := by
    cases pool with
    | none =>
        obtain rfl : poolSweep = [] := pool_built
        exact Adds.nil
    | some account =>
        obtain ⟨p, ix, rfl, swept, same⟩ := pool_built
        exact adds_poolSweep swept same
  refine ⟨_, ?_, (adds_budget assembles units microLamports List.mem_cons_self).append
    ((curve_adds.append pool_adds).append (adds_ending ends))⟩
  intro key member
  simp only [addresses, List.mem_cons, List.mem_append] at member ⊢
  rcases member with budget | (((common | vault) | curve) | pooled) | holder
  · exact Or.inl (Or.inl budget)
  · exact Or.inr (Or.inr (Or.inl (Or.inl common)))
  · cases sweeps : sweepsCurve pool fee with
    | false =>
        rw [sweeps] at vault
        exact Or.inr (Or.inr (Or.inl (Or.inr vault)))
    | true =>
        rw [sweeps] at vault
        exact Or.inr (Or.inl (Or.inl (List.mem_append_left _ vault)))
  · cases sweeps : sweepsCurve pool fee with
    | false =>
        rw [sweeps] at curve
        cases curve
    | true =>
        rw [sweeps] at curve
        exact Or.inr (Or.inl (Or.inl (List.mem_append_right _ curve)))
  · exact Or.inr (Or.inl (Or.inr pooled))
  · exact Or.inr (Or.inr (Or.inr holder))

/-- The size of a payout with given sweeps to a number of shareholders. -/
def size (call : PayoutCall) (curveSwept poolSwept elsewhere : Bool) (holders : ℕ) : ℕ :=
  (if call.isV2 then 713 else 673) + 33 * holders +
    (if curveSwept then if call.isV2 then 88 else 120 else 0) + (if poolSwept then 119 else 0) +
    if elsewhere then 64 else 0

theorem length_addresses (crates : Crates) (tokenMint : Pubkey) (call : PayoutCall)
    (curveSwept : Bool) (pool : Option Account) (shareholders : List Pubkey) :
    134 + 32 * (call.addresses crates tokenMint curveSwept pool shareholders).length +
        (20 + ((if curveSwept then 24 else 0) + (if pool.isSome then 23 else 0) +
          call.endingSize shareholders.length)) =
      call.size curveSwept pool.isSome (pool.any (paysElsewhere crates tokenMint))
        shareholders.length := by
  have common : (call.commonAddresses crates tokenMint).length = 14 := rfl
  have vault : (call.vaultAddresses crates tokenMint curveSwept).length =
      if call.isV2 || curveSwept then 1 else 0 := by
    unfold vaultAddresses
    split <;> rfl
  have curve : (call.curveAddresses crates tokenMint curveSwept).length =
      if curveSwept then 2 else 0 := by
    unfold curveAddresses
    split <;> rfl
  have pooled : (call.poolAddresses crates tokenMint pool).length =
      (if pool.isSome then 3 else 0) +
        if pool.any (paysElsewhere crates tokenMint) then 2 else 0 := by
    cases pool with
    | none => rfl
    | some account =>
        simp only [poolAddresses, creatorAddresses, Option.any_some, List.length_append]
        split <;> rfl
  simp only [addresses, List.length_cons, List.length_append, common, vault, curve, pooled,
    endingSize, size]
  cases call.isV2 <;> cases curveSwept <;> cases pool.isSome <;>
    cases pool.any (paysElsewhere crates tokenMint) <;>
    simp only [Bool.or_true, Bool.or_false, Bool.false_eq_true, if_true, if_false] <;> omega

/-- How many shareholders a payout with given sweeps has room for. -/
def capacity (call : PayoutCall) (curveSwept poolSwept elsewhere : Bool) : ℕ :=
  if elsewhere then if curveSwept then 7 else if call.isV2 then 10 else 11
  else if curveSwept && poolSwept then 9 else if call.isV2 && poolSwept then 12 else 13

theorem capacity_le (call : PayoutCall) (curveSwept poolSwept elsewhere : Bool) :
    call.capacity curveSwept poolSwept elsewhere ≤ 13 := by
  unfold capacity
  cases elsewhere <;> cases curveSwept <;> cases poolSwept <;> cases call.isV2 <;> decide

/-- The instructions of a payout to few shareholders are short. -/
theorem added_lt (call : PayoutCall) (curveSwept poolSwept : Bool) {holders : ℕ}
    (few : holders ≤ 13) :
    20 + ((if curveSwept then 24 else 0) + (if poolSwept then 23 else 0) +
      call.endingSize holders) < 131 := by
  unfold endingSize
  split <;> split <;> split <;> omega

theorem size_le_iff (call : PayoutCall) {curveSwept poolSwept elsewhere : Bool}
    (swept : curveSwept || poolSwept) (pooled : elsewhere → poolSwept) (holders : ℕ) :
    call.size curveSwept poolSwept elsewhere holders ≤ packetDataSize ↔
      holders ≤ call.capacity curveSwept poolSwept elsewhere := by
  cases call <;> cases curveSwept <;> cases poolSwept <;> cases elsewhere <;>
    simp [size, capacity, isV2, packetDataSize] at swept pooled ⊢ <;> omega

/-- Only a pool that is swept pays another creator. -/
theorem isSome_of_paysElsewhere {crates : Crates} {tokenMint : Pubkey} {pool : Option Account}
    (elsewhere : pool.any (paysElsewhere crates tokenMint)) : pool.isSome := by
  cases pool with
  | none => cases elsewhere
  | some account => rfl

/-- A node that answered was asked for some sweep. -/
theorem some_sweep (pool : Option Account) (fee : U64) : sweepsCurve pool fee || pool.isSome := by
  cases pool <;> simp [sweepsCurve]

end PayoutCall

/-- **How many shareholders a payout has room for.** It fits into a transaction if they are at most
nine with both sweeps and at most twelve or thirteen with one, or seven and ten or eleven where the
pool stores another coin creator. Where no address occurs in two roles, it fits only then. -/
theorem payout_fits_iff (crates : Crates) (rpc : Rpc) (payer tokenMint : Pubkey)
    (call : PayoutCall) (shareholders : List Pubkey) (fee : U64) (pool : Option Account)
    (list : List Instruction) (assemble : Ix → Instruction) (units : U32) (microLamports : U64)
    (assembles : Assembles crates assemble)
    (answers : PayoutCall.Answers crates rpc tokenMint call shareholders fee pool)
    (built : call.build crates rpc payer tokenMint = .ok list) :
    let room := call.capacity (PayoutCall.sweepsCurve pool fee) pool.isSome
      (pool.any (PayoutCall.paysElsewhere crates tokenMint))
    (shareholders.length ≤ room →
      transactionSize payer (payoutTransaction assemble units microLamports list) ≤
        packetDataSize) ∧
    ((payer :: call.addresses crates tokenMint (PayoutCall.sweepsCurve pool fee) pool
        shareholders).Nodup →
      (transactionSize payer (payoutTransaction assemble units microLamports list) ≤
          packetDataSize ↔ shareholders.length ≤ room)) := by
  intro room
  obtain ⟨names, needed, adds⟩ :=
    PayoutCall.adds_payout assembles answers built units microLamports
  have counted := PayoutCall.length_addresses crates tokenMint call
    (PayoutCall.sweepsCurve pool fee) pool shareholders
  have limit : _ ↔ shareholders.length ≤ room := call.size_le_iff (PayoutCall.some_sweep pool fee)
    PayoutCall.isSome_of_paysElsewhere shareholders.length
  have fits : shareholders.length ≤ room →
      transactionSize payer (payoutTransaction assemble units microLamports list) ≤
        packetDataSize := by
    intro held
    have bounded := limit.mpr held
    have small := call.added_lt (PayoutCall.sweepsCurve pool fee) pool.isSome
      (held.trans (call.capacity_le _ _ _))
    have most := adds.transactionSize_le
      (adds.short small) (by omega)
      (by unfold packetDataSize at bounded; omega)
    omega
  refine ⟨fits, fun distinct => ⟨?_, fits⟩⟩
  intro small
  have least := adds.le_transactionSize needed distinct
  exact limit.mp (by omega)

namespace Recorded

/-- The coin's config with ten shareholders. -/
def crowd : List Pubkey := [repeated 1, repeated 2, repeated 3, repeated 4, repeated 5, repeated 6,
  repeated 7, repeated 8, repeated 9, repeated 10]

def crowdedConfig : SharingConfig :=
  { config with shareholders := crowd.map fun holder => ⟨holder, 1_000⟩ }

/-- A fee that waits on the coin's curve. -/
def waitingCurve : Account where
  data := bondingCurveDiscriminator ++ List.replicate 117 0 ++ [5, 0, 0, 0, 0, 0, 0, 0]
  owner := pumpfunProgram

/-- The coin's pool, with its own quote account. -/
def crowdedPool : Account where
  data := List.replicate 11 0 ++ poolAuthority.bytes ++ mint.bytes ++ wrappedSolMint.bytes ++
    List.replicate 64 0 ++ (repeated 11).bytes ++ List.replicate 8 0 ++ sharingConfig.bytes ++
    [0, 0]
  owner := pumpSwapProgramId

def crowdedNode : Rpc :=
  { node (some waitingCurve) (some crowdedPool) with
    getAccountWithCommitment := fun key =>
      if key = sharingConfig then .ok (some ⟨crowdedConfig.encode, feeProgram⟩) else .ok none }

end Recorded

/-- With both sweeps the recorded coin's payout has no room for ten shareholders. -/
theorem payout_fits_iff_recorded :
    ∃ list, PayoutCall.legacy.build Recorded.crates Recorded.crowdedNode (Recorded.repeated 12)
        Recorded.mint = .ok list ∧
      ¬ transactionSize (Recorded.repeated 12)
          (payoutTransaction (assembled Recorded.crates) 500_000 50_000 list) ≤
        packetDataSize := by
  have same : Recorded.crowdedNode.getMultipleAccounts = (Recorded.node
      (some Recorded.waitingCurve) (some Recorded.crowdedPool)).getMultipleAccounts := rfl
  have answers : PayoutCall.Answers Recorded.crates Recorded.crowdedNode Recorded.mint .legacy
      Recorded.crowd 5 (some Recorded.crowdedPool) := by
    refine ⟨by decide +kernel, ⟨some Recorded.waitingCurve, ?_, by decide +kernel⟩, ?_⟩
    · rw [PayoutCall.quoteMint, same, Recorded.node_answers]
    · rintro account ⟨⟩
      decide +kernel
  obtain ⟨list, built⟩ := isOk_iff.mp (show (PayoutCall.legacy.build Recorded.crates
    Recorded.crowdedNode (Recorded.repeated 12) Recorded.mint).isOk by decide +kernel)
  refine ⟨list, built, ?_⟩
  rw [(payout_fits_iff _ _ _ _ _ _ _ _ _ _ _ _ (assembled_assembles _) answers built).2
    (by decide +kernel)]
  decide +kernel

end PumpSwapSdk
