import PumpSwapSdk.Math
import PumpSwapSdk.State.Accounts
import PumpSwapSdk.Util

/-!
# Reading the chain

The chain as the client sees it: what an RPC node answers to each request, as a function of
the requested keys. The fetching functions decode the answers; an account the node does not
know is absent from its answer.
-/

set_option autoImplicit false

namespace PumpSwapSdk

structure Account where
  data : List U8
  owner : Pubkey
deriving DecidableEq

/-- The answers of an RPC node. -/
structure Rpc where
  getAccountData : Pubkey → Result (List U8)
  getMultipleAccounts : List Pubkey → Result (List (Option Account))
  getAccountWithCommitment : Pubkey → Result (Option Account)
  /-- The `amount` of a token account, a decimal text. -/
  getTokenAccountBalance : Pubkey → Result String

/-! ## Parsing answers -/

/-- Decimal digits read from the left, after the digits that make up `n`. -/
def parseDigits : List Char → ℕ → Result U64
  | [], n => .ok (BitVec.ofNat 64 n)
  | c :: rest, n =>
      if c.isDigit then
        let next := n * 10 + (c.toNat - '0'.toNat)
        if next < 2 ^ 64 then parseDigits rest next
        else bail "number too large to fit in target type"
      else bail "invalid digit found in string"

/-- `str::parse::<u64>`. -/
def parseU64 (text : String) : Result U64 :=
  match text.toList with
  | [] => bail "cannot parse integer from empty string"
  | ['+'] => bail "invalid digit found in string"
  | '+' :: digits => parseDigits digits 0
  | digits => parseDigits digits 0

/-- The balance field of a token account. -/
def tokenAccountAmount (data : List U8) : Result U64 :=
  match wordAt? 8 data 64 with
  | some amount => .ok amount
  | none =>
      let got := data.length
      bail s!"token account too short: {got} bytes"

/-- The supply field of a mint account. -/
def mintSupply (data : List U8) : Result U64 :=
  match wordAt? 8 data 36 with
  | some supply => .ok supply
  | none =>
      let got := data.length
      bail s!"mint account too short: {got} bytes"

/-- An answer that must be there. -/
def expectAccount (accounts : List (Option Account)) (index : ℕ) (missing : String) :
    Result Account :=
  match accounts[index]?.join with
  | some account => .ok account
  | none => bail missing

/-- `accounts[index]`, which panics when the node answers with too few accounts. -/
def accountAt (accounts : List (Option Account)) (index : ℕ) : Result (Option Account) :=
  match accounts[index]? with
  | some account => .ok account
  | none =>
      let len := accounts.length
      .error (.panicked s!"index out of bounds: the len is {len} but the index is {index}")

variable (crates : Crates) (rpc : Rpc)

/-! ## Pools -/

/-- Fetches a pool; without a token program, each side's is the owner of its mint. -/
def loadPoolWithTokenProgram (poolPubkey : Pubkey) (tokenProgram : Option Pubkey) :
    Result PoolInfo := do
  let data ← rpc.getAccountData poolPubkey
  let (baseTokenProgram, quoteTokenProgram) ←
    match tokenProgram with
    | some program => Except.ok (program, program)
    | none =>
        if data.length < Pool.size + 8 then
          let expected := Pool.size + 8
          let got := data.length
          bail s!"Data size mismatch: expected at least {expected}, got {got}"
        else do
          let poolData := PoolInfo.stored data
          let mintAccounts ← rpc.getMultipleAccounts [poolData.baseMint, poolData.quoteMint]
          let base ← accountAt mintAccounts 0
          let quote ← accountAt mintAccounts 1
          .ok ((base.map Account.owner).getD SplToken.id,
            (quote.map Account.owner).getD SplToken.id)
  PoolInfo.fromAccountData poolPubkey data baseTokenProgram quoteTokenProgram

def loadPool (poolPubkey : Pubkey) : Result PoolInfo :=
  loadPoolWithTokenProgram rpc poolPubkey none

/-- The raw balances of a pool's vaults, read one after the other. -/
def fetchPoolReserves (pool : PoolInfo) : Result (U64 × U64) := do
  let baseReserve ← rpc.getTokenAccountBalance pool.poolBaseTokenAccount
  let quoteReserve ← rpc.getTokenAccountBalance pool.poolQuoteTokenAccount
  let base ← parseU64 baseReserve
  let quote ← parseU64 quoteReserve
  .ok (base, quote)

/-- Reads a pool and both its vaults in one call: the current pool, and the balances of its
base and quote vaults. Of the caller's pool it uses the addresses and the token programs. -/
def fetchPoolSnapshot (pool : PoolInfo) : Result (PoolInfo × (U64 × U64)) := do
  let keys := [pool.pool, pool.poolBaseTokenAccount, pool.poolQuoteTokenAccount]
  let accounts ← rpc.getMultipleAccounts keys
  let account (index : ℕ) : Result Account :=
    let key := crates.display (keys.getD index pool.pool)
    expectAccount accounts index s!"account {key} not found"
  let current ← PoolInfo.fromAccountData pool.pool (← account 0).data pool.baseTokenProgram
    pool.quoteTokenProgram
  let baseReserve ← tokenAccountAmount (← account 1).data
  let quoteReserve ← tokenAccountAmount (← account 2).data
  .ok (current, (baseReserve, quoteReserve))

/-! ## Fees -/

def fetchGlobalConfig : Result GlobalConfig := do
  let data ← rpc.getAccountData globalConfig
  GlobalConfig.fromAccountData data

def fetchFeeConfig : Result FeeConfig := do
  let data ← rpc.getAccountData (feeConfigPda crates)
  FeeConfig.fromAccountData data

/-- Both in one call. -/
def fetchFeeState : Result (GlobalConfig × FeeConfig) := do
  let feeConfigKey := feeConfigPda crates
  let accounts ← rpc.getMultipleAccounts [globalConfig, feeConfigKey]
  let globalConfigText := crates.display globalConfig
  let feeConfigText := crates.display feeConfigKey
  let globalConfigAccount ←
    expectAccount accounts 0 s!"GlobalConfig account {globalConfigText} not found"
  let feeConfigAccount ← expectAccount accounts 1 s!"FeeConfig account {feeConfigText} not found"
  let config ← GlobalConfig.fromAccountData globalConfigAccount.data
  let feeConfig ← FeeConfig.fromAccountData feeConfigAccount.data
  .ok (config, feeConfig)

/-- The fees a swap in the pool is charged, from state already at hand. -/
def feesFromState (feeConfig : FeeConfig) (pool : PoolInfo)
    (baseSupply baseReserve quoteReserve : U64) : Fees :=
  let isTiered := isTieredFeePool pool
  let (base, quote) := pool.effectiveReserves baseReserve quoteReserve
  let marketCap := if isTiered then marketCapLamports baseSupply base quote else 0
  feeConfig.feesForPool isTiered marketCap pool.quoteMint

/-- The fees a swap in the pool is charged, refusing a pool whose schedule the SDK cannot
reproduce. -/
def fetchPoolFees (pool : PoolInfo) (baseReserve quoteReserve : U64) : Result Fees := do
  if !canQuoteFees pool then
    let key := crates.display pool.pool
    let quoteMint := crates.display pool.quoteMint
    bail (s!"pool {key} is priced off the fee ladder but quoted in {quoteMint}, not SOL; " ++
      "the fee program's schedule for those pools is not one this SDK can reproduce (observed " ++
      "30-325 bps against a ladder that tops out at 125), so quoting it would under-charge " ++
      "the fee and produce a min_out the program rejects")
  let feeConfigKey := feeConfigPda crates
  let accounts ← rpc.getMultipleAccounts [feeConfigKey, pool.baseMint]
  let feeConfigText := crates.display feeConfigKey
  let feeConfigAccount ← expectAccount accounts 0 s!"FeeConfig account {feeConfigText} not found"
  let feeConfig ← FeeConfig.fromAccountData feeConfigAccount.data
  let baseMintText := crates.display pool.baseMint
  let baseMintAccount ← expectAccount accounts 1 s!"base mint account {baseMintText} not found"
  let baseSupply ← mintSupply baseMintAccount.data
  .ok (feesFromState feeConfig pool baseSupply baseReserve quoteReserve)

/-! ## Volume accumulators -/

def fetchGlobalVolumeAccumulator : Result GlobalVolumeAccumulator := do
  let data ← rpc.getAccountData globalVolumeAccumulator
  GlobalVolumeAccumulator.fromAccountData data

/-- A user's accumulator, if there is one. -/
def fetchUserVolumeAccumulator (user : Pubkey) : Result (Option UserVolumeAccumulator) := do
  let accounts ← rpc.getMultipleAccounts [findUserVolAccumulator crates user]
  match accounts[0]?.join with
  | some account => some <$> UserVolumeAccumulator.fromAccountData account.data
  | none => .ok none

/-! ## Fee sharing -/

/-- A coin's sharing config, if it has one. -/
def fetchSharingConfig (mint : Pubkey) : Result (Option SharingConfig) := do
  match ← rpc.getAccountWithCommitment (sharingConfigPda crates mint) with
  | some account => some <$> SharingConfig.fromAccountData account.data
  | none => .ok none

/-! ## Quotes -/

/-- Quotes spending exactly `solIn` lamports against live state. -/
def quoteTokenBuy (solIn : U64) (pool : PoolInfo) (slippage : Float) : Result SwapQuote := do
  let (pool, reserves) ← fetchPoolSnapshot crates rpc pool
  let fees ← fetchPoolFees crates rpc pool reserves.1 reserves.2
  .ok (tokenBuyQuote solIn reserves pool fees slippage)

/-- Quotes selling exactly `tokensIn` tokens against live state. -/
def quoteTokenSell (tokensIn : U64) (pool : PoolInfo) (slippage : Float) : Result SwapQuote := do
  let (pool, reserves) ← fetchPoolSnapshot crates rpc pool
  let fees ← fetchPoolFees crates rpc pool reserves.1 reserves.2
  .ok (tokenSellQuote tokensIn reserves pool fees slippage)

end PumpSwapSdk
