import PumpSwapSdk.Constants
import PumpSwapSdk.Foundation.LittleEndian

/-!
# Pool accounts and bonding curves

A pool account is decoded at fixed offsets: an eight-byte discriminator, the 237 bytes of
`Pool`, then trailing fields that older and shorter accounts lack. Only the length is
checked; a missing trailing field reads as zero.

Trades are priced against the effective reserves, which add a signed adjustment to the
quote vault's balance and clamp the sum to a word.
-/

set_option autoImplicit false

namespace PumpSwapSdk

open Foundation.LittleEndian
open Foundation.MachineWord

/-! ## Reading at an offset -/

/-- `data.get(offset..offset + n)` as a little-endian word. -/
def wordAt? (n : ℕ) (data : List U8) (offset : ℕ) : Option (BitVec (8 * n)) :=
  if offset + n ≤ data.length then some (ofBytes n ((data.drop offset).take n)) else none

/-- A word is read back where it was written. -/
theorem wordAt?_append {n offset : ℕ} {front rest : List U8} (length : front.length = offset)
    (word : BitVec (8 * n)) : wordAt? n (front ++ toBytes n word ++ rest) offset = some word := by
  have inside : offset + n ≤ (front ++ toBytes n word ++ rest).length := by
    simp only [List.length_append, length_toBytes, length]
    omega
  rw [wordAt?, if_pos inside, List.append_assoc, List.drop_left' length,
    List.take_left' (length_toBytes n word), ofBytes_toBytes]

/-- A byte of a record that is known to be long enough. -/
def byteAt (bytes : List U8) (offset : ℕ) : U8 := bytes.getD offset 0

/-- An address inside a record that is known to be long enough. -/
def pubkeyAt (bytes : List U8) (offset : ℕ) : Pubkey :=
  ⟨List.ofFn fun i : Fin 32 => byteAt bytes (offset + i.val), List.length_ofFn⟩

/-! ## The packed record -/

/-- The packed pool record that follows the discriminator. -/
structure Pool where
  poolBump : U8
  index : U16
  creator : Pubkey
  baseMint : Pubkey
  quoteMint : Pubkey
  lpMint : Pubkey
  poolBaseTokenAccount : Pubkey
  poolQuoteTokenAccount : Pubkey
  lpSupply : U64
  coinCreator : Pubkey
  isMayhemMode : U8
  isCashbackCoin : U8
deriving DecidableEq

namespace Pool

/-- `size_of::<Pool>()`. -/
def size : ℕ := 237

/-- `bytemuck::from_bytes::<Pool>` on exactly the record's bytes. -/
def fromBytes (bytes : List U8) : Pool where
  poolBump := byteAt bytes 0
  index := ofBytes 2 ((bytes.drop 1).take 2)
  creator := pubkeyAt bytes 3
  baseMint := pubkeyAt bytes 35
  quoteMint := pubkeyAt bytes 67
  lpMint := pubkeyAt bytes 99
  poolBaseTokenAccount := pubkeyAt bytes 131
  poolQuoteTokenAccount := pubkeyAt bytes 163
  lpSupply := ofBytes 8 ((bytes.drop 195).take 8)
  coinCreator := pubkeyAt bytes 203
  isMayhemMode := byteAt bytes 235
  isCashbackCoin := byteAt bytes 236

end Pool

/-! ## The decoded pool -/

/-- Which side of the pair is the traded token. -/
inductive TokenSide where
  | base
  | quote
deriving DecidableEq

structure PoolInfo where
  pool : Pubkey
  poolAccountDataLen : ℕ
  baseMint : Pubkey
  quoteMint : Pubkey
  lpMint : Pubkey
  poolBaseTokenAccount : Pubkey
  poolQuoteTokenAccount : Pubkey
  creator : Pubkey
  coinCreator : Pubkey
  isMayhemMode : Bool
  isCashbackCoin : Bool
  virtualQuoteReserves : I128
  creatorFeeBps : U64
  isHolderReward : Bool
  protocolFees : U64
  creatorFees : U64
  baseTokenProgram : Pubkey
  quoteTokenProgram : Pubkey
deriving DecidableEq

namespace PoolInfo

/-- True when the pool stores WSOL on the base side. -/
def solIsBase (pool : PoolInfo) : Bool := pool.baseMint = wrappedSolMint

def tokenSide (pool : PoolInfo) : TokenSide := if pool.solIsBase then .quote else .base

/-- Mint of the traded token. -/
def tokenMint (pool : PoolInfo) : Pubkey :=
  match pool.tokenSide with
  | .base => pool.baseMint
  | .quote => pool.quoteMint

/-- Program owning the traded token's mint. -/
def tokenProgram (pool : PoolInfo) : Pubkey :=
  match pool.tokenSide with
  | .base => pool.baseTokenProgram
  | .quote => pool.quoteTokenProgram

/-- Base and quote reserves as those of SOL and of the traded token. -/
def orientReserves (pool : PoolInfo) (baseReserve quoteReserve : U64) : U64 × U64 :=
  match pool.tokenSide with
  | .base => (quoteReserve, baseReserve)
  | .quote => (baseReserve, quoteReserve)

/-- The packed record in a pool account's data. -/
def stored (data : List U8) : Pool := Pool.fromBytes ((data.drop 8).take Pool.size)

/-- Decodes a pool account, discriminator included. -/
def fromAccountData (pool : Pubkey) (data : List U8) (baseTokenProgram quoteTokenProgram : Pubkey) :
    Result PoolInfo :=
  if data.length < Pool.size + 8 then
    let expected := Pool.size + 8
    let got := data.length
    bail s!"Pool account too short: expected at least {expected}, got {got}"
  else
    let poolData := stored data
    let reservesEnd := Pool.size + 24
    .ok
      { pool
        poolAccountDataLen := data.length
        baseMint := poolData.baseMint
        quoteMint := poolData.quoteMint
        lpMint := poolData.lpMint
        poolBaseTokenAccount := poolData.poolBaseTokenAccount
        poolQuoteTokenAccount := poolData.poolQuoteTokenAccount
        creator := poolData.creator
        coinCreator := poolData.coinCreator
        isMayhemMode := poolData.isMayhemMode ≠ 0
        isCashbackCoin := poolData.isCashbackCoin ≠ 0
        virtualQuoteReserves := (wordAt? 16 data (Pool.size + 8)).getD 0
        creatorFeeBps := (wordAt? 8 data reservesEnd).getD 0
        isHolderReward := data[reservesEnd + 9]?.any (· ≠ 0)
        protocolFees := (wordAt? 8 data (reservesEnd + 10)).getD 0
        creatorFees := (wordAt? 8 data (reservesEnd + 18)).getD 0
        baseTokenProgram
        quoteTokenProgram }

/-- A decoded pool has the stored mints and creator, and the given addresses. -/
theorem fromAccountData_eq_ok {pool baseTokenProgram quoteTokenProgram : Pubkey} {data : List U8}
    {p : PoolInfo}
    (decoded : fromAccountData pool data baseTokenProgram quoteTokenProgram = .ok p) :
    p.pool = pool ∧ p.quoteMint = (stored data).quoteMint ∧
      p.coinCreator = (stored data).coinCreator ∧ p.quoteTokenProgram = quoteTokenProgram := by
  unfold fromAccountData at decoded
  split at decoded
  · cases decoded
  · obtain rfl := Except.ok.inj decoded
    exact ⟨rfl, rfl, rfl, rfl⟩

theorem fromAccountData_poolQuoteTokenAccount {pool baseTokenProgram quoteTokenProgram : Pubkey}
    {data : List U8} {p : PoolInfo}
    (decoded : fromAccountData pool data baseTokenProgram quoteTokenProgram = .ok p) :
    p.poolQuoteTokenAccount = (stored data).poolQuoteTokenAccount := by
  unfold fromAccountData at decoded
  split at decoded
  · cases decoded
  · obtain rfl := Except.ok.inj decoded
    rfl

/-- The reserves the program prices against: the signed adjustment is added to the quote
side, and the sum is clamped to a word. -/
def effectiveReserves (pool : PoolInfo) (baseReserve quoteReserve : U64) : U64 × U64 :=
  let sum := saturatingAddSigned (widen 128 quoteReserve) pool.virtualQuoteReserves
  let clamped : I128 :=
    if sum.slt 0 then 0 else if (widen 128 u64Max).slt sum then widen 128 u64Max else sum
  (baseReserve, clamped.setWidth 64)

/-- The effective quote reserve over unbounded integers. -/
def effectiveQuote (pool : PoolInfo) (quoteReserve : U64) : ℕ :=
  (min (max 0 (quoteReserve.toNat + pool.virtualQuoteReserves.toInt)) (2 ^ 64 - 1)).toNat

/-- The base side is left alone, and the quote side is the exact sum clamped to a word: the
signed addition saturates only where the clamp does. -/
theorem toNat_effectiveReserves (pool : PoolInfo) (baseReserve quoteReserve : U64) :
    (pool.effectiveReserves baseReserve quoteReserve).1 = baseReserve ∧
      (pool.effectiveReserves baseReserve quoteReserve).2.toNat =
        pool.effectiveQuote quoteReserve := by
  refine ⟨rfl, ?_⟩
  have zero : (0 : I128).toInt = 0 := by decide
  have largest : (widen 128 u64Max).toInt = 2 ^ 64 - 1 := by decide
  have quote := toInt_widen quoteReserve (v := 128) (by decide)
  have sum := toInt_saturatingAddSigned (by decide) (widen 128 quoteReserve)
    pool.virtualQuoteReserves
  have word := quoteReserve.isLt
  unfold effectiveReserves effectiveQuote
  dsimp only
  split
  · rename_i negative
    rw [BitVec.slt_iff_toInt_lt, sum, quote, zero] at negative
    rw [toNat_setWidth_of_toInt (by omega) (by omega)]
    omega
  · split
    · rename_i above
      rw [BitVec.slt_iff_toInt_lt, sum, quote, largest] at above
      rw [toNat_setWidth_of_toInt (by omega) (by omega)]
      omega
    · rename_i nonneg below
      rw [BitVec.slt_iff_toInt_lt, sum, quote, zero] at nonneg
      rw [BitVec.slt_iff_toInt_lt, sum, quote, largest] at below
      rw [toNat_setWidth_of_toInt (by omega) (by omega)]
      omega

end PoolInfo

/-! ## Bonding curves -/

def bondingCurveDiscriminator : List U8 := [23, 183, 248, 55, 96, 216, 172, 96]

/-- Byte offset of `creator_fee` in a bonding curve account. -/
def bondingCurveCreatorFeeOffset : ℕ := 125

/-- The creator fee waiting on a bonding curve; an account written before the field existed
is shorter, and has nothing waiting. -/
def bondingCurveCreatorFee (data : List U8) : Result U64 :=
  if data.length < 8 ∨ data.take 8 ≠ bondingCurveDiscriminator then
    bail "not a pump.fun BondingCurve account"
  else
    .ok ((wordAt? 8 data bondingCurveCreatorFeeOffset).getD 0)

end PumpSwapSdk
