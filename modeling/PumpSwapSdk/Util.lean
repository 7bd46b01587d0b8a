import PumpSwapSdk.State.Pool

/-!
# Derived addresses and random picks

The functions the SDK calls in other crates are a parameter, `Crates`: address derivation is
used through its inputs only. The random draws of one call are a parameter too, `Choices`, so
that two runs can be compared under the same draws.
-/

set_option autoImplicit false

namespace PumpSwapSdk

open Foundation.LittleEndian

/-! ## Other crates -/

/-- What the SDK is built with: the functions of other crates that it calls, and whether
arithmetic is checked for overflow. -/
structure Crates where
  /-- `Pubkey::find_program_address`: the derived address and its bump. -/
  findProgramAddress : List (List U8) → Pubkey → Pubkey × U8
  /-- The associated token account of an owner and a mint under a token program. -/
  getAssociatedTokenAddressWithProgramId : Pubkey → Pubkey → Pubkey → Pubkey
  /-- `Pubkey::create_with_seed`. -/
  createWithSeed : Pubkey → String → Pubkey → Result Pubkey
  /-- `bs58::encode`. -/
  bs58Encode : List U8 → String
  /-- `Rent::default().minimum_balance`. -/
  minimumBalance : ℕ → U64
  /-- The check of its program that the token crate makes before it builds an instruction. -/
  checkProgramAccount : Pubkey → Result Unit
  overflowChecks : Bool

namespace Crates

/-- The associated token account under the classic token program. -/
def getAssociatedTokenAddress (crates : Crates) (owner mint : Pubkey) : Pubkey :=
  crates.getAssociatedTokenAddressWithProgramId owner mint SplToken.id

/-- An address as it is displayed. -/
def display (crates : Crates) (key : Pubkey) : String := crates.bs58Encode key.bytes

end Crates

/-- `a + b`, which panics on overflow in a checked build and wraps in an unchecked one. -/
def addU64 (crates : Crates) (a b : U64) : Result U64 :=
  if crates.overflowChecks ∧ 2 ^ 64 ≤ a.toNat + b.toNat then
    .error (.panicked "attempt to add with overflow")
  else .ok (a + b)

/-- The random draws of one call. -/
structure Choices where
  seedBytes : List.Vector U8 32
  protocolFeeRecipient : Fin 8
  reservedFeeRecipient : Fin 8
  buybackFeeRecipient : Fin 8

/-- The bytes of an ASCII text. -/
def ascii (text : String) : List U8 := text.toList.map fun c => BitVec.ofNat 8 c.toNat

section Derived

variable (crates : Crates)

/-! ## pump-amm addresses -/

/-- PDA: `["pool", index_le_bytes, creator, base_mint, quote_mint]`. -/
def calcPoolPdaWithIndex (index : U16) (creator baseMint quoteMint : Pubkey) : Pubkey × U8 :=
  crates.findProgramAddress
    [ascii "pool", toBytes 2 index, creator.bytes, baseMint.bytes, quoteMint.bytes]
    pumpSwapProgramId

def calcPoolPda (creator baseMint quoteMint : Pubkey) : Pubkey × U8 :=
  calcPoolPdaWithIndex crates 0 creator baseMint quoteMint

/-- PDA: `["pool_lp_mint", pool]`. -/
def calcLpMintPda (pool : Pubkey) : Pubkey × U8 :=
  crates.findProgramAddress [ascii "pool_lp_mint", pool.bytes] pumpSwapProgramId

/-- A user's LP token account. -/
def calcUserPoolTokenAccount (creator lpMint : Pubkey) : Pubkey × U8 :=
  crates.findProgramAddress [creator.bytes, SplToken2022.id.bytes, lpMint.bytes]
    SplAssociatedTokenAccount.id

/-- PDA: `["user_volume_accumulator", user]`. -/
def findUserVolAccumulator (user : Pubkey) : Pubkey :=
  (crates.findProgramAddress [ascii "user_volume_accumulator", user.bytes] pumpSwapProgramId).1

/-- PDA: `["creator_vault", coin_creator]`. -/
def findCoinCreatorVaultAuthority (coinCreator : Pubkey) : Pubkey :=
  (crates.findProgramAddress [ascii "creator_vault", coinCreator.bytes] pumpSwapProgramId).1

/-- The quote token account of a vault. -/
def findCoinCreatorVaultAta (coinCreatorVaultAuthority quoteTokenProgram quoteMint : Pubkey) :
    Pubkey :=
  crates.getAssociatedTokenAddressWithProgramId coinCreatorVaultAuthority quoteMint
    quoteTokenProgram

/-- PDA: `["pool-v2", base_mint]`. -/
def poolV2Pda (baseMint : Pubkey) : Pubkey :=
  (crates.findProgramAddress [ascii "pool-v2", baseMint.bytes] pumpSwapProgramId).1

def userVolumeAccumulatorQuoteAta (user quoteMint quoteTokenProgram : Pubkey) : Pubkey :=
  crates.getAssociatedTokenAddressWithProgramId (findUserVolAccumulator crates user) quoteMint
    quoteTokenProgram

/-! ## Fee program and pump.fun addresses -/

/-- PDA: `["fee_config", pump_amm_program_id]`. -/
def feeConfigPda : Pubkey :=
  (crates.findProgramAddress [ascii "fee_config", pumpSwapProgramId.bytes] feeProgram).1

/-- PDA: `["sharing-config", mint]`. -/
def sharingConfigPda (mint : Pubkey) : Pubkey :=
  (crates.findProgramAddress [ascii "sharing-config", mint.bytes] feeProgram).1

/-- PDA: `["bonding-curve", mint]`. -/
def bondingCurvePda (mint : Pubkey) : Pubkey :=
  (crates.findProgramAddress [ascii "bonding-curve", mint.bytes] pumpfunProgram).1

/-- PDA: `["creator-vault", creator]`, hyphenated where pump-amm's vault is not. -/
def pumpCreatorVaultPda (creator : Pubkey) : Pubkey :=
  (crates.findProgramAddress [ascii "creator-vault", creator.bytes] pumpfunProgram).1

/-- PDA: `["pool-authority", mint]`. -/
def pumpPoolAuthorityPda (mint : Pubkey) : Pubkey :=
  (crates.findProgramAddress [ascii "pool-authority", mint.bytes] pumpfunProgram).1

/-- The pool a coin graduates into. -/
def canonicalPoolPda (mint quoteMint : Pubkey) : Pubkey :=
  (calcPoolPda crates (pumpPoolAuthorityPda crates mint) mint quoteMint).1

/-- PDA: `["metadata", metaplex_program, mint]`. -/
def tokenMetadataPda (mint : Pubkey) : Pubkey :=
  (crates.findProgramAddress [ascii "metadata", tokenMetadataProgram.bytes, mint.bytes]
    tokenMetadataProgram).1

/-- The sharing config a pool's creator fees go to, if they go to one. -/
def PoolInfo.feeSharingConfig (pool : PoolInfo) : Option Pubkey :=
  let derived := sharingConfigPda crates pool.baseMint
  if pool.coinCreator = derived then some derived else none

/-! ## Random picks -/

/-- A fresh address derived from a random seed of 32 characters, and the seed. -/
def genPubkeyWithSeed (choices : Choices) (fromPublicKey : Pubkey) : Result (Pubkey × String) := do
  let seed := String.ofList ((crates.bs58Encode choices.seedBytes.toList).toList.take 32)
  let publicKey ← crates.createWithSeed fromPublicKey seed SplToken.id
  .ok (publicKey, seed)

def pickProtocolFeeRecipient (choices : Choices) : Pubkey :=
  protocolFeeRecipients.get choices.protocolFeeRecipient

def pickReservedFeeRecipient (choices : Choices) : Pubkey :=
  reservedFeeRecipients.get choices.reservedFeeRecipient

/-- The protocol fee recipient that the pool's mode accepts. -/
def pickProtocolFeeRecipientForPool (choices : Choices) (isMayhemMode : Bool) : Pubkey :=
  if isMayhemMode then pickReservedFeeRecipient choices else pickProtocolFeeRecipient choices

def pickBuybackFeeRecipient (choices : Choices) : Pubkey :=
  buybackFeeRecipients.get choices.buybackFeeRecipient

end Derived

/-! ## One recorded coin -/

/-- The bytewise difference of two addresses. -/
def Pubkey.xor (a b : Pubkey) : Pubkey where
  bytes := List.zipWith (· ^^^ ·) a.bytes b.bytes
  length_eq := by rw [List.length_zipWith, a.length_eq, b.length_eq, Nat.min_self]

/-- Lists of one length are told apart by their differences to a third. -/
theorem zipWith_xor_cancel {xs ys zs : List U8} (xs_length : xs.length = zs.length)
    (ys_length : ys.length = zs.length)
    (same : List.zipWith (· ^^^ ·) xs zs = List.zipWith (· ^^^ ·) ys zs) : xs = ys := by
  induction zs generalizing xs ys with
  | nil => rw [List.length_eq_zero_iff.mp xs_length, List.length_eq_zero_iff.mp ys_length]
  | cons z zs ih =>
      obtain ⟨x, xs, rfl⟩ := List.exists_cons_of_length_eq_add_one xs_length
      obtain ⟨y, ys, rfl⟩ := List.exists_cons_of_length_eq_add_one ys_length
      obtain ⟨head, tail⟩ := List.cons.inj same
      rw [(BitVec.xor_left_inj z).mp head,
        ih (Nat.succ.inj xs_length) (Nat.succ.inj ys_length) tail]

theorem Pubkey.xor_injective (shift : Pubkey) :
    Function.Injective fun a : Pubkey => a.xor shift := by
  intro a b same
  exact Pubkey.ext_bytes (zipWith_xor_cancel (a.length_eq.trans shift.length_eq.symm)
    (b.length_eq.trans shift.length_eq.symm) (congrArg Pubkey.bytes same))

theorem Pubkey.xor_comm (a b : Pubkey) : a.xor b = b.xor a :=
  Pubkey.ext_bytes (List.zipWith_comm_of_comm BitVec.xor_comm)

theorem Pubkey.xor_injective_right (shift : Pubkey) :
    Function.Injective fun a : Pubkey => shift.xor a := by
  intro a b same
  apply Pubkey.xor_injective shift
  simpa only [Pubkey.xor_comm shift] using same

namespace Recorded

/-- The mint of a live fee-sharing coin; the other addresses are derived from it. -/
def mint : Pubkey := pubkey "57KoEZXm2mJwFqbB7fvcgZmmjc9mivFmKhXA45H3pump"

def bondingCurve : Pubkey := pubkey "GE4Mcujd5zYiqWDjRg68CEh67mfX5BsS1VyUWPPsQgCG"

def poolAuthority : Pubkey := pubkey "7cmn4xwThDjduqwxxWxDcxswMWtqwXRFMetFRsQGHEUM"

def pool : Pubkey := pubkey "EFdiWRJrrv93NMqAbC8sANQ4av1CwzZteyNposu5QHG2"

def sharingConfig : Pubkey := pubkey "YezcoBYwhL2V5ZLcPWrbFJQetvjtUXAyNWQmrkxAPgh"

def vaultAuthority : Pubkey := pubkey "BXdAfYjPKUmmix5zYVdVrkDyPQRAj5ZZDM933cZK9Tad"

def vaultWsolAta : Pubkey := pubkey "26mpTjY6VebDVFKUUuHN2v2qj2FJy6P9Ui7GvVZSJgRg"

def pumpCreatorVault : Pubkey := pubkey "8CoWk2ZYjsBZEy8yLqWEK9mtZ8tkAbAFrbmtyyuhEqGg"

def shareholder : Pubkey := pubkey "Ao6bNP1o68EzVKy296rR5Jg6iAUUQNU2FA65Wvs7aR2U"

/-- What a derivation under a tag adds to its key, so that the coin's come out as recorded. -/
def shift (tag : List U8) : Pubkey :=
  if tag = ascii "sharing-config" then mint.xor sharingConfig
  else if tag = ascii "bonding-curve" then mint.xor bondingCurve
  else if tag = ascii "pool-authority" then mint.xor poolAuthority
  else if tag = ascii "creator_vault" then sharingConfig.xor vaultAuthority
  else if tag = ascii "creator-vault" then sharingConfig.xor pumpCreatorVault
  else Pubkey.default

/-- Derivations that are injective in their key, and give the coin's recorded addresses. -/
def crates : Crates where
  findProgramAddress := fun seeds _ =>
    match seeds with
    | [tag, key] =>
        if length_eq : key.length = 32 then (Pubkey.xor ⟨key, length_eq⟩ (shift tag), 255)
        else (Pubkey.default, 255)
    | _ => (pool, 255)
  getAssociatedTokenAddressWithProgramId := fun owner mint tokenProgram =>
    owner.xor
      (if mint = wrappedSolMint ∧ tokenProgram = SplToken.id then vaultAuthority.xor vaultWsolAta
      else Pubkey.default)
  createWithSeed := fun base _ _ => .ok base
  bs58Encode := fun bytes => String.ofList (bytes.map fun byte => Char.ofNat byte.toNat)
  minimumBalance := fun size => BitVec.ofNat 64 ((128 + size) * 6_960)
  checkProgramAccount := fun key =>
    if key = SplToken.id then .ok () else bail "incorrect program id for instruction"
  overflowChecks := true

/-- The pool as it was when it was created, without virtual reserves. -/
def oldPool : PoolInfo where
  pool := pool
  poolAccountDataLen := 243
  baseMint := mint
  quoteMint := wrappedSolMint
  lpMint := Pubkey.default
  poolBaseTokenAccount := poolAuthority
  poolQuoteTokenAccount := vaultWsolAta
  creator := poolAuthority
  coinCreator := sharingConfig
  isMayhemMode := false
  isCashbackCoin := false
  virtualQuoteReserves := 0
  creatorFeeBps := 0
  isHolderReward := false
  protocolFees := 0
  creatorFees := 0
  baseTokenProgram := SplToken.id
  quoteTokenProgram := SplToken.id

/-- The pool later on, with virtual reserves and waiting fees. -/
def laterPool : PoolInfo :=
  { oldPool with
    poolAccountDataLen := 301
    virtualQuoteReserves := 17_000_000_000
    protocolFees := 5
    creatorFees := 7 }

end Recorded

end PumpSwapSdk
