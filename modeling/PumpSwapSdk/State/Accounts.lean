import PumpSwapSdk.State.Reader

/-!
# Configuration and accumulator accounts

The other accounts the SDK decodes with the borsh reader: the program's `GlobalConfig`, the
two volume accumulators and a coin's `SharingConfig`. Each decoder opens the data past its
own discriminator, reads the fields in declared order and ignores what follows.
-/

set_option autoImplicit false

namespace PumpSwapSdk

/-! ## Global configuration -/

def globalConfigDiscriminator : List U8 := [0x95, 0x08, 0x9c, 0xca, 0xa0, 0xfc, 0xb0, 0xd9]

structure GlobalConfig where
  admin : Pubkey
  lpFeeBasisPoints : U64
  protocolFeeBasisPoints : U64
  disableFlags : U8
  protocolFeeRecipients : List.Vector Pubkey 8
  coinCreatorFeeBasisPoints : U64
  adminSetCoinCreatorAuthority : Pubkey
  whitelistPda : Pubkey
  reservedFeeRecipient : Pubkey
  mayhemModeEnabled : Bool
  reservedFeeRecipients : List.Vector Pubkey 7
  isCashbackEnabled : Bool
  buybackFeeRecipients : List.Vector Pubkey 8
  buybackBasisPoints : U64

namespace GlobalConfig

def read : Read GlobalConfig := do
  let admin ← Reader.pubkey
  let lpFeeBasisPoints ← Reader.u64
  let protocolFeeBasisPoints ← Reader.u64
  let disableFlags ← Reader.u8
  let protocolFeeRecipients ← Reader.pubkeyArray 8
  let coinCreatorFeeBasisPoints ← Reader.u64
  let adminSetCoinCreatorAuthority ← Reader.pubkey
  let whitelistPda ← Reader.pubkey
  let reservedFeeRecipient ← Reader.pubkey
  let mayhemModeEnabled ← Reader.bool
  let reservedFeeRecipients ← Reader.pubkeyArray 7
  let isCashbackEnabled ← Reader.bool
  let buybackFeeRecipients ← Reader.pubkeyArray 8
  let buybackBasisPoints ← Reader.u64
  pure
    { admin, lpFeeBasisPoints, protocolFeeBasisPoints, disableFlags, protocolFeeRecipients
      coinCreatorFeeBasisPoints, adminSetCoinCreatorAuthority, whitelistPda
      reservedFeeRecipient, mayhemModeEnabled, reservedFeeRecipients, isCashbackEnabled
      buybackFeeRecipients, buybackBasisPoints }

/-- Decodes a `GlobalConfig`, discriminator included. -/
def fromAccountData (data : List U8) : Result GlobalConfig := do
  let reader ← Reader.afterDiscriminator data globalConfigDiscriminator "GlobalConfig"
  read.run' reader

/-- The reserved fee recipient and the seven others. -/
def allReservedFeeRecipients (config : GlobalConfig) : List.Vector Pubkey 8 :=
  config.reservedFeeRecipient ::ᵥ config.reservedFeeRecipients

end GlobalConfig

/-! ## Volume accumulators -/

def userVolumeAccumulatorDiscriminator : List U8 :=
  [0x56, 0xff, 0x70, 0x0e, 0x66, 0x35, 0x9a, 0xfa]

def globalVolumeAccumulatorDiscriminator : List U8 :=
  [0xca, 0x2a, 0xf6, 0x2b, 0x8e, 0xbe, 0x1e, 0xff]

/-- Number of day buckets in a `GlobalVolumeAccumulator`. -/
def volumeAccumulatorDays : ℕ := 30

structure UserVolumeAccumulator where
  user : Pubkey
  needsClaim : Bool
  totalUnclaimedTokens : U64
  totalClaimedTokens : U64
  currentSolVolume : U64
  lastUpdateTimestamp : I64
  hasTotalClaimedTokens : Bool
  cashbackEarned : U64
  totalCashbackClaimed : U64
deriving DecidableEq

namespace UserVolumeAccumulator

def read : Read UserVolumeAccumulator := do
  let user ← Reader.pubkey
  let needsClaim ← Reader.bool
  let totalUnclaimedTokens ← Reader.u64
  let totalClaimedTokens ← Reader.u64
  let currentSolVolume ← Reader.u64
  let lastUpdateTimestamp ← Reader.i64
  let hasTotalClaimedTokens ← Reader.bool
  let cashbackEarned ← Reader.u64
  let totalCashbackClaimed ← Reader.u64
  pure
    { user, needsClaim, totalUnclaimedTokens, totalClaimedTokens, currentSolVolume
      lastUpdateTimestamp, hasTotalClaimedTokens, cashbackEarned, totalCashbackClaimed }

/-- The counters of a user who has no accumulator. -/
def empty (user : Pubkey) : UserVolumeAccumulator :=
  { user, needsClaim := false, totalUnclaimedTokens := 0, totalClaimedTokens := 0
    currentSolVolume := 0, lastUpdateTimestamp := 0, hasTotalClaimedTokens := false
    cashbackEarned := 0, totalCashbackClaimed := 0 }

/-- Decodes a `UserVolumeAccumulator`, discriminator included. -/
def fromAccountData (data : List U8) : Result UserVolumeAccumulator := do
  let reader ←
    Reader.afterDiscriminator data userVolumeAccumulatorDiscriminator "UserVolumeAccumulator"
  read.run' reader

end UserVolumeAccumulator

structure GlobalVolumeAccumulator where
  startTime : I64
  endTime : I64
  secondsInADay : I64
  mint : Pubkey
  totalTokenSupply : List.Vector U64 volumeAccumulatorDays
  solVolumes : List.Vector U64 volumeAccumulatorDays

namespace GlobalVolumeAccumulator

def read : Read GlobalVolumeAccumulator := do
  let startTime ← Reader.i64
  let endTime ← Reader.i64
  let secondsInADay ← Reader.i64
  let mint ← Reader.pubkey
  let totalTokenSupply ← Reader.u64Array volumeAccumulatorDays
  let solVolumes ← Reader.u64Array volumeAccumulatorDays
  pure { startTime, endTime, secondsInADay, mint, totalTokenSupply, solVolumes }

/-- Decodes a `GlobalVolumeAccumulator`, discriminator included. -/
def fromAccountData (data : List U8) : Result GlobalVolumeAccumulator := do
  let reader ←
    Reader.afterDiscriminator data globalVolumeAccumulatorDiscriminator "GlobalVolumeAccumulator"
  read.run' reader

end GlobalVolumeAccumulator

/-! ## Fee sharing -/

def sharingConfigDiscriminator : List U8 := [0xd8, 0x4a, 0x09, 0x00, 0x38, 0x8c, 0x5d, 0x4b]

/-- Whether a `SharingConfig` is paying out. -/
inductive ConfigStatus where
  | paused
  | active
deriving DecidableEq

namespace ConfigStatus

def read : Read ConfigStatus := do
  let byte ← Reader.u8
  if byte = 0 then pure .paused
  else if byte = 1 then pure .active
  else
    let other := byte.toNat
    Read.bail s!"invalid ConfigStatus variant {other}"

end ConfigStatus

/-- One payee of a coin's creator fees, and its share. -/
structure Shareholder where
  address : Pubkey
  shareBps : U16
deriving DecidableEq

namespace Shareholder

def read : Read Shareholder := do
  let address ← Reader.pubkey
  let shareBps ← Reader.u16
  pure { address, shareBps }

/-- Encoded size of a `Shareholder`. -/
def encodedLen : ℕ := 32 + 2

end Shareholder

structure SharingConfig where
  bump : U8
  version : U8
  status : ConfigStatus
  mint : Pubkey
  admin : Pubkey
  adminRevoked : Bool
  shareholders : List Shareholder
deriving DecidableEq

namespace SharingConfig

def read : Read SharingConfig := do
  let bump ← Reader.u8
  let version ← Reader.u8
  let status ← ConfigStatus.read
  let mint ← Reader.pubkey
  let admin ← Reader.pubkey
  let adminRevoked ← Reader.bool
  let shareholders ← Reader.vec Shareholder.encodedLen Shareholder.read
  pure { bump, version, status, mint, admin, adminRevoked, shareholders }

/-- Decodes a `SharingConfig`, discriminator included. -/
def fromAccountData (data : List U8) : Result SharingConfig := do
  let reader ← Reader.afterDiscriminator data sharingConfigDiscriminator "SharingConfig"
  read.run' reader

/-- True when the config is paying out. -/
def isActive (config : SharingConfig) : Bool := config.status = .active

end SharingConfig

end PumpSwapSdk
