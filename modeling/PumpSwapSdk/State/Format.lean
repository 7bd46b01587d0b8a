import PumpSwapSdk.State.Accounts
import PumpSwapSdk.State.Fees

/-!
# The account formats

The borsh encoding of each account the reader decodes, and the proof that its decoder
accepts exactly that encoding, followed by any slack.
-/

set_option autoImplicit false

namespace PumpSwapSdk

open Foundation.ByteFormat
open Foundation.LittleEndian
open Reader

/-! ## Encodings -/

/-- A flag is one byte. -/
def encodeBool (flag : Bool) : List U8 := [if flag then 1 else 0]

def ConfigStatus.encode : ConfigStatus → List U8
  | .paused => [0]
  | .active => [1]

def Fees.encode (fees : Fees) : List U8 :=
  toBytes 8 fees.lpFeeBps ++ toBytes 8 fees.protocolFeeBps ++ toBytes 8 fees.creatorFeeBps

def FeeTier.encode (tier : FeeTier) : List U8 :=
  toBytes 16 tier.marketCapLamportsThreshold ++ tier.fees.encode

def Shareholder.encode (holder : Shareholder) : List U8 :=
  holder.address.bytes ++ toBytes 2 holder.shareBps

theorem reads_fees : ReadsFormat Fees.read 24 (fun x bytes => bytes = x.encode) := by
  have fields := Reads.field (P := fun _ => True) Fees.lpFeeBps reads_u64 fun lp =>
    Reads.field Fees.protocolFeeBps reads_u64 fun protocol =>
    Reads.field Fees.creatorFeeBps reads_u64 fun creator =>
    Reads.record (v := ⟨lp, protocol, creator⟩) fun x => by cases x; simp [and_assoc]
  exact fields.congr fun x bytes => by simp [Fees.encode]

theorem reads_feeTier : ReadsFormat FeeTier.read 40 (fun x bytes => bytes = x.encode) := by
  have fields := Reads.field (P := fun _ => True) FeeTier.marketCapLamportsThreshold
    reads_u128 fun threshold =>
    Reads.field FeeTier.fees reads_fees fun fees =>
    Reads.record (v := ⟨threshold, fees⟩) fun x => by cases x; simp
  exact fields.congr fun x bytes => by simp [FeeTier.encode]

theorem reads_shareholder :
    ReadsFormat Shareholder.read 34 (fun x bytes => bytes = x.encode) := by
  have fields := Reads.field (P := fun _ => True) Shareholder.address reads_pubkey fun address =>
    Reads.field Shareholder.shareBps reads_u16 fun share =>
    Reads.record (v := ⟨address, share⟩) fun x => by cases x; simp
  exact fields.congr fun x bytes => by simp [Shareholder.encode]

/-- A status is one byte, and no byte but 0 and 1 is a status. -/
theorem reads_configStatus :
    ReadsFormat ConfigStatus.read 1 (fun x bytes => bytes = x.encode) := by
  have decode (byte : U8) : ReadsFormat
      (if byte = 0 then pure ConfigStatus.paused else if byte = 1 then pure ConfigStatus.active
        else Read.bail s!"invalid ConfigStatus variant {byte.toNat}") 0
      (fun x bytes => [byte] = x.encode ∧ bytes = []) := by
    split
    · rename_i zero
      exact (Reads.of_pure _).congr fun x bytes => by cases x <;> simp [ConfigStatus.encode, zero]
    · rename_i not_zero
      split
      · rename_i one
        exact (Reads.of_pure _).congr fun x bytes => by cases x <;> simp [ConfigStatus.encode, one]
      · rename_i not_one
        exact (Reads.of_throw _).congr fun x bytes => by
          cases x <;> simp only [ConfigStatus.encode, List.cons.injEq, not_zero, not_one,
            false_and]
  refine (reads_u8.bind decode).congr ?_
  intro x bytes
  constructor
  · rintro ⟨_, _, _, rfl, ⟨encoded, rfl⟩, rfl⟩
    exact encoded
  · rintro rfl
    cases x with
    | paused => exact ⟨0, _, _, rfl, ⟨rfl, rfl⟩, rfl⟩
    | active => exact ⟨1, _, _, rfl, ⟨rfl, rfl⟩, rfl⟩

/-! ## Account bodies -/

namespace FeeConfig

/-- The fields of a `FeeConfig`, in declared order. -/
def encodeFields (config : FeeConfig) : List U8 :=
  [config.bump] ++ config.admin.bytes ++ config.flatFees.encode ++
    encodeVec FeeTier.encode config.feeTiers ++ encodeVec FeeTier.encode config.stableFeeTiers

def encode (config : FeeConfig) : List U8 := feeConfigDiscriminator ++ config.encodeFields

/-- A length prefix can hold the vectors' lengths. -/
def Encodable (config : FeeConfig) : Prop :=
  config.feeTiers.length < 2 ^ 32 ∧ config.stableFeeTiers.length < 2 ^ 32

end FeeConfig

theorem reads_feeConfig : ReadsFormat FeeConfig.read (2 ^ 60)
    (fun x bytes => x.Encodable ∧ bytes = x.encodeFields) := by
  have tiers := reads_vec FeeTier.encodedLen reads_feeTier
    (by intro x; simp [FeeTier.encode, Fees.encode, FeeTier.encodedLen])
  have fields := Reads.field (P := fun _ => True) FeeConfig.bump reads_u8 fun bump =>
    Reads.field FeeConfig.admin reads_pubkey fun admin =>
    Reads.field FeeConfig.flatFees reads_fees fun flat =>
    Reads.fieldIf FeeConfig.feeTiers tiers fun fee =>
    Reads.fieldIf FeeConfig.stableFeeTiers tiers fun stable =>
    Reads.record (v := ⟨bump, admin, flat, fee, stable⟩) fun x => by cases x; simp [and_assoc]
  exact (fields.mono (by decide)).congr fun x bytes => by
    simp [FeeConfig.encodeFields, FeeConfig.Encodable]

namespace GlobalConfig

/-- The fields of a `GlobalConfig`, in declared order. -/
def encodeFields (config : GlobalConfig) : List U8 :=
  config.admin.bytes ++ toBytes 8 config.lpFeeBasisPoints ++
    toBytes 8 config.protocolFeeBasisPoints ++ [config.disableFlags] ++
    config.protocolFeeRecipients.toList.flatMap Pubkey.bytes ++
    toBytes 8 config.coinCreatorFeeBasisPoints ++ config.adminSetCoinCreatorAuthority.bytes ++
    config.whitelistPda.bytes ++ config.reservedFeeRecipient.bytes ++
    encodeBool config.mayhemModeEnabled ++
    config.reservedFeeRecipients.toList.flatMap Pubkey.bytes ++
    encodeBool config.isCashbackEnabled ++
    config.buybackFeeRecipients.toList.flatMap Pubkey.bytes ++
    toBytes 8 config.buybackBasisPoints

def encode (config : GlobalConfig) : List U8 := globalConfigDiscriminator ++ config.encodeFields

end GlobalConfig

theorem reads_globalConfig : ReadsFormat GlobalConfig.read (2 ^ 60)
    (fun x bytes => bytes = x.encodeFields) := by
  have keys := reads_array reads_pubkey
  have fields := Reads.field (P := fun _ => True) GlobalConfig.admin reads_pubkey fun admin =>
    Reads.field GlobalConfig.lpFeeBasisPoints reads_u64 fun lp =>
    Reads.field GlobalConfig.protocolFeeBasisPoints reads_u64 fun protocol =>
    Reads.field GlobalConfig.disableFlags reads_u8 fun flags =>
    Reads.field GlobalConfig.protocolFeeRecipients (keys 8) fun recipients =>
    Reads.field GlobalConfig.coinCreatorFeeBasisPoints reads_u64 fun creator =>
    Reads.field GlobalConfig.adminSetCoinCreatorAuthority reads_pubkey fun authority =>
    Reads.field GlobalConfig.whitelistPda reads_pubkey fun whitelist =>
    Reads.field GlobalConfig.reservedFeeRecipient reads_pubkey fun reserved =>
    Reads.field GlobalConfig.mayhemModeEnabled reads_bool fun mayhem =>
    Reads.field GlobalConfig.reservedFeeRecipients (keys 7) fun reservedMore =>
    Reads.field GlobalConfig.isCashbackEnabled reads_bool fun cashback =>
    Reads.field GlobalConfig.buybackFeeRecipients (keys 8) fun buyback =>
    Reads.field GlobalConfig.buybackBasisPoints reads_u64 fun buybackBps =>
    Reads.record (v := ⟨admin, lp, protocol, flags, recipients, creator, authority, whitelist,
      reserved, mayhem, reservedMore, cashback, buyback, buybackBps⟩)
      fun x => by cases x; simp [and_assoc]
  exact (fields.mono (by decide)).congr fun x bytes => by
    simp [GlobalConfig.encodeFields, encodeBool]

namespace UserVolumeAccumulator

/-- The fields of a `UserVolumeAccumulator`, in declared order. -/
def encodeFields (accumulator : UserVolumeAccumulator) : List U8 :=
  accumulator.user.bytes ++ encodeBool accumulator.needsClaim ++
    toBytes 8 accumulator.totalUnclaimedTokens ++ toBytes 8 accumulator.totalClaimedTokens ++
    toBytes 8 accumulator.currentSolVolume ++ toBytes 8 accumulator.lastUpdateTimestamp ++
    encodeBool accumulator.hasTotalClaimedTokens ++ toBytes 8 accumulator.cashbackEarned ++
    toBytes 8 accumulator.totalCashbackClaimed

def encode (accumulator : UserVolumeAccumulator) : List U8 :=
  userVolumeAccumulatorDiscriminator ++ accumulator.encodeFields

end UserVolumeAccumulator

theorem reads_userVolumeAccumulator : ReadsFormat UserVolumeAccumulator.read (2 ^ 60)
    (fun x bytes => bytes = x.encodeFields) := by
  have fields := Reads.field (P := fun _ => True) UserVolumeAccumulator.user reads_pubkey
    fun user =>
    Reads.field UserVolumeAccumulator.needsClaim reads_bool fun needs =>
    Reads.field UserVolumeAccumulator.totalUnclaimedTokens reads_u64 fun unclaimed =>
    Reads.field UserVolumeAccumulator.totalClaimedTokens reads_u64 fun claimed =>
    Reads.field UserVolumeAccumulator.currentSolVolume reads_u64 fun volume =>
    Reads.field UserVolumeAccumulator.lastUpdateTimestamp reads_i64 fun timestamp =>
    Reads.field UserVolumeAccumulator.hasTotalClaimedTokens reads_bool fun hasTotal =>
    Reads.field UserVolumeAccumulator.cashbackEarned reads_u64 fun earned =>
    Reads.field UserVolumeAccumulator.totalCashbackClaimed reads_u64 fun cashback =>
    Reads.record (v := ⟨user, needs, unclaimed, claimed, volume, timestamp, hasTotal, earned,
      cashback⟩) fun x => by cases x; simp [and_assoc]
  exact (fields.mono (by decide)).congr fun x bytes => by
    simp [UserVolumeAccumulator.encodeFields, encodeBool]

namespace GlobalVolumeAccumulator

/-- The fields of a `GlobalVolumeAccumulator`, in declared order. -/
def encodeFields (accumulator : GlobalVolumeAccumulator) : List U8 :=
  toBytes 8 accumulator.startTime ++ toBytes 8 accumulator.endTime ++
    toBytes 8 accumulator.secondsInADay ++ accumulator.mint.bytes ++
    accumulator.totalTokenSupply.toList.flatMap (toBytes 8) ++
    accumulator.solVolumes.toList.flatMap (toBytes 8)

def encode (accumulator : GlobalVolumeAccumulator) : List U8 :=
  globalVolumeAccumulatorDiscriminator ++ accumulator.encodeFields

end GlobalVolumeAccumulator

theorem reads_globalVolumeAccumulator : ReadsFormat GlobalVolumeAccumulator.read (2 ^ 60)
    (fun x bytes => bytes = x.encodeFields) := by
  have words := reads_array reads_u64 volumeAccumulatorDays
  have fields := Reads.field (P := fun _ => True) GlobalVolumeAccumulator.startTime reads_i64
    fun start =>
    Reads.field GlobalVolumeAccumulator.endTime reads_i64 fun finish =>
    Reads.field GlobalVolumeAccumulator.secondsInADay reads_i64 fun day =>
    Reads.field GlobalVolumeAccumulator.mint reads_pubkey fun mint =>
    Reads.field GlobalVolumeAccumulator.totalTokenSupply words fun supply =>
    Reads.field GlobalVolumeAccumulator.solVolumes words fun volumes =>
    Reads.record (v := ⟨start, finish, day, mint, supply, volumes⟩)
      fun x => by cases x; simp [and_assoc]
  exact (fields.mono (by decide)).congr fun x bytes => by
    simp [GlobalVolumeAccumulator.encodeFields]

namespace SharingConfig

/-- The fields of a `SharingConfig`, in declared order. -/
def encodeFields (config : SharingConfig) : List U8 :=
  [config.bump] ++ [config.version] ++ config.status.encode ++ config.mint.bytes ++
    config.admin.bytes ++ encodeBool config.adminRevoked ++
    encodeVec Shareholder.encode config.shareholders

def encode (config : SharingConfig) : List U8 := sharingConfigDiscriminator ++ config.encodeFields

/-- A length prefix can hold the number of shareholders. -/
def Encodable (config : SharingConfig) : Prop := config.shareholders.length < 2 ^ 32

end SharingConfig

theorem reads_sharingConfig : ReadsFormat SharingConfig.read (2 ^ 60)
    (fun x bytes => x.Encodable ∧ bytes = x.encodeFields) := by
  have holders := reads_vec Shareholder.encodedLen reads_shareholder
    (by intro x; simp [Shareholder.encode, x.address.length_eq, Shareholder.encodedLen])
  have fields := Reads.field (P := fun _ => True) SharingConfig.bump reads_u8 fun bump =>
    Reads.field SharingConfig.version reads_u8 fun version =>
    Reads.field SharingConfig.status reads_configStatus fun status =>
    Reads.field SharingConfig.mint reads_pubkey fun mint =>
    Reads.field SharingConfig.admin reads_pubkey fun admin =>
    Reads.field SharingConfig.adminRevoked reads_bool fun revoked =>
    Reads.fieldIf SharingConfig.shareholders holders fun shareholders =>
    Reads.record (v := ⟨bump, version, status, mint, admin, revoked, shareholders⟩)
      fun x => by cases x; simp [and_assoc]
  exact (fields.mono (by decide)).congr fun x bytes => by
    simp [SharingConfig.encodeFields, SharingConfig.Encodable, encodeBool]

/-! ## Accounts -/

/-- A decoder that opens the data past its discriminator and reads the fields accepts exactly
the discriminator and the fields' encoding, whatever follows. -/
theorem decode_iff {α : Type} {read : Read α} {Ok : α → Prop} {body : α → List U8}
    (reads : ReadsFormat read (2 ^ 60) (fun x bytes => Ok x ∧ bytes = body x))
    {discriminator : List U8} (eight : discriminator.length = 8) (account : String)
    (data : List U8) (x : α) :
    (Reader.afterDiscriminator data discriminator account >>= fun reader => read.run' reader) =
        .ok x ↔
      Ok x ∧ ∃ slack, data = discriminator ++ body x ++ slack := by
  rw [bind_eq_ok_iff]
  constructor
  · rintro ⟨reader, opened, decoded⟩
    obtain ⟨found, rfl⟩ := (afterDiscriminator_eq_ok_iff eight).mp opened
    obtain ⟨_, slack, ⟨ok, rfl⟩, here⟩ :=
      (reads.result_iff (c := ⟨data, 8⟩) (show 8 + 2 ^ 60 < 2 ^ 64 by decide) x).mp decoded
    refine ⟨ok, slack, ?_⟩
    rw [← found, List.append_assoc, ← here]
    exact (List.take_append_drop 8 data).symm
  · rintro ⟨ok, slack, rfl⟩
    rw [List.append_assoc]
    have found : (discriminator ++ (body x ++ slack)).take 8 = discriminator :=
      List.take_left' eight
    refine ⟨_, (afterDiscriminator_eq_ok_iff eight).mpr ⟨found, rfl⟩, ?_⟩
    refine (reads.result_iff (show 8 + 2 ^ 60 < 2 ^ 64 by decide) x).mpr ⟨_, slack, ⟨ok, rfl⟩, ?_⟩
    exact List.drop_left' eight

/-- Every value of a type without vectors has an encoding. -/
theorem reads_always {α : Type} {read : Read α} {body : α → List U8}
    (reads : ReadsFormat read (2 ^ 60) (fun x bytes => bytes = body x)) :
    ReadsFormat read (2 ^ 60) (fun x bytes => True ∧ bytes = body x) :=
  reads.congr fun _ _ => (iff_of_eq (true_and _)).symm

namespace FeeConfig

theorem fromAccountData_iff (data : List U8) (config : FeeConfig) :
    fromAccountData data = .ok config ↔
      config.Encodable ∧ ∃ slack, data = config.encode ++ slack :=
  decode_iff reads_feeConfig rfl "FeeConfig" data config

end FeeConfig

namespace GlobalConfig

theorem fromAccountData_iff (data : List U8) (config : GlobalConfig) :
    fromAccountData data = .ok config ↔ ∃ slack, data = config.encode ++ slack :=
  (decode_iff (reads_always reads_globalConfig) rfl "GlobalConfig" data config).trans
    (iff_of_eq (true_and _))

end GlobalConfig

namespace UserVolumeAccumulator

theorem fromAccountData_iff (data : List U8) (accumulator : UserVolumeAccumulator) :
    fromAccountData data = .ok accumulator ↔ ∃ slack, data = accumulator.encode ++ slack :=
  (decode_iff (reads_always reads_userVolumeAccumulator) rfl "UserVolumeAccumulator" data
    accumulator).trans (iff_of_eq (true_and _))

end UserVolumeAccumulator

namespace GlobalVolumeAccumulator

theorem fromAccountData_iff (data : List U8) (accumulator : GlobalVolumeAccumulator) :
    fromAccountData data = .ok accumulator ↔ ∃ slack, data = accumulator.encode ++ slack :=
  (decode_iff (reads_always reads_globalVolumeAccumulator) rfl "GlobalVolumeAccumulator" data
    accumulator).trans (iff_of_eq (true_and _))

end GlobalVolumeAccumulator

namespace SharingConfig

theorem fromAccountData_iff (data : List U8) (config : SharingConfig) :
    fromAccountData data = .ok config ↔
      config.Encodable ∧ ∃ slack, data = config.encode ++ slack :=
  decode_iff reads_sharingConfig rfl "SharingConfig" data config

end SharingConfig

/-! ## Exact decoding -/

/-- A decoder accepts exactly the encodings of its type, followed by any slack, and hence no
proper beginning of one. -/
structure DecodesExactly {α : Type} (decode : List U8 → Result α) (Encodable : α → Prop)
    (encode : α → List U8) : Prop where
  ok_iff : ∀ data x, decode data = .ok x ↔ Encodable x ∧ ∃ slack, data = encode x ++ slack
  truncated : ∀ x data, Encodable x → data <+: encode x → data ≠ encode x →
    ∀ y, decode data ≠ .ok y

theorem DecodesExactly.of_iff {α : Type} {decode : List U8 → Result α} {Encodable : α → Prop}
    {encode : α → List U8}
    (ok_iff : ∀ data x, decode data = .ok x ↔ Encodable x ∧ ∃ slack, data = encode x ++ slack) :
    DecodesExactly decode Encodable encode where
  ok_iff := ok_iff
  truncated := by
    rintro x data fits ⟨rest, whole⟩ shorter y decoded
    obtain ⟨fits', slack, rfl⟩ := (ok_iff data y).mp decoded
    -- The whole encoding decodes both to its own value and to what the part decodes to.
    have here : decode (encode x) = .ok x :=
      (ok_iff _ x).mpr ⟨fits, [], (List.append_nil _).symm⟩
    have there : decode (encode x) = .ok y :=
      (ok_iff _ y).mpr ⟨fits', slack ++ rest, by rw [← whole, List.append_assoc]⟩
    obtain rfl : x = y := Except.ok.inj (here.symm.trans there)
    have nothing : slack ++ rest = [] := by
      rw [List.append_assoc] at whole
      exact List.append_right_eq_self.mp whole
    obtain ⟨rfl, -⟩ := List.append_eq_nil_iff.mp nothing
    exact shorter (List.append_nil _)

/-- **The five reader-based decoders accept exactly their format**: a string decodes to a
value if and only if it starts with the value's encoding. -/
theorem decoders_accept_exactly_their_format :
    DecodesExactly FeeConfig.fromAccountData FeeConfig.Encodable FeeConfig.encode ∧
    DecodesExactly GlobalConfig.fromAccountData (fun _ => True) GlobalConfig.encode ∧
    DecodesExactly UserVolumeAccumulator.fromAccountData (fun _ => True)
      UserVolumeAccumulator.encode ∧
    DecodesExactly GlobalVolumeAccumulator.fromAccountData (fun _ => True)
      GlobalVolumeAccumulator.encode ∧
    DecodesExactly SharingConfig.fromAccountData SharingConfig.Encodable SharingConfig.encode :=
  ⟨.of_iff FeeConfig.fromAccountData_iff,
    .of_iff (decode_iff (reads_always reads_globalConfig) rfl "GlobalConfig"),
    .of_iff (decode_iff (reads_always reads_userVolumeAccumulator) rfl "UserVolumeAccumulator"),
    .of_iff
      (decode_iff (reads_always reads_globalVolumeAccumulator) rfl "GlobalVolumeAccumulator"),
    .of_iff SharingConfig.fromAccountData_iff⟩

end PumpSwapSdk
