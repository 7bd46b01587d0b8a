import PumpSwapSdk.State.Format
import PumpSwapSdk.State.Pool

/-!
# Which accounts decode as two types

Six of the seven decoders check the discriminator they expect, and no two of them accept the
same data (`decodes_disjoint`). The pool decoder checks the length only, so that any account
long enough is also read as a pool. `no_account_decodes_twice_iff` says for which data no two
decoders succeed.
-/

set_option autoImplicit false

namespace PumpSwapSdk

/-- The accounts the SDK decodes. -/
inductive AccountType where
  | pool
  | globalConfig
  | feeConfig
  | userVolumeAccumulator
  | globalVolumeAccumulator
  | sharingConfig
  | bondingCurve
deriving DecidableEq

namespace AccountType

/-- Whether the decoder of a type succeeds. A pool's is also given the addresses it copies. -/
def decodes (pool baseTokenProgram quoteTokenProgram : Pubkey) (data : List U8) :
    AccountType → Bool
  | .pool => (PoolInfo.fromAccountData pool data baseTokenProgram quoteTokenProgram).isOk
  | .globalConfig => (GlobalConfig.fromAccountData data).isOk
  | .feeConfig => (FeeConfig.fromAccountData data).isOk
  | .userVolumeAccumulator => (UserVolumeAccumulator.fromAccountData data).isOk
  | .globalVolumeAccumulator => (GlobalVolumeAccumulator.fromAccountData data).isOk
  | .sharingConfig => (SharingConfig.fromAccountData data).isOk
  | .bondingCurve => (bondingCurveCreatorFee data).isOk

/-- The discriminator a type's decoder checks. -/
def discriminator : AccountType → Option (List U8)
  | .pool => none
  | .globalConfig => some globalConfigDiscriminator
  | .feeConfig => some feeConfigDiscriminator
  | .userVolumeAccumulator => some userVolumeAccumulatorDiscriminator
  | .globalVolumeAccumulator => some globalVolumeAccumulatorDiscriminator
  | .sharingConfig => some sharingConfigDiscriminator
  | .bondingCurve => some bondingCurveDiscriminator

/-- What data a type's decoder accepts: for a pool any that is long enough, for a curve what
starts with its discriminator, and otherwise what starts with an encoding. -/
def Accepts (data : List U8) : AccountType → Prop
  | .pool => 245 ≤ data.length
  | .globalConfig => ∃ config : GlobalConfig, config.encode <+: data
  | .feeConfig => ∃ config : FeeConfig, config.Encodable ∧ config.encode <+: data
  | .userVolumeAccumulator => ∃ accumulator : UserVolumeAccumulator, accumulator.encode <+: data
  | .globalVolumeAccumulator =>
      ∃ accumulator : GlobalVolumeAccumulator, accumulator.encode <+: data
  | .sharingConfig => ∃ config : SharingConfig, config.Encodable ∧ config.encode <+: data
  | .bondingCurve => bondingCurveDiscriminator <+: data

variable {pool baseTokenProgram quoteTokenProgram : Pubkey} {data : List U8}

theorem pool_decodes_iff :
    (PoolInfo.fromAccountData pool data baseTokenProgram quoteTokenProgram).isOk ↔
      245 ≤ data.length := by
  unfold PoolInfo.fromAccountData
  split
  · rename_i short
    simp only [Pool.size] at short
    simp only [bail, Except.isOk, Except.toBool]
    constructor
    · rintro ⟨⟩
    · omega
  · rename_i long
    simp only [Pool.size] at long
    simp only [Except.isOk, Except.toBool, true_iff]
    omega

theorem bondingCurve_decodes_iff :
    (bondingCurveCreatorFee data).isOk ↔ bondingCurveDiscriminator <+: data := by
  have starts : bondingCurveDiscriminator <+: data ↔ data.take 8 = bondingCurveDiscriminator :=
    ⟨fun found => (List.prefix_iff_eq_take.mp found).symm,
      fun found => found ▸ data.take_prefix 8⟩
  rw [starts]
  unfold bondingCurveCreatorFee
  split
  · rename_i refused
    simp only [bail, Except.isOk, Except.toBool, Bool.false_eq_true, false_iff]
    rcases refused with short | other
    · intro found
      have length := congrArg List.length found
      rw [List.length_take] at length
      simp only [bondingCurveDiscriminator, List.length_cons, List.length_nil] at length
      omega
    · exact other
  · rename_i accepted
    simp only [Except.isOk, Except.toBool, true_iff]
    exact not_not.mp (not_or.mp accepted).2

theorem prefix_iff {front : List U8} : front <+: data ↔ ∃ slack, data = front ++ slack :=
  exists_congr fun _ => eq_comm

/-- A decoder succeeds exactly on the data its type accepts. -/
theorem decodes_iff (type : AccountType) :
    decodes pool baseTokenProgram quoteTokenProgram data type ↔ Accepts data type := by
  cases type with
  | pool => exact pool_decodes_iff
  | bondingCurve => exact bondingCurve_decodes_iff
  | globalConfig =>
      exact isOk_iff.trans (exists_congr fun config =>
        (GlobalConfig.fromAccountData_iff data config).trans prefix_iff.symm)
  | feeConfig =>
      exact isOk_iff.trans (exists_congr fun config =>
        (FeeConfig.fromAccountData_iff data config).trans (and_congr_right' prefix_iff.symm))
  | userVolumeAccumulator =>
      exact isOk_iff.trans (exists_congr fun accumulator =>
        (UserVolumeAccumulator.fromAccountData_iff data accumulator).trans prefix_iff.symm)
  | globalVolumeAccumulator =>
      exact isOk_iff.trans (exists_congr fun accumulator =>
        (GlobalVolumeAccumulator.fromAccountData_iff data accumulator).trans prefix_iff.symm)
  | sharingConfig =>
      exact isOk_iff.trans (exists_congr fun config =>
        (SharingConfig.fromAccountData_iff data config).trans (and_congr_right' prefix_iff.symm))

/-- Accepted data starts with the type's discriminator. -/
theorem Accepts.discriminator {type : AccountType} {expected : List U8}
    (checked : type.discriminator = some expected) (accepted : Accepts data type) :
    expected <+: data := by
  cases type with
  | pool => cases checked
  | bondingCurve =>
      cases checked
      exact accepted
  | globalConfig =>
      cases checked
      obtain ⟨config, found⟩ := accepted
      exact (List.prefix_append _ config.encodeFields).trans found
  | feeConfig =>
      cases checked
      obtain ⟨config, -, found⟩ := accepted
      exact (List.prefix_append _ config.encodeFields).trans found
  | userVolumeAccumulator =>
      cases checked
      obtain ⟨accumulator, found⟩ := accepted
      exact (List.prefix_append _ accumulator.encodeFields).trans found
  | globalVolumeAccumulator =>
      cases checked
      obtain ⟨accumulator, found⟩ := accepted
      exact (List.prefix_append _ accumulator.encodeFields).trans found
  | sharingConfig =>
      cases checked
      obtain ⟨config, -, found⟩ := accepted
      exact (List.prefix_append _ config.encodeFields).trans found

/-- Discriminators have eight bytes. -/
theorem length_discriminator {type : AccountType} {expected : List U8}
    (checked : type.discriminator = some expected) : expected.length = 8 := by
  cases type <;> cases checked <;> rfl

/-- Two types with the same discriminator are the same. -/
theorem discriminator_injective {s t : AccountType} (checked : s ≠ .pool)
    (same : s.discriminator = t.discriminator) : s = t := by
  cases s <;> cases t <;> first | rfl | exact absurd rfl checked | exact absurd same (by decide)

/-- **Decoders that check their discriminator are disjoint.** -/
theorem decodes_disjoint {s t : AccountType} (checked : s ≠ .pool) (checked' : t ≠ .pool)
    (first : decodes pool baseTokenProgram quoteTokenProgram data s)
    (second : decodes pool baseTokenProgram quoteTokenProgram data t) : s = t := by
  have some_discriminator {u : AccountType} (not_pool : u ≠ .pool) :
      ∃ expected, u.discriminator = some expected := by
    cases u <;> first | exact absurd rfl not_pool | exact ⟨_, rfl⟩
  obtain ⟨expected, found⟩ := some_discriminator checked
  obtain ⟨expected', found'⟩ := some_discriminator checked'
  have starts := (decodes_iff s).mp first |>.discriminator found
  have starts' := (decodes_iff t).mp second |>.discriminator found'
  have equal : expected = expected' := by
    have lengths : expected.length = expected'.length := by
      rw [length_discriminator found, length_discriminator found']
    exact (List.prefix_of_prefix_length_le starts starts' lengths.le).eq_of_length lengths
  exact discriminator_injective checked (by rw [found, found', equal])

/-- **When no account decodes as two types.** No two decoders succeed on the same data exactly
when it is too short for a pool, or is nothing else: it starts with neither the curve
discriminator nor an encoding of one of the five reader-based types. -/
theorem no_account_decodes_twice_iff (pool baseTokenProgram quoteTokenProgram : Pubkey)
    (data : List U8) :
    (∀ s t, decodes pool baseTokenProgram quoteTokenProgram data s →
        decodes pool baseTokenProgram quoteTokenProgram data t → s = t) ↔
      data.length < 245 ∨
        ¬ bondingCurveDiscriminator <+: data ∧
        (∀ config : GlobalConfig, ¬ config.encode <+: data) ∧
        (∀ config : FeeConfig, config.Encodable → ¬ config.encode <+: data) ∧
        (∀ accumulator : UserVolumeAccumulator, ¬ accumulator.encode <+: data) ∧
        (∀ accumulator : GlobalVolumeAccumulator, ¬ accumulator.encode <+: data) ∧
        ∀ config : SharingConfig, config.Encodable → ¬ config.encode <+: data := by
  have nothing_else : (∀ t, t ≠ .pool → ¬ Accepts data t) ↔
      ¬ bondingCurveDiscriminator <+: data ∧
      (∀ config : GlobalConfig, ¬ config.encode <+: data) ∧
      (∀ config : FeeConfig, config.Encodable → ¬ config.encode <+: data) ∧
      (∀ accumulator : UserVolumeAccumulator, ¬ accumulator.encode <+: data) ∧
      (∀ accumulator : GlobalVolumeAccumulator, ¬ accumulator.encode <+: data) ∧
      ∀ config : SharingConfig, config.Encodable → ¬ config.encode <+: data := by
    constructor
    · intro nothing
      exact ⟨nothing .bondingCurve nofun, not_exists.mp (nothing .globalConfig nofun),
        fun config fits found => nothing .feeConfig nofun ⟨config, fits, found⟩,
        not_exists.mp (nothing .userVolumeAccumulator nofun),
        not_exists.mp (nothing .globalVolumeAccumulator nofun),
        fun config fits found => nothing .sharingConfig nofun ⟨config, fits, found⟩⟩
    · rintro ⟨curve, global, fee, user, volume, sharing⟩ t not_pool
      cases t with
      | pool => exact absurd rfl not_pool
      | globalConfig => exact not_exists.mpr global
      | feeConfig => exact fun ⟨config, fits, found⟩ => fee config fits found
      | userVolumeAccumulator => exact not_exists.mpr user
      | globalVolumeAccumulator => exact not_exists.mpr volume
      | sharingConfig => exact fun ⟨config, fits, found⟩ => sharing config fits found
      | bondingCurve => exact curve
  rw [← nothing_else]
  constructor
  · intro unique
    refine or_iff_not_imp_left.mpr fun long t not_pool accepted => not_pool ?_
    exact unique t .pool ((decodes_iff t).mpr accepted)
      ((decodes_iff .pool).mpr (not_lt.mp long))
  · intro alone s t first second
    -- A pair that includes the pool decoder needs long data, and then nothing else decodes.
    have pool_only {u v : AccountType} (is_pool : u = .pool)
        (long : decodes pool baseTokenProgram quoteTokenProgram data u)
        (other : decodes pool baseTokenProgram quoteTokenProgram data v) : v = .pool := by
      subst is_pool
      by_contra not_pool
      rcases alone with short | nothing
      · exact absurd ((decodes_iff .pool).mp long) (not_le.mpr short)
      · exact nothing v not_pool ((decodes_iff v).mp other)
    by_cases s_pool : s = .pool
    · rw [s_pool, pool_only s_pool first second]
    · by_cases t_pool : t = .pool
      · exact absurd (pool_only t_pool second first) s_pool
      · exact decodes_disjoint s_pool t_pool first second

/-- A global configuration of zero bytes also decodes as a pool. -/
theorem globalConfig_decodes_as_pool :
    ¬ ∀ (pool baseTokenProgram quoteTokenProgram : Pubkey) (data : List U8) (s t : AccountType),
      decodes pool baseTokenProgram quoteTokenProgram data s →
        decodes pool baseTokenProgram quoteTokenProgram data t → s = t := by
  intro unique
  have same := unique .default .default .default
    (globalConfigDiscriminator ++ List.replicate 899 0) .globalConfig .pool
    (by decide +kernel) (by decide +kernel)
  cases same

end AccountType

end PumpSwapSdk
