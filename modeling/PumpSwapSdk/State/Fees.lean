import PumpSwapSdk.State.Reader

/-!
# Fees and fee schedules

A swap is charged three fees, each rounded up on its own. The rates come from the fee
program's `FeeConfig`: flat rates, or a ladder of tiers indexed by market cap.
-/

set_option autoImplicit false

namespace PumpSwapSdk

open Foundation.MachineWord

/-! ## The fee split -/

/-- `ceil(amount * bps / 10_000)` in 128 bits, saturating back into 64. -/
def ceilDivBps (amount bps : U64) : U64 :=
  let numerator := widen 128 amount * widen 128 bps
  (tryFrom 64 (divCeil numerator 10_000)).getD u64Max

/-- Fee split applied to a swap, in basis points of the quote amount. -/
structure Fees where
  lpFeeBps : U64
  protocolFeeBps : U64
  creatorFeeBps : U64
deriving DecidableEq

namespace Fees

/-- `Fees::default()`. -/
def default : Fees := ⟨0, 0, 0⟩

/-- Total fee charged on a swap, saturating. -/
def totalBps (fees : Fees) : U64 :=
  saturatingAdd (saturatingAdd fees.lpFeeBps fees.protocolFeeBps) fees.creatorFeeBps

/-- The exact fee the program deducts: each component rounded up on its own. -/
def feeOn (fees : Fees) (amount : U64) : U64 :=
  ([fees.lpFeeBps, fees.protocolFeeBps, fees.creatorFeeBps].map fun bps =>
    ceilDivBps amount bps).foldl saturatingAdd 0

def read : Read Fees := do
  let lpFeeBps ← Reader.u64
  let protocolFeeBps ← Reader.u64
  let creatorFeeBps ← Reader.u64
  pure { lpFeeBps, protocolFeeBps, creatorFeeBps }

end Fees

/-! ## The fee over unbounded integers -/

@[simp] theorem toNat_u64Max : u64Max.toNat = 2 ^ 64 - 1 := toNat_maxValue

/-- The rounded-up share never overflows before it saturates. -/
theorem toNat_ceilDivBps (amount bps : U64) :
    (ceilDivBps amount bps).toNat = min ((amount.toNat * bps.toNat) ⌈/⌉ 10_000) (2 ^ 64 - 1) := by
  have divisor : (10_000 : U128).toNat = 10_000 := by decide
  rw [ceilDivBps, u64Max, toNat_tryFrom_getD_max, toNat_divCeil _ _ (by decide),
    toNat_widen_mul_widen _ _ (by decide), divisor]

namespace Fees

variable {fees : Fees} {n m : ℕ}

/-- The sum of the rates, over unbounded integers. -/
def rate (fees : Fees) : ℕ :=
  fees.lpFeeBps.toNat + fees.protocolFeeBps.toNat + fees.creatorFeeBps.toNat

/-- The fee on an amount, over unbounded integers. -/
def charge (fees : Fees) (n : ℕ) : ℕ :=
  (n * fees.lpFeeBps.toNat) ⌈/⌉ 10_000 + (n * fees.protocolFeeBps.toNat) ⌈/⌉ 10_000 +
    (n * fees.creatorFeeBps.toNat) ⌈/⌉ 10_000

theorem toNat_totalBps (fees : Fees) : fees.totalBps.toNat = min fees.rate (2 ^ 64 - 1) := by
  simp only [totalBps, toNat_saturatingAdd, rate]
  omega

/-- A rate of at most one hundred percent, read as a natural number. -/
theorem toNat_totalBps_le (modest : fees.totalBps ≤ 10_000) : fees.totalBps.toNat ≤ 10_000 := by
  have rate : (10_000 : U64).toNat = 10_000 := by decide
  rwa [BitVec.le_def, rate] at modest

/-- The rate is not saturated when it is at most one hundred percent. -/
theorem totalBps_eq_rate (modest : fees.totalBps.toNat ≤ 10_000) :
    fees.totalBps.toNat = fees.rate := by
  have := toNat_totalBps fees
  omega

/-- The fee is the unbounded one, until the largest word. -/
theorem toNat_feeOn (fees : Fees) (amount : U64) :
    (fees.feeOn amount).toNat = min (fees.charge amount.toNat) (2 ^ 64 - 1) := by
  have start : (0 : U64).toNat = 0 := rfl
  simp only [feeOn, List.map_cons, List.map_nil, List.foldl_cons, List.foldl_nil,
    toNat_saturatingAdd, toNat_ceilDivBps, charge, start]
  omega

@[simp] theorem charge_zero : fees.charge 0 = 0 := by
  simp only [charge, Nat.zero_mul, zero_ceilDiv, Nat.add_zero]

/-- A larger amount is charged no less. -/
theorem charge_mono (fees : Fees) (le : n ≤ m) : fees.charge n ≤ fees.charge m := by
  have share (bps : U64) : (n * bps.toNat) ⌈/⌉ 10_000 ≤ (m * bps.toNat) ⌈/⌉ 10_000 :=
    (gc_smul_ceilDiv (by decide)).monotone_l (Nat.mul_le_mul_right _ le)
  exact Nat.add_le_add (Nat.add_le_add (share _) (share _)) (share _)

/-- The charge covers the combined rate, by less than one unit a component too much. -/
theorem charge_bounds (fees : Fees) (n : ℕ) :
    n * fees.rate ≤ 10_000 * fees.charge n ∧ 10_000 * fees.charge n < n * fees.rate + 30_000 := by
  have share (bps : U64) := ceilDiv_bounds (n * bps.toNat) (show 0 < 10_000 by decide)
  have lp := share fees.lpFeeBps
  have protocol := share fees.protocolFeeBps
  have creator := share fees.creatorFeeBps
  simp only [charge, rate, Nat.mul_add]
  omega

end Fees

/-! ## Fee schedules -/

/-- One rung of the fee ladder. -/
structure FeeTier where
  marketCapLamportsThreshold : U128
  fees : Fees
deriving DecidableEq

namespace FeeTier

/-- Minimum encoded size of a `FeeTier`. -/
def encodedLen : ℕ := 16 + 24

def read : Read FeeTier := do
  let marketCapLamportsThreshold ← Reader.u128
  let fees ← Fees.read
  pure { marketCapLamportsThreshold, fees }

end FeeTier

/-- The fee program's `FeeConfig` account. -/
structure FeeConfig where
  bump : U8
  admin : Pubkey
  flatFees : Fees
  feeTiers : List FeeTier
  stableFeeTiers : List FeeTier
deriving DecidableEq

def feeConfigDiscriminator : List U8 := [0x8f, 0x34, 0x92, 0xbb, 0xdb, 0x7b, 0x4c, 0x9b]

/-- Quote mints priced off `stableFeeTiers`: none. -/
def isStableQuoteMint (_quoteMint : Pubkey) : Bool := false

namespace FeeConfig

def read : Read FeeConfig := do
  let bump ← Reader.u8
  let admin ← Reader.pubkey
  let flatFees ← Fees.read
  let feeTiers ← Reader.vec FeeTier.encodedLen FeeTier.read
  let stableFeeTiers ← Reader.vec FeeTier.encodedLen FeeTier.read
  pure { bump, admin, flatFees, feeTiers, stableFeeTiers }

/-- Decodes a `FeeConfig`, discriminator included. -/
def fromAccountData (data : List U8) : Result FeeConfig := do
  let reader ← Reader.afterDiscriminator data feeConfigDiscriminator "FeeConfig"
  read.run' reader

/-- The highest tier whose threshold is at or below the market cap, on an ascending ladder. -/
def tierForMarketCap (tiers : List FeeTier) (marketCapLamports : U128) : Option FeeTier :=
  tiers.reverse.find? fun tier => tier.marketCapLamportsThreshold ≤ marketCapLamports

/-- The tier of a standard pool. -/
def feeTierForMarketCap (config : FeeConfig) (marketCapLamports : U128) : Option FeeTier :=
  tierForMarketCap config.feeTiers marketCapLamports

/-- The tier of a stable pool. -/
def stableFeeTierForMarketCap (config : FeeConfig) (marketCapLamports : U128) : Option FeeTier :=
  tierForMarketCap config.stableFeeTiers marketCapLamports

/-- The schedule the fee program returns for a pool. -/
def feesForPool (config : FeeConfig) (isTiered : Bool) (marketCapLamports : U128)
    (quoteMint : Pubkey) : Fees :=
  if !isTiered then
    config.flatFees
  else
    let ladder := if isStableQuoteMint quoteMint then config.stableFeeTiers else config.feeTiers
    (((tierForMarketCap ladder marketCapLamports).or ladder.head?).map FeeTier.fees).getD
      config.flatFees

end FeeConfig

end PumpSwapSdk
