import PumpSwapSdk.Client.Rpc
import PumpSwapSdk.Pricing.Exact

/-!
# Which fees a pool is charged

A ladder-priced pool is charged the last rung whose threshold its market cap reaches. The
market cap is a quotient rounded down, so the rung is decided by two products: a threshold is
reached when the threshold times the base reserve is at most the supply times the effective
quote reserve (`fees_from_state_picks_reached_rung`).

Below every threshold the first rung is charged, and on an empty ladder the flat fees. The
flat fees play no part, and the schedule below every threshold is the dearest one, exactly on
a ladder that has a rung and reaches one or starts with its dearest
(`ladder_fallback_is_dearest_iff`).
-/

set_option autoImplicit false

namespace PumpSwapSdk

open Foundation.MachineWord

/-! ## The last rung reached -/

namespace FeeConfig

variable {tiers : List FeeTier} {tier : FeeTier} {cap : U128}

/-- A tier is found exactly where its threshold is reached and no later one is. -/
theorem tierForMarketCap_eq_some_iff :
    tierForMarketCap tiers cap = some tier ↔
      tier.marketCapLamportsThreshold ≤ cap ∧ ∃ lower upper, tiers = lower ++ tier :: upper ∧
        ∀ later ∈ upper, ¬ later.marketCapLamportsThreshold ≤ cap := by
  rw [tierForMarketCap, List.find?_eq_some_iff_append, decide_eq_true_eq]
  refine and_congr_right fun _ => ?_
  constructor
  · rintro ⟨front, back, split, passed⟩
    refine ⟨back.reverse, front.reverse, ?_, ?_⟩
    · rw [← List.reverse_reverse tiers, split]
      simp
    · intro later member
      simpa using passed later (List.mem_reverse.mp member)
  · rintro ⟨lower, upper, rfl, passed⟩
    refine ⟨upper.reverse, lower.reverse, by simp, ?_⟩
    intro later member
    simpa using passed later (List.mem_reverse.mp member)

theorem tierForMarketCap_eq_none_iff :
    tierForMarketCap tiers cap = none ↔
      ∀ tier ∈ tiers, ¬ tier.marketCapLamportsThreshold ≤ cap := by
  simp only [tierForMarketCap, List.find?_eq_none, List.mem_reverse, decide_eq_true_eq]

/-- The ladder a pool with this quote mint is priced off. -/
def ladder (config : FeeConfig) (quoteMint : Pubkey) : List FeeTier :=
  if isStableQuoteMint quoteMint then config.stableFeeTiers else config.feeTiers

variable {config : FeeConfig} {quoteMint : Pubkey}

theorem feesForPool_flat : config.feesForPool false cap quoteMint = config.flatFees := rfl

theorem feesForPool_tiered :
    config.feesForPool true cap quoteMint =
      (((tierForMarketCap (config.ladder quoteMint) cap).or
        (config.ladder quoteMint).head?).map FeeTier.fees).getD config.flatFees := rfl

theorem feesForPool_of_reached
    (found : tierForMarketCap (config.ladder quoteMint) cap = some tier) :
    config.feesForPool true cap quoteMint = tier.fees := by
  rw [feesForPool_tiered, found, Option.some_or, Option.map_some, Option.getD_some]

/-- Below every threshold the first rung is charged, and without a rung the flat fees. -/
theorem feesForPool_of_unreached (missed : tierForMarketCap (config.ladder quoteMint) cap = none) :
    config.feesForPool true cap quoteMint =
      ((config.ladder quoteMint).head?.map FeeTier.fees).getD config.flatFees := by
  rw [feesForPool_tiered, missed, Option.none_or]

end FeeConfig

/-! ## Selection end to end -/

/-- The market cap reaches the tier's threshold, over unbounded integers: `S` of supply, `B` of
base reserve and `E` of effective quote reserve. -/
def FeeTier.Reached (tier : FeeTier) (S B E : ℕ) : Prop :=
  tier.marketCapLamportsThreshold.toNat * B ≤ S * E

/-- Rounding the market cap down does not move a rung's boundary. -/
theorem threshold_le_marketCap_iff (tier : FeeTier) (S E : U64) {B : U64} (held : 0 < B.toNat) :
    tier.marketCapLamportsThreshold ≤ marketCapLamports S B E ↔
      tier.Reached S.toNat B.toNat E.toNat := by
  rw [BitVec.le_def, toNat_marketCapLamports, Nat.le_div_iff_mul_le held, FeeTier.Reached]

theorem feesFromState_of_flat {config : FeeConfig} {pool : PoolInfo} (S B Q : U64)
    (flat : pool.coinCreator = Pubkey.default) :
    feesFromState config pool S B Q = config.flatFees := by
  have untiered : isTieredFeePool pool = false := by simp [isTieredFeePool, flat]
  rw [feesFromState, untiered]
  exact FeeConfig.feesForPool_flat

theorem feesFromState_of_tiered {config : FeeConfig} {pool : PoolInfo} (S B Q : U64)
    (tiered : pool.coinCreator ≠ Pubkey.default) :
    feesFromState config pool S B Q =
      config.feesForPool true (marketCapLamports S B (pool.effectiveReserves B Q).2)
        pool.quoteMint := by
  have priced : isTieredFeePool pool = true := by simp [isTieredFeePool, tiered]
  rw [feesFromState, priced]
  rfl

/-- **A ladder-priced pool is charged the last rung it reaches**, the first one when it reaches
none, and a pool without a coin creator the flat fees. On an ascending ladder the rungs before
the charged one are reached too. -/
theorem fees_from_state_picks_reached_rung (config : FeeConfig) (pool : PoolInfo) (S B Q : U64)
    (rungs : config.feeTiers ≠ []) :
    (pool.coinCreator ≠ Pubkey.default → 1 ≤ B →
      (∃ lower tier upper, config.feeTiers = lower ++ tier :: upper ∧
        feesFromState config pool S B Q = tier.fees ∧
        tier.Reached S.toNat B.toNat (pool.effectiveQuote Q) ∧
        (∀ later ∈ upper, ¬ later.Reached S.toNat B.toNat (pool.effectiveQuote Q)) ∧
        (config.feeTiers.Pairwise
            (fun a b => a.marketCapLamportsThreshold ≤ b.marketCapLamportsThreshold) →
          ∀ earlier ∈ lower, earlier.Reached S.toNat B.toNat (pool.effectiveQuote Q))) ∨
      (∀ tier ∈ config.feeTiers, ¬ tier.Reached S.toNat B.toNat (pool.effectiveQuote Q)) ∧
        feesFromState config pool S B Q = (config.feeTiers.head rungs).fees) ∧
    (pool.coinCreator = Pubkey.default → feesFromState config pool S B Q = config.flatFees) := by
  refine ⟨?_, feesFromState_of_flat S B Q⟩
  intro tiered held
  have quote := (pool.toNat_effectiveReserves B Q).2
  have standard : config.ladder pool.quoteMint = config.feeTiers := rfl
  have reached (tier : FeeTier) := threshold_le_marketCap_iff tier S
    (pool.effectiveReserves B Q).2 (BitVec.le_def.mp held)
  simp only [quote] at reached
  rw [feesFromState_of_tiered S B Q tiered]
  cases found : FeeConfig.tierForMarketCap (config.ladder pool.quoteMint)
      (marketCapLamports S B (pool.effectiveReserves B Q).2) with
  | some tier =>
      rw [FeeConfig.feesForPool_of_reached found]
      rw [standard, FeeConfig.tierForMarketCap_eq_some_iff] at found
      simp only [reached] at found
      obtain ⟨here, lower, upper, split, passed⟩ := found
      refine Or.inl ⟨lower, tier, upper, split, rfl, here, passed, ?_⟩
      intro ascending earlier member
      rw [split, List.pairwise_append] at ascending
      have below := ascending.2.2 earlier member tier List.mem_cons_self
      exact (Nat.mul_le_mul_right _ (BitVec.le_def.mp below)).trans here
  | none =>
      rw [FeeConfig.feesForPool_of_unreached found, standard, List.head?_eq_some_head rungs]
      rw [standard, FeeConfig.tierForMarketCap_eq_none_iff] at found
      simp only [reached] at found
      exact Or.inr ⟨found, rfl⟩

/-- The recorded coin, with 17 SOL of virtual reserves, reaches a threshold of exactly its
market cap and not one a lamport above. -/
theorem fees_from_state_picks_reached_rung_recorded :
    let config : FeeConfig := ⟨0, Recorded.shareholder, ⟨20, 5, 0⟩,
      [⟨0, ⟨2, 93, 30⟩⟩, ⟨17_080_000_000_000, ⟨20, 5, 95⟩⟩, ⟨17_080_000_000_001, ⟨20, 5, 90⟩⟩], []⟩
    let charged := feesFromState config Recorded.laterPool 1_000_000_000_000 1_000_000_000
      80_000_000
    charged = ⟨20, 5, 95⟩ ∧
      ∃ lower tier upper, config.feeTiers = lower ++ tier :: upper ∧ charged = tier.fees ∧
        tier.Reached 1_000_000_000_000 1_000_000_000 17_080_000_000 ∧
        ∀ later ∈ upper,
          ¬ later.Reached 1_000_000_000_000 1_000_000_000 17_080_000_000 := by
  intro config charged
  refine ⟨by decide +kernel, ?_⟩
  have quote : Recorded.laterPool.effectiveQuote 80_000_000 = 17_080_000_000 := by decide +kernel
  rcases (fees_from_state_picks_reached_rung config Recorded.laterPool 1_000_000_000_000
    1_000_000_000 80_000_000 (by decide)).1 (by decide +kernel) (by decide) with
    ⟨lower, tier, upper, split, same, here, passed, -⟩ | ⟨missed, -⟩
  · rw [quote] at here passed
    exact ⟨lower, tier, upper, split, same, here, passed⟩
  · exact absurd (Nat.zero_le _) (missed ⟨0, ⟨2, 93, 30⟩⟩ List.mem_cons_self)

/-! ## The fallback -/

/-- The first rung is the dearest. -/
def StartsDearest (tiers : List FeeTier) : Prop :=
  ∀ first ∈ tiers.head?, ∀ tier ∈ tiers, tier.fees.totalBps ≤ first.fees.totalBps

section Fallback

variable {config : FeeConfig} {cap : U128} {quoteMint : Pubkey}

/-- An empty ladder charges whatever the flat fees are. -/
theorem feesForPool_of_empty (config : FeeConfig) (empty : config.ladder quoteMint = []) :
    config.feesForPool true cap quoteMint = config.flatFees := by
  have missed : FeeConfig.tierForMarketCap (config.ladder quoteMint) cap = none := by
    rw [empty]
    rfl
  rw [FeeConfig.feesForPool_of_unreached missed, empty]
  rfl

/-- A ladder with a rung charges one of its rungs, whatever the flat fees are. -/
theorem feesForPool_flatFees (rungs : config.ladder quoteMint ≠ []) (flatFees : Fees) :
    { config with flatFees }.feesForPool true cap quoteMint =
      config.feesForPool true cap quoteMint := by
  have same : { config with flatFees }.ladder quoteMint = config.ladder quoteMint := rfl
  rw [FeeConfig.feesForPool_tiered, FeeConfig.feesForPool_tiered, same]
  cases FeeConfig.tierForMarketCap (config.ladder quoteMint) cap with
  | some tier => rfl
  | none =>
      rw [List.head?_eq_some_head rungs]
      rfl

end Fallback

/-- **The fallback is as promised exactly on a ladder with a rung that it reaches, or that
starts with its dearest.** The flat fees then play no part, and a market cap below every
threshold is charged no less than any rung. -/
theorem ladder_fallback_is_dearest_iff (config : FeeConfig) (cap : U128) (quoteMint : Pubkey) :
    ((∀ flatFees : Fees, { config with flatFees }.feesForPool true cap quoteMint =
        config.feesForPool true cap quoteMint) ∧
      ((∀ tier ∈ config.ladder quoteMint, ¬ tier.marketCapLamportsThreshold ≤ cap) →
        ∀ tier ∈ config.ladder quoteMint,
          tier.fees.totalBps ≤ (config.feesForPool true cap quoteMint).totalBps)) ↔
      config.ladder quoteMint ≠ [] ∧
        ((∃ tier ∈ config.ladder quoteMint, tier.marketCapLamportsThreshold ≤ cap) ∨
          StartsDearest (config.ladder quoteMint)) := by
  constructor
  · rintro ⟨unflat, dearest⟩
    have rungs : config.ladder quoteMint ≠ [] := by
      intro empty
      have charged (flatFees : Fees) : flatFees = config.flatFees := by
        have same := unflat flatFees
        rw [feesForPool_of_empty config empty] at same
        exact (feesForPool_of_empty { config with flatFees } empty).symm.trans same
      exact absurd ((charged ⟨0, 0, 0⟩).trans (charged ⟨1, 0, 0⟩).symm) (by decide)
    refine ⟨rungs, ?_⟩
    by_cases reached : ∃ tier ∈ config.ladder quoteMint, tier.marketCapLamportsThreshold ≤ cap
    · exact Or.inl reached
    · simp only [not_exists, not_and] at reached
      refine Or.inr fun first head tier member => ?_
      have below := dearest reached tier member
      rw [FeeConfig.feesForPool_of_unreached
        (FeeConfig.tierForMarketCap_eq_none_iff.mpr reached), head] at below
      exact below
  · rintro ⟨rungs, covered⟩
    refine ⟨feesForPool_flatFees rungs, ?_⟩
    intro missed tier member
    rcases covered with ⟨reached, member, below⟩ | dearest
    · exact absurd below (missed reached member)
    · rw [FeeConfig.feesForPool_of_unreached (FeeConfig.tierForMarketCap_eq_none_iff.mpr missed),
        List.head?_eq_some_head rungs]
      exact dearest _ (List.head?_eq_some_head rungs) tier member

/-- An empty ladder is charged the flat fees, and a ladder of a cheap rung before a dear one
the cheap rung's. -/
theorem ladder_fallback_is_cheap :
    (¬ ∀ (config : FeeConfig) (cap : U128) (quoteMint : Pubkey) (flatFees : Fees),
      { config with flatFees }.feesForPool true cap quoteMint =
        config.feesForPool true cap quoteMint) ∧
    ¬ ∀ (config : FeeConfig) (cap : U128) (quoteMint : Pubkey),
      (∀ tier ∈ config.ladder quoteMint, ¬ tier.marketCapLamportsThreshold ≤ cap) →
        ∀ tier ∈ config.ladder quoteMint,
          tier.fees.totalBps ≤ (config.feesForPool true cap quoteMint).totalBps := by
  constructor
  · intro unflat
    have same := unflat ⟨0, Pubkey.default, ⟨20, 5, 5⟩, [], []⟩ 0 wrappedSolMint ⟨0, 0, 0⟩
    exact absurd same (by decide +kernel)
  · intro dearest
    have covered := dearest ⟨0, Pubkey.default, ⟨20, 5, 5⟩,
      [⟨1, ⟨2, 93, 5⟩⟩, ⟨2, ⟨2, 93, 30⟩⟩], []⟩ 0 wrappedSolMint (by decide +kernel) ⟨2, ⟨2, 93, 30⟩⟩
        (by decide +kernel)
    exact absurd covered (by decide +kernel)

end PumpSwapSdk
