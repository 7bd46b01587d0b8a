import PumpSwapSdk.Client.FeeMove
import PumpSwapSdk.Foundation.StaleRead

/-!
# Payouts race with trades

A payout is built from a read of the coin's curve and pool. Until it lands, anyone may trade
on the curve or in the pool, graduate the coin, or sweep its fees (`CoinStep`). pump.fun
refuses the distribution while a fee waits on the curve.

The builder leaves the curve's sweep out only when it has read a graduated coin with no fee on
its curve. No step breaks that (`stable_graduated_and_swept`), so a payout always distributes
from a swept curve (`payout_reaches_distribution`), also when the sweeps of a graduated coin
are sent ahead on their own.
-/

set_option autoImplicit false

namespace PumpSwapSdk

open Foundation.LittleEndian
open Foundation.StaleRead
open Relation (ReflTransGen)

/-! ## The coin on the chain -/

/-- The fees that wait on a coin's curve and in its pool. -/
structure Coin where
  graduated : Bool
  curveFee : ℕ
  poolFee : ℕ

/-- What others do to a coin. The curve takes trades until the coin graduates, and graduation
leaves its fee in place. -/
inductive CoinStep : Coin → Coin → Prop where
  | curveTrade (coin : Coin) (fee : ℕ) (on_curve : coin.graduated = false) :
      CoinStep coin { coin with curveFee := coin.curveFee + fee }
  | graduation (coin : Coin) : CoinStep coin { coin with graduated := true }
  | poolTrade (coin : Coin) (fee : ℕ) : CoinStep coin { coin with poolFee := fee }
  | curveSweep (coin : Coin) : CoinStep coin { coin with curveFee := 0 }
  | poolSweep (coin : Coin) : CoinStep coin { coin with poolFee := 0 }

/-- A curve account holds its fee at byte 125; one from before the field ends earlier. -/
inductive CurveHolds : Option Account → ℕ → Prop where
  | absent : CurveHolds none 0
  | short (account : Account) (ends : account.data.length < 133) : CurveHolds (some account) 0
  | stored (account : Account) (front rest : List U8) (fee : U64) (offset : front.length = 125)
      (data : account.data = front ++ toBytes 8 fee ++ rest) :
      CurveHolds (some account) fee.toNat

/-- A node answers for the coin's curve and pool from one state of the coin. -/
def Shows (crates : Crates) (rpc : Rpc) (mint quoteMint : Pubkey) (coin : Coin) : Prop :=
  ∃ curve pool,
    rpc.getMultipleAccounts [bondingCurvePda crates mint, canonicalPoolPda crates mint quoteMint] =
      .ok [curve, pool] ∧
    CurveHolds curve coin.curveFee ∧ (pool.isSome ↔ coin.graduated)

/-- What an instruction does to a coin. A pool sweep needs the pool, and a distribution is
refused while a fee waits on the curve. -/
def perform (crates : Crates) (mint quoteMint : Pubkey) (coin : Coin) (ix : Instruction) :
    Option Coin :=
  match ix.feeMove with
  | some (.sweepCurve curve _ _) =>
      if curve = bondingCurvePda crates mint then some { coin with curveFee := 0 } else some coin
  | some (.sweepPool pool _) =>
      if pool = canonicalPoolPda crates mint quoteMint then
        if coin.graduated then some { coin with poolFee := 0 } else none
      else some coin
  | some (.distribute curve _ _) =>
      if curve = bondingCurvePda crates mint ∧ 0 < coin.curveFee then none else some coin
  | some (.transfer _ _ _) => some coin
  | none => some coin

/-- A transaction succeeds as a whole, and ends in a distribution reached with nothing on the
curve. -/
def ReachesDistribution (crates : Crates) (mint quoteMint : Pubkey) (coin : Coin)
    (ixs : List Instruction) : Prop :=
  ∃ front distribute vault vaultAta reached,
    ixs = front ++ [distribute] ∧
    distribute.feeMove = some (.distribute (bondingCurvePda crates mint) vault vaultAta) ∧
    performAll (perform crates mint quoteMint) coin front = some reached ∧
    reached.curveFee = 0 ∧
    performAll (perform crates mint quoteMint) coin ixs = some reached

/-! ## What survives the race -/

theorem stable_graduated : Stable CoinStep fun coin => coin.graduated := by
  intro coin coin' graduated step
  cases step with
  | graduation => rfl
  | curveTrade => exact graduated
  | poolTrade => exact graduated
  | curveSweep => exact graduated
  | poolSweep => exact graduated

/-- **The curve of a graduated coin takes no more fees.** -/
theorem stable_graduated_and_swept :
    Stable CoinStep fun coin => coin.graduated ∧ coin.curveFee = 0 := by
  rintro coin coin' ⟨graduated, swept⟩ step
  refine ⟨stable_graduated graduated step, ?_⟩
  cases step with
  | curveTrade _ on_curve => exact absurd graduated (by simp [on_curve])
  | graduation => exact swept
  | poolTrade => exact swept
  | curveSweep => rfl
  | poolSweep => exact swept

/-! ## What was read -/

/-- The fee the builder reads is the curve's. -/
theorem curveFee_eq {curve : Option Account} {held : ℕ} {fee : U64}
    (holds : CurveHolds curve held) (read : curveFee curve = .ok fee) : fee.toNat = held := by
  cases holds with
  | absent =>
      obtain rfl := Except.ok.inj read
      rfl
  | short account ends =>
      simp only [curveFee, bondingCurveCreatorFee] at read
      split at read
      · cases read
      · rw [← Except.ok.inj read, wordAt?, if_neg (by rw [bondingCurveCreatorFeeOffset]; omega)]
        rfl
  | stored account front rest stored offset data =>
      simp only [curveFee, bondingCurveCreatorFee] at read
      split at read
      · cases read
      · have word : wordAt? 8 account.data bondingCurveCreatorFeeOffset = some stored := by
          rw [data]
          exact wordAt?_append (n := 8) offset stored
        rw [← Except.ok.inj read, word]
        rfl

/-! ## The sweeps -/

variable {crates : Crates} {rpc : Rpc} {mint quoteMint quoteTokenProgram payer : Pubkey}
variable {read landing : Coin}

/-- **The sweeps built from an earlier read succeed and leave nothing on the curve.** They do
not take a graduated coin back to its curve. -/
theorem sweeps_clear_curve {sweeps : List Instruction}
    (shows : Shows crates rpc mint quoteMint read) (run : ReflTransGen CoinStep read landing)
    (built : buildCreatorFeeSweepIxs crates rpc payer mint quoteMint quoteTokenProgram =
      .ok sweeps) :
    ∃ swept, performAll (perform crates mint quoteMint) landing sweeps = some swept ∧
      swept.curveFee = 0 ∧ swept.graduated = landing.graduated := by
  obtain ⟨accounts, curve, pool, fee, curveSweep, poolSweep, answered, first, second, curve_read,
    curve_built, pool_built, rfl⟩ := buildCreatorFeeSweepIxs_eq_ok built
  obtain ⟨shown, shown_pool, shown_answer, holds, graduated_iff⟩ := shows
  obtain rfl := Except.ok.inj (shown_answer.symm.trans answered)
  obtain rfl : shown = curve := Option.some.inj first
  obtain rfl : shown_pool = pool := Option.some.inj second
  have cleared : ∃ middle,
      performAll (perform crates mint quoteMint) landing curveSweep = some middle ∧
        middle.curveFee = 0 ∧ middle.graduated = landing.graduated := by
    rcases curve_built with ⟨present, no_fee, rfl⟩ | ⟨ix, swept, rfl⟩
    · -- Skipped: the coin was graduated and swept when it was read, and still is.
      have nothing : read.curveFee = 0 := by
        rw [← curveFee_eq holds curve_read, no_fee]
        rfl
      have still := stable_graduated_and_swept.of_run ⟨graduated_iff.mp present, nothing⟩ run
      exact ⟨landing, rfl, still.2, rfl⟩
    · refine ⟨{ landing with curveFee := 0 }, ?_, rfl, rfl⟩
      simp [performAll_cons, perform, feeMove_sweepCurve swept]
  obtain ⟨middle, performed, none_left, kept⟩ := cleared
  rcases pool_built with ⟨-, rfl⟩ | ⟨account, p, ix, rfl, decoded, swept, rfl⟩
  · rw [List.append_nil]
    exact ⟨middle, performed, none_left, kept⟩
  · -- The pool that was read is still there.
    have there : landing.graduated := stable_graduated.of_run (graduated_iff.mp rfl) run
    refine ⟨{ middle with poolFee := 0 }, ?_, none_left, kept⟩
    rw [performAll_append performed, performAll_cons]
    simp [perform, feeMove_sweepPool swept, (PoolInfo.fromAccountData_eq_ok decoded).1, kept,
      there]

/-! ## The distribution -/

variable {transfer distribute : Instruction} {drained vault vault' : Pubkey}
variable {ata ata' : Option Pubkey}

/-- A transfer and a distribution reach the distribution from any swept coin. -/
theorem transfer_then_distribute
    (transfers : transfer.feeMove = some (.transfer drained vault ata))
    (distributes : distribute.feeMove =
      some (.distribute (bondingCurvePda crates mint) vault' ata'))
    {coin : Coin} (swept : coin.curveFee = 0) :
    ReachesDistribution crates mint quoteMint coin [transfer, distribute] := by
  refine ⟨[transfer], distribute, vault', ata', coin, rfl, distributes, ?_, swept, ?_⟩
  · simp [performAll_cons, perform, transfers]
  · simp [performAll_cons, perform, transfers, distributes, swept]

/-- Sweeps in front of them make no difference once they have succeeded. -/
theorem ReachesDistribution.after {coin swept : Coin} {sweeps ixs : List Instruction}
    (performed : performAll (perform crates mint quoteMint) coin sweeps = some swept)
    (reaches : ReachesDistribution crates mint quoteMint swept ixs) :
    ReachesDistribution crates mint quoteMint coin (sweeps ++ ixs) := by
  obtain ⟨front, distribute, vault, ata, reached, rfl, distributes, before, nothing, whole⟩ :=
    reaches
  refine ⟨sweeps ++ front, distribute, vault, ata, reached, ?_, distributes, ?_, nothing, ?_⟩
  · rw [List.append_assoc]
  · rw [performAll_append performed, before]
  · rw [performAll_append performed, whole]

/-- **A payout is never refused for an unswept curve fee**, whatever happened since the read
it was built from: as one transaction, in either form; and, for a coin that had graduated, with
the sweeps sent ahead in a transaction of their own. -/
theorem payout_reaches_distribution (crates : Crates) (rpc : Rpc)
    (payer mint quoteMint quoteTokenProgram : Pubkey) (initializeShareholderAtas : Bool)
    (read landing : Coin) (shows : Shows crates rpc mint quoteMint read)
    (run : ReflTransGen CoinStep read landing) :
    (∀ ixs, quoteMint = wrappedSolMint →
      buildCreatorFeeWithdrawIxs crates rpc payer mint = .ok ixs →
      ReachesDistribution crates mint quoteMint landing ixs) ∧
    (∀ ixs, buildCreatorFeeWithdrawIxsV2 crates rpc payer mint quoteMint quoteTokenProgram
        initializeShareholderAtas = .ok ixs →
      ReachesDistribution crates mint quoteMint landing ixs) ∧
    ∀ sweeps, read.graduated →
      buildCreatorFeeSweepIxs crates rpc payer mint quoteMint quoteTokenProgram = .ok sweeps →
      ∃ swept, performAll (perform crates mint quoteMint) landing sweeps = some swept ∧
        ∀ later, ReflTransGen CoinStep swept later →
          (∀ transfer distribute shareholders,
            transferCreatorFeesToPumpInstruction crates (sharingConfigPda crates mint) =
                .ok transfer →
            distributeCreatorFeesInstruction crates mint shareholders = .ok distribute →
            ReachesDistribution crates mint quoteMint later [transfer, distribute]) ∧
          ∀ transfer distribute shareholders,
            transferCreatorFeesToPumpV2Instruction crates payer (sharingConfigPda crates mint)
                quoteMint quoteTokenProgram = .ok transfer →
            distributeCreatorFeesV2Instruction crates payer mint quoteMint quoteTokenProgram
                initializeShareholderAtas shareholders = .ok distribute →
            ReachesDistribution crates mint quoteMint later [transfer, distribute] := by
  refine ⟨?_, ?_, ?_⟩
  · rintro ixs rfl built
    obtain ⟨_, sweeps, transfer, distribute, -, swept_built, transferred, distributed, rfl⟩ :=
      buildCreatorFeeWithdrawIxs_eq_ok built
    obtain ⟨swept, performed, nothing, -⟩ := sweeps_clear_curve shows run swept_built
    exact (transfer_then_distribute (feeMove_transfer transferred)
      (feeMove_distribute distributed) nothing).after performed
  · intro ixs built
    obtain ⟨_, sweeps, transfer, distribute, -, swept_built, transferred, distributed, rfl⟩ :=
      buildCreatorFeeWithdrawIxsV2_eq_ok built
    obtain ⟨swept, performed, nothing, -⟩ := sweeps_clear_curve shows run swept_built
    exact (transfer_then_distribute (feeMove_transferV2 transferred)
      (feeMove_distributeV2 distributed) nothing).after performed
  · intro sweeps graduated swept_built
    obtain ⟨swept, performed, nothing, kept⟩ := sweeps_clear_curve shows run swept_built
    have still_graduated : swept.graduated := by
      rw [kept]
      exact stable_graduated.of_run graduated run
    refine ⟨swept, performed, fun later more => ?_⟩
    have later_swept := stable_graduated_and_swept.of_run ⟨still_graduated, nothing⟩ more
    constructor
    · intro transfer distribute _ transferred distributed
      exact transfer_then_distribute (feeMove_transfer transferred)
        (feeMove_distribute distributed) later_swept.2
    · intro transfer distribute _ transferred distributed
      exact transfer_then_distribute (feeMove_transferV2 transferred)
        (feeMove_distributeV2 distributed) later_swept.2

/-- The recorded coin is paid out after a pool trade that followed the read. -/
theorem payout_reaches_distribution_recorded :
    ∃ ixs, buildCreatorFeeWithdrawIxs Recorded.crates
        (Recorded.node none (some (Recorded.poolAccount Recorded.sharingConfig)))
        Recorded.shareholder Recorded.mint = .ok ixs ∧
      ReachesDistribution Recorded.crates Recorded.mint wrappedSolMint ⟨true, 0, 9⟩ ixs := by
  obtain ⟨ixs, built⟩ := Recorded.builds
  have shows : Shows Recorded.crates
      (Recorded.node none (some (Recorded.poolAccount Recorded.sharingConfig))) Recorded.mint
      wrappedSolMint ⟨true, 0, 5⟩ :=
    ⟨none, _, Recorded.node_answers none _, .absent, by simp⟩
  exact ⟨ixs, built, (payout_reaches_distribution _ _ _ _ _ SplToken.id true _ _ shows
    (.single (.poolTrade _ 9))).1 ixs rfl built⟩

end PumpSwapSdk
