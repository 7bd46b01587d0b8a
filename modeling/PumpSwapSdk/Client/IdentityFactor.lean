import PumpSwapSdk.Client.Liquidity
import PumpSwapSdk.Client.Payout
import PumpSwapSdk.Pricing.Exact

/-!
# Scaling by one

Slippage and LP fractions are applied in floating point, so that an amount goes through a
double and back even when the factor is one. A double keeps 53 significant bits: the amount
comes back unchanged exactly when its lower bits are zero, or when it is the largest word, to
which the conversion back clamps (`Kept`). Other amounts come back rounded, up or down.
-/

set_option autoImplicit false

namespace PumpSwapSdk

open Foundation.Binary64 (Denotes clamp maxNum minNum ofWord toWord denotes_ofWord)
open Foundation.ConstantProduct
open Foundation.MachineWord
open Foundation.Rounding

/-- An amount that has no bits beyond its 53 leading ones, or is the largest word. -/
def Kept (n : ℕ) : Prop := 2 ^ dropped 53 n ∣ n ∨ n = 2 ^ 64 - 1

/-- **A word comes back from a double exactly when it is kept.** -/
theorem toWord_eq_iff {x : Float} {a : U64} (denotes : Denotes x (toSignificant 53 a.toNat)) :
    toWord x = a ↔ Kept a.toNat := by
  have clamped : toSignificant 53 (2 ^ 64 - 1) = 2 ^ 64 := by decide +kernel
  have below := toNat_le_max a
  rw [← BitVec.toNat_inj, denotes.toWord, Kept, ← toSignificant_eq_iff]
  constructor
  · intro same
    omega
  · rintro (same | largest)
    · omega
    · rw [largest, clamped]
      omega

/-! ## The three factors -/

theorem applySlippage_zero_eq_iff (a : U64) : applySlippage a 0.0 = a ↔ Kept a.toNat := by
  have one : clamp (1.0 - 0.0) 0.0 1.0 = 1.0 := by decide +kernel
  have word := denotes_ofWord a
  rw [applySlippage, one, word.mul_one, word.floor.maxNum_zero]
  exact toWord_eq_iff word.floor

theorem quoteBuyExactBaseOut_max_eq_iff {b B Q : U64} {fees : Fees} {r : BuyExactOutQuote}
    (quoted : quoteBuyExactBaseOut b B Q fees 0.0 = some r) :
    r.maxQuoteIn = r.totalQuoteIn ↔ Kept r.totalQuoteIn.toNat := by
  have one : minNum (1.0 + maxNum 0.0 0.0) (ofWord (widen 64 (maxValue 32))) = 1.0 := by
    decide +kernel
  cases step : constantProductIn b Q B with
  | none => simp [quoteBuyExactBaseOut, step] at quoted
  | some z =>
      simp only [quoteBuyExactBaseOut, step, Option.bind_eq_bind, Option.bind_some,
        Option.some.injEq, one] at quoted
      subst quoted
      have word := denotes_ofWord (saturatingAdd z (fees.feeOn z))
      rw [word.mul_one]
      exact toWord_eq_iff word.ceil

theorem lpTokenAmount_one_eq_iff (balance : U64) :
    lpTokenAmount 1.0 balance = balance ↔ Kept balance.toNat := by
  have word := denotes_ofWord balance
  rw [lpTokenAmount, word.one_mul]
  exact toWord_eq_iff word

/-! ## Withdrawing -/

/-- The LP amount that the withdrawal of a transaction burns. -/
def lpBurned (ixs : List Ix) : Option U64 :=
  ixs.findSome? fun
    | .own ix =>
        if ix.data.take 8 = WithdrawInstruction.discriminator then wordAt? 8 ix.data 8 else none
    | _ => none

variable {crates : Crates} {rpc : Rpc} {pool baseMint wallet : Pubkey}

/-- A withdrawal burns the fraction of the balance that the node reports. -/
theorem lpBurned_withdraw {percent : Float} {minBase minQuote balance : U64} {amount : String}
    {ixs : List Ix}
    (answered : rpc.getTokenAccountBalance
      (calcUserPoolTokenAccount crates wallet (calcLpMintPda crates pool).1).1 = .ok amount)
    (parsed : parseU64 amount = .ok balance)
    (built : withdrawFromWsolPool crates rpc pool baseMint wallet percent minBase minQuote =
      .ok ixs) :
    lpBurned ixs = some (lpTokenAmount percent balance) := by
  obtain ⟨_, got, built⟩ := bind_eq_ok_iff.mp built
  obtain rfl := Except.ok.inj (answered.symm.trans got)
  obtain ⟨_, read, built⟩ := bind_eq_ok_iff.mp built
  obtain rfl := Except.ok.inj (parsed.symm.trans read)
  split at built
  · cases built
  · obtain ⟨ix, withdraw, built⟩ := bind_eq_ok_iff.mp built
    obtain ⟨closing, closed, built⟩ := bind_eq_ok_iff.mp built
    obtain ⟨-, -, closed⟩ := bind_eq_ok_iff.mp closed
    obtain rfl := Except.ok.inj built
    obtain rfl := Except.ok.inj withdraw
    obtain rfl := Except.ok.inj closed
    have burned : wordAt? 8
        (WithdrawInstruction.toVec ⟨lpTokenAmount percent balance, minBase, minQuote⟩) 8 =
        some (lpTokenAmount percent balance) := by
      simp only [WithdrawInstruction.toVec, List.append_assoc]
      rw [← List.append_assoc]
      exact wordAt?_append rfl _
    simp [lpBurned, burned]

/-- **When scaling by one changes nothing.** At slippage zero a quote's bound is its amount,
and a withdrawal of everything burns the whole balance, exactly when the amount is kept. The
amounts are those of the sale after its fee, of the exact-input buy, of the exact-output buy
with its fee, and of the LP balance. -/
theorem identity_factor_changes_nothing_iff (b q B Q : U64) (fees : Fees) :
    ((quoteSell b B Q fees 0.0).minAmountOut = (quoteSell b B Q fees 0.0).amountOut ↔
      Kept (outGiven b.toNat B.toNat Q.toNat -
        fees.charge (outGiven b.toNat B.toNat Q.toNat))) ∧
    ((quoteBuyExactQuoteIn q B Q fees 0.0).minAmountOut =
        (quoteBuyExactQuoteIn q B Q fees 0.0).amountOut ↔
      Kept (outGiven (curveInput fees q.toNat) Q.toNat B.toNat)) ∧
    (∀ r, quoteBuyExactBaseOut b B Q fees 0.0 = some r →
      let cost := min (inFor b.toNat Q.toNat B.toNat) (2 ^ 64 - 1)
      (r.maxQuoteIn = r.totalQuoteIn ↔ Kept (min (cost + fees.charge cost) (2 ^ 64 - 1)))) ∧
    ∀ (crates : Crates) (rpc : Rpc) (pool baseMint wallet : Pubkey) (minBase minQuote : U64)
      (amount : String) (balance : U64) (ixs : List Ix),
      rpc.getTokenAccountBalance
        (calcUserPoolTokenAccount crates wallet (calcLpMintPda crates pool).1).1 = .ok amount →
      parseU64 amount = .ok balance →
      withdrawFromWsolPool crates rpc pool baseMint wallet 1.0 minBase minQuote = .ok ixs →
      (lpBurned ixs = some balance ↔ Kept balance.toNat) := by
  refine ⟨?_, ?_, ?_, ?_⟩
  · have minimum : (quoteSell b B Q fees 0.0).minAmountOut =
        applySlippage (quoteSell b B Q fees 0.0).amountOut 0.0 := by
      simp only [quoteSell]
    rw [← toNat_quoteSell_amountOut b B Q fees 0.0, minimum]
    exact applySlippage_zero_eq_iff _
  · have minimum : (quoteBuyExactQuoteIn q B Q fees 0.0).minAmountOut =
        applySlippage (quoteBuyExactQuoteIn q B Q fees 0.0).amountOut 0.0 := by
      simp only [quoteBuyExactQuoteIn]
    rw [← toNat_quoteBuyExactQuoteIn_amountOut q B Q fees 0.0, minimum]
    exact applySlippage_zero_eq_iff _
  · intro r quoted
    obtain ⟨-, cost, total⟩ := quoteBuyExactBaseOut_eq_some quoted
    dsimp only
    rw [← cost, ← total]
    exact quoteBuyExactBaseOut_max_eq_iff quoted
  · intro crates rpc pool baseMint wallet minBase minQuote amount balance ixs answered parsed
      built
    rw [lpBurned_withdraw answered parsed built, Option.some.injEq]
    exact lpTokenAmount_one_eq_iff balance

/-- Small amounts are kept: a sale's minimum is its amount. -/
theorem identity_factor_changes_nothing_small :
    (quoteSell 1_000 1_000_000 500_000 ⟨20, 5, 5⟩ 0.0).minAmountOut =
      (quoteSell 1_000 1_000_000 500_000 ⟨20, 5, 5⟩ 0.0).amountOut :=
  (identity_factor_changes_nothing_iff 1_000 1 1_000_000 500_000 ⟨20, 5, 5⟩).1.mpr
    (.inl (by decide +kernel))

/-- A node that reports one LP balance, just above 2^53. -/
def Recorded.lpNode : Rpc :=
  { Recorded.node none none with getTokenAccountBalance := fun _ => .ok "9007199254740993" }

/-- Just above 2^53 a sale's minimum exceeds its fill, a buy's minimum does too, a buy's cap
falls below its cost, and a full withdrawal leaves a token behind. -/
theorem identity_factor_changes_amounts :
    (¬ ∀ (b B Q : U64) (fees : Fees),
      (quoteSell b B Q fees 0.0).minAmountOut = (quoteSell b B Q fees 0.0).amountOut) ∧
    (¬ ∀ (q B Q : U64) (fees : Fees),
      (quoteBuyExactQuoteIn q B Q fees 0.0).minAmountOut =
        (quoteBuyExactQuoteIn q B Q fees 0.0).amountOut) ∧
    (¬ ∀ (b B Q : U64) (fees : Fees) (r : BuyExactOutQuote),
      quoteBuyExactBaseOut b B Q fees 0.0 = some r → r.maxQuoteIn = r.totalQuoteIn) ∧
    ¬ ∀ (crates : Crates) (rpc : Rpc) (pool baseMint wallet : Pubkey) (minBase minQuote : U64)
      (amount : String) (balance : U64) (ixs : List Ix),
      rpc.getTokenAccountBalance
        (calcUserPoolTokenAccount crates wallet (calcLpMintPda crates pool).1).1 = .ok amount →
      parseU64 amount = .ok balance →
      withdrawFromWsolPool crates rpc pool baseMint wallet 1.0 minBase minQuote = .ok ixs →
      lpBurned ixs = some balance := by
  refine ⟨fun same => ?_, fun same => ?_, fun same => ?_, fun same => ?_⟩
  · exact absurd (same 1 1 18_014_398_509_481_990 ⟨0, 0, 0⟩) (by decide +kernel)
  · exact absurd (same 2 18_014_398_509_481_990 1 ⟨0, 0, 0⟩) (by decide +kernel)
  · exact absurd (same 1 2 9_007_199_254_740_993 ⟨0, 0, 0⟩
      ⟨9_007_199_254_740_993, 0, 9_007_199_254_740_993, 9_007_199_254_740_992⟩
      (by decide +kernel)) (by decide +kernel)
  · have parsed : parseU64 "9007199254740993" = .ok 9_007_199_254_740_993 := by decide +kernel
    obtain ⟨ixs, built⟩ := isOk_iff.mp (show (withdrawFromWsolPool Recorded.crates
      Recorded.lpNode Recorded.pool Recorded.mint Recorded.shareholder 1.0 0 0).isOk by
        decide +kernel)
    have burned := same _ _ _ _ _ _ _ _ _ ixs rfl parsed built
    rw [lpBurned_withdraw rfl parsed built] at burned
    exact absurd burned (by decide +kernel)

end PumpSwapSdk
