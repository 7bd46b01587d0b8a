import PumpSwapSdk.State.Pool

/-!
# Accounts of every length

A pool account of at least 245 bytes decodes, wherever it ends. Cutting it off changes the
recorded length, and each trailing field that is not wholly inside the cut reads as zero
(`fromAccountData_take`). Only a shorter account is refused. A bonding curve's creator fee is
read in the same way (`decoding_tolerates_every_length`).
-/

set_option autoImplicit false

namespace PumpSwapSdk

open Foundation.LittleEndian

variable {data : List U8} {n w offset : ℕ}

/-! ## Reading from a cut account -/

/-- Bytes wholly inside the cut are not touched by it. -/
theorem slice_take (inside : offset + w ≤ n) :
    ((data.take n).drop offset).take w = (data.drop offset).take w := by
  rw [List.drop_take, List.take_take, Nat.min_eq_left (by omega)]

/-- A word is read from a cut account when it is wholly inside the cut. -/
theorem wordAt?_take (cut : n ≤ data.length) :
    wordAt? w (data.take n) offset = if offset + w ≤ n then wordAt? w data offset else none := by
  have length : (data.take n).length = n := List.length_take_of_le cut
  rw [wordAt?, length]
  split
  · rename_i inside
    rw [slice_take inside, wordAt?, if_pos (by omega)]
  · rfl

/-- A trailing word that is not wholly inside the cut reads as zero. -/
theorem wordAt?_take_getD (cut : n ≤ data.length) :
    (wordAt? w (data.take n) offset).getD 0 =
      if offset + w ≤ n then (wordAt? w data offset).getD 0 else 0 := by
  rw [wordAt?_take cut]
  split
  · rfl
  · rfl

theorem wordAt?_getD (w : ℕ) (data : List U8) (offset : ℕ) :
    (wordAt? w data offset).getD 0 =
      if offset + w ≤ data.length then ofBytes w ((data.drop offset).take w) else 0 := by
  rw [wordAt?]
  split
  · rfl
  · rfl

namespace PoolInfo

/-- The packed record is inside every cut that decodes. -/
theorem stored_take (long : Pool.size + 8 ≤ n) : stored (data.take n) = stored data := by
  rw [stored, stored, slice_take (by omega)]

/-- A decoded pool without the trailing fields that end past a length. -/
def cut (pool : PoolInfo) (n : ℕ) : PoolInfo :=
  { pool with
    poolAccountDataLen := n
    virtualQuoteReserves := if 261 ≤ n then pool.virtualQuoteReserves else 0
    creatorFeeBps := if 269 ≤ n then pool.creatorFeeBps else 0
    isHolderReward := decide (271 ≤ n) && pool.isHolderReward
    protocolFees := if 279 ≤ n then pool.protocolFees else 0
    creatorFees := if 287 ≤ n then pool.creatorFees else 0 }

section Decoding

variable {pool baseTokenProgram quoteTokenProgram : Pubkey}

/-- An account shorter than the packed record is refused. -/
theorem fromAccountData_of_short (short : data.length < Pool.size + 8) :
    ∃ message, fromAccountData pool data baseTokenProgram quoteTokenProgram =
      .error (.err message) := by
  unfold fromAccountData
  rw [if_pos short]
  exact ⟨_, rfl⟩

/-- **Cutting an account off leaves what is wholly inside the cut.** -/
theorem fromAccountData_take {full : PoolInfo} (long : Pool.size + 8 ≤ n) (within : n ≤ data.length)
    (decoded : fromAccountData pool data baseTokenProgram quoteTokenProgram = .ok full) :
    fromAccountData pool (data.take n) baseTokenProgram quoteTokenProgram = .ok (full.cut n) := by
  have length : (data.take n).length = n := List.length_take_of_le within
  have reward : (data.take n)[Pool.size + 24 + 9]?.any (· ≠ 0) =
      (decide (271 ≤ n) && data[Pool.size + 24 + 9]?.any (· ≠ 0)) := by
    rw [List.getElem?_take]
    by_cases inside : 271 ≤ n
    · rw [if_pos (show Pool.size + 24 + 9 < n from inside), decide_eq_true inside, Bool.true_and]
    · rw [if_neg (show ¬ Pool.size + 24 + 9 < n from inside), decide_eq_false inside]
      rfl
  unfold fromAccountData at decoded ⊢
  rw [if_neg (by omega)] at decoded
  rw [if_neg (by omega)]
  obtain rfl := Except.ok.inj decoded
  dsimp only [cut]
  rw [stored_take long, length, reward]
  simp only [wordAt?_take_getD within]
  rfl

/-- Where the trailing fields are read from. -/
theorem fromAccountData_trailing {full : PoolInfo}
    (decoded : fromAccountData pool data baseTokenProgram quoteTokenProgram = .ok full) :
    full.virtualQuoteReserves =
        (if 261 ≤ data.length then ofBytes 16 ((data.drop 245).take 16) else 0) ∧
      full.creatorFeeBps =
        (if 269 ≤ data.length then ofBytes 8 ((data.drop 261).take 8) else 0) ∧
      full.isHolderReward = data[270]?.any (· ≠ 0) ∧
      full.protocolFees = (if 279 ≤ data.length then ofBytes 8 ((data.drop 271).take 8) else 0) ∧
      full.creatorFees = (if 287 ≤ data.length then ofBytes 8 ((data.drop 279).take 8) else 0) := by
  unfold fromAccountData at decoded
  split at decoded
  · cases decoded
  · obtain rfl := Except.ok.inj decoded
    exact ⟨wordAt?_getD 16 data 245, wordAt?_getD 8 data 261, rfl, wordAt?_getD 8 data 271,
      wordAt?_getD 8 data 279⟩

end Decoding

end PoolInfo

/-! ## Every length -/

/-- **Accounts of every length decode the same way.** A pool account decodes exactly from 245
bytes on, its trailing fields are the words at their offsets, and wherever it is cut off only
they are lost. A bonding curve's creator fee is the word at its offset, or zero. -/
theorem decoding_tolerates_every_length (pool baseTokenProgram quoteTokenProgram : Pubkey)
    (data : List U8) :
    (data.length < 245 → ∃ message,
      PoolInfo.fromAccountData pool data baseTokenProgram quoteTokenProgram =
        .error (.err message)) ∧
    (245 ≤ data.length → ∃ full,
      PoolInfo.fromAccountData pool data baseTokenProgram quoteTokenProgram = .ok full ∧
      full.virtualQuoteReserves =
        (if 261 ≤ data.length then ofBytes 16 ((data.drop 245).take 16) else 0) ∧
      full.creatorFeeBps =
        (if 269 ≤ data.length then ofBytes 8 ((data.drop 261).take 8) else 0) ∧
      full.isHolderReward = data[270]?.any (· ≠ 0) ∧
      full.protocolFees = (if 279 ≤ data.length then ofBytes 8 ((data.drop 271).take 8) else 0) ∧
      full.creatorFees = (if 287 ≤ data.length then ofBytes 8 ((data.drop 279).take 8) else 0) ∧
      ∀ n, 245 ≤ n → n ≤ data.length →
        PoolInfo.fromAccountData pool (data.take n) baseTokenProgram quoteTokenProgram =
          .ok (full.cut n)) ∧
    (data.take 8 = bondingCurveDiscriminator →
      bondingCurveCreatorFee data =
        .ok (if 133 ≤ data.length then ofBytes 8 ((data.drop 125).take 8) else 0)) := by
  refine ⟨PoolInfo.fromAccountData_of_short, ?_, ?_⟩
  · intro long
    obtain ⟨full, decoded⟩ : ∃ full,
        PoolInfo.fromAccountData pool data baseTokenProgram quoteTokenProgram = .ok full := by
      unfold PoolInfo.fromAccountData
      rw [if_neg (show ¬ data.length < Pool.size + 8 from Nat.not_lt.mpr long)]
      exact ⟨_, rfl⟩
    obtain ⟨virtual, creator, reward, protocol, waiting⟩ :=
      PoolInfo.fromAccountData_trailing decoded
    exact ⟨full, decoded, virtual, creator, reward, protocol, waiting,
      fun n long within => PoolInfo.fromAccountData_take long within decoded⟩
  · intro marked
    have head : 8 ≤ data.length := by
      have length := congrArg List.length marked
      rw [List.length_take] at length
      have eight : bondingCurveDiscriminator.length = 8 := rfl
      omega
    have accepted : ¬ (data.length < 8 ∨ data.take 8 ≠ bondingCurveDiscriminator) := by
      rintro (short | other)
      · omega
      · exact other marked
    rw [bondingCurveCreatorFee, if_neg accepted, wordAt?_getD]
    rfl

end PumpSwapSdk
