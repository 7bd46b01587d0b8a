import PumpSwapSdk.State.Shareholders
import PumpSwapSdk.Util

/-!
# Accessors on decoded accounts

The day bucket of a time in the volume program, and the sum of a sharing config's shares. Both
use plain machine arithmetic: the elapsed time is a signed difference and the shares are added
in 32 bits. A decoder accepts any times and any number of shareholders, so both can overflow,
and they are exact as long as they do not (`accessors_are_exact_iff`).
-/

set_option autoImplicit false

namespace PumpSwapSdk

open Foundation.MachineWord

variable (crates : Crates)

/-! ## Machine arithmetic -/

/-- `a - b` on signed words, which panics on overflow in a checked build and wraps in an
unchecked one. -/
def subI64 (a b : I64) : Result I64 :=
  if crates.overflowChecks ∧ a.ssubOverflow b then
    .error (.panicked "attempt to subtract with overflow")
  else .ok (a - b)

/-- `a + b` on 32-bit words. -/
def addU32 (a b : U32) : Result U32 :=
  if crates.overflowChecks ∧ 2 ^ 32 ≤ a.toNat + b.toNat then
    .error (.panicked "attempt to add with overflow")
  else .ok (a + b)

/-- `usize::try_from` of a signed word. -/
def usizeTryFrom (a : I64) : Option ℕ := if a.toInt < 0 then none else some a.toInt.toNat

/-! ## Accessors -/

namespace GlobalVolumeAccumulator

/-- Whether a time falls inside the program window. -/
def isActiveAt (accumulator : GlobalVolumeAccumulator) (unixTimestamp : I64) : Bool :=
  accumulator.startTime.sle unixTimestamp && unixTimestamp.slt accumulator.endTime

/-- The day bucket of a time, if it has one. -/
def dayIndex (accumulator : GlobalVolumeAccumulator) (unixTimestamp : I64) :
    Result (Option ℕ) :=
  if !accumulator.isActiveAt unixTimestamp || accumulator.secondsInADay.sle 0 then .ok none
  else do
    let elapsed ← subI64 crates unixTimestamp accumulator.startTime
    let day := elapsed.sdiv accumulator.secondsInADay
    .ok ((usizeTryFrom day).filter (· < volumeAccumulatorDays))

end GlobalVolumeAccumulator

/-- The sum of every shareholder's share. -/
def SharingConfig.totalShareBps (config : SharingConfig) : Result U32 :=
  config.shareholders.foldlM (fun total holder => addU32 crates total (widen 32 holder.shareBps)) 0

/-! ## Day buckets -/

namespace GlobalVolumeAccumulator

variable {crates} {accumulator : GlobalVolumeAccumulator} {t : I64} {d : ℕ}

/-- A time of the window lies in a day bucket, over unbounded integers. -/
structure InDay (accumulator : GlobalVolumeAccumulator) (t : I64) (d : ℕ) : Prop where
  started : accumulator.startTime.toInt ≤ t.toInt
  unfinished : t.toInt < accumulator.endTime.toInt
  positive : 0 < accumulator.secondsInADay.toInt
  bucket : d < 30
  reached : accumulator.startTime.toInt + d * accumulator.secondsInADay.toInt ≤ t.toInt
  unpassed : t.toInt < accumulator.startTime.toInt + (d + 1) * accumulator.secondsInADay.toInt

/-- The elapsed time is a signed word, where it is taken. -/
def ElapsedFits (accumulator : GlobalVolumeAccumulator) (t : I64) : Prop :=
  accumulator.isActiveAt t → 0 < accumulator.secondsInADay.toInt →
    t.toInt - accumulator.startTime.toInt < 2 ^ 63

/-- The day bucket is exact in every build. -/
def DayIndexExact (accumulator : GlobalVolumeAccumulator) (t : I64) : Prop :=
  ∀ crates : Crates, ∃ index, accumulator.dayIndex crates t = .ok index ∧
    ∀ d, index = some d ↔ accumulator.InDay t d

theorem isActiveAt_iff : accumulator.isActiveAt t ↔
    accumulator.startTime.toInt ≤ t.toInt ∧ t.toInt < accumulator.endTime.toInt := by
  rw [isActiveAt, Bool.and_eq_true, BitVec.sle_iff_toInt_le, BitVec.slt_iff_toInt_lt]

/-- The early return is taken outside the window, and without a day length. -/
theorem idle_iff : (!accumulator.isActiveAt t || accumulator.secondsInADay.sle 0) = true ↔
    ¬ (accumulator.isActiveAt t ∧ 0 < accumulator.secondsInADay.toInt) := by
  have zero : (0 : I64).toInt = 0 := by decide
  rw [Bool.or_eq_true, Bool.not_eq_true', BitVec.sle_iff_toInt_le, zero, not_and_or,
    Bool.not_eq_true, Int.not_lt]

theorem dayIndex_of_idle
    (idle : ¬ (accumulator.isActiveAt t ∧ 0 < accumulator.secondsInADay.toInt)) :
    accumulator.dayIndex crates t = .ok none := by
  rw [dayIndex, if_pos (idle_iff.mpr idle)]

/-- In the window the bucket is taken from the signed difference. -/
theorem dayIndex_of_active (active : accumulator.isActiveAt t)
    (positive : 0 < accumulator.secondsInADay.toInt) :
    accumulator.dayIndex crates t = (subI64 crates t accumulator.startTime).bind fun elapsed =>
      .ok ((usizeTryFrom (elapsed.sdiv accumulator.secondsInADay)).filter
        (· < volumeAccumulatorDays)) := by
  rw [dayIndex, if_neg fun idle => idle_iff.mp idle ⟨active, positive⟩]
  rfl

/-- A difference that is a signed word is exact. -/
theorem ssubOverflow_iff (active : accumulator.isActiveAt t) :
    t.ssubOverflow accumulator.startTime ↔ 2 ^ 63 ≤ t.toInt - accumulator.startTime.toInt := by
  have started := (isActiveAt_iff.mp active).1
  simp only [BitVec.ssubOverflow, Bool.or_eq_true, decide_eq_true_eq]
  omega

/-- The quotient of an elapsed time is its bucket. -/
theorem usizeTryFrom_sdiv {elapsed seconds : I64} (nonneg : 0 ≤ elapsed.toInt)
    (positive : 0 < seconds.toInt) :
    usizeTryFrom (elapsed.sdiv seconds) = some (elapsed.toInt / seconds.toInt).toNat := by
  have ordinary : seconds ≠ -1#64 := by
    rintro rfl
    exact absurd positive (by decide)
  have quotient : (elapsed.sdiv seconds).toInt = elapsed.toInt / seconds.toInt := by
    rw [BitVec.toInt_sdiv_of_ne_or_ne _ _ (Or.inr ordinary), Int.tdiv_eq_ediv_of_nonneg nonneg]
  have := Int.ediv_nonneg nonneg positive.le
  rw [usizeTryFrom, quotient, if_neg (by omega)]

/-- **Where the elapsed time fits, the bucket is exact.** -/
theorem dayIndex_of_fits (active : accumulator.isActiveAt t)
    (positive : 0 < accumulator.secondsInADay.toInt)
    (fits : t.toInt - accumulator.startTime.toInt < 2 ^ 63) :
    ∃ index, accumulator.dayIndex crates t = .ok index ∧
      ∀ d, index = some d ↔ accumulator.InDay t d := by
  obtain ⟨started, unfinished⟩ := isActiveAt_iff.mp active
  have small : ¬ t.ssubOverflow accumulator.startTime := by
    rw [ssubOverflow_iff active]
    omega
  have elapsed : (t - accumulator.startTime).toInt = t.toInt - accumulator.startTime.toInt :=
    BitVec.toInt_sub_of_not_ssubOverflow small
  have nonneg : 0 ≤ (t - accumulator.startTime).toInt := by omega
  have quotient := usizeTryFrom_sdiv nonneg positive
  rw [elapsed] at quotient
  have taken : subI64 crates t accumulator.startTime = .ok (t - accumulator.startTime) :=
    if_neg fun overflow => small overflow.2
  refine ⟨_, by rw [dayIndex_of_active active positive, taken]; rfl, fun d => ?_⟩
  have floor := Int.ediv_nonneg (elapsed ▸ nonneg) positive.le
  have exact_bucket : (t.toInt - accumulator.startTime.toInt) / _ = (d : ℤ) ↔ _ :=
    Int.ediv_eq_iff_of_pos positive
  rw [quotient, Option.filter_eq_some_iff, Option.some.injEq, decide_eq_true_eq]
  constructor
  · rintro ⟨same, below⟩
    obtain ⟨reached, unpassed⟩ := exact_bucket.mp (by omega)
    refine ⟨started, unfinished, positive, below, by omega, ?_⟩
    rw [add_one_mul]
    omega
  · intro day
    have reached := day.reached
    have unpassed := day.unpassed
    rw [add_one_mul] at unpassed
    have := exact_bucket.mpr ⟨by omega, by omega⟩
    exact ⟨by omega, day.bucket⟩

/-- The bucket is exact in every build exactly when the elapsed time fits. -/
theorem dayIndexExact_iff : accumulator.DayIndexExact t ↔ accumulator.ElapsedFits t := by
  constructor
  · intro exact_index active positive
    by_contra large
    obtain ⟨index, answered, -⟩ := exact_index Recorded.crates
    have overflow := (ssubOverflow_iff active).mpr (Int.not_lt.mp large)
    have stopped : subI64 Recorded.crates t accumulator.startTime =
        .error (.panicked "attempt to subtract with overflow") := if_pos ⟨rfl, overflow⟩
    rw [dayIndex_of_active active positive, stopped] at answered
    cases answered
  · intro fits crates
    by_cases idle : accumulator.isActiveAt t ∧ 0 < accumulator.secondsInADay.toInt
    · exact dayIndex_of_fits idle.1 idle.2 (fits idle.1 idle.2)
    · refine ⟨none, dayIndex_of_idle idle, fun d => ?_⟩
      simp only [reduceCtorEq, false_iff]
      intro day
      exact idle ⟨isActiveAt_iff.mpr ⟨day.started, day.unfinished⟩, day.positive⟩

end GlobalVolumeAccumulator

/-! ## Share totals -/

section Shares

variable {crates} {a b : U32}

theorem addU32_of_lt (fits : a.toNat + b.toNat < 2 ^ 32) : addU32 crates a b = .ok (a + b) :=
  if_neg fun overflow => absurd overflow.2 (Nat.not_le.mpr fits)

/-- The shares, over unbounded integers. -/
def shareSum (holders : List Shareholder) : ℕ :=
  (holders.map fun holder => holder.shareBps.toNat).sum

/-- The fold of `total_share_bps` from a running total. -/
def addShares (crates : Crates) (total : U32) (holders : List Shareholder) : Result U32 :=
  holders.foldlM (fun total holder => addU32 crates total (widen 32 holder.shareBps)) total

theorem addShares_cons (total : U32) (holder : Shareholder) (holders : List Shareholder) :
    addShares crates total (holder :: holders) =
      addU32 crates total (widen 32 holder.shareBps) >>= fun next =>
        addShares crates next holders := rfl

theorem shareSum_cons (holder : Shareholder) (holders : List Shareholder) :
    shareSum (holder :: holders) = holder.shareBps.toNat + shareSum holders := by
  rw [shareSum, List.map_cons, List.sum_cons, shareSum]

theorem toNat_widen_share (share : U16) : (widen 32 share).toNat = share.toNat :=
  toNat_widen share (by decide)

/-- Shares that fit are added exactly in every build. -/
theorem addShares_of_lt (crates : Crates) (total : U32) (holders : List Shareholder)
    (fits : total.toNat + shareSum holders < 2 ^ 32) :
    ∃ sum, addShares crates total holders = .ok sum ∧
      sum.toNat = total.toNat + shareSum holders := by
  induction holders generalizing total with
  | nil => exact ⟨total, rfl, rfl⟩
  | cons holder holders ih =>
      rw [shareSum_cons] at fits ⊢
      have share := toNat_widen_share holder.shareBps
      have here : total.toNat + (widen 32 holder.shareBps).toNat < 2 ^ 32 := by omega
      have next := BitVec.toNat_add_of_lt here
      obtain ⟨sum, added, exact_sum⟩ := ih (total + widen 32 holder.shareBps) (by omega)
      refine ⟨sum, ?_, by omega⟩
      rw [addShares_cons, addU32_of_lt here]
      exact added

end Shares

namespace SharingConfig

variable {data : List U8} {config : SharingConfig}

/-- The sum of the stored shares, over unbounded integers. -/
def storedShareSum (data : List U8) : ℕ :=
  ((List.range (storedCount data)).map fun i => (storedShare data i).toNat).sum

/-- The total is the exact sum of the stored shares in every build. -/
def ShareTotalExact (config : SharingConfig) (data : List U8) : Prop :=
  ∀ crates : Crates, ∃ total, config.totalShareBps crates = .ok total ∧
    total.toNat = storedShareSum data

/-- The decoded shares are the stored ones. -/
theorem shareSum_stored (decoded : fromAccountData data = .ok config) :
    shareSum config.shareholders = storedShareSum data := by
  obtain ⟨length, entries⟩ := stored decoded
  refine congrArg List.sum (List.ext_getElem ?_ ?_)
  · rw [List.length_map, List.length_map, List.length_range, length]
  · intro i inside _
    rw [List.length_map] at inside
    rw [List.getElem_map, List.getElem_map, List.getElem_range,
      (entries i _ (List.getElem?_eq_getElem inside)).2]

theorem shareTotalExact_iff (decoded : fromAccountData data = .ok config) :
    config.ShareTotalExact data ↔ storedShareSum data < 2 ^ 32 := by
  have zero : (0 : U32).toNat = 0 := rfl
  constructor
  · intro exact_total
    obtain ⟨total, added, same⟩ := exact_total Recorded.crates
    rw [← same]
    exact total.isLt
  · intro fits crates
    rw [← shareSum_stored decoded] at fits ⊢
    obtain ⟨total, added, same⟩ := addShares_of_lt crates 0 config.shareholders
      (by omega)
    exact ⟨total, added, by omega⟩

end SharingConfig

/-! ## Both accessors -/

/-- **The accessors are exact as long as they do not overflow.** On every account that decodes,
the day bucket of a time is exact in every build exactly when the elapsed time of an active
program is a signed word, and the share total exactly when the stored shares come to one of 32
bits. -/
theorem accessors_are_exact_iff (data : List U8) :
    (∀ accumulator t, GlobalVolumeAccumulator.fromAccountData data = .ok accumulator →
      (accumulator.DayIndexExact t ↔ accumulator.ElapsedFits t)) ∧
    ∀ config, SharingConfig.fromAccountData data = .ok config →
      (config.ShareTotalExact data ↔ SharingConfig.storedShareSum data < 2 ^ 32) := by
  constructor
  · intro accumulator t _
    exact GlobalVolumeAccumulator.dayIndexExact_iff
  · intro config decoded
    exact SharingConfig.shareTotalExact_iff decoded

namespace Recorded

/-- A volume program with given times. -/
def volumes (startTime endTime secondsInADay : I64) : GlobalVolumeAccumulator where
  startTime
  endTime
  secondsInADay
  mint
  totalTokenSupply := List.Vector.replicate 30 0
  solVolumes := List.Vector.replicate 30 0

/-- An active split between shareholders. -/
def split (shareholders : List Shareholder) : SharingConfig where
  bump := 253
  version := 1
  status := .active
  mint
  admin := shareholder
  adminRevoked := true
  shareholders

theorem volumes_decode (startTime endTime secondsInADay : I64) :
    GlobalVolumeAccumulator.fromAccountData (volumes startTime endTime secondsInADay).encode =
      .ok (volumes startTime endTime secondsInADay) :=
  (GlobalVolumeAccumulator.fromAccountData_iff _ _).mpr ⟨[], (List.append_nil _).symm⟩

theorem split_decode (shareholders : List Shareholder) (fits : shareholders.length < 2 ^ 32) :
    SharingConfig.fromAccountData (split shareholders).encode = .ok (split shareholders) :=
  (SharingConfig.fromAccountData_iff _ _).mpr ⟨fits, [], (List.append_nil _).symm⟩

end Recorded

/-- A day into a program of two days, and a split between two. -/
theorem accessors_are_exact_iff_recorded :
    (Recorded.volumes 86_400 259_200 86_400).DayIndexExact 172_800 ∧
    (Recorded.split [⟨Recorded.shareholder, 9_000⟩, ⟨Recorded.mint, 1_000⟩]).ShareTotalExact
      (Recorded.split [⟨Recorded.shareholder, 9_000⟩, ⟨Recorded.mint, 1_000⟩]).encode := by
  constructor
  · refine ((accessors_are_exact_iff _).1 _ 172_800 (Recorded.volumes_decode _ _ _)).mpr ?_
    intro _ _
    decide
  · exact ((accessors_are_exact_iff _).2 _ (Recorded.split_decode _ (by decide))).mpr
      (by decide +kernel)

/-- A program from the first to the last signed word, of days of the largest length: in an
unchecked build a time in its third day is put into its first. And 65,538 shareholders of the
largest share. -/
theorem accessors_overflow :
    (¬ ∀ data accumulator t, GlobalVolumeAccumulator.fromAccountData data = .ok accumulator →
      accumulator.DayIndexExact t) ∧
    ((Recorded.volumes (BitVec.intMin 64) (BitVec.intMax 64) (BitVec.intMax 64)).dayIndex
        { Recorded.crates with overflowChecks := false } (BitVec.intMax 64 - 1) =
      .ok (some 0)) ∧
    ¬ ∀ data config, SharingConfig.fromAccountData data = .ok config →
      config.ShareTotalExact data := by
  refine ⟨?_, by decide +kernel, ?_⟩
  · intro exact_index
    have exact_index := exact_index _ _ (BitVec.intMax 64 - 1)
      (Recorded.volumes_decode (BitVec.intMin 64) (BitVec.intMax 64) (BitVec.intMax 64))
    have fits := GlobalVolumeAccumulator.dayIndexExact_iff.mp exact_index (by decide) (by decide)
    exact absurd fits (by decide)
  · intro exact_total
    have decoded := Recorded.split_decode (List.replicate 65_538 ⟨Recorded.shareholder, 65_535⟩)
      (by rw [List.length_replicate]; decide)
    have fits := (SharingConfig.shareTotalExact_iff decoded).mp (exact_total _ _ decoded)
    rw [← SharingConfig.shareSum_stored decoded, shareSum, Recorded.split, List.map_replicate,
      List.sum_replicate] at fits
    exact absurd fits (by decide)

end PumpSwapSdk
