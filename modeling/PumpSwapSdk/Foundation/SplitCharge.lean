import PumpSwapSdk.Foundation.MachineWord

/-!
# Charges split into shares

A charge on an amount is split among several rates, in units of one part in `D`, and each
share is rounded up on its own. The charge is subadditive (`charge_add_le`): splitting an
amount never lowers it. It is at least the share of the combined rate, and exceeds it by less
than one unit for each rate that is not zero (`combined_le_charge`, `charge_le_combined`).

What is left of an amount is therefore not monotone in it, but nearly so
(`net_le_net_add`), and amounts charged separately leave hardly more than their sum does
(`sum_net_le`). The slack of both is one unit less than the number of rates.
-/

set_option autoImplicit false

namespace Foundation.SplitCharge

open Foundation.MachineWord

variable {D : ℕ} {rates : List ℕ} {n m : ℕ}

/-- The share of one rate, rounded up. -/
def share (D rate n : ℕ) : ℕ := (n * rate) ⌈/⌉ D

/-- The charge: every rate's share. -/
def charge (D : ℕ) (rates : List ℕ) (n : ℕ) : ℕ := (rates.map fun rate => share D rate n).sum

/-- How many rates are not zero. -/
def active (rates : List ℕ) : ℕ := rates.countP (0 < ·)

/-- What the charge leaves, nothing where it takes more than there is. -/
def net (D : ℕ) (rates : List ℕ) (n : ℕ) : ℕ := n - charge D rates n

/-! ## Equations -/

@[simp] theorem charge_nil : charge D [] n = 0 := rfl

@[simp] theorem charge_cons (rate : ℕ) :
    charge D (rate :: rates) n = share D rate n + charge D rates n := by
  simp only [charge, List.map_cons, List.sum_cons]

@[simp] theorem share_zero_rate : share D 0 n = 0 := by
  simp only [share, Nat.mul_zero, zero_ceilDiv]

@[simp] theorem charge_zero : charge D rates 0 = 0 := by
  induction rates with
  | nil => rfl
  | cons rate rates ih => simp only [charge_cons, ih, share, Nat.zero_mul, zero_ceilDiv]

/-! ## Shares -/

/-- Rounding up is subadditive. -/
theorem ceilDiv_add_le (pos : 0 < D) (a b : ℕ) : (a + b) ⌈/⌉ D ≤ a ⌈/⌉ D + b ⌈/⌉ D := by
  rw [ceilDiv_le_iff_le_mul pos, Nat.mul_add]
  exact Nat.add_le_add (ceilDiv_bounds a pos).1 (ceilDiv_bounds b pos).1

/-- **The charge is subadditive.** -/
theorem charge_add_le (rates : List ℕ) (pos : 0 < D) (n m : ℕ) :
    charge D rates (n + m) ≤ charge D rates n + charge D rates m := by
  induction rates with
  | nil => exact Nat.le_refl 0
  | cons rate rates ih =>
      have head : share D rate (n + m) ≤ share D rate n + share D rate m := by
        rw [share, Nat.add_mul]
        exact ceilDiv_add_le pos _ _
      simp only [charge_cons]
      omega

/-- The charge covers the share of the combined rate. -/
theorem combined_le_charge (pos : 0 < D) (n : ℕ) :
    share D rates.sum n ≤ charge D rates n := by
  induction rates with
  | nil => rw [List.sum_nil, share_zero_rate, charge_nil]
  | cons rate rates ih =>
      have head : share D (rate + rates.sum) n ≤ share D rate n + share D rates.sum n := by
        rw [share, Nat.mul_add]
        exact ceilDiv_add_le pos _ _
      rw [charge_cons, List.sum_cons]
      omega

/-- Each rate that is not zero charges less than one unit too much. -/
theorem mul_charge_add_active_le (rates : List ℕ) (pos : 0 < D) (n : ℕ) :
    D * charge D rates n + active rates ≤ n * rates.sum + D * active rates := by
  induction rates with
  | nil => exact Nat.le_refl 0
  | cons rate rates ih =>
      rw [charge_cons, List.sum_cons, Nat.mul_add, Nat.mul_add]
      rcases Nat.eq_zero_or_pos rate with rfl | rated
      · have same : active (0 :: rates) = active rates := List.countP_cons_of_neg (by decide)
        rw [same, share_zero_rate]
        omega
      · have one_more : active (rate :: rates) = active rates + 1 :=
          List.countP_cons_of_pos (by simpa using rated)
        have bound := (ceilDiv_bounds (n * rate) pos).2
        rw [one_more, share, Nat.mul_add]
        omega

/-- **The charge exceeds the share of the combined rate by less than one unit a rate.** -/
theorem charge_le_combined (rates : List ℕ) (pos : 0 < D) (n : ℕ) :
    charge D rates n ≤ share D rates.sum n + (active rates - 1) := by
  have bound := mul_charge_add_active_le rates pos n
  have covered : n * rates.sum ≤ D * share D rates.sum n := (ceilDiv_bounds _ pos).1
  refine Nat.le_of_mul_le_mul_left ?_ pos
  rcases Nat.eq_zero_or_pos (active rates) with none | some
  · rw [none] at bound ⊢
    simpa using bound.trans (by omega)
  · -- The charge times `D` is below a multiple of `D`, so it is below by a whole unit.
    have below : D * charge D rates n < D * (share D rates.sum n + active rates) := by
      rw [Nat.mul_add]
      omega
    have whole := Nat.lt_of_mul_lt_mul_left below
    exact Nat.mul_le_mul_left D (by omega)

/-- Rates of no more than the whole charge hardly more than the amount. -/
theorem charge_le_add (pos : 0 < D) (modest : rates.sum ≤ D) (n : ℕ) :
    charge D rates n ≤ n + (active rates - 1) := by
  have combined : share D rates.sum n ≤ n := by
    rw [share, ceilDiv_le_iff_le_mul pos, Nat.mul_comm]
    exact Nat.mul_le_mul_right n modest
  have := charge_le_combined rates pos n
  omega

/-! ## What is left -/

/-- **A larger amount leaves hardly less.** -/
theorem net_le_net_add (pos : 0 < D) (modest : rates.sum ≤ D) (le : n ≤ m) :
    net D rates n ≤ net D rates m + (active rates - 1) := by
  obtain ⟨more, rfl⟩ := Nat.exists_eq_add_of_le le
  have split := charge_add_le rates pos n more
  have rest := charge_le_add pos modest more
  simp only [net]
  omega

/-- What amounts leave when they are charged separately is left by some smaller sum. -/
theorem exists_sum_net_le (rates : List ℕ) (pos : 0 < D) (amounts : List ℕ) :
    ∃ s ≤ amounts.sum, (amounts.map (net D rates)).sum + charge D rates s ≤ s := by
  induction amounts with
  | nil => exact ⟨0, Nat.le_refl 0, by simp⟩
  | cons x amounts ih =>
      obtain ⟨s, within, left⟩ := ih
      rw [List.sum_cons, List.map_cons, List.sum_cons]
      rcases Nat.lt_or_ge x (charge D rates x) with eaten | paid
      · -- An amount that its charge eats up leaves nothing, and drops out of the sum.
        refine ⟨s, by omega, ?_⟩
        have nothing : net D rates x = 0 := by
          simp only [net]
          omega
        omega
      · refine ⟨x + s, by omega, ?_⟩
        have joined := charge_add_le rates pos x s
        have part : net D rates x + charge D rates x = x := Nat.sub_add_cancel paid
        omega

/-- **Amounts charged separately leave hardly more than their sum.** -/
theorem sum_net_le (pos : 0 < D) (modest : rates.sum ≤ D) {amounts : List ℕ}
    (within : amounts.sum ≤ m) :
    (amounts.map (net D rates)).sum ≤ net D rates m + (active rates - 1) := by
  obtain ⟨s, below, left⟩ := exists_sum_net_le rates pos amounts
  have smaller := net_le_net_add pos modest (below.trans within)
  simp only [net] at left smaller ⊢
  omega

end Foundation.SplitCharge
