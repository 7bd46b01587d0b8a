import Mathlib.Algebra.Order.Floor.Div
import Mathlib.Tactic.Linarith
import Mathlib.Tactic.Ring

/-!
# The constant-product curve on natural numbers

A pool holds a reserve `X` of what comes in and a reserve `Y` of what goes out. Paying
`x` in returns `outGiven x X Y`, rounded down. Asking for `y` out costs `inFor y X Y`,
rounded up.

The two are adjoint (`le_outGiven_iff`): an input returns at least `y` exactly when it is
at least the cost of `y`. Both roundings favour the pool, so a trade at either price never
lowers the product of the reserves (`product_le_of_outGiven`, `product_le_of_inFor`).

A larger input, a larger reserve of what goes out and a smaller one of what comes in each
return no less (`outGiven_mono`, `outGiven_anti`). Paying an input in parts, each on the
reserves that the parts before have left, returns no more than paying it at once
(`sum_outputs_le`).
-/

set_option autoImplicit false

namespace Foundation.ConstantProduct

variable {X X' Y Y' x x' y z : ℕ}

/-- What the curve returns for an input, rounded down. -/
def outGiven (x X Y : ℕ) : ℕ := Y * x / (X + x)

/-- What the curve asks for an output, rounded up. -/
def inFor (y X Y : ℕ) : ℕ := (X * y) ⌈/⌉ (Y - y)

@[simp] theorem outGiven_zero : outGiven 0 X Y = 0 := by
  simp only [outGiven, Nat.mul_zero, Nat.zero_div]

@[simp] theorem inFor_zero : inFor 0 X Y = 0 := by
  simp only [inFor, Nat.mul_zero, zero_ceilDiv]

/-- An output is bought by an input exactly when the curve covers it. -/
theorem le_outGiven_iff_mul_le (pos : 0 < X + x) :
    y ≤ outGiven x X Y ↔ y * (X + x) ≤ Y * x :=
  Nat.le_div_iff_mul_le pos

/-- A cost is covered by an input exactly when the curve covers the output. -/
theorem inFor_le_iff_mul_le (below : y < Y) : inFor y X Y ≤ x ↔ y * (X + x) ≤ Y * x := by
  obtain ⟨rest, rfl⟩ := Nat.exists_eq_add_of_lt below
  rw [inFor, ceilDiv_le_iff_le_mul (by omega)]
  have remaining : y + rest + 1 - y = rest + 1 := by omega
  rw [remaining]
  constructor
  · intro covered
    nlinarith only [covered]
  · intro covered
    nlinarith only [covered]

/-- **Exact input and exact output are adjoint.** An input buys `y` exactly when it is at
least the cost of `y`. -/
theorem le_outGiven_iff (pos : 0 < X) (below : y < Y) :
    y ≤ outGiven x X Y ↔ inFor y X Y ≤ x := by
  rw [le_outGiven_iff_mul_le (by omega), inFor_le_iff_mul_le below]

/-- A pool with something to sell is never drained. -/
theorem outGiven_lt (posX : 0 < X) (posY : 0 < Y) : outGiven x X Y < Y := by
  refine Nat.div_lt_of_lt_mul ?_
  nlinarith only [Nat.mul_pos posX posY]

theorem outGiven_le : outGiven x X Y ≤ Y := by
  refine Nat.div_le_of_le_mul ?_
  nlinarith only [Nat.zero_le (X * Y)]

/-- A larger input on a larger reserve returns no less. -/
theorem outGiven_mono (paid : x ≤ x') (stocked : Y ≤ Y') :
    outGiven x X Y ≤ outGiven x' X Y' := by
  rcases Nat.eq_zero_or_pos x with rfl | some
  · rw [outGiven_zero]
    exact Nat.zero_le _
  · have covered := (le_outGiven_iff_mul_le (Y := Y) (by omega : 0 < X + x)).mp le_rfl
    have bounded : outGiven x X Y ≤ Y := outGiven_le
    rw [le_outGiven_iff_mul_le (by omega)]
    obtain ⟨more, rfl⟩ := Nat.exists_eq_add_of_le paid
    calc outGiven x X Y * (X + (x + more))
        = outGiven x X Y * (X + x) + outGiven x X Y * more := by ring
      _ ≤ Y * x + Y * more := Nat.add_le_add covered (Nat.mul_le_mul_right more bounded)
      _ = Y * (x + more) := (Nat.mul_add Y x more).symm
      _ ≤ Y' * (x + more) := Nat.mul_le_mul_right _ stocked

/-- A larger reserve of what comes in returns no more. -/
theorem outGiven_anti (held : X ≤ X') : outGiven x X' Y ≤ outGiven x X Y := by
  rcases Nat.eq_zero_or_pos x with rfl | some
  · rw [outGiven_zero]
    exact Nat.zero_le _
  · have covered := (le_outGiven_iff_mul_le (Y := Y) (by omega : 0 < X' + x)).mp le_rfl
    rw [le_outGiven_iff_mul_le (by omega)]
    exact (Nat.mul_le_mul_left _ (by omega)).trans covered

/-! ## Paying in parts -/

/-- An input paid in two parts returns no more than the whole. -/
theorem outGiven_add_outGiven_le :
    outGiven x X Y + outGiven z (X + x) (Y - outGiven x X Y) ≤ outGiven (x + z) X Y := by
  rcases Nat.eq_zero_or_pos (X + x) with empty | funded
  · obtain ⟨rfl, rfl⟩ : X = 0 ∧ x = 0 := by omega
    simp only [outGiven_zero, Nat.zero_add, Nat.add_zero, Nat.sub_zero, Nat.le_refl]
  · have first := (le_outGiven_iff_mul_le (Y := Y) funded).mp le_rfl
    have second := (le_outGiven_iff_mul_le (X := X + x) (Y := Y - outGiven x X Y)
      (by omega : 0 < X + x + z)).mp le_rfl
    rw [le_outGiven_iff_mul_le (by omega)]
    obtain ⟨rest, whole⟩ := Nat.exists_eq_add_of_le (outGiven_le (x := x) (X := X) (Y := Y))
    have left : Y - outGiven x X Y = rest := by omega
    rw [left] at second ⊢
    generalize outGiven x X Y = g at first second whole ⊢
    generalize outGiven z (X + x) rest = h at second ⊢
    subst whole
    calc (g + h) * (X + (x + z)) = g * (X + x) + g * z + h * (X + x + z) := by ring
      _ ≤ (g + rest) * x + g * z + rest * z := by omega
      _ = (g + rest) * (x + z) := by ring

/-- What the inputs of a list return one after another. -/
def outputs (X Y : ℕ) : List ℕ → List ℕ
  | [] => []
  | x :: xs => outGiven x X Y :: outputs (X + x) (Y - outGiven x X Y) xs

/-- **An input paid in parts returns no more than the whole.** -/
theorem sum_outputs_le (xs : List ℕ) : (outputs X Y xs).sum ≤ outGiven xs.sum X Y := by
  induction xs generalizing X Y with
  | nil => exact Nat.zero_le _
  | cons x xs ih =>
      rw [outputs, List.sum_cons, List.sum_cons]
      calc outGiven x X Y + (outputs (X + x) (Y - outGiven x X Y) xs).sum
          ≤ outGiven x X Y + outGiven xs.sum (X + x) (Y - outGiven x X Y) :=
            Nat.add_le_add_left ih _
        _ ≤ outGiven (x + xs.sum) X Y := outGiven_add_outGiven_le

/-! ## The product -/

/-- A trade the curve covers does not lower the product of the reserves. -/
theorem product_le_of_covered (covered : y * (X + x) ≤ Y * x) (below : y ≤ Y) :
    X * Y ≤ (X + x) * (Y - y) := by
  obtain ⟨rest, rfl⟩ := Nat.exists_eq_add_of_le below
  rw [Nat.add_sub_cancel_left]
  nlinarith only [covered]

/-- Paying at least `x` and taking at most what `x` returns keeps the product. -/
theorem product_le_of_outGiven (pos : 0 < X + x) (paid : x ≤ z) (taken : y ≤ outGiven x X Y) :
    X * Y ≤ (X + z) * (Y - y) :=
  calc X * Y ≤ (X + x) * (Y - y) :=
        product_le_of_covered ((le_outGiven_iff_mul_le pos).mp taken) (taken.trans outGiven_le)
    _ ≤ (X + z) * (Y - y) := Nat.mul_le_mul_right _ (by omega)

/-- Paying at least the cost of `y` and taking `y` keeps the product. -/
theorem product_le_of_inFor (below : y < Y) (paid : inFor y X Y ≤ z) :
    X * Y ≤ (X + z) * (Y - y) :=
  product_le_of_covered ((inFor_le_iff_mul_le below).mp paid) below.le

end Foundation.ConstantProduct
