import Mathlib.Algebra.Order.Ring.Defs
import Mathlib.Logic.Relation
import Mathlib.Tactic.Linarith

/-!
# Exchanges that cannot be milked

A two-asset exchange is a pool and one trader who deals with it. A step is fair when
neither asset is created between the two and the product of the reserves does not fall.
Runs of fair steps are fair (`fair_of_run`), and a fair exchange has no money pump
(`no_gain_in_quote`, `no_gain_in_base`): the trader never ends with at least as much of one
asset and strictly more of the other.

The amounts live in any ordered ring, so the trader's holdings may be negative on the way.
-/

set_option autoImplicit false

namespace Foundation.Exchange

variable {R : Type*} [CommRing R] [LinearOrder R]

/-- What the pool and the trader hold of each asset. -/
structure Holdings (R : Type*) where
  poolBase : R
  poolQuote : R
  traderBase : R
  traderQuote : R

namespace Holdings

/-- The product of the reserves. -/
def product (h : Holdings R) : R := h.poolBase * h.poolQuote

/-- Both reserves are positive. -/
structure Funded (h : Holdings R) : Prop where
  base_pos : 0 < h.poolBase
  quote_pos : 0 < h.poolQuote

/-- Going from one pair of holdings to the other creates nothing and does not lower the
product. -/
structure Fair (before after : Holdings R) : Prop where
  base_le : after.traderBase + after.poolBase ≤ before.traderBase + before.poolBase
  quote_le : after.traderQuote + after.poolQuote ≤ before.traderQuote + before.poolQuote
  product_le : before.product ≤ after.product

theorem Fair.refl (h : Holdings R) : Fair h h := ⟨le_rfl, le_rfl, le_rfl⟩

theorem Fair.trans {first second third : Holdings R} (earlier : Fair first second)
    (later : Fair second third) : Fair first third where
  base_le := later.base_le.trans earlier.base_le
  quote_le := later.quote_le.trans earlier.quote_le
  product_le := earlier.product_le.trans later.product_le

/-- A fair step cannot empty a funded pool. -/
theorem Fair.funded [IsStrictOrderedRing R] {before after : Holdings R} (fair : Fair before after)
    (start : before.Funded) (base : 0 ≤ after.poolBase) (quote : 0 ≤ after.poolQuote) :
    after.Funded := by
  have positive : 0 < after.poolBase * after.poolQuote :=
    (mul_pos start.base_pos start.quote_pos).trans_le fair.product_le
  exact ⟨base.lt_of_ne' (left_ne_zero_of_mul positive.ne'),
    quote.lt_of_ne' (right_ne_zero_of_mul positive.ne')⟩

end Holdings

open Holdings

variable [IsStrictOrderedRing R]

section Runs

variable {State : Type*} {view : State → Holdings R} {step : State → State → Prop}

/-- **A run of fair steps is fair from end to end**, and never empties the pool. -/
theorem fair_of_run (reserves : ∀ s, 0 ≤ (view s).poolBase ∧ 0 ≤ (view s).poolQuote)
    (fair : ∀ ⦃s t⦄, (view s).Funded → step s t → Fair (view s) (view t)) {s t : State}
    (start : (view s).Funded) (run : Relation.ReflTransGen step s t) :
    Fair (view s) (view t) ∧ (view t).Funded := by
  induction run with
  | refl => exact ⟨Fair.refl _, start⟩
  | tail _ last ih =>
      obtain ⟨so_far, funded⟩ := ih
      have next := fair funded last
      exact ⟨so_far.trans next, next.funded funded (reserves _).1 (reserves _).2⟩

end Runs

/-- **A fair exchange gives no quote away.** -/
theorem no_gain_in_quote {before after : Holdings R} (fair : Fair before after)
    (start : before.Funded) (finish : after.Funded)
    (base : before.traderBase ≤ after.traderBase) :
    ¬ before.traderQuote < after.traderQuote := by
  intro gained
  have base_fell : after.poolBase ≤ before.poolBase := by linarith only [fair.base_le, base]
  have quote_fell : after.poolQuote < before.poolQuote := by linarith only [fair.quote_le, gained]
  have product_fell : after.product < before.product :=
    calc after.poolBase * after.poolQuote
        ≤ before.poolBase * after.poolQuote :=
          mul_le_mul_of_nonneg_right base_fell finish.quote_pos.le
      _ < before.poolBase * before.poolQuote :=
          mul_lt_mul_of_pos_left quote_fell start.base_pos
  exact absurd fair.product_le (not_le.mpr product_fell)

/-- **A fair exchange gives no base away.** -/
theorem no_gain_in_base {before after : Holdings R} (fair : Fair before after)
    (start : before.Funded) (finish : after.Funded)
    (quote : before.traderQuote ≤ after.traderQuote) :
    ¬ before.traderBase < after.traderBase := by
  intro gained
  have base_fell : after.poolBase < before.poolBase := by linarith only [fair.base_le, gained]
  have quote_fell : after.poolQuote ≤ before.poolQuote := by linarith only [fair.quote_le, quote]
  have product_fell : after.product < before.product :=
    calc after.poolBase * after.poolQuote
        < before.poolBase * after.poolQuote :=
          mul_lt_mul_of_pos_right base_fell finish.quote_pos
      _ ≤ before.poolBase * before.poolQuote :=
          mul_le_mul_of_nonneg_left quote_fell start.base_pos.le
  exact absurd fair.product_le (not_le.mpr product_fell)

end Foundation.Exchange
