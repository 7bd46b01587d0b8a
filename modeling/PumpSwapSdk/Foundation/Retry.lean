import Mathlib.Order.Basic

/-!
# Repeated calls

A call is repeated until one succeeds or a limit is reached. Calls are numbered, and `succeeds`
tells which of them would succeed: of a run only the last call made is of interest (`StopsAt`).
The last call succeeds exactly when one up to the limit does, and it is the first that does.

Two limits stop at the same call exactly when they are equal or a call up to the smaller one
succeeds (`StopsAt.raise_iff`).
-/

set_option autoImplicit false

namespace Foundation.Retry

variable {succeeds : ℕ → Prop} {first limit higher last : ℕ}

/-- Calls that start at `first` and go up to `limit` at most end with the call `last`. -/
structure StopsAt (succeeds : ℕ → Prop) (first limit last : ℕ) : Prop where
  started : first ≤ last
  within : last ≤ limit
  failed : ∀ k, first ≤ k → k < last → ¬ succeeds k
  stopped : succeeds last ∨ last = limit

/-- A single call that succeeds, or is the only one allowed, is the last. -/
theorem StopsAt.single (below : first ≤ limit) (stopped : succeeds first ∨ first = limit) :
    StopsAt succeeds first limit first where
  started := Nat.le_refl first
  within := below
  failed := by
    intro k since before
    exact absurd before (Nat.not_lt.mpr since)
  stopped := stopped

/-- A failed call is followed by the run from the next one. -/
theorem StopsAt.of_failed (failed : ¬ succeeds first)
    (rest : StopsAt succeeds (first + 1) limit last) : StopsAt succeeds first limit last where
  started := Nat.le_of_succ_le rest.started
  within := rest.within
  failed := by
    intro k since before
    rcases Nat.eq_or_lt_of_le since with rfl | later
    · exact failed
    · exact rest.failed k later before
  stopped := rest.stopped

/-- Every run ends. -/
theorem StopsAt.exists_last (succeeds : ℕ → Prop) (below : first ≤ limit) :
    ∃ last, StopsAt succeeds first limit last := by
  obtain ⟨gap, rfl⟩ := Nat.exists_eq_add_of_le below
  induction gap generalizing first with
  | zero => exact ⟨first, .single below (Or.inr rfl)⟩
  | succ gap ih =>
      by_cases success : succeeds first
      · exact ⟨first, .single below (Or.inl success)⟩
      · obtain ⟨last, rest⟩ := ih (Nat.le_add_right (first + 1) gap)
        refine ⟨last, .of_failed success ?_⟩
        rwa [Nat.add_assoc, Nat.add_comm 1] at rest

/-- A successful call up to the limit is not passed. -/
theorem StopsAt.le_of_succeeds (stops : StopsAt succeeds first limit last) {k : ℕ}
    (since : first ≤ k) (success : succeeds k) : last ≤ k := by
  by_contra passed
  exact stops.failed k since (Nat.not_le.mp passed) success

/-- **The last call succeeds exactly when one up to the limit does.** -/
theorem StopsAt.succeeds_iff (stops : StopsAt succeeds first limit last) :
    succeeds last ↔ ∃ k, first ≤ k ∧ k ≤ limit ∧ succeeds k := by
  constructor
  · intro success
    exact ⟨last, stops.started, stops.within, success⟩
  · rintro ⟨k, since, within, success⟩
    rcases stops.stopped with stopped | rfl
    · exact stopped
    · rwa [Nat.le_antisymm (stops.le_of_succeeds since success) within]

/-- **A higher limit stops at the same call** exactly when it is the same limit, or a call up to
the lower one succeeds. -/
theorem StopsAt.raise_iff (stops : StopsAt succeeds first limit last) (raised : limit ≤ higher) :
    StopsAt succeeds first higher last ↔
      limit = higher ∨ ∃ k, first ≤ k ∧ k ≤ limit ∧ succeeds k := by
  rw [← stops.succeeds_iff]
  constructor
  · intro same
    rcases same.stopped with success | rfl
    · exact Or.inr success
    · exact Or.inl (Nat.le_antisymm raised stops.within)
  · rintro (rfl | success)
    · exact stops
    · exact ⟨stops.started, Nat.le_trans stops.within raised, stops.failed, Or.inl success⟩

/-- A run has one last call. -/
theorem StopsAt.unique (stops : StopsAt succeeds first limit last) {other : ℕ}
    (stops' : StopsAt succeeds first limit other) : last = other := by
  have order {a b : ℕ} (stops : StopsAt succeeds first limit a)
      (stops' : StopsAt succeeds first limit b) : a ≤ b := by
    rcases stops'.stopped with success | rfl
    · exact stops.le_of_succeeds stops'.started success
    · exact stops.within
  exact Nat.le_antisymm (order stops stops') (order stops' stops)

end Foundation.Retry
