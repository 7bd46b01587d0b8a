import PumpSwapSdk.Foundation.Retry
import PumpSwapSdk.Jito

/-!
# The retries of a bundle

The loop counts a failed attempt before it compares the count with the limit, so that it makes one
send less than its error says: up to `max_retries - 1`, and at least one. A budget of
`max_retries` sends is used as promised exactly when there is nothing to lose, with a limit of at
most one, or when a send before the last one succeeds (`retry_budget_is_used_iff`).
-/

set_option autoImplicit false

namespace PumpSwapSdk

open Foundation.Retry

/-! ## Outcomes of sends -/

section Outcomes

variable {Transaction : Type} {crates : JitoCrates Transaction} {txs : List Transaction}

/-- A send succeeds exactly when the bundle is encoded and the answer names it. -/
theorem sendJitoBundle_isOk_iff {sendBundle : Json → Except String Json} :
    (sendJitoBundle crates txs sendBundle).isOk ↔
      ∃ params response uuid, bundleParams crates txs = .ok params ∧
        sendBundle params = .ok response ∧ (response.get "result").asStr = some uuid := by
  simp only [isOk_iff, sendJitoBundle, bind_eq_ok_iff]
  constructor
  · rintro ⟨_, params, encoded, response, answered, sent⟩
    cases named : (response.get "result").asStr with
    | none =>
        rw [named] at sent
        cases sent
    | some uuid => exact ⟨params, response, uuid, encoded, answered, named⟩
  · rintro ⟨params, response, uuid, encoded, answered, named⟩
    refine ⟨(), params, encoded, response, answered, ?_⟩
    rw [named]

/-- Clients can make the sends of a bundle that is encoded come out in any way. -/
theorem exists_bundleOutcomes (encodable : (bundleParams crates txs).isOk)
    (outcomes : ℕ → Except String Unit) :
    ∃ sendBundle, bundleOutcomes crates txs sendBundle = outcomes := by
  obtain ⟨params, encoded⟩ := isOk_iff.mp encodable
  refine ⟨fun attempt _ => (outcomes attempt).map fun _ => .object [("result", .string "")], ?_⟩
  funext attempt
  rw [bundleOutcomes, sendJitoBundle, encoded]
  cases outcomes attempt with
  | error message => rfl
  | ok _ => rfl

end Outcomes

/-! ## What the loop does -/

section Loop

variable {outcomes : ℕ → Except String Unit} {maxRetries : U64}

/-- What is returned after the last send. -/
def report (maxRetries : U64) (outcome : Except String Unit) : Result Unit :=
  outcome.mapError (failedToSend maxRetries)

theorem report_isOk {outcome : Except String Unit} :
    (report maxRetries outcome).isOk = outcome.isOk := by
  cases outcome with
  | error _ => rfl
  | ok _ => rfl

/-- From an attempt on, the loop goes up to the last attempt before the limit, or makes that one
attempt only. -/
theorem sendLoop_stopsAt (outcomes : ℕ → Except String Unit) (maxRetries : U64) (attempt : ℕ) :
    ∃ last, StopsAt (fun k => (outcomes k).isOk) attempt (max attempt (maxRetries.toNat - 1))
        last ∧
      sendLoop outcomes maxRetries attempt = (last, report maxRetries (outcomes last)) := by
  fun_induction sendLoop outcomes maxRetries attempt with
  | case1 attempt _ sent =>
      refine ⟨attempt, .single (Nat.le_max_left _ _) (Or.inl ?_), ?_⟩
      · rw [sent]
        rfl
      · rw [sent]
        rfl
  | case2 attempt error failed exhausted =>
      refine ⟨attempt, .single (Nat.le_max_left _ _) (Or.inr ?_), ?_⟩
      · omega
      · rw [failed]
        rfl
  | case3 attempt error failed remaining ih =>
      obtain ⟨last, rest, returned⟩ := ih
      refine ⟨last, .of_failed ?_ ?_, returned⟩
      · rw [failed]
        exact Bool.false_ne_true
      · rwa [show max attempt (maxRetries.toNat - 1) = max (attempt + 1) (maxRetries.toNat - 1) by
          omega]

/-- The sends go up to one less than the limit, and to one at least. -/
theorem sendBundleWithRetry_stopsAt (outcomes : ℕ → Except String Unit) (maxRetries : U64) :
    ∃ last, StopsAt (fun k => (outcomes k).isOk) 1 (max 1 (maxRetries.toNat - 1)) last ∧
      sendBundleWithRetry outcomes maxRetries = (last, report maxRetries (outcomes last)) :=
  sendLoop_stopsAt outcomes maxRetries 1

end Loop

/-! ## The budget -/

/-- A call with a budget of `n` sends: it succeeds when one of them does, stops at the first that
does, and otherwise makes them all and returns the last one's error. -/
structure UsesBudget (n : ℕ) (maxRetries : U64) (outcomes : ℕ → Except String Unit)
    (sends : ℕ) (returned : Result Unit) : Prop where
  succeeds : returned.isOk ↔ ∃ k, 1 ≤ k ∧ k ≤ n ∧ (outcomes k).isOk
  stops : ∀ k, 1 ≤ k → k ≤ n → (outcomes k).isOk →
    (∀ j, 1 ≤ j → j < k → ¬ (outcomes j).isOk) → sends = k
  exhausts : (∀ k, 1 ≤ k → k ≤ n → ¬ (outcomes k).isOk) →
    sends = n ∧ ∃ error, outcomes n = .error error ∧
      returned = .error (failedToSend maxRetries error)

variable {outcomes : ℕ → Except String Unit} {maxRetries : U64} {n sends : ℕ}

/-- Sends that return what the last of them does use a budget exactly when they stop within it. -/
theorem usesBudget_iff (positive : 1 ≤ n) :
    UsesBudget n maxRetries outcomes sends (report maxRetries (outcomes sends)) ↔
      StopsAt (fun k => (outcomes k).isOk) 1 n sends := by
  constructor
  · intro uses
    obtain ⟨last, stops⟩ := StopsAt.exists_last (fun k => ((outcomes k).isOk : Prop)) positive
    have same : sends = last := by
      rcases stops.stopped with success | rfl
      · exact uses.stops last stops.started stops.within success stops.failed
      · by_cases success : (outcomes last).isOk
        · exact uses.stops last stops.started stops.within success stops.failed
        · refine (uses.exhausts fun k started within => ?_).1
          rcases Nat.eq_or_lt_of_le within with rfl | before
          · exact success
          · exact stops.failed k started before
    rwa [same]
  · intro stops
    refine ⟨?_, ?_, ?_⟩
    · rw [report_isOk]
      exact stops.succeeds_iff
    · intro k started within success first
      exact stops.unique ⟨started, within, first, Or.inl success⟩
    · intro failed
      have unsent := failed sends stops.started stops.within
      obtain rfl : sends = n := stops.stopped.resolve_left unsent
      cases returned : outcomes sends with
      | ok _ => exact absurd (by rw [returned]; rfl) unsent
      | error error => exact ⟨rfl, error, rfl, rfl⟩

/-- **When the retry budget is used.** With a budget of `max_retries` sends, and of one where that
is zero, `send_bundle_with_retry` does what it promises exactly when the limit is at most one, or
a send before the last of the budget succeeds. -/
theorem retry_budget_is_used_iff (outcomes : ℕ → Except String Unit) (maxRetries : U64) :
    UsesBudget (max 1 maxRetries.toNat) maxRetries outcomes
        (sendBundleWithRetry outcomes maxRetries).1 (sendBundleWithRetry outcomes maxRetries).2 ↔
      maxRetries.toNat ≤ 1 ∨ ∃ k, 1 ≤ k ∧ k < maxRetries.toNat ∧ (outcomes k).isOk := by
  obtain ⟨last, stops, sent⟩ := sendBundleWithRetry_stopsAt outcomes maxRetries
  rw [sent, usesBudget_iff (Nat.le_max_left _ _), stops.raise_iff (by omega)]
  constructor
  · rintro (same | ⟨k, started, within, success⟩)
    · exact Or.inl (by omega)
    · by_cases small : maxRetries.toNat ≤ 1
      · exact Or.inl small
      · exact Or.inr ⟨k, started, by omega, success⟩
  · rintro (small | ⟨k, started, before, success⟩)
    · exact Or.inl (by omega)
    · exact Or.inr ⟨k, started, by omega, success⟩

/-- With a limit of two, a failure is not followed by the second send, which would succeed. -/
theorem retry_budget_is_not_used :
    ¬ ∀ (outcomes : ℕ → Except String Unit) (maxRetries : U64),
      UsesBudget (max 1 maxRetries.toNat) maxRetries outcomes
        (sendBundleWithRetry outcomes maxRetries).1
        (sendBundleWithRetry outcomes maxRetries).2 := by
  intro uses
  have twice := uses (fun k => if k = 1 then .error "timeout" else .ok ()) 2
  have refused : sendBundleWithRetry (fun k => if k = 1 then .error "timeout" else .ok ()) 2 =
      (1, .error (failedToSend 2 "timeout")) := by
    rw [sendBundleWithRetry, sendLoop]
    rfl
  rw [refused] at twice
  exact absurd (twice.succeeds.mpr ⟨2, by decide, by decide, rfl⟩) (by decide)

end PumpSwapSdk
