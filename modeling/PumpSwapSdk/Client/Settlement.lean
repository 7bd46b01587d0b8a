import PumpSwapSdk.Client.SellClose
import PumpSwapSdk.Client.UserBank

/-!
# What a swap is for its user

A trade between the wallet's lamports and one token account, within the terms that the call sets
(`SwapCall.Allows`, `SwapCall.settle`). There is no WSOL account in it: the wallet must hold what
such an account is funded with, and keeps what is not spent.
-/

set_option autoImplicit false

namespace PumpSwapSdk

variable {crates : Crates} {poolInfo : PoolInfo} {call : SwapCall}

/-! ## A trade between a wallet and a token account -/

/-- A token account: the lamports it holds and its balance. -/
structure Holding where
  lamports : ℕ
  amount : ℕ
deriving DecidableEq

/-- What a user has for one token: the wallet's lamports, and the token account if there is
one. -/
structure Position where
  lamports : ℕ
  token : Option Holding
deriving DecidableEq

/-- What a holding is worth in lamports once its account is closed. -/
def Position.closed : Position → Option Position
  | ⟨lamports, some ⟨rent, 0⟩⟩ => some ⟨lamports + rent, none⟩
  | _ => none

namespace SwapCall

/-- The least the user accepts. -/
def minReceived : SwapCall → U64
  | .buy baseAmountOut _ _ _ => baseAmountOut
  | .buyExactQuoteIn _ minBaseAmountOut _ _ => minBaseAmountOut
  | .sell _ minQuoteAmountOut _ => minQuoteAmountOut
  | .tokenBuy _ minTokensOut _ _ => minTokensOut
  | .tokenSell _ minSolOut _ => minSolOut

/-- Whether pump-amm is asked for a `buy_exact_quote_in`, which needs a minimum. -/
def needsMinimum (pool : PoolInfo) : SwapCall → Bool
  | .buyExactQuoteIn _ _ _ _ => true
  | .tokenBuy _ _ _ _ => !pool.solIsBase
  | .tokenSell _ _ _ => pool.solIsBase
  | _ => false

/-- The terms of a call: it spends at most what it states, and receives the least it accepts. -/
structure Allows (pool : PoolInfo) (call : SwapCall) (fill : Fill) : Prop where
  spent : fill.spent ≤ call.spentAmount
  received : call.minReceived ≤ fill.received
  minimum : call.needsMinimum pool → 0 < call.minReceived

/-- The token account a call trades with and what opening it costs. -/
def holding (rent : Option ℕ) (call : SwapCall) : Option Holding → Option (Holding × ℕ)
  | some held => some (held, 0)
  | none =>
      if call.createsTokenAccount then rent.map fun lamports => (⟨lamports, 0⟩, lamports) else none

/-- The trade itself: SOL for tokens, or tokens for SOL. -/
def traded (pool : PoolInfo) (call : SwapCall) (fill : Fill) (lamports : ℕ) (held : Holding) :
    Option Position :=
  if call.spentSide pool = pool.wsolSide then
    if held.amount + fill.received.toNat < 2 ^ 64 then
      some ⟨lamports - fill.spent.toNat,
        some ⟨held.lamports, held.amount + fill.received.toNat⟩⟩
    else none
  else if fill.spent.toNat ≤ held.amount then
    some ⟨lamports + fill.received.toNat,
      some ⟨held.lamports, held.amount - fill.spent.toNat⟩⟩
  else none

/-- **What a swap is for its user.** The wallet pays the charge and the rent of a new token account
and must hold the lamports of the WSOL account on top, which must fit a word. Then it trades, and
closes the token account if asked to. -/
def settle (crates : Crates) (rent : Option ℕ) (pool : PoolInfo) (fill : Fill) (call : SwapCall)
    (position : Position) : Option Position := do
  let (held, opening) ← call.holding rent position.token
  let required := call.requiredLamports crates pool
  if required < 2 ^ 64 ∧ fill.charge + opening + required ≤ position.lamports then
    let reached ← call.traded pool fill (position.lamports - (fill.charge + opening)) held
    if call.closesTokenAccount then reached.closed else some reached
  else none

end SwapCall

/-- A call that has no token account to trade with was made without one. -/
theorem SwapCall.token_eq_none_of_holding {rent : Option ℕ} {token : Option Holding}
    (missing : call.holding rent token = none) : token = none := by
  cases token with
  | some held => cases missing
  | none => rfl

/-! ## What a call settles -/

section Settle

variable {position reached : Position} {held : Holding} {opening lamports rent amount : ℕ}
variable {fill : Fill} {rented : Option ℕ} {closes : Bool}

/-- The token account is closed if asked to, and then only empty. -/
theorem closed_eq_some_iff :
    (if closes then Position.closed ⟨lamports, some ⟨rent, amount⟩⟩
      else some ⟨lamports, some ⟨rent, amount⟩⟩) = some reached ↔
      (closes → amount = 0) ∧
        reached = ⟨if closes then lamports + rent else lamports,
          if closes then none else some ⟨rent, amount⟩⟩ := by
  cases closes with
  | false => simp [eq_comm]
  | true =>
      cases amount with
      | zero => simp [Position.closed, eq_comm]
      | succ amount => simp [Position.closed]

theorem settle_eq_some_iff
    (held_by : call.holding rented position.token = some (held, opening)) :
    call.settle crates rented poolInfo fill position = some reached ↔
      (call.requiredLamports crates poolInfo < 2 ^ 64 ∧
        fill.charge + opening + call.requiredLamports crates poolInfo ≤ position.lamports) ∧
        ∃ after, call.traded poolInfo fill (position.lamports - (fill.charge + opening)) held =
            some after ∧
          (if call.closesTokenAccount then after.closed else some after) = some reached := by
  simp only [SwapCall.settle, held_by, Option.bind_eq_bind, Option.bind_some,
    Option.ite_none_right_eq_some, Option.bind_eq_some_iff]

/-- What a purchase settles. -/
theorem settle_purchase_iff
    (held_by : call.holding rented position.token = some (held, opening))
    (spends : call.spentSide poolInfo = poolInfo.wsolSide) :
    call.settle crates rented poolInfo fill position = some reached ↔
      (call.requiredLamports crates poolInfo < 2 ^ 64 ∧
        fill.charge + opening + call.requiredLamports crates poolInfo ≤ position.lamports) ∧
        held.amount + fill.received.toNat < 2 ^ 64 ∧
        (call.closesTokenAccount → held.amount + fill.received.toNat = 0) ∧
        reached =
          ⟨if call.closesTokenAccount then
              position.lamports - (fill.charge + opening) - fill.spent.toNat + held.lamports
            else position.lamports - (fill.charge + opening) - fill.spent.toNat,
            if call.closesTokenAccount then none
            else some ⟨held.lamports, held.amount + fill.received.toNat⟩⟩ := by
  simp only [settle_eq_some_iff held_by, SwapCall.traded, spends, if_true,
    Option.ite_none_right_eq_some, Option.some.injEq]
  constructor
  · rintro ⟨covered, _, ⟨fits, rfl⟩, ends⟩
    exact ⟨covered, fits, closed_eq_some_iff.mp ends⟩
  · rintro ⟨covered, fits, ends⟩
    exact ⟨covered, _, ⟨fits, rfl⟩, closed_eq_some_iff.mpr ends⟩

/-- What a sale settles. -/
theorem settle_sale_iff
    (held_by : call.holding rented position.token = some (held, opening))
    (keeps : call.spentSide poolInfo ≠ poolInfo.wsolSide) :
    call.settle crates rented poolInfo fill position = some reached ↔
      (call.requiredLamports crates poolInfo < 2 ^ 64 ∧
        fill.charge + opening + call.requiredLamports crates poolInfo ≤ position.lamports) ∧
        fill.spent.toNat ≤ held.amount ∧
        (call.closesTokenAccount → held.amount - fill.spent.toNat = 0) ∧
        reached =
          ⟨if call.closesTokenAccount then
              position.lamports - (fill.charge + opening) + fill.received.toNat + held.lamports
            else position.lamports - (fill.charge + opening) + fill.received.toNat,
            if call.closesTokenAccount then none
            else some ⟨held.lamports, held.amount - fill.spent.toNat⟩⟩ := by
  simp only [settle_eq_some_iff held_by, SwapCall.traded, keeps, if_false,
    Option.ite_none_right_eq_some, Option.some.injEq]
  constructor
  · rintro ⟨covered, _, ⟨enough, rfl⟩, ends⟩
    exact ⟨covered, enough, closed_eq_some_iff.mp ends⟩
  · rintro ⟨covered, enough, ends⟩
    exact ⟨covered, _, ⟨enough, rfl⟩, closed_eq_some_iff.mpr ends⟩

end Settle

end PumpSwapSdk
