import Mathlib.Data.Nat.Notation
import Mathlib.Logic.Function.Basic
import PumpSwapSdk.Foundation.TokenLedger

/-!
# A bank of accounts that hold lamports

Every account in use holds lamports. It is a wallet, an account that a program allocated and no
more, or a token account of a mint under a token program, which its owner spends from and closes.
The balance of a token account of the native mint is part of its lamports: what exceeds the rent
when it is initialised, and less whenever some is spent. Closing an account pays its lamports out.

An operation that is refused returns no bank. On an account of known content each has a lemma that
says when it succeeds and which bank it returns. A run that touches only some accounts can be
followed on those (`update_extend`). Without its wallets and the lamports of its token accounts a
bank is a ledger of token accounts, and what an operation does to the bank is what it does to that
ledger.
-/

set_option autoImplicit false

namespace Foundation.AccountBank

variable {Address Owner Mint : Type*}

/-- What an account in use is for. -/
inductive Use (Owner Mint : Type*) where
  | wallet
  | allocated (program : Owner) (space : ℕ)
  | token (program : Owner) (mint : Mint) (owner : Owner) (amount : ℕ)

/-- What an address in use holds. -/
structure Entry (Owner Mint : Type*) where
  lamports : ℕ
  use : Use Owner Mint

/-- What every address holds, if it is in use. -/
abbrev Bank (Address Owner Mint : Type*) := Address → Option (Entry Owner Mint)

section Operations

variable [DecidableEq Address] [DecidableEq Owner] [DecidableEq Mint]

/-! ## Operations -/

/-- Takes lamports from a wallet. -/
def pay (bank : Bank Address Owner Mint) (a : Address) (n : ℕ) :
    Option (Bank Address Owner Mint) :=
  match bank a with
  | some ⟨lamports, .wallet⟩ =>
      if n ≤ lamports then some (Function.update bank a (some ⟨lamports - n, .wallet⟩)) else none
  | _ => none

/-- Adds lamports to an address. One that is not in use becomes a wallet. -/
def give (bank : Bank Address Owner Mint) (a : Address) (n : ℕ) : Bank Address Owner Mint :=
  match bank a with
  | some ⟨lamports, use⟩ => Function.update bank a (some ⟨lamports + n, use⟩)
  | none => Function.update bank a (some ⟨n, .wallet⟩)

/-- Allocates an account for a program at an unused address, with lamports from a wallet. -/
def allocate (bank : Bank Address Owner Mint) (payer a : Address) (program : Owner)
    (space n : ℕ) : Option (Bank Address Owner Mint) :=
  if (bank a).isSome then none
  else (pay bank payer n).map fun bank =>
    Function.update bank a (some ⟨n, .allocated program space⟩)

/-- The balance a token account starts with: of the native mint, what exceeds its rent. -/
def initialBalance (native : Mint) (rent lamports : ℕ) (mint : Mint) : ℕ :=
  if mint = native then lamports - rent else 0

/-- Makes an account that a token program allocated, of the size of a token account, one, if it
holds its rent. -/
def initialise (native : Mint) (size rent : ℕ) (bank : Bank Address Owner Mint) (a : Address)
    (program : Owner) (mint : Mint) (owner : Owner) : Option (Bank Address Owner Mint) :=
  match bank a with
  | some ⟨lamports, .allocated allocator space⟩ =>
      if allocator = program ∧ space = size ∧ rent ≤ lamports then
        some (Function.update bank a
          (some ⟨lamports, .token program mint owner (initialBalance native rent lamports mint)⟩))
      else none
  | _ => none

/-- Creates a token account, with its rent from a wallet less what is at the address already, unless
none can be created, and leaves one that is there as it is. -/
def create (rent : Option ℕ) (bank : Bank Address Owner Mint) (payer a : Address)
    (program : Owner) (mint : Mint) (owner : Owner) : Option (Bank Address Owner Mint) :=
  match bank a with
  | none => rent.bind fun rent =>
      (pay bank payer rent).map fun bank =>
        Function.update bank a (some ⟨rent, .token program mint owner 0⟩)
  | some ⟨there, .wallet⟩ => rent.bind fun rent =>
      if payer = a then none
      else (pay bank payer (rent - there)).map fun bank =>
        Function.update bank a (some ⟨max rent there, .token program mint owner 0⟩)
  | some ⟨_, .token heldProgram heldMint heldOwner _⟩ =>
      if heldProgram = program ∧ heldMint = mint ∧ heldOwner = owner then some bank else none
  | some ⟨_, .allocated _ _⟩ => none

/-- The lamports of a token account whose balance changes: those of a native one follow it. -/
def follow (native mint : Mint) (lamports followed : ℕ) : ℕ :=
  if mint = native then followed else lamports

omit [DecidableEq Address] [DecidableEq Owner] in
@[simp] theorem follow_native (native : Mint) (lamports followed : ℕ) :
    follow native native lamports followed = followed :=
  if_pos rfl

omit [DecidableEq Address] [DecidableEq Owner] in
theorem follow_of_ne {native mint : Mint} (other : mint ≠ native) (lamports followed : ℕ) :
    follow native mint lamports followed = lamports :=
  if_neg other

/-- Spends from a token account of an owner. -/
def spend (native : Mint) (bank : Bank Address Owner Mint) (a : Address) (mint : Mint)
    (owner : Owner) (n : ℕ) : Option (Bank Address Owner Mint) :=
  match bank a with
  | some ⟨lamports, .token program heldMint heldOwner amount⟩ =>
      if heldMint = mint ∧ heldOwner = owner ∧ n ≤ amount then
        some (Function.update bank a
          (some ⟨follow native mint lamports (lamports - n),
            .token program mint owner (amount - n)⟩))
      else none
  | _ => none

/-- Pays into a token account, below a limit. -/
def earn (native : Mint) (limit : ℕ) (bank : Bank Address Owner Mint) (a : Address) (mint : Mint)
    (n : ℕ) : Option (Bank Address Owner Mint) :=
  match bank a with
  | some ⟨lamports, .token program heldMint owner amount⟩ =>
      if heldMint = mint ∧ amount + n < limit then
        some (Function.update bank a
          (some ⟨follow native mint lamports (lamports + n),
            .token program mint owner (amount + n)⟩))
      else none
  | _ => none

/-- Closes a token account of an owner, under its program, that is native or empty, and pays its
lamports to another address. -/
def close (native : Mint) (bank : Bank Address Owner Mint) (a destination : Address)
    (program owner : Owner) : Option (Bank Address Owner Mint) :=
  match bank a with
  | some ⟨lamports, .token heldProgram mint heldOwner amount⟩ =>
      if a ≠ destination ∧ heldProgram = program ∧ heldOwner = owner ∧
          (mint = native ∨ amount = 0) then
        some (give (Function.update bank a none) destination lamports)
      else none
  | _ => none

end Operations

/-! ## When they succeed -/

section Success

variable [DecidableEq Address] [DecidableEq Owner] [DecidableEq Mint]
variable {bank next : Bank Address Owner Mint} {a payer destination : Address}
variable {mint native : Mint} {program owner : Owner} {use : Use Owner Mint}
variable {lamports amount size space rent limit n x : ℕ}

omit [DecidableEq Owner] [DecidableEq Mint] in
theorem pay_eq_some_iff (held : bank a = some ⟨lamports, .wallet⟩) :
    pay bank a n = some next ↔
      n ≤ lamports ∧ next = Function.update bank a (some ⟨lamports - n, .wallet⟩) := by
  simp only [pay, held, Option.ite_none_right_eq_some, Option.some.injEq]
  exact and_congr_right fun _ => eq_comm

omit [DecidableEq Owner] [DecidableEq Mint] in
theorem give_eq (held : bank a = some ⟨lamports, use⟩) :
    give bank a n = Function.update bank a (some ⟨lamports + n, use⟩) := by
  rw [give, held]

omit [DecidableEq Owner] [DecidableEq Mint] in
theorem allocate_eq_some_iff (held : bank payer = some ⟨lamports, .wallet⟩)
    (unused : bank a = none) :
    allocate bank payer a program space n = some next ↔
      n ≤ lamports ∧
        next = Function.update (Function.update bank payer (some ⟨lamports - n, .wallet⟩)) a
          (some ⟨n, .allocated program space⟩) := by
  rw [allocate, unused, Option.isSome_none, if_neg Bool.false_ne_true, Option.map_eq_some_iff]
  constructor
  · rintro ⟨paid, pays, rfl⟩
    obtain ⟨covered, rfl⟩ := (pay_eq_some_iff held).mp pays
    exact ⟨covered, rfl⟩
  · rintro ⟨covered, rfl⟩
    exact ⟨_, (pay_eq_some_iff held).mpr ⟨covered, rfl⟩, rfl⟩

theorem initialise_eq_some_iff (held : bank a = some ⟨lamports, .allocated program size⟩) :
    initialise native size rent bank a program mint owner = some next ↔
      rent ≤ lamports ∧
        next = Function.update bank a
          (some ⟨lamports,
            .token program mint owner (initialBalance native rent lamports mint)⟩) := by
  simp only [initialise, held, true_and, Option.ite_none_right_eq_some, Option.some.injEq]
  exact and_congr_right fun _ => eq_comm

theorem create_eq_some_iff_of_unused (held : bank payer = some ⟨lamports, .wallet⟩)
    (unused : bank a = none) :
    create (some rent) bank payer a program mint owner = some next ↔
      rent ≤ lamports ∧
        next = Function.update (Function.update bank payer (some ⟨lamports - rent, .wallet⟩)) a
          (some ⟨rent, .token program mint owner 0⟩) := by
  simp only [create, unused, Option.bind_some, Option.map_eq_some_iff]
  constructor
  · rintro ⟨paid, pays, rfl⟩
    obtain ⟨covered, rfl⟩ := (pay_eq_some_iff held).mp pays
    exact ⟨covered, rfl⟩
  · rintro ⟨covered, rfl⟩
    exact ⟨_, (pay_eq_some_iff held).mpr ⟨covered, rfl⟩, rfl⟩

/-- An account that is there already is left as it is. -/
theorem create_of_token {rent : Option ℕ}
    (held : bank a = some ⟨lamports, .token program mint owner amount⟩) :
    create rent bank payer a program mint owner = some bank := by
  simp only [create, held, and_self, if_true]

/-- Where none can be created there must be one. -/
theorem create_none_of_unused (unused : bank a = none) :
    create none bank payer a program mint owner = none := by
  simp only [create, unused, Option.bind_none]

theorem spend_eq_some_iff (held : bank a = some ⟨lamports, .token program mint owner amount⟩) :
    spend native bank a mint owner n = some next ↔
      n ≤ amount ∧
        next = Function.update bank a
          (some ⟨follow native mint lamports (lamports - n),
            .token program mint owner (amount - n)⟩) := by
  simp only [spend, held, true_and, Option.ite_none_right_eq_some, Option.some.injEq]
  exact and_congr_right fun _ => eq_comm

/-- Spending leaves the other accounts alone. -/
theorem spend_of_ne {b : Address} (spent : spend native bank a mint owner n = some next)
    (other : b ≠ a) : next b = bank b := by
  unfold spend at spent
  split at spent
  · obtain ⟨-, same⟩ := Option.ite_none_right_eq_some.mp spent
    obtain rfl := Option.some.inj same
    exact Function.update_of_ne other _ _
  · cases spent

omit [DecidableEq Owner] in
theorem earn_of_unused (unused : bank a = none) : earn native limit bank a mint n = none := by
  simp only [earn, unused]

theorem spend_of_unused (unused : bank a = none) : spend native bank a mint owner n = none := by
  simp only [spend, unused]

omit [DecidableEq Owner] in
theorem earn_eq_some_iff (held : bank a = some ⟨lamports, .token program mint owner amount⟩) :
    earn native limit bank a mint n = some next ↔
      amount + n < limit ∧
        next = Function.update bank a
          (some ⟨follow native mint lamports (lamports + n),
            .token program mint owner (amount + n)⟩) := by
  simp only [earn, held, true_and, Option.ite_none_right_eq_some, Option.some.injEq]
  exact and_congr_right fun _ => eq_comm

/-- A closed account leaves its lamports at the destination. -/
theorem close_eq_some_iff (held : bank a = some ⟨lamports, .token program mint owner amount⟩)
    (other : destination ≠ a) (receives : bank destination = some ⟨x, use⟩) :
    close native bank a destination program owner = some next ↔
      (mint = native ∨ amount = 0) ∧
        next = Function.update (Function.update bank a none) destination
          (some ⟨x + lamports, use⟩) := by
  have kept : Function.update bank a none destination = some ⟨x, use⟩ := by
    rw [Function.update_of_ne other, receives]
  simp only [close, held, other.symm, ne_eq, not_false_eq_true, true_and, give_eq kept,
    Option.ite_none_right_eq_some, Option.some.injEq]
  exact and_congr_right fun _ => eq_comm

end Success

/-! ## What stays a wallet -/

section Wallets

/-- The account at an address is a wallet. -/
def IsWallet (bank : Bank Address Owner Mint) (a : Address) : Prop :=
  ∃ lamports, bank a = some ⟨lamports, .wallet⟩

namespace IsWallet

variable [DecidableEq Address] {bank next : Bank Address Owner Mint} {a b payer : Address}
variable {mint native : Mint} {program owner : Owner} {size space rent limit n : ℕ}

/-- Changing another account leaves a wallet alone. -/
theorem update {entry : Option (Entry Owner Mint)} (wallet : IsWallet bank b)
    (other : ¬ IsWallet bank a) : IsWallet (Function.update bank a entry) b := by
  obtain ⟨lamports, held⟩ := wallet
  refine ⟨lamports, ?_⟩
  rw [Function.update_of_ne, held]
  rintro rfl
  exact other ⟨lamports, held⟩

theorem pay (wallet : IsWallet bank b) (paid : pay bank a n = some next) : IsWallet next b := by
  unfold AccountBank.pay at paid
  split at paid
  · obtain ⟨-, same⟩ := Option.ite_none_right_eq_some.mp paid
    obtain rfl := Option.some.inj same
    by_cases payer : b = a
    · exact ⟨_, by rw [payer, Function.update_self]⟩
    · obtain ⟨lamports, held⟩ := wallet
      exact ⟨lamports, (Function.update_of_ne payer _ _).trans held⟩
  · cases paid

/-- Paying opens no wallet. -/
theorem of_pay (paid : AccountBank.pay bank a n = some next) (wallet : IsWallet next b) :
    IsWallet bank b := by
  unfold AccountBank.pay at paid
  split at paid
  · next held =>
    obtain ⟨-, same⟩ := Option.ite_none_right_eq_some.mp paid
    obtain rfl := Option.some.inj same
    by_cases payer : b = a
    · exact ⟨_, payer ▸ held⟩
    · obtain ⟨lamports, there⟩ := wallet
      exact ⟨lamports, (Function.update_of_ne payer _ _).symm.trans there⟩
  · cases paid

theorem allocate (wallet : IsWallet bank b)
    (allocated : allocate bank payer a program space n = some next) : IsWallet next b := by
  obtain ⟨unused, allocated⟩ := Option.ite_none_left_eq_some.mp allocated
  obtain ⟨paid, pays, rfl⟩ := Option.map_eq_some_iff.mp allocated
  refine (wallet.pay pays).update fun used => unused ?_
  obtain ⟨_, held⟩ := of_pay pays used
  rw [held]
  rfl

variable [DecidableEq Owner] [DecidableEq Mint]

/-- The wallet that pays for an account stays one. -/
theorem create {rent : Option ℕ} (wallet : IsWallet bank payer)
    (created : create rent bank payer a program mint owner = some next) : IsWallet next payer := by
  unfold AccountBank.create at created
  split at created
  · next unused =>
    obtain ⟨_, -, funded⟩ := Option.bind_eq_some_iff.mp created
    obtain ⟨paid, pays, rfl⟩ := Option.map_eq_some_iff.mp funded
    refine (wallet.pay pays).update fun used => ?_
    obtain ⟨_, held⟩ := of_pay pays used
    cases unused.symm.trans held
  · obtain ⟨_, -, funded⟩ := Option.bind_eq_some_iff.mp created
    obtain ⟨other, funded⟩ := Option.ite_none_left_eq_some.mp funded
    obtain ⟨paid, pays, rfl⟩ := Option.map_eq_some_iff.mp funded
    obtain ⟨lamports, held⟩ := wallet.pay pays
    exact ⟨lamports, (Function.update_of_ne other _ _).trans held⟩
  · obtain ⟨-, same⟩ := Option.ite_none_right_eq_some.mp created
    exact Option.some.inj same ▸ wallet
  · cases created

theorem initialise (wallet : IsWallet bank b)
    (initialised : initialise native size rent bank a program mint owner = some next) :
    IsWallet next b := by
  unfold AccountBank.initialise at initialised
  split at initialised
  · next allocated =>
    obtain ⟨-, same⟩ := Option.ite_none_right_eq_some.mp initialised
    obtain rfl := Option.some.inj same
    refine wallet.update ?_
    rintro ⟨_, held⟩
    cases allocated.symm.trans held
  · cases initialised

theorem spend (wallet : IsWallet bank b)
    (spent : spend native bank a mint owner n = some next) : IsWallet next b := by
  unfold AccountBank.spend at spent
  split at spent
  · next token =>
    obtain ⟨-, same⟩ := Option.ite_none_right_eq_some.mp spent
    obtain rfl := Option.some.inj same
    refine wallet.update ?_
    rintro ⟨_, held⟩
    cases token.symm.trans held
  · cases spent

omit [DecidableEq Owner] in
theorem earn (wallet : IsWallet bank b)
    (earned : earn native limit bank a mint n = some next) : IsWallet next b := by
  unfold AccountBank.earn at earned
  split at earned
  · next token =>
    obtain ⟨-, same⟩ := Option.ite_none_right_eq_some.mp earned
    obtain rfl := Option.some.inj same
    refine wallet.update ?_
    rintro ⟨_, held⟩
    cases token.symm.trans held
  · cases earned

/-- A wallet that a closed account is paid to stays one. -/
theorem close (wallet : IsWallet bank payer)
    (closed : close native bank a payer program owner = some next) : IsWallet next payer := by
  unfold AccountBank.close at closed
  split at closed
  · obtain ⟨⟨other, -⟩, same⟩ := Option.ite_none_right_eq_some.mp closed
    obtain rfl := Option.some.inj same
    obtain ⟨lamports, held⟩ := wallet
    have kept : Function.update bank a none payer = some ⟨lamports, .wallet⟩ := by
      rw [Function.update_of_ne other.symm, held]
    rw [give_eq kept]
    exact ⟨_, Function.update_self _ _ _⟩
  · cases closed

end IsWallet

end Wallets

/-! ## Token accounts only -/

section TokenAccounts

open Foundation.TokenLedger (Slot Ledger debit credit)

/-- What an account is on a ledger of token accounts. -/
def slot : Entry Owner Mint → Option (Slot Mint)
  | ⟨_, .wallet⟩ => none
  | ⟨lamports, .allocated _ _⟩ => some (.allocated lamports)
  | ⟨_, .token _ mint _ amount⟩ => some (.token mint amount)

/-- The ledger of a bank's token accounts. -/
def ledger (bank : Bank Address Owner Mint) : Ledger Address Mint := fun a => (bank a).bind slot

variable [DecidableEq Address] {bank next : Bank Address Owner Mint} {a payer : Address}
variable {mint native : Mint} {program owner : Owner} {size space rent limit n : ℕ}

@[simp] theorem ledger_update (entry : Option (Entry Owner Mint)) :
    ledger (Function.update bank a entry) = Function.update (ledger bank) a (entry.bind slot) := by
  funext b
  by_cases same : b = a
  · simp only [ledger, same, Function.update_self]
  · simp only [ledger, Function.update_of_ne same]

/-- Wallets are not on it. -/
theorem ledger_pay (paid : pay bank payer n = some next) : ledger next = ledger bank := by
  unfold pay at paid
  split at paid
  · next lamports wallet =>
    obtain ⟨-, same⟩ := Option.ite_none_right_eq_some.mp paid
    obtain rfl := Option.some.inj same
    have absent : ledger bank payer = none := by simp only [ledger, wallet, Option.bind_some, slot]
    rw [ledger_update, Option.bind_some, slot, ← absent, Function.update_eq_self]
  · cases paid

theorem ledger_allocate (allocated : allocate bank payer a program space n = some next) :
    TokenLedger.allocate (ledger bank) a n = some (ledger next) := by
  obtain ⟨unused, allocated⟩ := Option.ite_none_left_eq_some.mp allocated
  obtain ⟨paid, pays, rfl⟩ := Option.map_eq_some_iff.mp allocated
  have absent : ledger bank a = none := by
    rw [ledger, Option.not_isSome_iff_eq_none.mp unused, Option.bind_none]
  rw [TokenLedger.allocate_of_unused absent, ledger_update, ledger_pay pays]
  rfl

variable [DecidableEq Owner] [DecidableEq Mint]

/-- An account is created on it unless it is there. -/
theorem ledger_create {rent : Option ℕ}
    (created : create rent bank payer a program mint owner = some next) :
    ledger next = if (ledger bank a).isSome then ledger bank
      else Function.update (ledger bank) a (some (.token mint 0)) := by
  unfold create at created
  split at created
  · next unused =>
    obtain ⟨_, -, funded⟩ := Option.bind_eq_some_iff.mp created
    obtain ⟨paid, pays, rfl⟩ := Option.map_eq_some_iff.mp funded
    have absent : ledger bank a = none := by rw [ledger, unused, Option.bind_none]
    rw [absent, ledger_update, ledger_pay pays]
    rfl
  · next there =>
    obtain ⟨_, -, funded⟩ := Option.bind_eq_some_iff.mp created
    obtain ⟨-, funded⟩ := Option.ite_none_left_eq_some.mp funded
    obtain ⟨paid, pays, rfl⟩ := Option.map_eq_some_iff.mp funded
    have absent : ledger bank a = none := by
      rw [ledger, there, Option.bind_some]
      rfl
    rw [absent, ledger_update, ledger_pay pays]
    rfl
  · next held =>
    obtain ⟨-, same⟩ := Option.ite_none_right_eq_some.mp created
    obtain rfl := Option.some.inj same
    simp only [ledger, held, Option.bind_some, slot, Option.isSome_some, if_true]
  · cases created

theorem ledger_initialise
    (initialised : initialise native size rent bank a program mint owner = some next) :
    TokenLedger.initialise native rent (ledger bank) a mint = some (ledger next) := by
  unfold initialise at initialised
  split at initialised
  · next lamports allocator there held =>
    obtain ⟨⟨-, -, exempt⟩, same⟩ := Option.ite_none_right_eq_some.mp initialised
    obtain rfl := Option.some.inj same
    have waiting : ledger bank a = some (.allocated lamports) := by
      simp only [ledger, held, Option.bind_some, slot]
    simp only [TokenLedger.initialise, waiting, if_pos exempt, ledger_update, Option.bind_some,
      slot, initialBalance]
  · cases initialised

theorem ledger_spend (spent : spend native bank a mint owner n = some next) :
    debit (ledger bank) a mint n = some (ledger next) := by
  unfold spend at spent
  split at spent
  · next lamports program heldMint heldOwner amount held =>
    obtain ⟨⟨rfl, -, enough⟩, same⟩ := Option.ite_none_right_eq_some.mp spent
    obtain rfl := Option.some.inj same
    have there : ledger bank a = some (.token heldMint amount) := by
      simp only [ledger, held, Option.bind_some, slot]
    exact (TokenLedger.debit_eq_some_iff there).mpr ⟨enough, ledger_update _⟩
  · cases spent

omit [DecidableEq Owner] in
theorem ledger_earn (earned : earn native limit bank a mint n = some next) :
    credit limit (ledger bank) a mint n = some (ledger next) := by
  unfold earn at earned
  split at earned
  · next lamports program heldMint owner amount held =>
    obtain ⟨⟨rfl, fits⟩, same⟩ := Option.ite_none_right_eq_some.mp earned
    obtain rfl := Option.some.inj same
    have there : ledger bank a = some (.token heldMint amount) := by
      simp only [ledger, held, Option.bind_some, slot]
    exact (TokenLedger.credit_eq_some_iff there).mpr ⟨fits, ledger_update _⟩
  · cases earned

/-- Closing an account into a wallet closes it on the ledger. -/
theorem ledger_close {destination : Address} (wallet : IsWallet bank destination)
    (closed : close native bank a destination program owner = some next) :
    TokenLedger.close native (ledger bank) a = some (ledger next) := by
  obtain ⟨lamports, receives⟩ := wallet
  unfold close at closed
  split at closed
  · next held heldProgram mint heldOwner amount there =>
    obtain ⟨⟨other, -, -, empty⟩, same⟩ := Option.ite_none_right_eq_some.mp closed
    obtain rfl := Option.some.inj same
    have kept : Function.update bank a none destination = some ⟨lamports, .wallet⟩ := by
      rw [Function.update_of_ne other.symm, receives]
    have absent : Function.update (ledger bank) a none destination = none := by
      rw [Function.update_of_ne other.symm, ledger, receives]
      rfl
    have token : ledger bank a = some (.token mint amount) := by
      simp only [ledger, there, Option.bind_some, slot]
    rw [give_eq kept, ledger_update, ledger_update, Option.bind_none, Option.bind_some, slot,
      Function.update_eq_self_iff.mpr absent.symm]
    simp only [TokenLedger.close, token, if_pos empty]
  · cases closed

end TokenAccounts

/-! ## A few accounts of a bank -/

section Layout

variable {Place Content : Type*} [DecidableEq Place] [DecidableEq Address]

/-- Changing one of a few addresses of a bank changes that one of the few. -/
theorem update_extend {place : Place → Address} (injective : Function.Injective place)
    (few : Place → Content) (bank : Address → Content) (i : Place) (content : Content) :
    Function.update (Function.extend place few bank) (place i) content =
      Function.extend place (Function.update few i content) bank := by
  funext address
  by_cases placed : ∃ j, place j = address
  · obtain ⟨j, rfl⟩ := placed
    rw [injective.extend_apply]
    by_cases same : j = i
    · rw [same, Function.update_self, Function.update_self]
    · rw [Function.update_of_ne (injective.ne same), Function.update_of_ne same,
        injective.extend_apply]
  · have other : address ≠ place i := fun same => placed ⟨i, same.symm⟩
    rw [Function.update_of_ne other, Function.extend_apply' _ _ _ placed,
      Function.extend_apply' _ _ _ placed]

omit [DecidableEq Place] [DecidableEq Address] in
/-- A bank is what it holds at a few addresses, and the rest. -/
theorem extend_self (place : Place → Address) (bank : Address → Content) :
    Function.extend place (fun i => bank (place i)) bank = bank := by
  funext address
  by_cases placed : ∃ j, place j = address
  · obtain ⟨j, rfl⟩ := placed
    exact Function.FactorsThrough.extend_apply (fun i j same => congrArg bank same) bank j
  · rw [Function.extend_apply' _ _ _ placed]

end Layout

end Foundation.AccountBank
