import Mathlib.Data.Nat.Notation
import Mathlib.Logic.Function.Basic

/-!
# A ledger of token accounts

An address holds nothing, an allocated account that has no mint yet, or a token account. A
token account of the native mint holds lamports: it starts with what exceeds its rent, and can
be closed whatever its balance. Any other account can be closed only when it is empty.

An operation that is refused returns no ledger. The lemmas say when one succeeds and with which
ledger, and that it touches no other address.
-/

set_option autoImplicit false

namespace Foundation.TokenLedger

variable {Address Mint : Type*} [DecidableEq Address] [DecidableEq Mint]

/-- What an address in use holds. -/
inductive Slot (Mint : Type*) where
  | allocated (lamports : ℕ)
  | token (mint : Mint) (amount : ℕ)

/-- What every address holds, if it is in use. -/
abbrev Ledger (Address Mint : Type*) := Address → Option (Slot Mint)

variable {ledger next : Ledger Address Mint} {a b : Address} {mint native : Mint}
variable {n x lamports rent limit : ℕ}

/-- The balance of a token account. -/
def balance (ledger : Ledger Address Mint) (a : Address) : Option ℕ :=
  match ledger a with
  | some (.token _ amount) => some amount
  | _ => none

omit [DecidableEq Address] [DecidableEq Mint] in
theorem balance_of_token (held : ledger a = some (.token mint x)) : balance ledger a = some x := by
  rw [balance, held]

/-! ## Operations -/

/-- Allocates an account with lamports at an unused address. -/
def allocate (ledger : Ledger Address Mint) (a : Address) (lamports : ℕ) :
    Option (Ledger Address Mint) :=
  if (ledger a).isSome then none
  else some (Function.update ledger a (some (.allocated lamports)))

/-- Makes an allocated account that holds its rent a token account. -/
def initialise (native : Mint) (rent : ℕ) (ledger : Ledger Address Mint) (a : Address)
    (mint : Mint) : Option (Ledger Address Mint) :=
  match ledger a with
  | some (.allocated lamports) =>
      if rent ≤ lamports then
        some (Function.update ledger a
          (some (.token mint (if mint = native then lamports - rent else 0))))
      else none
  | _ => none

/-- Takes an amount from a token account of a mint. -/
def debit (ledger : Ledger Address Mint) (a : Address) (mint : Mint) (n : ℕ) :
    Option (Ledger Address Mint) :=
  match ledger a with
  | some (.token held x) =>
      if held = mint ∧ n ≤ x then some (Function.update ledger a (some (.token held (x - n))))
      else none
  | _ => none

/-- Adds an amount to a token account of a mint, below a limit. -/
def credit (limit : ℕ) (ledger : Ledger Address Mint) (a : Address) (mint : Mint) (n : ℕ) :
    Option (Ledger Address Mint) :=
  match ledger a with
  | some (.token held x) =>
      if held = mint ∧ x + n < limit then
        some (Function.update ledger a (some (.token held (x + n))))
      else none
  | _ => none

/-- Closes a token account that is empty or native. -/
def close (native : Mint) (ledger : Ledger Address Mint) (a : Address) :
    Option (Ledger Address Mint) :=
  match ledger a with
  | some (.token held x) =>
      if held = native ∨ x = 0 then some (Function.update ledger a none) else none
  | _ => none

/-! ## What they do -/

omit [DecidableEq Mint] in
theorem allocate_of_unused (unused : ledger a = none) :
    allocate ledger a lamports =
      some (Function.update ledger a (some (.allocated lamports))) := by
  rw [allocate, unused]
  rfl

/-- Allocating and initialising an account make it one of the mint. -/
theorem initialise_allocated (native : Mint) (rent : ℕ) (ledger : Ledger Address Mint)
    (a : Address) (lamports : ℕ) (mint : Mint) :
    initialise native rent (Function.update ledger a (some (.allocated lamports))) a mint =
      if rent ≤ lamports then
        some (Function.update ledger a
          (some (.token mint (if mint = native then lamports - rent else 0))))
      else none := by
  simp only [initialise, Function.update_self, Function.update_idem]

/-- A debit of an account of known mint and balance. -/
theorem debit_eq_some_iff (held : ledger a = some (.token mint x)) :
    debit ledger a mint n = some next ↔
      n ≤ x ∧ next = Function.update ledger a (some (.token mint (x - n))) := by
  simp only [debit, held, true_and, Option.ite_none_right_eq_some, Option.some.injEq]
  exact and_congr_right fun _ => eq_comm

/-- A credit of an account of known mint and balance. -/
theorem credit_eq_some_iff (held : ledger a = some (.token mint x)) :
    credit limit ledger a mint n = some next ↔
      x + n < limit ∧ next = Function.update ledger a (some (.token mint (x + n))) := by
  simp only [credit, held, true_and, Option.ite_none_right_eq_some, Option.some.injEq]
  exact and_congr_right fun _ => eq_comm

/-! ## What they leave alone -/

omit [DecidableEq Mint] in
/-- A guarded change at one address leaves the others alone. -/
theorem guarded_of_ne {slot : Option (Slot Mint)} {p : Prop} [Decidable p]
    (done : (if p then some (Function.update ledger a slot) else none) = some next)
    (other : b ≠ a) : next b = ledger b := by
  split at done
  · obtain rfl := Option.some.inj done
    exact Function.update_of_ne other _ _
  · cases done

theorem debit_of_ne (done : debit ledger a mint n = some next) (other : b ≠ a) :
    next b = ledger b := by
  unfold debit at done
  split at done
  · exact guarded_of_ne done other
  · cases done

theorem credit_of_ne (done : credit limit ledger a mint n = some next) (other : b ≠ a) :
    next b = ledger b := by
  unfold credit at done
  split at done
  · exact guarded_of_ne done other
  · cases done

theorem close_of_ne (done : close native ledger a = some next) (other : b ≠ a) :
    next b = ledger b := by
  unfold close at done
  split at done
  · exact guarded_of_ne done other
  · cases done

/-! ## Closing -/

/-- Closing a native account. -/
theorem close_native (held : ledger a = some (.token native x)) :
    close native ledger a = some (Function.update ledger a none) := by
  simp only [close, held, true_or, if_true]

/-- **An account of another mint can be closed exactly when it is empty.** -/
theorem close_isSome_iff (held : ledger a = some (.token mint x)) (other : mint ≠ native) :
    (close native ledger a).isSome ↔ x = 0 := by
  simp only [close, held, other, false_or]
  split
  · simp_all
  · simp_all

end Foundation.TokenLedger
