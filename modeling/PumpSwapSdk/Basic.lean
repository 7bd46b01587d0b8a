import PumpSwapSdk.Foundation.MachineWord

/-!
# Words, results and addresses

The machine integers of the SDK are bit vectors of their width; a signed one is read through
`BitVec.toInt`. A fallible function returns a `Result`: a call that panics is kept apart from
one that returns an error, since a caller can handle only the second.

A `Pubkey` is exactly 32 bytes. The addresses the SDK pins are written in base 58, as the
source writes them (`pubkey`).
-/

set_option autoImplicit false

namespace PumpSwapSdk

abbrev U8 := BitVec 8
abbrev U16 := BitVec 16
abbrev U32 := BitVec 32
abbrev U64 := BitVec 64
abbrev U128 := BitVec 128
abbrev I64 := BitVec 64
abbrev I128 := BitVec 128

/-- `u64::MAX`. -/
def u64Max : U64 := Foundation.MachineWord.maxValue 64

/-! ## Results -/

/-- How a call can fail: with an error its caller sees, or by panicking. -/
inductive Fault where
  | err (message : String)
  | panicked (message : String)
deriving DecidableEq

abbrev Result (α : Type) := Except Fault α

/-- Fails with an error message. -/
def bail {α : Type} (message : String) : Result α := .error (.err message)

/-- A sequence succeeds exactly when both of its parts do. -/
theorem bind_eq_ok_iff {ε α β : Type} {x : Except ε α} {f : α → Except ε β} {b : β} :
    (x >>= f) = .ok b ↔ ∃ a, x = .ok a ∧ f a = .ok b := by
  cases x with
  | error fault => simp [Bind.bind, Except.bind]
  | ok a => simp [Bind.bind, Except.bind]

/-- A call succeeds exactly when it returns a value. -/
theorem isOk_iff {ε α : Type} {x : Except ε α} : x.isOk ↔ ∃ a, x = .ok a := by
  cases x with
  | error fault => simp [Except.isOk, Except.toBool]
  | ok a => simp [Except.isOk, Except.toBool]

/-! ## Addresses -/

/-- An address: 32 bytes. -/
structure Pubkey where
  bytes : List U8
  length_eq : bytes.length = 32
deriving DecidableEq

namespace Pubkey

theorem ext_bytes {a b : Pubkey} (same : a.bytes = b.bytes) : a = b := by
  cases a
  cases b
  simp_all

/-- The address of all zero bytes. -/
def default : Pubkey := ⟨List.replicate 32 0, List.length_replicate⟩

/-- The low 32 bytes of a number, most significant first. -/
def ofNat (n : ℕ) : Pubkey :=
  ⟨List.ofFn fun i : Fin 32 => BitVec.ofNat 8 (n / 256 ^ (31 - i.val)), List.length_ofFn⟩

end Pubkey

/-- The base-58 alphabet, in digit order. -/
def base58Alphabet : List Char :=
  "123456789ABCDEFGHJKLMNPQRSTUVWXYZabcdefghijkmnopqrstuvwxyz".toList

/-- The number a base-58 string denotes. -/
def base58Value (text : String) : ℕ :=
  text.toList.foldl (fun n digit => n * 58 + base58Alphabet.idxOf digit) 0

/-- An address written in base 58. -/
def pubkey (text : String) : Pubkey := Pubkey.ofNat (base58Value text)

end PumpSwapSdk
