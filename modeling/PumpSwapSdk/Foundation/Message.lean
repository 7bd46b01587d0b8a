import Mathlib.Algebra.BigOperators.Group.List.Basic
import Mathlib.Algebra.Group.Action.Defs
import Mathlib.Data.List.Dedup
import Mathlib.Data.List.Perm.Subperm
import Mathlib.Data.List.Sort
import Mathlib.Tactic.Linarith

/-!
# Signed messages

A message is a list of calls that one party pays for. A call names a program and accounts, each
with whether it signs and whether it is written, and carries data. The encoding lists every account
once, those that sign first, and refers to them by position. Counts are written in groups of seven
bits.

`keys_length_le` and `keys_length_eq` count the accounts of a message from any list that holds
them, `length_encode` is the size of the encoding, and `signers_eq_payer_iff` says when the payer's
signature is the only one needed.
-/

set_option autoImplicit false

namespace Foundation.Message

abbrev Byte := BitVec 8

/-- An account as a call names it. -/
structure Ref (Address : Type*) where
  key : Address
  isSigner : Bool
  isWritable : Bool

structure Call (Address : Type*) where
  program : Address
  accounts : List (Ref Address)
  data : List Byte

/-! ## Counts -/

/-- A count in groups of seven bits, lowest first; the top bit of a byte says that more follow. -/
def compact (n : ℕ) : List Byte :=
  if n < 128 then [BitVec.ofNat 8 n]
  else if n < 16_384 then [BitVec.ofNat 8 (n % 128 + 128), BitVec.ofNat 8 (n / 128)]
  else [BitVec.ofNat 8 (n % 128 + 128), BitVec.ofNat 8 (n / 128 % 128 + 128),
    BitVec.ofNat 8 (n / 16_384)]

theorem length_compact_of_lt {n : ℕ} (small : n < 128) : (compact n).length = 1 := by
  rw [compact, if_pos small]
  rfl

theorem length_compact_pos (n : ℕ) : 0 < (compact n).length := by
  unfold compact
  split
  · exact Nat.one_pos
  · split
    · exact Nat.two_pos
    · exact Nat.succ_pos 2

/-! ## Accounts -/

section Accounts

variable {Address : Type*} [DecidableEq Address]

/-- What the calls name: their accounts, and their programs, which neither sign nor are written. -/
def mentions (calls : List (Call Address)) : List (Ref Address) :=
  calls.flatMap fun call => call.accounts ++ [⟨call.program, false, false⟩]

/-- The accounts of a message, each once. -/
def keys (payer : Address) (calls : List (Call Address)) : List Address :=
  (payer :: (mentions calls).map Ref.key).dedup

variable {payer : Address} {calls : List (Call Address)}

theorem nodup_keys : (keys payer calls).Nodup := List.nodup_dedup _

theorem mem_keys {key : Address} :
    key ∈ keys payer calls ↔ key = payer ∨ ∃ ref ∈ mentions calls, ref.key = key := by
  simp only [keys, List.mem_dedup, List.mem_cons, List.mem_map]

/-- **A message has no more accounts than a list that holds them all.** -/
theorem keys_length_le {all : List Address} (paid : payer ∈ all)
    (named : ∀ ref ∈ mentions calls, ref.key ∈ all) : (keys payer calls).length ≤ all.length := by
  apply List.Subperm.length_le
  apply nodup_keys.subperm
  intro key member
  rcases mem_keys.mp member with rfl | ⟨ref, mentioned, rfl⟩
  · exact paid
  · exact named ref mentioned

/-- **It has as many as a list without repetitions that holds them and no others.** -/
theorem keys_length_eq {all : List Address} (distinct : all.Nodup) (paid : payer ∈ all)
    (named : ∀ ref ∈ mentions calls, ref.key ∈ all)
    (needed : ∀ key ∈ all, key = payer ∨ ∃ ref ∈ mentions calls, ref.key = key) :
    (keys payer calls).length = all.length := by
  apply Nat.le_antisymm (keys_length_le paid named)
  apply List.Subperm.length_le
  apply distinct.subperm
  intro key member
  exact mem_keys.mpr (needed key member)

/-! ## Signatures -/

/-- Whether an account signs: the payer does, and any account that a call needs the signature of. -/
def signs (payer : Address) (calls : List (Call Address)) (key : Address) : Bool :=
  key = payer || (mentions calls).any fun ref => ref.key = key && ref.isSigner

/-- Whether an account is written. -/
def isWritten (payer : Address) (calls : List (Call Address)) (key : Address) : Bool :=
  key = payer || (mentions calls).any fun ref => ref.key = key && ref.isWritable

/-- The accounts whose signatures the message needs. -/
def signers (payer : Address) (calls : List (Call Address)) : List Address :=
  (keys payer calls).filter (signs payer calls)

theorem mem_signers {key : Address} :
    key ∈ signers payer calls ↔
      key = payer ∨ ∃ ref ∈ mentions calls, ref.key = key ∧ ref.isSigner := by
  simp only [signers, List.mem_filter, mem_keys, signs, Bool.or_eq_true, decide_eq_true_eq,
    List.any_eq_true, Bool.and_eq_true]
  constructor
  · exact And.right
  · intro signing
    exact ⟨signing.imp_right fun ⟨ref, mentioned, same, _⟩ => ⟨ref, mentioned, same⟩, signing⟩

/-- **The payer's signature is enough** exactly when no call needs another. -/
theorem signers_eq_payer_iff :
    signers payer calls = [payer] ↔
      ∀ ref ∈ mentions calls, ref.isSigner → ref.key = payer := by
  constructor
  · intro alone ref mentioned signing
    have member : ref.key ∈ signers payer calls :=
      mem_signers.mpr (Or.inr ⟨ref, mentioned, rfl, signing⟩)
    rw [alone] at member
    exact List.mem_singleton.mp member
  · intro others
    have nodup : (signers payer calls).Nodup := nodup_keys.filter _
    apply List.perm_singleton.mp
    apply (List.perm_ext_iff_of_nodup nodup (List.nodup_singleton payer)).mpr
    intro key
    rw [mem_signers, List.mem_singleton]
    constructor
    · rintro (same | ⟨ref, mentioned, rfl, signing⟩)
      · exact same
      · exact others ref mentioned signing
    · exact Or.inl

/-! ## The encoding -/

/-- The place of an account's group in the encoding: those that sign come first, and in either case
the written ones. -/
def rank (payer : Address) (calls : List (Call Address)) (key : Address) : ℕ :=
  (if signs payer calls key then 0 else 2) + if isWritten payer calls key then 0 else 1

/-- The accounts in the order of the encoding: the payer, and the others by group, sorted within
one. -/
def ordered (le : Address → Address → Bool) (payer : Address) (calls : List (Call Address)) :
    List Address :=
  payer :: ((keys payer calls).erase payer).insertionSort fun a b =>
    rank payer calls a < rank payer calls b ∨
      rank payer calls a = rank payer calls b ∧ le a b

theorem ordered_perm_keys (le : Address → Address → Bool) (payer : Address)
    (calls : List (Call Address)) : (ordered le payer calls).Perm (keys payer calls) :=
  ((List.perm_insertionSort _ _).cons payer).trans
    (List.perm_cons_erase (mem_keys.mpr (Or.inl rfl))).symm

/-- A call refers to accounts by their position. -/
def encodeCall (accounts : List Address) (call : Call Address) : List Byte :=
  BitVec.ofNat 8 (accounts.idxOf call.program) ::
    (compact call.accounts.length ++
      (call.accounts.map fun ref => BitVec.ofNat 8 (accounts.idxOf ref.key)) ++
      compact call.data.length ++ call.data)

/-- The signatures, how many accounts sign and how many of either kind are only read, the accounts,
the recent blockhash and the calls. -/
def encode (le : Address → Address → Bool) (keyBytes : Address → List Byte)
    (signatures : List (List Byte)) (blockhash : List Byte) (payer : Address)
    (calls : List (Call Address)) : List Byte :=
  let accounts := ordered le payer calls
  let count (kind : ℕ) : Byte := BitVec.ofNat 8 (accounts.countP fun key =>
    rank payer calls key = kind)
  compact signatures.length ++ signatures.flatten ++
    [BitVec.ofNat 8 (signers payer calls).length, count 1, count 3] ++
    compact accounts.length ++ accounts.flatMap keyBytes ++ blockhash ++
    compact calls.length ++ calls.flatMap (encodeCall accounts)

/-- The size of a call. -/
def callSize (call : Call Address) : ℕ :=
  1 + (compact call.accounts.length).length + call.accounts.length +
    (compact call.data.length).length + call.data.length

theorem length_encodeCall (accounts : List Address) (call : Call Address) :
    (encodeCall accounts call).length = callSize call := by
  simp only [encodeCall, callSize, List.length_cons, List.length_append, List.length_map]
  omega

/-- The size of the calls. -/
def callsSize (calls : List (Call Address)) : ℕ := (calls.map callSize).sum

omit [DecidableEq Address] in
@[simp] theorem callsSize_nil : callsSize ([] : List (Call Address)) = 0 := rfl

omit [DecidableEq Address] in
@[simp] theorem callsSize_append (first second : List (Call Address)) :
    callsSize (first ++ second) = callsSize first + callsSize second := by
  simp only [callsSize, List.map_append, List.sum_append]

/-- **The size of an encoded message**, from the sizes of its parts. -/
theorem length_encode {keySize signatureSize : ℕ} {le : Address → Address → Bool}
    {keyBytes : Address → List Byte} {signatures : List (List Byte)} {blockhash : List Byte}
    (sized : ∀ key, (keyBytes key).length = keySize)
    (signed : ∀ signature ∈ signatures, signature.length = signatureSize) :
    (encode le keyBytes signatures blockhash payer calls).length =
      (compact signatures.length).length + signatures.length * signatureSize + 3 +
        (compact (keys payer calls).length).length + (keys payer calls).length * keySize +
        blockhash.length + (compact calls.length).length + callsSize calls := by
  have accounts := (ordered_perm_keys le payer calls).length_eq
  have addresses : ((ordered le payer calls).flatMap keyBytes).length =
      (keys payer calls).length * keySize := by
    rw [List.length_flatMap, List.map_congr_left fun key _ => sized key, List.map_const',
      List.sum_replicate, accounts, smul_eq_mul]
  have bodies : (calls.flatMap (encodeCall (ordered le payer calls))).length = callsSize calls := by
    rw [List.length_flatMap, List.map_congr_left fun call _ => length_encodeCall _ call]
    rfl
  have signing : signatures.flatten.length = signatures.length * signatureSize := by
    rw [List.length_flatten, List.map_congr_left signed, List.map_const', List.sum_replicate,
      smul_eq_mul]
  simp only [encode, List.length_append, List.length_cons, List.length_nil, accounts, addresses,
    bodies, signing]

end Accounts

end Foundation.Message
