import PumpSwapSdk.Constants
import PumpSwapSdk.Foundation.ByteFormat
import PumpSwapSdk.Foundation.LittleEndian

/-!
# The borsh reader

A sequential reader over raw account bytes. Every read is checked against the end of the
data, and a vector's length prefix is checked against what is left before its elements are
read. Positions are `usize`, 64 bits wide.

For each reading function there is one lemma that says which format it accepts
(`reads_take`, `reads_word`, `reads_bool`, `reads_vec`). A format is stated here by its
encoding: little-endian words, one byte for a flag, and a length word before a vector.
-/

set_option autoImplicit false

namespace PumpSwapSdk

open Foundation.ByteFormat
open Foundation.LittleEndian

/-- The account bytes and the position of the next read. -/
abbrev Reader := Cursor

/-- A computation that reads account bytes and can fail. -/
abbrev Read (α : Type) := Parser Fault α

/-- A read that fails with an error message. -/
def Read.bail {α : Type} (message : String) : Read α := throw (.err message)

/-- A read that panics. -/
def Read.panicked {α : Type} (message : String) : Read α := throw (.panicked message)

/-- `usize::MAX`. -/
def usizeMax : ℕ := 2 ^ 64 - 1

/-- Bytes as `{:02x?}` shows them. -/
def debugHex (bytes : List U8) : String :=
  let shown := bytes.map fun byte => (Nat.toDigits 16 (byte.toNat + 256)).drop 1
  "[" ++ ", ".intercalate (shown.map String.ofList) ++ "]"

namespace Reader

/-! ## Reading functions -/

/-- Opens the data past an 8-byte discriminator, rejecting any other one. -/
def afterDiscriminator (data expected : List U8) (account : String) : Result Reader :=
  if data.length < 8 then
    bail s!"{account}: account data too short for a discriminator"
  else
    let found := data.take 8
    if found = expected then
      .ok ⟨data, 8⟩
    else
      bail (s!"{account}: unexpected account discriminator " ++ debugHex found ++ ", expected " ++
        debugHex expected)

def take (len : ℕ) : Read (List U8) := do
  let reader ← get
  let stop := reader.pos + len
  if usizeMax < stop then
    Read.bail "account data offset overflow"
  else if reader.data.length < stop then
    let got := reader.data.length
    Read.bail s!"account data truncated: need {stop} bytes, got {got}"
  else do
    set { reader with pos := stop }
    pure (reader.rest.take len)

/-- `<[u8; n]>::try_from` followed by `from_le_bytes`. -/
def fromLeBytes (n : ℕ) (bytes : List U8) : Read (BitVec (8 * n)) :=
  if bytes.length = n then pure (ofBytes n bytes)
  else Read.bail "could not convert slice to array"

/-- A little-endian word of `n` bytes. -/
def word (n : ℕ) : Read (BitVec (8 * n)) := do fromLeBytes n (← take n)

def u8 : Read U8 := do
  match ← take 1 with
  | byte :: _ => pure byte
  | [] => Read.panicked "index out of bounds: the len is 0 but the index is 0"

def u16 : Read U16 := word 2

def u32 : Read U32 := word 4

def u64 : Read U64 := word 8

def u128 : Read U128 := word 16

def i64 : Read I64 := word 8

def bool : Read Bool := do
  let byte ← u8
  if byte = 0 then pure false
  else if byte = 1 then pure true
  else
    let other := byte.toNat
    Read.bail s!"invalid borsh bool byte {other}"

def u64Array (n : ℕ) : Read (List.Vector U64 n) := repeatRead u64 n

def pubkey : Read Pubkey := do
  let bytes ← take 32
  if length_eq : bytes.length = 32 then pure ⟨bytes, length_eq⟩
  else Read.bail "could not convert slice to array"

def pubkeyArray (n : ℕ) : Read (List.Vector Pubkey n) := repeatRead pubkey n

/-- A `u32` length prefix followed by that many elements. -/
def vec {α : Type} (minElementLen : ℕ) (read : Read α) : Read (List α) := do
  let prefix_word ← u32
  let len := prefix_word.toNat
  let reader ← get
  let remaining := reader.data.length - reader.pos
  if remaining < min (len * minElementLen) usizeMax then
    Read.bail s!"vector length {len} exceeds {remaining} remaining account bytes"
  else
    List.Vector.toList <$> repeatRead read len

/-- The data is opened exactly when it starts with the expected discriminator. -/
theorem afterDiscriminator_eq_ok_iff {data expected : List U8} {account : String}
    {reader : Reader} (eight : expected.length = 8) :
    afterDiscriminator data expected account = .ok reader ↔
      data.take 8 = expected ∧ reader = ⟨data, 8⟩ := by
  unfold afterDiscriminator
  split
  · rename_i short
    constructor
    · rintro ⟨⟩
    · rintro ⟨found, -⟩
      have length := congrArg List.length found
      rw [List.length_take, eight] at length
      omega
  · dsimp only
    split
    · rename_i found
      simp only [Except.ok.injEq, found, true_and, eq_comm]
    · rename_i other
      simp only [bail, reduceCtorEq, other, false_and]

/-! ## The formats they accept -/

/-- A parser accepts exactly a format, for positions a `usize` can hold. -/
abbrev ReadsFormat {α : Type} (p : Read α) (bound : ℕ) (F : Format α) : Prop :=
  Reads (2 ^ 64) p bound F

theorem reads_take {len : ℕ} (pos : 0 < len) :
    ReadsFormat (take len) len (fun x bytes => bytes.length = len ∧ x = bytes) where
  length_le := by
    rintro x bytes ⟨rfl, -⟩
    exact Nat.le_refl _
  run_iff := by
    intro c room x c'
    have no_overflow : ¬ usizeMax < c.pos + len := by
      simp only [usizeMax]
      omega
    have run : (take len).run c =
        if c.data.length < c.pos + len then
          .error (.err s!"account data truncated: need {c.pos + len} bytes, got {c.data.length}")
        else .ok (c.rest.take len, c.advance len) := by
      simp only [take, StateT.run_bind, StateT.run_get]
      change StateT.run (if usizeMax < c.pos + len then _ else _) c = _
      rw [if_neg no_overflow]
      split
      · rfl
      · rfl
    rw [run]
    constructor
    · split
      · rintro ⟨⟩
      · rintro ⟨⟩
        rename_i inside
        have ahead : len ≤ c.rest.length := by
          rw [Cursor.rest, List.length_drop]
          omega
        have length : (c.rest.take len).length = len := List.length_take_of_le ahead
        exact ⟨_, c.rest.drop len, ⟨length, rfl⟩, (List.take_append_drop len _).symm,
          by rw [length]⟩
    · rintro ⟨bytes, ahead, ⟨rfl, rfl⟩, here, rfl⟩
      have inside : ¬ c.data.length < c.pos + x.length := by
        have total := congrArg List.length here
        rw [Cursor.rest, List.length_drop, List.length_append] at total
        omega
      rw [if_neg inside, here, List.take_left]

theorem reads_fromLeBytes (n : ℕ) (found : List U8) :
    ReadsFormat (fromLeBytes n found) 0
      (fun x bytes => found.length = n ∧ x = ofBytes n found ∧ bytes = []) := by
  unfold fromLeBytes
  split
  · rename_i length
    exact (Reads.of_pure _).congr fun x bytes => by simp only [length, true_and]
  · rename_i other
    exact (Reads.of_throw _).congr fun x bytes => by simp only [other, false_and]

/-- A word is read from exactly its own bytes. -/
theorem reads_word {n : ℕ} (pos : 0 < n) :
    ReadsFormat (word n) n (fun x bytes => bytes = toBytes n x) := by
  refine ((reads_take pos).bind (reads_fromLeBytes n)).congr ?_
  intro x bytes
  constructor
  · rintro ⟨_, found, _, ⟨length, rfl⟩, ⟨-, rfl, rfl⟩, rfl⟩
    rw [List.append_nil, toBytes_ofBytes length]
  · rintro rfl
    exact ⟨_, _, [], ⟨length_toBytes n x, rfl⟩,
      ⟨length_toBytes n x, (ofBytes_toBytes n x).symm, rfl⟩, (List.append_nil _).symm⟩

theorem reads_u16 : ReadsFormat u16 2 (fun x bytes => bytes = toBytes 2 x) :=
  reads_word (by decide)

theorem reads_u32 : ReadsFormat u32 4 (fun x bytes => bytes = toBytes 4 x) :=
  reads_word (by decide)

theorem reads_u64 : ReadsFormat u64 8 (fun x bytes => bytes = toBytes 8 x) :=
  reads_word (by decide)

theorem reads_u128 : ReadsFormat u128 16 (fun x bytes => bytes = toBytes 16 x) :=
  reads_word (by decide)

theorem reads_i64 : ReadsFormat i64 8 (fun x bytes => bytes = toBytes 8 x) :=
  reads_word (by decide)

theorem reads_u8 : ReadsFormat u8 1 (fun x bytes => bytes = [x]) := by
  have head (found : List U8) : ReadsFormat
      (match found with
        | byte :: _ => pure byte
        | [] => Read.panicked "index out of bounds: the len is 0 but the index is 0") 0
      (fun x bytes => found.head? = some x ∧ bytes = []) := by
    cases found with
    | nil => exact (Reads.of_throw _).congr fun x bytes => by simp
    | cons byte more => exact (Reads.of_pure byte).congr fun x bytes => by simp [eq_comm]
  refine ((reads_take Nat.one_pos).bind head).congr ?_
  intro x bytes
  constructor
  · rintro ⟨_, found, _, ⟨length, rfl⟩, ⟨first, rfl⟩, rfl⟩
    obtain ⟨byte, rfl⟩ := List.length_eq_one_iff.mp length
    simp_all
  · rintro rfl
    exact ⟨[x], [x], [], ⟨rfl, rfl⟩, ⟨rfl, rfl⟩, rfl⟩

/-- A flag is one byte, and no byte but 0 and 1 is a flag. -/
theorem reads_bool : ReadsFormat bool 1 (fun x bytes => bytes = [if x then 1 else 0]) := by
  have decode (byte : U8) : ReadsFormat
      (if byte = 0 then pure false else if byte = 1 then pure true
        else Read.bail s!"invalid borsh bool byte {byte.toNat}") 0
      (fun x bytes => byte = (if x then 1 else 0) ∧ bytes = []) := by
    split
    · rename_i zero
      exact (Reads.of_pure false).congr fun x bytes => by cases x <;> simp [zero]
    · rename_i not_zero
      split
      · rename_i one
        exact (Reads.of_pure true).congr fun x bytes => by cases x <;> simp [one]
      · rename_i not_one
        exact (Reads.of_throw _).congr fun x bytes => by
          cases x <;> simp only [not_zero, not_one, if_true, if_false, false_and,
            Bool.false_eq_true]
  refine (reads_u8.bind decode).congr ?_
  intro x bytes
  constructor
  · rintro ⟨_, _, _, rfl, ⟨rfl, rfl⟩, rfl⟩
    rfl
  · rintro rfl
    exact ⟨_, _, _, rfl, ⟨rfl, rfl⟩, rfl⟩

theorem reads_pubkey : ReadsFormat pubkey 32 (fun x bytes => bytes = x.bytes) := by
  have decode (found : List U8) : ReadsFormat
      (if length_eq : found.length = 32 then pure ⟨found, length_eq⟩
        else Read.bail "could not convert slice to array") 0
      (fun (x : Pubkey) bytes => found = x.bytes ∧ bytes = []) := by
    split
    · rename_i length_eq
      refine (Reads.of_pure _).congr fun x bytes => ?_
      constructor
      · rintro ⟨rfl, rfl⟩
        exact ⟨rfl, rfl⟩
      · rintro ⟨rfl, rfl⟩
        exact ⟨rfl, rfl⟩
    · rename_i other
      refine (Reads.of_throw _).congr fun x bytes => ?_
      simp only [false_iff, not_and]
      rintro rfl
      exact absurd x.length_eq other
  refine ((reads_take (by decide : 0 < 32)).bind decode).congr ?_
  intro x bytes
  constructor
  · rintro ⟨_, _, _, ⟨-, rfl⟩, ⟨rfl, rfl⟩, rfl⟩
    exact List.append_nil _
  · rintro rfl
    exact ⟨_, _, [], ⟨x.length_eq, rfl⟩, ⟨rfl, rfl⟩, (List.append_nil _).symm⟩

/-- An array is its elements one after another. -/
theorem reads_array {α : Type} {read : Read α} {bound : ℕ} {encode : α → List U8}
    (reads : ReadsFormat read bound (fun x bytes => bytes = encode x)) (n : ℕ) :
    ReadsFormat (repeatRead read n) (n * bound)
      (fun xs bytes => bytes = xs.toList.flatMap encode) :=
  (reads.repeatRead n).congr fun _ _ => Many.iff_flatMap

/-- The encoding of a vector: its length, then its elements. -/
def encodeVec {α : Type} (encode : α → List U8) (xs : List α) : List U8 :=
  toBytes 4 (BitVec.ofNat 32 xs.length) ++ xs.flatMap encode

/-- **The length guard refuses no vector.** A vector is read from exactly its own encoding,
whenever no element is shorter than the guard assumes. -/
theorem reads_vec {α : Type} {read : Read α} {bound : ℕ} {encode : α → List U8}
    (minElementLen : ℕ) (reads : ReadsFormat read bound (fun x bytes => bytes = encode x))
    (least : ∀ x, minElementLen ≤ (encode x).length) :
    ReadsFormat (vec minElementLen read) (4 + (2 ^ 32 - 1) * bound)
      (fun xs bytes => xs.length < 2 ^ 32 ∧ bytes = encodeVec encode xs) := by
  have elements (len : U32) : ReadsFormat
      (List.Vector.toList <$> repeatRead read len.toNat) ((2 ^ 32 - 1) * bound)
      (fun xs bytes => xs.length = len.toNat ∧ bytes = xs.flatMap encode) := by
    have mapped := (reads_array reads len.toNat).bind fun xs =>
      (Reads.of_pure xs.toList : ReadsFormat (pure xs.toList) 0 _)
    have few : len.toNat ≤ 2 ^ 32 - 1 := Nat.le_sub_one_of_lt len.isLt
    refine (mapped.congr ?_).mono (Nat.mul_le_mul_right bound few)
    intro xs bytes
    constructor
    · rintro ⟨ys, _, _, rfl, ⟨rfl, rfl⟩, rfl⟩
      exact ⟨ys.toList_length, List.append_nil _⟩
    · rintro ⟨length, rfl⟩
      exact ⟨⟨xs, length⟩, _, [], rfl, ⟨rfl, rfl⟩, (List.append_nil _).symm⟩
  have guarded (len : U32) := (elements len).guard_remaining
    (min (len.toNat * minElementLen) usizeMax) (by
      rintro xs _ ⟨length, rfl⟩
      have total := Many.le_length (F := fun x bytes => bytes = encode x)
        (by rintro x _ rfl; exact least x) (Many.iff_flatMap.mpr rfl : Many _ xs _)
      rw [length] at total
      omega)
    (fun reader =>
      let remaining := reader.data.length - reader.pos
      .err s!"vector length {len.toNat} exceeds {remaining} remaining account bytes")
  refine (reads_u32.bind guarded).congr ?_
  intro xs bytes
  constructor
  · rintro ⟨len, _, _, rfl, ⟨length, rfl⟩, rfl⟩
    have word : BitVec.ofNat 32 xs.length = len := by
      rw [length]
      exact BitVec.ofNat_toNat _ _
    exact ⟨by rw [length]; exact len.isLt, by rw [encodeVec, word]⟩
  · rintro ⟨fits, rfl⟩
    exact ⟨BitVec.ofNat 32 xs.length, _, _, rfl,
      ⟨by rw [BitVec.toNat_ofNat, Nat.mod_eq_of_lt fits], rfl⟩, rfl⟩

end Reader

end PumpSwapSdk
