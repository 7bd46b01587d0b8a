import PumpSwapSdk.State.Format
import PumpSwapSdk.State.Pool

/-!
# Where the shareholders are stored

A sharing config's shareholders are stored after a length word at byte 76: entry `i` starts at
byte `80 + 34 * i`, with 32 bytes of address and two of share. A config that decodes holds
exactly the entries its length word counts (`SharingConfig.stored`), whatever bytes follow.
-/

set_option autoImplicit false

namespace PumpSwapSdk

open Foundation.ByteFormat
open Foundation.LittleEndian

/-- The stored number of shareholders. -/
def storedCount (data : List U8) : ℕ := ((wordAt? 4 data 76).getD 0).toNat

/-- Where a shareholder is stored. -/
def shareholderOffset (i : ℕ) : ℕ := 80 + 34 * i

/-- The stored share of a shareholder. -/
def storedShare (data : List U8) (i : ℕ) : U16 :=
  (wordAt? 2 data (shareholderOffset i + 32)).getD 0

theorem Shareholder.length_encode (holder : Shareholder) : holder.encode.length = 34 := by
  rw [Shareholder.encode, List.length_append, holder.address.length_eq, length_toBytes]

theorem ConfigStatus.length_encode (status : ConfigStatus) : status.encode.length = 1 := by
  cases status with
  | paused => rfl
  | active => rfl

namespace SharingConfig

variable {data : List U8} {config : SharingConfig}

/-- What precedes the length word. -/
def encodeHead (config : SharingConfig) : List U8 :=
  sharingConfigDiscriminator ++ ([config.bump] ++ [config.version] ++ config.status.encode ++
    config.mint.bytes ++ config.admin.bytes ++ encodeBool config.adminRevoked)

theorem length_encodeHead (config : SharingConfig) : config.encodeHead.length = 76 := by
  simp only [encodeHead, encodeBool, List.length_append, List.length_singleton,
    ConfigStatus.length_encode, config.mint.length_eq, config.admin.length_eq]
  rfl

/-- Decoded data is the head, the length word, the shareholders and what follows. -/
theorem data_eq (decoded : fromAccountData data = .ok config) :
    config.shareholders.length < 2 ^ 32 ∧
      ∃ slack, data = config.encodeHead ++ toBytes 4 (BitVec.ofNat 32 config.shareholders.length) ++
        (config.shareholders.flatMap Shareholder.encode ++ slack) := by
  obtain ⟨fits, slack, rfl⟩ := (fromAccountData_iff data config).mp decoded
  refine ⟨fits, slack, ?_⟩
  simp only [encode, encodeFields, encodeHead, Reader.encodeVec, List.append_assoc]

/-- Entry `i` starts where the encodings before it end. -/
theorem entry_split (config : SharingConfig) (slack : List U8) {i : ℕ}
    (inside : i < config.shareholders.length) :
    ∃ front more,
      config.encodeHead ++ toBytes 4 (BitVec.ofNat 32 config.shareholders.length) ++
          (config.shareholders.flatMap Shareholder.encode ++ slack) =
        front ++ (config.shareholders[i].encode ++ more) ∧
      front.length = shareholderOffset i := by
  refine ⟨config.encodeHead ++ toBytes 4 (BitVec.ofNat 32 config.shareholders.length) ++
      (config.shareholders.take i).flatMap Shareholder.encode,
    (config.shareholders.drop (i + 1)).flatMap Shareholder.encode ++ slack, ?_, ?_⟩
  · have split : config.shareholders.flatMap Shareholder.encode =
        (config.shareholders.take i).flatMap Shareholder.encode ++
          (config.shareholders[i].encode ++
            (config.shareholders.drop (i + 1)).flatMap Shareholder.encode) := by
      rw [← List.flatMap_cons, ← List.drop_eq_getElem_cons inside, ← List.flatMap_append,
        List.take_append_drop]
    rw [split]
    simp only [List.append_assoc]
  · have before : ((config.shareholders.take i).flatMap Shareholder.encode).length = i * 34 := by
      simp only [List.length_flatMap, Shareholder.length_encode, List.map_const',
        List.sum_replicate, smul_eq_mul, List.length_take_of_le inside.le]
    rw [List.length_append, List.length_append, length_encodeHead, length_toBytes, before,
      shareholderOffset]
    omega

/-- **The shareholders are the stored entries.** Each is read from its own 34 bytes, and their
number is the stored one. -/
theorem stored (decoded : fromAccountData data = .ok config) :
    config.shareholders.length = storedCount data ∧
      ∀ i holder, config.shareholders[i]? = some holder →
        holder.address.bytes = (data.drop (shareholderOffset i)).take 32 ∧
          holder.shareBps = storedShare data i := by
  obtain ⟨fits, slack, rfl⟩ := data_eq decoded
  have head := config.length_encodeHead
  constructor
  · rw [storedCount, wordAt?_append head, Option.getD_some, BitVec.toNat_ofNat,
      Nat.mod_eq_of_lt fits]
  · intro i holder found
    obtain ⟨inside, rfl⟩ := List.getElem?_eq_some_iff.mp found
    obtain ⟨front, more, split, length⟩ := config.entry_split slack inside
    rw [split]
    constructor
    · rw [List.drop_left' length, Shareholder.encode, List.append_assoc,
        List.take_left' (Pubkey.length_eq _)]
    · have after : (front ++ config.shareholders[i].address.bytes).length =
          shareholderOffset i + 32 := by
        rw [List.length_append, length, Pubkey.length_eq]
      rw [storedShare, Shareholder.encode, List.append_assoc, ← List.append_assoc front,
        ← List.append_assoc, wordAt?_append after, Option.getD_some]

end SharingConfig

end PumpSwapSdk
