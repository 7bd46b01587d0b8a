import PumpSwapSdk.Client.Incentives
import PumpSwapSdk.Client.Liquidity
import PumpSwapSdk.Client.Payout
import PumpSwapSdk.Foundation.Message

/-!
# What the client signs

A client method builds instructions, makes a transaction of them that one wallet pays for, and
signs it with that wallet's key alone. Signing with too few keys panics, so every account that an
instruction needs the signature of has to be the wallet (`only_payer_signs`).

The instructions of other crates are assembled there. What they list is a parameter, with what
those crates document as a hypothesis (`Assembles`).
-/

set_option autoImplicit false

namespace PumpSwapSdk

open Foundation.LittleEndian
open Foundation.Message

/-! ## Messages -/

/-- The order of addresses in a message. -/
def Pubkey.le (a b : Pubkey) : Bool := decide (value a.bytes.reverse ≤ value b.bytes.reverse)

def AccountMeta.ref (account : AccountMeta) : Ref Pubkey :=
  ⟨account.pubkey, account.isSigner, account.isWritable⟩

def Instruction.call (ix : Instruction) : Call Pubkey :=
  ⟨ix.programId, ix.accounts.map AccountMeta.ref, ix.data⟩

/-- The bytes of a signed transaction. -/
def wireBytes (signatures : List (List U8)) (blockhash : List U8) (payer : Pubkey)
    (instructions : List Instruction) : List U8 :=
  encode Pubkey.le Pubkey.bytes signatures blockhash payer (instructions.map Instruction.call)

namespace Recorded

/-- An address of one repeated byte. -/
def repeated (byte : U8) : Pubkey := ⟨List.replicate 32 byte, List.length_replicate⟩

def goldenPayer : Pubkey := pubkey "GyGKxMyg1p9SsHfm15MkNUu1u9TN2JtTspcdmrtGUdse"

/-- A call of a program, and a transfer of lamports to the account that it reads. -/
def goldenInstructions : List Instruction :=
  [⟨repeated 5, [.new goldenPayer true, .newReadonly (repeated 9) false],
      [1, 2, 3, 4, 5, 6, 7, 8]⟩,
    ⟨SystemProgram.id, [.new goldenPayer true, .new (repeated 9) false],
      [2, 0, 0, 0, 135, 214, 18, 0, 0, 0, 0, 0]⟩]

end Recorded

/-- The recorded transaction, up to its signature. -/
example : wireBytes [List.replicate 64 0] (List.replicate 32 7) Recorded.goldenPayer
      Recorded.goldenInstructions =
    1 :: List.replicate 64 0 ++ [1, 0, 2, 4] ++ Recorded.goldenPayer.bytes ++
      List.replicate 32 9 ++ List.replicate 32 0 ++ List.replicate 32 5 ++ List.replicate 32 7 ++
      [2, 3, 2, 0, 1, 8, 1, 2, 3, 4, 5, 6, 7, 8,
        2, 2, 0, 1, 12, 2, 0, 0, 0, 135, 214, 18, 0, 0, 0, 0, 0] := by
  decide +kernel

/-! ## Instructions of other crates -/

/-- `solana_compute_budget_interface::ID`. -/
def computeBudgetId : Pubkey := pubkey "ComputeBudget111111111111111111111111111111"

/-- `sysvar::rent::ID`. -/
def rentSysvarId : Pubkey := pubkey "SysvarRent111111111111111111111111111111111"

/-- What the crates that build the other instructions document of them: the program, the accounts
and the size of the data. -/
structure Assembles (crates : Crates) (assemble : Ix → Instruction) : Prop where
  own : ∀ ix, assemble (.own ix) = ix
  setComputeUnitLimit : ∀ units, ∃ data : List U8, data.length = 5 ∧
    assemble (.setComputeUnitLimit units) = ⟨computeBudgetId, [], data⟩
  setComputeUnitPrice : ∀ microLamports, ∃ data : List U8, data.length = 9 ∧
    assemble (.setComputeUnitPrice microLamports) = ⟨computeBudgetId, [], data⟩
  createAccountWithSeed : ∀ payer account seed lamports space owner, ∃ data : List U8,
    data.length = 92 + seed.utf8ByteSize ∧
    assemble (.createAccountWithSeed payer account payer seed lamports space owner) =
      ⟨SystemProgram.id, [.new payer true, .new account false], data⟩
  initializeAccount : ∀ tokenProgram account mint owner, ∃ data : List U8, data.length = 1 ∧
    assemble (.initializeAccount tokenProgram account mint owner) =
      ⟨tokenProgram, [.new account false, .newReadonly mint false, .newReadonly owner false,
        .newReadonly rentSysvarId false], data⟩
  createAssociatedTokenAccountIdempotent : ∀ funder wallet mint tokenProgram,
    ∃ data : List U8, data.length = 1 ∧
    assemble (.createAssociatedTokenAccountIdempotent funder wallet mint tokenProgram) =
      ⟨SplAssociatedTokenAccount.id, [.new funder true,
        .new (crates.getAssociatedTokenAddressWithProgramId wallet mint tokenProgram) false,
        .newReadonly wallet false, .newReadonly mint false, .newReadonly SystemProgram.id false,
        .newReadonly tokenProgram false], data⟩
  closeAccount : ∀ tokenProgram account destination owner, ∃ data : List U8, data.length = 1 ∧
    assemble (.closeAccount tokenProgram account destination owner) =
      ⟨tokenProgram, [.new account false, .new destination false, .newReadonly owner true], data⟩
  transfer : ∀ payer account lamports, ∃ data : List U8, data.length = 12 ∧
    assemble (.transfer payer account lamports) =
      ⟨SystemProgram.id, [.new payer true, .new account false], data⟩
  syncNative : ∀ tokenProgram account, ∃ data : List U8, data.length = 1 ∧
    assemble (.syncNative tokenProgram account) = ⟨tokenProgram, [.new account false], data⟩

/-- The bytes of a text. -/
def utf8 (text : String) : List U8 := text.toByteArray.data.toList.map UInt8.toBitVec

@[simp] theorem length_utf8 (text : String) : (utf8 text).length = text.utf8ByteSize := by
  rw [utf8, List.length_map, Array.length_toList]
  rfl

/-- Their instructions byte by byte. -/
def assembled (crates : Crates) : Ix → Instruction
  | .own ix => ix
  | .setComputeUnitLimit units => ⟨computeBudgetId, [], 2 :: toBytes 4 units⟩
  | .setComputeUnitPrice microLamports => ⟨computeBudgetId, [], 3 :: toBytes 8 microLamports⟩
  | .createAccountWithSeed fromPubkey toPubkey base seed lamports space owner =>
      ⟨SystemProgram.id,
        [.new fromPubkey true, .new toPubkey false] ++
          if base = fromPubkey then [] else [.newReadonly base true],
        [3, 0, 0, 0] ++ base.bytes ++ toBytes 8 (BitVec.ofNat 64 seed.utf8ByteSize) ++ utf8 seed ++
          toBytes 8 lamports ++ toBytes 8 space ++ owner.bytes⟩
  | .initializeAccount tokenProgram account mint owner =>
      ⟨tokenProgram, [.new account false, .newReadonly mint false, .newReadonly owner false,
        .newReadonly rentSysvarId false], [1]⟩
  | .createAssociatedTokenAccountIdempotent funder wallet mint tokenProgram =>
      ⟨SplAssociatedTokenAccount.id, [.new funder true,
        .new (crates.getAssociatedTokenAddressWithProgramId wallet mint tokenProgram) false,
        .newReadonly wallet false, .newReadonly mint false, .newReadonly SystemProgram.id false,
        .newReadonly tokenProgram false], [1]⟩
  | .closeAccount tokenProgram account destination owner =>
      ⟨tokenProgram, [.new account false, .new destination false, .newReadonly owner true], [9]⟩
  | .transfer fromPubkey toPubkey lamports =>
      ⟨SystemProgram.id, [.new fromPubkey true, .new toPubkey false],
        [2, 0, 0, 0] ++ toBytes 8 lamports⟩
  | .syncNative tokenProgram account => ⟨tokenProgram, [.new account false], [17]⟩

theorem assembled_assembles (crates : Crates) : Assembles crates (assembled crates) where
  own := fun _ => rfl
  setComputeUnitLimit := fun _ => ⟨_, rfl, rfl⟩
  setComputeUnitPrice := fun _ => ⟨_, rfl, rfl⟩
  createAccountWithSeed := by
    intro payer account seed lamports space owner
    refine ⟨_, ?_, by rw [assembled, if_pos rfl, List.append_nil]⟩
    simp only [List.length_append, length_utf8, length_toBytes, Pubkey.length_eq, List.length_cons,
      List.length_nil]
    omega
  initializeAccount := fun _ _ _ _ => ⟨_, rfl, rfl⟩
  createAssociatedTokenAccountIdempotent := fun _ _ _ _ => ⟨_, rfl, rfl⟩
  closeAccount := fun _ _ _ _ => ⟨_, rfl, rfl⟩
  transfer := fun _ _ _ => ⟨_, rfl, rfl⟩
  syncNative := fun _ _ => ⟨_, rfl, rfl⟩

variable {crates : Crates} {choices : Choices} {rpc : Rpc} {payer : Pubkey}
variable {assemble : Ix → Instruction}

/-! ## Signatures -/

/-- An instruction that needs no signature but the payer's. -/
def Instruction.SignedBy (payer : Pubkey) (ix : Instruction) : Prop :=
  ∀ account ∈ ix.accounts, account.isSigner → account.pubkey = payer

/-- An instruction that another crate may build needs no signature but the payer's: the wallet that
pays is the payer. -/
def Ix.SignedBy (payer : Pubkey) : Ix → Prop
  | .own ix => ix.SignedBy payer
  | .setComputeUnitLimit _ => True
  | .setComputeUnitPrice _ => True
  | .createAccountWithSeed fromPubkey _ base _ _ _ _ => fromPubkey = payer ∧ base = payer
  | .initializeAccount _ _ _ _ => True
  | .createAssociatedTokenAccountIdempotent funder _ _ _ => funder = payer
  | .closeAccount _ _ _ owner => owner = payer
  | .transfer fromPubkey _ _ => fromPubkey = payer
  | .syncNative _ _ => True

/-- Assembling an instruction asks for no other signature. -/
theorem Ix.SignedBy.assembled (assembles : Assembles crates assemble) {ix : Ix}
    (signed : ix.SignedBy payer) : (assemble ix).SignedBy payer := by
  cases ix with
  | own ix => rwa [assembles.own]
  | setComputeUnitLimit units =>
      obtain ⟨data, -, same⟩ := assembles.setComputeUnitLimit units
      simp [same, Instruction.SignedBy]
  | setComputeUnitPrice microLamports =>
      obtain ⟨data, -, same⟩ := assembles.setComputeUnitPrice microLamports
      simp [same, Instruction.SignedBy]
  | createAccountWithSeed fromPubkey toPubkey base seed lamports space owner =>
      obtain ⟨rfl, rfl⟩ := signed
      obtain ⟨data, -, same⟩ :=
        assembles.createAccountWithSeed base toPubkey seed lamports space owner
      simp [same, Instruction.SignedBy, AccountMeta.new]
  | initializeAccount tokenProgram account mint owner =>
      obtain ⟨data, -, same⟩ := assembles.initializeAccount tokenProgram account mint owner
      simp [same, Instruction.SignedBy, AccountMeta.new, AccountMeta.newReadonly]
  | createAssociatedTokenAccountIdempotent funder wallet mint tokenProgram =>
      obtain rfl := signed
      obtain ⟨data, -, same⟩ :=
        assembles.createAssociatedTokenAccountIdempotent funder wallet mint tokenProgram
      simp [same, Instruction.SignedBy, AccountMeta.new, AccountMeta.newReadonly]
  | closeAccount tokenProgram account destination owner =>
      obtain rfl := signed
      obtain ⟨data, -, same⟩ := assembles.closeAccount tokenProgram account destination owner
      simp [same, Instruction.SignedBy, AccountMeta.new, AccountMeta.newReadonly]
  | transfer fromPubkey toPubkey lamports =>
      obtain rfl := signed
      obtain ⟨data, -, same⟩ := assembles.transfer fromPubkey toPubkey lamports
      simp [same, Instruction.SignedBy, AccountMeta.new]
  | syncNative tokenProgram account =>
      obtain ⟨data, -, same⟩ := assembles.syncNative tokenProgram account
      simp [same, Instruction.SignedBy, AccountMeta.new]

/-- A message of such instructions needs the payer's signature only. -/
theorem signers_of_signedBy {instructions : List Instruction}
    (signed : ∀ ix ∈ instructions, ix.SignedBy payer) :
    signers payer (instructions.map Instruction.call) = [payer] := by
  rw [signers_eq_payer_iff]
  intro ref mentioned signing
  simp only [mentions, List.mem_flatMap, List.mem_map, List.mem_append, List.mem_singleton]
    at mentioned
  obtain ⟨_, ⟨ix, member, rfl⟩, listed | rfl⟩ := mentioned
  · obtain ⟨account, inside, rfl⟩ := List.mem_map.mp listed
    exact signed ix member account inside signing
  · cases signing

/-! ## Sizes -/

/-- The size of an unsigned transaction, which holds an empty signature for each that it needs. -/
def transactionSize (payer : Pubkey) (instructions : List Instruction) : ℕ :=
  let needed := (signers payer (instructions.map Instruction.call)).length
  (wireBytes (List.replicate needed (List.replicate 64 0)) (List.replicate 32 0) payer
    instructions).length

/-- The largest transaction that the network takes. -/
def packetDataSize : ℕ := 1_232

/-- The addresses an instruction names. -/
def Instruction.keys (ix : Instruction) : List Pubkey :=
  ix.accounts.map AccountMeta.pubkey ++ [ix.programId]

/-- The number of addresses of a transaction. -/
def keyCount (payer : Pubkey) (instructions : List Instruction) : ℕ :=
  (keys payer (instructions.map Instruction.call)).length

/-- The size of an instruction, of short lists. -/
def Instruction.size (ix : Instruction) : ℕ := 3 + ix.accounts.length + ix.data.length

theorem Instruction.size_eq_keys (ix : Instruction) :
    ix.size = 2 + ix.keys.length + ix.data.length := by
  simp only [Instruction.size, Instruction.keys, List.length_append, List.length_map,
    List.length_singleton]
  omega

/-- Its counts take a byte each. -/
def Instruction.Short (ix : Instruction) : Prop := ix.accounts.length < 128 ∧ ix.data.length < 128

/-- The size of the instructions of a transaction. -/
def instructionsSize (instructions : List Instruction) : ℕ :=
  (instructions.map Instruction.size).sum

@[simp] theorem instructionsSize_nil : instructionsSize [] = 0 := rfl

@[simp] theorem instructionsSize_cons (ix : Instruction) (rest : List Instruction) :
    instructionsSize (ix :: rest) = ix.size + instructionsSize rest := rfl

@[simp] theorem instructionsSize_append (first second : List Instruction) :
    instructionsSize (first ++ second) = instructionsSize first + instructionsSize second := by
  simp only [instructionsSize, List.map_append, List.sum_append]

/-- An instruction takes three bytes at least. -/
theorem length_le_instructionsSize (instructions : List Instruction) :
    3 * instructions.length ≤ instructionsSize instructions := by
  induction instructions with
  | nil => exact Nat.le_refl 0
  | cons ix rest ih =>
      rw [List.length_cons, instructionsSize_cons, Instruction.size]
      omega

/-- The instructions of a small transaction are short. -/
theorem short_of_instructionsSize_lt {instructions : List Instruction}
    (small : instructionsSize instructions < 131) : ∀ ix ∈ instructions, ix.Short := by
  intro ix member
  have part : ix.size ≤ instructionsSize instructions :=
    List.le_sum_of_mem (List.mem_map_of_mem member)
  rw [Instruction.size] at part
  exact ⟨by omega, by omega⟩

theorem size_le_callSize (ix : Instruction) : ix.size ≤ callSize ix.call := by
  simp only [Instruction.size, callSize, Instruction.call, List.length_map]
  have accounts := length_compact_pos ix.accounts.length
  have data := length_compact_pos ix.data.length
  omega

theorem callSize_eq_size {ix : Instruction} (short : ix.Short) : callSize ix.call = ix.size := by
  simp only [Instruction.size, callSize, Instruction.call, List.length_map]
  rw [length_compact_of_lt short.1, length_compact_of_lt short.2]
  omega

theorem instructionsSize_le_callsSize (instructions : List Instruction) :
    instructionsSize instructions ≤ callsSize (instructions.map Instruction.call) := by
  induction instructions with
  | nil => exact Nat.le_refl 0
  | cons ix rest ih => exact Nat.add_le_add (size_le_callSize ix) ih

theorem callsSize_eq_instructionsSize {instructions : List Instruction}
    (short : ∀ ix ∈ instructions, ix.Short) :
    callsSize (instructions.map Instruction.call) = instructionsSize instructions := by
  rw [callsSize, List.map_map, instructionsSize]
  exact congrArg List.sum (List.map_congr_left fun ix member => callSize_eq_size (short ix member))

section Keys

variable {instructions : List Instruction} {all : List Pubkey}

theorem mem_keys_iff {ix : Instruction} {key : Pubkey} :
    key ∈ ix.keys ↔ (∃ account ∈ ix.accounts, account.pubkey = key) ∨ key = ix.programId := by
  simp only [Instruction.keys, List.mem_append, List.mem_map, List.mem_singleton]

theorem exists_mention_iff {key : Pubkey} :
    (∃ ref ∈ mentions (instructions.map Instruction.call), ref.key = key) ↔
      ∃ ix ∈ instructions, key ∈ ix.keys := by
  constructor
  · rintro ⟨ref, mentioned, rfl⟩
    obtain ⟨call, member, listed⟩ := List.mem_flatMap.mp mentioned
    obtain ⟨ix, inside, rfl⟩ := List.mem_map.mp member
    refine ⟨ix, inside, mem_keys_iff.mpr ?_⟩
    rcases List.mem_append.mp listed with passed | program
    · obtain ⟨account, belongs, rfl⟩ := List.mem_map.mp passed
      exact Or.inl ⟨account, belongs, rfl⟩
    · obtain rfl := List.mem_singleton.mp program
      exact Or.inr rfl
  · rintro ⟨ix, inside, named⟩
    have called : ix.call ∈ instructions.map Instruction.call := List.mem_map_of_mem inside
    rcases mem_keys_iff.mp named with ⟨account, belongs, rfl⟩ | rfl
    · exact ⟨account.ref, List.mem_flatMap.mpr ⟨ix.call, called, List.mem_append_left _
        (List.mem_map_of_mem belongs)⟩, rfl⟩
    · exact ⟨_, List.mem_flatMap.mpr ⟨ix.call, called, List.mem_append_right _
        (List.mem_singleton.mpr rfl)⟩, rfl⟩

/-- Instructions name no other address. -/
def NamesOnly (all : List Pubkey) (instructions : List Instruction) : Prop :=
  ∀ ix ∈ instructions, ix.keys ⊆ all

/-- Instructions name every one of the addresses. -/
def NamesAll (all : List Pubkey) (instructions : List Instruction) : Prop :=
  ∀ key ∈ all, ∃ ix ∈ instructions, key ∈ ix.keys

theorem namesOnly_singleton {ix : Instruction} : NamesOnly all [ix] ↔ ix.keys ⊆ all :=
  List.forall_mem_singleton

theorem namesAll_singleton {ix : Instruction} : NamesAll all [ix] ↔ all ⊆ ix.keys := by
  simp only [NamesAll, List.mem_singleton, exists_eq_left, List.subset_def]

theorem NamesAll.mono {others : List Instruction} (names : NamesAll all instructions)
    (held : instructions ⊆ others) : NamesAll all others := by
  intro key member
  obtain ⟨ix, inside, named⟩ := names key member
  exact ⟨ix, held inside, named⟩

theorem keyCount_le (only : NamesOnly (payer :: all) instructions) :
    keyCount payer instructions ≤ all.length + 1 := by
  apply keys_length_le List.mem_cons_self
  intro ref mentioned
  obtain ⟨ix, member, inside⟩ := exists_mention_iff.mp ⟨ref, mentioned, rfl⟩
  exact only ix member inside

theorem keyCount_eq (distinct : (payer :: all).Nodup)
    (only : NamesOnly (payer :: all) instructions) (names : NamesAll all instructions) :
    keyCount payer instructions = all.length + 1 := by
  apply keys_length_eq distinct List.mem_cons_self
  · intro ref mentioned
    obtain ⟨ix, member, inside⟩ := exists_mention_iff.mp ⟨ref, mentioned, rfl⟩
    exact only ix member inside
  · intro key member
    rcases List.mem_cons.mp member with same | other
    · exact Or.inl same
    · exact Or.inr (exists_mention_iff.mpr (names key other))

/-- **The size of a transaction that its payer alone signs.** -/
theorem transactionSize_eq (signed : ∀ ix ∈ instructions, ix.SignedBy payer) :
    transactionSize payer instructions =
      100 + (compact (keyCount payer instructions)).length + 32 * keyCount payer instructions +
        (compact instructions.length).length + callsSize (instructions.map Instruction.call) := by
  have single : (signers payer (instructions.map Instruction.call)).length = 1 := by
    rw [signers_of_signedBy signed]
    rfl
  rw [transactionSize, single, wireBytes,
    length_encode (fun key => key.length_eq) (fun signature member =>
      (List.eq_of_mem_replicate member).symm ▸ List.length_replicate)]
  simp only [List.length_replicate, List.length_map]
  rw [← keyCount, length_compact_of_lt Nat.one_lt_ofNat]
  omega

/-- What instructions add to a transaction of given addresses. -/
structure Adds (payer : Pubkey) (all : List Pubkey) (instructions : List Instruction)
    (names : List Pubkey) (size : ℕ) : Prop where
  signed : ∀ ix ∈ instructions, ix.SignedBy payer
  only : NamesOnly (payer :: all) instructions
  names : NamesAll names instructions
  size : instructionsSize instructions = size

namespace Adds

variable {first second : List Instruction} {names more : List Pubkey} {size extra : ℕ}

theorem nil : Adds payer all [] [] 0 where
  signed := List.forall_mem_nil _
  only := List.forall_mem_nil _
  names := List.forall_mem_nil _
  size := rfl

/-- Both groups add their own. -/
theorem append (adds : Adds payer all first names size)
    (others : Adds payer all second more extra) :
    Adds payer all (first ++ second) (names ++ more) (size + extra) where
  signed := List.forall_mem_append.mpr ⟨adds.signed, others.signed⟩
  only := List.forall_mem_append.mpr ⟨adds.only, others.only⟩
  names := List.forall_mem_append.mpr ⟨adds.names.mono (List.subset_append_left _ _),
    others.names.mono (List.subset_append_right _ _)⟩
  size := by rw [instructionsSize_append, adds.size, others.size]

theorem short (adds : Adds payer all instructions names size) (small : size < 131) :
    ∀ ix ∈ instructions, ix.Short :=
  short_of_instructionsSize_lt (adds.size.trans_lt small)

/-- A transaction that names some addresses is at most as large as if it listed them all. -/
theorem transactionSize_le (adds : Adds payer all instructions names size)
    (short : ∀ ix ∈ instructions, ix.Short) (few : size < 384) (narrow : all.length < 127) :
    transactionSize payer instructions ≤ 134 + 32 * all.length + size := by
  have keys := keyCount_le adds.only
  have counted := length_le_instructionsSize instructions
  rw [adds.size] at counted
  rw [transactionSize_eq adds.signed, callsSize_eq_instructionsSize short, adds.size,
    length_compact_of_lt (by omega), length_compact_of_lt (by omega)]
  omega

/-- A transaction that needs some different addresses is at least as large as their list and its
instructions. -/
theorem le_transactionSize (adds : Adds payer all instructions names size)
    (needed : all ⊆ names) (distinct : (payer :: all).Nodup) :
    134 + 32 * all.length + size ≤ transactionSize payer instructions := by
  have keys := keyCount_eq distinct adds.only fun key member => adds.names key (needed member)
  have calls := instructionsSize_le_callsSize instructions
  have keyBytes := length_compact_pos (keyCount payer instructions)
  have callBytes := length_compact_pos instructions.length
  rw [transactionSize_eq adds.signed, keys]
  rw [adds.size] at calls
  rw [keys] at keyBytes
  omega

end Adds

/-- The budget of a transaction's compute units. -/
theorem adds_budget (assembles : Assembles crates assemble) (units : U32) (microLamports : U64)
    (listed : computeBudgetId ∈ all) :
    Adds payer all
      [assemble (.setComputeUnitLimit units), assemble (.setComputeUnitPrice microLamports)]
      [computeBudgetId] 20 := by
  obtain ⟨limitData, fiveBytes, limit⟩ := assembles.setComputeUnitLimit units
  obtain ⟨priceData, nineBytes, price⟩ := assembles.setComputeUnitPrice microLamports
  rw [limit, price]
  constructor
  · simp [Instruction.SignedBy]
  · simp [NamesOnly, Instruction.keys, listed]
  · simp [NamesAll, Instruction.keys]
  · simp [Instruction.size, fiveBytes, nineBytes]

end Keys

/-! ## Built instructions -/

@[simp] theorem AccountMeta.isSigner_new (key : Pubkey) (isSigner : Bool) :
    (new key isSigner).isSigner = isSigner := rfl

@[simp] theorem AccountMeta.isSigner_newReadonly (key : Pubkey) (isSigner : Bool) :
    (newReadonly key isSigner).isSigner = isSigner := rfl

/-- No trailing account of a swap signs. -/
theorem unsigned_swapRemainingAccounts (crates : Crates) (choices : Choices) (poolInfo : PoolInfo)
    (user : Pubkey) (isSell : Bool) :
    ∀ account ∈ swapRemainingAccounts crates choices poolInfo user isSell,
      account.isSigner = false := by
  unfold swapRemainingAccounts
  simp only [List.forall_mem_append]
  refine ⟨⟨?_, ?_⟩, ?_⟩
  · cases poolInfo.isCashbackCoin with
    | false => simp
    | true =>
        cases isSell with
        | false => simp
        | true => simp
  · split
    · simp
    · simp
  · simp

/-- A swap needs its user's signature only. -/
theorem signedBy_swapAccounts {poolInfo : PoolInfo} {userBase userQuote program : Pubkey}
    {kind : SwapKind} {data : List U8} :
    (Instruction.mk program
      (swapAccounts crates choices poolInfo payer userBase userQuote kind) data).SignedBy
        payer := by
  simp only [Instruction.SignedBy, swapAccounts, List.forall_mem_append]
  refine ⟨⟨⟨?_, ?_⟩, ?_⟩, ?_⟩
  · simp
  · split
    · simp
    · simp
  · simp
  · intro account member signing
    rw [unsigned_swapRemainingAccounts crates choices poolInfo payer _ account member] at signing
    cases signing

/-- The extension of a pool account is signed for by the payer. -/
theorem signedBy_extension {poolInfo : PoolInfo} {extension : Option Ix}
    (extended : maybeExtendPoolIx poolInfo payer = .ok extension) :
    ∀ ix ∈ extension.toList, ix.SignedBy payer := by
  rcases maybeExtendPoolIx_eq_ok extended with rfl | ⟨ix, made, rfl⟩
  · simp
  · obtain rfl := Except.ok.inj made
    simp [Ix.SignedBy, Instruction.SignedBy]

/-- Whatever it swaps, a sequence around a swap needs the payer's signature only. -/
theorem signedBy_swapSequence {poolInfo : PoolInfo} {spent : Option U64}
    {createAta closeAta : Bool} {swapIx : Pubkey → Pubkey → Result Instruction}
    {instructions : List Ix}
    (swaps : ∀ userBase userQuote swap, swapIx userBase userQuote = .ok swap →
      swap.SignedBy payer)
    (built : swapSequence crates choices poolInfo payer spent createAta closeAta swapIx =
      .ok instructions) : ∀ ix ∈ instructions, ix.SignedBy payer := by
  obtain ⟨extension, wsolAcc, seed, lamports, swap, closing, extended, -, -, swapped, closed,
    rfl⟩ := swapSequence_eq_ok built
  have ended : ∀ ix ∈ closing, ix.SignedBy payer := by
    unfold closeAtaIxs splTokenCloseAccount at closed
    split at closed
    · simp only [bind_eq_ok_iff, Except.ok.injEq] at closed
      obtain ⟨_, ⟨_, _, rfl⟩, rfl⟩ := closed
      simp [Ix.SignedBy]
    · obtain rfl := Except.ok.inj closed
      simp
  simp only [openingIxs, List.forall_mem_append, List.forall_mem_cons]
  refine ⟨⟨⟨signedBy_extension extended, ?_⟩, ?_⟩, swaps _ _ swap swapped, rfl, ended⟩
  · simp [Ix.SignedBy]
  · cases createAta with
    | false => simp [createAtaTokenOrNotWithProgram]
    | true => simp [createAtaTokenOrNotWithProgram, Ix.SignedBy]

section Swaps

variable {poolInfo : PoolInfo} {instructions : List Ix}

theorem signedBy_buildBuyIxs {baseAmountOut maxQuoteAmountIn : U64} {trackVolume createAta : Bool}
    (built : buildBuyIxs crates choices baseAmountOut maxQuoteAmountIn trackVolume poolInfo payer
      createAta = .ok instructions) : ∀ ix ∈ instructions, ix.SignedBy payer := by
  apply signedBy_swapSequence _ built
  intro userBase userQuote swap made
  obtain rfl := Except.ok.inj made
  exact signedBy_swapAccounts

theorem signedBy_buildBuyExactQuoteInIxs {spendableQuoteIn minBaseAmountOut : U64}
    {trackVolume createAta : Bool}
    (built : buildBuyExactQuoteInIxs crates choices spendableQuoteIn minBaseAmountOut trackVolume
      poolInfo payer createAta = .ok instructions) : ∀ ix ∈ instructions, ix.SignedBy payer := by
  apply signedBy_swapSequence _ built
  intro userBase userQuote swap made
  obtain rfl := Except.ok.inj made
  exact signedBy_swapAccounts

theorem signedBy_buildSellIxs {baseAmountIn minQuoteAmountOut : U64} {closeSplAcc : Bool}
    (built : buildSellIxs crates choices baseAmountIn minQuoteAmountOut poolInfo payer closeSplAcc =
      .ok instructions) : ∀ ix ∈ instructions, ix.SignedBy payer := by
  apply signedBy_swapSequence _ built
  intro userBase userQuote swap made
  obtain rfl := Except.ok.inj made
  exact signedBy_swapAccounts

end Swaps

/-- The instructions of a creator fee payout need the payer's signature only. -/
theorem signedBy_payout {tokenMint : Pubkey} {list : List Instruction}
    (built : buildCreatorFeeWithdrawIxs crates rpc payer tokenMint = .ok list) :
    ∀ ix ∈ list, ix.SignedBy payer := by
  obtain ⟨shareholders, sweeps, transfer, distribute, -, swept, transferred, distributed, rfl⟩ :=
    buildCreatorFeeWithdrawIxs_eq_ok built
  obtain ⟨_, _, _, _, curveSweep, poolSweep, -, -, -, -, curve, pool, rfl⟩ :=
    buildCreatorFeeSweepIxs_eq_ok swept
  obtain rfl := Except.ok.inj transferred
  obtain rfl := Except.ok.inj distributed
  simp only [List.forall_mem_append]
  refine ⟨⟨?_, ?_⟩, ?_⟩
  · rcases curve with ⟨-, -, rfl⟩ | ⟨ix, made, rfl⟩
    · simp
    · obtain rfl := Except.ok.inj made
      simp [Instruction.SignedBy]
  · rcases pool with ⟨-, rfl⟩ | ⟨_, _, ix, -, -, made, rfl⟩
    · simp
    · obtain rfl := Except.ok.inj made
      simp [Instruction.SignedBy]
  · simp [Instruction.SignedBy]

/-! ## What the client signs -/

/-- A call of a client method that signs a transaction. -/
inductive Submission where
  | buy (amountIn : U64) (poolInfo : PoolInfo)
  | buyExactQuoteIn (spendableQuoteIn minBaseAmountOut : U64) (poolInfo : PoolInfo)
  | sell (amountIn : U64) (poolInfo : PoolInfo)
  | simulateBuy (poolInfo : PoolInfo) (amountIn : U64)
  | simulateBuyExactQuoteIn (spendableQuoteIn minBaseAmountOut : U64) (poolInfo : PoolInfo)
  | simulateSell (poolInfo : PoolInfo) (amountIn : U64)
  | createWsolPoolWithOptions (index : U16) (baseAmountIn quoteAmountIn : U64)
      (coinCreator baseMint baseTokenProgram : Pubkey) (isMayhemMode isCashbackCoin : Bool)
  | depositIntoWsolPool (poolInfo : PoolInfo)
      (lpTokenAmountOut maxBaseAmountIn maxQuoteAmountIn : U64)
  | withdrawFromWsolPool (pool baseMint : Pubkey) (lpTokenPercent : Float)
      (minBaseAmountOut minQuoteAmountOut : U64)
  | claimCashback (quoteMint quoteTokenProgram : Pubkey)
  | withdrawCreatorFees (tokenMint : Pubkey)

/-- The instructions of the transaction. -/
def Submission.instructions (crates : Crates) (choices : Choices) (rpc : Rpc) (payer : Pubkey) :
    Submission → Result (List Ix)
  | .buy amountIn poolInfo => PumpSwapSdk.buy crates choices rpc amountIn poolInfo payer
  | .buyExactQuoteIn spendableQuoteIn minBaseAmountOut poolInfo =>
      PumpSwapSdk.buyExactQuoteIn crates choices spendableQuoteIn minBaseAmountOut poolInfo payer
  | .sell amountIn poolInfo => PumpSwapSdk.sell crates choices rpc amountIn poolInfo payer
  | .simulateBuy poolInfo amountIn =>
      PumpSwapSdk.simulateBuy crates choices rpc poolInfo amountIn payer
  | .simulateBuyExactQuoteIn spendableQuoteIn minBaseAmountOut poolInfo =>
      PumpSwapSdk.simulateBuyExactQuoteIn crates choices spendableQuoteIn minBaseAmountOut
        poolInfo payer
  | .simulateSell poolInfo amountIn =>
      PumpSwapSdk.simulateSell crates choices rpc poolInfo amountIn payer
  | .createWsolPoolWithOptions index baseAmountIn quoteAmountIn coinCreator baseMint
      baseTokenProgram isMayhemMode isCashbackCoin =>
      PumpSwapSdk.createWsolPoolWithOptions crates index baseAmountIn quoteAmountIn coinCreator
        baseMint baseTokenProgram isMayhemMode isCashbackCoin payer
  | .depositIntoWsolPool poolInfo lpTokenAmountOut maxBaseAmountIn maxQuoteAmountIn =>
      PumpSwapSdk.depositIntoWsolPool crates poolInfo payer lpTokenAmountOut maxBaseAmountIn
        maxQuoteAmountIn
  | .withdrawFromWsolPool pool baseMint lpTokenPercent minBaseAmountOut minQuoteAmountOut =>
      PumpSwapSdk.withdrawFromWsolPool crates rpc pool baseMint payer lpTokenPercent
        minBaseAmountOut minQuoteAmountOut
  | .claimCashback quoteMint quoteTokenProgram =>
      PumpSwapSdk.claimCashback crates quoteMint quoteTokenProgram payer
  | .withdrawCreatorFees tokenMint =>
      PumpSwapSdk.withdrawCreatorFees crates rpc payer tokenMint

/-- Every method's instructions need the wallet's signature only. -/
theorem Submission.signedBy {submission : Submission} {list : List Ix}
    (built : submission.instructions crates choices rpc payer = .ok list) :
    ∀ ix ∈ list, ix.SignedBy payer := by
  have budget : ∀ ix ∈ swapBudget, ix.SignedBy payer := by simp [swapBudget, Ix.SignedBy]
  cases submission with
  | buy amountIn poolInfo =>
      simp only [instructions, PumpSwapSdk.buy, bind_eq_ok_iff, Except.ok.injEq] at built
      obtain ⟨_, -, trade, made, rfl⟩ := built
      exact List.forall_mem_append.mpr ⟨budget, signedBy_buildBuyIxs made⟩
  | buyExactQuoteIn spendableQuoteIn minBaseAmountOut poolInfo =>
      simp only [instructions, PumpSwapSdk.buyExactQuoteIn, bind_eq_ok_iff, Except.ok.injEq]
        at built
      obtain ⟨trade, made, rfl⟩ := built
      exact List.forall_mem_append.mpr ⟨budget, signedBy_buildBuyExactQuoteInIxs made⟩
  | sell amountIn poolInfo =>
      simp only [instructions, PumpSwapSdk.sell, bind_eq_ok_iff, Except.ok.injEq] at built
      obtain ⟨_, -, trade, made, rfl⟩ := built
      exact List.forall_mem_append.mpr ⟨budget, signedBy_buildSellIxs made⟩
  | simulateBuy poolInfo amountIn =>
      simp only [instructions, PumpSwapSdk.simulateBuy, bind_eq_ok_iff] at built
      obtain ⟨_, -, made⟩ := built
      exact signedBy_buildBuyIxs made
  | simulateBuyExactQuoteIn spendableQuoteIn minBaseAmountOut poolInfo =>
      simp only [instructions, PumpSwapSdk.simulateBuyExactQuoteIn] at built
      exact signedBy_buildBuyExactQuoteInIxs built
  | simulateSell poolInfo amountIn =>
      simp only [instructions, PumpSwapSdk.simulateSell, bind_eq_ok_iff] at built
      obtain ⟨_, -, made⟩ := built
      exact signedBy_buildSellIxs made
  | createWsolPoolWithOptions index baseAmountIn quoteAmountIn coinCreator baseMint
      baseTokenProgram isMayhemMode isCashbackCoin =>
      simp only [instructions, PumpSwapSdk.createWsolPoolWithOptions,
        createPoolInstructionWithOptions, syncNative, splTokenCloseAccount, bind_eq_ok_iff,
        Except.ok.injEq] at built
      obtain ⟨_, rfl, _, ⟨_, _, rfl⟩, _, ⟨_, _, rfl⟩, rfl⟩ := built
      simp [Ix.SignedBy, Instruction.SignedBy]
  | depositIntoWsolPool poolInfo lpTokenAmountOut maxBaseAmountIn maxQuoteAmountIn =>
      simp only [instructions, PumpSwapSdk.depositIntoWsolPool, makeDepositInstruction, syncNative,
        splTokenCloseAccount, bind_eq_ok_iff, Except.ok.injEq] at built
      obtain ⟨_, rfl, extension, extended, _, ⟨_, _, rfl⟩, _, ⟨_, _, rfl⟩, rfl⟩ := built
      refine List.forall_mem_append.mpr ⟨signedBy_extension extended, ?_⟩
      simp [Ix.SignedBy, Instruction.SignedBy]
  | withdrawFromWsolPool pool baseMint lpTokenPercent minBaseAmountOut minQuoteAmountOut =>
      simp only [instructions, PumpSwapSdk.withdrawFromWsolPool, bind_eq_ok_iff] at built
      obtain ⟨_, -, balance, -, made⟩ := built
      split at made
      · cases made
      · simp only [withdrawInstruction, splTokenCloseAccount, bind_eq_ok_iff, Except.ok.injEq]
          at made
        obtain ⟨_, rfl, _, ⟨_, _, rfl⟩, rfl⟩ := made
        simp [Ix.SignedBy, Instruction.SignedBy]
  | claimCashback quoteMint quoteTokenProgram =>
      simp only [instructions, PumpSwapSdk.claimCashback, makeClaimCashbackInstruction,
        bind_eq_ok_iff, Except.ok.injEq] at built
      obtain ⟨_, rfl, rfl⟩ := built
      simp [Ix.SignedBy, Instruction.SignedBy]
  | withdrawCreatorFees tokenMint =>
      simp only [instructions, PumpSwapSdk.withdrawCreatorFees, bind_eq_ok_iff, Except.ok.injEq]
        at built
      obtain ⟨payout, made, rfl⟩ := built
      refine List.forall_mem_append.mpr ⟨by simp [Ix.SignedBy], ?_⟩
      intro ix member
      obtain ⟨other, inside, rfl⟩ := List.mem_map.mp member
      exact signedBy_payout made other inside

/-- **The client's signature is enough.** Whatever the node answers, a transaction that a client
method signs with its wallet's key needs the signature of the wallet, which pays for it, and no
other. -/
theorem only_payer_signs (crates : Crates) (choices : Choices) (rpc : Rpc) (payer : Pubkey)
    (assemble : Ix → Instruction) (submission : Submission) (list : List Ix)
    (assembles : Assembles crates assemble)
    (built : submission.instructions crates choices rpc payer = .ok list) :
    signers payer ((list.map assemble).map Instruction.call) = [payer] := by
  apply signers_of_signedBy
  intro ix member
  obtain ⟨other, inside, rfl⟩ := List.mem_map.mp member
  exact (Submission.signedBy built other inside).assembled assembles

/-- Paying out the recorded coin's creator fees needs the shareholder's signature only. -/
theorem only_payer_signs_recorded :
    ∃ list, (Submission.withdrawCreatorFees Recorded.mint).instructions Recorded.crates
        ⟨List.Vector.replicate 32 0, 0, 0, 0⟩
        (Recorded.node none (some (Recorded.poolAccount Recorded.sharingConfig)))
        Recorded.shareholder = .ok list ∧
      signers Recorded.shareholder
          ((list.map (assembled Recorded.crates)).map Instruction.call) =
        [Recorded.shareholder] := by
  obtain ⟨payout, built⟩ := Recorded.builds
  have submitted : (Submission.withdrawCreatorFees Recorded.mint).instructions Recorded.crates
      ⟨List.Vector.replicate 32 0, 0, 0, 0⟩
      (Recorded.node none (some (Recorded.poolAccount Recorded.sharingConfig)))
      Recorded.shareholder =
        .ok ([.setComputeUnitLimit 500_000, .setComputeUnitPrice 50_000] ++ payout.map .own) := by
    simp only [Submission.instructions, withdrawCreatorFees, built]
    rfl
  exact ⟨_, submitted, only_payer_signs _ _ _ _ _ _ _ (assembled_assembles _) submitted⟩

end PumpSwapSdk
