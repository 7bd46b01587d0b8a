import Mathlib.Data.List.GetD
import PumpSwapSdk.Util

/-!
# What a derived address is derived from

An address is derived by hashing its seeds one after another, without their lengths, followed by a
bump, the program and a marker. Nothing in that string says which of the SDK's derivations it comes
from. It can be told all the same: from the program, the length, and between the two derivations
that agree on both, from the tag (`ofSeeds_seeds`). So two derivations never hash the same string,
and their addresses coincide only where the hash collides (`derived_addresses_separate`). The
account that is created with a seed has no bump and no marker, and is not one of them.
-/

set_option autoImplicit false

namespace PumpSwapSdk

open Foundation.LittleEndian

/-- A derivation that the SDK makes, with what it makes it for. -/
inductive Derivation where
  | pool (index : U16) (creator baseMint quoteMint : Pubkey)
  | lpMint (pool : Pubkey)
  | userVolAccumulator (user : Pubkey)
  | coinCreatorVaultAuthority (coinCreator : Pubkey)
  | poolV2 (baseMint : Pubkey)
  | associatedTokenAccount (owner tokenProgram mint : Pubkey)
  | feeConfig
  | sharingConfig (mint : Pubkey)
  | bondingCurve (mint : Pubkey)
  | pumpCreatorVault (creator : Pubkey)
  | pumpPoolAuthority (mint : Pubkey)
  | tokenMetadata (mint : Pubkey)
deriving DecidableEq

namespace Derivation

/-- The address, as the SDK derives it. -/
def address (crates : Crates) : Derivation → Pubkey
  | .pool index creator baseMint quoteMint =>
      (calcPoolPdaWithIndex crates index creator baseMint quoteMint).1
  | .lpMint poolAddress => (calcLpMintPda crates poolAddress).1
  | .userVolAccumulator user => findUserVolAccumulator crates user
  | .coinCreatorVaultAuthority coinCreator => findCoinCreatorVaultAuthority crates coinCreator
  | .poolV2 baseMint => poolV2Pda crates baseMint
  | .associatedTokenAccount owner tokenProgram mint =>
      crates.getAssociatedTokenAddressWithProgramId owner mint tokenProgram
  | .feeConfig => feeConfigPda crates
  | .sharingConfig mint => sharingConfigPda crates mint
  | .bondingCurve mint => bondingCurvePda crates mint
  | .pumpCreatorVault creator => pumpCreatorVaultPda crates creator
  | .pumpPoolAuthority mint => pumpPoolAuthorityPda crates mint
  | .tokenMetadata mint => tokenMetadataPda crates mint

/-- The program that the address is derived under. -/
def program : Derivation → Pubkey
  | .pool _ _ _ _ => pumpSwapProgramId
  | .lpMint _ => pumpSwapProgramId
  | .userVolAccumulator _ => pumpSwapProgramId
  | .coinCreatorVaultAuthority _ => pumpSwapProgramId
  | .poolV2 _ => pumpSwapProgramId
  | .associatedTokenAccount _ _ _ => SplAssociatedTokenAccount.id
  | .feeConfig => feeProgram
  | .sharingConfig _ => feeProgram
  | .bondingCurve _ => pumpfunProgram
  | .pumpCreatorVault _ => pumpfunProgram
  | .pumpPoolAuthority _ => pumpfunProgram
  | .tokenMetadata _ => tokenMetadataProgram

def seeds : Derivation → List (List U8)
  | .pool index creator baseMint quoteMint =>
      [ascii "pool", toBytes 2 index, creator.bytes, baseMint.bytes, quoteMint.bytes]
  | .lpMint poolAddress => [ascii "pool_lp_mint", poolAddress.bytes]
  | .userVolAccumulator user => [ascii "user_volume_accumulator", user.bytes]
  | .coinCreatorVaultAuthority coinCreator => [ascii "creator_vault", coinCreator.bytes]
  | .poolV2 baseMint => [ascii "pool-v2", baseMint.bytes]
  | .associatedTokenAccount owner tokenProgram mint =>
      [owner.bytes, tokenProgram.bytes, mint.bytes]
  | .feeConfig => [ascii "fee_config", pumpSwapProgramId.bytes]
  | .sharingConfig mint => [ascii "sharing-config", mint.bytes]
  | .bondingCurve mint => [ascii "bonding-curve", mint.bytes]
  | .pumpCreatorVault creator => [ascii "creator-vault", creator.bytes]
  | .pumpPoolAuthority mint => [ascii "pool-authority", mint.bytes]
  | .tokenMetadata mint => [ascii "metadata", tokenMetadataProgram.bytes, mint.bytes]

end Derivation

/-! ## Reading the seeds back -/

/-- An address is read back where it was written. -/
theorem pubkeyAt_append (front : List U8) (key : Pubkey) (rest : List U8) {n : ℕ}
    (length : front.length = n) : pubkeyAt (front ++ (key.bytes ++ rest)) n = key := by
  refine Pubkey.ext_bytes (List.ext_getElem (by simp [pubkeyAt, key.length_eq]) ?_)
  intro i _ inside
  have inside' : n + i < (front ++ (key.bytes ++ rest)).length := by
    rw [List.length_append, List.length_append]
    omega
  simp only [pubkeyAt, List.getElem_ofFn, byteAt]
  rw [List.getD_eq_getElem _ _ inside', List.getElem_append_right (by omega),
    List.getElem_append_left (by omega)]
  simp only [length, Nat.add_sub_cancel_left]

/-- An address at the end is read back where it was written. -/
theorem pubkeyAt_append_end (front : List U8) (key : Pubkey) {n : ℕ}
    (length : front.length = n) : pubkeyAt (front ++ key.bytes) n = key := by
  simpa using pubkeyAt_append front key [] length

namespace Derivation

/-- The derivation that seeds belong to, of those under pump-amm. Their lengths differ. -/
def ofPumpSwapSeeds (bytes : List U8) : Option Derivation :=
  if bytes.length = 102 then
    some (.pool (ofBytes 2 ((bytes.drop 4).take 2)) (pubkeyAt bytes 6) (pubkeyAt bytes 38)
      (pubkeyAt bytes 70))
  else if bytes.length = 44 then some (.lpMint (pubkeyAt bytes 12))
  else if bytes.length = 55 then some (.userVolAccumulator (pubkeyAt bytes 23))
  else if bytes.length = 45 then some (.coinCreatorVaultAuthority (pubkeyAt bytes 13))
  else if bytes.length = 39 then some (.poolV2 (pubkeyAt bytes 7))
  else none

/-- Of those under pump.fun. A curve and a vault have seeds of one length, but not one tag. -/
def ofPumpfunSeeds (bytes : List U8) : Option Derivation :=
  if bytes.length = 46 then some (.pumpPoolAuthority (pubkeyAt bytes 14))
  else if bytes.take 13 = ascii "bonding-curve" then some (.bondingCurve (pubkeyAt bytes 13))
  else if bytes.take 13 = ascii "creator-vault" then some (.pumpCreatorVault (pubkeyAt bytes 13))
  else none

/-- The derivation that seeds belong to. -/
def ofSeeds (program : Pubkey) (bytes : List U8) : Option Derivation :=
  if program = pumpSwapProgramId then ofPumpSwapSeeds bytes
  else if program = pumpfunProgram then ofPumpfunSeeds bytes
  else if program = feeProgram then
    if bytes.length = 42 then some .feeConfig else some (.sharingConfig (pubkeyAt bytes 14))
  else if program = tokenMetadataProgram then some (.tokenMetadata (pubkeyAt bytes 40))
  else if program = SplAssociatedTokenAccount.id then
    some (.associatedTokenAccount (pubkeyAt bytes 0) (pubkeyAt bytes 32) (pubkeyAt bytes 64))
  else none

/-- The programs are five. -/
theorem programs_nodup :
    [pumpSwapProgramId, pumpfunProgram, feeProgram, tokenMetadataProgram,
      SplAssociatedTokenAccount.id].Nodup := by
  decide +kernel

/-- A two-byte word is read back where it was written. -/
theorem ofBytes_index (index : U16) (front rest : List U8) (length : front.length = 4) :
    ofBytes 2 (((front ++ (toBytes 2 index ++ rest)).drop 4).take 2) = index := by
  rw [List.drop_left' length, List.take_left' (length_toBytes 2 index), ofBytes_toBytes]

theorem ofPumpSwapSeeds_pool (index : U16) (creator baseMint quoteMint : Pubkey) :
    ofPumpSwapSeeds (Derivation.pool index creator baseMint quoteMint).seeds.flatten =
      some (.pool index creator baseMint quoteMint) := by
  have length : (Derivation.pool index creator baseMint quoteMint).seeds.flatten.length = 102 := by
    simp [seeds, Pubkey.length_eq, ascii]
  have first := pubkeyAt_append (ascii "pool" ++ toBytes 2 index) creator
    (baseMint.bytes ++ quoteMint.bytes) (n := 6) (by simp [ascii])
  have second := pubkeyAt_append (ascii "pool" ++ toBytes 2 index ++ creator.bytes) baseMint
    quoteMint.bytes (n := 38) (by simp [ascii, Pubkey.length_eq])
  have third := pubkeyAt_append_end
    (ascii "pool" ++ toBytes 2 index ++ creator.bytes ++ baseMint.bytes) quoteMint (n := 70)
    (by simp [ascii, Pubkey.length_eq])
  rw [ofPumpSwapSeeds, if_pos length]
  simp only [seeds, List.flatten_cons, List.flatten_nil, List.append_nil, List.append_assoc]
    at first second third ⊢
  rw [first, second, third, ofBytes_index index _ _ rfl]

/-- A tag and a key: how long they are together, and the tag and the key read back. -/
theorem read_tagged (tag : List U8) (key : Pubkey) {n : ℕ} (length : tag.length = n) :
    [tag, key.bytes].flatten.length = n + 32 ∧ [tag, key.bytes].flatten.take n = tag ∧
      pubkeyAt [tag, key.bytes].flatten n = key := by
  simp only [List.flatten_cons, List.flatten_nil, List.append_nil]
  refine ⟨?_, List.take_left' length, pubkeyAt_append_end tag key length⟩
  rw [List.length_append, length, key.length_eq]

/-- **Seeds tell what they were put together for.** -/
theorem ofSeeds_seeds (d : Derivation) : ofSeeds d.program d.seeds.flatten = some d := by
  have programs := programs_nodup
  simp only [List.nodup_cons, List.mem_cons, List.not_mem_nil, or_false, not_or, ← ne_eq]
    at programs
  obtain ⟨⟨a₁, a₂, a₃, a₄⟩, ⟨b₁, b₂, b₃⟩, ⟨c₁, c₂⟩, d₁, -⟩ := programs
  cases d with
  | pool index creator baseMint quoteMint =>
      rw [ofSeeds, program, if_pos rfl, ofPumpSwapSeeds_pool]
  | lpMint poolAddress =>
      obtain ⟨length, -, key⟩ := read_tagged (ascii "pool_lp_mint") poolAddress (n := 12) rfl
      rw [seeds, ofSeeds, program, if_pos rfl]
      simp [ofPumpSwapSeeds, length, key, -List.flatten_cons]
  | userVolAccumulator user =>
      obtain ⟨length, -, key⟩ :=
        read_tagged (ascii "user_volume_accumulator") user (n := 23) rfl
      rw [seeds, ofSeeds, program, if_pos rfl]
      simp [ofPumpSwapSeeds, length, key, -List.flatten_cons]
  | coinCreatorVaultAuthority coinCreator =>
      obtain ⟨length, -, key⟩ := read_tagged (ascii "creator_vault") coinCreator (n := 13) rfl
      rw [seeds, ofSeeds, program, if_pos rfl]
      simp [ofPumpSwapSeeds, length, key, -List.flatten_cons]
  | poolV2 baseMint =>
      obtain ⟨length, -, key⟩ := read_tagged (ascii "pool-v2") baseMint (n := 7) rfl
      rw [seeds, ofSeeds, program, if_pos rfl]
      simp [ofPumpSwapSeeds, length, key, -List.flatten_cons]
  | associatedTokenAccount owner tokenProgram mint =>
      have first := pubkeyAt_append [] owner (tokenProgram.bytes ++ mint.bytes) (n := 0) rfl
      have second := pubkeyAt_append owner.bytes tokenProgram mint.bytes owner.length_eq
      have third := pubkeyAt_append_end (owner.bytes ++ tokenProgram.bytes) mint (n := 64)
        (by simp [Pubkey.length_eq])
      rw [seeds, ofSeeds, program, if_neg a₄.symm, if_neg b₃.symm, if_neg c₂.symm, if_neg d₁.symm,
        if_pos rfl]
      simp only [List.flatten_cons, List.flatten_nil, List.append_nil, List.append_assoc,
        List.nil_append] at first second third ⊢
      rw [first, second, third]
  | feeConfig =>
      obtain ⟨length, -, -⟩ := read_tagged (ascii "fee_config") pumpSwapProgramId (n := 10) rfl
      rw [seeds, ofSeeds, program, if_neg a₂.symm, if_neg b₁.symm, if_pos rfl, if_pos length]
  | sharingConfig mint =>
      obtain ⟨length, -, key⟩ := read_tagged (ascii "sharing-config") mint (n := 14) rfl
      rw [seeds, ofSeeds, program, if_neg a₂.symm, if_neg b₁.symm, if_pos rfl]
      simp [length, key, -List.flatten_cons]
  | bondingCurve mint =>
      obtain ⟨length, tag, key⟩ := read_tagged (ascii "bonding-curve") mint (n := 13) rfl
      rw [seeds, ofSeeds, program, if_neg a₁.symm, if_pos rfl]
      simp [ofPumpfunSeeds, length, tag, key, -List.flatten_cons]
  | pumpCreatorVault creator =>
      obtain ⟨length, tag, key⟩ := read_tagged (ascii "creator-vault") creator (n := 13) rfl
      have other : ascii "creator-vault" ≠ ascii "bonding-curve" := by decide
      rw [seeds, ofSeeds, program, if_neg a₁.symm, if_pos rfl]
      simp [ofPumpfunSeeds, length, tag, key, other, -List.flatten_cons]
  | pumpPoolAuthority mint =>
      obtain ⟨length, -, key⟩ := read_tagged (ascii "pool-authority") mint (n := 14) rfl
      rw [seeds, ofSeeds, program, if_neg a₁.symm, if_pos rfl]
      simp [ofPumpfunSeeds, length, key, -List.flatten_cons]
  | tokenMetadata mint =>
      have key := pubkeyAt_append_end (ascii "metadata" ++ tokenMetadataProgram.bytes) mint
        (n := 40) (by simp [ascii, Pubkey.length_eq])
      rw [seeds, ofSeeds, program, if_neg a₃.symm, if_neg b₂.symm, if_neg c₁.symm, if_pos rfl]
      simp only [List.flatten_cons, List.flatten_nil, List.append_nil, List.append_assoc]
        at key ⊢
      rw [key]

end Derivation

/-! ## The hashed string -/

/-- The string that is hashed for an address. -/
def hashInput (seeds : List (List U8)) (bump : U8) (program : Pubkey) : List U8 :=
  seeds.flatten ++ ([bump] ++ (program.bytes ++ ascii "ProgramDerivedAddress"))

/-- What the crates that derive addresses document: the address is the hash of the seeds, the bump
it comes with, the program and a marker, and a token account is derived from its owner, token
program and mint. -/
structure Crates.HashesSeeds (crates : Crates) (hash : List U8 → Pubkey) : Prop where
  derives : ∀ seeds program, (crates.findProgramAddress seeds program).1 =
    hash (hashInput seeds (crates.findProgramAddress seeds program).2 program)
  associated : ∀ owner mint tokenProgram,
    crates.getAssociatedTokenAddressWithProgramId owner mint tokenProgram =
      (crates.findProgramAddress [owner.bytes, tokenProgram.bytes, mint.bytes]
        SplAssociatedTokenAccount.id).1

/-- The string tells the seeds one after another, and the program. -/
theorem hashInput_eq_iff {seeds seeds' : List (List U8)} {bump bump' : U8}
    {program program' : Pubkey} :
    hashInput seeds bump program = hashInput seeds' bump' program' ↔
      seeds.flatten = seeds'.flatten ∧ bump = bump' ∧ program = program' := by
  constructor
  · intro same
    obtain ⟨front, back⟩ := List.append_inj' same (by simp [Pubkey.length_eq])
    obtain ⟨bumps, back⟩ := List.append_inj back rfl
    obtain ⟨programs, -⟩ := List.append_inj' back rfl
    exact ⟨front, (List.cons.inj bumps).1, Pubkey.ext_bytes programs⟩
  · rintro ⟨front, rfl, rfl⟩
    rw [hashInput, hashInput, front]

namespace Derivation

variable {crates : Crates} {hash : List U8 → Pubkey}

/-- The string that is hashed for a derivation, with the bump that is found for it. -/
def input (crates : Crates) (d : Derivation) : List U8 :=
  hashInput d.seeds (crates.findProgramAddress d.seeds d.program).2 d.program

/-- The SDK's functions hash the seeds listed here. -/
theorem address_eq_hash (hashes : crates.HashesSeeds hash) (d : Derivation) :
    d.address crates = hash (d.input crates) := by
  rw [input, ← hashes.derives]
  cases d with
  | associatedTokenAccount owner tokenProgram mint =>
      exact hashes.associated owner mint tokenProgram
  | _ => rfl

/-- A user's account of a pool's LP token, whose seeds the SDK lists itself, is the associated
account under Token-2022. -/
theorem calcUserPoolTokenAccount_eq_address (hashes : crates.HashesSeeds hash)
    (creator lpMint : Pubkey) :
    (calcUserPoolTokenAccount crates creator lpMint).1 =
      (Derivation.associatedTokenAccount creator SplToken2022.id lpMint).address crates :=
  (hashes.associated creator lpMint SplToken2022.id).symm

theorem input_injective (crates : Crates) : Function.Injective (input crates) := by
  intro a b same
  obtain ⟨front, -, programs⟩ := hashInput_eq_iff.mp same
  have found := ofSeeds_seeds a
  rw [front, programs, ofSeeds_seeds b] at found
  exact (Option.some.inj found).symm

end Derivation

/-- **Derived addresses are separate.** Each program address and token account that the SDK derives
is the hash of a string that the SDK hashes for no other address: two derivations have one address
only if they are the same derivation, or the hash collides on their two strings. -/
theorem derived_addresses_separate (crates : Crates) (hash : List U8 → Pubkey)
    (hashes : crates.HashesSeeds hash) :
    (∀ d : Derivation, d.address crates = hash (d.input crates)) ∧
      ∀ a b : Derivation, a.address crates = b.address crates →
        a = b ∨ a.input crates ≠ b.input crates ∧
          hash (a.input crates) = hash (b.input crates) := by
  refine ⟨Derivation.address_eq_hash hashes, ?_⟩
  intro a b same
  rw [Derivation.address_eq_hash hashes, Derivation.address_eq_hash hashes] at same
  by_cases equal : a = b
  · exact Or.inl equal
  · exact Or.inr ⟨fun inputs => equal (Derivation.input_injective crates inputs), same⟩

namespace Recorded

/-- A hash that gives the recorded coin's sharing config on the string that is hashed for it. -/
def hash (input : List U8) : Pubkey :=
  if input = hashInput [ascii "sharing-config", mint.bytes] 253 feeProgram then sharingConfig
  else Pubkey.default

def hashingCrates : Crates :=
  { Recorded.crates with
    findProgramAddress := fun seeds program => (hash (hashInput seeds 253 program), 253)
    getAssociatedTokenAddressWithProgramId := fun owner mint tokenProgram =>
      hash (hashInput [owner.bytes, tokenProgram.bytes, mint.bytes] 253
        SplAssociatedTokenAccount.id) }

theorem hashingCrates_hashesSeeds : hashingCrates.HashesSeeds hash where
  derives := fun _ _ => rfl
  associated := fun _ _ _ => rfl

end Recorded

/-- The recorded sharing config is the hash of the recorded mint's string, and of no other sharing
config's unless the hash collides. -/
theorem derived_addresses_separate_recorded :
    Recorded.sharingConfig =
        Recorded.hash ((Derivation.sharingConfig Recorded.mint).input Recorded.hashingCrates) ∧
      ∀ other : Pubkey, sharingConfigPda Recorded.hashingCrates other = Recorded.sharingConfig →
        Derivation.sharingConfig other = .sharingConfig Recorded.mint ∨
          (Derivation.sharingConfig other).input Recorded.hashingCrates ≠
              (Derivation.sharingConfig Recorded.mint).input Recorded.hashingCrates ∧
            Recorded.hash ((Derivation.sharingConfig other).input Recorded.hashingCrates) =
              Recorded.hash
                ((Derivation.sharingConfig Recorded.mint).input Recorded.hashingCrates) := by
  obtain ⟨hashed, separate⟩ := derived_addresses_separate Recorded.hashingCrates Recorded.hash
    Recorded.hashingCrates_hashesSeeds
  have derived : (Derivation.sharingConfig Recorded.mint).address Recorded.hashingCrates =
      Recorded.sharingConfig := by
    rw [hashed, Recorded.hash, if_pos]
    rfl
  refine ⟨derived ▸ hashed _, ?_⟩
  intro other same
  exact separate _ _ (same.trans derived.symm)

end PumpSwapSdk
