import PumpSwapSdk.Client.Funding
import PumpSwapSdk.Foundation.AccountBank
import PumpSwapSdk.Foundation.StaleRead

/-!
# What an instruction does to its user's accounts

The accounts here are those of one user: the wallet and token accounts. The programs that execute
an instruction are not part of this repository. They are a parameter (`Chain`), with what is
documented of them as its hypotheses (`Chain.Documented`): what the system program, the token
programs and the program of associated accounts do with the instructions of a swap sequence, and
which account pump-amm's swap spends from and which it earns into, within the terms the
instruction states. What pump-amm prices and charges, and what it refuses, is up to the chain.

The fee of the transaction, the lamports that a wallet has to keep for its own rent, and what the
pool and the fee recipients hold, are no part of it.
-/

set_option autoImplicit false

namespace PumpSwapSdk

open Foundation.AccountBank
open Foundation.LittleEndian

/-- A user's accounts by address. -/
abbrev UserBank := Bank Pubkey Pubkey Pubkey

/-- The user's account of a mint. -/
structure Leg where
  account : Pubkey
  mint : Pubkey
deriving DecidableEq

/-! ## Swap instructions -/

namespace Instruction

/-- An instruction of pump-amm with a tag. -/
def hasTag (ix : Instruction) (tag : List U8) : Bool :=
  ix.programId = pumpSwapProgramId && ix.data.take 8 = tag

/-- The first account that signs. -/
def user (ix : Instruction) : Option Pubkey :=
  (ix.accounts.find? AccountMeta.isSigner).map AccountMeta.pubkey

/-- The account at position `account` of the mint at position `mint`. -/
def leg (ix : Instruction) (account mint : ℕ) : Option Leg := do
  let key ← ix.key account
  let mint ← ix.key mint
  some ⟨key, mint⟩

end Instruction

/-- A swap as pump-amm reads it: by a tag and two words, for a user, between a base account at
position 5 and a quote account at position 6, of the mints at positions 3 and 4. -/
structure SwapOver (user : Pubkey) (base quote : Leg) (tag : List U8) (first second : U64)
    (ix : Instruction) : Prop where
  user : ix.user = some user
  tagged : ∀ other, ix.hasTag other = decide (tag = other)
  first : wordAt? 8 ix.data 8 = some first
  second : wordAt? 8 ix.data 16 = some second
  base : ix.leg 5 3 = some base
  quote : ix.leg 6 4 = some quote

section Swaps

variable {crates : Crates} {choices : Choices} {poolInfo : PoolInfo}
variable {user userBaseAcc userQuoteAcc : Pubkey} {ix : Instruction} {first second : U64}

/-- An instruction of pump-amm has the tag its data starts with, and no other. -/
theorem hasTag_of_data (tag rest : List U8) (length : tag.length = 8)
    (program : ix.programId = pumpSwapProgramId) (data : ix.data = tag ++ rest) (other : List U8) :
    ix.hasTag other = decide (tag = other) := by
  rw [Instruction.hasTag, program, data, List.take_left' length]
  simp

/-- Every swap instruction is one. -/
theorem swapOver_of_data {kind : SwapKind} {tag data rest : List U8} (length : tag.length = 8)
    (shape : data = tag ++ toBytes 8 first ++ toBytes 8 second ++ rest) :
    SwapOver user ⟨userBaseAcc, poolInfo.baseMint⟩ ⟨userQuoteAcc, poolInfo.quoteMint⟩ tag first
      second ⟨pumpSwapProgramId,
        swapAccounts crates choices poolInfo user userBaseAcc userQuoteAcc kind, data⟩ := by
  refine ⟨rfl, ?_, ?_, ?_, rfl, rfl⟩
  · refine hasTag_of_data tag (toBytes 8 first ++ toBytes 8 second ++ rest) length rfl ?_
    rw [shape, List.append_assoc, List.append_assoc, List.append_assoc]
  · rw [shape, List.append_assoc (tag ++ toBytes 8 first)]
    exact wordAt?_append (n := 8) length first
  · rw [shape]
    refine wordAt?_append (n := 8) ?_ second
    rw [List.length_append, length, length_toBytes]

theorem swapOver_buy {trackVolume : Bool}
    (built : makeBuyInstruction crates choices first second trackVolume poolInfo user userBaseAcc
      userQuoteAcc = .ok ix) :
    SwapOver user ⟨userBaseAcc, poolInfo.baseMint⟩ ⟨userQuoteAcc, poolInfo.quoteMint⟩
      BuyInstruction.discriminator first second ix := by
  obtain rfl := Except.ok.inj built
  exact swapOver_of_data rfl rfl

theorem swapOver_buyExactQuoteIn {trackVolume : Bool}
    (built : makeBuyExactQuoteInInstruction crates choices first second trackVolume poolInfo user
      userBaseAcc userQuoteAcc = .ok ix) :
    SwapOver user ⟨userBaseAcc, poolInfo.baseMint⟩ ⟨userQuoteAcc, poolInfo.quoteMint⟩
      BuyExactQuoteInInstruction.discriminator first second ix := by
  obtain rfl := Except.ok.inj built
  exact swapOver_of_data rfl rfl

theorem swapOver_sell
    (built : makeSellInstruction crates choices first second poolInfo user userBaseAcc
      userQuoteAcc = .ok ix) :
    SwapOver user ⟨userBaseAcc, poolInfo.baseMint⟩ ⟨userQuoteAcc, poolInfo.quoteMint⟩
      SellInstruction.discriminator first second ix := by
  obtain rfl := Except.ok.inj built
  exact swapOver_of_data rfl (List.append_nil _).symm

end Swaps

/-! ## The programs -/

/-- What pump-amm makes of a swap: the lamports it charges its user, and the amounts the user
spends and receives. -/
structure Fill where
  charge : ℕ
  spent : U64
  received : U64
deriving DecidableEq

/-- What a swap leaves of its user's accounts. The user spends from one and earns into the
other. -/
def Fill.apply (fill : Fill) (user : Pubkey) (spends earns : Leg) (bank : UserBank) :
    Option UserBank := do
  let bank ← pay bank user fill.charge
  let bank ← spend wrappedSolMint bank spends.account spends.mint user fill.spent.toNat
  earn wrappedSolMint (2 ^ 64) bank earns.account earns.mint fill.received.toNat

/-- The programs that a user's transaction runs on, in their state of the moment. -/
structure Chain where
  /-- What an instruction does to its user's accounts; `none` when it is refused. -/
  execute : UserBank → Ix → Option UserBank
  /-- What pump-amm makes of a swap; `none` when it refuses it. -/
  swap : Instruction → Option Fill
  /-- The lamports pump-amm charges for extending an account; `none` when it refuses to. -/
  extension : Instruction → Option ℕ
  /-- The rent of a new account of a mint under a token program; `none` when there can be none. -/
  rent : Pubkey → Pubkey → Option ℕ

/-- What is documented of the programs that a swap sequence calls. -/
structure Chain.Documented (crates : Crates) (chain : Chain) : Prop where
  /-- The system program allocates the account of a seed, for the program that owns it. -/
  allocates : ∀ bank payer key base seed (lamports space : U64) program,
    crates.createWithSeed base seed program = .ok key →
      chain.execute bank (.createAccountWithSeed payer key base seed lamports space program) =
        allocate bank payer key program space.toNat lamports.toNat
  /-- The token program initialises an account that is rent exempt. -/
  initialises : ∀ bank account owner,
    chain.execute bank (.initializeAccount SplToken.id account wrappedSolMint owner) =
      initialise wrappedSolMint SplToken.accountLen
        (crates.minimumBalance SplToken.accountLen).toNat bank account SplToken.id wrappedSolMint
        owner
  /-- An associated account is created for its rent, unless it is there. -/
  creates : ∀ bank funder wallet mint program,
    chain.execute bank (.createAssociatedTokenAccountIdempotent funder wallet mint program) =
      create (chain.rent mint program) bank funder
        (crates.getAssociatedTokenAddressWithProgramId wallet mint program) program mint wallet
  /-- A program that the token crate serves closes an account that is empty or of WSOL. -/
  closes : ∀ bank program account destination owner,
    crates.checkProgramAccount program = .ok () →
      chain.execute bank (.closeAccount program account destination owner) =
        close wrappedSolMint bank account destination program owner
  /-- pump-amm charges the user for extending an account. -/
  extends_account : ∀ bank account user ix, makeExtendAccountInstruction account user = .ok ix →
    chain.execute bank (.own ix) = (chain.extension ix).bind fun charge => pay bank user charge
  /-- A `buy` spends quote for base. -/
  buys : ∀ bank user base quote out most ix,
    SwapOver user base quote BuyInstruction.discriminator out most ix →
      chain.execute bank (.own ix) = (chain.swap ix).bind fun fill =>
        fill.apply user quote base bank
  /-- A `buy_exact_quote_in` spends quote for base. -/
  buys_exact_quote_in : ∀ bank user base quote spendable least ix,
    SwapOver user base quote BuyExactQuoteInInstruction.discriminator spendable least ix →
      chain.execute bank (.own ix) = (chain.swap ix).bind fun fill =>
        fill.apply user quote base bank
  /-- A `sell` spends base for quote. -/
  sells : ∀ bank user base quote stated least ix,
    SwapOver user base quote SellInstruction.discriminator stated least ix →
      chain.execute bank (.own ix) = (chain.swap ix).bind fun fill =>
        fill.apply user base quote bank
  /-- A `buy` receives the amount it states, for at most the maximum. -/
  buy_terms : ∀ user base quote out most ix,
    SwapOver user base quote BuyInstruction.discriminator out most ix →
      ∀ fill, chain.swap ix = some fill → fill.spent ≤ most ∧ fill.received = out
  /-- A `buy_exact_quote_in` spends the amount it states for at least the minimum, which must not
  be zero. -/
  buy_exact_quote_in_terms : ∀ user base quote spendable least ix,
    SwapOver user base quote BuyExactQuoteInInstruction.discriminator spendable least ix →
      ∀ fill, chain.swap ix = some fill →
        0 < least ∧ fill.spent = spendable ∧ least ≤ fill.received
  /-- A `sell` spends the amount it states for at least the minimum. -/
  sell_terms : ∀ user base quote stated least ix,
    SwapOver user base quote SellInstruction.discriminator stated least ix →
      ∀ fill, chain.swap ix = some fill → fill.spent = stated ∧ least ≤ fill.received

namespace Chain

variable (chain : Chain)

/-- What pump-amm charges for the extensions of a transaction, if it accepts them all. -/
def extensionOf : List Ix → Option ℕ
  | [] => some 0
  | .own ix :: rest =>
      if ix.isSwap then extensionOf rest
      else do
        let charge ← chain.extension ix
        let charges ← extensionOf rest
        some (charge + charges)
  | _ :: rest => extensionOf rest

/-- What pump-amm makes of the first swap of a transaction. -/
def swapOf : List Ix → Option Fill
  | [] => none
  | .own ix :: rest => if ix.isSwap then chain.swap ix else swapOf rest
  | _ :: rest => swapOf rest

/-- What pump-amm makes of a transaction: its swap, with all that is charged. -/
def fillOf (instructions : List Ix) : Option Fill := do
  let charge ← chain.extensionOf instructions
  let fill ← chain.swapOf instructions
  some { fill with charge := charge + fill.charge }

/-- What pump-amm charges for an extension alone. -/
theorem extensionOf_extension {chain : Chain} {account user : Pubkey} {ix : Instruction}
    (built : makeExtendAccountInstruction account user = .ok ix) :
    chain.extensionOf (some (Ix.own ix)).toList = chain.extension ix := by
  obtain rfl := Except.ok.inj built
  simp [extensionOf, Instruction.isSwap, BuyInstruction.discriminator,
    BuyExactQuoteInInstruction.discriminator, SellInstruction.discriminator]

end Chain

end PumpSwapSdk
