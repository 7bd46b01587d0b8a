import PumpSwapSdk.Client.SellClose
import PumpSwapSdk.Client.UserBank

/-!
# A user's accounts and the ledger of token accounts

A user's accounts hold lamports and are under programs and owners. The ledger of token accounts
keeps only their mints and balances, and prices a swap by one amount. What an instruction of a swap
sequence does to the accounts, on a chain of which the documentation holds, it does to the ledger:
as long as the payer is a wallet, and at the price that pump-amm fills the swap for.
-/

set_option autoImplicit false

namespace PumpSwapSdk

open Foundation.AccountBank
open Foundation.TokenLedger (debit credit)

variable {crates : Crates} {chain : Chain} {poolInfo : PoolInfo}
variable {payer wsolAcc user tokenProgram : Pubkey} {priced first second : U64}
variable {bank next : UserBank} {base quote : Leg} {tag : List U8} {ix : Instruction} {fill : Fill}

/-- What an instruction does to accounts, among them the payer's wallet, it does to their ledger. -/
def FollowsLedger (crates : Crates) (chain : Chain) (payer : Pubkey) (priced : U64) (ix : Ix) :
    Prop :=
  ∀ bank next, IsWallet bank payer → chain.execute bank ix = some next →
    IsWallet next payer ∧ performIx crates priced (ledger bank) ix = some (ledger next)

/-! ## Swaps -/

/-- On the ledger, a swap is told by its tag. -/
theorem performSwap_of_swapOver (swap : SwapOver user base quote tag first second ix)
    (tokens : Tokens) :
    performSwap priced tokens ix =
      if tag = SellInstruction.discriminator then
        (debit tokens base.account base.mint first.toNat).bind fun tokens =>
          credit (2 ^ 64) tokens quote.account quote.mint priced.toNat
      else if tag = BuyExactQuoteInInstruction.discriminator then
        (debit tokens quote.account quote.mint first.toNat).bind fun tokens =>
          credit (2 ^ 64) tokens base.account base.mint priced.toNat
      else
        (debit tokens quote.account quote.mint priced.toNat).bind fun tokens =>
          credit (2 ^ 64) tokens base.account base.mint first.toNat := by
  have tagged : ix.data.take 8 = tag := by
    have own := swap.tagged tag
    rw [decide_eq_true rfl, Instruction.hasTag, Bool.and_eq_true] at own
    exact of_decide_eq_true own.2
  obtain ⟨baseKey, from_base, baseMint, base_mint, rfl⟩ : ∃ key, ix.key 5 = some key ∧
      ∃ mint, ix.key 3 = some mint ∧ ⟨key, mint⟩ = base := by
    simpa [Instruction.leg, Option.bind_eq_some_iff] using swap.base
  obtain ⟨quoteKey, from_quote, quoteMint, quote_mint, rfl⟩ : ∃ key, ix.key 6 = some key ∧
      ∃ mint, ix.key 4 = some mint ∧ ⟨key, mint⟩ = quote := by
    simpa [Instruction.leg, Option.bind_eq_some_iff] using swap.quote
  simp only [performSwap, from_base, base_mint, from_quote, quote_mint, swap.first, tagged,
    Option.bind_eq_bind, Option.bind_some]

/-- What a fill leaves of the ledger: the charge is not on it. -/
theorem apply_ledger {spends earns : Leg}
    (applied : fill.apply user spends earns bank = some next) :
    ((debit (ledger bank) spends.account spends.mint fill.spent.toNat).bind fun tokens =>
      credit (2 ^ 64) tokens earns.account earns.mint fill.received.toNat) =
        some (ledger next) := by
  simp only [Fill.apply, Option.bind_eq_bind, Option.bind_eq_some_iff] at applied
  obtain ⟨charged, paid, between, spent, earned⟩ := applied
  rw [← ledger_pay paid, ledger_spend spent, Option.bind_some, ledger_earn earned]

theorem isWallet_apply {spends earns : Leg} (wallet : IsWallet bank payer)
    (applied : fill.apply user spends earns bank = some next) : IsWallet next payer := by
  simp only [Fill.apply, Option.bind_eq_bind, Option.bind_eq_some_iff] at applied
  obtain ⟨charged, paid, between, spent, earned⟩ := applied
  exact ((wallet.pay paid).spend spent).earn earned

section Documented

variable (documented : chain.Documented crates)

include documented

section Swaps

variable (isSwap : ix.isSwap) (filled : chain.swap ix = some fill)

include isSwap filled

/-- A `buy` prices what it spends. -/
theorem follows_buy
    (swap : SwapOver user base quote BuyInstruction.discriminator first second ix) :
    FollowsLedger crates chain payer fill.spent (.own ix) := by
  intro bank next wallet executed
  rw [documented.buys _ _ _ _ _ _ _ swap, filled, Option.bind_some] at executed
  have received := (documented.buy_terms _ _ _ _ _ _ swap fill filled).2
  have sell : BuyInstruction.discriminator ≠ SellInstruction.discriminator := by decide
  have exact_in : BuyInstruction.discriminator ≠ BuyExactQuoteInInstruction.discriminator := by
    decide
  refine ⟨isWallet_apply wallet executed, ?_⟩
  rw [performIx, if_pos isSwap, performSwap_of_swapOver swap, if_neg sell, if_neg exact_in,
    ← received]
  exact apply_ledger executed

/-- A `buy_exact_quote_in` prices what it receives. -/
theorem follows_buyExactQuoteIn
    (swap : SwapOver user base quote BuyExactQuoteInInstruction.discriminator first second ix) :
    FollowsLedger crates chain payer fill.received (.own ix) := by
  intro bank next wallet executed
  rw [documented.buys_exact_quote_in _ _ _ _ _ _ _ swap, filled, Option.bind_some] at executed
  have spent := (documented.buy_exact_quote_in_terms _ _ _ _ _ _ swap fill filled).2.1
  have sell : BuyExactQuoteInInstruction.discriminator ≠ SellInstruction.discriminator := by
    decide
  refine ⟨isWallet_apply wallet executed, ?_⟩
  rw [performIx, if_pos isSwap, performSwap_of_swapOver swap, if_neg sell, if_pos rfl, ← spent]
  exact apply_ledger executed

/-- A `sell` prices what it receives. -/
theorem follows_sell
    (swap : SwapOver user base quote SellInstruction.discriminator first second ix) :
    FollowsLedger crates chain payer fill.received (.own ix) := by
  intro bank next wallet executed
  rw [documented.sells _ _ _ _ _ _ _ swap, filled, Option.bind_some] at executed
  have spent := (documented.sell_terms _ _ _ _ _ _ swap fill filled).1
  refine ⟨isWallet_apply wallet executed, ?_⟩
  rw [performIx, if_pos isSwap, performSwap_of_swapOver swap, if_pos rfl, ← spent]
  exact apply_ledger executed

end Swaps

/-! ## The other instructions -/

variable {extension : Option Ix} {other : Ix} {seed : String} {lamports : U64} {createAta : Bool}

/-- What extends the pool account costs lamports of the wallet only. -/
theorem follows_extension (extended : maybeExtendPoolIx poolInfo payer = .ok extension)
    (member : other ∈ extension.toList) : FollowsLedger crates chain payer priced other := by
  obtain ⟨_, own, unswapped⟩ := mem_extension extended member
  rw [Option.mem_toList] at member
  subst member
  rcases maybeExtendPoolIx_eq_ok extended with absent | ⟨ix, built, returned⟩
  · cases absent
  · obtain rfl := Option.some.inj returned
    obtain rfl := Ix.own.inj own
    intro bank next wallet executed
    rw [documented.extends_account _ _ _ _ built, Option.bind_eq_some_iff] at executed
    obtain ⟨charge, -, paid⟩ := executed
    rw [performIx, if_neg unswapped, ledger_pay paid]
    exact ⟨wallet.pay paid, rfl⟩

/-- The opening of a sequence does to the ledger what it does to the accounts. -/
theorem follows_opening (extended : maybeExtendPoolIx poolInfo payer = .ok extension)
    (derived : crates.createWithSeed payer seed SplToken.id = .ok wsolAcc)
    (member : other ∈ openingIxs crates poolInfo payer createAta extension wsolAcc seed lamports) :
    FollowsLedger crates chain payer priced other := by
  rcases List.mem_append.mp member with early | creation
  · rcases List.mem_append.mp early with extends_pool | opened
    · exact follows_extension documented extended extends_pool
    · intro bank next wallet executed
      simp only [List.mem_cons, List.not_mem_nil, or_false] at opened
      rcases opened with rfl | rfl
      · rw [documented.allocates _ _ _ _ _ _ _ _ derived] at executed
        exact ⟨wallet.allocate executed, ledger_allocate executed⟩
      · rw [documented.initialises] at executed
        exact ⟨wallet.initialise executed, ledger_initialise executed⟩
  · obtain ⟨_, rfl⟩ : createAta = true ∧ other =
        .createAssociatedTokenAccountIdempotent payer payer poolInfo.tokenMint
          poolInfo.tokenProgram := by
      cases createAta with
      | false => simp [createAtaTokenOrNotWithProgram] at creation
      | true => simpa [createAtaTokenOrNotWithProgram] using creation
    intro bank next wallet executed
    rw [documented.creates] at executed
    refine ⟨wallet.create executed, ?_⟩
    rw [performIx, ledger_create executed, apply_ite some]

/-- Closing an account under a program that the token crate serves closes it on the ledger. -/
theorem follows_closeAccount {account owner : Pubkey}
    (served : crates.checkProgramAccount tokenProgram = .ok ()) :
    FollowsLedger crates chain payer priced (.closeAccount tokenProgram account payer owner) := by
  intro bank next wallet executed
  rw [documented.closes _ _ _ _ _ served] at executed
  exact ⟨wallet.close executed, ledger_close wallet executed⟩

theorem follows_closing {ata : Pubkey} {closes : Bool} {closing : List Ix}
    (closed : closeAtaIxs crates poolInfo ata payer closes = .ok closing)
    (member : other ∈ closing) : FollowsLedger crates chain payer priced other := by
  unfold closeAtaIxs splTokenCloseAccount at closed
  cases closes with
  | false =>
      obtain rfl := Except.ok.inj closed
      cases member
  | true =>
      simp only [if_true, bind_eq_ok_iff, Except.ok.injEq] at closed
      obtain ⟨_, ⟨_, served, rfl⟩, rfl⟩ := closed
      obtain rfl := List.mem_singleton.mp member
      exact follows_closeAccount documented served

end Documented

end PumpSwapSdk
