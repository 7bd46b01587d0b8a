import PumpSwapSdk.Client.UserBank

/-!
# The steps of a transaction on a few of its user's accounts

A transaction touches a few accounts, each at its place, and leaves the others alone. Here is what
each instruction leads to on what is at the places, on any chain of which the documentation holds:
under which condition it succeeds, and which of them it changes.
-/

set_option autoImplicit false

namespace PumpSwapSdk

open Foundation.AccountBank
open Foundation.StaleRead

/-- What is at some places. -/
abbrev Contents (Place : Type) := Place → Option (Entry Pubkey Pubkey)

/-- A bank with these contents at the places. -/
noncomputable def overlay {Place : Type} (place : Place → Pubkey) (contents : Contents Place)
    (bank : UserBank) : UserBank :=
  Function.extend place contents bank

/-- A wallet. -/
abbrev walletEntry (lamports : ℕ) : Entry Pubkey Pubkey := ⟨lamports, .wallet⟩

/-- A token account. -/
abbrev tokenEntry (program mint owner : Pubkey) (lamports amount : ℕ) : Entry Pubkey Pubkey :=
  ⟨lamports, .token program mint owner amount⟩

/-- A bank is what it holds at the places, and the rest. -/
theorem eq_overlay {Place : Type} {place : Place → Pubkey} {contents : Contents Place}
    {bank : UserBank} (held : ∀ i, bank (place i) = contents i) :
    bank = overlay place contents bank := by
  rw [overlay, ← funext held, extend_self]

section Places

variable {Place : Type} {place : Place → Pubkey} {contents : Contents Place} {bank : UserBank}
variable {key : Pubkey} {i : Place} {entry : Option (Entry Pubkey Pubkey)}
variable (apart : Function.Injective place)

include apart

theorem overlay_apply (i : Place) : overlay place contents bank (place i) = contents i :=
  apart.extend_apply contents bank i

theorem overlay_eq (at_place : place i = key) (content : contents i = entry) :
    overlay place contents bank key = entry := by
  rw [← at_place, overlay_apply apart, content]

theorem update_overlay [DecidableEq Place] (at_place : place i = key) :
    Function.update (overlay place contents bank) key entry =
      overlay place (Function.update contents i entry) bank := by
  rw [← at_place]
  exact update_extend apart contents bank i entry

end Places

/-- The extension of a pool account fails where pump-amm refuses it. -/
theorem extension_fails {crates : Crates} {chain : Chain} (documented : chain.Documented crates)
    {poolInfo : PoolInfo} {payer : Pubkey} {extension : Option Ix}
    (extended : maybeExtendPoolIx poolInfo payer = .ok extension)
    (refused : chain.extensionOf extension.toList = none) (bank : UserBank) (rest : List Ix) :
    performAll chain.execute bank (extension.toList ++ rest) = none := by
  rcases maybeExtendPoolIx_eq_ok extended with rfl | ⟨own, built, rfl⟩
  · cases refused
  · rw [Chain.extensionOf_extension built] at refused
    rw [Option.toList_some, List.singleton_append, performAll_cons,
      documented.extends_account _ _ _ _ built, refused, Option.bind_none, Option.bind_none]

section Steps

variable {Place : Type} [DecidableEq Place] {place : Place → Pubkey} {contents : Contents Place}
variable {crates : Crates} {chain : Chain} {bank next : UserBank} {ix : Instruction}
variable {mint owner program payer key : Pubkey} {lamports held amount : ℕ} {fill : Fill}
variable {spends earns : Leg}
variable (documented : chain.Documented crates) (apart : Function.Injective place)
variable (wallet account : Place)

/-! ## Accounts -/

section Accounts

include documented apart

/-- Allocating an account moves lamports there. -/
theorem leads_allocate {base : Pubkey} {seed : String} {space funded : U64}
    (derived : crates.createWithSeed base seed program = .ok key)
    (at_wallet : place wallet = payer) (at_account : place account = key)
    (pays : contents wallet = some (walletEntry lamports)) (unused : contents account = none) :
    Leads chain.execute (overlay place contents bank)
      [.createAccountWithSeed payer key base seed funded space program]
      (funded.toNat ≤ lamports)
      (overlay place
        (Function.update (Function.update contents wallet
          (some (walletEntry (lamports - funded.toNat)))) account
          (some ⟨funded.toNat, .allocated program space.toNat⟩)) bank) := by
  apply Leads.single
  intro final
  rw [documented.allocates _ _ _ _ _ _ _ _ derived,
    allocate_eq_some_iff (overlay_eq apart at_wallet pays) (overlay_eq apart at_account unused),
    update_overlay apart at_wallet, update_overlay apart at_account]

/-- An allocated account for WSOL has what exceeds its rent as its balance. -/
theorem leads_initialise (at_account : place account = key)
    (opened : contents account =
      some ⟨lamports, .allocated SplToken.id SplToken.accountLen⟩) :
    Leads chain.execute (overlay place contents bank)
      [.initializeAccount SplToken.id key wrappedSolMint owner]
      ((crates.minimumBalance SplToken.accountLen).toNat ≤ lamports)
      (overlay place
        (Function.update contents account
          (some (tokenEntry SplToken.id wrappedSolMint owner lamports
            (lamports - (crates.minimumBalance SplToken.accountLen).toNat)))) bank) := by
  apply Leads.single
  intro final
  rw [documented.initialises, initialise_eq_some_iff (overlay_eq apart at_account opened),
    update_overlay apart at_account, initialBalance, if_pos rfl]

/-- An idempotent creation opens a token account for its rent where there is none. -/
theorem leads_create {rent : ℕ} (rented : chain.rent mint program = some rent)
    (at_wallet : place wallet = payer) (at_account : place account =
      crates.getAssociatedTokenAddressWithProgramId owner mint program)
    (pays : contents wallet = some (walletEntry lamports)) (unused : contents account = none) :
    Leads chain.execute (overlay place contents bank)
      [.createAssociatedTokenAccountIdempotent payer owner mint program] (rent ≤ lamports)
      (overlay place
        (Function.update (Function.update contents wallet (some (walletEntry (lamports - rent))))
          account (some (tokenEntry program mint owner rent 0))) bank) := by
  apply Leads.single
  intro final
  rw [documented.creates, rented,
    create_eq_some_iff_of_unused (overlay_eq apart at_wallet pays)
      (overlay_eq apart at_account unused),
    update_overlay apart at_wallet, update_overlay apart at_account]

omit [DecidableEq Place] in
/-- An idempotent creation leaves an account that is there as it is. -/
theorem leads_create_there (at_account : place account =
      crates.getAssociatedTokenAddressWithProgramId owner mint program)
    (there : contents account = some (tokenEntry program mint owner held amount)) :
    Leads chain.execute (overlay place contents bank)
      [.createAssociatedTokenAccountIdempotent payer owner mint program] True
      (overlay place contents bank) := by
  apply Leads.single
  intro final
  rw [documented.creates, create_of_token (overlay_eq apart at_account there), Option.some.injEq,
    true_and]
  exact eq_comm

omit [DecidableEq Place] in
/-- An idempotent creation fails where there is no account and none can be opened. -/
theorem create_fails (unrented : chain.rent mint program = none) (at_account : place account =
      crates.getAssociatedTokenAddressWithProgramId owner mint program)
    (unused : contents account = none) :
    chain.execute (overlay place contents bank)
      (.createAssociatedTokenAccountIdempotent payer owner mint program) = none := by
  rw [documented.creates, unrented, create_none_of_unused (overlay_eq apart at_account unused)]

/-- Closing a token account that is empty or of WSOL pays its lamports to the wallet. -/
theorem leads_close (served : crates.checkProgramAccount program = .ok ())
    (other : wallet ≠ account)
    (at_wallet : place wallet = payer) (at_account : place account = key)
    (receives : contents wallet = some (walletEntry lamports))
    (there : contents account = some (tokenEntry program mint owner held amount)) :
    Leads chain.execute (overlay place contents bank)
      [.closeAccount program key payer owner] (mint = wrappedSolMint ∨ amount = 0)
      (overlay place
        (Function.update (Function.update contents account none) wallet
          (some (walletEntry (lamports + held)))) bank) := by
  have distinct : payer ≠ key := by
    rw [← at_wallet, ← at_account]
    exact apart.ne other
  apply Leads.single
  intro final
  rw [documented.closes _ _ _ _ _ served,
    close_eq_some_iff (overlay_eq apart at_account there) distinct
      (overlay_eq apart at_wallet receives),
    update_overlay apart at_account, update_overlay apart at_wallet]

/-- The extension of a pool account costs its charge, if there is one. -/
theorem leads_extension {poolInfo : PoolInfo} {extension : Option Ix} {charge : ℕ}
    (at_wallet : place wallet = payer) (pays : contents wallet = some (walletEntry lamports))
    (extended : maybeExtendPoolIx poolInfo payer = .ok extension)
    (charged : chain.extensionOf extension.toList = some charge) :
    Leads chain.execute (overlay place contents bank) extension.toList (charge ≤ lamports)
      (overlay place (Function.update contents wallet
        (some (walletEntry (lamports - charge)))) bank) := by
  rcases maybeExtendPoolIx_eq_ok extended with rfl | ⟨own, built, rfl⟩
  · obtain rfl := Option.some.inj charged
    refine (Leads.nil _).congr (iff_of_true trivial (Nat.zero_le _)) ?_
    intro _
    rw [Nat.sub_zero, ← pays, Function.update_eq_self]
  · rw [Chain.extensionOf_extension built] at charged
    apply Leads.single
    intro final
    rw [documented.extends_account _ _ _ _ built, charged, Option.bind_some,
      pay_eq_some_iff (overlay_eq apart at_wallet pays), update_overlay apart at_wallet]

end Accounts

/-! ## Trades -/

section Trades

include apart

/-- What a swap leaves: its charge is taken, then what it spends, and then what it earns is
added. -/
theorem apply_eq_some_iff (from_account to_account : Place) {spender earner : Pubkey}
    {into held_into : ℕ} (other : from_account ≠ wallet) (into_wallet : to_account ≠ wallet)
    (distinct : to_account ≠ from_account)
    (at_wallet : place wallet = payer) (at_from : place from_account = spends.account)
    (at_to : place to_account = earns.account)
    (pays : contents wallet = some (walletEntry lamports))
    (source : contents from_account = some (tokenEntry spender spends.mint payer held amount))
    (target : contents to_account = some (tokenEntry earner earns.mint owner held_into into)) :
    fill.apply payer spends earns (overlay place contents bank) = some next ↔
      (fill.charge ≤ lamports ∧ fill.spent.toNat ≤ amount ∧
        into + fill.received.toNat < 2 ^ 64) ∧
      next = overlay place
        (Function.update (Function.update (Function.update contents wallet
          (some (walletEntry (lamports - fill.charge)))) from_account
          (some (tokenEntry spender spends.mint payer
            (follow wrappedSolMint spends.mint held (held - fill.spent.toNat))
            (amount - fill.spent.toNat)))) to_account
          (some (tokenEntry earner earns.mint owner
            (follow wrappedSolMint earns.mint held_into (held_into + fill.received.toNat))
            (into + fill.received.toNat)))) bank := by
  have source_kept : Function.update contents wallet
      (some (walletEntry (lamports - fill.charge))) from_account =
        some (tokenEntry spender spends.mint payer held amount) := by
    rw [Function.update_of_ne other, source]
  have target_kept (spent : Option (Entry Pubkey Pubkey)) :
      Function.update (Function.update contents wallet
        (some (walletEntry (lamports - fill.charge)))) from_account spent to_account =
          some (tokenEntry earner earns.mint owner held_into into) := by
    rw [Function.update_of_ne distinct, Function.update_of_ne into_wallet, target]
  simp only [Fill.apply, Option.bind_eq_bind, Option.bind_eq_some_iff,
    pay_eq_some_iff (overlay_eq apart at_wallet pays), update_overlay apart at_wallet]
  constructor
  · rintro ⟨_, ⟨covered, rfl⟩, _, spent, earned⟩
    obtain ⟨enough, rfl⟩ := (spend_eq_some_iff (overlay_eq apart at_from source_kept)).mp spent
    rw [update_overlay apart at_from] at earned
    obtain ⟨fits, rfl⟩ := (earn_eq_some_iff (overlay_eq apart at_to (target_kept _))).mp earned
    exact ⟨⟨covered, enough, fits⟩, update_overlay apart at_to⟩
  · rintro ⟨⟨covered, enough, fits⟩, rfl⟩
    refine ⟨_, ⟨covered, rfl⟩, _,
      (spend_eq_some_iff (overlay_eq apart at_from source_kept)).mpr ⟨enough, rfl⟩, ?_⟩
    rw [update_overlay apart at_from,
      earn_eq_some_iff (overlay_eq apart at_to (target_kept _))]
    exact ⟨fits, (update_overlay apart at_to).symm⟩

/-- Without the account that it spends from, or that it earns into, nothing is traded. -/
theorem apply_missing (other : account ≠ wallet)
    (at_wallet : place wallet = payer) (at_account : place account = key)
    (pays : contents wallet = some (walletEntry lamports)) (absent : contents account = none)
    (missing : spends.account = key ∨ key ≠ spends.account ∧ earns.account = key) :
    fill.apply payer spends earns (overlay place contents bank) ≠ some next := by
  rintro traded
  simp only [Fill.apply, Option.bind_eq_bind, Option.bind_eq_some_iff,
    pay_eq_some_iff (overlay_eq apart at_wallet pays), update_overlay apart at_wallet] at traded
  obtain ⟨_, ⟨-, rfl⟩, between, spent, earned⟩ := traded
  have still : Function.update contents wallet
      (some (walletEntry (lamports - fill.charge))) account = none := by
    rw [Function.update_of_ne other, absent]
  rcases missing with same | ⟨apart_spent, same⟩
  · rw [same, spend_of_unused (overlay_eq apart at_account still)] at spent
    cases spent
  · have kept : between key = none :=
      (spend_of_ne spent apart_spent).trans (overlay_eq apart at_account still)
    rw [same, earn_of_unused kept] at earned
    cases earned

end Trades

end Steps

end PumpSwapSdk
