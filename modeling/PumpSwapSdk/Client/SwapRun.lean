import PumpSwapSdk.Client.BankSteps
import PumpSwapSdk.Client.SwapTrade

/-!
# What a swap transaction leaves its user with

A swap transaction opens a WSOL account, funds it with all that the swap may spend, and closes it
again. On a chain of which the documentation holds it does to the user's accounts what the call
settles to, within the terms of the call (`swap_settles_iff`). The WSOL account is gone again:
what the swap did not spend and the rent are back in the wallet. On the ledger of token accounts it
does the same (`swap_follows_ledger`).
-/

set_option autoImplicit false

namespace PumpSwapSdk

open Foundation.AccountBank
open Foundation.StaleRead

variable {crates : Crates} {choices : Choices} {chain : Chain} {poolInfo : PoolInfo}
variable {payer wsolAcc ata : Pubkey} {bank next final : UserBank} {call : SwapCall}

/-! ## The accounts of a swap -/

/-- The accounts a swap sequence changes. -/
inductive SwapPlace where
  | wallet
  | wsol
  | token
deriving DecidableEq

/-- Where they are. -/
def swapPlace (payer wsolAcc ata : Pubkey) : SwapPlace → Pubkey
  | .wallet => payer
  | .wsol => wsolAcc
  | .token => ata

/-- What is there. -/
def swapContents (lamports : ℕ) (wsol token : Option (Entry Pubkey Pubkey)) : Contents SwapPlace
  | .wallet => some (walletEntry lamports)
  | .wsol => wsol
  | .token => token

/-- A bank with these contents. -/
noncomputable abbrev swapBank (payer wsolAcc ata : Pubkey) (bank : UserBank) (lamports : ℕ)
    (wsol token : Option (Entry Pubkey Pubkey)) : UserBank :=
  overlay (swapPlace payer wsolAcc ata) (swapContents lamports wsol token) bank

/-- A WSOL account of the user. -/
abbrev wsolEntry (owner : Pubkey) (lamports amount : ℕ) : Entry Pubkey Pubkey :=
  tokenEntry SplToken.id wrappedSolMint owner lamports amount

/-- The account that is a holding. -/
abbrev Holding.entry (program mint owner : Pubkey) (held : Holding) : Entry Pubkey Pubkey :=
  tokenEntry program mint owner held.lamports held.amount

section Contents

variable (lamports : ℕ) (wsol token : Option (Entry Pubkey Pubkey))

@[simp] theorem update_swap_wallet (changed : ℕ) :
    Function.update (swapContents lamports wsol token) .wallet (some (walletEntry changed)) =
      swapContents changed wsol token := by
  funext i
  cases i with
  | wallet => rfl
  | wsol => rfl
  | token => rfl

@[simp] theorem update_swap_wsol (changed : Option (Entry Pubkey Pubkey)) :
    Function.update (swapContents lamports wsol token) .wsol changed =
      swapContents lamports changed token := by
  funext i
  cases i with
  | wallet => rfl
  | wsol => rfl
  | token => rfl

@[simp] theorem update_swap_token (changed : Option (Entry Pubkey Pubkey)) :
    Function.update (swapContents lamports wsol token) .token changed =
      swapContents lamports wsol changed := by
  funext i
  cases i with
  | wallet => rfl
  | wsol => rfl
  | token => rfl

end Contents

section Steps

variable {lamports : ℕ} {wsol token : Option (Entry Pubkey Pubkey)}
variable (documented : chain.Documented crates)
variable (apart : Function.Injective (swapPlace payer wsolAcc ata))

include documented apart

/-! ## The steps of a sequence -/

/-- Opening the WSOL account moves its lamports from the wallet, and what exceeds the rent is its
balance. -/
theorem leads_open_wsol {seed : String} (funded : U64)
    (fresh : genPubkeyWithSeed crates choices payer = .ok (wsolAcc, seed)) :
    Leads chain.execute
      (swapBank payer wsolAcc ata bank lamports none token)
      ([.createAccountWithSeed payer wsolAcc payer seed funded
          (BitVec.ofNat 64 SplToken.accountLen) SplToken.id] ++
        [.initializeAccount SplToken.id wsolAcc wrappedSolMint payer])
      (funded.toNat ≤ lamports ∧
        (crates.minimumBalance SplToken.accountLen).toNat ≤ funded.toNat)
      (swapBank payer wsolAcc ata bank (lamports - funded.toNat)
        (some (wsolEntry payer funded.toNat
          (funded.toNat - (crates.minimumBalance SplToken.accountLen).toNat))) token) := by
  refine ((leads_allocate documented apart .wallet .wsol (createWithSeed_of_fresh fresh) rfl rfl
    rfl rfl).append (leads_initialise documented apart .wsol rfl rfl)).congr Iff.rfl ?_
  intro _
  simp only [update_swap_wallet, update_swap_wsol]

/-- Closing the WSOL account unwraps all it holds. -/
theorem leads_close_wsol (served : crates.checkProgramAccount SplToken.id = .ok ())
    (held amount : ℕ) :
    Leads chain.execute
      (swapBank payer wsolAcc ata bank lamports (some (wsolEntry payer held amount)) token)
      [.closeAccount SplToken.id wsolAcc payer payer] True
      (swapBank payer wsolAcc ata bank (lamports + held) none token) := by
  refine (leads_close documented apart .wallet .wsol served (by decide) rfl rfl rfl rfl).congr
    (iff_true_intro (Or.inl rfl)) ?_
  intro _
  simp only [update_swap_wallet, update_swap_wsol]

/-- Closing the token account needs it to be empty. -/
theorem leads_close_token {program mint : Pubkey} {held : Holding}
    (served : crates.checkProgramAccount program = .ok ()) (traded : mint ≠ wrappedSolMint) :
    Leads chain.execute
      (swapBank payer wsolAcc ata bank lamports wsol (some (held.entry program mint payer)))
      [.closeAccount program ata payer payer] (held.amount = 0)
      (swapBank payer wsolAcc ata bank (lamports + held.lamports) wsol none) := by
  refine (leads_close documented apart .wallet .token served (by decide) rfl rfl rfl rfl).congr
    (or_iff_right traded) ?_
  intro _
  simp only [update_swap_wallet, update_swap_token]

theorem leads_swap_extension {extension : Option Ix} {charge : ℕ}
    (extended : maybeExtendPoolIx poolInfo payer = .ok extension)
    (charged : chain.extensionOf extension.toList = some charge) :
    Leads chain.execute
      (swapBank payer wsolAcc ata bank lamports wsol token) extension.toList (charge ≤ lamports)
      (swapBank payer wsolAcc ata bank (lamports - charge) wsol token) := by
  refine (leads_extension documented apart .wallet rfl rfl extended charged).congr Iff.rfl ?_
  intro _
  rw [update_swap_wallet]

/-- First a sequence pays the extension and the WSOL account. -/
theorem leads_front (bank : UserBank) (lamports : ℕ) (token : Option (Entry Pubkey Pubkey))
    {extension : Option Ix} {seed : String} {charge : ℕ} (funded : U64)
    (extended : maybeExtendPoolIx poolInfo payer = .ok extension)
    (charged : chain.extensionOf extension.toList = some charge)
    (fresh : genPubkeyWithSeed crates choices payer = .ok (wsolAcc, seed)) :
    Leads chain.execute (swapBank payer wsolAcc ata bank lamports none token)
      (extension.toList ++
        [.createAccountWithSeed payer wsolAcc payer seed funded
            (BitVec.ofNat 64 SplToken.accountLen) SplToken.id,
          .initializeAccount SplToken.id wsolAcc wrappedSolMint payer])
      (charge + funded.toNat ≤ lamports ∧
        (crates.minimumBalance SplToken.accountLen).toNat ≤ funded.toNat)
      (swapBank payer wsolAcc ata bank (lamports - (charge + funded.toNat))
        (some (wsolEntry payer funded.toNat
          (funded.toNat - (crates.minimumBalance SplToken.accountLen).toNat))) token) := by
  refine ((leads_swap_extension documented apart extended charged).append
    (leads_open_wsol documented apart funded fresh)).congr ?_ ?_
  · omega
  · intro _
    rw [Nat.sub_sub]

/-- The creation of the token account gives the call the account it trades with. -/
theorem leads_creation (call : SwapCall) (poolInfo : PoolInfo) {before : Option Holding}
    {held : Holding} {opening : ℕ}
    (held_by : call.holding (chain.rent poolInfo.tokenMint poolInfo.tokenProgram)
      before = some (held, opening)) (associated : ata = tokenAta crates poolInfo payer) :
    Leads chain.execute
      (swapBank payer wsolAcc ata bank lamports wsol
        (before.map (Holding.entry poolInfo.tokenProgram poolInfo.tokenMint payer)))
      (createAtaTokenOrNotWithProgram crates payer poolInfo.tokenMint payer poolInfo.tokenProgram
        call.createsTokenAccount).2.toList
      (opening ≤ lamports)
      (swapBank payer wsolAcc ata bank (lamports - opening) wsol
        (some (held.entry poolInfo.tokenProgram poolInfo.tokenMint payer))) := by
  cases before with
  | some there =>
      obtain ⟨rfl, rfl⟩ := Prod.mk.inj (Option.some.inj held_by)
      have free : True ↔ 0 ≤ lamports := iff_of_true trivial (Nat.zero_le _)
      cases call.createsTokenAccount with
      | false => exact (Leads.nil _).congr free fun _ => rfl
      | true =>
          exact (leads_create_there documented apart .token associated rfl).congr free
            fun _ => rfl
  | none =>
      simp only [SwapCall.holding, Option.ite_none_right_eq_some, Option.map_eq_some_iff,
        Prod.mk.injEq] at held_by
      obtain ⟨creates, rent, rented, rfl, rfl⟩ := held_by
      rw [creates]
      refine (leads_create documented apart .wallet .token rented rfl associated rfl rfl).congr
        Iff.rfl ?_
      intro _
      simp only [update_swap_wallet, update_swap_token]

/-- Before it swaps, a sequence pays the extension, the WSOL account and the token account. -/
theorem leads_opening (bank : UserBank) (lamports : ℕ) (call : SwapCall)
    {before : Option Holding} {held : Holding} {extension : Option Ix} {seed : String}
    {charge opening : ℕ} (funded : U64)
    (extended : maybeExtendPoolIx poolInfo payer = .ok extension)
    (charged : chain.extensionOf extension.toList = some charge)
    (fresh : genPubkeyWithSeed crates choices payer = .ok (wsolAcc, seed))
    (held_by : call.holding (chain.rent poolInfo.tokenMint poolInfo.tokenProgram)
      before = some (held, opening)) (associated : ata = tokenAta crates poolInfo payer) :
    Leads chain.execute
      (swapBank payer wsolAcc ata bank lamports none
        (before.map (Holding.entry poolInfo.tokenProgram poolInfo.tokenMint payer)))
      (openingIxs crates poolInfo payer call.createsTokenAccount extension wsolAcc seed funded)
      (charge + funded.toNat + opening ≤ lamports ∧
        (crates.minimumBalance SplToken.accountLen).toNat ≤ funded.toNat)
      (swapBank payer wsolAcc ata bank (lamports - (charge + funded.toNat + opening))
        (some (wsolEntry payer funded.toNat
          (funded.toNat - (crates.minimumBalance SplToken.accountLen).toNat)))
        (some (held.entry poolInfo.tokenProgram poolInfo.tokenMint payer))) := by
  rw [openingIxs]
  refine ((leads_front documented apart bank lamports _ funded extended charged fresh).append
    (leads_creation documented apart call poolInfo held_by associated)).congr ?_ ?_
  · omega
  · intro _
    rw [Nat.sub_sub]

/-! ## The swap and the closing -/

section Swap

variable {swap : Instruction} {fill : Fill} {funded amount : ℕ} {held : Holding}
variable (trades : TradesFor crates chain poolInfo payer wsolAcc ata call (call.spentSide poolInfo)
  swap)

include trades

/-- Without a token account, and without one to open, a swap fails. -/
theorem swap_without_token (rest : List Ix)
    (missing : call.holding (chain.rent poolInfo.tokenMint poolInfo.tokenProgram) none = none)
    (associated : ata = tokenAta crates poolInfo payer) (final : UserBank) :
    performAll chain.execute (swapBank payer wsolAcc ata bank lamports wsol none)
      ((createAtaTokenOrNotWithProgram crates payer poolInfo.tokenMint payer poolInfo.tokenProgram
        call.createsTokenAccount).2.toList ++ .own swap :: rest) ≠ some final := by
  cases creates : call.createsTokenAccount with
  | true =>
      have unrented : chain.rent poolInfo.tokenMint poolInfo.tokenProgram = none := by
        simpa [SwapCall.holding, creates] using missing
      simp only [createAtaTokenOrNotWithProgram, if_true, Option.toList_some,
        List.singleton_append, performAll_cons]
      rw [create_fails documented apart .token unrented associated rfl, Option.bind_none]
      exact (Option.some_ne_none final).symm
  | false =>
      simp only [createAtaTokenOrNotWithProgram, Bool.false_eq_true, if_false, Option.toList_none,
        List.nil_append, performAll_cons]
      rw [trades.executes, ne_eq, Option.bind_eq_some_iff]
      rintro ⟨reached, swapped, -⟩
      obtain ⟨fill, -, traded⟩ := Option.bind_eq_some_iff.mp swapped
      by_cases spends : call.spentSide poolInfo = poolInfo.wsolSide
      · have other : ata ≠ wsolAcc := apart.ne (show SwapPlace.token ≠ .wsol by decide)
        rw [PoolInfo.legs, if_pos spends] at traded
        refine apply_missing apart .wallet .token (by decide) rfl rfl rfl rfl ?_ traded
        exact Or.inr ⟨other, rfl⟩
      · rw [PoolInfo.legs, if_neg spends] at traded
        refine apply_missing apart .wallet .token (by decide) rfl rfl rfl rfl ?_ traded
        exact Or.inl rfl

/-- A swap that spends WSOL, and the closing of its account, are a purchase. -/
theorem leads_purchase (sided : poolInfo.OneSided)
    (served : crates.checkProgramAccount SplToken.id = .ok ())
    (spends : call.spentSide poolInfo = poolInfo.wsolSide) (filled : chain.swap swap = some fill) :
    Leads chain.execute
      (swapBank payer wsolAcc ata bank lamports (some (wsolEntry payer funded amount))
        (some (held.entry poolInfo.tokenProgram poolInfo.tokenMint payer)))
      ([.own swap] ++ [.closeAccount SplToken.id wsolAcc payer payer])
      (fill.charge ≤ lamports ∧ fill.spent.toNat ≤ amount ∧
        held.amount + fill.received.toNat < 2 ^ 64)
      (swapBank payer wsolAcc ata bank
        (lamports - fill.charge + (funded - fill.spent.toNat)) none
        (some (tokenEntry poolInfo.tokenProgram poolInfo.tokenMint payer held.lamports
          (held.amount + fill.received.toNat)))) := by
  have buys : Leads chain.execute
      (swapBank payer wsolAcc ata bank lamports (some (wsolEntry payer funded amount))
        (some (held.entry poolInfo.tokenProgram poolInfo.tokenMint payer)))
      [.own swap]
      (fill.charge ≤ lamports ∧ fill.spent.toNat ≤ amount ∧
        held.amount + fill.received.toNat < 2 ^ 64)
      (swapBank payer wsolAcc ata bank (lamports - fill.charge)
        (some (wsolEntry payer (funded - fill.spent.toNat) (amount - fill.spent.toNat)))
        (some (tokenEntry poolInfo.tokenProgram poolInfo.tokenMint payer held.lamports
          (held.amount + fill.received.toNat)))) := by
    apply Leads.single
    intro final
    rw [trades.executes, filled, Option.bind_some, PoolInfo.legs, if_pos spends]
    refine (apply_eq_some_iff apart .wallet .wsol .token (by decide) (by decide) (by decide) rfl
      rfl rfl rfl rfl rfl).trans ?_
    simp only [update_swap_wallet, update_swap_wsol, update_swap_token, follow_native,
      follow_of_ne sided.tokenMint_ne, swapPlace]
  exact (buys.append (leads_close_wsol documented apart served _ _)).congr (and_iff_left trivial)
    fun _ => rfl

/-- A swap that spends tokens, and the closing of the WSOL account, are a sale. -/
theorem leads_sale (sided : poolInfo.OneSided)
    (served : crates.checkProgramAccount SplToken.id = .ok ())
    (keeps : call.spentSide poolInfo ≠ poolInfo.wsolSide) (filled : chain.swap swap = some fill) :
    Leads chain.execute
      (swapBank payer wsolAcc ata bank lamports (some (wsolEntry payer funded amount))
        (some (held.entry poolInfo.tokenProgram poolInfo.tokenMint payer)))
      ([.own swap] ++ [.closeAccount SplToken.id wsolAcc payer payer])
      (fill.charge ≤ lamports ∧ fill.spent.toNat ≤ held.amount ∧
        amount + fill.received.toNat < 2 ^ 64)
      (swapBank payer wsolAcc ata bank
        (lamports - fill.charge + (funded + fill.received.toNat)) none
        (some (tokenEntry poolInfo.tokenProgram poolInfo.tokenMint payer held.lamports
          (held.amount - fill.spent.toNat)))) := by
  have sells : Leads chain.execute
      (swapBank payer wsolAcc ata bank lamports (some (wsolEntry payer funded amount))
        (some (held.entry poolInfo.tokenProgram poolInfo.tokenMint payer)))
      [.own swap]
      (fill.charge ≤ lamports ∧ fill.spent.toNat ≤ held.amount ∧
        amount + fill.received.toNat < 2 ^ 64)
      (swapBank payer wsolAcc ata bank (lamports - fill.charge)
        (some (wsolEntry payer (funded + fill.received.toNat) (amount + fill.received.toNat)))
        (some (tokenEntry poolInfo.tokenProgram poolInfo.tokenMint payer held.lamports
          (held.amount - fill.spent.toNat)))) := by
    apply Leads.single
    intro final
    rw [trades.executes, filled, Option.bind_some, PoolInfo.legs, if_neg keeps]
    refine (apply_eq_some_iff apart .wallet .token .wsol (by decide) (by decide) (by decide) rfl
      rfl rfl rfl rfl rfl).trans ?_
    simp only [update_swap_wallet, update_swap_wsol, update_swap_token, follow_native,
      follow_of_ne sided.tokenMint_ne, swapPlace]
  exact (sells.append (leads_close_wsol documented apart served _ _)).congr
    (and_iff_left trivial) fun _ => rfl

end Swap

end Steps

/-- The lamports a builder computes are those that the WSOL account is meant to hold, or less than
its rent where the sum does not fit a word. -/
theorem wsolFunding_eq_ok {funded : U64}
    (returned : wsolFunding crates (crates.minimumBalance SplToken.accountLen)
      (if call.spentSide poolInfo = poolInfo.wsolSide then some call.spentAmount else none) =
        .ok funded) :
    funded.toNat = call.requiredLamports crates poolInfo ∨
      funded.toNat < (crates.minimumBalance SplToken.accountLen).toNat ∧
        2 ^ 64 ≤ call.requiredLamports crates poolInfo := by
  by_cases fits : FundingFits crates poolInfo call
  · obtain ⟨exact_sum, funds, same⟩ := wsolFunding_of_fits fits
    obtain rfl := Except.ok.inj (returned.symm.trans funds)
    exact Or.inl same
  · rw [FundingFits, Nat.not_lt, SwapCall.requiredLamports] at fits
    by_cases spends : call.spentSide poolInfo = poolInfo.wsolSide
    · rw [if_pos spends] at fits returned
      right
      rw [SwapCall.requiredLamports, if_pos spends]
      refine ⟨?_, fits⟩
      simp only [wsolFunding, addU64] at returned
      split at returned
      · cases returned
      · obtain rfl := Except.ok.inj returned
        have rent := (crates.minimumBalance SplToken.accountLen).isLt
        have amount := call.spentAmount.isLt
        rw [BitVec.toNat_add]
        omega
    · rw [if_neg spends, Nat.add_zero] at fits
      exact absurd (BitVec.isLt _) (Nat.not_lt.mpr fits)

/-- What the closing does to a position: nothing, or it needs the account to be empty. -/
theorem leads_closing {lamports : ℕ} (held : Holding) {closing : List Ix} {closes : Bool}
    (documented : chain.Documented crates)
    (apart : Function.Injective (swapPlace payer wsolAcc ata)) (sided : poolInfo.OneSided)
    (closed : closeAtaIxs crates poolInfo ata payer closes = .ok closing) :
    Leads chain.execute
      (swapBank payer wsolAcc ata bank lamports none
        (some (held.entry poolInfo.tokenProgram poolInfo.tokenMint payer)))
      closing (closes → held.amount = 0)
      (swapBank payer wsolAcc ata bank (if closes then lamports + held.lamports else lamports)
        none (if closes then none
          else some (held.entry poolInfo.tokenProgram poolInfo.tokenMint payer))) := by
  unfold closeAtaIxs splTokenCloseAccount at closed
  cases closes with
  | false =>
      obtain rfl := Except.ok.inj closed
      exact (Leads.nil _).congr (by simp) fun _ => by simp
  | true =>
      simp only [if_true, bind_eq_ok_iff, Except.ok.injEq] at closed
      obtain ⟨_, ⟨_, served, rfl⟩, rfl⟩ := closed
      exact (leads_close_token documented apart served sided.tokenMint_ne).congr (by simp)
        fun _ => by simp

/-! ## A whole transaction -/

/-- A user's accounts hold a position. -/
structure Holds (bank : UserBank) (payer ata program mint : Pubkey) (position : Position) :
    Prop where
  wallet : bank payer = some ⟨position.lamports, .wallet⟩
  token : bank ata = position.token.map (Holding.entry program mint payer)

/-- The user's accounts with another position. -/
def Position.write (position : Position) (bank : UserBank) (payer ata program mint : Pubkey) :
    UserBank :=
  Function.update (Function.update bank payer (some ⟨position.lamports, .wallet⟩)) ata
    (position.token.map (Holding.entry program mint payer))

section Whole

variable {program mint : Pubkey} {position reached : Position}

theorem Holds.payer_ne (holds : Holds bank payer ata program mint position) : payer ≠ ata := by
  rintro rfl
  have same := holds.wallet.symm.trans holds.token
  cases held : position.token with
  | none => simp [held] at same
  | some account => simp [held] at same

/-- The wallet, an account not in use and the token account are three. -/
theorem Holds.apart (holds : Holds bank payer ata program mint position)
    (unused : bank wsolAcc = none) (other : wsolAcc ≠ ata) :
    Function.Injective (swapPlace payer wsolAcc ata) := by
  have payer_ne_wsol : payer ≠ wsolAcc := by
    rintro rfl
    cases unused.symm.trans holds.wallet
  have payer_ne_ata := holds.payer_ne
  intro i j same
  cases i <;> cases j <;> simp_all [swapPlace, eq_comm]

theorem Holds.eq_swapBank (holds : Holds bank payer ata program mint position)
    (unused : bank wsolAcc = none) :
    bank = swapBank payer wsolAcc ata bank position.lamports none
      (position.token.map (Holding.entry program mint payer)) := by
  apply eq_overlay
  intro i
  cases i with
  | wallet => exact holds.wallet
  | wsol => exact unused
  | token => exact holds.token

/-- With the WSOL account gone again, what is left is a position. -/
theorem swapBank_eq_write (holds : Holds bank payer ata program mint position)
    (unused : bank wsolAcc = none) (other : wsolAcc ≠ ata) :
    swapBank payer wsolAcc ata bank reached.lamports none
        (reached.token.map (Holding.entry program mint payer)) =
      reached.write bank payer ata program mint := by
  have apart := holds.apart unused other
  have start := holds.eq_swapBank unused
  rw [Position.write]
  conv_rhs => rw [start]
  rw [update_overlay apart (show swapPlace payer wsolAcc ata .wallet = payer from rfl),
    update_overlay apart (show swapPlace payer wsolAcc ata .token = ata from rfl),
    update_swap_wallet, update_swap_token]

/-- After a closing that was asked for, or not, what is left is a position. -/
theorem swapBank_eq_write_closed (holds : Holds bank payer ata program mint position)
    (unused : bank wsolAcc = none) (other : wsolAcc ≠ ata) (held : Holding) (closes : Bool)
    {lamports reckoned : ℕ} (same : lamports = reckoned) :
    swapBank payer wsolAcc ata bank (if closes then lamports + held.lamports else lamports) none
      (if closes then none else some (held.entry program mint payer)) =
      Position.write ⟨if closes then reckoned + held.lamports else reckoned,
        if closes then none else some held⟩ bank payer ata program mint := by
  subst same
  rw [← swapBank_eq_write holds unused other]
  cases closes with
  | true => rfl
  | false => rfl

end Whole

/-- What pump-amm makes of a sequence: its extension and its swap. -/
theorem fillOf_sequence {extension : Option Ix} {seed : String} {funded : U64}
    {createAta closes : Bool} {swap : Instruction} {closing : List Ix}
    (extended : maybeExtendPoolIx poolInfo payer = .ok extension) (isSwap : swap.isSwap)
    (closed : closeAtaIxs crates poolInfo ata payer closes = .ok closing) :
    chain.fillOf (openingIxs crates poolInfo payer createAta extension wsolAcc seed funded ++
        .own swap :: .closeAccount SplToken.id wsolAcc payer payer :: closing) =
      (chain.extensionOf extension.toList).bind fun charge =>
        (chain.swap swap).map fun fill => { fill with charge := charge + fill.charge } := by
  have ending : chain.extensionOf closing = some 0 := by
    unfold closeAtaIxs splTokenCloseAccount at closed
    cases closes with
    | false =>
        obtain rfl := Except.ok.inj closed
        rfl
    | true =>
        simp only [if_true, bind_eq_ok_iff, Except.ok.injEq] at closed
        obtain ⟨_, ⟨_, -, rfl⟩, rfl⟩ := closed
        rfl
  have creation (rest : List Ix) (own : rest = .own swap ::
      .closeAccount SplToken.id wsolAcc payer payer :: closing) :
      chain.extensionOf ((createAtaTokenOrNotWithProgram crates payer poolInfo.tokenMint payer
        poolInfo.tokenProgram createAta).2.toList ++ rest) = some 0 ∧
      chain.swapOf ((createAtaTokenOrNotWithProgram crates payer poolInfo.tokenMint payer
        poolInfo.tokenProgram createAta).2.toList ++ rest) = chain.swap swap := by
    subst own
    cases createAta with
    | false =>
        simp [createAtaTokenOrNotWithProgram, Chain.extensionOf, Chain.swapOf, isSwap, ending]
    | true =>
        simp [createAtaTokenOrNotWithProgram, Chain.extensionOf, Chain.swapOf, isSwap, ending]
  obtain ⟨charges, swaps⟩ := creation _ rfl
  rw [Chain.fillOf, openingIxs, List.append_assoc, List.append_assoc]
  cases extension with
  | none =>
      simp only [Option.toList_none, List.nil_append, List.cons_append, Chain.extensionOf,
        Chain.swapOf, charges, swaps, Option.bind_eq_bind, Option.bind_some, Option.map_eq_bind]
      rfl
  | some ix =>
      obtain ⟨own, rfl, unswapped⟩ := mem_extension extended (Option.mem_toList.mpr rfl)
      simp only [Option.toList_some, List.cons_append, List.nil_append, Chain.extensionOf,
        Chain.swapOf, unswapped, charges, swaps, if_false, Option.bind_eq_bind, Option.bind_some,
        Option.map_eq_bind, Bool.false_eq_true, Nat.add_zero, Option.bind_assoc]
      rfl

/-! ## Runs -/

section Run

variable {position : Position} {extension : Option Ix} {seed : String} {funded : U64}
variable {swap : Instruction} {fill : Fill} {closing : List Ix} {held : Holding}
variable {charge opening : ℕ}
variable (documented : chain.Documented crates) (sided : poolInfo.OneSided)
variable (unused : bank wsolAcc = none) (other : wsolAcc ≠ tokenAta crates poolInfo payer)
variable (holds : Holds bank payer (tokenAta crates poolInfo payer) poolInfo.tokenProgram
  poolInfo.tokenMint position)
variable (extended : maybeExtendPoolIx poolInfo payer = .ok extension)
variable (charged : chain.extensionOf extension.toList = some charge)
variable (fresh : genPubkeyWithSeed crates choices payer = .ok (wsolAcc, seed))
variable (served : crates.checkProgramAccount SplToken.id = .ok ())
variable (funds : wsolFunding crates (crates.minimumBalance SplToken.accountLen)
  (if call.spentSide poolInfo = poolInfo.wsolSide then some call.spentAmount else none) =
    .ok funded)
variable (closed : closeAtaIxs crates poolInfo (tokenAta crates poolInfo payer) payer
  call.closesTokenAccount = .ok closing)
variable (trades : TradesFor crates chain poolInfo payer wsolAcc (tokenAta crates poolInfo payer)
  call (call.spentSide poolInfo) swap)
variable (filled : chain.swap swap = some fill)

include documented unused other holds extended charged fresh trades in
/-- Without a token account the run fails. -/
theorem run_without_token (final : UserBank) (funded : U64) (back : List Ix)
    (missing : call.holding (chain.rent poolInfo.tokenMint poolInfo.tokenProgram)
      position.token = none) :
    performAll chain.execute bank
      (openingIxs crates poolInfo payer call.createsTokenAccount extension wsolAcc seed funded ++
        .own swap :: back) ≠ some final := by
  have apart := holds.apart unused other
  have absent := SwapCall.token_eq_none_of_holding missing
  have start := holds.eq_swapBank unused
  rw [absent, Option.map_none] at start
  rw [absent] at missing
  have opens := leads_front documented apart bank position.lamports none funded extended charged
    fresh
  rw [← start] at opens
  have whole := opens.append_of_fails (fun final => swap_without_token documented apart trades
    back missing rfl final) bank
  rw [openingIxs, List.append_assoc]
  intro run
  exact ((whole final).mp run).1

include documented sided unused other holds extended charged fresh closed in
/-- A run whose trade leads to an amount leaves what the call settles, where the two agree on when
they succeed and on what is in the wallet. -/
theorem run_iff_settles (final : UserBank) {lamports reckoned amount : ℕ} {p q : Prop}
    {between : List Ix} {settled : Fill}
    (held_by : call.holding (chain.rent poolInfo.tokenMint poolInfo.tokenProgram)
      position.token = some (held, opening))
    (trade : Leads chain.execute
      (swapBank payer wsolAcc (tokenAta crates poolInfo payer) bank
        (position.lamports - (charge + funded.toNat + opening))
        (some (wsolEntry payer funded.toNat
          (funded.toNat - (crates.minimumBalance SplToken.accountLen).toNat)))
        (some (held.entry poolInfo.tokenProgram poolInfo.tokenMint payer)))
      between p
      (swapBank payer wsolAcc (tokenAta crates poolInfo payer) bank lamports none
        (some (tokenEntry poolInfo.tokenProgram poolInfo.tokenMint payer held.lamports amount))))
    (settles : ∀ reached,
      call.settle crates (chain.rent poolInfo.tokenMint poolInfo.tokenProgram) poolInfo settled
          position = some reached ↔
        q ∧ (call.closesTokenAccount → amount = 0) ∧
          reached = ⟨if call.closesTokenAccount then reckoned + held.lamports else reckoned,
            if call.closesTokenAccount then none else some ⟨held.lamports, amount⟩⟩)
    (agree : (charge + funded.toNat + opening ≤ position.lamports ∧
      (crates.minimumBalance SplToken.accountLen).toNat ≤ funded.toNat) ∧ p ↔ q)
    (same : q → lamports = reckoned) :
    performAll chain.execute bank
        (openingIxs crates poolInfo payer call.createsTokenAccount extension wsolAcc seed funded ++
          (between ++ closing)) = some final ↔
      ∃ reached, call.settle crates (chain.rent poolInfo.tokenMint poolInfo.tokenProgram) poolInfo
          settled position = some reached ∧
        final = reached.write bank payer (tokenAta crates poolInfo payer) poolInfo.tokenProgram
          poolInfo.tokenMint := by
  have apart := holds.apart unused other
  have opens := leads_opening documented apart bank position.lamports call funded extended charged
    fresh held_by rfl
  rw [← holds.eq_swapBank unused] at opens
  have run := opens.append
    (trade.append (leads_closing ⟨held.lamports, amount⟩ documented apart sided closed))
  rw [run final]
  constructor
  · rintro ⟨⟨opened, traded, empty⟩, rfl⟩
    have both := agree.mp ⟨opened, traded⟩
    exact ⟨_, (settles _).mpr ⟨both, empty, rfl⟩,
      swapBank_eq_write_closed holds unused other ⟨held.lamports, amount⟩ _ (same both)⟩
  · rintro ⟨reached, ends, rfl⟩
    obtain ⟨both, empty, rfl⟩ := (settles _).mp ends
    obtain ⟨opened, traded⟩ := agree.mpr both
    exact ⟨⟨opened, traded, empty⟩,
      (swapBank_eq_write_closed holds unused other ⟨held.lamports, amount⟩ _ (same both)).symm⟩

include documented sided unused other holds extended charged fresh served funds closed trades
  filled

/-- A purchase leaves what the call settles. -/
theorem run_purchase_iff (spends : call.spentSide poolInfo = poolInfo.wsolSide)
    (allowed : call.Allows poolInfo fill)
    (held_by : call.holding (chain.rent poolInfo.tokenMint poolInfo.tokenProgram)
      position.token = some (held, opening)) :
    performAll chain.execute bank
        (openingIxs crates poolInfo payer call.createsTokenAccount extension wsolAcc seed funded ++
          .own swap :: .closeAccount SplToken.id wsolAcc payer payer :: closing) = some final ↔
      ∃ reached, call.settle crates (chain.rent poolInfo.tokenMint poolInfo.tokenProgram) poolInfo
          { fill with charge := charge + fill.charge } position = some reached ∧
        final = reached.write bank payer (tokenAta crates poolInfo payer) poolInfo.tokenProgram
          poolInfo.tokenMint := by
  have apart := holds.apart unused other
  have required := wsolFunding_eq_ok funds
  have word_funded := funded.isLt
  have meant : call.requiredLamports crates poolInfo =
      (crates.minimumBalance SplToken.accountLen).toNat + call.spentAmount.toNat := by
    rw [SwapCall.requiredLamports, if_pos spends]
  have bounded := BitVec.le_def.mp allowed.spent
  refine run_iff_settles documented sided unused other holds extended charged fresh closed final
    held_by (leads_purchase documented apart trades sided served spends filled)
    (fun reached => (settle_purchase_iff held_by spends).trans and_assoc.symm) ?_ ?_
  · dsimp only
    omega
  · dsimp only
    omega

/-- A sale leaves what the call settles. -/
theorem run_sale_iff (keeps : call.spentSide poolInfo ≠ poolInfo.wsolSide)
    (held_by : call.holding (chain.rent poolInfo.tokenMint poolInfo.tokenProgram)
      position.token = some (held, opening)) :
    performAll chain.execute bank
        (openingIxs crates poolInfo payer call.createsTokenAccount extension wsolAcc seed funded ++
          .own swap :: .closeAccount SplToken.id wsolAcc payer payer :: closing) = some final ↔
      ∃ reached, call.settle crates (chain.rent poolInfo.tokenMint poolInfo.tokenProgram) poolInfo
          { fill with charge := charge + fill.charge } position = some reached ∧
        final = reached.write bank payer (tokenAta crates poolInfo payer) poolInfo.tokenProgram
          poolInfo.tokenMint := by
  have apart := holds.apart unused other
  have required := wsolFunding_eq_ok funds
  have word_funded := funded.isLt
  have meant : call.requiredLamports crates poolInfo =
      (crates.minimumBalance SplToken.accountLen).toNat := by
    rw [SwapCall.requiredLamports, if_neg keeps, Nat.add_zero]
  have word_received := fill.received.isLt
  refine run_iff_settles documented sided unused other holds extended charged fresh closed final
    held_by (leads_sale documented apart trades sided served keeps filled)
    (fun reached => (settle_sale_iff held_by keeps).trans and_assoc.symm) ?_ ?_
  · dsimp only
    omega
  · dsimp only
    omega

end Run

/-- **What a swap transaction leaves its user with.** On a pool with WSOL on one side, run on
accounts that hold a position, it succeeds exactly when pump-amm fills it and the call settles, and
what it leaves is the position the call settles to. No other account has changed: the WSOL account,
which was not in use, is gone again. What pump-amm fills is within the terms of the call. -/
theorem swap_settles_iff (crates : Crates) (choices : Choices) (chain : Chain)
    (poolInfo : PoolInfo) (payer : Pubkey) (call : SwapCall) (instructions : List Ix)
    (bank final : UserBank) (position : Position) (documented : chain.Documented crates)
    (sided : poolInfo.OneSided)
    (built : call.build crates choices poolInfo payer = .ok instructions)
    (fresh : ∀ wsolAcc seed, genPubkeyWithSeed crates choices payer = .ok (wsolAcc, seed) →
      bank wsolAcc = none ∧ wsolAcc ≠ tokenAta crates poolInfo payer)
    (holds : Holds bank payer (tokenAta crates poolInfo payer) poolInfo.tokenProgram
      poolInfo.tokenMint position) :
    (performAll chain.execute bank instructions = some final ↔
      ∃ fill, chain.fillOf instructions = some fill ∧
        ∃ reached, call.settle crates (chain.rent poolInfo.tokenMint poolInfo.tokenProgram)
            poolInfo fill position = some reached ∧
          final = reached.write bank payer (tokenAta crates poolInfo payer) poolInfo.tokenProgram
            poolInfo.tokenMint) ∧
    ∀ fill, chain.fillOf instructions = some fill → call.Allows poolInfo fill := by
  obtain ⟨swapIx, shared, traded⟩ := call.build_eq_traded documented choices payer sided
  rw [shared] at built
  have served := served_of_sequence built
  obtain ⟨extension, wsolAcc, seed, funded, swap, closing, extended, opened, funds, swapped,
    closed, rfl⟩ := swapSequence_eq_ok built
  obtain ⟨unused, other⟩ := fresh wsolAcc seed opened
  have trades := traded wsolAcc _ swap swapped
  rw [fillOf_sequence extended trades.isSwap closed]
  cases charged : chain.extensionOf extension.toList with
  | none =>
      rw [openingIxs, List.append_assoc, List.append_assoc,
        extension_fails documented extended charged]
      simp
  | some charge =>
      cases filled : chain.swap swap with
      | none =>
          have refused (bank : UserBank) : chain.execute bank (.own swap) = none := by
            rw [trades.executes, filled, Option.bind_none]
          rw [performAll_of_refused refused]
          simp
      | some fill =>
          have allowed := trades.allows fill filled
          simp only [Option.bind_some, Option.map_some, Option.some.injEq, exists_eq_left',
            forall_eq']
          refine ⟨?_, allowed.spent, allowed.received, allowed.minimum⟩
          cases held_by : call.holding
              (chain.rent poolInfo.tokenMint poolInfo.tokenProgram) position.token with
          | none =>
              have fails := run_without_token documented unused other holds extended charged
                opened trades final funded
                (.closeAccount SplToken.id wsolAcc payer payer :: closing) held_by
              simp [fails, SwapCall.settle, held_by]
          | some found =>
              by_cases spends : call.spentSide poolInfo = poolInfo.wsolSide
              · exact run_purchase_iff documented sided unused other holds extended charged opened
                  served funds closed trades filled spends allowed held_by
              · exact run_sale_iff documented sided unused other holds extended charged opened
                  served funds closed trades filled spends held_by

/-- **What a swap transaction leaves on the ledger of token accounts.** Where it succeeds, it does
to the ledger what it does to the accounts, at the amount that pump-amm fills. -/
theorem swap_follows_ledger (crates : Crates) (choices : Choices) (chain : Chain)
    (poolInfo : PoolInfo) (payer : Pubkey) (call : SwapCall) (instructions : List Ix)
    (bank final : UserBank) (documented : chain.Documented crates) (sided : poolInfo.OneSided)
    (built : call.build crates choices poolInfo payer = .ok instructions)
    (wallet : IsWallet bank payer)
    (run : performAll chain.execute bank instructions = some final) :
    ∃ fill, chain.fillOf instructions = some fill ∧
      performAll (performIx crates (call.priced fill)) (ledger bank) instructions =
        some (ledger final) := by
  obtain ⟨swapIx, shared, traded⟩ := call.build_eq_traded documented choices payer sided
  rw [shared] at built
  have served := served_of_sequence built
  obtain ⟨extension, wsolAcc, seed, funded, swap, closing, extended, opened, funds, swapped,
    closed, rfl⟩ := swapSequence_eq_ok built
  have trades := traded wsolAcc _ swap swapped
  obtain ⟨charge, charged⟩ : ∃ charge, chain.extensionOf extension.toList = some charge := by
    rw [← Option.ne_none_iff_exists']
    intro refused
    rw [openingIxs, List.append_assoc, List.append_assoc,
      extension_fails documented extended refused] at run
    cases run
  obtain ⟨fill, filled⟩ : ∃ fill, chain.swap swap = some fill := by
    rw [← Option.ne_none_iff_exists']
    intro refused
    rw [performAll_of_refused fun bank => by rw [trades.executes, refused, Option.bind_none]] at run
    cases run
  have follows : ∀ ix ∈ openingIxs crates poolInfo payer call.createsTokenAccount extension wsolAcc
      seed funded ++ .own swap :: .closeAccount SplToken.id wsolAcc payer payer :: closing,
      FollowsLedger crates chain payer (call.priced fill) ix := by
    intro ix member
    rcases List.mem_append.mp member with opening | rest
    · exact follows_opening documented extended (createWithSeed_of_fresh opened) opening
    rcases List.mem_cons.mp rest with rfl | rest
    · exact trades.follows fill filled
    rcases List.mem_cons.mp rest with rfl | last
    · exact follows_closeAccount documented served
    · exact follows_closing documented closed last
  rw [fillOf_sequence extended trades.isSwap closed, charged, filled]
  exact ⟨_, rfl, (performAll_follows follows wallet run).2⟩

namespace Recorded

/-- The recorded derivations, with one token account. -/
def settlingCrates : Crates :=
  { freshCrates with getAssociatedTokenAddressWithProgramId := fun _ _ _ => pool }

/-- Prices of seven for the base and nine for the quote, and no charge. -/
def filled (ix : Instruction) : Option Fill := do
  let first ← wordAt? 8 ix.data 8
  let second ← wordAt? 8 ix.data 16
  if ix.hasTag BuyInstruction.discriminator then
    if 9 ≤ second then some ⟨0, 9, first⟩ else none
  else if ix.hasTag BuyExactQuoteInInstruction.discriminator then
    if 0 < second ∧ second ≤ 7 then some ⟨0, first, 7⟩ else none
  else if ix.hasTag SellInstruction.discriminator then
    if second ≤ 9 then some ⟨0, first, 9⟩ else none
  else none

/-- What pump-amm does at these prices. -/
def executeOwn (bank : UserBank) (ix : Instruction) : Option UserBank := do
  let user ← ix.user
  if ix.hasTag SellInstruction.discriminator then
    let base ← ix.leg 5 3
    let quote ← ix.leg 6 4
    (filled ix).bind fun fill => fill.apply user base quote bank
  else if ix.hasTag BuyInstruction.discriminator ||
      ix.hasTag BuyExactQuoteInInstruction.discriminator then
    let base ← ix.leg 5 3
    let quote ← ix.leg 6 4
    (filled ix).bind fun fill => fill.apply user quote base bank
  else pay bank user 0

/-- A chain with this pump-amm. -/
def fixedChain : Chain where
  execute := fun bank => fun
    | .own ix => executeOwn bank ix
    | .createAccountWithSeed payer key _ _ lamports space program =>
        allocate bank payer key program space.toNat lamports.toNat
    | .initializeAccount program account mint owner =>
        initialise wrappedSolMint SplToken.accountLen
          (settlingCrates.minimumBalance SplToken.accountLen).toNat bank account program mint owner
    | .createAssociatedTokenAccountIdempotent funder wallet mint program =>
        create (some 2_039_280) bank funder
          (settlingCrates.getAssociatedTokenAddressWithProgramId wallet mint program) program mint
          wallet
    | .closeAccount program account destination owner =>
        close wrappedSolMint bank account destination program owner
    | _ => some bank
  swap := filled
  extension := fun _ => some 0
  rent := fun _ _ => some 2_039_280

theorem extension_read {account user : Pubkey} {ix : Instruction}
    (built : makeExtendAccountInstruction account user = .ok ix) :
    ix.user = some user ∧
      ∀ other, ix.hasTag other = decide ([234, 102, 194, 203, 150, 72, 62, 229] = other) := by
  obtain rfl := Except.ok.inj built
  exact ⟨rfl, hasTag_of_data _ [] rfl rfl (List.append_nil _).symm⟩

theorem fixedChain_documented : fixedChain.Documented settlingCrates where
  allocates := fun _ _ _ _ _ _ _ _ _ => rfl
  initialises := fun _ _ _ => rfl
  creates := fun _ _ _ _ _ => rfl
  closes := fun _ _ _ _ _ _ => rfl
  extends_account := by
    intro bank account user ix built
    obtain ⟨signer, tagged⟩ := extension_read built
    simp [fixedChain, executeOwn, signer, tagged, SellInstruction.discriminator,
      BuyInstruction.discriminator, BuyExactQuoteInInstruction.discriminator]
  buys := by
    intro bank user base quote out most ix swap
    have other : BuyInstruction.discriminator ≠ SellInstruction.discriminator := by decide
    simp [fixedChain, executeOwn, swap.user, swap.tagged, swap.base, swap.quote, other]
  buys_exact_quote_in := by
    intro bank user base quote spendable least ix swap
    have other : BuyExactQuoteInInstruction.discriminator ≠ SellInstruction.discriminator := by
      decide
    simp [fixedChain, executeOwn, swap.user, swap.tagged, swap.base, swap.quote, other]
  sells := by
    intro bank user base quote stated least ix swap
    simp [fixedChain, executeOwn, swap.user, swap.tagged, swap.base, swap.quote]
  buy_terms := by
    intro user base quote out most ix swap fill fills
    simp only [fixedChain, filled, swap.tagged, swap.first, swap.second, Option.bind_eq_bind,
      Option.bind_some, decide_true, if_true, Option.ite_none_right_eq_some,
      Option.some.injEq] at fills
    obtain ⟨bounded, rfl⟩ := fills
    exact ⟨bounded, rfl⟩
  buy_exact_quote_in_terms := by
    intro user base quote spendable least ix swap fill fills
    have other : BuyExactQuoteInInstruction.discriminator ≠ BuyInstruction.discriminator := by
      decide
    simp [fixedChain, filled, swap.tagged, swap.first, swap.second, other] at fills
    obtain ⟨⟨positive, bounded⟩, rfl⟩ := fills
    exact ⟨positive, rfl, bounded⟩
  sell_terms := by
    intro user base quote stated least ix swap fill fills
    have buy : SellInstruction.discriminator ≠ BuyInstruction.discriminator := by decide
    have other : SellInstruction.discriminator ≠ BuyExactQuoteInInstruction.discriminator := by
      decide
    simp [fixedChain, filled, swap.tagged, swap.first, swap.second, buy, other] at fills
    obtain ⟨bounded, rfl⟩ := fills
    exact ⟨rfl, bounded⟩

/-- A wallet, and no other account. -/
def walletBank (lamports : ℕ) : UserBank :=
  Function.update (fun _ => none) shareholder (some ⟨lamports, .wallet⟩)

theorem holds_walletBank (lamports : ℕ) :
    Holds (walletBank lamports) shareholder (tokenAta settlingCrates laterPool shareholder)
      laterPool.tokenProgram laterPool.tokenMint ⟨lamports, none⟩ := by
  refine ⟨Function.update_self _ _ _, ?_⟩
  have other : tokenAta settlingCrates laterPool shareholder ≠ shareholder := by decide +kernel
  rw [walletBank, Function.update_of_ne other]
  rfl

/-- The fresh account is not in use, and is no token account. -/
theorem fresh_walletBank (lamports : ℕ) (wsolAcc : Pubkey) (seed : String)
    (fresh : genPubkeyWithSeed settlingCrates firstChoices shareholder = .ok (wsolAcc, seed)) :
    walletBank lamports wsolAcc = none ∧
      wsolAcc ≠ tokenAta settlingCrates laterPool shareholder := by
  have account : wsolAcc = poolAuthority := by
    simp only [genPubkeyWithSeed, bind_eq_ok_iff, Except.ok.injEq, Prod.mk.injEq] at fresh
    obtain ⟨_, derived, rfl, -⟩ := fresh
    exact (Except.ok.inj derived).symm
  rw [account]
  have other : poolAuthority ≠ shareholder := by decide +kernel
  refine ⟨?_, by decide +kernel⟩
  rw [walletBank, Function.update_of_ne other]

end Recorded

/-- A wallet of ten million lamports buys seven tokens for one million: it is left with what the
token account does not hold. -/
theorem swap_settles_iff_recorded :
    ∃ instructions, (SwapCall.tokenBuy 1_000_000 5 true true).build Recorded.settlingCrates
        Recorded.firstChoices Recorded.laterPool Recorded.shareholder = .ok instructions ∧
      performAll Recorded.fixedChain.execute (Recorded.walletBank 10_000_000) instructions =
        some (Position.write ⟨6_960_720, some ⟨2_039_280, 7⟩⟩ (Recorded.walletBank 10_000_000)
          Recorded.shareholder
          (tokenAta Recorded.settlingCrates Recorded.laterPool Recorded.shareholder)
          Recorded.laterPool.tokenProgram Recorded.laterPool.tokenMint) := by
  have fills : ((SwapCall.tokenBuy 1_000_000 5 true true).build Recorded.settlingCrates
      Recorded.firstChoices Recorded.laterPool Recorded.shareholder).toOption.bind
        Recorded.fixedChain.fillOf = some ⟨0, 1_000_000, 7⟩ := by decide +kernel
  obtain ⟨instructions, returned, filled⟩ := Option.bind_eq_some_iff.mp fills
  have built : (SwapCall.tokenBuy 1_000_000 5 true true).build Recorded.settlingCrates
      Recorded.firstChoices Recorded.laterPool Recorded.shareholder = .ok instructions :=
    eq_ok_of_toOption returned
  refine ⟨instructions, built, (swap_settles_iff Recorded.settlingCrates Recorded.firstChoices
    Recorded.fixedChain Recorded.laterPool Recorded.shareholder _ instructions
    (Recorded.walletBank 10_000_000) _ ⟨10_000_000, none⟩ Recorded.fixedChain_documented
    Recorded.oneSided_laterPool built (Recorded.fresh_walletBank 10_000_000)
    (Recorded.holds_walletBank 10_000_000)).1.mpr ⟨_, filled, _, ?_, rfl⟩⟩
  decide +kernel

end PumpSwapSdk
