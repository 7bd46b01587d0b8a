import PumpSwapSdk.Client.SwapAccounts
import PumpSwapSdk.Foundation.StaleRead
import PumpSwapSdk.Foundation.TokenLedger

/-!
# Closing the token account after a sell

`sell` and `simulate_sell` always close the account of the traded token at the end. The token
program refuses to close an account with a balance, and then the whole transaction fails.

Where WSOL is the quote the account is the spent side, and is empty at its closing exactly when
the sell spends its whole balance. Where WSOL is the base it is the receiving side, and never
empty (`sell_closes_empty_account_iff`).
-/

set_option autoImplicit false

namespace PumpSwapSdk

open Foundation.LittleEndian
open Foundation.StaleRead
open Foundation.TokenLedger

/-! ## Executing a sequence -/

/-- Token accounts by address. A mint is an address too. -/
abbrev Tokens := Ledger Pubkey Pubkey

/-- What a swap moves between the user's accounts. The instruction states one amount, and the
pool prices the other, within the limit the instruction sets: the cost of a `buy`, or the
output of the other two. -/
def performSwap (priced : U64) (ledger : Tokens) (ix : Instruction) : Option Tokens := do
  let baseMint ← ix.key 3
  let quoteMint ← ix.key 4
  let userBaseAcc ← ix.key 5
  let userQuoteAcc ← ix.key 6
  let stated ← wordAt? 8 ix.data 8
  let tag := ix.data.take 8
  if tag = SellInstruction.discriminator then
    let ledger ← debit ledger userBaseAcc baseMint stated.toNat
    credit (2 ^ 64) ledger userQuoteAcc quoteMint priced.toNat
  else if tag = BuyExactQuoteInInstruction.discriminator then
    let ledger ← debit ledger userQuoteAcc quoteMint stated.toNat
    credit (2 ^ 64) ledger userBaseAcc baseMint priced.toNat
  else
    let ledger ← debit ledger userQuoteAcc quoteMint priced.toNat
    credit (2 ^ 64) ledger userBaseAcc baseMint stated.toNat

/-- What an instruction of a swap sequence does to the token accounts; `none` when it is
refused. A swap sequence holds no transfer and no native sync. -/
def performIx (crates : Crates) (priced : U64) (ledger : Tokens) : Ix → Option Tokens
  | .own ix => if ix.isSwap then performSwap priced ledger ix else some ledger
  | .setComputeUnitLimit _ => some ledger
  | .setComputeUnitPrice _ => some ledger
  | .createAccountWithSeed _ toPubkey _ _ lamports _ _ => allocate ledger toPubkey lamports.toNat
  | .initializeAccount _ account mint _ =>
      initialise wrappedSolMint (crates.minimumBalance SplToken.accountLen).toNat ledger account
        mint
  | .createAssociatedTokenAccountIdempotent _ wallet mint tokenProgram =>
      let account := crates.getAssociatedTokenAddressWithProgramId wallet mint tokenProgram
      if (ledger account).isSome then some ledger
      else some (Function.update ledger account (some (.token mint 0)))
  | .closeAccount _ account _ _ => close wrappedSolMint ledger account
  | .transfer _ _ _ => none
  | .syncNative _ _ => none

variable {crates : Crates} {choices : Choices} {poolInfo : PoolInfo} {payer : Pubkey}
variable {priced amountIn minOut lamports : U64} {ledger final : Tokens}

/-! ## The steps of a sell -/

/-- A sell spends its stated amount from the base account and pays into the quote account. -/
theorem performSwap_sell {userBaseAcc userQuoteAcc : Pubkey} {swap : Instruction}
    (built : makeSellInstruction crates choices amountIn minOut poolInfo payer userBaseAcc
      userQuoteAcc = .ok swap) :
    performSwap priced ledger swap =
      (debit ledger userBaseAcc poolInfo.baseMint amountIn.toNat).bind fun ledger =>
        credit (2 ^ 64) ledger userQuoteAcc poolInfo.quoteMint priced.toNat := by
  obtain rfl := Except.ok.inj built
  have stated : wordAt? 8 (SellInstruction.toVec ⟨amountIn, minOut⟩) 8 = some amountIn :=
    wordAt?_append (n := 8) rfl amountIn
  simp only [performSwap, Instruction.key, stated, SellInstruction.take_toVec, if_true]
  rfl

/-- Opening a sell leaves a WSOL account that holds what exceeds the rent. -/
theorem performAll_opening {extension : Option Ix} {wsolAcc : Pubkey} {seed : String}
    (extended : maybeExtendPoolIx poolInfo payer = .ok extension)
    (unused : ledger wsolAcc = none) :
    performAll (performIx crates priced) ledger
        (openingIxs crates poolInfo payer false extension wsolAcc seed lamports) =
      if (crates.minimumBalance SplToken.accountLen).toNat ≤ lamports.toNat then
        some (Function.update ledger wsolAcc (some (.token wrappedSolMint
          (lamports.toNat - (crates.minimumBalance SplToken.accountLen).toNat))))
      else none := by
  have fixed : performAll (performIx crates priced) ledger extension.toList = some ledger := by
    cases extension with
    | none => rfl
    | some ix =>
        obtain ⟨other, rfl, unswapped⟩ := mem_extension extended (Option.mem_toList.mpr rfl)
        simp [performAll, performIx, unswapped]
  rw [openingIxs, List.append_assoc, performAll_append fixed]
  simp only [createAtaTokenOrNotWithProgram, Bool.false_eq_true, if_false, Option.toList_none,
    List.append_nil, performAll_cons, performAll_nil, performIx, allocate_of_unused unused,
    Option.bind_some, initialise_allocated, if_true]
  split
  · rfl
  · rfl

/-! ## The account at its closing -/

/-- The token account is empty when the last of the instructions closes it. -/
def ClosesEmpty (crates : Crates) (priced : U64) (ledger : Tokens)
    (tokenProgram ata payer : Pubkey) (instructions : List Ix) : Prop :=
  ∃ front reached, instructions = front ++ [.closeAccount tokenProgram ata payer payer] ∧
    performAll (performIx crates priced) ledger front = some reached ∧
    balance reached ata = some 0

/-- What a sell leaves in the token account: the rest where it is spent, more where it
receives. -/
def leftAfterSell (poolInfo : PoolInfo) (amountIn priced : U64) (held : ℕ) : ℕ :=
  if poolInfo.solIsBase then held + priced.toNat else held - amountIn.toNat

/-! ## Pools with WSOL on one side -/

namespace PoolInfo

/-- WSOL is on exactly one side. -/
def OneSided (pool : PoolInfo) : Prop :=
  pool.baseMint = wrappedSolMint ∧ pool.quoteMint ≠ wrappedSolMint ∨
    pool.baseMint ≠ wrappedSolMint ∧ pool.quoteMint = wrappedSolMint

theorem OneSided.quoteMint_eq_iff (sided : poolInfo.OneSided) :
    poolInfo.quoteMint = wrappedSolMint ↔ poolInfo.solIsBase = false := by
  rw [solIsBase, decide_eq_false_iff_not]
  rcases sided with ⟨base, other⟩ | ⟨other, quote⟩
  · simp only [base, other, not_true_eq_false]
  · simp only [other, quote, not_false_eq_true]

/-- The traded token is not WSOL. -/
theorem OneSided.tokenMint_ne (sided : poolInfo.OneSided) :
    poolInfo.tokenMint ≠ wrappedSolMint := by
  have quote := sided.quoteMint_eq_iff
  rw [tokenMint, tokenSide]
  cases oriented : poolInfo.solIsBase with
  | true => simpa [oriented] using quote
  | false => exact of_decide_eq_false oriented

end PoolInfo

/-- Nothing is left exactly where the token is sold, and all of it is. -/
theorem leftAfterSell_eq_zero_iff {held : ℕ} (sided : poolInfo.OneSided) (positive : 0 < priced)
    (covered : poolInfo.solIsBase = false → amountIn.toNat ≤ held) :
    leftAfterSell poolInfo amountIn priced held = 0 ↔
      poolInfo.quoteMint = wrappedSolMint ∧ held = amountIn.toNat := by
  have paid : 0 < priced.toNat := BitVec.lt_def.mp positive
  rw [sided.quoteMint_eq_iff, leftAfterSell]
  cases oriented : poolInfo.solIsBase with
  | true =>
      simp only [if_true, Bool.true_eq_false, false_and, iff_false]
      omega
  | false =>
      have := covered oriented
      simp only [Bool.false_eq_true, if_false, true_and]
      omega

/-! ## A run up to the closing -/

section Run

variable {wsolAcc ata : Pubkey} {swap : Instruction} {held funded : ℕ}

/-- **What a sell leaves in the token account.** Where it spends from the account it also needs
the balance to cover the amount. -/
theorem token_after_swap (other : ata ≠ wsolAcc)
    (token : ledger ata = some (.token poolInfo.tokenMint held))
    (built : makeSellInstruction crates choices amountIn minOut poolInfo payer
      (userAccounts poolInfo wsolAcc ata).1 (userAccounts poolInfo wsolAcc ata).2 = .ok swap)
    (swapped : performSwap priced ledger swap = some final) :
    final ata = some (.token poolInfo.tokenMint (leftAfterSell poolInfo amountIn priced held)) ∧
      (poolInfo.solIsBase = false → amountIn.toNat ≤ held) := by
  rw [performSwap_sell built, Option.bind_eq_some_iff] at swapped
  obtain ⟨between, spent, received⟩ := swapped
  cases oriented : poolInfo.solIsBase with
  | true =>
      simp only [userAccounts, PoolInfo.tokenMint, PoolInfo.tokenSide, leftAfterSell, oriented,
        if_true] at spent received token ⊢
      have kept : between ata = ledger ata := debit_of_ne spent other
      obtain ⟨_, rfl⟩ := (credit_eq_some_iff (kept.trans token)).mp received
      exact ⟨Function.update_self _ _ _, by simp⟩
  | false =>
      simp only [userAccounts, PoolInfo.tokenMint, PoolInfo.tokenSide, leftAfterSell, oriented,
        Bool.false_eq_true, if_false] at spent received token ⊢
      obtain ⟨covered, rfl⟩ := (debit_eq_some_iff token).mp spent
      exact ⟨(credit_of_ne received other).trans (Function.update_self _ _ _), fun _ => covered⟩

/-- A sell of a token that the account covers, for WSOL, succeeds. -/
theorem swap_succeeds (priced : U64) (other : ata ≠ wsolAcc)
    (quote : poolInfo.quoteMint = wrappedSolMint)
    (oriented : poolInfo.solIsBase = false)
    (token : ledger ata = some (.token poolInfo.tokenMint held)) (covered : amountIn.toNat ≤ held)
    (opened : ledger wsolAcc = some (.token wrappedSolMint 0))
    (built : makeSellInstruction crates choices amountIn minOut poolInfo payer
      (userAccounts poolInfo wsolAcc ata).1 (userAccounts poolInfo wsolAcc ata).2 = .ok swap) :
    ∃ final, performSwap priced ledger swap = some final ∧
      final wsolAcc = some (.token wrappedSolMint priced.toNat) := by
  rw [performSwap_sell built]
  simp only [userAccounts, PoolInfo.tokenMint, PoolInfo.tokenSide, oriented, Bool.false_eq_true,
    if_false, quote] at token ⊢
  rw [(debit_eq_some_iff token).mpr ⟨covered, rfl⟩, Option.bind_some]
  have waiting : Function.update ledger ata
      (some (.token poolInfo.baseMint (held - amountIn.toNat))) wsolAcc =
        some (.token wrappedSolMint 0) := by
    rw [Function.update_of_ne other.symm, opened]
  have word := priced.isLt
  refine ⟨_, (credit_eq_some_iff waiting).mpr ⟨by omega, rfl⟩, ?_⟩
  rw [Function.update_self, Nat.zero_add]

/-- What a sell does before it closes the token account. -/
def sellFront (crates : Crates) (poolInfo : PoolInfo) (payer : Pubkey) (extension : Option Ix)
    (wsolAcc : Pubkey) (seed : String) (lamports : U64) (swap : Instruction) : List Ix :=
  openingIxs crates poolInfo payer false extension wsolAcc seed lamports ++
    [.own swap, .closeAccount SplToken.id wsolAcc payer payer]

/-- A sell that closes the token account does so last. -/
theorem buildSellIxs_eq_ok {instructions : List Ix}
    (built : buildSellIxs crates choices amountIn minOut poolInfo payer true = .ok instructions) :
    ∃ extension wsolAcc seed lamports swap,
      maybeExtendPoolIx poolInfo payer = .ok extension ∧
      genPubkeyWithSeed crates choices payer = .ok (wsolAcc, seed) ∧
      (poolInfo.solIsBase = false → lamports = crates.minimumBalance SplToken.accountLen) ∧
      makeSellInstruction crates choices amountIn minOut poolInfo payer
        (userAccounts poolInfo wsolAcc (tokenAta crates poolInfo payer)).1
        (userAccounts poolInfo wsolAcc (tokenAta crates poolInfo payer)).2 = .ok swap ∧
      instructions = sellFront crates poolInfo payer extension wsolAcc seed lamports swap ++
        [.closeAccount poolInfo.tokenProgram (tokenAta crates poolInfo payer) payer payer] := by
  rw [buildSellIxs] at built
  obtain ⟨extension, wsolAcc, seed, lamports, swap, closing, extended, fresh, funded, swapped,
    closed, rfl⟩ := swapSequence_eq_ok built
  simp only [closeAtaIxs, splTokenCloseAccount, if_true, bind_eq_ok_iff, Except.ok.injEq] at closed
  obtain ⟨_, ⟨_, _, rfl⟩, rfl⟩ := closed
  refine ⟨extension, wsolAcc, seed, lamports, swap, extended, fresh, ?_, swapped, ?_⟩
  · intro oriented
    simp only [oriented, Bool.false_eq_true, if_false, wsolFunding] at funded
    exact (Except.ok.inj funded).symm
  · simp [sellFront]

section Front

variable {extension : Option Ix} {seed : String}

/-- The front of a sell runs as its opening, its swap and the closing of the WSOL account. -/
theorem performAll_sellFront (extended : maybeExtendPoolIx poolInfo payer = .ok extension)
    (unused : ledger wsolAcc = none) (isSwap : swap.isSwap) :
    performAll (performIx crates priced) ledger
        (sellFront crates poolInfo payer extension wsolAcc seed lamports swap) =
      if (crates.minimumBalance SplToken.accountLen).toNat ≤ lamports.toNat then
        (performSwap priced (Function.update ledger wsolAcc (some (.token wrappedSolMint
          (lamports.toNat - (crates.minimumBalance SplToken.accountLen).toNat)))) swap).bind
            fun ledger => close wrappedSolMint ledger wsolAcc
      else none := by
  rw [sellFront, performAll_append_eq_bind, performAll_opening extended unused]
  split
  · simp only [Option.bind_some, performAll_cons, performAll_nil, performIx, isSwap, if_true,
      Option.bind_fun_some]
  · rfl

/-- **The token account at its closing.** -/
theorem token_after_front {reached : Tokens}
    (extended : maybeExtendPoolIx poolInfo payer = .ok extension)
    (unused : ledger wsolAcc = none) (token : ledger ata = some (.token poolInfo.tokenMint held))
    (built : makeSellInstruction crates choices amountIn minOut poolInfo payer
      (userAccounts poolInfo wsolAcc ata).1 (userAccounts poolInfo wsolAcc ata).2 = .ok swap)
    (run : performAll (performIx crates priced) ledger
      (sellFront crates poolInfo payer extension wsolAcc seed lamports swap) = some reached) :
    reached ata = some (.token poolInfo.tokenMint (leftAfterSell poolInfo amountIn priced held)) ∧
      (poolInfo.solIsBase = false → amountIn.toNat ≤ held) := by
  have other : ata ≠ wsolAcc := by
    rintro rfl
    rw [unused] at token
    cases token
  rw [performAll_sellFront extended unused (swapsThrough_sell built).isSwap] at run
  obtain ⟨_, run⟩ := Option.ite_none_right_eq_some.mp run
  obtain ⟨swapped, sold, closed⟩ := Option.bind_eq_some_iff.mp run
  rw [close_of_ne closed other]
  refine token_after_swap other ?_ built sold
  rw [Function.update_of_ne other, token]

/-- A sell of a token that the account covers, for WSOL, gets to the closing. -/
theorem front_succeeds (priced : U64) (seed : String)
    (extended : maybeExtendPoolIx poolInfo payer = .ok extension)
    (unused : ledger wsolAcc = none) (quote : poolInfo.quoteMint = wrappedSolMint)
    (oriented : poolInfo.solIsBase = false)
    (token : ledger ata = some (.token poolInfo.tokenMint held)) (covered : amountIn.toNat ≤ held)
    (built : makeSellInstruction crates choices amountIn minOut poolInfo payer
      (userAccounts poolInfo wsolAcc ata).1 (userAccounts poolInfo wsolAcc ata).2 = .ok swap) :
    ∃ reached, performAll (performIx crates priced) ledger
      (sellFront crates poolInfo payer extension wsolAcc seed
        (crates.minimumBalance SplToken.accountLen) swap) = some reached := by
  have other : ata ≠ wsolAcc := by
    rintro rfl
    rw [unused] at token
    cases token
  rw [performAll_sellFront extended unused (swapsThrough_sell built).isSwap, if_pos le_rfl,
    Nat.sub_self]
  obtain ⟨final, sold, proceeds⟩ := swap_succeeds priced other quote oriented
    ((Function.update_of_ne other _ _).trans token) covered (Function.update_self _ _ _) built
  rw [sold, Option.bind_some]
  exact ⟨_, close_native proceeds⟩

end Front

end Run

/-! ## The closing -/

section Closing

variable {extension : Option Ix} {wsolAcc ata : Pubkey} {seed : String} {swap : Instruction}
variable {instructions : List Ix} {held : ℕ}

/-- The front of a sell ends with nothing in the token account exactly when it sells all of it
for WSOL. -/
theorem front_empties_iff (seed : String) (sided : poolInfo.OneSided) (positive : 0 < priced)
    (extended : maybeExtendPoolIx poolInfo payer = .ok extension)
    (funded : poolInfo.solIsBase = false → lamports = crates.minimumBalance SplToken.accountLen)
    (unused : ledger wsolAcc = none) (token : ledger ata = some (.token poolInfo.tokenMint held))
    (built : makeSellInstruction crates choices amountIn minOut poolInfo payer
      (userAccounts poolInfo wsolAcc ata).1 (userAccounts poolInfo wsolAcc ata).2 = .ok swap) :
    (∃ reached, performAll (performIx crates priced) ledger
        (sellFront crates poolInfo payer extension wsolAcc seed lamports swap) = some reached ∧
      reached ata = some (.token poolInfo.tokenMint 0)) ↔
      poolInfo.quoteMint = wrappedSolMint ∧ held = amountIn.toNat := by
  constructor
  · rintro ⟨reached, run, empty⟩
    obtain ⟨left, covered⟩ := token_after_front extended unused token built run
    rw [empty, Option.some.injEq, Slot.token.injEq] at left
    exact (leftAfterSell_eq_zero_iff sided positive covered).mp left.2.symm
  · rintro ⟨quote, all⟩
    have oriented := sided.quoteMint_eq_iff.mp quote
    obtain ⟨reached, run⟩ := front_succeeds priced seed extended unused
      quote oriented token all.ge built
    rw [← funded oriented] at run
    obtain ⟨left, covered⟩ := token_after_front extended unused token built run
    rw [(leftAfterSell_eq_zero_iff sided positive covered).mpr ⟨quote, all⟩] at left
    exact ⟨reached, run, left⟩

/-- The token account is empty at its closing exactly when all of it is sold for WSOL. -/
theorem closesEmpty_sell_iff (sided : poolInfo.OneSided) (positive : 0 < priced)
    (built : buildSellIxs crates choices amountIn minOut poolInfo payer true = .ok instructions)
    (unused : ∀ wsolAcc seed, genPubkeyWithSeed crates choices payer = .ok (wsolAcc, seed) →
      ledger wsolAcc = none)
    (token : ledger (tokenAta crates poolInfo payer) = some (.token poolInfo.tokenMint held)) :
    ClosesEmpty crates priced ledger poolInfo.tokenProgram (tokenAta crates poolInfo payer) payer
        instructions ↔
      poolInfo.quoteMint = wrappedSolMint ∧ held = amountIn.toNat := by
  obtain ⟨extension, wsolAcc, seed, lamports, swap, extended, fresh, funded, swapped, rfl⟩ :=
    buildSellIxs_eq_ok built
  have unused := unused wsolAcc seed fresh
  rw [← front_empties_iff seed sided positive extended funded unused token swapped]
  constructor
  · rintro ⟨front, reached, same, run, empty⟩
    obtain rfl := List.append_cancel_right same
    obtain ⟨left, -⟩ := token_after_front extended unused token swapped run
    rw [balance_of_token left, Option.some.injEq] at empty
    rw [empty] at left
    exact ⟨reached, run, left⟩
  · rintro ⟨reached, run, empty⟩
    exact ⟨_, reached, rfl, run, balance_of_token empty⟩

/-- The transaction succeeds exactly then too: the closing is refused otherwise. -/
theorem sell_succeeds_iff (sided : poolInfo.OneSided) (positive : 0 < priced)
    (built : buildSellIxs crates choices amountIn minOut poolInfo payer true = .ok instructions)
    (unused : ∀ wsolAcc seed, genPubkeyWithSeed crates choices payer = .ok (wsolAcc, seed) →
      ledger wsolAcc = none)
    (token : ledger (tokenAta crates poolInfo payer) = some (.token poolInfo.tokenMint held)) :
    (performAll (performIx crates priced) ledger instructions).isSome ↔
      poolInfo.quoteMint = wrappedSolMint ∧ held = amountIn.toNat := by
  obtain ⟨extension, wsolAcc, seed, lamports, swap, extended, fresh, funded, swapped, rfl⟩ :=
    buildSellIxs_eq_ok built
  have unused := unused wsolAcc seed fresh
  have last (reached : Tokens) : performAll (performIx crates priced) reached
      [.closeAccount poolInfo.tokenProgram (tokenAta crates poolInfo payer) payer payer] =
        close wrappedSolMint reached (tokenAta crates poolInfo payer) := by
    rw [performAll_cons, performIx]
    exact Option.bind_fun_some _
  rw [← front_empties_iff seed sided positive extended funded unused token swapped,
    performAll_append_eq_bind]
  constructor
  · intro succeeds
    obtain ⟨final, run⟩ := Option.isSome_iff_exists.mp succeeds
    obtain ⟨reached, run, closed⟩ := Option.bind_eq_some_iff.mp run
    obtain ⟨left, -⟩ := token_after_front extended unused token swapped run
    rw [last] at closed
    have empty := (close_isSome_iff left sided.tokenMint_ne).mp (Option.isSome_of_mem closed)
    rw [empty] at left
    exact ⟨reached, run, left⟩
  · rintro ⟨reached, run, empty⟩
    rw [run, Option.bind_some, last]
    exact (close_isSome_iff empty sided.tokenMint_ne).mpr rfl

/-- Both methods submit the sell of the current pool that closes the token account; a compute
budget touches no account. -/
theorem submitted_sell_eq (priced : U64) (ledger : Tokens) {rpc : Rpc} {current : PoolInfo}
    {submitted : List Ix}
    (quoted : sellAmountOut crates rpc amountIn poolInfo = .ok (current, minOut))
    (sold : sell crates choices rpc amountIn poolInfo payer = .ok submitted ∨
      simulateSell crates choices rpc poolInfo amountIn payer = .ok submitted) :
    ∃ instructions,
      buildSellIxs crates choices amountIn minOut current payer true = .ok instructions ∧
      performAll (performIx crates priced) ledger submitted =
        performAll (performIx crates priced) ledger instructions := by
  rcases sold with sold | simulated
  · simp only [sell, quoted, bind_eq_ok_iff, Except.ok.injEq] at sold
    obtain ⟨_, rfl, instructions, built, rfl⟩ := sold
    exact ⟨instructions, built, rfl⟩
  · simp only [simulateSell, quoted, bind_eq_ok_iff, Except.ok.injEq] at simulated
    obtain ⟨_, rfl, built⟩ := simulated
    exact ⟨submitted, built, rfl⟩

/-- **A submitted or simulated sell succeeds exactly when it empties the account for WSOL.** -/
theorem submitted_sell_succeeds_iff {rpc : Rpc} {current : PoolInfo} {submitted : List Ix}
    (quoted : sellAmountOut crates rpc amountIn poolInfo = .ok (current, minOut))
    (sold : sell crates choices rpc amountIn poolInfo payer = .ok submitted ∨
      simulateSell crates choices rpc poolInfo amountIn payer = .ok submitted)
    (sided : current.OneSided) (positive : 0 < priced)
    (unused : ∀ wsolAcc seed, genPubkeyWithSeed crates choices payer = .ok (wsolAcc, seed) →
      ledger wsolAcc = none)
    (token : ledger (tokenAta crates current payer) = some (.token current.tokenMint held)) :
    (performAll (performIx crates priced) ledger submitted).isSome ↔
      current.quoteMint = wrappedSolMint ∧ held = amountIn.toNat := by
  obtain ⟨instructions, built, same⟩ := submitted_sell_eq priced ledger quoted sold
  rw [same]
  exact sell_succeeds_iff sided positive built unused token

end Closing

/-- **A sell closes an empty token account exactly when WSOL is the quote and it spends the whole
balance**, and in no other case does its transaction succeed. -/
theorem sell_closes_empty_account_iff (crates : Crates) (choices : Choices)
    (amountIn minOut priced : U64) (poolInfo : PoolInfo) (payer : Pubkey) (instructions : List Ix)
    (ledger : Tokens) (held : ℕ) (sided : poolInfo.OneSided)
    (built : buildSellIxs crates choices amountIn minOut poolInfo payer true = .ok instructions)
    (unused : ∀ wsolAcc seed, genPubkeyWithSeed crates choices payer = .ok (wsolAcc, seed) →
      ledger wsolAcc = none)
    (token : ledger (tokenAta crates poolInfo payer) = some (.token poolInfo.tokenMint held))
    (positive : 0 < priced) :
    (ClosesEmpty crates priced ledger poolInfo.tokenProgram (tokenAta crates poolInfo payer) payer
        instructions ↔
      poolInfo.quoteMint = wrappedSolMint ∧ held = amountIn.toNat) ∧
    ((performAll (performIx crates priced) ledger instructions).isSome ↔
      poolInfo.quoteMint = wrappedSolMint ∧ held = amountIn.toNat) :=
  ⟨closesEmpty_sell_iff sided positive built unused token,
    sell_succeeds_iff sided positive built unused token⟩

namespace Recorded

/-- A ledger with a balance in the shareholder's account of the recorded coin. -/
def tokens (held : ℕ) : Tokens := fun address =>
  if address = tokenAta freshCrates laterPool shareholder then some (.token mint held) else none

theorem oneSided_laterPool : laterPool.OneSided := Or.inr ⟨by decide +kernel, rfl⟩

/-- The fresh account is not in use. -/
theorem tokens_unused {wsolAcc : Pubkey} {seed : String} {held : ℕ}
    (fresh : genPubkeyWithSeed freshCrates firstChoices shareholder = .ok (wsolAcc, seed)) :
    tokens held wsolAcc = none := by
  have account : wsolAcc = poolAuthority := by
    simp only [genPubkeyWithSeed, bind_eq_ok_iff, Except.ok.injEq, Prod.mk.injEq] at fresh
    obtain ⟨_, derived, rfl, -⟩ := fresh
    exact (Except.ok.inj derived).symm
  rw [account]
  exact if_neg (by decide +kernel)

theorem tokens_held (held : ℕ) : tokens held (tokenAta freshCrates laterPool shareholder) =
    some (.token laterPool.tokenMint held) := by
  have oriented : laterPool.solIsBase = false := oneSided_laterPool.quoteMint_eq_iff.mp rfl
  rw [tokens, if_pos rfl, PoolInfo.tokenMint, PoolInfo.tokenSide, oriented]
  rfl

/-- The instructions of a sell of 400. -/
theorem sell_builds : ∃ instructions,
    buildSellIxs freshCrates firstChoices 400 0 laterPool shareholder true = .ok instructions :=
  isOk_iff.mp (by decide +kernel)

end Recorded

/-- Selling all of a balance of 400 succeeds. -/
theorem sell_closes_empty_account_iff_recorded :
    ∃ instructions, buildSellIxs Recorded.freshCrates Recorded.firstChoices 400 0
        Recorded.laterPool Recorded.shareholder true = .ok instructions ∧
      (performAll (performIx Recorded.freshCrates 7) (Recorded.tokens 400)
        instructions).isSome := by
  obtain ⟨instructions, built⟩ := Recorded.sell_builds
  exact ⟨instructions, built, (sell_closes_empty_account_iff Recorded.freshCrates
    Recorded.firstChoices 400 0 7 Recorded.laterPool Recorded.shareholder instructions
    (Recorded.tokens 400) 400 Recorded.oneSided_laterPool built (fun _ _ => Recorded.tokens_unused)
    (Recorded.tokens_held 400) (by decide)).2.mpr ⟨rfl, rfl⟩⟩

/-- Selling 400 of a balance of 1000 leaves 600 in the account at its closing. -/
theorem sell_closes_held_account :
    ¬ ∀ (crates : Crates) (choices : Choices) (amountIn minOut priced : U64) (poolInfo : PoolInfo)
        (payer : Pubkey) (instructions : List Ix) (ledger : Tokens) (held : ℕ),
      poolInfo.OneSided →
      buildSellIxs crates choices amountIn minOut poolInfo payer true = .ok instructions →
      (∀ wsolAcc seed, genPubkeyWithSeed crates choices payer = .ok (wsolAcc, seed) →
        ledger wsolAcc = none) →
      ledger (tokenAta crates poolInfo payer) = some (.token poolInfo.tokenMint held) →
      (poolInfo.solIsBase = false → amountIn.toNat ≤ held) → 0 < priced →
        ClosesEmpty crates priced ledger poolInfo.tokenProgram (tokenAta crates poolInfo payer)
          payer instructions := by
  intro empty
  obtain ⟨instructions, built⟩ := Recorded.sell_builds
  have empty := empty _ _ _ _ 7 _ _ _ (Recorded.tokens 1_000) 1_000 Recorded.oneSided_laterPool
    built (fun _ _ => Recorded.tokens_unused) (Recorded.tokens_held 1_000) (fun _ => by decide)
    (by decide)
  exact absurd ((closesEmpty_sell_iff Recorded.oneSided_laterPool (by decide) built
    (fun _ _ => Recorded.tokens_unused) (Recorded.tokens_held 1_000)).mp empty).2 (by decide)

end PumpSwapSdk
