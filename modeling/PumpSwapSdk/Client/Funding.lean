import PumpSwapSdk.Client.SwapAccounts

/-!
# The lamports of the WSOL account

A swap sequence creates a fresh WSOL account and funds it with the rent, and with what the swap
spends when that is WSOL. The two are added as plain words. An amount that does not fit makes a
checked build panic, and an unchecked one fund the account with less than the rent
(`wsol_funding_is_exact_iff`).
-/

set_option autoImplicit false

namespace PumpSwapSdk

variable {crates : Crates} {choices : Choices} {poolInfo : PoolInfo} {payer : Pubkey}
variable {call : SwapCall}

/-! ## What the swap spends -/

/-- The side of a pool that the traded token is not on. -/
def PoolInfo.wsolSide (pool : PoolInfo) : TokenSide :=
  match pool.tokenSide with
  | .base => .quote
  | .quote => .base

/-- WSOL is on the base side exactly in one orientation. -/
theorem PoolInfo.wsolSide_eq (pool : PoolInfo) :
    pool.wsolSide = if pool.solIsBase then .base else .quote := by
  rw [wsolSide, tokenSide]
  cases pool.solIsBase with
  | true => rfl
  | false => rfl

theorem PoolInfo.tokenSide_ne_wsolSide (pool : PoolInfo) : pool.tokenSide ≠ pool.wsolSide := by
  rw [wsolSide]
  cases pool.tokenSide with
  | base => decide
  | quote => decide

namespace SwapCall

/-- The side the swap spends: a buy spends the quote and a sell the base, a token buy spends
SOL and a token sell the token. -/
def spentSide (pool : PoolInfo) : SwapCall → TokenSide
  | .buy _ _ _ _ => .quote
  | .buyExactQuoteIn _ _ _ _ => .quote
  | .sell _ _ _ => .base
  | .tokenBuy _ _ _ _ => pool.wsolSide
  | .tokenSell _ _ _ => pool.tokenSide

/-- The most the swap spends. -/
def spentAmount : SwapCall → U64
  | .buy _ maxQuoteAmountIn _ _ => maxQuoteAmountIn
  | .buyExactQuoteIn spendableQuoteIn _ _ _ => spendableQuoteIn
  | .sell baseAmountIn _ _ => baseAmountIn
  | .tokenBuy solIn _ _ _ => solIn
  | .tokenSell tokensIn _ _ => tokensIn

/-- Whether the call asks for the token account to be closed. -/
def closesTokenAccount : SwapCall → Bool
  | .buy _ _ _ _ => false
  | .buyExactQuoteIn _ _ _ _ => false
  | .sell _ _ closeSplAcc => closeSplAcc
  | .tokenBuy _ _ _ _ => false
  | .tokenSell _ _ closeTokenAta => closeTokenAta

/-- Whether the call asks for the token account to be created. -/
def createsTokenAccount : SwapCall → Bool
  | .buy _ _ _ createAta => createAta
  | .buyExactQuoteIn _ _ _ createAta => createAta
  | .sell _ _ _ => false
  | .tokenBuy _ _ _ createAta => createAta
  | .tokenSell _ _ _ => false

/-- The lamports the WSOL account is meant to hold, over unbounded integers. -/
def requiredLamports (crates : Crates) (pool : PoolInfo) (call : SwapCall) : ℕ :=
  (crates.minimumBalance SplToken.accountLen).toNat +
    if call.spentSide pool = pool.wsolSide then call.spentAmount.toNat else 0

/-- Every builder runs the shared sequence, and adds the amount to the rent exactly when the swap
spends the WSOL side. -/
theorem build_eq_funded (crates : Crates) (choices : Choices) (poolInfo : PoolInfo)
    (payer : Pubkey) (call : SwapCall) :
    ∃ createAta swapIx,
      call.build crates choices poolInfo payer = swapSequence crates choices poolInfo payer
        (if call.spentSide poolInfo = poolInfo.wsolSide then some call.spentAmount else none)
        createAta call.closesTokenAccount swapIx ∧
      ∀ userBaseAcc userQuoteAcc, ∃ swap, swapIx userBaseAcc userQuoteAcc = .ok swap := by
  have quote_spent (amount : U64) :
      (if poolInfo.solIsBase then none else some amount) =
        if TokenSide.quote = poolInfo.wsolSide then some amount else none := by
    rw [poolInfo.wsolSide_eq]
    cases poolInfo.solIsBase with
    | true => rfl
    | false => rfl
  have base_spent (amount : U64) :
      (if poolInfo.solIsBase then some amount else none) =
        if TokenSide.base = poolInfo.wsolSide then some amount else none := by
    rw [poolInfo.wsolSide_eq]
    cases poolInfo.solIsBase with
    | true => rfl
    | false => rfl
  cases call with
  | buy baseAmountOut maxQuoteAmountIn trackVolume createAta =>
      rw [build, buildBuyIxs, quote_spent]
      exact ⟨_, _, rfl, fun _ _ => ⟨_, rfl⟩⟩
  | buyExactQuoteIn spendableQuoteIn minBaseAmountOut trackVolume createAta =>
      rw [build, buildBuyExactQuoteInIxs, quote_spent]
      exact ⟨_, _, rfl, fun _ _ => ⟨_, rfl⟩⟩
  | sell baseAmountIn minQuoteAmountOut closeSplAcc =>
      rw [build, buildSellIxs, base_spent]
      exact ⟨_, _, rfl, fun _ _ => ⟨_, rfl⟩⟩
  | tokenBuy solIn minTokensOut trackVolume createAta =>
      rw [build, buildTokenBuyIxs, spentSide, if_pos rfl]
      refine ⟨_, _, rfl, fun _ _ => ?_⟩
      split
      · exact ⟨_, rfl⟩
      · exact ⟨_, rfl⟩
  | tokenSell tokensIn minSolOut closeTokenAta =>
      rw [build, buildTokenSellIxs, spentSide, if_neg poolInfo.tokenSide_ne_wsolSide]
      refine ⟨_, _, rfl, fun _ _ => ?_⟩
      split
      · exact ⟨_, rfl⟩
      · exact ⟨_, rfl⟩

end SwapCall

/-! ## Other crates -/

/-- What the crates that seed and check accounts document: base 58 has its own alphabet, a seed of
at most 32 of its characters derives an address, and the classic token crate builds instructions
for its own program only. -/
structure Crates.Documented (crates : Crates) : Prop where
  encodes : ∀ bytes, ∀ c ∈ (crates.bs58Encode bytes).toList, c ∈ base58Alphabet
  derives : ∀ base seed, seed.length ≤ 32 → (∀ c ∈ seed.toList, c ∈ base58Alphabet) →
    ∃ account, crates.createWithSeed base seed SplToken.id = .ok account
  accepts : crates.checkProgramAccount SplToken.id = .ok ()
  refuses : ∀ program, program ≠ SplToken.id →
    ∃ message, crates.checkProgramAccount program = .error (.err message)

/-- A fresh account is always derived. -/
theorem Crates.Documented.fresh (documented : crates.Documented) (choices : Choices)
    (payer : Pubkey) :
    ∃ wsolAcc seed, genPubkeyWithSeed crates choices payer = .ok (wsolAcc, seed) := by
  have characters := documented.encodes choices.seedBytes.toList
  generalize encoded : (crates.bs58Encode choices.seedBytes.toList).toList = text at characters
  obtain ⟨account, derived⟩ := documented.derives payer (String.ofList (text.take 32))
    (by rw [String.length_ofList]; exact List.length_take_le 32 text)
    (by
      intro c member
      rw [String.toList_ofList] at member
      exact characters c (List.mem_of_mem_take member))
  refine ⟨account, String.ofList (text.take 32), ?_⟩
  rw [genPubkeyWithSeed, encoded, derived]
  rfl

/-! ## What a built sequence funds -/

/-- The account an instruction pays lamports into, and how many. -/
def Ix.funding : Ix → Option (Pubkey × U64)
  | .createAccountWithSeed _ toPubkey _ _ lamports _ _ => some (toPubkey, lamports)
  | .transfer _ toPubkey lamports => some (toPubkey, lamports)
  | _ => none

/-- The call returns an error, or it funds the fresh account, and no other, with exactly the
lamports it is meant to hold. It does not panic. -/
def FundsExactly (crates : Crates) (choices : Choices) (poolInfo : PoolInfo) (payer : Pubkey)
    (call : SwapCall) : Prop :=
  match call.build crates choices poolInfo payer with
  | .ok instructions => ∃ wsolAcc seed lamports,
      genPubkeyWithSeed crates choices payer = .ok (wsolAcc, seed) ∧
      instructions.filterMap Ix.funding = [(wsolAcc, lamports)] ∧
      lamports.toNat = call.requiredLamports crates poolInfo
  | .error (.err _) => True
  | .error (.panicked _) => False

/-- The lamports fit a word. -/
def FundingFits (crates : Crates) (poolInfo : PoolInfo) (call : SwapCall) : Prop :=
  call.requiredLamports crates poolInfo < 2 ^ 64

/-- An unchecked build that is asked to close a token account of another token program returns an
error in any case, since it builds no instruction for it. -/
def RefusesClosing (crates : Crates) (poolInfo : PoolInfo) (call : SwapCall) : Prop :=
  crates.overflowChecks = false ∧ call.closesTokenAccount ∧ poolInfo.tokenProgram ≠ SplToken.id

/-- Only the creation of the fresh account is funded before the swap. -/
theorem funding_opening {extension : Option Ix} {wsolAcc : Pubkey} {seed : String}
    {lamports : U64} {createAta : Bool}
    (extended : maybeExtendPoolIx poolInfo payer = .ok extension) :
    (openingIxs crates poolInfo payer createAta extension wsolAcc seed lamports).filterMap
      Ix.funding = [(wsolAcc, lamports)] := by
  have early : extension.toList.filterMap Ix.funding = [] := by
    cases extension with
    | none => rfl
    | some ix =>
        obtain ⟨other, rfl, -⟩ := mem_extension extended (Option.mem_toList.mpr rfl)
        rfl
  cases createAta with
  | false => simp [openingIxs, early, createAtaTokenOrNotWithProgram, Ix.funding]
  | true => simp [openingIxs, early, createAtaTokenOrNotWithProgram, Ix.funding]

/-- The lamports that the call computes, and whether it is asked to close the token account,
decide what it returns. -/
theorem SwapCall.build_eq_bind (documented : crates.Documented) (choices : Choices)
    (poolInfo : PoolInfo) (payer : Pubkey) (call : SwapCall) :
    ∃ extension wsolAcc seed createAta swap,
      maybeExtendPoolIx poolInfo payer = .ok extension ∧
      genPubkeyWithSeed crates choices payer = .ok (wsolAcc, seed) ∧
      call.build crates choices poolInfo payer =
        (wsolFunding crates (crates.minimumBalance SplToken.accountLen)
            (if call.spentSide poolInfo = poolInfo.wsolSide then some call.spentAmount
              else none)).bind fun lamports =>
          (closeAtaIxs crates poolInfo (tokenAta crates poolInfo payer) payer
            call.closesTokenAccount).bind fun closing =>
            .ok (openingIxs crates poolInfo payer createAta extension wsolAcc seed lamports ++
              .own swap :: .closeAccount SplToken.id wsolAcc payer payer :: closing) := by
  obtain ⟨wsolAcc, seed, fresh⟩ := documented.fresh choices payer
  obtain ⟨extension, extended⟩ : ∃ extension, maybeExtendPoolIx poolInfo payer = .ok extension := by
    unfold maybeExtendPoolIx
    split
    · exact ⟨_, rfl⟩
    · exact ⟨_, rfl⟩
  obtain ⟨createAta, swapIx, shared, swaps⟩ := call.build_eq_funded crates choices poolInfo payer
  obtain ⟨swap, swapped⟩ := swaps (userAccounts poolInfo wsolAcc (tokenAta crates poolInfo payer)).1
    (userAccounts poolInfo wsolAcc (tokenAta crates poolInfo payer)).2
  refine ⟨extension, wsolAcc, seed, createAta, swap, extended, fresh, ?_⟩
  rw [shared, swapSequence, extended, fresh]
  simp only [initializeAccount, splTokenCloseAccount, documented.accepts, createAta_eq_tokenAta,
    swapped, openingIxs, Bind.bind, Except.bind, List.append_assoc, List.cons_append,
    List.nil_append]

/-! ## The sum -/

section Sum

variable {closeAta : Bool}

/-- Lamports that fit are computed exactly. -/
theorem wsolFunding_of_fits (fits : FundingFits crates poolInfo call) :
    ∃ lamports, wsolFunding crates (crates.minimumBalance SplToken.accountLen)
        (if call.spentSide poolInfo = poolInfo.wsolSide then some call.spentAmount else none) =
          .ok lamports ∧
      lamports.toNat = call.requiredLamports crates poolInfo := by
  rw [FundingFits, SwapCall.requiredLamports] at fits
  rw [SwapCall.requiredLamports]
  by_cases spends : call.spentSide poolInfo = poolInfo.wsolSide
  · rw [if_pos spends] at fits ⊢
    rw [if_pos spends]
    exact ⟨_, if_neg fun overflow => absurd overflow.2 (Nat.not_le.mpr fits),
      BitVec.toNat_add_of_lt fits⟩
  · rw [if_neg spends, if_neg spends]
    exact ⟨_, rfl, rfl⟩

/-- Lamports that do not fit panic in a checked build, and wrap in an unchecked one. -/
theorem wsolFunding_of_overflow (overflows : ¬ FundingFits crates poolInfo call) :
    (crates.overflowChecks → ∃ message,
      wsolFunding crates (crates.minimumBalance SplToken.accountLen)
        (if call.spentSide poolInfo = poolInfo.wsolSide then some call.spentAmount else none) =
          .error (.panicked message)) ∧
    (crates.overflowChecks = false → ∃ lamports,
      wsolFunding crates (crates.minimumBalance SplToken.accountLen)
        (if call.spentSide poolInfo = poolInfo.wsolSide then some call.spentAmount else none) =
          .ok lamports) := by
  rw [FundingFits, SwapCall.requiredLamports] at overflows
  by_cases spends : call.spentSide poolInfo = poolInfo.wsolSide
  · rw [if_pos spends] at overflows ⊢
    constructor
    · intro checked
      exact ⟨_, if_pos ⟨checked, Nat.not_lt.mp overflows⟩⟩
    · intro unchecked
      exact ⟨_, if_neg (by simp [unchecked])⟩
  · rw [if_neg spends, Nat.add_zero] at overflows
    exact absurd (BitVec.isLt _) overflows

/-- A token account of the classic program is closed by an instruction that funds nothing. -/
theorem closeAtaIxs_of_accepted (documented : crates.Documented) (ata payer : Pubkey)
    (accepted : ¬ (closeAta ∧ poolInfo.tokenProgram ≠ SplToken.id)) :
    ∃ closing, closeAtaIxs crates poolInfo ata payer closeAta = .ok closing ∧
      closing.filterMap Ix.funding = [] := by
  cases closeAta with
  | false => exact ⟨[], rfl, rfl⟩
  | true =>
      have classic : poolInfo.tokenProgram = SplToken.id := by simpa using accepted
      refine ⟨[.closeAccount poolInfo.tokenProgram ata payer payer], ?_, rfl⟩
      simp only [closeAtaIxs, splTokenCloseAccount, classic, documented.accepts, if_true,
        Bind.bind, Except.bind]

/-- The closing of another program's account is refused. -/
theorem closeAtaIxs_of_refused (documented : crates.Documented) (ata payer : Pubkey)
    (closes : closeAta) (other : poolInfo.tokenProgram ≠ SplToken.id) :
    ∃ message, closeAtaIxs crates poolInfo ata payer closeAta = .error (.err message) := by
  obtain ⟨message, refused⟩ := documented.refuses poolInfo.tokenProgram other
  refine ⟨message, ?_⟩
  simp only [closeAtaIxs, splTokenCloseAccount, closes, refused, if_true, Bind.bind, Except.bind]

end Sum

/-! ## Exact funding -/

/-- A call whose lamports are computed exactly funds exactly, or is refused. -/
theorem fundsExactly_of_fits (documented : crates.Documented)
    (fits : FundingFits crates poolInfo call) :
    FundsExactly crates choices poolInfo payer call := by
  obtain ⟨extension, wsolAcc, seed, createAta, swap, extended, fresh, returned⟩ :=
    SwapCall.build_eq_bind documented choices poolInfo payer call
  obtain ⟨lamports, funded, same⟩ := wsolFunding_of_fits fits
  rw [FundsExactly, returned, funded]
  by_cases refused : call.closesTokenAccount ∧ poolInfo.tokenProgram ≠ SplToken.id
  · obtain ⟨message, closing⟩ := closeAtaIxs_of_refused documented
      (tokenAta crates poolInfo payer) payer refused.1 refused.2
    simp only [Except.bind, closing]
  · obtain ⟨closing, closed, unfunded⟩ := closeAtaIxs_of_accepted documented
      (tokenAta crates poolInfo payer) payer refused
    simp only [Except.bind, closed]
    refine ⟨wsolAcc, seed, lamports, fresh, ?_, same⟩
    rw [List.filterMap_append, funding_opening extended, List.filterMap_cons_none (by rfl),
      List.filterMap_cons_none (by rfl), unfunded]
    rfl

/-- An unchecked build that cannot close the token account returns an error whatever it adds
up. -/
theorem fundsExactly_of_refused (documented : crates.Documented)
    (refused : RefusesClosing crates poolInfo call) :
    FundsExactly crates choices poolInfo payer call := by
  by_cases fits : FundingFits crates poolInfo call
  · exact fundsExactly_of_fits documented fits
  · obtain ⟨unchecked, closes, other⟩ := refused
    obtain ⟨extension, wsolAcc, seed, createAta, swap, -, -, returned⟩ :=
      SwapCall.build_eq_bind documented choices poolInfo payer call
    obtain ⟨lamports, funded⟩ := (wsolFunding_of_overflow fits).2 unchecked
    obtain ⟨message, closing⟩ := closeAtaIxs_of_refused documented
      (tokenAta crates poolInfo payer) payer closes other
    simp only [FundsExactly, returned, funded, Except.bind, closing]

/-- Lamports that do not fit are never funded: a word is less than they are. -/
theorem not_fundsExactly_of_overflow (documented : crates.Documented)
    (overflows : ¬ FundingFits crates poolInfo call)
    (closable : ¬ RefusesClosing crates poolInfo call) :
    ¬ FundsExactly crates choices poolInfo payer call := by
  obtain ⟨extension, wsolAcc, seed, createAta, swap, -, -, returned⟩ :=
    SwapCall.build_eq_bind documented choices poolInfo payer call
  intro exactly
  cases checked : crates.overflowChecks with
  | true =>
      obtain ⟨message, panics⟩ := (wsolFunding_of_overflow overflows).1 checked
      simp only [FundsExactly, returned, panics, Except.bind] at exactly
  | false =>
      obtain ⟨wrapped, funded⟩ := (wsolFunding_of_overflow overflows).2 checked
      have accepted : ¬ (call.closesTokenAccount ∧ poolInfo.tokenProgram ≠ SplToken.id) :=
        fun refused => closable ⟨checked, refused⟩
      obtain ⟨closing, closed, -⟩ := closeAtaIxs_of_accepted documented
        (tokenAta crates poolInfo payer) payer accepted
      simp only [FundsExactly, returned, funded, closed, Except.bind] at exactly
      obtain ⟨-, -, lamports, -, -, same⟩ := exactly
      rw [FundingFits, ← same] at overflows
      exact overflows lamports.isLt

/-- **When the WSOL account is funded exactly.** A builder returns an error or funds the account
with exactly the rent and what the swap spends of WSOL, and never panics, in exactly two cases:
the sum fits a word, or an unchecked build is asked to close a token account that the token crate
refuses to close. -/
theorem wsol_funding_is_exact_iff (crates : Crates) (choices : Choices) (poolInfo : PoolInfo)
    (payer : Pubkey) (call : SwapCall) (documented : crates.Documented) :
    FundsExactly crates choices poolInfo payer call ↔
      FundingFits crates poolInfo call ∨ RefusesClosing crates poolInfo call := by
  constructor
  · intro exactly
    by_contra neither
    rw [not_or] at neither
    exact not_fundsExactly_of_overflow documented neither.1 neither.2 exactly
  · rintro (fits | refused)
    · exact fundsExactly_of_fits documented fits
    · exact fundsExactly_of_refused documented refused

namespace Recorded

/-- The recorded derivations, with digits of the base-58 alphabet as seeds. -/
def seededCrates (checks : Bool) : Crates :=
  { Recorded.freshCrates with
    bs58Encode := fun bytes =>
      String.ofList (bytes.map fun byte => base58Alphabet.getD (byte.toNat % 58) '1')
    overflowChecks := checks }

theorem seededCrates_documented (checks : Bool) : (seededCrates checks).Documented := by
  refine ⟨?_, ?_, ?_, ?_⟩
  · intro bytes c member
    simp only [seededCrates, String.toList_ofList, List.mem_map] at member
    obtain ⟨byte, -, rfl⟩ := member
    have inside : byte.toNat % 58 < base58Alphabet.length := by
      rw [show base58Alphabet.length = 58 by decide +kernel]
      exact Nat.mod_lt _ (by decide)
    rw [List.getD_eq_getElem _ _ inside]
    exact List.getElem_mem inside
  · intro base seed _ _
    exact ⟨poolAuthority, by simp only [seededCrates, freshCrates]⟩
  · simp only [seededCrates, freshCrates, crates, if_true]
  · intro program other
    exact ⟨_, by simp only [seededCrates, freshCrates, crates, if_neg other, bail]; rfl⟩

end Recorded

/-- A buy of the recorded coin funds the WSOL account with its limit and the rent. -/
theorem wsol_funding_is_exact_iff_recorded :
    FundsExactly (Recorded.seededCrates true) Recorded.firstChoices Recorded.laterPool
      Recorded.shareholder (.buy 1 5 true true) := by
  have fits : FundingFits (Recorded.seededCrates true) Recorded.laterPool
      (.buy 1 5 true true) := by
    rw [FundingFits]
    decide +kernel
  rw [wsol_funding_is_exact_iff _ _ _ _ _ (Recorded.seededCrates_documented true)]
  exact Or.inl fits

/-- With the largest word as its limit, a buy panics in a checked build, and funds the account
with one lamport less than the rent in an unchecked one. -/
theorem wsol_funding_overflows :
    ((Recorded.seededCrates true).Documented ∧
      ¬ FundsExactly (Recorded.seededCrates true) Recorded.firstChoices Recorded.laterPool
        Recorded.shareholder (.buy 1 u64Max true true)) ∧
    (Recorded.seededCrates false).Documented ∧
      ¬ FundsExactly (Recorded.seededCrates false) Recorded.firstChoices Recorded.laterPool
        Recorded.shareholder (.buy 1 u64Max true true) := by
  have unfit (checks : Bool) : ¬ FundingFits (Recorded.seededCrates checks) Recorded.laterPool
      (.buy 1 u64Max true true) := by
    rw [FundingFits]
    cases checks with
    | false => decide +kernel
    | true => decide +kernel
  have unfunded (checks : Bool) :
      ¬ FundsExactly (Recorded.seededCrates checks) Recorded.firstChoices Recorded.laterPool
        Recorded.shareholder (.buy 1 u64Max true true) := by
    refine not_fundsExactly_of_overflow (Recorded.seededCrates_documented checks) (unfit checks) ?_
    rintro ⟨-, closes, -⟩
    cases closes
  exact ⟨⟨Recorded.seededCrates_documented true, unfunded true⟩,
    Recorded.seededCrates_documented false, unfunded false⟩

end PumpSwapSdk
