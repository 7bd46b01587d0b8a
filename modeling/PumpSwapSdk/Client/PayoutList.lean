import PumpSwapSdk.Client.Payout
import PumpSwapSdk.State.Shareholders

/-!
# Whom a payout lists

The distribution at the end of a payout names the shareholders after a fixed number of accounts,
and pump.fun compares them with the stored ones position by position. A payout is built only
from an active sharing config that decodes, and then lists exactly the stored addresses, in
stored order (`payout_lists_stored_shareholders`).
-/

set_option autoImplicit false

namespace PumpSwapSdk

variable {crates : Crates} {rpc : Rpc} {payer tokenMint : Pubkey}

/-! ## Active shareholders -/

/-- The shareholders are those of an active config that decodes. -/
theorem activeShareholders_eq_ok {shareholders : List Pubkey}
    (active : activeShareholders crates rpc tokenMint = .ok shareholders) :
    ∃ account config,
      rpc.getAccountWithCommitment (sharingConfigPda crates tokenMint) = .ok (some account) ∧
      SharingConfig.fromAccountData account.data = .ok config ∧ config.status = .active ∧
      shareholders = config.shareholders.map Shareholder.address := by
  obtain ⟨fetched, fetch, active⟩ := bind_eq_ok_iff.mp active
  obtain ⟨answer, answered, fetch⟩ := bind_eq_ok_iff.mp fetch
  cases answer with
  | none =>
      obtain rfl := Except.ok.inj fetch
      cases active
  | some account =>
      cases decoded : SharingConfig.fromAccountData account.data with
      | error fault =>
          simp only [decoded] at fetch
          cases fetch
      | ok config =>
          simp only [decoded] at fetch
          obtain rfl := Except.ok.inj fetch
          cases status : config.status with
          | paused => simp [SharingConfig.isActive, status, bail] at active
          | active =>
              refine ⟨account, config, answered, decoded, status, ?_⟩
              simpa [SharingConfig.isActive, status, eq_comm] using active

/-! ## The two payouts -/

/-- A call of one of the two payout builders. -/
inductive PayoutCall where
  | legacy
  | v2 (quoteMint quoteTokenProgram : Pubkey) (initializeShareholderAtas : Bool)
deriving DecidableEq

namespace PayoutCall

/-- What the call returns. -/
def build (crates : Crates) (rpc : Rpc) (payer tokenMint : Pubkey) :
    PayoutCall → Result (List Instruction)
  | .legacy => buildCreatorFeeWithdrawIxs crates rpc payer tokenMint
  | .v2 quoteMint quoteTokenProgram initializeShareholderAtas =>
      buildCreatorFeeWithdrawIxsV2 crates rpc payer tokenMint quoteMint quoteTokenProgram
        initializeShareholderAtas

/-- How many accounts of the distribution come before the shareholders. -/
def fixedAccounts : PayoutCall → ℕ
  | .legacy => 7
  | .v2 _ _ _ => 12

/-- A payout ends with a distribution to the active shareholders. -/
theorem build_eq_ok {call : PayoutCall} {list : List Instruction}
    (built : call.build crates rpc payer tokenMint = .ok list) :
    ∃ shareholders distribute fixed,
      activeShareholders crates rpc tokenMint = .ok shareholders ∧
      list.getLast? = some distribute ∧
      distribute.accounts = fixed ++ (shareholders.map fun holder => .new holder false) ∧
      fixed.length = call.fixedAccounts := by
  cases call with
  | legacy =>
      obtain ⟨shareholders, sweeps, transfer, distribute, active, -, -, distributed, rfl⟩ :=
        buildCreatorFeeWithdrawIxs_eq_ok built
      have last : (sweeps ++ [transfer, distribute]).getLast? = some distribute := by simp
      obtain rfl := Except.ok.inj distributed
      refine ⟨shareholders, _, _, active, last, rfl, ?_⟩
      rfl
  | v2 quoteMint quoteTokenProgram initializeShareholderAtas =>
      obtain ⟨shareholders, sweeps, transfer, distribute, active, -, -, distributed, rfl⟩ :=
        buildCreatorFeeWithdrawIxsV2_eq_ok built
      have last : (sweeps ++ [transfer, distribute]).getLast? = some distribute := by simp
      obtain rfl := Except.ok.inj distributed
      refine ⟨shareholders, _, _, active, last, rfl, ?_⟩
      rfl

end PayoutCall

/-! ## Positions -/

/-- The accounts after a fixed number are the stored shareholders, position by position: each a
writable account that does not sign, at the stored address. -/
def ListsStored (data : List U8) (fixed : ℕ) (accounts : List AccountMeta) : Prop :=
  accounts.length = fixed + storedCount data ∧
    ∀ i < storedCount data, ∃ holder, accounts[fixed + i]? = some holder ∧
      holder.isWritable ∧ ¬ holder.isSigner ∧
      holder.pubkey.bytes = (data.drop (80 + 34 * i)).take 32

/-- Listing the decoded shareholders lists the stored ones. -/
theorem listsStored_of_decoded {data : List U8} {config : SharingConfig}
    (decoded : SharingConfig.fromAccountData data = .ok config) (fixed : List AccountMeta) :
    ListsStored data fixed.length (fixed ++
      (config.shareholders.map Shareholder.address).map fun holder => .new holder false) := by
  obtain ⟨length, entries⟩ := SharingConfig.stored decoded
  refine ⟨by simp [length], ?_⟩
  intro i inside
  rw [← length] at inside
  have found := List.getElem?_eq_getElem inside
  refine ⟨.new config.shareholders[i].address false, ?_, rfl, Bool.false_ne_true,
    (entries i _ found).1⟩
  rw [List.getElem?_append_right (Nat.le_add_right _ _), Nat.add_sub_cancel_left,
    List.getElem?_map, List.getElem?_map, found]
  rfl

/-- **A payout lists exactly the stored shareholders.** Without a sharing config, with one that
does not decode and with a paused one neither builder succeeds. When one does, the last
instruction lists the addresses that the config stores, each once for each time it is stored, in
stored order. -/
theorem payout_lists_stored_shareholders (crates : Crates) (rpc : Rpc) (payer tokenMint : Pubkey)
    (call : PayoutCall) (answer : Option Account)
    (answered : rpc.getAccountWithCommitment (sharingConfigPda crates tokenMint) = .ok answer) :
    (answer = none → ¬ (call.build crates rpc payer tokenMint).isOk) ∧
    ∀ account, answer = some account →
      ((∀ config, SharingConfig.fromAccountData account.data ≠ .ok config) →
        ¬ (call.build crates rpc payer tokenMint).isOk) ∧
      (∀ config, SharingConfig.fromAccountData account.data = .ok config →
        config.status = .paused → ¬ (call.build crates rpc payer tokenMint).isOk) ∧
      ∀ list, call.build crates rpc payer tokenMint = .ok list →
        ∃ distribute, list.getLast? = some distribute ∧
          ListsStored account.data call.fixedAccounts distribute.accounts := by
  have reads {list : List Instruction} (built : call.build crates rpc payer tokenMint = .ok list) :
      ∃ account config distribute, answer = some account ∧
        SharingConfig.fromAccountData account.data = .ok config ∧ config.status = .active ∧
        list.getLast? = some distribute ∧
        ListsStored account.data call.fixedAccounts distribute.accounts := by
    obtain ⟨shareholders, distribute, fixed, active, last, accounts, length⟩ :=
      PayoutCall.build_eq_ok built
    obtain ⟨account, config, found, decoded, status, rfl⟩ := activeShareholders_eq_ok active
    refine ⟨account, config, distribute, Except.ok.inj (answered.symm.trans found), decoded,
      status, last, ?_⟩
    rw [accounts, ← length]
    exact listsStored_of_decoded decoded fixed
  constructor
  · rintro rfl succeeds
    obtain ⟨list, built⟩ := isOk_iff.mp succeeds
    obtain ⟨_, _, _, missing, -⟩ := reads built
    cases missing
  · rintro account rfl
    refine ⟨?_, ?_, ?_⟩
    · intro undecodable succeeds
      obtain ⟨list, built⟩ := isOk_iff.mp succeeds
      obtain ⟨_, config, _, same, decoded, -⟩ := reads built
      obtain rfl := Option.some.inj same
      exact undecodable config decoded
    · intro config decoded paused succeeds
      obtain ⟨list, built⟩ := isOk_iff.mp succeeds
      obtain ⟨_, config', _, same, decoded', active, -⟩ := reads built
      obtain rfl := Option.some.inj same
      obtain rfl := Except.ok.inj (decoded.symm.trans decoded')
      rw [paused] at active
      cases active
    · intro list built
      obtain ⟨_, _, distribute, same, -, -, last, lists⟩ := reads built
      obtain rfl := Option.some.inj same
      exact ⟨distribute, last, lists⟩

/-- The recorded coin's payout ends with a distribution to its one shareholder. -/
theorem payout_lists_stored_shareholders_recorded :
    ∃ list distribute, buildCreatorFeeWithdrawIxs Recorded.crates
        (Recorded.node none (some (Recorded.poolAccount Recorded.sharingConfig)))
        Recorded.shareholder Recorded.mint = .ok list ∧
      list.getLast? = some distribute ∧
      ListsStored Recorded.config.encode 7 distribute.accounts := by
  have answered : (Recorded.node none
      (some (Recorded.poolAccount Recorded.sharingConfig))).getAccountWithCommitment
        (sharingConfigPda Recorded.crates Recorded.mint) =
      .ok (some ⟨Recorded.config.encode, feeProgram⟩) := by
    have key : sharingConfigPda Recorded.crates Recorded.mint = Recorded.sharingConfig := by
      decide +kernel
    rw [key]
    simp only [Recorded.node, if_true]
  obtain ⟨list, built⟩ := Recorded.builds
  obtain ⟨distribute, last, lists⟩ := ((payout_lists_stored_shareholders Recorded.crates _
    Recorded.shareholder Recorded.mint .legacy _ answered).2 _ rfl).2.2 list built
  exact ⟨list, distribute, built, last, lists⟩

end PumpSwapSdk
