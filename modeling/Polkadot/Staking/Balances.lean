import Polkadot.Staking.Transfer
import Polkadot.Foundations.Checks

/-!
# Free balances after a transfer

What `DirectAccountDb::merge` leaves of each free balance, and from it what a
transfer between two accounts does to the free balances of storage: a failed
transfer writes nothing; a successful one to an account without code writes
the two accounts' balances, each reaped below the existential deposit and the
destination registered when it had none, and leaves every other free balance
alone.  When `value + fee` does not wrap, a transfer creates no funds beyond
the reclaim rebate.
-/

namespace Polkadot
namespace Staking

open Foundations (Bytes SortedMap check_eq_ok toNat_add_of_lt_add)

namespace Storage

variable {AccountId : Type} {balanceBits indexBits : Nat}
variable (s : Storage AccountId balanceBits indexBits)

/-- A later storage has the parameters and the reserved balances of an earlier
one: merging never writes them. -/
structure Keeps (s' : Storage AccountId balanceBits indexBits) : Prop where
  existentialDeposit : s'.existentialDeposit = s.existentialDeposit
  reclaimRebate : s'.reclaimRebate = s.reclaimRebate
  reservedBalances : s'.reservedBalances = s.reservedBalances

/-- Storage keeps itself. -/
theorem Keeps.refl : s.Keeps s := ⟨rfl, rfl, rfl⟩

/-- Keeping is transitive. -/
theorem Keeps.trans {s s₁ s₂ : Storage AccountId balanceBits indexBits} (first : s.Keeps s₁)
    (second : s₁.Keeps s₂) : s.Keeps s₂ :=
  ⟨second.existentialDeposit.trans first.existentialDeposit,
    second.reclaimRebate.trans first.reclaimRebate,
    second.reservedBalances.trans first.reservedBalances⟩

variable [DecidableEq AccountId]

/-- Writing storage changes of an account changes only its storage. -/
theorem foldl_writeStorageChange_eq (address : AccountId) (changes : List (Bytes × Option Bytes)) :
    ∃ storageOf, changes.foldl (fun s change => s.writeStorageChange address change) s =
      { s with storageOf } := by
  induction changes generalizing s with
  | nil => exact ⟨s.storageOf, rfl⟩
  | cons change changes ih =>
      obtain ⟨storageOf, written⟩ := ih (s.writeStorageChange address change)
      refine ⟨storageOf, ?_⟩
      rw [List.foldl_cons, written]
      unfold writeStorageChange
      split <;> rfl

/-- Writing an entry's code and contract storage writes nothing else. -/
theorem writeCodeAndStorage_eq (address : AccountId) (changed : ChangeEntry balanceBits) :
    ∃ codeOf storageOf, s.writeCodeAndStorage address changed = { s with codeOf, storageOf } := by
  dsimp only [writeCodeAndStorage]
  split
  · obtain ⟨storageOf, written⟩ :=
      foldl_writeStorageChange_eq { s with codeOf := s.codeOf.insert address ‹_› } address
        changed.storage
    exact ⟨_, storageOf, written⟩
  · obtain ⟨storageOf, written⟩ := foldl_writeStorageChange_eq s address changed.storage
    exact ⟨s.codeOf, storageOf, written⟩

/-- What merging an entry leaves of the free balance of its account: the old one
without a balance change; nothing below the existential deposit; the balance if
the account had a free balance, and otherwise the balance with or without the
reclaim rebate. -/
def MergedBalance (who : AccountId) (changed : ChangeEntry balanceBits)
    (after : Option (BitVec balanceBits)) : Prop :=
  match changed.balance with
  | none => after = s.freeBalances.lookup who
  | some balance =>
      if balance < s.existentialDeposit then after = none
      else if (s.freeBalances.lookup who).isSome then after = some balance
      else after = some balance ∨ after = some (balance + s.reclaimRebate)

/-- `MergedBalance` reads only the parameters and the account's own balance. -/
theorem mergedBalance_congr {s' : Storage AccountId balanceBits indexBits} (keeps : s.Keeps s')
    {who : AccountId} (same : s'.freeBalances.lookup who = s.freeBalances.lookup who)
    (changed : ChangeEntry balanceBits) (after : Option (BitVec balanceBits)) :
    s'.MergedBalance who changed after ↔ s.MergedBalance who changed after := by
  unfold MergedBalance
  rw [keeps.existentialDeposit, keeps.reclaimRebate, same]

/-- One entry of a merge keeps the parameters, leaves the free balances of other
accounts alone and leaves its own account's as `MergedBalance` says. -/
theorem mergeEntry_spec {address : AccountId} {changed : ChangeEntry balanceBits}
    {s' : Storage AccountId balanceBits indexBits} (merged : s.mergeEntry address changed = some s') :
    s.Keeps s' ∧ (∀ other, other ≠ address → s'.freeBalances.lookup other = s.freeBalances.lookup other) ∧
      s.MergedBalance address changed (s'.freeBalances.lookup address) := by
  unfold mergeEntry at merged
  split at merged
  · -- no balance change: only code and storage are written
    rename_i unchanged
    obtain ⟨codeOf, storageOf, written⟩ := s.writeCodeAndStorage_eq address changed
    rw [Option.some_inj, written] at merged
    subst merged
    refine ⟨⟨rfl, rfl, rfl⟩, fun _ _ => rfl, ?_⟩
    simp only [MergedBalance, unchanged]
  · rename_i balance changedBalance
    split_ifs at merged with below absent
    · -- reaped
      obtain ⟨nonces, reaped⟩ := s.onFreeTooLow_eq address
      rw [Option.some_inj, reaped] at merged
      subst merged
      refine ⟨⟨rfl, rfl, rfl⟩, fun other differs => AList.lookup_erase_ne differs, ?_⟩
      simp only [MergedBalance, changedBalance, if_pos below, AList.lookup_erase]
    · -- registered as a new account, then credited
      simp only [Option.bind_eq_bind, Option.bind_eq_some_iff] at merged
      obtain ⟨⟨outcome, registered⟩, newAccount, merged⟩ := merged
      obtain ⟨sets, next, rfl⟩ := s.newAccount_eq newAccount
      obtain ⟨codeOf, storageOf, written⟩ := writeCodeAndStorage_eq _ address changed
      rw [written] at merged
      cases merged
      refine ⟨⟨rfl, rfl, rfl⟩, fun other differs => AList.lookup_insert_ne differs, ?_⟩
      have notSome : (s.freeBalances.lookup address).isSome = false := by simpa using absent
      simp only [MergedBalance, changedBalance, if_neg below, notSome, AList.lookup_insert]
      cases outcome
      · exact .inl rfl
      · exact .inr rfl
      · exact .inl rfl
    · -- an existing account gets the balance
      obtain ⟨codeOf, storageOf, written⟩ := writeCodeAndStorage_eq _ address changed
      rw [Option.some_inj, written] at merged
      subst merged
      refine ⟨⟨rfl, rfl, rfl⟩, fun other differs => AList.lookup_insert_ne differs, ?_⟩
      have had : (s.freeBalances.lookup address).isSome = true :=
        Option.ne_none_iff_isSome.mp (by simpa using absent)
      simp only [MergedBalance, changedBalance, if_neg below, had, AList.lookup_insert, if_true]

/-- A merge of a `State` of distinct accounts keeps the parameters, leaves the
free balance of each account of the state as `MergedBalance` says for its
entry, and leaves every other free balance alone. -/
theorem merge_spec {state : State AccountId balanceBits} (distinct : (state.map Prod.fst).Nodup)
    {s' : Storage AccountId balanceBits indexBits} (merged : s.merge state = some s') :
    s.Keeps s' ∧ ∀ who,
      (∀ changed, (who, changed) ∈ state → s.MergedBalance who changed (s'.freeBalances.lookup who)) ∧
      (who ∉ state.map Prod.fst → s'.freeBalances.lookup who = s.freeBalances.lookup who) := by
  induction state generalizing s with
  | nil =>
      cases merged
      exact ⟨Keeps.refl _, fun _ => ⟨fun _ member => (List.not_mem_nil member).elim, fun _ => rfl⟩⟩
  | cons entry rest ih =>
      obtain ⟨address, changed⟩ := entry
      obtain ⟨addressFresh, restDistinct⟩ := List.nodup_cons.mp distinct
      unfold merge at merged
      rw [List.foldlM_cons] at merged
      cases stepped : s.mergeEntry address changed with
      | none => simp [stepped] at merged
      | some next =>
          rw [stepped] at merged
          obtain ⟨keepsEntry, frameEntry, entryBalance⟩ := s.mergeEntry_spec stepped
          obtain ⟨keepsRest, restBalances⟩ := ih next restDistinct merged
          refine ⟨keepsEntry.trans keepsRest, fun who => ⟨fun changed' member => ?_, fun absent => ?_⟩⟩
          · rcases List.mem_cons.mp member with same | later
            · -- the first entry is the account's only one, and the rest leaves it alone
              obtain ⟨rfl, rfl⟩ := Prod.mk.inj same
              rw [(restBalances who).2 addressFresh]
              exact entryBalance
            · have differs : who ≠ address := fun equal =>
                addressFresh (equal ▸ List.mem_map.mpr ⟨_, later, rfl⟩)
              exact (s.mergedBalance_congr keepsEntry (frameEntry who differs) changed' _).mp
                ((restBalances who).1 changed' later)
          · have differs : who ≠ address := fun equal => absent (equal ▸ List.mem_cons_self ..)
            rw [(restBalances who).2 fun later => absent (List.mem_cons_of_mem _ later),
              frameEntry who differs]

end Storage

section Transfers

variable {AccountId : Type} [LinearOrder AccountId] {balanceBits indexBits : Nat}
variable (s : Storage AccountId balanceBits indexBits)

/-- Two balances set in a new overlay are its only changes. -/
theorem setBalance_setBalance_changes (accountDb : AccountDb AccountId balanceBits)
    {transactor dest : AccountId} (distinct : transactor ≠ dest) (x y : BitVec balanceBits) :
    (((OverlayAccountDb.new accountDb).setBalance transactor x).setBalance dest y).changes =
      SortedMap.insert dest (.balanceChanged y) [(transactor, .balanceChanged x)] := by
  have first : ((OverlayAccountDb.new accountDb).setBalance transactor x).changes =
      [(transactor, .balanceChanged x)] := rfl
  have absent : SortedMap.get? [(transactor, ChangeEntry.balanceChanged x)] dest = none := by
    simp [SortedMap.get?, distinct]
  show SortedMap.insert dest
      { ((SortedMap.get? ((OverlayAccountDb.new accountDb).setBalance transactor x).changes
          dest).getD .default) with balance := some y }
      ((OverlayAccountDb.new accountDb).setBalance transactor x).changes = _
  rw [first, absent]
  rfl

/-- What `effect_transfer` between two accounts, to one without code, checked
and computed when it succeeds: the transactor covers the value and the fee, the
destination's balance grows, the bondage has ended, and the changes are the two
new balances. -/
theorem effectTransfer_ok {runContract : ContractExecutor AccountId balanceBits indexBits}
    {transactor dest : AccountId} {value : BitVec balanceBits}
    {accountDb : AccountDb AccountId balanceBits} {result : Option (State AccountId balanceBits)}
    (distinct : transactor ≠ dest) (noCode : accountDb.getCode dest = [])
    (ok : effectTransfer s runContract transactor dest value accountDb = .ok result) :
    let fromBalance := accountDb.getBalance transactor
    let fee := if fromBalance = 0 then s.creationFee else s.transferFee
    let toBalance := accountDb.getBalance dest
    value + fee ≤ fromBalance ∧ ¬(fromBalance = 0 ∧ value < s.existentialDeposit) ∧
      s.bondage transactor ≤ s.blockNumber ∧ toBalance < toBalance + value ∧
      result = some (SortedMap.insert dest (.balanceChanged (toBalance + value))
        [(transactor, .balanceChanged (fromBalance - (value + fee)))]) := by
  intro fromBalance fee toBalance
  unfold effectTransfer at ok
  -- the four checks, each passed
  obtain ⟨tooLow, ok⟩ := check_eq_ok ok
  obtain ⟨createsTooLow, ok⟩ := check_eq_ok ok
  obtain ⟨bonded, ok⟩ := check_eq_ok ok
  obtain ⟨overflows, ok⟩ := check_eq_ok ok
  have feeEq : (if (accountDb.getBalance transactor == 0) = true then s.creationFee
      else s.transferFee) = fee := by
    simp only [beq_iff_eq, fee, fromBalance]
  rw [feeEq] at tooLow ok
  have changes := setBalance_setBalance_changes accountDb distinct
    (accountDb.getBalance transactor - (value + fee)) (accountDb.getBalance dest + value)
  have destCode : (((OverlayAccountDb.new accountDb).setBalance transactor
      (accountDb.getBalance transactor - (value + fee))).setBalance dest
        (accountDb.getBalance dest + value)).getCode dest = [] := by
    simp only [OverlayAccountDb.getCode, changes, SortedMap.get?_insert_self]
    exact noCode
  -- without code at the destination, the overlay commits
  simp only [if_pos distinct, destCode, List.isEmpty_nil, if_true, Option.map_some] at ok
  refine ⟨BitVec.not_lt.mp tooLow, fun ⟨zero, below⟩ => createsTooLow (by
      rw [Bool.and_eq_true, beq_iff_eq, decide_eq_true_eq]
      exact ⟨zero, below⟩), Nat.not_lt.mp bonded, BitVec.not_le.mp overflows, ?_⟩
  cases ok
  rw [OverlayAccountDb.intoState, changes]

/-- Committing a failed effect writes nothing. -/
theorem commit_error {effect : Except String (Option (State AccountId balanceBits))}
    {message : String} {s' : Storage AccountId balanceBits indexBits}
    (committed : s.commit effect = some (.error message, s')) : s' = s := by
  unfold Storage.commit at committed
  split at committed
  · cases committed; rfl
  · cases committed
  · obtain ⟨merged, -, result⟩ := Option.map_eq_some_iff.mp committed
    cases result

/-- A failed transfer writes nothing. -/
theorem transfer_error {runContract : ContractExecutor AccountId balanceBits indexBits}
    {aux : AccountId} {dest : Address AccountId (BitVec indexBits)} {value : BitVec balanceBits}
    {message : String} {s' : Storage AccountId balanceBits indexBits}
    (failed : s.transfer runContract aux dest value = some (.error message, s')) : s' = s := by
  simp only [Storage.transfer, Option.bind_eq_bind, Option.bind_eq_some_iff] at failed
  obtain ⟨found, -, failed⟩ := failed
  cases found with
  | error lookupMessage => cases failed; rfl
  | ok account => exact commit_error s failed

/-- A successful transfer between two accounts, to one without code: the
transactor covered the value and the fee, the destination's balance did not
overflow, each of the two free balances is what merging its new balance leaves,
and every other free balance is unchanged.  The fee is the creation fee when the
transactor has no free balance. -/
theorem transfer_ok {runContract : ContractExecutor AccountId balanceBits indexBits}
    {transactor dest : AccountId} {value : BitVec balanceBits}
    {s' : Storage AccountId balanceBits indexBits}
    (distinct : transactor ≠ dest) (noCode : s.direct.getCode dest = [])
    (succeeded : s.transfer runContract transactor (.id dest) value = some (.ok (), s')) :
    let fromBalance := s.freeBalance transactor
    let fee := if fromBalance = 0 then s.creationFee else s.transferFee
    let toBalance := s.freeBalance dest
    value + fee ≤ fromBalance ∧ toBalance < toBalance + value ∧
      s.MergedBalance transactor (.balanceChanged (fromBalance - (value + fee)))
        (s'.freeBalances.lookup transactor) ∧
      s.MergedBalance dest (.balanceChanged (toBalance + value)) (s'.freeBalances.lookup dest) ∧
      ∀ other, other ≠ transactor → other ≠ dest →
        s'.freeBalances.lookup other = s.freeBalances.lookup other := by
  intro fromBalance fee toBalance
  change s.commit (effectTransfer s runContract transactor dest value s.direct) =
    some (.ok (), s') at succeeded
  cases effected : effectTransfer s runContract transactor dest value s.direct with
  | error message =>
      rw [effected] at succeeded
      cases succeeded
  | ok result =>
      obtain ⟨covered, -, -, grows, rfl⟩ := effectTransfer_ok s distinct noCode effected
      rw [effected] at succeeded
      obtain ⟨after, merged, paired⟩ := Option.map_eq_some_iff.mp succeeded
      cases paired
      have distinctKeys : ((SortedMap.insert dest (ChangeEntry.balanceChanged (toBalance + value))
          [(transactor, .balanceChanged (fromBalance - (value + fee)))]).map Prod.fst).Nodup :=
        SortedMap.nodup_keys_insert (by simpa using distinct.symm) (List.nodup_singleton _)
      obtain ⟨-, balances⟩ := s.merge_spec distinctKeys merged
      refine ⟨covered, grows,
        (balances transactor).1 _ (SortedMap.mem_insert_of_ne (List.mem_singleton_self _) distinct),
        (balances dest).1 _ (SortedMap.mem_insert_self ..),
        fun other notTransactor notDest => (balances other).2 fun member => ?_⟩
      -- the changes have the keys of the two accounts only
      obtain ⟨entry, entryMember, entryKey⟩ := List.mem_map.mp member
      rcases SortedMap.mem_insert entryMember with inserted | old
      · exact notDest (by rw [← entryKey, inserted])
      · exact notTransactor (by rw [← entryKey, List.mem_singleton.mp old])

omit [LinearOrder AccountId] in
/-- The free balance `MergedBalance` leaves for a new balance is at most that
balance, with the rebate only for an account that had no free balance. -/
theorem Storage.MergedBalance.toNat_le [DecidableEq AccountId]
    {s : Storage AccountId balanceBits indexBits} {who : AccountId} {balance : BitVec balanceBits}
    {after : Option (BitVec balanceBits)}
    (merged : s.MergedBalance who (.balanceChanged balance) after) :
    (after.getD 0).toNat ≤
      balance.toNat + if (s.freeBalances.lookup who).isSome then 0 else s.reclaimRebate.toNat := by
  simp only [Storage.MergedBalance, ChangeEntry.balanceChanged] at merged
  split_ifs at merged with below had
  · subst merged
    simp
  · subst merged
    simp
  · rw [if_neg had]
    rcases merged with plain | rebated
    · subst plain
      simp
    · -- the rebate is added with wrap-around, which only lowers it
      subst rebated
      rw [Option.getD_some, BitVec.toNat_add]
      exact Nat.mod_le _ _

/-- When `value + fee` does not wrap, a successful transfer between two accounts,
to one without code, creates no funds beyond the reclaim rebate: the two free
balances after it and the fee add up to at most the two before and the rebate. -/
theorem transfer_creates_no_funds {runContract : ContractExecutor AccountId balanceBits indexBits}
    {transactor dest : AccountId} {value : BitVec balanceBits}
    {s' : Storage AccountId balanceBits indexBits}
    (distinct : transactor ≠ dest) (noCode : s.direct.getCode dest = []) :
    let fee := if s.freeBalance transactor = 0 then s.creationFee else s.transferFee
    value.toNat + fee.toNat < 2 ^ balanceBits →
    s.transfer runContract transactor (.id dest) value = some (.ok (), s') →
    (s'.freeBalance transactor).toNat + (s'.freeBalance dest).toNat + fee.toNat ≤
      (s.freeBalance transactor).toNat + (s.freeBalance dest).toNat + s.reclaimRebate.toNat := by
  intro fee noWrap succeeded
  obtain ⟨covered, grows, transactorMerged, destMerged, -⟩ := transfer_ok s distinct noCode succeeded
  have liability : (value + fee).toNat = value.toNat + fee.toNat := BitVec.toNat_add_of_lt noWrap
  have covers : value.toNat + fee.toNat ≤ (s.freeBalance transactor).toNat :=
    liability ▸ BitVec.le_def.mp covered
  have valueNonzero : value.toNat ≠ 0 := by
    intro zero
    have : value = 0 := BitVec.eq_of_toNat_eq (by simpa using zero)
    subst this
    simp at grows
  -- the transactor covers a nonzero value, so it has a free balance and gets no rebate
  have had : (s.freeBalances.lookup transactor).isSome = true := by
    cases found : s.freeBalances.lookup transactor with
    | none =>
        have empty : (s.freeBalance transactor).toNat = 0 := by
          simp [Storage.freeBalance, found]
        omega
    | some _ => rfl
  have transactorBound := transactorMerged.toNat_le
  rw [if_pos had, BitVec.toNat_sub_of_le covered, liability] at transactorBound
  have destBound := destMerged.toNat_le
  rw [toNat_add_of_lt_add grows] at destBound
  have rebateBound : (if (s.freeBalances.lookup dest).isSome then 0 else s.reclaimRebate.toNat) ≤
      s.reclaimRebate.toNat := by
    split <;> omega
  show ((s'.freeBalances.lookup transactor).getD 0).toNat +
    ((s'.freeBalances.lookup dest).getD 0).toNat + fee.toNat ≤ _
  omega

end Transfers

/-- The test genesis with an existential deposit of 2560 holds 2560 to 10240 in
accounts 1 to 4.  A transfer of 100 from account 2 to the new account 5 counts
as no creation, since account 2 has a balance: it succeeds, takes the 100 from
account 2 and merges 100 into account 5, which is below the existential deposit
and reaped, so the 100 is destroyed.  With a transfer fee of 1, a transfer of
`2^64 - 1` has `value + fee` wrap to 0: it succeeds, account 2 keeps its 5120
and account 5 gets `2^64 - 1`. -/
theorem transfer_destroys_or_creates_funds (runContract : ContractExecutor Nat 64 64) :
    (((newTestExt 2560#64 true 0).buildStorage 64).transfer runContract 2 (.id 5) 100#64).map
        (fun result => (result.1, result.2.freeBalance 2, result.2.freeBalance 5)) =
      some (.ok (), 5020#64, 0#64) ∧
    ((({ newTestExt 2560#64 true 0 with transferFee := 1#64 } : GenesisConfig Nat 64).buildStorage
        64).transfer
        runContract 2 (.id 5) (BitVec.allOnes 64)).map
        (fun result => (result.1, result.2.freeBalance 2, result.2.freeBalance 5)) =
      some (.ok (), 5120#64, BitVec.allOnes 64) :=
  ⟨rfl, rfl⟩

end Staking
end Polkadot
