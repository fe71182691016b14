import Polkadot.Staking.Storage

/-!
# Reserved balances

`runtime/staking/src/lib.rs`: the setters of the free and the reserved
balance, which reap what falls below the existential deposit, and the calls
that other modules make to move funds between the two balances of an account
or from the reserved balance of one account to the free balance of another:
`reserve`, `unreserve`, `slash`, `slash_reserved` and `transfer_reserved`;
and `reward`, which adds to the free balance.
`cmp::min(a, b)` is `if a ≤ b then a else b`.

`reserve` and `transfer_reserved` check before they write, so when they
return `Err` the storage is as it was (`reserve_error`,
`transferReserved_error`); the others cannot fail.
-/

namespace Polkadot
namespace Staking

/-- `T::BlockNumber::max_value()` for the `u64` block numbers of both runtimes:
the bondage of an account that stakes or nominates. -/
def blockNumberMaxValue : Nat := 2 ^ 64 - 1

/-- `LockStatus`: whether the free balance of an account is bonded. -/
inductive LockStatus where
  | liquid
  | lockedUntil (block : Nat)
  | staked
  deriving DecidableEq, Repr

namespace Storage

variable {AccountId : Type} [DecidableEq AccountId] {balanceBits indexBits : Nat}
variable (s : Storage AccountId balanceBits indexBits)

/-- `unlock_block`. -/
def unlockBlock (who : AccountId) : LockStatus :=
  if s.bondage who = blockNumberMaxValue then .staked
  else if s.bondage who ≤ s.blockNumber then .liquid
  else .lockedUntil (s.bondage who)

/-- `can_slash`: the free balance covers the value. -/
def canSlash (who : AccountId) (value : BitVec balanceBits) : Bool := s.freeBalance who ≥ value

/-- `on_reserved_too_low`: the reserved balance is removed, and the nonce too
when there is no free balance. -/
def onReservedTooLow (who : AccountId) : Storage AccountId balanceBits indexBits :=
  let s := { s with reservedBalances := s.reservedBalances.erase who }
  if s.freeBalance who = 0 then { s with accountNonces := s.accountNonces.erase who } else s

/-- `set_free_balance`: a balance below the existential deposit reaps the
account. -/
def setFreeBalance (who : AccountId) (balance : BitVec balanceBits) :
    Bool × Storage AccountId balanceBits indexBits :=
  if balance < s.existentialDeposit then (false, s.onFreeTooLow who)
  else (true, { s with freeBalances := s.freeBalances.insert who balance })

/-- `set_reserved_balance`: a balance below the existential deposit removes the
reserved balance. -/
def setReservedBalance (who : AccountId) (balance : BitVec balanceBits) :
    Bool × Storage AccountId balanceBits indexBits :=
  if balance < s.existentialDeposit then (false, s.onReservedTooLow who)
  else (true, { s with reservedBalances := s.reservedBalances.insert who balance })

/-- `reserve`: the value moves from the free to the reserved balance, if the
free balance covers it and is not bonded. -/
def reserve (who : AccountId) (value : BitVec balanceBits) :
    Except String Unit × Storage AccountId balanceBits indexBits :=
  let b := s.freeBalance who
  if b < value then (.error "not enough free funds", s)
  else if s.unlockBlock who ≠ .liquid then (.error "free funds are still bonded", s)
  else
    let s := (s.setReservedBalance who (s.reservedBalance who + value)).2
    (.ok (), (s.setFreeBalance who (b - value)).2)

/-- `unreserve`: as much of the value as the reserved balance holds moves back
to the free balance; the rest is returned. -/
def unreserve (who : AccountId) (value : BitVec balanceBits) :
    Option (BitVec balanceBits) × Storage AccountId balanceBits indexBits :=
  let b := s.reservedBalance who
  let actual := if b ≤ value then b else value
  let s := (s.setFreeBalance who (s.freeBalance who + actual)).2
  let s := (s.setReservedBalance who (b - actual)).2
  (if actual = value then none else some (value - actual), s)

/-- `slash_reserved`: as much of the value as the reserved balance holds is
deducted; the rest is returned. -/
def slashReserved (who : AccountId) (value : BitVec balanceBits) :
    Option (BitVec balanceBits) × Storage AccountId balanceBits indexBits :=
  let b := s.reservedBalance who
  let slash := if b ≤ value then b else value
  let s := (s.setReservedBalance who (b - slash)).2
  (if value = slash then none else some (value - slash), s)

/-- `slash`: the value is deducted from the free balance, and what it does not
cover from the reserved balance. -/
def slash (who : AccountId) (value : BitVec balanceBits) :
    Option (BitVec balanceBits) × Storage AccountId balanceBits indexBits :=
  let freeBalance := s.freeBalance who
  let freeSlash := if freeBalance ≤ value then freeBalance else value
  let s := (s.setFreeBalance who (freeBalance - freeSlash)).2
  if freeSlash < value then s.slashReserved who (value - freeSlash) else (none, s)

/-- `reward`: the value is added to the free balance of an account that
exists. -/
def reward (who : AccountId) (value : BitVec balanceBits) :
    Except String Unit × Storage AccountId balanceBits indexBits :=
  if s.votingBalance who = 0 then (.error "beneficiary account must pre-exist", s)
  else (.ok (), (s.setFreeBalance who (s.freeBalance who + value)).2)

/-- `transfer_reserved`: as much of the value as the reserved balance of
`slashed` holds moves to the free balance of `beneficiary`, which must exist. -/
def transferReserved (slashed beneficiary : AccountId) (value : BitVec balanceBits) :
    Except String (Option (BitVec balanceBits)) × Storage AccountId balanceBits indexBits :=
  if s.votingBalance beneficiary = 0 then (.error "beneficiary account must pre-exist", s)
  else
    let b := s.reservedBalance slashed
    let slash := if b ≤ value then b else value
    let s := (s.setFreeBalance beneficiary (s.freeBalance beneficiary + slash)).2
    let s := (s.setReservedBalance slashed (b - slash)).2
    (.ok (if value = slash then none else some (value - slash)), s)

/-! ## Failures leave the storage alone -/

/-- A failed `reserve` changes nothing. -/
theorem reserve_error {who : AccountId} {value : BitVec balanceBits} {message : String}
    {s' : Storage AccountId balanceBits indexBits}
    (failed : s.reserve who value = (.error message, s')) : s' = s := by
  unfold reserve at failed
  dsimp only at failed
  split_ifs at failed
  · exact (Prod.mk.inj failed).2.symm
  · exact (Prod.mk.inj failed).2.symm
  · cases failed

/-- A failed `transfer_reserved` changes nothing. -/
theorem transferReserved_error {slashed beneficiary : AccountId} {value : BitVec balanceBits}
    {message : String} {s' : Storage AccountId balanceBits indexBits}
    (failed : s.transferReserved slashed beneficiary value = (.error message, s')) : s' = s := by
  unfold transferReserved at failed
  by_cases noFunds : s.votingBalance beneficiary = 0
  · rw [if_pos noFunds] at failed
    exact (Prod.mk.inj failed).2.symm
  · rw [if_neg noFunds] at failed
    cases failed

/-- `transfer_reserved` fails exactly when the beneficiary has no funds. -/
theorem transferReserved_fst_eq_error {slashed beneficiary : AccountId} {value : BitVec balanceBits} :
    (∃ message, (s.transferReserved slashed beneficiary value).1 = .error message) ↔
      s.votingBalance beneficiary = 0 := by
  unfold transferReserved
  by_cases noFunds : s.votingBalance beneficiary = 0
  · rw [if_pos noFunds]
    exact ⟨fun _ => noFunds, fun _ => ⟨_, rfl⟩⟩
  · rw [if_neg noFunds]
    constructor
    · rintro ⟨_, wrong⟩
      cases wrong
    · intro zero
      exact absurd zero noFunds

end Storage

/-! ## Index lookups at 64 bits -/

/-- At the 64-bit account indices of both runtimes the division of an index by
`ENUM_SET_SIZE` cannot panic, so a lookup always answers. -/
theorem Storage.lookup_isSome {AccountId : Type} [DecidableEq AccountId] {balanceBits : Nat}
    (s : Storage AccountId balanceBits 64) (address : Address AccountId (BitVec 64)) :
    (s.lookup address).isSome := by
  have nonzero : enumSetSize 64 ≠ 0 := by decide
  cases address with
  | id account => rfl
  | index index =>
      simp [Storage.lookup, Storage.lookupIndex, Foundations.divChecked_of_ne nonzero,
        Foundations.remChecked_of_ne nonzero]

end Staking
end Polkadot
