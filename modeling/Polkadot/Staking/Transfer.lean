import Polkadot.Staking.Storage
import Polkadot.Foundations.SortedMap

/-!
# Balance transfers

`runtime/staking/src/lib.rs` (`transfer`, `create`, `effect_transfer`,
`effect_create`) and `account_db.rs`.  A transfer is computed as a `State` of
changes over an `OverlayAccountDb` and then merged into storage by
`DirectAccountDb::merge`, which reaps an account left below the existential
deposit and registers an account that had no free balance.

The code of a destination with code is run by `contract::execute` through
`StakingExt`; the model takes that run as a `ContractExecutor`, which gives the
overlay after a successful run or fails.
-/

namespace Polkadot
namespace Staking

open Foundations (Bytes SortedMap)

/-- `ChangeEntry`: the changes of one account, each `None` where it keeps its
own. -/
structure ChangeEntry (balanceBits : Nat) where
  balance : Option (BitVec balanceBits)
  code : Option Bytes
  storage : SortedMap Bytes (Option Bytes)

namespace ChangeEntry

variable {balanceBits : Nat}

/-- `ChangeEntry::default`. -/
def default : ChangeEntry balanceBits := ⟨none, none, []⟩

/-- `ChangeEntry::contract_created`. -/
def contractCreated (b : BitVec balanceBits) (c : Bytes) : ChangeEntry balanceBits :=
  ⟨some b, some c, []⟩

/-- `ChangeEntry::balance_changed`. -/
def balanceChanged (b : BitVec balanceBits) : ChangeEntry balanceBits := ⟨some b, none, []⟩

end ChangeEntry

/-- `State`: the changes of each account, in increasing order of the IDs. -/
abbrev State (AccountId : Type) (balanceBits : Nat) :=
  SortedMap AccountId (ChangeEntry balanceBits)

/-- The reads of `AccountDb` that transfers make. -/
structure AccountDb (AccountId : Type) (balanceBits : Nat) where
  getCode : AccountId → Bytes
  getBalance : AccountId → BitVec balanceBits

/-- `DirectAccountDb`: the reads of storage itself. -/
def Storage.direct {AccountId : Type} [DecidableEq AccountId] {balanceBits indexBits : Nat}
    (s : Storage AccountId balanceBits indexBits) : AccountDb AccountId balanceBits where
  getCode account := (s.codeOf.lookup account).getD []
  getBalance := s.freeBalance

/-- `OverlayAccountDb`: local changes over an underlying account database. -/
structure OverlayAccountDb (AccountId : Type) (balanceBits : Nat) where
  changes : State AccountId balanceBits
  underlying : AccountDb AccountId balanceBits

namespace OverlayAccountDb

variable {AccountId : Type} [LinearOrder AccountId] {balanceBits : Nat}
variable (overlay : OverlayAccountDb AccountId balanceBits)

/-- `OverlayAccountDb::new`. -/
def new (underlying : AccountDb AccountId balanceBits) : OverlayAccountDb AccountId balanceBits :=
  ⟨[], underlying⟩

/-- `into_state`. -/
def intoState : State AccountId balanceBits := overlay.changes

/-- `set_balance`: the account's entry, or a default one, gets the balance. -/
def setBalance (account : AccountId) (balance : BitVec balanceBits) :
    OverlayAccountDb AccountId balanceBits :=
  { overlay with
    changes := overlay.changes.insert account
      { (overlay.changes.get? account).getD .default with balance := some balance } }

/-- `get_code`: the local code, or the underlying one. -/
def getCode (account : AccountId) : Bytes :=
  ((overlay.changes.get? account).bind ChangeEntry.code).getD (overlay.underlying.getCode account)

/-- `get_balance`: the local balance, or the underlying one. -/
def getBalance (account : AccountId) : BitVec balanceBits :=
  ((overlay.changes.get? account).bind ChangeEntry.balance).getD
    (overlay.underlying.getBalance account)

end OverlayAccountDb

/-- `contract::execute` of an account's code, with a gas limit, through
`StakingExt` over the overlay: the overlay after a successful run, or `none`
when the execution fails. -/
abbrev ContractExecutor (AccountId : Type) (balanceBits indexBits : Nat) :=
  Storage AccountId balanceBits indexBits → Bytes → AccountId → Nat →
    OverlayAccountDb AccountId balanceBits → Option (OverlayAccountDb AccountId balanceBits)

section Effects

variable {AccountId : Type} [LinearOrder AccountId] {balanceBits indexBits : Nat}
variable (s : Storage AccountId balanceBits indexBits)

/-- `effect_transfer`: the changes of a transfer, `None` when the destination's
code fails.  Whether the transfer creates an account, and so its fee, is
decided by the transactor's balance. -/
def effectTransfer (runContract : ContractExecutor AccountId balanceBits indexBits)
    (transactor dest : AccountId) (value : BitVec balanceBits)
    (accountDb : AccountDb AccountId balanceBits) :
    Except String (Option (State AccountId balanceBits)) := do
  let wouldCreate := accountDb.getBalance transactor == 0
  let fee := if wouldCreate then s.creationFee else s.transferFee
  let liability := value + fee
  let fromBalance := accountDb.getBalance transactor
  if fromBalance < liability then throw "balance too low to send value"
  if wouldCreate && value < s.existentialDeposit then throw "value too low to create account"
  if s.bondage transactor > s.blockNumber then throw "bondage too high to send value"
  let toBalance := accountDb.getBalance dest
  if toBalance + value ≤ toBalance then throw "destination balance too high to receive value"
  let gasLimit := 100000
  let overlay := OverlayAccountDb.new accountDb
  let overlay := if transactor ≠ dest then
      (overlay.setBalance transactor (fromBalance - liability)).setBalance dest (toBalance + value)
    else overlay
  let destCode := overlay.getCode dest
  -- a destination without code always commits; otherwise its run decides
  let committed := if destCode.isEmpty then some overlay
    else runContract s destCode dest gasLimit overlay
  pure (committed.map OverlayAccountDb.intoState)

/-- `effect_create`: the changes of creating a contract account at the address
`contract_address_for` gives, `None` when that is the transactor. -/
def effectCreate (contractAddressFor : Bytes → AccountId → AccountId) (transactor : AccountId)
    (code : Bytes) (value : BitVec balanceBits) (accountDb : AccountDb AccountId balanceBits) :
    Except String (Option (State AccountId balanceBits)) := do
  let fromBalance := accountDb.getBalance transactor
  let liability := value + s.contractFee
  if fromBalance < liability then throw "balance too low to send value"
  if value < s.existentialDeposit then throw "value too low to create account"
  if s.bondage transactor > s.blockNumber then throw "bondage too high to send value"
  let dest := contractAddressFor code transactor
  if dest = transactor then return none
  let changes : State AccountId balanceBits :=
    SortedMap.insert transactor (.balanceChanged (fromBalance - liability))
      (SortedMap.insert dest (.contractCreated value code) [])
  return some changes

end Effects

namespace Storage

variable {AccountId : Type} [DecidableEq AccountId] {balanceBits indexBits : Nat}
variable (s : Storage AccountId balanceBits indexBits)

/-- One contract storage change of an account: `Some` inserts, `None` removes. -/
def writeStorageChange (address : AccountId) (change : Bytes × Option Bytes) :
    Storage AccountId balanceBits indexBits :=
  match change.2 with
  | some value => { s with storageOf := s.storageOf.insert (address, change.1) value }
  | none => { s with storageOf := s.storageOf.erase (address, change.1) }

/-- The code and the contract storage changes of an entry, written after its
balance. -/
def writeCodeAndStorage (address : AccountId) (changed : ChangeEntry balanceBits) :
    Storage AccountId balanceBits indexBits :=
  let s := match changed.code with
    | some code => { s with codeOf := s.codeOf.insert address code }
    | none => s
  changed.storage.foldl (fun s change => s.writeStorageChange address change) s

/-- The free balance an account is credited with when it had none: the balance,
with the reclaim rebate on a good hint. -/
def credit (outcome : NewAccountOutcome) (balance : BitVec balanceBits) : BitVec balanceBits :=
  match outcome with
  | .goodHint => balance + s.reclaimRebate
  | _ => balance

/-- One account of `DirectAccountDb::merge`.  A balance below the existential
deposit reaps the account, and `continue` then skips its code and storage. -/
def mergeEntry (address : AccountId) (changed : ChangeEntry balanceBits) :
    Option (Storage AccountId balanceBits indexBits) :=
  match changed.balance with
  | none => some (s.writeCodeAndStorage address changed)
  | some balance =>
      if balance < s.existentialDeposit then some (s.onFreeTooLow address)
      else if (s.freeBalances.lookup address).isNone then do
        let (outcome, s) ← s.newAccount address balance
        pure ({ s with freeBalances := s.freeBalances.insert address (s.credit outcome balance) }
          |>.writeCodeAndStorage address changed)
      else
        some ({ s with freeBalances := s.freeBalances.insert address balance }
          |>.writeCodeAndStorage address changed)

/-- `DirectAccountDb::merge`: the accounts of a `State` in increasing order. -/
def merge (state : State AccountId balanceBits) : Option (Storage AccountId balanceBits indexBits) :=
  state.foldlM (fun s entry => s.mergeEntry entry.1 entry.2) s

end Storage

section Dispatch

variable {AccountId : Type} [LinearOrder AccountId] {balanceBits indexBits : Nat}
variable (s : Storage AccountId balanceBits indexBits)

/-- The result of a dispatch and the storage after it; `none` is a panic. -/
abbrev Dispatched (AccountId : Type) (balanceBits indexBits : Nat) :=
  Option (Except String Unit × Storage AccountId balanceBits indexBits)

/-- Commits the changes of an effect, if it has any. -/
def Storage.commit : Except String (Option (State AccountId balanceBits)) →
    Dispatched AccountId balanceBits indexBits
  | .error message => some (.error message, s)
  | .ok none => some (.ok (), s)
  | .ok (some changes) => (s.merge changes).map fun s => (.ok (), s)

/-- `transfer`: the destination is looked up and the transfer's changes are
merged into storage. -/
def Storage.transfer (runContract : ContractExecutor AccountId balanceBits indexBits)
    (aux : AccountId) (dest : Address AccountId (BitVec indexBits)) (value : BitVec balanceBits) :
    Dispatched AccountId balanceBits indexBits := do
  match ← s.lookup dest with
  | .error message => some (.error message, s)
  | .ok dest => s.commit (effectTransfer s runContract aux dest value s.direct)

/-- `create`: the contract creation's changes are merged into storage. -/
def Storage.create (contractAddressFor : Bytes → AccountId → AccountId) (aux : AccountId)
    (code : Bytes) (value : BitVec balanceBits) : Dispatched AccountId balanceBits indexBits :=
  s.commit (effectCreate s contractAddressFor aux code value s.direct)

end Dispatch

end Staking
end Polkadot
