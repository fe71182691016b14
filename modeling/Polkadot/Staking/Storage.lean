import Polkadot.Foundations.MapWrites
import Polkadot.Foundations.ByteCodec
import Polkadot.Foundations.Unsigned

/-!
# Staking storage and accounts

`runtime/staking/src/lib.rs` and `genesis_config.rs`: the storage items that a
balance transfer reads and writes, the reaping of an account whose free balance
has fallen below the existential deposit (`on_free_too_low`), the registration
of a new account in the enumeration sets (`new_account`, with its reclaim of a
dead index named by the starting balance) and the lookup of an account by its
index.

`Balance` and `AccountIndex` are unsigned machine integers of `balanceBits` and
`indexBits` bits (`u64` and `u64` in the crate's tests, `u128` and `u64` in the
Polkadot runtime), with the arithmetic of `Foundations.Unsigned`.  A storage
map is an association list; a `default map` reads its default at an absent key.
-/

namespace Polkadot
namespace Staking

open Foundations (Bytes retain divChecked remChecked)

/-- `ENUM_SET_SIZE`: the account IDs stored per enumeration set. -/
def enumSetSizeConst : Nat := 64

/-- `RECLAIM_INDEX_MAGIC`: the low byte of a starting balance that asks for a
dead index to be reclaimed. -/
def reclaimIndexMagicConst : Nat := 0x69

/-- `Module::enum_set_size`, `T::AccountIndex::sa(ENUM_SET_SIZE)`. -/
def enumSetSize (indexBits : Nat) : BitVec indexBits := BitVec.ofNat indexBits enumSetSizeConst

/-- The storage items of staking that transfers read and write, with the block
number and the account nonces of `system`.  Each map is named after its storage
item; the fees and the existential deposit are `required` values. -/
structure Storage (AccountId : Type) (balanceBits indexBits : Nat) where
  existentialDeposit : BitVec balanceBits
  reclaimRebate : BitVec balanceBits
  transferFee : BitVec balanceBits
  creationFee : BitVec balanceBits
  contractFee : BitVec balanceBits
  nextEnumSet : BitVec indexBits
  enumSets : AList (fun _ : BitVec indexBits => List AccountId)
  freeBalances : AList (fun _ : AccountId => BitVec balanceBits)
  reservedBalances : AList (fun _ : AccountId => BitVec balanceBits)
  bondages : AList (fun _ : AccountId => Nat)
  codeOf : AList (fun _ : AccountId => Bytes)
  storageOf : AList (fun _ : AccountId × Bytes => Bytes)
  accountNonces : AList (fun _ : AccountId => Nat)
  blockNumber : Nat

/-- The outcome of registering a new account. -/
inductive NewAccountOutcome where
  | noHint
  | goodHint
  | badHint
  deriving DecidableEq, Repr

namespace Storage

variable {AccountId : Type} [DecidableEq AccountId] {balanceBits indexBits : Nat}
variable (s : Storage AccountId balanceBits indexBits)

/-- `free_balance`: zero for an account without one. -/
def freeBalance (who : AccountId) : BitVec balanceBits := (s.freeBalances.lookup who).getD 0

/-- `reserved_balance`. -/
def reservedBalance (who : AccountId) : BitVec balanceBits :=
  (s.reservedBalances.lookup who).getD 0

/-- `voting_balance`: the free and the reserved balance together. -/
def votingBalance (who : AccountId) : BitVec balanceBits :=
  s.freeBalance who + s.reservedBalance who

/-- `bondage`: the block at which the funds become liquid. -/
def bondage (who : AccountId) : Nat := (s.bondages.lookup who).getD 0

/-- `enum_set`. -/
def enumSet (index : BitVec indexBits) : List AccountId := (s.enumSets.lookup index).getD []

/-- `lookup_index`: the account at an index, if there is one there. -/
def lookupIndex (index : BitVec indexBits) : Option (Option AccountId) := do
  let set ← divChecked index (enumSetSize indexBits)
  let i ← remChecked index (enumSetSize indexBits)
  pure ((s.enumSet set)[i.toNat]?)

/-- `on_free_too_low`: the account's free balance, bondage, code and contract
storage are removed, and its nonce too when it has no reserved balance. -/
def onFreeTooLow (who : AccountId) : Storage AccountId balanceBits indexBits :=
  let s := { s with
    freeBalances := s.freeBalances.erase who
    bondages := s.bondages.erase who
    codeOf := s.codeOf.erase who
    storageOf := retain (fun key => key.1 != who) s.storageOf }
  if s.reservedBalance who = 0 then { s with accountNonces := s.accountNonces.erase who } else s

/-- The `loop` of `new_account`: from `setIndex` on, the first enumeration set
with room.  The source loops without bound; the model tries `fuel` indices. -/
def findSetWithRoom : Nat → BitVec indexBits → Option (BitVec indexBits × List AccountId)
  | 0, _ => none
  | fuel + 1, setIndex =>
      if (s.enumSet setIndex).length < enumSetSizeConst then some (setIndex, s.enumSet setIndex)
      else findSetWithRoom fuel (setIndex + 1)

/-- The index a starting balance names for reclaiming, the first part of
`new_account`: the balance modulo the quantized number of indices times 256,
when it ends in the magic byte, with that byte removed. -/
def hintedIndex (balance : BitVec balanceBits) : Option (Option (BitVec indexBits)) := do
  let enumSetSize := enumSetSize indexBits
  let nextSetIndex := s.nextEnumSet
  let reclaimIndexMagic := BitVec.ofNat indexBits reclaimIndexMagicConst
  let reclaimIndexModulus := BitVec.ofNat indexBits 256
  let quantization := BitVec.ofNat indexBits 256
  let quantizedAccountCount :=
    ((← divChecked (nextSetIndex * enumSetSize) quantization) + 1) * quantization
  let maybeTryIndex ←
    remChecked balance ((quantizedAccountCount * reclaimIndexModulus).setWidth balanceBits)
  let maybeTryIndex := maybeTryIndex.setWidth indexBits
  if (← remChecked maybeTryIndex reclaimIndexModulus) = reclaimIndexMagic then
    return some (← divChecked maybeTryIndex reclaimIndexModulus)
  else return none

/-- The reclaim of `new_account`: a hinted index whose account is dead is taken
over (`GoodHint`); a hint that names no dead account is `BadHint`. -/
def reclaimHint (who : AccountId) (balance : BitVec balanceBits) :
    Option (NewAccountOutcome × Storage AccountId balanceBits indexBits) := do
  match ← s.hintedIndex balance with
  | none => return (.noHint, s)
  | some tryIndex =>
      let setIndex ← divChecked tryIndex (enumSetSize indexBits)
      let trySet := s.enumSet setIndex
      let itemIndex := (← remChecked tryIndex (enumSetSize indexBits)).toNat
      match trySet[itemIndex]? with
      | some dead =>
          if s.votingBalance dead = 0 then
            return (.goodHint,
              { s with enumSets := s.enumSets.insert setIndex (trySet.set itemIndex who) })
          else return (.badHint, s)
      | none => return (.badHint, s)

/-- `new_account`: unless a dead index was reclaimed, the account is appended
to the first enumeration set with room from `NextEnumSet` on, which moves past
a set that becomes full. -/
def newAccount (who : AccountId) (balance : BitVec balanceBits) :
    Option (NewAccountOutcome × Storage AccountId balanceBits indexBits) := do
  let (ret, s) ← s.reclaimHint who balance
  if ret = .goodHint then return (ret, s)
  let (setIndex, set) ← s.findSetWithRoom (2 ^ indexBits) s.nextEnumSet
  let set := set ++ [who]
  let s := if set.length = enumSetSizeConst then { s with nextEnumSet := setIndex + 1 } else s
  return (ret, { s with enumSets := s.enumSets.insert setIndex set })

/-! What each write can change: `on_free_too_low` the maps of the reaped
account, `new_account` the enumeration sets and `NextEnumSet`. -/

/-- `on_free_too_low` erases the account's free balance and its bookkeeping, and changes the nonces.
-/
theorem onFreeTooLow_eq (who : AccountId) : ∃ nonces, s.onFreeTooLow who =
    { s with
      freeBalances := s.freeBalances.erase who
      bondages := s.bondages.erase who
      codeOf := s.codeOf.erase who
      storageOf := retain (fun key => key.1 != who) s.storageOf
      accountNonces := nonces } := by
  dsimp only [onFreeTooLow]
  split
  · exact ⟨_, rfl⟩
  · exact ⟨s.accountNonces, rfl⟩

/-- `reclaim_hint` changes only the enum sets. -/
theorem reclaimHint_eq {who : AccountId} {balance : BitVec balanceBits}
    {outcome : NewAccountOutcome} {s' : Storage AccountId balanceBits indexBits}
    (reclaimed : s.reclaimHint who balance = some (outcome, s')) :
    ∃ sets, s' = { s with enumSets := sets } := by
  unfold reclaimHint at reclaimed
  simp only [Option.bind_eq_bind, Option.bind_eq_some_iff] at reclaimed
  obtain ⟨hinted, -, reclaimed⟩ := reclaimed
  cases hinted with
  | none => cases reclaimed; exact ⟨s.enumSets, rfl⟩
  | some tryIndex =>
      simp only [Option.bind_eq_some_iff] at reclaimed
      obtain ⟨setIndex, -, item, -, reclaimed⟩ := reclaimed
      -- a dead account at the hinted index is replaced; otherwise nothing is written
      split at reclaimed
      · split at reclaimed
        · cases reclaimed; exact ⟨_, rfl⟩
        · cases reclaimed; exact ⟨s.enumSets, rfl⟩
      · cases reclaimed; exact ⟨s.enumSets, rfl⟩

/-- `new_account` changes only the enum sets and the next enum set. -/
theorem newAccount_eq {who : AccountId} {balance : BitVec balanceBits}
    {outcome : NewAccountOutcome} {s' : Storage AccountId balanceBits indexBits}
    (registered : s.newAccount who balance = some (outcome, s')) :
    ∃ sets next, s' = { s with enumSets := sets, nextEnumSet := next } := by
  unfold newAccount at registered
  simp only [Option.bind_eq_bind, Option.bind_eq_some_iff] at registered
  obtain ⟨⟨ret, reclaimedStorage⟩, reclaimed, registered⟩ := registered
  obtain ⟨sets, rfl⟩ := s.reclaimHint_eq reclaimed
  split at registered
  · cases registered; exact ⟨sets, s.nextEnumSet, rfl⟩
  · simp only [Option.bind_eq_some_iff] at registered
    obtain ⟨⟨setIndex, set⟩, -, registered⟩ := registered
    split at registered <;> cases registered <;> exact ⟨_, _, rfl⟩

end Storage

/-- An account named by its ID or by its index: `address::Address`. -/
inductive Address (AccountId AccountIndex : Type) where
  | id (account : AccountId)
  | index (index : AccountIndex)

namespace Storage

variable {AccountId : Type} [DecidableEq AccountId] {balanceBits indexBits : Nat}
variable (s : Storage AccountId balanceBits indexBits)

/-- `lookup`: an ID stands for itself, an index for the account stored there. -/
def lookup : Address AccountId (BitVec indexBits) → Option (Except String AccountId)
  | .id account => some (.ok account)
  | .index index => (s.lookupIndex index).map fun found =>
      match found with
      | some account => .ok account
      | none => .error "invalid account index"

end Storage

/-- The fields of `GenesisConfig` that the modelled storage holds. -/
structure GenesisConfig (AccountId : Type) (balanceBits : Nat) where
  balances : List (AccountId × BitVec balanceBits)
  transferFee : BitVec balanceBits
  creationFee : BitVec balanceBits
  contractFee : BitVec balanceBits
  reclaimRebate : BitVec balanceBits
  existentialDeposit : BitVec balanceBits

/-- `build_storage`: each account of the genesis balances gets its balance, and
the accounts fill the enumeration sets in order.  `system`'s genesis stores
block number 1. -/
def GenesisConfig.buildStorage {AccountId : Type} [DecidableEq AccountId]
    {balanceBits : Nat} (indexBits : Nat) (config : GenesisConfig AccountId balanceBits) :
    Storage AccountId balanceBits indexBits :=
  let ids := config.balances.map Prod.fst
  { existentialDeposit := config.existentialDeposit
    reclaimRebate := config.reclaimRebate
    transferFee := config.transferFee
    creationFee := config.creationFee
    contractFee := config.contractFee
    nextEnumSet := BitVec.ofNat indexBits (config.balances.length / enumSetSizeConst)
    enumSets := (List.range ((ids.length + enumSetSizeConst - 1) / enumSetSizeConst)).foldl
      (fun sets i => sets.insert (BitVec.ofNat indexBits i)
        ((ids.drop (i * enumSetSizeConst)).take enumSetSizeConst)) ∅
    freeBalances := config.balances.foldl (fun map entry => map.insert entry.1 entry.2) ∅
    reservedBalances := ∅
    bondages := ∅
    codeOf := ∅
    storageOf := ∅
    accountNonces := ∅
    blockNumber := 1 }

/-- The staking genesis of `new_test_ext(ext_deposit, .., monied, reward)` in
`mock.rs`, for the `Test` runtime's `u64` account IDs and balances: balances
scaled by 256 when there is an existential deposit, and no fees. -/
def newTestExt (extDeposit : BitVec 64) (monied : Bool) (reward : BitVec 64) :
    GenesisConfig Nat 64 :=
  let balanceFactor : BitVec 64 := if extDeposit > 0 then 256 else 1
  { balances :=
      if monied then
        if reward > 0 then
          [(1, 10 * balanceFactor), (2, 20 * balanceFactor), (3, 30 * balanceFactor),
            (4, 40 * balanceFactor), (10, balanceFactor), (20, balanceFactor)]
        else
          [(1, 10 * balanceFactor), (2, 20 * balanceFactor), (3, 30 * balanceFactor),
            (4, 40 * balanceFactor)]
      else [(10, balanceFactor), (20, balanceFactor)]
    transferFee := 0
    creationFee := 0
    contractFee := 0
    reclaimRebate := 0
    existentialDeposit := extDeposit }

end Staking
end Polkadot
