import Polkadot.Client.Import
import Polkadot.StateDb.StateDb

/-!
# The database backend

`client/db/src/lib.rs` and `client/db/src/utils.rs`.  Headers, bodies and
justifications are stored in columns keyed by the block number as a `u32`
(`number_to_db_key`); a block index maps each hash to its number key.  Trie
nodes go through the state database: each committed block is inserted into it,
and once a block is more than `finalization_window` blocks high, the block the
header column holds at the height that many blocks below is finalized.

Columns hold encoded values that the codecs read back (`Codec`), so they are
modelled decoded; the key of a number is its `u32`, as a bit vector.  A commit
is one transaction: every read in `commit_operation` sees the database before
it.
-/

namespace Polkadot
namespace Client
namespace Db

open StateDb

/-- `number_to_db_key`: the number as a `u32`. -/
def numberToDbKey (number : Nat) : BitVec 32 := BitVec.ofNat 32 number

/-- `Meta`: the best block and the genesis hash, kept in memory. -/
structure Meta (Hash : Type) where
  bestHash : Hash
  bestNumber : Nat
  genesisHash : Hash

/-- `BlockchainDb`: the block columns, the best block key of the meta column,
and the meta data read from them. -/
structure BlockchainDb (Hash Header Extrinsic Justification : Type) where
  blockIndex : Column Hash (BitVec 32)
  headers : Column (BitVec 32) Header
  bodies : Column (BitVec 32) (List Extrinsic)
  justifications : Column (BitVec 32) Justification
  bestBlock : Option (BitVec 32)
  /-- `meta` -/
  metadata : Meta Hash

namespace BlockchainDb

variable {Hash Header Extrinsic Justification : Type} [DecidableEq Hash]

/-- A database without blocks, with the meta data `read_meta` gives it. -/
def empty [Inhabited Hash] : BlockchainDb Hash Header Extrinsic Justification :=
  ⟨∅, ∅, ∅, ∅, none, ⟨default, 0, default⟩⟩

/-- `read_id`. -/
def readId (db : BlockchainDb Hash Header Extrinsic Justification) :
    BlockId Hash → Option (BitVec 32)
  | .hash hash => db.blockIndex.lookup hash
  | .number number => some (numberToDbKey number)

/-- `header`. -/
def header (db : BlockchainDb Hash Header Extrinsic Justification) (id : BlockId Hash) :
    Option Header :=
  (db.readId id).bind db.headers.lookup

/-- `body`. -/
def body (db : BlockchainDb Hash Header Extrinsic Justification) (id : BlockId Hash) :
    Option (List Extrinsic) :=
  (db.readId id).bind db.bodies.lookup

/-- `justification`. -/
def justification (db : BlockchainDb Hash Header Extrinsic Justification) (id : BlockId Hash) :
    Option Justification :=
  (db.readId id).bind db.justifications.lookup

/-- `status`: a hash is in the chain when the index has it, a number when it is
at most the best number. -/
def status (db : BlockchainDb Hash Header Extrinsic Justification) : BlockId Hash → BlockStatus
  | .hash hash => if (db.blockIndex.lookup hash).isSome then .inChain else .unknown
  | .number number => if number ≤ db.metadata.bestNumber then .inChain else .unknown

/-- `hash`: the hash of the header stored at a number. -/
def hash (ops : HeaderOps Header Hash) (db : BlockchainDb Hash Header Extrinsic Justification)
    (number : Nat) : Option Hash :=
  (db.headers.lookup (numberToDbKey number)).map ops.hash

/-- `update_meta`. -/
def updateMeta (db : BlockchainDb Hash Header Extrinsic Justification) (hash : Hash)
    (number : Nat) (isBest : Bool) : BlockchainDb Hash Header Extrinsic Justification :=
  if isBest then
    { db with metadata :=
      ⟨hash, number, if number = 0 then hash else db.metadata.genesisHash⟩ }
  else db

/-- The writes of `commit_operation` to the block columns. -/
def writeBlock (db : BlockchainDb Hash Header Extrinsic Justification) (hash : Hash)
    (key : BitVec 32) (pending : PendingBlock Header Extrinsic Justification) :
    BlockchainDb Hash Header Extrinsic Justification :=
  { db with
    headers := db.headers.insert key pending.header
    bodies := match pending.body with
      | some body => db.bodies.insert key body
      | none => db.bodies
    justifications := match pending.justification with
      | some justification => db.justifications.insert key justification
      | none => db.justifications
    blockIndex := db.blockIndex.insert hash key
    bestBlock := if pending.isBest then some key else db.bestBlock }

end BlockchainDb

/-- `Backend`: the block database, the state database, its two columns, and the
finalization window. -/
structure Backend (Hash Header Extrinsic Justification Key Value : Type) where
  blockchain : BlockchainDb Hash Header Extrinsic Justification
  stateDb : StateDbSync Hash Key Value
  store : Store Hash Key Value
  finalizationWindow : Nat

namespace Backend

variable {Hash Header Extrinsic Justification Key Value : Type} [DecidableEq Hash] [DecidableEq Key]

/-- `Backend::from_kvdb` on an empty database. -/
def fromEmpty [Inhabited Hash] (pruning : PruningMode) (finalizationWindow : Nat) :
    ExceptT StateDb.Error Option (Backend Hash Header Extrinsic Justification Key Value) := do
  let stateDb ← StateDbSync.new pruning ∅
  pure ⟨BlockchainDb.empty, stateDb, ⟨∅, ∅⟩, finalizationWindow⟩

/-- The block `commit_operation` finalizes after committing a block of
`number`: the block itself without a window, else the block the header column
holds `finalization_window` blocks below, read before the commit. -/
def finalizingHash (ops : HeaderOps Header Hash)
    (backend : Backend Hash Header Extrinsic Justification Key Value) (hash : Hash)
    (number : Nat) : Option Hash :=
  if backend.finalizationWindow < number then
    if backend.finalizationWindow = 0 then some hash
    else backend.blockchain.hash ops (number - backend.finalizationWindow)
  else none

/-- `Backend::commit_operation`; the change set is the one read off the
reference counts of the storage update. -/
def commitOperation (ops : HeaderOps Header Hash)
    (backend : Backend Hash Header Extrinsic Justification Key Value)
    (pending : PendingBlock Header Extrinsic Justification) (changeset : ChangeSet Key Value) :
    Option (Backend Hash Header Extrinsic Justification Key Value) := do
  let hash := ops.hash pending.header
  let number := ops.number pending.header
  let blockchain := backend.blockchain.writeBlock hash (numberToDbKey number) pending
  let (stateDb, commit) ←
    backend.stateDb.insertBlock hash number (ops.parentHash pending.header) changeset
  let store := backend.store.commit commit
  let (stateDb, store) ← match backend.finalizingHash ops hash number with
    | none => pure (stateDb, store)
    | some finalizing => do
        let (stateDb, commit) ← stateDb.finalizeBlock finalizing
        pure (stateDb, store.commit commit)
  pure ⟨blockchain.updateMeta hash number pending.isBest, stateDb, store,
    backend.finalizationWindow⟩

/-- The database backend. -/
def backend (ops : HeaderOps Header Hash) :
    Client.Backend (Backend Hash Header Extrinsic Justification Key Value) Hash Header Extrinsic
      Justification (ChangeSet Key Value) :=
  ⟨fun backend => backend.blockchain.header, fun backend => backend.blockchain.status,
    fun backend => backend.blockchain.metadata.bestNumber, commitOperation ops⟩

end Backend

end Db
end Client
end Polkadot
