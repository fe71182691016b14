import Polkadot.Foundations.Fold

/-!
# Block import

`client/src/client.rs`: the client imports a block when its parent is in the
chain and it is not, executes it on its parent's state, and commits header,
body, justification and storage changes through its backend in one operation.
A block is the new best block when its number is one past the best number.

The client is generic over its backend (`backend::Backend`); `Backend` is the
part of that interface import uses, and `client/src/in_mem.rs` and
`client/db/src/lib.rs` instantiate it.  Execution is not modelled: an import
takes the storage update that executing the block returned.
-/

namespace Polkadot
namespace Client

/-- What the client reads from a header (`HeaderT`): its hash, its number and
its parent's hash. -/
structure HeaderOps (Header Hash : Type) where
  hash : Header → Hash
  number : Header → Nat
  parentHash : Header → Hash

/-- `BlockId`. -/
inductive BlockId (Hash : Type) where
  | hash (hash : Hash)
  | number (number : Nat)
deriving DecidableEq, Repr

/-- `blockchain::BlockStatus`. -/
inductive BlockStatus where
  | inChain
  | unknown
deriving DecidableEq, Repr

/-- `ImportResult`. -/
inductive ImportResult where
  | queued
  | alreadyQueued
  | alreadyInChain
  | knownBad
  | unknownParent
deriving DecidableEq, Repr

/-- `PendingBlock`: the block data of an import operation. -/
structure PendingBlock (Header Extrinsic Justification : Type) where
  header : Header
  body : Option (List Extrinsic)
  justification : Option Justification
  isBest : Bool

/-- The part of a client backend that block import uses: the blockchain's
header lookup, status and best number, and committing an operation with the
storage update of type `Update` (`none` is a panic). -/
structure Backend (σ Hash Header Extrinsic Justification Update : Type) where
  header : σ → BlockId Hash → Option Header
  status : σ → BlockId Hash → BlockStatus
  bestNumber : σ → Nat
  commitOperation : σ → PendingBlock Header Extrinsic Justification → Update → Option σ

variable {σ Hash Header Extrinsic Justification Update : Type}

/-- `Client::new`: a backend without block 0 gets the genesis block, as the
new best block, with an empty body. -/
def new (backend : Backend σ Hash Header Extrinsic Justification Update) (state : σ)
    (genesis : Header) (genesisStorage : Update) : Option σ :=
  match backend.header state (.number 0) with
  | some _ => some state
  | none => backend.commitOperation state ⟨genesis, some [], none, true⟩ genesisStorage

/-- `Client::import_block` and `execute_and_import_block`. -/
def importBlock (ops : HeaderOps Header Hash)
    (backend : Backend σ Hash Header Extrinsic Justification Update) (state : σ) (header : Header)
    (justification : Justification) (body : Option (List Extrinsic)) (update : Update) :
    Option (σ × ImportResult) :=
  match backend.status state (.hash (ops.parentHash header)) with
  | .unknown => some (state, .unknownParent)
  | .inChain =>
      match backend.status state (.hash (ops.hash header)) with
      | .inChain => some (state, .alreadyInChain)
      | .unknown => do
          let isNewBest := ops.number header == backend.bestNumber state + 1
          let state ← backend.commitOperation state ⟨header, body, some justification, isNewBest⟩
            update
          pure (state, .queued)

/-- A block to import with the storage update its execution returned. -/
structure Import (Header Extrinsic Justification Update : Type) where
  header : Header
  justification : Justification
  body : Option (List Extrinsic)
  update : Update

/-- A sequence of imports. -/
def importBlocks (ops : HeaderOps Header Hash)
    (backend : Backend σ Hash Header Extrinsic Justification Update) (state : σ) :
    List (Import Header Extrinsic Justification Update) → Option σ :=
  List.foldlM (fun state block =>
    (importBlock ops backend state block.header block.justification block.body block.update).map
      (·.1)) state

end Client
end Polkadot
