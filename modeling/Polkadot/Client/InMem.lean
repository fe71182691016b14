import Polkadot.Client.Import
import Polkadot.StateDb.Defs

/-!
# The in-memory backend

`client/src/in_mem.rs`: blocks are stored by hash, and a map from numbers to
hashes answers queries by number.  Every insertion writes its number into that
map, whether or not the block is the new best one.

The states the backend keeps beside the blocks are not modelled: no query of
the block storage reads them.  A block is only stored by an import that found
its hash unknown, so a stored block never changes: the blocks a run has stored
are exactly what it imported under their hashes.
-/

namespace Polkadot
namespace Client
namespace InMem

open StateDb (Column)

/-- `StoredBlock`: a header with its body, when known, and its justification. -/
structure StoredBlock (Header Extrinsic Justification : Type) where
  header : Header
  body : Option (List Extrinsic)
  justification : Option Justification

/-- `BlockchainStorage`. -/
structure Blockchain (Hash Header Extrinsic Justification : Type) where
  blocks : Column Hash (StoredBlock Header Extrinsic Justification)
  hashes : Column Nat Hash
  bestHash : Hash
  bestNumber : Nat
  genesisHash : Hash

namespace Blockchain

variable {Hash Header Extrinsic Justification : Type} [DecidableEq Hash]

/-- `Blockchain::new`. -/
def new [Inhabited Hash] : Blockchain Hash Header Extrinsic Justification :=
  ⟨∅, ∅, default, 0, default⟩

/-- `Blockchain::insert`. -/
def insert (ops : HeaderOps Header Hash) (chain : Blockchain Hash Header Extrinsic Justification)
    (hash : Hash) (header : Header) (justification : Option Justification)
    (body : Option (List Extrinsic)) (isNewBest : Bool) :
    Blockchain Hash Header Extrinsic Justification :=
  let number := ops.number header
  let chain := { chain with
    blocks := chain.blocks.insert hash ⟨header, body, justification⟩
    hashes := chain.hashes.insert number hash }
  let chain := if isNewBest then { chain with bestHash := hash, bestNumber := number } else chain
  if number = 0 then { chain with genesisHash := hash } else chain

/-- Inserting a block stores its header, body and justification under its hash. -/
@[simp] theorem insert_blocks (ops : HeaderOps Header Hash)
    (chain : Blockchain Hash Header Extrinsic Justification) (hash : Hash) (header : Header)
    (justification : Option Justification) (body : Option (List Extrinsic)) (isNewBest : Bool) :
    (chain.insert ops hash header justification body isNewBest).blocks =
      chain.blocks.insert hash ⟨header, body, justification⟩ := by
  unfold Blockchain.insert
  dsimp only
  split_ifs <;> rfl

/-- `Blockchain::id`. -/
def id (chain : Blockchain Hash Header Extrinsic Justification) : BlockId Hash → Option Hash
  | .hash hash => some hash
  | .number number => chain.hashes.lookup number

/-- The stored block of an id. -/
def stored (chain : Blockchain Hash Header Extrinsic Justification) (id : BlockId Hash) :
    Option (StoredBlock Header Extrinsic Justification) :=
  (chain.id id).bind chain.blocks.lookup

/-- `header`. -/
def header (chain : Blockchain Hash Header Extrinsic Justification) (id : BlockId Hash) :
    Option Header :=
  (chain.stored id).map (·.header)

/-- `body`. -/
def body (chain : Blockchain Hash Header Extrinsic Justification) (id : BlockId Hash) :
    Option (List Extrinsic) :=
  (chain.stored id).bind (·.body)

/-- `justification`. -/
def justification (chain : Blockchain Hash Header Extrinsic Justification) (id : BlockId Hash) :
    Option Justification :=
  (chain.stored id).bind (·.justification)

/-- `status`. -/
def status (chain : Blockchain Hash Header Extrinsic Justification) (id : BlockId Hash) :
    BlockStatus :=
  if (chain.stored id).isSome then .inChain else .unknown

/-- A block is unknown exactly when the chain stores nothing under its id. -/
theorem status_eq_unknown_iff (chain : Blockchain Hash Header Extrinsic Justification)
    (id : BlockId Hash) : chain.status id = .unknown ↔ chain.stored id = none := by
  unfold Blockchain.status
  cases chain.stored id <;> simp

/-- `hash`. -/
def hash (chain : Blockchain Hash Header Extrinsic Justification) (number : Nat) : Option Hash :=
  chain.id (.number number)

end Blockchain

variable {Hash Header Extrinsic Justification : Type} [DecidableEq Hash]

/-- `Backend::commit_operation`: insert the pending block under its hash. -/
def commitOperation (ops : HeaderOps Header Hash)
    (chain : Blockchain Hash Header Extrinsic Justification)
    (pending : PendingBlock Header Extrinsic Justification) (_update : Unit) :
    Option (Blockchain Hash Header Extrinsic Justification) :=
  some (chain.insert ops (ops.hash pending.header) pending.header pending.justification
    pending.body pending.isBest)

/-- The in-memory backend. -/
def backend (ops : HeaderOps Header Hash) :
    Backend (Blockchain Hash Header Extrinsic Justification) Hash Header Extrinsic Justification
      Unit :=
  ⟨Blockchain.header, Blockchain.status, Blockchain.bestNumber, commitOperation ops⟩

/-! ## Stored blocks never change -/

section Stable

variable {ops : HeaderOps Header Hash}

/-- Inserting at a fresh hash leaves every stored block in place. -/
theorem lookup_insert_of_fresh {chain : Blockchain Hash Header Extrinsic Justification}
    {hash : Hash} (fresh : chain.blocks.lookup hash = none) (header : Header)
    (justification : Option Justification) (body : Option (List Extrinsic)) (isNewBest : Bool)
    {other : Hash} {block : StoredBlock Header Extrinsic Justification}
    (stored : chain.blocks.lookup other = some block) :
    (chain.insert ops hash header justification body isNewBest).blocks.lookup other = some block := by
  have distinct : other ≠ hash := by
    rintro rfl
    rw [fresh] at stored
    cases stored
  rw [Blockchain.insert_blocks, AList.lookup_insert_ne distinct, stored]

/-- An import leaves every stored block in place: it commits only a block whose
hash is unknown. -/
theorem importBlock_lookup {chain next : Blockchain Hash Header Extrinsic Justification}
    {header : Header} {justification : Justification} {body : Option (List Extrinsic)}
    {result : ImportResult}
    (imported : importBlock ops (backend ops) chain header justification body () =
      some (next, result))
    {other : Hash} {block : StoredBlock Header Extrinsic Justification}
    (stored : chain.blocks.lookup other = some block) : next.blocks.lookup other = some block := by
  unfold importBlock at imported
  split at imported
  · cases imported; exact stored
  · split at imported
    · cases imported; exact stored
    · rename_i unknownHash
      have fresh : chain.blocks.lookup (ops.hash header) = none :=
        (Blockchain.status_eq_unknown_iff chain _).mp unknownHash
      simp only [backend, commitOperation, Option.bind_eq_bind, Option.bind_some, Option.pure_def,
        Option.some.injEq, Prod.mk.injEq] at imported
      obtain ⟨rfl, -⟩ := imported
      exact lookup_insert_of_fresh fresh _ _ _ _ stored

/-- A queued import stores its block under its hash. -/
theorem importBlock_queued_header {chain next : Blockchain Hash Header Extrinsic Justification}
    {header : Header} {justification : Justification} {body : Option (List Extrinsic)}
    (imported : importBlock ops (backend ops) chain header justification body () =
      some (next, .queued)) :
    next.header (.hash (ops.hash header)) = some header := by
  unfold importBlock at imported
  split at imported
  · cases imported
  · split at imported
    · cases imported
    · simp only [backend, commitOperation, Option.bind_eq_bind, Option.bind_some, Option.pure_def,
        Option.some.injEq, Prod.mk.injEq] at imported
      obtain ⟨rfl, -⟩ := imported
      simp [Blockchain.header, Blockchain.stored, Blockchain.id]

/-- A run of imports leaves every stored block in place. -/
theorem importBlocks_lookup {chain final : Blockchain Hash Header Extrinsic Justification}
    {blocks : List (Import Header Extrinsic Justification Unit)}
    (ran : importBlocks ops (backend ops) chain blocks = some final)
    {other : Hash} {block : StoredBlock Header Extrinsic Justification}
    (stored : chain.blocks.lookup other = some block) : final.blocks.lookup other = some block := by
  refine Foundations.foldlM_invariant (fun chain => chain.blocks.lookup other = some block) stored
    ?_ ran
  intro state item next _ storedBefore stepped
  obtain ⟨⟨imported, result⟩, importedEq, rfl⟩ := Option.map_eq_some_iff.mp stepped
  exact importBlock_lookup importedEq storedBefore

/-- On the in-memory backend a block, once imported, is what the header of its
hash returns after any further imports. -/
theorem header_of_queued {chain next final : Blockchain Hash Header Extrinsic Justification}
    {header : Header} {justification : Justification} {body : Option (List Extrinsic)}
    (imported : importBlock ops (backend ops) chain header justification body () =
      some (next, .queued))
    {blocks : List (Import Header Extrinsic Justification Unit)}
    (ran : importBlocks ops (backend ops) next blocks = some final) :
    final.header (.hash (ops.hash header)) = some header := by
  have storedHeader := importBlock_queued_header imported
  simp only [Blockchain.header, Blockchain.stored, Blockchain.id, Option.bind_some,
    Option.map_eq_some_iff] at storedHeader ⊢
  obtain ⟨block, stored, rfl⟩ := storedHeader
  exact ⟨block, importBlocks_lookup ran stored, rfl⟩

end Stable

end InMem
end Client
end Polkadot
