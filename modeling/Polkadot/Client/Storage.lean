import Polkadot.Client.InMem
import Polkadot.Client.Db

/-!
# Block storage under forks

The block storage of a client should answer for every imported hash with what
was imported under it, and for every number up to the best one with the best
block's ancestor at that number.  On the in-memory backend the first holds over
every run (`InMem.header_of_queued`); the map from numbers follows the last
block imported at each number instead of the best chain.  The database keys its
block columns by number, so a second block at a height replaces the first one
behind the first one's hash too; and a block at a height the state database has
already finalized cannot be inserted into it.
-/

namespace Polkadot
namespace Client

/-- Headers as triples of hash, number and parent hash. -/
def tripleOps : HeaderOps (Nat × Nat × Nat) Nat :=
  ⟨fun header => header.1, fun header => header.2.1, fun header => header.2.2⟩

/-- Block 11 on genesis 10, then its sibling 12, each with the same storage
update. -/
def siblingImports {Update : Type} (update : Update) :
    List (Import (Nat × Nat × Nat) Nat Nat Update) :=
  [⟨(11, 1, 10), 0, some [], update⟩, ⟨(12, 1, 10), 0, some [], update⟩]

/-- After genesis 10, block 11 and its sibling 12: in memory, number 1 maps to
12 while 11 is the best block; in the database with a finalization window of
32, the header of 11 is 12's and number 1 maps to 12 while 11 is the best
block; without a window, importing 12 panics in the state database. -/
theorem sibling_import_breaks_block_storage :
    (∃ chain, ((Client.new (InMem.backend tripleOps) InMem.Blockchain.new (10, 0, 0) ()).bind
        fun genesis => importBlocks tripleOps (InMem.backend tripleOps) genesis (siblingImports ())) =
        some chain ∧
      chain.bestHash = 11 ∧ chain.bestNumber = 1 ∧ chain.hash 1 = some 12) ∧
    (∃ opened backend,
      (Db.Backend.fromEmpty (StateDb.PruningMode.keepBlocks 0) 32).run = some (.ok opened) ∧
      ((Client.new (Db.Backend.backend tripleOps) opened (10, 0, 0) ⟨[], []⟩).bind
        fun genesis => importBlocks tripleOps (Db.Backend.backend tripleOps) genesis
          (siblingImports (⟨[], []⟩ : StateDb.ChangeSet Nat Nat))) = some backend ∧
      backend.blockchain.header (.hash 11) = some (12, 1, 10) ∧
      backend.blockchain.metadata.bestHash = 11 ∧
      backend.blockchain.hash tripleOps 1 = some 12) ∧
    (∃ opened backend,
      (Db.Backend.fromEmpty (StateDb.PruningMode.keepBlocks 0) 0).run = some (.ok opened) ∧
      ((Client.new (Db.Backend.backend tripleOps) opened (10, 0, 0) ⟨[], []⟩).bind
        fun genesis => importBlocks tripleOps (Db.Backend.backend tripleOps) genesis
          ((siblingImports (⟨[], []⟩ : StateDb.ChangeSet Nat Nat)).take 1)) = some backend ∧
      importBlock tripleOps (Db.Backend.backend tripleOps) backend (12, 1, 10) 0
        (some ([] : List Nat)) ⟨[], []⟩ = none) :=
  ⟨⟨_, rfl, rfl, rfl, rfl⟩, ⟨_, _, rfl, rfl, rfl, rfl, rfl⟩, ⟨_, _, rfl, rfl, rfl⟩⟩

end Client
end Polkadot
