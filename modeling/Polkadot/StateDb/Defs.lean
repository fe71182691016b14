import Mathlib

/-!
# The state database: change sets and stores

`state-db/src/lib.rs`.  The state database keeps the trie nodes of
unfinalized blocks in an overlay, writes those of finalized blocks to the
backing store and deletes them again once they leave the pruning window.  Every
call returns a `CommitSet`: the changes to the data column and to the meta
column, which the caller applies in order, insertions first.

Meta keys (`to_meta_key`) are the encoding of some data followed by a fixed
suffix; the four kinds have different suffixes and encodings of different
lengths, so they are modelled as a tagged key.  Meta values are the records the
state database encodes into them, kept decoded (the codec reads back what it
writes).  Block numbers are `u64`s that stay far below `2^64`; they are `Nat`.
-/

namespace Polkadot
namespace StateDb

/-- The keys of the meta column (`to_meta_key`). -/
inductive MetaKey where
  /-- `LAST_FINALIZED` -/
  | lastFinalized
  /-- The journal record of an unfinalized block, by number and place in its level. -/
  | unfinalizedJournal (block index : Nat)
  /-- `LAST_PRUNED` -/
  | lastPruned
  /-- The journal record of a finalized block in the pruning window. -/
  | pruningJournal (block : Nat)
deriving DecidableEq, Repr

/-- `ChangeSet`: values to insert and keys to delete. -/
structure ChangeSet (K V : Type) where
  inserted : List (K × V)
  deleted : List K
deriving DecidableEq, Repr

/-- `ChangeSet::default()`. -/
def ChangeSet.empty {K V : Type} : ChangeSet K V := ⟨[], []⟩

/-- The journal record of an unfinalized block (`unfinalized::JournalRecord`). -/
structure UnfinalizedRecord (BlockHash Key Value : Type) where
  hash : BlockHash
  parentHash : BlockHash
  inserted : List (Key × Value)
  deleted : List Key
deriving DecidableEq, Repr

/-- The journal record of a block in the pruning window (`pruning::JournalRecord`). -/
structure PruningRecord (BlockHash Key : Type) where
  hash : BlockHash
  inserted : List Key
  deleted : List Key
deriving DecidableEq, Repr

/-- What the state database stores under its meta keys, decoded. -/
inductive MetaValue (BlockHash Key Value : Type) where
  | lastFinalized (hash : BlockHash) (number : Nat)
  | unfinalizedRecord (record : UnfinalizedRecord BlockHash Key Value)
  | lastPruned (number : Nat)
  | pruningRecord (record : PruningRecord BlockHash Key)
deriving DecidableEq, Repr

/-- `CommitSet`: the changes to the data column and to the meta column. -/
structure CommitSet (BlockHash Key Value : Type) where
  data : ChangeSet Key Value
  /-- `meta` -/
  metadata : ChangeSet MetaKey (MetaValue BlockHash Key Value)
deriving DecidableEq, Repr

/-- `CommitSet::default()`. -/
def CommitSet.empty {BlockHash Key Value : Type} : CommitSet BlockHash Key Value :=
  ⟨ChangeSet.empty, ChangeSet.empty⟩

/-- The errors of reading the journals back (`Error::Decoding`; the stores
here do not fail). -/
inductive Error where
  | decoding
deriving DecidableEq, Repr

/-! ## Stores -/

section Stores

variable {K V : Type} [DecidableEq K]

/-- A column of the backing database. -/
abbrev Column (K V : Type) := AList (fun _ : K => V)

/-- Apply a change set: the insertions, then the deletions (`TestDb::commit`). -/
def ChangeSet.apply (changes : ChangeSet K V) (column : Column K V) : Column K V :=
  changes.deleted.foldl (fun column key => column.erase key)
    (changes.inserted.foldl (fun column entry => column.insert entry.1 entry.2) column)

/-- A map built from a list of pairs, later pairs winning (`collect()` into a
`HashMap`). -/
def Column.ofList (entries : List (K × V)) : Column K V :=
  entries.foldl (fun column entry => column.insert entry.1 entry.2) ∅

end Stores

/-- The data column and the meta column of the backing database. -/
structure Store (BlockHash Key Value : Type) where
  data : Column Key Value
  metadata : Column MetaKey (MetaValue BlockHash Key Value)

/-- Apply a commit set to both columns. -/
def Store.commit {BlockHash Key Value : Type} [DecidableEq Key] (store : Store BlockHash Key Value)
    (commit : CommitSet BlockHash Key Value) : Store BlockHash Key Value :=
  ⟨commit.data.apply store.data, commit.metadata.apply store.metadata⟩

end StateDb
end Polkadot
