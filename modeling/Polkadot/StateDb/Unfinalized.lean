import Polkadot.StateDb.Defs

/-!
# The overlay of unfinalized blocks

`state-db/src/unfinalized.rs`.  Unfinalized blocks are kept in levels, one per
block number from the block after the last finalized one; the block at place
`i` of the level of number `n` is journalled under the key `(n, i)`, where `i`
is the length of the level when the block was inserted.  Finalizing a block of
the first level writes its changes to the data column and discards its
siblings with all their descendants, deleting their journal records.  On
restart the overlay is read back from the journal: level after level, each from
place 0 up to the first missing key.

A failed assertion or `expect` of the source is a panic, modelled as `none`.
-/

namespace Polkadot
namespace StateDb

/-- `BlockOverlay`: the changes of one unfinalized block. -/
structure BlockOverlay (BlockHash Key Value : Type) where
  hash : BlockHash
  journalKey : MetaKey
  values : Column Key Value
  deleted : List Key

/-- `UnfinalizedOverlay`. -/
structure UnfinalizedOverlay (BlockHash Key Value : Type) where
  lastFinalized : Option (BlockHash × Nat)
  levels : List (List (BlockOverlay BlockHash Key Value))
  parents : Column BlockHash BlockHash

variable {BlockHash Key Value : Type} [DecidableEq BlockHash] [DecidableEq Key]

/-- The overlay of a journal record. -/
def BlockOverlay.ofRecord (record : UnfinalizedRecord BlockHash Key Value) (journalKey : MetaKey) :
    BlockOverlay BlockHash Key Value :=
  ⟨record.hash, journalKey, Column.ofList record.inserted, record.deleted⟩

namespace UnfinalizedOverlay

/-- `front_block_number`: the number of the blocks of the first level. -/
def frontBlockNumber (overlay : UnfinalizedOverlay BlockHash Key Value) : Nat :=
  match overlay.lastFinalized with
  | some (_, number) => number + 1
  | none => 0

/-! ## Restoring from the journal -/

/-- The journal record under a key, if there is one. -/
def readRecord (metadata : Column MetaKey (MetaValue BlockHash Key Value)) (key : MetaKey) :
    Except Error (Option (UnfinalizedRecord BlockHash Key Value)) :=
  match metadata.lookup key with
  | none => .ok none
  | some (.unfinalizedRecord record) => .ok (some record)
  | some _ => .error .decoding

/-- The inner loop of `new`: the records of level `block` from place `index`
up to the first missing key.  `fuel` bounds the reads: a store of `n` entries
misses one of any `n + 1` keys. -/
def readLevel (metadata : Column MetaKey (MetaValue BlockHash Key Value)) (block : Nat) :
    Nat → Nat → Except Error (List (UnfinalizedRecord BlockHash Key Value × MetaKey))
  | 0, _ => pure []
  | fuel + 1, index => do
      let journalKey := MetaKey.unfinalizedJournal block index
      match ← readRecord metadata journalKey with
      | none => pure []
      | some record => do
          let rest ← readLevel metadata block fuel (index + 1)
          pure ((record, journalKey) :: rest)

/-- The outer loop of `new`: the levels from number `block` up to the first
empty one. -/
def readLevels (metadata : Column MetaKey (MetaValue BlockHash Key Value)) :
    Nat → Nat → Except Error (List (List (UnfinalizedRecord BlockHash Key Value × MetaKey)))
  | 0, _ => pure []
  | fuel + 1, block => do
      let level ← readLevel metadata block (metadata.entries.length + 1) 0
      if level.isEmpty then pure []
      else do
        let rest ← readLevels metadata fuel (block + 1)
        pure (level :: rest)

/-- `UnfinalizedOverlay::new`: the overlay as the journal holds it. -/
def new (metadata : Column MetaKey (MetaValue BlockHash Key Value)) :
    Except Error (UnfinalizedOverlay BlockHash Key Value) := do
  let lastFinalized ← match metadata.lookup .lastFinalized with
    | none => pure none
    | some (.lastFinalized hash number) => pure (some (hash, number))
    | some _ => throw .decoding
  match lastFinalized with
  | none => pure ⟨none, [], ∅⟩
  | some (_, number) => do
      let records ← readLevels metadata (metadata.entries.length + 1) (number + 1)
      let parents := records.flatten.foldl
        (fun parents entry => parents.insert entry.1.hash entry.1.parentHash) ∅
      pure ⟨lastFinalized, records.map (·.map fun entry => BlockOverlay.ofRecord entry.1 entry.2),
        parents⟩

/-! ## Inserting -/

/-- The checks at the start of `insert`.  The first block inserted into an
empty overlay records its parent as the last finalized block (`number - 1`
overflows for block 0).  Later blocks must extend a level or open the next
one, on top of the last finalized block or of a block in the overlay. -/
def prepareInsert (overlay : UnfinalizedOverlay BlockHash Key Value) (number : Nat)
    (parentHash : BlockHash) :
    Option (UnfinalizedOverlay BlockHash Key Value ×
      List (MetaKey × MetaValue BlockHash Key Value)) :=
  if overlay.levels.isEmpty ∧ overlay.lastFinalized.isNone then do
    guard (0 < number)
    pure ({ overlay with lastFinalized := some (parentHash, number - 1) },
      [(.lastFinalized, .lastFinalized parentHash (number - 1))])
  else if overlay.lastFinalized.isSome then do
    let front := overlay.frontBlockNumber
    guard (front ≤ number ∧ number < front + overlay.levels.length + 1)
    if number = front then guard (overlay.lastFinalized = some (parentHash, number - 1))
    else guard (overlay.parents.lookup parentHash).isSome
    pure (overlay, [])
  else pure (overlay, [])

/-- `insert`: journal the block under its number and its place in its level. -/
def insert (overlay : UnfinalizedOverlay BlockHash Key Value) (hash : BlockHash) (number : Nat)
    (parentHash : BlockHash) (changeset : ChangeSet Key Value) :
    Option (UnfinalizedOverlay BlockHash Key Value × CommitSet BlockHash Key Value) := do
  let (overlay, lastFinalizedRecord) ← overlay.prepareInsert number parentHash
  let front := overlay.frontBlockNumber
  -- a block one past the last level opens a new level at the back
  let (levels, position) :=
    if overlay.levels.isEmpty || number = front + overlay.levels.length then
      (overlay.levels ++ [[]], overlay.levels.length)
    else (overlay.levels, number - front)
  let level ← levels[position]?
  let journalKey := MetaKey.unfinalizedJournal number level.length
  let block : BlockOverlay BlockHash Key Value :=
    ⟨hash, journalKey, Column.ofList changeset.inserted, changeset.deleted⟩
  let record : UnfinalizedRecord BlockHash Key Value :=
    ⟨hash, parentHash, changeset.inserted, changeset.deleted⟩
  pure ({ overlay with
      levels := levels.set position (level ++ [block])
      parents := overlay.parents.insert hash parentHash },
    ⟨.empty, ⟨lastFinalizedRecord ++ [(journalKey, .unfinalizedRecord record)], []⟩⟩)

/-! ## Finalizing -/

/-- `discard`: drop the blocks of the first level whose parent is `hash`
together with their descendants in the later levels, and record their journal
keys, a block before its descendants.  Each call goes one level down; `depth`,
the number of levels, bounds the recursion. -/
def discardDepth : Nat → BlockHash → List (List (BlockOverlay BlockHash Key Value)) →
    Column BlockHash BlockHash → List MetaKey →
    Option (List (List (BlockOverlay BlockHash Key Value)) × Column BlockHash BlockHash ×
      List MetaKey)
  | 0, _, levels, parents, discarded => some (levels, parents, discarded)
  | _ + 1, _, [], parents, discarded => some ([], parents, discarded)
  | depth + 1, hash, level :: sublevels, parents, discarded => do
      let (kept, sublevels, parents, discarded) ← level.foldlM
        (fun (kept, sublevels, parents, discarded) block => do
          let parent ← parents.lookup block.hash
          if parent = hash then do
            let (sublevels, parents, discarded) ← discardDepth depth block.hash sublevels
              (parents.erase block.hash) (discarded ++ [block.journalKey])
            pure (kept, sublevels, parents, discarded)
          else pure (kept ++ [block], sublevels, parents, discarded))
        ([], sublevels, parents, discarded)
      pure (kept :: sublevels, parents, discarded)

/-- `discard` over all the levels below the first. -/
def discard (hash : BlockHash) (levels : List (List (BlockOverlay BlockHash Key Value)))
    (parents : Column BlockHash BlockHash) (discarded : List MetaKey) :
    Option (List (List (BlockOverlay BlockHash Key Value)) × Column BlockHash BlockHash ×
      List MetaKey) :=
  discardDepth levels.length hash levels parents discarded

/-- `finalize`: write the changes of a block of the first level, discard its
siblings with their descendants, and make it the last finalized block. -/
def finalize (overlay : UnfinalizedOverlay BlockHash Key Value) (hash : BlockHash) :
    Option (UnfinalizedOverlay BlockHash Key Value × CommitSet BlockHash Key Value) := do
  let (level, levels) ← match overlay.levels with
    | [] => none
    | level :: levels => some (level, levels)
  let index ← level.findIdx? fun block => decide (block.hash = hash)
  let (levels, parents, discarded, data) ← level.zipIdx.foldlM
    (fun (levels, parents, discarded, data) (block, place) => do
      let parents := parents.erase block.hash
      if place = index then
        pure (levels, parents, discarded ++ [block.journalKey],
          (⟨block.values.entries.map fun entry => (entry.1, entry.2), block.deleted⟩ :
            ChangeSet Key Value))
      else do
        let (levels, parents, discarded) ← discard block.hash levels parents discarded
        pure (levels, parents, discarded ++ [block.journalKey], data))
    (levels, overlay.parents, [], ChangeSet.empty)
  let number := overlay.frontBlockNumber
  pure (⟨some (hash, number), levels, parents⟩,
    ⟨data, ⟨[(.lastFinalized, .lastFinalized hash number)], discarded⟩⟩)

/-- `get`: the value of a key in the first block of the overlay that inserts it. -/
def get (overlay : UnfinalizedOverlay BlockHash Key Value) (key : Key) : Option Value :=
  (overlay.levels.flatten.findSome? fun block => block.values.lookup key)

/-! ## A hash inserted twice -/

/-- `insert` never checks that a hash is new.  Blocks 1 and 2 are children of
the last finalized block 0, and block 3, a child of 1, is inserted twice: every
assertion of `insert` holds, and `parents` keeps one entry for the two blocks
of hash 3.  Finalizing 2 discards 1 and its children: the first block 3 takes
the entry away, and the `expect` of `discard` fails at the second. -/
theorem finalize_panics_on_repeated_hash :
    ∃ overlay : UnfinalizedOverlay Nat Nat Nat,
      (do
        let (overlay, _) ← (⟨none, [], ∅⟩ : UnfinalizedOverlay Nat Nat Nat).insert 1 1 0 .empty
        let (overlay, _) ← overlay.insert 2 1 0 .empty
        let (overlay, _) ← overlay.insert 3 2 1 .empty
        let (overlay, _) ← overlay.insert 3 2 1 .empty
        pure overlay) = some overlay ∧
      overlay.levels.map (·.map BlockOverlay.hash) = [[1, 2], [3, 3]] ∧
      overlay.parents.keys = [3, 2, 1] ∧
      overlay.finalize 2 = none :=
  ⟨_, rfl, rfl, rfl, rfl⟩

end UnfinalizedOverlay

end StateDb
end Polkadot
