import Polkadot.StateDb.StateDb

/-!
# What the state database is for

Two specifications the state database is built to meet, and runs of the model
on which it does not.

Pruning.  The backing store should hold the initial data with every insertion
of a finalized block, less the keys whose last mention among the finalized
blocks is a deletion by a block that has left the window of the last
`max_blocks` ones (`referenceData`).  The death index keeps one block per key,
so a key deleted by two blocks of the window and then inserted again is
cancelled only in the newer row; pruning the older row deletes the key the
newest block wrote.

Restart.  Reading the journal back should give the live overlay.  A block's
journal key is its number and the length of its level when it was inserted;
discarding a sibling leaves a gap at place 0, where the reader stops, and the
next block of that level is journalled under the key of a live one.
-/

namespace Polkadot
namespace StateDb

open StateDbSync

variable {BlockHash Key Value : Type} [DecidableEq BlockHash] [DecidableEq Key]

/-! ## The reference model of pruning -/

/-- The change sets of the blocks a sequence of calls finalizes, in order: a
finalized hash names the change set last inserted under it. -/
def finalizedChangesFrom (inserted : Column BlockHash (ChangeSet Key Value)) :
    List (Operation BlockHash Key Value) → List (ChangeSet Key Value)
  | [] => []
  | .insertBlock hash _ _ changeset :: rest =>
      finalizedChangesFrom (inserted.insert hash changeset) rest
  | .finalizeBlock hash :: rest => (inserted.lookup hash).toList ++ finalizedChangesFrom inserted rest
  | .pin _ :: rest => finalizedChangesFrom inserted rest
  | .unpin _ :: rest => finalizedChangesFrom inserted rest

/-- The change sets of the finalized blocks of a sequence of calls. -/
def finalizedChanges (operations : List (Operation BlockHash Key Value)) :
    List (ChangeSet Key Value) :=
  finalizedChangesFrom ∅ operations

/-- The last finalized block that mentions a key, by its place, and whether it
deletes the key (a commit applies its insertions first). -/
def lastMention (finalized : List (ChangeSet Key Value)) (key : Key) : Option (Nat × Bool) :=
  finalized.zipIdx.foldl
    (fun last entry =>
      if key ∈ entry.1.deleted then some (entry.2, true)
      else if key ∈ entry.1.inserted.map (·.1) then some (entry.2, false)
      else last)
    none

/-- The key's last mention is a deletion by a block outside the window of the
last `window` finalized blocks. -/
def prunedDeletion (window : Nat) (finalized : List (ChangeSet Key Value)) (key : Key) : Bool :=
  match lastMention finalized key with
  | some (place, true) => decide (place + window < finalized.length)
  | _ => false

/-- The initial data with every finalized insertion written, the last one winning. -/
def writtenData (initial : Column Key Value) (finalized : List (ChangeSet Key Value)) :
    Column Key Value :=
  finalized.foldl
    (fun data changes => changes.inserted.foldl (fun data entry => data.insert entry.1 entry.2) data)
    initial

/-- The data a state database that keeps `window` finalized blocks should hold. -/
def referenceData (window : Nat) (initial : Column Key Value)
    (finalized : List (ChangeSet Key Value)) : Column Key Value :=
  let written := writtenData initial finalized
  written.keys.foldl
    (fun data key => if prunedDeletion window finalized key then data.erase key else data) written

/-- The reference holds a key exactly as the written data does, unless its last
mention is a deletion that has left the window. -/
theorem lookup_referenceData (window : Nat) (initial : Column Key Value)
    (finalized : List (ChangeSet Key Value)) (key : Key) :
    (referenceData window initial finalized).lookup key =
      if prunedDeletion window finalized key then none
      else (writtenData initial finalized).lookup key := by
  have erasing : ∀ (keys : List Key) (data : Column Key Value),
      (keys.foldl (fun data key =>
        if prunedDeletion window finalized key then data.erase key else data) data).lookup key =
        if key ∈ keys ∧ prunedDeletion window finalized key then none else data.lookup key := by
    intro keys
    induction keys with
    | nil => simp
    | cons first keys ih =>
        intro data
        rw [List.foldl_cons, ih]
        by_cases same : key = first
        · subst same
          split_ifs <;> simp_all
        · split_ifs <;> simp_all [AList.lookup_erase_ne same]
  rw [referenceData, erasing]
  by_cases pruned : prunedDeletion window finalized key = true
  · by_cases written : key ∈ (writtenData initial finalized).keys
    · simp [pruned, written]
    · simp only [pruned, and_true, written, if_false, if_true]
      exact AList.lookup_eq_none.mpr (AList.mem_keys.not.mp written)
  · simp [pruned]

/-- Three blocks in a row: two delete the key 7, the third writes it again. -/
def reinsertAfterTwoDeletions : List (Operation Nat Nat Nat) :=
  [.insertBlock 1 1 0 ⟨[], [7]⟩, .finalizeBlock 1,
   .insertBlock 2 2 1 ⟨[], [7]⟩, .finalizeBlock 2,
   .insertBlock 3 3 2 ⟨[(7, 70)], []⟩, .finalizeBlock 3]

/-- Keeping two blocks, the state database deletes the key the last block wrote,
which the reference keeps. -/
theorem pruning_deletes_reinserted_key :
    ∃ db store, (openRun (PruningMode.keepBlocks 2) ⟨∅, ∅⟩ reinsertAfterTwoDeletions).run =
        some (.ok (db, store)) ∧
      store.data.lookup 7 = none ∧
      (referenceData 2 ∅ (finalizedChanges reinsertAfterTwoDeletions)).lookup 7 = some 70 :=
  ⟨_, _, rfl, rfl, rfl⟩

/-! ## Restart -/

/-- Two forks of two blocks each; the second fork is finalized. -/
def finalizeSecondFork : List (Operation Nat Nat Nat) :=
  [.insertBlock 1 1 0 ⟨[], []⟩, .insertBlock 2 1 0 ⟨[], []⟩,
   .insertBlock 3 2 1 ⟨[], []⟩, .insertBlock 4 2 2 ⟨[], []⟩,
   .finalizeBlock 2]

/-- After the first fork is discarded, the live overlay holds block 4 at level
2, journalled at place 1; the overlay read back from the journal is empty, and
the next block of level 2 is journalled under the key of block 4. -/
theorem restart_loses_block_after_gap :
    ∃ db store, (openRun PruningMode.archiveCanonical ⟨∅, ∅⟩ finalizeSecondFork).run =
        some (.ok (db, store)) ∧
      db.unfinalized.levels.map (·.map (·.hash)) = [[4]] ∧
      (UnfinalizedOverlay.new store.metadata).map (·.levels.map (·.map (·.hash))) = .ok [] ∧
      (db.insertBlock 5 2 2 ⟨[], []⟩).map (·.1.unfinalized.levels.map (·.map (·.journalKey))) =
        some [[.unfinalizedJournal 2 1, .unfinalizedJournal 2 1]] :=
  ⟨_, _, rfl, rfl, rfl, rfl⟩

end StateDb
end Polkadot
