import Mathlib.Data.List.Dedup
import Polkadot.StateDb.Defs
import Polkadot.Foundations.Fold

/-!
# The pruning window

`state-db/src/pruning.rs`.  Each finalized block in the window has a death row:
the keys it deleted, which stay in the backing store until the block leaves the
window.  A global index maps each deleted key to the number of the block whose
row holds it, so that a key inserted again is taken out of its row.  Rows are
journalled under the block number and the window is read back on restart.

The index is consistent when every indexed key waits in the row of its block
(`Indexed`).  Every operation keeps it, the window read back from any journal
has it, and on a consistent window the indexing in `import`, the one place of
the source that could panic on a valid call, never fails.
-/

namespace Polkadot
namespace StateDb

open Foundations

/-- `DeathRow`; the `HashSet` of deleted keys is a list without duplicates. -/
structure DeathRow (BlockHash Key : Type) where
  hash : BlockHash
  journalKey : MetaKey
  deleted : List Key
deriving DecidableEq, Repr

/-- `RefWindow`: the death rows of the blocks from `pendingNumber` on. -/
structure RefWindow (BlockHash Key : Type) where
  deathRows : List (DeathRow BlockHash Key)
  deathIndex : Column Key Nat
  pendingNumber : Nat

namespace RefWindow

variable {BlockHash Key : Type} [DecidableEq Key]

/-- `window_size`. -/
def windowSize (window : RefWindow BlockHash Key) : Nat := window.deathRows.length

/-- `next_hash`: the block pruned next. -/
def nextHash (window : RefWindow BlockHash Key) : Option BlockHash :=
  window.deathRows.head?.map (·.hash)

/-- `mem_used`, not implemented in the source. -/
def memUsed (_window : RefWindow BlockHash Key) : Nat := 0

/-- The first loop of `import`: a key inserted again leaves the death row the
index holds it in. -/
def cancel (window : RefWindow BlockHash Key) (key : Key) : Option (RefWindow BlockHash Key) :=
  match window.deathIndex.lookup key with
  | none => some window
  | some block => do
      -- `(block - pending_number) as usize` underflows or is out of range: both panic
      guard (window.pendingNumber ≤ block)
      let position := block - window.pendingNumber
      let row ← window.deathRows[position]?
      pure { window with
        deathRows := window.deathRows.set position { row with deleted := row.deleted.erase key }
        deathIndex := window.deathIndex.erase key }

/-- `import`: cancel the inserted keys, then append the row of the deleted ones. -/
def importBlock (window : RefWindow BlockHash Key) (hash : BlockHash) (journalKey : MetaKey)
    (inserted deleted : List Key) : Option (RefWindow BlockHash Key) := do
  let window ← inserted.foldlM cancel window
  let importedBlock := window.pendingNumber + window.deathRows.length
  pure { window with
    deathRows := window.deathRows ++ [⟨hash, journalKey, deleted.dedup⟩]
    deathIndex := deleted.foldl (fun index key => index.insert key importedBlock)
      window.deathIndex }

/-- `prune_one`: delete the keys of the first row from the store. -/
def pruneOne (window : RefWindow BlockHash Key) {Value : Type}
    (commit : CommitSet BlockHash Key Value) :
    Option (RefWindow BlockHash Key × CommitSet BlockHash Key Value) :=
  match window.deathRows with
  | [] => none
  | pruned :: deathRows =>
      some (⟨deathRows, pruned.deleted.foldl (fun index key => index.erase key) window.deathIndex,
          window.pendingNumber + 1⟩,
        ⟨{ commit.data with deleted := commit.data.deleted ++ pruned.deleted },
          ⟨commit.metadata.inserted ++ [(.lastPruned, .lastPruned window.pendingNumber)],
            commit.metadata.deleted ++ [pruned.journalKey]⟩⟩)

/-- `note_finalized`: the deletions of a finalized block are taken out of its
commit and wait in its death row. -/
def noteFinalized (window : RefWindow BlockHash Key) {Value : Type} (hash : BlockHash)
    (commit : CommitSet BlockHash Key Value) :
    Option (RefWindow BlockHash Key × CommitSet BlockHash Key Value) := do
  let inserted := commit.data.inserted.map (·.1)
  let deleted := commit.data.deleted
  let journalKey := MetaKey.pruningJournal (window.pendingNumber + window.windowSize)
  let window ← window.importBlock hash journalKey inserted deleted
  pure (window, ⟨{ commit.data with deleted := [] },
    { commit.metadata with
      inserted := commit.metadata.inserted ++ [(journalKey, .pruningRecord ⟨hash, inserted, deleted⟩)] }⟩)

variable {Value : Type}

/-- The loop of `new`: import the journal records from number `block` up to the
first missing one.  `fuel` bounds the reads. -/
def readJournal (metadata : Column MetaKey (MetaValue BlockHash Key Value)) :
    Nat → Nat → RefWindow BlockHash Key → ExceptT Error Option (RefWindow BlockHash Key)
  | 0, _, window => pure window
  | fuel + 1, block, window =>
      match metadata.lookup (.pruningJournal block) with
      | none => pure window
      | some (.pruningRecord record) => do
          let window ← ExceptT.lift
            (window.importBlock record.hash (.pruningJournal block) record.inserted record.deleted)
          readJournal metadata fuel (block + 1) window
      | some _ => throw .decoding

/-- `RefWindow::new`: the window as the journal holds it. -/
def new (metadata : Column MetaKey (MetaValue BlockHash Key Value)) :
    ExceptT Error Option (RefWindow BlockHash Key) := do
  let pendingNumber ← match metadata.lookup .lastPruned with
    | none => pure 1
    | some (.lastPruned number) => pure (number + 1)
    | some _ => throw .decoding
  readJournal metadata (metadata.entries.length + 1) pendingNumber ⟨[], ∅, pendingNumber⟩

/-! ## The consistent index -/

/-- Every indexed key waits in the death row of its block, inside the window. -/
def Indexed (window : RefWindow BlockHash Key) : Prop :=
  ∀ key block, window.deathIndex.lookup key = some block →
    window.pendingNumber ≤ block ∧
      ∃ row, window.deathRows[block - window.pendingNumber]? = some row ∧ key ∈ row.deleted

/-- An empty window is indexed. -/
theorem indexed_empty (pendingNumber : Nat) :
    (⟨[], ∅, pendingNumber⟩ : RefWindow BlockHash Key).Indexed := by
  intro key block found
  simp at found

/-- Cancelling a key on a consistent window succeeds and keeps it consistent. -/
theorem Indexed.cancel {window : RefWindow BlockHash Key} (indexed : window.Indexed) (key : Key) :
    ∃ next, window.cancel key = some next ∧ next.Indexed := by
  unfold RefWindow.cancel
  cases found : window.deathIndex.lookup key with
  | none => exact ⟨window, rfl, indexed⟩
  | some block =>
      obtain ⟨after, row, rowAt, _⟩ := indexed key block found
      have inRange : block - window.pendingNumber < window.deathRows.length :=
        (List.getElem?_eq_some_iff.mp rowAt).1
      refine ⟨{ window with
        deathRows := window.deathRows.set (block - window.pendingNumber)
          { row with deleted := row.deleted.erase key }
        deathIndex := window.deathIndex.erase key }, by simp [after, rowAt], ?_⟩
      intro other otherBlock otherFound
      have distinct : other ≠ key := by
        rintro rfl
        simp at otherFound
      rw [AList.lookup_erase_ne distinct] at otherFound
      obtain ⟨otherAfter, otherRow, otherRowAt, otherMember⟩ := indexed other otherBlock otherFound
      refine ⟨otherAfter, ?_⟩
      -- the cancelled row is the only one that changes
      by_cases sameRow : otherBlock - window.pendingNumber = block - window.pendingNumber
      · rw [sameRow, rowAt] at otherRowAt
        cases otherRowAt
        refine ⟨_, by rw [sameRow, List.getElem?_set_self inRange], ?_⟩
        exact (List.mem_erase_of_ne distinct).mpr otherMember
      · exact ⟨otherRow, by rw [List.getElem?_set_ne (Ne.symm sameRow), otherRowAt], otherMember⟩

/-- Appending the row of the next block keeps the index consistent. -/
theorem Indexed.append {window : RefWindow BlockHash Key} (indexed : window.Indexed)
    (hash : BlockHash) (journalKey : MetaKey) (deleted : List Key) :
    ({ window with
      deathRows := window.deathRows ++ [⟨hash, journalKey, deleted.dedup⟩]
      deathIndex := deleted.foldl
        (fun index key => index.insert key (window.pendingNumber + window.deathRows.length))
        window.deathIndex } : RefWindow BlockHash Key).Indexed := by
  intro key block found
  simp only [lookup_foldl_insert_const] at found
  by_cases isDeleted : key ∈ deleted
  · -- a key of the new row points at the new row
    simp only [isDeleted, if_true, Option.some.injEq] at found
    subst found
    refine ⟨Nat.le_add_right _ _, ⟨hash, journalKey, deleted.dedup⟩, ?_,
      List.mem_dedup.mpr isDeleted⟩
    simp
  · simp only [isDeleted, if_false] at found
    obtain ⟨after, row, rowAt, member⟩ := indexed key block found
    have inRange : block - window.pendingNumber < window.deathRows.length :=
      (List.getElem?_eq_some_iff.mp rowAt).1
    exact ⟨after, row, by rw [List.getElem?_append_left inRange, rowAt], member⟩

/-- On a consistent window `import` cannot panic, and it keeps the window
consistent. -/
theorem Indexed.importBlock {window : RefWindow BlockHash Key} (indexed : window.Indexed)
    (hash : BlockHash) (journalKey : MetaKey) (inserted deleted : List Key) :
    ∃ next, window.importBlock hash journalKey inserted deleted = some next ∧ next.Indexed := by
  obtain ⟨cancelled, cancelledFold, cancelledIndexed⟩ :
      ∃ cancelled, inserted.foldlM RefWindow.cancel window = some cancelled ∧
        cancelled.Indexed :=
    foldlM_some_of_invariant Indexed indexed fun state key _ stateIndexed =>
      stateIndexed.cancel key
  refine ⟨_, ?_, cancelledIndexed.append hash journalKey deleted⟩
  simp only [RefWindow.importBlock, cancelledFold]
  rfl

/-- Pruning the first row keeps the index consistent: the keys pointing at it
are exactly those it holds, and they leave the index with it. -/
theorem Indexed.pruneOne {window next : RefWindow BlockHash Key} (indexed : window.Indexed)
    {commit commit' : CommitSet BlockHash Key Value}
    (pruned : window.pruneOne commit = some (next, commit')) : next.Indexed := by
  unfold RefWindow.pruneOne at pruned
  cases rows : window.deathRows with
  | nil => simp [rows] at pruned
  | cons first rest =>
      simp only [rows, Option.some.injEq, Prod.mk.injEq] at pruned
      obtain ⟨rfl, -⟩ := pruned
      intro key block found
      dsimp only at found ⊢
      simp only [lookup_foldl_erase] at found
      split_ifs at found with inFirst
      obtain ⟨after, row, rowAt, member⟩ := indexed key block found
      -- a key still indexed is not in the pruned row, so its block is a later one
      have later : window.pendingNumber ≠ block := by
        rintro rfl
        simp only [rows, Nat.sub_self, List.getElem?_cons_zero, Option.some.injEq] at rowAt
        exact inFirst (rowAt ▸ member)
      have shifted : block - window.pendingNumber = block - (window.pendingNumber + 1) + 1 := by
        omega
      refine ⟨by omega, row, ?_, member⟩
      rw [rows, shifted, List.getElem?_cons_succ] at rowAt
      exact rowAt

/-- `note_finalized` on a consistent window cannot panic and keeps it consistent. -/
theorem Indexed.noteFinalized {window : RefWindow BlockHash Key} (indexed : window.Indexed)
    (hash : BlockHash) (commit : CommitSet BlockHash Key Value) :
    ∃ next commit', window.noteFinalized hash commit = some (next, commit') ∧ next.Indexed := by
  obtain ⟨next, imported, nextIndexed⟩ := indexed.importBlock hash
    (.pruningJournal (window.pendingNumber + window.windowSize))
    (commit.data.inserted.map (·.1)) commit.data.deleted
  exact ⟨next, _, by simp only [RefWindow.noteFinalized, imported]; rfl, nextIndexed⟩

/-- Reading the journal back into a consistent window cannot panic, and a window
it reads is consistent. -/
theorem Indexed.readJournal (metadata : Column MetaKey (MetaValue BlockHash Key Value))
    (fuel block : Nat) {window : RefWindow BlockHash Key} (indexed : window.Indexed) :
    ∃ result, (RefWindow.readJournal metadata fuel block window).run = some result ∧
      ∀ read, result = .ok read → read.Indexed := by
  induction fuel generalizing block window with
  | zero => exact ⟨.ok window, rfl, fun read same => by cases same; exact indexed⟩
  | succ fuel ih =>
      unfold RefWindow.readJournal
      cases found : metadata.lookup (.pruningJournal block) with
      | none => exact ⟨.ok window, rfl, fun read same => by cases same; exact indexed⟩
      | some value =>
          cases value with
          | pruningRecord record =>
              obtain ⟨next, imported, nextIndexed⟩ :=
                indexed.importBlock record.hash (.pruningJournal block) record.inserted record.deleted
              obtain ⟨result, read, readIndexed⟩ := ih (block + 1) nextIndexed
              refine ⟨result, ?_, readIndexed⟩
              simp only [imported, ExceptT.run_bind, ExceptT.run_lift]
              exact read
          | lastFinalized => exact ⟨.error .decoding, rfl, fun read same => by cases same⟩
          | unfinalizedRecord => exact ⟨.error .decoding, rfl, fun read same => by cases same⟩
          | lastPruned => exact ⟨.error .decoding, rfl, fun read same => by cases same⟩

/-- `RefWindow::new` never panics, and the window it restores is consistent. -/
theorem new_indexed (metadata : Column MetaKey (MetaValue BlockHash Key Value)) :
    ∃ result, (RefWindow.new metadata : ExceptT Error Option (RefWindow BlockHash Key)).run =
      some result ∧ ∀ read, result = .ok read → read.Indexed := by
  unfold RefWindow.new
  cases found : metadata.lookup .lastPruned with
  | none => exact (indexed_empty 1).readJournal metadata _ _
  | some value =>
      cases value with
      | lastPruned number => exact (indexed_empty (number + 1)).readJournal metadata _ _
      | lastFinalized => exact ⟨.error .decoding, rfl, fun read same => by cases same⟩
      | unfinalizedRecord => exact ⟨.error .decoding, rfl, fun read same => by cases same⟩
      | pruningRecord => exact ⟨.error .decoding, rfl, fun read same => by cases same⟩

/-! ## The windows the calls reach -/

/-- The windows reached from `RefWindow::new` by `note_finalized` and
`prune_one`. -/
inductive Reachable (Value : Type) : RefWindow BlockHash Key → Prop
  | new (metadata : Column MetaKey (MetaValue BlockHash Key Value)) {window : RefWindow BlockHash Key}
      (read : (RefWindow.new metadata).run = some (.ok window)) : Reachable Value window
  | noteFinalized {window next : RefWindow BlockHash Key} (hash : BlockHash)
      (commit : CommitSet BlockHash Key Value) {commit' : CommitSet BlockHash Key Value}
      (reached : Reachable Value window)
      (finalized : window.noteFinalized hash commit = some (next, commit')) : Reachable Value next
  | pruneOne {window next : RefWindow BlockHash Key} (commit : CommitSet BlockHash Key Value)
      {commit' : CommitSet BlockHash Key Value} (reached : Reachable Value window)
      (pruned : window.pruneOne commit = some (next, commit')) : Reachable Value next

/-- Every window the calls reach has a consistent index. -/
theorem Reachable.indexed {window : RefWindow BlockHash Key} (reached : Reachable Value window) :
    window.Indexed := by
  induction reached with
  | new metadata read =>
      obtain ⟨result, run, readIndexed⟩ := new_indexed metadata
      rw [read, Option.some.injEq] at run
      exact readIndexed _ run.symm
  | noteFinalized hash commit reached finalized ih =>
      obtain ⟨next, commit'', finalized', nextIndexed⟩ := ih.noteFinalized hash commit
      rw [finalized, Option.some.injEq, Prod.mk.injEq] at finalized'
      exact finalized'.1 ▸ nextIndexed
  | pruneOne commit reached pruned ih => exact ih.pruneOne pruned

/-- On every window the calls reach, an indexed key waits in the death row of
the block it maps to, a block inside the window: the index arithmetic of
`import` neither underflows nor leaves the rows, and `note_finalized` never
panics. -/
theorem deathIndex_in_window {window : RefWindow BlockHash Key} (reached : Reachable Value window) :
    (∀ key block, window.deathIndex.lookup key = some block →
      window.pendingNumber ≤ block ∧ block < window.pendingNumber + window.deathRows.length ∧
        ∃ row, window.deathRows[block - window.pendingNumber]? = some row ∧ key ∈ row.deleted) ∧
      ∀ (hash : BlockHash) (commit : CommitSet BlockHash Key Value),
        (window.noteFinalized hash commit).isSome := by
  have indexed := reached.indexed
  refine ⟨fun key block found => ?_, fun hash commit => ?_⟩
  · obtain ⟨after, row, rowAt, member⟩ := indexed key block found
    have inRange : block - window.pendingNumber < window.deathRows.length :=
      (List.getElem?_eq_some_iff.mp rowAt).1
    exact ⟨after, by omega, row, rowAt, member⟩
  · obtain ⟨next, commit', finalized, -⟩ := indexed.noteFinalized hash commit
    simp [finalized]

/-- The commit of a block that deletes key 7. -/
def deleteSeven : CommitSet Nat Nat Nat := ⟨⟨[], [7]⟩, ChangeSet.empty⟩

/-- Two finalized blocks that both delete key 7 leave it in two death rows,
with the index at the second; pruning the first row then takes the key out of
the index while the second row still holds it. -/
theorem twice_deleted_key_unindexed :
    ∃ twice pruned : RefWindow Nat Nat,
      Reachable Nat twice ∧ twice.deathRows.map (·.deleted) = [[7], [7]] ∧
      twice.deathIndex.lookup 7 = some 2 ∧
      Reachable Nat pruned ∧ pruned.deathRows.map (·.deleted) = [[7]] ∧
      pruned.deathIndex.lookup 7 = none :=
  ⟨_, _, .noteFinalized 2 deleteSeven (.noteFinalized 1 deleteSeven (.new ∅ rfl) rfl) rfl, rfl, rfl,
    .pruneOne ⟨ChangeSet.empty, ChangeSet.empty⟩
      (.noteFinalized 2 deleteSeven (.noteFinalized 1 deleteSeven (.new ∅ rfl) rfl) rfl) rfl,
    rfl, rfl⟩

/-- Blocks 1 and 2 are finalized, deleting key 7 and keys 8 and 9; the row of
block 1 is pruned; block 3 is finalized, deleting key 7 again. -/
theorem deathIndex_in_window_run :
    ∃ window : RefWindow Nat Nat, Reachable Nat window ∧ window.pendingNumber = 2 ∧
      window.deathRows.map (·.deleted) = [[8, 9], [7]] ∧ window.deathIndex.lookup 7 = some 3 ∧
      ((∀ key block, window.deathIndex.lookup key = some block →
          window.pendingNumber ≤ block ∧ block < window.pendingNumber + window.deathRows.length ∧
            ∃ row, window.deathRows[block - window.pendingNumber]? = some row ∧ key ∈ row.deleted) ∧
        ∀ (hash : Nat) (commit : CommitSet Nat Nat Nat), (window.noteFinalized hash commit).isSome) := by
  have finalized : Reachable Nat _ :=
    .noteFinalized 2 ⟨⟨[], [8, 9]⟩, ChangeSet.empty⟩ (.noteFinalized 1 deleteSeven (.new ∅ rfl) rfl) rfl
  have pruned : Reachable Nat _ := .pruneOne ⟨ChangeSet.empty, ChangeSet.empty⟩ finalized rfl
  have reached : Reachable Nat _ := .noteFinalized 3 deleteSeven pruned rfl
  exact ⟨_, reached, rfl, rfl, rfl, deathIndex_in_window reached⟩

end RefWindow

end StateDb
end Polkadot
