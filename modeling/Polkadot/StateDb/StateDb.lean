import Mathlib.Data.Finset.Basic
import Polkadot.StateDb.Unfinalized
import Polkadot.StateDb.Pruning

/-!
# The state database

`state-db/src/lib.rs`: `StateDbSync` joins the overlay of unfinalized blocks to
the pruning window.  Inserting a block journals it in the overlay (or, when
archiving everything, writes it at once); finalizing one writes its changes,
hands its deletions to the pruning window and prunes the window down to its
constraints.  The caller applies every returned commit set to the backing
store, which `run` does.

The window of a state database is consistent (`WindowIndexed`) after `new` and
after every call, so the only panic of `finalize_block` is the overlay's, on a
block that is not in its first level.  After each finalization the window
holds at most `max_blocks` blocks when no memory bound and no pin stop it.
-/

namespace Polkadot
namespace StateDb

/-- `Constraints`. -/
structure Constraints where
  maxBlocks : Option Nat
  maxMem : Option Nat
deriving DecidableEq, Repr

/-- `PruningMode`. -/
inductive PruningMode where
  | constrained (constraints : Constraints)
  | archiveAll
  | archiveCanonical
deriving DecidableEq, Repr

/-- `PruningMode::keep_blocks`. -/
def PruningMode.keepBlocks (n : Nat) : PruningMode := .constrained ⟨some n, none⟩

/-- `StateDbSync`; the `HashSet` of pinned blocks is a finite set. -/
structure StateDbSync (BlockHash Key Value : Type) where
  mode : PruningMode
  unfinalized : UnfinalizedOverlay BlockHash Key Value
  pruning : Option (RefWindow BlockHash Key)
  pinned : Finset BlockHash

namespace StateDbSync

variable {BlockHash Key Value : Type} [DecidableEq BlockHash] [DecidableEq Key]

/-- `StateDbSync::new`; a memory constraint is `unimplemented!()`, a panic. -/
def new (mode : PruningMode) (metadata : Column MetaKey (MetaValue BlockHash Key Value)) :
    ExceptT Error Option (StateDbSync BlockHash Key Value) := do
  let unfinalized ← ExceptT.mk (some (UnfinalizedOverlay.new metadata))
  let pruning ← match mode with
    | .constrained ⟨_, some _⟩ => ExceptT.lift none
    | .constrained _ => some <$> RefWindow.new metadata
    | .archiveAll | .archiveCanonical => pure none
  pure ⟨mode, unfinalized, pruning, ∅⟩

/-- `insert_block`.  Block 0 is written at once; archiving everything writes
every block at once and never deletes. -/
def insertBlock (db : StateDbSync BlockHash Key Value) (hash : BlockHash) (number : Nat)
    (parentHash : BlockHash) (changeset : ChangeSet Key Value) :
    Option (StateDbSync BlockHash Key Value × CommitSet BlockHash Key Value) :=
  if number = 0 then some (db, ⟨changeset, .empty⟩)
  else match db.mode with
    | .archiveAll => some (db, ⟨{ changeset with deleted := [] }, .empty⟩)
    | .constrained _ | .archiveCanonical => do
        let (unfinalized, commit) ← db.unfinalized.insert hash number parentHash changeset
        pure ({ db with unfinalized }, commit)

/-- The loop of `prune`: prune the oldest block while the window is over its
bound and neither the memory bound nor a pin stops it.  Every round prunes one
block, so the size of the window is enough `fuel`. -/
def pruneLoop (constraints : Constraints) (pinned : Finset BlockHash) :
    Nat → RefWindow BlockHash Key → CommitSet BlockHash Key Value →
      Option (RefWindow BlockHash Key × CommitSet BlockHash Key Value)
  | 0, window, commit => some (window, commit)
  | fuel + 1, window, commit =>
      if window.windowSize ≤ constraints.maxBlocks.getD 0 then some (window, commit)
      else if constraints.maxMem.elim false fun maxMem => decide (maxMem < window.memUsed) then
        some (window, commit)
      else if window.nextHash.elim false fun hash => decide (hash ∈ pinned) then
        some (window, commit)
      else do
        let (window, commit) ← window.pruneOne commit
        pruneLoop constraints pinned fuel window commit

/-- `prune`: only a constrained database prunes. -/
def prune (db : StateDbSync BlockHash Key Value) (commit : CommitSet BlockHash Key Value) :
    Option (StateDbSync BlockHash Key Value × CommitSet BlockHash Key Value) :=
  match db.pruning, db.mode with
  | some window, .constrained constraints => do
      let (window, commit) ← pruneLoop constraints db.pinned window.windowSize window commit
      pure ({ db with pruning := some window }, commit)
  | _, _ => some (db, commit)

/-- The first half of `finalize_block`: finalize in the overlay; archiving the
canonical chain drops the deletions. -/
def finalizeOverlay (db : StateDbSync BlockHash Key Value) (hash : BlockHash) :
    Option (StateDbSync BlockHash Key Value × CommitSet BlockHash Key Value) :=
  match db.mode with
  | .archiveAll => some (db, .empty)
  | .archiveCanonical => do
      let (unfinalized, commit) ← db.unfinalized.finalize hash
      pure ({ db with unfinalized }, { commit with data := { commit.data with deleted := [] } })
  | .constrained _ => do
      let (unfinalized, commit) ← db.unfinalized.finalize hash
      pure ({ db with unfinalized }, commit)

/-- The second half of `finalize_block`: note the block in the window. -/
def noteFinalized (db : StateDbSync BlockHash Key Value) (hash : BlockHash)
    (commit : CommitSet BlockHash Key Value) :
    Option (StateDbSync BlockHash Key Value × CommitSet BlockHash Key Value) :=
  match db.pruning with
  | none => some (db, commit)
  | some window => do
      let (window, commit) ← window.noteFinalized hash commit
      pure ({ db with pruning := some window }, commit)

/-- `finalize_block`. -/
def finalizeBlock (db : StateDbSync BlockHash Key Value) (hash : BlockHash) :
    Option (StateDbSync BlockHash Key Value × CommitSet BlockHash Key Value) := do
  let (db, commit) ← db.finalizeOverlay hash
  let (db, commit) ← db.noteFinalized hash commit
  db.prune commit

/-- `pin`. -/
def pin (db : StateDbSync BlockHash Key Value) (hash : BlockHash) : StateDbSync BlockHash Key Value :=
  { db with pinned := insert hash db.pinned }

/-- `unpin`. -/
def unpin (db : StateDbSync BlockHash Key Value) (hash : BlockHash) :
    StateDbSync BlockHash Key Value :=
  { db with pinned := db.pinned.erase hash }

/-- `get`: the overlay first, then the backing store. -/
def get (db : StateDbSync BlockHash Key Value) (data : Column Key Value) (key : Key) :
    Option Value :=
  (db.unfinalized.get key).orElse fun _ => data.lookup key

/-! ## Runs -/

/-- The calls on a state database. -/
inductive Operation (BlockHash Key Value : Type) where
  | insertBlock (hash : BlockHash) (number : Nat) (parentHash : BlockHash)
      (changeset : ChangeSet Key Value)
  | finalizeBlock (hash : BlockHash)
  | pin (hash : BlockHash)
  | unpin (hash : BlockHash)

/-- One call, with the commit it returns applied to the backing store. -/
def step (state : StateDbSync BlockHash Key Value × Store BlockHash Key Value) :
    Operation BlockHash Key Value → Option (StateDbSync BlockHash Key Value × Store BlockHash Key Value)
  | .insertBlock hash number parentHash changeset => do
      let (db, commit) ← state.1.insertBlock hash number parentHash changeset
      pure (db, state.2.commit commit)
  | .finalizeBlock hash => do
      let (db, commit) ← state.1.finalizeBlock hash
      pure (db, state.2.commit commit)
  | .pin hash => some (state.1.pin hash, state.2)
  | .unpin hash => some (state.1.unpin hash, state.2)

/-- A sequence of calls. -/
def run (state : StateDbSync BlockHash Key Value × Store BlockHash Key Value)
    (operations : List (Operation BlockHash Key Value)) :
    Option (StateDbSync BlockHash Key Value × Store BlockHash Key Value) :=
  operations.foldlM step state

/-- Open a state database on a store and run calls on it. -/
def openRun (mode : PruningMode) (store : Store BlockHash Key Value)
    (operations : List (Operation BlockHash Key Value)) :
    ExceptT Error Option (StateDbSync BlockHash Key Value × Store BlockHash Key Value) := do
  let db ← new mode store.metadata
  ExceptT.lift (run (db, store) operations)

/-! ## Pruning never panics and bounds the window -/

section Pruning

variable {constraints : Constraints} {pinned : Finset BlockHash}

/-- The prune loop never panics: it prunes only a window over its bound, which
is not empty. -/
theorem pruneLoop_isSome (fuel : Nat) (window : RefWindow BlockHash Key)
    (commit : CommitSet BlockHash Key Value) :
    (pruneLoop constraints pinned fuel window commit).isSome := by
  induction fuel generalizing window commit with
  | zero => rfl
  | succ fuel ih =>
      unfold pruneLoop
      split_ifs with withinBound
      · rfl
      · rfl
      · rfl
      · unfold RefWindow.pruneOne
        cases rows : window.deathRows with
        | nil => simp [RefWindow.windowSize, rows] at withinBound
        | cons pruned rest => exact ih _ _

/-- The prune loop keeps the window consistent. -/
theorem pruneLoop_indexed {fuel : Nat} {window next : RefWindow BlockHash Key}
    {commit commit' : CommitSet BlockHash Key Value} (indexed : window.Indexed)
    (pruned : pruneLoop constraints pinned fuel window commit = some (next, commit')) :
    next.Indexed := by
  induction fuel generalizing window commit with
  | zero => cases pruned; exact indexed
  | succ fuel ih =>
      unfold pruneLoop at pruned
      split_ifs at pruned
      · cases pruned; exact indexed
      · cases pruned; exact indexed
      · cases pruned; exact indexed
      · cases one : window.pruneOne commit with
        | none => simp [one] at pruned
        | some result =>
            rw [one] at pruned
            exact ih (indexed.pruneOne one) pruned

/-- Without a memory bound or pins, the prune loop brings the window down to
`max_blocks` when it has fuel for every block. -/
theorem pruneLoop_windowSize_le {fuel : Nat} {window next : RefWindow BlockHash Key}
    {commit commit' : CommitSet BlockHash Key Value} (noMemoryBound : constraints.maxMem = none)
    (noPins : pinned = ∅) (enoughFuel : window.windowSize ≤ fuel)
    (pruned : pruneLoop constraints pinned fuel window commit = some (next, commit')) :
    next.windowSize ≤ constraints.maxBlocks.getD 0 := by
  induction fuel generalizing window commit with
  | zero =>
      cases pruned
      exact Nat.le_trans enoughFuel (Nat.zero_le _)
  | succ fuel ih =>
      unfold pruneLoop at pruned
      split_ifs at pruned with withinBound memoryStop pinStop
      · cases pruned; exact withinBound
      · simp [noMemoryBound] at memoryStop
      · rw [noPins] at pinStop
        revert pinStop
        cases window.nextHash <;> simp
      · unfold RefWindow.pruneOne at pruned
        cases rows : window.deathRows with
        | nil => simp [RefWindow.windowSize, rows] at withinBound
        | cons first rest =>
            simp only [rows, Option.bind_eq_bind, Option.bind_some] at pruned
            refine ih ?_ pruned
            simp only [RefWindow.windowSize, rows, List.length_cons] at enoughFuel ⊢
            omega

end Pruning

/-! ## The consistent window over runs -/

/-- The pruning window, if there is one, has a consistent index. -/
def WindowIndexed (db : StateDbSync BlockHash Key Value) : Prop :=
  ∀ window, db.pruning = some window → window.Indexed

/-- `new` never panics without a memory constraint, and opens a database with a
consistent window. -/
theorem new_windowIndexed (mode : PruningMode) (noMemoryBound : ∀ constraints,
      mode = .constrained constraints → constraints.maxMem = none)
    (metadata : Column MetaKey (MetaValue BlockHash Key Value)) :
    ∃ result, (new mode metadata).run = some result ∧ ∀ db, result = .ok db → db.WindowIndexed := by
  unfold new
  cases restored : UnfinalizedOverlay.new metadata with
  | error failure =>
      exact ⟨.error failure, by simp [ExceptT.run_bind, ExceptT.run_mk],
        fun db same => by cases same⟩
  | ok unfinalized =>
      cases mode with
      | archiveAll =>
          refine ⟨.ok ⟨.archiveAll, unfinalized, none, ∅⟩, by simp, ?_⟩
          rintro db ⟨⟩ window ⟨⟩
      | archiveCanonical =>
          refine ⟨.ok ⟨.archiveCanonical, unfinalized, none, ∅⟩, by simp, ?_⟩
          rintro db ⟨⟩ window ⟨⟩
      | constrained constraints =>
          obtain ⟨maxBlocks, maxMem⟩ := constraints
          obtain rfl : maxMem = none := noMemoryBound _ rfl
          obtain ⟨result, read, readIndexed⟩ : ∃ result,
              (RefWindow.new metadata : ExceptT Error Option (RefWindow BlockHash Key)).run =
                some result ∧ ∀ read, result = .ok read → read.Indexed :=
            RefWindow.new_indexed metadata
          cases result with
          | error failure =>
              exact ⟨.error failure, by
                simp [read, ExceptT.run_bind, ExceptT.run_map, ExceptT.run_mk, Except.map],
                fun db same => by cases same⟩
          | ok window =>
              refine ⟨.ok ⟨.constrained ⟨maxBlocks, none⟩, unfinalized, some window, ∅⟩, by
                simp [read, ExceptT.run_bind, ExceptT.run_map, ExceptT.run_mk, Except.map],
                ?_⟩
              rintro db ⟨⟩ indexedWindow ⟨⟩
              exact readIndexed _ rfl

/-- Inserting a block keeps the pruning window indexed. -/
theorem WindowIndexed.insertBlock {db next : StateDbSync BlockHash Key Value}
    (indexed : db.WindowIndexed) {hash parentHash : BlockHash} {number : Nat}
    {changeset : ChangeSet Key Value} {commit : CommitSet BlockHash Key Value}
    (inserted : db.insertBlock hash number parentHash changeset = some (next, commit)) :
    next.WindowIndexed := by
  unfold StateDbSync.insertBlock at inserted
  split_ifs at inserted
  · cases inserted; exact indexed
  · split at inserted
    · cases inserted; exact indexed
    all_goals
      cases overlay : db.unfinalized.insert hash number parentHash changeset with
      | none => simp [overlay] at inserted
      | some result =>
          simp only [overlay, Option.bind_eq_bind, Option.bind_some, Option.pure_def,
            Option.some.injEq] at inserted
          cases inserted
          exact indexed

/-- Finalizing the overlay keeps the pruning window indexed. -/
theorem WindowIndexed.finalizeOverlay {db next : StateDbSync BlockHash Key Value}
    (indexed : db.WindowIndexed) {hash : BlockHash} {commit : CommitSet BlockHash Key Value}
    (finalized : db.finalizeOverlay hash = some (next, commit)) : next.WindowIndexed := by
  unfold StateDbSync.finalizeOverlay at finalized
  split at finalized
  · cases finalized; exact indexed
  all_goals
    cases overlay : db.unfinalized.finalize hash with
    | none => simp [overlay] at finalized
    | some result =>
        simp only [overlay, Option.bind_eq_bind, Option.bind_some, Option.pure_def,
          Option.some.injEq] at finalized
        cases finalized
        exact indexed

omit [DecidableEq BlockHash] in
/-- Noting a finalized block in a consistent window cannot panic. -/
theorem WindowIndexed.noteFinalized {db : StateDbSync BlockHash Key Value}
    (indexed : db.WindowIndexed) (hash : BlockHash) (commit : CommitSet BlockHash Key Value) :
    ∃ next commit', db.noteFinalized hash commit = some (next, commit') ∧ next.WindowIndexed := by
  unfold StateDbSync.noteFinalized
  cases pruning : db.pruning with
  | none => exact ⟨db, commit, rfl, indexed⟩
  | some window =>
      obtain ⟨window', commit', noted, windowIndexed⟩ :=
        (indexed window pruning).noteFinalized hash commit
      refine ⟨{ db with pruning := some window' }, commit', by simp [noted], ?_⟩
      rintro _ ⟨⟩
      exact windowIndexed

/-- Pruning a consistent window cannot panic and keeps it consistent. -/
theorem WindowIndexed.prune {db : StateDbSync BlockHash Key Value} (indexed : db.WindowIndexed)
    (commit : CommitSet BlockHash Key Value) :
    ∃ next commit', db.prune commit = some (next, commit') ∧ next.WindowIndexed := by
  unfold StateDbSync.prune
  split
  · rename_i window constraints pruning _
    have succeeds : (pruneLoop constraints db.pinned window.windowSize window commit).isSome :=
      pruneLoop_isSome _ _ _
    obtain ⟨⟨window', commit'⟩, pruned⟩ := Option.isSome_iff_exists.mp succeeds
    refine ⟨{ db with pruning := some window' }, commit', by simp [pruned], ?_⟩
    rintro _ ⟨⟩
    exact pruneLoop_indexed (indexed window pruning) pruned
  · exact ⟨db, commit, rfl, indexed⟩

/-- On a consistent window the only panic of `finalize_block` is the overlay's:
finalizing a block that is not in its first level. -/
theorem finalizeBlock_eq_none_iff {db : StateDbSync BlockHash Key Value}
    (indexed : db.WindowIndexed) (hash : BlockHash) :
    db.finalizeBlock hash = none ↔ db.finalizeOverlay hash = none := by
  unfold StateDbSync.finalizeBlock
  cases overlay : db.finalizeOverlay hash with
  | none => simp
  | some result =>
      obtain ⟨finalized, commit⟩ := result
      have finalizedIndexed := indexed.finalizeOverlay overlay
      obtain ⟨noted, commit', noteEq, notedIndexed⟩ := finalizedIndexed.noteFinalized hash commit
      obtain ⟨pruned, commit'', pruneEq, -⟩ := notedIndexed.prune commit'
      simp [noteEq, pruneEq]

/-- Finalizing a block keeps the pruning window indexed. -/
theorem WindowIndexed.finalizeBlock {db next : StateDbSync BlockHash Key Value}
    (indexed : db.WindowIndexed) {hash : BlockHash} {commit : CommitSet BlockHash Key Value}
    (finalized : db.finalizeBlock hash = some (next, commit)) : next.WindowIndexed := by
  unfold StateDbSync.finalizeBlock at finalized
  cases overlay : db.finalizeOverlay hash with
  | none => simp [overlay] at finalized
  | some result =>
      obtain ⟨finalizedDb, commit₁⟩ := result
      obtain ⟨noted, commit₂, noteEq, notedIndexed⟩ :=
        (indexed.finalizeOverlay overlay).noteFinalized hash commit₁
      obtain ⟨pruned, commit₃, pruneEq, prunedIndexed⟩ := notedIndexed.prune commit₂
      simp only [overlay, noteEq, pruneEq, Option.bind_eq_bind, Option.bind_some,
        Option.some.injEq, Prod.mk.injEq] at finalized
      obtain ⟨rfl, -⟩ := finalized
      exact prunedIndexed

/-- One call keeps the window consistent. -/
theorem WindowIndexed.step {state next : StateDbSync BlockHash Key Value × Store BlockHash Key Value}
    (indexed : state.1.WindowIndexed) {operation : Operation BlockHash Key Value}
    (stepped : StateDbSync.step state operation = some next) : next.1.WindowIndexed := by
  cases operation with
  | insertBlock hash number parentHash changeset =>
      cases inserted : state.1.insertBlock hash number parentHash changeset with
      | none => simp [StateDbSync.step, inserted] at stepped
      | some result =>
          simp only [StateDbSync.step, inserted, Option.bind_eq_bind, Option.bind_some,
            Option.pure_def, Option.some.injEq] at stepped
          subst stepped
          exact indexed.insertBlock inserted
  | finalizeBlock hash =>
      cases finalized : state.1.finalizeBlock hash with
      | none => simp [StateDbSync.step, finalized] at stepped
      | some result =>
          simp only [StateDbSync.step, finalized, Option.bind_eq_bind, Option.bind_some,
            Option.pure_def, Option.some.injEq] at stepped
          subst stepped
          exact indexed.finalizeBlock finalized
  | pin hash =>
      cases stepped
      exact indexed
  | unpin hash =>
      cases stepped
      exact indexed

/-- Every run keeps the window consistent. -/
theorem WindowIndexed.run {state final : StateDbSync BlockHash Key Value × Store BlockHash Key Value}
    (indexed : state.1.WindowIndexed) {operations : List (Operation BlockHash Key Value)}
    (ran : StateDbSync.run state operations = some final) : final.1.WindowIndexed :=
  Foundations.foldlM_invariant (fun state => state.1.WindowIndexed) indexed
    (fun _ _ _ _ stateIndexed stepped => stateIndexed.step stepped) ran

end StateDbSync

end StateDb
end Polkadot
