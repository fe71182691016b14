import Polkadot.StateMachine.Refinement

/-!
# Sequences of operations with commits and discards

A sequence of `Externalities` operations interleaved with commits and discards
of the overlay.  An `Ext` borrows the overlay, so a commit or a discard happens
between two `Ext`s: the overlay is committed or discarded and a new `Ext` is
made over it.  The reference is the plain map with the map of the last commit
(`Journal`): a commit makes the current map the last committed one, and a
discard returns to it.

Sequences without `clear_prefix` read alike on both sides, and at every point
the delta the next storage root hands the backend applies to it exactly the
reference map (`runOperations_refines`).  `clear_prefix` breaks this.
-/

namespace Polkadot
namespace StateMachine

open Foundations

/-- An operation of a sequence: a call of `Externalities`, or a commit or a
discard of the overlay between calls. -/
inductive Operation where
  | storage (key : Bytes)
  | placeStorage (key : Bytes) (value : Option Bytes)
  | setStorage (key value : Bytes)
  | clearStorage (key : Bytes)
  | clearPrefix (keyPrefix : Bytes)
  | commitProspective
  | discardProspective

/-- Externalities with a commit and a discard of what they write. -/
structure Journaled (E R : Type) where
  ext : Externalities E R
  commit : E → E
  discard : E → E

namespace Journaled

variable {E R : Type}

/-- One operation: the answer of a read, if it is one, and the state after it. -/
def step (driven : Journaled E R) (state : E) : Operation → List (Option (Option Bytes)) × E
  | .storage key => ([driven.ext.storage state key], state)
  | .placeStorage key value => ([], driven.ext.placeStorage state key value)
  | .setStorage key value => ([], driven.ext.setStorage state key value)
  | .clearStorage key => ([], driven.ext.clearStorage state key)
  | .clearPrefix keyPrefix => ([], driven.ext.clearPrefix state keyPrefix)
  | .commitProspective => ([], driven.commit state)
  | .discardProspective => ([], driven.discard state)

/-- A sequence of operations: the answers of its reads, in order, and the final
state. -/
def runOperations (driven : Journaled E R) : List Operation → E → List (Option (Option Bytes)) × E
  | [], state => ([], state)
  | operation :: operations, state =>
      let stepped := driven.step state operation
      let rest := driven.runOperations operations stepped.2
      (stepped.1 ++ rest.1, rest.2)

end Journaled

variable {R : Type} (trieRoot : Finmap (fun _ : Bytes => Bytes) → R)

/-- `Ext` over the in-memory backend: a commit or a discard of its overlay is
followed by a new `Ext` over it. -/
def extJournaled : Journaled (Ext InMemory Transaction R) R where
  ext := Ext.externalities (InMemory.ops trieRoot)
  commit ext := Ext.new ext.overlay.commitProspective ext.backend
  discard ext := Ext.new ext.overlay.discardProspective ext.backend

/-- The reference: the plain map, with the map of the last commit. -/
def journalJournaled : Journaled Journal R where
  ext :=
    { storage := fun journal key => some (TestExternalities.storage journal.current key)
      placeStorage := fun journal key value =>
        { journal with current := TestExternalities.placeStorage journal.current key value }
      clearPrefix := fun journal keyPrefix =>
        { journal with current := TestExternalities.clearPrefix journal.current keyPrefix }
      chainId := fun journal => TestExternalities.chainId journal.current
      storageRoot := fun journal =>
        ((TestExternalities.storageRoot trieRoot journal.current).1, journal) }
  commit journal := ⟨journal.current, journal.current⟩
  discard journal := ⟨journal.snapshot, journal.snapshot⟩

/-- An `Ext` stands for a journal: it stands for the current map, and its
committed changes over the backend give the map of the last commit. -/
def Stands (ext : Ext InMemory Transaction R) (journal : Journal) : Prop :=
  Related trieRoot ext journal.current ∧
    ∀ key, journal.snapshot.lookup key = ext.overlay.committedView ext.backend key

/-- An operation other than `clear_prefix`. -/
def Operation.ClearsNoPrefix : Operation → Prop
  | .clearPrefix _ => False
  | _ => True

variable {trieRoot}

/-- A write keeps an `Ext` standing for the journal written alike. -/
theorem Stands.placeStorage {ext : Ext InMemory Transaction R} {journal : Journal}
    (stands : Stands trieRoot ext journal) (key : Bytes) (value : Option Bytes) :
    Stands trieRoot ((extJournaled trieRoot).ext.placeStorage ext key value)
      ((journalJournaled trieRoot).ext.placeStorage journal key value) :=
  ⟨(simulation_inMemory trieRoot).placeStorage ext journal.current key value stands.1,
    stands.2⟩

/-- One operation other than `clear_prefix` answers alike on both sides and
keeps the `Ext` standing for the journal. -/
theorem Stands.step {ext : Ext InMemory Transaction R} {journal : Journal}
    (stands : Stands trieRoot ext journal) {operation : Operation}
    (clears : operation.ClearsNoPrefix) :
    ((extJournaled trieRoot).step ext operation).1 =
        ((journalJournaled trieRoot).step journal operation).1 ∧
      Stands trieRoot ((extJournaled trieRoot).step ext operation).2
        ((journalJournaled trieRoot).step journal operation).2 := by
  cases operation with
  | storage key =>
      exact ⟨congrArg (fun answer => [answer])
        ((simulation_inMemory trieRoot).storage ext journal.current key stands.1), stands⟩
  | placeStorage key value => exact ⟨rfl, stands.placeStorage key value⟩
  | setStorage key value => exact ⟨rfl, stands.placeStorage key (some value)⟩
  | clearStorage key => exact ⟨rfl, stands.placeStorage key none⟩
  | clearPrefix keyPrefix => exact clears.elim
  | commitProspective =>
      -- the committed overlay shows the same map, which is now the last committed one
      refine ⟨rfl, ⟨Ext.memoized_new _ _, fun key => ?_⟩, fun key => ?_⟩
      · show journal.current.lookup key = ext.overlay.commitProspective.view ext.backend key
        rw [OverlayedChanges.view_commitProspective, stands.1.2 key]
      · show journal.current.lookup key = ext.overlay.commitProspective.committedView ext.backend key
        rw [OverlayedChanges.committedView_commitProspective, stands.1.2 key]
  | discardProspective =>
      -- the discarded overlay shows the map of the last commit
      refine ⟨rfl, ⟨Ext.memoized_new _ _, fun key => ?_⟩, fun key => ?_⟩
      · show journal.snapshot.lookup key = ext.overlay.discardProspective.view ext.backend key
        rw [OverlayedChanges.view_discardProspective, stands.2 key]
      · show journal.snapshot.lookup key =
          ext.overlay.discardProspective.committedView ext.backend key
        rw [OverlayedChanges.committedView_discardProspective, stands.2 key]

/-- A sequence without `clear_prefix` reads alike on `Ext` over the in-memory
backend and on the reference, and the delta of the final overlay applies to the
backend exactly the reference's current map. -/
theorem runOperations_refines {ext : Ext InMemory Transaction R} {journal : Journal}
    (stands : Stands trieRoot ext journal) (operations : List Operation)
    (clears : ∀ operation ∈ operations, operation.ClearsNoPrefix) :
    ((extJournaled trieRoot).runOperations operations ext).1 =
        ((journalJournaled trieRoot).runOperations operations journal).1 ∧
      Stands trieRoot ((extJournaled trieRoot).runOperations operations ext).2
        ((journalJournaled trieRoot).runOperations operations journal).2 := by
  induction operations generalizing ext journal with
  | nil => exact ⟨rfl, stands⟩
  | cons operation operations ih =>
      obtain ⟨sameAnswer, standsAfter⟩ := stands.step (clears operation (List.mem_cons_self ..))
      obtain ⟨sameAnswers, standsFinal⟩ :=
        ih standsAfter fun later member => clears later (List.mem_cons_of_mem _ member)
      exact ⟨by simp only [Journaled.runOperations, sameAnswer, sameAnswers], standsFinal⟩

/-- Where an `Ext` stands for a journal, the delta its storage root hands the
backend applies to it exactly the journal's current map. -/
theorem Stands.update_delta {ext : Ext InMemory Transaction R} {journal : Journal}
    (stands : Stands trieRoot ext journal) (key : Bytes) :
    (ext.backend.update (Ext.delta ext.overlay)).inner.lookup key = journal.current.lookup key := by
  rw [InMemory.lookup_update_delta, stands.1.2 key]

/-- `Ext::new` over an overlay and the in-memory backend stands for the journal
whose current map is the backend updated by the committed changes and then the
prospective ones, and whose last commit is the backend updated by the committed
ones. -/
theorem stands_new (backend : InMemory) (overlay : OverlayedChanges) :
    Stands trieRoot (Ext.new overlay backend)
      ⟨(backend.update (Ext.delta overlay)).inner,
        (backend.update overlay.committed.pairs).inner⟩ := by
  refine ⟨⟨Ext.memoized_new overlay backend, InMemory.lookup_update_delta backend overlay⟩,
    fun key => ?_⟩
  have committedOnly := InMemory.lookup_update_delta backend ⟨∅, overlay.committed⟩ key
  have committedDelta : Ext.delta ⟨∅, overlay.committed⟩ = overlay.committed.pairs := by
    simp [Ext.delta, Changes.pairs]
  rw [committedDelta] at committedOnly
  show (backend.update overlay.committed.pairs).inner.lookup key = overlay.committedView backend key
  rw [committedOnly]
  simp [OverlayedChanges.view, OverlayedChanges.committedView, OverlayedChanges.storage]

/-- From the empty in-memory backend and no changes, a key written under a
prefix the backend does not store survives `clear_prefix` in `Ext`: `Ext` reads
it back where the reference, started from the same empty map, reads nothing. -/
theorem clearPrefix_keeps_overlay_key :
    let operations : List Operation := [.placeStorage [1] (some [7]), .clearPrefix [1], .storage [1]]
    let backend : InMemory := ⟨∅⟩
    ((extJournaled fun _ => ()).runOperations operations (Ext.new .empty backend)).1 =
        [some (some [7])] ∧
      ((journalJournaled fun _ => ()).runOperations operations
        ⟨(backend.update (Ext.delta .empty)).inner,
          (backend.update OverlayedChanges.empty.committed.pairs).inner⟩).1 = [some none] := by
  decide

end StateMachine
end Polkadot
