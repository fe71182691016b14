import Polkadot.StateMachine.Execute

/-!
# The overlay over the in-memory backend refines a plain map

What `Ext` is for: a call sees one map of storage, the backend's map written
over by the committed changes and then by the prospective ones (`view`), and a
failure returns to the map of the last commit (`committedView`).  The reference
is `TestExternalities`, a plain map, with the map of the last commit kept beside
it (`Journal`).

Over the in-memory backend every read, write, chain id and storage root of
`Ext` agrees with the plain map (`simulation_inMemory`), so every call that
clears no prefix runs alike on both (`Simulation.run`), and `execute` refines
the reference execution, its transaction applying to the backend exactly the
map the reference ends with (`execute_refines`).  `clear_prefix` is the
exception: `Ext` deletes only the keys the backend stores, so it agrees with the
plain map exactly when no other key with the prefix is visible
(`related_clearPrefix_iff`).
-/

namespace Polkadot
namespace StateMachine

open Foundations

/-! ## Calls run in lockstep -/

/-- A call that never clears a prefix. -/
inductive Call.ClearsNoPrefix {R O : Type} : Call R O → Prop
  | done (output : O) : ClearsNoPrefix (.done output)
  | storage (key : Bytes) {next : Option Bytes → Call R O} :
      (∀ value, ClearsNoPrefix (next value)) → ClearsNoPrefix (.storage key next)
  | placeStorage (key : Bytes) (value : Option Bytes) {next : Call R O} :
      ClearsNoPrefix next → ClearsNoPrefix (.placeStorage key value next)
  | chainId {next : UInt64 → Call R O} :
      (∀ id, ClearsNoPrefix (next id)) → ClearsNoPrefix (.chainId next)
  | storageRoot {next : R → Call R O} :
      (∀ root, ClearsNoPrefix (next root)) → ClearsNoPrefix (.storageRoot next)

/-- Two externalities in lockstep: related states answer every read, chain id
and storage root alike, and every write keeps them related. -/
structure Simulation {E F R : Type} (first : Externalities E R) (second : Externalities F R)
    (related : E → F → Prop) : Prop where
  storage : ∀ e f key, related e f → first.storage e key = second.storage f key
  placeStorage : ∀ e f key value, related e f →
    related (first.placeStorage e key value) (second.placeStorage f key value)
  chainId : ∀ e f, related e f → first.chainId e = second.chainId f
  storageRoot : ∀ e f, related e f →
    (first.storageRoot e).1 = (second.storageRoot f).1 ∧
      related (first.storageRoot e).2 (second.storageRoot f).2

/-- A call that clears no prefix runs alike from related states: both panic, or
both return the same output in related states. -/
theorem Simulation.run {E F R O : Type} {first : Externalities E R}
    {second : Externalities F R} {related : E → F → Prop}
    (simulation : Simulation first second related) {call : Call R O}
    (clears : call.ClearsNoPrefix) {e : E} {f : F} (start : related e f) :
    Option.Rel (fun left right => left.1 = right.1 ∧ related left.2 right.2)
      (call.run first e) (call.run second f) := by
  induction clears generalizing e f with
  | done output => exact .some ⟨rfl, start⟩
  | storage key _ ih =>
      simp only [Call.run]
      rw [simulation.storage e f key start]
      cases second.storage f key with
      | none => exact .none
      | some value => exact ih value start
  | placeStorage key value _ ih => exact ih (simulation.placeStorage e f key value start)
  | chainId _ ih =>
      simp only [Call.run]
      rw [simulation.chainId e f start]
      exact ih _ start
  | storageRoot _ ih =>
      obtain ⟨sameRoot, relatedAfter⟩ := simulation.storageRoot e f start
      simp only [Call.run]
      rw [sameRoot]
      exact ih _ relatedAfter

/-- A run of the first externalities that returns is matched by a run of the
second with the same output, ending in a related state. -/
theorem Simulation.run_some {E F R O : Type} {first : Externalities E R}
    {second : Externalities F R} {related : E → F → Prop}
    (simulation : Simulation first second related) {call : Call R O}
    (clears : call.ClearsNoPrefix) {e final : E} {f : F} {output : O} (start : related e f)
    (ran : call.run first e = some (output, final)) :
    ∃ other, call.run second f = some (output, other) ∧ related final other := by
  have lockstep := simulation.run clears start
  rw [ran] at lockstep
  generalize call.run second f = reference at lockstep
  cases lockstep with
  | @some _ matched agree =>
      obtain ⟨sameOutput, relatedFinal⟩ := agree
      obtain ⟨matchedOutput, other⟩ := matched
      simp only at sameOutput
      subst sameOutput
      exact ⟨other, rfl, relatedFinal⟩

/-! ## What the overlay shows -/

namespace OverlayedChanges

/-- The map a call sees: the backend's map under the committed changes under
the prospective ones. -/
def view (overlay : OverlayedChanges) (backend : InMemory) (key : Bytes) : Option Bytes :=
  (overlay.storage key).getD (backend.inner.lookup key)

/-- The map of the last commit: the backend's map under the committed changes. -/
def committedView (overlay : OverlayedChanges) (backend : InMemory) (key : Bytes) :
    Option Bytes :=
  (overlay.committed.lookup key).getD (backend.inner.lookup key)

/-- After setting a value the view reads it at its key, and other keys as before. -/
@[simp]
theorem view_setStorage (overlay : OverlayedChanges) (backend : InMemory) (key : Bytes)
    (value : Option Bytes) (other : Bytes) :
    (overlay.setStorage key value).view backend other =
      if other = key then value else overlay.view backend other := by
  unfold view
  split_ifs with same <;> simp [same]

/-- Setting a value keeps the committed view. -/
@[simp]
theorem committedView_setStorage (overlay : OverlayedChanges) (backend : InMemory) (key : Bytes)
    (value : Option Bytes) :
    (overlay.setStorage key value).committedView backend = overlay.committedView backend := rfl

/-- Committing keeps the view. -/
@[simp]
theorem view_commitProspective (overlay : OverlayedChanges) (backend : InMemory) :
    overlay.commitProspective.view backend = overlay.view backend := by
  funext key
  simp [view]

/-- After committing, the committed view is the view. -/
@[simp]
theorem committedView_commitProspective (overlay : OverlayedChanges) (backend : InMemory) :
    overlay.commitProspective.committedView backend = overlay.view backend := by
  funext key
  simp [view, committedView]

/-- After discarding, the view is the committed view. -/
@[simp]
theorem view_discardProspective (overlay : OverlayedChanges) (backend : InMemory) :
    overlay.discardProspective.view backend = overlay.committedView backend := by
  funext key
  simp [view, committedView]

/-- Discarding keeps the committed view. -/
@[simp]
theorem committedView_discardProspective (overlay : OverlayedChanges) (backend : InMemory) :
    overlay.discardProspective.committedView backend = overlay.committedView backend := rfl

end OverlayedChanges

/-! ## The in-memory backend applies a delta as the overlay reads it -/

namespace InMemory

/-- Applying the delta of an overlay to the backend gives the map the overlay
shows: committed changes first, prospective ones over them. -/
theorem lookup_update_delta (backend : InMemory) (overlay : OverlayedChanges) (key : Bytes) :
    (backend.update (Ext.delta overlay)).inner.lookup key = overlay.view backend key := by
  simp only [update, Ext.delta, Changes.pairs, List.foldl_append, List.foldl_map]
  rw [lookup_foldl_write_entries writesKey_writeOption,
    lookup_foldl_write_entries writesKey_writeOption]
  unfold OverlayedChanges.view OverlayedChanges.storage
  cases overlay.prospective.lookup key <;> cases overlay.committed.lookup key <;> rfl

/-- Collecting the stored pairs and then a delta, later pairs winning, and
leaving out the deleted keys, gives the backend updated by the delta. -/
theorem lookup_collected (backend : InMemory) (delta : Transaction) (key : Bytes) :
    (somes (((backend.inner.entries.map fun entry => (entry.1, some entry.2)) ++ delta).foldl
      (fun pairs pair => pairs.insert pair.1 pair.2) ∅)).lookup key =
      (backend.update delta).inner.lookup key := by
  -- the collected map of optional values and the updated map agree on every key
  let agree (collected : Changes) (inner : AList (fun _ : Bytes => Bytes)) : Prop :=
    ∀ key, (collected.lookup key).join = inner.lookup key
  have existing : agree ((backend.inner.entries.map fun entry => (entry.1, some entry.2)).foldl
      (fun pairs pair => pairs.insert pair.1 pair.2) ∅) backend.inner := by
    intro key
    rw [List.foldl_map, lookup_foldl_write_entries (writesKey_insert some)]
    cases backend.inner.lookup key <;> rfl
  have step : ∀ collected inner (change : Bytes × Option Bytes), agree collected inner →
      agree (collected.insert change.1 change.2) (writeOption inner change.1 change.2) := by
    intro collected inner change agreeing key
    rw [writesKey_writeOption]
    by_cases same : key = change.1
    · subst same
      simp
    · simp [same, AList.lookup_insert_ne same, agreeing key]
  rw [lookup_somes, List.foldl_append]
  exact foldl_related agree step delta existing key

variable {R : Type} (trieRoot : Finmap (fun _ : Bytes => Bytes) → R)

/-- The root `storage_root` computes is that of the backend updated by the
delta, and its transaction is the delta. -/
theorem storageRoot_eq (backend : InMemory) (delta : Transaction) :
    backend.storageRoot trieRoot delta = (trieRoot (backend.update delta).inner.toFinmap, delta) := by
  simp only [storageRoot, Prod.mk.injEq, and_true]
  congr 1
  exact Finmap.ext_lookup fun key => by
    rw [Finmap.lookup_toFinmap, Finmap.lookup_toFinmap]
    exact lookup_collected backend delta key

end InMemory

/-! ## `Ext` over the in-memory backend against the plain map -/

namespace Ext

variable {R : Type} {trieRoot : Finmap (fun _ : Bytes => Bytes) → R}

/-- A read of `Ext` over the in-memory backend never panics and sees the view. -/
@[simp]
theorem storage_inMemory (ext : Ext InMemory Transaction R) (key : Bytes) :
    ext.storage (InMemory.ops trieRoot) key = some (ext.overlay.view ext.backend key) := by
  unfold storage OverlayedChanges.view
  cases ext.overlay.storage key <;> rfl

/-- A storage root of a memoized `Ext` over the in-memory backend is the root of
the view. -/
theorem storageRoot_inMemory {ext : Ext InMemory Transaction R}
    (memoized : Memoized (InMemory.ops trieRoot) ext) {flat : TestExternalities}
    (shows : ∀ key, flat.lookup key = ext.overlay.view ext.backend key) :
    (ext.storageRoot (InMemory.ops trieRoot)).1 = trieRoot flat.toFinmap := by
  rw [storageRoot_fst_of_memoized memoized]
  show (ext.backend.storageRoot trieRoot (delta ext.overlay)).1 = _
  rw [InMemory.storageRoot_eq]
  dsimp only
  congr 1
  exact Finmap.ext_lookup fun key => by
    rw [Finmap.lookup_toFinmap, Finmap.lookup_toFinmap, InMemory.lookup_update_delta, shows]

/-- The transaction of a memoized `Ext` over the in-memory backend is its
delta. -/
theorem intoTransaction_inMemory {ext : Ext InMemory Transaction R}
    (memoized : Memoized (InMemory.ops trieRoot) ext) :
    ext.intoTransaction (InMemory.ops trieRoot) = some (delta ext.overlay) := by
  unfold intoTransaction storageRoot
  split
  · case h_1 transaction root memo =>
      have computed := memoized transaction root memo
      simp only [memo, Option.map_some]
      change ext.backend.storageRoot trieRoot (delta ext.overlay) = (root, transaction) at computed
      rw [InMemory.storageRoot_eq] at computed
      exact congrArg some (Prod.mk.inj computed).2.symm
  · simp only [Option.map_some]
    exact congrArg some (congrArg Prod.snd (InMemory.storageRoot_eq trieRoot _ _))

end Ext

variable {R : Type} (trieRoot : Finmap (fun _ : Bytes => Bytes) → R)

/-- An `Ext` over the in-memory backend stands for a plain map: its memoized
root is current, and the plain map is what it shows. -/
def Related (ext : Ext InMemory Transaction R) (flat : TestExternalities) : Prop :=
  Ext.Memoized (InMemory.ops trieRoot) ext ∧ ∀ key, flat.lookup key = ext.overlay.view ext.backend key

/-- `Ext` over the in-memory backend simulates the plain map in every operation
but `clear_prefix`. -/
theorem simulation_inMemory :
    Simulation (Ext.externalities (InMemory.ops trieRoot))
      (TestExternalities.externalities trieRoot) (Related trieRoot) where
  storage ext flat key related := by
    show ext.storage (InMemory.ops trieRoot) key = some (flat.lookup key)
    rw [Ext.storage_inMemory, related.2 key]
  placeStorage ext flat key value related := by
    refine ⟨Ext.preserves_memoized.placeStorage ext key value related.1, fun other => ?_⟩
    show (writeOption flat key value).lookup other =
      (ext.placeStorage key value).overlay.view (ext.placeStorage key value).backend other
    rw [writesKey_writeOption, related.2 other, Ext.overlay_placeStorage, Ext.backend_placeStorage,
      OverlayedChanges.view_setStorage]
    rfl
  chainId _ _ _ := rfl
  storageRoot ext flat related := by
    refine ⟨Ext.storageRoot_inMemory related.1 related.2, ?_, fun key => ?_⟩
    · exact Ext.preserves_memoized.storageRoot ext related.1
    · show flat.lookup key = (ext.storageRoot (InMemory.ops trieRoot)).2.overlay.view
        (ext.storageRoot (InMemory.ops trieRoot)).2.backend key
      rw [Ext.overlay_storageRoot, Ext.backend_storageRoot, related.2 key]

/-- After `clear_prefix` a key with the prefix is deleted in the view exactly
when the backend stores it; every other key shows what it showed. -/
theorem view_clearPrefix (ext : Ext InMemory Transaction R) (keyPrefix key : Bytes) :
    (ext.clearPrefix (InMemory.ops trieRoot) keyPrefix).overlay.view ext.backend key =
      if keyPrefix.isPrefixOf key ∧ key ∈ ext.backend.inner then none
      else ext.overlay.view ext.backend key := by
  rw [Ext.overlay_clearPrefix]
  show (((ext.backend.inner.keys.filter fun key => keyPrefix.isPrefixOf key)).foldl
    (fun overlay key => overlay.setStorage key none) ext.overlay).view ext.backend key = _
  -- the loop sets the prospective change of every listed key to a deletion
  have cleared : ∀ (keys : List Bytes) (overlay : OverlayedChanges),
      (keys.foldl (fun overlay key => overlay.setStorage key none) overlay).view ext.backend key =
        if key ∈ keys then none else overlay.view ext.backend key := by
    intro keys
    induction keys with
    | nil => simp
    | cons listed keys ih =>
        intro overlay
        rw [List.foldl_cons, ih, OverlayedChanges.view_setStorage]
        by_cases same : key = listed <;> simp [same]
  rw [cleared]
  simp [List.mem_filter, AList.mem_keys, and_comm]

/-- `clear_prefix` keeps `Ext` and the plain map related exactly when every key
with the prefix that the backend does not store is absent from the view. -/
theorem related_clearPrefix_iff {ext : Ext InMemory Transaction R} {flat : TestExternalities}
    (related : Related trieRoot ext flat) (keyPrefix : Bytes) :
    Related trieRoot (ext.clearPrefix (InMemory.ops trieRoot) keyPrefix)
        (TestExternalities.clearPrefix flat keyPrefix) ↔
      ∀ key, keyPrefix.isPrefixOf key → key ∉ ext.backend.inner →
        ext.overlay.view ext.backend key = none := by
  have memoized : Ext.Memoized (InMemory.ops trieRoot)
      (ext.clearPrefix (InMemory.ops trieRoot) keyPrefix) :=
    Ext.preserves_memoized.clearPrefix ext keyPrefix related.1
  unfold Related
  rw [and_iff_right memoized]
  simp only [TestExternalities.clearPrefix, lookup_retain, view_clearPrefix,
    Ext.backend_clearPrefix, related.2]
  constructor
  · intro agree key hasPrefix unstored
    simpa [hasPrefix, unstored] using (agree key).symm
  · intro absent key
    by_cases hasPrefix : keyPrefix.isPrefixOf key
    · by_cases stored : key ∈ ext.backend.inner
      · simp [hasPrefix, stored]
      · simp [hasPrefix, stored, absent key hasPrefix stored]
    · simp [hasPrefix]

/-- A key written by the call under a prefix the backend does not store
survives `clear_prefix` in `Ext` and not in the plain map. -/
example :
    let ext : Ext InMemory Transaction Unit := (Ext.new .empty ⟨∅⟩).placeStorage [1] (some [7])
    (ext.clearPrefix (InMemory.ops fun _ => ()) [1]).storage (InMemory.ops fun _ => ()) [1] =
        some (some [7]) ∧
      TestExternalities.storage
        (TestExternalities.clearPrefix (TestExternalities.placeStorage ∅ [1] (some [7])) [1]) [1] =
        none := by
  decide

/-! ## `execute` against the reference -/

/-- The reference state: the map a call sees, and the map of the last commit. -/
structure Journal where
  current : TestExternalities
  snapshot : TestExternalities

/-- The journal a backend and an overlay stand for. -/
def Abstracts (backend : InMemory) (overlay : OverlayedChanges) (journal : Journal) : Prop :=
  (∀ key, journal.current.lookup key = overlay.view backend key) ∧
    ∀ key, journal.snapshot.lookup key = overlay.committedView backend key

/-- What `execute` is for: the call runs on the map a call sees, from the code
under `:code`; a success commits the map it ends with, a failure of the call
returns to the map of the last commit. -/
def referenceExecute {Err : Type} (journal : Journal) (exec : CodeExecutor R Err)
    (method : String) (callData : Bytes) : Option (Except (ExecuteError Err) Bytes × Journal) :=
  match journal.current.lookup codeKey with
  | none => some (.error (.execution .codeEntryDoesNotExist), journal)
  | some code =>
      ((exec code method callData).run (TestExternalities.externalities trieRoot)
        journal.current).map fun ran =>
          match ran.1 with
          | .ok out => (.ok out, ⟨ran.2, ran.2⟩)
          | .error e => (.error (.executor e), ⟨journal.snapshot, journal.snapshot⟩)

variable {trieRoot}

/-- A new `Ext` over an overlay that the journal abstracts is related to the journal's current
state. -/
theorem related_new {backend : InMemory} {overlay : OverlayedChanges} {journal : Journal}
    (abstracts : Abstracts backend overlay journal) :
    Related trieRoot (Ext.new overlay backend) journal.current :=
  ⟨Ext.memoized_new overlay backend, abstracts.1⟩

/-- `execute` over the in-memory backend refines the reference: for every call
that clears no prefix, it never panics, returns the reference's output or error,
leaves an overlay that stands for the reference's journal, and on success hands
back a transaction that updates the backend to the map the reference commits. -/
theorem execute_refines {Err : Type} {backend : InMemory} {overlay : OverlayedChanges}
    {journal : Journal} (abstracts : Abstracts backend overlay journal)
    {exec : CodeExecutor R Err} {method : String} {callData : Bytes}
    (clears : ∀ code, (exec code method callData).ClearsNoPrefix) :
    ∃ result next nextJournal,
      execute (InMemory.ops trieRoot) backend overlay exec method callData = some (result, next) ∧
      referenceExecute trieRoot journal exec method callData =
        some (result.map Prod.fst, nextJournal) ∧
      Abstracts backend next nextJournal ∧
      ∀ out transaction, result = .ok (out, transaction) →
        ∀ key, (backend.update transaction).inner.lookup key = nextJournal.current.lookup key := by
  have read : (Ext.new overlay backend : Ext InMemory Transaction R).storage
      (InMemory.ops trieRoot) codeKey = some (journal.current.lookup codeKey) := by
    rw [Ext.storage_inMemory, abstracts.1]
    rfl
  cases codeRead : journal.current.lookup codeKey with
  | none =>
      rw [codeRead] at read
      refine ⟨_, _, journal, execute_of_no_code read, ?_, abstracts, ?_⟩
      · simp only [referenceExecute, codeRead]
        rfl
      intro _ _ failed
      cases failed
  | some code =>
      rw [codeRead] at read
      -- the call runs on `Ext` without panicking, and in lockstep on the plain map
      obtain ⟨⟨result, final⟩, extRan⟩ := Option.isSome_iff_exists.mp
        (Call.run_isSome (Ext.externalities (InMemory.ops trieRoot))
          (fun ext key => by simp [Ext.externalities]) (exec code method callData)
          (Ext.new overlay backend))
      obtain ⟨reference, refRan, related⟩ :=
        (simulation_inMemory trieRoot).run_some (clears code) (related_new abstracts) extRan
      have committed : final.overlay.committed = overlay.committed :=
        (Ext.preserves_committed overlay.committed).run _ rfl extRan
      have sameBackend : final.backend = backend := (Ext.preserves_backend backend).run _ rfl extRan
      rw [execute_of_code read, extRan, Option.bind_some]
      simp only [referenceExecute, codeRead, refRan, Option.map_some]
      cases result with
      | ok out =>
          -- success commits: the plain map the call ends with is the new journal
          have transaction := Ext.intoTransaction_inMemory related.1
          refine ⟨_, _, _, by rw [transaction]; rfl, rfl, ⟨fun key => ?_, fun key => ?_⟩, ?_⟩
          · rw [related.2 key, sameBackend, OverlayedChanges.view_commitProspective]
          · rw [related.2 key, sameBackend, OverlayedChanges.committedView_commitProspective]
          · intro out transaction succeeded key
            cases succeeded
            rw [InMemory.lookup_update_delta, related.2 key, sameBackend]
      | error e =>
          -- failure discards: the journal returns to the map of the last commit
          have returned : ∀ key, journal.snapshot.lookup key =
              final.overlay.discardProspective.view backend key := by
            intro key
            rw [OverlayedChanges.view_discardProspective, abstracts.2 key]
            simp only [OverlayedChanges.committedView, committed]
          refine ⟨_, _, _, rfl, rfl, ⟨returned, fun key => ?_⟩, ?_⟩
          · rw [returned, OverlayedChanges.view_discardProspective,
              OverlayedChanges.committedView_discardProspective]
          · intro _ _ failed
            cases failed

end StateMachine
end Polkadot
