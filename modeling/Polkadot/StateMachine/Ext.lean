import Polkadot.Foundations.MapWrites
import Polkadot.Foundations.ByteCodec

/-!
# Overlayed changes and the externalities over them

`state-machine/src/lib.rs`, `ext.rs`, `backend.rs` and `testing.rs`.  A runtime
call reads and writes storage through `Externalities`.  `Ext` answers reads from
the overlayed changes, prospective ones first and then committed ones, and from
the backend below them; it writes only prospective changes.  A deletion is a
change to `None`.  `TestExternalities` is a plain map.

Hash maps are association lists; only what a key looks up to is observable,
except where the source iterates over one, which keeps the list's order.  The
storage root (`[u8; 32]`) is a value of an abstract type, computed by a
`trieRoot` function of the finite map of present pairs: `trie_root` sorts its
input, so the root depends on the map alone.  A panic (`expect`) is `none`.
-/

namespace Polkadot
namespace StateMachine

open Foundations (Bytes extend writeOption retain somes)

/-- A map of changes, `HashMap<Vec<u8>, Option<Vec<u8>>>`: `None` deletes the key. -/
abbrev Changes := AList (fun _ : Bytes => Option Bytes)

/-- A delta or a transaction of `InMemory`: changes as pairs, applied in order. -/
abbrev Transaction := List (Bytes × Option Bytes)

/-- The pairs of a map of changes, in its order. -/
def Changes.pairs (changes : Changes) : Transaction :=
  changes.entries.map fun change => (change.1, change.2)

/-- `OverlayedChanges`: the changes of the current call over the committed ones. -/
structure OverlayedChanges where
  prospective : Changes
  committed : Changes

namespace OverlayedChanges

/-- `OverlayedChanges::default`. -/
def empty : OverlayedChanges := ⟨∅, ∅⟩

/-- `storage`: `none` if the key is unknown and the query goes to the backend,
`some none` if it has been deleted. -/
def storage (overlay : OverlayedChanges) (key : Bytes) : Option (Option Bytes) :=
  (overlay.prospective.lookup key).or (overlay.committed.lookup key)

/-- `set_storage`. -/
def setStorage (overlay : OverlayedChanges) (key : Bytes) (val : Option Bytes) :
    OverlayedChanges :=
  { overlay with prospective := overlay.prospective.insert key val }

/-- `discard_prospective`. -/
def discardProspective (overlay : OverlayedChanges) : OverlayedChanges :=
  { overlay with prospective := ∅ }

/-- `commit_prospective`: with nothing committed yet the two maps are swapped,
otherwise the prospective changes are drained into the committed ones. -/
def commitProspective (overlay : OverlayedChanges) : OverlayedChanges :=
  if overlay.committed.entries.isEmpty then
    ⟨overlay.committed, overlay.prospective⟩
  else
    ⟨∅, extend overlay.committed overlay.prospective⟩

/-- `drain`: the committed changes, which it empties. -/
def drain (overlay : OverlayedChanges) : Transaction × OverlayedChanges :=
  (overlay.committed.pairs, { overlay with committed := ∅ })

/-- A key's prospective value is the one just set, and other keys' are as before. -/
@[simp]
theorem storage_setStorage (overlay : OverlayedChanges) (key : Bytes) (val : Option Bytes)
    (other : Bytes) :
    (overlay.setStorage key val).storage other =
      if other = key then some val else overlay.storage other := by
  by_cases same : other = key
  · subst same
    simp [storage, setStorage]
  · simp [storage, setStorage, same, AList.lookup_insert_ne same]

/-- Setting a value keeps the committed changes. -/
@[simp]
theorem committed_setStorage (overlay : OverlayedChanges) (key : Bytes) (val : Option Bytes) :
    (overlay.setStorage key val).committed = overlay.committed := rfl

/-- After discarding the prospective changes a key reads as committed. -/
@[simp]
theorem storage_discardProspective (overlay : OverlayedChanges) (key : Bytes) :
    overlay.discardProspective.storage key = overlay.committed.lookup key := by
  simp [storage, discardProspective]

/-- Discarding the prospective changes keeps the committed ones. -/
@[simp]
theorem committed_discardProspective (overlay : OverlayedChanges) :
    overlay.discardProspective.committed = overlay.committed := rfl

/-- Changes with no entries are empty. -/
theorem changes_eq_empty {changes : Changes} (empty : changes.entries.isEmpty) : changes = ∅ :=
  AList.ext (List.isEmpty_iff.mp empty)

/-- Committing leaves no prospective changes. -/
@[simp]
theorem prospective_commitProspective (overlay : OverlayedChanges) :
    overlay.commitProspective.prospective = ∅ := by
  unfold commitProspective
  split
  · case isTrue nothingCommitted => exact changes_eq_empty nothingCommitted
  · rfl

/-- Committing moves every prospective change under the committed ones: what
the overlay answers for a key is then committed. -/
@[simp]
theorem lookup_committed_commitProspective (overlay : OverlayedChanges) (key : Bytes) :
    overlay.commitProspective.committed.lookup key = overlay.storage key := by
  unfold commitProspective storage
  split
  · case isTrue nothingCommitted =>
      simp [changes_eq_empty nothingCommitted]
  · simp

/-- Committing changes nothing a read sees. -/
@[simp]
theorem storage_commitProspective (overlay : OverlayedChanges) (key : Bytes) :
    overlay.commitProspective.storage key = overlay.storage key := by
  conv_lhs => unfold storage
  simp

end OverlayedChanges

/-- The part of `Backend` that `Ext` calls, over backend states `B`: `storage`
may fail with the backend's error `ε`; `forKeysWithPrefix` lists the keys that
`for_keys_with_prefix` calls its closure with, in order; `storageRoot` gives the
root of a delta over what the backend stores and the transaction `T` that
applies it. -/
structure Backend (B ε T R : Type) where
  storage : B → Bytes → Except ε (Option Bytes)
  forKeysWithPrefix : B → Bytes → List Bytes
  storageRoot : B → Transaction → R × T

/-- `InMemory`: the map it shares. -/
structure InMemory where
  inner : AList (fun _ : Bytes => Bytes)

namespace InMemory

variable {R : Type}

/-- `update`: the changes applied in order, `Some` inserting and `None` removing. -/
def update (backend : InMemory) (changes : Transaction) : InMemory :=
  ⟨changes.foldl (fun inner change => writeOption inner change.1 change.2) backend.inner⟩

/-- `storage`: it cannot fail (`Void`). -/
def storage (backend : InMemory) (key : Bytes) : Except Empty (Option Bytes) :=
  .ok (backend.inner.lookup key)

/-- `for_keys_with_prefix`: the keys that start with the prefix. -/
def forKeysWithPrefix (backend : InMemory) (keyPrefix : Bytes) : List Bytes :=
  backend.inner.keys.filter fun key => keyPrefix.isPrefixOf key

/-- `storage_root`: the root of the stored pairs followed by the delta, collected
into a map in which later pairs win, with the deleted keys left out; the
transaction is the delta. -/
def storageRoot (trieRoot : Finmap (fun _ : Bytes => Bytes) → R) (backend : InMemory)
    (delta : Transaction) : R × Transaction :=
  let existingPairs : Transaction := backend.inner.entries.map fun entry => (entry.1, some entry.2)
  let transaction := delta
  let collected : Changes :=
    (existingPairs ++ transaction).foldl (fun pairs pair => pairs.insert pair.1 pair.2) ∅
  (trieRoot (somes collected).toFinmap, transaction)

/-- `pairs`. -/
def pairs (backend : InMemory) : List (Bytes × Bytes) :=
  backend.inner.entries.map fun entry => (entry.1, entry.2)

/-- `InMemory` as a `Backend`. -/
def ops (trieRoot : Finmap (fun _ : Bytes => Bytes) → R) : Backend InMemory Empty Transaction R :=
  ⟨storage, forKeysWithPrefix, storageRoot trieRoot⟩

end InMemory

/-- `Externalities`, over the states `E` of an implementation: a read that
panics is `none`. -/
structure Externalities (E R : Type) where
  storage : E → Bytes → Option (Option Bytes)
  placeStorage : E → Bytes → Option Bytes → E
  clearPrefix : E → Bytes → E
  chainId : E → UInt64
  storageRoot : E → R × E

namespace Externalities

variable {E R : Type}

/-- `set_storage`, provided by the trait. -/
def setStorage (ext : Externalities E R) (state : E) (key value : Bytes) : E :=
  ext.placeStorage state key (some value)

/-- `clear_storage`, provided by the trait. -/
def clearStorage (ext : Externalities E R) (state : E) (key : Bytes) : E :=
  ext.placeStorage state key none

end Externalities

/-- `Ext`: the overlay it writes to, the backend it reads and the transaction
of its last storage root, with that root. -/
structure Ext (B T R : Type) where
  overlay : OverlayedChanges
  backend : B
  transaction : Option (T × R)

namespace Ext

variable {B ε T R : Type} (ops : Backend B ε T R)

/-- `Ext::new`. -/
def new (overlay : OverlayedChanges) (backend : B) : Ext B T R :=
  ⟨overlay, backend, none⟩

/-- `mark_dirty`: the memoized root and transaction are dropped. -/
def markDirty (ext : Ext B T R) : Ext B T R :=
  { ext with transaction := none }

/-- `storage`: the overlay first, then the backend, whose errors panic. -/
def storage (ext : Ext B T R) (key : Bytes) : Option (Option Bytes) :=
  match ext.overlay.storage key with
  | some value => some value
  | none =>
      match ops.storage ext.backend key with
      | .ok value => some value
      | .error _ => none

/-- `place_storage`. -/
def placeStorage (ext : Ext B T R) (key : Bytes) (value : Option Bytes) : Ext B T R :=
  let ext := ext.markDirty
  { ext with overlay := ext.overlay.setStorage key value }

/-- `clear_prefix`: every key of the backend with the prefix is deleted in the
overlay. -/
def clearPrefix (ext : Ext B T R) (keyPrefix : Bytes) : Ext B T R :=
  let ext := ext.markDirty
  { ext with
    overlay := (ops.forKeysWithPrefix ext.backend keyPrefix).foldl
      (fun overlay key => overlay.setStorage key none) ext.overlay }

/-- `chain_id`. -/
def chainId (_ext : Ext B T R) : UInt64 := 42

/-- The delta `storage_root` hands the backend: the committed changes, then the
prospective ones. -/
def delta (overlay : OverlayedChanges) : Transaction :=
  overlay.committed.pairs ++ overlay.prospective.pairs

/-- `storage_root`: the memoized root, or the backend's root of the delta, which
is then memoized with its transaction. -/
def storageRoot (ext : Ext B T R) : R × Ext B T R :=
  match ext.transaction with
  | some (_, root) => (root, ext)
  | none =>
      let computed := ops.storageRoot ext.backend (delta ext.overlay)
      (computed.1, { ext with transaction := some (computed.2, computed.1) })

/-- `transaction`, which consumes the `Ext`: the transaction after a storage
root, which always sets it. -/
def intoTransaction (ext : Ext B T R) : Option T :=
  (ext.storageRoot ops).2.transaction.map Prod.fst

/-- `Ext` as `Externalities`. -/
def externalities : Externalities (Ext B T R) R :=
  ⟨storage ops, placeStorage, clearPrefix ops, chainId, storageRoot ops⟩

variable {ops}

/-- `place_storage` sets the value in the overlay. -/
@[simp] theorem overlay_placeStorage (ext : Ext B T R) (key : Bytes) (value : Option Bytes) :
    (ext.placeStorage key value).overlay = ext.overlay.setStorage key value := rfl

/-- `place_storage` keeps the backend. -/
@[simp] theorem backend_placeStorage (ext : Ext B T R) (key : Bytes) (value : Option Bytes) :
    (ext.placeStorage key value).backend = ext.backend := rfl

/-- `place_storage` drops the cached transaction. -/
@[simp] theorem transaction_placeStorage (ext : Ext B T R) (key : Bytes) (value : Option Bytes) :
    (ext.placeStorage key value).transaction = none := rfl

/-- `clear_prefix` sets every backend key with the prefix to none in the overlay. -/
@[simp] theorem overlay_clearPrefix (ext : Ext B T R) (keyPrefix : Bytes) :
    (ext.clearPrefix ops keyPrefix).overlay =
      (ops.forKeysWithPrefix ext.backend keyPrefix).foldl
        (fun overlay key => overlay.setStorage key none) ext.overlay := rfl

/-- `clear_prefix` keeps the backend. -/
@[simp] theorem backend_clearPrefix (ext : Ext B T R) (keyPrefix : Bytes) :
    (ext.clearPrefix ops keyPrefix).backend = ext.backend := rfl

/-- `clear_prefix` drops the cached transaction. -/
@[simp] theorem transaction_clearPrefix (ext : Ext B T R) (keyPrefix : Bytes) :
    (ext.clearPrefix ops keyPrefix).transaction = none := rfl

/-- `storage_root` keeps the overlay. -/
@[simp] theorem overlay_storageRoot (ext : Ext B T R) :
    (ext.storageRoot ops).2.overlay = ext.overlay := by
  unfold storageRoot
  split <;> rfl

/-- `storage_root` keeps the backend. -/
@[simp] theorem backend_storageRoot (ext : Ext B T R) :
    (ext.storageRoot ops).2.backend = ext.backend := by
  unfold storageRoot
  split <;> rfl

/-- A storage root always leaves a transaction memoized. -/
theorem transaction_storageRoot_isSome (ext : Ext B T R) :
    ((ext.storageRoot ops).2.transaction).isSome := by
  unfold storageRoot
  split
  · case h_1 memoized => simp [memoized]
  · rfl

/-- The `expect` of `transaction` never panics. -/
theorem intoTransaction_isSome (ext : Ext B T R) : (ext.intoTransaction ops).isSome := by
  simpa [intoTransaction] using transaction_storageRoot_isSome ext

end Ext

/-- `TestExternalities`: a plain map. -/
abbrev TestExternalities := AList (fun _ : Bytes => Bytes)

namespace TestExternalities

variable {R : Type}

/-- `storage`. -/
def storage (ext : TestExternalities) (key : Bytes) : Option Bytes :=
  ext.lookup key

/-- `place_storage`: `Some` inserts the value, `None` removes the key. -/
def placeStorage (ext : TestExternalities) (key : Bytes) (maybeValue : Option Bytes) :
    TestExternalities :=
  writeOption ext key maybeValue

/-- `clear_prefix`: the keys that do not start with the prefix are retained. -/
def clearPrefix (ext : TestExternalities) (keyPrefix : Bytes) : TestExternalities :=
  retain (fun key => !keyPrefix.isPrefixOf key) ext

/-- `chain_id`. -/
def chainId (_ext : TestExternalities) : UInt64 := 42

/-- `storage_root`: the root of the map. -/
def storageRoot (trieRoot : Finmap (fun _ : Bytes => Bytes) → R) (ext : TestExternalities) :
    R × TestExternalities :=
  (trieRoot ext.toFinmap, ext)

/-- `TestExternalities` as `Externalities`: its reads never panic. -/
def externalities (trieRoot : Finmap (fun _ : Bytes => Bytes) → R) :
    Externalities TestExternalities R :=
  ⟨fun ext key => some (storage ext key), placeStorage, clearPrefix, chainId, storageRoot trieRoot⟩

end TestExternalities

end StateMachine
end Polkadot
