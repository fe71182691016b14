import Polkadot.StateMachine.Ext

/-!
# Executing a runtime call

`execute` in `state-machine/src/lib.rs`: the code is read from the `:code`
entry of storage through an `Ext` over the overlay and the backend, the
executor calls a method of it with the `Ext` as externalities, and the
overlay's prospective changes are then committed on success and discarded on
failure.

The executor is a shallow interpreter: what the runtime does with its
externalities is a `Call`, a tree of the operations it makes, each next one
chosen from what the earlier ones returned.  `Call.run` runs it against any
`Externalities`.  What holds of every state the operations reach holds after a
whole run (`Preserves.run`), and a run never panics when the reads never do.
-/

namespace Polkadot
namespace StateMachine

open Foundations (Bytes)

/-- What a runtime call does with its externalities: the operations it makes,
each next one chosen from the result of the last, and its output. -/
inductive Call (R O : Type) where
  | done (output : O)
  | storage (key : Bytes) (next : Option Bytes → Call R O)
  | placeStorage (key : Bytes) (value : Option Bytes) (next : Call R O)
  | clearPrefix (keyPrefix : Bytes) (next : Call R O)
  | chainId (next : UInt64 → Call R O)
  | storageRoot (next : R → Call R O)

namespace Call

variable {E R O : Type}

/-- The call run against externalities from a state: its output and the final
state, or `none` if a read panicked. -/
def run (ext : Externalities E R) : Call R O → E → Option (O × E)
  | done output, state => some (output, state)
  | storage key next, state =>
      (ext.storage state key).bind fun value => (next value).run ext state
  | placeStorage key value next, state => next.run ext (ext.placeStorage state key value)
  | clearPrefix keyPrefix next, state => next.run ext (ext.clearPrefix state keyPrefix)
  | chainId next, state => (next (ext.chainId state)).run ext state
  | storageRoot next, state =>
      let computed := ext.storageRoot state
      (next computed.1).run ext computed.2

/-- A run never panics when no read does. -/
theorem run_isSome (ext : Externalities E R) (reads : ∀ state key, (ext.storage state key).isSome)
    (call : Call R O) (state : E) : (call.run ext state).isSome := by
  induction call generalizing state with
  | done output => rfl
  | storage key next ih =>
      obtain ⟨value, read⟩ := Option.isSome_iff_exists.mp (reads state key)
      simpa [run, read] using ih value state
  | placeStorage key value next ih => exact ih _
  | clearPrefix keyPrefix next ih => exact ih _
  | chainId next ih => exact ih _ state
  | storageRoot next ih => exact ih _ _

end Call

/-- An invariant of the externalities' states that every operation that changes
the state keeps. -/
structure Preserves {E R : Type} (ext : Externalities E R) (invariant : E → Prop) : Prop where
  placeStorage : ∀ state key value, invariant state → invariant (ext.placeStorage state key value)
  clearPrefix : ∀ state keyPrefix, invariant state → invariant (ext.clearPrefix state keyPrefix)
  storageRoot : ∀ state, invariant state → invariant (ext.storageRoot state).2

/-- The invariant rule of a run: an invariant every operation keeps holds of the
state a run ends in. -/
theorem Preserves.run {E R O : Type} {ext : Externalities E R} {invariant : E → Prop}
    (preserves : Preserves ext invariant) (call : Call R O) {state final : E} {output : O}
    (start : invariant state) (ran : call.run ext state = some (output, final)) :
    invariant final := by
  induction call generalizing state with
  | done output =>
      cases ran
      exact start
  | storage key next ih =>
      obtain ⟨value, -, ranNext⟩ := Option.bind_eq_some_iff.mp ran
      exact ih value start ranNext
  | placeStorage key value next ih => exact ih (preserves.placeStorage _ _ _ start) ran
  | clearPrefix keyPrefix next ih => exact ih (preserves.clearPrefix _ _ start) ran
  | chainId next ih => exact ih _ start ran
  | storageRoot next ih => exact ih _ (preserves.storageRoot _ start) ran

/-- Two predicates the externalities preserve are preserved together. -/
theorem Preserves.and {E R : Type} {ext : Externalities E R} {first second : E → Prop}
    (left : Preserves ext first) (right : Preserves ext second) :
    Preserves ext fun state => first state ∧ second state where
  placeStorage state key value holds :=
    ⟨left.placeStorage state key value holds.1, right.placeStorage state key value holds.2⟩
  clearPrefix state keyPrefix holds :=
    ⟨left.clearPrefix state keyPrefix holds.1, right.clearPrefix state keyPrefix holds.2⟩
  storageRoot state holds := ⟨left.storageRoot state holds.1, right.storageRoot state holds.2⟩

namespace Ext

variable {B ε T R : Type} {ops : Backend B ε T R}

/-- The memoized transaction and root are those of the current overlay. -/
def Memoized (ops : Backend B ε T R) (ext : Ext B T R) : Prop :=
  ∀ transaction root, ext.transaction = some (transaction, root) →
    ops.storageRoot ext.backend (delta ext.overlay) = (root, transaction)

/-- A new `Ext` has nothing memoized. -/
theorem memoized_new (overlay : OverlayedChanges) (backend : B) :
    Memoized ops (Ext.new overlay backend : Ext B T R) := by
  intro _ _ memo
  cases memo

/-- A storage root of a memoized `Ext` is the backend's root of the delta. -/
theorem storageRoot_fst_of_memoized {ext : Ext B T R} (memoized : Memoized ops ext) :
    (ext.storageRoot ops).1 = (ops.storageRoot ext.backend (delta ext.overlay)).1 := by
  unfold storageRoot
  split
  · case h_1 transaction root memo => rw [memoized transaction root memo]
  · rfl

/-- Every operation keeps the memoized root that of the current overlay: the
cache is dropped by every write and filled only by `storage_root`. -/
theorem preserves_memoized : Preserves (externalities ops) (Memoized ops) where
  placeStorage _ _ _ _ _ _ memo := by cases memo
  clearPrefix _ _ _ _ _ memo := by cases memo
  storageRoot ext memoized := by
    show Memoized ops (ext.storageRoot ops).2
    unfold storageRoot
    split
    · exact memoized
    · intro transaction root memo
      cases memo
      rfl

/-- No operation changes the backend. -/
theorem preserves_backend (backend : B) :
    Preserves (externalities ops) fun ext : Ext B T R => ext.backend = backend where
  placeStorage _ _ _ same := same
  clearPrefix _ _ same := same
  storageRoot ext same := (backend_storageRoot ext).trans same

/-- No operation changes the committed changes: a call writes prospective ones. -/
theorem preserves_committed (committed : Changes) :
    Preserves (externalities ops) fun ext : Ext B T R => ext.overlay.committed = committed where
  placeStorage _ _ _ same := same
  clearPrefix ext keyPrefix same := by
    show ((ops.forKeysWithPrefix ext.backend keyPrefix).foldl
      (fun overlay key => overlay.setStorage key none) ext.overlay).committed = committed
    induction ops.forKeysWithPrefix ext.backend keyPrefix generalizing ext with
    | nil => exact same
    | cons key keys ih => exact ih (ext.placeStorage key none) same
  storageRoot ext same := (congrArg OverlayedChanges.committed (overlay_storageRoot ext)).trans same

/-- Reads of an `Ext` panic only on an error of the backend. -/
theorem storage_isSome (ext : Ext B T R) (key : Bytes)
    (backendReads : ∀ backend key, ∃ value, ops.storage backend key = .ok value) :
    (ext.storage ops key).isSome := by
  unfold storage
  split
  · rfl
  · obtain ⟨value, read⟩ := backendReads ext.backend key
    rw [read]
    rfl

end Ext

/-- `ExecutionError`. -/
inductive ExecutionError where
  /-- The entry `:code` is not in storage. -/
  | codeEntryDoesNotExist
  /-- The backend cannot prove execution. -/
  | unableToGenerateProof
  /-- An execution proof is invalid. -/
  | invalidProof
  deriving DecidableEq

/-- The errors `execute` returns boxed: its own, or the executor's. -/
inductive ExecuteError (Err : Type) where
  | execution (error : ExecutionError)
  | executor (error : Err)

/-- `CodeExecutor`: what `call` does, for the code, the method and the call
data, ending in the output or the executor's error. -/
abbrev CodeExecutor (R Err : Type) := Bytes → String → Bytes → Call R (Except Err Bytes)

/-- The storage key `:code`. -/
def codeKey : Bytes := [58, 99, 111, 100, 101]

variable {B ε T R Err : Type}

/-- `execute`: the output and the transaction, or the error, with the overlay
after the call; `none` if it panicked. -/
def execute (ops : Backend B ε T R) (backend : B) (overlay : OverlayedChanges)
    (exec : CodeExecutor R Err) (method : String) (callData : Bytes) :
    Option (Except (ExecuteError Err) (Bytes × T) × OverlayedChanges) := do
  let externalities : Ext B T R := Ext.new overlay backend
  match ← externalities.storage ops codeKey with
  | none => pure (.error (.execution .codeEntryDoesNotExist), overlay)
  | some code =>
      let (result, externalities) ←
        (exec code method callData).run (Ext.externalities ops) externalities
      match result with
      | .ok out =>
          let transaction ← externalities.intoTransaction ops
          pure (.ok (out, transaction), externalities.overlay.commitProspective)
      | .error e => pure (.error (.executor e), externalities.overlay.discardProspective)

/-- How `execute` ends once the code is read: the call runs to a final `Ext`,
and its result decides between committing and discarding. -/
theorem execute_of_code {ops : Backend B ε T R} {backend : B} {overlay : OverlayedChanges}
    {exec : CodeExecutor R Err} {method : String} {callData : Bytes} {code : Bytes}
    (read : (Ext.new overlay backend : Ext B T R).storage ops codeKey = some (some code)) :
    execute ops backend overlay exec method callData =
      ((exec code method callData).run (Ext.externalities ops) (Ext.new overlay backend)).bind
        fun ran => match ran.1 with
          | .ok out => (ran.2.intoTransaction ops).map fun transaction =>
              (.ok (out, transaction), ran.2.overlay.commitProspective)
          | .error e => some (.error (.executor e), ran.2.overlay.discardProspective) := by
  simp only [execute, read, Option.bind_eq_bind, Option.bind_some]
  congr 1
  funext ran
  obtain ⟨result, final⟩ := ran
  cases result with
  | ok out => cases final.intoTransaction ops <;> rfl
  | error e => rfl

/-- `execute` without a `:code` entry fails and leaves the overlay as it was. -/
theorem execute_of_no_code {ops : Backend B ε T R} {backend : B} {overlay : OverlayedChanges}
    {exec : CodeExecutor R Err} {method : String} {callData : Bytes}
    (read : (Ext.new overlay backend : Ext B T R).storage ops codeKey = some none) :
    execute ops backend overlay exec method callData =
      some (.error (.execution .codeEntryDoesNotExist), overlay) := by
  simp [execute, read]

/-- On every error of `execute` the overlay keeps no prospective change of the
call: it is left as it was when there is no code, and its prospective changes
are discarded when the call fails. -/
theorem execute_error_overlay {ops : Backend B ε T R} {backend : B}
    {overlay next : OverlayedChanges} {exec : CodeExecutor R Err} {method : String}
    {callData : Bytes} {error : ExecuteError Err}
    (executed : execute ops backend overlay exec method callData = some (.error error, next)) :
    (error = .execution .codeEntryDoesNotExist ∧ next = overlay) ∨
      (∃ e, error = .executor e ∧ next = overlay.discardProspective) := by
  cases read : (Ext.new overlay backend : Ext B T R).storage ops codeKey with
  | none => simp [execute, read] at executed
  | some code =>
      cases code with
      | none =>
          rw [execute_of_no_code read] at executed
          cases executed
          exact .inl ⟨rfl, rfl⟩
      | some code =>
          rw [execute_of_code read] at executed
          obtain ⟨⟨result, final⟩, ran, finished⟩ := Option.bind_eq_some_iff.mp executed
          have committed : final.overlay.committed = overlay.committed :=
            (Ext.preserves_committed overlay.committed).run _ rfl ran
          cases result with
          | ok out => simp at finished
          | error e =>
              obtain ⟨rfl, rfl⟩ : ExecuteError.executor e = error ∧
                  final.overlay.discardProspective = next := by
                simpa using finished
              refine .inr ⟨e, rfl, ?_⟩
              simp [OverlayedChanges.discardProspective, committed]

/-- After a call that succeeded, the overlay holds no prospective change: the
call's changes have been committed. -/
theorem execute_ok_prospective {ops : Backend B ε T R} {backend : B}
    {overlay next : OverlayedChanges} {exec : CodeExecutor R Err} {method : String}
    {callData : Bytes} {result : Bytes × T}
    (executed : execute ops backend overlay exec method callData = some (.ok result, next)) :
    next.prospective = ∅ := by
  cases read : (Ext.new overlay backend : Ext B T R).storage ops codeKey with
  | none => simp [execute, read] at executed
  | some code =>
      cases code with
      | none =>
          rw [execute_of_no_code read] at executed
          cases executed
      | some code =>
          rw [execute_of_code read] at executed
          obtain ⟨⟨callResult, final⟩, -, finished⟩ := Option.bind_eq_some_iff.mp executed
          cases callResult with
          | ok out =>
              obtain ⟨transaction, -, made⟩ := Option.map_eq_some_iff.mp finished
              cases made
              exact OverlayedChanges.prospective_commitProspective _
          | error e => cases finished

/-- With a backend whose reads never fail, `execute` never panics. -/
theorem execute_isSome {ops : Backend B ε T R}
    (backendReads : ∀ backend key, ∃ value, ops.storage backend key = .ok value) (backend : B)
    (overlay : OverlayedChanges) (exec : CodeExecutor R Err) (method : String) (callData : Bytes) :
    (execute ops backend overlay exec method callData).isSome := by
  obtain ⟨code, read⟩ := Option.isSome_iff_exists.mp
    ((Ext.new overlay backend : Ext B T R).storage_isSome codeKey backendReads)
  cases code with
  | none => simp [execute_of_no_code read]
  | some code =>
      rw [execute_of_code read]
      obtain ⟨⟨result, final⟩, ran⟩ := Option.isSome_iff_exists.mp
        (Call.run_isSome (Ext.externalities ops)
          (fun ext key => Ext.storage_isSome ext key backendReads) (exec code method callData) _)
      rw [ran, Option.bind_some]
      cases result with
      | ok out => simpa using Ext.intoTransaction_isSome final
      | error e => rfl

end StateMachine
end Polkadot
