import Polkadot.StateMachine.Execute
import Polkadot.Codec.Generic

/-!
# Building a block

`client/src/block_builder.rs`: a builder starts on the state of a parent
block, with a header one past it that the runtime initialises the block with.
It executes each extrinsic pushed onto it and keeps the extrinsic when it
applies.  When it bakes, the runtime finalises the block and returns its
header.  Every call goes through `CallExecutor::call_at_state`, which
`LocalCallExecutor` implements by `state_machine::execute`
(`localCallExecutor`).

A push that fails keeps the builder's extrinsics (`push_cases`).  Under the
local executor a builder holds no prospective change after every call that
succeeded, and a failed push then leaves it exactly as it was
(`Committed.push`).
-/

namespace Polkadot
namespace Client

open Foundations (Bytes)
open StateMachine (OverlayedChanges)
open Primitives.Generic (Header Block Digest)

/-- `CallExecutor::call_at_state` on the state of the parent block: the output
and the transaction of the method, or its error, with the changes after the
call; `none` if the call panicked. -/
abbrev CallAtState (ε T : Type) :=
  OverlayedChanges → String → Bytes → Option (Except ε (Bytes × T) × OverlayedChanges)

/-- `LocalCallExecutor::call_at_state`: `state_machine::execute` on the state. -/
def localCallExecutor {B εB T R Err : Type} (ops : StateMachine.Backend B εB T R) (state : B)
    (exec : StateMachine.CodeExecutor R Err) : CallAtState (StateMachine.ExecuteError Err) T :=
  fun changes method callData => StateMachine.execute ops state changes exec method callData

/-- The errors of the builder: the parent block is unknown, or a call failed. -/
inductive Error (ε : Type) where
  | unknownBlock
  | execution (error : ε)

/-- The codecs the builder uses: `Slicable::encode` of a header and of an
extrinsic, and `Slicable::decode` of a header. -/
structure BlockFormat (Header Extrinsic : Type) where
  encodeHeader : Header → Bytes
  decodeHeader : Bytes → Option Header
  encodeExtrinsic : Extrinsic → Bytes

/-- `BlockBuilder`: the header so far, the extrinsics that applied, and the
changes the calls made on the parent state. -/
structure BlockBuilder (Header Extrinsic : Type) where
  header : Header
  extrinsics : List Extrinsic
  changes : OverlayedChanges

namespace BlockBuilder

variable {Number Hash Item Extrinsic ε T : Type}
variable (executor : CallAtState ε T) (format : BlockFormat (Header Number Hash Item) Extrinsic)

/-- `BlockBuilder::at_block`: a builder on the block with the number and hash
the client finds for it (`none` for an unknown block), once the runtime has
initialised the block with `Header::new(number + 1, Default::default(),
Default::default(), parent_hash, Default::default())`. -/
def atBlock [Inhabited Hash] [Add Number] [One Number] (parent : Option (Number × Hash)) :
    Option (Except (Error ε) (BlockBuilder (Header Number Hash Item) Extrinsic)) :=
  match parent with
  | none => some (.error .unknownBlock)
  | some (number, parentHash) =>
      let header : Header Number Hash Item :=
        { parentHash, number := number + 1, stateRoot := default, extrinsicsRoot := default,
          digest := ⟨[]⟩ }
      (executor OverlayedChanges.empty "initialise_block" (format.encodeHeader header)).map fun
        | (.ok _, changes) => .ok { header, extrinsics := [], changes }
        | (.error e, _) => .error (.execution e)

/-- `BlockBuilder::push`: the extrinsic is executed on the changes so far and
kept when it applies; when it fails, the builder discards the prospective
changes. -/
def push (builder : BlockBuilder (Header Number Hash Item) Extrinsic) (xt : Extrinsic) :
    Option (Except (Error ε) Unit × BlockBuilder (Header Number Hash Item) Extrinsic) :=
  (executor builder.changes "apply_extrinsic" (format.encodeExtrinsic xt)).map fun
    | (.ok _, changes) => (.ok (), { builder with extrinsics := builder.extrinsics ++ [xt], changes })
    | (.error e, changes) =>
        (.error (.execution e), { builder with changes := changes.discardProspective })

/-- `BlockBuilder::bake`: the runtime finalises the block, and the header it
returns is decoded, which panics when it does not decode.  The
`debug_assert_eq!` on the extrinsics root is not part of release builds. -/
def bake (builder : BlockBuilder (Header Number Hash Item) Extrinsic) :
    Option (Except (Error ε) (Block (Header Number Hash Item) Extrinsic)) :=
  (executor builder.changes "finalise_block" []).bind fun
    | (.ok (output, _), _) =>
        (format.decodeHeader output).map fun header => .ok ⟨header, builder.extrinsics⟩
    | (.error e, _) => some (.error (.execution e))

/-! ## What each call does to the builder -/

/-- A block builder started at a block holds no extrinsics yet. -/
theorem atBlock_extrinsics [Inhabited Hash] [Add Number] [One Number]
    {parent : Option (Number × Hash)} {builder : BlockBuilder (Header Number Hash Item) Extrinsic}
    (started : atBlock executor format parent = some (.ok builder)) : builder.extrinsics = [] := by
  unfold atBlock at started
  obtain _ | ⟨number, parentHash⟩ := parent
  · cases started
  · obtain ⟨⟨result, changes⟩, -, made⟩ := Option.map_eq_some_iff.mp started
    cases result with
    | ok => cases made; rfl
    | error => cases made

/-- A push keeps the header; it appends the extrinsic when it applies and
keeps the extrinsics when it fails. -/
theorem push_cases {builder next : BlockBuilder (Header Number Hash Item) Extrinsic}
    {xt : Extrinsic} {result : Except (Error ε) Unit}
    (pushed : push executor format builder xt = some (result, next)) :
    next.header = builder.header ∧
      ((result = .ok () ∧ next.extrinsics = builder.extrinsics ++ [xt]) ∨
        (∃ e, result = .error e ∧ next.extrinsics = builder.extrinsics)) := by
  obtain ⟨⟨callResult, changes⟩, -, made⟩ := Option.map_eq_some_iff.mp pushed
  cases callResult with
  | ok => cases made; exact ⟨rfl, .inl ⟨rfl, rfl⟩⟩
  | error e => cases made; exact ⟨rfl, .inr ⟨_, rfl, rfl⟩⟩

/-- The block the builder bakes holds the extrinsics pushed onto it. -/
theorem bake_extrinsics {builder : BlockBuilder (Header Number Hash Item) Extrinsic}
    {block : Block (Header Number Hash Item) Extrinsic}
    (baked : bake executor format builder = some (.ok block)) :
    block.extrinsics = builder.extrinsics := by
  obtain ⟨⟨callResult, changes⟩, -, made⟩ := Option.bind_eq_some_iff.mp baked
  cases callResult with
  | ok out =>
      obtain ⟨header, -, made⟩ := Option.map_eq_some_iff.mp made
      cases made
      rfl
  | error e => cases made

/-! ## Under the local executor -/

/-- Under the local executor a failed push leaves the builder with its
prospective changes discarded, whichever way `execute` failed. -/
theorem push_error_of_local {B εB R Err : Type} {ops : StateMachine.Backend B εB T R} {state : B}
    {exec : StateMachine.CodeExecutor R Err}
    {builder next : BlockBuilder (Header Number Hash Item) Extrinsic} {xt : Extrinsic}
    {e : Error (StateMachine.ExecuteError Err)}
    (pushed : push (localCallExecutor ops state exec) format builder xt = some (.error e, next)) :
    next = { builder with changes := builder.changes.discardProspective } := by
  obtain ⟨⟨callResult, changes⟩, executed, made⟩ := Option.map_eq_some_iff.mp pushed
  cases callResult with
  | ok => cases made
  | error failure =>
      cases made
      -- `execute` itself left the overlay as it was or discarded its prospective changes
      rcases StateMachine.execute_error_overlay executed with ⟨-, rfl⟩ | ⟨-, -, rfl⟩ <;> rfl

/-- The builder holds no prospective change: what its calls changed has been
committed. -/
def Committed (builder : BlockBuilder (Header Number Hash Item) Extrinsic) : Prop :=
  builder.changes.prospective = ∅

section Local

variable {B εB R Err : Type} {ops : StateMachine.Backend B εB T R} {state : B}
  {exec : StateMachine.CodeExecutor R Err}

/-- A block builder started over the local executor has its changes committed. -/
theorem committed_atBlock_of_local [Inhabited Hash] [Add Number] [One Number]
    {parent : Option (Number × Hash)} {builder : BlockBuilder (Header Number Hash Item) Extrinsic}
    (started : atBlock (localCallExecutor ops state exec) format parent = some (.ok builder)) :
    builder.Committed := by
  unfold atBlock at started
  obtain _ | ⟨number, parentHash⟩ := parent
  · cases started
  · obtain ⟨⟨result, changes⟩, executed, made⟩ := Option.map_eq_some_iff.mp started
    cases result with
    | ok => cases made; exact StateMachine.execute_ok_prospective executed
    | error => cases made

/-- Under the local executor a push that fails leaves a builder without
prospective changes as it was, and one that applies commits its changes. -/
theorem Committed.push {builder next : BlockBuilder (Header Number Hash Item) Extrinsic}
    {xt : Extrinsic} {result : Except (Error (StateMachine.ExecuteError Err)) Unit}
    (committed : builder.Committed)
    (pushed : push (localCallExecutor ops state exec) format builder xt = some (result, next)) :
    next.Committed ∧ (∀ e, result = .error e → next = builder) := by
  cases result with
  | ok =>
      obtain ⟨⟨callResult, changes⟩, executed, made⟩ := Option.map_eq_some_iff.mp pushed
      cases callResult with
      | ok => cases made; exact ⟨StateMachine.execute_ok_prospective executed, nofun⟩
      | error => cases made
  | error e =>
      have unchanged : next = builder := by
        rw [push_error_of_local format pushed]
        obtain ⟨header, extrinsics, ⟨prospective, committedChanges⟩⟩ := builder
        cases committed
        rfl
      exact ⟨unchanged ▸ committed, fun _ _ => unchanged⟩

end Local

end BlockBuilder

end Client
end Polkadot
