import Polkadot.Codec.Generic
import Polkadot.Codec.Parachain

/-!
# Every format of the codec

A code names a type built from the implementations of `Slicable`: the words,
the generic collections, sums and products of `codec/src/slicable.rs`, and the
hand-written formats of the runtime and of the parachains over them.  A tuple
is a right-nested pair, which is written and read the same way, and `Box<T>`
is its content.  Every code gets its implementation by composing those of its
parts, and every value whose collections fit their `u32` length is encoded and
read back from its encoding followed by anything.
-/

namespace Polkadot
namespace Codec

open Foundations Slicable Primitives Primitives.Generic Parachain

/-- The types built from the implementations of `Slicable`. -/
inductive Code where
  | int (width : Nat)
  | bool
  | byteArray (length : Nat)
  | array (length : Nat) (item : Code)
  | byteVec
  | vec (item : Code)
  | option (item : Code)
  | optionBool
  | result (ok err : Code)
  | box (item : Code)
  | unit
  | pair (first second : Code)
  | extrinsic (address index call : Code)
  | uncheckedExtrinsic (address index call signature : Code)
  | digest (item : Code)
  | header (number hash item : Code)
  | block (header extrinsic : Code)
  | signedBlock (header extrinsic hash : Code)
  | action (block hash : Code)
  | message (block hash : Code)
  | justification (hash : Code)
  | misbehaviorReport (hash number : Code)
  | chain
  | dutyRoster
  | candidateReceipt
  | statement
deriving DecidableEq

namespace Code

/-- The type a code names. -/
def El : Code → Type
  | int width => BitVec (8 * width)
  | bool => Bool
  | byteArray length => Vector UInt8 length
  | array length item => Vector item.El length
  | byteVec => Bytes
  | vec item => List item.El
  | option item => Option item.El
  | optionBool => Option Bool
  | result ok err => Except err.El ok.El
  | box item => item.El
  | unit => Unit
  | pair first second => first.El × second.El
  | extrinsic address index call => Extrinsic address.El index.El call.El
  | uncheckedExtrinsic address index call signature =>
      UncheckedExtrinsic address.El index.El call.El signature.El
  | digest item => Digest item.El
  | header number hash item => Header number.El hash.El item.El
  | block head body => Block head.El body.El
  | signedBlock head body hash => SignedBlock head.El body.El hash.El
  | action proposal hash => Action proposal.El hash.El
  | message proposal hash => Message proposal.El hash.El
  | justification hash => Justification hash.El
  | misbehaviorReport hash number => MisbehaviorReport hash.El number.El
  | chain => Chain
  | dutyRoster => DutyRoster
  | candidateReceipt => CandidateReceipt
  | statement => Statement

/-- The implementation of `Slicable` for the type a code names. -/
def slicable : (code : Code) → Slicable code.El
  | int width => Slicable.int width
  | bool => Slicable.bool
  | byteArray length => Slicable.byteArray length
  | array length item => Slicable.array length item.slicable
  | byteVec => Slicable.byteVec
  | vec item => Slicable.vec item.slicable
  | option item => Slicable.option item.slicable
  | optionBool => Slicable.optionBool
  | result ok err => Slicable.result ok.slicable err.slicable
  | box item => item.slicable
  | unit => Slicable.unit
  | pair first second => Slicable.pair first.slicable second.slicable
  | extrinsic address index call => Extrinsic.slicable address.slicable index.slicable call.slicable
  | uncheckedExtrinsic address index call signature =>
      UncheckedExtrinsic.slicable (Extrinsic.slicable address.slicable index.slicable call.slicable)
        signature.slicable
  | digest item => Digest.slicable item.slicable
  | header number hash item => Header.slicable number.slicable hash.slicable item.slicable
  | block head body => Block.slicable head.slicable body.slicable
  | signedBlock head body hash =>
      SignedBlock.slicable head.slicable body.slicable hash.slicable
  | action proposal hash => Action.slicable proposal.slicable hash.slicable
  | message proposal hash => Message.slicable proposal.slicable hash.slicable
  | justification hash => Justification.slicable hash.slicable
  | misbehaviorReport hash number => MisbehaviorReport.slicable hash.slicable number.slicable
  | chain => Chain.slicable
  | dutyRoster => DutyRoster.slicable
  | candidateReceipt => CandidateReceipt.slicable
  | statement => Statement.slicable

/-- The collections inside a candidate receipt fit a `u32` length. -/
def receiptBounded (receipt : CandidateReceipt) : Prop :=
  receipt.headData.bytes.length < lengthLimit ∧ receipt.balanceUploads.length < lengthLimit ∧
    receipt.egressQueueRoots.length < lengthLimit

/-- Every collection inside the value has fewer than `2 ^ 32` elements: the
encoders assert it before writing a length as a `u32`. -/
def Bounded : (code : Code) → code.El → Prop
  | int _, _ => True
  | bool, _ => True
  | byteArray _, _ => True
  | array _ item, items => ∀ value ∈ items.toList, item.Bounded value
  | byteVec, bytes => bytes.length < lengthLimit
  | vec item, (items : List item.El) =>
      items.length < lengthLimit ∧ ∀ value ∈ items, item.Bounded value
  | option item, (value : Option item.El) => ∀ inner ∈ value, item.Bounded inner
  | optionBool, _ => True
  | result ok err, (value : Except err.El ok.El) =>
      (∀ inner, value = .ok inner → ok.Bounded inner) ∧
        ∀ error, value = .error error → err.Bounded error
  | box item, value => item.Bounded value
  | unit, _ => True
  | pair first second, value => first.Bounded value.1 ∧ second.Bounded value.2
  | extrinsic address index call, value =>
      address.Bounded value.signed ∧ index.Bounded value.index ∧ call.Bounded value.function
  | uncheckedExtrinsic address index call signature, value =>
      (address.Bounded value.extrinsic.signed ∧ index.Bounded value.extrinsic.index ∧
        call.Bounded value.extrinsic.function) ∧ signature.Bounded value.signature
  | digest item, value =>
      value.logs.length < lengthLimit ∧ ∀ log ∈ value.logs, item.Bounded log
  | header number hash item, value =>
      hash.Bounded value.parentHash ∧ number.Bounded value.number ∧
        hash.Bounded value.stateRoot ∧ hash.Bounded value.extrinsicsRoot ∧
        value.digest.logs.length < lengthLimit ∧ ∀ log ∈ value.digest.logs, item.Bounded log
  | block head body, value =>
      head.Bounded value.header ∧ value.extrinsics.length < lengthLimit ∧
        ∀ item ∈ value.extrinsics, body.Bounded item
  | signedBlock head body hash, value =>
      (head.Bounded value.block.header ∧ value.block.extrinsics.length < lengthLimit ∧
        ∀ item ∈ value.block.extrinsics, body.Bounded item) ∧
      hash.Bounded value.justification.hash ∧
        value.justification.signatures.length < lengthLimit
  | action proposal hash, value => Action.All proposal.Bounded hash.Bounded value
  | message proposal hash, value =>
      hash.Bounded value.parent ∧ value.action.All proposal.Bounded hash.Bounded
  | justification hash, value =>
      hash.Bounded value.hash ∧ value.signatures.length < lengthLimit
  | misbehaviorReport hash number, value =>
      hash.Bounded value.parentHash ∧ number.Bounded value.parentNumber ∧
        hash.Bounded value.misbehavior.votes.2.1.1 ∧ hash.Bounded value.misbehavior.votes.2.2.1
  | chain, _ => True
  | dutyRoster, value =>
      value.validatorDuty.length < lengthLimit ∧ value.guarantorDuty.length < lengthLimit
  | candidateReceipt, value => receiptBounded value
  | statement, (value : Statement) =>
      ∀ receipt, value = .candidate receipt → receiptBounded receipt

/-- Every implementation reads back what it writes. -/
theorem lawful_slicable : (code : Code) → code.slicable.Lawful
  | int width => lawful_int width
  | bool => lawful_bool
  | byteArray length => lawful_byteArray length
  | array length item => (lawful_slicable item).array length
  | byteVec => lawful_byteVec
  | vec item => (lawful_slicable item).vec
  | option item => (lawful_slicable item).option
  | optionBool => lawful_optionBool
  | result ok err => (lawful_slicable ok).result (lawful_slicable err)
  | box item => lawful_slicable item
  | unit => lawful_unit
  | pair first second => (lawful_slicable first).pair (lawful_slicable second)
  | extrinsic address index call =>
      Extrinsic.lawful_slicable (lawful_slicable address) (lawful_slicable index)
        (lawful_slicable call)
  | uncheckedExtrinsic address index call signature =>
      UncheckedExtrinsic.lawful_slicable
        (Extrinsic.lawful_slicable (lawful_slicable address) (lawful_slicable index)
          (lawful_slicable call))
        (lawful_slicable signature)
  | digest item => Digest.lawful_slicable (lawful_slicable item)
  | header number hash item =>
      Header.lawful_slicable (lawful_slicable number) (lawful_slicable hash) (lawful_slicable item)
  | block head body => Block.lawful_slicable (lawful_slicable head) (lawful_slicable body)
  | signedBlock head body hash =>
      SignedBlock.lawful_slicable (lawful_slicable head) (lawful_slicable body)
        (lawful_slicable hash)
  | action proposal hash =>
      Action.lawful_slicable (lawful_slicable proposal) (lawful_slicable hash)
  | message proposal hash =>
      Message.lawful_slicable (lawful_slicable proposal) (lawful_slicable hash)
  | justification hash => Justification.lawful_slicable (lawful_slicable hash)
  | misbehaviorReport hash number =>
      MisbehaviorReport.lawful_slicable (lawful_slicable hash) (lawful_slicable number)
  | chain => Chain.lawful_slicable
  | dutyRoster => DutyRoster.lawful_slicable
  | candidateReceipt => CandidateReceipt.lawful_slicable
  | statement => Statement.lawful_slicable

/-- A value whose collections fit their lengths is encoded without a panic. -/
theorem encode_isSome_of_bounded : (code : Code) → (value : code.El) → code.Bounded value →
    (code.slicable.encode value).isSome
  | int _, _, _ => rfl
  | bool, _, _ => rfl
  | byteArray _, _, _ => rfl
  | array _ item, items, bounded =>
      array_encode_isSome fun value member =>
        encode_isSome_of_bounded item value (bounded value member)
  | byteVec, _, bounded => byteVec_encode_isSome bounded
  | vec item, items, bounded =>
      vec_encode_isSome bounded.1 fun value member =>
        encode_isSome_of_bounded item value (bounded.2 value member)
  | option item, value, bounded =>
      option_encode_isSome fun inner member =>
        encode_isSome_of_bounded item inner (bounded inner member)
  | optionBool, value, _ => by cases value with
      | none => rfl
      | some flag => cases flag <;> rfl
  | result ok err, value, bounded =>
      result_encode_isSome
        (fun inner isOk => encode_isSome_of_bounded ok inner (bounded.1 inner isOk))
        (fun error isError => encode_isSome_of_bounded err error (bounded.2 error isError))
  | box item, value, bounded => encode_isSome_of_bounded item value bounded
  | unit, _, _ => rfl
  | pair first second, value, bounded =>
      pair_encode_isSome (encode_isSome_of_bounded first value.1 bounded.1)
        (encode_isSome_of_bounded second value.2 bounded.2)
  | extrinsic address index call, value, bounded =>
      Extrinsic.encode_isSome (encode_isSome_of_bounded address _ bounded.1)
        (encode_isSome_of_bounded index _ bounded.2.1)
        (encode_isSome_of_bounded call _ bounded.2.2)
  | uncheckedExtrinsic address index call signature, value, bounded =>
      UncheckedExtrinsic.encode_isSome
        (Extrinsic.encode_isSome (encode_isSome_of_bounded address _ bounded.1.1)
          (encode_isSome_of_bounded index _ bounded.1.2.1)
          (encode_isSome_of_bounded call _ bounded.1.2.2))
        (encode_isSome_of_bounded signature _ bounded.2)
  | digest item, value, bounded =>
      vec_encode_isSome bounded.1 fun log member =>
        encode_isSome_of_bounded item log (bounded.2 log member)
  | header number hash item, value, bounded =>
      Header.encode_isSome (encode_isSome_of_bounded hash _ bounded.1)
        (encode_isSome_of_bounded number _ bounded.2.1)
        (encode_isSome_of_bounded hash _ bounded.2.2.1)
        (encode_isSome_of_bounded hash _ bounded.2.2.2.1)
        (vec_encode_isSome bounded.2.2.2.2.1 fun log member =>
          encode_isSome_of_bounded item log (bounded.2.2.2.2.2 log member))
  | block head body, value, bounded =>
      Block.encode_isSome (encode_isSome_of_bounded head _ bounded.1)
        (vec_encode_isSome bounded.2.1 fun item member =>
          encode_isSome_of_bounded body item (bounded.2.2 item member))
  | signedBlock head body hash, value, bounded =>
      SignedBlock.encode_isSome
        (Block.encode_isSome (encode_isSome_of_bounded head _ bounded.1.1)
          (vec_encode_isSome bounded.1.2.1 fun item member =>
            encode_isSome_of_bounded body item (bounded.1.2.2 item member)))
        (Justification.encode_isSome (encode_isSome_of_bounded hash _ bounded.2.1) bounded.2.2)
  | action proposal hash, value, bounded =>
      Action.encode_isSome (Action.All.imp (encode_isSome_of_bounded proposal)
        (encode_isSome_of_bounded hash) bounded)
  | message proposal hash, value, bounded =>
      Message.encode_isSome (encode_isSome_of_bounded hash _ bounded.1)
        (Action.encode_isSome (Action.All.imp (encode_isSome_of_bounded proposal)
          (encode_isSome_of_bounded hash) bounded.2))
  | justification hash, value, bounded =>
      Justification.encode_isSome (encode_isSome_of_bounded hash _ bounded.1) bounded.2
  | misbehaviorReport hash number, value, bounded =>
      MisbehaviorReport.encode_isSome (encode_isSome_of_bounded hash _ bounded.1)
        (encode_isSome_of_bounded number _ bounded.2.1)
        (MisbehaviorKind.encode_isSome (encode_isSome_of_bounded hash _ bounded.2.2.1)
          (encode_isSome_of_bounded hash _ bounded.2.2.2))
  | chain, value, _ => Chain.encode_isSome value
  | dutyRoster, value, bounded => DutyRoster.encode_isSome bounded.1 bounded.2
  | candidateReceipt, value, bounded =>
      CandidateReceipt.encode_isSome bounded.1 bounded.2.1 bounded.2.2
  | statement, value, bounded =>
      Statement.encode_isSome fun receipt isCandidate =>
        CandidateReceipt.encode_isSome (bounded receipt isCandidate).1
          (bounded receipt isCandidate).2.1 (bounded receipt isCandidate).2.2

/-- The round trip of the codec: a value of any of its formats whose
collections fit their `u32` lengths is encoded, and decoding its encoding
followed by any bytes gives the value back and leaves exactly those bytes. -/
theorem slicable_roundTrip (code : Code) (value : code.El) (bounded : code.Bounded value) :
    ∃ bytes, code.slicable.encode value = some bytes ∧
      ∀ rest, code.slicable.decode.run (bytes ++ rest) = some (value, rest) := by
  obtain ⟨bytes, encoded⟩ := Option.isSome_iff_exists.mp (encode_isSome_of_bounded code value bounded)
  exact ⟨bytes, encoded, lawful_slicable code value bytes encoded⟩

/-- A vector of one `u32` is written and read back. -/
theorem slicable_roundTrip_vec_u32 :
    (vec (int 4)).Bounded ([7#32] : List (BitVec 32)) ∧
      ∃ bytes, (vec (int 4)).slicable.encode ([7#32] : List (BitVec 32)) = some bytes ∧
        ∀ rest, (vec (int 4)).slicable.decode.run (bytes ++ rest) =
          some (([7#32] : List (BitVec 32)), rest) := by
  have bounded : (vec (int 4)).Bounded ([7#32] : List (BitVec 32)) :=
    ⟨by decide, fun _ _ => trivial⟩
  exact ⟨bounded, slicable_roundTrip (vec (int 4)) [7#32] bounded⟩

end Code

end Codec
end Polkadot
