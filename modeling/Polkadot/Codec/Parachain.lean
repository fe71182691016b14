import Polkadot.Codec.Bft

/-!
# The parachain formats

`polkadot/primitives/src/parachain.rs`: parachain ids, duty rosters, candidate
receipts and the statements validators sign about candidates.  Account ids and
hashes are `H256`; the kind byte of a statement is pushed and read as a `u8`.
-/

namespace Polkadot
namespace Parachain

open Foundations Codec Slicable Primitives

/-! ## Chains and rosters -/

/-- `parachain::Id`. -/
structure Id where
  value : BitVec 32
deriving DecidableEq

/-- `Id` is encoded as its `u32`. -/
def Id.slicable : Slicable Id := wrap Id.mk Id.value u32

/-- The codec of a parachain `Id` decodes what it encodes. -/
theorem Id.lawful_slicable : Id.slicable.Lawful := (lawful_int 4).wrap fun _ => rfl

/-- A parachain `Id` encodes as its four little-endian bytes. -/
@[simp] theorem Id.slicable_encode (id : Id) :
    Id.slicable.encode id = some (encodeLE 4 id.value.toNat) := rfl

/-- `parachain::Chain`: the relay chain or a parachain. -/
inductive Chain where
  | relay
  | parachain (id : Id)
deriving DecidableEq

namespace Chain

/-- `Chain::encode`. -/
def encode : Chain → Option Bytes
  | relay => some [0]
  | parachain id => (Id.slicable.encode id).map fun idBytes => 1 :: idBytes

/-- `Chain::decode`. -/
def decode : Decoder Chain := do
  let disc ← readByte
  if disc = 0 then pure relay
  else if disc = 1 then parachain <$> Id.slicable.decode
  else failure

/-- `Slicable` of `Chain`. -/
def slicable : Slicable Chain := ⟨encode, decode⟩

/-- The codec of `Chain` decodes what it encodes. -/
theorem lawful_slicable : slicable.Lawful := by
  intro chain bytes encoded
  cases chain with
  | relay =>
      cases encoded
      exact (inverts_readByte 0).bind (Inverts.pure relay)
  | parachain id =>
      cases encoded
      exact (inverts_readByte 1).bind ((Id.lawful_slicable id _ rfl).map parachain)

/-- Every chain encodes. -/
theorem encode_isSome (chain : Chain) : (slicable.encode chain).isSome := by
  cases chain <;> rfl

end Chain

/-- `DutyRoster`: the chain each validator validates and each guarantees. -/
structure DutyRoster where
  validatorDuty : List Chain
  guarantorDuty : List Chain
deriving DecidableEq

namespace DutyRoster

/-- `DutyRoster::encode`. -/
def encode (roster : DutyRoster) : Option Bytes := do
  let validatorDuty ← (vec Chain.slicable).encode roster.validatorDuty
  let guarantorDuty ← (vec Chain.slicable).encode roster.guarantorDuty
  pure (validatorDuty ++ guarantorDuty)

/-- `DutyRoster::decode`. -/
def decode : Decoder DutyRoster := do
  let validatorDuty ← (vec Chain.slicable).decode
  let guarantorDuty ← (vec Chain.slicable).decode
  pure { validatorDuty, guarantorDuty }

/-- `Slicable` of `DutyRoster`: the validator duties, then the guarantor duties. -/
def slicable : Slicable DutyRoster := ⟨encode, decode⟩

/-- The codec of `DutyRoster` decodes what it encodes. -/
theorem lawful_slicable : slicable.Lawful := by
  intro roster bytes encoded
  simp only [slicable, encode, Option.bind_eq_bind, Option.bind_eq_some_iff, Option.pure_def,
    Option.some.injEq] at encoded
  obtain ⟨validatorDuty, validatorEncoded, guarantorDuty, guarantorEncoded, rfl⟩ := encoded
  exact (Chain.lawful_slicable.vec _ _ validatorEncoded).bind
    ((Chain.lawful_slicable.vec _ _ guarantorEncoded).bind_pure _)

/-- A duty roster encodes where both its lists are shorter than `2 ^ 32`. -/
theorem encode_isSome {roster : DutyRoster} (validatorShort : roster.validatorDuty.length < lengthLimit)
    (guarantorShort : roster.guarantorDuty.length < lengthLimit) :
    (slicable.encode roster).isSome := by
  obtain ⟨validatorDuty, validatorEncoded⟩ := Option.isSome_iff_exists.mp
    (vec_encode_isSome validatorShort fun chain _ => Chain.encode_isSome chain)
  obtain ⟨guarantorDuty, guarantorEncoded⟩ := Option.isSome_iff_exists.mp
    (vec_encode_isSome guarantorShort fun chain _ => Chain.encode_isSome chain)
  simp [slicable, encode, validatorEncoded, guarantorEncoded]

end DutyRoster

/-! ## Candidates -/

/-- `HeadData`: the head of a parachain block, encoded as its `Vec<u8>`. -/
structure HeadData where
  bytes : Bytes
deriving DecidableEq

/-- `CandidateReceipt`; the collator is an `AccountId`, which is an `H256`. -/
structure CandidateReceipt where
  parachainIndex : Id
  collator : H256
  headData : HeadData
  balanceUploads : List (H256 × BitVec 64)
  egressQueueRoots : List (Id × H256)
  fees : BitVec 64
deriving DecidableEq

namespace CandidateReceipt

/-- The codec of `balance_uploads`, `Vec<(AccountId, u64)>`. -/
def balanceUploadsSlicable : Slicable (List (H256 × BitVec 64)) := vec (pair H256.slicable u64)

/-- The codec of `egress_queue_roots`, `Vec<(Id, Hash)>`. -/
def egressQueueRootsSlicable : Slicable (List (Id × H256)) := vec (pair Id.slicable H256.slicable)

/-- `CandidateReceipt::encode`. -/
def encode (receipt : CandidateReceipt) : Option Bytes := do
  let parachainIndex ← Id.slicable.encode receipt.parachainIndex
  let collator ← H256.slicable.encode receipt.collator
  let headData ← byteVec.encode receipt.headData.bytes
  let balanceUploads ← balanceUploadsSlicable.encode receipt.balanceUploads
  let egressQueueRoots ← egressQueueRootsSlicable.encode receipt.egressQueueRoots
  let fees ← u64.encode receipt.fees
  pure (parachainIndex ++ collator ++ headData ++ balanceUploads ++ egressQueueRoots ++ fees)

/-- `CandidateReceipt::decode`. -/
def decode : Decoder CandidateReceipt := do
  let parachainIndex ← Id.slicable.decode
  let collator ← H256.slicable.decode
  let headData ← HeadData.mk <$> byteVec.decode
  let balanceUploads ← balanceUploadsSlicable.decode
  let egressQueueRoots ← egressQueueRootsSlicable.decode
  let fees ← u64.decode
  pure { parachainIndex, collator, headData, balanceUploads, egressQueueRoots, fees }

/-- `Slicable` of `CandidateReceipt`. -/
def slicable : Slicable CandidateReceipt := ⟨encode, decode⟩

/-- The codec of `CandidateReceipt` decodes what it encodes. -/
theorem lawful_slicable : slicable.Lawful := by
  intro receipt bytes encoded
  simp only [slicable, encode, Option.bind_eq_bind, Option.bind_eq_some_iff, Option.pure_def,
    Option.some.injEq] at encoded
  obtain ⟨parachainIndex, indexEncoded, collator, collatorEncoded, headData, headEncoded,
    balanceUploads, uploadsEncoded, egressQueueRoots, egressEncoded, fees, feesEncoded, rfl⟩ :=
    encoded
  have uploadsLawful : balanceUploadsSlicable.Lawful :=
    (H256.lawful_slicable.pair (lawful_int 8)).vec
  have egressLawful : egressQueueRootsSlicable.Lawful :=
    (Id.lawful_slicable.pair H256.lawful_slicable).vec
  simp only [List.append_assoc]
  exact (Id.lawful_slicable _ _ indexEncoded).bind ((H256.lawful_slicable _ _ collatorEncoded).bind
    (((lawful_byteVec _ _ headEncoded).map HeadData.mk).bind
      ((uploadsLawful _ _ uploadsEncoded).bind ((egressLawful _ _ egressEncoded).bind
        ((lawful_int 8 _ _ feesEncoded).bind_pure _)))))

/-- A candidate receipt encodes where its head data, balance uploads and egress roots are each
shorter than `2 ^ 32`. -/
theorem encode_isSome {receipt : CandidateReceipt}
    (headShort : receipt.headData.bytes.length < lengthLimit)
    (uploadsShort : receipt.balanceUploads.length < lengthLimit)
    (egressShort : receipt.egressQueueRoots.length < lengthLimit) :
    (slicable.encode receipt).isSome := by
  have uploadsEncode : (balanceUploadsSlicable.encode receipt.balanceUploads).isSome :=
    vec_encode_isSome uploadsShort fun _ _ => rfl
  have egressEncode : (egressQueueRootsSlicable.encode receipt.egressQueueRoots).isSome :=
    vec_encode_isSome egressShort fun _ _ => rfl
  obtain ⟨balanceUploads, uploadsEncoded⟩ := Option.isSome_iff_exists.mp uploadsEncode
  obtain ⟨egressQueueRoots, egressEncoded⟩ := Option.isSome_iff_exists.mp egressEncode
  simp [slicable, encode, byteVec, headShort, uploadsEncoded, egressEncoded]

/-! ## Order -/

/-- `Ord for Vec<u8>`: lexicographic, a prefix before its extensions. -/
def compareBytes : Bytes → Bytes → Ordering
  | [], [] => .eq
  | [], _ :: _ => .lt
  | _ :: _, [] => .gt
  | first :: rest, first' :: rest' => (compare first first').then (compareBytes rest rest')

/-- `Ord for CandidateReceipt`: by parachain index, then by head data.  The
collator, the balance uploads, the egress queue roots and the fees are not
compared, so receipts that differ only there compare equal. -/
def cmp (receipt other : CandidateReceipt) : Ordering :=
  (compare receipt.parachainIndex.value.toNat other.parachainIndex.value.toNat).then
    (compareBytes receipt.headData.bytes other.headData.bytes)

/-- Candidate receipts ordered by `cmp`, as their `Ord` does. -/
instance : Ord CandidateReceipt := ⟨cmp⟩

end CandidateReceipt

/-- `parachain::Statement`; `StatementKind` numbers the arms 1 to 4 in this order. -/
inductive Statement where
  | candidate (receipt : CandidateReceipt)
  | valid (hash : H256)
  | invalid (hash : H256)
  | available (hash : H256)
deriving DecidableEq

namespace Statement

/-- `Statement::encode`. -/
def encode : Statement → Option Bytes
  | candidate receipt => (CandidateReceipt.slicable.encode receipt).map fun body => 1 :: body
  | valid hash => (H256.slicable.encode hash).map fun body => 2 :: body
  | invalid hash => (H256.slicable.encode hash).map fun body => 3 :: body
  | available hash => (H256.slicable.encode hash).map fun body => 4 :: body

/-- `Statement::decode`. -/
def decode : Decoder Statement := do
  let kind ← readByte
  if kind = 1 then candidate <$> CandidateReceipt.slicable.decode
  else if kind = 2 then valid <$> H256.slicable.decode
  else if kind = 3 then invalid <$> H256.slicable.decode
  else if kind = 4 then available <$> H256.slicable.decode
  else failure

/-- `Slicable` of `Statement`. -/
def slicable : Slicable Statement := ⟨encode, decode⟩

/-- The codec of `Statement` decodes what it encodes. -/
theorem lawful_slicable : slicable.Lawful := by
  intro statement bytes encoded
  cases statement with
  | candidate receipt =>
      cases body : CandidateReceipt.slicable.encode receipt with
      | none => simp [slicable, encode, body] at encoded
      | some receiptBytes =>
          simp only [slicable, encode, body, Option.map_some, Option.some.injEq] at encoded
          subst encoded
          exact (inverts_readByte 1).bind
            ((CandidateReceipt.lawful_slicable _ _ body).map candidate)
  | valid hash =>
      cases encoded
      exact (inverts_readByte 2).bind ((H256.lawful_slicable hash _ rfl).map valid)
  | invalid hash =>
      cases encoded
      exact (inverts_readByte 3).bind ((H256.lawful_slicable hash _ rfl).map invalid)
  | available hash =>
      cases encoded
      exact (inverts_readByte 4).bind ((H256.lawful_slicable hash _ rfl).map available)

/-- A statement encodes where the receipt of a candidate statement does. -/
theorem encode_isSome {statement : Statement}
    (receiptEncodes : ∀ receipt, statement = candidate receipt →
      (CandidateReceipt.slicable.encode receipt).isSome) :
    (slicable.encode statement).isSome := by
  cases statement with
  | candidate receipt =>
      obtain ⟨receiptBytes, receiptEncoded⟩ := Option.isSome_iff_exists.mp
        (receiptEncodes receipt rfl)
      simp [slicable, encode, receiptEncoded]
  | valid hash => rfl
  | invalid hash => rfl
  | available hash => rfl

end Statement

end Parachain
end Polkadot
