import Polkadot.Codec.Bft

/-!
# The generic block formats of the runtime

`runtime/primitives/src/generic.rs`: extrinsics, digests, headers and blocks,
generic in the types they carry.  An unchecked extrinsic is written behind a
four-byte placeholder that is patched afterwards with the length of what
follows it, cut to a `u32`; its decoder reads that length and ignores it.
-/

namespace Polkadot
namespace Primitives
namespace Generic

open Foundations Codec Slicable

/-! ## Extrinsics -/

/-- `generic::Extrinsic`. -/
structure Extrinsic (Address Index Call : Type) where
  signed : Address
  index : Index
  function : Call
deriving DecidableEq

namespace Extrinsic

variable {Address Index Call : Type}

/-- `Extrinsic::encode`. -/
def encode (address : Slicable Address) (index : Slicable Index) (call : Slicable Call)
    (extrinsic : Extrinsic Address Index Call) : Option Bytes := do
  let signed ← address.encode extrinsic.signed
  let indexBytes ← index.encode extrinsic.index
  let function ← call.encode extrinsic.function
  pure (signed ++ indexBytes ++ function)

/-- `Extrinsic::decode`. -/
def decode (address : Slicable Address) (index : Slicable Index) (call : Slicable Call) :
    Decoder (Extrinsic Address Index Call) := do
  let signed ← address.decode
  let indexValue ← index.decode
  let function ← call.decode
  pure { signed, index := indexValue, function }

/-- `Slicable` of `Extrinsic`: its signer, its index and its call. -/
def slicable (address : Slicable Address) (index : Slicable Index) (call : Slicable Call) :
    Slicable (Extrinsic Address Index Call) :=
  ⟨encode address index call, decode address index call⟩

/-- The codec of `Extrinsic` decodes what it encodes, where those of its parts do. -/
theorem lawful_slicable {address : Slicable Address} {index : Slicable Index}
    {call : Slicable Call} (addressLawful : address.Lawful) (indexLawful : index.Lawful)
    (callLawful : call.Lawful) : (slicable address index call).Lawful := by
  intro extrinsic bytes encoded
  simp only [slicable, encode, Option.bind_eq_bind, Option.bind_eq_some_iff, Option.pure_def,
    Option.some.injEq] at encoded
  obtain ⟨signed, signedEncoded, indexBytes, indexEncoded, function, functionEncoded, rfl⟩ :=
    encoded
  rw [List.append_assoc]
  exact (addressLawful _ _ signedEncoded).bind ((indexLawful _ _ indexEncoded).bind
    ((callLawful _ _ functionEncoded).bind_pure _))

/-- An extrinsic encodes where its signer, its index and its call do. -/
theorem encode_isSome {address : Slicable Address} {index : Slicable Index}
    {call : Slicable Call} {extrinsic : Extrinsic Address Index Call}
    (signedEncodes : (address.encode extrinsic.signed).isSome)
    (indexEncodes : (index.encode extrinsic.index).isSome)
    (functionEncodes : (call.encode extrinsic.function).isSome) :
    ((slicable address index call).encode extrinsic).isSome := by
  obtain ⟨signed, signedEncoded⟩ := Option.isSome_iff_exists.mp signedEncodes
  obtain ⟨indexBytes, indexEncoded⟩ := Option.isSome_iff_exists.mp indexEncodes
  obtain ⟨function, functionEncoded⟩ := Option.isSome_iff_exists.mp functionEncodes
  simp [slicable, encode, signedEncoded, indexEncoded, functionEncoded]

end Extrinsic

/-- `generic::UncheckedExtrinsic`: an extrinsic and its signature. -/
structure UncheckedExtrinsic (Address Index Call Signature : Type) where
  extrinsic : Extrinsic Address Index Call
  signature : Signature
deriving DecidableEq

namespace UncheckedExtrinsic

variable {Address Index Call Signature : Type}

/-- `UncheckedExtrinsic::encode`: the placeholder is overwritten with the
number of bytes after it, `(v.len() - 4) as u32`. -/
def encode (extrinsic : Slicable (Extrinsic Address Index Call))
    (signature : Slicable Signature) (unchecked : UncheckedExtrinsic Address Index Call Signature) :
    Option Bytes := do
  let extrinsicBytes ← extrinsic.encode unchecked.extrinsic
  let signatureBytes ← signature.encode unchecked.signature
  let body := extrinsicBytes ++ signatureBytes
  let length ← u32.encode (BitVec.ofNat 32 body.length)
  pure (length ++ body)

/-- `UncheckedExtrinsic::decode`: the length is read and dropped. -/
def decode (extrinsic : Slicable (Extrinsic Address Index Call))
    (signature : Slicable Signature) : Decoder (UncheckedExtrinsic Address Index Call Signature) := do
  let _length ← u32.decode
  let extrinsicValue ← extrinsic.decode
  let signatureValue ← signature.decode
  pure ⟨extrinsicValue, signatureValue⟩

/-- `Slicable` of `UncheckedExtrinsic`: the length-prefixed extrinsic and its signature. -/
def slicable (extrinsic : Slicable (Extrinsic Address Index Call))
    (signature : Slicable Signature) : Slicable (UncheckedExtrinsic Address Index Call Signature) :=
  ⟨encode extrinsic signature, decode extrinsic signature⟩

/-- The codec of `UncheckedExtrinsic` decodes what it encodes, where those of its parts do. -/
theorem lawful_slicable {extrinsic : Slicable (Extrinsic Address Index Call)}
    {signature : Slicable Signature} (extrinsicLawful : extrinsic.Lawful)
    (signatureLawful : signature.Lawful) : (slicable extrinsic signature).Lawful := by
  intro unchecked bytes encoded
  simp only [slicable, encode, Option.bind_eq_bind, Option.bind_eq_some_iff, Option.pure_def,
    Option.some.injEq] at encoded
  obtain ⟨extrinsicBytes, extrinsicEncoded, signatureBytes, signatureEncoded, length,
    lengthEncoded, rfl⟩ := encoded
  -- whatever length was written, the decoder reads it back and moves on
  exact (lawful_int 4 _ _ lengthEncoded).bind ((extrinsicLawful _ _ extrinsicEncoded).bind
    ((signatureLawful _ _ signatureEncoded).bind_pure _))

/-- An unchecked extrinsic encodes where its extrinsic and its signature do. -/
theorem encode_isSome {extrinsic : Slicable (Extrinsic Address Index Call)}
    {signature : Slicable Signature} {unchecked : UncheckedExtrinsic Address Index Call Signature}
    (extrinsicEncodes : (extrinsic.encode unchecked.extrinsic).isSome)
    (signatureEncodes : (signature.encode unchecked.signature).isSome) :
    ((slicable extrinsic signature).encode unchecked).isSome := by
  obtain ⟨extrinsicBytes, extrinsicEncoded⟩ := Option.isSome_iff_exists.mp extrinsicEncodes
  obtain ⟨signatureBytes, signatureEncoded⟩ := Option.isSome_iff_exists.mp signatureEncodes
  simp [slicable, encode, extrinsicEncoded, signatureEncoded]

/-- The decoder does not check the length it drops: behind a length of 0 it
reads four bytes of body, where `Vec<u8>::decode` reads the length alone and
stops, and the extrinsic it returns is written back behind the length 4. -/
theorem decode_ignores_length :
    ∃ unchecked, (decode (Extrinsic.slicable i8 i8 i8) i8).run [0, 0, 0, 0, 1, 2, 3, 4] =
        some (unchecked, []) ∧
      encode (Extrinsic.slicable i8 i8 i8) i8 unchecked = some [4, 0, 0, 0, 1, 2, 3, 4] ∧
      byteVec.decode.run [0, 0, 0, 0, 1, 2, 3, 4] = some ([], [1, 2, 3, 4]) :=
  ⟨⟨⟨1#8, 2#8, 3#8⟩, 4#8⟩, rfl, rfl, rfl⟩

end UncheckedExtrinsic

/-! ## Headers and blocks -/

/-- `generic::Digest`: the log items of a header. -/
structure Digest (Item : Type) where
  logs : List Item
deriving DecidableEq

/-- `Digest` is encoded as its list of logs. -/
def Digest.slicable {Item : Type} (item : Slicable Item) : Slicable (Digest Item) :=
  wrap Digest.mk Digest.logs (vec item)

/-- The codec of `Digest` decodes what it encodes, where that of its items does. -/
theorem Digest.lawful_slicable {Item : Type} {item : Slicable Item} (lawful : item.Lawful) :
    (Digest.slicable item).Lawful :=
  lawful.vec.wrap fun _ => rfl

/-- `generic::Header`, with the output of its hashing as `Hash`. -/
structure Header (Number Hash Item : Type) where
  parentHash : Hash
  number : Number
  stateRoot : Hash
  extrinsicsRoot : Hash
  digest : Digest Item
deriving DecidableEq

namespace Header

variable {Number Hash Item : Type}

/-- `Header::encode`. -/
def encode (number : Slicable Number) (hash : Slicable Hash) (item : Slicable Item)
    (header : Header Number Hash Item) : Option Bytes := do
  let parentHash ← hash.encode header.parentHash
  let numberBytes ← number.encode header.number
  let stateRoot ← hash.encode header.stateRoot
  let extrinsicsRoot ← hash.encode header.extrinsicsRoot
  let digest ← (Digest.slicable item).encode header.digest
  pure (parentHash ++ numberBytes ++ stateRoot ++ extrinsicsRoot ++ digest)

/-- `Header::decode`. -/
def decode (number : Slicable Number) (hash : Slicable Hash) (item : Slicable Item) :
    Decoder (Header Number Hash Item) := do
  let parentHash ← hash.decode
  let numberValue ← number.decode
  let stateRoot ← hash.decode
  let extrinsicsRoot ← hash.decode
  let digest ← (Digest.slicable item).decode
  pure { parentHash, number := numberValue, stateRoot, extrinsicsRoot, digest }

/-- `Slicable` of `Header`: parent hash, number, state root, extrinsics root and digest. -/
def slicable (number : Slicable Number) (hash : Slicable Hash) (item : Slicable Item) :
    Slicable (Header Number Hash Item) :=
  ⟨encode number hash item, decode number hash item⟩

/-- The codec of `Header` decodes what it encodes, where those of its parts do. -/
theorem lawful_slicable {number : Slicable Number} {hash : Slicable Hash} {item : Slicable Item}
    (numberLawful : number.Lawful) (hashLawful : hash.Lawful) (itemLawful : item.Lawful) :
    (slicable number hash item).Lawful := by
  intro header bytes encoded
  simp only [slicable, encode, Option.bind_eq_bind, Option.bind_eq_some_iff, Option.pure_def,
    Option.some.injEq] at encoded
  obtain ⟨parentHash, parentEncoded, numberBytes, numberEncoded, stateRoot, stateEncoded,
    extrinsicsRoot, extrinsicsEncoded, digest, digestEncoded, rfl⟩ := encoded
  simp only [List.append_assoc]
  exact (hashLawful _ _ parentEncoded).bind ((numberLawful _ _ numberEncoded).bind
    ((hashLawful _ _ stateEncoded).bind ((hashLawful _ _ extrinsicsEncoded).bind
      ((Digest.lawful_slicable itemLawful _ _ digestEncoded).bind_pure _))))

/-- A header encodes where each of its parts does. -/
theorem encode_isSome {number : Slicable Number} {hash : Slicable Hash} {item : Slicable Item}
    {header : Header Number Hash Item}
    (parentEncodes : (hash.encode header.parentHash).isSome)
    (numberEncodes : (number.encode header.number).isSome)
    (stateEncodes : (hash.encode header.stateRoot).isSome)
    (extrinsicsEncodes : (hash.encode header.extrinsicsRoot).isSome)
    (digestEncodes : ((Digest.slicable item).encode header.digest).isSome) :
    ((slicable number hash item).encode header).isSome := by
  obtain ⟨parentHash, parentEncoded⟩ := Option.isSome_iff_exists.mp parentEncodes
  obtain ⟨numberBytes, numberEncoded⟩ := Option.isSome_iff_exists.mp numberEncodes
  obtain ⟨stateRoot, stateEncoded⟩ := Option.isSome_iff_exists.mp stateEncodes
  obtain ⟨extrinsicsRoot, extrinsicsEncoded⟩ := Option.isSome_iff_exists.mp extrinsicsEncodes
  obtain ⟨digest, digestEncoded⟩ := Option.isSome_iff_exists.mp digestEncodes
  simp [slicable, encode, parentEncoded, numberEncoded, stateEncoded, extrinsicsEncoded,
    digestEncoded]

end Header

/-- `generic::Block`: a header and its extrinsics. -/
structure Block (Header Extrinsic : Type) where
  header : Header
  extrinsics : List Extrinsic
deriving DecidableEq

namespace Block

variable {Header Extrinsic : Type}

/-- `Block::encode`. -/
def encode (header : Slicable Header) (extrinsic : Slicable Extrinsic)
    (block : Block Header Extrinsic) : Option Bytes := do
  let headerBytes ← header.encode block.header
  let extrinsics ← (vec extrinsic).encode block.extrinsics
  pure (headerBytes ++ extrinsics)

/-- `Block::decode`. -/
def decode (header : Slicable Header) (extrinsic : Slicable Extrinsic) :
    Decoder (Block Header Extrinsic) := do
  let headerValue ← header.decode
  let extrinsics ← (vec extrinsic).decode
  pure { header := headerValue, extrinsics }

/-- `Slicable` of `Block`: its header, then its extrinsics. -/
def slicable (header : Slicable Header) (extrinsic : Slicable Extrinsic) :
    Slicable (Block Header Extrinsic) :=
  ⟨encode header extrinsic, decode header extrinsic⟩

/-- The codec of `Block` decodes what it encodes, where those of its header and extrinsics do. -/
theorem lawful_slicable {header : Slicable Header} {extrinsic : Slicable Extrinsic}
    (headerLawful : header.Lawful) (extrinsicLawful : extrinsic.Lawful) :
    (slicable header extrinsic).Lawful := by
  intro block bytes encoded
  simp only [slicable, encode, Option.bind_eq_bind, Option.bind_eq_some_iff, Option.pure_def,
    Option.some.injEq] at encoded
  obtain ⟨headerBytes, headerEncoded, extrinsics, extrinsicsEncoded, rfl⟩ := encoded
  exact (headerLawful _ _ headerEncoded).bind
    ((extrinsicLawful.vec _ _ extrinsicsEncoded).bind_pure _)

/-- A block encodes where its header and its extrinsics do. -/
theorem encode_isSome {header : Slicable Header} {extrinsic : Slicable Extrinsic}
    {block : Block Header Extrinsic} (headerEncodes : (header.encode block.header).isSome)
    (extrinsicsEncode : ((vec extrinsic).encode block.extrinsics).isSome) :
    ((slicable header extrinsic).encode block).isSome := by
  obtain ⟨headerBytes, headerEncoded⟩ := Option.isSome_iff_exists.mp headerEncodes
  obtain ⟨extrinsics, extrinsicsEncoded⟩ := Option.isSome_iff_exists.mp extrinsicsEncode
  simp [slicable, encode, headerEncoded, extrinsicsEncoded]

end Block

/-- `generic::SignedBlock`: a block and the justification that finalised it. -/
structure SignedBlock (Header Extrinsic Hash : Type) where
  block : Block Header Extrinsic
  justification : Justification Hash
deriving DecidableEq

namespace SignedBlock

variable {Header Extrinsic Hash : Type}

/-- `SignedBlock::encode`. -/
def encode (header : Slicable Header) (extrinsic : Slicable Extrinsic) (hash : Slicable Hash)
    (signed : SignedBlock Header Extrinsic Hash) : Option Bytes := do
  let block ← (Block.slicable header extrinsic).encode signed.block
  let justification ← (Justification.slicable hash).encode signed.justification
  pure (block ++ justification)

/-- `SignedBlock::decode`. -/
def decode (header : Slicable Header) (extrinsic : Slicable Extrinsic) (hash : Slicable Hash) :
    Decoder (SignedBlock Header Extrinsic Hash) := do
  let block ← (Block.slicable header extrinsic).decode
  let justification ← (Justification.slicable hash).decode
  pure { block, justification }

/-- `Slicable` of `SignedBlock`: its block, then its justification. -/
def slicable (header : Slicable Header) (extrinsic : Slicable Extrinsic) (hash : Slicable Hash) :
    Slicable (SignedBlock Header Extrinsic Hash) :=
  ⟨encode header extrinsic hash, decode header extrinsic hash⟩

/-- The codec of `SignedBlock` decodes what it encodes, where those of its parts do. -/
theorem lawful_slicable {header : Slicable Header} {extrinsic : Slicable Extrinsic}
    {hash : Slicable Hash} (headerLawful : header.Lawful) (extrinsicLawful : extrinsic.Lawful)
    (hashLawful : hash.Lawful) : (slicable header extrinsic hash).Lawful := by
  intro signed bytes encoded
  simp only [slicable, encode, Option.bind_eq_bind, Option.bind_eq_some_iff, Option.pure_def,
    Option.some.injEq] at encoded
  obtain ⟨block, blockEncoded, justification, justificationEncoded, rfl⟩ := encoded
  exact (Block.lawful_slicable headerLawful extrinsicLawful _ _ blockEncoded).bind
    ((Justification.lawful_slicable hashLawful _ _ justificationEncoded).bind_pure _)

/-- A signed block encodes where its block and its justification do. -/
theorem encode_isSome {header : Slicable Header} {extrinsic : Slicable Extrinsic}
    {hash : Slicable Hash} {signed : SignedBlock Header Extrinsic Hash}
    (blockEncodes : ((Block.slicable header extrinsic).encode signed.block).isSome)
    (justificationEncodes : ((Justification.slicable hash).encode signed.justification).isSome) :
    ((slicable header extrinsic hash).encode signed).isSome := by
  obtain ⟨block, blockEncoded⟩ := Option.isSome_iff_exists.mp blockEncodes
  obtain ⟨justification, justificationEncoded⟩ := Option.isSome_iff_exists.mp justificationEncodes
  simp [slicable, encode, blockEncoded, justificationEncoded]

end SignedBlock

end Generic
end Primitives
end Polkadot
