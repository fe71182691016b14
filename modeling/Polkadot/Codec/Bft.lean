import Polkadot.Codec.Slicable

/-!
# The consensus formats of the runtime

`runtime/primitives/src/bft.rs`, with the fixed-size hashes and keys of
`primitives/src` that they carry.  Each format keeps its encoder and its
decoder as the source writes them, separately, and the lemma beside them
checks that the two agree: the same fields in the same order, and tag bytes
pushed as `u8` and read back with `i8::decode`.
-/

namespace Polkadot
namespace Primitives

open Foundations Codec Slicable

/-! ## Hashes and keys -/

/-- `H256` (`construct_hash!`). -/
structure H256 where
  bytes : Vector UInt8 32
deriving DecidableEq

/-- `H512` (`construct_hash!`). -/
structure H512 where
  bytes : Vector UInt8 64
deriving DecidableEq

/-- `AuthorityId`: an ed25519 public key. -/
structure AuthorityId where
  bytes : Vector UInt8 32
deriving DecidableEq

/-- `Signature`: an ed25519 signature. -/
abbrev Signature := H512

/-- The hashes are encoded as their bytes. -/
def H256.slicable : Slicable H256 := wrap H256.mk H256.bytes (byteArray 32)

/-- `Slicable` of `H512`: its 64 bytes. -/
def H512.slicable : Slicable H512 := wrap H512.mk H512.bytes (byteArray 64)

/-- `Slicable` of `AuthorityId`: its 32 bytes. -/
def AuthorityId.slicable : Slicable AuthorityId :=
  wrap AuthorityId.mk AuthorityId.bytes (byteArray 32)

/-- The codec of `H256` decodes what it encodes. -/
theorem H256.lawful_slicable : H256.slicable.Lawful :=
  (lawful_byteArray 32).wrap fun _ => rfl

/-- The codec of `H512` decodes what it encodes. -/
theorem H512.lawful_slicable : H512.slicable.Lawful :=
  (lawful_byteArray 64).wrap fun _ => rfl

/-- The codec of `AuthorityId` decodes what it encodes. -/
theorem AuthorityId.lawful_slicable : AuthorityId.slicable.Lawful :=
  (lawful_byteArray 32).wrap fun _ => rfl

/-- A hash encodes as its bytes. -/
@[simp] theorem H256.slicable_encode (hash : H256) :
    H256.slicable.encode hash = some hash.bytes.toList := rfl

/-- A signature encodes as its bytes. -/
@[simp] theorem H512.slicable_encode (signature : H512) :
    H512.slicable.encode signature = some signature.bytes.toList := rfl

/-- An authority encodes as its bytes. -/
@[simp] theorem AuthorityId.slicable_encode (authority : AuthorityId) :
    AuthorityId.slicable.encode authority = some authority.bytes.toList := rfl

/-- An integer encodes as its little-endian bytes. -/
@[simp] theorem int_encode (width : Nat) (value : BitVec (8 * width)) :
    (int width).encode value = some (encodeLE width value.toNat) := rfl

/-! ## Actions -/

/-- `bft::Action`; `ActionKind` numbers the arms 1 to 5 in this order. -/
inductive Action (Block Hash : Type) where
  | propose (round : BitVec 32) (block : Block)
  | proposeHeader (round : BitVec 32) (hash : Hash)
  | prepare (round : BitVec 32) (hash : Hash)
  | commit (round : BitVec 32) (hash : Hash)
  | advanceRound (round : BitVec 32)
deriving DecidableEq

namespace Action

variable {Block Hash : Type}

/-- One arm of the encoder: the kind byte, the round, then the arm's payload. -/
def encodeArm (kind : UInt8) (round : BitVec 32) (payload : Option Bytes) : Option Bytes := do
  let roundBytes ← u32.encode round
  let payloadBytes ← payload
  pure (kind :: (roundBytes ++ payloadBytes))

/-- `Action::encode`. -/
def encode (block : Slicable Block) (hash : Slicable Hash) : Action Block Hash → Option Bytes
  | .propose round proposal => encodeArm 1 round (block.encode proposal)
  | .proposeHeader round digest => encodeArm 2 round (hash.encode digest)
  | .prepare round digest => encodeArm 3 round (hash.encode digest)
  | .commit round digest => encodeArm 4 round (hash.encode digest)
  | .advanceRound round => (u32.encode round).map fun roundBytes => 5 :: roundBytes

/-- `Action::decode`: the kind is read with `i8::decode`, the fields as a tuple. -/
def decode (block : Slicable Block) (hash : Slicable Hash) : Decoder (Action Block Hash) := do
  let kind ← i8.decode
  if kind = 1 then Function.uncurry propose <$> (pair u32 block).decode
  else if kind = 2 then Function.uncurry proposeHeader <$> (pair u32 hash).decode
  else if kind = 3 then Function.uncurry prepare <$> (pair u32 hash).decode
  else if kind = 4 then Function.uncurry commit <$> (pair u32 hash).decode
  else if kind = 5 then advanceRound <$> u32.decode
  else failure

/-- `Slicable` of `Action`, over the codecs of its block and hash. -/
def slicable (block : Slicable Block) (hash : Slicable Hash) : Slicable (Action Block Hash) :=
  ⟨encode block hash, decode block hash⟩

/-- An arm of `Action` encodes as its tag, its round and its payload, where the payload encodes. -/
theorem encodeArm_eq_some {kind : UInt8} {round : BitVec 32} {payload : Option Bytes}
    {bytes : Bytes} :
    encodeArm kind round payload = some bytes ↔
      ∃ payloadBytes, payload = some payloadBytes ∧
        bytes = kind :: (encodeLE 4 round.toNat ++ payloadBytes) := by
  cases payload <;> simp [encodeArm, eq_comm]

/-- An arm of `Action` encodes exactly when its payload does. -/
@[simp] theorem encodeArm_isSome (kind : UInt8) (round : BitVec 32) (payload : Option Bytes) :
    (encodeArm kind round payload).isSome = payload.isSome := by
  cases payload <;> simp [encodeArm]

/-- The round and payload of an arm are read back as a tuple. -/
theorem inverts_arm {Payload : Type} {payload : Slicable Payload} (lawful : payload.Lawful)
    (make : BitVec 32 → Payload → Action Block Hash) {round : BitVec 32} {value : Payload}
    {payloadBytes : Bytes} (encoded : payload.encode value = some payloadBytes) :
    Inverts (Function.uncurry make <$> (pair u32 payload).decode) (make round value)
      (encodeLE 4 round.toNat ++ payloadBytes) :=
  ((lawful_int 4).pair lawful (round, value) _ (pair_encode rfl encoded)).map
    (Function.uncurry make)

/-- The codec of `Action` decodes what it encodes, where those of its block and hash do. -/
theorem lawful_slicable {block : Slicable Block} {hash : Slicable Hash} (blockLawful : block.Lawful)
    (hashLawful : hash.Lawful) : (slicable block hash).Lawful := by
  intro action bytes encoded
  cases action with
  | propose round proposal =>
      obtain ⟨payloadBytes, payloadEncoded, rfl⟩ := encodeArm_eq_some.mp encoded
      exact (inverts_i8 1).bind (inverts_arm blockLawful propose payloadEncoded)
  | proposeHeader round digest =>
      obtain ⟨payloadBytes, payloadEncoded, rfl⟩ := encodeArm_eq_some.mp encoded
      exact (inverts_i8 2).bind (inverts_arm hashLawful proposeHeader payloadEncoded)
  | prepare round digest =>
      obtain ⟨payloadBytes, payloadEncoded, rfl⟩ := encodeArm_eq_some.mp encoded
      exact (inverts_i8 3).bind (inverts_arm hashLawful prepare payloadEncoded)
  | commit round digest =>
      obtain ⟨payloadBytes, payloadEncoded, rfl⟩ := encodeArm_eq_some.mp encoded
      exact (inverts_i8 4).bind (inverts_arm hashLawful commit payloadEncoded)
  | advanceRound round =>
      cases encoded
      exact (inverts_i8 5).bind ((lawful_int 4 round _ rfl).map advanceRound)

/-- A property of the block or hash an action carries. -/
def All (blockOk : Block → Prop) (hashOk : Hash → Prop) : Action Block Hash → Prop
  | .propose _ proposal => blockOk proposal
  | .proposeHeader _ digest => hashOk digest
  | .prepare _ digest => hashOk digest
  | .commit _ digest => hashOk digest
  | .advanceRound _ => True

/-- A property of the parts of an action carries over to a weaker one. -/
theorem All.imp {blockOk blockOk' : Block → Prop} {hashOk hashOk' : Hash → Prop}
    (blockImp : ∀ proposal, blockOk proposal → blockOk' proposal)
    (hashImp : ∀ digest, hashOk digest → hashOk' digest) :
    ∀ {action : Action Block Hash}, action.All blockOk hashOk → action.All blockOk' hashOk'
  | .propose _ proposal, holds => blockImp proposal holds
  | .proposeHeader _ digest, holds => hashImp digest holds
  | .prepare _ digest, holds => hashImp digest holds
  | .commit _ digest, holds => hashImp digest holds
  | .advanceRound _, _ => trivial

/-- An action encodes where its block or hash does. -/
theorem encode_isSome {block : Slicable Block} {hash : Slicable Hash} {action : Action Block Hash}
    (encodes : action.All (fun proposal => (block.encode proposal).isSome)
      (fun digest => (hash.encode digest).isSome)) :
    ((slicable block hash).encode action).isSome := by
  cases action <;> simp_all [slicable, encode, All]

end Action

/-! ## Messages -/

/-- `bft::Message`: an action on top of a parent block. -/
structure Message (Block Hash : Type) where
  parent : Hash
  action : Action Block Hash
deriving DecidableEq

namespace Message

variable {Block Hash : Type}

/-- `Message::encode`. -/
def encode (block : Slicable Block) (hash : Slicable Hash) (message : Message Block Hash) :
    Option Bytes := do
  let parent ← hash.encode message.parent
  let action ← (Action.slicable block hash).encode message.action
  pure (parent ++ action)

/-- `Message::decode`. -/
def decode (block : Slicable Block) (hash : Slicable Hash) : Decoder (Message Block Hash) := do
  let parent ← hash.decode
  let action ← (Action.slicable block hash).decode
  pure { parent, action }

/-- `Slicable` of `Message`: its parent hash, then its action. -/
def slicable (block : Slicable Block) (hash : Slicable Hash) : Slicable (Message Block Hash) :=
  ⟨encode block hash, decode block hash⟩

/-- The codec of `Message` decodes what it encodes, where those of its block and hash do. -/
theorem lawful_slicable {block : Slicable Block} {hash : Slicable Hash} (blockLawful : block.Lawful)
    (hashLawful : hash.Lawful) : (slicable block hash).Lawful := by
  intro message bytes encoded
  simp only [slicable, encode, Option.bind_eq_bind, Option.bind_eq_some_iff, Option.pure_def,
    Option.some.injEq] at encoded
  obtain ⟨parent, parentEncoded, action, actionEncoded, rfl⟩ := encoded
  exact (hashLawful _ _ parentEncoded).bind
    ((Action.lawful_slicable blockLawful hashLawful _ _ actionEncoded).bind_pure _)

/-- A message encodes where its parent hash and its action do. -/
theorem encode_isSome {block : Slicable Block} {hash : Slicable Hash} {message : Message Block Hash}
    (parentEncodes : (hash.encode message.parent).isSome)
    (actionEncodes : ((Action.slicable block hash).encode message.action).isSome) :
    ((slicable block hash).encode message).isSome := by
  obtain ⟨parent, parentEncoded⟩ := Option.isSome_iff_exists.mp parentEncodes
  obtain ⟨action, actionEncoded⟩ := Option.isSome_iff_exists.mp actionEncodes
  simp [slicable, encode, parentEncoded, actionEncoded]

end Message

/-! ## Justifications -/

/-- `bft::Justification`: the signatures that committed to a block in a round. -/
structure Justification (Hash : Type) where
  roundNumber : BitVec 32
  hash : Hash
  signatures : List (AuthorityId × Signature)
deriving DecidableEq

namespace Justification

variable {Hash : Type}

/-- The codec of the signature list, `Vec<(AuthorityId, Signature)>`. -/
def signaturesSlicable : Slicable (List (AuthorityId × Signature)) :=
  vec (pair AuthorityId.slicable H512.slicable)

/-- `Justification::encode`. -/
def encode (hash : Slicable Hash) (justification : Justification Hash) : Option Bytes := do
  let roundNumber ← u32.encode justification.roundNumber
  let hashBytes ← hash.encode justification.hash
  let signatures ← signaturesSlicable.encode justification.signatures
  pure (roundNumber ++ hashBytes ++ signatures)

/-- `Justification::decode`. -/
def decode (hash : Slicable Hash) : Decoder (Justification Hash) := do
  let roundNumber ← u32.decode
  let hashValue ← hash.decode
  let signatures ← signaturesSlicable.decode
  pure { roundNumber, hash := hashValue, signatures }

/-- `Slicable` of `Justification`: its round, its hash and its signatures. -/
def slicable (hash : Slicable Hash) : Slicable (Justification Hash) := ⟨encode hash, decode hash⟩

/-- The codec of the signatures of a justification decodes what it encodes. -/
theorem lawful_signaturesSlicable : signaturesSlicable.Lawful :=
  (AuthorityId.lawful_slicable.pair H512.lawful_slicable).vec

/-- The codec of `Justification` decodes what it encodes, where that of its hash does. -/
theorem lawful_slicable {hash : Slicable Hash} (hashLawful : hash.Lawful) :
    (slicable hash).Lawful := by
  intro justification bytes encoded
  simp only [slicable, encode, Option.bind_eq_bind, Option.bind_eq_some_iff, Option.pure_def,
    Option.some.injEq] at encoded
  obtain ⟨roundNumber, roundEncoded, hashBytes, hashEncoded, signatures, signaturesEncoded, rfl⟩ :=
    encoded
  rw [List.append_assoc]
  exact (lawful_int 4 _ _ roundEncoded).bind ((hashLawful _ _ hashEncoded).bind
    ((lawful_signaturesSlicable _ _ signaturesEncoded).bind_pure _))

/-- A justification encodes where its hash does and its signatures are fewer than `2 ^ 32`. -/
theorem encode_isSome {hash : Slicable Hash} {justification : Justification Hash}
    (hashEncodes : (hash.encode justification.hash).isSome)
    (short : justification.signatures.length < lengthLimit) :
    ((slicable hash).encode justification).isSome := by
  obtain ⟨hashBytes, hashEncoded⟩ := Option.isSome_iff_exists.mp hashEncodes
  have signaturesEncode : (signaturesSlicable.encode justification.signatures).isSome :=
    vec_encode_isSome short fun _ _ => rfl
  obtain ⟨signatures, signaturesEncoded⟩ := Option.isSome_iff_exists.mp signaturesEncode
  simp [slicable, encode, hashEncoded, signaturesEncoded]

end Justification

/-! ## Misbehavior reports -/

/-- `MisbehaviorCode`, written as an `i8`. -/
inductive MisbehaviorCode where
  | bftDoublePrepare
  | bftDoubleCommit
deriving DecidableEq

/-- The `i8` of a code (`0x11` and `0x12`). -/
def MisbehaviorCode.toI8 : MisbehaviorCode → BitVec 8
  | .bftDoublePrepare => 0x11
  | .bftDoubleCommit => 0x12

/-- `MisbehaviorCode::from_i8`. -/
def MisbehaviorCode.fromI8 (code : BitVec 8) : Option MisbehaviorCode :=
  if code = 0x11 then some .bftDoublePrepare
  else if code = 0x12 then some .bftDoubleCommit
  else none

/-- A misbehaviour code read back from its `i8` is the code. -/
theorem MisbehaviorCode.fromI8_toI8 (code : MisbehaviorCode) : fromI8 code.toI8 = some code := by
  cases code <;> rfl

/-- `MisbehaviorKind`: two signed votes of one round for different hashes. -/
inductive MisbehaviorKind (Hash : Type) where
  | bftDoublePrepare (round : BitVec 32) (first second : Hash × Signature)
  | bftDoubleCommit (round : BitVec 32) (first second : Hash × Signature)
deriving DecidableEq

/-- `MisbehaviorReport`. -/
structure MisbehaviorReport (Hash Number : Type) where
  parentHash : Hash
  parentNumber : Number
  target : AuthorityId
  misbehavior : MisbehaviorKind Hash
deriving DecidableEq

namespace MisbehaviorKind

variable {Hash : Type}

/-- The fields after the code, `round`, `h_a`, `s_a`, `h_b`, `s_b`, as a tuple. -/
def votesSlicable (hash : Slicable Hash) :
    Slicable (BitVec 32 × (Hash × Signature) × (Hash × Signature)) :=
  pair u32 (pair (pair hash H512.slicable) (pair hash H512.slicable))

/-- The part of `MisbehaviorReport::encode` after the target: the code, then the fields. -/
def encode (hash : Slicable Hash) : MisbehaviorKind Hash → Option Bytes
  | .bftDoublePrepare round first second => do
      let code ← i8.encode MisbehaviorCode.bftDoublePrepare.toI8
      let votes ← (votesSlicable hash).encode (round, first, second)
      pure (code ++ votes)
  | .bftDoubleCommit round first second => do
      let code ← i8.encode MisbehaviorCode.bftDoubleCommit.toI8
      let votes ← (votesSlicable hash).encode (round, first, second)
      pure (code ++ votes)

/-- The part of `MisbehaviorReport::decode` after the target. -/
def decode (hash : Slicable Hash) : Decoder (MisbehaviorKind Hash) := do
  let code ← i8.decode
  match MisbehaviorCode.fromI8 code with
  | some .bftDoublePrepare =>
      (fun (round, first, second) => bftDoublePrepare round first second) <$>
        (votesSlicable hash).decode
  | some .bftDoubleCommit =>
      (fun (round, first, second) => bftDoubleCommit round first second) <$>
        (votesSlicable hash).decode
  | none => failure

/-- The codec of the two votes of a misbehaviour decodes what it encodes. -/
theorem lawful_votesSlicable {hash : Slicable Hash} (hashLawful : hash.Lawful) :
    (votesSlicable hash).Lawful :=
  (lawful_int 4).pair ((hashLawful.pair H512.lawful_slicable).pair
    (hashLawful.pair H512.lawful_slicable))

/-- The round and the two signed votes, which both arms carry. -/
def votes : MisbehaviorKind Hash → BitVec 32 × (Hash × Signature) × (Hash × Signature)
  | .bftDoublePrepare round first second => (round, first, second)
  | .bftDoubleCommit round first second => (round, first, second)

/-- The codec of `MisbehaviorKind` decodes what it encodes, where that of its hash does. -/
theorem lawful {hash : Slicable Hash} (hashLawful : hash.Lawful) :
    Foundations.Lawful (encode hash) (decode hash) := by
  intro kind bytes encoded
  have votesLawful := lawful_votesSlicable hashLawful
  cases kind with
  | bftDoublePrepare round first second =>
      simp only [encode, i8_encode, Option.bind_eq_bind, Option.bind_some, Option.bind_eq_some_iff,
        Option.pure_def, Option.some.injEq] at encoded
      obtain ⟨votes, votesEncoded, rfl⟩ := encoded
      have decodeVotes : Inverts ((fun (round, first, second) => bftDoublePrepare round first second)
          <$> (votesSlicable hash).decode) (bftDoublePrepare round first second) votes :=
        (votesLawful _ _ votesEncoded).map _
      exact (inverts_i8 _).bind decodeVotes
  | bftDoubleCommit round first second =>
      simp only [encode, i8_encode, Option.bind_eq_bind, Option.bind_some, Option.bind_eq_some_iff,
        Option.pure_def, Option.some.injEq] at encoded
      obtain ⟨votes, votesEncoded, rfl⟩ := encoded
      have decodeVotes : Inverts ((fun (round, first, second) => bftDoubleCommit round first second)
          <$> (votesSlicable hash).decode) (bftDoubleCommit round first second) votes :=
        (votesLawful _ _ votesEncoded).map _
      exact (inverts_i8 _).bind decodeVotes

/-- A misbehaviour encodes where the digests of its two votes do. -/
theorem encode_isSome {hash : Slicable Hash} {kind : MisbehaviorKind Hash}
    (firstEncodes : (hash.encode kind.votes.2.1.1).isSome)
    (secondEncodes : (hash.encode kind.votes.2.2.1).isSome) : (encode hash kind).isSome := by
  have votesEncode : ((votesSlicable hash).encode kind.votes).isSome :=
    pair_encode_isSome rfl
      (pair_encode_isSome (pair_encode_isSome firstEncodes rfl) (pair_encode_isSome secondEncodes rfl))
  obtain ⟨votes, votesEncoded⟩ := Option.isSome_iff_exists.mp votesEncode
  cases kind <;> simp_all [encode, MisbehaviorKind.votes]

end MisbehaviorKind

namespace MisbehaviorReport

variable {Hash Number : Type}

/-- `MisbehaviorReport::encode`. -/
def encode (hash : Slicable Hash) (number : Slicable Number)
    (report : MisbehaviorReport Hash Number) : Option Bytes := do
  let parentHash ← hash.encode report.parentHash
  let parentNumber ← number.encode report.parentNumber
  let target ← AuthorityId.slicable.encode report.target
  let misbehavior ← MisbehaviorKind.encode hash report.misbehavior
  pure (parentHash ++ parentNumber ++ target ++ misbehavior)

/-- `MisbehaviorReport::decode`. -/
def decode (hash : Slicable Hash) (number : Slicable Number) :
    Decoder (MisbehaviorReport Hash Number) := do
  let parentHash ← hash.decode
  let parentNumber ← number.decode
  let target ← AuthorityId.slicable.decode
  let misbehavior ← MisbehaviorKind.decode hash
  pure { parentHash, parentNumber, target, misbehavior }

/-- `Slicable` of `MisbehaviorReport`: its parent hash, parent number, target and misbehaviour. -/
def slicable (hash : Slicable Hash) (number : Slicable Number) :
    Slicable (MisbehaviorReport Hash Number) :=
  ⟨encode hash number, decode hash number⟩

/-- The codec of `MisbehaviorReport` decodes what it encodes, where those of its hash and number do.
-/
theorem lawful_slicable {hash : Slicable Hash} {number : Slicable Number}
    (hashLawful : hash.Lawful) (numberLawful : number.Lawful) :
    (slicable hash number).Lawful := by
  intro report bytes encoded
  simp only [slicable, encode, Option.bind_eq_bind, Option.bind_eq_some_iff, Option.pure_def,
    Option.some.injEq] at encoded
  obtain ⟨parentHash, parentEncoded, parentNumber, numberEncoded, target, targetEncoded,
    misbehavior, misbehaviorEncoded, rfl⟩ := encoded
  simp only [List.append_assoc]
  exact (hashLawful _ _ parentEncoded).bind ((numberLawful _ _ numberEncoded).bind
    ((AuthorityId.lawful_slicable _ _ targetEncoded).bind
      ((MisbehaviorKind.lawful hashLawful _ _ misbehaviorEncoded).bind_pure _)))

/-- A report encodes where its parent hash, its parent number and its misbehaviour do. -/
theorem encode_isSome {hash : Slicable Hash} {number : Slicable Number}
    {report : MisbehaviorReport Hash Number} (parentEncodes : (hash.encode report.parentHash).isSome)
    (numberEncodes : (number.encode report.parentNumber).isSome)
    (misbehaviorEncodes : (MisbehaviorKind.encode hash report.misbehavior).isSome) :
    ((slicable hash number).encode report).isSome := by
  obtain ⟨parentHash, parentEncoded⟩ := Option.isSome_iff_exists.mp parentEncodes
  obtain ⟨parentNumber, numberEncoded⟩ := Option.isSome_iff_exists.mp numberEncodes
  obtain ⟨misbehavior, misbehaviorEncoded⟩ := Option.isSome_iff_exists.mp misbehaviorEncodes
  simp [slicable, encode, parentEncoded, numberEncoded, misbehaviorEncoded]

end MisbehaviorReport

end Primitives
end Polkadot
