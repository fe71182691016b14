import Polkadot.Foundations.ByteCodec

/-!
# The `Slicable` implementations of the codec

`codec/src/slicable.rs`.  An implementation is an encoder, which fails where
the source asserts (a collection with more than `u32::MAX` elements), and a
decoder reading from the front of the input (`Input` over a byte slice reads
as many bytes as are left, at most the number asked for).  Generic
implementations take the implementations of their parameters.

Integers are little-endian words of their size; `usize` and `isize` are
taken with 8 bytes, as on the 64-bit hosts the node runs on.
-/

namespace Polkadot
namespace Codec

open Foundations

/-- An implementation of `Slicable` for `α`. -/
structure Slicable (α : Type) where
  /-- `Slicable::encode`; `none` where the source panics. -/
  encode : α → Option Bytes
  /-- `Slicable::decode`. -/
  decode : Decoder α

namespace Slicable

variable {α β ε : Type}

/-- Every encoding is read back, whatever follows it. -/
def Lawful (codec : Slicable α) : Prop := Foundations.Lawful codec.encode codec.decode

/-- One more than `u32::max_value()`: a length prefix holds fewer elements. -/
def lengthLimit : Nat := 2 ^ 32

/-! ## Words -/

/-- `impl_endians!` and `impl_non_endians!`: the little-endian bytes of a
word of `width` bytes (`i8` and `bool` have one byte). -/
def int (width : Nat) : Slicable (BitVec (8 * width)) where
  encode value := some (encodeLE width value.toNat)
  decode := (fun value => BitVec.ofNat (8 * width) value) <$> decodeLE width

/-- The codec of an integer of `width` bytes decodes what it encodes. -/
theorem lawful_int (width : Nat) : (int width).Lawful := by
  intro value bytes encoded
  cases encoded
  have fits : value.toNat < 256 ^ width := by
    have bound := value.isLt
    rwa [Nat.pow_mul] at bound
  have read := (inverts_decodeLE fits).map fun word => BitVec.ofNat (8 * width) word
  simpa [int] using read

/-- `u32`. -/
abbrev u32 : Slicable (BitVec 32) := int 4

/-- `u64`. -/
abbrev u64 : Slicable (BitVec 64) := int 8

/-- `i8`, which also reads the tag bytes of the hand-written enumerations. -/
abbrev i8 : Slicable (BitVec 8) := int 1

/-- An `i8` encodes as its one byte. -/
theorem i8_encode (tag : BitVec 8) : i8.encode tag = some [UInt8.ofBitVec tag] := by
  have lowByte : UInt8.ofNat (tag.toNat % 256) = UInt8.ofBitVec tag := by
    apply UInt8.toNat_inj.mp
    simp [Nat.mod_eq_of_lt tag.isLt]
  simp [int, encodeLE, lowByte]

/-- A tag byte written as a `u8` is read back by `i8::decode`. -/
theorem inverts_i8 (tag : BitVec 8) : Inverts i8.decode tag [UInt8.ofBitVec tag] :=
  lawful_int 1 tag _ (i8_encode tag)

/-- `bool`: one byte.  The source reads the byte into a `bool` as it is, so
a byte other than 0 or 1 is undefined behaviour there; it is refused here. -/
def bool : Slicable Bool where
  encode value := some [if value then 1 else 0]
  decode := do
    let byte ← readByte
    if byte = 0 then pure false else if byte = 1 then pure true else failure

/-- The codec of `bool` decodes what it encodes. -/
theorem lawful_bool : bool.Lawful := by
  intro value bytes encoded
  cases encoded
  cases value
  · exact (inverts_readByte 0).bind (Inverts.pure false)
  · exact (inverts_readByte 1).bind (Inverts.pure true)

/-- `[u8; n]`: the bytes themselves. -/
def byteArray (length : Nat) : Slicable (Vector UInt8 length) where
  encode bytes := some bytes.toList
  decode := readVector length

/-- The codec of an array of bytes decodes what it encodes. -/
theorem lawful_byteArray (length : Nat) : (byteArray length).Lawful := by
  intro bytes encoded encodedEq
  cases encodedEq
  exact inverts_readVector bytes

/-- `[T; n]` (`impl_array!`): the items one after another. -/
def array (length : Nat) (item : Slicable α) : Slicable (Vector α length) where
  encode items := encodeItems item.encode items.toList
  decode := decodeVector item.decode length

/-- An array codec decodes what it encodes, where that of its items does. -/
theorem Lawful.array {item : Slicable α} (lawful : item.Lawful) (length : Nat) :
    (array length item).Lawful := by
  intro items bytes encoded
  exact inverts_decodeVector length items (fun value _ => lawful value) encoded

/-- An array encodes where each of its items does. -/
theorem array_encode_isSome {item : Slicable α} {length : Nat} {items : Vector α length}
    (each : ∀ value ∈ items.toList, (item.encode value).isSome) :
    ((array length item).encode items).isSome :=
  encodeItems_isSome items.toList each

/-! ## Collections -/

/-- `Vec<u8>` (`encode_slice`): a `u32` length, then the bytes. -/
def byteVec : Slicable Bytes where
  encode bytes :=
    if bytes.length < lengthLimit then some (encodeLE 4 bytes.length ++ bytes) else none
  decode := do
    let length ← decodeLE 4
    readBytes length

/-- The codec of `Vec<u8>` decodes what it encodes. -/
theorem lawful_byteVec : byteVec.Lawful := by
  intro bytes encoded encodedEq
  simp only [byteVec] at encodedEq
  split_ifs at encodedEq with short
  cases encodedEq
  exact (inverts_decodeLE (by simpa [lengthLimit] using short)).bind (inverts_readBytes bytes)

/-- A `Vec<u8>` shorter than `2 ^ 32` encodes. -/
theorem byteVec_encode_isSome {bytes : Bytes} (short : bytes.length < lengthLimit) :
    (byteVec.encode bytes).isSome := by
  simp [byteVec, short]

/-- `Vec<T>`: a `u32` length, then the items. -/
def vec (item : Slicable α) : Slicable (List α) where
  encode items :=
    if items.length < lengthLimit then
      (encodeItems item.encode items).map fun body => encodeLE 4 items.length ++ body
    else none
  decode := do
    let length ← decodeLE 4
    decodeItems item.decode length

/-- A vector codec decodes what it encodes, where that of its items does. -/
theorem Lawful.vec {item : Slicable α} (lawful : item.Lawful) : (vec item).Lawful := by
  intro items bytes encoded
  simp only [Codec.Slicable.vec] at encoded
  split_ifs at encoded with short
  cases body : encodeItems item.encode items with
  | none => simp [body] at encoded
  | some itemBytes =>
      simp only [body, Option.map_some, Option.some.injEq] at encoded
      subst encoded
      exact (inverts_decodeLE (by simpa [lengthLimit] using short)).bind
        (inverts_decodeItems items (fun value _ => lawful value) body)

/-- A vector shorter than `2 ^ 32` whose items encode encodes. -/
theorem vec_encode_isSome {item : Slicable α} {items : List α} (short : items.length < lengthLimit)
    (each : ∀ value ∈ items, (item.encode value).isSome) : ((vec item).encode items).isSome := by
  obtain ⟨body, encoded⟩ := Option.isSome_iff_exists.mp (encodeItems_isSome items each)
  simp [Codec.Slicable.vec, short, encoded]

/-! ## Sums -/

/-- `Option<T>`: a byte 0, or a byte 1 and the value. -/
def option (item : Slicable α) : Slicable (Option α) where
  encode
    | none => some [0]
    | some value => (item.encode value).map fun body => 1 :: body
  decode := do
    let tag ← readByte
    if tag = 0 then pure none else if tag = 1 then some <$> item.decode else failure

/-- An option codec decodes what it encodes, where that of its value does. -/
theorem Lawful.option {item : Slicable α} (lawful : item.Lawful) : (option item).Lawful := by
  intro value bytes encoded
  cases value with
  | none =>
      cases encoded
      exact (inverts_readByte 0).bind (Inverts.pure none)
  | some value =>
      cases body : item.encode value with
      | none => simp [Codec.Slicable.option, body] at encoded
      | some itemBytes =>
          simp only [Codec.Slicable.option, body, Option.map_some, Option.some.injEq] at encoded
          subst encoded
          exact (inverts_readByte 1).bind ((lawful value itemBytes body).map some)

/-- An option encodes where its value does. -/
theorem option_encode_isSome {item : Slicable α} {value : Option α}
    (encodes : ∀ inner ∈ value, (item.encode inner).isSome) : ((option item).encode value).isSome := by
  cases value with
  | none => rfl
  | some inner =>
      obtain ⟨body, encoded⟩ := Option.isSome_iff_exists.mp (encodes inner rfl)
      simp [Codec.Slicable.option, encoded]

/-- `OptionBool`: one byte, 0 for none, 1 for true, 2 for false. -/
def optionBool : Slicable (Option Bool) where
  encode
    | none => some [0]
    | some true => some [1]
    | some false => some [2]
  decode := do
    let tag ← readByte
    if tag = 0 then pure none
    else if tag = 1 then pure (some true)
    else if tag = 2 then pure (some false)
    else failure

/-- The codec of `OptionBool` decodes what it encodes. -/
theorem lawful_optionBool : optionBool.Lawful := by
  intro value bytes encoded
  rcases value with _ | _ | _ <;> cases encoded
  · exact (inverts_readByte 0).bind (Inverts.pure none)
  · exact (inverts_readByte 2).bind (Inverts.pure (some false))
  · exact (inverts_readByte 1).bind (Inverts.pure (some true))

/-- `Result<T, E>`: a byte 0 and the value, or a byte 1 and the error. -/
def result (ok : Slicable α) (err : Slicable ε) : Slicable (Except ε α) where
  encode
    | .ok value => (ok.encode value).map fun body => 0 :: body
    | .error error => (err.encode error).map fun body => 1 :: body
  decode := do
    let tag ← readByte
    if tag = 0 then Except.ok <$> ok.decode
    else if tag = 1 then Except.error <$> err.decode
    else failure

/-- A result codec decodes what it encodes, where those of its two sides do. -/
theorem Lawful.result {ok : Slicable α} {err : Slicable ε} (okLawful : ok.Lawful)
    (errLawful : err.Lawful) : (result ok err).Lawful := by
  intro value bytes encoded
  cases value with
  | ok value =>
      cases body : ok.encode value with
      | none => simp [Codec.Slicable.result, body] at encoded
      | some okBytes =>
          simp only [Codec.Slicable.result, body, Option.map_some, Option.some.injEq] at encoded
          subst encoded
          exact (inverts_readByte 0).bind ((okLawful value okBytes body).map Except.ok)
  | error error =>
      cases body : err.encode error with
      | none => simp [Codec.Slicable.result, body] at encoded
      | some errBytes =>
          simp only [Codec.Slicable.result, body, Option.map_some, Option.some.injEq] at encoded
          subst encoded
          exact (inverts_readByte 1).bind ((errLawful error errBytes body).map Except.error)

/-- A result encodes where the side it holds does. -/
theorem result_encode_isSome {ok : Slicable α} {err : Slicable ε} {value : Except ε α}
    (okEncodes : ∀ inner, value = .ok inner → (ok.encode inner).isSome)
    (errEncodes : ∀ error, value = .error error → (err.encode error).isSome) :
    ((result ok err).encode value).isSome := by
  cases value with
  | ok inner =>
      obtain ⟨body, encoded⟩ := Option.isSome_iff_exists.mp (okEncodes inner rfl)
      simp [Codec.Slicable.result, encoded]
  | error error =>
      obtain ⟨body, encoded⟩ := Option.isSome_iff_exists.mp (errEncodes error rfl)
      simp [Codec.Slicable.result, encoded]

/-! ## Products -/

/-- `()`: nothing. -/
def unit : Slicable Unit where
  encode _ := some []
  decode := pure ()

/-- The codec of `()` decodes what it encodes. -/
theorem lawful_unit : unit.Lawful := by
  intro value bytes encoded
  cases encoded
  exact Inverts.pure value

/-- A pair, and through right nesting every tuple (`tuple_impl!`): the
components one after another. -/
def pair (first : Slicable α) (second : Slicable β) : Slicable (α × β) where
  encode value := do
    let firstBytes ← first.encode value.1
    let secondBytes ← second.encode value.2
    pure (firstBytes ++ secondBytes)
  decode := do
    let firstValue ← first.decode
    let secondValue ← second.decode
    pure (firstValue, secondValue)

/-- A pair encodes as the encodings of its two parts, one after the other. -/
theorem pair_encode {first : Slicable α} {second : Slicable β} {firstValue : α} {secondValue : β}
    {firstBytes secondBytes : Bytes} (firstEncoded : first.encode firstValue = some firstBytes)
    (secondEncoded : second.encode secondValue = some secondBytes) :
    (pair first second).encode (firstValue, secondValue) = some (firstBytes ++ secondBytes) := by
  simp [Codec.Slicable.pair, firstEncoded, secondEncoded]

/-- A pair codec decodes what it encodes, where those of its parts do. -/
theorem Lawful.pair {first : Slicable α} {second : Slicable β} (firstLawful : first.Lawful)
    (secondLawful : second.Lawful) : (pair first second).Lawful := by
  intro value bytes encoded
  simp only [Codec.Slicable.pair, Option.bind_eq_bind] at encoded
  cases firstEncoded : first.encode value.1 with
  | none => simp [firstEncoded] at encoded
  | some firstBytes =>
      cases secondEncoded : second.encode value.2 with
      | none => simp [firstEncoded, secondEncoded] at encoded
      | some secondBytes =>
          simp only [firstEncoded, secondEncoded, Option.bind_some, Option.pure_def,
            Option.some.injEq] at encoded
          subst encoded
          exact (firstLawful value.1 firstBytes firstEncoded).bind
            ((secondLawful value.2 secondBytes secondEncoded).bind_pure (Prod.mk value.1))

/-- A pair encodes where both its parts do. -/
theorem pair_encode_isSome {first : Slicable α} {second : Slicable β} {value : α × β}
    (firstEncodes : (first.encode value.1).isSome) (secondEncodes : (second.encode value.2).isSome) :
    ((pair first second).encode value).isSome := by
  obtain ⟨firstBytes, firstEncoded⟩ := Option.isSome_iff_exists.mp firstEncodes
  obtain ⟨secondBytes, secondEncoded⟩ := Option.isSome_iff_exists.mp secondEncodes
  simp [Codec.Slicable.pair, firstEncoded, secondEncoded]

/-! ## Newtypes -/

/-- A newtype over a codec: decoded with `decode(input).map(Wrapper)` and encoded
through `self.0.using_encoded`. -/
def wrap (into : α → β) (outOf : β → α) (item : Slicable α) : Slicable β where
  encode value := item.encode (outOf value)
  decode := into <$> item.decode

/-- A codec carried through a conversion decodes what it encodes, where the conversion has an
inverse. -/
theorem Lawful.wrap {item : Slicable α} (lawful : item.Lawful) {into : α → β} {outOf : β → α}
    (inverse : ∀ value, into (outOf value) = value) : (wrap into outOf item).Lawful := by
  intro value bytes encoded
  have read := (lawful (outOf value) bytes encoded).map into
  rwa [inverse] at read

end Slicable

end Codec
end Polkadot
