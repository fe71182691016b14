import Mathlib

/-!
# Byte codecs that consume a prefix

A decoder is a program over the input that is left (`StateT` over a byte
list, failing with `none`); an encoder may fail.  A decoder inverts an
encoding when it reads the value back from the encoding followed by anything
and leaves exactly what followed.  Encodings built by concatenation are read
back by sequencing, and the laws below compose along that structure: a pure
value, a bind, a map, single bytes, little-endian numbers and counted runs
of items.
-/

namespace Foundations

/-- A byte string. -/
abbrev Bytes := List UInt8

/-- A decoder: reads a value from the front of the input. -/
abbrev Decoder (α : Type) := StateT Bytes Option α

variable {α β : Type}

/-- `decode` reads `value` back from `bytes` followed by anything, and
leaves exactly what followed. -/
def Inverts (decode : Decoder α) (value : α) (bytes : Bytes) : Prop :=
  ∀ rest, decode.run (bytes ++ rest) = some (value, rest)

/-- Every encoding that `encode` produces is read back by `decode`. -/
def Lawful (encode : α → Option Bytes) (decode : Decoder α) : Prop :=
  ∀ value bytes, encode value = some bytes → Inverts decode value bytes

/-- Two values with the same encoding under a lawful codec are equal. -/
theorem Lawful.injective {encode : α → Option Bytes} {decode : Decoder α}
    (lawful : Lawful encode decode) {first second : α} {bytes : Bytes}
    (firstEncoded : encode first = some bytes) (secondEncoded : encode second = some bytes) :
    first = second := by
  have firstRead := lawful first bytes firstEncoded []
  have secondRead := lawful second bytes secondEncoded []
  rw [firstRead] at secondRead
  exact (Prod.mk.inj (Option.some.inj secondRead)).1

/-- A bound decoder runs the first, then the next on the rest. -/
theorem decoder_bind_apply (first : Decoder α) (next : α → Decoder β) (input : Bytes) :
    (first >>= next) input =
      match first input with
      | none => none
      | some (value, rest) => next value rest := by
  cases result : first input with
  | none => simp [Bind.bind, StateT.bind, Option.bind, result]
  | some pair =>
      cases pair
      simp [Bind.bind, StateT.bind, Option.bind, result]

/-- A mapped decoder maps the value and keeps the rest. -/
theorem decoder_map_apply (f : α → β) (decode : Decoder α) (input : Bytes) :
    (f <$> decode) input =
      match decode input with
      | none => none
      | some (value, rest) => some (f value, rest) := by
  cases result : decode input with
  | none => simp [Functor.map, StateT.map, result]
  | some pair =>
      cases pair
      simp [Functor.map, StateT.map, result]

/-- `pure` reads its value from no bytes. -/
theorem Inverts.pure (value : α) : Inverts (pure value : Decoder α) value [] := by
  intro rest
  rfl

/-- Decoders that read their values from two runs of bytes read them in turn from both. -/
theorem Inverts.bind {first : Decoder α} {next : α → Decoder β} {value : α} {result : β}
    {bytes more : Bytes} (firstInverts : Inverts first value bytes)
    (nextInverts : Inverts (next value) result more) :
    Inverts (first >>= next) result (bytes ++ more) := by
  intro rest
  have firstRun : first (bytes ++ (more ++ rest)) = some (value, more ++ rest) :=
    firstInverts (more ++ rest)
  have nextRun : next value (more ++ rest) = some (result, rest) := nextInverts rest
  show (first >>= next) ((bytes ++ more) ++ rest) = some (result, rest)
  rw [List.append_assoc, decoder_bind_apply, firstRun]
  exact nextRun

/-- A decoder followed by a pure step. -/
theorem Inverts.map (f : α → β) {decode : Decoder α} {value : α} {bytes : Bytes}
    (inverts : Inverts decode value bytes) : Inverts (f <$> decode) (f value) bytes := by
  intro rest
  have run : decode (bytes ++ rest) = some (value, rest) := inverts rest
  show (f <$> decode) (bytes ++ rest) = some (f value, rest)
  rw [decoder_map_apply, run]

/-- A decoder that finishes with a pure step. -/
theorem Inverts.bind_pure (f : α → β) {first : Decoder α} {value : α} {bytes : Bytes}
    (inverts : Inverts first value bytes) :
    Inverts (first >>= fun read => Pure.pure (f read)) (f value) bytes := by
  have read : Inverts (first >>= fun read => Pure.pure (f read)) (f value) (bytes ++ []) :=
    inverts.bind (Inverts.pure (f value))
  rwa [List.append_nil] at read

/-! ## Bytes -/

/-- Read one byte (`Input::read_byte`). -/
def readByte : Decoder UInt8 := fun input =>
  match input with
  | [] => none
  | byte :: rest => some (byte, rest)

/-- `readByte` reads a byte from itself. -/
theorem inverts_readByte (byte : UInt8) : Inverts readByte byte [byte] := by
  intro rest
  rfl

/-- Read exactly `count` bytes, failing when fewer are left. -/
def readBytes (count : Nat) : Decoder Bytes := fun input =>
  if count ≤ input.length then some (input.take count, input.drop count) else none

/-- `readBytes` reads bytes from themselves. -/
theorem inverts_readBytes (bytes : Bytes) : Inverts (readBytes bytes.length) bytes bytes := by
  intro rest
  simp [StateT.run, readBytes]

/-- Read exactly `count` raw bytes into an array. -/
def readVector (count : Nat) : Decoder (Vector UInt8 count) := fun input =>
  if fits : count ≤ input.length then
    some (⟨(input.take count).toArray, by simp [fits]⟩, input.drop count)
  else none

/-- `readVector` reads a vector of bytes from its bytes. -/
theorem inverts_readVector {count : Nat} (bytes : Vector UInt8 count) :
    Inverts (readVector count) bytes bytes.toList := by
  intro rest
  have fits : count ≤ (bytes.toList ++ rest).length := by simp
  simp only [StateT.run, readVector, dif_pos fits, Option.some.injEq, Prod.mk.injEq]
  constructor
  · apply Vector.toList_inj.mp
    simp
  · simp

/-! ## Little-endian numbers -/

/-- The `width` low bytes of a number, least significant first. -/
def encodeLE : Nat → Nat → Bytes
  | 0, _ => []
  | width + 1, value => UInt8.ofNat (value % 256) :: encodeLE width (value / 256)

/-- The number whose little-endian bytes are given. -/
def valueLE : Bytes → Nat
  | [] => 0
  | byte :: rest => byte.toNat + 256 * valueLE rest

/-- A little-endian encoding has its width. -/
@[simp] theorem length_encodeLE (width value : Nat) : (encodeLE width value).length = width := by
  induction width generalizing value with
  | zero => rfl
  | succ width ih => simp [encodeLE, ih]

/-- A value that fits reads back from its little-endian encoding. -/
theorem valueLE_encodeLE (width value : Nat) (fits : value < 256 ^ width) :
    valueLE (encodeLE width value) = value := by
  induction width generalizing value with
  | zero =>
      simp only [Nat.pow_zero, Nat.lt_one_iff] at fits
      simp [encodeLE, valueLE, fits]
  | succ width ih =>
      -- the low byte, then the rest of the number shifted down by a byte
      have restFits : value / 256 < 256 ^ width := by
        rw [Nat.div_lt_iff_lt_mul (by decide)]
        simpa [Nat.pow_succ] using fits
      have lowByte : (UInt8.ofNat (value % 256)).toNat = value % 256 := by
        simp [Nat.mod_mod_of_dvd]
      simp only [encodeLE, valueLE, lowByte, ih (value / 256) restFits]
      omega

/-- Read a `width`-byte little-endian number. -/
def decodeLE (width : Nat) : Decoder Nat := valueLE <$> readBytes width

/-- `decodeLE` reads a value that fits from its little-endian encoding. -/
theorem inverts_decodeLE {width value : Nat} (fits : value < 256 ^ width) :
    Inverts (decodeLE width) value (encodeLE width value) := by
  have read := (inverts_readBytes (encodeLE width value)).map valueLE
  rw [length_encodeLE, valueLE_encodeLE width value fits] at read
  exact read

/-! ## Counted runs of items -/

/-- Encode items one after another; fails when one of them fails. -/
def encodeItems (encode : α → Option Bytes) : List α → Option Bytes
  | [] => some []
  | item :: rest => do
      let head ← encode item
      let tail ← encodeItems encode rest
      pure (head ++ tail)

/-- Decode `count` items one after another. -/
def decodeItems (decode : Decoder α) : Nat → Decoder (List α)
  | 0 => pure []
  | count + 1 => do
      let item ← decode
      let rest ← decodeItems decode count
      pure (item :: rest)

/-- Items whose decoder reads each from its encoding are read back, one after the other, from their
encodings. -/
theorem inverts_decodeItems {encode : α → Option Bytes} {decode : Decoder α} :
    ∀ (items : List α) {bytes : Bytes},
      (∀ item ∈ items, ∀ itemBytes, encode item = some itemBytes →
        Inverts decode item itemBytes) →
      encodeItems encode items = some bytes →
      Inverts (decodeItems decode items.length) items bytes
  | [], bytes, _, encoded => by
      cases encoded
      exact Inverts.pure []
  | item :: rest, bytes, lawful, encoded => by
      simp only [encodeItems, Option.bind_eq_bind] at encoded
      cases itemEncoded : encode item with
      | none => simp [itemEncoded] at encoded
      | some head =>
          cases restEncoded : encodeItems encode rest with
          | none => simp [itemEncoded, restEncoded] at encoded
          | some tail =>
              simp only [itemEncoded, restEncoded, Option.bind_some, Option.pure_def,
                Option.some.injEq] at encoded
              subst encoded
              have first := lawful item List.mem_cons_self head itemEncoded
              have later := inverts_decodeItems rest
                (fun other member => lawful other (List.mem_cons_of_mem _ member)) restEncoded
              rw [← List.append_nil tail]
              exact first.bind (later.bind (Inverts.pure _))

/-- The encoding of joined items is the two encodings joined. -/
theorem encodeItems_append (encode : α → Option Bytes) (items more : List α) :
    encodeItems encode (items ++ more) =
      (encodeItems encode items).bind fun front =>
        (encodeItems encode more).map fun back => front ++ back := by
  induction items with
  | nil => cases encoded : encodeItems encode more <;> simp [encodeItems, encoded]
  | cons item rest ih =>
      simp only [List.cons_append, encodeItems, ih]
      cases encode item <;> cases encodeItems encode rest <;> cases encodeItems encode more <;>
        simp [List.append_assoc]

/-- Decode `count` items into an array, in order. -/
def decodeVector (decode : Decoder α) : (count : Nat) → Decoder (Vector α count)
  | 0 => pure #v[]
  | count + 1 => do
      let init ← decodeVector decode count
      let last ← decode
      pure (init.push last)

/-- A vector of items is read back from the encodings of its items. -/
theorem inverts_decodeVector {encode : α → Option Bytes} {decode : Decoder α} :
    ∀ (count : Nat) (items : Vector α count) {bytes : Bytes},
      (∀ item ∈ items.toList, ∀ itemBytes, encode item = some itemBytes →
        Inverts decode item itemBytes) →
      encodeItems encode items.toList = some bytes →
      Inverts (decodeVector decode count) items bytes
  | 0, items, bytes, _, encoded => by
      have empty : items = #v[] := Vector.toList_inj.mp (by simp)
      subst empty
      cases encoded
      exact Inverts.pure _
  | count + 1, items, bytes, lawful, encoded => by
      -- split off the last item, which the decoder reads last
      rw [← Vector.push_pop_back items] at lawful encoded ⊢
      rw [Vector.toList_push, encodeItems_append] at encoded
      simp only [encodeItems, Option.bind_eq_bind] at encoded
      cases initEncoded : encodeItems encode items.pop.toList with
      | none => simp [initEncoded] at encoded
      | some front =>
          cases lastEncoded : encode items.back with
          | none => simp [initEncoded, lastEncoded] at encoded
          | some back =>
              simp only [initEncoded, lastEncoded, Option.bind_some, Option.pure_def,
                List.append_nil, Option.map_some, Option.some.injEq] at encoded
              subst encoded
              rw [Vector.toList_push] at lawful
              have init := inverts_decodeVector count items.pop
                (fun item member => lawful item (List.mem_append_left _ member)) initEncoded
              have last := lawful items.back (by simp) back lastEncoded
              rw [← List.append_nil back]
              exact init.bind (last.bind (Inverts.pure _))

/-- Items that each encode encode together. -/
theorem encodeItems_isSome {encode : α → Option Bytes} :
    ∀ (items : List α), (∀ item ∈ items, (encode item).isSome) →
      (encodeItems encode items).isSome
  | [], _ => rfl
  | item :: rest, encodes => by
      obtain ⟨head, itemEncoded⟩ :=
        Option.isSome_iff_exists.mp (encodes item List.mem_cons_self)
      obtain ⟨tail, restEncoded⟩ := Option.isSome_iff_exists.mp
        (encodeItems_isSome rest fun other member => encodes other (List.mem_cons_of_mem _ member))
      simp [encodeItems, itemEncoded, restEncoded]

end Foundations
