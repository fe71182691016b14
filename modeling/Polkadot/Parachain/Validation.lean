import Polkadot.Parachain.Wasm
import Polkadot.Codec.Parachain

/-!
# Validating candidates and collations

`validate_candidate` of `parachain/src/wasm.rs`, run on a validation module
written in Rust, and `validate_collation` of `consensus/src/collation.rs`.

Before writing `len` bytes of parameters, `validate_candidate` grows the memory
to `len / PAGE + len % PAGE` pages.  That is the number of pages `len` bytes
take, the ceiling `pagesFor`, only when the remainder is at most one byte;
otherwise it asks for one more page for every byte of the remainder.  The
growth fails exactly when both the memory and its maximum are smaller than that
(`validateCandidate_eq_memory_error`).  Where the growth succeeds, a Rust module
reads the parameters back and `validate_candidate` returns what the module
computes (`validateCandidate_rustModule`).  It panics only where the parameters
cannot be encoded (`validateCandidate_isSome`).  `validate_collation` passes the
result on: it accepts a collation exactly when the head data computed is the
receipt's.
-/

namespace Polkadot
namespace Parachain

open Foundations Codec

/-! ## The pages asked for the parameters -/

/-- The pages `len` bytes take: the ceiling of `len / PAGE`. -/
def pagesFor (len : Nat) : Nat := (len + linearMemoryPageSize - 1) / linearMemoryPageSize

/-- `call_data_pages` asks for at least the pages the bytes take. -/
theorem pagesFor_le_callDataPages (len : Nat) : pagesFor len ≤ callDataPages len := by
  unfold pagesFor callDataPages linearMemoryPageSize
  omega

/-- `call_data_pages` is the ceiling exactly when the remainder is at most one
byte. -/
theorem callDataPages_eq_pagesFor_iff (len : Nat) :
    callDataPages len = pagesFor len ↔ len % linearMemoryPageSize ≤ 1 := by
  unfold pagesFor callDataPages linearMemoryPageSize
  omega

/-- The pages asked for hold the parameters. -/
theorem le_callDataPages_mul (len : Nat) : len ≤ callDataPages len * linearMemoryPageSize := by
  unfold callDataPages linearMemoryPageSize
  omega

/-! ## Growing and writing the memory -/

section Memory

variable {M : Type} {wasmi : PagedMemory M} {memory grown : M} {len : Nat}

/-- Growing for the parameters fails, with a memory error, exactly when both the
memory and its maximum are smaller than the pages asked for. -/
theorem growForCallData_eq_error_iff (lawful : wasmi.Lawful linearMemoryPageSize linearMemoryMaxPages)
    {error : WasmError} :
    growForCallData wasmi memory len = .error error ↔
      error = .memory ∧ wasmi.pages memory < callDataPages len ∧
        (wasmi.maximum memory).getD linearMemoryMaxPages < callDataPages len := by
  unfold growForCallData
  split_ifs with smaller
  · rw [MemoryInstance.grow_eq_error, ← Option.not_isSome_iff_eq_none, lawful.grow_isSome]
    constructor
    · rintro ⟨rfl, short⟩
      exact ⟨rfl, smaller, by omega⟩
    · rintro ⟨rfl, -, short⟩
      exact ⟨rfl, by omega⟩
  · simp [smaller]

/-- After growing for the parameters the memory has the larger of its pages and
the pages asked for, the same maximum, and every range it held. -/
theorem growForCallData_eq_ok (lawful : wasmi.Lawful linearMemoryPageSize linearMemoryMaxPages)
    (grew : growForCallData wasmi memory len = .ok grown) :
    wasmi.pages grown = max (wasmi.pages memory) (callDataPages len) ∧
      wasmi.maximum grown = wasmi.maximum memory ∧
      ∀ offset length, offset + length ≤ wasmi.pages memory * linearMemoryPageSize →
        wasmi.get grown offset length = wasmi.get memory offset length := by
  unfold growForCallData at grew
  split_ifs at grew with smaller
  · rw [MemoryInstance.grow_eq_ok] at grew
    obtain ⟨pages, maximum⟩ := lawful.grow_pages grew
    exact ⟨by omega, maximum, fun _ _ inside => lawful.get_grow grew inside⟩
  · cases grew
    exact ⟨by omega, rfl, fun _ _ _ => rfl⟩

/-- The parameters fit in the memory grown for them, and read back from
offset 0. -/
theorem set_of_growForCallData (lawful : wasmi.Lawful linearMemoryPageSize linearMemoryMaxPages)
    {bytes : Bytes} (grew : growForCallData wasmi memory bytes.length = .ok grown) :
    ∃ written, MemoryInstance.set wasmi grown 0 bytes = .ok written ∧
      wasmi.get written 0 bytes.length = some bytes ∧ wasmi.pages written = wasmi.pages grown := by
  have fits : 0 + bytes.length ≤ wasmi.pages grown * linearMemoryPageSize := by
    rw [(growForCallData_eq_ok lawful grew).1]
    calc 0 + bytes.length ≤ callDataPages bytes.length * linearMemoryPageSize := by
          rw [Nat.zero_add]
          exact le_callDataPages_mul _
      _ ≤ max (wasmi.pages memory) (callDataPages bytes.length) * linearMemoryPageSize :=
          Nat.mul_le_mul_right _ (le_max_right _ _)
  obtain ⟨written, wrote⟩ := lawful.exists_set fits
  exact ⟨written, MemoryInstance.set_eq_ok.mpr wrote, lawful.get_set_self wrote, (lawful.set_pages wrote).1⟩

end Memory

/-! ## A module written in Rust -/

section RustModule

variable {M : Type} {wasmi : PagedMemory M} {memory final : M}

/-- `load_params` reads back parameters encoded in the range it is given. -/
theorem loadParams_of_read {params : ValidationParams} {bytes : Bytes} {offset : Nat}
    (encoded : params.encode = some bytes) (reads : wasmi.get memory offset bytes.length = some bytes) :
    loadParams wasmi memory offset bytes.length = .ok params := by
  have decoded : ValidationParams.decode bytes = some (params, []) := by
    simpa [StateT.run] using ValidationParams.lawful params bytes encoded []
  simp [loadParams, reads, decoded]

/-- `write_result` of a result whose encoding is shorter than `2 ^ 32` and fits
at `heap` writes the encoding and its length there, and points past the
encoding. -/
theorem writeResult_eq_ok (lawful : wasmi.Lawful linearMemoryPageSize linearMemoryMaxPages)
    {result : ValidationResult} {encoded : Bytes} {heap : Nat}
    (resultEncoded : result.encode = some encoded)
    (fits : heap + encoded.length + 4 ≤ wasmi.pages memory * linearMemoryPageSize)
    (short : encoded.length < 2 ^ 32) :
    ∃ final, writeResult wasmi memory heap result = .ok (final, heap + encoded.length) ∧
      wasmi.get final heap (encoded.length + 4) = some (encoded ++ encodeLE 4 encoded.length) := by
  have written : heap + (encoded ++ encodeLE 4 encoded.length).length ≤
      wasmi.pages memory * linearMemoryPageSize := by
    rw [List.length_append, length_encodeLE]
    omega
  obtain ⟨final, wrote⟩ := lawful.exists_set written
  have reads := lawful.get_set_self wrote
  rw [List.length_append, length_encodeLE] at reads
  have notLong : ¬ encoded.length > 2 ^ 32 - 1 := by omega
  exact ⟨final, by simp only [writeResult, resultEncoded, notLong, ↓reduceIte, wrote], reads⟩

/-- `readOutput` reads back a result written with its `u32` length just before
a pointer that fits in 32 bits. -/
theorem readOutput_of_read (lawful : wasmi.Lawful linearMemoryPageSize linearMemoryMaxPages)
    {encoded : Bytes} {value : ValidationResult} {heap : Nat}
    (reads : wasmi.get final heap (encoded.length + 4) = some (encoded ++ encodeLE 4 encoded.length))
    (decoded : ValidationResult.decode encoded = some (value, []))
    (pointerFits : heap + encoded.length < 2 ^ 32) :
    readOutput wasmi (some (.i32 (BitVec.ofNat 32 (heap + encoded.length))), final) = .ok value := by
  have bothRead : wasmi.get final heap (encoded.length + (encodeLE 4 encoded.length).length) =
      some (encoded ++ encodeLE 4 encoded.length) := by
    rwa [length_encodeLE]
  obtain ⟨resultRead, lengthRead⟩ := lawful.get_append bothRead
  rw [length_encodeLE] at lengthRead
  have pointer : (BitVec.ofNat 32 (heap + encoded.length)).toNat = heap + encoded.length :=
    Nat.mod_eq_of_lt pointerFits
  have lengthFits : encoded.length < 2 ^ (8 * 4) := by omega
  have lengthValue : (BitVec.ofNat 32 encoded.length).toNat = encoded.length :=
    Nat.mod_eq_of_lt lengthFits
  have lengthDecoded :
      Slicable.u32.decode (encodeLE 4 encoded.length) = some (BitVec.ofNat 32 encoded.length, []) := by
    simpa [StateT.run, Slicable.int, lengthValue] using
      Slicable.lawful_int 4 (BitVec.ofNat 32 encoded.length) _ rfl []
  have notAfter : ¬ encoded.length > heap + encoded.length := by omega
  simp only [readOutput, pointer, MemoryInstance.get, lengthRead, lengthDecoded, lengthValue,
    notAfter, ↓reduceIte, Nat.add_sub_cancel, resultRead, decoded]

/-- The `validate` export of a Rust module: the pointer `write_result` gives
for the result computed from the parameters `load_params` reads. -/
theorem rustModule_validate {f : ValidationParams → ValidationResult} {descriptor : MemoryDescriptor}
    {heap pointer : Nat} {offset len : BitVec 32} {params : ValidationParams}
    (loaded : loadParams wasmi memory offset.toNat len.toNat = .ok params)
    (wrote : writeResult wasmi memory heap (f params) = .ok (final, pointer)) :
    (rustModule wasmi f descriptor heap).validate memory offset len =
      .ok (some (.i32 (BitVec.ofNat 32 pointer)), final) := by
  simp only [rustModule, loaded, wrote]

end RustModule

/-! ## What `validate_candidate` returns -/

section Candidate

variable {M : Type} {wasmi : PagedMemory M} {load : Bytes → Except WasmError (Module M)}
  {validationCode : Bytes} {params : ValidationParams} {memory grown : M} {bytes : Bytes}

/-- `validate_candidate` panics only where the parameters cannot be encoded:
the memory grown for the parameters always holds them. -/
theorem validateCandidate_isSome (lawful : wasmi.Lawful linearMemoryPageSize linearMemoryMaxPages)
    (short : params.blockData.length < Slicable.lengthLimit ∧
      params.parentHead.length < Slicable.lengthLimit) :
    (validateCandidate wasmi load validationCode params).isSome := by
  obtain ⟨bytes, encoded⟩ := Option.isSome_iff_exists.mp (ValidationParams.encode_isSome short)
  unfold validateCandidate
  split
  · rfl
  · rw [encoded]
    dsimp only
    split_ifs
    · rfl
    · split
      · rfl
      · rename_i grew
        obtain ⟨written, wrote, -⟩ := set_of_growForCallData lawful grew
        rw [wrote]
        dsimp only
        split <;> rfl

/-- Where neither the memory nor its maximum has the pages asked for,
`validate_candidate` fails with a memory error, whatever the module. -/
theorem validateCandidate_eq_memory_error (lawful : wasmi.Lawful linearMemoryPageSize linearMemoryMaxPages)
    {module : Module M} (instantiated : instantiate wasmi load validationCode = .ok (module, memory))
    (encoded : params.encode = some bytes) (small : bytes.length ≤ i32Max)
    (smaller : wasmi.pages memory < callDataPages bytes.length)
    (overMaximum : (wasmi.maximum memory).getD linearMemoryMaxPages < callDataPages bytes.length) :
    validateCandidate wasmi load validationCode params = some (.error (.wasm .memory)) := by
  have failed : growForCallData wasmi memory bytes.length = .error .memory :=
    (growForCallData_eq_error_iff lawful).mpr ⟨rfl, smaller, overMaximum⟩
  have notLarge : ¬ bytes.length > i32Max := by omega
  simp only [validateCandidate, instantiated, encoded, notLarge, ↓reduceIte, failed]

/-- A Rust module whose memory, once grown for the parameters, has room for the
encoded result and its length at `heap`, below `2 ^ 32`: `validate_candidate`
returns what the module computes from the parameters. -/
theorem validateCandidate_rustModule (lawful : wasmi.Lawful linearMemoryPageSize linearMemoryMaxPages)
    {f : ValidationParams → ValidationResult} {descriptor : MemoryDescriptor} {heap : Nat}
    {result : Bytes}
    (instantiated : instantiate wasmi load validationCode = .ok (rustModule wasmi f descriptor heap, memory))
    (encoded : params.encode = some bytes) (small : bytes.length ≤ i32Max)
    (grew : growForCallData wasmi memory bytes.length = .ok grown)
    (resultEncoded : (f params).encode = some result)
    (fits : heap + result.length + 4 ≤ wasmi.pages grown * linearMemoryPageSize)
    (pointerFits : heap + result.length < 2 ^ 32) :
    validateCandidate wasmi load validationCode params = some (.ok (f params)) := by
  obtain ⟨written, wrote, paramsRead, samePages⟩ := set_of_growForCallData lawful grew
  have lenValue : (BitVec.ofNat 32 bytes.length).toNat = bytes.length :=
    Nat.mod_eq_of_lt (by unfold i32Max at small; omega)
  have loaded : loadParams wasmi written (0 : BitVec 32).toNat (BitVec.ofNat 32 bytes.length).toNat =
      .ok params := by
    rw [lenValue]
    exact loadParams_of_read encoded paramsRead
  obtain ⟨final, resultWritten, resultRead⟩ :=
    writeResult_eq_ok lawful resultEncoded (samePages ▸ fits) (by omega)
  have validated :
      (rustModule wasmi f descriptor heap).validate written 0 (BitVec.ofNat 32 bytes.length) =
        .ok (some (.i32 (BitVec.ofNat 32 (heap + result.length))), final) :=
    rustModule_validate loaded resultWritten
  have output := readOutput_of_read lawful resultRead
    (by simpa [StateT.run] using ValidationResult.lawful _ _ resultEncoded []) pointerFits
  have notLarge : ¬ bytes.length > i32Max := by omega
  simp only [validateCandidate, instantiated, encoded, notLarge, ↓reduceIte, grew, wrote,
    validated, output]

end Candidate

/-! ## Validating a collation -/

/-- `Collation`: the bytes of its `BlockData` and the candidate receipt. -/
structure Collation where
  blockData : Bytes
  receipt : CandidateReceipt

/-- The errors of `validate_collation` other than those of the client. -/
inductive CollationError
  | inactiveParachain (id : Id)
  | validationFailure
  | wrongHeadData (expected got : Bytes)
  deriving DecidableEq

/-- `validate_collation`, with the validation code and the head that the client
holds for the parachain at the relay parent; `none` where `validate_candidate`
panics. -/
def validateCollation {M : Type} (wasmi : PagedMemory M) (load : Bytes → Except WasmError (Module M))
    (parachainCode parachainHead : Option Bytes) (collation : Collation) :
    Option (Except CollationError Unit) :=
  let paraId := collation.receipt.parachainIndex
  match parachainCode, parachainHead with
  | none, _ => some (.error (.inactiveParachain paraId))
  | some _, none => some (.error (.inactiveParachain paraId))
  | some validationCode, some chainHead =>
      let params : ValidationParams := ⟨collation.blockData, chainHead⟩
      (validateCandidate wasmi load validationCode params).map fun
        | .ok result =>
            if result.headData = collation.receipt.headData.bytes then .ok ()
            else .error (.wrongHeadData collation.receipt.headData.bytes result.headData)
        | .error _ => .error .validationFailure

section Collation

variable {M : Type} {wasmi : PagedMemory M} {load : Bytes → Except WasmError (Module M)}
  {validationCode chainHead : Bytes} {collation : Collation}

/-- A candidate that fails validation makes a validation failure of the
collation. -/
theorem validateCollation_of_error {error : Error}
    (failed : validateCandidate wasmi load validationCode ⟨collation.blockData, chainHead⟩ =
      some (.error error)) :
    validateCollation wasmi load (some validationCode) (some chainHead) collation =
      some (.error .validationFailure) := by
  simp [validateCollation, failed]

/-- A candidate that passes validation makes the collation valid exactly when
its head data is the receipt's. -/
theorem validateCollation_of_ok {result : ValidationResult}
    (validated : validateCandidate wasmi load validationCode ⟨collation.blockData, chainHead⟩ =
      some (.ok result)) :
    validateCollation wasmi load (some validationCode) (some chainHead) collation = some (.ok ()) ↔
      result.headData = collation.receipt.headData.bytes := by
  simp only [validateCollation, validated, Option.map_some]
  split_ifs with same
  · simp [same]
  · simp [same]

end Collation

/-- `validate_candidate` grows the memory to `len / PAGE + len % PAGE` pages, at least the pages the
parameters take and as many only when the remainder is at most one byte; where neither the memory
nor its maximum has them it fails, and where it has them a Rust module's result is returned and a
collation judged by its head data. -/
theorem validateCandidate_asks_remainder_pages {M : Type} (wasmi : PagedMemory M)
    (lawful : wasmi.Lawful linearMemoryPageSize linearMemoryMaxPages) :
    (∀ len, pagesFor len ≤ callDataPages len ∧
      (callDataPages len = pagesFor len ↔ len % linearMemoryPageSize ≤ 1)) ∧
    (∀ (memory grown : M) len, growForCallData wasmi memory len = .ok grown →
      wasmi.pages grown = max (wasmi.pages memory) (callDataPages len)) ∧
    (∀ load validationCode (params : ValidationParams) module (memory : M) bytes,
      instantiate wasmi load validationCode = .ok (module, memory) → params.encode = some bytes →
      bytes.length ≤ i32Max → wasmi.pages memory < callDataPages bytes.length →
      (wasmi.maximum memory).getD linearMemoryMaxPages < callDataPages bytes.length →
      validateCandidate wasmi load validationCode params = some (.error (.wasm .memory))) ∧
    (∀ load validationCode (params : ValidationParams) f descriptor heap (memory grown : M) bytes result,
      instantiate wasmi load validationCode = .ok (rustModule wasmi f descriptor heap, memory) →
      params.encode = some bytes → bytes.length ≤ i32Max →
      growForCallData wasmi memory bytes.length = .ok grown → (f params).encode = some result →
      heap + result.length + 4 ≤ wasmi.pages grown * linearMemoryPageSize →
      heap + result.length < 2 ^ 32 →
      validateCandidate wasmi load validationCode params = some (.ok (f params))) ∧
    (∀ load validationCode (params : ValidationParams),
      params.blockData.length < Slicable.lengthLimit →
      params.parentHead.length < Slicable.lengthLimit →
      (validateCandidate wasmi load validationCode params).isSome) ∧
    (∀ load validationCode chainHead (collation : Collation) error,
      validateCandidate wasmi load validationCode ⟨collation.blockData, chainHead⟩ =
        some (.error error) →
      validateCollation wasmi load (some validationCode) (some chainHead) collation =
        some (.error .validationFailure)) ∧
    (∀ load validationCode chainHead (collation : Collation) result,
      validateCandidate wasmi load validationCode ⟨collation.blockData, chainHead⟩ = some (.ok result) →
      (validateCollation wasmi load (some validationCode) (some chainHead) collation = some (.ok ()) ↔
        result.headData = collation.receipt.headData.bytes)) :=
  ⟨fun len => ⟨pagesFor_le_callDataPages len, callDataPages_eq_pagesFor_iff len⟩,
    fun _ _ _ grew => (growForCallData_eq_ok lawful grew).1,
    fun _ _ _ _ _ _ instantiated encoded small smaller overMaximum =>
      validateCandidate_eq_memory_error lawful instantiated encoded small smaller overMaximum,
    fun _ _ _ _ _ _ _ _ _ _ instantiated encoded small grew resultEncoded fits pointerFits =>
      validateCandidate_rustModule lawful instantiated encoded small grew resultEncoded fits pointerFits,
    fun _ _ _ blockShort headShort => validateCandidate_isSome lawful ⟨blockShort, headShort⟩,
    fun _ _ _ _ _ failed => validateCollation_of_error failed,
    fun _ _ _ _ _ validated => validateCollation_of_ok validated⟩

/-- Over the linear memories of `Foundations`, which are memories of `wasmi`:
twenty thousand bytes of parameters take one page.  A Rust module that may
grow to the whole 1 GiB, and computes the receipt's head data, still has its
collation rejected, because twenty thousand pages are asked for.  A module
without a maximum gets them, past `MAX_MEM`. -/
theorem validateCollation_rejects_twenty_thousand_bytes :
    (LinearMemory.paged linearMemoryPageSize linearMemoryMaxPages).Lawful linearMemoryPageSize linearMemoryMaxPages ∧
    pagesFor 20000 = 1 ∧ callDataPages 20000 = 20000 ∧
      validateCollation (LinearMemory.paged linearMemoryPageSize linearMemoryMaxPages)
          (fun _ => .ok (rustModule (LinearMemory.paged linearMemoryPageSize linearMemoryMaxPages) (fun params => ⟨params.parentHead⟩) ⟨1, some 16384⟩ 65536))
          (some []) (some [])
          ⟨List.replicate 19992 0, ⟨⟨0⟩, ⟨Vector.replicate 32 0⟩, ⟨[]⟩, [], [], 0⟩⟩ =
        some (.error .validationFailure) ∧
      ∃ memory grown,
        resolveMemory (LinearMemory.paged linearMemoryPageSize linearMemoryMaxPages) (maxMem / linearMemoryPageSize) "memory" ⟨1, none⟩ = .ok memory ∧
        growForCallData (LinearMemory.paged linearMemoryPageSize linearMemoryMaxPages) memory 20000 = .ok grown ∧
        maxMem < (LinearMemory.paged linearMemoryPageSize linearMemoryMaxPages).pages grown * linearMemoryPageSize := by
  have lawful := LinearMemory.paged_lawful linearMemoryPageSize linearMemoryMaxPages
  obtain ⟨-, -, rejected, -, -, collationRejected, -⟩ := validateCandidate_asks_remainder_pages (LinearMemory.paged linearMemoryPageSize linearMemoryMaxPages) lawful
  have headShort : ([] : Bytes).length < Slicable.lengthLimit := by decide
  have encoded : ValidationParams.encode ⟨List.replicate 19992 0, []⟩ =
      some (encodeLE 4 19992 ++ List.replicate 19992 0 ++ (encodeLE 4 0 ++ [])) := by
    simp only [ValidationParams.encode, Slicable.byteVec, if_pos headShort, List.length_replicate,
      Option.bind_eq_bind, Option.bind_some, Option.pure_def]
    rfl
  have length : (encodeLE 4 19992 ++ List.replicate 19992 0 ++ (encodeLE 4 0 ++ [])).length = 20000 := by
    simp only [List.length_append, length_encodeLE, List.length_replicate, List.length_nil]
  have failed := rejected
    (fun _ => .ok (rustModule (LinearMemory.paged linearMemoryPageSize linearMemoryMaxPages) (fun params => ⟨params.parentHead⟩) ⟨1, some 16384⟩ 65536)) []
    _ _ (LinearMemory.zeroed 1 (some 16384)) _ rfl encoded
    (by rw [length]; decide) (by rw [length]; decide) (by rw [length]; decide)
  exact ⟨lawful, by decide, by decide, collationRejected _ _ _ _ _ failed, _, _, rfl, rfl, by decide⟩

end Parachain
end Polkadot
