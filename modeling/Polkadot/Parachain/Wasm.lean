import Polkadot.Codec.Slicable
import Polkadot.Foundations.LinearMemory

/-!
# Executing a parachain's validation code

`parachain/src/wasm.rs` and the ABI of `parachain/src/lib.rs`.
`validate_candidate` instantiates the validation code with a resolver that
hands it a memory of at most 1 GiB, writes the encoded `ValidationParams` at
offset 0, calls the module's `validate(offset, len)` export, and reads the
`ValidationResult` that lies before the length the returned pointer points to.
Before writing the parameters it grows the memory to `len / PAGE + len % PAGE`
pages (`callDataPages`).

The wasm interpreter, `wasmi`, is not part of the repository.  Its memories are
a parameter `wasmi : PagedMemory M`, whose laws, where a result needs them, are
those of pages of 64 KiB that grow up to their maximum, or to 65536 pages
without one (`PagedMemory.Lawful linearMemoryPageSize linearMemoryMaxPages`);
its errors are kept by kind.  A loaded module is what
`validate_candidate` uses of it: the memory it imports, its start function and
its `validate` export.  `load_params` and `write_result`, which a parachain
written in Rust runs inside its `validate`, are modelled over that memory.
-/

namespace Polkadot
namespace Parachain

open Foundations Codec

/-- `LINEAR_MEMORY_PAGE_SIZE` of `wasmi`: 64 KiB. -/
def linearMemoryPageSize : Nat := 65536

/-- The pages a `wasmi` memory without a maximum may grow to: 4 GiB. -/
def linearMemoryMaxPages : Nat := 65536

/-- `MAX_MEM` of `validate_candidate`: 1 GiB. -/
def maxMem : Nat := 1024 * 1024 * 1024

/-- `i32::max_value()`. -/
def i32Max : Nat := 2 ^ 31 - 1

/-- The errors of `wasmi` that `validate_candidate` passes on: an instantiation
error with its message, a memory access or growth out of bounds, and a trap of
the module. -/
inductive WasmError
  | instantiation (message : String)
  | memory
  | trap
  deriving DecidableEq, Repr

variable {M : Type} (wasmi : PagedMemory M)

namespace MemoryInstance

/-- `MemoryInstance::alloc`, whose refusal is a memory error. -/
def alloc (initial : Nat) (maximum : Option Nat) : Except WasmError M :=
  match wasmi.alloc initial maximum with
  | some memory => .ok memory
  | none => .error .memory

/-- `MemoryInstance::grow` by `additional` pages. -/
def grow (memory : M) (additional : Nat) : Except WasmError M :=
  match wasmi.grow memory additional with
  | some memory => .ok memory
  | none => .error .memory

/-- `MemoryInstance::set`. -/
def set (memory : M) (offset : Nat) (value : Bytes) : Except WasmError M :=
  match wasmi.set memory offset value with
  | some memory => .ok memory
  | none => .error .memory

/-- `MemoryInstance::get`, and `get_into` into a buffer of `size` bytes. -/
def get (memory : M) (offset size : Nat) : Except WasmError Bytes :=
  match wasmi.get memory offset size with
  | some bytes => .ok bytes
  | none => .error .memory

variable {wasmi} {memory written : M}

/-- `grow` succeeds with the memory `wasmi` grows. -/
@[simp] theorem grow_eq_ok {additional : Nat} :
    grow wasmi memory additional = .ok written ↔ wasmi.grow memory additional = some written := by
  unfold grow
  cases wasmi.grow memory additional <;> simp

/-- `grow` fails with a memory error exactly when `wasmi` refuses. -/
@[simp] theorem grow_eq_error {additional : Nat} {error : WasmError} :
    grow wasmi memory additional = .error error ↔ error = .memory ∧ wasmi.grow memory additional = none := by
  unfold grow
  cases wasmi.grow memory additional <;> simp [eq_comm]

/-- `set` succeeds with the memory `wasmi` writes. -/
@[simp] theorem set_eq_ok {offset : Nat} {value : Bytes} :
    set wasmi memory offset value = .ok written ↔ wasmi.set memory offset value = some written := by
  unfold set
  cases wasmi.set memory offset value <;> simp

/-- `get` succeeds with the bytes `wasmi` reads. -/
@[simp] theorem get_eq_ok {offset size : Nat} {bytes : Bytes} :
    get wasmi memory offset size = .ok bytes ↔ wasmi.get memory offset size = some bytes := by
  unfold get
  cases wasmi.get memory offset size <;> simp

end MemoryInstance

/-- `MemoryDescriptor`: the pages an imported memory asks for. -/
structure MemoryDescriptor where
  initial : Nat
  maximum : Option Nat

/-- `Resolver::resolve_memory`, with `max_memory` in pages. -/
def resolveMemory (maxMemory : Nat) (fieldName : String) (descriptor : MemoryDescriptor) :
    Except WasmError M :=
  if fieldName = "memory" then
    let effectiveMax := descriptor.maximum.getD maxMemory
    if descriptor.initial > maxMemory ∨ effectiveMax > maxMemory then
      .error (.instantiation "Module requested too much memory")
    else MemoryInstance.alloc wasmi descriptor.initial descriptor.maximum
  else .error (.instantiation "Memory imported under unknown name")

/-- `RuntimeValue` of `wasmi`, each type by its bits. -/
inductive RuntimeValue
  | i32 (value : BitVec 32)
  | i64 (value : BitVec 64)
  | f32 (bits : BitVec 32)
  | f64 (bits : BitVec 64)

/-- What `validate_candidate` uses of a loaded module: the memory it imports
from `env`, under its field name; its start function, run on the instantiated
memory; and its `validate` export, from the memory and the two `i32`
arguments to the value it returns and the memory after, or a trap. -/
structure Module (M : Type) where
  memoryImport : Option (String × MemoryDescriptor)
  start : M → Except WasmError M
  validate : M → BitVec 32 → BitVec 32 → Except WasmError (Option RuntimeValue × M)

/-- `ValidationParams`. -/
structure ValidationParams where
  blockData : Bytes
  parentHead : Bytes

/-- `ValidationParams::encode`: the block data, then the parent head, each a
`Vec<u8>`. -/
def ValidationParams.encode (params : ValidationParams) : Option Bytes := do
  let blockData ← Slicable.byteVec.encode params.blockData
  let parentHead ← Slicable.byteVec.encode params.parentHead
  pure (blockData ++ parentHead)

/-- `ValidationParams::decode`. -/
def ValidationParams.decode : Decoder ValidationParams := do
  let blockData ← Slicable.byteVec.decode
  let parentHead ← Slicable.byteVec.decode
  pure ⟨blockData, parentHead⟩

/-- Parameters whose vectors are shorter than `2 ^ 32` encode. -/
theorem ValidationParams.encode_isSome {params : ValidationParams}
    (short : params.blockData.length < Slicable.lengthLimit ∧
      params.parentHead.length < Slicable.lengthLimit) :
    params.encode.isSome := by
  obtain ⟨blockBytes, blockEncoded⟩ := Option.isSome_iff_exists.mp (Slicable.byteVec_encode_isSome short.1)
  obtain ⟨headBytes, headEncoded⟩ := Option.isSome_iff_exists.mp (Slicable.byteVec_encode_isSome short.2)
  simp [ValidationParams.encode, blockEncoded, headEncoded]

/-- `ValidationParams` decode from their encoding. -/
theorem ValidationParams.lawful : Lawful ValidationParams.encode ValidationParams.decode := by
  intro params bytes encoded
  simp only [ValidationParams.encode, Option.bind_eq_bind] at encoded
  cases blockEncoded : Slicable.byteVec.encode params.blockData with
  | none => simp [blockEncoded] at encoded
  | some blockBytes =>
      cases headEncoded : Slicable.byteVec.encode params.parentHead with
      | none => simp [blockEncoded, headEncoded] at encoded
      | some headBytes =>
          simp only [blockEncoded, headEncoded, Option.bind_some, Option.pure_def,
            Option.some.injEq] at encoded
          subst encoded
          exact (Slicable.lawful_byteVec _ _ blockEncoded).bind
            ((Slicable.lawful_byteVec _ _ headEncoded).bind_pure (ValidationParams.mk params.blockData))

/-- `ValidationResult`. -/
structure ValidationResult where
  headData : Bytes

/-- `ValidationResult::encode`: the head data as a `Vec<u8>`. -/
def ValidationResult.encode (result : ValidationResult) : Option Bytes :=
  Slicable.byteVec.encode result.headData

/-- `ValidationResult::decode`. -/
def ValidationResult.decode : Decoder ValidationResult :=
  ValidationResult.mk <$> Slicable.byteVec.decode

/-- `ValidationResult` decodes from its encoding. -/
theorem ValidationResult.lawful : Lawful ValidationResult.encode ValidationResult.decode :=
  fun result _ encoded => (Slicable.lawful_byteVec result.headData _ encoded).map ValidationResult.mk

/-- The errors of `wasm.rs`: those of `wasmi`, `ParamsTooLarge` and
`BadReturn`. -/
inductive Error
  | wasm (error : WasmError)
  | paramsTooLarge (len : Nat)
  | badReturn
  deriving DecidableEq

/-- Loading the validation code, instantiating it with the resolver of at most
`MAX_MEM` bytes of memory, and running its start function. -/
def instantiate (load : Bytes → Except WasmError (Module M)) (validationCode : Bytes) :
    Except WasmError (Module M × M) := do
  let module ← load validationCode
  let memory ← match module.memoryImport with
    | some (fieldName, descriptor) =>
        resolveMemory wasmi (maxMem / linearMemoryPageSize) fieldName descriptor
    | none => throw (.instantiation "No imported memory instance")
  let memory ← module.start memory
  pure (module, memory)

/-- `call_data_pages`: the pages `validate_candidate` makes room for before
writing `len` bytes of parameters. -/
def callDataPages (len : Nat) : Nat :=
  len / linearMemoryPageSize + len % linearMemoryPageSize

/-- Growing the memory to `call_data_pages` when it is smaller. -/
def growForCallData (memory : M) (len : Nat) : Except WasmError M :=
  if wasmi.pages memory < callDataPages len then
    MemoryInstance.grow wasmi memory (callDataPages len - wasmi.pages memory)
  else .ok memory

/-- Reading the result back from what `validate` returned: the `u32` length at
the returned pointer, and the encoded result of that length just before it. -/
def readOutput : Option RuntimeValue × M → Except Error ValidationResult
  | (some (.i32 lenOffset), memory) =>
      let lenOffset := lenOffset.toNat
      match MemoryInstance.get wasmi memory lenOffset 4 with
      | .error error => .error (.wasm error)
      | .ok lenBytes =>
          match Slicable.u32.decode lenBytes with
          | none => .error .badReturn
          | some (len, _) =>
              if len.toNat > lenOffset then .error .badReturn
              else
                match MemoryInstance.get wasmi memory (lenOffset - len.toNat) len.toNat with
                | .error error => .error (.wasm error)
                | .ok rawReturn =>
                    match ValidationResult.decode rawReturn with
                    | some (result, _) => .ok result
                    | none => .error .badReturn
  | _ => .error .badReturn

/-- `validate_candidate`; `none` where it panics. -/
def validateCandidate (load : Bytes → Except WasmError (Module M)) (validationCode : Bytes)
    (params : ValidationParams) : Option (Except Error ValidationResult) :=
  match instantiate wasmi load validationCode with
  | .error error => some (.error (.wasm error))
  | .ok (module, memory) =>
      match params.encode with
      | none => none
      | some encodedCallData =>
          -- hard limit from WASM
          if encodedCallData.length > i32Max then
            some (.error (.paramsTooLarge encodedCallData.length))
          else
            match growForCallData wasmi memory encodedCallData.length with
            | .error error => some (.error (.wasm error))
            | .ok memory =>
                -- the `expect` after growing: a panic if the parameters do not fit
                match MemoryInstance.set wasmi memory 0 encodedCallData with
                | .error _ => none
                | .ok memory =>
                    match module.validate memory 0 (BitVec.ofNat 32 encodedCallData.length) with
                    | .error error => some (.error (.wasm error))
                    | .ok output => some (readOutput wasmi output)

/-! ## A parachain written in Rust -/

/-- `load_params`, run inside `validate`: the parameters encoded in
`[offset, offset + len)`.  A read outside the memory, or invalid data
(`expect`), traps. -/
def loadParams (memory : M) (offset len : Nat) : Except WasmError ValidationParams :=
  match wasmi.get memory offset len with
  | none => .error .trap
  | some slice =>
      match ValidationParams.decode slice with
      | some (params, _) => .ok params
      | none => .error .trap

/-- `write_result`, with the allocator placing the vector at `heap`: the
encoded result followed by its `u32` length, and the pointer to that length.
The assertion on the length, and a write outside the memory, trap. -/
def writeResult (memory : M) (heap : Nat) (result : ValidationResult) :
    Except WasmError (M × Nat) :=
  match result.encode with
  | none => .error .trap
  | some encoded =>
      if encoded.length > 2 ^ 32 - 1 then .error .trap
      else
        match wasmi.set memory heap (encoded ++ encodeLE 4 encoded.length) with
        | none => .error .trap
        | some memory => .ok (memory, heap + encoded.length)

/-- A parachain module written in Rust with `load_params` and `write_result`:
it imports `env.memory` with `descriptor`, its start function does nothing,
and its `validate` returns the pointer `write_result` gives for `f` of the
parameters, the allocator placing the result at `heap`. -/
def rustModule (f : ValidationParams → ValidationResult) (descriptor : MemoryDescriptor)
    (heap : Nat) : Module M where
  memoryImport := some ("memory", descriptor)
  start := .ok
  validate memory offset len :=
    match loadParams wasmi memory offset.toNat len.toNat with
    | .error error => .error error
    | .ok params =>
        match writeResult wasmi memory heap (f params) with
        | .error error => .error error
        | .ok (memory, pointer) => .ok (some (.i32 (BitVec.ofNat 32 pointer)), memory)

end Parachain
end Polkadot
