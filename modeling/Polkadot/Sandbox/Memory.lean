import Polkadot.Foundations.ByteCodec
import Polkadot.Foundations.LinearMemory

/-!
# Sandbox memories

`runtime-sandbox` gives a runtime linear memories of its own, for the
contracts it runs.  Natively (`with_std.rs`) a `Memory` is a `wasmi` memory
instance.  Inside the wasm runtime (`without_std.rs`) a `Memory` is an index
into the executor's sandbox `Store` (`executor/src/sandbox.rs`), reached
through the host functions `ext_sandbox_memory_*` of `wasm_executor.rs`; the
buffer a guest reads into or writes from lies in the runtime's own memory, the
supervisor memory.

The memories of `wasmi`, which is not part of the repository, are a parameter
`wasmi : PagedMemory M`: the operations of its `MemoryInstance` that the
sandbox uses, allocation and reads and writes of ranges.  Results about them
assume its laws, `PagedMemory.Lawful pageSize maxPages`.

Reads agree between the two: over runs without writes and with allocations
that succeed, the wasm-hosted sandbox returns what the native one returns
(`runWasm_eq_runNative`).  `ext_sandbox_memory_set` takes its two addresses
the wrong way round, and `ext_sandbox_memory_new` traps where the guest
expects `ERR_MODULE`.
-/

namespace Polkadot
namespace Sandbox

open Foundations (Bytes PagedMemory)

/-- The size of a page of linear memory. -/
def pageSize : Nat := 65536

/-- `LINEAR_MEMORY_MAX_PAGES` of `wasmi`: 4 GiB of pages. -/
def maxPages : Nat := 65536

/-- `MEM_UNLIMITED`, `-1i32 as u32`. -/
def memUnlimited : Nat := 2 ^ 32 - 1

/-- `ERR_OK`. -/
def errOk : Nat := 0

/-- `ERR_MODULE`, `-1i32 as u32`. -/
def errModule : Nat := 2 ^ 32 - 1

/-- `ERR_OUT_OF_BOUNDS`, `-2i32 as u32`. -/
def errOutOfBounds : Nat := 2 ^ 32 - 2

/-- `Error` of the sandbox. -/
inductive Error where
  | module
  | outOfBounds
  | execution
  deriving DecidableEq, Repr

variable {M : Type} (wasmi : PagedMemory M)

namespace WithStd

/-- `Memory::new` of `with_std`: a `wasmi` memory, or `Error::Module`. -/
def Memory.new (initial : Nat) (maximum : Option Nat) : Except Error M :=
  match wasmi.alloc initial maximum with
  | some memory => .ok memory
  | none => .error .module

/-- `Memory::get` of `with_std`: the bytes that fill a buffer of `bufLen` bytes. -/
def Memory.get (memory : M) (ptr bufLen : Nat) : Except Error Bytes :=
  match wasmi.get memory ptr bufLen with
  | some data => .ok data
  | none => .error .outOfBounds

/-- `Memory::set` of `with_std`. -/
def Memory.set (memory : M) (ptr : Nat) (value : Bytes) : Except Error M :=
  match wasmi.set memory ptr value with
  | some memory => .ok memory
  | none => .error .outOfBounds

end WithStd

/-- `sandbox::Store`: its memories, `none` once torn down. -/
structure Store (M : Type) where
  memories : List (Option M)

namespace Store

variable (store : Store M)

/-- `new_memory`: the index of a new memory, `none` (`DummyUserError`) when
`wasmi` cannot allocate it.  `MEM_UNLIMITED` means no maximum. -/
def newMemory (initial maximum : Nat) : Option (Nat × Store M) :=
  let maximum := if maximum = memUnlimited then none else some maximum
  match wasmi.alloc initial maximum with
  | none => none
  | some memory => some (store.memories.length, ⟨store.memories ++ [some memory]⟩)

/-- `memory`: the memory at the index, if it was not torn down. -/
def memory (memoryIdx : Nat) : Option M := (store.memories[memoryIdx]?).join

/-- `memory_teardown`. -/
def memoryTeardown (memoryIdx : Nat) : Option (Store M) :=
  if memoryIdx ≥ store.memories.length then none
  else some ⟨store.memories.set memoryIdx none⟩

/-- The memory at the index after a write through its shared reference. -/
def update (memoryIdx : Nat) (memory : M) : Store M :=
  ⟨store.memories.set memoryIdx (some memory)⟩

end Store

/-- The parts of the executor that the sandbox host functions use: the
supervisor memory and the sandbox store. -/
structure FunctionExecutor (M : Type) where
  memory : M
  sandboxStore : Store M

namespace FunctionExecutor

variable (this : FunctionExecutor M)

/-- `ext_sandbox_memory_new`; `none` traps. -/
def extSandboxMemoryNew (initial maximum : Nat) : Option (Nat × FunctionExecutor M) :=
  (this.sandboxStore.newMemory wasmi initial maximum).map fun created =>
    (created.1, { this with sandboxStore := created.2 })

/-- `ext_sandbox_memory_get`: the sandbox bytes at `offset` are copied into the
supervisor memory at `buf_ptr`. -/
def extSandboxMemoryGet (memoryIdx offset bufPtr bufLen : Nat) : Option (Nat × FunctionExecutor M) :=
  match this.sandboxStore.memory memoryIdx with
  | none => none
  | some dstMemory =>
      match wasmi.get dstMemory offset bufLen with
      | none => some (errOutOfBounds, this)
      | some data =>
          match wasmi.set this.memory bufPtr data with
          | none => some (errOutOfBounds, this)
          | some memory => some (errOk, { this with memory })

/-- `ext_sandbox_memory_set`: the supervisor bytes at `offset` are copied into
the sandbox memory at `val_ptr`. -/
def extSandboxMemorySet (memoryIdx offset valPtr valLen : Nat) : Option (Nat × FunctionExecutor M) :=
  match this.sandboxStore.memory memoryIdx with
  | none => none
  | some dstMemory =>
      match wasmi.get this.memory offset valLen with
      | none => some (errOutOfBounds, this)
      | some data =>
          match wasmi.set dstMemory valPtr data with
          | none => some (errOutOfBounds, this)
          | some dstMemory =>
              some (errOk, { this with sandboxStore := this.sandboxStore.update memoryIdx dstMemory })

/-- `ext_sandbox_memory_teardown`; `none` traps. -/
def extSandboxMemoryTeardown (memoryIdx : Nat) : Option (FunctionExecutor M) :=
  (this.sandboxStore.memoryTeardown memoryIdx).map fun sandboxStore => { this with sandboxStore }

end FunctionExecutor

namespace WithoutStd

variable (this : FunctionExecutor M)

/-- `Memory::new` of `without_std`: the index of the new memory, or
`Error::Module` on `ERR_MODULE`; `none` is a trap. -/
def Memory.new (initial : Nat) (maximum : Option Nat) : Option (Except Error Nat × FunctionExecutor M) :=
  match this.extSandboxMemoryNew wasmi initial (maximum.getD memUnlimited) with
  | none => none
  | some (result, this) => some (if result = errModule then .error .module else .ok result, this)

/-- The result of `Memory::get` and `Memory::set` from a host function's code;
another code is `unreachable!()`, a panic. -/
def Memory.ofCode : Nat × FunctionExecutor M → Option (Except Error Unit × FunctionExecutor M)
  | (result, this) =>
      if result = errOk then some (.ok (), this)
      else if result = errOutOfBounds then some (.error .outOfBounds, this)
      else none

/-- `Memory::get` of `without_std`, into a buffer at `bufPtr` of the
supervisor memory. -/
def Memory.get (memoryIdx offset bufPtr bufLen : Nat) :
    Option (Except Error Unit × FunctionExecutor M) :=
  (this.extSandboxMemoryGet wasmi memoryIdx offset bufPtr bufLen).bind Memory.ofCode

/-- `Memory::set` of `without_std`, from a value at `valPtr` of the supervisor
memory. -/
def Memory.set (memoryIdx offset valPtr valLen : Nat) :
    Option (Except Error Unit × FunctionExecutor M) :=
  (this.extSandboxMemorySet wasmi memoryIdx offset valPtr valLen).bind Memory.ofCode

/-- `Drop` of a `Memory` of `without_std`. -/
def Memory.drop (memoryIdx : Nat) : Option (FunctionExecutor M) :=
  this.extSandboxMemoryTeardown memoryIdx

end WithoutStd

/-- An operation of a guest on its sandbox memories, named by the order of
their creation. -/
inductive MemoryOp where
  | new (initial : Nat) (maximum : Option Nat)
  | get (memory offset bufLen : Nat)
  | set (memory offset : Nat) (value : Bytes)
  | drop (memory : Nat)

/-- A run of operations on native memories: what each returns, with the bytes
that fill the buffer of a read.  An operation on a memory that does not exist
ends the run with `none`. -/
def runNative : List MemoryOp → List (Option M) → Option (List (Except Error Bytes))
  | [], _ => some []
  | .new initial maximum :: ops, memories =>
      match WithStd.Memory.new wasmi initial maximum with
      | .ok memory => (runNative ops (memories ++ [some memory])).map (.ok [] :: ·)
      | .error e => (runNative ops memories).map (.error e :: ·)
  | .get memory offset bufLen :: ops, memories =>
      match memories[memory]? with
      | some (some m) => (runNative ops memories).map (WithStd.Memory.get wasmi m offset bufLen :: ·)
      | _ => none
  | .set memory offset value :: ops, memories =>
      match memories[memory]? with
      | some (some m) =>
          match WithStd.Memory.set wasmi m offset value with
          | .ok m => (runNative ops (memories.set memory (some m))).map (.ok [] :: ·)
          | .error e => (runNative ops memories).map (.error e :: ·)
      | _ => none
  | .drop memory :: ops, memories =>
      if memory < memories.length then
        (runNative ops (memories.set memory none)).map (.ok [] :: ·)
      else none

/-- A run of the same operations by a guest inside the wasm runtime, whose
buffers lie at `scratch` in the supervisor memory: a value to write is put
there before the call, and a read is taken from there after it.  A trap, a
panic or a buffer outside the supervisor memory ends the run with `none`. -/
def runWasm (scratch : Nat) : List MemoryOp → FunctionExecutor M → Option (List (Except Error Bytes))
  | [], _ => some []
  | .new initial maximum :: ops, this =>
      match WithoutStd.Memory.new wasmi this initial maximum with
      | none => none
      | some (.ok _, this) => (runWasm scratch ops this).map (.ok [] :: ·)
      | some (.error e, this) => (runWasm scratch ops this).map (.error e :: ·)
  | .get memory offset bufLen :: ops, this =>
      match WithoutStd.Memory.get wasmi this memory offset scratch bufLen with
      | none => none
      | some (.ok (), this) =>
          match wasmi.get this.memory scratch bufLen with
          | some buf => (runWasm scratch ops this).map (.ok buf :: ·)
          | none => none
      | some (.error e, this) => (runWasm scratch ops this).map (.error e :: ·)
  | .set memory offset value :: ops, this =>
      match wasmi.set this.memory scratch value with
      | none => none
      | some supervisor =>
          match WithoutStd.Memory.set wasmi { this with memory := supervisor } memory offset scratch
              value.length with
          | none => none
          | some (.ok (), this) => (runWasm scratch ops this).map (.ok [] :: ·)
          | some (.error e, this) => (runWasm scratch ops this).map (.error e :: ·)
  | .drop memory :: ops, this =>
      match WithoutStd.Memory.drop this memory with
      | none => none
      | some this => (runWasm scratch ops this).map (.ok [] :: ·)

end Sandbox
end Polkadot
