import Polkadot.Sandbox.Memory

/-!
# Where the two sandboxes agree

A read through `ext_sandbox_memory_get` fills the guest's buffer with what the
native `Memory::get` returns (`get_of_found`), and an allocation that succeeds
gets the index the native run gives it (`new_of_alloc`).  So on runs without
writes, whose allocations succeed with a maximum other than `MEM_UNLIMITED`,
the wasm-hosted sandbox returns exactly what the native one returns
(`runWasm_eq_runNative`).  A write does not agree: the host reads the value
from the supervisor memory at the sandbox offset and writes it into the
sandbox at the value's address (`runWasm_new_set`).  A value written below the
scratch address then reads back as zeros (`set_get_diverges`), a write past
the end of the sandbox memory succeeds (`set_outside_diverges`), and a refused
allocation traps where the native one returns `Error::Module`
(`new_below_diverges`).
-/

namespace Polkadot
namespace Sandbox

open Foundations (Bytes PagedMemory)

variable {M : Type} (wasmi : PagedMemory M)

/-- An operation on which the two sandboxes agree, for a guest whose buffers
lie at `scratch` in a supervisor memory of `supervisorSize` bytes: a read into
a buffer inside the supervisor memory, a drop, or an allocation that succeeds
with a maximum other than `MEM_UNLIMITED`; never a write. -/
def MemoryOp.Agreeable (supervisorSize scratch : Nat) : MemoryOp → Prop
  | .new initial maximum =>
      (wasmi.alloc initial maximum).isSome ∧ maximum ≠ some memUnlimited
  | .get _ _ bufLen => scratch + bufLen ≤ supervisorSize
  | .set _ _ _ => False
  | .drop _ => True

namespace WithoutStd

variable (this : FunctionExecutor M)

/-- The maximum the guest passes, read back by the host, is the guest's own
unless it is `MEM_UNLIMITED` itself. -/
theorem maximum_roundTrip {maximum : Option Nat} (limited : maximum ≠ some memUnlimited) :
    (if maximum.getD memUnlimited = memUnlimited then none else some (maximum.getD memUnlimited)) =
      maximum := by
  cases maximum with
  | none => simp
  | some bound =>
      have other : bound ≠ memUnlimited := fun same => limited (same ▸ rfl)
      simp [other]

/-- An allocation that succeeds gets the next index of the store. -/
theorem new_of_alloc {initial : Nat} {maximum : Option Nat} {memory : M}
    (allocated : wasmi.alloc initial maximum = some memory)
    (limited : maximum ≠ some memUnlimited) (room : this.sandboxStore.memories.length ≠ errModule) :
    Memory.new wasmi this initial maximum =
      some (.ok this.sandboxStore.memories.length,
        { this with sandboxStore := ⟨this.sandboxStore.memories ++ [some memory]⟩ }) := by
  unfold Memory.new FunctionExecutor.extSandboxMemoryNew Store.newMemory
  rw [maximum_roundTrip limited]
  dsimp only
  rw [allocated]
  simp [room]

/-- A read of a live sandbox memory copies the bytes read into the supervisor
memory at the buffer. -/
theorem get_of_read {memoryIdx offset bufPtr bufLen : Nat} {dstMemory written : M} {data : Bytes}
    (found : this.sandboxStore.memory memoryIdx = some dstMemory)
    (read : wasmi.get dstMemory offset bufLen = some data)
    (wrote : wasmi.set this.memory bufPtr data = some written) :
    Memory.get wasmi this memoryIdx offset bufPtr bufLen = some (.ok (), { this with memory := written }) := by
  simp [Memory.get, FunctionExecutor.extSandboxMemoryGet, found, read, wrote, Memory.ofCode]

/-- A write to a live sandbox memory copies the supervisor's bytes at the
sandbox offset into the sandbox memory at the value's address: the two
addresses of `ext_sandbox_memory_set` taken the wrong way round. -/
theorem set_of_found {memoryIdx offset valPtr valLen : Nat} {dstMemory written : M} {data : Bytes}
    (found : this.sandboxStore.memory memoryIdx = some dstMemory)
    (read : wasmi.get this.memory offset valLen = some data)
    (wrote : wasmi.set dstMemory valPtr data = some written) :
    Memory.set wasmi this memoryIdx offset valPtr valLen =
      some (.ok (), { this with sandboxStore := this.sandboxStore.update memoryIdx written }) := by
  simp [Memory.set, FunctionExecutor.extSandboxMemorySet, found, read, wrote, Memory.ofCode]

/-- A read of a live sandbox memory into a buffer inside the supervisor memory
returns what the native read returns, fills the buffer with the bytes it
returns, and changes neither the store nor the pages of the supervisor
memory. -/
theorem get_of_found (lawful : wasmi.Lawful pageSize maxPages) {memoryIdx offset bufPtr bufLen : Nat}
    {dstMemory : M} (found : this.sandboxStore.memory memoryIdx = some dstMemory)
    (bufInside : bufPtr + bufLen ≤ wasmi.pages this.memory * pageSize) :
    ∃ this', Memory.get wasmi this memoryIdx offset bufPtr bufLen =
        some ((WithStd.Memory.get wasmi dstMemory offset bufLen).map fun _ => (), this') ∧
      this'.sandboxStore = this.sandboxStore ∧ wasmi.pages this'.memory = wasmi.pages this.memory ∧
      ∀ data, WithStd.Memory.get wasmi dstMemory offset bufLen = .ok data →
        wasmi.get this'.memory bufPtr bufLen = some data := by
  cases read : wasmi.get dstMemory offset bufLen with
  | none =>
      -- out of bounds in the sandbox memory, on both sides
      refine ⟨this, ?_, rfl, rfl, fun _ failed => by simp [WithStd.Memory.get, read] at failed⟩
      simp [Memory.get, FunctionExecutor.extSandboxMemoryGet, found, read, Memory.ofCode, errOk,
        errOutOfBounds, WithStd.Memory.get, Except.map]
  | some data =>
      have length : data.length = bufLen := lawful.get_length read
      obtain ⟨supervisor, wrote⟩ : ∃ supervisor, wasmi.set this.memory bufPtr data = some supervisor :=
        lawful.exists_set (by rw [length]; exact bufInside)
      refine ⟨{ this with memory := supervisor }, ?_, rfl, (lawful.set_pages wrote).1, ?_⟩
      · rw [get_of_read wasmi this found read wrote]
        simp [WithStd.Memory.get, read, Except.map]
      · intro same returned
        simp only [WithStd.Memory.get, read, Except.ok.injEq] at returned
        subst returned
        rw [← length]
        exact lawful.get_set_self wrote

/-- A drop tears the memory down, as long as the index was ever given out. -/
theorem drop_eq {memoryIdx : Nat} :
    Memory.drop this memoryIdx =
      if memoryIdx < this.sandboxStore.memories.length then
        some { this with sandboxStore := ⟨this.sandboxStore.memories.set memoryIdx none⟩ }
      else none := by
  unfold Memory.drop FunctionExecutor.extSandboxMemoryTeardown Store.memoryTeardown
  by_cases given : memoryIdx < this.sandboxStore.memories.length
  · rw [if_neg (Nat.not_le.mpr given), if_pos given]
    rfl
  · rw [if_pos (Nat.le_of_not_lt given), if_neg given]
    rfl

end WithoutStd

/-- On runs without writes, whose allocations succeed with a maximum other
than `MEM_UNLIMITED` and whose buffers lie inside the supervisor memory, the
wasm-hosted sandbox returns what the native one returns on the memories of the
store, as long as no index reaches `ERR_MODULE`. -/
theorem runWasm_eq_runNative (lawful : wasmi.Lawful pageSize maxPages) (scratch : Nat) :
    ∀ (ops : List MemoryOp) (this : FunctionExecutor M),
      (∀ op ∈ ops, op.Agreeable wasmi (wasmi.pages this.memory * pageSize) scratch) →
      this.sandboxStore.memories.length + ops.length < errModule →
      runWasm wasmi scratch ops this = runNative wasmi ops this.sandboxStore.memories
  | [], _, _, _ => rfl
  | op :: ops, this, agreeable, room => by
      have rest : ∀ op ∈ ops, op.Agreeable wasmi (wasmi.pages this.memory * pageSize) scratch :=
        fun other member => agreeable other (List.mem_cons_of_mem _ member)
      have fewer : this.sandboxStore.memories.length + ops.length + 1 < errModule := by
        simpa [Nat.add_assoc] using room
      cases op with
      | new initial maximum =>
          obtain ⟨allocates, limited⟩ := agreeable _ List.mem_cons_self
          obtain ⟨memory, allocated⟩ := Option.isSome_iff_exists.mp allocates
          rw [runWasm, WithoutStd.new_of_alloc wasmi this allocated limited (by omega), runNative,
            WithStd.Memory.new, allocated]
          dsimp only
          rw [runWasm_eq_runNative lawful scratch ops
            { this with sandboxStore := ⟨this.sandboxStore.memories ++ [some memory]⟩ } rest
            (by simp; omega)]
      | get memory offset bufLen =>
          have bufInside : scratch + bufLen ≤ wasmi.pages this.memory * pageSize :=
            agreeable _ List.mem_cons_self
          rw [runWasm, runNative]
          cases found : this.sandboxStore.memory memory with
          | none =>
              -- a memory that is not live: a trap, and no native memory either
              have trapped : WithoutStd.Memory.get wasmi this memory offset scratch bufLen = none := by
                simp [WithoutStd.Memory.get, FunctionExecutor.extSandboxMemoryGet, found]
              have absent : ¬∃ m, this.sandboxStore.memories[memory]? = some (some m) := by
                rintro ⟨m, live⟩
                simp [Store.memory, live] at found
              rw [trapped]
              dsimp only
              split
              · exact absurd ⟨_, ‹_›⟩ absent
              · rfl
          | some dstMemory =>
              have live : this.sandboxStore.memories[memory]? = some (some dstMemory) := by
                simpa [Store.memory, Option.join_eq_some_iff] using found
              obtain ⟨this', read, sameStore, sameSize, filled⟩ :=
                WithoutStd.get_of_found wasmi this lawful found bufInside
              have next := runWasm_eq_runNative lawful scratch ops this' (sameSize ▸ rest)
                (by rw [sameStore]; omega)
              rw [read, live]
              dsimp only
              cases native : WithStd.Memory.get wasmi dstMemory offset bufLen with
              | error e =>
                  simp only [Except.map, sameStore ▸ next]
              | ok data =>
                  simp only [Except.map, filled data native, sameStore ▸ next]
      | set memory offset value => exact (agreeable _ List.mem_cons_self).elim
      | drop memory =>
          rw [runWasm, runNative, WithoutStd.drop_eq]
          split_ifs with given
          · dsimp only
            rw [runWasm_eq_runNative lawful scratch ops
              { this with sandboxStore := ⟨this.sandboxStore.memories.set memory none⟩ } rest
              (by simp; omega)]
          · rfl

/-! ## Writes inside the wasm runtime -/

section Writes

variable {scratch memoryIdx offset : Nat} {ops : List MemoryOp} {this : FunctionExecutor M}
  {dstMemory supervisor written : M}

/-- A write by a guest inside the wasm runtime puts the value at `scratch` in
the supervisor memory, then copies the supervisor's bytes at the sandbox
offset into the sandbox memory at `scratch`. -/
theorem runWasm_set_of_found {value data : Bytes}
    (found : this.sandboxStore.memory memoryIdx = some dstMemory)
    (put : wasmi.set this.memory scratch value = some supervisor)
    (read : wasmi.get supervisor offset value.length = some data)
    (wrote : wasmi.set dstMemory scratch data = some written) :
    runWasm wasmi scratch (.set memoryIdx offset value :: ops) this =
      (runWasm wasmi scratch ops ⟨supervisor, this.sandboxStore.update memoryIdx written⟩).map
        (.ok [] :: ·) := by
  rw [runWasm, put]
  dsimp only
  rw [WithoutStd.set_of_found wasmi { this with memory := supervisor } found read wrote]

/-- A read by a guest inside the wasm runtime copies the sandbox bytes into the
supervisor memory at `scratch`, and takes its buffer from there. -/
theorem runWasm_get_of_read {bufLen : Nat} {data buf : Bytes}
    (found : this.sandboxStore.memory memoryIdx = some dstMemory)
    (read : wasmi.get dstMemory offset bufLen = some data)
    (wrote : wasmi.set this.memory scratch data = some supervisor)
    (buffer : wasmi.get supervisor scratch bufLen = some buf) :
    runWasm wasmi scratch (.get memoryIdx offset bufLen :: ops) this =
      (runWasm wasmi scratch ops { this with memory := supervisor }).map (.ok buf :: ·) := by
  rw [runWasm, WithoutStd.get_of_read wasmi this found read wrote]
  dsimp only
  rw [buffer]

end Writes

/-! ## Where a write parts the two sandboxes -/

section Apart

variable (lawful : wasmi.Lawful pageSize maxPages)
include lawful

/-- `wasmi` allocates a sandbox memory of one page. -/
theorem exists_alloc_one : ∃ sandbox, wasmi.alloc 1 none = some sandbox ∧
    wasmi.pages sandbox * pageSize = pageSize := by
  obtain ⟨sandbox, created⟩ : ∃ sandbox, wasmi.alloc 1 none = some sandbox :=
    lawful.exists_alloc (by decide)
  exact ⟨sandbox, created, by rw [(lawful.alloc_pages created).1, Nat.one_mul]⟩

/-- Inside the wasm runtime, a write at `offset` of a fresh sandbox memory of one
page puts the value at `scratch` of the supervisor memory, then copies the
supervisor's bytes at `offset` to `scratch` of the sandbox memory, whose bytes
elsewhere stay zero.  It needs room for the value at `scratch` of both memories
and at `offset` of the supervisor memory only. -/
theorem runWasm_new_set {supervisor : M} {scratch offset : Nat} {value : Bytes}
    (staged : scratch + value.length ≤ wasmi.pages supervisor * pageSize)
    (source : offset + value.length ≤ wasmi.pages supervisor * pageSize)
    (target : scratch + value.length ≤ pageSize) (ops : List MemoryOp) :
    ∃ put copied : M, wasmi.pages put = wasmi.pages supervisor ∧
      (∀ other length, other + length ≤ scratch ∨ scratch + value.length ≤ other →
        other + length ≤ pageSize → wasmi.get copied other length = some (List.replicate length 0)) ∧
      runWasm wasmi scratch (.new 1 none :: .set 0 offset value :: ops) ⟨supervisor, ⟨[]⟩⟩ =
        (runWasm wasmi scratch ops ⟨put, ⟨[some copied]⟩⟩).map (.ok [] :: .ok [] :: ·) := by
  obtain ⟨sandbox, created, onePage⟩ := exists_alloc_one wasmi lawful
  have newed : WithoutStd.Memory.new wasmi ⟨supervisor, ⟨[]⟩⟩ 1 none =
      some (.ok 0, ⟨supervisor, ⟨[some sandbox]⟩⟩) :=
    WithoutStd.new_of_alloc wasmi _ created (by decide) (show 0 ≠ errModule by decide)
  -- the guest puts the value at `scratch`; the host reads the supervisor at `offset`
  obtain ⟨put, wrotePut⟩ : ∃ m, wasmi.set supervisor scratch value = some m := lawful.exists_set staged
  have samePages : wasmi.pages put = wasmi.pages supervisor := (lawful.set_pages wrotePut).1
  obtain ⟨data, read⟩ : ∃ data, wasmi.get put offset value.length = some data :=
    lawful.exists_get (by rw [samePages]; exact source)
  have length : data.length = value.length := lawful.get_length read
  obtain ⟨copied, copy⟩ : ∃ m, wasmi.set sandbox scratch data = some m :=
    lawful.exists_set (by rw [length, onePage]; exact target)
  refine ⟨put, copied, samePages, fun other len apart inside => ?_, ?_⟩
  · rw [lawful.get_set_of_disjoint copy (by rw [length]; exact apart)]
    exact lawful.get_alloc created (by rw [Nat.one_mul]; exact inside)
  · rw [runWasm, newed]
    dsimp only
    rw [runWasm_set_of_found wasmi rfl wrotePut read copy, Option.map_map]
    rfl

/-- A write at an offset of a fresh sandbox memory of one page, below
`scratch`, reads back as written natively and as zeros inside the wasm
runtime. -/
theorem set_get_diverges {supervisor : M} {scratch offset : Nat} {value : Bytes}
    (apart : offset + value.length ≤ scratch) (target : scratch + value.length ≤ pageSize)
    (staged : scratch + value.length ≤ wasmi.pages supervisor * pageSize) :
    runNative wasmi [.new 1 none, .set 0 offset value, .get 0 offset value.length] [] =
      some [.ok [], .ok [], .ok value] ∧
    runWasm wasmi scratch [.new 1 none, .set 0 offset value, .get 0 offset value.length]
        ⟨supervisor, ⟨[]⟩⟩ = some [.ok [], .ok [], .ok (List.replicate value.length 0)] := by
  obtain ⟨sandbox, created, onePage⟩ := exists_alloc_one wasmi lawful
  constructor
  · obtain ⟨written, wrote⟩ : ∃ m, wasmi.set sandbox offset value = some m :=
      lawful.exists_set (by rw [onePage]; omega)
    simp [runNative, WithStd.Memory.new, created, WithStd.Memory.set, wrote, WithStd.Memory.get,
      lawful.get_set_self wrote]
  · obtain ⟨put, copied, samePages, zeros, ran⟩ :=
      runWasm_new_set wasmi lawful staged
        (show offset + value.length ≤ wasmi.pages supervisor * pageSize by omega) target
        [.get 0 offset value.length]
    -- the read copies the zeros at `offset` of the sandbox memory to `scratch`, and back
    obtain ⟨filled, fill⟩ : ∃ m, wasmi.set put scratch (List.replicate value.length 0) = some m :=
      lawful.exists_set (by rw [List.length_replicate, samePages]; exact staged)
    have buffer := lawful.get_set_self fill
    rw [List.length_replicate] at buffer
    rw [ran, runWasm_get_of_read wasmi rfl (zeros offset _ (.inl apart) (by omega)) fill buffer]
    rfl

/-- A write of bytes that pass the end of a fresh sandbox memory of one page
fails natively with `OutOfBounds`, and succeeds inside the wasm runtime
wherever the supervisor memory holds them. -/
theorem set_outside_diverges {supervisor : M} {scratch offset : Nat} {value : Bytes}
    (outside : pageSize < offset + value.length)
    (staged : scratch + value.length ≤ wasmi.pages supervisor * pageSize)
    (source : offset + value.length ≤ wasmi.pages supervisor * pageSize)
    (target : scratch + value.length ≤ pageSize) :
    runNative wasmi [.new 1 none, .set 0 offset value] [] = some [.ok [], .error .outOfBounds] ∧
    runWasm wasmi scratch [.new 1 none, .set 0 offset value] ⟨supervisor, ⟨[]⟩⟩ =
      some [.ok [], .ok []] := by
  obtain ⟨sandbox, created, onePage⟩ := exists_alloc_one wasmi lawful
  constructor
  · have refused : wasmi.set sandbox offset value = none :=
      lawful.set_eq_none (by rw [onePage]; exact outside)
    simp [runNative, WithStd.Memory.new, created, WithStd.Memory.set, refused]
  · obtain ⟨put, copied, -, -, ran⟩ := runWasm_new_set wasmi lawful staged source target []
    rw [ran]
    rfl

/-- An allocation whose maximum lies below its initial pages returns
`Error::Module` natively and traps inside the wasm runtime, also where the
maximum is `MEM_UNLIMITED` and the host asks for no maximum. -/
theorem new_below_diverges {initial maximum : Nat} (below : maximum < initial) (scratch : Nat)
    (this : FunctionExecutor M) :
    runNative wasmi [.new initial (some maximum)] [] = some [.error .module] ∧
    runWasm wasmi scratch [.new initial (some maximum)] this = none := by
  have refused : wasmi.alloc initial (some maximum) = none := lawful.alloc_eq_none (by simp; omega)
  have trapped : this.sandboxStore.newMemory wasmi initial maximum = none := by
    unfold Store.newMemory
    dsimp only
    split_ifs with unlimited
    · have tooMany : maxPages < initial := by
        rw [unlimited] at below
        exact Nat.lt_trans (by decide) below
      rw [lawful.alloc_eq_none (by simp; omega)]
    · rw [refused]
  constructor
  · simp [runNative, WithStd.Memory.new, refused]
  · simp [runWasm, WithoutStd.Memory.new, FunctionExecutor.extSandboxMemoryNew, trapped]

end Apart

/-- Writes and failed allocations, by a guest whose buffers lie at address 100
of a supervisor memory of two zeroed pages, over every memory that keeps the
laws of `wasmi`.  Writing `[1, 2, 3]` at offset 0 of a one-page memory and
reading it back gives zeros: the host wrote the supervisor's bytes at address 0
to address 100 of the sandbox memory, and left its offset 0 as allocated.
Writing two bytes at offset 65535 fails natively and succeeds inside the wasm
runtime, where it writes at address 100.  Allocating two pages with a maximum
of one returns `Error::Module` natively and traps inside the wasm runtime. -/
theorem memory_set_swaps_addresses (lawful : wasmi.Lawful pageSize maxPages) {supervisor : M}
    (allocated : wasmi.alloc 2 none = some supervisor) :
    runNative wasmi [.new 1 none, .set 0 0 [1, 2, 3], .get 0 0 3] [] =
      some [.ok [], .ok [], .ok [1, 2, 3]] ∧
    runWasm wasmi 100 [.new 1 none, .set 0 0 [1, 2, 3], .get 0 0 3] ⟨supervisor, ⟨[]⟩⟩ =
      some [.ok [], .ok [], .ok [0, 0, 0]] ∧
    runNative wasmi [.new 1 none, .set 0 65535 [7, 7]] [] = some [.ok [], .error .outOfBounds] ∧
    runWasm wasmi 100 [.new 1 none, .set 0 65535 [7, 7]] ⟨supervisor, ⟨[]⟩⟩ = some [.ok [], .ok []] ∧
    runNative wasmi [.new 2 (some 1)] [] = some [.error .module] ∧
    runWasm wasmi 100 [.new 2 (some 1)] ⟨supervisor, ⟨[]⟩⟩ = none := by
  -- the supervisor memory of two pages holds every buffer of the runs
  have supervisorSize : wasmi.pages supervisor * pageSize = 2 * pageSize := by
    rw [(lawful.alloc_pages allocated).1]
  have readBack := set_get_diverges wasmi lawful (show 0 + [1, 2, 3].length ≤ 100 by decide)
    (show 100 + [1, 2, 3].length ≤ pageSize by decide)
    (show 100 + [1, 2, 3].length ≤ wasmi.pages supervisor * pageSize by rw [supervisorSize]; decide)
  have pastEnd := set_outside_diverges wasmi lawful (show pageSize < 65535 + [7, 7].length by decide)
    (show 100 + [7, 7].length ≤ wasmi.pages supervisor * pageSize by rw [supervisorSize]; decide)
    (show 65535 + [7, 7].length ≤ wasmi.pages supervisor * pageSize by rw [supervisorSize]; decide)
    (show 100 + [7, 7].length ≤ pageSize by decide)
  have refused := new_below_diverges wasmi lawful (show 1 < 2 by decide) 100 ⟨supervisor, ⟨[]⟩⟩
  exact ⟨readBack.1, readBack.2, pastEnd.1, pastEnd.2, refused.1, refused.2⟩

/-- The linear memories of `Foundations` are memories of `wasmi`, and over them a
supervisor memory of two zeroed pages gives the runs of
`memory_set_swaps_addresses`. -/
theorem memory_set_swaps_addresses_linearMemory :
    (Foundations.LinearMemory.paged pageSize maxPages).Lawful pageSize maxPages ∧
    (Foundations.LinearMemory.paged pageSize maxPages).alloc 2 none =
      some (Foundations.LinearMemory.zeroed 2 none) ∧
    runNative (Foundations.LinearMemory.paged pageSize maxPages)
        [.new 1 none, .set 0 0 [1, 2, 3], .get 0 0 3] [] =
      some [.ok [], .ok [], .ok [1, 2, 3]] ∧
    runWasm (Foundations.LinearMemory.paged pageSize maxPages) 100
        [.new 1 none, .set 0 0 [1, 2, 3], .get 0 0 3] ⟨Foundations.LinearMemory.zeroed 2 none, ⟨[]⟩⟩ =
      some [.ok [], .ok [], .ok [0, 0, 0]] ∧
    runNative (Foundations.LinearMemory.paged pageSize maxPages) [.new 1 none, .set 0 65535 [7, 7]] [] =
      some [.ok [], .error .outOfBounds] ∧
    runWasm (Foundations.LinearMemory.paged pageSize maxPages) 100 [.new 1 none, .set 0 65535 [7, 7]]
        ⟨Foundations.LinearMemory.zeroed 2 none, ⟨[]⟩⟩ = some [.ok [], .ok []] ∧
    runNative (Foundations.LinearMemory.paged pageSize maxPages) [.new 2 (some 1)] [] =
      some [.error .module] ∧
    runWasm (Foundations.LinearMemory.paged pageSize maxPages) 100 [.new 2 (some 1)]
        ⟨Foundations.LinearMemory.zeroed 2 none, ⟨[]⟩⟩ = none :=
  have allocated : (Foundations.LinearMemory.paged pageSize maxPages).alloc 2 none =
      some (Foundations.LinearMemory.zeroed 2 none) := rfl
  ⟨Foundations.LinearMemory.paged_lawful pageSize maxPages, allocated,
    memory_set_swaps_addresses _ (Foundations.LinearMemory.paged_lawful pageSize maxPages) allocated⟩

end Sandbox
end Polkadot
