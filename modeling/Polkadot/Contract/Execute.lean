import Polkadot.Contract.HostFunctions

/-!
# Executing a contract

`execute` of `runtime/contract/src/lib.rs`: `prepare_contract`, then an
instance of the module over the host functions and the memory of the contract
(the `EnvironmentDefinitionBuilder` of `runtime-sandbox/with_std.rs`), then
its export `call`.  A contract is the module that the instrumentation leaves:
its internal memories, its imports, and what its `call` does, as the steps it
takes between the host functions it calls.

`resolve_func` gives an import the host function of its name, with the
signature the module declares for it (`resolveImports_mem`), and validation
asks no more than that each call passes the arguments of that signature.  So a
contract that imports only `gas`, `ext_set_storage` and `ext_get_storage`, with
the signatures of the source's comments, never panics, whatever its memory holds
(`execute_isSome_of_storageOnly`); but one that declares `gas` without a
parameter, or transfers to an account of no bytes, does.  In every run the gas
limit stays and the gas used only grows (`runCall_follows`).
-/

namespace Polkadot
namespace Contract

open Foundations (Bytes PagedMemory)

/-- `wasmi::ValueType`. -/
inductive ValueType where
  | i32
  | i64
  | f32
  | f64
  deriving DecidableEq, Repr

/-- The type of a value. -/
def TypedValue.valueType : TypedValue → ValueType
  | .i32 _ => .i32
  | .i64 _ => .i64
  | .f32 _ => .f32
  | .f64 _ => .f64

/-- The parameters of a `wasmi::Signature`. -/
structure Signature where
  params : List ValueType
  deriving DecidableEq, Repr

/-- The host functions `execute` defines, in the order it adds them. -/
inductive HostFunc where
  | gas
  | extSetStorage
  | extGetStorage
  | extTransfer
  | extCreate
  deriving DecidableEq, Repr

/-- `ExternVal`: what a name of the environment stands for. -/
inductive ExternVal where
  | hostFunc (f : HostFunc)
  | memory
  deriving DecidableEq, Repr

/-- `imports`, the environment `execute` builds with `add_host_func` and
`add_memory`. -/
def imports : List ((String × String) × ExternVal) :=
  [(("env", "gas"), .hostFunc .gas),
    (("env", "ext_set_storage"), .hostFunc .extSetStorage),
    (("env", "ext_get_storage"), .hostFunc .extGetStorage),
    (("env", "ext_transfer"), .hostFunc .extTransfer),
    (("env", "ext_create"), .hostFunc .extCreate),
    (("env", "memory"), .memory)]

/-- `resolve_func`: the host function of the name, allocated with the signature
the module declares for it. -/
def resolveFunc (moduleName fieldName : String) (signature : Signature) :
    Except String (Signature × HostFunc) :=
  match imports.lookup (moduleName, fieldName) with
  | none => .error ("Export " ++ moduleName ++ ":" ++ fieldName ++ " not found")
  | some .memory => .error ("Export " ++ moduleName ++ ":" ++ fieldName ++ " is not a host func")
  | some (.hostFunc f) => .ok (signature, f)

/-- `resolve_memory`: the memory of the contract, if the name stands for it. -/
def resolveMemory (moduleName fieldName : String) : Except String Unit :=
  match imports.lookup (moduleName, fieldName) with
  | none => .error ("Export " ++ moduleName ++ ":" ++ fieldName ++ " not found")
  | some (.hostFunc _) => .error ("Export " ++ moduleName ++ ":" ++ fieldName ++ " is not a memory")
  | some .memory => .ok ()

/-- What an import entry asks for. -/
inductive External where
  | function (signature : Signature)
  | table
  | memory (initial : Nat) (maximum : Option Nat)
  | global

/-- An entry of the import section. -/
structure ImportEntry where
  module : String
  field : String
  external : External

/-- A step of the contract's `call`: a call of its `func`-th imported function,
a store into its memory, or a trap of its own. -/
inductive GuestStep where
  | call (func : Nat) (args : List TypedValue)
  | store (ptr : Nat) (bytes : Bytes)
  | trap

/-- A contract as `prepare_contract` sees it after the instrumentation: the
number of memories its memory section declares, its imports, and its export
`call`, if it has one. -/
structure ContractModule where
  memoryEntries : Nat
  importEntries : List ImportEntry
  call : Option (List GuestStep)

/-- `Error` of the contract module, of the steps modelled here. -/
inductive Error where
  | internalMemoryDeclared
  | invoke
  | instantiate
  | memory
  deriving DecidableEq, Repr

/-- `Config::default().max_memory_pages`. -/
def maxMemoryPages : Nat := 16

/-- `find_mem_import`: the limits of the first import of `env.memory` that is a
memory. -/
def findMemImport (module : ContractModule) : Option (Nat × Option Nat) :=
  module.importEntries.findSome? fun entry =>
    match entry.module, entry.field, entry.external with
    | "env", "memory", .memory initial maximum => some (initial, maximum)
    | _, _, _ => none

/-- `prepare_contract`, after the instrumentation: no internal memory, and the
memory the contract imports, whose maximum must be declared and within
`max_memory_pages`; an empty placeholder where it imports none. -/
def prepareContract {M : Type} (wasmi : PagedMemory M) (module : ContractModule) : Except Error M :=
  if module.memoryEntries > 0 then .error .internalMemoryDeclared
  else
    match findMemImport module with
    | some (initial, some maximum) =>
        if initial > maximum then .error .memory
        else if maximum > maxMemoryPages then .error .memory
        else (Sandbox.WithStd.Memory.new wasmi initial (some maximum)).mapError fun _ => .memory
    | some (_, none) => .error .memory
    | none => (Sandbox.WithStd.Memory.new wasmi 0 (some 0)).mapError fun _ => .memory

/-- `ModuleInstance::new` over `imports`: the functions the imports resolve to,
in order; every other import must resolve too. -/
def resolveImports : List ImportEntry → Except String (List (Signature × HostFunc))
  | [] => .ok []
  | entry :: entries =>
      match entry.external with
      | .function signature => do
          let func ← resolveFunc entry.module entry.field signature
          return func :: (← resolveImports entries)
      | .memory _ _ => do
          resolveMemory entry.module entry.field
          resolveImports entries
      | .global => .error "Importing globals is not supported yet"
      | .table => .error "Importing tables is not supported yet"

/-- What validation asks of a step: a call is of a function the module
imports, with the arguments of the signature it declares. -/
def GuestStep.valid (funcs : List (Signature × HostFunc)) : GuestStep → Bool
  | .call func args =>
      match funcs[func]? with
      | some (signature, _) => args.map TypedValue.valueType == signature.params
      | none => false
  | _ => true

section Run

variable {M τ AccountId Balance : Type} (wasmi : PagedMemory M) (ext : Ext τ AccountId Balance)

/-- `GuestExternals::invoke_index`: the host function at its index. -/
def HostFunc.invoke (f : HostFunc) (e : Runtime M τ) (args : List TypedValue) :
    Option (HostReturn M τ) :=
  match f with
  | .gas => Contract.extGas e args
  | .extSetStorage => Contract.extSetStorage wasmi ext e args
  | .extGetStorage => Contract.extGetStorage wasmi ext e args
  | .extTransfer => Contract.extTransfer wasmi ext e args
  | .extCreate => Contract.extCreate wasmi ext e args

/-- The contract's `call`: an `Err` of a host function traps, as does a store
outside the memory or a trap of the contract's own, and `invoke` makes the trap
`Error::Invoke`; `none` is a panic. -/
def runCall (funcs : List (Signature × HostFunc)) :
    List GuestStep → Runtime M τ → Option (Except Error Unit × Runtime M τ)
  | [], e => some (.ok (), e)
  | .call func args :: steps, e =>
      match funcs[func]? with
      -- validation leaves no call of a function that is not imported
      | none => some (.error .invoke, e)
      | some (_, f) =>
          match f.invoke wasmi ext e args with
          | none => none
          | some (.error _, e) => some (.error .invoke, e)
          | some (.ok _, e) => runCall funcs steps e
  | .store ptr bytes :: steps, e =>
      match wasmi.set e.memory ptr bytes with
      | none => some (.error .invoke, e)
      | some memory => runCall funcs steps { e with memory }
  | .trap :: _, e => some (.error .invoke, e)

/-- `execute(code, ext, gas_limit)`: the contract runs from no gas used, and
what it leaves of the `Ext` is returned with the result; `none` is a panic. -/
def execute (code : ContractModule) (state : τ) (gasLimit : BitVec 64) :
    Option (Except Error Unit × τ) :=
  match prepareContract wasmi code with
  | .error err => some (.error err, state)
  | .ok memory =>
      match resolveImports code.importEntries with
      | .error _ => some (.error .instantiate, state)
      | .ok funcs =>
          match code.call with
          | none => some (.error .invoke, state)
          | some call =>
              if call.all (GuestStep.valid funcs) then
                (runCall wasmi ext funcs call ⟨state, memory, 0, gasLimit, BitVec.le_def.mpr (Nat.zero_le _)⟩).map
                  fun (result, runtime) => (result, runtime.ext)
              else some (.error .instantiate, state)

/-! ## The gas limit stays and the gas used only grows -/

/-- Every host function keeps the gas limit and never gives gas back. -/
theorem HostFunc.invoke_follows {f : HostFunc} {e : Runtime M τ} {args : List TypedValue}
    {r : HostReturn M τ} (ran : f.invoke wasmi ext e args = some r) : e.Follows r.2 := by
  cases f with
  | gas => exact extGas_follows e ran
  | extSetStorage => exact extSetStorage_follows wasmi ext e ran
  | extGetStorage => exact extGetStorage_follows wasmi ext e ran
  | extTransfer => exact extTransfer_follows wasmi ext e ran
  | extCreate => exact extCreate_follows wasmi ext e ran

/-- Over the whole of a contract's `call`, however it ends, the gas limit stays
and the gas used only grows. -/
theorem runCall_follows (funcs : List (Signature × HostFunc)) :
    ∀ (steps : List GuestStep) {e e' : Runtime M τ} {result : Except Error Unit},
      runCall wasmi ext funcs steps e = some (result, e') → e.Follows e'
  | [], e, e', result, ran => by
      cases ran
      exact Runtime.Follows.refl e
  | .call func args :: steps, e, e', result, ran => by
      unfold runCall at ran
      split at ran
      · cases ran
        exact Runtime.Follows.refl e
      · rename_i f _
        split at ran
        · cases ran
        · rename_i e₁ called
          cases ran
          exact HostFunc.invoke_follows wasmi ext called
        · rename_i e₁ called
          exact (HostFunc.invoke_follows wasmi ext called).trans (runCall_follows funcs steps ran)
  | .store ptr bytes :: steps, e, e', result, ran => by
      unfold runCall at ran
      split at ran
      · cases ran
        exact Runtime.Follows.refl e
      · -- a store changes only the memory
        have rest := runCall_follows funcs steps ran
        exact ⟨rest.gasLimit, rest.gasUsed⟩
  | .trap :: _, e, e', result, ran => by
      cases ran
      exact Runtime.Follows.refl e

end Run

/-! ## Contracts that only use the storage never panic -/

/-- The host functions that decode what they read from the contract's memory. -/
def HostFunc.decodes : HostFunc → Bool
  | .extTransfer | .extCreate => true
  | _ => false

/-- The signature each host function is written for, from the source's
comments: all its parameters are `u32`. -/
def HostFunc.signature : HostFunc → Signature
  | .gas => ⟨[.i32]⟩
  | .extSetStorage => ⟨[.i32, .i32, .i32]⟩
  | .extGetStorage => ⟨[.i32, .i32]⟩
  | .extTransfer | .extCreate => ⟨[.i32, .i32, .i32, .i32]⟩

/-- Arguments of `n` types `i32` are read without a panic. -/
theorem argU32_isSome_of_types {args : List TypedValue} {n : Nat}
    (typed : args.map TypedValue.valueType = List.replicate n .i32) {i : Nat} (below : i < n) :
    (argU32 args i).isSome := by
  have length : args.length = n := by simpa using congrArg List.length typed
  have inside : i < args.length := length ▸ below
  have isI32 : args[i].valueType = .i32 := by
    have read := congrArg (·[i]?) typed
    simpa [inside, below] using read
  unfold argU32
  rw [List.getElem?_eq_getElem inside, Option.bind_some]
  cases arg : args[i] with
  | i32 value => rfl
  | i64 value => rw [arg] at isI32; cases isI32
  | f32 bits => rw [arg] at isI32; cases isI32
  | f64 bits => rw [arg] at isI32; cases isI32

section Safe

variable {M τ AccountId Balance : Type} (wasmi : PagedMemory M) (ext : Ext τ AccountId Balance)

/-- A host function that decodes nothing, called with the arguments it is
written for, does not panic. -/
theorem HostFunc.invoke_isSome {f : HostFunc} (plain : f.decodes = false) (e : Runtime M τ)
    {args : List TypedValue} (typed : args.map TypedValue.valueType = f.signature.params) :
    (f.invoke wasmi ext e args).isSome := by
  cases f with
  | gas => exact extGas_isSome e (argU32_isSome_of_types (n := 1) typed (by decide))
  | extSetStorage =>
      exact extSetStorage_isSome wasmi ext e fun _ below => argU32_isSome_of_types (n := 3) typed below
  | extGetStorage =>
      exact extGetStorage_isSome wasmi ext e fun _ below => argU32_isSome_of_types (n := 2) typed below
  | extTransfer => cases plain
  | extCreate => cases plain

/-- A valid `call` over host functions that decode nothing, each imported
with the signature it is written for, does not panic. -/
theorem runCall_isSome {funcs : List (Signature × HostFunc)}
    (safe : ∀ func ∈ funcs, func.2.decodes = false ∧ func.1 = func.2.signature) :
    ∀ (steps : List GuestStep) (e : Runtime M τ), steps.all (GuestStep.valid funcs) = true →
      (runCall wasmi ext funcs steps e).isSome
  | [], _, _ => rfl
  | .call func args :: steps, e, valid => by
      rw [List.all_cons, Bool.and_eq_true] at valid
      obtain ⟨validCall, validRest⟩ := valid
      unfold runCall
      cases imported : funcs[func]? with
      | none =>
          rw [GuestStep.valid, imported] at validCall
          cases validCall
      | some func' =>
          obtain ⟨signature, f⟩ := func'
          rw [GuestStep.valid, imported] at validCall
          have ⟨plain, declared⟩ := safe _ (List.mem_of_getElem? imported)
          have typed : args.map TypedValue.valueType = f.signature.params := by
            rw [← show signature = f.signature from declared]
            exact beq_iff_eq.mp validCall
          obtain ⟨⟨result, e'⟩, called⟩ :=
            Option.isSome_iff_exists.mp (HostFunc.invoke_isSome wasmi ext plain e typed)
          dsimp only
          rw [called]
          cases result with
          | error _ => rfl
          | ok _ => exact runCall_isSome safe steps e' validRest
  | .store ptr bytes :: steps, e, valid => by
      rw [List.all_cons, Bool.and_eq_true] at valid
      unfold runCall
      split
      · rfl
      · exact runCall_isSome safe steps _ valid.2
  | .trap :: _, _, _ => rfl

/-- `resolve_func` gives the host function of the name, with the signature it
was asked for. -/
theorem resolveFunc_eq_ok {moduleName fieldName : String} {signature : Signature}
    {func : Signature × HostFunc} (resolved : resolveFunc moduleName fieldName signature = .ok func) :
    func.1 = signature ∧ imports.lookup (moduleName, fieldName) = some (.hostFunc func.2) := by
  unfold resolveFunc at resolved
  split at resolved
  · cases resolved
  · cases resolved
  · rename_i f named
    cases resolved
    exact ⟨rfl, named⟩

/-- The functions the imports resolve to are each the host function of an
import's name, with the signature that import declares. -/
theorem resolveImports_mem :
    ∀ {entries : List ImportEntry} {funcs : List (Signature × HostFunc)},
      resolveImports entries = .ok funcs → ∀ func ∈ funcs, ∃ entry ∈ entries,
        entry.external = .function func.1 ∧
          imports.lookup (entry.module, entry.field) = some (.hostFunc func.2)
  | [], funcs, resolved, func, member => by
      cases resolved
      cases member
  | entry :: entries, funcs, resolved, func, member => by
      unfold resolveImports at resolved
      split at resolved
      · rename_i signature declared
        cases named : resolveFunc entry.module entry.field signature with
        | error _ =>
            rw [named] at resolved
            cases resolved
        | ok first =>
            cases rest : resolveImports entries with
            | error _ =>
                rw [named, rest] at resolved
                cases resolved
            | ok others =>
                rw [named, rest] at resolved
                cases resolved
                rcases List.mem_cons.mp member with rfl | later
                · -- the first function is the one this entry resolves to
                  obtain ⟨same, found⟩ := resolveFunc_eq_ok named
                  exact ⟨entry, List.mem_cons_self, same ▸ declared, found⟩
                · obtain ⟨other, present, found⟩ := resolveImports_mem rest func later
                  exact ⟨other, List.mem_cons_of_mem _ present, found⟩
      · cases resolvedMemory : resolveMemory entry.module entry.field with
        | error _ =>
            rw [resolvedMemory] at resolved
            cases resolved
        | ok _ =>
            rw [resolvedMemory] at resolved
            obtain ⟨other, present, found⟩ := resolveImports_mem resolved func member
            exact ⟨other, List.mem_cons_of_mem _ present, found⟩
      · cases resolved
      · cases resolved

/-- A contract whose imported functions are only host functions that decode
nothing, each declared with the signature it is written for, never panics:
for every gas limit, every `Ext` and whatever its memory holds. -/
theorem execute_isSome_of_storageOnly {code : ContractModule}
    (storageOnly : ∀ entry ∈ code.importEntries, ∀ signature f,
      entry.external = .function signature →
        imports.lookup (entry.module, entry.field) = some (.hostFunc f) →
          f.decodes = false ∧ signature = f.signature)
    (state : τ) (gasLimit : BitVec 64) : (execute wasmi ext code state gasLimit).isSome := by
  unfold execute
  split
  · rfl
  · split
    · rfl
    · rename_i funcs resolved
      split
      · rfl
      · split
        · rw [Option.isSome_map]
          apply runCall_isSome wasmi ext _ _ _ ‹_›
          intro func member
          obtain ⟨entry, present, declared, named⟩ := resolveImports_mem resolved func member
          exact storageOnly entry present func.1 func.2 declared named
        · rfl

/-- A contract that imports `gas` with its `u32` amount runs to its end. -/
example :
    ((execute (Foundations.LinearMemory.paged Sandbox.pageSize Sandbox.maxPages) (⟨Codec.Slicable.u64, Codec.Slicable.u64, fun _ _ => none, fun state _ _ => state,
        fun state _ _ => state, fun state _ _ => state⟩ : Ext Unit (BitVec 64) (BitVec 64))
      ⟨0, [⟨"env", "memory", .memory 1 (some 1)⟩, ⟨"env", "gas", .function ⟨[.i32]⟩⟩],
        some [.call 0 [.i32 5]]⟩ () 100000).map Prod.fst) = some (.ok ()) := rfl

end Safe

/-- Three contracts that `prepare_contract` accepts, each with a memory of one
page, panic the runtime for an `Ext` with `u64` accounts and balances, over
every memory that keeps the laws of `wasmi`: one imports `gas` with no
parameter and calls it, one imports it with an `i64` parameter, and one
transfers to an account of no bytes. -/
theorem execute_panics_on_contract_input {M : Type} (wasmi : PagedMemory M)
    (lawful : wasmi.Lawful Sandbox.pageSize Sandbox.maxPages) :
    execute wasmi (⟨Codec.Slicable.u64, Codec.Slicable.u64, fun _ _ => none, fun state _ _ => state,
        fun state _ _ => state, fun state _ _ => state⟩ : Ext Unit (BitVec 64) (BitVec 64))
      ⟨0, [⟨"env", "memory", .memory 1 (some 1)⟩, ⟨"env", "gas", .function ⟨[]⟩⟩],
        some [.call 0 []]⟩ () 100000 = none ∧
    execute wasmi (⟨Codec.Slicable.u64, Codec.Slicable.u64, fun _ _ => none, fun state _ _ => state,
        fun state _ _ => state, fun state _ _ => state⟩ : Ext Unit (BitVec 64) (BitVec 64))
      ⟨0, [⟨"env", "memory", .memory 1 (some 1)⟩, ⟨"env", "gas", .function ⟨[.i64]⟩⟩],
        some [.call 0 [.i64 5]]⟩ () 100000 = none ∧
    execute wasmi (⟨Codec.Slicable.u64, Codec.Slicable.u64, fun _ _ => none, fun state _ _ => state,
        fun state _ _ => state, fun state _ _ => state⟩ : Ext Unit (BitVec 64) (BitVec 64))
      ⟨0, [⟨"env", "memory", .memory 1 (some 1)⟩,
          ⟨"env", "ext_transfer", .function ⟨[.i32, .i32, .i32, .i32]⟩⟩],
        some [.call 0 [.i32 0, .i32 0, .i32 0, .i32 8]]⟩ () 100000 = none := by
  obtain ⟨memory, allocated⟩ : ∃ memory, wasmi.alloc 1 (some 1) = some memory :=
    lawful.exists_alloc (by decide)
  -- each contract imports a memory of one page, which `wasmi` allocates
  have prepared : ∀ (entry : ImportEntry) (call : Option (List GuestStep)),
      prepareContract wasmi ⟨0, [⟨"env", "memory", .memory 1 (some 1)⟩, entry], call⟩ = .ok memory := by
    intro entry call
    simp [prepareContract, findMemImport, Sandbox.WithStd.Memory.new, allocated, maxMemoryPages,
      Except.mapError]
  -- the account of no bytes is read from inside the memory, and does not decode
  have panics : ∀ e : Runtime M Unit, extTransfer wasmi
      (⟨Codec.Slicable.u64, Codec.Slicable.u64, fun _ _ => none, fun state _ _ => state,
        fun state _ _ => state, fun state _ _ => state⟩ : Ext Unit (BitVec 64) (BitVec 64))
      e [.i32 0, .i32 0, .i32 0, .i32 8] = none :=
    fun e => extTransfer_eq_none_of_empty wasmi _ e lawful rfl (Nat.zero_le _)
  refine ⟨?_, ?_, ?_⟩
  · unfold execute
    rw [prepared]
    rfl
  · unfold execute
    rw [prepared]
    rfl
  · have resolved : resolveImports [⟨"env", "memory", .memory 1 (some 1)⟩,
        ⟨"env", "ext_transfer", .function ⟨[.i32, .i32, .i32, .i32]⟩⟩] =
          .ok [(⟨[.i32, .i32, .i32, .i32]⟩, .extTransfer)] := rfl
    unfold execute
    rw [prepared, resolved]
    dsimp only
    split_ifs with valid
    · simp only [runCall, List.getElem?_cons_zero, HostFunc.invoke, panics, Option.map_none]
    · exact (valid rfl).elim

/-- The linear memories of `Foundations` are memories of `wasmi`, and the three
contracts of `execute_panics_on_contract_input` panic over them. -/
theorem execute_panics_on_contract_input_linearMemory :
    (Foundations.LinearMemory.paged Sandbox.pageSize Sandbox.maxPages).Lawful Sandbox.pageSize
      Sandbox.maxPages ∧
    execute (Foundations.LinearMemory.paged Sandbox.pageSize Sandbox.maxPages)
      (⟨Codec.Slicable.u64, Codec.Slicable.u64, fun _ _ => none, fun state _ _ => state,
        fun state _ _ => state, fun state _ _ => state⟩ : Ext Unit (BitVec 64) (BitVec 64))
      ⟨0, [⟨"env", "memory", .memory 1 (some 1)⟩, ⟨"env", "gas", .function ⟨[]⟩⟩],
        some [.call 0 []]⟩ () 100000 = none ∧
    execute (Foundations.LinearMemory.paged Sandbox.pageSize Sandbox.maxPages)
      (⟨Codec.Slicable.u64, Codec.Slicable.u64, fun _ _ => none, fun state _ _ => state,
        fun state _ _ => state, fun state _ _ => state⟩ : Ext Unit (BitVec 64) (BitVec 64))
      ⟨0, [⟨"env", "memory", .memory 1 (some 1)⟩, ⟨"env", "gas", .function ⟨[.i64]⟩⟩],
        some [.call 0 [.i64 5]]⟩ () 100000 = none ∧
    execute (Foundations.LinearMemory.paged Sandbox.pageSize Sandbox.maxPages)
      (⟨Codec.Slicable.u64, Codec.Slicable.u64, fun _ _ => none, fun state _ _ => state,
        fun state _ _ => state, fun state _ _ => state⟩ : Ext Unit (BitVec 64) (BitVec 64))
      ⟨0, [⟨"env", "memory", .memory 1 (some 1)⟩,
          ⟨"env", "ext_transfer", .function ⟨[.i32, .i32, .i32, .i32]⟩⟩],
        some [.call 0 [.i32 0, .i32 0, .i32 0, .i32 8]]⟩ () 100000 = none :=
  ⟨Foundations.LinearMemory.paged_lawful _ _,
    execute_panics_on_contract_input _ (Foundations.LinearMemory.paged_lawful _ _)⟩

end Contract
end Polkadot
