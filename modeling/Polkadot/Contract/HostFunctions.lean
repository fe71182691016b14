import Polkadot.Sandbox.Memory
import Polkadot.Codec.Slicable
import Polkadot.Foundations.Unsigned

/-!
# Contract host functions

The host functions that `contract::execute` of `runtime/contract/src/lib.rs`
gives a contract: `gas`, `ext_set_storage`, `ext_get_storage`, `ext_transfer`
and `ext_create`.  Each receives the arguments the sandbox hands it and returns
`Ok` or `Err(HostError)`; a failed access to the contract's memory is an
`Err`.  Each reads its arguments with `args[i].as_i32().unwrap()`, and
`ext_transfer` and `ext_create` decode what they read from the contract's
memory with `decode(..).unwrap()`: these are panics, `none` here.  The
contract's memory is one of `wasmi`, the parameter `wasmi : PagedMemory M` of
the sandbox.

A `Runtime` carries `gas_used ≤ gas_limit` as a field: `charge_gas` charges an
amount only when the sum neither wraps nor passes the limit
(`chargeGas_fst`, `gasUsed_chargeGas`).  Every host function keeps the limit
and never gives gas back (`Runtime.Follows`).  The storage functions and `gas`
panic only on their arguments (`extSetStorage_isSome`, `extGetStorage_isSome`,
`extGas_isSome`); a transfer to an account of zero bytes panics in every
runtime whose `AccountId` does not decode from nothing
(`extTransfer_eq_none_of_empty`).
-/

namespace Polkadot
namespace Contract

open Foundations (Bytes checkedAdd PagedMemory)

/-- `sandbox::TypedValue`: a wasm value, a float by its bits. -/
inductive TypedValue where
  | i32 (value : BitVec 32)
  | i64 (value : BitVec 64)
  | f32 (bits : BitVec 32)
  | f64 (bits : BitVec 64)
  deriving DecidableEq, Repr

/-- `TypedValue::as_i32`. -/
def TypedValue.asI32 : TypedValue → Option (BitVec 32)
  | .i32 value => some value
  | _ => none

/-- `sandbox::ReturnValue`. -/
inductive ReturnValue where
  | value (value : TypedValue)
  | unit
  deriving DecidableEq, Repr

/-- `sandbox::HostError`, which carries nothing. -/
structure HostError where
  deriving DecidableEq, Repr

/-- `contract::Ext` over the state `τ` of the account a contract runs for, with
the `Slicable` implementations of its `AccountId` and `Balance`. -/
structure Ext (τ AccountId Balance : Type) where
  accountId : Codec.Slicable AccountId
  balance : Codec.Slicable Balance
  getStorage : τ → Bytes → Option Bytes
  setStorage : τ → Bytes → Option Bytes → τ
  create : τ → Bytes → Balance → τ
  transfer : τ → AccountId → Balance → τ

/-- The `Runtime` the host functions act on: the `Ext`'s state, the memory the
contract imports, and the gas used, which never passes the limit. -/
structure Runtime (M τ : Type) where
  ext : τ
  memory : M
  gasUsed : BitVec 64
  gasLimit : BitVec 64
  withinLimit : gasUsed ≤ gasLimit

/-- What a host function returns, with the runtime it leaves. -/
abbrev HostReturn (M τ : Type) := Except HostError ReturnValue × Runtime M τ

/-- `args[i].as_i32().unwrap() as u32`: a panic past the end of the slice or on
an argument that is not an `i32`. -/
def argU32 (args : List TypedValue) (i : Nat) : Option (BitVec 32) :=
  args[i]?.bind TypedValue.asI32

/-- `T::decode(&mut &buf[..]).unwrap()`: a panic where `buf` does not decode. -/
def decodeUnwrap {α : Type} (codec : Codec.Slicable α) (buf : Bytes) : Option α :=
  (codec.decode buf).map Prod.fst

/-- An argument reads as a `u32` exactly when it is an `i32`. -/
@[simp] theorem argU32_eq_some_iff {args : List TypedValue} {i : Nat} {value : BitVec 32} :
    argU32 args i = some value ↔ args[i]? = some (.i32 value) := by
  unfold argU32
  cases args[i]? with
  | none => simp
  | some arg => cases arg <;> simp [TypedValue.asI32]

namespace Runtime

variable {M τ : Type}

/-- `e'` comes after `e` in a contract's run: the same limit, and at least as
much gas used. -/
structure Follows (e e' : Runtime M τ) : Prop where
  gasLimit : e'.gasLimit = e.gasLimit
  gasUsed : e.gasUsed ≤ e'.gasUsed

/-- A runtime follows itself. -/
theorem Follows.refl (e : Runtime M τ) : e.Follows e := ⟨rfl, BitVec.le_refl _⟩

/-- Following is transitive. -/
theorem Follows.trans {e₁ e₂ e₃ : Runtime M τ} (first : e₁.Follows e₂) (second : e₂.Follows e₃) :
    e₁.Follows e₃ :=
  ⟨second.gasLimit.trans first.gasLimit, BitVec.le_trans first.gasUsed second.gasUsed⟩

variable (wasmi : PagedMemory M) (e : Runtime M τ)

/-- `charge_gas`: `true` with `amount` added to the gas used, if the sum does not
wrap and stays within the limit; otherwise `false`, with nothing charged. -/
def chargeGas (amount : BitVec 64) : Bool × Runtime M τ :=
  match checkedAdd e.gasUsed amount with
  | none => (false, e)
  | some val =>
      if exceeds : val > e.gasLimit then (false, e)
      else (true, { e with gasUsed := val, withinLimit := BitVec.not_lt.mp exceeds })

/-- `memory().get(ptr, &mut buf)?` into a buffer of `len` bytes: the bytes read,
or the sandbox's `Error` as a `HostError`. -/
def memoryGet (ptr : BitVec 32) (len : Nat) : Except HostError Bytes :=
  (Sandbox.WithStd.Memory.get wasmi e.memory ptr.toNat len).mapError fun _ => ⟨⟩

/-- `memory().set(ptr, value)?`. -/
def memorySet (ptr : BitVec 32) (value : Bytes) : Except HostError (Runtime M τ) :=
  match Sandbox.WithStd.Memory.set wasmi e.memory ptr.toNat value with
  | .ok memory => .ok { e with memory }
  | .error _ => .error ⟨⟩

/-- `charge_gas` charges exactly when the gas used stays within the limit. -/
theorem chargeGas_fst (amount : BitVec 64) :
    (e.chargeGas amount).1 = decide (e.gasUsed.toNat + amount.toNat ≤ e.gasLimit.toNat) := by
  have limit := e.gasLimit.isLt
  unfold chargeGas checkedAdd
  by_cases fits : e.gasUsed.toNat + amount.toNat < 2 ^ 64
  · rw [if_pos fits]
    dsimp only
    split_ifs with exceeds
    · rw [gt_iff_lt, BitVec.lt_def, BitVec.toNat_add, Nat.mod_eq_of_lt fits] at exceeds
      simp only [Bool.false_eq, decide_eq_false_iff_not]
      omega
    · rw [gt_iff_lt, BitVec.lt_def, BitVec.toNat_add, Nat.mod_eq_of_lt fits] at exceeds
      exact (decide_eq_true (by omega)).symm
  · -- a sum that wraps is past every limit
    rw [if_neg fits]
    simp only [Bool.false_eq, decide_eq_false_iff_not]
    omega

/-- `charge_gas` adds the amount it charges to the gas used, and nothing if it
refuses. -/
theorem gasUsed_chargeGas (amount : BitVec 64) :
    (e.chargeGas amount).2.gasUsed.toNat =
      if (e.chargeGas amount).1 then e.gasUsed.toNat + amount.toNat else e.gasUsed.toNat := by
  unfold chargeGas
  split
  · rfl
  · rename_i val sum
    by_cases exceeds : val > e.gasLimit
    · simp only [dif_pos exceeds, Bool.false_eq_true, if_false]
    · simp only [dif_neg exceeds, if_true]
      exact Foundations.toNat_of_checkedAdd sum

/-- `charge_gas` keeps the limit and never gives gas back. -/
theorem chargeGas_follows (amount : BitVec 64) : e.Follows (e.chargeGas amount).2 := by
  refine ⟨?_, ?_⟩
  · unfold chargeGas
    split
    · rfl
    · split_ifs <;> rfl
  · rw [BitVec.le_def, gasUsed_chargeGas]
    split_ifs <;> omega

/-- A read of no bytes inside the memory returns nothing, and no error. -/
theorem memoryGet_zero (lawful : wasmi.Lawful Sandbox.pageSize Sandbox.maxPages) {ptr : BitVec 32}
    (inside : ptr.toNat ≤ wasmi.pages e.memory * Sandbox.pageSize) :
    e.memoryGet wasmi ptr 0 = .ok [] := by
  simp [Runtime.memoryGet, Sandbox.WithStd.Memory.get, lawful.get_zero inside, Except.mapError]

/-- A write to the memory keeps the gas. -/
theorem memorySet_follows {ptr : BitVec 32} {value : Bytes} {e' : Runtime M τ}
    (wrote : e.memorySet wasmi ptr value = .ok e') : e.Follows e' := by
  unfold memorySet at wrote
  split at wrote
  · cases wrote
    exact ⟨rfl, BitVec.le_refl _⟩
  · cases wrote

end Runtime

section HostFunctions

variable {M τ AccountId Balance : Type} (wasmi : PagedMemory M) (ext : Ext τ AccountId Balance)
  (e : Runtime M τ)

/-- `ext_gas(amount: u32)`: traps when `charge_gas` refuses. -/
def extGas (args : List TypedValue) : Option (HostReturn M τ) := do
  let amount ← argU32 args 0
  match e.chargeGas (amount.setWidth 64) with
  | (true, e) => pure (.ok .unit, e)
  | (false, e) => pure (.error ⟨⟩, e)

/-- `ext_set_storage(location_ptr: u32, value_non_null: u32, value_ptr: u32)`:
the 32 bytes at `location_ptr` are the key, and the 32 bytes at `value_ptr` its
new value, or none where `value_non_null` is zero. -/
def extSetStorage (args : List TypedValue) : Option (HostReturn M τ) := do
  let locationPtr ← argU32 args 0
  let valueNonNull ← argU32 args 1
  let valuePtr ← argU32 args 2
  match e.memoryGet wasmi locationPtr 32 with
  | .error err => pure (.error err, e)
  | .ok location =>
      let value : Except HostError (Option Bytes) :=
        if valueNonNull ≠ 0 then (e.memoryGet wasmi valuePtr 32).map some else .ok none
      match value with
      | .error err => pure (.error err, e)
      | .ok value => pure (.ok .unit, { e with ext := ext.setStorage e.ext location value })

/-- `ext_get_storage(location_ptr: u32, dest_ptr: u32)`: the value at the key
of 32 bytes at `location_ptr` is written at `dest_ptr`, 32 zeroes where there is
none. -/
def extGetStorage (args : List TypedValue) : Option (HostReturn M τ) := do
  let locationPtr ← argU32 args 0
  let destPtr ← argU32 args 1
  match e.memoryGet wasmi locationPtr 32 with
  | .error err => pure (.error err, e)
  | .ok location =>
      match e.memorySet wasmi destPtr ((ext.getStorage e.ext location).getD (List.replicate 32 0)) with
      | .error err => pure (.error err, e)
      | .ok e' => pure (.ok .unit, e')

/-- `ext_transfer(transfer_to: u32, transfer_to_len: u32, value_ptr: u32,
value_len: u32)`: the account and the value are decoded from the contract's
memory. -/
def extTransfer (args : List TypedValue) : Option (HostReturn M τ) := do
  let transferToPtr ← argU32 args 0
  let transferToLen ← argU32 args 1
  let valuePtr ← argU32 args 2
  let valueLen ← argU32 args 3
  match e.memoryGet wasmi transferToPtr transferToLen.toNat with
  | .error err => pure (.error err, e)
  | .ok transferTo =>
      let transferTo ← decodeUnwrap ext.accountId transferTo
      match e.memoryGet wasmi valuePtr valueLen.toNat with
      | .error err => pure (.error err, e)
      | .ok valueBuf =>
          let value ← decodeUnwrap ext.balance valueBuf
          pure (.ok .unit, { e with ext := ext.transfer e.ext transferTo value })

/-- `ext_create(code_ptr: u32, code_len: u32, value_ptr: u32, value_len: u32)`:
the value is decoded from the contract's memory before the code is read. -/
def extCreate (args : List TypedValue) : Option (HostReturn M τ) := do
  let codePtr ← argU32 args 0
  let codeLen ← argU32 args 1
  let valuePtr ← argU32 args 2
  let valueLen ← argU32 args 3
  match e.memoryGet wasmi valuePtr valueLen.toNat with
  | .error err => pure (.error err, e)
  | .ok valueBuf =>
      let value ← decodeUnwrap ext.balance valueBuf
      match e.memoryGet wasmi codePtr codeLen.toNat with
      | .error err => pure (.error err, e)
      | .ok code => pure (.ok .unit, { e with ext := ext.create e.ext code value })

/-! ## Every host function keeps the limit and never gives gas back -/

variable {args : List TypedValue} {r : HostReturn M τ}

/-- `ext_gas` keeps the limit and never gives gas back. -/
theorem extGas_follows (ran : extGas e args = some r) : e.Follows r.2 := by
  unfold extGas at ran
  simp only [Option.bind_eq_bind, Option.bind_eq_some_iff] at ran
  obtain ⟨amount, -, ran⟩ := ran
  have follows := e.chargeGas_follows (amount.setWidth 64)
  -- the runtime is the one `charge_gas` leaves, whether it charged or not
  split at ran <;>
    (cases ran; rename_i charged; rw [charged] at follows; exact follows)

/-- `ext_set_storage` keeps the gas. -/
theorem extSetStorage_follows (ran : extSetStorage wasmi ext e args = some r) : e.Follows r.2 := by
  unfold extSetStorage at ran
  simp only [Option.bind_eq_bind, Option.bind_eq_some_iff] at ran
  obtain ⟨_, -, _, -, _, -, ran⟩ := ran
  split at ran
  · cases ran
    exact Runtime.Follows.refl e
  · split at ran <;> (cases ran; exact ⟨rfl, BitVec.le_refl _⟩)

/-- `ext_get_storage` keeps the gas. -/
theorem extGetStorage_follows (ran : extGetStorage wasmi ext e args = some r) : e.Follows r.2 := by
  unfold extGetStorage at ran
  simp only [Option.bind_eq_bind, Option.bind_eq_some_iff] at ran
  obtain ⟨_, -, _, -, ran⟩ := ran
  split at ran
  · cases ran
    exact Runtime.Follows.refl e
  · split at ran
    · cases ran
      exact Runtime.Follows.refl e
    · rename_i wrote
      cases ran
      exact e.memorySet_follows wasmi wrote

/-- `ext_transfer` keeps the gas. -/
theorem extTransfer_follows (ran : extTransfer wasmi ext e args = some r) : e.Follows r.2 := by
  unfold extTransfer at ran
  simp only [Option.bind_eq_bind, Option.bind_eq_some_iff] at ran
  obtain ⟨_, -, _, -, _, -, _, -, ran⟩ := ran
  split at ran
  · cases ran
    exact Runtime.Follows.refl e
  · simp only [Option.bind_eq_some_iff] at ran
    obtain ⟨_, -, ran⟩ := ran
    split at ran
    · cases ran
      exact Runtime.Follows.refl e
    · simp only [Option.bind_eq_some_iff, Option.pure_def, Option.some.injEq] at ran
      obtain ⟨_, -, rfl⟩ := ran
      exact ⟨rfl, BitVec.le_refl _⟩

/-- `ext_create` keeps the gas. -/
theorem extCreate_follows (ran : extCreate wasmi ext e args = some r) : e.Follows r.2 := by
  unfold extCreate at ran
  simp only [Option.bind_eq_bind, Option.bind_eq_some_iff] at ran
  obtain ⟨_, -, _, -, _, -, _, -, ran⟩ := ran
  split at ran
  · cases ran
    exact Runtime.Follows.refl e
  · simp only [Option.bind_eq_some_iff] at ran
    obtain ⟨_, -, ran⟩ := ran
    split at ran <;> (cases ran; exact ⟨rfl, BitVec.le_refl _⟩)

/-! ## Where a host function panics -/

/-- `gas` panics only on its argument. -/
theorem extGas_isSome (typed : (argU32 args 0).isSome) : (extGas e args).isSome := by
  obtain ⟨amount, read⟩ := Option.isSome_iff_exists.mp typed
  unfold extGas
  rw [read, Option.bind_eq_bind, Option.bind_some]
  split <;> rfl

/-- `ext_set_storage` panics only on its arguments: a failed read of the
contract's memory is an `Err`. -/
theorem extSetStorage_isSome (typed : ∀ i < 3, (argU32 args i).isSome) :
    (extSetStorage wasmi ext e args).isSome := by
  obtain ⟨locationPtr, read₀⟩ := Option.isSome_iff_exists.mp (typed 0 (by decide))
  obtain ⟨valueNonNull, read₁⟩ := Option.isSome_iff_exists.mp (typed 1 (by decide))
  obtain ⟨valuePtr, read₂⟩ := Option.isSome_iff_exists.mp (typed 2 (by decide))
  unfold extSetStorage
  simp only [read₀, read₁, read₂, Option.bind_eq_bind, Option.bind_some]
  split
  · rfl
  · split <;> rfl

/-- `ext_get_storage` panics only on its arguments. -/
theorem extGetStorage_isSome (typed : ∀ i < 2, (argU32 args i).isSome) :
    (extGetStorage wasmi ext e args).isSome := by
  obtain ⟨locationPtr, read₀⟩ := Option.isSome_iff_exists.mp (typed 0 (by decide))
  obtain ⟨destPtr, read₁⟩ := Option.isSome_iff_exists.mp (typed 1 (by decide))
  unfold extGetStorage
  simp only [read₀, read₁, Option.bind_eq_bind, Option.bind_some]
  split
  · rfl
  · split <;> rfl

/-- A transfer to an account of zero bytes inside the memory panics, whatever
the value and wherever it lies, for every `AccountId` that does not decode from
nothing. -/
theorem extTransfer_eq_none_of_empty (lawful : wasmi.Lawful Sandbox.pageSize Sandbox.maxPages)
    (undecodable : ext.accountId.decode [] = none) {transferToPtr valuePtr valueLen : BitVec 32}
    (inside : transferToPtr.toNat ≤ wasmi.pages e.memory * Sandbox.pageSize) :
    extTransfer wasmi ext e [.i32 transferToPtr, .i32 0, .i32 valuePtr, .i32 valueLen] = none := by
  unfold extTransfer
  simp only [argU32, List.getElem?_cons_zero, List.getElem?_cons_succ, Option.bind_some,
    TypedValue.asI32, Option.bind_eq_bind]
  have empty : (0 : BitVec 32).toNat = 0 := rfl
  rw [empty, e.memoryGet_zero wasmi lawful inside]
  simp only [decodeUnwrap, undecodable, Option.map_none, Option.bind_none]

end HostFunctions

end Contract
end Polkadot
