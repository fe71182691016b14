import Polkadot.Consensus.Evaluation
import Polkadot.Foundations.SortedVec
import Polkadot.Foundations.MapWrites

/-!
# The parachains module

`polkadot/runtime/src/parachains.rs`: the runtime keeps the ids of the active
parachains in `Parachains`, and the code and the head of each in `Code` and
`Heads`.  `register_parachain` inserts an id where `binary_search` says it
goes, `deregister_parachain` removes it, and the genesis sorts and dedups its
list.  Once a block, the unsigned `set_heads` at its fixed position writes the
heads of the candidates it is given.

Every storage these reach keeps its ids strictly ascending, with code for
exactly those ids and heads for none other (`Reachable.consistent`).  The
genesis writes no head, so a parachain of the genesis has none until a
`set_heads` gives it one.  On such a list of ids the runtime's check of the
heads and the one of `evaluate_initial` accept the same candidates, those whose
ids are an ascending sublist of the active ones (`findHeads_iff_checkHeads`,
`findHeads_eq_ok_iff`).
-/

namespace Polkadot
namespace Parachains

open Foundations (Bytes iterAny binarySearch)
open Parachain (Id CandidateReceipt)
open Consensus (Ascending checkHeads)

/-- `Id` derives `Ord`: ids are ordered as their `u32`. -/
instance : LinearOrder Id :=
  LinearOrder.lift' (fun id => id.value.toNat) fun ⟨_⟩ ⟨_⟩ same =>
    congrArg Id.mk (BitVec.eq_of_toNat_eq same)

/-- `Ascending` is sortedness in the order of ids. -/
theorem ascending_iff {ids : List Id} : Ascending ids ↔ ids.Pairwise (· < ·) := Iff.rfl

/-- The storage of the module: `Parachains`, `Code`, `Heads` and whether
`DidUpdate` exists. -/
structure Storage where
  parachains : List Id
  code : AList (fun _ : Id => Bytes)
  heads : AList (fun _ : Id => Bytes)
  didUpdate : Bool

/-- The check loop of `set_heads`: each head must be found in what is left of
the active parachains, which `iter.find` consumes up to it. -/
def findHeads (iter : List Id) : List CandidateReceipt → Except String Unit
  | [] => .ok ()
  | head :: heads =>
      let searched := iterAny (fun p => decide (p = head.parachainIndex)) iter
      if searched.1 then findHeads searched.2 heads
      else .error "Submitted candidate for unregistered or out-of-order parachain \x7b\x7d"

/-- The writes of `set_heads`: the head of each candidate, in order. -/
def insertHeads (heads : AList (fun _ : Id => Bytes)) (candidates : List CandidateReceipt) :
    AList (fun _ : Id => Bytes) :=
  candidates.foldl (fun map head => map.insert head.parachainIndex head.headData.bytes) heads

namespace Storage

/-- `register_parachain`: `none` when the id is already there, which panics. -/
def registerParachain (s : Storage) (id : Id) (code initialHeadData : Bytes) : Option Storage :=
  match binarySearch s.parachains id with
  | .ok _ => none
  | .error idx =>
      some { s with
        parachains := s.parachains.insertIdx idx id
        code := s.code.insert id code
        heads := s.heads.insert id initialHeadData }

/-- `deregister_parachain`. -/
def deregisterParachain (s : Storage) (id : Id) : Storage :=
  let parachains :=
    match binarySearch s.parachains id with
    | .ok idx => s.parachains.eraseIdx idx
    | .error _ => s.parachains
  { s with parachains, code := s.code.erase id, heads := s.heads.erase id }

/-- `set_heads` called with whether its origin is empty, at the position of its
extrinsic in the block, with `SET_POSITION`.  All the checks come before the
writes. -/
def setHeads (setPosition : Nat) (auxIsEmpty : Bool) (extrinsicIndex : Nat)
    (heads : List CandidateReceipt) (s : Storage) : Except String Unit × Storage :=
  if !auxIsEmpty then (.error "set_heads must not be signed", s)
  else if s.didUpdate then (.error "Parachain heads must be updated only once in the block", s)
  else if extrinsicIndex ≠ setPosition then
    (.error "Parachain heads update extrinsic must be at position \x7b\x7d in the block", s)
  else
    match findHeads s.parachains heads with
    | .error e => (.error e, s)
    | .ok () => (.ok (), { s with heads := insertHeads s.heads heads, didUpdate := true })

/-- `Executable::execute` at the end of a block: `DidUpdate` is taken, and the
block panics unless the heads were updated in it. -/
def execute (s : Storage) : Option Storage :=
  if s.didUpdate then some { s with didUpdate := false } else none

end Storage

/-- The genesis configuration of the module: the initial parachains with their
code. -/
structure GenesisConfig where
  parachains : List (Id × Bytes)

/-- `build_storage`: the parachains sorted by id (`sort_unstable_by_key`, which
leaves open the order of equal ids; the model keeps their order), the first of
each run of equal ids kept (`dedup_by_key`), their ids in `Parachains` and their
code in `Code`.  No head is written. -/
def GenesisConfig.buildStorage (config : GenesisConfig) : Storage :=
  let sorted := config.parachains.mergeSort fun a b => decide (a.1 ≤ b.1)
  let parachains := sorted.destutter fun a b => a.1 ≠ b.1
  { parachains := parachains.map Prod.fst
    code := parachains.foldl (fun map entry => map.insert entry.1 entry.2) ∅
    heads := ∅
    didUpdate := false }

/-! ## The checks of the heads -/

/-- The runtime accepts the candidates whose ids are a sublist of the active
ones. -/
theorem findHeads_eq_ok_iff {iter : List Id} {heads : List CandidateReceipt} :
    findHeads iter heads = .ok () ↔ (heads.map (·.parachainIndex)).Sublist iter := by
  induction heads generalizing iter with
  | nil => simp [findHeads]
  | cons head heads ih =>
      rw [List.map_cons, Foundations.cons_sublist_iff_iterAny, ← ih, findHeads.eq_2]
      by_cases found : (iterAny (fun p => decide (p = head.parachainIndex)) iter).1
      · rw [if_pos found]
        exact ⟨fun accepted => ⟨found, accepted⟩, And.right⟩
      · rw [if_neg found]
        exact ⟨nofun, fun ⟨hit, _⟩ => absurd hit found⟩

/-- What `evaluate_initial`'s loop accepts, the runtime's loop accepts: they
consume the iterator alike, and the first checks the order besides. -/
theorem findHeads_of_checkHeads {lastId : Option Id} {iter : List Id}
    {heads : List CandidateReceipt} (accepted : checkHeads lastId iter heads = .ok ()) :
    findHeads iter heads = .ok () := by
  induction heads generalizing lastId iter with
  | nil => rfl
  | cons head heads ih =>
      unfold checkHeads at accepted
      dsimp only at accepted
      split_ifs at accepted with outOfOrder found
      unfold findHeads
      dsimp only
      rw [if_pos found]
      exact ih accepted

/-- On a strictly ascending list of active ids, the parachain checks of
`evaluate_initial` (no more candidates than parachains, and its loop) accept
exactly what `set_heads`'s loop accepts. -/
theorem findHeads_iff_checkHeads {active : List Id} (sorted : Ascending active)
    {heads : List CandidateReceipt} :
    findHeads active heads = .ok () ↔
      heads.length ≤ active.length ∧ checkHeads none active heads = .ok () := by
  constructor
  · intro accepted
    have sub := findHeads_eq_ok_iff.mp accepted
    refine ⟨by simpa using sub.length_le, Consensus.checkHeads_of_ascending sorted ?_ ?_⟩
    · exact sorted.sublist sub
    · exact fun head member => sub.subset (List.mem_map_of_mem member)
  · exact fun ⟨_, accepted⟩ => findHeads_of_checkHeads accepted

/-! ## What each call does to the storage -/

namespace Storage

variable {s next : Storage}

/-- `set_heads` fails with the storage as it was, or passes its checks and
writes the heads. -/
theorem setHeads_cases {setPosition extrinsicIndex : Nat} {auxIsEmpty : Bool}
    {heads : List CandidateReceipt} {result : Except String Unit}
    (set : setHeads setPosition auxIsEmpty extrinsicIndex heads s = (result, next)) :
    (result ≠ .ok () ∧ next = s) ∨
      (result = .ok () ∧ auxIsEmpty = true ∧ s.didUpdate = false ∧
        extrinsicIndex = setPosition ∧ findHeads s.parachains heads = .ok () ∧
        next = { s with heads := insertHeads s.heads heads, didUpdate := true }) := by
  unfold setHeads at set
  split_ifs at set with signed updated elsewhere
  · cases set; exact .inl ⟨nofun, rfl⟩
  · cases set; exact .inl ⟨nofun, rfl⟩
  · cases set; exact .inl ⟨nofun, rfl⟩
  · cases found : findHeads s.parachains heads with
    | error e => rw [found] at set; cases set; exact .inl ⟨nofun, rfl⟩
    | ok =>
        rw [found] at set
        cases set
        exact .inr ⟨rfl, by simpa using signed, by simpa using updated, by simpa using elsewhere,
          rfl, rfl⟩

/-- A call of `set_heads` that passes the guards before the loop is accepted
exactly when its loop is. -/
theorem setHeads_eq_ok_iff {setPosition : Nat} {heads : List CandidateReceipt} :
    (setHeads setPosition true setPosition heads s).1 = .ok () ↔
      s.didUpdate = false ∧ findHeads s.parachains heads = .ok () := by
  unfold setHeads
  cases updated : s.didUpdate
  · cases found : findHeads s.parachains heads <;> simp
  · simp

end Storage

/-! ## The invariant of the storage -/

/-- The invariant of the module's storage: the ids go up strictly, the code is
stored for exactly the active parachains, and a head only for them. -/
structure Consistent (s : Storage) : Prop where
  ascending : Ascending s.parachains
  mem_code : ∀ id, id ∈ s.code ↔ id ∈ s.parachains
  mem_heads : ∀ id, id ∈ s.heads → id ∈ s.parachains

/-- A consistent storage registers each parachain once. -/
theorem Consistent.nodup {s : Storage} (consistent : Consistent s) : s.parachains.Nodup :=
  (ascending_iff.mp consistent.ascending).imp ne_of_lt

/-- The genesis storage is consistent. -/
theorem consistent_buildStorage (config : GenesisConfig) : Consistent config.buildStorage := by
  have ordered : (config.parachains.mergeSort fun a b => decide (a.1 ≤ b.1)).Pairwise
      fun a b => decide (a.1 ≤ b.1) = true :=
    List.pairwise_mergeSort
      (fun _ _ _ first second => by simp only [decide_eq_true_eq] at *; exact first.trans second)
      (fun a b => by simpa using le_total a.1 b.1) config.parachains
  refine ⟨ascending_iff.mpr (Foundations.sorted_destutter Prod.fst (ordered.imp fun le => by simpa using le)),
    fun id => ?_, fun id absent => absurd absent (AList.notMem_empty id)⟩
  simp [GenesisConfig.buildStorage, Foundations.mem_foldl_insert, AList.notMem_empty]

/-- Registering a parachain keeps the storage consistent. -/
theorem Consistent.registerParachain {s next : Storage} {id : Id} {code initialHeadData : Bytes}
    (consistent : Consistent s)
    (registered : s.registerParachain id code initialHeadData = some next) : Consistent next := by
  unfold Storage.registerParachain at registered
  split at registered
  · cases registered
  · rename_i idx missing
    cases registered
    have member : ∀ other, other ∈ s.parachains.insertIdx idx id ↔ other = id ∨ other ∈ s.parachains :=
      fun other => Foundations.mem_insertIdx_of_binarySearch missing
    refine ⟨Foundations.sorted_insertIdx_of_binarySearch consistent.ascending missing,
      fun other => ?_, fun other present => ?_⟩
    · rw [AList.mem_insert, member, consistent.mem_code]
    · rw [AList.mem_insert] at present
      exact (member other).mpr (present.imp_right (consistent.mem_heads other))

/-- On a consistent storage, `register_parachain` panics exactly on an id that
is already active. -/
theorem Consistent.registerParachain_eq_none_iff {s : Storage} {id : Id}
    {code initialHeadData : Bytes} (consistent : Consistent s) :
    s.registerParachain id code initialHeadData = none ↔ id ∈ s.parachains := by
  unfold Storage.registerParachain
  split
  · rename_i idx found
    exact ⟨fun _ => Foundations.mem_of_binarySearch_ok found, fun _ => rfl⟩
  · rename_i idx missing
    exact ⟨nofun, fun active =>
      absurd active (Foundations.not_mem_of_binarySearch_error consistent.ascending missing)⟩

/-- Deregistering a parachain keeps the storage consistent. -/
theorem Consistent.deregisterParachain {s : Storage} {id : Id} (consistent : Consistent s) :
    Consistent (s.deregisterParachain id) := by
  unfold Storage.deregisterParachain
  split
  · rename_i idx found
    have member : ∀ other, other ∈ s.parachains.eraseIdx idx ↔ other ≠ id ∧ other ∈ s.parachains :=
      fun other => Foundations.mem_eraseIdx_of_binarySearch consistent.ascending found
    refine ⟨consistent.ascending.sublist (List.eraseIdx_sublist _ _), fun other => ?_,
      fun other present => ?_⟩
    · rw [AList.mem_erase, member, consistent.mem_code]
    · rw [AList.mem_erase] at present
      exact (member other).mpr (present.imp_right (consistent.mem_heads other))
  · -- the id was not active: erasing its code and head changes no active id
    rename_i idx missing
    have absent := Foundations.not_mem_of_binarySearch_error consistent.ascending missing
    refine ⟨consistent.ascending, fun other => ?_, fun other present => ?_⟩
    · rw [AList.mem_erase, consistent.mem_code]
      exact ⟨And.right, fun active => ⟨fun same => absent (same ▸ active), active⟩⟩
    · exact consistent.mem_heads other (AList.mem_erase.mp present).2

/-- A parachain has a head after inserting candidates exactly when it had one or a candidate is for
it. -/
theorem mem_insertHeads {heads : AList (fun _ : Id => Bytes)} {candidates : List CandidateReceipt}
    {id : Id} :
    id ∈ insertHeads heads candidates ↔ id ∈ heads ∨ id ∈ candidates.map (·.parachainIndex) := by
  -- the loop inserts the pairs of each candidate's id and head
  have pairs : insertHeads heads candidates =
      (candidates.map fun head => (head.parachainIndex, head.headData.bytes)).foldl
        (fun map entry => map.insert entry.1 entry.2) heads := by
    rw [List.foldl_map]
    rfl
  rw [pairs, Foundations.mem_foldl_insert, List.map_map]
  rfl

/-- Writing the heads of candidates of distinct ids: each of those ids looks up
to its candidate's head, and every other id keeps its head. -/
theorem lookup_insertHeads {heads : AList (fun _ : Id => Bytes)}
    {candidates : List CandidateReceipt} (distinct : (candidates.map (·.parachainIndex)).Nodup) :
    (∀ head ∈ candidates,
        (insertHeads heads candidates).lookup head.parachainIndex = some head.headData.bytes) ∧
      ∀ id ∉ candidates.map (·.parachainIndex), (insertHeads heads candidates).lookup id = heads.lookup id := by
  -- the loop writes one change per candidate, of distinct keys
  let changes : List (Σ _ : Id, Bytes) :=
    candidates.map fun head => ⟨head.parachainIndex, head.headData.bytes⟩
  have keys : changes.keys = candidates.map (·.parachainIndex) := by
    simp [changes, List.keys]
  have nodupKeys : changes.NodupKeys := by
    rw [List.NodupKeys, keys]
    exact distinct
  have written : ∀ id, (insertHeads heads candidates).lookup id =
      (changes.dlookup id).elim (heads.lookup id) some := by
    intro id
    have := Foundations.lookup_foldl_write (Foundations.writesKey_insert fun value : Bytes => value)
      changes nodupKeys heads id
    rw [← this, List.foldl_map]
    rfl
  refine ⟨fun head member => ?_, fun id absent => ?_⟩
  · have found : head.headData.bytes ∈ changes.dlookup head.parachainIndex :=
      List.mem_dlookup nodupKeys (List.mem_map_of_mem member)
    rw [written, Option.mem_def.mp found]
    rfl
  · rw [written, List.dlookup_eq_none.mpr (keys ▸ absent)]
    rfl

/-- `set_heads` keeps the storage consistent, whether it fails or not. -/
theorem Consistent.setHeads {s next : Storage} {setPosition extrinsicIndex : Nat}
    {auxIsEmpty : Bool} {heads : List CandidateReceipt} {result : Except String Unit}
    (consistent : Consistent s)
    (set : s.setHeads setPosition auxIsEmpty extrinsicIndex heads = (result, next)) :
    Consistent next := by
  rcases Storage.setHeads_cases set with ⟨-, rfl⟩ | ⟨-, -, -, -, found, rfl⟩
  · exact consistent
  · -- the heads written are of active parachains
    have sub := findHeads_eq_ok_iff.mp found
    refine ⟨consistent.ascending, consistent.mem_code, fun id present => ?_⟩
    rcases mem_insertHeads.mp present with old | written
    · exact consistent.mem_heads id old
    · exact sub.subset written

/-- Executing the module keeps the storage consistent. -/
theorem Consistent.execute {s next : Storage} (consistent : Consistent s)
    (executed : s.execute = some next) : Consistent next := by
  unfold Storage.execute at executed
  split_ifs at executed
  cases executed
  exact ⟨consistent.ascending, consistent.mem_code, consistent.mem_heads⟩

/-- The storages the module reaches from a genesis: by registering fresh ids,
deregistering ids, calling `set_heads`, and ending blocks. -/
inductive Reachable : Storage → Prop
  | genesis (config : GenesisConfig) : Reachable config.buildStorage
  | registerParachain {s next : Storage} (id : Id) (code initialHeadData : Bytes)
      (reached : Reachable s) (registered : s.registerParachain id code initialHeadData = some next) :
      Reachable next
  | deregisterParachain {s : Storage} (id : Id) (reached : Reachable s) :
      Reachable (s.deregisterParachain id)
  | setHeads {s next : Storage} (setPosition : Nat) (auxIsEmpty : Bool) (extrinsicIndex : Nat)
      (heads : List CandidateReceipt) {result : Except String Unit} (reached : Reachable s)
      (set : s.setHeads setPosition auxIsEmpty extrinsicIndex heads = (result, next)) :
      Reachable next
  | execute {s next : Storage} (reached : Reachable s) (executed : s.execute = some next) :
      Reachable next

/-- Every reachable storage is consistent. -/
theorem Reachable.consistent {s : Storage} (reached : Reachable s) : Consistent s := by
  induction reached with
  | genesis config => exact consistent_buildStorage config
  | registerParachain _ _ _ _ registered ih => exact ih.registerParachain registered
  | deregisterParachain _ _ ih => exact ih.deregisterParachain
  | setHeads _ _ _ _ _ set ih => exact ih.setHeads set
  | execute _ executed ih => exact ih.execute executed

/-! ## The runtime and the evaluator agree -/

/-- On every storage the module reaches, the ids go up strictly with code for
exactly them and heads only for them; an unsigned `set_heads` at its position,
once in the block, accepts exactly the candidates that pass the parachain checks
of `evaluate_initial`, which are those whose ids form an ascending sublist of
the active ones; and a call that is accepted writes the head of exactly those
ids, while one that is rejected leaves the storage as it was. -/
theorem setHeads_agrees_with_evaluateInitial {s : Storage} (reached : Reachable s) :
    Consistent s ∧
      (∀ (heads : List CandidateReceipt) (setPosition : Nat), s.didUpdate = false →
        ((s.setHeads setPosition true setPosition heads).1 = .ok () ↔
            heads.length ≤ s.parachains.length ∧ checkHeads none s.parachains heads = .ok ()) ∧
          (heads.length ≤ s.parachains.length ∧ checkHeads none s.parachains heads = .ok () ↔
            Ascending (heads.map (·.parachainIndex)) ∧
              (heads.map (·.parachainIndex)).Sublist s.parachains)) ∧
      ∀ (heads : List CandidateReceipt) (setPosition : Nat) (auxIsEmpty : Bool)
        (extrinsicIndex : Nat) (result : Except String Unit) (next : Storage),
        s.setHeads setPosition auxIsEmpty extrinsicIndex heads = (result, next) →
          (result = .ok () →
              (∀ head ∈ heads, next.heads.lookup head.parachainIndex = some head.headData.bytes) ∧
                ∀ id ∉ heads.map (·.parachainIndex), next.heads.lookup id = s.heads.lookup id) ∧
            (result ≠ .ok () → next = s) := by
  have consistent := reached.consistent
  refine ⟨consistent, fun heads setPosition fresh => ⟨?_, ?_⟩, ?_⟩
  · rw [Storage.setHeads_eq_ok_iff, ← findHeads_iff_checkHeads consistent.ascending]
    exact ⟨And.right, fun accepted => ⟨fresh, accepted⟩⟩
  · rw [← findHeads_iff_checkHeads consistent.ascending, findHeads_eq_ok_iff]
    exact ⟨fun sub => ⟨consistent.ascending.sublist sub, sub⟩, And.right⟩
  · intro heads setPosition auxIsEmpty extrinsicIndex result next set
    rcases Storage.setHeads_cases set with ⟨rejected, rfl⟩ | ⟨rfl, -, -, -, found, rfl⟩
    · exact ⟨fun accepted => absurd accepted rejected, fun _ => rfl⟩
    · -- the ids written are a sublist of the active ones, so they are distinct
      have distinct := (findHeads_eq_ok_iff.mp found).nodup consistent.nodup
      exact ⟨fun _ => lookup_insertHeads distinct, fun rejected => absurd rfl rejected⟩

/-- The genesis of one parachain. -/
def oneParachain : GenesisConfig := ⟨[(⟨5⟩, [])]⟩

/-- A genesis that names parachain 3 twice, with two codes, and parachain 7. -/
def threeParachains : GenesisConfig := ⟨[(⟨3⟩, [2]), (⟨3⟩, [9]), (⟨7⟩, [1])]⟩

/-- A receipt of a candidate of parachain `id` with head data `head`. -/
def receipt (id : Nat) (head : Bytes) : CandidateReceipt :=
  ⟨⟨BitVec.ofNat 32 id⟩, ⟨Vector.replicate 32 0⟩, ⟨head⟩, [], [], 0⟩

/-- From the genesis of `threeParachains`, which keeps parachains 3 and 7 and
the first code of 3, parachain 5 is registered and 3 deregistered, and one
block sets the heads of 5 and 7; at the next block the candidates of 7 and 5,
out of order, are refused. -/
theorem setHeads_agrees_with_evaluateInitial_run :
    ∃ s : Storage, Reachable s ∧ s.parachains = [⟨5⟩, ⟨7⟩] ∧
      s.heads.lookup ⟨5⟩ = some [51] ∧ s.heads.lookup ⟨7⟩ = some [71] ∧
      (s.setHeads 0 true 0 [receipt 7 [72], receipt 5 [52]]).1 ≠ .ok () ∧
      (Consistent s ∧
        (∀ (heads : List CandidateReceipt) (setPosition : Nat), s.didUpdate = false →
          ((s.setHeads setPosition true setPosition heads).1 = .ok () ↔
              heads.length ≤ s.parachains.length ∧ checkHeads none s.parachains heads = .ok ()) ∧
            (heads.length ≤ s.parachains.length ∧ checkHeads none s.parachains heads = .ok () ↔
              Ascending (heads.map (·.parachainIndex)) ∧
                (heads.map (·.parachainIndex)).Sublist s.parachains)) ∧
        ∀ (heads : List CandidateReceipt) (setPosition : Nat) (auxIsEmpty : Bool)
          (extrinsicIndex : Nat) (result : Except String Unit) (next : Storage),
          s.setHeads setPosition auxIsEmpty extrinsicIndex heads = (result, next) →
            (result = .ok () →
                (∀ head ∈ heads, next.heads.lookup head.parachainIndex = some head.headData.bytes) ∧
                  ∀ id ∉ heads.map (·.parachainIndex), next.heads.lookup id = s.heads.lookup id) ∧
              (result ≠ .ok () → next = s)) := by
  -- the genesis list is sorted already, so its sort leaves it as it is
  have sorted : threeParachains.buildStorage.parachains = [⟨3⟩, ⟨7⟩] := by
    simp only [GenesisConfig.buildStorage, threeParachains]
    rw [List.mergeSort_of_pairwise (by decide)]
    rfl
  have genesis : Reachable { threeParachains.buildStorage with parachains := [⟨3⟩, ⟨7⟩] } :=
    sorted ▸ .genesis threeParachains
  have registered : Reachable _ := .registerParachain ⟨5⟩ [5] [50] genesis rfl
  have updated : Reachable _ :=
    .setHeads 0 true 0 [receipt 5 [51], receipt 7 [71]] (registered.deregisterParachain ⟨3⟩) rfl
  have reached : Reachable _ := .execute updated rfl
  refine ⟨_, reached, rfl, rfl, rfl, ?_, setHeads_agrees_with_evaluateInitial reached⟩
  decide

/-- A parachain of the genesis is active with no head. -/
theorem genesis_parachain_without_head :
    (⟨5⟩ : Id) ∈ oneParachain.buildStorage.parachains ∧
      (⟨5⟩ : Id) ∉ oneParachain.buildStorage.heads := by
  refine ⟨?_, AList.notMem_empty _⟩
  simp [oneParachain, GenesisConfig.buildStorage]

end Parachains
end Polkadot
