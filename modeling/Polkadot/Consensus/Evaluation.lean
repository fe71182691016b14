import Polkadot.Client.BlockBuilder
import Polkadot.Codec.Parachain
import Polkadot.Foundations.Fold

/-!
# Evaluating a proposal

`consensus/src/evaluation.rs`: `evaluate_initial` takes a proposed block as a
polkadot block and checks, in this order:
- its structure (`CheckedBlock::new` of `runtime/src/checked_block.rs`);
- the total size of its extrinsics;
- its parent and its number;
- its timestamp;
- its parachain heads.

The consensus reads little of the runtime's extrinsics: their encoding,
whether they are signed, and the arguments of a `Timestamp::set` and of a
`Parachains::set_heads` call.  `ExtrinsicFormat` is that part of
`polkadot_runtime::UncheckedExtrinsic`, together with the unsigned extrinsics
of the two calls that `inherent_extrinsics` makes.  A block encoded and
decoded again, as a polkadot or as a substrate block, is the block itself, so
the model passes the block.  Timestamps and block numbers are `u64`, and their
additions wrap, as in a release build.

`evaluateInitial_eq_ok_iff` says which proposals pass.  The heads pass exactly
when their parachain ids go up strictly among the active parachains, when
these are sorted (`checkHeads_sound`, `checkHeads_of_ascending`).
-/

namespace Polkadot
namespace Consensus

open Foundations (Bytes iterAny)
open Primitives (H256)
open Primitives.Generic (Header Block)
open Parachain (Id CandidateReceipt)

/-- `Timestamp`, a `u64`. -/
abbrev Timestamp := BitVec 64

/-- `BlockNumber`, a `u64`. -/
abbrev BlockNumber := BitVec 64

/-- `H256::default()`: the zero hash. -/
instance : Inhabited H256 := ⟨⟨Vector.replicate 32 0⟩⟩

/-- `polkadot_primitives::Block`, over the extrinsics of the runtime: headers
with `u64` numbers, `H256` hashes and logs of bytes. -/
abbrev PolkadotBlock (Extrinsic : Type) := Block (Header BlockNumber H256 Bytes) Extrinsic

/-- `MAX_TRANSACTIONS_SIZE`. -/
def maxTransactionsSize : Nat := 4 * 1024 * 1024

/-- `MAX_TIMESTAMP_DRIFT` of `evaluate_initial`. -/
def maxTimestampDrift : Timestamp := 60

/-- `TIMESTAMP_SET_POSITION`. -/
def timestampSetPosition : Nat := 0

/-- `PARACHAINS_SET_POSITION`. -/
def parachainsSetPosition : Nat := 1

/-- What the consensus reads of the runtime's extrinsics: `Slicable::encode`,
`is_signed`, the argument of a `Call::Timestamp(TimestampCall::set(_))` and of
a `Call::Parachains(ParachainsCall::set_heads(_))`, and the extrinsics of
these two calls that `inherent_extrinsics` builds, with the default address
and signature, which leave them unsigned. -/
structure ExtrinsicFormat (Extrinsic : Type) where
  encode : Extrinsic → Bytes
  isSigned : Extrinsic → Bool
  timestampSet : Extrinsic → Option Timestamp
  setHeads : Extrinsic → Option (List CandidateReceipt)
  inherentTimestamp : Timestamp → Extrinsic
  inherentHeads : List CandidateReceipt → Extrinsic
  timestampSet_inherentTimestamp : ∀ now, timestampSet (inherentTimestamp now) = some now
  setHeads_inherentHeads : ∀ heads, setHeads (inherentHeads heads) = some heads
  isSigned_inherentTimestamp : ∀ now, isSigned (inherentTimestamp now) = false
  isSigned_inherentHeads : ∀ heads, isSigned (inherentHeads heads) = false

variable {Extrinsic : Type}

/-- The size of an extrinsic: the length of its encoding. -/
def ExtrinsicFormat.encodedSize (format : ExtrinsicFormat Extrinsic) (xt : Extrinsic) : Nat :=
  (format.encode xt).length

/-! ## Checked blocks -/

/-- Whether the extrinsic at a position of the block is unsigned and makes the
call whose argument `read` takes. -/
def hasCall (format : ExtrinsicFormat Extrinsic) {α : Type} (read : Extrinsic → Option α)
    (block : PolkadotBlock Extrinsic) (position : Nat) : Bool :=
  block.extrinsics[position]?.any fun xt => !format.isSigned xt && (read xt).isSome

/-- `CheckedBlock`: a block whose first extrinsic is an unsigned timestamp and
whose second is an unsigned set of parachain heads. -/
structure CheckedBlock (format : ExtrinsicFormat Extrinsic) where
  inner : PolkadotBlock Extrinsic
  hasTimestamp : hasCall format format.timestampSet inner timestampSetPosition = true
  hasHeads : hasCall format format.setHeads inner parachainsSetPosition = true

namespace CheckedBlock

variable (format : ExtrinsicFormat Extrinsic)

/-- `CheckedBlock::new`: the block back when it is not structurally valid. -/
def new (block : PolkadotBlock Extrinsic) :
    Except (PolkadotBlock Extrinsic) (CheckedBlock format) :=
  if hasTimestamp : hasCall format format.timestampSet block timestampSetPosition = true then
    if hasHeads : hasCall format format.setHeads block parachainsSetPosition = true then
      .ok ⟨block, hasTimestamp, hasHeads⟩
    else .error block
  else .error block

/-- An extrinsic found as a call at a position reads as one. -/
theorem isSome_of_hasCall {α : Type} {read : Extrinsic → Option α}
    {block : PolkadotBlock Extrinsic} {position : Nat}
    (has : hasCall format read block position = true) :
    (block.extrinsics[position]?.bind read).isSome := by
  unfold hasCall at has
  cases found : block.extrinsics[position]? with
  | none => simp [found] at has
  | some xt =>
      simp only [found, Option.any_some, Bool.and_eq_true] at has
      simpa using has.2

variable {format}

/-- `CheckedBlock::timestamp`: the argument of the first extrinsic, which the
check makes sure of, so the source's panic cannot happen. -/
def timestamp (checked : CheckedBlock format) : Timestamp :=
  (checked.inner.extrinsics[timestampSetPosition]?.bind format.timestampSet).get
    (isSome_of_hasCall format checked.hasTimestamp)

/-- `CheckedBlock::parachain_heads`: the argument of the second extrinsic. -/
def parachainHeads (checked : CheckedBlock format) : List CandidateReceipt :=
  (checked.inner.extrinsics[parachainsSetPosition]?.bind format.setHeads).get
    (isSome_of_hasCall format checked.hasHeads)

/-- A block that starts with the two inherent extrinsics passes the check, and
its timestamp and heads are theirs. -/
theorem new_of_inherents {block : PolkadotBlock Extrinsic} {now : Timestamp}
    {heads : List CandidateReceipt} {rest : List Extrinsic}
    (starts : block.extrinsics =
      format.inherentTimestamp now :: format.inherentHeads heads :: rest) :
    ∃ checked, new format block = .ok checked ∧ checked.inner = block ∧
      checked.timestamp = now ∧ checked.parachainHeads = heads := by
  have hasTimestamp : hasCall format format.timestampSet block timestampSetPosition = true := by
    simp [hasCall, starts, timestampSetPosition, format.isSigned_inherentTimestamp,
      format.timestampSet_inherentTimestamp]
  have hasHeads : hasCall format format.setHeads block parachainsSetPosition = true := by
    simp [hasCall, starts, parachainsSetPosition, format.isSigned_inherentHeads,
      format.setHeads_inherentHeads]
  refine ⟨⟨block, hasTimestamp, hasHeads⟩, ?_, rfl, ?_, ?_⟩
  · simp [new, hasTimestamp, hasHeads]
  · simp [CheckedBlock.timestamp, starts, timestampSetPosition,
      format.timestampSet_inherentTimestamp]
  · simp [parachainHeads, starts, parachainsSetPosition, format.setHeads_inherentHeads]

end CheckedBlock

/-! ## The evaluation -/

/-- The errors of `evaluate_initial`, with the data they carry. -/
inductive EvaluationError where
  | proposalNotForPolkadot
  | timestampInFuture
  | tooManyCandidates (expected got : Nat)
  | parachainOutOfOrder
  | unknownParachain (id : Id)
  | wrongParentHash (expected got : H256)
  | wrongNumber (expected got : BlockNumber)
  | proposalTooLarge (size : Nat)
  deriving DecidableEq

/-- The loop over the proposed heads in `evaluate_initial`: a head must come
after the last one, and be found in what is left of the active parachains,
which `iter.any` consumes up to it. -/
def checkHeads (lastId : Option Id) (iter : List Id) :
    List CandidateReceipt → Except EvaluationError Unit
  | [] => .ok ()
  | head :: heads =>
      if lastId.any fun x => decide (head.parachainIndex.value ≤ x.value) then
        .error .parachainOutOfOrder
      else
        let searched := iterAny (fun x => decide (x = head.parachainIndex)) iter
        if searched.1 then checkHeads (some head.parachainIndex) searched.2 heads
        else .error (.unknownParachain head.parachainIndex)

/-- `evaluate_initial`, on a proposal that is already a polkadot block. -/
def evaluateInitial (format : ExtrinsicFormat Extrinsic) (proposal : PolkadotBlock Extrinsic)
    (now : Timestamp) (parentHash : H256) (parentNumber : BlockNumber)
    (activeParachains : List Id) : Except EvaluationError (CheckedBlock format) :=
  match CheckedBlock.new format proposal with
  | .error _ => .error .proposalNotForPolkadot
  | .ok proposal =>
      let transactionsSize :=
        proposal.inner.extrinsics.foldl (fun a tx => a + (format.encode tx).length) 0
      if transactionsSize > maxTransactionsSize then .error (.proposalTooLarge transactionsSize)
      else if proposal.inner.header.parentHash ≠ parentHash then
        .error (.wrongParentHash parentHash proposal.inner.header.parentHash)
      else if proposal.inner.header.number ≠ parentNumber + 1 then
        .error (.wrongNumber (parentNumber + 1) proposal.inner.header.number)
      else if proposal.timestamp > now + maxTimestampDrift then .error .timestampInFuture
      else if proposal.parachainHeads.length > activeParachains.length then
        .error (.tooManyCandidates activeParachains.length proposal.parachainHeads.length)
      else (checkHeads none activeParachains proposal.parachainHeads).map fun () => proposal

/-- The size `evaluate_initial` measures: the sum of the sizes of the
extrinsics. -/
theorem transactionsSize_eq (format : ExtrinsicFormat Extrinsic) (xts : List Extrinsic) :
    xts.foldl (fun a tx => a + (format.encode tx).length) 0 = (xts.map format.encodedSize).sum := by
  rw [Foundations.foldl_add_eq_sum (fun tx => (format.encode tx).length), Nat.zero_add]
  rfl

/-- The spec of `evaluate_initial`: a proposal passes when it is structurally
valid and each later check holds of it. -/
theorem evaluateInitial_eq_ok_iff {format : ExtrinsicFormat Extrinsic}
    {proposal : PolkadotBlock Extrinsic} {now : Timestamp} {parentHash : H256}
    {parentNumber : BlockNumber} {activeParachains : List Id} {checked : CheckedBlock format} :
    evaluateInitial format proposal now parentHash parentNumber activeParachains = .ok checked ↔
      CheckedBlock.new format proposal = .ok checked ∧
        (proposal.extrinsics.map format.encodedSize).sum ≤ maxTransactionsSize ∧
        proposal.header.parentHash = parentHash ∧ proposal.header.number = parentNumber + 1 ∧
        ¬checked.timestamp > now + maxTimestampDrift ∧
        checked.parachainHeads.length ≤ activeParachains.length ∧
        checkHeads none activeParachains checked.parachainHeads = .ok () := by
  unfold evaluateInitial
  cases structural : CheckedBlock.new format proposal with
  | error _ => simp
  | ok valid =>
      -- the checked block is the proposal itself
      have inner : valid.inner = proposal := by
        unfold CheckedBlock.new at structural
        split_ifs at structural
        cases structural
        rfl
      simp only [transactionsSize_eq, inner, Except.ok.injEq]
      split_ifs with large parent number future many
      · simp only [false_iff]
        rintro ⟨-, fits, -⟩
        omega
      · simp only [false_iff]
        rintro ⟨-, -, sameParent, -⟩
        exact parent sameParent
      · simp only [false_iff]
        rintro ⟨-, -, -, sameNumber, -⟩
        exact number sameNumber
      · simp only [false_iff]
        rintro ⟨rfl, -, -, -, notFuture, -⟩
        exact notFuture future
      · simp only [false_iff]
        rintro ⟨rfl, -, -, -, -, fewer, -⟩
        omega
      · -- every check before the heads passed
        cases heads : checkHeads none activeParachains valid.parachainHeads with
        | error e =>
            simp only [Except.map, reduceCtorEq, false_iff]
            rintro ⟨rfl, -, -, -, -, -, accepted⟩
            rw [heads] at accepted
            cases accepted
        | ok =>
            simp only [Except.map, Except.ok.injEq]
            constructor
            · rintro rfl
              exact ⟨rfl, by omega, not_not.mp parent, not_not.mp number, future, by omega, heads⟩
            · rintro ⟨rfl, -⟩
              rfl

/-- A proposal whose extrinsics are over the limit fails, whatever else holds
of it. -/
theorem evaluateInitial_of_oversized {format : ExtrinsicFormat Extrinsic}
    {proposal : PolkadotBlock Extrinsic} {now : Timestamp} {parentHash : H256}
    {parentNumber : BlockNumber} {activeParachains : List Id} {checked : CheckedBlock format}
    (structural : CheckedBlock.new format proposal = .ok checked)
    (oversized : maxTransactionsSize < (proposal.extrinsics.map format.encodedSize).sum) :
    evaluateInitial format proposal now parentHash parentNumber activeParachains =
      .error (.proposalTooLarge (proposal.extrinsics.map format.encodedSize).sum) := by
  have inner : checked.inner = proposal := by
    unfold CheckedBlock.new at structural
    split_ifs at structural
    cases structural
    rfl
  simp only [evaluateInitial, structural, transactionsSize_eq, inner, gt_iff_lt, if_pos oversized]

/-! ## The heads -/

/-- Parachain ids that go up strictly. -/
def Ascending (ids : List Id) : Prop := ids.Pairwise fun a b => a.value.toNat < b.value.toNat

/-- What the heads loop accepts goes up strictly after the last id, among what
is left of the iterator. -/
theorem checkHeads_sound {lastId : Option Id} {iter : List Id} {heads : List CandidateReceipt}
    (accepted : checkHeads lastId iter heads = .ok ()) :
    Ascending (lastId.toList ++ heads.map (·.parachainIndex)) ∧
      ∀ head ∈ heads, head.parachainIndex ∈ iter := by
  induction heads generalizing lastId iter with
  | nil =>
      refine ⟨?_, by simp⟩
      cases lastId <;> simp [Ascending]
  | cons head heads ih =>
      unfold checkHeads at accepted
      by_cases outOfOrder : lastId.any fun x => decide (head.parachainIndex.value ≤ x.value)
      · rw [if_pos outOfOrder] at accepted
        cases accepted
      rw [if_neg outOfOrder] at accepted
      dsimp only at accepted
      by_cases found : (iterAny (fun x => decide (x = head.parachainIndex)) iter).1
      · rw [if_pos found] at accepted
        obtain ⟨skipped, item, split, hit, -⟩ :=
          Foundations.iterAny_split (Prod.ext found rfl : iterAny _ iter = (true, _))
        obtain ⟨ascending, inRest⟩ := ih accepted
        have itemIsHead : item = head.parachainIndex := by simpa using hit
        have below : ∀ x ∈ lastId, x.value.toNat < head.parachainIndex.value.toNat := by
          intro x member
          have notAbove : ¬head.parachainIndex.value ≤ x.value := by
            simpa [Option.mem_def.mp member] using outOfOrder
          rw [BitVec.le_def] at notAbove
          omega
        refine ⟨?_, ?_⟩
        · -- the new head is above the last id, and the rest is above the new head
          have tail : Ascending (head.parachainIndex :: heads.map (·.parachainIndex)) := by
            simpa using ascending
          cases lastId with
          | none => simpa using tail
          | some x =>
              refine List.pairwise_cons.mpr ⟨?_, tail⟩
              intro y member
              rcases List.mem_cons.mp member with rfl | later
              · exact below x rfl
              · exact (below x rfl).trans (List.rel_of_pairwise_cons tail later)
        · intro other member
          rcases List.mem_cons.mp member with rfl | later
          · rw [split, ← itemIsHead]
            simp
          · rw [split]
            exact List.mem_append_right _ (List.mem_cons_of_mem _ (inRest other later))
      · rw [if_neg found] at accepted
        cases accepted

/-- Heads that go up strictly after the last id, all among what is left of a
strictly ascending iterator, pass the heads loop. -/
theorem checkHeads_of_ascending {lastId : Option Id} {iter : List Id}
    {heads : List CandidateReceipt} (sorted : Ascending iter)
    (ascending : Ascending (lastId.toList ++ heads.map (·.parachainIndex)))
    (active : ∀ head ∈ heads, head.parachainIndex ∈ iter) :
    checkHeads lastId iter heads = .ok () := by
  induction heads generalizing lastId iter with
  | nil => rfl
  | cons head heads ih =>
      have inOrder : ¬(lastId.any fun x => decide (head.parachainIndex.value ≤ x.value)) = true := by
        cases lastId with
        | none => simp
        | some x =>
            have below : x.value.toNat < head.parachainIndex.value.toNat :=
              List.rel_of_pairwise_cons ascending (by simp)
            simp only [Option.any_some, decide_eq_true_eq, BitVec.le_def]
            omega
      have present : head.parachainIndex ∈ iter := active head List.mem_cons_self
      have found : (iterAny (fun x => decide (x = head.parachainIndex)) iter).1 = true := by
        simpa using present
      obtain ⟨skipped, item, split, hit, missed⟩ :=
        Foundations.iterAny_split (Prod.ext found rfl : iterAny _ iter = (true, _))
      have itemIsHead : item = head.parachainIndex := by simpa using hit
      rw [split, itemIsHead] at sorted
      have tail : Ascending (head.parachainIndex :: heads.map (·.parachainIndex)) := by
        cases lastId with
        | none => simpa using ascending
        | some x => exact (List.pairwise_cons.mp ascending).2
      unfold checkHeads
      rw [if_neg inOrder]
      dsimp only
      rw [if_pos found]
      refine ih (List.Pairwise.sublist (List.sublist_append_right _ _) sorted).of_cons
        (by simpa using tail) fun other member => ?_
      -- a later head is above this one, so the iterator has not passed it
      have above : head.parachainIndex.value.toNat < other.parachainIndex.value.toNat :=
        List.rel_of_pairwise_cons tail (List.mem_map_of_mem member)
      have inIter := active other (List.mem_cons_of_mem _ member)
      rw [split, itemIsHead] at inIter
      rcases List.mem_append.mp inIter with early | late
      · have lower := (List.pairwise_append.mp sorted).2.2 other.parachainIndex early
          head.parachainIndex List.mem_cons_self
        omega
      · rcases List.mem_cons.mp late with same | rest
        · rw [same] at above
          omega
        · exact rest

end Consensus
end Polkadot
