import Polkadot.Consensus.Evaluation

/-!
# Proposing a block

`CreateProposal::propose_with` in `consensus/src/lib.rs` has the client build
a block on the parent (`build_block` of `api/src/full.rs`): the runtime's
`inherent_extrinsics`, a timestamp and the proposed parachain heads, are
pushed first.  Then the pending transactions of the pool are pushed while
their sizes add up to less than `MAX_TRANSACTIONS_SIZE`.  The block is baked,
and `propose_with` asserts that its own evaluator accepts it.

The two budgets differ.  The loop counts the pool's transactions only, and
stops short of the limit (`PendingRun.below`).  `evaluate_initial` counts
every extrinsic of the block, the inherent ones too, and rejects a total over
the limit.  On a run that reaches the assertion, with a runtime that keeps the
parent and number of the block and heads that go up among the active
parachains, the assertion fails exactly when the inherent extrinsics and the
pushed transactions together exceed the limit
(`proposeWith_panics_iff_oversized`).
-/

namespace Polkadot
namespace Consensus

open Foundations (Bytes)
open Primitives (H256)
open Primitives.Generic (Header Block)
open Parachain (Id CandidateReceipt)
open Client (CallAtState BlockBuilder BlockFormat)

variable {Extrinsic ε T : Type}

/-- `polkadot_runtime::inherent_extrinsics`: the timestamp, then the parachain
heads. -/
def inherentExtrinsics (format : ExtrinsicFormat Extrinsic) (timestamp : Timestamp)
    (parachainHeads : List CandidateReceipt) : List Extrinsic :=
  [format.inherentTimestamp timestamp, format.inherentHeads parachainHeads]

/-- The block builder of the full client, on polkadot headers. -/
abbrev Builder (Extrinsic : Type) := BlockBuilder (Header BlockNumber H256 Bytes) Extrinsic

/-- `VerifiedTransaction` as the proposer reads it: the extrinsic, its hash,
and the size of its encoding, which the pool's verifier records.
`primitive_extrinsic` decodes the encoding of the extrinsic, which gives the
extrinsic back. -/
structure VerifiedTransaction (format : ExtrinsicFormat Extrinsic) where
  original : Extrinsic
  hash : H256
  encodedSize : Nat
  encodedSize_eq : encodedSize = format.encodedSize original

/-- The state of the loop over the pending transactions in `propose_with`: the
builder, the size of what it pushed, and the hashes of the transactions to
remove from the pool. -/
structure PendingLoop (Extrinsic : Type) where
  builder : Builder Extrinsic
  pendingSize : Nat
  unqueueInvalid : List H256

/-- What `propose_with` reads of its `CreateProposal`: the parent's hash and
number, and what the client answers for the parent: its number and hash as
the builder looks them up, and its active parachains. -/
structure CreateProposal (ε : Type) where
  parentHash : H256
  parentNumber : BlockNumber
  parentFound : Option (BlockNumber × H256)
  activeParachains : Except (Client.Error ε) (List Id)

section Propose

variable (executor : CallAtState ε T) (blockFormat : BlockFormat (Header BlockNumber H256 Bytes) Extrinsic)

/-- The pushes of `build_block`: each extrinsic in turn, where the first that
fails ends the build with its error. -/
def pushInherents : Builder Extrinsic → List Extrinsic →
    Option (Except (Client.Error ε) (Builder Extrinsic))
  | builder, [] => some (.ok builder)
  | builder, inherent :: rest =>
      (builder.push executor blockFormat inherent).bind fun
        | (.ok (), builder) => pushInherents builder rest
        | (.error e, _) => some (.error e)

/-- `build_block` of the full client: a builder on the parent, with the
inherent extrinsics pushed onto it. -/
def buildBlock (format : ExtrinsicFormat Extrinsic) (parent : Option (BlockNumber × H256))
    (timestamp : Timestamp) (newHeads : List CandidateReceipt) :
    Option (Except (Client.Error ε) (Builder Extrinsic)) :=
  (BlockBuilder.atBlock executor blockFormat parent).bind fun
    | .ok builder =>
        pushInherents executor blockFormat builder (inherentExtrinsics format timestamp newHeads)
    | .error e => some (.error e)

/-- The loop over the pending transactions in `propose_with`: a transaction
larger than the limit is skipped and culled, the loop stops at the first one
that would take the pushed size to the limit, and one that fails to apply is
culled. -/
def pushPending {format : ExtrinsicFormat Extrinsic} :
    PendingLoop Extrinsic → List (VerifiedTransaction format) → Option (PendingLoop Extrinsic)
  | loop, [] => some loop
  | loop, pending :: rest =>
      if pending.encodedSize > maxTransactionsSize then
        pushPending { loop with unqueueInvalid := loop.unqueueInvalid ++ [pending.hash] } rest
      else if loop.pendingSize + pending.encodedSize ≥ maxTransactionsSize then some loop
      else
        (loop.builder.push executor blockFormat pending.original).bind fun
          | (.ok (), builder) =>
              pushPending { loop with builder, pendingSize := loop.pendingSize + pending.encodedSize }
                rest
          | (.error _, builder) =>
              pushPending { loop with builder, unqueueInvalid := loop.unqueueInvalid ++ [pending.hash] }
                rest

/-- `CreateProposal::propose_with`, at the time it reads, over the
transactions the pool gives as pending (none when culling fails) and the
candidates: the block or an error, with the hashes it removes from the pool;
`none` when it panics, at its closing `assert!` among others. -/
def proposeWith (format : ExtrinsicFormat Extrinsic) (proposal : CreateProposal ε)
    (timestamp : Timestamp) (pending : List (VerifiedTransaction format))
    (candidates : List CandidateReceipt) :
    Option (Except (Client.Error ε) (PolkadotBlock Extrinsic) × List H256) :=
  (buildBlock executor blockFormat format proposal.parentFound timestamp candidates).bind fun
    | .error e => some (.error e, [])
    | .ok builder =>
        (pushPending executor blockFormat ⟨builder, 0, []⟩ pending).bind fun loop =>
          (loop.builder.bake executor blockFormat).bind fun
            | .error e => some (.error e, loop.unqueueInvalid)
            | .ok polkadotBlock =>
                match proposal.activeParachains with
                | .error e => some (.error e, loop.unqueueInvalid)
                | .ok activeParachains =>
                    if (evaluateInitial format polkadotBlock timestamp proposal.parentHash
                        proposal.parentNumber activeParachains).isOk then
                      some (.ok polkadotBlock, loop.unqueueInvalid)
                    else none

/-! ## What a build pushes -/

/-- Pushing the inherents appends them to the builder's extrinsics. -/
theorem pushInherents_extrinsics {builder next : Builder Extrinsic} {inherents : List Extrinsic}
    (pushed : pushInherents executor blockFormat builder inherents = some (.ok next)) :
    next.extrinsics = builder.extrinsics ++ inherents := by
  induction inherents generalizing builder with
  | nil =>
      cases pushed
      simp
  | cons inherent rest ih =>
      obtain ⟨⟨result, after⟩, step, continued⟩ := Option.bind_eq_some_iff.mp pushed
      obtain ⟨-, appended | failed⟩ := BlockBuilder.push_cases executor blockFormat step
      · obtain ⟨rfl, grown⟩ := appended
        rw [ih continued, grown, List.append_assoc, List.singleton_append]
      · obtain ⟨e, rfl, -⟩ := failed
        cases continued

/-- A build that succeeds holds the inherent extrinsics and nothing else. -/
theorem buildBlock_extrinsics {format : ExtrinsicFormat Extrinsic}
    {parent : Option (BlockNumber × H256)} {timestamp : Timestamp}
    {newHeads : List CandidateReceipt} {builder : Builder Extrinsic}
    (built : buildBlock executor blockFormat format parent timestamp newHeads = some (.ok builder)) :
    builder.extrinsics = inherentExtrinsics format timestamp newHeads := by
  obtain ⟨started, atBlocked, pushed⟩ := Option.bind_eq_some_iff.mp built
  cases started with
  | ok start =>
      rw [pushInherents_extrinsics executor blockFormat pushed,
        BlockBuilder.atBlock_extrinsics executor blockFormat atBlocked, List.nil_append]
  | error e => cases pushed

/-! ## The loop over the pending transactions -/

/-- What the loop has done since it started from a builder: it pushed `taken`
after the builder's extrinsics, its count is exactly their sizes, and the
count stays below the limit. -/
structure PendingRun (format : ExtrinsicFormat Extrinsic) (start : Builder Extrinsic)
    (loop : PendingLoop Extrinsic) : Prop where
  pushed : ∃ taken, loop.builder.extrinsics = start.extrinsics ++ taken ∧
    loop.pendingSize = (taken.map format.encodedSize).sum
  below : loop.pendingSize < maxTransactionsSize

/-- A builder at its start has pushed nothing of the pending queue. -/
theorem pendingRun_start (format : ExtrinsicFormat Extrinsic) (start : Builder Extrinsic) :
    PendingRun format start ⟨start, 0, []⟩ where
  pushed := ⟨[], by simp, rfl⟩
  below := show 0 < maxTransactionsSize by decide

/-- Culling a transaction keeps what the loop did. -/
theorem PendingRun.cull {format : ExtrinsicFormat Extrinsic} {start : Builder Extrinsic}
    {loop : PendingLoop Extrinsic} (run : PendingRun format start loop) (hash : H256) :
    PendingRun format start { loop with unqueueInvalid := loop.unqueueInvalid ++ [hash] } :=
  ⟨run.pushed, run.below⟩

/-- A push that applies adds the transaction and its size. -/
theorem PendingRun.push_ok {format : ExtrinsicFormat Extrinsic} {start : Builder Extrinsic}
    {loop : PendingLoop Extrinsic} (run : PendingRun format start loop)
    {pending : VerifiedTransaction format}
    (fits : loop.pendingSize + pending.encodedSize < maxTransactionsSize) {builder : Builder Extrinsic}
    (pushed : loop.builder.push executor blockFormat pending.original = some (.ok (), builder)) :
    PendingRun format start
      { loop with builder, pendingSize := loop.pendingSize + pending.encodedSize } := by
  obtain ⟨taken, extended, counted⟩ := run.pushed
  obtain ⟨-, ⟨-, grown⟩ | ⟨e, wrong, -⟩⟩ := BlockBuilder.push_cases executor blockFormat pushed
  · refine ⟨⟨taken ++ [pending.original], ?_, ?_⟩, fits⟩
    · rw [grown, extended, List.append_assoc]
    · simp [counted, pending.encodedSize_eq]
  · cases wrong

/-- A push that fails keeps the extrinsics and the count. -/
theorem PendingRun.push_error {format : ExtrinsicFormat Extrinsic} {start : Builder Extrinsic}
    {loop : PendingLoop Extrinsic} (run : PendingRun format start loop) {xt : Extrinsic}
    {e : Client.Error ε} {builder : Builder Extrinsic}
    (pushed : loop.builder.push executor blockFormat xt = some (.error e, builder))
    (hashes : List H256) :
    PendingRun format start { loop with builder, unqueueInvalid := hashes } := by
  obtain ⟨taken, extended, counted⟩ := run.pushed
  obtain ⟨-, ⟨wrong, -⟩ | ⟨-, -, kept⟩⟩ := BlockBuilder.push_cases executor blockFormat pushed
  · cases wrong
  · exact ⟨⟨taken, by rw [kept, extended], counted⟩, run.below⟩

/-- The whole loop keeps what it did since it started. -/
theorem PendingRun.pushPending {format : ExtrinsicFormat Extrinsic} {start : Builder Extrinsic}
    {loop final : PendingLoop Extrinsic} {pending : List (VerifiedTransaction format)}
    (run : PendingRun format start loop)
    (ran : Consensus.pushPending executor blockFormat loop pending = some final) :
    PendingRun format start final := by
  induction pending generalizing loop with
  | nil =>
      cases ran
      exact run
  | cons first rest ih =>
      unfold Consensus.pushPending at ran
      by_cases oversized : first.encodedSize > maxTransactionsSize
      · rw [if_pos oversized] at ran
        exact ih (run.cull first.hash) ran
      rw [if_neg oversized] at ran
      by_cases full : loop.pendingSize + first.encodedSize ≥ maxTransactionsSize
      · rw [if_pos full] at ran
        cases ran
        exact run
      rw [if_neg full] at ran
      have fits : loop.pendingSize + first.encodedSize < maxTransactionsSize := by omega
      obtain ⟨⟨result, builder⟩, pushed, continued⟩ := Option.bind_eq_some_iff.mp ran
      cases result with
      | ok => exact ih (run.push_ok executor blockFormat fits pushed) continued
      | error e =>
          exact ih (run.push_error executor blockFormat pushed (loop.unqueueInvalid ++ [first.hash]))
            continued

/-! ## The assertion -/

/-- The block a proposal bakes holds the inherent extrinsics, then the
transactions the loop pushed. -/
theorem baked_extrinsics {format : ExtrinsicFormat Extrinsic} {parent : Option (BlockNumber × H256)}
    {timestamp : Timestamp} {candidates : List CandidateReceipt} {builder : Builder Extrinsic}
    {pending : List (VerifiedTransaction format)} {loop : PendingLoop Extrinsic}
    {block : PolkadotBlock Extrinsic}
    (built : buildBlock executor blockFormat format parent timestamp candidates = some (.ok builder))
    (pushed : Consensus.pushPending executor blockFormat ⟨builder, 0, []⟩ pending = some loop)
    (baked : loop.builder.bake executor blockFormat = some (.ok block)) :
    ∃ taken, block.extrinsics = inherentExtrinsics format timestamp candidates ++ taken ∧
      (block.extrinsics.map format.encodedSize).sum =
        ((inherentExtrinsics format timestamp candidates).map format.encodedSize).sum +
          loop.pendingSize := by
  obtain ⟨taken, extended, counted⟩ := ((pendingRun_start format builder).pushPending executor
    blockFormat pushed).pushed
  have extrinsics : block.extrinsics = inherentExtrinsics format timestamp candidates ++ taken := by
    rw [BlockBuilder.bake_extrinsics executor blockFormat baked, extended,
      buildBlock_extrinsics executor blockFormat built]
  refine ⟨taken, extrinsics, ?_⟩
  rw [extrinsics, List.map_append, List.sum_append, counted]

/-- Heads that go up strictly among the active parachains are no more than the
active parachains. -/
theorem length_le_of_ascending {candidates : List CandidateReceipt} {activeParachains : List Id}
    (ascending : Ascending (candidates.map (·.parachainIndex)))
    (active : ∀ candidate ∈ candidates, candidate.parachainIndex ∈ activeParachains) :
    candidates.length ≤ activeParachains.length := by
  have distinct : (candidates.map (·.parachainIndex)).Nodup :=
    ascending.imp fun {a b} below same => by rw [same] at below; omega
  have contained : candidates.map (·.parachainIndex) ⊆ activeParachains := by
    intro id member
    obtain ⟨candidate, present, rfl⟩ := List.mem_map.mp member
    exact active candidate present
  simpa using (List.subperm_of_subset distinct contained).length_le

/-- On every run of `propose_with` that reaches its assertion, with a runtime
that finalises the block on the proposal's parent at the next number, with the
active parachains sorted, candidates that go up strictly among them and a
timestamp far enough below `u64::MAX`: the assertion fails exactly when the
inherent extrinsics and the transactions the loop pushed are together over
`MAX_TRANSACTIONS_SIZE`. -/
theorem proposeWith_panics_iff_oversized {format : ExtrinsicFormat Extrinsic}
    {proposal : CreateProposal ε} {timestamp : Timestamp} {pending : List (VerifiedTransaction format)}
    {candidates : List CandidateReceipt} {builder : Builder Extrinsic} {loop : PendingLoop Extrinsic}
    {block : PolkadotBlock Extrinsic} {activeParachains : List Id}
    (built : buildBlock executor blockFormat format proposal.parentFound timestamp candidates =
      some (.ok builder))
    (pushed : Consensus.pushPending executor blockFormat ⟨builder, 0, []⟩ pending = some loop)
    (baked : loop.builder.bake executor blockFormat = some (.ok block))
    (known : proposal.activeParachains = .ok activeParachains)
    (sameParent : block.header.parentHash = proposal.parentHash)
    (nextNumber : block.header.number = proposal.parentNumber + 1)
    (noWrap : timestamp.toNat + maxTimestampDrift.toNat < 2 ^ 64)
    (sorted : Ascending activeParachains)
    (ascending : Ascending (candidates.map (·.parachainIndex)))
    (active : ∀ candidate ∈ candidates, candidate.parachainIndex ∈ activeParachains) :
    proposeWith executor blockFormat format proposal timestamp pending candidates = none ↔
      maxTransactionsSize <
        ((inherentExtrinsics format timestamp candidates).map format.encodedSize).sum +
          loop.pendingSize := by
  obtain ⟨taken, extrinsics, total⟩ := baked_extrinsics executor blockFormat built pushed baked
  obtain ⟨checked, structural, -, stamped, heads⟩ :=
    CheckedBlock.new_of_inherents extrinsics
  have reduced : proposeWith executor blockFormat format proposal timestamp pending candidates =
      if (evaluateInitial format block timestamp proposal.parentHash proposal.parentNumber
          activeParachains).isOk then some (.ok block, loop.unqueueInvalid) else none := by
    simp only [proposeWith, built, pushed, baked, known, Option.bind_some]
  rw [reduced, ← total]
  by_cases oversized : maxTransactionsSize < (block.extrinsics.map format.encodedSize).sum
  · simp [evaluateInitial_of_oversized structural oversized, Except.isOk, Except.toBool, oversized]
  · -- every other check of the evaluator passes on such a run
    have notFuture : ¬checked.timestamp > timestamp + maxTimestampDrift := by
      rw [stamped, gt_iff_lt, BitVec.lt_def, BitVec.toNat_add, Nat.mod_eq_of_lt noWrap]
      omega
    have accepted := evaluateInitial_eq_ok_iff.mpr ⟨structural, by omega, sameParent, nextNumber,
      notFuture, heads ▸ length_le_of_ascending ascending active,
      heads ▸ checkHeads_of_ascending sorted (by simpa using ascending) active⟩
    simp [accepted, Except.isOk, Except.toBool, oversized]

end Propose

/-! ## A pool that fills the block -/

/-- The extrinsics of a test runtime: the two inherent calls, and signed
transactions of which only the size of the encoding matters. -/
inductive TestExtrinsic where
  | timestampSet (now : Timestamp)
  | setHeads (heads : List CandidateReceipt)
  | signed (size : Nat)

/-- The fields of an unsigned extrinsic around its call: the default address
`Address::Id` of the zero account, index 0, and the default signature. -/
def unsignedBody (call : Bytes) : Bytes :=
  (255 :: List.replicate 32 0) ++ List.replicate 4 0 ++ call ++ List.replicate 64 0

/-- The encoding of the test extrinsics: an unsigned extrinsic is written
behind the length of its body, as `UncheckedExtrinsic::encode` writes it, so
that a timestamp takes the 115 bytes of the runtime's `serialize_unchecked`
test and an empty set of heads 111 bytes. -/
def TestExtrinsic.encode : TestExtrinsic → Bytes
  | timestampSet now =>
      let body := unsignedBody ([3, 0] ++ Foundations.encodeLE 8 now.toNat)
      Foundations.encodeLE 4 body.length ++ body
  | setHeads heads =>
      let body := unsignedBody
        ([8, 0] ++ ((Codec.Slicable.vec CandidateReceipt.slicable).encode heads).getD [])
      Foundations.encodeLE 4 body.length ++ body
  | signed size => List.replicate size 0

/-- The test runtime's extrinsics as the consensus reads them. -/
def testFormat : ExtrinsicFormat TestExtrinsic where
  encode := TestExtrinsic.encode
  isSigned
    | .signed _ => true
    | _ => false
  timestampSet
    | .timestampSet now => some now
    | _ => none
  setHeads
    | .setHeads heads => some heads
    | _ => none
  inherentTimestamp := .timestampSet
  inherentHeads := .setHeads
  timestampSet_inherentTimestamp _ := rfl
  setHeads_inherentHeads _ := rfl
  isSigned_inherentTimestamp _ := rfl
  isSigned_inherentHeads _ := rfl

/-- A runtime under which every call succeeds and writes nothing. -/
def acceptingExecutor : CallAtState Unit Unit := fun changes _ _ => some (.ok ([], ()), changes)

/-- The header block 42 gets, on the zero hash. -/
def nextHeader : Header BlockNumber H256 Bytes :=
  { parentHash := default, number := 42, stateRoot := default, extrinsicsRoot := default,
    digest := ⟨[]⟩ }

/-- The codecs of the test runtime, which finalises the block as block 42. -/
def testBlockFormat : BlockFormat (Header BlockNumber H256 Bytes) TestExtrinsic where
  encodeHeader _ := []
  decodeHeader _ := some nextHeader
  encodeExtrinsic := TestExtrinsic.encode

/-- A proposal on block 41, the zero hash, with no active parachain. -/
def relayProposal : CreateProposal Unit where
  parentHash := default
  parentNumber := 41
  parentFound := some (41, default)
  activeParachains := .ok []

/-- A pending transaction one byte short of `MAX_TRANSACTIONS_SIZE`. -/
def fullTransaction : VerifiedTransaction testFormat where
  original := .signed 4194303
  hash := default
  encodedSize := 4194303
  encodedSize_eq := List.length_replicate.symm

/-- The pool's transaction fits the loop's budget, but with the 226 bytes of
the inherent extrinsics the block is over the limit, and `propose_with`
panics. -/
theorem proposeWith_panics_on_full_pool :
    proposeWith acceptingExecutor testBlockFormat testFormat relayProposal 1535000000
      [fullTransaction] [] = none :=
  (proposeWith_panics_iff_oversized acceptingExecutor testBlockFormat rfl rfl rfl rfl rfl rfl
    (by decide) (by simp [Ascending]) (by simp [Ascending]) (by simp)).mpr (by decide)

end Consensus
end Polkadot
