import Polkadot.Foundations.Unsigned

/-!
# Readiness of transactions by the sender's index

`polkadot/transaction-pool/src/lib.rs`: the `Scoring` of verified transactions
and the `Ready` evaluator that the pool asks, one transaction after another,
whether a transaction is stale, ready or future.  `Ready` keeps the next index
of each sender, starting from the index the chain holds at its block, and
advances it after every call, whatever the verdict.

The verdict for the `k`-th transaction of a sender is its index compared with
the chain's index advanced `k` times (`readinessOf_of_sender`), whatever the
calls for other senders in between (`readinessOf_filter_sender`).  A stale or a
repeated transaction therefore moves the expected index on as a ready one does.
-/

namespace Polkadot
namespace TransactionPool

open Foundations

/-- `Index`: the `u32` index of an account's transactions. -/
abbrev Index := BitVec 32

/-- `Readiness` of the pool. -/
inductive Readiness
  | stale
  | ready
  | future
  deriving DecidableEq, Repr

/-- What the pool reads of a `VerifiedTransaction`: its sender, which is there
exactly when the transaction is fully verified (`sender` is `inner` mapped to
its signer), and the index of its extrinsic. -/
structure VerifiedTransaction (AccountId : Type) where
  sender : Option AccountId
  index : Index
  deriving DecidableEq

variable {AccountId : Type}

/-- `VerifiedTransaction::is_fully_verified`. -/
def VerifiedTransaction.isFullyVerified (xt : VerifiedTransaction AccountId) : Bool :=
  xt.sender.isSome

/-! ## Scoring -/

/-- `Choice` of the pool's scoring. -/
inductive Choice
  | rejectNew
  | replaceOld
  | insertNew
  deriving DecidableEq, Repr

namespace Scoring

/-- `Scoring::compare`: by index. -/
def compare (old other : VerifiedTransaction AccountId) : Ordering :=
  Ord.compare old.index.toNat other.index.toNat

/-- `Scoring::choose`; `none` where its assertion fails. -/
def choose (old new : VerifiedTransaction AccountId) : Option Choice :=
  if old.isFullyVerified then
    if new.isFullyVerified then
      if old.index = new.index then some .rejectNew else some .insertNew
    else none
  else some .insertNew

/-- `Scoring::update_scores`: one for a fully verified transaction, zero
otherwise. -/
def updateScores (xts : List (VerifiedTransaction AccountId)) : List Nat :=
  xts.map fun xt => if xt.isFullyVerified then 1 else 0

/-- `Scoring::should_replace`. -/
def shouldReplace (old _new : VerifiedTransaction AccountId) : Bool :=
  !old.isFullyVerified

/-- Of two fully verified transactions, the new one is rejected exactly when it
repeats the old one's index. -/
theorem choose_of_fullyVerified {old new : VerifiedTransaction AccountId}
    (oldVerified : old.isFullyVerified) (newVerified : new.isFullyVerified) :
    choose old new = some .rejectNew ↔ old.index = new.index := by
  unfold choose
  rw [if_pos oldVerified, if_pos newVerified]
  split_ifs with same
  · simp [same]
  · simp [same]

end Scoring

/-! ## The readiness evaluator -/

/-- `Ready`: the index the chain holds for each account at the evaluator's
block (`api.index(at_block, _)`, `none` on an error), and `known_nonces`, the
next index of each sender seen. -/
structure Ready (AccountId : Type) where
  chainIndex : AccountId → Option Index
  knownNonces : AccountId → Option Index

namespace Ready

/-- `Ready::create`: nothing known yet. -/
def create (chainIndex : AccountId → Option Index) : Ready AccountId :=
  ⟨chainIndex, fun _ => none⟩

/-- The entry of `known_nonces` for a sender, inserted with the chain's index,
or `Index::max_value()` where that cannot be read. -/
def nextIndex (ready : Ready AccountId) (sender : AccountId) : Index :=
  (ready.knownNonces sender).getD ((ready.chainIndex sender).getD (BitVec.allOnes 32))

/-- The verdict for an index against the next index. -/
def verdict (index nextIndex : Index) : Readiness :=
  match Ord.compare index.toNat nextIndex.toNat with
  | .gt => .future
  | .eq => .ready
  | .lt => .stale

variable [DecidableEq AccountId]

/-- `Ready::is_ready`: the verdict, and the evaluator with the sender's next
index incremented. -/
def isReady (ready : Ready AccountId) (xt : VerifiedTransaction AccountId) :
    Readiness × Ready AccountId :=
  match xt.sender with
  | none => (.future, ready)
  | some sender =>
      let nextIndex := ready.nextIndex sender
      (verdict xt.index nextIndex,
        { ready with
          knownNonces := Function.update ready.knownNonces sender (some (saturatingAdd nextIndex 1)) })

/-- The verdicts of successive calls of `is_ready` on one evaluator. -/
def readinessOf (ready : Ready AccountId) : List (VerifiedTransaction AccountId) → List Readiness
  | [] => []
  | xt :: xts => (ready.isReady xt).1 :: (ready.isReady xt).2.readinessOf xts

end Ready

/-- The next index after `count` saturating increments of `index`. -/
def advanced (index : Index) (count : Nat) : Index :=
  BitVec.ofNat 32 (min (index.toNat + count) (2 ^ 32 - 1))

/-- An index advanced by a count saturates at the largest `u32`. -/
theorem toNat_advanced (index : Index) (count : Nat) :
    (advanced index count).toNat = min (index.toNat + count) (2 ^ 32 - 1) := by
  rw [advanced, BitVec.toNat_ofNat, Nat.mod_eq_of_lt (by omega)]

/-- Advancing by zero keeps the index. -/
theorem advanced_zero (index : Index) : advanced index 0 = index := by
  apply BitVec.eq_of_toNat_eq
  have below := index.isLt
  rw [toNat_advanced]
  omega

/-- Advancing by one more is a saturating increment. -/
theorem saturatingAdd_advanced (index : Index) (count : Nat) :
    saturatingAdd (advanced index count) 1 = advanced index (count + 1) := by
  apply BitVec.eq_of_toNat_eq
  have one : (1 : Index).toNat = 1 := rfl
  rw [toNat_saturatingAdd, toNat_advanced, toNat_advanced, one]
  omega

namespace Ready

/-- A stale verdict for an earlier index, a ready one for the next index, a
future one for a later index. -/
theorem verdict_eq (index nextIndex : Index) :
    verdict index nextIndex =
      if index.toNat < nextIndex.toNat then .stale
      else if index.toNat = nextIndex.toNat then .ready else .future := by
  unfold verdict
  rcases lt_trichotomy index.toNat nextIndex.toNat with before | same | after
  · rw [compare_lt_iff_lt.mpr before, if_pos before]
  · rw [compare_eq_iff_eq.mpr same, if_neg (by omega), if_pos same]
  · rw [compare_gt_iff_gt.mpr after, if_neg (by omega), if_neg (by omega)]

/-- A fresh readiness takes each sender's next index from the chain, or the largest `u32`. -/
@[simp] theorem nextIndex_create (chainIndex : AccountId → Option Index) (sender : AccountId) :
    (create chainIndex).nextIndex sender = (chainIndex sender).getD (BitVec.allOnes 32) := rfl

variable [DecidableEq AccountId] {ready other : Ready AccountId} {xt : VerifiedTransaction AccountId}
  {sender : AccountId}

/-- A transaction that is not fully verified is in the future, and the
evaluator is left as it was. -/
theorem isReady_of_sender_none (unverified : xt.sender = none) : ready.isReady xt = (.future, ready) := by
  simp [isReady, unverified]

/-- A signed transaction's readiness is the verdict on its index against its sender's next index. -/
theorem isReady_fst_of_sender (sent : xt.sender = some sender) :
    (ready.isReady xt).1 = verdict xt.index (ready.nextIndex sender) := by
  simp [isReady, sent]

/-- A call for a sender increments that sender's next index, whatever the
verdict. -/
theorem nextIndex_isReady_self (sent : xt.sender = some sender) :
    (ready.isReady xt).2.nextIndex sender = saturatingAdd (ready.nextIndex sender) 1 := by
  simp [isReady, sent, nextIndex]

/-- A call for another sender leaves this sender's next index alone. -/
theorem nextIndex_isReady_of_ne (elsewhere : xt.sender ≠ some sender) :
    (ready.isReady xt).2.nextIndex sender = ready.nextIndex sender := by
  unfold isReady
  split
  · rfl
  · rename_i someone sent
    have distinct : sender ≠ someone := fun same => elsewhere (same ▸ sent)
    simp only [nextIndex, Function.update_of_ne distinct]

/-- The verdicts on transactions of one sender depend on the evaluator only
through that sender's next index. -/
theorem readinessOf_congr {xts : List (VerifiedTransaction AccountId)}
    (only : ∀ xt ∈ xts, xt.sender = some sender) (same : ready.nextIndex sender = other.nextIndex sender) :
    ready.readinessOf xts = other.readinessOf xts := by
  induction xts generalizing ready other with
  | nil => rfl
  | cons xt xts ih =>
      have sent := only xt (List.mem_cons_self ..)
      have moved : (ready.isReady xt).2.nextIndex sender = (other.isReady xt).2.nextIndex sender := by
        rw [nextIndex_isReady_self sent, nextIndex_isReady_self sent, same]
      simp only [readinessOf, isReady_fst_of_sender sent, same,
        ih (fun xt member => only xt (List.mem_cons_of_mem _ member)) moved]

/-- The verdicts on one sender's transactions are those of the calls for that
sender alone: calls for other senders in between change nothing. -/
theorem readinessOf_filter_sender (ready : Ready AccountId) (xts : List (VerifiedTransaction AccountId))
    (sender : AccountId) :
    ((xts.zip (ready.readinessOf xts)).filter fun call => call.1.sender = some sender).map Prod.snd =
      ready.readinessOf (xts.filter fun xt => xt.sender = some sender) := by
  induction xts generalizing ready with
  | nil => rfl
  | cons xt xts ih =>
      by_cases sent : xt.sender = some sender
      · -- the call is for the sender: its verdict comes first on both sides
        simp only [readinessOf, List.zip_cons_cons, List.filter_cons, sent, decide_true,
          ↓reduceIte, List.map_cons, ih]
      · -- a call for another sender leaves the sender's next index alone
        have others : ∀ xt ∈ xts.filter (fun xt => xt.sender = some sender), xt.sender = some sender :=
          fun xt member => of_decide_eq_true (List.mem_filter.mp member).2
        simp only [readinessOf, List.zip_cons_cons, List.filter_cons, sent, decide_false,
          Bool.false_eq_true, ↓reduceIte, ih]
        exact readinessOf_congr others (nextIndex_isReady_of_ne sent)

/-- From a next index `advanced base offset`, the `count`-th transaction of the
sender is judged against `advanced base (offset + count)`. -/
theorem readinessOf_of_advanced {xts : List (VerifiedTransaction AccountId)} {base : Index}
    {offset : Nat} (only : ∀ xt ∈ xts, xt.sender = some sender)
    (reached : ready.nextIndex sender = advanced base offset) :
    ready.readinessOf xts =
      xts.mapIdx fun count xt => verdict xt.index (advanced base (offset + count)) := by
  induction xts generalizing ready offset with
  | nil => rfl
  | cons xt xts ih =>
      have sent := only xt (List.mem_cons_self ..)
      have moved : (ready.isReady xt).2.nextIndex sender = advanced base (offset + 1) := by
        rw [nextIndex_isReady_self sent, reached, saturatingAdd_advanced]
      rw [readinessOf, List.mapIdx_cons, isReady_fst_of_sender sent, reached,
        ih (fun xt member => only xt (List.mem_cons_of_mem _ member)) moved, Nat.add_zero]
      congr 2
      funext count xt
      rw [Nat.add_assoc, Nat.add_comm 1 count]

/-- The verdicts on transactions of one sender: the `count`-th is judged
against the sender's next index advanced `count` times. -/
theorem readinessOf_of_sender {xts : List (VerifiedTransaction AccountId)}
    (only : ∀ xt ∈ xts, xt.sender = some sender) :
    ready.readinessOf xts =
      xts.mapIdx fun count xt => verdict xt.index (advanced (ready.nextIndex sender) count) := by
  have start : ready.nextIndex sender = advanced (ready.nextIndex sender) 0 :=
    (advanced_zero _).symm
  simpa only [Nat.zero_add] using readinessOf_of_advanced only start

end Ready

section Verdicts

variable [DecidableEq AccountId]

/-- What a run of `is_ready` over a list of transactions decides: the verdicts
for one sender are those of the calls for that sender alone; the `count`-th
transaction of a sender whose chain index is `index` is judged against
`index` advanced `count` times, whatever the verdicts before it, and the
advance saturates at `u32::MAX`; a transaction without a sender is `Future`
and leaves the evaluator as it was. -/
theorem isReady_advances_on_every_call :
    (∀ (chainIndex : AccountId → Option Index) (xts : List (VerifiedTransaction AccountId)) sender,
      ((xts.zip ((Ready.create chainIndex).readinessOf xts)).filter
          fun call => call.1.sender = some sender).map Prod.snd =
        (Ready.create chainIndex).readinessOf (xts.filter fun xt => xt.sender = some sender)) ∧
    (∀ (chainIndex : AccountId → Option Index) (xts : List (VerifiedTransaction AccountId)) sender index,
      chainIndex sender = some index → (∀ xt ∈ xts, xt.sender = some sender) →
      (Ready.create chainIndex).readinessOf xts =
        xts.mapIdx fun count xt => Ready.verdict xt.index (advanced index count)) ∧
    (∀ index count, (advanced index count).toNat = min (index.toNat + count) (2 ^ 32 - 1)) ∧
    (∀ index nextIndex, Ready.verdict index nextIndex =
      if index.toNat < nextIndex.toNat then .stale
      else if index.toNat = nextIndex.toNat then .ready else .future) ∧
    ∀ (ready : Ready AccountId) (xt : VerifiedTransaction AccountId),
      xt.sender = none → ready.isReady xt = (.future, ready) := by
  refine ⟨fun chainIndex xts sender => Ready.readinessOf_filter_sender _ xts sender, ?_,
    toNat_advanced, Ready.verdict_eq, fun _ _ unverified => Ready.isReady_of_sender_none unverified⟩
  intro chainIndex xts sender index held only
  have start : (Ready.create chainIndex).nextIndex sender = index := by
    rw [Ready.nextIndex_create, held, Option.getD_some]
  rw [Ready.readinessOf_of_sender only, start]

/-- The chain holds index 5 for the sender, who sends transactions 4, 5, 5 and
6, in the order of their indices.  Only the first is stale by the chain's
index, but the counter moves on after each call and all four are stale: the
first ready index 5 is judged against 6, and 6 against 8. -/
theorem isReady_stales_the_next_index :
    (Ready.create fun _ : Nat => some 5).readinessOf
        [⟨some 0, 4⟩, ⟨some 0, 5⟩, ⟨some 0, 5⟩, ⟨some 0, 6⟩] =
      [.stale, .stale, .stale, .stale] := by
  rw [isReady_advances_on_every_call.2.1 _ _ 0 5 rfl (by decide)]
  decide

end Verdicts

end TransactionPool
end Polkadot
