import Polkadot.Democracy.VoteThreshold
import Mathlib.Data.List.AList

/-!
# Public proposals and referenda

`runtime/democracy/src/lib.rs`.  Stakeholders propose, second and vote; at the
end of each block `end_block` launches the most backed public proposal as a
referendum every `LaunchPeriod` blocks, and tallies the referenda that end at
the block, dispatching those that pass.

Democracy calls other modules through a `Runtime`: the voting balances, the
total stake and the reserves of staking, and the dispatch of a proposal, which
is an arbitrary call of the runtime and may write anywhere before it fails.
Block numbers and indices are `Nat`; a `% LaunchPeriod` by zero panics, which
is `none`.
-/

namespace Polkadot
namespace Democracy

/-- The democracy storage. -/
structure Storage (AccountId Proposal : Type) (balanceBits : Nat) where
  publicPropCount : Nat
  publicProps : List (Nat × Proposal × AccountId)
  depositOf : AList (fun _ : Nat => BitVec balanceBits × List AccountId)
  launchPeriod : Nat
  minimumDeposit : BitVec balanceBits
  votingPeriod : Nat
  referendumCount : Nat
  nextTally : Nat
  referendumInfoOf : AList (fun _ : Nat => Nat × Proposal × VoteThreshold)
  votersFor : AList (fun _ : Nat => List AccountId)
  voteOf : AList (fun _ : Nat × AccountId => Bool)

/-- The chain a democracy call runs on: the democracy storage, the state of the
other modules, and `system`'s block number. -/
structure Chain (σ AccountId Proposal : Type) (balanceBits : Nat) where
  democracy : Storage AccountId Proposal balanceBits
  others : σ
  blockNumber : Nat

/-- What democracy calls of the rest of the runtime. -/
structure Runtime (σ AccountId Proposal : Type) (balanceBits : Nat) where
  votingBalance : σ → AccountId → BitVec balanceBits
  totalStake : σ → BitVec balanceBits
  reserve : σ → AccountId → BitVec balanceBits → Except String σ
  unreserve : σ → AccountId → BitVec balanceBits → σ
  dispatch : Proposal → Chain σ AccountId Proposal balanceBits →
    Except String Unit × Chain σ AccountId Proposal balanceBits

/-- The result of a call and the chain after it; `none` is a panic. -/
abbrev Outcome (σ AccountId Proposal : Type) (balanceBits : Nat) (α : Type) :=
  Option (Except String α × Chain σ AccountId Proposal balanceBits)

/-- The fields of `GenesisConfig`. -/
structure GenesisConfig (balanceBits : Nat) where
  launchPeriod : Nat
  votingPeriod : Nat
  minimumDeposit : BitVec balanceBits

/-- `build_storage`: no proposals, no referenda. -/
def GenesisConfig.buildStorage {AccountId Proposal : Type} {balanceBits : Nat}
    (config : GenesisConfig balanceBits) : Storage AccountId Proposal balanceBits where
  publicPropCount := 0
  publicProps := []
  depositOf := ∅
  launchPeriod := config.launchPeriod
  minimumDeposit := config.minimumDeposit
  votingPeriod := config.votingPeriod
  referendumCount := 0
  nextTally := 0
  referendumInfoOf := ∅
  votersFor := ∅
  voteOf := ∅

/-- `Iterator::max_by_key`: the last of the items with the greatest key. -/
def maxByKey {α β : Type} [LE β] [DecidableLE β] (key : α → β) (items : List α) : Option α :=
  items.foldl (fun best item =>
    match best with
    | none => some item
    | some kept => if key kept ≤ key item then some item else some kept) none

/-- `Vec::swap_remove`: the last item takes the place of the removed one. -/
def swapRemove {α : Type} (items : List α) (index : Nat) : List α :=
  match items.getLast? with
  | some last => if index + 1 = items.length then items.dropLast
      else (items.set index last).dropLast
  | none => items

/-- `swap_remove` at an index inside the list is the removal at that index, up
to the order of the items. -/
theorem swapRemove_perm {α : Type} {items : List α} {index : Nat} (inside : index < items.length) :
    (swapRemove items index).Perm (items.eraseIdx index) := by
  obtain ⟨init, last, rfl⟩ :=
    (List.eq_nil_or_concat items).resolve_left (List.ne_nil_of_length_pos (by omega))
  simp only [List.concat_eq_append, List.length_append, List.length_singleton] at inside ⊢
  unfold swapRemove
  rw [List.getLast?_concat]
  dsimp only
  rw [List.length_append, List.length_singleton]
  split_ifs with atLast
  · -- the last item is removed
    obtain rfl : index = init.length := by omega
    simp [List.eraseIdx_append_of_length_le]
  · -- the last item moves into the hole
    have before : index < init.length := by omega
    rw [List.set_append_left _ _ before, List.dropLast_concat,
      List.eraseIdx_append_of_lt_length before, List.set_eq_take_append_cons_drop, if_pos before,
      List.eraseIdx_eq_take_drop_succ]
    exact List.perm_middle.trans (List.perm_append_singleton _ _).symm

/-- On a list without repeats, `swap_remove` at the index of an item removes
that item. -/
theorem swapRemove_perm_erase {α : Type} [DecidableEq α] {items : List α} {index : Nat} {item : α}
    (distinct : items.Nodup) (found : items[index]? = some item) :
    (swapRemove items index).Perm (items.erase item) := by
  obtain ⟨inside, rfl⟩ := List.getElem?_eq_some_iff.mp found
  rw [distinct.erase_getElem index inside]
  exact swapRemove_perm inside

namespace Storage

variable {AccountId Proposal : Type} [DecidableEq AccountId] {balanceBits : Nat}
variable (s : Storage AccountId Proposal balanceBits)

/-- `voters_for`. -/
def votersForOf (refIndex : Nat) : List AccountId := (s.votersFor.lookup refIndex).getD []

/-- `locked_for`: the deposit times the number of its depositors. -/
def lockedFor (proposal : Nat) : Option (BitVec balanceBits) :=
  (s.depositOf.lookup proposal).map fun deposit => deposit.1 * BitVec.ofNat balanceBits deposit.2.length

/-- `is_active_referendum`. -/
def isActiveReferendum (refIndex : Nat) : Bool := (s.referendumInfoOf.lookup refIndex).isSome

/-- `maturing_referendums_at`: from `NextTally` on, the referenda still stored,
as long as they end at block `n`. -/
def maturingReferendumsAt (n : Nat) : List (Nat × Nat × Proposal × VoteThreshold) :=
  ((List.range' s.nextTally (s.referendumCount - s.nextTally)).filterMap fun i =>
    (s.referendumInfoOf.lookup i).map fun info => (i, info.1, info.2.1, info.2.2)).takeWhile
      fun referendum => referendum.2.1 = n

/-- `clear_referendum`: the referendum's information and voters are removed,
and then the votes of the voters that are still listed, which are none. -/
def clearReferendum (refIndex : Nat) : Storage AccountId Proposal balanceBits :=
  let s := { s with
    referendumInfoOf := s.referendumInfoOf.erase refIndex
    votersFor := s.votersFor.erase refIndex }
  (s.votersForOf refIndex).foldl (fun s v => { s with voteOf := s.voteOf.erase (refIndex, v) }) s

end Storage

namespace Chain

variable {σ AccountId Proposal : Type} [DecidableEq AccountId] {balanceBits : Nat}
variable (runtime : Runtime σ AccountId Proposal balanceBits)
variable (c : Chain σ AccountId Proposal balanceBits)

/-- The chain with its democracy storage changed. -/
def withDemocracy (f : Storage AccountId Proposal balanceBits → Storage AccountId Proposal balanceBits) :
    Chain σ AccountId Proposal balanceBits :=
  { c with democracy := f c.democracy }

/-- `tally`: the voting balances of the referendum's voters, for it and against. -/
def tally (refIndex : Nat) : BitVec balanceBits × BitVec balanceBits :=
  ((c.democracy.votersForOf refIndex).map fun a =>
      (runtime.votingBalance c.others a, (c.democracy.voteOf.lookup (refIndex, a)).getD false)).foldl
    (fun sums vote => if vote.2 then (sums.1 + vote.1, sums.2) else (sums.1, sums.2 + vote.1))
    (0, 0)

/-- `propose`: a proposal backed by a reserved deposit of at least the minimum. -/
def propose (aux : AccountId) (proposal : Proposal) (value : BitVec balanceBits) :
    Except String Unit × Chain σ AccountId Proposal balanceBits :=
  if ¬value ≥ c.democracy.minimumDeposit then (.error "value too low", c)
  else
    match runtime.reserve c.others aux value with
    | .error _ => (.error "proposer's balance too low", c)
    | .ok others =>
        let index := c.democracy.publicPropCount
        (.ok (), { c with others } |>.withDemocracy fun s =>
          { s with
            publicPropCount := index + 1
            depositOf := s.depositOf.insert index (value, [aux])
            publicProps := s.publicProps ++ [(index, proposal, aux)] })

/-- `second`: another deposit of the same amount behind an existing proposal. -/
def second (aux : AccountId) (proposal : Nat) :
    Except String Unit × Chain σ AccountId Proposal balanceBits :=
  match c.democracy.depositOf.lookup proposal with
  | none => (.error "can only second an existing proposal", c)
  | some deposit =>
      match runtime.reserve c.others aux deposit.1 with
      | .error _ => (.error "seconder's balance too low", c)
      | .ok others =>
          (.ok (), { c with others } |>.withDemocracy fun s =>
            { s with depositOf := s.depositOf.insert proposal (deposit.1, deposit.2 ++ [aux]) })

/-- `vote`: a stakeholder's vote on an active referendum, replacing an earlier
one. -/
def vote (aux : AccountId) (refIndex : Nat) (approveProposal : Bool) :
    Except String Unit × Chain σ AccountId Proposal balanceBits :=
  if ¬c.democracy.isActiveReferendum refIndex then (.error "vote given for invalid referendum.", c)
  else if runtime.votingBalance c.others aux = 0 then
    (.error "transactor must have balance to signal approval.", c)
  else
    (.ok (), c.withDemocracy fun s =>
      let s := if (s.voteOf.lookup (refIndex, aux)).isNone then
          { s with votersFor := s.votersFor.insert refIndex (s.votersForOf refIndex ++ [aux]) }
        else s
      { s with voteOf := s.voteOf.insert (refIndex, aux) approveProposal })

/-- `inject_referendum`: a referendum ending at `end`, which may not end before
the referendum started just before it, if that one is still stored. -/
def injectReferendum (endBlock : Nat) (proposal : Proposal) (voteThreshold : VoteThreshold) :
    Except String Nat × Chain σ AccountId Proposal balanceBits :=
  let refIndex := c.democracy.referendumCount
  if refIndex > 0 ∧ ((c.democracy.referendumInfoOf.lookup (refIndex - 1)).map
      fun info => decide (info.1 > endBlock)).getD false then
    (.error "Cannot inject a referendum that ends earlier than preceeding referendum", c)
  else
    (.ok refIndex, c.withDemocracy fun s =>
      { s with
        referendumCount := refIndex + 1
        referendumInfoOf := s.referendumInfoOf.insert refIndex (endBlock, proposal, voteThreshold) })

/-- `start_referendum`: a referendum ending a voting period from now. -/
def startReferendum (proposal : Proposal) (voteThreshold : VoteThreshold) :
    Except String Unit × Chain σ AccountId Proposal balanceBits :=
  let injected := c.injectReferendum (c.blockNumber + c.democracy.votingPeriod) proposal voteThreshold
  (injected.1.map fun _ => (), injected.2)

/-- `cancel_referendum`. -/
def cancelReferendum (refIndex : Nat) : Except String Unit × Chain σ AccountId Proposal balanceBits :=
  (.ok (), c.withDemocracy fun s => s.clearReferendum refIndex)

/-- The launch of `end_block`: the public proposal with the most locked (the
last of them on a tie) leaves the queue, its depositors are refunded, and it is
injected as a super-majority-approve referendum. -/
def launchPublicReferendum (now : Nat) : Except String Unit × Chain σ AccountId Proposal balanceBits :=
  let publicProps := c.democracy.publicProps
  match maxByKey (fun entry => (c.democracy.lockedFor entry.1.1).getD 0) publicProps.zipIdx with
  | none => (.ok (), c)
  | some (winner, winnerIndex) =>
      let publicProps := swapRemove publicProps winnerIndex
      match c.democracy.depositOf.lookup winner.1 with
      | none => (.error "depositors always exist for current proposals", c)
      | some (deposit, depositors) =>
          let c := c.withDemocracy fun s => { s with depositOf := s.depositOf.erase winner.1 }
          -- refund depositors
          let c := { c with
            others := depositors.foldl (fun others d => runtime.unreserve others d deposit) c.others }
          let c := c.withDemocracy fun s => { s with publicProps }
          let injected := c.injectReferendum (now + c.democracy.votingPeriod) winner.2.1
            .superMajorityApprove
          (injected.1.map fun _ => (), injected.2)

/-- The tally loop of `end_block` over the maturing referenda: each is counted
and cleared, a passed one is dispatched, and `NextTally` moves past it.  A
failed dispatch returns at once. -/
def tallyReferenda : List (Nat × Nat × Proposal × VoteThreshold) →
    Chain σ AccountId Proposal balanceBits → Outcome σ AccountId Proposal balanceBits Unit
  | [], c => some (.ok (), c)
  | (index, _, proposal, voteThreshold) :: rest, c =>
      let (approve, against) := c.tally runtime index
      let totalStake := runtime.totalStake c.others
      let c := c.withDemocracy fun s => s.clearReferendum index
      match voteThreshold.approved approve against totalStake with
      | none => none
      | some passed =>
          let (result, c) := if passed then runtime.dispatch proposal c else (.ok (), c)
          match result with
          | .error message => some (.error message, c)
          | .ok () =>
              tallyReferenda rest (c.withDemocracy fun s => { s with nextTally := index + 1 })

/-- `end_block`: a public referendum is launched when `now` is a multiple of the
launch period, and then the referenda ending at `now` are tallied. -/
def endBlock (now : Nat) : Outcome σ AccountId Proposal balanceBits Unit :=
  if c.democracy.launchPeriod = 0 then none
  else
    let launched := if now % c.democracy.launchPeriod = 0 then c.launchPublicReferendum runtime now
      else (.ok (), c)
    match launched with
    | (.error message, c) => some (.error message, c)
    | (.ok (), c) => tallyReferenda runtime (c.democracy.maturingReferendumsAt now) c

end Chain

/-- The calls of democracy and the end of a block. -/
inductive Call (AccountId Proposal : Type) (balanceBits : Nat) where
  | propose (aux : AccountId) (proposal : Proposal) (value : BitVec balanceBits)
  | second (aux : AccountId) (proposal : Nat)
  | vote (aux : AccountId) (refIndex : Nat) (approveProposal : Bool)
  | startReferendum (proposal : Proposal) (voteThreshold : VoteThreshold)
  | cancelReferendum (refIndex : Nat)
  | endBlock (now : Nat)

namespace Chain

variable {σ AccountId Proposal : Type} [DecidableEq AccountId] {balanceBits : Nat}
variable (runtime : Runtime σ AccountId Proposal balanceBits)

/-- One call. -/
def apply (c : Chain σ AccountId Proposal balanceBits) :
    Call AccountId Proposal balanceBits → Outcome σ AccountId Proposal balanceBits Unit
  | .propose aux proposal value => some (c.propose runtime aux proposal value)
  | .second aux proposal => some (c.second runtime aux proposal)
  | .vote aux refIndex approveProposal => some (c.vote runtime aux refIndex approveProposal)
  | .startReferendum proposal voteThreshold => some (c.startReferendum proposal voteThreshold)
  | .cancelReferendum refIndex => some (c.cancelReferendum refIndex)
  | .endBlock now => c.endBlock runtime now

/-- A run of calls: the result of each, and the chain at the end; a panic stops
the run. -/
def run : List (Call AccountId Proposal balanceBits) → Chain σ AccountId Proposal balanceBits →
    Option (List (Except String Unit) × Chain σ AccountId Proposal balanceBits)
  | [], c => some ([], c)
  | call :: calls, c => do
      let (result, c) ← c.apply runtime call
      let (results, c) ← run calls c
      pure (result :: results, c)

end Chain

end Democracy
end Polkadot
