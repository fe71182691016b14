import Polkadot.Democracy.VoteThreshold
import Polkadot.Foundations.SortedVec

/-!
# Council voting

`runtime/council/src/voting.rs`: the council's own proposals.  A councillor
whose seat lasts beyond the voting period proposes a call of the runtime, which
is queued by the block it expires at; anybody may vote on a proposal by its
hash, and a councillor may veto it, which removes it and bars its hash for a
cooling-off period.  At the end of each block the proposals that expire at it
are taken from the front of the queue and tallied over the active council: a
`cancel_referendum` of democracy is carried out when the whole council approved
it, and any other proposal starts a referendum when more councillors approved
it than rejected it or did not vote, one that passes unless a super-majority is
against it when the whole council approved, and by simple majority otherwise.

Voting reads the active council from the council module and calls democracy
through a `Runtime`: the hash of a proposal, whether it is a
`cancel_referendum` and of which referendum, and democracy's
`internal_start_referendum` and `internal_cancel_referendum`.  Block numbers
and periods are `T::BlockNumber`, a `u64`, as `BitVec 64`: the sums that give
an expiry wrap around, as in the release runtime.  The counts of a tally are
`Nat`.  Accounts are ordered, as the
`binary_search` over the vetoers of a proposal needs, and `sort_by_key`, a
stable sort, is `List.mergeSort`.
-/

namespace Polkadot
namespace Council
namespace Voting

open Democracy (VoteThreshold)
open Foundations (binarySearch)

/-- `T::BlockNumber`: a `u64`. -/
abbrev BlockNumber := BitVec 64

/-- The council voting storage. -/
structure Storage (AccountId Hash Proposal : Type) where
  cooloffPeriod : BlockNumber
  votingPeriod : BlockNumber
  proposals : List (BlockNumber × Hash)
  proposalOf : AList (fun _ : Hash => Proposal)
  proposalVoters : AList (fun _ : Hash => List AccountId)
  councilVoteOf : AList (fun _ : Hash × AccountId => Bool)
  vetoedProposal : AList (fun _ : Hash => BlockNumber × List AccountId)

/-- The chain council voting runs on: its storage, the active council of the
council module with the block each seat expires at, the state of the other
modules, and `system`'s block number. -/
structure Chain (σ AccountId Hash Proposal : Type) where
  voting : Storage AccountId Hash Proposal
  activeCouncil : List (AccountId × BlockNumber)
  others : σ
  blockNumber : BlockNumber

/-- What council voting calls of the rest of the runtime. -/
structure Runtime (σ Hash Proposal : Type) where
  hashOf : Proposal → Hash
  cancelReferendumOf : Proposal → Option Nat
  startReferendum : σ → Proposal → VoteThreshold → Except String σ
  cancelReferendum : σ → Nat → σ

/-- The fields of the council's `GenesisConfig` that voting stores. -/
structure GenesisConfig where
  cooloffPeriod : BlockNumber
  votingPeriod : BlockNumber

/-- `build_storage`: the two periods, and no proposals. -/
def GenesisConfig.buildStorage {AccountId Hash Proposal : Type} (config : GenesisConfig) :
    Storage AccountId Hash Proposal where
  cooloffPeriod := config.cooloffPeriod
  votingPeriod := config.votingPeriod
  proposals := []
  proposalOf := ∅
  proposalVoters := ∅
  councilVoteOf := ∅
  vetoedProposal := ∅

/-- `generic_tally`: the active council's votes on a proposal, read member by
member with `voteOf`, which may change the state it reads, counted as
approvals, rejections and the members that gave none. -/
def genericTally {τ AccountId : Type} (council : List (AccountId × BlockNumber)) (voteOf : τ → AccountId → Option Bool × τ)
    (state : τ) : (Nat × Nat × Nat) × τ :=
  let read := council.foldl (fun (read : List Bool × τ) member =>
      let vote := voteOf read.2 member.1
      (read.1 ++ vote.1.toList, vote.2)) ([], state)
  let counts := (read.1.map fun approve => if approve then (1, 0) else (0, 1)).foldl
      (fun (sums vote : Nat × Nat) => (sums.1 + vote.1, sums.2 + vote.2)) (0, 0)
  ((counts.1, counts.2, council.length - counts.1 - counts.2), read.2)

namespace Storage

variable {AccountId Hash Proposal : Type} [LinearOrder AccountId] [DecidableEq Hash]
variable (s : Storage AccountId Hash Proposal)

/-- `proposal_voters`, a map whose default is no voters. -/
def proposalVotersOf (proposal : Hash) : List AccountId := (s.proposalVoters.lookup proposal).getD []

/-- `CouncilVoteOf::take`: the vote of `voter`, removed. -/
def takeVote (proposalHash : Hash) (voter : AccountId) : Option Bool × Storage AccountId Hash Proposal :=
  (s.councilVoteOf.lookup (proposalHash, voter), { s with councilVoteOf := s.councilVoteOf.erase (proposalHash, voter) })

end Storage

namespace Chain

variable {σ AccountId Hash Proposal : Type} [LinearOrder AccountId] [DecidableEq Hash]
variable (runtime : Runtime σ Hash Proposal) (c : Chain σ AccountId Hash Proposal)

/-- The chain with its voting storage changed. -/
def withVoting (f : Storage AccountId Hash Proposal → Storage AccountId Hash Proposal) :
    Chain σ AccountId Hash Proposal :=
  { c with voting := f c.voting }

/-- `is_vetoed`: the proposal has a veto that has not expired. -/
def isVetoed (proposal : Hash) : Bool :=
  ((c.voting.vetoedProposal.lookup proposal).map fun veto => decide (c.blockNumber < veto.1)).getD false

/-- `will_still_be_councillor_at`: the first seat of `who` lasts beyond block
`n`. -/
def willStillBeCouncillorAt (who : AccountId) (n : BlockNumber) : Bool :=
  ((c.activeCouncil.find? fun member => member.1 = who).map fun member => decide (member.2 > n)).getD false

/-- `is_councillor`. -/
def isCouncillor (who : AccountId) : Bool := c.activeCouncil.any fun member => member.1 = who

/-- `tally`: the votes as stored. -/
def tally (proposalHash : Hash) : Nat × Nat × Nat :=
  (genericTally c.activeCouncil (fun s voter => (s.councilVoteOf.lookup (proposalHash, voter), s)) c.voting).1

/-- `take_tally`: the votes, each removed as it is read. -/
def takeTally (proposalHash : Hash) : (Nat × Nat × Nat) × Storage AccountId Hash Proposal :=
  genericTally c.activeCouncil (fun s voter => s.takeVote proposalHash voter) c.voting

/-- `propose`: a councillor whose seat lasts beyond the voting period queues a
proposal that is neither stored nor vetoed; it counts as the proposer's
approval. -/
def propose (aux : AccountId) (proposal : Proposal) : Except String Unit × Chain σ AccountId Hash Proposal :=
  let expiry := c.blockNumber + c.voting.votingPeriod
  if c.willStillBeCouncillorAt aux expiry = false then (.error "proposer would not be on council", c)
  else
    let proposalHash := runtime.hashOf proposal
    if (c.voting.proposalOf.lookup proposalHash).isSome then (.error "duplicate proposals not allowed", c)
    else if c.isVetoed proposalHash then (.error "proposal is vetoed", c)
    else
      (.ok (), c.withVoting fun s =>
        { s with
          proposals := (s.proposals ++ [(expiry, proposalHash)]).mergeSort fun first second =>
            decide (first.1 ≤ second.1)
          proposalOf := s.proposalOf.insert proposalHash proposal
          proposalVoters := s.proposalVoters.insert proposalHash [aux]
          councilVoteOf := s.councilVoteOf.insert (proposalHash, aux) true })

/-- `vote`: anybody's vote on a hash, replacing an earlier one; a first vote
lists the voter. -/
def vote (aux : AccountId) (proposal : Hash) (approve : Bool) : Except String Unit × Chain σ AccountId Hash Proposal :=
  (.ok (), c.withVoting fun s =>
    let s := if (s.councilVoteOf.lookup (proposal, aux)).isNone then
        { s with proposalVoters := s.proposalVoters.insert proposal (s.proposalVotersOf proposal ++ [aux]) }
      else s
    { s with councilVoteOf := s.councilVoteOf.insert (proposal, aux) approve })

/-- `veto`: a councillor not yet among the vetoers of a hash that has voters
vetoes it until a cooling-off period from now; the proposal, its voters and
the council's votes on it are removed. -/
def veto (aux : AccountId) (proposalHash : Hash) : Except String Unit × Chain σ AccountId Hash Proposal :=
  if c.isCouncillor aux = false then (.error "only councillors may veto council proposals", c)
  else if (c.voting.proposalVoters.lookup proposalHash).isNone then
    (.error "proposal must exist to be vetoed", c)
  else
    let existingVetoers := ((c.voting.vetoedProposal.lookup proposalHash).map fun veto => veto.2).getD []
    match binarySearch existingVetoers aux with
    | .ok _ => (.error "a councillor may not veto a proposal twice", c)
    | .error insertPosition =>
        (.ok (), c.withVoting fun s =>
          let s := { s with
            vetoedProposal := s.vetoedProposal.insert proposalHash
              (c.blockNumber + s.cooloffPeriod, existingVetoers.insertIdx insertPosition aux) }
          let s := { s with
            proposals := s.proposals.filter fun entry => entry.2 ≠ proposalHash
            proposalVoters := s.proposalVoters.erase proposalHash
            proposalOf := s.proposalOf.erase proposalHash }
          c.activeCouncil.foldl (fun s member => { s with councilVoteOf := s.councilVoteOf.erase (proposalHash, member.1) })
            s)

/-- `set_cooloff_period`. -/
def setCooloffPeriod (blocks : BlockNumber) : Except String Unit × Chain σ AccountId Hash Proposal :=
  (.ok (), c.withVoting fun s => { s with cooloffPeriod := blocks })

/-- `set_voting_period`. -/
def setVotingPeriod (blocks : BlockNumber) : Except String Unit × Chain σ AccountId Hash Proposal :=
  (.ok (), c.withVoting fun s => { s with votingPeriod := blocks })

/-- `take_proposal_if_expiring_at`: the first queued proposal, if it expires at
`n`, leaves the queue and the stored proposals; a queued hash with no stored
proposal leaves the queue all the same and is reported as none. -/
def takeProposalIfExpiringAt (n : BlockNumber) : Option (Proposal × Hash) × Chain σ AccountId Hash Proposal :=
  match c.voting.proposals with
  | (expiry, hash) :: rest =>
      if expiry = n then
        let c := c.withVoting fun s => { s with proposals := rest }
        match c.voting.proposalOf.lookup hash with
        | some proposal => (some (proposal, hash), c.withVoting fun s => { s with proposalOf := s.proposalOf.erase hash })
        | none => (none, c)
      else (none, c)
  | [] => (none, c)

/-- The body of the `while let` loop of `end_block`, for a proposal taken off
the queue: its votes are taken; a `cancel_referendum` is carried out when the
whole council approved it; any other proposal that more councillors approved
than rejected it or did not vote loses its veto and starts a referendum, and a
failure to start it ends the loop with its error. -/
def decideProposal (proposal : Proposal) (proposalHash : Hash) :
    Except String Unit × Chain σ AccountId Hash Proposal :=
  let (tally, voting) := c.takeTally proposalHash
  let c := { c with voting }
  match runtime.cancelReferendumOf proposal with
  | some refIndex =>
      if tally.2.1 = 0 ∧ tally.2.2 = 0 then (.ok (), { c with others := runtime.cancelReferendum c.others refIndex })
      else (.ok (), c)
  | none =>
      if tally.1 > tally.2.1 + tally.2.2 then
        let c := c.withVoting fun s => { s with vetoedProposal := s.vetoedProposal.erase proposalHash }
        let threshold := if tally.2.1 = 0 ∧ tally.2.2 = 0 then VoteThreshold.superMajorityAgainst
          else VoteThreshold.simpleMajority
        match runtime.startReferendum c.others proposal threshold with
        | .error message => (.error message, c)
        | .ok others => (.ok (), { c with others })
      else (.ok (), c)

/-- The `while let` loop of `end_block`, one proposal expiring at `now` after
another; `fuel` bounds the rounds, and the length of the queue, which each
round shortens, is enough (`endBlockLoop_of_le`). -/
def endBlockLoop (now : BlockNumber) : Nat → Chain σ AccountId Hash Proposal → Except String Unit × Chain σ AccountId Hash Proposal
  | 0, c => (.ok (), c)
  | fuel + 1, c =>
      match c.takeProposalIfExpiringAt now with
      | (none, c) => (.ok (), c)
      | (some (proposal, proposalHash), c) =>
          match c.decideProposal runtime proposal proposalHash with
          | (.error message, c) => (.error message, c)
          | (.ok (), c) => endBlockLoop now fuel c

/-- `end_block`: the proposals expiring at `now` are decided. -/
def endBlock (now : BlockNumber) : Except String Unit × Chain σ AccountId Hash Proposal :=
  endBlockLoop runtime now c.voting.proposals.length c

end Chain

/-- The calls of council voting, its privileged calls, and the end of a block. -/
inductive Call (AccountId Hash Proposal : Type) where
  | propose (aux : AccountId) (proposal : Proposal)
  | vote (aux : AccountId) (proposal : Hash) (approve : Bool)
  | veto (aux : AccountId) (proposalHash : Hash)
  | setCooloffPeriod (blocks : BlockNumber)
  | setVotingPeriod (blocks : BlockNumber)
  | endBlock

namespace Chain

variable {σ AccountId Hash Proposal : Type} [LinearOrder AccountId] [DecidableEq Hash]
variable (runtime : Runtime σ Hash Proposal)

/-- One call.  `endBlock` runs `end_block` of the current block, as the
council's `execute` does, and the next block begins. -/
def apply (c : Chain σ AccountId Hash Proposal) :
    Call AccountId Hash Proposal → Except String Unit × Chain σ AccountId Hash Proposal
  | .propose aux proposal => c.propose runtime aux proposal
  | .vote aux proposal approve => c.vote aux proposal approve
  | .veto aux proposalHash => c.veto aux proposalHash
  | .setCooloffPeriod blocks => c.setCooloffPeriod blocks
  | .setVotingPeriod blocks => c.setVotingPeriod blocks
  | .endBlock =>
      let ended := c.endBlock runtime c.blockNumber
      (ended.1, { ended.2 with blockNumber := ended.2.blockNumber + 1 })

end Chain

/-- A call that wraps no expiry: a `propose` at a block that the voting period
does not carry past `u64::MAX`, or any other call. -/
def Call.Fits {σ AccountId Hash Proposal : Type} (c : Chain σ AccountId Hash Proposal) :
    Call AccountId Hash Proposal → Prop
  | .propose _ _ => c.blockNumber.toNat + c.voting.votingPeriod.toNat < 2 ^ 64
  | _ => True

/-- Whether a call's expiry fits can be decided. -/
instance {σ AccountId Hash Proposal : Type} (c : Chain σ AccountId Hash Proposal) (call : Call AccountId Hash Proposal) :
    Decidable (call.Fits c) := by
  cases call <;> unfold Call.Fits <;> infer_instance

variable {σ AccountId Hash Proposal : Type} [LinearOrder AccountId] [DecidableEq Hash]

/-- One step of the chain as council voting sees it: a call, whatever its
result, or a change of the active council and of the other modules' state,
which the council's elections and the other modules make between calls. -/
inductive Step (runtime : Runtime σ Hash Proposal) :
    Chain σ AccountId Hash Proposal → Chain σ AccountId Hash Proposal → Prop
  | call (c : Chain σ AccountId Hash Proposal) (call : Call AccountId Hash Proposal) :
      Step runtime c (c.apply runtime call).2
  | elsewhere (c : Chain σ AccountId Hash Proposal) (activeCouncil : List (AccountId × BlockNumber)) (others : σ) :
      Step runtime c { c with activeCouncil, others }

/-- The chains a run from the genesis storage reaches. -/
inductive Reachable (runtime : Runtime σ Hash Proposal) (config : GenesisConfig) :
    Chain σ AccountId Hash Proposal → Prop
  | genesis (activeCouncil : List (AccountId × BlockNumber)) (others : σ) (blockNumber : BlockNumber) :
      Reachable runtime config ⟨config.buildStorage, activeCouncil, others, blockNumber⟩
  | tail {c c' : Chain σ AccountId Hash Proposal} :
      Reachable runtime config c → Step runtime c c' → Reachable runtime config c'

/-- The chains a run from the genesis storage reaches in which no expiry wraps:
each call `Fits` the chain it is made on. -/
inductive ReachableUnwrapped (runtime : Runtime σ Hash Proposal) (config : GenesisConfig) :
    Chain σ AccountId Hash Proposal → Prop
  | genesis (activeCouncil : List (AccountId × BlockNumber)) (others : σ) (blockNumber : BlockNumber) :
      ReachableUnwrapped runtime config ⟨config.buildStorage, activeCouncil, others, blockNumber⟩
  | call {c : Chain σ AccountId Hash Proposal} (call : Call AccountId Hash Proposal) :
      ReachableUnwrapped runtime config c → call.Fits c → ReachableUnwrapped runtime config (c.apply runtime call).2
  | elsewhere {c : Chain σ AccountId Hash Proposal} (activeCouncil : List (AccountId × BlockNumber)) (others : σ) :
      ReachableUnwrapped runtime config c → ReachableUnwrapped runtime config { c with activeCouncil, others }

/-- A run in which no expiry wraps is a run. -/
theorem ReachableUnwrapped.reachable {runtime : Runtime σ Hash Proposal} {config : GenesisConfig}
    {c : Chain σ AccountId Hash Proposal} (unwrapped : ReachableUnwrapped runtime config c) :
    Reachable runtime config c := by
  induction unwrapped with
  | genesis activeCouncil others blockNumber => exact .genesis activeCouncil others blockNumber
  | call call _ _ reachable => exact reachable.tail (.call _ call)
  | elsewhere activeCouncil others _ reachable => exact reachable.tail (.elsewhere _ activeCouncil others)

end Voting
end Council
end Polkadot
