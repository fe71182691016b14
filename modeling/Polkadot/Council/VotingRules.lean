import Polkadot.Council.VotingQueue

/-!
# What the calls of council voting decide

The end of a block, taken over the queue in storage one proposal after the
other, does what a plain pass over the proposals expiring at the block does
(`endBlock_performs_expiring`).  Each proposal is decided on the votes the
council gave it (`decision`): a cancellation of a referendum when the whole
council approved it, any other proposal when more than half of the council
approved it.  Democracy then carries the decisions out in the order of the
queue (`perform`).  That rests on the queue being consistent, and on the council
listing each member once, so that `take_tally` reads each member's vote once,
as `tally` shows it.

`veto` takes the voters of a hash for the existence of its proposal, and
`vote` lists a voter on any hash: a councillor can veto a hash that nobody
proposed once anybody voted on it, and the hash can then not be proposed while
the veto lasts (`veto_without_proposal`).

Expiries are `u64` sums that wrap.  A voting period that carries the block past
`u64::MAX` queues a proposal to expire before its block, at the front of the
queue, where it stops the loop of `end_block` at every later block
(`wrapped_proposal_stalls_queue`); a cooling-off period that does gives a veto
that bars nothing (`veto_wrapped_bars_nothing`).
-/

namespace Polkadot
namespace Council
namespace Voting

open Democracy (VoteThreshold)
open Foundations (binarySearch)
open Storage (Consistent)

variable {σ AccountId Hash Proposal : Type} [LinearOrder AccountId] [DecidableEq Hash]

/-! ## Tallies -/

/-- The members of `council` whose vote on `hash` is `approve`. -/
def votesOf (council : List (AccountId × BlockNumber)) (votes : AList fun _ : Hash × AccountId => Bool) (hash : Hash)
    (approve : Bool) : Nat :=
  council.countP fun member => votes.lookup (hash, member.1) = some approve

/-- A member votes one way at most. -/
theorem votesOf_add_le (council : List (AccountId × BlockNumber)) (votes : AList fun _ : Hash × AccountId => Bool)
    (hash : Hash) : votesOf council votes hash true + votesOf council votes hash false ≤ council.length := by
  induction council with
  | nil => simp [votesOf]
  | cons member council ih =>
      simp only [votesOf, List.countP_cons, List.length_cons] at ih ⊢
      cases votes.lookup (hash, member.1) with
      | none => simp; omega
      | some approve => cases approve <;> simp <;> omega

omit [LinearOrder AccountId] [DecidableEq Hash] in
/-- Counting votes by pairs counts the approvals and the rejections. -/
theorem foldl_count_pairs (votes : List Bool) (sums : Nat × Nat) :
    (votes.map fun approve => if approve then (1, 0) else (0, 1)).foldl
      (fun (sums vote : Nat × Nat) => (sums.1 + vote.1, sums.2 + vote.2)) sums =
      (sums.1 + votes.count true, sums.2 + votes.count false) := by
  induction votes generalizing sums with
  | nil => simp
  | cons vote votes ih =>
      rw [List.map_cons, List.foldl_cons, ih]
      cases vote <;> simp <;> omega

omit [LinearOrder AccountId] [DecidableEq Hash] in
/-- Counting one answer among the answers given is counting the items that give it. -/
theorem count_filterMap_eq {α : Type} (f : α → Option Bool) (items : List α) (approve : Bool) :
    (items.filterMap f).count approve = items.countP fun item => decide (f item = some approve) := by
  rw [List.count_filterMap]
  exact List.countP_congr fun item _ => by simp

omit [LinearOrder AccountId] in
/-- A tally over the votes read, one list entry per member that voted. -/
theorem genericTally_counts {τ : Type} (council : List (AccountId × BlockNumber)) (voteOf : τ → AccountId → Option Bool × τ)
    (state : τ) {reads : List Bool}
    (read : (council.foldl (fun (read : List Bool × τ) member =>
      ((read.1 ++ (voteOf read.2 member.1).1.toList), (voteOf read.2 member.1).2)) ([], state)).1 = reads) :
    (genericTally council voteOf state).1 =
      (reads.count true, reads.count false, council.length - reads.count true - reads.count false) := by
  unfold genericTally
  dsimp only
  rw [read, foldl_count_pairs]
  simp

/-- Taking the votes of members listed once reads each as stored. -/
theorem foldl_takeVote (hash : Hash) (stored : AList fun _ : Hash × AccountId => Bool) :
    ∀ (council : List (AccountId × BlockNumber)) (read : List Bool) (s : Storage AccountId Hash Proposal),
      (council.map Prod.fst).Nodup →
      (∀ member ∈ council, s.councilVoteOf.lookup (hash, member.1) = stored.lookup (hash, member.1)) →
      (council.foldl (fun (read : List Bool × Storage AccountId Hash Proposal) member =>
        ((read.1 ++ (read.2.takeVote hash member.1).1.toList), (read.2.takeVote hash member.1).2)) (read, s)).1 =
        read ++ council.filterMap fun member => stored.lookup (hash, member.1)
  | [], read, _, _, _ => by simp
  | member :: council, read, s, distinct, agree => by
      rw [List.map_cons, List.nodup_cons] at distinct
      rw [List.foldl_cons]
      -- the later members' votes are untouched by taking this member's
      have later : ∀ other ∈ council, (s.takeVote hash member.1).2.councilVoteOf.lookup (hash, other.1) =
          stored.lookup (hash, other.1) := by
        intro other member'
        have differ : (hash, other.1) ≠ (hash, member.1) := fun same =>
          distinct.1 (List.mem_map.mpr ⟨other, member', (Prod.mk.inj same).2⟩)
        rw [Storage.takeVote, AList.lookup_erase_ne differ]
        exact agree other (List.mem_cons_of_mem _ member')
      rw [foldl_takeVote hash stored council _ _ distinct.2 later, Storage.takeVote]
      dsimp only
      rw [agree member List.mem_cons_self, List.filterMap_cons]
      cases stored.lookup (hash, member.1) <;> simp

namespace Chain

variable (runtime : Runtime σ Hash Proposal) (c : Chain σ AccountId Hash Proposal)

/-- `tally` counts the members that approved, that rejected, and the rest. -/
theorem tally_eq (proposalHash : Hash) :
    c.tally proposalHash = (votesOf c.activeCouncil c.voting.councilVoteOf proposalHash true,
      votesOf c.activeCouncil c.voting.councilVoteOf proposalHash false,
      c.activeCouncil.length - votesOf c.activeCouncil c.voting.councilVoteOf proposalHash true -
        votesOf c.activeCouncil c.voting.councilVoteOf proposalHash false) := by
  -- the votes are read without changing the state
  have reads : ∀ (council : List (AccountId × BlockNumber)) (read : List Bool),
      (council.foldl (fun (read : List Bool × Storage AccountId Hash Proposal) member =>
        ((read.1 ++ (read.2.councilVoteOf.lookup (proposalHash, member.1)).toList), read.2)) (read, c.voting)).1 =
        read ++ council.filterMap fun member => c.voting.councilVoteOf.lookup (proposalHash, member.1) := by
    intro council
    induction council with
    | nil => simp
    | cons member council ih =>
        intro read
        rw [List.foldl_cons, ih, List.filterMap_cons]
        cases c.voting.councilVoteOf.lookup (proposalHash, member.1) <;> simp
  rw [tally, genericTally_counts _ _ _ (reads c.activeCouncil [])]
  simp [votesOf, count_filterMap_eq]

/-- `take_tally` reads what `tally` shows when the council lists each member
once. -/
theorem takeTally_fst (distinct : (c.activeCouncil.map Prod.fst).Nodup) (proposalHash : Hash) :
    (c.takeTally proposalHash).1 = c.tally proposalHash := by
  rw [tally_eq, takeTally,
    genericTally_counts _ _ _ (foldl_takeVote proposalHash c.voting.councilVoteOf c.activeCouncil [] c.voting
      distinct fun _ _ => rfl)]
  simp [votesOf, count_filterMap_eq]

/-- Taking the votes on one hash leaves the votes on every other. -/
theorem takeTally_lookup_ne {proposalHash other : Hash} (differ : other ≠ proposalHash) (voter : AccountId) :
    (c.takeTally proposalHash).2.councilVoteOf.lookup (other, voter) = c.voting.councilVoteOf.lookup (other, voter) :=
  genericTally_induction (fun s : Storage AccountId Hash Proposal =>
      s.councilVoteOf.lookup (other, voter) = c.voting.councilVoteOf.lookup (other, voter)) c.activeCouncil _
    (fun s member same => by
      rw [Storage.takeVote, AList.lookup_erase_ne fun equal => differ (Prod.mk.inj equal).1]
      exact same)
    rfl

end Chain

/-! ## The end of a block -/

/-- What the end of a block asks of democracy. -/
inductive Action (Proposal : Type) where
  | cancelReferendum (refIndex : Nat)
  | startReferendum (proposal : Proposal) (threshold : VoteThreshold)
  deriving DecidableEq

/-- The decision on a proposal by the votes the council gave it: a
cancellation of a referendum passes when the whole council approved it, any
other proposal when more than half of the council approved it, as a
referendum only a super-majority against can stop when the whole council
approved. -/
def decision (runtime : Runtime σ Hash Proposal) (council : List (AccountId × BlockNumber))
    (votes : AList fun _ : Hash × AccountId => Bool) (proposal : Proposal) (hash : Hash) : Option (Action Proposal) :=
  let approvals := votesOf council votes hash true
  match runtime.cancelReferendumOf proposal with
  | some refIndex => if approvals = council.length then some (.cancelReferendum refIndex) else none
  | none =>
      if council.length < 2 * approvals then
        some (.startReferendum proposal
          (if approvals = council.length then .superMajorityAgainst else .simpleMajority))
      else none

/-- The decisions of the end of block `now`, in the order of the queue: one
for each queued proposal expiring at `now`, on the votes as they stand. -/
def expiringActions (runtime : Runtime σ Hash Proposal) (now : BlockNumber) (c : Chain σ AccountId Hash Proposal) :
    List (Action Proposal) :=
  (c.voting.proposals.takeWhile fun entry => entry.1 = now).filterMap fun entry =>
    (c.voting.proposalOf.lookup entry.2).bind fun proposal =>
      decision runtime c.activeCouncil c.voting.councilVoteOf proposal entry.2

/-- Democracy carrying the actions out in turn; the first referendum it fails
to start ends the run with its error. -/
def perform (runtime : Runtime σ Hash Proposal) : List (Action Proposal) → σ → Except String Unit × σ
  | [], others => (.ok (), others)
  | .cancelReferendum refIndex :: actions, others => perform runtime actions (runtime.cancelReferendum others refIndex)
  | .startReferendum proposal threshold :: actions, others =>
      match runtime.startReferendum others proposal threshold with
      | .error message => (.error message, others)
      | .ok others => perform runtime actions others

variable (runtime : Runtime σ Hash Proposal)

omit [LinearOrder AccountId] [DecidableEq Hash] in
/-- Performing two lists of actions performs the first, then, unless it failed, the second. -/
theorem perform_append (first rest : List (Action Proposal)) (others : σ) :
    perform runtime (first ++ rest) others =
      match perform runtime first others with
      | (.error message, others) => (.error message, others)
      | (.ok (), others) => perform runtime rest others := by
  induction first generalizing others with
  | nil => rfl
  | cons action first ih =>
      cases action with
      | cancelReferendum refIndex => exact ih _
      | startReferendum proposal threshold =>
          simp only [List.cons_append, perform]
          cases runtime.startReferendum others proposal threshold with
          | error message => rfl
          | ok next => exact ih next

/-- A decision reads only the votes on its own hash. -/
theorem decision_congr {council : List (AccountId × BlockNumber)} {votes votes' : AList fun _ : Hash × AccountId => Bool}
    {hash : Hash} (same : ∀ voter, votes'.lookup (hash, voter) = votes.lookup (hash, voter)) (proposal : Proposal) :
    decision runtime council votes' proposal hash = decision runtime council votes proposal hash := by
  have approvals : votesOf council votes' hash true = votesOf council votes hash true :=
    List.countP_congr fun member _ => by simp [same]
  simp only [decision, approvals]

namespace Chain

variable (c : Chain σ AccountId Hash Proposal)

/-- Deciding one proposal asks democracy for what its votes decide. -/
theorem decideProposal_spec (distinct : (c.activeCouncil.map Prod.fst).Nodup) (proposal : Proposal)
    (proposalHash : Hash) :
    ((c.decideProposal runtime proposal proposalHash).1, (c.decideProposal runtime proposal proposalHash).2.others) =
      perform runtime (decision runtime c.activeCouncil c.voting.councilVoteOf proposal proposalHash).toList c.others := by
  have counts := c.takeTally_fst distinct proposalHash
  rw [tally_eq] at counts
  have bound := votesOf_add_le c.activeCouncil c.voting.councilVoteOf proposalHash
  set approvals := votesOf c.activeCouncil c.voting.councilVoteOf proposalHash true
  set rejections := votesOf c.activeCouncil c.voting.councilVoteOf proposalHash false
  -- the source's tests on the tally, in terms of the members that approved
  have unanimous : rejections = 0 ∧ c.activeCouncil.length - approvals - rejections = 0 ↔
      approvals = c.activeCouncil.length := by omega
  have passes : approvals > rejections + (c.activeCouncil.length - approvals - rejections) ↔
      c.activeCouncil.length < 2 * approvals := by omega
  unfold decideProposal
  rcases tallied : c.takeTally proposalHash with ⟨tally, voting⟩
  rw [tallied] at counts
  dsimp only at counts
  subst counts
  dsimp only
  unfold decision
  dsimp only
  simp only [unanimous, passes]
  rcases runtime.cancelReferendumOf proposal with _ | refIndex
  · dsimp only
    by_cases more : c.activeCouncil.length < 2 * approvals
    · rw [if_pos more, if_pos more]
      simp only [withVoting_others, Option.toList_some, perform]
      cases runtime.startReferendum c.others proposal _ <;> rfl
    · rw [if_neg more, if_neg more]
      rfl
  · dsimp only
    split_ifs <;> rfl

/-- What deciding a proposal leaves of the votes: those `take_tally` left. -/
theorem decideProposal_votes (proposal : Proposal) (proposalHash : Hash) :
    (c.decideProposal runtime proposal proposalHash).2.voting.councilVoteOf = (c.takeTally proposalHash).2.councilVoteOf ∧
      (c.decideProposal runtime proposal proposalHash).2.activeCouncil = c.activeCouncil := by
  unfold decideProposal
  rcases c.takeTally proposalHash with ⟨tally, voting⟩
  dsimp only
  split
  · split_ifs <;> exact ⟨rfl, rfl⟩
  · by_cases passes : tally.1 > tally.2.1 + tally.2.2
    · rw [if_pos passes]
      split <;> exact ⟨rfl, rfl⟩
    · rw [if_neg passes]
      exact ⟨rfl, rfl⟩

end Chain

omit [LinearOrder AccountId] [DecidableEq Hash] in
/-- No proposal of a queue whose first proposal expires at another block
expires at `now` first. -/
theorem takeWhile_eq_nil {queue : List (BlockNumber × Hash)} {now : BlockNumber}
    (notExpiring : ∀ entry ∈ queue.head?, entry.1 ≠ now) : (queue.takeWhile fun entry => entry.1 = now) = [] := by
  cases queue with
  | nil => rfl
  | cons first rest => simpa using notExpiring first rfl

/-- A pass over a queue whose first proposal expires at `now` decides it, then
passes over the rest of the queue. -/
theorem expiringActions_of_front {c : Chain σ AccountId Hash Proposal} {now : BlockNumber} {proposal : Proposal}
    {hash : Hash} {rest : List (BlockNumber × Hash)} (front : c.voting.proposals = (now, hash) :: rest)
    (stored : c.voting.proposalOf.lookup hash = some proposal) :
    expiringActions runtime now c =
      (decision runtime c.activeCouncil c.voting.councilVoteOf proposal hash).toList ++
        expiringActions runtime now (c.withVoting fun s => { s with proposals := rest }) := by
  rw [expiringActions, front, List.takeWhile_cons_of_pos (by simp), List.filterMap_cons]
  simp only [stored, Option.bind_some]
  cases decision runtime c.activeCouncil c.voting.councilVoteOf proposal hash <;> rfl

/-- A pass reads the council, the queue, and of each queued hash the proposal
stored under it and the votes on it, nothing else. -/
theorem expiringActions_congr {c c' : Chain σ AccountId Hash Proposal} (now : BlockNumber)
    (queue : c'.voting.proposals = c.voting.proposals) (council : c'.activeCouncil = c.activeCouncil)
    (same : ∀ entry ∈ c.voting.proposals,
      c'.voting.proposalOf.lookup entry.2 = c.voting.proposalOf.lookup entry.2 ∧
        ∀ voter, c'.voting.councilVoteOf.lookup (entry.2, voter) = c.voting.councilVoteOf.lookup (entry.2, voter)) :
    expiringActions runtime now c' = expiringActions runtime now c := by
  rw [expiringActions, expiringActions, queue, council]
  apply List.filterMap_congr
  intro entry member
  obtain ⟨sameProposal, sameVotes⟩ := same entry ((List.takeWhile_sublist _).subset member)
  rw [sameProposal]
  congr 1
  funext proposal
  exact decision_congr runtime sameVotes proposal

/-- The loop of `end_block` over a consistent queue, with enough rounds and a
council that lists each member once, asks democracy for what a pass over the
proposals expiring at `now` decides. -/
theorem endBlockLoop_performs (now : BlockNumber) :
    ∀ (fuel : Nat) (c : Chain σ AccountId Hash Proposal), c.voting.Consistent →
      (c.activeCouncil.map Prod.fst).Nodup → c.voting.proposals.length ≤ fuel →
      ((Chain.endBlockLoop runtime now fuel c).1, (Chain.endBlockLoop runtime now fuel c).2.others) =
        perform runtime (expiringActions runtime now c) c.others
  | 0, c, _, _, short => by
      rw [Nat.le_zero, List.length_eq_zero_iff] at short
      simp [Chain.endBlockLoop, expiringActions, short, perform]
  | fuel + 1, c, consistent, members, short => by
      unfold Chain.endBlockLoop
      rcases c.takeProposalIfExpiringAt_of_consistent consistent now with
        ⟨notExpiring, unchanged⟩ | ⟨proposal, hash, rest, front, stored, took⟩
      · rw [unchanged]
        simp [expiringActions, takeWhile_eq_nil notExpiring, perform]
      · rw [took]
        dsimp only
        set dequeued := c.withVoting fun s => { s with proposals := rest, proposalOf := s.proposalOf.erase hash }
        have dequeuedConsistent : dequeued.voting.Consistent := consistent.dequeue front
        have spec : ((dequeued.decideProposal runtime proposal hash).1,
            (dequeued.decideProposal runtime proposal hash).2.others) =
            perform runtime (decision runtime c.activeCouncil c.voting.councilVoteOf proposal hash).toList c.others :=
          dequeued.decideProposal_spec runtime members proposal hash
        obtain ⟨sameQueue, sameStored, -⟩ := dequeued.decideProposal_frame runtime proposal hash
        obtain ⟨sameVotes, sameCouncil⟩ := dequeued.decideProposal_votes runtime proposal hash
        have decided := Chain.decideProposal_consistent runtime dequeuedConsistent proposal hash
        -- the rest of the queue holds other hashes than the one decided
        have others : ∀ entry ∈ rest, entry.2 ≠ hash := by
          have distinctHashes := consistent.distinct
          rw [front, List.map_cons, List.nodup_cons] at distinctHashes
          exact fun entry member same => distinctHashes.1 (List.mem_map.mpr ⟨entry, member, same⟩)
        -- the pass decides the first proposal, then the rest on the same votes
        rw [expiringActions_of_front runtime front stored, perform_append, ← spec]
        rcases result : dequeued.decideProposal runtime proposal hash with ⟨_ | ⟨⟩, next⟩
        · rfl
        · rw [result] at sameQueue sameStored sameVotes sameCouncil decided
          dsimp only
          have nextShort : next.voting.proposals.length ≤ fuel := by
            rw [sameQueue]
            simp only [dequeued, Chain.withVoting_voting, front, List.length_cons] at short ⊢
            omega
          rw [endBlockLoop_performs now fuel next decided (sameCouncil ▸ members) nextShort]
          congr 1
          -- the rest is decided on the votes and proposals the first decision left alone
          refine expiringActions_congr runtime now sameQueue sameCouncil fun entry member => ?_
          have differ := others entry member
          refine ⟨by rw [sameStored]; exact AList.lookup_erase_ne differ, fun voter => ?_⟩
          rw [sameVotes]
          exact dequeued.takeTally_lookup_ne differ voter

/-- On every chain a run reaches whose council lists each member once, the end
of a block asks democracy for what a plain pass over the proposals expiring at
the block decides: in the order of the queue, a referendum cancelled for each
cancellation the whole council approved, and one started for each other
proposal that more than half of the council approved, which only a
super-majority against can stop when the whole council approved; the first
referendum democracy fails to start ends the block's decisions. -/
theorem endBlock_performs_expiring {config : GenesisConfig} {c : Chain σ AccountId Hash Proposal}
    (reachable : Reachable runtime config c) (distinct : (c.activeCouncil.map Prod.fst).Nodup) (now : BlockNumber) :
    ((c.endBlock runtime now).1, (c.endBlock runtime now).2.others) =
      perform runtime (expiringActions runtime now c) c.others :=
  endBlockLoop_performs runtime now _ c reachable.consistent distinct le_rfl

/-- A proposal of councillor 1, approved by councillor 2 of three, at the end of
the block it expires at starts a referendum by simple majority. -/
theorem endBlock_performs_expiring_majority :
    ∃ c : Chain Unit Nat Nat Nat, Reachable openRuntime ⟨2, 1⟩ c ∧ (c.activeCouncil.map Prod.fst).Nodup ∧
      expiringActions openRuntime 2 c = [.startReferendum 7 .simpleMajority] ∧
      ((c.endBlock openRuntime 2).1, (c.endBlock openRuntime 2).2.others) =
        perform openRuntime (expiringActions openRuntime 2 c) c.others := by
  have reachable : Reachable openRuntime ⟨2, 1⟩ _ :=
    .tail (.tail (.genesis [(1, 10), (2, 10), (3, 10)] () 1) (.call _ (.propose 1 7))) (.call _ (.vote 2 7 true))
  have distinct : ([(1, 10), (2, 10), (3, 10)].map Prod.fst : List Nat).Nodup := by decide
  refine ⟨_, reachable, distinct, ?_, endBlock_performs_expiring openRuntime reachable distinct 2⟩
  simp [expiringActions, Chain.apply, Chain.propose, Chain.vote, Chain.withVoting, Chain.willStillBeCouncillorAt,
    Chain.isVetoed, GenesisConfig.buildStorage, openRuntime, decision, votesOf, Storage.proposalVotersOf]
  decide

/-! ## Vetoes -/

namespace Chain

variable (c : Chain σ AccountId Hash Proposal)

/-- `propose` refuses a proposal whose hash is vetoed. -/
theorem propose_of_isVetoed (aux : AccountId) (proposal : Proposal)
    (vetoed : c.isVetoed (runtime.hashOf proposal) = true) : (c.propose runtime aux proposal).1 ≠ .ok () := by
  unfold propose
  dsimp only
  -- the vetoed check refuses what the two before let through
  split_ifs <;> simp

/-- A veto that goes through bars the hash until the block plus the cooling-off
period, as `u64`s add. -/
theorem isVetoed_veto {aux : AccountId} {proposalHash : Hash} (vetoed : (c.veto aux proposalHash).1 = .ok ()) :
    (c.veto aux proposalHash).2.isVetoed proposalHash =
      decide (c.blockNumber < c.blockNumber + c.voting.cooloffPeriod) := by
  rcases c.veto_cases aux proposalHash with ⟨failed, -⟩ | ⟨-, position, -, voters, same, kept⟩
  · exact absurd vetoed failed
  · rw [same]
    simp only [isVetoed, withVoting_voting, withVoting_blockNumber, kept.vetoedProposal, AList.lookup_insert]
    rfl

/-- The first veto of a hash with voters goes through, and bars the hash for
the cooling-off period when the end of that period does not wrap. -/
theorem veto_first (aux : AccountId) (proposalHash : Hash) (councillor : c.isCouncillor aux = true)
    (voted : (c.voting.proposalVoters.lookup proposalHash).isNone = false)
    (unvetoed : c.voting.vetoedProposal.lookup proposalHash = none) (cooling : 0 < c.voting.cooloffPeriod)
    (fits : c.blockNumber.toNat + c.voting.cooloffPeriod.toNat < 2 ^ 64) :
    (c.veto aux proposalHash).1 = .ok () ∧ (c.veto aux proposalHash).2.isVetoed proposalHash = true := by
  have searched : binarySearch (((c.voting.vetoedProposal.lookup proposalHash).map fun veto => veto.2).getD []) aux =
      .error 0 := by
    rw [unvetoed]
    rfl
  have vetoed : (c.veto aux proposalHash).1 = .ok () := by
    unfold veto
    rw [if_neg (by simp [councillor]), if_neg (by simp [voted])]
    dsimp only
    rw [searched]
  refine ⟨vetoed, ?_⟩
  rw [c.isVetoed_veto vetoed, decide_eq_true_eq]
  bv_omega

end Chain

/-- `veto` takes the voters of a hash for the existence of its proposal, and
`vote` lists anybody's first vote on any hash: once anybody voted on a hash, a
councillor can veto it, whether or not anybody ever proposed it, and no
proposal with that hash can then be proposed during a cooling-off period that
does not wrap. -/
theorem veto_without_proposal (c : Chain σ AccountId Hash Proposal) {voter aux : AccountId} {proposalHash : Hash}
    (approve : Bool) (councillor : c.isCouncillor aux = true)
    (firstVote : c.voting.councilVoteOf.lookup (proposalHash, voter) = none)
    (unvetoed : c.voting.vetoedProposal.lookup proposalHash = none) (cooling : 0 < c.voting.cooloffPeriod)
    (fits : c.blockNumber.toNat + c.voting.cooloffPeriod.toNat < 2 ^ 64) :
    ((c.vote voter proposalHash approve).2.veto aux proposalHash).1 = .ok () ∧
      ∀ proposer proposal, runtime.hashOf proposal = proposalHash →
        (((c.vote voter proposalHash approve).2.veto aux proposalHash).2.propose runtime proposer proposal).1 ≠ .ok () := by
  have voted : ((c.vote voter proposalHash approve).2.voting.proposalVoters.lookup proposalHash).isNone = false := by
    simp [Chain.vote, Chain.withVoting, firstVote]
  have stillUnvetoed : (c.vote voter proposalHash approve).2.voting.vetoedProposal.lookup proposalHash = none := by
    rw [(c.vote_kept voter proposalHash approve).2.vetoedProposal]
    exact unvetoed
  -- a vote leaves the block number and the periods as they are
  have samePeriod : (c.vote voter proposalHash approve).2.voting.cooloffPeriod = c.voting.cooloffPeriod := by
    simp only [Chain.vote, Chain.withVoting]
    split_ifs <;> rfl
  have sameBlock : (c.vote voter proposalHash approve).2.blockNumber = c.blockNumber := rfl
  obtain ⟨vetoed, barred⟩ := (c.vote voter proposalHash approve).2.veto_first aux proposalHash councillor voted
    stillUnvetoed (samePeriod ▸ cooling) (by rw [samePeriod, sameBlock]; exact fits)
  refine ⟨vetoed, fun proposer proposal hashed => ?_⟩
  apply Chain.propose_of_isVetoed
  rw [hashed]
  exact barred

/-- Account 2 votes on hash 7, which nobody proposed; councillor 1 vetoes it,
and a proposal of 7 is refused. -/
theorem veto_without_proposal_unproposed :
    (⟨GenesisConfig.buildStorage ⟨2, 1⟩, [(1, 10)], (), 1⟩ : Chain Unit Nat Nat Nat).isCouncillor 1 = true ∧
      (⟨GenesisConfig.buildStorage ⟨2, 1⟩, [(1, 10)], (), 1⟩ : Chain Unit Nat Nat Nat).voting.councilVoteOf.lookup (7, 2) =
        none ∧
      (⟨GenesisConfig.buildStorage ⟨2, 1⟩, [(1, 10)], (), 1⟩ : Chain Unit Nat Nat Nat).voting.vetoedProposal.lookup 7 =
        none ∧
      0 < (⟨GenesisConfig.buildStorage ⟨2, 1⟩, [(1, 10)], (), 1⟩ : Chain Unit Nat Nat Nat).voting.cooloffPeriod ∧
      (⟨GenesisConfig.buildStorage ⟨2, 1⟩, [(1, 10)], (), 1⟩ : Chain Unit Nat Nat Nat).blockNumber.toNat +
          (⟨GenesisConfig.buildStorage ⟨2, 1⟩, [(1, 10)], (), 1⟩ : Chain Unit Nat Nat Nat).voting.cooloffPeriod.toNat <
        2 ^ 64 ∧
      (((⟨GenesisConfig.buildStorage ⟨2, 1⟩, [(1, 10)], (), 1⟩ : Chain Unit Nat Nat Nat).vote 2 7 true).2.veto 1 7).1 =
        .ok () ∧
      ∀ proposer proposal, openRuntime.hashOf proposal = 7 →
        ((((⟨GenesisConfig.buildStorage ⟨2, 1⟩, [(1, 10)], (), 1⟩ : Chain Unit Nat Nat Nat).vote 2 7 true).2.veto 1
          7).2.propose openRuntime proposer proposal).1 ≠ .ok () :=
  ⟨rfl, rfl, rfl, by decide, by decide, veto_without_proposal openRuntime _ true rfl rfl rfl (by decide) (by decide)⟩

/-! ## Expiries that wrap

Block numbers and periods are `u64`s, and their sums wrap: a voting period that
carries the block past `u64::MAX` queues a proposal to expire before its block,
and a cooling-off period that does gives a veto that bars nothing. -/

namespace Chain

variable (c : Chain σ AccountId Hash Proposal)

/-- The end of a block whose first queued proposal expires before it decides
nothing: `take_proposal_if_expiring_at` looks at the first proposal only, and
the next block begins. -/
theorem apply_endBlock_stalled {first : BlockNumber × Hash} {rest : List (BlockNumber × Hash)}
    (front : c.voting.proposals = first :: rest) (past : first.1 < c.blockNumber) :
    c.apply runtime .endBlock = (.ok (), { c with blockNumber := c.blockNumber + 1 }) := by
  have untaken : c.takeProposalIfExpiringAt c.blockNumber = (none, c) := by
    unfold takeProposalIfExpiringAt
    rw [front]
    exact if_neg (by bv_omega)
  simp only [apply, endBlock, front, List.length_cons, endBlockLoop, untaken]

/-- Block after block, the storage stays as it is while the first queued
proposal expires before the block and the block number does not wrap. -/
theorem endBlocks_stalled {first : BlockNumber × Hash} {rest : List (BlockNumber × Hash)}
    (front : c.voting.proposals = first :: rest) (past : first.1 < c.blockNumber) :
    ∀ blocks, c.blockNumber.toNat + blocks < 2 ^ 64 →
      ((fun c => (c.apply runtime .endBlock).2)^[blocks] c).voting = c.voting ∧
        ((fun c => (c.apply runtime .endBlock).2)^[blocks] c).blockNumber.toNat = c.blockNumber.toNat + blocks
  | 0, _ => ⟨rfl, rfl⟩
  | blocks + 1, fits => by
      obtain ⟨sameVoting, counted⟩ := endBlocks_stalled front past blocks (by omega)
      set reached := (fun c : Chain σ AccountId Hash Proposal => (c.apply runtime .endBlock).2)^[blocks] c
      have stalled := reached.apply_endBlock_stalled runtime (sameVoting ▸ front) (by bv_omega)
      rw [Function.iterate_succ_apply', stalled]
      refine ⟨sameVoting, ?_⟩
      show (reached.blockNumber + 1).toNat = c.blockNumber.toNat + (blocks + 1)
      bv_omega

/-- A veto leaves the voting period as it is. -/
theorem votingPeriod_veto (aux : AccountId) (proposalHash : Hash) :
    (c.veto aux proposalHash).2.voting.votingPeriod = c.voting.votingPeriod := by
  have erased : ∀ (council : List (AccountId × BlockNumber)) (s : Storage AccountId Hash Proposal),
      (council.foldl (fun s member => { s with councilVoteOf := s.councilVoteOf.erase (proposalHash, member.1) })
        s).votingPeriod = s.votingPeriod := by
    intro council
    induction council with
    | nil => exact fun _ => rfl
    | cons member council erasedRest => exact fun s => erasedRest _
  unfold veto
  dsimp only
  split_ifs
  · rfl
  · rfl
  · split
    · rfl
    · exact erased _ _

end Chain

/-- A proposal whose expiry wraps past `u64::MAX` stalls the queue: it is queued
to expire before its block, ahead of every other proposal, and no end of a
block decides any proposal until the block number wraps in its turn. -/
theorem wrapped_proposal_stalls_queue (c : Chain σ AccountId Hash Proposal) (aux : AccountId) (proposal : Proposal)
    (wraps : 2 ^ 64 ≤ c.blockNumber.toNat + c.voting.votingPeriod.toNat)
    (proposed : (c.propose runtime aux proposal).1 = .ok ()) (blocks : Nat)
    (before : c.blockNumber.toNat + blocks < 2 ^ 64) :
    runtime.hashOf proposal ∈ (c.propose runtime aux proposal).2.voting.proposals.map Prod.snd ∧
      ((fun c => (c.apply runtime .endBlock).2)^[blocks] (c.propose runtime aux proposal).2).voting =
        (c.propose runtime aux proposal).2.voting := by
  rcases c.propose_cases runtime aux proposal with ⟨failed, -⟩ | ⟨-, -, queued⟩
  · exact absurd proposed failed
  have early : c.blockNumber + c.voting.votingPeriod < c.blockNumber := by bv_omega
  set expiry := c.blockNumber + c.voting.votingPeriod
  have queue := (c.voting.proposals ++ [(expiry, runtime.hashOf proposal)]).mergeSort_perm
    fun first second => decide (first.1 ≤ second.1)
  have member : (expiry, runtime.hashOf proposal) ∈ (c.propose runtime aux proposal).2.voting.proposals := by
    rw [queued, Chain.withVoting_voting, queue.mem_iff]
    simp
  refine ⟨List.mem_map_of_mem member, ?_⟩
  -- the first proposal of the sorted queue expires no later than the wrapped one
  obtain ⟨first, rest, front⟩ := List.exists_cons_of_ne_nil (List.ne_nil_of_mem member)
  have firstEarly : first.1 ≤ expiry := by
    rw [front] at member
    rcases List.mem_cons.mp member with same | inRest
    · rw [← same]
      exact BitVec.le_refl _
    · have sorted : (c.propose runtime aux proposal).2.voting.proposals.Pairwise
          (fun first second => first.1 ≤ second.1) := by
        rw [queued]
        exact Storage.pairwise_mergeSort_expiry _
      rw [front] at sorted
      exact List.rel_of_pairwise_cons sorted inRest
  have sameBlock : (c.propose runtime aux proposal).2.blockNumber = c.blockNumber := by
    rw [queued, Chain.withVoting_blockNumber]
  have past : first.1 < (c.propose runtime aux proposal).2.blockNumber := by
    rw [sameBlock]
    bv_omega
  exact ((c.propose runtime aux proposal).2.endBlocks_stalled runtime front past blocks (by rw [sameBlock]; exact before)).1

/-- With the voting period set to `u64::MAX` at block 5, a proposal of
councillor 1 is queued to expire at block 4, and the next three ends of blocks
decide nothing. -/
theorem wrapped_proposal_stalls_queue_at_max :
    ∃ c : Chain Unit Nat Nat Nat, Reachable openRuntime ⟨2, 2⟩ c ∧ c.voting.votingPeriod = BitVec.allOnes 64 ∧
      2 ^ 64 ≤ c.blockNumber.toNat + c.voting.votingPeriod.toNat ∧ (c.propose openRuntime 1 7).1 = .ok () ∧
      c.blockNumber.toNat + 3 < 2 ^ 64 ∧
      openRuntime.hashOf 7 ∈ (c.propose openRuntime 1 7).2.voting.proposals.map Prod.snd ∧
      ((fun c => (c.apply openRuntime .endBlock).2)^[3] (c.propose openRuntime 1 7).2).voting =
        (c.propose openRuntime 1 7).2.voting := by
  have reachable : Reachable openRuntime ⟨2, 2⟩ _ :=
    .tail (.genesis [(1, 10)] () 5) (.call _ (.setVotingPeriod (BitVec.allOnes 64)))
  have wraps : 2 ^ 64 ≤ (5 : BlockNumber).toNat + (BitVec.allOnes 64).toNat := by decide
  exact ⟨_, reachable, rfl, wraps, rfl, by decide, wrapped_proposal_stalls_queue openRuntime _ 1 7 wraps rfl 3 (by decide)⟩

/-- A veto whose cooling-off period carries the block past `u64::MAX` goes
through and bars nothing: its hash is not vetoed, and a councillor whose seat
outlasts the voting period can propose the hash again at once. -/
theorem veto_wrapped_bars_nothing (c : Chain σ AccountId Hash Proposal) {aux proposer : AccountId}
    (proposal : Proposal) (wraps : 2 ^ 64 ≤ c.blockNumber.toNat + c.voting.cooloffPeriod.toNat)
    (vetoed : (c.veto aux (runtime.hashOf proposal)).1 = .ok ())
    (seated : c.willStillBeCouncillorAt proposer (c.blockNumber + c.voting.votingPeriod) = true) :
    (c.veto aux (runtime.hashOf proposal)).2.isVetoed (runtime.hashOf proposal) = false ∧
      ((c.veto aux (runtime.hashOf proposal)).2.propose runtime proposer proposal).1 = .ok () := by
  have unbarred : (c.veto aux (runtime.hashOf proposal)).2.isVetoed (runtime.hashOf proposal) = false := by
    rw [c.isVetoed_veto vetoed, decide_eq_false_iff_not]
    bv_omega
  rcases c.veto_cases aux (runtime.hashOf proposal) with ⟨failed, -⟩ | ⟨-, position, -, voters, same, kept⟩
  · exact absurd vetoed failed
  -- the veto removed the stored proposal and left the council, the block and the period
  have unstored : ((c.veto aux (runtime.hashOf proposal)).2.voting.proposalOf.lookup (runtime.hashOf proposal)).isSome =
      false := by
    rw [kept.proposalOf, AList.lookup_erase]
    rfl
  have stillSeated : (c.veto aux (runtime.hashOf proposal)).2.willStillBeCouncillorAt proposer
      ((c.veto aux (runtime.hashOf proposal)).2.blockNumber +
        (c.veto aux (runtime.hashOf proposal)).2.voting.votingPeriod) = true := by
    rw [c.votingPeriod_veto, same]
    exact seated
  refine ⟨unbarred, ?_⟩
  unfold Chain.propose
  dsimp only
  rw [if_neg (by simp [stillSeated]), if_neg (by simp [unstored]), if_neg (by simp [unbarred])]

/-- With the cooling-off period set to `u64::MAX` at block 5, councillor 1
vetoes hash 7, which account 2 voted on, and may propose 7 again at once. -/
theorem veto_wrapped_bars_nothing_at_max :
    ∃ c : Chain Unit Nat Nat Nat, Reachable openRuntime ⟨2, 2⟩ c ∧ c.voting.cooloffPeriod = BitVec.allOnes 64 ∧
      2 ^ 64 ≤ c.blockNumber.toNat + c.voting.cooloffPeriod.toNat ∧ (c.veto 1 (openRuntime.hashOf 7)).1 = .ok () ∧
      c.willStillBeCouncillorAt 1 (c.blockNumber + c.voting.votingPeriod) = true ∧
      (c.veto 1 (openRuntime.hashOf 7)).2.isVetoed (openRuntime.hashOf 7) = false ∧
      ((c.veto 1 (openRuntime.hashOf 7)).2.propose openRuntime 1 7).1 = .ok () := by
  have reachable : Reachable openRuntime ⟨2, 2⟩ _ :=
    .tail (.tail (.genesis [(1, 10)] () 5) (.call _ (.setCooloffPeriod (BitVec.allOnes 64)))) (.call _ (.vote 2 7 true))
  have wraps : 2 ^ 64 ≤ (5 : BlockNumber).toNat + (BitVec.allOnes 64).toNat := by decide
  exact ⟨_, reachable, rfl, wraps, rfl, rfl, veto_wrapped_bars_nothing openRuntime _ 7 wraps rfl rfl⟩

end Voting
end Council
end Polkadot
