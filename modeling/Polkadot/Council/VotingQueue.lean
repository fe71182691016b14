import Polkadot.Council.Voting

/-!
# The queue of council proposals over runs

Every chain a run reaches keeps its queue of proposals consistent
(`Storage.Consistent`).  The queue is sorted by expiry and holds no hash twice.
A hash is queued exactly when its proposal is stored, as the "defensive only"
comment of `take_proposal_if_expiring_at` takes for granted.  And every list of
vetoers goes up strictly, as `binary_search` over it needs.  `vote` and the
setters leave the queue alone (`QueueKept`); `propose` sorts a fresh hash in;
`veto` filters one out and inserts the vetoer where the search says; and each
round of the loop of `end_block` takes the first proposal off, and leaves the
queue alone while it decides it.

When democracy starts every referendum it is asked to and no proposal's expiry
wraps past `u64::MAX` (`ReachableUnwrapped`), no queued proposal expires before
the current block (`Chain.Live`), so each is decided at the end of the block it
expires at: the loop of `end_block` stops only at a proposal of a later block.
-/

namespace Polkadot
namespace Council
namespace Voting

open Foundations (binarySearch)

variable {σ AccountId Hash Proposal : Type}

namespace Storage

/-- What the queue is made of stays: the queued proposals, the stored ones and
the vetoes. -/
structure QueueKept (s s' : Storage AccountId Hash Proposal) : Prop where
  proposals : s'.proposals = s.proposals
  proposalOf : s'.proposalOf = s.proposalOf
  vetoedProposal : s'.vetoedProposal = s.vetoedProposal

variable {s s' s'' : Storage AccountId Hash Proposal}

/-- Storage keeps its own queue. -/
theorem QueueKept.refl (s : Storage AccountId Hash Proposal) : QueueKept s s := ⟨rfl, rfl, rfl⟩

/-- Keeping the queue is transitive. -/
theorem QueueKept.trans (first : QueueKept s s') (second : QueueKept s' s'') : QueueKept s s'' :=
  ⟨second.proposals.trans first.proposals, second.proposalOf.trans first.proposalOf,
    second.vetoedProposal.trans first.vetoedProposal⟩

/-- A fold whose every step keeps the queue keeps it. -/
theorem queueKept_foldl {α : Type} (f : Storage AccountId Hash Proposal → α → Storage AccountId Hash Proposal)
    (keeps : ∀ s item, QueueKept s (f s item)) : ∀ (items : List α) (s : Storage AccountId Hash Proposal),
    QueueKept s (items.foldl f s)
  | [], s => QueueKept.refl s
  | item :: items, s => (keeps s item).trans (queueKept_foldl f keeps items (f s item))

/-- `sort_by_key` on the expiries sorts by expiry. -/
theorem pairwise_mergeSort_expiry (queue : List (BlockNumber × Hash)) :
    (queue.mergeSort fun first second => decide (first.1 ≤ second.1)).Pairwise
      (fun first second => first.1 ≤ second.1) := by
  have sorted := @List.pairwise_mergeSort _ (fun first second : BlockNumber × Hash => decide (first.1 ≤ second.1))
    (fun _ _ _ first second => by simp only [decide_eq_true_eq] at *; bv_omega)
    (fun first second => by simpa using BitVec.le_total first.1 second.1) queue
  exact sorted.imp fun below => of_decide_eq_true below

variable [LinearOrder AccountId] [DecidableEq Hash]

/-- The queue as `take_proposal_if_expiring_at` and `binary_search` need it. -/
structure Consistent (s : Storage AccountId Hash Proposal) : Prop where
  sorted : s.proposals.Pairwise fun first second => first.1 ≤ second.1
  distinct : (s.proposals.map Prod.snd).Nodup
  queued : ∀ hash, hash ∈ s.proposals.map Prod.snd ↔ hash ∈ s.proposalOf
  vetoers : ∀ hash veto, s.vetoedProposal.lookup hash = some veto → veto.2.Pairwise (· < ·)

/-- Storage that keeps the queue stays consistent. -/
theorem Consistent.kept (consistent : s.Consistent) (kept : QueueKept s s') : s'.Consistent where
  sorted := kept.proposals ▸ consistent.sorted
  distinct := kept.proposals ▸ consistent.distinct
  queued := kept.proposals ▸ kept.proposalOf ▸ consistent.queued
  vetoers := kept.vetoedProposal ▸ consistent.vetoers

/-- The genesis storage is consistent. -/
theorem consistent_buildStorage (config : GenesisConfig) :
    (config.buildStorage : Storage AccountId Hash Proposal).Consistent where
  sorted := List.Pairwise.nil
  distinct := List.nodup_nil
  queued hash := by simp [GenesisConfig.buildStorage]
  vetoers hash veto := by simp [GenesisConfig.buildStorage]

/-- Queuing a hash that is not stored, sorted in by expiry. -/
theorem Consistent.enqueue (consistent : s.Consistent) {expiry : BlockNumber} {hash : Hash} {proposal : Proposal}
    (fresh : s.proposalOf.lookup hash = none) (voters : AList fun _ : Hash => List AccountId)
    (votes : AList fun _ : Hash × AccountId => Bool) :
    Consistent { s with
      proposals := (s.proposals ++ [(expiry, hash)]).mergeSort fun first second => decide (first.1 ≤ second.1)
      proposalOf := s.proposalOf.insert hash proposal
      proposalVoters := voters
      councilVoteOf := votes } := by
  have perm := (s.proposals ++ [(expiry, hash)]).mergeSort_perm fun first second => decide (first.1 ≤ second.1)
  have unqueued : hash ∉ s.proposals.map Prod.snd := fun queued =>
    AList.lookup_eq_none.mp fresh ((consistent.queued hash).mp queued)
  refine ⟨?_, ?_, fun other => ?_, consistent.vetoers⟩
  · exact pairwise_mergeSort_expiry _
  · rw [(perm.map Prod.snd).nodup_iff, List.map_append, List.nodup_append]
    refine ⟨consistent.distinct, List.nodup_singleton _, fun queuedHash member other single => ?_⟩
    rw [List.map_singleton, List.mem_singleton] at single
    subst single
    rintro rfl
    exact unqueued member
  · rw [(perm.map Prod.snd).mem_iff, AList.mem_insert, ← consistent.queued]
    simp [or_comm]

/-- A veto that inserts the vetoer where the search of a sorted list says,
and takes the hash out of the queue and the stored proposals. -/
theorem Consistent.veto (consistent : s.Consistent) {hash : Hash} {expiry : BlockNumber} {position : Nat} {aux : AccountId}
    (missing : binarySearch (((s.vetoedProposal.lookup hash).map fun veto => veto.2).getD []) aux = .error position)
    (voters : AList fun _ : Hash => List AccountId) :
    Consistent { s with
      vetoedProposal := s.vetoedProposal.insert hash
        (expiry, (((s.vetoedProposal.lookup hash).map fun veto => veto.2).getD []).insertIdx position aux)
      proposals := s.proposals.filter fun entry => entry.2 ≠ hash
      proposalVoters := voters
      proposalOf := s.proposalOf.erase hash } := by
  refine ⟨consistent.sorted.filter _, (consistent.distinct.sublist ?_), fun other => ?_, fun other veto found => ?_⟩
  · exact (List.filter_sublist).map Prod.snd
  · rw [AList.mem_erase, ← consistent.queued]
    simp only [List.mem_map, List.mem_filter, decide_eq_true_eq]
    constructor
    · rintro ⟨entry, ⟨member, other⟩, rfl⟩
      exact ⟨other, entry, member, rfl⟩
    · rintro ⟨other, entry, member, rfl⟩
      exact ⟨entry, ⟨member, other⟩, rfl⟩
  · by_cases same : other = hash
    · subst same
      rw [AList.lookup_insert, Option.some.injEq] at found
      subst found
      -- the earlier vetoers were sorted, so the search put the vetoer in its place
      have sorted : (((s.vetoedProposal.lookup other).map fun veto => veto.2).getD []).Pairwise (· < ·) := by
        cases stored : s.vetoedProposal.lookup other with
        | none => exact List.Pairwise.nil
        | some veto => exact consistent.vetoers other veto stored
      exact Foundations.sorted_insertIdx_of_binarySearch sorted missing
    · rw [AList.lookup_insert_ne same] at found
      exact consistent.vetoers other veto found

/-- Taking the first proposal off the queue with its stored proposal. -/
theorem Consistent.dequeue (consistent : s.Consistent) {expiry : BlockNumber} {hash : Hash}
    {rest : List (BlockNumber × Hash)} (front : s.proposals = (expiry, hash) :: rest) :
    Consistent { s with proposals := rest, proposalOf := s.proposalOf.erase hash } := by
  have distinct := consistent.distinct
  rw [front, List.map_cons, List.nodup_cons] at distinct
  refine ⟨?_, distinct.2, fun other => ?_, consistent.vetoers⟩
  · have sorted := consistent.sorted
    rw [front] at sorted
    exact sorted.of_cons
  · rw [AList.mem_erase, ← consistent.queued, front, List.map_cons, List.mem_cons]
    constructor
    · intro queued
      exact ⟨fun same => distinct.1 (same ▸ queued), .inr queued⟩
    · rintro ⟨other, same | queued⟩
      · exact absurd same other
      · exact queued

/-- Erasing the veto of a hash keeps the storage consistent. -/
theorem Consistent.eraseVeto (consistent : s.Consistent) (hash : Hash) :
    Consistent { s with vetoedProposal := s.vetoedProposal.erase hash } := by
  refine ⟨consistent.sorted, consistent.distinct, consistent.queued, fun other veto found => ?_⟩
  by_cases same : other = hash
  · subst same
    simp at found
  · rw [AList.lookup_erase_ne same] at found
    exact consistent.vetoers other veto found

end Storage

open Storage (Consistent QueueKept)

/-- What every read of `voteOf` keeps, `generic_tally` keeps. -/
theorem genericTally_induction {τ : Type} (P : τ → Prop) (council : List (AccountId × BlockNumber))
    (voteOf : τ → AccountId → Option Bool × τ) (keeps : ∀ state voter, P state → P (voteOf state voter).2)
    {state : τ} (start : P state) : P (genericTally council voteOf state).2 := by
  unfold genericTally
  dsimp only
  -- the fold carries the votes read so far and the state
  have folded : ∀ (members : List (AccountId × BlockNumber)) (read : List Bool × τ), P read.2 →
      P (members.foldl (fun (read : List Bool × τ) member =>
        ((read.1 ++ (voteOf read.2 member.1).1.toList), (voteOf read.2 member.1).2)) read).2 := by
    intro members
    induction members with
    | nil => exact fun _ holds => holds
    | cons member members ih => exact fun read holds => ih _ (keeps read.2 member.1 holds)
  exact folded council ([], state) start

namespace Chain

variable (c : Chain σ AccountId Hash Proposal)

/-- `withVoting` writes the voting storage. -/
@[simp] theorem withVoting_voting (f : Storage AccountId Hash Proposal → Storage AccountId Hash Proposal) :
    (c.withVoting f).voting = f c.voting := rfl

/-- `withVoting` keeps the active council. -/
@[simp] theorem withVoting_activeCouncil (f : Storage AccountId Hash Proposal → Storage AccountId Hash Proposal) :
    (c.withVoting f).activeCouncil = c.activeCouncil := rfl

/-- `withVoting` keeps the other modules. -/
@[simp] theorem withVoting_others (f : Storage AccountId Hash Proposal → Storage AccountId Hash Proposal) :
    (c.withVoting f).others = c.others := rfl

/-- `withVoting` keeps the block number. -/
@[simp] theorem withVoting_blockNumber (f : Storage AccountId Hash Proposal → Storage AccountId Hash Proposal) :
    (c.withVoting f).blockNumber = c.blockNumber := rfl

variable [LinearOrder AccountId] [DecidableEq Hash] (runtime : Runtime σ Hash Proposal)

/-- `take_tally` keeps the queue. -/
theorem takeTally_kept (proposalHash : Hash) : QueueKept c.voting (c.takeTally proposalHash).2 :=
  genericTally_induction (QueueKept c.voting) c.activeCouncil _
    (fun _ _ kept => kept.trans ⟨rfl, rfl, rfl⟩) (QueueKept.refl c.voting)

/-- `vote` changes only the voting storage, and keeps the queue. -/
theorem vote_kept (aux : AccountId) (proposal : Hash) (approve : Bool) :
    (c.vote aux proposal approve).2 = c.withVoting (fun _ => (c.vote aux proposal approve).2.voting) ∧
      QueueKept c.voting (c.vote aux proposal approve).2.voting := by
  refine ⟨rfl, ?_⟩
  unfold vote
  dsimp only [withVoting]
  split_ifs <;> exact ⟨rfl, rfl, rfl⟩

/-- `propose` fails and changes nothing, or goes through and queues the hash of
a proposal that was not stored. -/
theorem propose_cases (aux : AccountId) (proposal : Proposal) :
    (c.propose runtime aux proposal).1 ≠ .ok () ∧ (c.propose runtime aux proposal).2 = c ∨
      (c.propose runtime aux proposal).1 = .ok () ∧ c.voting.proposalOf.lookup (runtime.hashOf proposal) = none ∧
        (c.propose runtime aux proposal).2 = c.withVoting fun s =>
          { s with
            proposals := (s.proposals ++ [(c.blockNumber + s.votingPeriod, runtime.hashOf proposal)]).mergeSort
              fun first second => decide (first.1 ≤ second.1)
            proposalOf := s.proposalOf.insert (runtime.hashOf proposal) proposal
            proposalVoters := s.proposalVoters.insert (runtime.hashOf proposal) [aux]
            councilVoteOf := s.councilVoteOf.insert (runtime.hashOf proposal, aux) true } := by
  unfold propose
  dsimp only
  split_ifs with outgoing duplicate vetoed
  · exact .inl ⟨nofun, rfl⟩
  · exact .inl ⟨nofun, rfl⟩
  · exact .inl ⟨nofun, rfl⟩
  · exact .inr ⟨rfl, Option.not_isSome_iff_eq_none.mp duplicate, rfl⟩

/-- `veto` fails and changes nothing, or vetoes a hash: the vetoer goes where the search
of the earlier vetoers says, the hash leaves the queue and the stored
proposals, and only the voters and votes change besides. -/
theorem veto_cases (aux : AccountId) (proposalHash : Hash) :
    (c.veto aux proposalHash).1 ≠ .ok () ∧ (c.veto aux proposalHash).2 = c ∨
      (c.veto aux proposalHash).1 = .ok () ∧ ∃ position, binarySearch (((c.voting.vetoedProposal.lookup proposalHash).map fun veto => veto.2).getD []) aux =
          .error position ∧
        ∃ voters, (c.veto aux proposalHash).2 = c.withVoting (fun _ => (c.veto aux proposalHash).2.voting) ∧
          QueueKept { c.voting with
            vetoedProposal := c.voting.vetoedProposal.insert proposalHash
              (c.blockNumber + c.voting.cooloffPeriod,
                (((c.voting.vetoedProposal.lookup proposalHash).map fun veto => veto.2).getD []).insertIdx position aux)
            proposals := c.voting.proposals.filter fun entry => entry.2 ≠ proposalHash
            proposalVoters := voters
            proposalOf := c.voting.proposalOf.erase proposalHash } (c.veto aux proposalHash).2.voting := by
  unfold veto
  dsimp only
  split_ifs with outsider unknown
  · exact .inl ⟨nofun, rfl⟩
  · exact .inl ⟨nofun, rfl⟩
  · split
    · exact .inl ⟨nofun, rfl⟩
    · rename_i position missing
      exact .inr ⟨rfl, position, missing, _, rfl,
        Storage.queueKept_foldl (fun s member => { s with councilVoteOf := s.councilVoteOf.erase (proposalHash, member.1) })
          (fun _ _ => ⟨rfl, rfl, rfl⟩) c.activeCouncil _⟩

omit [LinearOrder AccountId] in
/-- What `take_proposal_if_expiring_at` does: nothing, when the first queued
proposal does not expire at `n`; drop a queued hash with no stored proposal;
or take the first proposal off the queue with its stored proposal. -/
theorem takeProposalIfExpiringAt_cases (n : BlockNumber) :
    ((∀ entry ∈ c.voting.proposals.head?, entry.1 ≠ n) ∧ c.takeProposalIfExpiringAt n = (none, c)) ∨
    (∃ hash rest, c.voting.proposals = (n, hash) :: rest ∧ c.voting.proposalOf.lookup hash = none ∧
      c.takeProposalIfExpiringAt n = (none, c.withVoting fun s => { s with proposals := rest })) ∨
    ∃ proposal hash rest, c.voting.proposals = (n, hash) :: rest ∧ c.voting.proposalOf.lookup hash = some proposal ∧
      c.takeProposalIfExpiringAt n =
        (some (proposal, hash), c.withVoting fun s => { s with proposals := rest, proposalOf := s.proposalOf.erase hash })
  := by
  unfold takeProposalIfExpiringAt
  cases queue : c.voting.proposals with
  | nil => exact .inl ⟨by simp, rfl⟩
  | cons first rest =>
      obtain ⟨expiry, hash⟩ := first
      dsimp only
      split_ifs with expiring
      · subst expiring
        cases stored : c.voting.proposalOf.lookup hash with
        | none => exact .inr (.inl ⟨hash, rest, rfl, stored, by simp [withVoting, stored]⟩)
        | some proposal => exact .inr (.inr ⟨proposal, hash, rest, rfl, stored, by simp [withVoting, stored]⟩)
      · exact .inl ⟨by simpa using expiring, rfl⟩

/-- On a consistent queue the defensive case never happens: a queued hash has
its proposal. -/
theorem takeProposalIfExpiringAt_of_consistent (consistent : c.voting.Consistent) (n : BlockNumber) :
    ((∀ entry ∈ c.voting.proposals.head?, entry.1 ≠ n) ∧ c.takeProposalIfExpiringAt n = (none, c)) ∨
    ∃ proposal hash rest, c.voting.proposals = (n, hash) :: rest ∧ c.voting.proposalOf.lookup hash = some proposal ∧
      c.takeProposalIfExpiringAt n =
        (some (proposal, hash), c.withVoting fun s => { s with proposals := rest, proposalOf := s.proposalOf.erase hash })
  := by
  rcases c.takeProposalIfExpiringAt_cases n with unchanged | ⟨hash, rest, front, missing, -⟩ | taken
  · exact .inl unchanged
  · have queued : hash ∈ c.voting.proposals.map Prod.snd := by simp [front]
    exact absurd ((consistent.queued hash).mp queued) (AList.lookup_eq_none.mp missing)
  · exact .inr taken

/-- Deciding a proposal leaves the queue and the stored proposals alone, and at
most removes the proposal's veto. -/
theorem decideProposal_frame (proposal : Proposal) (proposalHash : Hash) :
    (c.decideProposal runtime proposal proposalHash).2.voting.proposals = c.voting.proposals ∧
      (c.decideProposal runtime proposal proposalHash).2.voting.proposalOf = c.voting.proposalOf ∧
      ((c.decideProposal runtime proposal proposalHash).2.voting.vetoedProposal = c.voting.vetoedProposal ∨
        (c.decideProposal runtime proposal proposalHash).2.voting.vetoedProposal =
          c.voting.vetoedProposal.erase proposalHash) ∧
      (c.decideProposal runtime proposal proposalHash).2.activeCouncil = c.activeCouncil ∧
      (c.decideProposal runtime proposal proposalHash).2.blockNumber = c.blockNumber := by
  have kept := c.takeTally_kept proposalHash
  unfold decideProposal
  rcases tallied : c.takeTally proposalHash with ⟨tally, voting⟩
  rw [tallied] at kept
  obtain ⟨sameQueue, sameStored, sameVetoes⟩ := kept
  dsimp only at sameQueue sameStored sameVetoes ⊢
  split
  · split_ifs
    · exact ⟨sameQueue, sameStored, .inl sameVetoes, rfl, rfl⟩
    · exact ⟨sameQueue, sameStored, .inl sameVetoes, rfl, rfl⟩
  · by_cases passes : tally.1 > tally.2.1 + tally.2.2
    · -- the veto goes, whether or not the referendum starts
      rw [if_pos passes]
      split
      · exact ⟨sameQueue, sameStored, .inr (by simp [withVoting, sameVetoes]), rfl, rfl⟩
      · exact ⟨sameQueue, sameStored, .inr (by simp [withVoting, sameVetoes]), rfl, rfl⟩
    · rw [if_neg passes]
      exact ⟨sameQueue, sameStored, .inl sameVetoes, rfl, rfl⟩

/-- Deciding a proposal keeps the storage consistent. -/
theorem decideProposal_consistent {c : Chain σ AccountId Hash Proposal} (consistent : c.voting.Consistent)
    (proposal : Proposal) (proposalHash : Hash) : (c.decideProposal runtime proposal proposalHash).2.voting.Consistent := by
  obtain ⟨sameQueue, sameStored, vetoes, -⟩ := c.decideProposal_frame runtime proposal proposalHash
  rcases vetoes with sameVetoes | erased
  · exact consistent.kept ⟨sameQueue, sameStored, sameVetoes⟩
  · exact (consistent.eraseVeto proposalHash).kept ⟨sameQueue, sameStored, erased⟩

variable {runtime}

section Starts

variable (starts : ∀ others proposal threshold, ∃ next, runtime.startReferendum others proposal threshold = .ok next)
include starts

/-- When democracy starts every referendum it is asked to, deciding a proposal
goes well. -/
theorem decideProposal_ok (c : Chain σ AccountId Hash Proposal) (proposal : Proposal) (proposalHash : Hash) :
    (c.decideProposal runtime proposal proposalHash).1 = .ok () := by
  unfold decideProposal
  dsimp only
  split
  · split_ifs <;> rfl
  · split_ifs with passes unanimous
    · obtain ⟨next, started⟩ := starts c.others proposal .superMajorityAgainst
      simp [withVoting, started]
    · obtain ⟨next, started⟩ := starts c.others proposal .simpleMajority
      simp [withVoting, started]
    · rfl

/-- When democracy starts every referendum it is asked to, the loop of
`end_block` ends well. -/
theorem endBlockLoop_ok (now : BlockNumber) :
    ∀ (fuel : Nat) (c : Chain σ AccountId Hash Proposal), (endBlockLoop runtime now fuel c).1 = .ok ()
  | 0, c => rfl
  | fuel + 1, c => by
      unfold endBlockLoop
      split
      · rfl
      · rename_i proposal proposalHash dequeued _
        have decided := decideProposal_ok starts dequeued proposal proposalHash
        split
        · rename_i message _ result
          rw [result] at decided
          cases decided
        · exact endBlockLoop_ok now fuel _

end Starts

/-- The loop of `end_block` keeps the queue consistent, and leaves the council
and the block number alone. -/
theorem endBlockLoop_consistent (now : BlockNumber) :
    ∀ (fuel : Nat) (c : Chain σ AccountId Hash Proposal), c.voting.Consistent →
      (endBlockLoop runtime now fuel c).2.voting.Consistent ∧
        (endBlockLoop runtime now fuel c).2.activeCouncil = c.activeCouncil ∧
        (endBlockLoop runtime now fuel c).2.blockNumber = c.blockNumber
  | 0, c, consistent => ⟨consistent, rfl, rfl⟩
  | fuel + 1, c, consistent => by
      unfold endBlockLoop
      rcases c.takeProposalIfExpiringAt_of_consistent consistent now with
        ⟨-, unchanged⟩ | ⟨proposal, hash, rest, front, -, took⟩
      · rw [unchanged]
        exact ⟨consistent, rfl, rfl⟩
      · rw [took]
        dsimp only
        set dequeued := c.withVoting fun s => { s with proposals := rest, proposalOf := s.proposalOf.erase hash }
        have dequeuedConsistent : dequeued.voting.Consistent := consistent.dequeue front
        obtain ⟨-, -, -, sameCouncil, sameBlock⟩ := dequeued.decideProposal_frame runtime proposal hash
        have decided := decideProposal_consistent runtime dequeuedConsistent proposal hash
        -- the decision either ends the loop or goes on to the next round
        split
        · rename_i message next result
          rw [result] at decided sameCouncil sameBlock
          exact ⟨decided, sameCouncil, sameBlock⟩
        · rename_i next result
          rw [result] at decided sameCouncil sameBlock
          obtain ⟨later, laterCouncil, laterBlock⟩ := endBlockLoop_consistent now fuel next decided
          exact ⟨later, laterCouncil.trans sameCouncil, laterBlock.trans sameBlock⟩

/-- Every call keeps the queue consistent. -/
theorem apply_consistent (consistent : c.voting.Consistent) (call : Call AccountId Hash Proposal) :
    (c.apply runtime call).2.voting.Consistent := by
  cases call with
  | propose aux proposal =>
      show (c.propose runtime aux proposal).2.voting.Consistent
      rcases c.propose_cases runtime aux proposal with ⟨-, unchanged⟩ | ⟨-, fresh, proposed⟩
      · rw [unchanged]
        exact consistent
      · rw [proposed]
        exact consistent.enqueue fresh _ _
  | vote aux proposal approve => exact consistent.kept (c.vote_kept aux proposal approve).2
  | veto aux proposalHash =>
      show (c.veto aux proposalHash).2.voting.Consistent
      rcases c.veto_cases aux proposalHash with ⟨-, unchanged⟩ | ⟨-, position, missing, voters, -, kept⟩
      · rw [unchanged]
        exact consistent
      · exact (consistent.veto missing voters).kept kept
  | setCooloffPeriod blocks => exact consistent.kept ⟨rfl, rfl, rfl⟩
  | setVotingPeriod blocks => exact consistent.kept ⟨rfl, rfl, rfl⟩
  | endBlock => exact (endBlockLoop_consistent c.blockNumber _ c consistent).1

/-- A loop of `end_block` at `now` that ends well and has enough rounds takes
every proposal expiring at `now` off the front of the queue: what is left is a
part of the queue whose first proposal expires at another block. -/
theorem endBlockLoop_front (now : BlockNumber) :
    ∀ (fuel : Nat) (c : Chain σ AccountId Hash Proposal), c.voting.Consistent → c.voting.proposals.length ≤ fuel →
      (endBlockLoop runtime now fuel c).1 = .ok () →
      (endBlockLoop runtime now fuel c).2.voting.proposals.Sublist c.voting.proposals ∧
        ∀ entry ∈ (endBlockLoop runtime now fuel c).2.voting.proposals.head?, entry.1 ≠ now
  | 0, c, _, short, _ => by
      rw [Nat.le_zero, List.length_eq_zero_iff] at short
      exact ⟨List.Sublist.refl _, by simp [endBlockLoop, short]⟩
  | fuel + 1, c, consistent, short, ended => by
      unfold endBlockLoop at ended ⊢
      rcases c.takeProposalIfExpiringAt_of_consistent consistent now with
        ⟨notExpiring, unchanged⟩ | ⟨proposal, hash, rest, front, -, took⟩
      · rw [unchanged]
        exact ⟨List.Sublist.refl _, notExpiring⟩
      · rw [took] at ended ⊢
        dsimp only at ended ⊢
        set dequeued := c.withVoting fun s => { s with proposals := rest, proposalOf := s.proposalOf.erase hash }
        have dequeuedConsistent : dequeued.voting.Consistent := consistent.dequeue front
        obtain ⟨sameQueue, -⟩ := dequeued.decideProposal_frame runtime proposal hash
        have decided := decideProposal_consistent runtime dequeuedConsistent proposal hash
        split at ended
        · -- a failed referendum start ends the loop badly
          cases ended
        · rename_i next result
          rw [result] at sameQueue decided
          have nextShort : next.voting.proposals.length ≤ fuel := by
            rw [sameQueue]
            simp only [front, List.length_cons] at short
            exact Nat.le_of_succ_le_succ short
          obtain ⟨within, later⟩ := endBlockLoop_front now fuel next decided nextShort ended
          refine ⟨within.trans ?_, later⟩
          rw [sameQueue, front]
          exact List.sublist_cons_self _ _

/-- No queued proposal has expired: each is still to be decided, at the end of
the block it expires at. -/
def Live (c : Chain σ AccountId Hash Proposal) : Prop := ∀ entry ∈ c.voting.proposals, c.blockNumber ≤ entry.1

/-- The end of a block ends well on a live, consistent queue only by leaving
proposals of later blocks: the loop keeps a part of the queue whose first
proposal does not expire now, and the others expire no earlier. -/
theorem Live.endBlockLoop_later {c : Chain σ AccountId Hash Proposal} (live : c.Live)
    (consistent : c.voting.Consistent)
    (ended : (endBlockLoop runtime c.blockNumber c.voting.proposals.length c).1 = .ok ()) :
    ∀ entry ∈ (endBlockLoop runtime c.blockNumber c.voting.proposals.length c).2.voting.proposals,
      c.blockNumber < entry.1 := by
  obtain ⟨within, later⟩ := endBlockLoop_front c.blockNumber _ c consistent le_rfl ended
  obtain ⟨sorted, -, -⟩ := endBlockLoop_consistent c.blockNumber _ c consistent
  intro entry member
  obtain ⟨first, rest, split⟩ := List.exists_cons_of_ne_nil (List.ne_nil_of_mem member)
  rw [split] at member
  have firstLater : c.blockNumber < first.1 :=
    BitVec.lt_of_le_ne (live first (within.subset (by simp [split])))
      (fun same => later first (by simp [split]) same.symm)
  have atLeastFirst : first.1 ≤ entry.1 := by
    rcases List.mem_cons.mp member with rfl | inRest
    · exact BitVec.le_refl _
    · have ordered := sorted.sorted
      rw [split] at ordered
      exact List.rel_of_pairwise_cons ordered inRest
  bv_omega

/-- Every call that wraps no expiry keeps the queue live when it is consistent
and the end of the block ends well: a proposal is queued to expire no earlier
than the block, and the end of the block leaves only proposals of later
blocks. -/
theorem Live.apply {c : Chain σ AccountId Hash Proposal} (live : c.Live) (consistent : c.voting.Consistent)
    (call : Call AccountId Hash Proposal) (fits : call.Fits c)
    (ended : call = .endBlock → (c.apply runtime call).1 = .ok ()) : (c.apply runtime call).2.Live := by
  cases call with
  | propose aux proposal =>
      show ∀ entry ∈ (c.propose runtime aux proposal).2.voting.proposals,
        (c.propose runtime aux proposal).2.blockNumber ≤ entry.1
      rcases c.propose_cases runtime aux proposal with ⟨-, unchanged⟩ | ⟨-, -, proposed⟩
      · rw [unchanged]
        exact live
      · rw [proposed]
        intro entry member
        rw [withVoting_voting, ((List.mergeSort_perm _ _).mem_iff), List.mem_append, List.mem_singleton] at member
        rcases member with queued | rfl
        · exact live entry queued
        · -- the expiry is the block plus the voting period, which does not wrap
          have fits : c.blockNumber.toNat + c.voting.votingPeriod.toNat < 2 ^ 64 := fits
          show c.blockNumber ≤ c.blockNumber + c.voting.votingPeriod
          bv_omega
  | vote aux proposal approve =>
      show ∀ entry ∈ (c.vote aux proposal approve).2.voting.proposals,
        (c.vote aux proposal approve).2.blockNumber ≤ entry.1
      obtain ⟨voted, kept⟩ := c.vote_kept aux proposal approve
      intro entry member
      rw [kept.proposals] at member
      rw [voted, withVoting_blockNumber]
      exact live entry member
  | veto aux proposalHash =>
      show ∀ entry ∈ (c.veto aux proposalHash).2.voting.proposals, (c.veto aux proposalHash).2.blockNumber ≤ entry.1
      rcases c.veto_cases aux proposalHash with ⟨-, unchanged⟩ | ⟨-, position, -, voters, vetoed, kept⟩
      · rw [unchanged]
        exact live
      · intro entry member
        rw [kept.proposals] at member
        rw [vetoed, withVoting_blockNumber]
        exact live entry (List.mem_of_mem_filter member)
  | setCooloffPeriod blocks => exact live
  | setVotingPeriod blocks => exact live
  | endBlock =>
      have later := live.endBlockLoop_later consistent (ended rfl)
      show ∀ entry ∈ (endBlockLoop runtime c.blockNumber c.voting.proposals.length c).2.voting.proposals,
        (endBlockLoop runtime c.blockNumber c.voting.proposals.length c).2.blockNumber + 1 ≤ entry.1
      rw [(endBlockLoop_consistent c.blockNumber _ c consistent).2.2]
      intro entry member
      have after := later entry member
      -- a block before a later expiry is not the last one, so the next does not wrap
      bv_omega

end Chain

variable [LinearOrder AccountId] [DecidableEq Hash]

/-- Every chain a run reaches has a consistent queue. -/
theorem Reachable.consistent {runtime : Runtime σ Hash Proposal} {config : GenesisConfig}
    {c : Chain σ AccountId Hash Proposal} (reachable : Reachable runtime config c) : c.voting.Consistent := by
  induction reachable with
  | genesis => exact Storage.consistent_buildStorage config
  | tail _ step consistent =>
      cases step with
      | call call => exact Chain.apply_consistent _ consistent call
      | elsewhere activeCouncil others => exact consistent

/-- In every run in which democracy starts every referendum it is asked to and
no expiry wraps, no queued proposal has expired. -/
theorem ReachableUnwrapped.live {runtime : Runtime σ Hash Proposal} {config : GenesisConfig}
    (starts : ∀ others proposal threshold, ∃ next, runtime.startReferendum others proposal threshold = .ok next)
    {c : Chain σ AccountId Hash Proposal} (unwrapped : ReachableUnwrapped runtime config c) : c.Live := by
  induction unwrapped with
  | genesis => simp [Chain.Live, GenesisConfig.buildStorage]
  | call call before fits live =>
      refine live.apply before.reachable.consistent call fits fun isEnd => ?_
      subst isEnd
      exact Chain.endBlockLoop_ok starts _ _ _
  | elsewhere activeCouncil others _ live => exact live

/-! ## What the invariants give -/

/-- A runtime to run the calls on: a proposal is its own hash, none cancels a
referendum, and democracy starts every referendum. -/
def openRuntime : Runtime Unit Nat Nat := ⟨id, fun _ => none, fun others _ _ => .ok others, fun others _ => others⟩

/-- The queue of council proposals is consistent on every chain a run reaches:
sorted by expiry, no hash queued twice, and a hash queued exactly when its
proposal is stored, so that `take_proposal_if_expiring_at` finds the stored
proposal of a first queued proposal expiring at its block, and never falls
back on its defensive `None`. -/
theorem voting_queue_consistent {runtime : Runtime σ Hash Proposal} {config : GenesisConfig}
    {c : Chain σ AccountId Hash Proposal} (reachable : Reachable runtime config c) :
    c.voting.proposals.Pairwise (fun first second => first.1 ≤ second.1) ∧
      (c.voting.proposals.map Prod.snd).Nodup ∧
      (∀ hash, hash ∈ c.voting.proposals.map Prod.snd ↔ hash ∈ c.voting.proposalOf) ∧
      ∀ expiry hash rest, c.voting.proposals = (expiry, hash) :: rest →
        ∃ proposal, (c.takeProposalIfExpiringAt expiry).1 = some (proposal, hash) := by
  have consistent := reachable.consistent
  refine ⟨consistent.sorted, consistent.distinct, consistent.queued, fun expiry hash rest front => ?_⟩
  rcases c.takeProposalIfExpiringAt_of_consistent consistent expiry with
    ⟨notExpiring, -⟩ | ⟨proposal, taken, later, takenFront, -, took⟩
  · exact absurd rfl (notExpiring (expiry, hash) (by simp [front]))
  · rw [front, List.cons.injEq, Prod.mk.injEq] at takenFront
    rw [took, takenFront.1.2]
    exact ⟨proposal, rfl⟩

/-- A proposal queued by a councillor at block 1 is queued consistently. -/
theorem voting_queue_consistent_proposed :
    ∃ c : Chain Unit Nat Nat Nat, Reachable openRuntime ⟨2, 1⟩ c ∧ c.voting.proposalOf.lookup 7 = some 7 ∧
      c.voting.proposals.Pairwise (fun first second => first.1 ≤ second.1) ∧
      (c.voting.proposals.map Prod.snd).Nodup ∧
      (∀ hash, hash ∈ c.voting.proposals.map Prod.snd ↔ hash ∈ c.voting.proposalOf) ∧
      ∀ expiry hash rest, c.voting.proposals = (expiry, hash) :: rest →
        ∃ proposal, (c.takeProposalIfExpiringAt expiry).1 = some (proposal, hash) := by
  have reachable : Reachable openRuntime ⟨2, 1⟩ _ :=
    .tail (.genesis [(1, 10)] () 1) (.call _ (.propose 1 7))
  exact ⟨_, reachable, rfl, voting_queue_consistent reachable⟩

/-- On every chain a run reaches, `veto` refuses a councillor as vetoing twice
exactly when it is among the vetoers of the hash: the vetoers stay sorted, so
the binary search over them answers membership. -/
theorem veto_twice_iff_vetoer {runtime : Runtime σ Hash Proposal} {config : GenesisConfig}
    {c : Chain σ AccountId Hash Proposal} (reachable : Reachable runtime config c) {aux : AccountId}
    {proposalHash : Hash} (councillor : c.isCouncillor aux = true)
    (voted : (c.voting.proposalVoters.lookup proposalHash).isSome = true) :
    (c.veto aux proposalHash).1 = .error "a councillor may not veto a proposal twice" ↔
      aux ∈ ((c.voting.vetoedProposal.lookup proposalHash).map fun veto => veto.2).getD [] := by
  have sorted : (((c.voting.vetoedProposal.lookup proposalHash).map fun veto => veto.2).getD []).Pairwise (· < ·) := by
    cases stored : c.voting.vetoedProposal.lookup proposalHash with
    | none => exact List.Pairwise.nil
    | some veto => exact reachable.consistent.vetoers proposalHash veto stored
  unfold Chain.veto
  rw [if_neg (by simp [councillor]), if_neg (by simpa using Option.isSome_iff_ne_none.mp voted)]
  dsimp only
  split
  · rename_i position found
    exact ⟨fun _ => Foundations.mem_of_binarySearch_ok found, fun _ => rfl⟩
  · rename_i position missing
    refine ⟨fun refused => (by cases refused), fun member => ?_⟩
    exact absurd member (Foundations.not_mem_of_binarySearch_error sorted missing)

/-- A councillor that vetoed a hash, voted on again by another account, is
refused a second veto. -/
theorem veto_twice_iff_vetoer_again :
    ∃ c : Chain Unit Nat Nat Nat, Reachable openRuntime ⟨2, 1⟩ c ∧ c.isCouncillor 1 = true ∧
      (c.voting.proposalVoters.lookup 7).isSome = true ∧
      ((c.veto 1 7).1 = .error "a councillor may not veto a proposal twice" ↔
        1 ∈ ((c.voting.vetoedProposal.lookup 7).map fun veto => veto.2).getD []) := by
  have reachable : Reachable openRuntime ⟨2, 1⟩ _ :=
    .tail (.tail (.tail (.genesis [(1, 10)] () 1) (.call _ (.vote 2 7 true))) (.call _ (.veto 1 7)))
      (.call _ (.vote 3 7 false))
  have voted : ((Chain.apply openRuntime (Chain.apply openRuntime (Chain.apply openRuntime
      ⟨GenesisConfig.buildStorage ⟨2, 1⟩, [(1, 10)], (), 1⟩ (.vote 2 7 true)).2 (.veto 1 7)).2
        (.vote 3 7 false)).2.voting.proposalVoters.lookup 7).isSome = true := by decide
  exact ⟨_, reachable, rfl, voted, veto_twice_iff_vetoer reachable rfl voted⟩

/-- In every run in which democracy starts every referendum it is asked to,
every proposal is decided in the block it expires at: no queued proposal
expires before the current block, and the end of the block leaves only
proposals of later blocks. -/
theorem proposals_decided_at_expiry {runtime : Runtime σ Hash Proposal} {config : GenesisConfig}
    (starts : ∀ others proposal threshold, ∃ next, runtime.startReferendum others proposal threshold = .ok next)
    {c : Chain σ AccountId Hash Proposal} (unwrapped : ReachableUnwrapped runtime config c) :
    (∀ entry ∈ c.voting.proposals, c.blockNumber ≤ entry.1) ∧
      ∀ entry ∈ (c.apply runtime .endBlock).2.voting.proposals, c.blockNumber < entry.1 := by
  have consistent := unwrapped.reachable.consistent
  have live := unwrapped.live starts
  exact ⟨live, live.endBlockLoop_later consistent (Chain.endBlockLoop_ok starts _ _ _)⟩

/-- A proposal queued at block 1 to expire at block 2, its expiry fitting in a
`u64`, is still queued at the end of block 1. -/
theorem proposals_decided_at_expiry_open :
    ∃ c : Chain Unit Nat Nat Nat, ReachableUnwrapped openRuntime ⟨2, 1⟩ c ∧ c.voting.proposalOf.lookup 7 = some 7 ∧
      (∀ others proposal threshold, ∃ next, openRuntime.startReferendum others proposal threshold = .ok next) ∧
      (∀ entry ∈ c.voting.proposals, c.blockNumber ≤ entry.1) ∧
      ∀ entry ∈ (c.apply openRuntime .endBlock).2.voting.proposals, c.blockNumber < entry.1 := by
  have unwrapped : ReachableUnwrapped openRuntime ⟨2, 1⟩ _ :=
    .call (.propose 1 7) (.genesis [(1, 10)] () 1) (by decide)
  have starts : ∀ others proposal threshold, ∃ next, openRuntime.startReferendum others proposal threshold = .ok next :=
    fun others _ _ => ⟨others, rfl⟩
  exact ⟨_, unwrapped, rfl, starts, proposals_decided_at_expiry starts unwrapped⟩

end Voting
end Council
end Polkadot

