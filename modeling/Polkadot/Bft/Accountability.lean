import Polkadot.Bft.Blame
import Polkadot.Bft.Safety

/-!
# Accountability of the network

A `Misbehavior` that a strategy records is evidence against the sender of the
messages its accumulator rejected.  Here that evidence is shown never to point
at an honest authority.  In every run of the network, whatever the network
delivers and in whatever order the honest authorities step, the share of the
log each honest authority sent (`ownOf`) is disciplined by its strategy
(`HonestDisciplined`), so it never equivocates, and no honest strategy records
misbehavior against an honest authority (`HonestUnblamed`).  Both rest on each
authority signing as itself; the second also on all of them computing the same
primary for each round, since a proposal is judged against the primary of the
authority that imports it.
-/

namespace Polkadot
namespace Bft

variable {C D V S : Type} [DecidableEq V]

/-! ## One authority's share of the log -/

/-- The messages of `messages` signed as `voter`. -/
def ownOf (voter : V) (messages : List (LocalizedMessage C D V S)) : List (LocalizedMessage C D V S) :=
  messages.filter fun message => message.sender = voter

section OwnOf

variable {voter : V} {messages more : List (LocalizedMessage C D V S)}

/-- A voter sends nothing in an empty log. -/
@[simp] theorem ownOf_nil : ownOf voter ([] : List (LocalizedMessage C D V S)) = [] := rfl

/-- A voter's own messages of a joined log are those of each part. -/
@[simp] theorem ownOf_append : ownOf voter (messages ++ more) = ownOf voter messages ++ ownOf voter more :=
  List.filter_append _ _

/-- A voter's own messages are the messages of the log it signed. -/
theorem mem_ownOf {message : LocalizedMessage C D V S} :
    message ∈ ownOf voter messages ↔ message ∈ messages ∧ message.sender = voter := by
  simp [ownOf]

/-- A log signed only by the voter is all its own. -/
theorem ownOf_of_signed (signed : ∀ message ∈ messages, message.sender = voter) :
    ownOf voter messages = messages := by
  apply List.filter_eq_self.mpr
  intro message member
  simp [signed message member]

/-- A log signed only by another sender holds none of the voter's messages. -/
theorem ownOf_of_ne {sender : V} (other : sender ≠ voter)
    (signed : ∀ message ∈ messages, message.sender = sender) : ownOf voter messages = [] := by
  apply List.filter_eq_nil_iff.mpr
  intro message member
  simp [signed message member, other]

/-- The messages of `voter` never equivocate among all messages when they do
not among its own. -/
theorem Unequivocal.of_ownOf {roundProposer : Nat → V}
    (own : Unequivocal roundProposer voter (ownOf voter messages)) : Unequivocal roundProposer voter messages where
  proposer proposal member sender := own.proposer proposal (mem_ownOf.mpr ⟨member, sender⟩) sender
  unique message member other otherMember sender otherSender :=
    own.unique message (mem_ownOf.mpr ⟨member, sender⟩) other (mem_ownOf.mpr ⟨otherMember, otherSender⟩)
      sender otherSender

end OwnOf

variable [DecidableEq D]

/-! ## Invariants of the network -/

variable {setup : Setup V} {contexts : V → Context C D V S}

variable (setup) (contexts) in
/-- The share of the log each honest authority sent is disciplined by its
strategy. -/
def HonestDisciplined (network : Network C D V S) : Prop :=
  ∀ w ∈ setup.honest, Disciplined (contexts w) (network.strategies w) (ownOf w (consensusOf network.sent))

variable (setup) (contexts) in
/-- What each honest strategy holds of an honest authority came from the log,
and it records no misbehavior against it. -/
def HonestUnblamed (network : Network C D V S) : Prop :=
  ∀ u ∈ setup.honest, ∀ w ∈ setup.honest, Unblamed (contexts u) w (network.strategies u) (consensusOf network.sent)

/-- Before any step every honest node is disciplined. -/
theorem honestDisciplined_initial : HonestDisciplined setup contexts (Network.initial setup contexts) :=
  fun _ _ => disciplined_create _ _

/-- Before any step no honest node is blamed. -/
theorem honestUnblamed_initial : HonestUnblamed setup contexts (Network.initial setup contexts) :=
  fun _ _ _ _ => unblamed_create _ _

section Run

variable (localIds : ∀ v, (contexts v).localId = v)
include localIds

/-- A poll of an honest authority sends only messages signed as itself. -/
theorem HonestDisciplined.poll_signed {network : Network C D V S} (disc : HonestDisciplined setup contexts network)
    {v : V} (honest : v ∈ setup.honest) {resolutions : Resolutions C} {next : Strategy C D V S}
    {out : Log C D V S} {committed : Option (Committed C D S)}
    (polled : (network.strategies v).pollOnce (contexts v) resolutions = some (next, out, committed)) :
    ∀ message ∈ consensusOf out, message.sender = v := by
  intro message member
  have signed := ((disc v honest).pollOnce polled).signed message (List.mem_append_right _ member)
  rw [← localIds v]
  exact signed.1

/-- Every step keeps the honest authorities' shares of the log disciplined: the
stepping authority's strategy keeps its own share so, and a poll adds nothing
to the share of another. -/
theorem HonestDisciplined.step {network next : Network C D V S} (disc : HonestDisciplined setup contexts network)
    (step : Step setup contexts network next) : HonestDisciplined setup contexts next := by
  cases step with
  | @deliver v honest message _ =>
      exact honest_update (fun w strategy => Disciplined (contexts w) strategy (ownOf w (consensusOf network.sent)))
        (fun _ => (disc v honest).importMessage message) fun w honestOther _ => disc w honestOther
  | @lockProof v honest _ _ _ _ _ imported =>
      exact honest_update (fun w strategy => Disciplined (contexts w) strategy (ownOf w (consensusOf network.sent)))
        (fun _ => (disc v honest).importLockProof imported) fun w honestOther _ => disc w honestOther
  | @poll v honest resolutions _ out _ polled =>
      have signed := disc.poll_signed localIds honest polled
      refine honest_update
        (fun w strategy => Disciplined (contexts w) strategy (ownOf w (consensusOf (network.sent ++ out))))
        (fun _ => ?_) fun w honestOther other => ?_
      · rw [consensusOf_append, ownOf_append, ownOf_of_signed signed]
        exact (disc v honest).pollOnce polled
      · -- what `v` sent is no part of the share of `w`
        rw [consensusOf_append, ownOf_append, ownOf_of_ne (Ne.symm other) signed, List.append_nil]
        exact disc w honestOther

/-- The honest authorities' shares of the log are disciplined in every network
a run reaches. -/
theorem Reachable.honestDisciplined {network : Network C D V S} (reachable : Reachable setup contexts network) :
    HonestDisciplined setup contexts network := by
  induction reachable with
  | init => exact honestDisciplined_initial
  | tail _ step disc => exact disc.step localIds step

variable (sameProposer : ∀ u v, (contexts u).roundProposer = (contexts v).roundProposer)
include sameProposer

/-- What an honest authority sent never equivocates, as every authority judges
it. -/
theorem HonestDisciplined.unequivocal {network : Network C D V S} (disc : HonestDisciplined setup contexts network)
    {w : V} (honest : w ∈ setup.honest) (u : V) :
    Unequivocal (contexts u).roundProposer w (consensusOf network.sent) := by
  have own := (disc w honest).unequivocal
  rw [localIds, sameProposer w u] at own
  exact own.of_ownOf

/-- Every step keeps every honest strategy unblamed over the log, given that
the shares of the log stay disciplined: a delivered message signed by an honest
authority is one it sent, and what a poll signs is added to the log. -/
theorem HonestUnblamed.step {network next : Network C D V S} (unblamed : HonestUnblamed setup contexts network)
    (step : Step setup contexts network next) (disc : HonestDisciplined setup contexts next) :
    HonestUnblamed setup contexts next := by
  cases step with
  | @deliver v honest message admissible =>
      refine honest_update (fun u strategy => ∀ w ∈ setup.honest, Unblamed (contexts u) w strategy _)
        (fun _ w honestOther => ?_) fun u honestOther _ => unblamed u honestOther
      refine (unblamed v honest w honestOther).importMessage (disc.unequivocal localIds sameProposer honestOther v) ?_
      intro sender
      exact mem_consensusOf.mpr (admissible.2 (sender ▸ honestOther))
  | @lockProof v honest _ _ _ _ _ imported =>
      exact honest_update (fun u strategy => ∀ w ∈ setup.honest, Unblamed (contexts u) w strategy _)
        (fun _ w honestOther => (unblamed v honest w honestOther).importLockProof imported)
        fun u honestOther _ => unblamed u honestOther
  | @poll v honest resolutions _ out _ polled =>
      have grows : ∀ message ∈ consensusOf network.sent, message ∈ consensusOf (network.sent ++ out) := by
        intro message member
        rw [consensusOf_append]
        exact List.mem_append_left _ member
      refine honest_update
        (fun u strategy => ∀ w ∈ setup.honest, Unblamed (contexts u) w strategy (consensusOf (network.sent ++ out)))
        (fun _ w honestOther => ?_) fun u honestOther _ w honestVoter => (unblamed u honestOther w honestVoter).mono grows
      refine ((unblamed v honest w honestOther).mono grows).pollOnce
        (disc.unequivocal localIds sameProposer honestOther v) polled fun message member => ?_
      rw [consensusOf_append]
      exact List.mem_append_right _ member

/-- Every honest strategy is unblamed over the log in every network a run
reaches. -/
theorem Reachable.honestUnblamed {network : Network C D V S} (reachable : Reachable setup contexts network) :
    HonestUnblamed setup contexts network := by
  induction reachable with
  | init => exact honestUnblamed_initial
  | tail before step unblamed =>
      exact unblamed.step localIds sameProposer step ((before.tail step).honestDisciplined localIds)

end Run

/-! ## Accountability -/

/-- In every run, the consensus messages an honest authority sent never
equivocate: a proposal only of a round it is the primary of, in each round its
messages in the order of their stages, and two of one round and one stage the
same message. -/
theorem honest_authorities_never_equivocate (localIds : ∀ v, (contexts v).localId = v)
    {network : Network C D V S} (reachable : Reachable setup contexts network) {w : V} (honest : w ∈ setup.honest) :
    (∀ proposal, LocalizedMessage.propose proposal ∈ consensusOf network.sent → proposal.sender = w →
      (contexts w).roundProposer proposal.roundNumber = w) ∧
    (∀ round, (roundOf (ownOf w (consensusOf network.sent)) round).Pairwise
      fun first second => first.stage < second.stage) ∧
    ∀ message ∈ consensusOf network.sent, ∀ other ∈ consensusOf network.sent,
      message.sender = w → other.sender = w → message.roundNumber = other.roundNumber →
        message.stage = other.stage → message = other := by
  have disc := reachable.honestDisciplined localIds w honest
  have own := disc.unequivocal
  rw [localIds] at own
  exact ⟨own.of_ownOf.proposer, disc.ordered, own.of_ownOf.unique⟩

/-- The single authority's first poll sends a proposal, a prepare and a commit,
in order. -/
theorem honest_authorities_never_equivocate_single :
    ∃ network : Network Nat Nat Nat Nat, Reachable singleAuthority singleContexts network ∧
      (consensusOf network.sent).length = 3 ∧
      (∀ proposal, LocalizedMessage.propose proposal ∈ consensusOf network.sent → proposal.sender = 0 →
        (singleContexts 0).roundProposer proposal.roundNumber = 0) ∧
      (∀ round, (roundOf (ownOf 0 (consensusOf network.sent)) round).Pairwise
        fun first second => first.stage < second.stage) ∧
      ∀ message ∈ consensusOf network.sent, ∀ other ∈ consensusOf network.sent,
        message.sender = 0 → other.sender = 0 → message.roundNumber = other.roundNumber →
          message.stage = other.stage → message = other := by
  have reachable : Reachable singleAuthority singleContexts _ :=
    .tail .init (.poll (by simp [singleAuthority] : (0 : Nat) ∈ singleAuthority.honest)
      ⟨some 5, some true, false⟩ rfl)
  exact ⟨_, reachable, rfl,
    honest_authorities_never_equivocate (fun _ => rfl) reachable (by simp [singleAuthority])⟩

/-- Accountability: in every run in which the authorities sign as themselves
and agree on the primary of each round, no honest strategy records misbehavior
against an honest authority; whatever the network delivers, a recorded
misbehavior is evidence against a faulty authority only. -/
theorem honest_never_blamed (localIds : ∀ v, (contexts v).localId = v)
    (sameProposer : ∀ u v, (contexts u).roundProposer = (contexts v).roundProposer)
    {network : Network C D V S} (reachable : Reachable setup contexts network) :
    ∀ u ∈ setup.honest, ∀ w ∈ setup.honest, (network.strategies u).misbehavior.lookup w = none := by
  intro u honest w honestVoter
  exact (reachable.honestUnblamed localIds sameProposer u honest w honestVoter).blameless

/-- In `agreementTrace` authority 0 records the faulty 3's proposal out of turn,
and no honest authority blames an honest one. -/
theorem honest_never_blamed_four :
    ∃ network : Network Nat Nat Nat Nat, Reachable fourAuthorities singleContexts network ∧
      (network.strategies 0).misbehavior.keys = [3] ∧
      ∀ u ∈ fourAuthorities.honest, ∀ w ∈ fourAuthorities.honest,
        (network.strategies u).misbehavior.lookup w = none := by
  obtain ⟨network, ran, reachable⟩ := reachable_agreementTrace
  have blamed : (network.strategies 0).misbehavior.keys = [3] := by
    cases ran
    rfl
  exact ⟨network, reachable, blamed, honest_never_blamed (fun _ => rfl) (fun _ _ => rfl) reachable⟩

end Bft
end Polkadot
