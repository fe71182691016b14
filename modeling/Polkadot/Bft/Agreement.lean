import Polkadot.Bft.Strategy
import Polkadot.Foundations.Quorum

/-!
# Agreement from the log of honest votes

What the agreement is for: two commit quorums are for the same digest.  This
module states that about the log of the messages the honest authorities sent,
in the order they sent them, and proves it from four properties of the log
(`LogSafe`): an honest authority prepares one digest per round; it commits
only a digest that has a prepare quorum in its round; it sends its messages in
the order of their rounds; and once it has committed, every later prepare of a
later round it sends is for a digest with a prepare quorum, among the messages
sent before, at a round no earlier than the commit.  The argument is the
classic one: follow a conflicting prepare quorum back, by the time it formed,
through the honest authority it shares with the commit quorum.

`LogSafe.append` says what an authority sending the messages of one round must
show for the log to stay safe; the strategies' side of it is `NodeSafe`.
-/

namespace Polkadot
namespace Bft

open Foundations

/-- The authorities of an agreement, the honest ones among them, and the bound
on the faulty ones: at most `maxFaulty` of them, fewer than a third. -/
structure Setup (V : Type) [DecidableEq V] where
  authorities : Finset V
  honest : Finset V
  maxFaulty : Nat
  honest_subset : honest ⊆ authorities
  few_faulty : (authorities \ honest).card ≤ maxFaulty
  bound : 3 * maxFaulty < authorities.card

variable {C D V S : Type}

/-! ## The log of honest messages -/

/-- The messages the honest authorities sent, in order. -/
abbrev Log (C D V S : Type) := List (Communication C D V S)

/-- The signed `vote` of `voter`, as sent. -/
def voteMessage (voter : V) (vote : Vote D) (signature : S) : Communication C D V S :=
  .consensus (.vote ⟨vote, voter, signature⟩)

/-- `voter` sent `vote`. -/
def SentVote (log : Log C D V S) (voter : V) (vote : Vote D) : Prop :=
  ∃ signature, voteMessage voter vote signature ∈ log

/-- `voter` sent a prepare for `digest` at `round`. -/
abbrev SentPrepare (log : Log C D V S) (voter : V) (round : Nat) (digest : D) : Prop :=
  SentVote log voter (.prepare round digest)

/-- `voter` sent a commit for `digest` at `round`. -/
abbrev SentCommit (log : Log C D V S) (voter : V) (round : Nat) (digest : D) : Prop :=
  SentVote log voter (.commit round digest)

section SentVote

variable {log more : Log C D V S} {voter : V} {vote : Vote D}

/-- A vote sent in a log is sent in every log that contains it. -/
theorem SentVote.mono (sent : SentVote log voter vote) (grows : ∀ message ∈ log, message ∈ more) :
    SentVote more voter vote := by
  obtain ⟨signature, member⟩ := sent
  exact ⟨signature, grows _ member⟩

/-- A vote is sent in a joined log exactly when it is sent in one of its parts. -/
theorem sentVote_append :
    SentVote (log ++ more) voter vote ↔ SentVote log voter vote ∨ SentVote more voter vote := by
  simp only [SentVote, List.mem_append, exists_or]

/-- A vote among messages of one sender and one round is of both. -/
theorem SentVote.of_own {round : Nat}
    (own : ∀ message, Communication.consensus message ∈ more →
      message.sender = voter ∧ message.roundNumber = round)
    {sender : V} (sent : SentVote more sender vote) :
    sender = voter ∧ vote.roundNumber = round := by
  obtain ⟨signature, member⟩ := sent
  exact own _ member

/-- Messages of other senders add no vote. -/
theorem SentVote.of_append_other
    (others : ∀ message, Communication.consensus message ∈ more → message.sender ≠ voter)
    (sent : SentVote (log ++ more) voter vote) : SentVote log voter vote := by
  rcases sentVote_append.mp sent with old | ⟨signature, member⟩
  · exact old
  · exact absurd rfl (others _ member)

/-- A vote sent in a log sits at some index of it, with some signature. -/
theorem SentVote.exists_index (sent : SentVote log voter vote) :
    ∃ (index : Nat) (signature : S), log[index]? = some (voteMessage voter vote signature) := by
  obtain ⟨signature, member⟩ := sent
  obtain ⟨index, found⟩ := List.getElem?_of_mem member
  exact ⟨index, signature, found⟩

/-- A vote sent in a prefix of a log sits at an index below the prefix's length. -/
theorem SentVote.exists_index_lt {length : Nat} (sent : SentVote (log.take length) voter vote) :
    ∃ (index : Nat) (signature : S), index < length ∧
      log[index]? = some (voteMessage voter vote signature) := by
  obtain ⟨index, signature, found⟩ := sent.exists_index
  have inRange : index < (log.take length).length := (List.getElem?_eq_some_iff.mp found).1
  have before : index < length := by simp at inRange; omega
  refine ⟨index, signature, before, ?_⟩
  rwa [List.getElem?_take, if_pos before] at found

end SentVote

/-- An entry of an appended log is an entry of the first part, at its index, or
one of the second part. -/
theorem getElem?_append_cases {first second : Log C D V S} {index : Nat}
    {message : Communication C D V S} (found : (first ++ second)[index]? = some message) :
    (index < first.length ∧ first[index]? = some message) ∨
      (first.length ≤ index ∧ message ∈ second) := by
  rw [List.getElem?_append] at found
  split_ifs at found with inFirst
  · exact .inl ⟨inFirst, found⟩
  · exact .inr ⟨Nat.le_of_not_lt inFirst, List.mem_of_getElem? found⟩

variable [DecidableEq V]

namespace Setup

variable (setup : Setup V)

/-- `n - f`, the threshold of every accumulator. -/
def threshold : Nat := bftThreshold setup.authorities.card setup.maxFaulty

/-- A quorum holds an honest authority. -/
theorem exists_honest {quorum : Finset V} (within : quorum ⊆ setup.authorities)
    (large : setup.threshold ≤ quorum.card) : ∃ v ∈ quorum, v ∈ setup.honest :=
  exists_correct_of_quorum setup.few_faulty (by have := setup.bound; omega) within large

/-- Two quorums share an honest authority. -/
theorem exists_honest_shared {first second : Finset V} (firstWithin : first ⊆ setup.authorities)
    (secondWithin : second ⊆ setup.authorities) (firstLarge : setup.threshold ≤ first.card)
    (secondLarge : setup.threshold ≤ second.card) :
    ∃ v ∈ first, v ∈ second ∧ v ∈ setup.honest :=
  exists_correct_of_quorums rfl setup.few_faulty setup.bound firstWithin secondWithin firstLarge
    secondLarge

end Setup

variable (setup : Setup V)

/-- A quorum of authorities each of which is faulty or sent the vote. -/
def Quorum (sent : V → Prop) : Prop :=
  ∃ quorum : Finset V, quorum ⊆ setup.authorities ∧ setup.threshold ≤ quorum.card ∧
    ∀ v ∈ quorum, v ∈ setup.honest → sent v

/-- A prepare quorum for `digest` at `round`. -/
def PrepareQuorum (log : Log C D V S) (round : Nat) (digest : D) : Prop :=
  Quorum setup fun voter => SentPrepare log voter round digest

/-- A commit quorum for `digest` at `round`. -/
def CommitQuorum (log : Log C D V S) (round : Nat) (digest : D) : Prop :=
  Quorum setup fun voter => SentCommit log voter round digest

variable {setup}

/-- A quorum of honest senders of one thing is a quorum of everything it implies. -/
theorem Quorum.mono {sent more : V → Prop} (quorum : Quorum setup sent)
    (implies : ∀ v ∈ setup.honest, sent v → more v) : Quorum setup more := by
  obtain ⟨members, within, large, voted⟩ := quorum
  exact ⟨members, within, large, fun v member honest => implies v honest (voted v member honest)⟩

/-- A quorum of prepares stays one as the log grows. -/
theorem PrepareQuorum.mono {log more : Log C D V S} {round : Nat} {digest : D}
    (quorum : PrepareQuorum setup log round digest) (grows : ∀ message ∈ log, message ∈ more) :
    PrepareQuorum setup more round digest :=
  Quorum.mono quorum fun _ _ sent => sent.mono grows

/-- A quorum of commits stays one as the log grows. -/
theorem CommitQuorum.mono {log more : Log C D V S} {round : Nat} {digest : D}
    (quorum : CommitQuorum setup log round digest) (grows : ∀ message ∈ log, message ∈ more) :
    CommitQuorum setup more round digest :=
  Quorum.mono quorum fun _ _ sent => sent.mono grows

/-! ## Safe logs -/

variable (setup)

/-- The properties of the log of honest messages agreement rests on. -/
structure LogSafe (log : Log C D V S) : Prop where
  /-- An honest authority prepares one digest per round. -/
  prepare_unique : ∀ v ∈ setup.honest, ∀ round (digest other : D),
    SentPrepare log v round digest → SentPrepare log v round other → digest = other
  /-- An honest authority commits a digest with a prepare quorum in its round. -/
  commit_prepared : ∀ v ∈ setup.honest, ∀ round (digest : D),
    SentCommit log v round digest → PrepareQuorum setup log round digest
  /-- An honest authority sends its consensus messages in the order of their rounds. -/
  ordered : ∀ v ∈ setup.honest, ∀ (i j : Nat) (first second : LocalizedMessage C D V S),
    i < j → log[i]? = some (.consensus first) → log[j]? = some (.consensus second) →
    first.sender = v → second.sender = v → first.roundNumber ≤ second.roundNumber
  /-- After a commit, an honest authority prepares at a later round only a
  digest with an earlier prepare quorum at a round no earlier than the commit. -/
  locked : ∀ v ∈ setup.honest, ∀ (committedAt preparedAt : Nat) (round later : Nat)
    (digest other : D) (commitSignature prepareSignature : S),
    committedAt < preparedAt →
    log[committedAt]? = some (voteMessage v (.commit round digest) commitSignature) →
    log[preparedAt]? = some (voteMessage v (.prepare later other) prepareSignature) →
    round < later →
    ∃ lockRound, round ≤ lockRound ∧ PrepareQuorum setup (log.take preparedAt) lockRound other

variable {setup}

/-- The empty log is safe. -/
theorem logSafe_nil : LogSafe setup ([] : Log C D V S) where
  prepare_unique := by simp [SentVote]
  commit_prepared := by simp [SentVote]
  ordered := by simp
  locked := by simp

/-- Two prepare quorums of one round are for the same digest. -/
theorem LogSafe.prepare_same_round {log : Log C D V S} (safe : LogSafe setup log)
    {round : Nat} {digest other : D} (first : PrepareQuorum setup log round digest)
    (second : PrepareQuorum setup log round other) : digest = other := by
  obtain ⟨firstMembers, firstWithin, firstLarge, firstSent⟩ := first
  obtain ⟨secondMembers, secondWithin, secondLarge, secondSent⟩ := second
  obtain ⟨v, inFirst, inSecond, honest⟩ :=
    setup.exists_honest_shared firstWithin secondWithin firstLarge secondLarge
  exact safe.prepare_unique v honest round digest other (firstSent v inFirst honest)
    (secondSent v inSecond honest)

/-- After a commit quorum for `digest` at `round`, every prepare quorum of a
round no earlier, among the first `length` messages, is for `digest`.  The
induction is on `length`: a conflicting quorum shares an honest authority with
the commit quorum, which committed before it prepared, so its lock points at a
conflicting quorum that formed earlier. -/
theorem LogSafe.prepareQuorum_eq {log : Log C D V S} (safe : LogSafe setup log) {round : Nat}
    {digest : D} (committed : CommitQuorum setup log round digest) (length : Nat) :
    ∀ later (other : D), round ≤ later → PrepareQuorum setup (log.take length) later other →
      other = digest := by
  induction length using Nat.strong_induction_on with
  | _ length ih =>
    intro later other after prepared
    obtain ⟨commitMembers, commitWithin, commitLarge, commitSent⟩ := committed
    obtain ⟨prepareMembers, prepareWithin, prepareLarge, prepareSent⟩ := id prepared
    obtain ⟨v, inPrepare, inCommit, honest⟩ :=
      setup.exists_honest_shared prepareWithin commitWithin prepareLarge commitLarge
    have vCommitted : SentCommit log v round digest := commitSent v inCommit honest
    rcases Nat.eq_or_lt_of_le after with sameRound | laterRound
    · -- the same round: the commit had a prepare quorum of its own
      subst sameRound
      have committedPrepared := safe.commit_prepared v honest round digest vCommitted
      have otherPrepared : PrepareQuorum setup log round other :=
        prepared.mono fun message member => List.mem_of_mem_take member
      exact (safe.prepare_same_round committedPrepared otherPrepared).symm
    · -- a later round: `v` committed, then prepared `other`
      obtain ⟨preparedAt, prepareSignature, before, preparedFound⟩ :=
        (prepareSent v inPrepare honest).exists_index_lt
      obtain ⟨committedAt, commitSignature, committedFound⟩ := vCommitted.exists_index
      have order : committedAt < preparedAt := by
        rcases Nat.lt_trichotomy committedAt preparedAt with less | same | greater
        · exact less
        · subst same
          rw [committedFound] at preparedFound
          simp [voteMessage] at preparedFound
        · have := safe.ordered v honest preparedAt committedAt _ _ greater preparedFound
            committedFound rfl rfl
          simp [LocalizedMessage.roundNumber, Vote.roundNumber] at this
          omega
      obtain ⟨lockRound, atLeast, lockQuorum⟩ := safe.locked v honest committedAt preparedAt round
        later digest other commitSignature prepareSignature order committedFound preparedFound
        laterRound
      exact ih preparedAt before lockRound other atLeast lockQuorum

/-- Agreement: two commit quorums are for the same digest. -/
theorem LogSafe.agreement {log : Log C D V S} (safe : LogSafe setup log) {round other : Nat}
    {digest second : D} (committed : CommitQuorum setup log round digest)
    (committedOther : CommitQuorum setup log other second) : digest = second := by
  -- the later commit quorum has an honest member, whose commit had a prepare quorum
  have prepared : ∀ {round : Nat} {digest : D}, CommitQuorum setup log round digest →
      PrepareQuorum setup (log.take log.length) round digest := by
    intro round digest quorum
    obtain ⟨members, within, large, sent⟩ := id quorum
    obtain ⟨v, member, honest⟩ := setup.exists_honest within large
    rw [List.take_length]
    exact safe.commit_prepared v honest round digest (sent v member honest)
  rcases le_total round other with ordered | ordered
  · exact (safe.prepareQuorum_eq committed log.length other second ordered
      (prepared committedOther)).symm
  · exact safe.prepareQuorum_eq committedOther log.length round digest ordered (prepared committed)

/-! ## Sending the messages of a round -/

section Append

variable {log out : Log C D V S} {voter : V} {round : Nat}

/-- What an authority sending `out`, its messages of `round`, must show for the
log to stay safe: its earlier messages are of no later round; a prepare it sends
is its only one of the round; a commit has a prepare quorum; and a prepare sent
after a commit of an earlier round has a prepare quorum at a round no earlier
than the commit. -/
theorem LogSafe.append (safe : LogSafe setup log)
    (own : ∀ message, Communication.consensus message ∈ out →
      message.sender = voter ∧ message.roundNumber = round)
    (earlier : ∀ message, Communication.consensus message ∈ log → message.sender = voter →
      message.roundNumber ≤ round)
    (prepareUnique : ∀ digest other, SentPrepare out voter round digest →
      SentPrepare (log ++ out) voter round other → digest = other)
    (commitPrepared : ∀ digest, SentCommit out voter round digest →
      PrepareQuorum setup (log ++ out) round digest)
    (lockedPrepare : ∀ digest, SentPrepare out voter round digest →
      ∀ committedRound committedDigest, committedRound < round →
        SentCommit log voter committedRound committedDigest →
        ∃ lockRound, committedRound ≤ lockRound ∧ PrepareQuorum setup log lockRound digest) :
    LogSafe setup (log ++ out) where
  prepare_unique := by
    intro v honest preparedRound digest other first second
    rcases sentVote_append.mp first with oldFirst | newFirst
    · rcases sentVote_append.mp second with oldSecond | newSecond
      · exact safe.prepare_unique v honest preparedRound digest other oldFirst oldSecond
      · obtain ⟨rfl, rfl⟩ := newSecond.of_own own
        exact (prepareUnique other digest newSecond first).symm
    · obtain ⟨rfl, rfl⟩ := newFirst.of_own own
      exact prepareUnique digest other newFirst second
  commit_prepared := by
    intro v honest committedRound digest committed
    rcases sentVote_append.mp committed with old | new
    · exact (safe.commit_prepared v honest committedRound digest old).mono
        fun _ member => List.mem_append_left _ member
    · obtain ⟨rfl, rfl⟩ := new.of_own own
      exact commitPrepared digest new
  ordered := by
    intro v honest i j first second before firstFound secondFound firstSender secondSender
    rcases getElem?_append_cases secondFound with ⟨secondOld, secondFound⟩ | ⟨_, secondNew⟩
    · -- both are old messages
      have firstOld : i < log.length := by omega
      rw [List.getElem?_append_left firstOld] at firstFound
      exact safe.ordered v honest i j first second before firstFound secondFound firstSender
        secondSender
    · -- the later one is new, of `round`; the earlier one is of no later round
      obtain ⟨secondVoter, secondRound⟩ := own second secondNew
      rw [secondRound]
      rcases getElem?_append_cases firstFound with ⟨_, firstOld⟩ | ⟨_, firstNew⟩
      · exact earlier first (List.mem_of_getElem? firstOld) (firstSender.trans
          (secondSender.symm.trans secondVoter))
      · exact (own first firstNew).2.le
  locked := by
    intro v honest committedAt preparedAt committedRound later digest other commitSignature
      prepareSignature before committedFound preparedFound laterRound
    rcases getElem?_append_cases preparedFound with ⟨preparedOld, preparedFound⟩ |
        ⟨preparedNew, preparedMember⟩
    · -- both are old messages, and so is the prefix before the prepare
      rw [List.getElem?_append_left (by omega)] at committedFound
      rw [List.take_append_of_le_length preparedOld.le]
      exact safe.locked v honest committedAt preparedAt committedRound later digest other
        commitSignature prepareSignature before committedFound preparedFound laterRound
    · have newPrepare : SentPrepare out v later other := ⟨prepareSignature, preparedMember⟩
      obtain ⟨rfl, rfl⟩ := newPrepare.of_own own
      rcases getElem?_append_cases committedFound with ⟨_, committedOld⟩ |
          ⟨_, committedMember⟩
      · -- a commit of an earlier round, before this round's messages
        obtain ⟨lockRound, atLeast, quorum⟩ := lockedPrepare other newPrepare committedRound
          digest laterRound ⟨commitSignature, List.mem_of_getElem? committedOld⟩
        refine ⟨lockRound, atLeast, quorum.mono fun message member => ?_⟩
        rw [List.take_append, List.take_of_length_le preparedNew]
        exact List.mem_append_left _ member
      · -- a commit among the new messages is of this round, not an earlier one
        have newCommit : SentCommit out v committedRound digest :=
          ⟨commitSignature, committedMember⟩
        obtain ⟨-, sameRound⟩ := newCommit.of_own own
        simp only [Vote.roundNumber] at sameRound
        omega

end Append

end Bft
end Polkadot
