import Polkadot.Bft.Honesty

/-!
# An honest strategy never blames itself

`Strategy::import_message` (`generic/mod.rs`) records misbehavior against the
sender of a message its accumulator rejects: a proposal out of turn, or a
second proposal, prepare or commit of the round that differs from the first.
What an accumulator holds of an authority came from messages the authority
sent (`OwnRecorded`), and when those never equivocate (`Unequivocal`), neither
its messages nor copies of them are ever rejected.  When signatures
cannot be forged, every message signed as the local authority is one it sent
(`Unforged`), and no misbehavior is ever recorded against it (`Unblamed`).  A
forged message is another matter: two prepares for different digests signed as
the local authority are recorded as its double prepare.
-/

namespace Polkadot
namespace Bft

variable {C D V S : Type} [DecidableEq D] [DecidableEq V]

/-! ## Where an accumulator's votes come from -/

namespace Accumulator

variable (accumulator : Accumulator C D V S) (message : LocalizedMessage C D V S)

/-- An `AdvanceRound` vote keeps the proposal. -/
@[simp] theorem importAdvanceRound_proposal (sender : V) :
    (accumulator.importAdvanceRound sender).proposal = accumulator.proposal := by
  unfold importAdvanceRound
  dsimp only
  split <;> rfl

/-- What `importOrKeep` did with a message: nothing, or accepted it as a
proposal, prepare, commit or advance vote of the accumulator's round. -/
theorem importOrKeep_cases :
    accumulator.importOrKeep message = accumulator ∨
      (∃ proposal, message = .propose proposal ∧ proposal.roundNumber = accumulator.roundNumber ∧
        accumulator.importProposal proposal = .ok (accumulator.importOrKeep message)) ∨
      (∃ digest sender signature,
        message = .vote ⟨.prepare accumulator.roundNumber digest, sender, signature⟩ ∧
          accumulator.importPrepare digest sender signature = .ok (accumulator.importOrKeep message)) ∨
      (∃ digest sender signature,
        message = .vote ⟨.commit accumulator.roundNumber digest, sender, signature⟩ ∧
          accumulator.importCommit digest sender signature = .ok (accumulator.importOrKeep message)) ∨
      ∃ sender signature, message = .vote ⟨.advanceRound accumulator.roundNumber, sender, signature⟩ ∧
        accumulator.importOrKeep message = accumulator.importAdvanceRound sender := by
  unfold importOrKeep
  cases imported : accumulator.importMessage message with
  | error _ => exact .inl rfl
  | ok updated =>
      unfold importMessage at imported
      split_ifs at imported with otherRound
      · cases imported
        exact .inl rfl
      · rw [not_not] at otherRound
        rcases message with proposal | ⟨vote, sender, signature⟩
        · exact .inr (.inl ⟨proposal, rfl, otherRound, imported⟩)
        · simp only [LocalizedMessage.roundNumber] at otherRound
          cases vote with
          | prepare round digest =>
              subst otherRound
              exact .inr (.inr (.inl ⟨digest, sender, signature, rfl, imported⟩))
          | commit round digest =>
              subst otherRound
              exact .inr (.inr (.inr (.inl ⟨digest, sender, signature, rfl, imported⟩)))
          | advanceRound round =>
              subst otherRound
              cases imported
              exact .inr (.inr (.inr (.inr ⟨sender, signature, rfl, rfl⟩)))

variable {accumulator message}

/-- A prepare stored after an import was stored before, or is the one that
the import accepted. -/
theorem lookup_prepares_importOrKeep {sender : V} {vote : D × S}
    (stored : (accumulator.importOrKeep message).prepares.lookup sender = some vote) :
    accumulator.prepares.lookup sender = some vote ∨
      message = .vote ⟨.prepare accumulator.roundNumber vote.1, sender, vote.2⟩ := by
  rcases importOrKeep_cases accumulator message with
    same | ⟨proposal, -, -, imported⟩ | ⟨digest, voter, signature, rfl, imported⟩ |
      ⟨digest, voter, signature, -, imported⟩ | ⟨voter, signature, -, advanced⟩
  · exact .inl (same ▸ stored)
  · rw [importProposal_ok _ imported] at stored
    exact .inl stored
  · rcases importPrepare_ok_eq _ imported with ⟨-, unchanged⟩ | ⟨-, state, updated, -⟩
    · exact .inl (unchanged ▸ stored)
    · rw [updated] at stored
      by_cases same : sender = voter
      · subst same
        rw [AList.lookup_insert, Option.some.injEq] at stored
        subst stored
        exact .inr rfl
      · rw [AList.lookup_insert_ne same] at stored
        exact .inl stored
  · rcases importCommit_ok_eq _ imported with ⟨-, unchanged⟩ | ⟨-, state, updated, -⟩
    · exact .inl (unchanged ▸ stored)
    · rw [updated] at stored
      exact .inl stored
  · rw [advanced, importAdvanceRound_prepares] at stored
    exact .inl stored

/-- A commit stored after an import was stored before, or is the one that
the import accepted. -/
theorem lookup_commits_importOrKeep {sender : V} {vote : D × S}
    (stored : (accumulator.importOrKeep message).commits.lookup sender = some vote) :
    accumulator.commits.lookup sender = some vote ∨
      message = .vote ⟨.commit accumulator.roundNumber vote.1, sender, vote.2⟩ := by
  rcases importOrKeep_cases accumulator message with
    same | ⟨proposal, -, -, imported⟩ | ⟨digest, voter, signature, -, imported⟩ |
      ⟨digest, voter, signature, rfl, imported⟩ | ⟨voter, signature, -, advanced⟩
  · exact .inl (same ▸ stored)
  · rw [importProposal_ok _ imported] at stored
    exact .inl stored
  · rcases importPrepare_ok_eq _ imported with ⟨-, unchanged⟩ | ⟨-, state, updated, -⟩
    · exact .inl (unchanged ▸ stored)
    · rw [updated] at stored
      exact .inl stored
  · rcases importCommit_ok_eq _ imported with ⟨-, unchanged⟩ | ⟨-, state, updated, -⟩
    · exact .inl (unchanged ▸ stored)
    · rw [updated] at stored
      by_cases same : sender = voter
      · subst same
        rw [AList.lookup_insert, Option.some.injEq] at stored
        subst stored
        exact .inr rfl
      · rw [AList.lookup_insert_ne same] at stored
        exact .inl stored
  · rw [advanced, importAdvanceRound_commits] at stored
    exact .inl stored

/-- A proposal stored after an import was stored before, or is one of the
round's proposer the import accepted, with the same digest. -/
theorem proposal_importOrKeep {stored : Proposal C D S}
    (found : (accumulator.importOrKeep message).proposal = some stored) :
    accumulator.proposal = some stored ∨
      ∃ proposal, message = .propose proposal ∧ proposal.roundNumber = accumulator.roundNumber ∧
        proposal.sender = accumulator.roundProposer ∧ proposal.digest = stored.digest := by
  rcases importOrKeep_cases accumulator message with
    same | ⟨proposal, rfl, sameRound, imported⟩ | ⟨digest, voter, signature, -, imported⟩ |
      ⟨digest, voter, signature, -, imported⟩ | ⟨voter, signature, -, advanced⟩
  · exact .inl (same ▸ found)
  · have proposer := (importProposal_ok_guard _ imported).1
    rw [importProposal_ok _ imported] at found
    simp only [noteProposal, Option.some.injEq] at found
    exact .inr ⟨proposal, rfl, sameRound, proposer, by rw [← found]⟩
  · rcases importPrepare_ok_eq _ imported with ⟨-, unchanged⟩ | ⟨-, state, updated, -⟩
    · exact .inl (unchanged ▸ found)
    · rw [updated] at found
      exact .inl found
  · rcases importCommit_ok_eq _ imported with ⟨-, unchanged⟩ | ⟨-, state, updated, -⟩
    · exact .inl (unchanged ▸ found)
    · rw [updated] at found
      exact .inl found
  · rw [advanced, importAdvanceRound_proposal] at found
    exact .inl found

end Accumulator

/-! ## Accumulators fed an authority's messages -/

/-- What an accumulator holds of `voter` came from the messages `sent`: its
proposer is the round's primary, and the proposal of a round `voter` is the
primary of, the stored prepare of `voter` and its stored commit are messages of
`sent` of the accumulator's round. -/
structure OwnRecorded (roundProposer : Nat → V) (voter : V) (sent : List (LocalizedMessage C D V S))
    (accumulator : Accumulator C D V S) : Prop where
  proposer_eq : accumulator.roundProposer = roundProposer accumulator.roundNumber
  proposal : accumulator.roundProposer = voter → ∀ stored, accumulator.proposal = some stored →
    ∃ proposal, LocalizedMessage.propose proposal ∈ sent ∧ proposal.sender = voter ∧
      proposal.roundNumber = accumulator.roundNumber ∧ proposal.digest = stored.digest
  prepare : ∀ vote, accumulator.prepares.lookup voter = some vote →
    LocalizedMessage.vote ⟨.prepare accumulator.roundNumber vote.1, voter, vote.2⟩ ∈ sent
  commit : ∀ vote, accumulator.commits.lookup voter = some vote →
    LocalizedMessage.vote ⟨.commit accumulator.roundNumber vote.1, voter, vote.2⟩ ∈ sent

variable {roundProposer : Nat → V} {voter : V} {sent : List (LocalizedMessage C D V S)}

/-- A fresh accumulator records every message the voter sent, having nothing of its own. -/
theorem ownRecorded_new (round threshold : Nat) :
    OwnRecorded roundProposer voter sent (Accumulator.new round threshold (roundProposer round)) where
  proposer_eq := rfl
  proposal := by simp [Accumulator.new]
  prepare := by simp [Accumulator.new]
  commit := by simp [Accumulator.new]

namespace OwnRecorded

variable {accumulator : Accumulator C D V S} (recorded : OwnRecorded roundProposer voter sent accumulator)
include recorded

/-- Importing a message keeps what is recorded of `voter`, when a message
signed as `voter` is one it sent. -/
theorem importOrKeep {message : LocalizedMessage C D V S}
    (legit : message.sender = voter → message ∈ sent) :
    OwnRecorded roundProposer voter sent (accumulator.importOrKeep message) := by
  obtain ⟨sameRound, -, sameProposer⟩ := (Accumulator.importStep_importOrKeep accumulator message).constants_eq
  refine ⟨by rw [sameRound, sameProposer]; exact recorded.proposer_eq, ?_, ?_, ?_⟩
  · intro primary stored found
    rw [sameProposer] at primary
    rw [sameRound]
    rcases Accumulator.proposal_importOrKeep found with old | ⟨proposal, rfl, round, sender, digest⟩
    · exact recorded.proposal primary stored old
    · -- the proposal came from the primary, `voter` itself
      have own : proposal.sender = voter := sender.trans primary
      exact ⟨proposal, legit own, own, round, digest⟩
  · intro vote stored
    rw [sameRound]
    rcases Accumulator.lookup_prepares_importOrKeep stored with old | rfl
    · exact recorded.prepare vote old
    · exact legit rfl
  · intro vote stored
    rw [sameRound]
    rcases Accumulator.lookup_commits_importOrKeep stored with old | rfl
    · exact recorded.commit vote old
    · exact legit rfl

/-- What the accumulator records of the voter stays recorded as more messages are sent. -/
theorem mono {more : List (LocalizedMessage C D V S)} (grows : ∀ message ∈ sent, message ∈ more) :
    OwnRecorded roundProposer voter more accumulator where
  proposer_eq := recorded.proposer_eq
  proposal primary stored found := by
    obtain ⟨proposal, member, rest⟩ := recorded.proposal primary stored found
    exact ⟨proposal, grows _ member, rest⟩
  prepare vote stored := grows _ (recorded.prepare vote stored)
  commit vote stored := grows _ (recorded.commit vote stored)

/-- The accumulator never rejects a message `voter` sent: it proposes only in
its turn, and its stored proposal, prepare and commit are the only ones of their
stage it sent in the round. -/
theorem importMessage_ne_error (unequivocal : Unequivocal roundProposer voter sent)
    {message : LocalizedMessage C D V S} (sender : message.sender = voter) (member : message ∈ sent)
    (misbehavior : Misbehavior D S) :
    accumulator.importMessage message ≠ .error misbehavior := by
  intro imported
  by_cases sameRound : message.roundNumber = accumulator.roundNumber
  swap
  · rw [Accumulator.importMessage_of_ne _ sameRound] at imported
    cases imported
  rcases message with proposal | ⟨vote, voter, signature⟩
  · rw [Accumulator.importMessage_propose _ sameRound] at imported
    unfold Accumulator.importProposal at imported
    split_ifs at imported with outOfTurn
    · -- `voter` is the primary of the round it proposes in
      refine outOfTurn (sender.trans ?_)
      rw [recorded.proposer_eq, ← sameRound]
      exact (unequivocal.proposer proposal member sender).symm
    · split at imported
      · rename_i old stored
        split_ifs at imported with differs
        obtain ⟨first, firstMember, firstSender, firstRound, firstDigest⟩ :=
          recorded.proposal (not_not.mp outOfTurn ▸ sender) old stored
        have same := unequivocal.unique _ firstMember _ member firstSender sender
          (firstRound.trans sameRound.symm) rfl
        cases same
        exact differs firstDigest.symm
      · cases imported
  · simp only [LocalizedMessage.sender] at sender
    subst sender
    cases vote with
    | prepare round digest =>
        replace sameRound : round = accumulator.roundNumber := sameRound
        rw [Accumulator.importMessage_prepare _ _ _ _ sameRound] at imported
        obtain ⟨first, stored, differs, -⟩ := Accumulator.importPrepare_error_eq _ imported
        have same := unequivocal.unique _ (recorded.prepare first stored) _ member rfl rfl sameRound.symm rfl
        simp only [LocalizedMessage.vote.injEq, LocalizedVote.mk.injEq, Vote.prepare.injEq] at same
        exact differs same.1.2
    | commit round digest =>
        replace sameRound : round = accumulator.roundNumber := sameRound
        rw [Accumulator.importMessage_commit _ _ _ _ sameRound] at imported
        obtain ⟨first, stored, differs, -⟩ := Accumulator.importCommit_error_eq _ imported
        have same := unequivocal.unique _ (recorded.commit first stored) _ member rfl rfl sameRound.symm rfl
        simp only [LocalizedMessage.vote.injEq, LocalizedVote.mk.injEq, Vote.commit.injEq] at same
        exact differs same.1.2
    | advanceRound round =>
        replace sameRound : round = accumulator.roundNumber := sameRound
        rw [Accumulator.importMessage_advanceRound _ _ _ sameRound] at imported
        cases imported

end OwnRecorded

/-! ## The strategy of the local authority -/

namespace Strategy

/-- `import_message` records misbehavior only against the message's sender, and
only when the accumulator of its round rejects the message. -/
theorem lookup_misbehavior_importMessage (context : Context C D V S) (strategy : Strategy C D V S)
    (message : LocalizedMessage C D V S) (voter : V) :
    (strategy.importMessage context message).misbehavior.lookup voter = strategy.misbehavior.lookup voter ∨
      message.sender = voter ∧ ∃ misbehavior,
        (message.roundNumber = strategy.currentRound ∧
          strategy.currentAccumulator.importMessage message = .error misbehavior) ∨
        (strategy.currentRound < message.roundNumber ∧
          (strategy.futureAccumulator context message.roundNumber).importMessage message = .error misbehavior) := by
  unfold importMessage
  dsimp only
  split_ifs with current later
  · split
    · exact .inl rfl
    · rename_i misbehavior rejected
      by_cases same : message.sender = voter
      · exact .inr ⟨same, misbehavior, .inl ⟨current, rejected⟩⟩
      · exact .inl (AList.lookup_insert_ne (Ne.symm same))
  · split
    · exact .inl rfl
    · rename_i misbehavior rejected
      by_cases same : message.sender = voter
      · exact .inr ⟨same, misbehavior, .inr ⟨later, rejected⟩⟩
      · exact .inl (AList.lookup_insert_ne (Ne.symm same))
  · exact .inl rfl

end Strategy

/-- What the strategy of `context` holds of `voter` came from the messages
`sent`, and no misbehavior is recorded against `voter`. -/
structure Unblamed (context : Context C D V S) (voter : V) (strategy : Strategy C D V S)
    (sent : List (LocalizedMessage C D V S)) : Prop where
  current : OwnRecorded context.roundProposer voter sent strategy.currentAccumulator
  future : ∀ round accumulator, strategy.futureAccumulators.lookup round = some accumulator →
    OwnRecorded context.roundProposer voter sent accumulator
  blameless : strategy.misbehavior.lookup voter = none

variable {context : Context C D V S}

/-- A fresh strategy blames no honest voter. -/
theorem unblamed_create (nodes maxFaulty : Nat) :
    Unblamed context voter (Strategy.create context nodes maxFaulty) sent where
  current := ownRecorded_new 0 _
  future := by simp [Strategy.create]
  blameless := by simp [Strategy.create]

namespace Unblamed

variable {strategy : Strategy C D V S} (unblamed : Unblamed context voter strategy sent)
include unblamed

/-- Only the accumulators and the recorded misbehavior matter. -/
theorem of_importsAlike {next : Strategy C D V S} (alike : next.ImportsAlike strategy) :
    Unblamed context voter next sent where
  current := alike.current ▸ unblamed.current
  future := alike.future ▸ unblamed.future
  blameless := alike.misbehavior ▸ unblamed.blameless

/-- A strategy that blames no honest voter keeps so as more messages are sent. -/
theorem mono {more : List (LocalizedMessage C D V S)} (grows : ∀ message ∈ sent, message ∈ more) :
    Unblamed context voter strategy more where
  current := unblamed.current.mono grows
  future round accumulator found := (unblamed.future round accumulator found).mono grows
  blameless := unblamed.blameless

/-- The accumulator a message of a later round goes to. -/
theorem futureAccumulator (round : Nat) :
    OwnRecorded context.roundProposer voter sent (strategy.futureAccumulator context round) := by
  unfold Strategy.futureAccumulator
  cases found : strategy.futureAccumulators.lookup round with
  | some accumulator => exact unblamed.future round accumulator found
  | none => exact ownRecorded_new round _

/-- Importing a message keeps the strategy unblamed, when the messages `voter`
sent never equivocate and a message signed as `voter` is one it sent. -/
theorem importMessage (unequivocal : Unequivocal context.roundProposer voter sent)
    {message : LocalizedMessage C D V S} (legit : message.sender = voter → message ∈ sent) :
    Unblamed context voter (strategy.importMessage context message) sent := by
  obtain ⟨recorded, imported⟩ := Strategy.importMessage_eq context strategy message
  refine ⟨?_, ?_, ?_⟩
  · rw [imported]
    dsimp only
    split_ifs
    · exact unblamed.current.importOrKeep legit
    · exact unblamed.current
  · rw [imported]
    intro round accumulator found
    dsimp only at found
    split_ifs at found
    · by_cases same : round = message.roundNumber
      · subst same
        rw [AList.lookup_insert, Option.some.injEq] at found
        subst found
        exact (unblamed.futureAccumulator message.roundNumber).importOrKeep legit
      · rw [AList.lookup_insert_ne same] at found
        exact unblamed.future round accumulator found
    · exact unblamed.future round accumulator found
  · rcases Strategy.lookup_misbehavior_importMessage context strategy message voter with
      same | ⟨sender, misbehavior, ⟨-, rejected⟩ | ⟨-, rejected⟩⟩
    · rw [same]
      exact unblamed.blameless
    -- no accumulator rejects a message of `voter`
    · exact absurd rejected (unblamed.current.importMessage_ne_error unequivocal sender (legit sender) misbehavior)
    · exact absurd rejected
        ((unblamed.futureAccumulator _).importMessage_ne_error unequivocal sender (legit sender) misbehavior)

/-- Moving to a later round keeps the strategy unblamed: the accumulator it
takes is a stored or a fresh one. -/
theorem advanceToRound {round : Nat} {next : Strategy C D V S}
    (advanced : strategy.advanceToRound context round = some next) : Unblamed context voter next sent := by
  unfold Strategy.advanceToRound at advanced
  split_ifs at advanced
  cases advanced
  set futures := (List.range' (strategy.currentRound + 1) (round - (strategy.currentRound + 1))).foldl
    (fun futures irrelevant => futures.erase irrelevant) strategy.futureAccumulators with futuresEq
  have kept : ∀ key accumulator, futures.lookup key = some accumulator →
      OwnRecorded context.roundProposer voter sent accumulator := by
    intro key accumulator found
    rw [futuresEq, Foundations.lookup_foldl_erase] at found
    split_ifs at found
    exact unblamed.future key accumulator found
  refine ⟨?_, ?_, unblamed.blameless⟩
  · show OwnRecorded context.roundProposer voter sent ((futures.lookup round).getD _)
    cases found : futures.lookup round with
    | some accumulator => exact kept round accumulator found
    | none => exact ownRecorded_new round _
  · intro key accumulator found
    by_cases same : key = round
    · subst same
      simp at found
    · rw [AList.lookup_erase_ne same] at found
      exact kept key accumulator found

/-- Importing a lock proof keeps the strategy unblamed: the lock is no part of
it. -/
theorem importLockProof {justification : Justification D S} {next : Strategy C D V S}
    (imported : strategy.importLockProof context justification = some next) : Unblamed context voter next sent := by
  have locks : ∀ moved : Strategy C D V S, Unblamed context voter moved sent → ∀ lockToNew : Bool,
      Unblamed context voter (if lockToNew = true then { moved with locked := some justification } else moved)
        sent := by
    intro moved movedUnblamed lockToNew
    split_ifs
    · exact movedUnblamed.of_importsAlike ⟨rfl, rfl, rfl⟩
    · exact movedUnblamed
  unfold Strategy.importLockProof at imported
  split_ifs at imported
  · cases advanced : strategy.advanceToRound context justification.unchecked.roundNumber with
    | none => simp [advanced] at imported
    | some moved =>
        simp only [advanced, Option.bind_eq_bind, Option.bind_some, Option.pure_def,
          Option.some.injEq] at imported
        exact imported ▸ locks moved (unblamed.advanceToRound advanced) _
  · simp only [Option.pure_def, Option.bind_eq_bind, Option.bind_some, Option.some.injEq] at imported
    exact imported ▸ locks strategy unblamed _

/-- Each of the four operations of a poll keeps the strategy unblamed, when the
messages it signs are among `sent` and those of `voter` never equivocate. -/
theorem operation (unequivocal : Unequivocal context.roundProposer voter sent) {stage : Nat}
    {next : Strategy C D V S} {out : Log C D V S} (sends : Sends context stage strategy next out)
    (sentIn : ∀ message ∈ consensusOf out, message ∈ sent) : Unblamed context voter next sent := by
  cases sends with
  | silent _ _ alike _ => exact unblamed.of_importsAlike alike
  | signs message before _ _ _ _ _ _ beforeAlike nextAlike signed =>
      have own : context.signLocal message ∈ sent := sentIn _ (by rw [signed]; exact List.mem_singleton_self _)
      exact ((unblamed.of_importsAlike beforeAlike).importMessage unequivocal fun _ => own).of_importsAlike nextAlike

omit unblamed in
/-- `poll_once` keeps the strategy unblamed, when the messages it sends are
among `sent` and those of `voter` never equivocate. -/
theorem pollOnce (unblamed : Unblamed context voter strategy sent)
    (unequivocal : Unequivocal context.roundProposer voter sent)
    {resolutions : Resolutions C} {next : Strategy C D V S} {out : Log C D V S}
    {committed : Option (Committed C D S)}
    (polled : strategy.pollOnce context resolutions = some (next, out, committed))
    (sentIn : ∀ message ∈ consensusOf out, message ∈ sent) : Unblamed context voter next sent := by
  -- a strategy stays unblamed over `sent` while what it has sent of the poll is among `sent`
  have operation : ∀ {stage : Nat} {strategy next : Strategy C D V S} {out : Log C D V S},
      Sends context stage strategy next out → ∀ soFar : List (LocalizedMessage C D V S),
      ((∀ message ∈ soFar, message ∈ sent) → Unblamed context voter strategy sent) →
      (∀ message ∈ soFar ++ consensusOf out, message ∈ sent) → Unblamed context voter next sent := by
    intro stage strategy next out sends soFar before within
    exact (before fun message member => within message (List.mem_append_left _ member)).operation unequivocal
      sends fun message member => within message (List.mem_append_right _ member)
  have kept := Strategy.pollOnce_induction context strategy resolutions
    (fun strategy soFar => (∀ message ∈ soFar, message ∈ sent) → Unblamed context voter strategy sent)
    (fun strategy => operation (strategy.propose_sends context resolutions))
    (fun strategy => operation (strategy.prepare_sends context resolutions))
    (fun strategy => operation (strategy.commit_sends context))
    (fun strategy => operation (strategy.voteAdvance_sends context resolutions))
    (fun _ _ _ before _ within => (before within).of_importsAlike ⟨rfl, rfl, rfl⟩)
    (fun _ _ _ before advanced within => (before within).advanceToRound advanced)
    (show (∀ message ∈ ([] : List (LocalizedMessage C D V S)), message ∈ sent) →
      Unblamed context voter strategy sent from fun _ => unblamed) polled
  exact kept fun message member => sentIn message (by simpa using member)

end Unblamed

/-- A consensus message the strategy of `context` can be given when signatures
cannot be forged: one signed as its own authority is one it sent. -/
def Unforged (context : Context C D V S) (sent : Log C D V S) (message : LocalizedMessage C D V S) : Prop :=
  message.sender = context.localId → Communication.consensus message ∈ sent

/-- Along every run from `create` that imports only unforged messages, the
strategy is unblamed over the messages it sent. -/
theorem unblamed_of_run {nodes maxFaulty : Nat} {state : Strategy C D V S × Log C D V S}
    (run : Relation.ReflTransGen (Strategy.LoggedStep context (Unforged context))
      (Strategy.create context nodes maxFaulty, []) state) :
    Unblamed context context.localId state.1 (consensusOf state.2) := by
  induction run with
  | refl => exact unblamed_create nodes maxFaulty
  | tail before step unblamed =>
      -- the messages sent so far, the poll's included, never equivocate
      have unequivocal := (disciplined_of_run (before.tail step)).unequivocal
      cases step with
      | importMessage strategy sent message unforged =>
          exact unblamed.importMessage unequivocal fun own => mem_consensusOf.mpr (unforged own)
      | importLockProof sent justification imported => exact unblamed.importLockProof imported
      | pollOnce sent resolutions polled =>
          rw [consensusOf_append] at unequivocal ⊢
          exact (unblamed.mono fun message member => List.mem_append_left _ member).pollOnce unequivocal polled
            fun message member => List.mem_append_right _ member

/-! ## The honest strategy -/

/-- An honest strategy never equivocates and respects its lock.  Along every
run from `create`, whatever messages and lock proofs it imports and however its
futures resolve, the consensus messages it sent are its own, a proposal only of
a round it is the primary of, and in each round they come in the order of their
stages, at most one of each.  A prepare a poll sends is for the digest of the
lock the strategy held, if any.  And along every run that imports no forged
message, no misbehavior is recorded against the local authority. -/
theorem strategy_never_equivocates (context : Context C D V S) (nodes maxFaulty : Nat) :
    (∀ {strategy : Strategy C D V S} {sent : Log C D V S},
      Relation.ReflTransGen (Strategy.LoggedStep context fun _ _ => True)
        (Strategy.create context nodes maxFaulty, []) (strategy, sent) →
      (∀ message ∈ consensusOf sent, message.sender = context.localId) ∧
      (∀ proposal, LocalizedMessage.propose proposal ∈ consensusOf sent →
        context.localId = context.roundProposer proposal.roundNumber) ∧
      (∀ round stage, ((roundOf (consensusOf sent) round).map LocalizedMessage.stage).count stage ≤ 1) ∧
      ∀ round, (roundOf (consensusOf sent) round).Pairwise fun first second => first.stage < second.stage) ∧
    (∀ (strategy : Strategy C D V S) (resolutions : Resolutions C) (next : Strategy C D V S) (out : Log C D V S)
      (committed : Option (Committed C D S)), strategy.pollOnce context resolutions = some (next, out, committed) →
      ∀ round digest sender signature,
        LocalizedMessage.vote ⟨.prepare round digest, sender, signature⟩ ∈ consensusOf out →
        ∀ locked, strategy.locked = some locked → locked.unchecked.digest = digest) ∧
    ∀ {strategy : Strategy C D V S} {sent : Log C D V S},
      Relation.ReflTransGen (Strategy.LoggedStep context (Unforged context))
        (Strategy.create context nodes maxFaulty, []) (strategy, sent) →
      strategy.misbehavior.lookup context.localId = none := by
  refine ⟨fun run => ?_, ?_, fun run => (unblamed_of_run run).blameless⟩
  · have disc := disciplined_of_run run
    exact ⟨fun message member => (disc.signed message member).1,
      fun proposal member => (disc.proposer proposal member).symm, disc.count_stage_le_one, disc.ordered⟩
  · intro strategy resolutions _ _ _ polled _ _ _ _ member
    exact Strategy.pollOnce_prepare_locked context strategy resolutions polled member

/-- Authority 1 of four imports the proposal of 5 and two prepares of round 0,
none signed as itself, prepares and commits in a poll, imports a lock proof of
round 1 and polls again: what it sent is its prepare and its commit of 5, in
order, and nothing is recorded against it. -/
theorem strategy_never_equivocates_run :
    ∃ (strategy : Strategy Nat Nat Nat Nat) (sent : Log Nat Nat Nat Nat),
      Relation.ReflTransGen (Strategy.LoggedStep (singleContexts 1) fun _ _ => True)
          (Strategy.create (singleContexts 1) 4 1, []) (strategy, sent) ∧
        Relation.ReflTransGen (Strategy.LoggedStep (singleContexts 1) (Unforged (singleContexts 1)))
          (Strategy.create (singleContexts 1) 4 1, []) (strategy, sent) ∧
        consensusOf sent = [.vote ⟨.prepare 0 5, 1, 0⟩, .vote ⟨.commit 0 5, 1, 0⟩] ∧
        ((∀ message ∈ consensusOf sent, message.sender = (singleContexts 1).localId) ∧
          (∀ proposal, LocalizedMessage.propose proposal ∈ consensusOf sent →
            (singleContexts 1).localId = (singleContexts 1).roundProposer proposal.roundNumber) ∧
          (∀ round stage, ((roundOf (consensusOf sent) round).map LocalizedMessage.stage).count stage ≤ 1) ∧
          ∀ round, (roundOf (consensusOf sent) round).Pairwise fun first second => first.stage < second.stage) ∧
        strategy.misbehavior.lookup (singleContexts 1).localId = none := by
  -- the same run under either discipline of imports: nothing imported is signed as 1
  have run := fun (admits : Log Nat Nat Nat Nat → LocalizedMessage Nat Nat Nat Nat → Prop)
      (others : ∀ sent (message : LocalizedMessage Nat Nat Nat Nat), message.sender ≠ 1 → admits sent message) =>
    have imported : Relation.ReflTransGen (Strategy.LoggedStep (singleContexts 1) admits)
        (Strategy.create (singleContexts 1) 4 1, []) _ :=
      ((Relation.ReflTransGen.refl.tail (.importMessage _ _ (.propose ⟨0, 5, 5, 0, 0, 0⟩)
        (others _ _ (by decide)))).tail (.importMessage _ _ (.vote ⟨.prepare 0 5, 0, 0⟩)
        (others _ _ (by decide)))).tail (.importMessage _ _ (.vote ⟨.prepare 0 5, 3, 3⟩)
        (others _ _ (by decide)))
    have polled := imported.tail (.pollOnce _ ⟨none, some true, false⟩ rfl)
    have locked := polled.tail (.importLockProof _ ⟨⟨1, 5, [0, 1, 3]⟩⟩ rfl)
    locked.tail (.pollOnce _ ⟨none, none, false⟩ rfl)
  have trusting := run (fun _ _ => True) fun _ _ _ => trivial
  have unforged := run (Unforged (singleContexts 1)) fun _ _ other same => absurd same other
  obtain ⟨disciplined, -, blameless⟩ := strategy_never_equivocates (singleContexts 1) 4 1
  exact ⟨_, _, trusting, unforged, rfl, disciplined trusting, blameless unforged⟩

/-- Two forged prepares of round 0 for different digests, signed as the local
authority: the second is recorded as its double prepare. -/
theorem forged_prepares_blame_local_id :
    ∃ strategy : Strategy Nat Nat Nat Nat,
      Relation.ReflTransGen (Strategy.LoggedStep (singleContexts 0) fun _ _ => True)
        (Strategy.create (singleContexts 0) 1 0, []) (strategy, []) ∧
      strategy.misbehavior.lookup (singleContexts 0).localId = some (.doublePrepare 0 (1, 0) (2, 0)) :=
  ⟨_, .tail (.tail .refl (.importMessage _ _ (.vote ⟨.prepare 0 1, 0, 0⟩) trivial))
      (.importMessage _ _ (.vote ⟨.prepare 0 2, 0, 0⟩) trivial), rfl⟩

end Bft
end Polkadot
