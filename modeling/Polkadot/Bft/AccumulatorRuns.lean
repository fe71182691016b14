import Polkadot.Bft.AccumulatorSound

/-!
# Runs of an accumulator

What a run of imports does to an accumulator of `generic/accumulator.rs`.
An import that reports misbehavior returns before it writes, so it leaves
the accumulator as it was.  The state only moves forward (`State.MovesTo`):
`Prepared(j)` to `Advanced(Some j)` or `Committed`, `Advanced` to
`Committed`, and `Committed` stays `Committed`.  Importing a message again
changes nothing but the stored proposal: a proposal of the same digest with
another candidate or signature overwrites it.

When no sender commits two digests and exactly one digest has commits from at
least `threshold` senders, every order of the messages ends committed to that
digest: the first commits of the senders are counted per digest whatever the
order, a count at the threshold commits, and a commit is only ever replaced by
another commit, whose digest is at the threshold too.
-/

namespace Polkadot
namespace Bft

set_option linter.unusedSectionVars false

variable {C D V S : Type} [DecidableEq D] [DecidableEq V]

/-! ## How the state of a round moves on -/

/-- The moves of a round's state over one import: `Prepared(j)` only to
`Advanced(Some j)` or `Committed`, `Advanced` only to `Committed`, and
`Committed` only to `Committed`; `Proposed` anywhere but back to `Begin`. -/
def State.MovesTo : State C D S → State C D S → Prop
  | .prepared justification, next =>
      next = .prepared justification ∨ next = .advanced (some justification) ∨
        ∃ committed, next = .committed committed
  | .advanced justification, next =>
      next = .advanced justification ∨ ∃ committed, next = .committed committed
  | .committed _, next => ∃ committed, next = .committed committed
  | .proposed _, next => next ≠ .begin
  | .begin, _ => True

namespace State

/-- Every state moves to itself. -/
theorem MovesTo.refl (state : State C D S) : state.MovesTo state := by
  cases state with
  | begin => trivial
  | proposed _ => nofun
  | prepared justification => exact .inl rfl
  | advanced justification => exact .inl rfl
  | committed justification => exact ⟨justification, rfl⟩

/-- Every state may move to a commit. -/
theorem movesTo_committed (state : State C D S) (justification : Justification D S) :
    state.MovesTo (.committed justification) := by
  cases state with
  | begin => trivial
  | proposed _ => nofun
  | prepared _ => exact .inr (.inr ⟨justification, rfl⟩)
  | advanced _ => exact .inr ⟨justification, rfl⟩
  | committed _ => exact ⟨justification, rfl⟩

/-- A state past `Begin` never moves back to it. -/
theorem MovesTo.ne_begin {state next : State C D S} (moves : state.MovesTo next)
    (started : state ≠ .begin) : next ≠ .begin := by
  cases state with
  | begin => exact absurd rfl started
  | proposed _ => exact moves
  | prepared _ => rcases moves with rfl | rfl | ⟨_, rfl⟩ <;> nofun
  | advanced _ => rcases moves with rfl | ⟨_, rfl⟩ <;> nofun
  | committed _ =>
      obtain ⟨_, rfl⟩ := moves
      nofun

/-- Moves between states compose. -/
theorem MovesTo.trans {first second third : State C D S} (one : first.MovesTo second)
    (two : second.MovesTo third) : first.MovesTo third := by
  cases first with
  | begin => trivial
  | proposed _ => exact two.ne_begin one
  | prepared justification =>
      rcases one with rfl | rfl | ⟨committed, rfl⟩
      · exact two
      · rcases two with same | later
        · exact .inr (.inl same)
        · exact .inr (.inr later)
      · exact .inr (.inr two)
  | advanced justification =>
      rcases one with rfl | ⟨committed, rfl⟩
      · exact two
      · exact .inr two
  | committed justification =>
      obtain ⟨committed, rfl⟩ := one
      exact two

/-- The state after a threshold of advance votes: `Advanced` or `Committed`. -/
def AdvancedOrCommitted : State C D S → Prop
  | .advanced _ | .committed _ => True
  | _ => False

/-- A state past `AdvanceRound` or a commit moves only to such states. -/
theorem MovesTo.advancedOrCommitted {state next : State C D S} (moves : state.MovesTo next)
    (past : state.AdvancedOrCommitted) : next.AdvancedOrCommitted := by
  cases state with
  | begin | proposed _ | prepared _ => exact absurd past id
  | advanced _ => rcases moves with rfl | ⟨_, rfl⟩ <;> trivial
  | committed _ =>
      obtain ⟨_, rfl⟩ := moves
      trivial

/-- A committed state stays committed. -/
theorem MovesTo.committed {justification : Justification D S} {next : State C D S}
    (moves : (State.committed justification : State C D S).MovesTo next) :
    ∃ committed, next = .committed committed :=
  moves

end State

namespace Accumulator

/-! ## What one import does -/

/-- One import, as `importOrKeep` performs it: nothing, or an accepted
proposal, prepare, commit or advance vote. -/
inductive ImportStep (accumulator : Accumulator C D V S) : Accumulator C D V S → Prop
  | keep : ImportStep accumulator accumulator
  | proposal (proposal : LocalizedProposal C D V S) {updated : Accumulator C D V S} :
      accumulator.importProposal proposal = .ok updated → ImportStep accumulator updated
  | prepare (digest : D) (sender : V) (signature : S) {updated : Accumulator C D V S} :
      accumulator.importPrepare digest sender signature = .ok updated →
        ImportStep accumulator updated
  | commit (digest : D) (sender : V) (signature : S) {updated : Accumulator C D V S} :
      accumulator.importCommit digest sender signature = .ok updated →
        ImportStep accumulator updated
  | advanceRound (sender : V) : ImportStep accumulator (accumulator.importAdvanceRound sender)

/-- Importing a message, or keeping the accumulator on misbehaviour, is one import step. -/
theorem importStep_importOrKeep (accumulator : Accumulator C D V S)
    (message : LocalizedMessage C D V S) : ImportStep accumulator (accumulator.importOrKeep message) := by
  unfold importOrKeep
  cases imported : accumulator.importMessage message with
  | error _ => exact .keep
  | ok updated =>
      unfold importMessage at imported
      split_ifs at imported
      · cases imported
        exact .keep
      · rcases message with proposal | ⟨vote, sender, signature⟩
        · exact .proposal proposal imported
        · cases vote with
          | prepare _ digest => exact .prepare digest sender signature imported
          | commit _ digest => exact .commit digest sender signature imported
          | advanceRound _ =>
              cases imported
              exact .advanceRound sender

/-! ## Accepted imports -/

variable (accumulator : Accumulator C D V S)

/-- An accepted proposal comes from the round's proposer and agrees with the
stored proposal's digest. -/
theorem importProposal_ok_guard {proposal : LocalizedProposal C D V S}
    {updated : Accumulator C D V S} (imported : accumulator.importProposal proposal = .ok updated) :
    proposal.sender = accumulator.roundProposer ∧
      ∀ old, accumulator.proposal = some old → old.digest = proposal.digest := by
  unfold importProposal at imported
  split_ifs at imported with outOfTurn
  refine ⟨not_not.mp outOfTurn, fun old stored => ?_⟩
  rw [stored] at imported
  dsimp only at imported
  split_ifs at imported with differs
  exact not_not.mp differs

/-- A proposal from the proposer that agrees with the stored digest is noted. -/
theorem importProposal_eq_ok {proposal : LocalizedProposal C D V S}
    (proposer : proposal.sender = accumulator.roundProposer)
    (agrees : ∀ old, accumulator.proposal = some old → old.digest = proposal.digest) :
    accumulator.importProposal proposal = .ok (accumulator.noteProposal proposal) := by
  unfold importProposal
  rw [if_neg (not_not.mpr proposer)]
  cases stored : accumulator.proposal with
  | none => rfl
  | some old => simp [agrees old stored]

/-- An accepted prepare is a later one, which changes nothing, or the first of
its sender: stored and counted, and `Begin` or `Proposed` may become
`Prepared`. -/
theorem importPrepare_ok_eq {digest : D} {sender : V} {signature : S}
    {updated : Accumulator C D V S}
    (imported : accumulator.importPrepare digest sender signature = .ok updated) :
    (accumulator.prepares.lookup sender).isSome ∧ updated = accumulator ∨
      accumulator.prepares.lookup sender = none ∧
        ∃ state, updated = { accumulator with
            prepares := accumulator.prepares.insert sender (digest, signature)
            voteCounts := accumulator.voteCounts.insert digest
              { accumulator.countsOf digest with
                prepared := (accumulator.countsOf digest).prepared + 1 }
            state := state } ∧
          (state = accumulator.state ∨
            (accumulator.state = .begin ∨ ∃ candidate, accumulator.state = .proposed candidate) ∧
              ∃ justification, state = .prepared justification) := by
  unfold importPrepare at imported
  cases found : accumulator.prepares.lookup sender with
  | some first =>
      rw [found] at imported
      dsimp only at imported
      split_ifs at imported
      cases imported
      exact .inl ⟨rfl, rfl⟩
  | none =>
      rw [found] at imported
      dsimp only at imported
      refine .inr ⟨rfl, ?_⟩
      split_ifs at imported with transition
      · cases imported
        refine ⟨_, rfl, .inr ⟨?_, _, rfl⟩⟩
        -- only `Begin` and `Proposed` pass the transition check
        cases state : accumulator.state with
        | begin => exact .inl rfl
        | proposed candidate => exact .inr ⟨candidate, rfl⟩
        | prepared _ | committed _ | advanced _ => simp [state] at transition
      · cases imported
        exact ⟨_, rfl, .inl rfl⟩

/-- An accepted commit is a later one, which changes nothing, or the first of
its sender: stored and counted, and any state may become `Committed` once the
count reaches the threshold. -/
theorem importCommit_ok_eq {digest : D} {sender : V} {signature : S}
    {updated : Accumulator C D V S}
    (imported : accumulator.importCommit digest sender signature = .ok updated) :
    (accumulator.commits.lookup sender).isSome ∧ updated = accumulator ∨
      accumulator.commits.lookup sender = none ∧
        ∃ state, updated = { accumulator with
            commits := accumulator.commits.insert sender (digest, signature)
            voteCounts := accumulator.voteCounts.insert digest
              { accumulator.countsOf digest with
                committed := (accumulator.countsOf digest).committed + 1 }
            state := state } ∧
          (¬accumulator.threshold ≤ (accumulator.countsOf digest).committed + 1 ∧
              state = accumulator.state ∨
            accumulator.threshold ≤ (accumulator.countsOf digest).committed + 1 ∧
              state = .committed ⟨⟨accumulator.roundNumber, digest,
                signaturesFor (accumulator.commits.insert sender (digest, signature)) digest⟩⟩) := by
  unfold importCommit at imported
  cases found : accumulator.commits.lookup sender with
  | some first =>
      rw [found] at imported
      dsimp only at imported
      split_ifs at imported
      cases imported
      exact .inl ⟨rfl, rfl⟩
  | none =>
      rw [found] at imported
      dsimp only at imported
      refine .inr ⟨rfl, ?_⟩
      split_ifs at imported with reached
      · cases imported
        exact ⟨_, rfl, .inr ⟨reached, rfl⟩⟩
      · cases imported
        exact ⟨_, rfl, .inl ⟨reached, rfl⟩⟩

/-! ## What every import keeps -/

namespace ImportStep

variable {accumulator updated : Accumulator C D V S}

/-- An import step moves the state forward. -/
theorem movesTo (step : ImportStep accumulator updated) :
    accumulator.state.MovesTo updated.state := by
  cases step with
  | keep => exact .refl _
  | proposal proposal imported =>
      rw [importProposal_ok _ imported]
      unfold noteProposal
      split
      next begin =>
        rw [begin]
        trivial
      next => exact .refl _
  | prepare digest sender signature imported =>
      rcases importPrepare_ok_eq _ imported with ⟨-, rfl⟩ | ⟨-, state, rfl, same | ⟨initial, prepared⟩⟩
      · exact .refl _
      · exact same ▸ .refl _
      · obtain ⟨justification, rfl⟩ := prepared
        rcases initial with begin | ⟨candidate, proposed⟩
        · rw [begin]
          trivial
        · rw [proposed]
          nofun
  | commit digest sender signature imported =>
      rcases importCommit_ok_eq _ imported with ⟨-, rfl⟩ | ⟨-, state, rfl, ⟨-, same⟩ | ⟨-, committed⟩⟩
      · exact .refl _
      · exact same ▸ .refl _
      · exact committed ▸ State.movesTo_committed _ _
  | advanceRound sender =>
      unfold importAdvanceRound
      dsimp only
      split
      · exact .refl _
      · cases accumulator.state with
        | committed justification => exact ⟨justification, rfl⟩
        | prepared justification => exact .inr (.inl rfl)
        | advanced justification => exact .inl rfl
        | begin => trivial
        | proposed _ => nofun

/-- The round, its threshold and its proposer never change. -/
theorem constants_eq (step : ImportStep accumulator updated) :
    updated.roundNumber = accumulator.roundNumber ∧ updated.threshold = accumulator.threshold ∧
      updated.roundProposer = accumulator.roundProposer := by
  cases step with
  | keep => exact ⟨rfl, rfl, rfl⟩
  | proposal proposal imported =>
      rw [importProposal_ok _ imported]
      exact ⟨rfl, rfl, rfl⟩
  | prepare digest sender signature imported =>
      rcases importPrepare_ok_eq _ imported with ⟨-, rfl⟩ | ⟨-, state, rfl, -⟩ <;> exact ⟨rfl, rfl, rfl⟩
  | commit digest sender signature imported =>
      rcases importCommit_ok_eq _ imported with ⟨-, rfl⟩ | ⟨-, state, rfl, -⟩ <;> exact ⟨rfl, rfl, rfl⟩
  | advanceRound sender =>
      refine ⟨importAdvanceRound_roundNumber _ _, importAdvanceRound_threshold _ _, ?_⟩
      unfold importAdvanceRound
      dsimp only
      split <;> rfl

/-- A stored prepare stays stored. -/
theorem prepares_kept (step : ImportStep accumulator updated) {sender : V} {vote : D × S}
    (stored : accumulator.prepares.lookup sender = some vote) :
    updated.prepares.lookup sender = some vote := by
  cases step with
  | keep => exact stored
  | proposal proposal imported =>
      rw [importProposal_ok _ imported]
      exact stored
  | prepare digest voter signature imported =>
      rcases importPrepare_ok_eq _ imported with ⟨-, rfl⟩ | ⟨fresh, state, rfl, -⟩
      · exact stored
      · exact lookup_insert_of_fresh fresh _ sender vote stored
  | commit digest voter signature imported =>
      rcases importCommit_ok_eq _ imported with ⟨-, rfl⟩ | ⟨-, state, rfl, -⟩ <;> exact stored
  | advanceRound voter => rwa [importAdvanceRound_prepares]

/-- A stored commit stays stored. -/
theorem commits_kept (step : ImportStep accumulator updated) {sender : V} {vote : D × S}
    (stored : accumulator.commits.lookup sender = some vote) :
    updated.commits.lookup sender = some vote := by
  cases step with
  | keep => exact stored
  | proposal proposal imported =>
      rw [importProposal_ok _ imported]
      exact stored
  | prepare digest voter signature imported =>
      rcases importPrepare_ok_eq _ imported with ⟨-, rfl⟩ | ⟨-, state, rfl, -⟩ <;> exact stored
  | commit digest voter signature imported =>
      rcases importCommit_ok_eq _ imported with ⟨-, rfl⟩ | ⟨fresh, state, rfl, -⟩
      · exact stored
      · exact lookup_insert_of_fresh fresh _ sender vote stored
  | advanceRound voter => rwa [importAdvanceRound_commits]

/-- The advance votes only grow. -/
theorem advanceRound_subset (step : ImportStep accumulator updated) :
    accumulator.advanceRound ⊆ updated.advanceRound := by
  cases step with
  | keep => exact subset_rfl
  | proposal proposal imported =>
      rw [importProposal_ok _ imported]
      exact subset_rfl
  | prepare digest voter signature imported =>
      rcases importPrepare_ok_eq _ imported with ⟨-, rfl⟩ | ⟨-, state, rfl, -⟩ <;> exact subset_rfl
  | commit digest voter signature imported =>
      rcases importCommit_ok_eq _ imported with ⟨-, rfl⟩ | ⟨-, state, rfl, -⟩ <;> exact subset_rfl
  | advanceRound voter =>
      unfold importAdvanceRound
      dsimp only
      split <;> exact Finset.subset_insert _ _

/-- The commit count of a digest only grows. -/
theorem committed_le (step : ImportStep accumulator updated) (digest : D) :
    (accumulator.countsOf digest).committed ≤ (updated.countsOf digest).committed := by
  cases step with
  | keep => exact le_rfl
  | proposal proposal imported =>
      rw [importProposal_ok _ imported]
      exact le_rfl
  | prepare voted voter signature imported =>
      rcases importPrepare_ok_eq _ imported with ⟨-, rfl⟩ | ⟨-, state, rfl, -⟩
      · exact le_rfl
      · by_cases same : digest = voted
        · subst same
          simp [countsOf]
        · simp [countsOf, AList.lookup_insert_ne same]
  | commit voted voter signature imported =>
      rcases importCommit_ok_eq _ imported with ⟨-, rfl⟩ | ⟨-, state, rfl, -⟩
      · exact le_rfl
      · by_cases same : digest = voted
        · subst same
          simp [countsOf]
        · simp [countsOf, AList.lookup_insert_ne same]
  | advanceRound voter => simp [countsOf]

/-- A stored proposal is only ever replaced by one of the same digest. -/
theorem proposal_kept (step : ImportStep accumulator updated) {old : Proposal C D S}
    (stored : accumulator.proposal = some old) :
    ∃ new, updated.proposal = some new ∧ new.digest = old.digest := by
  cases step with
  | keep => exact ⟨old, stored, rfl⟩
  | proposal proposal imported =>
      have agrees := (importProposal_ok_guard _ imported).2 old stored
      rw [importProposal_ok _ imported]
      exact ⟨_, rfl, agrees.symm⟩
  | prepare digest voter signature imported =>
      rcases importPrepare_ok_eq _ imported with ⟨-, rfl⟩ | ⟨-, state, rfl, -⟩ <;> exact ⟨old, stored, rfl⟩
  | commit digest voter signature imported =>
      rcases importCommit_ok_eq _ imported with ⟨-, rfl⟩ | ⟨-, state, rfl, -⟩ <;> exact ⟨old, stored, rfl⟩
  | advanceRound voter =>
      refine ⟨old, ?_, rfl⟩
      unfold importAdvanceRound
      dsimp only
      split <;> exact stored

/-- Only an advance vote changes the advance votes. -/
theorem advanceRound_cases (step : ImportStep accumulator updated) :
    updated.advanceRound = accumulator.advanceRound ∨
      ∃ sender, updated = accumulator.importAdvanceRound sender := by
  cases step with
  | keep => exact .inl rfl
  | proposal proposal imported =>
      rw [importProposal_ok _ imported]
      exact .inl rfl
  | prepare digest voter signature imported =>
      rcases importPrepare_ok_eq _ imported with ⟨-, rfl⟩ | ⟨-, state, rfl, -⟩ <;> exact .inl rfl
  | commit digest voter signature imported =>
      rcases importCommit_ok_eq _ imported with ⟨-, rfl⟩ | ⟨-, state, rfl, -⟩ <;> exact .inl rfl
  | advanceRound voter => exact .inr ⟨voter, rfl⟩

/-- Only a proposal changes the stored proposal. -/
theorem proposal_cases (step : ImportStep accumulator updated) :
    updated.proposal = accumulator.proposal ∨
      ∃ proposal, updated = accumulator.noteProposal proposal := by
  cases step with
  | keep => exact .inl rfl
  | proposal proposal imported => exact .inr ⟨proposal, importProposal_ok _ imported⟩
  | prepare digest voter signature imported =>
      rcases importPrepare_ok_eq _ imported with ⟨-, rfl⟩ | ⟨-, state, rfl, -⟩ <;> exact .inl rfl
  | commit digest voter signature imported =>
      rcases importCommit_ok_eq _ imported with ⟨-, rfl⟩ | ⟨-, state, rfl, -⟩ <;> exact .inl rfl
  | advanceRound voter =>
      refine .inl ?_
      unfold importAdvanceRound
      dsimp only
      split <;> rfl

end ImportStep


/-! ## Runs -/

/-- A message reported as misbehaviour leaves the accumulator as it was. -/
theorem importOrKeep_of_error {message : LocalizedMessage C D V S} {misbehavior : Misbehavior D S}
    (reported : accumulator.importMessage message = .error misbehavior) :
    accumulator.importOrKeep message = accumulator := by
  simp [importOrKeep, reported]

/-- An invariant that every import keeps holds after every run. -/
theorem importMessages_induction {P : Accumulator C D V S → Prop}
    (step : ∀ accumulator updated, ImportStep accumulator updated → P accumulator → P updated)
    (holds : P accumulator) (messages : List (LocalizedMessage C D V S)) :
    P (accumulator.importMessages messages) := by
  induction messages generalizing accumulator with
  | nil => exact holds
  | cons message rest ih => exact ih _ (step _ _ (importStep_importOrKeep accumulator message) holds)

/-- Over a run the state only moves forward. -/
theorem movesTo_importMessages (messages : List (LocalizedMessage C D V S)) :
    accumulator.state.MovesTo (accumulator.importMessages messages).state := by
  induction messages generalizing accumulator with
  | nil => exact .refl _
  | cons message rest ih =>
      exact (importStep_importOrKeep accumulator message).movesTo.trans (ih _)

/-! ## Importing a message again -/

/-- A stored proposal means the round is past `Begin`. -/
def ProposedPastBegin (accumulator : Accumulator C D V S) : Prop :=
  accumulator.proposal.isSome → accumulator.state ≠ .begin

/-- Noting a proposal leaves the state `begin`. -/
theorem noteProposal_ne_begin (proposal : LocalizedProposal C D V S) :
    (accumulator.noteProposal proposal).state ≠ .begin := by
  unfold noteProposal
  split
  · nofun
  · assumption

variable {accumulator} in
/-- An import step keeps the state past `begin` once a proposal was seen. -/
theorem ImportStep.proposedPastBegin {updated : Accumulator C D V S}
    (step : ImportStep accumulator updated) (holds : accumulator.ProposedPastBegin) :
    updated.ProposedPastBegin := by
  intro stored
  rcases step.proposal_cases with same | ⟨proposal, rfl⟩
  · exact step.movesTo.ne_begin (holds (same ▸ stored))
  · exact noteProposal_ne_begin _ proposal

/-- A fresh accumulator holds no proposal, so nothing need be past `begin`. -/
theorem proposedPastBegin_new (round threshold : Nat) (roundProposer : V) :
    (new (C := C) (D := D) (S := S) round threshold roundProposer).ProposedPastBegin := nofun

/-- Advancing to the threshold leaves the round advanced or committed. -/
theorem importAdvanceRound_settled (sender : V)
    (reached : (accumulator.importAdvanceRound sender).threshold ≤
      (accumulator.importAdvanceRound sender).advanceRound.card) :
    (accumulator.importAdvanceRound sender).state.AdvancedOrCommitted := by
  unfold importAdvanceRound at reached ⊢
  dsimp only at reached ⊢
  split
  next below =>
    rw [if_pos below] at reached
    exact absurd reached (Nat.not_le.mpr below)
  next => cases accumulator.state <;> trivial

/-- An advance vote counted, at a threshold already settled, changes nothing. -/
theorem importAdvanceRound_of_mem {sender : V} (counted : sender ∈ accumulator.advanceRound)
    (settled : accumulator.threshold ≤ accumulator.advanceRound.card →
      accumulator.state.AdvancedOrCommitted) :
    accumulator.importAdvanceRound sender = accumulator := by
  unfold importAdvanceRound
  rw [Finset.insert_eq_of_mem counted]
  dsimp only
  split
  · rfl
  next reached =>
    have past := settled (Nat.le_of_not_lt reached)
    -- the state is already `Advanced` or `Committed`, which the match keeps
    obtain ⟨_, _, _, _, _, _, _, _, state⟩ := accumulator
    cases state with
    | advanced justification => rfl
    | committed justification => rfl
    | begin | proposed _ | prepared _ => exact absurd past id

/-- What makes importing a message again change nothing but the stored
proposal: a vote of another round; the sender's prepare or commit stored; an
advance vote counted, with the round advanced or committed once the advance
votes reach the threshold; a proposal out of turn, or one stored past
`Begin`. -/
def Absorbs (accumulator : Accumulator C D V S) : LocalizedMessage C D V S → Prop
  | .propose proposal =>
      proposal.roundNumber ≠ accumulator.roundNumber ∨
        proposal.sender ≠ accumulator.roundProposer ∨
          accumulator.proposal.isSome ∧ accumulator.state ≠ .begin
  | .vote ⟨.prepare round _, sender, _⟩ =>
      round ≠ accumulator.roundNumber ∨ (accumulator.prepares.lookup sender).isSome
  | .vote ⟨.commit round _, sender, _⟩ =>
      round ≠ accumulator.roundNumber ∨ (accumulator.commits.lookup sender).isSome
  | .vote ⟨.advanceRound round, sender, _⟩ =>
      round ≠ accumulator.roundNumber ∨
        sender ∈ accumulator.advanceRound ∧
          (accumulator.threshold ≤ accumulator.advanceRound.card →
            accumulator.state.AdvancedOrCommitted)

/-- A message the accumulator absorbs, imported again, leaves everything but
the stored proposal, and the proposal's digest. -/
theorem Absorbs.reimport {message : LocalizedMessage C D V S} (absorbs : accumulator.Absorbs message) :
    { accumulator.importOrKeep message with proposal := accumulator.proposal } = accumulator ∧
      (accumulator.importOrKeep message).proposal.map Proposal.digest =
        accumulator.proposal.map Proposal.digest := by
  by_cases otherRound : message.roundNumber ≠ accumulator.roundNumber
  · rw [importOrKeep, importMessage_of_ne _ otherRound]
    exact ⟨rfl, rfl⟩
  have sameRound : message.roundNumber = accumulator.roundNumber := not_not.mp otherRound
  rcases message with proposal | ⟨vote, sender, signature⟩
  · rcases absorbs with differs | outOfTurn | ⟨stored, started⟩
    · exact absurd sameRound differs
    · -- out of turn: reported, and kept
      cases reported : accumulator.importProposal proposal with
      | ok updated => exact absurd (importProposal_ok_guard _ reported).1 outOfTurn
      | error misbehavior =>
          rw [importOrKeep_of_error _ ((importMessage_propose _ sameRound).trans reported)]
          exact ⟨rfl, rfl⟩
    · obtain ⟨old, stored⟩ := Option.isSome_iff_exists.mp stored
      cases reported : accumulator.importProposal proposal with
      | error misbehavior =>
          rw [importOrKeep_of_error _ ((importMessage_propose _ sameRound).trans reported)]
          exact ⟨rfl, rfl⟩
      | ok updated =>
          -- the same digest again: only the stored proposal is replaced
          have agrees := (importProposal_ok_guard _ reported).2 old stored
          have noted : accumulator.importOrKeep (.propose proposal) = accumulator.noteProposal proposal := by
            simp [importOrKeep, importMessage_propose _ sameRound, reported, importProposal_ok _ reported]
          rw [noted]
          refine ⟨?_, by simp [noteProposal, stored, agrees]⟩
          unfold noteProposal
          split
          next begin => exact absurd begin started
          next => rfl
  · cases vote with
    | prepare round digest =>
        have sameVoteRound : round = accumulator.roundNumber := sameRound
        have stored := absorbs.resolve_left (not_not.mpr sameVoteRound)
        obtain ⟨first, stored⟩ := Option.isSome_iff_exists.mp stored
        cases imported : accumulator.importPrepare digest sender signature with
        | error misbehavior =>
            rw [importOrKeep_of_error _ ((importMessage_prepare _ _ _ _ sameVoteRound).trans imported)]
            exact ⟨rfl, rfl⟩
        | ok updated =>
            have unchanged := importPrepare_ok_of_lookup _ stored imported
            simp [importOrKeep, importMessage_prepare _ _ _ _ sameVoteRound, imported, unchanged]
    | commit round digest =>
        have sameVoteRound : round = accumulator.roundNumber := sameRound
        have stored := absorbs.resolve_left (not_not.mpr sameVoteRound)
        obtain ⟨first, stored⟩ := Option.isSome_iff_exists.mp stored
        cases imported : accumulator.importCommit digest sender signature with
        | error misbehavior =>
            rw [importOrKeep_of_error _ ((importMessage_commit _ _ _ _ sameVoteRound).trans imported)]
            exact ⟨rfl, rfl⟩
        | ok updated =>
            have unchanged := importCommit_ok_of_lookup _ stored imported
            simp [importOrKeep, importMessage_commit _ _ _ _ sameVoteRound, imported, unchanged]
    | advanceRound round =>
        have sameVoteRound : round = accumulator.roundNumber := sameRound
        obtain ⟨counted, settled⟩ := absorbs.resolve_left (not_not.mpr sameVoteRound)
        have unchanged := importAdvanceRound_of_mem _ counted settled
        simp [importOrKeep, importMessage_advanceRound _ _ _ sameVoteRound, unchanged]

/-- After a message is imported, importing it again is absorbed. -/
theorem absorbs_importOrKeep (holds : accumulator.ProposedPastBegin)
    (message : LocalizedMessage C D V S) : (accumulator.importOrKeep message).Absorbs message := by
  have constants := (importStep_importOrKeep accumulator message).constants_eq
  by_cases otherRound : message.roundNumber ≠ accumulator.roundNumber
  · rw [importOrKeep, importMessage_of_ne _ otherRound]
    rcases message with proposal | ⟨vote | vote | vote, sender, signature⟩ <;> exact .inl otherRound
  have sameRound : message.roundNumber = accumulator.roundNumber := not_not.mp otherRound
  rcases message with proposal | ⟨vote, sender, signature⟩
  · cases imported : accumulator.importProposal proposal with
    | ok updated =>
        have noted : accumulator.importOrKeep (.propose proposal) = accumulator.noteProposal proposal := by
          simp [importOrKeep, importMessage_propose _ sameRound, imported, importProposal_ok _ imported]
        rw [noted]
        exact .inr (.inr ⟨rfl, noteProposal_ne_begin _ proposal⟩)
    | error misbehavior =>
        rw [importOrKeep_of_error _ ((importMessage_propose _ sameRound).trans imported)]
        by_cases proposer : proposal.sender = accumulator.roundProposer
        · -- reported with the proposer's turn: a proposal of another digest is stored
          cases stored : accumulator.proposal with
          | none =>
              have accepted := importProposal_eq_ok accumulator proposer (by simp [stored])
              rw [imported] at accepted
              cases accepted
          | some old => exact .inr (.inr ⟨by simp [stored], holds (by simp [stored])⟩)
        · exact .inr (.inl proposer)
  · cases vote with
    | prepare round digest =>
        have sameVoteRound : round = accumulator.roundNumber := sameRound
        refine .inr ?_
        cases stored : accumulator.prepares.lookup sender with
        | some first =>
            rw [(importStep_importOrKeep accumulator _).prepares_kept stored]
            rfl
        | none =>
            cases imported : accumulator.importPrepare digest sender signature with
            | error misbehavior =>
                obtain ⟨first, voted⟩ := importPrepare_error _ imported
                rw [stored] at voted
                cases voted
            | ok updated =>
                have done : accumulator.importOrKeep (.vote ⟨.prepare round digest, sender, signature⟩) =
                    updated := by
                  simp [importOrKeep, importMessage_prepare _ _ _ _ sameVoteRound, imported]
                rw [done]
                rcases importPrepare_ok_eq _ imported with ⟨present, -⟩ | ⟨-, state, rfl, -⟩
                · rw [stored] at present
                  cases present
                · simp
    | commit round digest =>
        have sameVoteRound : round = accumulator.roundNumber := sameRound
        refine .inr ?_
        cases stored : accumulator.commits.lookup sender with
        | some first =>
            rw [(importStep_importOrKeep accumulator _).commits_kept stored]
            rfl
        | none =>
            cases imported : accumulator.importCommit digest sender signature with
            | error misbehavior =>
                obtain ⟨first, voted⟩ := importCommit_error _ imported
                rw [stored] at voted
                cases voted
            | ok updated =>
                have done : accumulator.importOrKeep (.vote ⟨.commit round digest, sender, signature⟩) =
                    updated := by
                  simp [importOrKeep, importMessage_commit _ _ _ _ sameVoteRound, imported]
                rw [done]
                rcases importCommit_ok_eq _ imported with ⟨present, -⟩ | ⟨-, state, rfl, -⟩
                · rw [stored] at present
                  cases present
                · simp
    | advanceRound round =>
        have sameVoteRound : round = accumulator.roundNumber := sameRound
        have done : accumulator.importOrKeep (.vote ⟨.advanceRound round, sender, signature⟩) =
            accumulator.importAdvanceRound sender := by
          simp [importOrKeep, importMessage_advanceRound _ _ _ sameVoteRound]
        rw [done]
        refine .inr ⟨?_, importAdvanceRound_settled _ sender⟩
        unfold importAdvanceRound
        dsimp only
        split <;> exact Finset.mem_insert_self _ _

variable {accumulator} in
/-- What the accumulator absorbs, it absorbs after any further import. -/
theorem ImportStep.absorbs {updated : Accumulator C D V S} (step : ImportStep accumulator updated)
    {message : LocalizedMessage C D V S} (absorbs : accumulator.Absorbs message) :
    updated.Absorbs message := by
  obtain ⟨roundEq, thresholdEq, proposerEq⟩ := step.constants_eq
  rcases message with proposal | ⟨vote | vote | vote, sender, signature⟩
  · rcases absorbs with differs | outOfTurn | ⟨stored, started⟩
    · exact .inl (roundEq ▸ differs)
    · exact .inr (.inl (proposerEq ▸ outOfTurn))
    · obtain ⟨old, stored⟩ := Option.isSome_iff_exists.mp stored
      obtain ⟨new, kept, -⟩ := step.proposal_kept stored
      exact .inr (.inr ⟨by simp [kept], step.movesTo.ne_begin started⟩)
  · rcases absorbs with differs | stored
    · exact .inl (roundEq ▸ differs)
    · obtain ⟨first, stored⟩ := Option.isSome_iff_exists.mp stored
      exact .inr (by simp [step.prepares_kept stored])
  · rcases absorbs with differs | stored
    · exact .inl (roundEq ▸ differs)
    · obtain ⟨first, stored⟩ := Option.isSome_iff_exists.mp stored
      exact .inr (by simp [step.commits_kept stored])
  · rcases absorbs with differs | ⟨counted, settled⟩
    · exact .inl (roundEq ▸ differs)
    · refine .inr ⟨step.advanceRound_subset counted, fun reached => ?_⟩
      rcases step.advanceRound_cases with same | ⟨voter, rfl⟩
      · rw [same, thresholdEq] at reached
        exact step.movesTo.advancedOrCommitted (settled reached)
      · exact importAdvanceRound_settled _ voter reached

/-- Importing again a message a run from `Accumulator::new` has imported leaves
everything but the stored proposal, and the proposal's digest. -/
theorem importMessages_reimport (round threshold : Nat) (roundProposer : V)
    {messages : List (LocalizedMessage C D V S)} {message : LocalizedMessage C D V S}
    (imported : message ∈ messages) :
    { ((new round threshold roundProposer).importMessages messages).importOrKeep message with
        proposal := ((new round threshold roundProposer).importMessages messages).proposal } =
      (new round threshold roundProposer).importMessages messages ∧
    (((new round threshold roundProposer).importMessages messages).importOrKeep message).proposal.map
        Proposal.digest =
      ((new round threshold roundProposer).importMessages messages).proposal.map Proposal.digest := by
  obtain ⟨before, after, rfl⟩ := List.append_of_mem imported
  -- the run up to the message keeps the proposal past `Begin`
  have before_holds : ((new round threshold roundProposer).importMessages before).ProposedPastBegin :=
    importMessages_induction _ (fun _ _ step holds => step.proposedPastBegin holds)
      (proposedPastBegin_new round threshold roundProposer) before
  have absorbed := absorbs_importOrKeep _ before_holds message
  -- and the run after it keeps the message absorbed
  have kept := importMessages_induction (P := fun updated => updated.Absorbs message) _
    (fun _ _ step absorbs => step.absorbs absorbs) absorbed after
  have run : (new round threshold roundProposer).importMessages (before ++ message :: after) =
      (((new round threshold roundProposer).importMessages before).importOrKeep message).importMessages
        after := by
    simp [importMessages, List.foldl_append]
  rw [run]
  exact Absorbs.reimport _ kept

/-- A vote leaves the stored proposal alone. -/
theorem proposal_importOrKeep_vote (signed : LocalizedVote D V S) :
    (accumulator.importOrKeep (.vote signed)).proposal = accumulator.proposal := by
  unfold importOrKeep
  cases imported : accumulator.importMessage (.vote signed) with
  | error _ => rfl
  | ok updated =>
      unfold importMessage at imported
      split_ifs at imported
      · cases imported
        rfl
      · obtain ⟨vote, sender, signature⟩ := signed
        cases vote with
        | prepare _ digest =>
            rcases importPrepare_ok_eq _ imported with ⟨-, rfl⟩ | ⟨-, state, rfl, -⟩ <;> rfl
        | commit _ digest =>
            rcases importCommit_ok_eq _ imported with ⟨-, rfl⟩ | ⟨-, state, rfl, -⟩ <;> rfl
        | advanceRound _ =>
            cases imported
            unfold importAdvanceRound
            dsimp only
            split <;> rfl

/-- The three facts of a run from `Accumulator::new`: a reported misbehavior
leaves the accumulator as it was; importing again a message the run imported
leaves a vote without effect, and of a proposal keeps everything but the stored
proposal, whose digest stays; and the state only moves forward over any run. -/
theorem importMessages_forward_and_atomic :
    (∀ (accumulator : Accumulator C D V S) (message : LocalizedMessage C D V S)
        (misbehavior : Misbehavior D S),
      accumulator.importMessage message = .error misbehavior →
        accumulator.importOrKeep message = accumulator) ∧
    (∀ (round threshold : Nat) (roundProposer : V) (messages : List (LocalizedMessage C D V S))
        (signed : LocalizedVote D V S), .vote signed ∈ messages →
      ((new round threshold roundProposer).importMessages messages).importOrKeep (.vote signed) =
        (new round threshold roundProposer).importMessages messages) ∧
    (∀ (round threshold : Nat) (roundProposer : V) (messages : List (LocalizedMessage C D V S))
        (message : LocalizedMessage C D V S), message ∈ messages →
      { ((new round threshold roundProposer).importMessages messages).importOrKeep message with
          proposal := ((new round threshold roundProposer).importMessages messages).proposal } =
        (new round threshold roundProposer).importMessages messages ∧
      (((new round threshold roundProposer).importMessages messages).importOrKeep message).proposal.map
          Proposal.digest =
        ((new round threshold roundProposer).importMessages messages).proposal.map
          Proposal.digest) ∧
    (∀ (accumulator : Accumulator C D V S) (messages : List (LocalizedMessage C D V S)),
      accumulator.state.MovesTo (accumulator.importMessages messages).state) := by
  refine ⟨fun accumulator _ _ reported => importOrKeep_of_error accumulator reported,
    fun round threshold roundProposer messages signed imported => ?_,
    fun round threshold roundProposer _ _ imported =>
      importMessages_reimport round threshold roundProposer imported,
    fun accumulator messages => movesTo_importMessages accumulator messages⟩
  -- a vote keeps the proposal, so keeping everything else is keeping everything
  have kept := (importMessages_reimport round threshold roundProposer imported).1
  rwa [← proposal_importOrKeep_vote _ signed] at kept

/-- A proposal of the stored digest overwrites the stored proposal: the
proposer signs its digest twice, the second signature replaces the first, and
importing the first proposal again brings the first signature back. -/
theorem reimport_overwrites_proposal :
    ((new 1 7 8 : Accumulator Nat Nat Nat Nat).importMessages
        [.propose ⟨1, 999, 999, 8, 1, 1⟩, .propose ⟨1, 999, 999, 8, 2, 2⟩]).proposal =
      some ⟨999, 999, 2⟩ ∧
    (((new 1 7 8 : Accumulator Nat Nat Nat Nat).importMessages
        [.propose ⟨1, 999, 999, 8, 1, 1⟩, .propose ⟨1, 999, 999, 8, 2, 2⟩]).importOrKeep
        (.propose ⟨1, 999, 999, 8, 1, 1⟩)).proposal =
      some ⟨999, 999, 1⟩ :=
  ⟨rfl, rfl⟩

/-- After `preparesThenCommits` at threshold 2, a prepare of 6 by 0 is its
double prepare and changes nothing, its prepare of 5 imported again changes
nothing, and the round has moved from the start to a commit. -/
theorem importMessages_forward_and_atomic_committed :
    (∃ misbehavior, ((new 1 2 0).importMessages preparesThenCommits).importMessage
        (.vote ⟨.prepare 1 6, 0, 12⟩) = .error misbehavior) ∧
      ((new 1 2 0).importMessages preparesThenCommits).importOrKeep (.vote ⟨.prepare 1 6, 0, 12⟩) =
        (new 1 2 0).importMessages preparesThenCommits ∧
      ((new 1 2 0).importMessages preparesThenCommits).importOrKeep (.vote ⟨.prepare 1 5, 0, 10⟩) =
        (new 1 2 0).importMessages preparesThenCommits ∧
      (new 1 2 0 : Accumulator Nat Nat Nat Nat).state.MovesTo
        ((new 1 2 0).importMessages preparesThenCommits).state := by
  obtain ⟨misbehavior, doublePrepare⟩ : ∃ misbehavior,
      ((new 1 2 0).importMessages preparesThenCommits).importMessage (.vote ⟨.prepare 1 6, 0, 12⟩) =
        .error misbehavior := ⟨_, rfl⟩
  refine ⟨⟨misbehavior, doublePrepare⟩, importMessages_forward_and_atomic.1 _ _ _ doublePrepare,
    importMessages_forward_and_atomic.2.1 1 2 0 _ ⟨.prepare 1 5, 0, 10⟩ (by decide),
    importMessages_forward_and_atomic.2.2.2 _ _⟩

/-! ## The outcome of commits -/

/-- A committed state rests on a commit count at the threshold. -/
def CommitCounted (accumulator : Accumulator C D V S) : Prop :=
  ∀ justification, accumulator.state = .committed justification →
    accumulator.threshold ≤ (accumulator.countsOf justification.unchecked.digest).committed ∧
      0 < (accumulator.countsOf justification.unchecked.digest).committed

/-- A commit count at the threshold has committed the round. -/
def CommitReached (accumulator : Accumulator C D V S) : Prop :=
  ∀ digest, accumulator.threshold ≤ (accumulator.countsOf digest).committed →
    0 < (accumulator.countsOf digest).committed →
      ∃ justification, accumulator.state = .committed justification

/-- A fresh accumulator counts no commits. -/
theorem commitCounted_new (round threshold : Nat) (roundProposer : V) :
    (new (C := C) (D := D) (S := S) round threshold roundProposer).CommitCounted := nofun

/-- A fresh accumulator has reached no commit threshold. -/
theorem commitReached_new (round threshold : Nat) (roundProposer : V) :
    (new (C := C) (D := D) (S := S) round threshold roundProposer).CommitReached := by
  intro digest _ positive
  simp [new, countsOf, VoteCounts.zero] at positive

variable {accumulator} in
/-- A state committed after an import was committed before, or the import
was the commit that brought its digest to the threshold. -/
theorem ImportStep.committed_cases {updated : Accumulator C D V S}
    (step : ImportStep accumulator updated) {justification : Justification D S}
    (committed : updated.state = .committed justification) :
    accumulator.state = .committed justification ∨
      updated.threshold ≤ (updated.countsOf justification.unchecked.digest).committed ∧
        0 < (updated.countsOf justification.unchecked.digest).committed := by
  cases step with
  | keep => exact .inl committed
  | proposal proposal imported =>
      rw [importProposal_ok _ imported] at committed
      refine .inl ?_
      unfold noteProposal at committed
      split at committed
      · cases committed
      · exact committed
  | prepare digest sender signature imported =>
      rcases importPrepare_ok_eq _ imported with ⟨-, rfl⟩ | ⟨-, state, rfl, same | ⟨-, prepared⟩⟩
      · exact .inl committed
      · exact .inl (same ▸ committed)
      · obtain ⟨_, rfl⟩ := prepared
        cases committed
  | commit digest sender signature imported =>
      rcases importCommit_ok_eq _ imported with
        ⟨-, rfl⟩ | ⟨-, state, rfl, ⟨-, same⟩ | ⟨reached, rfl⟩⟩
      · exact .inl committed
      · exact .inl (same ▸ committed)
      · -- the commit that reached the threshold
        cases committed
        exact .inr ⟨by simpa [countsOf] using reached, by simp [countsOf]⟩
  | advanceRound sender =>
      refine .inl ?_
      unfold importAdvanceRound at committed
      dsimp only at committed
      split at committed
      · exact committed
      · cases state : accumulator.state <;> simp [state] at committed
        exact congrArg State.committed committed

variable {accumulator} in
/-- An import step keeps the commit counts exact. -/
theorem ImportStep.commitCounted {updated : Accumulator C D V S}
    (step : ImportStep accumulator updated) (holds : accumulator.CommitCounted) :
    updated.CommitCounted := by
  intro justification committed
  rcases step.committed_cases committed with before | reached
  · obtain ⟨atThreshold, positive⟩ := holds justification before
    have grows := step.committed_le justification.unchecked.digest
    rw [step.constants_eq.2.1]
    omega
  · exact reached

variable {accumulator} in
/-- An import step keeps a state committed once the commit threshold is reached. -/
theorem ImportStep.commitReached {updated : Accumulator C D V S}
    (step : ImportStep accumulator updated) (holds : accumulator.CommitReached) :
    updated.CommitReached := by
  intro digest reached positive
  have thresholdEq := step.constants_eq.2.1
  -- a count that did not move was at the threshold before, and a commit stays
  have unmoved : (updated.countsOf digest).committed = (accumulator.countsOf digest).committed →
      ∃ justification, updated.state = .committed justification := by
    intro same
    obtain ⟨justification, committed⟩ :=
      holds digest (by rw [← thresholdEq, ← same]; exact reached) (same ▸ positive)
    have moves := step.movesTo
    rw [committed] at moves
    exact moves.committed
  cases step with
  | keep => exact unmoved rfl
  | proposal proposal imported =>
      rw [importProposal_ok _ imported] at unmoved ⊢
      exact unmoved rfl
  | prepare voted sender signature imported =>
      rcases importPrepare_ok_eq _ imported with ⟨-, rfl⟩ | ⟨-, state, rfl, -⟩
      · exact unmoved rfl
      · apply unmoved
        by_cases same : digest = voted
        · subst same
          simp [countsOf]
        · simp [countsOf, AList.lookup_insert_ne same]
  | commit voted sender signature imported =>
      rcases importCommit_ok_eq _ imported with
        ⟨-, rfl⟩ | ⟨-, state, rfl, ⟨below, rfl⟩ | ⟨-, rfl⟩⟩
      · exact unmoved rfl
      · apply unmoved
        by_cases same : digest = voted
        · -- the count of the commit's digest moved, but stayed below the threshold
          subst same
          simp only [countsOf, AList.lookup_insert, Option.getD_some] at reached
          exact absurd reached below
        · simp [countsOf, AList.lookup_insert_ne same]
      · exact ⟨_, rfl⟩
  | advanceRound sender => exact unmoved (by simp [countsOf])

/-! ## Commits counted whatever the order -/

/-- The entries of a map of votes for a digest are as many as the senders whose
stored vote is for it. -/
theorem countP_entries_eq_card {votes : AList (fun _ : V => D × S)} {digest : D}
    {senders : Finset V}
    (mem : ∀ sender, sender ∈ senders ↔ ∃ signature, votes.lookup sender = some (digest, signature)) :
    votes.entries.countP (fun entry => decide (entry.2.1 = digest)) = senders.card := by
  have keys : ((votes.entries.filter fun entry => decide (entry.2.1 = digest)).map Sigma.fst).Nodup :=
    (List.filter_sublist.map _).nodup votes.nodupKeys
  rw [List.countP_eq_length_filter, ← List.length_map (f := Sigma.fst),
    ← List.toFinset_card_of_nodup keys]
  congr 1
  ext sender
  rw [List.mem_toFinset, List.mem_map, mem]
  constructor
  · rintro ⟨⟨voter, vote⟩, chosen, rfl⟩
    obtain ⟨stored, forDigest⟩ := List.mem_filter.mp chosen
    simp only [decide_eq_true_eq] at forDigest
    exact ⟨vote.2, AList.mem_lookup_iff.mpr (by rw [← forDigest]; exact stored)⟩
  · rintro ⟨signature, found⟩
    exact ⟨⟨sender, (digest, signature)⟩,
      List.mem_filter.mpr ⟨AList.mem_lookup_iff.mp found, by simp⟩, rfl⟩

end Accumulator

/-- The senders of the commits for `digest` in round `round` among `messages`. -/
def committers (round : Nat) (messages : List (LocalizedMessage C D V S)) (digest : D) :
    Finset V :=
  (messages.filterMap fun message =>
    (message.commitIn round).bind fun vote => if vote.2.1 = digest then some vote.1 else none).toFinset

/-- A committer of a digest is the sender of a commit of it in the round. -/
theorem mem_committers {round : Nat} {messages : List (LocalizedMessage C D V S)} {digest : D}
    {sender : V} :
    sender ∈ committers round messages digest ↔
      ∃ message ∈ messages, ∃ signature, message.commitIn round = some (sender, digest, signature) := by
  simp only [committers, List.mem_toFinset, List.mem_filterMap, Option.bind_eq_some_iff]
  constructor
  · rintro ⟨message, member, ⟨voter, voted, signature⟩, carried, chosen⟩
    split_ifs at chosen with forDigest
    cases chosen
    exact ⟨message, member, signature, forDigest ▸ carried⟩
  · rintro ⟨message, member, signature, carried⟩
    exact ⟨message, member, _, carried, by simp⟩

/-- The committers do not depend on the order of the messages. -/
theorem committers_perm {round : Nat} {messages ordering : List (LocalizedMessage C D V S)}
    (reordered : ordering.Perm messages) (digest : D) :
    committers round ordering digest = committers round messages digest :=
  List.toFinset_eq_of_perm _ _ (reordered.filterMap _)

/-- Under commits that never disagree for a sender, the first commit of a
sender is for a digest exactly when the sender committed that digest. -/
theorem mem_committers_iff_firstVote {round : Nat} {messages : List (LocalizedMessage C D V S)}
    (consistent : ∀ message ∈ messages, ∀ other ∈ messages, ∀ (sender : V) (first second : D)
      (signature signature' : S), message.commitIn round = some (sender, first, signature) →
        other.commitIn round = some (sender, second, signature') → first = second)
    {digest : D} {sender : V} :
    sender ∈ committers round messages digest ↔
      ∃ signature, firstVote (LocalizedMessage.commitIn round) sender messages =
        some (digest, signature) := by
  rw [mem_committers]
  constructor
  · rintro ⟨message, member, signature, carried⟩
    -- the sender has a first commit, and it agrees with this one
    have found : ((messages.filterMap (LocalizedMessage.commitIn round)).find?
        fun vote => decide (vote.1 = sender)).isSome :=
      List.find?_isSome.mpr ⟨(sender, digest, signature), List.mem_filterMap.mpr
        ⟨message, member, carried⟩, by simp⟩
    obtain ⟨first, firstFound⟩ := Option.isSome_iff_exists.mp found
    have firstVoted : firstVote (LocalizedMessage.commitIn round) sender messages =
        some first.2 := by
      simp [firstVote, firstFound]
    obtain ⟨other, otherMember, otherCarried⟩ := firstVote_mem firstVoted
    have agrees := consistent message member other otherMember sender digest first.2.1
      signature first.2.2 carried otherCarried
    exact ⟨first.2.2, by rw [firstVoted, agrees]⟩
  · rintro ⟨signature, firstVoted⟩
    obtain ⟨message, member, carried⟩ := firstVote_mem firstVoted
    exact ⟨message, member, signature, carried⟩

namespace Accumulator

/-- When no sender commits two digests in a round and exactly one digest has
commits from at least `threshold` senders, importing the messages in any order
into a new accumulator of the round ends committed to that digest. -/
theorem importMessages_commits_regardless_of_order (round threshold : Nat) (roundProposer : V)
    {messages : List (LocalizedMessage C D V S)} {digest : D}
    (consistent : ∀ message ∈ messages, ∀ other ∈ messages, ∀ (sender : V) (first second : D)
      (signature signature' : S), message.commitIn round = some (sender, first, signature) →
        other.commitIn round = some (sender, second, signature') → first = second)
    (quorum : (committers round messages digest).Nonempty ∧
      threshold ≤ (committers round messages digest).card)
    (unique : ∀ other, other ≠ digest → ¬((committers round messages other).Nonempty ∧
      threshold ≤ (committers round messages other).card))
    (ordering : List (LocalizedMessage C D V S)) (reordered : ordering.Perm messages) :
    ∃ justification,
      ((new round threshold roundProposer).importMessages ordering).state = .committed justification ∧
        justification.unchecked.digest = digest := by
  have consistentOrdering : ∀ message ∈ ordering, ∀ other ∈ ordering, ∀ (sender : V) (first second : D)
      (signature signature' : S), message.commitIn round = some (sender, first, signature) →
        other.commitIn round = some (sender, second, signature') → first = second :=
    fun message member other otherMember => consistent message (reordered.mem_iff.mp member) other
      (reordered.mem_iff.mp otherMember)
  have tracked : Tracked round threshold ordering
      ((new round threshold roundProposer).importMessages ordering) := by
    simpa using (tracked_new (C := C) (D := D) (S := S) round threshold roundProposer).importMessages
      ordering
  -- the commit counts are the numbers of committers, whatever the order
  have counted : ∀ other, (((new round threshold roundProposer).importMessages ordering).countsOf
      other).committed = (committers round messages other).card := by
    intro other
    rw [tracked.commits.count_eq other, ← committers_perm reordered other]
    apply countP_entries_eq_card
    intro sender
    rw [tracked.commits.lookup_eq, mem_committers_iff_firstVote consistentOrdering]
  have reached := importMessages_induction (P := CommitReached) _
    (fun _ _ step holds => step.commitReached holds) (commitReached_new round threshold roundProposer)
    ordering
  have settled := importMessages_induction (P := CommitCounted) _
    (fun _ _ step holds => step.commitCounted holds) (commitCounted_new round threshold roundProposer)
    ordering
  rw [CommitReached, tracked.threshold_eq] at reached
  rw [CommitCounted, tracked.threshold_eq] at settled
  -- the count of the digest reached the threshold, so the round committed
  obtain ⟨justification, committed⟩ := reached digest (by rw [counted]; exact quorum.2)
    (by rw [counted]; exact quorum.1.card_pos)
  refine ⟨justification, committed, ?_⟩
  -- and the digest it committed to has a quorum of committers too
  obtain ⟨atThreshold, positive⟩ := settled justification committed
  rw [counted] at atThreshold positive
  by_contra differs
  exact unique _ differs ⟨Finset.card_pos.mp positive, atThreshold⟩

/-- Two commits of digest 5 in round 1, at threshold 2, with a prepare of
another digest, imported last to first. -/
theorem importMessages_commits_regardless_of_order_two_commits :
    ∃ justification,
      ((new 1 2 0 : Accumulator Nat Nat Nat Nat).importMessages
          [.vote ⟨.prepare 1 6, 2, 2⟩, .vote ⟨.commit 1 5, 1, 1⟩, .vote ⟨.commit 1 5, 0, 0⟩]).state =
        .committed justification ∧ justification.unchecked.digest = 5 :=
  importMessages_commits_regardless_of_order 1 2 0
    (by
      intro message member other otherMember sender first second signature signature' carried
        otherCarried
      simp only [List.mem_cons, List.not_mem_nil, or_false] at member otherMember
      rcases member with rfl | rfl | rfl <;> rcases otherMember with rfl | rfl | rfl <;>
        simp_all [LocalizedMessage.commitIn])
    (by decide)
    (by
      rintro other differs ⟨⟨sender, member⟩, -⟩
      obtain ⟨message, carrying, signature, carried⟩ := mem_committers.mp member
      simp only [List.mem_cons, List.not_mem_nil, or_false] at carrying
      rcases carrying with rfl | rfl | rfl <;> simp_all [LocalizedMessage.commitIn])
    _ (show List.Perm ([.vote ⟨.prepare 1 6, 2, 2⟩, .vote ⟨.commit 1 5, 1, 1⟩,
        .vote ⟨.commit 1 5, 0, 0⟩] : List (LocalizedMessage Nat Nat Nat Nat))
      [.vote ⟨.commit 1 5, 0, 0⟩, .vote ⟨.commit 1 5, 1, 1⟩, .vote ⟨.prepare 1 6, 2, 2⟩] by decide)

end Accumulator

end Bft
end Polkadot
