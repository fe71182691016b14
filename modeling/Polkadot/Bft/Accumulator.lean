import Mathlib

/-!
# The vote accumulator of one BFT round

`generic/accumulator.rs` and the message types of `generic/mod.rs`.  An
accumulator of round `r` imports proposals and votes of every authority,
keeps the first prepare and the first commit of each sender, counts them per
digest, and moves its state to `Prepared`, `Committed` or `Advanced` when a
count reaches the threshold.  A justification carries the signatures of the
votes it rests on and is checked against a signature checker.

An import that reports misbehavior returns before it changes anything, so
the model returns `Except`: the error, or the updated accumulator.
-/

namespace Polkadot
namespace Bft

/-- A vote, localized to a round number (`generic::Vote`). -/
inductive Vote (D : Type)
  | prepare (round : Nat) (digest : D)
  | commit (round : Nat) (digest : D)
  | advanceRound (round : Nat)
  deriving DecidableEq, Repr

/-- The round a vote is for. -/
def Vote.roundNumber {D : Type} : Vote D → Nat
  | .prepare round _ => round
  | .commit round _ => round
  | .advanceRound round => round

/-- A consensus message before signing (`generic::Message`). -/
inductive Message (C D : Type)
  | propose (round : Nat) (candidate : C)
  | vote (vote : Vote D)
  deriving DecidableEq, Repr

/-- A signed proposal. -/
structure LocalizedProposal (C D V S : Type) where
  roundNumber : Nat
  proposal : C
  digest : D
  sender : V
  digestSignature : S
  fullSignature : S
  deriving DecidableEq, Repr

/-- A signed vote. -/
structure LocalizedVote (D V S : Type) where
  vote : Vote D
  sender : V
  signature : S
  deriving DecidableEq, Repr

/-- A signed consensus message. -/
inductive LocalizedMessage (C D V S : Type)
  | propose (proposal : LocalizedProposal C D V S)
  | vote (vote : LocalizedVote D V S)
  deriving DecidableEq, Repr

namespace LocalizedMessage

variable {C D V S : Type}

/-- The sender of a proposal or a vote. -/
def sender : LocalizedMessage C D V S → V
  | .propose proposal => proposal.sender
  | .vote signed => signed.sender

/-- The round a proposal or a vote is for. -/
def roundNumber : LocalizedMessage C D V S → Nat
  | .propose proposal => proposal.roundNumber
  | .vote signed => signed.vote.roundNumber

end LocalizedMessage

/-! ## Justifications -/

/-- A justification for a digest at a round: the signatures of the votes. -/
structure UncheckedJustification (D S : Type) where
  roundNumber : Nat
  digest : D
  signatures : List S
  deriving DecidableEq, Repr

/-- A checked justification (the newtype `Justification`). -/
structure Justification (D S : Type) where
  unchecked : UncheckedJustification D S
  deriving DecidableEq, Repr

namespace UncheckedJustification

variable {D S W : Type} [DecidableEq W]

/-- The loop of `check`: every signature must check out, to a signer not
seen before. -/
def checkSignatures (checkMessage : S → Option W) (threshold : Nat) :
    Finset W → List S → Bool
  | voted, [] => decide (threshold ≤ voted.card)
  | voted, signature :: rest =>
      match checkMessage signature with
      | none => false
      | some signer =>
          if signer ∈ voted then false
          else checkSignatures checkMessage threshold (insert signer voted) rest

/-- `UncheckedJustification::check`. -/
def check (justification : UncheckedJustification D S) (threshold : Nat)
    (checkMessage : Nat → D → S → Option W) :
    Except (UncheckedJustification D S) (Justification D S) :=
  if checkSignatures (checkMessage justification.roundNumber justification.digest) threshold
      ∅ justification.signatures then
    .ok ⟨justification⟩
  else .error justification

end UncheckedJustification

/-! ## The accumulator -/

/-- The state of a round. -/
inductive State (C D S : Type)
  | begin
  | proposed (candidate : C)
  | prepared (justification : Justification D S)
  | committed (justification : Justification D S)
  | advanced (justification : Option (Justification D S))
  deriving DecidableEq, Repr

/-- The first prepares and commits counted for a digest. -/
structure VoteCounts where
  prepared : Nat
  committed : Nat
  deriving DecidableEq, Repr

/-- `VoteCounts::default()`. -/
def VoteCounts.zero : VoteCounts := ⟨0, 0⟩

/-- The proposal of the round. -/
structure Proposal (C D S : Type) where
  proposal : C
  digest : D
  digestSignature : S
  deriving DecidableEq, Repr

/-- Misbehavior an accumulator detects. -/
inductive Misbehavior (D S : Type)
  | proposeOutOfTurn (round : Nat) (digest : D) (signature : S)
  | doublePropose (round : Nat) (first second : D × S)
  | doublePrepare (round : Nat) (first second : D × S)
  | doubleCommit (round : Nat) (first second : D × S)
  deriving DecidableEq, Repr

/-- `Accumulator`. -/
structure Accumulator (C D V S : Type) [DecidableEq D] [DecidableEq V] where
  roundNumber : Nat
  threshold : Nat
  roundProposer : V
  proposal : Option (Proposal C D S)
  prepares : AList (fun _ : V => D × S)
  commits : AList (fun _ : V => D × S)
  voteCounts : AList (fun _ : D => VoteCounts)
  advanceRound : Finset V
  state : State C D S

namespace Accumulator

variable {C D V S : Type} [DecidableEq D] [DecidableEq V]

/-- `Accumulator::new`. -/
def new (roundNumber threshold : Nat) (roundProposer : V) : Accumulator C D V S where
  roundNumber := roundNumber
  threshold := threshold
  roundProposer := roundProposer
  proposal := none
  prepares := ∅
  commits := ∅
  voteCounts := ∅
  advanceRound := ∅
  state := .begin

/-- The counts of a digest (`or_insert_with(Default::default)`). -/
def countsOf (accumulator : Accumulator C D V S) (digest : D) : VoteCounts :=
  (accumulator.voteCounts.lookup digest).getD VoteCounts.zero

/-- The signatures of the stored votes for a digest
(`values().filter(..).map(..).collect()`). -/
def signaturesFor (votes : AList (fun _ : V => D × S)) (digest : D) : List S :=
  (votes.entries.filter fun entry => decide (entry.2.1 = digest)).map fun entry => entry.2.2

/-- Store the proposal; only `Begin` moves to `Proposed`. -/
def noteProposal (accumulator : Accumulator C D V S) (proposal : LocalizedProposal C D V S) :
    Accumulator C D V S :=
  { accumulator with
    proposal := some ⟨proposal.proposal, proposal.digest, proposal.digestSignature⟩
    state :=
      match accumulator.state with
      | .begin => .proposed proposal.proposal
      | state => state }

/-- `import_proposal`. -/
def importProposal (accumulator : Accumulator C D V S) (proposal : LocalizedProposal C D V S) :
    Except (Misbehavior D S) (Accumulator C D V S) :=
  if proposal.sender ≠ accumulator.roundProposer then
    .error (.proposeOutOfTurn accumulator.roundNumber proposal.digest proposal.digestSignature)
  else
    match accumulator.proposal with
    | some old =>
        if old.digest ≠ proposal.digest then
          .error (.doublePropose accumulator.roundNumber (old.digest, old.digestSignature)
            (proposal.digest, proposal.digestSignature))
        else .ok (accumulator.noteProposal proposal)
    | none => .ok (accumulator.noteProposal proposal)

/-- `import_prepare`. -/
def importPrepare (accumulator : Accumulator C D V S) (digest : D) (sender : V)
    (signature : S) : Except (Misbehavior D S) (Accumulator C D V S) :=
  match accumulator.prepares.lookup sender with
  | some first =>
      -- a later prepare of the same sender is ignored, or is misbehavior
      if first.1 ≠ digest then
        .error (.doublePrepare accumulator.roundNumber first (digest, signature))
      else .ok accumulator
  | none =>
      let counts := accumulator.countsOf digest
      let counts := { counts with prepared := counts.prepared + 1 }
      let prepares := accumulator.prepares.insert sender (digest, signature)
      let accumulator :=
        { accumulator with
          prepares := prepares
          voteCounts := accumulator.voteCounts.insert digest counts }
      -- only `Begin` and `Proposed` move to `Prepared`
      let validTransition :=
        match accumulator.state with
        | .begin | .proposed _ => true
        | _ => false
      if validTransition && decide (accumulator.threshold ≤ counts.prepared) then
        .ok { accumulator with
          state := .prepared ⟨⟨accumulator.roundNumber, digest, signaturesFor prepares digest⟩⟩ }
      else .ok accumulator

/-- `import_commit`. -/
def importCommit (accumulator : Accumulator C D V S) (digest : D) (sender : V)
    (signature : S) : Except (Misbehavior D S) (Accumulator C D V S) :=
  match accumulator.commits.lookup sender with
  | some first =>
      if first.1 ≠ digest then
        .error (.doubleCommit accumulator.roundNumber first (digest, signature))
      else .ok accumulator
  | none =>
      let counts := accumulator.countsOf digest
      let counts := { counts with committed := counts.committed + 1 }
      let commits := accumulator.commits.insert sender (digest, signature)
      let accumulator :=
        { accumulator with
          commits := commits
          voteCounts := accumulator.voteCounts.insert digest counts }
      -- the transition to `Committed` is valid from every state
      if accumulator.threshold ≤ counts.committed then
        .ok { accumulator with
          state := .committed ⟨⟨accumulator.roundNumber, digest, signaturesFor commits digest⟩⟩ }
      else .ok accumulator

/-- `import_advance_round`. -/
def importAdvanceRound (accumulator : Accumulator C D V S) (sender : V) :
    Accumulator C D V S :=
  let advanceRound := insert sender accumulator.advanceRound
  let accumulator := { accumulator with advanceRound := advanceRound }
  if advanceRound.card < accumulator.threshold then accumulator
  else
    { accumulator with
      state :=
        match accumulator.state with
        | .committed justification => .committed justification
        | .prepared justification => .advanced (some justification)
        | .advanced justification => .advanced justification
        | .begin | .proposed _ => .advanced none }

section AdvanceRoundFrame

variable (accumulator : Accumulator C D V S) (sender : V)

/-- An `AdvanceRound` vote keeps the round. -/
@[simp] theorem importAdvanceRound_roundNumber :
    (accumulator.importAdvanceRound sender).roundNumber = accumulator.roundNumber := by
  unfold importAdvanceRound
  dsimp only
  split <;> rfl

/-- An `AdvanceRound` vote keeps the threshold. -/
@[simp] theorem importAdvanceRound_threshold :
    (accumulator.importAdvanceRound sender).threshold = accumulator.threshold := by
  unfold importAdvanceRound
  dsimp only
  split <;> rfl

/-- An `AdvanceRound` vote keeps the prepares. -/
@[simp] theorem importAdvanceRound_prepares :
    (accumulator.importAdvanceRound sender).prepares = accumulator.prepares := by
  unfold importAdvanceRound
  dsimp only
  split <;> rfl

/-- An `AdvanceRound` vote keeps the commits. -/
@[simp] theorem importAdvanceRound_commits :
    (accumulator.importAdvanceRound sender).commits = accumulator.commits := by
  unfold importAdvanceRound
  dsimp only
  split <;> rfl

/-- An `AdvanceRound` vote keeps the counts of votes by digest. -/
@[simp] theorem importAdvanceRound_voteCounts :
    (accumulator.importAdvanceRound sender).voteCounts = accumulator.voteCounts := by
  unfold importAdvanceRound
  dsimp only
  split <;> rfl

/-- Advancing keeps a committed or advanced state, moves `Prepared` to
`Advanced` with its justification, and `Begin` or `Proposed` to `Advanced`
without one. -/
theorem importAdvanceRound_state_cases :
    (accumulator.importAdvanceRound sender).state = accumulator.state ∨
      (∃ justification, accumulator.state = .prepared justification ∧
        (accumulator.importAdvanceRound sender).state = .advanced (some justification)) ∨
      (accumulator.importAdvanceRound sender).state = .advanced none := by
  unfold importAdvanceRound
  dsimp only
  split
  · exact .inl rfl
  · cases accumulator.state with
    | committed justification => exact .inl rfl
    | prepared justification => exact .inr (.inl ⟨justification, rfl, rfl⟩)
    | advanced justification => exact .inl rfl
    | begin => exact .inr (.inr rfl)
    | proposed candidate => exact .inr (.inr rfl)

end AdvanceRoundFrame

/-- `import_message`: messages of other rounds are ignored. -/
def importMessage (accumulator : Accumulator C D V S) (message : LocalizedMessage C D V S) :
    Except (Misbehavior D S) (Accumulator C D V S) :=
  if message.roundNumber ≠ accumulator.roundNumber then .ok accumulator
  else
    match message with
    | .propose proposal => accumulator.importProposal proposal
    | .vote signed =>
        match signed.vote with
        | .prepare _ digest => accumulator.importPrepare digest signed.sender signed.signature
        | .commit _ digest => accumulator.importCommit digest signed.sender signed.signature
        | .advanceRound _ => .ok (accumulator.importAdvanceRound signed.sender)

section ImportMessage

variable (accumulator : Accumulator C D V S)

/-- A message of another round leaves the accumulator as it is. -/
theorem importMessage_of_ne {message : LocalizedMessage C D V S}
    (otherRound : message.roundNumber ≠ accumulator.roundNumber) :
    accumulator.importMessage message = .ok accumulator := by
  simp [importMessage, otherRound]

/-- A proposal of the round is imported as a proposal. -/
theorem importMessage_propose {proposal : LocalizedProposal C D V S}
    (sameRound : proposal.roundNumber = accumulator.roundNumber) :
    accumulator.importMessage (.propose proposal) = accumulator.importProposal proposal := by
  simp [importMessage, LocalizedMessage.roundNumber, sameRound]

/-- A prepare of the round is imported as a prepare. -/
theorem importMessage_prepare {round : Nat} (digest : D) (sender : V) (signature : S)
    (sameRound : round = accumulator.roundNumber) :
    accumulator.importMessage (.vote ⟨.prepare round digest, sender, signature⟩) =
      accumulator.importPrepare digest sender signature := by
  simp [importMessage, LocalizedMessage.roundNumber, Vote.roundNumber, sameRound]

/-- A commit of the round is imported as a commit. -/
theorem importMessage_commit {round : Nat} (digest : D) (sender : V) (signature : S)
    (sameRound : round = accumulator.roundNumber) :
    accumulator.importMessage (.vote ⟨.commit round digest, sender, signature⟩) =
      accumulator.importCommit digest sender signature := by
  simp [importMessage, LocalizedMessage.roundNumber, Vote.roundNumber, sameRound]

/-- An `AdvanceRound` vote of the round is imported as such, and never fails. -/
theorem importMessage_advanceRound {round : Nat} (sender : V) (signature : S)
    (sameRound : round = accumulator.roundNumber) :
    accumulator.importMessage (.vote ⟨.advanceRound round, sender, signature⟩) =
      .ok (accumulator.importAdvanceRound sender) := by
  simp [importMessage, LocalizedMessage.roundNumber, Vote.roundNumber, sameRound]

/-- An accepted proposal is noted. -/
theorem importProposal_ok {proposal : LocalizedProposal C D V S}
    {updated : Accumulator C D V S} (imported : accumulator.importProposal proposal = .ok updated) :
    updated = accumulator.noteProposal proposal := by
  unfold importProposal at imported
  split_ifs at imported
  split at imported
  · split_ifs at imported
    cases imported
    rfl
  · cases imported
    rfl

/-- A later prepare of a sender that is accepted changes nothing. -/
theorem importPrepare_ok_of_lookup {digest : D} {sender : V} {signature : S} {first : D × S}
    (voted : accumulator.prepares.lookup sender = some first) {updated : Accumulator C D V S}
    (imported : accumulator.importPrepare digest sender signature = .ok updated) :
    updated = accumulator := by
  simp only [importPrepare, voted] at imported
  split_ifs at imported
  cases imported
  rfl

/-- A second commit of a sender that succeeds changes nothing: it repeats the first. -/
theorem importCommit_ok_of_lookup {digest : D} {sender : V} {signature : S} {first : D × S}
    (voted : accumulator.commits.lookup sender = some first) {updated : Accumulator C D V S}
    (imported : accumulator.importCommit digest sender signature = .ok updated) :
    updated = accumulator := by
  simp only [importCommit, voted] at imported
  split_ifs at imported
  cases imported
  rfl

/-- Misbehavior is only reported against a sender that voted before. -/
theorem importPrepare_error {digest : D} {sender : V} {signature : S}
    {misbehavior : Misbehavior D S}
    (imported : accumulator.importPrepare digest sender signature = .error misbehavior) :
    ∃ first, accumulator.prepares.lookup sender = some first := by
  cases found : accumulator.prepares.lookup sender with
  | some first => exact ⟨first, rfl⟩
  | none =>
      simp only [importPrepare, found] at imported
      split_ifs at imported

/-- A commit is reported as misbehaviour only when its sender already committed. -/
theorem importCommit_error {digest : D} {sender : V} {signature : S}
    {misbehavior : Misbehavior D S}
    (imported : accumulator.importCommit digest sender signature = .error misbehavior) :
    ∃ first, accumulator.commits.lookup sender = some first := by
  cases found : accumulator.commits.lookup sender with
  | some first => exact ⟨first, rfl⟩
  | none =>
      simp only [importCommit, found] at imported
      split_ifs at imported

/-- The misbehavior a prepare reports: the sender's first prepare, which was
for another digest. -/
theorem importPrepare_error_eq {digest : D} {sender : V} {signature : S}
    {misbehavior : Misbehavior D S}
    (imported : accumulator.importPrepare digest sender signature = .error misbehavior) :
    ∃ first, accumulator.prepares.lookup sender = some first ∧ first.1 ≠ digest ∧
      misbehavior = .doublePrepare accumulator.roundNumber first (digest, signature) := by
  obtain ⟨first, voted⟩ := importPrepare_error _ imported
  simp only [importPrepare, voted] at imported
  split_ifs at imported with differs
  cases imported
  exact ⟨first, voted, differs, rfl⟩

/-- A commit reported as misbehaviour is a double commit: the sender committed another digest first,
and the report holds both. -/
theorem importCommit_error_eq {digest : D} {sender : V} {signature : S}
    {misbehavior : Misbehavior D S}
    (imported : accumulator.importCommit digest sender signature = .error misbehavior) :
    ∃ first, accumulator.commits.lookup sender = some first ∧ first.1 ≠ digest ∧
      misbehavior = .doubleCommit accumulator.roundNumber first (digest, signature) := by
  obtain ⟨first, voted⟩ := importCommit_error _ imported
  simp only [importCommit, voted] at imported
  split_ifs at imported with differs
  cases imported
  exact ⟨first, voted, differs, rfl⟩

/-- A proposal only reports misbehavior of proposals. -/
theorem importProposal_error {proposal : LocalizedProposal C D V S}
    {misbehavior : Misbehavior D S}
    (imported : accumulator.importProposal proposal = .error misbehavior) :
    (∃ round digest signature, misbehavior = .proposeOutOfTurn round digest signature) ∨
      ∃ round first second, misbehavior = .doublePropose round first second := by
  unfold importProposal at imported
  split_ifs at imported
  · cases imported
    exact .inl ⟨_, _, _, rfl⟩
  · split at imported
    · split_ifs at imported
      cases imported
      exact .inr ⟨_, _, _, rfl⟩
    · cases imported

end ImportMessage

/-- Import a message; a reported misbehavior leaves the accumulator as it
was. -/
def importOrKeep (accumulator : Accumulator C D V S) (message : LocalizedMessage C D V S) :
    Accumulator C D V S :=
  match accumulator.importMessage message with
  | .ok updated => updated
  | .error _ => accumulator

/-- Import a sequence of messages in order. -/
def importMessages (accumulator : Accumulator C D V S)
    (messages : List (LocalizedMessage C D V S)) : Accumulator C D V S :=
  messages.foldl importOrKeep accumulator

end Accumulator

end Bft
end Polkadot
