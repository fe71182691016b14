import Polkadot.StatementTable.Import

/-!
# What one import can do

One lemma per import path lists every outcome of that path: which part of
the table it changes, and the misbehavior it reports.  The invariants of the
table are proved from these lemmas and never unfold the import functions
again.
-/

namespace Polkadot
namespace StatementTable
namespace Table

set_option linter.unusedSectionVars false

variable {C D V S G : Type} [DecidableEq D] [DecidableEq V] [DecidableEq S]
  [DecidableEq G]
variable {context : Context C D V G} {table : Table C D V S G}

/-! ## Frame lemmas -/

/-- `store_votes` keeps the authorities' data. -/
@[simp] theorem storeVotes_authorityData (digest : D) (votes : CandidateData C V S G)
    (groupId : G) (wasIncludable isIncludable : Bool) :
    (table.storeVotes digest votes groupId wasIncludable isIncludable).authorityData =
      table.authorityData := rfl

/-- `store_votes` keeps the misbehaviour detected. -/
@[simp] theorem storeVotes_detectedMisbehavior (digest : D)
    (votes : CandidateData C V S G) (groupId : G) (wasIncludable isIncludable : Bool) :
    (table.storeVotes digest votes groupId wasIncludable isIncludable).detectedMisbehavior =
      table.detectedMisbehavior := rfl

/-- `store_votes` stores the candidate's votes under its digest. -/
@[simp] theorem storeVotes_candidateVotes (digest : D) (votes : CandidateData C V S G)
    (groupId : G) (wasIncludable isIncludable : Bool) :
    (table.storeVotes digest votes groupId wasIncludable isIncludable).candidateVotes =
      table.candidateVotes.insert digest votes := rfl

/-- `store_votes` updates the includable count of the group. -/
@[simp] theorem storeVotes_includableCount (digest : D) (votes : CandidateData C V S G)
    (groupId : G) (wasIncludable isIncludable : Bool) :
    (table.storeVotes digest votes groupId wasIncludable isIncludable).includableCount =
      updateIncludableCount table.includableCount groupId wasIncludable isIncludable := rfl

/-- `store_votes` keeps every authority's proposal. -/
@[simp] theorem proposalOf_storeVotes (digest : D) (votes : CandidateData C V S G)
    (groupId : G) (wasIncludable isIncludable : Bool) (authority : V) :
    (table.storeVotes digest votes groupId wasIncludable isIncludable).proposalOf authority =
      table.proposalOf authority := rfl

/-- `note_trace_seen` keeps the candidates' votes. -/
@[simp] theorem noteTraceSeen_candidateVotes (trace : StatementTrace V D) (knownBy : V) :
    (table.noteTraceSeen trace knownBy).candidateVotes = table.candidateVotes := rfl

/-- `note_trace_seen` keeps the includable counts. -/
@[simp] theorem noteTraceSeen_includableCount (trace : StatementTrace V D) (knownBy : V) :
    (table.noteTraceSeen trace knownBy).includableCount = table.includableCount := rfl

/-- `note_trace_seen` keeps the misbehaviour detected. -/
@[simp] theorem noteTraceSeen_detectedMisbehavior (trace : StatementTrace V D)
    (knownBy : V) :
    (table.noteTraceSeen trace knownBy).detectedMisbehavior =
      table.detectedMisbehavior := rfl

/-- Noting a trace never touches a proposal. -/
@[simp] theorem proposalOf_noteTraceSeen (trace : StatementTrace V D)
    (knownBy authority : V) :
    (table.noteTraceSeen trace knownBy).proposalOf authority = table.proposalOf authority := by
  by_cases same : authority = knownBy
  · subst same
    cases found : table.authorityData.lookup authority <;>
      simp [noteTraceSeen, proposalOf, AList.lookup_insert, found, AuthorityData.empty]
  · simp [noteTraceSeen, proposalOf, AList.lookup_insert_ne same]

/-- Noting a proposal keeps the misbehaviour detected. -/
@[simp] theorem noteProposal_detectedMisbehavior (fromId : V) (candidate : C)
    (digest : D) (groupId : G) (signature : S) :
    (table.noteProposal fromId candidate digest groupId signature).detectedMisbehavior =
      table.detectedMisbehavior := rfl

/-- Noting a proposal keeps the includable counts. -/
@[simp] theorem noteProposal_includableCount (fromId : V) (candidate : C)
    (digest : D) (groupId : G) (signature : S) :
    (table.noteProposal fromId candidate digest groupId signature).includableCount =
      table.includableCount := rfl

/-- A proposal records the digest and signature of the proposer only. -/
theorem proposalOf_noteProposal (fromId : V) (candidate : C) (digest : D)
    (groupId : G) (signature : S) (authority : V) :
    (table.noteProposal fromId candidate digest groupId signature).proposalOf authority =
      if authority = fromId then some (digest, signature) else table.proposalOf authority := by
  by_cases same : authority = fromId
  · subst same
    simp [noteProposal, proposalOf, AList.lookup_insert]
  · simp [noteProposal, proposalOf, AList.lookup_insert_ne same, same]

/-- The candidate entries after a proposal: a fresh entry at a new digest. -/
theorem lookup_noteProposal (fromId : V) (candidate : C) (digest : D)
    (groupId : G) (signature : S) (key : D) :
    (table.noteProposal fromId candidate digest groupId signature).candidateVotes.lookup key =
      if key = digest ∧ digest ∉ table.candidateVotes then
        some (CandidateData.fresh groupId candidate)
      else table.candidateVotes.lookup key := by
  by_cases known : digest ∈ table.candidateVotes
  · simp [noteProposal, known]
  · by_cases same : key = digest
    · subst same
      simp [noteProposal, known, AList.lookup_insert]
    · simp [noteProposal, known, same, AList.lookup_insert_ne same]

/-! ## `validity_vote` -/

section ValidityVote

variable {fromId : V} {digest : D} {vote : ValidityVote S}

/-- A validity vote either leaves the table as it is or records the first
vote of a member. -/
theorem validityVote_cases {result : ImportResult C D V S G}
    (voted : table.validityVote context fromId digest vote = some result) :
    result.1 = table ∨
      ∃ votes, table.candidateVotes.lookup digest = some votes ∧
        context.isMemberOf fromId votes.groupId = true ∧
        votes.validityVotes.lookup fromId = none ∧
        result = (table.storeVotes digest (votes.recordValidityVote fromId vote)
            votes.groupId (context.includable votes)
            (context.includable (votes.recordValidityVote fromId vote)),
          none, some ((votes.recordValidityVote fromId vote).summary digest)) := by
  unfold validityVote at voted
  split at voted
  · left
    cases voted
    rfl
  · rename_i votes found
    split at voted
    · -- a non-member: an unauthorized statement, the table untouched
      left
      split at voted <;> cases voted <;> rfl
    · rename_i member
      split at voted
      · -- a repeated vote: a double vote or nothing, the table untouched
        left
        split at voted
        · split at voted <;> cases voted <;> rfl
        · cases voted
          rfl
      · rename_i absent
        right
        refine ⟨votes, found, by simpa using member, absent, ?_⟩
        cases voted
        rfl

/-- The misbehavior a validity vote reports: an unauthorized direct vote of a
non-member, or a double vote assembled from the stored vote. -/
theorem validityVote_misbehavior {updated : Table C D V S G}
    {misbehavior : Misbehavior C D V S} {summary : Option (Summary D G)}
    (voted : table.validityVote context fromId digest vote =
      some (updated, some misbehavior, summary)) :
    updated = table ∧ ∃ votes, table.candidateVotes.lookup digest = some votes ∧
      ((context.isMemberOf fromId votes.groupId = false ∧
          ((∃ s, vote = .valid s ∧
              misbehavior = .unauthorizedStatement ⟨⟨.valid digest, s, fromId⟩⟩) ∨
            (∃ s, vote = .invalid s ∧
              misbehavior = .unauthorizedStatement ⟨⟨.invalid digest, s, fromId⟩⟩))) ∨
        (∃ existing proof, votes.validityVotes.lookup fromId = some existing ∧
          doubleVoteProof votes.candidate digest existing vote = some proof ∧
          misbehavior = .validityDoubleVote proof)) := by
  unfold validityVote at voted
  split at voted
  · cases voted
  · rename_i votes found
    split at voted
    · rename_i outsider
      split at voted <;> cases voted
      · exact ⟨rfl, votes, found, .inl ⟨by simpa using outsider, .inl ⟨_, rfl, rfl⟩⟩⟩
      · exact ⟨rfl, votes, found, .inl ⟨by simpa using outsider, .inr ⟨_, rfl, rfl⟩⟩⟩
    · split at voted
      · rename_i existing stored
        split at voted
        · split at voted
          · rename_i proof proved
            cases voted
            exact ⟨rfl, votes, found, .inr ⟨existing, proof, stored, proved, rfl⟩⟩
          · cases voted
        · cases voted
      · cases voted

/-- `validity_vote` panics exactly on the issuance vote of a non-member. -/
theorem validityVote_eq_none_iff :
    table.validityVote context fromId digest vote = none ↔
      ∃ votes, table.candidateVotes.lookup digest = some votes ∧
        context.isMemberOf fromId votes.groupId = false ∧ ∃ s, vote = .issued s := by
  unfold validityVote
  constructor
  · intro panicked
    split at panicked
    · cases panicked
    · rename_i votes found
      split at panicked
      · rename_i outsider
        split at panicked
        · cases panicked
        · cases panicked
        · exact ⟨votes, found, by simpa using outsider, _, rfl⟩
      · split at panicked
        · split at panicked
          · split at panicked <;> cases panicked
          · cases panicked
        · cases panicked
  · rintro ⟨votes, found, outsider, s, rfl⟩
    simp [found, outsider]

end ValidityVote

/-! ## `availability_vote` -/

section AvailabilityVote

variable {fromId : V} {digest : D} {signature : S}

/-- An availability vote either leaves the table as it is or records the
vote of a guarantor. -/
theorem availabilityVote_cases {result : ImportResult C D V S G}
    (voted : table.availabilityVote context fromId digest signature = some result) :
    result.1 = table ∨
      ∃ votes, table.candidateVotes.lookup digest = some votes ∧
        context.isAvailabilityGuarantorOf fromId votes.groupId = true ∧
        result = (table.storeVotes digest (votes.recordAvailabilityVote fromId signature)
            votes.groupId (context.includable votes)
            (context.includable (votes.recordAvailabilityVote fromId signature)),
          none, some ((votes.recordAvailabilityVote fromId signature).summary digest)) := by
  unfold availabilityVote at voted
  split at voted
  · left
    cases voted
    rfl
  · rename_i votes found
    split at voted
    · left
      cases voted
      rfl
    · rename_i guarantor
      right
      refine ⟨votes, found, by simpa using guarantor, ?_⟩
      cases voted
      rfl

/-- The only misbehavior of an availability vote: a non-guarantor's vote. -/
theorem availabilityVote_misbehavior {updated : Table C D V S G}
    {misbehavior : Misbehavior C D V S} {summary : Option (Summary D G)}
    (voted : table.availabilityVote context fromId digest signature =
      some (updated, some misbehavior, summary)) :
    updated = table ∧ ∃ votes, table.candidateVotes.lookup digest = some votes ∧
      context.isAvailabilityGuarantorOf fromId votes.groupId = false ∧
      misbehavior = .unauthorizedStatement ⟨⟨.available digest, signature, fromId⟩⟩ := by
  unfold availabilityVote at voted
  split at voted
  · cases voted
  · rename_i votes found
    split at voted
    · rename_i outsider
      cases voted
      exact ⟨rfl, votes, found, by simpa using outsider, rfl⟩
    · cases voted

/-- `availability_vote` never panics. -/
theorem availabilityVote_isSome :
    (table.availabilityVote context fromId digest signature).isSome := by
  unfold availabilityVote
  split
  · rfl
  · split <;> rfl

end AvailabilityVote

/-! ## `import_candidate` -/

section ImportCandidate

variable {fromId : V} {candidate : C} {signature : S}

/-- The four paths of `import_candidate`: an unauthorized proposal, a second
proposal with another digest, a repeated proposal, and a first proposal. -/
theorem importCandidate_cases {result : ImportResult C D V S G}
    (imported : table.importCandidate context fromId candidate signature = some result) :
    (context.isMemberOf fromId (context.candidateGroup candidate) = false ∧
        result = (table, some (.unauthorizedStatement
          ⟨⟨.candidate candidate, signature, fromId⟩⟩), none)) ∨
      (context.isMemberOf fromId (context.candidateGroup candidate) = true ∧
        ∃ oldDigest oldSig old, table.proposalOf fromId = some (oldDigest, oldSig) ∧
          oldDigest ≠ context.candidateDigest candidate ∧
          table.candidateVotes.lookup oldDigest = some old ∧
          result = (table, some (.multipleCandidates
            ⟨(old.candidate, oldSig), (candidate, signature)⟩), none)) ∨
      (context.isMemberOf fromId (context.candidateGroup candidate) = true ∧
        (∃ oldSig, table.proposalOf fromId =
          some (context.candidateDigest candidate, oldSig)) ∧
        table.validityVote context fromId (context.candidateDigest candidate)
          (.issued signature) = some result) ∨
      (context.isMemberOf fromId (context.candidateGroup candidate) = true ∧
        table.proposalOf fromId = none ∧
        (table.noteProposal fromId candidate (context.candidateDigest candidate)
          (context.candidateGroup candidate) signature).validityVote context fromId
          (context.candidateDigest candidate) (.issued signature) = some result) := by
  unfold importCandidate at imported
  by_cases member : context.isMemberOf fromId (context.candidateGroup candidate) = true
  · simp only [member, Bool.not_true, Bool.false_eq_true, ↓reduceIte] at imported
    cases proposed : table.proposalOf fromId with
    | none =>
        rw [proposed] at imported
        exact .inr (.inr (.inr ⟨member, rfl, imported⟩))
    | some proposal =>
        obtain ⟨oldDigest, oldSig⟩ := proposal
        rw [proposed] at imported
        by_cases unchanged : oldDigest = context.candidateDigest candidate
        · subst unchanged
          simp only [ne_eq, not_true_eq_false, ↓reduceIte] at imported
          exact .inr (.inr (.inl ⟨member, ⟨oldSig, rfl⟩, imported⟩))
        · simp only [ne_eq, unchanged, not_false_eq_true, ↓reduceIte] at imported
          cases found : table.candidateVotes.lookup oldDigest with
          | none => simp [found] at imported
          | some old =>
              simp only [found, Option.some.injEq] at imported
              exact .inr (.inl ⟨member, oldDigest, oldSig, old, rfl, unchanged, found,
                imported.symm⟩)
  · have outsider : context.isMemberOf fromId (context.candidateGroup candidate) = false := by
      simpa using member
    simp only [outsider, Bool.not_false, ↓reduceIte, Option.some.injEq] at imported
    exact .inl ⟨outsider, imported.symm⟩

end ImportCandidate

/-! ## `import_statement` -/

/-- An import either records the detected misbehavior against the signer, or
notes the trace as seen by the relay and the signer. -/
theorem importStatement_cases {statement : SignedStatement C D V S}
    {receivedFrom : Option V} {updated : Table C D V S G} {summary : Option (Summary D G)}
    (imported : table.importStatement context statement receivedFrom =
      some (updated, summary)) :
    ∃ intermediate maybeMisbehavior,
      table.importKind context statement = some (intermediate, maybeMisbehavior, summary) ∧
      ((∃ misbehavior, maybeMisbehavior = some misbehavior ∧
          updated = { intermediate with
            detectedMisbehavior :=
              intermediate.detectedMisbehavior.insert statement.sender misbehavior }) ∨
        (maybeMisbehavior = none ∧
          updated = ((match receivedFrom with
              | some relay => intermediate.noteTraceSeen statement.trace relay
              | none => intermediate).noteTraceSeen statement.trace statement.sender))) := by
  unfold importStatement at imported
  cases kind : table.importKind context statement with
  | none => simp [kind] at imported
  | some outcome =>
      obtain ⟨intermediate, maybeMisbehavior, kindSummary⟩ := outcome
      rw [kind] at imported
      cases maybeMisbehavior with
      | some misbehavior =>
          simp only [Option.bind_eq_bind, Option.bind_some, Option.pure_def,
            Option.some.injEq, Prod.mk.injEq] at imported
          obtain ⟨rfl, rfl⟩ := imported
          exact ⟨intermediate, some misbehavior, rfl, .inl ⟨misbehavior, rfl, rfl⟩⟩
      | none =>
          simp only [Option.bind_eq_bind, Option.bind_some, Option.pure_def,
            Option.some.injEq, Prod.mk.injEq] at imported
          obtain ⟨rfl, rfl⟩ := imported
          exact ⟨intermediate, none, rfl, .inr ⟨rfl, rfl⟩⟩

end Table
end StatementTable
end Polkadot
