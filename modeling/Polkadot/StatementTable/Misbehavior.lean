import Polkadot.StatementTable.Consistency

/-!
# Misbehavior is only ever proved

Every entry of `detected_misbehavior` is a proof against its authority made
of statements that authority signed and the table imported.  The proofs are
assembled from the state of the table (the candidate stored for an old
digest, the stored vote), so the argument is an invariant of the table
against the list of imported statements: every proposal and every stored
validity vote stands for an imported statement of its authority.  The digest
is assumed injective, as the hash it models is assumed collision resistant:
the stored candidate of a digest is then the candidate of every statement
about that digest.
-/

namespace Polkadot
namespace StatementTable

set_option linter.unusedSectionVars false

variable {C D V S G : Type} [DecidableEq D] [DecidableEq V] [DecidableEq S]
  [DecidableEq G]

/-! ## Genuine proofs and honest authorities -/

/-- Whether an authority may sign a statement: members sign candidates and
validity votes of their group, availability guarantors sign availability. -/
def Authorized (context : Context C D V G) (authority : V) : Statement C D → Prop
  | .candidate candidate => context.isMemberOf authority (context.candidateGroup candidate) = true
  | .valid digest | .invalid digest => ∀ candidate, context.candidateDigest candidate = digest →
      context.isMemberOf authority (context.candidateGroup candidate) = true
  | .available digest => ∀ candidate, context.candidateDigest candidate = digest →
      context.isAvailabilityGuarantorOf authority (context.candidateGroup candidate) = true

/-- A misbehavior proof against `authority` made of statements of `imported`
that it signed. -/
def Genuine (context : Context C D V G) (imported : List (SignedStatement C D V S))
    (authority : V) : Misbehavior C D V S → Prop
  | .validityDoubleVote (.issuedAndValidity (candidate, issued) (digest, valid)) =>
      context.candidateDigest candidate = digest ∧
        ⟨.candidate candidate, issued, authority⟩ ∈ imported ∧
        ⟨.valid digest, valid, authority⟩ ∈ imported
  | .validityDoubleVote (.issuedAndInvalidity (candidate, issued) (digest, invalid)) =>
      context.candidateDigest candidate = digest ∧
        ⟨.candidate candidate, issued, authority⟩ ∈ imported ∧
        ⟨.invalid digest, invalid, authority⟩ ∈ imported
  | .validityDoubleVote (.validityAndInvalidity digest valid invalid) =>
      ⟨.valid digest, valid, authority⟩ ∈ imported ∧
        ⟨.invalid digest, invalid, authority⟩ ∈ imported
  | .multipleCandidates ⟨(first, firstSig), (second, secondSig)⟩ =>
      context.candidateDigest first ≠ context.candidateDigest second ∧
        ⟨.candidate first, firstSig, authority⟩ ∈ imported ∧
        ⟨.candidate second, secondSig, authority⟩ ∈ imported
  | .unauthorizedStatement ⟨statement⟩ =>
      statement ∈ imported ∧ statement.sender = authority ∧
        ¬Authorized context authority statement.statement

/-- An authority that proposes at most one candidate, never votes both ways
on a digest nor on its own candidate, and signs only what it may. -/
structure Honest (context : Context C D V G) (imported : List (SignedStatement C D V S))
    (authority : V) : Prop where
  one_candidate : ∀ first firstSig second secondSig,
    ⟨.candidate first, firstSig, authority⟩ ∈ imported →
      ⟨.candidate second, secondSig, authority⟩ ∈ imported → first = second
  one_kind : ∀ digest valid invalid, ⟨.valid digest, valid, authority⟩ ∈ imported →
    ⟨.invalid digest, invalid, authority⟩ ∉ imported
  not_on_own : ∀ candidate issued vote, ⟨.candidate candidate, issued, authority⟩ ∈ imported →
    ⟨.valid (context.candidateDigest candidate), vote, authority⟩ ∉ imported ∧
      ⟨.invalid (context.candidateDigest candidate), vote, authority⟩ ∉ imported
  authorized : ∀ statement ∈ imported, statement.sender = authority →
    Authorized context authority statement.statement

/-- No genuine proof exists against an honest authority. -/
theorem Honest.not_genuine {context : Context C D V G}
    {imported : List (SignedStatement C D V S)} {authority : V}
    (honest : Honest context imported authority) (misbehavior : Misbehavior C D V S) :
    ¬Genuine context imported authority misbehavior := by
  intro genuine
  rcases misbehavior with (⟨⟨candidate, issued⟩, ⟨digest, valid⟩⟩ |
      ⟨⟨candidate, issued⟩, ⟨digest, invalid⟩⟩ | ⟨digest, valid, invalid⟩) |
    ⟨⟨first, firstSig⟩, ⟨second, secondSig⟩⟩ | ⟨⟨statement⟩⟩
  · obtain ⟨rfl, proposed, voted⟩ := genuine
    exact (honest.not_on_own candidate issued valid proposed).1 voted
  · obtain ⟨rfl, proposed, voted⟩ := genuine
    exact (honest.not_on_own candidate issued invalid proposed).2 voted
  · obtain ⟨validVote, invalidVote⟩ := genuine
    exact honest.one_kind digest valid invalid validVote invalidVote
  · obtain ⟨different, firstSent, secondSent⟩ := genuine
    exact different (congrArg _ (honest.one_candidate first firstSig second secondSig
      firstSent secondSent))
  · obtain ⟨sent, signer, unauthorized⟩ := genuine
    exact unauthorized (honest.authorized statement sent signer)

/-! ## What the table holds stands for imported statements -/

namespace Table

/-- Every proposal, stored validity vote and detected misbehavior of the
table stands for statements of `imported` signed by its authority. -/
structure Recorded (context : Context C D V G) (imported : List (SignedStatement C D V S))
    (table : Table C D V S G) : Prop where
  proposal : ∀ authority digest signature,
    table.proposalOf authority = some (digest, signature) →
      ∃ candidate, context.candidateDigest candidate = digest ∧
        ⟨.candidate candidate, signature, authority⟩ ∈ imported
  vote : ∀ digest data authority vote, table.candidateVotes.lookup digest = some data →
    data.validityVotes.lookup authority = some vote →
      (voteStatement digest data.candidate authority vote).2 ∈ imported
  detected : ∀ authority misbehavior,
    table.detectedMisbehavior.lookup authority = some misbehavior →
      Genuine context imported authority misbehavior

variable {context : Context C D V G} {imported : List (SignedStatement C D V S)}
  {table : Table C D V S G}

/-- The empty table records no misbehaviour. -/
theorem recorded_empty : (Table.empty : Table C D V S G).Recorded context imported where
  proposal := by simp [proposalOf, Table.empty]
  vote := by simp [Table.empty]
  detected := by simp [Table.empty]

/-- A double-vote proof built from two votes that stand for imported
statements is genuine. -/
theorem genuine_doubleVoteProof {candidate : C} {digest : D} {authority : V}
    (digestEq : context.candidateDigest candidate = digest)
    {existing vote : ValidityVote S}
    (existingSent : (voteStatement digest candidate authority existing).2 ∈ imported)
    (voteSent : (voteStatement digest candidate authority vote).2 ∈ imported)
    {proof : ValidityDoubleVote C D S}
    (built : doubleVoteProof candidate digest existing vote = some proof) :
    Genuine context imported authority (.validityDoubleVote proof) := by
  cases existing <;> cases vote <;> cases built
  all_goals first
    | exact ⟨digestEq, existingSent, voteSent⟩
    | exact ⟨digestEq, voteSent, existingSent⟩
    | exact ⟨existingSent, voteSent⟩
    | exact ⟨voteSent, existingSent⟩

/-- Storing new data at a digest keeps the table recorded when every vote of
the new data stands for an imported statement. -/
theorem Recorded.storeVotes (recorded : table.Recorded context imported) {digest : D}
    {data : CandidateData C V S G}
    (votesSent : ∀ authority vote, data.validityVotes.lookup authority = some vote →
      (voteStatement digest data.candidate authority vote).2 ∈ imported)
    (groupId : G) (wasIncludable isIncludable : Bool) :
    (table.storeVotes digest data groupId wasIncludable isIncludable).Recorded
      context imported where
  proposal := by
    simpa only [proposalOf_storeVotes] using recorded.proposal
  vote := by
    intro key stored authority vote found
    by_cases same : key = digest
    · subst same
      simp only [storeVotes_candidateVotes, AList.lookup_insert, Option.some.injEq] at found
      subst found
      exact votesSent authority vote
    · simp only [storeVotes_candidateVotes, AList.lookup_insert_ne same] at found
      exact recorded.vote key stored authority vote found
  detected := by
    simpa only [storeVotes_detectedMisbehavior] using recorded.detected

/-- Importing a validity vote that was sent keeps every recorded misbehaviour backed by imported
statements. -/
theorem Recorded.validityVote (recorded : table.Recorded context imported) {fromId : V}
    {digest : D} {vote : ValidityVote S}
    (sent : ∀ data, table.candidateVotes.lookup digest = some data →
      (voteStatement digest data.candidate fromId vote).2 ∈ imported)
    {result : ImportResult C D V S G}
    (voted : table.validityVote context fromId digest vote = some result) :
    result.1.Recorded context imported := by
  rcases validityVote_cases voted with unchanged | ⟨votes, found, _, _, rfl⟩
  · exact unchanged ▸ recorded
  · refine recorded.storeVotes ?_ _ _ _
    intro authority stored storedFound
    by_cases same : authority = fromId
    · subst same
      simp only [CandidateData.recordValidityVote, AList.lookup_insert,
        Option.some.injEq] at storedFound
      subst storedFound
      exact sent votes found
    · simp only [CandidateData.recordValidityVote, AList.lookup_insert_ne same] at storedFound
      exact recorded.vote digest votes authority stored found storedFound

/-- Importing an availability vote keeps every recorded misbehaviour backed by imported statements.
-/
theorem Recorded.availabilityVote (recorded : table.Recorded context imported)
    {fromId : V} {digest : D} {signature : S} {result : ImportResult C D V S G}
    (voted : table.availabilityVote context fromId digest signature = some result) :
    result.1.Recorded context imported := by
  rcases availabilityVote_cases voted with unchanged | ⟨votes, found, _, rfl⟩
  · exact unchanged ▸ recorded
  · -- an availability vote leaves the validity votes as they are
    refine recorded.storeVotes ?_ _ _ _
    intro authority vote storedFound
    exact recorded.vote digest votes authority vote found storedFound

/-- Noting an imported proposal keeps the table recorded. -/
theorem Recorded.noteProposal (recorded : table.Recorded context imported) {fromId : V}
    {candidate : C} {signature : S}
    (sent : ⟨.candidate candidate, signature, fromId⟩ ∈ imported) (groupId : G) :
    (table.noteProposal fromId candidate (context.candidateDigest candidate) groupId
      signature).Recorded context imported where
  proposal := by
    intro authority digest proposedSig found
    rw [proposalOf_noteProposal] at found
    by_cases same : authority = fromId
    · simp only [same, ↓reduceIte, Option.some.injEq, Prod.mk.injEq] at found
      obtain ⟨rfl, rfl⟩ := found
      exact ⟨candidate, rfl, same ▸ sent⟩
    · simp only [same, ↓reduceIte] at found
      exact recorded.proposal authority digest proposedSig found
  vote := by
    intro key stored authority vote found storedFound
    rw [lookup_noteProposal] at found
    split at found
    · -- a fresh entry holds no vote
      cases found
      simp [CandidateData.fresh] at storedFound
    · exact recorded.vote key stored authority vote found storedFound
  detected := by
    simpa only [noteProposal_detectedMisbehavior] using recorded.detected

/-- Noting a trace as seen keeps every recorded misbehaviour backed. -/
theorem Recorded.noteTraceSeen (recorded : table.Recorded context imported)
    (trace : StatementTrace V D) (knownBy : V) :
    (table.noteTraceSeen trace knownBy).Recorded context imported where
  proposal := by
    simpa only [proposalOf_noteTraceSeen] using recorded.proposal
  vote := by
    simpa only [noteTraceSeen_candidateVotes] using recorded.vote
  detected := by
    simpa only [noteTraceSeen_detectedMisbehavior] using recorded.detected

/-! ## The misbehavior each path reports -/

section Reported

variable (consistent : table.Consistent context)
include consistent

/-- A validity vote reports an unauthorized direct vote, or a double vote
made of the stored vote and the new one. -/
theorem Recorded.validityVote_genuine (recorded : table.Recorded context imported)
    {fromId : V} {digest : D} {vote : ValidityVote S}
    (sent : ∀ data, table.candidateVotes.lookup digest = some data →
      (voteStatement digest data.candidate fromId vote).2 ∈ imported)
    {result : ImportResult C D V S G} (voted : table.validityVote context fromId digest vote = some result)
    {misbehavior : Misbehavior C D V S} (reported : result.2.1 = some misbehavior) :
    Genuine context imported fromId misbehavior := by
  obtain ⟨updated, maybeMisbehavior, summary⟩ := result
  cases reported
  obtain ⟨-, votes, found, outcome⟩ := validityVote_misbehavior voted
  have wellFormed := consistent.wellFormed digest votes found
  have voteSent := sent votes found
  -- the group of a candidate entry is the group of its candidate
  have outsiderOf : context.isMemberOf fromId votes.groupId = false →
      ¬∀ candidate, context.candidateDigest candidate = digest →
        context.isMemberOf fromId (context.candidateGroup candidate) = true := by
    intro outsider authorized
    have member := authorized votes.candidate wellFormed.digest_eq
    rw [← wellFormed.group_eq, outsider] at member
    cases member
  rcases outcome with ⟨outsider, ⟨s, rfl, rfl⟩ | ⟨s, rfl, rfl⟩⟩ |
    ⟨existing, proof, stored, built, rfl⟩
  · exact ⟨voteSent, rfl, outsiderOf outsider⟩
  · exact ⟨voteSent, rfl, outsiderOf outsider⟩
  · exact genuine_doubleVoteProof wellFormed.digest_eq
      (recorded.vote digest votes fromId existing found stored) voteSent built

/-- Misbehaviour reported on an imported availability vote is genuine. -/
theorem availabilityVote_genuine {fromId : V} {digest : D} {signature : S}
    (sent : ⟨.available digest, signature, fromId⟩ ∈ imported)
    {result : ImportResult C D V S G}
    (voted : table.availabilityVote context fromId digest signature = some result)
    {misbehavior : Misbehavior C D V S} (reported : result.2.1 = some misbehavior) :
    Genuine context imported fromId misbehavior := by
  obtain ⟨updated, maybeMisbehavior, summary⟩ := result
  cases reported
  obtain ⟨-, votes, found, outsider, rfl⟩ := availabilityVote_misbehavior voted
  have wellFormed := consistent.wellFormed digest votes found
  refine ⟨sent, rfl, fun authorized => ?_⟩
  have guarantor := authorized votes.candidate wellFormed.digest_eq
  rw [← wellFormed.group_eq, outsider] at guarantor
  cases guarantor

/-- With an injective digest, the issuance vote of a candidate statement
stands for that statement, whoever created the entry. -/
theorem issuance_sent (injective : Function.Injective context.candidateDigest)
    {fromId : V} {candidate : C} {signature : S}
    (sent : ⟨.candidate candidate, signature, fromId⟩ ∈ imported) :
    ∀ data, table.candidateVotes.lookup (context.candidateDigest candidate) = some data →
      (voteStatement (context.candidateDigest candidate) data.candidate fromId
        (.issued signature)).2 ∈ imported := by
  intro data found
  have sameCandidate : data.candidate = candidate :=
    injective (consistent.wellFormed _ data found).digest_eq
  simpa [voteStatement, sameCandidate] using sent

/-- Importing a candidate that was sent keeps every recorded misbehaviour backed, with digests
without collisions. -/
theorem Recorded.importCandidate (recorded : table.Recorded context imported)
    (injective : Function.Injective context.candidateDigest) {fromId : V} {candidate : C}
    {signature : S} (sent : ⟨.candidate candidate, signature, fromId⟩ ∈ imported)
    {result : ImportResult C D V S G}
    (importedCandidate : table.importCandidate context fromId candidate signature = some result) :
    result.1.Recorded context imported ∧
      ∀ misbehavior, result.2.1 = some misbehavior →
        Genuine context imported fromId misbehavior := by
  rcases importCandidate_cases importedCandidate with
    ⟨outsider, rfl⟩ | ⟨-, oldDigest, oldSig, old, proposed, moved, found, rfl⟩ |
      ⟨-, -, voted⟩ | ⟨-, -, voted⟩
  · refine ⟨recorded, ?_⟩
    rintro misbehavior ⟨⟩
    exact ⟨sent, rfl, by simp [Authorized, outsider]⟩
  · -- the old proposal and the stored candidate of its digest are the same
    refine ⟨recorded, ?_⟩
    rintro misbehavior ⟨⟩
    obtain ⟨first, firstDigest, firstSent⟩ := recorded.proposal fromId oldDigest oldSig proposed
    have storedDigest := (consistent.wellFormed oldDigest old found).digest_eq
    have sameFirst : old.candidate = first := injective (storedDigest.trans firstDigest.symm)
    refine ⟨?_, sameFirst ▸ firstSent, sent⟩
    rw [storedDigest]
    exact moved
  · have issued := issuance_sent consistent injective sent
    exact ⟨recorded.validityVote issued voted,
      fun _ reported => recorded.validityVote_genuine consistent issued voted reported⟩
  · -- the first proposal of the authority is noted before its issuance vote
    have noted := recorded.noteProposal sent (context.candidateGroup candidate)
    have notedConsistent := consistent.noteProposal fromId candidate signature
    have issued := issuance_sent notedConsistent injective sent
    exact ⟨noted.validityVote issued voted,
      fun _ reported => noted.validityVote_genuine notedConsistent issued voted reported⟩

/-- Importing a statement that was sent keeps every recorded misbehaviour backed, and what it
reports is genuine. -/
theorem Recorded.importKind (recorded : table.Recorded context imported)
    (injective : Function.Injective context.candidateDigest)
    {statement : SignedStatement C D V S} (sent : statement ∈ imported)
    {result : ImportResult C D V S G} (kind : table.importKind context statement = some result) :
    result.1.Recorded context imported ∧
      ∀ misbehavior, result.2.1 = some misbehavior →
        Genuine context imported statement.sender misbehavior := by
  obtain ⟨body, signature, sender⟩ := statement
  cases body with
  | candidate candidate => exact recorded.importCandidate consistent injective sent kind
  | valid digest =>
      have voteSent : ∀ data, table.candidateVotes.lookup digest = some data →
          (voteStatement digest data.candidate sender (.valid signature)).2 ∈ imported :=
        fun _ _ => sent
      exact ⟨recorded.validityVote voteSent kind,
        fun _ reported => recorded.validityVote_genuine consistent voteSent kind reported⟩
  | invalid digest =>
      have voteSent : ∀ data, table.candidateVotes.lookup digest = some data →
          (voteStatement digest data.candidate sender (.invalid signature)).2 ∈ imported :=
        fun _ _ => sent
      exact ⟨recorded.validityVote voteSent kind,
        fun _ reported => recorded.validityVote_genuine consistent voteSent kind reported⟩
  | available digest =>
      exact ⟨recorded.availabilityVote kind,
        fun _ reported => availabilityVote_genuine consistent sent kind reported⟩

/-- One import keeps the table recorded: a detected misbehavior is genuine
against the signer of the statement. -/
theorem Recorded.importStatement (recorded : table.Recorded context imported)
    (injective : Function.Injective context.candidateDigest)
    {statement : SignedStatement C D V S} (sent : statement ∈ imported)
    {receivedFrom : Option V} {updated : Table C D V S G} {summary : Option (Summary D G)}
    (importedStatement : table.importStatement context statement receivedFrom =
      some (updated, summary)) :
    updated.Recorded context imported := by
  obtain ⟨intermediate, maybeMisbehavior, kind, ⟨misbehavior, rfl, rfl⟩ | ⟨-, rfl⟩⟩ :=
    importStatement_cases importedStatement
  · obtain ⟨middle, genuine⟩ := recorded.importKind consistent injective sent kind
    refine ⟨middle.proposal, middle.vote, ?_⟩
    intro authority reported found
    by_cases signer : authority = statement.sender
    · subst signer
      simp only [AList.lookup_insert, Option.some.injEq] at found
      exact found ▸ genuine misbehavior rfl
    · simp only [AList.lookup_insert_ne signer] at found
      exact middle.detected authority reported found
  · have middle := (recorded.importKind consistent injective sent kind).1
    cases receivedFrom with
    | none => exact middle.noteTraceSeen _ _
    | some relay => exact (middle.noteTraceSeen _ _).noteTraceSeen _ _

end Reported

/-- A run of imports of statements of `imported` keeps the table recorded
and consistent. -/
theorem Recorded.importStatements (injective : Function.Injective context.candidateDigest) :
    ∀ (inputs : List (SignedStatement C D V S × Option V)) {table final : Table C D V S G},
      table.Recorded context imported → table.Consistent context →
      (∀ input ∈ inputs, input.1 ∈ imported) →
      importStatements context table inputs = some final →
      final.Recorded context imported ∧ final.Consistent context
  | [], _, _, recorded, consistent, _, run => by
      cases run
      exact ⟨recorded, consistent⟩
  | (statement, receivedFrom) :: rest, table, final, recorded, consistent, sent, run => by
      simp only [Table.importStatements, Option.bind_eq_bind] at run
      cases step : table.importStatement context statement receivedFrom with
      | none => simp [step] at run
      | some outcome =>
          obtain ⟨updated, summary⟩ := outcome
          simp only [step, Option.bind_some] at run
          have first := sent (statement, receivedFrom) List.mem_cons_self
          exact Recorded.importStatements injective rest
            (recorded.importStatement consistent injective first step)
            (consistent.importStatement step)
            (fun input member => sent input (List.mem_cons_of_mem _ member)) run

/-- Every detected misbehavior is a genuine proof, and no honest authority
is accused. -/
structure MisbehaviorSound (context : Context C D V G)
    (imported : List (SignedStatement C D V S)) (table : Table C D V S G) : Prop where
  genuine : ∀ authority misbehavior,
    table.detectedMisbehavior.lookup authority = some misbehavior →
      Genuine context imported authority misbehavior
  honest_clear : ∀ authority, Honest context imported authority →
    authority ∉ table.detectedMisbehavior

/-- Recorded misbehaviour is sound: each report is backed by statements imported. -/
theorem Recorded.misbehaviorSound (recorded : table.Recorded context imported) :
    table.MisbehaviorSound context imported where
  genuine := recorded.detected
  honest_clear := by
    intro authority honest detected
    obtain ⟨misbehavior, found⟩ :=
      Option.isSome_iff_exists.mp (AList.lookup_isSome.mpr detected)
    exact honest.not_genuine misbehavior (recorded.detected authority misbehavior found)

/-- Soundness of misbehavior detection: after any run of imports from the
empty table, every detected misbehavior is a genuine proof built from
statements of the run, and no honest authority is accused. -/
theorem importStatements_misbehaviorSound (context : Context C D V G)
    (injective : Function.Injective context.candidateDigest)
    (inputs : List (SignedStatement C D V S × Option V)) (table : Table C D V S G)
    (importedAll : importStatements context Table.empty inputs = some table) :
    table.MisbehaviorSound context (inputs.map Prod.fst) :=
  (Recorded.importStatements injective inputs recorded_empty consistent_empty
    (fun _ member => List.mem_map_of_mem member) importedAll).1.misbehaviorSound

/-- Authority 0 proposes candidates 4 and 6, authority 2 finds candidate 4
valid and then invalid, and authority 3, of the odd group, votes on the even
candidate 4. -/
def misbehavingRun : List (SignedStatement Nat Nat Nat Nat × Option Nat) :=
  [(⟨.candidate 4, 10, 0⟩, none), (⟨.candidate 6, 11, 0⟩, none), (⟨.valid 4, 12, 2⟩, none),
    (⟨.invalid 4, 13, 2⟩, none), (⟨.valid 4, 15, 3⟩, none)]

/-- All three misbehaviors of `misbehavingRun` are detected, each with the
statements that prove it, and they are sound. -/
theorem importStatements_misbehaviorSound_detected :
    Function.Injective twoGroups.candidateDigest ∧
      ∃ table : Table Nat Nat Nat Nat Nat,
        importStatements twoGroups Table.empty misbehavingRun = some table ∧
        table.detectedMisbehavior.lookup 0 = some (.multipleCandidates ⟨(4, 10), (6, 11)⟩) ∧
        table.detectedMisbehavior.lookup 2 = some (.validityDoubleVote (.validityAndInvalidity 4 12 13)) ∧
        table.detectedMisbehavior.lookup 3 = some (.unauthorizedStatement ⟨⟨.valid 4, 15, 3⟩⟩) ∧
        table.MisbehaviorSound twoGroups (misbehavingRun.map Prod.fst) := by
  refine ⟨Function.injective_id, _, rfl, rfl, rfl, rfl, ?_⟩
  exact importStatements_misbehaviorSound twoGroups Function.injective_id misbehavingRun _ rfl

end Table

end StatementTable
end Polkadot
