import Polkadot.StatementTable.Defs

/-!
# Importing statements into the table

`import_candidate`, `validity_vote`, `availability_vote`,
`update_includable_count`, `note_trace_seen` and `import_statement` of
`generic.rs`.  An import returns the updated table, the misbehavior it
detected and the summary it produced.  A `panic!` or a failed `expect` of the
source is `none`: the issuance vote of a non-member in `validity_vote`, and
the missing candidate entry behind an old proposal in `import_candidate`.
-/

namespace Polkadot
namespace StatementTable

variable {C D V S G : Type} [DecidableEq D] [DecidableEq V] [DecidableEq S]
  [DecidableEq G]

/-- The result of one import: the new table, the detected misbehavior and
the summary. -/
abbrev ImportResult (C D V S G : Type) :=
  Table C D V S G × Option (Misbehavior C D V S) × Option (Summary D G)

/-- `update_includable_count`: decrement (and drop at zero) when a candidate
stops being includable, increment when it becomes includable. -/
def updateIncludableCount (map : AList (fun _ : G => Nat)) (groupId : G)
    (wasIncludable isIncludable : Bool) : AList (fun _ : G => Nat) :=
  let map :=
    if wasIncludable && !isIncludable then
      match map.lookup groupId with
      | some count =>
          if count - 1 = 0 then map.erase groupId
          else map.insert groupId (count - 1)
      | none => map
    else map
  if !wasIncludable && isIncludable then
    map.insert groupId ((map.lookup groupId).getD 0 + 1)
  else map

/-- The proof assembled from a stored vote and a conflicting new vote; two
votes of the same kind with different signatures prove nothing. -/
def doubleVoteProof (candidate : C) (digest : D) :
    ValidityVote S → ValidityVote S → Option (ValidityDoubleVote C D S)
  | .issued iss, .valid good | .valid good, .issued iss =>
      some (.issuedAndValidity (candidate, iss) (digest, good))
  | .issued iss, .invalid bad | .invalid bad, .issued iss =>
      some (.issuedAndInvalidity (candidate, iss) (digest, bad))
  | .valid good, .invalid bad | .invalid bad, .valid good =>
      some (.validityAndInvalidity digest good bad)
  | _, _ => none

/-- Record a first validity vote of an authority: an invalidity vote also
enters `indicated_bad_by`. -/
def CandidateData.recordValidityVote (votes : CandidateData C V S G)
    (fromId : V) (vote : ValidityVote S) : CandidateData C V S G :=
  { votes with
    indicatedBadBy :=
      match vote with
      | .invalid _ => votes.indicatedBadBy ++ [fromId]
      | _ => votes.indicatedBadBy
    validityVotes := votes.validityVotes.insert fromId vote }

/-- Record an availability vote; a repeated vote overwrites the signature. -/
def CandidateData.recordAvailabilityVote (votes : CandidateData C V S G)
    (fromId : V) (signature : S) : CandidateData C V S G :=
  { votes with availabilityVotes := votes.availabilityVotes.insert fromId signature }

namespace Table

/-- Store updated candidate data and adjust the includable counter of its
group. -/
def storeVotes (table : Table C D V S G) (digest : D)
    (votes : CandidateData C V S G) (groupId : G)
    (wasIncludable isIncludable : Bool) : Table C D V S G :=
  { table with
    candidateVotes := table.candidateVotes.insert digest votes
    includableCount :=
      updateIncludableCount table.includableCount groupId wasIncludable isIncludable }

/-- `validity_vote`. -/
def validityVote (context : Context C D V G) (table : Table C D V S G)
    (fromId : V) (digest : D) (vote : ValidityVote S) :
    Option (ImportResult C D V S G) :=
  match table.candidateVotes.lookup digest with
  | none => some (table, none, none)
  | some votes =>
      let wasIncludable := context.includable votes
      if !context.isMemberOf fromId votes.groupId then
        match vote with
        | .valid s => some (table, some (.unauthorizedStatement ⟨⟨.valid digest, s, fromId⟩⟩), none)
        | .invalid s => some (table, some (.unauthorizedStatement ⟨⟨.invalid digest, s, fromId⟩⟩), none)
        -- the issuance vote is only cast after checking membership; qed
        | .issued _ => none
      else
        match votes.validityVotes.lookup fromId with
        | some existing =>
            if existing ≠ vote then
              match doubleVoteProof votes.candidate digest existing vote with
              | some proof => some (table, some (.validityDoubleVote proof), none)
              | none => some (table, none, none)
            else some (table, none, none)
        | none =>
            -- the group, hence the thresholds, of the votes are unchanged
            let votes' := votes.recordValidityVote fromId vote
            let isIncludable := context.includable votes'
            some (table.storeVotes digest votes' votes.groupId wasIncludable isIncludable,
              none, some (votes'.summary digest))

/-- `availability_vote`. -/
def availabilityVote (context : Context C D V G) (table : Table C D V S G)
    (fromId : V) (digest : D) (signature : S) : Option (ImportResult C D V S G) :=
  match table.candidateVotes.lookup digest with
  | none => some (table, none, none)
  | some votes =>
      let wasIncludable := context.includable votes
      if !context.isAvailabilityGuarantorOf fromId votes.groupId then
        some (table, some (.unauthorizedStatement ⟨⟨.available digest, signature, fromId⟩⟩), none)
      else
        let votes' := votes.recordAvailabilityVote fromId signature
        let isIncludable := context.includable votes'
        some (table.storeVotes digest votes' votes.groupId wasIncludable isIncludable,
          none, some (votes'.summary digest))

/-- Note a new proposal of an authority and create the candidate entry if
the digest is new (`or_insert_with`). -/
def noteProposal (table : Table C D V S G) (fromId : V) (candidate : C)
    (digest : D) (groupId : G) (signature : S) : Table C D V S G :=
  let data := (table.authorityData.lookup fromId).getD AuthorityData.empty
  { table with
    authorityData :=
      table.authorityData.insert fromId { data with proposal := some (digest, signature) }
    candidateVotes :=
      if digest ∈ table.candidateVotes then table.candidateVotes
      else table.candidateVotes.insert digest (CandidateData.fresh groupId candidate) }

/-- The proposal an authority has made, if any. -/
def proposalOf (table : Table C D V S G) (authority : V) : Option (D × S) :=
  (table.authorityData.lookup authority).bind AuthorityData.proposal

/-- `import_candidate`. -/
def importCandidate (context : Context C D V G) (table : Table C D V S G)
    (fromId : V) (candidate : C) (signature : S) : Option (ImportResult C D V S G) :=
  let group := context.candidateGroup candidate
  if !context.isMemberOf fromId group then
    some (table, some (.unauthorizedStatement ⟨⟨.candidate candidate, signature, fromId⟩⟩), none)
  else
    let digest := context.candidateDigest candidate
    match table.proposalOf fromId with
    | some (oldDigest, oldSig) =>
        if oldDigest ≠ digest then
          -- `expect(EXISTENCE_PROOF)`
          match table.candidateVotes.lookup oldDigest with
          | some old =>
              some (table, some (.multipleCandidates
                ⟨(old.candidate, oldSig), (candidate, signature)⟩), none)
          | none => none
        else table.validityVote context fromId digest (.issued signature)
    | none =>
        (table.noteProposal fromId candidate digest group signature).validityVote
          context fromId digest (.issued signature)

/-- `note_trace_seen`. -/
def noteTraceSeen (table : Table C D V S G) (trace : StatementTrace V D)
    (knownBy : V) : Table C D V S G :=
  let data := (table.authorityData.lookup knownBy).getD AuthorityData.empty
  { table with
    authorityData := table.authorityData.insert knownBy
      { data with knownStatements := insert trace data.knownStatements } }

/-- Dispatch a statement to the import path of its kind. -/
def importKind (context : Context C D V G) (table : Table C D V S G)
    (statement : SignedStatement C D V S) : Option (ImportResult C D V S G) :=
  match statement.statement with
  | .candidate candidate =>
      table.importCandidate context statement.sender candidate statement.signature
  | .valid digest =>
      table.validityVote context statement.sender digest (.valid statement.signature)
  | .invalid digest =>
      table.validityVote context statement.sender digest (.invalid statement.signature)
  | .available digest =>
      table.availabilityVote context statement.sender digest statement.signature

/-- `import_statement`: misbehavior is recorded against the signer (the
latest proof replaces an earlier one); otherwise the trace is noted as seen
by the relaying authority and by the signer. -/
def importStatement (context : Context C D V G) (table : Table C D V S G)
    (statement : SignedStatement C D V S) (receivedFrom : Option V) :
    Option (Table C D V S G × Option (Summary D G)) := do
  let (table, maybeMisbehavior, maybeSummary) ← table.importKind context statement
  match maybeMisbehavior with
  | some misbehavior =>
      pure ({ table with
        detectedMisbehavior :=
          table.detectedMisbehavior.insert statement.sender misbehavior },
        maybeSummary)
  | none =>
      let table :=
        match receivedFrom with
        | some relay => table.noteTraceSeen statement.trace relay
        | none => table
      pure (table.noteTraceSeen statement.trace statement.sender, maybeSummary)

/-- `candidate_includable`. -/
def candidateIncludable (context : Context C D V G) (table : Table C D V S G)
    (digest : D) : Bool :=
  match table.candidateVotes.lookup digest with
  | some data => context.includable data
  | none => false

/-- Import a sequence of statements, each with the authority it was received
from, stopping at a panic. -/
def importStatements (context : Context C D V G) :
    Table C D V S G → List (SignedStatement C D V S × Option V) →
      Option (Table C D V S G)
  | table, [] => some table
  | table, (statement, receivedFrom) :: rest => do
      let (table, _) ← table.importStatement context statement receivedFrom
      importStatements context table rest

end Table

end StatementTable
end Polkadot
