import Mathlib

/-!
# The statement table: data model

The statement table of `polkadot/statement-table/src/generic.rs` stores the
statements authorities issue about parachain candidates: proposals, validity
and invalidity votes, and availability votes.  It detects misbehavior and
counts, per group, the candidates that have gathered enough votes to be
included in a proposal.

The table is generic over a context.  Its associated types become the type
parameters `C` (candidate), `D` (digest), `V` (authority id), `S`
(signature) and `G` (group id), named as in the Rust generics.  A `HashMap`
is an `AList` (its entry order stands for the map's unspecified iteration
order), a `HashSet` is a `Finset` and a `Vec` is a `List`.
-/

namespace Polkadot
namespace StatementTable

/-- The queries a table makes of its context (the `Context` trait).  The
digest and group of a candidate are associated functions in the source; they
live in the same record here. -/
structure Context (C D V G : Type) where
  /-- The digest of a candidate. -/
  candidateDigest : C → D
  /-- The group of a candidate. -/
  candidateGroup : C → G
  /-- Members propose candidates and vote on validity. -/
  isMemberOf : V → G → Bool
  /-- Guarantors vote on availability. -/
  isAvailabilityGuarantorOf : V → G → Bool
  /-- Requisite validity and availability votes of a group. -/
  requisiteVotes : G → Nat × Nat

/-- Statements circulated among peers. -/
inductive Statement (C D : Type)
  | candidate (candidate : C)
  | valid (digest : D)
  | available (digest : D)
  | invalid (digest : D)
  deriving DecidableEq

/-- A signed statement. -/
structure SignedStatement (C D V S : Type) where
  statement : Statement C D
  signature : S
  sender : V
  deriving DecidableEq

/-- The trace of a class of statements by an authority: the signature is
replaced by the signer, since signatures need not be unique. -/
inductive StatementTrace (V D : Type)
  | candidate (authority : V)
  | valid (authority : V) (digest : D)
  | invalid (authority : V) (digest : D)
  | available (authority : V) (digest : D)
  deriving DecidableEq

/-- Voting more than one way on the validity of a candidate. -/
inductive ValidityDoubleVote (C D S : Type)
  | issuedAndValidity (issued : C × S) (validity : D × S)
  | issuedAndInvalidity (issued : C × S) (invalidity : D × S)
  | validityAndInvalidity (digest : D) (valid invalid : S)
  deriving DecidableEq

/-- Declaring two candidates. -/
structure MultipleCandidates (C S : Type) where
  first : C × S
  second : C × S
  deriving DecidableEq

/-- A statement submitted without the authority to make it. -/
structure UnauthorizedStatement (C D V S : Type) where
  statement : SignedStatement C D V S
  deriving DecidableEq

/-- The kinds of provable misbehavior. -/
inductive Misbehavior (C D V S : Type)
  | validityDoubleVote (proof : ValidityDoubleVote C D S)
  | multipleCandidates (proof : MultipleCandidates C S)
  | unauthorizedStatement (proof : UnauthorizedStatement C D V S)
  deriving DecidableEq

/-- A validity vote: implicit by issuing, or explicit either way. -/
inductive ValidityVote (S : Type)
  | issued (signature : S)
  | valid (signature : S)
  | invalid (signature : S)
  deriving DecidableEq

/-- The summary reported after importing a vote. -/
structure Summary (D G : Type) where
  candidate : D
  groupId : G
  validityVotes : Nat
  availabilityVotes : Nat
  signalledBad : Bool
  deriving DecidableEq

/-- The votes and data stored about one candidate. -/
structure CandidateData (C V S G : Type) where
  groupId : G
  candidate : C
  validityVotes : AList (fun _ : V => ValidityVote S)
  availabilityVotes : AList (fun _ : V => S)
  indicatedBadBy : List V
  deriving DecidableEq

/-- Per-authority metadata: its proposal and the statement traces it knows. -/
structure AuthorityData (D V S : Type) where
  proposal : Option (D × S)
  knownStatements : Finset (StatementTrace V D)
  deriving DecidableEq

/-- The table of all votes. -/
structure Table (C D V S G : Type) where
  authorityData : AList (fun _ : V => AuthorityData D V S)
  detectedMisbehavior : AList (fun _ : V => Misbehavior C D V S)
  candidateVotes : AList (fun _ : D => CandidateData C V S G)
  includableCount : AList (fun _ : G => Nat)
  deriving DecidableEq

variable {C D V S G : Type}

namespace CandidateData

/-- Whether anyone has called the candidate bad. -/
def indicatedBad (data : CandidateData C V S G) : Bool :=
  !data.indicatedBadBy.isEmpty

/-- A candidate can be included with enough validity and availability votes
and no invalidity vote. -/
def canBeIncluded (data : CandidateData C V S G)
    (validityThreshold availabilityThreshold : Nat) : Bool :=
  data.indicatedBadBy.isEmpty &&
    decide (validityThreshold ≤ data.validityVotes.entries.length) &&
    decide (availabilityThreshold ≤ data.availabilityVotes.entries.length)

/-- The summary of a candidate.  The validity count is the `usize` difference
of the source; its subtraction never truncates on reachable tables. -/
def summary (data : CandidateData C V S G) (digest : D) : Summary D G where
  candidate := digest
  groupId := data.groupId
  validityVotes := data.validityVotes.entries.length - data.indicatedBadBy.length
  availabilityVotes := data.availabilityVotes.entries.length
  signalledBad := data.indicatedBad

/-- Fresh data for a newly proposed candidate. -/
def fresh (groupId : G) (candidate : C) : CandidateData C V S G where
  groupId := groupId
  candidate := candidate
  validityVotes := ∅
  availabilityVotes := ∅
  indicatedBadBy := []

end CandidateData

/-- Whether a candidate can be included under the requisite votes of its
group. -/
def Context.includable (context : Context C D V G)
    (data : CandidateData C V S G) : Bool :=
  let thresholds := context.requisiteVotes data.groupId
  data.canBeIncluded thresholds.1 thresholds.2

/-- The default authority data: no proposal and no known statements. -/
def AuthorityData.empty : AuthorityData D V S where
  proposal := none
  knownStatements := ∅

/-- `Table::default`. -/
def Table.empty : Table C D V S G where
  authorityData := ∅
  detectedMisbehavior := ∅
  candidateVotes := ∅
  includableCount := ∅

/-- The trace of a signed statement, as `import_statement` computes it. -/
def SignedStatement.trace (statement : SignedStatement C D V S) :
    StatementTrace V D :=
  match statement.statement with
  | .candidate _ => .candidate statement.sender
  | .valid digest => .valid statement.sender digest
  | .invalid digest => .invalid statement.sender digest
  | .available digest => .available statement.sender digest

end StatementTable
end Polkadot
