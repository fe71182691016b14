import Polkadot.StatementTable.FillBatch

/-!
# The table never panics

The table is a state machine: a step is an import that does not panic, or a
fill of any batch.  The three `qed` arguments of `generic.rs` rest on
cross-map invariants of every reachable table:

* every proposal names a digest with a candidate entry (the
  `EXISTENCE_PROOF` of `import_candidate`);
* every candidate entry has its candidate's digest and group, so that with
  an injective digest the issuer of a candidate is a member of the entry's
  group (the `panic!` of `validity_vote`);
* `indicated_bad_by` lists, once each, exactly the authorities whose vote is
  an invalidity vote (the subtraction in `CandidateData::summary`).

These invariants hold on every reachable table whatever the digest; only
the absence of the panic uses injectivity.
-/

namespace Polkadot
namespace StatementTable

set_option linter.unusedSectionVars false

variable {C D V S G : Type} [DecidableEq D] [DecidableEq V] [DecidableEq S]
  [DecidableEq G]

/-- One step of the table: an import that does not panic, or a fill of any
batch. -/
inductive Step (context : Context C D V G) : Table C D V S G → Table C D V S G → Prop
  | importStatement {table updated : Table C D V S G}
      (statement : SignedStatement C D V S) (receivedFrom : Option V)
      (summary : Option (Summary D G)) :
      table.importStatement context statement receivedFrom = some (updated, summary) →
      Step context table updated
  | fillBatch {table : Table C D V S G} {B : Type}
      (batch : StatementBatch V (SignedStatement C D V S) B) (state : B) :
      Step context table (table.fillBatch batch state).1

/-- The tables reachable from `Table::default()`. -/
def Reachable (context : Context C D V G) (table : Table C D V S G) : Prop :=
  Relation.ReflTransGen (Step context) Table.empty table

/-- Induction over reachable tables: an invariant of the empty table that
every step preserves holds on every reachable table. -/
theorem Reachable.induction {context : Context C D V G} {P : Table C D V S G → Prop}
    (initial : P Table.empty)
    (preserved : ∀ table updated, P table → Step context table updated → P updated) :
    ∀ table, Reachable context table → P table := by
  intro table reachable
  induction reachable with
  | refl => exact initial
  | tail _ step holds => exact preserved _ _ holds step

/-- A run of imports that does not panic stays among the reachable tables. -/
theorem Reachable.importStatements {context : Context C D V G} :
    ∀ {table final : Table C D V S G} {inputs : List (SignedStatement C D V S × Option V)},
      Reachable context table → table.importStatements context inputs = some final →
        Reachable context final
  | table, final, [], reachable, run => by
    cases run
    exact reachable
  | table, final, (statement, receivedFrom) :: rest, reachable, run => by
    simp only [Table.importStatements, Option.bind_eq_bind] at run
    cases imported : table.importStatement context statement receivedFrom with
    | none => simp [imported] at run
    | some result =>
      obtain ⟨updated, summary⟩ := result
      simp only [imported, Option.bind_some] at run
      exact Reachable.importStatements
        (reachable.tail (.importStatement statement receivedFrom summary imported)) run

/-! ## Well-formed candidate data -/

/-- The candidate data stored at a digest: digest and group are those of its
candidate, and `indicated_bad_by` lists, once each, exactly the authorities
whose vote is an invalidity vote. -/
structure CandidateData.WellFormed (context : Context C D V G) (digest : D)
    (data : CandidateData C V S G) : Prop where
  digest_eq : context.candidateDigest data.candidate = digest
  group_eq : data.groupId = context.candidateGroup data.candidate
  bad_nodup : data.indicatedBadBy.Nodup
  mem_bad_iff : ∀ authority, authority ∈ data.indicatedBadBy ↔
    ∃ s, data.validityVotes.lookup authority = some (.invalid s)

namespace CandidateData

variable {context : Context C D V G}

/-- A fresh candidate's data is well formed. -/
theorem wellFormed_fresh (candidate : C) :
    (fresh (V := V) (S := S) (context.candidateGroup candidate) candidate).WellFormed
      context (context.candidateDigest candidate) where
  digest_eq := rfl
  group_eq := rfl
  bad_nodup := List.nodup_nil
  mem_bad_iff := by simp [fresh]

/-- Recording a first validity vote keeps the bad list exact. -/
theorem WellFormed.recordValidityVote {digest : D} {data : CandidateData C V S G}
    (wellFormed : data.WellFormed context digest) {fromId : V}
    (absent : data.validityVotes.lookup fromId = none) (vote : ValidityVote S) :
    (data.recordValidityVote fromId vote).WellFormed context digest := by
  have notBad : fromId ∉ data.indicatedBadBy := by
    rw [wellFormed.mem_bad_iff]
    simp [absent]
  refine ⟨wellFormed.digest_eq, wellFormed.group_eq, ?_, ?_⟩
  · cases vote with
    | invalid s =>
        have disjoint : data.indicatedBadBy.Disjoint [fromId] := List.disjoint_singleton.mpr notBad
        exact wellFormed.bad_nodup.append (List.nodup_singleton _) disjoint
    | issued s => exact wellFormed.bad_nodup
    | valid s => exact wellFormed.bad_nodup
  · intro authority
    by_cases same : authority = fromId
    · subst same
      cases vote <;> simp [CandidateData.recordValidityVote, AList.lookup_insert, notBad]
    · have before := wellFormed.mem_bad_iff authority
      cases vote <;>
        simp [CandidateData.recordValidityVote, AList.lookup_insert_ne same, same, before]

/-- Recording an availability vote keeps the data well formed. -/
theorem WellFormed.recordAvailabilityVote {digest : D} {data : CandidateData C V S G}
    (wellFormed : data.WellFormed context digest) (fromId : V) (signature : S) :
    (data.recordAvailabilityVote fromId signature).WellFormed context digest :=
  ⟨wellFormed.digest_eq, wellFormed.group_eq, wellFormed.bad_nodup, wellFormed.mem_bad_iff⟩

/-- The `usize` subtraction of `CandidateData::summary` never truncates. -/
theorem WellFormed.bad_length_le {digest : D} {data : CandidateData C V S G}
    (wellFormed : data.WellFormed context digest) :
    data.indicatedBadBy.length ≤ data.validityVotes.entries.length := by
  have subset : data.indicatedBadBy ⊆ data.validityVotes.entries.keys := by
    intro authority member
    obtain ⟨s, found⟩ := (wellFormed.mem_bad_iff authority).mp member
    exact AList.mem_keys.mp (AList.lookup_isSome.mp (by simp [found]))
  have bounded := (wellFormed.bad_nodup.subperm subset).length_le
  simpa [List.keys] using bounded

end CandidateData

/-! ## Consistent tables -/

namespace Table

variable {context : Context C D V G} {table : Table C D V S G}

/-- The cross-map invariant of the table. -/
structure Consistent (context : Context C D V G) (table : Table C D V S G) : Prop where
  proposal_mem : ∀ authority digest signature,
    table.proposalOf authority = some (digest, signature) → digest ∈ table.candidateVotes
  wellFormed : ∀ digest data, table.candidateVotes.lookup digest = some data →
    data.WellFormed context digest

/-- The empty table is consistent. -/
theorem consistent_empty : (Table.empty : Table C D V S G).Consistent context where
  proposal_mem := by simp [proposalOf, Table.empty]
  wellFormed := by simp [Table.empty]

/-- Storing well-formed data at a digest keeps the table consistent. -/
theorem Consistent.storeVotes (consistent : table.Consistent context) {digest : D}
    {data : CandidateData C V S G} (wellFormed : data.WellFormed context digest)
    (groupId : G) (wasIncludable isIncludable : Bool) :
    (table.storeVotes digest data groupId wasIncludable isIncludable).Consistent context where
  proposal_mem := by
    intro authority proposed signature found
    exact (AList.mem_insert _).mpr (.inr (consistent.proposal_mem authority proposed signature found))
  wellFormed := by
    intro key stored found
    by_cases same : key = digest
    · subst same
      simp only [storeVotes_candidateVotes, AList.lookup_insert, Option.some.injEq] at found
      exact found ▸ wellFormed
    · simp only [storeVotes_candidateVotes, AList.lookup_insert_ne same] at found
      exact consistent.wellFormed key stored found

/-- Importing a validity vote keeps the table consistent. -/
theorem Consistent.validityVote (consistent : table.Consistent context) {fromId : V}
    {digest : D} {vote : ValidityVote S} {result : ImportResult C D V S G}
    (voted : table.validityVote context fromId digest vote = some result) :
    result.1.Consistent context := by
  rcases validityVote_cases voted with unchanged | ⟨votes, found, _, absent, rfl⟩
  · exact unchanged ▸ consistent
  · exact consistent.storeVotes
      ((consistent.wellFormed digest votes found).recordValidityVote absent vote) _ _ _

/-- Importing an availability vote keeps the table consistent. -/
theorem Consistent.availabilityVote (consistent : table.Consistent context) {fromId : V}
    {digest : D} {signature : S} {result : ImportResult C D V S G}
    (voted : table.availabilityVote context fromId digest signature = some result) :
    result.1.Consistent context := by
  rcases availabilityVote_cases voted with unchanged | ⟨votes, found, _, rfl⟩
  · exact unchanged ▸ consistent
  · exact consistent.storeVotes
      ((consistent.wellFormed digest votes found).recordAvailabilityVote fromId signature) _ _ _

/-- A first proposal names a digest that now has a candidate entry. -/
theorem Consistent.noteProposal (consistent : table.Consistent context) (fromId : V)
    (candidate : C) (signature : S) :
    (table.noteProposal fromId candidate (context.candidateDigest candidate)
      (context.candidateGroup candidate) signature).Consistent context where
  proposal_mem := by
    intro authority proposed proposedSig found
    rw [proposalOf_noteProposal] at found
    by_cases same : authority = fromId
    · simp only [same, ↓reduceIte, Option.some.injEq, Prod.mk.injEq] at found
      obtain ⟨rfl, -⟩ := found
      by_cases known : context.candidateDigest candidate ∈ table.candidateVotes
      · simp [Table.noteProposal, known]
      · simp [Table.noteProposal, known]
    · simp only [same, ↓reduceIte] at found
      have old := consistent.proposal_mem authority proposed proposedSig found
      by_cases known : context.candidateDigest candidate ∈ table.candidateVotes
      · simpa [Table.noteProposal, known] using old
      · simp [Table.noteProposal, known, old]
  wellFormed := by
    intro key stored found
    rw [lookup_noteProposal] at found
    split at found
    · rename_i fresh
      obtain ⟨rfl, -⟩ := fresh
      cases found
      exact CandidateData.wellFormed_fresh candidate
    · exact consistent.wellFormed key stored found

/-- Importing a candidate keeps the table consistent. -/
theorem Consistent.importCandidate (consistent : table.Consistent context) {fromId : V}
    {candidate : C} {signature : S} {result : ImportResult C D V S G}
    (imported : table.importCandidate context fromId candidate signature = some result) :
    result.1.Consistent context := by
  rcases importCandidate_cases imported with
    ⟨-, rfl⟩ | ⟨-, -, -, -, -, -, -, rfl⟩ | ⟨-, -, voted⟩ | ⟨-, -, voted⟩
  · exact consistent
  · exact consistent
  · exact consistent.validityVote voted
  · exact (consistent.noteProposal fromId candidate signature).validityVote voted

/-- Importing a statement of any kind keeps the table consistent. -/
theorem Consistent.importKind (consistent : table.Consistent context)
    {statement : SignedStatement C D V S} {result : ImportResult C D V S G}
    (imported : table.importKind context statement = some result) :
    result.1.Consistent context := by
  unfold Table.importKind at imported
  split at imported
  · exact consistent.importCandidate imported
  · exact consistent.validityVote imported
  · exact consistent.validityVote imported
  · exact consistent.availabilityVote imported

/-- Noting a trace touches no proposal and no candidate entry. -/
theorem Consistent.noteTraceSeen (consistent : table.Consistent context)
    (trace : StatementTrace V D) (knownBy : V) :
    (table.noteTraceSeen trace knownBy).Consistent context where
  proposal_mem := by
    intro authority digest signature found
    rw [proposalOf_noteTraceSeen] at found
    exact consistent.proposal_mem authority digest signature found
  wellFormed := consistent.wellFormed

/-- `import_statement` keeps the table consistent. -/
theorem Consistent.importStatement (consistent : table.Consistent context)
    {statement : SignedStatement C D V S} {receivedFrom : Option V}
    {updated : Table C D V S G} {summary : Option (Summary D G)}
    (imported : table.importStatement context statement receivedFrom =
      some (updated, summary)) :
    updated.Consistent context := by
  obtain ⟨intermediate, _, kind, ⟨misbehavior, -, rfl⟩ | ⟨-, rfl⟩⟩ :=
    importStatement_cases imported
  · have middle := consistent.importKind kind
    exact ⟨middle.proposal_mem, middle.wellFormed⟩
  · have middle := consistent.importKind kind
    cases receivedFrom with
    | none => exact middle.noteTraceSeen _ _
    | some relay => exact (middle.noteTraceSeen _ _).noteTraceSeen _ _

/-- `fill_batch` keeps the table consistent. -/
theorem Consistent.fillBatch (consistent : table.Consistent context) {B : Type}
    (batch : StatementBatch V (SignedStatement C D V S) B) (state : B) :
    (table.fillBatch batch state).1.Consistent context where
  proposal_mem := by
    intro authority digest signature found
    rcases proposalOf_fillBatch table batch state authority with
      dropped | kept
    · rw [dropped] at found
      cases found
    · rw [kept] at found
      exact consistent.proposal_mem authority digest signature found
  wellFormed := consistent.wellFormed

/-- Every step keeps the table consistent. -/
theorem Consistent.step (consistent : table.Consistent context)
    {updated : Table C D V S G} (step : Step context table updated) :
    updated.Consistent context := by
  cases step with
  | importStatement statement receivedFrom summary imported =>
      exact consistent.importStatement imported
  | fillBatch batch state => exact consistent.fillBatch batch state

/-- Every reachable table is consistent. -/
theorem consistent_of_reachable {table : Table C D V S G}
    (reachable : Reachable context table) : table.Consistent context :=
  Reachable.induction consistent_empty
    (fun _ _ consistent step => consistent.step step) table reachable

/-! ## No panic -/

/-- With an injective digest, a member's issuance vote on its own candidate
passes the membership check, whether or not the entry was just created. -/
theorem Consistent.issuance_isSome (consistent : table.Consistent context)
    (injective : Function.Injective context.candidateDigest) {fromId : V} {candidate : C}
    (member : context.isMemberOf fromId (context.candidateGroup candidate) = true)
    (signature : S) :
    (table.validityVote context fromId (context.candidateDigest candidate)
      (.issued signature)).isSome := by
  cases voted : table.validityVote context fromId (context.candidateDigest candidate)
      (.issued signature) with
  | some _ => rfl
  | none =>
      obtain ⟨votes, found, outsider, -⟩ := validityVote_eq_none_iff.mp voted
      have wellFormed := consistent.wellFormed _ votes found
      have sameCandidate : votes.candidate = candidate := injective wellFormed.digest_eq
      rw [wellFormed.group_eq, sameCandidate, member] at outsider
      cases outsider

/-- In a consistent table, with digests without collisions, importing a candidate never panics. -/
theorem Consistent.importCandidate_isSome (consistent : table.Consistent context)
    (injective : Function.Injective context.candidateDigest) (fromId : V) (candidate : C)
    (signature : S) :
    (table.importCandidate context fromId candidate signature).isSome := by
  unfold Table.importCandidate
  by_cases member : context.isMemberOf fromId (context.candidateGroup candidate) = true
  · simp only [member, Bool.not_true, Bool.false_eq_true, ↓reduceIte]
    cases proposed : table.proposalOf fromId with
    | none =>
        exact (consistent.noteProposal fromId candidate signature).issuance_isSome
          injective member signature
    | some proposal =>
        obtain ⟨oldDigest, oldSig⟩ := proposal
        by_cases unchanged : oldDigest = context.candidateDigest candidate
        · subst unchanged
          simpa using consistent.issuance_isSome injective member signature
        · have known := consistent.proposal_mem fromId oldDigest oldSig proposed
          cases found : table.candidateVotes.lookup oldDigest with
          | some old => simp [unchanged, found]
          | none =>
              -- the `EXISTENCE_PROOF`: a proposed digest has an entry
              rw [← AList.lookup_isSome, found] at known
              cases known
  · simp [member]

/-- In a consistent table, with digests without collisions, importing a statement never panics. -/
theorem Consistent.importStatement_isSome (consistent : table.Consistent context)
    (injective : Function.Injective context.candidateDigest)
    (statement : SignedStatement C D V S) (receivedFrom : Option V) :
    (table.importStatement context statement receivedFrom).isSome := by
  have kindSome : (table.importKind context statement).isSome := by
    unfold Table.importKind
    split
    · exact consistent.importCandidate_isSome injective _ _ _
    · cases voted : table.validityVote context statement.sender _ (.valid statement.signature)
      · obtain ⟨-, -, -, s, impossible⟩ := validityVote_eq_none_iff.mp voted
        cases impossible
      · rfl
    · cases voted : table.validityVote context statement.sender _ (.invalid statement.signature)
      · obtain ⟨-, -, -, s, impossible⟩ := validityVote_eq_none_iff.mp voted
        cases impossible
      · rfl
    · exact availabilityVote_isSome
  obtain ⟨⟨intermediate, maybeMisbehavior, summary⟩, kind⟩ :=
    Option.isSome_iff_exists.mp kindSome
  unfold Table.importStatement
  rw [kind]
  cases maybeMisbehavior <;> rfl

/-! ## Every reachable table -/

/-- What rules out the panics of the table: (a) proposals name digests with
an entry, so the `EXISTENCE_PROOF` holds; (b) a member's issuance vote, on
the table as it is or after noting the proposal, passes the membership check
of `validity_vote`; (c) the bad list of every entry is exact, so the
subtraction of `summary` does not truncate; and no import panics. -/
structure NoPanic (context : Context C D V G) (table : Table C D V S G) : Prop where
  proposal_mem : ∀ authority digest signature,
    table.proposalOf authority = some (digest, signature) → digest ∈ table.candidateVotes
  issuance_isSome : ∀ fromId candidate signature,
    context.isMemberOf fromId (context.candidateGroup candidate) = true →
      (table.validityVote context fromId (context.candidateDigest candidate)
          (.issued signature)).isSome ∧
        ((table.noteProposal fromId candidate (context.candidateDigest candidate)
            (context.candidateGroup candidate) signature).validityVote context fromId
          (context.candidateDigest candidate) (.issued signature)).isSome
  bad_exact : ∀ digest data, table.candidateVotes.lookup digest = some data →
    data.indicatedBadBy.Nodup ∧
      (∀ authority, authority ∈ data.indicatedBadBy ↔
        ∃ s, data.validityVotes.lookup authority = some (.invalid s)) ∧
      data.indicatedBadBy.length ≤ data.validityVotes.entries.length
  importStatement_isSome : ∀ statement receivedFrom,
    (table.importStatement context statement receivedFrom).isSome

/-- A consistent table, with digests without collisions, never panics. -/
theorem Consistent.noPanic (consistent : table.Consistent context)
    (injective : Function.Injective context.candidateDigest) : table.NoPanic context where
  proposal_mem := consistent.proposal_mem
  issuance_isSome := fun fromId candidate signature member =>
    ⟨consistent.issuance_isSome injective member signature,
      (consistent.noteProposal fromId candidate signature).issuance_isSome
        injective member signature⟩
  bad_exact := fun digest data found =>
    have wellFormed := consistent.wellFormed digest data found
    ⟨wellFormed.bad_nodup, wellFormed.mem_bad_iff, wellFormed.bad_length_le⟩
  importStatement_isSome := consistent.importStatement_isSome injective

/-- No reachable table panics, with digests without collisions. -/
theorem reachable_noPanic (context : Context C D V G)
    (injective : Function.Injective context.candidateDigest) (table : Table C D V S G)
    (reachable : Reachable context table) : table.NoPanic context :=
  (consistent_of_reachable reachable).noPanic injective

/-- A context with one group, of which every authority is a member and an
availability guarantor. -/
def singleGroup : Context Nat Nat Nat Nat where
  candidateDigest := id
  candidateGroup := fun _ => 0
  isMemberOf := fun _ _ => true
  isAvailabilityGuarantorOf := fun _ _ => true
  requisiteVotes := fun _ => (1, 1)

/-- A batch that names authority 2 twice and takes every statement. -/
def repeatedTargetBatch :
    StatementBatch Nat (SignedStatement Nat Nat Nat Nat) (List (SignedStatement Nat Nat Nat Nat)) :=
  ⟨fun _ => [2, 2], fun pushed statement => (true, pushed ++ [statement])⟩

/-- Two groups, of the even and of the odd candidates: an authority is a
member of the group of its own parity and an availability guarantor of the
other, and a candidate needs two validity votes and one availability vote. -/
def twoGroups : Context Nat Nat Nat Nat where
  candidateDigest := id
  candidateGroup := fun candidate => candidate % 2
  isMemberOf := fun authority groupId => decide (authority % 2 = groupId)
  isAvailabilityGuarantorOf := fun authority groupId => decide (authority % 2 ≠ groupId)
  requisiteVotes := fun _ => (2, 1)

/-- Authority 0 proposes candidate 4, which authority 2 finds valid and the
guarantor 1 available; authority 2 proposes candidate 6, which authority 4
finds invalid. -/
def backedRun : List (SignedStatement Nat Nat Nat Nat × Option Nat) :=
  [(⟨.candidate 4, 10, 0⟩, none), (⟨.valid 4, 12, 2⟩, some 2), (⟨.available 4, 11, 1⟩, none),
    (⟨.candidate 6, 20, 2⟩, none), (⟨.invalid 6, 24, 4⟩, some 2)]

/-- After `backedRun` and a fill of a batch, candidate 4 is includable and
candidate 6 is flagged bad by authority 4 alone; no panic is in reach. -/
theorem reachable_noPanic_backed :
    Function.Injective twoGroups.candidateDigest ∧
      ∃ table : Table Nat Nat Nat Nat Nat, Reachable twoGroups table ∧
        table.candidateIncludable twoGroups 4 = true ∧
        (table.candidateVotes.lookup 6).map CandidateData.indicatedBadBy = some [4] ∧
        table.NoPanic twoGroups := by
  obtain ⟨imported, run⟩ : ∃ imported, Table.empty.importStatements twoGroups backedRun = some imported :=
    ⟨_, rfl⟩
  have reachable : Reachable twoGroups (imported.fillBatch repeatedTargetBatch []).1 :=
    (Reachable.importStatements .refl run).tail (.fillBatch repeatedTargetBatch [])
  refine ⟨Function.injective_id, _, reachable, ?_, ?_, reachable_noPanic twoGroups Function.injective_id _ reachable⟩
  all_goals
    cases run
    rfl

/-! ## A target named twice -/

/-- Authority 2 proposes candidate 7 and knows its own issuance.  A fill of a
batch naming it twice takes its data out at the first name and a default at
the second; the default does not know the issuance, which is pushed and noted
in it, and the drop guard writes the default back last, so the proposal of
authority 2 is lost while its known trace is kept. -/
theorem fillBatch_clobbers_repeated_target :
    ∃ table summary,
      (Table.empty : Table Nat Nat Nat Nat Nat).importStatement singleGroup
          ⟨.candidate 7, 1, 2⟩ none = some (table, summary) ∧
        Reachable singleGroup table ∧
        table.proposalOf 2 = some (7, 1) ∧
        (table.authorityData.lookup 2).map AuthorityData.knownStatements = some {.candidate 2} ∧
        (table.fillBatch repeatedTargetBatch []).1.proposalOf 2 = none ∧
        (table.fillBatch repeatedTargetBatch []).2 = [⟨.candidate 7, 1, 2⟩] :=
  ⟨_, _, rfl, .tail .refl (.importStatement ⟨.candidate 7, 1, 2⟩ none _ rfl), rfl, rfl, rfl, rfl⟩

end Table

end StatementTable
end Polkadot
