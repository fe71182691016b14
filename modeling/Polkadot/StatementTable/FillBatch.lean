import Polkadot.StatementTable.Outcomes

/-!
# Filling a statement batch

`fill_batch` of `generic.rs`.  The data of every target authority is moved
out of the table (a target that is absent, or repeated, gets default data),
the statements of the table are offered to the batch in order (issuance
votes, then direct validity votes, then availability votes of each
candidate), each statement some target does not know yet is pushed and then
noted as known by all targets, and the first push that does not fit ends the
fill.  The drop guard `SwappedTargetData` writes the target data back, in
target order, on every exit.
-/

namespace Polkadot
namespace StatementTable

set_option linter.unusedSectionVars false

/-- A batch of statements to send out (the `StatementBatch` trait): its
targets, and a push that reports whether the statement fit. -/
structure StatementBatch (V T B : Type) where
  /-- The target authorities of the batch. -/
  targets : B → List V
  /-- Push a statement; `false` when the batch is full. -/
  push : B → T → Bool × B

variable {C D V S G : Type} [DecidableEq D] [DecidableEq V] [DecidableEq S]
  [DecidableEq G]

namespace Table

/-- The pre-fetch loop: take the data of each target out of the table,
leaving the default behind (`mem::replace`). -/
def prefetchTargets :
    List (V × AuthorityData D V S) → AList (fun _ : V => AuthorityData D V S) → List V →
      List (V × AuthorityData D V S) × AList (fun _ : V => AuthorityData D V S)
  | targetData, authorityData, [] => (targetData, authorityData)
  | targetData, authorityData, target :: rest =>
      match authorityData.lookup target with
      | none => prefetchTargets (targetData ++ [(target, AuthorityData.empty)]) authorityData rest
      | some data =>
          prefetchTargets (targetData ++ [(target, data)])
            (authorityData.insert target AuthorityData.empty) rest

/-- The statements of one vote of a candidate, with their traces. -/
def voteStatement (digest : D) (candidate : C) (sender : V) :
    ValidityVote S → StatementTrace V D × SignedStatement C D V S
  | .issued sig => (.candidate sender, ⟨.candidate candidate, sig, sender⟩)
  | .valid sig => (.valid sender digest, ⟨.valid digest, sig, sender⟩)
  | .invalid sig => (.invalid sender digest, ⟨.invalid digest, sig, sender⟩)

/-- Whether a validity vote is an issuance. -/
def ValidityVote.isIssued : ValidityVote S → Bool
  | .issued _ => true
  | _ => false

/-- The statements reconstructed for one candidate: issuance statements
before votes, and availability last. -/
def candidateStatements (digest : D) (data : CandidateData C V S G) :
    List (StatementTrace V D × SignedStatement C D V S) :=
  let issuance := data.validityVotes.entries.filter fun entry => ValidityVote.isIssued entry.2
  let validity := data.validityVotes.entries.filter fun entry => !ValidityVote.isIssued entry.2
  (issuance ++ validity).map (fun entry => voteStatement digest data.candidate entry.1 entry.2) ++
    data.availabilityVotes.entries.map fun entry =>
      (.available entry.1 digest, ⟨.available digest, entry.2, entry.1⟩)

/-- Every statement of the table, candidate by candidate. -/
def batchStatements (table : Table C D V S G) :
    List (StatementTrace V D × SignedStatement C D V S) :=
  table.candidateVotes.entries.flatMap fun entry => candidateStatements entry.1 entry.2

/-- Note a trace as known by every target. -/
def markKnown (trace : StatementTrace V D) (targetData : List (V × AuthorityData D V S)) :
    List (V × AuthorityData D V S) :=
  targetData.map fun target =>
    (target.1, { target.2 with knownStatements := insert trace target.2.knownStatements })

/-- The `attempt_send!` loop: push what some target has not seen; stop at the
first push that does not fit. -/
def attemptSend {B : Type} (batch : StatementBatch V (SignedStatement C D V S) B) :
    List (V × AuthorityData D V S) → B →
      List (StatementTrace V D × SignedStatement C D V S) →
        List (V × AuthorityData D V S) × B
  | targetData, state, [] => (targetData, state)
  | targetData, state, (trace, statement) :: rest =>
      if targetData.any (fun target => trace ∉ target.2.knownStatements) then
        let (pushed, state) := batch.push state statement
        if pushed then attemptSend batch (markKnown trace targetData) state rest
        else (targetData, state)
      else attemptSend batch targetData state rest

/-- The drop guard: write the target data back in target order. -/
def restoreTargets (authorityData : AList (fun _ : V => AuthorityData D V S))
    (targetData : List (V × AuthorityData D V S)) :
    AList (fun _ : V => AuthorityData D V S) :=
  targetData.foldl (fun data target => data.insert target.1 target.2) authorityData

/-- `fill_batch`. -/
def fillBatch {B : Type} (batch : StatementBatch V (SignedStatement C D V S) B)
    (state : B) (table : Table C D V S G) : Table C D V S G × B :=
  let (targetData, authorityData) :=
    prefetchTargets [] table.authorityData (batch.targets state)
  let (targetData, state) := attemptSend batch targetData state table.batchStatements
  ({ table with authorityData := restoreTargets authorityData targetData }, state)

/-! ## What a fill leaves alone -/

variable {B : Type} {batch : StatementBatch V (SignedStatement C D V S) B} {state : B}
  {table : Table C D V S G}

/-- `fill_batch` keeps the candidates' votes. -/
@[simp] theorem fillBatch_candidateVotes :
    (table.fillBatch batch state).1.candidateVotes = table.candidateVotes := rfl

/-- `fill_batch` keeps the misbehaviour detected. -/
@[simp] theorem fillBatch_detectedMisbehavior :
    (table.fillBatch batch state).1.detectedMisbehavior = table.detectedMisbehavior := rfl

/-- `fill_batch` keeps the includable counts. -/
@[simp] theorem fillBatch_includableCount :
    (table.fillBatch batch state).1.includableCount = table.includableCount := rfl

/-- Authority data whose proposal is the table's or none. -/
def ProposalKept (table : Table C D V S G) (authority : V)
    (data : AuthorityData D V S) : Prop :=
  data.proposal = none ∨ data.proposal = table.proposalOf authority

/-- A map all of whose entries keep their proposal or drop it. -/
def MapKept (table : Table C D V S G)
    (authorityData : AList (fun _ : V => AuthorityData D V S)) : Prop :=
  ∀ authority data, authorityData.lookup authority = some data →
    ProposalKept table authority data

/-- Inserting an authority's kept data keeps the map kept. -/
theorem mapKept_insert {authorityData : AList (fun _ : V => AuthorityData D V S)}
    (kept : MapKept table authorityData) {authority : V} {data : AuthorityData D V S}
    (dataKept : ProposalKept table authority data) :
    MapKept table (authorityData.insert authority data) := by
  intro other stored found
  by_cases same : other = authority
  · subst same
    rw [AList.lookup_insert] at found
    cases found
    exact dataKept
  · rw [AList.lookup_insert_ne same] at found
    exact kept other stored found

/-- Prefetching the targets keeps their data and the map kept. -/
theorem prefetchTargets_kept (targetData : List (V × AuthorityData D V S))
    {authorityData : AList (fun _ : V => AuthorityData D V S)} (targets : List V)
    (listKept : ∀ target ∈ targetData, ProposalKept table target.1 target.2)
    (kept : MapKept table authorityData) :
    (∀ target ∈ (prefetchTargets targetData authorityData targets).1,
        ProposalKept table target.1 target.2) ∧
      MapKept table (prefetchTargets targetData authorityData targets).2 := by
  induction targets generalizing targetData authorityData with
  | nil => exact ⟨listKept, kept⟩
  | cons target rest ih =>
      unfold prefetchTargets
      cases found : authorityData.lookup target with
      | none =>
          refine ih _ ?_ kept
          intro entry member
          rcases List.mem_append.mp member with old | fresh
          · exact listKept entry old
          · simp only [List.mem_singleton] at fresh
            subst fresh
            exact .inl rfl
      | some data =>
          refine ih _ ?_ (mapKept_insert kept (.inl rfl))
          intro entry member
          rcases List.mem_append.mp member with old | moved
          · exact listKept entry old
          · simp only [List.mem_singleton] at moved
            subst moved
            exact kept target data found

/-- Sending statements keeps the targets' data kept. -/
theorem attemptSend_kept (batch : StatementBatch V (SignedStatement C D V S) B)
    {targetData : List (V × AuthorityData D V S)} (state : B)
    (statements : List (StatementTrace V D × SignedStatement C D V S))
    (listKept : ∀ target ∈ targetData, ProposalKept table target.1 target.2) :
    ∀ target ∈ (attemptSend batch targetData state statements).1,
      ProposalKept table target.1 target.2 := by
  induction statements generalizing targetData state with
  | nil => exact listKept
  | cons entry rest ih =>
      obtain ⟨trace, statement⟩ := entry
      have markedKept : ∀ target ∈ markKnown trace targetData,
          ProposalKept table target.1 target.2 := by
        intro target member
        obtain ⟨original, originalMember, rfl⟩ := List.mem_map.mp member
        exact listKept original originalMember
      unfold attemptSend
      split
      · -- some target has not seen the trace: the statement is pushed
        cases pushResult : batch.push state statement with
        | mk pushed next =>
            cases pushed
            · simpa [pushResult] using listKept
            · simpa [pushResult] using ih next markedKept
      · exact ih state listKept

/-- Restoring the targets keeps the map kept. -/
theorem restoreTargets_kept {authorityData : AList (fun _ : V => AuthorityData D V S)}
    (targetData : List (V × AuthorityData D V S))
    (listKept : ∀ target ∈ targetData, ProposalKept table target.1 target.2)
    (kept : MapKept table authorityData) :
    MapKept table (restoreTargets authorityData targetData) := by
  induction targetData generalizing authorityData with
  | nil => exact kept
  | cons target rest ih =>
      exact ih (fun entry member => listKept entry (List.mem_cons_of_mem _ member))
        (mapKept_insert kept (listKept target List.mem_cons_self))

/-- A fill keeps every proposal or drops it: a target named twice gets its
data overwritten by the default taken at its second occurrence. -/
theorem proposalOf_fillBatch (table : Table C D V S G)
    (batch : StatementBatch V (SignedStatement C D V S) B) (state : B) (authority : V) :
    (table.fillBatch batch state).1.proposalOf authority = none ∨
      (table.fillBatch batch state).1.proposalOf authority = table.proposalOf authority := by
  have initial : MapKept table table.authorityData := by
    intro other data found
    exact .inr (by simp [proposalOf, found])
  obtain ⟨listKept, mapKept⟩ :=
    prefetchTargets_kept [] (batch.targets state) (by simp) initial
  have sentKept := attemptSend_kept batch state table.batchStatements listKept
  have restored := restoreTargets_kept _ sentKept mapKept
  cases found : (table.fillBatch batch state).1.authorityData.lookup authority with
  | none => exact .inl (by simp [proposalOf, found])
  | some data =>
      have dataKept := restored authority data found
      rcases dataKept with dropped | keptProposal
      · exact .inl (by simp [proposalOf, found, dropped])
      · exact .inr (by simp [proposalOf, found, keptProposal])

end Table

end StatementTable
end Polkadot
