import Polkadot.StatementTable.Consistency
import Polkadot.Foundations.AListCount

/-!
# The includable counter

`includable_count` maps each group to its number of includable candidates
and holds no zero, so that `includable_count()` is the number of groups with
an includable candidate.  The vote paths keep it by deltas, comparing the
includability of the candidate before and after the vote.  `import_candidate`
creates a candidate entry without a delta, so the counter is exact on every
reachable table as long as a fresh entry, with no vote at all, is not
includable: as long as no group needs zero votes of both kinds.  With
thresholds `(0, 0)` the first candidate of a group is includable and never
counted.
-/

namespace Polkadot
namespace StatementTable

open Foundations

set_option linter.unusedSectionVars false

variable {C D V S G : Type} [DecidableEq D] [DecidableEq V] [DecidableEq S]
  [DecidableEq G]

/-! ## The delta update -/

/-- `update_includable_count` moves a held count by the two deltas; a count
that becomes zero is removed. -/
theorem lookup_updateIncludableCount {map : AList (fun _ : G => Nat)} {groupId : G}
    {count : Nat} (counted : map.lookup groupId = countEntry count)
    {wasIncludable isIncludable : Bool} (positive : wasIncludable = true → 0 < count) :
    (updateIncludableCount map groupId wasIncludable isIncludable).lookup groupId =
      countEntry (count - (if wasIncludable then 1 else 0) + if isIncludable then 1 else 0) := by
  cases wasIncludable <;> cases isIncludable
  case false.false => simpa [updateIncludableCount] using counted
  case false.true =>
    simp [updateIncludableCount, counted, countEntry_of_pos (Nat.succ_pos count)]
  case true.true =>
    have stays : count - 1 + 1 = count := Nat.sub_add_cancel (positive rfl)
    simpa [updateIncludableCount, stays] using counted
  case true.false =>
    -- the `-= 1` branch: the entry is there because the count is positive
    have present : map.lookup groupId = some count := by
      rw [counted, countEntry_of_pos (positive rfl)]
    by_cases last : count - 1 = 0
    · simp [updateIncludableCount, present, last]
    · simp [updateIncludableCount, present, last, countEntry]

/-- Updating one group's count keeps the others'. -/
theorem lookup_updateIncludableCount_ne {map : AList (fun _ : G => Nat)} {groupId other : G}
    (different : other ≠ groupId) (wasIncludable isIncludable : Bool) :
    (updateIncludableCount map groupId wasIncludable isIncludable).lookup other =
      map.lookup other := by
  unfold updateIncludableCount
  cases wasIncludable <;> cases isIncludable
  case true.false =>
    cases map.lookup groupId with
    | none => rfl
    | some count =>
        by_cases last : count - 1 = 0
        · simp [last, AList.lookup_erase_ne different]
        · simp [last, AList.lookup_insert_ne different]
  all_goals simp [AList.lookup_insert_ne different]

/-! ## The exact counter -/

namespace Table

/-- Whether an entry of `candidate_votes` is an includable candidate of the
group. -/
def includableAt (context : Context C D V G) (groupId : G)
    (entry : Σ _ : D, CandidateData C V S G) : Bool :=
  decide (entry.2.groupId = groupId) && context.includable entry.2

/-- The number of includable candidates of a group. -/
def includableIn (context : Context C D V G) (table : Table C D V S G) (groupId : G) : Nat :=
  table.candidateVotes.entries.countP (includableAt context groupId)

/-- `includable_count` holds, for every group, its number of includable
candidates, and no zero. -/
def CountExact (context : Context C D V G) (table : Table C D V S G) : Prop :=
  ∀ groupId, table.includableCount.lookup groupId = countEntry (table.includableIn context groupId)

variable {context : Context C D V G} {table : Table C D V S G}

/-- The empty table counts exactly. -/
theorem countExact_empty : (Table.empty : Table C D V S G).CountExact context := by
  intro groupId
  simp [includableIn, Table.empty]

/-- The counter only reads the candidate entries and itself. -/
theorem CountExact.of_eq (exact : table.CountExact context) {updated : Table C D V S G}
    (votesEq : updated.candidateVotes = table.candidateVotes)
    (countEq : updated.includableCount = table.includableCount) :
    updated.CountExact context := by
  intro groupId
  rw [countEq, exact groupId]
  simp [includableIn, votesEq]

/-- Storing new data of a candidate in its group, with the two
includabilities as deltas, keeps the counter exact. -/
theorem CountExact.storeVotes (exact : table.CountExact context) {digest : D}
    {votes updated : CandidateData C V S G}
    (found : table.candidateVotes.lookup digest = some votes)
    (sameGroup : updated.groupId = votes.groupId) :
    (table.storeVotes digest updated votes.groupId (context.includable votes)
      (context.includable updated)).CountExact context := by
  intro groupId
  have moved := countP_entries_insert_of_lookup (includableAt context groupId) found updated
  by_cases same : groupId = votes.groupId
  · subst same
    have positive : context.includable votes = true →
        0 < table.includableIn context votes.groupId := fun includable =>
      countP_entries_pos_of_lookup _ found (by simp [includableAt, includable])
    rw [storeVotes_includableCount, lookup_updateIncludableCount (exact votes.groupId) positive]
    simp only [includableAt, sameGroup, decide_true, Bool.true_and] at moved
    congr 1
    exact (count_eq_of_moved moved positive).symm
  · rw [storeVotes_includableCount, lookup_updateIncludableCount_ne same, exact groupId]
    have otherGroup : ∀ data : CandidateData C V S G, data.groupId = votes.groupId →
        includableAt context groupId ⟨digest, data⟩ = false := by
      intro data inGroup
      simp [includableAt, inGroup, Ne.symm same]
    simp only [otherGroup votes rfl, otherGroup updated sameGroup, Bool.false_eq_true,
      ↓reduceIte, Nat.add_zero] at moved
    simp only [includableIn, storeVotes_candidateVotes, moved]

/-- Importing a validity vote keeps the counts exact. -/
theorem CountExact.validityVote (exact : table.CountExact context) {fromId : V}
    {digest : D} {vote : ValidityVote S} {result : ImportResult C D V S G}
    (voted : table.validityVote context fromId digest vote = some result) :
    result.1.CountExact context := by
  rcases validityVote_cases voted with unchanged | ⟨votes, found, _, _, rfl⟩
  · exact unchanged ▸ exact
  · exact exact.storeVotes found rfl

/-- Importing an availability vote keeps the counts exact. -/
theorem CountExact.availabilityVote (exact : table.CountExact context) {fromId : V}
    {digest : D} {signature : S} {result : ImportResult C D V S G}
    (voted : table.availabilityVote context fromId digest signature = some result) :
    result.1.CountExact context := by
  rcases availabilityVote_cases voted with unchanged | ⟨votes, found, _, rfl⟩
  · exact unchanged ▸ exact
  · exact exact.storeVotes found rfl

/-- A fresh entry with no vote is includable only under thresholds `(0, 0)`. -/
theorem includable_fresh {groupId : G} (thresholds : context.requisiteVotes groupId ≠ (0, 0))
    (candidate : C) :
    context.includable (CandidateData.fresh (V := V) (S := S) groupId candidate) = false := by
  cases required : context.requisiteVotes groupId with
  | mk validity availability =>
      have notBoth : ¬(validity = 0 ∧ availability = 0) := fun both =>
        thresholds (by rw [required, both.1, both.2])
      simp [Context.includable, CandidateData.canBeIncluded, CandidateData.fresh, required]
      omega

/-- Noting a proposal creates an entry but no delta: the counter stays exact
when the fresh entry is not includable. -/
theorem CountExact.noteProposal (exact : table.CountExact context) (fromId : V)
    (candidate : C) (digest : D) (groupId : G) (signature : S)
    (notIncludable :
      context.includable (CandidateData.fresh (V := V) (S := S) groupId candidate) = false) :
    (table.noteProposal fromId candidate digest groupId signature).CountExact context := by
  by_cases known : digest ∈ table.candidateVotes
  · exact exact.of_eq (by simp [Table.noteProposal, known]) rfl
  · intro other
    have added := countP_entries_insert_of_notMem (includableAt context other) known
      (CandidateData.fresh groupId candidate)
    have skipped : includableAt context other
        ⟨digest, CandidateData.fresh (V := V) (S := S) groupId candidate⟩ = false := by
      simp [includableAt, notIncludable]
    simp only [skipped, Bool.false_eq_true, ↓reduceIte, Nat.add_zero] at added
    rw [noteProposal_includableCount, exact other]
    simp only [includableIn, Table.noteProposal, if_neg known, added]

section Nondegenerate

-- no group is satisfied by zero votes of both kinds
variable (nondegenerate : ∀ groupId, context.requisiteVotes groupId ≠ (0, 0))
include nondegenerate

/-- Importing a candidate keeps the counts exact. -/
theorem CountExact.importCandidate (exact : table.CountExact context) {fromId : V}
    {candidate : C} {signature : S} {result : ImportResult C D V S G}
    (imported : table.importCandidate context fromId candidate signature = some result) :
    result.1.CountExact context := by
  rcases importCandidate_cases imported with
    ⟨-, rfl⟩ | ⟨-, -, -, -, -, -, -, rfl⟩ | ⟨-, -, voted⟩ | ⟨-, -, voted⟩
  · exact exact
  · exact exact
  · exact exact.validityVote voted
  · have noted := exact.noteProposal fromId candidate (context.candidateDigest candidate)
      (context.candidateGroup candidate) signature
      (includable_fresh (nondegenerate (context.candidateGroup candidate)) candidate)
    exact noted.validityVote voted

/-- `import_statement` keeps the counts exact. -/
theorem CountExact.importStatement (exact : table.CountExact context)
    {statement : SignedStatement C D V S} {receivedFrom : Option V}
    {updated : Table C D V S G} {summary : Option (Summary D G)}
    (imported : table.importStatement context statement receivedFrom =
      some (updated, summary)) :
    updated.CountExact context := by
  obtain ⟨intermediate, _, kind, ⟨misbehavior, -, rfl⟩ | ⟨-, rfl⟩⟩ :=
    importStatement_cases imported
  all_goals
    have middle : intermediate.CountExact context := by
      unfold Table.importKind at kind
      split at kind
      · exact exact.importCandidate nondegenerate kind
      · exact exact.validityVote kind
      · exact exact.validityVote kind
      · exact exact.availabilityVote kind
  · exact middle.of_eq rfl rfl
  · cases receivedFrom <;> exact middle.of_eq (by simp) (by simp)

/-- Every step keeps the counts exact. -/
theorem CountExact.step (exact : table.CountExact context) {updated : Table C D V S G}
    (step : Step context table updated) : updated.CountExact context := by
  cases step with
  | importStatement statement receivedFrom summary imported =>
      exact exact.importStatement nondegenerate imported
  | fillBatch batch state => exact exact.of_eq (by simp) (by simp)

/-- When no group is satisfied by zero votes, `includable_count` is exact on
every reachable table. -/
theorem countExact_of_reachable {table : Table C D V S G}
    (reachable : Reachable context table) : table.CountExact context :=
  Reachable.induction countExact_empty
    (fun _ _ exact step => exact.step nondegenerate step) table reachable

/-- A group has an entry of `includable_count` exactly when one of its
candidates is includable. -/
theorem mem_includableCount_iff {table : Table C D V S G}
    (reachable : Reachable context table) (groupId : G) :
    groupId ∈ table.includableCount ↔
      ∃ digest data, table.candidateVotes.lookup digest = some data ∧
        data.groupId = groupId ∧ context.includable data = true := by
  rw [← AList.lookup_isSome, countExact_of_reachable nondegenerate reachable groupId,
    countEntry_isSome_iff, includableIn, List.countP_pos_iff]
  constructor
  · rintro ⟨⟨digest, data⟩, member, holds⟩
    simp only [includableAt, Bool.and_eq_true, decide_eq_true_eq] at holds
    exact ⟨digest, data, AList.mem_lookup_iff.mpr member, holds⟩
  · rintro ⟨digest, data, found, inGroup, includable⟩
    exact ⟨⟨digest, data⟩, AList.mem_lookup_iff.mp found, by simp [includableAt, inGroup, includable]⟩

/-- The counter in the words of `proposed_candidates` and
`includable_count()`: a group has an entry exactly when one of its
candidates is includable, and the entry is their number, never zero, so the
decrement of `update_includable_count` never goes below zero. -/
theorem includableCount_of_reachable {table : Table C D V S G}
    (reachable : Reachable context table) (groupId : G) :
    (groupId ∈ table.includableCount ↔
        ∃ digest data, table.candidateVotes.lookup digest = some data ∧
          data.groupId = groupId ∧ context.includable data = true) ∧
      ∀ count, table.includableCount.lookup groupId = some count →
        count = table.includableIn context groupId ∧ 0 < count := by
  refine ⟨mem_includableCount_iff nondegenerate reachable groupId, fun count found => ?_⟩
  rw [countExact_of_reachable nondegenerate reachable groupId] at found
  unfold countEntry at found
  split at found
  · cases found
  · cases found
    exact ⟨rfl, Nat.pos_of_ne_zero ‹_›⟩

end Nondegenerate

/-- After `backedRun`, the even group has one includable candidate, and the
counter says so. -/
theorem includableCount_of_reachable_backed :
    (∀ groupId, twoGroups.requisiteVotes groupId ≠ (0, 0)) ∧
      ∃ table : Table Nat Nat Nat Nat Nat, Reachable twoGroups table ∧
        table.includableCount.lookup 0 = some 1 ∧
        ((0 ∈ table.includableCount ↔
            ∃ digest data, table.candidateVotes.lookup digest = some data ∧
              data.groupId = 0 ∧ twoGroups.includable data = true) ∧
          ∀ count, table.includableCount.lookup 0 = some count →
            count = table.includableIn twoGroups 0 ∧ 0 < count) := by
  have nondegenerate : ∀ groupId, twoGroups.requisiteVotes groupId ≠ (0, 0) := fun _ => by
    simp [twoGroups]
  obtain ⟨table, run⟩ : ∃ table, Table.empty.importStatements twoGroups backedRun = some table :=
    ⟨_, rfl⟩
  have reachable := Reachable.importStatements .refl run
  refine ⟨nondegenerate, table, reachable, ?_, includableCount_of_reachable nondegenerate reachable 0⟩
  cases run
  rfl

/-! ## Thresholds `(0, 0)` -/

/-- A context with one group that every authority serves and that needs no
vote at all. -/
def zeroThresholds : Context Nat Nat Nat Nat where
  candidateDigest := id
  candidateGroup := fun _ => 0
  isMemberOf := fun _ _ => true
  isAvailabilityGuarantorOf := fun _ _ => true
  requisiteVotes := fun _ => (0, 0)

/-- Under thresholds `(0, 0)` the first candidate of a group is includable as
soon as it is imported, and the counter does not know it. -/
theorem zeroThresholds_candidate_uncounted :
    ∃ table summary,
      (Table.empty : Table Nat Nat Nat Nat Nat).importStatement zeroThresholds
          ⟨.candidate 7, 1, 2⟩ none = some (table, summary) ∧
        table.candidateIncludable zeroThresholds 7 = true ∧
        table.includableCount.lookup 0 = none :=
  ⟨_, _, rfl, rfl, rfl⟩

end Table

end StatementTable
end Polkadot
