import Polkadot.StatementTable.Includable
import Polkadot.Foundations.SortedMap
import Polkadot.Codec.Parachain

/-!
# Proposed candidates

`Table::proposed_candidates` of `statement-table/src/generic.rs`: for each
group that `includable_count` holds, the least includable candidate, the
groups in increasing order as a `BTreeMap` yields them.  The loop runs over
`candidate_votes.values()`, a hash map, whose order is left open: the model
takes the order as an argument, any permutation of the entries.

A candidate replaces the one kept for its group only when the kept one is
greater.  Under a linear order of candidates, and when no group is satisfied
by zero votes, every order gives the same answer: the least includable
candidate of each group that has one (`proposedCandidates_least_per_group`).
Polkadot orders receipts by parachain index and head data only, so two
receipts that differ elsewhere compare equal, and the one seen first is kept
(`proposedCandidates_depends_on_order`).
-/

namespace Polkadot
namespace StatementTable

open Foundations

set_option linter.unusedSectionVars false

variable {C D V S G : Type} [DecidableEq D] [DecidableEq V] [DecidableEq S] [DecidableEq G]

namespace Table

section Loop

variable [Ord C] [LinearOrder G]

/-- One step of the loop of `proposed_candidates`: an includable candidate of
a group that `includable_count` holds is kept when its group has none yet, and
replaces the kept one when that one is greater. -/
def noteBest (context : Context C D V G) (includableCount : AList (fun _ : G => Nat))
    (best : SortedMap G C) (data : CandidateData C V S G) : SortedMap G C :=
  if data.groupId ∉ includableCount then best
  else if !context.includable data then best
  else
    match best.get? data.groupId with
    | some kept =>
        if compare kept data.candidate = .gt then best.insert data.groupId data.candidate else best
    | none => best.insert data.groupId data.candidate

/-- The map the loop builds over the candidate entries in the order `values`. -/
def bestCandidatesIn (context : Context C D V G) (table : Table C D V S G)
    (values : List (CandidateData C V S G)) : SortedMap G C :=
  values.foldl (noteBest context table.includableCount) []

/-- The candidates of the map, in increasing order of their groups. -/
def proposedCandidatesIn (context : Context C D V G) (table : Table C D V S G)
    (values : List (CandidateData C V S G)) : List C :=
  (table.bestCandidatesIn context values).map Prod.snd

/-- `proposed_candidates`, with `candidate_votes.values()` in the order of the
map's entries. -/
def proposedCandidates (context : Context C D V G) (table : Table C D V S G) : List C :=
  table.proposedCandidatesIn context (table.candidateVotes.entries.map Sigma.snd)

end Loop

/-! ## The least includable candidate of each group -/

section Least

variable [LinearOrder C] [LinearOrder G] {context : Context C D V G}

/-- Some candidate of the group among `seen` is includable. -/
def HasIncludable (context : Context C D V G) (seen : List (CandidateData C V S G))
    (groupId : G) : Prop :=
  ∃ data ∈ seen, data.groupId = groupId ∧ context.includable data = true

/-- `candidate` is the least of the includable candidates of the group among
`seen`. -/
def IsLeastIn (context : Context C D V G) (seen : List (CandidateData C V S G)) (groupId : G)
    (candidate : C) : Prop :=
  (∃ data ∈ seen, data.groupId = groupId ∧ context.includable data = true ∧
      data.candidate = candidate) ∧
    ∀ data ∈ seen, data.groupId = groupId → context.includable data = true →
      candidate ≤ data.candidate

/-- What the loop has built after the entries `seen`: increasing groups, an
entry for each group with an includable candidate, and that candidate the
least. -/
structure LeastOf (context : Context C D V G) (seen : List (CandidateData C V S G))
    (best : SortedMap G C) : Prop where
  sorted : best.Sorted
  keys_iff : ∀ groupId, (∃ candidate, (groupId, candidate) ∈ best) ↔
    HasIncludable context seen groupId
  mem_iff : ∀ groupId candidate, (groupId, candidate) ∈ best ↔
    IsLeastIn context seen groupId candidate

/-- No candidates give no least candidates. -/
theorem leastOf_nil : LeastOf context ([] : List (CandidateData C V S G)) ([] : SortedMap G C) where
  sorted := SortedMap.sorted_nil
  keys_iff _ := by simp [HasIncludable]
  mem_iff _ _ := by simp [IsLeastIn]

/-! What one more entry does to the specification. -/

/-- An entry that is not an includable candidate of the group changes nothing
about the group. -/
theorem hasIncludable_append_of_not {seen : List (CandidateData C V S G)}
    {data : CandidateData C V S G} {groupId : G}
    (unqualified : ¬(data.groupId = groupId ∧ context.includable data = true)) :
    HasIncludable context (seen ++ [data]) groupId ↔ HasIncludable context seen groupId := by
  constructor
  · rintro ⟨witness, member, inGroup, includable⟩
    rcases List.mem_append.mp member with old | new
    · exact ⟨witness, old, inGroup, includable⟩
    · obtain rfl := List.mem_singleton.mp new
      exact (unqualified ⟨inGroup, includable⟩).elim
  · rintro ⟨witness, member, facts⟩
    exact ⟨witness, List.mem_append_left _ member, facts⟩

/-- A candidate that does not qualify for the group leaves its least candidate as it was. -/
theorem isLeastIn_append_of_not {seen : List (CandidateData C V S G)}
    {data : CandidateData C V S G} {groupId : G}
    (unqualified : ¬(data.groupId = groupId ∧ context.includable data = true)) (candidate : C) :
    IsLeastIn context (seen ++ [data]) groupId candidate ↔
      IsLeastIn context seen groupId candidate := by
  constructor
  · rintro ⟨⟨witness, member, inGroup, includable, rfl⟩, lowest⟩
    refine ⟨?_, fun other old => lowest other (List.mem_append_left _ old)⟩
    rcases List.mem_append.mp member with old | new
    · exact ⟨witness, old, inGroup, includable, rfl⟩
    · obtain rfl := List.mem_singleton.mp new
      exact (unqualified ⟨inGroup, includable⟩).elim
  · rintro ⟨⟨witness, member, facts⟩, lowest⟩
    refine ⟨⟨witness, List.mem_append_left _ member, facts⟩, fun other member inGroup includable => ?_⟩
    rcases List.mem_append.mp member with old | new
    · exact lowest other old inGroup includable
    · obtain rfl := List.mem_singleton.mp new
      exact (unqualified ⟨inGroup, includable⟩).elim

section Included

variable {seen : List (CandidateData C V S G)} {data : CandidateData C V S G}
  (includable : context.includable data = true)
include includable

/-- A group has an includable candidate once one of its includable candidates is seen. -/
theorem hasIncludable_append_self : HasIncludable context (seen ++ [data]) data.groupId :=
  ⟨data, List.mem_append_right _ (List.mem_singleton_self _), rfl, includable⟩

/-- The first includable candidate of a group is the least so far. -/
theorem isLeastIn_append_of_none (none : ¬HasIncludable context seen data.groupId) (candidate : C) :
    IsLeastIn context (seen ++ [data]) data.groupId candidate ↔ candidate = data.candidate := by
  constructor
  · rintro ⟨⟨witness, member, inGroup, witnessIncludable, rfl⟩, -⟩
    rcases List.mem_append.mp member with old | new
    · exact absurd ⟨witness, old, inGroup, witnessIncludable⟩ none
    · rw [List.mem_singleton.mp new]
  · rintro rfl
    refine ⟨⟨data, List.mem_append_right _ (List.mem_singleton_self _), rfl, includable, rfl⟩, ?_⟩
    intro other member inGroup otherIncludable
    rcases List.mem_append.mp member with old | new
    · exact absurd ⟨other, old, inGroup, otherIncludable⟩ none
    · rw [List.mem_singleton.mp new]

/-- A candidate below the least so far is the new least. -/
theorem isLeastIn_append_of_lt {kept : C} (least : IsLeastIn context seen data.groupId kept)
    (below : data.candidate < kept) (candidate : C) :
    IsLeastIn context (seen ++ [data]) data.groupId candidate ↔ candidate = data.candidate := by
  constructor
  · rintro ⟨⟨witness, member, inGroup, witnessIncludable, rfl⟩, lowest⟩
    rcases List.mem_append.mp member with old | new
    · have atMost := lowest data (List.mem_append_right _ (List.mem_singleton_self _)) rfl includable
      have atLeast := least.2 witness old inGroup witnessIncludable
      exact absurd (atMost.trans_lt below) (not_lt.mpr atLeast)
    · rw [List.mem_singleton.mp new]
  · rintro rfl
    refine ⟨⟨data, List.mem_append_right _ (List.mem_singleton_self _), rfl, includable, rfl⟩, ?_⟩
    intro other member inGroup otherIncludable
    rcases List.mem_append.mp member with old | new
    · exact below.le.trans (least.2 other old inGroup otherIncludable)
    · rw [List.mem_singleton.mp new]

/-- A candidate at or above the least so far leaves the least. -/
theorem isLeastIn_append_of_le {kept : C} (least : IsLeastIn context seen data.groupId kept)
    (above : kept ≤ data.candidate) (candidate : C) :
    IsLeastIn context (seen ++ [data]) data.groupId candidate ↔
      IsLeastIn context seen data.groupId candidate := by
  obtain ⟨⟨keptData, keptMember, keptGroup, keptIncludable, keptCandidate⟩, keptLowest⟩ := least
  constructor
  · rintro ⟨⟨witness, member, inGroup, witnessIncludable, rfl⟩, lowest⟩
    have lowestSeen : ∀ other ∈ seen, other.groupId = data.groupId →
        context.includable other = true → witness.candidate ≤ other.candidate :=
      fun other old => lowest other (List.mem_append_left _ old)
    rcases List.mem_append.mp member with old | new
    · exact ⟨⟨witness, old, inGroup, witnessIncludable, rfl⟩, lowestSeen⟩
    · -- the new candidate is then the kept one
      obtain rfl := List.mem_singleton.mp new
      have equal : witness.candidate = kept :=
        le_antisymm (keptCandidate ▸ lowestSeen keptData keptMember keptGroup keptIncludable) above
      exact ⟨⟨keptData, keptMember, keptGroup, keptIncludable, keptCandidate.trans equal.symm⟩,
        lowestSeen⟩
  · rintro ⟨⟨witness, member, inGroup, witnessIncludable, rfl⟩, lowest⟩
    refine ⟨⟨witness, List.mem_append_left _ member, inGroup, witnessIncludable, rfl⟩, ?_⟩
    intro other member inGroup otherIncludable
    rcases List.mem_append.mp member with old | new
    · exact lowest other old inGroup otherIncludable
    · rw [List.mem_singleton.mp new]
      exact (lowest keptData keptMember keptGroup keptIncludable).trans (keptCandidate ▸ above)

end Included

/-! What one step of the loop does to the map. -/

/-- A candidate that is not includable leaves the least candidates as they were. -/
theorem LeastOf.skip {seen : List (CandidateData C V S G)} {best : SortedMap G C}
    (least : LeastOf context seen best) {data : CandidateData C V S G}
    (excluded : context.includable data = false) : LeastOf context (seen ++ [data]) best where
  sorted := least.sorted
  keys_iff groupId :=
    (least.keys_iff groupId).trans (hasIncludable_append_of_not fun qualified => by
      simp [excluded] at qualified).symm
  mem_iff groupId candidate :=
    (least.mem_iff groupId candidate).trans (isLeastIn_append_of_not (fun qualified => by
      simp [excluded] at qualified) _).symm

/-- Writing the new least of the data's group, and keeping the other groups. -/
theorem LeastOf.insert {seen : List (CandidateData C V S G)} {best : SortedMap G C}
    (least : LeastOf context seen best) {data : CandidateData C V S G}
    (includable : context.includable data = true)
    (newLeast : ∀ candidate,
      IsLeastIn context (seen ++ [data]) data.groupId candidate ↔ candidate = data.candidate) :
    LeastOf context (seen ++ [data]) (best.insert data.groupId data.candidate) where
  sorted := SortedMap.sorted_insert _ _ least.sorted
  keys_iff groupId := by
    by_cases same : data.groupId = groupId
    · subst same
      exact ⟨fun _ => hasIncludable_append_self includable,
        fun _ => ⟨_, SortedMap.mem_insert_self _ _ _⟩⟩
    · simp only [SortedMap.mem_insert_iff least.sorted, Prod.mk.injEq, Ne.symm same, false_and,
        false_or, ne_eq, not_false_eq_true, true_and]
      exact (least.keys_iff groupId).trans (hasIncludable_append_of_not fun qualified => same qualified.1).symm
  mem_iff groupId candidate := by
    rw [SortedMap.mem_insert_iff least.sorted]
    by_cases same : data.groupId = groupId
    · subst same
      simp only [Prod.mk.injEq, true_and, ne_eq, not_true_eq_false, false_and, or_false]
      exact (newLeast candidate).symm
    · simp only [Prod.mk.injEq, Ne.symm same, false_and, false_or, ne_eq, not_false_eq_true,
        true_and]
      exact (least.mem_iff groupId candidate).trans (isLeastIn_append_of_not (fun qualified => same qualified.1) _).symm

/-- One step of the loop keeps the specification, as long as the data's group
is held in `includable_count` whenever the data is includable. -/
theorem LeastOf.noteBest {seen : List (CandidateData C V S G)} {best : SortedMap G C}
    (least : LeastOf context seen best) {includableCount : AList (fun _ : G => Nat)}
    {data : CandidateData C V S G}
    (counted : context.includable data = true → data.groupId ∈ includableCount) :
    LeastOf context (seen ++ [data]) (noteBest context includableCount best data) := by
  cases includable : context.includable data with
  | false =>
      have skipped : Table.noteBest context includableCount best data = best := by
        simp [Table.noteBest, includable]
      rw [skipped]
      exact least.skip includable
  | true =>
      unfold Table.noteBest
      rw [if_neg (not_not.mpr (counted includable)), if_neg (by simp [includable])]
      cases found : best.get? data.groupId with
      | none =>
          -- the group has no includable candidate yet
          have none : ¬HasIncludable context seen data.groupId := fun has => by
            obtain ⟨kept, member⟩ := (least.keys_iff data.groupId).mpr has
            exact SortedMap.get?_eq_none_iff.mp found kept member
          exact least.insert includable (isLeastIn_append_of_none includable none)
      | some kept =>
          have keptLeast := (least.mem_iff data.groupId kept).mp
            ((SortedMap.get?_eq_some_iff least.sorted).mp found)
          dsimp only
          split_ifs with greater
          · exact least.insert includable
              (isLeastIn_append_of_lt includable keptLeast (compare_gt_iff_gt.mp greater))
          · have above : kept ≤ data.candidate := not_lt.mp fun below =>
              greater (compare_gt_iff_gt.mpr below)
            refine ⟨least.sorted, fun groupId => ?_, fun groupId candidate => ?_⟩
            · by_cases same : data.groupId = groupId
              · subst same
                exact ⟨fun _ => hasIncludable_append_self includable,
                  fun _ => ⟨kept, (SortedMap.get?_eq_some_iff least.sorted).mp found⟩⟩
              · exact (least.keys_iff groupId).trans (hasIncludable_append_of_not fun qualified => same qualified.1).symm
            · by_cases same : data.groupId = groupId
              · subst same
                exact (least.mem_iff _ candidate).trans
                  (isLeastIn_append_of_le includable keptLeast above candidate).symm
              · exact (least.mem_iff groupId candidate).trans (isLeastIn_append_of_not (fun qualified => same qualified.1) _).symm

/-- The whole loop keeps the specification. -/
theorem leastOf_foldl {includableCount : AList (fun _ : G => Nat)}
    {values : List (CandidateData C V S G)}
    (counted : ∀ data ∈ values, context.includable data = true → data.groupId ∈ includableCount)
    {seen : List (CandidateData C V S G)} {best : SortedMap G C} (least : LeastOf context seen best) :
    LeastOf context (seen ++ values) (values.foldl (noteBest context includableCount) best) := by
  induction values generalizing seen best with
  | nil => simpa using least
  | cons data rest ih =>
      rw [List.foldl_cons, ← List.singleton_append, ← List.append_assoc]
      exact ih (fun other member => counted other (List.mem_cons_of_mem _ member))
        (least.noteBest (counted data List.mem_cons_self))

/-- The specification fixes the map: it depends on the entries seen, not on
their order. -/
theorem LeastOf.unique {seen seen' : List (CandidateData C V S G)} {best best' : SortedMap G C}
    (least : LeastOf context seen best) (least' : LeastOf context seen' best')
    (same : ∀ data, data ∈ seen ↔ data ∈ seen') : best = best' := by
  refine least.sorted.eq_of_mem_iff least'.sorted fun ⟨groupId, candidate⟩ => ?_
  rw [least.mem_iff, least'.mem_iff]
  simp only [IsLeastIn, same]

/-! ## On reachable tables -/

/-- A candidate's data is among the table's values exactly when some digest holds it. -/
theorem mem_values_iff (table : Table C D V S G) (data : CandidateData C V S G) :
    data ∈ table.candidateVotes.entries.map Sigma.snd ↔
      ∃ digest, table.candidateVotes.lookup digest = some data := by
  simp only [List.mem_map]
  constructor
  · rintro ⟨⟨digest, _⟩, member, rfl⟩
    exact ⟨digest, AList.mem_lookup_iff.mpr member⟩
  · rintro ⟨digest, found⟩
    exact ⟨⟨digest, data⟩, AList.mem_lookup_iff.mp found, rfl⟩

/-- On every table reachable from `Table::default()`, when no group is
satisfied by zero votes: whatever order the loop takes the candidate entries
in, the groups come out strictly increasing, each with the least of its
includable candidates, and exactly the groups that have one; the candidates
returned are those of the loop in the order of the map's entries. -/
theorem proposedCandidates_least_per_group
    (nondegenerate : ∀ groupId, context.requisiteVotes groupId ≠ (0, 0))
    {table : Table C D V S G} (reachable : Reachable context table)
    (values : List (CandidateData C V S G))
    (reordered : values.Perm (table.candidateVotes.entries.map Sigma.snd)) :
    ((table.bestCandidatesIn context values).map Prod.fst).Pairwise (· < ·) ∧
      (∀ groupId candidate, (groupId, candidate) ∈ table.bestCandidatesIn context values ↔
        (∃ digest data, table.candidateVotes.lookup digest = some data ∧ data.groupId = groupId ∧
            context.includable data = true ∧ data.candidate = candidate) ∧
          ∀ digest data, table.candidateVotes.lookup digest = some data → data.groupId = groupId →
            context.includable data = true → candidate ≤ data.candidate) ∧
      table.proposedCandidatesIn context values = table.proposedCandidates context := by
  have inTable : ∀ data, data ∈ values ↔ ∃ digest, table.candidateVotes.lookup digest = some data :=
    fun data => reordered.mem_iff.trans (mem_values_iff table data)
  -- an includable candidate of the table is counted
  have counted : ∀ data, (∃ digest, table.candidateVotes.lookup digest = some data) →
      context.includable data = true → data.groupId ∈ table.includableCount :=
    fun data ⟨digest, found⟩ includable =>
      (mem_includableCount_iff nondegenerate reachable data.groupId).mpr
        ⟨digest, data, found, rfl, includable⟩
  have least : LeastOf context values (table.bestCandidatesIn context values) := by
    simpa [bestCandidatesIn] using leastOf_foldl (fun data member => counted data ((inTable data).mp member))
      (leastOf_nil : LeastOf context ([] : List (CandidateData C V S G)) [])
  have leastInOrder : LeastOf context (table.candidateVotes.entries.map Sigma.snd)
      (table.bestCandidatesIn context (table.candidateVotes.entries.map Sigma.snd)) := by
    simpa [bestCandidatesIn] using
      leastOf_foldl (fun data member => counted data ((mem_values_iff table data).mp member))
      (leastOf_nil : LeastOf context ([] : List (CandidateData C V S G)) [])
  refine ⟨List.pairwise_map.mpr least.sorted, fun groupId candidate => ?_, ?_⟩
  · rw [least.mem_iff, IsLeastIn]
    simp only [inTable]
    constructor
    · rintro ⟨⟨data, ⟨digest, found⟩, facts⟩, lowest⟩
      exact ⟨⟨digest, data, found, facts⟩,
        fun digest data found => lowest data ⟨digest, found⟩⟩
    · rintro ⟨⟨digest, data, found, facts⟩, lowest⟩
      exact ⟨⟨data, ⟨digest, found⟩, facts⟩,
        fun data ⟨digest, found⟩ => lowest digest data found⟩
  · unfold proposedCandidates proposedCandidatesIn
    rw [least.unique leastInOrder fun data => reordered.mem_iff]

/-- A context that needs one validity vote and no availability vote, for
candidates and groups numbered by naturals. -/
def oneValidityVote : Context Nat Nat Nat Nat where
  candidateDigest := id
  candidateGroup := fun _ => 0
  isMemberOf := fun _ _ => true
  isAvailabilityGuarantorOf := fun _ _ => true
  requisiteVotes := fun _ => (1, 0)

/-- Over a reachable table with two candidates the least candidate per group does not depend on the
order of the scan. -/
theorem proposedCandidates_least_per_group_twoCandidates :
    ∃ table : Table Nat Nat Nat Nat Nat, Reachable oneValidityVote table ∧
      table.proposedCandidatesIn oneValidityVote (table.candidateVotes.entries.map Sigma.snd).reverse =
        table.proposedCandidates oneValidityVote :=
  ⟨_, .tail (.tail .refl (.importStatement ⟨.candidate 7, 1, 1⟩ none _ rfl))
      (.importStatement ⟨.candidate 5, 2, 2⟩ none _ rfl),
    (proposedCandidates_least_per_group (fun _ => (by decide : ((1, 0) : Nat × Nat) ≠ (0, 0)))
      (.tail (.tail .refl (.importStatement ⟨.candidate 7, 1, 1⟩ none _ rfl))
        (.importStatement ⟨.candidate 5, 2, 2⟩ none _ rfl))
      _ (List.reverse_perm _)).2.2⟩

end Least

/-! ## Receipts that compare equal -/

/-- Receipts of parachain 0 with empty head data, no uploads and no egress
roots, which differ in their fees only. -/
def tiedReceipt (fees : BitVec 64) : Parachain.CandidateReceipt :=
  ⟨⟨0⟩, ⟨Vector.replicate 32 0⟩, ⟨[]⟩, [], [], fees⟩

/-- Receipts grouped by their parachain, needing one validity vote.  The
digest stands for the receipt's hash and tells these receipts apart. -/
def receiptContext : Context Parachain.CandidateReceipt Nat Nat Nat where
  candidateDigest := fun receipt => receipt.fees.toNat
  candidateGroup := fun receipt => receipt.parachainIndex.value.toNat
  isMemberOf := fun _ _ => true
  isAvailabilityGuarantorOf := fun _ _ => true
  requisiteVotes := fun _ => (1, 0)

/-- Two authorities propose receipts of parachain 0 that differ in their fees
only.  Both are includable and compare equal, so the loop keeps the one it
meets first: the two orders of the entries give different candidates. -/
theorem proposedCandidates_depends_on_order :
    ∃ table : Table Parachain.CandidateReceipt Nat Nat Nat Nat, Reachable receiptContext table ∧
      table.proposedCandidatesIn receiptContext (table.candidateVotes.entries.map Sigma.snd) =
        [tiedReceipt 2] ∧
      table.proposedCandidatesIn receiptContext (table.candidateVotes.entries.map Sigma.snd).reverse =
        [tiedReceipt 1] :=
  ⟨_, .tail (.tail .refl (.importStatement ⟨.candidate (tiedReceipt 1), 1, 1⟩ none _ rfl))
      (.importStatement ⟨.candidate (tiedReceipt 2), 2, 2⟩ none _ rfl), rfl, rfl⟩

end Table

end StatementTable
end Polkadot
