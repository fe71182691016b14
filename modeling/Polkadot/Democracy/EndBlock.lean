import Polkadot.Democracy.Referenda
import Mathlib.Data.List.TakeWhile

/-!
# The tally of `end_block`

What `end_block` does to the referenda it tallies.  The scan of
`maturing_referendums_at` starts at `NextTally` and stops at the first stored
referendum that does not end at the block, so it never takes up a referendum
early (`mem_maturingReferendumsAt`); but a stored referendum at the head of the
scan whose end has passed stops it for good (`maturingReferendumsAt_eq_nil`).
That happens when a dispatch fails: `end_block` returns before `NextTally`
moves past the cleared referendum.  `clear_referendum` removes the voters of a
referendum before it reads them, so no vote is ever removed
(`clearReferendum_eq`).
-/

namespace Polkadot
namespace Democracy

namespace Storage

variable {AccountId Proposal : Type} {balanceBits : Nat}
variable (s : Storage AccountId Proposal balanceBits)

/-- Every referendum the scan takes up is stored, ends at the block, and is not
before `NextTally`. -/
theorem mem_maturingReferendumsAt {n : Nat} {referendum : Nat × Nat × Proposal × VoteThreshold}
    (mem : referendum ∈ s.maturingReferendumsAt n) :
    referendum.2.1 = n ∧ s.nextTally ≤ referendum.1 ∧
      s.referendumInfoOf.lookup referendum.1 = some referendum.2 := by
  have ends := List.mem_takeWhile_imp mem
  obtain ⟨i, inRange, stored⟩ := List.mem_filterMap.mp ((List.takeWhile_sublist _).subset mem)
  obtain ⟨info, lookedUp, rfl⟩ := Option.map_eq_some_iff.mp stored
  exact ⟨of_decide_eq_true ends, (List.mem_range'_1.mp inRange).1, lookedUp⟩

/-- A stored referendum at `NextTally` that does not end at the block stops the
scan before anything is taken up. -/
theorem maturingReferendumsAt_eq_nil {n : Nat} {info : Nat × Proposal × VoteThreshold}
    (stored : s.referendumInfoOf.lookup s.nextTally = some info) (other : info.1 ≠ n) :
    s.maturingReferendumsAt n = [] := by
  unfold maturingReferendumsAt
  cases pending : s.referendumCount - s.nextTally with
  | zero => rfl
  | succ rest =>
      -- the scan starts with the referendum at `NextTally`
      simp [List.range'_succ, stored, other]

variable [DecidableEq AccountId]

/-- `clear_referendum` erases the information and the voters of the referendum
and nothing else: the votes stay. -/
theorem clearReferendum_eq (refIndex : Nat) :
    s.clearReferendum refIndex =
      { s with
        referendumInfoOf := s.referendumInfoOf.erase refIndex
        votersFor := s.votersFor.erase refIndex } := by
  -- the voters are read back from the storage they were just erased from
  have noVoters : (s.votersFor.erase refIndex).lookup refIndex = none := AList.lookup_erase _ _
  simp [clearReferendum, votersForOf, noVoters]

end Storage

end Democracy
end Polkadot
