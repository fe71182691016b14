import Polkadot.Council.Tally

/-!
# Reaping inactive voters

`reap_inactive_voter` of `runtime/council/src/lib.rs`.  When all its checks
pass (`ReapPasses`), the call removes the target and transfers the target's
voting bond to the reporter if the target's approvals are moot, and otherwise
removes the reporter and slashes the reporter's bond.  When a check fails it
returns its error and changes nothing.  The transfer comes after the removal,
so a failed transfer returns its error from a chain without the target.

The grace check `last_active < assumed_vote_index - inactivity_grace_period`
subtracts in `u32`.  Where the vote index is below the grace period the
difference wraps to nearly `2 ^ 32`, and every voter passes the check
(`lt_sub_iff_wrapped`).
-/

namespace Polkadot
namespace Council

/-- A comparison with a `u32` difference, read in the naturals: the difference
wraps where the subtrahend is the larger. -/
theorem lt_sub_iff_wrapped (lastActive voteIndex grace : BitVec 32) :
    lastActive < voteIndex - grace ↔
      lastActive.toNat < (voteIndex.toNat + (2 ^ 32 - grace.toNat)) % 2 ^ 32 := by
  rw [BitVec.lt_def, BitVec.toNat_sub, Nat.add_comm (2 ^ 32 - grace.toNat)]

namespace Chain

variable {σ AccountId Address : Type} [DecidableEq AccountId] [Inhabited AccountId]
variable {balanceBits : Nat}
variable (runtime : Runtime σ AccountId Address balanceBits)

/-- The checks of `reap_inactive_voter`, passed, for the target `target`
whose last activity is `lastActive`. -/
structure ReapPasses (c : Chain σ AccountId balanceBits) (aux : AccountId) (signedIndex : BitVec 32)
    (who : Address) (whoIndex assumedVoteIndex : BitVec 32) (target : AccountId)
    (lastActive : BitVec 32) : Prop where
  lookedUp : runtime.lookup c.others who = .ok target
  notPresenting : c.council.presentationActive = false
  reporterVotes : (c.council.lastActiveOf.lookup aux).isSome
  targetActive : c.council.lastActiveOf.lookup target = some lastActive
  current : assumedVoteIndex = c.council.voteCount
  inactive : lastActive < assumedVoteIndex - c.council.inactiveGracePeriod
  reporterAt : c.council.voters[signedIndex.toNat]? = some aux
  targetAt : c.council.voters[whoIndex.toNat]? = some target

/-- The chain with the target removed from the voters. -/
abbrev targetRemoved (c : Chain σ AccountId balanceBits) (target : AccountId) (whoIndex : BitVec 32) :
    Chain σ AccountId balanceBits :=
  c.withCouncil fun s => s.removeVoter target whoIndex.toNat c.council.voters

/-- The chain with the reporter removed from the voters and its bond slashed. -/
abbrev reporterSlashed (c : Chain σ AccountId balanceBits) (aux : AccountId) (signedIndex : BitVec 32) :
    Chain σ AccountId balanceBits :=
  { c.withCouncil (fun s => s.removeVoter aux signedIndex.toNat c.council.voters) with
    others := runtime.slashReserved c.others aux c.council.votingBond }

variable {runtime} {c : Chain σ AccountId balanceBits} {aux target : AccountId}
  {signedIndex whoIndex assumedVoteIndex lastActive : BitVec 32} {who : Address}

namespace ReapPasses

variable (passes : ReapPasses runtime c aux signedIndex who whoIndex assumedVoteIndex target lastActive)
include passes

omit [Inhabited AccountId] in
/-- The reporter's index lies inside the voters. -/
theorem reporterInside : signedIndex.toNat < c.council.voters.length :=
  (List.getElem?_eq_some_iff.mp passes.reporterAt).1

omit [Inhabited AccountId] in
/-- The target's index lies inside the voters. -/
theorem targetInside : whoIndex.toNat < c.council.voters.length :=
  (List.getElem?_eq_some_iff.mp passes.targetAt).1

/-- Where every check passes: a target with moot approvals is removed and the
transfer of its bond to the reporter decides the result; otherwise the reporter
is removed and its bond slashed. -/
theorem reapInactiveVoter_eq :
    (c.council.approvalsMoot target lastActive = true → ∀ others,
      runtime.transferReserved c.others target aux c.council.votingBond = .ok others →
      c.reapInactiveVoter runtime aux signedIndex who whoIndex assumedVoteIndex =
        (.ok (), { c.targetRemoved target whoIndex with others })) ∧
    (c.council.approvalsMoot target lastActive = true → ∀ message,
      runtime.transferReserved c.others target aux c.council.votingBond = .error message →
      c.reapInactiveVoter runtime aux signedIndex who whoIndex assumedVoteIndex =
        (.error message, c.targetRemoved target whoIndex)) ∧
    (c.council.approvalsMoot target lastActive = false →
      c.reapInactiveVoter runtime aux signedIndex who whoIndex assumedVoteIndex =
        (.ok (), c.reporterSlashed runtime aux signedIndex)) := by
  have reporterNotNone : ¬(c.council.lastActiveOf.lookup aux).isNone = true := by
    simpa [Option.isNone_iff_eq_none] using Option.isSome_iff_ne_none.mp passes.reporterVotes
  -- pass the checks in the order the source makes them, in all three cases at once
  unfold reapInactiveVoter
  rw [passes.lookedUp]
  dsimp only
  rw [if_neg (by simp [passes.notPresenting]), if_neg reporterNotNone, passes.targetActive]
  dsimp only
  rw [if_neg (not_not.mpr passes.current), if_neg (not_not.mpr passes.inactive),
    if_neg (not_not.mpr ⟨passes.reporterInside, passes.reporterAt⟩),
    if_neg (not_not.mpr ⟨passes.targetInside, passes.targetAt⟩)]
  -- removing a voter keeps the other modules and the bond the transfer is asked for
  have kept : (c.withCouncil fun s => s.removeVoter target whoIndex.toNat c.council.voters).others =
      c.others := rfl
  have bond : (c.withCouncil fun s => s.removeVoter target whoIndex.toNat c.council.voters).council.votingBond =
      c.council.votingBond := rfl
  refine ⟨fun moot others transferred => ?_, fun moot message failed => ?_, fun notMoot => ?_⟩
  · simp only [moot, if_true]
    rw [bond, kept, transferred]
  · simp only [moot, if_true]
    rw [bond, kept, failed]
  · simp only [notMoot, Bool.false_eq_true, if_false]
    rfl

end ReapPasses

/-- Where a check fails, the call returns its error and changes nothing. -/
theorem reapInactiveVoter_of_not_passes
    (fails : ∀ target lastActive,
      ¬ ReapPasses runtime c aux signedIndex who whoIndex assumedVoteIndex target lastActive) :
    ∃ message, c.reapInactiveVoter runtime aux signedIndex who whoIndex assumedVoteIndex =
      (.error message, c) := by
  unfold reapInactiveVoter
  split
  · exact ⟨_, rfl⟩
  rename_i target lookedUp
  split
  · exact ⟨_, rfl⟩
  rename_i notPresenting
  split
  · exact ⟨_, rfl⟩
  rename_i reporterVotes
  split
  · exact ⟨_, rfl⟩
  rename_i lastActive targetActive
  split
  · exact ⟨_, rfl⟩
  rename_i current
  split
  · exact ⟨_, rfl⟩
  rename_i inactive
  dsimp only
  split
  · exact ⟨_, rfl⟩
  rename_i reporterAt
  split
  · exact ⟨_, rfl⟩
  rename_i targetAt
  -- every check passed, against the hypothesis
  exact absurd
    { lookedUp
      notPresenting := by simpa using notPresenting
      reporterVotes := by simpa [Option.isNone_iff_eq_none, Option.isSome_iff_ne_none] using reporterVotes
      targetActive
      current := not_not.mp current
      inactive := not_not.mp inactive
      reporterAt := (not_not.mp reporterAt).2
      targetAt := (not_not.mp targetAt).2 } (fails target lastActive)

/-- The grace period of `reap_inactive_voter` is counted in votes that wrap: where the checks pass,
the report removes the target or the reporter by whether the target's approvals are moot. -/
theorem reapInactiveVoter_grace_wraps :
    (∀ (runtime : Runtime σ AccountId Address balanceBits) (c : Chain σ AccountId balanceBits)
        aux signedIndex who whoIndex assumedVoteIndex target lastActive,
      ReapPasses runtime c aux signedIndex who whoIndex assumedVoteIndex target lastActive →
      (c.council.approvalsMoot target lastActive = true → ∀ others,
        runtime.transferReserved c.others target aux c.council.votingBond = .ok others →
        c.reapInactiveVoter runtime aux signedIndex who whoIndex assumedVoteIndex =
          (.ok (), { c.targetRemoved target whoIndex with others })) ∧
      (c.council.approvalsMoot target lastActive = true → ∀ message,
        runtime.transferReserved c.others target aux c.council.votingBond = .error message →
        c.reapInactiveVoter runtime aux signedIndex who whoIndex assumedVoteIndex =
          (.error message, c.targetRemoved target whoIndex)) ∧
      (c.council.approvalsMoot target lastActive = false →
        c.reapInactiveVoter runtime aux signedIndex who whoIndex assumedVoteIndex =
          (.ok (), c.reporterSlashed runtime aux signedIndex))) ∧
    (∀ (runtime : Runtime σ AccountId Address balanceBits) (c : Chain σ AccountId balanceBits)
        aux signedIndex who whoIndex assumedVoteIndex,
      (∀ target lastActive,
        ¬ ReapPasses runtime c aux signedIndex who whoIndex assumedVoteIndex target lastActive) →
      ∃ message, c.reapInactiveVoter runtime aux signedIndex who whoIndex assumedVoteIndex =
        (.error message, c)) ∧
    ∀ lastActive voteIndex grace : BitVec 32, lastActive < voteIndex - grace ↔
      lastActive.toNat < (voteIndex.toNat + (2 ^ 32 - grace.toNat)) % 2 ^ 32 :=
  ⟨fun _ _ _ _ _ _ _ _ _ passes => passes.reapInactiveVoter_eq,
    fun _ _ _ _ _ _ _ fails => reapInactiveVoter_of_not_passes fails,
    lt_sub_iff_wrapped⟩

end Chain

/-- From the tests' genesis, with its grace period of one vote, voters 2 and 1
register in the first vote with no approvals.  Voter 1 at once reaps voter 2
and takes its bond: `0 - 1` wraps to `u32::MAX`, above every last activity,
though no vote has passed since voter 2's. -/
theorem reapInactiveVoter_reaps_in_first_vote :
    ∃ c, Chain.run testRuntime [.setApprovals 2 [] 0, .setApprovals 1 [] 0]
        ⟨(newTestExt false).buildStorage, (), 1⟩ = some ([.ok (), .ok ()], c) ∧
      c.reapInactiveVoter testRuntime 1 1 2 0 0 = (.ok (), { c.targetRemoved 2 0 with others := () }) ∧
      ¬ 0 + c.council.inactiveGracePeriod.toNat < c.council.voteCount.toNat := by
  obtain ⟨removes, -, wraps⟩ := @Chain.reapInactiveVoter_grace_wraps Unit Nat Nat _ _ 64
  -- the chain the run reaches is the one the reap is made on
  refine ⟨_, rfl, (removes _ _ _ _ _ _ _ 2 0 ?_).1 (by decide) () rfl, by decide⟩
  exact
    { lookedUp := rfl
      notPresenting := rfl
      reporterVotes := by decide
      targetActive := by decide
      current := rfl
      inactive := (wraps 0 0 _).mpr (by decide)
      reporterAt := by decide
      targetAt := by decide }

end Council
end Polkadot
