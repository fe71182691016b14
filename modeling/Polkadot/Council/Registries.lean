import Polkadot.Council.Tally

/-!
# The voter registry

`Voters` lists each account that has a `LastActiveOf` entry once and no other,
and only those accounts have approvals stored (`VotersTracked`).  Only
`set_approvals`, which registers a voter, and `remove_voter`, through
`reap_inactive_voter` and `retract_voter`, change these three items; every
other call and `end_block` keep them (`VotersKept`).  So the registry holds in
every state that a run of calls reaches from genesis
(`votersTracked_of_run`).

The candidate list does not stay as tidy: `finalise_tally` cuts it after its
last candidate only if one is left, so a tally that elects every candidate
leaves a list of empty slots (`finaliseTally_keeps_empty_slots`).
-/

namespace Polkadot
namespace Council

open Democracy (swapRemove swapRemove_perm_erase)

namespace Storage

variable {AccountId : Type} {balanceBits : Nat}

/-- The voter registry: `Voters` lists each account with a `LastActiveOf` entry
exactly once and no other account, and only such accounts have approvals. -/
structure VotersTracked (s : Storage AccountId balanceBits) : Prop where
  nodup : s.voters.Nodup
  mem_voters : ∀ a, a ∈ s.voters ↔ a ∈ s.lastActiveOf
  approvals_active : ∀ a, a ∈ s.approvalsOf → a ∈ s.lastActiveOf

/-- The three items of the voter registry are the same in both storages. -/
structure VotersKept (s s' : Storage AccountId balanceBits) : Prop where
  voters : s'.voters = s.voters
  lastActiveOf : s'.lastActiveOf = s.lastActiveOf
  approvalsOf : s'.approvalsOf = s.approvalsOf

/-- Storage keeps its own voters. -/
theorem VotersKept.refl (s : Storage AccountId balanceBits) : VotersKept s s := ⟨rfl, rfl, rfl⟩

/-- Keeping the voters is transitive. -/
theorem VotersKept.trans {s₁ s₂ s₃ : Storage AccountId balanceBits} (first : VotersKept s₁ s₂)
    (second : VotersKept s₂ s₃) : VotersKept s₁ s₃ :=
  ⟨second.voters.trans first.voters, second.lastActiveOf.trans first.lastActiveOf,
    second.approvalsOf.trans first.approvalsOf⟩

/-- Voters stay tracked by storage that keeps them. -/
theorem VotersTracked.kept {s s' : Storage AccountId balanceBits} (tracked : s.VotersTracked)
    (kept : VotersKept s s') : s'.VotersTracked := by
  obtain ⟨voters, lastActiveOf, approvalsOf⟩ := kept
  exact ⟨voters ▸ tracked.nodup, voters ▸ lastActiveOf ▸ tracked.mem_voters,
    approvalsOf ▸ lastActiveOf ▸ tracked.approvals_active⟩

/-- The genesis storage tracks its voters. -/
theorem votersTracked_buildStorage (config : GenesisConfig AccountId balanceBits) :
    config.buildStorage.VotersTracked where
  nodup := List.nodup_nil
  mem_voters a := by simp [GenesisConfig.buildStorage]
  approvals_active a := by simp [GenesisConfig.buildStorage]

variable [DecidableEq AccountId] {s : Storage AccountId balanceBits}

/-- `remove_voter` of the voter at its index keeps the registry. -/
theorem VotersTracked.removeVoter {voter : AccountId} {index : Nat} (tracked : s.VotersTracked)
    (found : s.voters[index]? = some voter) :
    (s.removeVoter voter index s.voters).VotersTracked := by
  have removed := swapRemove_perm_erase tracked.nodup found
  refine ⟨removed.nodup_iff.mpr (tracked.nodup.erase voter), fun a => ?_, fun a member => ?_⟩
  · rw [Storage.removeVoter, removed.mem_iff, tracked.nodup.mem_erase_iff, AList.mem_erase,
      tracked.mem_voters]
  · rw [Storage.removeVoter, AList.mem_erase] at member ⊢
    exact ⟨member.1, tracked.approvals_active a member.2⟩

/-- Recording the approvals of `aux`, which joins the voters if it had no
activity, keeps the registry. -/
theorem VotersTracked.recordApprovals (tracked : s.VotersTracked) (aux : AccountId)
    (votes : List Bool) (index : BitVec 32) :
    ({ s with
      voters := if (s.lastActiveOf.lookup aux).isNone then s.voters ++ [aux] else s.voters
      approvalsOf := s.approvalsOf.insert aux votes
      lastActiveOf := s.lastActiveOf.insert aux index } : Storage AccountId balanceBits).VotersTracked := by
  by_cases voter : aux ∈ s.lastActiveOf
  · -- an existing voter keeps its place
    have known : (s.lastActiveOf.lookup aux).isNone = false := by
      simpa [Option.isNone_iff_eq_none, ← AList.lookup_isSome] using voter
    refine ⟨by simpa [known] using tracked.nodup, fun a => ?_, fun a member => ?_⟩
    · simp only [known, Bool.false_eq_true, if_false, AList.mem_insert, tracked.mem_voters]
      exact ⟨.inr, fun joined => joined.elim (fun same => same ▸ voter) id⟩
    · rw [AList.mem_insert] at member ⊢
      exact member.imp_right (tracked.approvals_active a)
  · -- a new voter is appended
    have fresh : (s.lastActiveOf.lookup aux).isNone = true := by
      simpa [Option.isNone_iff_eq_none, ← AList.lookup_isSome] using voter
    have absent : aux ∉ s.voters := fun member => voter ((tracked.mem_voters aux).mp member)
    refine ⟨?_, fun a => ?_, fun a member => ?_⟩
    · simpa [fresh, List.concat_eq_append] using tracked.nodup.concat absent
    · simp only [fresh, if_true, List.mem_append, List.mem_singleton, AList.mem_insert,
        tracked.mem_voters]
      exact Or.comm
    · rw [AList.mem_insert] at member ⊢
      exact member.imp_right (tracked.approvals_active a)

/-- `s'` is `s`, or `s` with one voter removed at its index. -/
def VoterRemoval (s s' : Storage AccountId balanceBits) : Prop :=
  s' = s ∨ ∃ voter index, s.voters[index]? = some voter ∧ s' = s.removeVoter voter index s.voters

/-- Removing a voter keeps the voters tracked. -/
theorem VotersTracked.voterRemoval {s' : Storage AccountId balanceBits} (tracked : s.VotersTracked)
    (removal : VoterRemoval s s') : s'.VotersTracked := by
  rcases removal with rfl | ⟨voter, index, found, rfl⟩
  · exact tracked
  · exact tracked.removeVoter found

end Storage

namespace Chain

variable {σ AccountId Address : Type} [DecidableEq AccountId] [Inhabited AccountId]
variable {balanceBits : Nat}
variable (runtime : Runtime σ AccountId Address balanceBits)
variable (c : Chain σ AccountId balanceBits)

open Storage (VotersKept VotersTracked)

/-- A run keeps every property of the chain that each call keeps. -/
theorem run_invariant (holds : Chain σ AccountId balanceBits → Prop)
    (step : ∀ c c' call result, holds c → c.apply runtime call = some (result, c') → holds c') :
    ∀ {calls : List (Call AccountId Address balanceBits)} {c c' : Chain σ AccountId balanceBits}
      {results : List (Except String Unit)},
      holds c → run runtime calls c = some (results, c') → holds c'
  | [], c, c', results, initially, ran => by
      simp only [run, Option.some.injEq, Prod.mk.injEq] at ran
      exact ran.2 ▸ initially
  | call :: calls, c, c', results, initially, ran => by
      simp only [run, Option.bind_eq_bind, Option.bind_eq_some_iff] at ran
      obtain ⟨⟨result, next⟩, applied, ⟨rest, last⟩, ranRest, done⟩ := ran
      obtain ⟨-, rfl⟩ := Prod.mk.inj (Option.some.inj done)
      exact run_invariant holds step (step c next call result initially applied) ranRest

omit [Inhabited AccountId] in
/-- `set_approvals` changes nothing of the council, or records the approvals of
`aux` and appends it to the voters if it had no activity. -/
theorem setApprovals_council (aux : AccountId) (votes : List Bool) (index : BitVec 32) :
    (c.setApprovals runtime aux votes index).2.council = c.council ∨
      (c.setApprovals runtime aux votes index).2.council =
        { c.council with
          voters := if (c.council.lastActiveOf.lookup aux).isNone then c.council.voters ++ [aux]
            else c.council.voters
          approvalsOf := c.council.approvalsOf.insert aux votes
          lastActiveOf := c.council.lastActiveOf.insert aux index } := by
  unfold setApprovals
  by_cases active : c.council.presentationActive = true
  · exact .inl (by rw [if_pos active])
  rw [if_neg active]
  by_cases wrongIndex : index ≠ c.council.voteCount
  · exact .inl (by rw [if_pos wrongIndex])
  rw [if_neg wrongIndex]
  by_cases fresh : (c.council.lastActiveOf.lookup aux).isNone = true
  · -- a new voter reserves its bond first
    simp only [fresh, if_true]
    cases runtime.reserve c.others aux c.council.votingBond with
    | error message => exact .inl rfl
    | ok others => exact .inr rfl
  · simp only [fresh, Bool.false_eq_true, if_false]
    exact .inr rfl

omit [Inhabited AccountId] in
/-- `retract_voter` changes nothing of the council, or removes a voter at its
index. -/
theorem retractVoter_removal (aux : AccountId) (index : BitVec 32) :
    c.council.VoterRemoval (c.retractVoter runtime aux index).2.council := by
  unfold retractVoter
  dsimp only
  split
  · exact .inl rfl
  split
  · exact .inl rfl
  split
  · exact .inl rfl
  split
  · exact .inl rfl
  rename_i indexMatches
  exact .inr ⟨aux, index.toNat, not_not.mp indexMatches, rfl⟩

/-- `reap_inactive_voter` changes nothing of the council, or removes the
reporter or the target at its index, whether or not the bond's transfer
fails. -/
theorem reapInactiveVoter_removal (aux : AccountId) (signedIndex : BitVec 32) (who : Address)
    (whoIndex assumedVoteIndex : BitVec 32) :
    c.council.VoterRemoval
      (c.reapInactiveVoter runtime aux signedIndex who whoIndex assumedVoteIndex).2.council := by
  unfold reapInactiveVoter
  split
  · exact .inl rfl
  rename_i target _
  split
  · exact .inl rfl
  split
  · exact .inl rfl
  split
  · exact .inl rfl
  rename_i lastActive _
  split
  · exact .inl rfl
  split
  · exact .inl rfl
  -- the index checks stand behind the bindings of the voters and the indices
  dsimp only
  split
  · exact .inl rfl
  rename_i reporterFound
  split
  · exact .inl rfl
  rename_i targetFound
  by_cases valid : c.council.approvalsMoot target lastActive = true
  · -- the target is removed, and its bond goes to the reporter
    simp only [valid, if_true]
    refine .inr ⟨target, whoIndex.toNat, (not_not.mp targetFound).2, ?_⟩
    split <;> rfl
  · -- the reporter is removed, and its bond is slashed
    simp only [valid, Bool.false_eq_true, if_false]
    exact .inr ⟨aux, signedIndex.toNat, (not_not.mp reporterFound).2, rfl⟩

/-- `submit_candidacy` keeps the voters. -/
theorem submitCandidacy_kept (aux : AccountId) (slot : BitVec 32) :
    VotersKept c.council (c.submitCandidacy runtime aux slot).2.council := by
  unfold submitCandidacy
  dsimp only
  split
  · exact VotersKept.refl _
  split
  · exact VotersKept.refl _
  split
  · exact VotersKept.refl _
  · exact ⟨rfl, rfl, rfl⟩

omit [Inhabited AccountId] in
/-- `present_winner` keeps the voters. -/
theorem presentWinner_kept {aux : AccountId} {candidate : Address} {total : BitVec balanceBits}
    {index : BitVec 32} {result : Except String Unit} {c' : Chain σ AccountId balanceBits}
    (presented : c.presentWinner runtime aux candidate total index = some (result, c')) :
    VotersKept c.council c'.council := by
  unfold presentWinner at presented
  dsimp only at presented
  -- every outcome is the chain itself, or it with another leaderboard or slashed stake
  repeat' split at presented
  all_goals first
    | (obtain ⟨-, rfl⟩ := Prod.mk.inj (Option.some.inj presented); exact ⟨rfl, rfl, rfl⟩)
    | cases presented

omit [DecidableEq AccountId] in
/-- `start_tally` keeps the voters. -/
theorem startTally_kept : VotersKept c.council (c.startTally runtime).council := by
  unfold startTally
  dsimp only
  split
  · exact ⟨rfl, rfl, rfl⟩
  · exact VotersKept.refl _

/-- `finalise_tally` keeps the voters. -/
theorem finaliseTally_kept {result : Except String Unit} {c' : Chain σ AccountId balanceBits}
    (finalised : c.finaliseTally runtime = some (result, c')) : VotersKept c.council c'.council := by
  unfold finaliseTally at finalised
  dsimp only at finalised
  repeat' split at finalised
  all_goals first
    | (obtain ⟨-, rfl⟩ := Prod.mk.inj (Option.some.inj finalised); exact ⟨rfl, rfl, rfl⟩)
    | cases finalised

/-- The end of `end_block`, which finalises the tally in progress if it ends
at the block, keeps the voter registry. -/
theorem finishTally_kept {blockNumber : Nat} {started c' : Chain σ AccountId balanceBits}
    {result : Except String Unit}
    (finished : (match started.council.nextFinalise with
      | some (number, _, _) =>
          if blockNumber = number then started.finaliseTally runtime else some (.ok (), started)
      | none => some (.ok (), started)) = some (result, c')) :
    VotersKept started.council c'.council := by
  split at finished
  · split at finished
    · exact finaliseTally_kept runtime _ finished
    · cases finished
      exact VotersKept.refl _
  · cases finished
    exact VotersKept.refl _

/-- `end_block` keeps the voters. -/
theorem endBlock_kept {blockNumber : Nat} {result : Except String Unit}
    {c' : Chain σ AccountId balanceBits} (ended : c.endBlock runtime blockNumber = some (result, c')) :
    VotersKept c.council c'.council := by
  unfold endBlock at ended
  dsimp only at ended
  split at ended
  · cases ended
  -- the tally may start on a block of the voting period, and then end
  split at ended
  · cases ended
  · rename_i started startedEq
    have starts : VotersKept c.council started.council := by
      split at startedEq
      · split at startedEq
        · cases startedEq
        · cases startedEq
          split
          · exact startTally_kept runtime c
          · exact VotersKept.refl _
        · cases startedEq
          exact VotersKept.refl _
      · cases startedEq
        exact VotersKept.refl _
    exact starts.trans (finishTally_kept runtime ended)

/-- Every call keeps the voter registry. -/
theorem apply_votersTracked {call : Call AccountId Address balanceBits} {result : Except String Unit}
    {c' : Chain σ AccountId balanceBits} (tracked : c.council.VotersTracked)
    (applied : c.apply runtime call = some (result, c')) : c'.council.VotersTracked := by
  cases call with
  | setApprovals aux votes index =>
      obtain rfl := congrArg Prod.snd (Option.some.inj applied)
      rcases setApprovals_council runtime c aux votes index with same | recorded
      · exact same ▸ tracked
      · exact recorded ▸ tracked.recordApprovals aux votes index
  | reapInactiveVoter aux signedIndex who whoIndex assumedVoteIndex =>
      obtain rfl := congrArg Prod.snd (Option.some.inj applied)
      exact tracked.voterRemoval
        (reapInactiveVoter_removal runtime c aux signedIndex who whoIndex assumedVoteIndex)
  | retractVoter aux index =>
      obtain rfl := congrArg Prod.snd (Option.some.inj applied)
      exact tracked.voterRemoval (retractVoter_removal runtime c aux index)
  | submitCandidacy aux slot =>
      obtain rfl := congrArg Prod.snd (Option.some.inj applied)
      exact tracked.kept (submitCandidacy_kept runtime c aux slot)
  | presentWinner aux candidate total index =>
      exact tracked.kept (presentWinner_kept runtime c applied)
  | setDesiredSeats count =>
      obtain rfl := congrArg Prod.snd (Option.some.inj applied)
      exact tracked.kept ⟨rfl, rfl, rfl⟩
  | removeMember who =>
      obtain rfl := congrArg Prod.snd (Option.some.inj applied)
      unfold removeMember
      split
      · exact tracked
      · exact tracked.kept ⟨rfl, rfl, rfl⟩
  | setPresentationDuration count =>
      obtain rfl := congrArg Prod.snd (Option.some.inj applied)
      exact tracked.kept ⟨rfl, rfl, rfl⟩
  | setTermDuration count =>
      obtain rfl := congrArg Prod.snd (Option.some.inj applied)
      exact tracked.kept ⟨rfl, rfl, rfl⟩
  | endBlock =>
      obtain ⟨⟨endedResult, ended⟩, endedEq, next⟩ := Option.map_eq_some_iff.mp applied
      obtain rfl := congrArg Prod.snd next
      have kept := endBlock_kept runtime c endedEq
      exact tracked.kept kept

end Chain

/-- The voter registry holds in every state a run of calls reaches from
genesis. -/
theorem votersTracked_of_run {σ AccountId Address : Type} [DecidableEq AccountId]
    [Inhabited AccountId] {balanceBits : Nat} (runtime : Runtime σ AccountId Address balanceBits)
    (config : GenesisConfig AccountId balanceBits) (others : σ) (blockNumber : Nat)
    (calls : List (Call AccountId Address balanceBits)) {results : List (Except String Unit)}
    {c' : Chain σ AccountId balanceBits}
    (ran : Chain.run runtime calls ⟨config.buildStorage, others, blockNumber⟩ = some (results, c')) :
    c'.council.VotersTracked :=
  Chain.run_invariant runtime (fun c => c.council.VotersTracked)
    (fun c _ _ _ tracked applied => Chain.apply_votersTracked runtime c tracked applied)
    (Storage.votersTracked_buildStorage config) ran

namespace Chain

variable {σ AccountId Address : Type} [DecidableEq AccountId] [Inhabited AccountId]
variable {balanceBits : Nat}
variable (runtime : Runtime σ AccountId Address balanceBits)
variable (c : Chain σ AccountId balanceBits)

/-- A tally that elects every ranked candidate leaves no runner-up, and then
`finalise_tally` leaves as many empty slots as the candidate list had: the
list is cut only after a remaining candidate. -/
theorem finaliseTally_keeps_empty_slots {tallyEnd : Nat} {coming : BitVec 32}
    {expiring : List AccountId} {leaderboard : List (BitVec balanceBits × AccountId)}
    {result : Except String Unit} {c' : Chain σ AccountId balanceBits}
    (record : c.council.nextFinalise = some (tallyEnd, coming, expiring))
    (board : c.council.leaderboard = some leaderboard)
    (allElected : (leaderboard.reverse.takeWhile fun entry => entry.1 != 0).length ≤ coming.toNat)
    (finalised : c.finaliseTally runtime = some (result, c')) :
    c'.council.candidates = List.replicate c.council.candidates.length default := by
  have noRunnersUp : (leaderboard.reverse.takeWhile fun entry => entry.1 != 0).drop coming.toNat = [] :=
    List.drop_eq_nil_of_le allElected
  have allEmpty : rposition (fun candidate => candidate != default)
      (List.replicate c.council.candidates.length (default : AccountId)) = none :=
    rposition_eq_none fun item member => by simp [List.eq_of_mem_replicate member]
  unfold finaliseTally at finalised
  simp only [withCouncil, record, board, Option.getD_some, noRunnersUp, List.filterMap_nil] at finalised
  rw [show placeRunnersUp ([] : List (AccountId × BitVec 32))
      (List.replicate c.council.candidates.length default) =
        some (List.replicate c.council.candidates.length default, 0) from rfl] at finalised
  simp only [allEmpty, Option.some.injEq, Prod.mk.injEq] at finalised
  rw [← finalised.2]

end Chain

/-- The tests' simple tally, run at every block from block 1: candidates 2 and
5 stand in slots 0 and 1, each votes for itself, and both are presented and
elected at block 6.  Both slots are then empty, and the candidate list still
ends with them. -/
theorem tally_leaves_empty_candidate_slots :
    ((Chain.run testRuntime
        [.submitCandidacy 2 0, .submitCandidacy 5 1, .setApprovals 2 [true, false] 0,
          .setApprovals 5 [false, true] 0, .endBlock, .endBlock, .endBlock, .endBlock,
          .presentWinner 4 2 20#64 0, .presentWinner 4 5 50#64 0, .endBlock, .endBlock]
        ⟨(newTestExt false).buildStorage, (), 1⟩).map fun result =>
        (result.1, result.2.council.activeCouncil, result.2.council.candidates,
          result.2.council.candidateCount)) =
      some (List.replicate 12 (.ok ()), [(5, 11), (2, 11)], [0, 0], 0) :=
  rfl

end Council
end Polkadot
