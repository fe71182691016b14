import Polkadot.Council.Tally
import Polkadot.Staking.Reserves

/-!
# The council over staking

The runtime through which the council calls staking, as
`runtime/staking/src/lib.rs` gives it, at the 64-bit account indices of both
runtimes.  `reserve` and `transfer_reserved` return `Err` before they write
(`Staking.Storage.reserve_error`, `Staking.Storage.transferReserved_error`), so
the runtime returns their errors without a storage.

`Executive::apply_extrinsic` keeps what a call wrote even when the call
returns `Err`.  `reap_inactive_voter` removes one of the two voters before it
transfers the target's bond to the reporter, and `transfer_reserved` fails
when the reporter holds no funds: the call then returns `Err` after the target
has left the voters, taking its approvals and activity with it, while its bond
stays reserved (`reapInactiveVoter_fails_after_removal`).
-/

namespace Polkadot
namespace Council

variable {AccountId : Type} [DecidableEq AccountId] {balanceBits : Nat}

/-- Staking as the council calls it. -/
def stakingRuntime :
    Runtime (Staking.Storage AccountId balanceBits 64) AccountId
      (Staking.Address AccountId (BitVec 64)) balanceBits where
  lookup s address := (s.lookup address).get (s.lookup_isSome address)
  votingBalance s who := s.votingBalance who
  reserve s who value :=
    match s.reserve who value with
    | (.ok (), s) => .ok s
    | (.error message, _) => .error message
  unreserve s who value := (s.unreserve who value).2
  canSlash s who value := s.canSlash who value
  slash s who value := (s.slash who value).2
  slashReserved s who value := (s.slashReserved who value).2
  transferReserved s slashed beneficiary value :=
    match s.transferReserved slashed beneficiary value with
    | (.ok _, s) => .ok s
    | (.error message, _) => .error message

/-- The staking runtime's transfer of a bond fails when the beneficiary has no
funds. -/
theorem stakingRuntime_transferReserved_of_unfunded
    {s : Staking.Storage AccountId balanceBits 64} {slashed beneficiary : AccountId}
    {value : BitVec balanceBits} (unfunded : s.votingBalance beneficiary = 0) :
    stakingRuntime.transferReserved s slashed beneficiary value =
      .error "beneficiary account must pre-exist" := by
  simp only [stakingRuntime, Staking.Storage.transferReserved, if_pos unfunded]

variable [Inhabited AccountId]

/-- On every chain where `reap_inactive_voter` passes its checks and finds the
target's approvals moot, a reporter without funds makes the call fail after
the target has been removed: the chain after the failed call has one voter
fewer, and the target's approvals and activity are gone. -/
theorem reapInactiveVoter_fails_after_removal
    (c : Chain (Staking.Storage AccountId balanceBits 64) AccountId balanceBits)
    {aux who : AccountId} {signedIndex whoIndex : BitVec 32} {lastActive : BitVec 32}
    (presenting : c.council.presentationActive = false)
    (reporterVotes : (c.council.lastActiveOf.lookup aux).isSome)
    (targetActive : c.council.lastActiveOf.lookup who = some lastActive)
    (inactive : lastActive < c.council.voteCount - c.council.inactiveGracePeriod)
    (reporterAt : c.council.voters[signedIndex.toNat]? = some aux)
    (targetAt : c.council.voters[whoIndex.toNat]? = some who)
    (moot : c.council.approvalsMoot who lastActive = true)
    (unfunded : c.others.votingBalance aux = 0) :
    c.reapInactiveVoter stakingRuntime aux signedIndex (.id who) whoIndex c.council.voteCount =
        (.error "beneficiary account must pre-exist",
          c.withCouncil fun s => s.removeVoter who whoIndex.toNat c.council.voters) ∧
      (c.withCouncil fun s =>
          s.removeVoter who whoIndex.toNat c.council.voters).council.voters.length + 1 =
        c.council.voters.length ∧
      (c.withCouncil fun s =>
          s.removeVoter who whoIndex.toNat c.council.voters).council.lastActiveOf.lookup who = none := by
  have reporterInside : signedIndex.toNat < c.council.voters.length :=
    (List.getElem?_eq_some_iff.mp reporterAt).1
  have targetInside : whoIndex.toNat < c.council.voters.length :=
    (List.getElem?_eq_some_iff.mp targetAt).1
  refine ⟨?_, ?_, by simp [Chain.withCouncil, Storage.removeVoter]⟩
  · unfold Chain.reapInactiveVoter
    have lookedUp : stakingRuntime.lookup c.others (.id who) = .ok who := rfl
    rw [lookedUp]
    dsimp only
    have reporterNotNone : ¬(c.council.lastActiveOf.lookup aux).isNone = true := by
      simpa [Option.isNone_iff_eq_none] using Option.isSome_iff_ne_none.mp reporterVotes
    rw [if_neg (by simp [presenting]), if_neg reporterNotNone, targetActive]
    dsimp only
    rw [if_neg (not_not.mpr rfl), if_neg (not_not.mpr inactive),
      if_neg (not_not.mpr ⟨reporterInside, reporterAt⟩), if_neg (not_not.mpr ⟨targetInside, targetAt⟩)]
    simp only [moot, if_true]
    rw [stakingRuntime_transferReserved_of_unfunded
      (s := (c.withCouncil fun s => s.removeVoter who whoIndex.toNat c.council.voters).others) unfunded]
  · have removed := (Democracy.swapRemove_perm targetInside).length_eq
    simp only [Chain.withCouncil, Storage.removeVoter, removed, List.length_eraseIdx_of_lt targetInside]
    omega

/-- Voter 2 last voted in vote 0 and voter 1, the reporter, in vote 5, the
current one, with the tests' grace period of one vote.  Accounts 1 and 2 hold
no funds, as when the voting bond is zero or below the existential deposit and
the free balance has been spent. -/
def unfundedReporterChain : Chain (Staking.Storage Nat 64 64) Nat 64 where
  council := { (newTestExt false).buildStorage with
    voteCount := 5
    voters := [1, 2]
    lastActiveOf := ((∅ : AList fun _ : Nat => BitVec 32).insert 2 0).insert 1 5 }
  others := (Staking.newTestExt 0 false 0).buildStorage 64
  blockNumber := 20

/-- On the unfunded chain a report fails after removing the target, and the failed call leaves the
voter removed. -/
theorem reapInactiveVoter_fails_after_removal_unfunded :
    unfundedReporterChain.reapInactiveVoter stakingRuntime 1 0 (.id 2) 1
        unfundedReporterChain.council.voteCount =
        (.error "beneficiary account must pre-exist",
          unfundedReporterChain.withCouncil fun s =>
            s.removeVoter 2 1 unfundedReporterChain.council.voters) ∧
      (unfundedReporterChain.withCouncil fun s =>
          s.removeVoter 2 1 unfundedReporterChain.council.voters).council.voters.length + 1 =
        unfundedReporterChain.council.voters.length ∧
      (unfundedReporterChain.withCouncil fun s =>
          s.removeVoter 2 1 unfundedReporterChain.council.voters).council.lastActiveOf.lookup 2 =
        none :=
  reapInactiveVoter_fails_after_removal unfundedReporterChain (by decide) (by decide) rfl
    (by decide) (by decide) (by decide) (by decide) (by decide)

end Council
end Polkadot
