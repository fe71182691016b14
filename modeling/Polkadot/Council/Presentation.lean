import Polkadot.Council.Tally

/-!
# Presenting winners

`present_winner` of `runtime/council/src/lib.rs`.  Once the call's own checks
have passed (`PresentationOpen`), the candidate joins the leaderboard exactly
when it is admitted (`Admitted`).  That means it beats the lowest entry, it is
registered, the total presented is the stake that approves it, and it is not on
the board yet.  It must also not stand in the active council at a position past
the number of members recorded as expiring.  The entry it joins in replaces
the lowest one, and the board stays sorted by total (`presentWinner_of_admitted`,
`leaderboard_presented`).  A candidate not admitted leaves the chain as it
was, or slashes the presenter (`presentWinner_of_not_admitted`).

The test on the active council is by position, against the number of expiring
members that `start_tally` recorded.  A member removed from the front of the
council during the presentation period moves every other member one position
forward.  A member whose term goes on then passes the test.
-/

namespace Polkadot
namespace Council

namespace Chain

variable {σ AccountId Address : Type} [DecidableEq AccountId]
variable {balanceBits : Nat}
variable (runtime : Runtime σ AccountId Address balanceBits)

/-- The presentation of `candidate` is made in an open presentation period, at
the current vote, by a presenter who can be slashed: the checks of
`present_winner` before it looks at the candidate's total. -/
structure PresentationOpen (c : Chain σ AccountId balanceBits) (aux : AccountId) (candidate : Address)
    (index : BitVec 32) (target : AccountId) (expiring : List AccountId)
    (stakes : List (BitVec balanceBits)) (leaderboard : List (BitVec balanceBits × AccountId))
    (lowest : BitVec balanceBits × AccountId) : Prop where
  lookedUp : runtime.lookup c.others candidate = .ok target
  current : index = c.council.voteCount
  presenting : ∃ finalise coming, c.council.nextFinalise = some (finalise, coming, expiring)
  snapshot : c.council.snapshotedStakes = some stakes
  slashable : runtime.canSlash c.others aux
    (c.council.presentSlashPerVoter * BitVec.ofNat balanceBits c.council.voters.length) = true
  board : c.council.leaderboard = some leaderboard
  lowestFirst : leaderboard.head? = some lowest

/-- What `present_winner` asks of the candidate presented with `total`. -/
structure Admitted (c : Chain σ AccountId balanceBits) (target : AccountId) (total : BitVec balanceBits)
    (expiring : List AccountId) (stakes : List (BitVec balanceBits))
    (leaderboard : List (BitVec balanceBits × AccountId)) (lowest : BitVec balanceBits × AccountId) :
    Prop where
  exceeds : lowest.1 < total
  expiringIfMember : ∀ position,
    c.council.activeCouncil.findIdx? (fun member => decide (member.1 = target)) = some position →
      position < expiring.length
  approved : ∃ registeredSince candidateIndex,
    c.council.registerInfoOf.lookup target = some (registeredSince, candidateIndex) ∧
      total = c.council.approvingStake stakes registeredSince candidateIndex
  fresh : ∀ entry ∈ leaderboard, entry.2 ≠ target

/-- The chain with the presenter slashed for a bad presentation. -/
abbrev presenterSlashed (c : Chain σ AccountId balanceBits) (aux : AccountId) :
    Chain σ AccountId balanceBits :=
  let badPresentationPunishment :=
    c.council.presentSlashPerVoter * BitVec.ofNat balanceBits c.council.voters.length
  { c with others := runtime.slash c.others aux badPresentationPunishment }

variable {runtime} {c : Chain σ AccountId balanceBits} {aux target : AccountId} {candidate : Address}
  {total : BitVec balanceBits} {index : BitVec 32} {expiring : List AccountId}
  {stakes : List (BitVec balanceBits)} {leaderboard : List (BitVec balanceBits × AccountId)}
  {lowest : BitVec balanceBits × AccountId}

/-- The position test of `present_winner` on the active council fails exactly
where the candidate stands at a position past the expiring members. -/
theorem position_eq_some_false_iff {council : List (AccountId × Nat)} :
    ((council.findIdx? fun member => decide (member.1 = target)).map fun position =>
        decide (position < expiring.length)) = some false ↔
      ∃ position, council.findIdx? (fun member => decide (member.1 = target)) = some position ∧
        ¬ position < expiring.length := by
  cases council.findIdx? fun member => decide (member.1 = target) with
  | none => simp
  | some position => simp

/-- An admitted candidate replaces the lowest entry of the leaderboard, which
is sorted again by total. -/
theorem presentWinner_of_admitted
    (opened : PresentationOpen runtime c aux candidate index target expiring stakes leaderboard lowest)
    (admitted : Admitted c target total expiring stakes leaderboard lowest) :
    c.presentWinner runtime aux candidate total index =
      some (.ok (), c.withCouncil fun s =>
        { s with leaderboard := some ((leaderboard.set 0 (total, target)).insertionSort
            fun a b => a.1 ≤ b.1) }) := by
  obtain ⟨finalise, coming, presenting⟩ := opened.presenting
  obtain ⟨registeredSince, candidateIndex, registered, totalled⟩ := admitted.approved
  have notMember : ¬ ((c.council.activeCouncil.findIdx? fun member => decide (member.1 = target)).map
      fun position => decide (position < expiring.length)) = some false := by
    rw [position_eq_some_false_iff]
    rintro ⟨position, found, past⟩
    exact past (admitted.expiringIfMember position found)
  have notDupe : (leaderboard.any fun entry => decide (entry.2 = target)) = false := by
    simpa using admitted.fresh
  unfold presentWinner
  rw [opened.lookedUp]
  dsimp only
  rw [if_neg (not_not.mpr opened.current), presenting]
  dsimp only
  rw [opened.snapshot]
  dsimp only
  rw [if_neg (by simp [opened.slashable]), opened.board]
  dsimp only
  rw [opened.lowestFirst]
  dsimp only
  rw [if_neg (not_not.mpr admitted.exceeds), if_neg notMember, registered]
  dsimp only
  rw [if_pos ⟨totalled, by simp [notDupe]⟩]

/-- A candidate that is not admitted leaves the chain as it was, or, where it
is registered and worthy of the board but its total is wrong or it is there
already, slashes the presenter. -/
theorem presentWinner_of_not_admitted
    (opened : PresentationOpen runtime c aux candidate index target expiring stakes leaderboard lowest)
    (notAdmitted : ¬ Admitted c target total expiring stakes leaderboard lowest) :
    ∃ message, c.presentWinner runtime aux candidate total index = some (.error message, c) ∨
      c.presentWinner runtime aux candidate total index =
        some (.error message, c.presenterSlashed runtime aux) := by
  obtain ⟨finalise, coming, presenting⟩ := opened.presenting
  unfold presentWinner
  rw [opened.lookedUp]
  dsimp only
  rw [if_neg (not_not.mpr opened.current), presenting]
  dsimp only
  rw [opened.snapshot]
  dsimp only
  rw [if_neg (by simp [opened.slashable]), opened.board]
  dsimp only
  rw [opened.lowestFirst]
  dsimp only
  -- the checks on the candidate, in the order the source makes them
  by_cases exceeds : lowest.1 < total
  swap
  · exact ⟨_, .inl (by rw [if_pos exceeds])⟩
  rw [if_neg (not_not.mpr exceeds)]
  by_cases member : ((c.council.activeCouncil.findIdx? fun member => decide (member.1 = target)).map
      fun position => decide (position < expiring.length)) = some false
  · exact ⟨_, .inl (by rw [if_pos member])⟩
  rw [if_neg member]
  cases registered : c.council.registerInfoOf.lookup target with
  | none => exact ⟨_, .inl rfl⟩
  | some info =>
      obtain ⟨registeredSince, candidateIndex⟩ := info
      dsimp only
      by_cases accepted : total = c.council.approvingStake stakes registeredSince candidateIndex ∧
          (!leaderboard.any fun entry => decide (entry.2 = target)) = true
      · -- every condition holds: the candidate is admitted, against the hypothesis
        refine absurd
          { exceeds
            expiringIfMember := fun position found => ?_
            approved := ⟨registeredSince, candidateIndex, registered, accepted.1⟩
            fresh := by simpa using accepted.2 } notAdmitted
        by_contra past
        exact member (position_eq_some_false_iff.mpr ⟨position, found, past⟩)
      · exact ⟨_, .inr (by rw [if_neg accepted])⟩

omit [DecidableEq AccountId] in
/-- The leaderboard after a presentation is sorted by total, and holds the
entry presented in place of the lowest one. -/
theorem leaderboard_presented {leaderboard : List (BitVec balanceBits × AccountId)}
    {lowest entry : BitVec balanceBits × AccountId} (lowestFirst : leaderboard.head? = some lowest) :
    ((leaderboard.set 0 entry).insertionSort fun a b => a.1 ≤ b.1).Pairwise (fun a b => a.1 ≤ b.1) ∧
      ((leaderboard.set 0 entry).insertionSort fun a b => a.1 ≤ b.1).Perm (entry :: leaderboard.tail) := by
  obtain ⟨rest, rfl⟩ : ∃ rest, leaderboard = lowest :: rest := by
    cases leaderboard with
    | nil => cases lowestFirst
    | cons first rest => exact ⟨rest, by rw [Option.some.inj lowestFirst]⟩
  -- totals compare as their numbers: totally and transitively
  have : Std.Total fun a b : BitVec balanceBits × AccountId => a.1 ≤ b.1 :=
    ⟨fun a b => by simp only [BitVec.le_def]; omega⟩
  have : IsTrans (BitVec balanceBits × AccountId) fun a b => a.1 ≤ b.1 :=
    ⟨fun a b c => by simp only [BitVec.le_def]; omega⟩
  exact ⟨List.pairwise_insertionSort _ _, List.perm_insertionSort _ _⟩

/-- `present_winner` admits a candidate by its position against the leaderboard's lowest entry and
the active council, and then sorts the leaderboard by total. -/
theorem presentWinner_admits_by_position :
    (∀ (runtime : Runtime σ AccountId Address balanceBits) (c : Chain σ AccountId balanceBits)
        aux candidate total index target expiring stakes leaderboard lowest,
      PresentationOpen runtime c aux candidate index target expiring stakes leaderboard lowest →
      (Admitted c target total expiring stakes leaderboard lowest →
        c.presentWinner runtime aux candidate total index =
          some (.ok (), c.withCouncil fun s =>
            { s with leaderboard := some ((leaderboard.set 0 (total, target)).insertionSort
                fun a b => a.1 ≤ b.1) })) ∧
      (¬ Admitted c target total expiring stakes leaderboard lowest →
        ∃ message, c.presentWinner runtime aux candidate total index = some (.error message, c) ∨
          c.presentWinner runtime aux candidate total index =
            some (.error message, c.presenterSlashed runtime aux))) ∧
    ∀ (leaderboard : List (BitVec balanceBits × AccountId)) lowest entry,
      leaderboard.head? = some lowest →
      ((leaderboard.set 0 entry).insertionSort fun a b => a.1 ≤ b.1).Pairwise (fun a b => a.1 ≤ b.1) ∧
        ((leaderboard.set 0 entry).insertionSort fun a b => a.1 ≤ b.1).Perm
          (entry :: leaderboard.tail) :=
  ⟨fun _ _ _ _ _ _ _ _ _ _ _ opened =>
      ⟨presentWinner_of_admitted opened, presentWinner_of_not_admitted opened⟩,
    fun _ _ _ lowestFirst => leaderboard_presented lowestFirst⟩

end Chain

/-- From the tests' genesis with members 1, whose term ends at block 4, and 2,
whose term goes on to block 8: member 2 stands as a candidate and voter 3
approves it.  The tally of block 4 records member 1 as expiring; member 1 is
removed, and member 2 moves to the front of the council.  Its presentation then
passes the position test, and member 2, whose term goes on, joins the
leaderboard. -/
theorem presentWinner_admits_staying_member :
    ∃ c, Chain.run testRuntime
        [.submitCandidacy 2 0, .setApprovals 3 [true] 0, .endBlock, .endBlock, .endBlock, .endBlock,
          .removeMember 1]
        ⟨({ newTestExt false with activeCouncil := [(1, 4), (2, 8)] } : GenesisConfig Nat 64).buildStorage,
          (), 1⟩ = some (List.replicate 7 (.ok ()), c) ∧
      c.council.nextFinalise = some (6, 1, [1]) ∧ c.council.activeCouncil = [(2, 8)] ∧
      c.presentWinner testRuntime 4 2 30 0 =
        some (.ok (), c.withCouncil fun s => { s with leaderboard := some [(0, 0), (0, 0), (30, 2)] }) := by
  obtain ⟨presents, -⟩ := @Chain.presentWinner_admits_by_position Unit Nat Nat _ 64
  -- the chain the run reaches is the one the presentation is made on
  refine ⟨_, rfl, rfl, rfl,
    ((presents testRuntime _ 4 2 30 0 2 [1] [30] [(0, 0), (0, 0), (0, 0)] (0, 0) ?_).1 ?_).trans rfl⟩
  · exact
      { lookedUp := rfl
        current := rfl
        presenting := ⟨6, 1, rfl⟩
        snapshot := rfl
        slashable := rfl
        board := rfl
        lowestFirst := rfl }
  · refine
      { exceeds := by decide
        expiringIfMember := fun position found => ?_
        approved := ⟨0, 0, rfl, rfl⟩
        fresh := by decide }
    -- member 2 stands first in the council, before the one expiring member
    change List.findIdx? (fun member : Nat × Nat => decide (member.1 = 2)) [(2, 8)] = some position
      at found
    cases found
    decide

end Council
end Polkadot
