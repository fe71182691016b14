import Polkadot.Council.Election

/-!
# Council tallies

`next_tally`, `start_tally`, `finalise_tally` and `end_block` of
`runtime/council/src/lib.rs`.  `start_tally` records the members whose term
ends at the tally as expiring; `finalise_tally` drops as many members from the
front of the council, sorted by expiry, and adds the winners of the
leaderboard.  `next_tally` counts the seats from the same record with `usize`
arithmetic, which wraps here as in a release build.
-/

namespace Polkadot
namespace Council

/-- `Iterator::rposition`: the index of the last item that satisfies `p`. -/
def rposition {α : Type} (p : α → Bool) (items : List α) : Option Nat :=
  items.zipIdx.foldl (fun found entry => if p entry.1 then some entry.2 else found) none

/-- `rposition` finds nothing in a list none of whose items satisfies `p`. -/
theorem rposition_eq_none {α : Type} {p : α → Bool} {items : List α}
    (absent : ∀ item ∈ items, p item = false) : rposition p items = none := by
  -- the fold keeps what it found over entries that do not satisfy `p`
  have keeps : ∀ (entries : List (α × Nat)) (found : Option Nat),
      (∀ entry ∈ entries, p entry.1 = false) →
        entries.foldl (fun found entry => if p entry.1 then some entry.2 else found) found =
          found := by
    intro entries
    induction entries with
    | nil => intro found _; rfl
    | cons entry rest ih =>
        intro found unmatched
        rw [List.foldl_cons, if_neg (by simp [unmatched entry List.mem_cons_self])]
        exact ih found fun other member => unmatched other (List.mem_cons_of_mem _ member)
  exact keeps _ none fun entry member => absent entry.1 (List.fst_mem_of_mem_zipIdx member)

/-- The loop of `finalise_tally` that writes each runner-up back into its slot of
the new candidate list and counts them; a slot past the list panics. -/
def placeRunnersUp {AccountId : Type} (runnersUp : List (AccountId × BitVec 32))
    (newCandidates : List AccountId) : Option (List AccountId × BitVec 32) :=
  runnersUp.foldlM (fun placed runnerUp =>
      if runnerUp.2.toNat < placed.1.length then
        some (placed.1.set runnerUp.2.toNat runnerUp.1, placed.2 + 1)
      else none)
    (newCandidates, 0)

namespace Storage

variable {AccountId : Type} {balanceBits : Nat}
variable (s : Storage AccountId balanceBits)

/-- `next_vote_from`: the first block of a voting period from `n` on; a zero
voting period divides by zero. -/
def nextVoteFrom (n : Nat) : Option Nat :=
  if s.votingPeriod = 0 then none
  else some ((n + s.votingPeriod - 1) / s.votingPeriod * s.votingPeriod)

/-- The seats counted by `next_tally` during a tally: the members, less the
leavers, with the comers, in wrapping `usize` arithmetic. -/
def seatCount (members leavers : Nat) (comers : BitVec 32) : BitVec 64 :=
  BitVec.ofNat 64 members - BitVec.ofNat 64 leavers + comers.setWidth 64

/-- `next_tally`: the block of the next tally, `some none` with no desired
seats, and `none` on a panic.  When the council is full, the tally waits for
the member whose expiry brings it below the desired seats; the index of that
member is computed in wrapping `usize` arithmetic and read out of bounds
panics. -/
def nextTally (blockNumber : Nat) : Option (Option Nat) :=
  let desiredSeats := s.desiredSeats
  if desiredSeats = 0 then some none
  else
    let council := s.activeCouncil
    let (nextPossible, count, coming) : Nat × BitVec 64 × BitVec 32 :=
      match s.nextFinalise with
      -- a tally in progress: the next can begin right after it
      | some (tallyEnd, comers, leavers) =>
          (tallyEnd, seatCount council.length leavers.length comers, comers)
      | none => (blockNumber, BitVec.ofNat 64 council.length, 0)
    let tally : Option Nat :=
      if count < desiredSeats.setWidth 64 then some nextPossible
      else if desiredSeats ≤ coming then some (nextPossible + s.termDuration)
      else
        (council[(BitVec.ofNat 64 council.length - (desiredSeats - coming).setWidth 64).toNat]?).map
          fun member => member.2
    match tally with
    | none => none
    | some n => (s.nextVoteFrom n).map some

end Storage

namespace Chain

variable {σ AccountId Address : Type} [DecidableEq AccountId] [Inhabited AccountId]
variable {balanceBits : Nat}
variable (runtime : Runtime σ AccountId Address balanceBits)
variable (c : Chain σ AccountId balanceBits)

/-- `start_tally`: the members whose term ends now are recorded as expiring; if
too few seats remain, the presentation period opens with a snapshot of the
voters' stakes and an empty leaderboard. -/
def startTally : Chain σ AccountId balanceBits :=
  let activeCouncil := c.council.activeCouncil
  let desiredSeats := c.council.desiredSeats.toNat
  let number := c.blockNumber
  let expiring := (activeCouncil.takeWhile fun member => member.2 == number).map Prod.fst
  if activeCouncil.length - expiring.length < desiredSeats then
    let emptySeats := desiredSeats - (activeCouncil.length - expiring.length)
    let votes := c.council.voters.map (runtime.votingBalance c.others)
    let leaderboardSize := emptySeats + c.council.carryCount.toNat
    c.withCouncil fun s =>
      { s with
        nextFinalise := some (number + s.presentationDuration, BitVec.ofNat 32 emptySeats, expiring)
        snapshotedStakes := some votes
        leaderboard := some (List.replicate leaderboardSize (0, default)) }
  else c

/-- `finalise_tally`: as many members as were recorded expiring leave the front
of the council, the `coming` best of the leaderboard join it with their bonds
returned, and the next runners-up stay candidates in their slots while every
other candidate is unregistered.  The candidate list is cut after its last
candidate, if it has one. -/
def finaliseTally : Outcome σ AccountId balanceBits :=
  let c := c.withCouncil fun s => { s with snapshotedStakes := none }
  match c.council.nextFinalise with
  | none => some (.error "finalise can only be called after a tally is started.", c)
  | some (_, coming, expiring) =>
      let leaderboard := c.council.leaderboard.getD []
      let c := c.withCouncil fun s => { s with nextFinalise := none, leaderboard := none }
      let newExpiry := c.blockNumber + c.council.termDuration
      let ranked := leaderboard.reverse.takeWhile fun entry => entry.1 != 0
      let winners := ranked.take coming.toNat
      let others := winners.foldl
        (fun others winner => runtime.unreserve others winner.2 c.council.candidacyBond) c.others
      let newCouncil := (c.council.activeCouncil.drop expiring.length ++
        winners.map fun winner => (winner.2, newExpiry)).insertionSort fun a b => a.2 ≤ b.2
      let candidates := c.council.candidates
      let runnersUp := (ranked.drop coming.toNat).filterMap fun entry =>
        (c.council.registerInfoOf.lookup entry.2).map fun info => (entry.2, info.2)
      match placeRunnersUp runnersUp (List.replicate candidates.length default) with
      | none => none
      | some (newCandidates, count) =>
          -- a slot whose candidate changed is unregistered
          let registerInfoOf := (candidates.zip newCandidates).foldl
            (fun registered pair => if pair.1 ≠ pair.2 then registered.erase pair.1 else registered)
            c.council.registerInfoOf
          let newCandidates := match rposition (fun candidate => candidate != default) newCandidates with
            | some lastIndex => newCandidates.take (lastIndex + 1)
            | none => newCandidates
          some (.ok (), { c with
            others
            council := { c.council with
              activeCouncil := newCouncil
              registerInfoOf
              candidates := newCandidates
              candidateCount := count
              voteCount := c.council.voteCount + 1 } })

/-- `end_block`: on a block of the voting period the tally starts if it is due,
and the tally in progress is finalised at its end.  A zero voting period
divides by zero. -/
def endBlock (blockNumber : Nat) : Outcome σ AccountId balanceBits :=
  if c.council.votingPeriod = 0 then none
  else
    let started : Option (Chain σ AccountId balanceBits) :=
      if blockNumber % c.council.votingPeriod = 0 then
        match c.council.nextTally c.blockNumber with
        | none => none
        | some (some number) => some (if blockNumber = number then c.startTally runtime else c)
        | some none => some c
      else some c
    match started with
    | none => none
    | some c =>
        match c.council.nextFinalise with
        | some (number, _, _) =>
            if blockNumber = number then c.finaliseTally runtime else some (.ok (), c)
        | none => some (.ok (), c)

end Chain

/-- The calls of the council, its privileged calls, and the end of a block. -/
inductive Call (AccountId Address : Type) (balanceBits : Nat) where
  | setApprovals (aux : AccountId) (votes : List Bool) (index : BitVec 32)
  | reapInactiveVoter (aux : AccountId) (signedIndex : BitVec 32) (who : Address)
      (whoIndex : BitVec 32) (assumedVoteIndex : BitVec 32)
  | retractVoter (aux : AccountId) (index : BitVec 32)
  | submitCandidacy (aux : AccountId) (slot : BitVec 32)
  | presentWinner (aux : AccountId) (candidate : Address) (total : BitVec balanceBits)
      (index : BitVec 32)
  | setDesiredSeats (count : BitVec 32)
  | removeMember (who : Address)
  | setPresentationDuration (count : Nat)
  | setTermDuration (count : Nat)
  | endBlock

namespace Chain

variable {σ AccountId Address : Type} [DecidableEq AccountId] [Inhabited AccountId]
variable {balanceBits : Nat}
variable (runtime : Runtime σ AccountId Address balanceBits)

/-- One call.  `endBlock` runs `end_block` of the current block, and the next
block begins. -/
def apply (c : Chain σ AccountId balanceBits) :
    Call AccountId Address balanceBits → Outcome σ AccountId balanceBits
  | .setApprovals aux votes index => some (c.setApprovals runtime aux votes index)
  | .reapInactiveVoter aux signedIndex who whoIndex assumedVoteIndex =>
      some (c.reapInactiveVoter runtime aux signedIndex who whoIndex assumedVoteIndex)
  | .retractVoter aux index => some (c.retractVoter runtime aux index)
  | .submitCandidacy aux slot => some (c.submitCandidacy runtime aux slot)
  | .presentWinner aux candidate total index => c.presentWinner runtime aux candidate total index
  | .setDesiredSeats count => some (c.setDesiredSeats count)
  | .removeMember who => some (c.removeMember runtime who)
  | .setPresentationDuration count => some (c.setPresentationDuration count)
  | .setTermDuration count => some (c.setTermDuration count)
  | .endBlock => (c.endBlock runtime c.blockNumber).map fun ended =>
      (ended.1, { ended.2 with blockNumber := ended.2.blockNumber + 1 })

/-- A run of calls: the result of each, and the chain at the end; a panic stops
the run. -/
def run : List (Call AccountId Address balanceBits) → Chain σ AccountId balanceBits →
    Option (List (Except String Unit) × Chain σ AccountId balanceBits)
  | [], c => some ([], c)
  | call :: calls, c => do
      let (result, c) ← c.apply runtime call
      let (results, c) ← run calls c
      pure (result :: results, c)

end Chain

/-- The council part of the tests' `new_test_ext(with_council)`. -/
def newTestExt (withCouncil : Bool) : GenesisConfig Nat 64 where
  candidacyBond := 9
  voterBond := 3
  presentSlashPerVoter := 1
  carryCount := 2
  activeCouncil := if withCouncil then [(1, 10), (2, 10), (3, 10)] else []
  approvalVotingPeriod := 4
  presentationDuration := 2
  desiredSeats := 2
  termDuration := 5
  inactiveGracePeriod := 1

/-- Staking as the tests' genesis gives it, for runs in which every bond is
affordable and nobody is slashed: account `a` holds `10 * a`, addresses are
account IDs, and reserving, unreserving and transferring bonds keep the voting
balances. -/
def testRuntime : Runtime Unit Nat Nat 64 where
  lookup _ account := .ok account
  votingBalance _ account := BitVec.ofNat 64 (10 * account)
  reserve others _ _ := .ok others
  unreserve others _ _ := others
  canSlash _ _ _ := true
  slash others _ _ := others
  slashReserved others _ _ := others
  transferReserved others _ _ _ := .ok others

/-- Two runs with members removed during a presentation period.  In the first,
members 1 and 2 expire at the tally of block 4 and all three members are
removed; at block 8 `next_tally` subtracts the two recorded leavers from an
empty council and reads the council out of bounds.  In the second, member 1
expires at block 4 and is removed; finalising at block 6 drops member 2, whose
term runs to block 8, in its place. -/
theorem removeMember_desynchronises_tally :
    Chain.run testRuntime
        [.endBlock, .endBlock, .endBlock, .endBlock, .removeMember 1, .removeMember 2,
          .removeMember 3, .endBlock, .endBlock, .endBlock, .endBlock]
        ⟨({ newTestExt false with
            activeCouncil := [(1, 4), (2, 4), (3, 8)], presentationDuration := 4 } :
              GenesisConfig Nat 64).buildStorage, (), 1⟩ = none ∧
    ((Chain.run testRuntime
        [.submitCandidacy 3 0, .setApprovals 3 [true] 0, .endBlock, .endBlock, .endBlock,
          .endBlock, .removeMember 1, .presentWinner 4 3 30#64 0, .endBlock, .endBlock]
        ⟨({ newTestExt false with activeCouncil := [(1, 4), (2, 8)] } :
              GenesisConfig Nat 64).buildStorage, (), 1⟩).map fun result =>
        (result.1, result.2.council.activeCouncil)) =
      some (List.replicate 10 (.ok ()), [(3, 11)]) :=
  ⟨rfl, rfl⟩

end Council
end Polkadot
