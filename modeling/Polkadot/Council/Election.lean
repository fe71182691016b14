import Polkadot.Democracy.Referenda
import Mathlib.Data.List.Sort

/-!
# Council elections

`runtime/council/src/lib.rs`: the approval vote that elects the council.
Voters register approvals of candidate slots; candidates register in a slot,
reusing holes; at a tally the stakes of the voters are snapshot and, during
the presentation period, candidates are presented onto a leaderboard with the
stake that approves them; the tally is then finalised into a new council.

The council calls staking through a `Runtime`: address lookup, voting
balances, and reserving, unreserving, slashing and transferring bonds.
`VoteIndex` and the other `u32` values are `BitVec 32`, with the wrap-around of
a release build; block numbers are `Nat`.  `AccountId::default()`, which marks
an empty candidate slot, is `default`.
-/

namespace Polkadot
namespace Council

open Democracy (swapRemove)

/-- The council storage. -/
structure Storage (AccountId : Type) (balanceBits : Nat) where
  candidacyBond : BitVec balanceBits
  votingBond : BitVec balanceBits
  presentSlashPerVoter : BitVec balanceBits
  carryCount : BitVec 32
  presentationDuration : Nat
  inactiveGracePeriod : BitVec 32
  votingPeriod : Nat
  termDuration : Nat
  desiredSeats : BitVec 32
  activeCouncil : List (AccountId × Nat)
  voteCount : BitVec 32
  approvalsOf : AList (fun _ : AccountId => List Bool)
  registerInfoOf : AList (fun _ : AccountId => BitVec 32 × BitVec 32)
  lastActiveOf : AList (fun _ : AccountId => BitVec 32)
  voters : List AccountId
  candidates : List AccountId
  candidateCount : BitVec 32
  nextFinalise : Option (Nat × BitVec 32 × List AccountId)
  snapshotedStakes : Option (List (BitVec balanceBits))
  leaderboard : Option (List (BitVec balanceBits × AccountId))

/-- The chain a council call runs on: the council storage, the state of the
other modules, and `system`'s block number. -/
structure Chain (σ AccountId : Type) (balanceBits : Nat) where
  council : Storage AccountId balanceBits
  others : σ
  blockNumber : Nat

/-- What the council calls of staking. -/
structure Runtime (σ AccountId Address : Type) (balanceBits : Nat) where
  lookup : σ → Address → Except String AccountId
  votingBalance : σ → AccountId → BitVec balanceBits
  reserve : σ → AccountId → BitVec balanceBits → Except String σ
  unreserve : σ → AccountId → BitVec balanceBits → σ
  canSlash : σ → AccountId → BitVec balanceBits → Bool
  slash : σ → AccountId → BitVec balanceBits → σ
  slashReserved : σ → AccountId → BitVec balanceBits → σ
  transferReserved : σ → AccountId → AccountId → BitVec balanceBits → Except String σ

/-- The result of a call and the chain after it; `none` is a panic. -/
abbrev Outcome (σ AccountId : Type) (balanceBits : Nat) :=
  Option (Except String Unit × Chain σ AccountId balanceBits)

/-- The fields of `GenesisConfig` that the council itself stores. -/
structure GenesisConfig (AccountId : Type) (balanceBits : Nat) where
  candidacyBond : BitVec balanceBits
  voterBond : BitVec balanceBits
  presentSlashPerVoter : BitVec balanceBits
  carryCount : BitVec 32
  activeCouncil : List (AccountId × Nat)
  approvalVotingPeriod : Nat
  presentationDuration : Nat
  desiredSeats : BitVec 32
  termDuration : Nat
  inactiveGracePeriod : Nat

/-- `build_storage`.  The inactive grace period is written as a block number
and read as a `VoteIndex`, which keeps its low 32 bits. -/
def GenesisConfig.buildStorage {AccountId : Type} {balanceBits : Nat}
    (config : GenesisConfig AccountId balanceBits) : Storage AccountId balanceBits where
  candidacyBond := config.candidacyBond
  votingBond := config.voterBond
  presentSlashPerVoter := config.presentSlashPerVoter
  carryCount := config.carryCount
  presentationDuration := config.presentationDuration
  inactiveGracePeriod := BitVec.ofNat 32 config.inactiveGracePeriod
  votingPeriod := config.approvalVotingPeriod
  termDuration := config.termDuration
  desiredSeats := config.desiredSeats
  activeCouncil := config.activeCouncil
  voteCount := 0
  approvalsOf := ∅
  registerInfoOf := ∅
  lastActiveOf := ∅
  voters := []
  candidates := []
  candidateCount := 0
  nextFinalise := none
  snapshotedStakes := none
  leaderboard := none

namespace Storage

variable {AccountId : Type} [DecidableEq AccountId] {balanceBits : Nat}
variable (s : Storage AccountId balanceBits)

/-- `presentation_active`. -/
def presentationActive : Bool := s.nextFinalise.isSome

/-- `is_a_candidate`. -/
def isACandidate (who : AccountId) : Bool := (s.registerInfoOf.lookup who).isSome

/-- `approvals_of`: an absent entry reads empty. -/
def approvalsFor (who : AccountId) : List Bool := (s.approvalsOf.lookup who).getD []

/-- `remove_voter`: the voter at `index` leaves the list by `swap_remove`, and its
approvals and activity are removed. -/
def removeVoter (voter : AccountId) (index : Nat) (voters : List AccountId) :
    Storage AccountId balanceBits :=
  { s with
    voters := swapRemove voters index
    approvalsOf := s.approvalsOf.erase voter
    lastActiveOf := s.lastActiveOf.erase voter }

/-- The stake that approves a candidate registered since `registeredSince` in
slot `candidateIndex`: the snapshot stakes of the voters active since then that
approve the slot. -/
def approvingStake (stakes : List (BitVec balanceBits))
    (registeredSince candidateIndex : BitVec 32) : BitVec balanceBits :=
  ((s.voters.zip stakes).filterMap fun entry =>
      match s.lastActiveOf.lookup entry.1 with
      | some b =>
          if b ≥ registeredSince then
            (s.approvalsFor entry.1)[candidateIndex.toNat]?.bind fun approved =>
              if approved then some entry.2 else none
          else none
      | none => none).foldl (· + ·) 0

variable [Inhabited AccountId]

/-- Whether a reaped voter's approvals are moot: none of them is for a slot
whose candidate registered at or before the voter's last activity. -/
def approvalsMoot (who : AccountId) (lastActive : BitVec 32) : Bool :=
  !((s.approvalsFor who).zip s.candidates).any fun approval =>
    approval.1 && approval.2 != default &&
      ((s.registerInfoOf.lookup approval.2).map fun info => decide (info.1 ≤ lastActive)).getD false

end Storage

namespace Chain

variable {σ AccountId Address : Type} [DecidableEq AccountId] [Inhabited AccountId]
variable {balanceBits : Nat}
variable (runtime : Runtime σ AccountId Address balanceBits)
variable (c : Chain σ AccountId balanceBits)

/-- The chain with its council storage changed. -/
def withCouncil (f : Storage AccountId balanceBits → Storage AccountId balanceBits) :
    Chain σ AccountId balanceBits :=
  { c with council := f c.council }

/-- `set_approvals`: the approvals of a voter for the current vote; a new voter
reserves the voting bond and joins the list. -/
def setApprovals (aux : AccountId) (votes : List Bool) (index : BitVec 32) :
    Except String Unit × Chain σ AccountId balanceBits :=
  if c.council.presentationActive then (.error "no approval changes during presentation period", c)
  else if index ≠ c.council.voteCount then (.error "incorrect vote index", c)
  else
    let registered : Except String (Chain σ AccountId balanceBits) :=
      if (c.council.lastActiveOf.lookup aux).isNone then
        -- not yet a voter: the bond is the last check that can fail
        match runtime.reserve c.others aux c.council.votingBond with
        | .error message => .error message
        | .ok others => .ok ({ c with others }.withCouncil fun s => { s with voters := s.voters ++ [aux] })
      else .ok c
    match registered with
    | .error message => (.error message, c)
    | .ok c =>
        (.ok (), c.withCouncil fun s =>
          { s with
            approvalsOf := s.approvalsOf.insert aux votes
            lastActiveOf := s.lastActiveOf.insert aux index })

/-- `reap_inactive_voter`: an inactive voter whose approvals are moot is removed
and its bond goes to the reporter; otherwise the reporter is removed and its
bond slashed.  A failed transfer of the bond is returned after the removal. -/
def reapInactiveVoter (aux : AccountId) (signedIndex : BitVec 32) (who : Address)
    (whoIndex : BitVec 32) (assumedVoteIndex : BitVec 32) :
    Except String Unit × Chain σ AccountId balanceBits :=
  match runtime.lookup c.others who with
  | .error message => (.error message, c)
  | .ok who =>
      if c.council.presentationActive then (.error "cannot reap during presentation period", c)
      else if (c.council.lastActiveOf.lookup aux).isNone then (.error "reaper must be a voter", c)
      else
        match c.council.lastActiveOf.lookup who with
        | none => (.error "target for inactivity cleanup must be active", c)
        | some lastActive =>
            if assumedVoteIndex ≠ c.council.voteCount then (.error "vote index not current", c)
            else if ¬lastActive < assumedVoteIndex - c.council.inactiveGracePeriod then
              (.error "cannot reap during grace perid", c)
            else
              let voters := c.council.voters
              let signedIndex := signedIndex.toNat
              let whoIndex := whoIndex.toNat
              if ¬(signedIndex < voters.length ∧ voters[signedIndex]? = some aux) then
                (.error "bad reporter index", c)
              else if ¬(whoIndex < voters.length ∧ voters[whoIndex]? = some who) then
                (.error "bad target index", c)
              else
                -- one of the reporter and the target is removed now
                let valid := c.council.approvalsMoot who lastActive
                let c := c.withCouncil fun s =>
                  s.removeVoter (if valid then who else aux) (if valid then whoIndex else signedIndex)
                    voters
                if valid then
                  match runtime.transferReserved c.others who aux c.council.votingBond with
                  | .error message => (.error message, c)
                  | .ok others => (.ok (), { c with others })
                else
                  (.ok (), { c with others := runtime.slashReserved c.others aux c.council.votingBond })

/-- `retract_voter`: a voter leaves and its bond is returned. -/
def retractVoter (aux : AccountId) (index : BitVec 32) :
    Except String Unit × Chain σ AccountId balanceBits :=
  if c.council.presentationActive then (.error "cannot retract when presenting", c)
  else if (c.council.lastActiveOf.lookup aux).isNone then (.error "cannot retract non-voter", c)
  else
    let voters := c.council.voters
    let index := index.toNat
    if ¬index < voters.length then (.error "retraction index invalid", c)
    else if voters[index]? ≠ some aux then (.error "retraction index mismatch", c)
    else
      let c := c.withCouncil fun s => s.removeVoter aux index voters
      (.ok (), { c with others := runtime.unreserve c.others aux c.council.votingBond })

/-- `submit_candidacy`: a candidate takes a hole of the list or the next slot
after its end, and reserves the candidacy bond. -/
def submitCandidacy (aux : AccountId) (slot : BitVec 32) :
    Except String Unit × Chain σ AccountId balanceBits :=
  if c.council.isACandidate aux then (.error "duplicate candidate submission", c)
  else
    let slotIndex := slot.toNat
    let count := c.council.candidateCount.toNat
    let candidates := c.council.candidates
    if ¬((slotIndex = count ∧ count = candidates.length) ∨
        (slotIndex < candidates.length ∧ candidates[slotIndex]? = some default)) then
      (.error "invalid candidate slot", c)
    else
      match runtime.reserve c.others aux c.council.candidacyBond with
      | .error _ => (.error "candidate has not enough funds", c)
      | .ok others =>
          let candidates :=
            if slotIndex = candidates.length then candidates ++ [aux] else candidates.set slotIndex aux
          (.ok (), { c with others }.withCouncil fun s =>
            { s with
              candidates
              candidateCount := s.candidateCount + 1
              registerInfoOf := s.registerInfoOf.insert aux (s.voteCount, slot) })

/-- `present_winner`: a candidate whose approving stake is presented correctly
replaces the lowest entry of the leaderboard, which is sorted again; a wrong or
duplicate presentation slashes the presenter.  A missing snapshot, or an empty
leaderboard, panics. -/
def presentWinner (aux : AccountId) (candidate : Address) (total : BitVec balanceBits)
    (index : BitVec 32) : Outcome σ AccountId balanceBits :=
  match runtime.lookup c.others candidate with
  | .error message => some (.error message, c)
  | .ok candidate =>
      if index ≠ c.council.voteCount then some (.error "index not current", c)
      else
        match c.council.nextFinalise with
        | none => some (.error "cannot present outside of presentation period", c)
        | some (_, _, expiring) =>
            match c.council.snapshotedStakes with
            | none => none
            | some stakes =>
                let voters := c.council.voters
                let badPresentationPunishment :=
                  c.council.presentSlashPerVoter * BitVec.ofNat balanceBits voters.length
                if !runtime.canSlash c.others aux badPresentationPunishment then
                  some (.error "presenter must have sufficient slashable funds", c)
                else
                  match c.council.leaderboard with
                  | none => some (.error "leaderboard must exist while present phase active", c)
                  | some leaderboard =>
                      match leaderboard.head? with
                      | none => none
                      | some lowest =>
                          if ¬total > lowest.1 then
                            some (.error "candidate not worthy of leaderboard", c)
                          else if ((c.council.activeCouncil.findIdx? fun member =>
                              decide (member.1 = candidate)).map fun p =>
                                decide (p < expiring.length)) = some false then
                            some (.error "candidate must not form a duplicated member if elected", c)
                          else
                            match c.council.registerInfoOf.lookup candidate with
                            | none => some (.error "presented candidate must be current", c)
                            | some (registeredSince, candidateIndex) =>
                                let actualTotal :=
                                  c.council.approvingStake stakes registeredSince candidateIndex
                                let dupe := leaderboard.any fun entry => decide (entry.2 = candidate)
                                if total = actualTotal ∧ !dupe then
                                  -- insert into the leaderboard, kept sorted by stake
                                  let leaderboard := (leaderboard.set 0 (total, candidate)).insertionSort
                                    fun a b => a.1 ≤ b.1
                                  some (.ok (), c.withCouncil fun s => { s with leaderboard := some leaderboard })
                                else
                                  some (.error (if dupe then "duplicate presentation" else "incorrect total"),
                                    { c with others := runtime.slash c.others aux badPresentationPunishment })

/-- `set_desired_seats`. -/
def setDesiredSeats (count : BitVec 32) : Except String Unit × Chain σ AccountId balanceBits :=
  (.ok (), c.withCouncil fun s => { s with desiredSeats := count })

/-- `remove_member`: the member leaves the council at once. -/
def removeMember (who : Address) : Except String Unit × Chain σ AccountId balanceBits :=
  match runtime.lookup c.others who with
  | .error message => (.error message, c)
  | .ok who =>
      (.ok (), c.withCouncil fun s =>
        { s with activeCouncil := s.activeCouncil.filter fun member => decide (member.1 ≠ who) })

/-- `set_presentation_duration`. -/
def setPresentationDuration (count : Nat) : Except String Unit × Chain σ AccountId balanceBits :=
  (.ok (), c.withCouncil fun s => { s with presentationDuration := count })

/-- `set_term_duration`. -/
def setTermDuration (count : Nat) : Except String Unit × Chain σ AccountId balanceBits :=
  (.ok (), c.withCouncil fun s => { s with termDuration := count })

end Chain

end Council
end Polkadot
