import Polkadot.Staking.Nominations

/-!
# Session rotation

`runtime/session/src/lib.rs`, the session change of `runtime/staking/src/lib.rs`
and `timestamp::set`.  At the end of each block, `check_rotate_session` rotates
the session when its last block is reached or when validation runs late.
`rotate_session` enacts a session length set by `set_length`, and staking's
`new_session` rewards or slashes the validators and starts a new era when the
era's sessions are over.

Block numbers and moments are naturals.  A subtraction that would underflow and
a division or remainder by zero are faults (`none`).  Balances are words of
`balanceBits` bits, as in staking.
-/

namespace Polkadot

namespace Staking.EraStorage

variable {AccountId : Type} [DecidableEq AccountId] {balanceBits indexBits : Nat}
variable (s : EraStorage AccountId balanceBits indexBits)

/-- `current_nominators_for`: an absent entry reads empty. -/
def currentNominatorsForOf (validator : AccountId) : List AccountId :=
  (s.currentNominatorsFor.lookup validator).getD []

/-- The reward of one validator in a normal session change: its nominators and
then the validator get their share of `reward`, in proportion to their voting
balances. -/
def rewardValidator (reward : BitVec balanceBits) (validator : AccountId) :
    EraStorage AccountId balanceBits indexBits :=
  let noms := s.currentNominatorsForOf validator
  let total := noms.foldl (fun total nominator => total + s.votingBalance nominator)
    (s.votingBalance validator)
  if total = 0 then s
  else
    let safeMulRational := fun b => b * reward / total
    let s := noms.foldl (fun (s : EraStorage AccountId balanceBits indexBits) nominator =>
      { s with toStorage := (s.toStorage.reward nominator (safeMulRational (s.votingBalance nominator))).2 })
      s
    { s with toStorage := (s.toStorage.reward validator (safeMulRational (s.votingBalance validator))).2 }

/-- The slash of one validator in an abnormal session change: what the
validator's balances do not cover is slashed from its nominators, in proportion
to their voting balances. -/
def slashValidator (earlyEraSlash : BitVec balanceBits) (validator : AccountId) :
    EraStorage AccountId balanceBits indexBits :=
  let slashed := s.toStorage.slash validator earlyEraSlash
  let s := { s with toStorage := slashed.2 }
  match slashed.1 with
  | none => s
  | some rem =>
      let noms := s.currentNominatorsForOf validator
      let total := noms.foldl (fun total nominator => total + s.votingBalance nominator) 0
      if total = 0 then s
      else
        let safeMulRational := fun b => b * rem / total
        noms.foldl (fun (s : EraStorage AccountId balanceBits indexBits) nominator =>
          { s with toStorage := (s.toStorage.slash nominator (safeMulRational (s.votingBalance nominator))).2 })
          s

end Staking.EraStorage

namespace Session

open Foundations

/-- The storage that a session change reads and writes: staking's era storage,
which holds `system`'s block number and session's `Validators` and
`CurrentIndex`; the session reward and early-era slash of staking; the items of
session; and those of timestamp. -/
structure Chain (AccountId : Type) (balanceBits indexBits : Nat) where
  staking : Staking.EraStorage AccountId balanceBits indexBits
  sessionReward : BitVec balanceBits
  earlyEraSlash : BitVec balanceBits
  sessionLength : Nat
  nextSessionLength : Option Nat
  lastLengthChange : Option Nat
  currentStart : Nat
  brokenPercentLate : Nat
  now : Nat
  blockPeriod : Nat
  didUpdate : Bool

/-- The genesis of staking, session and timestamp. -/
structure GenesisConfig (AccountId : Type) (balanceBits : Nat) where
  staking : Staking.EraGenesisConfig AccountId balanceBits
  sessionReward : BitVec balanceBits
  earlyEraSlash : BitVec balanceBits
  sessionLength : Nat
  brokenPercentLate : Nat
  period : Nat

/-- `build_storage` of the three modules: no length change yet, the session
started at time 0, and the time not set. -/
def GenesisConfig.buildStorage {AccountId : Type} [DecidableEq AccountId] {balanceBits : Nat}
    (indexBits : Nat) (config : GenesisConfig AccountId balanceBits) : Chain AccountId balanceBits indexBits where
  staking := config.staking.buildStorage indexBits
  sessionReward := config.sessionReward
  earlyEraSlash := config.earlyEraSlash
  sessionLength := config.sessionLength
  nextSessionLength := none
  lastLengthChange := none
  currentStart := 0
  brokenPercentLate := config.brokenPercentLate
  now := 0
  blockPeriod := config.period
  didUpdate := false

/-- The privileged calls of session and staking. -/
inductive PrivCall where
  | setLength (new : Nat)
  | forceNewSession (normalRotation : Bool)
  | setSessionsPerEra (new : Nat)
  | setBondingDuration (new : Nat)
  | setValidatorCount (new : BitVec 32)
  | forceNewEra

namespace Chain

variable {AccountId : Type} [DecidableEq AccountId] {balanceBits indexBits : Nat}
variable (c : Chain AccountId balanceBits indexBits)

/-- `last_length_change`: zero if there was none. -/
def lastLengthChangeOr : Nat := c.lastLengthChange.getD 0

/-- `ideal_session_duration`. -/
def idealSessionDuration : Nat := c.sessionLength * c.blockPeriod

/-- `blocks_remaining`: the blocks of this session after this one. -/
def blocksRemaining : Option Nat := do
  let length := c.sessionLength
  let lengthMinus1 ← checkedSub length 1
  let sinceChange ← checkedSub c.staking.blockNumber c.lastLengthChangeOr
  let position ← checkedRem (sinceChange + lengthMinus1) length
  checkedSub lengthMinus1 position

/-- `broken_validation`: the session would end later than its ideal duration
by more than the percentage allowed. -/
def brokenValidation : Option Bool := do
  let blocksRemaining ← c.blocksRemaining
  pure (decide (c.now + blocksRemaining * c.blockPeriod >
    c.currentStart + c.idealSessionDuration * (100 + c.brokenPercentLate) / 100))

/-- Staking's `new_session`: a normal rotation rewards the validators by how
close the session came to its ideal duration, an abnormal one slashes them, and
either starts a new era when the era's sessions are over or the rotation was
abnormal. -/
def newSession (normalRotation : Bool) (actualElapsed : Nat) : Option (Chain AccountId balanceBits indexBits) := do
  let sessionIndex := c.staking.sessionIndex
  let c ← if normalRotation then do
      let idealElapsed := c.idealSessionDuration
      let per65536 ← checkedDiv (65536 * idealElapsed) (max actualElapsed idealElapsed)
      let reward ← divChecked (c.sessionReward * BitVec.ofNat balanceBits per65536)
        (BitVec.ofNat balanceBits 65536)
      pure { c with staking := c.staking.validators.foldl (fun s v => s.rewardValidator reward v) c.staking }
    else
      pure { c with
        staking := c.staking.validators.foldl (fun s v => s.slashValidator c.earlyEraSlash v) c.staking }
  let sinceChange ← checkedSub sessionIndex c.staking.lastEraLengthChange
  let position ← checkedRem sinceChange c.staking.sessionsPerEra
  pure (if position = 0 ∨ !normalRotation then { c with staking := c.staking.newEra } else c)

/-- `rotate_session`: the session index advances, the session starts now, a
new session length takes effect, and staking's `new_session` runs with the time
the session took. -/
def rotateSession (normalRotation : Bool) : Option (Chain AccountId balanceBits indexBits) := do
  let now := c.now
  let timeElapsed ← checkedSub now c.currentStart
  let c := { c with
    staking := { c.staking with sessionIndex := c.staking.sessionIndex + 1 }
    currentStart := now }
  let c := match c.nextSessionLength with
    | some nextLen =>
        { c with
          sessionLength := nextLen
          lastLengthChange := some c.staking.blockNumber
          nextSessionLength := none }
    | none => c
  c.newSession normalRotation timeElapsed

/-- `check_rotate_session`: at the last block of a session, or when validation
is broken, the session rotates, normally only in the first case. -/
def checkRotateSession : Option (Chain AccountId balanceBits indexBits) := do
  let sinceChange ← checkedSub c.staking.blockNumber c.lastLengthChangeOr
  let isFinalBlock := (← checkedRem sinceChange c.sessionLength) = 0
  let brokenValidation ← c.brokenValidation
  if isFinalBlock ∨ brokenValidation then c.rotateSession !brokenValidation else pure c

/-- A privileged call. -/
def dispatch : PrivCall → Option (Chain AccountId balanceBits indexBits)
  | .setLength new => some { c with nextSessionLength := some new }
  | .forceNewSession normalRotation => c.rotateSession normalRotation
  | .setSessionsPerEra new => some { c with staking := { c.staking with nextSessionsPerEra := some new } }
  | .setBondingDuration new => some { c with staking := { c.staking with bondingDuration := new } }
  | .setValidatorCount new => some { c with staking := { c.staking with validatorCount := new } }
  | .forceNewEra => c.rotateSession false

/-- The assertions of `timestamp::set` on the time of a block: the time is set
once per block, and at least a block period after the last time, if that was
set. -/
def TimestampPasses (now : Nat) : Prop :=
  c.didUpdate = false ∧ (c.now = 0 ∨ c.now + c.blockPeriod ≤ now)

/-- Whether a timestamp passes the check can be decided. -/
instance (now : Nat) : Decidable (c.TimestampPasses now) :=
  inferInstanceAs (Decidable (_ ∧ _))

/-- The block numbered `number`: `initialise_block` stores its number,
`timestamp::set` is its first extrinsic, the privileged calls follow, and at
its end session checks for a rotation and timestamp takes `DidUpdate`. -/
def runBlock (number now : Nat) (calls : List PrivCall) : Option (Chain AccountId balanceBits indexBits) := do
  let c := { c with
    staking := { c.staking with blockNumber := number }
    now
    didUpdate := true }
  let c ← calls.foldlM (fun c call => c.dispatch call) c
  let c ← c.checkRotateSession
  pure { c with didUpdate := false }

end Chain

/-- The states that blocks `1` to `number` reach from the genesis of
`config`, each block's time passing `timestamp::set` and its privileged calls
allowed by `allowed`. -/
inductive Reachable {AccountId : Type} [DecidableEq AccountId] {balanceBits : Nat} (indexBits : Nat)
    (config : GenesisConfig AccountId balanceBits) (allowed : PrivCall → Prop) :
    Nat → Chain AccountId balanceBits indexBits → Prop
  | genesis : Reachable indexBits config allowed 0 (config.buildStorage indexBits)
  | block {number : Nat} {c c' : Chain AccountId balanceBits indexBits} (now : Nat) (calls : List PrivCall) :
      Reachable indexBits config allowed number c → c.TimestampPasses now → (∀ call ∈ calls, allowed call) →
        c.runBlock (number + 1) now calls = some c' → Reachable indexBits config allowed (number + 1) c'

end Session
end Polkadot
