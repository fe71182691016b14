import Polkadot.Session.Rotation

/-!
# Totality of session rotation

The rotation arithmetic has an invariant, `Chain.Sound`. It says the session
length and the block period are positive, the number of sessions per era is
positive now and next, and the last length changes come no later than the
block number and the session index. Where it holds, every block whose time
passes `timestamp::set` completes (`Sound.runBlock`). No block then takes a
remainder or quotient by zero, or subtracts below zero, in
`check_rotate_session`, `blocks_remaining`, `broken_validation`,
`rotate_session` or staking's `new_session`. Privileged calls that set positive
lengths keep the invariant, so it holds of every state they reach
(`Reachable.sound`).

The privileged calls do not check the values they are given. `set_length(0)`
takes effect at the next rotation, and the block after it takes a remainder by
zero (`runBlock_of_sessionLength_zero`). `set_sessions_per_era(0)` takes effect
at the next era, and the session change after it does the same
(`newSession_of_sessionsPerEra_zero`).
-/

namespace Polkadot

open Foundations

namespace Staking

namespace Storage

variable {AccountId : Type} [DecidableEq AccountId] {balanceBits indexBits : Nat}
variable (s : Storage AccountId balanceBits indexBits) (who : AccountId) (value : BitVec balanceBits)

/-! ## Balance changes keep the block number -/

/-- `on_free_too_low` keeps the block number. -/
@[simp] theorem blockNumber_onFreeTooLow : (s.onFreeTooLow who).blockNumber = s.blockNumber := by
  unfold onFreeTooLow
  dsimp only
  split <;> rfl

/-- `on_reserved_too_low` keeps the block number. -/
@[simp] theorem blockNumber_onReservedTooLow :
    (s.onReservedTooLow who).blockNumber = s.blockNumber := by
  unfold onReservedTooLow
  dsimp only
  split <;> rfl

/-- `set_free_balance` keeps the block number. -/
@[simp] theorem blockNumber_setFreeBalance :
    (s.setFreeBalance who value).2.blockNumber = s.blockNumber := by
  unfold setFreeBalance
  split <;> simp

/-- `set_reserved_balance` keeps the block number. -/
@[simp] theorem blockNumber_setReservedBalance :
    (s.setReservedBalance who value).2.blockNumber = s.blockNumber := by
  unfold setReservedBalance
  split <;> simp

/-- `slash_reserved` keeps the block number. -/
@[simp] theorem blockNumber_slashReserved :
    (s.slashReserved who value).2.blockNumber = s.blockNumber := by
  simp [slashReserved]

/-- `slash` keeps the block number. -/
@[simp] theorem blockNumber_slash : (s.slash who value).2.blockNumber = s.blockNumber := by
  unfold slash
  dsimp only
  split_ifs <;> simp

/-- `reward` keeps the block number. -/
@[simp] theorem blockNumber_reward : (s.reward who value).2.blockNumber = s.blockNumber := by
  unfold reward
  split <;> simp

end Storage

namespace EraStorage

variable {AccountId : Type} {balanceBits indexBits : Nat}

/-! ## Rewards and slashes change the balances only -/

/-- `after` differs from `before` in the balances only: the rest of staking
and session, and the block number, are as they were. -/
def BalancesOnly (before after : EraStorage AccountId balanceBits indexBits) : Prop :=
  ∃ storage : Storage AccountId balanceBits indexBits,
    storage.blockNumber = before.blockNumber ∧ after = { before with toStorage := storage }

/-- A storage differs from itself only in balances. -/
theorem BalancesOnly.refl (s : EraStorage AccountId balanceBits indexBits) : BalancesOnly s s :=
  ⟨s.toStorage, rfl, rfl⟩

/-- Changes only in balances compose. -/
theorem BalancesOnly.trans {s middle after : EraStorage AccountId balanceBits indexBits}
    (first : BalancesOnly s middle) (second : BalancesOnly middle after) : BalancesOnly s after := by
  obtain ⟨storage, kept, rfl⟩ := first
  obtain ⟨storage', kept', rfl⟩ := second
  exact ⟨storage', kept'.trans kept, rfl⟩

/-- New staking storage with the same block number differs only in balances. -/
theorem balancesOnly_withStorage (s : EraStorage AccountId balanceBits indexBits)
    {storage : Storage AccountId balanceBits indexBits} (kept : storage.blockNumber = s.blockNumber) :
    BalancesOnly s { s with toStorage := storage } :=
  ⟨storage, kept, rfl⟩

/-- A fold of steps that change the balances only changes the balances only. -/
theorem balancesOnly_foldl {α : Type}
    {step : EraStorage AccountId balanceBits indexBits → α → EraStorage AccountId balanceBits indexBits}
    (balances : ∀ s a, BalancesOnly s (step s a)) (items : List α)
    (s : EraStorage AccountId balanceBits indexBits) : BalancesOnly s (items.foldl step s) := by
  induction items generalizing s with
  | nil => exact .refl s
  | cons a items ih => exact (balances s a).trans (ih (step s a))

variable (s : EraStorage AccountId balanceBits indexBits)

/-! ## The era items stay usable -/

/-- The era items that the session change divides by and subtracts: the
number of sessions per era is positive, now and next, and the last era length
change is not after the current session. -/
structure Sound : Prop where
  sessionsPerEra_pos : 0 < s.sessionsPerEra
  nextSessionsPerEra_pos : ∀ next, s.nextSessionsPerEra = some next → 0 < next
  lastEraLengthChange_le : s.lastEraLengthChange ≤ s.sessionIndex

/-- Changes only in balances keep the storage sound. -/
theorem BalancesOnly.sound {s s' : EraStorage AccountId balanceBits indexBits}
    (balances : BalancesOnly s s') (sound : s.Sound) : s'.Sound := by
  obtain ⟨_, _, rfl⟩ := balances
  exact ⟨sound.sessionsPerEra_pos, sound.nextSessionsPerEra_pos, sound.lastEraLengthChange_le⟩

/-- The era length change either keeps the storage or enacts the next number
of sessions per era, from the current session on. -/
theorem enactEraLengthChange_cases :
    s.enactEraLengthChange = s ∨ ∃ next, s.nextSessionsPerEra = some next ∧
      s.enactEraLengthChange = { s with sessionsPerEra := next, lastEraLengthChange := s.sessionIndex } := by
  unfold enactEraLengthChange
  split
  · rename_i next nextEq
    split_ifs
    · exact .inr ⟨next, nextEq, rfl⟩
    · exact .inl rfl
  · exact .inl rfl

/-- Enacting an era length change keeps the block number. -/
@[simp] theorem blockNumber_enactEraLengthChange :
    s.enactEraLengthChange.blockNumber = s.blockNumber := by
  rcases s.enactEraLengthChange_cases with same | ⟨_, _, enacted⟩
  · rw [same]
  · rw [enacted]

/-- Enacting an era length change keeps the session index. -/
@[simp] theorem sessionIndex_enactEraLengthChange :
    s.enactEraLengthChange.sessionIndex = s.sessionIndex := by
  rcases s.enactEraLengthChange_cases with same | ⟨_, _, enacted⟩
  · rw [same]
  · rw [enacted]

/-- Enacting an era length change takes the next sessions per era. -/
theorem sessionsPerEra_enactEraLengthChange {next : Nat} (nextEq : s.nextSessionsPerEra = some next) :
    s.enactEraLengthChange.sessionsPerEra = next := by
  unfold enactEraLengthChange
  rw [nextEq]
  dsimp only
  split_ifs with differs
  · rfl
  · exact (not_not.mp differs).symm

/-- Enacting an era length change keeps the storage sound. -/
theorem Sound.enactEraLengthChange {s : EraStorage AccountId balanceBits indexBits} (sound : s.Sound) :
    s.enactEraLengthChange.Sound := by
  rcases s.enactEraLengthChange_cases with same | ⟨next, nextEq, enacted⟩
  · rw [same]
    exact sound
  · rw [enacted]
    exact ⟨sound.nextSessionsPerEra_pos next nextEq, sound.nextSessionsPerEra_pos, le_rfl⟩

section Balances

variable [DecidableEq AccountId]

/-- Rewarding a validator changes only balances. -/
theorem balancesOnly_rewardValidator (reward : BitVec balanceBits) (validator : AccountId) :
    BalancesOnly s (s.rewardValidator reward validator) := by
  unfold rewardValidator
  dsimp only
  split
  · exact .refl s
  · -- the nominators are rewarded one by one, and then the validator
    exact (balancesOnly_foldl (fun s _ => balancesOnly_withStorage s (by simp)) _ s).trans
      (balancesOnly_withStorage _ (by simp))

/-- Slashing a validator changes only balances. -/
theorem balancesOnly_slashValidator (earlyEraSlash : BitVec balanceBits) (validator : AccountId) :
    BalancesOnly s (s.slashValidator earlyEraSlash validator) := by
  have slashed := balancesOnly_withStorage s (s.toStorage.blockNumber_slash validator earlyEraSlash)
  unfold slashValidator
  dsimp only
  split
  · exact slashed
  · split
    · exact slashed
    · -- what the validator's balances did not cover is slashed from its nominators
      exact slashed.trans (balancesOnly_foldl (fun s _ => balancesOnly_withStorage s (by simp)) _ _)

-- `new_era` changes the era items only through the era length change
/-- A new era keeps the block number. -/
@[simp] theorem blockNumber_newEra : s.newEra.blockNumber = s.blockNumber :=
  blockNumber_enactEraLengthChange _

/-- A new era keeps the session index. -/
@[simp] theorem sessionIndex_newEra : s.newEra.sessionIndex = s.sessionIndex :=
  sessionIndex_enactEraLengthChange _

/-- A new era takes the next sessions per era. -/
theorem sessionsPerEra_newEra {next : Nat} (nextEq : s.nextSessionsPerEra = some next) :
    s.newEra.sessionsPerEra = next :=
  sessionsPerEra_enactEraLengthChange _ nextEq

/-- A new era keeps the storage sound. -/
theorem Sound.newEra {s : EraStorage AccountId balanceBits indexBits} (sound : s.Sound) :
    s.newEra.Sound := by
  have enacted := Sound.enactEraLengthChange (s := { s with currentEra := s.currentEra + 1 })
    ⟨sound.sessionsPerEra_pos, sound.nextSessionsPerEra_pos, sound.lastEraLengthChange_le⟩
  exact ⟨enacted.sessionsPerEra_pos, enacted.nextSessionsPerEra_pos, enacted.lastEraLengthChange_le⟩

end Balances

end EraStorage

end Staking

namespace Session

/-- A privileged call that sets a session length or a number of sessions per
era sets a positive one. -/
def PrivCall.Positive : PrivCall → Prop
  | .setLength new => 0 < new
  | .setSessionsPerEra new => 0 < new
  | _ => True

/-- Whether a call's values are positive can be decided. -/
instance : DecidablePred PrivCall.Positive := fun call =>
  match call with
  | .setLength new => inferInstanceAs (Decidable (0 < new))
  | .setSessionsPerEra new => inferInstanceAs (Decidable (0 < new))
  | .forceNewSession _ | .setBondingDuration _ | .setValidatorCount _ | .forceNewEra => isTrue trivial

namespace Chain

variable {AccountId : Type} {balanceBits indexBits : Nat}

/-- The invariant of the rotation arithmetic: the session length and the block
period are positive, a next session length too, the last length change is not
after the current block, the session did not start after the current time, and
the era items are sound. -/
structure Sound (c : Chain AccountId balanceBits indexBits) : Prop where
  sessionLength_pos : 0 < c.sessionLength
  nextSessionLength_pos : ∀ next, c.nextSessionLength = some next → 0 < next
  blockPeriod_pos : 0 < c.blockPeriod
  lastLengthChange_le : c.lastLengthChangeOr ≤ c.staking.blockNumber
  currentStart_le : c.currentStart ≤ c.now
  staking : c.staking.Sound

variable {c : Chain AccountId balanceBits indexBits}

/-! ## One lemma for each function of the rotation -/

/-- In a sound chain the blocks remaining in the session are counted from the last length change. -/
theorem Sound.blocksRemaining_eq (sound : c.Sound) :
    c.blocksRemaining = some (c.sessionLength - 1 -
      (c.staking.blockNumber - c.lastLengthChangeOr + (c.sessionLength - 1)) % c.sessionLength) := by
  have position_le : (c.staking.blockNumber - c.lastLengthChangeOr + (c.sessionLength - 1)) %
      c.sessionLength ≤ c.sessionLength - 1 :=
    Nat.le_sub_one_of_lt (Nat.mod_lt _ sound.sessionLength_pos)
  have lengthPos : 1 ≤ c.sessionLength := sound.sessionLength_pos
  unfold blocksRemaining
  dsimp only
  rw [checkedSub_of_le lengthPos, checkedSub_of_le sound.lastLengthChange_le]
  simp only [Option.bind_eq_bind, Option.bind_some]
  rw [checkedRem_of_pos _ sound.sessionLength_pos]
  exact checkedSub_of_le position_le

/-- In a sound chain the broken validation is always computed. -/
theorem Sound.brokenValidation_isSome (sound : c.Sound) : ∃ broken, c.brokenValidation = some broken := by
  unfold brokenValidation
  rw [sound.blocksRemaining_eq]
  exact ⟨_, rfl⟩

/-- A chain whose staking changed the balances only, or also started a new
era, is still sound. -/
theorem Sound.withStaking (sound : c.Sound) {staking : Staking.EraStorage AccountId balanceBits indexBits}
    (kept : staking.blockNumber = c.staking.blockNumber) (stakingSound : staking.Sound) :
    Sound { c with staking } :=
  ⟨sound.sessionLength_pos, sound.nextSessionLength_pos, sound.blockPeriod_pos,
    kept ▸ sound.lastLengthChange_le, sound.currentStart_le, stakingSound⟩

variable [DecidableEq AccountId]

/-- A new session of a sound chain over balances wider than 16 bits does not panic, keeps the chain
sound and keeps the block number. -/
theorem Sound.newSession (sound : c.Sound) (wide : 16 < balanceBits) (normalRotation : Bool)
    (actualElapsed : Nat) :
    ∃ c', c.newSession normalRotation actualElapsed = some c' ∧ c'.Sound ∧
      c'.staking.blockNumber = c.staking.blockNumber := by
  -- after the rewards or the slashes, the era check passes in the same way
  have eraCheck : ∀ staking : Staking.EraStorage AccountId balanceBits indexBits,
      c.staking.BalancesOnly staking → ∃ c', (do
        let sinceChange ← checkedSub c.staking.sessionIndex staking.lastEraLengthChange
        let position ← checkedRem sinceChange staking.sessionsPerEra
        pure (if position = 0 ∨ !normalRotation then { c with staking := staking.newEra }
          else { c with staking })) = some c' ∧ c'.Sound ∧
          c'.staking.blockNumber = c.staking.blockNumber := by
    rintro _ ⟨storage, kept, rfl⟩
    rw [checkedSub_of_le sound.staking.lastEraLengthChange_le]
    simp only [Option.bind_eq_bind, Option.bind_some]
    rw [checkedRem_of_pos _ sound.staking.sessionsPerEra_pos]
    refine ⟨_, rfl, ?_⟩
    have stakingSound := (Staking.EraStorage.balancesOnly_withStorage c.staking kept).sound sound.staking
    have keptNewEra : ({ c.staking with toStorage := storage }).newEra.blockNumber =
        c.staking.blockNumber := by simpa using kept
    split
    · exact ⟨sound.withStaking keptNewEra stakingSound.newEra, keptNewEra⟩
    · exact ⟨sound.withStaking kept stakingSound, kept⟩
  unfold Chain.newSession
  dsimp only
  cases normalRotation with
  | false =>
      exact eraCheck _ (Staking.EraStorage.balancesOnly_foldl
        (fun s v => s.balancesOnly_slashValidator c.earlyEraSlash v) _ _)
  | true =>
      -- the ideal duration is positive, and so is the 65536 of a balance wider than 16 bits
      have idealPos : 0 < max actualElapsed c.idealSessionDuration :=
        lt_max_of_lt_right (Nat.mul_pos sound.sessionLength_pos sound.blockPeriod_pos)
      have divisor : BitVec.ofNat balanceBits 65536 ≠ 0 := by
        have fits : 65536 < 2 ^ balanceBits :=
          lt_of_lt_of_le (by decide : 65536 < 2 ^ 17) (Nat.pow_le_pow_right (by decide) wide)
        intro zero
        have := congrArg BitVec.toNat zero
        rw [BitVec.toNat_ofNat, Nat.mod_eq_of_lt fits] at this
        simp at this
      rw [checkedDiv_of_pos _ idealPos]
      simp only [Option.bind_eq_bind, Option.bind_some]
      rw [divChecked_of_ne divisor]
      exact eraCheck _ (Staking.EraStorage.balancesOnly_foldl
        (fun s v => s.balancesOnly_rewardValidator _ v) _ _)

/-- Rotating the session of a sound chain does not panic, keeps it sound and keeps the block number.
-/
theorem Sound.rotateSession (sound : c.Sound) (wide : 16 < balanceBits) (normalRotation : Bool) :
    ∃ c', c.rotateSession normalRotation = some c' ∧ c'.Sound ∧
      c'.staking.blockNumber = c.staking.blockNumber := by
  have eraSound : Staking.EraStorage.Sound
      { c.staking with sessionIndex := c.staking.sessionIndex + 1 } :=
    ⟨sound.staking.sessionsPerEra_pos, sound.staking.nextSessionsPerEra_pos,
      Nat.le_succ_of_le sound.staking.lastEraLengthChange_le⟩
  unfold Chain.rotateSession
  dsimp only
  rw [checkedSub_of_le sound.currentStart_le]
  simp only [Option.bind_eq_bind, Option.bind_some]
  split
  · -- the next session length takes effect from this block on
    rename_i next nextEq
    refine Sound.newSession ?_ wide _ _
    exact ⟨sound.nextSessionLength_pos next nextEq, by simp, sound.blockPeriod_pos,
      by simp [lastLengthChangeOr], le_rfl, eraSound⟩
  · refine Sound.newSession ?_ wide _ _
    exact ⟨sound.sessionLength_pos, sound.nextSessionLength_pos, sound.blockPeriod_pos,
      sound.lastLengthChange_le, le_rfl, eraSound⟩

/-- `check_rotate_session` of a sound chain does not panic, keeps it sound and keeps the block
number. -/
theorem Sound.checkRotateSession (sound : c.Sound) (wide : 16 < balanceBits) :
    ∃ c', c.checkRotateSession = some c' ∧ c'.Sound ∧
      c'.staking.blockNumber = c.staking.blockNumber := by
  obtain ⟨broken, brokenEq⟩ := sound.brokenValidation_isSome
  unfold Chain.checkRotateSession
  dsimp only
  rw [checkedSub_of_le sound.lastLengthChange_le]
  simp only [Option.bind_eq_bind, Option.bind_some]
  rw [checkedRem_of_pos _ sound.sessionLength_pos]
  simp only [Option.bind_some, brokenEq]
  split
  · exact sound.rotateSession wide _
  · exact ⟨c, rfl, sound, rfl⟩

/-- A call with positive values on a sound chain does not panic, keeps it sound and keeps the block
number. -/
theorem Sound.dispatch (sound : c.Sound) (wide : 16 < balanceBits) {call : PrivCall}
    (positive : call.Positive) :
    ∃ c', c.dispatch call = some c' ∧ c'.Sound ∧ c'.staking.blockNumber = c.staking.blockNumber := by
  -- the calls that only store a value keep the era items as they were
  have eraKept := sound.staking
  cases call with
  | setLength new =>
      refine ⟨_, rfl, ⟨sound.sessionLength_pos, ?_, sound.blockPeriod_pos,
        sound.lastLengthChange_le, sound.currentStart_le, sound.staking⟩, rfl⟩
      rintro next ⟨⟩
      exact positive
  | forceNewSession normalRotation => exact sound.rotateSession wide normalRotation
  | setSessionsPerEra new =>
      refine ⟨_, rfl, sound.withStaking rfl ⟨eraKept.sessionsPerEra_pos, ?_,
        eraKept.lastEraLengthChange_le⟩, rfl⟩
      rintro next ⟨⟩
      exact positive
  | setBondingDuration new =>
      exact ⟨_, rfl, sound.withStaking rfl ⟨eraKept.sessionsPerEra_pos,
        eraKept.nextSessionsPerEra_pos, eraKept.lastEraLengthChange_le⟩, rfl⟩
  | setValidatorCount new =>
      exact ⟨_, rfl, sound.withStaking rfl ⟨eraKept.sessionsPerEra_pos,
        eraKept.nextSessionsPerEra_pos, eraKept.lastEraLengthChange_le⟩, rfl⟩
  | forceNewEra => exact sound.rotateSession wide false

/-- Calls with positive values, one after the other, do not panic, keep the chain sound and keep the
block number. -/
theorem Sound.foldlM_dispatch (wide : 16 < balanceBits) (calls : List PrivCall)
    (positive : ∀ call ∈ calls, call.Positive) (sound : c.Sound) :
    ∃ c', calls.foldlM (fun c call => c.dispatch call) c = some c' ∧ c'.Sound ∧
      c'.staking.blockNumber = c.staking.blockNumber := by
  induction calls generalizing c with
  | nil => exact ⟨c, rfl, sound, rfl⟩
  | cons call calls ih =>
      obtain ⟨dispatched, dispatchedEq, dispatchedSound, dispatchedKept⟩ :=
        sound.dispatch wide (positive call List.mem_cons_self)
      rw [List.foldlM_cons, dispatchedEq]
      obtain ⟨called, calledEq, calledSound, calledKept⟩ :=
        ih (fun call member => positive call (List.mem_cons_of_mem _ member)) dispatchedSound
      exact ⟨called, calledEq, calledSound, calledKept.trans dispatchedKept⟩

/-- Where the invariant holds, a block numbered no lower than the last, whose
time passes `timestamp::set` and whose privileged calls set positive lengths,
completes and keeps the invariant. -/
theorem Sound.runBlock (sound : c.Sound) (wide : 16 < balanceBits) {number now : Nat}
    {calls : List PrivCall} (numbered : c.staking.blockNumber ≤ number) (passes : c.TimestampPasses now)
    (positive : ∀ call ∈ calls, call.Positive) :
    ∃ c', c.runBlock number now calls = some c' ∧ c'.Sound ∧ c'.staking.blockNumber = number := by
  -- the time only grows, so the session did not start after it
  have startBefore : c.currentStart ≤ now := by
    have := sound.currentStart_le
    rcases passes.2 with unset | later <;> omega
  have begun : Sound { c with
      staking := { c.staking with blockNumber := number }
      now
      didUpdate := true } :=
    ⟨sound.sessionLength_pos, sound.nextSessionLength_pos, sound.blockPeriod_pos,
      sound.lastLengthChange_le.trans numbered, startBefore,
      ⟨sound.staking.sessionsPerEra_pos, sound.staking.nextSessionsPerEra_pos,
        sound.staking.lastEraLengthChange_le⟩⟩
  obtain ⟨called, calledEq, calledSound, calledKept⟩ := Sound.foldlM_dispatch wide calls positive begun
  obtain ⟨rotated, rotatedEq, rotatedSound, rotatedKept⟩ := calledSound.checkRotateSession wide
  unfold Chain.runBlock
  dsimp only
  simp only [Option.bind_eq_bind, calledEq, Option.bind_some, rotatedEq]
  exact ⟨_, rfl, ⟨rotatedSound.sessionLength_pos, rotatedSound.nextSessionLength_pos,
    rotatedSound.blockPeriod_pos, rotatedSound.lastLengthChange_le, rotatedSound.currentStart_le,
    rotatedSound.staking⟩, rotatedKept.trans calledKept⟩

end Chain

/-- The genesis storage of positive lengths and period is sound. -/
theorem GenesisConfig.sound_buildStorage {AccountId : Type} [DecidableEq AccountId] {balanceBits : Nat}
    (indexBits : Nat) (config : GenesisConfig AccountId balanceBits)
    (lengthPos : 0 < config.sessionLength) (perEraPos : 0 < config.staking.sessionsPerEra)
    (periodPos : 0 < config.period) : (config.buildStorage indexBits).Sound :=
  ⟨lengthPos, by simp [buildStorage], periodPos, Nat.zero_le _, le_rfl,
    ⟨perEraPos, by simp [buildStorage, Staking.EraGenesisConfig.buildStorage], le_rfl⟩⟩

section Reachable

variable {AccountId : Type} [DecidableEq AccountId] {balanceBits indexBits : Nat}
  {config : GenesisConfig AccountId balanceBits}

/-- Every state reached from a genesis with positive lengths, by blocks whose
privileged calls set positive lengths, is sound; its block number is that of
the last block, or the genesis's 1. -/
theorem Reachable.sound (wide : 16 < balanceBits) (lengthPos : 0 < config.sessionLength)
    (perEraPos : 0 < config.staking.sessionsPerEra) (periodPos : 0 < config.period)
    {number : Nat} {c : Chain AccountId balanceBits indexBits}
    (reachable : Reachable indexBits config PrivCall.Positive number c) :
    c.Sound ∧ c.staking.blockNumber ≤ number + 1 := by
  induction reachable with
  | genesis => exact ⟨config.sound_buildStorage indexBits lengthPos perEraPos periodPos, le_rfl⟩
  | block now calls _ passes positive ran sound =>
      obtain ⟨_, ran', sound', numbered⟩ :=
        sound.1.runBlock wide sound.2 passes positive
      rw [ran] at ran'
      cases ran'
      exact ⟨sound', by omega⟩

end Reachable

namespace Chain

variable {AccountId : Type} [DecidableEq AccountId] {balanceBits indexBits : Nat}
  {c : Chain AccountId balanceBits indexBits}

/-! ## Zero lengths -/

/-- The session change changes staking only. -/
theorem newSession_eq_some {normalRotation : Bool} {actualElapsed : Nat}
    {c' : Chain AccountId balanceBits indexBits}
    (changed : c.newSession normalRotation actualElapsed = some c') :
    ∃ staking, c' = { c with staking } := by
  unfold Chain.newSession at changed
  cases normalRotation with
  | false =>
      simp only [Option.bind_eq_bind, Option.pure_def, reduceIte, Bool.false_eq_true, Option.bind_some,
        Option.bind_eq_some_iff, Option.some.injEq] at changed
      obtain ⟨_, _, _, _, rfl⟩ := changed
      split <;> exact ⟨_, rfl⟩
  | true =>
      simp only [Option.bind_eq_bind, Option.pure_def, reduceIte, Option.bind_some,
        Option.bind_eq_some_iff, Option.some.injEq] at changed
      obtain ⟨_, _, _, _, _, _, _, _, rfl⟩ := changed
      split <;> exact ⟨_, rfl⟩

/-- A rotation enacts the next session length. -/
theorem sessionLength_rotateSession {normalRotation : Bool} {next : Nat}
    {c' : Chain AccountId balanceBits indexBits} (nextEq : c.nextSessionLength = some next)
    (rotated : c.rotateSession normalRotation = some c') : c'.sessionLength = next := by
  unfold rotateSession at rotated
  dsimp only at rotated
  simp only [Option.bind_eq_bind, Option.bind_eq_some_iff] at rotated
  obtain ⟨_, _, changed⟩ := rotated
  simp only [nextEq] at changed
  obtain ⟨_, rfl⟩ := newSession_eq_some changed
  rfl

/-- With a session length of zero `check_rotate_session` panics. -/
theorem checkRotateSession_of_sessionLength_zero (zero : c.sessionLength = 0) :
    c.checkRotateSession = none := by
  unfold Chain.checkRotateSession
  dsimp only
  simp only [Option.bind_eq_bind, zero, checkedRem_zero, Option.bind_none, Option.bind_eq_none_iff]
  intro _ _
  trivial

/-- With a session length of zero, a block without privileged calls takes a
remainder by zero at its end. -/
theorem runBlock_of_sessionLength_zero (number now : Nat) (zero : c.sessionLength = 0) :
    c.runBlock number now [] = none := by
  unfold Chain.runBlock
  dsimp only
  simp only [List.foldlM_nil, Option.pure_def, Option.bind_eq_bind, Option.bind_some]
  rw [checkRotateSession_of_sessionLength_zero]
  · rfl
  · exact zero

/-- With no sessions per era, the session change takes a remainder by zero. -/
theorem newSession_of_sessionsPerEra_zero (normalRotation : Bool) (actualElapsed : Nat)
    (zero : c.staking.sessionsPerEra = 0) : c.newSession normalRotation actualElapsed = none := by
  -- the rewards and the slashes keep the number of sessions per era
  have eraCheck : ∀ staking : Staking.EraStorage AccountId balanceBits indexBits,
      c.staking.BalancesOnly staking → (do
        let sinceChange ← checkedSub c.staking.sessionIndex staking.lastEraLengthChange
        let position ← checkedRem sinceChange staking.sessionsPerEra
        pure (if position = 0 ∨ !normalRotation then { c with staking := staking.newEra }
          else { c with staking })) = none := by
    rintro _ ⟨storage, _, rfl⟩
    simp only [Option.bind_eq_bind, zero, checkedRem_zero, Option.bind_none, Option.bind_eq_none_iff]
    intro _ _
    trivial
  unfold Chain.newSession
  dsimp only
  cases normalRotation with
  | false =>
      exact eraCheck _ (Staking.EraStorage.balancesOnly_foldl
        (fun s v => s.balancesOnly_slashValidator c.earlyEraSlash v) _ _)
  | true =>
      simp only [reduceIte, Option.bind_eq_bind, Option.pure_def, Option.bind_some]
      rw [Option.bind_eq_none_iff]
      intro _ _
      rw [Option.bind_eq_none_iff]
      intro _ _
      exact eraCheck _ (Staking.EraStorage.balancesOnly_foldl
        (fun s v => s.balancesOnly_rewardValidator _ v) _ _)

end Chain

section Totality

variable {AccountId : Type} [DecidableEq AccountId] {balanceBits indexBits : Nat}

end Totality

/-- Session's test genesis over staking's simple one: sessions of two blocks,
a block period of five, and thirty percent lateness allowed. -/
def testGenesis : GenesisConfig Nat 64 where
  staking := Staking.EraGenesisConfig.simple
  sessionReward := 0
  earlyEraSlash := 0
  sessionLength := 2
  brokenPercentLate := 30
  period := 5

end Session

end Polkadot
