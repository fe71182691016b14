import Polkadot.Bft.NodeSafe
import Polkadot.Bft.Safety
import Polkadot.Bft.AccumulatorRuns
import Polkadot.Foundations.Fold

/-!
# The rounds of a strategy

How `Strategy` of `generic/mod.rs` keeps its rounds.  The accumulators of
future rounds are kept under their round, above the current one, and every
justification an accumulator's state holds is of that accumulator's round.  So
the lock, taken from the current round's prepare justification or from a lock
proof no newer than the round reached, is never above the current round.  No
step moves the round or the lock back (`Advances`).  Both callers of
`advance_to_round` pass it a later round, so its assertion never fails and
`import_lock_proof` and `poll_once` never panic (`roundsKept_of_reachable`).
-/

namespace Polkadot
namespace Bft

variable {C D V S : Type} [DecidableEq D] [DecidableEq V]

/-- The justification a state holds: the prepare justification of `Prepared`
and `Advanced(Some _)`, and the commit justification of `Committed`. -/
def State.justification : State C D S → Option (Justification D S)
  | .prepared justification | .committed justification | .advanced (some justification) =>
      some justification
  | _ => none

namespace Accumulator

/-- The justification of the accumulator's state is of its round. -/
def HoldsOwnRound (accumulator : Accumulator C D V S) : Prop :=
  ∀ justification, accumulator.state.justification = some justification →
    justification.unchecked.roundNumber = accumulator.roundNumber

/-- A fresh accumulator holds only votes of its own round, having none. -/
theorem holdsOwnRound_new (round threshold : Nat) (roundProposer : V) :
    (new round threshold roundProposer : Accumulator C D V S).HoldsOwnRound := nofun

variable {accumulator updated : Accumulator C D V S}

/-- An accepted prepare keeps the state or prepares at the accumulator's round. -/
theorem importPrepare_state {digest : D} {sender : V} {signature : S}
    (imported : accumulator.importPrepare digest sender signature = .ok updated) :
    updated.roundNumber = accumulator.roundNumber ∧
      (updated.state = accumulator.state ∨
        ∃ signatures, updated.state = .prepared ⟨⟨accumulator.roundNumber, digest, signatures⟩⟩) := by
  unfold importPrepare at imported
  split at imported
  · split_ifs at imported
    cases imported
    exact ⟨rfl, .inl rfl⟩
  · dsimp only at imported
    split_ifs at imported
    · cases imported
      exact ⟨rfl, .inr ⟨_, rfl⟩⟩
    · cases imported
      exact ⟨rfl, .inl rfl⟩

/-- An accepted commit keeps the state or commits at the accumulator's round. -/
theorem importCommit_state {digest : D} {sender : V} {signature : S}
    (imported : accumulator.importCommit digest sender signature = .ok updated) :
    updated.roundNumber = accumulator.roundNumber ∧
      (updated.state = accumulator.state ∨
        ∃ signatures, updated.state = .committed ⟨⟨accumulator.roundNumber, digest, signatures⟩⟩) := by
  unfold importCommit at imported
  split at imported
  · split_ifs at imported
    cases imported
    exact ⟨rfl, .inl rfl⟩
  · dsimp only at imported
    split_ifs at imported
    · cases imported
      exact ⟨rfl, .inr ⟨_, rfl⟩⟩
    · cases imported
      exact ⟨rfl, .inl rfl⟩

/-- Every import keeps the justifications of the state at the round. -/
theorem ImportStep.holdsOwnRound (step : ImportStep accumulator updated)
    (holds : accumulator.HoldsOwnRound) : updated.HoldsOwnRound := by
  have sameRound := step.constants_eq.1
  intro justification held
  rw [sameRound]
  cases step with
  | keep => exact holds justification held
  | proposal proposal imported =>
      -- a proposal moves `Begin` to `Proposed`, which holds no justification
      rw [importProposal_ok _ imported] at held
      unfold noteProposal at held
      split at held
      · cases held
      · exact holds justification held
  | prepare digest sender signature imported =>
      rcases (importPrepare_state imported).2 with same | ⟨signatures, prepared⟩
      · exact holds justification (same ▸ held)
      · rw [prepared] at held
        cases held
        rfl
  | commit digest sender signature imported =>
      rcases (importCommit_state imported).2 with same | ⟨signatures, committed⟩
      · exact holds justification (same ▸ held)
      · rw [committed] at held
        cases held
        rfl
  | advanceRound sender =>
      -- advancing carries the prepare justification over, or holds none
      rcases importAdvanceRound_state_cases accumulator sender with same | ⟨prepared, was, now⟩ | none
      · exact holds justification (same ▸ held)
      · rw [now] at held
        obtain rfl : prepared = justification := Option.some.inj held
        exact holds prepared (by rw [was]; rfl)
      · rw [none] at held
        cases held

end Accumulator

namespace Strategy

variable (context : Context C D V S)

/-- The rounds a strategy keeps: its current accumulator holds its own round,
every future accumulator is stored under its round, above the current one, and
the lock is of a round reached. -/
structure RoundsKept (strategy : Strategy C D V S) : Prop where
  current : strategy.currentAccumulator.HoldsOwnRound
  future : ∀ round accumulator, strategy.futureAccumulators.lookup round = some accumulator →
    strategy.currentRound < round ∧ accumulator.roundNumber = round ∧ accumulator.HoldsOwnRound
  locked : ∀ justification, strategy.locked = some justification →
    justification.unchecked.roundNumber ≤ strategy.currentRound

/-- From a strategy to a later one: the round does not go back, and the lock is
kept or replaced by one no older. -/
structure Advances (strategy next : Strategy C D V S) : Prop where
  round_le : strategy.currentRound ≤ next.currentRound
  lock_le : ∀ justification, strategy.locked = some justification →
    ∃ later, next.locked = some later ∧
      justification.unchecked.roundNumber ≤ later.unchecked.roundNumber

/-- A strategy advances to itself. -/
theorem Advances.refl (strategy : Strategy C D V S) : Advances strategy strategy :=
  ⟨le_rfl, fun justification locked => ⟨justification, locked, le_rfl⟩⟩

/-- Advances compose. -/
theorem Advances.trans {strategy middle next : Strategy C D V S}
    (first : Advances strategy middle) (second : Advances middle next) :
    Advances strategy next where
  round_le := first.round_le.trans second.round_le
  lock_le justification locked := by
    obtain ⟨between, betweenEq, early⟩ := first.lock_le justification locked
    obtain ⟨later, laterEq, late⟩ := second.lock_le between betweenEq
    exact ⟨later, laterEq, early.trans late⟩

/-- What a step does to a strategy that keeps its rounds: the next one keeps
them, and advances from it. -/
structure Progress (strategy next : Strategy C D V S) : Prop where
  kept : next.RoundsKept
  advances : Advances strategy next

/-- A step inside the round: progress that stays in the round. -/
structure WithinRound (strategy next : Strategy C D V S) : Prop extends Progress strategy next where
  round_eq : next.currentRound = strategy.currentRound

variable {context} {strategy : Strategy C D V S}

/-- Progress composes, the second step taken from where the first keeps the rounds. -/
theorem Progress.trans {middle next : Strategy C D V S} (first : Progress strategy middle)
    (second : middle.RoundsKept → Progress middle next) : Progress strategy next :=
  ⟨(second first.kept).kept, first.advances.trans (second first.kept).advances⟩

/-- Steps within a round compose, the second taken from where the first keeps the rounds. -/
theorem WithinRound.trans {middle next : Strategy C D V S} (first : WithinRound strategy middle)
    (second : middle.RoundsKept → WithinRound middle next) : WithinRound strategy next :=
  ⟨first.toProgress.trans fun kept => (second kept).toProgress,
    ((second first.kept).round_eq).trans first.round_eq⟩

namespace RoundsKept

variable (context) (kept : strategy.RoundsKept)
include kept

/-- Staying put. -/
theorem stays : WithinRound strategy strategy := ⟨⟨kept, .refl strategy⟩, rfl⟩

/-- A change that leaves the accumulators and the lock alone, such as setting
the local state or the round timeout. -/
theorem withinRound_of_eq {next : Strategy C D V S}
    (current : next.currentAccumulator = strategy.currentAccumulator)
    (future : next.futureAccumulators = strategy.futureAccumulators)
    (locked : next.locked = strategy.locked) : WithinRound strategy next := by
  have sameRound : next.currentRound = strategy.currentRound := congrArg Accumulator.roundNumber current
  refine ⟨⟨⟨current ▸ kept.current, ?_, ?_⟩, ⟨sameRound.ge, ?_⟩⟩, sameRound⟩
  · rw [future, sameRound]
    exact kept.future
  · rw [locked, sameRound]
    exact kept.locked
  · intro justification lockedEq
    exact ⟨justification, locked ▸ lockedEq, le_rfl⟩

/-- Locking to a justification of a round reached, no older than the lock. -/
theorem lock {justification : Justification D S}
    (reached : justification.unchecked.roundNumber ≤ strategy.currentRound)
    (newer : ∀ locked, strategy.locked = some locked →
      locked.unchecked.roundNumber ≤ justification.unchecked.roundNumber) :
    WithinRound strategy { strategy with locked := some justification } := by
  refine ⟨⟨⟨kept.current, kept.future, ?_⟩, ⟨le_rfl, ?_⟩⟩, rfl⟩
  · rintro _ ⟨⟩
    exact reached
  · intro locked lockedEq
    exact ⟨justification, rfl, newer locked lockedEq⟩

/-- Locking to the justification the current round holds, which is of that
round and so no older than the lock. -/
theorem lockCurrent {justification : Justification D S}
    (held : strategy.currentAccumulator.state.justification = some justification) :
    WithinRound strategy { strategy with locked := some justification } :=
  have current : justification.unchecked.roundNumber = strategy.currentRound :=
    kept.current justification held
  kept.lock current.le fun locked lockedEq => current ▸ kept.locked locked lockedEq

/-- The accumulator a message of a later round goes to is of that round. -/
theorem futureAccumulator (round : Nat) :
    (strategy.futureAccumulator context round).roundNumber = round ∧
      (strategy.futureAccumulator context round).HoldsOwnRound := by
  unfold Strategy.futureAccumulator
  cases found : strategy.futureAccumulators.lookup round with
  | some accumulator => exact (kept.future round accumulator found).2
  | none => exact ⟨rfl, Accumulator.holdsOwnRound_new _ _ _⟩

/-- `import_message` keeps the rounds: a message goes to the accumulator of its
own round, whose round an import does not change. -/
theorem importMessage (message : LocalizedMessage C D V S) :
    WithinRound strategy (strategy.importMessage context message) := by
  obtain ⟨misbehavior, imported⟩ := importMessage_eq context strategy message
  set current := if message.roundNumber = strategy.currentRound then
    strategy.currentAccumulator.importOrKeep message else strategy.currentAccumulator with currentEq
  have currentStep : Accumulator.ImportStep strategy.currentAccumulator current := by
    rw [currentEq]
    split_ifs
    · exact Accumulator.importStep_importOrKeep _ _
    · exact .keep
  have sameRound : current.roundNumber = strategy.currentRound := currentStep.constants_eq.1
  rw [imported]
  refine ⟨⟨⟨currentStep.holdsOwnRound kept.current, ?_, ?_⟩, ⟨sameRound.ge, ?_⟩⟩, sameRound⟩
  · -- a future accumulator is the one of the message's round, or was there
    intro round accumulator found
    change current.roundNumber < round ∧ _
    rw [sameRound]
    split_ifs at found with later
    · by_cases same : round = message.roundNumber
      · subst same
        rw [AList.lookup_insert, Option.some.injEq] at found
        subst found
        have step := Accumulator.importStep_importOrKeep
          (strategy.futureAccumulator context message.roundNumber) message
        obtain ⟨roundEq, holds⟩ := kept.futureAccumulator context message.roundNumber
        exact ⟨later, step.constants_eq.1.trans roundEq, step.holdsOwnRound holds⟩
      · rw [AList.lookup_insert_ne same] at found
        exact kept.future round accumulator found
    · exact kept.future round accumulator found
  · intro justification locked
    change _ ≤ current.roundNumber
    rw [sameRound]
    exact kept.locked justification locked
  · intro justification locked
    exact ⟨justification, locked, le_rfl⟩

/-- Signing, importing and sending a message, then setting the local state. -/
theorem sends (message : Message C D) (localState : LocalState) :
    WithinRound strategy
      { (strategy.importAndSendMessage context message).1 with localState := localState } :=
  (kept.importMessage context _).trans fun kept => kept.withinRound_of_eq rfl rfl rfl

variable (resolutions : Resolutions C)

/-- `propose` keeps the rounds: a proposal is imported into the current round. -/
theorem propose : WithinRound strategy (strategy.propose context resolutions).1 := by
  unfold Strategy.propose
  split
  case h_1 =>
    split_ifs
    split
    case h_1 => exact kept.sends context _ .proposed
    all_goals exact kept.stays
  all_goals exact kept.stays

/-- `prepare` keeps the rounds: it sets the local state and imports a prepare. -/
theorem prepare : WithinRound strategy (strategy.prepare context resolutions).1 := by
  unfold Strategy.prepare
  split
  case h_1 | h_2 =>
    rename_i candidate _ _
    cases strategy.prepareFor context resolutions candidate with
    | mk localState digest =>
        -- the local state `prepare` decided, if any, then the prepare it imports
        cases localState with
        | none =>
            cases digest with
            | some digest => exact kept.importMessage context _
            | none => exact kept.stays
        | some localState =>
            have decided : WithinRound strategy { strategy with localState } :=
              kept.withinRound_of_eq rfl rfl rfl
            cases digest with
            | some digest => exact decided.trans fun kept => kept.importMessage context _
            | none => exact decided
  case h_3 => exact kept.stays

/-- `commit` keeps the rounds: it locks to the current round's prepare
justification, of that round. -/
theorem commit : WithinRound strategy (strategy.commit context).1 := by
  unfold Strategy.commit
  split
  case h_3 =>
    rename_i justification prepared _ _
    exact (kept.lockCurrent (by rw [prepared]; rfl)).trans fun kept => kept.sends context _ .committed
  all_goals exact kept.stays

/-- `vote_advance` keeps the rounds: it marks the timeout and imports an advance
vote. -/
theorem voteAdvance : WithinRound strategy (strategy.voteAdvance context resolutions).1 := by
  unfold Strategy.voteAdvance
  split
  · exact kept.stays
  · -- the strategy after the round timeout, fired or not
    have timed : WithinRound strategy { strategy with roundTimeoutDone := true } :=
      kept.withinRound_of_eq rfl rfl rfl
    dsimp only
    split_ifs
    · exact timed.trans fun kept => kept.sends context _ .voteAdvance
    · exact kept.sends context _ .voteAdvance
    · exact timed
    · exact kept.stays

/-- `advance_to_round` to a later round succeeds, and keeps the rounds: the
accumulators it drops are those of the rounds skipped, and the one it takes is
stored under the new round. -/
theorem advanceToRound {round : Nat} (later : strategy.currentRound < round) :
    ∃ next, strategy.advanceToRound context round = some next ∧ Progress strategy next ∧
      next.currentRound = round := by
  unfold Strategy.advanceToRound
  rw [if_pos later]
  set futures := (List.range' (strategy.currentRound + 1)
    (round - (strategy.currentRound + 1))).foldl
      (fun futures irrelevant => futures.erase irrelevant) strategy.futureAccumulators
    with futuresEq
  -- the accumulators kept are those stored, less the rounds skipped
  have kept' : ∀ key accumulator, futures.lookup key = some accumulator →
      round ≤ key ∧ accumulator.roundNumber = key ∧ accumulator.HoldsOwnRound := by
    intro key accumulator found
    rw [futuresEq, Foundations.lookup_foldl_erase] at found
    split_ifs at found with skipped
    obtain ⟨above, roundEq, holds⟩ := kept.future key accumulator found
    simp only [List.mem_range'_1, not_and, not_lt] at skipped
    exact ⟨by omega, roundEq, holds⟩
  set current := (futures.lookup round).getD
    (Accumulator.new round (bftThreshold strategy.nodes strategy.maxFaulty)
      (context.roundProposer round)) with currentEq
  have currentKept : current.roundNumber = round ∧ current.HoldsOwnRound := by
    cases found : futures.lookup round with
    | some accumulator =>
        rw [currentEq, found, Option.getD_some]
        exact (kept' round accumulator found).2
    | none =>
        rw [currentEq, found, Option.getD_none]
        exact ⟨rfl, Accumulator.holdsOwnRound_new _ _ _⟩
  refine ⟨_, rfl, ⟨⟨currentKept.2, ?_, ?_⟩, ⟨?_, ?_⟩⟩, currentKept.1⟩
  · intro key accumulator found
    by_cases same : key = round
    · subst same
      simp at found
    · rw [AList.lookup_erase_ne same] at found
      obtain ⟨above, roundEq, holds⟩ := kept' key accumulator found
      change current.roundNumber < key ∧ _
      exact ⟨by omega, roundEq, holds⟩
  · intro justification locked
    have := kept.locked justification locked
    change _ ≤ current.roundNumber
    omega
  · change _ ≤ current.roundNumber
    omega
  · intro justification locked
    exact ⟨justification, locked, le_rfl⟩

/-- `import_lock_proof` succeeds and keeps the rounds: it moves to the proof's
round only when that is later, and locks only to a newer proof. -/
theorem importLockProof (justification : Justification D S) :
    ∃ next, strategy.importLockProof context justification = some next ∧
      Progress strategy next := by
  -- the lock at the end, from any strategy that reached the proof's round,
  -- whatever decides to lock when that decision keeps the lock's round below
  have locks : ∀ moved : Strategy C D V S, moved.RoundsKept →
      justification.unchecked.roundNumber ≤ moved.currentRound → ∀ lockToNew : Bool,
      (lockToNew = true → ∀ locked, moved.locked = some locked →
        locked.unchecked.roundNumber ≤ justification.unchecked.roundNumber) →
      WithinRound moved
        (if lockToNew = true then { moved with locked := some justification } else moved) := by
    intro moved movedKept reached lockToNew below
    split_ifs with locking
    · exact movedKept.lock reached (below locking)
    · exact movedKept.stays
  unfold Strategy.importLockProof
  split_ifs with later
  · obtain ⟨moved, movedEq, movedProgress, movedRound⟩ := kept.advanceToRound context later
    simp only [Option.bind_eq_bind, Option.pure_def]
    rw [movedEq, Option.bind_some]
    refine ⟨_, rfl, movedProgress.trans fun movedKept =>
      (locks moved movedKept movedRound.ge _ fun lockToNew locked lockedEq => ?_).toProgress⟩
    rw [lockedEq] at lockToNew
    exact (of_decide_eq_true lockToNew).le
  · simp only [Option.pure_def, Option.bind_eq_bind, Option.bind_some]
    refine ⟨_, rfl, (locks strategy kept (Nat.le_of_not_lt later) _
      fun lockToNew locked lockedEq => ?_).toProgress⟩
    rw [lockedEq] at lockToNew
    exact (of_decide_eq_true lockToNew).le

/-- `poll_once` succeeds and keeps the rounds: the four operations stay in the
round, and a round that advanced is left for the next one, after locking to its
prepare justification, of that round. -/
theorem pollOnce :
    ∃ next sent committed, strategy.pollOnce context resolutions = some (next, sent, committed) ∧
      Progress strategy next := by
  -- the four operations, one after the other
  have voted := (((kept.propose context resolutions).trans fun kept =>
    kept.prepare context resolutions).trans fun kept =>
    kept.commit context).trans fun kept => kept.voteAdvance context resolutions
  simp only [Strategy.pollOnce]
  generalize (((((strategy.propose context resolutions).1.prepare context resolutions).1.commit
    context).1.voteAdvance context resolutions).1) = polled at voted ⊢
  split
  case h_1 justification advanced =>
    -- from the strategy of the round, locked or not, move to the next round
    have moves : ∀ locked : Strategy C D V S, WithinRound strategy locked →
        ∀ sent : List (Communication C D V S), ∃ (next : Strategy C D V S) (sent' : List (Communication C D V S))
          (committed : Option (Committed C D S)),
          ((locked.advanceToRound context (locked.currentRound + 1)).bind fun moved =>
            some (moved, sent, none)) = some (next, sent', committed) ∧ Progress strategy next := by
      intro locked lockedWithin sent
      obtain ⟨moved, movedEq, movedProgress, -⟩ :=
        lockedWithin.kept.advanceToRound context (Nat.lt_succ_self _)
      rw [movedEq, Option.bind_some]
      exact ⟨_, _, _, rfl, lockedWithin.toProgress.trans fun _ => movedProgress⟩
    simp only [Option.bind_eq_bind, Option.pure_def]
    -- lock to the round's prepare justification, if any
    cases justification with
    | none => exact moves polled voted _
    | some justification =>
        exact moves _ (voted.trans fun kept => kept.lockCurrent (by rw [advanced]; rfl)) _
  all_goals exact ⟨_, _, _, rfl, voted.toProgress⟩

end RoundsKept

variable (context) in
/-- The strategy `create` builds keeps its rounds: it has no future
accumulators and no lock. -/
theorem roundsKept_create (nodes maxFaulty : Nat) :
    (create context nodes maxFaulty : Strategy C D V S).RoundsKept where
  current := Accumulator.holdsOwnRound_new _ _ _
  future := by simp [create]
  locked := by simp [create]

/-- One step of a strategy's run: a message imported, a lock proof imported, or
a poll. -/
inductive Step (context : Context C D V S) : Strategy C D V S → Strategy C D V S → Prop
  | importMessage (strategy : Strategy C D V S) (message : LocalizedMessage C D V S) :
      Step context strategy (strategy.importMessage context message)
  | importLockProof {strategy next : Strategy C D V S} (justification : Justification D S) :
      strategy.importLockProof context justification = some next → Step context strategy next
  | pollOnce {strategy next : Strategy C D V S} (resolutions : Resolutions C)
      {sent : List (Communication C D V S)} {committed : Option (Committed C D S)} :
      strategy.pollOnce context resolutions = some (next, sent, committed) →
      Step context strategy next

/-- Every step from a strategy that keeps its rounds is progress. -/
theorem RoundsKept.step (kept : strategy.RoundsKept) {next : Strategy C D V S}
    (step : Step context strategy next) : Progress strategy next := by
  cases step with
  | importMessage message => exact (kept.importMessage context message).toProgress
  | importLockProof justification imported =>
      obtain ⟨moved, movedEq, progress⟩ := kept.importLockProof context justification
      rw [imported, Option.some.injEq] at movedEq
      exact movedEq ▸ progress
  | pollOnce resolutions polled =>
      obtain ⟨moved, sent, committed, movedEq, progress⟩ := kept.pollOnce context resolutions
      rw [polled, Option.some.injEq, Prod.mk.injEq] at movedEq
      exact movedEq.1 ▸ progress

/-- Along every run, a strategy that keeps its rounds keeps them and advances,
by induction on the run. -/
theorem RoundsKept.progress_of_run (kept : strategy.RoundsKept) {later : Strategy C D V S}
    (run : Relation.ReflTransGen (Step context) strategy later) : Progress strategy later := by
  induction run with
  | refl => exact kept.stays.toProgress
  | tail _ step progress => exact progress.trans fun kept => kept.step step

variable (context) in
/-- The round bookkeeping of every strategy reachable from `create`: it keeps
its rounds, no later step moves its round or its lock back, and neither
`import_lock_proof` nor `poll_once` fails the assertion of `advance_to_round`. -/
theorem roundsKept_of_reachable {nodes maxFaulty : Nat} {strategy : Strategy C D V S}
    (reached : Relation.ReflTransGen (Step context) (create context nodes maxFaulty) strategy) :
    strategy.RoundsKept ∧
      (∀ later, Relation.ReflTransGen (Step context) strategy later → Advances strategy later) ∧
      (∀ justification, (strategy.importLockProof context justification).isSome) ∧
      ∀ resolutions, (strategy.pollOnce context resolutions).isSome := by
  have kept := ((roundsKept_create context nodes maxFaulty).progress_of_run reached).kept
  refine ⟨kept, fun later run => (kept.progress_of_run run).advances, ?_, ?_⟩
  · intro justification
    obtain ⟨next, imported, -⟩ := kept.importLockProof context justification
    rw [imported, Option.isSome_some]
  · intro resolutions
    obtain ⟨next, sent, committed, polled, -⟩ := kept.pollOnce context resolutions
    rw [polled, Option.isSome_some]

/-- Authority 1 of four imports the proposal of 5 and two prepares of round
0, prepares and commits in a poll, imports a lock proof of round 1, which moves
it to round 1 and locks it, and polls again. -/
theorem roundsKept_of_reachable_run :
    ∃ strategy : Strategy Nat Nat Nat Nat,
      Relation.ReflTransGen (Step (singleContexts 1)) (create (singleContexts 1) 4 1) strategy ∧
        strategy.currentRound = 1 ∧ strategy.locked = some ⟨⟨1, 5, [0, 1, 3]⟩⟩ ∧
        (strategy.RoundsKept ∧
          (∀ later, Relation.ReflTransGen (Step (singleContexts 1)) strategy later → Advances strategy later) ∧
          (∀ justification, (strategy.importLockProof (singleContexts 1) justification).isSome) ∧
          ∀ resolutions, (strategy.pollOnce (singleContexts 1) resolutions).isSome) := by
  have imported : Relation.ReflTransGen (Step (singleContexts 1)) (create (singleContexts 1) 4 1) _ :=
    ((Relation.ReflTransGen.refl.tail (.importMessage _ (.propose ⟨0, 5, 5, 0, 0, 0⟩))).tail
      (.importMessage _ (.vote ⟨.prepare 0 5, 0, 0⟩))).tail (.importMessage _ (.vote ⟨.prepare 0 5, 3, 3⟩))
  have polled := imported.tail (.pollOnce ⟨none, some true, false⟩ rfl)
  have locked := polled.tail (.importLockProof ⟨⟨1, 5, [0, 1, 3]⟩⟩ rfl)
  have reached := locked.tail (.pollOnce ⟨none, none, false⟩ rfl)
  exact ⟨_, reached, rfl, rfl, roundsKept_of_reachable (singleContexts 1) reached⟩

end Strategy

end Bft
end Polkadot
