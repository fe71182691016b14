import Polkadot.Bft.Protocol
import Polkadot.Bft.AccumulatorSound
import Polkadot.Foundations.Fold

/-!
# What keeps one honest authority safe

An honest authority's strategy stays safe over the log of honest messages
(`NodeSafe`) in two ways.  Its state (`StrategySafe`): every accumulator it
holds has imported only messages the network can deliver, so the prepare and
commit justifications in their states are quorums of the log, and it is locked
only to a prepare quorum of a round it has reached.  Its history
(`HistorySafe`): its own messages are of the rounds it has reached, a prepare of
the current round means it has left the start of the round, and a commit means
it is locked, at the commit's round or later.

This module proves that the operations that send nothing keep both: importing a
message, moving to a later round, locking to a newer prepare quorum, and so
`import_lock_proof`.
-/

namespace Polkadot
namespace Bft

open Foundations

variable {C D V S : Type} [DecidableEq D] [DecidableEq V] {setup : Setup V}
  {log : Log C D V S}

omit [DecidableEq D] in
/-- A message admissible after a log is admissible after any log that contains it. -/
theorem Admissible.mono {message : LocalizedMessage C D V S} {more : Log C D V S}
    (admissible : Admissible setup log message) (grows : ∀ sent ∈ log, sent ∈ more) :
    Admissible setup more message :=
  ⟨admissible.1, fun honest => grows _ (admissible.2 honest)⟩

/-! ## Accumulators fed by the network -/

variable (setup) in
/-- An accumulator of `round` that imported only messages the network can
deliver. -/
def AccumulatorSafe (log : Log C D V S) (round : Nat) (accumulator : Accumulator C D V S) :
    Prop :=
  ∃ messages : List (LocalizedMessage C D V S),
    (∀ message ∈ messages, Admissible setup log message) ∧
      Accumulator.Tracked round setup.threshold messages accumulator

section AccumulatorSafe

variable {round : Nat} {accumulator : Accumulator C D V S}

/-- A safe accumulator is for its round. -/
theorem AccumulatorSafe.round_eq (safe : AccumulatorSafe setup log round accumulator) :
    accumulator.roundNumber = round := by
  obtain ⟨_, _, tracked⟩ := safe
  exact tracked.round_eq

/-- A safe accumulator stays safe as the log grows. -/
theorem AccumulatorSafe.mono (safe : AccumulatorSafe setup log round accumulator)
    {more : Log C D V S} (grows : ∀ sent ∈ log, sent ∈ more) :
    AccumulatorSafe setup more round accumulator := by
  obtain ⟨messages, admissible, tracked⟩ := safe
  exact ⟨messages, fun message member => (admissible message member).mono grows, tracked⟩

/-- A fresh accumulator with the setup's threshold is safe. -/
theorem accumulatorSafe_new (round : Nat) (roundProposer : V) :
    AccumulatorSafe setup log round
      (Accumulator.new (C := C) (D := D) (S := S) round setup.threshold roundProposer) :=
  ⟨[], by simp, Accumulator.tracked_new round setup.threshold roundProposer⟩

/-- Importing an admissible message keeps the accumulator safe. -/
theorem AccumulatorSafe.importOrKeep (safe : AccumulatorSafe setup log round accumulator)
    {message : LocalizedMessage C D V S} (admissible : Admissible setup log message) :
    AccumulatorSafe setup log round (accumulator.importOrKeep message) := by
  obtain ⟨messages, admissibles, tracked⟩ := safe
  refine ⟨messages ++ [message], ?_, tracked.importOrKeep message⟩
  intro sent member
  rcases List.mem_append.mp member with old | new
  · exact admissibles sent old
  · rw [List.mem_singleton.mp new]
    exact admissible

/-- The votes behind a backed justification of an accumulator fed deliverable
messages form a quorum of the log. -/
theorem quorum_of_backed {select : LocalizedMessage C D V S → Option (V × D × S)}
    {messages : List (LocalizedMessage C D V S)}
    (admissible : ∀ message ∈ messages, Admissible setup log message)
    {justification : Justification D S}
    (backed : Backed round setup.threshold (fun sender => firstVote select sender messages)
      justification)
    {sent : V → Prop}
    (carried : ∀ message voter signature,
      select message = some (voter, justification.unchecked.digest, signature) →
      message.sender = voter ∧ (Communication.consensus message ∈ log → sent voter)) :
    Quorum setup sent := by
  obtain ⟨-, voters, distinct, enough, -, voted⟩ := backed
  -- each voter's first vote came in a deliverable message it signed
  have origin : ∀ voter ∈ voters.map Prod.fst,
      voter ∈ setup.authorities ∧ (voter ∈ setup.honest → sent voter) := by
    intro voter member
    obtain ⟨entry, entryMember, rfl⟩ := List.mem_map.mp member
    obtain ⟨message, inMessages, selected⟩ := firstVote_mem (voted entry entryMember)
    obtain ⟨senderEq, sentOf⟩ := carried message _ _ selected
    obtain ⟨authority, honestSent⟩ := admissible message inMessages
    rw [senderEq] at authority honestSent
    exact ⟨authority, fun honest => sentOf (honestSent honest)⟩
  refine ⟨(voters.map Prod.fst).toFinset,
    fun voter member => (origin voter (List.mem_toFinset.mp member)).1, ?_,
    fun voter member => (origin voter (List.mem_toFinset.mp member)).2⟩
  rw [List.toFinset_card_of_nodup distinct, List.length_map]
  exact enough

/-- A prepare justification in the state is a prepare quorum of its round. -/
theorem AccumulatorSafe.prepareQuorum (safe : AccumulatorSafe setup log round accumulator)
    {justification : Justification D S}
    (inState : accumulator.state = .prepared justification ∨
      accumulator.state = .advanced (some justification)) :
    justification.unchecked.roundNumber = round ∧
      PrepareQuorum setup log round justification.unchecked.digest := by
  obtain ⟨messages, admissible, tracked⟩ := safe
  have backed := tracked.prepared_backed justification inState
  rw [funext tracked.prepares.lookup_eq] at backed
  refine ⟨backed.1, quorum_of_backed admissible backed ?_⟩
  intro message voter signature selected
  rw [LocalizedMessage.prepareIn_eq_some selected]
  exact ⟨rfl, fun member => ⟨signature, member⟩⟩

/-- A commit justification in the state is a commit quorum of its round. -/
theorem AccumulatorSafe.commitQuorum (safe : AccumulatorSafe setup log round accumulator)
    {justification : Justification D S} (inState : accumulator.state = .committed justification) :
    justification.unchecked.roundNumber = round ∧
      CommitQuorum setup log round justification.unchecked.digest := by
  obtain ⟨messages, admissible, tracked⟩ := safe
  have backed := tracked.committed_backed justification inState
  rw [funext tracked.commits.lookup_eq] at backed
  refine ⟨backed.1, quorum_of_backed admissible backed ?_⟩
  intro message voter signature selected
  rw [LocalizedMessage.commitIn_eq_some selected]
  exact ⟨rfl, fun member => ⟨signature, member⟩⟩

end AccumulatorSafe

omit [DecidableEq D] in
/-- A lock proof that checks out against a checker of prepares is a prepare
quorum. -/
theorem prepareQuorum_of_check {checkMessage : Nat → D → S → Option V}
    (checks : ChecksPrepares setup log checkMessage) {justification : Justification D S}
    (checked : justification.unchecked.check setup.threshold checkMessage = .ok justification) :
    PrepareQuorum setup log justification.unchecked.roundNumber justification.unchecked.digest := by
  have passes : UncheckedJustification.checkSignatures
      (checkMessage justification.unchecked.roundNumber justification.unchecked.digest)
      setup.threshold ∅ justification.unchecked.signatures = true := by
    unfold UncheckedJustification.check at checked
    split_ifs at checked with passes
    exact passes
  obtain ⟨signers, -, enough, origin⟩ :=
    UncheckedJustification.signers_of_checkSignatures _ _ _ _ passes
  -- every signer is given by the checker for one of the signatures
  have vouched : ∀ signer ∈ signers, signer ∈ setup.authorities ∧
      (signer ∈ setup.honest → SentPrepare log signer justification.unchecked.roundNumber
        justification.unchecked.digest) := by
    intro signer member
    rcases origin signer member with none | ⟨signature, -, checked⟩
    · simp at none
    · exact checks _ _ signature signer checked
  exact ⟨signers, fun signer member => (vouched signer member).1, enough,
    fun signer member => (vouched signer member).2⟩

/-! ## Safe strategies -/

variable (setup) in
/-- The state of a strategy is safe over the log. -/
structure StrategySafe (log : Log C D V S) (strategy : Strategy C D V S) : Prop where
  nodes_eq : strategy.nodes = setup.authorities.card
  maxFaulty_eq : strategy.maxFaulty = setup.maxFaulty
  current : AccumulatorSafe setup log strategy.currentRound strategy.currentAccumulator
  future : ∀ round accumulator, strategy.futureAccumulators.lookup round = some accumulator →
    AccumulatorSafe setup log round accumulator
  locked : ∀ justification, strategy.locked = some justification →
    justification.unchecked.roundNumber ≤ strategy.currentRound ∧
      PrepareQuorum setup log justification.unchecked.roundNumber justification.unchecked.digest

/-- What the messages the authority of `context` sent say about its strategy. -/
structure HistorySafe (context : Context C D V S) (log : Log C D V S)
    (strategy : Strategy C D V S) : Prop where
  sent_round : ∀ message, Communication.consensus message ∈ log →
    message.sender = context.localId → message.roundNumber ≤ strategy.currentRound
  prepared : ∀ digest, SentPrepare log context.localId strategy.currentRound digest →
    strategy.localState ≠ .start ∧ strategy.localState ≠ .proposed
  committed : ∀ round digest, SentCommit log context.localId round digest →
    ∃ justification, strategy.locked = some justification ∧
      round ≤ justification.unchecked.roundNumber

variable (setup) in
/-- An honest authority's strategy is safe over the log. -/
structure NodeSafe (context : Context C D V S) (log : Log C D V S)
    (strategy : Strategy C D V S) : Prop where
  state : StrategySafe setup log strategy
  history : HistorySafe context log strategy

variable {context : Context C D V S} {strategy : Strategy C D V S}

/-- At the start of a round, or after proposing, nothing of the round was
prepared. -/
theorem HistorySafe.not_sentPrepare (history : HistorySafe context log strategy)
    (starting : strategy.localState = .start ∨ strategy.localState = .proposed) (digest : D) :
    ¬ SentPrepare log context.localId strategy.currentRound digest := by
  intro sent
  obtain ⟨notStart, notProposed⟩ := history.prepared digest sent
  rcases starting with start | proposed
  · exact notStart start
  · exact notProposed proposed

/-- A safe strategy has the setup's threshold. -/
theorem StrategySafe.threshold_eq (safe : StrategySafe setup log strategy) :
    bftThreshold strategy.nodes strategy.maxFaulty = setup.threshold := by
  rw [safe.nodes_eq, safe.maxFaulty_eq]
  rfl

/-- A safe strategy stays safe as the log grows. -/
theorem StrategySafe.mono (safe : StrategySafe setup log strategy) {more : Log C D V S}
    (grows : ∀ sent ∈ log, sent ∈ more) : StrategySafe setup more strategy where
  nodes_eq := safe.nodes_eq
  maxFaulty_eq := safe.maxFaulty_eq
  current := safe.current.mono grows
  future := fun round accumulator found => (safe.future round accumulator found).mono grows
  locked := fun justification locked =>
    ⟨(safe.locked justification locked).1, (safe.locked justification locked).2.mono grows⟩

/-- The accumulator a future message goes to is safe. -/
theorem StrategySafe.futureAccumulator (safe : StrategySafe setup log strategy) (round : Nat) :
    AccumulatorSafe setup log round (strategy.futureAccumulator context round) := by
  unfold Strategy.futureAccumulator
  cases found : strategy.futureAccumulators.lookup round with
  | some accumulator => exact safe.future round accumulator found
  | none =>
      rw [Option.getD_none, safe.threshold_eq]
      exact accumulatorSafe_new round _

/-- Messages of other authorities say nothing about this one. -/
theorem NodeSafe.append_other (node : NodeSafe setup context log strategy) {more : Log C D V S}
    (others : ∀ message, Communication.consensus message ∈ more →
      message.sender ≠ context.localId) :
    NodeSafe setup context (log ++ more) strategy where
  state := node.state.mono fun _ member => List.mem_append_left _ member
  history := {
    sent_round := by
      intro message member own
      rcases List.mem_append.mp member with old | new
      · exact node.history.sent_round message old own
      · exact absurd own (others message new)
    prepared := fun digest sent =>
      node.history.prepared digest (sent.of_append_other others)
    committed := fun round digest sent =>
      node.history.committed round digest (sent.of_append_other others) }

/-- A fresh node over the setup's authorities is safe. -/
theorem nodeSafe_create :
    NodeSafe setup context []
      (Strategy.create context setup.authorities.card setup.maxFaulty) where
  state := {
    nodes_eq := rfl
    maxFaulty_eq := rfl
    current := accumulatorSafe_new 0 _
    future := by simp [Strategy.create]
    locked := by simp [Strategy.create] }
  history := {
    sent_round := by simp
    prepared := by simp [SentVote]
    committed := by simp [SentVote] }

/-! ## Importing a message -/

namespace Strategy

variable (context) (strategy) (message : LocalizedMessage C D V S)

/-- `import_message` changes the accumulators and the recorded misbehavior
only: a message of the current round goes to the current accumulator, one of a
later round to the accumulator of its round. -/
theorem importMessage_eq :
    ∃ misbehavior : AList (fun _ : V => Misbehavior D S), strategy.importMessage context message =
      { strategy with
        currentAccumulator := if message.roundNumber = strategy.currentRound then
            strategy.currentAccumulator.importOrKeep message
          else strategy.currentAccumulator
        futureAccumulators := if strategy.currentRound < message.roundNumber then
            strategy.futureAccumulators.insert message.roundNumber
              ((strategy.futureAccumulator context message.roundNumber).importOrKeep message)
          else strategy.futureAccumulators
        misbehavior := misbehavior } := by
  simp only [importMessage]
  split_ifs with current later later
  · omega
  · cases imported : strategy.currentAccumulator.importMessage message with
    | ok accumulator =>
        exact ⟨strategy.misbehavior, by simp [Accumulator.importOrKeep, imported]⟩
    | error misbehavior =>
        exact ⟨strategy.misbehavior.insert message.sender misbehavior,
          by simp [Accumulator.importOrKeep, imported]⟩
  · cases imported : (strategy.futureAccumulator context message.roundNumber).importMessage
        message with
    | ok accumulator =>
        exact ⟨strategy.misbehavior, by simp [Accumulator.importOrKeep, imported]⟩
    | error misbehavior =>
        exact ⟨strategy.misbehavior.insert message.sender misbehavior,
          by simp [Accumulator.importOrKeep, imported]⟩
  · exact ⟨strategy.misbehavior, rfl⟩

/-- Importing a message keeps the lock. -/
@[simp] theorem importMessage_locked :
    (strategy.importMessage context message).locked = strategy.locked := by
  obtain ⟨_, imported⟩ := importMessage_eq context strategy message
  rw [imported]

/-- Importing a message keeps the local state. -/
@[simp] theorem importMessage_localState :
    (strategy.importMessage context message).localState = strategy.localState := by
  obtain ⟨_, imported⟩ := importMessage_eq context strategy message
  rw [imported]

end Strategy

/-- Replacing the accumulators by safe ones, the current one of the same round,
keeps the state safe and in its round. -/
theorem StrategySafe.withAccumulators (safe : StrategySafe setup log strategy)
    {current : Accumulator C D V S}
    (currentSafe : AccumulatorSafe setup log strategy.currentRound current)
    {futures : AList (fun _ : Nat => Accumulator C D V S)}
    (futuresSafe : ∀ round accumulator, futures.lookup round = some accumulator →
      AccumulatorSafe setup log round accumulator)
    (misbehavior : AList (fun _ : V => Misbehavior D S)) :
    StrategySafe setup log
        { strategy with
          currentAccumulator := current
          futureAccumulators := futures
          misbehavior := misbehavior } ∧
      current.roundNumber = strategy.currentRound := by
  have sameRound : current.roundNumber = strategy.currentRound := currentSafe.round_eq
  refine ⟨⟨safe.nodes_eq, safe.maxFaulty_eq, ?_, futuresSafe, ?_⟩, sameRound⟩
  · show AccumulatorSafe setup log current.roundNumber current
    rw [sameRound]
    exact currentSafe
  · intro justification locked
    show justification.unchecked.roundNumber ≤ current.roundNumber ∧ _
    rw [sameRound]
    exact safe.locked justification locked

/-- Importing a deliverable message keeps the state safe, in the same round. -/
theorem StrategySafe.importMessage (safe : StrategySafe setup log strategy)
    {message : LocalizedMessage C D V S} (admissible : Admissible setup log message) :
    StrategySafe setup log (strategy.importMessage context message) ∧
      (strategy.importMessage context message).currentRound = strategy.currentRound := by
  obtain ⟨misbehavior, imported⟩ := Strategy.importMessage_eq context strategy message
  rw [imported]
  refine safe.withAccumulators ?_ ?_ misbehavior
  · split_ifs
    · exact safe.current.importOrKeep admissible
    · exact safe.current
  · intro round accumulator found
    split_ifs at found
    · by_cases same : round = message.roundNumber
      · subst same
        rw [AList.lookup_insert, Option.some.injEq] at found
        subst found
        exact (safe.futureAccumulator message.roundNumber).importOrKeep admissible
      · rw [AList.lookup_insert_ne same] at found
        exact safe.future round accumulator found
    · exact safe.future round accumulator found

/-- Delivering a message keeps an authority safe. -/
theorem NodeSafe.importMessage (node : NodeSafe setup context log strategy)
    {message : LocalizedMessage C D V S} (admissible : Admissible setup log message) :
    NodeSafe setup context log (strategy.importMessage context message) := by
  obtain ⟨state, sameRound⟩ := node.state.importMessage admissible
  refine ⟨state, ?_, ?_, ?_⟩
  · rw [sameRound]
    exact node.history.sent_round
  · rw [sameRound, Strategy.importMessage_localState]
    exact node.history.prepared
  · rw [Strategy.importMessage_locked]
    exact node.history.committed

/-! ## Moving on and locking -/

/-- Moving to a later round keeps an authority safe. -/
theorem NodeSafe.advanceToRound (node : NodeSafe setup context log strategy) {round : Nat}
    {next : Strategy C D V S} (advanced : strategy.advanceToRound context round = some next) :
    NodeSafe setup context log next ∧ next.currentRound = round := by
  unfold Strategy.advanceToRound at advanced
  split_ifs at advanced with later
  cases advanced
  -- the accumulators kept: those of the rounds after the new one
  set futures := (List.range' (strategy.currentRound + 1)
    (round - (strategy.currentRound + 1))).foldl
      (fun futures irrelevant => futures.erase irrelevant) strategy.futureAccumulators
    with futuresEq
  have kept : ∀ key accumulator, futures.lookup key = some accumulator →
      AccumulatorSafe setup log key accumulator := by
    intro key accumulator found
    rw [futuresEq, lookup_foldl_erase] at found
    split_ifs at found
    exact node.state.future key accumulator found
  set current := (futures.lookup round).getD
    (Accumulator.new round (bftThreshold strategy.nodes strategy.maxFaulty)
      (context.roundProposer round)) with currentEq
  have currentSafe : AccumulatorSafe setup log round current := by
    cases found : futures.lookup round with
    | some accumulator =>
        rw [currentEq, found, Option.getD_some]
        exact kept round accumulator found
    | none =>
        rw [currentEq, found, Option.getD_none, node.state.threshold_eq]
        exact accumulatorSafe_new round _
  have newRound : current.roundNumber = round := currentSafe.round_eq
  refine ⟨⟨⟨node.state.nodes_eq, node.state.maxFaulty_eq, ?_, ?_, ?_⟩, ⟨?_, ?_, ?_⟩⟩, newRound⟩
  · show AccumulatorSafe setup log current.roundNumber current
    rw [newRound]
    exact currentSafe
  · intro key accumulator found
    by_cases same : key = round
    · subst same
      simp at found
    · rw [AList.lookup_erase_ne same] at found
      exact kept key accumulator found
  · intro justification locked
    obtain ⟨reached, quorum⟩ := node.state.locked justification locked
    show justification.unchecked.roundNumber ≤ current.roundNumber ∧ _
    exact ⟨by omega, quorum⟩
  · intro message member own
    have := node.history.sent_round message member own
    show message.roundNumber ≤ current.roundNumber
    omega
  · -- nothing of the new round was sent yet
    intro digest sent
    change SentPrepare log context.localId current.roundNumber digest at sent
    obtain ⟨signature, member⟩ := sent
    have := node.history.sent_round _ member rfl
    simp only [LocalizedMessage.roundNumber, Vote.roundNumber] at this
    omega
  · exact node.history.committed

/-- Locking to a prepare quorum of a reached round, no older than the lock,
keeps an authority safe. -/
theorem NodeSafe.lock (node : NodeSafe setup context log strategy)
    {justification : Justification D S}
    (reached : justification.unchecked.roundNumber ≤ strategy.currentRound)
    (newer : ∀ locked, strategy.locked = some locked →
      locked.unchecked.roundNumber ≤ justification.unchecked.roundNumber)
    (quorum : PrepareQuorum setup log justification.unchecked.roundNumber
      justification.unchecked.digest) :
    NodeSafe setup context log { strategy with locked := some justification } where
  state := { node.state with
    locked := by
      rintro _ ⟨⟩
      exact ⟨reached, quorum⟩ }
  history := { node.history with
    committed := by
      intro round digest sent
      obtain ⟨locked, lockedEq, atMost⟩ := node.history.committed round digest sent
      exact ⟨justification, rfl, atMost.trans (newer locked lockedEq)⟩ }

/-- Locking to the prepare justification of the current round keeps an
authority safe. -/
theorem NodeSafe.lockCurrent (node : NodeSafe setup context log strategy)
    {justification : Justification D S}
    (current : justification.unchecked.roundNumber = strategy.currentRound)
    (quorum : PrepareQuorum setup log justification.unchecked.roundNumber
      justification.unchecked.digest) :
    NodeSafe setup context log { strategy with locked := some justification } :=
  node.lock current.le
    (fun locked lockedEq => current ▸ (node.state.locked locked lockedEq).1) quorum

/-- Importing a lock proof that is a prepare quorum keeps an authority safe. -/
theorem NodeSafe.importLockProof (node : NodeSafe setup context log strategy)
    {justification : Justification D S}
    (quorum : PrepareQuorum setup log justification.unchecked.roundNumber
      justification.unchecked.digest)
    {next : Strategy C D V S} (imported : strategy.importLockProof context justification = some next) :
    NodeSafe setup context log next := by
  -- the lock at the end, from any safe strategy that reached the proof's round,
  -- whatever decides to lock when that decision keeps the lock's round below
  have locks : ∀ moved : Strategy C D V S, NodeSafe setup context log moved →
      justification.unchecked.roundNumber ≤ moved.currentRound → ∀ lockToNew : Bool,
      (lockToNew = true → ∀ locked, moved.locked = some locked →
        locked.unchecked.roundNumber ≤ justification.unchecked.roundNumber) →
      NodeSafe setup context log
        (if lockToNew = true then { moved with locked := some justification } else moved) := by
    intro moved movedSafe reached lockToNew below
    split_ifs with locking
    · exact movedSafe.lock reached (below locking) quorum
    · exact movedSafe
  unfold Strategy.importLockProof at imported
  split_ifs at imported with later
  · cases advanced : strategy.advanceToRound context justification.unchecked.roundNumber with
    | none => simp [advanced] at imported
    | some moved =>
        obtain ⟨movedSafe, movedRound⟩ := node.advanceToRound advanced
        simp only [advanced, Option.bind_eq_bind, Option.bind_some, Option.pure_def,
          Option.some.injEq] at imported
        refine imported ▸ locks moved movedSafe movedRound.ge _
          fun lockToNew locked lockedEq => ?_
        rw [lockedEq] at lockToNew
        exact (of_decide_eq_true lockToNew).le
  · simp only [Option.pure_def, Option.bind_eq_bind, Option.bind_some,
      Option.some.injEq] at imported
    refine imported ▸ locks strategy node (Nat.le_of_not_lt later) _
      fun lockToNew locked lockedEq => ?_
    rw [lockedEq] at lockToNew
    exact (of_decide_eq_true lockToNew).le

end Bft
end Polkadot
