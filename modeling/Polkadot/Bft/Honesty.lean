import Polkadot.Bft.Rounds

/-!
# An honest strategy never equivocates

What `Strategy` of `generic/mod.rs` signs and sends through
`import_and_send_message`.  Inside a round the local state only moves forward
(`Start`, `Proposed`, `Prepared`, `Committed`, `VoteAdvance`).  Each of
`propose`, `prepare`, `commit` and `vote_advance` signs a message only from a
state below the stage of that message, and leaves the state at that stage
(`Sends`); `advance_to_round` resets the state only in a round nothing was sent
in.  So the messages of each round are sent in the order of their stages, at
most one of each kind, and a proposal only by the round's primary
(`Disciplined`), whatever messages, lock proofs and resolutions of its futures
the strategy is given.  A prepare a poll sends is for the digest the strategy
is locked to, if it is locked.
-/

namespace Polkadot
namespace Bft

/-! ## Stages of a round -/

section Stages

variable {C D V S : Type}

/-- The stage of a round a message belongs to: proposing, preparing, committing
and voting to advance, in the order a round goes through them. -/
def LocalizedMessage.stage : LocalizedMessage C D V S → Nat
  | .propose _ => 1
  | .vote ⟨.prepare _ _, _, _⟩ => 2
  | .vote ⟨.commit _ _, _, _⟩ => 3
  | .vote ⟨.advanceRound _, _, _⟩ => 4

/-- The stage of the round the local state has reached. -/
def LocalState.stage : LocalState → Nat
  | .start => 0
  | .proposed => 1
  | .prepared _ => 2
  | .committed => 3
  | .voteAdvance => 4

/-- The consensus messages of a log, in order. -/
def consensusOf (log : Log C D V S) : List (LocalizedMessage C D V S) :=
  log.filterMap fun
    | .consensus message => some message
    | .auxiliary _ => none

/-- An empty log holds no consensus messages. -/
@[simp] theorem consensusOf_nil : consensusOf ([] : Log C D V S) = [] := rfl

/-- The consensus messages of a joined log are those of each part. -/
@[simp] theorem consensusOf_append (log more : Log C D V S) :
    consensusOf (log ++ more) = consensusOf log ++ consensusOf more :=
  List.filterMap_append

/-- A consensus message heads the consensus messages of its log. -/
@[simp] theorem consensusOf_cons_consensus (message : LocalizedMessage C D V S) (log : Log C D V S) :
    consensusOf (.consensus message :: log) = message :: consensusOf log := rfl

/-- An auxiliary justification is no consensus message. -/
@[simp] theorem consensusOf_cons_auxiliary (justification : Justification D S) (log : Log C D V S) :
    consensusOf (.auxiliary justification :: log) = consensusOf log := rfl

/-- The consensus messages of a log are its messages sent as consensus. -/
theorem mem_consensusOf {message : LocalizedMessage C D V S} {log : Log C D V S} :
    message ∈ consensusOf log ↔ Communication.consensus message ∈ log := by
  simp only [consensusOf, List.mem_filterMap]
  constructor
  · rintro ⟨communication, member, selected⟩
    cases communication with
    | consensus signed =>
        cases selected
        exact member
    | auxiliary _ => cases selected
  · intro member
    exact ⟨_, member, rfl⟩

/-- The messages of round `round`, in order. -/
def roundOf (messages : List (LocalizedMessage C D V S)) (round : Nat) :
    List (LocalizedMessage C D V S) :=
  messages.filter fun message => message.roundNumber = round

/-- No message is of a round in an empty list. -/
@[simp] theorem roundOf_nil (round : Nat) : roundOf ([] : List (LocalizedMessage C D V S)) round = [] :=
  rfl

/-- The messages of a round in a joined list are those of each part. -/
@[simp] theorem roundOf_append (messages more : List (LocalizedMessage C D V S)) (round : Nat) :
    roundOf (messages ++ more) round = roundOf messages round ++ roundOf more round :=
  List.filter_append _ _

/-- The messages of a round are the messages whose round it is. -/
theorem mem_roundOf {message : LocalizedMessage C D V S} {messages : List (LocalizedMessage C D V S)}
    {round : Nat} : message ∈ roundOf messages round ↔ message ∈ messages ∧ message.roundNumber = round := by
  simp [roundOf]

/-- Messages sent in the order of their stages hold each stage at most once. -/
theorem eq_of_stage_eq {messages : List (LocalizedMessage C D V S)}
    (ordered : messages.Pairwise fun first second => first.stage < second.stage)
    {message other : LocalizedMessage C D V S} (member : message ∈ messages) (otherMember : other ∈ messages)
    (sameStage : message.stage = other.stage) : message = other := by
  have distinct : (messages.map LocalizedMessage.stage).Nodup :=
    (List.pairwise_map.mpr ordered).imp Nat.ne_of_lt
  exact List.inj_on_of_nodup_map distinct member otherMember sameStage

/-- Messages sent in strictly increasing stages hold each stage at most once. -/
theorem count_stage_le_one {messages : List (LocalizedMessage C D V S)}
    (ordered : messages.Pairwise fun first second => first.stage < second.stage) (stage : Nat) :
    (messages.map LocalizedMessage.stage).count stage ≤ 1 := by
  have strict : (messages.map LocalizedMessage.stage).Pairwise (· < ·) := List.pairwise_map.mpr ordered
  exact List.nodup_iff_count_le_one.mp (strict.imp Nat.ne_of_lt) stage

end Stages

variable {C D V S : Type} [DecidableEq D] [DecidableEq V]

/-! ## What the operations keep -/

namespace Strategy

variable (context : Context C D V S) (strategy : Strategy C D V S)

/-- Importing a message keeps the local identity. -/
@[simp] theorem importMessage_localId (message : LocalizedMessage C D V S) :
    (strategy.importMessage context message).localId = strategy.localId := by
  obtain ⟨_, imported⟩ := importMessage_eq context strategy message
  rw [imported]

/-- Advancing to a round keeps the local identity. -/
theorem advanceToRound_localId {round : Nat} {next : Strategy C D V S}
    (advanced : strategy.advanceToRound context round = some next) : next.localId = strategy.localId := by
  unfold advanceToRound at advanced
  split_ifs at advanced
  cases advanced
  rfl

variable {context} {strategy}

/-- `import_lock_proof` keeps the identity, and the local state unless it moved
to the proof's round, which is later. -/
theorem RoundsKept.importLockProof_localState (kept : strategy.RoundsKept)
    {justification : Justification D S} {next : Strategy C D V S}
    (imported : strategy.importLockProof context justification = some next) :
    next.localId = strategy.localId ∧
      (next.currentRound = strategy.currentRound → next.localState = strategy.localState) := by
  unfold Strategy.importLockProof at imported
  split_ifs at imported with later
  · obtain ⟨moved, movedEq, -, movedRound⟩ := kept.advanceToRound context later
    simp only [movedEq, Option.bind_eq_bind, Option.bind_some, Option.pure_def, Option.some.injEq] at imported
    -- locked or not, the strategy is the one of the proof's round
    have frame : next.localId = moved.localId ∧ next.currentRound = moved.currentRound := by
      split_ifs at imported <;> subst imported <;> exact ⟨rfl, rfl⟩
    refine ⟨frame.1.trans (advanceToRound_localId context strategy movedEq), fun same => ?_⟩
    omega
  · simp only [Option.pure_def, Option.bind_eq_bind, Option.bind_some, Option.some.injEq] at imported
    split_ifs at imported <;> subst imported <;> exact ⟨rfl, fun _ => rfl⟩

end Strategy

/-! ## The four operations of a poll -/

namespace Strategy

/-- Two strategies that import alike: they hold the same accumulators and the
same recorded misbehavior. -/
structure ImportsAlike (strategy other : Strategy C D V S) : Prop where
  current : strategy.currentAccumulator = other.currentAccumulator
  future : strategy.futureAccumulators = other.futureAccumulators
  misbehavior : strategy.misbehavior = other.misbehavior

/-- A strategy imports alike to itself. -/
theorem ImportsAlike.rfl {strategy : Strategy C D V S} : ImportsAlike strategy strategy :=
  ⟨Eq.refl _, Eq.refl _, Eq.refl _⟩

end Strategy

/-- What one of `propose`, `prepare`, `commit` and `vote_advance`, of stage
`stage`, did to `strategy`: it kept the identity, and sent no consensus
message, the local state not going back; or signed one message of its stage and
of the round, from a state below that stage, and left the state at that stage.
A proposal is signed only by the round's primary.  Its accumulators and
recorded misbehavior are those of `strategy`, or those of importing the message
into a strategy that imports like `strategy`. -/
inductive Sends (context : Context C D V S) (stage : Nat) (strategy : Strategy C D V S) :
    Strategy C D V S → Log C D V S → Prop
  | silent {next : Strategy C D V S} {out : Log C D V S} :
      next.localId = strategy.localId → strategy.localState.stage ≤ next.localState.stage →
        next.ImportsAlike strategy → consensusOf out = [] → Sends context stage strategy next out
  | signs {next : Strategy C D V S} {out : Log C D V S} (message : Message C D) (before : Strategy C D V S) :
      next.localId = strategy.localId →
      (context.signLocal message).roundNumber = strategy.currentRound →
      (context.signLocal message).stage = stage →
      strategy.localState.stage < stage → next.localState.stage = stage →
      (∀ proposal, context.signLocal message = .propose proposal →
        context.roundProposer proposal.roundNumber = strategy.localId) →
      before.ImportsAlike strategy → next.ImportsAlike (before.importMessage context (context.signLocal message)) →
      consensusOf out = [context.signLocal message] → Sends context stage strategy next out

/-- Every consensus message a step sends is of the stage of the step. -/
theorem Sends.stage_eq {context : Context C D V S} {stage : Nat} {strategy next : Strategy C D V S}
    {out : Log C D V S} (sends : Sends context stage strategy next out) :
    ∀ message ∈ consensusOf out, message.stage = stage := by
  cases sends with
  | silent _ _ _ quiet => simp [quiet]
  | signs message _ _ _ stageEq _ _ _ _ _ signed =>
      intro sent member
      rw [signed, List.mem_singleton] at member
      exact member ▸ stageEq

namespace Strategy

variable (context : Context C D V S) (strategy : Strategy C D V S) (resolutions : Resolutions C)

/-- `propose` sends at stage 1. -/
theorem propose_sends :
    Sends context 1 strategy (strategy.propose context resolutions).1 (strategy.propose context resolutions).2 := by
  unfold propose
  split
  case h_1 start _ =>
    split_ifs with primary
    split
    case h_1 proposal _ =>
      refine .signs (.propose strategy.currentRound proposal) strategy (by simp [importAndSendMessage]) rfl rfl
        (by simp [start, LocalState.stage]) rfl ?_ .rfl ⟨rfl, rfl, rfl⟩ ?_
      · intro signed signedEq
        simp only [Context.signLocal, LocalizedMessage.propose.injEq] at signedEq
        subst signedEq
        exact primary.symm
      · -- the lock proof sent along is no consensus message
        split
        rename_i sentEq
        simp only [importAndSendMessage, Prod.mk.injEq] at sentEq
        obtain ⟨-, rfl⟩ := sentEq
        split <;> simp
    all_goals exact .silent rfl le_rfl .rfl rfl
  all_goals exact .silent rfl le_rfl .rfl rfl

/-- `prepare` sends at stage 2. -/
theorem prepare_sends :
    Sends context 2 strategy (strategy.prepare context resolutions).1 (strategy.prepare context resolutions).2 := by
  unfold prepare
  split
  case h_1 | h_2 =>
    rename_i candidate localStateEq _
    have below : strategy.localState.stage < 2 := by
      rw [localStateEq]
      decide
    rcases decided : strategy.prepareFor context resolutions candidate with ⟨localState, digest⟩
    cases digest with
    | none =>
        cases localState with
        | none => exact .silent rfl le_rfl .rfl rfl
        | some localState =>
            obtain ⟨valid, rfl⟩ := prepareFor_localState (by rw [decided])
            exact .silent rfl below.le ⟨rfl, rfl, rfl⟩ rfl
    | some digest =>
        obtain ⟨⟨valid, localStateEq⟩, -⟩ := prepareFor_digest (by rw [decided])
        rw [decided] at localStateEq
        cases localStateEq
        exact .signs (.vote (.prepare strategy.currentRound digest)) { strategy with localState := .prepared valid }
          (by simp [importAndSendMessage]) rfl rfl below (by simp [importAndSendMessage, LocalState.stage])
          (by simp [Context.signLocal]) ⟨rfl, rfl, rfl⟩ .rfl rfl
  case h_3 => exact .silent rfl le_rfl .rfl rfl

/-- `commit` sends at stage 3. -/
theorem commit_sends :
    Sends context 3 strategy (strategy.commit context).1 (strategy.commit context).2 := by
  unfold commit
  split
  case h_3 =>
    rename_i justification prepared notCommitted notVoteAdvance
    have below : strategy.localState.stage < 3 := by
      cases localStateEq : strategy.localState with
      | committed => exact absurd localStateEq notCommitted
      | voteAdvance => exact absurd localStateEq notVoteAdvance
      | _ => simp [LocalState.stage]
    exact .signs (.vote (.commit strategy.currentRound justification.unchecked.digest))
      { strategy with locked := some justification } (by simp [importAndSendMessage]) rfl rfl below rfl
      (by simp [Context.signLocal]) ⟨rfl, rfl, rfl⟩ ⟨rfl, rfl, rfl⟩ rfl
  all_goals exact .silent rfl le_rfl .rfl rfl

/-- `vote_advance` sends at stage 4. -/
theorem voteAdvance_sends :
    Sends context 4 strategy (strategy.voteAdvance context resolutions).1
      (strategy.voteAdvance context resolutions).2 := by
  unfold voteAdvance
  split
  · exact .silent rfl le_rfl .rfl rfl
  · rename_i notVoteAdvance
    have below : strategy.localState.stage < 4 := by
      cases localStateEq : strategy.localState with
      | voteAdvance => exact absurd localStateEq notVoteAdvance
      | _ => simp [LocalState.stage]
    dsimp only
    split_ifs
    -- the round timeout is marked before the advance vote is signed
    all_goals first
      | exact .signs (.vote (.advanceRound strategy.currentRound)) { strategy with roundTimeoutDone := true }
          (by simp [importAndSendMessage]) rfl rfl below rfl (by simp [Context.signLocal]) ⟨rfl, rfl, rfl⟩
          ⟨rfl, rfl, rfl⟩ rfl
      | exact .signs (.vote (.advanceRound strategy.currentRound)) strategy
          (by simp [importAndSendMessage]) rfl rfl below rfl (by simp [Context.signLocal]) .rfl
          ⟨rfl, rfl, rfl⟩ rfl
      | exact .silent rfl le_rfl ⟨rfl, rfl, rfl⟩ rfl

/-- `propose` does not touch the lock. -/
@[simp] theorem propose_locked : (strategy.propose context resolutions).1.locked = strategy.locked := by
  unfold propose
  split
  case h_1 =>
    split_ifs
    split
    case h_1 => simp [importAndSendMessage]
    all_goals rfl
  all_goals rfl

/-- A prepare that `prepare` sends is for the digest of the lock, if there is one. -/
theorem prepare_locked {round : Nat} {digest : D} {sender : V} {signature : S}
    (member : LocalizedMessage.vote ⟨.prepare round digest, sender, signature⟩ ∈
      consensusOf (strategy.prepare context resolutions).2) :
    ∀ locked, strategy.locked = some locked → locked.unchecked.digest = digest := by
  unfold prepare at member
  split at member
  case h_1 | h_2 =>
    rename_i candidate _ _
    rcases decided : strategy.prepareFor context resolutions candidate with ⟨localState, prepared⟩
    rw [decided] at member
    cases prepared with
    | none => cases localState <;> simp at member
    | some prepared =>
        obtain ⟨-, lockedDigest⟩ := prepareFor_digest (by rw [decided])
        have sameDigest : digest = prepared := by
          cases localState <;>
            simp [importAndSendMessage, Context.signLocal] at member <;> exact member.1.2
        exact sameDigest ▸ lockedDigest
  case h_3 => simp at member

/-- What `poll_once` returned: the messages of the four operations in turn, and
the strategy they left, or, when the round advanced, the next round's strategy
after locking to the round's prepare justification, if any. -/
theorem pollOnce_eq {next : Strategy C D V S} {out : Log C D V S} {committed : Option (Committed C D S)}
    (polled : strategy.pollOnce context resolutions = some (next, out, committed)) :
    let proposed := strategy.propose context resolutions
    let prepared := proposed.1.prepare context resolutions
    let commits := prepared.1.commit context
    let voted := commits.1.voteAdvance context resolutions
    out = proposed.2 ++ prepared.2 ++ commits.2 ++ voted.2 ∧
      (next = voted.1 ∨
        ∃ locked : Strategy C D V S,
          (locked = voted.1 ∨ ∃ justification,
            voted.1.currentAccumulator.state = .advanced (some justification) ∧
              locked = { voted.1 with locked := some justification }) ∧
          locked.advanceToRound context (locked.currentRound + 1) = some next) := by
  simp only [Strategy.pollOnce] at polled
  split at polled
  case h_1 justification advanced =>
    simp only [Option.bind_eq_bind] at polled
    obtain ⟨moved, movedEq, polled⟩ := Option.bind_eq_some_iff.mp polled
    simp only [Option.pure_def, Option.some.injEq, Prod.mk.injEq] at polled
    obtain ⟨rfl, rfl, -⟩ := polled
    refine ⟨rfl, .inr ⟨_, ?_, movedEq⟩⟩
    cases justification with
    | none => exact .inl rfl
    | some justification => exact .inr ⟨justification, advanced, rfl⟩
  all_goals
    simp only [Option.pure_def, Option.some.injEq, Prod.mk.injEq] at polled
    obtain ⟨rfl, rfl, -⟩ := polled
    exact ⟨rfl, .inl rfl⟩

/-- A property of a strategy and the consensus messages it sent is kept by
`poll_once` when each of the four operations keeps it, and so do locking to the
prepare justification of an advanced round and moving on to the next round. -/
theorem pollOnce_induction (P : Strategy C D V S → List (LocalizedMessage C D V S) → Prop)
    (propose : ∀ strategy sent, P strategy sent →
      P (strategy.propose context resolutions).1 (sent ++ consensusOf (strategy.propose context resolutions).2))
    (prepare : ∀ strategy sent, P strategy sent →
      P (strategy.prepare context resolutions).1 (sent ++ consensusOf (strategy.prepare context resolutions).2))
    (commit : ∀ strategy sent, P strategy sent →
      P (strategy.commit context).1 (sent ++ consensusOf (strategy.commit context).2))
    (voteAdvance : ∀ strategy sent, P strategy sent →
      P (strategy.voteAdvance context resolutions).1
        (sent ++ consensusOf (strategy.voteAdvance context resolutions).2))
    (lock : ∀ strategy sent justification, P strategy sent →
      strategy.currentAccumulator.state = .advanced (some justification) →
        P { strategy with locked := some justification } sent)
    (advance : ∀ strategy sent next, P strategy sent →
      strategy.advanceToRound context (strategy.currentRound + 1) = some next → P next sent)
    {next : Strategy C D V S} {sent : List (LocalizedMessage C D V S)} {out : Log C D V S}
    {committed : Option (Committed C D S)} (start : P strategy sent)
    (polled : strategy.pollOnce context resolutions = some (next, out, committed)) :
    P next (sent ++ consensusOf out) := by
  have voted := voteAdvance _ _ (commit _ _ (prepare _ _ (propose _ _ start)))
  obtain ⟨rfl, moved⟩ := pollOnce_eq context strategy resolutions polled
  simp only [consensusOf_append, List.append_assoc] at voted ⊢
  rcases moved with rfl | ⟨locked, lockedEq, advanced⟩
  · exact voted
  · -- the strategy that moves on is the one the operations left, locked or not
    refine advance locked _ next ?_ advanced
    rcases lockedEq with rfl | ⟨justification, state, rfl⟩
    · exact voted
    · exact lock _ _ justification voted state

/-- A prepare `poll_once` sends is for the digest the strategy polled is locked
to, if it is locked: only `prepare` sends prepares, and `propose` before it
keeps the lock. -/
theorem pollOnce_prepare_locked {next : Strategy C D V S} {out : Log C D V S}
    {committed : Option (Committed C D S)}
    (polled : strategy.pollOnce context resolutions = some (next, out, committed))
    {round : Nat} {digest : D} {sender : V} {signature : S}
    (member : LocalizedMessage.vote ⟨.prepare round digest, sender, signature⟩ ∈ consensusOf out) :
    ∀ locked, strategy.locked = some locked → locked.unchecked.digest = digest := by
  obtain ⟨rfl, -⟩ := pollOnce_eq context strategy resolutions polled
  simp only [consensusOf_append, List.mem_append] at member
  -- the other operations send messages of other stages
  have notStage : ∀ stage, stage ≠ 2 → ∀ {strategy next : Strategy C D V S} {out : Log C D V S},
      Sends context stage strategy next out →
      LocalizedMessage.vote ⟨.prepare round digest, sender, signature⟩ ∉ consensusOf out :=
    fun stage other _ _ _ sends member => other (sends.stage_eq _ member).symm
  rcases member with ((proposed | prepared) | commits) | voted
  · exact absurd proposed (notStage 1 (by decide) (propose_sends context strategy resolutions))
  · rw [← propose_locked context strategy resolutions]
    exact prepare_locked context _ resolutions prepared
  · exact absurd commits (notStage 3 (by decide) (commit_sends context _))
  · exact absurd voted (notStage 4 (by decide) (voteAdvance_sends context _ resolutions))

/-- One step of a strategy's run, with the log of what it sent: a consensus
message that `admits` lets through imported, a lock proof imported, or a poll,
whose messages are sent. -/
inductive LoggedStep (context : Context C D V S) (admits : Log C D V S → LocalizedMessage C D V S → Prop) :
    Strategy C D V S × Log C D V S → Strategy C D V S × Log C D V S → Prop
  | importMessage (strategy : Strategy C D V S) (sent : Log C D V S) (message : LocalizedMessage C D V S) :
      admits sent message → LoggedStep context admits (strategy, sent) (strategy.importMessage context message, sent)
  | importLockProof {strategy next : Strategy C D V S} (sent : Log C D V S) (justification : Justification D S) :
      strategy.importLockProof context justification = some next →
        LoggedStep context admits (strategy, sent) (next, sent)
  | pollOnce {strategy next : Strategy C D V S} (sent : Log C D V S) (resolutions : Resolutions C)
      {out : Log C D V S} {committed : Option (Committed C D S)} :
      strategy.pollOnce context resolutions = some (next, out, committed) →
        LoggedStep context admits (strategy, sent) (next, sent ++ out)

end Strategy

/-! ## Disciplined sending -/

/-- What the consensus messages `sent` by the authority of `context`, in order,
say about its strategy: they are its own, of rounds it has reached, and a
proposal only of a round it is the primary of; in each round they come in the
order of their stages; and those of the current round are of stages the local
state has reached. -/
structure Disciplined (context : Context C D V S) (strategy : Strategy C D V S)
    (sent : List (LocalizedMessage C D V S)) : Prop where
  kept : strategy.RoundsKept
  localId_eq : strategy.localId = context.localId
  signed : ∀ message ∈ sent, message.sender = context.localId ∧ message.roundNumber ≤ strategy.currentRound
  proposer : ∀ proposal, LocalizedMessage.propose proposal ∈ sent →
    context.roundProposer proposal.roundNumber = context.localId
  ordered : ∀ round, (roundOf sent round).Pairwise fun first second => first.stage < second.stage
  reached : ∀ message ∈ roundOf sent strategy.currentRound, message.stage ≤ strategy.localState.stage

/-- The messages of `voter` among `sent` never equivocate: a proposal only of
a round it is the primary of, and in each round one message at most of each
stage. -/
structure Unequivocal (roundProposer : Nat → V) (voter : V) (sent : List (LocalizedMessage C D V S)) :
    Prop where
  proposer : ∀ proposal, LocalizedMessage.propose proposal ∈ sent → proposal.sender = voter →
    roundProposer proposal.roundNumber = voter
  unique : ∀ message ∈ sent, ∀ other ∈ sent, message.sender = voter → other.sender = voter →
    message.roundNumber = other.roundNumber → message.stage = other.stage → message = other

variable {context : Context C D V S}

/-- A fresh strategy is disciplined, having sent nothing. -/
theorem disciplined_create (nodes maxFaulty : Nat) :
    Disciplined context (Strategy.create context nodes maxFaulty) [] where
  kept := Strategy.roundsKept_create context nodes maxFaulty
  localId_eq := rfl
  signed := by simp
  proposer := by simp
  ordered := by simp
  reached := by simp

namespace Disciplined

variable {strategy : Strategy C D V S} {sent : List (LocalizedMessage C D V S)}
  (disc : Disciplined context strategy sent)
include disc

/-- A step that sends nothing, does not move the round back, and inside the
round does not move the local state back. -/
theorem silent {next : Strategy C D V S} (progress : Strategy.Progress strategy next)
    (localIdEq : next.localId = strategy.localId)
    (stays : next.currentRound = strategy.currentRound → strategy.localState.stage ≤ next.localState.stage) :
    Disciplined context next sent where
  kept := progress.kept
  localId_eq := localIdEq.trans disc.localId_eq
  signed message member :=
    ⟨(disc.signed message member).1, (disc.signed message member).2.trans progress.advances.round_le⟩
  proposer := disc.proposer
  ordered := disc.ordered
  reached message member := by
    -- a message of the round reached was sent in the round left, so the round stayed
    obtain ⟨member, roundEq⟩ := mem_roundOf.mp member
    have same : next.currentRound = strategy.currentRound :=
      le_antisymm (roundEq ▸ (disc.signed message member).2) progress.advances.round_le
    exact (disc.reached message (mem_roundOf.mpr ⟨member, roundEq.trans same⟩)).trans (stays same)

/-- A step inside the round that signs one message of the round, of a stage
above the local state, and reaches that stage. -/
theorem sign {next : Strategy C D V S} (within : Strategy.WithinRound strategy next)
    (localIdEq : next.localId = strategy.localId) {signed : LocalizedMessage C D V S}
    (sender : signed.sender = context.localId) (sameRound : signed.roundNumber = strategy.currentRound)
    (fresh : strategy.localState.stage < signed.stage) (reaches : next.localState.stage = signed.stage)
    (proposer : ∀ proposal, signed = .propose proposal →
      context.roundProposer proposal.roundNumber = strategy.localId) :
    Disciplined context next (sent ++ [signed]) where
  kept := within.kept
  localId_eq := localIdEq.trans disc.localId_eq
  signed message member := by
    rw [within.round_eq]
    rcases List.mem_append.mp member with old | new
    · exact disc.signed message old
    · rw [List.mem_singleton.mp new]
      exact ⟨sender, sameRound.le⟩
  proposer proposal member := by
    rcases List.mem_append.mp member with old | new
    · exact disc.proposer proposal old
    · exact (proposer proposal (List.mem_singleton.mp new).symm).trans disc.localId_eq
  ordered round := by
    rw [roundOf_append, List.pairwise_append]
    refine ⟨disc.ordered round, List.Pairwise.sublist (List.filter_sublist) (List.pairwise_singleton _ signed), ?_⟩
    -- the message signed comes after every earlier message of its round
    intro first firstMember second secondMember
    obtain ⟨secondIs, secondRound⟩ := mem_roundOf.mp secondMember
    rw [List.mem_singleton.mp secondIs] at secondRound ⊢
    obtain ⟨firstIn, firstRound⟩ := mem_roundOf.mp firstMember
    have current : first ∈ roundOf sent strategy.currentRound :=
      mem_roundOf.mpr ⟨firstIn, firstRound.trans (secondRound.symm.trans sameRound)⟩
    exact (disc.reached first current).trans_lt fresh
  reached message member := by
    rw [within.round_eq, roundOf_append, List.mem_append] at member
    rw [reaches]
    rcases member with old | new
    · exact (disc.reached message old).trans fresh.le
    · rw [List.mem_singleton.mp (mem_roundOf.mp new).1]

/-- Each of the four operations of a poll keeps its messages disciplined. -/
theorem operation {stage : Nat} {next : Strategy C D V S} {out : Log C D V S}
    (within : Strategy.WithinRound strategy next) (sends : Sends context stage strategy next out) :
    Disciplined context next (sent ++ consensusOf out) := by
  cases sends with
  | silent localIdEq atLeast _ quiet =>
      rw [quiet, List.append_nil]
      exact disc.silent within.toProgress localIdEq fun _ => atLeast
  | signs message _ localIdEq sameRound stageEq fresh reaches proposer _ _ signed =>
      rw [signed]
      exact disc.sign within localIdEq (Context.signLocal_sender message) sameRound (stageEq ▸ fresh)
        (reaches.trans stageEq.symm) proposer

/-- Importing a message keeps a strategy disciplined: it sends nothing. -/
theorem importMessage (message : LocalizedMessage C D V S) :
    Disciplined context (strategy.importMessage context message) sent :=
  disc.silent (disc.kept.importMessage context message).toProgress (by simp) fun _ => by simp

/-- Importing a lock proof keeps a strategy disciplined. -/
theorem importLockProof {justification : Justification D S} {next : Strategy C D V S}
    (imported : strategy.importLockProof context justification = some next) :
    Disciplined context next sent := by
  obtain ⟨moved, movedEq, progress⟩ := disc.kept.importLockProof context justification
  obtain rfl : next = moved := Option.some.inj (imported.symm.trans movedEq)
  obtain ⟨localIdEq, stays⟩ := disc.kept.importLockProof_localState imported
  exact disc.silent progress localIdEq fun same => by rw [stays same]

omit disc in
/-- `poll_once` keeps the messages disciplined: so do its four operations, the
lock to the justification of the round it leaves, and the move to the next
round, in which nothing was sent. -/
theorem pollOnce (disc : Disciplined context strategy sent) {resolutions : Resolutions C}
    {next : Strategy C D V S} {out : Log C D V S} {committed : Option (Committed C D S)}
    (polled : strategy.pollOnce context resolutions = some (next, out, committed)) :
    Disciplined context next (sent ++ consensusOf out) := by
  refine Strategy.pollOnce_induction context strategy resolutions (Disciplined context) ?_ ?_ ?_ ?_ ?_ ?_ disc
    polled
  · exact fun strategy _ disc =>
      disc.operation (disc.kept.propose context resolutions) (strategy.propose_sends context resolutions)
  · exact fun strategy _ disc =>
      disc.operation (disc.kept.prepare context resolutions) (strategy.prepare_sends context resolutions)
  · exact fun strategy _ disc => disc.operation (disc.kept.commit context) (strategy.commit_sends context)
  · exact fun strategy _ disc =>
      disc.operation (disc.kept.voteAdvance context resolutions) (strategy.voteAdvance_sends context resolutions)
  · intro strategy _ justification disc advanced
    exact disc.silent (disc.kept.lockCurrent (by rw [advanced]; rfl)).toProgress rfl fun _ => le_rfl
  · intro strategy _ moved disc advanced
    obtain ⟨next, nextEq, progress, nextRound⟩ := disc.kept.advanceToRound context (Nat.lt_succ_self _)
    obtain rfl : moved = next := Option.some.inj (advanced.symm.trans nextEq)
    exact disc.silent progress (Strategy.advanceToRound_localId context strategy advanced)
      fun same => absurd (nextRound.symm.trans same) (Nat.succ_ne_self _)

omit disc in
/-- Every step of a run keeps the messages sent disciplined. -/
theorem step {admits : Log C D V S → LocalizedMessage C D V S → Prop}
    {state next : Strategy C D V S × Log C D V S} (disc : Disciplined context state.1 (consensusOf state.2))
    (step : Strategy.LoggedStep context admits state next) : Disciplined context next.1 (consensusOf next.2) := by
  cases step with
  | importMessage strategy sent message _ => exact disc.importMessage message
  | importLockProof sent justification imported => exact disc.importLockProof imported
  | pollOnce sent resolutions polled =>
      rw [consensusOf_append]
      exact disc.pollOnce polled

/-- The messages in each round, at most one of each stage. -/
theorem count_stage_le_one (round stage : Nat) :
    ((roundOf sent round).map LocalizedMessage.stage).count stage ≤ 1 :=
  Polkadot.Bft.count_stage_le_one (disc.ordered round) stage

/-- Two messages sent in one round at one stage are the same message. -/
theorem eq_of_stage_eq {message other : LocalizedMessage C D V S} (member : message ∈ sent)
    (otherMember : other ∈ sent) (sameRound : message.roundNumber = other.roundNumber)
    (sameStage : message.stage = other.stage) : message = other :=
  Polkadot.Bft.eq_of_stage_eq (disc.ordered message.roundNumber) (mem_roundOf.mpr ⟨member, rfl⟩)
    (mem_roundOf.mpr ⟨otherMember, sameRound.symm⟩) sameStage

/-- The messages sent never equivocate. -/
theorem unequivocal : Unequivocal context.roundProposer context.localId sent where
  proposer proposal member _ := disc.proposer proposal member
  unique _ member _ otherMember _ _ sameRound sameStage := disc.eq_of_stage_eq member otherMember sameRound sameStage

end Disciplined

/-- Along every run from `create`, whatever it imports, the messages the
strategy sent are disciplined. -/
theorem disciplined_of_run {admits : Log C D V S → LocalizedMessage C D V S → Prop} {nodes maxFaulty : Nat}
    {state : Strategy C D V S × Log C D V S}
    (run : Relation.ReflTransGen (Strategy.LoggedStep context admits) (Strategy.create context nodes maxFaulty, [])
      state) :
    Disciplined context state.1 (consensusOf state.2) := by
  induction run with
  | refl => exact disciplined_create nodes maxFaulty
  | tail _ step disc => exact disc.step step

end Bft
end Polkadot
