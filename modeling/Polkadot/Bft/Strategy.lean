import Polkadot.Bft.Accumulator

/-!
# The agreement strategy of one authority

`generic/mod.rs`: `Strategy` drives one authority through the rounds of the
agreement.  It keeps the accumulator of the current round and of every future
round it has heard of, the prepare justification it is locked to, and its own
progress in the round (`LocalState`).  Each `poll_once` proposes when it is the
round's primary, prepares a proposal it is not locked against, commits once the
round has a prepare justification, votes to advance on a bad proposal, on `f +
1` advance votes or on the round timeout, and moves to the next round when the
round advanced.  A lock proof from the network moves the authority forward to
its round and locks it there when it is newer than its lock.

The futures the strategy polls (the proposal being built, its evaluation, the
round timeout) resolve whenever the outside world decides: `pollOnce` takes what
they resolved to (`Resolutions`).  `poll` repeats `poll_once` until nothing
changes, so the runs of `pollOnce` steps include the runs of `poll`.
-/

namespace Polkadot
namespace Bft

/-- `Communication`: a consensus message, or a lock proof. -/
inductive Communication (C D V S : Type)
  | consensus (message : LocalizedMessage C D V S)
  | auxiliary (justification : Justification D S)
  deriving DecidableEq, Repr

/-- `LocalState`: the progress of the authority in the current round. -/
inductive LocalState
  | start
  | proposed
  | prepared (valid : Bool)
  | committed
  | voteAdvance
  deriving DecidableEq, Repr

/-- `Committed`: the justification of a commit, with the candidate when known. -/
structure Committed (C D S : Type) where
  candidate : Option C
  justification : Justification D S

/-- The part of `Context` the strategy uses.  `sign_local` is `sign_message`:
the local authority signs the message, a proposal under its digest. -/
structure Context (C D V S : Type) where
  localId : V
  candidateDigest : C → D
  roundProposer : Nat → V
  signHeader : Nat → D → S
  signProposal : Nat → C → S
  signVote : Vote D → S

/-- `sign_local`. -/
def Context.signLocal {C D V S : Type} (context : Context C D V S) :
    Message C D → LocalizedMessage C D V S
  | .propose round candidate =>
      .propose ⟨round, candidate, context.candidateDigest candidate, context.localId,
        context.signHeader round (context.candidateDigest candidate),
        context.signProposal round candidate⟩
  | .vote vote => .vote ⟨vote, context.localId, context.signVote vote⟩

/-- What the futures a `poll_once` reaches resolved to: the proposal being
built, the evaluation of the round's proposal, and the round timeout. -/
structure Resolutions (C : Type) where
  proposal : Option C
  evaluation : Option Bool
  timeout : Bool

/-- `bft_threshold`. -/
def bftThreshold (nodes maxFaulty : Nat) : Nat := nodes - maxFaulty

/-- `Strategy`.  `roundTimeoutDone` records that the fused round timeout has
resolved: a `Fuse` resolves once. -/
structure Strategy (C D V S : Type) [DecidableEq D] [DecidableEq V] where
  nodes : Nat
  maxFaulty : Nat
  roundTimeoutDone : Bool
  localState : LocalState
  locked : Option (Justification D S)
  notableCandidates : AList (fun _ : D => C)
  currentAccumulator : Accumulator C D V S
  futureAccumulators : AList (fun _ : Nat => Accumulator C D V S)
  localId : V
  misbehavior : AList (fun _ : V => Misbehavior D S)

namespace Strategy

variable {C D V S : Type} [DecidableEq D] [DecidableEq V] (context : Context C D V S)

/-- `Strategy::create`. -/
def create (nodes maxFaulty : Nat) : Strategy C D V S where
  nodes := nodes
  maxFaulty := maxFaulty
  roundTimeoutDone := false
  localState := .start
  locked := none
  notableCandidates := ∅
  currentAccumulator := Accumulator.new 0 (bftThreshold nodes maxFaulty) (context.roundProposer 0)
  futureAccumulators := ∅
  localId := context.localId
  misbehavior := ∅

/-- `current_round`. -/
def currentRound (strategy : Strategy C D V S) : Nat := strategy.currentAccumulator.roundNumber

/-- The accumulator a message of a future round goes to (`or_insert_with`). -/
def futureAccumulator (strategy : Strategy C D V S) (round : Nat) : Accumulator C D V S :=
  (strategy.futureAccumulators.lookup round).getD
    (Accumulator.new round (bftThreshold strategy.nodes strategy.maxFaulty)
      (context.roundProposer round))

/-- `import_message`: into the current accumulator, or the one of its future
round; messages of past rounds are dropped, and misbehavior is recorded
against the sender. -/
def importMessage (strategy : Strategy C D V S) (message : LocalizedMessage C D V S) :
    Strategy C D V S :=
  let round := message.roundNumber
  if round = strategy.currentRound then
    match strategy.currentAccumulator.importMessage message with
    | .ok accumulator => { strategy with currentAccumulator := accumulator }
    | .error misbehavior =>
        { strategy with misbehavior := strategy.misbehavior.insert message.sender misbehavior }
  else if strategy.currentRound < round then
    let future := strategy.futureAccumulator context round
    match future.importMessage message with
    | .ok accumulator =>
        { strategy with futureAccumulators := strategy.futureAccumulators.insert round accumulator }
    | .error misbehavior =>
        { strategy with
          futureAccumulators := strategy.futureAccumulators.insert round future
          misbehavior := strategy.misbehavior.insert message.sender misbehavior }
  else strategy

/-- The candidates worth keeping: the proposal of the round being left, under
its digest, unless one is kept there already. -/
def noteCandidate (strategy : Strategy C D V S) : AList (fun _ : D => C) :=
  match strategy.currentAccumulator.proposal with
  | some proposal =>
      let digest := context.candidateDigest proposal.proposal
      if (strategy.notableCandidates.lookup digest).isSome then strategy.notableCandidates
      else strategy.notableCandidates.insert digest proposal.proposal
  | none => strategy.notableCandidates

/-- `advance_to_round`: asserts the round is later; drops the accumulators of
the rounds skipped, and takes the stored accumulator of the new round, or a
fresh one. -/
def advanceToRound (strategy : Strategy C D V S) (round : Nat) : Option (Strategy C D V S) :=
  if strategy.currentRound < round then
    let futures := (List.range' (strategy.currentRound + 1) (round - (strategy.currentRound + 1))).foldl
      (fun futures irrelevant => futures.erase irrelevant) strategy.futureAccumulators
    let current := (futures.lookup round).getD
      (Accumulator.new round (bftThreshold strategy.nodes strategy.maxFaulty)
        (context.roundProposer round))
    some { strategy with
      roundTimeoutDone := false
      localState := .start
      notableCandidates := strategy.noteCandidate context
      currentAccumulator := current
      futureAccumulators := futures.erase round }
  else none

/-- `import_lock_proof`: move forward to the round of the proof, and lock to it
when it is newer than the lock. -/
def importLockProof (strategy : Strategy C D V S) (justification : Justification D S) :
    Option (Strategy C D V S) := do
  let strategy ← if strategy.currentRound < justification.unchecked.roundNumber then
      strategy.advanceToRound context justification.unchecked.roundNumber
    else pure strategy
  let lockToNew := match strategy.locked with
    | some locked => decide (locked.unchecked.roundNumber < justification.unchecked.roundNumber)
    | none => true
  pure (if lockToNew then { strategy with locked := some justification } else strategy)

/-- `import_and_send_message`: sign, import, and send. -/
def importAndSendMessage (strategy : Strategy C D V S) (message : Message C D) :
    Strategy C D V S × List (Communication C D V S) :=
  let signed := context.signLocal message
  (strategy.importMessage context signed, [.consensus signed])

/-- The proposal of the primary: the candidate it is locked to, if it still has
it, else the one being built. -/
def proposalToSend (strategy : Strategy C D V S) (resolutions : Resolutions C) : Option C :=
  match strategy.locked with
  | some locked => strategy.notableCandidates.lookup locked.unchecked.digest
  | none => resolutions.proposal

/-- `propose`: the round's primary proposes at the start of the round, with its
lock proof when it is locked. -/
def propose (strategy : Strategy C D V S) (resolutions : Resolutions C) :
    Strategy C D V S × List (Communication C D V S) :=
  match strategy.localState, strategy.currentAccumulator.state with
  | .start, .begin =>
      if strategy.localId = context.roundProposer strategy.currentRound then
        match strategy.proposalToSend resolutions with
        | some proposal =>
            let (strategy, sent) :=
              strategy.importAndSendMessage context (.propose strategy.currentRound proposal)
            let sent := match strategy.locked with
              | some locked => sent ++ [.auxiliary locked]
              | none => sent
            ({ strategy with localState := .proposed }, sent)
        | none => (strategy, [])
      else (strategy, [])
  | _, _ => (strategy, [])

/-- What `prepare` decides about the round's proposal: a locked authority
prepares the candidate it is locked to without evaluating it, an unlocked one
once the evaluation says it is valid. -/
def prepareFor (strategy : Strategy C D V S) (resolutions : Resolutions C) (candidate : C) :
    Option LocalState × Option D :=
  let digest := context.candidateDigest candidate
  match strategy.locked with
  | some locked =>
      if locked.unchecked.digest = digest then (some (.prepared true), some digest)
      else (none, none)
  | none =>
      match resolutions.evaluation with
      | some valid => (some (.prepared valid), if valid then some digest else none)
      | none => (none, none)

/-- `prepare`: only at the start of the round or after proposing, once there
is a proposal. -/
def prepare (strategy : Strategy C D V S) (resolutions : Resolutions C) :
    Strategy C D V S × List (Communication C D V S) :=
  match strategy.localState, strategy.currentAccumulator.state with
  | .start, .proposed candidate | .proposed, .proposed candidate =>
      let (localState, digest) := strategy.prepareFor context resolutions candidate
      let strategy := match localState with
        | some localState => { strategy with localState }
        | none => strategy
      match digest with
      | some digest => strategy.importAndSendMessage context (.vote (.prepare strategy.currentRound digest))
      | none => (strategy, [])
  | _, _ => (strategy, [])

/-- `commit`: once the round has a prepare justification, lock to it and
commit, unless already committed or voted to advance. -/
def commit (strategy : Strategy C D V S) : Strategy C D V S × List (Communication C D V S) :=
  match strategy.localState, strategy.currentAccumulator.state with
  | .committed, _ | .voteAdvance, _ => (strategy, [])
  | _, .prepared justification =>
      let strategy := { strategy with locked := some justification }
      let (strategy, sent) := strategy.importAndSendMessage context
        (.vote (.commit strategy.currentRound justification.unchecked.digest))
      ({ strategy with localState := .committed }, sent)
  | _, _ => (strategy, [])

/-- `vote_advance`: on more than `f` advance votes, a proposal evaluated as
bad, or the round timeout resolving. -/
def voteAdvance (strategy : Strategy C D V S) (resolutions : Resolutions C) :
    Strategy C D V S × List (Communication C D V S) :=
  match strategy.localState with
  | .voteAdvance => (strategy, [])
  | localState =>
      let attempt := decide (strategy.maxFaulty < strategy.currentAccumulator.advanceRound.card) ||
        localState == .prepared false
      -- the fused timeout resolves once
      let fires := resolutions.timeout && !strategy.roundTimeoutDone
      let strategy := if fires then { strategy with roundTimeoutDone := true } else strategy
      if attempt || fires then
        let (strategy, sent) := strategy.importAndSendMessage context
          (.vote (.advanceRound strategy.currentRound))
        ({ strategy with localState := .voteAdvance }, sent)
      else (strategy, [])

/-- The candidate a commit is for: the round's proposal when its digest is the
committed one, else a notable candidate of that digest. -/
def committedCandidate (strategy : Strategy C D V S) (digest : D) : Option C :=
  ((strategy.currentAccumulator.proposal).bind fun proposal =>
      if context.candidateDigest proposal.proposal = digest then some proposal.proposal else none).orElse
    fun _ => strategy.notableCandidates.lookup digest

/-- `poll_once`: propose, prepare, commit and vote to advance, then move to the
next round when this one advanced, locking to its prepare justification, or
return the commit. -/
def pollOnce (strategy : Strategy C D V S) (resolutions : Resolutions C) :
    Option (Strategy C D V S × List (Communication C D V S) × Option (Committed C D S)) := do
  let (strategy, proposed) := strategy.propose context resolutions
  let (strategy, prepared) := strategy.prepare context resolutions
  let (strategy, committed) := strategy.commit context
  let (strategy, advanced) := strategy.voteAdvance context resolutions
  let sent := proposed ++ prepared ++ committed ++ advanced
  match strategy.currentAccumulator.state with
  | .advanced justification =>
      let strategy := match justification with
        | some justification => { strategy with locked := some justification }
        | none => strategy
      let strategy ← strategy.advanceToRound context (strategy.currentRound + 1)
      pure (strategy, sent, none)
  | .committed justification =>
      pure (strategy, sent,
        some ⟨strategy.committedCandidate context justification.unchecked.digest, justification⟩)
  | _ => pure (strategy, sent, none)

end Strategy

end Bft
end Polkadot
