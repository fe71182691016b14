import Polkadot.Bft.NodeSafe

/-!
# One poll of an honest authority keeps everything safe

`poll_once` runs `propose`, `prepare`, `commit` and `vote_advance`, each of
which may sign, import and send one message of the current round, and then
moves to the next round when the round advanced.  Each of the four keeps the
log and the authority safe (`Keeps`), by `keeps_send` for the message it sends:
`prepare` sends the only prepare of the round, for the digest it is locked to
when it is locked; `commit` sends a commit of a prepare justification it has
just locked to.  Chained, and followed by the move to the next round, they
keep everything safe over a whole poll (`NodeSafe.pollOnce`), and a commit the
poll returns is a commit quorum of the log.
-/

namespace Polkadot
namespace Bft

variable {C D V S : Type} [DecidableEq D] [DecidableEq V] {setup : Setup V}
  {log : Log C D V S} {context : Context C D V S} {strategy : Strategy C D V S}

/-! ## Signed messages -/

omit [DecidableEq D] [DecidableEq V] in
/-- A message the context signs is sent by the local identity. -/
@[simp] theorem Context.signLocal_sender (message : Message C D) :
    (context.signLocal message).sender = context.localId := by
  cases message <;> rfl

omit [DecidableEq D] [DecidableEq V] in
/-- The votes one signed message adds. -/
theorem sentVote_signLocal {message : Message C D} {voter : V} {vote : Vote D} :
    SentVote [Communication.consensus (context.signLocal message)] voter vote ↔
      voter = context.localId ∧ message = .vote vote := by
  cases message with
  | propose round candidate => simp [SentVote, voteMessage, Context.signLocal]
  | vote signed =>
      simp only [SentVote, voteMessage, Context.signLocal, List.mem_singleton,
        Communication.consensus.injEq, LocalizedMessage.vote.injEq, LocalizedVote.mk.injEq,
        Message.vote.injEq]
      constructor
      · rintro ⟨_, rfl, rfl, _⟩
        exact ⟨rfl, rfl⟩
      · rintro ⟨rfl, rfl⟩
        exact ⟨_, rfl, rfl, rfl⟩

/-! ## Operations that keep everything safe -/

variable (setup) in
/-- An operation of the authority of `context` in `round` that left its strategy
at `next` and sent `out`: the log and the authority are still safe, the round
is the same, and `out` holds only its own messages of the round. -/
structure Keeps (context : Context C D V S) (log : Log C D V S) (round : Nat)
    (next : Strategy C D V S) (out : Log C D V S) : Prop where
  log_safe : LogSafe setup (log ++ out)
  node_safe : NodeSafe setup context (log ++ out) next
  round_eq : next.currentRound = round
  own : ∀ message, Communication.consensus message ∈ out →
    message.sender = context.localId ∧ message.roundNumber = round

/-- An operation that sends nothing. -/
theorem Keeps.silent (safe : LogSafe setup log) {next : Strategy C D V S}
    (node : NodeSafe setup context log next) {round : Nat} (sameRound : next.currentRound = round) :
    Keeps setup context log round next [] where
  log_safe := by rw [List.append_nil]; exact safe
  node_safe := by rw [List.append_nil]; exact node
  round_eq := sameRound
  own := by simp

/-- Two steps that each keep the invariants keep them together, over the messages of both. -/
theorem Keeps.trans {round : Nat} {middle next : Strategy C D V S} {first second : Log C D V S}
    (before : Keeps setup context log round middle first)
    (after : Keeps setup context (log ++ first) middle.currentRound next second) :
    Keeps setup context log round next (first ++ second) where
  log_safe := by rw [← List.append_assoc]; exact after.log_safe
  node_safe := by rw [← List.append_assoc]; exact after.node_safe
  round_eq := after.round_eq.trans before.round_eq
  own := by
    intro message member
    rcases List.mem_append.mp member with old | new
    · exact before.own message old
    · exact ⟨(after.own message new).1, (after.own message new).2.trans before.round_eq⟩

/-- Changing the local state keeps an authority safe when the new state is past
preparing, or nothing of the round was prepared. -/
theorem NodeSafe.setLocalState (node : NodeSafe setup context log strategy) (localState : LocalState)
    (prepared : (localState ≠ .start ∧ localState ≠ .proposed) ∨
      ∀ digest, ¬ SentPrepare log context.localId strategy.currentRound digest) :
    NodeSafe setup context log { strategy with localState := localState } where
  state := ⟨node.state.nodes_eq, node.state.maxFaulty_eq, node.state.current, node.state.future,
    node.state.locked⟩
  history := {
    sent_round := node.history.sent_round
    prepared := by
      intro digest sent
      rcases prepared with past | none
      · exact past
      · exact absurd sent (none digest)
    committed := node.history.committed }

/-- Setting the local state keeps the invariants, where the node has prepared or sent no prepare in
the round. -/
theorem Keeps.setLocalState {round : Nat} {next : Strategy C D V S} {out : Log C D V S}
    (keeps : Keeps setup context log round next out) (localState : LocalState)
    (prepared : (localState ≠ .start ∧ localState ≠ .proposed) ∨
      ∀ digest, ¬ SentPrepare (log ++ out) context.localId round digest) :
    Keeps setup context log round { next with localState := localState } out :=
  { keeps with
    node_safe := keeps.node_safe.setLocalState localState (keeps.round_eq ▸ prepared) }

/-- The fused round timeout is not part of what keeps an authority safe. -/
theorem NodeSafe.setRoundTimeoutDone (node : NodeSafe setup context log strategy) (done : Bool) :
    NodeSafe setup context log { strategy with roundTimeoutDone := done } :=
  ⟨⟨node.state.nodes_eq, node.state.maxFaulty_eq, node.state.current, node.state.future,
    node.state.locked⟩, ⟨node.history.sent_round, node.history.prepared, node.history.committed⟩⟩

/-- Sending a lock proof along. -/
theorem Keeps.withLockProof {round : Nat} {next : Strategy C D V S} {out : Log C D V S}
    (keeps : Keeps setup context log round next out) (locked : Option (Justification D S)) :
    Keeps setup context log round next
      (match locked with
        | some locked => out ++ [.auxiliary locked]
        | none => out) := by
  cases locked with
  | none => exact keeps
  | some locked =>
      -- a lock proof is no consensus message: it adds no vote
      have noVote : ∀ voter (vote : Vote D),
          ¬ SentVote ([.auxiliary locked] : Log C D V S) voter vote := by
        simp [SentVote, voteMessage]
      have noConsensus : ∀ message,
          Communication.consensus message ∉ ([.auxiliary locked] : Log C D V S) := by
        simp
      have own : ∀ message, Communication.consensus message ∈ ([.auxiliary locked] : Log C D V S) →
          message.sender = context.localId ∧ message.roundNumber = next.currentRound :=
        fun message member => absurd member (noConsensus message)
      refine ⟨?_, ?_, keeps.round_eq, ?_⟩
      · rw [← List.append_assoc]
        exact keeps.log_safe.append own keeps.node_safe.history.sent_round
          (fun _ _ sent => absurd sent (noVote _ _)) (fun _ sent => absurd sent (noVote _ _))
          (fun _ sent => absurd sent (noVote _ _))
      · rw [← List.append_assoc]
        exact keeps.node_safe.append_other fun message member => absurd member (noConsensus message)
      · intro message member
        rcases List.mem_append.mp member with old | new
        · exact keeps.own message old
        · exact absurd new (noConsensus message)

/-- Signing, importing and sending one message of the round keeps everything
safe, given that a prepare is sent from past the start of the round, is the
first of the round, and after a commit of an earlier round follows a prepare
quorum no older than the commit; and that a commit has a prepare quorum and is
covered by the lock. -/
theorem keeps_send (safe : LogSafe setup log) (honest : context.localId ∈ setup.honest)
    {sender : Strategy C D V S} (node : NodeSafe setup context log sender)
    (message : Message C D)
    (messageRound : (context.signLocal message).roundNumber = sender.currentRound)
    (prepareOk : ∀ digest, message = .vote (.prepare sender.currentRound digest) →
      (sender.localState ≠ .start ∧ sender.localState ≠ .proposed) ∧
      (∀ other, ¬ SentPrepare log context.localId sender.currentRound other) ∧
      ∀ round committed, round < sender.currentRound →
        SentCommit log context.localId round committed →
        ∃ lockRound, round ≤ lockRound ∧ PrepareQuorum setup log lockRound digest)
    (commitOk : ∀ digest, message = .vote (.commit sender.currentRound digest) →
      PrepareQuorum setup log sender.currentRound digest ∧
        ∃ justification, sender.locked = some justification ∧
          sender.currentRound ≤ justification.unchecked.roundNumber) :
    Keeps setup context log sender.currentRound
      (sender.importMessage context (context.signLocal message))
      [.consensus (context.signLocal message)] := by
  have grows : ∀ sent ∈ log, sent ∈ log ++ [.consensus (context.signLocal message)] :=
    fun _ member => List.mem_append_left _ member
  have admissible : Admissible setup (log ++ [.consensus (context.signLocal message)])
      (context.signLocal message) :=
    ⟨by rw [Context.signLocal_sender]; exact setup.honest_subset honest,
      fun _ => List.mem_append_right _ (List.mem_singleton_self _)⟩
  obtain ⟨state, sameRound⟩ := (node.state.mono grows).importMessage admissible
  have own : ∀ signed, Communication.consensus signed ∈
      ([.consensus (context.signLocal message)] : Log C D V S) →
      signed.sender = context.localId ∧ signed.roundNumber = sender.currentRound := by
    intro signed member
    obtain rfl : signed = context.signLocal message := by simpa using member
    exact ⟨Context.signLocal_sender message, messageRound⟩
  -- a vote the message adds is of the round
  have added : ∀ {voter : V} {vote : Vote D},
      SentVote [Communication.consensus (context.signLocal message)] voter vote →
      voter = context.localId ∧ message = .vote vote ∧ vote.roundNumber = sender.currentRound :=
    fun sent => ⟨(sentVote_signLocal.mp sent).1, (sentVote_signLocal.mp sent).2,
      (sent.of_own own).2⟩
  refine ⟨?_, ⟨state, ?_, ?_, ?_⟩, sameRound, own⟩
  · refine safe.append own node.history.sent_round ?_ ?_ ?_
    · intro digest other sent sentOther
      obtain ⟨-, isPrepare, -⟩ := added sent
      obtain ⟨-, noneBefore, -⟩ := prepareOk digest isPrepare
      rcases sentVote_append.mp sentOther with old | new
      · exact absurd old (noneBefore other)
      · obtain ⟨-, otherPrepare, -⟩ := added new
        rw [isPrepare] at otherPrepare
        simpa using otherPrepare
    · intro digest sent
      obtain ⟨-, isCommit, -⟩ := added sent
      exact (commitOk digest isCommit).1.mono fun _ member => List.mem_append_left _ member
    · intro digest sent
      obtain ⟨-, isPrepare, -⟩ := added sent
      exact (prepareOk digest isPrepare).2.2
  · intro signed member isOwn
    rw [sameRound]
    rcases List.mem_append.mp member with old | new
    · exact node.history.sent_round signed old isOwn
    · exact (own signed new).2.le
  · intro digest sent
    rw [sameRound] at sent
    rw [Strategy.importMessage_localState]
    rcases sentVote_append.mp sent with old | new
    · exact node.history.prepared digest old
    · exact (prepareOk digest (added new).2.1).1
  · intro round digest sent
    rw [Strategy.importMessage_locked]
    rcases sentVote_append.mp sent with old | new
    · exact node.history.committed round digest old
    · -- the commit sent is of the round, and covered by the lock
      obtain ⟨-, isCommit, commitRound⟩ := added new
      simp only [Vote.roundNumber] at commitRound
      subst commitRound
      exact (commitOk digest isCommit).2

/-! ## The four operations of a poll -/

namespace Strategy

variable {resolutions : Resolutions C} {candidate : C}

/-- What `prepare` decides moves to a prepared state, if anywhere. -/
theorem prepareFor_localState {localState : LocalState}
    (decided : (strategy.prepareFor context resolutions candidate).1 = some localState) :
    ∃ valid, localState = .prepared valid := by
  cases lockedEq : strategy.locked with
  | some locked =>
      simp only [prepareFor, lockedEq] at decided
      split_ifs at decided
      cases decided
      exact ⟨true, rfl⟩
  | none =>
      simp only [prepareFor, lockedEq] at decided
      cases evaluation : resolutions.evaluation with
      | none => simp [evaluation] at decided
      | some valid =>
          simp only [evaluation, Option.some.injEq] at decided
          exact ⟨valid, decided.symm⟩

/-- A prepare is decided together with a prepared state, and by a locked
authority only for the digest of its lock. -/
theorem prepareFor_digest {digest : D}
    (decided : (strategy.prepareFor context resolutions candidate).2 = some digest) :
    (∃ valid, (strategy.prepareFor context resolutions candidate).1 = some (.prepared valid)) ∧
      ∀ locked, strategy.locked = some locked → locked.unchecked.digest = digest := by
  cases lockedEq : strategy.locked with
  | some locked =>
      simp only [prepareFor, lockedEq] at decided ⊢
      split_ifs at decided ⊢ with same
      simp only [Option.some.injEq] at decided
      subst decided
      exact ⟨⟨true, rfl⟩, fun other otherEq => by cases otherEq; exact same⟩
  | none =>
      simp only [prepareFor, lockedEq] at decided ⊢
      cases evaluation : resolutions.evaluation with
      | none => simp [evaluation] at decided
      | some valid =>
          exact ⟨⟨valid, by simp⟩, fun _ none => by cases none⟩

end Strategy

section Operations

variable (resolutions : Resolutions C)

/-- `propose` keeps everything safe: a proposal is no vote. -/
theorem keeps_propose (safe : LogSafe setup log) (node : NodeSafe setup context log strategy)
    (honest : context.localId ∈ setup.honest) :
    Keeps setup context log strategy.currentRound (strategy.propose context resolutions).1
      (strategy.propose context resolutions).2 := by
  unfold Strategy.propose
  split
  case h_1 =>
    rename_i startState _
    split_ifs
    split
    case h_1 =>
      rename_i proposal _
      have sent := keeps_send safe honest node (.propose strategy.currentRound proposal) rfl
        (by simp) (by simp)
      -- the round has not been started, so nothing of it was prepared
      have noPrepare : ∀ digest, ¬ SentPrepare
          (log ++ [.consensus (context.signLocal (.propose strategy.currentRound proposal))])
          context.localId strategy.currentRound digest := by
        intro digest prepared
        rcases sentVote_append.mp prepared with old | new
        · exact node.history.not_sentPrepare (.inl startState) digest old
        · simp [sentVote_signLocal] at new
      exact (sent.setLocalState .proposed (.inr noPrepare)).withLockProof _
    all_goals exact Keeps.silent safe node rfl
  all_goals exact Keeps.silent safe node rfl

/-- `prepare` keeps everything safe: it prepares from the start of the round or
after proposing, once, and a locked authority prepares the digest of its
lock. -/
theorem keeps_prepare (safe : LogSafe setup log) (node : NodeSafe setup context log strategy)
    (honest : context.localId ∈ setup.honest) :
    Keeps setup context log strategy.currentRound (strategy.prepare context resolutions).1
      (strategy.prepare context resolutions).2 := by
  unfold Strategy.prepare
  split
  case h_1 | h_2 =>
    rename_i candidate localStateEq _
    -- nothing of the round was prepared yet
    have noPrepare := node.history.not_sentPrepare (by simp [localStateEq])
    rcases decided : strategy.prepareFor context resolutions candidate with ⟨localState, digest⟩
    cases digest with
    | none =>
        cases localState with
        | none => exact Keeps.silent safe node rfl
        | some localState =>
            obtain ⟨valid, rfl⟩ := Strategy.prepareFor_localState (by rw [decided])
            exact Keeps.silent safe (node.setLocalState _ (.inl ⟨by simp, by simp⟩)) rfl
    | some digest =>
        obtain ⟨⟨valid, localStateEq⟩, lockedDigest⟩ := Strategy.prepareFor_digest
          (by rw [decided])
        rw [decided] at localStateEq
        cases localStateEq
        have sender := node.setLocalState (.prepared valid) (.inl ⟨by simp, by simp⟩)
        refine keeps_send safe honest sender (.vote (.prepare strategy.currentRound digest)) rfl
          ?_ (by simp)
        intro prepared isPrepare
        simp only [Message.vote.injEq, Vote.prepare.injEq] at isPrepare
        obtain ⟨-, rfl⟩ := isPrepare
        refine ⟨⟨by simp, by simp⟩, noPrepare, ?_⟩
        -- after a commit the authority is locked, and prepares the digest of its lock
        intro round committed _ sentCommit
        obtain ⟨locked, lockedEq, atMost⟩ := node.history.committed round committed sentCommit
        refine ⟨locked.unchecked.roundNumber, atMost, ?_⟩
        rw [← lockedDigest locked lockedEq]
        exact (node.state.locked locked lockedEq).2
  case h_3 => exact Keeps.silent safe node rfl

/-- `commit` keeps everything safe: it locks to the round's prepare
justification, a prepare quorum, and commits its digest. -/
theorem keeps_commit (safe : LogSafe setup log) (node : NodeSafe setup context log strategy)
    (honest : context.localId ∈ setup.honest) :
    Keeps setup context log strategy.currentRound (strategy.commit context).1
      (strategy.commit context).2 := by
  unfold Strategy.commit
  split
  case h_3 =>
    rename_i justification prepared _ _
    obtain ⟨current, quorum⟩ := node.state.current.prepareQuorum (.inl prepared)
    have locked := node.lockCurrent current (current ▸ quorum)
    have sent := keeps_send safe honest locked
      (.vote (.commit strategy.currentRound justification.unchecked.digest)) rfl (by simp)
      (fun digest isCommit => by
        simp only [Message.vote.injEq, Vote.commit.injEq] at isCommit
        obtain ⟨-, rfl⟩ := isCommit
        exact ⟨quorum, justification, rfl, current.ge⟩)
    exact sent.setLocalState .committed (.inl ⟨by simp, by simp⟩)
  all_goals exact Keeps.silent safe node rfl

/-- `vote_advance` keeps everything safe: an advance vote is no prepare and no
commit. -/
theorem keeps_voteAdvance (safe : LogSafe setup log) (node : NodeSafe setup context log strategy)
    (honest : context.localId ∈ setup.honest) :
    Keeps setup context log strategy.currentRound (strategy.voteAdvance context resolutions).1
      (strategy.voteAdvance context resolutions).2 := by
  unfold Strategy.voteAdvance
  split
  · exact Keeps.silent safe node rfl
  · -- the strategy after the round timeout, fired or not
    have timed : ∀ done : Bool,
        NodeSafe setup context log { strategy with roundTimeoutDone := done } :=
      node.setRoundTimeoutDone
    dsimp only
    split_ifs
    · exact (keeps_send safe honest (timed true) (.vote (.advanceRound strategy.currentRound))
        rfl (by simp) (by simp)).setLocalState .voteAdvance (.inl ⟨by simp, by simp⟩)
    · exact (keeps_send safe honest node (.vote (.advanceRound strategy.currentRound))
        rfl (by simp) (by simp)).setLocalState .voteAdvance (.inl ⟨by simp, by simp⟩)
    · exact Keeps.silent safe (timed true) rfl
    · exact Keeps.silent safe node rfl

end Operations

/-! ## A whole poll -/

/-- A poll keeps the log and the authority safe and sends only the authority's
own messages; a commit it returns is a commit quorum of the log. -/
theorem NodeSafe.pollOnce (safe : LogSafe setup log) (node : NodeSafe setup context log strategy)
    (honest : context.localId ∈ setup.honest) {resolutions : Resolutions C}
    {next : Strategy C D V S} {sent : Log C D V S} {committed : Option (Committed C D S)}
    (polled : strategy.pollOnce context resolutions = some (next, sent, committed)) :
    LogSafe setup (log ++ sent) ∧ NodeSafe setup context (log ++ sent) next ∧
      (∀ message, Communication.consensus message ∈ sent → message.sender = context.localId) ∧
      ∀ commit ∈ committed, CommitQuorum setup (log ++ sent)
        commit.justification.unchecked.roundNumber commit.justification.unchecked.digest := by
  -- the four operations, one after the other
  have proposed := keeps_propose resolutions safe node honest
  have prepared :=
    proposed.trans (keeps_prepare resolutions proposed.log_safe proposed.node_safe honest)
  have commits := prepared.trans (keeps_commit prepared.log_safe prepared.node_safe honest)
  have voted :=
    commits.trans (keeps_voteAdvance resolutions commits.log_safe commits.node_safe honest)
  simp only [Strategy.pollOnce] at polled
  generalize (((((strategy.propose context resolutions).1.prepare context resolutions).1.commit
    context).1.voteAdvance context resolutions).1) = polledStrategy at voted polled
  have own : ∀ message, Communication.consensus message ∈ _ → message.sender = context.localId :=
    fun message member => (voted.own message member).1
  split at polled
  case h_1 justification advanced =>
    -- lock to the round's prepare justification, if any, and move to the next round
    have lockedSafe : ∀ {out : Log C D V S}, NodeSafe setup context (log ++ out) polledStrategy →
        NodeSafe setup context (log ++ out) (match justification with
          | some justification => { polledStrategy with locked := some justification }
          | none => polledStrategy) := by
      intro out polledSafe
      cases justification with
      | none => exact polledSafe
      | some justification =>
          obtain ⟨roundEq, quorum⟩ := polledSafe.state.current.prepareQuorum (.inr advanced)
          exact polledSafe.lockCurrent roundEq (roundEq ▸ quorum)
    have locked := lockedSafe voted.node_safe
    simp only [Option.bind_eq_bind] at polled
    obtain ⟨moved, movedEq, polled⟩ := Option.bind_eq_some_iff.mp polled
    simp only [Option.pure_def, Option.some.injEq, Prod.mk.injEq] at polled
    obtain ⟨rfl, rfl, rfl⟩ := polled
    exact ⟨voted.log_safe, (locked.advanceToRound movedEq).1, own, by simp⟩
  case h_2 justification committedState =>
    simp only [Option.pure_def, Option.some.injEq, Prod.mk.injEq] at polled
    obtain ⟨rfl, rfl, rfl⟩ := polled
    refine ⟨voted.log_safe, voted.node_safe, own, ?_⟩
    rintro commit ⟨⟩
    obtain ⟨roundEq, quorum⟩ := voted.node_safe.state.current.commitQuorum committedState
    show CommitQuorum setup _ justification.unchecked.roundNumber justification.unchecked.digest
    rw [roundEq]
    exact quorum
  case h_3 =>
    simp only [Option.pure_def, Option.some.injEq, Prod.mk.injEq] at polled
    obtain ⟨rfl, rfl, rfl⟩ := polled
    exact ⟨voted.log_safe, voted.node_safe, own, by simp⟩

end Bft
end Polkadot
