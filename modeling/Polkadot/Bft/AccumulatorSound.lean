import Polkadot.Bft.Accumulator
import Polkadot.Foundations.AListCount

/-!
# Justifications of an accumulator are sound

The accumulator rebuilds a justification from its map of first votes at the
moment the per-digest counter reaches the threshold.  Over any sequence of
imported messages the counters equal the number of first votes for each
digest and the maps hold exactly the first vote of each sender in the round,
so every justification in the state holds the signatures of at least
`threshold` distinct senders whose first vote was for its digest, and passes
`check` against a checker that maps each of them to its sender.
-/

namespace Polkadot
namespace Bft

open Foundations

set_option linter.unusedSectionVars false

variable {C D V S : Type} [DecidableEq D] [DecidableEq V]

/-! ## The first votes of a round -/

namespace LocalizedMessage

/-- The prepare of round `round` a message carries, with its sender. -/
def prepareIn (round : Nat) : LocalizedMessage C D V S → Option (V × D × S)
  | .vote ⟨.prepare voteRound digest, sender, signature⟩ =>
      if voteRound = round then some (sender, digest, signature) else none
  | _ => none

/-- The commit of round `round` a message carries, with its sender. -/
def commitIn (round : Nat) : LocalizedMessage C D V S → Option (V × D × S)
  | .vote ⟨.commit voteRound digest, sender, signature⟩ =>
      if voteRound = round then some (sender, digest, signature) else none
  | _ => none

/-- A message of another round carries no prepare of the round. -/
theorem prepareIn_of_ne {round : Nat} {message : LocalizedMessage C D V S}
    (otherRound : message.roundNumber ≠ round) : message.prepareIn round = none := by
  rcases message with proposal | ⟨_ | _ | _, sender, signature⟩ <;>
    simp_all [prepareIn, roundNumber, Vote.roundNumber]

/-- A message of another round carries no commit of the round. -/
theorem commitIn_of_ne {round : Nat} {message : LocalizedMessage C D V S}
    (otherRound : message.roundNumber ≠ round) : message.commitIn round = none := by
  rcases message with proposal | ⟨_ | _ | _, sender, signature⟩ <;>
    simp_all [commitIn, roundNumber, Vote.roundNumber]

end LocalizedMessage

/-- The first vote that `sender` sent among `messages`, of the kind `select`
picks out. -/
def firstVote (select : LocalizedMessage C D V S → Option (V × D × S)) (sender : V)
    (messages : List (LocalizedMessage C D V S)) : Option (D × S) :=
  ((messages.filterMap select).find? fun vote => decide (vote.1 = sender)).map (·.2)

/-- A sender's first vote in a log with one more message is its first vote before it, or else the
one in that message. -/
theorem firstVote_append_singleton (select : LocalizedMessage C D V S → Option (V × D × S))
    (sender : V) (messages : List (LocalizedMessage C D V S))
    (message : LocalizedMessage C D V S) :
    firstVote select sender (messages ++ [message]) =
      (firstVote select sender messages).or (firstVote select sender [message]) := by
  simp only [firstVote, List.filterMap_append, List.find?_append, Option.map_or]

/-- A message that carries no vote of the kind adds no first vote. -/
theorem firstVote_singleton_of_none {select : LocalizedMessage C D V S → Option (V × D × S)}
    {message : LocalizedMessage C D V S} (absent : select message = none) (sender : V) :
    firstVote select sender [message] = none := by
  simp [firstVote, absent]

/-- A message that carries a vote is its sender's first vote, and no one else's. -/
theorem firstVote_singleton_of_some {select : LocalizedMessage C D V S → Option (V × D × S)}
    {message : LocalizedMessage C D V S} {sender : V} {digest : D} {signature : S}
    (carried : select message = some (sender, digest, signature)) (other : V) :
    firstVote select other [message] = if sender = other then some (digest, signature) else none := by
  by_cases same : sender = other <;> simp [firstVote, carried, same]

section FirstVotes

/-- A message that carries a prepare of the round is that prepare. -/
theorem LocalizedMessage.prepareIn_eq_some {round : Nat} {message : LocalizedMessage C D V S}
    {sender : V} {digest : D} {signature : S}
    (carried : message.prepareIn round = some (sender, digest, signature)) :
    message = .vote ⟨.prepare round digest, sender, signature⟩ := by
  rcases message with proposal | ⟨_ | _ | _, voter, sig⟩ <;>
    simp [LocalizedMessage.prepareIn] at carried
  obtain ⟨rfl, rfl, rfl, rfl⟩ := carried
  rfl

/-- A message that carries a commit of the round is that commit. -/
theorem LocalizedMessage.commitIn_eq_some {round : Nat} {message : LocalizedMessage C D V S}
    {sender : V} {digest : D} {signature : S}
    (carried : message.commitIn round = some (sender, digest, signature)) :
    message = .vote ⟨.commit round digest, sender, signature⟩ := by
  rcases message with proposal | ⟨_ | _ | _, voter, sig⟩ <;>
    simp [LocalizedMessage.commitIn] at carried
  obtain ⟨rfl, rfl, rfl, rfl⟩ := carried
  rfl

/-- A first vote was carried by one of the messages. -/
theorem firstVote_mem {select : LocalizedMessage C D V S → Option (V × D × S)} {sender : V}
    {messages : List (LocalizedMessage C D V S)} {vote : D × S}
    (found : firstVote select sender messages = some vote) :
    ∃ message ∈ messages, select message = some (sender, vote.1, vote.2) := by
  obtain ⟨⟨voter, digest, signature⟩, entryFound, rfl⟩ := Option.map_eq_some_iff.mp found
  have isSender : voter = sender := by simpa using List.find?_some entryFound
  obtain ⟨message, member, selected⟩ := List.mem_filterMap.mp (List.mem_of_find?_eq_some entryFound)
  exact ⟨message, member, isSender ▸ selected⟩

end FirstVotes

/-! ## Backed justifications -/

/-- A justification of round `round` whose signatures are those of at least
`threshold` distinct senders, each of whose vote `votes` gives is for its
digest with that signature. -/
def Backed (round threshold : Nat) (votes : V → Option (D × S))
    (justification : Justification D S) : Prop :=
  justification.unchecked.roundNumber = round ∧
    ∃ voters : List (V × S), (voters.map Prod.fst).Nodup ∧ threshold ≤ voters.length ∧
      justification.unchecked.signatures = voters.map Prod.snd ∧
      ∀ voter ∈ voters, votes voter.1 = some (justification.unchecked.digest, voter.2)

/-- A justification backed by enough votes is backed by fewer. -/
theorem Backed.of_le {round threshold enough : Nat} {votes : V → Option (D × S)}
    {justification : Justification D S} (backed : Backed round enough votes justification)
    (le : threshold ≤ enough) : Backed round threshold votes justification := by
  obtain ⟨roundEq, voters, distinct, counted, signed, voted⟩ := backed
  exact ⟨roundEq, voters, distinct, Nat.le_trans le counted, signed, voted⟩

/-- Backing survives more votes, as long as no vote changes. -/
theorem Backed.mono {round threshold : Nat} {votes more : V → Option (D × S)}
    {justification : Justification D S} (backed : Backed round threshold votes justification)
    (kept : ∀ sender vote, votes sender = some vote → more sender = some vote) :
    Backed round threshold more justification := by
  obtain ⟨roundEq, voters, distinct, enough, signed, voted⟩ := backed
  exact ⟨roundEq, voters, distinct, enough, signed,
    fun voter member => kept _ _ (voted voter member)⟩

namespace Accumulator

/-- The justification built from the stored votes for a digest is backed by
them, by as many senders as there are votes for the digest. -/
theorem backed_signaturesFor {round built : Nat} (roundEq : built = round)
    (votes : AList (fun _ : V => D × S)) (digest : D) :
    Backed round (votes.entries.countP fun entry => decide (entry.2.1 = digest))
      votes.lookup ⟨⟨built, digest, signaturesFor votes digest⟩⟩ := by
  let chosen := votes.entries.filter fun entry => decide (entry.2.1 = digest)
  refine ⟨roundEq, chosen.map fun entry => (entry.1, entry.2.2), ?_, ?_, ?_, ?_⟩
  · -- the senders are keys of the map, hence distinct
    have keysNodup : (votes.entries.map Sigma.fst).Nodup := votes.nodupKeys
    have sub : (chosen.map Sigma.fst).Sublist (votes.entries.map Sigma.fst) :=
      (List.filter_sublist).map _
    simpa [List.map_map, Function.comp_def] using sub.nodup keysNodup
  · simp [chosen, List.countP_eq_length_filter]
  · simp [signaturesFor, chosen, List.map_map, Function.comp_def]
  · intro voter member
    obtain ⟨entry, chosenEntry, rfl⟩ := List.mem_map.mp member
    obtain ⟨stored, forDigest⟩ := List.mem_filter.mp chosenEntry
    have found : votes.lookup entry.1 = some entry.2 := AList.mem_lookup_iff.mpr stored
    simp only [decide_eq_true_eq] at forDigest
    show votes.lookup entry.1 = some (digest, entry.2.2)
    rw [found, ← forDigest]

/-! ## Tracked vote maps -/

/-- A map of first votes that holds, for every sender, its first vote among
`messages`, with a counter per digest equal to the number of its votes. -/
structure VotesTracked (select : LocalizedMessage C D V S → Option (V × D × S))
    (messages : List (LocalizedMessage C D V S)) (votes : AList (fun _ : V => D × S))
    (count : D → Nat) : Prop where
  lookup_eq : ∀ sender, votes.lookup sender = firstVote select sender messages
  count_eq : ∀ digest, count digest = votes.entries.countP fun entry => decide (entry.2.1 = digest)

section VotesTracked

variable {select : LocalizedMessage C D V S → Option (V × D × S)}
  {messages : List (LocalizedMessage C D V S)} {votes : AList (fun _ : V => D × S)}
  {count : D → Nat} {message : LocalizedMessage C D V S}

/-- An empty log tracks an empty table of votes with no counts. -/
theorem votesTracked_nil : VotesTracked select [] (∅ : AList (fun _ : V => D × S)) fun _ => 0 where
  lookup_eq := by simp [firstVote]
  count_eq := by simp

/-- A message without a vote of the kind changes nothing. -/
theorem VotesTracked.silent (tracked : VotesTracked select messages votes count)
    (absent : select message = none) :
    VotesTracked select (messages ++ [message]) votes count where
  lookup_eq := by
    intro sender
    rw [firstVote_append_singleton, firstVote_singleton_of_none absent, Option.or_none]
    exact tracked.lookup_eq sender
  count_eq := tracked.count_eq

/-- A later vote of a sender that already voted is not a first vote. -/
theorem VotesTracked.repeated (tracked : VotesTracked select messages votes count)
    {sender : V} {digest : D} {signature : S}
    (carried : select message = some (sender, digest, signature)) {first : D × S}
    (voted : votes.lookup sender = some first) :
    VotesTracked select (messages ++ [message]) votes count where
  lookup_eq := by
    intro other
    rw [firstVote_append_singleton, firstVote_singleton_of_some carried, ← tracked.lookup_eq]
    by_cases same : sender = other
    · subst same
      rw [voted, Option.some_or]
    · simp [same]
  count_eq := tracked.count_eq

/-- The first vote of a sender is stored, and counted for its digest. -/
theorem VotesTracked.first (tracked : VotesTracked select messages votes count)
    {sender : V} {digest : D} {signature : S}
    (carried : select message = some (sender, digest, signature))
    (fresh : votes.lookup sender = none) {counted : D → Nat}
    (counted_eq : counted digest = count digest + 1)
    (counted_ne : ∀ other, other ≠ digest → counted other = count other) :
    VotesTracked select (messages ++ [message]) (votes.insert sender (digest, signature))
      counted where
  lookup_eq := by
    intro other
    rw [firstVote_append_singleton, firstVote_singleton_of_some carried, ← tracked.lookup_eq]
    by_cases same : sender = other
    · subst same
      rw [AList.lookup_insert, fresh, Option.none_or, if_pos rfl]
    · rw [AList.lookup_insert_ne (Ne.symm same), if_neg same, Option.or_none]
  count_eq := by
    intro other
    have notMem : sender ∉ votes := by
      rw [← AList.lookup_eq_none]
      exact fresh
    rw [countP_entries_insert_of_notMem _ notMem, ← tracked.count_eq]
    by_cases same : other = digest
    · subst same
      simp [counted_eq]
    · simp [counted_ne other same, Ne.symm same]

/-- Storing a first vote keeps every stored vote. -/
theorem lookup_insert_of_fresh {sender : V} (fresh : votes.lookup sender = none)
    (vote : D × S) (other : V) (stored : D × S) (found : votes.lookup other = some stored) :
    (votes.insert sender vote).lookup other = some stored := by
  have different : other ≠ sender := by
    rintro rfl
    rw [fresh] at found
    cases found
  rw [AList.lookup_insert_ne different, found]

end VotesTracked

/-! ## The tracked accumulator -/

/-- What an accumulator of round `round` and threshold `threshold` holds
after importing `messages`: the first prepares and commits of the round, the
counters of each digest, and backed justifications in its state. -/
structure Tracked (round threshold : Nat) (messages : List (LocalizedMessage C D V S))
    (accumulator : Accumulator C D V S) : Prop where
  round_eq : accumulator.roundNumber = round
  threshold_eq : accumulator.threshold = threshold
  prepares : VotesTracked (LocalizedMessage.prepareIn round) messages accumulator.prepares
    fun digest => (accumulator.countsOf digest).prepared
  commits : VotesTracked (LocalizedMessage.commitIn round) messages accumulator.commits
    fun digest => (accumulator.countsOf digest).committed
  prepared_backed : ∀ justification,
    (accumulator.state = .prepared justification ∨
        accumulator.state = .advanced (some justification)) →
      Backed round threshold accumulator.prepares.lookup justification
  committed_backed : ∀ justification, accumulator.state = .committed justification →
    Backed round threshold accumulator.commits.lookup justification

variable {round threshold : Nat} {messages : List (LocalizedMessage C D V S)}
  {accumulator : Accumulator C D V S}

/-- A fresh accumulator tracks the empty log. -/
theorem tracked_new (round threshold : Nat) (roundProposer : V) :
    Tracked round threshold [] (new (C := C) (D := D) (S := S) round threshold roundProposer) where
  round_eq := rfl
  threshold_eq := rfl
  prepares := by
    simpa [new, countsOf, VoteCounts.zero] using votesTracked_nil
  commits := by
    simpa [new, countsOf, VoteCounts.zero] using votesTracked_nil
  prepared_backed := by simp [new]
  committed_backed := by simp [new]

/-- A message that carries neither a prepare nor a commit of the round adds
nothing to track. -/
theorem Tracked.silent (tracked : Tracked round threshold messages accumulator)
    {message : LocalizedMessage C D V S}
    (noPrepare : message.prepareIn round = none) (noCommit : message.commitIn round = none) :
    Tracked round threshold (messages ++ [message]) accumulator :=
  { tracked with
    prepares := tracked.prepares.silent noPrepare
    commits := tracked.commits.silent noCommit }

/-- Noting a proposal moves `Begin` to `Proposed` and nothing else. -/
theorem Tracked.noteProposal (tracked : Tracked round threshold messages accumulator)
    (proposal : LocalizedProposal C D V S) :
    Tracked round threshold messages (accumulator.noteProposal proposal) where
  round_eq := tracked.round_eq
  threshold_eq := tracked.threshold_eq
  prepares := tracked.prepares
  commits := tracked.commits
  prepared_backed := by
    intro justification inState
    apply tracked.prepared_backed justification
    unfold Accumulator.noteProposal at inState
    split at inState <;> simp_all
  committed_backed := by
    intro justification inState
    apply tracked.committed_backed justification
    unfold Accumulator.noteProposal at inState
    split at inState <;> simp_all

/-- Advancing keeps a prepared justification and every committed one. -/
theorem Tracked.importAdvanceRound (tracked : Tracked round threshold messages accumulator)
    (sender : V) :
    Tracked round threshold messages (accumulator.importAdvanceRound sender) where
  round_eq := by simpa using tracked.round_eq
  threshold_eq := by simpa using tracked.threshold_eq
  prepares := by simpa [countsOf] using tracked.prepares
  commits := by simpa [countsOf] using tracked.commits
  prepared_backed := by
    intro justification inState
    rw [importAdvanceRound_prepares]
    apply tracked.prepared_backed justification
    rcases accumulator.importAdvanceRound_state_cases sender with
      unchanged | ⟨prepared, wasPrepared, advanced⟩ | advancedNone
    · rwa [unchanged] at inState
    · rw [advanced] at inState
      simp only [reduceCtorEq, State.advanced.injEq, Option.some.injEq, false_or] at inState
      exact .inl (inState ▸ wasPrepared)
    · rw [advancedNone] at inState
      simp at inState
  committed_backed := by
    intro justification inState
    rw [importAdvanceRound_commits]
    apply tracked.committed_backed justification
    rcases accumulator.importAdvanceRound_state_cases sender with
      unchanged | ⟨prepared, -, advanced⟩ | advancedNone
    · rwa [unchanged] at inState
    · rw [advanced] at inState
      cases inState
    · rw [advancedNone] at inState
      cases inState

/-! ## First votes -/

/-- Writing the counts of one digest changes the counts of that digest only. -/
theorem countsOf_insert (votesCounts : AList (fun _ : D => VoteCounts)) (digest : D)
    (counts : VoteCounts) (other : D) :
    ({ accumulator with voteCounts := votesCounts.insert digest counts }).countsOf other =
      if other = digest then counts else (votesCounts.lookup other).getD VoteCounts.zero := by
  by_cases same : other = digest
  · subst same
    simp [countsOf]
  · simp [countsOf, AList.lookup_insert_ne same, same]

/-- A repeated prepare of a sender changes nothing, or is misbehavior. -/
theorem Tracked.repeatedPrepare (tracked : Tracked round threshold messages accumulator)
    {message : LocalizedMessage C D V S} {sender : V} {digest : D} {signature : S}
    (carried : message.prepareIn round = some (sender, digest, signature))
    (noCommit : message.commitIn round = none) {first : D × S}
    (voted : accumulator.prepares.lookup sender = some first) :
    Tracked round threshold (messages ++ [message]) accumulator :=
  { tracked with
    prepares := tracked.prepares.repeated carried voted
    commits := tracked.commits.silent noCommit }

/-- A repeated commit keeps the accumulator tracking the log with the message added. -/
theorem Tracked.repeatedCommit (tracked : Tracked round threshold messages accumulator)
    {message : LocalizedMessage C D V S} {sender : V} {digest : D} {signature : S}
    (carried : message.commitIn round = some (sender, digest, signature))
    (noPrepare : message.prepareIn round = none) {first : D × S}
    (voted : accumulator.commits.lookup sender = some first) :
    Tracked round threshold (messages ++ [message]) accumulator :=
  { tracked with
    prepares := tracked.prepares.silent noPrepare
    commits := tracked.commits.repeated carried voted }

/-- The first prepare of a sender is stored and counted, and a justification
built when the count reaches the threshold is backed. -/
theorem Tracked.firstPrepare (tracked : Tracked round threshold messages accumulator)
    {message : LocalizedMessage C D V S} {sender : V} {digest : D} {signature : S}
    (carried : message.prepareIn round = some (sender, digest, signature))
    (noCommit : message.commitIn round = none)
    (fresh : accumulator.prepares.lookup sender = none) {updated : Accumulator C D V S}
    (imported : accumulator.importPrepare digest sender signature = .ok updated) :
    Tracked round threshold (messages ++ [message]) updated := by
  unfold importPrepare at imported
  rw [fresh] at imported
  dsimp only at imported
  have prepares : VotesTracked (LocalizedMessage.prepareIn round) (messages ++ [message])
      (accumulator.prepares.insert sender (digest, signature)) fun other => (({ accumulator with
        voteCounts := accumulator.voteCounts.insert digest
          { accumulator.countsOf digest with prepared := (accumulator.countsOf digest).prepared + 1 } }
          : Accumulator C D V S).countsOf other).prepared :=
    tracked.prepares.first carried fresh (by simp [countsOf_insert])
      (fun other different => by simp [different, countsOf])
  have commits : VotesTracked (LocalizedMessage.commitIn round) (messages ++ [message])
      accumulator.commits fun other => (({ accumulator with
        voteCounts := accumulator.voteCounts.insert digest
          { accumulator.countsOf digest with prepared := (accumulator.countsOf digest).prepared + 1 } }
          : Accumulator C D V S).countsOf other).committed := by
    refine ⟨(tracked.commits.silent noCommit).lookup_eq, ?_⟩
    intro other
    rw [← tracked.commits.count_eq other, countsOf_insert]
    by_cases same : other = digest
    · simp [same]
    · simp [same, countsOf]
  have kept := lookup_insert_of_fresh fresh (digest, signature)
  split_ifs at imported with transition
  · -- the threshold is reached from `Begin` or `Proposed`
    cases imported
    refine ⟨tracked.round_eq, tracked.threshold_eq, prepares, commits, ?_, ?_⟩
    · rintro justification (prepared | advanced)
      · cases prepared
        have reached : threshold ≤ (accumulator.countsOf digest).prepared + 1 := by
          simp only [Bool.and_eq_true, decide_eq_true_eq] at transition
          rw [← tracked.threshold_eq]
          exact transition.2
        have backed := backed_signaturesFor tracked.round_eq
          (accumulator.prepares.insert sender (digest, signature)) digest
        rw [← prepares.count_eq digest] at backed
        exact backed.of_le (by simpa [countsOf_insert] using reached)
      · cases advanced
    · rintro justification ⟨⟩
  · cases imported
    refine ⟨tracked.round_eq, tracked.threshold_eq, prepares, commits, ?_, ?_⟩
    · intro justification inState
      exact (tracked.prepared_backed justification inState).mono kept
    · exact tracked.committed_backed

/-- The first commit of a sender is stored and counted; the transition to
`Committed` is taken from every state. -/
theorem Tracked.firstCommit (tracked : Tracked round threshold messages accumulator)
    {message : LocalizedMessage C D V S} {sender : V} {digest : D} {signature : S}
    (carried : message.commitIn round = some (sender, digest, signature))
    (noPrepare : message.prepareIn round = none)
    (fresh : accumulator.commits.lookup sender = none) {updated : Accumulator C D V S}
    (imported : accumulator.importCommit digest sender signature = .ok updated) :
    Tracked round threshold (messages ++ [message]) updated := by
  unfold importCommit at imported
  rw [fresh] at imported
  dsimp only at imported
  have commits : VotesTracked (LocalizedMessage.commitIn round) (messages ++ [message])
      (accumulator.commits.insert sender (digest, signature)) fun other => (({ accumulator with
        voteCounts := accumulator.voteCounts.insert digest
          { accumulator.countsOf digest with
            committed := (accumulator.countsOf digest).committed + 1 } }
          : Accumulator C D V S).countsOf other).committed :=
    tracked.commits.first carried fresh (by simp [countsOf_insert])
      (fun other different => by simp [different, countsOf])
  have prepares : VotesTracked (LocalizedMessage.prepareIn round) (messages ++ [message])
      accumulator.prepares fun other => (({ accumulator with
        voteCounts := accumulator.voteCounts.insert digest
          { accumulator.countsOf digest with
            committed := (accumulator.countsOf digest).committed + 1 } }
          : Accumulator C D V S).countsOf other).prepared := by
    refine ⟨(tracked.prepares.silent noPrepare).lookup_eq, ?_⟩
    intro other
    rw [← tracked.prepares.count_eq other, countsOf_insert]
    by_cases same : other = digest
    · simp [same]
    · simp [same, countsOf]
  have kept := lookup_insert_of_fresh fresh (digest, signature)
  split_ifs at imported with reached
  · cases imported
    refine ⟨tracked.round_eq, tracked.threshold_eq, prepares, commits, ?_, ?_⟩
    · intro justification inState
      simp at inState
    · rintro justification ⟨⟩
      have backed := backed_signaturesFor tracked.round_eq
        (accumulator.commits.insert sender (digest, signature)) digest
      rw [← commits.count_eq digest] at backed
      rw [← tracked.threshold_eq]
      exact backed.of_le (by simpa [countsOf_insert] using reached)
  · cases imported
    refine ⟨tracked.round_eq, tracked.threshold_eq, prepares, commits, ?_, ?_⟩
    · exact tracked.prepared_backed
    · intro justification inState
      exact (tracked.committed_backed justification inState).mono kept

/-- Import failures and acceptances alike keep the accumulator tracked. -/
theorem Tracked.importOrKeep (tracked : Tracked round threshold messages accumulator)
    (message : LocalizedMessage C D V S) :
    Tracked round threshold (messages ++ [message]) (accumulator.importOrKeep message) := by
  by_cases otherRound : message.roundNumber ≠ accumulator.roundNumber
  · -- a message of another round is ignored, and carries no vote of this round
    have ignored : accumulator.importOrKeep message = accumulator := by
      simp [Accumulator.importOrKeep, importMessage_of_ne _ otherRound]
    rw [ignored]
    rw [tracked.round_eq] at otherRound
    exact tracked.silent (LocalizedMessage.prepareIn_of_ne otherRound)
      (LocalizedMessage.commitIn_of_ne otherRound)
  · have sameRound : message.roundNumber = accumulator.roundNumber := not_not.mp otherRound
    unfold Accumulator.importOrKeep
    rcases message with proposal | ⟨vote, sender, signature⟩
    · -- a proposal: no vote, and at most `Begin` becomes `Proposed`
      have silent : Tracked round threshold (messages ++ [.propose proposal]) accumulator :=
        tracked.silent rfl rfl
      rw [importMessage_propose _ sameRound]
      cases imported : accumulator.importProposal proposal with
      | ok updated =>
          rw [importProposal_ok _ imported]
          exact silent.noteProposal proposal
      | error misbehavior => exact silent
    · cases vote with
      | prepare voteRound digest =>
          have sameVoteRound : voteRound = accumulator.roundNumber := sameRound
          have carried : (LocalizedMessage.vote ⟨.prepare voteRound digest, sender, signature⟩ :
              LocalizedMessage C D V S).prepareIn round = some (sender, digest, signature) := by
            simp [LocalizedMessage.prepareIn, sameVoteRound, tracked.round_eq]
          rw [importMessage_prepare _ _ _ _ sameVoteRound]
          cases found : accumulator.prepares.lookup sender with
          | none =>
              cases imported : accumulator.importPrepare digest sender signature with
              | ok updated => exact tracked.firstPrepare carried rfl found imported
              | error misbehavior =>
                  obtain ⟨first, voted⟩ := importPrepare_error _ imported
                  rw [found] at voted
                  cases voted
          | some first =>
              cases imported : accumulator.importPrepare digest sender signature with
              | ok updated =>
                  rw [importPrepare_ok_of_lookup _ found imported]
                  exact tracked.repeatedPrepare carried rfl found
              | error misbehavior => exact tracked.repeatedPrepare carried rfl found
      | commit voteRound digest =>
          have sameVoteRound : voteRound = accumulator.roundNumber := sameRound
          have carried : (LocalizedMessage.vote ⟨.commit voteRound digest, sender, signature⟩ :
              LocalizedMessage C D V S).commitIn round = some (sender, digest, signature) := by
            simp [LocalizedMessage.commitIn, sameVoteRound, tracked.round_eq]
          rw [importMessage_commit _ _ _ _ sameVoteRound]
          cases found : accumulator.commits.lookup sender with
          | none =>
              cases imported : accumulator.importCommit digest sender signature with
              | ok updated => exact tracked.firstCommit carried rfl found imported
              | error misbehavior =>
                  obtain ⟨first, voted⟩ := importCommit_error _ imported
                  rw [found] at voted
                  cases voted
          | some first =>
              cases imported : accumulator.importCommit digest sender signature with
              | ok updated =>
                  rw [importCommit_ok_of_lookup _ found imported]
                  exact tracked.repeatedCommit carried rfl found
              | error misbehavior => exact tracked.repeatedCommit carried rfl found
      | advanceRound voteRound =>
          have sameVoteRound : voteRound = accumulator.roundNumber := sameRound
          rw [importMessage_advanceRound _ _ _ sameVoteRound]
          exact (tracked.silent rfl rfl).importAdvanceRound sender

/-- A run of imports keeps the accumulator tracked. -/
theorem Tracked.importMessages (tracked : Tracked round threshold messages accumulator)
    (rest : List (LocalizedMessage C D V S)) :
    Tracked round threshold (messages ++ rest) (accumulator.importMessages rest) := by
  induction rest generalizing messages accumulator with
  | nil => simpa [Accumulator.importMessages] using tracked
  | cons message rest ih =>
      have run := ih (tracked.importOrKeep message)
      simpa [Accumulator.importMessages] using run

end Accumulator

/-! ## Checking a justification -/

namespace UncheckedJustification

variable {W : Type} [DecidableEq W]

/-- The signatures of distinct signers, each of which the checker maps to
its signer, all check out. -/
theorem checkSignatures_of_signers (checkMessage : S → Option W) (threshold : Nat) :
    ∀ (voters : List (W × S)) (voted : Finset W), (voters.map Prod.fst).Nodup →
      (∀ voter ∈ voters, voter.1 ∉ voted) →
      (∀ voter ∈ voters, checkMessage voter.2 = some voter.1) →
      checkSignatures checkMessage threshold voted (voters.map Prod.snd) =
        decide (threshold ≤ voted.card + voters.length)
  | [], voted, _, _, _ => by simp [checkSignatures]
  | (signer, signature) :: rest, voted, distinct, fresh, checks => by
      have signerFresh : signer ∉ voted := fresh (signer, signature) List.mem_cons_self
      have notLater : signer ∉ rest.map Prod.fst := (List.nodup_cons.mp distinct).1
      have restFresh : ∀ voter ∈ rest, voter.1 ∉ insert signer voted := by
        intro voter member inserted
        rcases Finset.mem_insert.mp inserted with same | old
        · exact notLater (same ▸ List.mem_map_of_mem member)
        · exact fresh voter (List.mem_cons_of_mem _ member) old
      have later := checkSignatures_of_signers checkMessage threshold rest (insert signer voted)
        (List.nodup_cons.mp distinct).2 restFresh
        (fun voter member => checks voter (List.mem_cons_of_mem _ member))
      simp only [List.map_cons, checkSignatures, checks (signer, signature) List.mem_cons_self,
        signerFresh, ↓reduceIte, later, Finset.card_insert_of_notMem signerFresh,
        List.length_cons]
      congr 1
      rw [Nat.add_right_comm, Nat.add_assoc]

/-- Conversely, signatures that check out name at least `threshold` distinct
signers, each one the checker gives for one of the signatures. -/
theorem signers_of_checkSignatures (checkMessage : S → Option W) (threshold : Nat) :
    ∀ (signatures : List S) (voted : Finset W),
      checkSignatures checkMessage threshold voted signatures = true →
      ∃ signers : Finset W, voted ⊆ signers ∧ threshold ≤ signers.card ∧
        ∀ signer ∈ signers, signer ∈ voted ∨
          ∃ signature ∈ signatures, checkMessage signature = some signer
  | [], voted, passes =>
      ⟨voted, subset_rfl, by simpa [checkSignatures] using passes, fun _ member => .inl member⟩
  | signature :: rest, voted, passes => by
      simp only [checkSignatures] at passes
      split at passes
      · cases passes
      · rename_i signer found
        split_ifs at passes
        obtain ⟨signers, within, enough, origin⟩ :=
          signers_of_checkSignatures checkMessage threshold rest (insert signer voted) passes
        refine ⟨signers, (Finset.subset_insert _ _).trans within, enough, fun other member => ?_⟩
        rcases origin other member with inserted | ⟨later, laterMember, checks⟩
        · rcases Finset.mem_insert.mp inserted with rfl | old
          · exact .inr ⟨signature, List.mem_cons_self, found⟩
          · exact .inl old
        · exact .inr ⟨later, List.mem_cons_of_mem _ laterMember, checks⟩

end UncheckedJustification

/-! ## Soundness of the state -/

/-- A justification of round `round` holding the signatures of at least
`threshold` distinct senders whose first vote (`firstOf`) was for its digest;
it passes `check` with every checker that maps each of those signatures to
its sender. -/
def Justified (round threshold : Nat) (firstOf : V → Option (D × S))
    (justification : Justification D S) : Prop :=
  justification.unchecked.roundNumber = round ∧
    ∃ voters : List (V × S), (voters.map Prod.fst).Nodup ∧ threshold ≤ voters.length ∧
      justification.unchecked.signatures = voters.map Prod.snd ∧
      (∀ voter ∈ voters, firstOf voter.1 = some (justification.unchecked.digest, voter.2)) ∧
      ∀ checkMessage : Nat → D → S → Option V,
        (∀ voter ∈ voters,
          checkMessage round justification.unchecked.digest voter.2 = some voter.1) →
        justification.unchecked.check threshold checkMessage = .ok justification

/-- A justification backed by the first votes of the log is justified by them. -/
theorem Backed.justified {round threshold : Nat} {firstOf : V → Option (D × S)}
    {justification : Justification D S} (backed : Backed round threshold firstOf justification) :
    Justified round threshold firstOf justification := by
  obtain ⟨roundEq, voters, distinct, enough, signed, voted⟩ := backed
  refine ⟨roundEq, voters, distinct, enough, signed, voted, ?_⟩
  intro checkMessage checks
  have passes := UncheckedJustification.checkSignatures_of_signers
    (checkMessage justification.unchecked.roundNumber justification.unchecked.digest) threshold
    voters ∅ distinct (by simp) (fun voter member => roundEq ▸ checks voter member)
  simp only [Finset.card_empty, Nat.zero_add] at passes
  rw [UncheckedJustification.check, signed, passes, decide_eq_true enough, if_pos rfl]

/-- A justification that a fresh accumulator reaches by importing messages is justified by the first
votes of those messages. -/
theorem importMessages_justified (round threshold : Nat) (roundProposer : V)
    (messages : List (LocalizedMessage C D V S)) (justification : Justification D S) :
    (((Accumulator.new round threshold roundProposer).importMessages messages).state =
          .prepared justification ∨
        ((Accumulator.new round threshold roundProposer).importMessages messages).state =
          .advanced (some justification) →
      Justified round threshold
        (fun sender => firstVote (LocalizedMessage.prepareIn round) sender messages)
        justification) ∧
    (((Accumulator.new round threshold roundProposer).importMessages messages).state =
          .committed justification →
      Justified round threshold
        (fun sender => firstVote (LocalizedMessage.commitIn round) sender messages)
        justification) := by
  have tracked := (Accumulator.tracked_new (C := C) (D := D) (S := S) round threshold
    roundProposer).importMessages messages
  rw [List.nil_append] at tracked
  have preparesEq := funext tracked.prepares.lookup_eq
  have commitsEq := funext tracked.commits.lookup_eq
  constructor
  · intro inState
    have backed := tracked.prepared_backed justification inState
    rw [preparesEq] at backed
    exact backed.justified
  · intro inState
    have backed := tracked.committed_backed justification inState
    rw [commitsEq] at backed
    exact backed.justified

/-- The prepares of digest 5 in round 1 by authorities 0 and 1, then their
commits. -/
def preparesThenCommits : List (LocalizedMessage Nat Nat Nat Nat) :=
  [.vote ⟨.prepare 1 5, 0, 10⟩, .vote ⟨.prepare 1 5, 1, 11⟩,
    .vote ⟨.commit 1 5, 0, 20⟩, .vote ⟨.commit 1 5, 1, 21⟩]

/-- At threshold 2, the two prepares of `preparesThenCommits` prepare the
round and the whole list commits it; each state rests on the first prepares, or
the first commits, of its voters. -/
theorem importMessages_justified_prepareCommit :
    ∃ prepared committed : Justification Nat Nat,
      ((Accumulator.new 1 2 0).importMessages (preparesThenCommits.take 2)).state = .prepared prepared ∧
        Justified 1 2 (fun sender => firstVote (LocalizedMessage.prepareIn 1) sender
          (preparesThenCommits.take 2)) prepared ∧
      ((Accumulator.new 1 2 0).importMessages preparesThenCommits).state = .committed committed ∧
        Justified 1 2 (fun sender => firstVote (LocalizedMessage.commitIn 1) sender preparesThenCommits)
          committed := by
  refine ⟨_, _, rfl, ?_, rfl, ?_⟩
  · exact (importMessages_justified 1 2 0 _ _).1 (.inl rfl)
  · exact (importMessages_justified 1 2 0 _ _).2 rfl

end Bft
end Polkadot
