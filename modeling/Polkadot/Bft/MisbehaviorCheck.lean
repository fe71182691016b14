import Polkadot.Bft.AccumulatorSound
import Polkadot.Codec.Bft

/-!
# Checking votes and misbehavior reports

`bft/src/lib.rs` checks a vote by verifying its signature over the encoded
primitive message (`check_vote`, `check_action`).  The proposer of
`polkadot/consensus/src/lib.rs` turns the double votes its accumulator caught
into reports, and `misbehavior-check/src/lib.rs` decides whether a report
holds (`evaluate_misbehavior`).  Signature verification is one predicate
`verify`: ring's ed25519 check, reached both by `ed25519::verify_strong` and by
`runtime_io::ed25519_verify`.  Encoding a message fails where the source
panics, so the checks return `Option`.

A report holds when its two signatures differ and both verify: the check
compares the signatures, not the hashes.  Each consequence below names the
property of `verify` it needs: at most one signature per message and key to
rule out equal hashes, at most one message per signature and key for every
caught double vote to hold, and strong unforgeability for an honest authority
never to be reported.
-/

namespace Polkadot

open Foundations Codec Slicable Primitives

/-! ## Signed messages -/

namespace Primitives.Message

variable {Block Hash : Type} (block : Slicable Block) (hash : Slicable Hash)
  (verify : Signature → Bytes → AuthorityId → Bool)

/-- `signature` verifies under `authority` over the encoding of `message`. -/
def SignedBy (message : Message Block Hash) (signature : Signature) (authority : AuthorityId) :
    Prop :=
  ∃ bytes, (slicable block hash).encode message = some bytes ∧ verify signature bytes authority = true

end Primitives.Message

/-- A signature verifies under a key for at most one message. -/
def Binding (verify : Signature → Bytes → AuthorityId → Bool) : Prop :=
  ∀ signature authority first second, verify signature first authority = true →
    verify signature second authority = true → first = second

/-- A message has at most one signature that verifies under a key. -/
def UniqueSignatures (verify : Signature → Bytes → AuthorityId → Bool) : Prop :=
  ∀ authority bytes first second, verify first bytes authority = true →
    verify second bytes authority = true → first = second

/-- Every signature that verifies under `authority` is one it made; `signed`
lists the messages it signed with the signatures it made. -/
def StronglyUnforgeable (verify : Signature → Bytes → AuthorityId → Bool) (authority : AuthorityId)
    (signed : List (Bytes × Signature)) : Prop :=
  ∀ signature bytes, verify signature bytes authority = true → (bytes, signature) ∈ signed

/-! ## Checking votes -/

namespace Bft

/-- `ed25519::LocalizedSignature`: a signature with the key that made it. -/
structure LocalizedSignature where
  signer : AuthorityId
  signature : Signature
deriving DecidableEq

/-- The errors of a vote check (`ErrorKind`). -/
inductive CheckError where
  | invalidAuthority (authority : AuthorityId)
  | invalidSignature (signature : Signature) (signer : AuthorityId)
deriving DecidableEq

variable {Block Hash : Type}

/-- The primitive action a vote signs; the round is cast with `r as u32`. -/
def Vote.primitiveAction : Vote Hash → Action Block Hash
  | .prepare round digest => .prepare (BitVec.ofNat 32 round) digest
  | .commit round digest => .commit (BitVec.ofNat 32 round) digest
  | .advanceRound round => .advanceRound (BitVec.ofNat 32 round)

section Check

variable (block : Slicable Block) (hash : Slicable Hash)
  (verify : Signature → Bytes → AuthorityId → Bool)

/-- `check_action`. -/
def checkAction (action : Action Block Hash) (parentHash : Hash) (sig : LocalizedSignature) :
    Option (Except CheckError Unit) :=
  ((Message.slicable block hash).encode { parent := parentHash, action }).map fun message =>
    if verify sig.signature message sig.signer then .ok ()
    else .error (.invalidSignature sig.signature sig.signer)

/-- `check_vote`. -/
def checkVote (authorities : List AuthorityId) (parentHash : Hash)
    (vote : LocalizedVote Hash AuthorityId LocalizedSignature) :
    Option (Except CheckError Unit) :=
  if vote.sender ∉ authorities then some (.error (.invalidAuthority vote.sender))
  else checkAction block hash verify vote.vote.primitiveAction parentHash vote.signature

/-- `check_action` accepts exactly the actions signed by the signer over the parent hash. -/
theorem checkAction_eq_ok {action : Action Block Hash} {parentHash : Hash}
    {sig : LocalizedSignature} :
    checkAction block hash verify action parentHash sig = some (.ok ()) ↔
      Message.SignedBy block hash verify ⟨parentHash, action⟩ sig.signature sig.signer := by
  unfold checkAction Message.SignedBy
  cases encoded : (Message.slicable block hash).encode ⟨parentHash, action⟩ with
  | none => simp
  | some bytes => by_cases valid : verify sig.signature bytes sig.signer <;> simp [valid]

/-- `check_vote` accepts exactly votes of an authority signed by it over the parent hash. -/
theorem checkVote_eq_ok {authorities : List AuthorityId} {parentHash : Hash}
    {vote : LocalizedVote Hash AuthorityId LocalizedSignature} :
    checkVote block hash verify authorities parentHash vote = some (.ok ()) ↔
      vote.sender ∈ authorities ∧
        Message.SignedBy block hash verify ⟨parentHash, vote.vote.primitiveAction⟩
          vote.signature.signature vote.signature.signer := by
  unfold checkVote
  by_cases member : vote.sender ∈ authorities
  · simp [member, checkAction_eq_ok]
  · simp [member]

/-- A message that passed `check_vote` and is signed with its sender's own key;
proposals are checked elsewhere. -/
def VoteChecked (authorities : List AuthorityId) (parentHash : Hash) :
    LocalizedMessage Block Hash AuthorityId LocalizedSignature → Prop
  | .propose _ => True
  | .vote vote =>
      checkVote block hash verify authorities parentHash vote = some (.ok ()) ∧
        vote.signature.signer = vote.sender

/-- A checked vote is signed by its sender. -/
theorem VoteChecked.signedBy {authorities : List AuthorityId} {parentHash : Hash}
    {vote : LocalizedVote Hash AuthorityId LocalizedSignature}
    (checked : VoteChecked block hash verify authorities parentHash (.vote vote)) :
    Message.SignedBy block hash verify ⟨parentHash, vote.vote.primitiveAction⟩
      vote.signature.signature vote.sender := by
  obtain ⟨passed, ownKey⟩ := checked
  rw [← ownKey]
  exact ((checkVote_eq_ok block hash verify).mp passed).2

end Check

end Bft

/-! ## Evaluating reports -/

namespace MisbehaviorCheck

variable {Block Hash : Type}

/-- `prepare`. -/
def prepare (parent : Hash) (roundNumber : BitVec 32) (digest : Hash) : Message Block Hash :=
  { parent, action := .prepare roundNumber digest }

/-- `commit`. -/
def commit (parent : Hash) (roundNumber : BitVec 32) (digest : Hash) : Message Block Hash :=
  { parent, action := .commit roundNumber digest }

/-- The message that a vote of the kind `code` reports signs. -/
def voteMessage (code : MisbehaviorCode) (parent : Hash) (roundNumber : BitVec 32) :
    Hash → Message Block Hash :=
  match code with
  | .bftDoublePrepare => prepare parent roundNumber
  | .bftDoubleCommit => commit parent roundNumber

/-- The report of the kind `code`. -/
def reportOf (code : MisbehaviorCode) :
    BitVec 32 → Hash × Signature → Hash × Signature → MisbehaviorKind Hash :=
  match code with
  | .bftDoublePrepare => .bftDoublePrepare
  | .bftDoubleCommit => .bftDoubleCommit

/-- The code of a report. -/
def codeOf : MisbehaviorKind Hash → MisbehaviorCode
  | .bftDoublePrepare .. => .bftDoublePrepare
  | .bftDoubleCommit .. => .bftDoubleCommit

/-- A misbehaviour report read back from its code and its votes is the report. -/
theorem reportOf_codeOf (kind : MisbehaviorKind Hash) :
    reportOf (codeOf kind) kind.votes.1 kind.votes.2.1 kind.votes.2.2 = kind := by
  cases kind <;> rfl

/-- Votes of one kind, parent and round differ when their digests do. -/
theorem voteMessage_injective (code : MisbehaviorCode) (parent : Hash) (roundNumber : BitVec 32) :
    Function.Injective (voteMessage code parent roundNumber : Hash → Message Block Hash) := by
  intro first second same
  cases code <;> simpa [voteMessage, prepare, commit] using same

section Evaluate

variable (block : Slicable Block) (hash : Slicable Hash)
  (verify : Signature → Bytes → AuthorityId → Bool)

/-- `check_message_sig`. -/
def checkMessageSig (message : Message Block Hash) (signature : Signature)
    (authority : AuthorityId) : Option Bool :=
  ((Message.slicable block hash).encode message).map fun msg => verify signature msg authority

/-- The two arms of `evaluate_misbehavior`, which differ only in the message
a vote signs. -/
def evaluateDoubleVote (vote : Hash → Message Block Hash) (misbehaved : AuthorityId)
    (first second : Hash × Signature) : Option Bool :=
  -- `&&` stops at the first `false`, before encoding what it no longer needs
  if first.2 ≠ second.2 then do
    let firstSigned ← checkMessageSig block hash verify (vote first.1) first.2 misbehaved
    if firstSigned then checkMessageSig block hash verify (vote second.1) second.2 misbehaved
    else pure false
  else pure false

/-- `evaluate_misbehavior`. -/
def evaluateMisbehavior (misbehaved : AuthorityId) (parentHash : Hash) :
    MisbehaviorKind Hash → Option Bool
  | .bftDoublePrepare round first second =>
      evaluateDoubleVote block hash verify (prepare parentHash round) misbehaved first second
  | .bftDoubleCommit round first second =>
      evaluateDoubleVote block hash verify (commit parentHash round) misbehaved first second

/-- `check_message_sig` accepts exactly the messages the authority signed. -/
theorem checkMessageSig_eq_true {message : Message Block Hash} {signature : Signature}
    {authority : AuthorityId} :
    checkMessageSig block hash verify message signature authority = some true ↔
      Message.SignedBy block hash verify message signature authority := by
  unfold checkMessageSig Message.SignedBy
  cases (Message.slicable block hash).encode message <;> simp

/-- A double vote is proved exactly by two different signatures of the authority over the two votes.
-/
theorem evaluateDoubleVote_eq_true {vote : Hash → Message Block Hash} {misbehaved : AuthorityId}
    {first second : Hash × Signature} :
    evaluateDoubleVote block hash verify vote misbehaved first second = some true ↔
      first.2 ≠ second.2 ∧ Message.SignedBy block hash verify (vote first.1) first.2 misbehaved ∧
        Message.SignedBy block hash verify (vote second.1) second.2 misbehaved := by
  rw [← checkMessageSig_eq_true, ← checkMessageSig_eq_true]
  unfold evaluateDoubleVote
  by_cases differ : first.2 ≠ second.2
  · cases checkMessageSig block hash verify (vote first.1) first.2 misbehaved with
    | none => simp [differ]
    | some firstSigned => cases firstSigned <;> simp [differ]
  · simp [differ]

/-- `evaluate_misbehavior` of a report checks the two votes of its kind as a double vote. -/
theorem evaluateMisbehavior_reportOf (misbehaved : AuthorityId) (parentHash : Hash)
    (code : MisbehaviorCode) (round : BitVec 32) (first second : Hash × Signature) :
    evaluateMisbehavior block hash verify misbehaved parentHash (reportOf code round first second) =
      evaluateDoubleVote block hash verify (voteMessage code parentHash round) misbehaved first
        second := by
  cases code <;> rfl

/-- A report holds exactly when its two signatures differ and both verify over
their messages, whatever `verify` is. -/
theorem evaluateMisbehavior_eq_true {misbehaved : AuthorityId} {parentHash : Hash}
    {code : MisbehaviorCode} {round : BitVec 32} {first second : Hash × Signature} :
    evaluateMisbehavior block hash verify misbehaved parentHash (reportOf code round first second) =
        some true ↔
      first.2 ≠ second.2 ∧
        Message.SignedBy block hash verify (voteMessage code parentHash round first.1) first.2
          misbehaved ∧
        Message.SignedBy block hash verify (voteMessage code parentHash round second.1) second.2
          misbehaved := by
  rw [evaluateMisbehavior_reportOf, evaluateDoubleVote_eq_true]

/-- With one signature per message and key, a report that holds names two
different hashes. -/
theorem hashes_differ_of_evaluate (unique : UniqueSignatures verify) {misbehaved : AuthorityId}
    {parentHash : Hash} {code : MisbehaviorCode} {round : BitVec 32}
    {first second : Hash × Signature}
    (holds : evaluateMisbehavior block hash verify misbehaved parentHash
      (reportOf code round first second) = some true) :
    first.1 ≠ second.1 := by
  obtain ⟨differ, ⟨firstBytes, firstEncoded, firstValid⟩, ⟨secondBytes, secondEncoded,
    secondValid⟩⟩ := (evaluateMisbehavior_eq_true block hash verify).mp holds
  intro same
  -- equal hashes make one message, so the two signatures verify over the same bytes
  rw [same, secondEncoded, Option.some.injEq] at firstEncoded
  rw [firstEncoded] at secondValid
  exact differ (unique misbehaved firstBytes first.2 second.2 firstValid secondValid)

/-- With one message per signature and key, two signed votes for different
hashes make a report that holds. -/
theorem evaluate_of_signed (binding : Binding verify) (blockLawful : block.Lawful)
    (hashLawful : hash.Lawful) {misbehaved : AuthorityId} {parentHash : Hash}
    {code : MisbehaviorCode} {round : BitVec 32} {first second : Hash × Signature}
    (differ : first.1 ≠ second.1)
    (firstSigned : Message.SignedBy block hash verify (voteMessage code parentHash round first.1)
      first.2 misbehaved)
    (secondSigned : Message.SignedBy block hash verify (voteMessage code parentHash round second.1)
      second.2 misbehaved) :
    evaluateMisbehavior block hash verify misbehaved parentHash (reportOf code round first second) =
      some true := by
  refine (evaluateMisbehavior_eq_true block hash verify).mpr ⟨?_, firstSigned, secondSigned⟩
  intro sameSignature
  obtain ⟨firstBytes, firstEncoded, firstValid⟩ := firstSigned
  obtain ⟨secondBytes, secondEncoded, secondValid⟩ := secondSigned
  rw [sameSignature] at firstValid
  -- one signature over both encodings: the encodings, hence the messages, agree
  have sameBytes := binding second.2 misbehaved firstBytes secondBytes firstValid secondValid
  rw [sameBytes] at firstEncoded
  exact differ (voteMessage_injective code parentHash round
    ((Message.lawful_slicable blockLawful hashLawful).injective firstEncoded secondEncoded))

/-- An authority signed at most one prepare and one commit per parent and
round: `signed` holds at most one signed message of each such vote. -/
def SignedOncePerRound (signed : List (Bytes × Signature)) : Prop :=
  ∀ (code : MisbehaviorCode) (parent : Hash) (round : BitVec 32) (first second : Hash),
    ∀ entry ∈ signed, ∀ other ∈ signed,
      (Message.slicable block hash).encode (voteMessage code parent round first) = some entry.1 →
      (Message.slicable block hash).encode (voteMessage code parent round second) = some other.1 →
      entry = other

/-- Under strong unforgeability, an authority that signed at most one vote of
each kind per parent and round is never reported. -/
theorem evaluate_ne_true_of_honest {misbehaved : AuthorityId} {signed : List (Bytes × Signature)}
    (unforgeable : StronglyUnforgeable verify misbehaved signed)
    (once : SignedOncePerRound block hash signed) (parentHash : Hash) (kind : MisbehaviorKind Hash) :
    evaluateMisbehavior block hash verify misbehaved parentHash kind ≠ some true := by
  intro holds
  rw [← reportOf_codeOf kind, evaluateMisbehavior_eq_true] at holds
  obtain ⟨differ, ⟨firstBytes, firstEncoded, firstValid⟩, ⟨secondBytes, secondEncoded,
    secondValid⟩⟩ := holds
  -- both signatures were made by the authority, over two votes of one slot
  have same := once (codeOf kind) parentHash kind.votes.1 kind.votes.2.1.1 kind.votes.2.2.1
    (firstBytes, kind.votes.2.1.2) (unforgeable _ _ firstValid)
    (secondBytes, kind.votes.2.2.2) (unforgeable _ _ secondValid) firstEncoded secondEncoded
  exact differ (Prod.mk.inj same).2

end Evaluate

/-! ## Reports of caught double votes -/

/-- The kind of report the proposer files for misbehavior its accumulator
caught (`consensus/src/lib.rs`); misbehavior of proposals is skipped. -/
def reportKind : Bft.Misbehavior Hash Bft.LocalizedSignature → Option (MisbehaviorKind Hash)
  | .proposeOutOfTurn .. => none
  | .doublePropose .. => none
  | .doublePrepare round first second =>
      some (.bftDoublePrepare (BitVec.ofNat 32 round) (first.1, first.2.signature)
        (second.1, second.2.signature))
  | .doubleCommit round first second =>
      some (.bftDoubleCommit (BitVec.ofNat 32 round) (first.1, first.2.signature)
        (second.1, second.2.signature))

/-- The report filed against `target`. -/
def misbehaviorReport {Number : Type} (parentHash : Hash) (parentNumber : Number)
    (target : AuthorityId) (misbehavior : Bft.Misbehavior Hash Bft.LocalizedSignature) :
    Option (MisbehaviorReport Hash Number) :=
  (reportKind misbehavior).map fun kind =>
    { parentHash, parentNumber, target, misbehavior := kind }

end MisbehaviorCheck

/-! ## Double votes caught among checked votes -/

namespace Bft

variable {Block Hash : Type} [DecidableEq Hash] (block : Slicable Block) (hash : Slicable Hash)
  (verify : Signature → Bytes → AuthorityId → Bool)

open MisbehaviorCheck in
/-- The first prepare an accumulator stores for a sender, among checked votes,
is signed by that sender. -/
theorem Accumulator.Tracked.signedBy_prepare {authorities : List AuthorityId} {parentHash : Hash}
    {round threshold : Nat} {messages : List (LocalizedMessage Block Hash AuthorityId LocalizedSignature)}
    {accumulator : Accumulator Block Hash AuthorityId LocalizedSignature}
    (tracked : Accumulator.Tracked round threshold messages accumulator)
    (checked : ∀ message ∈ messages, VoteChecked block hash verify authorities parentHash message)
    {sender : AuthorityId} {first : Hash × LocalizedSignature}
    (voted : accumulator.prepares.lookup sender = some first) :
    Message.SignedBy block hash verify
      (voteMessage .bftDoublePrepare parentHash (BitVec.ofNat 32 round) first.1)
      first.2.signature sender := by
  rw [tracked.prepares.lookup_eq] at voted
  obtain ⟨message, member, carried⟩ := firstVote_mem voted
  have isVote := LocalizedMessage.prepareIn_eq_some carried
  subst isVote
  exact (checked _ member).signedBy

open MisbehaviorCheck in
/-- Every commit an accumulator tracks from checked messages is signed by its sender. -/
theorem Accumulator.Tracked.signedBy_commit {authorities : List AuthorityId} {parentHash : Hash}
    {round threshold : Nat} {messages : List (LocalizedMessage Block Hash AuthorityId LocalizedSignature)}
    {accumulator : Accumulator Block Hash AuthorityId LocalizedSignature}
    (tracked : Accumulator.Tracked round threshold messages accumulator)
    (checked : ∀ message ∈ messages, VoteChecked block hash verify authorities parentHash message)
    {sender : AuthorityId} {first : Hash × LocalizedSignature}
    (voted : accumulator.commits.lookup sender = some first) :
    Message.SignedBy block hash verify
      (voteMessage .bftDoubleCommit parentHash (BitVec.ofNat 32 round) first.1)
      first.2.signature sender := by
  rw [tracked.commits.lookup_eq] at voted
  obtain ⟨message, member, carried⟩ := firstVote_mem voted
  have isVote := LocalizedMessage.commitIn_eq_some carried
  subst isVote
  exact (checked _ member).signedBy

open MisbehaviorCheck in
/-- A double vote that an accumulator catches among votes that passed
`check_vote` with their senders' own keys is filed as a report against the
sender that holds, when a signature verifies for at most one message per key. -/
theorem importMessage_report_holds (binding : Binding verify) (blockLawful : block.Lawful)
    (hashLawful : hash.Lawful) {authorities : List AuthorityId} {parentHash : Hash}
    {Number : Type} {parentNumber : Number} {round threshold : Nat} {proposer : AuthorityId}
    {messages : List (LocalizedMessage Block Hash AuthorityId LocalizedSignature)}
    {message : LocalizedMessage Block Hash AuthorityId LocalizedSignature}
    (checked : ∀ checkedMessage ∈ messages ++ [message],
      VoteChecked block hash verify authorities parentHash checkedMessage)
    {misbehavior : Misbehavior Hash LocalizedSignature}
    (reported : ((Accumulator.new round threshold proposer).importMessages messages).importMessage
      message = .error misbehavior)
    {report : MisbehaviorReport Hash Number}
    (built : misbehaviorReport parentHash parentNumber message.sender misbehavior = some report) :
    evaluateMisbehavior block hash verify report.target report.parentHash report.misbehavior =
      some true := by
  have tracked := (Accumulator.tracked_new (C := Block) (D := Hash) (S := LocalizedSignature)
    round threshold proposer).importMessages messages
  rw [List.nil_append] at tracked
  have earlier : ∀ checkedMessage ∈ messages,
      VoteChecked block hash verify authorities parentHash checkedMessage :=
    fun checkedMessage member => checked checkedMessage (List.mem_append_left _ member)
  have last := checked message (by simp)
  have roundEq := tracked.round_eq
  -- a message of another round is ignored, so the reported one is of this round
  have sameRound : message.roundNumber =
      ((Accumulator.new round threshold proposer).importMessages messages).roundNumber := by
    by_contra otherRound
    rw [Accumulator.importMessage_of_ne _ otherRound] at reported
    cases reported
  rw [roundEq] at sameRound
  rcases message with proposal | ⟨vote, sender, signature⟩
  · -- a proposal only reports misbehavior of proposals, which is not filed
    rw [Accumulator.importMessage_propose _ (sameRound.trans roundEq.symm)] at reported
    rcases Accumulator.importProposal_error _ reported with ⟨_, _, _, rfl⟩ | ⟨_, _, _, rfl⟩ <;>
      simp [misbehaviorReport, reportKind] at built
  · cases vote with
    | prepare voteRound digest =>
        have voteRoundEq : voteRound = round := sameRound
        subst voteRoundEq
        rw [Accumulator.importMessage_prepare _ _ _ _ roundEq.symm] at reported
        obtain ⟨first, voted, differ, rfl⟩ := Accumulator.importPrepare_error_eq _ reported
        simp only [misbehaviorReport, reportKind, roundEq, Option.map_some, Option.some.injEq] at built
        subst built
        show evaluateMisbehavior block hash verify sender parentHash
          (reportOf .bftDoublePrepare _ (first.1, first.2.signature) (digest, signature.signature)) =
            some true
        exact evaluate_of_signed block hash verify binding blockLawful hashLawful differ
          (tracked.signedBy_prepare block hash verify earlier voted) last.signedBy
    | commit voteRound digest =>
        have voteRoundEq : voteRound = round := sameRound
        subst voteRoundEq
        rw [Accumulator.importMessage_commit _ _ _ _ roundEq.symm] at reported
        obtain ⟨first, voted, differ, rfl⟩ := Accumulator.importCommit_error_eq _ reported
        simp only [misbehaviorReport, reportKind, roundEq, Option.map_some, Option.some.injEq] at built
        subst built
        show evaluateMisbehavior block hash verify sender parentHash
          (reportOf .bftDoubleCommit _ (first.1, first.2.signature) (digest, signature.signature)) =
            some true
        exact evaluate_of_signed block hash verify binding blockLawful hashLawful differ
          (tracked.signedBy_commit block hash verify earlier voted) last.signedBy
    | advanceRound voteRound =>
        have voteRoundEq : voteRound = round := sameRound
        subst voteRoundEq
        rw [Accumulator.importMessage_advanceRound _ _ _ roundEq.symm] at reported
        cases reported

end Bft

/-! ## What a report proves -/

namespace MisbehaviorCheck

open Bft

variable {Block Hash : Type}

/-- No signature is repeated in the empty table. -/
theorem signedOncePerRound_nil (block : Slicable Block) (hash : Slicable Hash) :
    SignedOncePerRound block hash [] := by
  intro _ _ _ _ _ entry member
  cases member

/-- A report of misbehaviour is accepted exactly when the authority signed two different votes of
one kind in one round, and under binding, unique and unforgeable signatures only equivocation is
reported. -/
theorem evaluateMisbehavior_reports_equivocation [DecidableEq Hash] (block : Slicable Block)
    (hash : Slicable Hash) (verify : Signature → Bytes → AuthorityId → Bool) :
    (∀ misbehaved parentHash code round (first second : Hash × Signature),
      evaluateMisbehavior block hash verify misbehaved parentHash (reportOf code round first second) =
          some true ↔
        first.2 ≠ second.2 ∧
          Message.SignedBy block hash verify (voteMessage code parentHash round first.1) first.2
            misbehaved ∧
          Message.SignedBy block hash verify (voteMessage code parentHash round second.1) second.2
            misbehaved) ∧
    (UniqueSignatures verify → Binding verify → block.Lawful → hash.Lawful →
      ∀ misbehaved parentHash code round (first second : Hash × Signature),
        evaluateMisbehavior block hash verify misbehaved parentHash
            (reportOf code round first second) = some true ↔
          first.1 ≠ second.1 ∧
            Message.SignedBy block hash verify (voteMessage code parentHash round first.1) first.2
              misbehaved ∧
            Message.SignedBy block hash verify (voteMessage code parentHash round second.1) second.2
              misbehaved) ∧
    (∀ misbehaved signed, StronglyUnforgeable verify misbehaved signed →
      SignedOncePerRound block hash signed →
      ∀ parentHash kind, evaluateMisbehavior block hash verify misbehaved parentHash kind ≠ some true) ∧
    (Binding verify → block.Lawful → hash.Lawful →
      ∀ {Number : Type} (authorities : List AuthorityId) (parentHash : Hash) (parentNumber : Number)
        (round threshold : Nat) (proposer : AuthorityId)
        (messages : List (LocalizedMessage Block Hash AuthorityId LocalizedSignature))
        (message : LocalizedMessage Block Hash AuthorityId LocalizedSignature)
        (misbehavior : Misbehavior Hash LocalizedSignature) (report : MisbehaviorReport Hash Number),
        (∀ checkedMessage ∈ messages ++ [message],
          VoteChecked block hash verify authorities parentHash checkedMessage) →
        ((Accumulator.new round threshold proposer).importMessages messages).importMessage message =
          .error misbehavior →
        misbehaviorReport parentHash parentNumber message.sender misbehavior = some report →
        evaluateMisbehavior block hash verify report.target report.parentHash report.misbehavior =
          some true) := by
  refine ⟨fun _ _ _ _ _ _ => evaluateMisbehavior_eq_true block hash verify, ?_, ?_, ?_⟩
  · intro unique binding blockLawful hashLawful misbehaved parentHash code round first second
    constructor
    · intro holds
      exact ⟨hashes_differ_of_evaluate block hash verify unique holds,
        ((evaluateMisbehavior_eq_true block hash verify).mp holds).2⟩
    · rintro ⟨differ, firstSigned, secondSigned⟩
      exact evaluate_of_signed block hash verify binding blockLawful hashLawful differ firstSigned
        secondSigned
  · intro misbehaved signed unforgeable once parentHash kind
    exact evaluate_ne_true_of_honest block hash verify unforgeable once parentHash kind
  · intro binding blockLawful hashLawful Number authorities parentHash parentNumber round threshold
      proposer messages message misbehavior report checked reported built
    exact importMessage_report_holds block hash verify binding blockLawful hashLawful checked reported
      built

/-- The key of an authority that prepares twice in the run below. -/
def doubleVoter : AuthorityId := ⟨Vector.replicate 32 1⟩

/-- The key of an authority that signs nothing. -/
def silentKey : AuthorityId := ⟨Vector.replicate 32 2⟩

/-- The first signature of the runs below. -/
def firstSignature : Signature := ⟨Vector.replicate 64 1⟩

/-- The second signature of the runs below. -/
def secondSignature : Signature := ⟨Vector.replicate 64 2⟩

/-- The encoded prepares of round 0 on parent 0 for hashes 1 and 2 (one-byte
hashes), with the double voter's signatures. -/
def signedTable : List (Bytes × Signature) :=
  [([0, 3, 0, 0, 0, 0, 1], firstSignature), ([0, 3, 0, 0, 0, 0, 2], secondSignature)]

/-- A verification predicate that accepts exactly the table's signatures of the
double voter. -/
def tableVerify (signature : Signature) (bytes : Bytes) (authority : AuthorityId) : Bool :=
  decide (authority = doubleVoter ∧ (bytes, signature) ∈ signedTable)

/-- The table's verification binds each signature to one message. -/
theorem binding_tableVerify : Binding tableVerify := by
  intro signature authority first second firstValid secondValid
  simp only [tableVerify, decide_eq_true_eq] at firstValid secondValid
  have distinct : (signedTable.map Prod.snd).Nodup := by decide
  exact congrArg Prod.fst
    (List.inj_on_of_nodup_map distinct firstValid.2 secondValid.2 rfl)

/-- The table's verification accepts each message under one signature per key. -/
theorem uniqueSignatures_tableVerify : UniqueSignatures tableVerify := by
  intro authority bytes first second firstValid secondValid
  simp only [tableVerify, decide_eq_true_eq] at firstValid secondValid
  have distinct : (signedTable.map Prod.fst).Nodup := by decide
  exact congrArg Prod.snd
    (List.inj_on_of_nodup_map distinct firstValid.2 secondValid.2 rfl)

/-- The silent key has signed nothing that the table accepts. -/
theorem stronglyUnforgeable_silentKey : StronglyUnforgeable tableVerify silentKey [] := by
  intro signature bytes valid
  simp [tableVerify, silentKey, doubleVoter] at valid

/-- The double voter's two prepares of round 0. -/
def firstPrepare : LocalizedMessage Unit (BitVec 8) AuthorityId LocalizedSignature :=
  .vote ⟨.prepare 0 1, doubleVoter, ⟨doubleVoter, firstSignature⟩⟩

/-- A second prepare of the double voter in round 0. -/
def secondPrepare : LocalizedMessage Unit (BitVec 8) AuthorityId LocalizedSignature :=
  .vote ⟨.prepare 0 2, doubleVoter, ⟨doubleVoter, secondSignature⟩⟩

/-- Over the table's signatures: the double prepare is reported and a vote of the silent key is not.
-/
theorem evaluateMisbehavior_reports_equivocation_run :
    Binding tableVerify ∧ UniqueSignatures tableVerify ∧
      StronglyUnforgeable tableVerify silentKey [] ∧
      (evaluateMisbehavior Slicable.unit i8 tableVerify doubleVoter 0
          (reportOf .bftDoublePrepare 0 (1, firstSignature) (2, secondSignature)) = some true ↔
        (1 : BitVec 8) ≠ 2 ∧
          Message.SignedBy Slicable.unit i8 tableVerify (voteMessage .bftDoublePrepare 0 0 1)
            firstSignature doubleVoter ∧
          Message.SignedBy Slicable.unit i8 tableVerify (voteMessage .bftDoublePrepare 0 0 2)
            secondSignature doubleVoter) ∧
      evaluateMisbehavior Slicable.unit i8 tableVerify silentKey 0
          (.bftDoublePrepare 0 (1, firstSignature) (2, secondSignature)) ≠ some true ∧
      evaluateMisbehavior Slicable.unit i8 tableVerify doubleVoter 0
          (.bftDoublePrepare 0 (1, firstSignature) (2, secondSignature)) = some true := by
  obtain ⟨_, distinct, honest, caught⟩ :=
    evaluateMisbehavior_reports_equivocation Slicable.unit i8 tableVerify
  have checked : ∀ checkedMessage ∈ [firstPrepare] ++ [secondPrepare],
      VoteChecked Slicable.unit i8 tableVerify [doubleVoter] 0 checkedMessage := by
    intro checkedMessage member
    simp only [List.singleton_append, List.mem_cons, List.not_mem_nil, or_false] at member
    rcases member with rfl | rfl <;> exact ⟨rfl, rfl⟩
  refine ⟨binding_tableVerify, uniqueSignatures_tableVerify, stronglyUnforgeable_silentKey,
    distinct uniqueSignatures_tableVerify binding_tableVerify lawful_unit (lawful_int 1) doubleVoter 0
      .bftDoublePrepare 0 (1, firstSignature) (2, secondSignature),
    honest silentKey [] stronglyUnforgeable_silentKey (signedOncePerRound_nil _ _) 0 _, ?_⟩
  exact caught binding_tableVerify lawful_unit (lawful_int 1) [doubleVoter] 0 () 0 2 doubleVoter
    [firstPrepare] secondPrepare
    (.doublePrepare 0 (1, ⟨doubleVoter, firstSignature⟩) (2, ⟨doubleVoter, secondSignature⟩))
    ⟨0, (), doubleVoter, .bftDoublePrepare 0 (1, firstSignature) (2, secondSignature)⟩
    checked rfl rfl

/-- A predicate that accepts every signature lets through a report of two
prepares for one hash. -/
theorem evaluateMisbehavior_accepts_equal_hashes :
    evaluateMisbehavior Slicable.unit i8 (fun _ _ _ => true) doubleVoter 0
      (.bftDoublePrepare 0 (1, firstSignature) (1, secondSignature)) = some true := by
  rfl

end MisbehaviorCheck

end Polkadot
