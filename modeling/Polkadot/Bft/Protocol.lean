import Polkadot.Bft.Agreement

/-!
# The network of honest strategies

`Agreement::poll` (`generic/mod.rs`) feeds every item of the input stream to the
strategy, a consensus message to `import_message` and a lock proof to
`import_lock_proof`, and polls the strategy after each one; what the strategy
queues is flushed to the output sink.  A run of the network interleaves these
steps of the honest authorities in any order.

The network delivers any consensus message signed by an authority, as often and
as late as it likes, but one signed by an honest authority only once that
authority sent it: signatures cannot be forged.  Faulty authorities have no
strategy; their messages are whatever the network delivers.  The input stream
passes on only lock proofs that check out, with the threshold `n - f`, against
a checker of signed prepares.  Every authority runs `agree` with `nodes` the
number of authorities and `max_faulty` the bound of the setup.
-/

namespace Polkadot
namespace Bft

variable {C D V S : Type} [DecidableEq D] [DecidableEq V]

/-- The strategies of the authorities, the messages the honest ones sent, in
order, and the commits their polls returned. -/
structure Network (C D V S : Type) [DecidableEq D] [DecidableEq V] where
  strategies : V → Strategy C D V S
  sent : Log C D V S
  decided : List (V × Committed C D S)

variable (setup : Setup V)

/-- A consensus message the network can deliver: signed by an authority, and
by an honest one only if it sent it. -/
def Admissible (log : Log C D V S) (message : LocalizedMessage C D V S) : Prop :=
  message.sender ∈ setup.authorities ∧
    (message.sender ∈ setup.honest → Communication.consensus message ∈ log)

/-- A signature checker that vouches for prepares only: every signature it
accepts for a round and a digest is an authority's, and an honest authority's
only if it sent that prepare. -/
def ChecksPrepares (log : Log C D V S) (checkMessage : Nat → D → S → Option V) : Prop :=
  ∀ round digest signature signer, checkMessage round digest signature = some signer →
    signer ∈ setup.authorities ∧ (signer ∈ setup.honest → SentPrepare log signer round digest)

/-- Every authority as `agree` creates it, and nothing sent. -/
def Network.initial (contexts : V → Context C D V S) : Network C D V S :=
  ⟨fun v => Strategy.create (contexts v) setup.authorities.card setup.maxFaulty, [], []⟩

variable (contexts : V → Context C D V S)

/-- One step of an honest authority. -/
inductive Step : Network C D V S → Network C D V S → Prop
  /-- A consensus message from the input stream. -/
  | deliver {network : Network C D V S} {v : V} (honest : v ∈ setup.honest)
      (message : LocalizedMessage C D V S) (admissible : Admissible setup network.sent message) :
      Step network
        { network with
          strategies := Function.update network.strategies v
            ((network.strategies v).importMessage (contexts v) message) }
  /-- A lock proof from the input stream. -/
  | lockProof {network : Network C D V S} {v : V} (honest : v ∈ setup.honest)
      (justification : Justification D S) (checkMessage : Nat → D → S → Option V)
      (checks : ChecksPrepares setup network.sent checkMessage)
      (checked : justification.unchecked.check setup.threshold checkMessage = .ok justification)
      {next : Strategy C D V S}
      (imported : (network.strategies v).importLockProof (contexts v) justification = some next) :
      Step network { network with strategies := Function.update network.strategies v next }
  /-- A `poll_once`: its messages are sent and its commit returned. -/
  | poll {network : Network C D V S} {v : V} (honest : v ∈ setup.honest)
      (resolutions : Resolutions C) {next : Strategy C D V S}
      {sent : List (Communication C D V S)} {committed : Option (Committed C D S)}
      (polled : (network.strategies v).pollOnce (contexts v) resolutions =
        some (next, sent, committed)) :
      Step network
        ⟨Function.update network.strategies v next, network.sent ++ sent,
          network.decided ++ (committed.map fun committed => (v, committed)).toList⟩

/-- The networks a run reaches. -/
inductive Reachable : Network C D V S → Prop
  | init : Reachable (Network.initial setup contexts)
  | tail {network next : Network C D V S} :
      Reachable network → Step setup contexts network next → Reachable next

/-! ## Runs as traces -/

/-- An action of a trace of the network. -/
inductive Action (C D V S : Type) where
  /-- The network delivers a consensus message to an authority. -/
  | deliver (v : V) (message : LocalizedMessage C D V S)
  /-- An authority polls once, its futures resolved as given. -/
  | poll (v : V) (resolutions : Resolutions C)

section Traces

variable [DecidableEq C] [DecidableEq S]

/-- Whether a message is admissible after a log can be decided. -/
instance (log : Log C D V S) (message : LocalizedMessage C D V S) :
    Decidable (Admissible setup log message) :=
  inferInstanceAs (Decidable (_ ∧ _))

/-- The network after an action, when the action is a step: the authority is
honest and a delivered message admissible. -/
def Network.act (network : Network C D V S) : Action C D V S → Option (Network C D V S)
  | .deliver v message =>
    if v ∈ setup.honest ∧ Admissible setup network.sent message then
      some { network with
        strategies := Function.update network.strategies v
          ((network.strategies v).importMessage (contexts v) message) }
    else none
  | .poll v resolutions =>
    if v ∈ setup.honest then
      ((network.strategies v).pollOnce (contexts v) resolutions).map fun (next, sent, committed) =>
        ⟨Function.update network.strategies v next, network.sent ++ sent,
          network.decided ++ (committed.map fun committed => (v, committed)).toList⟩
    else none

/-- The network after a trace, if each of its actions is a step. -/
def Network.run (network : Network C D V S) : List (Action C D V S) → Option (Network C D V S)
  | [] => some network
  | action :: rest => (network.act setup contexts action).bind fun next => next.run rest

variable {setup} {contexts}

/-- An action that the network takes is a step. -/
theorem Step.of_act {network next : Network C D V S} {action : Action C D V S}
    (acted : network.act setup contexts action = some next) : Step setup contexts network next := by
  cases action with
  | deliver v message =>
    simp only [Network.act] at acted
    split_ifs at acted with admitted
    cases acted
    exact .deliver admitted.1 message admitted.2
  | poll v resolutions =>
    simp only [Network.act] at acted
    split_ifs at acted with honest
    obtain ⟨⟨next, sent, committed⟩, polled, rfl⟩ := Option.map_eq_some_iff.mp acted
    exact .poll honest resolutions polled

/-- A trace that the network runs leads to a reachable network. -/
theorem Reachable.run {network final : Network C D V S} (reachable : Reachable setup contexts network) :
    ∀ {actions : List (Action C D V S)}, network.run setup contexts actions = some final →
      Reachable setup contexts final
  | [], ran => by
    cases ran
    exact reachable
  | action :: rest, ran => by
    obtain ⟨next, acted, ranRest⟩ := Option.bind_eq_some_iff.mp ran
    exact (reachable.tail (Step.of_act acted)).run ranRest

end Traces

end Bft
end Polkadot
