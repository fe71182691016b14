import Polkadot.Bft.PollSafe

/-!
# Agreement safety of the network

Every network a run reaches is safe (`NetworkSafe`): the log of the honest
authorities' messages is safe, so is every honest authority's strategy, and
every commit a poll returned is a commit quorum of the log.  Delivering a
message, importing a lock proof and polling each keep that (`NetworkSafe.step`),
and two commit quorums of a safe log are for one digest (`LogSafe.agreement`):
two commits returned anywhere in a run are for the same digest.
-/

namespace Polkadot
namespace Bft

variable {C D V S : Type} [DecidableEq D] [DecidableEq V] {setup : Setup V}
  {contexts : V → Context C D V S}

variable (setup) (contexts) in
/-- What holds of every network a run reaches. -/
structure NetworkSafe (network : Network C D V S) : Prop where
  log_safe : LogSafe setup network.sent
  node_safe : ∀ v ∈ setup.honest,
    NodeSafe setup (contexts v) network.sent (network.strategies v)
  decided : ∀ v commit, (v, commit) ∈ network.decided →
    CommitQuorum setup network.sent commit.justification.unchecked.roundNumber
      commit.justification.unchecked.digest

/-- The network before any step is safe. -/
theorem networkSafe_initial : NetworkSafe setup contexts (Network.initial setup contexts) where
  log_safe := logSafe_nil
  node_safe := fun _ _ => nodeSafe_create
  decided := by simp [Network.initial]

/-- What holds of every honest strategy holds after one authority's strategy
changed, when it holds of the new one and still of the others. -/
theorem honest_update (property : V → Strategy C D V S → Prop)
    {strategies : V → Strategy C D V S} {v : V} {next : Strategy C D V S}
    (self : v ∈ setup.honest → property v next)
    (others : ∀ u ∈ setup.honest, u ≠ v → property u (strategies u)) :
    ∀ u ∈ setup.honest, property u (Function.update strategies v next u) := by
  intro u honest
  by_cases same : u = v
  · subst same
    rw [Function.update_self]
    exact self honest
  · rw [Function.update_of_ne same]
    exact others u honest same

/-- A step of one authority that sends nothing keeps the network safe when its
own strategy stays safe. -/
theorem NetworkSafe.update {network : Network C D V S} (safe : NetworkSafe setup contexts network)
    {v : V} {next : Strategy C D V S}
    (nodeSafe : v ∈ setup.honest → NodeSafe setup (contexts v) network.sent next) :
    NetworkSafe setup contexts
      { network with strategies := Function.update network.strategies v next } where
  log_safe := safe.log_safe
  node_safe := honest_update (fun u => NodeSafe setup (contexts u) network.sent)
    nodeSafe fun u honest _ => safe.node_safe u honest
  decided := safe.decided

/-- Every step keeps the network safe.  Each authority signs with its own
identity (`localIds`), so one authority's messages say nothing about another. -/
theorem NetworkSafe.step (localIds : ∀ v, (contexts v).localId = v) {network next : Network C D V S}
    (safe : NetworkSafe setup contexts network) (step : Step setup contexts network next) :
    NetworkSafe setup contexts next := by
  cases step with
  | @deliver v honest message admissible =>
      exact safe.update fun _ => (safe.node_safe v honest).importMessage admissible
  | @lockProof v honest justification checkMessage checks checked _ imported =>
      exact safe.update fun _ => (safe.node_safe v honest).importLockProof
        (prepareQuorum_of_check checks checked) imported
  | @poll v honest resolutions _ sent committed polled =>
      obtain ⟨logSafe, nodeSafe, own, quorum⟩ :=
        (safe.node_safe v honest).pollOnce safe.log_safe ((localIds v).symm ▸ honest) polled
      refine ⟨logSafe, ?_, ?_⟩
      · -- the poll sent only messages of `v`
        refine honest_update (fun u => NodeSafe setup (contexts u) (network.sent ++ sent))
          (fun _ => nodeSafe) fun u honestOther other =>
          (safe.node_safe u honestOther).append_other fun message member => ?_
        rw [own message member, localIds, localIds]
        exact Ne.symm other
      · intro u commit member
        rcases List.mem_append.mp member with old | new
        · exact (safe.decided u commit old).mono fun _ sentBefore =>
            List.mem_append_left _ sentBefore
        · simp only [Option.mem_toList, Option.map_eq_some_iff,
            Prod.mk.injEq] at new
          obtain ⟨returned, returnedEq, -, rfl⟩ := new
          exact quorum returned returnedEq

/-- Every network a run reaches is safe. -/
theorem Reachable.networkSafe (localIds : ∀ v, (contexts v).localId = v)
    {network : Network C D V S} (reachable : Reachable setup contexts network) :
    NetworkSafe setup contexts network := by
  induction reachable with
  | init => exact networkSafe_initial
  | tail _ step safe => exact safe.step localIds step

/-- Agreement safety: in every run, two commits returned by polls of honest
authorities are for the same digest. -/
theorem poll_commits_agree (localIds : ∀ v, (contexts v).localId = v)
    {network : Network C D V S} (reachable : Reachable setup contexts network)
    {first second : V} {firstCommit secondCommit : Committed C D S}
    (firstDecided : (first, firstCommit) ∈ network.decided)
    (secondDecided : (second, secondCommit) ∈ network.decided) :
    firstCommit.justification.unchecked.digest = secondCommit.justification.unchecked.digest := by
  have safe := reachable.networkSafe localIds
  exact safe.log_safe.agreement (safe.decided first firstCommit firstDecided)
    (safe.decided second secondCommit secondDecided)

/-- One authority, none faulty. -/
def singleAuthority : Setup Nat where
  authorities := {0}
  honest := {0}
  maxFaulty := 0
  honest_subset := subset_rfl
  few_faulty := by simp
  bound := by simp

/-- Authorities that sign everything with `0` and take a candidate as its own
digest; authority `0` proposes in every round. -/
def singleContexts (v : Nat) : Context Nat Nat Nat Nat :=
  ⟨v, id, fun _ => 0, fun _ _ => 0, fun _ _ => 0, fun _ => 0⟩

/-- Four authorities, of which 3 is faulty. -/
def fourAuthorities : Setup Nat where
  authorities := {0, 1, 2, 3}
  honest := {0, 1, 2}
  maxFaulty := 1
  honest_subset := by decide
  few_faulty := by decide
  bound := by decide

/-- A round in which the faulty authority 3 helps: authority 0 proposes 5 and
prepares it; the network hands 1 the proposal and 0's prepare, with a prepare of
3; 1 prepares and commits; the network hands 0 the prepares and commits of 1
and 3, and a proposal of 3 out of turn; 0 commits and decides; the network
hands 1 the commits of 0 and 3, and 1 decides.  Authority 2 does not take a
step. -/
def agreementTrace : List (Action Nat Nat Nat Nat) :=
  [.poll 0 ⟨some 5, some true, false⟩,
    .deliver 1 (.propose ⟨0, 5, 5, 0, 0, 0⟩), .deliver 1 (.vote ⟨.prepare 0 5, 0, 0⟩),
    .deliver 1 (.vote ⟨.prepare 0 5, 3, 3⟩),
    .poll 1 ⟨none, some true, false⟩,
    .deliver 0 (.vote ⟨.prepare 0 5, 1, 0⟩), .deliver 0 (.vote ⟨.prepare 0 5, 3, 3⟩),
    .deliver 0 (.vote ⟨.commit 0 5, 1, 0⟩), .deliver 0 (.vote ⟨.commit 0 5, 3, 3⟩),
    .deliver 0 (.propose ⟨0, 6, 6, 3, 3, 3⟩),
    .poll 0 ⟨none, none, false⟩,
    .deliver 1 (.vote ⟨.commit 0 5, 0, 0⟩), .deliver 1 (.vote ⟨.commit 0 5, 3, 3⟩),
    .poll 1 ⟨none, none, false⟩]

/-- The network that `agreementTrace` reaches. -/
theorem reachable_agreementTrace :
    ∃ network, (Network.initial fourAuthorities singleContexts).run fourAuthorities singleContexts
        agreementTrace = some network ∧ Reachable fourAuthorities singleContexts network :=
  have ran : (Network.initial fourAuthorities singleContexts).run fourAuthorities singleContexts
      agreementTrace = some _ := rfl
  ⟨_, ran, Reachable.init.run ran⟩

/-- In `agreementTrace` the honest authorities 0 and 1 both decide, and their
commits agree. -/
theorem poll_commits_agree_four :
    ∃ (network : Network Nat Nat Nat Nat) (first second : Committed Nat Nat Nat),
      Reachable fourAuthorities singleContexts network ∧
        network.decided = [(0, first), (1, second)] ∧ first.justification.unchecked.digest = 5 ∧
        first.justification.unchecked.digest = second.justification.unchecked.digest := by
  obtain ⟨network, ran, reachable⟩ := reachable_agreementTrace
  obtain ⟨first, second, decided, five⟩ : ∃ first second,
      network.decided = [(0, first), (1, second)] ∧ first.justification.unchecked.digest = 5 := by
    cases ran
    exact ⟨_, _, rfl, rfl⟩
  have firstDecided : (0, first) ∈ network.decided := by simp [decided]
  have secondDecided : (1, second) ∈ network.decided := by simp [decided]
  exact ⟨network, first, second, reachable, decided, five,
    poll_commits_agree (fun _ => rfl) reachable firstDecided secondDecided⟩

end Bft
end Polkadot
