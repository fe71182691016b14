import Polkadot.Network.OnDemandRuns

/-!
# The on-demand service over the runs `Protocol` allows

What one call of the service does to its core (`OnDemandCore.Serves`): the core
stays sound, gains no peer, and holds the requests it held and those the call
issued, less those the call answered.  Each handler of `OnDemand` is a chain of
the operations of `OnDemandCore`, and serves so.  Over the runs `Protocol`
allows, the node keeps `Node.Sound`: every request a caller made is queued,
held by one busy peer, or answered, exactly once; the ids of the requests are
distinct; and the peers the service holds are distinct and connected.
-/

namespace Polkadot
namespace Network

open Foundations
open scoped List

variable {Data Proof Result Error : Type}

namespace OnDemandCore

/-- What a call, begun on a core sound at `clock` and ended at `now`, did to
it: the core is sound, holds no new peer, and its requests are the old ones and
those `issued`, less those `answered`. -/
structure Serves (core : OnDemandCore Data) (clock : Nat) (next : OnDemandCore Data) (now : Nat)
    (issued answered : List Data) : Prop where
  sound : next.Sound now
  peers : ∀ peer ∈ next.peers, peer ∈ core.peers
  data : (next.requests.map Request.data ++ answered) ~ (core.requests.map Request.data ++ issued)

/-- A sound core serves itself, having issued and answered nothing. -/
theorem Serves.refl {core : OnDemandCore Data} {clock : Nat} (sound : core.Sound clock) :
    Serves core clock core clock [] [] :=
  ⟨sound, fun _ member => member, List.Perm.refl _⟩

section Chains

variable {core next : OnDemandCore Data} {clock between now : Nat} {issued answered : List Data}

/-- A call goes on with `remove_peer`, `maintain_peers` or `dispatch`. -/
theorem Serves.moves {final : OnDemandCore Data} (serves : Serves core clock next between issued answered)
    (moves : Moves next final now) (later : between ≤ now) : Serves core clock final now issued answered where
  sound := serves.sound.moves moves later
  peers := fun peer member => serves.peers peer (moves.peers.subset member)
  data := (moves.data.append_right _).trans serves.data

/-- Dispatching after a step serves the same requests. -/
theorem Serves.dispatch (serves : Serves core clock next between issued answered) (later : between ≤ now) :
    Serves core clock (next.dispatch now).1 now issued answered :=
  serves.moves (moves_dispatch serves.sound.peers_nodup now) later

/-- Removing a peer after a step serves the same requests. -/
theorem Serves.removePeer (serves : Serves core clock next between issued answered) (peer : PeerId) :
    Serves core clock (next.removePeer peer) between issued answered :=
  serves.moves (moves_removePeer serves.sound.peers_nodup peer between) le_rfl

/-- A call goes on with `insert`: one request more. -/
theorem Serves.insert (serves : Serves core clock next between issued answered) (data : Data)
    (later : between ≤ now) : Serves core clock (next.insert data now) now (issued ++ [data]) answered where
  sound := serves.sound.insert data later
  peers := serves.peers
  data := by
    have queued : (next.insert data now).requests.map Request.data ~ next.requests.map Request.data ++ [data] :=
      ((requests_insert next data now).map Request.data).trans (List.perm_append_singleton _ _).symm
    calc (next.insert data now).requests.map Request.data ++ answered
        ~ next.requests.map Request.data ++ [data] ++ answered := queued.append_right _
      _ ~ next.requests.map Request.data ++ answered ++ [data] := by
          rw [List.append_assoc, List.append_assoc]
          exact List.perm_append_comm.append_left _
      _ ~ core.requests.map Request.data ++ issued ++ [data] := serves.data.append_right _
      _ = core.requests.map Request.data ++ (issued ++ [data]) := List.append_assoc _ _ _

/-- A call goes on with `remove` of a request: one request less. -/
theorem Serves.remove {final : OnDemandCore Data} {peer : PeerId} {id : Nat} {request : Request Data}
    (serves : Serves core clock next between issued answered)
    (removed : next.remove peer id = (some request, final)) :
    Serves core clock final between issued (answered ++ [request.data]) where
  sound := serves.sound.remove removed
  peers := fun peer member => serves.peers peer ((peers_remove removed).subset member)
  data :=
    calc final.requests.map Request.data ++ (answered ++ [request.data])
        = final.requests.map Request.data ++ answered ++ [request.data] := (List.append_assoc _ _ _).symm
      _ ~ request.data :: (final.requests.map Request.data ++ answered) := List.perm_append_singleton _ _
      _ ~ next.requests.map Request.data ++ answered :=
          (((requests_remove removed).map Request.data).append_right answered).symm
      _ ~ core.requests.map Request.data ++ issued := serves.data

/-- A request taken and given back is neither issued nor answered. -/
theorem Serves.cancel {data : Data} (serves : Serves core clock next now [data] [data]) :
    Serves core clock next now [] [] :=
  ⟨serves.sound, serves.peers, by simpa using (List.perm_append_right_iff [data]).mp serves.data⟩

end Chains

end OnDemandCore

/-! ## The handlers -/

namespace OnDemand

open OnDemandCore

section Handlers

variable {core : OnDemandCore Data} {clock now : Nat}

/-- Setting the service link serves the requests there were. -/
theorem serves_setServiceLink (sound : core.Sound clock) (later : clock ≤ now) (linked : Bool) :
    Serves core clock (setServiceLink core linked) now [] [] :=
  ⟨⟨sound.peers_nodup, sound.ids_nodup, sound.ids_below, sound.stamps_sorted, (sound.mono later).stamps_past⟩,
    fun _ member => member, List.Perm.refl _⟩

/-- A remote call issues one request with its data. -/
theorem serves_remoteCall (sound : core.Sound clock) (later : clock ≤ now) (data : Data) :
    Serves core clock (remoteCall core data now : OnDemandCore Data × Effects Data Result).1 now [data] [] :=
  ((Serves.refl sound).insert data later).dispatch le_rfl

/-- `maintain_peers` serves the requests there were. -/
theorem serves_maintainPeers (sound : core.Sound clock) (later : clock ≤ now) :
    Serves core clock (maintainPeers core now : OnDemandCore Data × Effects Data Result).1 now [] [] :=
  ((Serves.refl sound).moves (moves_maintainPeers core now) later).dispatch le_rfl

/-- `on_remote_call_response`: an answer that matches hands its data back
(`Ok`), or queues it again (`CheckFailed`); one that does not match changes only
the peers. -/
theorem serves_onRemoteCallResponse (checker : Data → Proof → Except Error Result)
    (sound : core.Sound clock) (later : clock ≤ now) (peer : PeerId) (response : RemoteCallResponse Proof) :
    Serves core clock (onRemoteCallResponse checker core peer response now).1 now []
      ((onRemoteCallResponse checker core peer response now).2.answered.map Prod.fst) := by
  unfold onRemoteCallResponse acceptResponse
  cases removed : core.remove peer response.id with
  | mk request next =>
    cases request with
    | none =>
      obtain rfl := remove_eq_none removed
      exact ((Serves.refl sound).removePeer peer).moves (Moves.refl _ now) later
    | some request =>
      have taken := (Serves.refl sound).remove removed
      cases checked : checker request.data response.proof with
      | ok result =>
        simpa [checkAnswer, checked] using taken.dispatch later
      | error error =>
        -- the request leaves with its peer and comes back under a new id
        have requeued := ((taken.removePeer peer).insert request.data later).dispatch le_rfl
        simpa [checkAnswer, checked] using requeued.cancel

end Handlers

end OnDemand

/-! ## The runs -/

namespace Node

open OnDemandCore

/-- The invariant of the runs: the core is sound, every peer it holds is
connected, and the requests made are those queued, those held and those
answered. -/
structure Sound (s : Node Data) : Prop where
  core : s.core.Sound s.clock
  connected : ∀ peer ∈ s.core.peers, peer ∈ s.connected
  conserved : s.issued ~ s.core.requests.map Request.data ++ s.answered

/-- A node that has seen nothing is sound. -/
theorem sound_initial (start : Nat) : (initial start : Node Data).Sound where
  core := sound_new start
  connected := by simp [initial, peers, OnDemandCore.new, LinkedMap.keys]
  conserved := by simp [initial, requests, OnDemandCore.new, LinkedMap.values]

/-- A call that serves keeps the invariant. -/
theorem Sound.of_serves {s next : Node Data} {issued answered : List Data} (sound : s.Sound)
    (serves : Serves s.core s.clock next.core next.clock issued answered)
    (connected : next.connected = s.connected) (issuedNext : next.issued = s.issued ++ issued)
    (answeredNext : next.answered = s.answered ++ answered) : next.Sound where
  core := serves.sound
  connected := fun peer member => connected ▸ sound.connected peer (serves.peers peer member)
  conserved := by
    rw [issuedNext, answeredNext]
    calc s.issued ++ issued
        ~ s.core.requests.map Request.data ++ s.answered ++ issued := sound.conserved.append_right _
      _ ~ s.core.requests.map Request.data ++ issued ++ s.answered := by
          rw [List.append_assoc, List.append_assoc]
          exact List.perm_append_comm.append_left _
      _ ~ next.core.requests.map Request.data ++ answered ++ s.answered := serves.data.symm.append_right _
      _ ~ next.core.requests.map Request.data ++ (s.answered ++ answered) := by
          rw [List.append_assoc]
          exact List.perm_append_comm.append_left _

/-- A peer `Protocol` reports connected is new to the service. -/
theorem Sound.connect {s : Node Data} (sound : s.Sound) {peer : PeerId} (fresh : peer ∉ s.connected) :
    ({ s with core := s.core.addPeer peer, connected := peer :: s.connected } : Node Data).Sound where
  core := sound.core.addPeer fun held => fresh (sound.connected peer held)
  connected := by
    intro other member
    change other ∈ s.core.idlePeers ++ [peer] ++ s.core.activePeers.keys at member
    rw [List.append_assoc, List.mem_append, List.singleton_append, List.mem_cons] at member
    rcases member with idle | rfl | busy
    · exact List.mem_cons_of_mem _ (sound.connected other (List.mem_append_left _ idle))
    · exact List.mem_cons_self
    · exact List.mem_cons_of_mem _ (sound.connected other (List.mem_append_right _ busy))
  conserved := sound.conserved

/-- A peer `Protocol` reports disconnected leaves the service. -/
theorem Sound.disconnect {s : Node Data} (sound : s.Sound) (peer : PeerId) :
    ({ s with core := s.core.removePeer peer, connected := s.connected.erase peer } : Node Data).Sound where
  core := sound.core.removePeer peer le_rfl
  connected := by
    intro other member
    have different : other ≠ peer := fun same =>
      not_mem_peers_removePeer sound.core.peers_nodup peer (same ▸ member)
    have held := (moves_removePeer sound.core.peers_nodup peer s.clock).peers.subset member
    exact (List.mem_erase_of_ne different).mpr (sound.connected other held)
  conserved := sound.conserved.trans
    (((moves_removePeer sound.core.peers_nodup peer s.clock).data.symm).append_right _)

/-- One event `Protocol` allows keeps the invariant. -/
theorem Sound.apply (checker : Data → Proof → Except Error Result) {s : Node Data} {now : Nat}
    {event : Event Data Proof} (sound : s.Sound) (allowed : s.Allowed now event) :
    (s.apply checker now event).Sound := by
  cases event with
  | setServiceLink linked =>
    exact sound.of_serves (OnDemand.serves_setServiceLink sound.core allowed linked) rfl
      (List.append_nil _).symm (List.append_nil _).symm
  | remoteCall data =>
    exact sound.of_serves (@OnDemand.serves_remoteCall _ Result _ _ _ sound.core allowed data) rfl rfl
      (List.append_nil _).symm
  | connect peer role =>
    obtain ⟨later, fresh⟩ := allowed
    by_cases full : role.intersects (Role.full ||| Role.collator ||| Role.validator)
    · -- a full node becomes an idle peer, and may get a request at once
      have joined := sound.connect fresh
      have dispatched : (s.apply checker now (.connect peer role)).core =
          ((s.core.addPeer peer).dispatch now).1 := by
        simp [Node.apply, OnDemand.onConnect, full]
      exact joined.of_serves (dispatched ▸ (Serves.refl joined.core).dispatch later) rfl
        (List.append_nil _).symm (List.append_nil _).symm
    · -- any other node is connected, but not a peer of the service
      have same : (OnDemand.onConnect s.core peer role now : OnDemandCore Data × Effects Data Result).1 =
          s.core := by simp [OnDemand.onConnect, full]
      refine ⟨?_, ?_, ?_⟩
      · simpa [Node.apply, same] using sound.core.mono later
      · intro other member
        simp only [Node.apply, same] at member ⊢
        exact List.mem_cons_of_mem _ (sound.connected other member)
      · simpa [Node.apply, same] using sound.conserved
  | disconnect peer =>
    have left := sound.disconnect peer
    exact left.of_serves ((Serves.refl left.core).dispatch allowed.1) rfl (List.append_nil _).symm
      (List.append_nil _).symm
  | maintainPeers =>
    exact sound.of_serves (@OnDemand.serves_maintainPeers _ Result _ _ _ sound.core allowed) rfl
      (List.append_nil _).symm (List.append_nil _).symm
  | remoteCallResponse peer response =>
    exact sound.of_serves (OnDemand.serves_onRemoteCallResponse checker sound.core allowed peer response)
      rfl (List.append_nil _).symm rfl

/-- Every state a run reaches is sound. -/
theorem Reachable.sound {checker : Data → Proof → Except Error Result} {s : Node Data}
    (reach : Reachable checker s) : s.Sound := by
  induction reach with
  | initial start => exact sound_initial start
  | step _ allowed ih => exact ih.apply checker allowed

/-! ## What every run keeps -/

/-- A checker that accepts a proof equal to the data it checks, and answers
with the data. -/
def echoChecker (data proof : Nat) : Except Unit Nat := if proof = data then .ok data else .error ()

/-- Two full nodes connect and three calls are made, two of them dispatched at
once; peer 10 answers the first and is handed the third; peer 11 disconnects,
and its request goes back to the queue. -/
def answerTrace : List (Nat × Event Nat Nat) :=
  [(1, .setServiceLink true), (2, .connect 10 Role.full), (3, .connect 11 Role.full),
    (4, .remoteCall 5), (5, .remoteCall 6), (6, .remoteCall 7),
    (7, .remoteCallResponse 10 ⟨0, 5⟩), (8, .disconnect 11)]

/-- `answerTrace` is a run that `Protocol` allows. -/
theorem reachable_answerTrace :
    ∃ s, (initial 0 : Node Nat).run echoChecker answerTrace = some s ∧ Reachable echoChecker s :=
  have ran : (initial 0 : Node Nat).run echoChecker answerTrace = some _ := rfl
  ⟨_, ran, (Reachable.initial 0).run ran⟩

section Runs

variable {checker : Data → Proof → Except Error Result} {s : Node Data}

/-- No request is lost or made twice: the data of the calls made are those of
the requests queued or held and of the answers handed back, each as often. -/
theorem requests_never_lost (reach : Reachable checker s) :
    s.issued ~ s.core.requests.map Request.data ++ s.answered :=
  reach.sound.conserved

/-- After `answerTrace`, the three calls are one answer, one queued request and
one busy peer's request. -/
theorem requests_never_lost_answerTrace :
    ∃ s : Node Nat, Reachable echoChecker s ∧ s.issued = [5, 6, 7] ∧ s.answered = [5] ∧
      s.issued ~ s.core.requests.map Request.data ++ s.answered := by
  obtain ⟨s, ran, reach⟩ := reachable_answerTrace
  have issued : s.issued = [5, 6, 7] := by cases ran; rfl
  have answered : s.answered = [5] := by cases ran; rfl
  exact ⟨s, reach, issued, answered, requests_never_lost reach⟩

/-- No peer is idle twice or idle and busy at once, so `dispatch` never gives a
busy peer a second request (which `insert` would put in place of the first);
and every peer the service holds is connected. -/
theorem peers_distinct_connected (reach : Reachable checker s) :
    s.core.peers.Nodup ∧ ∀ peer ∈ s.core.peers, peer ∈ s.connected :=
  ⟨reach.sound.core.peers_nodup, reach.sound.connected⟩

/-- After `answerTrace`, peer 10 is the one peer left, busy and connected. -/
theorem peers_distinct_connected_answerTrace :
    ∃ s : Node Nat, Reachable echoChecker s ∧ s.core.peers = [10] ∧ s.connected = [10] ∧
      s.core.peers.Nodup ∧ ∀ peer ∈ s.core.peers, peer ∈ s.connected := by
  obtain ⟨s, ran, reach⟩ := reachable_answerTrace
  have peers : s.core.peers = [10] := by cases ran; rfl
  have connected : s.connected = [10] := by cases ran; rfl
  exact ⟨s, reach, peers, connected, peers_distinct_connected reach⟩

/-- `maintain_peers` disconnects exactly the peers whose requests have timed
out, though it looks only at the oldest dispatches; and after it no busy peer
holds a request that has timed out. -/
theorem maintainPeers_disconnects_timed_out (reach : Reachable checker s) (now : Nat) :
    (OnDemand.maintainPeers s.core now : OnDemandCore Data × Effects Data Result).2.disconnected =
        (s.core.activePeers.entries.filter (timedOut now)).map Prod.fst ∧
      ∀ entry ∈ (OnDemand.maintainPeers s.core now : OnDemandCore Data × Effects Data Result).1.activePeers.entries,
        timedOut now entry = false := by
  obtain ⟨active, -, bad⟩ := maintainPeers_eq_filter reach.sound.core now
  refine ⟨bad, fun entry member => ?_⟩
  have swept := nodup_of_subperm (moves_maintainPeers s.core now).peers reach.sound.core.peers_nodup
  obtain ⟨kept, fresh, sub, entries, stamped⟩ := (moves_dispatch swept now).active
  change entry ∈ ((s.core.maintainPeers now).1.dispatch now).1.activePeers.entries at member
  rw [entries, List.mem_append] at member
  rcases member with old | new
  · -- a request that stayed busy had not timed out
    have survived := sub.subset old
    rw [active, List.mem_filter] at survived
    simpa using survived.2
  · -- a request just dispatched is stamped `now`
    simp [timedOut, stamped entry new, requestTimeout]

/-- After `answerTrace`, peer 10 was handed its request at 7, which has timed out
at 15007. -/
theorem maintainPeers_disconnects_timed_out_answerTrace :
    ∃ s : Node Nat, Reachable echoChecker s ∧
      (OnDemand.maintainPeers s.core 15007 : OnDemandCore Nat × Effects Nat Nat).2.disconnected = [10] ∧
      (OnDemand.maintainPeers s.core 15007 : OnDemandCore Nat × Effects Nat Nat).2.disconnected =
          (s.core.activePeers.entries.filter (timedOut 15007)).map Prod.fst ∧
        ∀ entry ∈ (OnDemand.maintainPeers s.core 15007 : OnDemandCore Nat × Effects Nat Nat).1.activePeers.entries,
          timedOut 15007 entry = false := by
  obtain ⟨s, ran, reach⟩ := reachable_answerTrace
  have bad : (OnDemand.maintainPeers s.core 15007 : OnDemandCore Nat × Effects Nat Nat).2.disconnected = [10] := by
    cases ran
    rfl
  exact ⟨s, reach, bad, maintainPeers_disconnects_timed_out reach 15007⟩

end Runs

/-! ## When a call dispatches -/

/-- The events whose handler ends in `dispatch`: all but `set_service_link`,
the connection of a node that is not a full node, and an answer that matches no
request of its peer. -/
def Dispatches (s : Node Data) : Event Data Proof → Prop
  | .setServiceLink _ => False
  | .connect _ role => role.intersects (Role.full ||| Role.collator ||| Role.validator) = true
  | .remoteCallResponse peer response => (s.core.remove peer response.id).1.isSome = true
  | _ => True

/-- A dispatching event leaves the core that `dispatch` made of a core with
distinct peers. -/
theorem dispatched_of_dispatches (checker : Data → Proof → Except Error Result) {s : Node Data} {now : Nat}
    {event : Event Data Proof} (sound : s.Sound) (allowed : s.Allowed now event) (dispatches : s.Dispatches event) :
    ∃ core : OnDemandCore Data, core.peers.Nodup ∧ (s.apply checker now event).core = (core.dispatch now).1 := by
  cases event with
  | setServiceLink linked => exact dispatches.elim
  | remoteCall data => exact ⟨_, (sound.core.insert data allowed).peers_nodup, rfl⟩
  | connect peer role =>
    refine ⟨_, (sound.connect allowed.2).core.peers_nodup, ?_⟩
    simp [Node.apply, OnDemand.onConnect, show role.intersects _ = true from dispatches]
  | disconnect peer => exact ⟨_, (sound.disconnect peer).core.peers_nodup, rfl⟩
  | maintainPeers => exact ⟨_, (sound.core.maintainPeers allowed).peers_nodup, rfl⟩
  | remoteCallResponse peer response =>
    change (s.core.remove peer response.id).1.isSome = true at dispatches
    cases removed : s.core.remove peer response.id with
    | mk request next =>
      cases request with
      | none => simp [removed] at dispatches
      | some request =>
        have taken := sound.core.remove removed
        cases checked : checker request.data response.proof with
        | ok result =>
          refine ⟨next, taken.peers_nodup, ?_⟩
          simp [Node.apply, OnDemand.onRemoteCallResponse, OnDemand.acceptResponse, OnDemand.checkAnswer,
            removed, checked]
        | error error =>
          refine ⟨(next.removePeer peer).insert request.data now,
            ((taken.removePeer peer le_rfl).insert request.data le_rfl).peers_nodup, ?_⟩
          simp [Node.apply, OnDemand.onRemoteCallResponse, OnDemand.acceptResponse, OnDemand.checkAnswer,
            removed, checked]

/-- Once the network service is there, every event whose handler dispatches
leaves no request waiting while a peer is idle. -/
theorem dispatches_leave_no_idle_peer {checker : Data → Proof → Except Error Result} {s : Node Data}
    {now : Nat} {event : Event Data Proof} (reach : Reachable checker s) (allowed : s.Allowed now event)
    (dispatches : s.Dispatches event) (linked : (s.apply checker now event).core.service = true) :
    (s.apply checker now event).core.pendingRequests = [] ∨ (s.apply checker now event).core.idlePeers = [] := by
  obtain ⟨core, distinct, dispatched⟩ := dispatched_of_dispatches checker reach.sound allowed dispatches
  rw [dispatched] at linked ⊢
  exact dispatch_drains distinct now linked

/-- After `answerTrace`, a full node that connects at 9 is handed the request
that waits. -/
theorem dispatches_leave_no_idle_peer_answerTrace :
    ∃ s : Node Nat, Reachable echoChecker s ∧ s.core.pendingRequests.map Request.id = [1] ∧
      s.Allowed 9 (.connect 12 Role.full : Event Nat Nat) ∧ s.Dispatches (.connect 12 Role.full : Event Nat Nat) ∧
      (s.apply echoChecker 9 (.connect 12 Role.full)).core.service = true ∧
      ((s.apply echoChecker 9 (.connect 12 Role.full)).core.pendingRequests = [] ∨
        (s.apply echoChecker 9 (.connect 12 Role.full)).core.idlePeers = []) := by
  obtain ⟨s, ran, reach⟩ := reachable_answerTrace
  have waiting : s.core.pendingRequests.map Request.id = [1] := by cases ran; rfl
  have allowed : s.Allowed 9 (.connect 12 Role.full : Event Nat Nat) := by cases ran; decide
  have dispatches : s.Dispatches (.connect 12 Role.full : Event Nat Nat) := by
    unfold Dispatches
    rfl
  have linked : (s.apply echoChecker 9 (.connect 12 Role.full)).core.service = true := by cases ran; rfl
  exact ⟨s, reach, waiting, allowed, dispatches, linked, dispatches_leave_no_idle_peer reach allowed dispatches linked⟩

end Node

end Network
end Polkadot
