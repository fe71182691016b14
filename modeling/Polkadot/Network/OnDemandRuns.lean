import Polkadot.Network.OnDemand

/-!
# The on-demand service over its runs

What each operation of `OnDemandCore` does to its queue, its busy peers and its
idle peers (`dispatchLoop_spec`, `maintainLoop_spec`, `removePeer_cases`,
`remove_cases`), and the invariant of the core they keep (`OnDemandCore.Sound`):
no peer is idle twice, or idle and busy at once; the ids of the requests are
distinct and below `next_request_id`; and the busy peers, oldest dispatch
first, got their requests in the order of time.  Over the runs that `Protocol`
allows, every request a caller made is queued, held by one peer, or answered,
exactly once (`Node.Sound`).
-/

namespace Polkadot
namespace Network

open Foundations
open scoped List

variable {Data Proof Result Error : Type}

/-- A request as `dispatch` sends it at time `now`. -/
def Request.restamp (now : Nat) (request : Request Data) : Request Data :=
  { request with timestamp := now }

/-- What a request is, whatever time it carries: its id and its data. -/
def Request.tag (request : Request Data) : Nat × Data := (request.id, request.data)

/-- Restamping keeps a request's id and data. -/
@[simp] theorem Request.tag_restamp (now : Nat) (request : Request Data) :
    (request.restamp now).tag = request.tag := rfl

/-- Restamping sets a request's timestamp. -/
@[simp] theorem Request.timestamp_restamp (now : Nat) (request : Request Data) :
    (request.restamp now).timestamp = now := rfl

namespace OnDemandCore

/-- The requests of a core: those queued, then those the busy peers hold. -/
def requests (core : OnDemandCore Data) : List (Request Data) :=
  core.pendingRequests ++ core.activePeers.values

/-- The peers of a core: the idle ones, then the busy ones. -/
def peers (core : OnDemandCore Data) : List PeerId :=
  core.idlePeers ++ core.activePeers.keys

/-- How many requests `dispatch` sends: one for each idle peer, while requests
wait. -/
def dispatchCount (core : OnDemandCore Data) : Nat :=
  min core.pendingRequests.length core.idlePeers.length

/-- The requests `dispatch` sends at time `now`, each with its peer: the oldest
requests to the peers idle longest. -/
def dispatched (core : OnDemandCore Data) (now : Nat) : List (PeerId × Request Data) :=
  (core.idlePeers.take core.dispatchCount).zip
    ((core.pendingRequests.take core.dispatchCount).map (Request.restamp now))

/-! ## `dispatch` -/

/-- Distinct peers have distinct idle peers. -/
theorem idle_nodup {core : OnDemandCore Data} (distinct : core.peers.Nodup) :
    core.idlePeers.Nodup :=
  (List.nodup_append.mp distinct).1

/-- An idle peer is not busy. -/
theorem not_mem_keys_of_idle {core : OnDemandCore Data} (distinct : core.peers.Nodup)
    {peer : PeerId} (idle : peer ∈ core.idlePeers) : peer ∉ core.activePeers.keys :=
  fun busy => (List.nodup_append.mp distinct).2.2 peer idle peer busy rfl

/-- One round of the loop of `dispatch`. -/
theorem dispatchLoop_round (now fuel : Nat) {core : OnDemandCore Data} {request : Request Data}
    {pending : List (Request Data)} {peer : PeerId} {idle : List PeerId}
    (queued : core.pendingRequests = request :: pending) (waiting : core.idlePeers = peer :: idle)
    (sent : List (PeerId × Request Data)) :
    dispatchLoop now (fuel + 1) core sent =
      dispatchLoop now fuel
        { core with pendingRequests := pending, idlePeers := idle,
                    activePeers := core.activePeers.insert peer (request.restamp now) }
        (sent ++ [(peer, request.restamp now)]) := by
  simp only [dispatchLoop, queued, waiting]
  rfl

/-- With no pending request the dispatch loop sends nothing. -/
theorem dispatchLoop_of_nil_pending (now fuel : Nat) {core : OnDemandCore Data}
    (empty : core.pendingRequests = []) (sent : List (PeerId × Request Data)) :
    dispatchLoop now fuel core sent = (core, sent) := by
  cases fuel <;> simp [dispatchLoop, empty]

/-- With no idle peer the dispatch loop sends nothing. -/
theorem dispatchLoop_of_nil_idle (now fuel : Nat) {core : OnDemandCore Data}
    (empty : core.idlePeers = []) (sent : List (PeerId × Request Data)) :
    dispatchLoop now fuel core sent = (core, sent) := by
  cases fuel with
  | zero => rfl
  | succ fuel =>
    simp only [dispatchLoop, empty]
    split <;> simp_all

/-- The peers of the core after a round: the peer leaves the front of the idle
ones for the back of the busy ones. -/
theorem peers_nodup_round {core : OnDemandCore Data} {peer : PeerId} {idle : List PeerId}
    (waiting : core.idlePeers = peer :: idle) (distinct : core.peers.Nodup) (request : Request Data) :
    (idle ++ (core.activePeers.insert peer request).keys).Nodup := by
  have absent := not_mem_keys_of_idle distinct (waiting ▸ List.mem_cons_self ..)
  rw [LinkedMap.keys_insert_of_not_mem absent, ← List.append_assoc]
  refine (List.perm_append_singleton peer (idle ++ core.activePeers.keys)).nodup_iff.mpr ?_
  simpa [peers, waiting] using distinct

/-- `dispatch` in `dispatchCount` rounds: the requests it sends leave the front
of the queue, their peers leave the front of the idle ones, and both go, in
that order, to the back of the busy peers. -/
theorem dispatchLoop_spec (now : Nat) :
    ∀ (fuel : Nat) (core : OnDemandCore Data) (sent : List (PeerId × Request Data)),
      core.pendingRequests.length ≤ fuel → core.peers.Nodup →
      (dispatchLoop now fuel core sent).1.service = core.service ∧
      (dispatchLoop now fuel core sent).1.nextRequestId = core.nextRequestId ∧
      (dispatchLoop now fuel core sent).1.pendingRequests =
        core.pendingRequests.drop core.dispatchCount ∧
      (dispatchLoop now fuel core sent).1.idlePeers = core.idlePeers.drop core.dispatchCount ∧
      (dispatchLoop now fuel core sent).1.activePeers.entries =
        core.activePeers.entries ++ core.dispatched now ∧
      (dispatchLoop now fuel core sent).2 = sent ++ core.dispatched now := by
  intro fuel
  induction fuel with
  | zero =>
    intro core sent short _
    have empty : core.pendingRequests = [] := List.eq_nil_of_length_eq_zero (by omega)
    simp [dispatchLoop, dispatchCount, dispatched, empty]
  | succ fuel ih =>
    intro core sent short distinct
    -- the loop stops at once unless a request waits and a peer is idle
    cases queued : core.pendingRequests with
    | nil => simp [dispatchLoop_of_nil_pending now _ queued, dispatchCount, dispatched, queued]
    | cons request pending =>
      cases waiting : core.idlePeers with
      | nil =>
        simp [dispatchLoop_of_nil_idle now _ waiting, dispatchCount, dispatched, waiting, queued]
      | cons peer idle =>
        rw [dispatchLoop_round now fuel queued waiting]
        have absent := not_mem_keys_of_idle distinct (waiting ▸ List.mem_cons_self ..)
        obtain ⟨service, next, pendingAfter, idleAfter, activeAfter, sentAfter⟩ :=
          ih { core with pendingRequests := pending, idlePeers := idle,
                         activePeers := core.activePeers.insert peer (request.restamp now) }
            (sent ++ [(peer, request.restamp now)])
            (by rw [queued, List.length_cons] at short; exact Nat.le_of_succ_le_succ short)
            (peers_nodup_round waiting distinct _)
        have count : core.dispatchCount = min pending.length idle.length + 1 := by
          simp [dispatchCount, queued, waiting, Nat.succ_min_succ]
        dsimp only [dispatchCount, dispatched] at pendingAfter idleAfter activeAfter sentAfter
        refine ⟨service, next, ?_, ?_, ?_, ?_⟩
        · rw [pendingAfter, count, List.drop_succ_cons]
        · rw [idleAfter, count, List.drop_succ_cons]
        · rw [activeAfter, LinkedMap.entries_insert_of_not_mem absent, dispatched, count, queued,
            waiting, List.take_succ_cons, List.take_succ_cons, List.map_cons, List.zip_cons_cons,
            List.append_assoc, List.singleton_append]
        · rw [sentAfter, dispatched, count, queued, waiting, List.take_succ_cons, List.take_succ_cons,
            List.map_cons, List.zip_cons_cons, List.append_assoc, List.singleton_append]

/-- Nothing waits beside an idle peer after `dispatch`, when the network service
is there. -/
theorem dispatchCount_drains (core : OnDemandCore Data) :
    core.pendingRequests.drop core.dispatchCount = [] ∨ core.idlePeers.drop core.dispatchCount = [] := by
  unfold dispatchCount
  rcases le_total core.pendingRequests.length core.idlePeers.length with fewer | more
  · exact .inl (List.drop_eq_nil_of_le (by omega))
  · exact .inr (List.drop_eq_nil_of_le (by omega))

/-- The peers dispatched to are the first idle peers. -/
theorem map_fst_dispatched (core : OnDemandCore Data) (now : Nat) :
    (core.dispatched now).map Prod.fst = core.idlePeers.take core.dispatchCount :=
  List.map_fst_zip (by simp [dispatchCount])

/-- The requests dispatched are the first pending ones, restamped. -/
theorem map_snd_dispatched (core : OnDemandCore Data) (now : Nat) :
    (core.dispatched now).map Prod.snd =
      (core.pendingRequests.take core.dispatchCount).map (Request.restamp now) :=
  List.map_snd_zip (by simp [dispatchCount])

/-- `dispatch` when the network service is there: `dispatchCount` rounds. -/
theorem dispatch_spec (core : OnDemandCore Data) (now : Nat) (linked : core.service = true)
    (distinct : core.peers.Nodup) :
    (core.dispatch now).1.service = core.service ∧
    (core.dispatch now).1.nextRequestId = core.nextRequestId ∧
    (core.dispatch now).1.pendingRequests = core.pendingRequests.drop core.dispatchCount ∧
    (core.dispatch now).1.idlePeers = core.idlePeers.drop core.dispatchCount ∧
    (core.dispatch now).1.activePeers.entries = core.activePeers.entries ++ core.dispatched now ∧
    (core.dispatch now).2 = core.dispatched now := by
  unfold dispatch
  rw [if_pos linked]
  simpa using dispatchLoop_spec now _ core [] le_rfl distinct

/-- Without a service link nothing is dispatched. -/
theorem dispatch_of_unlinked (core : OnDemandCore Data) (now : Nat) (unlinked : core.service = false) :
    core.dispatch now = (core, []) := by
  simp [dispatch, unlinked]

/-- With the network service, `dispatch` leaves no request waiting while a
peer is idle. -/
theorem dispatch_drains {core : OnDemandCore Data} (distinct : core.peers.Nodup) (now : Nat)
    (linked : (core.dispatch now).1.service = true) :
    (core.dispatch now).1.pendingRequests = [] ∨ (core.dispatch now).1.idlePeers = [] := by
  cases service : core.service with
  | false =>
    rw [dispatch_of_unlinked core now service] at linked
    exact absurd (linked.symm.trans service) (by decide)
  | true =>
    obtain ⟨-, -, pending, idle, -⟩ := dispatch_spec core now service distinct
    rw [pending, idle]
    exact dispatchCount_drains core

/-! ## `maintain_peers` -/

/-- Whether the request of an entry of `active_peers` has timed out at `now`. -/
def timedOut (now : Nat) (entry : PeerId × Request Data) : Bool :=
  requestTimeout ≤ now - entry.2.timestamp

/-- `maintain_peers` takes off the busy peers the longest run of timed-out
dispatches at the front: their requests go to the front of the queue, the last
taken first, and their peers are reported. -/
theorem maintainLoop_spec (now : Nat) :
    ∀ (fuel : Nat) (core : OnDemandCore Data) (badPeers : List PeerId),
      core.activePeers.entries.length ≤ fuel →
      (maintainLoop now fuel core badPeers).1.service = core.service ∧
      (maintainLoop now fuel core badPeers).1.nextRequestId = core.nextRequestId ∧
      (maintainLoop now fuel core badPeers).1.idlePeers = core.idlePeers ∧
      (maintainLoop now fuel core badPeers).1.pendingRequests =
        ((core.activePeers.entries.takeWhile (timedOut now)).map Prod.snd).reverse ++
          core.pendingRequests ∧
      (maintainLoop now fuel core badPeers).1.activePeers.entries =
        core.activePeers.entries.dropWhile (timedOut now) ∧
      (maintainLoop now fuel core badPeers).2 =
        badPeers ++ (core.activePeers.entries.takeWhile (timedOut now)).map Prod.fst := by
  intro fuel
  induction fuel with
  | zero =>
    intro core badPeers short
    have empty : core.activePeers.entries = [] := List.eq_nil_of_length_eq_zero (by omega)
    simp [maintainLoop, empty]
  | succ fuel ih =>
    intro core badPeers short
    cases front : core.activePeers.popFront? with
    | none =>
      have empty := LinkedMap.popFront?_eq_none.mp front
      simp [maintainLoop, front, empty]
    | some popped =>
      obtain ⟨⟨badPeer, request⟩, rest⟩ := popped
      have entries := LinkedMap.popFront?_eq_some.mp front
      by_cases late : requestTimeout ≤ now - request.timestamp
      · -- the oldest dispatch timed out: its request is queued again, and the loop goes on
        have first : timedOut now (badPeer, request) = true := by simpa [timedOut] using late
        obtain ⟨service, next, idle, pending, active, bad⟩ :=
          ih { core with pendingRequests := request :: core.pendingRequests, activePeers := rest }
            (badPeers ++ [badPeer]) (by rw [entries, List.length_cons] at short; exact Nat.le_of_succ_le_succ short)
        simp only [maintainLoop, front, if_pos late]
        refine ⟨service, next, idle, ?_, ?_, ?_⟩
        · rw [pending, entries, List.takeWhile_cons_of_pos first, List.map_cons, List.reverse_cons,
            List.append_assoc, List.singleton_append]
        · rw [active, entries, List.dropWhile_cons_of_pos first]
        · rw [bad, entries, List.takeWhile_cons_of_pos first, List.map_cons, List.append_assoc,
            List.singleton_append]
      · have first : ¬timedOut now (badPeer, request) = true := by simpa [timedOut] using late
        simp [maintainLoop, front, if_neg late, entries, List.takeWhile_cons_of_neg first,
          List.dropWhile_cons_of_neg first]

/-! ## `remove_peer` and `remove` -/

/-- `remove_peer` of a busy peer. -/
theorem removePeer_of_mem {core : OnDemandCore Data} {peer : PeerId} {request : Request Data}
    (member : (peer, request) ∈ core.activePeers.entries) :
    core.removePeer peer =
      { core with pendingRequests := request :: core.pendingRequests,
                  activePeers := core.activePeers.erase peer } := by
  simp only [removePeer, LinkedMap.remove, LinkedMap.get?_eq_some_iff.mpr member]

/-- `remove_peer` of a peer that is not busy: the idle peers lose it, in some
order. -/
theorem removePeer_of_not_mem {core : OnDemandCore Data} {peer : PeerId}
    (absent : peer ∉ core.activePeers.keys) (distinct : core.idlePeers.Nodup) :
    ∃ idlePeers, idlePeers.Perm (core.idlePeers.erase peer) ∧
      core.removePeer peer = { core with idlePeers } := by
  have free : core.activePeers.get? peer = none := LinkedMap.get?_eq_none_iff.mpr absent
  cases found : core.idlePeers.idxOf? peer with
  | none =>
    refine ⟨core.idlePeers, ?_, ?_⟩
    · rw [List.erase_of_not_mem (List.idxOf?_eq_none_iff.mp found)]
    · simp only [removePeer, LinkedMap.remove, free, found]
  | some idleIndex =>
    refine ⟨swapRemoveBack core.idlePeers idleIndex, ?_, ?_⟩
    · obtain ⟨inside, stored, -⟩ := List.idxOf?_eq_some_iff.mp found
      exact Democracy.swapRemove_perm_erase distinct (List.getElem?_eq_some_iff.mpr ⟨inside, stored⟩)
    · simp only [removePeer, LinkedMap.remove, free, found]

/-- `remove`: an answer matches the request its peer holds, or changes nothing. -/
theorem remove_cases (core : OnDemandCore Data) (peer : PeerId) (id : Nat) :
    core.remove peer id = (none, core) ∨
      ∃ request, (peer, request) ∈ core.activePeers.entries ∧ request.id = id ∧
        core.remove peer id =
          (some request, { core with idlePeers := core.idlePeers ++ [peer],
                                     activePeers := core.activePeers.erase peer }) := by
  unfold remove
  cases held : core.activePeers.get? peer with
  | none => exact .inl rfl
  | some request =>
    by_cases same : request.id = id
    · exact .inr ⟨request, LinkedMap.get?_eq_some_iff.mp held, same, by simp [same]⟩
    · exact .inl (by simp [same])

/-- An answer matches when its peer holds a request under its id. -/
theorem remove_isSome_iff (core : OnDemandCore Data) (peer : PeerId) (id : Nat) :
    (core.remove peer id).1.isSome ↔
      ∃ request, (peer, request) ∈ core.activePeers.entries ∧ request.id = id := by
  rcases remove_cases core peer id with unmatched | ⟨request, member, same, matched⟩
  · rw [unmatched]
    simp only [Option.isSome_none, Bool.false_eq_true, false_iff, not_exists, not_and]
    intro request member same
    unfold remove at unmatched
    simp [LinkedMap.get?_eq_some_iff.mpr member, same] at unmatched
  · rw [matched]
    exact ⟨fun _ => ⟨request, member, same⟩, fun _ => rfl⟩

/-! ## What `remove_peer`, `maintain_peers` and `dispatch` keep -/

/-- The ids of the requests are the first parts of their tags. -/
theorem map_id_requests (core : OnDemandCore Data) :
    core.requests.map Request.id = (core.requests.map Request.tag).map Prod.fst := by
  simp [List.map_map, Function.comp_def, Request.tag]

/-- The data of the requests are the second parts of their tags. -/
theorem map_data_requests (core : OnDemandCore Data) :
    core.requests.map Request.data = (core.requests.map Request.tag).map Prod.snd := by
  simp [List.map_map, Function.comp_def, Request.tag]

/-- What `remove_peer`, `maintain_peers` and `dispatch` may do to a core at time
`now`: move requests between the queue and the busy peers and restamp those
sent; take peers off, or move them between idle and busy; and give busy peers
requests only at the back, stamped `now`. -/
structure Moves (core next : OnDemandCore Data) (now : Nat) : Prop where
  tags : (next.requests.map Request.tag).Perm (core.requests.map Request.tag)
  nextRequestId : next.nextRequestId = core.nextRequestId
  peers : next.peers.Subperm core.peers
  active : ∃ kept fresh, kept.Sublist core.activePeers.entries ∧
    next.activePeers.entries = kept ++ fresh ∧ ∀ entry ∈ fresh, entry.2.timestamp = now

/-- A core moves to itself. -/
theorem Moves.refl (core : OnDemandCore Data) (now : Nat) : Moves core core now :=
  ⟨.refl _, rfl, List.Subperm.refl _, ⟨_, [], List.Sublist.refl _, (List.append_nil _).symm, by simp⟩⟩

/-- Moves compose. -/
theorem Moves.trans {core middle next : OnDemandCore Data} {now : Nat}
    (first : Moves core middle now) (second : Moves middle next now) : Moves core next now := by
  obtain ⟨kept, fresh, sub, entries, stamped⟩ := first.active
  obtain ⟨kept', fresh', sub', entries', stamped'⟩ := second.active
  rw [entries] at sub'
  obtain ⟨older, newer, rfl, olderSub, newerSub⟩ := List.sublist_append_iff.mp sub'
  refine ⟨second.tags.trans first.tags, second.nextRequestId.trans first.nextRequestId,
    second.peers.trans first.peers, older, newer ++ fresh', olderSub.trans sub, ?_, ?_⟩
  · rw [entries', List.append_assoc]
  · intro entry member
    rcases List.mem_append.mp member with old | new
    · exact stamped entry (newerSub.subset old)
    · exact stamped' entry new

/-- Taking a peer off the core removes it everywhere. -/
theorem removePeer_cases {core : OnDemandCore Data} (distinct : core.peers.Nodup) (peer : PeerId) :
    (∃ request, (peer, request) ∈ core.activePeers.entries ∧
      core.removePeer peer =
        { core with pendingRequests := request :: core.pendingRequests,
                    activePeers := core.activePeers.erase peer }) ∨
    (peer ∉ core.activePeers.keys ∧ ∃ idlePeers, idlePeers.Perm (core.idlePeers.erase peer) ∧
      core.removePeer peer = { core with idlePeers }) := by
  by_cases busy : peer ∈ core.activePeers.keys
  · obtain ⟨request, member⟩ := LinkedMap.mem_keys.mp busy
    exact .inl ⟨request, member, removePeer_of_mem member⟩
  · exact .inr ⟨busy, removePeer_of_not_mem busy (idle_nodup distinct)⟩

/-- A removed peer is gone. -/
theorem not_mem_peers_removePeer {core : OnDemandCore Data} (distinct : core.peers.Nodup)
    (peer : PeerId) : peer ∉ (core.removePeer peer).peers := by
  rcases removePeer_cases distinct peer with ⟨request, member, removed⟩ | ⟨free, idle, perm, removed⟩
  · -- a busy peer was not idle
    have notIdle : peer ∉ core.idlePeers := fun idle =>
      not_mem_keys_of_idle distinct idle (LinkedMap.mem_keys.mpr ⟨request, member⟩)
    rw [removed]
    simpa [peers, notIdle] using LinkedMap.not_mem_keys_erase core.activePeers peer
  · rw [removed]
    simpa [peers, perm.mem_iff, free] using (idle_nodup distinct).not_mem_erase

/-- Removing a peer moves its request back to the pending queue. -/
theorem moves_removePeer {core : OnDemandCore Data} (distinct : core.peers.Nodup) (peer : PeerId)
    (now : Nat) : Moves core (core.removePeer peer) now := by
  rcases removePeer_cases distinct peer with ⟨request, member, removed⟩ | ⟨free, idle, perm, removed⟩
  · -- the request of the peer goes to the front of the queue
    rw [removed]
    have requeued : (request :: core.pendingRequests ++ (core.activePeers.erase peer).values).Perm
        (core.pendingRequests ++ core.activePeers.values) :=
      calc request :: core.pendingRequests ++ (core.activePeers.erase peer).values
          = request :: (core.pendingRequests ++ (core.activePeers.erase peer).values) := rfl
        _ ~ core.pendingRequests ++ request :: (core.activePeers.erase peer).values := List.perm_middle.symm
        _ ~ core.pendingRequests ++ core.activePeers.values :=
          ((LinkedMap.values_perm_erase member).append_left _).symm
    refine ⟨requeued.map _, rfl, ?_, core.activePeers.entries.filter (fun entry => entry.1 ≠ peer), [],
      List.filter_sublist, by simp, by simp⟩
    exact ((List.Sublist.refl _).append (List.filter_sublist.map Prod.fst)).subperm
  · rw [removed]
    refine ⟨.refl _, rfl, ?_, core.activePeers.entries, [], List.Sublist.refl _, by simp, by simp⟩
    exact (perm.append_right _).subperm.trans (List.erase_sublist.append (List.Sublist.refl _)).subperm

/-- `maintain_peers` moves the requests of the peers it drops back to the queue. -/
theorem moves_maintainPeers (core : OnDemandCore Data) (now : Nat) :
    Moves core (core.maintainPeers now).1 now := by
  unfold maintainPeers
  obtain ⟨-, next, idle, pending, active, -⟩ := maintainLoop_spec now _ core [] le_rfl
  set timed := core.activePeers.entries.takeWhile (timedOut now)
  set kept := core.activePeers.entries.dropWhile (timedOut now)
  have split : timed ++ kept = core.activePeers.entries := List.takeWhile_append_dropWhile
  -- the timed-out requests go from the busy peers to the front of the queue
  have requeued : ((timed.map Prod.snd).reverse ++ core.pendingRequests ++ kept.map Prod.snd).Perm
      (core.pendingRequests ++ core.activePeers.values) :=
    calc (timed.map Prod.snd).reverse ++ core.pendingRequests ++ kept.map Prod.snd
        ~ timed.map Prod.snd ++ core.pendingRequests ++ kept.map Prod.snd :=
          ((List.reverse_perm _).append_right _).append_right _
      _ ~ core.pendingRequests ++ timed.map Prod.snd ++ kept.map Prod.snd :=
          List.perm_append_comm.append_right _
      _ = core.pendingRequests ++ core.activePeers.values := by
          rw [List.append_assoc, ← List.map_append, split]
          rfl
  refine ⟨?_, next, ?_, kept, [], (List.dropWhile_suffix _).sublist, by simpa using active, by simp⟩
  · simp only [requests, pending, LinkedMap.values, active]
    exact requeued.map _
  · simp only [peers, idle, LinkedMap.keys, active]
    exact ((List.Sublist.refl _).append ((List.dropWhile_suffix _).sublist.map Prod.fst)).subperm

/-- Dispatching moves requests from the queue to idle peers. -/
theorem moves_dispatch {core : OnDemandCore Data} (distinct : core.peers.Nodup) (now : Nat) :
    Moves core (core.dispatch now).1 now := by
  cases linked : core.service with
  | false => rw [dispatch_of_unlinked core now linked]; exact Moves.refl core now
  | true =>
    obtain ⟨-, next, pending, idle, active, -⟩ := dispatch_spec core now linked distinct
    have sentRequests := map_snd_dispatched core now
    have sentPeers := map_fst_dispatched core now
    refine ⟨?_, next, ?_, core.activePeers.entries, core.dispatched now, List.Sublist.refl _, active, ?_⟩
    · -- the requests sent leave the queue for the busy peers, restamped
      simp only [requests, pending, LinkedMap.values, active, List.map_append, sentRequests,
        List.map_map]
      have restamped : (Request.tag ∘ Request.restamp now : Request Data → Nat × Data) = Request.tag :=
        funext fun request => Request.tag_restamp now request
      rw [restamped, ← List.append_assoc]
      calc (core.pendingRequests.drop core.dispatchCount).map Request.tag ++
            core.activePeers.entries.map (Request.tag ∘ Prod.snd) ++
            (core.pendingRequests.take core.dispatchCount).map Request.tag
          ~ (core.pendingRequests.take core.dispatchCount).map Request.tag ++
            ((core.pendingRequests.drop core.dispatchCount).map Request.tag ++
            core.activePeers.entries.map (Request.tag ∘ Prod.snd)) := List.perm_append_comm
        _ = core.pendingRequests.map Request.tag ++ core.activePeers.entries.map (Request.tag ∘ Prod.snd) := by
          rw [← List.append_assoc, ← List.map_append, List.take_append_drop]
    · -- the peers sent to leave the idle ones for the busy ones
      simp only [peers, idle, LinkedMap.keys, active, List.map_append, sentPeers]
      refine (List.Perm.subperm ?_)
      calc core.idlePeers.drop core.dispatchCount ++ (core.activePeers.entries.map Prod.fst ++
            core.idlePeers.take core.dispatchCount)
          ~ core.idlePeers.take core.dispatchCount ++ (core.idlePeers.drop core.dispatchCount ++
            core.activePeers.entries.map Prod.fst) := by
            rw [← List.append_assoc]
            exact List.perm_append_comm
        _ = core.idlePeers ++ core.activePeers.entries.map Prod.fst := by
          rw [← List.append_assoc, List.take_append_drop]
    · intro entry member
      obtain ⟨-, sentRequest⟩ := List.of_mem_zip member
      obtain ⟨request, -, restamped⟩ := List.mem_map.mp sentRequest
      rw [← restamped, Request.timestamp_restamp]

/-! ## The invariant of the core -/

/-- A sub-permutation of a list without duplicates has none. -/
theorem nodup_of_subperm {α : Type} {small large : List α} (sub : small.Subperm large)
    (distinct : large.Nodup) : small.Nodup := by
  obtain ⟨middle, perm, sublist⟩ := sub
  exact perm.nodup_iff.mp (distinct.sublist sublist)

/-- The invariant of a core at time `clock`: no peer is idle twice, or idle and
busy at once; the ids of the requests are distinct and below
`next_request_id`; and the busy peers, oldest dispatch first, got their
requests in the order of time, none after `clock`. -/
structure Sound (core : OnDemandCore Data) (clock : Nat) : Prop where
  peers_nodup : core.peers.Nodup
  ids_nodup : (core.requests.map Request.id).Nodup
  ids_below : ∀ request ∈ core.requests, request.id < core.nextRequestId
  stamps_sorted : core.activePeers.entries.Pairwise fun older newer => older.2.timestamp ≤ newer.2.timestamp
  stamps_past : ∀ entry ∈ core.activePeers.entries, entry.2.timestamp ≤ clock

/-- A new core is sound at every time. -/
theorem sound_new (clock : Nat) : (new : OnDemandCore Data).Sound clock where
  peers_nodup := List.nodup_nil
  ids_nodup := List.nodup_nil
  ids_below := by simp [new, requests, LinkedMap.values]
  stamps_sorted := List.Pairwise.nil
  stamps_past := by simp [new]

/-- A sound core stays sound later. -/
theorem Sound.mono {core : OnDemandCore Data} {clock now : Nat} (sound : core.Sound clock)
    (later : clock ≤ now) : core.Sound now :=
  { sound with stamps_past := fun entry member => (sound.stamps_past entry member).trans later }

/-- The ids of requests kept up to their tags. -/
theorem ids_of_tags {core next : OnDemandCore Data}
    (tags : (next.requests.map Request.tag).Perm (core.requests.map Request.tag))
    (ids : (core.requests.map Request.id).Nodup) (below : ∀ request ∈ core.requests, request.id < core.nextRequestId) :
    (next.requests.map Request.id).Nodup ∧ ∀ request ∈ next.requests, request.id < core.nextRequestId := by
  refine ⟨?_, fun request member => ?_⟩
  · rw [map_id_requests]
    rw [map_id_requests] at ids
    exact (tags.map Prod.fst).nodup_iff.mpr ids
  · have tagged := tags.mem_iff.mp (List.mem_map_of_mem member)
    obtain ⟨old, kept, same⟩ := List.mem_map.mp tagged
    have sameId : old.id = request.id := congrArg Prod.fst same
    exact sameId ▸ below old kept

/-- A move keeps the core sound. -/
theorem Sound.moves {core next : OnDemandCore Data} {clock now : Nat} (sound : core.Sound clock)
    (moves : Moves core next now) (later : clock ≤ now) : next.Sound now := by
  obtain ⟨ids, below⟩ := ids_of_tags moves.tags sound.ids_nodup sound.ids_below
  obtain ⟨kept, fresh, sub, entries, stamped⟩ := moves.active
  refine ⟨nodup_of_subperm moves.peers sound.peers_nodup, ids, moves.nextRequestId ▸ below, ?_, ?_⟩
  · -- the kept dispatches are in order and not after `clock`; the new ones are at `now`
    rw [entries, List.pairwise_append]
    refine ⟨sound.stamps_sorted.sublist sub, ?_, ?_⟩
    · refine List.pairwise_of_forall_mem_list fun older old newer new => ?_
      rw [stamped older old, stamped newer new]
    · intro older old newer new
      rw [stamped newer new]
      exact (sound.stamps_past older (sub.subset old)).trans later
  · intro entry member
    rw [entries] at member
    rcases List.mem_append.mp member with old | new
    · exact (sound.stamps_past entry (sub.subset old)).trans later
    · exact (stamped entry new).le

/-- A move keeps the data of the requests. -/
theorem Moves.data {core next : OnDemandCore Data} {now : Nat} (moves : Moves core next now) :
    (next.requests.map Request.data).Perm (core.requests.map Request.data) := by
  rw [map_data_requests, map_data_requests]
  exact moves.tags.map Prod.snd

/-- Removing a peer keeps the core sound. -/
theorem Sound.removePeer {core : OnDemandCore Data} {clock now : Nat} (sound : core.Sound clock)
    (peer : PeerId) (later : clock ≤ now) : (core.removePeer peer).Sound now :=
  sound.moves (moves_removePeer sound.peers_nodup peer now) later

/-- `maintain_peers` keeps the core sound. -/
theorem Sound.maintainPeers {core : OnDemandCore Data} {clock now : Nat} (sound : core.Sound clock)
    (later : clock ≤ now) : (core.maintainPeers now).1.Sound now :=
  sound.moves (moves_maintainPeers core now) later

/-- Dispatching keeps the core sound. -/
theorem Sound.dispatch {core : OnDemandCore Data} {clock now : Nat} (sound : core.Sound clock)
    (later : clock ≤ now) : (core.dispatch now).1.Sound now :=
  sound.moves (moves_dispatch sound.peers_nodup now) later

/-- A new peer keeps the peers distinct. -/
theorem Sound.addPeer {core : OnDemandCore Data} {clock : Nat} (sound : core.Sound clock)
    {peer : PeerId} (fresh : peer ∉ core.peers) : (core.addPeer peer).Sound clock := by
  have joined : (core.addPeer peer).peers ~ peer :: core.peers := by
    show core.idlePeers ++ [peer] ++ core.activePeers.keys ~ peer :: (core.idlePeers ++ core.activePeers.keys)
    rw [List.append_assoc, List.singleton_append]
    exact List.perm_middle
  exact { sound with peers_nodup := joined.nodup_iff.mpr (List.nodup_cons.mpr ⟨fresh, sound.peers_nodup⟩) }

/-- `insert` queues one request more. -/
theorem requests_insert (core : OnDemandCore Data) (data : Data) (now : Nat) :
    (core.insert data now).requests ~ ⟨core.nextRequestId, now, data⟩ :: core.requests := by
  simp only [requests, insert, List.append_assoc, List.singleton_append]
  exact List.perm_middle

/-- `insert` gives its request an id no request has. -/
theorem Sound.insert {core : OnDemandCore Data} {clock now : Nat} (sound : core.Sound clock)
    (data : Data) (later : clock ≤ now) : (core.insert data now).Sound now := by
  have queued := requests_insert core data now
  refine ⟨sound.peers_nodup, ?_, ?_, sound.stamps_sorted, (sound.mono later).stamps_past⟩
  · rw [(queued.map Request.id).nodup_iff, List.map_cons, List.nodup_cons]
    refine ⟨fun taken => ?_, sound.ids_nodup⟩
    obtain ⟨request, member, same⟩ := List.mem_map.mp taken
    exact absurd (sound.ids_below request member) (by simp [same])
  · intro request member
    rcases List.mem_cons.mp (queued.subset member) with rfl | old
    · exact Nat.lt_succ_self _
    · exact (sound.ids_below request old).trans (Nat.lt_succ_self _)

/-- `remove` of a request: its peer goes from busy to idle. -/
theorem remove_eq_some {core next : OnDemandCore Data} {peer : PeerId} {id : Nat}
    {request : Request Data} (removed : core.remove peer id = (some request, next)) :
    (peer, request) ∈ core.activePeers.entries ∧ request.id = id ∧
      next = { core with idlePeers := core.idlePeers ++ [peer],
                         activePeers := core.activePeers.erase peer } := by
  rcases remove_cases core peer id with unmatched | ⟨held, member, same, matched⟩
  · rw [unmatched] at removed
    cases removed
  · rw [matched, Prod.mk.injEq, Option.some.injEq] at removed
    obtain ⟨rfl, rfl⟩ := removed
    exact ⟨member, same, rfl⟩

/-- `remove` that matches nothing changes nothing. -/
theorem remove_eq_none {core next : OnDemandCore Data} {peer : PeerId} {id : Nat}
    (removed : core.remove peer id = (none, next)) : next = core := by
  rcases remove_cases core peer id with unmatched | ⟨held, member, same, matched⟩
  · rw [unmatched, Prod.mk.injEq] at removed
    exact removed.2.symm
  · rw [matched] at removed
    cases removed

/-- Removing a peer's answered request takes that request out of the requests. -/
theorem requests_remove {core next : OnDemandCore Data} {peer : PeerId} {id : Nat}
    {request : Request Data} (removed : core.remove peer id = (some request, next)) :
    core.requests ~ request :: next.requests := by
  obtain ⟨member, -, rfl⟩ := remove_eq_some removed
  exact ((LinkedMap.values_perm_erase member).append_left _).trans List.perm_middle

/-- Removing a peer's answered request keeps the peers. -/
theorem peers_remove {core next : OnDemandCore Data} {peer : PeerId} {id : Nat}
    {request : Request Data} (removed : core.remove peer id = (some request, next)) :
    next.peers ~ core.peers := by
  obtain ⟨member, -, rfl⟩ := remove_eq_some removed
  have keys : core.activePeers.keys ~ peer :: (core.activePeers.erase peer).keys :=
    (LinkedMap.perm_erase member).map Prod.fst
  simp only [peers, List.append_assoc, List.singleton_append]
  exact (keys.append_left _).symm

/-- `remove` keeps the invariant. -/
theorem Sound.remove {core next : OnDemandCore Data} {clock : Nat} {peer : PeerId} {id : Nat}
    {request : Request Data} (sound : core.Sound clock)
    (removed : core.remove peer id = (some request, next)) : next.Sound clock := by
  have released := requests_remove removed
  have ids := (released.map Request.id).nodup_iff.mp sound.ids_nodup
  have below : ∀ kept ∈ next.requests, kept.id < next.nextRequestId := fun kept member => by
    obtain ⟨-, -, rfl⟩ := remove_eq_some removed
    exact sound.ids_below kept (released.symm.subset (List.mem_cons_of_mem _ member))
  obtain ⟨-, -, rfl⟩ := remove_eq_some removed
  refine ⟨(peers_remove removed).nodup_iff.mpr sound.peers_nodup,
    (List.nodup_cons.mp ids).2, below, sound.stamps_sorted.sublist List.filter_sublist, ?_⟩
  intro entry member
  exact sound.stamps_past entry (List.mem_of_mem_filter member)

/-! ## The scan of `maintain_peers` -/

/-- A request dispatched no later than a timed-out one has timed out. -/
theorem timedOut_of_le (now : Nat) {older newer : PeerId × Request Data}
    (earlier : older.2.timestamp ≤ newer.2.timestamp) :
    timedOut now newer = true → timedOut now older = true := by
  simp only [timedOut, decide_eq_true_eq]
  omega

/-- `maintain_peers` looks only at the oldest dispatches, and since the busy
peers got their requests in the order of time, that finds every request that
has timed out. -/
theorem maintainPeers_eq_filter {core : OnDemandCore Data} {clock : Nat} (sound : core.Sound clock)
    (now : Nat) :
    (core.maintainPeers now).1.activePeers.entries =
        core.activePeers.entries.filter (fun entry => !timedOut now entry) ∧
      (core.maintainPeers now).1.pendingRequests =
        ((core.activePeers.entries.filter (timedOut now)).map Prod.snd).reverse ++
          core.pendingRequests ∧
      (core.maintainPeers now).2 = (core.activePeers.entries.filter (timedOut now)).map Prod.fst := by
  have ordered : core.activePeers.entries.Pairwise fun older newer =>
      timedOut now newer = true → timedOut now older = true :=
    sound.stamps_sorted.imp (timedOut_of_le now)
  obtain ⟨-, -, -, pending, active, bad⟩ := maintainLoop_spec now _ core [] le_rfl
  refine ⟨?_, ?_, ?_⟩
  · rw [maintainPeers, active, dropWhile_eq_filter ordered]
  · rw [maintainPeers, pending, takeWhile_eq_filter ordered]
  · rw [maintainPeers, bad, takeWhile_eq_filter ordered, List.nil_append]

end OnDemandCore

end Network
end Polkadot
