import Polkadot.Foundations.LinkedMap
import Polkadot.Network.Blocks
import Polkadot.Democracy.Referenda

/-!
# On-demand requests

`network/src/on_demand.rs`.  A light client asks the full nodes it is connected
to for what it cannot compute itself: the result of a call, with the proof of
its execution.  `OnDemandCore` queues the requests (`pending_requests`), hands
the oldest one to the peer idle longest (`dispatch`), and remembers the request
each busy peer holds (`active_peers`, oldest dispatch first).  A request goes
back to the front of the queue when its peer disconnects or does not answer
within `REQUEST_TIMEOUT`.  An answer whose proof does not check disconnects the
peer and queues the request again, at the back and under a new id.

`Protocol` (`protocol.rs`) drives the service: it reports a peer connected
after its status message, at most once until the peer disconnects, and every
answer that arrives.  `Node` is the service with that view of the peers, and
`Node.Reachable` its runs.

Times are milliseconds as `Nat`, and `Instant::now()` is the argument `now` of
each call.  A request's `RemoteCallRequest` and the channel its answer goes to
are the parameter `Data`, and `FetchChecker::check_execution_proof` is the
function `checker`.  Request ids are `u64`s, as `Nat`.
-/

namespace Polkadot
namespace Network

open Foundations

/-- `REQUEST_TIMEOUT`: 15 seconds. -/
def requestTimeout : Nat := 15000

/-- `service::Role`: the flags of a `u32`. -/
structure Role where
  bits : BitVec 32
deriving DecidableEq

namespace Role

/-- `Role::FULL`. -/
def full : Role := ⟨0b00000001⟩

/-- `Role::VALIDATOR`. -/
def validator : Role := ⟨0b00000100⟩

/-- `Role::COLLATOR`. -/
def collator : Role := ⟨0b00001000⟩

/-- Roles combine by the union of their bits. -/
instance : OrOp Role := ⟨fun role other => ⟨role.bits ||| other.bits⟩⟩

/-- `intersects`: the two have a flag in common. -/
def intersects (role other : Role) : Bool := role.bits &&& other.bits != 0

end Role

/-- `Request`: a request under its id, with the time it was queued or last
dispatched. -/
structure Request (Data : Type) where
  id : Nat
  timestamp : Nat
  data : Data
deriving DecidableEq

/-- `message::RemoteCallResponse`: the id of the request answered, and the
proof. -/
structure RemoteCallResponse (Proof : Type) where
  id : Nat
  proof : Proof
deriving DecidableEq

/-- `Accept`: what the check of an answer decided; a failed check gives the
request back. -/
inductive Accept (Data Error : Type) where
  | ok
  | checkFailed (error : Error) (data : Data)

/-- What a call does outside the core: the requests it sends, each to its
peer; the peers it disconnects; and the answers it hands to the callers of
`remote_call`. -/
structure Effects (Data Result : Type) where
  sent : List (PeerId × Request Data)
  disconnected : List PeerId
  answered : List (Data × Result)

/-- `VecDeque::swap_remove_back`: the back item takes the place of the removed
one, as `Vec::swap_remove` does. -/
def swapRemoveBack {α : Type} (items : List α) (index : Nat) : List α :=
  Democracy.swapRemove items index

/-- `OnDemandCore`.  `service` says whether the weak link to the network
service upgrades. -/
structure OnDemandCore (Data : Type) where
  service : Bool
  nextRequestId : Nat
  pendingRequests : List (Request Data)
  activePeers : LinkedMap PeerId (Request Data)
  idlePeers : List PeerId
deriving DecidableEq

namespace OnDemandCore

variable {Data : Type}

/-- The core of `OnDemand::new`, before `set_service_link`. -/
def new : OnDemandCore Data := ⟨false, 0, [], LinkedMap.empty, []⟩

/-- `add_peer`. -/
def addPeer (core : OnDemandCore Data) (peer : PeerId) : OnDemandCore Data :=
  { core with idlePeers := core.idlePeers ++ [peer] }

/-- `remove_peer`: the request of a busy peer goes back to the front of the
queue; an idle peer leaves the idle ones. -/
def removePeer (core : OnDemandCore Data) (peer : PeerId) : OnDemandCore Data :=
  match core.activePeers.remove peer with
  | (some request, activePeers) =>
    { core with pendingRequests := request :: core.pendingRequests, activePeers }
  | (none, _) =>
    match core.idlePeers.idxOf? peer with
    | some idleIndex => { core with idlePeers := swapRemoveBack core.idlePeers idleIndex }
    | none => core

/-- The loop of `maintain_peers`: while the oldest dispatch has timed out, its
request goes back to the front of the queue and its peer is reported. -/
def maintainLoop (now : Nat) :
    Nat → OnDemandCore Data → List PeerId → OnDemandCore Data × List PeerId
  | 0, core, badPeers => (core, badPeers)
  | fuel + 1, core, badPeers =>
    -- `front()`, and then `pop_front()`, which takes the same entry
    match core.activePeers.popFront? with
    | some ((badPeer, request), activePeers) =>
      if requestTimeout ≤ now - request.timestamp then
        maintainLoop now fuel
          { core with pendingRequests := request :: core.pendingRequests, activePeers }
          (badPeers ++ [badPeer])
      else (core, badPeers)
    | none => (core, badPeers)

/-- `maintain_peers`: each round takes an entry off `active_peers`, so their
number bounds the loop. -/
def maintainPeers (core : OnDemandCore Data) (now : Nat) : OnDemandCore Data × List PeerId :=
  maintainLoop now core.activePeers.entries.length core []

/-- `insert`: a new request at the back of the queue, under the next id. -/
def insert (core : OnDemandCore Data) (data : Data) (now : Nat) : OnDemandCore Data :=
  { core with
    nextRequestId := core.nextRequestId + 1
    pendingRequests := core.pendingRequests ++ [⟨core.nextRequestId, now, data⟩] }

/-- `remove`: the request the peer holds, if its id is `id`; the peer is then
idle again. -/
def remove (core : OnDemandCore Data) (peer : PeerId) (id : Nat) :
    Option (Request Data) × OnDemandCore Data :=
  match core.activePeers.get? peer with
  | some request =>
    if request.id = id then
      (some request,
        { core with idlePeers := core.idlePeers ++ [peer], activePeers := core.activePeers.erase peer })
    else (none, core)
  | none => (none, core)

/-- The loop of `dispatch`: while a request waits and a peer is idle, the
oldest request goes to the peer idle longest, stamped with the time it is sent. -/
def dispatchLoop (now : Nat) :
    Nat → OnDemandCore Data → List (PeerId × Request Data) →
      OnDemandCore Data × List (PeerId × Request Data)
  | 0, core, sent => (core, sent)
  | fuel + 1, core, sent =>
    match core.pendingRequests, core.idlePeers with
    | request :: pendingRequests, peer :: idlePeers =>
      let request := { request with timestamp := now }
      dispatchLoop now fuel
        { core with pendingRequests, idlePeers, activePeers := core.activePeers.insert peer request }
        (sent ++ [(peer, request)])
    | _, _ => (core, sent)

/-- `dispatch`: nothing without the network service; each round sends a
request, so their number bounds the loop. -/
def dispatch (core : OnDemandCore Data) (now : Nat) :
    OnDemandCore Data × List (PeerId × Request Data) :=
  if core.service then dispatchLoop now core.pendingRequests.length core [] else (core, [])

end OnDemandCore

namespace OnDemand

open OnDemandCore

variable {Data Proof Result Error : Type}

/-- `set_service_link`. -/
def setServiceLink (core : OnDemandCore Data) (linked : Bool) : OnDemandCore Data :=
  { core with service := linked }

/-- `remote_call` through `schedule_request`: the request is queued, and
dispatched if a peer is idle. -/
def remoteCall (core : OnDemandCore Data) (data : Data) (now : Nat) :
    OnDemandCore Data × Effects Data Result :=
  let (core, sent) := (core.insert data now).dispatch now
  (core, ⟨sent, [], []⟩)

/-- `on_connect`: a full node, a collator or a validator becomes an idle peer. -/
def onConnect (core : OnDemandCore Data) (peer : PeerId) (role : Role) (now : Nat) :
    OnDemandCore Data × Effects Data Result :=
  if role.intersects (Role.full ||| Role.collator ||| Role.validator) then
    let (core, sent) := (core.addPeer peer).dispatch now
    (core, ⟨sent, [], []⟩)
  else (core, ⟨[], [], []⟩)

/-- `on_disconnect`. -/
def onDisconnect (core : OnDemandCore Data) (peer : PeerId) (now : Nat) :
    OnDemandCore Data × Effects Data Result :=
  let (core, sent) := (core.removePeer peer).dispatch now
  (core, ⟨sent, [], []⟩)

/-- `OnDemand::maintain_peers`: the peers whose requests timed out are
disconnected. -/
def maintainPeers (core : OnDemandCore Data) (now : Nat) : OnDemandCore Data × Effects Data Result :=
  let (core, badPeers) := core.maintainPeers now
  let (core, sent) := core.dispatch now
  (core, ⟨sent, badPeers, []⟩)

/-- The closure `on_remote_call_response` passes to `accept_response`: the
result goes to the caller when the proof checks. -/
def checkAnswer (checker : Data → Proof → Except Error Result) (proof : Proof)
    (request : Request Data) : Accept Data Error × List (Data × Result) :=
  match checker request.data proof with
  | .ok result => (.ok, [(request.data, result)])
  | .error error => (.checkFailed error request.data, [])

/-- `accept_response`.  An answer to no request held by the peer disconnects
the peer and returns before dispatching; one that fails its check disconnects
the peer and queues the request again. -/
def acceptResponse (core : OnDemandCore Data) (peer : PeerId) (requestId : Nat)
    (tryAccept : Request Data → Accept Data Error × List (Data × Result)) (now : Nat) :
    OnDemandCore Data × Effects Data Result :=
  match core.remove peer requestId with
  | (none, core) => (core.removePeer peer, ⟨[], [peer], []⟩)
  | (some request, core) =>
    match tryAccept request with
    | (.ok, answered) =>
      let (core, sent) := core.dispatch now
      (core, ⟨sent, [], answered⟩)
    | (.checkFailed _ data, answered) =>
      let (core, sent) := ((core.removePeer peer).insert data now).dispatch now
      (core, ⟨sent, [peer], answered⟩)

/-- `on_remote_call_response`. -/
def onRemoteCallResponse (checker : Data → Proof → Except Error Result) (core : OnDemandCore Data)
    (peer : PeerId) (response : RemoteCallResponse Proof) (now : Nat) :
    OnDemandCore Data × Effects Data Result :=
  acceptResponse core peer response.id (checkAnswer checker response.proof) now

end OnDemand

/-- What `Protocol` reports to the service. -/
inductive Event (Data Proof : Type) where
  | setServiceLink (linked : Bool)
  | remoteCall (data : Data)
  | connect (peer : PeerId) (role : Role)
  | disconnect (peer : PeerId)
  | maintainPeers
  | remoteCallResponse (peer : PeerId) (response : RemoteCallResponse Proof)

/-- The on-demand service with the peers `Protocol` holds the status of, the
time of the last call, and the data of every `remote_call` and of every answer
handed back. -/
structure Node (Data : Type) where
  core : OnDemandCore Data
  connected : List PeerId
  clock : Nat
  issued : List Data
  answered : List Data

namespace Node

variable {Data Proof Result Error : Type}

/-- No peer and no request, at time `start`. -/
def initial (start : Nat) : Node Data := ⟨OnDemandCore.new, [], start, [], []⟩

/-- What `Protocol` lets happen at time `now`: time does not go back, a peer is
reported connected once until it is reported disconnected, and only a
connected peer is reported disconnected (`on_status_message` and
`on_peer_disconnected`). -/
def Allowed (s : Node Data) (now : Nat) : Event Data Proof → Prop
  | .connect peer _ => s.clock ≤ now ∧ peer ∉ s.connected
  | .disconnect peer => s.clock ≤ now ∧ peer ∈ s.connected
  | _ => s.clock ≤ now

/-- The service after the event, at time `now`. -/
def apply (checker : Data → Proof → Except Error Result) (s : Node Data) (now : Nat) :
    Event Data Proof → Node Data
  | .setServiceLink linked =>
    { s with core := OnDemand.setServiceLink s.core linked, clock := now }
  | .remoteCall data =>
    { s with core := (OnDemand.remoteCall s.core data now : OnDemandCore Data × Effects Data Result).1, clock := now,
             issued := s.issued ++ [data] }
  | .connect peer role =>
    { s with core := (OnDemand.onConnect s.core peer role now :
               OnDemandCore Data × Effects Data Result).1,
             connected := peer :: s.connected, clock := now }
  | .disconnect peer =>
    { s with core := (OnDemand.onDisconnect s.core peer now :
               OnDemandCore Data × Effects Data Result).1,
             connected := s.connected.erase peer, clock := now }
  | .maintainPeers =>
    { s with core := (OnDemand.maintainPeers s.core now :
               OnDemandCore Data × Effects Data Result).1, clock := now }
  | .remoteCallResponse peer response =>
    let (core, effects) := OnDemand.onRemoteCallResponse checker s.core peer response now
    { s with core, clock := now, answered := s.answered ++ effects.answered.map Prod.fst }

/-- The states of the service that the events `Protocol` allows reach. -/
inductive Reachable (checker : Data → Proof → Except Error Result) : Node Data → Prop where
  | initial (start : Nat) : Reachable checker (initial start)
  | step {s : Node Data} {now : Nat} {event : Event Data Proof} :
      Reachable checker s → s.Allowed now event → Reachable checker (s.apply checker now event)

/-- Whether an event is allowed at a node can be decided. -/
instance (s : Node Data) (now : Nat) (event : Event Data Proof) : Decidable (s.Allowed now event) := by
  cases event <;> unfold Allowed <;> infer_instance

/-- The state after timed events, each at its time, if `Protocol` allows every
one of them. -/
def run (checker : Data → Proof → Except Error Result) (s : Node Data) :
    List (Nat × Event Data Proof) → Option (Node Data)
  | [] => some s
  | (now, event) :: events => if s.Allowed now event then (s.apply checker now event).run checker events else none

/-- A run of allowed events from a reachable state ends in a reachable state. -/
theorem Reachable.run {checker : Data → Proof → Except Error Result} {s : Node Data} (reach : Reachable checker s) :
    ∀ {events : List (Nat × Event Data Proof)} {final : Node Data}, s.run checker events = some final →
      Reachable checker final
  | [], final, ran => by
    cases ran
    exact reach
  | (now, event) :: events, final, ran => by
    unfold Node.run at ran
    split_ifs at ran with allowed
    exact (reach.step allowed).run ran

end Node

end Network
end Polkadot
