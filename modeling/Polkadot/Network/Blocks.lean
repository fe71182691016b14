import Polkadot.Foundations.SortedMap
import Polkadot.Foundations.Fold

/-!
# The collection of blocks being downloaded

`network/src/blocks.rs`.  `ChainSync` asks peers for ranges of new blocks: for
an idle peer `needed_blocks` finds the first range nobody downloads, marks it
as being downloaded and remembers the peer's request; when the peer answers,
its request is cleared, its blocks are inserted at the range's start as a
complete range, and `drain` takes the complete ranges that continue the chain
from the best queued block on.

Ranges are kept in a map sorted by their start (a `BTreeMap`).  Block numbers
are `u64`s; they are `Nat`, so the arithmetic does not wrap.  A
`debug_assert!` is taken as in a release build, where it does nothing.
-/

namespace Polkadot
namespace Network

open Foundations

/-- `PeerId`: a `usize`. -/
abbrev PeerId := Nat

/-- `MAX_PARALLEL_DOWNLOADS`. -/
def maxParallelDownloads : Nat := 1

/-- `BlockData`: a block with the peer it came from. -/
structure BlockData (Block : Type) where
  block : Block
  origin : PeerId
deriving DecidableEq

/-- `BlockRangeState`. -/
inductive BlockRangeState (Block : Type) where
  | downloading (len : Nat) (downloading : Nat)
  | complete (blocks : List (BlockData Block))
deriving DecidableEq

namespace BlockRangeState

variable {Block : Type}

/-- `len`. -/
def len : BlockRangeState Block → Nat
  | downloading len _ => len
  | complete blocks => blocks.length

/-- A range fewer than `MAX_PARALLEL_DOWNLOADS` peers download, which
`needed_blocks` hands out again: its length and its number of downloads. -/
def joinable : BlockRangeState Block → Option (Nat × Nat)
  | downloading len running =>
      if running < maxParallelDownloads then some (len, running) else none
  | complete _ => none

/-- A range some peer downloads is not handed out again. -/
theorem joinable_downloading {len running : Nat} (downloaded : 0 < running) :
    (downloading len running : BlockRangeState Block).joinable = none := by
  simp only [joinable, maxParallelDownloads]
  exact if_neg (by omega)

end BlockRangeState

/-- `BlockCollection`: the ranges by their start, and the start of the range
each peer was asked for. -/
structure BlockCollection (Block : Type) where
  blocks : SortedMap Nat (BlockRangeState Block)
  peerRequests : AList (fun _ : PeerId => Nat)

namespace BlockCollection

variable {Block : Type}

/-- `BlockCollection::new`. -/
def new : BlockCollection Block := ⟨[], ∅⟩

/-- `clear`. -/
def clear (_collection : BlockCollection Block) : BlockCollection Block := ⟨[], ∅⟩

/-- `insert`: the blocks become the complete range at `start`, unless there
are none, the range there is still being downloaded, or a complete range there
has at least as many blocks. -/
def insert (collection : BlockCollection Block) (start : Nat) (blocks : List Block)
    (peerId : PeerId) : BlockCollection Block :=
  if blocks.isEmpty then collection
  else
    let ignored :=
      match collection.blocks.get? start with
      | some (.downloading _ _) => true
      | some (.complete existing) => blocks.length ≤ existing.length
      | none => false
    if ignored then collection
    else
      { collection with
        blocks := collection.blocks.insert start
          (.complete (blocks.map fun block => ⟨block, peerId⟩)) }

/-- The loop of `needed_blocks`: the range it settles on and the number of
downloads of it, from the entry before `remaining`, if any. -/
def scan (firstDifferent count : Nat) :
    Option (Nat × BlockRangeState Block) → SortedMap Nat (BlockRangeState Block) → Nat × Nat × Nat
  | some (start, range), remaining =>
      match range.joinable, remaining with
      | some (len, downloading), _ => (start, start + len, downloading)
      | none, (nextStart, nextRange) :: rest =>
          -- a gap before the next range
          if start + range.len < nextStart then
            (start + range.len, min nextStart (start + range.len + count), 0)
          else scan firstDifferent count (some (nextStart, nextRange)) rest
      | none, [] => (start + range.len, start + range.len + count, 0)
  | none, [] => (firstDifferent, firstDifferent + count, 0)
  | none, (nextStart, nextRange) :: rest =>
      -- a gap at the start
      if firstDifferent < nextStart then
        (firstDifferent, min (firstDifferent + count) nextStart, 0)
      else scan firstDifferent count (some (nextStart, nextRange)) rest

/-- `needed_blocks`: the range asked of the peer, cropped to its best block and
marked as being downloaded, or none past its best; `none` for the panic on an
empty range. -/
def neededBlocks (collection : BlockCollection Block) (peerId : PeerId)
    (count peerBest common : Nat) : Option (Option (Nat × Nat) × BlockCollection Block) :=
  let firstDifferent := common + 1
  let found := scan firstDifferent count none collection.blocks
  let start := found.1
  if peerBest < start then some (none, collection)
  else
    let stop := min (peerBest + 1) found.2.1
    let collection : BlockCollection Block :=
      ⟨collection.blocks.insert start (.downloading (stop - start) (found.2.2 + 1)),
        collection.peerRequests.insert peerId start⟩
    if stop ≤ start then none else some (some (start, stop), collection)

/-- The loop of `drain`: the complete ranges from the first on, each starting
at most where the one before it ended. -/
def drainRanges (prev : Nat) :
    SortedMap Nat (BlockRangeState Block) → List (Nat × List (BlockData Block))
  | (start, .complete blocks) :: rest =>
      if start ≤ prev then (start, blocks) :: drainRanges (start + blocks.length) rest else []
  | _ => []

/-- `drain`: the blocks of the drained ranges, which are removed. -/
def drain (collection : BlockCollection Block) (fromNumber : Nat) :
    List (BlockData Block) × BlockCollection Block :=
  let ranges := drainRanges fromNumber collection.blocks
  (ranges.flatMap Prod.snd,
    { collection with
      blocks := (ranges.map Prod.fst).foldl (fun blocks start => blocks.erase start)
        collection.blocks })

/-- `clear_peer_download`: the peer's request is dropped, and so is its range
unless other peers download it too. -/
def clearPeerDownload (collection : BlockCollection Block) (peerId : PeerId) :
    BlockCollection Block :=
  match collection.peerRequests.lookup peerId with
  | none => collection
  | some start =>
      let peerRequests := collection.peerRequests.erase peerId
      match collection.blocks.get? start with
      | some (.downloading len downloading) =>
          if 1 < downloading then
            ⟨collection.blocks.insert start (.downloading len (downloading - 1)), peerRequests⟩
          else ⟨collection.blocks.erase start, peerRequests⟩
      | _ => ⟨collection.blocks, peerRequests⟩

end BlockCollection

/-! ## No range is handed out empty -/

namespace BlockCollection

variable {Block : Type}

/-- No range is left for `needed_blocks` to hand out again: every range being
downloaded has `MAX_PARALLEL_DOWNLOADS` downloads. -/
def Settled (collection : BlockCollection Block) : Prop :=
  ∀ entry ∈ collection.blocks, entry.2.joinable = none

/-- From settled ranges the scan finds a range that is not empty. -/
theorem scan_lt (firstDifferent : Nat) {count : Nat} (positive : 0 < count)
    (remaining : SortedMap Nat (BlockRangeState Block)) :
    ∀ (prev : Option (Nat × BlockRangeState Block)), (∀ entry ∈ prev, entry.2.joinable = none) →
      (∀ entry ∈ remaining, entry.2.joinable = none) →
      (scan firstDifferent count prev remaining).1 < (scan firstDifferent count prev remaining).2.1 := by
  induction remaining with
  | nil =>
      intro prev settledPrev _
      match prev, settledPrev with
      | none, _ => simp only [scan]; omega
      | some (start, range), settledPrev =>
          simp only [scan, settledPrev (start, range) rfl]
          omega
  | cons next rest ih =>
      intro prev settledPrev settled
      obtain ⟨nextStart, nextRange⟩ := next
      have settledNext : ∀ entry ∈ some (nextStart, nextRange), entry.2.joinable = none := by
        intro entry same
        cases same
        exact settled _ (List.mem_cons_self ..)
      have settledRest := fun entry member => settled entry (List.mem_cons_of_mem _ member)
      match prev, settledPrev with
      | none, _ =>
          simp only [scan]
          split_ifs with gap
          · simp only
            omega
          · exact ih _ settledNext settledRest
      | some (start, range), settledPrev =>
          simp only [scan, settledPrev (start, range) rfl]
          split_ifs with gap
          · simp only
            omega
          · exact ih _ settledNext settledRest

/-- `needed_blocks` does not panic on settled ranges. -/
theorem neededBlocks_isSome {collection : BlockCollection Block} (settled : collection.Settled)
    (peerId : PeerId) {count : Nat} (positive : 0 < count) (peerBest common : Nat) :
    (collection.neededBlocks peerId count peerBest common).isSome := by
  have nonEmpty := scan_lt (common + 1) positive collection.blocks none
    (fun _ absent => by cases absent) settled
  dsimp only [neededBlocks]
  split_ifs with beyond empty
  · rfl
  · omega
  · rfl

/-- A range marked by `needed_blocks` has a download. -/
theorem settled_neededBlocks {collection next : BlockCollection Block}
    (settled : collection.Settled) {peerId : PeerId} {count peerBest common : Nat}
    {range : Option (Nat × Nat)}
    (found : collection.neededBlocks peerId count peerBest common = some (range, next)) :
    next.Settled := by
  dsimp only [neededBlocks] at found
  split_ifs at found with beyond empty
  · cases found
    exact settled
  · cases found
    intro entry member
    rcases SortedMap.mem_insert member with marked | old
    · subst marked
      exact BlockRangeState.joinable_downloading (Nat.succ_pos _)
    · exact settled entry old

/-- Inserting blocks keeps the collection settled. -/
theorem settled_insert {collection : BlockCollection Block} (settled : collection.Settled)
    (start : Nat) (blocks : List Block) (peerId : PeerId) :
    (collection.insert start blocks peerId).Settled := by
  dsimp only [insert]
  split_ifs
  · exact settled
  · exact settled
  · intro entry member
    rcases SortedMap.mem_insert member with inserted | old
    · subst inserted
      rfl
    · exact settled entry old

/-- Draining keeps the collection settled. -/
theorem settled_drain {collection : BlockCollection Block} (settled : collection.Settled)
    (fromNumber : Nat) : (collection.drain fromNumber).2.Settled :=
  fun entry member => settled entry (SortedMap.mem_of_mem_foldl_erase member)

/-- Clearing a peer's download keeps the collection settled. -/
theorem settled_clearPeerDownload {collection : BlockCollection Block}
    (settled : collection.Settled) (peerId : PeerId) :
    (collection.clearPeerDownload peerId).Settled := by
  unfold clearPeerDownload
  split
  · exact settled
  · split
    · split_ifs with others
      · -- the range keeps the downloads of the other peers
        intro entry member
        rcases SortedMap.mem_insert member with kept | old
        · subst kept
          exact BlockRangeState.joinable_downloading (by omega)
        · exact settled entry old
      · exact fun entry member => settled entry (List.mem_filter.mp member).1
    · exact settled

/-- A cleared collection is settled. -/
theorem settled_clear (collection : BlockCollection Block) : collection.clear.Settled := by
  intro entry member
  cases member

end BlockCollection

/-- The blocks of drained ranges with their numbers: the start of the range
and the offset in it. -/
def numbered {Block : Type} (ranges : List (Nat × List (BlockData Block))) :
    List (Nat × BlockData Block) :=
  ranges.flatMap fun range => range.2.zipIdx.map fun entry => (range.1 + entry.2, entry.1)

/-- `MAX_BLOCKS_TO_REQUEST`. -/
def maxBlocksToRequest : Nat := 128

/-- What `ChainSync` does with the collection while it downloads new blocks. -/
inductive SyncEvent (Block : Type) where
  /-- `download_new` for an available peer with its best and common blocks. -/
  | request (peer : PeerId) (peerBest common : Nat)
  /-- `on_block_data` for a peer in `DownloadingNew`, with the best queued block. -/
  | response (peer : PeerId) (blocks : List Block) (bestQueued : Nat)
  /-- `peer_disconnected`. -/
  | disconnect (peer : PeerId)
  /-- `restart`. -/
  | restart

/-- The collection, the start each downloading peer was asked for
(`DownloadingNew`), and the numbered blocks every drain returned, in order. -/
structure Downloads (Block : Type) where
  collection : BlockCollection Block
  requests : AList (fun _ : PeerId => Nat)
  drained : List (Nat × BlockData Block)

namespace Downloads

variable {Block : Type}

/-- Nothing downloaded. -/
def initial : Downloads Block := ⟨.new, ∅, []⟩

/-- One event; `none` if it panicked. -/
def step (downloads : Downloads Block) : SyncEvent Block → Option (Downloads Block)
  | .request peer peerBest common =>
      if peer ∈ downloads.requests then some downloads
      else
        match downloads.collection.neededBlocks peer maxBlocksToRequest peerBest common with
        | none => none
        | some (none, collection) => some { downloads with collection }
        | some (some (start, _), collection) =>
            some { downloads with collection, requests := downloads.requests.insert peer start }
  | .response peer blocks bestQueued =>
      match downloads.requests.lookup peer with
      | none => some downloads
      | some start =>
          let collection := (downloads.collection.clearPeerDownload peer).insert start blocks peer
          let ranges := BlockCollection.drainRanges (bestQueued + 1) collection.blocks
          some ⟨(collection.drain (bestQueued + 1)).2, downloads.requests.erase peer,
            downloads.drained ++ numbered ranges⟩
  | .disconnect peer =>
      some ⟨downloads.collection.clearPeerDownload peer, downloads.requests.erase peer,
        downloads.drained⟩
  | .restart => some ⟨downloads.collection.clear, ∅, downloads.drained⟩

/-- A run of events from nothing downloaded; `none` if one panicked. -/
def run (events : List (SyncEvent Block)) : Option (Downloads Block) :=
  events.foldlM step initial

/-- Every event keeps the ranges settled, and none panics from settled ranges. -/
theorem step_settled {downloads : Downloads Block} (settled : downloads.collection.Settled)
    (event : SyncEvent Block) :
    ∃ next, downloads.step event = some next ∧ next.collection.Settled := by
  cases event with
  | request peer peerBest common =>
      dsimp only [step]
      split_ifs with busy
      · exact ⟨downloads, rfl, settled⟩
      · obtain ⟨⟨range, collection⟩, found⟩ := Option.isSome_iff_exists.mp
          (BlockCollection.neededBlocks_isSome settled peer (by decide : 0 < maxBlocksToRequest)
            peerBest common)
        have nextSettled := BlockCollection.settled_neededBlocks settled found
        rw [found]
        cases range with
        | none => exact ⟨_, rfl, nextSettled⟩
        | some range => exact ⟨_, rfl, nextSettled⟩
  | response peer blocks bestQueued =>
      dsimp only [step]
      split
      · exact ⟨downloads, rfl, settled⟩
      · exact ⟨_, rfl, BlockCollection.settled_drain (BlockCollection.settled_insert
          (BlockCollection.settled_clearPeerDownload settled peer) _ _ _) _⟩
  | disconnect peer => exact ⟨_, rfl, BlockCollection.settled_clearPeerDownload settled peer⟩
  | restart => exact ⟨_, rfl, BlockCollection.settled_clear downloads.collection⟩

/-- `needed_blocks` never reaches its panic: every run of the events of
`ChainSync` goes through. -/
theorem run_isSome (events : List (SyncEvent Block)) : (run events).isSome := by
  obtain ⟨final, ran, -⟩ := @foldlM_some_of_invariant (Downloads Block) (SyncEvent Block)
    (fun downloads => downloads.collection.Settled) step events initial
    (fun _ member => by cases member) fun downloads event _ settled => step_settled settled event
  rw [run, ran]
  rfl

end Downloads

/-- Three idle peers are asked for three ranges of 128 blocks; the second
answers with 129 blocks, the first with its 128, the third with one block once
the first 257 blocks are queued.  The second peer's range then overlaps the
third's, and block number 257 is drained twice. -/
theorem drain_returns_number_twice :
    let events : List (SyncEvent Unit) :=
      [.request 0 400 0, .request 1 400 0, .request 2 400 0,
        .response 1 (List.replicate 129 ()) 0, .response 0 (List.replicate 128 ()) 0,
        .response 2 [()] 257]
    ((Downloads.run (events.take 4)).map fun downloads =>
        downloads.collection.blocks.map fun entry => (entry.1, entry.2.len)) =
      some [(1, 128), (129, 129), (257, 128)] ∧
    ((Downloads.run events).map fun downloads => downloads.drained.map Prod.fst) =
      some (List.range' 1 257 ++ [257]) := by
  decide +kernel

end Network
end Polkadot
