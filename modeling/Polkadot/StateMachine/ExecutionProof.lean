import Polkadot.StateMachine.Execute
import Polkadot.Foundations.HashedTrie

/-!
# Execution proofs

`prove_execution` and `execution_proof_check` of `state-machine/src/lib.rs`,
over the `TrieBackend` of `trie_backend.rs` and the `ProvingBackend` of
`proving_backend.rs`.  A trie backend keeps the nodes of a trie by hash, from
its root; the trie, `patricia_trie`'s, is the parameter `trie`, a lawful
`TrieDb`.  A `ProvingBackend` passes every call through to its trie backend
and records the nodes each `storage` lookup fetches; those nodes are the proof.
`create_proof_check_backend` puts the nodes of a proof into a `MemoryDB` by
hash, and the check executes the call over the trie backend of that database
and the claimed root.

For calls that neither clear a prefix nor ask for the root, with a hash
without collisions, the check of an honest proof gives the output of the
execution (`executionProofCheck_of_proveExecution`), and so does every proof
that checks (`execute_of_executionProofCheck`).

Only `storage` records.  `for_keys_with_prefix`, which `clear_prefix` calls,
and `storage_root` walk nodes that no proof holds, and over the checking
backend both only log the node they lack.  And `Ext::storage` panics on every
error of the backend: a call that clears a prefix and then reads a key below
it gets an honest proof whose check panics, as soon as a node of that key's
lookup is not on the lookup of `:code` (`executionProof_misses_walked_nodes`).
-/

namespace Polkadot
namespace StateMachine

open Foundations (Bytes TrieDb TrieError)

/-- A `MemoryDB` of trie nodes, by hash. -/
abbrev MemoryDb (H N : Type) [DecidableEq H] := AList (fun _ : H => N)

variable {H N : Type} [DecidableEq H]

/-- `TrieBackend`: the storage of its nodes (`backend_storage`), and its root,
which the storage holds (`TrieDBMut::from_existing` expects it). -/
structure TrieBackend (H N : Type) [DecidableEq H] where
  backendStorage : MemoryDb H N
  root : H
  rootStored : root ∈ backendStorage

namespace TrieBackend

variable (trie : TrieDb H N) (backend : TrieBackend H N)

/-- The nodes of the storage, by hash. -/
def nodes (h : H) : Option N := backend.backendStorage.lookup h

/-- `storage`: the lookup of the key from the root. -/
def storage (key : Bytes) : Except (TrieError H) (Option Bytes) :=
  (trie.lookup backend.nodes key backend.root).map Prod.fst

/-- `for_keys_with_prefix`: the keys the walk from the root reaches; the error
that stops it is only logged. -/
def forKeysWithPrefix (keyPrefix : Bytes) : List Bytes :=
  trie.keysWithPrefix backend.nodes (backend.backendStorage.entries.length + 1) keyPrefix backend.root

/-- The node at the root. -/
def rootNode : N :=
  (backend.backendStorage.lookup backend.root).get (AList.lookup_isSome.mpr backend.rootStored)

/-- `storage_root`: the changes of the delta written into the trie one after
another, through an overlay of the nodes written so far over the storage; a
change that fails is only logged.  The new root, and the nodes written. -/
def storageRoot (delta : Transaction) : H × List (H × N) :=
  let written := delta.foldl
    (fun (state : N × List (H × N)) change =>
      -- `Ephemeral`: the overlay first, then the storage
      let nodes := fun h => (state.2.lookup h).or (backend.backendStorage.lookup h)
      match trie.update nodes change.1 change.2 state.1 with
      | .ok (node, below) => (node, state.2 ++ below)
      | .error _ => state)
    (backend.rootNode, [])
  (trie.hash written.1, written.2 ++ [(trie.hash written.1, written.1)])

/-- `TrieBackend` as a `Backend`, whose transaction is the nodes written. -/
def ops : Backend (TrieBackend H N) (TrieError H) (List (H × N)) H :=
  ⟨storage trie, forKeysWithPrefix trie, storageRoot trie⟩

/-- A `MemoryDB` with the nodes written added. -/
def insertNodes (db : MemoryDb H N) (written : List (H × N)) : MemoryDb H N :=
  written.foldl (fun db entry => db.insert entry.1 entry.2) db

/-- The last node written is in the database. -/
theorem mem_insertNodes_of_last {db : MemoryDb H N} {front : List (H × N)} {h : H} {node : N} :
    h ∈ insertNodes db (front ++ [(h, node)]) := by
  simp [insertNodes, List.foldl_append, AList.mem_insert]

/-- `with_storage_for_genesis` over an empty `MemoryDB`: the root of the empty
trie. -/
def genesis : TrieBackend H N :=
  ⟨(∅ : MemoryDb H N).insert (trie.hash trie.empty) trie.empty, trie.hash trie.empty,
    (AList.mem_insert _).mpr (.inl rfl)⟩

/-- The backend after the nodes `storage_root` writes for `delta` are committed
to the storage, under the new root: how the tests build a trie. -/
def commit (delta : Transaction) : TrieBackend H N where
  backendStorage := insertNodes backend.backendStorage (backend.storageRoot trie delta).2
  root := (backend.storageRoot trie delta).1
  rootStored := mem_insertNodes_of_last

/-- The nodes the recorder of a `ProvingBackend` over the backend holds after
the lookups of `reads`. -/
def recordedNodes (reads : List Bytes) : List N :=
  reads.flatMap fun key =>
    match trie.lookup backend.nodes key backend.root with
    | .ok (_, path) => path.map Prod.snd
    | .error _ => []

end TrieBackend

/-- The `MemoryDB` of a proof: each of its nodes inserted at its hash. -/
def proofDb (trie : TrieDb H N) (proof : List N) : MemoryDb H N :=
  proof.foldl (fun db item => db.insert (trie.hash item) item) ∅

/-- `create_proof_check_backend`: the `MemoryDB` of the proof, which must hold
the root. -/
def createProofCheckBackend (trie : TrieDb H N) (root : H) (proof : List N) :
    Except ExecutionError (TrieBackend H N) :=
  if stored : root ∈ proofDb trie proof then .ok ⟨proofDb trie proof, root, stored⟩
  else .error .invalidProof

namespace Call

variable {B ε T R O : Type}

/-- The keys a run of the call from `ext` asks the backend for, in order: those
it reads while the overlay has no entry for them.  They are what the recorder
of a `ProvingBackend` sees. -/
def backendReads (ops : Backend B ε T R) : Call R O → Ext B T R → List Bytes
  | done _, _ => []
  | storage key next, ext =>
      let asked := if ext.overlay.storage key = none then [key] else []
      match ext.storage ops key with
      | none => asked
      | some value => asked ++ (next value).backendReads ops ext
  | placeStorage key value next, ext => next.backendReads ops (ext.placeStorage key value)
  | clearPrefix keyPrefix next, ext => next.backendReads ops (ext.clearPrefix ops keyPrefix)
  | chainId next, ext => (next ext.chainId).backendReads ops ext
  | storageRoot next, ext =>
      let computed := ext.storageRoot ops
      (next computed.1).backendReads ops computed.2

end Call

variable {Err : Type}

/-- The keys `execute` over the backend asks it for: `:code`, unless the
overlay has it, then those of the call. -/
def executeReads {B ε T R : Type} (ops : Backend B ε T R) (backend : B)
    (overlay : OverlayedChanges) (exec : CodeExecutor R Err) (method : String)
    (callData : Bytes) : List Bytes :=
  let externalities : Ext B T R := Ext.new overlay backend
  (if overlay.storage codeKey = none then [codeKey] else []) ++
    match externalities.storage ops codeKey with
    | some (some code) => (exec code method callData).backendReads ops externalities
    | _ => []

/-- `prove_execution` over a trie backend: `execute` over the `ProvingBackend`,
which answers as the trie backend does, and the nodes its recorder holds. -/
def proveExecution (trie : TrieDb H N) (backend : TrieBackend H N) (overlay : OverlayedChanges)
    (exec : CodeExecutor H Err) (method : String) (callData : Bytes) :
    Option (Except (ExecuteError Err) (Bytes × List N × List (H × N)) × OverlayedChanges) :=
  let proof := backend.recordedNodes trie
    (executeReads (TrieBackend.ops trie) backend overlay exec method callData)
  (execute (TrieBackend.ops trie) backend overlay exec method callData).map fun executed =>
    (executed.1.map fun result => (result.1, proof, result.2), executed.2)

/-- `execution_proof_check`: `execute` over the trie backend of the proof. -/
def executionProofCheck (trie : TrieDb H N) (root : H) (proof : List N)
    (overlay : OverlayedChanges) (exec : CodeExecutor H Err) (method : String) (callData : Bytes) :
    Option (Except (ExecuteError Err) (Bytes × List (H × N)) × OverlayedChanges) :=
  match createProofCheckBackend trie root proof with
  | .error e => some (.error (.execution e), overlay)
  | .ok backend => execute (TrieBackend.ops trie) backend overlay exec method callData

/-! ## Calls that neither clear a prefix nor ask for the root -/

namespace Call

variable {R O : Type}

/-- A call that never clears a prefix and never asks for the storage root. -/
inductive Plain : Call R O → Prop
  | done (output : O) : Plain (done output)
  | storage (key : Bytes) (next : Option Bytes → Call R O) :
      (∀ value, Plain (next value)) → Plain (storage key next)
  | placeStorage (key : Bytes) (value : Option Bytes) (next : Call R O) :
      Plain next → Plain (placeStorage key value next)
  | chainId (next : UInt64 → Call R O) : (∀ id, Plain (next id)) → Plain (chainId next)

end Call

section Reads

variable {B ε T R : Type} {ops : Backend B ε T R}

/-- A read gives the same answer over another backend that answers alike the key,
if the read asks the backend for it. -/
theorem Ext.storage_of_reads {ext : Ext B T R} {backend' : B} {key : Bytes} {value : Option Bytes}
    (read : ext.storage ops key = some value)
    (agree : ext.overlay.storage key = none →
      ∀ found, ops.storage ext.backend key = .ok found → ops.storage backend' key = .ok found) :
    ({ ext with backend := backend' } : Ext B T R).storage ops key = some value := by
  unfold Ext.storage at read ⊢
  dsimp only
  cases answered : ext.overlay.storage key with
  | some stored =>
      -- the overlay answers, over either backend
      rw [answered] at read
      exact read
  | none =>
      rw [answered] at read
      dsimp only at read ⊢
      cases backendRead : ops.storage ext.backend key with
      | error e =>
          rw [backendRead] at read
          cases read
      | ok found =>
          rw [backendRead] at read
          rw [agree answered found backendRead]
          exact read

/-- A plain call runs alike over another backend that answers alike every key
the run asks the backend for. -/
theorem Call.run_of_reads {O : Type} {call : Call R O} (plain : call.Plain) :
    ∀ {ext : Ext B T R} {backend' : B} {out : O} {final : Ext B T R},
      (∀ key ∈ call.backendReads ops ext, ∀ found,
        ops.storage ext.backend key = .ok found → ops.storage backend' key = .ok found) →
      call.run (Ext.externalities ops) ext = some (out, final) →
      call.run (Ext.externalities ops) { ext with backend := backend' } =
        some (out, { final with backend := backend' }) := by
  induction plain with
  | done output =>
      intro ext backend' out final _ ran
      cases ran
      rfl
  | storage key next _ ih =>
      intro ext backend' out final reads ran
      obtain ⟨value, (read : Ext.storage ops ext key = some value), ranNext⟩ :=
        Option.bind_eq_some_iff.mp ran
      have read' := Ext.storage_of_reads read fun missed found backendRead =>
        reads key (by simp [Call.backendReads, missed, read]) found backendRead
      have nextReads : ∀ key' ∈ (next value).backendReads ops ext, ∀ found,
          ops.storage ext.backend key' = .ok found → ops.storage backend' key' = .ok found :=
        fun key' member => reads key' (by simp [Call.backendReads, read, member])
      show (Ext.storage ops _ key).bind _ = _
      rw [read', Option.bind_some]
      exact ih value nextReads ranNext
  | placeStorage key value next _ ih =>
      intro ext backend' out final reads ran
      exact ih reads ran
  | chainId next _ ih =>
      intro ext backend' out final reads ran
      exact ih _ reads ran

/-- `execute` of plain calls gives the same output and overlay over another
backend that answers alike every key the execution asks the backend for. -/
theorem execute_of_reads {Err : Type} {backend backend' : B} {overlay : OverlayedChanges}
    {exec : CodeExecutor R Err} {method : String} {callData : Bytes}
    (plain : ∀ code, (exec code method callData).Plain)
    (reads : ∀ key ∈ executeReads ops backend overlay exec method callData, ∀ found,
      ops.storage backend key = .ok found → ops.storage backend' key = .ok found)
    {out : Bytes} {transaction : T} {overlay' : OverlayedChanges}
    (executed : execute ops backend overlay exec method callData =
      some (.ok (out, transaction), overlay')) :
    ∃ transaction', execute ops backend' overlay exec method callData =
      some (.ok (out, transaction'), overlay') := by
  cases read : (Ext.new overlay backend : Ext B T R).storage ops codeKey with
  | none => simp [execute, read] at executed
  | some code =>
      cases code with
      | none =>
          rw [execute_of_no_code read] at executed
          cases executed
      | some code =>
          -- the code reads alike, and then so does the call
          have read' : (Ext.new overlay backend' : Ext B T R).storage ops codeKey = some (some code) :=
            Ext.storage_of_reads read fun missed found backendRead => by
              have fresh : overlay.storage codeKey = none := missed
              exact reads codeKey (by simp [executeReads, fresh]) found backendRead
          rw [execute_of_code read] at executed
          obtain ⟨⟨result, final⟩, ran, finished⟩ := Option.bind_eq_some_iff.mp executed
          have ran' := Call.run_of_reads (plain code)
            (fun key member => reads key (by simp [executeReads, read, member])) ran
          rw [execute_of_code read']
          cases result with
          | error e => cases finished
          | ok result =>
              have sealable : (Ext.intoTransaction ops { final with backend := backend' }).isSome :=
                Ext.intoTransaction_isSome _
              obtain ⟨transaction', built⟩ := Option.isSome_iff_exists.mp sealable
              refine ⟨transaction', ?_⟩
              change ((exec code method callData).run (Ext.externalities ops)
                { Ext.new overlay backend with backend := backend' }).bind _ = _
              rw [ran', Option.bind_some]
              obtain ⟨_, _, sealed⟩ := Option.map_eq_some_iff.mp finished
              simp only [Prod.mk.injEq, Except.ok.injEq] at sealed
              dsimp only
              rw [built, Option.map_some, ← sealed.2, ← sealed.1.1]

end Reads

/-! ## The database of a proof -/

section ProofDb

variable {trie : TrieDb H N} {proof : List N}

/-- Every node of the database of a proof is a node of the proof, at its hash. -/
theorem lookup_proofDb {h : H} {node : N} (found : (proofDb trie proof).lookup h = some node) :
    trie.hash node = h ∧ node ∈ proof := by
  -- each insert puts a node of the proof at its own hash
  have keeps : ∀ (items : List N) (db : MemoryDb H N), (∀ item ∈ items, item ∈ proof) →
      (∀ h node, db.lookup h = some node → trie.hash node = h ∧ node ∈ proof) →
      ∀ h node, (items.foldl (fun db item => db.insert (trie.hash item) item) db).lookup h = some node →
        trie.hash node = h ∧ node ∈ proof := by
    intro items
    induction items with
    | nil => exact fun _ _ held => held
    | cons item rest ih =>
        intro db inProof held
        refine ih _ (fun other member => inProof other (List.mem_cons_of_mem _ member)) ?_
        intro h' node' found'
        by_cases same : h' = trie.hash item
        · subst same
          rw [AList.lookup_insert, Option.some.injEq] at found'
          subst found'
          exact ⟨rfl, inProof _ List.mem_cons_self⟩
        · rw [AList.lookup_insert_ne same] at found'
          exact held h' node' found'
  exact keeps proof ∅ (fun _ member => member) (by simp) h node found

/-- Every node of a proof is in its database at its hash. -/
theorem mem_proofDb {node : N} (member : node ∈ proof) : trie.hash node ∈ proofDb trie proof := by
  -- inserted keys stay
  have keeps : ∀ (items : List N) (db : MemoryDb H N),
      (trie.hash node ∈ db ∨ node ∈ items) →
        trie.hash node ∈ items.foldl (fun db item => db.insert (trie.hash item) item) db := by
    intro items
    induction items with
    | nil => exact fun _ held => held.resolve_right List.not_mem_nil
    | cons item rest ih =>
        intro db held
        refine ih _ ?_
        rcases held with inDb | inItems
        · exact .inl ((AList.mem_insert _).mpr (.inr inDb))
        · rcases List.mem_cons.mp inItems with rfl | later
          · exact .inl ((AList.mem_insert _).mpr (.inl rfl))
          · exact .inr later
  exact keeps proof ∅ (.inr member)

/-- With a hash without collisions, every node of a proof is the one its
database holds at its hash. -/
theorem lookup_proofDb_of_mem (injective : Function.Injective trie.hash) {node : N}
    (member : node ∈ proof) : (proofDb trie proof).lookup (trie.hash node) = some node := by
  obtain ⟨held, found⟩ := Option.isSome_iff_exists.mp
    (AList.lookup_isSome.mpr (mem_proofDb member : trie.hash node ∈ proofDb trie proof))
  rw [found, injective (lookup_proofDb found).1]

/-- The database of a proof is consistent. -/
theorem consistent_proofDb : trie.Consistent (proofDb trie proof).lookup :=
  fun _ _ found => (lookup_proofDb found).1

/-- A backend `create_proof_check_backend` gives holds the database of the
proof, under the root asked for. -/
theorem createProofCheckBackend_eq_ok {root : H} {checker : TrieBackend H N}
    (created : createProofCheckBackend trie root proof = .ok checker) :
    checker.backendStorage = proofDb trie proof ∧ checker.root = root := by
  unfold createProofCheckBackend at created
  split at created
  · cases created
    exact ⟨rfl, rfl⟩
  · cases created

/-- With a hash without collisions, the database of a proof holds every node
of a lookup in a consistent database whose nodes the proof holds. -/
theorem proofDb_holds_path (injective : Function.Injective trie.hash) {db : H → Option N}
    (consistent : trie.Consistent db) {path : List (H × N)} (fetched : ∀ entry ∈ path, db entry.1 = some entry.2)
    (inProof : ∀ entry ∈ path, entry.2 ∈ proof) :
    ∀ entry ∈ path, (proofDb trie proof).lookup entry.1 = some entry.2 := by
  intro entry onPath
  rw [← consistent entry.1 entry.2 (fetched entry onPath)]
  exact lookup_proofDb_of_mem injective (inProof entry onPath)

/-- A proof whose database holds the nodes of a lookup from a root gives a
check backend over its database, under that root. -/
theorem createProofCheckBackend_of_lookup (lawful : trie.Lawful) {db : H → Option N} {key : Bytes}
    {root : H} {value : Option Bytes} {path : List (H × N)}
    (found : trie.lookup db key root = .ok (value, path))
    (held : ∀ entry ∈ path, (proofDb trie proof).lookup entry.1 = some entry.2) :
    ∃ stored, createProofCheckBackend trie root proof = .ok ⟨proofDb trie proof, root, stored⟩ := by
  -- the lookup fetched the root first
  obtain ⟨node, rest, rfl⟩ := lawful.lookup_head found
  have stored : root ∈ proofDb trie proof :=
    AList.lookup_isSome.mp (by rw [held (root, node) List.mem_cons_self]; rfl)
  exact ⟨stored, dif_pos stored⟩

end ProofDb

namespace TrieBackend

variable {trie : TrieDb H N} {backend : TrieBackend H N}

/-- A read of the backend that goes well is a lookup from the root that goes
well. -/
theorem storage_eq_ok {key : Bytes} {value : Option Bytes} :
    backend.storage trie key = .ok value ↔
      ∃ path, trie.lookup backend.nodes key backend.root = .ok (value, path) := by
  unfold storage
  cases trie.lookup backend.nodes key backend.root with
  | error e => simp [Except.map]
  | ok found => simp [Except.map, Prod.ext_iff]

/-- Over an empty overlay, the externalities answer a key with its lookup from
the root. -/
theorem storage_new_of_lookup {key : Bytes} {value : Option Bytes} {path : List (H × N)}
    (found : trie.lookup backend.nodes key backend.root = .ok (value, path)) :
    (Ext.new OverlayedChanges.empty backend : Ext (TrieBackend H N) (List (H × N)) H).storage
      (ops trie) key = some value := by
  simp [Ext.storage, Ext.new, OverlayedChanges.storage, OverlayedChanges.empty, ops, storage, found,
    Except.map]

end TrieBackend

/-- An execution that does not panic finds in the backend every key it reads
there first; `:code` is read first. -/
theorem read_codeKey_of_execute {B ε T R : Type} {ops : Backend B ε T R} {backend : B}
    {overlay : OverlayedChanges} (fresh : overlay.storage codeKey = none)
    {exec : CodeExecutor R Err} {method : String} {callData : Bytes}
    (executed : (execute ops backend overlay exec method callData).isSome) :
    ∃ value, ops.storage backend codeKey = .ok value := by
  cases read : ops.storage backend codeKey with
  | ok value => exact ⟨value, rfl⟩
  | error e =>
      have panics : (Ext.new overlay backend : Ext B T R).storage ops codeKey = none := by
        simp [Ext.storage, fresh, read, Ext.new]
      simp [execute, panics] at executed

/-! ## The trie of the tests -/

open Foundations (Digest TrieNode byteTrie byteTrie_lawful)

/-- A database holds every node at its hash when each of its entries does. -/
theorem consistent_of_entries {trie : TrieDb H N} {db : MemoryDb H N}
    (atHash : ∀ entry ∈ db.entries, trie.hash entry.2 = entry.1) : trie.Consistent db.lookup :=
  fun h node found => atHash ⟨h, node⟩ (AList.mem_lookup_iff.mp found)

/-- A database holds every node its nodes name when each of its entries does. -/
theorem closed_of_entries {trie : TrieDb H N} {db : MemoryDb H N}
    (named : ∀ entry ∈ db.entries, ∀ child ∈ trie.children entry.2, child ∈ db) : trie.Closed db.lookup :=
  fun h node found child isChild =>
    AList.lookup_isSome.mpr (named ⟨h, node⟩ (AList.mem_lookup_iff.mp found) child isChild)

/-- `test_db` of `trie_backend.rs` over the trie of one node per byte: `key`,
`value1`, `value2` and `:code` over the empty trie, each node named by a digest
that is the node itself. -/
def testTrie : TrieBackend Digest (TrieNode Digest) :=
  (TrieBackend.genesis (byteTrie Digest.ofNode)).commit (byteTrie Digest.ofNode)
    [([107, 101, 121], some [118, 97, 108, 117, 101]), ([118, 97, 108, 117, 101, 49], some [42]),
      ([118, 97, 108, 117, 101, 50], some [24]),
      (codeKey, some [114, 101, 116, 117, 114, 110, 32, 52, 50])]

/-- The nodes of `testTrie` sit at their digests. -/
theorem testTrie_consistent : (byteTrie Digest.ofNode).Consistent testTrie.nodes :=
  consistent_of_entries (by decide)

/-- `testTrie` holds every node its nodes name. -/
theorem testTrie_closed : (byteTrie Digest.ofNode).Closed testTrie.nodes :=
  closed_of_entries (by decide)

/-- A call that reads `value2` and then `key`, and answers with both values. -/
def readTwice : CodeExecutor Digest Unit := fun _ _ _ =>
  .storage [118, 97, 108, 117, 101, 50] fun second => .storage [107, 101, 121] fun first =>
    .done (.ok (second.getD [] ++ first.getD []))

/-- `readTwice` neither clears a prefix nor asks for the root. -/
theorem readTwice_plain (code : Bytes) : (readTwice code "call" []).Plain :=
  .storage _ _ fun _ => .storage _ _ fun _ => .done _

/-! ## Complete and sound for plain calls -/

section Plain

variable {trie : TrieDb H N}

/-- Completeness for plain calls: over a trie backend whose nodes sit at their
hashes, with a hash without collisions, the proof of an execution that reads
`:code` from the backend checks against the backend's root, with the same
output and overlay. -/
theorem executionProofCheck_of_proveExecution (lawful : trie.Lawful) (injective : Function.Injective trie.hash)
    {backend : TrieBackend H N} (consistent : trie.Consistent backend.nodes)
    {overlay : OverlayedChanges} (fresh : overlay.storage codeKey = none)
    {exec : CodeExecutor H Err} {method : String} {callData : Bytes}
    (plain : ∀ code, (exec code method callData).Plain)
    {out : Bytes} {proof : List N} {transaction : List (H × N)} {overlay' : OverlayedChanges}
    (proved : proveExecution trie backend overlay exec method callData =
      some (.ok (out, proof, transaction), overlay')) :
    ∃ transaction', executionProofCheck trie backend.root proof overlay exec method callData =
      some (.ok (out, transaction'), overlay') := by
  obtain ⟨⟨result, final⟩, executed, sealed⟩ := Option.map_eq_some_iff.mp proved
  cases result with
  | error e => cases sealed
  | ok result =>
      simp only [Except.map, Prod.mk.injEq, Except.ok.injEq] at sealed
      obtain ⟨⟨sameOut, recorded, -⟩, rfl⟩ := sealed
      -- each node a read of the backend fetches is in the proof, at its hash
      have held : ∀ key ∈ executeReads (TrieBackend.ops trie) backend overlay exec method callData,
          ∀ value path, trie.lookup backend.nodes key backend.root = .ok (value, path) →
            ∀ entry ∈ path, (proofDb trie proof).lookup entry.1 = some entry.2 := by
        intro key member value path found
        refine proofDb_holds_path injective consistent (lawful.lookup_fetched found) fun entry onPath => ?_
        rw [← recorded]
        exact List.mem_flatMap.mpr ⟨key, member, by rw [found]; exact List.mem_map_of_mem onPath⟩
      -- the read of `:code` fetched the root
      have codeMember : codeKey ∈ executeReads (TrieBackend.ops trie) backend overlay exec method callData := by
        simp [executeReads, fresh]
      obtain ⟨code, codeRead⟩ := read_codeKey_of_execute fresh (by rw [executed]; rfl)
      obtain ⟨path, codeFound⟩ := TrieBackend.storage_eq_ok.mp codeRead
      obtain ⟨stored, created⟩ :=
        createProofCheckBackend_of_lookup lawful codeFound (held codeKey codeMember code _ codeFound)
      unfold executionProofCheck
      rw [created, ← sameOut]
      refine execute_of_reads plain (fun key member found read => ?_) executed
      obtain ⟨path, keyFound⟩ := TrieBackend.storage_eq_ok.mp read
      exact TrieBackend.storage_eq_ok.mpr
        ⟨path, lawful.lookup_of_fetched keyFound (held key member found path keyFound)⟩

/-- The honest proof of `readTwice` over `testTrie` checks, with its output. -/
theorem executionProofCheck_of_proveExecution_readTwice :
    ∃ proof transaction overlay,
      proveExecution (byteTrie Digest.ofNode) testTrie OverlayedChanges.empty readTwice "call" [] =
          some (.ok ([24, 118, 97, 108, 117, 101], proof, transaction), overlay) ∧
        ∃ transaction', executionProofCheck (byteTrie Digest.ofNode) testTrie.root proof OverlayedChanges.empty
          readTwice "call" [] = some (.ok ([24, 118, 97, 108, 117, 101], transaction'), overlay) := by
  obtain ⟨proof, transaction, overlay, proved⟩ : ∃ proof transaction overlay,
      proveExecution (byteTrie Digest.ofNode) testTrie OverlayedChanges.empty readTwice "call" [] =
        some (.ok ([24, 118, 97, 108, 117, 101], proof, transaction), overlay) := ⟨_, _, _, rfl⟩
  exact ⟨proof, transaction, overlay, proved, executionProofCheck_of_proveExecution (byteTrie_lawful _)
    Digest.ofNode_injective testTrie_consistent rfl readTwice_plain proved⟩

/-- Soundness for plain calls: with a hash without collisions, a proof that
checks against the root of a trie backend whose nodes sit at their hashes, and
which holds every node its nodes name, gives the output and overlay of the
execution over that backend. -/
theorem execute_of_executionProofCheck (lawful : trie.Lawful) (injective : Function.Injective trie.hash)
    {backend : TrieBackend H N} (consistent : trie.Consistent backend.nodes) (closed : trie.Closed backend.nodes)
    {proof : List N} {overlay : OverlayedChanges} {exec : CodeExecutor H Err} {method : String} {callData : Bytes}
    (plain : ∀ code, (exec code method callData).Plain)
    {out : Bytes} {transaction : List (H × N)} {overlay' : OverlayedChanges}
    (checked : executionProofCheck trie backend.root proof overlay exec method callData =
      some (.ok (out, transaction), overlay')) :
    ∃ transaction', execute (TrieBackend.ops trie) backend overlay exec method callData =
      some (.ok (out, transaction'), overlay') := by
  unfold executionProofCheck at checked
  split at checked
  · cases checked
  · rename_i checker created
    obtain ⟨storage, root⟩ := createProofCheckBackend_eq_ok created
    -- the proof's nodes agree with the backend's, which holds every node they name
    have agree : Foundations.Agree checker.nodes backend.nodes := by
      have consistent' : trie.Consistent checker.nodes := by
        unfold TrieBackend.nodes
        rw [storage]
        exact consistent_proofDb
      exact consistent'.agree injective consistent
    have rooted : (backend.nodes checker.root).isSome := by
      rw [root]
      exact AList.lookup_isSome.mpr backend.rootStored
    refine execute_of_reads plain (fun key _ found read => ?_) checked
    obtain ⟨path, keyFound⟩ := TrieBackend.storage_eq_ok.mp read
    have same := lawful.lookup_of_agree agree closed rooted keyFound
    rw [root] at same
    exact TrieBackend.storage_eq_ok.mpr ⟨path, same⟩

/-- A proof of the lookups of `:code`, `value2` and `key` checks `readTwice`
against the root of `testTrie`, with the output of the execution over it. -/
theorem execute_of_executionProofCheck_readTwice :
    ∃ transaction overlay,
      executionProofCheck (byteTrie Digest.ofNode) testTrie.root
          (testTrie.recordedNodes (byteTrie Digest.ofNode) [codeKey, [118, 97, 108, 117, 101, 50], [107, 101, 121]])
          OverlayedChanges.empty readTwice "call" [] =
        some (.ok ([24, 118, 97, 108, 117, 101], transaction), overlay) ∧
      ∃ transaction', execute (TrieBackend.ops (byteTrie Digest.ofNode)) testTrie OverlayedChanges.empty readTwice
        "call" [] = some (.ok ([24, 118, 97, 108, 117, 101], transaction'), overlay) := by
  obtain ⟨transaction, overlay, checked⟩ : ∃ transaction overlay,
      executionProofCheck (byteTrie Digest.ofNode) testTrie.root
          (testTrie.recordedNodes (byteTrie Digest.ofNode) [codeKey, [118, 97, 108, 117, 101, 50], [107, 101, 121]])
          OverlayedChanges.empty readTwice "call" [] =
        some (.ok ([24, 118, 97, 108, 117, 101], transaction), overlay) := ⟨_, _, rfl⟩
  exact ⟨transaction, overlay, checked, execute_of_executionProofCheck (byteTrie_lawful _) Digest.ofNode_injective
    testTrie_consistent testTrie_closed readTwice_plain checked⟩

end Plain

/-! ## Where proofs fall short -/

/-- The runtime call of the failing check: `clear_prefix` of `keyPrefix`, then
the value at `key`, or nothing. -/
def clearThenRead (keyPrefix key : Bytes) : CodeExecutor H Unit :=
  fun _ _ _ => .clearPrefix keyPrefix (.storage key fun read => .done (.ok (read.getD [])))

/-- After `clear_prefix`, the overlay deletes the keys the walk of the backend
reported, and answers every other key as before. -/
theorem storage_clearPrefix {B ε T R : Type} (ops : Backend B ε T R) (ext : Ext B T R) (keyPrefix key : Bytes) :
    (ext.clearPrefix ops keyPrefix).overlay.storage key =
      if key ∈ ops.forKeysWithPrefix ext.backend keyPrefix then some none else ext.overlay.storage key := by
  rw [Ext.overlay_clearPrefix]
  suffices folded : ∀ (walked : List Bytes) (overlay : OverlayedChanges),
      (walked.foldl (fun overlay key => overlay.setStorage key none) overlay).storage key =
        if key ∈ walked then some none else overlay.storage key from folded _ _
  intro walked
  induction walked with
  | nil => simp
  | cons first rest ih =>
      intro overlay
      rw [List.foldl_cons, ih]
      by_cases later : key ∈ rest
      · simp [later]
      · by_cases same : key = first <;> simp [later, same]

section Shortfall

variable {trie : TrieDb H N} {backend : TrieBackend H N} {keyPrefix key code value : Bytes}
  {codePath keyPath : List (H × N)}

/-- The honest proof of `clearThenRead`, over a backend whose walk below the
prefix reports the key, holds the nodes of the lookup of `:code` only: the key
is read from the overlay, where `clear_prefix` deleted it. -/
theorem proveExecution_clearThenRead
    (codeFound : trie.lookup backend.nodes codeKey backend.root = .ok (some code, codePath))
    (walked : key ∈ backend.forKeysWithPrefix trie keyPrefix) (method : String) (callData : Bytes) :
    ∃ transaction overlay,
      proveExecution trie backend OverlayedChanges.empty (clearThenRead keyPrefix key) method callData =
        some (.ok ([], codePath.map Prod.snd, transaction), overlay) := by
  have codeRead := TrieBackend.storage_new_of_lookup codeFound
  -- `clear_prefix` deletes the key in the overlay, which then answers its read
  have deleted : ((Ext.new OverlayedChanges.empty backend : Ext (TrieBackend H N) (List (H × N)) H).clearPrefix
      (TrieBackend.ops trie) keyPrefix).overlay.storage key = some none := by
    rw [storage_clearPrefix]
    exact if_pos walked
  have readDeleted : ((Ext.new OverlayedChanges.empty backend : Ext (TrieBackend H N) (List (H × N)) H).clearPrefix
      (TrieBackend.ops trie) keyPrefix).storage (TrieBackend.ops trie) key = some none := by
    unfold Ext.storage
    rw [deleted]
  obtain ⟨transaction, sealed⟩ := Option.isSome_iff_exists.mp
    (Ext.intoTransaction_isSome _ : (((Ext.new OverlayedChanges.empty backend : Ext (TrieBackend H N) (List (H × N)) H).clearPrefix
      (TrieBackend.ops trie) keyPrefix).intoTransaction (TrieBackend.ops trie)).isSome)
  -- the backend is asked for `:code` only
  have reads : executeReads (TrieBackend.ops trie) backend OverlayedChanges.empty (clearThenRead keyPrefix key)
      method callData = [codeKey] := by
    have fresh : OverlayedChanges.empty.storage codeKey = none := rfl
    unfold executeReads
    simp only [codeRead]
    rw [if_pos fresh]
    simp only [clearThenRead, Call.backendReads]
    rw [readDeleted, if_neg (by rw [deleted]; exact Option.some_ne_none none)]
    rfl
  refine ⟨transaction, ((Ext.new OverlayedChanges.empty backend : Ext (TrieBackend H N) (List (H × N)) H).clearPrefix
    (TrieBackend.ops trie) keyPrefix).overlay.commitProspective, ?_⟩
  have ran : (clearThenRead keyPrefix key code method callData).run (Ext.externalities (TrieBackend.ops trie))
      (Ext.new OverlayedChanges.empty backend) =
        some (.ok [], (Ext.new OverlayedChanges.empty backend).clearPrefix (TrieBackend.ops trie) keyPrefix) := by
    show (Ext.storage (TrieBackend.ops trie) ((Ext.new OverlayedChanges.empty backend).clearPrefix
      (TrieBackend.ops trie) keyPrefix) key).bind _ = _
    rw [readDeleted]
    rfl
  unfold proveExecution
  rw [reads, execute_of_code codeRead, ran]
  simp [sealed, TrieBackend.recordedNodes, codeFound, Except.map]

/-- A key one node of whose lookup is not on the lookup of `:code` has no
lookup in the database of the nodes of `:code`'s lookup. -/
theorem lookup_proofDb_of_apart (lawful : trie.Lawful) (consistent : trie.Consistent backend.nodes)
    (codeFound : trie.lookup backend.nodes codeKey backend.root = .ok (some code, codePath))
    (keyFound : trie.lookup backend.nodes key backend.root = .ok (some value, keyPath))
    (apart : ∃ entry ∈ keyPath, entry.2 ∉ codePath.map Prod.snd) {result : Option Bytes × List (H × N)} :
    trie.lookup (proofDb trie (codePath.map Prod.snd)).lookup key backend.root ≠ .ok result := by
  intro found
  -- every node the lookup fetches from the proof is a node of `:code`'s lookup, which the backend holds
  have held : ∀ entry ∈ result.2, backend.nodes entry.1 = some entry.2 := by
    intro entry onPath
    obtain ⟨atHash, inProof⟩ := lookup_proofDb (lawful.lookup_fetched found entry onPath)
    obtain ⟨⟨h, node⟩, onCodePath, named⟩ := List.mem_map.mp inProof
    have stored := lawful.lookup_fetched codeFound _ onCodePath
    dsimp only at named stored
    rw [← atHash, ← named, consistent _ _ stored]
    exact stored
  have same := lawful.lookup_of_fetched found held
  rw [keyFound, Except.ok.injEq] at same
  -- so the key's lookup in the backend fetched only nodes of the proof
  obtain ⟨entry, onKeyPath, missing⟩ := apart
  rw [show keyPath = result.2 by rw [← same]] at onKeyPath
  exact missing (lookup_proofDb (lawful.lookup_fetched found entry onKeyPath)).2

/-- The check of the honest proof of `clearThenRead` panics: over the database
of the proof, the walk below the prefix cannot reach the key, and the read of
the key then lacks a node. -/
theorem executionProofCheck_clearThenRead (lawful : trie.Lawful) (injective : Function.Injective trie.hash)
    (consistent : trie.Consistent backend.nodes)
    (codeFound : trie.lookup backend.nodes codeKey backend.root = .ok (some code, codePath))
    (keyFound : trie.lookup backend.nodes key backend.root = .ok (some value, keyPath))
    (apart : ∃ entry ∈ keyPath, entry.2 ∉ codePath.map Prod.snd) (method : String) (callData : Bytes) :
    executionProofCheck trie backend.root (codePath.map Prod.snd) OverlayedChanges.empty
      (clearThenRead keyPrefix key) method callData = none := by
  -- the proof holds the nodes of `:code`'s lookup, the root first
  have held := proofDb_holds_path injective consistent (lawful.lookup_fetched codeFound)
    fun entry onPath => List.mem_map_of_mem onPath
  obtain ⟨stored, created⟩ := createProofCheckBackend_of_lookup lawful codeFound held
  set checker : TrieBackend H N := ⟨proofDb trie (codePath.map Prod.snd), backend.root, stored⟩
  have found : trie.lookup checker.nodes codeKey checker.root = .ok (some code, codePath) :=
    lawful.lookup_of_fetched codeFound held
  have codeRead := TrieBackend.storage_new_of_lookup found
  set cleared := (Ext.new OverlayedChanges.empty checker : Ext (TrieBackend H N) (List (H × N)) H).clearPrefix
    (TrieBackend.ops trie) keyPrefix
  -- the walk reports only keys found in the proof's database, which the key is not
  have unreached : key ∉ checker.forKeysWithPrefix trie keyPrefix := fun walked => by
    obtain ⟨found, path, reached⟩ := lawful.keysWithPrefix_found walked
    exact lookup_proofDb_of_apart lawful consistent codeFound keyFound apart reached
  have kept : cleared.overlay.storage key = none := by
    rw [storage_clearPrefix]
    exact if_neg unreached
  have panics : cleared.storage (TrieBackend.ops trie) key = none := by
    unfold Ext.storage
    rw [kept]
    cases read : trie.lookup checker.nodes key checker.root with
    | ok result => exact absurd read (lookup_proofDb_of_apart lawful consistent codeFound keyFound apart)
    | error e => simp [TrieBackend.ops, TrieBackend.storage, Ext.new, cleared, read, Except.map]
  unfold executionProofCheck
  rw [created]
  dsimp only
  rw [execute_of_code codeRead]
  show ((Ext.storage _ cleared key).bind _).bind _ = none
  rw [panics]
  rfl

end Shortfall

end StateMachine
end Polkadot
