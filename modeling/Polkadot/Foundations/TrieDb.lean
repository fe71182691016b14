import Polkadot.Foundations.ByteCodec

/-!
# Tries over databases of nodes by hash

A trie whose nodes sit in a database under their hashes, as a reader of it
depends on it.  A lookup from a root fetches nodes from the database, each named
by the one before, and answers with the value and the nodes it fetched; a walk
over the keys with a prefix reports the keys it reaches; an update writes new
nodes below a root.  `TrieDb.Lawful` states what a reader relies on: a lookup
depends only on the nodes it fetches, from its root down, and a walk reports
only keys whose lookup finds a value.

A database whose nodes sit at their own hashes is consistent, and two
consistent databases agree on every hash both hold when the hash has no
collisions (`TrieDb.Consistent.agree`).  A lookup that succeeds in one database
then succeeds alike in an agreeing database that holds its root and every node
its nodes name (`TrieDb.Lawful.lookup_of_agree`).
-/

namespace Foundations

/-- The errors of a trie: a node the database lacks. -/
inductive TrieError (H : Type) where
  | incompleteDatabase (missing : H)
  deriving DecidableEq, Repr

/-- A trie over a database of nodes of type `N`, by hashes of type `H`. -/
structure TrieDb (H N : Type) where
  /-- The hash a database stores a node under. -/
  hash : N → H
  /-- The hashes of the nodes a node names below it. -/
  children : N → List H
  /-- The lookup of a key from the node at a hash: the value, and the nodes
  fetched, by hash, in order. -/
  lookup : (H → Option N) → Bytes → H → Except (TrieError H) (Option Bytes × List (H × N))
  /-- The keys with a prefix below the node at a hash, as far as a walk over a
  database of `size` nodes reaches them. -/
  keysWithPrefix : (H → Option N) → Nat → Bytes → H → List Bytes
  /-- The change of the value at a key below a root node, which inserts or
  removes it: the new root node, and the nodes written below it, by hash. -/
  update : (H → Option N) → Bytes → Option Bytes → N → Except (TrieError H) (N × List (H × N))
  /-- The root node of the empty trie. -/
  empty : N

/-- Two databases hold the same node at every hash both hold. -/
def Agree {H N : Type} (db other : H → Option N) : Prop :=
  ∀ h node node', db h = some node → other h = some node' → node = node'

namespace TrieDb

variable {H N : Type} (trie : TrieDb H N)

/-- Every node of the database sits at its own hash. -/
def Consistent (db : H → Option N) : Prop :=
  ∀ h node, db h = some node → trie.hash node = h

/-- Every node a node of the database names is held too. -/
def Closed (db : H → Option N) : Prop :=
  ∀ h node, db h = some node → ∀ child ∈ trie.children node, (db child).isSome

/-- What a reader relies on of a trie: a lookup fetches its nodes from the
database, from its root down, each named by the one before, and depends on
nothing else; a walk reports only keys whose lookup finds a value. -/
structure Lawful : Prop where
  lookup_fetched : ∀ {db : H → Option N} {key : Bytes} {h : H} {value : Option Bytes} {path : List (H × N)},
    trie.lookup db key h = .ok (value, path) → ∀ entry ∈ path, db entry.1 = some entry.2
  lookup_of_fetched : ∀ {db other : H → Option N} {key : Bytes} {h : H} {result : Option Bytes × List (H × N)},
    trie.lookup db key h = .ok result → (∀ entry ∈ result.2, other entry.1 = some entry.2) →
      trie.lookup other key h = .ok result
  lookup_head : ∀ {db : H → Option N} {key : Bytes} {h : H} {value : Option Bytes} {path : List (H × N)},
    trie.lookup db key h = .ok (value, path) → ∃ node rest, path = (h, node) :: rest
  lookup_linked : ∀ {db : H → Option N} {key : Bytes} {h : H} {value : Option Bytes} {path : List (H × N)},
    trie.lookup db key h = .ok (value, path) → path.IsChain fun above below => below.1 ∈ trie.children above.2
  keysWithPrefix_found : ∀ {db : H → Option N} {size : Nat} {keyPrefix : Bytes} {h : H} {key : Bytes},
    key ∈ trie.keysWithPrefix db size keyPrefix h → ∃ value path, trie.lookup db key h = .ok (some value, path)

variable {trie}

/-- With a hash without collisions, two consistent databases agree. -/
theorem Consistent.agree (injective : Function.Injective trie.hash) {db other : H → Option N}
    (consistent : trie.Consistent db) (consistent' : trie.Consistent other) : Agree db other := by
  intro h node node' held held'
  exact injective ((consistent h node held).trans (consistent' h node' held').symm)

/-- Down a chain of nodes each named by the one before, fetched from one
database, an agreeing closed database that holds the first holds them all. -/
theorem held_of_chain {db other : H → Option N} (agree : Agree db other) (closed : trie.Closed other) :
    ∀ {path : List (H × N)}, path.IsChain (fun above below => below.1 ∈ trie.children above.2) →
      (∀ entry ∈ path, db entry.1 = some entry.2) → (∀ first ∈ path.head?, (other first.1).isSome) →
        ∀ entry ∈ path, other entry.1 = some entry.2
  | [], _, _, _ => nofun
  | entry :: rest, chain, fetched, rooted => by
      obtain ⟨node', held'⟩ := Option.isSome_iff_exists.mp (rooted entry rfl)
      have here : other entry.1 = some entry.2 := by
        rw [held', agree _ _ _ (fetched entry List.mem_cons_self) held']
      intro member inPath
      rcases List.mem_cons.mp inPath with rfl | later
      · exact here
      · cases rest with
        | nil => cases later
        | cons next rest =>
            obtain ⟨named, chain'⟩ := List.isChain_cons_cons.mp chain
            refine held_of_chain agree closed chain' (fun below inRest => fetched below (List.mem_cons_of_mem _ inRest))
              (fun first isHead => ?_) member later
            cases isHead
            exact closed entry.1 entry.2 here next.1 named

/-- A lookup that succeeds gives the same answer in an agreeing database that
holds its first node and every node its nodes name. -/
theorem Lawful.lookup_of_agree (lawful : trie.Lawful) {db other : H → Option N} (agree : Agree db other)
    (closed : trie.Closed other) {key : Bytes} {h : H} {result : Option Bytes × List (H × N)}
    (rooted : (other h).isSome) (found : trie.lookup db key h = .ok result) : trie.lookup other key h = .ok result := by
  obtain ⟨value, path⟩ := result
  obtain ⟨node, rest, rfl⟩ := lawful.lookup_head found
  refine lawful.lookup_of_fetched found (held_of_chain agree closed (lawful.lookup_linked found)
    (lawful.lookup_fetched found) ?_)
  intro first isHead
  cases isHead
  exact rooted

end TrieDb

end Foundations
