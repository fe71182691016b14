import Polkadot.Foundations.TrieDb

/-!
# A trie of one node per byte

A trie over byte strings whose nodes sit in a database by hash: each node holds
the value at its path and names the child below each next byte by that child's
hash.  A lookup, a walk over the keys below a prefix and an update fetch the
nodes they need from the database, and stop on the first node it lacks.

The trie is lawful (`byteTrie_lawful`): a lookup depends only on the nodes it
fetches (`lookupWith_path`, `lookupWith_of_path`), from its root down, each
the child of the one before (`lookupWith_head`, `lookupWith_linked`), and a
walk reports only keys whose lookup finds a value (`keysWithPrefix_found`).

A `Digest` that is the node itself is a hash without collisions
(`Digest.ofNode_injective`).
-/

namespace Foundations

/-- A node of a trie over byte strings: the value stored at the node's path,
and the child below each next byte, by its hash, in increasing order of byte. -/
structure TrieNode (H : Type) where
  value : Option Bytes
  children : List (UInt8 × H)
  deriving DecidableEq, Repr

namespace TrieNode

variable {H : Type}

/-- The node with no value and no child. -/
def empty : TrieNode H := ⟨none, []⟩

/-- The child below the byte `b`. -/
def child (node : TrieNode H) (b : UInt8) : Option H := node.children.lookup b

/-- A node with neither a value nor a child, which a trie drops. -/
def isEmpty (node : TrieNode H) : Bool := node.value.isNone && node.children.isEmpty

/-- The children with `h` below `b`, in order of byte. -/
def insertChild (b : UInt8) (h : H) : List (UInt8 × H) → List (UInt8 × H)
  | [] => [(b, h)]
  | (c, other) :: rest =>
      if b < c then (b, h) :: (c, other) :: rest
      else if b = c then (b, h) :: rest
      else (c, other) :: insertChild b h rest

/-- The node with the child `h` below `b`. -/
def withChild (node : TrieNode H) (b : UInt8) (h : H) : TrieNode H :=
  { node with children := insertChild b h node.children }

/-- The node without a child below `b`. -/
def withoutChild (node : TrieNode H) (b : UInt8) : TrieNode H :=
  { node with children := node.children.filter fun entry => entry.1 ≠ b }

/-- A child found under a byte is one of the node's children. -/
theorem mem_of_child {node : TrieNode H} {b : UInt8} {h : H} (found : node.child b = some h) :
    (b, h) ∈ node.children := by
  unfold child at found
  generalize node.children = entries at found ⊢
  induction entries with
  | nil => cases found
  | cons entry rest ih =>
      obtain ⟨c, other⟩ := entry
      by_cases same : b = c
      · subst same
        have equal : other = h := by simpa [List.lookup] using found
        exact equal ▸ List.mem_cons_self
      · have later : rest.lookup b = some h := by
          simpa [List.lookup, beq_eq_false_iff_ne.mpr same] using found
        exact List.mem_cons_of_mem _ (ih later)

end TrieNode

section Database

variable {H : Type} (db : H → Option (TrieNode H))

/-- The node at `h`. -/
def fetch (h : H) : Except (TrieError H) (TrieNode H) :=
  match db h with
  | some node => .ok node
  | none => .error (.incompleteDatabase h)

/-- A lookup of `key` below the node at `h`: the value at the key, with the
nodes the lookup fetches, by hash, in order. -/
def lookupWith : Bytes → H → Except (TrieError H) (Option Bytes × List (H × TrieNode H))
  | [], h => (fetch db h).map fun node => (node.value, [(h, node)])
  | b :: rest, h =>
      match fetch db h with
      | .error e => .error e
      | .ok node =>
          match node.child b with
          | none => .ok (none, [(h, node)])
          | some child => (lookupWith rest child).map fun found => (found.1, (h, node) :: found.2)

/-- The keys of the values below the node at `h`, whose path is `path`, in
increasing order, as far as the database holds their nodes: the keys found, and
the error that stopped the walk.  `fuel` bounds the depth of the walk. -/
def keysBelow : Nat → Bytes → H → List Bytes × Option (TrieError H)
  | 0, _, _ => ([], none)
  | fuel + 1, path, h =>
      match fetch db h with
      | .error e => ([], some e)
      | .ok node =>
          -- each byte leads to the child the node names below it
          node.children.foldl
            (fun found entry =>
              match found.2, node.child entry.1 with
              | none, some child =>
                  let below := keysBelow fuel (path ++ [entry.1]) child
                  (found.1 ++ below.1, below.2)
              | _, _ => found)
            (if node.value.isSome then [path] else [], none)

/-- The keys with `keyPrefix` below the node at `h`, whose path is `path`: the
walk down the prefix, then over the keys below it. -/
def keysWithPrefix (fuel : Nat) : Bytes → Bytes → H → List Bytes × Option (TrieError H)
  | [], path, h => keysBelow db fuel path h
  | b :: rest, path, h =>
      match fetch db h with
      | .error e => ([], some e)
      | .ok node =>
          match node.child b with
          | none => ([], none)
          | some child => keysWithPrefix fuel rest (path ++ [b]) child

/-- The change of the value at `key` below `node` to `change`, which inserts or
removes it: the node after the change, and the nodes written below it by hash.
A child left empty is dropped. -/
def update (hash : TrieNode H → H) :
    Bytes → Option Bytes → TrieNode H → Except (TrieError H) (TrieNode H × List (H × TrieNode H))
  | [], change, node => .ok ({ node with value := change }, [])
  | b :: rest, change, node =>
      let child : Except (TrieError H) (TrieNode H) := match node.child b with
        | none => .ok TrieNode.empty
        | some h => fetch db h
      match child with
      | .error e => .error e
      | .ok child =>
          match update hash rest change child with
          | .error e => .error e
          | .ok (child, written) =>
              if child.isEmpty then .ok (node.withoutChild b, written)
              else .ok (node.withChild b (hash child), written ++ [(hash child, child)])

/-! ## What a lookup depends on -/

variable {db}

/-- A fetch succeeds exactly with the node the database holds. -/
theorem fetch_eq_ok {h : H} {node : TrieNode H} : fetch db h = .ok node ↔ db h = some node := by
  unfold fetch
  cases db h with
  | none => simp
  | some found => simp

/-- Every node a lookup fetches is the database's at its hash. -/
theorem lookupWith_path :
    ∀ {key : Bytes} {h : H} {value : Option Bytes} {path : List (H × TrieNode H)},
      lookupWith db key h = .ok (value, path) → ∀ entry ∈ path, db entry.1 = some entry.2
  | [], h, value, path, found, entry, member => by
      cases fetched : fetch db h with
      | error e => simp [lookupWith, fetched, Except.map] at found
      | ok node =>
          simp only [lookupWith, fetched, Except.map, Except.ok.injEq, Prod.mk.injEq] at found
          obtain ⟨-, rfl⟩ := found
          rw [List.mem_singleton.mp member]
          exact fetch_eq_ok.mp fetched
  | b :: rest, h, value, path, found, entry, member => by
      cases fetched : fetch db h with
      | error e => simp [lookupWith, fetched] at found
      | ok node =>
          simp only [lookupWith, fetched] at found
          split at found
          · simp only [Except.ok.injEq, Prod.mk.injEq] at found
            obtain ⟨-, rfl⟩ := found
            rw [List.mem_singleton.mp member]
            exact fetch_eq_ok.mp fetched
          · rename_i child _
            cases below : lookupWith db rest child with
            | error e => simp [below, Except.map] at found
            | ok result =>
                simp only [below, Except.map, Except.ok.injEq, Prod.mk.injEq] at found
                obtain ⟨-, rfl⟩ := found
                rcases List.mem_cons.mp member with rfl | later
                · exact fetch_eq_ok.mp fetched
                · exact lookupWith_path below entry later

/-- A lookup fetches the node it starts from first. -/
theorem lookupWith_head {key : Bytes} {h : H} {value : Option Bytes} {path : List (H × TrieNode H)}
    (found : lookupWith db key h = .ok (value, path)) : ∃ node rest, path = (h, node) :: rest := by
  cases key with
  | nil =>
      cases fetched : fetch db h with
      | error e => simp [lookupWith, fetched, Except.map] at found
      | ok node =>
          simp only [lookupWith, fetched, Except.map, Except.ok.injEq, Prod.mk.injEq] at found
          exact ⟨node, [], found.2.symm⟩
  | cons b rest =>
      cases fetched : fetch db h with
      | error e => simp [lookupWith, fetched] at found
      | ok node =>
          simp only [lookupWith, fetched] at found
          split at found
          · simp only [Except.ok.injEq, Prod.mk.injEq] at found
            exact ⟨node, [], found.2.symm⟩
          · rename_i child _
            cases below : lookupWith db rest child with
            | error e => simp [below, Except.map] at found
            | ok inner =>
                simp only [below, Except.map, Except.ok.injEq, Prod.mk.injEq] at found
                exact ⟨node, inner.2, found.2.symm⟩

/-- A lookup gives the same answer in every database that holds the nodes it
fetches. -/
theorem lookupWith_of_path {other : H → Option (TrieNode H)} :
    ∀ {key : Bytes} {h : H} {result : Option Bytes × List (H × TrieNode H)},
      lookupWith db key h = .ok result → (∀ entry ∈ result.2, other entry.1 = some entry.2) →
        lookupWith other key h = .ok result
  | [], h, result, found, held => by
      cases fetched : fetch db h with
      | error e => simp [lookupWith, fetched, Except.map] at found
      | ok node =>
          simp only [lookupWith, fetched, Except.map, Except.ok.injEq] at found
          subst found
          have there : fetch other h = .ok node :=
            fetch_eq_ok.mpr (held (h, node) List.mem_cons_self)
          simp [lookupWith, there, Except.map]
  | b :: rest, h, result, found, held => by
      cases fetched : fetch db h with
      | error e => simp [lookupWith, fetched] at found
      | ok node =>
          simp only [lookupWith, fetched] at found
          -- the root of the lookup is its first fetched node, in both databases
          split at found
          · rename_i absent
            simp only [Except.ok.injEq] at found
            subst found
            have there : fetch other h = .ok node :=
              fetch_eq_ok.mpr (held (h, node) List.mem_cons_self)
            simp [lookupWith, there, absent]
          · rename_i child present
            cases below : lookupWith db rest child with
            | error e => simp [below, Except.map] at found
            | ok inner =>
                simp only [below, Except.map, Except.ok.injEq] at found
                subst found
                have there : fetch other h = .ok node :=
                  fetch_eq_ok.mpr (held (h, node) List.mem_cons_self)
                have innerHeld : ∀ entry ∈ inner.2, other entry.1 = some entry.2 :=
                  fun entry member => held entry (List.mem_cons_of_mem _ member)
                simp [lookupWith, there, present, lookupWith_of_path below innerHeld, Except.map]

/-- Each node a lookup fetches after the first is a child of the one before. -/
theorem lookupWith_linked :
    ∀ {key : Bytes} {h : H} {value : Option Bytes} {path : List (H × TrieNode H)},
      lookupWith db key h = .ok (value, path) →
        path.IsChain fun above below => below.1 ∈ above.2.children.map Prod.snd
  | [], h, value, path, found => by
      cases fetched : fetch db h with
      | error e => simp [lookupWith, fetched, Except.map] at found
      | ok node =>
          simp only [lookupWith, fetched, Except.map, Except.ok.injEq, Prod.mk.injEq] at found
          rw [← found.2]
          exact List.isChain_singleton _
  | b :: rest, h, value, path, found => by
      cases fetched : fetch db h with
      | error e => simp [lookupWith, fetched] at found
      | ok node =>
          simp only [lookupWith, fetched] at found
          split at found
          · simp only [Except.ok.injEq, Prod.mk.injEq] at found
            rw [← found.2]
            exact List.isChain_singleton _
          · rename_i child present
            cases below : lookupWith db rest child with
            | error e => simp [below, Except.map] at found
            | ok inner =>
                simp only [below, Except.map, Except.ok.injEq, Prod.mk.injEq] at found
                rw [← found.2]
                -- the lookup below starts at the child the node names
                obtain ⟨childNode, more, startsAt⟩ := lookupWith_head below
                have chain := lookupWith_linked below
                rw [startsAt] at chain ⊢
                exact List.isChain_cons_cons.mpr
                  ⟨List.mem_map_of_mem (f := Prod.snd) (TrieNode.mem_of_child present), chain⟩

/-- Every key a walk below the node at `h` reports is the walk's path followed
by a key whose lookup from `h` finds a value. -/
theorem keysBelow_found :
    ∀ {fuel : Nat} {path : Bytes} {h : H} {key : Bytes}, key ∈ (keysBelow db fuel path h).1 →
      ∃ suffix, key = path ++ suffix ∧ ∃ value found, lookupWith db suffix h = .ok (some value, found)
  | 0, path, h, key, member => by simp [keysBelow] at member
  | fuel + 1, path, h, key, member => by
      cases fetched : fetch db h with
      | error e => simp [keysBelow, fetched] at member
      | ok node =>
          simp only [keysBelow, fetched] at member
          -- the fold over the children keeps every key it gathers found
          refine List.foldlRecOn node.children _
            (motive := fun gathered : List Bytes × Option (TrieError H) => ∀ key ∈ gathered.1,
              ∃ suffix, key = path ++ suffix ∧ ∃ value found, lookupWith db suffix h = .ok (some value, found))
            ?_ ?_ key member
          · intro own isOwn
            split at isOwn
            · rename_i valued
              obtain ⟨value, stored⟩ := Option.isSome_iff_exists.mp valued
              rw [List.mem_singleton.mp isOwn]
              exact ⟨[], by simp, value, [(h, node)], by simp [lookupWith, fetched, stored, Except.map]⟩
            · cases isOwn
          · intro found kept entry _ gathered isGathered
            split at isGathered
            · rename_i child present
              rcases List.mem_append.mp isGathered with earlier | below
              · exact kept gathered earlier
              · obtain ⟨suffix, rfl, value, path', reached⟩ := keysBelow_found below
                refine ⟨entry.1 :: suffix, by simp, value, (h, node) :: path', ?_⟩
                simp [lookupWith, fetched, present, reached, Except.map]
            · exact kept gathered isGathered

/-- Every key a walk over the keys with a prefix reports is the walk's path
followed by a key whose lookup finds a value. -/
theorem keysWithPrefix_found :
    ∀ {fuel : Nat} {keyPrefix path : Bytes} {h : H} {key : Bytes},
      key ∈ (keysWithPrefix db fuel keyPrefix path h).1 →
        ∃ suffix, key = path ++ suffix ∧ ∃ value found, lookupWith db suffix h = .ok (some value, found)
  | fuel, [], path, h, key, member => keysBelow_found member
  | fuel, b :: rest, path, h, key, member => by
      cases fetched : fetch db h with
      | error e => simp [keysWithPrefix, fetched] at member
      | ok node =>
          simp only [keysWithPrefix, fetched] at member
          split at member
          · cases member
          · rename_i child present
            obtain ⟨suffix, rfl, value, path', reached⟩ := keysWithPrefix_found member
            refine ⟨b :: suffix, by simp, value, (h, node) :: path', ?_⟩
            simp [lookupWith, fetched, present, reached, Except.map]

end Database

/-- The trie of one node per byte, over the hash `hash`. -/
def byteTrie {H : Type} (hash : TrieNode H → H) : TrieDb H (TrieNode H) where
  hash := hash
  children node := node.children.map Prod.snd
  lookup := lookupWith
  keysWithPrefix db size keyPrefix h := (keysWithPrefix db size keyPrefix [] h).1
  update db := update db hash
  empty := .empty

/-- The trie of one node per byte is lawful. -/
theorem byteTrie_lawful {H : Type} (hash : TrieNode H → H) : (byteTrie hash).Lawful where
  lookup_fetched := lookupWith_path
  lookup_of_fetched := lookupWith_of_path
  lookup_head := lookupWith_head
  lookup_linked := lookupWith_linked
  keysWithPrefix_found member := by
    obtain ⟨suffix, rfl, value, found, reached⟩ := keysWithPrefix_found member
    exact ⟨value, found, reached⟩

/-! ## A hash without collisions -/

/-- The digest of a node that is the node itself, with its children by their
digests: a hash without collisions. -/
inductive Digest where
  | node (value : Option Bytes) (children : List (UInt8 × Digest))

mutual

/-- Equality of digests, decided node by node. -/
def Digest.decEq : (first second : Digest) → Decidable (first = second)
  | .node value children, .node value' children' =>
      if sameValue : value = value' then
        match Digest.decEqChildren children children' with
        | isTrue sameChildren => isTrue (sameValue ▸ sameChildren ▸ rfl)
        | isFalse differ => isFalse fun same => differ (Digest.node.inj same).2
      else isFalse fun same => sameValue (Digest.node.inj same).1

/-- Equality of the children of two digests. -/
def Digest.decEqChildren : (first second : List (UInt8 × Digest)) → Decidable (first = second)
  | [], [] => isTrue rfl
  | [], _ :: _ => isFalse nofun
  | _ :: _, [] => isFalse nofun
  | (b, digest) :: rest, (b', digest') :: rest' =>
      if sameByte : b = b' then
        match Digest.decEq digest digest', Digest.decEqChildren rest rest' with
        | isTrue sameDigest, isTrue sameRest => isTrue (sameByte ▸ sameDigest ▸ sameRest ▸ rfl)
        | isFalse differ, _ => isFalse fun same => differ (Prod.mk.inj (List.cons.inj same).1).2
        | _, isFalse differ => isFalse fun same => differ (List.cons.inj same).2
      else isFalse fun same => sameByte (Prod.mk.inj (List.cons.inj same).1).1

end

/-- Digests compare by their structure. -/
instance : DecidableEq Digest := Digest.decEq

/-- The digest of a node. -/
def Digest.ofNode (node : TrieNode Digest) : Digest := .node node.value node.children

/-- Distinct nodes have distinct digests. -/
theorem Digest.ofNode_injective : Function.Injective Digest.ofNode := by
  intro first second same
  obtain ⟨value, children⟩ := first
  obtain ⟨value', children'⟩ := second
  obtain ⟨rfl, rfl⟩ := Digest.node.inj same
  rfl

end Foundations
