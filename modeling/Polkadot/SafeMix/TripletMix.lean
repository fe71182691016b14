import Polkadot.Foundations.Blocks

/-!
# The triplet mix

`safe-mix` mixes a sequence of seeds into one by a tree of bitwise majorities
of three (`sub_mix`).  `triplet_mix` streams the seeds through a stack of
`MAX_DEPTH` triples, one per depth of the tree: the `i`-th seed goes to slot
`i % 3` of depth 0, and a triple completed at a depth is mixed, becomes the
result, and is saved one depth up.  `calculate_random` of the system module
mixes the hashes of the 81 blocks before the current one.

The majority tree is the abstract side (`maj`): a seed at depth 0, and
`sub_mix` of the trees of the three thirds above.  `lastTree` names the tree
that ends with the last completed triple, at the greatest depth whose power
divides the number of seeds in complete triples.
-/

namespace Polkadot
namespace SafeMix

open Foundations

/-- `MAX_DEPTH`. -/
def maxDepth : Nat := 17

variable {T : Type} [AndOp T] [OrOp T]

/-- `sub_mix`: the bitwise majority of three seeds. -/
def subMix (seeds : Vector T 3) : T :=
  (seeds[0] &&& seeds[1]) ||| (seeds[1] &&& seeds[2]) ||| (seeds[0] &&& seeds[2])

/-- The stack `accum` of `triplet_mix`: a triple for each depth. -/
abbrev Stack (T : Type) := Vector (Vector T 3) maxDepth

/-- The inner loop of `triplet_mix`, from `depth` on: while the index at the
depth ends a triple, mix that triple into the result and, below the top of the
stack, save it one depth up. -/
def carry (accum : Stack T) (result : T) (indexAtDepth depth : Nat) : Stack T × T :=
  if inStack : depth < maxDepth then
    if indexAtDepth % 3 ≠ 2 then (accum, result)
    else
      let indexAtDepth := indexAtDepth / 3
      let result := subMix accum[depth]
      -- the end of the stack: bail with the result
      if top : depth = maxDepth - 1 then (accum, result)
      else
        have up : depth + 1 < maxDepth := by omega
        carry (accum.set (depth + 1) (accum[depth + 1].set (indexAtDepth % 3) result)) result
          indexAtDepth (depth + 1)
  else (accum, result)
termination_by maxDepth - depth

variable [Inhabited T]

/-- The body of the outer loop of `triplet_mix`, for the seed at `index`: store
it at depth 0, then carry. -/
def step (state : Stack T × T) (seed : T × Nat) : Stack T × T :=
  have nonempty : 0 < maxDepth := by decide
  let (seed, index) := seed
  carry (state.1.set 0 (state.1[0].set (index % 3) seed)) state.2 index 0

/-- `TripletMix::triplet_mix` of an iterator, here the list of its seeds; the
stack and the result start at `T::default()`. -/
def tripletMix (seeds : List T) : T :=
  (seeds.zipIdx.foldl step (Vector.replicate maxDepth (Vector.replicate 3 default), default)).2

/-- The block numbers `calculate_random` takes the hashes of: the `scan` over
`count` steps from `start`, each one block down until the genesis block. -/
def scanDown (start : Nat) : Nat → List Nat
  | 0 => []
  | count + 1 =>
      let next := if start > 0 then start - 1 else start
      next :: scanDown next count

/-- `system::calculate_random`: asserts the block number is not zero, then mixes
the hashes of the 81 blocks from two before the current one down. -/
def calculateRandom (blockHash : Nat → T) (blockNumber : Nat) : Option T :=
  if blockNumber > 0 then some (tripletMix ((scanDown (blockNumber - 1) 81).map blockHash))
  else none

/-- `scanDown` gives as many indices as it is asked for. -/
theorem length_scanDown (start count : Nat) : (scanDown start count).length = count := by
  induction count generalizing start with
  | zero => rfl
  | succ count ih => simp [scanDown, ih]

/-! ## The majority tree -/

/-- `Maj`, the ternary majority tree over `3 ^ depth` seeds: the seed itself at
depth 0, and `sub_mix` of the trees of the three thirds above. -/
def maj : Nat → List T → T
  | 0, seeds => seeds.headD default
  | depth + 1, seeds =>
      subMix #v[maj depth (chunk seeds (3 ^ depth) 0), maj depth (chunk seeds (3 ^ depth) 1),
        maj depth (chunk seeds (3 ^ depth) 2)]

/-- The tree over the `index`-th block of `3 ^ depth` seeds. -/
def treeAt (seeds : List T) (depth index : Nat) : T :=
  maj depth (chunk seeds (3 ^ depth) index)

/-- The tree `triplet_mix` has returned after `count` seeds: the one that ends
with the last completed triple, at the greatest depth up to `MAX_DEPTH` whose
power divides the number of seeds in complete triples. -/
def lastTree (seeds : List T) (count : Nat) : T :=
  let ended := 3 * (count / 3)
  if ended = 0 then default
  else
    let depth := min maxDepth (padicValNat 3 ended)
    treeAt seeds depth (ended / 3 ^ depth - 1)

variable (seeds : List T)

/-- The tree of depth zero at an index is the seed there. -/
theorem treeAt_zero {index : Nat} (inList : index < seeds.length) :
    treeAt seeds 0 index = seeds[index] := by
  rw [treeAt, pow_zero, chunk_one, List.getElem?_eq_getElem inList]
  rfl

/-- The tree of a block one depth up mixes the trees of its three thirds. -/
theorem treeAt_succ (depth index : Nat) :
    treeAt seeds (depth + 1) index =
      subMix #v[treeAt seeds depth (3 * index), treeAt seeds depth (3 * index + 1),
        treeAt seeds depth (3 * index + 2)] := by
  have thirds : ∀ part < 3, chunk (chunk seeds (3 ^ (depth + 1)) index) (3 ^ depth) part =
      chunk seeds (3 ^ depth) (3 * index + part) := by
    intro part inside
    rw [pow_succ']
    exact chunk_chunk seeds _ 3 index part inside
  simp only [treeAt, maj, thirds 0 (by decide), thirds 1 (by decide), thirds 2 (by decide),
    Nat.add_zero]

/-- Over exactly `3 ^ depth` seeds, the first tree is the tree of them all. -/
theorem treeAt_zero_of_length {depth : Nat} (length : seeds.length = 3 ^ depth) :
    treeAt seeds depth 0 = maj depth seeds := by
  rw [treeAt, chunk_zero_of_length_le length.le]

/-- The last tree of depth zero is the default. -/
theorem lastTree_zero : lastTree seeds 0 = default := rfl

/-- A seed that completes no triple leaves the tree returned alone. -/
theorem lastTree_of_not_dvd {count : Nat} (short : ¬ 3 ∣ count + 1) :
    lastTree seeds (count + 1) = lastTree seeds count := by
  rw [lastTree, lastTree, Nat.succ_div_of_not_dvd short]

/-- A seed that ends a tree of `3 ^ depth` seeds, and none deeper up to
`MAX_DEPTH`, returns that tree. -/
theorem lastTree_of_dvd {count depth : Nat} (positive : 0 < depth) (inStack : depth ≤ maxDepth)
    (ends : 3 ^ depth ∣ count + 1) (deepest : depth = maxDepth ∨ ¬ 3 ^ (depth + 1) ∣ count + 1) :
    lastTree seeds (count + 1) = treeAt seeds depth (count / 3 ^ depth) := by
  have triple : 3 ∣ count + 1 := by
    simpa using Nat.pow_dvd_of_le_of_pow_dvd positive ends
  have ended : 3 * ((count + 1) / 3) = count + 1 := Nat.mul_div_cancel' triple
  -- the power of 3 in the new count, capped at the stack's depth, is the depth
  have valued : depth ≤ padicValNat 3 (count + 1) :=
    (Nat.pow_dvd_iff_le_padicValNat (by decide) (by omega)).mp ends
  have capped : min maxDepth (padicValNat 3 (count + 1)) = depth := by
    rcases deepest with top | notDeeper
    · omega
    · have : ¬ depth + 1 ≤ padicValNat 3 (count + 1) := fun deeper =>
        notDeeper ((Nat.pow_dvd_iff_le_padicValNat (by decide) (by omega)).mpr deeper)
      omega
  rw [lastTree]
  simp only [ended, Nat.add_one_ne_zero, if_false, capped]
  rw [Nat.succ_div_of_dvd ends, Nat.add_sub_cancel]

end SafeMix
end Polkadot
