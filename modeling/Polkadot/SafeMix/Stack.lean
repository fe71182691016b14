import Polkadot.SafeMix.TripletMix

/-!
# What the stack of `triplet_mix` holds

After `count` seeds, the row of each depth of the stack holds the trees of the
completed thirds of the tree being built at that depth (`Stacked`).  A seed
ends the blocks of `3 ^ depth` seeds at the depths whose power divides the new
count; the inner loop climbs exactly those depths, mixing at each the three
thirds it holds into the tree one depth up (`Carrying`), and stops at the first
depth whose triple is not complete, or at the top of the stack.  So the result
is always the deepest tree ending with the last completed triple (`lastTree`),
and not the tree of the first `3 ^ k` seeds that the documentation of
`TripletMix` promises: a later complete triple overwrites it.
-/

namespace Polkadot
namespace SafeMix

open Foundations

variable {T : Type} [AndOp T] [OrOp T] [Inhabited T] (seeds : List T)

/-- A row of the stack after `count` seeds: each completed third of the tree
being built at the depth holds its tree. -/
def Live (count depth : Nat) (row : Vector T 3) : Prop :=
  ∀ slot (inRow : slot < 3), slot < count / 3 ^ depth % 3 →
    row[slot] = treeAt seeds depth (count / 3 ^ depth - count / 3 ^ depth % 3 + slot)

/-- The stack after `count` seeds: every row is live. -/
def Stacked (count : Nat) (accum : Stack T) : Prop :=
  ∀ depth (inStack : depth < maxDepth), Live seeds count depth accum[depth]

/-- The inner loop for the seed at `index`, entering `depth`: the seed ends a
block of `3 ^ depth` seeds, whose tree the depth's row has just gained; the
rows from the depth up are live as they were before the seed; and above depth
0 the result is the tree of that block. -/
structure Carrying (index depth : Nat) (accum : Stack T) (result previous : T) : Prop where
  inStack : depth < maxDepth
  ends : 3 ^ depth ∣ index + 1
  current : accum[depth][index / 3 ^ depth % 3] = treeAt seeds depth (index / 3 ^ depth)
  live : ∀ upper (inStack : upper < maxDepth), depth ≤ upper → Live seeds index upper accum[upper]
  result_eq : result = if depth = 0 then previous else treeAt seeds depth (index / 3 ^ depth)

/-- Every stack is made of zero seeds. -/
theorem stacked_zero (accum : Stack T) : Stacked seeds 0 accum := by
  intro depth inStack slot inRow counted
  simp at counted

/-- Every row is live below a depth whose block the seed ends: the new count
has no completed third there. -/
theorem live_of_lt {index depth lower : Nat} (ends : 3 ^ depth ∣ index + 1) (below : lower < depth)
    (row : Vector T 3) : Live seeds (index + 1) lower row := by
  intro slot inRow counted
  rw [succ_div_pow_mod_of_lt ends below] at counted
  omega

namespace Carrying

variable {seeds} {index depth : Nat} {accum : Stack T} {result previous : T}
  (carrying : Carrying seeds index depth accum result previous)
include carrying

/-- The three slots of the depth's row hold the thirds of the block one depth
up when the seed completes that triple. -/
theorem subMix_eq (inStack : depth < maxDepth) (completes : index / 3 ^ depth % 3 = 2) :
    subMix accum[depth] = treeAt seeds (depth + 1) (index / 3 ^ (depth + 1)) := by
  -- the first two thirds were live before the seed, the last is the seed's own block
  have first := carrying.live depth inStack le_rfl 0 (by decide) (by omega)
  have second := carrying.live depth inStack le_rfl 1 (by decide) (by omega)
  have third : accum[depth][2] = treeAt seeds depth (index / 3 ^ depth) := by
    simpa only [completes] using carrying.current
  have thirds : index / 3 ^ depth - index / 3 ^ depth % 3 = 3 * (index / 3 ^ depth / 3) := by omega
  rw [thirds] at first second
  have last : index / 3 ^ depth = 3 * (index / 3 ^ depth / 3) + 2 := by omega
  rw [last] at third
  rw [treeAt_succ, div_pow_succ]
  simp only [subMix, first, second, third, Nat.add_zero]
  rfl

/-- A seed that ends no block one depth up leaves every row live after it. -/
theorem stacked_of_stop (stops : index / 3 ^ depth % 3 ≠ 2) : Stacked seeds (index + 1) accum := by
  have counted : (index + 1) / 3 ^ depth = index / 3 ^ depth + 1 := Nat.succ_div_of_dvd carrying.ends
  have notDeeper : ¬ 3 ^ (depth + 1) ∣ index + 1 := fun deeper =>
    stops ((pow_succ_dvd_iff carrying.ends).mp deeper)
  intro upper inStack
  rcases Nat.lt_trichotomy upper depth with below | same | above
  · exact live_of_lt seeds carrying.ends below _
  · -- the depth's row has gained the seed's block after its earlier thirds
    subst upper
    intro slot inRow live
    rw [counted] at live
    rw [counted, succ_sub_mod_of_ne stops]
    by_cases earlier : slot < index / 3 ^ depth % 3
    · exact carrying.live depth carrying.inStack le_rfl slot inRow earlier
    · obtain rfl : slot = index / 3 ^ depth % 3 := by omega
      rw [carrying.current, Nat.sub_add_cancel (Nat.mod_le _ _)]
  · -- no block above the depth ended, so the rows above count as before
    have same := succ_div_pow_of_not_dvd notDeeper above
    intro slot inRow live
    rw [same] at live ⊢
    exact carrying.live upper inStack above.le slot inRow live

/-- A seed that ends no block one depth up returns the tree of the deepest
block it ends, or leaves the result alone when it ends no triple. -/
theorem result_of_stop (stops : index / 3 ^ depth % 3 ≠ 2)
    (previousEq : previous = lastTree seeds index) : result = lastTree seeds (index + 1) := by
  have notDeeper : ¬ 3 ^ (depth + 1) ∣ index + 1 := fun deeper =>
    stops ((pow_succ_dvd_iff carrying.ends).mp deeper)
  rw [carrying.result_eq]
  split_ifs with bottom
  · subst bottom
    have short : ¬ 3 ∣ index + 1 := by simpa using notDeeper
    rw [lastTree_of_not_dvd seeds short, previousEq]
  · rw [lastTree_of_dvd seeds (Nat.pos_of_ne_zero bottom) carrying.inStack.le carrying.ends
      (.inr notDeeper)]

/-- At the top of the stack every row is live after the seed: the seed ends the
blocks of every depth. -/
theorem stacked_of_top (completes : index / 3 ^ depth % 3 = 2) (top : depth = maxDepth - 1) :
    Stacked seeds (index + 1) accum := by
  have deeper : 3 ^ (depth + 1) ∣ index + 1 := (pow_succ_dvd_iff carrying.ends).mpr completes
  intro upper inStack
  exact live_of_lt seeds deeper (by omega) _

/-- At the top of the stack the result is the tree of the deepest block, the
one of `3 ^ MAX_DEPTH` seeds. -/
theorem result_of_top (inStack : depth < maxDepth) (completes : index / 3 ^ depth % 3 = 2)
    (top : depth = maxDepth - 1) : subMix accum[depth] = lastTree seeds (index + 1) := by
  have deeper : 3 ^ (depth + 1) ∣ index + 1 := (pow_succ_dvd_iff carrying.ends).mpr completes
  rw [carrying.subMix_eq inStack completes,
    lastTree_of_dvd seeds (by omega) (by omega) deeper (.inl (by omega))]

/-- Below the top of the stack, the loop carries the mixed triple one depth up. -/
theorem up (inStack : depth < maxDepth) (completes : index / 3 ^ depth % 3 = 2)
    (upStack : depth + 1 < maxDepth) :
    Carrying seeds index (depth + 1)
      (accum.set (depth + 1) (accum[depth + 1].set (index / 3 ^ depth / 3 % 3) (subMix accum[depth])))
      (subMix accum[depth]) previous := by
  have deeper : 3 ^ (depth + 1) ∣ index + 1 := (pow_succ_dvd_iff carrying.ends).mpr completes
  have mixed := carrying.subMix_eq inStack completes
  have split := div_pow_succ index depth
  refine ⟨upStack, deeper, ?_, ?_, ?_⟩
  · simp only [Vector.getElem_set_self, ← split, mixed]
  · intro upper inUpper above slot inRow live
    rcases Nat.eq_or_lt_of_le above with same | higher
    · -- the row one depth up keeps its earlier thirds
      subst same
      rw [Vector.getElem_set_self, Vector.getElem_set_ne _ _ (by omega)]
      exact carrying.live (depth + 1) inUpper (by omega) slot inRow live
    · rw [Vector.getElem_set_ne _ _ (by omega)]
      exact carrying.live upper inUpper (by omega) slot inRow live
  · rw [if_neg (Nat.succ_ne_zero depth), mixed]

end Carrying

/-- The inner loop from a depth it enters ends with every row live, and the
result the tree `triplet_mix` returns after the seed; by induction along the
loop. -/
theorem carry_spec {index : Nat} {previous : T} (previousEq : previous = lastTree seeds index)
    (accum : Stack T) (result : T) (indexAtDepth depth : Nat)
    (carrying : Carrying seeds index depth accum result previous)
    (indexEq : indexAtDepth = index / 3 ^ depth) :
    Stacked seeds (index + 1) (carry accum result indexAtDepth depth).1 ∧
      (carry accum result indexAtDepth depth).2 = lastTree seeds (index + 1) := by
  fun_induction carry accum result indexAtDepth depth with
  | case1 accum result indexAtDepth depth inStack stops =>
      subst indexEq
      exact ⟨carrying.stacked_of_stop stops, carrying.result_of_stop stops previousEq⟩
  | case2 accum result indexAtDepth completes inStack =>
      subst indexEq
      have completes : index / 3 ^ (maxDepth - 1) % 3 = 2 := by omega
      exact ⟨carrying.stacked_of_top completes rfl, carrying.result_of_top inStack completes rfl⟩
  | case3 accum result indexAtDepth depth inStack completes nextIndex mixed notTop upStack ih =>
      subst indexEq
      have completes : index / 3 ^ depth % 3 = 2 := by omega
      exact ih (carrying.up inStack completes upStack) (div_pow_succ index depth).symm
  | case4 accum result indexAtDepth depth outside => exact absurd carrying.inStack outside

/-- One seed of the outer loop keeps the stack and the result as
`triplet_mix` has them after it. -/
theorem step_spec {index : Nat} (inList : index < seeds.length) {state : Stack T × T}
    (stacked : Stacked seeds index state.1) (resultEq : state.2 = lastTree seeds index) :
    Stacked seeds (index + 1) (step state (seeds[index], index)).1 ∧
      (step state (seeds[index], index)).2 = lastTree seeds (index + 1) := by
  refine carry_spec seeds resultEq _ _ index 0 ⟨by decide, by simp, ?_, ?_, ?_⟩ (by simp)
  · simp only [pow_zero, Nat.div_one, Vector.getElem_set_self, treeAt_zero seeds inList]
  · -- the seed's slot at depth 0 is the only one written
    intro upper inStack _ slot inRow live
    rcases Nat.eq_zero_or_pos upper with bottom | higher
    · subst bottom
      simp only [pow_zero, Nat.div_one] at live
      rw [Vector.getElem_set_self, Vector.getElem_set_ne _ _ (by omega)]
      exact stacked 0 inStack slot inRow (by simpa using live)
    · rw [Vector.getElem_set_ne _ _ (by omega)]
      exact stacked upper inStack slot inRow live
  · rfl

/-- The outer loop over the first `count` seeds keeps the stack and the result
as `triplet_mix` has them; by induction on the count. -/
theorem foldl_step_spec (count : Nat) (inList : count ≤ seeds.length) :
    Stacked seeds count ((seeds.zipIdx.take count).foldl step
        (Vector.replicate maxDepth (Vector.replicate 3 default), default)).1 ∧
      ((seeds.zipIdx.take count).foldl step
        (Vector.replicate maxDepth (Vector.replicate 3 default), default)).2 = lastTree seeds count := by
  induction count with
  | zero => exact ⟨stacked_zero seeds _, lastTree_zero seeds⟩
  | succ count ih =>
      have inZip : count < seeds.zipIdx.length := by simpa using inList
      have next : seeds.zipIdx[count] = (seeds[count], count) := by simp
      obtain ⟨stacked, resultEq⟩ := ih (by omega)
      rw [List.take_add_one, List.getElem?_eq_getElem inZip, next, Option.toList_some,
        List.foldl_append, List.foldl_cons, List.foldl_nil]
      exact step_spec seeds (by omega) stacked resultEq

/-- `triplet_mix` returns the deepest tree that ends with the last completed
triple of its seeds. -/
theorem tripletMix_eq_lastTree : tripletMix seeds = lastTree seeds seeds.length := by
  have whole := (foldl_step_spec seeds seeds.length le_rfl).2
  rwa [List.take_of_length_le (by simp)] at whole

/-- Below three seeds no triple completes. -/
theorem lastTree_of_lt_three {count : Nat} (short : count < 3) : lastTree seeds count = default := by
  simp [lastTree, Nat.div_eq_of_lt short]

/-- Over exactly `3 ^ depth` seeds, with `1 ≤ depth ≤ MAX_DEPTH`, the last
completed triple ends the whole tree. -/
theorem lastTree_of_length_pow {depth : Nat} (positive : 0 < depth) (inStack : depth ≤ maxDepth)
    (length : seeds.length = 3 ^ depth) : lastTree seeds seeds.length = maj depth seeds := by
  have whole : 3 ^ depth = 3 ^ depth - 1 + 1 := (Nat.sub_add_cancel (Nat.one_le_pow _ _ (by decide))).symm
  have notDeeper : ¬ 3 ^ (depth + 1) ∣ 3 ^ depth - 1 + 1 := by
    rw [← whole, Nat.pow_dvd_pow_iff_le_right (by decide)]
    omega
  rw [length, whole, lastTree_of_dvd seeds positive inStack (whole ▸ dvd_rfl) (.inr notDeeper),
    Nat.div_eq_of_lt (Nat.sub_lt (by positivity) (by decide)), treeAt_zero_of_length seeds length]

/-- What `triplet_mix` returns: the deepest tree, up to `MAX_DEPTH`, that ends
with the last completed triple of its seeds.  So `T::default()` below three
seeds, and the whole majority tree over exactly `3 ^ k` seeds for
`1 ≤ k ≤ MAX_DEPTH`, as in `calculate_random` over its 81 hashes; over other
lengths a later complete triple overwrites the tree of the first `3 ^ k`. -/
theorem tripletMix_mixes_last_triple :
    (∀ seeds : List T, tripletMix seeds = lastTree seeds seeds.length) ∧
      (∀ seeds : List T, seeds.length < 3 → tripletMix seeds = default) ∧
      (∀ (seeds : List T) (k : Nat), 1 ≤ k → k ≤ maxDepth → seeds.length = 3 ^ k →
        tripletMix seeds = maj k seeds) ∧
      ∀ (blockHash : Nat → T) (blockNumber : Nat), 0 < blockNumber →
        calculateRandom blockHash blockNumber =
          some (maj 4 ((scanDown (blockNumber - 1) 81).map blockHash)) := by
  have powers : ∀ (seeds : List T) (k : Nat), 1 ≤ k → k ≤ maxDepth → seeds.length = 3 ^ k →
      tripletMix seeds = maj k seeds := fun seeds k positive inStack length => by
    rw [tripletMix_eq_lastTree, lastTree_of_length_pow seeds positive inStack length]
  refine ⟨tripletMix_eq_lastTree, fun seeds short => ?_, powers, fun blockHash blockNumber started => ?_⟩
  · rw [tripletMix_eq_lastTree, lastTree_of_lt_three seeds short]
  · -- the scan yields 81 block numbers, three to the fourth
    have length : ((scanDown (blockNumber - 1) 81).map blockHash).length = 3 ^ 4 := by
      rw [List.length_map, length_scanDown]
      rfl
    rw [calculateRandom, if_pos started, powers _ 4 (by decide) (by decide) length]

/-- Six seeds: the triple of the last three overwrites the tree of the first
three, which the documentation of `TripletMix` says is returned; over nine
seeds and over the 81 hashes of `calculate_random` the whole tree is returned. -/
theorem tripletMix_overwrites_first_triple :
    tripletMix ([0, 0, 0, 1, 1, 1] : List Nat) = 1 ∧
      maj 1 (([0, 0, 0, 1, 1, 1] : List Nat).take 3) = 0 ∧
      tripletMix ([0, 1] : List Nat) = 0 ∧
      tripletMix ([0, 1, 1, 1, 0, 0, 1, 0, 1] : List Nat) = 1 ∧
      calculateRandom (fun number : Nat => number) 100 =
        some (maj 4 ((scanDown 99 81).map fun number => number)) :=
  ⟨(tripletMix_mixes_last_triple.1 _).trans
      ((lastTree_of_dvd _ (by decide : 0 < 1) (by decide) (by decide : 3 ^ 1 ∣ 5 + 1)
        (.inr (by decide))).trans (by decide)),
    by decide,
    tripletMix_mixes_last_triple.2.1 _ (by decide),
    (tripletMix_mixes_last_triple.2.2.1 _ 2 (by decide) (by decide) rfl).trans (by decide),
    tripletMix_mixes_last_triple.2.2.2 _ 100 (by decide)⟩

end SafeMix
end Polkadot
