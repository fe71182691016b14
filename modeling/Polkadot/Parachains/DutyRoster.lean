import Polkadot.Codec.Parachain
import Polkadot.Foundations.Fold
import Polkadot.Foundations.MapWrites

/-!
# The duty roster

`Module::calculate_duty_roster` in `polkadot/runtime/src/parachains.rs` gives
each session validator a chain to validate and a chain to guarantee.  The roles
start as `(n - 1) / p` validators for each of the `p` active parachains, in
order, and the relay chain for the rest.  Then a Fisher-Yates loop, driven by
the block's random seed, swaps them about, one round for each validator but the
last.  `make_group_info` in `polkadot/consensus/src/lib.rs` reads a roster into
the group of each parachain.

With no validator, `validator_count - 1` underflows and the roster panics
(`calculateDutyRoster_eq_none_iff`).  Otherwise every round swaps two roles, so
both duties are permutations of the initial roles, whatever the seed and the
hash (`calculateDutyRoster_perm`).  Each parachain then holds `(n - 1) / p`
roles of each kind for each time it is listed, and the relay chain the rest.
-/

namespace Polkadot
namespace Parachains

open Foundations (Bytes decodeLE)
open Parachain (Id Chain DutyRoster)
open Primitives (H256)

/-- `usize` subtraction with the overflow check of a debug build: an underflow
panics.  A release build wraps instead, and with no validator the wrapped
count of rounds then panics in its first round on `% remaining` with
`remaining = 0`. -/
def usizeSub (x y : Nat) : Option Nat := if y ≤ x then some (x - y) else none

/-- The roles before the shuffle: validator `i` takes the parachain at
`i / validators_per_parachain` while `i < parachain_count *
validators_per_parachain`, and the relay chain after.  The indexing panics out
of bounds. -/
def initialRoles (parachains : List Id) (validatorCount validatorsPerParachain : Nat) :
    Option (List Chain) :=
  (List.range validatorCount).mapM fun i =>
    if i < parachains.length * validatorsPerParachain then
      (parachains[i / validatorsPerParachain]?).map Chain.parachain
    else some Chain.relay

/-- `u32::decode` of the four bytes of the seed from an offset, whose
`expect` panics when they do not decode. -/
def seedWord (seed : Vector UInt8 32) (offset : Nat) : Option Nat :=
  (decodeLE 4 ((seed.toList.drop offset).take 4)).map Prod.fst

/-- `Vec::swap`, which panics on an index out of bounds. -/
def swapRoles (roles : Array Chain) (a b : Nat) : Option (Array Chain) :=
  if inBounds : a < roles.size ∧ b < roles.size then some (roles.swap a b inBounds.1 inBounds.2)
  else none

/-- The state of the shuffle: the roles to validate, the roles to guarantee,
and the seed. -/
structure Shuffle where
  rolesVal : Array Chain
  rolesGua : Array Chain
  seed : Vector UInt8 32

/-- Round `i` of the shuffle: eight bytes of the seed pick the two roles that
trade places with the last of the `remaining` ones, and the seed is hashed
again once its last eight bytes are used.  In every round `remaining` is at
least two, so neither `% remaining` nor `remaining - 1` can fail. -/
def shuffleRound (blake2_256 : Bytes → Vector UInt8 32) (validatorCount : Nat) (state : Shuffle)
    (i : Nat) : Option Shuffle := do
  let offset := i * 8 % 32
  let remaining := validatorCount - i
  let valIndex := (← seedWord state.seed offset) % remaining
  let guaIndex := (← seedWord state.seed (offset + 4)) % remaining
  let seed := if offset = 24 then blake2_256 state.seed.toList else state.seed
  let rolesVal ← swapRoles state.rolesVal (remaining - 1) valIndex
  let rolesGua ← swapRoles state.rolesGua (remaining - 1) guaIndex
  pure { rolesVal, rolesGua, seed }

/-- The bytes `b"validator_role_pairs"` the random seed is joined with. -/
def rolePairsTag : Bytes := "validator_role_pairs".toUTF8.toList

/-- `calculate_duty_roster`, for the active parachains, `validator_count()` and
the block's random seed, with `blake2_256` as a parameter. -/
def calculateDutyRoster (blake2_256 : Bytes → Vector UInt8 32) (parachains : List Id)
    (validatorCount : Nat) (randomSeed : H256) : Option DutyRoster := do
  let parachainCount := parachains.length
  let validatorsPerParachain ←
    if parachainCount ≠ 0 then (usizeSub validatorCount 1).map (· / parachainCount) else some 0
  let rolesVal := (← initialRoles parachains validatorCount validatorsPerParachain).toArray
  let seed := blake2_256 (randomSeed.bytes.toList ++ rolePairsTag)
  let rounds ← usizeSub validatorCount 1
  let shuffled ← (List.range rounds).foldlM (shuffleRound blake2_256 validatorCount)
    { rolesVal, rolesGua := rolesVal, seed }
  pure { validatorDuty := shuffled.rolesVal.toList, guarantorDuty := shuffled.rolesGua.toList }

/-- The roles the roster is a permutation of: `(n - 1) / p` for each listed
parachain, in order, and the relay chain for the rest. -/
def balancedRoles (parachains : List Id) (validatorCount : Nat) : List Chain :=
  let perParachain := (validatorCount - 1) / parachains.length
  (parachains.flatMap fun id => List.replicate perParachain (Chain.parachain id)) ++
    List.replicate (validatorCount - parachains.length * perParachain) Chain.relay

/-! ## The initial roles -/

/-- The roles before the shuffle are a block of roles for each parachain, in
order, and the relay chain after, when the blocks fit among the validators. -/
theorem initialRoles_eq {parachains : List Id} {validatorCount perParachain : Nat}
    (fits : parachains.length * perParachain ≤ validatorCount) :
    initialRoles parachains validatorCount perParachain =
      some ((parachains.flatMap fun id => List.replicate perParachain (Chain.parachain id)) ++
        List.replicate (validatorCount - parachains.length * perParachain) Chain.relay) := by
  -- the role of each validator, with the parachain's index always in bounds
  let role : Nat → Chain := fun i =>
    if i < parachains.length * perParachain then
      Chain.parachain ((parachains[i / perParachain]?).getD ⟨0⟩)
    else Chain.relay
  have agree : ∀ i ∈ List.range validatorCount,
      (if i < parachains.length * perParachain then
          (parachains[i / perParachain]?).map Chain.parachain
        else some Chain.relay) = some (role i) := by
    intro i _
    by_cases inBlocks : i < parachains.length * perParachain
    · have inBounds : i / perParachain < parachains.length :=
        Nat.div_lt_of_lt_mul (by rwa [Nat.mul_comm] at inBlocks)
      simp [role, inBlocks, List.getElem?_eq_getElem inBounds]
    · simp [role, inBlocks]
  rw [initialRoles, Foundations.mapM_eq_some_map agree, Option.some.injEq]
  obtain ⟨rest, split⟩ : ∃ rest, validatorCount = parachains.length * perParachain + rest :=
    ⟨validatorCount - parachains.length * perParachain, by omega⟩
  rw [split, List.range_add, List.map_append, Nat.add_sub_cancel_left]
  congr 1
  · -- the blocks: position `i` reads the parachain at `i / perParachain`
    have blocks := Foundations.map_range_mul_div parachains perParachain
    calc (List.range (parachains.length * perParachain)).map role
        = ((List.range (parachains.length * perParachain)).map
            fun i => parachains[i / perParachain]?).map
              fun read => Chain.parachain (read.getD ⟨0⟩) := by
          rw [List.map_map]
          refine List.map_congr_left fun i member => ?_
          simp [role, List.mem_range.mp member]
      _ = parachains.flatMap fun id => List.replicate perParachain (Chain.parachain id) := by
          rw [blocks, List.map_map, List.map_flatMap]
          simp [List.map_replicate]
  · -- past the blocks every validator is on the relay chain
    rw [List.map_map, List.eq_replicate_iff]
    refine ⟨by simp, fun chain member => ?_⟩
    obtain ⟨j, -, rfl⟩ := List.mem_map.mp member
    simp [role]

/-- The balanced roles are one per validator. -/
theorem length_balancedRoles (parachains : List Id) (validatorCount : Nat) :
    (balancedRoles parachains validatorCount).length = validatorCount := by
  have fits : parachains.length * ((validatorCount - 1) / parachains.length) ≤ validatorCount :=
    (Nat.mul_div_le _ _).trans (Nat.sub_le _ _)
  simp [balancedRoles, List.length_flatMap]
  omega

/-! ## The shuffle -/

/-- A swap of two roles permutes them. -/
theorem swapRoles_perm {roles next : Array Chain} {a b : Nat}
    (swapped : swapRoles roles a b = some next) : next.toList.Perm roles.toList := by
  unfold swapRoles at swapped
  split_ifs at swapped with inBounds
  cases swapped
  exact Array.perm_iff_toList_perm.mp (Array.swap_perm inBounds.1 inBounds.2)

/-- A swap of two roles inside the array succeeds. -/
theorem swapRoles_of_lt {roles : Array Chain} {a b : Nat} (inA : a < roles.size)
    (inB : b < roles.size) : swapRoles roles a b = some (roles.swap a b inA inB) :=
  dif_pos ⟨inA, inB⟩

/-- Four bytes inside the seed read as a word. -/
theorem seedWord_isSome (seed : Vector UInt8 32) {offset : Nat} (fits : offset + 4 ≤ 32) :
    ∃ word, seedWord seed offset = some word := by
  have present : 4 ≤ 32 - offset := by omega
  simp [seedWord, decodeLE, Foundations.decoder_map_apply, Foundations.readBytes, present]

variable {blake2_256 : Bytes → Vector UInt8 32} {validatorCount : Nat}

/-- A round of the shuffle swaps two roles of each kind. -/
theorem shuffleRound_perm {state next : Shuffle} {i : Nat}
    (round : shuffleRound blake2_256 validatorCount state i = some next) :
    next.rolesVal.toList.Perm state.rolesVal.toList ∧
      next.rolesGua.toList.Perm state.rolesGua.toList := by
  unfold shuffleRound at round
  simp only [bind, Option.bind_eq_some_iff] at round
  obtain ⟨_, -, _, -, rolesVal, swappedVal, rolesGua, swappedGua, made⟩ := round
  cases made
  exact ⟨swapRoles_perm swappedVal, swapRoles_perm swappedGua⟩

/-- A round with at least two roles left and the rosters of the full size
succeeds: the seed has the bytes it reads, and both indices are in bounds. -/
theorem shuffleRound_isSome {state : Shuffle} {i : Nat}
    (sizeVal : state.rolesVal.size = validatorCount) (sizeGua : state.rolesGua.size = validatorCount)
    (early : i + 1 < validatorCount) :
    ∃ next, shuffleRound blake2_256 validatorCount state i = some next := by
  -- the two words sit among the first 32 bytes, since the offset is at most 24
  obtain ⟨valWord, valRead⟩ := seedWord_isSome state.seed (show i * 8 % 32 + 4 ≤ 32 by omega)
  obtain ⟨guaWord, guaRead⟩ := seedWord_isSome state.seed (show i * 8 % 32 + 4 + 4 ≤ 32 by omega)
  have positive : 0 < validatorCount - i := by omega
  have valIn : valWord % (validatorCount - i) < state.rolesVal.size := by
    rw [sizeVal]
    exact (Nat.mod_lt _ positive).trans_le (Nat.sub_le _ _)
  have guaIn : guaWord % (validatorCount - i) < state.rolesGua.size := by
    rw [sizeGua]
    exact (Nat.mod_lt _ positive).trans_le (Nat.sub_le _ _)
  simp only [shuffleRound, bind, Option.bind_eq_some_iff]
  exact ⟨_, valWord, valRead, guaWord, guaRead, _, swapRoles_of_lt (by omega) valIn, _,
    swapRoles_of_lt (by omega) guaIn, rfl⟩

/-- The whole shuffle succeeds and leaves permutations of the roles it starts
from. -/
theorem shuffle_perm (roles : List Chain) (length : roles.length = validatorCount)
    (seed : Vector UInt8 32) :
    ∃ final, (List.range (validatorCount - 1)).foldlM (shuffleRound blake2_256 validatorCount)
        { rolesVal := roles.toArray, rolesGua := roles.toArray, seed } = some final ∧
      final.rolesVal.toList.Perm roles ∧ final.rolesGua.toList.Perm roles := by
  -- the invariant of the loop: both rosters are permutations of the roles
  refine Foundations.foldlM_some_of_invariant
    (fun state : Shuffle => state.rolesVal.toList.Perm roles ∧ state.rolesGua.toList.Perm roles)
    ⟨by simp, by simp⟩ fun state i member ⟨val, gua⟩ => ?_
  have early : i + 1 < validatorCount := by
    have := List.mem_range.mp member
    omega
  obtain ⟨next, round⟩ : ∃ next, shuffleRound blake2_256 validatorCount state i = some next :=
    shuffleRound_isSome (by rw [← Array.length_toList, val.length_eq, length])
      (by rw [← Array.length_toList, gua.length_eq, length]) early
  obtain ⟨nextVal, nextGua⟩ := shuffleRound_perm round
  exact ⟨next, round, nextVal.trans val, nextGua.trans gua⟩

/-! ## The roster -/

/-- With no validator, `validator_count - 1` underflows. -/
theorem calculateDutyRoster_zero (parachains : List Id) (randomSeed : H256) :
    calculateDutyRoster blake2_256 parachains 0 randomSeed = none := by
  by_cases empty : parachains.length = 0
  · simp [calculateDutyRoster, empty, initialRoles, usizeSub]
  · simp [calculateDutyRoster, empty, usizeSub]

/-- With validators, the roster is a permutation of the balanced roles in each
duty, whatever the seed and the hash. -/
theorem calculateDutyRoster_perm (parachains : List Id) (randomSeed : H256)
    (positive : 0 < validatorCount) :
    ∃ roster, calculateDutyRoster blake2_256 parachains validatorCount randomSeed = some roster ∧
      roster.validatorDuty.Perm (balancedRoles parachains validatorCount) ∧
      roster.guarantorDuty.Perm (balancedRoles parachains validatorCount) := by
  have fits : parachains.length * ((validatorCount - 1) / parachains.length) ≤ validatorCount :=
    (Nat.mul_div_le _ _).trans (Nat.sub_le _ _)
  have initial : initialRoles parachains validatorCount ((validatorCount - 1) / parachains.length) =
      some (balancedRoles parachains validatorCount) := initialRoles_eq fits
  have rounds : usizeSub validatorCount 1 = some (validatorCount - 1) := if_pos positive
  obtain ⟨final, shuffled, val, gua⟩ :
      ∃ final, (List.range (validatorCount - 1)).foldlM (shuffleRound blake2_256 validatorCount)
          { rolesVal := (balancedRoles parachains validatorCount).toArray,
            rolesGua := (balancedRoles parachains validatorCount).toArray,
            seed := blake2_256 (randomSeed.bytes.toList ++ rolePairsTag) } = some final ∧
        final.rolesVal.toList.Perm (balancedRoles parachains validatorCount) ∧
        final.rolesGua.toList.Perm (balancedRoles parachains validatorCount) :=
    shuffle_perm _ (length_balancedRoles _ _) _
  refine ⟨⟨final.rolesVal.toList, final.rolesGua.toList⟩, ?_, val, gua⟩
  -- either way the roles are the balanced ones: with no parachain, none is in a block
  simp only [calculateDutyRoster]
  split_ifs with listed
  · simp only [rounds, Option.map_some, bind, Option.bind_some, initial, shuffled]
    rfl
  · have zero : (validatorCount - 1) / parachains.length = 0 := by simp [not_not.mp listed]
    rw [zero] at initial
    simp only [rounds, bind, Option.bind_some, initial, shuffled]
    rfl

/-- Each parachain gets the same number of validators in the balanced roles. -/
theorem count_parachain_balancedRoles (parachains : List Id) (validatorCount : Nat) (id : Id) :
    (balancedRoles parachains validatorCount).count (.parachain id) =
      parachains.count id * ((validatorCount - 1) / parachains.length) := by
  have listed : (parachains.map Chain.parachain).count (.parachain id) = parachains.count id :=
    List.count_map_of_injective _ _ (fun _ _ same => Chain.parachain.inj same) id
  simp only [balancedRoles, List.count_append,
    Foundations.count_flatMap_replicate Chain.parachain, listed, List.count_replicate]
  simp

/-- The relay chain gets the validators the parachains leave. -/
theorem count_relay_balancedRoles (parachains : List Id) (validatorCount : Nat) :
    (balancedRoles parachains validatorCount).count .relay =
      validatorCount - parachains.length * ((validatorCount - 1) / parachains.length) := by
  have unlisted : (parachains.map Chain.parachain).count .relay = 0 :=
    List.count_eq_zero.mpr (by simp)
  simp only [balancedRoles, List.count_append,
    Foundations.count_flatMap_replicate Chain.parachain, unlisted, List.count_replicate]
  simp

/-- The roles of the source's `duty_roster_works`: two parachains and eight
validators. -/
example : balancedRoles [⟨0⟩, ⟨1⟩] 8 =
    [.parachain ⟨0⟩, .parachain ⟨0⟩, .parachain ⟨0⟩, .parachain ⟨1⟩, .parachain ⟨1⟩,
      .parachain ⟨1⟩, .relay, .relay] := by decide

/-! ## The groups of a roster -/

/-- `GroupInfo` of `polkadot/consensus`: who checks the validity and the
availability of a parachain's candidates, and how many votes of each it needs. -/
structure GroupInfo (AuthorityId : Type) where
  validityGuarantors : Finset AuthorityId
  availabilityGuarantors : Finset AuthorityId
  neededValidity : Nat
  neededAvailability : Nat

/-- `GroupInfo::default`. -/
def GroupInfo.empty {AuthorityId : Type} : GroupInfo AuthorityId := ⟨∅, ∅, 0, 0⟩

/-- `LocalDuty`: the chain the local validator validates. -/
structure LocalDuty where
  validation : Chain

/-- The errors of `make_group_info`. -/
inductive GroupInfoError (AuthorityId : Type) where
  | invalidDutyRosterLength (expected got : Nat)
  | notValidator (id : AuthorityId)

section Groups

variable {AuthorityId : Type} [DecidableEq AuthorityId]

/-- The groups of the parachains, by id. -/
abbrev Groups (AuthorityId : Type) := AList fun _ : Id => GroupInfo AuthorityId

/-- `map.entry(id).or_insert_with(GroupInfo::default)`, then changed. -/
def updateGroup (groups : Groups AuthorityId) (id : Id)
    (update : GroupInfo AuthorityId → GroupInfo AuthorityId) : Groups AuthorityId :=
  groups.insert id (update ((groups.lookup id).getD GroupInfo.empty))

/-- One authority of the loop of `make_group_info`: the local validator's duty
is noted, and the authority joins the validity group of the chain it
validates and the availability group of the one it guarantees. -/
def assignDuties (localId : AuthorityId) (state : Option Chain × Groups AuthorityId)
    (duty : (AuthorityId × Chain) × Chain) : Option Chain × Groups AuthorityId :=
  let ((authority, vDuty), aDuty) := duty
  let localValidation := if authority = localId then some vDuty else state.1
  let groups :=
    match vDuty with
    | .relay => state.2
    | .parachain id => updateGroup state.2 id fun group =>
        { group with validityGuarantors := insert authority group.validityGuarantors }
  let groups :=
    match aDuty with
    | .relay => groups
    | .parachain id => updateGroup groups id fun group =>
        { group with availabilityGuarantors := insert authority group.availabilityGuarantors }
  (localValidation, groups)

/-- What `values_mut` sets of each group: half of each set, rounded up. -/
def setNeeded (group : GroupInfo AuthorityId) : GroupInfo AuthorityId :=
  { group with
    neededValidity := group.validityGuarantors.card / 2 + group.validityGuarantors.card % 2
    neededAvailability :=
      group.availabilityGuarantors.card / 2 + group.availabilityGuarantors.card % 2 }

/-- `make_group_info`: the groups of a roster for the authorities in order, and
the local validator's duty. -/
def makeGroupInfo (roster : DutyRoster) (authorities : List AuthorityId) (localId : AuthorityId) :
    Except (GroupInfoError AuthorityId) (Groups AuthorityId × LocalDuty) :=
  if roster.validatorDuty.length ≠ authorities.length then
    .error (.invalidDutyRosterLength authorities.length roster.validatorDuty.length)
  else if roster.guarantorDuty.length ≠ authorities.length then
    .error (.invalidDutyRosterLength authorities.length roster.guarantorDuty.length)
  else
    let assigned := ((authorities.zip roster.validatorDuty).zip roster.guarantorDuty).foldl
      (assignDuties localId) (none, ∅)
    let groups := assigned.2.entries.foldl (fun done group => done.insert group.1 (setNeeded group.2)) ∅
    match assigned.1 with
    | some validation => .ok (groups, ⟨validation⟩)
    | none => .error (.notValidator localId)

/-- Every group `make_group_info` returns needs half of its validity
guarantors, rounded up. -/
theorem neededValidity_of_makeGroupInfo {roster : DutyRoster} {authorities : List AuthorityId}
    {localId : AuthorityId} {groups : Groups AuthorityId} {duty : LocalDuty}
    (made : makeGroupInfo roster authorities localId = .ok (groups, duty)) {id : Id}
    {group : GroupInfo AuthorityId} (found : groups.lookup id = some group) :
    group.neededValidity = (group.validityGuarantors.card + 1) / 2 := by
  unfold makeGroupInfo at made
  split_ifs at made
  dsimp only at made
  generalize ((authorities.zip roster.validatorDuty).zip roster.guarantorDuty).foldl
    (assignDuties localId) (none, ∅) = assigned at made
  obtain ⟨localValidation, assignedGroups⟩ := assigned
  cases localValidation with
  | none => cases made
  | some validation =>
      obtain ⟨rfl, -⟩ := Prod.mk.inj (Except.ok.inj made)
      -- the groups returned are the assigned ones with their counts set
      have counted : (assignedGroups.entries.foldl
          (fun (done : Groups AuthorityId) group => done.insert group.1 (setNeeded group.2))
            ∅).lookup id =
          (assignedGroups.lookup id).elim ((∅ : Groups AuthorityId).lookup id)
            fun assigned => some (setNeeded assigned) :=
        Foundations.lookup_foldl_write_entries (Foundations.writesKey_insert setNeeded)
          assignedGroups ∅ id
      rw [found] at counted
      cases lookup : assignedGroups.lookup id with
      | none => simp [lookup] at counted
      | some assigned =>
          rw [lookup] at counted
          obtain rfl := Option.some.inj counted
          simp only [setNeeded]
          omega

end Groups

/-! ## The roster, for every count of validators -/

/-- For every list of active parachains, count of validators, seed and hash, the
roster panics exactly when there is no validator, where `validator_count - 1`
underflows.  Otherwise both duties have a role for each validator: each
parachain has `(n - 1) / p` roles for each time it is listed, and the relay
chain has the rest.  Every group that `make_group_info` reads from the roster
needs half of its validity guarantors, rounded up. -/
theorem calculateDutyRoster_balanced (blake2_256 : Bytes → Vector UInt8 32) (parachains : List Id)
    (validatorCount : Nat) (randomSeed : H256) :
    (calculateDutyRoster blake2_256 parachains validatorCount randomSeed = none ↔
        validatorCount = 0) ∧
      ∀ roster, calculateDutyRoster blake2_256 parachains validatorCount randomSeed = some roster →
        roster.validatorDuty.length = validatorCount ∧
        roster.guarantorDuty.length = validatorCount ∧
        (∀ id, roster.validatorDuty.count (.parachain id) =
            parachains.count id * ((validatorCount - 1) / parachains.length) ∧
          roster.guarantorDuty.count (.parachain id) =
            parachains.count id * ((validatorCount - 1) / parachains.length)) ∧
        roster.validatorDuty.count .relay =
          validatorCount - parachains.length * ((validatorCount - 1) / parachains.length) ∧
        roster.guarantorDuty.count .relay =
          validatorCount - parachains.length * ((validatorCount - 1) / parachains.length) ∧
        ∀ {AuthorityId : Type} [DecidableEq AuthorityId] (authorities : List AuthorityId)
          (localId : AuthorityId) (groups : Groups AuthorityId) (duty : LocalDuty),
          makeGroupInfo roster authorities localId = .ok (groups, duty) →
            ∀ id group, groups.lookup id = some group →
              group.neededValidity = (group.validityGuarantors.card + 1) / 2 := by
  refine ⟨⟨fun panicked => ?_, fun zero => zero ▸ calculateDutyRoster_zero parachains randomSeed⟩,
    fun roster made => ?_⟩
  · -- with a validator the roster is built
    refine Nat.eq_zero_of_not_pos fun positive => ?_
    obtain ⟨roster, built, -⟩ :=
      @calculateDutyRoster_perm blake2_256 validatorCount parachains randomSeed positive
    rw [built] at panicked
    cases panicked
  · have positive : 0 < validatorCount := Nat.pos_of_ne_zero fun zero => by
      rw [zero, calculateDutyRoster_zero] at made
      cases made
    obtain ⟨shuffled, built, val, gua⟩ :=
      @calculateDutyRoster_perm blake2_256 validatorCount parachains randomSeed positive
    obtain rfl : roster = shuffled := Option.some.inj (made.symm.trans built)
    refine ⟨val.length_eq.trans (length_balancedRoles _ _), gua.length_eq.trans
      (length_balancedRoles _ _), fun id => ⟨?_, ?_⟩, ?_, ?_,
      fun _ _ _ _ grouped _ _ found => neededValidity_of_makeGroupInfo grouped found⟩
    · exact (val.count_eq _).trans (count_parachain_balancedRoles _ _ id)
    · exact (gua.count_eq _).trans (count_parachain_balancedRoles _ _ id)
    · exact (val.count_eq _).trans (count_relay_balancedRoles _ _)
    · exact (gua.count_eq _).trans (count_relay_balancedRoles _ _)

/-- With two parachains and no validator, the roster panics. -/
theorem calculateDutyRoster_panics_without_validators :
    calculateDutyRoster (fun _ => Vector.replicate 32 0) [⟨0⟩, ⟨1⟩] 0 ⟨Vector.replicate 32 0⟩ =
      none :=
  (calculateDutyRoster_balanced _ _ _ _).1.mpr rfl

end Parachains
end Polkadot
