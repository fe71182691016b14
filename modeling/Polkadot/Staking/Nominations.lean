import Polkadot.Staking.Reserves
import Polkadot.Democracy.Referenda

/-!
# Intentions and nominations

`runtime/staking/src/lib.rs`: an account declares the intention to stake
(`stake`) or nominates another account (`nominate`), never both; `unstake`
and `unnominate` take it back, given the position of the account in the list
they remove it from.  `Nominating` and `NominatorsFor` store the nomination
relation in both directions.  `new_era` ranks the intentions by their stake
and records the nominators of the validators it picks.

Every check of the four calls stands before their first write, so a call that
returns `Err` leaves storage as it was (`dispatch_error`).  Over any run from a
genesis whose intentions are distinct, the intentions stay distinct, no
intention nominates, and each nominator is listed once, under the account it
nominates (`Consistent`).
-/

namespace Polkadot
namespace Staking

open Democracy (swapRemove swapRemove_perm_erase)

/-- The staking storage with the items of intentions, nominations and eras,
and the two items of `session` that `new_era` reads and writes. -/
structure EraStorage (AccountId : Type) (balanceBits indexBits : Nat)
    extends Storage AccountId balanceBits indexBits where
  bondingDuration : Nat
  validatorCount : BitVec 32
  sessionsPerEra : Nat
  currentEra : Nat
  intentions : List AccountId
  nominating : AList (fun _ : AccountId => AccountId)
  nominatorsFor : AList (fun _ : AccountId => List AccountId)
  currentNominatorsFor : AList (fun _ : AccountId => List AccountId)
  nextSessionsPerEra : Option Nat
  lastEraLengthChange : Nat
  stakeThreshold : Option (BitVec balanceBits)
  /-- `session::Validators` -/
  validators : List AccountId
  /-- `session::CurrentIndex` -/
  sessionIndex : Nat

/-- The fields of staking's and session's `GenesisConfig` that the era storage
holds. -/
structure EraGenesisConfig (AccountId : Type) (balanceBits : Nat)
    extends GenesisConfig AccountId balanceBits where
  sessionsPerEra : Nat
  currentEra : Nat
  intentions : List AccountId
  validatorCount : BitVec 64
  bondingDuration : Nat
  /-- `session::GenesisConfig::validators` -/
  validators : List AccountId

/-- `build_storage` of staking and session.  The validator count is written as
a `u64` and read as a `u32`, which keeps its low 32 bits; nothing is nominated,
and the session index starts at 0. -/
def EraGenesisConfig.buildStorage {AccountId : Type} [DecidableEq AccountId] {balanceBits : Nat}
    (indexBits : Nat) (config : EraGenesisConfig AccountId balanceBits) :
    EraStorage AccountId balanceBits indexBits :=
  { config.toGenesisConfig.buildStorage indexBits with
    bondingDuration := config.bondingDuration
    validatorCount := config.validatorCount.setWidth 32
    sessionsPerEra := config.sessionsPerEra
    currentEra := config.currentEra
    intentions := config.intentions
    nominating := ∅
    nominatorsFor := ∅
    currentNominatorsFor := ∅
    nextSessionsPerEra := none
    lastEraLengthChange := 0
    stakeThreshold := none
    validators := config.validators
    sessionIndex := 0 }

/-- Staking's `GenesisConfig::simple()`, with session's default genesis, which
has no validators. -/
def EraGenesisConfig.simple : EraGenesisConfig Nat 64 where
  balances := [(1, 111)]
  transferFee := 0
  creationFee := 0
  contractFee := 0
  reclaimRebate := 0
  existentialDeposit := 0
  sessionsPerEra := 2
  currentEra := 0
  intentions := [1, 2, 3]
  validatorCount := 3
  bondingDuration := 0
  validators := []

/-- The calls of staking that change intentions and nominations. -/
inductive Call (AccountId : Type) (indexBits : Nat) where
  | stake (aux : AccountId)
  | unstake (aux : AccountId) (position : BitVec 32)
  | nominate (aux : AccountId) (target : Address AccountId (BitVec indexBits))
  | unnominate (aux : AccountId) (targetIndex : BitVec 32)

namespace EraStorage

variable {AccountId : Type} [DecidableEq AccountId] {balanceBits indexBits : Nat}
variable (s : EraStorage AccountId balanceBits indexBits)

/-- `nominators_for`: an absent entry reads empty. -/
def nominatorsForOf (target : AccountId) : List AccountId := (s.nominatorsFor.lookup target).getD []

/-- `nomination_balance`: the voting balances of the nominators, added with
wrap-around. -/
def nominationBalance (who : AccountId) : BitVec balanceBits :=
  (s.nominatorsForOf who).foldl (fun total nominator => total + s.votingBalance nominator) 0

/-! ## The calls -/

/-- `stake`. -/
def stake (aux : AccountId) : Except String Unit × EraStorage AccountId balanceBits indexBits :=
  if (s.nominating.lookup aux).isSome then (.error "Cannot stake if already nominating.", s)
  else if aux ∈ s.intentions then (.error "Cannot stake if already staked.", s)
  else
    (.ok (), { s with
      intentions := s.intentions ++ [aux]
      bondages := s.bondages.insert aux blockNumberMaxValue })

/-- `unstake`: the caller names its position in the intentions. -/
def unstake (aux : AccountId) (position : BitVec 32) :
    Except String Unit × EraStorage AccountId balanceBits indexBits :=
  let position := position.toNat
  if s.intentions[position]? ≠ some aux then (.error "Invalid index", s)
  else
    (.ok (), { s with
      intentions := swapRemove s.intentions position
      bondages := s.bondages.insert aux (s.currentEra + s.bondingDuration) })

/-- `nominate`: the target is looked up, which panics where the index lookup
does. -/
def nominate (aux : AccountId) (target : Address AccountId (BitVec indexBits)) :
    Option (Except String Unit × EraStorage AccountId balanceBits indexBits) := do
  match ← s.lookup target with
  | .error message => pure (.error message, s)
  | .ok target =>
      if (s.nominating.lookup aux).isSome then
        pure (.error "Cannot nominate if already nominating.", s)
      else if aux ∈ s.intentions then pure (.error "Cannot nominate if already staked.", s)
      else
        pure (.ok (), { s with
          nominatorsFor := s.nominatorsFor.insert target (s.nominatorsForOf target ++ [aux])
          nominating := s.nominating.insert aux target
          bondages := s.bondages.insert aux blockNumberMaxValue })

/-- `unnominate`: the caller names its position among the nominators of the
account it nominates. -/
def unnominate (aux : AccountId) (targetIndex : BitVec 32) :
    Except String Unit × EraStorage AccountId balanceBits indexBits :=
  match s.nominating.lookup aux with
  | none => (.error "Account must be nominating", s)
  | some target =>
      let t := s.nominatorsForOf target
      let targetIndex := targetIndex.toNat
      if t[targetIndex]? ≠ some aux then (.error "Invalid target index", s)
      else
        (.ok (), { s with
          nominatorsFor := s.nominatorsFor.insert target (swapRemove t targetIndex)
          nominating := s.nominating.erase aux
          bondages := s.bondages.insert aux (s.currentEra + s.bondingDuration) })

/-- A call, as the runtime dispatches it; `none` is a panic. -/
def dispatch : Call AccountId indexBits →
    Option (Except String Unit × EraStorage AccountId balanceBits indexBits)
  | .stake aux => some (s.stake aux)
  | .unstake aux position => some (s.unstake aux position)
  | .nominate aux target => s.nominate aux target
  | .unnominate aux targetIndex => some (s.unnominate aux targetIndex)

/-! ## A new era -/

/-- The era length change that `new_era` enacts: a next length that differs
from the current one. -/
def enactEraLengthChange : EraStorage AccountId balanceBits indexBits :=
  match s.nextSessionsPerEra with
  | some next =>
      if next ≠ s.sessionsPerEra then
        { s with sessionsPerEra := next, lastEraLengthChange := s.sessionIndex }
      else s
  | none => s

/-- The intentions with their stakes, the largest first.  The source sorts
with `sort_unstable_by`, which leaves the order of equal stakes open; the model
keeps them in the order of the intentions. -/
def rankedIntentions : List (BitVec balanceBits × AccountId) :=
  (s.intentions.map fun v => (s.votingBalance v + s.nominationBalance v, v)).mergeSort
    fun first second => decide (second.1 ≤ first.1)

/-- `new_era`: the era advances, the stake threshold is the stake of the
intention ranked at the validator count (or the last one), and the validators
are the intentions ranked first, whose nominators are recorded. -/
def newEra : EraStorage AccountId balanceBits indexBits :=
  let s := { s with currentEra := s.currentEra + 1 }.enactEraLengthChange
  let intentions := s.rankedIntentions
  let s := { s with
    stakeThreshold := some
      (if ranked : 0 < intentions.length then
        (intentions.get ⟨min s.validatorCount.toNat (intentions.length - 1), by omega⟩).1
      else 0) }
  let vals := (intentions.map Prod.snd).take s.validatorCount.toNat
  let current := s.validators.foldl (fun current v => current.erase v) s.currentNominatorsFor
  let current := vals.foldl (fun current v => current.insert v (s.nominatorsForOf v)) current
  { s with currentNominatorsFor := current, validators := vals }

/-! ## What each call does -/

/-- `stake` fails and changes nothing, or appends an account that neither nominates nor intends. -/
theorem stake_cases (aux : AccountId) :
    (∃ message, s.stake aux = (.error message, s)) ∨
      s.nominating.lookup aux = none ∧ aux ∉ s.intentions ∧
        s.stake aux = (.ok (), { s with
          intentions := s.intentions ++ [aux]
          bondages := s.bondages.insert aux blockNumberMaxValue }) := by
  unfold stake
  split_ifs with nominating staked
  · exact .inl ⟨_, rfl⟩
  · exact .inl ⟨_, rfl⟩
  · exact .inr ⟨Option.not_isSome_iff_eq_none.mp nominating, staked, rfl⟩

/-- `unstake` fails and changes nothing, or swap-removes the account at its position. -/
theorem unstake_cases (aux : AccountId) (position : BitVec 32) :
    (∃ message, s.unstake aux position = (.error message, s)) ∨
      s.intentions[position.toNat]? = some aux ∧
        s.unstake aux position = (.ok (), { s with
          intentions := swapRemove s.intentions position.toNat
          bondages := s.bondages.insert aux (s.currentEra + s.bondingDuration) }) := by
  unfold unstake
  dsimp only
  split_ifs with misplaced
  · exact .inl ⟨_, rfl⟩
  · exact .inr ⟨not_not.mp misplaced, rfl⟩

/-- `nominate` fails and changes nothing, or records a nomination of a looked-up target by an
account that neither nominates nor intends. -/
theorem nominate_cases {aux : AccountId} {target : Address AccountId (BitVec indexBits)}
    {result : Except String Unit} {s' : EraStorage AccountId balanceBits indexBits}
    (nominated : s.nominate aux target = some (result, s')) :
    (∃ message, result = .error message ∧ s' = s) ∨
      ∃ nominee, result = .ok () ∧ s.nominating.lookup aux = none ∧ aux ∉ s.intentions ∧
        s' = { s with
          nominatorsFor := s.nominatorsFor.insert nominee (s.nominatorsForOf nominee ++ [aux])
          nominating := s.nominating.insert aux nominee
          bondages := s.bondages.insert aux blockNumberMaxValue } := by
  unfold nominate at nominated
  simp only [Option.bind_eq_bind, Option.bind_eq_some_iff] at nominated
  obtain ⟨found, -, nominated⟩ := nominated
  cases found with
  | error message =>
      cases nominated
      exact .inl ⟨message, rfl, rfl⟩
  | ok nominee =>
      dsimp only at nominated
      split_ifs at nominated with nominating staked
      · cases nominated
        exact .inl ⟨_, rfl, rfl⟩
      · cases nominated
        exact .inl ⟨_, rfl, rfl⟩
      · cases nominated
        exact .inr ⟨nominee, rfl, Option.not_isSome_iff_eq_none.mp nominating, staked, rfl⟩

/-- `unnominate` fails and changes nothing, or removes the account from its target's nominators at
the index given. -/
theorem unnominate_cases (aux : AccountId) (targetIndex : BitVec 32) :
    (∃ message, s.unnominate aux targetIndex = (.error message, s)) ∨
      ∃ target, s.nominating.lookup aux = some target ∧
        (s.nominatorsForOf target)[targetIndex.toNat]? = some aux ∧
        s.unnominate aux targetIndex = (.ok (), { s with
          nominatorsFor := s.nominatorsFor.insert target
            (swapRemove (s.nominatorsForOf target) targetIndex.toNat)
          nominating := s.nominating.erase aux
          bondages := s.bondages.insert aux (s.currentEra + s.bondingDuration) }) := by
  unfold unnominate
  cases nominee : s.nominating.lookup aux with
  | none => exact .inl ⟨_, rfl⟩
  | some target =>
      dsimp only
      split_ifs with misplaced
      · exact .inl ⟨_, rfl⟩
      · exact .inr ⟨target, rfl, not_not.mp misplaced, rfl⟩

/-- A call that fails has not written: the storage after it is the storage
before. -/
theorem dispatch_error {call : Call AccountId indexBits} {message : String}
    {s' : EraStorage AccountId balanceBits indexBits}
    (failed : s.dispatch call = some (.error message, s')) : s' = s := by
  cases call with
  | stake aux =>
      rcases s.stake_cases aux with ⟨_, stuck⟩ | ⟨-, -, passed⟩
      · simp_all [dispatch]
      · simp_all [dispatch]
  | unstake aux position =>
      rcases s.unstake_cases aux position with ⟨_, stuck⟩ | ⟨-, passed⟩
      · simp_all [dispatch]
      · simp_all [dispatch]
  | nominate aux target =>
      rcases s.nominate_cases failed with ⟨_, -, kept⟩ | ⟨_, wrong, -⟩
      · exact kept
      · cases wrong
  | unnominate aux targetIndex =>
      rcases s.unnominate_cases aux targetIndex with ⟨_, stuck⟩ | ⟨_, -, -, passed⟩
      · simp_all [dispatch]
      · simp_all [dispatch]

/-! ## A new era keeps the nominations -/

omit [DecidableEq AccountId] in
/-- Enacting an era length change writes only the sessions per era and the last change. -/
theorem enactEraLengthChange_eq :
    ∃ sessionsPerEra lastEraLengthChange, s.enactEraLengthChange =
      { s with sessionsPerEra, lastEraLengthChange } := by
  unfold enactEraLengthChange
  split
  · split_ifs
    · exact ⟨_, _, rfl⟩
    · exact ⟨s.sessionsPerEra, s.lastEraLengthChange, rfl⟩
  · exact ⟨s.sessionsPerEra, s.lastEraLengthChange, rfl⟩

/-- A new era keeps the intentions and the nominations. -/
theorem newEra_nominations :
    s.newEra.intentions = s.intentions ∧ s.newEra.nominating = s.nominating ∧
      s.newEra.nominatorsFor = s.nominatorsFor := by
  obtain ⟨sessionsPerEra, lastEraLengthChange, enacted⟩ :=
    ({ s with currentEra := s.currentEra + 1 }).enactEraLengthChange_eq
  unfold newEra
  dsimp only
  rw [enacted]
  exact ⟨rfl, rfl, rfl⟩

/-! ## The invariant of the nominations -/

/-- What every run keeps of intentions and nominations: no repeated
intention, no intention that nominates, and every account listed among the
nominators of the account it nominates, once, and nowhere else. -/
structure Consistent : Prop where
  intentions_nodup : s.intentions.Nodup
  not_nominating : ∀ who ∈ s.intentions, s.nominating.lookup who = none
  count_nominatorsFor : ∀ who target,
    (s.nominatorsForOf target).count who = if s.nominating.lookup who = some target then 1 else 0

variable {s}

/-- After writing one target's nominators, the others' are as before. -/
theorem nominatorsForOf_of_insert {s' : EraStorage AccountId balanceBits indexBits}
    {target : AccountId} {nominators : List AccountId}
    (inserted : s'.nominatorsFor = s.nominatorsFor.insert target nominators) (t : AccountId) :
    s'.nominatorsForOf t = if t = target then nominators else s.nominatorsForOf t := by
  unfold nominatorsForOf
  rw [inserted]
  by_cases same : t = target
  · subst same
    simp
  · simp [AList.lookup_insert_ne same, same]

/-- A consistent storage lists each nominator of a target once. -/
theorem Consistent.nodup_nominatorsFor (consistent : s.Consistent) (target : AccountId) :
    (s.nominatorsForOf target).Nodup := by
  refine List.nodup_iff_count_le_one.mpr fun who => ?_
  rw [consistent.count_nominatorsFor]
  split <;> omega

/-- Storage with the same intentions and nominations stays consistent. -/
theorem Consistent.of_nominations {s' : EraStorage AccountId balanceBits indexBits}
    (consistent : s.Consistent) (intentions : s'.intentions = s.intentions)
    (nominating : s'.nominating = s.nominating) (nominatorsFor : s'.nominatorsFor = s.nominatorsFor) :
    s'.Consistent where
  intentions_nodup := intentions ▸ consistent.intentions_nodup
  not_nominating who staked := by
    rw [nominating]
    exact consistent.not_nominating who (intentions ▸ staked)
  count_nominatorsFor who target := by
    rw [nominating, nominatorsForOf, nominatorsFor]
    exact consistent.count_nominatorsFor who target

/-- Staking an account that neither nominates nor intends keeps the storage consistent. -/
theorem Consistent.stake (consistent : s.Consistent) {aux : AccountId}
    (free : s.nominating.lookup aux = none) (unstaked : aux ∉ s.intentions) (bondage : Nat) :
    Consistent { s with
      intentions := s.intentions ++ [aux]
      bondages := s.bondages.insert aux bondage } where
  intentions_nodup :=
    consistent.intentions_nodup.append (List.nodup_singleton aux) (List.disjoint_singleton.mpr unstaked)
  not_nominating who staked := by
    rcases List.mem_append.mp staked with before | added
    · exact consistent.not_nominating who before
    · rw [List.mem_singleton.mp added]
      exact free
  count_nominatorsFor := consistent.count_nominatorsFor

/-- Unstaking the account at its position keeps the storage consistent. -/
theorem Consistent.unstake (consistent : s.Consistent) {aux : AccountId} {position : Nat}
    (found : s.intentions[position]? = some aux) (bondage : Nat) :
    Consistent { s with
      intentions := swapRemove s.intentions position
      bondages := s.bondages.insert aux bondage } where
  intentions_nodup :=
    (swapRemove_perm_erase consistent.intentions_nodup found).nodup_iff.mpr
      (consistent.intentions_nodup.erase aux)
  not_nominating who staked :=
    consistent.not_nominating who (List.mem_of_mem_erase
      ((swapRemove_perm_erase consistent.intentions_nodup found).mem_iff.mp staked))
  count_nominatorsFor := consistent.count_nominatorsFor

/-- Nominating by an account that neither nominates nor intends keeps the storage consistent. -/
theorem Consistent.nominate (consistent : s.Consistent) {aux nominee : AccountId}
    (free : s.nominating.lookup aux = none) (unstaked : aux ∉ s.intentions) (bondage : Nat) :
    Consistent { s with
      nominatorsFor := s.nominatorsFor.insert nominee (s.nominatorsForOf nominee ++ [aux])
      nominating := s.nominating.insert aux nominee
      bondages := s.bondages.insert aux bondage } where
  intentions_nodup := consistent.intentions_nodup
  not_nominating who staked := by
    have other : who ≠ aux := fun same => unstaked (same ▸ staked)
    simpa [AList.lookup_insert_ne other] using consistent.not_nominating who staked
  count_nominatorsFor who target := by
    have unlisted : (s.nominatorsForOf nominee).count aux = 0 := by
      simpa [free] using consistent.count_nominatorsFor aux nominee
    rw [nominatorsForOf_of_insert rfl]
    dsimp only
    by_cases isAux : who = aux
    · subst isAux
      by_cases toNominee : target = nominee
      · subst toNominee
        simp [List.count_append, unlisted]
      · simp [toNominee, Ne.symm toNominee, consistent.count_nominatorsFor, free]
    · by_cases toNominee : target = nominee
      · subst toNominee
        simp [List.count_append, Ne.symm isAux, AList.lookup_insert_ne isAux,
          consistent.count_nominatorsFor]
      · simp [toNominee, AList.lookup_insert_ne isAux, consistent.count_nominatorsFor]

/-- Unnominating the account at its index keeps the storage consistent. -/
theorem Consistent.unnominate (consistent : s.Consistent) {aux target : AccountId} {index : Nat}
    (nominee : s.nominating.lookup aux = some target)
    (found : (s.nominatorsForOf target)[index]? = some aux) (bondage : Nat) :
    Consistent { s with
      nominatorsFor := s.nominatorsFor.insert target (swapRemove (s.nominatorsForOf target) index)
      nominating := s.nominating.erase aux
      bondages := s.bondages.insert aux bondage } where
  intentions_nodup := consistent.intentions_nodup
  not_nominating who staked := by
    by_cases isAux : who = aux
    · subst isAux
      simp
    · simpa [AList.lookup_erase_ne isAux] using consistent.not_nominating who staked
  count_nominatorsFor who t := by
    have listed : (s.nominatorsForOf target).count aux = 1 := by
      simpa [nominee] using consistent.count_nominatorsFor aux target
    have removed := swapRemove_perm_erase (consistent.nodup_nominatorsFor target) found
    rw [nominatorsForOf_of_insert rfl]
    dsimp only
    by_cases isAux : who = aux
    · subst isAux
      by_cases toTarget : t = target
      · subst toTarget
        simp [removed.count_eq, listed]
      · simp [toTarget, consistent.count_nominatorsFor, nominee, Ne.symm toTarget]
    · by_cases toTarget : t = target
      · subst toTarget
        simp [removed.count_eq, List.count_erase, Ne.symm isAux, AList.lookup_erase_ne isAux,
          consistent.count_nominatorsFor]
      · simp [toTarget, AList.lookup_erase_ne isAux, consistent.count_nominatorsFor]

/-- Every call keeps the invariant, whether it passes or fails. -/
theorem Consistent.dispatch (consistent : s.Consistent) {call : Call AccountId indexBits}
    {result : Except String Unit} {s' : EraStorage AccountId balanceBits indexBits}
    (dispatched : s.dispatch call = some (result, s')) : s'.Consistent := by
  cases call with
  | stake aux =>
      have stepped : s.stake aux = (result, s') := Option.some.inj dispatched
      rcases s.stake_cases aux with ⟨_, stuck⟩ | ⟨free, unstaked, passed⟩
      · rw [stuck] at stepped
        cases stepped
        exact consistent
      · rw [passed] at stepped
        cases stepped
        exact consistent.stake free unstaked _
  | unstake aux position =>
      have stepped : s.unstake aux position = (result, s') := Option.some.inj dispatched
      rcases s.unstake_cases aux position with ⟨_, stuck⟩ | ⟨found, passed⟩
      · rw [stuck] at stepped
        cases stepped
        exact consistent
      · rw [passed] at stepped
        cases stepped
        exact consistent.unstake found _
  | nominate aux target =>
      rcases s.nominate_cases dispatched with ⟨_, -, rfl⟩ | ⟨nominee, -, free, unstaked, rfl⟩
      · exact consistent
      · exact consistent.nominate free unstaked _
  | unnominate aux targetIndex =>
      have stepped : s.unnominate aux targetIndex = (result, s') := Option.some.inj dispatched
      rcases s.unnominate_cases aux targetIndex with ⟨_, stuck⟩ | ⟨target, nominee, found, passed⟩
      · rw [stuck] at stepped
        cases stepped
        exact consistent
      · rw [passed] at stepped
        cases stepped
        exact consistent.unnominate nominee found _

/-- A new era keeps the storage consistent. -/
theorem Consistent.newEra (consistent : s.Consistent) : s.newEra.Consistent :=
  have kept := s.newEra_nominations
  consistent.of_nominations kept.1 kept.2.1 kept.2.2

/-- The genesis storage of distinct intentions is consistent. -/
theorem consistent_buildStorage {config : EraGenesisConfig AccountId balanceBits}
    (distinct : config.intentions.Nodup) : (config.buildStorage indexBits).Consistent where
  intentions_nodup := distinct
  not_nominating _ _ := rfl
  count_nominatorsFor _ _ := rfl

/-- In the invariant, an account nominates a target exactly when it is listed
among the target's nominators, and then it is listed once. -/
theorem Consistent.nominating_iff (consistent : s.Consistent) (who target : AccountId) :
    (s.nominating.lookup who = some target ↔ who ∈ s.nominatorsForOf target) ∧
      (who ∈ s.nominatorsForOf target → (s.nominatorsForOf target).count who = 1) := by
  have counted := consistent.count_nominatorsFor who target
  rw [← List.count_pos_iff]
  constructor
  · constructor
    · intro nominates
      rw [counted, if_pos nominates]
      exact Nat.one_pos
    · intro positive
      by_contra other
      rw [counted, if_neg other] at positive
      exact Nat.lt_irrefl 0 positive
  · intro positive
    rw [counted] at positive ⊢
    split_ifs at positive ⊢
    · rfl
    · exact absurd positive (Nat.lt_irrefl 0)

end EraStorage

/-- The storage states that calls and new eras reach from the genesis of
`config`. -/
inductive Reachable {AccountId : Type} [DecidableEq AccountId] {balanceBits : Nat} (indexBits : Nat)
    (config : EraGenesisConfig AccountId balanceBits) : EraStorage AccountId balanceBits indexBits → Prop
  | genesis : Reachable indexBits config (config.buildStorage indexBits)
  | dispatch {s s' : EraStorage AccountId balanceBits indexBits} (call : Call AccountId indexBits)
      {result : Except String Unit} :
      Reachable indexBits config s → s.dispatch call = some (result, s') → Reachable indexBits config s'
  | newEra {s : EraStorage AccountId balanceBits indexBits} :
      Reachable indexBits config s → Reachable indexBits config s.newEra

section Runs

variable {AccountId : Type} [DecidableEq AccountId] {balanceBits indexBits : Nat}

/-- Every reachable storage is consistent. -/
theorem Reachable.consistent {config : EraGenesisConfig AccountId balanceBits}
    (distinct : config.intentions.Nodup) {s : EraStorage AccountId balanceBits indexBits}
    (reached : Reachable indexBits config s) : s.Consistent := by
  induction reached with
  | genesis => exact EraStorage.consistent_buildStorage distinct
  | dispatch _ _ dispatched consistent => exact consistent.dispatch dispatched
  | newEra _ consistent => exact consistent.newEra

/-- Over every run of calls and new eras from a genesis whose intentions are
distinct: the intentions stay distinct, no intention nominates, an account
nominates a target exactly when it is listed once among the target's
nominators, and a call that fails leaves the storage as it was. -/
theorem nominations_consistent_of_reachable {config : EraGenesisConfig AccountId balanceBits}
    (distinct : config.intentions.Nodup) {s : EraStorage AccountId balanceBits indexBits}
    (reached : Reachable indexBits config s) :
    s.intentions.Nodup ∧
      (∀ who ∈ s.intentions, s.nominating.lookup who = none) ∧
      (∀ who target, (s.nominating.lookup who = some target ↔ who ∈ s.nominatorsForOf target) ∧
        (who ∈ s.nominatorsForOf target → (s.nominatorsForOf target).count who = 1)) ∧
      (∀ (call : Call AccountId indexBits) (message : String)
        (s' : EraStorage AccountId balanceBits indexBits),
        s.dispatch call = some (.error message, s') → s' = s) :=
  have consistent := reached.consistent distinct
  ⟨consistent.intentions_nodup, consistent.not_nominating, consistent.nominating_iff,
    fun _ _ _ failed => s.dispatch_error failed⟩

/-- From the genesis of `GenesisConfig::simple()`, accounts 4 and 5 nominate
1, account 2 leaves the intentions from position 1, account 6 stakes, account
4 withdraws its nomination from position 0, and an era passes; account 5's
attempt to stake is refused. -/
theorem nominations_consistent_of_reachable_run :
    EraGenesisConfig.simple.intentions.Nodup ∧
      ∃ s : EraStorage Nat 64 64, Reachable 64 EraGenesisConfig.simple s ∧
        s.intentions = [1, 3, 6] ∧ s.nominatorsForOf 1 = [5] ∧ s.nominating.lookup 5 = some 1 ∧
        s.dispatch (.stake 5) = some (.error "Cannot stake if already nominating.", s) ∧
        (s.intentions.Nodup ∧
          (∀ who ∈ s.intentions, s.nominating.lookup who = none) ∧
          (∀ who target, (s.nominating.lookup who = some target ↔ who ∈ s.nominatorsForOf target) ∧
            (who ∈ s.nominatorsForOf target → (s.nominatorsForOf target).count who = 1)) ∧
          (∀ (call : Call Nat 64) (message : String) (s' : EraStorage Nat 64 64),
            s.dispatch call = some (.error message, s') → s' = s)) := by
  have distinct : EraGenesisConfig.simple.intentions.Nodup := by decide
  have reached : Reachable 64 EraGenesisConfig.simple _ :=
    .newEra <| .dispatch (.unnominate 4 0) (.dispatch (.stake 6) (.dispatch (.unstake 2 1)
      (.dispatch (.nominate 5 (.id 1)) (.dispatch (.nominate 4 (.id 1)) .genesis rfl) rfl) rfl) rfl) rfl
  exact ⟨distinct, _, reached, rfl, rfl, rfl, rfl, nominations_consistent_of_reachable distinct reached⟩

/-- The genesis writes its intentions as they are: a genesis that names an
account twice starts with a repeated intention. -/
theorem genesis_repeats_intention :
    Reachable 64 { EraGenesisConfig.simple with intentions := [1, 1] }
        (({ EraGenesisConfig.simple with intentions := [1, 1] } :
          EraGenesisConfig Nat 64).buildStorage 64) ∧
      ¬(({ EraGenesisConfig.simple with intentions := [1, 1] } :
          EraGenesisConfig Nat 64).buildStorage 64).intentions.Nodup :=
  ⟨.genesis, by decide⟩

end Runs

end Staking
end Polkadot
