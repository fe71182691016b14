import Polkadot.Foundations.Unsigned

/-!
# Vote thresholds

`runtime/democracy/src/vote_threshold.rs`: whether a referendum passes, from
the stake approving it, the stake against it and the stake of the whole
electorate.  A super-majority threshold biases the quorum by the square roots
of the turnout and of the electorate, and compares the two ratios with
`compare_rationals`, a continued-fraction comparison that divides but never
multiplies, so it cannot overflow.

`compare_rationals` decides `n1 / d1 < n2 / d2` exactly, that is
`n1 * d2 < n2 * d1` over the naturals, and it never panics on nonzero
denominators (`compareRationals_eq`).  On a turnout within the electorate the
square root of the turnout is at most the electorate's, so `approved` never
divides by zero, and a super-majority approves as the comparison of the two
ratios says (`approved_superMajorityApprove_eq`).
-/

namespace Polkadot
namespace Democracy

open Foundations (divChecked remChecked integerSqrt divChecked_of_ne remChecked_of_ne
  mul_lt_mul_of_div_lt mul_lt_mul_iff_of_div_eq toNat_integerSqrt integerSqrt_eq_zero_iff)

/-- `VoteThreshold`. -/
inductive VoteThreshold where
  | superMajorityApprove
  | superMajorityAgainst
  | simpleMajority
  deriving DecidableEq, Repr

variable {w : Nat}

/-- The `loop` of `compare_rationals`: the integer parts decide, and otherwise
the comparison goes on between the reciprocals of the fractional parts, the
denominators replaced by the remainders.  A zero denominator panics.  The
source loops until it decides; the model runs `fuel` rounds. -/
def compareRationalsLoop : Nat → BitVec w → BitVec w → BitVec w → BitVec w → Option Bool
  | 0, _, _, _, _ => none
  | fuel + 1, n1, d1, n2, d2 => do
      let q1 ← divChecked n1 d1
      let q2 ← divChecked n2 d2
      if q1 < q2 then return true
      if q2 < q1 then return false
      let r1 ← remChecked n1 d1
      let r2 ← remChecked n2 d2
      if r2 = 0 then return false
      if r1 = 0 then return true
      compareRationalsLoop fuel d2 r2 d1 r1

/-- `compare_rationals(n1, d1, n2, d2)`: whether `n1 / d1 < n2 / d2`.  Each round
takes the denominators to smaller remainders, so their sum bounds the rounds. -/
def compareRationals (n1 d1 n2 d2 : BitVec w) : Option Bool :=
  compareRationalsLoop (d1.toNat + d2.toNat + 1) n1 d1 n2 d2

/-- The loop of `compare_rationals`, given more rounds than the two denominators
add up to, decides `n1 / d1 < n2 / d2` without a panic. -/
theorem compareRationalsLoop_eq {fuel : Nat} {n1 d1 n2 d2 : BitVec w} (d1Nonzero : d1 ≠ 0)
    (d2Nonzero : d2 ≠ 0) (enough : d1.toNat + d2.toNat < fuel) :
    compareRationalsLoop fuel n1 d1 n2 d2 =
      some (decide (n1.toNat * d2.toNat < n2.toNat * d1.toNat)) := by
  induction fuel generalizing n1 d1 n2 d2 with
  | zero => omega
  | succ fuel ih =>
      have d1Pos : 0 < d1.toNat := by
        rw [Nat.pos_iff_ne_zero]; exact fun zero => d1Nonzero (BitVec.eq_of_toNat_eq zero)
      have d2Pos : 0 < d2.toNat := by
        rw [Nat.pos_iff_ne_zero]; exact fun zero => d2Nonzero (BitVec.eq_of_toNat_eq zero)
      simp only [compareRationalsLoop, divChecked_of_ne d1Nonzero, divChecked_of_ne d2Nonzero,
        remChecked_of_ne d1Nonzero, remChecked_of_ne d2Nonzero, Option.bind_eq_bind,
        Option.bind_some]
      by_cases below : n1 / d1 < n2 / d2
      · -- the integer parts decide
        rw [if_pos below]
        rw [BitVec.lt_def, BitVec.toNat_udiv, BitVec.toNat_udiv] at below
        simp [mul_lt_mul_of_div_lt d1Pos d2Pos below]
      · rw [if_neg below]
        by_cases above : n2 / d2 < n1 / d1
        · rw [if_pos above]
          rw [BitVec.lt_def, BitVec.toNat_udiv, BitVec.toNat_udiv] at above
          have reversed := mul_lt_mul_of_div_lt d2Pos d1Pos above
          simp [Nat.not_lt.mpr reversed.le]
        · rw [if_neg above]
          -- equal integer parts: the remainders decide
          have same : n1.toNat / d1.toNat = n2.toNat / d2.toNat := by
            rw [BitVec.lt_def, BitVec.toNat_udiv, BitVec.toNat_udiv] at below above
            omega
          simp only [mul_lt_mul_iff_of_div_eq same]
          have r1Bound : (n1 % d1).toNat < d1.toNat := by
            rw [BitVec.toNat_umod]; exact Nat.mod_lt _ d1Pos
          have r2Bound : (n2 % d2).toNat < d2.toNat := by
            rw [BitVec.toNat_umod]; exact Nat.mod_lt _ d2Pos
          by_cases r2Zero : n2 % d2 = 0
          · rw [if_pos r2Zero]
            simp [← BitVec.toNat_umod, r2Zero]
          · rw [if_neg r2Zero]
            by_cases r1Zero : n1 % d1 = 0
            · rw [if_pos r1Zero]
              have r2Pos : 0 < (n2 % d2).toNat := by
                rw [Nat.pos_iff_ne_zero]; exact fun zero => r2Zero (BitVec.eq_of_toNat_eq zero)
              simp [← BitVec.toNat_umod, r1Zero, Nat.mul_pos r2Pos d1Pos]
            · -- the reciprocals of the fractional parts, with smaller denominators
              rw [if_neg r1Zero, ih r2Zero r1Zero (by omega)]
              simp only [← BitVec.toNat_umod, Nat.mul_comm]

/-- `compare_rationals` on nonzero denominators never panics and decides
`n1 / d1 < n2 / d2` exactly. -/
theorem compareRationals_eq {n1 d1 n2 d2 : BitVec w} (d1Nonzero : d1 ≠ 0) (d2Nonzero : d2 ≠ 0) :
    compareRationals n1 d1 n2 d2 = some (decide (n1.toNat * d2.toNat < n2.toNat * d1.toNat)) :=
  compareRationalsLoop_eq d1Nonzero d2Nonzero (Nat.lt_succ_self _)

/-- `Approved::approved`: whether a referendum passes, `none` on a panic. -/
def VoteThreshold.approved (threshold : VoteThreshold) (approve against electorate : BitVec w) :
    Option Bool :=
  let voters := approve + against
  let sqrtVoters := integerSqrt voters
  let sqrtElectorate := integerSqrt electorate
  if sqrtVoters = 0 then some false
  else
    match threshold with
    | .superMajorityApprove => compareRationals against sqrtVoters approve sqrtElectorate
    | .superMajorityAgainst => compareRationals against sqrtElectorate approve sqrtVoters
    | .simpleMajority => some (approve > against)

/-- A threshold decides without a panic once the electorate has a nonzero
square root: only a super-majority with nobody in the electorate divides by
zero. -/
theorem VoteThreshold.approved_isSome (threshold : VoteThreshold) (approve against : BitVec w)
    {electorate : BitVec w} (electorateNonzero : integerSqrt electorate ≠ 0) :
    (threshold.approved approve against electorate).isSome := by
  dsimp only [VoteThreshold.approved]
  split_ifs with nobodyVoted
  · rfl
  · cases threshold with
    | superMajorityApprove => simp [compareRationals_eq nobodyVoted electorateNonzero]
    | superMajorityAgainst => simp [compareRationals_eq electorateNonzero nobodyVoted]
    | simpleMajority => rfl

section Turnout

variable {approve against electorate : BitVec w}
  (turnout : approve.toNat + against.toNat ≤ electorate.toNat)
include turnout

/-- A turnout within the electorate does not wrap. -/
theorem toNat_voters : (approve + against).toNat = approve.toNat + against.toNat := by
  rw [BitVec.toNat_add]
  exact Nat.mod_eq_of_lt (Nat.lt_of_le_of_lt turnout electorate.isLt)

/-- `approved` of a super-majority on a turnout within the electorate: nobody
voting fails the referendum, and otherwise the comparison of the two ratios
decides without a panic. -/
theorem approved_superMajorityApprove_eq :
    VoteThreshold.superMajorityApprove.approved approve against electorate =
      some (decide (0 < Nat.sqrt (approve.toNat + against.toNat) ∧
        against.toNat * Nat.sqrt electorate.toNat <
          approve.toNat * Nat.sqrt (approve.toNat + against.toNat))) := by
  have bounded := Nat.sqrt_le_sqrt turnout
  dsimp only [VoteThreshold.approved]
  split_ifs with nobodyVoted
  · rw [integerSqrt_eq_zero_iff, toNat_voters turnout] at nobodyVoted
    simp [nobodyVoted]
  · have votersPos : 0 < Nat.sqrt (approve.toNat + against.toNat) := by
      rw [integerSqrt_eq_zero_iff, toNat_voters turnout] at nobodyVoted
      omega
    have electorateNonzero : integerSqrt electorate ≠ 0 := by
      rw [Ne, integerSqrt_eq_zero_iff]
      omega
    rw [compareRationals_eq nobodyVoted electorateNonzero, toNat_integerSqrt,
      toNat_integerSqrt, toNat_voters turnout]
    simp [votersPos]

end Turnout

example : VoteThreshold.superMajorityApprove.approved 60#64 50#64 210#64 = some false := by
  decide +kernel

example : VoteThreshold.superMajorityApprove.approved 100#64 50#64 210#64 = some true := by
  decide +kernel

end Democracy
end Polkadot
