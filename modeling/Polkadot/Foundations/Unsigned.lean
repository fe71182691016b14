import Mathlib

/-!
# Unsigned machine integers

Rust's unsigned integers as `BitVec w`: `+`, `-` and `*` wrap, as they do in a
release build; `/` and `%` panic on a zero divisor, which is `none`, and
`checked_add` is `none` where the sum would wrap and `saturating_add` stops
at the largest value; the
`integer_sqrt` of the `integer-sqrt` crate is the floor of the square root,
computed digit by digit (`integerSqrt_eq`).
A sum that grows did not wrap (`toNat_add_of_lt_add`): that is how a check
`a + b <= a` against overflow is read back.

Fractions of naturals are compared without multiplying by their integer parts
first and then by their fractional parts: unequal integer parts decide
(`mul_lt_mul_of_div_lt`), and equal ones leave the comparison of the remainders
(`mul_lt_mul_iff_of_div_eq`).
-/

namespace Foundations

variable {w : Nat}

/-- `/` on an unsigned integer: a division by zero panics. -/
def divChecked (x y : BitVec w) : Option (BitVec w) :=
  if y = 0 then none else some (x / y)

/-- `%` on an unsigned integer: a division by zero panics. -/
def remChecked (x y : BitVec w) : Option (BitVec w) :=
  if y = 0 then none else some (x % y)

/-- `checked_add`: the sum, or `none` where it would wrap. -/
def checkedAdd (x y : BitVec w) : Option (BitVec w) :=
  if x.toNat + y.toNat < 2 ^ w then some (x + y) else none

/-- `saturating_add`: the sum, or the largest value where the sum would wrap. -/
def saturatingAdd (x y : BitVec w) : BitVec w :=
  if x.toNat + y.toNat < 2 ^ w then x + y else BitVec.allOnes w

/-- The square root of `n` digit by digit, from bit `k - 1` down: the largest
`root + x` with `x < 2 ^ k` whose square is at most `n`. -/
def sqrtDigits (n : Nat) : Nat → Nat → Nat
  | 0, root => root
  | k + 1, root =>
      if (root + 2 ^ k) * (root + 2 ^ k) ≤ n then sqrtDigits n k (root + 2 ^ k)
      else sqrtDigits n k root

/-- `integer_sqrt`: the floor of the square root. -/
def integerSqrt (x : BitVec w) : BitVec w := BitVec.ofNat w (sqrtDigits x.toNat w 0)

/-- Division by a nonzero word succeeds. -/
theorem divChecked_of_ne {x y : BitVec w} (nonzero : y ≠ 0) : divChecked x y = some (x / y) :=
  if_neg nonzero

/-- The remainder by a nonzero word exists. -/
theorem remChecked_of_ne {x y : BitVec w} (nonzero : y ≠ 0) : remChecked x y = some (x % y) :=
  if_neg nonzero

/-- The digits found so far stay a lower bound of the square root, and the
untried digits reach past it, so the last digit leaves the square root. -/
theorem sqrtDigits_eq {n : Nat} (k : Nat) {root : Nat} (low : root * root ≤ n)
    (high : n < (root + 2 ^ k) * (root + 2 ^ k)) : sqrtDigits n k root = Nat.sqrt n := by
  induction k generalizing root with
  | zero => exact Nat.eq_sqrt.mpr ⟨low, high⟩
  | succ k ih =>
      unfold sqrtDigits
      have doubled : root + 2 ^ k + 2 ^ k = root + 2 ^ (k + 1) := by
        rw [Nat.pow_succ]
        omega
      split_ifs with fits
      · exact ih fits (doubled ▸ high)
      · exact ih low (Nat.lt_of_not_le fits)

/-- `integer_sqrt` of a word is the square root of its number. -/
theorem integerSqrt_eq (x : BitVec w) : integerSqrt x = BitVec.ofNat w (Nat.sqrt x.toNat) := by
  have below : x.toNat < (0 + 2 ^ w) * (0 + 2 ^ w) := by
    have bound := x.isLt
    have positive : 1 ≤ 2 ^ w := Nat.one_le_two_pow
    rw [Nat.zero_add]
    exact Nat.lt_of_lt_of_le bound (Nat.le_mul_of_pos_left _ positive)
  rw [integerSqrt, sqrtDigits_eq w (Nat.zero_le _) below]

/-- The square root fits the width: it is the square root over the naturals. -/
theorem toNat_integerSqrt (x : BitVec w) : (integerSqrt x).toNat = Nat.sqrt x.toNat := by
  rw [integerSqrt_eq, BitVec.toNat_ofNat]
  exact Nat.mod_eq_of_lt (Nat.lt_of_le_of_lt (Nat.sqrt_le_self _) x.isLt)

/-- `integer_sqrt` of a word is zero exactly when the square root of its number is. -/
theorem integerSqrt_eq_zero_iff (x : BitVec w) : integerSqrt x = 0 ↔ Nat.sqrt x.toNat = 0 := by
  rw [BitVec.toNat_eq, toNat_integerSqrt, BitVec.ofNat_eq_ofNat, BitVec.toNat_ofNat, Nat.zero_mod]

/-- What `checked_add` returns is the sum over the naturals. -/
theorem toNat_of_checkedAdd {x y z : BitVec w} (sum : checkedAdd x y = some z) :
    z.toNat = x.toNat + y.toNat := by
  unfold checkedAdd at sum
  split_ifs at sum with fits
  cases sum
  rw [BitVec.toNat_add, Nat.mod_eq_of_lt fits]

/-- A sum that grows did not wrap. -/
theorem toNat_saturatingAdd (x y : BitVec w) :
    (saturatingAdd x y).toNat = min (x.toNat + y.toNat) (2 ^ w - 1) := by
  unfold saturatingAdd
  have pos : 0 < 2 ^ w := Nat.two_pow_pos w
  split_ifs with fits
  · rw [BitVec.toNat_add, Nat.mod_eq_of_lt fits]
    omega
  · rw [BitVec.toNat_allOnes]
    omega

/-- A sum that grows does not wrap. -/
theorem toNat_add_of_lt_add {x y : BitVec w} (grows : x < x + y) :
    (x + y).toNat = x.toNat + y.toNat := by
  rw [BitVec.lt_def, BitVec.toNat_add] at grows
  rw [BitVec.toNat_add]
  have xBound := x.isLt
  have yBound := y.isLt
  by_cases fits : x.toNat + y.toNat < 2 ^ w
  · exact Nat.mod_eq_of_lt fits
  · -- a wrapped sum is below `x`
    have wrapped : (x.toNat + y.toNat) % 2 ^ w = x.toNat + y.toNat - 2 ^ w := by
      rw [Nat.mod_eq_sub_mod (by omega), Nat.mod_eq_of_lt (by omega)]
    omega

section Fractions

/-- `a / b < c / d` when the integer parts are ordered so, over the naturals:
`a * d < c * b`. -/
theorem mul_lt_mul_of_div_lt {a b c d : Nat} (bPos : 0 < b) (dPos : 0 < d)
    (ordered : a / b < c / d) : a * d < c * b := by
  have below : a < (a / b + 1) * b := by
    rw [Nat.add_one_mul]
    exact Nat.lt_div_mul_add bPos
  calc a * d < (a / b + 1) * b * d := Nat.mul_lt_mul_of_pos_right below dPos
    _ ≤ c / d * b * d := Nat.mul_le_mul_right d (Nat.mul_le_mul_right b ordered)
    _ = c / d * d * b := by ring
    _ ≤ c * b := Nat.mul_le_mul_right b (Nat.div_mul_le_self c d)

/-- Fractions with equal integer parts compare as their remainders do. -/
theorem mul_lt_mul_iff_of_div_eq {a b c d : Nat} (same : a / b = c / d) :
    a * d < c * b ↔ a % b * d < c % d * b := by
  have expandA : a * d = b * (a / b) * d + a % b * d := by
    conv_lhs => rw [← Nat.div_add_mod a b]
    ring
  have expandC : c * b = b * (a / b) * d + c % d * b := by
    conv_lhs => rw [← Nat.div_add_mod c d]
    rw [same]
    ring
  rw [expandA, expandC]
  exact Nat.add_lt_add_iff_left

end Fractions

/-! ## Faults of block numbers and moments

Block numbers and moments are naturals; a subtraction that would underflow and
a division or remainder by zero are `none`. -/

/-- `a - b`, `none` where it would underflow. -/
def checkedSub (a b : Nat) : Option Nat := if b ≤ a then some (a - b) else none

/-- `a / b`, `none` on a zero divisor. -/
def checkedDiv (a b : Nat) : Option Nat := if b = 0 then none else some (a / b)

/-- `a % b`, `none` on a zero divisor. -/
def checkedRem (a b : Nat) : Option Nat := if b = 0 then none else some (a % b)

/-- A subtraction that does not go below zero succeeds. -/
@[simp] theorem checkedSub_of_le {a b : Nat} (le : b ≤ a) : checkedSub a b = some (a - b) := if_pos le

/-- Division by a positive number succeeds. -/
@[simp] theorem checkedDiv_of_pos (a : Nat) {b : Nat} (pos : 0 < b) : checkedDiv a b = some (a / b) :=
  if_neg (Nat.pos_iff_ne_zero.mp pos)

/-- The remainder by a positive number exists. -/
@[simp] theorem checkedRem_of_pos (a : Nat) {b : Nat} (pos : 0 < b) : checkedRem a b = some (a % b) :=
  if_neg (Nat.pos_iff_ne_zero.mp pos)

/-- The remainder by zero does not exist. -/
@[simp] theorem checkedRem_zero (a : Nat) : checkedRem a 0 = none := if_pos rfl

/-- Division by zero fails. -/
@[simp] theorem checkedDiv_zero (a : Nat) : checkedDiv a 0 = none := if_pos rfl

end Foundations
