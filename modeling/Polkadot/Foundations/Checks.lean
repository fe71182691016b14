import Mathlib

/-!
# Computations that check before they act

Runtime code checks its preconditions one after another and returns an error
at the first that fails (`ensure!`, or `if c { return Err(..) }`).  In `Except`
each check is an `if` whose failing branch throws and whose passing branch runs
the rest of the computation.  A run that succeeds passed every check, each with
a false condition (`check_eq_ok`), so it is peeled check by check without
unfolding the rest of the computation.
-/

namespace Foundations

variable {ε β : Type}

/-- A check that let the run through had a false condition, and the rest of the
run succeeded. -/
theorem check_eq_ok {condition : Prop} [Decidable condition] {e : ε} {rest : PUnit → Except ε β}
    {b : β} (passed : (if condition then throw e >>= rest else rest PUnit.unit) = .ok b) :
    ¬condition ∧ rest PUnit.unit = .ok b := by
  by_cases holds : condition
  · rw [if_pos holds] at passed
    cases passed
  · rw [if_neg holds] at passed
    exact ⟨holds, passed⟩

end Foundations
