import Mathlib

/-!
# Quorums

Out of `n` members of which at most `f` are faulty, a quorum is a set of at
least `n - f` of them.  When `3 f < n`, two quorums share a correct member, and
one quorum already holds one: the counting behind the safety of Byzantine
agreement.
-/

namespace Foundations

variable {α : Type} [DecidableEq α]

section Quorums

variable {members correct : Finset α} {n f : Nat}

/-- A quorum holds a correct member. -/
theorem exists_correct_of_quorum (fewFaulty : (members \ correct).card ≤ f) (bound : 2 * f < n)
    {quorum : Finset α} (within : quorum ⊆ members) (large : n - f ≤ quorum.card) :
    ∃ x ∈ quorum, x ∈ correct := by
  by_contra none
  simp only [not_exists, not_and] at none
  have faulty : quorum ⊆ members \ correct := fun x member =>
    Finset.mem_sdiff.mpr ⟨within member, none x member⟩
  have := Finset.card_le_card faulty
  omega

/-- Two quorums share a correct member. -/
theorem exists_correct_of_quorums (card_members : members.card = n)
    (fewFaulty : (members \ correct).card ≤ f) (bound : 3 * f < n) {first second : Finset α}
    (firstWithin : first ⊆ members) (secondWithin : second ⊆ members)
    (firstLarge : n - f ≤ first.card) (secondLarge : n - f ≤ second.card) :
    ∃ x ∈ first, x ∈ second ∧ x ∈ correct := by
  -- the two quorums overlap in at least `n - 2 f` members, more than the faulty ones
  have overlap : first.card + second.card ≤ n + (first ∩ second).card := by
    have unionWithin : (first ∪ second).card ≤ n :=
      card_members ▸ Finset.card_le_card (Finset.union_subset firstWithin secondWithin)
    have := Finset.card_union_add_card_inter first second
    omega
  by_contra none
  simp only [not_exists, not_and] at none
  have faulty : first ∩ second ⊆ members \ correct := by
    intro x member
    obtain ⟨inFirst, inSecond⟩ := Finset.mem_inter.mp member
    exact Finset.mem_sdiff.mpr ⟨firstWithin inFirst, none x inFirst inSecond⟩
  have := Finset.card_le_card faulty
  omega

end Quorums

end Foundations
