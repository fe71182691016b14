import Mathlib

/-!
# Aligned blocks of a list and a ternary counter

A list read in aligned blocks of `width` items (`chunk`), blocks of blocks
(`chunk_chunk`), and the ternary digits of a count of items: after one more
item, the blocks of `3 ^ depth` items completed move on exactly at the depths
whose power divides the new count, and every digit below such a depth is zero.
-/

namespace Foundations

section Chunks

variable {α : Type}

/-- The `index`-th block of `width` items of a list, short at its end. -/
def chunk (items : List α) (width index : Nat) : List α :=
  (items.drop (index * width)).take width

/-- The `part`-th block of `width` items inside the `index`-th block of
`count * width` items. -/
theorem chunk_chunk (items : List α) (width count index part : Nat) (inside : part < count) :
    chunk (chunk items (count * width) index) width part =
      chunk items width (count * index + part) := by
  unfold chunk
  rw [List.drop_take, List.drop_drop, List.take_take]
  have fits : width ≤ count * width - part * width := by
    have : (part + 1) * width ≤ count * width := Nat.mul_le_mul_right width inside
    rw [Nat.succ_mul] at this
    omega
  rw [Nat.min_eq_left fits]
  congr 2
  ring

/-- A block of one item is the item there. -/
theorem chunk_one (items : List α) (index : Nat) : chunk items 1 index = items[index]?.toList := by
  rw [chunk, Nat.mul_one, List.take_one, List.head?_drop]

/-- The first block of a list no longer than the width is the whole list. -/
theorem chunk_zero_of_length_le {items : List α} {width : Nat} (short : items.length ≤ width) :
    chunk items width 0 = items := by
  rw [chunk, Nat.zero_mul, List.drop_zero, List.take_of_length_le short]

end Chunks

section Ternary

variable {count depth : Nat}

/-- Below a depth whose power divides the new count, the new count has the digit
zero. -/
theorem succ_div_pow_mod_of_lt (ends : 3 ^ depth ∣ count + 1) {lower : Nat} (below : lower < depth) :
    (count + 1) / 3 ^ lower % 3 = 0 := by
  obtain ⟨blocks, split⟩ := Nat.pow_dvd_of_le_of_pow_dvd below ends
  rw [split, pow_succ, Nat.mul_assoc, Nat.mul_div_cancel_left _ (by positivity), Nat.mul_mod_right]

/-- At a depth whose power divides the new count, the next power divides it too
exactly when the old count's digit there is the last one. -/
theorem pow_succ_dvd_iff (ends : 3 ^ depth ∣ count + 1) :
    3 ^ (depth + 1) ∣ count + 1 ↔ count / 3 ^ depth % 3 = 2 := by
  obtain ⟨blocks, split⟩ := ends
  have counted : count / 3 ^ depth + 1 = blocks := by
    rw [← Nat.succ_div_of_dvd ⟨blocks, split⟩, split, Nat.mul_div_cancel_left _ (by positivity)]
  rw [split, pow_succ, Nat.mul_dvd_mul_iff_left (by positivity), Nat.dvd_iff_mod_eq_zero, ← counted]
  omega

/-- A power that does not divide the new count leaves the count of blocks
alone at every depth from there up. -/
theorem succ_div_pow_of_not_dvd (short : ¬ 3 ^ depth ∣ count + 1) {upper : Nat} (above : depth ≤ upper) :
    (count + 1) / 3 ^ upper = count / 3 ^ upper :=
  Nat.succ_div_of_not_dvd fun ends => short (Nat.pow_dvd_of_le_of_pow_dvd above ends)

/-- A count whose last digit is not the last one starts its triple where one
more does. -/
theorem succ_sub_mod_of_ne {blocks : Nat} (notLast : blocks % 3 ≠ 2) :
    blocks + 1 - (blocks + 1) % 3 = blocks - blocks % 3 := by
  omega

/-- The count of blocks one depth up. -/
theorem div_pow_succ (count depth : Nat) : count / 3 ^ (depth + 1) = count / 3 ^ depth / 3 := by
  rw [Nat.div_div_eq_div_mul, pow_succ]

end Ternary

end Foundations
