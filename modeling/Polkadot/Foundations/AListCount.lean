import Mathlib

/-!
# Counting the entries of an association list

An `AList` over a non-dependent fibre is the model of a hash map.  A counter
that a program maintains incrementally beside such a map is compared with
`countP` over the map's entries; this module says how that count moves when
one entry is inserted or replaced, and how a map of counters that drops its
zeros holds a count.
-/

namespace Foundations

variable {α β : Type} [DecidableEq α]

/-- Inserting at a fresh key adds the new entry to the count. -/
theorem countP_entries_insert_of_notMem (p : (Σ _ : α, β) → Bool)
    {map : AList (fun _ : α => β)} {key : α} (fresh : key ∉ map) (value : β) :
    (map.insert key value).entries.countP p =
      map.entries.countP p + if p ⟨key, value⟩ then 1 else 0 := by
  rw [AList.entries_insert_of_notMem fresh, List.countP_cons]

/-- Replacing the value at a key: the old entry leaves the count and the new
one enters it. -/
theorem countP_entries_insert_of_lookup (p : (Σ _ : α, β) → Bool)
    {map : AList (fun _ : α => β)} {key : α} {old : β}
    (present : map.lookup key = some old) (value : β) :
    (map.insert key value).entries.countP p + (if p ⟨key, old⟩ then 1 else 0) =
      map.entries.countP p + if p ⟨key, value⟩ then 1 else 0 := by
  have keyMember : key ∈ map.entries.keys :=
    AList.mem_keys.mp (AList.lookup_isSome.mp (by simp [present]))
  obtain ⟨stored, before, after, notBefore, split, erased⟩ :=
    List.exists_of_kerase keyMember
  have storedOld : stored = old := by
    have lookupSplit : map.lookup key = some stored := by
      rw [AList.lookup, split, List.dlookup_append,
        List.dlookup_eq_none.mpr notBefore, List.dlookup_cons_eq]
      rfl
    rw [present] at lookupSplit
    exact (Option.some.inj lookupSplit).symm
  rw [AList.entries_insert, erased, split, storedOld]
  simp only [List.countP_cons, List.countP_append]
  omega

/-- A stored entry that satisfies the predicate is counted. -/
theorem countP_entries_pos_of_lookup (p : (Σ _ : α, β) → Bool)
    {map : AList (fun _ : α => β)} {key : α} {value : β}
    (present : map.lookup key = some value) (holds : p ⟨key, value⟩ = true) :
    0 < map.entries.countP p :=
  List.countP_pos_iff.mpr ⟨⟨key, value⟩, AList.mem_lookup_iff.mp present, holds⟩

/-- How a map of counters that removes an entry at zero holds the count `n`. -/
def countEntry (n : Nat) : Option Nat := if n = 0 then none else some n

/-- A count of zero is no entry. -/
@[simp] theorem countEntry_zero : countEntry 0 = none := rfl

/-- A positive count is an entry. -/
theorem countEntry_of_pos {n : Nat} (positive : 0 < n) : countEntry n = some n := by
  simp [countEntry, Nat.pos_iff_ne_zero.mp positive]

/-- An entry read with zero for none is the count. -/
@[simp] theorem countEntry_getD (n : Nat) : (countEntry n).getD 0 = n := by
  unfold countEntry
  split <;> simp_all

/-- A count is no entry exactly when it is zero. -/
theorem countEntry_eq_none_iff {n : Nat} : countEntry n = none ↔ n = 0 := by
  unfold countEntry
  split <;> simp_all

/-- A count is an entry exactly when it is positive. -/
theorem countEntry_isSome_iff {n : Nat} : (countEntry n).isSome ↔ 0 < n := by
  unfold countEntry
  split <;> simp_all [Nat.pos_iff_ne_zero]

/-- A count moved by an entry that leaves it (`was`) and one that enters it
(`is`), as `countP_entries_insert_of_lookup` gives it. -/
theorem count_eq_of_moved {after before : Nat} {was is : Bool}
    (moved : after + (if was then 1 else 0) = before + if is then 1 else 0)
    (positive : was = true → 0 < before) :
    after = before - (if was then 1 else 0) + if is then 1 else 0 := by
  cases was
  · simp only [Bool.false_eq_true, ↓reduceIte, Nat.add_zero, Nat.sub_zero] at moved ⊢
    exact moved
  · have pos := positive rfl
    simp only [↓reduceIte] at moved ⊢
    omega

end Foundations
