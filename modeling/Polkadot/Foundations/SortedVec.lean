import Mathlib

/-!
# Vectors kept sorted

A `Vec` kept in strictly increasing order is searched by `binary_search`, which
finds an item at its position or says where it would be inserted.  Inserting a
missing item there keeps the vector sorted (`sorted_insertIdx_of_binarySearch`),
and removing an item found at its position removes that item alone
(`mem_eraseIdx_of_binarySearch`).  Sorting by a key and then dropping the
repeats of each run of equal keys, as `dedup_by_key` does, leaves keys that go
up strictly (`sorted_destutter`).
-/

namespace Foundations

section BinarySearch

variable {α : Type}

/-- Inserting at the end of the items below a bound puts the new item between
them and the rest. -/
theorem insertIdx_takeWhile (p : α → Bool) (items : List α) (item : α) :
    items.insertIdx (items.takeWhile p).length item =
      items.takeWhile p ++ item :: items.dropWhile p := by
  induction items with
  | nil => simp
  | cons first rest ih =>
      by_cases below : p first
      · simp [List.takeWhile_cons_of_pos below, List.dropWhile_cons_of_pos below,
          List.insertIdx_succ_cons, ih]
      · simp [List.takeWhile_cons_of_neg below, List.dropWhile_cons_of_neg below]

/-- The item at the search position is the first of those not below the item. -/
theorem getElem?_takeWhile_length (p : α → Bool) (items : List α) :
    items[(items.takeWhile p).length]? = (items.dropWhile p).head? := by
  induction items with
  | nil => rfl
  | cons first rest ih =>
      by_cases below : p first
      · simp [List.takeWhile_cons_of_pos below, List.dropWhile_cons_of_pos below, ih]
      · simp [List.takeWhile_cons_of_neg below, List.dropWhile_cons_of_neg below]

variable [LinearOrder α]

/-- `[T]::binary_search`: `Ok` with the position of the item, or `Err` with
the position where it would be inserted; both are the number of items below it
on a sorted slice.  On a slice that is not sorted the source leaves the answer
unspecified. -/
def binarySearch (items : List α) (item : α) : Except Nat Nat :=
  let position := (items.takeWhile fun other => decide (other < item)).length
  if items[position]? = some item then .ok position else .error position

variable {items : List α} {item : α} {position : Nat}

/-- A binary search that finds a position finds the item there. -/
theorem binarySearch_ok (found : binarySearch items item = .ok position) :
    items[position]? = some item := by
  unfold binarySearch at found
  dsimp only at found
  split_ifs at found with present
  cases found
  exact present

/-- A binary search that fails gives the number of items below the item, and the item is not there.
-/
theorem binarySearch_error (missing : binarySearch items item = .error position) :
    position = (items.takeWhile fun other => decide (other < item)).length ∧
      items[position]? ≠ some item := by
  unfold binarySearch at missing
  dsimp only at missing
  split_ifs at missing with present
  cases missing
  exact ⟨rfl, present⟩

/-- An item found by binary search is in the list. -/
theorem mem_of_binarySearch_ok (found : binarySearch items item = .ok position) : item ∈ items :=
  List.mem_of_getElem? (binarySearch_ok found)

/-- On a sorted slice, the items from the search position on are not below the
item. -/
theorem le_of_mem_dropWhile (sorted : items.Pairwise (· < ·)) {other : α}
    (member : other ∈ items.dropWhile fun other => decide (other < item)) : item ≤ other := by
  obtain ⟨first, rest, split⟩ := List.exists_cons_of_ne_nil (List.ne_nil_of_mem member)
  have firstAbove : item ≤ first := by
    have := List.head_dropWhile_not (fun other => decide (other < item))
      (List.ne_nil_of_mem member)
    simp only [split, List.head_cons, decide_eq_false_iff_not, not_lt] at this
    exact this
  have restSorted : (first :: rest).Pairwise (· < ·) :=
    split ▸ sorted.sublist (List.dropWhile_sublist _)
  rw [split] at member
  rcases List.mem_cons.mp member with rfl | later
  · exact firstAbove
  · exact firstAbove.trans (List.rel_of_pairwise_cons restSorted later).le

/-- On a sorted slice, `Err` means the item is missing. -/
theorem not_mem_of_binarySearch_error (sorted : items.Pairwise (· < ·))
    (missing : binarySearch items item = .error position) : item ∉ items := by
  intro member
  obtain ⟨rfl, absent⟩ := binarySearch_error missing
  rw [getElem?_takeWhile_length] at absent
  have whole : (items.takeWhile fun other => decide (other < item)) ++
      (items.dropWhile fun other => decide (other < item)) = items :=
    List.takeWhile_append_dropWhile
  rw [← whole] at member
  rcases List.mem_append.mp member with early | late
  · simpa using List.mem_takeWhile_imp early
  · -- the item is among the rest, whose first element is the least and not below it
    obtain ⟨first, rest, split⟩ := List.exists_cons_of_ne_nil (List.ne_nil_of_mem late)
    rw [split, List.head?_cons, ne_eq, Option.some.injEq] at absent
    have firstAbove : item ≤ first := le_of_mem_dropWhile sorted (by simp [split])
    rw [split] at late
    rcases List.mem_cons.mp late with same | later
    · exact absent same.symm
    · have restSorted : (first :: rest).Pairwise (· < ·) :=
        split ▸ sorted.sublist (List.dropWhile_sublist _)
      exact absurd (List.rel_of_pairwise_cons restSorted later) (not_lt.mpr firstAbove)

/-- A failed binary search gives a position inside the list or at its end. -/
theorem length_le_of_binarySearch_error (missing : binarySearch items item = .error position) :
    position ≤ items.length := by
  rw [(binarySearch_error missing).1]
  exact (List.takeWhile_sublist _).length_le

/-- Inserting a missing item at the position `Err` gives keeps a sorted slice
sorted. -/
theorem sorted_insertIdx_of_binarySearch (sorted : items.Pairwise (· < ·))
    (missing : binarySearch items item = .error position) :
    (items.insertIdx position item).Pairwise (· < ·) := by
  have absent := not_mem_of_binarySearch_error sorted missing
  rw [(binarySearch_error missing).1, insertIdx_takeWhile]
  have whole : (items.takeWhile fun other => decide (other < item)) ++
      (items.dropWhile fun other => decide (other < item)) = items :=
    List.takeWhile_append_dropWhile
  have parts := whole ▸ sorted
  refine List.pairwise_append.mpr ⟨(List.pairwise_append.mp parts).1, ?_, ?_⟩
  · -- the item is below the rest: not above any of it, and none of it
    refine List.pairwise_cons.mpr ⟨fun other member => ?_, (List.pairwise_append.mp parts).2.1⟩
    have ne : other ≠ item := fun same =>
      absent ((List.dropWhile_sublist _).subset (same ▸ member))
    exact lt_of_le_of_ne (le_of_mem_dropWhile sorted member) ne.symm
  · intro low lowMember other member
    have lowBelow : low < item := by simpa using List.mem_takeWhile_imp lowMember
    rcases List.mem_cons.mp member with rfl | later
    · exact lowBelow
    · exact lowBelow.trans_le (le_of_mem_dropWhile sorted later)

/-- Inserting an item where binary search failed adds it and keeps the others. -/
theorem mem_insertIdx_of_binarySearch (missing : binarySearch items item = .error position)
    {other : α} : other ∈ items.insertIdx position item ↔ other = item ∨ other ∈ items :=
  List.mem_insertIdx (length_le_of_binarySearch_error missing)

/-- Removing the item at the position `Ok` gives removes that item alone from a
sorted slice. -/
theorem mem_eraseIdx_of_binarySearch (sorted : items.Pairwise (· < ·))
    (found : binarySearch items item = .ok position) {other : α} :
    other ∈ items.eraseIdx position ↔ other ≠ item ∧ other ∈ items := by
  obtain ⟨inBounds, atPosition⟩ := List.getElem?_eq_some_iff.mp (binarySearch_ok found)
  have nodup : items.Nodup := sorted.imp ne_of_lt
  rw [← nodup.erase_getElem position inBounds, atPosition]
  exact nodup.mem_erase_iff

end BinarySearch

section Dedup

variable {α β : Type} [LinearOrder α]

/-- Keys that never go down and change at each step go up strictly. -/
theorem pairwise_lt_of_isChain_ne {keys : List α} (ordered : keys.Pairwise (· ≤ ·))
    (changing : keys.IsChain (· ≠ ·)) : keys.Pairwise (· < ·) := by
  induction changing with
  | nil => exact .nil
  | singleton key => exact List.pairwise_singleton _ key
  | @cons_cons first second rest differ _ ih =>
      have tail := ih ordered.of_cons
      have step : first < second :=
        lt_of_le_of_ne (List.rel_of_pairwise_cons ordered List.mem_cons_self) differ
      refine List.pairwise_cons.mpr ⟨fun other member => ?_, tail⟩
      rcases List.mem_cons.mp member with rfl | later
      · exact step
      · exact step.trans (List.rel_of_pairwise_cons tail later)

/-- Items sorted by a key, less the repeats of each run of equal keys, have keys
that go up strictly.  The keys are compared by their own equality, which a
caller's `dedup_by_key` uses. -/
theorem sorted_destutter [DecidableEq α] (key : β → α) {items : List β}
    (ordered : items.Pairwise fun a b => key a ≤ key b) :
    ((items.destutter fun a b => key a ≠ key b).map key).Pairwise (· < ·) :=
  pairwise_lt_of_isChain_ne
    (List.pairwise_map.mpr (ordered.sublist (List.destutter_sublist _ _)))
    ((List.isChain_map key).mpr (List.isChain_destutter _ _))

end Dedup

end Foundations
