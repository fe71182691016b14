import Mathlib

/-!
# Maps kept sorted by key

A `BTreeMap` is iterated in increasing order of its keys, so a model that
iterates over one keeps its entries as a list sorted by strictly increasing
keys.  Inserting replaces the entry of an equal key in place and puts a new key
before the first greater one; erasing drops the entry of the key.
-/

namespace Foundations

/-- A map as its entries in increasing order of their keys. -/
abbrev SortedMap (K V : Type) := List (K × V)

namespace SortedMap

variable {K V : Type} [LinearOrder K]

/-- `BTreeMap::get`. -/
def get? (map : SortedMap K V) (key : K) : Option V :=
  (map.find? fun entry => entry.1 = key).map Prod.snd

/-- `BTreeMap::insert`. -/
def insert (key : K) (value : V) : SortedMap K V → SortedMap K V
  | [] => [(key, value)]
  | entry :: rest =>
      if key < entry.1 then (key, value) :: entry :: rest
      else if key = entry.1 then (key, value) :: rest
      else entry :: insert key value rest

/-- `BTreeMap::remove`. -/
def erase (key : K) (map : SortedMap K V) : SortedMap K V :=
  map.filter fun entry => entry.1 ≠ key

/-- An entry after an insertion is the one inserted or was there before. -/
theorem mem_insert {key : K} {value : V} {map : SortedMap K V} {entry : K × V}
    (member : entry ∈ map.insert key value) : entry = (key, value) ∨ entry ∈ map := by
  induction map with
  | nil => exact .inl (List.mem_singleton.mp member)
  | cons first rest ih =>
      unfold insert at member
      split_ifs at member with before same
      · rcases List.mem_cons.mp member with inserted | old
        · exact .inl inserted
        · exact .inr old
      · rcases List.mem_cons.mp member with inserted | old
        · exact .inl inserted
        · exact .inr (List.mem_cons_of_mem _ old)
      · rcases List.mem_cons.mp member with kept | later
        · exact .inr (kept ▸ List.mem_cons_self ..)
        · rcases ih later with inserted | old
          · exact .inl inserted
          · exact .inr (List.mem_cons_of_mem _ old)

/-- The inserted entry is in the map after an insertion. -/
theorem mem_insert_self (key : K) (value : V) (map : SortedMap K V) :
    (key, value) ∈ map.insert key value := by
  induction map with
  | nil => exact List.mem_singleton_self _
  | cons first rest ih =>
      unfold insert
      split_ifs
      · exact List.mem_cons_self ..
      · exact List.mem_cons_self ..
      · exact List.mem_cons_of_mem _ ih

/-- An entry of another key stays through an insertion. -/
theorem mem_insert_of_ne {key : K} {value : V} {map : SortedMap K V} {entry : K × V}
    (member : entry ∈ map) (other : entry.1 ≠ key) : entry ∈ map.insert key value := by
  induction map with
  | nil => cases member
  | cons first rest ih =>
      unfold insert
      split_ifs with before same
      · exact List.mem_cons_of_mem _ member
      · -- the replaced entry is the one of `key`, so `entry` is a later one
        rcases List.mem_cons.mp member with replaced | later
        · exact absurd (same.trans (congrArg Prod.fst replaced).symm).symm other
        · exact List.mem_cons_of_mem _ later
      · rcases List.mem_cons.mp member with kept | later
        · exact kept ▸ List.mem_cons_self ..
        · exact List.mem_cons_of_mem _ (ih later)

/-- The inserted key looks up to the inserted value. -/
theorem get?_insert_self (key : K) (value : V) (map : SortedMap K V) :
    (map.insert key value).get? key = some value := by
  induction map with
  | nil => simp [insert, get?]
  | cons first rest ih =>
      unfold insert
      split_ifs with before same
      · simp [get?]
      · simp [get?]
      · have differs : first.1 ≠ key := fun equal => same equal.symm
        simpa [get?, List.find?_cons, differs] using ih

/-- Inserting a key the map does not have keeps its keys distinct. -/
theorem nodup_keys_insert {key : K} {value : V} {map : SortedMap K V}
    (fresh : key ∉ map.map Prod.fst) (distinct : (map.map Prod.fst).Nodup) :
    ((map.insert key value).map Prod.fst).Nodup := by
  induction map with
  | nil => simp [insert]
  | cons first rest ih =>
      obtain ⟨firstFresh, restDistinct⟩ := List.nodup_cons.mp distinct
      have keyNotFirst : key ≠ first.1 := fun equal => fresh (equal ▸ List.mem_cons_self ..)
      have keyNotRest : key ∉ rest.map Prod.fst := fun member => fresh (List.mem_cons_of_mem _ member)
      unfold insert
      -- the case of an equal key is ruled out by `keyNotFirst`
      split_ifs with before
      · exact List.nodup_cons.mpr ⟨fresh, distinct⟩
      · -- the first key is neither the inserted one nor a later one
        refine List.nodup_cons.mpr ⟨fun member => ?_, ih keyNotRest restDistinct⟩
        obtain ⟨entry, entryMember, entryKey⟩ := List.mem_map.mp member
        rcases mem_insert entryMember with inserted | old
        · exact keyNotFirst (by rw [← entryKey, inserted])
        · exact firstFresh (entryKey ▸ List.mem_map_of_mem old)

/-- An entry after erasures was there before. -/
theorem mem_of_mem_foldl_erase {keys : List K} {map : SortedMap K V} {entry : K × V}
    (member : entry ∈ keys.foldl (fun map key => map.erase key) map) : entry ∈ map := by
  induction keys generalizing map with
  | nil => exact member
  | cons key keys ih => exact (List.mem_filter.mp (ih member)).1

/-! ## Maps with increasing keys -/

/-- Keys in strictly increasing order, as a `BTreeMap` iterates them. -/
def Sorted (map : SortedMap K V) : Prop := map.Pairwise fun first second => first.1 < second.1

/-- The empty map is sorted. -/
theorem sorted_nil : Sorted ([] : SortedMap K V) := List.Pairwise.nil

/-- Inserting into a map with increasing keys keeps its keys increasing. -/
theorem sorted_insert (key : K) (value : V) {map : SortedMap K V} (sorted : map.Sorted) :
    (map.insert key value).Sorted := by
  induction map with
  | nil => exact List.pairwise_singleton _ _
  | cons first rest ih =>
      obtain ⟨firstBelow, restSorted⟩ := List.pairwise_cons.mp sorted
      unfold insert
      split_ifs with before same
      · refine List.pairwise_cons.mpr ⟨fun entry member => ?_, sorted⟩
        rcases List.mem_cons.mp member with isFirst | later
        · exact isFirst ▸ before
        · exact before.trans (firstBelow entry later)
      · exact List.pairwise_cons.mpr ⟨fun entry later => same ▸ firstBelow entry later, restSorted⟩
      · have after : first.1 < key := lt_of_le_of_ne (not_lt.mp before) (Ne.symm same)
        refine List.pairwise_cons.mpr ⟨fun entry member => ?_, ih restSorted⟩
        rcases mem_insert member with inserted | old
        · exact inserted ▸ after
        · exact firstBelow entry old

/-- In a map with increasing keys, two entries of one key are the same entry. -/
theorem Sorted.eq_of_key {map : SortedMap K V} (sorted : map.Sorted) {entry other : K × V}
    (member : entry ∈ map) (otherMember : other ∈ map) (sameKey : entry.1 = other.1) :
    entry = other := by
  induction map with
  | nil => cases member
  | cons first rest ih =>
      obtain ⟨firstBelow, restSorted⟩ := List.pairwise_cons.mp sorted
      rcases List.mem_cons.mp member with rfl | later <;>
        rcases List.mem_cons.mp otherMember with rfl | otherLater
      · rfl
      · exact absurd (sameKey ▸ firstBelow other otherLater) (lt_irrefl _)
      · exact absurd (sameKey ▸ firstBelow entry later) (lt_irrefl _)
      · exact ih restSorted later otherLater

/-- After an insertion into a map with increasing keys, the entry of the key
is the inserted one, and the others are those of the map. -/
theorem mem_insert_iff {key : K} {value : V} {map : SortedMap K V} (sorted : map.Sorted)
    {entry : K × V} :
    entry ∈ map.insert key value ↔ entry = (key, value) ∨ entry.1 ≠ key ∧ entry ∈ map := by
  constructor
  · intro member
    by_cases sameKey : entry.1 = key
    · exact .inl ((sorted_insert key value sorted).eq_of_key member (mem_insert_self key value map)
        sameKey)
    · exact .inr ⟨sameKey, (mem_insert member).resolve_left fun inserted => sameKey (inserted ▸ rfl)⟩
  · rintro (rfl | ⟨other, member⟩)
    · exact mem_insert_self _ _ map
    · exact mem_insert_of_ne member other

/-- In a map with increasing keys, a lookup finds the entry of the key. -/
theorem get?_eq_some_iff {map : SortedMap K V} (sorted : map.Sorted) {key : K} {value : V} :
    map.get? key = some value ↔ (key, value) ∈ map := by
  unfold get?
  constructor
  · intro found
    obtain ⟨entry, entryFound, rfl⟩ := Option.map_eq_some_iff.mp found
    have sameKey : entry.1 = key := by simpa using List.find?_some entryFound
    exact sameKey ▸ List.mem_of_find?_eq_some entryFound
  · intro member
    obtain ⟨entry, entryFound⟩ : ∃ entry, map.find? (fun entry => entry.1 = key) = some entry :=
      Option.isSome_iff_exists.mp (List.find?_isSome.mpr ⟨_, member, by simp⟩)
    have sameKey : entry.1 = key := by simpa using List.find?_some entryFound
    rw [entryFound, sorted.eq_of_key (List.mem_of_find?_eq_some entryFound) member sameKey]
    rfl

/-- A lookup misses exactly the keys that have no entry. -/
theorem get?_eq_none_iff {map : SortedMap K V} {key : K} :
    map.get? key = none ↔ ∀ value, (key, value) ∉ map := by
  unfold get?
  rw [Option.map_eq_none_iff, List.find?_eq_none]
  constructor
  · intro missing value member
    exact missing _ member (by simp)
  · intro missing entry member sameKey
    exact missing entry.2 (by simpa using (of_decide_eq_true sameKey) ▸ member)

/-- Two maps with increasing keys and the same entries are equal. -/
theorem Sorted.eq_of_mem_iff {map other : SortedMap K V} (sorted : map.Sorted)
    (otherSorted : other.Sorted) (same : ∀ entry, entry ∈ map ↔ entry ∈ other) : map = other :=
  haveI : Std.Irrefl fun first second : K × V => first.1 < second.1 := ⟨fun entry => lt_irrefl entry.1⟩
  List.Pairwise.eq_of_mem_iff sorted otherSorted same

end SortedMap

end Foundations
