import Mathlib.Data.List.Nodup
import Mathlib.Data.List.Perm.Basic

/-!
# Maps that keep the order of insertion

A `LinkedHashMap` keeps its entries in the order their keys were inserted,
oldest first: `front` and `pop_front` read the oldest entry, and `insert` of a
key that is there already replaces its value and moves the entry to the back.
The keys of a map are distinct, and the structure carries that.
-/

namespace Foundations

/-- A map as its entries, oldest first, with distinct keys. -/
structure LinkedMap (K V : Type) where
  entries : List (K × V)
  nodup : (entries.map Prod.fst).Nodup
deriving DecidableEq

/-! ## Scans from the front -/

section Scans

variable {α : Type} {p : α → Bool}

/-- When `p` holds of an item only if it holds of every item before it, the
longest prefix `p` holds on is all the items it holds of. -/
theorem takeWhile_eq_filter :
    ∀ {items : List α}, items.Pairwise (fun before after => p after → p before) →
      items.takeWhile p = items.filter p
  | [], _ => rfl
  | item :: rest, ordered => by
    rw [List.pairwise_cons] at ordered
    by_cases holds : p item
    · rw [List.takeWhile_cons_of_pos holds, List.filter_cons_of_pos holds,
        takeWhile_eq_filter ordered.2]
    · -- nothing after `item` satisfies `p`
      have none : rest.filter p = [] := List.filter_eq_nil_iff.mpr fun later member satisfied =>
        holds (ordered.1 later member satisfied)
      rw [List.takeWhile_cons_of_neg holds, List.filter_cons_of_neg holds, none]

/-- What is left after that prefix is all the items `p` fails on. -/
theorem dropWhile_eq_filter :
    ∀ {items : List α}, items.Pairwise (fun before after => p after → p before) →
      items.dropWhile p = items.filter fun item => !p item
  | [], _ => rfl
  | item :: rest, ordered => by
    rw [List.pairwise_cons] at ordered
    by_cases holds : p item
    · rw [List.dropWhile_cons_of_pos holds, List.filter_cons_of_neg (by simpa using holds),
        dropWhile_eq_filter ordered.2]
    · have all : rest.filter (fun item => !p item) = rest := List.filter_eq_self.mpr
        fun later member => by simpa using fun satisfied => holds (ordered.1 later member satisfied)
      rw [List.dropWhile_cons_of_neg holds, List.filter_cons_of_pos (by simpa using holds), all]

end Scans

namespace LinkedMap

variable {K V : Type}

/-- Maps with the same entries are equal. -/
@[ext] theorem ext {map other : LinkedMap K V} (same : map.entries = other.entries) :
    map = other := by
  cases map
  cases other
  cases same
  rfl

/-- The empty map. -/
def empty : LinkedMap K V := ⟨[], List.nodup_nil⟩

/-- The keys, oldest first. -/
def keys (map : LinkedMap K V) : List K := map.entries.map Prod.fst

/-- The values, oldest first. -/
def values (map : LinkedMap K V) : List V := map.entries.map Prod.snd

/-- `pop_front`: the oldest entry and the map without it; `front` is its first
part. -/
def popFront? : LinkedMap K V → Option ((K × V) × LinkedMap K V)
  | ⟨[], _⟩ => none
  | ⟨entry :: rest, nodup⟩ => some (entry, ⟨rest, (List.nodup_cons.mp nodup).2⟩)

/-- The empty map has no entries. -/
@[simp] theorem entries_empty : (empty : LinkedMap K V).entries = [] := rfl

/-- A key of the map is the key of one of its entries. -/
theorem mem_keys {map : LinkedMap K V} {key : K} :
    key ∈ map.keys ↔ ∃ value, (key, value) ∈ map.entries := by
  simp [keys]

/-- Popping the front gives the first entry and the map of the others. -/
theorem popFront?_eq_some {map rest : LinkedMap K V} {entry : K × V} :
    map.popFront? = some (entry, rest) ↔ map.entries = entry :: rest.entries := by
  obtain ⟨entries, nodup⟩ := map
  cases entries with
  | nil => simp [popFront?]
  | cons first later =>
    simp only [popFront?, Option.some.injEq, Prod.mk.injEq, List.cons.injEq]
    constructor
    · rintro ⟨rfl, rfl⟩
      exact ⟨rfl, rfl⟩
    · rintro ⟨rfl, same⟩
      exact ⟨rfl, LinkedMap.ext same⟩

/-- Popping the front fails exactly on the empty map. -/
theorem popFront?_eq_none {map : LinkedMap K V} : map.popFront? = none ↔ map.entries = [] := by
  obtain ⟨entries, nodup⟩ := map
  cases entries <;> simp [popFront?]

variable [DecidableEq K]

/-- `get`: the value of `key`, if it has one. -/
def get? (map : LinkedMap K V) (key : K) : Option V :=
  (map.entries.find? fun entry => entry.1 = key).map Prod.snd

/-- The map without the entry of `key`. -/
def erase (map : LinkedMap K V) (key : K) : LinkedMap K V :=
  ⟨map.entries.filter (fun entry => entry.1 ≠ key),
    map.nodup.sublist (List.filter_sublist.map Prod.fst)⟩

/-- `remove`: the value of `key`, if it has one, and the map without it. -/
def remove (map : LinkedMap K V) (key : K) : Option V × LinkedMap K V :=
  (map.get? key, map.erase key)

/-- An erased key is gone. -/
theorem not_mem_keys_erase (map : LinkedMap K V) (key : K) : key ∉ (map.erase key).keys := by
  simp [keys, erase]

/-- `insert`: the entry goes to the back, in place of an entry of the same key. -/
def insert (map : LinkedMap K V) (key : K) (value : V) : LinkedMap K V :=
  ⟨(map.erase key).entries ++ [(key, value)], by
    rw [List.map_append, List.nodup_append]
    refine ⟨(map.erase key).nodup, List.nodup_singleton _, ?_⟩
    intro other kept last single same
    rw [List.map_singleton, List.mem_singleton] at single
    subst same single
    exact not_mem_keys_erase map other kept⟩

/-- Erasing a key drops its entry and keeps the order of the others. -/
@[simp] theorem entries_erase (map : LinkedMap K V) (key : K) :
    (map.erase key).entries = map.entries.filter fun entry => entry.1 ≠ key := rfl

/-- Inserting a key moves it, with its new value, to the back. -/
@[simp] theorem entries_insert (map : LinkedMap K V) (key : K) (value : V) :
    (map.insert key value).entries = (map.erase key).entries ++ [(key, value)] := rfl

/-- `remove` returns the value at the key. -/
@[simp] theorem remove_fst (map : LinkedMap K V) (key : K) : (map.remove key).1 = map.get? key := rfl

/-- `remove` leaves the map with the key erased. -/
@[simp] theorem remove_snd (map : LinkedMap K V) (key : K) : (map.remove key).2 = map.erase key := rfl

/-- The entries after an erase are those of other keys. -/
theorem mem_erase {map : LinkedMap K V} {key : K} {entry : K × V} :
    entry ∈ (map.erase key).entries ↔ entry ∈ map.entries ∧ entry.1 ≠ key := by
  simp

/-- The keys after an erase are the other keys. -/
theorem mem_keys_erase {map : LinkedMap K V} {key other : K} :
    other ∈ (map.erase key).keys ↔ other ∈ map.keys ∧ other ≠ key := by
  simp only [mem_keys, mem_erase]
  constructor
  · rintro ⟨value, member, different⟩
    exact ⟨⟨value, member⟩, different⟩
  · rintro ⟨⟨value, member⟩, different⟩
    exact ⟨value, member, different⟩

omit [DecidableEq K] in
/-- Two entries of one key are one entry. -/
theorem eq_of_mem {map : LinkedMap K V} {key : K} {value other : V}
    (member : (key, value) ∈ map.entries) (also : (key, other) ∈ map.entries) : value = other :=
  congrArg Prod.snd (List.inj_on_of_nodup_map map.nodup member also rfl)

/-- A lookup finds exactly the value of the key's entry. -/
theorem get?_eq_some_iff {map : LinkedMap K V} {key : K} {value : V} :
    map.get? key = some value ↔ (key, value) ∈ map.entries := by
  unfold get?
  constructor
  · intro found
    obtain ⟨entry, first, rfl⟩ := Option.map_eq_some_iff.mp found
    have same : entry.1 = key := by simpa using List.find?_some first
    exact same ▸ List.mem_of_find?_eq_some first
  · intro member
    have present : (map.entries.find? fun entry => entry.1 = key).isSome :=
      List.find?_isSome.mpr ⟨(key, value), member, by simp⟩
    obtain ⟨entry, first⟩ := Option.isSome_iff_exists.mp present
    have same : entry.1 = key := by simpa using List.find?_some first
    have stored : (key, entry.2) ∈ map.entries := same ▸ List.mem_of_find?_eq_some first
    rw [first, Option.map_some, eq_of_mem stored member]

/-- A lookup finds nothing exactly for a key the map lacks. -/
theorem get?_eq_none_iff {map : LinkedMap K V} {key : K} : map.get? key = none ↔ key ∉ map.keys := by
  rw [mem_keys, not_exists]
  constructor
  · intro absent value member
    rw [get?_eq_some_iff.mpr member] at absent
    cases absent
  · intro absent
    cases found : map.get? key with
    | none => rfl
    | some value => exact absurd (get?_eq_some_iff.mp found) (absent value)

/-- Erasing a key the map lacks changes nothing. -/
theorem erase_of_not_mem {map : LinkedMap K V} {key : K} (absent : key ∉ map.keys) :
    map.erase key = map := by
  ext1
  rw [entries_erase, List.filter_eq_self]
  intro entry member
  have : entry.1 ≠ key := fun same => absent (mem_keys.mpr ⟨entry.2, same ▸ member⟩)
  simpa using this

/-- Inserting a new key appends its entry. -/
theorem entries_insert_of_not_mem {map : LinkedMap K V} {key : K} (absent : key ∉ map.keys)
    (value : V) : (map.insert key value).entries = map.entries ++ [(key, value)] := by
  rw [entries_insert, erase_of_not_mem absent]

/-- Inserting a new key puts it at the back of the keys. -/
theorem keys_insert_of_not_mem {map : LinkedMap K V} {key : K} (absent : key ∉ map.keys)
    (value : V) : (map.insert key value).keys = map.keys ++ [key] := by
  rw [keys, entries_insert_of_not_mem absent, List.map_append]
  rfl

/-- The entries of a map are its entry of `key` and the others. -/
theorem perm_erase {map : LinkedMap K V} {key : K} {value : V} (member : (key, value) ∈ map.entries) :
    map.entries.Perm ((key, value) :: (map.erase key).entries) := by
  obtain ⟨entries, nodup⟩ := map
  simp only [entries_erase]
  induction entries with
  | nil => cases member
  | cons first rest ih =>
    rw [List.map_cons, List.nodup_cons] at nodup
    by_cases same : first.1 = key
    · -- `first` is the entry of `key`, and no later entry has that key
      have later : ∀ entry ∈ rest, entry.1 ≠ key := fun entry kept here =>
        nodup.1 (same ▸ here ▸ List.mem_map_of_mem kept)
      have first_eq : first = (key, value) := by
        rcases List.mem_cons.mp member with here | kept
        · exact here.symm
        · exact absurd rfl (later _ kept)
      rw [List.filter_cons_of_neg (by simpa using same), List.filter_eq_self.mpr (by simpa using later),
        first_eq]
    · have kept : (key, value) ∈ rest := by
        rcases List.mem_cons.mp member with here | kept
        · exact absurd (here ▸ rfl) same
        · exact kept
      rw [List.filter_cons_of_pos (by simpa using same)]
      exact ((ih nodup.2 kept).cons first).trans (List.Perm.swap _ _ _)

/-- The values of a map are the value of one entry and those of the others. -/
theorem values_perm_erase {map : LinkedMap K V} {key : K} {value : V}
    (member : (key, value) ∈ map.entries) : map.values.Perm (value :: (map.erase key).values) :=
  (perm_erase member).map Prod.snd

end LinkedMap

end Foundations
