import Mathlib

/-!
# Loops over lists

Imperative loops over a collection become folds: `List.foldl` for a loop that
cannot fail, `List.foldlM` in `Option` for one whose body may panic.  This
module gives the invariant rule of a fallible loop, what a key looks up to in a
map after a loop that inserts or erases a list of keys, and `Iterator::any` on
an iterator that a loop keeps using afterwards.
-/

namespace Foundations

section Fallible

variable {σ α : Type}

/-- The invariant rule of a fallible loop: if from every state of the
invariant each body step succeeds and keeps the invariant, the loop succeeds
and ends in the invariant. -/
theorem foldlM_some_of_invariant (invariant : σ → Prop) {step : σ → α → Option σ}
    {items : List α} {init : σ} (start : invariant init)
    (progress : ∀ state item, item ∈ items → invariant state →
      ∃ next, step state item = some next ∧ invariant next) :
    ∃ final, items.foldlM step init = some final ∧ invariant final := by
  induction items generalizing init with
  | nil => exact ⟨init, rfl, start⟩
  | cons item items ih =>
      obtain ⟨next, stepped, holds⟩ := progress init item (List.mem_cons_self ..) start
      obtain ⟨final, folded, finalHolds⟩ :=
        ih holds fun state item member => progress state item (List.mem_cons_of_mem _ member)
      exact ⟨final, by rw [List.foldlM_cons, stepped]; exact folded, finalHolds⟩

/-- The partial invariant rule: a loop that succeeds from a state of the
invariant, whose successful steps keep the invariant, ends in the invariant. -/
theorem foldlM_invariant (invariant : σ → Prop) {step : σ → α → Option σ}
    {items : List α} {init final : σ} (start : invariant init)
    (preserves : ∀ state item next, item ∈ items → invariant state →
      step state item = some next → invariant next)
    (folded : items.foldlM step init = some final) : invariant final := by
  induction items generalizing init with
  | nil => cases folded; exact start
  | cons item items ih =>
      rw [List.foldlM_cons] at folded
      cases stepped : step init item with
      | none => simp [stepped] at folded
      | some next =>
          rw [stepped] at folded
          exact ih (preserves init item next (List.mem_cons_self ..) start stepped)
            (fun state item next member => preserves state item next (List.mem_cons_of_mem _ member))
            folded

/-- A fallible map whose body succeeds on every item succeeds with the map of
what it returns. -/
theorem mapM_eq_some_map {β : Type} {f : α → Option β} {g : α → β} {items : List α}
    (agree : ∀ item ∈ items, f item = some (g item)) : items.mapM f = some (items.map g) := by
  induction items with
  | nil => rfl
  | cons item items ih =>
      rw [List.mapM_cons, agree item List.mem_cons_self,
        ih fun other member => agree other (List.mem_cons_of_mem _ member)]
      rfl

end Fallible

section Ranges

variable {α : Type}

/-- Position `i` of a range of blocks of `width` positions reads item
`i / width`: each item fills a block of its own. -/
theorem map_range_mul_div (items : List α) (width : Nat) :
    (List.range (items.length * width)).map (fun i => items[i / width]?) =
      (items.flatMap fun item => List.replicate width item).map some := by
  induction items with
  | nil => simp
  | cons item rest ih =>
      rw [List.length_cons, Nat.succ_mul, Nat.add_comm, List.range_add, List.map_append,
        List.map_map, List.flatMap_cons, List.map_append, ← ih]
      congr 1
      · -- the first block reads the first item
        rw [List.map_replicate, List.eq_replicate_iff]
        refine ⟨by simp, fun read member => ?_⟩
        obtain ⟨i, below, rfl⟩ := List.mem_map.mp member
        rw [Nat.div_eq_of_lt (List.mem_range.mp below)]
        rfl
      · -- the later blocks read the rest, one block further on
        refine List.map_congr_left fun i member => ?_
        have positive : 0 < width := Nat.pos_of_ne_zero fun zero => by simp [zero] at member
        simp only [Function.comp_apply, Nat.add_comm width i, Nat.add_div_right i positive,
          List.getElem?_cons_succ]

/-- An item occurs in blocks of `width` copies as many times as in the list of
the blocks' items, `width` times over. -/
theorem count_flatMap_replicate {β : Type} [BEq β] [LawfulBEq β] (f : α → β) (width : Nat)
    (items : List α) (x : β) :
    (items.flatMap fun item => List.replicate width (f item)).count x =
      (items.map f).count x * width := by
  induction items with
  | nil => simp
  | cons item items ih =>
      rw [List.flatMap_cons, List.count_append, ih, List.map_cons, List.count_cons,
        List.count_replicate, Nat.add_mul]
      by_cases same : f item == x <;> simp [same, Nat.add_comm]

end Ranges

section Sums

variable {α : Type}

/-- A loop that adds up a quantity over the items ends with their sum. -/
theorem foldl_add_eq_sum (f : α → Nat) (items : List α) (init : Nat) :
    items.foldl (fun total item => total + f item) init = init + (items.map f).sum := by
  induction items generalizing init with
  | nil => simp
  | cons item rest ih =>
      rw [List.foldl_cons, ih, List.map_cons, List.sum_cons]
      omega

end Sums

section Maps

variable {α β : Type} [DecidableEq α]

/-- After erasing a list of keys, a key looks up to nothing if it was erased
and to its old value otherwise. -/
theorem lookup_foldl_erase (keys : List α) (map : AList (fun _ : α => β)) (key : α) :
    (keys.foldl (fun map erased => map.erase erased) map).lookup key =
      if key ∈ keys then none else map.lookup key := by
  induction keys generalizing map with
  | nil => simp
  | cons erased keys ih =>
      rw [List.foldl_cons, ih]
      by_cases same : key = erased
      · subst same; simp
      · simp [same, AList.lookup_erase_ne same]

/-- After setting a list of keys to one value, a key looks up to that value if
it was set and to its old value otherwise. -/
theorem lookup_foldl_insert_const (keys : List α) (value : β) (map : AList (fun _ : α => β))
    (key : α) :
    (keys.foldl (fun map inserted => map.insert inserted value) map).lookup key =
      if key ∈ keys then some value else map.lookup key := by
  induction keys generalizing map with
  | nil => simp
  | cons inserted keys ih =>
      rw [List.foldl_cons, ih]
      by_cases same : key = inserted
      · subst same; simp
      · simp [same, AList.lookup_insert_ne same]

/-- After inserting a list of entries, the keys of a map are its old keys and
the keys inserted. -/
theorem mem_foldl_insert (entries : List (α × β)) (map : AList (fun _ : α => β)) (key : α) :
    key ∈ entries.foldl (fun map entry => map.insert entry.1 entry.2) map ↔
      key ∈ map ∨ key ∈ entries.map Prod.fst := by
  induction entries generalizing map with
  | nil => simp
  | cons entry entries ih =>
      rw [List.foldl_cons, ih, AList.mem_insert, List.map_cons, List.mem_cons]
      tauto

end Maps

section Iterators

variable {α : Type}

/-- `Iterator::any` on an iterator over a list: whether an item satisfies the
predicate, and what is left of the iterator, which `any` consumes up to and
including the first such item, and wholly when there is none. -/
def iterAny (p : α → Bool) : List α → Bool × List α
  | [] => (false, [])
  | item :: rest => if p item then (true, rest) else iterAny p rest

/-- `iter().any` answers whether any item passes the test. -/
@[simp]
theorem iterAny_fst (p : α → Bool) (items : List α) : (iterAny p items).1 = items.any p := by
  induction items with
  | nil => rfl
  | cons item rest ih =>
      by_cases found : p item
      · simp [iterAny, found]
      · simp [iterAny, found, ih]

/-- When `any` finds an item, the iterator is left just after the first item
that satisfies the predicate. -/
theorem iterAny_split {p : α → Bool} {items rest : List α}
    (found : iterAny p items = (true, rest)) :
    ∃ skipped item, items = skipped ++ item :: rest ∧ p item = true ∧
      ∀ other ∈ skipped, p other = false := by
  induction items with
  | nil => cases found
  | cons first items ih =>
      by_cases hit : p first
      · rw [iterAny, if_pos hit] at found
        obtain rfl := (Prod.mk.inj found).2
        exact ⟨[], first, rfl, hit, by simp⟩
      · rw [iterAny, if_neg hit] at found
        obtain ⟨skipped, item, rfl, itemHit, missed⟩ := ih found
        refine ⟨first :: skipped, item, rfl, itemHit, ?_⟩
        intro other member
        rcases List.mem_cons.mp member with rfl | later
        · simpa using hit
        · exact missed other later

/-- An item followed by more items is a sublist when `any` finds the item and
the rest is a sublist of what `any` leaves: a loop of `find`s on one iterator
accepts exactly its sublists. -/
theorem cons_sublist_iff_iterAny [DecidableEq α] {item : α} {rest items : List α} :
    (item :: rest).Sublist items ↔
      (iterAny (fun other => decide (other = item)) items).1 = true ∧
        rest.Sublist (iterAny (fun other => decide (other = item)) items).2 := by
  induction items with
  | nil => simp [iterAny]
  | cons first items ih =>
      by_cases same : first = item
      · subst same
        simp [iterAny]
      · rw [iterAny, if_neg (by simpa using same), ← ih]
        constructor
        · intro sub
          rcases List.sublist_cons_iff.mp sub with later | ⟨other, split, -⟩
          · exact later
          · exact absurd (List.cons.inj split).1.symm same
        · exact fun sub => sub.cons first

end Iterators

end Foundations
