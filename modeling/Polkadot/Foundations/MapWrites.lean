import Mathlib

/-!
# Maps written by maps of changes

A map of changes is applied to a map by writing its entries one after another:
`HashMap::extend` inserts them, an update by optional values inserts or erases.
When the changes have distinct keys, each key ends up with what its own change
wrote and every other key keeps its value (`lookup_foldl_write`).  Two loops
over the same list that keep a relation at each step keep it at the end
(`foldl_related`).  Restricting a map to some keys and keeping the present
values of a map of optional values finish the library.
-/

namespace Foundations

section Related

variable {σ τ α : Type}

/-- Two loops over the same items keep a relation between their states when each
step keeps it. -/
theorem foldl_related (related : σ → τ → Prop) {first : σ → α → σ} {second : τ → α → τ}
    (step : ∀ left right item, related left right → related (first left item) (second right item))
    (items : List α) {left : σ} {right : τ} (start : related left right) :
    related (items.foldl first left) (items.foldl second right) := by
  induction items generalizing left right with
  | nil => exact start
  | cons item items ih => exact ih (step left right item start)

end Related

section Writes

variable {α β γ : Type} [DecidableEq α]

/-- A write of one key sets what that key looks up to from the value written
alone and leaves every other key alone. -/
def WritesKey (write : AList (fun _ : α => β) → α → γ → AList (fun _ : α => β))
    (put : γ → Option β) : Prop :=
  ∀ map key value other,
    (write map key value).lookup other = if other = key then put value else map.lookup other

/-- Inserting a function of the value written. -/
theorem writesKey_insert (f : γ → β) : WritesKey (fun (map : AList (fun _ : α => β)) key value =>
    map.insert key (f value)) fun value => some (f value) := by
  intro map key value other
  by_cases same : other = key
  · subst same; simp
  · simp [same, AList.lookup_insert_ne same]

/-- Writing an optional value: `Some` inserts it, `None` erases the key. -/
def writeOption (map : AList (fun _ : α => β)) (key : α) : Option β → AList (fun _ : α => β)
  | some value => map.insert key value
  | none => map.erase key

/-- `AList` writes of options write at their key only. -/
theorem writesKey_writeOption :
    WritesKey (writeOption : AList (fun _ : α => β) → α → Option β → AList (fun _ : α => β)) id := by
  intro map key value other
  by_cases same : other = key
  · subst same
    cases value <;> simp [writeOption]
  · cases value <;>
      simp [writeOption, same, AList.lookup_insert_ne same, AList.lookup_erase_ne same]

variable {write : AList (fun _ : α => β) → α → γ → AList (fun _ : α => β)} {put : γ → Option β}

/-- Writing changes of distinct keys: a key looks up to what its change put there,
or to its old value when no change has its key. -/
theorem lookup_foldl_write (writes : WritesKey write put) (changes : List (Σ _ : α, γ))
    (distinct : changes.NodupKeys) (map : AList (fun _ : α => β)) (key : α) :
    (changes.foldl (fun map change => write map change.1 change.2) map).lookup key =
      (changes.dlookup key).elim (map.lookup key) put := by
  induction changes generalizing map with
  | nil => rfl
  | cons change changes ih =>
      obtain ⟨changed, value⟩ := change
      obtain ⟨notLater, rest⟩ := List.nodupKeys_cons.mp distinct
      rw [List.foldl_cons, ih rest, writes]
      by_cases same : key = changed
      · -- the first change is the only one of its key
        subst same
        rw [List.dlookup_eq_none.mpr notLater]
        simp
      · simp [same, List.dlookup_cons_ne changes ⟨changed, value⟩ same]

/-- `lookup_foldl_write` for the changes of a map. -/
theorem lookup_foldl_write_entries (writes : WritesKey write put)
    (changes : AList (fun _ : α => γ)) (map : AList (fun _ : α => β)) (key : α) :
    (changes.entries.foldl (fun map change => write map change.1 change.2) map).lookup key =
      (changes.lookup key).elim (map.lookup key) put :=
  lookup_foldl_write writes changes.entries changes.nodupKeys map key

/-- Every entry of `changes` inserted into `map`, in order: `HashMap::extend`. -/
def extend (map changes : AList (fun _ : α => β)) : AList (fun _ : α => β) :=
  changes.entries.foldl (fun map change => map.insert change.1 change.2) map

/-- A key of an extended map holds the change, or else the old value. -/
@[simp]
theorem lookup_extend (map changes : AList (fun _ : α => β)) (key : α) :
    (extend map changes).lookup key = (changes.lookup key).or (map.lookup key) := by
  have written :=
    lookup_foldl_write_entries (writesKey_insert fun value : β => value) changes map key
  refine written.trans ?_
  cases changes.lookup key <;> rfl

end Writes

section Filters

variable {α β : Type} [DecidableEq α]

/-- The entries whose key `keep` accepts: `HashMap::retain` on keys. -/
def retain (keep : α → Bool) (map : AList (fun _ : α => β)) : AList (fun _ : α => β) :=
  ⟨map.entries.filter fun entry => keep entry.1, map.nodupKeys.sublist List.filter_sublist⟩

/-- Filtering entries by key keeps the lookups of the keys kept. -/
theorem dlookup_filter_keys (keep : α → Bool) (entries : List (Σ _ : α, β)) (key : α) :
    (entries.filter fun entry => keep entry.1).dlookup key =
      if keep key then entries.dlookup key else none := by
  induction entries with
  | nil => simp
  | cons entry entries ih =>
      obtain ⟨entryKey, value⟩ := entry
      by_cases same : key = entryKey
      · subst same
        by_cases kept : keep key <;> simp [kept, ih]
      · rw [List.dlookup_cons_ne _ _ same, ← ih, List.filter_cons]
        split
        · exact List.dlookup_cons_ne _ _ same
        · rfl

/-- A retained map keeps the lookups of the keys kept. -/
@[simp]
theorem lookup_retain (keep : α → Bool) (map : AList (fun _ : α => β)) (key : α) :
    (retain keep map).lookup key = if keep key then map.lookup key else none :=
  dlookup_filter_keys keep map.entries key

/-- An entry's value, when it is present. -/
def present (entry : Σ _ : α, Option β) : Option (Σ _ : α, β) :=
  entry.2.map (Sigma.mk entry.1)

omit [DecidableEq α] in
/-- The keys of the present entries are a sublist of all keys. -/
theorem keys_filterMap_present_sublist (entries : List (Σ _ : α, Option β)) :
    List.Sublist (entries.filterMap present).keys entries.keys := by
  induction entries with
  | nil => simp
  | cons entry entries ih =>
      obtain ⟨entryKey, value⟩ := entry
      cases value with
      | none => exact ih.cons _
      | some kept => exact ih.cons_cons _

/-- The present values of a map of optional values: the entries `Some`, with
the `None` ones left out. -/
def somes (map : AList (fun _ : α => Option β)) : AList (fun _ : α => β) where
  entries := map.entries.filterMap present
  nodupKeys := (keys_filterMap_present_sublist map.entries).nodup map.nodupKeys

/-- Looking up a present entry is looking up the option and flattening it. -/
theorem dlookup_filterMap_present (entries : List (Σ _ : α, Option β)) (distinct : entries.NodupKeys)
    (key : α) : (entries.filterMap present).dlookup key = (entries.dlookup key).join := by
  induction entries with
  | nil => simp
  | cons entry entries ih =>
      obtain ⟨entryKey, value⟩ := entry
      obtain ⟨notLater, rest⟩ := List.nodupKeys_cons.mp distinct
      by_cases same : key = entryKey
      · -- a deleted key has no later entry to look up
        subst same
        have absent : entries.dlookup key = none := List.dlookup_eq_none.mpr notLater
        cases value with
        | none => exact (ih rest).trans (by simp [absent])
        | some kept => simp [present]
      · rw [List.dlookup_cons_ne entries ⟨entryKey, value⟩ same, ← ih rest]
        cases value with
        | none => rfl
        | some kept => exact List.dlookup_cons_ne _ (⟨entryKey, kept⟩ : Σ _ : α, β) same

/-- `somes` keeps exactly the keys whose value is present. -/
@[simp]
theorem lookup_somes (map : AList (fun _ : α => Option β)) (key : α) :
    (somes map).lookup key = (map.lookup key).join :=
  dlookup_filterMap_present map.entries map.nodupKeys key

end Filters

end Foundations
