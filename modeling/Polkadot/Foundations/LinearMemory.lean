import Mathlib

/-!
# Linear memories of pages

The operations of a byte-addressed memory made of pages of a fixed size, as a
program that is handed such memories uses them: allocation of zeroed pages up
to a maximum, growth, and reads and writes of ranges (`PagedMemory`).
`PagedMemory.Lawful` states what such a program relies on: a count of pages is
allowed up to a limit, a read or a write of a range the memory holds succeeds,
the range just written reads back as the bytes written, a range apart from it
reads as before, and growth keeps every range that was held.

`LinearMemory` is one such memory, its bytes a list that carries the fact that
it holds exactly as many bytes as its pages do; its operations are lawful
(`LinearMemory.paged_lawful`).
-/

namespace Foundations

/-- The operations of a linear memory of pages over memories of type `M`. -/
structure PagedMemory (M : Type) where
  /-- A memory of `initial` zeroed pages that may grow to the maximum, where the
  counts are allowed. -/
  alloc : Nat → Option Nat → Option M
  /-- The pages of a memory. -/
  pages : M → Nat
  /-- The pages a memory may grow to, where it has a maximum of its own. -/
  maximum : M → Option Nat
  /-- The memory with more pages, where the maximum allows them. -/
  grow : M → Nat → Option M
  /-- The bytes of the range at an offset, where the memory holds it. -/
  get : M → Nat → Nat → Option (List UInt8)
  /-- The memory with bytes written at an offset, where it holds the range. -/
  set : M → Nat → List UInt8 → Option M

namespace PagedMemory

variable {M : Type}

/-- What a program relies on of a memory of pages of `pageSize` bytes that
grows up to `maxPages` pages where it has no maximum of its own. -/
structure Lawful (memory : PagedMemory M) (pageSize maxPages : Nat) : Prop where
  alloc_isSome : ∀ {initial : Nat} {maximum : Option Nat}, (memory.alloc initial maximum).isSome ↔
    initial ≤ maxPages ∧ maximum.all fun maximum => initial ≤ maximum ∧ maximum ≤ maxPages
  alloc_pages : ∀ {initial : Nat} {maximum : Option Nat} {m : M}, memory.alloc initial maximum = some m →
    memory.pages m = initial ∧ memory.maximum m = maximum
  get_alloc : ∀ {initial : Nat} {maximum : Option Nat} {m : M} {offset length : Nat},
    memory.alloc initial maximum = some m → offset + length ≤ initial * pageSize →
      memory.get m offset length = some (List.replicate length 0)
  get_isSome : ∀ {m : M} {offset length : Nat},
    (memory.get m offset length).isSome ↔ offset + length ≤ memory.pages m * pageSize
  get_length : ∀ {m : M} {offset length : Nat} {data : List UInt8},
    memory.get m offset length = some data → data.length = length
  get_append : ∀ {m : M} {offset : Nat} {first second : List UInt8},
    memory.get m offset (first.length + second.length) = some (first ++ second) →
      memory.get m offset first.length = some first ∧
        memory.get m (offset + first.length) second.length = some second
  set_isSome : ∀ {m : M} {offset : Nat} {data : List UInt8},
    (memory.set m offset data).isSome ↔ offset + data.length ≤ memory.pages m * pageSize
  set_pages : ∀ {m m' : M} {offset : Nat} {data : List UInt8}, memory.set m offset data = some m' →
    memory.pages m' = memory.pages m ∧ memory.maximum m' = memory.maximum m
  get_set_self : ∀ {m m' : M} {offset : Nat} {data : List UInt8}, memory.set m offset data = some m' →
    memory.get m' offset data.length = some data
  get_set_of_disjoint : ∀ {m m' : M} {offset : Nat} {data : List UInt8} {other length : Nat},
    memory.set m offset data = some m' → other + length ≤ offset ∨ offset + data.length ≤ other →
      memory.get m' other length = memory.get m other length
  grow_isSome : ∀ {m : M} {additional : Nat},
    (memory.grow m additional).isSome ↔ memory.pages m + additional ≤ (memory.maximum m).getD maxPages
  grow_pages : ∀ {m m' : M} {additional : Nat}, memory.grow m additional = some m' →
    memory.pages m' = memory.pages m + additional ∧ memory.maximum m' = memory.maximum m
  get_grow : ∀ {m m' : M} {additional offset length : Nat}, memory.grow m additional = some m' →
    offset + length ≤ memory.pages m * pageSize → memory.get m' offset length = memory.get m offset length

variable {memory : PagedMemory M} {pageSize maxPages : Nat} {m : M}

/-- An allowed allocation succeeds. -/
theorem Lawful.exists_alloc (lawful : memory.Lawful pageSize maxPages) {initial : Nat}
    {maximum : Option Nat}
    (allowed : initial ≤ maxPages ∧ maximum.all fun maximum => initial ≤ maximum ∧ maximum ≤ maxPages) :
    ∃ m, memory.alloc initial maximum = some m :=
  Option.isSome_iff_exists.mp (lawful.alloc_isSome.mpr allowed)

/-- An allocation not allowed fails. -/
theorem Lawful.alloc_eq_none (lawful : memory.Lawful pageSize maxPages) {initial : Nat}
    {maximum : Option Nat}
    (refused : ¬ (initial ≤ maxPages ∧ maximum.all fun maximum => initial ≤ maximum ∧ maximum ≤ maxPages)) :
    memory.alloc initial maximum = none :=
  Option.not_isSome_iff_eq_none.mp (mt lawful.alloc_isSome.mp refused)

/-- A read of a range the memory holds succeeds. -/
theorem Lawful.exists_get (lawful : memory.Lawful pageSize maxPages) {offset length : Nat}
    (inside : offset + length ≤ memory.pages m * pageSize) : ∃ data, memory.get m offset length = some data :=
  Option.isSome_iff_exists.mp (lawful.get_isSome.mpr inside)

/-- A read of no bytes at an offset inside the memory reads nothing. -/
theorem Lawful.get_zero (lawful : memory.Lawful pageSize maxPages) {offset : Nat}
    (inside : offset ≤ memory.pages m * pageSize) : memory.get m offset 0 = some [] := by
  obtain ⟨data, read⟩ : ∃ data, memory.get m offset 0 = some data :=
    lawful.exists_get (by rw [Nat.add_zero]; exact inside)
  rw [read, List.length_eq_zero_iff.mp (lawful.get_length read)]

/-- A write of a range the memory holds succeeds. -/
theorem Lawful.exists_set (lawful : memory.Lawful pageSize maxPages) {offset : Nat} {data : List UInt8}
    (fits : offset + data.length ≤ memory.pages m * pageSize) : ∃ m', memory.set m offset data = some m' :=
  Option.isSome_iff_exists.mp (lawful.set_isSome.mpr fits)

/-- A write past the end of the memory fails. -/
theorem Lawful.set_eq_none (lawful : memory.Lawful pageSize maxPages) {offset : Nat} {data : List UInt8}
    (outside : memory.pages m * pageSize < offset + data.length) : memory.set m offset data = none :=
  Option.not_isSome_iff_eq_none.mp fun fits => Nat.not_le.mpr outside (lawful.set_isSome.mp fits)

end PagedMemory

/-- A linear memory of pages of `pageSize` bytes: its pages, the number of
pages it may grow to, and its bytes. -/
structure LinearMemory (pageSize : Nat) where
  pages : Nat
  maximum : Option Nat
  bytes : List UInt8
  bytes_length : bytes.length = pages * pageSize

namespace LinearMemory

variable {pageSize : Nat}

/-- A memory of `pages` pages of zeros. -/
def zeroed (pages : Nat) (maximum : Option Nat) : LinearMemory pageSize :=
  ⟨pages, maximum, List.replicate (pages * pageSize) 0, List.length_replicate⟩

/-- The `length` bytes at `offset`, if the memory holds them. -/
def read (memory : LinearMemory pageSize) (offset length : Nat) : Option (List UInt8) :=
  if offset + length ≤ memory.bytes.length then some ((memory.bytes.drop offset).take length)
  else none

/-- `data` written at `offset`, if the memory holds the range. -/
def write (memory : LinearMemory pageSize) (offset : Nat) (data : List UInt8) :
    Option (LinearMemory pageSize) :=
  if fits : offset + data.length ≤ memory.bytes.length then
    some { memory with
      bytes := memory.bytes.take offset ++ data ++ memory.bytes.drop (offset + data.length)
      bytes_length := by
        simp only [List.length_append, List.length_take, List.length_drop, ← memory.bytes_length]
        omega }
  else none

/-- `additional` more pages of zeros. -/
def extend (memory : LinearMemory pageSize) (additional : Nat) : LinearMemory pageSize where
  pages := memory.pages + additional
  maximum := memory.maximum
  bytes := memory.bytes ++ List.replicate (additional * pageSize) 0
  bytes_length := by simp [memory.bytes_length, Nat.add_mul]

/-- `initial` zeroed pages, where neither `initial` nor the maximum passes
`maxPages` and the maximum is not below `initial`. -/
def alloc (maxPages initial : Nat) (maximum : Option Nat) : Option (LinearMemory pageSize) :=
  if initial ≤ maxPages ∧ maximum.all (fun maximum => initial ≤ maximum ∧ maximum ≤ maxPages) then
    some (zeroed initial maximum)
  else none

/-- `additional` more pages, up to the maximum, or up to `maxPages` without
one. -/
def grow (maxPages : Nat) (memory : LinearMemory pageSize) (additional : Nat) :
    Option (LinearMemory pageSize) :=
  if memory.pages + additional ≤ memory.maximum.getD maxPages then some (memory.extend additional)
  else none

/-- The operations of linear memories of pages of `pageSize` bytes that grow up
to `maxPages` pages. -/
def paged (pageSize maxPages : Nat) : PagedMemory (LinearMemory pageSize) where
  alloc := alloc maxPages
  pages := LinearMemory.pages
  maximum := LinearMemory.maximum
  grow := grow maxPages
  get := read
  set := write

variable {memory written : LinearMemory pageSize}

/-- A read gives the bytes of the range, where the memory holds it. -/
theorem read_eq_some_iff {offset length : Nat} {data : List UInt8} :
    memory.read offset length = some data ↔
      offset + length ≤ memory.bytes.length ∧ (memory.bytes.drop offset).take length = data := by
  unfold read
  split_ifs with fits <;> simp [fits]

/-- A read succeeds exactly when the memory holds the range. -/
theorem read_isSome_iff {offset length : Nat} :
    (memory.read offset length).isSome ↔ offset + length ≤ memory.pages * pageSize := by
  rw [← memory.bytes_length]
  unfold read
  split_ifs with inside <;> simp [inside]

/-- A read gives as many bytes as it asks for. -/
theorem length_of_read {offset length : Nat} {data : List UInt8}
    (reads : memory.read offset length = some data) : data.length = length := by
  obtain ⟨inside, rfl⟩ := read_eq_some_iff.mp reads
  simp only [List.length_take, List.length_drop]
  omega

/-- A fresh memory reads as zeros. -/
theorem read_zeroed {pages : Nat} {maximum : Option Nat} {offset length : Nat}
    (inside : offset + length ≤ pages * pageSize) :
    (zeroed pages maximum : LinearMemory pageSize).read offset length = some (List.replicate length 0) := by
  rw [read_eq_some_iff]
  simp only [zeroed, List.length_replicate, List.drop_replicate, List.take_replicate]
  exact ⟨inside, by rw [Nat.min_eq_left (by omega)]⟩

/-- A write fails exactly when the range passes the end of the memory. -/
theorem write_eq_none_iff {offset : Nat} {data : List UInt8} :
    memory.write offset data = none ↔ memory.bytes.length < offset + data.length := by
  unfold write
  split_ifs with fits
  · simpa using fits
  · simpa using fits

/-- A write succeeds exactly when the memory holds the range. -/
theorem write_isSome_iff {offset : Nat} {data : List UInt8} :
    (memory.write offset data).isSome ↔ offset + data.length ≤ memory.pages * pageSize := by
  rw [← memory.bytes_length, ← Nat.not_lt, ← write_eq_none_iff, Option.isSome_iff_ne_none]

/-- A write keeps the pages and the maximum. -/
theorem write_pages {offset : Nat} {data : List UInt8} (wrote : memory.write offset data = some written) :
    written.pages = memory.pages ∧ written.maximum = memory.maximum := by
  unfold write at wrote
  split_ifs at wrote
  cases wrote
  exact ⟨rfl, rfl⟩

/-- The range just written reads back as the bytes written. -/
theorem read_write_self {offset : Nat} {data : List UInt8}
    (wrote : memory.write offset data = some written) :
    written.read offset data.length = some data := by
  unfold write at wrote
  split_ifs at wrote with fits
  cases wrote
  rw [read_eq_some_iff]
  dsimp only
  have taken : (memory.bytes.take offset).length = offset := by
    rw [List.length_take]
    omega
  refine ⟨by simp only [List.length_append, List.length_take, List.length_drop]; omega, ?_⟩
  rw [List.append_assoc, List.drop_left' taken, List.take_left' rfl]

/-- A range apart from the one written reads as before. -/
theorem read_write_of_disjoint {offset : Nat} {data : List UInt8}
    (wrote : memory.write offset data = some written) {other length : Nat}
    (apart : other + length ≤ offset ∨ offset + data.length ≤ other) :
    written.read other length = memory.read other length := by
  unfold write at wrote
  split_ifs at wrote with fits
  cases wrote
  have sameLength : (memory.bytes.take offset ++ data ++ memory.bytes.drop (offset + data.length)).length =
      memory.bytes.length := by
    simp only [List.length_append, List.length_take, List.length_drop]
    omega
  unfold read
  dsimp only
  rw [sameLength]
  split_ifs with inside
  · congr 1
    apply List.ext_getElem (by simp only [List.length_take, List.length_drop, sameLength])
    intro index inWritten inMemory
    simp only [List.length_take, List.length_drop] at inMemory
    simp only [List.getElem_take, List.getElem_drop]
    rcases apart with before | after
    · -- the byte is before the written range
      rw [List.getElem_append_left (by simp only [List.length_append, List.length_take]; omega),
        List.getElem_append_left (by simp only [List.length_take]; omega), List.getElem_take]
    · -- the byte is after it
      rw [List.getElem_append_right (by simp only [List.length_append, List.length_take]; omega),
        List.getElem_drop]
      congr 1
      simp only [List.length_append, List.length_take]
      omega
  · rfl

/-- A range that reads as two parts reads as each part at its own offset. -/
theorem read_append {offset : Nat} {first second : List UInt8}
    (reads : memory.read offset (first.length + second.length) = some (first ++ second)) :
    memory.read offset first.length = some first ∧
      memory.read (offset + first.length) second.length = some second := by
  obtain ⟨inside, taken⟩ := read_eq_some_iff.mp reads
  have firstPart := congrArg (List.take first.length) taken
  have secondPart := congrArg (List.drop first.length) taken
  rw [List.take_take, Nat.min_eq_left (by omega), List.take_left' rfl] at firstPart
  rw [List.drop_take, List.drop_drop, Nat.add_sub_cancel_left, List.drop_left' rfl] at secondPart
  exact ⟨read_eq_some_iff.mpr ⟨by omega, firstPart⟩, read_eq_some_iff.mpr ⟨by omega, secondPart⟩⟩

/-- Adding pages keeps every range the memory held. -/
theorem read_extend (additional : Nat) {offset length : Nat}
    (inside : offset + length ≤ memory.bytes.length) :
    (memory.extend additional).read offset length = memory.read offset length := by
  have longer : memory.bytes.length ≤ (memory.extend additional).bytes.length := by
    simp [extend]
  rw [read, read, if_pos (inside.trans longer), if_pos inside]
  simp only [extend]
  rw [List.drop_append_of_le_length (by omega), List.take_append_of_le_length (by simp; omega)]

section Paged

variable {maxPages initial additional : Nat} {maximum : Option Nat}

/-- An allocation succeeds exactly when its counts of pages are allowed. -/
theorem alloc_isSome_iff :
    (alloc maxPages initial maximum : Option (LinearMemory pageSize)).isSome ↔
      initial ≤ maxPages ∧ maximum.all fun maximum => initial ≤ maximum ∧ maximum ≤ maxPages := by
  unfold alloc
  split_ifs with allowed
  · simp only [Option.isSome_some, true_iff]
    exact allowed
  · simp only [Option.isSome_none, Bool.false_eq_true, false_iff]
    exact allowed

/-- An allocation gives a memory of zeros. -/
theorem eq_zeroed_of_alloc (allocated : alloc maxPages initial maximum = some memory) :
    memory = zeroed initial maximum := by
  unfold alloc at allocated
  split_ifs at allocated
  exact (Option.some.inj allocated).symm

/-- Growth succeeds exactly when the maximum allows the pages. -/
theorem grow_isSome_iff :
    (grow maxPages memory additional).isSome ↔ memory.pages + additional ≤ memory.maximum.getD maxPages := by
  unfold grow
  split_ifs with allowed <;> simp [allowed]

/-- Growth adds pages of zeros. -/
theorem eq_extend_of_grow (grew : grow maxPages memory additional = some written) :
    written = memory.extend additional := by
  unfold grow at grew
  split_ifs at grew
  exact (Option.some.inj grew).symm

/-- The operations of linear memories are lawful. -/
theorem paged_lawful (pageSize maxPages : Nat) : (paged pageSize maxPages).Lawful pageSize maxPages where
  alloc_isSome := alloc_isSome_iff
  alloc_pages allocated := by
    rw [eq_zeroed_of_alloc allocated]
    exact ⟨rfl, rfl⟩
  get_alloc allocated inside := by
    rw [eq_zeroed_of_alloc allocated]
    exact read_zeroed inside
  get_isSome := read_isSome_iff
  get_length := length_of_read
  get_append := read_append
  set_isSome := write_isSome_iff
  set_pages := write_pages
  get_set_self := read_write_self
  get_set_of_disjoint wrote apart := read_write_of_disjoint wrote apart
  grow_isSome := grow_isSome_iff
  grow_pages grew := by
    rw [eq_extend_of_grow grew]
    exact ⟨rfl, rfl⟩
  get_grow {m} _ additional _ _ grew inside := by
    rw [eq_extend_of_grow grew]
    exact read_extend additional (m.bytes_length ▸ inside)

end Paged

end LinearMemory

end Foundations
