/-!
# Slots

A sparse array: values at natural numbers, listed by ascending number.  `get?` reads a slot,
`insert` fills one and `erase` empties one; the lemmas say what each does to every slot.
-/

namespace VirtualMemory

/-- Values at natural numbers. -/
structure Slots (α : Type) where
  /-- The filled slots with their values, by ascending number. -/
  entries : List (Nat × α)

namespace Slots

variable {α : Type}

/-- No slot is filled. -/
def empty : Slots α := ⟨[]⟩

/-- The first value at a number in a list. -/
def findEntry (i : Nat) : List (Nat × α) → Option α
  | [] => none
  | (j, b) :: rest => if i = j then some b else findEntry i rest

/-- The value in a slot. -/
def get? (s : Slots α) (i : Nat) : Option α := findEntry i s.entries

/-- Puts a value at its place in an ascending list. -/
def insertEntry (i : Nat) (a : α) : List (Nat × α) → List (Nat × α)
  | [] => [(i, a)]
  | (j, b) :: rest =>
    if i < j then (i, a) :: (j, b) :: rest
    else if i = j then (i, a) :: rest
    else (j, b) :: insertEntry i a rest

/-- Fills a slot, over what it held before. -/
def insert (s : Slots α) (i : Nat) (a : α) : Slots α := ⟨insertEntry i a s.entries⟩

/-- Empties a slot. -/
def erase (s : Slots α) (i : Nat) : Slots α := ⟨s.entries.filter (fun e => e.1 ≠ i)⟩

theorem findEntry_insertEntry {i k : Nat} {a : α} {entries : List (Nat × α)} :
  findEntry k (insertEntry i a entries) = if k = i then some a else findEntry k entries
  := by
  induction entries with
  | nil => rfl
  | cons e rest ih =>
    obtain ⟨j, b⟩ := e
    rw [insertEntry]
    split
    · rfl
    · split
      · next eq =>
        subst eq
        simp only [findEntry]
        split
        · rfl
        · rfl
      · next ne =>
        simp only [findEntry, ih]
        by_cases same : k = j
        · have other : k ≠ i := fun eq => ne (eq.symm.trans same)
          rw [if_pos same, if_pos same, if_neg other]
        · rw [if_neg same, if_neg same]

/-- Filling a slot changes that slot and no other. -/
theorem get?_insert {s : Slots α} {i k : Nat} {a : α} :
  (s.insert i a).get? k = if k = i then some a else s.get? k
  := findEntry_insertEntry

/-- Emptying a slot changes that slot and no other. -/
theorem get?_erase {s : Slots α} {i k : Nat} :
  (s.erase i).get? k = if k = i then none else s.get? k
  := by
  obtain ⟨entries⟩ := s
  simp only [get?, erase]
  induction entries with
  | nil =>
    split
    · rfl
    · rfl
  | cons e rest ih =>
    obtain ⟨j, b⟩ := e
    by_cases emptied : j = i
    · have dropped : decide (j ≠ i) = false := decide_eq_false (not_not_intro emptied)
      rw [List.filter_cons, dropped, if_neg Bool.false_ne_true, ih, findEntry, emptied]
      split
      · rfl
      · rfl
    · have kept : decide (j ≠ i) = true := decide_eq_true emptied
      rw [List.filter_cons, kept, if_pos rfl, findEntry, findEntry, ih]
      by_cases same : k = j
      · have other : k ≠ i := fun eq => emptied (same.symm.trans eq)
        rw [if_pos same, if_pos same, if_neg other]
      · rw [if_neg same, if_neg same]

end Slots

end VirtualMemory
