import VirtualMemory.Page.Arena
import VirtualMemory.Proofs.Page.Table

/-!
# Tables linked by number

How the tables of an arena refer to each other.  They are ranked by their height above the
entries: leaves have rank zero, a directory has the numbers of tables one rank lower, and no number
is in two slots.  So a table is reached in one way at most, and setting an entry below one table
changes nothing below another table of the same rank.
-/

namespace VirtualMemory

theorem slotAt_eq_iff {height a b : Nat} :
  slotAt height a = slotAt height b ↔ levelIndex height a = levelIndex height b
  := Fin.mk.injEq _ _ _ _ ▸ Iff.rfl

namespace Arena

variable {tables tables' : Array Table} {rank rank' : Nat → Nat} {id next : UInt32}
variable {slots : Vector (Option UInt32) 512} {entries : Vector Entry 512} {slot slot' : Fin 512}
variable {page other height i : Nat} {e : Entry} {α : Type}

/-! ### Slots -/

theorem get_set {v : Vector α 512} {a : α} :
  (v.set slot a slot.isLt).get slot' = if slot' = slot then a else v.get slot'
  := by
  show (v.set slot a slot.isLt)[slot'.val] = if slot' = slot then a else v[slot'.val]
  rw [Vector.getElem_set]
  simp only [Fin.ext_iff, eq_comm]

theorem get_replicate {a : α} :
  (Vector.replicate 512 a).get slot = a
  := by
  show (Vector.replicate 512 a)[slot.val] = a
  rw [Vector.getElem_replicate]

/-- The table with a number is a directory that has a number in a slot. -/
def Links (tables : Array Table) (i : Nat) (slot : Fin 512) (next : UInt32) : Prop :=
  ∃ slots, tables[i]? = some (.directory slots) ∧ slots.get slot = some next

/-! ### Entries below a table -/

theorem entryFrom_of_leaf (at_id : tables[id.toNat]? = some (.leaf entries)) :
  entryFrom tables page 0 id = entries.get (slotAt 0 page)
  := by
  rw [entryFrom, at_id]

theorem entryFrom_of_directory (at_id : tables[id.toNat]? = some (.directory slots)) :
  entryFrom tables page (height + 1) id = match slots.get (slotAt (height + 1) page) with
    | some next => entryFrom tables page height next
    | none => .empty
  := by
  rcases found : slots.get (slotAt (height + 1) page) with - | next
  · simp only [entryFrom, at_id, found]
  · simp only [entryFrom, at_id, found]

/-- A table is without entries where it is made. -/
theorem entryFrom_fresh (at_id : tables[id.toNat]? = some (.fresh height)) :
  entryFrom tables page height id = .empty
  := by
  cases height with
  | zero => rw [entryFrom_of_leaf at_id, get_replicate]
  | succ height => rw [entryFrom_of_directory at_id, get_replicate]

/-- Pages that select the same slots have the same entry. -/
theorem entryFrom_congr (same : page % pagesBelow height = other % pagesBelow height) :
  entryFrom tables page height id = entryFrom tables other height id
  := by
  induction height generalizing id with
  | zero =>
      rw [← levelIndex_zero, ← levelIndex_zero, ← slotAt_eq_iff] at same
      rw [entryFrom, entryFrom, same]
  | succ height ih =>
      obtain ⟨slot, same⟩ := mod_pagesBelow_succ.mp same
      rw [← slotAt_eq_iff] at slot
      simp only [entryFrom, slot, ih same]

/-! ### Linked tables -/

/-- The root has rank four, leaves have rank zero and directories a higher rank; a number in a slot
is that of a table one rank lower, and is in no other slot. -/
structure Linked (tables : Array Table) (rank : Nat → Nat) : Prop where
  nonempty : 0 < tables.size
  root : rank 0 = 4
  leaf : ∀ i entries, tables[i]? = some (.leaf entries) → rank i = 0
  directory : ∀ i slots, tables[i]? = some (.directory slots) → rank i ≠ 0
  child : ∀ i slot next, Links tables i slot next →
    next.toNat < tables.size ∧ rank i = rank next.toNat + 1
  unique : ∀ i i' slot slot' next, Links tables i slot next → Links tables i' slot' next →
    i = i' ∧ slot = slot'

/-- The root is there, and has rank four. -/
theorem Linked.root_inside (h : Linked tables rank) :
  (0 : UInt32).toNat < tables.size ∧ rank (0 : UInt32).toNat = 4
  := ⟨h.nonempty, h.root⟩

/-- A table of rank zero is a leaf. -/
theorem Linked.exists_leaf (h : Linked tables rank) (inside : i < tables.size)
    (lowest : rank i = 0) :
  ∃ entries, tables[i]? = some (.leaf entries)
  := by
  rcases table : tables[i] with slots | entries
  · have at_i : tables[i]? = some (.directory slots) := by
      rw [Array.getElem?_eq_getElem inside, table]
    exact absurd lowest (h.directory i slots at_i)
  · use entries
    rw [Array.getElem?_eq_getElem inside, table]

/-- A table of higher rank is a directory. -/
theorem Linked.exists_directory (h : Linked tables rank) (inside : i < tables.size)
    (higher : rank i = height + 1) :
  ∃ slots, tables[i]? = some (.directory slots)
  := by
  rcases table : tables[i] with slots | entries
  · use slots
    rw [Array.getElem?_eq_getElem inside, table]
  · have at_i : tables[i]? = some (.leaf entries) := by rw [Array.getElem?_eq_getElem inside, table]
    rw [h.leaf i entries at_i] at higher
    cases higher

theorem linked_new :
  Linked new.tables (fun _ => 4)
  := by
  have only (i : Nat) (table : Table) (at_i : new.tables[i]? = some table) :
      table = .fresh 4
    := by
    have at_i' : (#[Table.fresh 4] : Array Table)[i]? = some table := at_i
    rw [Array.getElem?_singleton] at at_i'
    split at at_i'
    · cases at_i'
      rfl
    · cases at_i'
  have unlinked (i : Nat) (slot : Fin 512) (next : UInt32) : ¬ Links new.tables i slot next := by
    rintro ⟨slots, at_i, some⟩
    cases only i _ at_i
    rw [get_replicate] at some
    cases some
  use Nat.zero_lt_one, rfl
  · intro i entries at_i
    cases only i _ at_i
  · intro i slots at_i
    exact Nat.succ_ne_zero 3
  · intro i slot next links
    exact absurd links (unlinked i slot next)
  · intro i i' slot slot' next links
    exact absurd links (unlinked i slot next)

/-! ### Making a table -/

theorem getElem?_link (inside : id.toNat < tables.size) :
  (link tables height id slots slot)[i]? =
    if i = id.toNat then some (.directory (slots.set slot (some tables.size.toUInt32)))
    else if i = tables.size then some (.fresh height)
    else tables[i]?
  := by
  rw [link, Array.getElem?_setIfInBounds, Array.getElem?_push, Array.size_push]
  by_cases eq : i = id.toNat
  · rw [if_pos eq.symm, if_pos (by omega), if_pos eq]
  · rw [if_neg (Ne.symm eq), if_neg eq]

theorem size_link :
  (link tables height id slots slot).size = tables.size + 1
  := by
  rw [link, Array.size_setIfInBounds, Array.size_push]

/-- A table that is made is linked from one slot, and the other links stay. -/
theorem links_link (at_id : tables[id.toNat]? = some (.directory slots))
    (vacant : slots.get slot = none) :
  Links (link tables height id slots slot) i slot' next ↔
    (i = id.toNat ∧ slot' = slot ∧ next = tables.size.toUInt32) ∨ Links tables i slot' next
  := by
  have inside : id.toNat < tables.size := (Array.getElem?_eq_some_iff.mp at_id).choose
  simp only [Links, getElem?_link inside]
  by_cases eq : i = id.toNat
  · subst eq
    simp only [if_true, at_id, Option.some.injEq, Table.directory.injEq, exists_eq_left', get_set,
      true_and]
    by_cases same : slot' = slot
    · subst same
      simp [vacant, eq_comm]
    · simp [same]
  · simp only [eq, if_false, false_and, false_or]
    by_cases last : i = tables.size
    · subst last
      rw [if_pos rfl, Array.getElem?_eq_none (Nat.le_refl _)]
      constructor
      · rintro ⟨slots', fresh, some⟩
        cases height with
        | zero => cases fresh
        | succ height =>
            cases fresh
            rw [get_replicate] at some
            cases some
      · rintro ⟨slots', none, some⟩
        cases none
    · rw [if_neg last]

/-- No slot has the number of a table that is not made yet. -/
theorem Linked.not_links_size (h : Linked tables rank) (word : tables.size < 2 ^ 32) :
  ¬ Links tables i slot tables.size.toUInt32
  := by
  intro links
  have lt := (h.child i slot _ links).1
  rw [UInt32.toNat_ofNat_of_lt' word] at lt
  exact Nat.lt_irrefl _ lt

/-- The table that is made has the rank of its height, and all others keep theirs. -/
theorem Linked.linked_link (h : Linked tables rank) (word : tables.size < 2 ^ 32)
    (higher : rank id.toNat = height + 1) (at_id : tables[id.toNat]? = some (.directory slots))
    (vacant : slots.get slot = none) :
  Linked (link tables height id slots slot) (Function.update rank tables.size height)
  := by
  have inside : id.toNat < tables.size := (Array.getElem?_eq_some_iff.mp at_id).choose
  have number : tables.size.toUInt32.toNat = tables.size := UInt32.toNat_ofNat_of_lt' word
  have old (i : Nat) (lt : i < tables.size) : Function.update rank tables.size height i = rank i
    := Function.update_of_ne (Nat.ne_of_lt lt) _ _
  have rank_of (i : Nat) (table : Table) (found : tables[i]? = some table) :
      Function.update rank tables.size height i = rank i
    := old i (Array.getElem?_eq_some_iff.mp found).choose
  constructor
  · rw [size_link]
    apply Nat.succ_pos
  · rw [old 0 h.nonempty, h.root]
  · intro i entries found
    rw [getElem?_link inside] at found
    split at found
    · cases found
    · split at found
      · next last =>
          rw [last, Function.update_self]
          cases height with
          | zero => rfl
          | succ height => cases found
      · rw [rank_of i _ found, h.leaf i entries found]
  · intro i slots' found
    rw [getElem?_link inside] at found
    split at found
    · next eq =>
        rw [eq, old _ inside, higher]
        apply Nat.succ_ne_zero
    · split at found
      · next last =>
          rw [last, Function.update_self]
          cases height with
          | zero => cases found
          | succ height => apply Nat.succ_ne_zero
      · rw [rank_of i _ found]
        apply h.directory i slots' found
  · intro i slot' next links
    rw [size_link]
    rcases (links_link at_id vacant).mp links with ⟨rfl, -, rfl⟩ | links'
    · rw [number, Function.update_self, old _ inside]
      use Nat.lt_succ_self _, higher
    · obtain ⟨lt, eq⟩ := h.child i slot' next links'
      obtain ⟨slots', found, -⟩ := links'
      rw [rank_of i _ found, old _ lt]
      use Nat.lt_succ_of_lt lt, eq
  · intro i i' slot' slot'' next links links'
    rcases (links_link at_id vacant).mp links with ⟨rfl, rfl, rfl⟩ | links
    · rcases (links_link at_id vacant).mp links' with ⟨rfl, rfl, -⟩ | links'
      · constructor
        · rfl
        · rfl
      · exact absurd links' (h.not_links_size word)
    · rcases (links_link at_id vacant).mp links' with ⟨-, -, rfl⟩ | links'
      · exact absurd links (h.not_links_size word)
      · apply h.unique i i' slot' slot'' next links links'

/-- No entry changes when a table is made. -/
theorem Linked.entryFrom_link (h : Linked tables rank) (word : tables.size < 2 ^ 32)
    (higher : rank id.toNat = height + 1) (at_id : tables[id.toNat]? = some (.directory slots))
    (vacant : slots.get slot = none) {height' : Nat} {id' : UInt32}
    (inside' : id'.toNat < tables.size) (rank_eq : rank id'.toNat = height') :
  entryFrom (link tables height id slots slot) other height' id' =
    entryFrom tables other height' id'
  := by
  have inside : id.toNat < tables.size := (Array.getElem?_eq_some_iff.mp at_id).choose
  have number : tables.size.toUInt32.toNat = tables.size := UInt32.toNat_ofNat_of_lt' word
  have kept (ne : id'.toNat ≠ id.toNat) :
      (link tables height id slots slot)[id'.toNat]? = tables[id'.toNat]?
    := by
    rw [getElem?_link inside, if_neg ne, if_neg (Nat.ne_of_lt inside')]
  induction height' generalizing id' with
  | zero =>
      obtain ⟨entries, found⟩ := h.exists_leaf inside' rank_eq
      have ne : id'.toNat ≠ id.toNat := by
        intro eq
        rw [eq, higher] at rank_eq
        cases rank_eq
      rw [entryFrom_of_leaf found, entryFrom_of_leaf ((kept ne).trans found)]
  | succ height' ih =>
      obtain ⟨slots', found⟩ := h.exists_directory inside' rank_eq
      have step (next : UInt32) (some : slots'.get (slotAt (height' + 1) other) = some next) :
          entryFrom (link tables height id slots slot) other height' next =
            entryFrom tables other height' next
        := by
        obtain ⟨lt, eq⟩ := h.child id'.toNat _ next ⟨slots', found, some⟩
        rw [rank_eq] at eq
        apply ih lt (Nat.succ.inj eq).symm
        intro ne
        rw [getElem?_link inside, if_neg ne, if_neg (Nat.ne_of_lt lt)]
      by_cases eq : id'.toNat = id.toNat
      · rw [eq, at_id] at found
        cases found
        rw [eq, higher] at rank_eq
        cases rank_eq
        have found' : (link tables height id slots slot)[id'.toNat]? =
            some (.directory (slots.set slot (some tables.size.toUInt32)))
          := by
          rw [getElem?_link inside, if_pos eq]
        rw [entryFrom_of_directory found', entryFrom_of_directory (eq ▸ at_id), get_set]
        by_cases same : slotAt (height + 1) other = slot
        · rw [if_pos same, same, vacant]
          apply entryFrom_fresh
          rw [number, getElem?_link inside, if_neg (Nat.ne_of_gt inside), if_pos rfl]
        · rw [if_neg same]
          rcases some : slots.get (slotAt (height + 1) other) with - | next
          · rfl
          · apply step next some
      · rw [entryFrom_of_directory found, entryFrom_of_directory ((kept eq).trans found)]
        rcases some : slots'.get (slotAt (height' + 1) other) with - | next
        · rfl
        · apply step next some

/-! ### Setting below a table -/

/-- The entry of a page is set below the table with number `id`, which has rank `height`: tables of
higher rank stay as they are, and below other tables of that rank no entry changes. -/
structure Sets (page : Nat) (e : Entry) (height : Nat) (id : UInt32) (tables : Array Table)
    (rank : Nat → Nat) (tables' : Array Table) (rank' : Nat → Nat) : Prop where
  linked : Linked tables' rank'
  size_le : tables.size ≤ tables'.size
  rank_eq : ∀ i < tables.size, rank' i = rank i
  kept : ∀ i < tables.size, height < rank i → tables'[i]? = tables[i]?
  entry : ∀ id' : UInt32, id'.toNat < tables.size → rank id'.toNat = height → ∀ other,
    entryFrom tables' other height id' =
      if id' = id ∧ other % pagesBelow height = page % pagesBelow height then e
      else entryFrom tables other height id'

theorem getElem?_putEntry (at_id : tables[id.toNat]? = some (.leaf entries)) :
  (putEntry tables id slot e)[i]? =
    if i = id.toNat then some (.leaf (entries.set slot e slot.isLt)) else tables[i]?
  := by
  have inside : id.toNat < tables.size := (Array.getElem?_eq_some_iff.mp at_id).choose
  rw [putEntry, at_id]
  dsimp only
  rw [Array.getElem?_setIfInBounds]
  by_cases eq : i = id.toNat
  · rw [if_pos eq.symm, if_pos inside, if_pos eq]
  · rw [if_neg (Ne.symm eq), if_neg eq]

@[simp]
theorem size_putEntry :
  (putEntry tables id slot e).size = tables.size
  := by
  rw [putEntry]
  split
  · rw [Array.size_setIfInBounds]
  · rfl

/-- Putting an entry into a leaf changes no link. -/
theorem links_putEntry (at_id : tables[id.toNat]? = some (.leaf entries)) :
  Links (putEntry tables id slot e) i slot' next ↔ Links tables i slot' next
  := by
  simp only [Links, getElem?_putEntry at_id]
  by_cases eq : i = id.toNat
  · simp [eq, at_id]
  · rw [if_neg eq]

/-- Tables stay linked, with their ranks, when an entry is put into a leaf. -/
theorem Linked.linked_putEntry (h : Linked tables rank)
    (at_id : tables[id.toNat]? = some (.leaf entries)) :
  Linked (putEntry tables id slot e) rank
  := by
  constructor
  · rw [size_putEntry]
    apply h.nonempty
  · apply h.root
  · intro i entries' at_i
    rw [getElem?_putEntry at_id] at at_i
    split at at_i
    · next eq =>
        rw [eq]
        apply h.leaf _ _ at_id
    · apply h.leaf i entries' at_i
  · intro i slots at_i
    rw [getElem?_putEntry at_id] at at_i
    split at at_i
    · cases at_i
    · apply h.directory i slots at_i
  · intro i slot next links
    rw [size_putEntry]
    apply h.child i slot next ((links_putEntry at_id).mp links)
  · intro i i' slot slot' next links links'
    apply h.unique i i' slot slot' next ((links_putEntry at_id).mp links)
      ((links_putEntry at_id).mp links')

/-- An entry is put into a leaf. -/
theorem Linked.sets_putEntry (h : Linked tables rank)
    (at_id : tables[id.toNat]? = some (.leaf entries)) :
  Sets page e 0 id tables rank (putEntry tables id (slotAt 0 page) e) rank
  := by
  have lowest : rank id.toNat = 0 := h.leaf _ _ at_id
  use h.linked_putEntry at_id
  · rw [size_putEntry]
  · intro i lt
    rfl
  · intro i lt higher
    rw [getElem?_putEntry at_id, if_neg]
    rintro rfl
    omega
  · intro id' inside' lowest' other
    by_cases eq : id' = id
    · subst eq
      have put : (putEntry tables id' (slotAt 0 page) e)[id'.toNat]? =
          some (.leaf (entries.set (slotAt 0 page) e (slotAt 0 page).isLt))
        := by
        rw [getElem?_putEntry at_id, if_pos rfl]
      rw [entryFrom_of_leaf at_id, entryFrom_of_leaf put, get_set]
      simp only [slotAt_eq_iff, levelIndex_zero, true_and]
    · obtain ⟨entries', at_id'⟩ := h.exists_leaf inside' lowest'
      have ne : id'.toNat ≠ id.toNat := fun same => eq (UInt32.toNat_inj.mp same)
      have kept : (putEntry tables id (slotAt 0 page) e)[id'.toNat]? = some (.leaf entries')
        := by
        rw [getElem?_putEntry at_id, if_neg ne, at_id']
      rw [entryFrom_of_leaf at_id', entryFrom_of_leaf kept, if_neg]
      rintro ⟨same, -⟩
      exact eq same

/-- What is set below the table in a slot of a directory is set below the directory.  A slot without
a table is another one. -/
theorem Linked.sets_of_below (h : Linked tables rank) (higher : rank id.toNat = height + 1)
    (links : Links tables id.toNat (slotAt (height + 1) page) next)
    (below : Sets page e height next tables rank tables' rank') :
  Sets page e (height + 1) id tables rank tables' rank'
  := by
  use below.linked, below.size_le, below.rank_eq
  · intro i lt higher
    apply below.kept i lt (Nat.lt_of_succ_lt higher)
  · intro id' inside rank_eq other
    obtain ⟨slots, at_id'⟩ := h.exists_directory inside rank_eq
    have at_id'' := (below.kept id'.toNat inside (by omega)).trans at_id'
    rw [entryFrom_of_directory at_id', entryFrom_of_directory at_id'']
    simp only [mod_pagesBelow_succ, ← slotAt_eq_iff]
    rcases some : slots.get (slotAt (height + 1) other) with - | next'
    · symm
      apply if_neg
      rintro ⟨rfl, same, -⟩
      obtain ⟨slots', at_id, some'⟩ := links
      rw [at_id'] at at_id
      cases at_id
      rw [← same, some] at some'
      cases some'
    · obtain ⟨lt, eq⟩ := h.child id'.toNat _ next' ⟨slots, at_id', some⟩
      rw [rank_eq] at eq
      have same : next' = next ↔ id' = id ∧ slotAt (height + 1) other = slotAt (height + 1) page
        := by
        constructor
        · rintro rfl
          obtain ⟨eq, same⟩ := h.unique _ _ _ _ _ ⟨slots, at_id', some⟩ links
          use UInt32.toNat_inj.mp eq, same
        · rintro ⟨rfl, same⟩
          obtain ⟨slots', at_id, some'⟩ := links
          rw [at_id'] at at_id
          cases at_id
          rw [← same, some] at some'
          apply Option.some.inj some'
      dsimp only
      rw [below.entry next' lt (Nat.succ.inj eq).symm other]
      simp only [same, and_assoc]

/-- What is set after a table was made is set before. -/
theorem Linked.sets_of_link (h : Linked tables rank) (word : tables.size < 2 ^ 32)
    (higher : rank id.toNat = height + 1) (at_id : tables[id.toNat]? = some (.directory slots))
    (vacant : slots.get slot = none)
    (sets : Sets page e (height + 1) id (link tables height id slots slot)
      (Function.update rank tables.size height) tables' rank') :
  Sets page e (height + 1) id tables rank tables' rank'
  := by
  have inside : id.toNat < tables.size := (Array.getElem?_eq_some_iff.mp at_id).choose
  have old (i : Nat) (lt : i < tables.size) : Function.update rank tables.size height i = rank i
    := Function.update_of_ne (Nat.ne_of_lt lt) _ _
  have lt_link (i : Nat) (lt : i < tables.size) : i < (link tables height id slots slot).size
    := by
    rw [size_link]
    apply Nat.lt_succ_of_lt lt
  use sets.linked
  · have le := sets.size_le
    rw [size_link] at le
    apply Nat.le_of_succ_le le
  · intro i lt
    rw [sets.rank_eq i (lt_link i lt), old i lt]
  · intro i lt higher'
    have ne : i ≠ id.toNat := by
      rintro rfl
      omega
    rw [sets.kept i (lt_link i lt) (by rw [old i lt]; apply higher'), getElem?_link inside,
      if_neg ne, if_neg (Nat.ne_of_lt lt)]
  · intro id' inside' rank_eq other
    rw [sets.entry id' (lt_link _ inside') (by rw [old _ inside', rank_eq]) other,
      h.entryFrom_link word higher at_id vacant inside' rank_eq]

/-- The entry of a page without a table is empty without being set. -/
theorem Linked.sets_nothing (h : Linked tables rank) (higher : rank id.toNat = height + 1)
    (at_id : tables[id.toNat]? = some (.directory slots))
    (vacant : slots.get (slotAt (height + 1) page) = none) :
  Sets page .empty (height + 1) id tables rank tables rank
  := by
  constructor
  · apply h
  · apply Nat.le_refl
  · intro i lt
    rfl
  · intro i lt higher
    rfl
  · intro id' inside rank_eq other
    split
    · next same =>
        obtain ⟨rfl, same⟩ := same
        rw [mod_pagesBelow_succ, ← slotAt_eq_iff] at same
        rw [entryFrom_of_directory at_id, same.1, vacant]
    · rfl

/-- The arena never shrinks while an entry is set. -/
theorem size_le_setFrom :
  tables.size ≤ (setFrom page e height id tables).size
  := by
  induction height generalizing id tables with
  | zero =>
      rw [setFrom, size_putEntry]
  | succ height ih =>
      rw [setFrom]
      split
      · split
        · apply ih
        · split
          · apply Nat.le_refl
          · apply le_trans _ ih
            rw [size_link]
            apply Nat.le_succ
      · apply Nat.le_refl

/-- The entry of a page is set below a table, as long as the numbers of tables are words. -/
theorem Linked.sets_setFrom (h : Linked tables rank) (inside : id.toNat < tables.size)
    (rank_eq : rank id.toNat = height)
    (fits : (setFrom page e height id tables).size ≤ 2 ^ 32) :
  ∃ rank', Sets page e height id tables rank (setFrom page e height id tables) rank'
  := by
  induction height generalizing id tables rank with
  | zero =>
      obtain ⟨entries, at_id⟩ := h.exists_leaf inside rank_eq
      use rank
      apply h.sets_putEntry at_id
  | succ height ih =>
      obtain ⟨slots, at_id⟩ := h.exists_directory inside rank_eq
      simp only [setFrom, at_id] at fits ⊢
      rcases some : slots.get (slotAt (height + 1) page) with - | next
      · simp only [some] at fits ⊢
        by_cases empty : e = .empty
        · rw [if_pos empty, empty]
          use rank
          apply h.sets_nothing rank_eq at_id some
        · rw [if_neg empty] at fits ⊢
          have word : tables.size < 2 ^ 32 := by
            have le := size_le_setFrom.trans fits
            rw [size_link] at le
            apply Nat.lt_of_succ_le le
          have number : tables.size.toUInt32.toNat = tables.size := UInt32.toNat_ofNat_of_lt' word
          have linked := h.linked_link word rank_eq at_id some
          obtain ⟨rank', below⟩ := ih linked (by rw [number, size_link]; apply Nat.lt_succ_self)
            (by rw [number, Function.update_self]) fits
          use rank'
          apply h.sets_of_link word rank_eq at_id some
          apply linked.sets_of_below _ _ below
          · rw [Function.update_of_ne (Nat.ne_of_lt inside), rank_eq]
          · apply (links_link at_id some).mpr
            left
            constructor
            · rfl
            constructor
            · rfl
            · rfl
      · simp only [some] at fits ⊢
        have links : Links tables id.toNat (slotAt (height + 1) page) next := ⟨slots, at_id, some⟩
        obtain ⟨lt, eq⟩ := h.child _ _ _ links
        rw [rank_eq] at eq
        obtain ⟨rank', below⟩ := ih h lt (Nat.succ.inj eq).symm fits
        use rank'
        apply h.sets_of_below rank_eq links below

/-! ### Listing entries -/

/-- Of a leaf, the entries that are not empty are listed, each with its page. -/
theorem mem_listed {above : Nat} :
  (page, e) ∈ listed entries above ↔
    page / pagesBelow 0 = above ∧ e ≠ .empty ∧ entries.get (slotAt 0 page) = e
  := by
  rw [listed, List.mem_filterMap]
  constructor
  · rintro ⟨slot, -, found⟩
    split at found
    · cases found
    · next some =>
        obtain ⟨page_eq, rfl⟩ := Prod.mk.inj (Option.some.inj found)
        obtain ⟨above_eq, slot_eq⟩ := (page_eq_iff slot.isLt).mp page_eq.symm
        have same : slotAt 0 page = slot := Fin.ext slot_eq
        use above_eq, some
        rw [same]
  · rintro ⟨above_eq, some, rfl⟩
    use slotAt 0 page, List.mem_finRange _
    have page_eq : above * 2 ^ levelBits + (slotAt 0 page : Nat) = page
      := ((page_eq_iff levelIndex_lt).mpr ⟨above_eq, rfl⟩).symm
    rw [if_neg some, page_eq]

theorem pairwise_listed {above : Nat} :
  (listed entries above).Pairwise (·.1 < ·.1)
  := by
  rw [listed, List.pairwise_filterMap]
  apply (List.pairwise_lt_finRange 512).imp
  intro slot slot' lt b found b' found'
  split at found
  · cases found
  · split at found'
    · cases found'
    · cases found
      cases found'
      apply Nat.add_lt_add_left lt

/-- The entries that are listed are those that are not empty, each with its page. -/
theorem Linked.mem_entriesFrom (h : Linked tables rank) (inside : id.toNat < tables.size)
    (rank_eq : rank id.toNat = height) {above : Nat} :
  (page, e) ∈ entriesFrom tables height id above ↔
    page / pagesBelow height = above ∧ e ≠ .empty ∧ entryFrom tables page height id = e
  := by
  induction height generalizing id above with
  | zero =>
      obtain ⟨entries, at_id⟩ := h.exists_leaf inside rank_eq
      rw [entriesFrom, at_id, entryFrom_of_leaf at_id]
      apply mem_listed
  | succ height ih =>
      obtain ⟨slots, at_id⟩ := h.exists_directory inside rank_eq
      have step (slot : Fin 512) (next : UInt32) (some : slots.get slot = some next) (above : Nat) :
          (page, e) ∈ entriesFrom tables height next above ↔
            page / pagesBelow height = above ∧ e ≠ .empty ∧ entryFrom tables page height next = e
        := by
        obtain ⟨lt, eq⟩ := h.child _ slot next ⟨slots, at_id, some⟩
        rw [rank_eq] at eq
        apply ih lt (Nat.succ.inj eq).symm
      simp only [entriesFrom, at_id, entryFrom_of_directory at_id, List.mem_flatMap]
      constructor
      · rintro ⟨slot, -, mem⟩
        rcases found : slots.get slot with - | next
        · rw [found] at mem
          cases mem
        · rw [found] at mem
          obtain ⟨div_eq, some, entry_eq⟩ := (step slot next found _).mp mem
          obtain ⟨above_eq, slot_eq⟩ := (div_pagesBelow_eq_iff slot.isLt).mp div_eq
          have same : slotAt (height + 1) page = slot := Fin.ext slot_eq
          rw [same, found]
          use above_eq, some, entry_eq
      · rintro ⟨above_eq, some, entry_eq⟩
        rcases found : slots.get (slotAt (height + 1) page) with - | next
        · rw [found] at entry_eq
          exact absurd entry_eq.symm some
        · rw [found] at entry_eq
          use slotAt (height + 1) page, List.mem_finRange _
          rw [found]
          apply (step _ next found _).mpr
          use (div_pagesBelow_eq_iff levelIndex_lt).mpr ⟨above_eq, rfl⟩, some, entry_eq

/-- The entries are listed by ascending page: the bits above a table that is one level down end with
its slot. -/
theorem Linked.pairwise_entriesFrom (h : Linked tables rank) (inside : id.toNat < tables.size)
    (rank_eq : rank id.toNat = height) {above : Nat} :
  (entriesFrom tables height id above).Pairwise (·.1 < ·.1)
  := by
  induction height generalizing id above with
  | zero =>
      obtain ⟨entries, at_id⟩ := h.exists_leaf inside rank_eq
      rw [entriesFrom, at_id]
      apply pairwise_listed
  | succ height ih =>
      obtain ⟨slots, at_id⟩ := h.exists_directory inside rank_eq
      have child (slot : Fin 512) (next : UInt32) (some : slots.get slot = some next) :
          next.toNat < tables.size ∧ rank next.toNat = height
        := by
        obtain ⟨lt, eq⟩ := h.child _ slot next ⟨slots, at_id, some⟩
        rw [rank_eq] at eq
        use lt
        apply (Nat.succ.inj eq).symm
      have above_eq (slot : Fin 512) (b : Nat × Entry)
          (mem : b ∈ match slots.get slot with
            | some next => entriesFrom tables height next (above * 2 ^ levelBits + slot)
            | none => []) :
          b.1 / pagesBelow height = above * 2 ^ levelBits + slot
        := by
        rcases found : slots.get slot with - | next
        · rw [found] at mem
          cases mem
        · rw [found] at mem
          obtain ⟨lt, eq⟩ := child slot next found
          apply ((h.mem_entriesFrom lt eq).mp mem).1
      simp only [entriesFrom, at_id, List.pairwise_flatMap]
      constructor
      · intro slot mem
        rcases found : slots.get slot with - | next
        · apply List.Pairwise.nil
        · obtain ⟨lt, eq⟩ := child slot next found
          apply ih lt eq
      · apply (List.pairwise_lt_finRange 512).imp
        intro slot slot' lt b mem b' mem'
        apply Nat.lt_of_div_lt_div (c := pagesBelow height)
        rw [above_eq slot b mem, above_eq slot' b' mem']
        apply Nat.add_lt_add_left lt

/-! ### How many tables are made -/

/-- Setting an entry makes at most one table on each level below. -/
theorem size_setFrom_le :
  (setFrom page e height id tables).size ≤ tables.size + height
  := by
  induction height generalizing id tables with
  | zero =>
      rw [setFrom, size_putEntry]
      apply Nat.le_refl
  | succ height ih =>
      rw [setFrom]
      split
      · split
        · apply le_trans ih
          omega
        · split
          · omega
          · apply le_trans ih
            rw [size_link]
            omega
      · omega

/-- Emptying an entry makes no table. -/
theorem size_setFrom_empty :
  (setFrom page .empty height id tables).size = tables.size
  := by
  induction height generalizing id tables with
  | zero =>
      rw [setFrom, size_putEntry]
  | succ height ih =>
      rw [setFrom]
      split
      · split
        · apply ih
        · rw [if_pos rfl]
      · rfl

end Arena

end VirtualMemory
