import VirtualMemory.Page.Entry
import VirtualMemory.Page.Index

/-!
# Page tables in an arena

The tables of a page table in one array, in which they refer to each other by number.  A
directory has in each of its 512 slots the number of a table or none, and a leaf has an entry in
each.  Table zero, the root, is a directory; four levels of tables are below it, and only those
of the last level are leaves.  A table is made, at the end of the array, when an entry below it is
first set.  Its number is the length of the array as a 32-bit word.
-/

namespace VirtualMemory

/-- The slot of a page in a table that is `height` levels above the entries. -/
def slotAt (height page : Nat) : Fin 512 := ⟨levelIndex height page, levelIndex_lt⟩

namespace Arena

/-- A table of an arena. -/
inductive Table
  /-- Each slot has the number of a table or none. -/
  | directory (slots : Vector (Option UInt32) 512)
  /-- Each slot has an entry. -/
  | leaf (entries : Vector Entry 512)

/-- A table `height` levels above the entries, without tables or entries below it. -/
def Table.fresh : (height : Nat) → Table
  | 0 => leaf (.replicate 512 .empty)
  | _ + 1 => directory (.replicate 512 none)

variable (tables : Array Table)

/-! ### From a table downwards -/

/-- The entry of a page below the table with a number. -/
def entryFrom (page : Nat) : (height : Nat) → (id : UInt32) → Entry
  | 0, id =>
    match tables[id.toNat]? with
    | some (.leaf entries) => entries.get (slotAt 0 page)
    | _ => .empty
  | height + 1, id =>
    match tables[id.toNat]? with
    | some (.leaf entries) => entries.get (slotAt (height + 1) page)
    | some (.directory slots) =>
      match slots.get (slotAt (height + 1) page) with
      | some next => entryFrom page height next
      | none => .empty
    | none => .empty

/-- Appends a table without entries and puts its number into a slot of a directory. -/
def link (height : Nat) (id : UInt32) (slots : Vector (Option UInt32) 512) (slot : Fin 512) :
    Array Table :=
  (tables.push (.fresh height)).setIfInBounds id.toNat
    (.directory (slots.set slot (some tables.size.toUInt32)))

/-- Puts an entry into a slot of a leaf. -/
def putEntry (id : UInt32) (slot : Fin 512) (e : Entry) : Array Table :=
  match tables[id.toNat]? with
  | some (.leaf entries) => tables.setIfInBounds id.toNat (.leaf (entries.set slot e))
  | _ => tables

/-- Sets the entry of a page below the table with a number.  Tables on the way are made where they
are missing, unless the entry is empty. -/
def setFrom (page : Nat) (e : Entry) :
    (height : Nat) → (id : UInt32) → (tables : Array Table) → Array Table
  | 0, id, tables => putEntry tables id (slotAt 0 page) e
  | height + 1, id, tables =>
    match tables[id.toNat]? with
    | some (.directory slots) =>
      match slots.get (slotAt (height + 1) page) with
      | some next => setFrom page e height next tables
      | none =>
        if e = .empty then tables
        else
          setFrom page e height tables.size.toUInt32
            (link tables height id slots (slotAt (height + 1) page))
    | _ => tables

/-- The entries of a leaf that are not empty, with their pages. -/
def listed (entries : Vector Entry 512) (above : Nat) : List (Nat × Entry) :=
  (List.finRange 512).filterMap fun slot =>
    if entries.get slot = .empty then none
    else some (above * 2 ^ levelBits + slot, entries.get slot)

/-- The entries below the table with a number that are not empty, with their pages.  The pages of a
table are those whose bits above it are `above`. -/
def entriesFrom : (height : Nat) → (id : UInt32) → (above : Nat) → List (Nat × Entry)
  | 0, id, above =>
    match tables[id.toNat]? with
    | some (.leaf entries) => listed entries above
    | _ => []
  | height + 1, id, above =>
    match tables[id.toNat]? with
    | some (.leaf entries) => listed entries above
    | some (.directory slots) =>
      (List.finRange 512).flatMap fun slot =>
        match slots.get slot with
        | some next => entriesFrom height next (above * 2 ^ levelBits + slot)
        | none => []
    | none => []

end Arena

/-- A page table, given by its tables. -/
structure Arena where
  tables : Array Arena.Table

namespace Arena

/-- The page table that has only its root. -/
def new : Arena := ⟨#[.fresh 4]⟩

/-- The number of tables made so far, the root included. -/
def tableCount (a : Arena) : Nat := a.tables.size

/-- The entry of a page, empty if there is none. -/
def entry (a : Arena) (page : Nat) : Entry := entryFrom a.tables page 4 0

/-- Sets the entry of a page. -/
def set (a : Arena) (page : Nat) (e : Entry) : Arena := ⟨setFrom page e 4 0 a.tables⟩

/-- Empties the entry of a page and answers with what it was. -/
def clear (a : Arena) (page : Nat) : Entry × Arena :=
  let old := a.entry page
  (old, if old = .empty then a else a.set page .empty)

/-- The entries that are not empty, by ascending page number. -/
def entries (a : Arena) : List (Nat × Entry) := entriesFrom a.tables 4 0 0

/-- Drops every table but the root, and empties the root. -/
def reset (a : Arena) : Arena := ⟨(a.tables.take 1).setIfInBounds 0 (.fresh 4)⟩

end Arena

end VirtualMemory
