import VirtualMemory.Page.Entry
import VirtualMemory.Page.Index
import VirtualMemory.Slots

/-!
# Page tables

A page table is a tree of tables, five levels deep: the slots of the four upper levels hold
tables, and the slots of the lowest level hold entries.  A table is made when an entry below it
is first set.  `entry` reads the entry of a page, `set` and `clear` change it, `entries` lists
the entries that are not empty by ascending page number, and `tableCount` counts the tables.
-/

namespace VirtualMemory

/-- A table with the tables below it, `height` levels above the entries. -/
@[reducible] def Subtable : (height : Nat) → Type
  | 0 => Slots Entry
  | height + 1 => Slots (Subtable height)

namespace Subtable

/-- A table without entries or tables below it. -/
def empty : (height : Nat) → Subtable height
  | 0 => Slots.empty (α := Entry)
  | height + 1 => Slots.empty (α := Subtable height)

/-- The entry of a page. -/
def entry : (height : Nat) → Subtable height → (page : Nat) → Entry
  | 0, t, page => (Slots.get? (α := Entry) t (levelIndex 0 page)).getD .empty
  | height + 1, t, page =>
    match Slots.get? (α := Subtable height) t (levelIndex (height + 1) page) with
    | none => .empty
    | some below => entry height below page

/-- Sets the entry of a page.  Tables on the way are made where they are missing, unless the
entry is empty. -/
def set : (height : Nat) → Subtable height → (page : Nat) → Entry → Subtable height
  | 0, t, page, e =>
    if e = .empty then Slots.erase (α := Entry) t (levelIndex 0 page)
    else Slots.insert (α := Entry) t (levelIndex 0 page) e
  | height + 1, t, page, e =>
    let slot := levelIndex (height + 1) page
    match Slots.get? (α := Subtable height) t slot with
    | some below => Slots.insert (α := Subtable height) t slot (set height below page e)
    | none =>
      if e = .empty then t
      else Slots.insert (α := Subtable height) t slot (set height (empty height) page e)

/-- The entries that are not empty, with their pages.  The pages of a table are those whose bits
above it are `above`. -/
def entries : (height : Nat) → Subtable height → (above : Nat) → List (Nat × Entry)
  | 0, t, above =>
    (Slots.entries (α := Entry) t).map fun (slot, e) => (above * 2 ^ levelBits + slot, e)
  | height + 1, t, above =>
    (Slots.entries (α := Subtable height) t).flatMap fun (slot, below) =>
      entries height below (above * 2 ^ levelBits + slot)

/-- The number of tables, this one included. -/
def tableCount : (height : Nat) → Subtable height → Nat
  | 0, _ => 1
  | height + 1, t =>
    1 + ((Slots.entries (α := Subtable height) t).map fun e => tableCount height e.2).sum

end Subtable

/-- A page table, given by the table at its root. -/
structure PageTable where
  root : Subtable 4

namespace PageTable

/-- The page table that has only its root. -/
def empty : PageTable := ⟨Subtable.empty 4⟩

/-- The entry of a page, empty if there is none. -/
def entry (t : PageTable) (page : Nat) : Entry := t.root.entry 4 page

/-- Sets the entry of a page. -/
def set (t : PageTable) (page : Nat) (e : Entry) : PageTable := ⟨t.root.set 4 page e⟩

/-- Empties the entry of a page. -/
def clear (t : PageTable) (page : Nat) : PageTable := t.set page .empty

/-- The entries that are not empty, by ascending page number. -/
def entries (t : PageTable) : List (Nat × Entry) := t.root.entries 4 0

/-- The number of tables, the root included. -/
def tableCount (t : PageTable) : Nat := t.root.tableCount 4

end PageTable

end VirtualMemory
