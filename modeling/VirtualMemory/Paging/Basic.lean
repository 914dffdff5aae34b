import VirtualMemory.Page.Residency
import VirtualMemory.Page.Table
import VirtualMemory.Store.Bytes

/-!
# Paging state

What one address space knows of its pages: its page table and the list of its resident pages.
In identity mode both stay empty.  The operations here look at the state or change one entry;
they run on the state beside the world that holds the stores.
-/

namespace VirtualMemory

/-- The pages of an address space with configuration `c`. -/
structure Paging (c : Config) where
  table : PageTable
  residency : Residency

namespace Paging

variable {c : Config} {ω : Type}

/-- No page is mapped. -/
def empty (c : Config) : Paging c := ⟨.empty, .empty⟩

/-- The entry of a page. -/
def entry (p : Paging c) (page : Nat) : Entry := p.table.entry page

/-- Sets the entry of a page. -/
def setEntry (p : Paging c) (page : Nat) (e : Entry) : Paging c :=
  { p with table := p.table.set page e }

/-- Empties the entry of a page. -/
def clearEntry (p : Paging c) (page : Nat) : Paging c :=
  { p with table := p.table.clear page }

/-- Enters a page as the most recent resident one. -/
def enlist (p : Paging c) (page : Nat) : Paging c :=
  { p with residency := p.residency.enlist page }

/-- Strikes a page from the resident ones. -/
def unlist (p : Paging c) (page : Nat) : Paging c :=
  { p with residency := p.residency.remove page }

/-- Makes a page resident: its entry is set and it is the most recent resident page. -/
def install (p : Paging c) (page : Nat) (e : Entry) : Paging c := (p.setEntry page e).enlist page

/-- The number of tables of the page table; identity mode has no page table. -/
def tableCount? (p : Paging c) : Option Nat :=
  match c.mode with
  | .paged => some p.table.tableCount
  | .identity => none

/-- The entries that are not empty; identity mode has no page table. -/
def entries? (p : Paging c) : Option (List (Nat × Entry)) :=
  match c.mode with
  | .paged => some p.table.entries
  | .identity => none

/-! ### Operations on one entry -/

/-- The current entry of a page. -/
def lookEntry (page : Nat) : Op (Paging c × ω) Entry := Op.gets fun s => s.1.entry page

/-- Changes the paging state and leaves the stores alone. -/
def update (f : Paging c → Paging c) : Op (Paging c × ω) Unit := Op.onFirst (Op.modify f)

/-- Takes the oldest page out of the resident ones. -/
def takeVictim : Op (Paging c) Nat := fun p =>
  match p.residency.takeOldest with
  | .ok (page, rest) => ⟨.ok page, { p with residency := rest }, []⟩
  | .error e => ⟨.error e, p, []⟩

/-- Takes the oldest page out of the resident ones, beside the stores. -/
def findVictim : Op (Paging c × ω) Nat := Op.onFirst takeVictim

/-- Fails if a page number is not below the limit of the address space. -/
def checkPage (c : Config) (page : Nat) : Op (Paging c × ω) Unit :=
  if page < c.maxPages then pure () else Op.fail (.pageOutOfRange page)

/-- Sets the dirty flag of a page if it is resident. -/
def markDirty (page : Nat) : Op (Paging c × ω) Unit := do
  let e ← lookEntry page
  if e.isResident then update (fun p => p.setEntry page e.withDirty)

end Paging

end VirtualMemory
